import Taramandal.Lib.Run
import Taramandal.Studio.ProjectVault

/-! # Saved projects in the editor (`useProjects.js`)

The hook takes a snapshot of the editor when an operation is called; the operation runs when
those called before it are over, and what it came to is put in the editor. The snapshot is
the editor as of the last effect, not of the last edit. With it goes which content it is: how
often a project was put in the editor, or the editor made into a new one, and which project
that was. -/
namespace Taramandal.Studio.Projects

open Lib.Run Lib.ScriptValues Studio.VaultClient Studio.ProjectVault

def minCertifiableRateHz : Json := .num 10

/-- What an operation is given of the editor. -/
structure Snapshot where
  content : Content
  opened : ℕ
  project : Option String

/-- A call of the vault that waits for its turn. -/
inductive Call where
  | open (snap : Snapshot) (wanted : Option String)
  | retry (snap : Snapshot)
  | refresh
  | save (snap : Snapshot)
  | load (id : String)
  | create
  | remove (id : String)
  | restore (id versionId : String) (snap : Snapshot)

/-- What the designer asks for. -/
inductive Ask where
  | retry
  | refresh
  | save
  | load (id : String)
  | create
  | remove (id : String)
  | restore (id versionId : String)

def Ask.call (snap : Snapshot) : Ask → Call
  | .retry => .retry snap
  | .refresh => .refresh
  | .save => .save snap
  | .load id => .load id
  | .create => .create
  | .remove id => .remove id
  | .restore id versionId => .restore id versionId snap

/-- A tab of the Studio. -/
structure Tab where
  vault : Vault
  backend : Backend
  fresh : ℕ
  editor : Content
  /-- `live`: what a snapshot is taken of. -/
  live : Snapshot
  lastSaved : Option Content
  booted : Bool
  queue : List Call
  /-- The project the editor's content was last stored as or read from. -/
  held : Option (String × Record)
  opened : ℕ

/-- What happens while an operation runs, and what is drawn for it. -/
structure Env where
  slots : List Slot
  instants : List Instant
  newId : String
  sceneId : String

inductive Label where
  | edit (content : Content)
  | effect
  | ask (a : Ask)
  | run (env : Env)

/-- The page is loaded: the vault is being opened with what is on screen. -/
def Tab.initial (backend : Backend) (fresh : ℕ) (content : Content) (wanted : Option String) :
    Tab :=
  let editor := { content with name := defaultProjectName }
  { vault := { status := .loading, projects := [], activeId := none, error := none, base := none }
    backend, fresh, editor
    live := ⟨editor, 0, none⟩
    lastSaved := none
    booted := false
    queue := [.open ⟨editor, 0, none⟩ wanted]
    held := none
    opened := 0 }

def Call.op (env : Env) : Call → Op Result
  | .open snap wanted => openVault snap.content wanted
  | .retry snap => ProjectVault.retry snap.content
  | .refresh => ProjectVault.refresh
  | .save snap => ProjectVault.save snap.content
  | .load id => ProjectVault.load id
  | .create => ProjectVault.create env.sceneId
  | .remove id => ProjectVault.remove id
  | .restore id versionId snap => ProjectVault.restore id versionId snap.content

def Tab.world (s : Tab) (env : Env) : World where
  vault := s.vault
  backend := s.backend
  slots := env.slots
  instants := env.instants
  newId := env.newId
  fresh := s.fresh
  log := []

/-- `project.scenes?.length`. -/
def hasItems : Json → Bool
  | .arr items => !items.isEmpty
  | .str s => s ≠ ""
  | .obj entries =>
    match Lib.Dict.find entries "length" with
    | some (.num x) => x ≠ 0
    | some (.str s) => s ≠ ""
    | some (.bool b) => b
    | some (.arr _) | some (.obj _) => true
    | _ => false
  | _ => false

/-- `normalized`: what of a project is put in the editor. -/
def normalized (fresh : ℕ) (sceneId : String) (c : Content) : Content :=
  { c with
    doc :=
      { scenes := if hasItems c.doc.scenes.json then c.doc.scenes
          else Val.parse fresh (.arr [firstScene sceneId])
        rate := c.doc.rate.orElse (Val.parse fresh minCertifiableRateHz)
        homeLat := c.doc.homeLat.orElse (Val.parse fresh defaultLat)
        homeLon := c.doc.homeLon.orElse (Val.parse fresh defaultLon)
        dronesList := if hasItems c.doc.dronesList.json then c.doc.dronesList
          else Val.parse fresh (defaultFleet 6)
        ledTrack := if c.doc.ledTrack.json.isArray then c.doc.ledTrack
          else Val.parse fresh (.arr [])
        pacing := c.doc.pacing.orElse (Val.parse fresh (.str "standard")) } }

def Tab.settle (s : Tab) (env : Env) (res : Result) : Tab :=
  match res.editor, res.name with
  | some project, _ =>
    let content := normalized s.fresh env.sceneId project.content
    { s with editor := content, lastSaved := some content, fresh := s.fresh + 1 }
  | none, some name =>
    if name = "" then s else { s with editor := { s.editor with name } }
  | none, none => s

/-- `result?.name || name`. -/
def Result.nameOr (res : Result) (name : String) : String :=
  match res.name with
  | some n => if n = "" then name else n
  | none => name

/-- What the hook does once an operation is over, besides settling. -/
def Tab.finish (s : Tab) (res : Result) : Call → Tab
  | .open snap _ =>
    { s with
      lastSaved := if res.editor.isSome then s.lastSaved else some snap.content
      booted := true }
  | .save snap =>
    { s with lastSaved := some { snap.content with name := Result.nameOr res snap.content.name } }
  | _ => s

/-- Another content is in the editor, or what is there was made into a new project. -/
def reopens (call : Call) (log : List Event) : Bool :=
  match call with
  | .save _ => log.any fun
    | .created _ _ answered => answered
    | _ => false
  | _ => (latest log).isSome

/-- The first operation of the queue is carried out, and the hook goes on with its result. -/
def Tab.runCall (s : Tab) (call : Call) (rest : List Call) (env : Env) : Tab × List Event :=
  let (res, w) := guarded (call.op env) (s.world env)
  ((({ s with
      vault := w.vault
      backend := w.backend
      fresh := w.fresh
      queue := rest
      held := latest w.log <|> s.held
      opened := if reopens call w.log then s.opened + 1 else s.opened } : Tab).settle env
        res).finish res call, w.log)

def step : System Tab Label Event
  | s, .edit content => some ({ s with editor := content }, [])
  | s, .effect => some ({ s with live := ⟨s.editor, s.opened, s.held.map Prod.fst⟩ }, [])
  | s, .ask a => some ({ s with queue := s.queue ++ [a.call s.live] }, [])
  | s, .run env =>
    match s.queue with
    | [] => none
    | call :: rest => some (s.runCall call rest env)

lemma settle_finish (s : Tab) (env : Env) (res : Result) (call : Call) :
    ∃ editor lastSaved booted fresh,
      (s.settle env res).finish res call = { s with editor, lastSaved, booted, fresh } := by
  have hsettle : ∃ editor lastSaved fresh,
      s.settle env res = { s with editor, lastSaved, fresh } := by
    unfold Tab.settle
    split
    · exact ⟨_, _, _, rfl⟩
    · split
      · exact ⟨_, _, _, rfl⟩
      · exact ⟨_, _, _, rfl⟩
    · exact ⟨_, _, _, rfl⟩
  obtain ⟨editor, lastSaved, fresh, hsettle⟩ := hsettle
  rw [hsettle]
  cases call <;> exact ⟨_, _, _, _, rfl⟩

def Tab.isDirty (s : Tab) : Bool :=
  match s.lastSaved with
  | none => false
  | some saved =>
    s.booted && (s.editor.name ≠ saved.name || s.editor.doc ≠ saved.doc ||
      s.editor.choreoData ≠ saved.choreoData || s.editor.validation ≠ saved.validation)

def sceneOf (identity : ℕ) (name : String) : Content where
  name := "Untitled Show"
  doc :=
    { scenes := ⟨identity, .arr [.obj [("name", .str name)]]⟩
      rate := ⟨0, .num 10⟩
      homeLat := ⟨0, .num 12⟩
      homeLon := ⟨0, .num 77⟩
      dronesList := ⟨identity, .arr []⟩
      ledTrack := ⟨identity, .arr []⟩
      pacing := ⟨0, .str "standard"⟩ }
  choreoData := Val.null
  validation := Val.null

/-- A vault with two projects, at their third and their seventh revision. -/
def twoProjects : Backend :=
  [("diwali", { Backend.record (toWire ⟨sceneOf 1 "lamps", []⟩) 3 with name := "Diwali" }),
    ("holi", { Backend.record (toWire ⟨sceneOf 1 "colours", []⟩) 7 with name := "Holi" })]

def calm : Env := ⟨[], [⟨1, "1970-01-01T00:00:00.001Z"⟩], "proj-1", "scene-1"⟩

end Taramandal.Studio.Projects
