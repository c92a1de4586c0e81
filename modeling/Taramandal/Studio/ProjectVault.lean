import Taramandal.Studio.VaultClient

/-! # The Project Vault in the browser (`createProjectVault`)

An operation is given what it needs of the editor and comes to what is to be put there.
Operations run one at a time; while one runs, it alone changes the vault's state, so it can
be taken in one piece, with what others do to the backend said for each of its requests. An
operation never rejects: what it raised ends up in the state. -/
namespace Taramandal.Studio.ProjectVault

open Lib.Dict Lib.Hoare Lib.ScriptValues Studio.VaultClient

/-- `{ editor, name }`. -/
structure Result where
  editor : Option Project
  name : Option String

def nothing : Result := ⟨none, none⟩

def opened (p : Project) : Result := ⟨some p, some p.content.name⟩

/-- `find`. -/
def entry (v : Vault) (id : String) : Option Project := v.projects.find? fun p => p.id = id

def activeEntry (v : Vault) : Option Project := v.activeId.bind (entry v)

def put (v : Vault) (project : Project) : List Project :=
  if (entry v project.id).isSome then
    v.projects.map fun p => if p.id = project.id then project else p
  else v.projects ++ [project]

def vault : Op Vault := do
  let w ← get
  return w.vault

/-- `set`. -/
def setVault (f : Vault → Vault) : Op Unit := modify fun w => { w with vault := f w.vault }

def activate (project : Project) (error : Option String) : Op Unit :=
  setVault fun v =>
    { base := some (project.id, project.revision)
      status := .ready
      projects := put v project
      activeId := some project.id
      error }

def stored (res : Response) (sent : Content) : Op Project := do
  let fresh ← draw 1
  let project := fromWire fresh res.id res.record false
  return { project with
    content :=
      { project.content with
        choreoData := if project.hasShow then sent.choreoData else Val.null
        validation := sent.validation } }

/-- `connect`, in a browser that has no projects of its own from before the vault. -/
def connect : Op (List Project) := Client.list

def createFrom (editor : Content) (versions : List Version) (name : String) (id : Option String)
    (note : Option String) : Op Project := do
  let now ← clock
  let draft := addVersion ⟨{ editor with name }, versions⟩ editor.doc now "Saved"
  let res ← Client.create draft id
  let project ← stored res editor
  activate project (note <|> res.warning)
  return project

/-- Puts one of the listed projects in the editor: the one wanted, else the first. -/
def openListed (projects : List Project) (wanted : Option String) : Op Result := do
  match (projects.find? fun p => some p.id = wanted) <|> projects.head? with
  | none => throw (.script "Cannot read properties of undefined (reading 'id')")
  | some target =>
    let project ← Client.get target.id
    setVault fun v => { v with projects }
    activate project none
    return opened project

/-- `open`. -/
def openVault (editor : Content) (wanted : Option String) : Op Result := do
  setVault fun v => { v with status := .loading, error := none }
  let projects ← connect
  if projects.isEmpty then
    let created ← attempt
      (Client.create ⟨{ editor with name := defaultProjectName }, []⟩ (some defaultProjectId))
    match created with
    | .ok res =>
      let project ← stored res editor
      activate project none
      return nothing
    | .error (.exists _) =>
      let projects ← Client.list
      openListed projects wanted
    | .error e => throw e
  else openListed projects wanted

def nameOr (name : String) : String := if name = "" then defaultProjectName else name

def connected (projects : List Project) : Op Unit :=
  setVault fun _ => { base := none, status := .ready, projects, activeId := none, error := none }

def retry (editor : Content) : Op Result := do
  setVault fun v => { v with error := none }
  let projects ← connect
  if projects.isEmpty then
    let _ ← createFrom editor [] (nameOr editor.name) (some defaultProjectId) none
    return nothing
  else
    connected projects
    return nothing

def refresh : Op Result := do
  let v ← vault
  if v.status ≠ .ready then return nothing
  else
    let listed ← Client.list
    setVault fun v =>
      { v with
        projects := listed.map fun p =>
          match activeEntry v with
          | some o => if p.id = o.id then o else p
          | none => p }
    return nothing

/-- What a save replaces: the open project, on top of what the editor's content is based on. -/
def target (v : Vault) : Option (Project × ℕ) :=
  match activeEntry v, v.base with
  | some current, some base => if base.1 = current.id then some (current, base.2) else none
  | _, _ => none

def isUnchanged (current : Project) (editor : Content) : Bool :=
  isNewest current.versions editor.doc && current.content.name = editor.name &&
    current.content.choreoData = editor.choreoData &&
    current.content.validation = editor.validation &&
    current.content.doc.picked = editor.doc.picked

def conflictNote (name : String) : String :=
  "\"" ++ name ++ "\" was saved somewhere else since it was opened here, so your edits were " ++
    "saved as a separate project, \"" ++ name ++
    " (conflicted copy)\". Neither copy was overwritten."

def deletedNote (name : String) : String :=
  "\"" ++ name ++ "\" was deleted from the Project Vault somewhere else; it was saved again " ++
    "as a new project."

def saveOver (editor : Content) (current : Project) (revision : ℕ) : Op Result := do
  let now ← clock
  let next := addVersion ⟨editor, current.versions⟩ editor.doc now "Saved"
  if isUnchanged current editor then return nothing
  else
    let saved ← attempt (Client.save current.id next revision)
    match saved with
    | .ok res =>
      let project ← stored res editor
      activate project res.warning
      return nothing
    | .error .conflict =>
      let copy ← createFrom editor next.versions
        (slice (nameOr editor.name ++ " (conflicted copy)") maxNameLength) none
        (some (conflictNote (nameOr editor.name)))
      return ⟨none, some copy.content.name⟩
    | .error (.notFound _) =>
      setVault fun v => { v with projects := v.projects.filter fun p => p.id ≠ current.id }
      let _ ← createFrom editor next.versions (nameOr editor.name) none
        (some (deletedNote (nameOr editor.name)))
      return nothing
    | .error e => throw e

/-- A save finds a vault that is not ready: it connects first. -/
def reconnect : Op Unit := do
  let v ← vault
  if v.status = .ready then return ()
  else
    let projects ← connect
    connected projects

def save (editor : Content) : Op Result := do
  reconnect
  let v ← vault
  match target v with
  | none =>
    let _ ← createFrom editor [] (nameOr editor.name) none none
    return nothing
  | some (current, revision) => saveOver editor current revision

def dropMissing (id : String) : VaultError → Op Unit
  | .notFound _ => setVault fun v => { v with projects := v.projects.filter fun p => p.id ≠ id }
  | _ => pure ()

def load (id : String) : Op Result := do
  let got ← attempt (Client.get id)
  match got with
  | .ok project =>
    activate project none
    return opened project
  | .error e =>
    dropMissing id e
    throw e

/-- The decimals of `n`, two of them at least. -/
def pad2 (n : ℕ) : String := if n < 10 then "0" ++ toString n else toString n

def palette : List String :=
  ["#38bdf8", "#10b981", "#f59e0b", "#ec4899", "#8b5cf6", "#3b82f6", "#f43f5e", "#22c55e",
    "#e11d48", "#2563eb"]

def makeDrone (id : ℕ) : Json :=
  .obj [("id", .num id), ("name", .str ("Drone " ++ pad2 id)), ("hoverAlt", .num (2 + id * 7 / 10)),
    ("spawnOffset", .num (id * 22 / 10)), ("colorHex", .str (palette.getD (id % 10) ""))]

def defaultFleet (n : ℕ) : Json := .arr ((List.range n).map makeDrone)

/-- `makeScene({ name: 'Scene 1' })`, under the id that is drawn for it. -/
def firstScene (sceneId : String) : Json :=
  .obj [("id", .str sceneId), ("name", .str "Scene 1"), ("shapeType", .str "parametric"),
    ("shapePayload", .str "circle"), ("scale", .num 1), ("holdDurationSeconds", .num 6),
    ("transitionDurationSeconds", .num 4), ("transitLayerGapMeters", .num 2)]

def blankProject (fresh : ℕ) (sceneId : String) : Content where
  name := "New Show"
  doc :=
    { scenes := Val.parse fresh (.arr [firstScene sceneId])
      rate := Val.parse fresh (.num 4)
      homeLat := Val.parse fresh defaultLat
      homeLon := Val.parse fresh defaultLon
      dronesList := Val.parse fresh (defaultFleet 6)
      ledTrack := Val.parse fresh (.arr [])
      pacing := Val.parse fresh (.str "standard") }
  choreoData := Val.null
  validation := Val.null

def create (sceneId : String) : Op Result := do
  let fresh ← draw 1
  let blank := blankProject fresh sceneId
  let res ← Client.create ⟨blank, []⟩ none
  let project ← stored res blank
  activate project none
  return opened project

/-- The project is deleted; deleting the open one moves the editor somewhere valid. -/
def removed (id : String) : Op Result := do
  let v ← vault
  let remaining := v.projects.filter fun p => p.id ≠ id
  setVault fun v => { v with projects := remaining, error := none }
  if v.activeId ≠ some id then return nothing
  else
    match remaining with
    | [] => throw (.script "Cannot read properties of undefined (reading 'id')")
    | next :: _ =>
      let project ← Client.get next.id
      activate project none
      return opened project

def remove (id : String) : Op Result := do
  let v ← vault
  if v.projects.length ≤ 1 ∨ entry v id = none then return nothing
  else
    let gone ← attempt (Client.remove id)
    match gone with
    | .ok _ => removed id
    | .error (.notFound _) => removed id
    | .error e => throw e

/-- The project is open, and the editor's content is based on it. -/
def isOpen (v : Vault) (id : String) : Option ℕ :=
  match v.base with
  | some (baseId, revision) => if v.activeId = some id ∧ baseId = id then some revision else none
  | none => none

/-- The project, with the state that is about to be replaced in its history. -/
def keepCurrent (listed : Project) (current : Doc Val) : Op Draft :=
  if hasVersionOf listed.versions current then return ⟨listed.content, listed.versions⟩
  else do
    let now ← clock
    return addVersion ⟨listed.content, listed.versions⟩ current now "Before restore"

def restoreTo (listed : Project) (version : Version) (editor : Content) : Op Result := do
  let v ← vault
  let kept ← keepCurrent listed
    (if (isOpen v listed.id).isSome then editor.doc else listed.content.doc)
  let fresh ← draw 1
  let restored := restoreVersion fresh kept version
  let res ← Client.save listed.id restored ((isOpen v listed.id).getD listed.revision)
  let project ← stored res restored.content
  activate project none
  return opened project

def restore (id versionId : String) (editor : Content) : Op Result := do
  let v ← vault
  match (entry v id).bind fun listed => (findVersion listed.versions versionId).map (listed, ·) with
  | none => return nothing
  | some (listed, version) => restoreTo listed version editor

def failedWith (e : VaultError) (v : Vault) : Vault :=
  { v with
    error := some e.describe
    status := if e.offline ∨ v.status = .loading then .offline else v.status }

def guarded (op : Op Result) (w : World) : Result × World :=
  match outcome op w with
  | (.ok r, w) => (r, w)
  | (.error e, w) => (nothing, { w with vault := failedWith e w.vault })

end Taramandal.Studio.ProjectVault
