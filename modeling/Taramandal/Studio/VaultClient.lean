import Taramandal.Lib.Hoare
import Taramandal.Lib.ScriptValues
import Taramandal.Studio.ProjectStore

/-! # The Project Vault's client (`projectVault.js`, `projectVersions.js`)

A project as the editor holds it and as the backend stores it, the backend's side of the
requests (`project_api.py`), and one function for each of them. What other clients do, and
whether a request's answer is lost, is said beforehand, request by request. -/
namespace Taramandal.Studio.VaultClient

open Lib.Dict Lib.Hoare Lib.ScriptValues Core.Safety Core.Values

/-! ## Projects -/

def defaultProjectId : String := "default-proj"

def defaultProjectName : String := "Untitled Show"

def maxNameLength : ℕ := 200

def maxVersions : ℕ := 20

/-- What the designer edits (`FIELDS`). A field that is missing is null. -/
structure Doc (α : Type) where
  scenes : α
  rate : α
  homeLat : α
  homeLon : α
  dronesList : α
  ledTrack : α
  pacing : α
  deriving DecidableEq

def Doc.map {α β : Type} (f : α → β) (d : Doc α) : Doc β where
  scenes := f d.scenes
  rate := f d.rate
  homeLat := f d.homeLat
  homeLon := f d.homeLon
  dronesList := f d.dronesList
  ledTrack := f d.ledTrack
  pacing := f d.pacing

/-- The show in the editor. -/
@[ext] structure Content where
  name : String
  doc : Doc Val
  choreoData : Val
  validation : Val
  deriving DecidableEq

/-- An entry of the save history. -/
structure Version where
  id : String
  savedAt : String
  label : String
  doc : Doc Json
  deriving DecidableEq

/-- A project about to be sent. -/
structure Draft where
  content : Content
  versions : List Version

/-- A project as the list holds it; from the list alone it has no `choreoData`. -/
structure Project where
  id : String
  revision : ℕ
  content : Content
  versions : List Version
  hasShow : Bool

/-- The body of a request. -/
structure Wire where
  name : String
  document : Doc Json
  showData : Json
  validation : Json
  versions : List Version

/-- A project as the backend stores it. -/
structure Record where
  revision : ℕ
  name : String
  document : Doc Json
  showData : Json
  validation : Json
  versions : List Version
  deriving DecidableEq

/-- A reading of the clock, and the same as a timestamp. -/
structure Instant where
  now : ℕ
  iso : String

def pick (d : Doc Json) : Doc Json :=
  { d with
    ledTrack := d.ledTrack.orElse (.arr [])
    pacing := d.pacing.orElse (.str "standard") }

def Doc.picked (d : Doc Val) : Doc Json := pick (d.map Val.json)

/-- `addVersion` would leave the history as it is. -/
def isNewest (versions : List Version) (state : Doc Val) : Bool :=
  match versions with
  | [] => false
  | v :: _ => pick v.doc = state.picked

def addVersion (d : Draft) (state : Doc Val) (now : Instant) (label : String) : Draft :=
  if isNewest d.versions state then d
  else
    { d with
      versions :=
        ({ id := "v-" ++ toString now.now ++ "-" ++ toString d.versions.length
           savedAt := now.iso, label, doc := state.picked } :: d.versions).take maxVersions }

def hasVersionOf (versions : List Version) (state : Doc Val) : Bool :=
  versions.any fun v => pick v.doc = state.picked

def findVersion (versions : List Version) (versionId : String) : Option Version :=
  versions.find? fun v => v.id = versionId

def restoreVersion (fresh : ℕ) (d : Draft) (v : Version) : Draft :=
  { d with
    content :=
      { d.content with
        doc := (pick v.doc).map (Val.parse fresh)
        choreoData := Val.null
        validation := Val.null } }

/-- What `String.prototype.trim` takes off. -/
def isJsSpace (c : Char) : Bool :=
  [0x9, 0xA, 0xB, 0xC, 0xD, 0x20, 0xA0, 0x1680, 0x2028, 0x2029, 0x202F, 0x205F, 0x3000,
    0xFEFF].contains c.toNat || (0x2000 ≤ c.toNat && c.toNat ≤ 0x200A)

def trim (s : String) : String :=
  String.ofList (((s.toList.dropWhile isJsSpace).reverse.dropWhile isJsSpace).reverse)

/-- The characters whose UTF-16 units are among the first `n`. -/
def takeUnits : ℕ → List Char → List Char
  | _, [] => []
  | n, c :: cs =>
    let units := if c.toNat < 0x10000 then 1 else 2
    if units ≤ n then c :: takeUnits (n - units) cs else []

/-- `s.slice(0, n)`. -/
def slice (s : String) (n : ℕ) : String := String.ofList (takeUnits n s.toList)

def wireName (name : String) : String :=
  slice (if trim name = "" then defaultProjectName else trim name) maxNameLength

def arrayOr (v : Json) : Json := if v.isArray then v else .arr []

def defaultLat : Json := .num (129716 / 10000)

def defaultLon : Json := .num (775946 / 10000)

def wireDoc (d : Doc Json) : Doc Json where
  scenes := arrayOr d.scenes
  rate := d.rate.orElse (.num 4)
  homeLat := d.homeLat.orElse defaultLat
  homeLon := d.homeLon.orElse defaultLon
  dronesList := arrayOr d.dronesList
  ledTrack := arrayOr d.ledTrack
  pacing := d.pacing.orElse (.str "standard")

def validVersion (v : Version) : Bool := v.id ≠ "" && v.savedAt ≠ ""

def toWire (d : Draft) : Wire where
  name := wireName d.content.name
  document := wireDoc (d.content.doc.map Val.json)
  showData := d.content.choreoData.json
  validation := d.content.validation.json
  versions := (d.versions.filter validVersion).take maxVersions

/-- `fromWire`, of an answer that leaves the show out or has it. -/
def fromWire (fresh : ℕ) (id : String) (r : Record) (withShow : Bool) : Project where
  id := id
  revision := r.revision
  content :=
    { name := r.name
      doc := r.document.map (Val.parse fresh)
      choreoData := Val.parse fresh (if withShow then r.showData else .null)
      validation := Val.parse fresh r.validation }
  versions := r.versions
  hasShow := r.showData ≠ .null

/-! ## The backend -/

abbrev Backend := Dict String Record

inductive VaultError where
  | unreachable
  | conflict
  | notFound (id : String)
  | exists (id : String)
  | failed (status : ℕ) (message : String)
  /-- An error that is no `VaultError`. -/
  | script (message : String)

def VaultError.offline : VaultError → Bool
  | .unreachable => true
  | .failed status _ => status = 0 || 500 ≤ status
  | _ => false

def VaultError.describe : VaultError → String
  | .unreachable => "The Project Vault cannot be reached. Is the Studio backend running?"
  | .conflict => "This project was saved somewhere else since it was opened here. " ++
    "Open it again from the Project Vault to continue from the newer copy."
  | .notFound _ => "That project is no longer in the Project Vault."
  | .exists id => "Project " ++ id ++ " already exists."
  | .failed _ message => message
  | .script message => "Project Vault error: " ++ message

mutual

/-- What `json.loads` makes of a value the browser sent. -/
def toPy : Json → PyVal ℚ
  | .null => .none
  | .bool b => .bool b
  | .num x => if x.den = 1 ∧ |x| < 10 ^ 21 then .int x.num else .float x
  | .str s => .str s
  | .arr items => .list (itemsToPy items)
  | .obj entries => .dict (entriesToPy entries)

def itemsToPy : List Json → List (PyVal ℚ)
  | [] => []
  | v :: vs => toPy v :: itemsToPy vs

def entriesToPy : List (String × Json) → List (String × PyVal ℚ)
  | [] => []
  | (k, v) :: es => (k, toPy v) :: entriesToPy es

end

/-- What the store keeps of a show, and what it says of one it turns down. -/
def conformingShow : Json → Json × Option String
  | .obj entries =>
    match ProjectStore.conformingShow (some (entriesToPy entries)) with
    | (some _, _) => (.obj (assignAll [("version", .num ProjectStore.showFormatVersion)] entries),
      none)
    | (none, warnings) => (.null, warnings.head?.map ProjectStore.Warning.message)
  | _ => (.null, none)

def isDict : Json → Bool
  | .obj _ => true
  | _ => false

def dictOrNull (v : Json) : Bool := v = .null || isDict v

/-- `list[dict]`, of at most so many. -/
def isDictList (v : Json) (limit : Option ℕ) : Bool :=
  match v with
  | .arr items => items.all isDict && limit.all fun n => items.length ≤ n
  | _ => false

/-- `ProjectBody`. -/
def acceptable (w : Wire) : Bool :=
  1 ≤ w.name.length && w.name.length ≤ 200 &&
    isDictList w.document.scenes none && isDictList w.document.dronesList (some maxFleetSize) &&
    dictOrNull w.showData && dictOrNull w.validation &&
    w.versions.length ≤ maxVersions && w.versions.all validVersion

namespace Backend

def refused : VaultError := .failed 422 "The Project Vault request failed (422)."

/-- `_dir`. -/
def checkId (id : String) : Except VaultError Unit :=
  (ProjectStore.dir id).mapError fun e => .failed 422 e.text

def record (w : Wire) (revision : ℕ) : Record where
  revision := revision
  name := w.name
  document := w.document
  showData := (conformingShow w.showData).1
  validation := w.validation
  versions := w.versions

/-- `GET /api/projects/{id}`. -/
def get (b : Backend) (id : String) : Except VaultError Record := do
  checkId id
  match find b id with
  | none => .error (.notFound id)
  | some r => .ok r

/-- `POST /api/projects`. -/
def create (b : Backend) (w : Wire) (id : String) : Except VaultError (Record × Backend) := do
  if !acceptable w then .error refused
  else
    checkId id
    if has b id then .error (.exists id)
    else .ok (record w 1, assign b id (record w 1))

/-- `PUT /api/projects/{id}`. -/
def save (b : Backend) (id : String) (w : Wire) (base : ℕ) :
    Except VaultError (Record × Backend) := do
  if !acceptable w || base = 0 then .error refused
  else
    let r ← get b id
    if r.revision ≠ base then .error .conflict
    else .ok (record w (base + 1), assign b id (record w (base + 1)))

/-- `DELETE /api/projects/{id}`. -/
def delete (b : Backend) (id : String) : Except VaultError (Unit × Backend) :=
  (get b id).map fun _ => ((), remove b id)

end Backend

/-- What another client asks of the backend. -/
inductive Other where
  | create (id : String) (w : Wire)
  | save (id : String) (w : Wire) (base : ℕ)
  | delete (id : String)

def Other.apply (b : Backend) : Other → Backend
  | .create id w => ((Backend.create b w id).toOption.map Prod.snd).getD b
  | .save id w base => ((Backend.save b id w base).toOption.map Prod.snd).getD b
  | .delete id => ((Backend.delete b id).toOption.map Prod.snd).getD b

/-! ## Requests -/

/-- Why no answer came, or none of use. -/
inductive Trouble where
  | unreachable
  | failed (status : ℕ) (message : String)

def Trouble.error : Trouble → VaultError
  | .unreachable => .unreachable
  | .failed status message => .failed status message

structure Fault where
  trouble : Trouble
  /-- The backend had carried out the request. -/
  applied : Bool

/-- What happens to a request: others come first, and it may fail. -/
structure Slot where
  others : List Other
  fault : Option Fault

/-- What the backend did for this client. -/
inductive Event where
  | served (id : String) (r : Record)
  | created (id : String) (r : Record) (answered : Bool)
  | replaced (id : String) (base : ℕ) (r : Record) (answered : Bool)
  | deleted (id : String) (answered : Bool)

def Event.told : Event → Option (String × Record)
  | .served id r | .created id r true | .replaced id _ r true => some (id, r)
  | _ => none

def latest (log : List Event) : Option (String × Record) := log.reverse.findSome? Event.told

inductive Status where
  | loading | ready | offline
  deriving DecidableEq

/-- The vault's state, and `base`: what the editor's content is based on. -/
structure Vault where
  status : Status
  projects : List Project
  activeId : Option String
  error : Option String
  base : Option (String × ℕ)

/-- What an operation works on. -/
structure World where
  vault : Vault
  backend : Backend
  /-- What will happen to its requests, the readings of the clock and the id that is drawn. -/
  slots : List Slot
  instants : List Instant
  newId : String
  /-- No value has this identity or a greater one. -/
  fresh : ℕ
  log : List Event

abbrev Op (α : Type) := Action World VaultError α

variable {α : Type}

def World.slot (w : World) : Slot := w.slots.headD ⟨[], none⟩

def World.reached (w : World) : Backend := w.slot.others.foldl Other.apply w.backend

def World.served (w : World) (b : Backend) (events : List Event) : World :=
  { w with backend := b, slots := w.slots.tail, log := w.log ++ events }

/-- One request: others come first, then the backend answers, if nothing happens to it. -/
def request (serve : Backend → Except VaultError (α × Backend)) (event : α → Bool → List Event) :
    Op α := do
  let w ← get
  match w.slot.fault, serve w.reached with
  | none, .ok (a, b) =>
    set (w.served b (event a true))
    return a
  | none, .error e =>
    set (w.served w.reached [])
    throw e
  | some fault, .ok (a, b) =>
    set (if fault.applied then w.served b (event a false) else w.served w.reached [])
    throw fault.trouble.error
  | some fault, .error _ =>
    set (w.served w.reached [])
    throw fault.trouble.error

/-- New identities, for the values of so many projects. -/
def draw (n : ℕ) : Op ℕ := do
  let w ← get
  set { w with fresh := w.fresh + n }
  return w.fresh

/-- `now()`. -/
def clock : Op Instant := do
  let w ← get
  set { w with instants := w.instants.tail }
  return w.instants.headD ⟨0, "1970-01-01T00:00:00.000Z"⟩

/-- What a create or a save is answered with. -/
structure Response where
  id : String
  record : Record
  /-- What is said of a show that was turned down. -/
  warning : Option String

namespace Client

def list : Op (List Project) := do
  let b ← request (fun b => .ok (b, b)) fun _ _ => []
  let fresh ← draw b.length
  return b.zipIdx.map fun e => fromWire (fresh + e.2) e.1.1 e.1.2 false

def get (id : String) : Op Project := do
  let r ← request (fun b => (Backend.get b id).map (·, b)) fun r answered =>
    if answered then [.served id r] else []
  let fresh ← draw 1
  return fromWire fresh id r true

def create (draft : Draft) (id : Option String) : Op Response := do
  let w ← MonadState.get
  let id := id.getD w.newId
  let r ← request (fun b => Backend.create b (toWire draft) id) fun r answered =>
    [.created id r answered]
  return ⟨id, r, (conformingShow draft.content.choreoData.json).2⟩

def save (id : String) (draft : Draft) (base : ℕ) : Op Response := do
  let r ← request (fun b => Backend.save b id (toWire draft) base) fun r answered =>
    [.replaced id base r answered]
  return ⟨id, r, (conformingShow draft.content.choreoData.json).2⟩

def remove (id : String) : Op Unit :=
  request (fun b => Backend.delete b id) fun _ answered => [.deleted id answered]

end Client

end Taramandal.Studio.VaultClient
