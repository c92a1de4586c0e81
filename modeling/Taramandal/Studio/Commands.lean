import Taramandal.Lib.Dict
import Taramandal.Lib.Run
import Taramandal.Lib.ScriptValues
import Taramandal.Studio.Sequencer

/-! # Commands on the document (`commands.js`, `fleetCommands.js`)

A command is data, and its reducer says what it does to the scenes or to the fleet. Its arguments
can be any values, so that what they are taken for as an index, a key or a number is part of the
model; how a text is read as a number and what an object reads as is left to the host. -/
namespace Taramandal.Studio.Commands

open Lib.Dict Lib.ScriptValues Studio.Layout
open Studio.Sequencer (inherited)

/-! ## Values -/

/-- What a field or an argument holds; an object is its identity. Equality is `Object.is`. -/
inductive Value where
  | undefined
  | null
  | bool (b : Bool)
  | num (x : Number)
  | minusZero
  | str (s : String)
  | ref (id : ℕ)
  deriving DecidableEq

/-- The conversions of the language at the time of a command, and what an inherited member
returns when it is called on a value (`none` where it throws). -/
structure Host where
  textNumber : String → Number
  numberText : Number → String
  refText : ℕ → String
  add : Number → Number → Number
  inheritedCall : String → Value → Option Value

namespace Value

def nullish (v : Value) : Prop := v = .undefined ∨ v = .null
  deriving Decidable

def plain : Value → Value
  | .minusZero => .num (.fin 0)
  | v => v

/-- `a === b`. -/
def strictEq (a b : Value) : Prop := a.plain = b.plain ∧ a.plain ≠ .num .nan
  deriving Decidable

variable (host : Host)

/-- `String(v)`, and the key that `v` is as an index. -/
def text : Value → String
  | .undefined => "undefined"
  | .null => "null"
  | .bool b => toString b
  | .num x => host.numberText x
  | .minusZero => "0"
  | .str s => s
  | .ref id => host.refText id

/-- `Number(v)`. -/
def toNumber : Value → Number
  | .undefined => .nan
  | .null => .fin 0
  | .bool b => .fin (if b then 1 else 0)
  | .num x => x
  | .minusZero => .fin 0
  | .str s => host.textNumber s
  | .ref id => host.textNumber (host.refText id)

def isText : Value → Bool
  | .str _ | .ref _ => true
  | _ => false

/-- `a + b`. -/
def plus (a b : Value) : Value :=
  if a.isText || b.isText then .str (a.text host ++ b.text host)
  else .num (host.add (a.toNumber host) (b.toNumber host))

/-- `v < 0 || v >= length`, which no comparison with `NaN` is. -/
def outside (v : Value) (length : ℕ) : Bool :=
  match v.toNumber host with
  | .nan => false
  | .inf _ => true
  | .fin x => x < 0 || (length : ℚ) ≤ x

/-- `v` as an index is the element `k`. -/
def denotes (v : Value) (k : ℕ) : Prop :=
  match v with
  | .num x => x = .fin k
  | v => v.text host = toString k

instance (v : Value) (k : ℕ) : Decidable (v.denotes host k) := by
  unfold denotes
  split <;> infer_instance

/-- Which of so many elements `copy[v]` is. -/
def place (v : Value) (length : ℕ) : Option ℕ :=
  (List.range length).find? fun k => v.denotes host k

/-- Where `splice` starts, if `v` is not outside. -/
def spliceStart (v : Value) : ℕ :=
  match v.toNumber host with
  | .fin x => ⌊x⌋.toNat
  | _ => 0

def isFinite : Value → Bool
  | .num (.fin _) | .minusZero => true
  | _ => false

end Value

abbrev Scene := Dict String Value

/-- `record[k]`: what every object inherits is an object that is told apart by its name. -/
def read (fields : Dict String Value) (k : String) : Value :=
  (find fields k).getD (if k ∈ inherited then .ref (inherited.idxOf k) else .undefined)

namespace Scene

def id (s : Scene) : Value := read s "id"

end Scene

structure Drone where
  id : ℚ
  fields : Dict String Value
  deriving DecidableEq

/-- The document; `dronesList` is a list throughout. -/
structure Document where
  scenes : List Scene
  dronesList : List Drone
  deriving DecidableEq

/-- The fields that a patch names, each once. -/
structure Patch where
  entries : Dict String Value
  nodup : (entries.map Prod.fst).Nodup

/-- What a reducer does: it returns the list it was given, or another one, or one with a hole
where a scene was, or throws. -/
inductive Outcome (α : Type) where
  | same
  | changed (new : α)
  | damaged
  | thrown
  deriving DecidableEq

namespace Outcome

def map {α β : Type} (f : α → β) : Outcome α → Outcome β
  | .same => .same
  | .changed new => .changed (f new)
  | .damaged => .damaged
  | .thrown => .thrown

end Outcome

/-! ## Scene commands -/

inductive SceneCommand where
  | add (scene : Scene)
  | patch (id : Value) (patch : Patch)
  | duplicate (id copyId : Value)
  | delete (id : Value)
  | move (index dir : Value)
  | reorder (source target : Value)
  | unknown

section

variable (host : Host) (scenes : List Scene)

/-- `scene.name == null ? { ...scene, name } : scene`. -/
def named (scene : Scene) : Scene :=
  if (read scene "name").nullish then
    assign scene "name" (.str ("Scene " ++ toString (scenes.length + 1)))
  else scene

/-- `{ ...scene, id, name }`. -/
def copyOf (scene : Scene) (copyId : Value) : Scene :=
  assign (assign scene "id" copyId) "name" (.str ((read scene "name").text host ++ " copy"))

/-- `[copy[index], copy[j]] = [copy[j], copy[index]]`. A key that is no element is undefined and
can be set without any effect on the elements. -/
def swap (index j : Value) : Outcome (List Scene) :=
  match index.place host scenes.length, j.place host scenes.length with
  | some a, some b => .changed ((scenes.set a (scenes.getD b [])).set b (scenes.getD a []))
  | none, none => .changed scenes
  | _, _ => .damaged

/-- `copy.splice(to, 0, ...copy.splice(from, 1))`. -/
def moveTo (source target : Value) : Outcome (List Scene) :=
  match scenes[source.spliceStart host]? with
  | none => .damaged
  | some moved => .changed
    ((scenes.eraseIdx (source.spliceStart host)).insertIdx (target.spliceStart host) moved)

def moveRefused (index dir : Value) : Bool :=
  index.outside host scenes.length || (index.plus host dir).outside host scenes.length

def reorderRefused (source target : Value) : Bool :=
  source.strictEq target || source.nullish || target.nullish ||
    source.outside host scenes.length || target.outside host scenes.length

def applySceneCommand : SceneCommand → Outcome (List Scene)
  | .add scene => .changed (scenes ++ [named scenes scene])
  | .patch id patch =>
    match scenes.find? fun s => s.id.strictEq id with
    | none => .same
    | some s =>
      if patch.entries.any fun e => read s e.1 ≠ e.2 then
        .changed (scenes.map fun s => if s.id.strictEq id then assignAll s patch.entries else s)
      else .same
  | .duplicate id copyId =>
    match scenes.findIdx? fun s => s.id.strictEq id with
    | none => .same
    | some i => .changed
      (scenes.take (i + 1) ++ copyOf host (scenes.getD i []) copyId :: scenes.drop (i + 1))
  | .delete id =>
    if scenes.length ≤ 1 || !scenes.any fun s => s.id.strictEq id then .same
    else .changed (scenes.filter fun s => ¬ s.id.strictEq id)
  | .move index dir =>
    if moveRefused host scenes index dir then .same
    else swap host scenes index (index.plus host dir)
  | .reorder source target =>
    if reorderRefused host scenes source target then .same
    else moveTo host scenes source target
  | .unknown => .same

end

/-! ## Fleet commands -/

def maxFleetSize : ℕ := 1000

def palette : List String :=
  ["#38bdf8", "#10b981", "#f59e0b", "#ec4899", "#8b5cf6",
    "#3b82f6", "#f43f5e", "#22c55e", "#e11d48", "#2563eb"]

def makeDrone (id : ℕ) : Drone where
  id := id
  fields := [("name", .str ("Drone " ++ (if id < 10 then "0" else "") ++ toString id)),
    ("hoverAlt", .num (.fin (2 + id * (7 / 10)))),
    ("spawnOffset", .num (.fin (padSpacing * id))),
    ("colorHex", .str (palette.getD (id % palette.length) ""))]

inductive FleetCommand where
  | add
  | remove (id : Value)
  | update (ids : List Value) (patch : Dict String Value)
  | setCount (count : Value)
  | unknown

/-- `/^#[0-9a-f]{6}$/i`. -/
def isColour (s : String) : Bool :=
  match s.toList with
  | '#' :: digits => digits.length = 6 &&
    digits.all fun c => c.isDigit || 'a' ≤ c.toLower && c.toLower ≤ 'f'
  | _ => false

/-- `EDITABLE[k]?.(v)`; `none` where it throws. An inherited member is found, and called. -/
def editable (host : Host) (k : String) (v : Value) : Option Value :=
  if k = "name" then
    match v with
    | .str s => some (.str s)
    | _ => some .undefined
  else if k = "spawnOffset" then some (if v.isFinite then v else .undefined)
  else if k = "hoverAlt" then
    match v.plain with
    | .num (.fin x) => some (.num (.fin (max 0 x)))
    | _ => some .undefined
  else if k = "colorHex" then
    match v with
    | .str s => some (if isColour s then .str s.toLower else .undefined)
    | _ => some .undefined
  else if k ∈ inherited then host.inheritedCall k v
  else some .undefined

/-- `if (clean !== undefined) out[k] = clean`. -/
def keepClean (out : Dict String Value) (k : String) (clean : Value) : Dict String Value :=
  if clean = .undefined then out else assign out k clean

def cleanPatch (host : Host) (patch : Dict String Value) : Option (Dict String Value) :=
  patch.foldlM (fun out e => (editable host e.1 e.2).map (keepClean out e.1)) []

/-- `while (used.has(id)) id++`, at most so often. -/
def seekFree (used : List ℚ) : ℕ → ℕ → ℕ
  | 0, id => id
  | n + 1, id => if (id : ℚ) ∈ used then seekFree used n (id + 1) else id

def lowestFreeId (drones : List Drone) : ℕ :=
  seekFree (drones.map Drone.id) drones.length 0

def sortById (drones : List Drone) : List Drone :=
  drones.insertionSort fun a b => a.id ≤ b.id

/-- `while (next.length < n) next.push(makeDrone(lowestFreeId(next)))`. -/
def pushDrones : ℕ → List Drone → List Drone
  | 0, drones => drones
  | n + 1, drones => pushDrones n (drones ++ [makeDrone (lowestFreeId drones)])

/-- `Math.max(1, Math.min(maxFleetSize, Math.round(count)))`, unless that is `NaN`. -/
def fleetSize (host : Host) (count : Value) : Option ℕ :=
  match count.toNumber host with
  | .nan => none
  | .inf negative => some (if negative then 1 else maxFleetSize)
  | .fin x => some (max 1 (min (maxFleetSize : ℤ) ⌊x + 1 / 2⌋)).toNat

/-- `d.id === v`, for a member of a set as well: an id is never `NaN`. -/
def Drone.named (d : Drone) (v : Value) : Prop := v.plain = .num (.fin d.id)
  deriving Decidable

/-- A drone that an update names and that has not all of its values yet. -/
def Drone.stale (ids : List Value) (patch : Dict String Value) (d : Drone) : Prop :=
  (∃ v ∈ ids, d.named v) ∧ ∃ e ∈ patch, read d.fields e.1 ≠ e.2
  deriving Decidable

def updated (ids : List Value) (patch : Dict String Value) (d : Drone) : Drone :=
  if d.stale ids patch then { d with fields := assignAll d.fields patch } else d

def applyFleetCommand (host : Host) (drones : List Drone) : FleetCommand → Outcome (List Drone)
  | .add =>
    if maxFleetSize ≤ drones.length then .same
    else .changed (sortById (drones ++ [makeDrone (lowestFreeId drones)]))
  | .remove id =>
    if drones.length ≤ 1 || !drones.any fun d => d.named id then .same
    else .changed (drones.filter fun d => ¬ d.named id)
  | .update ids patch =>
    match cleanPatch host patch with
    | none => .thrown
    | some patch =>
      if drones.any fun d => d.stale ids patch then .changed (drones.map (updated ids patch))
      else .same
  | .setCount count =>
    match fleetSize host count with
    | none => .same
    | some n =>
      if n = drones.length then .same
      else if n < drones.length then .changed (drones.take n)
      else .changed (sortById (pushDrones (n - drones.length) drones))
  | .unknown => .same

inductive Command where
  | scene (command : SceneCommand)
  | fleet (command : FleetCommand)
  | other

def applyCommand (host : Host) (doc : Document) : Command → Outcome Document
  | .scene command =>
    (applySceneCommand host doc.scenes command).map fun scenes => { doc with scenes }
  | .fleet command =>
    (applyFleetCommand host doc.dronesList command).map fun dronesList => { doc with dronesList }
  | .other => .same

/-- One command after another, for as long as there is a document to apply it to. -/
def step : Lib.Run.System Document (Host × Command) (Outcome Document) := fun doc l =>
  match applyCommand l.1 doc l.2 with
  | .same => some (doc, [.same])
  | .changed doc' => some (doc', [.changed doc'])
  | _ => none

end Taramandal.Studio.Commands
