import Taramandal.Gcs.CsvAdapter

/-! # Uploaded show files (`trajectory_parser.py`)

The entry points and their adapters: Studio JSON goes to the gate as it is
written, the GCS-shaped JSON and the `.skyc` archive are wrapped first, the CSV
table has its own module. Decoding bytes, parsing JSON and opening an archive
are parameters (`Readers`). Every path ends in the gate, so whatever an entry
point returns is safe. -/
namespace Taramandal.Gcs.TrajectoryParser

open Lib.Check Lib.Dict Core.Numbers Core.Values Core.Text Core.Shows Core.Schema Core.Validate
open Gcs.Gate Gcs.CsvAdapter

variable {K : Type} [Field K] [LinearOrder K]

/-- The readers of the standard library and of pandas. -/
structure Readers (K : Type) [Field K] [LinearOrder K] where
  decodeUtf8 : Bytes → Except String String
  jsonLoads : String → Except String (PyVal K)
  /-- The members of an archive, by name; `none` for `BadZipFile`. -/
  openZip : Bytes → Option (List (String × Bytes))
  pandas : Pandas K

/-- The drones of a GCS-shaped dict: metadata keys are skipped, a key that is no
integer and a second key for one drone are refused. -/
def jsonDrones : List (String × PyVal K) → List (ℤ × PyVal K) → Except String (List (ℤ × PyVal K))
  | [], drones => .ok drones
  | (k, v) :: rest, drones =>
    if k = "version" || k.startsWith "_" then jsonDrones rest drones
    else
      match pyInt k with
      | none => .error ("Invalid drone ID key '" ++ k ++ "'. Must be an integer: " ++
          "invalid literal for int() with base 10: '" ++ k ++ "'")
      | some droneId =>
        match v with
        | .list _ =>
          if has drones droneId then
            .error ("duplicate drone id(s): [" ++ toString droneId ++ "]")
          else jsonDrones rest (drones ++ [(droneId, v)])
        | _ => .error ("Waypoint list for drone " ++ toString droneId ++ " must be a list.")

section

variable [FloorRing K] [IsStrictOrderedRing K] [Sqrt K] (readers : Readers K) (tree : KdTree K)

def parseJson (content : String) : Except String (Show K) := do
  match ← readers.jsonLoads content with
  | .dict data =>
    if has data "drones" then gateShow tree (.dict data)
    else do
      let drones ← jsonDrones data []
      gateShow tree (legacyCanonical drones ((find data "version").getD (.int showFormatVersion)))
  | _ => .error "A show file must be a JSON object."

end

/-! ## Skybrush archives -/

/-- `isinstance(v, (list, tuple))` with the length asked for. -/
def sequence? (v : PyVal K) (atLeast : Nat) : Option (List (PyVal K)) :=
  match v with
  | .list items => if items.length < atLeast then none else some items
  | _ => none

def typeName : PyVal K → String
  | .none => "NoneType"
  | .bool _ => "bool"
  | .int _ => "int"
  | .float _ | .inf _ | .nan => "float"
  | .str _ => "str"
  | .list _ => "list"
  | .dict _ => "dict"

/-- `v[key]` with a string key, or the text of the error it raises. -/
def subscript (v : PyVal K) (key : String) : Except String (PyVal K) :=
  match v with
  | .dict d =>
    match find d key with
    | some w => .ok w
    | none => .error ("'" ++ key ++ "'")
  | .list _ => .error "list indices must be integers or slices, not str"
  | .str _ => .error "string indices must be integers, not 'str'"
  | v => .error ("'" ++ typeName v ++ "' object is not subscriptable")

/-- What a `for` loop over a value goes through. -/
def iterate : PyVal K → Except String (List (PyVal K))
  | .list items => .ok items
  | .dict d => .ok (d.map fun e => .str e.1)
  | .str s => .ok (s.toList.map fun c => .str (String.singleton c))
  | v => .error ("'" ++ typeName v ++ "' object is not iterable")

/-- One trajectory point, `none` for an entry that is skipped. -/
def skycPoint (point : PyVal K) : Except String (Option (PyVal K × PyDict K)) :=
  match sequence? point 2 with
  | none => .ok none
  | some items => do
    let time ← toFloat (items.getD 0 .none)
    match sequence? (items.getD 1 .none) 3 with
    | none => return none
    | some coords =>
      let x ← toFloat (coords.getD 0 .none)
      let y ← toFloat (coords.getD 1 .none)
      let z ← toFloat (coords.getD 2 .none)
      return some (time, [("time", time), ("x", x), ("y", y), ("z", z), ("yaw", .float 0)])

/-- The comparison `a < b` of two floats; NaN is below nothing. -/
def floatLt : PyVal K → PyVal K → Bool
  | .float a, .float b => a < b
  | .inf neg, .float _ => neg
  | .float _, .inf neg => !neg
  | .inf a, .inf b => a && !b
  | _, _ => false

/-- The waypoints of one drone of the archive; a drone without a trajectory has
none. -/
def skycWaypoints (droneData : PyVal K) : Except String (PyVal K) :=
  match subscript droneData "trajectory" with
  | .error _ => .ok (.list [])
  | .ok (.dict traj) => do
    let points ← iterate ((find traj "points").getD (.list []))
    let waypoints := (← points.mapM skycPoint).reduceOption
    let sorted := waypoints.insertionSort fun a b => floatLt b.1 a.1 = false
    return .list (sorted.map fun wp => .dict wp.2)
  | .ok v => .error ("'" ++ typeName v ++ "' object has no attribute 'get'")

def showJson (names : List (String × Bytes)) : Except String Bytes :=
  match names.find? fun e => e.1 = "show.json" || e.1.endsWith "/show.json" with
  | some e => .ok e.2
  | none => .error ("No 'show.json' found inside .skyc archive. Files present: [" ++
      ", ".intercalate (names.map fun e => "'" ++ e.1 ++ "'") ++ "]")

section

variable (readers : Readers K)

def readSkyc (content : Bytes) : Except String (List (ℤ × PyVal K)) := do
  let names ← match readers.openZip content with
    | some names => pure names
    | none => .error "The .skyc file is not a valid ZIP archive."
  let data ← readers.jsonLoads (← readers.decodeUtf8 (← showJson names))
  let drones ← (subscript data "swarm" >>= (subscript · "drones")).mapError fun e =>
    "show.json is missing expected 'swarm.drones' key: " ++ e
  let tracks ← (← iterate drones).mapM skycWaypoints
  return tracks.mapIdx fun index wps => ((index : ℤ), wps)

variable [FloorRing K] [IsStrictOrderedRing K] [Sqrt K] (tree : KdTree K)

def parseSkyc (content : Bytes) : Except String (Show K) := do
  gateShow tree (legacyCanonical (← readSkyc readers content) (.int showFormatVersion))

def parseTrajectoryFile (content filename : String) : Except String (Show K) :=
  (if filename.endsWith ".json" then parseJson readers tree content
  else if filename.endsWith ".csv" then parseCsv readers.pandas tree content
  else .error ("Unsupported file format. Must be .json or .csv " ++
    "(use parse_trajectory_bytes for .skyc)")).mapError fun e =>
    "Error parsing trajectory file: " ++ e

def parseTrajectoryBytes (content : Bytes) (filename : String) : Except String (Show K) :=
  (if filename.endsWith ".skyc" then parseSkyc readers tree content
  else do parseTrajectoryFile readers tree (← readers.decodeUtf8 content) filename).mapError
    fun e => "Error parsing trajectory bytes (" ++ filename ++ "): " ++ e

end

section

variable [FloorRing K] [IsStrictOrderedRing K] [Sqrt K] {readers : Readers K} {tree : KdTree K}
  {trajectory : Show K}

lemma parseJson_gate {content : String} (h : parseJson readers tree content = .ok trajectory) :
    ∃ canonical, gateShow tree canonical = .ok trajectory := by
  obtain ⟨v, _, h⟩ := bind_eq_ok.mp h
  split at h
  next data =>
    split at h
    · exact ⟨_, h⟩
    · obtain ⟨drones, _, h⟩ := bind_eq_ok.mp h
      exact ⟨_, h⟩
  next => cases h

lemma parseCsv_gate {content : String} (h : parseCsv readers.pandas tree content = .ok trajectory) :
    ∃ canonical, gateShow tree canonical = .ok trajectory := by
  obtain ⟨df, _, h⟩ := bind_eq_ok.mp h
  split at h
  · cases h
  obtain ⟨columns, _, h⟩ := bind_eq_ok.mp h
  obtain ⟨drones, _, h⟩ := bind_eq_ok.mp h
  exact ⟨_, h⟩

lemma parseSkyc_gate {content : Bytes} (h : parseSkyc readers tree content = .ok trajectory) :
    ∃ canonical, gateShow tree canonical = .ok trajectory := by
  obtain ⟨drones, _, h⟩ := bind_eq_ok.mp h
  exact ⟨_, h⟩

lemma parseTrajectoryFile_gate {content filename : String}
    (h : parseTrajectoryFile readers tree content filename = .ok trajectory) :
    ∃ canonical, gateShow tree canonical = .ok trajectory := by
  have h := mapError_ok h
  split at h
  · exact parseJson_gate h
  split at h
  · exact parseCsv_gate h
  · cases h

lemma parseTrajectoryBytes_gate {content : Bytes} {filename : String}
    (h : parseTrajectoryBytes readers tree content filename = .ok trajectory) :
    ∃ canonical, gateShow tree canonical = .ok trajectory := by
  have h := mapError_ok h
  split at h
  · exact parseSkyc_gate h
  · obtain ⟨text, _, h⟩ := bind_eq_ok.mp h
    exact parseTrajectoryFile_gate h

/-- Whatever the gate returns, called directly or at the end of any adapter, is
safe to fly. -/
theorem uploaded_trajectory_safe [LawfulSqrt K] (readers : Readers K) (content : Bytes)
    (filename : String) {canonical : PyVal K}
    (h : gateShow tree canonical = .ok trajectory ∨
      parseTrajectoryBytes readers tree content filename = .ok trajectory) : Safe trajectory := by
  rcases h with h | h
  · exact gateShow_sound h
  · obtain ⟨canonical, h⟩ := parseTrajectoryBytes_gate h
    exact gateShow_sound h

end

/-- Two drones three metres apart, two seconds at two metres. -/
def sideBySide : PyVal ℚ :=
  .dict [("version", .int 1), ("drones", .list ([0, 1].map fun id : ℕ =>
    .dict [("id", .int id), ("waypoints", .list ([0, 2].map fun time : ℤ =>
      .dict [("time", .int time), ("x", .int 0), ("y", .int (3 * id)), ("z", .int (-2)),
        ("yaw", .int 0)]))]))]

def noReaders : Readers ℚ where
  decodeUtf8 _ := .error "invalid start byte"
  jsonLoads _ := .error "Expecting value: line 1 column 1 (char 0)"
  openZip _ := none
  pandas := pandasReading ⟨[], []⟩

theorem uploaded_trajectory_safe_sideBySide :
    ∃ trajectory, gateShow bruteForce sideBySide = .ok trajectory ∧ Safe trajectory := by
  have hok : (gateShow bruteForce sideBySide).isOk := by decide +kernel
  cases h : gateShow bruteForce sideBySide with
  | error e => rw [h] at hok; cases hok
  | ok trajectory =>
    exact ⟨trajectory, rfl, uploaded_trajectory_safe noReaders [] "" (.inl h)⟩

end Taramandal.Gcs.TrajectoryParser
