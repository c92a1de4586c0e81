import Taramandal.Core.Numbers
import Taramandal.Core.Text
import Taramandal.Lib.Intern
import Taramandal.Lib.Run

/-! # The flight recorder (`blackbox.py`)

A line of the file is the object it was written from, since `json` and `zlib` give back what they
were given; a spot that cannot be read is `none`. A machine integer is an integer, and the 64 bits
it is kept in show where two of them are subtracted. What `str` makes of a value is left open
(`str`). -/
namespace Taramandal.Gcs.Blackbox

open Core.Numbers Core.Values Core.Text Lib.Dict Lib.Intern Lib.Run

structure Channel where
  key : String
  source : String
  scale : Nat
  unit : String

def channels : List Channel :=
  [⟨"x", "fleet_x", 100, "cm"⟩, ⟨"y", "fleet_y", 100, "cm"⟩, ⟨"z", "fleet_z", 100, "cm"⟩,
    ⟨"h", "heading", 10, "0.1deg"⟩, ⟨"b", "battery_percent", 10, "0.1%"⟩,
    ⟨"v", "battery_voltage", 10, "0.1V"⟩, ⟨"n", "satellites", 1, "count"⟩,
    ⟨"l", "comm_latency_ms", 1, "ms"⟩]

def rfKey : String := "r"

def flagKey : String := "s"

def modeKey : String := "m"

def fixKey : String := "f"

def allKeys : List String := channels.map Channel.key ++ [rfKey, flagKey, modeKey, fixKey]

def flagBits : List (String × Nat) :=
  [("connected", 0), ("armed", 1), ("aborted", 2), ("planned_valid", 3), ("gps_lock", 4)]

def missing : ℤ := -1

def reservedEventKeys : List String := ["type", "t", "wall", "kind"]

variable {K : Type} [Field K] [LinearOrder K]

def headerChannels : List (PyVal K) :=
  channels.map (fun ch => .dict [("key", .str ch.key), ("source", .str ch.source),
    ("scale", .int ch.scale), ("unit", .str ch.unit)]) ++
  [.dict [("key", .str rfKey), ("source", .str "rf_drop_rate"), ("scale", .int 10000),
      ("unit", .str "1e-4"), ("missing", .int missing)],
    .dict [("key", .str flagKey), ("source", .str "flags"), ("scale", .int 1),
      ("unit", .str "bits")],
    .dict [("key", .str modeKey), ("source", .str "flight_mode"), ("scale", .int 1),
      ("unit", .str "dict:modes")],
    .dict [("key", .str fixKey), ("source", .str "gps_fix_type"), ("scale", .int 1),
      ("unit", .str "dict:fixes")]]

/-! ## The recorder -/

structure RecorderConfig (K : Type) where
  rateHz : K
  keyframeIntervalS : K
  flushIntervalS : K
  t0 : K
  startedWall : K
  started : String
  pid : ℤ

abbrev Columns := Dict String (List ℤ)

def column (cols : Columns) (key : String) : List ℤ := (find cols key).getD []

structure Recorder (K : Type) where
  lastTickT : Option K
  lastKeyT : Option K
  ids : List ℤ
  prev : Columns
  modes : Table String
  fixes : Table String
  closed : Bool
  ticks : Nat
  events : Nat
  dropped : Nat
  errors : Nat
  lines : List (PyVal K)

def ints (ns : List ℤ) : PyVal K := .list (ns.map .int)

def strs (names : List String) : PyVal K := .list (names.map .str)

def headerEntry (cfg : RecorderConfig K) (context : PyDict K) : PyDict K :=
  [("type", .str "header"), ("format", .str "tara-blackbox"), ("version", .int 1),
    ("rate_hz", .float cfg.rateHz), ("keyframe_interval_s", .float cfg.keyframeIntervalS),
    ("flush_interval_s", .float cfg.flushIntervalS), ("started_wall", .float cfg.startedWall),
    ("started", .str cfg.started), ("pid", .int cfg.pid), ("channels", .list headerChannels),
    ("flag_bits", .dict (flagBits.map fun f => (f.1, .int f.2))), ("context", .dict context)]

def newRecorder (cfg : RecorderConfig K) (context : PyDict K) : Recorder K where
  lastTickT := none
  lastKeyT := none
  ids := []
  prev := []
  modes := []
  fixes := []
  closed := false
  ticks := 0
  events := 0
  dropped := 0
  errors := 0
  lines := [.dict (headerEntry cfg context)]

/-- `rf_drop_rate`, in its four shapes. -/
inductive RfDropRate (K : Type) where
  | none
  | scalar (rate : PyVal K)
  | mapping (rates : Dict ℤ (PyVal K))
  | sequence (rates : List (PyVal K))

/-- `bool(value)`. -/
def truthy : PyVal K → Bool
  | .none => false
  | .bool b => b
  | .int n => n ≠ 0
  | .float x => x ≠ 0
  | .inf _ => true
  | .nan => true
  | .str s => s ≠ ""
  | .list items => !items.isEmpty
  | .dict entries => !entries.isEmpty

omit [LinearOrder K] in
def npFloat : PyVal K → Except String (PyVal K)
  | .none => .ok .nan
  | v => toFloat v

/-- `seq[i]`. -/
def index {α : Type} (items : List α) (i : ℤ) : Option α :=
  if 0 ≤ i then items[i.toNat]? else if -i ≤ items.length then items[(items.length + i).toNat]? else .none

/-- `r.get(source) or 0.0`. -/
def orZero : Option (PyVal K) → PyVal K
  | some v => if truthy v then v else .float 0
  | .none => .float 0

/-- `np.nan_to_num(raw, nan=0.0, posinf=0.0, neginf=0.0)`. -/
def nanToNum : PyVal K → K
  | .float x => x
  | _ => 0

section Columns

variable [FloorRing K]

/-- `np.rint(x).astype(np.int64)`; a value that does not fit becomes the least
integer, as it does on x86-64. -/
def rintInt64 (x : K) : ℤ :=
  if -2 ^ 63 ≤ roundHalfEven x ∧ roundHalfEven x < 2 ^ 63 then roundHalfEven x else -2 ^ 63

def channelColumn (rows : List (PyDict K)) (ch : Channel) : Except String (List ℤ) :=
  rows.mapM fun r => do
    let raw ← npFloat (orZero (find r ch.source))
    return rintInt64 (nanToNum raw * (ch.scale : K))

/-- A packet drop rate, `MISSING` when it is not a finite number. -/
def rfInt : PyVal K → ℤ
  | .float x => rintInt64 (x * 10000)
  | _ => missing

def rfColumn (ids : List ℤ) : RfDropRate K → Except String (List ℤ)
  | .none => .ok (ids.map fun _ => missing)
  | .scalar rate => do
    let rf ← toFloat rate
    return ids.map fun _ => rfInt rf
  | .mapping rates =>
    ids.mapM fun i => do
      let rf ← npFloat ((find rates i).getD .nan)
      return rfInt rf
  | .sequence rates =>
    ids.mapM fun i => do
      match index rates i with
      | some rate => return rfInt (← npFloat rate)
      | .none => .error "list index out of range"

def flagWord (r : PyDict K) : ℤ :=
  ((flagBits.map fun f => (((find r f.1).any truthy).toNat <<< f.2)).foldl (· ||| ·) 0 : Nat)

section

variable (str : PyVal K → String)

def namesOf (field default : String) (rows : List (PyDict K)) : List String :=
  rows.map fun r => str ((find r field).getD (.str default))

def modeNames (rows : List (PyDict K)) : List String :=
  namesOf str "flight_mode" "UNKNOWN" rows

def fixNames (rows : List (PyDict K)) : List String :=
  namesOf str "gps_fix_type" "NO_GPS" rows

end

def code (table : Table String) (names : List String) : Table String × List ℤ :=
  ((internAll table names).1, (internAll table names).2.map Nat.cast)

/-- What `_columns` returns, with the dictionaries behind it. -/
structure Sampled where
  cols : Columns
  modes : Table String
  fixes : Table String

def columns (str : PyVal K → String) (modes fixes : Table String) (rows : List (PyDict K))
    (ids : List ℤ) (rf : RfDropRate K) : Except String Sampled := do
  let numeric ← channels.mapM fun ch => do return (ch.key, ← channelColumn rows ch)
  let rfCol ← rfColumn ids rf
  let (modes, modeCol) := code modes (modeNames str rows)
  let (fixes, fixCol) := code fixes (fixNames str rows)
  return {
    cols := numeric ++
      [(rfKey, rfCol), (flagKey, rows.map flagWord), (modeKey, modeCol), (fixKey, fixCol)]
    modes := modes
    fixes := fixes }

def wrap64 (n : ℤ) : ℤ := (n + 2 ^ 63) % 2 ^ 64 - 2 ^ 63

def tMs (cfg : RecorderConfig K) (now : K) : ℤ := roundHalfEven ((now - cfg.t0) * 1000)

/-- `sorted(telemetry)`. -/
def sortedIds (telemetry : Dict ℤ (PyDict K)) : List ℤ :=
  (telemetry.map Prod.fst).insertionSort (· ≤ ·)

def rowsOf (telemetry : Dict ℤ (PyDict K)) : List (PyDict K) :=
  (sortedIds telemetry).map fun i => (find telemetry i).getD []

def needKey (cfg : RecorderConfig K) (now : K) (ids : List ℤ) (sample : Sampled)
    (s : Recorder K) : Bool :=
  ids ≠ s.ids || sample.modes.length ≠ s.modes.length || sample.fixes.length ≠ s.fixes.length ||
    s.lastKeyT.all fun t => cfg.keyframeIntervalS ≤ now - t

def keyEntry (t : ℤ) (ids : List ℤ) (sample : Sampled) : PyDict K :=
  [("type", .str "key"), ("t", .int t), ("ids", ints ids), ("modes", strs (names sample.modes)),
    ("fixes", strs (names sample.fixes)),
    ("ch", .dict (allKeys.map fun k => (k, ints (column sample.cols k))))]

def diffEntry (t : ℤ) (prev cols : Columns) : PyDict K :=
  [("type", .str "tick"), ("t", .int t),
    ("ch", .dict (allKeys.map fun k =>
      (k, ints (List.zipWith (fun c p => wrap64 (c - p)) (column cols k) (column prev k)))))]

def writeRow (cfg : RecorderConfig K) (now : K) (ids : List ℤ) (sample : Sampled)
    (s : Recorder K) : Recorder K :=
  let written :=
    if needKey cfg now ids sample s then
      { s with
        lines := s.lines ++ [PyVal.dict (keyEntry (tMs cfg now) ids sample)]
        ids := ids
        lastKeyT := some now }
    else
      { s with lines := s.lines ++ [PyVal.dict (diffEntry (tMs cfg now) s.prev sample.cols)] }
  { written with
    prev := sample.cols
    modes := sample.modes
    fixes := sample.fixes
    ticks := s.ticks + 1 }

def tick (str : PyVal K → String) (cfg : RecorderConfig K) (now : K)
    (telemetry : Dict ℤ (PyDict K)) (rf : RfDropRate K) (s : Recorder K) :
    Except String (Recorder K) :=
  let ids := sortedIds telemetry
  if ids = [] then .ok s
  else do
    let sample ← columns str s.modes s.fixes (rowsOf telemetry) ids rf
    return writeRow cfg now ids sample s

def tooSoon (cfg : RecorderConfig K) (now : K) (s : Recorder K) : Bool :=
  s.lastTickT.any fun t => now - t < 1 / cfg.rateHz * (1 / 2)

def recordTick (str : PyVal K → String) (cfg : RecorderConfig K) (now : K)
    (telemetry : Dict ℤ (PyDict K)) (rf : RfDropRate K) (s : Recorder K) : Recorder K × Bool :=
  if s.closed then ({ s with dropped := s.dropped + 1 }, false)
  else if tooSoon cfg now s then (s, false)
  else
    match tick str cfg now telemetry rf s with
    | .error _ => ({ s with errors := s.errors + 1 }, false)
    | .ok s => ({ s with lastTickT := some now }, true)

/-- The line of an event. The context is laid over the line's own framing, a
caller's field is not. -/
def eventEntry (cfg : RecorderConfig K) (now wall : K) (context : PyDict K) (kind : String)
    (fields : PyDict K) : PyDict K :=
  let entry := [("type", .str "event"), ("t", .int (tMs cfg now)), ("wall", .float wall),
    ("kind", .str kind)]
  assignAll (assignAll entry context)
    (fields.map fun f => (if f.1 ∈ reservedEventKeys then "field_" ++ f.1 else f.1, f.2))

def recordEvent (cfg : RecorderConfig K) (now wall : K) (context : PyDict K) (kind : String)
    (fields : PyDict K) (s : Recorder K) : Recorder K :=
  if s.closed then { s with dropped := s.dropped + 1 }
  else
    { s with
      lines := s.lines ++ [.dict (eventEntry cfg now wall context kind fields)]
      events := s.events + 1 }

/-- `close`, with the lines of the file it finishes. -/
def close (s : Recorder K) : Recorder K × List (Option (PyVal K)) :=
  ({ s with closed := true }, s.lines.map some)

/-- A call into the recorder: what its clocks read, and its arguments. -/
inductive Call (K : Type) where
  | tick (now : K) (telemetry : Dict ℤ (PyDict K)) (rf : RfDropRate K)
  | event (now wall : K) (context : PyDict K) (kind : String) (fields : PyDict K)

/-- Calls in turn; a call that was not turned away is handed out. -/
def step (str : PyVal K → String) (cfg : RecorderConfig K) :
    System (Recorder K) (Call K) (Call K) := fun s call =>
  match call with
  | .tick now telemetry rf =>
    let (s', accepted) := recordTick str cfg now telemetry rf s
    some (s', if accepted then [call] else [])
  | .event now wall context kind fields =>
    some (recordEvent cfg now wall context kind fields s, if s.closed then [] else [call])

end Columns

/-! ## The reader -/

inductive PyError where
  | keyError (key : String)
  | typeError
  | attributeError

/-- `d[key]`. -/
def item {α : Type} (d : Dict String α) (key : String) : Except PyError α :=
  match find d key with
  | some v => .ok v
  | none => .error (.keyError key)

/-- `value.items()`. -/
def items : PyVal K → Except PyError (PyDict K)
  | .dict d => .ok d
  | _ => .error .attributeError

/-- `list(value)`. -/
def listOf : PyVal K → Except PyError (List (PyVal K))
  | .list vs => .ok vs
  | .str s => .ok (s.toList.map fun c => .str (String.singleton c))
  | .dict d => .ok (d.map fun e => .str e.1)
  | _ => .error .typeError

omit [Field K] [LinearOrder K] in
def asInt : PyVal K → Option ℤ
  | .bool b => some b.toNat
  | .int n => some n
  | _ => none

def addFloat : PyVal K → PyVal K → PyVal K
  | .float x, .float y => .float (x + y)
  | .inf a, .inf b => if a = b then .inf a else .nan
  | .inf a, .float _ => .inf a
  | .float _, .inf b => .inf b
  | _, _ => .nan

def asFloat : PyVal K → Option (PyVal K)
  | .bool b => some (.float (if b then 1 else 0))
  | .int n => some (.float n)
  | .float x => some (.float x)
  | .inf negative => some (.inf negative)
  | .nan => some .nan
  | _ => none

/-- `a + b`. -/
def add (a b : PyVal K) : Except PyError (PyVal K) :=
  match a, b with
  | .str s, .str t => .ok (.str (s ++ t))
  | .list as, .list bs => .ok (.list (as ++ bs))
  | a, b =>
    match asInt a, asInt b with
    | some m, some n => .ok (.int (m + n))
    | _, _ =>
      match asFloat a, asFloat b with
      | some x, some y => .ok (addFloat x y)
      | _, _ => .error .typeError

/-- The state of `iter_blackbox`. -/
structure Reader (K : Type) where
  ids : PyVal K
  prev : Dict String (List (PyVal K))
  modes : PyVal K
  fixes : PyVal K

def newReader : Reader K := ⟨.list [], [], .list [], .list []⟩

def tickRecord (key : Bool) (t : PyVal K) (r : Reader K) : PyDict K :=
  [("type", .str "tick"), ("key", .bool key), ("t_ms", t), ("ids", r.ids),
    ("ch", .dict (r.prev.map fun e => (e.1, .list e.2))), ("modes", r.modes), ("fixes", r.fixes)]

/-- A `key` line. -/
def readKey (rec : PyDict K) : Except PyError (Reader K × List (PyDict K)) := do
  let ids ← item rec "ids"
  let modes ← item rec "modes"
  let fixes ← item rec "fixes"
  let ch ← items (← item rec "ch")
  let prev ← ch.mapM fun e => do return (e.1, ← listOf e.2)
  let r : Reader K := ⟨ids, prev, modes, fixes⟩
  return (r, [tickRecord true (← item rec "t") r])

/-- One channel of a `tick` line. -/
def readColumn (r : Reader K) (e : String × PyVal K) :
    Except PyError (String × List (PyVal K)) := do
  let before ← item r.prev e.1
  let diff ← listOf e.2
  let now ← (before.zip diff).mapM fun p => add p.1 p.2
  return (e.1, now)

/-- A `tick` line. -/
def readDiff (r : Reader K) (rec : PyDict K) : Except PyError (Reader K × List (PyDict K)) := do
  let ch ← items (← item rec "ch")
  let prev ← ch.mapM (readColumn r)
  let r := { r with prev := prev }
  return (r, [tickRecord false (← item rec "t") r])

def text? : PyVal K → Option String
  | .str s => some s
  | _ => none

def readLine (r : Reader K) : PyVal K → Except PyError (Reader K × List (PyDict K))
  | .dict rec =>
    let kind := (find rec "type").bind text?
    if kind = some "key" then readKey rec
    else if kind = some "tick" then readDiff r rec
    else if kind = some "header" ∨ kind = some "event" then .ok (r, [rec])
    else .ok (r, [])
  | _ => .error .attributeError

/-- `iter_blackbox`: the records, and the exception that ended them. -/
def iterBlackbox (r : Reader K) : List (Option (PyVal K)) → List (PyDict K) × Option PyError
  | [] => ([], none)
  | none :: _ => ([[("type", .str "truncated")]], none)
  | some line :: lines =>
    match readLine r line with
    | .error e => ([], some e)
    | .ok (r, out) => (out ++ (iterBlackbox r lines).1, (iterBlackbox r lines).2)

end Taramandal.Gcs.Blackbox
