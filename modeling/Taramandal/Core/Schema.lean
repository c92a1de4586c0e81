import Taramandal.Core.Geometry
import Taramandal.Core.Safety
import Taramandal.Lib.Check

/-! # The schema of show files (`show.py`, `ShowContainer`)

The strict gate for show files. Every field check reports where it failed and
why, in the words of the schema library the code declares its models with, and
all errors of a file are reported together. What is accepted is built as a
value that carries its own well-formedness: a waypoint with a bad yaw, a drone
id out of range or a show with a repeated id cannot be constructed. -/
set_option linter.unusedSectionVars false

namespace Taramandal.Core.Schema

open Lib.Check Lib.Dict Core.Numbers Core.Values Core.Geometry Core.Safety

/-- `err["loc"]` and `err["msg"]`. -/
structure SchemaError where
  loc : List String
  msg : String

abbrev Loc := List String

variable {K : Type} [Field K] [LinearOrder K]

/-! ## The schema's fields -/

/-- The waypoint fields that the schema declares; any other key is extra. -/
def waypointKeys : List String :=
  ["time", "x", "y", "z", "yaw", "r", "g", "b", "w", "vx", "vy", "vz"]

/-- A waypoint that satisfies the schema. -/
structure SchemaWaypoint (K : Type) [Field K] [LinearOrder K] extends Waypoint K where
  time_nonneg : 0 ≤ time
  yaw_nonneg : 0 ≤ yaw
  yaw_lt : yaw < 360
  led_range : ∀ channel ∈ [r, g, b, w], ∀ v ∈ channel, 0 ≤ v ∧ v ≤ 255

structure DroneTrack (K : Type) [Field K] [LinearOrder K] where
  id : Nat
  id_lt : id < maxFleetSize
  waypoints : List (SchemaWaypoint K)

structure GeofenceEnvelope (K : Type) [Field K] [LinearOrder K] where
  envelopeRadiusM : {x : K // 0 ≤ x}
  softWarningRadiusM : {x : K // 0 ≤ x}
  hardGeofenceRadiusM : {x : K // 0 ≤ x}

structure ShowContainer (K : Type) [Field K] [LinearOrder K] where
  version : {n : ℤ // 1 ≤ n}
  drones : List (DroneTrack K)
  unique_ids : (drones.map DroneTrack.id).Nodup
  geofence : Option (GeofenceEnvelope K)
  signatureRef : Option String

section

variable (loc : Loc)

def strictFloat : PyVal K → Checked SchemaError K
  | .int n => .ok n
  | .float x => .ok x
  | .inf _ | .nan => .error [⟨loc, "Input should be a finite number"⟩]
  | _ => .error [⟨loc, "Input should be a valid number"⟩]

def strictInt : PyVal K → Checked SchemaError ℤ
  | .int n => .ok n
  | _ => .error [⟨loc, "Input should be a valid integer"⟩]

/-- A float with `ge=0.0`. -/
def nonnegFloat (v : PyVal K) : Checked SchemaError {x : K // 0 ≤ x} :=
  strictFloat loc v >>= require ⟨loc, "Input should be greater than or equal to 0"⟩ (0 ≤ ·)

/-- A float with `ge=0.0, lt=360.0`. -/
def yawFloat (v : PyVal K) : Checked SchemaError {x : K // x < 360 ∧ 0 ≤ x} :=
  strictFloat loc v >>= requireBoth ⟨loc, "Input should be less than 360"⟩
    ⟨loc, "Input should be greater than or equal to 0"⟩ (· < 360) (0 ≤ ·)

/-- `_not_null`: an optional field may be left out, but not null. -/
def notNull {α : Type} (check : PyVal K → Checked SchemaError α) : PyVal K → Checked SchemaError α
  | .none => .error [⟨loc, "Value error, may be omitted, but not null"⟩]
  | v => check v

/-- `_LedChannel` with `ge=0, le=255`. -/
def ledChannel (v : PyVal K) : Checked SchemaError {n : ℤ // 0 ≤ n ∧ n ≤ 255} :=
  notNull loc (strictInt loc) v >>=
    requireBoth ⟨loc, "Input should be greater than or equal to 0"⟩
      ⟨loc, "Input should be less than or equal to 255"⟩ (0 ≤ ·) (· ≤ 255)

/-- `id: int` with `ge=0, lt=MAX_FLEET_SIZE`. -/
def droneId (v : PyVal K) : Checked SchemaError {n : ℤ // n < (maxFleetSize : ℤ) ∧ 0 ≤ n} :=
  strictInt loc v >>=
    requireBoth ⟨loc, "Input should be less than " ++ toString maxFleetSize⟩
      ⟨loc, "Input should be greater than or equal to 0"⟩ (· < (maxFleetSize : ℤ)) (0 ≤ ·)

end

def required {α : Type} (d : PyDict K) (loc : Loc) (key : String)
    (check : Loc → PyVal K → Checked SchemaError α) : Checked SchemaError α :=
  match find d key with
  | none => .error [⟨loc ++ [key], "Field required"⟩]
  | some v => check (loc ++ [key]) v

def optional {α : Type} (d : PyDict K) (loc : Loc) (key : String)
    (check : Loc → PyVal K → Checked SchemaError α) : Checked SchemaError (Option α) :=
  match find d key with
  | none => .ok none
  | some v => (check (loc ++ [key]) v).map some

/-! ## The schema's models -/

/-- `Waypoint`. -/
def validateWaypoint (loc : Loc) : PyVal K → Checked SchemaError (SchemaWaypoint K)
  | .dict d =>
    (both (required d loc "time" nonnegFloat) (both (required d loc "x" strictFloat)
      (both (required d loc "y" strictFloat) (both (required d loc "z" strictFloat)
      (both (required d loc "yaw" yawFloat) (both (optional d loc "r" ledChannel)
      (both (optional d loc "g" ledChannel) (both (optional d loc "b" ledChannel)
      (both (optional d loc "w" ledChannel)
      (both (optional d loc "vx" fun l => notNull l (strictFloat l))
      (both (optional d loc "vy" fun l => notNull l (strictFloat l))
        (optional d loc "vz" fun l => notNull l (strictFloat l))))))))))))).map
      fun (time, x, y, z, yaw, r, g, b, w, vx, vy, vz) =>
        { time := time.1, x, y, z, yaw := yaw.1
          r := r.map (·.1), g := g.map (·.1), b := b.map (·.1), w := w.map (·.1)
          vx, vy, vz
          extra := d.filter fun e => !waypointKeys.contains e.1
          time_nonneg := time.2, yaw_nonneg := yaw.2.2, yaw_lt := yaw.2.1
          led_range := by
            intro channel hc v hv
            simp only [List.mem_cons, List.not_mem_nil, or_false] at hc
            rcases hc with rfl | rfl | rfl | rfl <;>
              · obtain ⟨n, _, rfl⟩ := Option.map_eq_some_iff.mp hv
                exact n.2 }
  | _ => .error [⟨loc, "Input should be a valid dictionary or instance of Waypoint"⟩]

/-- A list field: each entry is checked under its index. -/
def listOf {α : Type} (check : Loc → PyVal K → Checked SchemaError α) (loc : Loc) :
    PyVal K → Checked SchemaError (List α)
  | .list items => each (items.mapIdx fun i v => check (loc ++ [toString i]) v)
  | _ => .error [⟨loc, "Input should be a valid list"⟩]

/-- `DroneTrack`. -/
def validateDroneTrack (loc : Loc) : PyVal K → Checked SchemaError (DroneTrack K)
  | .dict d =>
    (both (required d loc "id" droneId) (required d loc "waypoints" (listOf validateWaypoint))).map
      fun (id, waypoints) =>
        { id := id.1.toNat
          id_lt := by have h1 := id.2.1; have h2 := id.2.2; omega
          waypoints }
  | _ => .error [⟨loc, "Input should be a valid dictionary or instance of DroneTrack"⟩]

/-- `GeofenceEnvelope`. -/
def validateGeofenceEnvelope (loc : Loc) : PyVal K → Checked SchemaError (GeofenceEnvelope K)
  | .dict d =>
    (both (required d loc "envelope_radius_m" nonnegFloat)
      (both (required d loc "soft_warning_radius_m" nonnegFloat)
        (required d loc "hard_geofence_radius_m" nonnegFloat))).map
      fun (e, s, h) => ⟨e, s, h⟩
  | _ => .error [⟨loc, "Input should be a valid dictionary or instance of GeofenceEnvelope"⟩]

/-- The ids that appear more than once, in increasing order. -/
def duplicateIds (ids : List Nat) : List Nat :=
  ((ids.filter fun id => 1 < ids.count id).dedup).insertionSort (· ≤ ·)

def listStr (ids : List Nat) : String := "[" ++ ", ".intercalate (ids.map toString) ++ "]"

def uniqueIds (loc : Loc) (drones : List (DroneTrack K)) :
    Checked SchemaError {ds : List (DroneTrack K) // (ds.map DroneTrack.id).Nodup} :=
  require ⟨loc, "Value error, duplicate drone id(s): " ++
    listStr (duplicateIds (drones.map DroneTrack.id))⟩ (fun ds => (ds.map DroneTrack.id).Nodup) drones

/-- `version: int` with `ge=1`. -/
def versionInt (loc : Loc) (v : PyVal K) : Checked SchemaError {n : ℤ // 1 ≤ n} :=
  strictInt loc v >>= require ⟨loc, "Input should be greater than or equal to 1"⟩ (1 ≤ ·)

/-- `signature_ref: str | None` with `min_length=1`. -/
def signatureRef (loc : Loc) : PyVal K → Checked SchemaError (Option String)
  | .none => .ok none
  | .str s =>
    if s.length < 1 then .error [⟨loc, "String should have at least 1 character"⟩] else .ok (some s)
  | _ => .error [⟨loc, "Input should be a valid string"⟩]

/-- `ShowContainer.model_validate`. -/
def validateContainer : PyVal K → Checked SchemaError (ShowContainer K)
  | .dict d =>
    (both (required d [] "version" versionInt)
      (both (required d [] "drones" fun l v => listOf validateDroneTrack l v >>= uniqueIds l)
        (both (optional d [] "_geofence" fun l => notNull l (validateGeofenceEnvelope l))
          (optional d [] "signature_ref" signatureRef)))).map
      fun (version, drones, geofence, ref) =>
        { version, drones := drones.1, unique_ids := drones.2, geofence
          signatureRef := ref.join }
  | _ => .error [⟨[], "Input should be a valid dictionary or instance of ShowContainer"⟩]

end Taramandal.Core.Schema

/-! ## Shows (`show.py`, `Show`)

A show maps each drone to its waypoints. Loading one through the schema gives
distinct ids below the fleet size and waypoints in range; the duration and the
horizontal envelope are maxima over all of it. -/
namespace Taramandal.Core.Shows

open Lib.Check Core.Numbers Core.Values Core.Geometry Core.Safety Core.Schema

variable {K : Type} [Field K] [LinearOrder K]

/-- A show: each drone's waypoints, under its id, in the order of the file. The
GCS-shaped trajectory is the same mapping. -/
structure Show (K : Type) where
  drones : List (Nat × List (Waypoint K))
  unique : (drones.map Prod.fst).Nodup

def Show.validateAndLoad (data : PyVal K) : Checked SchemaError (Show K) :=
  (validateContainer data).map fun c =>
    { drones := c.drones.map fun t => (t.id, t.waypoints.map SchemaWaypoint.toWaypoint)
      unique := by simpa [Function.comp_def] using c.unique_ids }

/-- `max(values, default=default)`. -/
def maxOr (default : K) : List K → K
  | [] => default
  | v :: vs => vs.foldl max v

/-- `Show.duration`: the latest last waypoint. -/
def Show.duration (s : Show K) : K :=
  maxOr 0 (s.drones.filterMap fun d => d.2.getLast?.map Waypoint.time)

def hypot [Sqrt K] (x y : K) : K := sqrt (x * x + y * y)

def Show.maxHorizontalRadiusM [Sqrt K] (s : Show K) : K :=
  maxOr 0 (s.drones.flatMap fun d => d.2.map fun wp => hypot wp.x wp.y)

/-- `Show.geofence_envelope`: the envelope, the soft-warning and the hard radius. -/
def Show.geofenceEnvelope [Sqrt K] [FloorRing K] (s : Show K) (limits : SafetyLimits K) :
    Except String (K × K × K) :=
  (limits.geofenceRadii s.maxHorizontalRadiusM).map fun r => (s.maxHorizontalRadiusM, r.1, r.2)

lemma le_foldl_max (vs : List K) (v : K) : v ≤ vs.foldl max v ∧ (∀ u ∈ vs, u ≤ vs.foldl max v) ∧
      (vs.foldl max v = v ∨ vs.foldl max v ∈ vs) := by
  induction vs generalizing v with
  | nil => simp
  | cons u vs ih =>
    obtain ⟨h1, h2, h3⟩ := ih (max v u)
    simp only [List.foldl_cons]
    refine ⟨(le_max_left v u).trans h1, fun x hx => ?_, ?_⟩
    · rcases List.mem_cons.mp hx with rfl | hx
      · exact (le_max_right v x).trans h1
      · exact h2 x hx
    · rcases h3 with h3 | h3
      · rcases max_choice v u with hm | hm <;> rw [hm] at h3 ⊢ <;> simp [h3]
      · exact .inr (List.mem_cons_of_mem u h3)

lemma le_maxOr {default v : K} {vs : List K} (h : v ∈ vs) : v ≤ maxOr default vs := by
  cases vs with
  | nil => cases h
  | cons u vs =>
    rcases List.mem_cons.mp h with rfl | h
    · exact (le_foldl_max vs v).1
    · exact (le_foldl_max vs u).2.1 v h

lemma maxOr_mem (default : K) (vs : List K) :
    maxOr default vs = default ∨ maxOr default vs ∈ vs := by
  cases vs with
  | nil => exact .inl rfl
  | cons u vs =>
    rcases (le_foldl_max vs u).2.2 with h | h
    · exact .inr (by rw [maxOr, h]; exact List.mem_cons_self ..)
    · exact .inr (List.mem_cons_of_mem u h)

lemma Show.le_duration {s : Show K} {d : Nat} {wps : List (Waypoint K)} {last : Waypoint K}
    (h : (d, wps) ∈ s.drones) (hl : wps.getLast? = some last) : last.time ≤ s.duration :=
  le_maxOr (List.mem_filterMap.mpr ⟨_, h, by simp [hl]⟩)

lemma Show.maxHorizontalRadiusM_nonneg [IsStrictOrderedRing K] [Sqrt K] [LawfulSqrt K]
    (s : Show K) : 0 ≤ s.maxHorizontalRadiusM := by
  rcases maxOr_mem 0 (s.drones.flatMap fun d => d.2.map fun wp => hypot wp.x wp.y) with h | h
  · exact h.ge
  · obtain ⟨d, _, hd⟩ := List.mem_flatMap.mp h
    obtain ⟨wp, _, hw⟩ := List.mem_map.mp hd
    rw [Show.maxHorizontalRadiusM, ← hw]
    exact sqrt_nonneg _

/-- What the schema promises of a loaded show: distinct ids below the fleet
size, and every waypoint's time and yaw in range. -/
lemma Show.validateAndLoad_spec {data : PyVal K} {s : Show K}
    (h : Show.validateAndLoad data = .ok s) (d : Nat) (wps : List (Waypoint K))
    (hd : (d, wps) ∈ s.drones) :
    d < maxFleetSize ∧ ∀ wp ∈ wps, 0 ≤ wp.time ∧ 0 ≤ wp.yaw ∧ wp.yaw < 360 := by
  obtain ⟨c, _, rfl⟩ := map_eq_ok.mp h
  obtain ⟨t, _, ht⟩ := List.mem_map.mp hd
  obtain ⟨rfl, rfl⟩ := Prod.mk.inj ht
  refine ⟨t.id_lt, fun wp hwp => ?_⟩
  obtain ⟨w, _, rfl⟩ := List.mem_map.mp hwp
  exact ⟨w.time_nonneg, w.yaw_nonneg, w.yaw_lt⟩

end Taramandal.Core.Shows
