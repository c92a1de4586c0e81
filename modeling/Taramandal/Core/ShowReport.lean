import Taramandal.Core.Validate

/-! # The safety report (`validate.py`, `validate_show`)

One sweep over the timeline at equal steps: the pairs that are too close at a sample, and for each
drone the speed, the acceleration and the turn since the sample before. The altitude is read off
the waypoints. What a report shows of the violations is capped, but never nothing of some. -/
set_option linter.unusedSectionVars false

namespace Taramandal.Core.ShowReport

open Lib.Dict Core.Numbers Core.Geometry Core.Safety Core.Shows Core.Validate

variable {K : Type} [Field K] [LinearOrder K]

def maxReported : Nat := 50

section

variable {V : Type}

/-- `xs[::step]`. -/
def every {α : Type} (step : Nat) (xs : List α) : List α :=
  (xs.zipIdx.filter fun p => p.2 % step = 0).map Prod.fst

def excessAt (found : List (K × V)) (i : Nat) : K := (found[i]?.map Prod.fst).getD 0

/-- `report_subset`: the most severe half of the cap, and an even sample of the rest. -/
def reportSubset (found : List (K × V)) (cap : Nat) : List V :=
  if found.length ≤ cap then found.map Prod.snd
  else
    let mostSevere := cap / 2
    let indices := List.range found.length
    let bySeverity := indices.insertionSort fun i j => excessAt found j ≤ excessAt found i
    let severe := bySeverity.take mostSevere
    let rest := indices.filter fun i => i ∉ severe
    let step := max 1 (rest.length / (cap - mostSevere))
    let sample := (every step rest).take (cap - mostSevere)
    (indices.filter fun i => i ∈ severe ∨ i ∈ sample).filterMap fun i => found[i]?.map Prod.snd

/-- `worst_of`: the first of the most severe entries. -/
def worstOf : List (K × V) → Option V
  | [] => none
  | item :: rest =>
    some (rest.foldl (fun best item => if best.1 < item.1 then item else best) item).2

end

/-! ## The violations -/

structure ProximityViolation (K : Type) where
  time : K
  drones : Nat × Nat
  distance : K
  limit : K
  positions : Point K × Point K

/-- A violation of a limit on the motion: the field `value` is `velocity`, `acceleration` or
`yaw_rate`. -/
structure MotionViolation (K : Type) where
  time : K
  drone : Nat
  value : K
  limit : K

/-- One entry for each kind of violation. -/
structure PerKind (P M A : Type) where
  proximity : P
  velocity : M
  acceleration : M
  yawRate : M
  altitude : A
  ground : A

/-- All violations, each with how far past its limit it went. -/
abbrev Found (K : Type) := PerKind (List (K × ProximityViolation K)) (List (K × MotionViolation K))
  (List (K × AltitudeViolation K))

abbrev Violations (K : Type) := PerKind (List (ProximityViolation K)) (List (MotionViolation K))
  (List (AltitudeViolation K))

abbrev WorstViolations (K : Type) := PerKind (Option (ProximityViolation K))
  (Option (MotionViolation K)) (Option (AltitudeViolation K))

def Found.reported (found : Found K) : Violations K where
  proximity := reportSubset found.proximity maxReported
  velocity := reportSubset found.velocity maxReported
  acceleration := reportSubset found.acceleration maxReported
  yawRate := reportSubset found.yawRate maxReported
  altitude := reportSubset found.altitude maxReported
  ground := reportSubset found.ground maxReported

def Found.worst (found : Found K) : WorstViolations K where
  proximity := worstOf found.proximity
  velocity := worstOf found.velocity
  acceleration := worstOf found.acceleration
  yawRate := worstOf found.yawRate
  altitude := worstOf found.altitude
  ground := worstOf found.ground

def Clean {P M A : Type} (v : PerKind (List P) (List M) (List A)) : Prop :=
  v.proximity = [] ∧ v.velocity = [] ∧ v.acceleration = [] ∧ v.yawRate = [] ∧ v.altitude = [] ∧
    v.ground = []

instance {P M A : Type} (v : PerKind (List P) (List M) (List A)) : Decidable (Clean v) :=
  inferInstanceAs (Decidable (_ ∧ _))

structure Metrics (K : Type) where
  minDistanceM : K
  maxVelocityMS : K
  maxAccelerationMS2 : K
  maxYawRateDegS : K
  maxAltitudeM : K
  minAltitudeM : K

/-- `_method_block`. -/
structure Method (K : Type) where
  sweepDtS : K
  samples : Nat
  minDistance : String := "sampled"
  motion : String := "backward_difference"
  altitude : String := "waypoint_exact"

inductive Status where
  | passed
  | failed
  deriving DecidableEq

structure Report (K : Type) where
  status : Status
  summary : String
  metrics : Metrics K
  violations : Violations K
  worstViolations : WorstViolations K
  method : Method K

section Sweep

/-- A drone at the sample before. -/
structure Previous (K : Type) where
  pos : Point K
  vel : Point K
  yaw : K

/-- What the loop over the samples carries; `none` for the infinite distance. -/
structure Sweep (K : Type) where
  proximity : List (K × ProximityViolation K) := []
  velocity : List (K × MotionViolation K) := []
  acceleration : List (K × MotionViolation K) := []
  yawRate : List (K × MotionViolation K) := []
  minDist : Option K := none
  maxVel : K
  maxAcc : K
  maxYawRate : K
  prev : Dict Nat (Previous K) := []

def place (wp : Waypoint K) : Point K := (wp.x, wp.y, wp.z)

def rate (p q : Point K) (dt : K) : Point K :=
  ((p.1 - q.1) / dt, (p.2.1 - q.2.1) / dt, (p.2.2 - q.2.2) / dt)

def magnitude [Sqrt K] (v : Point K) : K := sqrt (v.1 * v.1 + v.2.1 * v.2.1 + v.2.2 * v.2.2)

variable [FloorRing K]

/-- The states of `_positions_at`. -/
def statesAt (s : Show K) (t : K) : List (Nat × Waypoint K) :=
  s.drones.filterMap fun d => (interpolateWaypoint d.2 t).map fun wp => (d.1, wp)

def past (t : K) (drone : Nat) (value limit : K) : List (K × MotionViolation K) :=
  if limit < value then
    [(value - limit, ⟨roundTo 2 t, drone, roundTo 2 value, roundTo 2 limit⟩)]
  else []

variable [Sqrt K]

def sweepDrone (limits : SafetyLimits K) (dt t : K) (acc : Sweep K) (state : Nat × Waypoint K) :
    Sweep K :=
  let id := state.1
  let wp := state.2
  match find acc.prev id with
  | none => { acc with prev := assign acc.prev id ⟨place wp, (0, 0, 0), wp.yaw⟩ }
  | some last =>
    let vel := rate (place wp) last.pos dt
    let speed := magnitude vel
    let accel := magnitude (rate vel last.vel dt)
    let yawRate := |yawDiff last.yaw wp.yaw| / dt
    { acc with
      maxVel := max acc.maxVel speed
      maxAcc := max acc.maxAcc accel
      maxYawRate := max acc.maxYawRate yawRate
      velocity := acc.velocity ++ past t id speed limits.maxVelocityMs
      acceleration := acc.acceleration ++ past t id accel limits.maxAccelMs2
      yawRate := acc.yawRate ++ past t id yawRate limits.maxYawRateDps
      prev := assign acc.prev id ⟨place wp, vel, wp.yaw⟩ }

/-- The smaller of two distances, either of which may be infinite. -/
def minDistance : Option K → Option K → Option K
  | none, d => d
  | d, none => d
  | some d, some e => some (min d e)

/-- `min_separation`: the smallest distance between any two drones. -/
def minSeparation : List (Nat × Point K) → Option K
  | [] => none
  | p :: rest => (rest.map fun q => pointDist p.2 q.2).foldl (fun d e => minDistance d (some e))
      (minSeparation rest)

def roundPoint (p : Point K) : Point K := (roundTo 2 p.1, roundTo 2 p.2.1, roundTo 2 p.2.2)

def proximityViolation (t threshold : K) (xyz : List (Nat × Point K)) (c : ClosePair K) :
    K × ProximityViolation K :=
  (threshold - c.distance,
    { time := roundTo 2 t
      drones := (c.a, c.b)
      distance := roundTo 2 c.distance
      limit := roundTo 2 threshold
      positions := (roundPoint ((find xyz c.a).getD (0, 0, 0)),
        roundPoint ((find xyz c.b).getD (0, 0, 0))) })

variable (tree : KdTree K)

def samplePairs (s : Show K) (threshold : K) (acc : Sweep K) (t : K) : Sweep K :=
  let xyz := positionsAt s t
  { acc with
    proximity := acc.proximity ++
      (closePairs tree xyz threshold).map (proximityViolation t threshold xyz)
    minDist := minDistance acc.minDist (minSeparation xyz) }

def sweepAt (s : Show K) (limits : SafetyLimits K) (threshold dt : K) (acc : Sweep K) (t : K) :
    Sweep K :=
  (statesAt s t).foldl (sweepDrone limits dt t) (samplePairs tree s threshold acc t)

def startSweep : Sweep K where
  maxVel := 0
  maxAcc := 0
  maxYawRate := 0

omit [Sqrt K] in
/-- `_altitude_extremes`: the violations and the extremes. -/
def altitudeExtremes (s : Show K) (limits : SafetyLimits K) :
    List (K × AltitudeViolation K) × List (K × AltitudeViolation K) × K × K :=
  let altitudes := s.drones.flatMap fun d => d.2.map fun wp => -wp.z
  let above := s.drones.flatMap fun d => (d.2.filter fun wp => limits.maxAltitudeM < -wp.z).map
    fun wp => (-wp.z - limits.maxAltitudeM,
      ⟨roundTo 2 wp.time, d.1, roundTo 2 (-wp.z), roundTo 2 limits.maxAltitudeM⟩)
  let below := s.drones.flatMap fun d => (d.2.filter fun wp =>
    ¬ limits.maxAltitudeM < -wp.z ∧ -wp.z < 0).map
      fun wp => (-(-wp.z), ⟨roundTo 2 wp.time, d.1, roundTo 2 (-wp.z), 0⟩)
  (above, below, roundTo 2 (maxOr 0 altitudes), roundTo 2 (-maxOr 0 (altitudes.map fun a => -a)))

section

variable (s : Show K) (limits : SafetyLimits K)

def sweepShow (threshold dt : K) : Sweep K :=
  (sweepTimes s.duration dt).foldl (sweepAt tree s limits threshold dt) startSweep

def foundIn (threshold dt : K) : Found K where
  proximity := (sweepShow tree s limits threshold dt).proximity
  velocity := (sweepShow tree s limits threshold dt).velocity
  acceleration := (sweepShow tree s limits threshold dt).acceleration
  yawRate := (sweepShow tree s limits threshold dt).yawRate
  altitude := (altitudeExtremes s limits).1
  ground := (altitudeExtremes s limits).2.1

def validateShow (separation : Option K) (dt : K) : Report K :=
  let threshold := separation.getD limits.designSeparationM
  if s.drones = [] then
    { status := .failed
      summary := "No drones found in choreography."
      metrics := ⟨0, 0, 0, 0, 0, 0⟩
      violations := ⟨[], [], [], [], [], []⟩
      worstViolations := ⟨none, none, none, none, none, none⟩
      method := { sweepDtS := dt, samples := 0 } }
  else
    let extremes := altitudeExtremes s limits
    let swept := sweepShow tree s limits threshold dt
    let found := foundIn tree s limits threshold dt
    let violations := found.reported
    { status := if Clean violations then .passed else .failed
      summary := if Clean violations then "Choreography passed all safety checks!"
        else "Choreography failed safety validation checks."
      metrics := {
        minDistanceM := (swept.minDist.map (roundTo 2)).getD 0
        maxVelocityMS := roundTo 2 swept.maxVel
        maxAccelerationMS2 := roundTo 2 swept.maxAcc
        maxYawRateDegS := roundTo 2 swept.maxYawRate
        maxAltitudeM := extremes.2.2.1
        minAltitudeM := extremes.2.2.2 }
      violations
      worstViolations := found.worst
      method := { sweepDtS := dt, samples := (sweepTimes s.duration dt).length } }

end

/-! ## A report that passes -/

lemma exists_not_mem {α : Type} [DecidableEq α] {xs ys : List α} (hnodup : xs.Nodup)
    (hlt : ys.length < xs.length) : ∃ x ∈ xs, x ∉ ys := by
  by_contra hall
  push Not at hall
  have hsub : xs.Subperm ys := List.subperm_of_subset hnodup hall
  exact absurd hsub.length_le (not_le.mpr hlt)

lemma every_cons {α : Type} (step : Nat) (x : α) (xs : List α) :
    ∃ ys, every step (x :: xs) = x :: ys := by
  rw [every, List.zipIdx_cons, List.filter_cons, if_pos (by simp)]
  exact ⟨_, rfl⟩

lemma reportSubset_eq_nil_iff {V : Type} {found : List (K × V)} {cap : Nat} (hcap : 0 < cap) :
    reportSubset found cap = [] ↔ found = [] := by
  constructor
  · intro h
    unfold reportSubset at h
    split at h
    · exact List.map_eq_nil_iff.mp h
    next hlong =>
      exfalso
      simp only [List.filterMap_eq_nil_iff] at h
      generalize hsevere : ((List.range found.length).insertionSort fun i j =>
        excessAt found j ≤ excessAt found i).take (cap / 2) = severe at h
      generalize hrest : (List.range found.length).filter (fun i => i ∉ severe) = rest at h
      -- the most severe are too few, so the rest has a first index, and the sample takes it
      have hfew : severe.length < (List.range found.length).length := by
        rw [← hsevere, List.length_take, List.length_range]
        omega
      obtain ⟨i, hi, hout⟩ := exists_not_mem List.nodup_range hfew
      have hne : rest ≠ [] := by
        refine List.ne_nil_of_mem (a := i) ?_
        rw [← hrest]
        exact List.mem_filter.mpr ⟨hi, decide_eq_true hout⟩
      obtain ⟨x, xs, rfl⟩ := List.exists_cons_of_ne_nil hne
      have hx : x ∈ (List.range found.length).filter fun i => i ∉ severe := by
        rw [hrest]
        exact List.mem_cons_self ..
      have hrange := (List.mem_filter.mp hx).1
      obtain ⟨ys, hevery⟩ := every_cons (max 1 ((x :: xs).length / (cap - cap / 2))) x xs
      have hsample : x ∈ (every (max 1 ((x :: xs).length / (cap - cap / 2))) (x :: xs)).take
          (cap - cap / 2) := by
        obtain ⟨m, hm⟩ : ∃ m, cap - cap / 2 = m + 1 := ⟨cap - cap / 2 - 1, by omega⟩
        rw [hevery, hm, List.take_succ_cons]
        exact List.mem_cons_self ..
      have hnone := h x (List.mem_filter.mpr ⟨hrange, by simpa using Or.inr hsample⟩)
      rw [Option.map_eq_none_iff, List.getElem?_eq_none_iff] at hnone
      exact absurd (List.mem_range.mp hrange) (not_lt.mpr hnone)
  · rintro rfl
    rfl

lemma reported_clean_iff {found : Found K} : Clean found.reported ↔ Clean found := by
  have hcap : 0 < maxReported := by decide
  simp only [Clean, Found.reported, reportSubset_eq_nil_iff hcap]

lemma validateShow_passed_iff {s : Show K} {limits : SafetyLimits K} {separation : Option K}
    {dt : K} : (validateShow tree s limits separation dt).status = .passed ↔ s.drones ≠ [] ∧
        Clean (foundIn tree s limits (separation.getD limits.designSeparationM) dt) := by
  unfold validateShow
  split
  next hnil => simp [hnil]
  next hne =>
    have hclean :
        Clean (foundIn tree s limits (separation.getD limits.designSeparationM) dt).reported ↔
          Clean (foundIn tree s limits (separation.getD limits.designSeparationM) dt) :=
      reported_clean_iff
    constructor
    · intro h
      refine ⟨hne, hclean.mp ?_⟩
      by_contra hnot
      simp only [if_neg hnot] at h
      cases h
    · intro h
      exact if_pos (hclean.mpr h.2)

end Sweep

end Taramandal.Core.ShowReport
