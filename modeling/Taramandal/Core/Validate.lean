import Taramandal.Core.Schema

/-! # The collision and the altitude gate (`validate.py`, `proximity.py`)

`collisionErrors` samples a show every 0.1 s and reports the pairs that are too
close; `altitudeErrors` reads every waypoint. The spatial tree behind the pair
search is a parameter: a search that finds at least every pair within the
radius. Both gates stop after `maxErrors` texts, and a gate that reports nothing
has checked everything (`collisionErrors_eq_nil`, `altitudeErrors_eq_nil`). -/
namespace Taramandal.Core.Validate

open Core.Numbers Core.Geometry Core.Safety Core.Shows

abbrev Point (K : Type) := K × K × K

variable {K : Type} [Field K] [LinearOrder K]

def distSq (p q : Point K) : K :=
  (p.1 - q.1) * (p.1 - q.1) + (p.2.1 - q.2.1) * (p.2.1 - q.2.1) + (p.2.2 - q.2.2) * (p.2.2 - q.2.2)

/-- `np.linalg.norm(p - q)`. -/
def pointDist [Sqrt K] (p q : Point K) : K := sqrt (distSq p q)

/-- `cKDTree.query_pairs`: index pairs `i < j` of points, among them every pair
within the radius. -/
structure KdTree (K : Type) [Field K] [LinearOrder K] [Sqrt K] where
  queryPairs : List (Point K) → K → List (Nat × Nat)
  complete : ∀ (coords : List (Point K)) (r : K) (i j : Nat) (p q : Point K), i < j →
    coords[i]? = some p → coords[j]? = some q → pointDist p q ≤ r → (i, j) ∈ queryPairs coords r

section

variable [Sqrt K] (tree : KdTree K)

/-- One reported pair, the lower id first. -/
structure ClosePair (K : Type) where
  a : Nat
  b : Nat
  distance : K

/-- The pair of drones at two indices, if they are closer than the threshold. -/
def closePair (positions : List (Nat × Point K)) (threshold : K) (i j : Nat) :
    Option (ClosePair K) :=
  match positions[i]?, positions[j]? with
  | some (a, p), some (b, q) =>
    if threshold ≤ pointDist p q then none
    else if a < b then some ⟨a, b, pointDist p q⟩ else some ⟨b, a, pointDist p q⟩
  | _, _ => none

/-- `close_pairs`: every pair closer than the threshold, closest first. -/
def closePairs (positions : List (Nat × Point K)) (threshold : K) : List (ClosePair K) :=
  if positions.length < 2 then []
  else ((tree.queryPairs (positions.map Prod.snd) threshold).filterMap fun p =>
    closePair positions threshold p.1 p.2).insertionSort fun c d => c.distance ≤ d.distance

omit [LinearOrder K] [Sqrt K] in
lemma distSq_comm (p q : Point K) : distSq p q = distSq q p := by
  unfold distSq; ring

omit [Sqrt K] in
lemma distSq_nonneg [IsStrictOrderedRing K] (p q : Point K) : 0 ≤ distSq p q :=
  add_nonneg (add_nonneg (mul_self_nonneg _) (mul_self_nonneg _)) (mul_self_nonneg _)

lemma le_pointDist_of_closePairs_eq_nil {positions : List (Nat × Point K)} {threshold : K}
    (h : closePairs tree positions threshold = []) {i j : Nat} {a b : Nat} {p q : Point K}
    (hij : i < j) (hi : positions[i]? = some (a, p)) (hj : positions[j]? = some (b, q)) :
    threshold ≤ pointDist p q := by
  obtain ⟨hjlt, _⟩ := List.getElem?_eq_some_iff.mp hj
  have hlen : ¬ positions.length < 2 := by omega
  by_contra hlt
  have hclose : pointDist p q < threshold := not_le.mp hlt
  have hmem : (i, j) ∈ tree.queryPairs (positions.map Prod.snd) threshold :=
    tree.complete _ _ i j p q hij (by simp [hi]) (by simp [hj]) hclose.le
  have hpair : ∃ c, closePair positions threshold i j = some c := by
    simp only [closePair, hi, hj, if_neg hlt]
    split <;> exact ⟨_, rfl⟩
  obtain ⟨c, hc⟩ := hpair
  have hin : c ∈ closePairs tree positions threshold := by
    rw [closePairs, if_neg hlen, List.mem_insertionSort]
    exact List.mem_filterMap.mpr ⟨(i, j), hmem, hc⟩
  rw [h] at hin
  cases hin

end

/-- Append texts until there are `maxErrors` of them. -/
def upTo (maxErrors : Nat) : List String → List String → List String
  | errors, [] => errors
  | errors, e :: rest =>
    if maxErrors ≤ (errors ++ [e]).length then errors ++ [e] else upTo maxErrors (errors ++ [e]) rest

variable {maxErrors : Nat}

lemma upTo_ne_nil {errors rest : List String} (h : errors ≠ []) :
    upTo maxErrors errors rest ≠ [] := by
  induction rest generalizing errors with
  | nil => exact h
  | cons e rest ih =>
    unfold upTo
    split
    · simp
    · exact ih (by simp)

lemma upTo_eq_nil {texts : List String} (h : upTo maxErrors [] texts = []) : texts = [] := by
  cases texts with
  | nil => rfl
  | cons e rest =>
    unfold upTo at h
    split at h
    · cases h
    · exact absurd h (upTo_ne_nil (by simp))

section

variable [FloorRing K]

/-- `_positions_at`: where every drone of the show is at time `t`. -/
def positionsAt (s : Show K) (t : K) : List (Nat × Point K) :=
  s.drones.filterMap fun d => (interpolateWaypoint d.2 t).map fun wp => (d.1, wp.x, wp.y, wp.z)

def collisionText (t threshold : K) (c : ClosePair K) : String :=
  "Collision risk at " ++ fixed 1 t ++ "s: Drone " ++ toString c.a ++ " and Drone " ++
    toString c.b ++ " are separated by " ++ fixed 2 c.distance ++ "m (limit: " ++
    floatStr threshold ++ "m)"

def collisionErrors [Sqrt K] (tree : KdTree K) (s : Show K) (limits : SafetyLimits K)
    (separation : Option K) (maxErrors : Nat) : List String :=
  let threshold := separation.getD limits.minSeparationM
  upTo maxErrors [] ((sweepTimes s.duration (1 / 10)).flatMap fun t =>
    (closePairs tree (positionsAt s t) threshold).map (collisionText t threshold))

/-- One entry of `_altitude_extremes`. -/
structure AltitudeViolation (K : Type) where
  time : K
  drone : Nat
  altitude : K
  limit : K

/-- What `_altitude_extremes` finds above the ceiling. -/
def altitudeFound (s : Show K) (limits : SafetyLimits K) : List (AltitudeViolation K) :=
  s.drones.flatMap fun d => (d.2.filter fun wp => limits.maxAltitudeM < -wp.z).map fun wp =>
    ⟨roundTo 2 wp.time, d.1, roundTo 2 (-wp.z), roundTo 2 limits.maxAltitudeM⟩

/-- What `_altitude_extremes` finds below the ground. -/
def groundFound (s : Show K) (limits : SafetyLimits K) : List (AltitudeViolation K) :=
  s.drones.flatMap fun d => (d.2.filter fun wp => ¬ limits.maxAltitudeM < -wp.z ∧ -wp.z < 0).map
    fun wp => ⟨roundTo 2 wp.time, d.1, roundTo 2 (-wp.z), 0⟩

def altitudeText (v : AltitudeViolation K) : String :=
  if v.limit = 0 then
    "Ground violation at " ++ fixed 1 v.time ++ "s: Drone " ++ toString v.drone ++ " is " ++
      fixed 2 (-v.altitude) ++ "m below ground level."
  else
    "Altitude violation at " ++ fixed 1 v.time ++ "s: Drone " ++ toString v.drone ++ " is " ++
      fixed 2 v.altitude ++ "m above ground (limit: " ++ floatStr v.limit ++ "m)."

def altitudeErrors (s : Show K) (limits : SafetyLimits K) (maxErrors : Nat) : List String :=
  upTo maxErrors [] (((altitudeFound s limits ++ groundFound s limits).insertionSort
    fun v w => v.time ≤ w.time).map altitudeText)

variable {s : Show K} {t : K} {d : Nat × List (Waypoint K)} {wp : Waypoint K}
  {limits : SafetyLimits K} {maxErrors : Nat}

lemma positionsAt_eq
    (hs : ∀ d ∈ s.drones, ∃ wp, interpolateWaypoint d.2 t = some wp) {i : Nat} (hd : s.drones[i]? = some d)
    (hwp : interpolateWaypoint d.2 t = some wp) :
    (positionsAt s t)[i]? = some (d.1, wp.x, wp.y, wp.z) := by
  have hmap : positionsAt s t = s.drones.map fun d => (((interpolateWaypoint d.2 t).map fun wp =>
        (d.1, wp.x, wp.y, wp.z)).getD (0, 0, 0, 0)) := by
    rw [positionsAt, ← List.filterMap_eq_map]
    refine List.filterMap_congr fun d hd => ?_
    obtain ⟨wp, hwp⟩ := hs d hd
    simp [hwp]
  simp [hmap, hd, hwp]

/-- An empty collision report: at every sample, any two drones of the show keep
the threshold. -/
lemma collisionErrors_eq_nil [Sqrt K] {tree : KdTree K} {separation : Option K}
    (h : collisionErrors tree s limits separation maxErrors = [])
    (ht : t ∈ sweepTimes s.duration (1 / 10)) :
    closePairs tree (positionsAt s t) (separation.getD limits.minSeparationM) = [] := by
  have hall := List.flatMap_eq_nil_iff.mp (upTo_eq_nil h) t ht
  exact List.map_eq_nil_iff.mp hall

/-- An empty altitude report: every waypoint lies between the ground and the
ceiling. -/
lemma altitudeErrors_eq_nil (h : altitudeErrors s limits maxErrors = [])
    (hd : d ∈ s.drones) (hwp : wp ∈ d.2) : 0 ≤ -wp.z ∧ -wp.z ≤ limits.maxAltitudeM := by
  have hsort := List.map_eq_nil_iff.mp (upTo_eq_nil h)
  have hnil : altitudeFound s limits ++ groundFound s limits = [] := by
    rw [← List.length_eq_zero_iff, ← List.length_insertionSort (fun v w => v.time ≤ w.time),
      hsort, List.length_nil]
  obtain ⟨ha, hg⟩ := List.append_eq_nil_iff.mp hnil
  have hceil : ¬ limits.maxAltitudeM < -wp.z := by
    intro hlt
    have := List.map_eq_nil_iff.mp (List.flatMap_eq_nil_iff.mp ha d hd)
    exact absurd (List.mem_filter.mpr ⟨hwp, by simpa using hlt⟩) (this ▸ List.not_mem_nil)
  refine ⟨?_, not_lt.mp hceil⟩
  by_contra hneg
  have := List.map_eq_nil_iff.mp (List.flatMap_eq_nil_iff.mp hg d hd)
  exact absurd (List.mem_filter.mpr ⟨hwp, by simpa using ⟨not_lt.mp hceil, not_le.mp hneg⟩⟩)
    (this ▸ List.not_mem_nil)

end

def bruteForce [Sqrt K] : KdTree K where
  queryPairs coords r :=
    (List.range coords.length).flatMap fun j => ((List.range j).filter fun i =>
      match coords[i]?, coords[j]? with
      | some p, some q => pointDist p q ≤ r
      | _, _ => false).map fun i => (i, j)
  complete coords r i j p q hij hi hj hr := by
    obtain ⟨hlt, _⟩ := List.getElem?_eq_some_iff.mp hj
    refine List.mem_flatMap.mpr ⟨j, List.mem_range.mpr hlt, List.mem_map.mpr ⟨i, ?_, rfl⟩⟩
    exact List.mem_filter.mpr ⟨List.mem_range.mpr hij, by simp [hi, hj, hr]⟩

lemma lt_of_bruteForce [Sqrt K] {coords : List (Point K)} {r : K} {p : ℕ × ℕ}
    (h : p ∈ bruteForce.queryPairs coords r) : p.1 < p.2 := by
  obtain ⟨j, -, h⟩ := List.mem_flatMap.mp h
  obtain ⟨i, hi, rfl⟩ := List.mem_map.mp h
  exact List.mem_range.mp (List.mem_of_mem_filter hi)

end Taramandal.Core.Validate
