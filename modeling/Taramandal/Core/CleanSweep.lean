import Taramandal.Core.ShowReport
import Taramandal.Lib.Logged

/-! # What a clean sweep says

At every sample no pair is too close, and from one sample to the next no drone is faster than the
limit. Both are read off the loop: the lists only grow, and a drone's entry in `prev` is its place
at the sample before. -/
set_option linter.unusedSectionVars false

namespace Taramandal.Core.CleanSweep

open Lib.Dict Lib.Logged Core.Numbers Core.Geometry Core.Safety Core.Shows Core.Validate
open Core.ShowReport

variable {K : Type} [Field K] [LinearOrder K] [FloorRing K] [Sqrt K] {limits : SafetyLimits K}
  {dt t : K} {acc : Sweep K}

/-- A drone's entry in `prev`, once its sample is taken. -/
lemma sweepDrone_prev_self (state : Nat × Waypoint K) :
    ∃ p, find (sweepDrone limits dt t acc state).prev state.1 = some p ∧ p.pos = place state.2 := by
  simp only [sweepDrone]
  split
  next => exact ⟨_, find_assign_self _ _ _, rfl⟩
  next => exact ⟨_, find_assign_self _ _ _, rfl⟩

variable {state : Nat × Waypoint K}

lemma sweepDrone_prev_ne {id : Nat} (h : state.1 ≠ id) :
    find (sweepDrone limits dt t acc state).prev id = find acc.prev id := by
  simp only [sweepDrone]
  split
  next => exact find_assign_ne _ _ h
  next => exact find_assign_ne _ _ h

lemma sweepDrone_proximity (state : Nat × Waypoint K) :
    (sweepDrone limits dt t acc state).proximity = acc.proximity := by
  simp only [sweepDrone]
  split <;> rfl

lemma velocity_appends : Appends Sweep.velocity (sweepDrone limits dt t) := by
  intro acc state
  simp only [sweepDrone]
  split
  next => exact List.prefix_refl _
  next => exact List.prefix_append _ _

lemma sweepDrone_speed {last : Previous K} (hlast : find acc.prev state.1 = some last)
    (hnil : (sweepDrone limits dt t acc state).velocity = []) :
    magnitude (rate (place state.2) last.pos dt) ≤ limits.maxVelocityMs := by
  simp only [sweepDrone, hlast] at hnil
  have hpast := (List.append_eq_nil_iff.mp hnil).2
  unfold past at hpast
  split at hpast
  · cases hpast
  next hslow => exact not_lt.mp hslow

section

variable {states : List (Nat × Waypoint K)}

lemma sweepDrones_prev_ne {id : Nat} (h : id ∉ states.map Prod.fst) :
    find (states.foldl (sweepDrone limits dt t) acc).prev id = find acc.prev id := by
  induction states generalizing acc with
  | nil => rfl
  | cons state states ih =>
    rw [List.map_cons, List.mem_cons, not_or] at h
    rw [List.foldl_cons, ih h.2, sweepDrone_prev_ne (Ne.symm h.1)]

variable {state : Nat × Waypoint K}

lemma sweepDrones_prev (hnodup : (states.map Prod.fst).Nodup) (h : state ∈ states) :
    ∃ p, find (states.foldl (sweepDrone limits dt t) acc).prev state.1 = some p ∧
      p.pos = place state.2 := by
  induction states generalizing acc with
  | nil => cases h
  | cons first states ih =>
    obtain ⟨hnew, hnodup⟩ := List.nodup_cons.mp hnodup
    rcases List.mem_cons.mp h with rfl | h
    · rw [List.foldl_cons, sweepDrones_prev_ne hnew]
      exact sweepDrone_prev_self state
    · exact ih hnodup h

lemma sweepDrones_speed (hnodup : (states.map Prod.fst).Nodup)
    (h : state ∈ states) {last : Previous K} (hlast : find acc.prev state.1 = some last)
    (hnil : (states.foldl (sweepDrone limits dt t) acc).velocity = []) :
    magnitude (rate (place state.2) last.pos dt) ≤ limits.maxVelocityMs := by
  induction states generalizing acc with
  | nil => cases h
  | cons first states ih =>
    obtain ⟨hnew, hnodup⟩ := List.nodup_cons.mp hnodup
    rcases List.mem_cons.mp h with rfl | h
    · exact sweepDrone_speed hlast (nil_of_begins (velocity_appends.foldl _ states) hnil)
    · have hne : first.1 ≠ state.1 := fun heq => hnew (heq ▸ List.mem_map_of_mem h)
      exact ih hnodup h (by rw [sweepDrone_prev_ne hne]; exact hlast) hnil

lemma sweepDrones_proximity :
    (states.foldl (sweepDrone limits dt t) acc).proximity = acc.proximity := by
  induction states generalizing acc with
  | nil => rfl
  | cons state states ih => rw [List.foldl_cons, ih, sweepDrone_proximity]

end

section

variable {tree : KdTree K} {s : Show K} {threshold : K}

lemma states_nodup (s : Show K) (t : K) : ((statesAt s t).map Prod.fst).Nodup := by
  have hsub : ((statesAt s t).map Prod.fst).Sublist (s.drones.map Prod.fst) := by
    unfold statesAt
    induction s.drones with
    | nil => exact List.Sublist.refl []
    | cons d drones ih =>
      rw [List.filterMap_cons]
      split
      next => exact ih.cons d.1
      next state hstate =>
        obtain ⟨wp, -, rfl⟩ := Option.map_eq_some_iff.mp hstate
        exact ih.cons_cons d.1
  exact s.unique.sublist hsub

lemma sweepAt_velocity_appends : Appends Sweep.velocity (sweepAt tree s limits threshold dt) :=
  fun acc t => velocity_appends.foldl (samplePairs tree s threshold acc t) (statesAt s t)

lemma sweepAt_proximity (acc : Sweep K) (t : K) :
    (sweepAt tree s limits threshold dt acc t).proximity = acc.proximity ++
      (closePairs tree (positionsAt s t) threshold).map
        (proximityViolation t threshold (positionsAt s t)) :=
  sweepDrones_proximity

lemma sweepAt_proximity_appends : Appends Sweep.proximity (sweepAt tree s limits threshold dt) := by
  intro acc t
  rw [sweepAt_proximity]
  exact List.prefix_append _ _

lemma closePairs_of_clean (h : (sweepShow tree s limits threshold dt).proximity = [])
    (ht : t ∈ sweepTimes s.duration dt) : closePairs tree (positionsAt s t) threshold = [] := by
  obtain ⟨pre, post, hsplit⟩ := List.append_of_mem ht
  rw [sweepShow, hsplit, List.append_cons] at h
  have hnil := sweepAt_proximity_appends.nil_before h
  rw [List.foldl_append, List.foldl_cons, List.foldl_nil, sweepAt_proximity] at hnil
  exact List.map_eq_nil_iff.mp (List.append_eq_nil_iff.mp hnil).2

lemma speed_of_clean (h : (sweepShow tree s limits threshold dt).velocity = []) {t' : K}
    {pre post : List K} (hsplit : sweepTimes s.duration dt = pre ++ t :: t' :: post) {id : Nat}
    {w w' : Waypoint K} (hw : (id, w) ∈ statesAt s t) (hw' : (id, w') ∈ statesAt s t') :
    magnitude (rate (place w') (place w) dt) ≤ limits.maxVelocityMs := by
  rw [sweepShow, hsplit, List.append_cons, List.append_cons] at h
  have hnil := sweepAt_velocity_appends.nil_before h
  rw [List.foldl_append, List.foldl_append, List.foldl_cons, List.foldl_nil, List.foldl_cons,
    List.foldl_nil] at hnil
  generalize pre.foldl (sweepAt tree s limits threshold dt) startSweep = before at hnil
  obtain ⟨last, hlast, hpos⟩ :
      ∃ p, find (sweepAt tree s limits threshold dt before t).prev id = some p ∧
        p.pos = place w := sweepDrones_prev (states_nodup s t) hw
  have hentry : find (samplePairs tree s threshold
      (sweepAt tree s limits threshold dt before t) t').prev id = some last := hlast
  rw [← hpos]
  exact sweepDrones_speed (states_nodup s t') hw' hentry hnil

end

end Taramandal.Core.CleanSweep

/-! ## What the two gates depend on

Neither the order of the drones nor anything of a waypoint beside its time and its position
decides whether a show passes the collision and the altitude gate. -/
namespace Taramandal.Core.CleanShows

open Core.Numbers Core.Geometry Core.Safety Core.Shows Core.Validate

variable {K : Type} [Field K] [LinearOrder K]

section

variable [Sqrt K] {tree : KdTree K}

/-- `cKDTree.query_pairs` gives each pair with the lower index first. -/
def LowerFirst (tree : KdTree K) : Prop :=
  ∀ (coords : List (Point K)) (r : K), ∀ p ∈ tree.queryPairs coords r, p.1 < p.2

lemma closePairs_eq_nil_iff (hlower : LowerFirst tree) {positions : List (Nat × Point K)}
    {threshold : K} : closePairs tree positions threshold = [] ↔
      positions.Pairwise fun a b => threshold ≤ pointDist a.2 b.2 := by
  rw [List.pairwise_iff_getElem]
  constructor
  · intro h i j hi hj hij
    exact le_pointDist_of_closePairs_eq_nil tree h hij (List.getElem?_eq_getElem hi)
      (List.getElem?_eq_getElem hj)
  · intro h
    unfold closePairs
    split
    next => rfl
    next =>
      have hnone : (tree.queryPairs (positions.map Prod.snd) threshold).filterMap
          (fun p => closePair positions threshold p.1 p.2) = [] := by
        rw [List.filterMap_eq_nil_iff]
        intro p hp
        have hlt := hlower _ _ p hp
        unfold closePair
        split
        next a q b r ha hb =>
          obtain ⟨hi, hqa⟩ := List.getElem?_eq_some_iff.mp ha
          obtain ⟨hj, hrb⟩ := List.getElem?_eq_some_iff.mp hb
          have hfar := h p.1 p.2 hi hj hlt
          rw [hqa, hrb] at hfar
          rw [if_pos hfar]
        next => rfl
      rw [hnone]
      rfl

lemma lowerFirst_bruteForce : LowerFirst (bruteForce : KdTree K) := fun _ _ _ => lt_of_bruteForce

lemma pointDist_comm (p q : Point K) : pointDist p q = pointDist q p := by
  rw [pointDist, pointDist, distSq_comm]

end

section

variable [FloorRing K]

variable {maxErrors : Nat}

lemma collisionErrors_eq_nil_iff [Sqrt K] {tree : KdTree K} (hlower : LowerFirst tree)
    {s : Show K} {limits : SafetyLimits K} {separation : Option K} :
    collisionErrors tree s limits separation maxErrors = [] ↔
      ∀ t ∈ sweepTimes s.duration (1 / 10), (positionsAt s t).Pairwise fun a b =>
        separation.getD limits.minSeparationM ≤ pointDist a.2 b.2 := by
  constructor
  · intro h t ht
    exact (closePairs_eq_nil_iff hlower).mp (collisionErrors_eq_nil h ht)
  · intro h
    have hnone : (sweepTimes s.duration (1 / 10)).flatMap (fun t =>
        (closePairs tree (positionsAt s t) (separation.getD limits.minSeparationM)).map
          (collisionText t (separation.getD limits.minSeparationM))) = [] := by
      rw [List.flatMap_eq_nil_iff]
      intro t ht
      rw [(closePairs_eq_nil_iff hlower).mpr (h t ht)]
      rfl
    unfold collisionErrors
    simp only [hnone]
    rfl

lemma altitudeErrors_eq_nil_iff {s : Show K} {limits : SafetyLimits K} :
    altitudeErrors s limits maxErrors = [] ↔
      ∀ d ∈ s.drones, ∀ wp ∈ d.2, 0 ≤ -wp.z ∧ -wp.z ≤ limits.maxAltitudeM := by
  constructor
  · intro h d hd wp hwp
    exact altitudeErrors_eq_nil h hd hwp
  · intro h
    have habove : altitudeFound s limits = [] := by
      refine List.flatMap_eq_nil_iff.mpr fun d hd => ?_
      refine List.map_eq_nil_iff.mpr (List.filter_eq_nil_iff.mpr fun wp hwp => ?_)
      simpa using (h d hd wp hwp).2
    have hbelow : groundFound s limits = [] := by
      refine List.flatMap_eq_nil_iff.mpr fun d hd => ?_
      refine List.map_eq_nil_iff.mpr (List.filter_eq_nil_iff.mpr fun wp hwp => ?_)
      have hground := (h d hd wp hwp).1
      simp only [decide_eq_true_eq, not_and, not_lt]
      exact fun _ => hground
    rw [altitudeErrors, habove, hbelow]
    rfl

end

/-! ## Shows that fly the same -/

def bare (w : Waypoint K) : Waypoint K :=
  { w with vx := none, vy := none, vz := none, extra := [] }

def bareTrack (d : Nat × List (Waypoint K)) : Nat × List (Waypoint K) := (d.1, d.2.map bare)

/-- The same waypoints under each id, but for the keys that no gate reads. -/
def SameTracks (s s' : Show K) : Prop :=
  (s.drones.map bareTrack).Perm (s'.drones.map bareTrack)

lemma bisectLeft_bare (wps : List (Waypoint K)) (t : K) :
    bisectLeft (wps.map bare) t = bisectLeft wps t := by
  have htest : (fun i : Nat => ((wps.map bare)[i]?).all fun w => decide (t ≤ w.time)) =
      fun i => (wps[i]?).all fun w => decide (t ≤ w.time) := by
    funext i
    rw [List.getElem?_map, Option.all_map]
    rfl
  rw [bisectLeft, bisectLeft, htest, List.length_map]

lemma interpolateWaypoint_bare [FloorRing K] (wps : List (Waypoint K)) (t : K) :
    (interpolateWaypoint (wps.map bare) t).map (fun w => (w.x, w.y, w.z)) =
      (interpolateWaypoint wps t).map fun w => (w.x, w.y, w.z) := by
  cases hfirst : wps.head? with
  | none => simp only [interpolateWaypoint, List.head?_map, hfirst, Option.map_none]
  | some first =>
    cases hlast : wps.getLast? with
    | none => simp only [interpolateWaypoint, List.head?_map, List.getLast?_map, hfirst, hlast,
        Option.map_none, Option.map_some]
    | some last =>
      simp only [interpolateWaypoint, List.head?_map, List.getLast?_map, List.getElem?_map,
        bisectLeft_bare, hfirst, hlast, Option.map_some]
      by_cases hbefore : t ≤ first.time
      · rw [if_pos hbefore, if_pos (show t ≤ (bare first).time from hbefore)]
        rfl
      · rw [if_neg hbefore, if_neg (show ¬ t ≤ (bare first).time from hbefore)]
        by_cases hafter : last.time ≤ t
        · rw [if_pos hafter, if_pos (show (bare last).time ≤ t from hafter)]
          rfl
        · rw [if_neg hafter, if_neg (show ¬ (bare last).time ≤ t from hafter)]
          cases wps[bisectLeft wps t - 1]? with
          | none => rfl
          | some w1 =>
            cases wps[bisectLeft wps t]? with
            | none => rfl
            | some w2 => rfl

lemma positionsAt_map_bare [FloorRing K] (drones : List (Nat × List (Waypoint K))) (t : K) :
    (drones.map bareTrack).filterMap (fun d =>
        (interpolateWaypoint d.2 t).map fun wp => (d.1, wp.x, wp.y, wp.z)) =
      drones.filterMap fun d =>
        (interpolateWaypoint d.2 t).map fun wp => (d.1, wp.x, wp.y, wp.z) := by
  rw [List.filterMap_map]
  refine List.filterMap_congr fun d _ => ?_
  have h := congrArg (Option.map fun p : Point K => (d.1, p)) (interpolateWaypoint_bare d.2 t)
  simpa [bareTrack, Function.comp_def] using h

lemma maxOr_perm {default : K} {vs us : List K} (h : vs.Perm us) :
    maxOr default vs = maxOr default us := by
  cases vs with
  | nil => rw [h.nil_eq]
  | cons v vs =>
    have hmem (us : List K) (hne : us ≠ []) : maxOr default us ∈ us := by
      cases us with
      | nil => exact absurd rfl hne
      | cons u us =>
        rcases (le_foldl_max us u).2.2 with heq | hin
        · rw [maxOr, heq]
          exact List.mem_cons_self ..
        · exact List.mem_cons_of_mem u hin
    have hne : us ≠ [] := fun hnil => by simp [hnil] at h
    exact le_antisymm (le_maxOr (h.mem_iff.mp (hmem _ (List.cons_ne_nil v vs))))
      (le_maxOr (h.mem_iff.mpr (hmem us hne)))

lemma last_times_bare (drones : List (Nat × List (Waypoint K))) :
    (drones.map bareTrack).filterMap (fun d => d.2.getLast?.map Waypoint.time) =
      drones.filterMap fun d => d.2.getLast?.map Waypoint.time := by
  rw [List.filterMap_map]
  refine List.filterMap_congr fun d _ => ?_
  simp [bareTrack, List.getLast?_map, Function.comp_def, bare]

namespace SameTracks

variable {s s' : Show K}

lemma symm (h : SameTracks s s') : SameTracks s' s := List.Perm.symm h

lemma duration_eq (h : SameTracks s s') : s.duration = s'.duration := by
  have hperm := h.filterMap fun d => d.2.getLast?.map Waypoint.time
  rw [last_times_bare, last_times_bare] at hperm
  exact maxOr_perm hperm

lemma positionsAt_perm [FloorRing K] (h : SameTracks s s') (t : K) :
    (positionsAt s t).Perm (positionsAt s' t) := by
  have hperm := h.filterMap fun d =>
    (interpolateWaypoint d.2 t).map fun wp => (d.1, wp.x, wp.y, wp.z)
  rwa [positionsAt_map_bare, positionsAt_map_bare] at hperm

variable {maxErrors : Nat}

lemma collisions_clean [FloorRing K] [Sqrt K] {tree : KdTree K} (hlower : LowerFirst tree)
    (h : SameTracks s s') {limits : SafetyLimits K} {separation : Option K}
    (hclean : collisionErrors tree s limits separation maxErrors = []) :
    collisionErrors tree s' limits separation maxErrors = [] := by
  rw [collisionErrors_eq_nil_iff hlower] at hclean ⊢
  intro t ht
  rw [← h.duration_eq] at ht
  refine (h.positionsAt_perm t).pairwise (hclean t ht) fun {a b} hab => ?_
  rwa [pointDist_comm]

lemma altitudes_clean [FloorRing K] (h : SameTracks s s')
    {limits : SafetyLimits K} (hclean : altitudeErrors s limits maxErrors = []) :
    altitudeErrors s' limits maxErrors = [] := by
  rw [altitudeErrors_eq_nil_iff] at hclean ⊢
  intro d hd wp hwp
  obtain ⟨d', hd', heq⟩ := List.mem_map.mp (h.mem_iff.mpr (List.mem_map_of_mem hd))
  have hbare : bare wp ∈ (bareTrack d').2 := by
    rw [heq]
    exact List.mem_map_of_mem hwp
  obtain ⟨wp', hwp', hsame⟩ := List.mem_map.mp hbare
  have hz : (bare wp').z = (bare wp).z := congrArg Waypoint.z hsame
  change wp'.z = wp.z at hz
  rw [← hz]
  exact hclean d' hd' wp' hwp'

end SameTracks

end Taramandal.Core.CleanShows
