import Mathlib.Analysis.Calculus.Deriv.Pow
import Mathlib.Analysis.Calculus.MeanValue
import Taramandal.Core.Vectors
import Taramandal.Gcs.StartBridge
import Taramandal.Lib.Approach

/-! # The transition leg at every instant (`build_start_bridge`)

All drones fly the same fraction of their legs at the same time: the minimum-jerk
curve at the samples, its chords between them. So what the check reads off each
step is the distance at every instant of it, and the chords are no steeper than the
curve. -/
set_option linter.unusedSectionVars false

namespace Taramandal.Gcs.BridgeSafety

open Lib.Approach Lib.Dict Core.Numbers Core.Geometry Core.Safety Core.Shows Core.Validate
open Core.Vectors Gcs.StartBridge

section Track

variable {K : Type} [Field K] [LinearOrder K]

/-- The fraction of a leg that is flown at sample `k`. -/
def fraction (steps k : ℕ) : K := minJerk ((k : K) / steps)

/-- Where a drone with these waypoints is at `t`. -/
def placeAt [FloorRing K] (waypoints : List (Waypoint K)) (t : K) : Option (Point K) :=
  (interpolateWaypoint waypoints t).map fun w => (w.x, w.y, w.z)

/-- What the last waypoint of a show that takes no time must be: where the first is. -/
def SettledAtZero (waypoints : List (Waypoint K)) : Prop :=
  ∀ first ∈ waypoints.head?, ∀ last ∈ waypoints.getLast?, last.time = 0 →
    (last.x, last.y, last.z) = (first.x, first.y, first.z)

variable {steps : ℕ} {leg : Leg K} {waypoints : List (Waypoint K)} {first : Waypoint K}

omit [LinearOrder K] in
lemma legPoint_one (leg : Leg K) : legPoint leg 1 = leg.goal := by
  simp [legPoint]

variable [IsStrictOrderedRing K]

lemma fraction_last (h : 0 < steps) : (fraction steps steps : K) = 1 := by
  have hne : (steps : K) ≠ 0 := Nat.cast_ne_zero.mpr h.ne'
  rw [fraction, div_self hne]
  norm_num [minJerk]

lemma head_held (bridgeS : K) (hf : waypoints.head? = some first) (h0 : 0 ≤ first.time) :
    ∃ w, (held bridgeS waypoints).head? = some w ∧ w.time = bridgeS ∧
      (w.x, w.y, w.z) = (first.x, first.y, first.z) ∧ w.yaw = first.yaw := by
  cases waypoints with
  | nil => cases hf
  | cons v rest =>
    cases hf
    simp only [held, delayed, List.map_cons]
    split
    next => exact ⟨_, rfl, rfl, rfl, rfl⟩
    next hle => exact ⟨_, rfl, by linarith, rfl, rfl⟩

variable {last : Waypoint K}

omit [IsStrictOrderedRing K] in
lemma last_held (bridgeS : K) (hl : waypoints.getLast? = some last) :
    (held bridgeS waypoints).getLast? = some { last with time := last.time + bridgeS } := by
  have hd : (delayed bridgeS waypoints).getLast? =
      some { last with time := last.time + bridgeS } := by
    simp [delayed, List.getLast?_map, hl]
  unfold held
  split
  next he => rw [he] at hd; cases hd
  next w rest he =>
    rw [he] at hd
    split
    · rw [List.getLast?_cons_cons]; exact hd
    · exact hd

lemma bridged_sample (hf : waypoints.head? = some first) (h0 : 0 ≤ first.time)
    (hgoal : leg.goal = (first.x, first.y, first.z)) (hyaw : leg.yaw = first.yaw)
    (hsteps : 0 < steps) {j : ℕ} (hj : j ≤ steps) :
    ∃ w, (withLeg steps leg waypoints)[j]? = some w ∧
      w.time = (j : K) * bridgeSampleS ∧ (w.x, w.y, w.z) = legPoint leg (fraction steps j) ∧
      w.yaw = first.yaw := by
  have hlen : (legSamples steps leg).length = steps := by simp [legSamples]
  rcases hj.lt_or_eq with hlt | rfl
  · rw [List.getElem?_append_left (by omega)]
    refine ⟨_, by rw [legSamples, List.getElem?_map, List.getElem?_range hlt, Option.map_some], ?_⟩
    exact ⟨rfl, rfl, hyaw⟩
  · obtain ⟨w, hw, htime, hplace, hwyaw⟩ := head_held ((j : K) * bridgeSampleS) hf h0
    rw [List.getElem?_append_right (by omega), hlen, Nat.sub_self, ← List.head?_eq_getElem?]
    refine ⟨w, hw, htime, ?_, hwyaw⟩
    rw [hplace, fraction_last hsteps, legPoint_one, hgoal]

lemma last_bridged (steps : ℕ) (leg : Leg K) (hl : waypoints.getLast? = some last) :
    (withLeg steps leg waypoints).getLast? =
      some { last with time := last.time + steps * bridgeSampleS } := by
  rw [List.getLast?_append, last_held _ hl, Option.some_or]

/-- The leg that `legOf` gives a drone with this first waypoint. -/
structure LegTo (leg : Leg K) (first : Waypoint K) : Prop where
  goal : leg.goal = (first.x, first.y, first.z)
  yaw : leg.yaw = first.yaw

lemma placeAt_step [FloorRing K] (hord : TimeOrdered waypoints)
    (h0 : ∀ w ∈ waypoints, 0 ≤ w.time) (hf : waypoints.head? = some first) (hleg : LegTo leg first) (hl : waypoints.getLast? = some last) {k : ℕ} (hk : k < steps) {u : K}
    (hu0 : 0 < u) (hu1 : u ≤ 1)
    (hend : (k + u) * bridgeSampleS < last.time + steps * bridgeSampleS) :
    placeAt (withLeg steps leg waypoints) ((k + u) * bridgeSampleS) =
      some (legPoint leg (chord (fraction steps) k u)) := by
  have hsteps : 0 < steps := Nat.zero_lt_of_lt hk
  have hfirst : 0 ≤ first.time := h0 first (List.mem_of_head? hf)
  obtain ⟨w1, h1, htime1, hplace1, -⟩ :=
    bridged_sample hf hfirst hleg.goal hleg.yaw hsteps hk.le
  obtain ⟨w2, h2, htime2, hplace2, -⟩ := bridged_sample hf hfirst hleg.goal hleg.yaw hsteps hk
  have hspan : w2.time - w1.time = bridgeSampleS := by
    rw [htime1, htime2, ← sub_mul, Nat.cast_succ, add_sub_cancel_left, one_mul]
  have hlt : w1.time < (k + u) * bridgeSampleS := by
    rw [htime1]
    exact mul_lt_mul_of_pos_right (lt_add_of_pos_right _ hu0) bridgeSampleS_pos
  have hle : (k + u) * bridgeSampleS ≤ w2.time := by
    rw [htime2, Nat.cast_succ]
    exact mul_le_mul_of_nonneg_right (add_le_add_right hu1 _) bridgeSampleS_pos.le
  have hratio : segmentRatio w1 w2 ((k + u) * bridgeSampleS) = u := by
    rw [segmentRatio, hspan, if_pos bridgeSampleS_pos, htime1, ← sub_mul, add_sub_cancel_left,
      mul_div_cancel_right₀ _ bridgeSampleS_pos.ne']
  rw [placeAt, interpolateWaypoint_within (bridged_ordered hord h0) h1 h2
    (last_bridged steps leg hl) hlt hle hend, Option.map_some]
  simp only [segmentState, hratio, legPoint, chord, Prod.mk.injEq] at hplace1 hplace2 ⊢
  obtain ⟨hx1, hy1, hz1⟩ := hplace1
  obtain ⟨hx2, hy2, hz2⟩ := hplace2
  rw [hx1, hy1, hz1, hx2, hy2, hz2]
  refine congrArg some (Prod.ext ?_ (Prod.ext ?_ ?_)) <;> ring

section

variable [FloorRing K] (hf : waypoints.head? = some first) (h0 : 0 ≤ first.time)
  (hleg : LegTo leg first)
include hf h0 hleg

lemma placeAt_start (hsteps : 0 < steps) : placeAt (withLeg steps leg waypoints) 0 =
      some (legPoint leg (fraction steps 0)) := by
  obtain ⟨s0, hs0, htime, hplace, -⟩ :=
    bridged_sample hf h0 hleg.goal hleg.yaw hsteps (Nat.zero_le steps)
  rw [← List.head?_eq_getElem?] at hs0
  rw [Nat.cast_zero, zero_mul] at htime
  have hne : withLeg steps leg waypoints ≠ [] := by
    intro hnil
    rw [hnil] at hs0
    cases hs0
  have he : interpolateWaypoint (withLeg steps leg waypoints) 0 = some s0 := by
    simp [interpolateWaypoint, hs0, List.getLast?_eq_some_getLast hne, htime]
  rw [placeAt, he, Option.map_some, hplace]

lemma placeAt_end (hl : waypoints.getLast? = some last)
    (hsteps : 0 < steps) (hlast : last.time = 0) :
    placeAt (withLeg steps leg waypoints) (steps * bridgeSampleS) = some (last.x, last.y, last.z) := by
  have hs : (0 : K) < steps * bridgeSampleS :=
    mul_pos (Nat.cast_pos.mpr hsteps) bridgeSampleS_pos
  obtain ⟨s0, hs0, htime, -⟩ :=
    bridged_sample hf h0 hleg.goal hleg.yaw hsteps (Nat.zero_le steps)
  rw [← List.head?_eq_getElem?] at hs0
  rw [Nat.cast_zero, zero_mul] at htime
  have he : interpolateWaypoint (withLeg steps leg waypoints) (steps * bridgeSampleS) =
        some { last with time := last.time + (steps : K) * bridgeSampleS } := by
    simp [interpolateWaypoint, hs0, last_bridged steps leg hl, htime, hlast, hs]
  rw [placeAt, he, Option.map_some]

end

lemma placeAt_leg [FloorRing K] (hord : TimeOrdered waypoints) (h0 : ∀ w ∈ waypoints, 0 ≤ w.time)
    (hf : waypoints.head? = some first) (hleg : LegTo leg first) (hset : SettledAtZero waypoints)
    {k : ℕ} (hk : k < steps) {u : K} (hu0 : 0 ≤ u) (hu1 : u ≤ 1) :
    placeAt (withLeg steps leg waypoints) ((k + u) * bridgeSampleS) =
      some (legPoint leg (chord (fraction steps) k u)) := by
  have hsteps : 0 < steps := Nat.zero_lt_of_lt hk
  have hfirst : 0 ≤ first.time := h0 first (List.mem_of_head? hf)
  obtain ⟨last, hl⟩ : ∃ w, waypoints.getLast? = some w :=
    ⟨_, List.getLast?_eq_some_getLast (by rintro rfl; cases hf)⟩
  have hlast0 : 0 ≤ last.time := h0 last (List.mem_of_getLast? hl)
  have hkcast : (k : K) + 1 ≤ steps := by exact_mod_cast hk
  rcases lt_or_ge ((k + u) * bridgeSampleS) (last.time + steps * bridgeSampleS) with hend | hend
  · rcases hu0.eq_or_lt with rfl | hpos
    · rw [chord_zero, add_zero]
      cases k with
      | zero =>
        rw [Nat.cast_zero, zero_mul]
        exact placeAt_start hf hfirst hleg hsteps
      | succ j =>
        -- the end of a step is the start of the next
        rw [add_zero, Nat.cast_succ] at hend
        rw [Nat.cast_succ, ← chord_one (fraction steps) j]
        exact placeAt_step hord h0 hf hleg hl (Nat.lt_of_succ_lt hk) one_pos (le_refl 1) hend
    · exact placeAt_step hord h0 hf hleg hl hk hpos hu1 hend
  · -- the end of the leg, of a show that takes no time
    have hmul : ((k : K) + u) * bridgeSampleS ≤ steps * bridgeSampleS :=
      mul_le_mul_of_nonneg_right ((add_le_add_right hu1 _).trans hkcast) bridgeSampleS_pos.le
    have htime : last.time = 0 := by linarith only [hlast0, hmul, hend]
    have heq : ((k : K) + u) * bridgeSampleS = steps * bridgeSampleS := by
      linarith only [htime, hmul, hend]
    have hsum : (k : K) + u = steps := mul_right_cancel₀ bridgeSampleS_pos.ne' heq
    obtain rfl : u = 1 := le_antisymm hu1 (by linarith only [hsum, hkcast])
    obtain rfl : steps = k + 1 := by exact_mod_cast hsum.symm
    have he : placeAt (legSamples (k + 1) leg ++
        held (((k + 1 : ℕ) : K) * bridgeSampleS) waypoints) ((k + 1) * bridgeSampleS) =
        some (last.x, last.y, last.z) := by
      rw [heq]
      exact placeAt_end hf hfirst hleg hl hsteps htime
    rw [he, chord_one, fraction_last hsteps, legPoint_one, hleg.goal]
    exact congrArg some (hset first hf last hl htime)

end Track

section Approach

lemma pointDist_sub (p q : Point ℝ) : pointDist (sub q p) (0, 0, 0) = pointDist p q := by
  simp only [pointDist, distSq, sub]
  congr 1
  ring

lemma pointDist_legPoint (leg : Leg ℝ) (f g : ℝ) :
    pointDist (legPoint leg f) (legPoint leg g) = |f - g| * pointDist leg.start leg.goal := by
  have hsq : distSq (legPoint leg f) (legPoint leg g) =
      (f - g) ^ 2 * distSq leg.start leg.goal := by
    simp only [distSq, legPoint]
    ring
  rw [pointDist, pointDist, hsq, sqrt_real, sqrt_real, Real.sqrt_mul (sq_nonneg _),
    Real.sqrt_sq_eq_abs]

/-- Nothing in the step is nearer than what `closestApproach` finds. -/
lemma closestApproach_le (r0 dv : Point ℝ) {u : ℝ} (h0 : 0 ≤ u) (h1 : u ≤ 1) :
    (closestApproach r0 dv).2 ≤
      pointDist (r0.1 + dv.1 * u, r0.2.1 + dv.2.1 * u, r0.2.2 + dv.2.2 * u) (0, 0, 0) := by
  refine Real.sqrt_le_sqrt ?_
  have hexpand : ∀ v : ℝ, distSq (r0.1 + dv.1 * v, r0.2.1 + dv.2.1 * v, r0.2.2 + dv.2.2 * v)
      (0, 0, 0) = dot r0 r0 + (dot dv dv * v ^ 2 + 2 * dot r0 dv * v) := fun v => by
    simp only [distSq, dot]
    ring
  rw [hexpand, hexpand]
  refine add_le_add_right ?_ _
  split
  next hspeed => exact clamped_foot_le hspeed h0 h1
  next hspeed =>
    -- two drones at the same velocity keep their distance
    have hx := mul_self_nonneg dv.1
    have hy := mul_self_nonneg dv.2.1
    have hz := mul_self_nonneg dv.2.2
    have hle : dv.1 * dv.1 + dv.2.1 * dv.2.1 + dv.2.2 * dv.2.2 ≤ 0 := not_lt.mp hspeed
    have hx0 : dv.1 = 0 := mul_self_eq_zero.mp (by linarith)
    have hy0 : dv.2.1 = 0 := mul_self_eq_zero.mp (by linarith)
    have hz0 : dv.2.2 = 0 := mul_self_eq_zero.mp (by linarith)
    simp [dot, hx0, hy0, hz0]

/-- The instant that `closestApproach` finds is within the step. -/
lemma closestApproach_mem (r0 dv : Point ℝ) :
    0 ≤ (closestApproach r0 dv).1 ∧ (closestApproach r0 dv).1 ≤ 1 :=
  ⟨le_max_left _ _, max_le zero_le_one (min_le_left _ _)⟩

variable {l m : Leg ℝ} {legs : List (Leg ℝ)} {steps k : ℕ} {u : ℝ}

/-- What separates two drones at the share `u` of step `k`. -/
lemma pointDist_chord (l m : Leg ℝ) (steps k : ℕ) (u : ℝ) :
    pointDist (legPoint l (chord (fraction steps) k u)) (legPoint m (chord (fraction steps) k u)) =
      (let a := sub (legPoint m (fraction steps k)) (legPoint l (fraction steps k))
       let d := sub (sub (legPoint m (fraction steps (k + 1))) (legPoint m (fraction steps k)))
        (sub (legPoint l (fraction steps (k + 1))) (legPoint l (fraction steps k)))
       pointDist (a.1 + d.1 * u, a.2.1 + d.2.1 * u, a.2.2 + d.2.2 * u) (0, 0, 0)) := by
  simp only [pointDist, distSq, legPoint, chord, sub]
  congr 1
  ring

/-- The closest approach of two drones within step `k`. -/
noncomputable def approachIn (l m : Leg ℝ) (steps k : ℕ) : ℝ × ℝ :=
  closestApproach (sub (legPoint m (fraction steps k)) (legPoint l (fraction steps k)))
    (sub (sub (legPoint m (fraction steps (k + 1))) (legPoint m (fraction steps k)))
      (sub (legPoint l (fraction steps (k + 1))) (legPoint l (fraction steps k))))

lemma approachIn_le (h0 : 0 ≤ u) (h1 : u ≤ 1) :
    (approachIn l m steps k).2 ≤ pointDist (legPoint l (chord (fraction steps) k u))
      (legPoint m (chord (fraction steps) k u)) := by
  rw [pointDist_chord]
  exact closestApproach_le _ _ h0 h1

lemma approachIn_eq (l m : Leg ℝ) (steps k : ℕ) : (approachIn l m steps k).2 =
      pointDist (legPoint l (chord (fraction steps) k (approachIn l m steps k).1))
        (legPoint m (chord (fraction steps) k (approachIn l m steps k).1)) := by
  rw [pointDist_chord]
  rfl

/-- How far the pair search looks in step `k`. -/
noncomputable def searchRadius (legs : List (Leg ℝ)) (steps k : ℕ) : ℝ :=
  (defaultLimits : SafetyLimits ℝ).minSeparationM + 2 * maxOr 0 (legs.map fun leg =>
    pointDist (legPoint leg (fraction steps k)) (legPoint leg (fraction steps (k + 1))))

/-- A step is reported clear exactly when every pair that the search returns keeps
the limit at its closest approach. -/
lemma stepSeparationErrors_eq_nil {tree : KdTree ℝ} : stepSeparationErrors tree legs steps k = [] ↔
      ∀ p ∈ tree.queryPairs (legs.map fun leg => legPoint leg (fraction steps k))
        (searchRadius legs steps k), ∀ l m, legs[p.1]? = some l → legs[p.2]? = some m →
          (defaultLimits : SafetyLimits ℝ).minSeparationM ≤ (approachIn l m steps k).2 := by
  have hzip : List.zipWith sub (legs.map fun leg => legPoint leg (fraction steps (k + 1)))
      (legs.map fun leg => legPoint leg (fraction steps k)) =
      legs.map fun leg => sub (legPoint leg (fraction steps (k + 1)))
        (legPoint leg (fraction steps k)) := by
    rw [List.zipWith_map, List.zipWith_self]
  have hreach : (legs.map fun leg => sub (legPoint leg (fraction steps (k + 1)))
      (legPoint leg (fraction steps k))).map (fun d => pointDist d (0, 0, 0)) =
      legs.map fun leg => pointDist (legPoint leg (fraction steps k))
        (legPoint leg (fraction steps (k + 1))) := by
    simp only [List.map_map, Function.comp_def, pointDist_sub]
  unfold stepSeparationErrors
  simp only [← fraction.eq_def]
  rw [List.map_eq_nil_iff, ← List.length_eq_zero_iff, List.length_insertionSort,
    List.length_eq_zero_iff, List.filterMap_eq_nil_iff, hzip, hreach]
  refine forall₂_congr fun p _ => ?_
  simp only [List.getElem?_map]
  cases hl : legs[p.1]? with
  | none => simp
  | some l =>
    cases hm : legs[p.2]? with
    | none => simp
    | some m =>
      simp only [Option.map_some, Option.some.injEq, ite_eq_right_iff, reduceCtorEq, imp_false,
        not_lt]
      constructor
      · rintro h _ _ rfl rfl
        exact h
      · intro h
        exact h l m rfl rfl

/-- Two drones that come too close in a step are close enough at its start to be
looked at. -/
lemma within_searchRadius {i j : ℕ} (hi : legs[i]? = some l) (hj : legs[j]? = some m)
    (hu0 : 0 ≤ u) (hu1 : u ≤ 1)
    (hclose : pointDist (legPoint l (chord (fraction steps) k u))
      (legPoint m (chord (fraction steps) k u)) < (defaultLimits : SafetyLimits ℝ).minSeparationM) :
    pointDist (legPoint l (fraction steps k)) (legPoint m (fraction steps k)) ≤
      searchRadius legs steps k := by
  have hmoves : ∀ leg ∈ legs,
      pointDist (legPoint leg (fraction steps k)) (legPoint leg (chord (fraction steps) k u)) ≤
        maxOr 0 (legs.map fun leg => pointDist (legPoint leg (fraction steps k))
          (legPoint leg (fraction steps (k + 1)))) := by
    intro leg hleg
    refine le_trans ?_ (le_maxOr (List.mem_map_of_mem hleg))
    rw [pointDist_legPoint, pointDist_legPoint]
    refine mul_le_mul_of_nonneg_right ?_ (sqrt_nonneg _)
    have hshare : fraction steps k - chord (fraction steps) k u =
        u * (fraction steps k - fraction steps (k + 1) : ℝ) := by
      simp only [chord]
      ring
    rw [hshare, abs_mul, abs_of_nonneg hu0]
    exact mul_le_of_le_one_left (abs_nonneg _) hu1
  have hl := hmoves l (List.mem_of_getElem? hi)
  have hm := hmoves m (List.mem_of_getElem? hj)
  rw [pointDist_eq_dist] at hl hm hclose ⊢
  rw [dist_comm] at hm
  have htriangle := dist_triangle4 (vec (legPoint l (fraction steps k)))
    (vec (legPoint l (chord (fraction steps) k u))) (vec (legPoint m (chord (fraction steps) k u)))
    (vec (legPoint m (fraction steps k)))
  unfold searchRadius
  linarith

lemma legs_apart {tree : KdTree ℝ} (h : legSeparationErrors tree legs steps = []) {i j : ℕ}
    (hij : i < j) (hi : legs[i]? = some l) (hj : legs[j]? = some m) (hk : k < steps)
    (hu0 : 0 ≤ u) (hu1 : u ≤ 1) :
    (defaultLimits : SafetyLimits ℝ).minSeparationM ≤
      pointDist (legPoint l (chord (fraction steps) k u))
        (legPoint m (chord (fraction steps) k u)) := by
  obtain ⟨hjlt, -⟩ := List.getElem?_eq_some_iff.mp hj
  rw [legSeparationErrors, if_neg (by omega)] at h
  have hstep := List.flatMap_eq_nil_iff.mp (upTo_eq_nil h) k (List.mem_range.mpr hk)
  by_contra hclose
  have hnear := within_searchRadius hi hj hu0 hu1 (not_le.mp hclose)
  have hmem : (i, j) ∈ tree.queryPairs (legs.map fun leg => legPoint leg (fraction steps k))
      (searchRadius legs steps k) :=
    tree.complete _ _ i j _ _ hij (by rw [List.getElem?_map, hi, Option.map_some])
      (by rw [List.getElem?_map, hj, Option.map_some]) hnear
  exact hclose ((stepSeparationErrors_eq_nil.mp hstep (i, j) hmem l m hi hj).trans
    (approachIn_le hu0 hu1))

/-- `query_pairs` returns pairs of different points, the lower index first. -/
def ListsPairs (tree : KdTree ℝ) : Prop :=
  ∀ (coords : List (Point ℝ)) (r : ℝ), ∀ p ∈ tree.queryPairs coords r, p.1 < p.2

lemma legs_meet {tree : KdTree ℝ} (htree : ListsPairs tree)
    (h : legSeparationErrors tree legs steps ≠ []) :
    ∃ (i j : ℕ) (l m : Leg ℝ), i < j ∧ legs[i]? = some l ∧ legs[j]? = some m ∧ ∃ k < steps, ∃ u, 0 ≤ u ∧ u ≤ 1 ∧
      pointDist (legPoint l (chord (fraction steps) k u))
        (legPoint m (chord (fraction steps) k u)) <
          (defaultLimits : SafetyLimits ℝ).minSeparationM := by
  unfold legSeparationErrors at h
  split at h
  · exact absurd rfl h
  have hsome : ∃ k < steps, stepSeparationErrors tree legs steps k ≠ [] := by
    by_contra hnone
    push Not at hnone
    exact h (by
      rw [List.flatMap_eq_nil_iff.mpr fun k hk => hnone k (List.mem_range.mp hk)]
      rfl)
  obtain ⟨k, hk, hne⟩ := hsome
  rw [Ne, stepSeparationErrors_eq_nil] at hne
  push Not at hne
  obtain ⟨p, hp, l, m, hl, hm, hlt⟩ := hne
  refine ⟨p.1, p.2, l, m, htree _ _ p hp, hl, hm, k, hk, (approachIn l m steps k).1, ?_, ?_, ?_⟩
  · exact (closestApproach_mem _ _).1
  · exact (closestApproach_mem _ _).2
  · rwa [← approachIn_eq]

end Approach

section

lemma hasDerivAt_minJerk (tau : ℝ) :
    HasDerivAt (minJerk : ℝ → ℝ) (30 * (tau * (1 - tau)) ^ 2) tau := by
  have hcube : HasDerivAt (fun x : ℝ => x ^ 3) (3 * tau ^ 2) tau := by
    simpa using hasDerivAt_pow 3 tau
  have hquad : HasDerivAt (fun x : ℝ => 10 - 15 * x + 6 * x * x) (-15 + 12 * tau) tau := by
    have h := ((hasDerivAt_id tau).const_mul 15).const_sub 10
    have h' := ((hasDerivAt_id tau).const_mul 6).mul (hasDerivAt_id tau)
    refine (h.add h').congr_deriv ?_
    simp
    ring
  refine (hcube.mul hquad).congr_deriv ?_
  ring

lemma abs_minJerk_sub_le {a b : ℝ} (ha : a ∈ Set.Icc (0 : ℝ) 1) (hb : b ∈ Set.Icc (0 : ℝ) 1) :
    |minJerk a - minJerk b| ≤ minJerkPeakFactor * |a - b| := by
  have hbound : ∀ x ∈ Set.Icc (0 : ℝ) 1, ‖30 * (x * (1 - x)) ^ 2‖ ≤ (minJerkPeakFactor : ℝ) := by
    rintro x ⟨h0, h1⟩
    have hnonneg : 0 ≤ x * (1 - x) := mul_nonneg h0 (sub_nonneg.mpr h1)
    have hquarter : x * (1 - x) ≤ 1 / 4 := by linarith [sq_nonneg (x - 1 / 2)]
    rw [Real.norm_of_nonneg (by positivity)]
    calc 30 * (x * (1 - x)) ^ 2 ≤ 30 * (1 / 4) ^ 2 := by gcongr
      _ = minJerkPeakFactor := by norm_num [minJerkPeakFactor]
  have hle := (convex_Icc (0 : ℝ) 1).norm_image_sub_le_of_norm_hasDerivWithin_le
    (fun x _ => (hasDerivAt_minJerk x).hasDerivWithinAt) hbound hb ha
  simpa [Real.norm_eq_abs] using hle

lemma abs_fraction_sub_le {steps i j : ℕ} (hi : i ≤ steps) (hj : j ≤ steps) :
    |(fraction steps i : ℝ) - fraction steps j| ≤ minJerkPeakFactor / steps * |(i : ℝ) - j| := by
  have hmem : ∀ n ≤ steps, (n : ℝ) / steps ∈ Set.Icc (0 : ℝ) 1 := fun n hn =>
    ⟨by positivity, div_le_one_of_le₀ (by exact_mod_cast hn) (Nat.cast_nonneg _)⟩
  refine (abs_minJerk_sub_le (hmem i hi) (hmem j hj)).trans (le_of_eq ?_)
  rw [← sub_div, abs_div, Nat.abs_cast]
  ring

lemma peak_le (longest : ℝ) {peakSpeedMs : ℝ} (hpeak : 0 < peakSpeedMs) :
    minJerkPeakFactor / (bridgeSteps longest peakSpeedMs : ℕ) * longest ≤
      peakSpeedMs * bridgeSampleS := by
  have hpos : (0 : ℝ) < bridgeSteps longest peakSpeedMs := by
    exact_mod_cast bridgeSteps_pos longest peakSpeedMs
  have hceil : minJerkPeakFactor * longest / peakSpeedMs / bridgeSampleS ≤
      (bridgeSteps longest peakSpeedMs : ℕ) := by
    refine (Nat.le_ceil _).trans ?_
    exact_mod_cast le_max_right _ _
  rw [div_div, div_le_iff₀ (mul_pos hpeak bridgeSampleS_pos)] at hceil
  rw [div_mul_eq_mul_div, div_le_iff₀ hpos]
  linarith

lemma leg_slow {leg : Leg ℝ} {longest peakSpeedMs : ℝ} (hpeak : 0 < peakSpeedMs)
    (hlong : pointDist leg.start leg.goal ≤ longest) {steps k k' : ℕ} {u u' : ℝ}
    (hsteps : steps = bridgeSteps longest peakSpeedMs) (hk : k < steps) (hk' : k' < steps)
    (hu0 : 0 ≤ u) (hu1 : u ≤ 1) (hu0' : 0 ≤ u') (hu1' : u' ≤ 1) :
    pointDist (legPoint leg (chord (fraction steps) k u))
        (legPoint leg (chord (fraction steps) k' u')) ≤
      peakSpeedMs * |(k + u) * bridgeSampleS - (k' + u') * bridgeSampleS| := by
  have hfactor : (0 : ℝ) ≤ minJerkPeakFactor / steps :=
    div_nonneg (by norm_num [minJerkPeakFactor]) (Nat.cast_nonneg _)
  have hpace := peak_le longest hpeak
  rw [← hsteps] at hpace
  rw [pointDist_legPoint]
  calc |chord (fraction steps) k u - chord (fraction steps) k' u'| * pointDist leg.start leg.goal
      ≤ minJerkPeakFactor / steps * |(k + u) - (k' + u')| * longest :=
        mul_le_mul (abs_chord_sub_le (fun i j hi hj => abs_fraction_sub_le hi hj) hk hk' hu0 hu1
          hu0' hu1') hlong (sqrt_nonneg _) (mul_nonneg hfactor (abs_nonneg _))
    _ = minJerkPeakFactor / steps * longest * |(k + u) - (k' + u')| := by ring
    _ ≤ peakSpeedMs * bridgeSampleS * |(k + u) - (k' + u')| :=
        mul_le_mul_of_nonneg_right hpace (abs_nonneg _)
    _ = peakSpeedMs * |(k + u) * bridgeSampleS - (k' + u') * bridgeSampleS| := by
        rw [← sub_mul, abs_mul, abs_of_pos (bridgeSampleS_pos (K := ℝ))]
        ring

end

section

variable {K : Type} [Field K] [LinearOrder K] [FloorRing K] [IsStrictOrderedRing K] [Sqrt K]

/-- At every instant up to the end of the leg both drones are placed, at the limit
or further apart. -/
def ApartUntil (limit bridgeS : K) (a b : List (Waypoint K)) : Prop :=
  ∀ t, 0 ≤ t → t ≤ bridgeS → ∃ p ∈ placeAt a t, ∃ q ∈ placeAt b t, limit ≤ pointDist p q

/-- Any two drones of the plan that have waypoints keep the runtime limit. -/
def LegsApart (bridgeS : K) (plan : Plan K) : Prop :=
  plan.Pairwise fun e f => e.2 ≠ [] → f.2 ≠ [] →
    ApartUntil (defaultLimits : SafetyLimits K).minSeparationM bridgeS e.2 f.2

/-- No drone of the plan covers more ground up to the end of the leg than the speed
allows. -/
def LegsSlow (peakSpeedMs bridgeS : K) (plan : Plan K) : Prop :=
  ∀ e ∈ plan, e.2 ≠ [] → ∀ t t', 0 ≤ t → t ≤ bridgeS → 0 ≤ t' → t' ≤ bridgeS →
    ∃ p ∈ placeAt e.2 t, ∃ q ∈ placeAt e.2 t', pointDist p q ≤ peakSpeedMs * |t - t'|

/-- Two drones of the plan that have waypoints come closer than the runtime limit. -/
def LegsMeet (bridgeS : K) (plan : Plan K) : Prop :=
  ∃ (i j : ℕ) (e f : Nat × List (Waypoint K)), i < j ∧ plan[i]? = some e ∧ plan[j]? = some f ∧
    ∃ t, 0 ≤ t ∧ t ≤ bridgeS ∧ ∃ p ∈ placeAt e.2 t, ∃ q ∈ placeAt f.2 t,
      pointDist p q < (defaultLimits : SafetyLimits K).minSeparationM

def legTime (plan : Plan K) (hold : Dict Nat (Point K)) (peakSpeedMs : K) : K :=
  (bridgeSteps (longestLeg plan hold) peakSpeedMs : ℕ) * bridgeSampleS

def behindLegs (plan : Plan K) (hold : Dict Nat (Point K)) (peakSpeedMs : K) : Plan K :=
  plan.map (bridgedTrack hold (bridgeSteps (longestLeg plan hold) peakSpeedMs))

lemma not_legsApart {bridgeS : K} {plan : Plan K} (h : LegsMeet bridgeS plan) :
    ¬ LegsApart bridgeS plan := by
  obtain ⟨i, j, e, f, hij, hi, hj, t, h0, ht, p, hp, q, hq, hlt⟩ := h
  intro hapart
  obtain ⟨hilt, rfl⟩ := List.getElem?_eq_some_iff.mp hi
  obtain ⟨hjlt, rfl⟩ := List.getElem?_eq_some_iff.mp hj
  have hplaced : ∀ {e : Nat × List (Waypoint K)} {p}, p ∈ placeAt e.2 t → e.2 ≠ [] := by
    intro e p hp hnil
    rw [hnil] at hp
    cases hp
  obtain ⟨p', hp', q', hq', hle⟩ :=
    List.pairwise_iff_getElem.mp hapart i j hilt hjlt hij (hplaced hp) (hplaced hq) t h0 ht
  cases hp.symm.trans hp'
  cases hq.symm.trans hq'
  exact absurd hle (not_le.mpr hlt)

variable {plan : Plan K} {hold : Dict Nat (Point K)} {e : Nat × List (Waypoint K)}

omit [Sqrt K] in
lemma exists_leg (hknown : unknownDrones plan hold = []) (he : e ∈ plan) (hne : e.2 ≠ []) :
    ∃ leg first, legOf hold e = some leg ∧ e.2.head? = some first ∧ LegTo leg first := by
  obtain ⟨start, hstart⟩ := find_of_unknownDrones hknown he hne
  obtain ⟨first, _, hf, -⟩ := exists_first_last hne
  refine ⟨⟨e.1, start, (first.x, first.y, first.z), first.yaw⟩, first, ?_, hf, rfl, rfl⟩
  simp only [legOf, hf, hstart]

lemma placeAt_bridgedTrack {steps : ℕ} (hord : TimeOrdered e.2) (h0 : ∀ w ∈ e.2, 0 ≤ w.time)
    (hset : SettledAtZero e.2) {leg : Leg K} {first : Waypoint K} (hleg : legOf hold e = some leg)
    (hf : e.2.head? = some first) (hto : LegTo leg first) {k : ℕ} (hk : k < steps) {u : K}
    (hu0 : 0 ≤ u) (hu1 : u ≤ 1) :
    placeAt (bridgedTrack hold steps e).2 ((k + u) * bridgeSampleS) =
      some (legPoint leg (chord (fraction steps) k u)) := by
  simp only [bridgedTrack, hleg]
  exact placeAt_leg hord h0 hf hto hset hk hu0 hu1

end

section

variable {tree : KdTree ℝ} {plan : Plan ℝ} {hold : Dict Nat (Point ℝ)} {peakSpeedMs : ℝ}

lemma exists_placeAt (hord : ∀ e ∈ plan, TimeOrdered e.2) (h0 : ∀ e ∈ plan, ∀ w ∈ e.2, 0 ≤ w.time)
    (hset : ∀ e ∈ plan, SettledAtZero e.2) (hknown : unknownDrones plan hold = [])
    {e : Nat × List (Waypoint ℝ)} (he : e ∈ plan) (hne : e.2 ≠ []) {steps : ℕ} :
    ∃ leg, legOf hold e = some leg ∧ ∀ k < steps, ∀ u : ℝ, 0 ≤ u → u ≤ 1 →
      placeAt (bridgedTrack hold steps e).2 ((k + u) * bridgeSampleS) =
        some (legPoint leg (chord (fraction steps) k u)) := by
  obtain ⟨leg, first, hleg, hf, hto⟩ := exists_leg hknown he hne
  exact ⟨leg, hleg, fun k hk u hu0 hu1 =>
    placeAt_bridgedTrack (hord e he) (h0 e he) (hset e he) hleg hf hto hk hu0 hu1⟩

lemma bridgedTrack_ne_nil {steps : ℕ} {e : Nat × List (Waypoint ℝ)}
    (h : (bridgedTrack hold steps e).2 ≠ []) : e.2 ≠ [] := by
  intro hnil
  simp [bridgedTrack, legOf, delayed, hnil] at h

lemma legsApart_of_clear (hord : ∀ e ∈ plan, TimeOrdered e.2)
    (h0 : ∀ e ∈ plan, ∀ w ∈ e.2, 0 ≤ w.time) (hset : ∀ e ∈ plan, SettledAtZero e.2)
    (hknown : unknownDrones plan hold = [])
    (hclear : legSeparationErrors tree (plan.filterMap (legOf hold))
      (bridgeSteps (longestLeg plan hold) peakSpeedMs) = []) :
    LegsApart (legTime plan hold peakSpeedMs) (behindLegs plan hold peakSpeedMs) := by
  have hpos := bridgeSteps_pos (longestLeg plan hold) peakSpeedMs
  unfold LegsApart legTime behindLegs
  generalize bridgeSteps (longestLeg plan hold) peakSpeedMs = steps at *
  have hlegs : (plan.filterMap (legOf hold)).Pairwise fun l m => ∀ k < steps, ∀ u : ℝ, 0 ≤ u →
      u ≤ 1 → (defaultLimits : SafetyLimits ℝ).minSeparationM ≤
        pointDist (legPoint l (chord (fraction steps) k u))
          (legPoint m (chord (fraction steps) k u)) :=
    List.pairwise_iff_getElem.mpr fun i j hi hj hij k hk u hu0 hu1 =>
      legs_apart hclear hij (List.getElem?_eq_getElem hi) (List.getElem?_eq_getElem hj) hk hu0 hu1
  rw [List.pairwise_filterMap] at hlegs
  rw [List.pairwise_map]
  refine hlegs.imp_of_mem fun {e f} he hf happart hne hnf t ht0 ht => ?_
  obtain ⟨l, hl, hplaced⟩ := exists_placeAt hord h0 hset hknown he (bridgedTrack_ne_nil hne)
  obtain ⟨m, hm, hplaced'⟩ := exists_placeAt hord h0 hset hknown hf (bridgedTrack_ne_nil hnf)
  obtain ⟨k, hk, u, hu0, hu1, rfl⟩ := exists_step hpos bridgeSampleS_pos ht0 ht
  exact ⟨_, hplaced k hk u hu0 hu1, _, hplaced' k hk u hu0 hu1, happart l hl m hm k hk u hu0 hu1⟩

lemma legsSlow_of_peak (hpeak : 0 < peakSpeedMs) (hord : ∀ e ∈ plan, TimeOrdered e.2)
    (h0 : ∀ e ∈ plan, ∀ w ∈ e.2, 0 ≤ w.time) (hset : ∀ e ∈ plan, SettledAtZero e.2)
    (hknown : unknownDrones plan hold = []) :
    LegsSlow peakSpeedMs (legTime plan hold peakSpeedMs) (behindLegs plan hold peakSpeedMs) := by
  have hpos := bridgeSteps_pos (longestLeg plan hold) peakSpeedMs
  intro e' he' hne t t' ht0 ht ht0' ht'
  obtain ⟨e, he, rfl⟩ := List.mem_map.mp he'
  obtain ⟨leg, hleg, hplaced⟩ := exists_placeAt hord h0 hset hknown he (bridgedTrack_ne_nil hne)
  have hlong : pointDist leg.start leg.goal ≤ longestLeg plan hold :=
    le_maxOr (List.mem_map.mpr ⟨leg, List.mem_filterMap.mpr ⟨e, he, hleg⟩, rfl⟩)
  obtain ⟨k, hk, u, hu0, hu1, rfl⟩ := exists_step hpos bridgeSampleS_pos ht0 ht
  obtain ⟨k', hk', u', hu0', hu1', rfl⟩ := exists_step hpos bridgeSampleS_pos ht0' ht'
  exact ⟨_, hplaced k hk u hu0 hu1, _, hplaced k' hk' u' hu0' hu1',
    leg_slow hpeak hlong rfl hk hk' hu0 hu1 hu0' hu1'⟩

lemma legsMeet_of_errors (htree : ListsPairs tree) (hord : ∀ e ∈ plan, TimeOrdered e.2)
    (h0 : ∀ e ∈ plan, ∀ w ∈ e.2, 0 ≤ w.time) (hset : ∀ e ∈ plan, SettledAtZero e.2)
    (hknown : unknownDrones plan hold = [])
    (herrors : legSeparationErrors tree (plan.filterMap (legOf hold))
      (bridgeSteps (longestLeg plan hold) peakSpeedMs) ≠ []) :
    LegsMeet (legTime plan hold peakSpeedMs) (behindLegs plan hold peakSpeedMs) := by
  by_contra hmeet
  obtain ⟨i, j, l, m, hij, hi, hj, k, hk, u, hu0, hu1, hlt⟩ := legs_meet htree herrors
  -- were every two drones apart, their legs would be
  have hapart : (plan.filterMap (legOf hold)).Pairwise fun l m =>
      (defaultLimits : SafetyLimits ℝ).minSeparationM ≤
        pointDist (legPoint l (chord (fraction (bridgeSteps (longestLeg plan hold) peakSpeedMs)) k u))
          (legPoint m (chord (fraction (bridgeSteps (longestLeg plan hold) peakSpeedMs)) k u)) := by
    rw [List.pairwise_filterMap, List.pairwise_iff_getElem]
    intro a b ha hb hab l' hl' m' hm'
    by_contra hclose
    have hne : ∀ {c : ℕ} (hc : c < plan.length) {leg : Leg ℝ},
        legOf hold plan[c] = some leg → plan[c].2 ≠ [] := by
      intro c hc leg hleg hnil
      simp [legOf, hnil] at hleg
    obtain ⟨l₁, hl₁, hplaced⟩ :=
      exists_placeAt hord h0 hset hknown (List.getElem_mem ha) (hne ha hl')
    obtain ⟨m₁, hm₁, hplaced'⟩ :=
      exists_placeAt hord h0 hset hknown (List.getElem_mem hb) (hne hb hm')
    cases hl'.symm.trans hl₁
    cases hm'.symm.trans hm₁
    refine hmeet ⟨a, b, _, _, hab, by rw [behindLegs, List.getElem?_map, List.getElem?_eq_getElem ha]; rfl,
      by rw [behindLegs, List.getElem?_map, List.getElem?_eq_getElem hb]; rfl,
      (k + u) * bridgeSampleS, mul_nonneg (add_nonneg (Nat.cast_nonneg k) hu0) bridgeSampleS_pos.le,
      mul_le_mul_of_nonneg_right ?_ bridgeSampleS_pos.le, _, hplaced k hk u hu0 hu1, _,
      hplaced' k hk u hu0 hu1, not_le.mp hclose⟩
    have hcast : (k : ℝ) + 1 ≤ (bridgeSteps (longestLeg plan hold) peakSpeedMs : ℕ) := by
      exact_mod_cast hk
    linarith
  obtain ⟨hilt, rfl⟩ := List.getElem?_eq_some_iff.mp hi
  obtain ⟨hjlt, rfl⟩ := List.getElem?_eq_some_iff.mp hj
  exact absurd (List.pairwise_iff_getElem.mp hapart i j hilt hjlt hij) (not_le.mpr hlt)

/-- A leg that is returned keeps every two drones apart and every drone slow, at
every instant; a leg that is refused brings two drones too close. -/
theorem bridge_safe (htree : ListsPairs tree) (hpeak : 0 < peakSpeedMs)
    (hord : ∀ e ∈ plan, TimeOrdered e.2) (h0 : ∀ e ∈ plan, ∀ w ∈ e.2, 0 ≤ w.time)
    (hset : ∀ e ∈ plan, SettledAtZero e.2) :
    (∀ played bridgeS, buildStartBridge tree plan hold peakSpeedMs = .ok (played, bridgeS) →
      0 < bridgeS → LegsApart bridgeS played ∧ LegsSlow peakSpeedMs bridgeS played) ∧
    (∀ msg, buildStartBridge tree plan hold peakSpeedMs = .error msg →
      unknownDrones plan hold = [] →
        LegsMeet (legTime plan hold peakSpeedMs) (behindLegs plan hold peakSpeedMs)) := by
  constructor
  · intro played bridgeS h hb
    obtain ⟨hknown, ⟨-, -, rfl⟩ | ⟨-, hclear, rfl, rfl⟩⟩ := buildStartBridge_ok h
    · exact absurd hb (lt_irrefl _)
    · exact ⟨legsApart_of_clear hord h0 hset hknown hclear,
        legsSlow_of_peak hpeak hord h0 hset hknown⟩
  · intro msg h hknown
    exact legsMeet_of_errors htree hord h0 hset hknown (buildStartBridge_error h hknown)

end

section

lemma bruteForce_listsPairs : ListsPairs (bruteForce : KdTree ℝ) := fun _ _ _ => lt_of_bruteForce

/-- Two drones ten metres apart, whose shows begin on the ground. -/
noncomputable def sidePlan : Plan ℝ :=
  [(0, [{ time := 0, x := 0, y := 0, z := 0, yaw := 0 },
      { time := 5, x := 0, y := 0, z := -3, yaw := 0 }]),
    (1, [{ time := 0, x := 10, y := 0, z := 0, yaw := 0 },
      { time := 5, x := 10, y := 0, z := -3, yaw := 0 }])]

noncomputable def sideHold : Dict Nat (Point ℝ) := [(0, (0, 0, -2)), (1, (10, 0, -2))]

lemma sideLegs : sidePlan.filterMap (legOf sideHold) =
    [⟨0, (0, 0, -2), (0, 0, 0), 0⟩, ⟨1, (10, 0, -2), (10, 0, 0), 0⟩] := by
  simp [sidePlan, sideHold, legOf, find]

lemma longestLeg_side : longestLeg sidePlan sideHold = 2 := by
  have htwo : Real.sqrt (2 * 2) = 2 := Real.sqrt_mul_self (by norm_num)
  simp [longestLeg, sideLegs, maxOr, pointDist, distSq, sqrt_real, htwo]

lemma sideLegs_clear (steps : ℕ) :
    legSeparationErrors bruteForce (sidePlan.filterMap (legOf sideHold)) steps = [] := by
  rw [sideLegs, legSeparationErrors, if_neg (by simp)]
  rw [List.flatMap_eq_nil_iff.mpr fun k hk => ?_]
  · rfl
  refine stepSeparationErrors_eq_nil.mpr fun p hp l m hl hm => ?_
  have hlt := bruteForce_listsPairs _ _ p hp
  obtain ⟨hbound, -⟩ := List.getElem?_eq_some_iff.mp hm
  have hbound : p.2 < 2 := hbound
  obtain ⟨h1, h2⟩ : p.1 = 0 ∧ p.2 = 1 := by omega
  rw [h1] at hl
  rw [h2] at hm
  cases hl
  cases hm
  have hten : Real.sqrt (10 * 10) = 10 := Real.sqrt_mul_self (by norm_num)
  rw [approachIn_eq]
  simp [pointDist, distSq, legPoint, sqrt_real, hten, defaultLimits]
  norm_num

theorem bridge_safe_side : ∃ played bridgeS,
    buildStartBridge bruteForce sidePlan sideHold (7 / 5) = .ok (played, bridgeS) ∧
      0 < bridgeS ∧ LegsApart bridgeS played ∧ LegsSlow (7 / 5) bridgeS played := by
  have hb : 0 < legTime sidePlan sideHold (7 / 5) :=
    mul_pos (by exact_mod_cast bridgeSteps_pos _ _) (by norm_num [bridgeSampleS])
  have hok : buildStartBridge bruteForce sidePlan sideHold (7 / 5) =
      .ok (behindLegs sidePlan sideHold (7 / 5), legTime sidePlan sideHold (7 / 5)) := by
    have hknown : unknownDrones sidePlan sideHold = [] := by
      simp [unknownDrones, sidePlan, sideHold, has, find]
    have hlong : ¬ longestLeg sidePlan sideHold ≤ bridgeToleranceM := by
      rw [longestLeg_side]
      norm_num [bridgeToleranceM]
    rw [buildStartBridge, if_neg (not_not.mpr hknown), if_neg hlong,
      if_neg (not_not.mpr (sideLegs_clear _))]
    rfl
  exact ⟨_, _, hok, hb, (bridge_safe bruteForce_listsPairs (by norm_num)
    (by simp [sidePlan, TimeOrdered]) (by simp [sidePlan])
    (by simp [sidePlan, SettledAtZero])).1 _ _ hok hb⟩

end

section

/-- The second drone of these plans waits at its place; the first has the rest. -/
def besideWaiting (x : ℚ) (waypoints : List (Waypoint ℚ)) : Plan ℚ :=
  [(0, waypoints), (1, [{ time := 0, x := x, y := 0, z := 0, yaw := 0 },
    { time := 5, x := x, y := 0, z := 0, yaw := 0 }])]

/-- At instant `t` of what is returned, the two drones are closer than the limit. -/
def meetsAt (plan : Plan ℚ) (hold : Dict Nat (Point ℚ)) (t bridgeS : ℚ) : Bool :=
  match buildStartBridge bruteForce plan hold (7 / 5) with
  | .ok (e :: f :: _, b) => decide (b = bridgeS ∧ 0 ≤ t ∧ t ≤ b) &&
    (placeAt e.2 t).any fun p => (placeAt f.2 t).any fun q => decide (pointDist p q < 3 / 2)
  | _ => false

lemma meets_of_meetsAt {plan : Plan ℚ} {hold : Dict Nat (Point ℚ)} {t bridgeS : ℚ}
    (h : meetsAt plan hold t bridgeS = true) :
    ∃ played, buildStartBridge bruteForce plan hold (7 / 5) = .ok (played, bridgeS) ∧
      ¬ LegsApart bridgeS played := by
  unfold meetsAt at h
  split at h
  next e f rest b hok =>
    simp only [Bool.and_eq_true, decide_eq_true_eq, Option.any_eq_true] at h
    obtain ⟨⟨rfl, h0, ht⟩, p, hp, q, hq, hlt⟩ := h
    exact ⟨_, hok, not_legsApart ⟨0, 1, e, f, Nat.zero_lt_one, rfl, rfl, t, h0, ht, p, hp, q, hq,
      hlt⟩⟩
  next => cases h

/-- What is returned is not always apart: a plan that needs no leg is returned
unchecked, one that begins before time zero flies past its leg's end, and one whose
show takes no time is at its last waypoint when the leg ends. -/
theorem bridge_unsafe : (∃ played, buildStartBridge bruteForce
        (besideWaiting 1 [{ time := 0, x := 0, y := 0, z := 0, yaw := 0 }])
        [(0, (0, 0, 0)), (1, (1, 0, 0))] (7 / 5) = .ok (played, 0) ∧ ¬ LegsApart 0 played) ∧
      (∃ played, buildStartBridge bruteForce
        (besideWaiting 10 [{ time := -1, x := 0, y := 0, z := 0, yaw := 0 },
          { time := 0, x := 10, y := 0, z := 0, yaw := 0 }])
        [(0, (0, 0, -1 / 2)), (1, (10, 0, -3 / 5))] (7 / 5) = .ok (played, 1) ∧
          ¬ LegsApart 1 played) ∧
      ∃ played, buildStartBridge bruteForce
        (besideWaiting 10 [{ time := 0, x := 0, y := 0, z := 0, yaw := 0 },
          { time := 0, x := 10, y := 0, z := 0, yaw := 0 }])
        [(0, (0, 0, -1 / 2)), (1, (10, 0, -3 / 5))] (7 / 5) = .ok (played, 1) ∧
          ¬ LegsApart 1 played := by
  refine ⟨meets_of_meetsAt (t := 0) ?_, meets_of_meetsAt (t := 1) ?_, meets_of_meetsAt (t := 1) ?_⟩
  · decide +kernel
  · decide +kernel
  · decide +kernel

end

end Taramandal.Gcs.BridgeSafety
