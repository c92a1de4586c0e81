import Taramandal.Core.Validate

/-! # The transition leg to a streamed show (`start_bridge.py`)

From where each drone holds, a minimum-jerk leg to its show's first waypoint,
then the show, delayed by the leg. The leg is refused if it brings two drones
too close. A leg is made of points between the hold and the first waypoint, so
it leaves no convex region that contains both (`bridgedTrack_flownInside`). -/
set_option linter.unusedSectionVars false

namespace Taramandal.Gcs.StartBridge

open Lib.Dict Core.Numbers Core.Geometry Core.Safety Core.Shows Core.Validate

abbrev Plan (K : Type) := List (Nat × List (Waypoint K))

structure Leg (K : Type) where
  drone : Nat
  start : Point K
  goal : Point K
  yaw : K

variable {K : Type} [Field K] [LinearOrder K]

def bridgeToleranceM : K := 1 / 2

def minBridgeS : K := 1

def bridgeSampleS : K := 1 / 10

lemma bridgeSampleS_pos [IsStrictOrderedRing K] : (0 : K) < bridgeSampleS := by
  norm_num [bridgeSampleS]

def minJerkPeakFactor : K := 15 / 8

def minJerk (tau : K) : K := tau ^ 3 * (10 - 15 * tau + 6 * tau * tau)

/-- The leg of one drone of the plan, if it has waypoints and a known position. -/
def legOf (hold : Dict Nat (Point K)) (e : Nat × List (Waypoint K)) : Option (Leg K) :=
  match e.2.head?, find hold e.1 with
  | some first, some start => some ⟨e.1, start, (first.x, first.y, first.z), first.yaw⟩
  | _, _ => none

/-- The drones of the plan that have waypoints but no known position. -/
def unknownDrones (plan : Plan K) (hold : Dict Nat (Point K)) : List Nat :=
  (plan.filter fun e => !e.2.isEmpty && !has hold e.1).map Prod.fst

/-- The point of a leg at position fraction `f`. -/
def legPoint (leg : Leg K) (f : K) : Point K :=
  (leg.start.1 + f * (leg.goal.1 - leg.start.1), leg.start.2.1 + f * (leg.goal.2.1 - leg.start.2.1),
    leg.start.2.2 + f * (leg.goal.2.2 - leg.start.2.2))

/-- The waypoints of a leg; the last step is the show's own first waypoint. -/
def legSamples (steps : Nat) (leg : Leg K) : List (Waypoint K) :=
  (List.range steps).map fun k : Nat =>
    let p := legPoint leg (minJerk ((k : K) / (steps : K)))
    { time := (k : K) * bridgeSampleS, x := p.1, y := p.2.1, z := p.2.2, yaw := leg.yaw }

def delayed (bridgeS : K) (waypoints : List (Waypoint K)) : List (Waypoint K) :=
  waypoints.map fun w => { w with time := w.time + bridgeS }

/-- The delayed show, held at its first waypoint from the end of the leg on. -/
def held (bridgeS : K) (waypoints : List (Waypoint K)) : List (Waypoint K) :=
  match delayed bridgeS waypoints with
  | [] => []
  | w :: rest => if bridgeS < w.time then { w with time := bridgeS } :: w :: rest else w :: rest

def bridgedTrack (hold : Dict Nat (Point K)) (steps : Nat) (e : Nat × List (Waypoint K)) :
    Nat × List (Waypoint K) :=
  match legOf hold e with
  | none => (e.1, delayed ((steps : K) * bridgeSampleS) e.2)
  | some leg => (e.1, legSamples steps leg ++ held ((steps : K) * bridgeSampleS) e.2)

/-- A leg, and the show held behind it. -/
abbrev withLeg (steps : Nat) (leg : Leg K) (waypoints : List (Waypoint K)) : List (Waypoint K) :=
  legSamples steps leg ++ held ((steps : K) * bridgeSampleS) waypoints

section Separation

variable [FloorRing K] [IsStrictOrderedRing K] [Sqrt K] (tree : KdTree K)

def dot (p q : Point K) : K := p.1 * q.1 + p.2.1 * q.2.1 + p.2.2 * q.2.2

def sub (p q : Point K) : Point K := (p.1 - q.1, p.2.1 - q.2.1, p.2.2 - q.2.2)

/-- The instant of closest approach of two legs within one step, and the
distance there. -/
def closestApproach (r0 dv : Point K) : K × K :=
  let speed2 := dot dv dv
  let u := max 0 (min 1 (if 0 < speed2 then -dot r0 dv / speed2 else 0))
  (u, pointDist (r0.1 + dv.1 * u, r0.2.1 + dv.2.1 * u, r0.2.2 + dv.2.2 * u) (0, 0, 0))

/-- The texts for the pairs of legs too close within step `k`, closest first. -/
def stepSeparationErrors (legs : List (Leg K)) (steps k : Nat) : List String :=
  let limit := (defaultLimits : SafetyLimits K).minSeparationM
  let at_ j := legs.map fun leg => legPoint leg (minJerk (((j : Nat) : K) / (steps : K)))
  let a := at_ k
  let delta := List.zipWith sub (at_ (k + 1)) a
  let reach := 2 * maxOr 0 (delta.map fun d => pointDist d (0, 0, 0))
  let close := (tree.queryPairs a (limit + reach)).filterMap fun p =>
    match legs[p.1]?, legs[p.2]?, a[p.1]?, a[p.2]?, delta[p.1]?, delta[p.2]? with
    | some l, some m, some ai, some aj, some di, some dj =>
      let c := closestApproach (sub aj ai) (sub dj di)
      if c.2 < limit then some (min l.drone m.drone, max l.drone m.drone, c.1, c.2) else none
    | _, _, _, _, _, _ => none
  (close.insertionSort fun c d => c.2.2.2 ≤ d.2.2.2).map fun c =>
    "Collision risk at " ++ fixed 1 (((k : K) + c.2.2.1) * bridgeSampleS) ++ "s: Drone " ++
      toString c.1 ++ " and Drone " ++ toString c.2.1 ++ " are separated by " ++
      fixed 2 c.2.2.2 ++ "m (limit: " ++ floatStr limit ++ "m)"

def legSeparationErrors (legs : List (Leg K)) (steps : Nat) : List String :=
  if legs.length < 2 then []
  else upTo 3 [] ((List.range steps).flatMap (stepSeparationErrors tree legs steps))

def longestLeg (plan : Plan K) (hold : Dict Nat (Point K)) : K :=
  maxOr 0 ((plan.filterMap (legOf hold)).map fun leg => pointDist leg.start leg.goal)

def bridgeSteps (longest peakSpeedMs : K) : Nat :=
  max ⌈(minBridgeS / bridgeSampleS : K)⌉.toNat
    ⌈minJerkPeakFactor * longest / peakSpeedMs / bridgeSampleS⌉.toNat

def buildStartBridge (plan : Plan K) (hold : Dict Nat (Point K)) (peakSpeedMs : K) :
    Except String (Plan K × K) :=
  let steps := bridgeSteps (longestLeg plan hold) peakSpeedMs
  let errors := legSeparationErrors tree (plan.filterMap (legOf hold)) steps
  if unknownDrones plan hold ≠ [] then
    .error ("Start refused: no current position for " ++
      ", ".intercalate (((unknownDrones plan hold).insertionSort (· ≤ ·)).map fun d =>
        "Drone " ++ toString d) ++
      " (not connected, no fresh telemetry, or never reported), so its transition from the " ++
      "formation hold to the show's first waypoint cannot be planned or checked.")
  else if longestLeg plan hold ≤ bridgeToleranceM then .ok (plan, 0)
  else if errors ≠ [] then
    .error ("Start refused: the transition from the formation hold to the show's first " ++
      "waypoints is not safe (runtime separation limit " ++
      floatStr (defaultLimits : SafetyLimits K).minSeparationM ++ "m). " ++
      "; ".intercalate errors)
  else .ok (plan.map (bridgedTrack hold steps), (steps : K) * bridgeSampleS)

lemma bridgeSteps_pos (longest peakSpeedMs : K) : 0 < bridgeSteps longest peakSpeedMs := by
  have h : ⌈(minBridgeS / bridgeSampleS : K)⌉ = 10 := by
    rw [Int.ceil_eq_iff]
    norm_num [minBridgeS, bridgeSampleS]
  simp [bridgeSteps, h]

variable {plan : Plan K}

omit [Sqrt K] in
lemma find_of_unknownDrones {hold : Dict Nat (Point K)}
    (h : unknownDrones plan hold = []) {e : Nat × List (Waypoint K)} (he : e ∈ plan)
    (hne : e.2 ≠ []) : ∃ p, find hold e.1 = some p := by
  cases hf : find hold e.1 with
  | some p => exact ⟨p, rfl⟩
  | none =>
    have hmem : e.1 ∈ unknownDrones plan hold :=
      List.mem_map.mpr ⟨e, List.mem_filter.mpr ⟨he, by simp [hne, has, hf]⟩, rfl⟩
    rw [h] at hmem
    cases hmem

/-- What a start plays: the plan itself from close enough, else the plan behind
legs that were found clear, for every drone that has waypoints. -/
lemma buildStartBridge_ok {tree : KdTree K} {played : Plan K} {hold : Dict Nat (Point K)}
    {peakSpeedMs bridgeS : K}
    (h : buildStartBridge tree plan hold peakSpeedMs = .ok (played, bridgeS)) :
    unknownDrones plan hold = [] ∧
      (longestLeg plan hold ≤ bridgeToleranceM ∧ played = plan ∧ bridgeS = 0 ∨
        bridgeToleranceM < longestLeg plan hold ∧
          legSeparationErrors tree (plan.filterMap (legOf hold))
            (bridgeSteps (longestLeg plan hold) peakSpeedMs) = [] ∧
          played = plan.map (bridgedTrack hold (bridgeSteps (longestLeg plan hold) peakSpeedMs)) ∧
          bridgeS = (bridgeSteps (longestLeg plan hold) peakSpeedMs : ℕ) * bridgeSampleS) := by
  unfold buildStartBridge at h
  by_cases hu : unknownDrones plan hold ≠ []
  · rw [if_pos hu] at h; cases h
  rw [if_neg hu] at h
  by_cases hl : longestLeg plan hold ≤ bridgeToleranceM
  · rw [if_pos hl] at h
    cases h
    exact ⟨not_not.mp hu, .inl ⟨hl, rfl, rfl⟩⟩
  rw [if_neg hl] at h
  split at h
  · cases h
  next hclear =>
    cases h
    exact ⟨not_not.mp hu, .inr ⟨not_le.mp hl, not_not.mp hclear, rfl, rfl⟩⟩

lemma buildStartBridge_error {tree : KdTree K} {hold : Dict Nat (Point K)}
    {peakSpeedMs : K} {msg : String} (h : buildStartBridge tree plan hold peakSpeedMs = .error msg)
    (hu : unknownDrones plan hold = []) :
    legSeparationErrors tree (plan.filterMap (legOf hold))
      (bridgeSteps (longestLeg plan hold) peakSpeedMs) ≠ [] := by
  unfold buildStartBridge at h
  rw [if_neg (not_not.mpr hu)] at h
  split at h
  · cases h
  split at h
  next herrors => exact herrors
  next => cases h

end Separation

section Convex

variable [IsStrictOrderedRing K]

lemma minJerk_mem {tau : K} (h0 : 0 ≤ tau) (h1 : tau ≤ 1) : 0 ≤ minJerk tau ∧ minJerk tau ≤ 1 := by
  have hcube : 0 ≤ tau ^ 3 := pow_nonneg h0 3
  have hq : 0 ≤ 10 - 15 * tau + 6 * tau * tau := by nlinarith [sq_nonneg (tau - 5 / 4)]
  have hrest : 0 ≤ (1 - tau) ^ 3 := pow_nonneg (sub_nonneg.mpr h1) 3
  have hq' : 0 ≤ 1 + 3 * tau + 6 * tau * tau := by nlinarith [mul_nonneg h0 h0]
  have hcompl : 1 - minJerk tau = (1 - tau) ^ 3 * (1 + 3 * tau + 6 * tau * tau) := by
    unfold minJerk; ring
  refine ⟨mul_nonneg hcube hq, ?_⟩
  have := mul_nonneg hrest hq'
  linarith

variable {Q : K → K → Prop} {steps : Nat} {leg : Leg K} {waypoints : List (Waypoint K)}

lemma legSamples_inside (steps : Nat) (hQ : ∀ x1 y1 x2 y2 r : K, 0 ≤ r → r ≤ 1 → Q x1 y1 → Q x2 y2 →
      Q (x1 + r * (x2 - x1)) (y1 + r * (y2 - y1)))
    (hs : Q leg.start.1 leg.start.2.1) (hg : Q leg.goal.1 leg.goal.2.1) :
    ∀ w ∈ legSamples steps leg, Q w.x w.y := by
  intro w hw
  obtain ⟨k, hk, rfl⟩ := List.mem_map.mp hw
  have hlt : k < steps := List.mem_range.mp hk
  have hpos : (0 : K) < steps := by exact_mod_cast Nat.lt_of_le_of_lt (Nat.zero_le k) hlt
  have hle : (k : K) / steps ≤ 1 := (div_le_one hpos).mpr (by exact_mod_cast hlt.le)
  obtain ⟨h0, h1⟩ := minJerk_mem (div_nonneg (Nat.cast_nonneg k) hpos.le) hle
  exact hQ _ _ _ _ _ h0 h1 hs hg

lemma legSamples_ordered : TimeOrdered (legSamples steps leg) := by
  refine List.Pairwise.map _ (fun a b hab => ?_) List.pairwise_lt_range
  exact mul_le_mul_of_nonneg_right (by exact_mod_cast hab.le) bridgeSampleS_pos.le

variable {bridgeS : K} {w : Waypoint K}

lemma mem_held (h : w ∈ held bridgeS waypoints) : w ∈ delayed bridgeS waypoints ∨
      ∃ first ∈ (delayed bridgeS waypoints).head?, bridgeS < first.time ∧
        w = { first with time := bridgeS } := by
  unfold held at h
  split at h
  · cases h
  next v rest hd =>
    split at h
    next hlt =>
      rcases List.mem_cons.mp h with rfl | h
      · exact .inr ⟨v, by simp [hd], hlt, rfl⟩
      · exact .inl (hd ▸ h)
    next => exact .inl (hd ▸ h)

lemma held_ordered (h : TimeOrdered waypoints) : TimeOrdered (held bridgeS waypoints) := by
  have hd : TimeOrdered (delayed bridgeS waypoints) :=
    List.Pairwise.map _ (fun a b hab => add_le_add_left hab bridgeS) h
  unfold held
  split
  · exact List.Pairwise.nil
  next v rest he =>
    rw [he] at hd
    split
    next hlt =>
      refine List.pairwise_cons.mpr ⟨fun w hw => ?_, hd⟩
      rcases List.mem_cons.mp hw with rfl | hw
      · exact hlt.le
      · exact hlt.le.trans ((List.pairwise_cons.mp hd).1 w hw)
    next => exact hd

lemma le_time_of_mem_held (h0 : ∀ w ∈ waypoints, 0 ≤ w.time)
    (h : w ∈ held bridgeS waypoints) : bridgeS ≤ w.time := by
  have hd : ∀ w ∈ delayed bridgeS waypoints, bridgeS ≤ w.time := by
    intro w hw
    obtain ⟨v, hv, rfl⟩ := List.mem_map.mp hw
    exact le_add_of_nonneg_left (h0 v hv)
  rcases mem_held h with h | ⟨first, _, _, rfl⟩
  · exact hd w h
  · exact le_refl _

lemma legSamples_time_lt (h : w ∈ legSamples steps leg) :
    0 ≤ w.time ∧ w.time < (steps : K) * bridgeSampleS := by
  obtain ⟨k, hk, rfl⟩ := List.mem_map.mp h
  exact ⟨mul_nonneg (Nat.cast_nonneg k) bridgeSampleS_pos.le,
    mul_lt_mul_of_pos_right (by exact_mod_cast List.mem_range.mp hk) bridgeSampleS_pos⟩

lemma bridged_ordered (h : TimeOrdered waypoints) (h0 : ∀ w ∈ waypoints, 0 ≤ w.time) :
    TimeOrdered (withLeg steps leg waypoints) :=
  List.pairwise_append.mpr ⟨legSamples_ordered, held_ordered h, fun _ ha _ hb =>
    (legSamples_time_lt ha).2.le.trans (le_time_of_mem_held h0 hb)⟩

lemma delayed_flownInside (bridgeS : K) :
    FlownInside Q (delayed bridgeS waypoints) ↔ FlownInside Q waypoints := by
  constructor
  · rintro ⟨hf, hl, hs⟩
    refine ⟨fun w hw => ?_, fun w hw => ?_, ?_⟩
    · exact hf { w with time := w.time + bridgeS } (by simp [delayed, Option.mem_def.mp hw])
    · exact hl { w with time := w.time + bridgeS } (by simp [delayed, Option.mem_def.mp hw])
    · exact ((List.isChain_map _).mp hs).imp fun a b hab hlt => hab (by simpa using hlt)
  · rintro ⟨hf, hl, hs⟩
    refine ⟨fun w hw => ?_, fun w hw => ?_, ?_⟩
    · obtain ⟨v, hv, rfl⟩ := Option.map_eq_some_iff.mp
        (by simpa [delayed] using hw : (waypoints.head?.map _) = some w)
      exact hf v hv
    · obtain ⟨v, hv, rfl⟩ := Option.map_eq_some_iff.mp
        (by simpa [delayed] using hw : (waypoints.getLast?.map _) = some w)
      exact hl v hv
    · exact (List.isChain_map _).mpr (hs.imp fun a b hab hlt => hab (by simpa using hlt))

lemma held_flownInside (bridgeS : K) :
    FlownInside Q (held bridgeS waypoints) ↔ FlownInside Q waypoints := by
  refine Iff.trans ?_ (delayed_flownInside bridgeS)
  unfold held
  split
  next he => rw [he]
  next v rest he =>
    rw [he]
    split
    next hlt =>
      constructor
      · rintro ⟨hf, hl, hs⟩
        refine ⟨fun w hw => ?_, hl, (List.isChain_cons_cons.mp hs).2⟩
        cases Option.mem_def.mp hw
        exact hf { v with time := bridgeS } rfl
      · rintro ⟨hf, hl, hs⟩
        have hv : Q v.x v.y := hf v rfl
        refine ⟨fun w hw => ?_, hl, List.isChain_cons_cons.mpr ⟨fun _ => ⟨hv, hv⟩, hs⟩⟩
        cases Option.mem_def.mp hw
        exact hv
    next => exact Iff.rfl

lemma held_ne_nil (bridgeS : K) (h : waypoints ≠ []) : held bridgeS waypoints ≠ [] := by
  unfold held
  split
  next he => exact absurd (List.map_eq_nil_iff.mp he) h
  next => split <;> exact List.cons_ne_nil _ _

/-- Behind a leg, a drone flies inside a convex region exactly when its hold is
inside and what its show flies is. -/
lemma bridged_flownInside (hQ : ∀ x1 y1 x2 y2 r : K, 0 ≤ r → r ≤ 1 → Q x1 y1 → Q x2 y2 →
      Q (x1 + r * (x2 - x1)) (y1 + r * (y2 - y1)))
    (hsteps : 0 < steps) {first : Waypoint K} (hf : waypoints.head? = some first)
    (hgoal : leg.goal = (first.x, first.y, first.z)) (h0 : ∀ w ∈ waypoints, 0 ≤ w.time) :
    FlownInside Q (withLeg steps leg waypoints) ↔
      Q leg.start.1 leg.start.2.1 ∧ FlownInside Q waypoints := by
  have hne : waypoints ≠ [] := by rintro rfl; cases hf
  have hheld := held_ne_nil ((steps : K) * bridgeSampleS) hne
  obtain ⟨s0, hs0, hx0, hy0⟩ : ∃ w, (legSamples steps leg).head? = some w ∧
      w.x = leg.start.1 ∧ w.y = leg.start.2.1 := by
    obtain ⟨n, rfl⟩ := Nat.exists_eq_succ_of_ne_zero hsteps.ne'
    refine ⟨_, by rw [legSamples, List.range_succ_eq_map, List.map_cons, List.head?_cons], ?_, ?_⟩ <;>
      simp [legPoint, minJerk]
  have hsamples : legSamples steps leg ≠ [] := by intro hnil; rw [hnil] at hs0; cases hs0
  have hheldIn := @held_flownInside _ _ _ _ Q waypoints ((steps : K) * bridgeSampleS)
  rw [← hheldIn]
  constructor
  · rintro ⟨hhead, hlast, hchain⟩
    obtain ⟨_, hshow, hcross⟩ := List.isChain_append.mp hchain
    refine ⟨?_, fun w hw => ?_, fun w hw => ?_, hshow⟩
    · have := hhead s0 (by simp [hs0])
      rwa [hx0, hy0] at this
    · obtain ⟨v, hv⟩ : ∃ v, (legSamples steps leg).getLast? = some v :=
        ⟨_, List.getLast?_eq_some_getLast hsamples⟩
      refine (hcross v hv w hw ?_).2
      exact (legSamples_time_lt (List.mem_of_getLast? hv)).2.trans_le
        (le_time_of_mem_held h0 (List.mem_of_head? hw))
    · exact hlast w (by rw [List.getLast?_append_of_ne_nil _ hheld]; exact hw)
  · rintro ⟨hstart, hshow⟩
    have hfirst : Q first.x first.y := (hheldIn.mp hshow).first first hf
    have hin := legSamples_inside steps hQ hstart (by rw [hgoal]; exact hfirst)
    refine ⟨fun w hw => ?_, fun w hw => ?_, List.isChain_append.mpr ⟨?_, hshow.segments, ?_⟩⟩
    · rw [List.head?_append_of_ne_nil _ hsamples] at hw
      exact hin w (List.mem_of_head? hw)
    · rw [List.getLast?_append_of_ne_nil _ hheld] at hw
      exact hshow.last w hw
    · refine List.isChain_iff_getElem.mpr fun i hi _ => ?_
      exact ⟨hin _ (List.getElem_mem _), hin _ (List.getElem_mem _)⟩
    · intro v hv w hw _
      exact ⟨hin v (List.mem_of_getLast? hv), hshow.first w hw⟩

end Convex

end Taramandal.Gcs.StartBridge
