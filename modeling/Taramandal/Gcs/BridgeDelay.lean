import Taramandal.Gcs.BridgeSafety
import Taramandal.Lib.History

/-! # The show behind the transition leg (`build_start_bridge`)

Behind its leg a drone flies its show, later. Where the show is past its first
waypoint the two agree in everything. Before, the show is clamped to its first
waypoint, and the leg's end has to stand for that: it does, except that the heading
is wrapped, and that a show whose waypoints all lie at one instant is read at its
last waypoint instead of its first. -/
set_option linter.unusedSectionVars false

namespace Taramandal.Gcs.BridgeDelay

open Lib.Objects Lib.Dict Core.Numbers Core.Geometry Core.Validate Gcs.StartBridge
open Gcs.BridgeSafety

variable {K : Type} [Field K] [LinearOrder K]

section Track

variable [FloorRing K]

omit [Field K] [LinearOrder K] [FloorRing K] in
def SamePose (v w : Waypoint K) : Prop := (v.x, v.y, v.z) = (w.x, w.y, w.z) ∧ v.yaw = w.yaw

/-- The drone has the pose at `bridgeS + t` that its show has at `t`. -/
def OnlyDelayed (bridgeS : K) (waypoints bridged : List (Waypoint K)) : Prop :=
  ∀ t, 0 ≤ t → ∃ v ∈ interpolateWaypoint bridged (bridgeS + t),
    ∃ w ∈ interpolateWaypoint waypoints t, SamePose v w

/-- A show that can be delayed: one that lies at a single instant ends where and as it
begins, and one that takes time begins at a wrapped heading. -/
def Delayable (waypoints : List (Waypoint K)) : Prop :=
  ∀ first ∈ waypoints.head?, ∀ last ∈ waypoints.getLast?,
    (last.time = first.time → SamePose last first) ∧
    (0 < last.time → 0 ≤ first.yaw ∧ first.yaw < 360)

variable [IsStrictOrderedRing K] {steps : ℕ} {leg : Leg K} {waypoints : List (Waypoint K)}
  {first last : Waypoint K}

lemma fmod_eq_self_iff {a b : K} (hb : 0 < b) : fmod a b = a ↔ 0 ≤ a ∧ a < b := by
  rw [fmod, sub_eq_self, mul_eq_zero, or_iff_right hb.ne', Int.cast_eq_zero, Int.floor_eq_zero_iff,
    Set.mem_Ico, div_lt_one hb]
  exact and_congr_left' (by rw [le_div_iff₀ hb, zero_mul])

lemma yawDiff_self (a : K) : yawDiff a a = 0 := by
  simp [yawDiff, fmod]

lemma delayed_getElem? (bridgeS : K) (i : ℕ) : (delayed bridgeS waypoints)[i]? =
      waypoints[i]?.map fun w => { w with time := w.time + bridgeS } :=
  List.getElem?_map

lemma exists_offset (steps : ℕ) (leg : Leg K) (hf : waypoints.head? = some first) :
    ∃ n, steps ≤ n ∧ n ≤ steps + 1 ∧ ∀ i, (withLeg steps leg waypoints)[n + i]? =
        (delayed ((steps : K) * bridgeSampleS) waypoints)[i]? := by
  have hlen : (legSamples steps leg).length = steps := by simp [legSamples]
  cases waypoints with
  | nil => cases hf
  | cons v rest =>
    simp only [withLeg, held, delayed, List.map_cons]
    split
    · refine ⟨steps + 1, by omega, le_refl _, fun i => ?_⟩
      rw [List.getElem?_append_right (by omega), hlen,
        show steps + 1 + i - steps = i + 1 by omega, List.getElem?_cons_succ]
    · refine ⟨steps, le_refl _, by omega, fun i => ?_⟩
      rw [List.getElem?_append_right (by omega), hlen, Nat.add_sub_cancel_left]

lemma segmentState_later (w1 w2 : Waypoint K) (t c : K) :
    segmentState { w1 with time := w1.time + c } { w2 with time := w2.time + c } (c + t) =
      { segmentState w1 w2 t with time := c + t } := by
  have hspan : w2.time + c - (w1.time + c) = w2.time - w1.time := by ring
  have hdone : c + t - (w1.time + c) = t - w1.time := by ring
  simp only [segmentState, segmentRatio, hspan, hdone]

lemma head_bridged (leg : Leg K) (waypoints : List (Waypoint K)) (hsteps : 0 < steps) :
    ∃ s, (withLeg steps leg waypoints).head? = some s ∧
    s.time = 0 ∧ (s.x, s.y, s.z) = leg.start := by
  obtain ⟨m, rfl⟩ := Nat.exists_eq_succ_of_ne_zero hsteps.ne'
  refine ⟨_, by rw [withLeg, legSamples, List.range_succ_eq_map, List.map_cons, List.cons_append,
    List.head?_cons], ?_, ?_⟩
  · simp
  · simp [legPoint, minJerk]

section

variable (hord : TimeOrdered waypoints) (h0 : ∀ w ∈ waypoints, 0 ≤ w.time)
include hord h0

lemma bridged_over (hl : waypoints.getLast? = some last) (hsteps : 0 < steps) {t : K} (ht : last.time ≤ t) :
    interpolateWaypoint (withLeg steps leg waypoints) (steps * bridgeSampleS + t) =
      some { last with time := last.time + steps * bridgeSampleS } := by
  have hb : (0 : K) < steps * bridgeSampleS :=
    mul_pos (by exact_mod_cast hsteps) bridgeSampleS_pos
  have hnonneg : 0 ≤ last.time := h0 last (List.mem_of_getLast? hl)
  obtain ⟨s0, hs0, htime, -⟩ := head_bridged leg waypoints hsteps
  rcases interpolateWaypoint_cases (bridged_ordered hord h0) hs0 (last_bridged steps leg hl)
      (steps * bridgeSampleS + t) with
    ⟨hstart, -⟩ | ⟨-, -, he⟩ | ⟨-, -, -, -, -, -, -, hend, -⟩
  · exact absurd hstart (not_le.mpr (by linarith))
  · exact he
  · exact absurd hend (not_lt.mpr (by linarith))

section

variable (hf : waypoints.head? = some first)
include hf

lemma samePose_later (hsteps : 0 < steps) {t : K} (ht : first.time < t) :
    ∃ v ∈ interpolateWaypoint (withLeg steps leg waypoints) (steps * bridgeSampleS + t),
      ∃ w ∈ interpolateWaypoint waypoints t, SamePose v w := by
  obtain ⟨n, -, -, hoffset⟩ := exists_offset steps leg hf
  obtain ⟨last, hl⟩ : ∃ w, waypoints.getLast? = some w :=
    ⟨_, List.getLast?_eq_some_getLast (by rintro rfl; cases hf)⟩
  rcases interpolateWaypoint_cases hord hf hl t with
    ⟨hle, -⟩ | ⟨-, hle, he⟩ | ⟨i, w1, w2, h1, h2, hlt, hle, hend, he⟩
  · exact absurd ht (not_lt.mpr hle)
  · exact ⟨_, bridged_over hord h0 hl hsteps hle, _, he, rfl, rfl⟩
  · have h1' : (withLeg steps leg waypoints)[n + i]? =
        some { w1 with time := w1.time + steps * bridgeSampleS } := by
      rw [hoffset, delayed_getElem?, h1, Option.map_some]
    have h2' : (withLeg steps leg waypoints)[n + i + 1]? =
        some { w2 with time := w2.time + steps * bridgeSampleS } := by
      rw [Nat.add_assoc, hoffset, delayed_getElem?, h2, Option.map_some]
    have hlt' : w1.time + steps * bridgeSampleS < steps * bridgeSampleS + t := by linarith
    have hle' : steps * bridgeSampleS + t ≤ w2.time + steps * bridgeSampleS := by linarith
    have hend' : steps * bridgeSampleS + t < last.time + steps * bridgeSampleS := by linarith
    have he' := interpolateWaypoint_within (bridged_ordered hord h0) h1' h2'
      (last_bridged steps leg hl) hlt' hle' hend'
    rw [segmentState_later] at he'
    exact ⟨_, he', _, he, rfl, rfl⟩

/-- While the show is clamped to its first waypoint, so is what is flown, at a wrapped
heading. -/
lemma clamped_bridged (hleg : LegTo leg first)
    (hl : waypoints.getLast? = some last) (hsteps : 0 < steps) {t : K} (ht0 : 0 ≤ t)
    (ht : t ≤ first.time) (hend : t < last.time) :
    ∃ v ∈ interpolateWaypoint (withLeg steps leg waypoints) (steps * bridgeSampleS + t),
      (v.x, v.y, v.z) = (first.x, first.y, first.z) ∧ v.yaw = fmod first.yaw 360 := by
  have hpos : (0 : K) < steps := by exact_mod_cast hsteps
  have hb : (0 : K) < steps * bridgeSampleS := mul_pos hpos bridgeSampleS_pos
  have hfirst : 0 ≤ first.time := h0 first (List.mem_of_head? hf)
  have hbridged : TimeOrdered (withLeg steps leg waypoints) := bridged_ordered hord h0
  have hlast := last_bridged steps leg hl
  obtain ⟨n, hn, hn', hoffset⟩ := exists_offset steps leg hf
  have hshow : (withLeg steps leg waypoints)[n]? =
      some { first with time := first.time + steps * bridgeSampleS } := by
    have := hoffset 0
    rwa [Nat.add_zero, delayed_getElem?, ← List.head?_eq_getElem?, hf, Option.map_some] at this
  obtain ⟨s0, hhead, htime, -⟩ := head_bridged leg waypoints hsteps
  have hsample := fun j (hj : j ≤ steps) =>
    bridged_sample hf hfirst hleg.goal hleg.yaw hsteps hj
  obtain ⟨w, hw, hwtime, hwplace, hwyaw⟩ := hsample steps (le_refl _)
  rw [fraction_last hsteps, legPoint_one, hleg.goal] at hwplace
  rcases interpolateWaypoint_cases hbridged hhead hlast (steps * bridgeSampleS + t) with
    ⟨hstart, -⟩ | ⟨-, hover, -⟩ | ⟨j, w1, w2, h1, h2, hlt, hle, -, he⟩
  · exact absurd hstart (not_le.mpr (by linarith))
  · exact absurd hend (not_lt.mpr (by simpa [add_comm] using hover))
  · have hjn : j < n := by
      by_contra hge
      have := hbridged.le_of_le hshow h1 (not_lt.mp hge)
      exact absurd hlt (not_lt.mpr (this.trans' (by simpa [add_comm] using ht)))
    have hjsteps : steps ≤ j + 1 := by
      by_contra hge
      obtain ⟨v, hv, hvtime, -⟩ := hsample (j + 1) (by omega)
      cases h2.symm.trans hv
      have : ((j + 1 : ℕ) : K) < steps := by exact_mod_cast not_le.mp hge
      have := mul_lt_mul_of_pos_right this bridgeSampleS_pos
      linarith
    rcases hjsteps.eq_or_lt with hj | hj
    · -- the step that ends the leg
      subst hj
      obtain ⟨v, hv, hvtime, -, hvyaw⟩ := hsample j (Nat.le_succ j)
      cases h1.symm.trans hv
      cases h2.symm.trans hw
      have hspan : 0 < w.time - w1.time := by
        rw [hwtime, hvtime, ← sub_mul]
        exact mul_pos (by push_cast; linarith) bridgeSampleS_pos
      have hratio : segmentRatio w1 w ((j + 1 : ℕ) * bridgeSampleS + t) = 1 := by
        have hzero : (j + 1 : ℕ) * bridgeSampleS + t = w.time := le_antisymm hle (by linarith)
        rw [segmentRatio, if_pos hspan, hzero, div_self hspan.ne']
      refine ⟨_, he, ?_, ?_⟩
      · rw [← hwplace]
        simp only [segmentState, hratio, one_mul, add_sub_cancel]
      · simp [segmentState, hvyaw, hwyaw, yawDiff_self]
    · -- held at the first waypoint until its own time
      obtain rfl : j = steps := by omega
      obtain rfl : n = j + 1 := by omega
      cases h1.symm.trans hw
      cases h2.symm.trans hshow
      simp only [Prod.mk.injEq] at hwplace
      obtain ⟨hx, hy, hz⟩ := hwplace
      refine ⟨_, he, ?_, ?_⟩
      · simp [segmentState, hx, hy, hz]
      · simp [segmentState, hwyaw, yawDiff_self]

/-- Behind its leg a show is flown as it is, later, exactly when it can be delayed. -/
lemma onlyDelayed_iff (hleg : LegTo leg first) (hsteps : 0 < steps) :
    OnlyDelayed ((steps : K) * bridgeSampleS) waypoints
        (withLeg steps leg waypoints) ↔
      Delayable waypoints := by
  obtain ⟨last, hl⟩ : ∃ w, waypoints.getLast? = some w :=
    ⟨_, List.getLast?_eq_some_getLast (by rintro rfl; cases hf)⟩
  have hfirst : 0 ≤ first.time := h0 first (List.mem_of_head? hf)
  have hclamped : ∀ {t}, t ≤ first.time → interpolateWaypoint waypoints t = some first := by
    intro t ht
    simp [interpolateWaypoint, hf, hl, ht]
  have h360 : (0 : K) < 360 := by norm_num
  constructor
  · intro h first' hf' last' hl'
    cases hf.symm.trans hf'
    cases hl.symm.trans hl'
    constructor
    · intro hinstant
      obtain ⟨v, hv, w, hw, hpose⟩ := h first.time hfirst
      cases (bridged_over hord h0 hl hsteps hinstant.le).symm.trans hv
      cases (hclamped (le_refl _)).symm.trans hw
      exact hpose
    · intro hpositive
      obtain ⟨v, hv, w, hw, -, hyaw⟩ := h 0 (le_refl _)
      obtain ⟨v', hv', -, hyaw'⟩ := clamped_bridged hord h0 hf hleg hl hsteps (le_refl 0) hfirst hpositive
      cases (hclamped hfirst).symm.trans hw
      cases hv.symm.trans hv'
      exact (fmod_eq_self_iff h360).mp (hyaw'.symm.trans hyaw)
  · intro h t ht0
    obtain ⟨hinstant, hyaw⟩ := h first hf last hl
    rcases lt_or_ge first.time t with ht | ht
    · exact samePose_later hord h0 hf hsteps ht
    rcases lt_or_ge t last.time with hend | hend
    · obtain ⟨v, hv, hplace, hvyaw⟩ := clamped_bridged hord h0 hf hleg hl hsteps ht0 ht hend
      rw [(fmod_eq_self_iff h360).mpr (hyaw (ht0.trans_lt hend))] at hvyaw
      exact ⟨v, hv, first, hclamped ht, hplace, hvyaw⟩
    · have hle : first.time ≤ last.time :=
        hord.le_of_le (List.head?_eq_getElem? ▸ hf) (List.getLast?_eq_getElem? ▸ hl) (Nat.zero_le _)
      exact ⟨_, bridged_over hord h0 hl hsteps hend, first, hclamped ht,
        hinstant (le_antisymm (hend.trans ht) hle)⟩

end

end

end Track

/-! ## The list objects

The code is given the plan's own lists. Every list it writes to is one that it made. -/

section Objects

/-- A plan as the code holds it: where each drone's list is. -/
abbrev PlanRefs := List (Nat × ℕ)

def readPlan (heap : Heap (List (Waypoint K))) (refs : PlanRefs) : Plan K :=
  refs.map fun e => (e.1, (heap[e.2]?).getD [])

/-- `shifted.insert(0, ...)`: the clamp to the first waypoint, where it is needed. -/
def insertClamp (bridgeS : K) (heap : Heap (List (Waypoint K))) (shifted : ℕ) :
    Heap (List (Waypoint K)) :=
  match (heap[shifted]?).getD [] with
  | [] => heap
  | w :: _ => if bridgeS < w.time then
      heap.modify shifted (List.cons { w with time := bridgeS })
    else heap

/-- The lists made for one drone: its delayed show, and the leg with that behind it. -/
def bridgeDrone (hold : Dict Nat (Point K)) (steps : ℕ) (heap : Heap (List (Waypoint K)))
    (e : Nat × ℕ) : (Nat × ℕ) × Heap (List (Waypoint K)) :=
  let waypoints := (heap[e.2]?).getD []
  let bridgeS := (steps : K) * bridgeSampleS
  let shifted := alloc heap (delayed bridgeS waypoints)
  match legOf hold (e.1, waypoints) with
  | none => ((e.1, shifted.1), shifted.2)
  | some leg =>
    let heap := insertClamp bridgeS shifted.2 shifted.1
    let bridged := alloc heap (legSamples steps leg ++ (heap[shifted.1]?).getD [])
    ((e.1, bridged.1), bridged.2)

/-- The lists made for every drone of the plan, one after the other. -/
def bridgeDrones (hold : Dict Nat (Point K)) (steps : ℕ) :
    Heap (List (Waypoint K)) → PlanRefs → PlanRefs × Heap (List (Waypoint K))
  | heap, [] => ([], heap)
  | heap, e :: rest =>
    let made := bridgeDrone hold steps heap e
    let others := bridgeDrones hold steps made.2 rest
    (made.1 :: others.1, others.2)

/-- `build_start_bridge` on the plan's own lists. The checks only read; the new lists
are made before the legs are checked. -/
def buildOnHeap [FloorRing K] [IsStrictOrderedRing K] [Sqrt K] (tree : KdTree K)
    (heap : Heap (List (Waypoint K))) (refs : PlanRefs) (hold : Dict Nat (Point K))
    (peakSpeedMs : K) : Except String (PlanRefs × K) × Heap (List (Waypoint K)) :=
  let plan := readPlan heap refs
  let checked := buildStartBridge tree plan hold peakSpeedMs
  if unknownDrones plan hold = [] ∧ bridgeToleranceM < longestLeg plan hold then
    let made := bridgeDrones hold (bridgeSteps (longestLeg plan hold) peakSpeedMs) heap refs
    (checked.map fun r => (made.1, r.2), made.2)
  else (checked.map fun r => (refs, r.2), heap)

variable {heap heap' : Heap (List (Waypoint K))} {refs : PlanRefs} {hold : Dict Nat (Point K)}
  {steps : ℕ}

/-- With the clamp inserted a delayed show is held at its first waypoint, and nothing
older is written to. -/
lemma insertClamp_spec {bridgeS : K} {waypoints : List (Waypoint K)} {a : ℕ}
    (h : heap'[a]? = some (delayed bridgeS waypoints)) (hkept : Kept heap heap')
    (ha : heap.length ≤ a) :
    Kept heap (insertClamp bridgeS heap' a) ∧
      (insertClamp bridgeS heap' a)[a]? = some (held bridgeS waypoints) := by
  simp only [insertClamp, held, h, Option.getD_some]
  cases hd : delayed bridgeS waypoints with
  | nil => exact ⟨hkept, by rw [h, hd]⟩
  | cons w rest =>
    by_cases hlt : bridgeS < w.time
    · simp only [hlt, if_true]
      exact ⟨hkept.modify ha _, by simp [h, hd]⟩
    · simp only [hlt, if_false]
      exact ⟨hkept, by rw [h, hd]⟩

/-- The list made for a drone is the one of its bridged track, and nothing older is
written to. -/
lemma bridgeDrone_spec (hold : Dict Nat (Point K)) (steps : ℕ)
    (heap : Heap (List (Waypoint K))) (e : Nat × ℕ) :
    Kept heap (bridgeDrone hold steps heap e).2 ∧ (bridgeDrone hold steps heap e).1.1 = e.1 ∧
      (bridgeDrone hold steps heap e).2[(bridgeDrone hold steps heap e).1.2]? =
        some (bridgedTrack hold steps (e.1, (heap[e.2]?).getD [])).2 := by
  unfold bridgeDrone bridgedTrack
  generalize (heap[e.2]?).getD [] = waypoints
  cases hleg : legOf hold (e.1, waypoints) with
  | none =>
    simp only [hleg, true_and]
    exact ⟨kept_alloc _ _, alloc_getElem? _ _⟩
  | some leg =>
    simp only [hleg, true_and]
    obtain ⟨hkept, hheld⟩ := insertClamp_spec (alloc_getElem? heap _)
      (kept_alloc heap (delayed ((steps : K) * bridgeSampleS) waypoints)) (le_refl _)
    rw [hheld, Option.getD_some]
    exact ⟨hkept.trans (kept_alloc _ _), alloc_getElem? _ _⟩

lemma readPlan_kept (h : Kept heap heap') (hlive : ∀ e ∈ refs, e.2 < heap.length) :
    readPlan heap' refs = readPlan heap refs :=
  List.map_congr_left fun e he => by rw [h.getElem? (hlive e he)]

lemma bridgeDrones_spec (hold : Dict Nat (Point K)) (steps : ℕ)
    (hlive : ∀ e ∈ refs, e.2 < heap.length) :
    Kept heap (bridgeDrones hold steps heap refs).2 ∧
      readPlan (bridgeDrones hold steps heap refs).2 (bridgeDrones hold steps heap refs).1 =
        (readPlan heap refs).map (bridgedTrack hold steps) := by
  induction refs generalizing heap with
  | nil => exact ⟨Kept.refl heap, rfl⟩
  | cons e rest ih =>
    obtain ⟨hkept, hid, hmade⟩ := bridgeDrone_spec hold steps heap e
    have hrest : ∀ f ∈ rest, f.2 < heap.length := fun f hf => hlive f (List.mem_cons_of_mem _ hf)
    obtain ⟨hkept', hothers⟩ := ih fun f hf => (hrest f hf).trans_le hkept.length_le
    obtain ⟨hlt, -⟩ := List.getElem?_eq_some_iff.mp hmade
    refine ⟨hkept.trans hkept', ?_⟩
    rw [readPlan_kept hkept hrest] at hothers
    simp only [readPlan, bridgeDrones, List.map_cons] at hothers ⊢
    rw [hothers, hkept'.getElem? hlt, hmade, hid, Option.getD_some]
    refine congrArg₂ List.cons (Prod.ext ?_ rfl) rfl
    simp only [bridgedTrack]
    split <;> rfl

/-- On the plan's own lists the code does what it does on the plan, and writes to
none of them. -/
lemma buildOnHeap_spec [FloorRing K] [IsStrictOrderedRing K] [Sqrt K] (tree : KdTree K)
    (hlive : ∀ e ∈ refs, e.2 < heap.length) (hold : Dict Nat (Point K)) (peakSpeedMs : K) :
    Kept heap (buildOnHeap tree heap refs hold peakSpeedMs).2 ∧
      ((buildOnHeap tree heap refs hold peakSpeedMs).1.map fun r =>
        (readPlan (buildOnHeap tree heap refs hold peakSpeedMs).2 r.1, r.2)) =
          buildStartBridge tree (readPlan heap refs) hold peakSpeedMs := by
  unfold buildOnHeap
  dsimp only
  split
  next h =>
    obtain ⟨hkept, hmade⟩ := bridgeDrones_spec hold
      (bridgeSteps (longestLeg (readPlan heap refs) hold) peakSpeedMs) hlive
    refine ⟨hkept, ?_⟩
    cases hb : buildStartBridge tree (readPlan heap refs) hold peakSpeedMs with
    | error msg => rfl
    | ok r =>
      obtain ⟨played, bridgeS⟩ := r
      obtain ⟨-, ⟨hle, -, -⟩ | ⟨-, -, rfl, -⟩⟩ := buildStartBridge_ok hb
      · exact absurd h.2 (not_lt.mpr hle)
      · simp only [Except.map, hmade]
  next h =>
    refine ⟨Kept.refl heap, ?_⟩
    cases hb : buildStartBridge tree (readPlan heap refs) hold peakSpeedMs with
    | error msg => rfl
    | ok r =>
      obtain ⟨played, bridgeS⟩ := r
      obtain ⟨hknown, ⟨-, rfl, -⟩ | ⟨hlt, -⟩⟩ := buildStartBridge_ok hb
      · rfl
      · exact absurd ⟨hknown, hlt⟩ h

end Objects

section

variable [FloorRing K] [IsStrictOrderedRing K]

/-- What is returned is the plan, later by the same time for every drone and behind
its hold, and the plan itself is as it was. -/
structure DelaysOnly (hold : Dict Nat (Point K)) (bridgeS : K) (plan after played : Plan K) :
    Prop where
  unchanged : after = plan
  flown : List.Forall₂ (fun e f => f.1 = e.1 ∧ (e.2 ≠ [] → OnlyDelayed bridgeS e.2 f.2)) plan played
  starts : 0 < bridgeS → ∀ f ∈ played, f.2 ≠ [] →
    ∃ p, find hold f.1 = some p ∧ placeAt f.2 0 = some p
  ordered : ∀ f ∈ played, TimeOrdered f.2

variable {plan : Plan K} {hold : Dict Nat (Point K)} {steps : ℕ}

lemma onlyDelayed_zero {waypoints : List (Waypoint K)} (hord : TimeOrdered waypoints)
    (hne : waypoints ≠ []) : OnlyDelayed 0 waypoints waypoints := by
  intro t _
  obtain ⟨w, hw⟩ := interpolateWaypoint_isSome hord hne t
  exact ⟨w, by rwa [zero_add], w, hw, rfl, rfl⟩

lemma find_of_legOf {e : Nat × List (Waypoint K)} {leg : Leg K} (h : legOf hold e = some leg) :
    find hold e.1 = some leg.start := by
  unfold legOf at h
  split at h
  next hstart => cases h; exact hstart
  next => cases h

lemma bridged_starts (hord : ∀ e ∈ plan, TimeOrdered e.2) (h0 : ∀ e ∈ plan, ∀ w ∈ e.2, 0 ≤ w.time)
    (hknown : unknownDrones plan hold = []) (hsteps : 0 < steps) :
    (∀ f ∈ plan.map (bridgedTrack hold steps), f.2 ≠ [] →
      ∃ p, find hold f.1 = some p ∧ placeAt f.2 0 = some p) ∧
    ∀ f ∈ plan.map (bridgedTrack hold steps), TimeOrdered f.2 := by
  have htrack : ∀ e ∈ plan, e.2 ≠ [] → ∃ leg, find hold e.1 = some leg.start ∧
      bridgedTrack hold steps e = (e.1, withLeg steps leg e.2) := by
    intro e he hne
    obtain ⟨leg, first, hleg, -, -⟩ := exists_leg hknown he hne
    exact ⟨leg, find_of_legOf hleg, by simp only [bridgedTrack, hleg]⟩
  have hempty : ∀ e : Nat × List (Waypoint K), e.2 = [] → (bridgedTrack hold steps e).2 = [] := by
    intro e he
    simp [bridgedTrack, legOf, delayed, he]
  constructor
  · rintro f hf hne
    obtain ⟨e, he, rfl⟩ := List.mem_map.mp hf
    obtain ⟨leg, hstart, htrack⟩ := htrack e he fun hnil => hne (hempty e hnil)
    obtain ⟨s, hhead, htime, hplace⟩ := head_bridged leg e.2 hsteps
    rw [htrack]
    refine ⟨leg.start, hstart, ?_⟩
    obtain ⟨last, hl⟩ : ∃ w, (withLeg steps leg e.2).getLast? = some w :=
      ⟨_, List.getLast?_eq_some_getLast (by rintro hnil; rw [hnil] at hhead; cases hhead)⟩
    rw [placeAt, interpolateWaypoint, hhead, hl]
    simp only [htime, le_refl, if_true, Option.map_some, hplace]
  · rintro f hf
    obtain ⟨e, he, rfl⟩ := List.mem_map.mp hf
    by_cases hne : e.2 = []
    · rw [hempty e hne]
      exact List.Pairwise.nil
    · obtain ⟨leg, -, htrack⟩ := htrack e he hne
      rw [htrack]
      exact bridged_ordered (hord e he) (h0 e he)

variable [Sqrt K] {tree : KdTree K} {heap heap' : Heap (List (Waypoint K))}
  {refs bridged : PlanRefs} {peakSpeedMs bridgeS : K}

/-- A start only delays its show exactly when every show it puts behind a leg can be
delayed. -/
theorem delaysOnly_iff (hlive : ∀ e ∈ refs, e.2 < heap.length)
    (hord : ∀ e ∈ readPlan heap refs, TimeOrdered e.2)
    (h0 : ∀ e ∈ readPlan heap refs, ∀ w ∈ e.2, 0 ≤ w.time)
    (hok : buildOnHeap tree heap refs hold peakSpeedMs = (.ok (bridged, bridgeS), heap')) :
    DelaysOnly hold bridgeS (readPlan heap refs) (readPlan heap' refs) (readPlan heap' bridged) ↔
      (0 < bridgeS → ∀ e ∈ readPlan heap refs, Delayable e.2) := by
  obtain ⟨hkept, hbuilt⟩ := buildOnHeap_spec tree hlive hold peakSpeedMs
  rw [hok] at hkept hbuilt
  have hunchanged := readPlan_kept hkept hlive
  obtain ⟨hknown, ⟨-, hplan, rfl⟩ | ⟨-, -, hplan, rfl⟩⟩ := buildStartBridge_ok hbuilt.symm
  · -- no leg: the plan itself
    simp only [lt_irrefl, false_imp_iff, iff_true]
    refine ⟨hunchanged, ?_, fun hb => absurd hb (lt_irrefl _), ?_⟩
    · rw [hplan, List.forall₂_same]
      exact fun e he => ⟨rfl, onlyDelayed_zero (hord e he)⟩
    · rw [hplan]
      exact hord
  · have hsteps := bridgeSteps_pos (longestLeg (readPlan heap refs) hold) peakSpeedMs
    generalize bridgeSteps (longestLeg (readPlan heap refs) hold) peakSpeedMs = steps at *
    have hb : (0 : K) < steps * bridgeSampleS :=
      mul_pos (by exact_mod_cast hsteps) (by norm_num [bridgeSampleS])
    obtain ⟨hstarts, hordered⟩ := bridged_starts hord h0 hknown hsteps
    have hflown : List.Forall₂ (fun e f => f.1 = e.1 ∧
        (e.2 ≠ [] → OnlyDelayed ((steps : K) * bridgeSampleS) e.2 f.2)) (readPlan heap refs)
          ((readPlan heap refs).map (bridgedTrack hold steps)) ↔
        ∀ e ∈ readPlan heap refs, Delayable e.2 := by
      rw [List.forall₂_map_right_iff, List.forall₂_same]
      refine forall₂_congr fun e he => ?_
      by_cases hne : e.2 = []
      · simp [hne, Delayable, bridgedTrack, legOf]
      · obtain ⟨leg, first, hleg, hf, hto⟩ := exists_leg hknown he hne
        simp only [bridgedTrack, hleg, true_and, Ne, hne, not_false_eq_true, true_imp_iff]
        exact onlyDelayed_iff (hord e he) (h0 e he) hf hto hsteps
    rw [← hplan] at hstarts hordered hflown
    constructor
    · intro h _
      exact hflown.mp h.flown
    · intro h
      exact ⟨hunchanged, hflown.mpr (h hb), fun _ => hstarts, hordered⟩

end

section

/-- One list: a climb that begins a second after the show. -/
def lateHeap : Heap (List (Waypoint ℚ)) :=
  [[{ time := 1, x := 0, y := 0, z := 0, yaw := 90 },
    { time := 6, x := 0, y := 0, z := -5, yaw := 90 }]]

/-- One list: two waypoints five metres apart, both at the start of the show. -/
def instantHeap : Heap (List (Waypoint ℚ)) :=
  [[{ time := 0, x := 0, y := 0, z := 0, yaw := 0 },
    { time := 0, x := 5, y := 0, z := 0, yaw := 0 }]]

theorem delaysOnly_late : ∃ bridged bridgeS heap',
    buildOnHeap bruteForce lateHeap [(0, 0)] [(0, (0, 0, -2))] (7 / 5) =
        (.ok (bridged, bridgeS), heap') ∧ 0 < bridgeS ∧
      DelaysOnly [(0, (0, 0, -2))] bridgeS (readPlan lateHeap [(0, 0)]) (readPlan heap' [(0, 0)])
        (readPlan heap' bridged) := by
  obtain ⟨r, hr, hb⟩ : ∃ r ∈ (buildOnHeap bruteForce lateHeap [(0, 0)] [(0, (0, 0, -2))]
      (7 / 5)).1.toOption, 0 < r.2 := by decide +kernel
  have hok : _ = (Except.ok r, _) := Prod.ext (Lib.Check.ok_of_toOption hr) rfl
  refine ⟨r.1, r.2, _, hok, hb, (delaysOnly_iff ?_ ?_ ?_ hok).mpr fun _ => ?_⟩
  · simp [lateHeap]
  · simp [readPlan, lateHeap, TimeOrdered]
  · simp [readPlan, lateHeap]
  · simp [readPlan, lateHeap, Delayable]
    norm_num

/-- A show that lies at one instant is read at its last waypoint behind a leg, and at
its first without one. -/
theorem instant_not_delayed : ∃ bridged bridgeS heap',
    buildOnHeap bruteForce instantHeap [(0, 0)] [(0, (0, 0, -2))] (7 / 5) =
        (.ok (bridged, bridgeS), heap') ∧
      ¬ DelaysOnly [(0, (0, 0, -2))] bridgeS (readPlan instantHeap [(0, 0)])
        (readPlan heap' [(0, 0)]) (readPlan heap' bridged) := by
  obtain ⟨⟨bridged, bridgeS⟩, hr, f, hf, w', hw', hx⟩ :
      ∃ r ∈ (buildOnHeap bruteForce instantHeap [(0, 0)] [(0, (0, 0, -2))] (7 / 5)).1.toOption,
      ∃ f ∈ r.1.head?, ∃ w ∈ interpolateWaypoint (((buildOnHeap bruteForce instantHeap [(0, 0)]
        [(0, (0, 0, -2))] (7 / 5)).2[f.2]?).getD []) (r.2 + 0), w.x = 5 := by decide +kernel
  obtain ⟨rest, rfl⟩ : ∃ rest, bridged = f :: rest := List.head?_eq_some_iff.mp hf
  refine ⟨_, bridgeS, _, Prod.ext (Lib.Check.ok_of_toOption hr) rfl, fun h => ?_⟩
  obtain ⟨⟨-, hflown⟩, -⟩ := List.forall₂_cons.mp h.flown
  obtain ⟨v, hv, w, hw, hplace, -⟩ := hflown (by simp [instantHeap]) 0 (le_refl _)
  obtain rfl : v = w' := Option.some.inj (hv.symm.trans hw')
  have hfirst : w.x = 0 := by
    simp only [instantHeap, interpolateWaypoint] at hw
    cases hw
    rfl
  have hx0 : v.x = w.x := congrArg Prod.fst hplace
  rw [hfirst, hx] at hx0
  norm_num at hx0

end

end Taramandal.Gcs.BridgeDelay
