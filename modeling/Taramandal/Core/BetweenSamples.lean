import Taramandal.Core.CleanSweep
import Taramandal.Lib.Approach

/-! # What a report that passes says between its samples

With waypoints on the grid of the sweep a drone flies straight from one sample to the next. Two
drones that are apart at both samples and slow in between lose no more of the square of their
distance than one of them can fly. -/
set_option linter.unusedSectionVars false

namespace Taramandal.Core.BetweenSamples

open Lib.Approach Core.Numbers Core.Geometry Core.Safety Core.Shows Core.Validate Core.CleanShows
open Core.ShowReport Core.CleanSweep

section Straight

variable {K : Type} [Field K] [LinearOrder K]

/-- The share `r` of the way from one point to another. -/
def along (p q : Point K) (r : K) : Point K :=
  (p.1 + r * (q.1 - p.1), p.2.1 + r * (q.2.1 - p.2.1), p.2.2 + r * (q.2.2 - p.2.2))

lemma along_self (p : Point K) (r : K) : along p p r = p := by
  simp [along]

lemma along_zero (p q : Point K) : along p q 0 = p := by
  simp [along]

lemma along_one (p q : Point K) : along p q 1 = q := by
  simp [along]

lemma along_along (p q : Point K) (x y r : K) :
    along (along p q x) (along p q y) r = along p q (x + r * (y - x)) := by
  refine Prod.ext ?_ (Prod.ext ?_ ?_) <;> simp only [along] <;> ring

variable [IsStrictOrderedRing K]

/-- Two points that move straight and slowly between places that are apart stay apart. -/
lemma apart_along {p p' q q' : Point K} {apart far r : K} (h : apart ≤ distSq p q)
    (h' : apart ≤ distSq p' q') (hp : distSq p' p ≤ far) (hq : distSq q' q ≤ far) (h0 : 0 ≤ r)
    (h1 : r ≤ 1) : apart - far ≤ distSq (along p p' r) (along q q' r) := by
  have hspread : ∀ x y : K, (x - y) * (x - y) ≤ 2 * (x * x + y * y) := by
    intro x y
    linarith [mul_self_nonneg (x + y)]
  let spread : K := ((p'.1 - p.1) - (q'.1 - q.1)) * ((p'.1 - p.1) - (q'.1 - q.1)) +
    ((p'.2.1 - p.2.1) - (q'.2.1 - q.2.1)) * ((p'.2.1 - p.2.1) - (q'.2.1 - q.2.1)) +
      ((p'.2.2 - p.2.2) - (q'.2.2 - q.2.2)) * ((p'.2.2 - p.2.2) - (q'.2.2 - q.2.2))
  have hle : spread ≤ 4 * far := by
    have hx := hspread (p'.1 - p.1) (q'.1 - q.1)
    have hy := hspread (p'.2.1 - p.2.1) (q'.2.1 - q.2.1)
    have hz := hspread (p'.2.2 - p.2.2) (q'.2.2 - q.2.2)
    simp only [distSq] at hp hq
    simp only [spread]
    linarith
  have hfar : 0 ≤ far := (distSq_nonneg p' p).trans hp
  have hquarter : r * (1 - r) * 4 ≤ 1 := by
    linarith [mul_self_nonneg (2 * r - 1)]
  have hmid : r * (1 - r) * spread ≤ far := by
    have hr : 0 ≤ r * (1 - r) := mul_nonneg h0 (sub_nonneg.mpr h1)
    calc r * (1 - r) * spread ≤ r * (1 - r) * (4 * far) := mul_le_mul_of_nonneg_left hle hr
      _ = r * (1 - r) * 4 * far := by ring
      _ ≤ 1 * far := mul_le_mul_of_nonneg_right hquarter hfar
      _ = far := one_mul far
  have hends : apart ≤ (1 - r) * distSq p q + r * distSq p' q' := by
    have hstart := mul_le_mul_of_nonneg_left h (sub_nonneg.mpr h1)
    have hend := mul_le_mul_of_nonneg_left h' h0
    linarith
  calc apart - far ≤ (1 - r) * distSq p q + r * distSq p' q' - r * (1 - r) * spread :=
        sub_le_sub hends hmid
    _ = distSq (along p p' r) (along q q' r) := by
        simp only [distSq, along, spread]
        ring

/-! ## Straight flights -/

def Increasing (waypoints : List (Waypoint K)) : Prop :=
  waypoints.Pairwise fun a b => a.time < b.time

section Flight

variable {waypoints : List (Waypoint K)} {a b t : K}

lemma Increasing.ordered (h : Increasing waypoints) : TimeOrdered waypoints :=
  h.imp fun hlt => hlt.le

lemma Increasing.eq_of_time (h : Increasing waypoints) {i j : Nat} {w u : Waypoint K}
    (hw : waypoints[i]? = some w) (hu : waypoints[j]? = some u) (htime : w.time = u.time) :
    i = j := by
  obtain ⟨hi, rfl⟩ := List.getElem?_eq_some_iff.mp hw
  obtain ⟨hj, rfl⟩ := List.getElem?_eq_some_iff.mp hu
  rcases Nat.lt_trichotomy i j with hlt | heq | hgt
  · exact absurd htime (List.pairwise_iff_getElem.mp h i j hi hj hlt).ne
  · exact heq
  · exact absurd htime (List.pairwise_iff_getElem.mp h j i hj hi hgt).ne'

variable [FloorRing K]

lemma interpolate_before {first : Waypoint K} (hf : waypoints.head? = some first)
    (ht : t ≤ first.time) : interpolateWaypoint waypoints t = some first := by
  have hne : waypoints ≠ [] := by rintro rfl; cases hf
  obtain ⟨_, last, -, hl⟩ := exists_first_last hne
  simp [interpolateWaypoint, hf, hl, ht]

lemma interpolate_after (h : Increasing waypoints) {last : Waypoint K}
    (hl : waypoints.getLast? = some last) (ht : last.time ≤ t) :
    interpolateWaypoint waypoints t = some last := by
  have hne : waypoints ≠ [] := by rintro rfl; cases hl
  obtain ⟨first, _, hf, -⟩ := exists_first_last hne
  rcases interpolateWaypoint_cases h.ordered hf hl t with
    ⟨hle, he⟩ | ⟨_, _, he⟩ | ⟨i, w1, w2, _, _, _, _, hlt, _⟩
  · -- the first waypoint is then the last
    have hf0 : waypoints[0]? = some first := by rw [← List.head?_eq_getElem?]; exact hf
    have hl0 : waypoints[waypoints.length - 1]? = some last := by
      rw [← List.getLast?_eq_getElem?]; exact hl
    have hle' : first.time ≤ last.time := h.ordered.le_of_le hf0 hl0 (Nat.zero_le _)
    have hsame := h.eq_of_time hf0 hl0 (le_antisymm hle' (ht.trans hle))
    rw [← hsame, hf0] at hl0
    rw [he, hl0]
  · exact he
  · exact absurd ht (not_le.mpr hlt)

lemma place_segmentState {w1 w2 : Waypoint K} (hlt : 0 < w2.time - w1.time) :
    place (segmentState w1 w2 t) =
      along (place w1) (place w2) ((t - w1.time) / (w2.time - w1.time)) := by
  have hratio : segmentRatio w1 w2 t = (t - w1.time) / (w2.time - w1.time) := if_pos hlt
  simp only [place, segmentState, along, hratio]

lemma interpolate_segment (h : Increasing waypoints) {i : Nat} {w1 w2 : Waypoint K}
    (h1 : waypoints[i]? = some w1) (h2 : waypoints[i + 1]? = some w2) (hle1 : w1.time ≤ t)
    (hle2 : t ≤ w2.time) : ∃ w, interpolateWaypoint waypoints t = some w ∧
      place w = along (place w1) (place w2) ((t - w1.time) / (w2.time - w1.time)) := by
  obtain ⟨hi, hw1⟩ := List.getElem?_eq_some_iff.mp h1
  obtain ⟨hj, hw2⟩ := List.getElem?_eq_some_iff.mp h2
  have hlt : w1.time < w2.time := by
    have hpair := List.pairwise_iff_getElem.mp h i (i + 1) hi hj (Nat.lt_succ_self i)
    rwa [hw1, hw2] at hpair
  have hspan : 0 < w2.time - w1.time := sub_pos.mpr hlt
  have hne : waypoints ≠ [] := by rintro rfl; cases h1
  obtain ⟨first, last, hf, hl⟩ := exists_first_last hne
  have hf0 : waypoints[0]? = some first := by rw [← List.head?_eq_getElem?]; exact hf
  have hl0 : waypoints[waypoints.length - 1]? = some last := by
    rw [← List.getLast?_eq_getElem?]; exact hl
  have hstart : (w1.time - w1.time) / (w2.time - w1.time) = 0 := by rw [sub_self, zero_div]
  have hend : (w2.time - w1.time) / (w2.time - w1.time) = 1 := div_self hspan.ne'
  rcases interpolateWaypoint_cases h.ordered hf hl t with
    ⟨hle, he⟩ | ⟨_, hle, he⟩ | ⟨j, v1, v2, hv1, hv2, hjlt, hjle, _, he⟩
  · -- the segment is the first one, at its start
    have hle' : first.time ≤ w1.time := h.ordered.le_of_le hf0 h1 (Nat.zero_le i)
    have ht : t = w1.time := le_antisymm (hle.trans hle') hle1
    have hfirst : first.time = w1.time := le_antisymm hle' (hle1.trans hle)
    rw [← h.eq_of_time hf0 h1 hfirst, hf0] at h1
    cases h1
    exact ⟨_, he, by rw [ht, hstart, along_zero]⟩
  · -- the segment is the last one, at its end
    have hle' : w2.time ≤ last.time := h.ordered.le_of_le h2 hl0 (by omega)
    have ht : t = w2.time := le_antisymm hle2 (hle'.trans hle)
    have hlast : w2.time = last.time := le_antisymm hle' (hle.trans hle2)
    rw [h.eq_of_time h2 hl0 hlast, hl0] at h2
    cases h2
    exact ⟨_, he, by rw [ht, hend, along_one]⟩
  · refine ⟨_, he, ?_⟩
    have hjspan : 0 < v2.time - v1.time := sub_pos.mpr (hjlt.trans_le hjle)
    rw [place_segmentState hjspan]
    rcases Nat.lt_trichotomy j i with hji | rfl | hij
    · -- at the start of a segment that is not the first, the search takes the one before
      have hle' : v2.time ≤ w1.time := h.ordered.le_of_le hv2 h1 hji
      have ht : t = w1.time := le_antisymm (hjle.trans hle') hle1
      have hsame : v2.time = w1.time := le_antisymm hle' (hle1.trans hjle)
      rw [h.eq_of_time hv2 h1 hsame, h1] at hv2
      cases hv2
      rw [ht, hstart, div_self hjspan.ne', along_zero, along_one]
    · cases h1.symm.trans hv1
      cases h2.symm.trans hv2
      rfl
    · exact absurd (hle2.trans (h.ordered.le_of_le h2 hv1 hij)) (not_le.mpr hjlt)

lemma flies_straight (h : Increasing waypoints) (hne : waypoints ≠ []) (hab : a < b)
    (hclear : ∀ w ∈ waypoints, w.time ≤ a ∨ b ≤ w.time) :
    ∃ p q, (∃ w, interpolateWaypoint waypoints a = some w ∧ place w = p) ∧
      (∃ w, interpolateWaypoint waypoints b = some w ∧ place w = q) ∧
        ∀ r, 0 ≤ r → r ≤ 1 → ∃ w, interpolateWaypoint waypoints (a + r * (b - a)) = some w ∧
          place w = along p q r := by
  obtain ⟨first, last, hf, hl⟩ := exists_first_last hne
  have hspan : 0 < b - a := sub_pos.mpr hab
  have hwithin : ∀ r : K, 0 ≤ r → r ≤ 1 → a ≤ a + r * (b - a) ∧ a + r * (b - a) ≤ b := by
    intro r h0 h1
    have hlow := mul_nonneg h0 hspan.le
    have hhigh := mul_le_mul_of_nonneg_right h1 hspan.le
    constructor <;> linarith
  have hmid : a < (a + b) / 2 ∧ (a + b) / 2 < b := by constructor <;> linarith
  -- the middle of the piece tells which way the drone is placed over all of it
  rcases interpolateWaypoint_cases h.ordered hf hl ((a + b) / 2) with
    ⟨hle, -⟩ | ⟨-, hle, -⟩ | ⟨i, w1, w2, h1, h2, hlt, hle, -, -⟩
  · have hb : b ≤ first.time := by
      rcases hclear first (List.mem_of_mem_head? hf) with hbefore | hafter
      · exact absurd (hle.trans hbefore) (not_le.mpr hmid.1)
      · exact hafter
    refine ⟨place first, place first, ⟨first, interpolate_before hf (hab.le.trans hb), rfl⟩,
      ⟨first, interpolate_before hf hb, rfl⟩, fun r h0 h1 => ?_⟩
    exact ⟨first, interpolate_before hf ((hwithin r h0 h1).2.trans hb), (along_self _ _).symm⟩
  · have ha : last.time ≤ a := by
      rcases hclear last (List.mem_of_getLast? hl) with hbefore | hafter
      · exact hbefore
      · exact absurd (hafter.trans hle) (not_le.mpr hmid.2)
    refine ⟨place last, place last, ⟨last, interpolate_after h hl ha, rfl⟩,
      ⟨last, interpolate_after h hl (ha.trans hab.le), rfl⟩, fun r h0 h1 => ?_⟩
    exact ⟨last, interpolate_after h hl (ha.trans (hwithin r h0 h1).1), (along_self _ _).symm⟩
  · have ha : w1.time ≤ a := by
      rcases hclear w1 (List.mem_of_getElem? h1) with hbefore | hafter
      · exact hbefore
      · exact absurd (hafter.trans_lt hlt) (not_lt.mpr hmid.2.le)
    have hb : b ≤ w2.time := by
      rcases hclear w2 (List.mem_of_getElem? h2) with hbefore | hafter
      · exact absurd (hle.trans hbefore) (not_le.mpr hmid.1)
      · exact hafter
    refine ⟨_, _, interpolate_segment h h1 h2 ha (hab.le.trans hb),
      interpolate_segment h h1 h2 (ha.trans hab.le) hb, fun r h0 h1' => ?_⟩
    obtain ⟨hlow, hhigh⟩ := hwithin r h0 h1'
    obtain ⟨w, hw, hplace⟩ := interpolate_segment h h1 h2 (ha.trans hlow) (hhigh.trans hb)
    refine ⟨w, hw, ?_⟩
    rw [hplace, along_along]
    congr 1
    have hpos : 0 < w2.time - w1.time := sub_pos.mpr (ha.trans_lt (hab.trans_le hb))
    field_simp
    ring

end Flight

end Straight

section Report

variable {tree : KdTree ℝ} {s : Show ℝ} {d e : Nat × List (Waypoint ℝ)} {t : ℝ}

/-- Waypoints at increasing multiples of 0.1 s. -/
structure OnGrid (waypoints : List (Waypoint ℝ)) : Prop where
  increasing : Increasing waypoints
  tenths : ∀ w ∈ waypoints, ∃ n : ℤ, w.time = n * (1 / 10)

variable {w u : Waypoint ℝ} {k : Nat}

lemma mem_statesAt (hd : d ∈ s.drones)
    (hw : interpolateWaypoint d.2 t = some w) : (d.1, w) ∈ statesAt s t :=
  List.mem_filterMap.mpr ⟨d, hd, by rw [hw]; rfl⟩

lemma mem_positionsAt (hd : d ∈ s.drones)
    (hw : interpolateWaypoint d.2 t = some w) : (d.1, place w) ∈ positionsAt s t :=
  List.mem_filterMap.mpr ⟨d, hd, by rw [hw]; rfl⟩

lemma apart_at_sample {threshold : ℝ} (h0 : 0 ≤ threshold)
    (h : closePairs tree (positionsAt s t) threshold = []) (hd : d ∈ s.drones) (he : e ∈ s.drones)
    (hne : d.1 ≠ e.1) (hw : interpolateWaypoint d.2 t = some w)
    (hu : interpolateWaypoint e.2 t = some u) :
    threshold * threshold ≤ distSq (place w) (place u) := by
  obtain ⟨i, hi⟩ := List.getElem?_of_mem (mem_positionsAt hd hw)
  obtain ⟨j, hj⟩ := List.getElem?_of_mem (mem_positionsAt he hu)
  have hfar : threshold ≤ pointDist (place w) (place u) := by
    rcases Nat.lt_trichotomy i j with hij | rfl | hij
    · exact le_pointDist_of_closePairs_eq_nil tree h hij hi hj
    · have hsame : (d.1, place w) = (e.1, place u) := Option.some.inj (hi.symm.trans hj)
      exact absurd (Prod.mk.inj hsame).1 hne
    · rw [pointDist_comm]
      exact le_pointDist_of_closePairs_eq_nil tree h hij hj hi
  exact sq_le_of_le_sqrt h0 (distSq_nonneg _ _) hfar

lemma near_at_next {dt limit : ℝ} (hdt : 0 < dt) (hlimit : 0 ≤ limit) {p q : Point ℝ}
    (h : magnitude (rate p q dt) ≤ limit) : distSq p q ≤ limit * dt * (limit * dt) := by
  have hsq : distSq p q / (dt * dt) ≤ limit ^ 2 := by
    have heq : (rate p q dt).1 * (rate p q dt).1 + (rate p q dt).2.1 * (rate p q dt).2.1 +
        (rate p q dt).2.2 * (rate p q dt).2.2 = distSq p q / (dt * dt) := by
      simp only [rate, distSq]
      field_simp
    rw [← heq]
    exact (Real.sqrt_le_left hlimit).mp h
  rw [div_le_iff₀ (mul_pos hdt hdt)] at hsq
  calc distSq p q ≤ limit ^ 2 * (dt * dt) := hsq
    _ = limit * dt * (limit * dt) := by ring

section

variable {duration dt : ℝ} (hduration : 0 ≤ duration)
include hduration

lemma sweepTimes_eq : sweepTimes duration dt =
      (List.range (⌈duration / dt⌉.toNat + 1)).map fun step : Nat => (step : ℝ) * dt := by
  unfold sweepTimes
  split
  next hle =>
    have hzero : duration = 0 := le_antisymm hle hduration
    simp [hzero]
  next => rfl

lemma mem_samples (hk : k ≤ ⌈duration / dt⌉.toNat) : (k : ℝ) * dt ∈ sweepTimes duration dt := by
  rw [sweepTimes_eq hduration]
  exact List.mem_map.mpr ⟨k, List.mem_range.mpr (Nat.lt_succ_of_le hk), rfl⟩

lemma split_samples (hk : k < ⌈duration / dt⌉.toNat) : ∃ pre post, sweepTimes duration dt =
      pre ++ (k : ℝ) * dt :: ((k + 1 : ℕ) : ℝ) * dt :: post := by
  obtain ⟨m, hm⟩ : ∃ m, ⌈duration / dt⌉.toNat + 1 = k + (m + 2) :=
    ⟨⌈duration / dt⌉.toNat - k - 1, by omega⟩
  refine ⟨(List.range k).map fun step : Nat => (step : ℝ) * dt,
    (List.range m).map fun step : Nat => ((k + (step + 2) : ℕ) : ℝ) * dt, ?_⟩
  rw [sweepTimes_eq hduration, hm, List.range_add, List.map_append, List.map_map,
    List.range_succ_eq_map, List.range_succ_eq_map]
  simp only [List.map_cons, List.map_map]
  congr 1

end

section

variable {waypoints : List (Waypoint ℝ)}

lemma OnGrid.clear (h : OnGrid waypoints) (k : Nat) :
    ∀ w ∈ waypoints, w.time ≤ (k : ℝ) * (1 / 10) ∨ ((k + 1 : ℕ) : ℝ) * (1 / 10) ≤ w.time := by
  intro w hw
  obtain ⟨n, hn⟩ := h.tenths w hw
  rw [hn]
  rcases le_or_gt n k with hle | hgt
  · left
    have hcast : (n : ℝ) ≤ k := by exact_mod_cast hle
    linarith
  · right
    have hcast : ((k + 1 : ℕ) : ℝ) ≤ n := by exact_mod_cast hgt
    linarith

/-- A waypoint list that ends by `t` holds its last place from there on. -/
lemma interpolate_late (h : Increasing waypoints) {last}
    (hl : waypoints.getLast? = some last) {t t' : ℝ} (ht : last.time ≤ t) (ht' : last.time ≤ t') :
    interpolateWaypoint waypoints t = interpolateWaypoint waypoints t' := by
  rw [interpolate_after h hl ht, interpolate_after h hl ht']

lemma interpolate_early (hne : waypoints ≠ []) (hstart : ∀ w ∈ waypoints, 0 ≤ w.time) (ht : t ≤ 0) :
    interpolateWaypoint waypoints t = interpolateWaypoint waypoints 0 := by
  obtain ⟨first, _, hf, -⟩ := exists_first_last hne
  have hfirst := hstart first (List.mem_of_mem_head? hf)
  rw [interpolate_before hf (ht.trans hfirst), interpolate_before hf hfirst]

end

lemma passed_at_sample (hpass : (validateShow tree s defaultLimits none (1 / 10)).status = .passed)
    (hd : d ∈ s.drones) (he : e ∈ s.drones) (hne : d.1 ≠ e.1) (hduration : 0 ≤ s.duration)
    (hk : k ≤ ⌈s.duration / (1 / 10)⌉.toNat)
    (hw : interpolateWaypoint d.2 ((k : ℝ) * (1 / 10)) = some w)
    (hu : interpolateWaypoint e.2 ((k : ℝ) * (1 / 10)) = some u) :
    2 ^ 2 ≤ distSq (place w) (place u) := by
  obtain ⟨-, hclean⟩ := (validateShow_passed_iff tree).mp hpass
  have hpairs := closePairs_of_clean hclean.1 (mem_samples hduration hk)
  have hfar := apart_at_sample (by norm_num [defaultLimits]) hpairs hd he hne hw hu
  refine le_trans (le_of_eq ?_) hfar
  norm_num [defaultLimits]

lemma apart_between (hgrid : ∀ d ∈ s.drones, OnGrid d.2)
    (hpass : (validateShow tree s defaultLimits none (1 / 10)).status = .passed)
    (hd : d ∈ s.drones) (he : e ∈ s.drones) (hne : d.1 ≠ e.1) (hduration : 0 ≤ s.duration)
    (hk : k < ⌈s.duration / (1 / 10)⌉.toNat) {r : ℝ} (h0 : 0 ≤ r) (h1 : r ≤ 1)
    (hw : interpolateWaypoint d.2 ((k + r) * (1 / 10)) = some w)
    (hu : interpolateWaypoint e.2 ((k + r) * (1 / 10)) = some u) :
    2 ^ 2 - (6 / 10) ^ 2 ≤ distSq (place w) (place u) := by
  obtain ⟨-, hclean⟩ := (validateShow_passed_iff tree).mp hpass
  have hstep : (k : ℝ) * (1 / 10) < ((k + 1 : ℕ) : ℝ) * (1 / 10) := by
    push_cast
    linarith
  have htime : ((k : ℝ) + r) * (1 / 10) =
      (k : ℝ) * (1 / 10) + r * (((k + 1 : ℕ) : ℝ) * (1 / 10) - (k : ℝ) * (1 / 10)) := by
    push_cast
    ring
  have hnonempty : ∀ {waypoints : List (Waypoint ℝ)} {w : Waypoint ℝ} {t : ℝ},
      interpolateWaypoint waypoints t = some w → waypoints ≠ [] := by
    rintro waypoints w t h rfl
    cases h
  obtain ⟨p, p', ⟨wp, hp, rfl⟩, ⟨wp', hp', rfl⟩, hbetween⟩ :=
    flies_straight (hgrid d hd).increasing (hnonempty hw) hstep ((hgrid d hd).clear k)
  obtain ⟨q, q', ⟨wq, hq, rfl⟩, ⟨wq', hq', rfl⟩, hbetween'⟩ :=
    flies_straight (hgrid e he).increasing (hnonempty hu) hstep ((hgrid e he).clear k)
  obtain ⟨w', hw', hplace⟩ := hbetween r h0 h1
  obtain ⟨u', hu', hplace'⟩ := hbetween' r h0 h1
  rw [← htime, hw] at hw'
  rw [← htime, hu] at hu'
  cases hw'
  cases hu'
  obtain ⟨pre, post, hsplit⟩ := split_samples hduration hk
  have hnear : ∀ {d : Nat × List (Waypoint ℝ)} {w w' : Waypoint ℝ}, d ∈ s.drones →
      interpolateWaypoint d.2 ((k : ℝ) * (1 / 10)) = some w →
        interpolateWaypoint d.2 (((k + 1 : ℕ) : ℝ) * (1 / 10)) = some w' →
          distSq (place w') (place w) ≤ (6 / 10) ^ 2 := by
    intro d w w' hd hw hw'
    have hspeed := speed_of_clean hclean.2.1 hsplit (mem_statesAt hd hw) (mem_statesAt hd hw')
    have hfar := near_at_next (by norm_num) (by norm_num [defaultLimits]) hspeed
    refine hfar.trans (le_of_eq ?_)
    norm_num [defaultLimits]
  rw [hplace, hplace']
  exact apart_along (passed_at_sample hpass hd he hne hduration hk.le hp hq)
    (passed_at_sample hpass hd he hne hduration hk hp' hq') (hnear hd hp hp') (hnear he hq hq')
    h0 h1

/-- A show on the grid from its start that passes keeps any two drones apart at all times. -/
theorem passed_apart_at_all_times (hgrid : ∀ d ∈ s.drones, OnGrid d.2)
    (hstart : ∀ d ∈ s.drones, ∀ w ∈ d.2, 0 ≤ w.time)
    (hpass : (validateShow tree s defaultLimits none (1 / 10)).status = .passed)
    (hd : d ∈ s.drones) (he : e ∈ s.drones) (hne : d.1 ≠ e.1) {w u : Waypoint ℝ}
    (hw : interpolateWaypoint d.2 t = some w) (hu : interpolateWaypoint e.2 t = some u) :
    √(2 ^ 2 - (6 / 10) ^ 2) ≤ pointDist (place w) (place u) ∧
      (defaultLimits : SafetyLimits ℝ).minSeparationM < pointDist (place w) (place u) := by
  suffices hfar : 2 ^ 2 - (6 / 10) ^ 2 ≤ distSq (place w) (place u) by
    have hroot : √(2 ^ 2 - (6 / 10) ^ 2) ≤ pointDist (place w) (place u) :=
      Real.sqrt_le_sqrt hfar
    have hlimit : (defaultLimits : SafetyLimits ℝ).minSeparationM < √(2 ^ 2 - (6 / 10) ^ 2) := by
      rw [Real.lt_sqrt (by norm_num [defaultLimits])]
      norm_num [defaultLimits]
    exact ⟨hroot, hlimit.trans_le hroot⟩
  have hdne : d.2 ≠ [] := by
    intro hnil
    rw [hnil] at hw
    cases hw
  have hene : e.2 ≠ [] := by
    intro hnil
    rw [hnil] at hu
    cases hu
  obtain ⟨last, hl⟩ : ∃ w, d.2.getLast? = some w := ⟨_, List.getLast?_eq_some_getLast hdne⟩
  obtain ⟨last', hl'⟩ : ∃ w, e.2.getLast? = some w := ⟨_, List.getLast?_eq_some_getLast hene⟩
  have hend : last.time ≤ s.duration := Show.le_duration hd hl
  have hend' : last'.time ≤ s.duration := Show.le_duration he hl'
  have hduration : 0 ≤ s.duration := (hstart d hd last (List.mem_of_getLast? hl)).trans hend
  have hreach : s.duration ≤ (⌈s.duration / (1 / 10)⌉.toNat : ℝ) * (1 / 10) := by
    have hceil := Int.le_ceil (s.duration / (1 / 10))
    have hnat : (⌈s.duration / (1 / 10)⌉ : ℝ) ≤ (⌈s.duration / (1 / 10)⌉.toNat : ℝ) := by
      exact_mod_cast Int.self_le_toNat _
    have hle := hceil.trans hnat
    rwa [div_le_iff₀ (by norm_num)] at hle
  have hless : (2 : ℝ) ^ 2 - (6 / 10) ^ 2 ≤ 2 ^ 2 := by norm_num
  rcases le_or_gt t 0 with hearly | hlater
  · -- before the show both are where they are at its start
    rw [interpolate_early hdne (hstart d hd) hearly] at hw
    rw [interpolate_early hene (hstart e he) hearly] at hu
    have hzero : ((0 : ℕ) : ℝ) * (1 / 10) = 0 := by norm_num
    rw [← hzero] at hw hu
    exact hless.trans (passed_at_sample hpass hd he hne hduration (Nat.zero_le _) hw hu)
  · rcases le_or_gt ((⌈s.duration / (1 / 10)⌉.toNat : ℝ) * (1 / 10)) t with hlate | hwithin
    · -- after it both are where they are at its last sample
      have hlast := hend.trans hreach
      have hlast' := hend'.trans hreach
      rw [interpolate_late (hgrid d hd).increasing hl (hlast.trans hlate) hlast] at hw
      rw [interpolate_late (hgrid e he).increasing hl' (hlast'.trans hlate) hlast'] at hu
      exact hless.trans (passed_at_sample hpass hd he hne hduration le_rfl hw hu)
    · have hpos : 0 < ⌈s.duration / (1 / 10)⌉.toNat := by
        rw [Nat.pos_iff_ne_zero]
        intro hzero
        rw [hzero] at hwithin
        norm_num at hwithin
        exact absurd hlater (not_lt.mpr hwithin.le)
      obtain ⟨k, hk, r, h0, h1, rfl⟩ := exists_step hpos (by norm_num) hlater.le hwithin.le
      exact apart_between hgrid hpass hd he hne hduration hk h0 h1 hw hu

noncomputable def hover (time x : ℝ) : Waypoint ℝ where
  time
  x
  y := 0
  z := -5
  yaw := 0

/-- A drone that moves 10 cm in 0.1 s, and one that waits. -/
noncomputable def shuttle : Show ℝ where
  drones := [(0, [hover 0 0, hover (1 / 10) (1 / 10)]), (1, [hover 0 5])]
  unique := by decide

lemma shuttle_samples : sweepTimes shuttle.duration (1 / 10) = [0, 1 / 10] := by
  have hduration : shuttle.duration = 1 / 10 := by
    change max (1 / 10 : ℝ) 0 = 1 / 10
    norm_num
  rw [hduration]
  norm_num [sweepTimes, List.range_succ]

lemma shuttle_increasing : Increasing [hover 0 0, hover (1 / 10) (1 / 10)] := by
  simp [Increasing, hover]

lemma shuttle_states (t : ℝ)
    (h : interpolateWaypoint [hover 0 0, hover (1 / 10) (1 / 10)] t = some w) :
    statesAt shuttle t = [(0, w), (1, hover 0 5)] := by
  have hwait : interpolateWaypoint [hover 0 5] t = some (hover 0 5) := by
    rcases le_total t 0 with hle | hle
    · exact interpolate_before rfl hle
    · exact interpolate_after (List.pairwise_singleton _ _) rfl hle
  simp only [statesAt, shuttle, List.filterMap_cons, List.filterMap_nil, h, hwait, Option.map_some]

lemma shuttle_pairs {x : ℝ} (h : x ≤ 1) :
    closePairs bruteForce [(0, (x, 0, -5)), (1, (5, 0, -5))] 2 = [] := by
  rw [closePairs_eq_nil_iff lowerFirst_bruteForce]
  have hfar : (2 : ℝ) ≤ pointDist (x, 0, -5) (5, 0, -5) := by
    refine (Real.le_sqrt' (by norm_num)).mpr ?_
    simp only [distSq]
    nlinarith
  simpa using hfar

lemma shuttle_passes :
    (validateShow bruteForce shuttle defaultLimits none (1 / 10)).status = .passed := by
  have hstart : statesAt shuttle 0 = [(0, hover 0 0), (1, hover 0 5)] :=
    shuttle_states 0 (interpolate_before rfl le_rfl)
  have hend : statesAt shuttle (1 / 10) = [(0, hover (1 / 10) (1 / 10)), (1, hover 0 5)] :=
    shuttle_states _ (interpolate_after shuttle_increasing rfl le_rfl)
  have hpositions : ∀ t, positionsAt shuttle t =
      (statesAt shuttle t).map fun state => (state.1, place state.2) := by
    intro t
    rw [positionsAt, statesAt, List.map_filterMap]
    refine List.filterMap_congr fun d _ => ?_
    rw [Option.map_map]
    rfl
  have hstartPairs : closePairs bruteForce (positionsAt shuttle 0) 2 = [] := by
    rw [hpositions, hstart]
    exact shuttle_pairs (by norm_num [hover])
  have hendPairs : closePairs bruteForce (positionsAt shuttle (1 / 10)) 2 = [] := by
    rw [hpositions, hend]
    exact shuttle_pairs (by norm_num [hover])
  have hturn : yawDiff (0 : ℝ) 0 = 0 := by norm_num [yawDiff, fmod]
  have hmoving : magnitude (rate ((1 / 10, 0, -5) : Point ℝ) (0, 0, -5) (1 / 10)) = 1 := by
    norm_num [magnitude, rate, sqrt_real]
  have hgain : magnitude (rate (rate ((1 / 10, 0, -5) : Point ℝ) (0, 0, -5) (1 / 10)) (0, 0, 0)
      (1 / 10)) = 10 := by
    rw [magnitude, sqrt_real, Real.sqrt_eq_iff_mul_self_eq_of_pos (by norm_num)]
    norm_num [rate]
  have hwaiting : magnitude (rate ((5, 0, -5) : Point ℝ) (5, 0, -5) (1 / 10)) = 0 := by
    norm_num [magnitude, rate, sqrt_real]
  have hstill : magnitude (rate (rate ((5, 0, -5) : Point ℝ) (5, 0, -5) (1 / 10)) (0, 0, 0)
      (1 / 10)) = 0 := by
    norm_num [magnitude, rate, sqrt_real]
  rw [validateShow_passed_iff]
  refine ⟨List.cons_ne_nil _ _, ?_⟩
  have hthreshold : (none : Option ℝ).getD (defaultLimits : SafetyLimits ℝ).designSeparationM = 2 :=
    rfl
  rw [hthreshold]
  simp only [Clean, foundIn, sweepShow, shuttle_samples, List.foldl_cons, List.foldl_nil, sweepAt,
    hstart, hend, samplePairs, hstartPairs, hendPairs, List.map_nil, List.append_nil]
  refine ⟨rfl, ?_, ?_, ?_, ?_, ?_⟩
  · change [] ++ past _ 0 (magnitude (rate ((1 / 10, 0, -5) : Point ℝ) (0, 0, -5) (1 / 10))) 6 ++
      past _ 1 (magnitude (rate ((5, 0, -5) : Point ℝ) (5, 0, -5) (1 / 10))) 6 = []
    rw [hmoving, hwaiting, past, past, if_neg (by norm_num), if_neg (by norm_num)]
    rfl
  · change [] ++ past _ 0 (magnitude (rate (rate ((1 / 10, 0, -5) : Point ℝ) (0, 0, -5) (1 / 10))
      (0, 0, 0) (1 / 10))) 50 ++ past _ 1 (magnitude (rate (rate ((5, 0, -5) : Point ℝ) (5, 0, -5)
        (1 / 10)) (0, 0, 0) (1 / 10))) 50 = []
    rw [hgain, hstill, past, past, if_neg (by norm_num), if_neg (by norm_num)]
    rfl
  · change [] ++ past _ 0 (|yawDiff (0 : ℝ) 0| / (1 / 10)) 300 ++
      past _ 1 (|yawDiff (0 : ℝ) 0| / (1 / 10)) 300 = []
    rw [hturn, past, past, if_neg (by norm_num), if_neg (by norm_num)]
    rfl
  · norm_num [altitudeExtremes, shuttle, hover, defaultLimits]
  · norm_num [altitudeExtremes, shuttle, hover, defaultLimits]

lemma shuttle_onGrid : ∀ d ∈ shuttle.drones, OnGrid d.2 := by
  intro d hd
  rcases List.mem_pair.mp hd with rfl | rfl
  · refine ⟨shuttle_increasing, fun w hw => ?_⟩
    rcases List.mem_pair.mp hw with rfl | rfl
    · exact ⟨0, by norm_num [hover]⟩
    · exact ⟨1, by norm_num [hover]⟩
  · refine ⟨List.pairwise_singleton _ _, fun w hw => ?_⟩
    rw [List.mem_singleton.mp hw]
    exact ⟨0, by norm_num [hover]⟩

theorem shuttle_apart : ∃ w u, interpolateWaypoint [hover 0 0, hover (1 / 10) (1 / 10)] (1 / 20) =
    some w ∧ interpolateWaypoint [hover 0 5] (1 / 20) = some u ∧
      √(2 ^ 2 - (6 / 10) ^ 2) ≤ pointDist (place w) (place u) ∧
        (defaultLimits : SafetyLimits ℝ).minSeparationM < pointDist (place w) (place u) := by
  obtain ⟨w, hw⟩ := interpolateWaypoint_isSome shuttle_increasing.ordered
    (List.cons_ne_nil _ _) (1 / 20)
  have hu : interpolateWaypoint [hover 0 5] (1 / 20) = some (hover 0 5) :=
    interpolate_after (List.pairwise_singleton _ _) rfl (by norm_num [hover])
  have hstart : ∀ d ∈ shuttle.drones, ∀ w ∈ d.2, 0 ≤ w.time := by
    simp [shuttle, hover]
  have hfirst : ((0, [hover 0 0, hover (1 / 10) (1 / 10)]) : Nat × List (Waypoint ℝ)) ∈
      shuttle.drones := List.mem_cons_self ..
  have hsecond : ((1, [hover 0 5]) : Nat × List (Waypoint ℝ)) ∈ shuttle.drones :=
    List.mem_cons_of_mem _ (List.mem_cons_self ..)
  exact ⟨w, hover 0 5, hw, hu, passed_apart_at_all_times shuttle_onGrid hstart shuttle_passes hfirst
    hsecond Nat.zero_ne_one hw hu⟩

/-- A drone that crosses the place of another before the sweep begins. -/
noncomputable def early : Show ℝ where
  drones := [(0, [hover (-1) 0, hover 0 10]), (1, [hover 0 0])]
  unique := by decide

/-- Before the first sample a show that passes may bring two drones to one place. -/
theorem early_passes : (∀ d ∈ early.drones, OnGrid d.2) ∧
    (validateShow bruteForce early defaultLimits none (1 / 10)).status = .passed ∧
      ∃ d ∈ early.drones, ∃ e ∈ early.drones, d.1 ≠ e.1 ∧ ∃ w u,
        interpolateWaypoint d.2 (-1) = some w ∧ interpolateWaypoint e.2 (-1) = some u ∧
          pointDist (place w) (place u) < √(2 ^ 2 - (6 / 10) ^ 2) := by
  have hincreasing : Increasing [hover (-1) 0, hover 0 10] := by
    simp [Increasing, hover]
  refine ⟨?_, ?_, (0, [hover (-1) 0, hover 0 10]), List.mem_cons_self .., (1, [hover 0 0]),
    List.mem_cons_of_mem _ (List.mem_cons_self ..), Nat.zero_ne_one, hover (-1) 0, hover 0 0,
    interpolate_before rfl le_rfl, interpolate_before rfl (by norm_num [hover]), ?_⟩
  · intro d hd
    rcases List.mem_pair.mp hd with rfl | rfl
    · refine ⟨hincreasing, fun w hw => ?_⟩
      rcases List.mem_pair.mp hw with rfl | rfl
      · exact ⟨-10, by norm_num [hover]⟩
      · exact ⟨0, by norm_num [hover]⟩
    · refine ⟨List.pairwise_singleton _ _, fun w hw => ?_⟩
      rw [List.mem_singleton.mp hw]
      exact ⟨0, by norm_num [hover]⟩
  · have htimes : sweepTimes early.duration (1 / 10) = [0] := by
      have hduration : early.duration = 0 := by
        change max (0 : ℝ) 0 = 0
        exact max_self 0
      rw [hduration]
      exact if_pos le_rfl
    have hmoved : interpolateWaypoint [hover (-1) 0, hover 0 10] 0 = some (hover 0 10) :=
      interpolate_after hincreasing rfl le_rfl
    have hwait : interpolateWaypoint [hover 0 0] 0 = some (hover 0 0) :=
      interpolate_before rfl le_rfl
    have hstates : statesAt early 0 = [(0, hover 0 10), (1, hover 0 0)] := by
      simp only [statesAt, early, List.filterMap_cons, List.filterMap_nil, hmoved, hwait,
        Option.map_some]
    have hpairs : closePairs bruteForce (positionsAt early 0) 2 = [] := by
      have hpositions : positionsAt early 0 = [(0, (10, 0, -5)), (1, (0, 0, -5))] := by
        simp only [positionsAt, early, List.filterMap_cons, List.filterMap_nil, hmoved, hwait,
          Option.map_some]
        rfl
      rw [hpositions, closePairs_eq_nil_iff lowerFirst_bruteForce]
      have hfar : (2 : ℝ) ≤ pointDist (10, 0, -5) (0, 0, -5) :=
        (Real.le_sqrt' (by norm_num)).mpr (by norm_num [distSq])
      simpa using hfar
    have hthreshold :
        (none : Option ℝ).getD (defaultLimits : SafetyLimits ℝ).designSeparationM = 2 := rfl
    rw [validateShow_passed_iff, hthreshold]
    refine ⟨List.cons_ne_nil _ _, ?_⟩
    simp only [Clean, foundIn, sweepShow, htimes, List.foldl_cons, List.foldl_nil, sweepAt,
      hstates, samplePairs, hpairs, List.map_nil, List.append_nil]
    refine ⟨rfl, rfl, rfl, rfl, ?_, ?_⟩
    · norm_num [altitudeExtremes, early, hover, defaultLimits]
    · norm_num [altitudeExtremes, early, hover, defaultLimits]
  · have hsame : pointDist (place (hover (-1) 0)) (place (hover 0 0)) = 0 := by
      norm_num [pointDist, distSq, place, hover, sqrt_real]
    rw [hsame]
    exact Real.sqrt_pos.mpr (by norm_num)

end Report

end Taramandal.Core.BetweenSamples
