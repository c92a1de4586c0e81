import Taramandal.Core.Numbers
import Taramandal.Core.Text

/-! # Waypoint interpolation (`geometry.py`)

A waypoint past the schema check, the state of a drone between two waypoints,
and the instants a show is sampled at. `interpolateWaypoint_cases` is the one
statement about the interpolation that the other modules use: which of its four
ways a drone is placed, and between which two waypoints. -/
set_option linter.unusedSectionVars false

namespace Taramandal.Core.Geometry

open Lib.Bisect Core.Numbers Core.Values

/-- A waypoint dict: the coordinates, the optional light channels and
velocities, and the keys nothing here knows. -/
structure Waypoint (K : Type) where
  time : K
  x : K
  y : K
  z : K
  yaw : K
  r : Option ℤ := none
  g : Option ℤ := none
  b : Option ℤ := none
  w : Option ℤ := none
  vx : Option K := none
  vy : Option K := none
  vz : Option K := none
  extra : PyDict K := []

variable {K : Type} [Field K] [LinearOrder K]

/-- `bisect_left(waypoints, t, key=_waypoint_time)`. -/
def bisectLeft (waypoints : List (Waypoint K)) (t : K) : Nat :=
  bisect (fun i => (waypoints[i]?).all fun w => t ≤ w.time) waypoints.length 0 waypoints.length

/-- Progress through the segment from `w1` to `w2`. -/
def segmentRatio (w1 w2 : Waypoint K) (t : K) : K :=
  if 0 < w2.time - w1.time then (t - w1.time) / (w2.time - w1.time) else 0

section

variable [FloorRing K]

/-- The turn from one heading to another along the shorter arc. -/
def yawDiff (yaw1 yaw2 : K) : K :=
  let diff := fmod (yaw2 - yaw1) 360
  if 180 < diff then diff - 360 else diff

/-- The state of a drone at `t` inside the segment from `w1` to `w2`. -/
def segmentState (w1 w2 : Waypoint K) (t : K) : Waypoint K :=
  let span := w2.time - w1.time
  let ratio := segmentRatio w1 w2 t
  { time := t
    x := w1.x + ratio * (w2.x - w1.x)
    y := w1.y + ratio * (w2.y - w1.y)
    z := w1.z + ratio * (w2.z - w1.z)
    yaw := fmod (w1.yaw + ratio * yawDiff w1.yaw w2.yaw) 360
    vx := some (if 0 < span then (w2.x - w1.x) / span else 0)
    vy := some (if 0 < span then (w2.y - w1.y) / span else 0)
    vz := some (if 0 < span then (w2.z - w1.z) / span else 0) }

/-- The state of one drone at time `t`, `none` for an empty list. -/
def interpolateWaypoint (waypoints : List (Waypoint K)) (t : K) : Option (Waypoint K) :=
  match waypoints.head?, waypoints.getLast? with
  | some first, some last =>
    if t ≤ first.time then some first
    else if last.time ≤ t then some last
    else
      let i := bisectLeft waypoints t
      match waypoints[i - 1]?, waypoints[i]? with
      | some w1, some w2 => some (segmentState w1 w2 t)
      | _, _ => none
  | _, _ => none

/-- `sweep_times`: sample times covering `[0, duration]`. -/
def sweepTimes (duration dt : K) : List K :=
  if duration ≤ 0 then [0]
  else (List.range (⌈duration / dt⌉.toNat + 1)).map fun step : Nat => (step : K) * dt

end

def TimeOrdered (waypoints : List (Waypoint K)) : Prop :=
  waypoints.Pairwise fun a b => a.time ≤ b.time

variable {waypoints : List (Waypoint K)}

lemma TimeOrdered.le_of_le (h : TimeOrdered waypoints) {i j : Nat} {a b : Waypoint K}
    (ha : waypoints[i]? = some a) (hb : waypoints[j]? = some b) (hij : i ≤ j) :
    a.time ≤ b.time := by
  obtain ⟨hi, rfl⟩ := List.getElem?_eq_some_iff.mp ha
  obtain ⟨hj, rfl⟩ := List.getElem?_eq_some_iff.mp hb
  rcases hij.lt_or_eq with hlt | rfl
  · exact List.pairwise_iff_getElem.mp h i j hi hj hlt
  · exact le_refl _

/-- In time order, the search lands on the first waypoint at or after `t`. -/
lemma bisectLeft_split (h : TimeOrdered waypoints) {t : K} {i : Nat} {w : Waypoint K}
    (hw : waypoints[i]? = some w) : t ≤ w.time ↔ bisectLeft waypoints t ≤ i := by
  obtain ⟨hi, _⟩ := List.getElem?_eq_some_iff.mp hw
  have hsplit := bisect_split (p := fun i => (waypoints[i]?).all fun w => decide (t ≤ w.time))
    (Nat.zero_le waypoints.length)
    (show waypoints.length - 0 < 2 ^ waypoints.length by simpa using Nat.lt_two_pow_self)
    (by
      intro i j _ hij hj hp
      obtain ⟨b, hb⟩ : ∃ b, waypoints[j]? = some b := ⟨_, List.getElem?_eq_getElem hj⟩
      obtain ⟨a, ha⟩ : ∃ a, waypoints[i]? = some a :=
        ⟨_, List.getElem?_eq_getElem (Nat.lt_of_le_of_lt hij hj)⟩
      simp only [ha, hb, Option.all_some, decide_eq_true_eq] at hp ⊢
      exact hp.trans (h.le_of_le ha hb hij))
    i (Nat.zero_le i) hi
  simpa [hw, bisectLeft] using hsplit

/-- Which way a drone with time-ordered waypoints is placed at `t`: held at its
first waypoint, held at its last, or inside a segment that really spans `t`. -/
lemma interpolateWaypoint_cases [FloorRing K] (h : TimeOrdered waypoints)
    {first last : Waypoint K} (hf : waypoints.head? = some first)
    (hl : waypoints.getLast? = some last) (t : K) :
    t ≤ first.time ∧ interpolateWaypoint waypoints t = some first ∨
    first.time < t ∧ last.time ≤ t ∧ interpolateWaypoint waypoints t = some last ∨
    ∃ i w1 w2, waypoints[i]? = some w1 ∧ waypoints[i + 1]? = some w2 ∧
      w1.time < t ∧ t ≤ w2.time ∧ t < last.time ∧
      interpolateWaypoint waypoints t = some (segmentState w1 w2 t) := by
  by_cases h1 : t ≤ first.time
  · exact .inl ⟨h1, by simp [interpolateWaypoint, hf, hl, h1]⟩
  by_cases h2 : last.time ≤ t
  · exact .inr (.inl ⟨not_le.mp h1, h2, by simp [interpolateWaypoint, hf, hl, h1, h2]⟩)
  right; right
  have hf0 : waypoints[0]? = some first := by rw [← List.head?_eq_getElem?]; exact hf
  have hl0 : waypoints[waypoints.length - 1]? = some last := by
    rw [← List.getLast?_eq_getElem?]; exact hl
  have hpos : 0 < bisectLeft waypoints t := by
    by_contra hz
    exact h1 ((bisectLeft_split h hf0).mpr (by omega))
  have hle : bisectLeft waypoints t ≤ waypoints.length - 1 :=
    (bisectLeft_split h hl0).mp (not_le.mp h2).le
  have hlen : 0 < waypoints.length := by
    obtain ⟨hlt, _⟩ := List.getElem?_eq_some_iff.mp hf0
    exact hlt
  obtain ⟨i, hi⟩ : ∃ i, bisectLeft waypoints t = i + 1 := ⟨_, (Nat.succ_pred_eq_of_pos hpos).symm⟩
  obtain ⟨w1, hw1⟩ : ∃ w, waypoints[i]? = some w := ⟨_, List.getElem?_eq_getElem (by omega)⟩
  obtain ⟨w2, hw2⟩ : ∃ w, waypoints[i + 1]? = some w := ⟨_, List.getElem?_eq_getElem (by omega)⟩
  refine ⟨i, w1, w2, hw1, hw2, ?_, ?_, not_le.mp h2, ?_⟩
  · by_contra hge
    have := (bisectLeft_split h hw1).mp (not_lt.mp hge)
    omega
  · exact (bisectLeft_split h hw2).mpr (by omega)
  · simp [interpolateWaypoint, hf, hl, h1, h2, hi, hw1, hw2]

lemma exists_first_last (hne : waypoints ≠ []) :
    ∃ first last, waypoints.head? = some first ∧ waypoints.getLast? = some last :=
  ⟨_, _, List.head?_eq_some_head hne, List.getLast?_eq_some_getLast hne⟩

lemma interpolateWaypoint_isSome [FloorRing K] (h : TimeOrdered waypoints)
    (hne : waypoints ≠ []) (t : K) : ∃ w, interpolateWaypoint waypoints t = some w := by
  obtain ⟨first, last, hf, hl⟩ := exists_first_last hne
  rcases interpolateWaypoint_cases h hf hl t with
    ⟨_, he⟩ | ⟨_, _, he⟩ | ⟨i, w1, w2, _, _, _, _, _, he⟩ <;> exact ⟨_, he⟩

section

variable [IsStrictOrderedRing K]

lemma segmentRatio_mem {w1 w2 : Waypoint K} {t : K} (h1 : w1.time ≤ t) (h2 : t ≤ w2.time) :
    0 ≤ segmentRatio w1 w2 t ∧ segmentRatio w1 w2 t ≤ 1 := by
  unfold segmentRatio
  split
  next hspan =>
    exact ⟨div_nonneg (sub_nonneg.mpr h1) hspan.le, (div_le_one hspan).mpr (by linarith)⟩
  next => exact ⟨le_refl _, zero_le_one⟩

/-- The samples are all the multiples of `dt` up to the first that reaches the
end of the show. -/
lemma mem_sweepTimes [FloorRing K] {duration dt : K} (hd : 0 < dt)
    {k : Nat} (hk : (k : K) * dt < duration + dt) : (k : K) * dt ∈ sweepTimes duration dt := by
  unfold sweepTimes
  split
  next hle =>
    have hk0 : k = 0 := by
      have h1 : (k : K) * dt < 1 * dt := by linarith
      have h2 : (k : K) < 1 := lt_of_mul_lt_mul_right h1 hd.le
      exact_mod_cast Nat.lt_one_iff.mp (by exact_mod_cast h2)
    simp [hk0]
  next hpos =>
    refine List.mem_map.mpr ⟨k, List.mem_range.mpr ?_, rfl⟩
    have h1 : ((k : ℤ) - 1 : K) < duration / dt := by
      rw [lt_div_iff₀ hd, sub_mul]
      push_cast
      linarith
    have h2 : ((k : ℤ) - 1 : ℤ) < ⌈duration / dt⌉ := Int.lt_ceil.mpr (by exact_mod_cast h1)
    omega

end

/-! ## What a drone flies

A drone holds its first and its last waypoint and moves along every segment that
takes time. A waypoint between others at its own instant is never flown. -/

/-- The ends of everything that is flown lie in the region `Q`. -/
structure FlownInside (Q : K → K → Prop) (waypoints : List (Waypoint K)) : Prop where
  first : ∀ w ∈ waypoints.head?, Q w.x w.y
  last : ∀ w ∈ waypoints.getLast?, Q w.x w.y
  segments : waypoints.IsChain fun w1 w2 => w1.time < w2.time → Q w1.x w1.y ∧ Q w2.x w2.y

/-- In a region that is convex along segments, a drone whose flown ends are
inside is inside at every instant. -/
lemma FlownInside.at_all_times [IsStrictOrderedRing K] [FloorRing K] {Q : K → K → Prop}
    (hQ : ∀ x1 y1 x2 y2 r : K, 0 ≤ r → r ≤ 1 → Q x1 y1 → Q x2 y2 →
      Q (x1 + r * (x2 - x1)) (y1 + r * (y2 - y1)))
    (hord : TimeOrdered waypoints) (h : FlownInside Q waypoints) {t : K} {w : Waypoint K}
    (hw : interpolateWaypoint waypoints t = some w) : Q w.x w.y := by
  have hne : waypoints ≠ [] := by rintro rfl; cases hw
  obtain ⟨first, last, hf, hl⟩ := exists_first_last hne
  rcases interpolateWaypoint_cases hord hf hl t with
    ⟨_, he⟩ | ⟨_, _, he⟩ | ⟨i, w1, w2, h1, h2, hlt, hle, _, he⟩
  · cases he.symm.trans hw; exact h.first _ hf
  · cases he.symm.trans hw; exact h.last _ hl
  · cases he.symm.trans hw
    obtain ⟨hi, rfl⟩ := List.getElem?_eq_some_iff.mp h1
    obtain ⟨hj, rfl⟩ := List.getElem?_eq_some_iff.mp h2
    obtain ⟨q1, q2⟩ := List.isChain_iff_getElem.mp h.segments i hj (hlt.trans_le hle)
    obtain ⟨r0, r1⟩ := segmentRatio_mem hlt.le hle
    exact hQ _ _ _ _ _ r0 r1 q1 q2

/-- Past the start of a segment and not past its end, the drone is on it, unless the
show is over. -/
lemma interpolateWaypoint_within [FloorRing K] (hord : TimeOrdered waypoints) {i : Nat}
    {w1 w2 last : Waypoint K} (h1 : waypoints[i]? = some w1) (h2 : waypoints[i + 1]? = some w2)
    (hl : waypoints.getLast? = some last) {t : K} (hlt : w1.time < t) (hle : t ≤ w2.time)
    (hend : t < last.time) :
    interpolateWaypoint waypoints t = some (segmentState w1 w2 t) := by
  have hne : waypoints ≠ [] := by rintro rfl; cases h1
  obtain ⟨first, _, hf, -⟩ := exists_first_last hne
  have hfirst : first.time ≤ w1.time :=
    hord.le_of_le (List.head?_eq_getElem? ▸ hf) h1 (Nat.zero_le i)
  rcases interpolateWaypoint_cases hord hf hl t with
    ⟨hge, _⟩ | ⟨_, hge, _⟩ | ⟨j, v1, v2, hv1, hv2, hjlt, hjle, _, he⟩
  · exact absurd (hfirst.trans_lt hlt) (not_lt.mpr hge)
  · exact absurd hend (not_lt.mpr hge)
  · have hij : i = j := by
      rcases Nat.lt_trichotomy i j with h | h | h
      · exact absurd (hle.trans (hord.le_of_le h2 hv1 h)) (not_le.mpr hjlt)
      · exact h
      · exact absurd (hlt.trans_le (hjle.trans (hord.le_of_le hv2 h1 h))) (lt_irrefl _)
    subst hij
    cases h1.symm.trans hv1
    cases h2.symm.trans hv2
    exact he

lemma interpolateWaypoint_inner [FloorRing K] (hord : TimeOrdered waypoints) {i : Nat}
    {w1 w2 : Waypoint K} (h1 : waypoints[i]? = some w1) (h2 : waypoints[i + 1]? = some w2) {t : K}
    (hlt : w1.time < t) (hgt : t < w2.time) :
    interpolateWaypoint waypoints t = some (segmentState w1 w2 t) := by
  have hne : waypoints ≠ [] := by rintro rfl; cases h1
  obtain ⟨_, last, -, hl⟩ := exists_first_last hne
  obtain ⟨hj, _⟩ := List.getElem?_eq_some_iff.mp h2
  have hlast : w2.time ≤ last.time :=
    hord.le_of_le h2 (List.getLast?_eq_getElem? ▸ hl) (by omega)
  exact interpolateWaypoint_within hord h1 h2 hl hlt hgt.le (hgt.trans_le hlast)

end Taramandal.Core.Geometry
