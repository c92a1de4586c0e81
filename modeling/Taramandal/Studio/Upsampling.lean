import Taramandal.Core.ReportOrder
import Taramandal.Lib.Pairs

/-! # Upsampling a show (`upsample_choreo`)

Every interval between two waypoints is split into the same number of pieces, so many that the
longest interval of all is fine enough. The waypoints of a drone are sorted before they are
split; what is added lies between its neighbours. -/
set_option linter.unusedSectionVars false

namespace Taramandal.Studio.Upsampling

open Lib.Pairs Core.Geometry Core.Numbers Core.Values

structure ChoreoDrone (K : Type) where
  waypoints : List (Waypoint K)
  /-- The other keys. -/
  extra : PyDict K := []

structure Choreo (K : Type) where
  drones : List (ChoreoDrone K)
  /-- The other keys. -/
  extra : PyDict K := []

variable {K : Type} [Field K] [LinearOrder K]

/-- `sorted(waypoints, key=lambda w: w["time"])`. -/
def byTime (waypoints : List (Waypoint K)) : List (Waypoint K) :=
  waypoints.insertionSort fun a b => a.time ≤ b.time

def intervals (drone : ChoreoDrone K) : List K :=
  (steps ((drone.waypoints.map Waypoint.time).insertionSort (· ≤ ·))).map fun ab => ab.2 - ab.1

def longest (choreo : Choreo K) : K := (choreo.drones.flatMap intervals).foldl max 0

section

variable [FloorRing K]

def upsampleFactor (choreo : Choreo K) (rateHz : K) : ℕ :=
  if rateHz ≤ 0 then 1 else max 1 ⌈longest choreo * rateHz - 1 / 10 ^ 9⌉.toNat

/-- The `k`-th of the frames that an interval is split at. -/
def frame (factor : ℕ) (w1 w2 : Waypoint K) (k : ℕ) : Waypoint K :=
  let t := w1.time + (w2.time - w1.time) * k / factor
  let mid := (interpolateWaypoint [w1, w2] t).getD w1
  { w1 with time := t, x := mid.x, y := mid.y, z := mid.z, yaw := mid.yaw }

def piece (factor : ℕ) (w : Waypoint K × Waypoint K) : List (Waypoint K) :=
  w.1 :: (List.range (factor - 1)).map fun k => frame factor w.1 w.2 (k + 1)

def dense (factor : ℕ) (wps : List (Waypoint K)) : List (Waypoint K) :=
  (steps wps).flatMap (piece factor) ++ wps.getLast?.toList

def upsampleChoreo (choreo : Choreo K) (factor : ℕ) : Choreo K :=
  if factor ≤ 1 then choreo
  else { choreo with drones := choreo.drones.map fun drone =>
    { drone with waypoints := dense factor (byTime drone.waypoints) } }

end

lemma timeOrdered_byTime (waypoints : List (Waypoint K)) : TimeOrdered (byTime waypoints) :=
  List.pairwise_insertionSort _ _

lemma mem_byTime {waypoints : List (Waypoint K)} {w : Waypoint K} :
    w ∈ byTime waypoints ↔ w ∈ waypoints := List.mem_insertionSort _

lemma map_time_byTime (waypoints : List (Waypoint K)) : (byTime waypoints).map Waypoint.time =
      (waypoints.map Waypoint.time).insertionSort (· ≤ ·) :=
  List.map_insertionSort _ _ _ _ fun _ _ _ _ => Iff.rfl

lemma sub_le_longest {choreo : Choreo K} {drone : ChoreoDrone K} (hdrone : drone ∈ choreo.drones)
    {ab : K × K} (hab : ab ∈ steps ((byTime drone.waypoints).map Waypoint.time)) :
    ab.2 - ab.1 ≤ longest choreo := by
  rw [map_time_byTime] at hab
  obtain ⟨-, hall, -⟩ := Core.Shows.le_foldl_max (choreo.drones.flatMap intervals) 0
  exact hall _ (List.mem_flatMap.mpr ⟨drone, hdrone, List.mem_map_of_mem hab⟩)

/-- An instant within a drone's own is not before its first in time, nor behind its last. -/
lemma exists_ends {waypoints : List (Waypoint K)} {a : K} (hbefore : ∃ w ∈ waypoints, w.time ≤ a)
    (hafter : ∃ w ∈ waypoints, a ≤ w.time) : ∃ first last,
      (byTime waypoints).head? = some first ∧ (byTime waypoints).getLast? = some last ∧
      first.time ≤ a ∧ a ≤ last.time := by
  obtain ⟨w, hw, hwa⟩ := hbefore
  obtain ⟨w', hw', haw⟩ := hafter
  obtain ⟨j, hj⟩ := List.mem_iff_getElem?.mp (mem_byTime.mpr hw)
  obtain ⟨k, hk⟩ := List.mem_iff_getElem?.mp (mem_byTime.mpr hw')
  have hklen := (List.getElem?_eq_some_iff.mp hk).1
  have hpos : 0 < (byTime waypoints).length := Nat.lt_of_le_of_lt (Nat.zero_le k) hklen
  have hordered := timeOrdered_byTime waypoints
  obtain ⟨first, hfirst⟩ : ∃ w, (byTime waypoints)[0]? = some w :=
    ⟨_, List.getElem?_eq_getElem hpos⟩
  obtain ⟨last, hlast⟩ : ∃ w, (byTime waypoints)[(byTime waypoints).length - 1]? = some w :=
    ⟨_, List.getElem?_eq_getElem (Nat.sub_lt hpos Nat.one_pos)⟩
  refine ⟨first, last, by rw [List.head?_eq_getElem?, hfirst],
    by rw [List.getLast?_eq_getElem?, hlast], ?_, ?_⟩
  · exact (hordered.le_of_le hfirst hj (Nat.zero_le j)).trans hwa
  · exact haw.trans (hordered.le_of_le hk hlast (Nat.le_sub_one_of_lt hklen))

section

variable [FloorRing K] {factor : ℕ}

lemma dense_cons (factor : ℕ) (w w' : Waypoint K) (wps : List (Waypoint K)) :
    dense factor (w :: w' :: wps) = piece factor (w, w') ++ dense factor (w' :: wps) := by
  unfold dense
  rw [steps_cons rfl, List.flatMap_cons, List.getLast?_cons_cons, List.append_assoc]

lemma head?_dense (factor : ℕ) (wps : List (Waypoint K)) :
    (dense factor wps).head? = wps.head? := by
  cases wps with
  | nil => rfl
  | cons w wps =>
    cases wps with
    | nil => rfl
    | cons w' wps =>
      rw [dense_cons]
      rfl

/-- The instants of a piece: its first waypoint's, and equal steps to the next one's. -/
lemma map_time_piece (hfactor : 1 ≤ factor) (w w' : Waypoint K) :
    (piece factor (w, w')).map Waypoint.time =
      (List.range factor).map fun k : ℕ => w.time + (w'.time - w.time) * k / factor := by
  obtain ⟨n, rfl⟩ := Nat.exists_eq_add_of_le' hfactor
  rw [List.range_succ_eq_map, List.map_cons, List.map_map, Nat.cast_zero, mul_zero, zero_div,
    add_zero]
  unfold piece
  rw [List.map_cons, List.map_map]
  rfl

lemma steps_time_dense [IsStrictOrderedRing K] (hfactor : 1 ≤ factor)
    {wps : List (Waypoint K)} {ab : K × K} (hab : ab ∈ steps ((dense factor wps).map Waypoint.time)) :
    ∃ cd ∈ steps (wps.map Waypoint.time), ab.2 - ab.1 = (cd.2 - cd.1) / factor := by
  have hne : (factor : K) ≠ 0 := Nat.cast_ne_zero.mpr (Nat.one_le_iff_ne_zero.mp hfactor)
  induction wps with
  | nil => cases hab
  | cons w wps ih =>
    cases wps with
    | nil => cases hab
    | cons w' wps =>
      have hsteps : steps ((w :: w' :: wps).map Waypoint.time) =
          (w.time, w'.time) :: steps ((w' :: wps).map Waypoint.time) := steps_cons rfl
      have hhead : ((dense factor (w' :: wps)).map Waypoint.time).head? =
          some (w.time + (w'.time - w.time) * factor / factor) := by
        rw [List.head?_map, head?_dense, mul_div_cancel_right₀ _ hne, add_sub_cancel]
        rfl
      rw [dense_cons, List.map_append, map_time_piece hfactor,
        steps_run (fun k : ℕ => w.time + (w'.time - w.time) * k / factor) factor hhead,
        List.mem_append] at hab
      rw [hsteps]
      rcases hab with hpiece | hrest
      · obtain ⟨k, -, rfl⟩ := List.mem_map.mp hpiece
        refine ⟨_, List.mem_cons_self, ?_⟩
        dsimp only
        push_cast
        ring
      · obtain ⟨cd, hcd, heq⟩ := ih hrest
        exact ⟨cd, List.mem_cons_of_mem _ hcd, heq⟩

lemma getLast?_dense (factor : ℕ) (wps : List (Waypoint K)) :
    (dense factor wps).getLast? = wps.getLast? := by
  unfold dense
  cases hlast : wps.getLast? with
  | none =>
    obtain rfl := List.getLast?_eq_none_iff.mp hlast
    rfl
  | some w => exact List.getLast?_concat

lemma dense_one (wps : List (Waypoint K)) : dense 1 wps = wps := by
  induction wps with
  | nil => rfl
  | cons w wps ih =>
    cases wps with
    | nil => rfl
    | cons w' wps =>
      rw [dense_cons, ih]
      rfl

lemma mem_of_mem_dense {choreo : Choreo K} {i : ℕ} {drone result : ChoreoDrone K}
    (hfactor : 1 ≤ factor) (hdrone : choreo.drones[i]? = some drone)
    (hresult : (upsampleChoreo choreo factor).drones[i]? = some result) {w : Waypoint K}
    (hw : w ∈ dense factor (byTime drone.waypoints)) : w ∈ result.waypoints := by
  unfold upsampleChoreo at hresult
  split_ifs at hresult with hone
  · obtain rfl : factor = 1 := Nat.le_antisymm hone hfactor
    obtain rfl := Option.some.inj (hdrone.symm.trans hresult)
    rw [dense_one] at hw
    exact mem_byTime.mp hw
  · rw [List.getElem?_map, hdrone] at hresult
    obtain rfl := Option.some.inj hresult
    exact hw

end

section

variable [IsStrictOrderedRing K]

/-- Instants that are no farther apart than the gap leave no room of its length between them. -/
lemma exists_mem_of_gap {times : List K} {gap a b first last : K}
    (hgap : ∀ ab ∈ steps times, ab.2 - ab.1 ≤ gap) (hfirst : times.head? = some first)
    (hlast : times.getLast? = some last) (ha : first ≤ a) (hlen : a + gap ≤ b) (hab : a < b)
    (hend : a ≤ last) : ∃ t ∈ times, t ∈ Set.Ico a b := by
  induction times generalizing first with
  | nil => cases hfirst
  | cons t times ih =>
    obtain rfl := Option.some.inj hfirst
    rcases ha.eq_or_lt with rfl | hlt
    · exact ⟨t, List.mem_cons_self, le_rfl, hab⟩
    cases times with
    | nil =>
      obtain rfl := Option.some.inj hlast
      exact absurd hlt hend.not_gt
    | cons t' times =>
      have hstep : t' - t ≤ gap := hgap (t, t') List.mem_cons_self
      rcases le_or_gt a t' with hin | hbefore
      · exact ⟨t', List.mem_cons_of_mem _ List.mem_cons_self, hin, by linarith⟩
      · obtain ⟨u, hu, hmem⟩ := ih (fun ab h => hgap ab (List.mem_cons_of_mem _ h)) rfl
          (by rwa [List.getLast?_cons_cons] at hlast) hbefore.le
        exact ⟨u, List.mem_cons_of_mem _ hu, hmem⟩

variable [FloorRing K] {choreo : Choreo K} {factor i : ℕ} {drone result : ChoreoDrone K}

/-- Within a drone's waypoints, no stretch as long as the longest piece is without one. -/
lemma exists_waypoint (hfactor : 1 ≤ factor) (hdrone : choreo.drones[i]? = some drone)
    (hresult : (upsampleChoreo choreo factor).drones[i]? = some result) {a b : K} (hab : a < b)
    (hbefore : ∃ w ∈ drone.waypoints, w.time ≤ a) (hafter : ∃ w ∈ drone.waypoints, a ≤ w.time)
    (hlen : a + longest choreo / factor ≤ b) :
    ∃ w ∈ dense factor (byTime drone.waypoints), w ∈ result.waypoints ∧ w.time ∈ Set.Ico a b := by
  obtain ⟨first, last, hfirst, hlast, hle, hge⟩ := exists_ends hbefore hafter
  have hpos : (0 : K) < factor := Nat.cast_pos.mpr hfactor
  have hgap : ∀ ab ∈ steps ((dense factor (byTime drone.waypoints)).map Waypoint.time),
      ab.2 - ab.1 ≤ longest choreo / factor := by
    intro ab hmem
    obtain ⟨cd, hcd, heq⟩ := steps_time_dense hfactor hmem
    rw [heq]
    exact div_le_div_of_nonneg_right (sub_le_longest (List.mem_of_getElem? hdrone) hcd) hpos.le
  have hhead : ((dense factor (byTime drone.waypoints)).map Waypoint.time).head? =
      some first.time := by
    rw [List.head?_map, head?_dense, hfirst]
    rfl
  have hend : ((dense factor (byTime drone.waypoints)).map Waypoint.time).getLast? =
      some last.time := by
    rw [List.getLast?_map, getLast?_dense, hlast]
    rfl
  obtain ⟨t, ht, hmem⟩ := exists_mem_of_gap hgap hhead hend hle hlen hab hge
  obtain ⟨w, hw, rfl⟩ := List.mem_map.mp ht
  exact ⟨w, hw, mem_of_mem_dense hfactor hdrone hresult hw, hmem⟩

lemma one_le_upsampleFactor (choreo : Choreo K) (rate : K) : 1 ≤ upsampleFactor choreo rate := by
  unfold upsampleFactor
  split_ifs
  · exact le_rfl
  · exact le_max_left _ _

/-- The factor makes the longest piece as short as the rate asks for, but for an epsilon. -/
lemma longest_div_le (choreo : Choreo K) {rate : K} (hrate : 0 < rate) :
    longest choreo / upsampleFactor choreo rate * rate ≤ 1 + 1 / 10 ^ 9 := by
  have hone : (1 : K) ≤ upsampleFactor choreo rate := by
    exact_mod_cast one_le_upsampleFactor choreo rate
  have hceil : longest choreo * rate - 1 / 10 ^ 9 ≤ upsampleFactor choreo rate := by
    unfold upsampleFactor
    rw [if_neg hrate.not_ge]
    refine (Int.le_ceil _).trans ?_
    have hle : ⌈longest choreo * rate - 1 / 10 ^ 9⌉ ≤
        ((max 1 ⌈longest choreo * rate - 1 / 10 ^ 9⌉.toNat : ℕ) : ℤ) := by omega
    exact_mod_cast hle
  rw [div_mul_eq_mul_div, div_le_iff₀ (by linarith)]
  have heps := mul_le_mul_of_nonneg_left hone (by norm_num : (0 : K) ≤ 1 / 10 ^ 9)
  linarith

end

section Flight

variable [IsStrictOrderedRing K] [FloorRing K] {w1 w2 v v' : Waypoint K} {s s' t : K} {factor : ℕ}

/-- The turn leads from one heading to the other, up to full turns, by half a turn at most. -/
lemma yawDiff_spec (yaw1 yaw2 : K) : ∃ turns : ℤ, yawDiff yaw1 yaw2 = yaw2 - yaw1 + 360 * turns ∧
    -180 < yawDiff yaw1 yaw2 ∧ yawDiff yaw1 yaw2 ≤ 180 := by
  have h0 : 0 ≤ fmod (yaw2 - yaw1) 360 := fmod_nonneg (by norm_num)
  have h360 : fmod (yaw2 - yaw1) 360 < 360 := fmod_lt (by norm_num)
  have hdef : fmod (yaw2 - yaw1) 360 = yaw2 - yaw1 - 360 * ⌊(yaw2 - yaw1) / 360⌋ := rfl
  unfold yawDiff
  dsimp only
  split_ifs with hlong
  · refine ⟨-⌊(yaw2 - yaw1) / 360⌋ - 1, ?_, by linarith, by linarith⟩
    rw [hdef]
    push_cast
    ring
  · refine ⟨-⌊(yaw2 - yaw1) / 360⌋, ?_, by linarith, not_lt.mp hlong⟩
    rw [hdef]
    push_cast
    ring

lemma yawDiff_eq {yaw1 yaw2 d : K} (turns : ℤ) (h : yaw2 - yaw1 = d + 360 * turns)
    (hlow : -180 < d) (hhigh : d ≤ 180) : yawDiff yaw1 yaw2 = d := by
  unfold yawDiff
  dsimp only
  rcases le_or_gt 0 d with hd | hd
  · rw [fmod_eq hd (by linarith) turns h, if_neg hhigh.not_gt]
  · have hmod : fmod (yaw2 - yaw1) 360 = d + 360 := by
      refine fmod_eq (by linarith) (by linarith) (turns - 1) ?_
      rw [h]
      push_cast
      ring
    rw [hmod, if_pos (by linarith), add_sub_cancel_right]

/-- The same place and the same heading, whatever the number of turns. -/
structure SamePose (a b : Waypoint K) : Prop where
  x : a.x = b.x
  y : a.y = b.y
  z : a.z = b.z
  yaw : ∃ turns : ℤ, a.yaw = b.yaw + 360 * turns

lemma SamePose.refl (a : Waypoint K) : SamePose a a := ⟨rfl, rfl, rfl, 0, by simp⟩

/-- `v` is where a drone is at the fraction `s` of its way from `w1` to `w2`. -/
structure OnWay (w1 w2 : Waypoint K) (s : K) (v : Waypoint K) : Prop where
  time : v.time = w1.time + s * (w2.time - w1.time)
  x : v.x = w1.x + s * (w2.x - w1.x)
  y : v.y = w1.y + s * (w2.y - w1.y)
  z : v.z = w1.z + s * (w2.z - w1.z)
  yaw : ∃ turns : ℤ, v.yaw = w1.yaw + s * yawDiff w1.yaw w2.yaw + 360 * turns

lemma onWay_zero (w1 w2 : Waypoint K) : OnWay w1 w2 0 w1 :=
  ⟨by ring, by ring, by ring, by ring, 0, by rw [Int.cast_zero]; ring⟩

lemma onWay_one (w1 w2 : Waypoint K) : OnWay w1 w2 1 w2 := by
  obtain ⟨turns, hturn, -⟩ := yawDiff_spec w1.yaw w2.yaw
  refine ⟨by ring, by ring, by ring, by ring, -turns, ?_⟩
  rw [hturn]
  push_cast
  ring

lemma onWay_frame (hspan : w1.time < w2.time) {k : ℕ} (hk : 0 < k) (hlt : k < factor) :
    OnWay w1 w2 (k / factor) (frame factor w1 w2 k) := by
  have hf : (0 : K) < factor := Nat.cast_pos.mpr (hk.trans hlt)
  have hpos : (0 : K) < k / factor := div_pos (Nat.cast_pos.mpr hk) hf
  have hone : (k : K) / factor < 1 := (div_lt_one hf).mpr (Nat.cast_lt.mpr hlt)
  have hd : 0 < w2.time - w1.time := sub_pos.mpr hspan
  have htime : w1.time + (w2.time - w1.time) * k / factor =
      w1.time + k / factor * (w2.time - w1.time) := by ring
  have hin := interpolateWaypoint_inner (t := w1.time + k / factor * (w2.time - w1.time))
    (show TimeOrdered [w1, w2] from List.pairwise_pair.mpr hspan.le) (i := 0) rfl rfl
    (lt_add_of_pos_right _ (mul_pos hpos hd)) (by nlinarith)
  have hratio : segmentRatio w1 w2 (w1.time + k / factor * (w2.time - w1.time)) = k / factor := by
    rw [segmentRatio, if_pos hd, add_sub_cancel_left, mul_div_cancel_right₀ _ hd.ne']
  have hframe : frame factor w1 w2 k = { w1 with
      time := w1.time + k / factor * (w2.time - w1.time)
      x := w1.x + k / factor * (w2.x - w1.x)
      y := w1.y + k / factor * (w2.y - w1.y)
      z := w1.z + k / factor * (w2.z - w1.z)
      yaw := fmod (w1.yaw + k / factor * yawDiff w1.yaw w2.yaw) 360 } := by
    unfold frame
    dsimp only
    rw [htime, hin, Option.getD_some]
    unfold segmentState
    rw [hratio]
  rw [hframe]
  refine ⟨rfl, rfl, rfl, rfl, -⌊(w1.yaw + k / factor * yawDiff w1.yaw w2.yaw) / 360⌋, ?_⟩
  rw [fmod]
  push_cast
  ring

/-- Between two points of the way a drone is where it would be without them: the turn between
them is a part of the whole turn, so it is no other way round. -/
lemma samePose_segmentState (hspan : w1.time < w2.time) (hv : OnWay w1 w2 s v)
    (hv' : OnWay w1 w2 s' v') (hlt : s < s') (hone : s' - s ≤ 1) (t : K) :
    SamePose (segmentState v v' t) (segmentState w1 w2 t) := by
  have hd : 0 < w2.time - w1.time := sub_pos.mpr hspan
  have hs : 0 < s' - s := sub_pos.mpr hlt
  have hgap : v'.time - v.time = (s' - s) * (w2.time - w1.time) := by
    rw [hv.time, hv'.time]
    ring
  have hratio : s + segmentRatio v v' t * (s' - s) = segmentRatio w1 w2 t := by
    rw [segmentRatio, segmentRatio, hgap, if_pos (mul_pos hs hd), if_pos hd, hv.time]
    field_simp
    ring
  have hline : ∀ a b : K, a + s * (b - a) + segmentRatio v v' t *
      (a + s' * (b - a) - (a + s * (b - a))) = a + segmentRatio w1 w2 t * (b - a) := fun a b => by
    rw [← hratio]
    ring
  obtain ⟨-, -, hlow, hhigh⟩ := yawDiff_spec w1.yaw w2.yaw
  obtain ⟨m, hm⟩ := hv.yaw
  obtain ⟨n, hn⟩ := hv'.yaw
  have hturn : yawDiff v.yaw v'.yaw = (s' - s) * yawDiff w1.yaw w2.yaw := by
    refine yawDiff_eq (n - m) ?_ (by nlinarith) (by nlinarith)
    rw [hm, hn]
    push_cast
    ring
  refine ⟨?_, ?_, ?_, ?_⟩
  · exact (congrArg₂ (fun a b => a + segmentRatio v v' t * (b - a)) hv.x hv'.x).trans (hline _ _)
  · exact (congrArg₂ (fun a b => a + segmentRatio v v' t * (b - a)) hv.y hv'.y).trans (hline _ _)
  · exact (congrArg₂ (fun a b => a + segmentRatio v v' t * (b - a)) hv.z hv'.z).trans (hline _ _)
  · have hhead : v.yaw + segmentRatio v v' t * yawDiff v.yaw v'.yaw =
        w1.yaw + segmentRatio w1 w2 t * yawDiff w1.yaw w2.yaw + 360 * m := by
      rw [hturn, hm, ← hratio]
      ring
    refine ⟨0, ?_⟩
    rw [Int.cast_zero, mul_zero, add_zero]
    change fmod (v.yaw + segmentRatio v v' t * yawDiff v.yaw v'.yaw) 360 = fmod _ 360
    refine fmod_eq (fmod_nonneg (by norm_num)) (fmod_lt (by norm_num))
      (⌊(w1.yaw + segmentRatio w1 w2 t * yawDiff w1.yaw w2.yaw) / 360⌋ + m) ?_
    rw [hhead, fmod]
    push_cast
    ring

lemma length_piece (hfactor : 1 ≤ factor) (w : Waypoint K × Waypoint K) :
    (piece factor w).length = factor := by
  rw [piece, List.length_cons, List.length_map, List.length_range, Nat.sub_add_cancel hfactor]

lemma length_dense (hfactor : 1 ≤ factor) (w : Waypoint K) (wps : List (Waypoint K)) :
    (dense factor (w :: wps)).length = factor * wps.length + 1 := by
  induction wps generalizing w with
  | nil => rfl
  | cons w' wps ih =>
    rw [dense_cons, List.length_append, length_piece hfactor, ih, List.length_cons]
    ring

variable {wps : List (Waypoint K)}

section

variable (hfactor : 1 ≤ factor)
include hfactor

/-- What begins at a waypoint is the rest of the drone's, split. -/
lemma drop_dense {i : ℕ} (hi : i < wps.length) :
    (dense factor wps).drop (factor * i) = dense factor (wps.drop i) := by
  induction i generalizing wps with
  | zero => rfl
  | succ i ih =>
    match wps with
    | [_] => exact absurd (Nat.lt_of_succ_lt_succ hi) (Nat.not_lt_zero i)
    | w :: w' :: wps =>
      rw [dense_cons, Nat.mul_succ, Nat.add_comm, ← List.drop_drop,
        List.drop_left' (length_piece hfactor _)]
      exact ih (Nat.lt_of_succ_lt_succ hi)

lemma getElem?_dense {i : ℕ} (hi : i < wps.length) : (dense factor wps)[factor * i]? = wps[i]? := by
  have hdrop := congrArg List.head? (drop_dense hfactor hi)
  rwa [head?_dense, List.head?_drop, List.head?_drop] at hdrop

/-- The way between two waypoints is split at equal fractions. -/
lemma exists_onWay {i : ℕ}
    (h1 : wps[i]? = some w1) (h2 : wps[i + 1]? = some w2) (hspan : w1.time < w2.time) {k : ℕ}
    (hk : k ≤ factor) :
    ∃ v, (dense factor wps)[factor * i + k]? = some v ∧ OnWay w1 w2 (k / factor) v := by
  have hlen := (List.getElem?_eq_some_iff.mp h2).1
  rcases Nat.eq_zero_or_pos k with rfl | hpos
  · refine ⟨w1, (getElem?_dense hfactor (Nat.lt_of_succ_lt hlen)).trans h1, ?_⟩
    rw [Nat.cast_zero, zero_div]
    exact onWay_zero w1 w2
  rcases hk.eq_or_lt with rfl | hlt
  · refine ⟨w2, (getElem?_dense hfactor hlen).trans h2, ?_⟩
    rw [div_self (Nat.cast_ne_zero.mpr (Nat.one_le_iff_ne_zero.mp hfactor))]
    exact onWay_one w1 w2
  · refine ⟨_, ?_, onWay_frame hspan hpos hlt⟩
    obtain ⟨k, rfl⟩ := Nat.exists_eq_succ_of_ne_zero hpos.ne'
    obtain ⟨hi, rfl⟩ := List.getElem?_eq_some_iff.mp h1
    obtain ⟨-, rfl⟩ := List.getElem?_eq_some_iff.mp h2
    rw [← List.getElem?_drop, drop_dense hfactor hi, List.drop_eq_getElem_cons hi,
      List.drop_eq_getElem_cons hlen, dense_cons,
      List.getElem?_append_left (by rwa [length_piece hfactor]), piece, List.getElem?_cons_succ,
      List.getElem?_map, List.getElem?_range (Nat.lt_sub_of_add_lt hlt)]
    rfl

lemma timeOrdered_dense (h : TimeOrdered wps) : TimeOrdered (dense factor wps) := by
  have hsorted : ((dense factor wps).map Waypoint.time).IsChain (· ≤ ·) := by
    refine List.isChain_iff_getElem.mpr fun i hi => ?_
    have hstep : (_, _) ∈ steps ((dense factor wps).map Waypoint.time) := mem_steps_iff.mpr
      ⟨i, List.getElem?_eq_getElem (Nat.lt_of_succ_lt hi), List.getElem?_eq_getElem hi⟩
    obtain ⟨cd, hcd, heq⟩ := steps_time_dense hfactor hstep
    obtain ⟨k, hk, hk'⟩ := mem_steps_iff.mp hcd
    rw [List.getElem?_map, Option.map_eq_some_iff] at hk hk'
    obtain ⟨a, ha, hac⟩ := hk
    obtain ⟨b, hb, hbd⟩ := hk'
    have hle := h.le_of_le ha hb (Nat.le_succ k)
    rw [hac, hbd] at hle
    exact sub_nonneg.mp (heq.symm ▸ div_nonneg (sub_nonneg.mpr hle) (Nat.cast_nonneg factor))
  exact List.pairwise_map.mp hsorted.pairwise

/-- At every instant the split waypoints place a drone where its own do. -/
lemma interpolateWaypoint_dense (h : TimeOrdered wps) (t : K) : Option.Rel SamePose
      (interpolateWaypoint (dense factor wps) t) (interpolateWaypoint wps t) := by
  cases hf : wps.head? with
  | none =>
    obtain rfl := List.head?_eq_none_iff.mp hf
    exact .none
  | some first =>
    have hne : wps ≠ [] := fun hnil => by rw [hnil] at hf; cases hf
    obtain ⟨_, last, -, hl⟩ := exists_first_last hne
    have hf' := (head?_dense factor wps).trans hf
    have hl' := (getLast?_dense factor wps).trans hl
    rcases interpolateWaypoint_cases h hf hl t with
      ⟨hle, he⟩ | ⟨hlt, hle, he⟩ | ⟨i, w1, w2, h1, h2, hlt, hle, hend, he⟩
    · rw [he, interpolateWaypoint, hf', hl']
      dsimp only
      rw [if_pos hle]
      exact .some (SamePose.refl first)
    · rw [he, interpolateWaypoint, hf', hl']
      dsimp only
      rw [if_neg hlt.not_ge, if_pos hle]
      exact .some (SamePose.refl last)
    · have hspan := hlt.trans_le hle
      have hd : 0 < w2.time - w1.time := sub_pos.mpr hspan
      have hf : (0 : K) < factor := Nat.cast_pos.mpr hfactor
      -- The piece that `t` falls in.
      have hpos : 0 < ⌈(t - w1.time) / (w2.time - w1.time) * factor⌉₊ :=
        Nat.ceil_pos.mpr (mul_pos (div_pos (sub_pos.mpr hlt) hd) hf)
      obtain ⟨k, hk⟩ := Nat.exists_eq_succ_of_ne_zero hpos.ne'
      have hbefore : (k : K) < (t - w1.time) / (w2.time - w1.time) * factor :=
        Nat.lt_ceil.mp (hk ▸ Nat.lt_succ_self k)
      have hafter : (t - w1.time) / (w2.time - w1.time) * factor ≤ (k + 1 : ℕ) :=
        Nat.ceil_le.mp hk.le
      have hlast : k + 1 ≤ factor := by
        rw [← Nat.succ_eq_add_one, ← hk]
        refine Nat.ceil_le.mpr (mul_le_of_le_one_left hf.le ((div_le_one hd).mpr ?_))
        exact sub_le_sub_right hle _
      obtain ⟨v, hv, hon⟩ := exists_onWay hfactor h1 h2 hspan (Nat.le_of_succ_le hlast)
      obtain ⟨v', hv', hon'⟩ := exists_onWay hfactor h1 h2 hspan hlast
      have htime : ∀ c : K, w1.time + c / factor * (w2.time - w1.time) - t =
          (c - (t - w1.time) / (w2.time - w1.time) * factor) * ((w2.time - w1.time) / factor) :=
        fun c => by
          field_simp
          ring
      have hscale := div_pos hd hf
      have hvt : v.time < t := by
        rw [hon.time, ← sub_neg, htime]
        exact mul_neg_of_neg_of_pos (sub_neg.mpr hbefore) hscale
      have htv : t ≤ v'.time := by
        rw [hon'.time, ← sub_nonneg, htime]
        exact mul_nonneg (sub_nonneg.mpr hafter) hscale.le
      rw [he, interpolateWaypoint_within (timeOrdered_dense hfactor h) hv hv' hl' hvt htv hend]
      refine .some (samePose_segmentState hspan hon hon' ?_ ?_ t)
      · exact div_lt_div_of_pos_right (Nat.cast_lt.mpr (Nat.lt_succ_self k)) hf
      · rw [← sub_div, Nat.cast_succ, add_sub_cancel_left, div_le_one hf]
        exact_mod_cast hfactor

end

/-- A drone that is split `factor` ways: its waypoints, in time order, are every `factor`-th of
the result's, and it flies as before. -/
structure Resampled (factor : ℕ) (drone result : ChoreoDrone K) : Prop where
  extra : result.extra = drone.extra
  length : ∀ m, drone.waypoints.length = m + 1 → result.waypoints.length = factor * m + 1
  ordered : TimeOrdered result.waypoints
  sorted : (byTime drone.waypoints).Perm drone.waypoints
  kept : ∀ i < drone.waypoints.length, result.waypoints[factor * i]? = (byTime drone.waypoints)[i]?
  flight : ∀ t, Option.Rel SamePose (interpolateWaypoint result.waypoints t)
    (interpolateWaypoint (byTime drone.waypoints) t)

/-- Upsampling does not change the flight. -/
theorem upsampleChoreo_resampled (choreo : Choreo K) (hfactor : 2 ≤ factor) :
    (upsampleChoreo choreo factor).extra = choreo.extra ∧
    List.Forall₂ (Resampled factor) choreo.drones (upsampleChoreo choreo factor).drones := by
  have hone : 1 ≤ factor := Nat.le_of_succ_le hfactor
  rw [upsampleChoreo, if_neg (Nat.not_le.mpr hfactor)]
  refine ⟨rfl, List.forall₂_map_right_iff.mpr (List.forall₂_same.mpr fun drone _ => ?_)⟩
  have hordered := timeOrdered_byTime drone.waypoints
  have hlength : (byTime drone.waypoints).length = drone.waypoints.length :=
    List.length_insertionSort _ _
  refine ⟨rfl, fun m hm => ?_, timeOrdered_dense hone hordered, List.perm_insertionSort _ _,
    fun i hi => ?_, interpolateWaypoint_dense hone hordered⟩
  · obtain ⟨w, wps, hcons⟩ := List.exists_cons_of_length_eq_add_one (hlength.trans hm)
    rw [hcons, List.length_cons] at hlength
    change (dense factor (byTime drone.waypoints)).length = _
    rw [hcons, length_dense hone, Nat.add_right_cancel (hlength.trans hm)]
  · exact getElem?_dense hone (hlength.symm ▸ hi)

def halfTurn : ChoreoDrone ℚ where
  waypoints := [{ time := 2, x := 4, y := 0, z := 5, yaw := 80 },
    { time := 0, x := 0, y := 0, z := 5, yaw := 260 }]

theorem upsampleChoreo_resampled_halfTurn :
    List.Forall₂ (Resampled 3) [halfTurn] (upsampleChoreo { drones := [halfTurn] } 3).drones :=
  (upsampleChoreo_resampled { drones := [halfTurn] } (Nat.le_succ 2)).2

end Flight

end Taramandal.Studio.Upsampling
