import Taramandal.Core.Safety

/-! # The launch layout at any spacing (`layout.py`)

The pad grid and the hover altitudes with the arguments the code takes for them. Two pads differ
by a whole number of spacings in their row or in their place in it; rows end inside the geofence,
and the altitudes start again at the base before they reach the ceiling. -/

namespace Taramandal.Core.LaunchLayout

open Core.Numbers Core.Safety

variable {K : Type} [Field K] [LinearOrder K] [FloorRing K]

def rowCols (n : ℕ) (limits : SafetyLimits K) (spacing : K) : ℕ :=
  max 1 (min (ceilSqrt n) (max 1 ⌊limits.geofenceRadiusM / spacing⌋.toNat))

/-- The pad of drone `i`. -/
def pad (cols : ℕ) (spacing : K) (i : ℕ) : K × K :=
  (((i / cols : ℕ) : K) * spacing, ((i % cols : ℕ) : K) * spacing)

/-- `launch_grid`; without a spacing it is that of the limits. -/
def launchGridAt (n : ℤ) (limits : SafetyLimits K) (spacing : Option K) :
    Except String (List (K × K)) :=
  if n < 0 then .error ("n must be non-negative, got " ++ toString n)
  else
    let spacing := spacing.getD limits.padSpacingM
    if spacing ≤ 0 then .error ("spacing must be positive, got " ++ floatStr spacing)
    else .ok ((List.range n.toNat).map (pad (rowCols n.toNat limits spacing) spacing))

def layerCount (limits : SafetyLimits K) (base step : K) : ℕ :=
  max 1 (⌊(limits.maxAltitudeM - base) / step⌋ + 1).toNat

/-- `altitude_layers`; without a step it is the design separation. -/
def altitudeLayersAt (n : ℤ) (limits : SafetyLimits K) (base : K) (step : Option K) :
    Except String (List K) :=
  if n < 0 then .error ("n must be non-negative, got " ++ toString n)
  else
    let step := step.getD limits.designSeparationM
    if step ≤ 0 then .error ("step must be positive, got " ++ floatStr step)
    else .ok ((List.range n.toNat).map fun i : ℕ =>
      base + step * ((i % layerCount limits base step : ℕ) : K))

section Apart

variable [IsStrictOrderedRing K]

lemma le_abs_of_ne {a b : ℕ} (hne : a ≠ b) {s : K} (hs : 0 ≤ s) : s ≤ |(a * s : K) - b * s| := by
  have hone : (1 : K) ≤ |(a : K) - b| := by
    have hint : (1 : ℤ) ≤ |(a : ℤ) - b| :=
      Int.one_le_abs (sub_ne_zero.mpr (Nat.cast_injective.ne hne))
    exact_mod_cast hint
  rw [← sub_mul, abs_mul, abs_of_nonneg hs]
  exact le_mul_of_one_le_left hs hone

def padDistSq (p q : K × K) : K := (p.1 - q.1) ^ 2 + (p.2 - q.2) ^ 2

lemma pads_apart (cols : ℕ) {spacing : K} (hspacing : 0 ≤ spacing) {i j : ℕ} (hij : i ≠ j) :
    spacing ^ 2 ≤ padDistSq (pad cols spacing i) (pad cols spacing j) := by
  have hsq : ∀ {a b : ℕ}, a ≠ b → spacing ^ 2 ≤ ((a * spacing : K) - b * spacing) ^ 2 := by
    intro a b hab
    rw [← sq_abs ((a * spacing : K) - b * spacing)]
    exact pow_le_pow_left₀ hspacing (le_abs_of_ne hab hspacing) 2
  unfold padDistSq pad
  by_cases hrow : i / cols = j / cols
  · have hplace : i % cols ≠ j % cols := fun heq =>
      hij ((Nat.div_add_mod i cols).symm.trans (hrow ▸ heq ▸ Nat.div_add_mod j cols))
    exact (hsq hplace).trans (le_add_of_nonneg_left (sq_nonneg _))
  · exact (hsq hrow).trans (le_add_of_nonneg_right (sq_nonneg _))

/-- A row ends a spacing inside the geofence, if it has more than one pad. -/
lemma row_inside (n : ℕ) (limits : SafetyLimits K) {spacing : K} (hspacing : 0 < spacing)
    (i : ℕ) : (pad (rowCols n limits spacing) spacing i).2 ≤
      max (limits.geofenceRadiusM - spacing) 0 := by
  have hlt : i % rowCols n limits spacing + 1 ≤ rowCols n limits spacing :=
    Nat.mod_lt i (Nat.lt_of_lt_of_le Nat.one_pos (le_max_left _ _))
  have hle : rowCols n limits spacing ≤ max 1 ⌊limits.geofenceRadiusM / spacing⌋.toNat :=
    max_le (le_max_left _ _) (min_le_right _ _)
  show ((i % rowCols n limits spacing : ℕ) : K) * spacing ≤ _
  rcases Nat.eq_zero_or_pos (i % rowCols n limits spacing) with hzero | hpos
  · rw [hzero, Nat.cast_zero, zero_mul]
    exact le_max_right _ _
  · have hfloor : ((i % rowCols n limits spacing + 1 : ℕ) : ℤ) ≤
        ⌊limits.geofenceRadiusM / spacing⌋ := by omega
    have hquot := Int.le_floor.mp hfloor
    rw [Int.cast_natCast, Nat.cast_succ, le_div_iff₀ hspacing, add_mul, one_mul] at hquot
    exact le_max_of_le_left (le_sub_iff_add_le.mpr hquot)

/-- The layers lie between the base and the ceiling. -/
lemma layer_mem (limits : SafetyLimits K) {base step : K} (hbase : base ≤ limits.maxAltitudeM)
    (hstep : 0 < step) (i : ℕ) : base + step * ((i % layerCount limits base step : ℕ) : K) ∈
      Set.Icc base limits.maxAltitudeM := by
  have hfloor : 0 ≤ ⌊(limits.maxAltitudeM - base) / step⌋ :=
    Int.floor_nonneg.mpr (div_nonneg (sub_nonneg.mpr hbase) hstep.le)
  have hlt : i % layerCount limits base step < layerCount limits base step :=
    Nat.mod_lt i (Nat.lt_of_lt_of_le Nat.one_pos (le_max_left _ _))
  have hle : ((i % layerCount limits base step : ℕ) : ℤ) ≤
      ⌊(limits.maxAltitudeM - base) / step⌋ := by
    unfold layerCount at hlt ⊢
    omega
  have hquot := Int.le_floor.mp hle
  rw [le_div_iff₀' hstep, Int.cast_natCast] at hquot
  exact ⟨le_add_of_nonneg_right (mul_nonneg hstep.le (Nat.cast_nonneg _)), by linarith⟩

/-- The launch of a fleet: its pads, and the height that each drone hovers at over its own. -/
structure LaunchSafe (n : ℕ) (limits : SafetyLimits K) (spacing base step : K)
    (pads : List (K × K)) (heights : List K) : Prop where
  length : pads.length = n ∧ heights.length = n
  apart : pads.Pairwise fun p q => spacing ^ 2 ≤ padDistSq p q
  origin : ∀ p, pads[0]? = some p → p = (0, 0)
  rows : ∀ p ∈ pads, 0 ≤ p.2 ∧ p.2 ≤ max (limits.geofenceRadiusM - spacing) 0
  altitudes : ∀ h ∈ heights, h ∈ Set.Icc base limits.maxAltitudeM
  layers : ∀ h ∈ heights, ∀ h' ∈ heights, h ≠ h' → step ≤ |h - h'|
  hovering : (pads.zip heights).Pairwise fun a b =>
    spacing ^ 2 ≤ padDistSq a.1 b.1 + (a.2 - b.2) ^ 2

/-- At every spacing, base and step the pads and the hovering drones are a spacing apart, inside
the geofence and below the ceiling. -/
theorem launch_layout_safe (n : ℕ) (limits : SafetyLimits K) {spacing base step : K}
    (hspacing : 0 < spacing) (hbase : base ≤ limits.maxAltitudeM) (hstep : 0 < step) :
    ∃ pads heights, launchGridAt n limits (some spacing) = .ok pads ∧
      altitudeLayersAt n limits base (some step) = .ok heights ∧
      LaunchSafe n limits spacing base step pads heights := by
  have hn : ¬(n : ℤ) < 0 := Int.not_lt.mpr (Int.natCast_nonneg n)
  have hpads : launchGridAt n limits (some spacing) =
      .ok ((List.range n).map (pad (rowCols n limits spacing) spacing)) := by
    unfold launchGridAt
    rw [if_neg hn, Int.toNat_natCast]
    exact if_neg (not_le.mpr hspacing)
  have hheights : altitudeLayersAt n limits base (some step) = .ok ((List.range n).map fun i : ℕ =>
      base + step * ((i % layerCount limits base step : ℕ) : K)) := by
    unfold altitudeLayersAt
    rw [if_neg hn, Int.toNat_natCast]
    exact if_neg (not_le.mpr hstep)
  have hapart : ∀ i j : ℕ, i < j → spacing ^ 2 ≤ padDistSq
      (pad (rowCols n limits spacing) spacing i) (pad (rowCols n limits spacing) spacing j) :=
    fun i j hij => pads_apart _ hspacing.le hij.ne
  refine ⟨_, _, hpads, hheights, ?_, ?_, ?_, ?_, ?_, ?_, ?_⟩
  · rw [List.length_map, List.length_map, List.length_range]
    exact ⟨rfl, rfl⟩
  · exact List.pairwise_map.mpr (List.pairwise_lt_range.imp (hapart _ _))
  · intro p hp
    rw [List.getElem?_map] at hp
    obtain ⟨i, hi, rfl⟩ := Option.map_eq_some_iff.mp hp
    obtain ⟨-, rfl⟩ := List.getElem?_eq_some_iff.mp hi
    simp [pad]
  · intro p hp
    obtain ⟨i, -, rfl⟩ := List.mem_map.mp hp
    exact ⟨mul_nonneg (Nat.cast_nonneg _) hspacing.le, row_inside n limits hspacing i⟩
  · intro h hh
    obtain ⟨i, -, rfl⟩ := List.mem_map.mp hh
    exact layer_mem limits hbase hstep i
  · intro h hh h' hh' hne
    obtain ⟨i, -, rfl⟩ := List.mem_map.mp hh
    obtain ⟨j, -, rfl⟩ := List.mem_map.mp hh'
    have hlayer : i % layerCount limits base step ≠ j % layerCount limits base step :=
      fun heq => hne (by rw [heq])
    rw [add_sub_add_left_eq_sub, mul_comm step, mul_comm step]
    exact le_abs_of_ne hlayer hstep.le
  · rw [List.zip_map']
    refine List.pairwise_map.mpr (List.pairwise_lt_range.imp fun {i j} hij => ?_)
    exact (hapart i j hij).trans (le_add_of_nonneg_right (sq_nonneg _))

theorem launch_layout_safe_two : ∃ pads heights,
    launchGridAt 2 (defaultLimits : SafetyLimits ℚ) (some 3) = .ok pads ∧
      altitudeLayersAt 2 (defaultLimits : SafetyLimits ℚ) 5 (some 2) = .ok heights ∧
      LaunchSafe 2 defaultLimits 3 5 2 pads heights :=
  launch_layout_safe 2 defaultLimits (by norm_num) (by norm_num [defaultLimits]) (by norm_num)

end Apart

end Taramandal.Core.LaunchLayout
