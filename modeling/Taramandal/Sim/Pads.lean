import Mathlib.Analysis.Real.Pi.Bounds
import Taramandal.Core.Safety

/-! # Pads and homes (`system.py`, `layout.py`, `geometry.py`)

The simulator puts a drone's home on the grid for as many drones as are flying,
the ground subtracts and adds the drone's pad on the grid for the largest fleet.
Both grids number their pads row by row. They agree on a drone whose row is
equally long in both, and on the first row of the shorter one. -/
namespace Taramandal.Sim.Pads

open Lib.Bisect Core.Safety

/-- What the conversions take of the circle. -/
structure Circle (K : Type) where
  pi : K
  cos : K → K

section

variable {K : Type} [Field K]

def Circle.degrees (c : Circle K) (x : K) : K := x * 180 / c.pi

def Circle.radians (c : Circle K) (x : K) : K := x * c.pi / 180

def earthRadiusM : K := 6378137

def nedToGeodetic (c : Circle K) (x y homeLat homeLon : K) : K × K :=
  (homeLat + c.degrees (x / earthRadiusM),
    homeLon + c.degrees (y / (earthRadiusM * c.cos (c.radians homeLat))))

def geodeticToNed (c : Circle K) (lat lon homeLat homeLon : K) : K × K :=
  (c.radians (lat - homeLat) * earthRadiusM,
    c.radians (lon - homeLon) * earthRadiusM * c.cos (c.radians homeLat))

lemma radians_degrees [CharZero K] {c : Circle K} (hpi : c.pi ≠ 0) (x : K) :
    c.radians (c.degrees x) = x := by
  unfold Circle.radians Circle.degrees
  field_simp

lemma geodeticToNed_nedToGeodetic [CharZero K] {c : Circle K} (hpi : c.pi ≠ 0) {homeLat : K}
    (hcos : c.cos (c.radians homeLat) ≠ 0) (x y homeLon : K) :
    geodeticToNed c (nedToGeodetic c x y homeLat homeLon).1
      (nedToGeodetic c x y homeLat homeLon).2 homeLat homeLon = (x, y) := by
  have hearth : (earthRadiusM : K) ≠ 0 := by
    unfold earthRadiusM
    norm_num
  unfold geodeticToNed nedToGeodetic
  simp only [add_sub_cancel_left, radians_degrees hpi]
  refine Prod.ext ?_ ?_
  · exact div_mul_cancel₀ x hearth
  · show y / (earthRadiusM * c.cos (c.radians homeLat)) * earthRadiusM *
      c.cos (c.radians homeLat) = y
    rw [mul_assoc]
    exact div_mul_cancel₀ y (mul_ne_zero hearth hcos)

end

section

variable {K : Type} [Field K] [LinearOrder K] [IsStrictOrderedRing K] [FloorRing K]

/-- `DEFAULT_VENUE_LAT` and `DEFAULT_VENUE_LON`. -/
def defaultVenue : K × K := (129716 / 10000, 775946 / 10000)

/-- The pads `SimFleet(n)` computes its homes from. -/
def simPads (n : Nat) : List (K × K) := launchGrid n defaultLimits

/-- The homes of `SimFleet(n)` at the default venue. -/
def simHomes (c : Circle K) (n : Nat) : List (K × K) :=
  (simPads n).map fun pad => nedToGeodetic c pad.1 pad.2 defaultVenue.1 defaultVenue.2

/-- The GLOBAL setpoint the ground sends for a point of the fleet frame, none as
long as the drone has no home. -/
def globalSetpoint (c : Circle K) (home pad target : K × K) : Option (K × K) :=
  if home.1 = 0 ∧ home.2 = 0 then none
  else
    let relX := target.1 - pad.1
    let relY := target.2 - pad.2
    let dlat := relX / earthRadiusM
    let dlon := relY / (earthRadiusM * c.cos (c.radians home.1))
    some (home.1 + c.degrees dlat, home.2 + c.degrees dlon)

/-- `set_position_global`: where it sends the drone, in its own frame. -/
def setPositionGlobal (c : Circle K) (home setpoint : K × K) : K × K :=
  geodeticToNed c setpoint.1 setpoint.2 home.1 home.2

/-- The fleet-frame point of a drone, from its own frame and a pad. -/
def fleetPoint (pad position : K × K) : K × K := (position.1 + pad.1, position.2 + pad.2)

/-- The simulator and the ground have drone `i` of `n` on the same pad. -/
def PadsAgree (K : Type) [Field K] [LinearOrder K] [IsStrictOrderedRing K] [FloorRing K]
    (n i : Nat) : Prop :=
  ∃ pad : K × K, (simPads n)[i]? = some pad ∧ padOffset i = .ok pad

/-- At every GLOBAL setpoint the drone is, measured from the pad of its home, where its
telemetry says it is. -/
def SamePoint (c : Circle K) (n i : Nat) : Prop :=
  ∀ simPad home pad target setpoint : K × K, (simPads n)[i]? = some simPad →
    (simHomes c n)[i]? = some home → padOffset i = .ok pad →
    globalSetpoint c home pad target = some setpoint →
      fleetPoint simPad (setPositionGlobal c home setpoint) =
        fleetPoint pad (setPositionGlobal c home setpoint)

/-! ## Rows -/

variable {n i : Nat}

omit [IsStrictOrderedRing K] in
lemma lt_ceilSqrt_iff : i < ceilSqrt n ↔ i * i < n := by
  obtain ⟨hle, hlt⟩ := isqrt_spec n
  unfold ceilSqrt
  split
  next hsq => rw [← Nat.mul_self_lt_mul_self_iff, hsq]
  next hsq =>
    have hbelow : isqrt n * isqrt n < n := lt_of_le_of_ne hle hsq
    constructor
    · intro hi
      exact lt_of_le_of_lt (Nat.mul_self_le_mul_self (Nat.lt_succ_iff.mp hi)) hbelow
    · intro hi
      exact Nat.mul_self_lt_mul_self_iff.mp (hi.trans hlt)

/-- A row of the grid for `n` drones holds thirteen pads at most. -/
lemma gridCols_eq (n : Nat) :
    gridCols n (defaultLimits : SafetyLimits K) = max 1 (min (ceilSqrt n) 13) := by
  have h : ⌊(30 : K) / (11 / 5)⌋ = 13 := by
    rw [Int.floor_eq_iff]
    norm_num
  simp [gridCols, defaultLimits, h]

lemma simPads_getElem? (hi : i < n) : (simPads n : List (K × K))[i]? =
      some (((i / gridCols n (defaultLimits : SafetyLimits K) : Nat) : K) * (11 / 5),
        ((i % gridCols n (defaultLimits : SafetyLimits K) : Nat) : K) * (11 / 5)) := by
  rw [simPads, launchGrid, List.getElem?_map, List.getElem?_range hi]
  rfl

/-- Two grids agree on a pad of the same row length, or of the first row of the
shorter. -/
lemma div_mod_eq_iff {cols wide : Nat} (hcols : 0 < cols) (hle : cols ≤ wide) :
    i / cols = i / wide ∧ i % cols = i % wide ↔ cols = wide ∨ i < cols := by
  constructor
  · rintro ⟨hdiv, hmod⟩
    by_contra! hne
    have hrow : 0 < i / cols := Nat.div_pos hne.2 hcols
    have hnarrow := Nat.div_add_mod i cols
    have hwide := Nat.div_add_mod i wide
    rw [← hdiv, ← hmod] at hwide
    have hsame : cols * (i / cols) = wide * (i / cols) := by omega
    exact hne.1 (Nat.eq_of_mul_eq_mul_right hrow hsame)
  · rintro (rfl | hlt)
    · exact ⟨rfl, rfl⟩
    · rw [Nat.div_eq_of_lt hlt, Nat.div_eq_of_lt (hlt.trans_le hle), Nat.mod_eq_of_lt hlt,
        Nat.mod_eq_of_lt (hlt.trans_le hle)]
      exact ⟨rfl, rfl⟩

/-- The pads agree on a fleet whose rows are full, and on the first row of a smaller one. -/
lemma padsAgree_iff (hi : i < n) (hn : n ≤ maxFleetSize) :
    PadsAgree K n i ↔ 145 ≤ n ∨ i * i < n := by
  have hcols : 0 < ceilSqrt n := lt_ceilSqrt_iff.mpr (by omega)
  have hwide : min (ceilSqrt n) 13 = 13 ↔ 145 ≤ n := by
    rw [min_eq_right_iff, Nat.succ_le_iff, lt_ceilSqrt_iff]
    omega
  have hgrid := div_mod_eq_iff (i := i) (show 0 < min (ceilSqrt n) 13 by omega)
    (show min (ceilSqrt n) 13 ≤ 13 by omega)
  have hpad : PadsAgree K n i ↔
      i / min (ceilSqrt n) 13 = i / 13 ∧ i % min (ceilSqrt n) 13 = i % 13 := by
    unfold PadsAgree
    rw [simPads_getElem? hi, padOffset_eq (hi.trans_le hn), gridCols_eq,
      max_eq_right (show 1 ≤ min (ceilSqrt n) 13 by omega)]
    have hstep : (11 / 5 : K) ≠ 0 := by norm_num
    simp [hstep, eq_comm]
  rw [hpad, hgrid, hwide]
  refine or_congr_right' fun hshort => ?_
  rw [lt_min_iff, lt_ceilSqrt_iff]
  have hsmall : i * i < n → i < 13 := fun h => by nlinarith
  exact ⟨And.left, fun h => ⟨h, hsmall h⟩⟩

end

/-! ## One point -/

noncomputable section

def realCircle : Circle ℝ := ⟨Real.pi, Real.cos⟩

variable {n i : Nat}

section

variable (hi : i < n) (hn : n ≤ maxFleetSize)
include hi hn

lemma gridRow_le : i / gridCols n (defaultLimits : SafetyLimits ℝ) < 145 := by
  have hcols : 0 < ceilSqrt n := lt_ceilSqrt_iff.mpr (by omega)
  have hmax : maxFleetSize = 1000 := rfl
  have hpos : 1 ≤ min (ceilSqrt n) 13 := by omega
  rw [gridCols_eq, max_eq_right hpos]
  rcases Nat.lt_or_ge n 145 with hshort | hlong
  · exact (Nat.div_le_self _ _).trans_lt (by omega)
  · have hwide : 12 < ceilSqrt n := lt_ceilSqrt_iff.mpr (by omega)
    rw [min_eq_right hwide]
    omega

/-- No home of the default venue is at a pole, nor at the latitude that stands for
no home. -/
lemma home_lat {home : ℝ × ℝ} (h : (simHomes realCircle n)[i]? = some home) :
    0 < home.1 ∧ realCircle.cos (realCircle.radians home.1) ≠ 0 := by
  rw [simHomes, List.getElem?_map, simPads_getElem? hi, Option.map_some] at h
  obtain rfl := Option.some.inj h
  have hrow : ((i / gridCols n (defaultLimits : SafetyLimits ℝ) : Nat) : ℝ) ≤ 145 := by
    exact_mod_cast (gridRow_le hi hn).le
  have hpi := Real.pi_pos
  have hpi3 := Real.pi_gt_three
  generalize i / gridCols n (defaultLimits : SafetyLimits ℝ) = row at hrow
  have hx : 0 ≤ (row : ℝ) * (11 / 5) / earthRadiusM := by
    unfold earthRadiusM
    positivity
  have hx' : (row : ℝ) * (11 / 5) / earthRadiusM ≤ 1 / 1000 := by
    unfold earthRadiusM
    rw [div_le_div_iff₀ (by norm_num) (by norm_num)]
    linarith
  show 0 < (129716 / 10000 : ℝ) + realCircle.degrees ((row : ℝ) * (11 / 5) / earthRadiusM) ∧
    Real.cos (realCircle.radians
      (129716 / 10000 + realCircle.degrees ((row : ℝ) * (11 / 5) / earthRadiusM))) ≠ 0
  generalize (row : ℝ) * (11 / 5) / earthRadiusM = angle at hx hx' ⊢
  have hdegrees : 0 ≤ realCircle.degrees angle := by
    show 0 ≤ angle * 180 / Real.pi
    positivity
  have hradians : realCircle.radians (129716 / 10000 + realCircle.degrees angle) =
      129716 / 10000 * Real.pi / 180 + angle := by
    have hback : realCircle.degrees angle * Real.pi / 180 = angle :=
      radians_degrees (c := realCircle) hpi.ne' angle
    show (129716 / 10000 + realCircle.degrees angle) * Real.pi / 180 = _
    rw [add_mul, add_div, hback]
  refine ⟨by linarith, ?_⟩
  rw [hradians]
  exact (Real.cos_pos_of_mem_Ioo ⟨by linarith, by linarith⟩).ne'

/-- On a drone with a home the setpoint leads to the point it was sent for, as far as
the simulator's own frame goes. -/
lemma setPositionGlobal_globalSetpoint {home : ℝ × ℝ} (h : (simHomes realCircle n)[i]? = some home) (pad target : ℝ × ℝ) :
    ∃ setpoint, globalSetpoint realCircle home pad target = some setpoint ∧
      setPositionGlobal realCircle home setpoint = (target.1 - pad.1, target.2 - pad.2) := by
  obtain ⟨hlat, hcos⟩ := home_lat hi hn h
  have hhome : ¬ (home.1 = 0 ∧ home.2 = 0) := fun hzero => hlat.ne' hzero.1
  refine ⟨_, if_neg hhome, ?_⟩
  exact geodeticToNed_nedToGeodetic Real.pi_pos.ne' hcos _ _ home.2

lemma samePoint_iff : SamePoint realCircle n i ↔ PadsAgree ℝ n i := by
  have hsim := simPads_getElem? (K := ℝ) hi
  have hpad := padOffset_eq (K := ℝ) (hi.trans_le hn)
  constructor
  · intro hsame
    have hhome : ∃ home, (simHomes realCircle n)[i]? = some home := by
      rw [simHomes, List.getElem?_map, hsim]
      exact ⟨_, rfl⟩
    obtain ⟨home, hhome⟩ := hhome
    obtain ⟨setpoint, hsent, -⟩ := setPositionGlobal_globalSetpoint hi hn hhome _ (0, 0)
    have heq := hsame _ home _ (0, 0) setpoint hsim hhome hpad hsent
    refine ⟨_, hsim, ?_⟩
    rw [hpad]
    obtain ⟨hx, hy⟩ := Prod.mk.inj heq
    exact congrArg _ (Prod.ext (add_left_cancel hx).symm (add_left_cancel hy).symm)
  · rintro ⟨pad, hsim', hpad'⟩ simPad home pad' target setpoint hs - hp -
    rw [hsim'] at hs
    rw [hpad'] at hp
    rw [← Option.some.inj hs, ← Except.ok.inj hp]

end

/-- The pad a drone's home lies on is the one the ground calculates with, and the two
mean one point, exactly on full rows and on the first row of a short grid. -/
theorem pads_and_points_iff {n i : Nat} (hi : i < n) (hn : n ≤ maxFleetSize) :
    PadsAgree ℝ n i ∧ SamePoint realCircle n i ↔ 145 ≤ n ∨ i * i < n := by
  rw [samePoint_iff hi hn, and_self]
  exact padsAgree_iff hi hn

theorem pads_and_points_full_rows : PadsAgree ℝ 150 149 ∧ SamePoint realCircle 150 149 :=
  (pads_and_points_iff (by decide) (by decide)).mpr (.inl (by decide))

end

/-- With three drones the third has its home 2.2 m north of the first, and its pad
4.4 m east of it. -/
theorem pads_differ_of_three :
    (simPads 3)[2]? = some ((11 / 5 : ℚ), 0) ∧ padOffset 2 = .ok ((0 : ℚ), 22 / 5) ∧
      ¬ PadsAgree ℚ 3 2 := by
  have hsim : (simPads 3)[2]? = some ((11 / 5 : ℚ), 0) := by decide +kernel
  have hpad : padOffset 2 = .ok ((0 : ℚ), 22 / 5) := by
    rw [padOffset_eq (by decide)]
    norm_num
  refine ⟨hsim, hpad, ?_⟩
  rintro ⟨pad, hs, hp⟩
  rw [hsim] at hs
  rw [hpad] at hp
  obtain rfl := Option.some.inj hs
  exact absurd (congrArg Prod.fst (Except.ok.inj hp)) (by norm_num)

end Taramandal.Sim.Pads
