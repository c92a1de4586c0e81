import Mathlib.Analysis.Calculus.MeanValue
import Mathlib.Analysis.Calculus.Deriv.MeanValue
import Mathlib.Analysis.Calculus.Deriv.Pow
import Taramandal.Gcs.StartBridge
import Taramandal.Lib.Approach
import Taramandal.Studio.GeneratedShows

/-! # The speeds of a paced show (`plan_pacing`, `_ease`, `quintic_profile`)

What a drone flies when the phases of a pacing are flown with the easing of the generator. The
steepest slope of that easing is 15/8, and so the climb, the return and the descent stay well
below the limit. The window of an orbit is sized as if the slope of the blend were 3/2, and so
the orbit and the blend together keep to their budget only where other bounds on the window make
up for it (`within_budget_iff`). -/
namespace Taramandal.Studio.PacedSpeeds

open Set (Icc Ioo range)
open Gcs.StartBridge (minJerk minJerkPeakFactor minJerk_mem)
open Lib.Check Lib.Ramp Core.Safety Core.Geometry Studio.Layout Studio.Pacing
open Studio.Generator Studio.GeneratedShows

section

variable {K : Type} [Field K] [LinearOrder K]

section

variable (limits : SafetyLimits K)

def cruiseUnder : K := limits.maxVelocityMs * cruiseFraction

def yawUnder (revolutions : K) : K :=
  if 0 < revolutions then 360 * revolutions / (limits.maxYawRateDps * cruiseYawFraction) else 0

def orbitSpeedBudget (spreadM blendS : K) : K :=
  min maxOrbitSpeedMs (9 / 10 * limits.maxVelocityMs - 15 / 10 * spreadM / blendS)

/-- The shortest window for an orbit that is granted, and zero for none. -/
def orbitUnder (spreadM blendS revolutions orbitReachM : K) : K :=
  if 0 < orbitReachM ∧ 0 < revolutions then
    if 0 < orbitSpeedBudget limits spreadM blendS then
      2 * pi * orbitReachM * revolutions / orbitSpeedBudget limits spreadM blendS
    else 0
  else 0

def pacingUnder (climbM spreadM revolutions orbitReachM : K) : ShowPacing K :=
  let cruise := cruiseUnder limits
  let blendS := max baseBlendS (spreadM / cruise)
  { takeoffS := max baseTakeoffS (climbM / cruise)
    blendS
    choreoS := max (max (max baseChoreoS (blendS + (baseChoreoS - baseBlendS)))
      (yawUnder limits revolutions)) (orbitUnder limits spreadM blendS revolutions orbitReachM)
    landS := max (max baseLandS (spreadM / cruise / landReturnFraction))
      (climbM / cruise / (1 - landReturnFraction)) }

end

/-- `plan_pacing`. -/
def planPacingUnder [FloorRing K] (limits : SafetyLimits K) (numDrones : ℕ)
    (climbM spreadM revolutions orbitReachM : K) : Except String (ShowPacing K) := do
  checkFleetSize numDrones
  checkNonNegative "climb_m" climbM
  checkNonNegative "spread_m" spreadM
  checkNonNegative "revolutions" revolutions
  checkNonNegative "orbit_reach_m" orbitReachM
  .ok (pacingUnder limits climbM spreadM revolutions orbitReachM)

/-- What `plan_pacing` accepts. -/
structure Accepted (climbM spreadM revolutions orbitReachM : K) : Prop where
  climb : 0 ≤ climbM
  spread : 0 ≤ spreadM
  revolutions : 0 ≤ revolutions
  orbitReach : 0 ≤ orbitReachM

lemma planPacingUnder_of_accepted [FloorRing K] (limits : SafetyLimits K) {numDrones : ℕ}
    (hfleet : 1 ≤ numDrones ∧ numDrones ≤ maxFleetSize)
    {climbM spreadM revolutions orbitReachM : K}
    (h : Accepted climbM spreadM revolutions orbitReachM) :
    planPacingUnder limits numDrones climbM spreadM revolutions orbitReachM =
      .ok (pacingUnder limits climbM spreadM revolutions orbitReachM) := by
  have hcheck : ∀ {name : String} {value : K}, 0 ≤ value → checkNonNegative name value = .ok () :=
    fun hvalue => if_neg (not_lt.mpr hvalue)
  refine bind_eq_ok.mpr ⟨(), if_pos hfleet, ?_⟩
  refine bind_eq_ok.mpr ⟨(), hcheck h.climb, ?_⟩
  refine bind_eq_ok.mpr ⟨(), hcheck h.spread, ?_⟩
  refine bind_eq_ok.mpr ⟨(), hcheck h.revolutions, ?_⟩
  exact bind_eq_ok.mpr ⟨(), hcheck h.orbitReach, rfl⟩

lemma planPacingUnder_eq_ok [FloorRing K] {limits : SafetyLimits K} {numDrones : ℕ}
    {climbM spreadM revolutions orbitReachM : K} {pacing : ShowPacing K}
    (h : planPacingUnder limits numDrones climbM spreadM revolutions orbitReachM = .ok pacing) :
    Accepted climbM spreadM revolutions orbitReachM ∧
      pacing = pacingUnder limits climbM spreadM revolutions orbitReachM := by
  obtain ⟨-, -, h⟩ := bind_eq_ok.mp h
  obtain ⟨⟨⟩, hclimb, h⟩ := bind_eq_ok.mp h
  obtain ⟨⟨⟩, hspread, h⟩ := bind_eq_ok.mp h
  obtain ⟨⟨⟩, hrevolutions, h⟩ := bind_eq_ok.mp h
  obtain ⟨⟨⟩, hreach, h⟩ := bind_eq_ok.mp h
  refine ⟨⟨checkNonNegative_eq_ok hclimb, checkNonNegative_eq_ok hspread,
    checkNonNegative_eq_ok hrevolutions, checkNonNegative_eq_ok hreach⟩, ?_⟩
  exact (Except.ok.inj h).symm

end

/-! ## The easing -/

/-- The polynomial of `quintic_profile`, and its slope. -/
def profile (r : ℝ) : ℝ := 6 * r ^ 5 - 15 * r ^ 4 + 10 * r ^ 3

def slope (r : ℝ) : ℝ := 30 * r ^ 4 - 60 * r ^ 3 + 30 * r ^ 2

lemma ease_eq_held : (ease : ℝ → ℝ) = held profile := rfl

lemma hasDerivAt_profile (r : ℝ) : HasDerivAt profile (slope r) r := by
  have hfive := ((hasDerivAt_pow 5 r).const_mul 6)
  have hfour := ((hasDerivAt_pow 4 r).const_mul 15)
  have hthree := ((hasDerivAt_pow 3 r).const_mul 10)
  refine ((hfive.sub hfour).add hthree).congr_deriv ?_
  unfold slope
  norm_num
  ring

/-- The second entry of `quintic_profile` is the slope of the easing everywhere. -/
lemma hasDerivAt_ease (r : ℝ) : HasDerivAt ease (held slope r) r := by
  rw [ease_eq_held]
  refine hasDerivAt_held (fun s _ => hasDerivAt_profile s) ?_ ?_ r
  · norm_num [slope]
  · norm_num [slope]

noncomputable def easePeak : ℝ := sSup (range (deriv ease))

lemma slope_eq (r : ℝ) : slope r = 30 * (r * (1 - r)) ^ 2 := by
  unfold slope
  ring

lemma isGreatest_slope : IsGreatest (slope '' Icc 0 1) (15 / 8) := by
  refine ⟨⟨1 / 2, by norm_num, by norm_num [slope]⟩, ?_⟩
  rintro _ ⟨r, ⟨h0, h1⟩, rfl⟩
  have hquarter : r * (1 - r) ≤ 1 / 4 := by nlinarith [sq_nonneg (r - 1 / 2)]
  have hsq : (r * (1 - r)) ^ 2 ≤ (1 / 4) ^ 2 :=
    pow_le_pow_left₀ (mul_nonneg h0 (sub_nonneg.mpr h1)) hquarter 2
  rw [slope_eq]
  linarith

lemma easePeak_eq : easePeak = 15 / 8 := by
  have hderiv : deriv (ease : ℝ → ℝ) = held slope := funext fun r => (hasDerivAt_ease r).deriv
  rw [easePeak, hderiv]
  exact (isGreatest_held isGreatest_slope).csSup_eq

lemma slope_nonneg (r : ℝ) : 0 ≤ slope r := by
  rw [slope_eq]
  positivity

lemma abs_held_slope_le (r : ℝ) : |held slope r| ≤ 15 / 8 := by
  have hnonneg : 0 ≤ held slope r := slope_nonneg _
  rw [abs_of_nonneg hnonneg]
  exact (isGreatest_held isGreatest_slope).2 ⟨r, rfl⟩

/-- What the speed budgets take of a ramp: it goes from 0 to 1 and never back, its slope is at
most `peak`, and what is returned beside the position are its derivatives. -/
structure IsRamp (ramp : ℝ → ℝ × ℝ × ℝ × ℝ) (peak : ℝ) : Prop where
  mem : ∀ r, (ramp r).1 ∈ Icc (0 : ℝ) 1
  before : ∀ r ≤ 0, (ramp r).1 = 0
  after : ∀ r, 1 ≤ r → (ramp r).1 = 1
  monotone : Monotone fun r => (ramp r).1
  slope_le : ∀ r, deriv (fun s => (ramp s).1) r ≤ peak
  lipschitz : ∀ a b, |(ramp a).1 - (ramp b).1| ≤ peak * |a - b|
  velocity : ∀ r ∈ Ioo (0 : ℝ) 1, HasDerivAt (fun s => (ramp s).1) (ramp r).2.1 r
  acceleration : ∀ r ∈ Ioo (0 : ℝ) 1, HasDerivAt (fun s => (ramp s).2.1) (ramp r).2.2.1 r
  jerk : ∀ r ∈ Ioo (0 : ℝ) 1, HasDerivAt (fun s => (ramp s).2.2.1) (ramp r).2.2.2 r

def bend (r : ℝ) : ℝ := 120 * r ^ 3 - 180 * r ^ 2 + 60 * r

lemma hasDerivAt_slope (r : ℝ) : HasDerivAt slope (bend r) r := by
  have hfour := (hasDerivAt_pow 4 r).const_mul 30
  have hthree := (hasDerivAt_pow 3 r).const_mul 60
  have htwo := (hasDerivAt_pow 2 r).const_mul 30
  refine ((hfour.sub hthree).add htwo).congr_deriv ?_
  unfold bend
  norm_num
  ring

lemma hasDerivAt_bend (r : ℝ) : HasDerivAt bend (360 * r ^ 2 - 360 * r + 60) r := by
  have hthree := (hasDerivAt_pow 3 r).const_mul 120
  have htwo := (hasDerivAt_pow 2 r).const_mul 180
  have hone := (hasDerivAt_id r).const_mul 60
  refine ((hthree.sub htwo).add hone).congr_deriv ?_
  norm_num
  ring

lemma profile_eq_minJerk : profile = minJerk := by
  funext r
  unfold profile minJerk
  ring

lemma quinticProfile_eq {r : ℝ} (hr : r ∈ Ioo (0 : ℝ) 1) :
    quinticProfile r = (profile r, slope r, bend r, 360 * r ^ 2 - 360 * r + 60) := by
  unfold quinticProfile
  rw [max_eq_right hr.1.le, min_eq_right hr.2.le]
  rfl

lemma abs_ease_sub_le (a b : ℝ) : |ease a - ease b| ≤ 15 / 8 * |a - b| :=
  Convex.norm_image_sub_le_of_norm_hasDerivWithin_le
    (fun r _ => (hasDerivAt_ease r).hasDerivWithinAt) (fun r _ => abs_held_slope_le r)
    convex_univ (Set.mem_univ b) (Set.mem_univ a)

lemma isRamp_quinticProfile : IsRamp quinticProfile (15 / 8) where
  mem r := by
    have hr : min 1 (max 0 r) ∈ Icc (0 : ℝ) 1 :=
      ⟨le_min zero_le_one (le_max_left _ _), min_le_left _ _⟩
    show held profile r ∈ Icc (0 : ℝ) 1
    rw [profile_eq_minJerk]
    exact minJerk_mem hr.1 hr.2
  before r hr := by
    refine (held_of_nonpos profile hr).trans ?_
    norm_num [profile]
  after r hr := by
    refine (held_of_one_le profile hr).trans ?_
    norm_num [profile]
  monotone := by
    refine monotone_of_deriv_nonneg (fun r => (hasDerivAt_ease r).differentiableAt) fun r => ?_
    exact (slope_nonneg _).trans_eq (hasDerivAt_ease r).deriv.symm
  slope_le r := (hasDerivAt_ease r).deriv.trans_le (le_of_abs_le (abs_held_slope_le r))
  lipschitz := abs_ease_sub_le
  velocity r _ := hasDerivAt_ease r
  acceleration r hr := by
    rw [quinticProfile_eq hr]
    exact hasDerivAt_held_inside (hasDerivAt_slope r) hr
  jerk r hr := by
    rw [quinticProfile_eq hr]
    exact hasDerivAt_held_inside (hasDerivAt_bend r) hr

/-- The profile is such a ramp; between 0 and 1 it is the one of the start bridge, which has
just the peak that the bridge counts with. -/
theorem quinticProfile_isRamp_minJerk : IsRamp quinticProfile (15 / 8) ∧
    (∀ r ∈ Icc (0 : ℝ) 1, (quinticProfile r).1 = minJerk r) ∧
    IsGreatest (deriv minJerk '' Icc (0 : ℝ) 1) minJerkPeakFactor := by
  refine ⟨isRamp_quinticProfile, fun r hr => ?_, ?_⟩
  · rw [← profile_eq_minJerk]
    exact held_of_mem profile hr
  · have hderiv : deriv (minJerk : ℝ → ℝ) = slope := by
      rw [← profile_eq_minJerk]
      exact funext fun r => (hasDerivAt_profile r).deriv
    rw [hderiv]
    exact isGreatest_slope

variable {limits : SafetyLimits ℝ} {climbM spreadM revolutions orbitReachM : ℝ}
  {pacing : ShowPacing ℝ}

lemma cruiseUnder_pos (limits : SafetyLimits ℝ) : 0 < cruiseUnder limits :=
  mul_pos limits.all_pos.2.1 (by norm_num [cruiseFraction])

lemma eased_speed_le {d D T : ℝ} (hT : 0 < T) (hpaced : D / cruiseUnder limits ≤ T)
    (hd : |d| ≤ D) (r : ℝ) : |held slope r * (d / T)| ≤ limits.maxVelocityMs := by
  have hmean : |d| / T ≤ cruiseUnder limits :=
    (div_le_div_of_nonneg_right hd hT.le).trans
      ((div_le_comm₀ (cruiseUnder_pos limits) hT).mp hpaced)
  have hlimit := limits.all_pos.2.1
  calc |held slope r * (d / T)|
      = |held slope r| * (|d| / T) := by rw [abs_mul, abs_div, abs_of_pos hT]
    _ ≤ 15 / 8 * cruiseUnder limits :=
        mul_le_mul (abs_held_slope_le r) hmean (div_nonneg (abs_nonneg d) hT.le) (by norm_num)
    _ ≤ limits.maxVelocityMs := by
        rw [cruiseUnder, cruiseFraction]
        linarith

lemma ease_min_div {u share : ℝ} (hpos : 0 < share) (hle : share ≤ 1) :
    ease (min 1 u / share) = ease (u / share) := by
  rcases le_total u 1 with hu | hu
  · rw [min_eq_right hu]
  · have hend : 1 ≤ 1 / share := by rwa [le_div_iff₀ hpos, one_mul]
    rw [min_eq_left hu, ease_of_one_le hend,
      ease_of_one_le (hend.trans (div_le_div_of_nonneg_right hu hpos.le))]

lemma ease_return (pacing : ShowPacing ℝ) (t : ℝ) : ease (landRatio pacing t / landReturnFraction) =
      ease ((t - pacing.landStartS) / (pacing.landS * landReturnFraction)) := by
  have hpos : (0 : ℝ) < landReturnFraction := by norm_num [landReturnFraction]
  have hle : (landReturnFraction : ℝ) ≤ 1 := by norm_num [landReturnFraction]
  rw [landRatio, ease_min_div hpos hle, div_div]

lemma ease_descend (hland : 0 < pacing.landS) (t : ℝ) :
    ease ((landRatio pacing t - landReturnFraction) / (1 - landReturnFraction)) =
      ease ((t - (pacing.landStartS + pacing.landS * landReturnFraction)) /
        (pacing.landS * (1 - landReturnFraction))) := by
  have hfraction : (landReturnFraction : ℝ) = 6 / 10 := rfl
  have hshare : ∀ u : ℝ, (u - landReturnFraction) / (1 - landReturnFraction) = (5 * u - 3) / 2 := by
    intro u
    rw [hfraction]
    ring
  have hclock : (t - (pacing.landStartS + pacing.landS * landReturnFraction)) /
      (pacing.landS * (1 - landReturnFraction)) =
        (5 * ((t - pacing.landStartS) / pacing.landS) - 3) / 2 := by
    rw [hfraction]
    field_simp
    ring
  rw [hshare, hclock, landRatio]
  rcases le_total ((t - pacing.landStartS) / pacing.landS) 1 with hu | hu
  · rw [min_eq_right hu]
  · rw [min_eq_left hu, ease_of_one_le (by norm_num), ease_of_one_le (by linarith)]

/-! ## The budget -/

/-- The speeds of a paced show: of a climb to any height it was paced for, of any return and any
descent, and of the blend and the orbit together where an orbit is granted. -/
structure WithinBudget (limits : SafetyLimits ℝ)
    (climbM spreadM revolutions orbitReachM : ℝ) (pacing : ShowPacing ℝ) : Prop where
  climb : ∀ height, |height| ≤ climbM → ∀ t, ∃ speed,
    HasDerivAt (fun t => height * ease (t / pacing.takeoffS)) speed t ∧
      |speed| ≤ limits.maxVelocityMs
  landingReturn : ∀ pad entry, hypot2 (pad.x - entry.x) (pad.y - entry.y) ≤ spreadM → ∀ t, ∃ vx vy,
    HasDerivAt (fun t => (landWaypoint (landRatio pacing t) pad entry).1.x) vx t ∧
      HasDerivAt (fun t => (landWaypoint (landRatio pacing t) pad entry).1.y) vy t ∧
      hypot2 vx vy ≤ limits.maxVelocityMs
  descent : ∀ pad entry, |entry.z| ≤ climbM → ∀ t, ∃ vz,
    HasDerivAt (fun t => (landWaypoint (landRatio pacing t) pad entry).1.z) vz t ∧
      |vz| ≤ limits.maxVelocityMs
  orbit : 0 < orbitUnder limits spreadM pacing.blendS revolutions orbitReachM →
    easePeak * (spreadM / pacing.blendS) +
      2 * pi * orbitReachM * revolutions / pacing.choreoS ≤ 9 / 10 * limits.maxVelocityMs

/-- What the steepest slope of the blend leaves for an orbit. -/
noncomputable def orbitRoom (limits : SafetyLimits ℝ) (spreadM : ℝ) : ℝ :=
  9 / 10 * limits.maxVelocityMs - 15 / 8 * min (spreadM / baseBlendS) (cruiseUnder limits)

/-- No orbit is asked for, or the blend leaves it the speed that an orbit may have at most, or
its ring is small enough for the turns of the heading or for the rest of the choreography. -/
def OrbitFits (limits : SafetyLimits ℝ) (spreadM revolutions orbitReachM : ℝ) : Prop :=
  orbitReachM = 0 ∨ revolutions = 0 ∨ spreadM = 0 ∨ maxOrbitSpeedMs ≤ orbitRoom limits spreadM ∨
    2 * pi * orbitReachM * (limits.maxYawRateDps * cruiseYawFraction / 360) ≤
      orbitRoom limits spreadM ∨
    2 * pi * orbitReachM * revolutions ≤ orbitRoom limits spreadM *
      (max baseBlendS (spreadM / cruiseUnder limits) + (baseChoreoS - baseBlendS))

/-- The lengths that the distances ask for. -/
structure LongEnough (limits : SafetyLimits ℝ) (climbM spreadM : ℝ) (pacing : ShowPacing ℝ) :
    Prop where
  takeoff_pos : 0 < pacing.takeoffS
  land_pos : 0 < pacing.landS
  climb : climbM / cruiseUnder limits ≤ pacing.takeoffS
  landingReturn : spreadM / cruiseUnder limits ≤ pacing.landS * landReturnFraction
  descent : climbM / cruiseUnder limits ≤ pacing.landS * (1 - landReturnFraction)

lemma pacingUnder_longEnough (limits : SafetyLimits ℝ)
    (climbM spreadM revolutions orbitReachM : ℝ) :
    LongEnough limits climbM spreadM
      (pacingUnder limits climbM spreadM revolutions orbitReachM) := by
  have hreturn : (0 : ℝ) < landReturnFraction := by norm_num [landReturnFraction]
  have hdescend : (0 : ℝ) < 1 - landReturnFraction := by norm_num [landReturnFraction]
  constructor
  · exact lt_max_of_lt_left (by norm_num [baseTakeoffS])
  · exact lt_max_of_lt_left (lt_max_of_lt_left (by norm_num [baseLandS]))
  · exact le_max_right _ _
  · exact (div_le_iff₀ hreturn).mp (le_max_of_le_left (le_max_right _ _))
  · exact (div_le_iff₀ hdescend).mp (le_max_right _ _)

lemma eased_motion {d D T : ℝ} (hT : 0 < T) (hpaced : D / cruiseUnder limits ≤ T)
    (hd : |d| ≤ D) (from₀ t₀ t : ℝ) : ∃ speed,
    HasDerivAt (fun t => from₀ + ease ((t - t₀) / T) * d) speed t ∧
      |speed| ≤ limits.maxVelocityMs :=
  ⟨_, (hasDerivAt_along hasDerivAt_ease d t₀ T t).const_add from₀, eased_speed_le hT hpaced hd _⟩

lemma LongEnough.climb_within (h : LongEnough limits climbM spreadM pacing) {height : ℝ}
    (hheight : |height| ≤ climbM) (t : ℝ) : ∃ speed,
    HasDerivAt (fun t => height * ease (t / pacing.takeoffS)) speed t ∧
      |speed| ≤ limits.maxVelocityMs := by
  have hmotion := eased_motion h.takeoff_pos h.climb hheight 0 0 t
  have hheights : (fun t => height * ease (t / pacing.takeoffS)) =
      fun t => 0 + ease ((t - 0) / pacing.takeoffS) * height := by
    funext t
    rw [sub_zero, zero_add, mul_comm]
  rwa [hheights]

lemma hypot2_mul (c x y : ℝ) : hypot2 (c * x) (c * y) = |c| * hypot2 x y := by
  change √_ = |c| * √_
  rw [← Real.sqrt_sq_eq_abs, ← Real.sqrt_mul (sq_nonneg c)]
  congr 1
  ring

lemma LongEnough.return_within (h : LongEnough limits climbM spreadM pacing) {pad : Point ℝ}
    {entry : Waypoint ℝ} (hway : hypot2 (pad.x - entry.x) (pad.y - entry.y) ≤ spreadM) (t : ℝ) :
    ∃ vx vy, HasDerivAt (fun t => (landWaypoint (landRatio pacing t) pad entry).1.x) vx t ∧
      HasDerivAt (fun t => (landWaypoint (landRatio pacing t) pad entry).1.y) vy t ∧
      hypot2 vx vy ≤ limits.maxVelocityMs := by
  have hpos : 0 < pacing.landS * landReturnFraction :=
    mul_pos h.land_pos (by norm_num [landReturnFraction])
  have hnonneg : 0 ≤ hypot2 (pad.x - entry.x) (pad.y - entry.y) := Real.sqrt_nonneg _
  have halong := fun d => hasDerivAt_along hasDerivAt_ease d pacing.landStartS
    (pacing.landS * landReturnFraction) t
  refine ⟨_, _, ((halong (pad.x - entry.x)).const_add entry.x).congr_of_eventuallyEq
    (.of_forall fun t => ?_), ((halong (pad.y - entry.y)).const_add entry.y).congr_of_eventuallyEq
    (.of_forall fun t => ?_), ?_⟩
  · simp only [landWaypoint, ease_return]
  · simp only [landWaypoint, ease_return]
  · have hrate : ∀ r d T : ℝ, held slope r * (d / T) = held slope r / T * d := fun r d T => by ring
    rw [hrate, hrate, hypot2_mul, ← abs_of_nonneg hnonneg, ← abs_mul, ← hrate]
    exact eased_speed_le hpos h.landingReturn ((abs_of_nonneg hnonneg).trans_le hway) _

lemma LongEnough.descent_within (h : LongEnough limits climbM spreadM pacing) (pad : Point ℝ)
    {entry : Waypoint ℝ} (hheight : |entry.z| ≤ climbM) (t : ℝ) : ∃ vz,
    HasDerivAt (fun t => (landWaypoint (landRatio pacing t) pad entry).1.z) vz t ∧
      |vz| ≤ limits.maxVelocityMs := by
  have hpos : 0 < pacing.landS * (1 - landReturnFraction) :=
    mul_pos h.land_pos (by norm_num [landReturnFraction])
  have hdown : |-entry.z| ≤ climbM := by rwa [abs_neg]
  have hmotion := eased_motion hpos h.descent hdown entry.z
    (pacing.landStartS + pacing.landS * landReturnFraction) t
  have hheights : (fun t => (landWaypoint (landRatio pacing t) pad entry).1.z) =
      fun t => entry.z + ease ((t - (pacing.landStartS + pacing.landS * landReturnFraction)) /
        (pacing.landS * (1 - landReturnFraction))) * -entry.z := by
    funext t
    simp only [landWaypoint, ease_descend h.land_pos]
    ring
  rwa [hheights]

/-! ## The orbit -/

lemma div_blendS : spreadM / max baseBlendS (spreadM / cruiseUnder limits) =
    min (spreadM / baseBlendS) (cruiseUnder limits) := by
  have hcruise := cruiseUnder_pos limits
  have hbase : (0 : ℝ) < baseBlendS := by norm_num [baseBlendS]
  rcases le_total (spreadM / cruiseUnder limits) baseBlendS with hle | hle
  · rw [max_eq_left hle, min_eq_left ((div_le_comm₀ hcruise hbase).mp hle)]
  · have hpos : 0 < spreadM := by
      rw [le_div_iff₀ hcruise] at hle
      exact lt_of_lt_of_le (mul_pos hbase hcruise) hle
    rw [max_eq_right hle, min_eq_right ((le_div_comm₀ hbase hcruise).mp hle),
      div_div_cancel₀ hpos.ne']

lemma orbitRoom_pos (limits : SafetyLimits ℝ) (spreadM : ℝ) : 0 < orbitRoom limits spreadM := by
  have hlimit := limits.all_pos.2.1
  have hmean : min (spreadM / baseBlendS) (cruiseUnder limits) ≤ limits.maxVelocityMs * (4 / 10) :=
    min_le_right _ _
  unfold orbitRoom
  linarith

lemma orbitSpeedBudget_pos (limits : SafetyLimits ℝ) (spreadM : ℝ) :
    0 < orbitSpeedBudget limits spreadM (max baseBlendS (spreadM / cruiseUnder limits)) := by
  have hlimit := limits.all_pos.2.1
  have hmean : min (spreadM / baseBlendS) (cruiseUnder limits) ≤ limits.maxVelocityMs * (4 / 10) :=
    min_le_right _ _
  refine lt_min (by norm_num [maxOrbitSpeedMs]) ?_
  rw [mul_div_assoc, div_blendS]
  linarith

/-- The budget is what the blend leaves just when the blend is slow or stands still. -/
lemma orbitSpeedBudget_le_iff (hspread : 0 ≤ spreadM) :
    orbitSpeedBudget limits spreadM (max baseBlendS (spreadM / cruiseUnder limits)) ≤
      orbitRoom limits spreadM ↔ spreadM = 0 ∨ maxOrbitSpeedMs ≤ orbitRoom limits spreadM := by
  have hcruise := cruiseUnder_pos limits
  rw [orbitSpeedBudget, mul_div_assoc, div_blendS, min_le_iff, or_comm]
  refine or_congr ?_ Iff.rfl
  rw [orbitRoom]
  constructor
  · intro hle
    have hmean : min (spreadM / baseBlendS) (cruiseUnder limits) ≤ 0 := by linarith
    rcases min_le_iff.mp hmean with hzero | hzero
    · rw [baseBlendS] at hzero
      linarith
    · exact absurd hzero (not_le.mpr hcruise)
  · rintro rfl
    rw [zero_div, min_eq_left hcruise.le]
    norm_num

lemma le_mul_orbit_iff {way budget room : ℝ} (hway : 0 < way) (hbudget : 0 < budget) :
    way ≤ room * (way / budget) ↔ budget ≤ room := by
  rw [← mul_div_assoc, le_div_iff₀ hbudget, mul_comm room, mul_le_mul_iff_right₀ hway]

lemma le_mul_turns_iff {reach turns rate room : ℝ} (hturns : 0 < turns) (hrate : 0 < rate) :
    reach * turns ≤ room * (360 * turns / rate) ↔ reach * (rate / 360) ≤ room := by
  have hleft : reach * turns = reach * (rate / 360) * (360 * turns / rate) := by
    field_simp
  rw [hleft, mul_le_mul_iff_left₀ (by positivity)]

lemma orbitUnder_eq (limits : SafetyLimits ℝ) (spreadM : ℝ) (hreach : 0 < orbitReachM)
    (hturns : 0 < revolutions) :
    orbitUnder limits spreadM (max baseBlendS (spreadM / cruiseUnder limits)) revolutions
        orbitReachM = 2 * pi * orbitReachM * revolutions /
      orbitSpeedBudget limits spreadM (max baseBlendS (spreadM / cruiseUnder limits)) := by
  rw [orbitUnder, if_pos ⟨hreach, hturns⟩, if_pos (orbitSpeedBudget_pos limits spreadM)]

lemma orbitWay_pos (hreach : 0 < orbitReachM) (hturns : 0 < revolutions) :
    0 < 2 * pi * orbitReachM * revolutions := by
  have hpi : (0 : ℝ) < pi := by norm_num [pi]
  positivity

/-- The longest of the four bounds on the window decides whether it is long enough for what the
blend leaves. -/
lemma orbit_speed_le_iff (h : Accepted climbM spreadM revolutions orbitReachM)
    (hreach : 0 < orbitReachM) (hturns : 0 < revolutions) :
    2 * pi * orbitReachM * revolutions /
        (pacingUnder limits climbM spreadM revolutions orbitReachM).choreoS ≤
      orbitRoom limits spreadM ↔ OrbitFits limits spreadM revolutions orbitReachM := by
  have hroom := orbitRoom_pos limits spreadM
  have hrate : 0 < limits.maxYawRateDps * cruiseYawFraction :=
    mul_pos limits.all_pos.2.2.2.1 (by norm_num [cruiseYawFraction])
  have hblend : (baseBlendS : ℝ) ≤ max baseBlendS (spreadM / cruiseUnder limits) := le_max_left _ _
  have hwindow : (baseChoreoS : ℝ) ≤
      max baseBlendS (spreadM / cruiseUnder limits) + (baseChoreoS - baseBlendS) := by linarith
  have hchoreo : 0 < (pacingUnder limits climbM spreadM revolutions orbitReachM).choreoS :=
    lt_max_of_lt_left (lt_max_of_lt_left (lt_max_of_lt_left (by norm_num [baseChoreoS])))
  rw [div_le_iff₀ hchoreo, pacingUnder]
  dsimp only
  rw [max_eq_right hwindow, orbitUnder_eq limits spreadM hreach hturns, yawUnder, if_pos hturns,
    mul_max_of_nonneg _ _ hroom.le, mul_max_of_nonneg _ _ hroom.le, le_max_iff, le_max_iff,
    le_mul_orbit_iff (orbitWay_pos hreach hturns) (orbitSpeedBudget_pos limits spreadM),
    le_mul_turns_iff hturns hrate, orbitSpeedBudget_le_iff h.spread, OrbitFits]
  constructor
  · rintro ((hlong | hturn) | hzero | hslow)
    · exact .inr (.inr (.inr (.inr (.inr hlong))))
    · exact .inr (.inr (.inr (.inr (.inl hturn))))
    · exact .inr (.inr (.inl hzero))
    · exact .inr (.inr (.inr (.inl hslow)))
  · rintro (hnone | hnone | hzero | hslow | hturn | hlong)
    · exact absurd hnone hreach.ne'
    · exact absurd hnone hturns.ne'
    · exact .inr (.inl hzero)
    · exact .inr (.inr hslow)
    · exact .inl (.inr hturn)
    · exact .inl (.inl hlong)

lemma orbit_within_iff (h : Accepted climbM spreadM revolutions orbitReachM) :
    (0 < orbitUnder limits spreadM (pacingUnder limits climbM spreadM revolutions
        orbitReachM).blendS revolutions orbitReachM →
      easePeak * (spreadM / (pacingUnder limits climbM spreadM revolutions orbitReachM).blendS) +
        2 * pi * orbitReachM * revolutions /
          (pacingUnder limits climbM spreadM revolutions orbitReachM).choreoS ≤
        9 / 10 * limits.maxVelocityMs) ↔ OrbitFits limits spreadM revolutions orbitReachM := by
  have hblend : (pacingUnder limits climbM spreadM revolutions orbitReachM).blendS =
      max baseBlendS (spreadM / cruiseUnder limits) := rfl
  rw [hblend]
  by_cases hasked : 0 < orbitReachM ∧ 0 < revolutions
  · obtain ⟨hreach, hturns⟩ := hasked
    have hgranted : 0 < orbitUnder limits spreadM (max baseBlendS (spreadM / cruiseUnder limits))
        revolutions orbitReachM := by
      rw [orbitUnder_eq limits spreadM hreach hturns]
      exact div_pos (orbitWay_pos hreach hturns) (orbitSpeedBudget_pos limits spreadM)
    have hpeak : easePeak * (spreadM / max baseBlendS (spreadM / cruiseUnder limits)) =
        9 / 10 * limits.maxVelocityMs - orbitRoom limits spreadM := by
      rw [easePeak_eq, div_blendS, orbitRoom, sub_sub_cancel]
    rw [forall_prop_of_true hgranted, hpeak, add_comm, ← le_sub_iff_add_le, sub_sub_cancel]
    exact orbit_speed_le_iff h hreach hturns
  · have hnone : orbitUnder limits spreadM (max baseBlendS (spreadM / cruiseUnder limits))
        revolutions orbitReachM = 0 := if_neg hasked
    rw [hnone]
    refine ⟨fun _ => ?_, fun _ hpos => absurd hpos (lt_irrefl 0)⟩
    rcases h.orbitReach.eq_or_lt with hreach | hreach
    · exact .inl hreach.symm
    · refine .inr (.inl (le_antisymm ?_ h.revolutions))
      exact not_lt.mp fun hturns => hasked ⟨hreach, hturns⟩

/-- A planned show keeps to the speeds of its pacing exactly where its orbit fits. -/
theorem within_budget_iff {numDrones : ℕ}
    (h : planPacingUnder limits numDrones climbM spreadM revolutions orbitReachM = .ok pacing) :
    WithinBudget limits climbM spreadM revolutions orbitReachM pacing ↔
      OrbitFits limits spreadM revolutions orbitReachM := by
  obtain ⟨haccepted, rfl⟩ := planPacingUnder_eq_ok h
  have hlong := pacingUnder_longEnough limits climbM spreadM revolutions orbitReachM
  constructor
  · exact fun hbudget => (orbit_within_iff haccepted).mp hbudget.orbit
  · intro hfits
    constructor
    · exact fun height hheight t => hlong.climb_within hheight t
    · exact fun pad entry hway t => hlong.return_within hway t
    · exact fun pad entry hheight t => hlong.descent_within pad hheight t
    · exact (orbit_within_iff haccepted).mpr hfits

/-- Three drones that fly three metres into a ring of four. -/
theorem within_budget_small_ring : ∃ pacing, planPacingUnder defaultLimits 3 6 3 1 4 = .ok pacing ∧
      WithinBudget defaultLimits 6 3 1 4 pacing := by
  have haccepted : Accepted (6 : ℝ) 3 1 4 := ⟨by norm_num, by norm_num, by norm_num, by norm_num⟩
  have hplan := planPacingUnder_of_accepted defaultLimits
    (show 1 ≤ 3 ∧ 3 ≤ maxFleetSize by decide) haccepted
  refine ⟨_, hplan, (within_budget_iff hplan).mpr (.inr (.inr (.inr (.inl ?_))))⟩
  norm_num [orbitRoom, maxOrbitSpeedMs, cruiseUnder, cruiseFraction, baseBlendS, defaultLimits]

/-- Ten drones that fly 24 metres into a ring of ten: 4.5 m/s along the blend, and 1.8 around. -/
theorem wide_ring_over_budget : ∃ pacing, planPacingUnder defaultLimits 10 10 24 1 10 = .ok pacing ∧
      ¬ WithinBudget defaultLimits 10 24 1 10 pacing := by
  have haccepted : Accepted (10 : ℝ) 24 1 10 := ⟨by norm_num, by norm_num, by norm_num, by norm_num⟩
  refine ⟨_, planPacingUnder_of_accepted defaultLimits (by decide) haccepted, fun hbudget => ?_⟩
  have hfits := (orbit_within_iff haccepted).mp hbudget.orbit
  have hroom : orbitRoom defaultLimits 24 = 9 / 10 := by
    norm_num [orbitRoom, cruiseUnder, cruiseFraction, baseBlendS, defaultLimits]
  rw [OrbitFits, hroom] at hfits
  norm_num [maxOrbitSpeedMs, pi, cruiseYawFraction, cruiseUnder, cruiseFraction, baseBlendS,
    baseChoreoS, defaultLimits] at hfits

end Taramandal.Studio.PacedSpeeds
