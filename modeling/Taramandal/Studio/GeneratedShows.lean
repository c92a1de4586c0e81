import Taramandal.Studio.Generator

/-! # Where generated shows start and end

The tracks of a generated show in closed form, and from it exactly when every one of them starts
and ends on its pad: the last step is the number of steps of the paced length rounded to the
nearest one, so it can fall short of the landing. -/
set_option linter.unusedSectionVars false

namespace Taramandal.Studio.GeneratedShows

open Lib.Check Core.Numbers Core.Geometry Studio.Layout Studio.Pacing Studio.Generator

variable {K : Type} [Field K] [LinearOrder K] [IsStrictOrderedRing K]

/-! ## Easing and rounding -/

lemma ease_of_nonpos {ratio : K} (h : ratio ≤ 0) : ease ratio = 0 := by
  simp [ease, quinticProfile, max_eq_left h]

lemma ease_of_one_le {ratio : K} (h : 1 ≤ ratio) : ease ratio = 1 := by
  have hmax : max 0 ratio = ratio := max_eq_right (zero_le_one.trans h)
  simp only [ease, quinticProfile, hmax, min_eq_left h]
  norm_num

section

variable [FloorRing K]

lemma roundTo_roundTo (digits : ℕ) (x : K) :
    roundTo digits (roundTo digits x) = roundTo digits x := by
  have hpos : (10 : K) ^ digits ≠ 0 := pow_ne_zero _ (by norm_num)
  rw [roundTo, roundTo, div_mul_cancel₀ _ hpos, roundHalfEven_intCast]

lemma roundHalfEven_eq_zero {x : K} (h : |x| ≤ 1 / 2) : roundHalfEven x = 0 := by
  have hhalf : ⌊(1 / 2 : K)⌋ = 0 := by
    rw [Int.floor_eq_iff]
    norm_num
  have hminus : ⌊(-(1 / 2) : K)⌋ = -1 := by
    rw [Int.floor_eq_iff]
    norm_num
  obtain ⟨hlow, hhigh⟩ := abs_le.mp h
  have hup := roundHalfEven_mono hhigh
  have hdown := roundHalfEven_mono hlow
  have hone : roundHalfEven (1 / 2 : K) = 0 := by
    unfold roundHalfEven
    rw [hhalf]
    norm_num
  have hneg : roundHalfEven (-(1 / 2) : K) = 0 := by
    unfold roundHalfEven
    rw [hminus]
    norm_num
  omega

lemma roundTo_two_eq_zero_iff {x : K} : roundTo 2 x = 0 ↔ |x| ≤ 1 / 200 := by
  have hscale : |x * 10 ^ 2| = |x| * 100 := by
    rw [abs_mul]
    norm_num
  constructor
  · intro h
    have hround : roundHalfEven (x * 10 ^ 2) = 0 := by
      have hzero := (div_eq_zero_iff.mp h).resolve_right (by norm_num)
      exact_mod_cast hzero
    have hnear := abs_roundHalfEven_sub_le (x * 10 ^ 2)
    rw [hround, Int.cast_zero, zero_sub, abs_neg, hscale] at hnear
    linarith
  · intro h
    rw [roundTo, roundHalfEven_eq_zero (by rw [hscale]; linarith)]
    simp

lemma fmod_eq_self {a b : K} (hnonneg : 0 ≤ a) (hlt : a < b) : fmod a b = a :=
  fmod_eq hnonneg hlt 0 (by simp)

lemma wrapHeading_tenths (deg : K) : ∃ tenths : ℤ, wrapHeading deg = tenths / 10 := by
  refine ⟨roundHalfEven (fmod deg 360 * 10 ^ 1) - 3600 * ⌊roundTo 1 (fmod deg 360) / (360 : K)⌋, ?_⟩
  rw [wrapHeading, fmod]
  nth_rewrite 1 [roundTo]
  push_cast
  ring

lemma wrapHeading_wrapHeading (deg : K) : wrapHeading (wrapHeading deg) = wrapHeading deg := by
  have hnonneg : 0 ≤ wrapHeading deg := fmod_nonneg (by norm_num)
  have hlt : wrapHeading deg < 360 := fmod_lt (by norm_num)
  have hself := fmod_eq_self hnonneg hlt
  have hround : roundTo 1 (wrapHeading deg) = wrapHeading deg := by
    obtain ⟨tenths, htenths⟩ := wrapHeading_tenths deg
    rw [htenths, roundTo, pow_one, div_mul_cancel₀ _ (by norm_num), roundHalfEven_intCast]
  rw [wrapHeading, hself, hround, hself]

lemma blendYaw_zero (deg : K) : blendYaw (wrapHeading deg) 0 0 = wrapHeading deg := by
  rw [blendYaw, mul_zero, add_zero, wrapHeading_wrapHeading]

lemma blendYaw_one (deg : K) : blendYaw deg 0 1 = 0 := by
  have hturns : deg + (fmod (0 - deg + 180) 360 - 180) * 1 =
      0 + 360 * (-⌊(0 - deg + 180) / (360 : K)⌋ : ℤ) := by
    rw [fmod]
    push_cast
    ring
  rw [blendYaw, wrapHeading, fmod_eq le_rfl (by norm_num) _ hturns]
  have hround : roundTo 1 (0 : K) = 0 := by simp [roundTo, roundHalfEven]
  rw [hround]
  simp [fmod]

end

section

variable [FloorRing K] {rate : K}

lemma roundTo_lt_roundTo_iff {x y : K} :
    roundTo 2 x < roundTo 2 y ↔ roundHalfEven (x * 10 ^ 2) < roundHalfEven (y * 10 ^ 2) := by
  rw [roundTo, roundTo, div_lt_div_iff_of_pos_right (by norm_num), Int.cast_lt]

lemma roundHalfEven_lt {x y : K} (h : x + 1 < y) : roundHalfEven x < roundHalfEven y := by
  have hx := abs_le.mp (abs_roundHalfEven_sub_le x)
  have hy := abs_le.mp (abs_roundHalfEven_sub_le y)
  have hlt : (roundHalfEven x : K) < roundHalfEven y := by linarith [hx.2, hy.1]
  exact_mod_cast hlt

lemma round_increases_of_slow (hrate : 0 < rate) (hslow : rate ≤ 100) (k : ℕ) :
    roundHalfEven ((k : K) / rate * 100) < roundHalfEven (((k + 1 : ℕ) : K) / rate * 100) := by
  rcases hslow.lt_or_eq with hlt | rfl
  · refine roundHalfEven_lt ?_
    have hstep : 1 < 100 / rate := by
      rw [lt_div_iff₀ hrate]
      linarith
    have hnext : ((k + 1 : ℕ) : K) / rate * 100 = (k : K) / rate * 100 + 100 / rate := by
      push_cast
      ring
    linarith
  · have hwhole (m : ℕ) : (m : K) / 100 * 100 = (m : ℤ) := by
      push_cast
      ring
    rw [hwhole, hwhole, roundHalfEven_intCast, roundHalfEven_intCast]
    omega

/-- Faster sampling is told apart as long as the samples round to their own number. -/
lemma round_eq_of_whole (hrate : 0 < rate) (hfast : 100 < rate) {steps : ℕ}
    (hwhole : roundHalfEven ((steps : K) / rate * 100) = steps) {k : ℕ} (hk : k < steps) :
    roundHalfEven ((k : K) / rate * 100) = k := by
  have hlast := abs_le.mp (abs_roundHalfEven_sub_le ((steps : K) / rate * 100))
  rw [hwhole, Int.cast_natCast] at hlast
  have hgap : 0 < 1 - 100 / rate := by
    rw [sub_pos, div_lt_one hrate]
    exact hfast
  have hsteps : (steps : K) * (1 - 100 / rate) ≤ 1 / 2 := by
    have hsame : (steps : K) / rate * 100 = steps * (100 / rate) := by ring
    rw [hsame] at hlast
    linarith [hlast.2]
  have hlt : (k : K) * (1 - 100 / rate) < steps * (1 - 100 / rate) :=
    mul_lt_mul_of_pos_right (by exact_mod_cast hk) hgap
  have hsame : (k : K) / rate * 100 = k - k * (1 - 100 / rate) := by ring
  have hnonneg : 0 ≤ (k : K) * (1 - 100 / rate) := mul_nonneg (Nat.cast_nonneg k) hgap.le
  have hround := abs_le.mp (abs_roundHalfEven_sub_le ((k : K) / rate * 100))
  have hup : roundHalfEven ((k : K) / rate * 100) < (k : ℤ) + 1 := by
    have h : (roundHalfEven ((k : K) / rate * 100) : K) < (k : K) + 1 := by linarith [hround.2]
    exact_mod_cast h
  have hdown : (k : ℤ) - 1 < roundHalfEven ((k : K) / rate * 100) := by
    have h : (k : K) - 1 < roundHalfEven ((k : K) / rate * 100) := by linarith [hround.1]
    exact_mod_cast h
  omega

lemma le_of_times_increase (f : ℕ → ℤ) (h0 : 0 ≤ f 0) {steps : ℕ}
    (h : ∀ k < steps, f k < f (k + 1)) : ∀ k ≤ steps, (k : ℤ) ≤ f k := by
  intro k
  induction k with
  | zero => exact fun _ => h0
  | succ k ih =>
    intro hk
    have hbefore := ih (by omega)
    have hstep := h k (by omega)
    push_cast
    omega

/-- The times are told apart exactly for the slow rates, and for a faster one only if its last
sample still rounds to its own number. -/
lemma times_increase_iff (hrate : 0 < rate) (steps : ℕ) :
    (∀ k < steps, roundTo 2 ((k : K) / rate) < roundTo 2 (((k + 1 : ℕ) : K) / rate)) ↔
      rate ≤ 100 ∨ roundHalfEven ((steps : K) / rate * 100) = steps := by
  have hsquare : (10 : K) ^ 2 = 100 := by norm_num
  simp only [roundTo_lt_roundTo_iff, hsquare]
  constructor
  · intro hincrease
    by_contra hnot
    obtain ⟨hfast, hround⟩ := not_or.mp hnot
    rw [not_le] at hfast
    refine hround (le_antisymm ?_ ?_)
    · -- the samples are less than a hundredth apart
      have hlast : (steps : K) / rate * 100 ≤ (steps : ℤ) := by
        rw [div_mul_eq_mul_div, div_le_iff₀ hrate, Int.cast_natCast]
        exact mul_le_mul_of_nonneg_left hfast.le (Nat.cast_nonneg steps)
      exact (roundHalfEven_mono hlast).trans_eq (roundHalfEven_intCast _)
    · refine le_of_times_increase (fun k => roundHalfEven ((k : K) / rate * 100)) ?_ hincrease
        steps le_rfl
      simp [roundHalfEven]
  · rintro (hslow | hwhole) k hk
    · exact round_increases_of_slow hrate hslow k
    · rcases le_or_gt rate 100 with hslow | hfast
      · exact round_increases_of_slow hrate hslow k
      · rw [round_eq_of_whole hrate hfast hwhole hk]
        rcases (Nat.succ_le_of_lt hk).lt_or_eq with hnext | hlast
        · rw [round_eq_of_whole hrate hfast hwhole hnext]
          omega
        · rw [← Nat.succ_eq_add_one, hlast, hwhole]
          omega

end

section

variable [FloorRing K] (spec : ShapeSpec K) (numDrones : ℕ) (launch : Launch K)
  (pacing : ShowPacing K) (rate : K)

def lastFlightStep : ℕ := ⌊pacing.landStartS * rate⌋.toNat

def flightSample (d k : ℕ) : Waypoint K :=
  if (k : K) / rate ≤ pacing.takeoffS then takeoffSample launch pacing (k / rate) d
  else choreoSample spec numDrones launch pacing (k / rate) d

def landEntry (d : ℕ) : Waypoint K :=
  flightSample spec numDrones launch pacing rate d (lastFlightStep pacing rate)

def sampleAt (d k : ℕ) : Waypoint K :=
  if k ≤ lastFlightStep pacing rate then flightSample spec numDrones launch pacing rate d k
  else landSample launch pacing (k / rate) d (landEntry spec numDrones launch pacing rate d)

variable {spec numDrones launch pacing rate}

lemma div_le_landStart_iff (hrate : 0 < rate) (hpaced : WellPaced pacing) {k : ℕ} :
    (k : K) / rate ≤ pacing.landStartS ↔ k ≤ lastFlightStep pacing rate := by
  have hpos : 0 ≤ pacing.landStartS * rate :=
    mul_nonneg (add_pos hpaced.takeoff_pos hpaced.choreo_pos).le hrate.le
  have hfloor : 0 ≤ ⌊pacing.landStartS * rate⌋ := Int.floor_nonneg.mpr hpos
  rw [div_le_iff₀ hrate, lastFlightStep, ← Int.cast_natCast, ← Int.le_floor]
  omega

lemma takeoff_le_landStart (hpaced : WellPaced pacing) : pacing.takeoffS ≤ pacing.landStartS :=
  le_add_of_nonneg_right hpaced.choreo_pos.le

section

variable (hrate : 0 < rate) (hpaced : WellPaced pacing)
include hrate hpaced

lemma runStep_flight (s : RunState K) {k : ℕ} (hk : k ≤ lastFlightStep pacing rate) :
    runStep spec numDrones launch pacing rate s k =
      { s with dronesWps := fun d =>
          s.dronesWps d ++ [sampleAt spec numDrones launch pacing rate d k] } := by
  have hland : (k : K) / rate ≤ pacing.landStartS := (div_le_landStart_iff hrate hpaced).mpr hk
  simp only [runStep, sampleAt, flightSample, if_pos hk]
  split
  next htakeoff => rfl
  next hchoreo => rfl

lemma runStep_landing (s : RunState K) {k : ℕ} (hk : lastFlightStep pacing rate < k)
    (hentry : s.landEntry = some (landEntry spec numDrones launch pacing rate) ∨
      s.landEntry = none ∧ ∀ d, (s.dronesWps d).getLast? =
        some (landEntry spec numDrones launch pacing rate d)) :
    runStep spec numDrones launch pacing rate s k =
      { dronesWps := fun d => s.dronesWps d ++ [sampleAt spec numDrones launch pacing rate d k]
        landEntry := some (landEntry spec numDrones launch pacing rate) } := by
  have hland : ¬ (k : K) / rate ≤ pacing.landStartS := by
    rw [div_le_landStart_iff hrate hpaced]
    omega
  have htakeoff : ¬ (k : K) / rate ≤ pacing.takeoffS := fun h =>
    hland (h.trans (takeoff_le_landStart hpaced))
  have hsame : (s.landEntry.getD fun d =>
      (s.dronesWps d).getLastD { time := 0, x := 0, y := 0, z := 0, yaw := 0 }) =
      landEntry spec numDrones launch pacing rate := by
    rcases hentry with hsome | ⟨hnone, hlast⟩
    · rw [hsome, Option.getD_some]
    · rw [hnone, Option.getD_none]
      funext d
      rw [List.getLastD_eq_getLast?, hlast d, Option.getD_some]
  simp only [runStep, sampleAt, if_neg htakeoff, if_neg hland, if_neg (not_le.mpr hk), hsame]

lemma foldl_runStep (steps : ℕ) :
    (List.range steps).foldl (runStep spec numDrones launch pacing rate) ⟨fun _ => [], none⟩ =
      { dronesWps := fun d =>
          (List.range steps).map (sampleAt spec numDrones launch pacing rate d)
        landEntry := if steps ≤ lastFlightStep pacing rate + 1 then none
          else some (landEntry spec numDrones launch pacing rate) } := by
  induction steps with
  | zero => rfl
  | succ steps ih =>
    rw [List.range_succ, List.foldl_append, ih, List.foldl_cons, List.foldl_nil]
    rcases le_or_gt steps (lastFlightStep pacing rate) with hflight | hlanding
    · rw [runStep_flight hrate hpaced _ hflight, if_pos (by omega), if_pos (by omega)]
      simp
    · have hafter : ¬ steps + 1 ≤ lastFlightStep pacing rate + 1 := by omega
      rw [runStep_landing hrate hpaced _ hlanding, if_neg hafter]
      · simp only [List.map_append, List.map_cons, List.map_nil]
      · rcases (Nat.succ_le_of_lt hlanding).lt_or_eq with hlater | hfirst
        · exact .inl (if_neg (by omega))
        · subst hfirst
          refine .inr ⟨if_pos le_rfl, fun d => ?_⟩
          simp only [List.range_succ, List.map_append, List.map_cons, List.map_nil,
            List.getLast?_concat, sampleAt, if_pos le_rfl, landEntry]

lemma tracks_eq {steps : ℕ} (hsteps : totalSteps pacing rate = steps) :
    tracks spec numDrones launch pacing rate = fun d =>
      (List.range (steps + 1)).map (sampleAt spec numDrones launch pacing rate d) := by
  have hcount : (totalSteps pacing rate + 1).toNat = steps + 1 := by
    rw [hsteps]
    omega
  rw [tracks, hcount, foldl_runStep hrate hpaced]

end

lemma sampleAt_time (d k : ℕ) :
    (sampleAt spec numDrones launch pacing rate d k).time = roundTo 2 (k / rate) := by
  unfold sampleAt flightSample
  split_ifs <;> rfl

end

section

variable [FloorRing K]

/-- What is left of a landing rounds to nothing: of the way back to the pad, of the descent and of
the turn. -/
structure LeavesNothing (pad : Point K) (entry : Waypoint K) (ratio : K) : Prop where
  x : roundTo 2 (pad.x + (1 - ease (ratio / landReturnFraction)) * (entry.x - pad.x)) = pad.x
  y : roundTo 2 (pad.y + (1 - ease (ratio / landReturnFraction)) * (entry.y - pad.y)) = pad.y
  z : |entry.z * (1 - ease ((ratio - landReturnFraction) / (1 - landReturnFraction)))| ≤ 1 / 200
  yaw : blendYaw entry.yaw 0 (ease (ratio / landReturnFraction)) = 0

variable {spec : ShapeSpec K} {numDrones : ℕ} {launch : Launch K} {pacing : ShowPacing K}
  {rate t : K} {d : ℕ} {entry : Waypoint K}

lemma landSample_on_pad_iff :
    ((landSample launch pacing t d entry).x = (launch.startPositions d).x ∧
      (landSample launch pacing t d entry).y = (launch.startPositions d).y ∧
      (landSample launch pacing t d entry).z = 0 ∧
      (landSample launch pacing t d entry).yaw = 0) ↔
    LeavesNothing (launch.startPositions d) entry (landRatio pacing t) := by
  have hway (r a b : K) : a + r * (b - a) = b + (1 - r) * (a - b) := by ring
  simp only [landSample, landWaypoint, roundTo_two_eq_zero_iff]
  rw [hway _ entry.x, hway _ entry.y]
  exact ⟨fun ⟨hx, hy, hz, hyaw⟩ => ⟨hx, hy, hz, hyaw⟩, fun ⟨hx, hy, hz, hyaw⟩ => ⟨hx, hy, hz, hyaw⟩⟩

lemma leavesNothing_of_end {pad : Point K} (hx : roundTo 2 pad.x = pad.x)
    (hy : roundTo 2 pad.y = pad.y) : LeavesNothing pad entry 1 := by
  have hreturn : ease ((1 : K) / landReturnFraction) = 1 := by
    refine ease_of_one_le ?_
    norm_num [landReturnFraction]
  have hdescend : ease ((1 - landReturnFraction) / (1 - landReturnFraction) : K) = 1 := by
    refine ease_of_one_le ?_
    norm_num [landReturnFraction]
  refine ⟨?_, ?_, ?_, ?_⟩
  · rw [hreturn, sub_self, zero_mul, add_zero, hx]
  · rw [hreturn, sub_self, zero_mul, add_zero, hy]
  · rw [hdescend, sub_self, mul_zero, abs_zero]
    norm_num
  · rw [hreturn, blendYaw_one]

lemma landSample_choreoSample (hpaced : WellPaced pacing) (ht : t ≤ pacing.landStartS) :
    landSample launch pacing t d (choreoSample spec numDrones launch pacing t d) =
      choreoSample spec numDrones launch pacing t d := by
  have hratio : landRatio pacing t ≤ 0 :=
    (min_le_right _ _).trans (div_nonpos_of_nonpos_of_nonneg (sub_nonpos.mpr ht)
      hpaced.land_pos.le)
  have hfraction : (0 : K) < landReturnFraction := by norm_num [landReturnFraction]
  have hrest : (0 : K) < 1 - landReturnFraction := by norm_num [landReturnFraction]
  have hreturn : ease (landRatio pacing t / landReturnFraction) = 0 :=
    ease_of_nonpos (div_nonpos_of_nonpos_of_nonneg hratio hfraction.le)
  have hdescend : ease ((landRatio pacing t - landReturnFraction) / (1 - landReturnFraction)) = 0 :=
    ease_of_nonpos (div_nonpos_of_nonpos_of_nonneg (by linarith) hrest.le)
  simp only [landSample, landWaypoint, hreturn, hdescend, zero_mul, add_zero,
    sub_zero, mul_one, choreoSample, roundTo_roundTo, blendYaw_zero]

/-- The sample of the last step is one of the landing, from the last sample of the flight. -/
lemma sampleAt_last (hrate : 0 < rate) (hpaced : WellPaced pacing) {k : ℕ}
    (hk : pacing.takeoffS < k / rate) :
    sampleAt spec numDrones launch pacing rate d k = landSample launch pacing (k / rate) d
        (flightSample spec numDrones launch pacing rate d
          (min k (lastFlightStep pacing rate))) := by
  rcases le_or_gt k (lastFlightStep pacing rate) with hflight | hlanding
  · have ht := (div_le_landStart_iff hrate hpaced).mpr hflight
    rw [min_eq_left hflight, sampleAt, if_pos hflight, flightSample, if_neg (not_le.mpr hk),
      landSample_choreoSample hpaced ht]
  · rw [min_eq_right hlanding.le, sampleAt, if_neg (not_le.mpr hlanding), landEntry]

lemma takeoff_lt_last (hrate : 0 < rate) (hpaced : WellPaced pacing) {steps : ℕ}
    (hsteps : totalSteps pacing rate = steps) (hpos : 0 < steps) :
    pacing.takeoffS < steps / rate := by
  rw [lt_div_iff₀ hrate]
  by_contra hnot
  have hround := (abs_le.mp (abs_roundHalfEven_sub_le (pacing.totalS * rate))).1
  rw [totalSteps] at hsteps
  rw [hsteps, Int.cast_natCast, ShowPacing.totalS] at hround
  have hone : (1 : K) ≤ steps := by exact_mod_cast hpos
  have hland := mul_le_mul_of_nonneg_right hpaced.takeoff_le_land hrate.le
  have hchoreo := mul_pos hpaced.choreo_pos hrate
  linarith

end

/-! ## A whole track -/

/-- A track starts and ends on its pad, in order, and comes down only over it. -/
structure TrackOnPad (pad : Point K) (landStart rate : K) (wps : List (Waypoint K)) : Prop where
  starts : ∃ wp, wps.head? = some wp ∧ wp.time = 0 ∧ wp.x = pad.x ∧ wp.y = pad.y ∧ wp.z = 0
  ends : ∃ wp, wps.getLast? = some wp ∧ wp.x = pad.x ∧ wp.y = pad.y ∧ wp.z = 0 ∧ wp.yaw = 0
  increasing : wps.Pairwise fun a b => a.time < b.time
  /-- `i` is the last step of the flight, and `j` one of the landing. -/
  descends : ∀ (i j : ℕ) (entry wp : Waypoint K), wps[i]? = some entry → wps[j]? = some wp →
    (i : K) / rate ≤ landStart → landStart < ((i + 1 : ℕ) : K) / rate → landStart < j / rate →
      entry.z < wp.z → wp.x = pad.x ∧ wp.y = pad.y

section Track

variable [FloorRing K]

/-- When a track starts and ends on its pad: it is a single sample, or its pad is in whole
hundredths, the rate leaves the times apart, and the last step is not before the end of the
landing, or so close to it that what is left rounds to nothing. -/
def Lands (spec : ShapeSpec K) (numDrones : ℕ) (launch : Launch K) (pacing : ShowPacing K)
    (rate : K) (d : ℕ) : Prop :=
  let steps := totalSteps pacing rate
  let pad := launch.startPositions d
  steps = 0 ∨ (roundTo 2 pad.x = pad.x ∧ roundTo 2 pad.y = pad.y) ∧
    (rate ≤ 100 ∨ roundHalfEven ((steps : K) / rate * 100) = steps) ∧
    (pacing.totalS ≤ steps / rate ∨
      LeavesNothing pad (flightSample spec numDrones launch pacing rate d
        (min steps.toNat (lastFlightStep pacing rate))) (landRatio pacing (steps / rate)))

variable {spec : ShapeSpec K} {numDrones : ℕ} {launch : Launch K} {pacing : ShowPacing K}
  {rate : K} {d steps : ℕ}

def trackTo (spec : ShapeSpec K) (numDrones : ℕ) (launch : Launch K) (pacing : ShowPacing K)
    (rate : K) (d steps : ℕ) : List (Waypoint K) :=
  (List.range (steps + 1)).map (sampleAt spec numDrones launch pacing rate d)

lemma trackTo_getElem? (k : ℕ) : (trackTo spec numDrones launch pacing rate d steps)[k]? =
      if k ≤ steps then some (sampleAt spec numDrones launch pacing rate d k) else none := by
  rw [trackTo, List.getElem?_map]
  split
  next hk => rw [List.getElem?_range (by omega), Option.map_some]
  next hk => rw [List.getElem?_eq_none (by simpa using by omega), Option.map_none]

lemma sampleAt_zero (hpaced : WellPaced pacing) :
    sampleAt spec numDrones launch pacing rate d 0 = takeoffSample launch pacing 0 d := by
  rw [sampleAt, if_pos (Nat.zero_le _), flightSample, Nat.cast_zero, zero_div,
    if_pos hpaced.takeoff_pos.le]

lemma takeoffSample_zero : (takeoffSample launch pacing 0 d).time = 0 ∧
    (takeoffSample launch pacing 0 d).z = 0 := by
  have hzero : roundTo 2 (0 : K) = 0 := by simp [roundTo, roundHalfEven]
  refine ⟨hzero, ?_⟩
  rw [takeoffSample, zero_div, ease_of_nonpos le_rfl, mul_zero, neg_zero, hzero]

lemma track_starts (hpaced : WellPaced pacing) :
    ∃ wp, (trackTo spec numDrones launch pacing rate d steps).head? = some wp ∧ wp.time = 0 ∧
      wp.x = (launch.startPositions d).x ∧ wp.y = (launch.startPositions d).y ∧ wp.z = 0 := by
  refine ⟨takeoffSample launch pacing 0 d, ?_, takeoffSample_zero.1, rfl, rfl, takeoffSample_zero.2⟩
  rw [List.head?_eq_getElem?, trackTo_getElem?, if_pos (Nat.zero_le _), sampleAt_zero hpaced]

lemma track_last : (trackTo spec numDrones launch pacing rate d steps).getLast? =
    some (sampleAt spec numDrones launch pacing rate d steps) := by
  rw [trackTo, List.range_succ, List.map_append, List.map_cons, List.map_nil, List.getLast?_concat]

lemma track_increasing_iff :
    (trackTo spec numDrones launch pacing rate d steps).Pairwise (fun a b => a.time < b.time) ↔
      ∀ k < steps, roundTo 2 ((k : K) / rate) < roundTo 2 (((k + 1 : ℕ) : K) / rate) := by
  let before (a b : ℕ) : Prop := roundTo 2 ((a : K) / rate) < roundTo 2 ((b : K) / rate)
  have : Trans before before before := ⟨fun h h' => lt_trans h h'⟩
  have hchain : (List.range (steps + 1)).Pairwise before ↔ ∀ k < steps, before k (k + 1) := by
    rw [← List.isChain_iff_pairwise]
    exact List.isChain_range_succ before steps
  rw [trackTo, List.pairwise_map]
  simp only [sampleAt_time]
  exact hchain

lemma track_ends_iff (hrate : 0 < rate) (hpaced : WellPaced pacing)
    (hsteps : totalSteps pacing rate = steps) (hpos : 0 < steps) :
    (∃ wp, (trackTo spec numDrones launch pacing rate d steps).getLast? = some wp ∧
      wp.x = (launch.startPositions d).x ∧ wp.y = (launch.startPositions d).y ∧ wp.z = 0 ∧
      wp.yaw = 0) ↔
    (roundTo 2 (launch.startPositions d).x = (launch.startPositions d).x ∧
      roundTo 2 (launch.startPositions d).y = (launch.startPositions d).y) ∧
    (pacing.totalS ≤ (steps : K) / rate ∨
      LeavesNothing (launch.startPositions d) (flightSample spec numDrones launch pacing rate d
        (min steps (lastFlightStep pacing rate))) (landRatio pacing (steps / rate))) := by
  have hlast : sampleAt spec numDrones launch pacing rate d steps =
      landSample launch pacing (steps / rate) d
        (flightSample spec numDrones launch pacing rate d
          (min steps (lastFlightStep pacing rate))) :=
    sampleAt_last hrate hpaced (takeoff_lt_last hrate hpaced hsteps hpos)
  rw [track_last, hlast]
  constructor
  · rintro ⟨wp, hwp, hon⟩
    cases hwp
    have hleft := landSample_on_pad_iff.mp hon
    refine ⟨⟨?_, ?_⟩, .inr hleft⟩
    · rw [← hleft.x, roundTo_roundTo]
    · rw [← hleft.y, roundTo_roundTo]
  · rintro ⟨⟨hx, hy⟩, hend⟩
    refine ⟨_, rfl, landSample_on_pad_iff.mpr ?_⟩
    rcases hend with hlate | hleft
    · have hratio : landRatio pacing ((steps : K) / rate) = 1 := by
        rw [landRatio, min_eq_left]
        rw [one_le_div hpaced.land_pos]
        have htotal : pacing.totalS = pacing.landStartS + pacing.landS := rfl
        linarith
      rw [hratio]
      exact leavesNothing_of_end hx hy
    · exact hleft

lemma landSample_over_pad {t : K} {entry : Waypoint K} (hentry : roundTo 2 entry.z = entry.z)
    (hx : roundTo 2 (launch.startPositions d).x = (launch.startPositions d).x)
    (hy : roundTo 2 (launch.startPositions d).y = (launch.startPositions d).y)
    (hbelow : entry.z < (landSample launch pacing t d entry).z) :
    (landSample launch pacing t d entry).x = (launch.startPositions d).x ∧
      (landSample launch pacing t d entry).y = (launch.startPositions d).y := by
  have hfraction : (0 : K) < landReturnFraction := by norm_num [landReturnFraction]
  have hrest : (0 : K) < 1 - landReturnFraction := by norm_num [landReturnFraction]
  have hreturned : landReturnFraction ≤ landRatio pacing t := by
    by_contra hnot
    have hdescend :
        ease ((landRatio pacing t - landReturnFraction) / (1 - landReturnFraction)) = 0 :=
      ease_of_nonpos (div_nonpos_of_nonpos_of_nonneg (by linarith) hrest.le)
    have hz : (landSample launch pacing t d entry).z = roundTo 2 entry.z := by
      simp only [landSample, landWaypoint, hdescend, sub_zero, mul_one]
    rw [hz, hentry] at hbelow
    exact lt_irrefl _ hbelow
  have hreturn : ease (landRatio pacing t / landReturnFraction) = 1 :=
    ease_of_one_le ((one_le_div hfraction).mpr hreturned)
  have hway (a b : K) : a + 1 * (b - a) = b := by ring
  constructor
  · simp only [landSample, landWaypoint, hreturn, hway, hx]
  · simp only [landSample, landWaypoint, hreturn, hway, hy]

lemma roundTo_flightSample_z (k : ℕ) :
    roundTo 2 (flightSample spec numDrones launch pacing rate d k).z =
      (flightSample spec numDrones launch pacing rate d k).z := by
  unfold flightSample
  split
  · exact roundTo_roundTo 2 _
  · exact roundTo_roundTo 2 _

lemma track_descends (hrate : 0 < rate) (hpaced : WellPaced pacing)
    (hx : roundTo 2 (launch.startPositions d).x = (launch.startPositions d).x)
    (hy : roundTo 2 (launch.startPositions d).y = (launch.startPositions d).y)
    {i j : ℕ} {entry wp : Waypoint K}
    (hi : (trackTo spec numDrones launch pacing rate d steps)[i]? = some entry)
    (hj : (trackTo spec numDrones launch pacing rate d steps)[j]? = some wp)
    (hflight : (i : K) / rate ≤ pacing.landStartS)
    (hnext : pacing.landStartS < ((i + 1 : ℕ) : K) / rate)
    (hlanding : pacing.landStartS < (j : K) / rate) (hbelow : entry.z < wp.z) :
    wp.x = (launch.startPositions d).x ∧ wp.y = (launch.startPositions d).y := by
  rw [div_le_landStart_iff hrate hpaced] at hflight
  rw [← not_le, div_le_landStart_iff hrate hpaced] at hnext hlanding
  have hlast : i = lastFlightStep pacing rate := by omega
  rw [trackTo_getElem?] at hi hj
  split at hi
  next histeps =>
    split at hj
    next hjsteps =>
      cases hi
      cases hj
      have hentry : sampleAt spec numDrones launch pacing rate d i =
          landEntry spec numDrones launch pacing rate d := by
        rw [sampleAt, if_pos hflight, hlast, landEntry]
      have hwp : sampleAt spec numDrones launch pacing rate d j =
          landSample launch pacing (j / rate) d
            (landEntry spec numDrones launch pacing rate d) := if_neg hlanding
      rw [hentry, hwp] at hbelow
      rw [hwp]
      exact landSample_over_pad (roundTo_flightSample_z _) hx hy hbelow
    next => cases hj
  next => cases hi

lemma trackOnPad_iff (hrate : 0 < rate) (hpaced : WellPaced pacing) :
    TrackOnPad (launch.startPositions d) pacing.landStartS rate
      (tracks spec numDrones launch pacing rate d) ↔
    Lands spec numDrones launch pacing rate d := by
  have htotal : 0 ≤ pacing.totalS * rate :=
    (mul_pos (add_pos (add_pos hpaced.takeoff_pos hpaced.choreo_pos) hpaced.land_pos) hrate).le
  have hzero : roundHalfEven (0 : K) = 0 := by simp [roundHalfEven]
  obtain ⟨steps, hsteps⟩ : ∃ steps : ℕ, totalSteps pacing rate = steps :=
    Int.eq_ofNat_of_zero_le (hzero ▸ roundHalfEven_mono htotal)
  rw [tracks_eq hrate hpaced hsteps]
  show TrackOnPad _ _ _ (trackTo spec numDrones launch pacing rate d steps) ↔ _
  rw [Lands, hsteps]
  simp only [Int.cast_natCast, Int.toNat_natCast, Nat.cast_eq_zero]
  rcases Nat.eq_zero_or_pos steps with rfl | hpos
  · -- a single sample, on the pad
    refine ⟨fun _ => .inl rfl, fun _ => ⟨track_starts hpaced, ?_, ?_, ?_⟩⟩
    · exact ⟨_, by rw [track_last, sampleAt_zero hpaced], rfl, rfl, takeoffSample_zero.2, rfl⟩
    · exact track_increasing_iff.mpr fun k hk => absurd hk (Nat.not_lt_zero k)
    · intro i j entry wp _ hj _ _ hlanding _
      rw [trackTo_getElem?] at hj
      split at hj
      next hjzero =>
        have hstart : 0 < pacing.landStartS := add_pos hpaced.takeoff_pos hpaced.choreo_pos
        rw [Nat.le_zero.mp hjzero, Nat.cast_zero, zero_div] at hlanding
        exact absurd hlanding (not_lt.mpr hstart.le)
      next => cases hj
  · constructor
    · intro h
      obtain ⟨hpad, hend⟩ := (track_ends_iff hrate hpaced hsteps hpos).mp h.ends
      exact .inr ⟨hpad, (times_increase_iff hrate steps).mp (track_increasing_iff.mp h.increasing),
        hend⟩
    · rintro (hnone | ⟨hpad, htimes, hend⟩)
      · omega
      · exact ⟨track_starts hpaced, (track_ends_iff hrate hpaced hsteps hpos).mpr ⟨hpad, hend⟩,
          track_increasing_iff.mpr ((times_increase_iff hrate steps).mpr htimes),
          fun i j entry wp hi hj hflight hnext hlanding hbelow =>
            track_descends hrate hpaced hpad.1 hpad.2 hi hj hflight hnext hlanding hbelow⟩

end Track

section

variable [FloorRing K] [Sqrt K] {spec : ShapeSpec K} {numDrones : ℕ} {duration rate : K}
  {spawnOffsets : Option (List (Pad K))} {targetHeights : Option (List K)} {launch : Launch K}
  {pacing : ShowPacing K} {generated : List (ℕ × List (Waypoint K))}

lemma planShow_wellPaced
    (h : planShow spec numDrones duration spawnOffsets targetHeights = .ok (launch, pacing)) :
    WellPaced pacing := by
  obtain ⟨placed, -, h⟩ := bind_eq_ok.mp h
  obtain ⟨planned, hplanned, h⟩ := bind_eq_ok.mp h
  cases h
  have hpaced := planPacing_wellPaced hplanned
  exact ⟨hpaced.takeoff_pos, lt_max_of_lt_left hpaced.choreo_pos, hpaced.land_pos,
    hpaced.takeoff_le_land⟩

/-- Every track of a generated show starts and ends on its pad, in order and coming down only
over it, if and only if every drone lands. -/
theorem generated_shows_on_pads (hrate : 0 < rate)
    (hplan : planShow spec numDrones duration spawnOffsets targetHeights = .ok (launch, pacing))
    (hrun : runShow spec numDrones duration rate spawnOffsets targetHeights = .ok generated) :
    (∀ track ∈ generated,
      TrackOnPad (launch.startPositions track.1) pacing.landStartS rate track.2) ↔
    ∀ d < numDrones, Lands spec numDrones launch pacing rate d := by
  have hpaced := planShow_wellPaced hplan
  rw [runShow, hplan] at hrun
  cases hrun
  constructor
  · intro h d hd
    exact (trackOnPad_iff hrate hpaced).mp (h _ (List.mem_map_of_mem (List.mem_range.mpr hd)))
  · intro h track htrack
    obtain ⟨d, hd, rfl⟩ := List.mem_map.mp htrack
    exact (trackOnPad_iff hrate hpaced).mpr (h d (List.mem_range.mp hd))

end

def one : ShapeSpec ℚ := spline fun _ d => d

theorem generated_shows_on_pads_half_minute : ∃ launch pacing generated,
    planShow one 1 30 none none = .ok (launch, pacing) ∧
      runShow one 1 30 2 none none = .ok generated ∧
        ∀ track ∈ generated,
          TrackOnPad (launch.startPositions track.1) pacing.landStartS 2 track.2 := by
  obtain ⟨⟨launch, pacing⟩, hplan, htotal, hx, hy⟩ :
      ∃ plan ∈ (planShow one 1 30 none none).toOption, plan.2.totalS ≤ (totalSteps plan.2 2 : ℚ) /
      2 ∧ (plan.1.startPositions 0).x = 0 ∧ (plan.1.startPositions 0).y = 0 := by decide +kernel
  have hplan := ok_of_toOption hplan
  have hrun : runShow one 1 30 2 none none =
      .ok ((List.range 1).map fun d => (d, tracks one 1 launch pacing 2 d)) := by
    rw [runShow, hplan]
    rfl
  have hzero : roundTo 2 (0 : ℚ) = 0 := by decide +kernel
  refine ⟨launch, pacing, _, hplan, hrun,
    (generated_shows_on_pads (by norm_num) hplan hrun).mpr fun d hd => ?_⟩
  obtain rfl : d = 0 := by omega
  refine .inr ⟨⟨?_, ?_⟩, .inl (by norm_num), .inl htotal⟩
  · rw [hx, hzero]
  · rw [hy, hzero]

/-- A show of 30.4 seconds, sampled once a second, ends in the air. -/
theorem ends_in_the_air : ∃ launch pacing generated,
    planShow one 1 (304 / 10) none none = .ok (launch, pacing) ∧
      runShow one 1 (304 / 10) 1 none none = .ok generated ∧
        ¬ ∀ track ∈ generated,
          TrackOnPad (launch.startPositions track.1) pacing.landStartS 1 track.2 := by
  obtain ⟨⟨launch, pacing⟩, hplan, wp, hwp, hz⟩ :
      ∃ plan ∈ (planShow one 1 (304 / 10) none none).toOption,
      ∃ wp ∈ (tracks one 1 plan.1 plan.2 1 0).getLast?, wp.z ≠ 0 := by decide +kernel
  have hplan := ok_of_toOption hplan
  refine ⟨launch, pacing, [(0, tracks one 1 launch pacing 1 0)], hplan, ?_, fun h => ?_⟩
  · rw [runShow, hplan]
    rfl
  · obtain ⟨last, hlast, -, -, hground, -⟩ := (h _ (List.mem_singleton.mpr rfl)).ends
    rw [hwp] at hlast
    cases hlast
    exact hz hground

end Taramandal.Studio.GeneratedShows
