import Taramandal.Core.CleanSweep

/-! # Validation against a threshold of one's own (`validator.py`, `validate_choreography`)

The threshold that is asked for goes into the sweep as it is, and into limits of its own, whose
fields have to go together. -/
set_option linter.unusedSectionVars false

namespace Taramandal.Studio.Validator

open Lib.Logged Core.Numbers Core.Geometry Core.Safety Core.Shows Core.Validate Core.CleanShows
open Core.ShowReport Core.CleanSweep

variable {K : Type} [Field K] [LinearOrder K]

/-! ## Limits that are asked for (`safety.py`) -/

/-- The arguments of `SafetyLimits`. -/
structure LimitFields (K : Type) where
  minSeparationM : K
  designSeparationM : K
  padSpacingM : K
  maxVelocityMs : K
  maxAccelMs2 : K
  maxYawRateDps : K
  geofenceRadiusM : K
  maxAltitudeM : K
  geofenceSoftWarningBufferM : K
  geofenceHardBufferM : K

/-- The fields that have to be positive, in the order of the check. -/
def LimitFields.positives (f : LimitFields K) : List (String × K) :=
  [("min_separation_m", f.minSeparationM), ("design_separation_m", f.designSeparationM),
    ("pad_spacing_m", f.padSpacingM), ("max_velocity_ms", f.maxVelocityMs),
    ("max_accel_ms2", f.maxAccelMs2), ("max_yaw_rate_dps", f.maxYawRateDps),
    ("geofence_radius_m", f.geofenceRadiusM), ("max_altitude_m", f.maxAltitudeM),
    ("geofence_soft_warning_buffer_m", f.geofenceSoftWarningBufferM),
    ("geofence_hard_buffer_m", f.geofenceHardBufferM)]

variable [FloorRing K]

def LimitFields.postInit (f : LimitFields K) : Except String (SafetyLimits K) :=
  if hdesign : f.designSeparationM < f.minSeparationM then
    .error ("design_separation_m (" ++ floatStr f.designSeparationM ++
      ") must be >= min_separation_m (" ++ floatStr f.minSeparationM ++
      "): validating a show against a looser threshold than the one the fleet aborts on lets " ++
      "unsafe shows reach the flight line.")
  else if hhard : f.geofenceHardBufferM < f.geofenceSoftWarningBufferM then
    .error ("geofence_hard_buffer_m (" ++ floatStr f.geofenceHardBufferM ++
      ") must be >= geofence_soft_warning_buffer_m (" ++ floatStr f.geofenceSoftWarningBufferM ++
      "): the hard RTL radius must not be tighter than the soft-warning radius around the same " ++
      "envelope.")
  else if hpad : f.padSpacingM < f.designSeparationM then
    .error ("pad_spacing_m (" ++ floatStr f.padSpacingM ++ ") must be >= design_separation_m (" ++
      floatStr f.designSeparationM ++
      "): the static pad grid must never be tighter than the in-flight design limit.")
  else
    match hpos : f.positives.find? fun p => p.2 ≤ 0 with
    | some p => .error (p.1 ++ " must be positive, got " ++ floatStr p.2)
    | none =>
      .ok {
        minSeparationM := f.minSeparationM
        designSeparationM := f.designSeparationM
        padSpacingM := f.padSpacingM
        maxVelocityMs := f.maxVelocityMs
        maxAccelMs2 := f.maxAccelMs2
        maxYawRateDps := f.maxYawRateDps
        geofenceRadiusM := f.geofenceRadiusM
        maxAltitudeM := f.maxAltitudeM
        geofenceSoftWarningBufferM := f.geofenceSoftWarningBufferM
        geofenceHardBufferM := f.geofenceHardBufferM
        min_le_design := not_lt.mp hdesign
        soft_le_hard := not_lt.mp hhard
        design_le_pad := not_lt.mp hpad
        all_pos := by
          have hall : ∀ p ∈ f.positives, 0 < p.2 := fun p hp => by
            simpa using List.find?_eq_none.mp hpos p hp
          simp only [LimitFields.positives, List.forall_mem_cons] at hall
          obtain ⟨hmin, -, -, hvel, hacc, hyaw, hfence, halt, hsoft, -⟩ := hall
          exact ⟨hmin, hvel, hacc, hyaw, hfence, halt, hsoft⟩ }

/-- The limits of motion and altitude, which no check of a separation is about. -/
def SameMotion (limits limits' : SafetyLimits K) : Prop :=
  limits.maxVelocityMs = limits'.maxVelocityMs ∧ limits.maxAccelMs2 = limits'.maxAccelMs2 ∧
    limits.maxYawRateDps = limits'.maxYawRateDps ∧ limits.maxAltitudeM = limits'.maxAltitudeM

variable {f : LimitFields K}

section

variable (hdesign : f.minSeparationM ≤ f.designSeparationM)
  (hhard : f.geofenceSoftWarningBufferM ≤ f.geofenceHardBufferM)
include hdesign hhard

lemma postInit_eq_ok (hpad : f.designSeparationM ≤ f.padSpacingM) (hpos : ∀ p ∈ f.positives, 0 < p.2) :
    ∃ limits, f.postInit = .ok limits ∧ limits.maxVelocityMs = f.maxVelocityMs ∧
      limits.maxAccelMs2 = f.maxAccelMs2 ∧ limits.maxYawRateDps = f.maxYawRateDps ∧
      limits.maxAltitudeM = f.maxAltitudeM := by
  have hnone : (f.positives.find? fun p => p.2 ≤ 0) = none :=
    List.find?_eq_none.mpr fun p hp => by simpa using hpos p hp
  unfold LimitFields.postInit
  rw [dif_neg (not_lt.mpr hdesign), dif_neg (not_lt.mpr hhard), dif_neg (not_lt.mpr hpad)]
  split
  next p hp => cases hp.symm.trans hnone
  next => exact ⟨_, rfl, rfl, rfl, rfl, rfl⟩

lemma postInit_pad (hpad : f.padSpacingM < f.designSeparationM) (limits : SafetyLimits K) :
    f.postInit ≠ .ok limits := by
  intro h
  unfold LimitFields.postInit at h
  rw [dif_neg (not_lt.mpr hdesign), dif_neg (not_lt.mpr hhard), dif_pos hpad] at h
  cases h

end

section

variable [Sqrt K] {limits limits' : SafetyLimits K} {dt t threshold threshold' : K}

def withoutPairs (acc : Sweep K) : Sweep K := { acc with proximity := [] }

lemma withoutPairs_sweepDrone (h : SameMotion limits limits') (acc : Sweep K)
    (state : Nat × Waypoint K) : withoutPairs (sweepDrone limits dt t acc state) =
      sweepDrone limits' dt t (withoutPairs acc) state := by
  obtain ⟨hvel, hacc, hyaw, -⟩ := h
  simp only [sweepDrone, withoutPairs, hvel, hacc, hyaw]
  split <;> rfl

variable {tree : KdTree K} (s : Show K)

lemma withoutPairs_sweepAt (h : SameMotion limits limits') {acc acc' : Sweep K}
    (hacc : withoutPairs acc = withoutPairs acc') (t : K) :
    withoutPairs (sweepAt tree s limits threshold dt acc t) =
      withoutPairs (sweepAt tree s limits' threshold' dt acc' t) := by
  refine view_foldl (fun c c' state hc => ?_) ?_ (statesAt s t)
  · rw [withoutPairs_sweepDrone h, hc, ← withoutPairs_sweepDrone ⟨rfl, rfl, rfl, rfl⟩]
  · have hmin : (withoutPairs acc).minDist = (withoutPairs acc').minDist := by rw [hacc]
    change acc.minDist = acc'.minDist at hmin
    have hset : ∀ (b : Sweep K) r, withoutPairs (samplePairs tree s r b t) =
        { withoutPairs b with
          minDist := minDistance b.minDist (minSeparation (positionsAt s t)) } :=
      fun b r => rfl
    rw [hset, hset, hacc, hmin]

lemma withoutPairs_sweepShow (h : SameMotion limits limits') :
    withoutPairs (sweepShow tree s limits threshold dt) =
      withoutPairs (sweepShow tree s limits' threshold' dt) := by
  have hround : ∀ (acc acc' : Sweep K) (t : K), withoutPairs acc = withoutPairs acc' →
      withoutPairs (sweepAt tree s limits threshold dt acc t) =
        withoutPairs (sweepAt tree s limits' threshold' dt acc' t) :=
    fun _ _ t hacc => withoutPairs_sweepAt s h hacc t
  exact view_foldl hround rfl (sweepTimes s.duration dt)

lemma sweepShow_proximity : (sweepShow tree s limits threshold dt).proximity =
    (sweepTimes s.duration dt).flatMap fun t => (closePairs tree (positionsAt s t) threshold).map
      (proximityViolation t threshold (positionsAt s t)) :=
  log_foldl sweepAt_proximity startSweep _

lemma closePairs_mono (hlower : LowerFirst tree) (hle : threshold ≤ threshold')
    {positions : List (Nat × Point K)} {c : ClosePair K}
    (hc : c ∈ closePairs tree positions threshold) : c ∈ closePairs tree positions threshold' := by
  unfold closePairs at hc ⊢
  split at hc
  next => cases hc
  next hlen =>
    rw [if_neg hlen, List.mem_insertionSort]
    rw [List.mem_insertionSort] at hc
    obtain ⟨⟨i, j⟩, hpair, hclose⟩ := List.mem_filterMap.mp hc
    have hij : i < j := hlower _ _ _ hpair
    unfold closePair at hclose
    split at hclose
    next a p b q ha hb =>
      split at hclose
      next => cases hclose
      next hnear =>
        have hnear' : ¬ threshold' ≤ pointDist p q := fun h => hnear (hle.trans h)
        have hcoord : ∀ {k : Nat} {r : Nat × Point K}, positions[k]? = some r →
            (positions.map Prod.snd)[k]? = some r.2 := fun h => by
          rw [List.getElem?_map, h]
          rfl
        refine List.mem_filterMap.mpr ⟨(i, j), ?_, ?_⟩
        · exact tree.complete _ _ i j p q hij (hcoord ha) (hcoord hb) (not_le.mp hnear').le
        · simp only [closePair, ha, hb, if_neg hnear']
          exact hclose
    next => cases hclose

lemma proximity_mono (hlower : LowerFirst tree) (hle : threshold ≤ threshold')
    {v : K × ProximityViolation K} (hv : v ∈ (sweepShow tree s limits threshold dt).proximity) :
    ∃ v' ∈ (sweepShow tree s limits' threshold' dt).proximity,
      v'.2 = { v.2 with limit := roundTo 2 threshold' } := by
  rw [sweepShow_proximity] at hv ⊢
  obtain ⟨t, ht, hv⟩ := List.mem_flatMap.mp hv
  obtain ⟨c, hc, rfl⟩ := List.mem_map.mp hv
  exact ⟨_, List.mem_flatMap.mpr ⟨t, ht, List.mem_map_of_mem (closePairs_mono hlower hle hc)⟩, rfl⟩

lemma altitudeExtremes_congr (h : limits.maxAltitudeM = limits'.maxAltitudeM) :
    altitudeExtremes s limits = altitudeExtremes s limits' := by
  unfold altitudeExtremes
  rw [h]

def others {P M A : Type} (v : PerKind P M A) : M × M × M × A × A :=
  (v.velocity, v.acceleration, v.yawRate, v.altitude, v.ground)

lemma others_foundIn (h : SameMotion limits limits') : others (foundIn tree s limits threshold dt) =
      others (foundIn tree s limits' threshold' dt) := by
  have hsweep : withoutPairs (sweepShow tree s limits threshold dt) =
      withoutPairs (sweepShow tree s limits' threshold' dt) := withoutPairs_sweepShow s h
  have hvel : (sweepShow tree s limits threshold dt).velocity =
      (sweepShow tree s limits' threshold' dt).velocity := (Sweep.mk.inj hsweep).2.1
  have hacc : (sweepShow tree s limits threshold dt).acceleration =
      (sweepShow tree s limits' threshold' dt).acceleration := (Sweep.mk.inj hsweep).2.2.1
  have hyaw : (sweepShow tree s limits threshold dt).yawRate =
      (sweepShow tree s limits' threshold' dt).yawRate := (Sweep.mk.inj hsweep).2.2.2.1
  simp only [others, foundIn, hvel, hacc, hyaw, altitudeExtremes_congr s h.2.2.2]

end

section Validation

variable [IsStrictOrderedRing K]

/-- The limits that `validate_choreography` builds. -/
def choreographyLimits (safeDistThreshold maxVelocity maxAccel maxYawRate : Option K) :
    Except String (SafetyLimits K) :=
  let default : SafetyLimits K := defaultLimits
  LimitFields.postInit {
    minSeparationM := default.minSeparationM
    designSeparationM := max (safeDistThreshold.getD default.designSeparationM)
      default.minSeparationM
    padSpacingM := default.padSpacingM
    maxVelocityMs := maxVelocity.getD default.maxVelocityMs
    maxAccelMs2 := maxAccel.getD default.maxAccelMs2
    maxYawRateDps := maxYawRate.getD default.maxYawRateDps
    geofenceRadiusM := default.geofenceRadiusM
    maxAltitudeM := default.maxAltitudeM
    geofenceSoftWarningBufferM := default.geofenceSoftWarningBufferM
    geofenceHardBufferM := default.geofenceHardBufferM }

variable [Sqrt K] (tree : KdTree K)

def validateChoreography (s : Show K)
    (safeDistThreshold maxVelocity maxAccel maxYawRate : Option K) : Except String (Report K) :=
  (choreographyLimits safeDistThreshold maxVelocity maxAccel maxYawRate).map fun limits =>
    validateShow tree s limits safeDistThreshold (1 / 10)

/-- Validated against `separation` and against `separation'`, a show gets a report either way. What
the first finds the second finds too, the rest is the same, and the first passes if the second
does. -/
def Relaxes (s : Show K) (separation separation' : K) (maxVelocity maxAccel maxYawRate : Option K) :
    Prop :=
  ∃ limits limits' r r',
    choreographyLimits (some separation) maxVelocity maxAccel maxYawRate = .ok limits ∧
    choreographyLimits (some separation') maxVelocity maxAccel maxYawRate = .ok limits' ∧
    validateChoreography tree s (some separation) maxVelocity maxAccel maxYawRate = .ok r ∧
    validateChoreography tree s (some separation') maxVelocity maxAccel maxYawRate = .ok r' ∧
    (∀ v ∈ (foundIn tree s limits separation (1 / 10)).proximity,
      ∃ v' ∈ (foundIn tree s limits' separation' (1 / 10)).proximity,
        v'.2 = { v.2 with limit := roundTo 2 separation' }) ∧
    others r.violations = others r'.violations ∧
    others r.worstViolations = others r'.worstViolations ∧
    (r'.status = .passed → r.status = .passed)

variable {separation : K} {maxVelocity maxAccel maxYawRate : Option K}

lemma choreographyLimits_eq_ok (hvel : ∀ v ∈ maxVelocity, 0 < v) (hacc : ∀ v ∈ maxAccel, 0 < v)
    (hyaw : ∀ v ∈ maxYawRate, 0 < v) (hle : separation ≤ 11 / 5) :
    ∃ limits, choreographyLimits (some separation) maxVelocity maxAccel maxYawRate = .ok limits ∧
      limits.maxVelocityMs = maxVelocity.getD 6 ∧ limits.maxAccelMs2 = maxAccel.getD 50 ∧
      limits.maxYawRateDps = maxYawRate.getD 300 ∧ limits.maxAltitudeM = 120 := by
  have hgiven : ∀ {given : Option K} {d : K}, (∀ v ∈ given, 0 < v) → 0 < d → 0 < given.getD d := by
    intro given d hpos hd
    cases given with
    | none => exact hd
    | some v => exact hpos v rfl
  have hmin : (0 : K) < 3 / 2 := by norm_num
  refine postInit_eq_ok (le_max_right _ _) (defaultLimits : SafetyLimits K).soft_le_hard
    (max_le hle (by norm_num [defaultLimits])) ?_
  simp only [LimitFields.positives, List.forall_mem_cons]
  refine ⟨hmin, hmin.trans_le (le_max_right _ _), by norm_num [defaultLimits],
    hgiven hvel (by norm_num [defaultLimits]), hgiven hacc (by norm_num [defaultLimits]),
    hgiven hyaw (by norm_num [defaultLimits]), by norm_num [defaultLimits],
    by norm_num [defaultLimits], by norm_num [defaultLimits], by norm_num [defaultLimits], ?_⟩
  exact fun p hp => absurd hp List.not_mem_nil

lemma choreographyLimits_ne_ok (hlt : 11 / 5 < separation) (limits : SafetyLimits K) :
    choreographyLimits (some separation) maxVelocity maxAccel maxYawRate ≠ .ok limits :=
  postInit_pad (le_max_right _ _) (defaultLimits : SafetyLimits K).soft_le_hard
    (lt_max_of_lt_left hlt) limits

lemma others_reported {found found' : Found K} (h : others found = others found') :
    others found.reported = others found'.reported ∧ others found.worst = others found'.worst := by
  simp only [others, Prod.mk.injEq] at h
  obtain ⟨hvel, hacc, hyaw, halt, hground⟩ := h
  simp only [others, Found.reported, Found.worst, hvel, hacc, hyaw, halt, hground, and_self]

lemma others_validateShow {limits limits' : SafetyLimits K} (h : SameMotion limits limits')
    (s : Show K) (separation separation' : Option K) (dt : K) :
    others (validateShow tree s limits separation dt).violations =
      others (validateShow tree s limits' separation' dt).violations ∧
    others (validateShow tree s limits separation dt).worstViolations =
      others (validateShow tree s limits' separation' dt).worstViolations := by
  have hfound : others (foundIn tree s limits (separation.getD limits.designSeparationM) dt) =
      others (foundIn tree s limits' (separation'.getD limits'.designSeparationM) dt) :=
    others_foundIn s h
  by_cases hnone : s.drones = []
  · simp only [validateShow, if_pos hnone, others, and_self]
  · simp only [validateShow, if_neg hnone]
    exact others_reported hfound

/-- The threshold that a caller asks for is honoured up to the spacing of the pads, and then the
validation relaxes with it. -/
theorem relaxes_iff (hlower : LowerFirst tree) (s : Show K) {separation separation' : K}
    (hle : separation ≤ separation') {maxVelocity maxAccel maxYawRate : Option K}
    (hvel : ∀ v ∈ maxVelocity, 0 < v) (hacc : ∀ v ∈ maxAccel, 0 < v)
    (hyaw : ∀ v ∈ maxYawRate, 0 < v) :
    Relaxes tree s separation separation' maxVelocity maxAccel maxYawRate ↔
      separation' ≤ 11 / 5 := by
  constructor
  · rintro ⟨limits, limits', r, r', -, h', -⟩
    by_contra hlt
    exact choreographyLimits_ne_ok (not_le.mp hlt) limits' h'
  · intro hpad
    obtain ⟨limits, hlimits, hv, ha, hy, hz⟩ :=
      choreographyLimits_eq_ok hvel hacc hyaw (hle.trans hpad)
    obtain ⟨limits', hlimits', hv', ha', hy', hz'⟩ := choreographyLimits_eq_ok hvel hacc hyaw hpad
    have hsame : SameMotion limits limits' :=
      ⟨hv.trans hv'.symm, ha.trans ha'.symm, hy.trans hy'.symm, hz.trans hz'.symm⟩
    have hpairs : ∀ v ∈ (foundIn tree s limits separation (1 / 10)).proximity,
        ∃ v' ∈ (foundIn tree s limits' separation' (1 / 10)).proximity,
          v'.2 = { v.2 with limit := roundTo 2 separation' } :=
      fun v hv => proximity_mono s hlower hle hv
    obtain ⟨hviolations, hworst⟩ :=
      others_validateShow tree hsame s (some separation) (some separation') (1 / 10)
    refine ⟨limits, limits', _, _, hlimits, hlimits', ?_, ?_, hpairs, hviolations, hworst, ?_⟩
    · rw [validateChoreography, hlimits]
      rfl
    · rw [validateChoreography, hlimits']
      rfl
    · intro hpassed
      obtain ⟨hne, hclean⟩ := (validateShow_passed_iff tree).mp hpassed
      refine (validateShow_passed_iff tree).mpr ⟨hne, ?_⟩
      rw [Option.getD_some] at hclean ⊢
      have hnone : (foundIn tree s limits separation (1 / 10)).proximity = [] := by
        rw [List.eq_nil_iff_forall_not_mem]
        intro v hv
        obtain ⟨v', hv', -⟩ := hpairs v hv
        rw [hclean.1] at hv'
        exact absurd hv' List.not_mem_nil
      have hothers : others (foundIn tree s limits separation (1 / 10)) =
          others (foundIn tree s limits' separation' (1 / 10)) :=
        others_foundIn s hsame
      simp only [others, Prod.mk.injEq] at hothers
      obtain ⟨hvel, hacc, hyaw, halt, hground⟩ := hothers
      unfold Clean at hclean ⊢
      rw [hvel, hacc, hyaw, halt, hground]
      exact ⟨hnone, hclean.2⟩

def parked : Show ℚ where
  drones := [(0, [{ time := 0, x := 0, y := 0, z := 0, yaw := 0 }]),
    (1, [{ time := 0, x := 0, y := 11 / 5, z := 0, yaw := 0 }])]
  unique := by decide

theorem parked_relaxes : Relaxes bruteForce parked 1 2 none none none := by
  have hnone : ∀ v ∈ (none : Option ℚ), 0 < v := fun v hv => by cases hv
  exact (relaxes_iff bruteForce lowerFirst_bruteForce parked (by norm_num) hnone hnone hnone).mpr
    (by norm_num)

/-- A caller that asks for three metres gets no report. -/
theorem parked_refused : ¬ Relaxes bruteForce parked 2 3 none none none := by
  rintro ⟨limits, limits', r, r', -, h, -⟩
  exact choreographyLimits_ne_ok (by norm_num) limits' h

end Validation

end Taramandal.Studio.Validator
