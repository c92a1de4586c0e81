import Taramandal.Core.Floats
import Taramandal.Core.ReportOrder
import Taramandal.Studio.SpeedBudget

/-! # Fitting a formation to the site (`formation_bounds.py`)

What does not fit is moved over the origin, and then scaled down horizontally as long as the
spacing allows. Neither changes an altitude, and what has been moved or scaled is looked at
for its radius alone: the altitudes have to be within the limits from the start. -/
set_option linter.unusedSectionVars false

namespace Taramandal.Studio.SiteFit

open Lib.Pairs Core.Numbers Core.Floats Core.Safety
open Core.ReportOrder (roundTo_mono)
open Studio.SpeedBudget (foldl_max_spec)
open Studio.Layout Studio.Formations

structure FormationBounds (K : Type) where
  minX : K
  maxX : K
  minY : K
  maxY : K
  minZ : K
  maxZ : K
  maxRadiusM : K
  maxAltitudeM : K
  minAltitudeM : K
  centerX : K
  centerY : K
  centerZ : K

inductive FitError where
  | valueError (text : String)
  | zeroDivisionError
  deriving DecidableEq

variable {K : Type} [Field K] [LinearOrder K] [FloorRing K] [Sqrt K]

def fromPoints (points : List (Point K)) : FormationBounds K :=
  if points = [] then
    { minX := 0, maxX := 0, minY := 0, maxY := 0, minZ := 0, maxZ := 0, maxRadiusM := 0,
      maxAltitudeM := 0, minAltitudeM := 0, centerX := 0, centerY := 0, centerZ := 0 }
  else
    let minX := least (points.map Point.x)
    let maxX := greatest (points.map Point.x)
    let minY := least (points.map Point.y)
    let maxY := greatest (points.map Point.y)
    let minZ := least (points.map Point.z)
    let maxZ := greatest (points.map Point.z)
    { minX := roundTo 3 minX, maxX := roundTo 3 maxX, minY := roundTo 3 minY,
      maxY := roundTo 3 maxY, minZ := roundTo 3 minZ, maxZ := roundTo 3 maxZ,
      maxRadiusM := roundTo 3 (maxReach points), maxAltitudeM := roundTo 3 (-minZ),
      minAltitudeM := roundTo 3 (-maxZ), centerX := roundTo 3 ((minX + maxX) / 2),
      centerY := roundTo 3 ((minY + maxY) / 2), centerZ := roundTo 3 ((minZ + maxZ) / 2) }

def checkFormationGeofence (points : List (Point K)) (limits : SafetyLimits K) : List String :=
  let bounds := fromPoints points
  (if limits.geofenceRadiusM < bounds.maxRadiusM then
    ["Formation exceeds geofence radius: max distance " ++ fixed 2 bounds.maxRadiusM ++
      "m > limit " ++ fixed 2 limits.geofenceRadiusM ++ "m"] else []) ++
  (if limits.maxAltitudeM < bounds.maxAltitudeM then
    ["Formation exceeds altitude ceiling: max altitude " ++ fixed 2 bounds.maxAltitudeM ++
      "m > limit " ++ fixed 2 limits.maxAltitudeM ++ "m"] else []) ++
  (if bounds.minAltitudeM < 0 ∨ 5 / 100 < bounds.maxZ then
    ["Formation penetrates ground plane: lowest point at " ++ fixed 2 bounds.minAltitudeM ++
      "m (z = " ++ fixed 2 bounds.maxZ ++ "m > 0.0m)"] else [])

/-! ## Fitting -/

/-- Both altitudes are within the limits, to the millimetre. -/
def AltitudesFit (limits : SafetyLimits K) (points : List (Point K)) : Prop :=
  (fromPoints points).maxAltitudeM ≤ limits.maxAltitudeM ∧ 0 ≤ (fromPoints points).minAltitudeM

instance (limits : SafetyLimits K) (points : List (Point K)) :
    Decidable (AltitudesFit limits points) := inferInstanceAs (Decidable (_ ∧ _))

def repositioned (points : List (Point K)) : List (Point K) :=
  points.map fun p =>
    { p with x := p.x - (fromPoints points).centerX, y := p.y - (fromPoints points).centerY }

def Repositions (allowReposition : Bool) (points : List (Point K)) : Prop :=
  allowReposition = true ∧ ((fromPoints points).centerX ≠ 0 ∨ (fromPoints points).centerY ≠ 0)

instance (allowReposition : Bool) (points : List (Point K)) :
    Decidable (Repositions allowReposition points) := inferInstanceAs (Decidable (_ ∧ _))

def scaled (factor : K) (points : List (Point K)) : List (Point K) :=
  points.map fun p => { p with x := p.x * factor, y := p.y * factor }

/-- `current_min_d`; no distance at all is infinite. -/
def currentMinD (points : List (Point K)) : Option K :=
  ((pairs points).map fun p =>
    hypot2 (hypot2 (p.1.x - p.2.x) (p.1.y - p.2.y)) (p.1.z - p.2.z)).min?

/-- `current_min_d * scale_factor`. -/
def projectedMinD (points : List (Point K)) (factor : K) : Double K :=
  match currentMinD points with
  | some d => .finite (d * factor)
  | none => if factor = 0 then .nan else .inf (factor < 0)

/-- `f"{x:.2f}"`. -/
def doubleFixed2 : Double K → String
  | .finite x => fixed 2 x
  | .inf negative => if negative then "-inf" else "inf"
  | .nan => "nan"

section

variable (limits : SafetyLimits K)

/-- `limits.geofence_radius_m - 1.0` over the largest radius. -/
def scaleFactor (points : List (Point K)) : K :=
  (limits.geofenceRadiusM - 1) / (fromPoints points).maxRadiusM

/-- Scaling would take the spacing below the threshold. -/
def compresses (threshold : K) (points : List (Point K)) : Bool :=
  (projectedMinD points (scaleFactor limits points)).lt (.finite threshold)

/-- The third step: scaled down, if that is called for. -/
def scaleToFit (threshold : K) (allowScale : Bool)
    (points : List (Point K)) : Except FitError (List (Point K)) :=
  let radius := (fromPoints points).maxRadiusM
  if limits.geofenceRadiusM - 1 < radius then
    if allowScale = false then
      .error (.valueError ("Formation radius (" ++ fixed 2 radius ++
        "m) exceeds geofence radius (" ++ fixed 2 limits.geofenceRadiusM ++
        "m) and scaling is disabled."))
    else if radius = 0 then .error .zeroDivisionError
    else if compresses limits threshold points then
      .error (.valueError ("Formation cannot fit inside geofence radius " ++
        fixed 1 limits.geofenceRadiusM ++ "m: scaling by " ++
        fixed 2 (scaleFactor limits points) ++ " to fit would compress drone separation to " ++
        doubleFixed2 (projectedMinD points (scaleFactor limits points)) ++ "m, below the " ++
        fixed 2 threshold ++ "m minimum separation limit. Reduce fleet size or expand geofence."))
    else .ok (scaled (scaleFactor limits points) points)
  else .ok points

/-- `limits.min_separation_m`, unless there is a separation of its own. -/
def thresholdOf (minSeparation : Option K) : K :=
  minSeparation.getD limits.minSeparationM

end

def fitFormationToGeofence (points : List (Point K)) (limits : SafetyLimits K)
    (minSeparation : Option K) (allowReposition allowScale : Bool) :
    Except FitError (List (Point K)) :=
  let threshold := thresholdOf limits minSeparation
  if points = [] then .ok points
  else if (fromPoints points).maxRadiusM ≤ limits.geofenceRadiusM ∧ AltitudesFit limits points then
    .ok points
  else if Repositions allowReposition points then
    if (fromPoints (repositioned points)).maxRadiusM ≤ limits.geofenceRadiusM then
      .ok (repositioned points)
    else scaleToFit limits threshold allowScale (repositioned points)
  else scaleToFit limits threshold allowScale points

/-- What a fit that is returned promises of the points. -/
structure FitOk (limits : SafetyLimits K) (threshold : K) (points pts : List (Point K)) : Prop where
  length : pts.length = points.length
  safe : checkFormationGeofence pts limits = []
  spaced : ∀ (i j : ℕ) p q p' q', i < j → points[i]? = some p → points[j]? = some q →
    pts[i]? = some p' → pts[j]? = some q' → threshold ≤ distance p q → threshold ≤ distance p' q'
  altitudes : pts.map Point.z = points.map Point.z
  kept : checkFormationGeofence points limits = [] → pts = points

/-- A fit that is safe, or a `ValueError`. -/
def SafeOrRefused (limits : SafetyLimits K) (threshold : K) (points : List (Point K)) :
    Except FitError (List (Point K)) → Prop
  | .ok pts => FitOk limits threshold points pts
  | .error (.valueError _) => True
  | .error .zeroDivisionError => False

/-- Scaling is called for, and is switched off or would take the spacing below the threshold. -/
def Refuses (limits : SafetyLimits K) (threshold : K) (allowScale : Bool)
    (points : List (Point K)) : Prop :=
  limits.geofenceRadiusM - 1 < (fromPoints points).maxRadiusM ∧ (allowScale = false ∨
      (fromPoints points).maxRadiusM ≠ 0 ∧ compresses limits threshold points = true)

def moved (allowReposition : Bool) (points : List (Point K)) : List (Point K) :=
  if Repositions allowReposition points then repositioned points else points

/-- The altitudes are within the limits, and so are the radii, unless the points are refused; or
the altitudes are not, and the points are refused for their radii. -/
def Handled (limits : SafetyLimits K) (threshold : K) (allowReposition allowScale : Bool)
    (points : List (Point K)) : Prop :=
  let q := moved allowReposition points
  if AltitudesFit limits points then
    (fromPoints points).maxRadiusM ≤ limits.geofenceRadiusM ∨
      (fromPoints q).maxRadiusM ≤ limits.geofenceRadiusM ∨
      Refuses limits threshold allowScale q ∨
      roundTo 3 (|scaleFactor limits q| * maxReach q) ≤ limits.geofenceRadiusM
  else
    ¬ (Repositions allowReposition points ∧ (fromPoints q).maxRadiusM ≤ limits.geofenceRadiusM) ∧
      Refuses limits threshold allowScale q

/-! ## Altitudes -/

lemma map_z_scaled (factor : K) (points : List (Point K)) :
    (scaled factor points).map Point.z = points.map Point.z := by
  unfold scaled
  rw [List.map_map]
  rfl

lemma map_z_repositioned (points : List (Point K)) :
    (repositioned points).map Point.z = points.map Point.z := by
  unfold repositioned
  rw [List.map_map]
  rfl

lemma altitudes_congr {points pts : List (Point K)} (h : pts.map Point.z = points.map Point.z) :
    (fromPoints pts).maxAltitudeM = (fromPoints points).maxAltitudeM ∧
      (fromPoints pts).minAltitudeM = (fromPoints points).minAltitudeM ∧
      (fromPoints pts).maxZ = (fromPoints points).maxZ := by
  cases points with
  | nil =>
    obtain rfl : pts = [] := List.map_eq_nil_iff.mp h
    exact ⟨rfl, rfl, rfl⟩
  | cons p points =>
    cases pts with
    | nil => cases h
    | cons p' pts =>
      unfold fromPoints
      rw [if_neg (List.cons_ne_nil _ _), if_neg (List.cons_ne_nil _ _), h]
      exact ⟨rfl, rfl, rfl⟩

lemma altitudesFit_congr (limits : SafetyLimits K) {points pts : List (Point K)}
    (h : pts.map Point.z = points.map Point.z) :
    AltitudesFit limits pts ↔ AltitudesFit limits points := by
  obtain ⟨hmax, hmin, -⟩ := altitudes_congr h
  unfold AltitudesFit
  rw [hmax, hmin]

section

variable [IsStrictOrderedRing K]

lemma abs_roundTo_sub_le (x : K) : |roundTo 3 x - x| ≤ 1 / 2000 := by
  have h := abs_roundHalfEven_sub_le (x * 10 ^ 3)
  rw [abs_le] at h ⊢
  unfold roundTo
  constructor
  · rw [le_sub_iff_add_le, le_div_iff₀ (by norm_num)]
    linarith [h.1]
  · rw [sub_le_iff_le_add, div_le_iff₀ (by norm_num)]
    linarith [h.2]

lemma maxZ_le {points : List (Point K)} (h : 0 ≤ (fromPoints points).minAltitudeM) :
    (fromPoints points).maxZ ≤ 5 / 100 := by
  unfold fromPoints at h ⊢
  split_ifs at h ⊢ with hnil
  · norm_num
  · dsimp only at h ⊢
    have hneg := (abs_le.mp (abs_roundTo_sub_le (-greatest (points.map Point.z)))).2
    have hpos := (abs_le.mp (abs_roundTo_sub_le (greatest (points.map Point.z)))).2
    linarith

lemma check_eq_nil_iff {limits : SafetyLimits K} {points : List (Point K)} :
    checkFormationGeofence points limits = [] ↔
      (fromPoints points).maxRadiusM ≤ limits.geofenceRadiusM ∧ AltitudesFit limits points := by
  unfold checkFormationGeofence AltitudesFit
  constructor
  · intro h
    dsimp only at h
    rw [List.append_eq_nil_iff, List.append_eq_nil_iff] at h
    obtain ⟨⟨hradius, haltitude⟩, hground⟩ := h
    split_ifs at hradius haltitude hground with h1 h2 h3
    exact ⟨not_lt.mp h1, not_lt.mp h2, not_lt.mp fun hlow => h3 (.inl hlow)⟩
  · rintro ⟨hradius, haltitude, hground⟩
    dsimp only
    rw [if_neg (not_lt.mpr hradius), if_neg (not_lt.mpr haltitude),
      if_neg (not_or.mpr ⟨not_lt.mpr hground, not_lt.mpr (maxZ_le hground)⟩)]
    rfl

end

/-! ## Distances and radii -/

/-- Points moved in one piece, horizontally. -/
structure Rigid (points pts : List (Point ℝ)) : Prop where
  length : pts.length = points.length
  altitudes : pts.map Point.z = points.map Point.z
  spaced : ∀ (i j : ℕ) p q p' q', points[i]? = some p → points[j]? = some q →
    pts[i]? = some p' → pts[j]? = some q' → distance p' q' = distance p q

lemma Rigid.refl (points : List (Point ℝ)) : Rigid points points where
  length := rfl
  altitudes := rfl
  spaced i j p q p' q' hp hq hp' hq' := by
    obtain rfl := Option.some.inj (hp.symm.trans hp')
    obtain rfl := Option.some.inj (hq.symm.trans hq')
    rfl

lemma rigid_repositioned (points : List (Point ℝ)) : Rigid points (repositioned points) where
  length := List.length_map _
  altitudes := map_z_repositioned points
  spaced i j p q p' q' hp hq hp' hq' := by
    unfold repositioned at hp' hq'
    rw [List.getElem?_map, hp] at hp'
    rw [List.getElem?_map, hq] at hq'
    obtain rfl := Option.some.inj hp'
    obtain rfl := Option.some.inj hq'
    unfold distance
    dsimp only
    rw [sub_sub_sub_cancel_right, sub_sub_sub_cancel_right]

lemma rigid_moved (allowReposition : Bool) (points : List (Point ℝ)) :
    Rigid points (moved allowReposition points) := by
  unfold moved
  split_ifs
  · exact rigid_repositioned points
  · exact .refl points

lemma hypot2_hypot2 (x y z : ℝ) : hypot2 (hypot2 x y) z = hypot3 x y z := by
  unfold hypot2 hypot3
  have hsq : (sqrt (x * x + y * y) : ℝ) * sqrt (x * x + y * y) = x * x + y * y :=
    Real.mul_self_sqrt (add_nonneg (mul_self_nonneg x) (mul_self_nonneg y))
  rw [hsq]

lemma currentMinD_eq (points : List (Point ℝ)) : currentMinD points = minPairDist points := by
  unfold currentMinD minPairDist distance
  simp only [hypot2_hypot2]

lemma hypot2_scaled (x y factor : ℝ) :
    hypot2 (x * factor) (y * factor) = |factor| * hypot2 x y := by
  have hsq : x * factor * (x * factor) + y * factor * (y * factor) =
      factor * factor * (x * x + y * y) := by ring
  unfold hypot2
  rw [hsq]
  exact (Real.sqrt_mul (mul_self_nonneg factor) _).trans (by rw [Real.sqrt_mul_self_eq_abs]; rfl)

lemma maxReach_scaled (factor : ℝ) (points : List (Point ℝ)) :
    maxReach (scaled factor points) = |factor| * maxReach points := by
  have hfold : ∀ m : ℝ, (scaled factor points).foldl (fun m p => max m (hypot2 p.x p.y))
      (|factor| * m) = |factor| * points.foldl (fun m p => max m (hypot2 p.x p.y)) m := by
    unfold scaled
    induction points with
    | nil => exact fun _ => rfl
    | cons p points ih =>
      intro m
      rw [List.map_cons, List.foldl_cons, List.foldl_cons, hypot2_scaled,
        ← mul_max_of_nonneg _ _ (abs_nonneg factor)]
      exact ih _
  have hzero := hfold 0
  rwa [mul_zero] at hzero

lemma mul_distance_le {factor : ℝ} (hpos : 0 ≤ factor) (hone : factor ≤ 1) (p q : Point ℝ) :
    factor * distance p q ≤ distance { p with x := p.x * factor, y := p.y * factor }
      { q with x := q.x * factor, y := q.y * factor } := by
  have hsq : factor * factor ≤ 1 := mul_le_one₀ hone hpos hone
  have hz := mul_le_mul_of_nonneg_right hsq (mul_self_nonneg (p.z - q.z))
  have hroot : factor * distance p q = √(factor * factor *
      ((p.x - q.x) * (p.x - q.x) + (p.y - q.y) * (p.y - q.y) + (p.z - q.z) * (p.z - q.z))) := by
    rw [Real.sqrt_mul (mul_self_nonneg factor), Real.sqrt_mul_self hpos]
    rfl
  rw [hroot]
  refine Real.sqrt_le_sqrt ?_
  dsimp only
  rw [← sub_mul, ← sub_mul]
  linarith

lemma scaled_getElem? {factor : ℝ} {points : List (Point ℝ)} {i : ℕ} {p p' : Point ℝ}
    (hp : points[i]? = some p) (hp' : (scaled factor points)[i]? = some p') :
    p' = { p with x := p.x * factor, y := p.y * factor } := by
  unfold scaled at hp'
  rw [List.getElem?_map, hp] at hp'
  exact (Option.some.inj hp').symm

/-- Scaled by no more than one, and not below the threshold, every pair keeps to it. -/
lemma spaced_scaled {factor threshold : ℝ} {points : List (Point ℝ)} (hone : factor ≤ 1)
    (hproj : (projectedMinD points factor).lt (.finite threshold) = false) {i j : ℕ}
    {p q p' q' : Point ℝ} (hij : i < j) (hp : points[i]? = some p) (hq : points[j]? = some q)
    (hp' : (scaled factor points)[i]? = some p') (hq' : (scaled factor points)[j]? = some q') :
    threshold ≤ distance p' q' := by
  have hmem : distance p q ∈ (pairs points).map fun p => distance p.1 p.2 :=
    List.mem_map_of_mem (f := fun p : Point ℝ × Point ℝ => distance p.1 p.2)
      (mem_pairs_of_lt hij hp hq)
  obtain ⟨d, hd⟩ := Option.isSome_iff_exists.mp (List.isSome_min?_of_mem hmem)
  obtain ⟨hmin, hle⟩ := List.min?_eq_some_iff.mp hd
  unfold projectedMinD at hproj
  rw [currentMinD_eq, minPairDist, hd] at hproj
  have hkeep : threshold ≤ d * factor := not_lt.mp (of_decide_eq_false hproj)
  rw [scaled_getElem? hp hp', scaled_getElem? hq hq']
  rcases le_or_gt 0 factor with hpos | hneg
  · refine hkeep.trans (le_trans ?_ (mul_distance_le hpos hone p q))
    rw [mul_comm]
    exact mul_le_mul_of_nonneg_left (hle _ hmem) hpos
  · obtain ⟨pq, -, rfl⟩ := List.mem_map.mp hmin
    have hdown := mul_nonpos_of_nonneg_of_nonpos (Real.sqrt_nonneg _ : 0 ≤ distance pq.1 pq.2)
      hneg.le
    exact (hkeep.trans hdown).trans (Real.sqrt_nonneg _)

lemma maxRadiusM_eq {points : List (Point K)} (h : points ≠ []) :
    (fromPoints points).maxRadiusM = roundTo 3 (maxReach points) := by
  unfold fromPoints
  rw [if_neg h]

lemma maxRadiusM_nonneg (points : List (Point ℝ)) : 0 ≤ (fromPoints points).maxRadiusM := by
  by_cases h : points = []
  · subst h
    exact le_rfl
  · have hreach : 0 ≤ maxReach points := (foldl_max_spec _ points 0).1.1
    have hzero : roundTo 3 (0 : ℝ) = 0 := by
      have hround : roundHalfEven (0 : ℝ) = 0 := by exact_mod_cast roundHalfEven_intCast (K := ℝ) 0
      rw [roundTo, zero_mul, hround, Int.cast_zero, zero_div]
    rw [maxRadiusM_eq h, ← hzero]
    exact roundTo_mono 3 hreach

section Fit

variable {limits : SafetyLimits ℝ} {threshold : ℝ} {allowReposition allowScale : Bool}
  {points q : List (Point ℝ)}

lemma fitOk_of_rigid (h : Rigid points q) (hsafe : checkFormationGeofence q limits = [])
    (hkept : checkFormationGeofence points limits = [] → q = points) :
    FitOk limits threshold points q where
  length := h.length
  safe := hsafe
  spaced i j p r p' r' _ hp hr hp' hr' hle :=
    hle.trans_eq (h.spaced i j p r p' r' hp hr hp' hr').symm
  altitudes := h.altitudes
  kept := hkept

lemma fitOk_scaled (h : Rigid points q) (hone : scaleFactor limits q ≤ 1)
    (hproj : compresses limits threshold q = false)
    (hsafe : checkFormationGeofence (scaled (scaleFactor limits q) q) limits = [])
    (hout : checkFormationGeofence points limits ≠ []) :
    FitOk limits threshold points (scaled (scaleFactor limits q) q) where
  length := (List.length_map _).trans h.length
  safe := hsafe
  spaced i j p r p' r' hij hp hr hp' hr' _ := by
    have hat : ∀ {k : ℕ} {p' : Point ℝ}, (scaled (scaleFactor limits q) q)[k]? = some p' →
        ∃ p, q[k]? = some p := by
      intro k p' hp'
      unfold scaled at hp'
      rw [List.getElem?_map] at hp'
      obtain ⟨p, hp, -⟩ := Option.map_eq_some_iff.mp hp'
      exact ⟨p, hp⟩
    obtain ⟨s, hs⟩ := hat hp'
    obtain ⟨t, ht⟩ := hat hr'
    exact spaced_scaled hone hproj hij hs ht hp' hr'
  altitudes := (map_z_scaled _ q).trans h.altitudes
  kept hfit := absurd hfit hout

lemma Rigid.ne_nil (h : Rigid points q) (hne : points ≠ []) : q ≠ [] := by
  rintro rfl
  exact hne (List.length_eq_zero_iff.mp h.length.symm)

lemma scaleFactor_le_one (hr : (fromPoints q).maxRadiusM ≠ 0)
    (hcall : limits.geofenceRadiusM - 1 < (fromPoints q).maxRadiusM) :
    scaleFactor limits q ≤ 1 :=
  (div_le_one ((maxRadiusM_nonneg q).lt_of_ne' hr)).mpr hcall.le

lemma check_scaled_iff (hne : q ≠ []) (factor : ℝ) :
    checkFormationGeofence (scaled factor q) limits = [] ↔
      roundTo 3 (|factor| * maxReach q) ≤ limits.geofenceRadiusM ∧ AltitudesFit limits q := by
  have hscaled : scaled factor q ≠ [] := fun h => hne (List.map_eq_nil_iff.mp h)
  rw [check_eq_nil_iff, maxRadiusM_eq hscaled, maxReach_scaled,
    altitudesFit_congr limits (map_z_scaled factor q)]

variable (threshold allowScale) in
lemma scaleToFit_iff (h : Rigid points q) (hne : q ≠ [])
    (hout : checkFormationGeofence points limits ≠ [])
    (hradius : limits.geofenceRadiusM < (fromPoints q).maxRadiusM ∨ ¬ AltitudesFit limits points) :
    SafeOrRefused limits threshold points (scaleToFit limits threshold allowScale q) ↔
      Refuses limits threshold allowScale q ∨ AltitudesFit limits points ∧
        roundTo 3 (|scaleFactor limits q| * maxReach q) ≤ limits.geofenceRadiusM := by
  have hpos : 0 < limits.geofenceRadiusM := limits.all_pos.2.2.2.2.1
  have haltitudes := altitudesFit_congr limits h.altitudes
  unfold scaleToFit
  dsimp only
  split_ifs with hcall hoff hzero hcompress
  · exact iff_of_true trivial (.inl ⟨hcall, .inl hoff⟩)
  · refine iff_of_false id ?_
    rintro (⟨-, hoff' | ⟨hnonzero, -⟩⟩ | ⟨hfit, -⟩)
    · exact hoff hoff'
    · exact hnonzero hzero
    · rcases hradius with hfar | hno
      · rw [hzero] at hfar
        exact absurd hfar hpos.le.not_gt
      · exact hno hfit
  · exact iff_of_true trivial (.inl ⟨hcall, .inr ⟨hzero, hcompress⟩⟩)
  · have hproj : compresses limits threshold q = false := Bool.eq_false_iff.mpr hcompress
    constructor
    · intro hok
      obtain ⟨hround, hfit⟩ := (check_scaled_iff hne _).mp hok.safe
      exact .inr ⟨haltitudes.mp hfit, hround⟩
    · rintro (⟨-, hoff' | ⟨-, hcompress'⟩⟩ | ⟨hfit, hround⟩)
      · exact absurd hoff' hoff
      · exact absurd hcompress' hcompress
      · exact fitOk_scaled h (scaleFactor_le_one hzero hcall) hproj
          ((check_scaled_iff hne _).mpr ⟨hround, haltitudes.mpr hfit⟩) hout
  · have hno : ¬ AltitudesFit limits points := by
      rcases hradius with hfar | hno
      · exact absurd hcall (not_not.mpr (by linarith))
      · exact hno
    refine iff_of_false (fun hok => ?_) ?_
    · exact hno (haltitudes.mp (check_eq_nil_iff.mp hok.safe).2)
    · rintro (⟨hcall', -⟩ | ⟨hfit, -⟩)
      · exact hcall hcall'
      · exact hno hfit

/-- A formation is fitted, or refused, exactly where its altitudes and the site's size allow it. -/
theorem fit_safe_iff (limits : SafetyLimits ℝ) (minSeparation : Option ℝ)
    (allowReposition allowScale : Bool) {points : List (Point ℝ)} (hne : points ≠ []) :
    SafeOrRefused limits (thresholdOf limits minSeparation) points
        (fitFormationToGeofence points limits minSeparation allowReposition allowScale) ↔
      Handled limits (thresholdOf limits minSeparation) allowReposition allowScale points := by
  have hrigid := rigid_moved allowReposition points
  unfold fitFormationToGeofence Handled
  dsimp only
  rw [if_neg hne]
  by_cases hfits : (fromPoints points).maxRadiusM ≤ limits.geofenceRadiusM ∧
      AltitudesFit limits points
  · rw [if_pos hfits, if_pos hfits.2]
    exact iff_of_true (fitOk_of_rigid (.refl points) (check_eq_nil_iff.mpr hfits) fun _ => rfl)
      (.inl hfits.1)
  have hout : checkFormationGeofence points limits ≠ [] := fun h => hfits (check_eq_nil_iff.mp h)
  rw [if_neg hfits]
  by_cases hnear : Repositions allowReposition points ∧
      (fromPoints (moved allowReposition points)).maxRadiusM ≤ limits.geofenceRadiusM
  · -- returned as repositioned, whatever its altitudes are
    have hmoved : moved allowReposition points = repositioned points := if_pos hnear.1
    rw [hmoved] at hnear hrigid ⊢
    rw [if_pos hnear.1, if_pos hnear.2]
    have haltitudes := altitudesFit_congr limits hrigid.altitudes
    constructor
    · intro hok
      rw [if_pos (haltitudes.mp (check_eq_nil_iff.mp hok.safe).2)]
      exact .inr (.inl hnear.2)
    · intro hhandled
      split_ifs at hhandled with hfit
      · exact fitOk_of_rigid hrigid (check_eq_nil_iff.mpr ⟨hnear.2, haltitudes.mpr hfit⟩)
          fun h => absurd h hout
      · exact absurd hnear hhandled.1
  have hthird := scaleToFit_iff (thresholdOf limits minSeparation) allowScale hrigid
    (hrigid.ne_nil hne) hout
  have hstep : (if Repositions allowReposition points then
      if (fromPoints (repositioned points)).maxRadiusM ≤ limits.geofenceRadiusM then
        .ok (repositioned points)
      else scaleToFit limits (thresholdOf limits minSeparation) allowScale (repositioned points)
      else scaleToFit limits (thresholdOf limits minSeparation) allowScale points) =
      scaleToFit limits (thresholdOf limits minSeparation) allowScale
        (moved allowReposition points) := by
    unfold moved at hnear ⊢
    split_ifs with hmoves hin
    · rw [if_pos hmoves] at hnear
      exact absurd ⟨hmoves, hin⟩ hnear
    · rfl
    · rfl
  rw [hstep]
  by_cases haltitudes : AltitudesFit limits points
  · have hfar : ¬ (fromPoints points).maxRadiusM ≤ limits.geofenceRadiusM :=
      fun h => hfits ⟨h, haltitudes⟩
    have hfar' : ¬ (fromPoints (moved allowReposition points)).maxRadiusM ≤
        limits.geofenceRadiusM := by
      intro h
      by_cases hmoves : Repositions allowReposition points
      · exact hnear ⟨hmoves, h⟩
      · exact hfar (by rwa [show moved allowReposition points = points from if_neg hmoves] at h)
    rw [if_pos haltitudes, hthird (.inl (not_le.mp hfar')), or_iff_right hfar, or_iff_right hfar',
      and_iff_right haltitudes]
  · rw [if_neg haltitudes, hthird (.inr haltitudes), and_iff_right hnear,
      or_iff_left fun h => haltitudes h.1]

end Fit

theorem fit_safe_iff_lone :
    SafeOrRefused (defaultLimits : SafetyLimits ℝ) (thresholdOf defaultLimits none) [⟨0, 0, -8⟩]
        (fitFormationToGeofence [⟨0, 0, -8⟩] defaultLimits none true true) ↔
      Handled (defaultLimits : SafetyLimits ℝ) (thresholdOf defaultLimits none) true true
        [⟨0, 0, -8⟩] :=
  fit_safe_iff defaultLimits none true true (List.cons_ne_nil _ _)

def tooHigh : List (Point ℚ) := [{ x := 0, y := 0, z := -130 }]

theorem tooHigh_returned :
    fitFormationToGeofence tooHigh defaultLimits none true true = .ok tooHigh ∧
      ¬ SafeOrRefused defaultLimits (thresholdOf defaultLimits none) tooHigh
        (fitFormationToGeofence tooHigh defaultLimits none true true) := by
  have hreturned : fitFormationToGeofence tooHigh defaultLimits none true true = .ok tooHigh := by
    decide +kernel
  refine ⟨hreturned, fun h => ?_⟩
  rw [hreturned] at h
  have herrors : checkFormationGeofence tooHigh defaultLimits ≠ [] := by decide +kernel
  exact herrors h.safe

end Taramandal.Studio.SiteFit
