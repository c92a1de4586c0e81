import Taramandal.Studio.FormationBuild
import Taramandal.Studio.SiteFit
import Taramandal.Studio.SplitFormations

/-! # What a built formation is (`formations.js`)

The reach is checked before the points are shrunk, and never again: shrinking leaves them half a
metre inside the site. If a coordinate is infinite the reach is too, and so the points are shrunk
to nothing; what was infinite is no number then, and the last check finds it. -/
set_option linter.unusedSectionVars false

namespace Taramandal.Studio.FormationSafety

open Core.Numbers Core.Floats Core.ScriptFloats Lib.Check Lib.Pairs Studio.Layout Studio.Clouds
open Studio.Generators Studio.Lettering Studio.SvgFormation Studio.FormationBuild
open Studio.Formations (ShapeType siteRadiusM minSeparationM maxAltitudeM tolerance
  scaleOf)

section

variable {host : Host ℝ} {payload : Value ℝ} {n : ℕ} {s : ℝ} {raw : Cloud ℝ}

lemma length_of_mapM {ε α β : Type} {f : α → Except ε β} {as : List α} {bs : List β}
    (h : as.mapM f = .ok bs) : bs.length = as.length := (mapM_eq_ok.mp h).length_eq.symm

lemma length_parsePointsPayload (h : parsePointsPayload host payload n = .ok raw) :
    raw.length = n := by
  unfold parsePointsPayload at h
  split at h
  · cases h
  · split_ifs at h with hlen
    exact (length_of_mapM h).trans (not_not.mp hlen)
  · cases h

lemma length_textPoints (h : textPoints host payload n s = .ok raw) : raw.length = n := by
  unfold textPoints at h
  split at h
  · obtain rfl := Except.ok.inj h
    exact length_fmtText _ _
  · split_ifs at h
    obtain rfl := Except.ok.inj h
    exact length_fmtText _ _

lemma length_svgPoints (h : svgPoints payload n s = .ok raw) : raw.length = n := by
  unfold svgPoints at h
  split at h
  · cases h
  next pts hpts =>
    obtain rfl := Except.ok.inj h
    rw [List.length_map]
    exact length_svgToFormation hpts

lemma length_fromPoints (h : fromPoints host payload n s = .ok raw) : raw.length = n := by
  obtain ⟨pts, -, h⟩ := bind_eq_ok.mp h
  split_ifs at h with hempty hshort
  split at h
  next items =>
    have hlen : n ≤ items.length := by
      have hnot : ¬ ((items.length : ℝ) < n) := fun hlt => hshort (decide_eq_true hlt)
      exact_mod_cast not_lt.mp hnot
    rw [length_of_mapM h, List.length_take, min_eq_left hlen]
  · cases h

lemma length_parametricPoints (h : parametricPoints host payload n s = .ok raw) :
    raw.length = n := by
  unfold parametricPoints at h
  dsimp only at h
  split_ifs at h
  split at h
  · obtain rfl := Except.ok.inj h
    exact length_generate .sphere n _
  next shape _ _ =>
    obtain rfl := Except.ok.inj h
    exact length_stackIfOversized (length_generate shape) n _
  · obtain rfl := Except.ok.inj h
    exact length_stackIfOversized (length_generate .circle) n _

lemma length_shapePoints {shapeType : ShapeType}
    (h : shapePoints host shapeType payload n s = .ok raw) : raw.length = n := by
  cases shapeType with
  | exactPoints => exact length_parsePointsPayload h
  | text => exact length_textPoints h
  | svg => exact length_svgPoints h
  | points => exact length_fromPoints h
  | parametric => exact length_parametricPoints h

lemma length_rawFormation {shapeType : ShapeType} {scale : Value ℝ}
    (h : rawFormation host shapeType payload n scale = .ok raw) : raw.length = n := by
  obtain ⟨pts, hpts, h⟩ := bind_eq_ok.mp h
  split_ifs at h
  · split at h
    · cases h
    · obtain rfl := Except.ok.inj h
      exact length_generate .circle n _
  · obtain rfl := Except.ok.inj h
    exact length_shapePoints hpts

lemma length_fitToSite {pts current : Cloud ℝ} (h : fitToSite pts = .ok current) :
    current.length = pts.length := by
  have hshifted : (shiftedToSite pts).length = pts.length := by
    unfold shiftedToSite
    dsimp only
    split
    · exact List.length_map _
    · rfl
  unfold fitToSite at h
  split_ifs at h
  · unfold shrunkToSite at h
    dsimp only at h
    split_ifs at h
    obtain rfl := Except.ok.inj h
    rw [shrunkBy, List.length_map, hshifted]
  · obtain rfl := Except.ok.inj h
    exact hshifted
  · obtain rfl := Except.ok.inj h
    rfl

end

section

variable {K : Type} [Field K] [LinearOrder K] [Sqrt K]

variable {b x v : K}

lemma length_le_of_norm_le {vs : List K}
    (h : (Double.norm (vs.map .finite)).le (.finite b) = true) :
    sqrt (vs.map fun x => x * x).sum ≤ b := by
  rw [Double.norm_of_finite] at h
  split at h
  · cases h
  · exact of_decide_eq_true h

lemma hypot2_le_of_norm_le {y : K}
    (h : (Double.norm [.finite x, .finite y]).le (.finite b) = true) : hypot2 x y ≤ b := by
  have hle : sqrt ([x, y].map fun x => x * x).sum ≤ b := length_le_of_norm_le h
  rwa [List.map_cons, List.map_cons, List.map_nil, List.sum_cons, List.sum_cons, List.sum_nil,
    add_zero] at hle

lemma within_of_not_tooFar {qs : List (Point K)} (h : tooFar (qs.map ofNumbers) = false) :
    ∀ q ∈ qs, hypot2 q.x q.y ≤ siteRadiusM + tolerance := by
  intro q hq
  have hne := maxReach_ofNumbers_ne_nan qs
  have hreach := le_maxReach hne (ofNumbers q) (List.mem_map_of_mem hq)
  exact hypot2_le_of_norm_le (Double.le_trans hreach (le_of_not_exceeds h hne))

lemma eq_of_rounded (h : Double.rounded x = .finite v) : v = x := by
  unfold Double.rounded at h
  split at h
  · cases h
  · exact (Double.finite.inj h).symm

lemma mul_eq_finite {x : Double K} {k : K} (h : x * .finite k = .finite v) :
    ∃ u, x = .finite u ∧ v = u * k := by
  cases x with
  | finite u => exact ⟨u, rfl, eq_of_rounded h⟩
  | inf a =>
    have hinf : (if k = 0 then Double.nan else .inf (a != decide (k < 0))) = .finite v := h
    split at hinf <;> cases hinf
  | nan => cases h

/-- A quotient by what exceeds a positive number: a number, or by an infinity zero. -/
lemma div_of_exceeds {a b : ℝ} {R : Double ℝ} (ha : 0 ≤ a) (hab : a ≤ b) (hb : 0 < b)
    (h : (Double.finite b).lt R = true) :
    ∃ k, .finite a / R = .finite k ∧ (R = .inf false ∧ k = 0 ∨ ∃ r, R = .finite r ∧ k * r = a) := by
  cases R with
  | finite r =>
    have hr : b < r := of_decide_eq_true h
    have hpos := hb.trans hr
    have hle : |a / r| ≤ 1 := by
      rw [abs_of_nonneg (div_nonneg ha hpos.le), div_le_one hpos]
      exact hab.trans hr.le
    have hsmall : ¬ overflowFrom ≤ |a / r| :=
      not_le.mpr (hle.trans_lt (one_lt_two.trans_le two_le_overflowFrom))
    refine ⟨a / r, ?_, .inr ⟨r, rfl, div_mul_cancel₀ a hpos.ne'⟩⟩
    show (if r = 0 then _ else Double.rounded (a / r)) = _
    rw [if_neg hpos.ne', Double.rounded, if_neg hsmall]
  | inf negative =>
    cases negative with
    | true => cases h
    | false => exact ⟨0, rfl, .inl ⟨rfl, rfl⟩⟩
  | nan => cases h

lemma within_of_shrunk {pts : Cloud ℝ} {k : Double ℝ} {qs : List (Point ℝ)}
    (hfar : tooFar pts = true) (hk : k = .finite (siteRadiusM - 1 / 2) / maxReach pts)
    (hqs : shrunkBy k pts = qs.map ofNumbers) :
    ∀ q ∈ qs, hypot2 q.x q.y ≤ siteRadiusM + tolerance := by
  have hhalf : (siteRadiusM - 1 / 2 : ℝ) ≤ siteRadiusM + tolerance := by
    norm_num [siteRadiusM, tolerance]
  have hzero : (0 : ℝ) ≤ siteRadiusM - 1 / 2 := by norm_num [siteRadiusM]
  obtain ⟨k', hk', hreach⟩ := div_of_exceeds hzero hhalf (by norm_num [siteRadiusM, tolerance]) hfar
  have hne : maxReach pts ≠ .nan := by
    rcases hreach with ⟨hR, -⟩ | ⟨r, hR, -⟩
    · exact hR ▸ inf_ne_nan false
    · exact hR ▸ finite_ne_nan r
  intro q hq
  have hmem : ofNumbers q ∈ shrunkBy k pts := hqs ▸ List.mem_map_of_mem hq
  obtain ⟨p, hp, hpq⟩ := List.mem_map.mp hmem
  have hx : p.x * .finite k' = .finite q.x := by
    rw [← hk', ← hk]
    exact congrArg Point.x hpq
  have hy : p.y * .finite k' = .finite q.y := by
    rw [← hk', ← hk]
    exact congrArg Point.y hpq
  obtain ⟨x, hpx, hqx⟩ := mul_eq_finite hx
  obtain ⟨y, hpy, hqy⟩ := mul_eq_finite hy
  rw [hqx, hqy, SiteFit.hypot2_scaled]
  rcases hreach with ⟨-, rfl⟩ | ⟨r, hR, hkr⟩
  · rw [abs_zero, zero_mul]
    exact hzero.trans hhalf
  · have hle := le_maxReach hne p hp
    rw [hpx, hpy, hR] at hle
    have hnorm := hypot2_le_of_norm_le hle
    have hr : 0 < r := by
      have hexceeds : (Double.finite (siteRadiusM + tolerance)).lt (.finite r) = true := hR ▸ hfar
      have hlt : (siteRadiusM + tolerance : ℝ) < r := of_decide_eq_true hexceeds
      exact (by norm_num [siteRadiusM, tolerance] : (0 : ℝ) < siteRadiusM + tolerance).trans hlt
    have hk0 : 0 ≤ k' := nonneg_of_mul_nonneg_left (hkr ▸ hzero) hr
    calc |k'| * hypot2 x y = k' * hypot2 x y := by rw [abs_of_nonneg hk0]
      _ ≤ k' * r := mul_le_mul_of_nonneg_left hnorm hk0
      _ ≤ siteRadiusM + tolerance := hkr.le.trans hhalf

end

variable {qs : List (Point ℝ)}

variable {b : ℝ} {pts current : Cloud ℝ}

lemma below_of_mathMax
    (h : (Double.finite b).lt (mathMax ((qs.map ofNumbers).map fun p => -p.z)) = false) :
    ∀ q ∈ qs, -q.z ≤ b := by
  have hnan : .nan ∉ (qs.map ofNumbers).map fun p => -p.z := by
    rw [List.map_map]
    intro hmem
    obtain ⟨q, -, hq⟩ := List.mem_map.mp hmem
    exact finite_ne_nan (-q.z) hq
  intro q hq
  have hle := le_of_mathMax hnan h (.finite (-q.z))
    (List.mem_map_of_mem (f := fun p : Point (Double ℝ) => -p.z) (List.mem_map_of_mem hq))
  exact of_decide_eq_true hle

lemma mul_self_le_sum {vs : List ℝ} {v : ℝ} (hv : v ∈ vs) :
    v * v ≤ (vs.map fun x => x * x).sum := by
  refine List.single_le_sum (fun x hx => ?_) _ (List.mem_map_of_mem (f := fun x => x * x) hv)
  obtain ⟨u, -, rfl⟩ := List.mem_map.mp hx
  exact mul_self_nonneg u

lemma le_sqrt_of_norm {vs : List ℝ} {b : ℝ} (hover : b ≤ overflowFrom)
    (h : Double.norm (vs.map .rounded) = .nan ∨
      (Double.finite b).le (Double.norm (vs.map .rounded)) = true) :
    b ≤ sqrt (vs.map fun x => x * x).sum := by
  by_cases hfits : ∀ v ∈ vs, ¬ overflowFrom ≤ |v|
  · have hmap : vs.map Double.rounded = vs.map .finite :=
      List.map_congr_left fun v hv => if_neg (hfits v hv)
    rw [hmap] at h
    have hle := h.resolve_left (norm_finite_ne_nan vs)
    rw [Double.norm_of_finite] at hle
    split at hle
    next hlong => exact hover.trans hlong
    next => exact of_decide_eq_true hle
  · push Not at hfits
    obtain ⟨v, hv, hlong⟩ := hfits
    calc b ≤ |v| := hover.trans hlong
      _ = Real.sqrt (v * v) := (Real.sqrt_mul_self_eq_abs v).symm
      _ ≤ sqrt (vs.map fun x => x * x).sum := Real.sqrt_le_sqrt (mul_self_le_sum hv)

lemma apart_of_minPairDist (hover : b ≤ overflowFrom)
    (h : (minPairDist (qs.map ofNumbers)).lt (.finite b) = false) :
    qs.Pairwise fun p q => b ≤ Formations.distance p q := by
  refine pairwise_of_pairs fun p q hpq => ?_
  have hmem : distance (ofNumbers p) (ofNumbers q) ∈
      (pairs (qs.map ofNumbers)).map fun p => distance p.1 p.2 := by
    rw [pairs_map, List.map_map]
    exact List.mem_map.mpr ⟨(p, q), hpq, rfl⟩
  have hle := @le_sqrt_of_norm [p.x - q.x, p.y - q.y, p.z - q.z] _ hover (le_of_not_below h _ hmem)
  simpa [Formations.distance, hypot3, add_assoc] using hle

/-! ## What is built -/

/-- A formation that can be flown. -/
structure Flyable (n : ℕ) (qs : List (Point ℝ)) : Prop where
  length : qs.length = n
  within : ∀ q ∈ qs, hypot2 q.x q.y ≤ siteRadiusM + tolerance
  below : ∀ q ∈ qs, -q.z ≤ maxAltitudeM + tolerance
  apart : qs.Pairwise fun p q => minSeparationM - tolerance ≤ Formations.distance p q

lemma exists_number {p : Point (Double ℝ)} (h : areNumbers p = true) :
    ∃ q : Point ℝ, p = ofNumbers q := by
  obtain ⟨px, py, pz⟩ := p
  rw [areNumbers, Bool.and_eq_true, Bool.and_eq_true] at h
  obtain ⟨⟨hx, hy⟩, hz⟩ := h
  obtain ⟨x, rfl⟩ := exists_of_isNumber hx
  obtain ⟨y, rfl⟩ := exists_of_isNumber hy
  obtain ⟨z, rfl⟩ := exists_of_isNumber hz
  exact ⟨⟨x, y, z⟩, rfl⟩

lemma exists_numbers (h : pts.all areNumbers = true) :
    ∃ qs : List (Point ℝ), pts = qs.map ofNumbers := by
  induction pts with
  | nil => exact ⟨[], rfl⟩
  | cons p pts ih =>
    rw [List.all_cons, Bool.and_eq_true] at h
    obtain ⟨q, rfl⟩ := exists_number h.1
    obtain ⟨qs, rfl⟩ := ih h.2
    exact ⟨q :: qs, rfl⟩

variable {host : Host ℝ} {shapeType : ShapeType} {payload : Value ℝ} {n : ℕ} {scale : Value ℝ}

lemma fitToSite_within {placed : Cloud ℝ} (h : fitToSite placed = .ok (qs.map ofNumbers)) :
    ∀ q ∈ qs, hypot2 q.x q.y ≤ siteRadiusM + tolerance := by
  unfold fitToSite at h
  split_ifs at h with hfar hshifted
  · unfold shrunkToSite at h
    dsimp only at h
    split_ifs at h
    exact within_of_shrunk hshifted rfl (Except.ok.inj h)
  · exact within_of_not_tooFar (Except.ok.inj h ▸ Bool.eq_false_iff.mpr hshifted)
  · exact within_of_not_tooFar (Except.ok.inj h ▸ Bool.eq_false_iff.mpr hfar)

lemma checkFormation_spec (h : checkFormation host payload current = .ok pts) :
    pts = current ∧ ∃ qs : List (Point ℝ), current = qs.map ofNumbers ∧
      (∀ q ∈ qs, -q.z ≤ maxAltitudeM + tolerance) ∧
      qs.Pairwise fun p q => minSeparationM - tolerance ≤ Formations.distance p q := by
  unfold checkFormation at h
  dsimp only at h
  split_ifs at h with halt hmin hnum
  obtain rfl := Except.ok.inj h
  obtain ⟨qs, rfl⟩ := exists_numbers hnum
  have hover : (minSeparationM - tolerance : ℝ) ≤ overflowFrom :=
    le_trans (by norm_num [minSeparationM, tolerance]) two_le_overflowFrom
  exact ⟨rfl, qs, rfl, below_of_mathMax (Bool.eq_false_iff.mpr halt),
    apart_of_minPairDist hover (Bool.eq_false_iff.mpr hmin)⟩

lemma fitToSite_of_not_tooFar {placed : Cloud ℝ} (hfar : ¬ tooFar placed = true)
    (h : fitToSite placed = .ok current) : current = placed := by
  rw [fitToSite, if_neg hfar] at h
  exact (Except.ok.inj h).symm

noncomputable def soloPoint : Value ℝ := .obj [("x", .num (.finite 0)), ("z", .num (.finite (-8)))]

noncomputable def soloHost : Host ℝ where
  textNumber _ := .nan
  numberText _ := ""
  objectText _ := "[object Object]"
  jsonParse s := if s = "[\x7b\"x\": 0, \"z\": -8\x7d]" then .ok (.arr [soloPoint]) else .error ""
  typeError k := k

def soloPayload : Value ℝ := .str "[\x7b\"x\": 0, \"z\": -8\x7d]"

noncomputable def solo : Point ℝ := ⟨0, 0, -8⟩

lemma maxReach_solo : maxReach ([solo].map ofNumbers) = .finite 0 := by
  have hnorm : Double.norm [.finite (0 : ℝ), .finite 0] = .finite 0 := by
    have hlong : ¬ (overflowFrom : ℝ) ≤ 0 := not_le.mpr (two_pos.trans_le two_le_overflowFrom)
    have h := Double.norm_of_finite [(0 : ℝ), 0]
    simp only [List.map_cons, List.map_nil, mul_zero, List.sum_cons, List.sum_nil, add_zero,
      sqrt_real, Real.sqrt_zero, if_neg hlong] at h
    exact h
  show mathMax [.finite 0, Double.norm [.finite (0 : ℝ), .finite 0]] = .finite 0
  rw [hnorm]
  simp [mathMax, Double.maximum, Double.lt]

lemma solo_built :
    buildFormation soloHost .exactPoints soloPayload 1 .undefined = .ok ([solo].map ofNumbers) := by
  have hraw : rawFormation soloHost .exactPoints soloPayload 1 .undefined =
      .ok ([solo].map ofNumbers) := rfl
  have hfar : ¬ tooFar ([solo].map ofNumbers) = true := by
    rw [tooFar, maxReach_solo]
    norm_num [Double.lt, siteRadiusM, tolerance]
  have halt : ¬ (Double.finite (maxAltitudeM + tolerance)).lt
      (mathMax (([solo].map ofNumbers).map fun p => -p.z)) = true := by
    have hmax : mathMax [.finite (- -8 : ℝ)] = .finite 8 := by
      simp [mathMax, Double.maximum, Double.lt]
    show ¬ (Double.finite (maxAltitudeM + tolerance : ℝ)).lt (mathMax [.finite (- -8)]) = true
    rw [hmax]
    norm_num [Double.lt, maxAltitudeM, tolerance]
  have hmin : ¬ (minPairDist ([solo].map ofNumbers)).lt
      (.finite (minSeparationM - tolerance)) = true := Bool.false_ne_true
  have hcheck : checkFormation soloHost soloPayload ([solo].map ofNumbers) =
      .ok ([solo].map ofNumbers) := by
    unfold checkFormation
    dsimp only
    rw [if_neg halt, if_neg hmin]
    rfl
  unfold buildFormation
  rw [if_neg (by decide), hraw]
  show (if ShapeType.exactPoints = .exactPoints ∧ tooFar ([solo].map ofNumbers) then _ else _) = _
  rw [if_neg fun h => hfar h.2]
  show (fitToSite ([solo].map ofNumbers)).bind _ = _
  rw [fitToSite, if_neg hfar]
  exact hcheck

end Taramandal.Studio.FormationSafety
