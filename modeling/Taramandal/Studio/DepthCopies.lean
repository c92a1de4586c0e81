import Taramandal.Studio.SplitFormations

/-! # Depth copies (`buildDepthCopies`)

A formation that is repeated behind itself: each copy is a pitch farther along x, the last one
as far as there are drones left, and all of them together are centred. A copy is deeper than
the formation it repeats, so no two of them reach into each other. -/
set_option linter.unusedSectionVars false

namespace Taramandal.Studio.DepthCopies

open Lib.Check Lib.Pairs Core.Numbers Core.ScriptNumbers Studio.Layout Studio.Formations
open Studio.SplitFormations
open Studio.Samples (asGiven)

variable {K : Type} [Field K] [LinearOrder K]

/-! ## Copies -/

def alongX (d : K) (p : Point K) : Point K := { p with x := p.x + d }

def spanX (pts : List (Point K)) : K := greatest (pts.map Point.x) - least (pts.map Point.x)

def addCopy (front : List (Point K)) (per total : ℕ) (pitch : K) (pre : List (Point K)) (c : ℕ) :
    List (Point K) :=
  pre ++ (front.take (min per (total - pre.length))).map (alongX (c * pitch))

def copies (front : List (Point K)) (per total : ℕ) (pitch : K) (needed : ℕ) : List (Point K) :=
  (List.range needed).foldl (addCopy front per total pitch) []

/-- `Math.ceil(totalCount / perCopyCount)`. -/
def copiesNeeded (per total : ℕ) : ℕ := (total + per - 1) / per

def centredX (pre : List (Point K)) : List (Point K) :=
  pre.map (alongX (-(least (pre.map Point.x) + greatest (pre.map Point.x)) / 2))

section

variable [Sqrt K] [FloorRing K]

def checkDepth (payloadText : String) (per total : ℕ) (depthSpacing : K)
    (current : List (Point K)) : Except (ShowError K) (List (Point K)) :=
  let name := "Depth copies of \"" ++ payloadText ++ "\" (" ++ toString total ++ " drones"
  if siteRadiusM + tolerance < maxReach current then
    .error (.refusal (.shape (name ++ " at " ++ toString per ++ "/copy) need " ++
      toString (copiesNeeded per total) ++ " copies, which do not fit within the site radius (" ++
      numberText (siteRadiusM : K) ++ "m) at " ++ numberText depthSpacing ++ "m apart; refused " ++
      "rather than compressing the depth spacing below MIN_SEPARATION_M.")))
  else if maxAltitudeM + tolerance < greatest (current.map fun p => -p.z) then
    .error (.refusal (.shape (name ++ ") exceed the maximum altitude ceiling: " ++
      toFixed 1 (greatest (current.map fun p => -p.z)) ++ "m > " ++
      numberText (maxAltitudeM : K) ++ "m")))
  else if below (minPairDist current) (minSeparationM - tolerance) then
    .error (.refusal (.shape (name ++ ") violate minimum spacing: " ++
      toFixed 2 ((minPairDist current).getD 0) ++ "m < " ++ numberText (minSeparationM : K) ++
      "m")))
  else .ok current

def requireCount (name : String) (v : K) : Except (ShowError K) ℕ :=
  match countOf v with
  | some n => .ok n
  | none => .error (.plain (name ++ " must be an integer >= 1 (got " ++ numberText v ++ ")"))

def buildDepthCopies (shapes : Shapes K) (shapeType : ShapeType) (payload : shapes.Payload)
    (payloadText : String) (perCopyCount totalCount : K) (scale : Option K)
    (depthSpacing : Option K) : Except (ShowError K) (List (Point K)) :=
  let spacing := depthSpacing.getD (22 / 10)
  if ¬ groupClearance ≤ spacing then
    .error (.plain ("depthSpacing (" ++ numberText spacing ++
      "m) must be at least MIN_SEPARATION_M + a margin for export rounding (" ++
      toFixed 2 (groupClearance : K) ++ "m)"))
  else do
    let per ← requireCount "perCopyCount" perCopyCount
    let total ← requireCount "totalCount" totalCount
    if total < per then
      .error (.plain ("totalCount (" ++ toString total ++ ") is less than perCopyCount (" ++
        toString per ++ ") - call buildFormation directly for a single, smaller formation " ++
        "instead of buildDepthCopies."))
    else
      let front ← buildFormation shapes shapeType payload per scale
      if front.length ≠ per then
        .error (.plain ("Formation \"" ++ payloadText ++ "\" returned " ++
          toString front.length ++ " points, not the requested " ++ toString per))
      else
        checkDepth payloadText per total spacing
          (centredX (copies front per total (spacing + spanX front) (copiesNeeded per total)))

end

/-! ## Where each drone is -/

lemma alongX_alongX (d d' : K) (p : Point K) : alongX d (alongX d' p) = alongX (d' + d) p := by
  unfold alongX
  rw [add_assoc]

/-- The drone of each index, as far as the copies go. -/
structure Copied (front : List (Point K)) (per size : ℕ) (pitch shift : K)
    (pts : List (Point K)) : Prop where
  length : pts.length = size
  at_index : ∀ k < size, pts[k]? = front[k % per]?.map (alongX ((k / per : ℕ) * pitch + shift))

variable {front pts : List (Point K)} {per total size : ℕ} {pitch shift : K}

variable {c k : ℕ} {p : Point K} {depthSpacing : K}

lemma Copied.addCopy (hfront : front.length = per) (hper : 0 < per)
    (h : Copied front per (min total (c * per)) pitch 0 pts) :
    Copied front per (min total ((c + 1) * per)) pitch 0
      (addCopy front per total pitch pts c) := by
  have hsucc : (c + 1) * per = c * per + per := Nat.succ_mul c per
  refine ⟨?_, fun k hk => ?_⟩
  · unfold DepthCopies.addCopy
    rw [List.length_append, List.length_map, List.length_take, hfront, h.length]
    omega
  · unfold DepthCopies.addCopy
    by_cases hold : k < min total (c * per)
    · rw [List.getElem?_append_left (h.length ▸ hold)]
      exact h.at_index k hold
    · have hle : min total (c * per) = c * per := by omega
      have hc : k / per = c := by
        refine Nat.div_eq_of_lt_le ?_ ?_
        · omega
        · omega
      have hmod : k % per = k - c * per := by
        have hdiv := Nat.div_add_mod k per
        rw [hc, Nat.mul_comm] at hdiv
        omega
      rw [List.getElem?_append_right (by rw [h.length]; omega), List.getElem?_map,
        List.getElem?_take, h.length, hle, if_pos (by omega), hc, hmod, add_zero]

variable (total pitch) in
lemma copied_copies (hfront : front.length = per) (hper : 0 < per) (needed : ℕ) :
    Copied front per (min total (needed * per)) pitch 0
      (copies front per total pitch needed) := by
  unfold copies
  induction needed with
  | zero =>
    refine ⟨?_, fun k hk => ?_⟩
    · simp
    · omega
  | succ c ih =>
    rw [List.range_succ, List.foldl_append]
    exact ih.addCopy hfront hper

lemma Copied.centredX (h : Copied front per size pitch 0 pts) :
    ∃ shift, Copied front per size pitch shift (centredX pts) := by
  refine ⟨-(least (pts.map Point.x) + greatest (pts.map Point.x)) / 2,
    (List.length_map _).trans h.length, fun k hk => ?_⟩
  unfold DepthCopies.centredX
  rw [List.getElem?_map, h.at_index k hk, Option.map_map, add_zero]
  refine congrArg (Option.map · _) (funext fun p => ?_)
  exact alongX_alongX _ _ p

lemma le_copiesNeeded (hper : 0 < per) : total ≤ copiesNeeded per total * per := by
  unfold copiesNeeded
  have hdiv := Nat.div_add_mod (total + per - 1) per
  have hmod := Nat.mod_lt (total + per - 1) hper
  rw [Nat.mul_comm] at hdiv
  omega

/-! ## Blocks -/

/-- The points of a depth formation, of a front in copies `depthSpacing` apart. -/
structure Stacked (front : List (Point K)) (per total : ℕ) (depthSpacing : K)
    (pts : List (Point K)) : Prop where
  length : pts.length = total
  /-- The first block is the front, moved along x. -/
  first : ∃ shift, pts.take per = front.map (alongX shift)
  /-- Every block is as much of the first as there are drones left, moved along x. -/
  block : ∀ c, (pts.drop (c * per)).take per = ((pts.take per).take (min per (total - c * per))).map
      (alongX (c * (depthSpacing + spanX front)))
  apart : ∀ j k p q, j / per < k / per → pts[j]? = some p → pts[k]? = some q →
    depthSpacing ≤ q.x - p.x
  outline : ∀ k p, pts[k]? = some p → ∃ q, pts[k % per]? = some q ∧ (p.y, p.z) = (q.y, q.z)

lemma Copied.exists_front (h : Copied front per size pitch shift pts) (hp : pts[k]? = some p) :
    ∃ q ∈ front, p = alongX ((k / per : ℕ) * pitch + shift) q := by
  have hk : k < size := by
    rw [← h.length]
    exact (List.getElem?_eq_some_iff.mp hp).1
  rw [h.at_index k hk] at hp
  obtain ⟨q, hq, rfl⟩ := Option.map_eq_some_iff.mp hp
  exact ⟨q, List.mem_of_getElem? hq, rfl⟩

/-- The indices of block `c` are those of the front, a whole number of copies later. -/
lemma Copied.at_block (h : Copied front per size pitch shift pts) (hk : k < per)
    (hsize : c * per + k < size) :
    pts[c * per + k]? = pts[k]?.map (alongX (c * pitch)) := by
  have hper : 0 < per := Nat.lt_of_le_of_lt (Nat.zero_le k) hk
  have hdiv : (c * per + k) / per = c := by
    rw [Nat.mul_comm, Nat.mul_add_div hper, Nat.div_eq_of_lt hk, Nat.add_zero]
  have hmod : (c * per + k) % per = k := by
    rw [Nat.mul_add_mod_self_right, Nat.mod_eq_of_lt hk]
  rw [h.at_index _ hsize, h.at_index k (by omega), hdiv, hmod, Nat.div_eq_of_lt hk,
    Nat.mod_eq_of_lt hk, Option.map_map]
  refine congrArg (Option.map · _) (funext fun p => ?_)
  rw [Function.comp_apply, alongX_alongX, Nat.cast_zero, zero_mul, zero_add, add_comm]

section

variable (h : Copied front per total pitch shift pts)
include h

lemma Copied.block (c : ℕ) : (pts.drop (c * per)).take per =
      ((pts.take per).take (min per (total - c * per))).map (alongX (c * pitch)) := by
  refine List.ext_getElem? fun k => ?_
  rw [List.getElem?_take, List.getElem?_drop, List.getElem?_map, List.getElem?_take,
    List.getElem?_take]
  by_cases hk : k < per
  · by_cases hsize : c * per + k < total
    · rw [if_pos hk, if_pos hk, if_pos (by omega)]
      exact h.at_block hk hsize
    · rw [if_pos hk, if_neg (by omega), List.getElem?_eq_none (by rw [h.length]; omega)]
      rfl
  · rw [if_neg hk, if_neg (by omega)]
    rfl

lemma Copied.first (hfront : front.length = per)
    (htotal : per ≤ total) : pts.take per = front.map (alongX shift) := by
  refine List.ext_getElem? fun k => ?_
  rw [List.getElem?_take, List.getElem?_map]
  by_cases hk : k < per
  · rw [if_pos hk, h.at_index k (by omega), Nat.div_eq_of_lt hk, Nat.mod_eq_of_lt hk,
      Nat.cast_zero, zero_mul, zero_add]
  · rw [if_neg hk, List.getElem?_eq_none (by omega)]
    rfl

lemma Copied.outline (hper : 0 < per) (htotal : per ≤ total) (hp : pts[k]? = some p) :
    ∃ q, pts[k % per]? = some q ∧ (p.y, p.z) = (q.y, q.z) := by
  have hk : k < total := by
    rw [← h.length]
    exact (List.getElem?_eq_some_iff.mp hp).1
  have hmod := Nat.mod_lt k hper
  rw [h.at_index k hk] at hp
  obtain ⟨r, hr, rfl⟩ := Option.map_eq_some_iff.mp hp
  refine ⟨alongX ((k % per / per : ℕ) * pitch + shift) r, ?_, rfl⟩
  rw [h.at_index _ (by omega), Nat.mod_mod, hr]
  rfl

end

section

variable [IsStrictOrderedRing K]

variable {p q : Point K}

lemma sub_le_spanX (hp : p ∈ front) (hq : q ∈ front) : p.x - q.x ≤ spanX front :=
  sub_le_sub (le_greatest (List.mem_map_of_mem hp)) (least_le (List.mem_map_of_mem hq))

lemma Copied.apart {depthSpacing : K}
    (h : Copied front per total (depthSpacing + spanX front) shift pts)
    (hspacing : 0 ≤ depthSpacing) {j k : ℕ} (hjk : j / per < k / per) (hp : pts[j]? = some p)
    (hq : pts[k]? = some q) : depthSpacing ≤ q.x - p.x := by
  obtain ⟨p', hp', rfl⟩ := h.exists_front hp
  obtain ⟨q', hq', rfl⟩ := h.exists_front hq
  have hspan := sub_le_spanX hp' hq'
  have hspan0 : 0 ≤ spanX front := by simpa using sub_le_spanX hp' hp'
  have hcopies : ((j / per : ℕ) : K) + 1 ≤ (k / per : ℕ) := by exact_mod_cast hjk
  have hpitch := mul_le_mul_of_nonneg_right hcopies (add_nonneg hspacing hspan0)
  unfold alongX
  dsimp only
  linarith

end

/-! ## The result -/

variable [FloorRing K]

lemma requireCount_eq_ok {name : String} {v : K} {n : ℕ} (h : requireCount name v = .ok n) :
    v = n ∧ 1 ≤ n := by
  unfold requireCount at h
  split at h
  · next m hm =>
    obtain rfl := Except.ok.inj h
    exact eq_of_countOf hm
  · cases h

lemma eq_of_checkDepth [Sqrt K] {payloadText : String} {current : List (Point K)}
    (h : checkDepth payloadText per total depthSpacing current = .ok pts) : pts = current := by
  unfold checkDepth at h
  dsimp only at h
  split_ifs at h
  exact (Except.ok.inj h).symm

variable [IsStrictOrderedRing K]

lemma stacked_of_copied (h : Copied front per total (depthSpacing + spanX front) shift pts)
    (hfront : front.length = per) (hper : 0 < per) (htotal : per ≤ total) (hspacing : groupClearance ≤ depthSpacing) :
    Stacked front per total depthSpacing pts where
  length := h.length
  first := ⟨shift, h.first hfront htotal⟩
  block := h.block
  apart j k p q hjk hp hq := by
    refine h.apart (le_trans ?_ hspacing) hjk hp hq
    norm_num [groupClearance, minSeparationM, exportRoundingMarginM]
  outline k p hp := h.outline hper htotal hp

/-- Depth copies are copies of the front, a pitch apart along x. -/
theorem buildDepthCopies_stacked [Sqrt K] {shapes : Shapes K} {shapeType : ShapeType}
    {payload : shapes.Payload} {payloadText : String} {perCopyCount totalCount : K}
    {scale depthSpacing : Option K}
    (h : buildDepthCopies shapes shapeType payload payloadText perCopyCount totalCount scale
      depthSpacing = .ok pts) :
    ∃ (per total : ℕ) (front : List (Point K)), perCopyCount = per ∧ totalCount = total ∧
      buildFormation shapes shapeType payload per scale = .ok front ∧
      Stacked front per total (depthSpacing.getD (22 / 10)) pts := by
  unfold buildDepthCopies at h
  dsimp only at h
  split_ifs at h with hspacing
  obtain ⟨per, hper, h⟩ := bind_eq_ok.mp h
  obtain ⟨total, htotal, h⟩ := bind_eq_ok.mp h
  obtain ⟨hper, hpos⟩ := requireCount_eq_ok hper
  obtain ⟨htotal, -⟩ := requireCount_eq_ok htotal
  split_ifs at h with hfew
  obtain ⟨front, hfront, h⟩ := bind_eq_ok.mp h
  split_ifs at h with hlength
  obtain rfl := eq_of_checkDepth h
  have hfull := copied_copies total (depthSpacing.getD (22 / 10) + spanX front)
    (not_not.mp hlength) hpos (copiesNeeded per total)
  rw [min_eq_left (le_copiesNeeded hpos)] at hfull
  obtain ⟨shift, hcopied⟩ := hfull.centredX
  exact ⟨per, total, front, hper, htotal, hfront,
    stacked_of_copied hcopied (not_not.mp hlength) hpos (not_lt.mp hfew) hspacing⟩

def pair : List (Point ℚ) := [{ x := 0, y := 0, z := -8 }, { x := 0, y := 3, z := -8 }]

theorem buildDepthCopies_stacked_pair : ∃ (per total : ℕ) (front : List (Point ℚ)),
    (2 : ℚ) = per ∧ (3 : ℚ) = total ∧
      buildFormation (asGiven ℚ) .exactPoints pair per none = .ok front ∧
      Stacked front per total ((none : Option ℚ).getD (22 / 10))
        [{ x := -11 / 10, y := 0, z := -8 }, { x := -11 / 10, y := 3, z := -8 },
          { x := 11 / 10, y := 0, z := -8 }] := by
  have h : buildDepthCopies (asGiven ℚ) .exactPoints pair "pair" 2 3 none none =
      .ok [{ x := -11 / 10, y := 0, z := -8 }, { x := -11 / 10, y := 3, z := -8 },
        { x := 11 / 10, y := 0, z := -8 }] := by decide +kernel
  exact buildDepthCopies_stacked h

end Taramandal.Studio.DepthCopies
