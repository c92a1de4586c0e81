import Taramandal.Studio.Formations

/-! # Outline sampling (`sampleSvgContours`)

The contours of an outline one after the other are one line; the drones are spread evenly along
it, each in the middle of its share. A drone is found by walking its distance down, contour by
contour and then segment by segment. What is found is flipped, and scaled to the larger side of
the bounding box, which counts as no smaller than a ten-thousandth. -/
namespace Taramandal.Studio.Contours

open Lib.Pairs Lib.Walk Core.Numbers Studio.Layout Studio.Formations

/-- A point of a drawing. -/
structure PlanePoint (K : Type) where
  x : K
  y : K
  deriving DecidableEq

/-- A point of an outline that is sampled, and the contour that it is on. -/
structure Sample (K : Type) where
  x : K
  y : K
  contourIndex : ℕ
  deriving DecidableEq

variable {K : Type} [Field K] [LinearOrder K]

section

variable [Sqrt K]

def segmentLength (s : PlanePoint K × PlanePoint K) : K :=
  hypot2 (s.2.x - s.1.x) (s.2.y - s.1.y)

def contourLength (c : List (PlanePoint K)) : K := ((steps c).map segmentLength).sum

def totalLength (contours : List (List (PlanePoint K))) : K := (contours.map contourLength).sum

end

section

variable (contours : List (List (PlanePoint K)))

def sideX : K :=
  greatest (contours.flatten.map PlanePoint.x) - least (contours.flatten.map PlanePoint.x)

def sideY : K :=
  greatest (contours.flatten.map PlanePoint.y) - least (contours.flatten.map PlanePoint.y)

def middle : PlanePoint K where
  x := (least (contours.flatten.map PlanePoint.x) +
    greatest (contours.flatten.map PlanePoint.x)) / 2
  y := (least (contours.flatten.map PlanePoint.y) +
    greatest (contours.flatten.map PlanePoint.y)) / 2

def largerSide : K := max (sideX contours) (sideY contours)

def extent : K :=
  max (max (sideX contours) (1 / 10 ^ 4)) (max (sideY contours) (1 / 10 ^ 4))

end

def alongSegment (s : PlanePoint K × PlanePoint K) (frac : K) : PlanePoint K where
  x := s.1.x + frac * (s.2.x - s.1.x)
  y := s.1.y + frac * (s.2.y - s.1.y)

section

variable [Sqrt K]

/-- `frac`. -/
def share (segDist d : K) : K := if 0 < d then min 1 (max 0 (segDist / d)) else 0

/-- The inner search: the first segment that is long enough, or the last one. -/
def onContour (c : List (PlanePoint K)) (segDist : K) : Option (PlanePoint K) :=
  (walk segmentLength (steps c) segDist).map fun found =>
    alongSegment found.1 (share found.2 (segmentLength found.1))

/-- The outer search: the first contour that reaches the distance, or the last one. -/
def onContours (targetDist : K) : ℕ → List (List (PlanePoint K)) → K → Option (PlanePoint K × ℕ)
  | _, [], _ => none
  | cIdx, c :: rest, accumulated =>
    if targetDist ≤ accumulated + contourLength c ∨ rest = [] then
      (onContour c (targetDist - accumulated)).map (·, cIdx)
    else onContours targetDist (cIdx + 1) rest (accumulated + contourLength c)

section

variable (contours : List (List (PlanePoint K)))

def fitted (scaleMeters extent : K) (pt : PlanePoint K) (contourIndex : ℕ) : Sample K where
  x := (pt.x - (middle contours).x) / extent * scaleMeters
  y := -(pt.y - (middle contours).y) / extent * scaleMeters
  contourIndex := contourIndex

/-- The distance of each of `n` samples. -/
def targetDist (n idx : ℕ) : K :=
  (idx + 1 / 2) * (totalLength contours / n)

def sampleSvgContours (n : ℕ) (scaleMeters : K) : Except (ShowError K) (List (Sample K)) :=
  if n < 1 then .ok []
  else if totalLength contours ≤ 1 / 10 ^ 6 then
    .error (.plain "Degenerate SVG geometry (zero path length).")
  else
    .ok ((List.range n).filterMap fun idx =>
      (onContours (targetDist contours n idx) 0 contours 0).map fun pt =>
        fitted contours scaleMeters (extent contours) pt.1 pt.2)

end

end

section Found

variable [Sqrt K]

/-- The point at a distance along the contours, on the contour of this index. -/
def AtArcLength (contours : List (List (PlanePoint K))) (s : K) (p : PlanePoint K) (idx : ℕ) :
    Prop :=
  ∃ before contour after before' segment after' t, contours = before ++ contour :: after ∧
    before.length = idx ∧ steps contour = before' ++ segment :: after' ∧
    t ∈ Set.Icc (0 : K) 1 ∧ p = alongSegment segment t ∧
    s = (before.map contourLength).sum +
      ((before'.map segmentLength).sum + t * segmentLength segment)

/-- `n` samples, each at its own distance, scaled by `scaleMeters` to a side of `extent`. -/
structure Sampled (contours : List (List (PlanePoint K))) (n : ℕ) (scaleMeters extent : K)
    (samples : List (Sample K)) : Prop where
  length : samples.length = n
  at_index : ∀ k < n, ∃ p idx, AtArcLength contours (targetDist contours n k) p idx ∧
    samples[k]? = some (fitted contours scaleMeters extent p idx)

variable [IsStrictOrderedRing K]

lemma onContour_spec {c : List (PlanePoint K)} {s : K} (hpos : 0 < s) (hle : s ≤ contourLength c) :
    ∃ before segment after t, steps c = before ++ segment :: after ∧ t ∈ Set.Icc (0 : K) 1 ∧
      s = (before.map segmentLength).sum + t * segmentLength segment ∧
      onContour c s = some (alongSegment segment t) := by
  obtain ⟨segment, rest, hwalk, ⟨before, after, hsplit, hs⟩, hrest, hseg⟩ := walk_endsIn hpos hle
  have hlen : 0 < segmentLength segment := hrest.trans_le hseg
  have hshare : rest / segmentLength segment ∈ Set.Icc (0 : K) 1 :=
    ⟨div_nonneg hrest.le hlen.le, (div_le_one hlen).mpr hseg⟩
  refine ⟨before, segment, after, rest / segmentLength segment, hsplit, hshare, ?_, ?_⟩
  · rw [div_mul_cancel₀ rest hlen.ne', hs]
  · unfold onContour share
    rw [hwalk, Option.map_some, if_pos hlen, max_eq_right hshare.1, min_eq_right hshare.2]

lemma onContours_spec {target accumulated : K} {contours : List (List (PlanePoint K))} (cIdx : ℕ)
    (hpos : accumulated < target) (hle : target ≤ accumulated + totalLength contours) :
    ∃ p idx, onContours target cIdx contours accumulated = some (p, cIdx + idx) ∧
      AtArcLength contours (target - accumulated) p idx := by
  induction contours generalizing cIdx accumulated with
  | nil =>
    rw [totalLength, List.map_nil, List.sum_nil, add_zero] at hle
    exact absurd hpos hle.not_gt
  | cons c rest ih =>
    unfold onContours
    rw [totalLength, List.map_cons, List.sum_cons, ← add_assoc] at hle
    by_cases hend : target ≤ accumulated + contourLength c
    · rw [if_pos (.inl hend)]
      obtain ⟨before, segment, after, t, hsteps, ht, hs, hfound⟩ :=
        onContour_spec (sub_pos.mpr hpos) (sub_le_iff_le_add'.mpr hend)
      refine ⟨alongSegment segment t, 0, by rw [hfound]; rfl, ?_⟩
      exact ⟨[], c, rest, before, segment, after, t, rfl, rfl, hsteps, ht, rfl,
        by rw [List.map_nil, List.sum_nil, zero_add, hs]⟩
    · have hne : rest ≠ [] := by
        rintro rfl
        exact hend (by simpa using hle)
      rw [if_neg (not_or.mpr ⟨hend, hne⟩)]
      obtain ⟨p, idx, hfound, before, contour, after, before', segment, after', t, hsplit, hidx,
        hsteps, ht, hp, hs⟩ := ih (cIdx + 1) (not_le.mp hend) hle
      refine ⟨p, idx + 1, ?_, c :: before, contour, after, before', segment, after', t, ?_, ?_,
        hsteps, ht, hp, ?_⟩
      · rw [hfound, Nat.add_assoc, Nat.add_comm 1 idx]
      · rw [hsplit, List.cons_append]
      · rw [List.length_cons, hidx]
      · rw [List.map_cons, List.sum_cons, add_assoc, ← hs]
        ring

variable {contours : List (List (PlanePoint K))} {n : ℕ}

lemma exists_found (hL : 0 < totalLength contours) {k : ℕ} (hk : k < n) :
    ∃ found, onContours (targetDist contours n k) 0 contours 0 = some found ∧
      AtArcLength contours (targetDist contours n k) found.1 found.2 := by
  have hn : (0 : K) < n := Nat.cast_pos.mpr (Nat.zero_lt_of_lt hk)
  have hpos : 0 < targetDist contours n k := by
    unfold targetDist
    positivity
  have hshare : (k : K) + 1 / 2 ≤ n := by
    have hk' : (k : K) + 1 ≤ n := by exact_mod_cast hk
    linarith
  have hle : targetDist contours n k ≤ 0 + totalLength contours :=
    calc targetDist contours n k ≤ n * (totalLength contours / n) :=
          mul_le_mul_of_nonneg_right hshare (div_nonneg hL.le hn.le)
      _ = 0 + totalLength contours := by rw [mul_div_cancel₀ _ hn.ne', zero_add]
  obtain ⟨p, idx, hp, hat⟩ := onContours_spec 0 hpos hle
  rw [sub_zero] at hat
  exact ⟨(p, idx), by rw [hp, zero_add], hat⟩

lemma sampled_of_lt (scaleMeters : K) (hn : 1 ≤ n) (hlength : 1 / 10 ^ 6 < totalLength contours) :
    ∃ samples, sampleSvgContours contours n scaleMeters = .ok samples ∧
      Sampled contours n scaleMeters (extent contours) samples := by
  have hL : 0 < totalLength contours := lt_trans (by positivity) hlength
  have : Nonempty (PlanePoint K × ℕ) := ⟨⟨0, 0⟩, 0⟩
  choose! found hfound hat using fun k (hk : k < n) => exists_found hL hk
  refine ⟨(List.range n).map fun k =>
    fitted contours scaleMeters (extent contours) (found k).1 (found k).2, ?_, ?_,
    fun k hk => ⟨(found k).1, (found k).2, hat k hk, ?_⟩⟩
  · unfold sampleSvgContours
    rw [if_neg (not_lt.mpr hn), if_neg hlength.not_ge]
    refine congrArg Except.ok (List.filterMap_eq_map_iff_forall_eq_some.mpr fun k hk => ?_)
    rw [hfound k (List.mem_range.mp hk)]
    rfl
  · rw [List.length_map, List.length_range]
  · rw [List.getElem?_map, List.getElem?_range hk]
    rfl

omit [Sqrt K] [IsStrictOrderedRing K] in
lemma extent_eq (contours : List (List (PlanePoint K))) :
    extent contours = max (largerSide contours) (1 / 10 ^ 4) := by
  unfold extent largerSide
  rw [max_max_max_comm, max_self]

/-- The samples lie evenly on the line of the contours, scaled to the larger side of their
bounding box, or to a ten-thousandth if that side is smaller. -/
theorem sampleSvgContours_sampled (scaleMeters : K) (hn : 1 ≤ n)
    (hlength : 1 / 10 ^ 6 < totalLength contours) :
    ∃ samples, sampleSvgContours contours n scaleMeters = .ok samples ∧
      Sampled contours n scaleMeters (max (largerSide contours) (1 / 10 ^ 4)) samples ∧
      (1 / 10 ^ 4 ≤ largerSide contours →
        largerSide contours / max (largerSide contours) (1 / 10 ^ 4) * scaleMeters =
          scaleMeters) := by
  obtain ⟨samples, hok, hsampled⟩ := sampled_of_lt scaleMeters hn hlength
  rw [extent_eq] at hsampled
  refine ⟨samples, hok, hsampled, fun hside => ?_⟩
  have hpos : 0 < largerSide contours := lt_of_lt_of_le (by positivity) hside
  rw [max_eq_left hside, div_self hpos.ne', one_mul]

end Found

def dash : List (List (PlanePoint ℚ)) :=
  [[{ x := 3, y := 0 }], [{ x := 0, y := 0 }, { x := 8, y := 0 }]]

theorem sampleSvgContours_sampled_dash : ∃ samples, sampleSvgContours dash 2 20 = .ok samples ∧
      Sampled dash 2 20 (max (largerSide dash) (1 / 10 ^ 4)) samples ∧
      (1 / 10 ^ 4 ≤ largerSide dash →
        largerSide dash / max (largerSide dash) (1 / 10 ^ 4) * 20 = 20) :=
  sampleSvgContours_sampled 20 (by decide) (by decide +kernel)

def speck : List (List (PlanePoint ℚ)) := [[{ x := 0, y := 0 }, { x := 1 / 10 ^ 5, y := 0 }]]

lemma x_eq_of_speck {s : ℚ} {p : PlanePoint ℚ} {idx : ℕ} (h : AtArcLength speck s p idx) :
    p.x = s := by
  obtain ⟨before, contour, after, before', segment, after', t, hsplit, -, hsteps, -, rfl, hs⟩ := h
  obtain ⟨rfl, hrest⟩ | ⟨-, hnil⟩ := List.singleton_eq_append_iff.mp hsplit
  · obtain ⟨rfl, -⟩ := List.cons.inj hrest
    obtain ⟨rfl, hrest'⟩ | ⟨-, hnil⟩ := List.singleton_eq_append_iff.mp hsteps
    · obtain ⟨rfl, -⟩ := List.cons.inj hrest'
      have hlength : segmentLength (⟨0, 0⟩, ⟨1 / 10 ^ 5, 0⟩) = (1 / 10 ^ 5 : ℚ) := by
        decide +kernel
      rw [hs, hlength]
      simp [alongSegment]
    · cases hnil
  · cases hnil

/-- An outline that small is not scaled to its own side. -/
theorem speck_not_scaled : 1 / 10 ^ 6 < totalLength speck ∧
    ¬ ∃ samples, sampleSvgContours speck 2 20 = .ok samples ∧
      Sampled speck 2 20 (largerSide speck) samples := by
  refine ⟨by decide +kernel, ?_⟩
  rintro ⟨samples, hok, hsampled⟩
  have hrun : sampleSvgContours speck 2 20 =
      .ok [{ x := -1 / 2, y := 0, contourIndex := 0 },
        { x := 1 / 2, y := 0, contourIndex := 0 }] := by
    decide +kernel
  obtain rfl := Except.ok.inj (hrun.symm.trans hok)
  obtain ⟨p, idx, hat, hsample⟩ := hsampled.at_index 0 Nat.two_pos
  have hx : -1 / 2 = (p.x - (middle speck).x) / largerSide speck * 20 :=
    congrArg Sample.x (Option.some.inj hsample)
  have htarget : targetDist speck 2 0 = 1 / 400000 := by decide +kernel
  have hmiddle : (middle speck).x = 1 / 200000 := by decide +kernel
  have hside : largerSide speck = 1 / 100000 := by decide +kernel
  rw [x_eq_of_speck hat, htarget, hmiddle, hside] at hx
  norm_num at hx

end Taramandal.Studio.Contours
