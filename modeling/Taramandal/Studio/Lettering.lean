import Taramandal.Studio.Generators

/-! # Lettering (`formations.js`)

Text in strokes of seven segments. The points of a text are dealt out to its strokes by their
length; what is left when the shares are cut off goes to the largest fractions. -/
set_option linter.unusedSectionVars false

namespace Taramandal.Studio.Lettering

open Core.Numbers Core.Floats Core.ScriptFloats Lib.Pairs Studio.Layout Studio.Clouds
open Studio.Generators
open Studio.Formations (formationSpacing)

variable {K : Type} [Field K] [LinearOrder K] [FloorRing K] [Sqrt K]

/-! ## Glyphs -/

inductive Segment where
  | a
  | b
  | c
  | d
  | e
  | f
  | g

/-- `SEGMENTS`. -/
def Segment.ends : Segment → (ℕ × ℕ) × (ℕ × ℕ)
  | .a => ((0, 4), (2, 4))
  | .b => ((2, 4), (2, 2))
  | .c => ((2, 2), (2, 0))
  | .d => ((0, 0), (2, 0))
  | .e => ((0, 2), (0, 0))
  | .f => ((0, 4), (0, 2))
  | .g => ((0, 2), (2, 2))

/-- `GLYPHS`. -/
def glyph? : Char → Option (List Segment)
  | '0' => some [.a, .b, .c, .d, .e, .f]
  | '1' => some [.b, .c]
  | '2' => some [.a, .b, .g, .e, .d]
  | '3' => some [.a, .b, .g, .c, .d]
  | '4' => some [.f, .g, .b, .c]
  | '5' => some [.a, .f, .g, .c, .d]
  | '6' => some [.a, .f, .g, .e, .d, .c]
  | '7' => some [.a, .b, .c]
  | '8' => some [.a, .b, .c, .d, .e, .f, .g]
  | '9' => some [.a, .b, .f, .g, .c, .d]
  | 'A' => some [.a, .b, .c, .e, .f, .g]
  | 'B' => some [.c, .d, .e, .f, .g]
  | 'C' => some [.a, .d, .e, .f]
  | 'D' => some [.b, .c, .d, .e, .g]
  | 'E' => some [.a, .d, .e, .f, .g]
  | 'F' => some [.a, .e, .f, .g]
  | 'H' => some [.b, .c, .e, .f, .g]
  | 'L' => some [.d, .e, .f]
  | 'P' => some [.a, .b, .e, .f, .g]
  | 'U' => some [.b, .c, .d, .e, .f]
  | ' ' => some []
  | _ => none

/-- The strokes of a character; what has no glyph is an eight. Half of a pair of units (`none`)
has none. -/
def glyphOf (ch : Option Char) : List Segment :=
  ((ch.bind fun c => glyph? c.toUpper).orElse fun _ => glyph? '8').getD []

def scriptUnits (s : String) : List (Option Char) :=
  s.toList.flatMap fun c => if c.toNat < 65536 then [some c] else [none, none]

structure Stroke (K : Type) where
  x1 : K
  y1 : K
  x2 : K
  y2 : K

def Stroke.len (k : Stroke K) : K := hypot2 (k.x2 - k.x1) (k.y2 - k.y1)

def strokeOf (ci : ℕ) (sg : Segment) : Stroke K where
  x1 := sg.ends.1.1 + ci * 3
  y1 := sg.ends.1.2
  x2 := sg.ends.2.1 + ci * 3
  y2 := sg.ends.2.2

def strokesOf (chars : List (Option Char)) : List (Stroke K) :=
  chars.zipIdx.flatMap fun ch => (glyphOf ch.1).map (strokeOf ch.2)

/-- A point of a glyph. -/
structure GlyphPoint (K : Type) where
  x : K
  y : K

def exactShares (strokes : List (Stroke K)) (count : ℕ) : List K :=
  let total := (strokes.map Stroke.len).sum
  strokes.map fun k => count * k.len / total

/-- `slice(0, left)`. -/
def sliceTo (left : ℤ) (xs : List ℕ) : List ℕ :=
  if 0 ≤ left then xs.take left.toNat else xs.take (xs.length - left.natAbs)

/-- The strokes that get one more: those with the largest fractions, the earlier ones first. -/
def roundedUp (exact : List K) (count : ℕ) : List ℕ :=
  let left : ℤ := count - (exact.map Int.floor).sum
  sliceTo left ((List.range exact.length).mergeSort fun a b =>
    Int.fract (exact.getD b 0) < Int.fract (exact.getD a 0) ∨
      (Int.fract (exact.getD a 0) = Int.fract (exact.getD b 0) ∧ a ≤ b))

/-- `alloc`. -/
def allocate (exact : List K) (count : ℕ) : List ℤ :=
  exact.zipIdx.map fun e => ⌊e.1⌋ + if e.2 ∈ roundedUp exact count then 1 else 0

/-- So many points, each in the middle of its share of a stroke. -/
def alongStroke (k : Stroke K) (count : ℕ) : List (GlyphPoint K) :=
  (List.range count).map fun (j : ℕ) =>
    let u : K := (j + 1 / 2) / count
    { x := k.x1 + (k.x2 - k.x1) * u, y := k.y1 + (k.y2 - k.y1) * u }

def sampleGlyph (chars : List (Option Char)) (count : ℕ) : List (GlyphPoint K) :=
  let strokes : List (Stroke K) := strokesOf chars
  if strokes = [] then List.replicate count { x := 0, y := 0 }
  else
    (strokes.zip (allocate (exactShares strokes count) count)).flatMap fun s =>
      alongStroke s.1 s.2.toNat

def glyphPairDist (pts : List (GlyphPoint K)) : Option K :=
  ((pairs pts).map fun p => hypot3 (p.1.x - p.2.x) (p.1.y - p.2.y) 0).min?

def textMaxHeight : K := 40

/-- `width`, in units of a glyph. -/
def widthOf (chars : List (Option Char)) : K := (chars.length : K) * 3 - 1

def textLayers (chars : List (Option Char)) (n d : ℕ) : List (List (GlyphPoint K)) :=
  (layerCounts n d).map (sampleGlyph chars)

/-- Metres per unit of a glyph; no distance at all counts as infinite. -/
def textUnit (scale : Double K) (layers : List (List (GlyphPoint K))) : Double K :=
  mathMax [.finite (22 / 10) * scale,
    match (layers.filterMap glyphPairDist).min? with
    | some tightest => .finite (if 0 < tightest then formationSpacing / tightest else 0)
    | none => .finite 0]

def textFits (chars : List (Option Char)) (n : ℕ) (scale : Double K) (d : ℕ) : Bool :=
  let unit := textUnit scale (textLayers chars n d)
  (.finite 4 * unit).le (.finite textMaxHeight) &&
    (n ≤ 60 || (.finite (widthOf chars) * unit).le (.finite 35))

/-- `fmtText`, of a text or of its default. -/
def fmtText (n : ℕ) (scale : Double K) (payload : String) : Cloud K :=
  let chars := (scriptUnits (if payload = "" then "0" else payload)).take 8
  let layers : List (List (GlyphPoint K)) :=
    textLayers chars n (searchDepth (textFits chars n scale) (n - 1) 1)
  let unit := textUnit scale layers
  layers.zipIdx.flatMap fun layer =>
    layer.1.map fun p =>
      { x := .finite ((layer.2 - ((layers.length : K) - 1) / 2) * formationSpacing)
        y := .finite (p.x - widthOf chars / 2) * unit
        z := .finite (-showAlt) - .finite (p.y - 2) * unit }

section

variable [IsStrictOrderedRing K] {exact : List K} {count : ℕ}

omit [Sqrt K] in
/-- What is left after cutting off is not negative, and less than one for each share. -/
lemma left_mem (hsum : exact.sum = count) : 0 ≤ (count : ℤ) - (exact.map Int.floor).sum ∧
      (count : ℤ) - (exact.map Int.floor).sum ≤ exact.length := by
  have hcast : (((exact.map Int.floor).sum : ℤ) : K) = (exact.map fun e => ((⌊e⌋ : ℤ) : K)).sum := by
    rw [Int.cast_list_sum, List.map_map]
    rfl
  have hlow : (exact.map fun e => ((⌊e⌋ : ℤ) : K)).sum ≤ exact.sum := by
    have hmap := List.sum_le_sum fun (e : K) (_ : e ∈ exact) => Int.floor_le e
    rwa [List.map_id'] at hmap
  have hhigh : exact.sum ≤ (exact.map fun e => ((⌊e⌋ : ℤ) : K) + 1).sum := by
    have hmap := List.sum_le_sum fun (e : K) (_ : e ∈ exact) => (Int.lt_floor_add_one e).le
    rwa [List.map_id'] at hmap
  rw [List.sum_map_add, List.map_const', List.sum_replicate, nsmul_one] at hhigh
  rw [hsum, ← hcast] at hlow hhigh
  constructor
  · have : (exact.map Int.floor).sum ≤ (count : ℤ) := by exact_mod_cast hlow
    omega
  · have : (count : ℤ) ≤ (exact.map Int.floor).sum + exact.length := by exact_mod_cast hhigh
    omega

omit [Sqrt K] [IsStrictOrderedRing K] in
lemma roundedUp_spec (hleft : 0 ≤ (count : ℤ) - (exact.map Int.floor).sum)
    (hlen : (count : ℤ) - (exact.map Int.floor).sum ≤ exact.length) :
    (roundedUp exact count).Nodup ∧ (∀ i ∈ roundedUp exact count, i < exact.length) ∧
      ((roundedUp exact count).length : ℤ) = count - (exact.map Int.floor).sum := by
  unfold roundedUp sliceTo
  rw [if_pos hleft]
  have hperm := List.mergeSort_perm (List.range exact.length) fun a b =>
    decide (Int.fract (exact.getD b 0) < Int.fract (exact.getD a 0) ∨
      (Int.fract (exact.getD a 0) = Int.fract (exact.getD b 0) ∧ a ≤ b))
  refine ⟨(hperm.nodup_iff.mpr List.nodup_range).sublist (List.take_sublist _ _), ?_, ?_⟩
  · intro i hi
    exact List.mem_range.mp (hperm.mem_iff.mp (List.mem_of_mem_take hi))
  · rw [List.length_take, hperm.length_eq, List.length_range]
    omega

lemma sum_allocate (hsum : exact.sum = count) (hnonneg : ∀ e ∈ exact, 0 ≤ e) :
    ((allocate exact count).map Int.toNat).sum = count := by
  obtain ⟨hleft, hlen⟩ := left_mem hsum
  obtain ⟨hnodup, hlt, hcount⟩ := roundedUp_spec hleft hlen
  have htotal : (allocate exact count).sum = count := by
    have hfloors : (exact.zipIdx.map fun e => ⌊e.1⌋).sum = (exact.map Int.floor).sum := by
      rw [← List.zipIdx_map_fst 0 exact, List.map_map, List.zipIdx_map_fst]
      rfl
    have hones : (exact.zipIdx.map fun e => if e.2 ∈ roundedUp exact count then (1 : ℤ) else 0).sum =
        (roundedUp exact count).length := by
      rw [← countP_mem_range hnodup hlt, ← sum_indicator, List.range_eq_range',
        ← List.zipIdx_map_snd 0 exact, List.map_map]
      simp only [Function.comp_def, decide_eq_true_eq]
    unfold allocate
    rw [List.sum_map_add, hfloors, hones, hcount]
    omega
  have hpos : ∀ a ∈ allocate exact count, 0 ≤ a := by
    intro a ha
    obtain ⟨e, he, rfl⟩ := List.mem_map.mp ha
    have hfloor := Int.floor_nonneg.mpr (hnonneg e.1 (List.mem_zipIdx_iff_getElem?.mp he |> List.mem_of_getElem?))
    split <;> omega
  have hcast : (((allocate exact count).map Int.toNat).sum : ℤ) = (allocate exact count).sum := by
    rw [Nat.cast_list_sum, List.map_map]
    refine congrArg List.sum ((List.map_congr_left fun a ha => ?_).trans (List.map_id _))
    exact Int.toNat_of_nonneg (hpos a ha)
  rw [htotal] at hcast
  exact_mod_cast hcast

end

lemma len_strokeOf (ci : ℕ) (sg : Segment) : (strokeOf ci sg : Stroke ℝ).len = 2 := by
  have hfour : Real.sqrt 4 = 2 := by
    rw [show (4 : ℝ) = 2 ^ 2 by norm_num, Real.sqrt_sq (by norm_num)]
  have hcases : (strokeOf ci sg : Stroke ℝ).len = Real.sqrt 4 := by
    unfold Stroke.len hypot2
    rw [sqrt_real]
    refine congrArg Real.sqrt ?_
    cases sg <;> norm_num [strokeOf, Segment.ends]
  rw [hcases, hfour]

lemma len_of_mem_strokesOf {chars : List (Option Char)} {k : Stroke ℝ}
    (hk : k ∈ strokesOf chars) : k.len = 2 := by
  obtain ⟨ch, -, hk⟩ := List.mem_flatMap.mp hk
  obtain ⟨sg, -, rfl⟩ := List.mem_map.mp hk
  exact len_strokeOf ch.2 sg

lemma sum_exactShares {strokes : List (Stroke ℝ)} {count : ℕ}
    (htotal : (strokes.map Stroke.len).sum ≠ 0) : (exactShares strokes count).sum = count := by
  have hshares : exactShares strokes count =
      (strokes.map Stroke.len).map fun len => count / (strokes.map Stroke.len).sum * len := by
    unfold exactShares
    rw [List.map_map]
    exact List.map_congr_left fun k _ => mul_div_right_comm _ _ _
  rw [hshares, List.sum_map_mul_left, List.map_id', div_mul_cancel₀ _ htotal]

lemma length_allocate (exact : List K) (count : ℕ) :
    (allocate exact count).length = exact.length := by
  rw [allocate, List.length_map, List.length_zipIdx]

lemma length_dealt {strokes : List (Stroke K)} {counts : List ℤ}
    (h : counts.length = strokes.length) :
    ((strokes.zip counts).flatMap fun s => alongStroke s.1 s.2.toNat).length =
      (counts.map Int.toNat).sum := by
  have hcounts : (strokes.zip counts).map (fun s => (alongStroke s.1 s.2.toNat).length) =
      ((strokes.zip counts).map Prod.snd).map Int.toNat := by
    rw [List.map_map]
    refine List.map_congr_left fun s _ => ?_
    simp [alongStroke]
  rw [List.length_flatMap, hcounts, List.map_snd_zip h.le]

lemma length_sampleGlyph (chars : List (Option Char)) (count : ℕ) :
    (sampleGlyph chars count : List (GlyphPoint ℝ)).length = count := by
  unfold sampleGlyph
  dsimp only
  split
  next => exact List.length_replicate
  next hne =>
    have hlens : (strokesOf chars : List (Stroke ℝ)).map Stroke.len =
        List.replicate (strokesOf chars : List (Stroke ℝ)).length 2 := by
      rw [← List.map_const']
      exact List.map_congr_left fun k hk => len_of_mem_strokesOf hk
    have htotal : ((strokesOf chars : List (Stroke ℝ)).map Stroke.len).sum ≠ 0 := by
      rw [hlens, List.sum_replicate, nsmul_eq_mul]
      have hlen := List.length_pos_iff.mpr hne
      positivity
    have hnonneg : ∀ e ∈ exactShares (strokesOf chars : List (Stroke ℝ)) count, 0 ≤ e := by
      intro e he
      obtain ⟨k, hk, rfl⟩ := List.mem_map.mp he
      rw [len_of_mem_strokesOf hk, hlens, List.sum_replicate, nsmul_eq_mul]
      positivity
    rw [length_dealt (by rw [length_allocate, exactShares, List.length_map]),
      sum_allocate (sum_exactShares htotal) hnonneg]

lemma length_fmtText {n : ℕ} (scale : Double ℝ) (payload : String) :
    (fmtText n scale payload).length = n := by
  unfold fmtText
  dsimp only
  rw [length_flatMap_zipIdx _ _ fun _ => List.length_map _, textLayers, List.map_map]
  have hlengths : ∀ (chars : List (Option Char)) (d : ℕ),
      (layerCounts n d).map (List.length ∘ (sampleGlyph chars : ℕ → List (GlyphPoint ℝ))) =
        layerCounts n d := fun chars d =>
    (List.map_congr_left fun m _ => length_sampleGlyph chars m).trans (List.map_id _)
  rw [hlengths]
  exact sum_layerCounts n (le_searchDepth _ (n - 1) 1)

end Taramandal.Studio.Lettering
