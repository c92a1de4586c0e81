import Mathlib.Analysis.InnerProductSpace.PiL2
import Taramandal.Lib.Literals

/-! # Rounded points on a straight piece

A difference of two points that runs along a straight piece, from `u` to `u + v`, and the
chord between two places of it that were rounded to hundredths. Rounding takes no more than
`√3 / 100` off the length; of a piece that is too short for its least length to be known,
only the ends are, and there it is the grid that helps: a rounded difference of less than two
is less by a whole step. -/
namespace Taramandal.Lib.Rounded

abbrev E := EuclideanSpace ℝ (Fin 3)

lemma normSq_along (u v : E) (w : ℝ) :
    ‖u + w • v‖ ^ 2 = (1 - w) * ‖u‖ ^ 2 + w * ‖u + v‖ ^ 2 - w * (1 - w) * ‖v‖ ^ 2 := by
  rw [norm_add_sq_real, norm_add_sq_real, inner_smul_right, norm_smul, mul_pow, Real.norm_eq_abs,
    sq_abs]
  ring

lemma along_chord (u v : E) (w w' l : ℝ) :
    (u + w • v) + l • ((u + w' • v) - (u + w • v)) = u + (w + l * (w' - w)) • v := by
  module

variable {l w : ℝ}

variable {w' : ℝ} {u v e : E}

lemma between_mem (hw : w ∈ Set.Icc (0 : ℝ) 1) (hw' : w' ∈ Set.Icc (0 : ℝ) 1)
    (hl : l ∈ Set.Icc (0 : ℝ) 1) : w + l * (w' - w) ∈ Set.Icc (0 : ℝ) 1 := by
  obtain ⟨hw0, hw1⟩ := hw
  obtain ⟨hw0', hw1'⟩ := hw'
  obtain ⟨hl0, hl1⟩ := hl
  constructor
  · nlinarith
  · nlinarith

/-- A piece no longer than this may come nearer between its ends than they are. -/
noncomputable def shortest : ℝ := 1 / 10 ^ 6

/-- No nearer than `c` all along, or at both ends of a short piece. -/
def Apart (c : ℝ) (u v : E) : Prop :=
  (∀ w ∈ Set.Icc (0 : ℝ) 1, c ≤ ‖u + w • v‖) ∨ (‖v‖ ≤ shortest ∧ c ≤ ‖u‖ ∧ c ≤ ‖u + v‖)

lemma le_along_of_ends {c : ℝ} (hc : 0 ≤ c) (hv : ‖v‖ ≤ shortest) (hu : c ≤ ‖u‖)
    (huv : c ≤ ‖u + v‖) (hw : w ∈ Set.Icc (0 : ℝ) 1) :
    c ^ 2 - shortest ^ 2 / 4 ≤ ‖u + w • v‖ ^ 2 := by
  obtain ⟨hw0, hw1⟩ := hw
  have hu2 : c ^ 2 ≤ ‖u‖ ^ 2 := pow_le_pow_left₀ hc hu 2
  have huv2 : c ^ 2 ≤ ‖u + v‖ ^ 2 := pow_le_pow_left₀ hc huv 2
  have hv2 : ‖v‖ ^ 2 ≤ shortest ^ 2 := pow_le_pow_left₀ (norm_nonneg v) hv 2
  have hquarter : w * (1 - w) ≤ 1 / 4 := by nlinarith [sq_nonneg (w - 1 / 2)]
  have hloss : w * (1 - w) * ‖v‖ ^ 2 ≤ 1 / 4 * shortest ^ 2 :=
    mul_le_mul hquarter hv2 (sq_nonneg _) (by norm_num)
  rw [normSq_along]
  nlinarith [mul_le_mul_of_nonneg_left hu2 (sub_nonneg.mpr hw1), mul_le_mul_of_nonneg_left huv2 hw0]

def OnGrid (d : E) : Prop := ∀ i, ∃ m : ℤ, d i = m / 100

def Near (a d : E) : Prop := ∀ i, |d i - a i| ≤ 1 / 100

lemma normSq_le_of_coordinates {r s : ℝ} {i : Fin 3} (hi : |e i| ≤ r)
    (h : ∀ j, |e j| ≤ s) : ‖e‖ ^ 2 ≤ r ^ 2 + 2 * s ^ 2 := by
  have hcoordinate : ∀ {x b : ℝ}, |x| ≤ b → x ^ 2 ≤ b ^ 2 := fun hx =>
    sq_le_sq' (abs_le.mp hx).1 (abs_le.mp hx).2
  rw [EuclideanSpace.norm_sq_eq, Fin.sum_univ_three]
  simp only [Real.norm_eq_abs, sq_abs]
  have h0 := hcoordinate (h 0)
  have h1 := hcoordinate (h 1)
  have h2 := hcoordinate (h 2)
  have hi := hcoordinate hi
  obtain rfl | rfl | rfl : i = 0 ∨ i = 1 ∨ i = 2 := by omega
  · linarith
  · linarith
  · linarith

noncomputable def worst : ℝ := √3 / 100

lemma worst_sq : worst ^ 2 = 3 * (1 / 100) ^ 2 := by
  rw [worst, div_pow, Real.sq_sqrt (by norm_num)]
  norm_num

lemma worst_nonneg : 0 ≤ worst := div_nonneg (Real.sqrt_nonneg 3) (by norm_num)

lemma worst_lt : worst < 2 / 100 := by
  have hsq := worst_sq
  nlinarith [worst_nonneg]

lemma norm_le_worst (h : ∀ j, |e j| ≤ 1 / 100) : ‖e‖ ≤ worst := by
  have hsq := normSq_le_of_coordinates (h 0) h
  refine le_of_sq_le_sq ?_ worst_nonneg
  rw [worst_sq]
  linarith

variable {a a' d d' : E}

lemma near_of_chord (h : Near a d) (h' : Near a' d') (hl : l ∈ Set.Icc (0 : ℝ) 1) :
    Near (a + l • (a' - a)) (d + l • (d' - d)) := by
  intro i
  obtain ⟨hl0, hl1⟩ := hl
  have hi := abs_le.mp (h i)
  have hi' := abs_le.mp (h' i)
  have hdiff : (d + l • (d' - d)) i - (a + l • (a' - a)) i =
      (1 - l) * (d i - a i) + l * (d' i - a' i) := by
    simp only [PiLp.add_apply, PiLp.smul_apply, PiLp.sub_apply, smul_eq_mul]
    ring
  rw [hdiff, abs_le]
  constructor
  · nlinarith
  · nlinarith

lemma le_norm_of_near (h : Near a d) : ‖a‖ - worst ≤ ‖d‖ := by
  have herr : ‖d - a‖ ≤ worst := norm_le_worst fun j => h j
  have htri := norm_sub_norm_le a (a - d)
  rw [norm_sub_rev] at herr
  have hd : a - (a - d) = d := by abel
  rw [hd] at htri
  linarith

/-! ## On the grid -/

noncomputable def farthest (d : E) : E := !₂[|d 0| + 1 / 100, |d 1| + 1 / 100, |d 2| + 1 / 100]

lemma farthest_apply (d : E) (i : Fin 3) : farthest d i = |d i| + 1 / 100 := by
  obtain rfl | rfl | rfl : i = 0 ∨ i = 1 ∨ i = 2 := by omega
  · rfl
  · rfl
  · rfl

lemma norm_le_farthest (h : Near a d) : ‖a‖ ^ 2 ≤ ‖farthest d‖ ^ 2 := by
  rw [EuclideanSpace.norm_sq_eq, EuclideanSpace.norm_sq_eq]
  refine Finset.sum_le_sum fun i _ => ?_
  rw [farthest_apply, Real.norm_eq_abs, Real.norm_eq_abs, sq_abs, sq_abs]
  have hi := abs_le.mp (h i)
  have hle : |a i| ≤ |d i| + 1 / 100 := by
    rw [abs_le]
    constructor
    · linarith [neg_abs_le (d i)]
    · linarith [le_abs_self (d i)]
  rw [← sq_abs (a i)]
  exact pow_le_pow_left₀ (abs_nonneg _) hle 2

lemma farthest_le (d : E) : ‖farthest d‖ ≤ ‖d‖ + worst := by
  let size : E := !₂[|d 0|, |d 1|, |d 2|]
  have hsize : ‖size‖ = ‖d‖ := by
    rw [EuclideanSpace.norm_eq, EuclideanSpace.norm_eq, Fin.sum_univ_three, Fin.sum_univ_three]
    simp [size]
  have hnear : Near size (farthest d) := by
    intro i
    obtain rfl | rfl | rfl : i = 0 ∨ i = 1 ∨ i = 2 := by omega
    · simp [farthest, size]
    · simp [farthest, size]
    · simp [farthest, size]
  have herr : ‖farthest d - size‖ ≤ worst := norm_le_worst fun j => hnear j
  calc ‖farthest d‖ = ‖size + (farthest d - size)‖ := by rw [add_sub_cancel]
    _ ≤ ‖size‖ + ‖farthest d - size‖ := norm_add_le _ _
    _ ≤ ‖d‖ + worst := by rw [hsize]; linarith

lemma normSq_farthest (hd : OnGrid d) : ∃ m : ℤ, ‖farthest d‖ ^ 2 = m / 10000 := by
  obtain ⟨m0, h0⟩ := hd 0
  obtain ⟨m1, h1⟩ := hd 1
  obtain ⟨m2, h2⟩ := hd 2
  refine ⟨(|m0| + 1) ^ 2 + (|m1| + 1) ^ 2 + (|m2| + 1) ^ 2, ?_⟩
  have habs : ∀ m : ℤ, |(m : ℝ) / 100| = (|m| : ℤ) / 100 := by
    intro m
    rw [abs_div, Int.cast_abs, abs_of_pos (by norm_num : (0 : ℝ) < 100)]
  rw [EuclideanSpace.norm_sq_eq, Fin.sum_univ_three, farthest_apply, farthest_apply,
    farthest_apply, h0, h1, h2, habs, habs, habs]
  simp only [Real.norm_eq_abs, sq_abs]
  push_cast
  ring

/-- A difference of nearly two or more is, rounded, of two or more but for the worst that
rounding does. -/
lemma le_norm_of_onGrid (hd : OnGrid d) (h : Near a d) (ha : 2 - 2 * shortest ≤ ‖a‖) :
    2 - worst ≤ ‖d‖ := by
  obtain ⟨m, hm⟩ := normSq_farthest hd
  have hlow : (39999 : ℝ) < m := by
    have hsq : (2 - 2 * shortest) ^ 2 ≤ ‖a‖ ^ 2 :=
      pow_le_pow_left₀ (by norm_num [shortest]) ha 2
    have hle := hsq.trans (norm_le_farthest h)
    rw [hm] at hle
    norm_num [shortest] at hle
    linarith
  have hm40000 : (40000 : ℝ) ≤ m := by
    have hlt : (39999 : ℤ) < m := by exact_mod_cast hlow
    exact_mod_cast hlt
  have htwo : 2 ≤ ‖farthest d‖ := by
    refine le_of_sq_le_sq ?_ (norm_nonneg _)
    rw [hm]
    linarith
  linarith [farthest_le d]

/-! ## The chord between rounded places -/

lemma exists_coordinate_ne (hd : OnGrid d) (hd' : OnGrid d') (hne : d ≠ d') :
    ∃ i, 1 / 100 ≤ |d' i - d i| := by
  by_contra hall
  refine hne (PiLp.ext fun i => ?_)
  obtain ⟨m, hm⟩ := hd i
  obtain ⟨m', hm'⟩ := hd' i
  have hlt : |d' i - d i| < 1 / 100 := not_le.mp fun h => hall ⟨i, h⟩
  rw [hm, hm', ← sub_div, abs_div, abs_of_pos (by norm_num : (0 : ℝ) < 100),
    div_lt_div_iff_of_pos_right (by norm_num)] at hlt
  have hcast : |((m' - m : ℤ) : ℝ)| < 1 := by
    push_cast
    exact hlt
  have hzero : m' - m = 0 := Int.abs_lt_one_iff.mp (by exact_mod_cast hcast)
  have heq : m = m' := by omega
  rw [hm, hm', heq]

/-- Errors that differ by `gap` are, a share of the way from one to the other, not as large
as either may be. -/
lemma abs_mix_le {e e' b gap : ℝ} (he : |e| ≤ b) (he' : |e'| ≤ b) (hgap : gap ≤ |e' - e|)
    (hl0 : 0 ≤ l) (hl : l ≤ 1 / 2) : |e + l * (e' - e)| ≤ b - l * gap := by
  obtain ⟨he1, he2⟩ := abs_le.mp he
  obtain ⟨he1', he2'⟩ := abs_le.mp he'
  rw [abs_le]
  rcases le_abs.mp hgap with hgap | hgap
  · constructor
    · nlinarith
    · nlinarith
  · constructor
    · nlinarith
    · nlinarith

lemma le_chord_at_end (hd : OnGrid d) (h : Near a d) (h' : Near a' d')
    (ha : 2 - 2 * shortest ≤ ‖a‖) (haa' : ‖a' - a‖ ≤ shortest) (hl0 : 0 ≤ l) (hl : l ≤ 1 / 10 ^ 5) :
    2 - shortest - worst ≤ ‖d + l • (d' - d)‖ := by
  have hend := le_norm_of_onGrid hd h ha
  have herr : ‖d - a‖ ≤ worst := norm_le_worst fun j => h j
  have herr' : ‖d' - a'‖ ≤ worst := norm_le_worst fun j => h' j
  have hstep : ‖d' - d‖ ≤ 5 / 100 := by
    have hsplit : d' - d = (d' - a') + (a' - a) - (d - a) := by abel
    have hshort : shortest ≤ 1 / 100 := by norm_num [shortest]
    have hworst := worst_lt
    rw [hsplit]
    calc ‖(d' - a') + (a' - a) - (d - a)‖ ≤ ‖(d' - a') + (a' - a)‖ + ‖d - a‖ := norm_sub_le _ _
      _ ≤ ‖d' - a'‖ + ‖a' - a‖ + ‖d - a‖ := by gcongr; exact norm_add_le _ _
      _ ≤ 5 / 100 := by linarith
  have hmove : ‖l • (d' - d)‖ ≤ 1 / 10 ^ 5 * (5 / 100) := by
    rw [norm_smul, Real.norm_of_nonneg hl0]
    exact mul_le_mul hl hstep (norm_nonneg _) (by norm_num)
  have htri := norm_sub_norm_le d (-(l • (d' - d)))
  rw [sub_neg_eq_add, norm_neg] at htri
  have hsmall : (1 : ℝ) / 10 ^ 5 * (5 / 100) ≤ shortest := by norm_num [shortest]
  linarith

lemma le_chord_inside (hd : OnGrid d) (hd' : OnGrid d') (hne : d ≠ d') (h : Near a d)
    (h' : Near a' d') (haa' : ‖a' - a‖ ≤ shortest) (hl0 : 1 / 10 ^ 5 ≤ l) (hl : l ≤ 1 / 2)
    (hchord : (2 - shortest) ^ 2 - shortest ^ 2 / 4 ≤ ‖a + l • (a' - a)‖ ^ 2) :
    2 - shortest - worst ≤ ‖d + l • (d' - d)‖ := by
  obtain ⟨i, hi⟩ := exists_coordinate_ne hd hd' hne
  have hl0' : 0 ≤ l := le_trans (by norm_num) hl0
  let a₁ := a + l • (a' - a)
  let d₁ := d + l • (d' - d)
  have hnear : Near a₁ d₁ := near_of_chord h h' ⟨hl0', hl.trans (by norm_num)⟩
  -- the errors at the two ends are not alike in this coordinate
  have hgap : 1 / 100 - shortest ≤ |(d' i - a' i) - (d i - a i)| := by
    have hai : |a' i - a i| ≤ shortest := (PiLp.norm_apply_le (a' - a) i).trans haa'
    have hsplit : d' i - d i = ((d' i - a' i) - (d i - a i)) + (a' i - a i) := by ring
    rw [hsplit] at hi
    linarith [abs_add_le ((d' i - a' i) - (d i - a i)) (a' i - a i)]
  have hmix := abs_mix_le (h i) (h' i) hgap hl0' hl
  have hinside : |(d₁ - a₁) i| ≤ 1 / 100 - 9 / 10 ^ 8 := by
    have heq : (d₁ - a₁) i = (d i - a i) + l * ((d' i - a' i) - (d i - a i)) := by
      simp only [d₁, a₁, PiLp.sub_apply, PiLp.add_apply, PiLp.smul_apply, smul_eq_mul]
      ring
    have hloss : 1 / 10 ^ 5 * (1 / 100 - shortest) ≤ l * (1 / 100 - shortest) :=
      mul_le_mul_of_nonneg_right hl0 (by norm_num [shortest])
    rw [heq]
    norm_num [shortest] at hloss hmix ⊢
    linarith
  have hsq := normSq_le_of_coordinates hinside fun j => hnear j
  have herr : ‖d₁ - a₁‖ ≤ worst - 1 / 10 ^ 12 := by
    have hworst := worst_sq
    have hlt := worst_lt
    have hpos : (1 : ℝ) / 100 ≤ worst := by
      refine le_of_sq_le_sq ?_ worst_nonneg
      rw [hworst]
      norm_num
    refine le_of_sq_le_sq ?_ (by linarith)
    nlinarith
  have hlength : 2 - shortest - 1 / 10 ^ 12 ≤ ‖a₁‖ := by
    refine le_of_sq_le_sq (le_trans ?_ hchord) (norm_nonneg _)
    norm_num [shortest]
  have htri := norm_sub_norm_le a₁ (a₁ - d₁)
  rw [sub_sub_cancel, norm_sub_rev] at htri
  linarith

lemma le_half_chord (hd : OnGrid d) (hd' : OnGrid d') (hne : d ≠ d') (h : Near a d)
    (h' : Near a' d') (ha : 2 - 2 * shortest ≤ ‖a‖) (haa' : ‖a' - a‖ ≤ shortest) (hl0 : 0 ≤ l)
    (hl : l ≤ 1 / 2) (hchord : (2 - shortest) ^ 2 - shortest ^ 2 / 4 ≤ ‖a + l • (a' - a)‖ ^ 2) :
    2 - shortest - worst ≤ ‖d + l • (d' - d)‖ := by
  rcases le_total l (1 / 10 ^ 5) with hend | hinside
  · exact le_chord_at_end hd h h' ha haa' hl0 hend
  · exact le_chord_inside hd hd' hne h h' haa' hinside hl hchord

/-- Of a piece along which the difference stays at two, or nearly, the rounded chords do. -/
lemma le_rounded_chord (h : Apart (2 - shortest) u v)
    (hw : w ∈ Set.Icc (0 : ℝ) 1) (hw' : w' ∈ Set.Icc (0 : ℝ) 1) (hd : OnGrid d) (hd' : OnGrid d')
    (hnear : Near (u + w • v) d) (hnear' : Near (u + w' • v) d') (hl : l ∈ Set.Icc (0 : ℝ) 1) :
    2 - shortest - worst ≤ ‖d + l • (d' - d)‖ := by
  have hpos : (0 : ℝ) ≤ 2 - shortest := by norm_num [shortest]
  rcases h with hall | ⟨hv, hu, huv⟩
  · have hle := hall _ (between_mem hw hw' hl)
    rw [← along_chord] at hle
    linarith [le_norm_of_near (near_of_chord hnear hnear' hl)]
  · have halong : ∀ w ∈ Set.Icc (0 : ℝ) 1,
        (2 - shortest) ^ 2 - shortest ^ 2 / 4 ≤ ‖u + w • v‖ ^ 2 :=
      fun w hw => le_along_of_ends hpos hv hu huv hw
    have hnorm : ∀ w ∈ Set.Icc (0 : ℝ) 1, 2 - 2 * shortest ≤ ‖u + w • v‖ := by
      intro w hw
      refine le_of_sq_le_sq (le_trans ?_ (halong w hw)) (norm_nonneg _)
      norm_num [shortest]
    have hstep : ∀ {w w' : ℝ}, w ∈ Set.Icc (0 : ℝ) 1 → w' ∈ Set.Icc (0 : ℝ) 1 →
        ‖(u + w' • v) - (u + w • v)‖ ≤ shortest := by
      intro w w' hw hw'
      have hdiff : (u + w' • v) - (u + w • v) = (w' - w) • v := by module
      have hone : |w' - w| ≤ 1 := abs_le.mpr ⟨by linarith [hw.2, hw'.1], by linarith [hw.1, hw'.2]⟩
      rw [hdiff, norm_smul, Real.norm_eq_abs]
      calc |w' - w| * ‖v‖ ≤ 1 * ‖v‖ := mul_le_mul_of_nonneg_right hone (norm_nonneg v)
        _ ≤ shortest := by rw [one_mul]; exact hv
    by_cases hne : d = d'
    · have hsmall := le_norm_of_onGrid hd hnear (hnorm w hw)
      have hshort : (0 : ℝ) ≤ shortest := by norm_num [shortest]
      rw [← hne, sub_self, smul_zero, add_zero]
      linarith
    · rcases le_total l (1 / 2) with hhalf | hhalf
      · refine le_half_chord hd hd' hne hnear hnear' (hnorm w hw) (hstep hw hw') hl.1 hhalf ?_
        rw [along_chord]
        exact halong _ (between_mem hw hw' hl)
      · -- the other half is the first one of the chord the other way
        have hl' : 1 - l ∈ Set.Icc (0 : ℝ) 1 := ⟨by linarith [hl.2], by linarith [hl.1]⟩
        have hback : d + l • (d' - d) = d' + (1 - l) • (d - d') := by module
        rw [hback]
        refine le_half_chord hd' hd (Ne.symm hne) hnear' hnear (hnorm w' hw') (hstep hw' hw) hl'.1
          (by linarith) ?_
        rw [along_chord]
        exact halong _ (between_mem hw' hw hl')

end Taramandal.Lib.Rounded
