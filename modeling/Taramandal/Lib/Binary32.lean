import Mathlib.Algebra.Order.Round
import Mathlib.Data.Int.Log
import Mathlib.Tactic.LinearCombination
import Mathlib.Tactic.Ring
import Taramandal.Lib.Literals

/-! # Single precision

The magnitudes of the binary32 format: a pattern of 31 bits is an eight-bit exponent
and a fraction of 23 bits (`value`). A magnitude is rounded to a multiple of the unit in
the last place of its binade (`roundMagnitude`), by any rounding `rnd` to a nearest
integer; what the pattern it is stored in holds is exactly that (`value_bits`), and no
pattern holds anything nearer (`abs_roundMagnitude_sub_le`). -/
set_option linter.unusedSectionVars false

namespace Taramandal.Lib.Binary32

variable {K : Type*} [Field K] [LinearOrder K] [IsStrictOrderedRing K]

def value (n : ℕ) : K :=
  if n / 2 ^ 23 = 0 then (n % 2 ^ 23 : ℕ) * 2 ^ (-149 : ℤ)
  else (2 ^ 23 + n % 2 ^ 23 : ℕ) * 2 ^ ((n / 2 ^ 23 : ℕ) - 150 : ℤ)

def infinity : ℕ := 255 * 2 ^ 23

variable [FloorRing K]

/-- The exponent of the binade a magnitude is rounded in. -/
def exponent (a : K) : ℤ := max (Int.log 2 a) (-126)

def ulp (a : K) : K := 2 ^ (exponent a - 23)

def roundMagnitude (rnd : K → ℤ) (a : K) : K := rnd (a / ulp a) * ulp a

/-- The pattern of a magnitude; one from `infinity` on is too large for the format. -/
def bits (rnd : K → ℤ) (a : K) : ℕ :=
  if a = 0 then 0 else (exponent a + 126).toNat * 2 ^ 23 + (rnd (a / ulp a)).toNat

omit [FloorRing K] in
lemma value_eq {e m : ℕ} (hm : m ≤ 2 ^ 24) (hnormal : 2 ^ 23 ≤ m ∨ e = 0) :
    (value (e * 2 ^ 23 + m) : K) = m * 2 ^ (e - 149 : ℤ) := by
  unfold value
  rcases lt_or_ge m (2 ^ 23) with hlt | hge
  · obtain rfl : e = 0 := by omega
    rw [if_pos (by omega), Nat.mod_eq_of_lt (by omega)]
    simp
  · rcases hm.lt_or_eq with hlt | rfl
    · have hdiv : (e * 2 ^ 23 + m) / 2 ^ 23 = e + 1 := by omega
      have hmod : 2 ^ 23 + (e * 2 ^ 23 + m) % 2 ^ 23 = m := by omega
      rw [hdiv, hmod, if_neg (by omega)]
      congr 2
      push_cast
      ring
    · have hdiv : (e * 2 ^ 23 + 2 ^ 24) / 2 ^ 23 = e + 2 := by omega
      have hmod : (2 ^ 23 + (e * 2 ^ 23 + 2 ^ 24) % 2 ^ 23 : ℕ) = 2 ^ 23 := by omega
      rw [hdiv, hmod, if_neg (by omega)]
      have hexp : ((e + 2 : ℕ) - 150 : ℤ) = 1 + (e - 149 : ℤ) := by
        push_cast
        ring
      rw [hexp, zpow_add₀ two_ne_zero]
      push_cast
      ring

omit [LinearOrder K] [IsStrictOrderedRing K] [FloorRing K] in
lemma value_form (n : ℕ) :
    ∃ (k : ℕ) (j : ℤ), k < 2 ^ 24 ∧ -149 ≤ j ∧ (value n : K) = k * 2 ^ j := by
  have hmod : n % 2 ^ 23 < 2 ^ 23 := Nat.mod_lt n (by positivity)
  unfold value
  split_ifs with hsub
  · exact ⟨n % 2 ^ 23, -149, by omega, le_rfl, rfl⟩
  · exact ⟨2 ^ 23 + n % 2 ^ 23, _, by omega, by omega, rfl⟩

lemma value_lt_iff {n : ℕ} : (value n : K) < 2 ^ 128 ↔ n < infinity := by
  have hmod : n % 2 ^ 23 < 2 ^ 23 := Nat.mod_lt n (by positivity)
  rcases lt_or_ge n infinity with hlt | hge
  · refine iff_of_true ?_ hlt
    have hk : ∃ (k : ℕ) (j : ℤ), k < 2 ^ 24 ∧ j ≤ 104 ∧ (value n : K) = k * 2 ^ j := by
      unfold infinity at hlt
      unfold value
      split_ifs with hsub
      · exact ⟨n % 2 ^ 23, -149, by omega, by omega, rfl⟩
      · exact ⟨2 ^ 23 + n % 2 ^ 23, _, by omega, by omega, rfl⟩
    obtain ⟨k, j, hk, hj, hvalue⟩ := hk
    have hklt : (k : K) < 2 ^ 24 := by exact_mod_cast hk
    have hjle : (2 : K) ^ j ≤ 2 ^ (104 : ℤ) := zpow_le_zpow_right₀ one_le_two hj
    calc (value n : K) = k * 2 ^ j := hvalue
      _ < 2 ^ 24 * 2 ^ (104 : ℤ) :=
        mul_lt_mul hklt hjle (zpow_pos two_pos j) (by positivity)
      _ = 2 ^ 128 := by norm_num
  · refine iff_of_false (not_lt.mpr ?_) (not_lt.mpr hge)
    have hexp : 255 ≤ n / 2 ^ 23 := by
      unfold infinity at hge
      omega
    have hsignificand : (2 : K) ^ 23 ≤ (2 ^ 23 + n % 2 ^ 23 : ℕ) := by
      exact_mod_cast Nat.le_add_right (2 ^ 23) _
    have hpow : (2 : K) ^ (105 : ℤ) ≤ 2 ^ ((n / 2 ^ 23 : ℕ) - 150 : ℤ) :=
      zpow_le_zpow_right₀ one_le_two (by omega)
    unfold value
    rw [if_neg (by omega)]
    calc (2 : K) ^ 128 = 2 ^ 23 * 2 ^ (105 : ℤ) := by norm_num
      _ ≤ ((2 ^ 23 + n % 2 ^ 23 : ℕ) : K) * 2 ^ ((n / 2 ^ 23 : ℕ) - 150 : ℤ) :=
        mul_le_mul hsignificand hpow (zpow_pos two_pos _).le (Nat.cast_nonneg _)

lemma value_strictMono : StrictMono (value (K := K)) := by
  refine strictMono_nat_of_lt_succ fun n => ?_
  obtain ⟨e, m, hn, hm, hnormal⟩ : ∃ e m, n = e * 2 ^ 23 + m ∧ m < 2 ^ 24 ∧
      (2 ^ 23 ≤ m ∨ e = 0) := by
    have hmod : n % 2 ^ 23 < 2 ^ 23 := Nat.mod_lt n (by positivity)
    rcases Nat.eq_zero_or_pos (n / 2 ^ 23) with hsub | hpos
    · exact ⟨0, n, by omega, by omega, .inr rfl⟩
    · exact ⟨n / 2 ^ 23 - 1, n % 2 ^ 23 + 2 ^ 23, by omega, by omega, .inl (by omega)⟩
  have hnext : (value (n + 1) : K) = (m + 1 : ℕ) * 2 ^ (e - 149 : ℤ) := by
    rw [hn, Nat.add_assoc]
    exact value_eq (by omega) (hnormal.imp_left fun h => by omega)
  rw [hnext, hn, value_eq hm.le hnormal]
  exact mul_lt_mul_of_pos_right (by exact_mod_cast Nat.lt_succ_self m) (zpow_pos two_pos _)

lemma ulp_pos (a : K) : 0 < ulp a := zpow_pos two_pos _

lemma exponent_ge (a : K) : -126 ≤ exponent a := le_max_right _ _

lemma lt_ulp (a : K) : a < 2 ^ 24 * ulp a := by
  have hlog : a < 2 ^ (Int.log 2 a + 1) := by
    exact_mod_cast Int.lt_zpow_succ_log_self (b := 2) one_lt_two a
  have hexp : (2 : K) ^ (Int.log 2 a + 1) ≤ 2 ^ (exponent a + 1) :=
    zpow_le_zpow_right₀ one_le_two (by unfold exponent; omega)
  calc a < 2 ^ (exponent a + 1) := hlog.trans_le hexp
    _ = 2 ^ (24 : ℤ) * ulp a := by
      rw [ulp, ← zpow_add₀ two_ne_zero]
      congr 1
      ring
    _ = 2 ^ 24 * ulp a := by norm_cast

lemma ulp_le {a : K} (ha : 0 < a) : 2 ^ 23 * ulp a ≤ a ∨ exponent a = -126 := by
  rcases le_or_gt (Int.log 2 a) (-126) with hsub | hnormal
  · exact .inr (max_eq_right hsub)
  · left
    have hlog : (2 : K) ^ Int.log 2 a ≤ a := by
      exact_mod_cast Int.zpow_log_le_self (b := 2) one_lt_two ha
    have hexp : exponent a = Int.log 2 a := max_eq_left hnormal.le
    calc 2 ^ 23 * ulp a = 2 ^ (23 : ℤ) * ulp a := by norm_cast
      _ = 2 ^ Int.log 2 a := by
        rw [ulp, ← zpow_add₀ two_ne_zero, hexp]
        congr 1
        ring
      _ ≤ a := hlog

section

variable {rnd : K → ℤ} (hrnd : ∀ x, |(rnd x : K) - x| ≤ 1 / 2)
include hrnd

lemma le_rnd {n : ℤ} {x : K} (h : (n : K) ≤ x) : n ≤ rnd x := by
  have hnear := (abs_le.mp (hrnd x)).1
  have hlt : (n : K) < rnd x + 1 := by linarith
  exact Int.lt_add_one_iff.mp (by exact_mod_cast hlt)

lemma rnd_le {n : ℤ} {x : K} (h : x ≤ n) : rnd x ≤ n := by
  have hnear := (abs_le.mp (hrnd x)).2
  have hlt : (rnd x : K) < n + 1 := by linarith
  exact Int.lt_add_one_iff.mp (by exact_mod_cast hlt)

lemma abs_rnd_sub_le (x : K) (n : ℤ) : |(rnd x : K) - x| ≤ |(n : K) - x| := by
  rcases eq_or_ne n (rnd x) with rfl | hne
  · exact le_rfl
  · have hone : (1 : K) ≤ |((n - rnd x : ℤ) : K)| := by
      exact_mod_cast Int.one_le_abs (sub_ne_zero.mpr hne)
    have htri : |((n - rnd x : ℤ) : K)| ≤ |(n : K) - x| + |(rnd x : K) - x| := by
      push_cast
      rw [abs_sub_comm (rnd x : K) x]
      exact abs_sub_le _ _ _
    linarith [hrnd x]

lemma value_bits {a : K} (ha : 0 ≤ a) : value (bits rnd a) = roundMagnitude rnd a := by
  rcases ha.eq_or_lt with rfl | hpos
  · have hzero : rnd (0 : K) = 0 :=
      le_antisymm (rnd_le hrnd (by simp)) (le_rnd hrnd (by simp))
    simp [bits, value, roundMagnitude, hzero]
  · have hulp := ulp_pos a
    have hlow : 0 ≤ rnd (a / ulp a) := le_rnd hrnd (by simpa using (div_pos hpos hulp).le)
    have hhigh : rnd (a / ulp a) ≤ 2 ^ 24 := by
      refine rnd_le hrnd ?_
      rw [div_le_iff₀ hulp]
      exact_mod_cast (lt_ulp a).le
    obtain ⟨m, hm⟩ := Int.eq_ofNat_of_zero_le hlow
    obtain ⟨e, he⟩ := Int.eq_ofNat_of_zero_le (by linarith [exponent_ge a] : 0 ≤ exponent a + 126)
    have hnormal : 2 ^ 23 ≤ m ∨ e = 0 := by
      refine (ulp_le hpos).imp (fun hle => ?_) fun hsub => by omega
      have hge : (2 ^ 23 : ℤ) ≤ rnd (a / ulp a) := by
        refine le_rnd hrnd ?_
        rw [le_div_iff₀ hulp]
        exact_mod_cast hle
      omega
    have hexp : exponent a - 23 = (e : ℤ) - 149 := by omega
    rw [bits, if_neg hpos.ne', he, hm, Int.toNat_natCast, Int.toNat_natCast,
      value_eq (by omega) hnormal, roundMagnitude, hm, ulp, hexp, Int.cast_natCast]

lemma abs_roundMagnitude_sub_le_mul (a : K) (t : ℤ) :
    |roundMagnitude rnd a - a| ≤ |t * ulp a - a| := by
  have hulp := ulp_pos a
  have hscale : ∀ z : ℤ, |(z : K) * ulp a - a| = |(z : K) - a / ulp a| * ulp a := by
    intro z
    rw [← abs_of_pos hulp, ← abs_mul, abs_of_pos hulp, sub_mul, div_mul_cancel₀ a hulp.ne']
  rw [roundMagnitude, hscale, hscale]
  exact mul_le_mul_of_nonneg_right (abs_rnd_sub_le hrnd _ t) hulp.le

lemma abs_roundMagnitude_sub_le {a : K} (ha : 0 ≤ a) (n : ℕ) :
    |roundMagnitude rnd a - a| ≤ |value n - a| := by
  obtain ⟨k, j, hk, hj, hvalue⟩ := value_form (K := K) n
  rw [hvalue]
  rcases le_or_gt (exponent a - 23) j with hcoarse | hfine
  · -- a multiple of the unit
    obtain ⟨d, hd⟩ := Int.eq_ofNat_of_zero_le (sub_nonneg.mpr hcoarse)
    have hmul : (k : K) * 2 ^ j = ((k * 2 ^ d : ℤ) : K) * ulp a := by
      obtain rfl : j = d + (exponent a - 23) := by omega
      rw [zpow_add₀ two_ne_zero, ulp]
      push_cast
      rw [zpow_natCast, mul_assoc]
    rw [hmul]
    exact abs_roundMagnitude_sub_le_mul hrnd a _
  · -- a finer number is below the binade, which starts at a multiple of the unit
    rcases ha.eq_or_lt with rfl | hpos
    · have hexp : exponent (0 : K) = 0 := by simp [exponent]
      have hround := abs_roundMagnitude_sub_le_mul hrnd (0 : K) 0
      simp only [Int.cast_zero, zero_mul, sub_zero, abs_zero] at hround
      exact (by simpa using hround : |roundMagnitude rnd (0 : K) - 0| ≤ 0).trans (abs_nonneg _)
    · have hstart : 2 ^ 23 * ulp a ≤ a := (ulp_le hpos).resolve_right (by omega)
      have hbelow : (k : K) * 2 ^ j ≤ 2 ^ 23 * ulp a := by
        have hkle : (k : K) ≤ 2 ^ 24 := by exact_mod_cast hk.le
        have hjle : (2 : K) ^ j ≤ 2 ^ (exponent a - 24) :=
          zpow_le_zpow_right₀ one_le_two (by omega)
        calc (k : K) * 2 ^ j ≤ 2 ^ 24 * 2 ^ (exponent a - 24) :=
              mul_le_mul hkle hjle (zpow_pos two_pos j).le (by positivity)
          _ = 2 ^ 23 * (2 ^ (1 : ℤ) * 2 ^ (exponent a - 24)) := by ring
          _ = 2 ^ 23 * ulp a := by
            rw [← zpow_add₀ two_ne_zero, ulp]
            congr 2
            ring
      calc |roundMagnitude rnd a - a| ≤ |((2 ^ 23 : ℤ) : K) * ulp a - a| :=
            abs_roundMagnitude_sub_le_mul hrnd a _
        _ = a - 2 ^ 23 * ulp a := by
          rw [Int.cast_pow, Int.cast_ofNat, abs_of_nonpos (sub_nonpos.mpr hstart), neg_sub]
        _ ≤ a - k * 2 ^ j := sub_le_sub_left hbelow a
        _ = |k * 2 ^ j - a| := by
          rw [abs_of_nonpos (sub_nonpos.mpr (hbelow.trans hstart)), neg_sub]

omit hrnd in
lemma value_nonneg (n : ℕ) : (0 : K) ≤ value n := by
  obtain ⟨k, j, -, -, hvalue⟩ := value_form (K := K) n
  rw [hvalue]
  exact mul_nonneg (Nat.cast_nonneg k) (zpow_pos two_pos j).le

lemma roundMagnitude_value (n : ℕ) : roundMagnitude rnd (value n) = (value n : K) := by
  have h := abs_roundMagnitude_sub_le hrnd (value_nonneg n) n
  rw [sub_self, abs_zero] at h
  exact sub_eq_zero.mp (abs_nonpos_iff.mp h)

lemma bits_value (n : ℕ) : bits rnd (value n : K) = n := by
  have h := value_bits hrnd (value_nonneg (K := K) n)
  rw [roundMagnitude_value hrnd] at h
  exact value_strictMono.injective h

end

end Taramandal.Lib.Binary32
