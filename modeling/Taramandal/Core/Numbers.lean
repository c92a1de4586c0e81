import Mathlib.Analysis.Real.Sqrt
import Taramandal.Lib.Bisect
import Taramandal.Lib.Literals

/-! # The numbers the code computes with

Every float of the code is an exact number of an ordered field `K` with a floor:
the rationals where a definition is evaluated, the reals where a square root has
to be exact. Python's `%`, `round` and fixed-point formatting are defined on any
such field. A square root is a parameter (`Sqrt`); what the proofs need of it is
that it is not negative and that its square is not above the number. -/
namespace Taramandal.Core.Numbers

open Lib.Bisect

class Sqrt (K : Type*) where
  sqrt : K → K

export Sqrt (sqrt)

/-- A square root that never overestimates. -/
class LawfulSqrt (K : Type*) [Field K] [LinearOrder K] [Sqrt K] : Prop where
  sqrt_nonneg : ∀ x : K, 0 ≤ sqrt x
  sqrt_mul_self_le : ∀ x : K, 0 ≤ x → sqrt x * sqrt x ≤ x

export LawfulSqrt (sqrt_nonneg sqrt_mul_self_le)

noncomputable instance : Sqrt ℝ := ⟨Real.sqrt⟩

instance : LawfulSqrt ℝ where
  sqrt_nonneg := Real.sqrt_nonneg
  sqrt_mul_self_le _ hx := le_of_eq (Real.mul_self_sqrt hx)

lemma sqrt_real (x : ℝ) : sqrt x = Real.sqrt x := rfl

/-- A rational in units of `10 ^ -24`, rounded down. -/
def units (q : ℚ) : ℕ := ⌊q * 10 ^ 24⌋.toNat

lemma units_le {q : ℚ} (hq : 0 ≤ q) : (units q : ℚ) ≤ q * 10 ^ 24 := by
  have h : ((⌊q * 10 ^ 24⌋.toNat : ℤ) : ℚ) ≤ q * 10 ^ 24 := by
    rw [Int.toNat_of_nonneg (Int.floor_nonneg.mpr (by positivity))]
    exact Int.floor_le _
  exact_mod_cast h

/-- The square root of a rational, rounded down to twelve decimals. -/
def ratSqrt (q : ℚ) : ℚ := (isqrt (units q) : ℚ) / 10 ^ 12

instance : Sqrt ℚ := ⟨ratSqrt⟩

instance : LawfulSqrt ℚ where
  sqrt_nonneg q := by
    change 0 ≤ (isqrt (units q) : ℚ) / 10 ^ 12
    positivity
  sqrt_mul_self_le q hq := by
    have hsq : (isqrt (units q) : ℚ) * isqrt (units q) ≤ units q := by
      exact_mod_cast (isqrt_spec (units q)).1
    change (isqrt (units q) : ℚ) / 10 ^ 12 * ((isqrt (units q) : ℚ) / 10 ^ 12) ≤ q
    rw [div_mul_div_comm, div_le_iff₀ (by norm_num)]
    calc (isqrt (units q) : ℚ) * isqrt (units q) ≤ units q := hsq
      _ ≤ q * 10 ^ 24 := units_le hq
      _ = q * (10 ^ 12 * 10 ^ 12) := by norm_num

variable {K : Type*} [Field K] [LinearOrder K] [IsStrictOrderedRing K]

lemma sq_le_of_le_sqrt [Sqrt K] [LawfulSqrt K] {d x : K} (hd : 0 ≤ d) (hx : 0 ≤ x)
    (h : d ≤ sqrt x) : d * d ≤ x :=
  le_trans (mul_le_mul h h hd (sqrt_nonneg x)) (sqrt_mul_self_le x hx)

section

variable [FloorRing K]

/-- Python's `%` on floats with a positive divisor. -/
def fmod (a b : K) : K := a - b * ⌊a / b⌋

/-- `int(x)`: the fraction is cut off. -/
def trunc (x : K) : ℤ := if 0 ≤ x then ⌊x⌋ else ⌈x⌉

/-- Round to the nearest integer, halves to the even one. -/
def roundHalfEven (x : K) : ℤ :=
  if x - ⌊x⌋ < 1 / 2 then ⌊x⌋
  else if 1 / 2 < x - ⌊x⌋ then ⌊x⌋ + 1
  else if ⌊x⌋ % 2 = 0 then ⌊x⌋ else ⌊x⌋ + 1

/-- `round(x, digits)`. -/
def roundTo (digits : Nat) (x : K) : K := (roundHalfEven (x * 10 ^ digits) : K) / 10 ^ digits

lemma abs_roundHalfEven_sub_le (x : K) : |(roundHalfEven x : K) - x| ≤ 1 / 2 := by
  have h1 := Int.floor_le x
  have h2 := Int.lt_floor_add_one x
  unfold roundHalfEven
  split_ifs <;> push_cast <;> rw [abs_le] <;> constructor <;> linarith

lemma roundHalfEven_mono : Monotone (roundHalfEven (K := K)) := by
  intro x y hxy
  have hfloor := Int.floor_le_floor hxy
  rcases hfloor.lt_or_eq with hlt | heq
  · unfold roundHalfEven
    split_ifs <;> omega
  · unfold roundHalfEven
    rw [heq]
    have hfract : x - ⌊y⌋ ≤ y - ⌊y⌋ := sub_le_sub_right hxy _
    split_ifs <;> first | omega | (exfalso; linarith)

lemma fmod_nonneg {a b : K} (hb : 0 < b) : 0 ≤ fmod a b := by
  have h := mul_le_mul_of_nonneg_left (Int.floor_le (a / b)) hb.le
  rw [mul_div_cancel₀ a hb.ne'] at h
  rw [fmod]
  linarith

lemma fmod_lt {a b : K} (hb : 0 < b) : fmod a b < b := by
  have h := mul_lt_mul_of_pos_left (Int.lt_floor_add_one (a / b)) hb
  rw [mul_div_cancel₀ a hb.ne'] at h
  rw [fmod]
  linarith

lemma fmod_eq {a b r : K} (hr : 0 ≤ r) (hlt : r < b) (turns : ℤ) (h : a = r + b * turns) :
    fmod a b = r := by
  have hb : 0 < b := hr.trans_lt hlt
  have hfloor : ⌊a / b⌋ = turns := by
    rw [Int.floor_eq_iff, le_div_iff₀ hb, div_lt_iff₀ hb]
    constructor <;> linarith
  rw [fmod, hfloor]
  linarith

lemma roundHalfEven_intCast (n : ℤ) : roundHalfEven (n : K) = n := by
  simp [roundHalfEven, Int.floor_intCast]

def padLeft (width : Nat) (s : String) : String :=
  "".pushn '0' (width - s.length) ++ s

/-- The digits of a non-negative number of `10 ^ digits`-ths. -/
def decimal (digits n : Nat) : String :=
  if digits = 0 then toString n
  else toString (n / 10 ^ digits) ++ "." ++ padLeft digits (toString (n % 10 ^ digits))

/-- `f"{x:.{digits}f}"`. -/
def fixed (digits : Nat) (x : K) : String :=
  (if x < 0 then "-" else "") ++ decimal digits (roundHalfEven (|x| * 10 ^ digits)).toNat

/-- `f"{x}"` for a float of at most twelve decimals. -/
def floatStr (x : K) : String :=
  let n := (roundHalfEven (|x| * 10 ^ 12)).toNat
  let digits := ((padLeft 12 (toString (n % 10 ^ 12))).toList.reverse.dropWhile (· == '0')).reverse
  (if x < 0 then "-" else "") ++ toString (n / 10 ^ 12) ++ "." ++
    (if digits.isEmpty then "0" else String.ofList digits)

end

example : fixed 2 (-1 / 8 : ℚ) = "-0.12" := by decide +kernel

example : floatStr (3 / 2 : ℚ) = "1.5" ∧ floatStr (120 : ℚ) = "120.0" := by decide +kernel

end Taramandal.Core.Numbers

namespace Taramandal.Core.ScriptNumbers

open Core.Numbers

variable {K : Type} [Field K] [LinearOrder K] [FloorRing K]

/-- A number in a template string, of at most twelve decimals. -/
def numberText (x : K) : String := if x = ⌊x⌋ then toString ⌊x⌋ else floatStr x

/-- `x.toFixed(digits)`: a half is rounded away from zero. -/
def toFixed (digits : ℕ) (x : K) : String :=
  (if x < 0 then "-" else "") ++ decimal digits ⌊|x| * 10 ^ digits + 1 / 2⌋.toNat

end Taramandal.Core.ScriptNumbers
