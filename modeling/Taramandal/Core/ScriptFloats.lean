import Taramandal.Core.Floats

/-! # Floats of a script

What a script does with numbers that may not be numbers: no operation raises, and the greatest
and the least of some numbers are NaN if one of them is. A zero has no sign. -/
set_option linter.unusedSectionVars false

namespace Taramandal.Core.ScriptFloats

open Core.Numbers Core.Floats

variable {K : Type} [Field K] [LinearOrder K]

/-- `-x`. -/
def neg : Double K → Double K
  | .finite x => .finite (-x)
  | .inf a => .inf !a
  | .nan => .nan

/-- `x * y`. -/
def mul : Double K → Double K → Double K
  | .finite x, .finite y => .rounded (x * y)
  | .inf a, .finite y => if y = 0 then .nan else .inf (a != decide (y < 0))
  | .finite x, .inf b => if x = 0 then .nan else .inf (b != decide (x < 0))
  | .inf a, .inf b => .inf (a != b)
  | _, _ => .nan

/-- `x / y`. -/
def div : Double K → Double K → Double K
  | .finite x, .finite y =>
    if y = 0 then (if x = 0 then .nan else .inf (x < 0)) else .rounded (x / y)
  | .inf a, .finite y => .inf (a != decide (y < 0))
  | .finite _, .inf _ => .finite 0
  | _, _ => .nan

/-- `Math.max`. -/
def mathMax (xs : List (Double K)) : Double K :=
  if .nan ∈ xs then .nan else Double.maximum (.inf true) xs

/-- `Math.min`. -/
def mathMin (xs : List (Double K)) : Double K :=
  if .nan ∈ xs then .nan else Double.minimum (.inf false) xs

instance : Neg (Double K) := ⟨neg⟩

instance : Add (Double K) := ⟨Double.add⟩

instance : Sub (Double K) := ⟨Double.sub⟩

instance : Mul (Double K) := ⟨mul⟩

instance : Div (Double K) := ⟨div⟩

def isNumber (x : Double K) : Bool := x.value.isSome

variable {x : Double K} {b : K}

lemma exists_of_isNumber (h : isNumber x = true) : ∃ v, x = .finite v := by
  cases x with
  | finite v => exact ⟨v, rfl⟩
  | inf _ => cases h
  | nan => cases h

lemma finite_ne_nan (v : K) : Double.finite v ≠ .nan := by
  intro h
  cases h

lemma inf_ne_nan (a : Bool) : (Double.inf a : Double K) ≠ .nan := by
  intro h
  cases h

lemma le_of_not_exceeds (h : (Double.finite b).lt x = false)
    (hx : x ≠ .nan) : x.le (.finite b) = true :=
  Double.le_of_not_lt h hx (finite_ne_nan b)

lemma maximum_ne_nan (h : x ≠ .nan) (xs : List (Double K)) : Double.maximum x xs ≠ .nan := by
  refine List.foldlRecOn (motive := (· ≠ Double.nan)) xs _ h fun y hy z _ => ?_
  split
  next hlt => exact (Double.ne_nan_of_le (Double.le_of_lt hlt)).2
  next => exact hy

section

variable {xs : List (Double K)}

lemma le_of_mathMax (hnan : .nan ∉ xs)
    (h : (Double.finite b).lt (mathMax xs) = false) : ∀ x ∈ xs, x.le (.finite b) = true := by
  rw [mathMax, if_neg hnan] at h
  have hmax := le_of_not_exceeds h (maximum_ne_nan (inf_ne_nan true) xs)
  obtain ⟨-, hall⟩ := (Double.maximum_le_iff _ _ _).mp hmax
  exact fun x hx => (hall x hx).resolve_left fun heq => hnan (heq ▸ hx)

lemma le_mathMax (h : mathMax xs ≠ .nan) : ∀ x ∈ xs, x ≠ .nan ∧ x.le (mathMax xs) = true := by
  by_cases hnan : .nan ∈ xs
  · rw [mathMax, if_pos hnan] at h
    exact absurd rfl h
  · rw [mathMax, if_neg hnan] at h ⊢
    obtain ⟨-, hall⟩ := (Double.maximum_le_iff _ _ _).mp (Double.le_refl h)
    intro x hx
    have hx' : x ≠ .nan := fun heq => hnan (heq ▸ hx)
    exact ⟨hx', (hall x hx).resolve_left hx'⟩

lemma le_of_not_below (h : (Double.minimum (.inf false) xs).lt (.finite b) = false) :
    ∀ x ∈ xs, x = .nan ∨ (Double.finite b).le x = true := by
  have hne := Double.minimum_ne_nan (inf_ne_nan false) xs
  have hmin := Double.le_of_not_lt h (finite_ne_nan b) hne
  exact ((Double.le_minimum_iff _ _ _).mp hmin).2

end

lemma two_le_overflowFrom [IsStrictOrderedRing K] : (2 : K) ≤ overflowFrom := by
  have hone : (1 : K) ≤ 2 ^ 970 := one_le_pow₀ one_le_two
  have hpow : (2 : K) ^ 1024 = 2 ^ 970 * 2 ^ 54 := by rw [← pow_add]
  have hbig : (2 : K) ≤ 2 ^ 54 - 1 := by norm_num
  calc (2 : K) ≤ 2 ^ 54 - 1 := hbig
    _ ≤ 2 ^ 970 * (2 ^ 54 - 1) := le_mul_of_one_le_left (by linarith) hone
    _ = overflowFrom := by rw [overflowFrom, hpow, mul_sub, mul_one]

section

variable [Sqrt K]

lemma norm_finite_ne_nan (vs : List K) : Double.norm (vs.map Double.finite) ≠ .nan := by
  rw [Double.norm_of_finite]
  split
  · exact fun h => by cases h
  · exact fun h => by cases h

end

end Taramandal.Core.ScriptFloats
