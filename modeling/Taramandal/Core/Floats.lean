import Taramandal.Core.Numbers

/-! # Floats that may not be numbers

A double as a telemetry stream may deliver it: a number, an infinity, or NaN.
Numbers are exact here; what the arithmetic keeps of the format is where it
leaves the numbers: a sum overflows to an infinity, a power raises. -/
namespace Taramandal.Core.Floats

open Core.Numbers

inductive Double (K : Type) where
  | finite (x : K)
  | inf (negative : Bool)
  | nan
  deriving DecidableEq

instance Double.lawful {K : Type} [LinearOrder K] : LawfulBEq (Double K) := inferInstance

variable {K : Type} [Field K] [LinearOrder K]

def overflowFrom : K := 2 ^ 1024 - 2 ^ 970

/-- The number it is, if it is one (`math.isfinite`). -/
def Double.value : Double K → Option K
  | .finite x => some x
  | _ => none

/-- `x ** 2`: of a number too large to square, an `OverflowError`. -/
def Double.sq : Double K → Except String (Double K)
  | .finite x =>
    if overflowFrom ≤ x * x then .error "(34, 'Numerical result out of range')"
    else .ok (.finite (x * x))
  | .inf _ => .ok (.inf false)
  | .nan => .ok .nan

/-- `x + y`. -/
def Double.add : Double K → Double K → Double K
  | .finite x, .finite y =>
    if overflowFrom ≤ |x + y| then .inf (x + y < 0) else .finite (x + y)
  | .inf a, .inf b => if a = b then .inf a else .nan
  | .inf a, .finite _ => .inf a
  | .finite _, .inf b => .inf b
  | _, _ => .nan

/-- `x ** 0.5`, of what is not negative. -/
def Double.root [Sqrt K] : Double K → Double K
  | .finite x => .finite (sqrt x)
  | .inf _ => .inf false
  | .nan => .nan

/-- `x > limit`: never of NaN. -/
def Double.exceeds : Double K → K → Bool
  | .finite x, limit => limit < x
  | .inf negative, _ => !negative
  | .nan, _ => false

lemma Double.sq_isOk_iff (x : Double K) :
    (∃ y, x.sq = .ok y) ↔ ∀ v, x.value = some v → v * v < overflowFrom := by
  cases x with
  | finite v =>
    by_cases h : overflowFrom ≤ v * v
    · simp [sq, value, h]
    · simp [sq, value, h, not_le.mp h]
  | inf _ => simp [sq, value]
  | nan => simp [sq, value]

/-! ## Order -/

/-- `x < y`: never of NaN. -/
def Double.lt : Double K → Double K → Bool
  | .finite x, .finite y => x < y
  | .inf a, .inf b => a && !b
  | .inf a, .finite _ => a
  | .finite _, .inf b => !b
  | _, _ => false

/-- `x <= y`: never of NaN. -/
def Double.le : Double K → Double K → Bool
  | .finite x, .finite y => x ≤ y
  | .inf a, .inf b => a || !b
  | .inf a, .finite _ => a
  | .finite _, .inf b => !b
  | _, _ => false

/-- `min`: the first that no later one is below. -/
def Double.minimum (x : Double K) (xs : List (Double K)) : Double K :=
  xs.foldl (fun lowest y => if y.lt lowest then y else lowest) x

/-- `max`. -/
def Double.maximum (x : Double K) (xs : List (Double K)) : Double K :=
  xs.foldl (fun highest y => if highest.lt y then y else highest) x

section

omit [Field K]

variable {x y : Double K}

lemma Double.le_refl (h : x ≠ .nan) : x.le x = true := by
  cases x with
  | nan => exact absurd rfl h
  | inf a => cases a <;> rfl
  | finite v => simp [le]

lemma Double.le_trans {z : Double K} (hxy : x.le y = true) (hyz : y.le z = true) :
    x.le z = true := by
  cases x with
  | nan => cases y <;> cases hxy
  | inf a => cases a <;> cases y <;> cases z <;> simp_all [le]
  | finite u =>
    cases y with
    | nan => cases hxy
    | inf b => cases z <;> simp_all [le]
    | finite v =>
      cases z with
      | nan => cases hyz
      | inf _ => exact hyz
      | finite w =>
        simp only [le, decide_eq_true_eq] at hxy hyz ⊢
        exact hxy.trans hyz

lemma Double.ne_nan_of_le (h : x.le y = true) : x ≠ .nan ∧ y ≠ .nan := by
  cases x <;> cases y <;> simp_all [le]

lemma Double.le_of_lt (h : x.lt y = true) : x.le y = true := by
  cases x with
  | nan => cases y <;> cases h
  | inf a => cases a <;> cases y <;> simp_all [lt, le]
  | finite u =>
    cases y with
    | nan => cases h
    | inf _ => exact h
    | finite v =>
      simp only [lt, le, decide_eq_true_eq] at h ⊢
      exact h.le

lemma Double.le_of_not_lt (h : y.lt x = false) (hx : x ≠ .nan) (hy : y ≠ .nan) : x.le y = true := by
  cases x with
  | nan => exact absurd rfl hx
  | inf a => cases a <;> cases y <;> simp_all [lt, le]
  | finite u =>
    cases y with
    | nan => exact absurd rfl hy
    | inf _ => simp_all [lt, le]
    | finite v =>
      simp only [lt, le, decide_eq_false_iff_not, decide_eq_true_eq] at h ⊢
      exact not_lt.mp h

/-- `min` past a bound: its first is, and so is each that is a number. A NaN behind the
first goes unseen. -/
lemma Double.le_minimum_iff (b x : Double K) (xs : List (Double K)) :
    b.le (minimum x xs) = true ↔ b.le x = true ∧ ∀ y ∈ xs, y = .nan ∨ b.le y = true := by
  induction xs generalizing x with
  | nil => simp [minimum]
  | cons y ys ih =>
    have hstep : b.le (if y.lt x then y else x) = true ↔
        b.le x = true ∧ (y = .nan ∨ b.le y = true) := by
      cases h : y.lt x with
      | true => exact ⟨fun hy => ⟨le_trans hy (le_of_lt h), .inr hy⟩, fun hy =>
          hy.2.resolve_left (ne_nan_of_le (le_of_lt h)).1⟩
      | false =>
        refine ⟨fun hx => ⟨hx, or_iff_not_imp_left.mpr fun hy => ?_⟩, And.left⟩
        exact le_trans hx (le_of_not_lt h (ne_nan_of_le hx).2 hy)
    rw [minimum, List.foldl_cons, ← minimum, ih, hstep, List.forall_mem_cons, and_assoc]

lemma Double.minimum_ne_nan (h : x ≠ .nan) (xs : List (Double K)) : minimum x xs ≠ .nan := by
  refine List.foldlRecOn (motive := (· ≠ nan)) xs _ h fun y hy z _ => ?_
  split
  next hlt => exact (ne_nan_of_le (le_of_lt hlt)).1
  next => exact hy

/-- The same of `max` and a bound above. -/
lemma Double.maximum_le_iff (b x : Double K) (xs : List (Double K)) :
    (maximum x xs).le b = true ↔ x.le b = true ∧ ∀ y ∈ xs, y = .nan ∨ y.le b = true := by
  induction xs generalizing x with
  | nil => simp [maximum]
  | cons y ys ih =>
    have hstep : Double.le (if x.lt y then y else x) b = true ↔
        x.le b = true ∧ (y = .nan ∨ y.le b = true) := by
      cases h : x.lt y with
      | true => exact ⟨fun hy => ⟨le_trans (le_of_lt h) hy, .inr hy⟩, fun hy =>
          hy.2.resolve_left (ne_nan_of_le (le_of_lt h)).2⟩
      | false =>
        refine ⟨fun hx => ⟨hx, or_iff_not_imp_left.mpr fun hy => ?_⟩, And.left⟩
        exact le_trans (le_of_not_lt h hy (ne_nan_of_le hx).1) hx
    rw [maximum, List.foldl_cons, ← maximum, ih, hstep, List.forall_mem_cons, and_assoc]

end

/-- A result of the exact value `x`. -/
def Double.rounded (x : K) : Double K :=
  if overflowFrom ≤ |x| then .inf (x < 0) else .finite x

/-- `x - y`. -/
def Double.sub : Double K → Double K → Double K
  | .finite x, .finite y => rounded (x - y)
  | .inf a, .inf b => if a = b then .nan else .inf a
  | .inf a, .finite _ => .inf a
  | .finite _, .inf b => .inf !b
  | _, _ => .nan

/-- `x * factor`, by a positive number. -/
def Double.scale (factor : K) : Double K → Double K
  | .finite x => rounded (x * factor)
  | d => d

/-- `x / n`, by a positive integer. -/
def Double.divBy (n : Nat) : Double K → Double K
  | .finite x => .finite (x / n)
  | d => d

/-- The length of a vector (`math.hypot`, `math.dist`): an infinite coordinate outweighs
a NaN. -/
def Double.norm [Sqrt K] (v : List (Double K)) : Double K :=
  if v.any fun x => x.value.isNone && x ≠ .nan then .inf false
  else if .nan ∈ v then .nan
  else
    let length := sqrt (v.filterMap value |>.map fun x => x * x).sum
    if overflowFrom ≤ length then .inf false else .finite length

lemma Double.norm_of_inf [Sqrt K] {v : List (Double K)} {a : Bool} (h : .inf a ∈ v) :
    norm v = .inf false := by
  have hany : (v.any fun x => x.value.isNone && x ≠ .nan) = true :=
    List.any_eq_true.mpr ⟨_, h, by simp [value]⟩
  rw [norm, if_pos hany]

lemma Double.norm_of_finite [Sqrt K] (vs : List K) : norm (vs.map .finite) =
    if overflowFrom ≤ sqrt (vs.map fun x => x * x).sum then .inf false
    else .finite (sqrt (vs.map fun x => x * x).sum) := by
  have hany : ((vs.map Double.finite).any fun x => x.value.isNone && x ≠ .nan) = false := by
    simp [value, Function.comp_def]
  have hvalues : (vs.map Double.finite).filterMap value = vs := by
    simp [List.filterMap_map, Function.comp_def, value]
  rw [norm, hany, hvalues]
  simp

/-- `f"{x:.{digits}f}"`. -/
def Double.text [FloorRing K] (digits : Nat) : Double K → String
  | .finite x => fixed digits x
  | .inf negative => if negative then "-inf" else "inf"
  | .nan => "nan"

end Taramandal.Core.Floats
