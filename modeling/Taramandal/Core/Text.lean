import Mathlib.Algebra.Field.Basic
import Taramandal.Lib.Dict
import Taramandal.Lib.Literals

/-! # Numbers written as text

Python's `int(text)` and `float(text)`: surrounding blanks and single
underscores between digits are allowed, a float may have a fraction and an
exponent or be one of the words for infinity and NaN. Digits are the ASCII
ones. -/

/-! ## Python values

What a decoded show file is made of before anything has checked it: the values
`json.loads` and the file readers build. A finite float is a number of `K`; the
three floats that are no number are kept apart. A dict keeps its entries in
insertion order, and its keys are strings. -/
namespace Taramandal.Core.Values

inductive PyVal (K : Type) where
  | none
  | bool (b : Bool)
  | int (n : ℤ)
  | float (x : K)
  | inf (negative : Bool)
  | nan
  | str (s : String)
  | list (items : List (PyVal K))
  | dict (entries : List (String × PyVal K))

abbrev PyDict (K : Type) := Lib.Dict.Dict String (PyVal K)

abbrev Bytes := List UInt8

end Taramandal.Core.Values

namespace Taramandal.Core.Text

open Core.Values

/-- `str.strip()`, on the characters. -/
def strip (cs : List Char) : List Char :=
  ((cs.dropWhile Char.isWhitespace).reverse.dropWhile Char.isWhitespace).reverse

/-- A run of digits, an underscore allowed between two of them; `prev` says
whether the character before was a digit. -/
def digits : Bool → List Char → Option (List Nat)
  | prev, [] => if prev then some [] else none
  | prev, c :: cs =>
    if c.isDigit then (digits true cs).map fun ds => (c.toNat - '0'.toNat) :: ds
    else if c = '_' && prev then digits false cs
    else none

def natOf (ds : List Nat) : Nat := ds.foldl (fun n d => 10 * n + d) 0

def signed : List Char → Bool × List Char
  | '-' :: cs => (true, cs)
  | '+' :: cs => (false, cs)
  | cs => (false, cs)

/-- `int(text)`. -/
def pyInt (s : String) : Option ℤ :=
  let (neg, cs) := signed (strip s.toList)
  (digits false cs).map fun ds => if neg then -(natOf ds : ℤ) else natOf ds

/-! ## Integers read back -/

lemma digits_of_all {cs : List Char} (h : ∀ c ∈ cs, c.isDigit) {prev : Bool}
    (hne : cs ≠ [] ∨ prev) : digits prev cs = some (cs.map fun c => c.toNat - '0'.toNat) := by
  induction cs generalizing prev with
  | nil => 
    obtain rfl : prev = true := by simpa using hne
    rfl
  | cons c cs ih =>
    have hc := h c (List.mem_cons_self ..)
    rw [digits, if_pos hc, ih (fun c hc => h c (List.mem_cons_of_mem _ hc)) (.inr rfl)]
    rfl

lemma strip_of_all {cs : List Char} (h : ∀ c ∈ cs, c.isWhitespace = false) : strip cs = cs := by
  have hnone : ∀ l : List Char, (∀ c ∈ l, c.isWhitespace = false) →
      l.dropWhile Char.isWhitespace = l := by
    intro l hl
    cases l with
    | nil => rfl
    | cons c l => rw [List.dropWhile_cons_of_neg (by simp [hl c])]
  rw [strip, hnone cs h, hnone _ fun c hc => h c (List.mem_reverse.mp hc), List.reverse_reverse]

lemma natOf_toDigits (n : ℕ) :
    natOf ((Nat.toDigits 10 n).map fun c => c.toNat - '0'.toNat) = n := by
  rw [natOf, List.foldl_map]
  exact Nat.ofDigitChars_toDigits (by decide) (by decide)

lemma isDigit_toDigits {n : ℕ} {c : Char} (h : c ∈ Nat.toDigits 10 n) : c.isDigit :=
  Nat.isDigit_of_mem_toDigits (by decide) (by decide) h

lemma isWhitespace_of_isDigit {c : Char} (h : c.isDigit) : c.isWhitespace = false := by
  rw [Bool.eq_false_iff]
  intro hc
  simp only [Char.isWhitespace, Bool.or_eq_true, decide_eq_true_eq] at hc
  rcases hc with ((rfl | rfl) | rfl) | rfl <;> exact absurd h (by decide)

/-- `int(str(n))` of the digits of a number. -/
lemma digits_toDigits (n : ℕ) : (digits false (Nat.toDigits 10 n)).map natOf = some n := by
  rw [digits_of_all (fun c hc => isDigit_toDigits hc) (.inl Nat.toDigits_ne_nil), Option.map_some,
    natOf_toDigits]

lemma signed_toDigits (n : ℕ) : signed (Nat.toDigits 10 n) = (false, Nat.toDigits 10 n) := by
  cases h : Nat.toDigits 10 n with
  | nil => rfl
  | cons c cs =>
    have hc : c.isDigit := isDigit_toDigits (h ▸ List.mem_cons_self ..)
    unfold signed
    split
    next heq => cases heq; exact absurd hc (by decide)
    next heq => cases heq; exact absurd hc (by decide)
    next => rfl

/-- `int(str(n)) == n`. -/
lemma pyInt_toString (n : ℤ) : pyInt (toString n) = some n := by
  have hblank : ∀ m : ℕ, ∀ c ∈ Nat.toDigits 10 m, c.isWhitespace = false :=
    fun m c hc => isWhitespace_of_isDigit (isDigit_toDigits hc)
  cases n with
  | ofNat n =>
    have htext : (toString (Int.ofNat n)).toList = Nat.toDigits 10 n := by
      rw [Int.toString_eq_repr]
      exact Nat.toList_repr
    obtain ⟨ds, hds, hn⟩ := Option.map_eq_some_iff.mp (digits_toDigits n)
    rw [pyInt, htext, strip_of_all (hblank n), signed_toDigits]
    simp [hds, hn]
  | negSucc n =>
    have htext : (toString (Int.negSucc n)).toList = '-' :: Nat.toDigits 10 (n + 1) := by
      rw [Int.toString_eq_repr, Int.repr, String.toList_append, Nat.toList_repr]
      rfl
    have hsign : ∀ c ∈ '-' :: Nat.toDigits 10 (n + 1), c.isWhitespace = false := by
      intro c hc
      rcases List.mem_cons.mp hc with rfl | hc
      · decide
      · exact hblank _ c hc
    obtain ⟨ds, hds, hn⟩ := Option.map_eq_some_iff.mp (digits_toDigits (n + 1))
    rw [pyInt, htext, strip_of_all hsign, signed]
    simp [hds, hn, Int.negSucc_eq]

def mantissa (cs : List Char) : Option (List Nat × List Nat) :=
  match cs.span (· != '.') with
  | (whole, []) => (digits false whole).map fun ds => (ds, [])
  | ([], _ :: frac) => (digits false frac).map fun ds => ([], ds)
  | (whole, [_]) => (digits false whole).map fun ds => (ds, [])
  | (whole, _ :: frac) =>
    match digits false whole, digits false frac with
    | some a, some b => some (a, b)
    | _, _ => none

/-- The exponent behind an `e`, zero without one. -/
def exponent : List Char → Option ℤ
  | [] => some 0
  | _ :: cs =>
    let (neg, ds) := signed cs
    (digits false ds).map fun ds => if neg then -(natOf ds : ℤ) else natOf ds

variable {K : Type} [Field K]

/-- `float(text)`: a finite float, an infinity or NaN. -/
def pyFloat (s : String) : Option (PyVal K) :=
  let (neg, cs) := signed ((strip s.toList).map Char.toLower)
  if cs = "inf".toList || cs = "infinity".toList then some (.inf neg)
  else if cs = "nan".toList then some .nan
  else
    let (m, e) := cs.span (· != 'e')
    match mantissa m, exponent e with
    | some (whole, frac), some exp =>
      let value : K := (natOf (whole ++ frac) : K) * (10 : K) ^ (exp - frac.length)
      some (.float (if neg then -value else value))
    | _, _ => none

/-- `float(value)`, with the text of the exception it raises instead. -/
def toFloat : PyVal K → Except String (PyVal K)
  | .int n => .ok (.float n)
  | .bool b => .ok (.float (if b then 1 else 0))
  | .float x => .ok (.float x)
  | .inf neg => .ok (.inf neg)
  | .nan => .ok .nan
  | .str s =>
    match pyFloat s with
    | some v => .ok v
    | none => .error ("could not convert string to float: '" ++ s ++ "'")
  | .none => .error "float() argument must be a string or a real number, not 'NoneType'"
  | .list _ => .error "float() argument must be a string or a real number, not 'list'"
  | .dict _ => .error "float() argument must be a string or a real number, not 'dict'"

example : pyInt " 1_0 " = some 10 ∧ pyInt "1.0" = none := by decide

end Taramandal.Core.Text
