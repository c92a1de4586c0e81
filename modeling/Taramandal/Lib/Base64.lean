import Mathlib.Tactic.Common

/-! # Base64

Three bytes are four letters of six bits each, and what is left at the end is padded. The
letters are known by their codes. -/
namespace Taramandal.Lib.Base64

def letter (n : Nat) : Nat :=
  if n < 26 then 65 + n else if n < 52 then 71 + n else if n < 62 then n - 4
  else if n = 62 then 43 else 47

def sextet (c : Nat) : Option Nat :=
  if 65 ≤ c ∧ c ≤ 90 then some (c - 65) else if 97 ≤ c ∧ c ≤ 122 then some (c - 71)
  else if 48 ≤ c ∧ c ≤ 57 then some (c + 4) else if c = 43 then some 62
  else if c = 47 then some 63 else none

/-- The code of `=`. -/
def padding : Nat := 61

def encode : List UInt8 → List Nat
  | a :: b :: c :: rest =>
    letter (a.toNat / 4) :: letter (a.toNat % 4 * 16 + b.toNat / 16) ::
      letter (b.toNat % 16 * 4 + c.toNat / 64) :: letter (c.toNat % 64) :: encode rest
  | [a, b] =>
    [letter (a.toNat / 4), letter (a.toNat % 4 * 16 + b.toNat / 16),
      letter (b.toNat % 16 * 4), padding]
  | [a] => [letter (a.toNat / 4), letter (a.toNat % 4 * 16), padding, padding]
  | [] => []

def first (a b : Nat) : UInt8 := .ofNat (a * 4 + b / 16)

def second (b c : Nat) : UInt8 := .ofNat (b % 16 * 16 + c / 4)

def third (c d : Nat) : UInt8 := .ofNat (c % 4 * 64 + d)

/-- `none` for another letter, or for a wrong padding. -/
def decode : List Nat → Option (List UInt8)
  | [] => some []
  | a :: b :: c :: d :: rest => do
    let a ← sextet a
    let b ← sextet b
    if c = padding ∧ d = padding ∧ rest = [] then return [first a b]
    let c ← sextet c
    if d = padding ∧ rest = [] then return [first a b, second b c]
    let d ← sextet d
    let bytes ← decode rest
    return first a b :: second b c :: third c d :: bytes
  | _ => none

lemma sextet_letter {n : Nat} (h : n < 64) : sextet (letter n) = some n := by
  have hall : ∀ n < 64, sextet (letter n) = some n := by decide
  exact hall n h

lemma letter_ne_padding {n : Nat} (h : n < 64) : letter n ≠ padding := by
  have hall : ∀ n < 64, letter n ≠ padding := by decide
  exact hall n h

lemma letter_lt {n : Nat} (h : n < 64) : letter n < 128 := by
  have hall : ∀ n < 64, letter n < 128 := by decide
  exact hall n h

lemma ofNat_eq {n : Nat} {b : UInt8} (h : n = b.toNat) : UInt8.ofNat n = b := by
  rw [h, UInt8.ofNat_toNat]

lemma decode_encode (bytes : List UInt8) : decode (encode bytes) = some bytes := by
  induction bytes using encode.induct with
  | case1 a b c rest ih =>
    have ha := a.toNat_lt
    have hb := b.toNat_lt
    have hc := c.toNat_lt
    have h1 : a.toNat / 4 < 64 := by omega
    have h2 : a.toNat % 4 * 16 + b.toNat / 16 < 64 := by omega
    have h3 : b.toNat % 16 * 4 + c.toNat / 64 < 64 := by omega
    have h4 : c.toNat % 64 < 64 := by omega
    have hfirst : first (a.toNat / 4) (a.toNat % 4 * 16 + b.toNat / 16) = a :=
      ofNat_eq (by omega)
    have hsecond : second (a.toNat % 4 * 16 + b.toNat / 16)
        (b.toNat % 16 * 4 + c.toNat / 64) = b := ofNat_eq (by omega)
    have hthird : third (b.toNat % 16 * 4 + c.toNat / 64) (c.toNat % 64) = c :=
      ofNat_eq (by omega)
    rw [encode, decode, sextet_letter h1, sextet_letter h2, sextet_letter h3, sextet_letter h4, ih]
    simp [letter_ne_padding h3, letter_ne_padding h4, hfirst, hsecond, hthird]
  | case2 a b =>
    have ha := a.toNat_lt
    have hb := b.toNat_lt
    have h1 : a.toNat / 4 < 64 := by omega
    have h2 : a.toNat % 4 * 16 + b.toNat / 16 < 64 := by omega
    have h3 : b.toNat % 16 * 4 < 64 := by omega
    have hfirst : first (a.toNat / 4) (a.toNat % 4 * 16 + b.toNat / 16) = a :=
      ofNat_eq (by omega)
    have hsecond : second (a.toNat % 4 * 16 + b.toNat / 16) (b.toNat % 16 * 4) = b :=
      ofNat_eq (by omega)
    rw [encode, decode, sextet_letter h1, sextet_letter h2, sextet_letter h3]
    simp [letter_ne_padding h3, hfirst, hsecond]
  | case3 a =>
    have ha := a.toNat_lt
    have h1 : a.toNat / 4 < 64 := by omega
    have h2 : a.toNat % 4 * 16 < 64 := by omega
    have hfirst : first (a.toNat / 4) (a.toNat % 4 * 16) = a := ofNat_eq (by omega)
    rw [encode, decode, sextet_letter h1, sextet_letter h2]
    simp [hfirst]
  | case4 => rfl

lemma encode_lt {bytes : List UInt8} : ∀ c ∈ encode bytes, c < 128 := by
  have hpad : padding < 128 := by decide
  induction bytes using encode.induct with
  | case1 a b c rest ih =>
    have ha := a.toNat_lt
    have hb := b.toNat_lt
    have hc := c.toNat_lt
    simp only [encode, List.forall_mem_cons]
    exact ⟨letter_lt (by omega), letter_lt (by omega), letter_lt (by omega), letter_lt (by omega), ih⟩
  | case2 a b =>
    have ha := a.toNat_lt
    have hb := b.toNat_lt
    simp only [encode, List.forall_mem_cons]
    exact ⟨letter_lt (by omega), letter_lt (by omega), letter_lt (by omega), hpad,
      List.forall_mem_nil _⟩
  | case3 a =>
    have ha := a.toNat_lt
    simp only [encode, List.forall_mem_cons]
    exact ⟨letter_lt (by omega), letter_lt (by omega), hpad, hpad, List.forall_mem_nil _⟩
  | case4 => exact List.forall_mem_nil _

end Taramandal.Lib.Base64
