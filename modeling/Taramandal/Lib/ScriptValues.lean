import Mathlib.Algebra.Field.Rat
import Mathlib.Algebra.Order.Ring.Rat

/-! # The values of a script

What JSON carries, compared by content, and the same as a script holds it: there an array or
an object has an identity besides, and is the same as another only if it is that one. -/
namespace Taramandal.Lib.ScriptValues

/-- What a JSON text says. A number is exact. -/
inductive Json where
  | null
  | bool (b : Bool)
  | num (x : ℚ)
  | str (s : String)
  | arr (items : List Json)
  | obj (entries : List (String × Json))

namespace Json

mutual

/-- `JSON.stringify(a) === JSON.stringify(b)`. -/
def same : Json → Json → Bool
  | .null, .null => true
  | .bool a, .bool b => a == b
  | .num a, .num b => a == b
  | .str a, .str b => a == b
  | .arr as, .arr bs => sameItems as bs
  | .obj as, .obj bs => sameEntries as bs
  | _, _ => false

def sameItems : List Json → List Json → Bool
  | [], [] => true
  | a :: as, b :: bs => same a b && sameItems as bs
  | _, _ => false

def sameEntries : List (String × Json) → List (String × Json) → Bool
  | [], [] => true
  | (k, a) :: as, (l, b) :: bs => k == l && same a b && sameEntries as bs
  | _, _ => false

end

mutual

theorem eq_of_same : ∀ {a b : Json}, same a b = true → a = b
  | .null, b, h => by
    cases b with
    | null => rfl
    | _ => cases h
  | .bool a, b, h => by
    cases b with
    | bool b => exact congrArg _ (beq_iff_eq.mp h)
    | _ => cases h
  | .num a, b, h => by
    cases b with
    | num b => exact congrArg _ (beq_iff_eq.mp h)
    | _ => cases h
  | .str a, b, h => by
    cases b with
    | str b => exact congrArg _ (beq_iff_eq.mp h)
    | _ => cases h
  | .arr as, b, h => by
    cases b with
    | arr b => exact congrArg _ (eq_of_sameItems h)
    | _ => cases h
  | .obj as, b, h => by
    cases b with
    | obj b => exact congrArg _ (eq_of_sameEntries h)
    | _ => cases h

theorem eq_of_sameItems : ∀ {as bs : List Json}, sameItems as bs = true → as = bs
  | [], bs, h => by
    cases bs with
    | nil => rfl
    | cons b bs => cases h
  | a :: as, bs, h => by
    cases bs with
    | nil => cases h
    | cons b bs =>
      obtain ⟨ha, hs⟩ := Bool.and_eq_true_iff.mp h
      rw [eq_of_same ha, eq_of_sameItems hs]

theorem eq_of_sameEntries : ∀ {as bs : List (String × Json)}, sameEntries as bs = true → as = bs
  | [], bs, h => by
    cases bs with
    | nil => rfl
    | cons b bs => cases h
  | (k, a) :: as, bs, h => by
    cases bs with
    | nil => cases h
    | cons b bs =>
      obtain ⟨hka, hs⟩ := Bool.and_eq_true_iff.mp h
      obtain ⟨hk, ha⟩ := Bool.and_eq_true_iff.mp hka
      rw [eq_of_same ha, eq_of_sameEntries hs, beq_iff_eq.mp hk]

end

mutual

theorem same_refl : ∀ a : Json, same a a = true
  | .null => rfl
  | .bool a => beq_self_eq_true a
  | .num a => beq_self_eq_true a
  | .str a => beq_self_eq_true a
  | .arr as => sameItems_refl as
  | .obj as => sameEntries_refl as

theorem sameItems_refl : ∀ as : List Json, sameItems as as = true
  | [] => rfl
  | a :: as => Bool.and_eq_true_iff.mpr ⟨same_refl a, sameItems_refl as⟩

theorem sameEntries_refl : ∀ as : List (String × Json), sameEntries as as = true
  | [] => rfl
  | (k, a) :: as => Bool.and_eq_true_iff.mpr
    ⟨Bool.and_eq_true_iff.mpr ⟨beq_self_eq_true k, same_refl a⟩, sameEntries_refl as⟩

end

lemma same_iff {a b : Json} : same a b = true ↔ a = b :=
  ⟨eq_of_same, fun h => h ▸ same_refl a⟩

instance : DecidableEq Json := fun _ _ => decidable_of_iff _ same_iff

def isObject : Json → Bool
  | .arr _ | .obj _ => true
  | _ => false

/-- `Array.isArray(v)`. -/
def isArray : Json → Bool
  | .arr _ => true
  | _ => false

/-- `v ?? d`. -/
def orElse (v d : Json) : Json := if v = .null then d else v

end Json

/-- A number of a script: exact where it is finite. -/
inductive Number where
  | nan
  | inf (negative : Bool)
  | fin (x : ℚ)
  deriving DecidableEq

namespace Number

def sub : Number → Number → Number
  | .fin a, .fin b => .fin (a - b)
  | .inf a, .inf b => if a = b then .nan else .inf a
  | .inf a, .fin _ => .inf a
  | .fin _, .inf b => .inf (!b)
  | .nan, _ | _, .nan => .nan

/-- `a <= b`, never of what is not a number. -/
def le : Number → Number → Bool
  | .fin a, .fin b => a ≤ b
  | .inf a, .inf b => a || !b
  | .inf a, .fin _ => a
  | .fin _, .inf b => !b
  | .nan, _ | _, .nan => false

end Number

/-- A value of a script. What is no object has no identity: its number is 0. -/
structure Val where
  identity : ℕ
  json : Json
  deriving DecidableEq

namespace Val

def null : Val := ⟨0, .null⟩

/-- A value read from a text, under a number that no value has yet. -/
def parse (fresh : ℕ) (j : Json) : Val := ⟨if j.isObject then fresh else 0, j⟩

@[simp] lemma parse_json (fresh : ℕ) (j : Json) : (parse fresh j).json = j := rfl

/-- `v ?? d`. -/
def orElse (v d : Val) : Val := if v.json = .null then d else v

lemma orElse_json (v d : Val) : (v.orElse d).json = v.json.orElse d.json := by
  unfold orElse Json.orElse
  split <;> rfl

end Val

end Taramandal.Lib.ScriptValues
