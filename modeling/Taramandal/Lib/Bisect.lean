import Mathlib.Algebra.BigOperators.Group.List.Basic
import Mathlib.Algebra.Order.Group.Defs
import Mathlib.Data.Nat.Size
import Mathlib.Tactic.Abel

/-! # Binary search for the first index that passes a test

`bisect p fuel lo hi` halves `[lo, hi)` until one index is left, as the loop of
Python's `bisect_left` does. Enough fuel is any number of halvings that empties
the interval, and for a test that stays true once it is true the result is the
first index of the interval that passes it. The integer square root is the same
search over squares. -/
namespace Taramandal.Lib.Bisect

def bisect (p : Nat → Bool) : Nat → Nat → Nat → Nat
  | 0, lo, _ => lo
  | fuel + 1, lo, hi =>
    if lo < hi then
      if p ((lo + hi) / 2) then bisect p fuel lo ((lo + hi) / 2)
      else bisect p fuel ((lo + hi) / 2 + 1) hi
    else lo

variable {p : Nat → Bool}

lemma bisect_bounds (fuel : Nat) {lo hi : Nat} (h : lo ≤ hi) :
    lo ≤ bisect p fuel lo hi ∧ bisect p fuel lo hi ≤ hi := by
  induction fuel generalizing lo hi with
  | zero => exact ⟨Nat.le_refl _, h⟩
  | succ fuel ih =>
    unfold bisect
    split
    · split
      · have := ih (show lo ≤ (lo + hi) / 2 by omega)
        omega
      · have := ih (show (lo + hi) / 2 + 1 ≤ hi by omega)
        omega
    · exact ⟨Nat.le_refl _, h⟩

/-- What the loop guarantees for any test: the result passes, unless it is the
end of the interval, and the index before it fails, unless it is the start. -/
lemma bisect_boundary {fuel lo hi : Nat} (h : lo ≤ hi) (hf : hi - lo < 2 ^ fuel) :
    (bisect p fuel lo hi < hi → p (bisect p fuel lo hi) = true) ∧
      (lo < bisect p fuel lo hi → p (bisect p fuel lo hi - 1) = false) := by
  induction fuel generalizing lo hi with
  | zero =>
    have : lo = hi := by simp at hf; omega
    subst this
    simp [bisect]
  | succ fuel ih =>
    have hpow : 2 ^ (fuel + 1) = 2 * 2 ^ fuel := by rw [Nat.pow_succ]; omega
    unfold bisect
    split
    next hlt =>
      generalize hm : (lo + hi) / 2 = m
      split
      next hp =>
        have hm' : lo ≤ m := by omega
        have hb := bisect_bounds (p := p) fuel hm'
        obtain ⟨hl, hr⟩ := ih hm' (by omega)
        refine ⟨fun _ => ?_, hr⟩
        by_cases he : bisect p fuel lo m < m
        · exact hl he
        · have : bisect p fuel lo m = m := by omega
          rw [this]; exact hp
      next hp =>
        have hm' : m + 1 ≤ hi := by omega
        have hb := bisect_bounds (p := p) fuel hm'
        obtain ⟨hl, hr⟩ := ih hm' (by omega)
        refine ⟨hl, fun _ => ?_⟩
        by_cases he : m + 1 < bisect p fuel (m + 1) hi
        · exact hr he
        · have : bisect p fuel (m + 1) hi = m + 1 := by omega
          rw [this]; simpa using hp
    next hge => exact ⟨fun h' => by omega, fun h' => by omega⟩

/-- For a test that stays true, the result splits the interval: everything
before it fails and everything from it on passes. -/
lemma bisect_split {fuel lo hi : Nat} (h : lo ≤ hi) (hf : hi - lo < 2 ^ fuel)
    (hmono : ∀ i j, lo ≤ i → i ≤ j → j < hi → p i = true → p j = true) (i : Nat)
    (hlo : lo ≤ i) (hhi : i < hi) : p i = true ↔ bisect p fuel lo hi ≤ i := by
  have hb := bisect_bounds (p := p) fuel h
  obtain ⟨hl, hr⟩ := bisect_boundary (p := p) h hf
  constructor
  · intro hp
    by_contra hlt
    have hfalse := hr (by omega)
    have := hmono i (bisect p fuel lo hi - 1) hlo (by omega) (by omega) hp
    rw [this] at hfalse
    cases hfalse
  · intro hle
    exact hmono _ i hb.1 hle hhi (hl (by omega))

def isqrt (n : Nat) : Nat := bisect (fun k => n < (k + 1) * (k + 1)) (n.size + 1) 0 n

lemma isqrt_spec (n : Nat) : isqrt n * isqrt n ≤ n ∧ n < (isqrt n + 1) * (isqrt n + 1) := by
  have hf : n - 0 < 2 ^ (n.size + 1) :=
    Nat.lt_of_lt_of_le (by simpa using n.lt_size_self) (Nat.pow_le_pow_right (by omega) (by omega))
  have hs := bisect_boundary (p := fun k => n < (k + 1) * (k + 1)) n.zero_le hf
  have hb : isqrt n ≤ n := (bisect_bounds _ n.zero_le).2
  change (isqrt n < n → _) ∧ (0 < isqrt n → _) at hs
  simp only [decide_eq_true_eq, decide_eq_false_iff_not, Nat.not_lt] at hs
  obtain ⟨hl, hr⟩ := hs
  constructor
  · rcases Nat.eq_zero_or_pos (isqrt n) with h0 | hpos
    · simp [h0]
    · have hle : (isqrt n - 1 + 1) * (isqrt n - 1 + 1) ≤ n := hr hpos
      rwa [Nat.sub_add_cancel hpos] at hle
  · rcases Nat.lt_or_ge (isqrt n) n with hlt | hge
    · exact hl hlt
    · have he : isqrt n = n := by omega
      rw [he]
      exact Nat.lt_of_lt_of_le n.lt_succ_self (Nat.le_mul_of_pos_left _ (by omega))

end Taramandal.Lib.Bisect

/-! ## Walking along lengths

A distance is walked down along elements that have a length each: it ends in the first one that
is long enough for what is left of it, or in the last one. -/
namespace Taramandal.Lib.Walk

variable {α κ : Type*} [AddCommGroup κ] [LinearOrder κ]

/-- The element that the distance ends in, and how far into it. -/
def walk (len : α → κ) : List α → κ → Option (α × κ)
  | [], _ => none
  | a :: as, s => if s ≤ len a ∨ as = [] then some (a, s) else walk len as (s - len a)

lemma isSome_walk (len : α → κ) {as : List α} (h : as ≠ []) (s : κ) : (walk len as s).isSome := by
  induction as generalizing s with
  | nil => exact absurd rfl h
  | cons a as ih =>
    unfold walk
    split
    next => rfl
    next hend => exact ih (fun hnil => hend (.inr hnil)) _

/-- Where a distance ends: all that is before it has been walked, and it is in no element yet
that is not the first. -/
structure EndsIn (len : α → κ) (as : List α) (s : κ) (a : α) (rest : κ) : Prop where
  split : ∃ before after, as = before ++ a :: after ∧ s = (before.map len).sum + rest
  pos : 0 < rest
  le : rest ≤ len a

lemma walk_endsIn [IsOrderedAddMonoid κ] {len : α → κ} {as : List α} {s : κ} (hpos : 0 < s)
    (hle : s ≤ (as.map len).sum) :
    ∃ a rest, walk len as s = some (a, rest) ∧ EndsIn len as s a rest := by
  induction as generalizing s with
  | nil => exact absurd hpos hle.not_gt
  | cons a as ih =>
    rw [List.map_cons, List.sum_cons] at hle
    unfold walk
    by_cases hend : s ≤ len a
    · rw [if_pos (.inl hend)]
      exact ⟨a, s, rfl, ⟨[], as, rfl, (zero_add s).symm⟩, hpos, hend⟩
    · have hrest : s - len a ≤ (as.map len).sum := by rwa [sub_le_iff_le_add']
      have hne : as ≠ [] := by
        rintro rfl
        exact hend (by simpa using hle)
      obtain ⟨b, rest, hwalk, ⟨before, after, hsplit, hs⟩, hrest0, hb⟩ :=
        ih (sub_pos.mpr (not_le.mp hend)) hrest
      rw [if_neg (not_or.mpr ⟨hend, hne⟩)]
      refine ⟨b, rest, hwalk, ⟨a :: before, after, ?_, ?_⟩, hrest0, hb⟩
      · rw [hsplit, List.cons_append]
      · rw [List.map_cons, List.sum_cons, add_assoc, ← hs]
        abel

end Taramandal.Lib.Walk
