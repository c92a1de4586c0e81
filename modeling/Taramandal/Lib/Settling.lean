import Mathlib.Data.Int.Order.Basic
import Mathlib.Data.List.Perm.Basic

/-! # Updates that settle

Updates that commute and do nothing the second time lead, in whatever order and however
often they come, to where each of them once leads (`foldl_eq_of_subset`). -/
namespace Taramandal.Lib.Settling

variable {σ ι : Type*} {f : σ → ι → σ} {p : ι → Prop}

variable {ls ms : List ι}

section

variable (hcomm : ∀ s i j, p i → p j → f (f s i) j = f (f s j) i)
  (hidem : ∀ s i, p i → f (f s i) i = f s i) (hls : ∀ j ∈ ls, p j)
include hcomm hidem hls

lemma foldl_absorb {i : ι} (hi : i ∈ ls) (s : σ) : f (ls.foldl f s) i = ls.foldl f s := by
  have hpi := hls i hi
  induction ls generalizing s with
  | nil => cases hi
  | cons j ls ih =>
    rw [List.foldl_cons]
    by_cases hin : i ∈ ls
    · exact ih (fun k hk => hls k (List.mem_cons_of_mem j hk)) hin (f s j)
    · obtain rfl : i = j := (List.mem_cons.mp hi).resolve_right hin
      have hmove : ∀ s, f (ls.foldl f s) i = ls.foldl f (f s i) := by
        intro s
        have hperm : (ls ++ [i]).Perm (i :: ls) := List.perm_append_singleton i ls
        have hall : ∀ k ∈ ls ++ [i], p k := by
          intro k hk
          rcases List.mem_append.mp hk with hk | hk
          · exact hls k (List.mem_cons_of_mem i hk)
          · exact List.mem_singleton.mp hk ▸ hpi
        have h := hperm.foldl_eq' (fun x hx y hy z => hcomm z x y (hall x hx) (hall y hy)) s
        simpa using h
      rw [hmove, hidem s i hpi]

lemma foldl_append_of_subset (h : ms ⊆ ls) (s : σ) : (ls ++ ms).foldl f s = ls.foldl f s := by
  rw [List.foldl_append]
  induction ms with
  | nil => rfl
  | cons i ms ih =>
    rw [List.foldl_cons, foldl_absorb hcomm hidem hls (h List.mem_cons_self)]
    exact ih fun j hj => h (List.mem_cons_of_mem i hj)

lemma foldl_eq_of_subset (h : ls ⊆ ms) (h' : ms ⊆ ls) (s : σ) : ls.foldl f s = ms.foldl f s := by
  have hms : ∀ j ∈ ms, p j := fun j hj => hls j (h' hj)
  have hall : ∀ k ∈ ls ++ ms, p k := by
    intro k hk
    rcases List.mem_append.mp hk with hk | hk
    · exact hls k hk
    · exact hms k hk
  calc ls.foldl f s = (ls ++ ms).foldl f s :=
        (foldl_append_of_subset hcomm hidem hls h' s).symm
    _ = (ms ++ ls).foldl f s := List.perm_append_comm.foldl_eq'
        (fun x hx y hy z => hcomm z x y (hall x hx) (hall y hy)) s
    _ = ms.foldl f s := foldl_append_of_subset hcomm hidem hms h s

end

end Taramandal.Lib.Settling

/-! ## Numbered records

A cell holds a record with a revision number, or nothing. While nothing new is
put into an empty cell, a record is only replaced by the next revision or
removed; then a revision number names at most one record. -/
namespace Taramandal.Lib.Revisions

variable {α : Type*} (rev : α → ℤ)

/-- What may become of a cell. -/
inductive Follows : Option α → Option α → Prop
  | same (c : Option α) : Follows c c
  | saved {a b : α} (h : rev b = rev a + 1) : Follows (some a) (some b)
  | deleted (a : α) : Follows (some a) none

abbrev Later : Option α → Option α → Prop := Relation.ReflTransGen (Follows rev)

variable {rev} {a b : α} {c : Option α}

lemma later_some (h : Later rev (some a) c) : ∀ b, c = some b → rev a < rev b ∨ b = a := by
  induction h with
  | refl => exact fun b hb => .inr (Option.some.inj hb).symm
  | tail _ hstep ih =>
    intro b hb
    cases hb
    cases hstep with
    | same => exact ih b rfl
    | saved hnext =>
      refine .inl ?_
      rcases ih _ rfl with hlt | rfl
      · exact lt_trans hlt (hnext ▸ Int.lt_succ _)
      · exact hnext ▸ Int.lt_succ _

end Taramandal.Lib.Revisions
