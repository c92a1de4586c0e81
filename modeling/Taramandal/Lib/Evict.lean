import Mathlib.Algebra.Order.BigOperators.Group.List
import Mathlib.Algebra.Order.Ring.Int

/-! # Evicting until the rest fits

Items of known sizes stand in a queue. From its front, those that may go are taken
until what is left fits a budget (`evict`). An item goes exactly if it may and what
is left when its turn comes is still too much (`mem_evict_iff`); in the end the rest fits,
or nothing that may go is left (`evict_fits`). -/
namespace Taramandal.Lib.Evict

variable {α : Type*} (allowed : α → Bool) (size : α → Nat) (budget : ℤ)

def total (items : List α) : ℤ := (items.map fun x => (size x : ℤ)).sum

/-- What is taken of a queue, while `held` is the size of all that is there. -/
def evict : ℤ → List α → List α
  | _, [] => []
  | held, x :: rest =>
    if held ≤ budget then []
    else if allowed x then x :: evict (held - size x) rest
    else evict held rest

variable {allowed size budget}

@[simp] lemma total_nil : total size ([] : List α) = 0 := rfl

@[simp] lemma total_cons (x : α) (items : List α) :
    total size (x :: items) = size x + total size items := by simp [total]

lemma total_append (as bs : List α) : total size (as ++ bs) = total size as + total size bs := by
  simp [total]

lemma total_nonneg (size : α → Nat) (items : List α) : 0 ≤ total size items := by
  induction items with
  | nil => exact le_refl 0
  | cons x items ih =>
    rw [total_cons]
    omega

lemma total_perm {as bs : List α} (h : as.Perm bs) : total size as = total size bs :=
  (h.map _).sum_eq

lemma total_filter_add (size : α → Nat) (p : α → Bool) (items : List α) :
    total size (items.filter p) + total size (items.filter fun x => !p x) = total size items := by
  rw [← total_append]
  exact total_perm (List.filter_append_perm p items)

lemma evict_sublist (held : ℤ) (items : List α) :
    (evict allowed size budget held items).Sublist items := by
  fun_induction evict allowed size budget held items with
  | case1 => exact List.Sublist.slnil
  | case2 => exact List.nil_sublist _
  | case3 held x rest _ _ ih => exact ih.cons_cons x
  | case4 held x rest _ _ ih => exact ih.cons x

lemma allowed_of_mem_evict {held : ℤ} {items : List α} {x : α}
    (h : x ∈ evict allowed size budget held items) : allowed x = true := by
  fun_induction evict allowed size budget held items with
  | case1 => cases h
  | case2 => cases h
  | case3 held y rest _ hallowed ih =>
    cases h with
    | head => exact hallowed
    | tail _ h => exact ih h
  | case4 held y rest _ _ ih => exact ih h

lemma mem_evict_iff {held : ℤ} {front rest : List α} {x : α} (h : x ∉ front)
    (hrest : x ∉ rest) : x ∈ evict allowed size budget held (front ++ x :: rest) ↔
      allowed x = true ∧ budget < held - total size (front.filter allowed) := by
  induction front generalizing held with
  | nil =>
    rw [List.nil_append, evict]
    have hout : ∀ held', x ∉ evict allowed size budget held' rest :=
      fun _ hx => hrest ((evict_sublist _ _).subset hx)
    rw [List.filter_nil, total_nil, sub_zero]
    split_ifs with hfits hallowed
    · exact ⟨fun hx => absurd hx List.not_mem_nil, fun hx => absurd hx.2 (not_lt.mpr hfits)⟩
    · exact ⟨fun _ => ⟨hallowed, not_le.mp hfits⟩, fun _ => List.mem_cons_self⟩
    · exact ⟨fun hx => absurd hx (hout held), fun hx => absurd hx.1 hallowed⟩
  | cons y front ih =>
    obtain ⟨hxy, hfront⟩ := not_or.mp (List.mem_cons.not.mp h)
    rw [List.cons_append, evict, List.filter_cons]
    split_ifs with hfits hallowed hallowed'
    · have := total_nonneg size (y :: front.filter allowed)
      exact ⟨fun hx => absurd hx List.not_mem_nil, fun hx => by omega⟩
    · have := total_nonneg size (front.filter allowed)
      exact ⟨fun hx => absurd hx List.not_mem_nil, fun hx => by omega⟩
    · rw [List.mem_cons, or_iff_right hxy, ih hfront, total_cons, sub_sub]
    · exact ih hfront

lemma evict_fits (allowed : α → Bool) (size : α → Nat) (budget held : ℤ) (items : List α) :
    held - total size (evict allowed size budget held items) ≤ budget ∨
      ∀ x ∈ items, allowed x = true → x ∈ evict allowed size budget held items := by
  fun_induction evict allowed size budget held items with
  | case1 => exact .inr fun _ hx => absurd hx List.not_mem_nil
  | case2 held x rest hfits =>
    left
    simpa using hfits
  | case3 held x rest _ _ ih =>
    refine ih.imp (fun hfits => ?_) fun hall y hy hallowed => ?_
    · rw [total_cons]
      omega
    · cases hy with
      | head => exact List.mem_cons_self
      | tail _ hy => exact List.mem_cons_of_mem x (hall y hy hallowed)
  | case4 held x rest _ hx ih =>
    refine ih.imp id fun hall y hy hallowed => ?_
    cases hy with
    | head => exact absurd hallowed hx
    | tail _ hy => exact hall y hy hallowed

end Taramandal.Lib.Evict
