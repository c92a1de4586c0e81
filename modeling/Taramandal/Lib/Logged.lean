import Mathlib.Data.List.Basic
import Mathlib.Order.Lattice

/-! # Loops that keep a log

A loop whose every round appends to a log that nothing takes from. A log that is empty at the end
has been empty all along, and no round has had anything to append. -/
namespace Taramandal.Lib.Logged

variable {σ α β : Type*}

def Appends (log : σ → List β) (step : σ → α → σ) : Prop :=
  ∀ s a, log s <+: log (step s a)

variable {log : σ → List β} {step : σ → α → σ}

lemma Appends.foldl (h : Appends log step) (s : σ) (as : List α) :
    log s <+: log (as.foldl step s) := by
  induction as generalizing s with
  | nil => exact List.prefix_refl _
  | cons a as ih => exact (h s a).trans (ih (step s a))

lemma nil_of_begins {l l' : List β} (h : l <+: l') (hnil : l' = []) : l = [] := by
  rw [hnil] at h
  exact List.prefix_nil.mp h

lemma Appends.nil_before (h : Appends log step) {s : σ} {pre post : List α}
    (hnil : log ((pre ++ post).foldl step s) = []) : log (pre.foldl step s) = [] := by
  rw [List.foldl_append] at hnil
  exact nil_of_begins (h.foldl _ post) hnil

lemma log_foldl {new : α → List β} (h : ∀ s a, log (step s a) = log s ++ new a) (s : σ)
    (as : List α) : log (as.foldl step s) = log s ++ as.flatMap new := by
  induction as generalizing s with
  | nil => exact (List.append_nil _).symm
  | cons a as ih => rw [List.foldl_cons, ih, h, List.flatMap_cons, List.append_assoc]

lemma view_foldl {ν : Type*} {view : σ → ν} {step' : σ → α → σ}
    (h : ∀ s s' a, view s = view s' → view (step s a) = view (step' s' a)) {s s' : σ}
    (hs : view s = view s') (as : List α) : view (as.foldl step s) = view (as.foldl step' s') := by
  induction as generalizing s s' with
  | nil => exact hs
  | cons a as ih => exact ih (h s s' a hs)

/-- Every round appends only entries that it answers for. -/
def AppendsOnly (P : α → β → Prop) (log : σ → List β) (step : σ → α → σ) : Prop :=
  ∀ s a, ∃ new, log (step s a) = log s ++ new ∧ ∀ x ∈ new, P a x

lemma AppendsOnly.foldl {P : α → β → Prop} {Q : β → Prop} (h : AppendsOnly P log step)
    (hQ : ∀ a x, P a x → Q x) (s : σ) (as : List α) :
    ∃ new, log (as.foldl step s) = log s ++ new ∧ ∀ x ∈ new, Q x := by
  induction as generalizing s with
  | nil => exact ⟨[], (List.append_nil _).symm, fun x hx => absurd hx List.not_mem_nil⟩
  | cons a as ih =>
    obtain ⟨new, hnew, hall⟩ := h s a
    obtain ⟨rest, hrest, hallRest⟩ := ih (step s a)
    refine ⟨new ++ rest, by rw [List.foldl_cons, hrest, hnew, List.append_assoc], fun x hx => ?_⟩
    rcases List.mem_append.mp hx with hx | hx
    · exact hQ a x (hall x hx)
    · exact hallRest x hx

lemma AppendsOnly.ordered {K : Type*} [LinearOrder K] {key : β → K} {round : α → K}
    (h : AppendsOnly (fun a x => key x = round a) log step) {s : σ} {as : List α}
    (has : (as.map round).Pairwise (· ≤ ·)) (hs : (log s).Pairwise fun x y => key x ≤ key y)
    (hbefore : ∀ x ∈ log s, ∀ a ∈ as, key x ≤ round a) :
    (log (as.foldl step s)).Pairwise fun x y => key x ≤ key y := by
  induction as generalizing s with
  | nil => exact hs
  | cons a as ih =>
    obtain ⟨hfirst, has⟩ := List.pairwise_cons.mp has
    obtain ⟨new, hnew, hall⟩ := h s a
    refine ih has ?_ fun x hx b hb => ?_
    · rw [hnew, List.pairwise_append]
      refine ⟨hs, List.pairwise_of_forall_mem_list fun x hx y hy => ?_, fun x hx y hy => ?_⟩
      · rw [hall x hx, hall y hy]
      · rw [hall y hy]
        exact hbefore x hx a (List.mem_cons_self ..)
    · rw [hnew] at hx
      rcases List.mem_append.mp hx with hx | hx
      · exact hbefore x hx b (List.mem_cons_of_mem _ hb)
      · rw [hall x hx]
        exact hfirst _ (List.mem_map_of_mem hb)

end Taramandal.Lib.Logged
