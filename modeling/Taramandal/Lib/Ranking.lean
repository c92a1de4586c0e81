import Mathlib.Data.Int.CardIntervalMod

/-! # Ranking the places of a list

Places are ranked by a score, the highest first, and earlier places before later ones of the same
score: that is what a stable sort by descending score gives. A place that few others outrank is
among the first of the ranking. -/
namespace Taramandal.Lib.Ranking

variable {K : Type*} [LinearOrder K] {score : Nat → K}

/-- Place `j` comes before place `i`: it scores more, or the same and is earlier. -/
def Outranks (score : Nat → K) (j i : Nat) : Prop := score i < score j ∨ score j = score i ∧ j < i

instance : DecidableRel (Outranks score) := fun _ _ => inferInstanceAs (Decidable (_ ∨ _))

variable {i : Nat} {places : List Nat}

lemma Outranks.trans {j k : Nat} (h : Outranks score i j) (h' : Outranks score j k) :
    Outranks score i k := by
  rcases h with hlt | ⟨heq, hlt⟩
  · rcases h' with hlt' | ⟨heq', -⟩
    · exact .inl (hlt'.trans hlt)
    · exact .inl (heq' ▸ hlt)
  · rcases h' with hlt' | ⟨heq', hlt'⟩
    · exact .inl (heq ▸ hlt')
    · exact .inr ⟨heq.trans heq', hlt.trans hlt'⟩

lemma Outranks.irrefl (i : Nat) : ¬ Outranks score i i := by
  rintro (hlt | ⟨-, hlt⟩)
  · exact lt_irrefl _ hlt
  · exact lt_irrefl _ hlt

lemma orderedInsert_ranked (hearly : ∀ j ∈ places, i < j) (h : places.Pairwise (Outranks score)) :
    (places.orderedInsert (fun i j => score j ≤ score i) i).Pairwise (Outranks score) := by
  induction places with
  | nil => exact List.pairwise_singleton _ _
  | cons j places ih =>
    obtain ⟨hfirst, hrest⟩ := List.pairwise_cons.mp h
    rw [List.orderedInsert_cons]
    split
    next hle =>
      have hij : Outranks score i j := by
        rcases hle.lt_or_eq with hlt | heq
        · exact .inl hlt
        · exact .inr ⟨heq.symm, hearly j (List.mem_cons_self ..)⟩
      refine List.Pairwise.cons (fun k hk => ?_) h
      rcases List.mem_cons.mp hk with rfl | hk
      · exact hij
      · exact hij.trans (hfirst k hk)
    next hgt =>
      refine List.Pairwise.cons (fun k hk => ?_)
        (ih (fun k hk => hearly k (List.mem_cons_of_mem _ hk)) hrest)
      rcases (List.mem_orderedInsert _).mp hk with rfl | hk
      · exact .inl (not_le.mp hgt)
      · exact hfirst k hk

lemma insertionSort_ranked (h : places.Pairwise (· < ·)) :
    (places.insertionSort fun i j => score j ≤ score i).Pairwise (Outranks score) := by
  induction places with
  | nil => exact List.Pairwise.nil
  | cons i places ih =>
    obtain ⟨hearly, hrest⟩ := List.pairwise_cons.mp h
    rw [List.insertionSort_cons]
    refine orderedInsert_ranked (fun j hj => hearly j ?_) (ih hrest)
    exact (List.perm_insertionSort _ _).mem_iff.mp hj

/-- A place that fewer than `m` others outrank is among the first `m`. -/
lemma mem_take_of_few (h : places.Pairwise (Outranks score)) {m : Nat}
    (hi : i ∈ places) (hfew : (places.filter fun j => Outranks score j i).length < m) :
    i ∈ places.take m := by
  obtain ⟨before, after, rfl⟩ := List.append_of_mem hi
  have hall : before.filter (fun j => Outranks score j i) = before := by
    refine List.filter_eq_self.mpr fun j hj => decide_eq_true ?_
    exact (List.pairwise_append.mp h).2.2 j hj i (List.mem_cons_self ..)
  have hlt : before.length < m := by
    rw [List.filter_append, hall, List.length_append] at hfew
    omega
  rw [List.take_append, List.take_of_length_le hlt.le]
  refine List.mem_append_right _ ?_
  obtain ⟨n, hn⟩ : ∃ n, m - before.length = n + 1 := ⟨m - before.length - 1, by omega⟩
  rw [hn, List.take_succ_cons]
  exact List.mem_cons_self ..

/-- Of the places of a list, every `step`-th: there are at least as many as whole steps. -/
lemma div_le_length_filter_mod (n step : Nat) (hstep : 0 < step) :
    n / step ≤ ((List.range n).filter fun i => i % step = 0).length := by
  have hmod : ∀ i : Nat, i ≡ 0 [MOD step] ↔ i % step = 0 := by
    intro i
    rw [Nat.ModEq, Nat.zero_mod]
  have hcount := Nat.count_modEq_card n hstep 0
  rw [Nat.count] at hcount
  simp only [hmod] at hcount
  rw [List.countP_eq_length_filter] at hcount
  omega

end Taramandal.Lib.Ranking

/-! ## Rows grouped by a key

A grouping lists every key that occurs once, with the rows that have it in their
order; rows without a key belong to no group. Laid end to end, the groups are
the rows that have a key (`IsGrouping.perm`). -/
namespace Taramandal.Lib.Groups

variable {α κ : Type*} [DecidableEq κ]

structure IsGrouping (key : α → Option κ) (rows : List α) (groups : List (κ × List α)) : Prop where
  nodup : (groups.map Prod.fst).Nodup
  mem_iff : ∀ k g, (k, g) ∈ groups ↔
    (∃ r ∈ rows, key r = some k) ∧ g = rows.filter fun r => key r = some k

lemma flatMap_filter_perm (key : α → Option κ) (rows : List α) {ks : List κ} (h : ks.Nodup) :
    (ks.flatMap fun k => rows.filter fun r => key r = some k).Perm
      (rows.filter fun r => ∃ k ∈ ks, key r = some k) := by
  induction ks with
  | nil => simp
  | cons k ks ih =>
    obtain ⟨hk, hks⟩ := List.nodup_cons.mp h
    have hsplit := List.filter_append_perm (fun r => decide (key r = some k))
      (rows.filter fun r => decide (∃ k' ∈ k :: ks, key r = some k'))
    rw [List.flatMap_cons]
    refine List.Perm.trans (List.Perm.append_left _ (ih hks)) (List.Perm.trans ?_ hsplit)
    rw [List.filter_filter, List.filter_filter]
    refine List.Perm.append (List.Perm.of_eq ?_) (List.Perm.of_eq ?_) <;>
      refine List.filter_congr fun r _ => ?_
    · by_cases hr : key r = some k <;> simp [hr]
    · by_cases hr : key r = some k
      · simp [hr, hk]
      · simp [hr]

namespace IsGrouping

variable {key : α → Option κ} {rows : List α} {groups : List (κ × List α)}

variable {e : κ × List α}

section

variable (h : IsGrouping key rows groups)
include h

lemma rows_of_mem (he : e ∈ groups) : e.2 = rows.filter fun r => key r = some e.1 :=
  ((h.mem_iff e.1 e.2).mp he).2

lemma ne_nil_of_mem (he : e ∈ groups) : e.2 ≠ [] := by
  obtain ⟨⟨r, hr, hk⟩, hg⟩ := (h.mem_iff e.1 e.2).mp he
  intro hnil
  have hmem : r ∈ rows.filter fun r => key r = some e.1 := List.mem_filter.mpr ⟨hr, by simpa using hk⟩
  rw [← hg, hnil] at hmem
  cases hmem

lemma key_of_mem (he : e ∈ groups) {r : α} (hr : r ∈ e.2) : r ∈ rows ∧ key r = some e.1 := by
  rw [h.rows_of_mem he] at hr
  simpa using List.mem_filter.mp hr

lemma exists_of_mem {r : α} (hr : r ∈ rows) {k : κ} (hk : key r = some k) : ∃ g, (k, g) ∈ groups :=
  ⟨_, (h.mem_iff k _).mpr ⟨⟨r, hr, hk⟩, rfl⟩⟩

lemma perm : (groups.flatMap Prod.snd).Perm (rows.filter fun r => (key r).isSome) := by
  have hflat : groups.flatMap Prod.snd =
      (groups.map Prod.fst).flatMap fun k => rows.filter fun r => key r = some k := by
    rw [List.flatMap_map]
    exact List.flatMap_congr fun e he => h.rows_of_mem he
  rw [hflat]
  refine (flatMap_filter_perm key rows h.nodup).trans (List.Perm.of_eq ?_)
  refine List.filter_congr fun r hr => ?_
  cases hk : key r with
  | none => simp
  | some k =>
    obtain ⟨g, hg⟩ := h.exists_of_mem hr hk
    simpa using ⟨g, hg⟩

end

end IsGrouping

def groupRows (key : α → Option κ) (rows : List α) : List (κ × List α) :=
  (rows.filterMap key).dedup.map fun k => (k, rows.filter fun r => key r = some k)

lemma groupRows_isGrouping (key : α → Option κ) (rows : List α) :
    IsGrouping key rows (groupRows key rows) where
  nodup := by
    rw [groupRows, List.map_map]
    simpa [Function.comp_def] using List.nodup_dedup _
  mem_iff k g := by
    simp only [groupRows, List.mem_map, List.mem_dedup, List.mem_filterMap, Prod.mk.injEq]
    constructor
    · rintro ⟨k', hk', rfl, rfl⟩
      exact ⟨hk', rfl⟩
    · rintro ⟨hk, rfl⟩
      exact ⟨k, hk, rfl, rfl⟩

end Taramandal.Lib.Groups
