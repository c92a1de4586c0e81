import Mathlib.Data.Set.Finite.Basic
import Mathlib.Order.WellFounded

/-! # What has to come first

Elements with others that have to come before them, taken one after another as soon as none is
left to wait for. Each keeps a count of those it waits for, and the ones whose count is down to
zero stand in a queue (`Queue`). If the queue runs empty too soon, the elements that are left wait
for each other in a circle. -/
namespace Taramandal.Lib.Precedence

section

variable {α : Type*} {r : α → α → Prop}

def Cyclic (r : α → α → Prop) : Prop := ∃ a, Relation.TransGen r a a

lemma not_cyclic_of_rank {β : Type*} [Preorder β] (rank : α → β)
    (h : ∀ a b, r a b → rank a < rank b) : ¬ Cyclic r := by
  have hlt : ∀ {a b : α}, Relation.TransGen r a b → rank a < rank b := by
    intro a b hab
    induction hab with
    | single hab => exact h _ _ hab
    | tail _ hbc ih => exact ih.trans (h _ _ hbc)
  rintro ⟨a, ha⟩
  exact lt_irrefl _ (hlt ha)

lemma cyclic_of_waiting {s : Finset α} (hne : s.Nonempty) (h : ∀ b ∈ s, ∃ a ∈ s, r a b) :
    Cyclic r := by
  by_contra hacyclic
  let before (a b : s) : Prop := Relation.TransGen r a b
  have htrans : IsTrans s before := ⟨fun _ _ _ hab hbc => hab.trans hbc⟩
  have hirrefl : Std.Irrefl before := ⟨fun a ha => hacyclic ⟨a, ha⟩⟩
  have hwf : WellFounded before := Finite.wellFounded_of_trans_of_irrefl before
  obtain ⟨b, hb⟩ := hne
  obtain ⟨⟨m, hm⟩, -, hleast⟩ := hwf.has_min Set.univ ⟨⟨b, hb⟩, trivial⟩
  obtain ⟨a, ha, ham⟩ := h m hm
  exact hleast ⟨a, ha⟩ trivial (.single ham)

end

def countDown (waiting after : List ℕ) : List ℕ :=
  after.foldl (fun w k => w.modify k (· - 1)) waiting

lemma getElem?_countDown {after : List ℕ} (hnodup : after.Nodup) (waiting : List ℕ) (k : ℕ) :
    (countDown waiting after)[k]? =
      if k ∈ after then waiting[k]?.map (· - 1) else waiting[k]? := by
  induction after generalizing waiting with
  | nil => rfl
  | cons a after ih =>
    obtain ⟨hnotin, hrest⟩ := List.nodup_cons.mp hnodup
    rw [countDown, List.foldl_cons, ← countDown, ih hrest]
    by_cases hk : k = a
    · subst hk
      rw [if_neg hnotin, if_pos List.mem_cons_self, List.getElem?_modify_eq]
      rfl
    · rw [List.getElem?_modify_ne _ _ (Ne.symm hk)]
      simp only [List.mem_cons, hk, false_or]

variable {i k : ℕ}

lemma countP_placed {placed : Finset ℕ} (hi : i ∉ placed) (l : List ℕ) :
    l.countP (· ∉ placed) = l.countP (· ∉ insert i placed) + l.count i := by
  induction l with
  | nil => rfl
  | cons a l ih =>
    rw [List.countP_cons, List.countP_cons, List.count_cons, ih]
    by_cases ha : a = i
    · subst ha
      simp [hi]
      omega
    · by_cases hmem : a ∈ placed
      · simp [ha, hmem]
      · simp [ha, hmem]
        omega

/-! ## The queue -/

/-- The first `n` numbers, those placed, what each waits for, and those that may be placed. -/
structure Queue (n : ℕ) (before : ℕ → List ℕ) (placed : Finset ℕ) (waiting ready : List ℕ) :
    Prop where
  placed_lt : ∀ k ∈ placed, k < n
  closed : ∀ k ∈ placed, ∀ j ∈ before k, j ∈ placed
  counts : ∀ k < n, waiting[k]? = some ((before k).countP (· ∉ placed))
  nodup : ready.Nodup
  mem_ready : ∀ k, k ∈ ready ↔ k < n ∧ k ∉ placed ∧ ∀ j ∈ before k, j ∈ placed

variable {n : ℕ} {before : ℕ → List ℕ} {placed : Finset ℕ} {waiting ready : List ℕ}

def afterwards (n : ℕ) (before : ℕ → List ℕ) (i : ℕ) : List ℕ :=
  (List.range n).filter fun k => i ∈ before k

lemma mem_afterwards : k ∈ afterwards n before i ↔ k < n ∧ i ∈ before k := by
  simp [afterwards]

lemma nodup_afterwards (i : ℕ) : (afterwards n before i).Nodup := List.nodup_range.filter _

lemma countP_eq_zero_iff {l : List ℕ} : l.countP (· ∉ placed) = 0 ↔ ∀ j ∈ l, j ∈ placed := by
  simp [List.countP_eq_zero]

lemma Queue.initial (n : ℕ) (before : ℕ → List ℕ) :
    Queue n before ∅ ((List.range n).map fun k => (before k).length)
      ((List.range n).filter fun k =>
        ((List.range n).map fun k => (before k).length).getD k 0 = 0) := by
  have hcounts : ∀ k < n, ((List.range n).map fun k => (before k).length)[k]? =
      some (before k).length := by
    intro k hk
    rw [List.getElem?_map, List.getElem?_range hk, Option.map_some]
  refine ⟨fun k hk => absurd hk (Finset.notMem_empty k), fun k hk => absurd hk (Finset.notMem_empty k),
    fun k hk => ?_, List.nodup_range.filter _, fun k => ?_⟩
  · rw [hcounts k hk]
    simp
  · rw [List.mem_filter, List.mem_range, decide_eq_true_eq]
    refine and_congr_right fun hk => ?_
    rw [List.getD_eq_getElem?_getD, hcounts k hk, Option.getD_some, List.length_eq_zero_iff,
      List.eq_nil_iff_forall_not_mem]
    simp

/-- One of the queue is placed: those that wait for it count down, and stand in the queue when
they have nothing left to wait for. -/
lemma Queue.place (h : Queue n before placed waiting ready)
    (hbefore : ∀ k, (before k).Nodup) {rest : List ℕ} (hready : ready.Perm (i :: rest)) :
    Queue n before (insert i placed) (countDown waiting (afterwards n before i))
      (rest ++ (afterwards n before i).filter fun k =>
        (countDown waiting (afterwards n before i)).getD k 1 = 0) := by
  obtain ⟨hi, hinot, hifirst⟩ := (h.mem_ready i).mp (hready.mem_iff.mpr List.mem_cons_self)
  obtain ⟨hinrest, hrestnodup⟩ := List.nodup_cons.mp (hready.nodup_iff.mp h.nodup)
  have hself : i ∉ before i := fun hii => hinot (hifirst i hii)
  have hrest : ∀ k, k ∈ rest ↔ k ∈ ready ∧ k ≠ i := by
    intro k
    rw [hready.mem_iff, List.mem_cons]
    constructor
    · intro hk
      exact ⟨.inr hk, fun hki => hinrest (hki ▸ hk)⟩
    · rintro ⟨hk, hne⟩
      exact hk.resolve_left hne
  have hcounts : ∀ k < n, (countDown waiting (afterwards n before i))[k]? =
      some ((before k).countP (· ∉ insert i placed)) := by
    intro k hk
    rw [getElem?_countDown (nodup_afterwards i), h.counts k hk, countP_placed hinot]
    by_cases hik : i ∈ before k
    · rw [if_pos (mem_afterwards.mpr ⟨hk, hik⟩), List.count_eq_one_of_mem (hbefore k) hik]
      rfl
    · rw [if_neg fun hmem => hik (mem_afterwards.mp hmem).2, List.count_eq_zero_of_not_mem hik]
      rfl
  have hzero : ∀ k < n, ((countDown waiting (afterwards n before i)).getD k 1 = 0 ↔
      ∀ j ∈ before k, j ∈ insert i placed) := by
    intro k hk
    rw [List.getD_eq_getElem?_getD, hcounts k hk, Option.getD_some, countP_eq_zero_iff]
  refine ⟨?_, ?_, hcounts, ?_, fun k => ?_⟩
  · intro k hk
    rcases Finset.mem_insert.mp hk with rfl | hk
    · exact hi
    · exact h.placed_lt k hk
  · intro k hk j hj
    rcases Finset.mem_insert.mp hk with rfl | hk
    · exact Finset.mem_insert_of_mem (hifirst j hj)
    · exact Finset.mem_insert_of_mem (h.closed k hk j hj)
  · refine List.nodup_append.mpr ⟨hrestnodup, (nodup_afterwards i).filter _, ?_⟩
    rintro k hk l hl rfl
    -- what was ready did not wait for the one that is placed
    have hfirst := ((h.mem_ready k).mp ((hrest k).mp hk).1).2.2
    exact hinot (hfirst i (mem_afterwards.mp (List.mem_filter.mp hl).1).2)
  · rw [List.mem_append, hrest, h.mem_ready, List.mem_filter, mem_afterwards, decide_eq_true_eq,
      Finset.mem_insert, not_or]
    constructor
    · rintro (⟨⟨hk, hknot, hfirst⟩, hne⟩ | ⟨⟨hk, hik⟩, hcount⟩)
      · exact ⟨hk, ⟨hne, hknot⟩, fun j hj => Finset.mem_insert_of_mem (hfirst j hj)⟩
      · refine ⟨hk, ⟨fun hki => hself (hki ▸ hik), fun hkin => ?_⟩, (hzero k hk).mp hcount⟩
        exact hinot (h.closed k hkin i hik)
    · rintro ⟨hk, ⟨hne, hknot⟩, hfirst⟩
      by_cases hik : i ∈ before k
      · exact .inr ⟨⟨hk, hik⟩, (hzero k hk).mpr hfirst⟩
      · refine .inl ⟨⟨hk, hknot, fun j hj => ?_⟩, hne⟩
        exact Finset.mem_of_mem_insert_of_ne (hfirst j hj) fun hji => hik (hji ▸ hj)

lemma Queue.cyclic (h : Queue n before placed waiting []) (hbefore : ∀ k, ∀ j ∈ before k, j < n)
    (hleft : placed.card ≠ n) : Cyclic fun j k => j ∈ before k := by
  have hsub : placed ⊆ Finset.range n := fun k hk => Finset.mem_range.mpr (h.placed_lt k hk)
  have hne : (Finset.range n \ placed).Nonempty := by
    rw [Finset.sdiff_nonempty]
    intro hall
    rw [hsub.antisymm hall, Finset.card_range] at hleft
    exact hleft rfl
  refine cyclic_of_waiting hne fun k hk => ?_
  obtain ⟨hk, hknot⟩ := Finset.mem_sdiff.mp hk
  have hwaits : ¬ ∀ j ∈ before k, j ∈ placed := fun hfirst =>
    List.not_mem_nil ((h.mem_ready k).mpr ⟨Finset.mem_range.mp hk, hknot, hfirst⟩)
  push Not at hwaits
  obtain ⟨j, hj, hjnot⟩ := hwaits
  exact ⟨j, Finset.mem_sdiff.mpr ⟨Finset.mem_range.mpr (hbefore k j hj), hjnot⟩, hj⟩

lemma Queue.all_placed (h : Queue n before placed waiting ready) (hall : placed.card = n)
    (hk : k < n) : k ∈ placed := by
  have hsub : placed ⊆ Finset.range n := fun k hk => Finset.mem_range.mpr (h.placed_lt k hk)
  have heq : placed = Finset.range n :=
    Finset.eq_of_subset_of_card_le hsub (by rw [Finset.card_range, hall])
  rw [heq]
  exact Finset.mem_range.mpr hk

end Taramandal.Lib.Precedence
