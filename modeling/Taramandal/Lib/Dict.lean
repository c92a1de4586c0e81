import Mathlib.Algebra.GroupWithZero.Nat
import Mathlib.Data.List.Sort

/-! # Insertion-ordered dictionaries

A dictionary is its list of entries in the order the keys were first set.
Setting a key it has keeps the key's place and drops the old value; that is what
`weight_assignAll_lt` is about: assigning a key twice loses what the first
assignment stored. -/
set_option linter.unusedSectionVars false

namespace Taramandal.Lib.Dict

variable {κ β : Type*} [DecidableEq κ]

abbrev Dict (κ β : Type*) := List (κ × β)

def find : Dict κ β → κ → Option β
  | [], _ => none
  | (k', v) :: d, k => if k' = k then some v else find d k

def has (d : Dict κ β) (k : κ) : Bool := (find d k).isSome

def assign : Dict κ β → κ → β → Dict κ β
  | [], k, v => [(k, v)]
  | (k', v') :: d, k, v => if k' = k then (k, v) :: d else (k', v') :: assign d k v

section

variable (d : Dict κ β)

def alter (k : κ) (f : β → β) : Dict κ β :=
  d.map fun e => if e.1 = k then (e.1, f e.2) else e

/-- `d.pop(k, None)`. -/
def remove (k : κ) : Dict κ β := d.filter fun e => e.1 ≠ k

/-- `d.items()`: each key with the value found at it. -/
def items : List (κ × β) :=
  d.filterMap fun e => (find d e.1).map fun v => (e.1, v)

/-- `for k in ks: del d[k]`. -/
def removeAll (ks : List κ) : Dict κ β := ks.foldl remove d

/-- A list of assignments, carried out one after the other. -/
def assignAll (as : List (κ × β)) : Dict κ β :=
  as.foldl (fun d a => assign d a.1 a.2) d

lemma find_alter (k k' : κ) (f : β → β) :
    find (alter d k f) k' = if k' = k then (find d k').map f else find d k' := by
  induction d with
  | nil => simp [alter, find]
  | cons e d ih =>
    by_cases he : e.1 = k' <;> by_cases hk : k' = k <;> by_cases hek : e.1 = k <;>
      simp_all [alter, find]

lemma find_assign_self (k : κ) (v : β) : find (assign d k v) k = some v := by
  induction d with
  | nil => simp [assign, find]
  | cons e d ih =>
    unfold assign
    split
    · simp [find]
    next hne => simp [find, hne, ih]

end

variable {k k' : κ}

lemma find_assign_ne (d : Dict κ β) (v : β) (h : k ≠ k') : find (assign d k v) k' = find d k' := by
  induction d with
  | nil => simp [assign, find, h]
  | cons e d ih =>
    unfold assign
    split
    next he => simp [find, he, h]
    next => simp [find, ih]

lemma find_append (d d' : Dict κ β) (k : κ) : find (d ++ d') k = (find d k).or (find d' k) := by
  induction d with
  | nil => rfl
  | cons e d ih =>
    rw [List.cons_append, find, find]
    split
    next => rfl
    next => exact ih

variable {d : Dict κ β}

lemma find_eq_none_iff : find d k = none ↔ k ∉ d.map Prod.fst := by
  induction d with
  | nil => simp [find]
  | cons e d ih =>
    unfold find
    split
    next he => simp [he]
    next hne => simp [ih, Ne.symm hne]

lemma find_remove_self (d : Dict κ β) (k : κ) : find (remove d k) k = none := by
  rw [find_eq_none_iff]
  simp [remove]

lemma find_remove_ne (d : Dict κ β) (h : k ≠ k') : find (remove d k) k' = find d k' := by
  induction d with
  | nil => rfl
  | cons e d ih =>
    rw [remove] at ih
    by_cases he : e.1 = k
    · rw [remove, List.filter_cons_of_neg (by simp [he]), ih, find, if_neg (he ▸ h)]
    · rw [remove, List.filter_cons_of_pos (by simp [he]), find, find, ih]

variable {v : β}

lemma find_remove_some (h : find (remove d k) k' = some v) : k' ≠ k ∧ find d k' = some v := by
  by_cases hk : k = k'
  · rw [hk, find_remove_self] at h
    cases h
  · rw [find_remove_ne _ hk] at h
    exact ⟨Ne.symm hk, h⟩

lemma find_filter (d : Dict κ β) (q : κ → Bool) (k : κ) :
    find (d.filter fun e => q e.1) k = if q k then find d k else none := by
  induction d with
  | nil => simp [find]
  | cons e d ih =>
    rw [List.filter_cons]
    by_cases hk : e.1 = k
    · subst hk
      split
      next => simp [find]
      next hq => rw [ih, if_neg hq]
    · split
      next => rw [find, if_neg hk, ih, find, if_neg hk]
      next => rw [ih, find, if_neg hk]

lemma find_removeAll (d : Dict κ β) (ks : List κ) (k : κ) :
    find (removeAll d ks) k = if k ∈ ks then none else find d k := by
  induction ks generalizing d with
  | nil => simp [removeAll]
  | cons k' ks ih =>
    rw [removeAll, List.foldl_cons, ← removeAll, ih]
    by_cases hk : k' = k
    · simp [hk, find_remove_self]
    · simp [find_remove_ne d hk, Ne.symm hk]

lemma mem_of_find (h : find d k = some v) : (k, v) ∈ d := by
  induction d with
  | nil => cases h
  | cons e d ih =>
    unfold find at h
    split at h
    next he => cases h; simp [← he]
    next => exact List.mem_cons_of_mem _ (ih h)

lemma mem_items : (k, v) ∈ items d ↔ find d k = some v := by
  simp only [items, List.mem_filterMap, Option.map_eq_some_iff, Prod.mk.injEq]
  constructor
  · intro ⟨e, _, v', hfind, hk, hv⟩
    rw [← hk, ← hv, hfind]
  · intro hfind
    exact ⟨(k, v), mem_of_find hfind, v, hfind, rfl, rfl⟩

lemma find_of_mem (hd : (d.map Prod.fst).Nodup) (h : (k, v) ∈ d) : find d k = some v := by
  induction d with
  | nil => cases h
  | cons e d ih =>
    obtain ⟨hfresh, hd⟩ := List.nodup_cons.mp hd
    rcases List.mem_cons.mp h with rfl | h
    · simp [find]
    · have hne : e.1 ≠ k := fun hek => hfresh (hek ▸ List.mem_map_of_mem h)
      rw [find, if_neg hne, ih hd h]

lemma find_perm {d' : Dict κ β} (h : d.Perm d') (hd : (d.map Prod.fst).Nodup) (k : κ) :
    find d k = find d' k := by
  have hd' : (d'.map Prod.fst).Nodup := (h.map Prod.fst).nodup_iff.mp hd
  cases hfind : find d' k with
  | some v => exact find_of_mem hd (h.mem_iff.mpr (mem_of_find hfind))
  | none =>
    rw [find_eq_none_iff] at hfind ⊢
    exact fun hk => hfind ((h.map Prod.fst).mem_iff.mp hk)

lemma find_map_keys (ks : List κ) (f : κ → β) (h : k ∈ ks) :
    find (ks.map fun k => (k, f k)) k = some (f k) := by
  induction ks with
  | nil => cases h
  | cons k' ks ih =>
    by_cases hk : k' = k
    · simp [find, hk]
    · rw [List.map_cons, find, if_neg hk]
      exact ih ((List.mem_cons.mp h).resolve_left (Ne.symm hk))

lemma assign_of_fresh (v : β) (h : k ∉ d.map Prod.fst) : assign d k v = d ++ [(k, v)] := by
  induction d with
  | nil => rfl
  | cons e d ih =>
    simp only [List.map_cons, List.mem_cons, not_or] at h
    simp [assign, Ne.symm h.1, ih h.2]

variable {as : List (κ × β)}

lemma assignAll_of_nodup (h : ((d ++ as).map Prod.fst).Nodup) : assignAll d as = d ++ as := by
  induction as generalizing d with
  | nil => simp [assignAll]
  | cons a as ih =>
    have hfresh : a.1 ∉ d.map Prod.fst := by
      intro hm
      rw [List.map_append, List.map_cons] at h
      exact (List.nodup_append.mp h).2.2 _ hm _ (List.mem_cons_self ..) rfl
    have happ : d ++ a :: as = d ++ [(a.1, a.2)] ++ as := by simp
    rw [assignAll, List.foldl_cons, assign_of_fresh a.2 hfresh, happ]
    exact ih (happ ▸ h)

lemma assign_of_find (h : find d k = some v) : assign d k v = d := by
  induction d with
  | nil => cases h
  | cons e d ih =>
    unfold find at h
    unfold assign
    split at h
    next hk => rw [if_pos hk, ← hk, ← Option.some.inj h]
    next hk => rw [if_neg hk, ih h]

lemma find_assignAll_ne (h : k ∉ as.map Prod.fst) : find (assignAll d as) k = find d k := by
  induction as generalizing d with
  | nil => rfl
  | cons a as ih =>
    simp only [List.map_cons, List.mem_cons, not_or] at h
    rw [assignAll, List.foldl_cons, ← assignAll, ih h.2, find_assign_ne _ _ (Ne.symm h.1)]

lemma find_assignAll_mem (hmem : (k, v) ∈ as) (hnodup : (as.map Prod.fst).Nodup) :
    find (assignAll d as) k = some v := by
  induction as generalizing d with
  | nil => cases hmem
  | cons a as ih =>
    obtain ⟨hfresh, hrest⟩ := List.nodup_cons.mp hnodup
    rw [assignAll, List.foldl_cons, ← assignAll]
    rcases List.mem_cons.mp hmem with rfl | hmem
    · rw [find_assignAll_ne hfresh, find_assign_self]
    · exact ih hmem hrest

lemma find_assignAll_of_eq (hd : find d k = some v) (has : ∀ a ∈ as, a.1 = k → a.2 = v) :
    find (assignAll d as) k = some v := by
  induction as generalizing d with
  | nil => exact hd
  | cons a as ih =>
    rw [assignAll, List.foldl_cons]
    refine ih ?_ fun b hb => has b (List.mem_cons_of_mem _ hb)
    by_cases hk : a.1 = k
    · rw [hk, find_assign_self, has a (List.mem_cons_self ..) hk]
    · rw [find_assign_ne _ _ hk, hd]

lemma find_assignAll_induction {P : β → Prop} (hd : ∀ v, find d k = some v → P v)
    (has : ∀ a ∈ as, a.1 = k → P a.2) (h : find (assignAll d as) k = some v) : P v := by
  induction as generalizing d with
  | nil => exact hd v h
  | cons a as ih =>
    rw [assignAll, List.foldl_cons] at h
    refine ih (fun w hw => ?_) (fun b hb => has b (List.mem_cons_of_mem _ hb)) h
    by_cases hk : a.1 = k
    · rw [hk, find_assign_self] at hw
      exact Option.some.inj hw ▸ has a List.mem_cons_self hk
    · rw [find_assign_ne _ _ hk] at hw
      exact hd w hw

lemma mem_assign {e : κ × β} (h : e ∈ assign d k v) : e = (k, v) ∨ e ∈ d := by
  induction d with
  | nil => exact .inl (List.mem_singleton.mp h)
  | cons e' d ih =>
    unfold assign at h
    split at h
    next =>
      rcases List.mem_cons.mp h with he | he
      · exact .inl he
      · exact .inr (List.mem_cons_of_mem _ he)
    next =>
      rcases List.mem_cons.mp h with he | he
      · exact .inr (he ▸ List.mem_cons_self ..)
      · exact (ih he).imp_right (List.mem_cons_of_mem _)

lemma keys_assign (d : Dict κ β) (k : κ) (v : β) : (assign d k v).map Prod.fst =
    if k ∈ d.map Prod.fst then d.map Prod.fst else d.map Prod.fst ++ [k] := by
  induction d with
  | nil => simp [assign]
  | cons e d ih =>
    unfold assign
    by_cases hk : e.1 = k
    · simp [hk]
    · rw [if_neg hk, List.map_cons, ih, List.map_cons]
      split
      next hmem => rw [if_pos (List.mem_cons_of_mem _ hmem)]
      next hmem => rw [if_neg (by simpa [Ne.symm hk] using hmem), List.cons_append]

lemma map_assign {γ : Type*} (f : β → γ) {v' : β} (h : find d k = some v') (hf : f v = f v') :
    (assign d k v).map (fun e => f e.2) = d.map fun e => f e.2 := by
  induction d with
  | nil => cases h
  | cons e d ih =>
    unfold find at h
    unfold assign
    split at h
    next hk =>
      cases h
      rw [if_pos hk, List.map_cons, List.map_cons, hf]
    next hk => rw [if_neg hk, List.map_cons, List.map_cons, ih h]

lemma nodup_assign (hd : (d.map Prod.fst).Nodup) (k : κ) (v : β) :
    ((assign d k v).map Prod.fst).Nodup := by
  rw [keys_assign]
  split
  next => exact hd
  next hk => exact List.nodup_append.mpr ⟨hd, List.nodup_singleton k, by
      rintro a ha _ hb rfl
      rw [List.mem_singleton] at hb
      exact hk (hb ▸ ha)⟩

lemma nodup_remove (hd : (d.map Prod.fst).Nodup) (k : κ) : ((remove d k).map Prod.fst).Nodup :=
  hd.sublist (List.filter_sublist.map Prod.fst)

section

variable (size : β → Nat)

def weight (d : Dict κ β) : Nat := (d.map fun e => size e.2).sum

@[simp] lemma weight_cons (e : κ × β) (d : Dict κ β) :
    weight size (e :: d) = size e.2 + weight size d := by
  simp [weight]

lemma weight_assign (d : Dict κ β) (k : κ) (v : β) :
    weight size (assign d k v) + (find d k).elim 0 size = weight size d + size v := by
  induction d with
  | nil => simp [assign, find, weight]
  | cons e d ih =>
    unfold assign find
    split
    · simp only [weight_cons, Option.elim_some]; omega
    · simp only [weight_cons]; omega

lemma weight_remove {d : Dict κ β} (hd : (d.map Prod.fst).Nodup) (k : κ) :
    weight size (remove d k) + (find d k).elim 0 size = weight size d := by
  induction d with
  | nil => rfl
  | cons e d ih =>
    obtain ⟨hfresh, hd⟩ := List.nodup_cons.mp hd
    by_cases hk : e.1 = k
    · have hnone : find d k = none := find_eq_none_iff.mpr (hk ▸ hfresh)
      have hrest := ih hd
      rw [hnone, Option.elim_none] at hrest
      rw [remove, List.filter_cons_of_neg (by simp [hk]), ← remove, find, if_pos hk, weight_cons,
        Option.elim_some]
      omega
    · have hrest := ih hd
      rw [remove, List.filter_cons_of_pos (by simp [hk]), ← remove, find, if_neg hk, weight_cons,
        weight_cons]
      omega

lemma weight_le {size' : β → Nat} (h : ∀ v, size v ≤ size' v) (d : Dict κ β) :
    weight size d ≤ weight size' d := by
  induction d with
  | nil => exact Nat.le_refl _
  | cons e d ih =>
    rw [weight_cons, weight_cons]
    exact Nat.add_le_add (h e.2) ih

lemma weight_assignAll_le (d : Dict κ β) (as : List (κ × β)) :
    weight size (assignAll d as) ≤ weight size d + weight size as := by
  induction as generalizing d with
  | nil => simp [assignAll]
  | cons a as ih =>
    have h1 := ih (assign d a.1 a.2)
    have h2 := weight_assign size d a.1 a.2
    simp only [assignAll, List.foldl_cons, weight_cons] at h1 ⊢
    omega

variable {size}

lemma weight_assignAll_lt {d : Dict κ β} {as : List (κ × β)}
    (hpos : ∀ e ∈ d ++ as, 0 < size e.2) (h : ¬ ((d ++ as).map Prod.fst).Nodup)
    (hd : (d.map Prod.fst).Nodup) :
    weight size (assignAll d as) < weight size d + weight size as := by
  induction as generalizing d with
  | nil => exact absurd hd (by simpa using h)
  | cons a as ih =>
    have hw := weight_assign size d a.1 a.2
    by_cases hfresh : a.1 ∈ d.map Prod.fst
    · obtain ⟨v, hv⟩ : ∃ v, find d a.1 = some v :=
        Option.ne_none_iff_exists'.mp fun hn => find_eq_none_iff.mp hn hfresh
      have hold : 0 < size v := hpos (a.1, v) (List.mem_append_left _ (mem_of_find hv))
      have hle := weight_assignAll_le size (assign d a.1 a.2) as
      simp only [hv, Option.elim_some] at hw
      simp only [assignAll, List.foldl_cons, weight_cons] at hle ⊢
      omega
    · have happ : d ++ a :: as = d ++ [(a.1, a.2)] ++ as := by simp
      have hset := assign_of_fresh a.2 hfresh
      have hlt := ih (d := assign d a.1 a.2) (by rw [hset, ← happ]; exact hpos)
        (by rw [hset, ← happ]; exact h)
        (by
          rw [hset, List.map_append]
          refine List.nodup_append.mpr ⟨hd, by simp, ?_⟩
          intro k hk k' hk' he
          simp only [List.map_cons, List.map_nil, List.mem_singleton] at hk'
          exact hfresh (hk' ▸ he ▸ hk))
      simp only [assignAll, List.foldl_cons, weight_cons] at hlt ⊢
      omega

end

end Taramandal.Lib.Dict

/-! ## Dictionaries in the order of their keys

Two dictionaries that are sorted by their keys agree entry by entry exactly if they have
the same keys and agree at each of them. -/
namespace Taramandal.Lib.SortedDict

open Lib.Dict

variable {κ β γ : Type*}

section

variable [LinearOrder κ]

/-- `sorted(d.items())`, of a dictionary whose keys are distinct. -/
def sorted (d : Dict κ β) : List (κ × β) := d.insertionSort fun e e' => e.1 ≤ e'.1

lemma sorted_perm (d : Dict κ β) : (sorted d).Perm d := List.perm_insertionSort _ _

lemma keys_sorted (d : Dict κ β) : ((sorted d).map Prod.fst).Pairwise (· ≤ ·) := by
  have : Std.Total fun e e' : κ × β => e.1 ≤ e'.1 := ⟨fun e e' => le_total _ _⟩
  have : IsTrans (κ × β) fun e e' => e.1 ≤ e'.1 := ⟨fun _ _ _ => le_trans⟩
  have hsorted : (sorted d).Pairwise fun e e' => e.1 ≤ e'.1 := List.pairwise_insertionSort _ _
  exact hsorted.map Prod.fst fun _ _ h => h

lemma keys_eq {d : Dict κ β} {d' : Dict κ γ} (hd : (d.map Prod.fst).Nodup)
    (hd' : (d'.map Prod.fst).Nodup) (h : ∀ k, k ∈ d.map Prod.fst ↔ k ∈ d'.map Prod.fst) :
    (sorted d).map Prod.fst = (sorted d').map Prod.fst := by
  have hperm : ((sorted d).map Prod.fst).Perm ((sorted d').map Prod.fst) :=
    ((sorted_perm d).map _).trans
      (((List.perm_ext_iff_of_nodup hd hd').mpr h).trans ((sorted_perm d').map _).symm)
  exact hperm.eq_of_pairwise' (keys_sorted d) (keys_sorted d')

end

def Agree (R : β → γ → Prop) (e : κ × β) (e' : κ × γ) : Prop := e.1 = e'.1 ∧ R e.2 e'.2

variable {R : β → γ → Prop}

variable {d : Dict κ β} {d' : Dict κ γ}

lemma Agree.keys (h : List.Forall₂ (Agree R) d d') : d.map Prod.fst = d'.map Prod.fst := by
  induction h with
  | nil => rfl
  | cons he _ ih => rw [List.map_cons, List.map_cons, he.1, ih]

lemma Agree.exists_of_mem (h : List.Forall₂ (Agree R) d d') {k : κ} {v : β} (hv : (k, v) ∈ d) :
    ∃ v', (k, v') ∈ d' ∧ R v v' := by
  induction h with
  | nil => cases hv
  | @cons e e' _ _ he _ ih =>
    rcases List.mem_cons.mp hv with rfl | hv
    · obtain ⟨rfl, hR⟩ : k = e'.1 ∧ R v e'.2 := he
      exact ⟨e'.2, List.mem_cons_self .., hR⟩
    · obtain ⟨v', hv', hR⟩ := ih hv
      exact ⟨v', List.mem_cons_of_mem _ hv', hR⟩

lemma forall₂_of_keys (hkeys : d.map Prod.fst = d'.map Prod.fst)
    (h : ∀ k v v', (k, v) ∈ d → (k, v') ∈ d' → R v v') : List.Forall₂ (Agree R) d d' := by
  induction d generalizing d' with
  | nil =>
    obtain rfl := List.map_eq_nil_iff.mp hkeys.symm
    exact .nil
  | cons e d ih =>
    cases d' with
    | nil => cases hkeys
    | cons e' d' =>
      obtain ⟨k, v⟩ := e
      obtain ⟨k', v'⟩ := e'
      obtain ⟨rfl, hrest⟩ : k = k' ∧ d.map Prod.fst = d'.map Prod.fst := List.cons.inj hkeys
      refine .cons ⟨rfl, h k v v' (List.mem_cons_self ..) (List.mem_cons_self ..)⟩ ?_
      exact ih hrest fun k v v' hv hv' => h k v v' (List.mem_cons_of_mem _ hv)
        (List.mem_cons_of_mem _ hv')

/-- Sorted, two dictionaries agree entry by entry exactly if they have the same keys and agree
at each. -/
lemma forall₂_sorted_iff [LinearOrder κ] (hd : (d.map Prod.fst).Nodup)
    (hd' : (d'.map Prod.fst).Nodup) :
    List.Forall₂ (Agree R) (sorted d) (sorted d') ↔
      (∀ k, k ∈ d.map Prod.fst ↔ k ∈ d'.map Prod.fst) ∧
        ∀ k v v', (k, v) ∈ d → (k, v') ∈ d' → R v v' := by
  constructor
  · intro h
    refine ⟨fun k => ?_, fun k v v' hv hv' => ?_⟩
    · rw [← ((sorted_perm d).map Prod.fst).mem_iff, ← ((sorted_perm d').map Prod.fst).mem_iff,
        Agree.keys h]
    · obtain ⟨u, hu, hR⟩ := Agree.exists_of_mem h ((sorted_perm d).mem_iff.mpr hv)
      have huv : u = v' := by
        have hfind := find_of_mem hd' ((sorted_perm d').mem_iff.mp hu)
        rw [find_of_mem hd' hv'] at hfind
        exact (Option.some.inj hfind).symm
      exact huv ▸ hR
  · intro ⟨hkeys, hR⟩
    refine forall₂_of_keys (keys_eq hd hd' hkeys) fun k v v' hv hv' => ?_
    exact hR k v v' ((sorted_perm d).mem_iff.mp hv) ((sorted_perm d').mem_iff.mp hv')

end Taramandal.Lib.SortedDict
