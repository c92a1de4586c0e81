import Mathlib.Data.List.Infix

/-! # Histories

What happened so far, oldest first. `Between p h i j`: nothing with `p` happened
after place `i` and before place `j`. A place keeps its event when the history
grows, so what was said of the places before the end stays true. -/
namespace Taramandal.Lib.History

variable {α : Type*} {p : α → Prop} {h : List α} {i j : Nat} {x y : α}

def Between (p : α → Prop) (h : List α) (i j : Nat) : Prop :=
  ∀ m x, i < m → m < j → h[m]? = some x → ¬ p x

lemma lt_length_of_getElem? (hi : h[i]? = some x) : i < h.length :=
  (List.getElem?_eq_some_iff.mp hi).1

lemma getElem?_snoc_of_some (hi : h[i]? = some x) (y : α) : (h ++ [y])[i]? = some x :=
  (List.getElem?_append_left (lt_length_of_getElem? hi)).trans hi

lemma getElem?_snoc (hj : (h ++ [y])[j]? = some x) : h[j]? = some x ∨ j = h.length ∧ x = y := by
  by_cases hlt : j < h.length
  · rw [List.getElem?_append_left hlt] at hj
    exact .inl hj
  · have hle := lt_length_of_getElem? hj
    rw [List.length_append, List.length_singleton] at hle
    obtain rfl : j = h.length := by omega
    rw [List.getElem?_concat_length] at hj
    exact .inr ⟨rfl, (Option.some.inj hj).symm⟩

lemma Between.snoc_le (hb : Between p h i j) (hj : j ≤ h.length) (y : α) :
    Between p (h ++ [y]) i j := by
  intro m x hi hm hx
  rw [List.getElem?_append_left (Nat.lt_of_lt_of_le hm hj)] at hx
  exact hb m x hi hm hx

/-- One more event without `p`. -/
lemma Between.snoc (hb : Between p h i h.length) (hy : ¬ p y) :
    Between p (h ++ [y]) i (h ++ [y]).length := by
  intro m x hi _ hx
  obtain hold | ⟨-, rfl⟩ := getElem?_snoc hx
  · exact hb m x hi (lt_length_of_getElem? hold) hold
  · exact hy

lemma between_last (p : α → Prop) (h : List α) (y : α) :
    Between p (h ++ [y]) h.length (h ++ [y]).length := by
  intro m x hi hm
  rw [List.length_append, List.length_singleton] at hm
  omega

/-- Something with `p` happened, and nothing with `q` after it. -/
def Since (p q : α → Prop) (h : List α) : Prop :=
  ∃ pre x post, h = pre ++ x :: post ∧ p x ∧ ∀ y ∈ post, ¬ q y

lemma not_since_nil (p q : α → Prop) : ¬ Since p q [] := by
  rintro ⟨pre, x, post, h, -⟩
  exact List.append_ne_nil_of_right_ne_nil pre (List.cons_ne_nil x post) h.symm

lemma since_snoc {q : α → Prop} : Since p q (h ++ [y]) ↔ p y ∨ Since p q h ∧ ¬ q y := by
  constructor
  · rintro ⟨pre, x, post, heq, hp, hq⟩
    rcases List.eq_nil_or_concat post with rfl | ⟨post, z, rfl⟩
    · obtain ⟨-, hxy⟩ := List.append_inj' heq rfl
      cases hxy
      exact .inl hp
    · have hsplit : h ++ [y] = (pre ++ x :: post) ++ [z] := by simpa using heq
      obtain ⟨rfl, hyz⟩ := List.append_inj' hsplit rfl
      cases hyz
      exact .inr ⟨⟨pre, x, post, rfl, hp, fun w hw => hq w (by simp [hw])⟩, hq y (by simp)⟩
  · rintro (hp | ⟨⟨pre, x, post, rfl, hp, hq⟩, hy⟩)
    · exact ⟨h, y, [], rfl, hp, by simp⟩
    · refine ⟨pre, x, post ++ [y], by simp, hp, fun w hw => ?_⟩
      rcases List.mem_append.mp hw with hw | hw
      · exact hq w hw
      · obtain rfl := List.mem_singleton.mp hw
        exact hy

lemma Between.unique {j' : Nat} (hb : Between p h i j) (hb' : Between p h i j') (hj : i < j)
    (hj' : i < j') (hx : h[j]? = some x) (hy : h[j']? = some y) (hpx : p x) (hpy : p y) : j = j' := by
  rcases Nat.lt_trichotomy j j' with hlt | heq | hgt
  · exact absurd hpx (hb' j x hj hlt hx)
  · exact heq
  · exact absurd hpy (hb j' y hj' hgt hy)

lemma place_unique {β : Type*} {f : α → Option β} {t : β} (hnodup : (h.filterMap f).Nodup)
    (hi : h[i]? = some x) (hj : h[j]? = some y) (hx : f x = some t) (hy : f y = some t) : i = j := by
  have hpairs : h.Pairwise fun a b => ∀ s, f a = some s → ∀ s', f b = some s' → s ≠ s' :=
    List.pairwise_filterMap.mp hnodup
  obtain ⟨hilt, rfl⟩ := List.getElem?_eq_some_iff.mp hi
  obtain ⟨hjlt, rfl⟩ := List.getElem?_eq_some_iff.mp hj
  rw [List.pairwise_iff_getElem] at hpairs
  rcases Nat.lt_trichotomy i j with hlt | heq | hgt
  · exact absurd rfl (hpairs i j hilt hjlt hlt t hx t hy)
  · exact heq
  · exact absurd rfl (hpairs j i hjlt hilt hgt t hy t hx)

end Taramandal.Lib.History

/-! ## Objects by address

A program's mutable objects, one after the other; an object's address is its place.
What was there before a piece of code ran is a prefix of what is there after, if the
code writes to nothing but what it allocated. -/
namespace Taramandal.Lib.Objects

abbrev Heap (α : Type*) := List α

variable {α : Type*} {heap heap' : Heap α} {a : ℕ}

def alloc (heap : Heap α) (x : α) : ℕ × Heap α := (heap.length, heap ++ [x])

/-- Every object of `heap` is in `heap'` as it was. -/
def Kept (heap heap' : Heap α) : Prop := heap <+: heap'

lemma Kept.refl (heap : Heap α) : Kept heap heap := List.prefix_refl heap

lemma Kept.trans {heap'' : Heap α} (h : Kept heap heap') (h' : Kept heap' heap'') :
    Kept heap heap'' :=
  List.IsPrefix.trans h h'

lemma kept_alloc (heap : Heap α) (x : α) : Kept heap (alloc heap x).2 :=
  List.prefix_append _ _

/-- A write past the end of `heap` keeps what is in it. -/
lemma Kept.modify (h : Kept heap heap') (ha : heap.length ≤ a) (f : α → α) :
    Kept heap (heap'.modify a f) := by
  refine List.prefix_iff_getElem?.mpr fun i hi => ?_
  have hne : a ≠ i := by omega
  simp [hne, List.prefix_iff_getElem?.mp h i hi]

lemma Kept.getElem? (h : Kept heap heap') (ha : a < heap.length) : heap'[a]? = heap[a]? := by
  rw [List.prefix_iff_getElem?.mp h a ha, List.getElem?_eq_getElem ha]

lemma Kept.length_le (h : Kept heap heap') : heap.length ≤ heap'.length :=
  List.IsPrefix.length_le h

lemma alloc_getElem? (heap : Heap α) (x : α) : (alloc heap x).2[(alloc heap x).1]? = some x := by
  simp [alloc]

end Taramandal.Lib.Objects
