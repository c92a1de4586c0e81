import Mathlib.Data.List.Forall2
import Mathlib.Order.Lattice

/-! # Matching two increasing lists

The members of one list are given to the members of another in order, from the least on, until one
of the two runs out. There is one such matching. -/
namespace Taramandal.Lib.Matching

variable {α β : Type*} [LinearOrder α] [LinearOrder β]

/-- Pairs in which nothing is skipped on either side, and as many as there can be. -/
structure Matches (as : List α) (bs : List β) (pairs : List (α × β)) : Prop where
  increasing : pairs.Pairwise fun p q => p.1 < q.1 ∧ p.2 < q.2
  left_mem : ∀ p ∈ pairs, p.1 ∈ as
  right_mem : ∀ p ∈ pairs, p.2 ∈ bs
  left_lower : ∀ p ∈ pairs, ∀ a ∈ as, a < p.1 → ∃ q ∈ pairs, q.1 = a
  right_lower : ∀ p ∈ pairs, ∀ b ∈ bs, b < p.2 → ∃ q ∈ pairs, q.2 = b
  length_eq : pairs.length = min as.length bs.length

lemma eq_take_of_lower {as xs : List α} (has : as.Pairwise (· < ·)) (hxs : xs.Pairwise (· < ·))
    (hmem : ∀ x ∈ xs, x ∈ as) (hlower : ∀ x ∈ xs, ∀ a ∈ as, a < x → a ∈ xs) :
    xs = as.take xs.length := by
  induction as generalizing xs with
  | nil =>
    have hnil : xs = [] := List.eq_nil_iff_forall_not_mem.mpr fun x hx =>
      absurd (hmem x hx) List.not_mem_nil
    rw [hnil]
    rfl
  | cons a as ih =>
    cases xs with
    | nil => rfl
    | cons x xs =>
      obtain ⟨hfirst, has'⟩ := List.pairwise_cons.mp has
      obtain ⟨hleast, hxs'⟩ := List.pairwise_cons.mp hxs
      have hhead : x = a := by
        rcases List.mem_cons.mp (hmem x List.mem_cons_self) with heq | hx
        · exact heq
        -- otherwise `a` is skipped
        · rcases List.mem_cons.mp (hlower x List.mem_cons_self a List.mem_cons_self (hfirst x hx))
            with heq | ha
          · exact heq.symm
          · exact absurd ((hfirst x hx).trans (hleast a ha)) (lt_irrefl a)
      subst hhead
      have hrest : ∀ y ∈ xs, y ∈ as := by
        intro y hy
        rcases List.mem_cons.mp (hmem y (List.mem_cons_of_mem _ hy)) with heq | hy'
        · exact absurd (hleast y hy) (by rw [heq]; exact lt_irrefl _)
        · exact hy'
      have hlow : ∀ y ∈ xs, ∀ b ∈ as, b < y → b ∈ xs := by
        intro y hy b hb hlt
        rcases List.mem_cons.mp
          (hlower y (List.mem_cons_of_mem _ hy) b (List.mem_cons_of_mem _ hb) hlt) with heq | hb'
        · exact absurd (hfirst b hb) (by rw [heq]; exact lt_irrefl _)
        · exact hb'
      rw [List.length_cons, List.take_succ_cons]
      exact congrArg _ (ih has' hxs' hrest hlow)

lemma lt_of_getElem_lt {as : List α} (has : as.Pairwise (· < ·)) {i j : Nat}
    (hi : i < as.length) (hj : j < as.length) (hlt : as[j] < as[i]) : j < i := by
  by_contra hle
  rcases Nat.lt_or_eq_of_le (Nat.le_of_not_lt hle) with hij | heq
  · exact absurd hlt (not_lt.mpr (List.pairwise_iff_getElem.mp has i j hi hj hij).le)
  · subst heq
    exact lt_irrefl _ hlt

variable {as : List α} {bs : List β} {pairs : List (α × β)}

lemma zip_increasing (has : as.Pairwise (· < ·)) (hbs : bs.Pairwise (· < ·)) :
    (as.zip bs).Pairwise fun p q => p.1 < q.1 ∧ p.2 < q.2 := by
  induction as generalizing bs with
  | nil => exact List.Pairwise.nil
  | cons a as ih =>
    cases bs with
    | nil => exact List.Pairwise.nil
    | cons b bs =>
      obtain ⟨hfirst, has⟩ := List.pairwise_cons.mp has
      obtain ⟨hfirst', hbs⟩ := List.pairwise_cons.mp hbs
      refine List.pairwise_cons.mpr ⟨fun p hp => ?_, ih has hbs⟩
      obtain ⟨hleft, hright⟩ := List.of_mem_zip hp
      exact ⟨hfirst _ hleft, hfirst' _ hright⟩

omit [LinearOrder α] [LinearOrder β] in
lemma map_fst_zip_take : (as.zip bs).map Prod.fst = as.take bs.length := by
  induction as generalizing bs with
  | nil => exact (List.take_nil).symm
  | cons a as ih =>
    cases bs with
    | nil => rfl
    | cons b bs => exact congrArg (a :: ·) ih

lemma matches_zip (has : as.Pairwise (· < ·)) (hbs : bs.Pairwise (· < ·)) :
    Matches as bs (as.zip bs) := by
  refine ⟨zip_increasing has hbs, fun p hp => (List.of_mem_zip hp).1,
    fun p hp => (List.of_mem_zip hp).2, ?_, ?_, List.length_zip⟩
  · intro p hp a ha hlt
    obtain ⟨i, hi, rfl⟩ := List.mem_iff_getElem.mp hp
    obtain ⟨j, hj, rfl⟩ := List.mem_iff_getElem.mp ha
    rw [List.getElem_zip] at hlt
    have hji : j < i := lt_of_getElem_lt has _ hj hlt
    exact ⟨_, List.getElem_mem (hji.trans hi), by rw [List.getElem_zip]⟩
  · intro p hp b hb hlt
    obtain ⟨i, hi, rfl⟩ := List.mem_iff_getElem.mp hp
    obtain ⟨j, hj, rfl⟩ := List.mem_iff_getElem.mp hb
    rw [List.getElem_zip] at hlt
    have hji : j < i := lt_of_getElem_lt hbs _ hj hlt
    exact ⟨_, List.getElem_mem (hji.trans hi), by rw [List.getElem_zip]⟩

lemma Matches.eq_zip (h : Matches as bs pairs) (has : as.Pairwise (· < ·))
    (hbs : bs.Pairwise (· < ·)) : pairs = as.zip bs := by
  have hleft : pairs.map Prod.fst = as.take pairs.length := by
    have htake : pairs.map Prod.fst = as.take (pairs.map Prod.fst).length := eq_take_of_lower has
      (List.pairwise_map.mpr (h.increasing.imp fun hlt => hlt.1))
      (List.forall_mem_map.mpr h.left_mem)
      (List.forall_mem_map.mpr fun p hp a ha hlt => List.mem_map.mpr (h.left_lower p hp a ha hlt))
    rwa [List.length_map] at htake
  have hright : pairs.map Prod.snd = bs.take pairs.length := by
    have htake : pairs.map Prod.snd = bs.take (pairs.map Prod.snd).length := eq_take_of_lower hbs
      (List.pairwise_map.mpr (h.increasing.imp fun hlt => hlt.2))
      (List.forall_mem_map.mpr h.right_mem)
      (List.forall_mem_map.mpr fun p hp b hb hlt => List.mem_map.mpr (h.right_lower p hp b hb hlt))
    rwa [List.length_map] at htake
  have hall : (as.zip bs).length ≤ pairs.length :=
    Nat.le_of_eq (List.length_zip.trans h.length_eq.symm)
  have hsplit : (pairs.map Prod.fst).zip (pairs.map Prod.snd) = pairs := by
    rw [List.zip_map', List.map_id'']
    exact fun p => rfl
  calc pairs = (pairs.map Prod.fst).zip (pairs.map Prod.snd) := hsplit.symm
    _ = (as.zip bs).take pairs.length := by
        rw [hleft, hright, List.zip_eq_zipWith, List.zip_eq_zipWith, List.take_zipWith]
    _ = as.zip bs := List.take_of_length_le hall

end Taramandal.Lib.Matching

/-! ## A list with some more elements in it

`Padded p l l'`: leaving some elements out of `l'`, all of which satisfy `p`,
gives `l`. Each place of the one list has its place in the other. -/
namespace Taramandal.Lib.Padding

variable {α β : Type*}

inductive Padded (p : α → Prop) : List α → List α → Prop
  | nil : Padded p [] []
  | keep (a : α) {l l' : List α} (h : Padded p l l') : Padded p (a :: l) (a :: l')
  | extra {a : α} {l l' : List α} (ha : p a) (h : Padded p l l') : Padded p l (a :: l')

variable {p q : α → Prop} {l l' : List α}

lemma Padded.refl (p : α → Prop) : ∀ l : List α, Padded p l l
  | [] => .nil
  | a :: l => .keep a (.refl p l)

variable {k : List α} {a : α} {f : α → Bool} {b : β}

lemma Padded.append {k' : List α} (h : Padded p l l') (h' : Padded p k k') :
    Padded p (l ++ k) (l' ++ k') := by
  induction h with
  | nil => exact h'
  | keep a _ ih => exact .keep a ih
  | extra ha _ ih => exact .extra ha ih

lemma Padded.prepend (hk : ∀ a ∈ k, p a) (h : Padded p l l') : Padded p l (k ++ l') := by
  induction k with
  | nil => exact h
  | cons a k ih =>
    exact .extra (hk a List.mem_cons_self) (ih fun b hb => hk b (List.mem_cons_of_mem _ hb))

section

variable (h : Padded p l l')
include h

lemma Padded.locate {k : Nat} (hk : l[k]? = some a) :
    ∃ k', l'[k']? = some a ∧ ∀ b, Padded p (l.set k b) (l'.set k' b) := by
  induction h generalizing k with
  | nil => simp at hk
  | keep c h ih =>
    cases k with
    | zero => exact ⟨0, by simpa using hk, fun b => .keep b h⟩
    | succ k =>
      obtain ⟨k', hk', hset⟩ := ih (by simpa using hk)
      exact ⟨k' + 1, by simpa using hk', fun b => .keep c (hset b)⟩
  | extra hc _ ih =>
    obtain ⟨k', hk', hset⟩ := ih hk
    exact ⟨k' + 1, by simpa using hk', fun b => .extra hc (hset b)⟩

lemma Padded.locate_or_extra {k : Nat} (hk : l'[k]? = some a) :
    (∃ k', l[k']? = some a ∧ ∀ b, Padded p (l.set k' b) (l'.set k b)) ∨
      p a ∧ ∀ b, p b → Padded p l (l'.set k b) := by
  induction h generalizing k with
  | nil => simp at hk
  | keep c h ih =>
    cases k with
    | zero => exact .inl ⟨0, by simpa using hk, fun b => .keep b h⟩
    | succ k =>
      rcases ih (by simpa using hk) with ⟨k', hk', hset⟩ | ⟨ha, hset⟩
      · exact .inl ⟨k' + 1, by simpa using hk', fun b => .keep c (hset b)⟩
      · exact .inr ⟨ha, fun b hb => .keep c (hset b hb)⟩
  | extra hc h ih =>
    cases k with
    | zero =>
      obtain rfl : _ = a := by simpa using hk
      exact .inr ⟨hc, fun b hb => .extra hb h⟩
    | succ k =>
      rcases ih (by simpa using hk) with ⟨k', hk', hset⟩ | ⟨ha, hset⟩
      · exact .inl ⟨k', hk', fun b => .extra hc (hset b)⟩
      · exact .inr ⟨ha, fun b hb => .extra hc (hset b hb)⟩

lemma Padded.any_eq (hf : ∀ a, p a → f a = false) : l'.any f = l.any f := by
  induction h with
  | nil => rfl
  | keep a _ ih => simp only [List.any_cons, ih]
  | extra ha _ ih => simp only [List.any_cons, hf _ ha, Bool.false_or, ih]

lemma Padded.all_eq (hf : ∀ a, p a → f a = true) : l'.all f = l.all f := by
  induction h with
  | nil => rfl
  | keep a _ ih => simp only [List.all_cons, ih]
  | extra ha _ ih => simp only [List.all_cons, hf _ ha, Bool.true_and, ih]

lemma Padded.map {f : α → α} (hkeep : ∀ a ∈ l, f a = a)
    (hextra : ∀ a, p a → q (f a)) : Padded q l (l'.map f) := by
  induction h with
  | nil => exact .nil
  | keep a _ ih =>
    rw [List.map_cons, hkeep a List.mem_cons_self]
    exact .keep a (ih fun b hb => hkeep b (List.mem_cons_of_mem _ hb))
  | extra ha _ ih => exact .extra (hextra _ ha) (ih hkeep)

end

variable {R : α → β → Prop} {as : List α} {bs : List β}

section

variable (h : List.Forall₂ R as bs)
include h

lemma forall₂_get {i : Nat} (hb : bs[i]? = some b) : ∃ a, as[i]? = some a ∧ R a b := by
  induction h generalizing i with
  | nil => simp at hb
  | cons hab _ ih =>
    cases i with
    | zero => exact ⟨_, rfl, by simp at hb; exact hb ▸ hab⟩
    | succ i => simpa using ih (by simpa using hb)

lemma forall₂_set (i : Nat) (hab : R a b) : List.Forall₂ R (as.set i a) (bs.set i b) := by
  induction h generalizing i with
  | nil => exact .nil
  | cons hcd htail ih =>
    cases i with
    | zero => exact .cons hab htail
    | succ i => exact .cons hcd (ih i)

lemma forall₂_modify (i : Nat) {f : α → α} {g : β → β}
    (hfg : ∀ a b, R a b → R (f a) (g b)) : List.Forall₂ R (as.modify i f) (bs.modify i g) := by
  induction h generalizing i with
  | nil => simp
  | cons hcd htail ih =>
    cases i with
    | zero => exact .cons (hfg _ _ hcd) htail
    | succ i => exact .cons hcd (ih i)

end

end Taramandal.Lib.Padding
