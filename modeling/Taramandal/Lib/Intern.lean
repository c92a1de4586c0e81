import Taramandal.Lib.Dict

/-! # Numbering names as they appear

A table gives each name the number it had when it was first seen, so the names
in order are all a reader needs to undo it. Numbering more names only extends
the table (`internAll_extends`), and a number always leads back to its name
(`internAll_names`). -/
namespace Taramandal.Lib.Intern

open Lib.Dict

variable {κ : Type*} [DecidableEq κ]

abbrev Table (κ : Type*) := Dict κ Nat

def names (table : Table κ) : List κ := table.map Prod.fst

/-- The number of a name, new names numbered by the table's size. -/
def intern (table : Table κ) (name : κ) : Table κ × Nat :=
  match find table name with
  | some index => (table, index)
  | none => (assign table name table.length, table.length)

def internAll : Table κ → List κ → Table κ × List Nat
  | table, [] => (table, [])
  | table, name :: rest =>
    let (table, index) := intern table name
    let (table, indices) := internAll table rest
    (table, index :: indices)

def Numbered (table : Table κ) : Prop :=
  ∀ (i : Nat) (e : κ × Nat), table[i]? = some e → e.2 = i

omit [DecidableEq κ] in
lemma numbered_nil : Numbered ([] : Table κ) := by
  intro i e he
  simp at he

variable {table : Table κ} {name : κ}

lemma Numbered.names_of_find (h : Numbered table) {i : Nat} (hfind : find table name = some i) :
    (names table)[i]? = some name := by
  obtain ⟨j, hj⟩ := List.getElem?_of_mem (mem_of_find hfind)
  obtain rfl : i = j := h j _ hj
  rw [names, List.getElem?_map, hj, Option.map_some]

lemma intern_extends (table : Table κ) (name : κ) :
    ∃ new, (intern table name).1 = table ++ new := by
  unfold intern
  cases hfind : find table name with
  | some i => exact ⟨[], (List.append_nil table).symm⟩
  | none => exact ⟨_, assign_of_fresh _ (find_eq_none_iff.mp hfind)⟩

lemma Numbered.intern (h : Numbered table) (name : κ) : Numbered (intern table name).1 := by
  unfold Intern.intern
  cases hfind : find table name with
  | some i => exact h
  | none =>
    intro i e he
    simp only [assign_of_fresh _ (find_eq_none_iff.mp hfind)] at he
    by_cases hi : i < table.length
    · rw [List.getElem?_append_left hi] at he
      exact h i e he
    · rw [List.getElem?_append_right (Nat.le_of_not_lt hi)] at he
      obtain ⟨hlt, rfl⟩ := List.getElem?_eq_some_iff.mp he
      rw [List.length_singleton] at hlt
      simp only [List.getElem_singleton]
      omega

lemma intern_names (h : Numbered table) (name : κ) :
    (names (intern table name).1)[(intern table name).2]? = some name := by
  unfold intern
  cases hfind : find table name with
  | some i => exact h.names_of_find hfind
  | none =>
    rw [assign_of_fresh _ (find_eq_none_iff.mp hfind)]
    simp [names]

lemma internAll_extends (table : Table κ) (ks : List κ) :
    ∃ new, (internAll table ks).1 = table ++ new := by
  induction ks generalizing table with
  | nil => exact ⟨[], (List.append_nil table).symm⟩
  | cons k ks ih =>
    obtain ⟨one, hone⟩ := intern_extends table k
    obtain ⟨rest, hrest⟩ := ih (intern table k).1
    exact ⟨one ++ rest, by rw [internAll, hrest, hone, List.append_assoc]⟩

lemma length_internAll (table : Table κ) (ks : List κ) :
    (internAll table ks).2.length = ks.length := by
  induction ks generalizing table with
  | nil => rfl
  | cons k ks ih => exact congrArg Nat.succ (ih (intern table k).1)

lemma internAll_eq_self {ks : List κ}
    (hlen : (internAll table ks).1.length = table.length) : (internAll table ks).1 = table := by
  obtain ⟨new, hnew⟩ := internAll_extends table ks
  rw [hnew, List.length_append, Nat.add_eq_left, List.length_eq_zero_iff] at hlen
  rw [hnew, hlen, List.append_nil]

lemma Numbered.internAll (h : Numbered table) (ks : List κ) : Numbered (internAll table ks).1 := by
  induction ks generalizing table with
  | nil => exact h
  | cons k ks ih => exact ih (h.intern k)

lemma internAll_names (h : Numbered table) (ks : List κ) :
    List.Forall₂ (fun name i => (names (internAll table ks).1)[i]? = some name) ks
      (internAll table ks).2 := by
  induction ks generalizing table with
  | nil => exact .nil
  | cons k ks ih =>
    refine .cons ?_ (ih (h.intern k))
    obtain ⟨new, hnew⟩ := internAll_extends (Intern.intern table k).1 ks
    have hk := intern_names h k
    change (names (Intern.internAll (Intern.intern table k).1 ks).1)[(Intern.intern table k).2]? = _
    rw [hnew, names, List.map_append]
    exact (List.getElem?_append_left (List.getElem?_eq_some_iff.mp hk).1).trans hk

end Taramandal.Lib.Intern
