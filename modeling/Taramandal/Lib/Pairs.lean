import Mathlib.Data.List.MinMax

/-! # Pairs of a list, and their least value

Every two elements of a list, the earlier one first (`pairs`), those that follow one another
(`steps`), and the least of some values, where no value counts as infinite. -/
namespace Taramandal.Lib.Pairs

variable {α β κ : Type*}

/-- `for i, for j > i`. -/
def pairs : List α → List (α × α)
  | [] => []
  | a :: as => as.map (a, ·) ++ pairs as

variable {a b : α} {as : List α}

lemma mem_pairs_of_lt {i j : ℕ} (hij : i < j) (ha : as[i]? = some a) (hb : as[j]? = some b) :
    (a, b) ∈ pairs as := by
  induction as generalizing i j with
  | nil => cases ha
  | cons c as ih =>
    rw [pairs, List.mem_append]
    cases j with
    | zero => exact absurd hij (Nat.not_lt_zero i)
    | succ j =>
      cases i with
      | zero =>
        obtain rfl := Option.some.inj ha
        exact .inl (List.mem_map_of_mem (List.mem_of_getElem? hb))
      | succ i => exact .inr (ih (Nat.lt_of_succ_lt_succ hij) ha hb)

lemma exists_lt_of_mem_pairs (h : (a, b) ∈ pairs as) :
    ∃ i j : ℕ, i < j ∧ as[i]? = some a ∧ as[j]? = some b := by
  induction as with
  | nil => cases h
  | cons c as ih =>
    rcases List.mem_append.mp h with hhead | htail
    · obtain ⟨b', hb, heq⟩ := List.mem_map.mp hhead
      cases heq
      obtain ⟨j, hj⟩ := List.mem_iff_getElem?.mp hb
      exact ⟨0, j + 1, Nat.succ_pos j, rfl, hj⟩
    · obtain ⟨i, j, hij, hi, hj⟩ := ih htail
      exact ⟨i + 1, j + 1, Nat.succ_lt_succ hij, hi, hj⟩

lemma pairwise_of_pairs {r : α → α → Prop} (h : ∀ a b, (a, b) ∈ pairs as → r a b) :
    as.Pairwise r := by
  refine List.pairwise_iff_getElem.mpr fun i j hi hj hij => h _ _ ?_
  exact mem_pairs_of_lt hij (List.getElem?_eq_getElem hi) (List.getElem?_eq_getElem hj)

lemma pairs_map (f : α → β) (as : List α) : pairs (as.map f) = (pairs as).map (Prod.map f f) := by
  induction as with
  | nil => rfl
  | cons a as ih =>
    rw [List.map_cons, pairs, pairs, ih, List.map_append, List.map_map, List.map_map]
    rfl

lemma ne_of_mem_pairs (has : as.Nodup) {ab : α × α} (h : ab ∈ pairs as) : ab.1 ≠ ab.2 := by
  induction as with
  | nil => cases h
  | cons a as ih =>
    obtain ⟨hnot, hrest⟩ := List.nodup_cons.mp has
    rcases List.mem_append.mp h with hhead | htail
    · obtain ⟨b, hb, rfl⟩ := List.mem_map.mp hhead
      intro hab
      obtain rfl : a = b := hab
      exact hnot hb
    · exact ih hrest htail

def steps (as : List α) : List (α × α) := as.zip as.tail

lemma steps_cons (h : as.head? = some b) : steps (a :: as) = (a, b) :: steps as := by
  cases as with
  | nil => cases h
  | cons c as =>
    obtain rfl := Option.some.inj h
    rfl

/-- The steps of a run of `n` elements, and of what goes on from where it leads. -/
lemma steps_run (g : ℕ → α) (n : ℕ) {rest : List α} (h : rest.head? = some (g n)) :
    steps ((List.range n).map g ++ rest) =
      (List.range n).map (fun k => (g k, g (k + 1))) ++ steps rest := by
  induction n generalizing rest with
  | zero => rfl
  | succ n ih =>
    rw [List.range_succ, List.map_append, List.map_append, List.append_assoc, List.append_assoc]
    refine (@ih (g n :: rest) rfl).trans ?_
    exact congrArg _ (steps_cons h)

lemma mem_steps_iff {ab : α × α} :
    ab ∈ steps as ↔ ∃ k, as[k]? = some ab.1 ∧ as[k + 1]? = some ab.2 := by
  rw [steps, List.mem_iff_getElem?]
  simp only [List.getElem?_zip_eq_some, List.getElem?_tail]

section

variable [LinearOrder κ]

variable {v : κ} {vs : List κ}

lemma getD_min?_le (hv : v ∈ vs) (d : κ) : vs.min?.getD d ≤ v := by
  cases h : vs.min? with
  | none =>
    rw [List.min?_eq_none_iff.mp h] at hv
    cases hv
  | some m => exact (List.min?_eq_some_iff.mp h).2 v hv

lemma le_getD_max? (hv : v ∈ vs) (d : κ) : v ≤ vs.max?.getD d := getD_min?_le (κ := κᵒᵈ) hv d

def Exceeds (limit : κ) (least : Option κ) : Prop := ∀ v, least = some v → limit ≤ v

variable {limit : κ}

lemma le_of_exceeds (h : Exceeds limit vs.min?) (hv : v ∈ vs) : limit ≤ v := by
  cases hmin : vs.min? with
  | none =>
    rw [List.min?_eq_none_iff.mp hmin] at hv
    cases hv
  | some m => exact (h m hmin).trans ((List.min?_eq_some_iff.mp hmin).2 v hv)

lemma exceeds_of_le (h : ∀ v ∈ vs, limit ≤ v) :
    Exceeds limit vs.min? := fun _ hmin => h _ (List.min?_mem hmin)

/-- `least < limit`, where none is infinite. -/
def below (least : Option κ) (limit : κ) : Bool := least.any (· < limit)

lemma exceeds_of_not_below {least : Option κ} (h : below least limit = false) :
    Exceeds limit least := by
  rintro v rfl
  exact not_lt.mp (of_decide_eq_false h)

lemma not_below_of_exceeds {least : Option κ} (h : Exceeds limit least) :
    below least limit = false := by
  cases least with
  | none => rfl
  | some v => exact decide_eq_false (not_lt.mpr (h v rfl))

end

end Taramandal.Lib.Pairs
