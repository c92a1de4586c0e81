import Mathlib.Data.List.GetD
import Taramandal.Lib.Ranking
import Taramandal.Studio.Lettering

/-! # The drones of a contour (`_allocate_by_length`)

Points are dealt out to contours by their length: one to each that has a length, as far as there
are enough, and the rest by largest remainder. The sum is always right, so the longest contours
never get their one point each by the last branch; they get it where the remainders happen to
give it. -/
set_option linter.unusedSectionVars false

namespace Taramandal.Studio.DroneBudget

open Lib.Ranking Studio.Generators Studio.Lettering

variable {K : Type} [LinearOrder K]

/-! ## The first of an order -/

section

variable (n : ℕ) (score : ℕ → K)

/-- The places by a score, the highest first; the sort is stable. -/
def descending : List ℕ :=
  (List.range n).insertionSort fun i j => score j ≤ score i

lemma descending_perm : (descending n score).Perm (List.range n) :=
  List.perm_insertionSort _ _

lemma descending_ranked : (descending n score).Pairwise (Outranks score) :=
  insertionSort_ranked List.pairwise_lt_range

end

/-- Of two places, one among the first and one not, the first outranks the other. -/
lemma outranks_of_take {n m i j : ℕ} {score : ℕ → K} (hi : i ∈ (descending n score).take m)
    (hj : j < n) (hnot : j ∉ (descending n score).take m) : Outranks score i j := by
  have hmem : j ∈ descending n score := (descending_perm n score).mem_iff.mpr (List.mem_range.mpr hj)
  have h := descending_ranked n score
  rw [← List.take_append_drop m (descending n score)] at h hmem
  exact (List.pairwise_append.mp h).2.2 i hi j ((List.mem_append.mp hmem).resolve_left hnot)

lemma le_of_outranks {score : ℕ → K} {i j : ℕ} (h : Outranks score i j) : score j ≤ score i :=
  h.elim le_of_lt fun h => h.1.ge

lemma not_outranks_both {score : ℕ → K} {i j : ℕ} (h : Outranks score i j) :
    ¬ Outranks score j i := fun h' => Outranks.irrefl i (h.trans h')

lemma lt_of_mem_take {n m i : ℕ} {score : ℕ → K} (hi : i ∈ (descending n score).take m) : i < n :=
  List.mem_range.mp ((descending_perm n score).mem_iff.mp (List.mem_of_mem_take hi))

lemma card_take {n m : ℕ} (hm : m ≤ n) (score : ℕ → K) :
    ((descending n score).take m).toFinset.card = m := by
  have hnodup : ((descending n score).take m).Nodup :=
    ((descending_perm n score).nodup_iff.mpr List.nodup_range).sublist (List.take_sublist _ _)
  rw [List.toFinset_card_of_nodup hnodup, List.length_take, (descending_perm n score).length_eq,
    List.length_range, min_eq_left hm]

/-! ## Dealing out -/

variable [Field K]

/-- `nonempty`. -/
def nonempty (lengths : List K) : List ℕ :=
  (List.range lengths.length).filter fun i => 1 / 10 ^ 12 < lengths.getD i 0

def longestParts (lengths : List K) (n : ℕ) : List ℕ :=
  (descending lengths.length (lengths.getD · 0)).take n

/-- `exact`. -/
def exactOf (lengths : List K) (remaining : ℕ) : List K :=
  lengths.map fun l => l / lengths.sum * remaining

/-- One more for each of the first parts of an order, round and round. -/
def handOut (order : List ℕ) (parts leftover : ℕ) (floors : List ℤ) : List ℤ :=
  (List.range leftover).foldl
    (fun floors k => floors.modify (order.getD (k % parts) 0) (· + 1)) floors

section Floor

variable [FloorRing K]

/-- Largest remainder: every share cut off, and what is left to the largest fractions. -/
def byRemainder (exact : List K) (remaining : ℕ) : List ℤ :=
  let floors := exact.map Int.floor
  let leftover := (remaining : ℤ) - floors.sum
  handOut (descending exact.length fun i => Int.fract (exact.getD i 0)) exact.length
    leftover.toNat floors

def allocateByLength (lengths : List K) (n : ℕ) : List ℤ :=
  let parts := lengths.length
  if parts = 0 then []
  else if lengths.sum ≤ 1 / 10 ^ 12 then
    (List.range parts).map fun i => ((n / parts : ℕ) : ℤ) + if i < n % parts then 1 else 0
  else
    let enough := (nonempty lengths).length ≤ n
    let counts := (List.range parts).map fun i =>
      if enough ∧ i ∈ nonempty lengths then (1 : ℤ) else 0
    let remaining := n - if enough then (nonempty lengths).length else 0
    let counts := if 0 < remaining then
      List.zipWith (· + ·) counts (byRemainder (exactOf lengths remaining) remaining) else counts
    if counts.sum ≠ n then
      (List.range parts).map fun i => if i ∈ longestParts lengths n then 1 else 0
    else counts

/-! ## By largest remainder -/

lemma handOut_getElem? {order : List ℕ} {parts leftover : ℕ} (hnodup : order.Nodup)
    (hlength : order.length = parts) (hle : leftover ≤ parts) (floors : List ℤ) (i : ℕ) :
    (handOut order parts leftover floors)[i]? =
      floors[i]?.map (· + if i ∈ order.take leftover then 1 else 0) := by
  induction leftover with
  | zero => simp [handOut]
  | succ k ih =>
    have hk : k < order.length := hlength ▸ hle
    have hnext : order.getD (k % parts) 0 = order[k] := by
      rw [Nat.mod_eq_of_lt hle, List.getD_eq_getElem _ _ hk]
    have hnew : order[k] ∉ order.take k := by
      intro hmem
      obtain ⟨j, hj, heq⟩ := List.mem_take_iff_getElem.mp hmem
      have := (hnodup.getElem_inj_iff).mp heq
      omega
    have hstep : handOut order parts (k + 1) floors =
        (handOut order parts k floors).modify order[k] (· + 1) := by
      unfold handOut
      rw [List.range_succ, List.foldl_append, List.foldl_cons, List.foldl_nil, hnext]
    have htake : ∀ j, j ∈ order.take (k + 1) ↔ j ∈ order.take k ∨ j = order[k] := by
      intro j
      rw [List.take_succ_eq_append_getElem hk, List.mem_append, List.mem_singleton]
    rw [hstep, List.getElem?_modify, ih (Nat.le_of_succ_le hle)]
    simp only [htake]
    cases floors[i]? with
    | none => rfl
    | some f =>
      by_cases heq : order[k] = i
      · subst heq
        simp [hnew]
      · simp [heq, Ne.symm heq]

lemma length_handOut (order : List ℕ) (parts leftover : ℕ) (floors : List ℤ) :
    (handOut order parts leftover floors).length = floors.length := by
  induction leftover with
  | zero => rfl
  | succ k ih =>
    unfold handOut at ih ⊢
    rw [List.range_succ, List.foldl_append, List.foldl_cons, List.foldl_nil, List.length_modify, ih]

lemma length_byRemainder (exact : List K) (remaining : ℕ) :
    (byRemainder exact remaining).length = exact.length :=
  (length_handOut ..).trans (List.length_map _)

def up (exact : List K) (remaining : ℕ) : Finset ℕ :=
  ((descending exact.length fun i => Int.fract (exact.getD i 0)).take
    ((remaining : ℤ) - (exact.map Int.floor).sum).toNat).toFinset

variable {exact : List K} {remaining : ℕ}

lemma lt_of_mem_up {i : ℕ} (hi : i ∈ up exact remaining) : i < exact.length :=
  lt_of_mem_take (List.mem_toFinset.mp hi)

lemma outranks_of_up {i j : ℕ} (hi : i ∈ up exact remaining) (hj : j < exact.length)
    (hnot : j ∉ up exact remaining) : Outranks (fun i => Int.fract (exact.getD i 0)) i j :=
  outranks_of_take (List.mem_toFinset.mp hi) hj fun h => hnot (List.mem_toFinset.mpr h)

variable [IsStrictOrderedRing K]

lemma sum_getD {α M : Type} [AddCommMonoid M] (f : α → M) (d : α) (xs : List α) :
    ∑ i ∈ Finset.range xs.length, f (xs.getD i d) = (xs.map f).sum := by
  induction xs with
  | nil => rfl
  | cons x xs ih =>
    rw [List.length_cons, Finset.sum_range_succ', List.map_cons, List.sum_cons, add_comm, ← ih]
    rfl

section

variable (hsum : exact.sum = remaining)
include hsum

lemma byRemainder_getD {i : ℕ} (hi : i < exact.length) : (byRemainder exact remaining).getD i 0 =
      ⌊exact.getD i 0⌋ + if i ∈ up exact remaining then 1 else 0 := by
  have hperm := descending_perm exact.length fun i => Int.fract (exact.getD i 0)
  obtain ⟨-, hle⟩ := left_mem hsum
  unfold byRemainder up
  rw [List.getD_eq_getElem?_getD, handOut_getElem? (hperm.nodup_iff.mpr List.nodup_range)
    (hperm.length_eq.trans List.length_range) (Int.toNat_le.mpr hle), List.getElem?_map,
    List.getElem?_eq_getElem hi, List.getD_eq_getElem _ _ hi]
  simp only [List.mem_toFinset, Option.map_some, Option.getD_some]

lemma card_up : ((up exact remaining).card : ℤ) = remaining - (exact.map Int.floor).sum := by
  obtain ⟨hnonneg, hle⟩ := left_mem hsum
  rw [up, card_take (Int.toNat_le.mpr hle), Int.toNat_of_nonneg hnonneg]

/-- There are as many of them as the fractions sum up to. -/
lemma sum_fract :
    ∑ i ∈ Finset.range exact.length, Int.fract (exact.getD i 0) = (up exact remaining).card := by
  have hcard : ((up exact remaining).card : K) = remaining - ((exact.map Int.floor).sum : ℤ) := by
    exact_mod_cast congrArg (Int.cast : ℤ → K) (card_up hsum)
  have hfloor := sum_getD (fun e : K => ((⌊e⌋ : ℤ) : K)) 0 exact
  have hself := sum_getD (fun e : K => e) 0 exact
  rw [List.map_id', hsum] at hself
  have hcast : (exact.map fun e => ((⌊e⌋ : ℤ) : K)).sum = ((exact.map Int.floor).sum : ℤ) := by
    rw [Int.cast_list_sum, List.map_map]
    rfl
  rw [hcard, ← hcast, ← hfloor, ← hself, ← Finset.sum_sub_distrib]
  rfl

/-- A whole share gets no more: the fractions of the others would not make up for it. -/
lemma fract_pos {i : ℕ} (hi : i ∈ up exact remaining) : 0 < Int.fract (exact.getD i 0) := by
  refine (Int.fract_nonneg _).lt_of_ne fun hzero => ?_
  have hrest : ∀ j ∈ Finset.range exact.length, j ∉ (up exact remaining).erase i →
      Int.fract (exact.getD j 0) = 0 := by
    intro j hj hnot
    by_cases hj' : j ∈ up exact remaining
    · obtain rfl : j = i := not_imp_comm.mp (fun hne => Finset.mem_erase.mpr ⟨hne, hj'⟩) hnot
      exact hzero.symm
    · have hle := le_of_outranks (outranks_of_up hi (Finset.mem_range.mp hj) hj')
      exact le_antisymm (hle.trans_eq hzero.symm) (Int.fract_nonneg _)
  have hsub : (up exact remaining).erase i ⊆ Finset.range exact.length := fun j hj =>
    Finset.mem_range.mpr (lt_of_mem_up (Finset.mem_of_mem_erase hj))
  have htotal := sum_fract hsum
  rw [← Finset.sum_subset hsub hrest] at htotal
  have hle := Finset.sum_le_card_nsmul ((up exact remaining).erase i)
    (fun j => Int.fract (exact.getD j 0)) 1 fun j _ => (Int.fract_lt_one _).le
  rw [htotal, nsmul_one, Nat.cast_le, Finset.card_erase_of_mem hi] at hle
  have := Finset.card_pos.mpr ⟨i, hi⟩
  omega

lemma abs_byRemainder_sub_lt {i : ℕ} (hi : i < exact.length) :
    |((byRemainder exact remaining).getD i 0 : K) - exact.getD i 0| < 1 := by
  have hsplit := Int.floor_add_fract (exact.getD i 0)
  rw [byRemainder_getD hsum hi, abs_lt]
  have hlow := Int.fract_nonneg (exact.getD i 0)
  have hhigh := Int.fract_lt_one (exact.getD i 0)
  split
  next hup =>
    have hpos := fract_pos hsum hup
    push_cast
    constructor <;> linarith
  next =>
    push_cast
    constructor <;> linarith

lemma sum_byRemainder : (byRemainder exact remaining).sum = remaining := by
  have hself := sum_getD (fun c : ℤ => c) 0 (byRemainder exact remaining)
  rw [List.map_id', length_byRemainder] at hself
  have hfloor := sum_getD Int.floor 0 exact
  have hup : ∑ i ∈ Finset.range exact.length, (if i ∈ up exact remaining then (1 : ℤ) else 0) =
      (up exact remaining).card := by
    rw [Finset.sum_boole, Finset.filter_mem_eq_inter, Finset.inter_eq_right.mpr fun i hi =>
      Finset.mem_range.mpr (lt_of_mem_up hi)]
  rw [← hself, Finset.sum_congr rfl fun i hi => byRemainder_getD hsum (Finset.mem_range.mp hi),
    Finset.sum_add_distrib, hfloor, hup, card_up hsum]
  omega

end

end Floor

/-! ## The budget -/

/-- Exactly `n` parts get one point each, and none that gets none is longer than one of them. -/
def OneEach (lengths : List K) (n : ℕ) (counts : List ℤ) : Prop :=
  ∃ chosen ⊆ Finset.range lengths.length, chosen.card = n ∧
    (∀ i ∈ chosen, ∀ j < lengths.length, j ∉ chosen → lengths.getD j 0 ≤ lengths.getD i 0) ∧
    ∀ i < lengths.length, counts.getD i 0 = if i ∈ chosen then 1 else 0

/-- What is promised of the counts of the parts. -/
structure Budgeted (lengths : List K) (n : ℕ) (counts : List ℤ) : Prop where
  length : counts.length = lengths.length
  nonneg : ∀ c ∈ counts, 0 ≤ c
  sum : counts.sum = n
  fair : nonempty lengths ≠ [] → (nonempty lengths).length ≤ n → ∀ i < lengths.length,
    (i ∈ nonempty lengths → 1 ≤ counts.getD i 0) ∧
      |(counts.getD i 0 : K) - (if i ∈ nonempty lengths then 1 else 0) -
        lengths.getD i 0 / lengths.sum * (n - (nonempty lengths).length : ℕ)| < 1
  oneEach : n < (nonempty lengths).length → OneEach lengths n counts

def share (lengths : List K) (n i : ℕ) : K := lengths.getD i 0 / lengths.sum * n

/-- Among the longest parts no share is a whole point above a smaller one that is below a point:
of what is left when the shares are cut off, the parts below a point then get theirs first. -/
def SharesNear (lengths : List K) (n : ℕ) : Prop :=
  ∀ i ∈ longestParts lengths n, ∀ j ∈ longestParts lengths n,
    1 ≤ share lengths n i → share lengths n j < 1 →
      share lengths n i - 1 < share lengths n j ∨ (share lengths n i - 1 = share lengths n j ∧ j < i)

section Budget

variable {lengths : List K} {n : ℕ}

lemma lt_of_mem_nonempty {i : ℕ} (hi : i ∈ nonempty lengths) : i < lengths.length :=
  List.mem_range.mp (List.mem_of_mem_filter hi)

def reserved (lengths : List K) (n : ℕ) : ℕ :=
  if (nonempty lengths).length ≤ n then (nonempty lengths).length else 0

lemma reserved_le (lengths : List K) (n : ℕ) : reserved lengths n ≤ n := by
  unfold reserved
  split
  next h => exact h
  next => exact Nat.zero_le n

lemma exactOf_getD {i : ℕ} (hi : i < lengths.length) (r : ℕ) :
    (exactOf lengths r).getD i 0 = lengths.getD i 0 / lengths.sum * r := by
  rw [exactOf, List.getD_eq_getElem _ _ (by rwa [List.length_map]), List.getElem_map,
    List.getD_eq_getElem _ _ hi]

variable [FloorRing K] [IsStrictOrderedRing K]

lemma sum_exactOf (htotal : lengths.sum ≠ 0) (r : ℕ) : (exactOf lengths r).sum = r := by
  unfold exactOf
  simp only [div_eq_mul_inv]
  rw [List.sum_map_mul_right, List.sum_map_mul_right, List.map_id', mul_inv_cancel₀ htotal, one_mul]

section

variable (lengths : List K)

lemma sum_reserved (n : ℕ) : ((List.range lengths.length).map fun i =>
    if (nonempty lengths).length ≤ n ∧ i ∈ nonempty lengths then (1 : ℤ) else 0).sum =
      reserved lengths n := by
  unfold reserved
  by_cases henough : (nonempty lengths).length ≤ n
  · have hcount := sum_indicator (M := ℤ) (fun i => decide (i ∈ nonempty lengths))
      (List.range lengths.length)
    have hnodup : (nonempty lengths).Nodup := List.nodup_range.filter _
    rw [countP_mem_range hnodup fun i => lt_of_mem_nonempty] at hcount
    simpa only [henough, true_and, if_true, decide_eq_true_eq] using hcount
  · simp [henough]

lemma byRemainder_zero : byRemainder (exactOf lengths 0) 0 = List.replicate lengths.length 0 := by
  simp [byRemainder, exactOf, handOut]

def rest (n : ℕ) : List ℤ :=
  byRemainder (exactOf lengths (n - reserved lengths n)) (n - reserved lengths n)

lemma length_rest (n : ℕ) : (rest lengths n).length = lengths.length :=
  (length_byRemainder ..).trans (List.length_map _)

end

/-- What is reserved, and the rest by largest remainder; the last branch is never taken. -/
lemma allocateByLength_eq (htotal : 1 / 10 ^ 12 < lengths.sum) :
    allocateByLength lengths n = List.zipWith (· + ·)
      ((List.range lengths.length).map fun i =>
        if (nonempty lengths).length ≤ n ∧ i ∈ nonempty lengths then 1 else 0)
      (rest lengths n) ∧
    (allocateByLength lengths n).sum = n := by
  have hpos : 0 < lengths.sum := lt_trans (by positivity) htotal
  have hne : lengths.length ≠ 0 := by
    intro hnil
    rw [List.length_eq_zero_iff.mp hnil] at hpos
    exact lt_irrefl _ hpos
  generalize hcounts : ((List.range lengths.length).map fun i =>
    if (nonempty lengths).length ≤ n ∧ i ∈ nonempty lengths then (1 : ℤ) else 0) = counts
  have hlength : counts.length = (rest lengths n).length := by
    rw [← hcounts, length_rest, List.length_map, List.length_range]
  have hboth : (if 0 < n - reserved lengths n then
      List.zipWith (· + ·) counts (rest lengths n) else counts) =
        List.zipWith (· + ·) counts (rest lengths n) := by
    split
    next => rfl
    next hzero =>
      have hnone : rest lengths n = List.replicate lengths.length 0 := by
        rw [rest, Nat.eq_zero_of_not_pos hzero, byRemainder_zero]
      rw [hnone] at hlength ⊢
      exact List.ext_getElem (by simp [hlength]) fun i _ _ => by simp
  have hsum : (List.zipWith (· + ·) counts (rest lengths n)).sum = n := by
    have hreserved := sum_reserved lengths n
    have hle := reserved_le lengths n
    rw [hcounts] at hreserved
    rw [← List.sum_add_sum_eq_sum_zipWith_of_length_eq _ _ hlength, hreserved, rest,
      sum_byRemainder (sum_exactOf hpos.ne' _)]
    omega
  have hall : allocateByLength lengths n = List.zipWith (· + ·) counts (rest lengths n) := by
    unfold rest reserved at hboth hsum ⊢
    unfold allocateByLength
    dsimp only
    rw [if_neg hne, if_neg (not_le.mpr htotal), hcounts, hboth]
    exact if_neg (not_not.mpr hsum)
  exact ⟨hall, hall ▸ hsum⟩

lemma allocateByLength_getD (htotal : 1 / 10 ^ 12 < lengths.sum) {i : ℕ}
    (hi : i < lengths.length) : (allocateByLength lengths n).getD i 0 =
      (if (nonempty lengths).length ≤ n ∧ i ∈ nonempty lengths then 1 else 0) +
        (rest lengths n).getD i 0 := by
  have hlt : i < (rest lengths n).length := by rwa [length_rest]
  rw [(allocateByLength_eq htotal).1]
  simp only [List.getD_eq_getElem?_getD, List.getElem?_zipWith, List.getElem?_map,
    List.getElem?_range hi, List.getElem?_eq_getElem hlt, Option.map_some, Option.getD_some]

lemma share_nonneg (hpos : ∀ l ∈ lengths, 0 ≤ l) (n i : ℕ) : 0 ≤ share lengths n i := by
  have hi : 0 ≤ lengths.getD i 0 := by
    rw [List.getD_eq_getElem?_getD]
    cases h : lengths[i]? with
    | none => exact le_rfl
    | some l => exact hpos l (List.mem_of_getElem? h)
  exact mul_nonneg (div_nonneg hi (List.sum_nonneg hpos)) (Nat.cast_nonneg n)

lemma byRemainder_nonneg (htotal : lengths.sum ≠ 0) (hpos : ∀ l ∈ lengths, 0 ≤ l) {r i : ℕ}
    (hi : i < lengths.length) : 0 ≤ (byRemainder (exactOf lengths r) r).getD i 0 := by
  have hi' : i < (exactOf lengths r).length := by rwa [exactOf, List.length_map]
  rw [byRemainder_getD (sum_exactOf htotal r) hi', exactOf_getD hi]
  have hfloor := Int.floor_nonneg.mpr (share_nonneg hpos r i)
  unfold share at hfloor
  split <;> omega

/-! ## Few points -/

def countAt (lengths : List K) (n i : ℕ) : ℤ := (allocateByLength lengths n).getD i 0

lemma length_allocateByLength (htotal : 1 / 10 ^ 12 < lengths.sum) :
    (allocateByLength lengths n).length = lengths.length := by
  rw [(allocateByLength_eq htotal).1, List.length_zipWith, length_rest, List.length_map,
    List.length_range, min_self]

lemma sum_countAt (htotal : 1 / 10 ^ 12 < lengths.sum) :
    ∑ i ∈ Finset.range lengths.length, countAt lengths n i = n := by
  have hsum := sum_getD (fun c : ℤ => c) 0 (allocateByLength lengths n)
  rwa [List.map_id', (allocateByLength_eq htotal).2, length_allocateByLength htotal] at hsum

lemma outranks_share (htotal : 0 < lengths.sum) (hn : 1 ≤ n) {i j : ℕ}
    (h : Outranks (lengths.getD · 0) i j) : Outranks (share lengths n) i j := by
  rcases h with hlt | ⟨heq, hij⟩
  · exact .inl (mul_lt_mul_of_pos_right (div_lt_div_of_pos_right hlt htotal)
      (Nat.cast_pos.mpr hn))
  · exact .inr ⟨congrArg (fun l => l / lengths.sum * (n : K)) heq, hij⟩

lemma up_before {i j : ℕ} (hi : i ∈ up (exactOf lengths n) n) (hj : j < lengths.length)
    (hnot : j ∉ up (exactOf lengths n) n) :
    Outranks (fun i => Int.fract (share lengths n i)) i j := by
  have hlength : (exactOf lengths n).length = lengths.length := List.length_map _
  have h := outranks_of_up hi (hlength ▸ hj) hnot
  simp only [Outranks, exactOf_getD (hlength ▸ lt_of_mem_up hi), exactOf_getD hj] at h
  exact h

variable (hpos : ∀ l ∈ lengths, 0 ≤ l) (hn : 1 ≤ n) (hfew : n < (nonempty lengths).length)

include hpos hfew in
lemma total_of_few : 1 / 10 ^ 12 < lengths.sum := by
  obtain ⟨i, hi⟩ := List.exists_mem_of_length_pos (Nat.zero_lt_of_lt hfew)
  have hlong : 1 / 10 ^ 12 < lengths.getD i 0 := of_decide_eq_true (List.mem_filter.mp hi).2
  rw [List.getD_eq_getElem _ _ (lt_of_mem_nonempty hi)] at hlong
  exact hlong.trans_le (List.single_le_sum hpos _ (List.getElem_mem _))

include hpos in
lemma fract_of_lt {i : ℕ} (h : share lengths n i < 1) :
    Int.fract (share lengths n i) = share lengths n i :=
  Int.fract_eq_self.mpr ⟨share_nonneg hpos n i, h⟩

include hpos in
lemma small_before {i j : ℕ} (hi : i ∈ up (exactOf lengths n) n) (hj : j < lengths.length)
    (hnot : j ∉ up (exactOf lengths n) n) (hilt : share lengths n i < 1)
    (hjlt : share lengths n j < 1) : Outranks (share lengths n) i j := by
  have h := up_before hi hj hnot
  simp only [Outranks, fract_of_lt hpos hilt, fract_of_lt hpos hjlt] at h
  exact h

include hpos hfew in
/-- With few points the shares are of all of them. -/
lemma countAt_few {i : ℕ} (hi : i < lengths.length) : countAt lengths n i =
    ⌊share lengths n i⌋ + if i ∈ up (exactOf lengths n) n then 1 else 0 := by
  have htotal := total_of_few hpos hfew
  have hne : lengths.sum ≠ 0 := ne_of_gt (lt_trans (by positivity) htotal)
  have hreserved : reserved lengths n = 0 := if_neg (not_le.mpr hfew)
  rw [countAt, allocateByLength_getD htotal hi, if_neg fun h => absurd h.1 (not_le.mpr hfew),
    zero_add, rest, hreserved, Nat.sub_zero,
    byRemainder_getD (sum_exactOf hne n) (by rwa [exactOf, List.length_map]), exactOf_getD hi]
  rfl

include hpos hfew in
lemma countAt_nonneg {i : ℕ} (hi : i < lengths.length) : 0 ≤ countAt lengths n i := by
  have hnonneg := Int.floor_nonneg.mpr (share_nonneg hpos n i)
  rw [countAt_few hpos hfew hi]
  split <;> omega

include hpos hfew in
lemma countAt_lt_one_iff {i : ℕ} (hi : i < lengths.length) : countAt lengths n i < 1 ↔
    share lengths n i < 1 ∧ i ∉ up (exactOf lengths n) n := by
  have hnonneg := Int.floor_nonneg.mpr (share_nonneg hpos n i)
  have hlt : ⌊share lengths n i⌋ < 1 ↔ share lengths n i < 1 := by
    rw [Int.floor_lt, Int.cast_one]
  rw [countAt_few hpos hfew hi, ← hlt]
  split
  next hup => exact iff_of_false (by omega) fun h => h.2 hup
  next hnot => rw [add_zero, and_iff_left hnot]

include hpos hn hfew in
/-- The longest parts get one point each just where no part gets two: a part that gets none is
below a point, and no longer than one that does get its point. -/
lemma oneEach_iff : OneEach lengths n (allocateByLength lengths n) ↔
    ∀ i < lengths.length, countAt lengths n i ≤ 1 := by
  have htotal := total_of_few hpos hfew
  constructor
  · rintro ⟨chosen, -, -, -, hcounts⟩ i hi
    rw [countAt, hcounts i hi]
    split <;> decide
  intro hone
  have hind : ∀ i < lengths.length,
      countAt lengths n i = if countAt lengths n i = 1 then 1 else 0 := by
    intro i hi
    have hle := hone i hi
    have hnonneg := countAt_nonneg hpos hfew hi
    split <;> omega
  refine ⟨(Finset.range lengths.length).filter (countAt lengths n · = 1), Finset.filter_subset _ _,
    ?_, fun i hi j hj hnot => ?_, fun i hi => ?_⟩
  · have hsum := sum_countAt (n := n) htotal
    rw [Finset.sum_congr rfl fun i hi => hind i (Finset.mem_range.mp hi), Finset.sum_boole] at hsum
    exact_mod_cast hsum
  · obtain ⟨hi, hi1⟩ := Finset.mem_filter.mp hi
    have hi := Finset.mem_range.mp hi
    have hne : countAt lengths n j ≠ 1 := fun h =>
      hnot (Finset.mem_filter.mpr ⟨Finset.mem_range.mpr hj, h⟩)
    obtain ⟨hjlt, hjup⟩ :=
      (countAt_lt_one_iff hpos hfew hj).mp ((hone j hj).lt_of_ne hne)
    by_contra hlonger
    have hji : Outranks (share lengths n) j i :=
      outranks_share (lt_trans (by positivity) htotal) hn (.inl (not_le.mp hlonger))
    have hilt : share lengths n i < 1 := (le_of_outranks hji).trans_lt hjlt
    have hiup : i ∈ up (exactOf lengths n) n := by
      by_contra hiup
      exact absurd hi1 ((countAt_lt_one_iff hpos hfew hi).mpr ⟨hilt, hiup⟩).ne
    exact not_outranks_both hji (small_before hpos hiup hj hjup hilt hjlt)
  · simp only [Finset.mem_filter, Finset.mem_range, hi, true_and]
    exact hind i hi

include hpos hn hfew in
lemma near_iff : SharesNear lengths n ↔ ∀ i < lengths.length, countAt lengths n i ≤ 1 := by
  have htotal := total_of_few hpos hfew
  have hbefore : ∀ i ∈ longestParts lengths n, ∀ j < lengths.length, j ∉ longestParts lengths n →
      Outranks (share lengths n) i j := fun i hi j hj hnot =>
    outranks_share (lt_trans (by positivity) htotal) hn (outranks_of_take hi hj hnot)
  have hcard : (longestParts lengths n).toFinset.card = n :=
    card_take (hfew.le.trans ((List.length_filter_le _ _).trans_eq List.length_range)) _
  have hsub : (longestParts lengths n).toFinset ⊆ Finset.range lengths.length := fun i hi =>
    Finset.mem_range.mpr (lt_of_mem_take (List.mem_toFinset.mp hi))
  have hfract : ∀ i, ⌊share lengths n i⌋ = 1 →
      Int.fract (share lengths n i) = share lengths n i - 1 := fun i hi => by
    rw [Int.fract, hi, Int.cast_one]
  constructor
  · intro hnear i hi
    by_contra htwo
    have hge : 1 ≤ share lengths n i := by
      by_contra hlt
      have hzero := Int.floor_eq_zero_iff.mpr ⟨share_nonneg hpos n i, not_le.mp hlt⟩
      rw [countAt_few hpos hfew hi, hzero] at htwo
      split at htwo <;> omega
    -- the points do not suffice for all of the longest and this second one
    obtain ⟨j, hj, hjlt⟩ : ∃ j ∈ longestParts lengths n, countAt lengths n j < 1 := by
      by_contra hnone
      push Not at hnone
      have hmany := Finset.card_nsmul_le_sum ((longestParts lengths n).toFinset.erase i)
        (fun j => countAt lengths n j) 1 fun j hj =>
          hnone j (List.mem_toFinset.mp (Finset.mem_of_mem_erase hj))
      have hpart := Finset.sum_le_sum_of_subset_of_nonneg
        (Finset.insert_subset (Finset.mem_range.mpr hi)
          ((Finset.erase_subset i _).trans hsub)) fun j hj _ =>
          countAt_nonneg hpos hfew (Finset.mem_range.mp hj)
      rw [Finset.sum_insert (Finset.notMem_erase i _), sum_countAt htotal] at hpart
      have hmost := Finset.pred_card_le_card_erase (s := (longestParts lengths n).toFinset) (a := i)
      rw [hcard] at hmost
      rw [nsmul_one] at hmany
      omega
    have hjlen := Finset.mem_range.mp (hsub (List.mem_toFinset.mpr hj))
    obtain ⟨hjsmall, hjup⟩ := (countAt_lt_one_iff hpos hfew hjlen).mp hjlt
    have hi' : i ∈ longestParts lengths n := by
      by_contra hnot
      exact absurd (hge.trans (le_of_outranks (hbefore j hj i hi hnot))) (not_le.mpr hjsmall)
    have hclose := hnear i hi' j hj hge hjsmall
    have hfloor : ⌊share lengths n i⌋ = 1 := by
      rw [Int.floor_eq_iff, Int.cast_one]
      rcases hclose with hlt | ⟨heq, -⟩ <;> constructor <;> linarith
    have hiup : i ∈ up (exactOf lengths n) n := by
      by_contra hnot
      rw [countAt_few hpos hfew hi, hfloor, if_neg hnot] at htwo
      omega
    have hfirst := up_before hiup hjlen hjup
    simp only [Outranks, hfract i hfloor, fract_of_lt hpos hjsmall] at hfirst
    rcases hclose with hlt | ⟨heq, hji⟩ <;> rcases hfirst with hlt' | ⟨heq', hij⟩
    · exact lt_asymm hlt hlt'
    · exact hlt.ne heq'
    · exact hlt'.ne heq.symm
    · exact lt_asymm hji hij
  · intro hone i hi j hj hge hlt
    have hilen := Finset.mem_range.mp (hsub (List.mem_toFinset.mpr hi))
    have hjlen := Finset.mem_range.mp (hsub (List.mem_toFinset.mpr hj))
    have hle := hone i hilen
    have hfloor : 1 ≤ ⌊share lengths n i⌋ := Int.le_floor.mpr (by exact_mod_cast hge)
    rw [countAt_few hpos hfew hilen] at hle
    obtain ⟨hfloor, hiup⟩ : ⌊share lengths n i⌋ = 1 ∧ i ∉ up (exactOf lengths n) n := by
      split at hle
      next => omega
      next hnot => exact ⟨by omega, hnot⟩
    have hjup : j ∈ up (exactOf lengths n) n := by
      by_contra hjup
      have hj0 := (countAt_lt_one_iff hpos hfew hjlen).mpr ⟨hlt, hjup⟩
      -- another part got its point, one that is as long and later
      obtain ⟨k, hk, hknot, hk0⟩ : ∃ k ∈ Finset.range lengths.length,
          k ∉ (longestParts lengths n).toFinset ∧ countAt lengths n k ≠ 0 := by
        by_contra hnone
        push Not at hnone
        have hall := Finset.sum_subset hsub hnone
        have hmost := Finset.sum_le_card_nsmul ((longestParts lengths n).toFinset.erase j)
          (fun k => countAt lengths n k) 1 fun k hk =>
            hone k (Finset.mem_range.mp (hsub (Finset.mem_of_mem_erase hk)))
        rw [sum_countAt htotal, ← Finset.add_sum_erase _ _ (List.mem_toFinset.mpr hj)] at hall
        rw [Finset.card_erase_of_mem (List.mem_toFinset.mpr hj), hcard, nsmul_one] at hmost
        omega
      have hk := Finset.mem_range.mp hk
      have hafter := hbefore j hj k hk fun h => hknot (List.mem_toFinset.mpr h)
      have hksmall : share lengths n k < 1 := (le_of_outranks hafter).trans_lt hlt
      have hkup : k ∈ up (exactOf lengths n) n := by
        by_contra hnot
        have := (countAt_lt_one_iff hpos hfew hk).mpr ⟨hksmall, hnot⟩
        have := countAt_nonneg hpos hfew hk
        omega
      exact not_outranks_both hafter (small_before hpos hkup hjlen hjup hksmall hlt)
    have hfirst := up_before hjup hilen hiup
    simp only [Outranks, hfract i hfloor, fract_of_lt hpos hlt] at hfirst
    exact hfirst.imp_right fun h => ⟨h.1.symm, h.2⟩

/-! ## The promise -/

theorem budgeted_iff (hne : lengths ≠ []) (hpos : ∀ l ∈ lengths, 0 ≤ l) (hn : 1 ≤ n) :
    Budgeted lengths n (allocateByLength lengths n) ↔
      (n < (nonempty lengths).length → SharesNear lengths n) := by
  refine ⟨fun h hfew => (near_iff hpos hn hfew).mpr ((oneEach_iff hpos hn hfew).mp
    (h.oneEach hfew)), fun h => ?_⟩
  have hparts : lengths.length ≠ 0 := fun hnil => hne (List.length_eq_zero_iff.mp hnil)
  rcases le_or_gt lengths.sum (1 / 10 ^ 12) with hsmall | htotal
  · -- no part has a length
    have heven : allocateByLength lengths n = (List.range lengths.length).map fun i =>
        ((n / lengths.length : ℕ) : ℤ) + if i < n % lengths.length then 1 else 0 := by
      unfold allocateByLength
      dsimp only
      rw [if_neg hparts, if_pos hsmall]
    have hempty : nonempty lengths = [] := by
      refine List.filter_eq_nil_iff.mpr fun i hi hlong => ?_
      have hi := List.mem_range.mp hi
      rw [List.getD_eq_getElem _ _ hi] at hlong
      exact absurd ((of_decide_eq_true hlong).trans_le
        (List.single_le_sum hpos _ (List.getElem_mem hi))) (not_lt.mpr hsmall)
    refine ⟨by rw [heven, List.length_map, List.length_range], fun c hc => ?_, ?_,
      fun hsome => absurd hempty hsome, fun hfew => ?_⟩
    · rw [heven] at hc
      obtain ⟨i, -, rfl⟩ := List.mem_map.mp hc
      exact add_nonneg (Int.natCast_nonneg _) (by split <;> decide)
    · have hcount := sum_indicator (M := ℤ) (fun i => decide (i ∈ List.range (n % lengths.length)))
        (List.range lengths.length)
      rw [countP_mem_range List.nodup_range fun i hi => (List.mem_range.mp hi).trans
        (Nat.mod_lt n (Nat.pos_of_ne_zero hparts)), List.length_range] at hcount
      simp only [List.mem_range, decide_eq_true_eq] at hcount
      rw [heven, List.sum_map_add, hcount, List.map_const', List.sum_replicate, List.length_range,
        nsmul_eq_mul]
      exact_mod_cast Nat.div_add_mod n lengths.length
    · rw [hempty] at hfew
      exact absurd hfew (Nat.not_lt_zero n)
  · have hsum : lengths.sum ≠ 0 := ne_of_gt (lt_trans (by positivity) htotal)
    have hlength := length_allocateByLength (n := n) htotal
    refine ⟨hlength, fun c hc => ?_, (allocateByLength_eq htotal).2, fun _ henough i hi => ?_,
      fun hfew => (oneEach_iff hpos hn hfew).mpr ((near_iff hpos hn hfew).mp (h hfew))⟩
    · obtain ⟨i, hi, rfl⟩ := List.mem_iff_getElem.mp hc
      have hget := allocateByLength_getD (n := n) htotal (hlength ▸ hi)
      have hrest := byRemainder_nonneg hsum hpos (r := n - reserved lengths n) (hlength ▸ hi)
      rw [List.getD_eq_getElem _ _ hi, rest] at hget
      rw [hget]
      split <;> omega
    · have hreserved : reserved lengths n = (nonempty lengths).length := if_pos henough
      have hget := allocateByLength_getD (n := n) htotal hi
      have hrest := byRemainder_nonneg hsum hpos (r := n - (nonempty lengths).length) hi
      have hnear := abs_byRemainder_sub_lt (sum_exactOf hsum (n - (nonempty lengths).length))
        (i := i) (by rwa [exactOf, List.length_map])
      simp only [rest, hreserved, henough, true_and] at hget
      rw [exactOf_getD hi] at hnear
      refine ⟨fun hmem => ?_, ?_⟩
      · rw [if_pos hmem] at hget
        omega
      · rw [hget]
        push_cast
        rwa [add_sub_cancel_left]

def oneLong : List ℚ := [10, 1, 1, 1]

theorem budgeted_iff_oneLong : Budgeted oneLong 7 (allocateByLength oneLong 7) ↔
    (7 < (nonempty oneLong).length → SharesNear oneLong 7) :=
  budgeted_iff (by decide) (by decide +kernel) (by decide)

/-- Of two drones both go to the long one. -/
theorem long_part_gets_both : ¬ Budgeted oneLong 2 (allocateByLength oneLong 2) := by
  have hcounts : allocateByLength oneLong 2 = [2, 0, 0, 0] := by decide +kernel
  intro h
  obtain ⟨chosen, -, -, -, hone⟩ := h.oneEach (by decide +kernel)
  have hfirst := hone 0 (by decide)
  rw [hcounts] at hfirst
  split at hfirst <;> cases hfirst

end Budget

end Taramandal.Studio.DroneBudget
