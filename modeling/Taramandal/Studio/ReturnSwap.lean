import Taramandal.Studio.MorphLayers

/-! # The layers of the return swap

The drones are given the lowest free layer one after the other. So those whose ways to the pads
cross are on different layers, and no drone is higher than the number of those that cross its
own way. -/
namespace Taramandal.Studio.ReturnSwap

open Core.Numbers Studio.Layout Studio.Formations Studio.Morphs Studio.Plans
open Studio.MorphLayers

lemma mem_of_lt_firstFree {taken : List ℤ} {fuel : ℕ} {c d : ℤ} (hc : c ≤ d)
    (hd : d < firstFree taken fuel c) : d ∈ taken := by
  induction fuel generalizing c with
  | zero => exact absurd hd (not_lt.mpr hc)
  | succ fuel ih =>
    rw [firstFree] at hd
    split at hd
    next hmem =>
      rcases hc.eq_or_lt with rfl | hlt
      · exact hmem
      · exact ih hlt hd
    next => exact absurd hd (not_lt.mpr hc)

/-- All layers below it are taken, each by another number. -/
lemma firstFree_le (taken : List ℤ) (fuel : ℕ) : firstFree taken fuel 0 ≤ taken.length := by
  have hnonneg := le_firstFree taken fuel 0
  have hnodup : ((List.range (firstFree taken fuel 0).toNat).map Nat.cast : List ℤ).Nodup :=
    List.nodup_range.map Nat.cast_injective
  have hsub : ((List.range (firstFree taken fuel 0).toNat).map Nat.cast : List ℤ) ⊆ taken := by
    intro l hl
    obtain ⟨d, hd, rfl⟩ := List.mem_map.mp hl
    have hlt : (d : ℤ) < firstFree taken fuel 0 := Int.lt_toNat.mp (List.mem_range.mp hd)
    exact mem_of_lt_firstFree (Int.natCast_nonneg d) hlt
  have hlength := (List.subperm_of_subset hnodup hsub).length_le
  rw [List.length_map, List.length_range] at hlength
  omega

section

variable {K : Type} [Field K] [LinearOrder K] [Sqrt K] {spots homes : List (Point K)} {i j : ℕ}

lemma mem_returnConflicts : j ∈ returnConflicts spots homes i ↔
    j ∈ conflicts (spots.zip homes) layerClearance i ∧
      ¬(still spots homes i = true ∧ still spots homes j = true) := by
  unfold returnConflicts
  rw [List.mem_filter, Bool.not_eq_true', ← Bool.not_eq_true, Bool.and_eq_true]

lemma mem_returnConflicts_comm :
    j ∈ returnConflicts spots homes i ↔ i ∈ returnConflicts spots homes j := by
  rw [mem_returnConflicts, mem_returnConflicts, mem_conflicts_comm, and_comm (a := still _ _ i = _)]

/-- Those placed so far differ from all they conflict with, and none is higher than it has
conflicts. -/
structure Coloured (spots homes : List (Point K)) (placed : List ℕ) (layer : List ℤ) : Prop where
  length : layer.length = spots.length
  within : ∀ i ∈ placed,
    0 ≤ layerOf layer i ∧ layerOf layer i ≤ (returnConflicts spots homes i).length
  apart : ∀ i ∈ placed, ∀ j ∈ placed, j ∈ returnConflicts spots homes i →
    layerOf layer i ≠ layerOf layer j

/-- A step of `returnLayers`. -/
def place (spots homes : List (Point K)) (layer : List ℤ) (i : ℕ) : List ℤ :=
  let taken := (returnConflicts spots homes i).map (layerOf layer)
  layer.set i (firstFree taken (taken.length + 1) 0)

variable {placed : List ℕ} {layer : List ℤ}

lemma Coloured.place (h : Coloured spots homes placed layer) (hi : i < spots.length)
    (hnew : i ∉ placed) : Coloured spots homes (i :: placed) (place spots homes layer i) := by
  let taken := (returnConflicts spots homes i).map (layerOf layer)
  have hself : layerOf (ReturnSwap.place spots homes layer i) i =
      firstFree taken (taken.length + 1) 0 := layerOf_set_self (h.length.symm ▸ hi) _
  have hother : ∀ {k}, k ∈ placed → layerOf (ReturnSwap.place spots homes layer i) k =
      layerOf layer k := fun hk => layerOf_set_ne (ne_of_mem_of_not_mem hk hnew) _
  have hfree : ∀ {k}, k ∈ placed → k ∈ returnConflicts spots homes i →
      firstFree taken (taken.length + 1) 0 ≠ layerOf layer k := fun _ hconflict heq =>
    firstFree_notMem taken 0 (heq ▸ List.mem_map_of_mem hconflict)
  refine ⟨(List.length_set ..).trans h.length, fun k hcons => ?_,
    fun k hcons m hcons' hconflict => ?_⟩
  · rcases List.mem_cons.mp hcons with rfl | hk
    · rw [hself]
      exact ⟨le_firstFree _ _ _, (firstFree_le _ _).trans_eq (by rw [List.length_map])⟩
    · rw [hother hk]
      exact h.within k hk
  · rcases List.mem_cons.mp hcons with rfl | hk
    · rcases List.mem_cons.mp hcons' with rfl | hm
      · exact absurd rfl (mem_conflicts.mp (mem_returnConflicts.mp hconflict).1).1
      · rw [hself, hother hm]
        exact hfree hm hconflict
    · rcases List.mem_cons.mp hcons' with rfl | hm
      · rw [hself, hother hk]
        exact (hfree hk (mem_returnConflicts_comm.mp hconflict)).symm
      · rw [hother hk, hother hm]
        exact h.apart k hk m hm hconflict

lemma Coloured.run {order : List ℕ} (h : Coloured spots homes placed layer)
    (horder : ∀ i ∈ order, i < spots.length) (hnodup : order.Nodup)
    (hnew : ∀ i ∈ order, i ∉ placed) : Coloured spots homes (order.reverse ++ placed)
      (order.foldl (ReturnSwap.place spots homes) layer) := by
  induction order generalizing placed layer with
  | nil => exact h
  | cons i order ih =>
    obtain ⟨hi, hrest⟩ := List.nodup_cons.mp hnodup
    rw [List.reverse_cons, List.append_assoc, List.foldl_cons]
    refine ih (h.place (horder i List.mem_cons_self) (hnew i List.mem_cons_self))
      (fun k hk => horder k (List.mem_cons_of_mem _ hk)) hrest fun k hk hmem => ?_
    rcases List.mem_cons.mp hmem with rfl | hmem
    · exact hi hk
    · exact hnew k (List.mem_cons_of_mem _ hk) hmem

/-- In the end every drone is placed. -/
lemma returnLayers_coloured (spots homes : List (Point K)) :
    Coloured spots homes (List.range spots.length) (returnLayers spots homes) := by
  have hperm := List.perm_insertionSort
    (moreConstrained fun i => (returnConflicts spots homes i).length) (List.range spots.length)
  have hstart : Coloured spots homes [] (List.replicate spots.length (-1)) :=
    ⟨List.length_replicate, fun _ hi => absurd hi List.not_mem_nil,
      fun _ hi => absurd hi List.not_mem_nil⟩
  have h := hstart.run (fun i hi => List.mem_range.mp (hperm.mem_iff.mp hi))
    (hperm.nodup_iff.mpr List.nodup_range) fun _ _ => List.not_mem_nil
  have hall : ∀ i ∈ List.range spots.length, i ∈ (byConstraint
      (fun i => (returnConflicts spots homes i).length) (List.range spots.length)).reverse ++ [] :=
    fun i hi => List.mem_append_left _ (List.mem_reverse.mpr (hperm.mem_iff.mpr hi))
  exact ⟨h.length, fun i hi => h.within i (hall i hi),
    fun i hi j hj => h.apart i (hall i hi) j (hall j hj)⟩

end

/-! ## What crosses -/

variable (spots homes : List (Point ℝ))

/-- The two come within the clearance on their ways home, and do not both stay where they are. -/
def Crosses (i j : ℕ) : Prop :=
  i ≠ j ∧ (∃ p q, (spots.zip homes)[i]? = some p ∧ (spots.zip homes)[j]? = some q ∧ Meet p q) ∧
    ¬(still spots homes i = true ∧ still spots homes j = true)

/-- Their offset does not change, or changes by more than the numbers are rounded. -/
def SteadyPair (i j : ℕ) : Prop :=
  ∃ p q, (spots.zip homes)[i]? = some p ∧ (spots.zip homes)[j]? = some q ∧ Steady p q

open Classical in
noncomputable def crossings (i : ℕ) : ℕ :=
  ((Finset.range spots.length).filter (Crosses spots homes i)).card

noncomputable def mostCrossings : ℕ :=
  (Finset.range spots.length).sup (crossings spots homes)

variable {spots homes} {i j : ℕ}

lemma footOf_mem (p q : Way ℝ) : footOf p q ∈ Set.Icc (0 : ℝ) 1 := by
  unfold footOf
  split
  · exact ⟨le_rfl, zero_le_one⟩
  · exact ⟨le_max_left _ _, max_le zero_le_one (min_le_left _ _)⟩

lemma Crosses.symm (h : Crosses spots homes i j) : Crosses spots homes j i := by
  obtain ⟨hne, ⟨p, q, hp, hq, hmeet⟩, hstill⟩ := h
  exact ⟨hne.symm, ⟨q, p, hq, hp, hmeet.symm⟩, fun h => hstill h.symm⟩

lemma crosses_of_mem (h : j ∈ returnConflicts spots homes i) : Crosses spots homes i j := by
  -- of two, the one with the lower number comes first
  have hlt : ∀ {i j}, i < j → j ∈ returnConflicts spots homes i → Crosses spots homes i j := by
    intro i j hij h
    obtain ⟨hconflict, hstill⟩ := mem_returnConflicts.mp h
    obtain ⟨p, q, hp, hq, hclose⟩ := exists_of_atPair hij (mem_conflicts.mp hconflict).2
    refine ⟨hij.ne, ⟨p, q, hp, hq, footOf p q, footOf_mem p q, ?_⟩, hstill⟩
    rw [← crossing_eq]
    exact of_decide_eq_true hclose
  rcases Nat.lt_or_gt_of_ne (mem_conflicts.mp (mem_returnConflicts.mp h).1).1 with hgt | hij
  · exact (hlt hgt (mem_returnConflicts_comm.mp h)).symm
  · exact hlt hij h

lemma mem_of_crosses (h : Crosses spots homes i j) (hsteady : SteadyPair spots homes i j) :
    j ∈ returnConflicts spots homes i := by
  obtain ⟨hne, ⟨p, q, hp, hq, hmeet⟩, hstill⟩ := h
  obtain ⟨p', q', hp', hq', hpq⟩ := hsteady
  obtain rfl := Option.some.inj (hp.symm.trans hp')
  obtain rfl := Option.some.inj (hq.symm.trans hq')
  refine mem_returnConflicts.mpr ⟨?_, hstill⟩
  rcases Nat.lt_or_gt_of_ne hne with hij | hgt
  · exact mem_conflicts_of_crossing hij hp hq (crossing_lt_of_meet hpq hmeet)
  · exact mem_conflicts_comm.mp
      (mem_conflicts_of_crossing hgt hq hp (crossing_lt_of_meet hpq.symm hmeet.symm))

lemma length_returnConflicts_le (hi : i < spots.length) :
    (returnConflicts spots homes i).length ≤ mostCrossings spots homes := by
  classical
  have hnodup : (returnConflicts spots homes i).Nodup :=
    (List.nodup_range.filter _).filter _
  rw [← List.toFinset_card_of_nodup hnodup]
  refine le_trans (Finset.card_le_card fun j hj => ?_)
    (Finset.le_sup (f := crossings spots homes) (Finset.mem_range.mpr hi))
  have hcrosses := crosses_of_mem (List.mem_toFinset.mp hj)
  obtain ⟨-, ⟨-, q, -, hq, -⟩, -⟩ := id hcrosses
  have hj' := (List.getElem?_eq_some_iff.mp (List.getElem?_zip_eq_some.mp hq).1).1
  exact Finset.mem_filter.mpr ⟨Finset.mem_range.mpr hj', hcrosses⟩

/-- Drones whose ways home cross are on different layers, and there is at most one layer more
than one drone has crossings. -/
theorem returnLayers_separate (spots homes : List (Point ℝ)) :
    (∀ i j, Crosses spots homes i j → SteadyPair spots homes i j →
      layerOf (returnLayers spots homes) i ≠ layerOf (returnLayers spots homes) j) ∧
    (returnLayers spots homes).toFinset.card ≤ mostCrossings spots homes + 1 := by
  have h := returnLayers_coloured spots homes
  constructor
  · intro i j hcrosses hsteady
    obtain ⟨-, ⟨p, q, hp, hq, -⟩, -⟩ := id hcrosses
    have hplace : ∀ {k w}, (spots.zip homes)[k]? = some w → k ∈ List.range spots.length :=
      fun hw => List.mem_range.mpr
        (List.getElem?_eq_some_iff.mp (List.getElem?_zip_eq_some.mp hw).1).1
    exact h.apart i (hplace hp) j (hplace hq) (mem_of_crosses hcrosses hsteady)
  · have hsub : (returnLayers spots homes).toFinset ⊆
        Finset.Icc (0 : ℤ) (mostCrossings spots homes) := by
      intro l hl
      obtain ⟨i, hi⟩ := List.mem_iff_getElem?.mp (List.mem_toFinset.mp hl)
      have hlt : i < spots.length := h.length ▸ (List.getElem?_eq_some_iff.mp hi).1
      have hlayer : layerOf (returnLayers spots homes) i = l := by
        rw [layerOf, List.getD_eq_getElem?_getD, hi, Option.getD_some]
      obtain ⟨hlow, hhigh⟩ := hlayer ▸ h.within i (List.mem_range.mpr hlt)
      refine Finset.mem_Icc.mpr ⟨hlow, hhigh.trans ?_⟩
      exact_mod_cast length_returnConflicts_le hlt
    refine (Finset.card_le_card hsub).trans_eq ?_
    rw [Int.card_Icc]
    omega

end Taramandal.Studio.ReturnSwap
