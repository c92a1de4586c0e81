import Taramandal.Lib.Approach
import Taramandal.Lib.Precedence
import Taramandal.Studio.DirectMorphs

/-! # The layers of a morph

A layering fails only where the drones that share a column would have to be above each other in
a circle. Otherwise it keeps them in order, gives drones whose ways cross different layers, and
the three legs that are flown at the layers keep every two drones apart. -/
namespace Taramandal.Studio.MorphLayers

open Lib.Approach Lib.Pairs Lib.Precedence Core.Numbers Studio.Layout Studio.Formations
open Studio.Morphs Studio.Sequencer Studio.Plans Studio.Separation Studio.DirectMorphs

lemma mem_of_firstFree {taken : List ℤ} {fuel : ℕ} {c : ℤ} (h : firstFree taken fuel c ∈ taken)
    {d : ℕ} (hd : d ≤ fuel) : c + d ∈ taken := by
  induction fuel generalizing c d with
  | zero =>
    obtain rfl := Nat.le_zero.mp hd
    rwa [Nat.cast_zero, add_zero]
  | succ fuel ih =>
    rw [firstFree] at h
    split at h
    · next hc =>
      cases d with
      | zero => simpa using hc
      | succ d =>
        have hnext := ih h (Nat.le_of_succ_le_succ hd)
        have hstep : c + 1 + (d : ℤ) = c + (d + 1 : ℕ) := by omega
        rwa [hstep] at hnext
    · next hc => exact absurd h hc

lemma firstFree_notMem (taken : List ℤ) (c : ℤ) : firstFree taken (taken.length + 1) c ∉ taken := by
  intro h
  have hnodup : ((List.range (taken.length + 2)).map fun d : ℕ => c + (d : ℤ)).Nodup := by
    refine List.nodup_range.map fun d e hde => ?_
    have : c + (d : ℤ) = c + e := hde
    omega
  have hsub : ((List.range (taken.length + 2)).map fun d : ℕ => c + (d : ℤ)) ⊆ taken := by
    intro l hl
    obtain ⟨d, hd, rfl⟩ := List.mem_map.mp hl
    exact mem_of_firstFree h (Nat.le_of_lt_succ (List.mem_range.mp hd))
  have hlength := (List.subperm_of_subset hnodup hsub).length_le
  rw [List.length_map, List.length_range] at hlength
  omega

variable {i : ℕ}

lemma le_foldl_max_of_mem (f : ℕ → ℤ) {is : List ℕ} (hi : i ∈ is) (c : ℤ) :
    f i ≤ is.foldl (fun c i => max c (f i)) c := by
  induction is generalizing c with
  | nil => cases hi
  | cons k is ih =>
    rw [List.foldl_cons]
    rcases List.mem_cons.mp hi with rfl | hi
    · exact (le_max_right _ _).trans (le_foldl_max f is _)
    · exact ih hi _

lemma layerOf_set_self {layer : List ℤ} (hi : i < layer.length) (l : ℤ) :
    layerOf (layer.set i l) i = l := by
  rw [layerOf, List.getD_eq_getElem?_getD, List.getElem?_set_self hi, Option.getD_some]

lemma layerOf_set_ne {layer : List ℤ} {k : ℕ} (hk : k ≠ i) (l : ℤ) :
    layerOf (layer.set i l) k = layerOf layer k := by
  rw [layerOf, layerOf, List.getD_eq_getElem?_getD, List.getD_eq_getElem?_getD,
    List.getElem?_set_ne hk.symm]

section Layering

variable {K : Type} [Field K] [LinearOrder K]

variable {α : Type}

lemma atPair_comm (f : α → α → Bool) (as : List α) (i j : ℕ) :
    atPair f as i j = atPair f as j i := by
  unfold atPair
  rw [min_comm, max_comm]

variable {i j : ℕ}

variable {as : List α} {s : Layering}

lemma atPair_eq (f : α → α → Bool) {a b : α} (hij : i < j) (ha : as[i]? = some a)
    (hb : as[j]? = some b) : atPair f as i j = f a b := by
  unfold atPair
  rw [min_eq_left hij.le, max_eq_right hij.le, ha, hb]

lemma exists_of_atPair {f : α → α → Bool} (hij : i < j)
    (h : atPair f as i j = true) : ∃ a b, as[i]? = some a ∧ as[j]? = some b ∧ f a b = true := by
  unfold atPair at h
  rw [min_eq_left hij.le, max_eq_right hij.le] at h
  split at h
  · next a b ha hb => exact ⟨a, b, ha, hb, h⟩
  · cases h

variable [Sqrt K] {start goal : List (Point K)} {clearance : K}

def flatDist (p q : Point K) : K := hypot2 (p.x - q.x) (p.y - q.y)

omit [LinearOrder K] in
lemma flatDist_comm (p q : Point K) : flatDist p q = flatDist q p := by
  unfold flatDist hypot2
  congr 1
  ring

/-- Among these points the one has to be below the other: they share a column, and it is lower,
or at the same height and earlier. -/
def Under (pts : List (Point K)) (lo hi : ℕ) : Prop :=
  ∃ p q, pts[lo]? = some p ∧ pts[hi]? = some q ∧ flatDist p q < designSeparation ∧
    (q.z < p.z ∨ (q.z = p.z ∧ lo < hi))

def MustStayBelow (start goal : List (Point K)) (lo hi : ℕ) : Prop :=
  Under start lo hi ∨ Under goal lo hi

variable {hi lo : ℕ}

section

variable {pts : List (Point K)}

lemma ne_of_under (h : Under pts lo hi) : lo ≠ hi := by
  rintro rfl
  obtain ⟨p, q, hp, hq, -, hover⟩ := h
  obtain rfl := Option.some.inj (hp.symm.trans hq)
  rcases hover with hlt | ⟨-, hlt⟩
  · exact lt_irrefl _ hlt
  · exact lt_irrefl _ hlt

lemma not_under (h : pts.Pairwise fun p q => designSeparation ≤ flatDist p q) :
    ¬ Under pts lo hi := by
  intro hunder
  have hne := ne_of_under hunder
  obtain ⟨p, q, hp, hq, hclose, -⟩ := hunder
  obtain ⟨hlo, rfl⟩ := List.getElem?_eq_some_iff.mp hp
  obtain ⟨hhi, rfl⟩ := List.getElem?_eq_some_iff.mp hq
  rcases Nat.lt_or_gt_of_ne hne with hlt | hgt
  · exact not_le.mpr hclose (List.pairwise_iff_getElem.mp h lo hi hlo hhi hlt)
  · rw [flatDist_comm] at hclose
    exact not_le.mpr hclose (List.pairwise_iff_getElem.mp h hi lo hhi hlo hgt)

lemma isOver_iff : isOver pts hi lo = true ↔ Under pts lo hi := by
  unfold isOver
  rw [Bool.and_eq_true, Bool.and_eq_true, decide_eq_true_eq, beq_iff_eq]
  constructor
  · rintro ⟨⟨hne, hcolumn⟩, hover⟩
    rcases Nat.lt_or_gt_of_ne hne with hlt | hgt
    · obtain ⟨q, p, hq, hp, hclose⟩ := exists_of_atPair hlt hcolumn
      rw [atPair_eq firstOver hlt hq hp, decide_eq_true hlt] at hover
      refine ⟨p, q, hp, hq, ?_, .inl (of_decide_eq_true hover)⟩
      rw [flatDist_comm]
      exact of_decide_eq_true hclose
    · rw [atPair_comm] at hcolumn
      obtain ⟨p, q, hp, hq, hclose⟩ := exists_of_atPair hgt hcolumn
      rw [atPair_comm, atPair_eq firstOver hgt hp hq, decide_eq_false (Nat.lt_asymm hgt)] at hover
      refine ⟨p, q, hp, hq, of_decide_eq_true hclose, ?_⟩
      rcases lt_or_eq_of_le (not_lt.mp (of_decide_eq_false hover)) with hz | hz
      · exact .inl hz
      · exact .inr ⟨hz, hgt⟩
  · intro h
    have hne : hi ≠ lo := (ne_of_under h).symm
    obtain ⟨p, q, hp, hq, hclose, hover⟩ := h
    rcases Nat.lt_or_gt_of_ne hne with hlt | hgt
    · have hz : q.z < p.z := hover.resolve_right fun h => Nat.lt_asymm hlt h.2
      rw [flatDist_comm] at hclose
      rw [atPair_eq sameColumn hlt hq hp, atPair_eq firstOver hlt hq hp, decide_eq_true hlt]
      exact ⟨⟨hne, decide_eq_true hclose⟩, decide_eq_true hz⟩
    · have hz : ¬ p.z < q.z := by
        rcases hover with hz | hz
        · exact lt_asymm hz
        · exact hz.1.not_gt
      rw [atPair_comm sameColumn, atPair_comm firstOver, atPair_eq sameColumn hgt hp hq,
        atPair_eq firstOver hgt hp hq, decide_eq_false (Nat.lt_asymm hgt)]
      exact ⟨⟨hne, decide_eq_true hclose⟩, decide_eq_false hz⟩

lemma under_lt (h : Under pts lo hi) : lo < pts.length ∧ hi < pts.length := by
  obtain ⟨p, q, hp, hq, -, -⟩ := h
  exact ⟨(List.getElem?_eq_some_iff.mp hp).1, (List.getElem?_eq_some_iff.mp hq).1⟩

end

lemma mem_lowerOnes (hlength : goal.length = start.length) :
    lo ∈ lowerOnes start goal hi ↔ MustStayBelow start goal lo hi := by
  unfold lowerOnes MustStayBelow
  rw [List.mem_filter, Bool.or_eq_true, isOver_iff, isOver_iff, List.mem_range,
    and_iff_right_iff_imp]
  rintro (h | h)
  · exact (under_lt h).1
  · exact hlength ▸ (under_lt h).1

lemma lt_of_mustStayBelow (hlength : goal.length = start.length)
    (h : MustStayBelow start goal lo hi) : hi < start.length := by
  rcases h with h | h
  · exact (under_lt h).2
  · exact hlength ▸ (under_lt h).2

variable {ways : List (Way K)}

lemma mem_conflicts : j ∈ conflicts ways clearance i ↔
    j ≠ i ∧ atPair (fun p q => crossing p q < clearance) ways i j = true := by
  unfold conflicts
  rw [List.mem_filter, Bool.and_eq_true, decide_eq_true_eq, List.mem_range, and_iff_right_iff_imp]
  rintro ⟨hne, h⟩
  rcases Nat.lt_or_gt_of_ne hne with hlt | hgt
  · rw [atPair_comm] at h
    obtain ⟨a, -, ha, -⟩ := exists_of_atPair hlt h
    exact (List.getElem?_eq_some_iff.mp ha).1
  · obtain ⟨-, b, -, hb, -⟩ := exists_of_atPair hgt h
    exact (List.getElem?_eq_some_iff.mp hb).1

lemma mem_conflicts_of_crossing {p q : Way K} (hij : i < j) (hp : ways[i]? = some p)
    (hq : ways[j]? = some q) (h : crossing p q < clearance) :
    j ∈ conflicts ways clearance i := by
  refine mem_conflicts.mpr ⟨hij.ne', ?_⟩
  rw [atPair_eq _ hij hp hq]
  exact decide_eq_true h

lemma mem_conflicts_comm : j ∈ conflicts ways clearance i ↔ i ∈ conflicts ways clearance j := by
  rw [mem_conflicts, mem_conflicts, ne_comm, atPair_comm]

/-! ## Laying out -/

/-- What is laid out so far: those placed are above all that they have to be above, and in
another layer than those they conflict with. -/
structure Laid (start goal : List (Point K)) (clearance : K) (placed : Finset ℕ) (s : Layering) :
    Prop where
  queue : Queue start.length (lowerOnes start goal) placed s.waiting s.ready
  done : s.done = placed.card
  length : s.layer.length = start.length
  nonneg : ∀ i ∈ placed, 0 ≤ layerOf s.layer i
  ordered : ∀ hi ∈ placed, ∀ lo ∈ lowerOnes start goal hi, layerOf s.layer lo < layerOf s.layer hi
  apart : ∀ i ∈ placed, ∀ j ∈ placed, j ∈ conflicts (start.zip goal) clearance i →
    layerOf s.layer i ≠ layerOf s.layer j

/-- The next drone gets a layer above all that have to be below it, and one that none of those
it conflicts with has yet. -/
lemma Laid.assign {placed : Finset ℕ} (h : Laid start goal clearance placed s)
    {rest : List ℕ} (hready : s.ready.Perm (i :: rest)) :
    Laid start goal clearance (insert i placed) (s.assign start goal clearance i rest) := by
  obtain ⟨hi, hinot, hifirst⟩ := (h.queue.mem_ready i).mp (hready.mem_iff.mpr List.mem_cons_self)
  have hset : i < s.layer.length := h.length.symm ▸ hi
  have hne : ∀ k ∈ placed, k ≠ i := fun k hk hki => hinot (hki ▸ hk)
  generalize hl : layerOf (s.assign start goal clearance i rest).layer i = l
  have hnew : l = firstFree ((conflicts (start.zip goal) clearance i).map (layerOf s.layer))
      (((conflicts (start.zip goal) clearance i).map (layerOf s.layer)).length + 1)
      ((lowerOnes start goal i).foldl (fun c lo => max c (layerOf s.layer lo + 1)) 0) :=
    hl.symm.trans (layerOf_set_self hset _)
  have hold : ∀ k, k ≠ i →
      layerOf (s.assign start goal clearance i rest).layer k = layerOf s.layer k :=
    fun k hk => layerOf_set_ne hk _
  have hfree : ∀ j ∈ conflicts (start.zip goal) clearance i, l ≠ layerOf s.layer j := by
    intro j hj hlj
    have hmem : l ∈ (conflicts (start.zip goal) clearance i).map (layerOf s.layer) :=
      hlj ▸ List.mem_map_of_mem hj
    rw [hnew] at hmem
    exact firstFree_notMem _ _ hmem
  have habove : ∀ lo ∈ lowerOnes start goal i, layerOf s.layer lo < l := by
    intro lo hlo
    have hle := le_foldl_max_of_mem (fun lo => layerOf s.layer lo + 1) hlo 0
    exact Int.lt_of_add_one_le (hle.trans (hnew ▸ le_firstFree _ _ _))
  refine ⟨h.queue.place (fun k => List.nodup_range.filter _) hready, ?_, ?_, ?_, ?_, ?_⟩
  · rw [Finset.card_insert_of_notMem hinot, ← h.done]
    rfl
  · exact (List.length_set ..).trans h.length
  · intro k hk
    rcases Finset.mem_insert.mp hk with rfl | hk
    · rw [hl, hnew]
      exact (le_foldl_max _ _ _).trans (le_firstFree _ _ _)
    · rw [hold k (hne k hk)]
      exact h.nonneg k hk
  · intro k hk lo hlo
    rcases Finset.mem_insert.mp hk with rfl | hk
    · rw [hl, hold lo (hne lo (hifirst lo hlo))]
      exact habove lo hlo
    · rw [hold k (hne k hk), hold lo (hne lo (h.queue.closed k hk lo hlo))]
      exact h.ordered k hk lo hlo
  · intro k hk j hj hconflict
    have hkj : j ≠ k := (mem_conflicts.mp hconflict).1
    rcases Finset.mem_insert.mp hk with rfl | hkold
    · rw [hl, hold j hkj]
      exact hfree j hconflict
    · rcases Finset.mem_insert.mp hj with rfl | hjold
      · rw [hl, hold k (hne k hkold)]
        exact (hfree k (mem_conflicts_comm.mp hconflict)).symm
      · rw [hold k (hne k hkold), hold j (hne j hjold)]
        exact h.apart k hkold j hjold hconflict

lemma Laid.run {placed : Finset ℕ} (h : Laid start goal clearance placed s)
    {fuel : ℕ} (hfuel : start.length ≤ placed.card + fuel) :
    ∃ placed', Laid start goal clearance placed' (runLayering start goal clearance fuel s) ∧
      ((runLayering start goal clearance fuel s).ready = [] ∨ placed'.card = start.length) := by
  induction fuel generalizing placed s with
  | zero =>
    have hsub : placed ⊆ Finset.range start.length := fun k hk =>
      Finset.mem_range.mpr (h.queue.placed_lt k hk)
    have hle := Finset.card_le_card hsub
    rw [Finset.card_range] at hle
    exact ⟨placed, h, .inr (le_antisymm hle hfuel)⟩
  | succ fuel ih =>
    have hperm : (byConstraint (fun i => (conflicts (start.zip goal) clearance i).length)
        s.ready).Perm s.ready := List.perm_insertionSort _ _
    rw [runLayering]
    split
    · next hsorted => exact ⟨placed, h, .inl (List.nil_perm.mp (hsorted ▸ hperm))⟩
    · next i rest hsorted =>
      have hready : s.ready.Perm (i :: rest) := (hsorted ▸ hperm).symm
      have hinot := ((h.queue.mem_ready i).mp (hready.mem_iff.mpr List.mem_cons_self)).2.1
      refine ih (h.assign hready) ?_
      rw [Finset.card_insert_of_notMem hinot]
      omega

lemma Laid.initial (start goal : List (Point K)) (clearance : K) : Laid start goal clearance ∅
    { layer := List.replicate start.length (-1)
      waiting := (List.range start.length).map fun i => (lowerOnes start goal i).length
      ready := (List.range start.length).filter fun i =>
        ((List.range start.length).map fun i => (lowerOnes start goal i).length).getD i 0 = 0
      done := 0 } where
  queue := .initial _ _
  done := rfl
  length := List.length_replicate
  nonneg := fun i hi => absurd hi (Finset.notMem_empty i)
  ordered := fun i hi => absurd hi (Finset.notMem_empty i)
  apart := fun i hi => absurd hi (Finset.notMem_empty i)

/-- Layers that keep to the order, and keep conflicting drones apart. -/
structure Layered (start goal : List (Point K)) (clearance : K) (layer : List ℤ) : Prop where
  length : layer.length = start.length
  nonneg : ∀ i < start.length, 0 ≤ layerOf layer i
  ordered : ∀ lo hi, MustStayBelow start goal lo hi → layerOf layer lo < layerOf layer hi
  apart : ∀ i j, i < start.length → j ∈ conflicts (start.zip goal) clearance i →
    layerOf layer i ≠ layerOf layer j

lemma computeMorphLayers_spec (clearance : K) (hlength : goal.length = start.length) :
    (computeMorphLayers start goal clearance = none ∧ Cyclic (MustStayBelow start goal)) ∨
      ∃ layer, computeMorphLayers start goal clearance = some layer ∧
        Layered start goal clearance layer := by
  obtain ⟨placed, h, hend⟩ :=
    (Laid.initial start goal clearance).run (by rw [Finset.card_empty, Nat.zero_add])
  unfold computeMorphLayers
  dsimp only
  split
  · next hdone =>
    have hall : ∀ k < start.length, k ∈ placed := fun k hk =>
      h.queue.all_placed (h.done.symm.trans hdone) hk
    refine .inr ⟨_, rfl, h.length, fun i hi => h.nonneg i (hall i hi), ?_, ?_⟩
    · intro lo hi hbelow
      exact h.ordered hi (hall hi (lt_of_mustStayBelow hlength hbelow)) lo
        ((mem_lowerOnes hlength).mpr hbelow)
    · intro i j hi hj
      refine h.apart i (hall i hi) j (hall j ?_) hj
      have hj := (List.mem_filter.mp hj).1
      rw [List.mem_range, List.length_zip, hlength, min_self] at hj
      exact hj
  · next hdone =>
    rw [h.done] at hdone
    have hqueue := h.queue
    rw [hend.resolve_right hdone] at hqueue
    obtain ⟨k, hk⟩ := hqueue.cyclic (fun k j hj => List.mem_range.mp (List.mem_filter.mp hj).1) hdone
    refine .inl ⟨rfl, k, Relation.TransGen.mono (fun lo hi hlo => (mem_lowerOnes hlength).mp hlo) k k hk⟩

lemma Layered.not_cyclic {layer : List ℤ} (h : Layered start goal clearance layer) :
    ¬ Cyclic (MustStayBelow start goal) := not_cyclic_of_rank (layerOf layer) h.ordered

end Layering

/-! ## Seen from above -/

section

variable (p q : Point ℝ)

lemma flatDist_nonneg : 0 ≤ flatDist p q := Real.sqrt_nonneg _

lemma flatDist_sq : flatDist p q ^ 2 = (p.x - q.x) * (p.x - q.x) + (p.y - q.y) * (p.y - q.y) :=
  Real.sq_sqrt (add_nonneg (mul_self_nonneg _) (mul_self_nonneg _))

lemma distance_nonneg : 0 ≤ distance p q := Real.sqrt_nonneg _

lemma distance_sq : distance p q ^ 2 = flatDist p q ^ 2 + (p.z - q.z) ^ 2 := by
  have hnonneg : 0 ≤ (p.x - q.x) * (p.x - q.x) + (p.y - q.y) * (p.y - q.y) +
      (p.z - q.z) * (p.z - q.z) :=
    add_nonneg (add_nonneg (mul_self_nonneg _) (mul_self_nonneg _)) (mul_self_nonneg _)
  rw [flatDist_sq, sq (p.z - q.z)]
  exact Real.sq_sqrt hnonneg

end

variable {c : ℝ}

lemma le_distance_of_flatDist {p q : Point ℝ} (h : c ≤ flatDist p q) : c ≤ distance p q := by
  refine h.trans ((sq_le_sq₀ (flatDist_nonneg p q) (distance_nonneg p q)).mp ?_)
  rw [distance_sq]
  exact le_add_of_nonneg_right (sq_nonneg _)

/-- How far the drones move with respect to each other, as seen from above. -/
noncomputable def shift (p q : Way ℝ) : ℝ :=
  hypot2 (p.2.x - q.2.x - (p.1.x - q.1.x)) (p.2.y - q.2.y - (p.1.y - q.1.y))

section

variable (p q : Way ℝ)

lemma shift_sq : shift p q ^ 2 =
    (p.2.x - q.2.x - (p.1.x - q.1.x)) * (p.2.x - q.2.x - (p.1.x - q.1.x)) +
      (p.2.y - q.2.y - (p.1.y - q.1.y)) * (p.2.y - q.2.y - (p.1.y - q.1.y)) :=
  Real.sq_sqrt (add_nonneg (mul_self_nonneg _) (mul_self_nonneg _))

/-- Not at all, or by more than the numbers are rounded. -/
def Steady : Prop := shift p q = 0 ∨ 1 / 10 ^ 6 ≤ shift p q

/-- At some moment of their ways they are within the clearance, as seen from above. -/
def Meet : Prop :=
  ∃ w ∈ Set.Icc (0 : ℝ) 1, flatDist (wayAt w p) (wayAt w q) < layerClearance

lemma flatDist_wayAt_sq (w : ℝ) : flatDist (wayAt w p) (wayAt w q) ^ 2 =
    flatDist p.1 q.1 ^ 2 + shift p q ^ 2 * w ^ 2 +
      2 * ((p.1.x - q.1.x) * (p.2.x - q.2.x - (p.1.x - q.1.x)) +
        (p.1.y - q.1.y) * (p.2.y - q.2.y - (p.1.y - q.1.y))) * w := by
  rw [flatDist_sq, flatDist_sq, shift_sq]
  unfold wayAt
  ring

end

/-- The moment of the least distance, as it is worked out. -/
noncomputable def footOf (p q : Way ℝ) : ℝ :=
  if shift p q ^ 2 < 1 / 10 ^ 12 then 0 else
    max 0 (min 1 (-((p.1.x - q.1.x) * (p.2.x - q.2.x - (p.1.x - q.1.x)) +
      (p.1.y - q.1.y) * (p.2.y - q.2.y - (p.1.y - q.1.y))) / shift p q ^ 2))

lemma crossing_eq (p q : Way ℝ) :
    crossing p q = flatDist (wayAt (footOf p q) p) (wayAt (footOf p q) q) := by
  have hfoot : crossing p q =
      hypot2 (p.1.x - q.1.x + footOf p q * (p.2.x - q.2.x - (p.1.x - q.1.x)))
        (p.1.y - q.1.y + footOf p q * (p.2.y - q.2.y - (p.1.y - q.1.y))) := by
    unfold footOf
    rw [shift_sq]
    rfl
  rw [hfoot]
  unfold flatDist wayAt
  congr 1 <;> ring

variable {p q : Way ℝ} {w : ℝ}

/-- Drones that keep to their offset, or change it enough, are nowhere nearer than worked out. -/
lemma crossing_le (h : Steady p q) (hw : w ∈ Set.Icc (0 : ℝ) 1) :
    crossing p q ≤ flatDist (wayAt w p) (wayAt w q) := by
  rw [crossing_eq]
  refine (sq_le_sq₀ (flatDist_nonneg _ _) (flatDist_nonneg _ _)).mp ?_
  rw [flatDist_wayAt_sq, flatDist_wayAt_sq]
  rcases h with hstill | hfar
  · have hzero := shift_sq p q
    rw [hstill, zero_pow two_ne_zero] at hzero
    obtain ⟨hx, hy⟩ := (add_eq_zero_iff_of_nonneg (mul_self_nonneg _) (mul_self_nonneg _)).mp
      hzero.symm
    rw [mul_self_eq_zero.mp hx, mul_self_eq_zero.mp hy, hstill]
    apply le_of_eq
    ring
  · have hsq : 1 / 10 ^ 12 ≤ shift p q ^ 2 := by
      refine le_trans (by norm_num) (pow_le_pow_left₀ (by norm_num) hfar 2)
    have hpos : 0 < shift p q ^ 2 := lt_of_lt_of_le (by norm_num) hsq
    have hle := clamped_foot_le (c := (p.1.x - q.1.x) * (p.2.x - q.2.x - (p.1.x - q.1.x)) +
      (p.1.y - q.1.y) * (p.2.y - q.2.y - (p.1.y - q.1.y))) hpos hw.1 hw.2
    unfold footOf
    rw [if_neg (not_lt.mpr hsq)]
    linarith

lemma Steady.symm (h : Steady p q) : Steady q p := by
  have hshift : shift q p = shift p q := by
    unfold shift hypot2
    congr 1
    ring
  unfold Steady
  rwa [hshift]

lemma Meet.symm (h : Meet p q) : Meet q p := by
  obtain ⟨w, hw, hlt⟩ := h
  exact ⟨w, hw, by rwa [flatDist_comm]⟩

lemma crossing_lt_of_meet (hsteady : Steady p q) (h : Meet p q) :
    crossing p q < layerClearance := by
  obtain ⟨w, hw, hlt⟩ := h
  exact (crossing_le hsteady hw).trans_lt hlt

lemma nearly_still {ax ay dx dy : ℝ} (hw : w ∈ Set.Icc (0 : ℝ) 1)
    (hd : dx * dx + dy * dy ≤ 1 / 10 ^ 12) (ha : (205 / 100) ^ 2 ≤ ax * ax + ay * ay) :
    2 ^ 2 ≤ (ax + w * dx) * (ax + w * dx) + (ay + w * dy) * (ay + w * dy) := by
  have hsmall : w * w * (dx * dx + dy * dy) ≤ 1 / 10 ^ 12 := by
    have hw1 : w * w ≤ 1 := mul_le_one₀ hw.2 hw.1 hw.2
    have hd0 : 0 ≤ dx * dx + dy * dy := add_nonneg (mul_self_nonneg _) (mul_self_nonneg _)
    exact (mul_le_of_le_one_left hd0 hw1).trans hd
  -- what the change takes away is weighed a thousand to one
  have hx := mul_self_nonneg (ax + w * dx + 1000 * (w * dx))
  have hy := mul_self_nonneg (ay + w * dy + 1000 * (w * dy))
  linarith

lemma flat_apart (h : layerClearance ≤ crossing p q) (hw : w ∈ Set.Icc (0 : ℝ) 1) :
    2 ≤ flatDist (wayAt w p) (wayAt w q) := by
  by_cases hsmall : shift p q ^ 2 < 1 / 10 ^ 12
  · have hfoot : footOf p q = 0 := if_pos hsmall
    rw [crossing_eq, hfoot] at h
    have hsq := pow_le_pow_left₀ (by norm_num [layerClearance, designSeparation]) h 2
    rw [flatDist_wayAt_sq, flatDist_sq, zero_pow two_ne_zero, mul_zero, mul_zero, add_zero,
      add_zero] at hsq
    rw [shift_sq] at hsmall
    refine (sq_le_sq₀ zero_le_two (flatDist_nonneg _ _)).mp ?_
    have hfar := nearly_still hw hsmall.le (le_trans (le_of_eq (by
      norm_num [layerClearance, designSeparation])) hsq)
    rw [flatDist_sq]
    unfold wayAt
    linarith
  · have hsteady : Steady p q := by
      refine .inr ((sq_le_sq₀ (by norm_num) (Real.sqrt_nonneg _)).mp ?_)
      exact le_trans (by norm_num) (not_lt.mp hsmall)
    refine le_trans ?_ (h.trans (crossing_le hsteady hw))
    norm_num [layerClearance, designSeparation]

/-! ## The legs -/

noncomputable def morphLimit : ℝ := designSeparation - tolerance

lemma morphLimit_nonneg : 0 ≤ morphLimit := by
  norm_num [morphLimit, designSeparation, tolerance]

lemma morphLimit_le_two : morphLimit ≤ 2 := by
  norm_num [morphLimit, designSeparation, tolerance]

lemma two_le_layerClearance : (2 : ℝ) ≤ layerClearance := by
  norm_num [layerClearance, designSeparation]

/-- The points are as far apart as the ends of a morph have to be. -/
def Spaced (pts : List (Point ℝ)) : Prop := pts.Pairwise fun p q => morphLimit ≤ distance p q

lemma spaced_at {pts : List (Point ℝ)} (h : Spaced pts) {j : ℕ} {p q : Point ℝ} (hij : i < j)
    (hp : pts[i]? = some p) (hq : pts[j]? = some q) : morphLimit ≤ distance p q := by
  obtain ⟨hi, rfl⟩ := List.getElem?_eq_some_iff.mp hp
  obtain ⟨hj, rfl⟩ := List.getElem?_eq_some_iff.mp hq
  exact List.pairwise_iff_getElem.mp h i j hi hj hij

lemma spaced_of_checked {pts : List (Point ℝ)}
    (h : below (minPairDist pts) (designSeparation - tolerance) = false) : Spaced pts := by
  refine List.pairwise_iff_getElem.mpr fun i j hi hj hij => ?_
  have hmem := mem_pairs_of_lt hij (List.getElem?_eq_getElem hi) (List.getElem?_eq_getElem hj)
  exact le_of_exceeds (exceeds_of_not_below h)
    (List.mem_map_of_mem (f := fun p : Point ℝ × Point ℝ => distance p.1 p.2) hmem)

noncomputable def raised (top : ℝ) (l : ℤ) (p : Point ℝ) : Point ℝ :=
  { p with z := top - ((l : ℝ) + 1) * layerClearance }

variable {top : ℝ}

section

variable {layer : List ℤ} {pts : List (Point ℝ)} (hlength : layer.length = pts.length)
include hlength

lemma getElem?_lifted {p : Point ℝ} (hp : pts[i]? = some p) :
    (lifted top layer pts)[i]? = some (raised top (layerOf layer i) p) := by
  have hi : i < layer.length := hlength.symm ▸ (List.getElem?_eq_some_iff.mp hp).1
  have hl : layer[i]? = some (layerOf layer i) := by
    rw [layerOf, List.getD_eq_getElem?_getD, List.getElem?_eq_getElem hi, Option.getD_some]
  rw [lifted, List.getElem?_zipWith, hp, hl]
  rfl

lemma exists_of_lifted {r : Point ℝ} (hr : (lifted top layer pts)[i]? = some r) :
    ∃ p, pts[i]? = some p ∧ r = raised top (layerOf layer i) p := by
  have hi : i < pts.length := by
    have hlt := (List.getElem?_eq_some_iff.mp hr).1
    rw [length_lifted hlength] at hlt
    exact hlt
  refine ⟨pts[i], List.getElem?_eq_getElem hi, ?_⟩
  rw [getElem?_lifted hlength (List.getElem?_eq_getElem hi)] at hr
  exact (Option.some.inj hr).symm

lemma exists_lift (hp : (pts.zip (lifted top layer pts))[i]? = some p) :
    ∃ a, pts[i]? = some a ∧ p = (a, raised top (layerOf layer i) a) := by
  obtain ⟨ha, hr⟩ := List.getElem?_zip_eq_some.mp hp
  rw [getElem?_lifted hlength ha] at hr
  exact ⟨p.1, ha, Prod.ext rfl (Option.some.inj hr).symm⟩

lemma exists_descent (hp : ((lifted top layer pts).zip pts)[i]? = some p) :
    ∃ a, pts[i]? = some a ∧ p = (raised top (layerOf layer i) a, a) := by
  obtain ⟨hr, ha⟩ := List.getElem?_zip_eq_some.mp hp
  rw [getElem?_lifted hlength ha] at hr
  exact ⟨p.2, ha, Prod.ext (Option.some.inj hr).symm rfl⟩

end

variable {l m : ℤ}

lemma layerClearance_le (top : ℝ) (h : l < m) (p q : Point ℝ) :
    layerClearance ≤ (raised top l p).z - (raised top m q).z := by
  have hone : (1 : ℝ) ≤ (m : ℝ) - l := by exact_mod_cast Int.sub_pos_of_lt h
  have hle := mul_le_mul_of_nonneg_right hone (zero_le_two.trans two_le_layerClearance)
  unfold raised
  linarith

lemma climb_apart {h d e : ℝ} (hw : w ∈ Set.Icc (0 : ℝ) 1) (hc : 0 ≤ c) (hh : 0 ≤ h) (hd : 0 ≤ d)
    (he : c ≤ e) (hend : c ^ 2 ≤ h + d ^ 2) : c ^ 2 ≤ h + (d + w * (e - d)) ^ 2 := by
  rcases le_total d c with hdc | hcd
  · have hge : d ≤ d + w * (e - d) :=
      le_add_of_nonneg_right (mul_nonneg hw.1 (sub_nonneg.mpr (hdc.trans he)))
    have hsq := pow_le_pow_left₀ hd hge 2
    linarith
  · have hge : c ≤ d + w * (e - d) := by
      have h1 := mul_le_mul_of_nonneg_left he hw.1
      have h2 := mul_le_mul_of_nonneg_left hcd (sub_nonneg.mpr hw.2)
      linarith
    have hsq := pow_le_pow_left₀ hc hge 2
    linarith

lemma wayAt_swap (w : ℝ) (p q : Point ℝ) : wayAt w (q, p) = wayAt (1 - w) (p, q) := by
  unfold wayAt
  congr 1 <;> ring

variable {a b : Point ℝ}

/-- In columns far enough apart, or in the order of their layers, drones go up safely. -/
lemma lift_apart (hends : morphLimit ≤ distance a b)
    (hside : designSeparation ≤ flatDist a b ∨ (b.z ≤ a.z ∧ l < m) ∨ (a.z ≤ b.z ∧ m < l))
    (hw : w ∈ Set.Icc (0 : ℝ) 1) :
    morphLimit ≤ distance (wayAt w (a, raised top l a)) (wayAt w (b, raised top m b)) := by
  have hflat : flatDist (wayAt w (a, raised top l a)) (wayAt w (b, raised top m b)) =
      flatDist a b := by
    unfold flatDist wayAt raised
    congr 1 <;> ring
  have hheight : (wayAt w (a, raised top l a)).z - (wayAt w (b, raised top m b)).z =
      (a.z - b.z) + w * (((raised top l a).z - (raised top m b).z) - (a.z - b.z)) := by
    unfold wayAt
    ring
  have hsq := pow_le_pow_left₀ morphLimit_nonneg hends 2
  have hgap := morphLimit_le_two.trans two_le_layerClearance
  rw [distance_sq] at hsq
  rcases hside with hfar | hside
  · refine le_distance_of_flatDist (hflat.symm ▸ le_trans ?_ hfar)
    exact sub_le_self _ (by norm_num [tolerance])
  · refine (sq_le_sq₀ morphLimit_nonneg (distance_nonneg _ _)).mp ?_
    rw [distance_sq, hflat, hheight]
    rcases hside with ⟨hz, hlt⟩ | ⟨hz, hlt⟩
    · exact climb_apart hw morphLimit_nonneg (sq_nonneg _) (sub_nonneg.mpr hz)
        (hgap.trans (layerClearance_le top hlt a b)) hsq
    · -- the same, told from the other drone
      rw [← neg_sub b.z a.z, neg_sq] at hsq
      have hclimb := climb_apart hw morphLimit_nonneg (sq_nonneg _) (sub_nonneg.mpr hz)
        (hgap.trans (layerClearance_le top hlt b a)) hsq
      linarith

variable {layer : List ℤ} {pts start goal : List (Point ℝ)}

lemma side_at (hordered : ∀ lo hi, Under pts lo hi → layerOf layer lo < layerOf layer hi) {j : ℕ} (hij : i < j) (ha : pts[i]? = some a) (hb : pts[j]? = some b) :
    designSeparation ≤ flatDist a b ∨ (b.z ≤ a.z ∧ layerOf layer i < layerOf layer j) ∨
      (a.z ≤ b.z ∧ layerOf layer j < layerOf layer i) := by
  rcases le_or_gt designSeparation (flatDist a b) with hfar | hclose
  · exact .inl hfar
  · rcases le_or_gt b.z a.z with hz | hz
    · refine .inr (.inl ⟨hz, hordered i j ⟨a, b, ha, hb, hclose, ?_⟩⟩)
      exact (lt_or_eq_of_le hz).imp_right fun heq => ⟨heq, hij⟩
    · refine .inr (.inr ⟨hz.le, hordered j i ⟨b, a, hb, ha, ?_, .inl hz⟩⟩)
      rwa [flatDist_comm]

lemma column_legs (top : ℝ) (hlength : layer.length = pts.length) (hspaced : Spaced pts)
    (hordered : ∀ lo hi, Under pts lo hi → layerOf layer lo < layerOf layer hi) :
    Exceeds morphLimit (minMorphSeparation pts (lifted top layer pts)) ∧
      Exceeds morphLimit (minMorphSeparation (lifted top layer pts) pts) := by
  constructor
  · refine exceeds_of_ways morphLimit_nonneg fun i j p q hij hp hq w hw => ?_
    obtain ⟨a, ha, rfl⟩ := exists_lift hlength hp
    obtain ⟨b, hb, rfl⟩ := exists_lift hlength hq
    exact lift_apart (spaced_at hspaced hij ha hb) (side_at hordered hij ha hb) hw
  · refine exceeds_of_ways morphLimit_nonneg fun i j p q hij hp hq w hw => ?_
    obtain ⟨a, ha, rfl⟩ := exists_descent hlength hp
    obtain ⟨b, hb, rfl⟩ := exists_descent hlength hq
    rw [wayAt_swap w a, wayAt_swap w b]
    exact lift_apart (spaced_at hspaced hij ha hb) (side_at hordered hij ha hb)
      ⟨sub_nonneg.mpr hw.2, sub_le_self _ hw.1⟩

lemma le_distance_of_height (hc : 0 ≤ c) {p q : Point ℝ} (h : c ≤ |p.z - q.z|) :
    c ≤ distance p q := by
  have hsq := pow_le_pow_left₀ hc h 2
  rw [sq_abs] at hsq
  refine (sq_le_sq₀ hc (distance_nonneg p q)).mp (hsq.trans ?_)
  rw [distance_sq]
  exact le_add_of_nonneg_left (sq_nonneg _)

lemma wayAt_raised_z (top w : ℝ) (l : ℤ) (a g : Point ℝ) :
    (wayAt w (raised top l a, raised top l g)).z = (raised top l a).z := by
  unfold wayAt raised
  ring

lemma layerClearance_le_abs (h : l ≠ m) (p q : Point ℝ) :
    layerClearance ≤ |(raised top l p).z - (raised top m q).z| := by
  rcases lt_or_gt_of_ne h with hlt | hgt
  · exact (layerClearance_le top hlt p q).trans (le_abs_self _)
  · rw [abs_sub_comm]
    exact (layerClearance_le top hgt q p).trans (le_abs_self _)

/-- The way from layer to layer: drones on one layer do not come near each other, and all others
are a layer apart. -/
lemma transit_leg (top : ℝ) (hlength : goal.length = start.length)
    (h : Layered start goal layerClearance layer) :
    Exceeds morphLimit (minMorphSeparation (lifted top layer start) (lifted top layer goal)) := by
  refine exceeds_of_ways morphLimit_nonneg fun i j p q hij hp hq w hw => ?_
  obtain ⟨p1, p2⟩ := p
  obtain ⟨q1, q2⟩ := q
  obtain ⟨hp1, hp2⟩ := List.getElem?_zip_eq_some.mp hp
  obtain ⟨hq1, hq2⟩ := List.getElem?_zip_eq_some.mp hq
  have hgoal : layer.length = goal.length := h.length.trans hlength.symm
  obtain ⟨a, ha, rfl⟩ := exists_of_lifted h.length hp1
  obtain ⟨g, hg, rfl⟩ := exists_of_lifted hgoal hp2
  obtain ⟨b, hb, rfl⟩ := exists_of_lifted h.length hq1
  obtain ⟨k, hk, rfl⟩ := exists_of_lifted hgoal hq2
  by_cases hsame : layerOf layer i = layerOf layer j
  · have hi : i < start.length := (List.getElem?_eq_some_iff.mp ha).1
    have hnot : j ∉ conflicts (start.zip goal) layerClearance i := fun hj => h.apart i j hi hj hsame
    have hcrossing : layerClearance ≤ crossing (a, g) (b, k) := by
      have hway : (start.zip goal)[i]? = some (a, g) := List.getElem?_zip_eq_some.mpr ⟨ha, hg⟩
      have hway' : (start.zip goal)[j]? = some (b, k) := List.getElem?_zip_eq_some.mpr ⟨hb, hk⟩
      exact not_lt.mp fun hlt => hnot (mem_conflicts_of_crossing hij hway hway' hlt)
    exact le_distance_of_flatDist (morphLimit_le_two.trans (flat_apart hcrossing hw))
  · refine le_distance_of_height morphLimit_nonneg ?_
    rw [wayAt_raised_z, wayAt_raised_z]
    exact (morphLimit_le_two.trans two_le_layerClearance).trans (layerClearance_le_abs hsame a b)

/-- The three legs that a morph is flown in at its layers. -/
noncomputable def layeredLegs (start goal : List (Point ℝ)) (layer : List ℤ) :
    List (List (Point ℝ) × List (Point ℝ)) :=
  let top := highest start goal
  [(start, lifted top layer start), (lifted top layer start, lifted top layer goal),
    (lifted top layer goal, goal)]

lemma layeredLegs_apart (hlength : goal.length = start.length)
    (h : Layered start goal layerClearance layer) (hstart : Spaced start) (hgoal : Spaced goal) :
    ∀ leg ∈ layeredLegs start goal layer, Exceeds morphLimit (minMorphSeparation leg.1 leg.2) := by
  have hup := column_legs (highest start goal) h.length hstart fun lo hi hunder =>
    h.ordered lo hi (.inl hunder)
  have hdown := column_legs (highest start goal) (h.length.trans hlength.symm) hgoal
    fun lo hi hunder => h.ordered lo hi (.inr hunder)
  intro leg hleg
  simp only [layeredLegs, List.mem_cons, List.not_mem_nil, or_false] at hleg
  rcases hleg with rfl | rfl | rfl
  · exact hup.1
  · exact transit_leg _ hlength h
  · exact hdown.2

lemma layeredMorph_ne_layeredLeg (hlength : goal.length = start.length) (P : Option (Pacing ℝ))
    (label : String) (requested : ℝ) (name : String) (d : Option ℝ) :
    layeredMorph P label start goal requested ≠ .error (.refusal (.layeredLeg name d)) := by
  intro hrefused
  unfold layeredMorph at hrefused
  dsimp only at hrefused
  split at hrefused
  · cases hrefused
  · next hends =>
    rw [not_or, Bool.not_eq_true, Bool.not_eq_true] at hends
    rcases computeMorphLayers_spec layerClearance hlength with
      ⟨hnone, -⟩ | ⟨layer, hlayer, h⟩
    · rw [hnone] at hrefused
      cases hrefused
    · rw [hlayer] at hrefused
      dsimp only at hrefused
      split at hrefused
      · cases hrefused
      · split at hrefused
        · next leg hfound =>
          have hmem : leg ∈ layeredLegs start goal layer := List.mem_of_find?_eq_some hfound
          have hclose : tooClose leg.1 leg.2 = true := List.find?_some (p := fun leg : _ × _ =>
            tooClose leg.1 leg.2) hfound
          have hexceeds := layeredLegs_apart hlength h (spaced_of_checked hends.1)
            (spaced_of_checked hends.2) leg hmem
          exact Bool.false_ne_true ((not_below_of_exceeds hexceeds).symm.trans hclose)
        · cases hrefused

/-- There is no layering only where the drones that share a column would have to be above each
other in a circle. Any other morph gets layers in that order, different ones for drones that
meet, and at these layers its three legs keep every two drones apart: none is refused. -/
theorem morph_layering {start goal : List (Point ℝ)} (hlength : goal.length = start.length) :
    (computeMorphLayers start goal layerClearance = none ↔ Cyclic (MustStayBelow start goal)) ∧
      (∀ layer, computeMorphLayers start goal layerClearance = some layer →
        layer.length = start.length ∧ (∀ i < start.length, 0 ≤ layerOf layer i) ∧
        (∀ lo hi, MustStayBelow start goal lo hi → layerOf layer lo < layerOf layer hi) ∧
        (∀ (i j : ℕ) p q, i ≠ j → (start.zip goal)[i]? = some p → (start.zip goal)[j]? = some q →
          Steady p q → Meet p q → layerOf layer i ≠ layerOf layer j) ∧
        (Spaced start → Spaced goal → ∀ leg ∈ layeredLegs start goal layer,
          Exceeds morphLimit (minMorphSeparation leg.1 leg.2))) ∧
      ∀ P label requested name d,
        layeredMorph P label start goal requested ≠ .error (.refusal (.layeredLeg name d)) := by
  refine ⟨?_, ?_, layeredMorph_ne_layeredLeg hlength⟩
  · rcases computeMorphLayers_spec layerClearance hlength with
      ⟨hnone, hcyclic⟩ | ⟨layer, hlayer, h⟩
    · exact iff_of_true hnone hcyclic
    · refine iff_of_false ?_ h.not_cyclic
      rw [hlayer]
      exact Option.some_ne_none layer
  · intro layer hlayer
    have h : Layered start goal layerClearance layer := by
      rcases computeMorphLayers_spec layerClearance hlength with
        ⟨hnone, -⟩ | ⟨layer', hlayer', h⟩
      · rw [hnone] at hlayer
        cases hlayer
      · obtain rfl := Option.some.inj (hlayer'.symm.trans hlayer)
        exact h
    refine ⟨h.length, h.nonneg, h.ordered, ?_, layeredLegs_apart hlength h⟩
    intro i j p q hij hp hq hsteady hmeet
    have hlength' : (start.zip goal).length = start.length := by
      rw [List.length_zip, hlength, min_self]
    have hlt : ∀ {k : ℕ} {r : Way ℝ}, (start.zip goal)[k]? = some r → k < start.length :=
      fun hr => hlength' ▸ (List.getElem?_eq_some_iff.mp hr).1
    rcases Nat.lt_or_gt_of_ne hij with hbefore | hafter
    · have hclose := crossing_lt_of_meet hsteady hmeet
      exact h.apart i j (hlt hp) (mem_conflicts_of_crossing hbefore hp hq hclose)
    · have hclose := crossing_lt_of_meet hsteady.symm hmeet.symm
      exact (h.apart j i (hlt hq) (mem_conflicts_of_crossing hafter hq hp hclose)).symm

/-- Two drones that never share a column at the ends, but meet on the way. -/
theorem morph_layering_crossed : ∃ layer,
    computeMorphLayers crossed.1 crossed.2 layerClearance = some layer ∧
      layerOf layer 0 ≠ layerOf layer 1 := by
  have hlength : crossed.2.length = crossed.1.length := rfl
  obtain ⟨hcyclic, hlayers, -⟩ := morph_layering hlength
  have hstart : crossed.1.Pairwise fun p q => designSeparation ≤ flatDist p q := by
    refine List.pairwise_pair.mpr (Real.le_sqrt_of_sq_le ?_)
    norm_num [designSeparation]
  have hgoal : crossed.2.Pairwise fun p q => designSeparation ≤ flatDist p q := by
    refine List.pairwise_pair.mpr (Real.le_sqrt_of_sq_le ?_)
    norm_num [designSeparation]
  have hsteady : Steady (⟨0, 0, 0⟩, ⟨2, 3, 0⟩) (⟨2, 0, 0⟩, ⟨0, 3, 0⟩) := by
    refine .inr (Real.le_sqrt_of_sq_le ?_)
    norm_num
  have hmeet : Meet (⟨0, 0, 0⟩, ⟨2, 3, 0⟩) (⟨2, 0, 0⟩, ⟨0, 3, 0⟩) := by
    refine ⟨1 / 2, by norm_num, ?_⟩
    norm_num [flatDist, wayAt, hypot2, sqrt_real, layerClearance, designSeparation]
  obtain ⟨layer, hlayer⟩ := Option.ne_none_iff_exists'.mp fun hnone =>
    not_cyclic_of_rank (fun _ : ℕ => 0)
      (fun lo hi h => (h.elim (not_under hstart) (not_under hgoal)).elim) (hcyclic.mp hnone)
  obtain ⟨-, -, -, happart, -⟩ := hlayers layer hlayer
  exact ⟨layer, hlayer, happart 0 1 _ _ zero_ne_one rfl rfl hsteady hmeet⟩

end Taramandal.Studio.MorphLayers
