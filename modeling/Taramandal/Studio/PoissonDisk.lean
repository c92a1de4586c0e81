import Mathlib.Analysis.Real.Sqrt
import Taramandal.Lib.Pairs
import Taramandal.Studio.Layout

/-! # Poisson-disk picking (`_poisson_disk_filter`)

Points are picked from a shuffled pool at a radius that is halved until enough of them fit; what
is still missing is topped up with the points farthest from those picked, and at last with the
last one again. -/
set_option linter.unusedSectionVars false

namespace Taramandal.Studio.PoissonDisk

open Lib.Pairs Core.Numbers

variable {K : Type} [Field K] [LinearOrder K] {d : ℕ}

abbrev Row (K : Type) (d : ℕ) := Fin d → K

def distSq (p q : Row K d) : K := ∑ i, (p i - q i) ^ 2

/-- A walk through the pool: a point is picked when it clears all that are picked already. -/
def greedy (n : ℕ) (radiusSq : K) (accepted : List (Row K d)) : List (Row K d) → List (Row K d)
  | [] => accepted
  | p :: pool =>
    if accepted.length = n then accepted
    else if accepted = [] ∨ !below (accepted.map fun q => distSq q p).min? radiusSq then
      greedy n radiusSq (accepted ++ [p]) pool
    else greedy n radiusSq accepted pool

/-- The picks at the radius as it is after `k` halvings. -/
def halved (pool : List (Row K d)) (n : ℕ) (radius : K) (k : ℕ) : List (Row K d) :=
  greedy n (radius * (1 / 2) ^ k * (radius * (1 / 2) ^ k)) [] pool

/-- The picks of the first walk that finds enough, or those of the last. -/
def relaxed (pool : List (Row K d)) (n : ℕ) : ℕ → K → List (Row K d) → List (Row K d)
  | 0, _, accepted => accepted
  | turns + 1, r, _ =>
    let accepted := greedy n (r * r) [] pool
    if n ≤ accepted.length then accepted else relaxed pool n turns (r * (1 / 2)) accepted

variable [Sqrt K]

def clearance (accepted : List (Row K d)) (p : Row K d) : K :=
  (accepted.map fun q => sqrt (distSq p q)).min?.getD 0

/-- The first of the farthest leftovers is picked as long as points are missing. -/
def topUp (n : ℕ) : ℕ → List (Row K d) → List (Row K d) → List (Row K d)
  | 0, accepted, _ => accepted
  | fuel + 1, accepted, leftovers =>
    if accepted.length < n then
      match leftovers.argmax (clearance accepted) with
      | some p => topUp n fuel (accepted ++ [p]) (leftovers.erase p)
      | none => accepted
    else accepted

/-- `_poisson_disk_filter`, of the candidates as they were shuffled. -/
def poissonDiskFilter (pool : List (Row K d)) (n : ℕ) (radius : K) : List (Row K d) :=
  if n = 0 then []
  else
    let accepted := relaxed pool n 12 radius []
    if n ≤ accepted.length then accepted.take n
    else
      let leftovers := pool.filter (· ∉ accepted)
      let accepted := topUp n leftovers.length accepted leftovers
      (accepted ++ List.replicate (n - accepted.length) (accepted.getLastD 0)).take n

section

variable {n : ℕ} {radiusSq : K} {accepted pool : List (Row K d)}

/-- So many points of the pool at most, each clear of the earlier ones. -/
structure Cleared (pool : List (Row K d)) (n : ℕ) (radiusSq : K) (accepted : List (Row K d)) :
    Prop where
  subset : accepted ⊆ pool
  length : accepted.length ≤ n
  apart : accepted.Pairwise fun p q => radiusSq ≤ distSq p q

lemma Cleared.nil (pool : List (Row K d)) (n : ℕ) (radiusSq : K) : Cleared pool n radiusSq [] :=
  ⟨List.nil_subset pool, Nat.zero_le n, List.Pairwise.nil⟩

lemma Cleared.greedy {whole : List (Row K d)} (h : Cleared whole n radiusSq accepted)
    (hpool : pool ⊆ whole) : Cleared whole n radiusSq (greedy n radiusSq accepted pool) := by
  induction pool generalizing accepted with
  | nil => exact h
  | cons p pool ih =>
    obtain ⟨hp, hrest⟩ := List.cons_subset.mp hpool
    rw [PoissonDisk.greedy]
    split
    next => exact h
    next hroom =>
      split
      next hclear =>
        refine ih ⟨?_, ?_, ?_⟩ hrest
        · exact List.append_subset.mpr ⟨h.subset, List.cons_subset.mpr ⟨hp, List.nil_subset _⟩⟩
        · rw [List.length_append]
          exact Nat.lt_of_le_of_ne h.length hroom
        · refine List.pairwise_append.mpr ⟨h.apart, List.pairwise_singleton _ _, fun q hq r hr => ?_⟩
          obtain rfl := List.mem_singleton.mp hr
          rcases hclear with hnil | hclear
          · rw [hnil] at hq
            cases hq
          · have hexceeds := exceeds_of_not_below (by simpa using hclear)
            exact le_of_exceeds hexceeds (List.mem_map_of_mem hq)
      next => exact ih h hrest

lemma greedy_ne_nil (hn : 0 < n) (hpool : pool ≠ []) : greedy n radiusSq [] pool ≠ [] := by
  have hgrow : ∀ {as bs : List (Row K d)}, as ≠ [] → greedy n radiusSq as bs ≠ [] := by
    intro as bs has
    induction bs generalizing as with
    | nil => exact has
    | cons b bs ih =>
      rw [PoissonDisk.greedy]
      split
      · exact has
      · split
        · exact ih (List.append_ne_nil_of_right_ne_nil _ (List.cons_ne_nil _ _))
        · exact ih has
  cases pool with
  | nil => exact absurd rfl hpool
  | cons p pool =>
    rw [greedy, if_neg (fun h : ([] : List (Row K d)).length = n => hn.ne h), if_pos (.inl rfl)]
    exact hgrow (List.cons_ne_nil _ _)

end

lemma relaxed_of_first {pool : List (Row K d)} {n turns k : ℕ} {r : K} (hk : k < turns)
    (hshort : ∀ m < k, (halved pool n r m).length < n)
    (henough : n ≤ (halved pool n r k).length) (accepted : List (Row K d)) :
    relaxed pool n turns r accepted = halved pool n r k := by
  induction k generalizing turns r accepted with
  | zero =>
    obtain ⟨turns, rfl⟩ := Nat.exists_eq_succ_of_ne_zero (Nat.ne_of_gt hk)
    rw [halved, pow_zero, mul_one] at henough ⊢
    rw [relaxed, if_pos henough]
  | succ k ih =>
    obtain ⟨turns, rfl⟩ := Nat.exists_eq_succ_of_ne_zero (Nat.ne_of_gt (Nat.zero_lt_of_lt hk))
    have hhalf : ∀ m : ℕ, halved pool n r (m + 1) = halved pool n (r * (1 / 2)) m := fun m => by
      rw [halved, halved, pow_succ', ← mul_assoc r]
    have hfirst := hshort 0 (Nat.succ_pos k)
    rw [halved, pow_zero, mul_one] at hfirst
    rw [relaxed, if_neg (not_le.mpr hfirst), hhalf]
    rw [hhalf] at henough
    refine ih (Nat.lt_of_succ_lt_succ hk) (fun m hm => ?_) henough _
    rw [← hhalf]
    exact hshort (m + 1) (Nat.succ_lt_succ hm)

/-- Whichever walk it is, its points were picked at some radius. -/
lemma relaxed_cleared [IsStrictOrderedRing K] {pool : List (Row K d)} {n : ℕ} (hn : 0 < n)
    (hpool : pool ≠ []) (turns : ℕ) {r : K} (hr : 0 < r) (accepted : List (Row K d)) :
    ∃ radiusSq : K, 0 < radiusSq ∧ Cleared pool n radiusSq (relaxed pool n (turns + 1) r accepted) ∧
      relaxed pool n (turns + 1) r accepted ≠ [] := by
  induction turns generalizing r accepted with
  | zero =>
    refine ⟨r * r, mul_pos hr hr, ?_⟩
    rw [relaxed, relaxed, ite_self]
    exact ⟨(Cleared.nil pool n _).greedy (List.Subset.refl pool), greedy_ne_nil hn hpool⟩
  | succ turns ih =>
    rw [relaxed]
    split
    · refine ⟨r * r, mul_pos hr hr, ?_, greedy_ne_nil hn hpool⟩
      exact (Cleared.nil pool n _).greedy (List.Subset.refl pool)
    · exact ih (mul_pos hr one_half_pos) _

section

variable {n : ℕ} {pool accepted leftovers : List (Row ℝ d)}

/-- The picked points and the leftovers make up the pool, and a point is picked twice only when
no other is left. -/
structure Spread (pool : List (Row ℝ d)) (n : ℕ) (accepted leftovers : List (Row ℝ d)) : Prop where
  subset : accepted ⊆ pool
  left : leftovers ⊆ pool
  covers : ∀ p ∈ pool, p ∈ accepted ∨ p ∈ leftovers
  length : accepted.length ≤ n
  fresh : accepted.Nodup ∨ pool ⊆ accepted
  some : accepted ≠ []

lemma distSq_eq_zero {p q : Row ℝ d} : distSq p q = 0 ↔ p = q := by
  rw [distSq, Finset.sum_eq_zero_iff_of_nonneg fun i _ => sq_nonneg (p i - q i)]
  constructor
  · intro h
    funext i
    exact sub_eq_zero.mp (pow_eq_zero_iff two_ne_zero |>.mp (h i (Finset.mem_univ i)))
  · rintro rfl i -
    rw [sub_self, zero_pow two_ne_zero]

lemma clearance_nonpos (h : accepted ≠ []) (p : Row ℝ d) :
    clearance accepted p ≤ 0 ↔ p ∈ accepted := by
  constructor
  · intro hle
    cases hmin : (accepted.map fun q => sqrt (distSq p q)).min? with
    | none => exact absurd (List.map_eq_nil_iff.mp (List.min?_eq_none_iff.mp hmin)) h
    | some m =>
      rw [clearance, hmin, Option.getD_some] at hle
      obtain ⟨q, hq, rfl⟩ := List.mem_map.mp (List.min?_mem hmin)
      have hzero := Real.sqrt_eq_zero'.mp (le_antisymm hle (Real.sqrt_nonneg _))
      have hnonneg : 0 ≤ distSq p q := Finset.sum_nonneg fun i _ => sq_nonneg (p i - q i)
      rwa [distSq_eq_zero.mp (le_antisymm hzero hnonneg)]
  · intro hp
    refine (getD_min?_le (List.mem_map_of_mem hp) 0).trans (le_of_eq ?_)
    rw [distSq_eq_zero.mpr rfl]
    exact Real.sqrt_zero

/-- One more point: the farthest has clearance zero only when every leftover is picked. -/
lemma Spread.pick (h : Spread pool n accepted leftovers) (hroom : accepted.length < n)
    {p : Row ℝ d} (hp : p ∈ leftovers.argmax (clearance accepted)) :
    Spread pool n (accepted ++ [p]) (leftovers.erase p) := by
  have hmem : p ∈ leftovers := List.argmax_mem hp
  refine ⟨?_, fun q hq => h.left (List.mem_of_mem_erase hq), fun q hq => ?_, ?_, ?_, ?_⟩
  · exact List.append_subset.mpr ⟨h.subset, List.cons_subset.mpr ⟨h.left hmem, List.nil_subset _⟩⟩
  · rw [List.mem_append, List.mem_singleton]
    rcases h.covers q hq with hq | hq
    · exact .inl (.inl hq)
    · by_cases hqp : q = p
      · exact .inl (.inr hqp)
      · exact .inr ((List.mem_erase_of_ne hqp).mpr hq)
  · rw [List.length_append]
    exact hroom
  · have hall : pool ⊆ accepted → pool ⊆ accepted ++ [p] := fun hsub q hq =>
      List.mem_append_left _ (hsub hq)
    rcases h.fresh with hnodup | hsub
    · by_cases hin : p ∈ accepted
      · refine .inr (hall fun q hq => ?_)
        rcases h.covers q hq with hq | hq
        · exact hq
        · have hle := List.le_of_mem_argmax hq hp
          exact (clearance_nonpos h.some q).mp (hle.trans ((clearance_nonpos h.some p).mpr hin))
      · exact .inl (List.nodup_append_comm.mp (List.nodup_cons.mpr ⟨hin, hnodup⟩))
    · exact .inr (hall hsub)
  · exact List.append_ne_nil_of_left_ne_nil h.some _

lemma Spread.topUp (h : Spread pool n accepted leftovers) {fuel : ℕ}
    (hfuel : leftovers.length ≤ fuel) :
    ∃ rest, Spread pool n (topUp n fuel accepted leftovers) rest ∧
      ((topUp n fuel accepted leftovers).length = n ∨ rest = []) := by
  induction fuel generalizing accepted leftovers with
  | zero => exact ⟨leftovers, h, .inr (List.length_eq_zero_iff.mp (Nat.le_zero.mp hfuel))⟩
  | succ fuel ih =>
    rw [PoissonDisk.topUp]
    split
    next hroom =>
      cases hmax : leftovers.argmax (clearance accepted) with
      | none => exact ⟨leftovers, h, .inr (List.argmax_eq_none.mp hmax)⟩
      | some p =>
        refine ih (h.pick hroom hmax) ?_
        rw [List.length_erase_of_mem (List.argmax_mem hmax)]
        exact Nat.sub_le_of_le_add hfuel
    next hfull => exact ⟨leftovers, h, .inl (le_antisymm h.length (not_lt.mp hfull))⟩

/-- All points are there, and none is picked twice while another is left. -/
structure Picked (pool : List (Row ℝ d)) (n : ℕ) (picked : List (Row ℝ d)) : Prop where
  length : picked.length = n
  subset : picked ⊆ pool
  fresh : ¬picked.Nodup → pool ⊆ picked

lemma Spread.pad {rest : List (Row ℝ d)} (h : Spread pool n accepted rest)
    (hend : accepted.length = n ∨ rest = []) : Picked pool n
      ((accepted ++ List.replicate (n - accepted.length) (accepted.getLastD 0)).take n) := by
  have hlength : (accepted ++ List.replicate (n - accepted.length) (accepted.getLastD 0)).length =
      n := by
    rw [List.length_append, List.length_replicate]
    exact Nat.add_sub_cancel' h.length
  rw [List.take_of_length_le hlength.le]
  refine ⟨hlength, fun p hp => ?_, fun hrepeated p hp => ?_⟩
  · rcases List.mem_append.mp hp with hp | hp
    · exact h.subset hp
    · rw [List.eq_of_mem_replicate hp, List.getLastD_eq_getLast?,
        List.getLast?_eq_getLast_of_ne_nil h.some]
      exact h.subset (List.getLast_mem h.some)
  · refine List.mem_append_left _ ?_
    rcases hend with hfull | rfl
    · rw [hfull, Nat.sub_self, List.replicate_zero, List.append_nil] at hrepeated
      exact h.fresh.resolve_left hrepeated hp
    · exact (h.covers p hp).resolve_right List.not_mem_nil

end

section

variable {n : ℕ} {candidates pool : List (Row ℝ d)} {radius : ℝ}

lemma apart_of_halved (k : ℕ) :
    (halved pool n radius k).Pairwise fun p q => radius / 2 ^ k ≤ sqrt (distSq p q) := by
  have hr : radius * (1 / 2) ^ k = radius / 2 ^ k := by
    rw [one_div, inv_pow, div_eq_mul_inv]
  refine ((Cleared.nil pool n _).greedy (List.Subset.refl pool)).apart.imp fun happart => ?_
  rw [hr] at happart
  exact Real.le_sqrt_of_sq_le ((sq _).trans_le happart)

lemma filter_first {k : ℕ} (hn : 0 < n) (hk : k < 12)
    (hshort : ∀ m < k, (halved pool n radius m).length < n)
    (henough : n ≤ (halved pool n radius k).length) :
    poissonDiskFilter pool n radius = halved pool n radius k := by
  have hcleared : Cleared pool n _ (halved pool n radius k) :=
    (Cleared.nil pool n _).greedy (List.Subset.refl pool)
  rw [poissonDiskFilter, if_neg (Nat.ne_of_gt hn), relaxed_of_first hk hshort henough, if_pos henough]
  exact List.take_of_length_le hcleared.length

lemma filter_picked (hpool : pool ≠ []) (hn : 0 < n) (hradius : 0 < radius) :
    Picked pool n (poissonDiskFilter pool n radius) := by
  obtain ⟨radiusSq, hpos, hcleared, hne⟩ := relaxed_cleared hn hpool 11 hradius []
  have hnodup : (relaxed pool n 12 radius []).Nodup := by
    refine hcleared.apart.imp fun happart heq => ?_
    rw [distSq_eq_zero.mpr heq] at happart
    exact not_le.mpr hpos happart
  rw [poissonDiskFilter, if_neg (Nat.ne_of_gt hn)]
  dsimp only
  split
  next henough =>
    rw [List.take_of_length_le hcleared.length]
    exact ⟨le_antisymm hcleared.length henough, hcleared.subset, fun h => absurd hnodup h⟩
  next hshort =>
    have hspread : Spread pool n (relaxed pool n 12 radius [])
        (pool.filter (· ∉ relaxed pool n 12 radius [])) := by
      refine ⟨hcleared.subset, List.filter_subset_self _, fun p hp => ?_, hcleared.length,
        .inl hnodup, hne⟩
      by_cases hin : p ∈ relaxed pool n 12 radius []
      · exact .inl hin
      · exact .inr (List.mem_filter.mpr ⟨hp, decide_eq_true hin⟩)
    obtain ⟨rest, htop, hend⟩ := hspread.topUp le_rfl
    exact htop.pad hend

/-- Picking never loses a point: there are as many as asked for, all of them candidates; they are
those of the first walk that finds enough, as far apart as its radius; and none is picked twice
while another is left. -/
theorem poissonDiskFilter_exact (hshuffle : pool.Perm candidates) (hsome : candidates ≠ [])
    (hn : 0 < n) (hradius : 0 < radius) :
    (poissonDiskFilter pool n radius).length = n ∧
    (∀ p ∈ poissonDiskFilter pool n radius, p ∈ candidates) ∧
    (∀ k < 12, (∀ m < k, (halved pool n radius m).length < n) →
      n ≤ (halved pool n radius k).length →
      poissonDiskFilter pool n radius = halved pool n radius k ∧
      (poissonDiskFilter pool n radius).Pairwise fun p q =>
        radius / 2 ^ k ≤ sqrt (distSq p q)) ∧
    (¬(poissonDiskFilter pool n radius).Nodup →
      ∀ p ∈ candidates, p ∈ poissonDiskFilter pool n radius) := by
  have hpool : pool ≠ [] := fun h => hsome (hshuffle.symm.trans (.of_eq h)).eq_nil
  have hpicked : Picked pool n _ := filter_picked hpool hn hradius
  refine ⟨hpicked.length, fun p hp => hshuffle.mem_iff.mp (hpicked.subset hp), ?_,
    fun hrepeated p hp => hpicked.fresh hrepeated (hshuffle.mem_iff.mpr hp)⟩
  intro k hk hshort henough
  have hfirst := filter_first hn hk hshort henough
  exact ⟨hfirst, hfirst ▸ apart_of_halved k⟩

/-- Three drones on a mesh of two points, which it was shuffled to. -/
theorem poissonDiskFilter_exact_two :
    (poissonDiskFilter [fun _ : Fin 3 => (2 : ℝ), fun _ => 0] 3 1).length = 3 ∧
    ∀ p ∈ poissonDiskFilter [fun _ : Fin 3 => (2 : ℝ), fun _ => 0] 3 1,
      p ∈ [fun _ : Fin 3 => (0 : ℝ), fun _ => 2] :=
  have hexact := poissonDiskFilter_exact (n := 3) (List.Perm.swap (fun _ : Fin 3 => (0 : ℝ))
    (fun _ => 2) []) (List.cons_ne_nil _ _) (by decide) one_pos
  ⟨hexact.1, hexact.2.1⟩

end

end Taramandal.Studio.PoissonDisk
