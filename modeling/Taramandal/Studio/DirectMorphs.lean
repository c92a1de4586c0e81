import Taramandal.Studio.Assignment
import Taramandal.Studio.Separation

/-! # Direct morphs

Drones that fly straight lines together under the assignment stay apart: points that are
`√2 * d` apart on both sides keep the drones `d` apart, since no two of them are nearer to
each other's goals than to their own. -/
namespace Taramandal.Studio.DirectMorphs

open Lib.Assignments Lib.Pairs Lib.Rounded Core.Numbers Studio.Layout Studio.Formations
open Studio.Morphs Studio.Separation Studio.Assignment

/-- The points, each where the permutation sends a drone. -/
def permuted {K : Type} [Field K] (goal : List (Point K)) (perm : List ℕ) : List (Point K) :=
  perm.map fun k => goal.getD k ⟨0, 0, 0⟩

/-- If exchanging the goals is no better, the drones do not turn towards each other. -/
lemma dot_nonneg {a b g h : Point ℝ} (hswap : distSq a g + distSq b h ≤ distSq a h + distSq b g) :
    0 ≤ dot (vec a - vec b) (vec g - vec h) := by
  unfold distSq at hswap
  change 0 ≤ (a.x - b.x) * (g.x - h.x) + (a.y - b.y) * (g.y - h.y) + (a.z - b.z) * (g.z - h.z)
  linarith

lemma normSq_sub (u w : E) : ‖w - u‖ ^ 2 = ‖u‖ ^ 2 + ‖w‖ ^ 2 - 2 * dot u w := by
  rw [normSq_eq, normSq_eq, normSq_eq, dot]
  simp only [PiLp.sub_apply]
  ring

/-- The chord between two offsets that are `√2 * d` long and at no obtuse angle. -/
lemma le_chord {u w : E} {d l : ℝ} (hu : 2 * d ^ 2 ≤ ‖u‖ ^ 2) (hw : 2 * d ^ 2 ≤ ‖w‖ ^ 2)
    (hdot : 0 ≤ dot u w) (hl : l ∈ Set.Icc (0 : ℝ) 1) : d ^ 2 ≤ ‖u + l • (w - u)‖ ^ 2 := by
  obtain ⟨hl0, hl1⟩ := hl
  have hpiece : ‖u + l • (w - u)‖ ^ 2 =
      (1 - l) ^ 2 * ‖u‖ ^ 2 + 2 * (l * (1 - l)) * dot u w + l ^ 2 * ‖w‖ ^ 2 := by
    rw [normSq_along, add_sub_cancel, normSq_sub]
    ring
  have hmix : 0 ≤ 2 * (l * (1 - l)) * dot u w :=
    mul_nonneg (mul_nonneg zero_le_two (mul_nonneg hl0 (sub_nonneg.mpr hl1))) hdot
  have hfirst : (1 - l) ^ 2 * (2 * d ^ 2) ≤ (1 - l) ^ 2 * ‖u‖ ^ 2 :=
    mul_le_mul_of_nonneg_left hu (sq_nonneg _)
  have hlast : l ^ 2 * (2 * d ^ 2) ≤ l ^ 2 * ‖w‖ ^ 2 := mul_le_mul_of_nonneg_left hw (sq_nonneg _)
  have hweights : d ^ 2 ≤ (1 - l) ^ 2 * (2 * d ^ 2) + l ^ 2 * (2 * d ^ 2) := by
    have : 0 ≤ d ^ 2 * (1 - 2 * l) ^ 2 := by positivity
    linarith
  rw [hpiece]
  linarith

lemma le_wayDistSq {c : ℝ} {p q : Way ℝ}
    (h : ∀ l ∈ Set.Icc (0 : ℝ) 1, c ^ 2 ≤ ‖gap p q + l • drift p q‖ ^ 2) :
    c ^ 2 ≤ wayDistSq p q := by
  have hends : c ^ 2 ≤ min (‖gap p q‖ ^ 2) (‖gap p q + drift p q‖ ^ 2) := by
    refine le_min ?_ ?_
    · simpa only [zero_smul, add_zero] using h 0 ⟨le_refl 0, zero_le_one⟩
    · simpa only [one_smul] using h 1 ⟨zero_le_one, le_refl 1⟩
  rw [wayDistSq_eq]
  split
  next hfar =>
    split
    next hinside =>
      refine le_min hends ?_
      have hcritical := h _ ⟨hinside.1.le, hinside.2.le⟩
      rw [normSq_piece] at hcritical
      have hne : ‖drift p q‖ ^ 2 ≠ 0 := ne_of_gt (lt_trans (by norm_num) hfar)
      refine hcritical.trans_eq ?_
      field_simp
      ring
    next => exact hends
  next => exact hends

section Fleet

variable {d : ℝ} {start goal : List (Point ℝ)}

lemma costAt_distSq {i j : ℕ} {a g : Point ℝ} (ha : start[i]? = some a) (hg : goal[j]? = some g) :
    costAt (start.map fun a => goal.map (distSq a)) (i + 1) (j + 1) = distSq a g := by
  simp only [costAt, Nat.add_sub_cancel, List.getD_eq_getElem?_getD, List.getElem?_map, ha, hg,
    Option.map_some, Option.getD_some]

lemma le_normSq_of_distance (hd : 0 < d) {p q : Point ℝ} (h : √2 * d ≤ distance p q) :
    2 * d ^ 2 ≤ ‖vec p - vec q‖ ^ 2 := by
  rw [distance, hypot3_eq] at h
  have hsq := pow_le_pow_left₀ (mul_nonneg (Real.sqrt_nonneg 2) hd.le) h 2
  rwa [mul_pow, Real.sq_sqrt zero_le_two] at hsq

lemma apart_at (hd : 0 < d) {pts : List (Point ℝ)}
    (hpts : pts.Pairwise fun p q => √2 * d ≤ distance p q) {i j : ℕ} {p q : Point ℝ} (hij : i ≠ j)
    (hp : pts[i]? = some p) (hq : pts[j]? = some q) : 2 * d ^ 2 ≤ ‖vec p - vec q‖ ^ 2 := by
  have hordered : ∀ {i j : ℕ} {p q : Point ℝ}, i < j → pts[i]? = some p → pts[j]? = some q →
      2 * d ^ 2 ≤ ‖vec p - vec q‖ ^ 2 := by
    intro i j p q hlt hp hq
    obtain ⟨hi, rfl⟩ := List.getElem?_eq_some_iff.mp hp
    obtain ⟨hj, rfl⟩ := List.getElem?_eq_some_iff.mp hq
    exact le_normSq_of_distance hd (List.pairwise_iff_getElem.mp hpts i j hi hj hlt)
  rcases Nat.lt_or_gt_of_ne hij with hlt | hgt
  · exact hordered hlt hp hq
  · rw [norm_sub_rev]
    exact hordered hgt hq hp

noncomputable def wayAt (l : ℝ) (p : Way ℝ) : Point ℝ where
  x := p.1.x + l * (p.2.x - p.1.x)
  y := p.1.y + l * (p.2.y - p.1.y)
  z := p.1.z + l * (p.2.z - p.1.z)

lemma distance_wayAt (l : ℝ) (p q : Way ℝ) :
    distance (wayAt l p) (wayAt l q) = ‖gap p q + l • drift p q‖ := by
  rw [distance, hypot3_eq]
  congr 1
  ext i
  fin_cases i
  · change p.1.x + l * (p.2.x - p.1.x) - (q.1.x + l * (q.2.x - q.1.x)) =
      p.1.x - q.1.x + l * (p.2.x - p.1.x - (q.2.x - q.1.x))
    ring
  · change p.1.y + l * (p.2.y - p.1.y) - (q.1.y + l * (q.2.y - q.1.y)) =
      p.1.y - q.1.y + l * (p.2.y - p.1.y - (q.2.y - q.1.y))
    ring
  · change p.1.z + l * (p.2.z - p.1.z) - (q.1.z + l * (q.2.z - q.1.z)) =
      p.1.z - q.1.z + l * (p.2.z - p.1.z - (q.2.z - q.1.z))
    ring

/-- What is left between every two drones all along their ways is left at the least distance that
is worked out. -/
lemma exceeds_of_ways {c : ℝ} (hc : 0 ≤ c)
    (h : ∀ (i j : ℕ) p q, i < j → (start.zip goal)[i]? = some p → (start.zip goal)[j]? = some q →
      ∀ l ∈ Set.Icc (0 : ℝ) 1, c ≤ distance (wayAt l p) (wayAt l q)) :
    Exceeds c (minMorphSeparation start goal) := by
  refine exceeds_of_le fun dist hdist => ?_
  obtain ⟨⟨p, q⟩, hmem, rfl⟩ := List.mem_map.mp hdist
  obtain ⟨i, j, hij, hp, hq⟩ := exists_lt_of_mem_pairs hmem
  have hle : c ^ 2 ≤ wayDistSq p q := le_wayDistSq fun l hl =>
    pow_le_pow_left₀ hc (distance_wayAt l p q ▸ h i j p q hij hp hq l hl) 2
  exact Real.le_sqrt_of_sq_le (hle.trans (le_max_right _ _))

/-- The distances of any two drones at any moment of their ways. -/
def distancesOnWay (start goal : List (Point ℝ)) : Set ℝ :=
  {d | ∃ pq ∈ pairs (start.zip goal), ∃ w ∈ Set.Icc (0 : ℝ) 1,
    distance (wayAt w pq.1) (wayAt w pq.2) = d}

lemma exists_least_distance (h : pairs (start.zip goal) ≠ []) :
    ∃ least, IsLeast (distancesOnWay start goal) least := by
  have hunion : distancesOnWay start goal = ⋃ pq ∈ {pq | pq ∈ pairs (start.zip goal)},
      (fun w : ℝ => ‖gap pq.1 pq.2 + w • drift pq.1 pq.2‖) '' Set.Icc 0 1 := by
    ext d
    simp only [distancesOnWay, distance_wayAt, Set.mem_ofPred_eq, Set.mem_iUnion, Set.mem_image,
      exists_prop]
  have hcompact : IsCompact (distancesOnWay start goal) := by
    rw [hunion]
    refine (List.finite_toSet _).isCompact_biUnion fun pq _ => isCompact_Icc.image ?_
    fun_prop
  obtain ⟨pq, hpq⟩ := List.exists_mem_of_ne_nil _ h
  exact hcompact.exists_isLeast ⟨_, pq, hpq, 0, ⟨le_rfl, zero_le_one⟩, rfl⟩

/-- What is worked out for two drones is theirs at no moment by more than a short piece, and not
at all if they keep to their offset or change it by more. -/
lemma computed_le {p q : Way ℝ} {w : ℝ} (hw : w ∈ Set.Icc (0 : ℝ) 1) :
    √(max 0 (wayDistSq p q)) ≤ distance (wayAt w p) (wayAt w q) + shortest ∧
      (‖drift p q‖ = 0 ∨ shortest < ‖drift p q‖ →
        √(max 0 (wayDistSq p q)) ≤ distance (wayAt w p) (wayAt w q)) := by
  have hnonneg : 0 ≤ wayDistSq p q := by
    have hzero := le_wayDistSq (p := p) (q := q) fun l _ =>
      (zero_pow two_ne_zero).trans_le (sq_nonneg ‖gap p q + l • drift p q‖)
    rwa [zero_pow two_ne_zero] at hzero
  have hsq : √(max 0 (wayDistSq p q)) ^ 2 ≤ wayDistSq p q := by
    rw [max_eq_right hnonneg, Real.sq_sqrt hnonneg]
  have hshortest : 0 ≤ shortest := by norm_num [shortest]
  rw [distance_wayAt]
  rcases apart_of_wayDistSq hsq with hall | ⟨hshort, hstart, -⟩
  · exact ⟨(hall w hw).trans (le_add_of_nonneg_right hshortest), fun _ => hall w hw⟩
  · have hmove : ‖w • drift p q‖ ≤ ‖drift p q‖ := by
      rw [norm_smul, Real.norm_of_nonneg hw.1]
      exact mul_le_of_le_one_left (norm_nonneg _) hw.2
    have hback := norm_sub_le (gap p q + w • drift p q) (w • drift p q)
    rw [add_sub_cancel_right] at hback
    refine ⟨by linarith, ?_⟩
    rintro (hstill | hlong)
    · linarith
    · exact absurd hshort (not_le.mpr hlong)

noncomputable def crossed : List (Point ℝ) × List (Point ℝ) :=
  ([⟨0, 0, 0⟩, ⟨2, 0, 0⟩], [⟨2, 3, 0⟩, ⟨0, 3, 0⟩])

/-- The least distance that is worked out is that of all pairs at all moments, but for a short
piece; it is just that where every pair keeps to its offset or changes it by more. -/
theorem minMorphSeparation_isLeast (hlength : goal.length = start.length)
    (htwo : 2 ≤ start.length) : ∃ computed least, minMorphSeparation start goal = some computed ∧
      IsLeast (distancesOnWay start goal) least ∧ |computed - least| ≤ 1 / 10 ^ 6 ∧
      ((∀ pq ∈ pairs (start.zip goal),
        ‖drift pq.1 pq.2‖ = 0 ∨ 1 / 10 ^ 6 < ‖drift pq.1 pq.2‖) → computed = least) := by
  have hzip : 2 ≤ (start.zip goal).length := by
    rw [List.length_zip, hlength, min_self]
    exact htwo
  have hfirst := mem_pairs_of_lt Nat.zero_lt_one
    (List.getElem?_eq_getElem (Nat.lt_of_lt_of_le Nat.two_pos hzip))
    (List.getElem?_eq_getElem (Nat.lt_of_lt_of_le Nat.one_lt_two hzip))
  obtain ⟨least, hleast⟩ := exists_least_distance (List.ne_nil_of_mem hfirst)
  obtain ⟨computed, hcomputed⟩ : ∃ c, minMorphSeparation start goal = some c := by
    refine Option.ne_none_iff_exists'.mp fun hnone => ?_
    exact List.ne_nil_of_mem (List.mem_map_of_mem hfirst) (List.min?_eq_none_iff.mp hnone)
  obtain ⟨⟨pq, hpq, w, hw, rfl⟩, hlow⟩ := hleast
  have hge : distance (wayAt w pq.1) (wayAt w pq.2) ≤ computed :=
    exceeds_of_ways (Real.sqrt_nonneg _) (fun i j p q hij hp hq l hl =>
      hlow ⟨(p, q), mem_pairs_of_lt hij hp hq, l, hl, rfl⟩) computed hcomputed
  have hle : computed ≤ √(max 0 (wayDistSq pq.1 pq.2)) :=
    (List.min?_eq_some_iff.mp hcomputed).2 _ (List.mem_map_of_mem hpq)
  obtain ⟨hnear, hexact⟩ := computed_le (p := pq.1) (q := pq.2) hw
  refine ⟨computed, _, hcomputed, ⟨⟨pq, hpq, w, hw, rfl⟩, hlow⟩, ?_, fun hall => ?_⟩
  · rw [abs_of_nonneg (sub_nonneg.mpr hge), sub_le_iff_le_add']
    exact hle.trans hnear
  · exact le_antisymm (hle.trans (hexact (hall pq hpq))) hge

theorem minMorphSeparation_isLeast_crossed : ∃ computed least,
    minMorphSeparation crossed.1 crossed.2 = some computed ∧
      IsLeast (distancesOnWay crossed.1 crossed.2) least ∧ |computed - least| ≤ 1 / 10 ^ 6 ∧
      ((∀ pq ∈ pairs (crossed.1.zip crossed.2),
        ‖drift pq.1 pq.2‖ = 0 ∨ 1 / 10 ^ 6 < ‖drift pq.1 pq.2‖) → computed = least) :=
  minMorphSeparation_isLeast rfl le_rfl

/-- Under the assignment, points that are `√2 * d` apart at either end keep every two drones
`d` apart, at the least distance that is worked out and at every moment. -/
theorem direct_morph_apart (hd : 0 < d) (hlength : goal.length = start.length)
    (hstart : start.Pairwise fun p q => √2 * d ≤ distance p q)
    (hgoal : goal.Pairwise fun p q => √2 * d ≤ distance p q) :
    ∃ perm, optimalAssignment start goal = some perm ∧ perm.Perm (List.range start.length) ∧
      Exceeds d (minMorphSeparation start (permuted goal perm)) ∧
      ∀ (i j : ℕ) p q, i ≠ j → (start.zip (permuted goal perm))[i]? = some p →
        (start.zip (permuted goal perm))[j]? = some q → ∀ l ∈ Set.Icc (0 : ℝ) 1,
          d ≤ distance (wayAt l p) (wayAt l q) := by
  obtain ⟨σ, u, v, hsolve, htight, hslack⟩ :=
    solveAssignment_spec (start.map fun a => goal.map (distSq a))
  have hcost : (start.map fun a => goal.map (distSq a)).length = start.length := List.length_map _
  generalize hperm : List.ofFn (fun i => (σ i : ℕ)) = perm at hsolve
  have hway : ∀ (i : ℕ) p, (start.zip (permuted goal perm))[i]? = some p →
      ∃ k : Fin (start.map fun a => goal.map (distSq a)).length, (k : ℕ) = i ∧
        start[(k : ℕ)]? = some p.1 ∧ goal[(σ k : ℕ)]? = some p.2 := by
    intro i p hp
    obtain ⟨hfirst, hsecond⟩ := List.getElem?_zip_eq_some.mp hp
    obtain ⟨hi, -⟩ := List.getElem?_eq_some_iff.mp hfirst
    refine ⟨⟨i, hcost ▸ hi⟩, rfl, hfirst, ?_⟩
    rw [permuted, List.getElem?_map, ← hperm, List.getElem?_ofFn, dif_pos (hcost ▸ hi),
      Option.map_some, List.getD_eq_getElem?_getD] at hsecond
    have hlt : (σ ⟨i, hcost ▸ hi⟩ : ℕ) < goal.length :=
      lt_of_lt_of_eq (σ _).isLt (hcost.trans hlength.symm)
    rw [List.getElem?_eq_getElem hlt] at hsecond ⊢
    exact hsecond
  have hpair : ∀ (i j : ℕ) p q, i ≠ j → (start.zip (permuted goal perm))[i]? = some p →
      (start.zip (permuted goal perm))[j]? = some q → ∀ l ∈ Set.Icc (0 : ℝ) 1,
        d ^ 2 ≤ ‖gap p q + l • drift p q‖ ^ 2 := by
    intro i j p q hij hp hq l hl
    obtain ⟨k, rfl, hp1, hp2⟩ := hway i p hp
    obtain ⟨m, rfl, hq1, hq2⟩ := hway j q hq
    have hswap := exchange (htight k) (htight m) (hslack k (σ m)) (hslack m (σ k))
    simp only [entry, costAt_distSq hp1 hp2, costAt_distSq hq1 hq2, costAt_distSq hp1 hq2,
      costAt_distSq hq1 hp2] at hswap
    have hne : (σ k : ℕ) ≠ σ m := fun heq => hij (congrArg Fin.val (σ.injective (Fin.ext heq)))
    have hdrift : drift p q = (vec p.2 - vec q.2) - gap p q := by
      unfold drift gap
      abel
    rw [hdrift]
    exact le_chord (apart_at hd hstart hij hp1 hq1) (apart_at hd hgoal hne hp2 hq2)
      (dot_nonneg hswap) hl
  have hapart : ∀ (i j : ℕ) p q, i ≠ j → (start.zip (permuted goal perm))[i]? = some p →
      (start.zip (permuted goal perm))[j]? = some q → ∀ l ∈ Set.Icc (0 : ℝ) 1,
        d ≤ distance (wayAt l p) (wayAt l q) := by
    intro i j p q hij hp hq l hl
    rw [distance_wayAt]
    exact le_of_sq_le_sq (hpair i j p q hij hp hq l hl) (norm_nonneg _)
  refine ⟨perm, hsolve, ?_, ?_, hapart⟩
  · rw [← hperm, ← hcost, ← List.map_coe_finRange_eq_range, ← List.ofFn_eq_map]
    exact σ.ofFn_comp_perm fun i => (i : ℕ)
  · exact exceeds_of_ways hd.le fun i j p q hij => hapart i j p q (Nat.ne_of_lt hij)

theorem direct_morph_apart_crossed : ∃ perm, optimalAssignment crossed.1 crossed.2 = some perm ∧
      Exceeds 1 (minMorphSeparation crossed.1 (permuted crossed.2 perm)) := by
  have hlength : crossed.2.length = crossed.1.length := rfl
  have hsqrt : √2 * 1 ≤ √4 := by
    rw [mul_one]
    exact Real.sqrt_le_sqrt (by norm_num)
  have hstart : crossed.1.Pairwise fun p q => √2 * 1 ≤ distance p q := by
    refine List.pairwise_pair.mpr (hsqrt.trans_eq ?_)
    norm_num [distance, hypot3, sqrt_real]
  have hgoal : crossed.2.Pairwise fun p q => √2 * 1 ≤ distance p q := by
    refine List.pairwise_pair.mpr (hsqrt.trans_eq ?_)
    norm_num [distance, hypot3, sqrt_real]
  obtain ⟨perm, hperm, -, hexceeds, -⟩ := direct_morph_apart one_pos hlength hstart hgoal
  exact ⟨perm, hperm, hexceeds⟩

end Fleet

end Taramandal.Studio.DirectMorphs
