import Taramandal.Studio.AssignmentChain

/-! # Assignment clear of downwash (`aerodynamic_assignment`)

A solve against an assumed morph, then swaps that are judged by the conflicts of the real one. The
best solution so far is kept, by its conflicts and then by its travel. What SciPy solves with is a
parameter. -/
set_option linter.unusedSectionVars false

namespace Taramandal.Studio.AeroAssignment

open Core.Numbers Studio.Layout Studio.Assignment Studio.AssignmentChain

variable {K : Type} [Field K] [LinearOrder K]

/-- The arguments; of the cone only the tangent of its half angle is used. -/
structure Morph (K : Type) where
  fromPts : List (Point K)
  toPts : List (Point K)
  penaltyWeight : K
  samples : ℕ
  tanHalf : K

structure Conflict (K : Type) where
  timeRatio : K
  lower : ℕ
  upper : ℕ
  horizontalM : K
  coneRadiusM : K
  verticalM : K

structure AssignmentReport (K : Type) where
  perm : List ℕ := []
  conflicts : List (Conflict K) := []
  totalDistanceM : K
  iterations : ℕ := 0

def minVerticalOffsetM : K := 5 / 100

/-- `np.linspace(0.0, 1.0, samples)`. -/
def linspace (samples : ℕ) : List K := (List.range samples).map fun k : ℕ => k / (samples - 1 : K)

def flown (t : K) (a b : Point K) : Point K :=
  ⟨a.x + t * (b.x - a.x), a.y + t * (b.y - a.y), a.z + t * (b.z - a.z)⟩

section

variable [Sqrt K]

def horizontal (a b : Point K) : K := hypot2 (a.x - b.x) (a.y - b.y)

/-- `lower` is below, and in the cone that comes down from `upper`. -/
def inCone (tanHalf : K) (lower upper : Point K) : Prop :=
  minVerticalOffsetM < lower.z - upper.z ∧ horizontal lower upper ≤ (lower.z - upper.z) * tanHalf

instance (tanHalf : K) : DecidableRel (inCone tanHalf) := fun _ _ =>
  inferInstanceAs (Decidable (_ ∧ _))

variable (m : Morph K)

/-- An entry of `_column_hits`: how often a drone on its way to a target meets another one on the
assumed morph. -/
def columnHits (target : Point K) (refDst : List (Point K)) (i : ℕ) : ℕ :=
  ((linspace m.samples).map fun t =>
    let cand := flown t (m.fromPts.getD i origin) target
    (List.range m.fromPts.length).countP fun k =>
      let ref := flown t (m.fromPts.getD k origin) (refDst.getD k origin)
      k ≠ i ∧ (inCone m.tanHalf cand ref ∨ inCone m.tanHalf ref cand)).sum

def hitsMatrix (refDst : List (Point K)) (i j : ℕ) : ℕ :=
  if m.fromPts.length < 2 then 0 else columnHits m (m.toPts.getD j origin) refDst i

def distance (i j : ℕ) : K := sqrt (distSq (m.fromPts.getD i origin) (m.toPts.getD j origin))

def travel (perm : List ℕ) : K :=
  ((List.range m.fromPts.length).map fun i => distance m i (perm.getD i 0)).sum

/-- The swaps of a drone that is in a conflict with another. -/
def swaps (n : ℕ) (conflicts : List (Conflict K)) : List (ℕ × ℕ) :=
  let involved := (conflicts.flatMap fun c => [c.lower, c.upper]).dedup.insertionSort (· ≤ ·)
  involved.flatMap fun a => ((List.range n).filter (· ≠ a)).map (a, ·)

def swapped (perm : List ℕ) (ab : ℕ × ℕ) : List ℕ :=
  (perm.set ab.1 (perm.getD ab.2 0)).set ab.2 (perm.getD ab.1 0)

abbrev Solution (K : Type) := List ℕ × List (Conflict K)

def better (s best : Solution K) : Prop :=
  s.2.length < best.2.length ∨
    (s.2.length = best.2.length ∧ travel m s.1 < travel m best.1 - 1 / 10 ^ 9)

instance : DecidableRel (better m) := fun _ _ => inferInstanceAs (Decidable (_ ∨ _))

variable [FloorRing K]

def findConeConflicts (perm : List ℕ) : List (Conflict K) :=
  let n := m.fromPts.length
  if n < 2 then []
  else (linspace m.samples).flatMap fun t =>
    let pos := fun i => flown t (m.fromPts.getD i origin) (m.toPts.getD (perm.getD i 0) origin)
    (List.range n).flatMap fun a => (List.range n).filterMap fun b =>
      let dz := (pos a).z - (pos b).z
      if a = b ∨ dz ≤ minVerticalOffsetM then none
      else
        let radius := dz * m.tanHalf
        let horiz := horizontal (pos a) (pos b)
        if horiz ≤ radius then
          some ⟨roundTo 4 t, a, b, roundTo 3 horiz, roundTo 3 radius, roundTo 3 dz⟩
        else none

def judged (perm : List ℕ) : Solution K := (perm, findConeConflicts m perm)

/-- The passes of `_repair_by_swaps`. -/
def repairBySwaps : ℕ → Solution K → Solution K
  | 0, s => s
  | passes + 1, s =>
    if s.2 = [] then s
    else
      match ((swaps s.1.length s.2).map fun ab => judged m (swapped s.1 ab)).find?
          fun c => decide (better m c s) with
      | some c => repairBySwaps passes c
      | none => s

-- `linear_sum_assignment`: the rows and the columns of the pairs that it picks
variable (linearSumAssignment : List (List K) → List ℕ × List ℕ)

/-- The first stage, with the other drones on the morph of `reference`. -/
def solve (reference : List ℕ) : List ℕ :=
  let n := m.fromPts.length
  let refDst := reference.map fun k => m.toPts.getD k origin
  let picked := linearSumAssignment (rowsOf fun i j : Fin n =>
    distance m i j + m.penaltyWeight * hitsMatrix m refDst i j)
  (picked.1.zip picked.2).foldl (fun perm rc => perm.set rc.1 rc.2) (List.replicate n 0)

/-- The loop: the best solution so far, if any, and the passes that were run. -/
def refine : ℕ → ℕ → List ℕ → List (List ℕ) → Option (Solution K) → Option (Solution K) × ℕ
  | 0, iterations, _, _, best => (best, iterations)
  | turns + 1, iterations, reference, seen, best =>
    let s := repairBySwaps m 6 (judged m (solve m linearSumAssignment reference))
    let best := match best with
      | none => s
      | some b => if better m s b then s else b
    if best.2 = [] ∨ s.1 ∈ seen then (some best, iterations + 1)
    else refine turns (iterations + 1) s.1 (s.1 :: seen) (some best)

def aerodynamicAssignment (maxIterations : ℕ) : Except String (AssignmentReport K) :=
  let n := m.fromPts.length
  if m.toPts.length ≠ n then
    .error ("formations must be equal size (got " ++ toString n ++ " vs " ++
      toString m.toPts.length ++ ")")
  else if n = 0 then .ok { totalDistanceM := 0 }
  else
    match refine m linearSumAssignment maxIterations 0 (List.range n) [] none with
    | (some best, iterations) => .ok ⟨best.1, best.2, travel m best.1, iterations⟩
    | (none, _) => .error "'NoneType' object is not subscriptable"

end

/-! ## No worse -/

variable [Sqrt K] {m : Morph K}

def NoWorse (m : Morph K) (s first : Solution K) : Prop :=
  s.2.length < first.2.length ∨ (s.2.length = first.2.length ∧ travel m s.1 ≤ travel m first.1)

lemma NoWorse.refl (s : Solution K) : NoWorse m s s := .inr ⟨rfl, le_rfl⟩

variable {s t : Solution K}

lemma NoWorse.trans {u : Solution K} (h : NoWorse m s t) (h' : NoWorse m t u) : NoWorse m s u := by
  rcases h with hlt | ⟨heq, hle⟩
  · exact .inl (hlt.trans_le (h'.elim Nat.le_of_lt fun h' => h'.1.le))
  · rcases h' with hlt' | ⟨heq', hle'⟩
    · exact .inl (heq ▸ hlt')
    · exact .inr ⟨heq.trans heq', hle.trans hle'⟩

variable [IsStrictOrderedRing K]

lemma noWorse_of_better (h : better m s t) : NoWorse m s t :=
  h.imp_right fun h => ⟨h.1, h.2.le.trans (sub_le_self _ (by positivity))⟩

variable [FloorRing K]

/-- A permutation with its own conflicts. -/
structure Sound (m : Morph K) (s : Solution K) : Prop where
  perm : s.1.Perm (List.range m.fromPts.length)
  conflicts : s.2 = findConeConflicts m s.1

lemma lt_of_mem_conflicts {perm : List ℕ} {c : Conflict K} (hc : c ∈ findConeConflicts m perm) :
    c.lower < m.fromPts.length ∧ c.upper < m.fromPts.length := by
  unfold findConeConflicts at hc
  dsimp only at hc
  split at hc
  · cases hc
  · obtain ⟨t, -, hc⟩ := List.mem_flatMap.mp hc
    obtain ⟨a, ha, hc⟩ := List.mem_flatMap.mp hc
    obtain ⟨b, hb, hc⟩ := List.mem_filterMap.mp hc
    split_ifs at hc
    obtain rfl := Option.some.inj hc
    exact ⟨List.mem_range.mp ha, List.mem_range.mp hb⟩

lemma Sound.swap (h : Sound m s) {ab : ℕ × ℕ}
    (hab : ab ∈ swaps s.1.length s.2) : Sound m (judged m (swapped s.1 ab)) := by
  have hlength : s.1.length = m.fromPts.length := h.perm.length_eq.trans List.length_range
  obtain ⟨a, ha, hab⟩ := List.mem_flatMap.mp hab
  obtain ⟨b, hb, rfl⟩ := List.mem_map.mp hab
  have hb := List.mem_range.mp (List.mem_of_mem_filter hb)
  obtain ⟨c, hc, hac⟩ := List.mem_flatMap.mp (List.mem_dedup.mp ((List.mem_insertionSort _).mp ha))
  obtain ⟨hlower, hupper⟩ := lt_of_mem_conflicts (h.conflicts ▸ hc)
  have ha : a < s.1.length := by
    rw [hlength]
    rcases List.mem_cons.mp hac with rfl | hac
    · exact hlower
    · exact List.mem_singleton.mp hac ▸ hupper
  have hget : ∀ i (hi : i < s.1.length), s.1.getD i 0 = s.1[i] := fun i hi => by
    rw [List.getD_eq_getElem?_getD, List.getElem?_eq_getElem hi, Option.getD_some]
  refine ⟨List.Perm.trans ?_ h.perm, rfl⟩
  change ((s.1.set a (s.1.getD b 0)).set b (s.1.getD a 0)).Perm s.1
  rw [hget a ha, hget b hb]
  exact List.set_set_perm ha hb

lemma Sound.repaired (h : Sound m s) (passes : ℕ) :
    Sound m (repairBySwaps m passes s) ∧ NoWorse m (repairBySwaps m passes s) s := by
  induction passes generalizing s with
  | zero => exact ⟨h, NoWorse.refl s⟩
  | succ passes ih =>
    rw [repairBySwaps]
    split
    next => exact ⟨h, NoWorse.refl s⟩
    next =>
      split
      next c hfind =>
        obtain ⟨ab, hab, rfl⟩ := List.mem_map.mp (List.mem_of_find?_eq_some hfind)
        have hbetter : better m (judged m (swapped s.1 ab)) s := by
          simpa using List.find?_some hfind
        obtain ⟨hsound, hle⟩ := ih (h.swap hab)
        exact ⟨hsound, hle.trans (noWorse_of_better hbetter)⟩
      next => exact ⟨h, NoWorse.refl s⟩

variable {linearSumAssignment : List (List K) → List ℕ × List ℕ}

lemma listed_perm {n : ℕ} (σ : Equiv.Perm (Fin n)) : (listed σ).Perm (List.range n) := by
  have hmap : listed σ = ((List.finRange n).map σ).map Fin.val := by
    rw [listed, List.ofFn_eq_map, List.map_map]
    rfl
  rw [hmap, ← List.map_coe_finRange_eq_range]
  exact (Equiv.Perm.map_finRange_perm σ).map _

lemma solve_sound (hsolves : Solves linearSumAssignment) (reference : List ℕ) :
    Sound m (judged m (solve m linearSumAssignment reference)) := by
  obtain ⟨σ, hpicked, -⟩ := hsolves fun i j : Fin m.fromPts.length =>
    distance m i j + m.penaltyWeight *
      hitsMatrix m (reference.map fun k => m.toPts.getD k origin) i j
  have hset := set_pairs (listed σ) []
  rw [length_listed, List.nil_append, List.nil_append, List.length_nil,
    ← List.range_eq_range'] at hset
  have hsolve : solve m linearSumAssignment reference = listed σ := by
    unfold solve
    dsimp only
    rw [hpicked]
    exact hset
  exact ⟨hsolve ▸ listed_perm σ, rfl⟩

/-- Whatever was best, the rest of the loop keeps it or finds what is no worse. -/
lemma refine_sound (hsolves : Solves linearSumAssignment) {first : Solution K} (turns : ℕ)
    {iterations : ℕ} {reference : List ℕ} {seen : List (List ℕ)} {b : Solution K}
    (hb : Sound m b) (hle : NoWorse m b first) :
    ∃ best passes, refine m linearSumAssignment turns iterations reference seen (some b) =
      (some best, passes) ∧ Sound m best ∧ NoWorse m best first := by
  induction turns generalizing iterations reference seen b with
  | zero => exact ⟨b, iterations, rfl, hb, hle⟩
  | succ turns ih =>
    obtain ⟨hsound, -⟩ := (solve_sound (m := m) hsolves reference).repaired 6
    rw [refine]
    generalize repairBySwaps m 6 _ = s at hsound ⊢
    have hbest : Sound m (if better m s b then s else b) ∧
        NoWorse m (if better m s b then s else b) first := by
      split
      next hbetter => exact ⟨hsound, (noWorse_of_better hbetter).trans hle⟩
      next => exact ⟨hb, hle⟩
    generalize (if better m s b then s else b) = best at hbest ⊢
    split
    next => exact ⟨_, _, rfl, hbest⟩
    next => exact ih hbest.1 hbest.2

/-- Downwash never makes the assignment worse: what is returned is a permutation with its own
conflicts and travel, no worse than the first solution. -/
theorem aerodynamicAssignment_noWorse (hsolves : Solves linearSumAssignment)
    (hsize : m.toPts.length = m.fromPts.length) {maxIterations : ℕ} (hmax : 1 ≤ maxIterations) :
    ∃ report, aerodynamicAssignment m linearSumAssignment maxIterations = .ok report ∧
      report.perm.Perm (List.range m.fromPts.length) ∧
      report.conflicts = findConeConflicts m report.perm ∧
      report.totalDistanceM = travel m report.perm ∧
      NoWorse m (report.perm, report.conflicts)
        (judged m (solve m linearSumAssignment (List.range m.fromPts.length))) := by
  obtain ⟨turns, rfl⟩ := Nat.exists_eq_add_of_le' hmax
  have hfirst := solve_sound (m := m) hsolves (List.range m.fromPts.length)
  by_cases hzero : m.fromPts.length = 0
  · have hnone : ∀ perm, findConeConflicts m perm = [] := fun perm => if_pos (hzero ▸ Nat.zero_lt_two)
    have hstill : ∀ perm, travel m perm = 0 := fun perm => by
      rw [travel, hzero]
      rfl
    refine ⟨{ totalDistanceM := 0 }, ?_, ?_, (hnone _).symm, (hstill _).symm, .inr ⟨?_, ?_⟩⟩
    · rw [aerodynamicAssignment, if_neg (not_not.mpr hsize), if_pos hzero]
    · rw [hzero]
      exact List.Perm.refl []
    · rw [judged, hnone]
    · rw [hstill, hstill]
  · obtain ⟨hsound, hle⟩ := hfirst.repaired 6
    obtain ⟨best, passes, hrun, hbest, hno⟩ : ∃ best passes, refine m linearSumAssignment
        (turns + 1) 0 (List.range m.fromPts.length) [] none = (some best, passes) ∧ Sound m best ∧
        NoWorse m best
          (judged m (solve m linearSumAssignment (List.range m.fromPts.length))) := by
      rw [refine]
      split
      next => exact ⟨_, _, rfl, hsound, hle⟩
      next => exact refine_sound hsolves turns hsound hle
    refine ⟨⟨best.1, best.2, travel m best.1, passes⟩, ?_, hbest.perm, hbest.conflicts, rfl, hno⟩
    rw [aerodynamicAssignment, if_neg (not_not.mpr hsize), if_neg hzero, hrun]

def exchange : Morph ℚ where
  fromPts := [⟨0, 0, -8⟩, ⟨1, 0, -5⟩]
  toPts := [⟨1, 0, -5⟩, ⟨0, 0, -8⟩]
  penaltyWeight := 1000
  samples := 11
  tanHalf := 577 / 1000

theorem aerodynamicAssignment_noWorse_exchange :
    ∃ report, aerodynamicAssignment exchange searched 4 = .ok report ∧
      report.perm.Perm (List.range 2) ∧
      report.conflicts = findConeConflicts exchange report.perm := by
  obtain ⟨report, hreport, hperm, hconflicts, -⟩ :=
    aerodynamicAssignment_noWorse (m := exchange) solves_searched rfl (Nat.le_add_left 1 3)
  exact ⟨report, hreport, hperm, hconflicts⟩

end Taramandal.Studio.AeroAssignment
