import Taramandal.Studio.Samples

/-! # The speeds of a show

A leg is easier in its middle: the longest of its steps is the one there, which has a closed
form (`largestStep`). A leg keeps to the budget exactly when that step of the farthest way
does; one that was not shortened to a whole number of samples always does. -/
namespace Taramandal.Studio.SpeedBudget

open Lib.Pairs Studio.Layout Studio.Formations Studio.Sequencer Studio.Plans
open Studio.Samples

/-! ## The steps of the easing -/

/-- The step of an easing over `N` samples whose middle is `m / (2 N)` from the middle of the
leg. -/
noncomputable def stepAt (P : Pacing ℝ) (N : ℕ) (m : ℝ) : ℝ :=
  match P.profile with
  | .smoothstep => (3 * N ^ 2 - 3 * m ^ 2 - 1) / (2 * N ^ 3)
  | .smootherstep _ =>
    (15 * N ^ 4 - 10 * N ^ 2 * (3 * m ^ 2 + 1) + 3 * (5 * m ^ 4 + 10 * m ^ 2 + 1)) / (8 * N ^ 5)

/-- The longest step: in the very middle, or next to it. -/
noncomputable def largestStep (P : Pacing ℝ) (N : ℕ) : ℝ := stepAt P N (if N % 2 = 1 then 0 else 1)

variable {P : Pacing ℝ}

lemma ease_smoothstep (h : P.profile = .smoothstep) (u : ℝ) :
    ease (some P) u = u * u * (3 - 2 * u) := by
  unfold ease
  rw [Option.map_some, h]

lemma ease_smootherstep {maxJerk : ℝ} (h : P.profile = .smootherstep maxJerk) (u : ℝ) :
    ease (some P) u = u * u * u * (u * (6 * u - 15) + 10) := by
  unfold ease
  rw [Option.map_some, h]

variable {N k : ℕ}

lemma ease_step (P : Pacing ℝ) (hk : k < N) :
    ease (some P) ((k + 1 : ℕ) / (N : ℝ)) - ease (some P) (k / (N : ℝ)) =
      stepAt P N (2 * k + 1 - N) := by
  have hN : (N : ℝ) ≠ 0 := Nat.cast_ne_zero.mpr (by omega)
  unfold stepAt
  cases hP : P.profile with
  | smoothstep =>
    rw [ease_smoothstep hP, ease_smoothstep hP]
    push_cast
    field_simp
    ring
  | smootherstep maxJerk =>
    rw [ease_smootherstep hP, ease_smootherstep hP]
    push_cast
    field_simp
    ring

lemma offset_sq_le (hk : k < N) : (2 * k + 1 - N : ℝ) ^ 2 ≤ (N - 1) ^ 2 := by
  have hk' : (k : ℝ) + 1 ≤ N := by exact_mod_cast hk
  have hk0 : (0 : ℝ) ≤ k := Nat.cast_nonneg k
  exact sq_le_sq' (by linarith) (by linarith)

lemma offset_sq_ge : (if N % 2 = 1 then 0 else 1 : ℝ) ^ 2 ≤ (2 * k + 1 - N : ℝ) ^ 2 := by
  split
  · rw [zero_pow two_ne_zero]
    exact sq_nonneg _
  · next heven =>
    have hne : (2 * k + 1 - N : ℤ) ≠ 0 := by omega
    have hone : (1 : ℤ) ≤ (2 * k + 1 - N : ℤ) ^ 2 := by
      have := sq_pos_of_ne_zero hne
      omega
    rw [one_pow]
    exact_mod_cast hone

lemma stepAt_le (P : Pacing ℝ) (hk : k < N) : stepAt P N (2 * k + 1 - N) ≤ largestStep P N := by
  have hN : (1 : ℝ) ≤ N := by exact_mod_cast Nat.one_le_of_lt hk
  have hle := offset_sq_le hk
  have hge := offset_sq_ge (N := N) (k := k)
  unfold largestStep
  generalize (2 * k + 1 - N : ℝ) = m at hle hge
  generalize (if N % 2 = 1 then 0 else 1 : ℝ) = m₀ at hge
  unfold stepAt
  split
  · refine div_le_div_of_nonneg_right ?_ (by positivity)
    linarith
  · refine div_le_div_of_nonneg_right ?_ (by positivity)
    have hsum : m ^ 2 + m₀ ^ 2 + 2 ≤ 2 * N ^ 2 := by linarith [hge.trans hle]
    nlinarith [mul_nonneg (sub_nonneg.mpr hge) (sub_nonneg.mpr hsum)]

lemma stepAt_nonneg (P : Pacing ℝ) (hk : k < N) : 0 ≤ stepAt P N (2 * k + 1 - N) := by
  have hN : (1 : ℝ) ≤ N := by exact_mod_cast Nat.one_le_of_lt hk
  have hle := offset_sq_le hk
  generalize (2 * k + 1 - N : ℝ) = m at hle
  have hroom : 2 * N - 1 ≤ (N : ℝ) ^ 2 - m ^ 2 := by linarith
  unfold stepAt
  split
  · refine div_nonneg ?_ (by positivity)
    linarith
  · refine div_nonneg ?_ (by positivity)
    have hsq : (2 * N - 1 : ℝ) ^ 2 ≤ (N ^ 2 - m ^ 2) ^ 2 :=
      pow_le_pow_left₀ (by linarith) hroom 2
    nlinarith [sq_nonneg m, sq_nonneg (5 * (N : ℝ) - 3)]

noncomputable def horizontal (a b : Point ℝ) : ℝ := hypot2 (a.x - b.x) (a.y - b.y)

variable {α : Type}

lemma foldl_max_spec (f : α → ℝ) (as : List α) (m : ℝ) : (m ≤ as.foldl (fun m a => max m (f a)) m ∧
      ∀ a ∈ as, f a ≤ as.foldl (fun m a => max m (f a)) m) ∧
    (as.foldl (fun m a => max m (f a)) m = m ∨
      ∃ a ∈ as, as.foldl (fun m a => max m (f a)) m = f a) := by
  induction as generalizing m with
  | nil => exact ⟨⟨le_rfl, fun a ha => absurd ha List.not_mem_nil⟩, .inl rfl⟩
  | cons a as ih =>
    obtain ⟨⟨hm, hall⟩, hatt⟩ := ih (max m (f a))
    rw [List.foldl_cons]
    refine ⟨⟨(le_max_left _ _).trans hm, fun b hb => ?_⟩, ?_⟩
    · rcases List.mem_cons.mp hb with rfl | hb
      · exact (le_max_right _ _).trans hm
      · exact hall b hb
    · rcases hatt with hatt | ⟨b, hb, hatt⟩
      · rw [hatt]
        rcases max_choice m (f a) with hmax | hmax
        · exact .inl hmax
        · exact .inr ⟨a, List.mem_cons_self, hmax⟩
      · exact .inr ⟨b, List.mem_cons_of_mem _ hb, hatt⟩

lemma mul_foldl_max_le (f : α → ℝ) (as : List α) {c limit : ℝ} (hc : 0 ≤ c) (hlimit : 0 ≤ limit) :
    c * as.foldl (fun m a => max m (f a)) 0 ≤ limit ↔ ∀ a ∈ as, c * f a ≤ limit := by
  obtain ⟨⟨-, hall⟩, hatt⟩ := foldl_max_spec f as 0
  constructor
  · exact fun h a ha => (mul_le_mul_of_nonneg_left (hall a ha) hc).trans h
  · intro h
    rcases hatt with hatt | ⟨a, ha, hatt⟩
    · rw [hatt, mul_zero]
      exact hlimit
    · rw [hatt]
      exact h a ha

lemma maxTravel_eq (start goal : List (Point ℝ)) : (maxTravel start goal).dh =
      (start.zip goal).foldl (fun m p => max m (horizontal p.1 p.2)) 0 ∧
    (maxTravel start goal).up = (start.zip goal).foldl (fun m p => max m (p.1.z - p.2.z)) 0 ∧
    (maxTravel start goal).down = (start.zip goal).foldl (fun m p => max m (p.2.z - p.1.z)) 0 := by
  have hfold : ∀ (ps : List (Point ℝ × Point ℝ)) (t : Travel ℝ),
      (ps.foldl Travel.widen t).dh = ps.foldl (fun m p => max m (horizontal p.1 p.2)) t.dh ∧
      (ps.foldl Travel.widen t).up = ps.foldl (fun m p => max m (p.1.z - p.2.z)) t.up ∧
      (ps.foldl Travel.widen t).down = ps.foldl (fun m p => max m (p.2.z - p.1.z)) t.down := by
    intro ps
    induction ps with
    | nil => exact fun t => ⟨rfl, rfl, rfl⟩
    | cons p ps ih => exact fun t => ih (t.widen p)
  exact hfold _ _

/-! ## Legs -/

/-- From one sample to the next within the budget; without a pacing there is none to keep. -/
def Within (P : Option (Pacing ℝ)) (r : ℝ) (a b : Point ℝ) : Prop :=
  match P with
  | none => False
  | some P =>
    horizontal a b ≤ P.maxH / r ∧ a.z - b.z ≤ P.maxV / r ∧ b.z - a.z ≤ P.maxDown / r

/-- A leg whose longest step is within the budget, for the farthest way in each direction. -/
def LegWithin (P : Option (Pacing ℝ)) (r : ℝ) (leg : Leg ℝ) : Prop :=
  match P with
  | none => False
  | some P =>
    largestStep P (legSteps leg r) * (maxTravel leg.start leg.goal).dh ≤ P.maxH / r ∧
    largestStep P (legSteps leg r) * (maxTravel leg.start leg.goal).up ≤ P.maxV / r ∧
    largestStep P (legSteps leg r) * (maxTravel leg.start leg.goal).down ≤ P.maxDown / r

/-- A pacing with budgets. -/
structure Budgeted (P : Pacing ℝ) : Prop where
  maxH : 0 < P.maxH
  maxV : 0 < P.maxV
  maxDown : 0 < P.maxDown

lemma budgeted_of_pacingOf {pacing : String} (h : pacingOf pacing = some P) : Budgeted P := by
  have hstandard : Budgeted (standard : Pacing ℝ) := by
    constructor
    · norm_num [standard]
    · norm_num [standard]
    · norm_num [standard]
  unfold pacingOf at h
  split at h
  · exact Option.some.inj h ▸ hstandard
  · split at h
    · obtain rfl := Option.some.inj h
      constructor
      · norm_num [fast]
      · norm_num [fast]
      · norm_num [fast]
    · split at h
      · cases h
      · exact Option.some.inj h ▸ hstandard

lemma horizontal_between (a b : Point ℝ) {w w' : ℝ} (h : 0 ≤ w' - w) :
    horizontal (between a b w) (between a b w') = (w' - w) * horizontal a b := by
  unfold horizontal hypot2 between
  change √_ = _ * √_
  dsimp only
  rw [← Real.sqrt_sq h, ← Real.sqrt_mul (sq_nonneg _)]
  congr 1
  ring

lemma within_between_iff (P : Pacing ℝ) (r : ℝ) (a b : Point ℝ) {w w' : ℝ} (h : 0 ≤ w' - w) :
    Within (some P) r (between a b w) (between a b w') ↔
      (w' - w) * horizontal a b ≤ P.maxH / r ∧ (w' - w) * (a.z - b.z) ≤ P.maxV / r ∧
        (w' - w) * (b.z - a.z) ≤ P.maxDown / r := by
  have hup : (between a b w).z - (between a b w').z = (w' - w) * (a.z - b.z) := by
    unfold between
    ring
  have hdown : (between a b w').z - (between a b w).z = (w' - w) * (b.z - a.z) := by
    unfold between
    ring
  unfold Within
  rw [horizontal_between a b h, hup, hdown]

lemma exists_middle (P : Pacing ℝ) (hN : 1 ≤ N) :
    ∃ k < N, stepAt P N (2 * k + 1 - N) = largestStep P N := by
  refine ⟨N / 2, by omega, ?_⟩
  unfold largestStep
  congr 1
  split
  · next hodd =>
    have hN2 : (N : ℝ) = 2 * (N / 2 : ℕ) + 1 := by
      exact_mod_cast (by omega : N = 2 * (N / 2) + 1)
    linarith
  · next heven =>
    have hN2 : (N : ℝ) = 2 * (N / 2 : ℕ) := by
      exact_mod_cast (by omega : N = 2 * (N / 2))
    linarith

/-- All steps are within a limit exactly when the longest one of the farthest way is. -/
lemma steps_le_iff (P : Pacing ℝ) (hN : 1 ≤ N) (f : α → ℝ) (as : List α) {limit : ℝ}
    (hlimit : 0 ≤ limit) :
    (∀ k < N, ∀ a ∈ as, stepAt P N (2 * k + 1 - N) * f a ≤ limit) ↔
      largestStep P N * as.foldl (fun m a => max m (f a)) 0 ≤ limit := by
  obtain ⟨k, hk, hlargest⟩ := exists_middle P hN
  have hnonneg : 0 ≤ largestStep P N := hlargest ▸ stepAt_nonneg P hk
  rw [mul_foldl_max_le f as hnonneg hlimit]
  constructor
  · exact fun h a ha => hlargest ▸ h k hk a ha
  · intro h k hk a ha
    rcases le_total 0 (f a) with hpos | hneg
    · exact (mul_le_mul_of_nonneg_right (stepAt_le P hk) hpos).trans (h a ha)
    · exact (mul_nonpos_of_nonneg_of_nonpos (stepAt_nonneg P hk) hneg).trans hlimit

lemma legWithin_iff (hP : Budgeted P) {r : ℝ} (hr : 0 < r) {leg : Leg ℝ} (hN : 1 ≤ legSteps leg r) :
    (∀ k < legSteps leg r, ∀ p ∈ leg.start.zip leg.goal, Within (some P) r
      (between p.1 p.2 (ease (some P) (k / (legSteps leg r : ℝ))))
      (between p.1 p.2 (ease (some P) ((k + 1 : ℕ) / (legSteps leg r : ℝ))))) ↔
      LegWithin (some P) r leg := by
  obtain ⟨hdh, hup, hdown⟩ := maxTravel_eq leg.start leg.goal
  unfold LegWithin
  dsimp only
  rw [hdh, hup, hdown, ← steps_le_iff P hN (fun p : Point ℝ × Point ℝ => horizontal p.1 p.2) _
      (div_nonneg hP.maxH.le hr.le),
    ← steps_le_iff P hN (fun p : Point ℝ × Point ℝ => p.1.z - p.2.z) _
      (div_nonneg hP.maxV.le hr.le),
    ← steps_le_iff P hN (fun p : Point ℝ × Point ℝ => p.2.z - p.1.z) _
      (div_nonneg hP.maxDown.le hr.le)]
  have hstep : ∀ {k : ℕ}, k < legSteps leg r → ∀ p : Point ℝ × Point ℝ, Within (some P) r
      (between p.1 p.2 (ease (some P) (k / (legSteps leg r : ℝ))))
      (between p.1 p.2 (ease (some P) ((k + 1 : ℕ) / (legSteps leg r : ℝ)))) ↔
      stepAt P (legSteps leg r) (2 * k + 1 - legSteps leg r) * horizontal p.1 p.2 ≤ P.maxH / r ∧
      stepAt P (legSteps leg r) (2 * k + 1 - legSteps leg r) * (p.1.z - p.2.z) ≤ P.maxV / r ∧
      stepAt P (legSteps leg r) (2 * k + 1 - legSteps leg r) * (p.2.z - p.1.z) ≤ P.maxDown / r := by
    intro k hk p
    have hnonneg := stepAt_nonneg P hk
    rw [← ease_step P hk] at hnonneg ⊢
    exact within_between_iff P r p.1 p.2 hnonneg
  constructor
  · intro h
    exact ⟨fun k hk p hp => ((hstep hk p).mp (h k hk p hp)).1,
      fun k hk p hp => ((hstep hk p).mp (h k hk p hp)).2.1,
      fun k hk p hp => ((hstep hk p).mp (h k hk p hp)).2.2⟩
  · intro ⟨h1, h2, h3⟩ k hk p hp
    exact (hstep hk p).mpr ⟨h1 k hk p hp, h2 k hk p hp, h3 k hk p hp⟩

section Plan

variable {shapes : Shapes ℝ}

/-- What `buildSequencedShow` samples, before it rounds. -/
noncomputable def samples (scenes : List (Scene shapes)) (n : ℕ) (rate : ℝ) (targetIdx : Js ℝ)
    (pacing : String) : Except (ShowError ℝ) (List (List (Point ℝ))) :=
  match scenes.getLast? with
  | none => .ok []
  | some last =>
    if n < 1 then .ok []
    else (planShow scenes last n targetIdx pacing).map fun plan =>
      frames (pacingOf pacing) (max 1 rate) plan.1 n

/-- Every leg of the plan that is sampled has its longest step within the budget. -/
def InBudget (scenes : List (Scene shapes)) (n : ℕ) (rate : ℝ) (targetIdx : Js ℝ)
    (pacing : String) : Prop :=
  ∀ last legs assignment, scenes.getLast? = some last → 1 ≤ n →
    planShow scenes last n targetIdx pacing = .ok (legs, assignment) →
    ∀ leg ∈ legs, 1 ≤ legSteps leg (max 1 rate) → LegWithin (pacingOf pacing) (max 1 rate) leg

/-- Every two samples that follow one another are within the budget, for every drone. -/
def SpeedsWithin (P : Option (Pacing ℝ)) (r : ℝ) (n : ℕ) (all : List (List (Point ℝ))) : Prop :=
  ∀ ff ∈ steps all, ∀ i < n,
    Within P r (ff.1.getD i { x := 0, y := 0, z := 0 }) (ff.2.getD i { x := 0, y := 0, z := 0 })

variable {P : Pacing ℝ} {n : ℕ} {r : ℝ}

lemma speedsWithin_iff_of_paced (hP : Budgeted P) (hr : 0 < r) {scenes : List (Scene shapes)}
    {gap : ℝ} {ret : List ℕ} {legs : List (Leg ℝ)} (h : Planned (some P) scenes gap n ret legs)
    (hret : ret.Perm (List.range n)) :
    SpeedsWithin (some P) r n (frames (some P) r legs n) ↔
      ∀ leg ∈ legs, 1 ≤ legSteps leg r → LegWithin (some P) r leg := by
  have hlengths := h.lengths hret
  have hlegs : SpeedsWithin (some P) r n (frames (some P) r legs n) ↔ ∀ leg ∈ legs,
      ∀ k < legSteps leg r, ∀ p ∈ leg.start.zip leg.goal, Within (some P) r
        (between p.1 p.2 (ease (some P) (k / (legSteps leg r : ℝ))))
        (between p.1 p.2 (ease (some P) ((k + 1 : ℕ) / (legSteps leg r : ℝ)))) := by
    unfold SpeedsWithin frames
    rw [steps_frames h.linked (Planned.paced h hret r)]
    constructor
    · intro hall leg hleg k hk p hp
      obtain ⟨i, hi⟩ := List.mem_iff_getElem?.mp hp
      obtain ⟨ha, hb⟩ := List.getElem?_zip_eq_some.mp hi
      have hin : i < n := (hlengths leg hleg).1 ▸ (List.getElem?_eq_some_iff.mp ha).1
      have hstep := hall _ (List.mem_flatMap.mpr ⟨leg, hleg, List.mem_map.mpr
        ⟨k, List.mem_range.mpr hk, rfl⟩⟩) i hin
      dsimp only [Leg.sample] at hstep
      rwa [Leg.getD_at ha hb, Leg.getD_at ha hb] at hstep
    · intro hall ff hff i hi
      obtain ⟨leg, hleg, hff⟩ := List.mem_flatMap.mp hff
      obtain ⟨k, hk, rfl⟩ := List.mem_map.mp hff
      obtain ⟨hstart, hgoal⟩ := hlengths leg hleg
      have ha := List.getElem?_eq_getElem (hstart.symm ▸ hi : i < leg.start.length)
      have hb := List.getElem?_eq_getElem (hgoal.symm ▸ hi : i < leg.goal.length)
      dsimp only [Leg.sample]
      rw [Leg.getD_at ha hb, Leg.getD_at ha hb]
      exact hall leg hleg k (List.mem_range.mp hk) (_, _)
        (List.mem_iff_getElem?.mpr ⟨i, List.getElem?_zip_eq_some.mpr ⟨ha, hb⟩⟩)
  rw [hlegs]
  constructor
  · intro hall leg hleg hN
    exact (legWithin_iff hP hr hN).mp (hall leg hleg)
  · intro hall leg hleg k hk
    have hN := Nat.one_le_of_lt hk
    exact (legWithin_iff hP hr hN).mpr (hall leg hleg hN) k hk

lemma speedsWithin_none_iff (hn : 1 ≤ n) (legs : List (Leg ℝ)) :
    SpeedsWithin none r n (frames none r legs n) ↔
      ∀ leg ∈ legs, 1 ≤ legSteps leg r → LegWithin none r leg := by
  constructor
  · intro hall leg hleg hN
    have hne : legs.flatMap (legFrames none r) ≠ [] := by
      intro hnil
      have hmem : leg.at (ease none ((0 : ℕ) / (legSteps leg r : ℝ))) ∈
          legs.flatMap (legFrames none r) :=
        List.mem_flatMap.mpr ⟨leg, hleg, List.mem_map.mpr ⟨0, List.mem_range.mpr hN, rfl⟩⟩
      rw [hnil] at hmem
      cases hmem
    obtain ⟨f, rest, hf⟩ := List.exists_cons_of_ne_nil hne
    obtain ⟨f', hf'⟩ : ∃ f', (rest ++ [ground n]).head? = some f' := by
      cases rest with
      | nil => exact ⟨_, rfl⟩
      | cons f' rest => exact ⟨_, rfl⟩
    have hstep : (f, f') ∈ steps (frames none r legs n) := by
      rw [frames, hf, List.cons_append, steps_cons hf']
      exact List.mem_cons_self
    exact hall _ hstep 0 hn
  · intro hall ff hff
    have hnil : legs.flatMap (legFrames none r) = [] := by
      refine List.flatMap_eq_nil_iff.mpr fun leg hleg => ?_
      have hzero : legSteps leg r = 0 := by
        by_contra hne
        exact hall leg hleg (Nat.one_le_iff_ne_zero.mpr hne)
      rw [legFrames_eq, hzero]
      rfl
    rw [frames, hnil] at hff
    cases hff

/-- What the budget is, of rounded samples. -/
structure RoundedWithin (P : Pacing ℝ) (r : ℝ) (w w' : Waypoint ℝ) : Prop where
  horizontal : hypot2 (w.x - w'.x) (w.y - w'.y) ≤ P.maxH / r + √2 / 100
  climb : w.z - w'.z ≤ P.maxV / r + 1 / 100
  descent : w'.z - w.z ≤ P.maxDown / r + 1 / 100

lemma hypot2_le {x y d e : ℝ} (hx : |x - d| ≤ 1 / 100) (hy : |y - e| ≤ 1 / 100) :
    hypot2 x y ≤ hypot2 d e + √2 / 100 := by
  have hnorm : ∀ u v : ℝ, hypot2 u v = ‖(⟨u, v⟩ : ℂ)‖ := by
    intro u v
    rw [Complex.norm_def, Complex.normSq_mk]
    rfl
  have hoff : ‖(⟨x - d, y - e⟩ : ℂ)‖ ≤ √2 / 100 := by
    rw [Complex.norm_def, Complex.normSq_mk]
    refine Real.sqrt_le_iff.mpr ⟨by positivity, ?_⟩
    rw [div_pow, Real.sq_sqrt (by norm_num)]
    nlinarith [sq_le_sq' (abs_le.mp hx).1 (abs_le.mp hx).2,
      sq_le_sq' (abs_le.mp hy).1 (abs_le.mp hy).2]
  have hsum : (⟨x, y⟩ : ℂ) = ⟨d, e⟩ + ⟨x - d, y - e⟩ := by
    apply Complex.ext
    · simp
    · simp
  rw [hnorm x y, hnorm d e, hsum]
  exact (norm_add_le _ _).trans (by linarith)

lemma roundedWithin_of_within {t t' : ℝ} {a b : Point ℝ} (h : Within (some P) r a b) :
    RoundedWithin P r (waypoint t a) (waypoint t' b) := by
  obtain ⟨hh, hv, hd⟩ := h
  constructor
  · have hle := hypot2_le (abs_round2_sub_sub_le a.x b.x) (abs_round2_sub_sub_le a.y b.y)
    exact hle.trans (by unfold SpeedBudget.horizontal at hh; linarith)
  · have hz := (abs_le.mp (abs_round2_sub_sub_le a.z b.z)).2
    change round2 a.z - round2 b.z ≤ _
    linarith
  · have hz := (abs_le.mp (abs_round2_sub_sub_le b.z a.z)).2
    change round2 b.z - round2 a.z ≤ _
    linarith

lemma roundedWithin_of_speedsWithin {i : ℕ} {all : List (List (Point ℝ))}
    (h : SpeedsWithin (some P) r n all) (hi : i < n) :
    ∀ ww ∈ steps (column r all i), RoundedWithin P r ww.1 ww.2 := by
  intro ww hww
  obtain ⟨k, hk, hk'⟩ := mem_steps_iff.mp hww
  rw [getElem?_column] at hk hk'
  obtain ⟨f, hf, hw⟩ := Option.map_eq_some_iff.mp hk
  obtain ⟨f', hf', hw'⟩ := Option.map_eq_some_iff.mp hk'
  rw [← hw, ← hw']
  exact roundedWithin_of_within (h (f, f') (mem_steps_iff.mpr ⟨k, hf, hf'⟩) i hi)

/-- Speeds keep to the budget, up to the rounding of the samples, exactly when the longest step
of every leg does. -/
theorem speeds_iff {scenes : List (Scene shapes)} {n : ℕ} {rate : ℝ} {targetIdx : Js ℝ}
    {pacing : String} {s : Show ℝ}
    (h : buildSequencedShow scenes n rate targetIdx pacing = .ok s) :
    ∃ all, samples scenes n rate targetIdx pacing = .ok all ∧
      (∀ (i : ℕ) (ws : List (Waypoint ℝ)), s.drones[i]? = some ws →
        i < n ∧ ws = column (max 1 rate) all i) ∧
      (SpeedsWithin (pacingOf pacing) (max 1 rate) n all ↔
        InBudget scenes n rate targetIdx pacing) ∧
      (InBudget scenes n rate targetIdx pacing → ∀ P : Pacing ℝ, pacingOf pacing = some P →
        ∀ ws ∈ s.drones, ∀ ww ∈ steps ws, RoundedWithin P (max 1 rate) ww.1 ww.2) := by
  have hr : (0 : ℝ) < max 1 rate := lt_of_lt_of_le one_pos (le_max_left _ _)
  obtain ⟨hempty, hnone⟩ | ⟨last, legs, assignment, hlast, hn, hplan, hdrones⟩ :=
    buildSequencedShow_ok h
  · have hsamples : samples scenes n rate targetIdx pacing = .ok [] := by
      unfold samples
      rcases hempty with rfl | hn
      · rfl
      · split
        · rfl
        · exact if_pos hn
    have hbudget : InBudget scenes n rate targetIdx pacing := by
      intro last legs assignment hlast hn
      rcases hempty with rfl | hn'
      · cases hlast
      · exact absurd hn (by omega)
    refine ⟨[], hsamples, ?_, ⟨fun _ => hbudget, fun _ ff hff => nomatch hff⟩, ?_⟩
    · intro i ws hws
      rw [hnone] at hws
      cases hws
    · intro _ P _ ws hws
      rw [hnone] at hws
      cases hws
  · obtain ⟨rfl, hplanned⟩ := planShow_ok hplan
    obtain ⟨-, hret⟩ := normalizeAssignment_perm targetIdx scenes.length n
    have hbudget : InBudget scenes n rate targetIdx pacing ↔ ∀ leg ∈ legs,
        1 ≤ legSteps leg (max 1 rate) → LegWithin (pacingOf pacing) (max 1 rate) leg := by
      constructor
      · exact fun hall => hall last legs _ hlast hn hplan
      · intro hall last' legs' assignment' hlast' _ hplan'
        obtain rfl := Option.some.inj (hlast.symm.trans hlast')
        obtain ⟨rfl, -⟩ := Prod.mk.inj (Except.ok.inj (hplan.symm.trans hplan'))
        exact hall
    have hspeeds : SpeedsWithin (pacingOf pacing) (max 1 rate) n
        (frames (pacingOf pacing) (max 1 rate) legs n) ↔
          InBudget scenes n rate targetIdx pacing := by
      rw [hbudget]
      cases hP : (pacingOf pacing : Option (Pacing ℝ)) with
      | none => exact speedsWithin_none_iff hn legs
      | some P =>
        rw [hP] at hplanned
        exact speedsWithin_iff_of_paced (budgeted_of_pacingOf hP) hr hplanned hret
    have hcolumn : ∀ (i : ℕ) (ws : List (Waypoint ℝ)), s.drones[i]? = some ws → i < n ∧
        ws = column (max 1 rate) (frames (pacingOf pacing) (max 1 rate) legs n) i := by
      intro i ws hws
      rw [hdrones, List.getElem?_map] at hws
      obtain ⟨i', hi', rfl⟩ := Option.map_eq_some_iff.mp hws
      obtain ⟨hlt, hi'⟩ := List.getElem?_eq_some_iff.mp hi'
      rw [List.getElem_range] at hi'
      rw [List.length_range] at hlt
      subst hi'
      exact ⟨hlt, rfl⟩
    refine ⟨_, ?_, hcolumn, hspeeds, ?_⟩
    · unfold samples
      rw [hlast]
      dsimp only
      rw [if_neg (by omega), hplan]
      rfl
    · intro hin P hP ws hws
      obtain ⟨i, hi⟩ := List.mem_iff_getElem?.mp hws
      obtain ⟨hlt, rfl⟩ := hcolumn i ws hi
      have hall := hspeeds.mpr hin
      rw [hP] at hall ⊢
      exact roundedWithin_of_speedsWithin hall hlt

end Plan

theorem speeds_iff_above : ∃ s, buildSequencedShow [exactScene (above (-8))] 1 10 .other
      "standard" = .ok s ∧
    ∃ all, samples [exactScene (above (-8))] 1 10 .other "standard" = .ok all ∧
      (∀ (i : ℕ) (ws : List (Waypoint ℝ)), s.drones[i]? = some ws →
        i < 1 ∧ ws = column (max 1 10) all i) ∧
      (SpeedsWithin (pacingOf "standard") (max 1 10) 1 all ↔
        InBudget [exactScene (above (-8))] 1 10 .other "standard") ∧
      (InBudget [exactScene (above (-8))] 1 10 .other "standard" →
        ∀ P : Pacing ℝ, pacingOf "standard" = some P →
        ∀ ws ∈ s.drones, ∀ ww ∈ steps ws, RoundedWithin P (max 1 10) ww.1 ww.2) := by
  obtain ⟨s, hs, -⟩ := buildSequencedShow_of_plan 10 rfl le_rfl
    (plan_above (by norm_num : -(-8) ≤ (120 : ℝ)))
  exact ⟨s, hs, speeds_iff hs⟩

noncomputable def descent : Leg ℝ :=
  pacedLeg (some standard) .morph (above (-(47 / 2))) (hover 1) (nonNeg none)

lemma hover_one : (hover 1 : List (Point ℝ)) = above (-8) := by
  change [hoverAt 0] = _
  norm_num [hoverAt, padAt, padCols, padSpacing, hoverLevel, showAlt, hoverStep, above]

lemma legSteps_descent : legSteps descent 1 = 19 := by
  have htravel : maxTravel (above (-(47 / 2))) (hover 1) =
      { dh := 0, dv := 31 / 2, up := 0, down := (31 / 2 : ℝ) } := by
    rw [hover_one]
    change Travel.mk (max 0 √((0 - 0) * (0 - 0) + (0 - 0) * (0 - 0))) (max 0 |-(47 / 2) - -8|)
      (max 0 (-(47 / 2) - -8)) (max 0 (-8 - -(47 / 2))) = _
    norm_num [abs_of_neg]
  have hsecs : descent.secs = some (155 / 8) := by
    change easedSecs (nonNeg none) (maxTravel (above (-(47 / 2))) (hover 1)) (some standard) = _
    have hdist : hypot2 (0 : ℝ) (31 / 2) = 31 / 2 := by
      change √(0 * 0 + 31 / 2 * (31 / 2)) = 31 / 2
      rw [mul_zero, zero_add, Real.sqrt_mul_self (by norm_num)]
    have hacc : √(6 * (31 / 2) / 3) ≤ (155 / 8 : ℝ) := by
      rw [Real.sqrt_le_left (by norm_num)]
      norm_num
    have hedge : √(6 * (31 / 2) / maxEdgeAccel) ≤ (155 / 8 : ℝ) := by
      rw [Real.sqrt_le_left (by norm_num)]
      norm_num [maxEdgeAccel]
    rw [htravel]
    change some (max (max 0 0) (max (15 / 10 * 0 / (32 / 10)) (max (15 / 10 * 0 / (24 / 10))
      (max (15 / 10 * (31 / 2) / (12 / 10)) (max √(6 * hypot2 0 (31 / 2) / 3)
        √(6 * hypot2 0 (31 / 2) / maxEdgeAccel)))))) = _
    have hpaced : (15 / 10 * (31 / 2) / (12 / 10) : ℝ) = 155 / 8 := by norm_num
    rw [hdist, hpaced, max_eq_left (max_le hacc hedge)]
    norm_num
  unfold legSteps
  rw [hsecs]
  change max 1 (⌊(155 / 8 : ℝ) * 1 + 1 / 2⌋).toNat = 19
  norm_num
  rfl

noncomputable def heightAt (m : ℕ) : ℝ :=
  -(47 / 2) + 31 / 2 * (m / 19 * (m / 19) * (3 - 2 * (m / 19)))

lemma sample_descent (m : ℕ) : Leg.sample descent (some standard) 1 m = above (heightAt m) := by
  rw [Leg.sample, legSteps_descent, ease_smoothstep rfl]
  change (above (-(47 / 2))).zipWith _ (hover 1) = _
  rw [hover_one]
  change [Point.mk _ _ _] = [Point.mk _ _ _]
  unfold heightAt
  norm_num

theorem speeds_break : ∃ s ws w w',
    buildSequencedShow [exactScene (above (-(47 / 2)))] 1 1 .other "standard" = .ok s ∧
      ws ∈ s.drones ∧ (w, w') ∈ steps ws ∧
      (standard : Pacing ℝ).maxDown / 1 + 1 / 100 < w'.z - w.z := by
  have hplan := plan_above (by norm_num : -(-(47 / 2)) ≤ (120 : ℝ))
  obtain ⟨s, hs, hdrones, -⟩ := buildSequencedShow_of_plan 1 rfl le_rfl hplan
  obtain ⟨-, hplanned⟩ := planShow_ok hplan
  obtain ⟨-, hret⟩ := normalizeAssignment_perm (Js.other : Js ℝ) 1 1
  rw [pacing_standard, max_self] at hdrones
  rw [pacing_standard] at hplanned
  have hmem : (Leg.sample descent (some standard) 1 9, Leg.sample descent (some standard) 1 10) ∈
      steps (frames (some standard) 1 (legsAbove (-(47 / 2))) 1) := by
    rw [frames, steps_frames hplanned.linked (Planned.paced hplanned hret 1)]
    refine List.mem_flatMap.mpr ⟨descent, ?_, List.mem_map.mpr ⟨9, ?_, rfl⟩⟩
    · exact List.mem_cons_of_mem _ (List.mem_cons_of_mem _ (List.mem_cons_of_mem _
        List.mem_cons_self))
    · rw [legSteps_descent]
      exact List.mem_range.mpr (by norm_num)
  rw [sample_descent, sample_descent] at hmem
  obtain ⟨k, hk, hk'⟩ := mem_steps_iff.mp hmem
  refine ⟨s, column 1 (frames (some standard) 1 (legsAbove (-(47 / 2))) 1) 0,
    waypoint (k * (1 / 1)) { x := 0, y := 0, z := heightAt 9 },
    waypoint ((k + 1 : ℕ) * (1 / 1)) { x := 0, y := 0, z := heightAt 10 }, hs, ?_,
    mem_steps_iff.mpr ⟨k, ?_, ?_⟩, ?_⟩
  · rw [hdrones]
    exact List.mem_cons_self
  · rw [getElem?_column, hk]
    rfl
  · rw [getElem?_column, hk']
    rfl
  · change 12 / 10 / 1 + 1 / 100 < round2 (heightAt 10) - round2 (heightAt 9)
    norm_num [round2, heightAt]

end Taramandal.Studio.SpeedBudget
