import Taramandal.Studio.Plans

/-! # Samples, and what is between them

Two samples that follow one another are two places on one leg, a step of its easing apart:
a leg without samples ends where it starts. At every time all drones are at the same share of
the way between the same two samples. -/
set_option linter.unusedSectionVars false

namespace Taramandal.Studio.Samples

open Lib.Check Lib.Pairs Core.Numbers Studio.Layout Studio.Formations Studio.Sequencer Studio.Plans

variable {K : Type} [Field K]

lemma ease_zero (P : Option (Pacing K)) : ease P 0 = 0 := by
  unfold ease
  split
  · ring
  · ring

lemma ease_one (P : Option (Pacing K)) : ease P 1 = 1 := by
  unfold ease
  split
  · ring
  · ring

lemma ease_mem [LinearOrder K] [IsStrictOrderedRing K] (P : Option (Pacing K)) {u : K}
    (hu : u ∈ Set.Icc (0 : K) 1) : ease P u ∈ Set.Icc (0 : K) 1 := by
  obtain ⟨hu0, hu1⟩ := hu
  have hu1' : 0 ≤ 1 - u := sub_nonneg.mpr hu1
  unfold ease
  split
  · constructor
    · have hpos : 0 ≤ u * (6 * u - 15) + 10 := by nlinarith [sq_nonneg (u - 5 / 4)]
      positivity
    · have hrest : 0 ≤ (1 - u) ^ 3 * (6 * u ^ 2 + 3 * u + 1) := by positivity
      linear_combination hrest
  · constructor
    · have hpos : 0 ≤ 3 - 2 * u := by linarith
      positivity
    · have hrest : 0 ≤ (1 - u) ^ 2 * (1 + 2 * u) := by positivity
      linear_combination hrest

section

variable [LinearOrder K] [IsStrictOrderedRing K] [FloorRing K]

lemma abs_round2_sub_le (v : K) : |round2 v - v| ≤ 1 / 200 := by
  have hfloor : ∀ x : K, |(⌊x * 100 + 1 / 2⌋ : K) / 100 - x| ≤ 1 / 200 := by
    intro x
    have hle := Int.floor_le (x * 100 + 1 / 2)
    have hlt := Int.lt_floor_add_one (x * 100 + 1 / 2)
    rw [abs_le]
    constructor
    · linarith
    · linarith
  unfold round2
  split
  · have hneg := hfloor (-v)
    rw [← abs_neg] at hneg
    have heq : -((⌊-v * 100 + 1 / 2⌋ : K) / 100 - -v) = -(⌊-v * 100 + 1 / 2⌋ : K) / 100 - v := by
      ring
    rwa [heq] at hneg
  · exact hfloor v

lemma abs_round2_sub_sub_le (v v' : K) : |(round2 v - round2 v') - (v - v')| ≤ 1 / 100 := by
  have hv := abs_round2_sub_le v
  have hv' := abs_round2_sub_le v'
  have heq : (round2 v - round2 v') - (v - v') = (round2 v - v) - (round2 v' - v') := by ring
  rw [heq]
  exact (abs_sub _ _).trans (by linarith)

end

/-! ## Samples of a plan -/

lemma zipWith_of_length {α : Type} {f : α → α → α} {as bs : List α} (h : as.length = bs.length)
    (hf : ∀ a b, f a b = a) : as.zipWith f bs = as := by
  induction as generalizing bs with
  | nil => rfl
  | cons a as ih =>
    cases bs with
    | nil => cases h
    | cons b bs => rw [List.zipWith_cons_cons, hf, ih (Nat.succ.inj h)]

variable {leg : Leg K}

lemma Leg.at_zero (h : leg.start.length = leg.goal.length) : leg.at 0 = leg.start := by
  refine zipWith_of_length h fun a b => ?_
  simp only [between, mul_zero, add_zero]

lemma Leg.at_one (h : leg.start.length = leg.goal.length) : leg.at 1 = leg.goal := by
  rw [Leg.at, List.zipWith_comm]
  refine zipWith_of_length h.symm fun a b => ?_
  simp only [between, mul_one, add_sub_cancel]

lemma Leg.getD_at {i : ℕ} {a b : Point K} (ha : leg.start[i]? = some a)
    (hb : leg.goal[i]? = some b) (w : K) (o : Point K) : (leg.at w).getD i o = between a b w := by
  rw [List.getD_eq_getElem?_getD, Leg.at, List.getElem?_zipWith, ha, hb]
  rfl

variable [LinearOrder K] [FloorRing K]

/-- A leg that is sampled, or goes nowhere. -/
structure Paced (r : K) (leg : Leg K) : Prop where
  length : leg.start.length = leg.goal.length
  steps : 1 ≤ legSteps leg r ∨ leg.start = leg.goal

/-- Where a leg is at its `k`-th sample. -/
def Leg.sample (leg : Leg K) (P : Option (Pacing K)) (r : K) (k : ℕ) : List (Point K) :=
  leg.at (ease P (k / (legSteps leg r : K)))

lemma legFrames_eq (P : Option (Pacing K)) (r : K) (leg : Leg K) :
    legFrames P r leg = (List.range (legSteps leg r)).map (Leg.sample leg P r) := rfl

variable {P : Option (Pacing K)} {a b : List (Point K)} {legs : List (Leg K)} {r : K}

lemma head_frames (h : Linked a legs b) (hpaced : ∀ leg ∈ legs, Paced r leg) :
    (legs.flatMap (legFrames P r) ++ [b]).head? = some a := by
  induction legs generalizing a with
  | nil => exact congrArg some h.symm
  | cons leg legs ih =>
    have hleg := hpaced leg List.mem_cons_self
    have hrest := ih h.2 fun l hl => hpaced l (List.mem_cons_of_mem _ hl)
    rw [List.flatMap_cons, List.append_assoc, legFrames_eq]
    cases hsteps : legSteps leg r with
    | zero =>
      obtain hsome | hsame := hleg.steps
      · omega
      · rw [List.range_zero, List.map_nil, List.nil_append, hrest, ← hsame, h.1]
    | succ n =>
      rw [List.range_succ_eq_map, List.map_cons, List.cons_append, List.head?_cons, Leg.sample,
        Nat.cast_zero, zero_div, ease_zero, Leg.at_zero hleg.length, h.1]

lemma steps_frames [IsStrictOrderedRing K] (h : Linked a legs b)
    (hpaced : ∀ leg ∈ legs, Paced r leg) :
    steps (legs.flatMap (legFrames P r) ++ [b]) = legs.flatMap fun leg =>
      (List.range (legSteps leg r)).map fun k =>
        (Leg.sample leg P r k, Leg.sample leg P r (k + 1)) := by
  induction legs generalizing a with
  | nil => rfl
  | cons leg legs ih =>
    have hleg := hpaced leg List.mem_cons_self
    have hhead := head_frames (P := P) h.2 fun l hl => hpaced l (List.mem_cons_of_mem _ hl)
    have hrest := ih h.2 fun l hl => hpaced l (List.mem_cons_of_mem _ hl)
    rw [List.flatMap_cons, List.flatMap_cons, List.append_assoc, legFrames_eq]
    rcases Nat.eq_zero_or_pos (legSteps leg r) with hzero | hpos
    · rw [hzero]
      exact hrest
    · have hne : (legSteps leg r : K) ≠ 0 := Nat.cast_ne_zero.mpr hpos.ne'
      have hend : Leg.sample leg P r (legSteps leg r) = leg.goal := by
        rw [Leg.sample, div_self hne, ease_one, Leg.at_one hleg.length]
      rw [steps_run _ _ (hhead.trans (congrArg some hend.symm)), hrest]

lemma start_mem_legFrames (hlength : leg.start.length = leg.goal.length)
    (hsteps : 1 ≤ legSteps leg r) :
    leg.start ∈ legFrames P r leg := by
  have hfirst : Leg.sample leg P r 0 = leg.start := by
    rw [Leg.sample, Nat.cast_zero, zero_div, ease_zero, Leg.at_zero hlength]
  exact List.mem_map.mpr ⟨0, List.mem_range.mpr hsteps, hfirst⟩

lemma start_mem_frames (h : Linked a legs b) (hpaced : ∀ leg ∈ legs, Paced r leg)
    (hleg : leg ∈ legs) : leg.start ∈ legs.flatMap (legFrames P r) ++ [b] := by
  induction legs generalizing a with
  | nil => exact absurd hleg List.not_mem_nil
  | cons l legs ih =>
    rcases List.mem_cons.mp hleg with rfl | hleg
    · rw [h.1]
      exact List.mem_of_head? (head_frames h hpaced)
    · have hmem := ih h.2 (fun l hl => hpaced l (List.mem_cons_of_mem _ hl)) hleg
      rw [List.flatMap_cons, List.append_assoc]
      exact List.mem_append_right _ hmem

section

variable [Sqrt K] [Cbrt K]

lemma exists_pacing {pacing : String} (h : pacing ∉ inherited) :
    ∃ P : Pacing K, pacingOf pacing = some P := by
  unfold pacingOf
  split
  · exact ⟨_, rfl⟩
  · split
    · exact ⟨_, rfl⟩
    · exact ⟨_, rfl⟩

lemma one_le_legSteps {P : Pacing K} {kind : Kind} (hkind : kind ≠ .hold)
    (start goal : List (Point K)) (requested r : K) :
    1 ≤ legSteps (pacedLeg (some P) kind start goal requested) r := by
  unfold legSteps pacedLeg easedSecs
  dsimp only [Option.map_some]
  rw [if_neg hkind]
  exact le_max_left _ _

lemma Planned.paced {P : Pacing K} {shapes : Shapes K} {scenes : List (Scene shapes)}
    {gap : K} {n : ℕ} {ret : List ℕ} {legs : List (Leg K)}
    (h : Planned (some P) scenes gap n ret legs) (hret : ret.Perm (List.range n)) (r : K) :
    ∀ leg ∈ legs, Paced r leg := by
  have hmoved : ∀ {a b : List (Point K)} {legs : List (Leg K)}, Moved (some P) a b legs → True →
      True → ∀ leg ∈ legs, 1 ≤ legSteps leg r ∨ leg.start = leg.goal := by
    intro a b legs hmoved _ _ leg hleg
    obtain ⟨requested, hpaced⟩ := hmoved.kind leg hleg
    rw [hpaced]
    exact .inl (one_le_legSteps (by decide) _ _ _ _)
  have hsteps := h.forall_legs (S := fun _ => True) hmoved
    (fun _ _ _ _ => ⟨trivial, fun _ _ => .inr rfl⟩) trivial trivial
    (fun _ => ⟨trivial, trivial⟩) (.inl (one_le_legSteps (by decide) _ _ _ _))
    (.inl (one_le_legSteps (by decide) _ _ _ _))
  intro leg hleg
  obtain ⟨hstart, hgoal⟩ := h.lengths hret leg hleg
  exact ⟨hstart.trans hgoal.symm, hsteps leg hleg⟩

end

/-! ## The show -/

variable {n : ℕ}

lemma length_of_mem_frames (h : ∀ leg ∈ legs, leg.start.length = n ∧ leg.goal.length = n) :
    ∀ f ∈ frames P r legs n, f.length = n := by
  intro f hf
  rcases List.mem_append.mp hf with hf | hf
  · obtain ⟨leg, hleg, hf⟩ := List.mem_flatMap.mp hf
    obtain ⟨k, -, rfl⟩ := List.mem_map.mp hf
    obtain ⟨hstart, hgoal⟩ := h leg hleg
    rw [Leg.at, List.length_zipWith, hstart, hgoal, min_self]
  · obtain rfl := List.mem_singleton.mp hf
    exact length_ground n

section

variable (r : K) (frames : List (List (Point K)))

lemma column_time (i j : ℕ) :
    (column r frames i).map Waypoint.time = (column r frames j).map Waypoint.time := by
  rw [column, column, List.map_map, List.map_map]
  rfl

lemma getElem?_column (i k : ℕ) : (column r frames i)[k]? = frames[k]?.map fun f =>
      waypoint (k * (1 / r)) (f.getD i { x := 0, y := 0, z := 0 }) := by
  rw [column, List.getElem?_map, List.getElem?_zipIdx]
  cases frames[k]? with
  | none => rfl
  | some f => simp

lemma length_column (i : ℕ) : (column r frames i).length = frames.length := by
  rw [column, List.length_map, List.length_zipIdx]

end

variable {shapes : Shapes K} {targetIdx : Js K} {pacing : String} {z : ℝ}

lemma buildSequencedShow_ok [Sqrt K] [Cbrt K] {scenes : List (Scene shapes)}
    {rate : K} {show_ : Show K}
    (h : buildSequencedShow scenes n rate targetIdx pacing = .ok show_) :
    (scenes = [] ∨ n < 1) ∧ show_.drones = [] ∨
    ∃ last legs assignment, scenes.getLast? = some last ∧ 1 ≤ n ∧
      planShow scenes last n targetIdx pacing = .ok (legs, assignment) ∧
      show_.drones = (List.range n).map
        (column (max 1 rate) (frames (pacingOf pacing) (max 1 rate) legs n)) := by
  unfold buildSequencedShow at h
  split at h
  · next hnone =>
    cases h
    exact .inl ⟨.inl (List.getLast?_eq_none_iff.mp hnone), rfl⟩
  · next last hlast =>
    split at h
    · next hn =>
      cases h
      exact .inl ⟨.inr hn, rfl⟩
    · next hn =>
      dsimp only at h
      split at h
      · cases h
      · next legs assignment hplan =>
        cases h
        exact .inr ⟨last, legs, assignment, hlast, by omega, hplan, rfl⟩

lemma buildSequencedShow_of_plan [Sqrt K] [Cbrt K]
    {scenes : List (Scene shapes)} {last : Scene shapes} (rate : K) {assignment : Assignment} (hlast : scenes.getLast? = some last) (hn : 1 ≤ n)
    (hplan : planShow scenes last n targetIdx pacing = .ok (legs, assignment)) :
    ∃ s, buildSequencedShow scenes n rate targetIdx pacing = .ok s ∧ s.drones =
        (List.range n).map (column (max 1 rate) (frames (pacingOf pacing) (max 1 rate) legs n)) ∧
      s.duration = round2
        (((frames (pacingOf pacing) (max 1 rate) legs n).length - 1 : ℕ) * (1 / max 1 rate)) := by
  unfold buildSequencedShow
  rw [hlast]
  dsimp only
  rw [if_neg (by omega), hplan]
  exact ⟨_, rfl, rfl, rfl⟩

/-! ## Between samples -/

/-- Between which waypoints a time is, and where between them. -/
def moment (waypoints : List (Waypoint K)) (t : K) : ℕ × K :=
  let first := (waypoints.head?.map Waypoint.time).getD 0
  let last := (waypoints.getLast?.map Waypoint.time).getD 0
  if t ≤ first then (0, 0)
  else if last ≤ t then (waypoints.length - 2, 1)
  else
    let i := stepOn waypoints t waypoints.length (stepBack waypoints t (firstGuess waypoints t))
    let at1 := (waypoints[i]?.map Waypoint.time).getD 0
    let at2 := (waypoints[i + 1]?.map Waypoint.time).getD 0
    (i, if 0 < at2 - at1 then (t - at1) / (at2 - at1) else 0)

section

variable {ws ws' : List (Waypoint K)} (h : ws.map Waypoint.time = ws'.map Waypoint.time)

include h

lemma time_congr (i : ℕ) : ws[i]?.map Waypoint.time = ws'[i]?.map Waypoint.time := by
  rw [← List.getElem?_map, ← List.getElem?_map, h]

lemma any_time_congr (p : K → Bool) (i : ℕ) :
    ws[i]?.any (fun w => p w.time) = ws'[i]?.any fun w => p w.time := by
  have hi := time_congr h i
  cases hw : ws[i]? with
  | none =>
    cases hw' : ws'[i]? with
    | none => rfl
    | some w' =>
      rw [hw, hw'] at hi
      cases hi
  | some w =>
    cases hw' : ws'[i]? with
    | none =>
      rw [hw, hw'] at hi
      cases hi
    | some w' =>
      rw [hw, hw'] at hi
      exact congrArg p (Option.some.inj hi)

lemma length_congr : ws.length = ws'.length := by
  simpa only [List.length_map] using congrArg List.length h

lemma stepBack_congr (t : K) (i : ℕ) : stepBack ws t i = stepBack ws' t i := by
  induction i with
  | zero => rfl
  | succ i ih => rw [stepBack, stepBack, any_time_congr h (t < ·), ih]

lemma stepOn_congr (t : K) (fuel i : ℕ) : stepOn ws t fuel i = stepOn ws' t fuel i := by
  induction fuel generalizing i with
  | zero => rfl
  | succ fuel ih =>
    rw [stepOn, stepOn, any_time_congr h (· ≤ t), length_congr h, ih]

lemma firstGuess_congr (t : K) : firstGuess ws t = firstGuess ws' t := by
  have hlength := length_congr h
  cases ws with
  | nil =>
    cases ws' with
    | nil => rfl
    | cons w' ws' => cases hlength
  | cons w ws =>
    cases ws' with
    | nil => cases hlength
    | cons w' ws' =>
      obtain ⟨htime, hrest⟩ := List.cons.inj h
      cases ws with
      | nil =>
        cases ws' with
        | nil => rfl
        | cons v' ws' => cases hrest
      | cons v ws =>
        cases ws' with
        | nil => cases hrest
        | cons v' ws' =>
          obtain ⟨hnext, -⟩ := List.cons.inj hrest
          simp only [firstGuess, htime, hnext, hlength]

lemma moment_congr (t : K) : moment ws t = moment ws' t := by
  have hfirst : ws.head?.map Waypoint.time = ws'.head?.map Waypoint.time := by
    rw [List.head?_eq_getElem?, List.head?_eq_getElem?, time_congr h]
  have hlast : ws.getLast?.map Waypoint.time = ws'.getLast?.map Waypoint.time := by
    rw [List.getLast?_eq_getElem?, List.getLast?_eq_getElem?, length_congr h, time_congr h]
  unfold moment
  rw [hfirst, hlast, firstGuess_congr h, stepBack_congr h, stepOn_congr h, length_congr h]
  simp only [time_congr h]

end

section

variable {ws : List (Waypoint K)} {t : K}

lemma stepBack_le (i : ℕ) : stepBack ws t i ≤ i := by
  induction i with
  | zero => exact le_rfl
  | succ i ih =>
    rw [stepBack]
    split
    · exact ih.trans (Nat.le_succ i)
    · exact le_rfl

lemma time_stepBack_le (hzero : ∀ w, ws[0]? = some w → w.time ≤ t) (i : ℕ) :
    ∀ w, ws[stepBack ws t i]? = some w → w.time ≤ t := by
  induction i with
  | zero => exact hzero
  | succ i ih =>
    rw [stepBack]
    split
    · exact ih
    · next hany =>
      intro w hw
      rw [hw, Option.any_some, decide_eq_true_eq] at hany
      exact not_lt.mp hany

variable {i : ℕ}

lemma stepOn_lt (fuel : ℕ) (hi : i + 1 < ws.length) : stepOn ws t fuel i + 1 < ws.length := by
  induction fuel generalizing i with
  | zero => exact hi
  | succ fuel ih =>
    rw [stepOn]
    split
    · next hstep => exact ih hstep.1
    · exact hi

lemma time_stepOn_le (fuel : ℕ) (hi : ∀ w, ws[i]? = some w → w.time ≤ t) :
    ∀ w, ws[stepOn ws t fuel i]? = some w → w.time ≤ t := by
  induction fuel generalizing i with
  | zero => exact hi
  | succ fuel ih =>
    rw [stepOn]
    split
    · next hstep =>
      refine ih fun w hw => ?_
      have hany := hstep.2
      rw [hw, Option.any_some, decide_eq_true_eq] at hany
      exact hany
    · exact hi

lemma lt_time_stepOn {fuel : ℕ} (hfuel : ws.length ≤ fuel + i + 2)
    (hlast : stepOn ws t fuel i + 2 < ws.length) :
    ∀ w, ws[stepOn ws t fuel i + 1]? = some w → t < w.time := by
  induction fuel generalizing i with
  | zero =>
    rw [stepOn] at hlast
    omega
  | succ fuel ih =>
    rw [stepOn] at hlast ⊢
    split at hlast
    · next hstep =>
      rw [if_pos hstep]
      exact ih (by omega) hlast
    · next hstep =>
      rw [if_neg hstep]
      intro w hw
      rw [hw, Option.any_some, decide_eq_true_eq, not_and, not_le] at hstep
      exact hstep hlast

lemma firstGuess_le : firstGuess ws t ≤ ws.length - 2 := by
  unfold firstGuess
  split
  · split
    · exact min_le_left _ _
    · exact Nat.zero_le _
  · exact Nat.zero_le _

lemma search_spec {first last : Waypoint K} (hlen : 2 ≤ ws.length)
    (hfirst : ws[0]? = some first) (hlast : ws[ws.length - 1]? = some last)
    (hbefore : first.time ≤ t) (hafter : t < last.time) :
    ∃ w w', ws[stepOn ws t ws.length (stepBack ws t (firstGuess ws t))]? = some w ∧
      ws[stepOn ws t ws.length (stepBack ws t (firstGuess ws t)) + 1]? = some w' ∧
      w.time ≤ t ∧ t < w'.time := by
  let start := stepBack ws t (firstGuess ws t)
  let i := stepOn ws t ws.length start
  have hzero : ∀ w, ws[0]? = some w → w.time ≤ t := by
    intro w hw
    obtain rfl := Option.some.inj (hfirst.symm.trans hw)
    exact hbefore
  have hstart : start + 1 < ws.length := by
    have hback : start ≤ firstGuess ws t := stepBack_le _
    have hguess : firstGuess ws t ≤ ws.length - 2 := firstGuess_le
    omega
  have hi : i + 1 < ws.length := stepOn_lt _ hstart
  obtain ⟨w, hw⟩ : ∃ w, ws[i]? = some w := ⟨_, List.getElem?_eq_getElem (Nat.lt_of_succ_lt hi)⟩
  obtain ⟨w', hw'⟩ : ∃ w, ws[i + 1]? = some w := ⟨_, List.getElem?_eq_getElem hi⟩
  have hle : w.time ≤ t := time_stepOn_le _ (time_stepBack_le hzero _) w hw
  have hlt : t < w'.time := by
    by_cases hlen2 : i + 2 < ws.length
    · exact lt_time_stepOn (by omega) hlen2 w' hw'
    · have hsame : i + 1 = ws.length - 1 := by omega
      rw [hsame, hlast] at hw'
      obtain rfl := Option.some.inj hw'
      exact hafter
  exact ⟨w, w', hw, hw', hle, hlt⟩

end

/-- On the chord from one waypoint to another, a share of the way. -/
structure OnChord (w w' : Waypoint K) (l : K) (p : Waypoint K) : Prop where
  x : p.x = w.x + l * (w'.x - w.x)
  y : p.y = w.y + l * (w'.y - w.y)
  z : p.z = w.z + l * (w'.z - w.z)

/-- `interpolateWaypoint` finds the moment, and a point of the chord there. -/
lemma interpolate_moment [IsStrictOrderedRing K] {ws : List (Waypoint K)} (hlen : 2 ≤ ws.length)
    (t : K) : ∃ w w', ws[(moment ws t).1]? = some w ∧ ws[(moment ws t).1 + 1]? = some w' ∧
      (moment ws t).2 ∈ Set.Icc (0 : K) 1 ∧
      ∃ p, interpolateWaypoint ws t = some p ∧ OnChord w w' (moment ws t).2 p := by
  have hat : ∀ {i : ℕ}, i < ws.length → ∃ w, ws[i]? = some w := fun hi =>
    ⟨_, List.getElem?_eq_getElem hi⟩
  obtain ⟨first, hfirst⟩ := hat (i := 0) (by omega)
  obtain ⟨last, hlast⟩ := hat (i := ws.length - 1) (by omega)
  have hhead : ws.head? = some first := by rw [List.head?_eq_getElem?, hfirst]
  have hend : ws.getLast? = some last := by rw [List.getLast?_eq_getElem?, hlast]
  unfold moment interpolateWaypoint
  rw [hhead, hend]
  dsimp only [Option.map_some, Option.getD_some]
  by_cases hbefore : t ≤ first.time
  · rw [if_pos hbefore, if_pos hbefore]
    obtain ⟨w', hw'⟩ := hat (i := 1) (by omega)
    exact ⟨first, w', hfirst, hw', ⟨le_rfl, zero_le_one⟩, first, rfl, by simp, by simp, by simp⟩
  rw [if_neg hbefore, if_neg hbefore]
  by_cases hafter : last.time ≤ t
  · rw [if_pos hafter, if_pos hafter]
    obtain ⟨w, hw⟩ := hat (i := ws.length - 2) (by omega)
    have hnext : ws.length - 2 + 1 = ws.length - 1 := by omega
    rw [hnext]
    exact ⟨w, last, hw, hlast, ⟨zero_le_one, le_rfl⟩, last, rfl, by simp, by simp, by simp⟩
  rw [if_neg hafter, if_neg hafter]
  let i := stepOn ws t ws.length (stepBack ws t (firstGuess ws t))
  obtain ⟨w, w', hw, hw', hle, hlt⟩ :=
    search_spec hlen hfirst hlast (not_le.mp hbefore).le (not_le.mp hafter)
  have hspan : 0 < w'.time - w.time := sub_pos.mpr (hle.trans_lt hlt)
  refine ⟨w, w', hw, hw', ?_, segmentAt w w' t, ?_, ?_⟩
  · change (if 0 < (ws[i + 1]?.map Waypoint.time).getD 0 - (ws[i]?.map Waypoint.time).getD 0
      then _ else _) ∈ _
    rw [hw, hw']
    dsimp only [Option.map_some, Option.getD_some]
    rw [if_pos hspan]
    exact ⟨div_nonneg (sub_nonneg.mpr hle) hspan.le,
      (div_le_one hspan).mpr (sub_le_sub_right hlt.le _)⟩
  · rw [hw, hw']
  · change OnChord w w' (if 0 < (ws[i + 1]?.map Waypoint.time).getD 0 -
      (ws[i]?.map Waypoint.time).getD 0 then _ else _) _
    rw [hw, hw']
    exact ⟨rfl, rfl, rfl⟩

/-! ## Points as they are -/

def asGiven (K : Type) [Field K] : Shapes K where
  Payload := List (Point K)
  parametric pts _ _ := .ok pts
  text pts _ _ := .ok pts
  svg pts _ _ := .ok pts
  circle n _ := hover n
  points _ := []
  exactPoints := .ok

def exactScene (pts : List (Point K)) : Scene (asGiven K) where
  name := "Scene"
  shapeType := .exactPoints
  shapePayload := pts
  scale := none
  holdDurationSeconds := some 1
  transitionDurationSeconds := none
  transitLayerGapMeters := none

def above (z : ℝ) : List (Point ℝ) := [{ x := 0, y := 0, z := z }]

lemma formation_above (hz : -z ≤ 120) :
    buildFormation (asGiven ℝ) .exactPoints (above z) 1 none = .ok (above z) := by
  have hreach : ¬ siteRadiusM + tolerance < maxReach (above z) := by
    have hzero : maxReach (above z) = 0 := by
      change max 0 (√(0 * 0 + 0 * 0)) = (0 : ℝ)
      norm_num
    rw [hzero]
    norm_num [siteRadiusM, tolerance]
  have hfit : fitToSite (above z) = .ok (above z) := by
    unfold fitToSite
    rw [if_neg hreach]
  have hcheck : checkFormation (above z) = .ok (above z) := by
    have hceiling : ¬ maxAltitudeM + tolerance < greatest ((above z).map fun p => -p.z) := by
      change ¬ maxAltitudeM + tolerance < -z
      unfold maxAltitudeM tolerance
      norm_num
      linarith
    unfold checkFormation
    rw [if_neg hceiling]
    rfl
  have hraw : rawFormation (asGiven ℝ) .exactPoints (above z) 1 none = .ok (above z) := rfl
  unfold buildFormation
  rw [if_neg (by norm_num), hraw]
  dsimp only [placedFormation]
  rw [if_pos rfl, if_neg (fun h => hreach h.2), hfit]
  exact hcheck

lemma pacing_standard : (pacingOf "standard" : Option (Pacing ℝ)) = some standard := if_pos rfl

noncomputable def legsAbove (z : ℝ) : List (Leg ℝ) := [takeoff (some standard) 1,
  pacedLeg (some standard) .morph (hover 1) (above z) (nonNeg none),
  { kind := .hold, start := above z, goal := above z, secs := some (nonNeg (some 1)) },
  pacedLeg (some standard) .morph (above z) (hover 1) (nonNeg none),
  landing (some standard) 1]

lemma plan_above (hz : -z ≤ 120) :
    planShow [exactScene (above z)] (exactScene (above z)) 1 (Js.other : Js ℝ) "standard" =
      .ok (legsAbove z, normalizeAssignment (Js.other : Js ℝ) 1 1) := by
  have hpos : scenePos 1 (exactScene (above z)) (List.range 1) = .ok ((above z).map some) := by
    change (buildFormation (asGiven ℝ) .exactPoints (above z) 1 none >>= _) = _
    rw [formation_above hz]
    rfl
  unfold planShow
  rw [pacing_standard]
  refine bind_eq_ok.mpr ⟨[(above z).map some], mapM_eq_ok.mpr (.cons hpos .nil), ?_⟩
  refine bind_eq_ok.mpr ⟨(_, above z), bind_eq_ok.mpr ⟨above z, rfl, bind_eq_ok.mpr ⟨_, rfl,
    bind_eq_ok.mpr ⟨([], above z), rfl, rfl⟩⟩⟩, ?_⟩
  exact bind_eq_ok.mpr ⟨_, rfl, bind_eq_ok.mpr ⟨[], rfl, rfl⟩⟩

end Taramandal.Studio.Samples
