import Taramandal.Studio.Samples

/-! # The timeline of a show (`sequencer.js`)

The length that is predicted for a show and the blocks that are drawn for it are worked out
from the same plan as its waypoints, each in its own way. A number that is not a number is
`none`. -/
set_option linter.unusedSectionVars false

namespace Taramandal.Studio.Timeline

open Lib.Check Core.Numbers Studio.Layout Studio.Formations Studio.Sequencer
open Studio.Plans Studio.Samples

variable {ι K : Type} [Field K] [LinearOrder K]

/-! ## The plan, with what its legs are drawn as -/

/-- Legs of one group are one block. -/
inductive Group where
  | takeoff
  | morph (i : ℕ)
  | hold (i : ℕ)
  | back
  | land
  deriving DecidableEq

structure Tagged (ι K : Type) where
  label : String
  sceneId : Option ι
  group : Group
  leg : Leg K

def tag (label : String) (sceneId : Option ι) (group : Group) (legs : List (Leg K)) :
    List (Tagged ι K) := legs.map (Tagged.mk label sceneId group)

section

variable [Sqrt K] [Cbrt K] {shapes : Shapes K}

/-- `scenes.forEach`, with the ids of the scenes. -/
def taggedScenes (P : Option (Pacing K)) : ℕ → List (Point K) →
    List ((ι × Scene shapes) × List (Option (Point K))) →
    Except (ShowError K) (List (Tagged ι K) × List (Point K))
  | _, prev, [] => .ok ([], prev)
  | i, prev, ((sceneId, s), pos) :: rest => do
    let pos ← allPlaced pos
    let label := if i = 0 then "Climb-out" else "Morph → " ++ s.name
    let morph ← move P label prev pos (nonNeg s.transitionDurationSeconds)
    let hold : Leg K := {
      kind := .hold
      start := pos
      goal := pos
      secs := some (nonNeg s.holdDurationSeconds) }
    let (legs, last) ← taggedScenes P (i + 1) pos rest
    return (tag label (some sceneId) (.morph i) morph ++
      (tag s.name (some sceneId) (.hold i) [hold] ++ legs), last)

variable [FloorRing K]

/-- `planShow`, all that it says of its legs. -/
def taggedPlan (scenes : List (ι × Scene shapes)) (last : ι × Scene shapes) (n : ℕ)
    (targetIdx : Js K) (pacing : String) :
    Except (ShowError K) (List (Tagged ι K) × Assignment) := do
  let P : Option (Pacing K) := pacingOf pacing
  let assignment := normalizeAssignment targetIdx scenes.length n
  let positions ← (scenes.zip assignment.scenes).mapM fun s => scenePos n s.1.2 s.2
  let takeoff := pacedLeg P .takeoff (ground n) (hover n) takeoffSeconds
  let (body, prev) ← taggedScenes P 0 (hover n) (scenes.zip positions)
  let back ← move P "Return" prev (assignment.ret.map hoverAt)
    (nonNeg last.2.transitionDurationSeconds)
  let swap ← swapLegs P (gapOf last.2.transitLayerGapMeters) n assignment.ret
  let landing := pacedLeg P .land (hover n) (ground n) landSeconds
  return (tag "Takeoff" none .takeoff [takeoff] ++ (body ++
    (tag "Return" (some last.1) .back (back ++ swap) ++ tag "Landing" none .land [landing])),
    assignment)

end

section

def total (xs : List (Option K)) : Option K := (xs.mapM id).map List.sum

variable [FloorRing K]

/-- What a leg takes of the clock: whole samples, if a rate is given. -/
def legSpan (r : Option K) (leg : Leg K) : Option K :=
  leg.secs.map fun secs => r.elim secs fun r => legSteps leg r / r

variable [Sqrt K] [Cbrt K] {shapes : Shapes K}

def computeShowDuration (scenes : List (Scene shapes)) (n : Option ℕ) (rate : Option K)
    (targetIdx : Js K) (pacing : String) : Except (ShowError K) (Option K) :=
  match scenes.getLast?, n.filter (1 ≤ ·) with
  | none, _ => .ok (some 0)
  | some last, none =>
    let body := scenes.map fun s =>
      nonNeg s.transitionDurationSeconds + nonNeg s.holdDurationSeconds
    .ok (some (round2 (takeoffSeconds + body.sum + nonNeg last.transitionDurationSeconds +
      landSeconds)))
  | some last, some n =>
    (planShow scenes last n targetIdx pacing).map fun plan =>
      (total (plan.1.map (legSpan (rate.filter (1 ≤ ·))))).map round2

end

/-! ## The blocks -/

structure Segment (ι K : Type) where
  kind : Kind
  label : String
  sceneId : Option ι
  start : Option K
  finish : Option K

section

variable [FloorRing K]

/-- `add`, to the segments so far and the clock. -/
def addSegment (kind : Kind) (label : String) (secs : Option K) (sceneId : Option ι)
    (s : List (Segment ι K) × Option K) : List (Segment ι K) × Option K :=
  if secs.any (· ≤ 0) then s
  else
    let t := total [s.2, secs]
    (s.1 ++ [{
      kind := kind
      label := label
      sceneId := sceneId
      start := s.2.map round2
      finish := t.map round2 }], t)

def groups : List (Tagged ι K) → List (Tagged ι K × List (Tagged ι K))
  | [] => []
  | head :: rest =>
    (head, head :: rest.takeWhile (·.group = head.group)) ::
      groups (rest.dropWhile (·.group = head.group))
termination_by legs => legs.length
decreasing_by exact Nat.lt_succ_of_le (List.dropWhile_suffix _).length_le

def addGroup (r : Option K) (s : List (Segment ι K) × Option K)
    (g : Tagged ι K × List (Tagged ι K)) : List (Segment ι K) × Option K :=
  addSegment g.1.leg.kind g.1.label (total (g.2.map fun l => legSpan r l.leg)) g.1.sceneId s

/-- `quantMorph` and `quantLeg`. -/
def quantMorph (r : Option K) (secs : K) : K := r.elim secs fun r => max 1 (jsRound (secs * r)) / r

def quantLeg (r : Option K) (secs : K) : K := r.elim secs fun r => max 0 (jsRound (secs * r)) / r

variable [Sqrt K] [Cbrt K] {shapes : Shapes K}

def addNominal (r : Option K) (s : List (Segment ι K) × Option K) (scene : (ι × Scene shapes) × ℕ) :
    List (Segment ι K) × Option K :=
  addSegment .hold scene.1.2.name
    (some (quantLeg r (nonNeg scene.1.2.holdDurationSeconds))) (some scene.1.1)
    (addSegment .morph (if scene.2 = 0 then "Climb-out" else "Morph → " ++ scene.1.2.name)
      (some (quantMorph r (nonNeg scene.1.2.transitionDurationSeconds))) (some scene.1.1) s)

def nominalSegments (scenes : List (ι × Scene shapes)) (r : Option K) : List (Segment ι K) :=
  let s := addSegment .takeoff "Takeoff" (some (quantMorph r takeoffSeconds)) none ([], some 0)
  let s := scenes.zipIdx.foldl (addNominal r) s
  let s := match scenes.getLast? with
    | none => s
    | some last => addSegment .morph "Return"
        (some (quantMorph r (nonNeg last.2.transitionDurationSeconds))) (some last.1) s
  (addSegment .land "Landing" (some (quantMorph r landSeconds)) none s).1

def buildTimelineSegments (scenes : List (ι × Scene shapes)) (n : Option ℕ) (rate : Option K)
    (targetIdx : Js K) (pacing : String) : Except (ShowError K) (List (Segment ι K)) :=
  let r := rate.filter (1 ≤ ·)
  match scenes.getLast?, n.filter (1 ≤ ·) with
  | some last, some n =>
    (taggedPlan scenes last n targetIdx pacing).map fun plan =>
      ((groups plan.1).foldl (addGroup r) ([], some 0)).1
  | _, _ => .ok (nominalSegments scenes r)

end

section

variable [Sqrt K] [Cbrt K] {shapes : Shapes K}

lemma legs_tag (label : String) (sceneId : Option ι) (group : Group) (legs : List (Leg K)) :
    (tag label sceneId group legs).map Tagged.leg = legs := by
  rw [tag, List.map_map]
  exact List.map_id _

lemma legs_taggedScenes (P : Option (Pacing K)) (i : ℕ) (prev : List (Point K))
    (scenes : List ((ι × Scene shapes) × List (Option (Point K)))) :
    (taggedScenes P i prev scenes).map (fun r => (r.1.map Tagged.leg, r.2)) =
      sceneLegs P (i = 0) prev (scenes.map fun s => (s.1.2, s.2)) := by
  induction scenes generalizing i prev with
  | nil => rfl
  | cons scene rest ih =>
    obtain ⟨⟨sceneId, s⟩, pos⟩ := scene
    simp only [taggedScenes, sceneLegs, List.map_cons, decide_eq_true_eq]
    cases allPlaced pos with
    | error e => rfl
    | ok pos =>
      dsimp only [bind, Except.bind]
      cases move P (if i = 0 then "Climb-out" else "Morph → " ++ s.name) prev pos
          (nonNeg s.transitionDurationSeconds) with
      | error e => rfl
      | ok morph =>
        have hrest := ih (i + 1) pos
        rw [decide_eq_false (Nat.succ_ne_zero i)] at hrest
        dsimp only
        rw [← hrest]
        cases taggedScenes P (i + 1) pos rest with
        | error e => rfl
        | ok r =>
          obtain ⟨legs, last⟩ := r
          simp only [Except.map, pure, Except.pure, List.map_append, legs_tag]
          rfl

variable [FloorRing K]

lemma legs_taggedPlan (scenes : List (ι × Scene shapes)) (last : ι × Scene shapes) (n : ℕ)
    (targetIdx : Js K) (pacing : String) :
    (taggedPlan scenes last n targetIdx pacing).map (fun plan => (plan.1.map Tagged.leg, plan.2)) =
      planShow (scenes.map Prod.snd) last.2 n targetIdx pacing := by
  have hpositions : ((scenes.map Prod.snd).zip
      (normalizeAssignment targetIdx scenes.length n).scenes).mapM
        (fun s => scenePos n s.1 s.2) =
      (scenes.zip (normalizeAssignment targetIdx scenes.length n).scenes).mapM
        fun s => scenePos n s.1.2 s.2 := by
    rw [List.zip_map_left, List.mapM_map]
    rfl
  simp only [taggedPlan, planShow, List.length_map, hpositions]
  cases (scenes.zip (normalizeAssignment targetIdx scenes.length n).scenes).mapM
      fun s => scenePos n s.1.2 s.2 with
  | error e => rfl
  | ok positions =>
    have hbody := legs_taggedScenes (pacingOf pacing) 0 (hover n) (scenes.zip positions)
    have hzip : (scenes.map Prod.snd).zip positions =
        (scenes.zip positions).map fun s => (s.1.2, s.2) := by
      rw [List.zip_map_left]
      rfl
    rw [← hzip, decide_eq_true rfl] at hbody
    dsimp only [bind, Except.bind]
    rw [← hbody]
    cases taggedScenes (pacingOf pacing) 0 (hover n) (scenes.zip positions) with
    | error e => rfl
    | ok r =>
      dsimp only [Except.map]
      cases move (pacingOf pacing) "Return" r.2
          ((normalizeAssignment targetIdx scenes.length n).ret.map hoverAt)
          (nonNeg last.2.transitionDurationSeconds) with
      | error e => rfl
      | ok back =>
        dsimp only
        cases swapLegs (pacingOf pacing) (gapOf last.2.transitLayerGapMeters) n
            (normalizeAssignment targetIdx scenes.length n).ret with
        | error e => rfl
        | ok swap =>
          dsimp only [pure, Except.pure]
          simp only [List.map_append, legs_tag, List.append_assoc]
          rfl

end

section

variable [FloorRing K]

variable {v : K}

lemma round2_of_nonneg (hv : 0 ≤ v) : round2 v = (⌊v * 100 + 1 / 2⌋ : K) / 100 :=
  if_neg (not_lt.mpr hv)

variable [IsStrictOrderedRing K]

lemma round2_zero : round2 (0 : K) = 0 := by
  have hfloor : ⌊(0 : K) * 100 + 1 / 2⌋ = 0 := by
    rw [Int.floor_eq_zero_iff]
    constructor <;> norm_num
  rw [round2_of_nonneg (le_refl 0), hfloor, Int.cast_zero, zero_div]

lemma round2_le {u : K} (hu : 0 ≤ u) (huv : u ≤ v) : round2 u ≤ round2 v := by
  rw [round2_of_nonneg hu, round2_of_nonneg (hu.trans huv)]
  have hfloor : ⌊u * 100 + 1 / 2⌋ ≤ ⌊v * 100 + 1 / 2⌋ :=
    Int.floor_mono (add_le_add_left (mul_le_mul_of_nonneg_right huv (by norm_num)) _)
  have hcast : (⌊u * 100 + 1 / 2⌋ : K) ≤ (⌊v * 100 + 1 / 2⌋ : K) := by exact_mod_cast hfloor
  exact div_le_div_of_nonneg_right hcast (by norm_num)

end

/-! ## Sums of spans -/

lemma total_map_some (xs : List K) : total (xs.map some) = some xs.sum := by
  have hall : (xs.map some).mapM id = some xs := by
    induction xs with
    | nil => rfl
    | cons x xs ih => rw [List.map_cons, List.mapM_cons, ih]; rfl
  rw [total, hall]
  rfl

section

variable [FloorRing K] [IsStrictOrderedRing K]

def Tiles : List (Segment ι K) → K → K → Prop
  | [], a, b => a = b
  | s :: rest, a, b => s.start = some a ∧ ∃ m, s.finish = some m ∧ a ≤ m ∧ Tiles rest m b

lemma Tiles.append {s s' : List (Segment ι K)} {a b c : K} (h : Tiles s a b)
    (h' : Tiles s' b c) : Tiles (s ++ s') a c := by
  induction s generalizing a with
  | nil =>
    obtain rfl : a = b := h
    exact h'
  | cons x s ih =>
    obtain ⟨hstart, m, hfinish, hle, hrest⟩ := h
    exact ⟨hstart, m, hfinish, hle, ih hrest⟩

/-- The segments so far reach from 0 to the clock; without one it stands at 0. -/
structure Drawn (s : List (Segment ι K) × Option K) (t : K) : Prop where
  clock : s.2 = some t
  nonneg : 0 ≤ t
  tiles : Tiles s.1 0 (round2 t)
  nonempty : s.1 = [] → t = 0

variable {s : List (Segment ι K) × Option K} {t secs : K}

lemma Drawn.add (h : Drawn s t)
    (hsecs : 0 ≤ secs) (kind : Kind) (label : String) (sceneId : Option ι) :
    Drawn (addSegment kind label (some secs) sceneId s) (t + secs) := by
  unfold addSegment
  split
  next hskip =>
    have hzero : secs = 0 := le_antisymm (of_decide_eq_true hskip) hsecs
    rw [hzero, add_zero]
    exact h
  next =>
    have hsum : total [s.2, some secs] = some (t + secs) := by
      rw [h.clock]
      exact (total_map_some [t, secs]).trans (congrArg some (by simp))
    have hnext : 0 ≤ t + secs := add_nonneg h.nonneg hsecs
    refine ⟨hsum, hnext, h.tiles.append ⟨?_, round2 (t + secs), ?_, ?_, rfl⟩, fun hnil => ?_⟩
    · rw [h.clock]
      rfl
    · rw [hsum]
      rfl
    · exact round2_le h.nonneg (le_add_of_nonneg_right hsecs)
    · exact absurd hnil (by simp)

lemma flatMap_groups (legs : List (Tagged ι K)) : (groups legs).flatMap Prod.snd = legs := by
  fun_induction groups legs with
  | case1 => rfl
  | case2 head rest ih =>
    rw [List.flatMap_cons, ih, List.cons_append, List.takeWhile_append_dropWhile]

lemma legSpan_eq {leg : Leg K} (h : leg.secs = some secs) (r : K) :
    legSpan (some r) leg = some (legSteps leg r / r) := by
  rw [legSpan, h]
  rfl

lemma drawn_groups {r : K} (hr : 0 < r) {gs : List (Tagged ι K × List (Tagged ι K))}
    (hsecs : ∀ g ∈ gs, ∀ l ∈ g.2, ∃ secs, l.leg.secs = some secs) (h : Drawn s t) :
    Drawn (gs.foldl (addGroup (some r)) s)
      (t + ((gs.flatMap Prod.snd).map fun l => (legSteps l.leg r / r : K)).sum) := by
  induction gs generalizing s t with
  | nil => simpa using h
  | cons g gs ih =>
    have hspans : g.2.map (fun l => legSpan (some r) l.leg) =
        (g.2.map fun l => (legSteps l.leg r / r : K)).map some := by
      rw [List.map_map]
      refine List.map_congr_left fun l hl => ?_
      obtain ⟨secs, hs⟩ := hsecs g List.mem_cons_self l hl
      exact legSpan_eq hs r
    have hnonneg : 0 ≤ (g.2.map fun l => (legSteps l.leg r / r : K)).sum := by
      refine List.sum_nonneg fun x hx => ?_
      obtain ⟨l, -, rfl⟩ := List.mem_map.mp hx
      exact div_nonneg (Nat.cast_nonneg _) hr.le
    have hone : Drawn (addGroup (some r) s g)
        (t + (g.2.map fun l => (legSteps l.leg r / r : K)).sum) := by
      rw [addGroup, hspans, total_map_some]
      exact h.add hnonneg _ _ _
    have hrest := ih (fun g' hg' => hsecs g' (List.mem_cons_of_mem g hg')) hone
    rwa [List.foldl_cons, List.flatMap_cons, List.map_append, List.sum_append, ← add_assoc]

end

section Built

variable [FloorRing K] [Sqrt K] [Cbrt K] {shapes : Shapes K}

lemma secs_of_planned {P : Pacing K} {scenes : List (Scene shapes)} {gap : K} {n : ℕ}
    {ret : List ℕ} {legs : List (Leg K)} (h : Planned (some P) scenes gap n ret legs) :
    ∀ leg ∈ legs, ∃ secs, leg.secs = some secs := by
  have hmoved : ∀ {a b : List (Point K)} {legs : List (Leg K)}, Moved (some P) a b legs → True →
      True → ∀ leg ∈ legs, ∃ secs, leg.secs = some secs := by
    intro a b legs hmoved _ _ leg hleg
    obtain ⟨requested, hpaced⟩ := hmoved.kind leg hleg
    rw [hpaced]
    exact ⟨_, rfl⟩
  exact h.forall_legs (S := fun _ => True) hmoved
    (fun _ _ _ _ => ⟨trivial, fun _ _ => ⟨_, rfl⟩⟩) trivial trivial
    (fun _ => ⟨trivial, trivial⟩) ⟨_, rfl⟩ ⟨_, rfl⟩

lemma length_frames (P : Option (Pacing K)) (r : K) (legs : List (Leg K)) (n : ℕ) :
    (frames P r legs n).length = (legs.map fun leg => legSteps leg r).sum + 1 := by
  rw [frames, List.length_append, List.length_flatMap]
  congr 2
  refine List.map_congr_left fun leg _ => ?_
  rw [legFrames, List.length_map, List.length_range]

/-- So many waypoints and one more, in the order of time, from 0 to the end. -/
structure Timed (steps : ℕ) (finish : K) (ws : List (Waypoint K)) : Prop where
  length : ws.length = steps + 1
  ordered : ws.Pairwise fun w w' => w.time ≤ w'.time
  first : ws.head?.map Waypoint.time = some 0
  last : ws.getLast?.map Waypoint.time = some finish

variable [IsStrictOrderedRing K]

lemma timed_column {r : K} (hr : 0 < r) {all : List (List (Point K))} {steps : ℕ}
    (hlength : all.length = steps + 1) (i : ℕ) :
    Timed steps (round2 ((steps : K) * (1 / r))) (column r all i) := by
  have hcolumn := length_column r all i
  have hget : ∀ k < all.length, ∃ w, (column r all i)[k]? = some w ∧
      w.time = round2 ((k : K) * (1 / r)) := by
    intro k hk
    rw [getElem?_column, List.getElem?_eq_getElem hk]
    exact ⟨_, rfl, rfl⟩
  have hstep : 0 ≤ 1 / r := div_nonneg zero_le_one hr.le
  refine ⟨hcolumn.trans hlength, ?_, ?_, ?_⟩
  · rw [List.pairwise_iff_getElem]
    intro j k hj hk hjk
    obtain ⟨w, hw, hwt⟩ := hget j (hcolumn ▸ hj)
    obtain ⟨w', hw', hwt'⟩ := hget k (hcolumn ▸ hk)
    rw [List.getElem?_eq_getElem hj] at hw
    rw [List.getElem?_eq_getElem hk] at hw'
    rw [Option.some.inj hw, Option.some.inj hw', hwt, hwt']
    have hle : (j : K) ≤ k := by exact_mod_cast hjk.le
    exact round2_le (mul_nonneg (Nat.cast_nonneg j) hstep) (mul_le_mul_of_nonneg_right hle hstep)
  · obtain ⟨w, hw, hwt⟩ := hget 0 (by omega)
    rw [List.head?_eq_getElem?, hw, Option.map_some, hwt, Nat.cast_zero, zero_mul, round2_zero]
  · obtain ⟨w, hw, hwt⟩ := hget steps (by omega)
    rw [List.getLast?_eq_getElem?, hcolumn, hlength, Nat.add_sub_cancel, hw, Option.map_some, hwt]

lemma sum_spans (legs : List (Leg K)) (r : K) : (legs.map fun leg => (legSteps leg r / r : K)).sum =
      ((legs.map fun leg => legSteps leg r).sum : ℕ) * (1 / r) := by
  induction legs with
  | nil => simp
  | cons leg legs ih =>
    rw [List.map_cons, List.sum_cons, ih, List.map_cons, List.sum_cons, Nat.cast_add, add_mul,
      div_eq_mul_one_div (legSteps leg r : K)]

/-- A show that is built takes as long as was predicted, its waypoints are in the order of time
with one for every step and one more, and its blocks lie one after the other from 0 to its
end. -/
theorem timelines_agree {scenes : List (ι × Scene shapes)} {n rate : ℕ} {targetIdx : Js K}
    {pacing : String} {s : Show K} (hn : 1 ≤ n) (hrate : 1 ≤ rate)
    (hpacing : pacing ∉ inherited)
    (hbuild : buildSequencedShow (scenes.map Prod.snd) n (rate : K) targetIdx pacing = .ok s) :
    computeShowDuration (scenes.map Prod.snd) (some n) (some (rate : K)) targetIdx pacing =
        .ok (some s.duration) ∧
      (scenes = [] → s.drones = [] ∧ s.duration = 0) ∧
      ∀ last, scenes.getLast? = some last → ∃ legs assignment segs,
        planShow (scenes.map Prod.snd) last.2 n targetIdx pacing = .ok (legs, assignment) ∧
        s.drones.length = n ∧
        (∀ ws ∈ s.drones,
          Timed (legs.map fun leg => legSteps leg (rate : K)).sum s.duration ws) ∧
        buildTimelineSegments scenes (some n) (some (rate : K)) targetIdx pacing = .ok segs ∧
        segs ≠ [] ∧ Tiles segs 0 s.duration := by
  have hr : (1 : K) ≤ rate := by exact_mod_cast hrate
  have hr0 : (0 : K) < rate := lt_of_lt_of_le one_pos hr
  have hn' : (some n).filter (1 ≤ ·) = some n := by simp [hn]
  have hrate' : (some (rate : K)).filter (1 ≤ ·) = some (rate : K) := by simp [hr]
  cases hlast : scenes.getLast? with
  | none =>
    obtain rfl := List.getLast?_eq_none_iff.mp hlast
    obtain rfl := Except.ok.inj hbuild
    exact ⟨rfl, fun _ => ⟨rfl, rfl⟩, fun _ h => nomatch h⟩
  | some last =>
    have hlast' : (scenes.map Prod.snd).getLast? = some last.2 := by
      rw [List.getLast?_map, hlast]
      rfl
    obtain ⟨P, hP⟩ := exists_pacing (K := K) hpacing
    cases hplan : planShow (scenes.map Prod.snd) last.2 n targetIdx pacing with
    | error e =>
      rw [buildSequencedShow, hlast'] at hbuild
      dsimp only at hbuild
      rw [if_neg (by omega), hplan] at hbuild
      cases hbuild
    | ok plan =>
      obtain ⟨legs, assignment⟩ := plan
      obtain ⟨s', hs', hdrones, hduration⟩ :=
        buildSequencedShow_of_plan (rate : K) hlast' hn hplan
      obtain rfl := Except.ok.inj (hbuild.symm.trans hs')
      rw [max_eq_right hr] at hdrones hduration
      have hplanned := (planShow_ok hplan).2
      rw [hP] at hplanned
      have hsecs := secs_of_planned hplanned
      have hlength := length_frames (pacingOf pacing) (rate : K) legs n
      rw [hlength, Nat.add_sub_cancel] at hduration
      have hspans : legs.map (legSpan (some (rate : K))) =
          (legs.map fun leg => (legSteps leg (rate : K) / rate : K)).map some := by
        rw [List.map_map]
        refine List.map_congr_left fun leg hleg => ?_
        obtain ⟨secs, hs⟩ := hsecs leg hleg
        exact legSpan_eq hs _
      refine ⟨?_, fun hnil => ?_, fun last' hl => ?_⟩
      · simp only [computeShowDuration, hlast', hn', hrate', hplan, Except.map]
        rw [hspans, total_map_some, sum_spans, hduration]
        rfl
      · rw [hnil] at hlast
        cases hlast
      · obtain rfl := Option.some.inj hl
        have htags := legs_taggedPlan scenes last n targetIdx pacing
        rw [hplan] at htags
        obtain ⟨⟨tagged, assignment'⟩, htagged, heq⟩ := map_eq_ok.mp htags
        obtain ⟨hlegs, -⟩ := Prod.mk.inj heq
        dsimp only at hlegs
        have hdrawn : Drawn ((groups tagged).foldl (addGroup (some (rate : K))) ([], some 0))
            (0 + (((groups tagged).flatMap Prod.snd).map fun l =>
              (legSteps l.leg (rate : K) / rate : K)).sum) := by
          refine drawn_groups hr0 (fun g hg l hl => ?_)
            ⟨rfl, le_refl 0, round2_zero.symm, fun _ => rfl⟩
          have hmem : l ∈ tagged := by
            rw [← flatMap_groups tagged]
            exact List.mem_flatMap.mpr ⟨g, hg, hl⟩
          exact hsecs _ (hlegs ▸ List.mem_map_of_mem hmem)
        have hclock : (tagged.map fun l => (legSteps l.leg (rate : K) / rate : K)).sum =
            ((legs.map fun leg => legSteps leg (rate : K)).sum : ℕ) * (1 / (rate : K)) := by
          rw [← sum_spans, ← hlegs, List.map_map]
          rfl
        rw [flatMap_groups, zero_add, hclock] at hdrawn
        refine ⟨legs, assignment, _, hplan, ?_, fun ws hws => ?_, ?_, fun hnil => ?_,
          hduration ▸ hdrawn.tiles⟩
        · rw [hdrones, List.length_map, List.length_range]
        · rw [hdrones] at hws
          obtain ⟨i, -, rfl⟩ := List.mem_map.mp hws
          rw [hduration]
          exact timed_column hr0 hlength i
        · simp only [buildTimelineSegments, hlast, hn', hrate', htagged, Except.map]
        · -- the takeoff has a sample
          have hzero := hdrawn.nonempty hnil
          have hsteps : 1 ≤ (legs.map fun leg => legSteps leg (rate : K)).sum := by
            cases hplanned with
            | mk =>
              rw [List.map_cons, List.sum_cons]
              exact (one_le_legSteps (by decide) _ _ _ _).trans (Nat.le_add_right _ _)
          have hpos : (0 : K) < ((legs.map fun leg => legSteps leg (rate : K)).sum : ℕ) := by
            exact_mod_cast hsteps
          exact ne_of_gt (mul_pos hpos (one_div_pos.mpr hr0)) hzero

theorem timelines_agree_above : ∃ s : Show ℝ,
    buildSequencedShow [exactScene (above (-5))] 1 ((10 : ℕ) : ℝ) Js.other "standard" = .ok s ∧
      computeShowDuration [exactScene (above (-5))] (some 1) (some ((10 : ℕ) : ℝ)) Js.other
        "standard" = .ok (some s.duration) := by
  obtain ⟨s, hs, -⟩ := buildSequencedShow_of_plan ((10 : ℕ) : ℝ) rfl (le_refl 1)
    (plan_above (z := -5) (by norm_num))
  have hbuild : buildSequencedShow ([((), exactScene (above (-5)))].map Prod.snd) 1
      ((10 : ℕ) : ℝ) Js.other "standard" = .ok s := hs
  have hagree := timelines_agree (le_refl 1) (by norm_num) (by simp [inherited]) hbuild
  exact ⟨s, hs, hagree.1⟩

end Built

lemma Tiles.unique {segs : List (Segment ι K)} {a b c : K} (h : Tiles segs a b)
    (h' : Tiles segs a c) : b = c := by
  induction segs generalizing a with
  | nil => exact Eq.trans (Eq.symm h) h'
  | cons s segs ih =>
    obtain ⟨-, m, hm, -, hrest⟩ := h
    obtain ⟨-, m', hm', -, hrest'⟩ := h'
    obtain rfl := Option.some.inj (hm.symm.trans hm')
    exact ih hrest hrest'

/-- Without a scene nothing is built, but a takeoff and a landing are drawn. -/
theorem empty_timeline : ∃ (s : Show ℝ) (segs : List (Segment ℕ ℝ)),
    buildSequencedShow ([] : List (Scene (asGiven ℝ))) 1 1 Js.other "standard" = .ok s ∧
      buildTimelineSegments ([] : List (ℕ × Scene (asGiven ℝ))) (some 1) (some 1) Js.other
        "standard" = .ok segs ∧ ¬ Tiles segs 0 s.duration := by
  have hr : (some (1 : ℝ)).filter (1 ≤ ·) = some 1 := by simp
  have hspan : ∀ secs : ℝ, 1 ≤ quantMorph (some 1) secs := by
    intro secs
    change 1 ≤ ((max 1 (jsRound (secs * 1)) : ℤ) : ℝ) / 1
    rw [div_one]
    exact_mod_cast le_max_left 1 (jsRound (secs * 1))
  have hdrawn : Drawn (addSegment .land "Landing" (some (quantMorph (some 1) landSeconds)) none
      (addSegment .takeoff "Takeoff" (some (quantMorph (some 1) takeoffSeconds)) (none : Option ℕ)
        ([], some 0))) (0 + quantMorph (some 1) takeoffSeconds +
          quantMorph (some 1) (landSeconds : ℝ)) := by
    have hstart : Drawn (([], some 0) : List (Segment ℕ ℝ) × Option ℝ) 0 :=
      ⟨rfl, le_refl 0, round2_zero.symm, fun _ => rfl⟩
    exact (hstart.add (zero_le_one.trans (hspan _)) _ _ _).add (zero_le_one.trans (hspan _)) _ _ _
  refine ⟨_, _, rfl, rfl, fun htiles => ?_⟩
  rw [hr] at htiles
  have hzero := htiles.unique hdrawn.tiles
  have hnear := abs_le.mp (abs_round2_sub_le
    (0 + quantMorph (some 1) takeoffSeconds + quantMorph (some 1) (landSeconds : ℝ)))
  have htakeoff := hspan takeoffSeconds
  have hland := hspan landSeconds
  rw [← hzero] at hnear
  dsimp only at hnear
  linarith [hnear.1]

end Taramandal.Studio.Timeline
