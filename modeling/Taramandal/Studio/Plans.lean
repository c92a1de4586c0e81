import Taramandal.Studio.Sequencer

/-! # What a plan is made of

The legs of a plan, told once: what a `move` makes (`Moved`), the way through the scenes
(`Toured`), and the whole plan (`Planned`). Each leg starts where the one before it ends
(`Linked`). -/
set_option linter.unusedSectionVars false

namespace Taramandal.Studio.Plans

open Lib.Check Core.Numbers Studio.Layout Studio.Formations Studio.Morphs Studio.Sequencer

variable {K : Type} [Field K] [LinearOrder K]

/-! ## Layers -/

lemma le_firstFree (taken : List ℤ) (fuel : ℕ) (c : ℤ) : c ≤ firstFree taken fuel c := by
  induction fuel generalizing c with
  | zero => exact le_rfl
  | succ fuel ih =>
    rw [firstFree]
    split
    · exact (Int.le_of_lt (Int.lt_succ c)).trans (ih (c + 1))
    · exact le_rfl

lemma mem_set_ge {layer : List ℤ} {low l : ℤ} {i : ℕ} (h : ∀ x ∈ layer, low ≤ x) (hl : low ≤ l) :
    ∀ x ∈ layer.set i l, low ≤ x := by
  intro x hx
  rcases List.mem_or_eq_of_mem_set hx with hx | rfl
  · exact h x hx
  · exact hl

section

variable [Sqrt K]

/-- Layers of all drones, none below the one that says it has none. -/
structure Layers (n : ℕ) (layer : List ℤ) : Prop where
  length : layer.length = n
  low : ∀ l ∈ layer, -1 ≤ l

variable {layer : List ℤ} {n : ℕ}

lemma Layers.set (h : Layers n layer) {l : ℤ} (hl : -1 ≤ l) (i : ℕ) : Layers n (layer.set i l) where
  length := by rw [List.length_set, h.length]
  low := mem_set_ge h.low hl

lemma Layers.initial (n : ℕ) : Layers n (List.replicate n (-1)) where
  length := List.length_replicate
  low := by
    intro l hl
    rw [List.eq_of_mem_replicate hl]

lemma le_foldl_max (f : ℕ → ℤ) (is : List ℕ) (c : ℤ) : c ≤ is.foldl (fun c i => max c (f i)) c := by
  induction is generalizing c with
  | nil => exact le_rfl
  | cons i is ih => exact (le_max_left _ _).trans (ih _)

variable {clearance : K} {goal start : List (Point K)}

variable {s : Layering}

lemma Layering.assign_layers (i : ℕ) (rest : List ℕ) (h : Layers n s.layer) :
    Layers n (s.assign start goal clearance i rest).layer := by
  refine h.set ?_ i
  have hzero := le_foldl_max (fun lo => layerOf s.layer lo + 1) (lowerOnes start goal i) 0
  exact le_trans (by omega) (hzero.trans (le_firstFree _ _ _))

lemma runLayering_layers {fuel : ℕ} (h : Layers n s.layer) :
    Layers n (runLayering start goal clearance fuel s).layer := by
  induction fuel generalizing s with
  | zero => exact h
  | succ fuel ih =>
    rw [runLayering]
    split
    · exact h
    · exact ih (Layering.assign_layers _ _ h)

lemma computeMorphLayers_layers (h : computeMorphLayers start goal clearance = some layer) :
    Layers start.length layer := by
  unfold computeMorphLayers at h
  dsimp only at h
  split at h
  · obtain rfl := Option.some.inj h
    exact runLayering_layers (.initial _)
  · cases h

lemma foldl_set_length (f : List ℤ → ℕ → ℤ) (order : List ℕ) (layer : List ℤ) :
    (order.foldl (fun layer i => layer.set i (f layer i)) layer).length = layer.length := by
  induction order generalizing layer with
  | nil => rfl
  | cons i order ih => rw [List.foldl_cons, ih, List.length_set]

lemma foldl_set_nonneg {f : List ℤ → ℕ → ℤ} (hf : ∀ layer i, 0 ≤ f layer i) {order : List ℕ}
    {i : ℕ} (hi : i ∈ order ∨ ∀ x, layer[i]? = some x → 0 ≤ x) :
    ∀ x, (order.foldl (fun layer i => layer.set i (f layer i)) layer)[i]? = some x → 0 ≤ x := by
  induction order generalizing layer with
  | nil =>
    obtain hmem | hi := hi
    · exact absurd hmem List.not_mem_nil
    · exact hi
  | cons k order ih =>
    rw [List.foldl_cons]
    refine ih ?_
    by_cases hmem : i ∈ order
    · exact .inl hmem
    · refine .inr fun x hx => ?_
      rcases hi with hi | hi
      · obtain rfl := (List.mem_cons.mp hi).resolve_right hmem
        have hlt : i < layer.length := by
          simpa only [List.length_set] using (List.getElem?_eq_some_iff.mp hx).1
        rw [List.getElem?_set_self hlt] at hx
        exact Option.some.inj hx ▸ hf layer i
      · rw [List.getElem?_set] at hx
        split at hx
        · split at hx
          · exact Option.some.inj hx ▸ hf layer k
          · cases hx
        · exact hi x hx

lemma returnLayers_nonneg (spots homes : List (Point K)) :
    ∀ l ∈ returnLayers spots homes, 0 ≤ l := by
  intro l hl
  obtain ⟨i, hi⟩ := List.mem_iff_getElem?.mp hl
  refine foldl_set_nonneg (fun layer i => le_firstFree _ _ _) (.inl ?_) l hi
  have hlt := (List.getElem?_eq_some_iff.mp hi).1
  rw [returnLayers, foldl_set_length, List.length_replicate] at hlt
  exact (List.perm_insertionSort _ _).mem_iff.mpr (List.mem_range.mpr hlt)

lemma length_returnLayers (spots homes : List (Point K)) :
    (returnLayers spots homes).length = spots.length := by
  rw [returnLayers, foldl_set_length, List.length_replicate]

end

/-! ## Legs in a row -/

def Linked : List (Point K) → List (Leg K) → List (Point K) → Prop
  | a, [], b => a = b
  | a, leg :: legs, b => leg.start = a ∧ Linked leg.goal legs b

variable {a b : List (Point K)} {legs : List (Leg K)}

lemma Linked.append {c : List (Point K)} {legs' : List (Leg K)} (h : Linked a legs b)
    (h' : Linked b legs' c) : Linked a (legs ++ legs') c := by
  induction legs generalizing a with
  | nil =>
    obtain rfl : a = b := h
    exact h'
  | cons leg legs ih => exact ⟨h.1, ih h.2⟩

lemma Linked.exists_start (h : Linked a legs b) (hne : legs ≠ []) :
    ∃ leg ∈ legs, leg.start = a := by
  cases legs with
  | nil => exact absurd rfl hne
  | cons leg legs => exact ⟨leg, List.mem_cons_self, h.1⟩

lemma Linked.exists_goal (h : Linked a legs b) (hne : legs ≠ []) : ∃ leg ∈ legs, leg.goal = b := by
  induction legs generalizing a with
  | nil => exact absurd rfl hne
  | cons leg legs ih =>
    cases legs with
    | nil => exact ⟨leg, List.mem_cons_self, h.2⟩
    | cons next legs =>
      obtain ⟨last, hlast, hgoal⟩ := ih h.2 (List.cons_ne_nil _ _)
      exact ⟨last, List.mem_cons_of_mem _ hlast, hgoal⟩

section

variable [Sqrt K] [Cbrt K]

/-- The legs that a `move` makes: one, far enough apart, or three at layers. -/
inductive Moved (P : Option (Pacing K)) (start goal : List (Point K)) : List (Leg K) → Prop where
  | straight (requested : K) (h : morphNeedsLayering start goal = false) :
      Moved P start goal [pacedLeg P .morph start goal requested]
  | layered (requested : K) (layer : List ℤ) (hlayer : Layers start.length layer)
      (hceiling : -maxAltitudeM ≤
        highest start goal - ((layer.max?.getD 0 : ℤ) + 1) * layerClearance)
      (hlift : tooClose start (lifted (highest start goal) layer start) = false)
      (htransit : tooClose (lifted (highest start goal) layer start)
        (lifted (highest start goal) layer goal) = false)
      (hdescent : tooClose (lifted (highest start goal) layer goal) goal = false) :
      Moved P start goal [
        pacedLeg P .morph start (lifted (highest start goal) layer start) (requested * (2 / 10)),
        pacedLeg P .morph (lifted (highest start goal) layer start)
          (lifted (highest start goal) layer goal) (requested * (6 / 10)),
        pacedLeg P .morph (lifted (highest start goal) layer goal) goal (requested * (2 / 10))]

variable {P : Option (Pacing K)} {goal start : List (Point K)} {legs : List (Leg K)}

lemma move_ok {label : String} {requested : K} (h : move P label start goal requested = .ok legs) :
    Moved P start goal legs := by
  unfold move at h
  split at h
  · unfold layeredMorph at h
    dsimp only at h
    split at h
    · cases h
    · split at h
      · cases h
      · next layer hlayer =>
        split at h
        · cases h
        · next hceiling =>
          split at h
          · cases h
          · next hfind =>
            obtain rfl := Except.ok.inj h
            rw [List.find?_eq_none] at hfind
            refine .layered requested layer (computeMorphLayers_layers hlayer)
              (not_lt.mp hceiling) ?_ ?_ ?_
            · exact Bool.not_eq_true _ ▸ hfind (start, lifted (highest start goal) layer start)
                (by simp)
            · exact Bool.not_eq_true _ ▸ hfind (lifted (highest start goal) layer start,
                lifted (highest start goal) layer goal) (by simp)
            · exact Bool.not_eq_true _ ▸ hfind (lifted (highest start goal) layer goal, goal)
                (by simp)
  · next hdirect =>
    obtain rfl := Except.ok.inj h
    exact .straight requested (Bool.not_eq_true _ ▸ hdirect)

section

variable (h : Moved P start goal legs)
include h

lemma Moved.linked : Linked start legs goal := by
  cases h with
  | straight => exact ⟨rfl, rfl⟩
  | layered => exact ⟨rfl, rfl, rfl, rfl⟩

lemma Moved.ne_nil : legs ≠ [] := by
  cases h with
  | straight => exact List.cons_ne_nil _ _
  | layered => exact List.cons_ne_nil _ _

lemma Moved.kind : ∀ leg ∈ legs, ∃ requested,
      leg = pacedLeg P .morph leg.start leg.goal requested := by
  cases h with
  | straight requested =>
    intro leg hleg
    rw [List.mem_singleton] at hleg
    exact ⟨requested, by rw [hleg]; rfl⟩
  | layered requested =>
    intro leg hleg
    simp only [List.mem_cons, List.not_mem_nil, or_false] at hleg
    obtain rfl | rfl | rfl := hleg
    · exact ⟨_, rfl⟩
    · exact ⟨_, rfl⟩
    · exact ⟨_, rfl⟩

end

end

section

variable [FloorRing K]

variable {n : ℕ}

variable {js : Js K}

lemma index_lt {i : ℕ} (h : js.index n = some i) : i < n := by
  cases js with
  | num x =>
    unfold Js.index at h
    dsimp only at h
    split at h
    · next hx =>
      obtain rfl := Option.some.inj h
      omega
    · cases h
  | arr items => cases h
  | other => cases h

variable {is : List ℕ}

lemma mapM_index {items : List (Js K)} (h : items.mapM (Js.index n) = some is) :
    is.length = items.length ∧ ∀ i ∈ is, i < n := by
  induction items generalizing is with
  | nil =>
    obtain rfl := Option.some.inj h
    exact ⟨rfl, fun i hi => absurd hi List.not_mem_nil⟩
  | cons js items ih =>
    rw [List.mapM_cons] at h
    obtain ⟨i, hi, h⟩ := Option.bind_eq_some_iff.mp h
    obtain ⟨rest, hrest, h⟩ := Option.bind_eq_some_iff.mp h
    obtain rfl := Option.some.inj h
    obtain ⟨hlength, hlt⟩ := ih hrest
    refine ⟨congrArg (· + 1) hlength, fun k hk => ?_⟩
    rcases List.mem_cons.mp hk with rfl | hk
    · exact index_lt hi
    · exact hlt k hk

lemma permutation_perm (h : js.permutation n = some is) : is.Perm (List.range n) := by
  cases js with
  | arr items =>
    unfold Js.permutation at h
    dsimp only at h
    split at h
    · next hlength =>
      obtain ⟨hmap, hnodup⟩ := Option.filter_eq_some_iff.mp h
      obtain ⟨his, hlt⟩ := mapM_index hmap
      have hsub : is ⊆ List.range n := fun i hi => List.mem_range.mpr (hlt i hi)
      refine (List.subperm_of_subset (of_decide_eq_true hnodup) hsub).perm_of_length_le ?_
      rw [List.length_range, his, hlength]
    · cases h
  | num x => cases h
  | other => cases h

lemma getD_permutation_perm (js : Option (Js K)) :
    ((js.bind (Js.permutation n)).getD (List.range n)).Perm (List.range n) := by
  cases h : js.bind (Js.permutation n) with
  | none => exact .refl _
  | some is =>
    obtain ⟨js, -, his⟩ := Option.bind_eq_some_iff.mp h
    exact permutation_perm his

lemma perm_of_ite {c : Prop} [Decidable c] (h : is.Perm (List.range n)) :
    (if c then is else List.range n).Perm (List.range n) := by
  split
  · exact h
  · exact .refl _

lemma normalizeAssignment_perm (targetIdx : Js K) (sceneCount n : ℕ) :
    (∀ is ∈ (normalizeAssignment targetIdx sceneCount n).scenes, is.Perm (List.range n)) ∧
      (normalizeAssignment targetIdx sceneCount n).ret.Perm (List.range n) := by
  constructor
  · intro is his
    obtain ⟨s, -, rfl⟩ := List.mem_map.mp his
    exact perm_of_ite (getD_permutation_perm _)
  · exact perm_of_ite (perm_of_ite (getD_permutation_perm _))

end

/-! ## The whole plan -/

/-- Positions to hold, and how long. -/
structure Stop (K : Type) where
  pts : List (Point K)
  secs : K

def Stop.hold (stop : Stop K) : Leg K where
  kind := .hold
  start := stop.pts
  goal := stop.pts
  secs := some stop.secs

section

variable [Sqrt K] {shapes : Shapes K}

/-- What `sceneLegs` stops at for a scene. -/
structure StopOf (scene : Scene shapes × List (Option (Point K))) (stop : Stop K) : Prop where
  placed : allPlaced scene.2 = .ok stop.pts
  secs : stop.secs = nonNeg scene.1.holdDurationSeconds

/-- A stop at a scene's formation, each drone at a point of its own. -/
structure Stands (n : ℕ) (s : Scene shapes) (stop : Stop K) : Prop where
  secs : stop.secs = nonNeg s.holdDurationSeconds
  length : stop.pts.length = n
  formation : ∃ (f : List (Point K)) (assigned : List ℕ),
    buildFormation shapes s.shapeType s.shapePayload n s.scale = .ok f ∧
      assigned.Perm (List.range n) ∧
      ∀ i < n, stop.pts[i]? = (assigned[i]?.bind fun k => f[k]?).or f[i]?

variable {pos : List (Option (Point K))}

lemma allPlaced_ok {pts : List (Point K)} (h : allPlaced pos = .ok pts) : pos = pts.map some := by
  have hmap : pos.mapM id = some pts := by
    unfold allPlaced at h
    split at h
    · next hmap => rw [hmap, Except.ok.inj h]
    · cases h
  clear h
  induction pos generalizing pts with
  | nil =>
    obtain rfl := Option.some.inj hmap
    rfl
  | cons p pos ih =>
    rw [List.mapM_cons] at hmap
    obtain ⟨q, hq, hmap⟩ := Option.bind_eq_some_iff.mp hmap
    obtain ⟨rest, hrest, hmap⟩ := Option.bind_eq_some_iff.mp hmap
    obtain rfl := Option.some.inj hmap
    rw [List.map_cons, ← ih hrest]
    exact congrArg (· :: pos) hq

lemma scenePos_stands {n : ℕ} {s : Scene shapes}
    {assigned : List ℕ} (hassigned : assigned.Perm (List.range n))
    (hpos : scenePos n s assigned = .ok pos) {stop : Stop K} (hstop : StopOf (s, pos) stop) :
    Stands n s stop := by
  obtain ⟨f, hf, hpos⟩ := bind_eq_ok.mp hpos
  obtain rfl := Except.ok.inj hpos
  have hpts := allPlaced_ok hstop.placed
  have hlength : stop.pts.length = n := by
    have := congrArg List.length hpts
    simpa using this.symm
  refine ⟨hstop.secs, hlength, f, assigned, hf, hassigned, fun i hi => ?_⟩
  have hi' := congrArg (fun l => l[i]?) hpts
  have hlt : i < stop.pts.length := hlength ▸ hi
  simp only [List.getElem?_map, List.getElem?_range hi, Option.map_some,
    List.getElem?_eq_getElem hlt] at hi'
  rw [List.getElem?_eq_getElem hlt]
  exact (Option.some.inj hi').symm

lemma stands_of_stops {n : ℕ} {scenes : List (Scene shapes)} {rows : List (List ℕ)}
    {positions : List (List (Option (Point K)))} {stops : List (Stop K)}
    (hrows : ∀ row ∈ rows, row.Perm (List.range n)) (hlength : rows.length = scenes.length)
    (hpos : List.Forall₂ (fun (s : Scene shapes × List ℕ) pos => scenePos n s.1 s.2 = .ok pos)
      (scenes.zip rows) positions)
    (hstops : List.Forall₂ StopOf (scenes.zip positions) stops) :
    List.Forall₂ (Stands n) scenes stops := by
  induction scenes generalizing rows positions stops with
  | nil =>
    cases hstops
    exact .nil
  | cons s scenes ih =>
    cases rows with
    | nil => cases hlength
    | cons row rows =>
      cases hpos with
      | cons hone hrest =>
        cases hstops with
        | cons hstop hstops =>
          exact .cons (scenePos_stands (hrows row List.mem_cons_self) hone hstop)
            (ih (fun r hr => hrows r (List.mem_cons_of_mem _ hr)) (Nat.succ.inj hlength) hrest
              hstops)

end

section Plan

variable [Sqrt K] [Cbrt K] {shapes : Shapes K}

/-- The legs from stop to stop. -/
inductive Toured (P : Option (Pacing K)) :
    List (Point K) → List (Stop K) → List (Leg K) → List (Point K) → Prop where
  | nil {a : List (Point K)} : Toured P a [] [] a
  | cons {a b : List (Point K)} {stop : Stop K} {stops : List (Stop K)} {morph legs : List (Leg K)}
      (hmorph : Moved P a stop.pts morph) (hrest : Toured P stop.pts stops legs b) :
      Toured P a (stop :: stops) (morph ++ stop.hold :: legs) b

variable {P : Option (Pacing K)} {a b : List (Point K)} {legs : List (Leg K)}
  {stops : List (Stop K)}

lemma Toured.linked (h : Toured P a stops legs b) : Linked a legs b := by
  induction h with
  | nil => rfl
  | cons hmorph hrest ih => exact hmorph.linked.append ⟨rfl, ih⟩

variable {prev pts : List (Point K)} {last s : Scene shapes} {targetIdx : Js K} {pacing : String}
  {S : List (Point K) → Prop} {Q : Leg K → Prop} {pos : List (Option (Point K))}

lemma sceneLegs_ok {first : Bool}
    {scenes : List (Scene shapes × List (Option (Point K)))} {last : List (Point K)}
    (h : sceneLegs P first prev scenes = .ok (legs, last)) :
    ∃ stops, List.Forall₂ StopOf scenes stops ∧ Toured P prev stops legs last := by
  induction scenes generalizing first prev legs with
  | nil =>
    cases h
    exact ⟨[], .nil, .nil⟩
  | cons scene scenes ih =>
    obtain ⟨s, pos⟩ := scene
    obtain ⟨pts, hpts, h⟩ := bind_eq_ok.mp h
    obtain ⟨morph, hmorph, h⟩ := bind_eq_ok.mp h
    obtain ⟨⟨rest, last'⟩, hrest, h⟩ := bind_eq_ok.mp h
    cases h
    obtain ⟨stops, hstops, htoured⟩ := ih hrest
    let stop : Stop K := { pts := pts, secs := nonNeg s.holdDurationSeconds }
    have hall : Toured P prev (stop :: stops) (morph ++ stop.hold :: rest) last :=
      .cons (move_ok hmorph) htoured
    exact ⟨stop :: stops, .cons ⟨hpts, rfl⟩ hstops, hall⟩

def swapLayers (K : Type) [Field K] [LinearOrder K] [Sqrt K] (n : ℕ) (ret : List ℕ) : List ℤ :=
  returnLayers (ret.map hoverAt) (hover n : List (Point K))

inductive Swapped (P : Option (Pacing K)) (gap : K) (n : ℕ) (ret : List ℕ) :
    List (Leg K) → Prop where
  | home (h : ret = List.range n) : Swapped P gap n ret []
  | layers {lift cross descent : List (Leg K)} (h : ret ≠ List.range n)
      (hlift : Moved P (ret.map hoverAt) (atLayers gap (swapLayers K n ret) (ret.map hoverAt)) lift)
      (hcross : Moved P (atLayers gap (swapLayers K n ret) (ret.map hoverAt))
        (atLayers gap (swapLayers K n ret) (hover n)) cross)
      (hdescent : Moved P (atLayers gap (swapLayers K n ret) (hover n)) (hover n) descent) :
      Swapped P gap n ret (lift ++ (cross ++ descent))

variable {gap : K} {n : ℕ} {ret : List ℕ}

lemma swapLegs_ok (h : swapLegs P gap n ret = .ok legs) : Swapped P gap n ret legs := by
  unfold swapLegs at h
  split at h
  · next hret =>
    cases h
    exact .home hret
  · next hret =>
    obtain ⟨lift, hlift, h⟩ := bind_eq_ok.mp h
    obtain ⟨cross, hcross, h⟩ := bind_eq_ok.mp h
    obtain ⟨descent, hdescent, h⟩ := bind_eq_ok.mp h
    cases h
    exact .layers hret (move_ok hlift) (move_ok hcross) (move_ok hdescent)

lemma Swapped.linked (h : Swapped P gap n ret legs) : Linked (ret.map hoverAt) legs (hover n) := by
  cases h with
  | home h =>
    rw [h]
    rfl
  | layers h hlift hcross hdescent =>
    exact hlift.linked.append (hcross.linked.append hdescent.linked)

def takeoff (P : Option (Pacing K)) (n : ℕ) : Leg K :=
  pacedLeg P .takeoff (ground n) (hover n) takeoffSeconds

def landing (P : Option (Pacing K)) (n : ℕ) : Leg K :=
  pacedLeg P .land (hover n) (ground n) landSeconds

/-- A plan: takeoff, the way through the scenes, back, the swap, and the landing. -/
inductive Planned (P : Option (Pacing K)) (scenes : List (Scene shapes)) (gap : K) (n : ℕ)
    (ret : List ℕ) : List (Leg K) → Prop where
  | mk {stops : List (Stop K)} {body back swap : List (Leg K)} {prev : List (Point K)}
      (hstops : List.Forall₂ (Stands n) scenes stops) (hbody : Toured P (hover n) stops body prev)
      (hback : Moved P prev (ret.map hoverAt) back) (hswap : Swapped P gap n ret swap) :
      Planned P scenes gap n ret (takeoff P n :: (body ++ (back ++ (swap ++ [landing P n]))))

variable {scenes : List (Scene shapes)}

/-- What `planShow` plans. -/
lemma planShow_ok [FloorRing K] {assignment : Assignment}
    (h : planShow scenes last n targetIdx pacing = .ok (legs, assignment)) :
    assignment = normalizeAssignment targetIdx scenes.length n ∧
      Planned (pacingOf pacing) scenes (gapOf last.transitLayerGapMeters) n assignment.ret
        legs := by
  obtain ⟨positions, hpos, h⟩ := bind_eq_ok.mp h
  obtain ⟨⟨body, prev⟩, hbody, h⟩ := bind_eq_ok.mp h
  obtain ⟨back, hback, h⟩ := bind_eq_ok.mp h
  obtain ⟨swap, hswap, h⟩ := bind_eq_ok.mp h
  cases h
  obtain ⟨stops, hstops, htoured⟩ := sceneLegs_ok hbody
  obtain ⟨hrows, hret⟩ := normalizeAssignment_perm targetIdx scenes.length n
  have hlength : (normalizeAssignment targetIdx scenes.length n).scenes.length = scenes.length :=
    (List.length_map _).trans List.length_range
  exact ⟨rfl, .mk (stands_of_stops hrows hlength (mapM_eq_ok.mp hpos) hstops) htoured
    (move_ok hback) (swapLegs_ok hswap)⟩

lemma Planned.linked (h : Planned P scenes gap n ret legs) : Linked (ground n) legs (ground n) := by
  cases h with
  | mk hstops hbody hback hswap =>
    have hland : Linked (hover n) [landing P n] (ground n) := ⟨rfl, rfl⟩
    exact ⟨rfl, hbody.linked.append (hback.linked.append (hswap.linked.append hland))⟩

/-- What holds of a hold, however it was come by, from positions that are `S`. -/
def HoldsAt (P : Option (Pacing K)) (S : List (Point K) → Prop) (Q : Leg K → Prop)
    (stop : Stop K) : Prop :=
  S stop.pts ∧ ∀ {a : List (Point K)} {legs : List (Leg K)}, Moved P a stop.pts legs → S a →
    Q stop.hold

lemma Toured.forall_legs
    (hmoved : ∀ {a b : List (Point K)} {legs : List (Leg K)}, Moved P a b legs → S a → S b →
      ∀ leg ∈ legs, Q leg) (h : Toured P a stops legs b) (ha : S a)
    (hstops : ∀ stop ∈ stops, HoldsAt P S Q stop) :
    S b ∧ ∀ leg ∈ legs, Q leg := by
  induction h with
  | nil => exact ⟨ha, fun leg hleg => absurd hleg List.not_mem_nil⟩
  | cons hmorph hrest ih =>
    obtain ⟨hstop, hhold⟩ := hstops _ List.mem_cons_self
    obtain ⟨hb, hlegs⟩ := ih hstop fun s hs => hstops s (List.mem_cons_of_mem _ hs)
    refine ⟨hb, fun leg hleg => ?_⟩
    rw [List.mem_append, List.mem_cons] at hleg
    rcases hleg with hleg | rfl | hleg
    · exact hmoved hmorph ha hstop leg hleg
    · exact hhold hmorph ha
    · exact hlegs leg hleg

/-- What holds of all legs of a plan, from what holds of the positions between them. -/
lemma Planned.forall_legs (h : Planned P scenes gap n ret legs)
    (hmoved : ∀ {a b : List (Point K)} {legs : List (Leg K)}, Moved P a b legs → S a → S b →
      ∀ leg ∈ legs, Q leg) (hstops : ∀ s ∈ scenes, ∀ stop, Stands n s stop → HoldsAt P S Q stop)
    (hhover : S (hover n)) (hspots : S (ret.map hoverAt))
    (hswap : ret ≠ List.range n → S (atLayers gap (swapLayers K n ret) (ret.map hoverAt)) ∧
      S (atLayers gap (swapLayers K n ret) (hover n))) (htakeoff : Q (takeoff P n))
    (hlanding : Q (landing P n)) : ∀ leg ∈ legs, Q leg := by
  cases h with
  | mk hstands hbody hback hswapped =>
    obtain ⟨hprev, htour⟩ := hbody.forall_legs hmoved hhover fun stop hstop => by
      obtain ⟨s, hs, hstand⟩ := exists_of_forall₂ hstands hstop
      exact hstops s hs stop hstand
    intro leg hleg
    simp only [List.mem_cons, List.mem_append, List.not_mem_nil, or_false] at hleg
    rcases hleg with rfl | hleg | hleg | hleg | rfl
    · exact htakeoff
    · exact htour leg hleg
    · exact hmoved hback hprev hspots leg hleg
    · cases hswapped with
      | home h => exact absurd hleg List.not_mem_nil
      | layers h hlift hcross hdescent =>
        obtain ⟨hspotsUp, hhomesUp⟩ := hswap h
        rw [List.mem_append, List.mem_append] at hleg
        rcases hleg with hleg | hleg | hleg
        · exact hmoved hlift hspots hspotsUp leg hleg
        · exact hmoved hcross hspotsUp hhomesUp leg hleg
        · exact hmoved hdescent hhomesUp hhover leg hleg
    · exact hlanding

lemma Toured.hold_mem (h : Toured P a stops legs b) : ∀ stop ∈ stops, stop.hold ∈ legs := by
  induction h with
  | nil => exact fun stop hstop => absurd hstop List.not_mem_nil
  | cons hmorph hrest ih =>
    intro stop hstop
    rw [List.mem_append, List.mem_cons]
    rcases List.mem_cons.mp hstop with rfl | hstop
    · exact .inr (.inl rfl)
    · exact .inr (.inr (ih stop hstop))

lemma Planned.exists_hold (h : Planned P scenes gap n ret legs)
    (hs : s ∈ scenes) : ∃ stop, Stands n s stop ∧ stop.hold ∈ legs := by
  cases h with
  | mk hstands hbody hback hswap =>
    obtain ⟨stop, hstop, hstand⟩ := exists_of_forall₂ hstands.flip hs
    have hmem := hbody.hold_mem stop hstop
    exact ⟨stop, hstand, List.mem_cons_of_mem _ (List.mem_append_left _ hmem)⟩

lemma Planned.exists_cross (h : Planned P scenes gap n ret legs) (hret : ret ≠ List.range n) :
    ∃ leg ∈ legs, leg.start = atLayers gap (swapLayers K n ret) (ret.map hoverAt) := by
  cases h with
  | mk hstands hbody hback hswap =>
    cases hswap with
    | home h => exact absurd h hret
    | layers h hlift hcross hdescent =>
      obtain ⟨leg, hleg, hstart⟩ := hcross.linked.exists_start hcross.ne_nil
      refine ⟨leg, List.mem_cons_of_mem _ ?_, hstart⟩
      simp only [List.mem_append]
      exact .inr (.inr (.inl (.inr (.inl hleg))))

lemma length_lifted {top : K} {layer : List ℤ}
    (h : layer.length = pts.length) : (lifted top layer pts).length = pts.length := by
  rw [lifted, List.length_zipWith, h, min_self]

lemma length_atLayers {layer : List ℤ} (h : layer.length = pts.length) :
    (atLayers gap layer pts).length = pts.length := by
  rw [atLayers, List.length_zipWith, h, min_self]

lemma Moved.lengths {start goal : List (Point K)} (h : Moved P start goal legs)
    (hstart : start.length = n) (hgoal : goal.length = n) :
    ∀ leg ∈ legs, leg.start.length = n ∧ leg.goal.length = n := by
  cases h with
  | straight requested h =>
    intro leg hleg
    rw [List.mem_singleton] at hleg
    rw [hleg]
    exact ⟨hstart, hgoal⟩
  | layered requested layer hlayer =>
    have hup : (lifted (highest start goal) layer start).length = start.length :=
      length_lifted hlayer.length
    have hup' : (lifted (highest start goal) layer goal).length = goal.length :=
      length_lifted (by rw [hlayer.length, hstart, hgoal])
    rw [hstart] at hup
    rw [hgoal] at hup'
    intro leg hleg
    simp only [List.mem_cons, List.not_mem_nil, or_false] at hleg
    rcases hleg with rfl | rfl | rfl
    · exact ⟨hstart, hup⟩
    · exact ⟨hup, hup'⟩
    · exact ⟨hup', hgoal⟩

lemma length_hover (n : ℕ) : (hover n : List (Point K)).length = n := by
  rw [hover, List.length_map, List.length_range]

omit [Sqrt K] [Cbrt K] [LinearOrder K] in
lemma length_ground (n : ℕ) : (ground n : List (Point K)).length = n := by
  rw [ground, List.length_map, List.length_range]

lemma length_swapLayers (n : ℕ) (ret : List ℕ) : (swapLayers K n ret).length = ret.length := by
  rw [swapLayers, length_returnLayers, List.length_map]

lemma Planned.lengths (h : Planned P scenes gap n ret legs) (hret : ret.Perm (List.range n)) :
    ∀ leg ∈ legs, leg.start.length = n ∧ leg.goal.length = n := by
  have hlength : ret.length = n := hret.length_eq.trans List.length_range
  have hspots : (ret.map (hoverAt : ℕ → Point K)).length = n := by rw [List.length_map, hlength]
  refine h.forall_legs (S := fun pts => pts.length = n) (fun hmoved ha hb => hmoved.lengths ha hb)
    (fun s _ stop hstop => ⟨hstop.length, fun _ _ => ⟨hstop.length, hstop.length⟩⟩)
    (length_hover n) hspots ?_ ⟨length_ground n, length_hover n⟩
    ⟨length_hover n, length_ground n⟩
  intro _
  constructor
  · rw [length_atLayers (by rw [length_swapLayers, hspots, hlength]), hspots]
  · rw [length_atLayers (by rw [length_swapLayers, length_hover, hlength]), length_hover]

/-! ## What is not planned -/

variable {e : ShowError K}

lemma move_error {label : String} {start goal : List (Point K)} {requested : K}
    (h : move P label start goal requested = .error e) :
    ∃ reason, e = .refusal reason := by
  unfold move at h
  split at h
  · unfold layeredMorph at h
    dsimp only at h
    split at h
    · cases h
      exact ⟨_, rfl⟩
    · split at h
      · cases h
        exact ⟨_, rfl⟩
      · split at h
        · cases h
          exact ⟨_, rfl⟩
        · split at h
          · cases h
            exact ⟨_, rfl⟩
          · cases h
  · cases h

lemma allPlaced_error (h : allPlaced pos = .error e) : none ∈ pos := by
  by_contra hnone
  have hall : ∃ pts : List (Point K), pos.mapM id = some pts := by
    clear h
    induction pos with
    | nil => exact ⟨[], rfl⟩
    | cons p pos ih =>
      obtain ⟨pts, hpts⟩ := ih fun hmem => hnone (List.mem_cons_of_mem _ hmem)
      cases p with
      | none => exact absurd List.mem_cons_self hnone
      | some p => exact ⟨p :: pts, by rw [List.mapM_cons, hpts]; rfl⟩
  obtain ⟨pts, hpts⟩ := hall
  rw [allPlaced, hpts] at h
  cases h

variable {text : String}

lemma sceneLegs_plain {first : Bool} {scenes : List (Scene shapes × List (Option (Point K)))}
    (h : sceneLegs P first prev scenes = .error (.plain text)) : ∃ s ∈ scenes, none ∈ s.2 := by
  induction scenes generalizing first prev with
  | nil => cases h
  | cons scene scenes ih =>
    obtain ⟨s, pos⟩ := scene
    rcases bind_eq_error.mp h with hplaced | ⟨pts, -, h⟩
    · exact ⟨_, List.mem_cons_self, allPlaced_error hplaced⟩
    rcases bind_eq_error.mp h with hmove | ⟨morph, -, h⟩
    · obtain ⟨reason, hreason⟩ := move_error hmove
      cases hreason
    rcases bind_eq_error.mp h with hrest | ⟨rest, -, h⟩
    · obtain ⟨scene, hscene, hnone⟩ := ih hrest
      exact ⟨scene, List.mem_cons_of_mem _ hscene, hnone⟩
    · cases h

lemma swapLegs_error (h : swapLegs P gap n ret = .error e) : ∃ reason, e = .refusal reason := by
  unfold swapLegs at h
  split at h
  · cases h
  · rcases bind_eq_error.mp h with hmove | ⟨lift, -, h⟩
    · exact move_error hmove
    rcases bind_eq_error.mp h with hmove | ⟨cross, -, h⟩
    · exact move_error hmove
    rcases bind_eq_error.mp h with hmove | ⟨descent, -, h⟩
    · exact move_error hmove
    · cases h

/-- The scene's own formation fails with the text, or has too few points. -/
def Unbuildable (n : ℕ) (text : String) (s : Scene shapes) : Prop :=
  buildFormation shapes s.shapeType s.shapePayload n s.scale = .error (.plain text) ∨
    ∃ f, buildFormation shapes s.shapeType s.shapePayload n s.scale = .ok f ∧ f.length < n

lemma unbuildable_of_none {assigned : List ℕ}
    (h : scenePos n s assigned = .ok pos) (hnone : none ∈ pos) :
    Unbuildable n text s := by
  obtain ⟨f, hf, h⟩ := bind_eq_ok.mp h
  cases h
  obtain ⟨i, hi, hat⟩ := List.mem_map.mp hnone
  refine .inr ⟨f, hf, ?_⟩
  have hshort := (Option.or_eq_none_iff.mp hat).2
  exact (List.getElem?_eq_none_iff.mp hshort).trans_lt (List.mem_range.mp hi)

lemma planShow_plain [FloorRing K]
    (h : planShow scenes last n targetIdx pacing = .error (.plain text)) :
    ∃ s ∈ scenes, Unbuildable n text s := by
  rcases bind_eq_error.mp h with hpos | ⟨positions, hpos, h⟩
  · obtain ⟨s, hs, hone⟩ := mapM_eq_error hpos
    have hmem := (List.of_mem_zip hs).1
    rcases bind_eq_error.mp hone with hbuild | ⟨f, -, hone⟩
    · exact ⟨s.1, hmem, .inl hbuild⟩
    · cases hone
  rcases bind_eq_error.mp h with hlegs | ⟨⟨body, prev⟩, -, h⟩
  · obtain ⟨⟨s, pos⟩, hs, hnone⟩ := sceneLegs_plain hlegs
    obtain ⟨row, hrow⟩ := exists_of_zip (mapM_eq_ok.mp hpos) hs
    exact ⟨s, (List.of_mem_zip hs).1, unbuildable_of_none hrow hnone⟩
  rcases bind_eq_error.mp h with hback | ⟨back, -, h⟩
  · obtain ⟨reason, hreason⟩ := move_error hback
    cases hreason
  rcases bind_eq_error.mp h with hswap | ⟨swap, -, h⟩
  · obtain ⟨reason, hreason⟩ := swapLegs_error hswap
    cases hreason
  · cases h

end Plan

end Taramandal.Studio.Plans
