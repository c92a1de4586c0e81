import Taramandal.Studio.Samples

/-! # The altitudes of a show

A waypoint is between the ground and the ceiling if its position is, up to half a hundredth
(`Level`). Formations are lifted and compared with the ceiling, and so are the layers of a
morph; points taken as they are may lie below the ground, and the layers of the swap are
compared with nothing. -/
set_option linter.unusedSectionVars false

namespace Taramandal.Studio.Altitude

open Lib.Pairs Core.Numbers Studio.Layout Studio.Formations Studio.Morphs Studio.Sequencer
open Studio.Plans Studio.Samples

variable {K : Type} [Field K] [LinearOrder K] [IsStrictOrderedRing K]

/-- A coordinate that is rounded to one between the ceiling and the ground. -/
def Level (z : K) : Prop := -(maxAltitudeM + 5 / 1000) < z ∧ z < 5 / 1000

lemma round2_level [FloorRing K] (z : K) :
    (0 ≤ -round2 z ∧ -round2 z ≤ maxAltitudeM) ↔ Level z := by
  have hfloor : ∀ {x : K} {m : ℤ}, (⌊x⌋ : K) / 100 ≤ m / 100 ↔ x < m + 1 := by
    intro x m
    rw [div_le_div_iff_of_pos_right (by norm_num), Int.cast_le, ← Int.lt_add_one_iff, Int.floor_lt]
    push_cast
    rfl
  unfold Level maxAltitudeM round2
  split
  · next hneg =>
    have hpos : (0 : K) ≤ (⌊-z * 100 + 1 / 2⌋ : K) / 100 := by
      have hle : (0 : ℤ) ≤ ⌊-z * 100 + 1 / 2⌋ := Int.floor_nonneg.mpr (by linarith)
      exact div_nonneg (Int.cast_nonneg hle) (by norm_num)
    have hceil := @hfloor (-z * 100 + 1 / 2) 12000
    rw [neg_div, neg_neg]
    constructor
    · rintro ⟨-, hle⟩
      have hlt := hceil.mp (by push_cast; linarith)
      push_cast at hlt
      exact ⟨by linarith, by linarith⟩
    · rintro ⟨hlow, -⟩
      have hle := hceil.mpr (by push_cast; linarith)
      push_cast at hle
      exact ⟨hpos, by linarith⟩
  · next hneg =>
    have hz : 0 ≤ z := not_lt.mp hneg
    have hpos : (0 : K) ≤ (⌊z * 100 + 1 / 2⌋ : K) / 100 := by
      have hle : (0 : ℤ) ≤ ⌊z * 100 + 1 / 2⌋ := Int.floor_nonneg.mpr (by positivity)
      exact div_nonneg (Int.cast_nonneg hle) (by norm_num)
    have hground := @hfloor (z * 100 + 1 / 2) 0
    rw [Int.cast_zero, zero_div, zero_add] at hground
    constructor
    · rintro ⟨hle, -⟩
      have hlt := hground.mp (by linarith)
      exact ⟨by linarith, by linarith⟩
    · rintro ⟨-, hlt⟩
      have hle := hground.mpr (by linarith)
      exact ⟨by linarith, by linarith⟩

lemma level_between {a b w : K} (ha : Level a) (hb : Level b) (hw : w ∈ Set.Icc (0 : K) 1) :
    Level (a + (b - a) * w) := by
  obtain ⟨hw0, hw1⟩ := hw
  obtain ⟨ha1, ha2⟩ := ha
  obtain ⟨hb1, hb2⟩ := hb
  have heq : a + (b - a) * w = (1 - w) * a + w * b := by ring
  have hw1' : 0 ≤ 1 - w := sub_nonneg.mpr hw1
  rw [heq]
  constructor
  · nlinarith [mul_le_mul_of_nonneg_left ha1.le hw1', mul_le_mul_of_nonneg_left hb1.le hw0]
  · nlinarith [mul_le_mul_of_nonneg_left ha2.le hw1', mul_le_mul_of_nonneg_left hb2.le hw0]

section

variable [Sqrt K] {shapes : Shapes K}

lemma place_lifted (pts : List (Point K)) (n : ℕ) : ∀ p ∈ place pts n, p.z ≤ -minFormationAlt := by
  intro p hp
  obtain ⟨q, hq, rfl⟩ := List.mem_map.mp hp
  have hlow : least ((toSpacingFloor pts).map fun p => -p.z) ≤ -q.z :=
    getD_min?_le (List.mem_map_of_mem hq) 0
  dsimp only
  unfold liftFor
  split
  · linarith
  · next hhigh =>
    have := not_lt.mp hhigh
    linarith

lemma fitToSite_z {pts out : List (Point K)} (h : fitToSite pts = .ok out) :
    out.map Point.z = pts.map Point.z := by
  have hshift : (shiftedToSite pts).map Point.z = pts.map Point.z := by
    unfold shiftedToSite
    dsimp only
    split
    · exact List.map_map
    · rfl
  unfold fitToSite at h
  dsimp only at h
  split at h
  · split at h
    · split at h
      · cases h
      · cases h
        exact List.map_map.trans hshift
    · cases h
      exact hshift
  · cases h
    rfl

lemma checkFormation_ok {pts out : List (Point K)} (h : checkFormation pts = .ok out) :
    out = pts ∧ ∀ p ∈ pts, -p.z ≤ maxAltitudeM + tolerance := by
  unfold checkFormation at h
  split at h
  · cases h
  · next hceiling =>
    split at h
    · cases h
    · cases h
      exact ⟨rfl, fun p hp =>
        (le_getD_max? (List.mem_map_of_mem hp) 0).trans (not_lt.mp hceiling)⟩

lemma rawFormation_exactPoints {payload : shapes.Payload} {n : ℕ} {scale : Option K}
    {raw : List (Point K)} (h : rawFormation shapes .exactPoints payload n scale = .ok raw) :
    shapes.exactPoints payload = .ok raw ∧ raw.length = n := by
  unfold rawFormation shapePoints at h
  dsimp only at h
  cases hpts : shapes.exactPoints payload with
  | error text =>
    rw [hpts] at h
    cases h
  | ok pts =>
    rw [hpts] at h
    dsimp only at h
    by_cases hlength : pts.length = n
    · rw [if_neg (not_not.mpr hlength)] at h
      dsimp only at h
      split at h
      · cases h
      · cases h
        exact ⟨rfl, hlength⟩
    · rw [if_pos hlength] at h
      cases h

/-- The altitudes of a formation that is built. -/
structure Built (shapes : Shapes K) (shapeType : ShapeType) (payload : shapes.Payload) (n : ℕ)
    (f : List (Point K)) : Prop where
  ceiling : ∀ p ∈ f, -p.z ≤ maxAltitudeM + tolerance
  lifted : shapeType ≠ .exactPoints → ∀ p ∈ f, p.z ≤ -minFormationAlt
  exactly : shapeType = .exactPoints → shapes.exactPoints payload = .ok f ∧ f.length = n

lemma buildFormation_ok {shapeType : ShapeType} {payload : shapes.Payload} {n : ℕ}
    {scale : Option K} {f : List (Point K)} (hn : 1 ≤ n)
    (h : buildFormation shapes shapeType payload n scale = .ok f) :
    Built shapes shapeType payload n f := by
  unfold buildFormation at h
  rw [if_neg (by omega)] at h
  split at h
  · cases h
  · next raw hraw =>
    dsimp only at h
    split at h
    · cases h
    · next hreach =>
      split at h
      · cases h
      · next current hfit =>
        obtain ⟨rfl, hceiling⟩ := checkFormation_ok h
        refine ⟨hceiling, fun hshape p hp => ?_, fun hshape => ?_⟩
        · have hz := fitToSite_z hfit
          obtain ⟨q, hq, hqz⟩ := List.mem_map.mp (hz ▸ List.mem_map_of_mem hp)
          rw [placedFormation, if_neg hshape] at hq
          exact hqz ▸ place_lifted raw n q hq
        · subst hshape
          rw [placedFormation, if_pos rfl] at hfit hreach
          have hin : ¬ siteRadiusM + tolerance < maxReach raw := fun hout => hreach ⟨rfl, hout⟩
          unfold fitToSite at hfit
          rw [if_neg hin] at hfit
          obtain rfl := Except.ok.inj hfit
          exact rawFormation_exactPoints hraw

end

/-! ## Legs -/

def LevelAll (pts : List (Point K)) : Prop := ∀ p ∈ pts, Level p.z

def LevelLeg (leg : Leg K) : Prop := LevelAll leg.start ∧ LevelAll leg.goal

lemma exists_of_mem_zipWith {α β : Type} {f : α → β → Point K} {as : List α} {bs : List β}
    {p : Point K} (hp : p ∈ as.zipWith f bs) : ∃ a ∈ as, ∃ b ∈ bs, p = f a b := by
  obtain ⟨i, hi⟩ := List.mem_iff_getElem?.mp hp
  obtain ⟨a, b, ha, hb, hab⟩ := List.getElem?_zipWith_eq_some.mp hi
  exact ⟨a, List.mem_of_getElem? ha, b, List.mem_of_getElem? hb, hab.symm⟩

/-- The layers of a morph are below the ceiling, and above all that it starts or ends at. -/
lemma level_lifted {start goal pts : List (Point K)} {layer : List ℤ} (hlow : ∀ l ∈ layer, -1 ≤ l)
    (hceiling : -maxAltitudeM ≤ highest start goal - ((layer.max?.getD 0 : ℤ) + 1) * layerClearance)
    (hpts : ∀ p ∈ pts, p ∈ start ∨ p ∈ goal) (hlevel : LevelAll pts) :
    LevelAll (lifted (highest start goal) layer pts) := by
  intro p hp
  obtain ⟨q, hq, l, hl, rfl⟩ := exists_of_mem_zipWith hp
  have htop : highest start goal ≤ q.z := by
    refine getD_min?_le (List.mem_append.mpr ?_) 0
    rcases hpts q hq with hstart | hgoal
    · exact .inl (List.mem_map_of_mem hstart)
    · exact .inr (List.mem_map_of_mem hgoal)
  have hclearance : (0 : K) ≤ layerClearance := by
    unfold layerClearance designSeparation
    norm_num
  have hmax : (l : K) ≤ (layer.max?.getD 0 : ℤ) := Int.cast_le.mpr (le_getD_max? hl 0)
  have hmin : (-1 : K) ≤ l := by exact_mod_cast hlow l hl
  have hover : ((l : K) + 1) * layerClearance ≤ ((layer.max?.getD 0 : ℤ) + 1) * layerClearance :=
    mul_le_mul_of_nonneg_right (by linarith) hclearance
  have hup : 0 ≤ ((l : K) + 1) * layerClearance := mul_nonneg (by linarith) hclearance
  have hq := hlevel q hq
  exact ⟨by linarith, by linarith [hq.2]⟩

section Plan

variable [Sqrt K] [Cbrt K]

variable {legs : List (Leg K)} {n : ℕ}

lemma level_of_moved {P : Option (Pacing K)} {start goal : List (Point K)}
    (h : Moved P start goal legs) (hstart : LevelAll start) (hgoal : LevelAll goal) :
    ∀ leg ∈ legs, LevelLeg leg := by
  cases h with
  | straight requested h =>
    intro leg hleg
    obtain rfl := List.mem_singleton.mp hleg
    exact ⟨hstart, hgoal⟩
  | layered requested layer hlayer hceiling hlift htransit hdescent =>
    have hup := level_lifted hlayer.low hceiling (fun p hp => .inl hp) hstart
    have hup' := level_lifted hlayer.low hceiling (fun p hp => .inr hp) hgoal
    intro leg hleg
    simp only [List.mem_cons, List.not_mem_nil, or_false] at hleg
    rcases hleg with rfl | rfl | rfl
    · exact ⟨hstart, hup⟩
    · exact ⟨hup, hup'⟩
    · exact ⟨hup', hgoal⟩

lemma level_ground (n : ℕ) : LevelAll (ground n : List (Point K)) := by
  intro p hp
  obtain ⟨i, -, rfl⟩ := List.mem_map.mp hp
  unfold Level padAt maxAltitudeM
  norm_num

lemma level_hoverAt (i : ℕ) : Level (hoverAt i : Point K).z := by
  have hlevel : ((hoverLevel i : ℕ) : K) ≤ 3 := by exact_mod_cast hoverLevel_le i
  have hnonneg : (0 : K) ≤ (hoverLevel i : ℕ) := Nat.cast_nonneg _
  change Level (-(showAlt + hoverStep * (hoverLevel i : K)))
  unfold Level maxAltitudeM showAlt hoverStep
  constructor
  · linarith
  · linarith

lemma level_hover (is : List ℕ) : LevelAll (is.map (hoverAt : ℕ → Point K)) := by
  intro p hp
  obtain ⟨i, -, rfl⟩ := List.mem_map.mp hp
  exact level_hoverAt i

lemma two_le_gapOf (transitLayerGapMeters : Option K) : 2 ≤ gapOf transitLayerGapMeters :=
  le_max_left _ _

lemma level_atLayers {gap : K} {ret : List ℕ} {pts : List (Point K)} (hgap : 2 ≤ gap)
    (h : ∀ l ∈ swapLayers K n ret, showAlt + gap * l < maxAltitudeM + 5 / 1000) :
    LevelAll (atLayers gap (swapLayers K n ret) pts) := by
  intro p hp
  obtain ⟨q, -, l, hl, rfl⟩ := exists_of_mem_zipWith hp
  have hnonneg : (0 : K) ≤ l := by exact_mod_cast returnLayers_nonneg _ _ l hl
  have hup : 0 ≤ gap * l := mul_nonneg (by linarith) hnonneg
  have hceiling := h l hl
  change Level (-(showAlt + gap * l))
  refine ⟨by linarith, ?_⟩
  unfold showAlt
  linarith

lemma level_atLayers_iff {gap : K} {ret : List ℕ} {pts : List (Point K)} (hgap : 2 ≤ gap)
    (hlength : (swapLayers K n ret).length = pts.length) :
    LevelAll (atLayers gap (swapLayers K n ret) pts) ↔
      ∀ l ∈ swapLayers K n ret, showAlt + gap * l < maxAltitudeM + 5 / 1000 := by
  refine ⟨fun h l hl => ?_, level_atLayers hgap⟩
  obtain ⟨i, hi⟩ := List.mem_iff_getElem?.mp hl
  obtain ⟨q, hq⟩ : ∃ q, pts[i]? = some q :=
    ⟨_, List.getElem?_eq_getElem (hlength ▸ (List.getElem?_eq_some_iff.mp hi).1)⟩
  have hmem : { q with z := -(showAlt + gap * l) } ∈ atLayers gap (swapLayers K n ret) pts := by
    refine List.mem_iff_getElem?.mpr ⟨i, ?_⟩
    rw [atLayers, List.getElem?_zipWith, hq, hi]
  have hlevel := (h _ hmem).1
  dsimp only at hlevel
  linarith

variable [FloorRing K] {shapes : Shapes K}

/-- The positions of a scene are sampled: by a leg that has a duration, or in its hold. -/
def Sampled (rate : K) (pacing : String) (s : Scene shapes) : Prop :=
  (pacingOf pacing : Option (Pacing K)) ≠ none ∨
    1 ≤ (jsRound (nonNeg s.holdDurationSeconds * max 1 rate)).toNat

/-- No points taken as they are lie below the ground, and the swap, where it is flown, stays
below the ceiling. -/
structure KeepsAltitude (scenes : List (Scene shapes)) (n : ℕ) (rate : K) (targetIdx : Js K)
    (pacing : String) : Prop where
  points : 1 ≤ n → ∀ s ∈ scenes, s.shapeType = .exactPoints → Sampled rate pacing s →
    ∀ pts, shapes.exactPoints s.shapePayload = .ok pts → ∀ p ∈ pts, p.z < 5 / 1000
  swap : 1 ≤ n → (pacingOf pacing : Option (Pacing K)) ≠ none →
    ∀ last, scenes.getLast? = some last →
    (normalizeAssignment targetIdx scenes.length n).ret ≠ List.range n →
    ∀ l ∈ swapLayers K n (normalizeAssignment targetIdx scenes.length n).ret,
      showAlt + gapOf last.transitLayerGapMeters * l < maxAltitudeM + 5 / 1000

lemma Stands.mem {s : Scene shapes} {stop : Stop K} (h : Stands n s stop) (hn : 1 ≤ n) :
    ∃ f, Built shapes s.shapeType s.shapePayload n f ∧ (∀ p ∈ stop.pts, p ∈ f) ∧
      (f.length = n → ∀ p ∈ f, p ∈ stop.pts) := by
  obtain ⟨f, assigned, hbuild, hperm, hat⟩ := h.formation
  refine ⟨f, buildFormation_ok hn hbuild, fun p hp => ?_, fun hlength p hp => ?_⟩
  · obtain ⟨i, hi⟩ := List.mem_iff_getElem?.mp hp
    have hlt := h.length ▸ (List.getElem?_eq_some_iff.mp hi).1
    rw [hat i hlt, Option.or_eq_some_iff] at hi
    rcases hi with hi | ⟨-, hi⟩
    · obtain ⟨k, -, hk⟩ := Option.bind_eq_some_iff.mp hi
      exact List.mem_of_getElem? hk
    · exact List.mem_of_getElem? hi
  · obtain ⟨k, hk⟩ := List.mem_iff_getElem?.mp hp
    have hlt : k < n := hlength ▸ (List.getElem?_eq_some_iff.mp hk).1
    obtain ⟨i, hi⟩ := List.mem_iff_getElem?.mp (hperm.mem_iff.mpr (List.mem_range.mpr hlt))
    have hin : i < n := by
      have hlt := (List.getElem?_eq_some_iff.mp hi).1
      rwa [hperm.length_eq, List.length_range] at hlt
    refine List.mem_iff_getElem?.mpr ⟨i, ?_⟩
    rw [hat i hin, hi, Option.bind_some, hk]
    rfl

lemma level_stop_iff {s : Scene shapes} {stop : Stop K} (h : Stands n s stop)
    (hn : 1 ≤ n) : LevelAll stop.pts ↔ (s.shapeType = .exactPoints →
      ∀ pts, shapes.exactPoints s.shapePayload = .ok pts → ∀ p ∈ pts, p.z < 5 / 1000) := by
  obtain ⟨f, hbuilt, hsub, hall⟩ := Stands.mem h hn
  constructor
  · intro hlevel hshape pts hpts p hp
    obtain ⟨hf, hlength⟩ := hbuilt.exactly hshape
    obtain rfl := Except.ok.inj (hpts.symm.trans hf)
    exact (hlevel p (hall hlength p hp)).2
  · intro hpoints p hp
    have hceiling := hbuilt.ceiling p (hsub p hp)
    refine ⟨?_, ?_⟩
    · unfold tolerance at hceiling
      linarith
    · by_cases hshape : s.shapeType = .exactPoints
      · exact hpoints hshape f (hbuilt.exactly hshape).1 p (hsub p hp)
      · have hlifted := hbuilt.lifted hshape p (hsub p hp)
        unfold minFormationAlt at hlifted
        linarith

lemma legSteps_none {leg : Leg K} (h : leg.secs = none) (r : K) : legSteps leg r = 0 := by
  rw [legSteps, h]

lemma level_legs {scenes : List (Scene shapes)} {last : Scene shapes} {rate : K}
    {targetIdx : Js K} {pacing : String} (hn : 1 ≤ n)
    (hlast : scenes.getLast? = some last)
    (h : Planned (pacingOf pacing) scenes (gapOf last.transitLayerGapMeters) n
      (normalizeAssignment targetIdx scenes.length n).ret legs)
    (hkeeps : KeepsAltitude scenes n rate targetIdx pacing) :
    ∀ leg ∈ legs, 1 ≤ legSteps leg (max 1 rate) → LevelLeg leg := by
  have hmoved : ∀ {a b : List (Point K)} {legs : List (Leg K)}, Moved (pacingOf pacing) a b legs →
      ((pacingOf pacing : Option (Pacing K)) ≠ none → LevelAll a) →
      ((pacingOf pacing : Option (Pacing K)) ≠ none → LevelAll b) →
      ∀ leg ∈ legs, 1 ≤ legSteps leg (max 1 rate) → LevelLeg leg := by
    intro a b legs hmoved ha hb leg hleg hsteps
    by_cases hpaced : (pacingOf pacing : Option (Pacing K)) = none
    · obtain ⟨requested, hleg'⟩ := hmoved.kind leg hleg
      have hsecs : leg.secs = none := by
        rw [hleg', hpaced]
        rfl
      rw [legSteps_none hsecs] at hsteps
      omega
    · exact level_of_moved hmoved (ha hpaced) (hb hpaced) leg hleg
  refine h.forall_legs (S := fun pts => (pacingOf pacing : Option (Pacing K)) ≠ none → LevelAll pts)
    hmoved ?_ (fun _ => level_hover _) (fun _ => level_hover _) ?_ ?_ ?_
  · intro s hs stop hstand
    refine ⟨fun hpaced => ?_, fun _ _ hsteps => ?_⟩
    · exact (level_stop_iff hstand hn).mpr fun hshape =>
        hkeeps.points hn s hs hshape (.inl hpaced)
    · have hsampled : Sampled rate pacing s := by
        refine .inr ?_
        rw [← hstand.secs]
        exact hsteps
      have hlevel : LevelAll stop.pts := (level_stop_iff hstand hn).mpr fun hshape =>
        hkeeps.points hn s hs hshape hsampled
      exact ⟨hlevel, hlevel⟩
  · intro hret
    constructor
    · exact fun hpaced => level_atLayers (two_le_gapOf _) (hkeeps.swap hn hpaced last hlast hret)
    · exact fun hpaced => level_atLayers (two_le_gapOf _) (hkeeps.swap hn hpaced last hlast hret)
  · exact fun _ => ⟨level_ground n, level_hover _⟩
  · exact fun _ => ⟨level_hover _, level_ground n⟩

/-! ## Samples -/

lemma level_legFrames {P : Option (Pacing K)} {r : K} {leg : Leg K}
    (h : 1 ≤ legSteps leg r → LevelLeg leg) : ∀ f ∈ legFrames P r leg, LevelAll f := by
  intro f hf p hp
  obtain ⟨k, hk, rfl⟩ := List.mem_map.mp hf
  have hlt : k < legSteps leg r := List.mem_range.mp hk
  obtain ⟨hstart, hgoal⟩ := h (Nat.one_le_of_lt hlt)
  obtain ⟨a, ha, b, hb, rfl⟩ := exists_of_mem_zipWith hp
  have hpos : (0 : K) < legSteps leg r := by exact_mod_cast Nat.zero_lt_of_lt hlt
  refine level_between (hstart a ha) (hgoal b hb) (ease_mem P ⟨by positivity, ?_⟩)
  rw [div_le_one hpos]
  exact_mod_cast hlt.le

lemma level_frames_iff {scenes : List (Scene shapes)} {last : Scene shapes} {rate : K}
    {targetIdx : Js K} {pacing : String} (hn : 1 ≤ n)
    (hlast : scenes.getLast? = some last)
    (h : Planned (pacingOf pacing) scenes (gapOf last.transitLayerGapMeters) n
      (normalizeAssignment targetIdx scenes.length n).ret legs) :
    (∀ f ∈ frames (pacingOf pacing) (max 1 rate) legs n, LevelAll f) ↔
      KeepsAltitude scenes n rate targetIdx pacing := by
  obtain ⟨-, hperm⟩ := normalizeAssignment_perm targetIdx scenes.length n
  constructor
  · intro hframes
    have hpaced : (pacingOf pacing : Option (Pacing K)) ≠ none → ∀ leg ∈ legs,
        LevelAll leg.start := by
      intro hne leg hleg
      obtain ⟨P, hP⟩ := Option.ne_none_iff_exists'.mp hne
      rw [hP] at h hframes
      exact hframes _ (start_mem_frames h.linked (Planned.paced h hperm _) hleg)
    constructor
    · intro _ s hs hshape hsampled
      obtain ⟨stop, hstand, hhold⟩ := h.exists_hold hs
      refine (level_stop_iff hstand hn).mp ?_ hshape
      rcases hsampled with hne | hsteps
      · exact hpaced hne _ hhold
      · rw [← hstand.secs] at hsteps
        have hmem : stop.hold.start ∈ legFrames (pacingOf pacing) (max 1 rate) stop.hold :=
          start_mem_legFrames rfl hsteps
        exact hframes _ (List.mem_append_left _ (List.mem_flatMap.mpr ⟨_, hhold, hmem⟩))
    · intro _ hne last' hlast' hret
      obtain rfl := Option.some.inj (hlast.symm.trans hlast')
      obtain ⟨leg, hleg, hstart⟩ := h.exists_cross hret
      have hlevel := hpaced hne leg hleg
      rw [hstart] at hlevel
      refine (level_atLayers_iff (two_le_gapOf _) ?_).mp hlevel
      rw [length_swapLayers, List.length_map]
  · intro hkeeps f hf
    rcases List.mem_append.mp hf with hf | hf
    · obtain ⟨leg, hleg, hf⟩ := List.mem_flatMap.mp hf
      exact level_legFrames (level_legs hn hlast h hkeeps leg hleg) f hf
    · obtain rfl := List.mem_singleton.mp hf
      exact level_ground n

lemma forall_column_iff (good : K → Prop) {r : K} {all : List (List (Point K))}
    (hlength : ∀ f ∈ all, f.length = n) :
    (∀ ws ∈ (List.range n).map (column r all), ∀ w ∈ ws, good w.z) ↔
      ∀ f ∈ all, ∀ p ∈ f, good (round2 p.z) := by
  constructor
  · intro h f hf p hp
    obtain ⟨k, hk⟩ := List.mem_iff_getElem?.mp hf
    obtain ⟨i, hi⟩ := List.mem_iff_getElem?.mp hp
    have hlt : i < n := hlength f hf ▸ (List.getElem?_eq_some_iff.mp hi).1
    refine h _ (List.mem_map_of_mem (List.mem_range.mpr hlt)) (waypoint (k * (1 / r)) p) ?_
    refine List.mem_iff_getElem?.mpr ⟨k, ?_⟩
    rw [getElem?_column, hk, Option.map_some, List.getD_eq_getElem?_getD, hi]
    rfl
  · intro h ws hws w hw
    obtain ⟨i, hi, rfl⟩ := List.mem_map.mp hws
    obtain ⟨k, hk⟩ := List.mem_iff_getElem?.mp hw
    rw [getElem?_column] at hk
    obtain ⟨f, hf, rfl⟩ := Option.map_eq_some_iff.mp hk
    have hmem := List.mem_of_getElem? hf
    have hlt : i < f.length := (hlength f hmem).symm ▸ List.mem_range.mp hi
    have hp : f.getD i { x := 0, y := 0, z := 0 } ∈ f := by
      rw [List.getD_eq_getElem?_getD, List.getElem?_eq_getElem hlt]
      exact List.getElem_mem hlt
    exact h f hmem _ hp

/-- A show that is built keeps between the ground and the ceiling exactly when no sampled points
taken as they are lie below the ground, and the layers of the swap are below the ceiling. -/
theorem altitudes_iff {scenes : List (Scene shapes)} {n : ℕ} {rate : K} {targetIdx : Js K}
    {pacing : String} {s : Show K}
    (h : buildSequencedShow scenes n rate targetIdx pacing = .ok s) :
    (∀ ws ∈ s.drones, ∀ w ∈ ws, 0 ≤ -w.z ∧ -w.z ≤ maxAltitudeM) ↔
      KeepsAltitude scenes n rate targetIdx pacing := by
  obtain ⟨hempty, hnone⟩ | ⟨last, legs, assignment, hlast, hn, hplan, hdrones⟩ :=
    buildSequencedShow_ok h
  · have hkeeps : KeepsAltitude scenes n rate targetIdx pacing := by
      rcases hempty with rfl | hn
      · exact ⟨fun _ s hs => absurd hs List.not_mem_nil, fun _ _ last hlast => nomatch hlast⟩
      · exact ⟨fun hn' => absurd hn' (by omega), fun hn' => absurd hn' (by omega)⟩
    rw [hnone]
    exact ⟨fun _ => hkeeps, fun _ ws hws => absurd hws List.not_mem_nil⟩
  · obtain ⟨rfl, hplanned⟩ := planShow_ok hplan
    obtain ⟨-, hret⟩ := normalizeAssignment_perm targetIdx scenes.length n
    have hlength : ∀ f ∈ frames (pacingOf pacing) (max 1 rate) legs n, f.length = n :=
      length_of_mem_frames (hplanned.lengths hret)
    rw [hdrones, ← level_frames_iff hn hlast hplanned]
    refine (forall_column_iff (fun z => 0 ≤ -z ∧ -z ≤ maxAltitudeM) hlength).trans ?_
    exact ⟨fun h f hf p hp => (round2_level _).mp (h f hf p hp),
      fun h f hf p hp => (round2_level _).mpr (h f hf p hp)⟩

end Plan

theorem altitudes_iff_above : ∃ s, buildSequencedShow [exactScene (above (-8))] 1 10 .other
      "standard" = .ok s ∧
    ((∀ ws ∈ s.drones, ∀ w ∈ ws, 0 ≤ -w.z ∧ -w.z ≤ maxAltitudeM) ↔
      KeepsAltitude [exactScene (above (-8))] 1 10 .other "standard") := by
  obtain ⟨s, hs, -⟩ := buildSequencedShow_of_plan 10 rfl le_rfl
    (plan_above (by norm_num : -(-8) ≤ (120 : ℝ)))
  exact ⟨s, hs, altitudes_iff hs⟩

/-- A metre below the ground. -/
theorem altitude_breaks : ∃ s,
    buildSequencedShow [exactScene (above 1)] 1 10 .other "standard" = .ok s ∧
      ¬ ∀ ws ∈ s.drones, ∀ w ∈ ws, 0 ≤ -w.z ∧ -w.z ≤ maxAltitudeM := by
  have hplan := plan_above (by norm_num : -1 ≤ (120 : ℝ))
  obtain ⟨s, hs, hdrones, -⟩ := buildSequencedShow_of_plan 10 rfl le_rfl hplan
  refine ⟨s, hs, fun hall => ?_⟩
  obtain ⟨-, hplanned⟩ := planShow_ok hplan
  obtain ⟨-, hret⟩ := normalizeAssignment_perm (Js.other : Js ℝ) 1 1
  rw [hdrones, forall_column_iff (fun z => 0 ≤ -z ∧ -z ≤ maxAltitudeM)
    (length_of_mem_frames (hplanned.lengths hret)), pacing_standard] at hall
  rw [pacing_standard] at hplanned
  have hmem : above 1 ∈ frames (some standard) (max 1 10) (legsAbove 1) 1 :=
    start_mem_frames hplanned.linked (Planned.paced hplanned hret _)
      (List.mem_cons_of_mem _ (List.mem_cons_of_mem _ List.mem_cons_self))
  have hground := (hall _ hmem _ List.mem_cons_self).1
  norm_num [round2] at hground

end Taramandal.Studio.Altitude
