import Taramandal.Core.Schema
import Taramandal.Studio.Samples

/-! # Split formations (`buildSplitFormation`)

A figure with support groups around it. A ring that is wide enough stays about the figure; any
other group is moved outwards, by a distance that a bisection makes smaller as long as the
groups stay apart. No point that is placed already is farther out than the envelope, so at the
distance that the bisection starts from they are apart. -/
namespace Taramandal.Studio.SplitFormations

open Lib.Check Lib.Pairs Core.Numbers Core.ScriptNumbers Studio.Layout Studio.Formations
open Studio.Samples (asGiven above)

variable {K : Type} [Field K] [LinearOrder K]

/-- `Number.isInteger(v)` and `v >= 1`. -/
def countOf [FloorRing K] (v : K) : Option ℕ :=
  if v = ⌊v⌋ ∧ 1 ≤ ⌊v⌋ then some ⌊v⌋.toNat else none

def exportRoundingMarginM : K := 5 / 100

def groupClearance : K := minSeparationM + exportRoundingMarginM

section

def centred (pts : List (Point K)) : List (Point K) :=
  pts.map fun p => { p with x := p.x - (bboxCentre pts).1, y := p.y - (bboxCentre pts).2 }

def movedBy (dx dy : K) (pts : List (Point K)) : List (Point K) :=
  pts.map fun p => { p with x := p.x + dx, y := p.y + dy }

variable [Sqrt K]

def horizontalReach (pts : List (Point K)) : K :=
  greatest (pts.map fun p => hypot2 (p.x - (bboxCentre pts).1) (p.y - (bboxCentre pts).2))

/-- The least distance between two groups; no distance at all counts as infinite. -/
def minDistBetween (pts others : List (Point K)) : Option K :=
  (pts.flatMap fun p => others.map fun q => distance p q).min?

/-- `minDistAtRadius(r) >= MIN_SEPARATION_M + EXPORT_ROUNDING_MARGIN_M`. -/
def clears (cos sin : K) (pts placed : List (Point K)) (r : K) : Bool :=
  !below (minDistBetween (movedBy (r * cos) (r * sin) pts) placed) groupClearance

/-- The smaller half is tried, as often as there is fuel and the bounds are apart. -/
def bisect (clear : K → Bool) : ℕ → K → K → K
  | 0, _, hi => hi
  | fuel + 1, lo, hi =>
    if 1 / 10 ^ 3 < hi - lo then
      if clear ((lo + hi) / 2) then bisect clear fuel lo ((lo + hi) / 2)
      else bisect clear fuel ((lo + hi) / 2) hi
    else hi

def outward (cos sin envelopeReach : K) (pts placed : List (Point K)) : K :=
  bisect (clears cos sin pts placed) 40 0
    (envelopeReach + horizontalReach pts + minSeparationM + exportRoundingMarginM)

variable [Trig K]

/-- A support group, of the ones around the figure the one at `idx`. -/
def placeSupport (circle : Bool) (idx supports : ℕ) (envelopeReach : K)
    (pts placed : List (Point K)) : List (Point K) :=
  let ringClearance := least (pts.map fun p => hypot2 p.x p.y) - envelopeReach
  if circle = true ∧ groupClearance ≤ ringClearance then pts
  else
    let angle : K := 2 * Trig.pi * idx / supports
    let r := outward (Trig.cos angle) (Trig.sin angle) envelopeReach pts placed
    movedBy (r * Trig.cos angle) (r * Trig.sin angle) pts

end

/-! ## All parts -/

structure SplitPart (shapes : Shapes K) where
  shapeType : ShapeType
  payload : shapes.Payload
  /-- The payload as a text. -/
  payloadText : String
  /-- The part is the `parametric` shape `circle`. -/
  circle : Bool
  scale : Option K
  count : K

section

variable [Sqrt K] [Trig K] [FloorRing K] {shapes : Shapes K}

def partPoints (role : String) (part : SplitPart shapes) (count : ℕ) :
    Except (ShowError K) (List (Point K)) := do
  let raw ← rawFormation shapes part.shapeType part.payload count part.scale
  if raw.length ≠ count then
    .error (.plain (role ++ " \"" ++ part.payloadText ++ "\" returned " ++ toString raw.length ++
      " points, not the requested " ++ toString count))
  else .ok raw

/-- The support groups one after the other, the figure and those before them in place. -/
def placeSupports (supports : ℕ) : ℕ → List (SplitPart shapes × ℕ) → K → List (List (Point K)) →
    Except (ShowError K) (List (List (Point K)))
  | _, [], _, groups => .ok groups
  | idx, (part, count) :: rest, envelopeReach, groups => do
    let raw ← partPoints "Support" part count
    let group := placeSupport part.circle idx supports envelopeReach (centred raw) groups.flatten
    placeSupports supports (idx + 1) rest
      ((group.map fun p => hypot2 p.x p.y).foldl max envelopeReach) (groups ++ [group])

def partCounts : List (SplitPart shapes) → Except (ShowError K) (List (SplitPart shapes × ℕ))
  | [] => .ok []
  | part :: rest =>
    match countOf part.count with
    | none => .error (.plain ("Every split-formation part needs an integer count >= 1 (got " ++
        numberText part.count ++ ")"))
    | some count => (partCounts rest).map ((part, count) :: ·)

def recentred (combined : List (Point K)) : List (Point K) :=
  let c := bboxCentre combined
  let dz := liftFor (least (combined.map fun p => -p.z))
  combined.map fun p => { x := p.x - c.1, y := p.y - c.2, z := p.z - dz }

def checkSplit (supports totalN : ℕ) (current : List (Point K)) :
    Except (ShowError K) (List (Point K)) :=
  if siteRadiusM + tolerance < maxReach current then
    .error (.refusal (.shape ("Split formation (figure + " ++ toString supports ++
      " support group(s), " ++ toString totalN ++ " drones) cannot fit within the site radius (" ++
      numberText (siteRadiusM : K) ++ "m) even centred; refused rather than scaled down, which " ++
      "would undo the clearance already built between groups.")))
  else if maxAltitudeM + tolerance < greatest (current.map fun p => -p.z) then
    .error (.refusal (.shape ("Split formation (" ++ toString totalN ++
      " drones) exceeds the maximum altitude ceiling: " ++
      toFixed 1 (greatest (current.map fun p => -p.z)) ++ "m > " ++
      numberText (maxAltitudeM : K) ++ "m")))
  else if below (minPairDist current) (minSeparationM - tolerance) then
    .error (.refusal (.shape ("Split formation (" ++ toString totalN ++
      " drones) violates minimum spacing: " ++ toFixed 2 ((minPairDist current).getD 0) ++
      "m < " ++ numberText (minSeparationM : K) ++ "m")))
  else .ok current

def buildSplitFormation (parts : List (SplitPart shapes)) : Except (ShowError K) (List (Point K)) :=
  if parts.length < 2 then
    .error (.plain "buildSplitFormation needs a figure and at least one support group")
  else do
    match ← partCounts parts with
    | [] => .ok []
    | (figure, count) :: supports =>
      let raw ← partPoints "Figure" figure count
      let groups ← placeSupports supports.length 0 supports (horizontalReach (centred raw))
        [centred raw]
      checkSplit supports.length (count + (supports.map Prod.snd).sum) (recentred groups.flatten)

end

variable {v : K}

lemma eq_of_countOf [FloorRing K] {n : ℕ} (h : countOf v = some n) : v = n ∧ 1 ≤ n := by
  unfold countOf at h
  split_ifs at h with hv
  obtain ⟨hwhole, hone⟩ := hv
  have hn : (n : ℤ) = ⌊v⌋ := by
    have := Option.some.inj h
    omega
  refine ⟨?_, by omega⟩
  rw [← Int.cast_natCast, hn]
  exact hwhole

variable {lo hi : K} {vs : List K}

lemma clear_bisect {clear : K → Bool} (fuel : ℕ) (h : clear hi = true) :
    clear (bisect clear fuel lo hi) = true := by
  induction fuel generalizing lo hi with
  | zero => exact h
  | succ fuel ih =>
    unfold bisect
    split_ifs with hwide hmid
    · exact ih hmid
    · exact ih h
    · exact h

lemma bisect_mem [IsStrictOrderedRing K] {clear : K → Bool} (fuel : ℕ)
    (h : lo ≤ hi) : bisect clear fuel lo hi ∈ Set.Icc lo hi := by
  induction fuel generalizing lo hi with
  | zero => exact ⟨h, le_rfl⟩
  | succ fuel ih =>
    have hlo : lo ≤ (lo + hi) / 2 := by linarith
    have hhi : (lo + hi) / 2 ≤ hi := by linarith
    unfold bisect
    split_ifs with hwide hmid
    · exact Set.Icc_subset_Icc_right hhi (ih hlo)
    · exact Set.Icc_subset_Icc_left hlo (ih hhi)
    · exact ⟨h, le_rfl⟩

section

variable [Sqrt K]

lemma clears_iff {cos sin r : K} {pts placed : List (Point K)} :
    clears cos sin pts placed r = true ↔ ∀ p ∈ movedBy (r * cos) (r * sin) pts, ∀ q ∈ placed,
      groupClearance ≤ distance p q := by
  unfold clears minDistBetween
  rw [Bool.not_eq_true']
  constructor
  · intro h p hp q hq
    refine le_of_exceeds (exceeds_of_not_below h) (List.mem_flatMap.mpr ⟨p, hp, ?_⟩)
    exact List.mem_map_of_mem hq
  · intro h
    refine not_below_of_exceeds (exceeds_of_le fun v hv => ?_)
    obtain ⟨p, hp, hv⟩ := List.mem_flatMap.mp hv
    obtain ⟨q, hq, rfl⟩ := List.mem_map.mp hv
    exact h p hp q hq

end

noncomputable instance : Trig ℝ := ⟨Real.pi, Real.cos, Real.sin, Real.arccos⟩

lemma hypot2_eq (x y : ℝ) : hypot2 x y = ‖(x + y * Complex.I : ℂ)‖ := by
  rw [Complex.norm_add_mul_I, sq, sq]
  rfl

lemma sub_le_distance (p q : Point ℝ) : hypot2 p.x p.y - hypot2 q.x q.y ≤ distance p q := by
  have hplane : hypot2 (p.x - q.x) (p.y - q.y) ≤ distance p q :=
    Real.sqrt_le_sqrt (le_add_of_nonneg_right (mul_self_nonneg _))
  refine le_trans ?_ hplane
  rw [hypot2_eq, hypot2_eq, hypot2_eq]
  refine (norm_sub_norm_le _ _).trans (le_of_eq (congrArg _ ?_))
  push_cast
  ring

/-- A point that is moved by `r` is that far out, but for its own distance. -/
lemma sub_le_moved (x y angle : ℝ) {r : ℝ} (hr : 0 ≤ r) :
    r - hypot2 x y ≤ hypot2 (x + r * Real.cos angle) (y + r * Real.sin angle) := by
  have hlength : ‖((r * Real.cos angle : ℝ) + (r * Real.sin angle : ℝ) * Complex.I : ℂ)‖ = r := by
    have hsq : (r * Real.cos angle) ^ 2 + (r * Real.sin angle) ^ 2 = r ^ 2 := by
      rw [mul_pow, mul_pow, ← mul_add, Real.cos_sq_add_sin_sq, mul_one]
    rw [Complex.norm_add_mul_I, hsq, Real.sqrt_sq hr]
  have hsum : ((x + r * Real.cos angle : ℝ) + (y + r * Real.sin angle : ℝ) * Complex.I : ℂ) =
      ((r * Real.cos angle : ℝ) + (r * Real.sin angle : ℝ) * Complex.I) + (x + y * Complex.I) := by
    push_cast
    ring
  rw [hypot2_eq, hypot2_eq, hsum]
  refine le_trans ?_ (norm_sub_le_norm_add _ _)
  rw [hlength]

lemma le_greatest (hv : v ∈ vs) : v ≤ greatest vs := le_getD_max? hv 0

lemma least_le (hv : v ∈ vs) : least vs ≤ v := getD_min?_le hv 0

section

variable [IsStrictOrderedRing K]

variable {vs : List K}

lemma least_map_sub (h : vs ≠ []) (c : K) : least (vs.map (· - c)) = least vs - c := by
  obtain ⟨m, hm⟩ := Option.isSome_iff_exists.mp (List.isSome_min?_of_ne_nil h)
  obtain ⟨hmem, hle⟩ := List.min?_eq_some_iff.mp hm
  have hmap : (vs.map (· - c)).min? = some (m - c) := by
    refine List.min?_eq_some_iff.mpr ⟨List.mem_map_of_mem hmem, fun v hv => ?_⟩
    obtain ⟨w, hw, rfl⟩ := List.mem_map.mp hv
    exact sub_le_sub_right (hle w hw) c
  rw [least, least, hm, hmap]
  rfl

lemma greatest_map_sub (h : vs ≠ []) (c : K) : greatest (vs.map (· - c)) = greatest vs - c := by
  obtain ⟨m, hm⟩ := Option.isSome_iff_exists.mp (List.isSome_max?_of_ne_nil h)
  obtain ⟨hmem, hle⟩ := List.max?_eq_some_iff.mp hm
  have hmap : (vs.map (· - c)).max? = some (m - c) := by
    refine List.max?_eq_some_iff.mpr ⟨List.mem_map_of_mem hmem, fun v hv => ?_⟩
    obtain ⟨w, hw, rfl⟩ := List.mem_map.mp hv
    exact sub_le_sub_right (hle w hw) c
  rw [greatest, greatest, hm, hmap]
  rfl

lemma bboxCentre_centred {pts : List (Point K)} (h : pts ≠ []) :
    bboxCentre (centred pts) = (0, 0) := by
  have hx : (centred pts).map Point.x = (pts.map Point.x).map (· - (bboxCentre pts).1) := by
    rw [centred, List.map_map, List.map_map]
    rfl
  have hy : (centred pts).map Point.y = (pts.map Point.y).map (· - (bboxCentre pts).2) := by
    rw [centred, List.map_map, List.map_map]
    rfl
  have hne : ∀ f : Point K → K, pts.map f ≠ [] := fun f => by simpa using h
  rw [bboxCentre, hx, hy, least_map_sub (hne _), greatest_map_sub (hne _), least_map_sub (hne _),
    greatest_map_sub (hne _), bboxCentre]
  refine Prod.ext ?_ ?_
  · dsimp only
    ring
  · dsimp only
    ring

lemma hypot2_le_reach [Sqrt K] {pts : List (Point K)} {p : Point K} (hp : p ∈ centred pts) :
    hypot2 p.x p.y ≤ horizontalReach (centred pts) := by
  have hne : pts ≠ [] := by
    rintro rfl
    cases hp
  have hmem := List.mem_map_of_mem (f := fun p : Point K => hypot2 (p.x - 0) (p.y - 0)) hp
  rw [horizontalReach, bboxCentre_centred hne]
  simpa using le_greatest hmem

end

/-- Any two points of the groups are a clearance apart. -/
def GroupsApart (pts others : List (Point ℝ)) : Prop :=
  ∀ p ∈ pts, ∀ q ∈ others, groupClearance ≤ distance p q

variable {pts : List (Point ℝ)}

/-- The distance that the bisection finds keeps the group apart, and so does the one that it
starts from. -/
lemma clears_outward {angle envelopeReach : ℝ} {placed : List (Point ℝ)}
    (hwithin : ∀ q ∈ placed, hypot2 q.x q.y ≤ envelopeReach) :
    clears (Real.cos angle) (Real.sin angle) (centred pts) placed
      (outward (Real.cos angle) (Real.sin angle) envelopeReach (centred pts) placed) = true := by
  refine clear_bisect 40 (clears_iff.mpr fun p hp q hq => ?_)
  obtain ⟨p', hp', rfl⟩ := List.mem_map.mp hp
  have hout : 0 ≤ envelopeReach := (Real.sqrt_nonneg _).trans (hwithin q hq)
  have hown := hypot2_le_reach hp'
  have hown0 : 0 ≤ horizontalReach (centred pts) := (Real.sqrt_nonneg _).trans hown
  have hclear : (0 : ℝ) ≤ minSeparationM + exportRoundingMarginM := by
    norm_num [minSeparationM, exportRoundingMarginM]
  have hmoved := sub_le_moved p'.x p'.y angle
    (r := envelopeReach + horizontalReach (centred pts) + minSeparationM + exportRoundingMarginM)
    (by linarith)
  have hapart := sub_le_distance { p' with
    x := p'.x + (envelopeReach + horizontalReach (centred pts) + minSeparationM +
      exportRoundingMarginM) * Real.cos angle
    y := p'.y + (envelopeReach + horizontalReach (centred pts) + minSeparationM +
      exportRoundingMarginM) * Real.sin angle } q
  have hq' := hwithin q hq
  unfold groupClearance
  linarith

omit [LinearOrder K] in
lemma movedBy_zero (pts : List (Point K)) : movedBy 0 0 pts = pts := by
  simp [movedBy]

lemma placeSupport_spec (circle : Bool) (idx supports : ℕ) {envelopeReach : ℝ}
    (pts : List (Point ℝ)) {placed : List (Point ℝ)}
    (hwithin : ∀ q ∈ placed, hypot2 q.x q.y ≤ envelopeReach) :
    ∃ dx dy, placeSupport circle idx supports envelopeReach (centred pts) placed =
        movedBy dx dy (centred pts) ∧
      GroupsApart (placeSupport circle idx supports envelopeReach (centred pts) placed) placed := by
  unfold placeSupport
  dsimp only
  split_ifs with hring
  · refine ⟨0, 0, (movedBy_zero _).symm, fun p hp q hq => ?_⟩
    have hmem := List.mem_map_of_mem (f := fun p : Point ℝ => hypot2 p.x p.y) hp
    have hp' := least_le hmem
    have hq' := hwithin q hq
    have hapart := sub_le_distance p q
    have hclear := hring.2
    linarith
  · exact ⟨_, _, rfl, clears_iff.mp (clears_outward hwithin)⟩

/-! ## The groups of a run -/

def shifted (dx dy dz : K) (raw : List (Point K)) : List (Point K) :=
  raw.map fun p => { x := p.x + dx, y := p.y + dy, z := p.z - dz }

lemma distance_comm (p q : Point ℝ) : distance p q = distance q p := by
  unfold distance hypot3
  congr 1
  ring

lemma GroupsApart.symm {others : List (Point ℝ)} (h : GroupsApart pts others) :
    GroupsApart others pts := by
  intro p hp q hq
  rw [distance_comm]
  exact h q hq p hp

lemma GroupsApart.shifted {others : List (Point ℝ)} (h : GroupsApart pts others) (dx dy dz : ℝ) :
    GroupsApart (shifted dx dy dz pts) (shifted dx dy dz others) := by
  intro p hp q hq
  obtain ⟨p, hp', rfl⟩ := List.mem_map.mp hp
  obtain ⟨q, hq', rfl⟩ := List.mem_map.mp hq
  refine (h p hp' q hq').trans_eq ?_
  unfold distance
  dsimp only
  rw [add_sub_add_right_eq_sub, add_sub_add_right_eq_sub, sub_sub_sub_cancel_right]

section Groups

variable {shapes : Shapes ℝ}

/-- A group of a part: as many points as it asked for, of its shape, moved in one piece. -/
structure GroupOf (dz : ℝ) (part : SplitPart shapes) (count : ℕ) (group : List (Point ℝ)) :
    Prop where
  length : group.length = count
  moved : ∃ raw dx dy, rawFormation shapes part.shapeType part.payload count part.scale = .ok raw ∧
    group = shifted dx dy dz raw

variable {count : ℕ} {part : SplitPart shapes} {raw : List (Point ℝ)}

variable {role : String} {dz : ℝ} {group : List (Point ℝ)}

lemma partPoints_eq_ok (h : partPoints role part count = .ok raw) :
    rawFormation shapes part.shapeType part.payload count part.scale = .ok raw ∧
      raw.length = count := by
  obtain ⟨raw', hraw, h⟩ := bind_eq_ok.mp h
  split_ifs at h with hcount
  obtain rfl := Except.ok.inj h
  exact ⟨hraw, not_not.mp hcount⟩

lemma groupOf_centred (h : partPoints role part count = .ok raw) :
    GroupOf 0 part count (centred raw) := by
  obtain ⟨hraw, hcount⟩ := partPoints_eq_ok h
  refine ⟨(List.length_map _).trans hcount, raw, -(bboxCentre raw).1, -(bboxCentre raw).2, hraw, ?_⟩
  unfold centred shifted
  simp only [sub_eq_add_neg, neg_zero, add_zero]

lemma GroupOf.shifted (h : GroupOf dz part count group) (dx dy lift : ℝ) :
    GroupOf (dz + lift) part count (shifted dx dy lift group) := by
  obtain ⟨raw, dx', dy', hraw, rfl⟩ := h.moved
  refine ⟨(List.length_map _).trans h.length, raw, dx' + dx, dy' + dy, hraw, ?_⟩
  unfold SplitFormations.shifted
  rw [List.map_map]
  refine List.map_congr_left fun p _ => ?_
  simp only [Function.comp_apply, add_assoc, sub_sub]

lemma GroupOf.movedBy (h : GroupOf dz part count group) (dx dy : ℝ) :
    GroupOf dz part count (movedBy dx dy group) := by
  have heq : SplitFormations.movedBy dx dy group = SplitFormations.shifted dx dy 0 group := by
    unfold SplitFormations.movedBy SplitFormations.shifted
    simp only [sub_zero]
  rw [heq, ← add_zero dz]
  exact h.shifted dx dy 0

def Counted (part : SplitPart shapes) (counted : SplitPart shapes × ℕ) : Prop :=
  counted.1 = part ∧ part.count = counted.2 ∧ 1 ≤ counted.2

variable {parts : List (SplitPart shapes)}

lemma forall₂_partCounts {counted : List (SplitPart shapes × ℕ)}
    (h : partCounts parts = .ok counted) :
    List.Forall₂ Counted parts counted := by
  induction parts generalizing counted with
  | nil =>
    obtain rfl := Except.ok.inj h
    exact .nil
  | cons part parts ih =>
    unfold partCounts at h
    split at h
    · cases h
    · next count hcount =>
      obtain ⟨rest, hrest, rfl⟩ := map_eq_ok.mp h
      exact .cons ⟨rfl, eq_of_countOf hcount⟩ (ih hrest)

/-- The groups so far: each is its part's, they are apart, and none reaches out of the envelope. -/
structure Placed (counted : List (SplitPart shapes × ℕ)) (envelopeReach : ℝ)
    (groups : List (List (Point ℝ))) : Prop where
  of : List.Forall₂ (fun counted group => GroupOf 0 counted.1 counted.2 group) counted groups
  apart : groups.Pairwise GroupsApart
  within : ∀ q ∈ groups.flatten, hypot2 q.x q.y ≤ envelopeReach

lemma placed_figure (h : partPoints "Figure" part count = .ok raw) :
    Placed [(part, count)] (horizontalReach (centred raw)) [centred raw] := by
  refine ⟨.cons (groupOf_centred h) .nil, List.pairwise_singleton _ _, fun q hq => ?_⟩
  rw [List.flatten_singleton] at hq
  exact hypot2_le_reach hq

lemma Placed.step {counted : List (SplitPart shapes × ℕ)} {envelopeReach : ℝ}
    {groups : List (List (Point ℝ))} (h : Placed counted envelopeReach groups)
    (hraw : partPoints "Support" part count = .ok raw) (idx supports : ℕ) :
    let group := placeSupport part.circle idx supports envelopeReach (centred raw) groups.flatten
    Placed (counted ++ [(part, count)])
      ((group.map fun p => hypot2 p.x p.y).foldl max envelopeReach) (groups ++ [group]) := by
  intro group
  obtain ⟨dx, dy, hmoved, hapart⟩ :=
    placeSupport_spec part.circle idx supports raw h.within
  have hgroup : GroupOf 0 part count group := by
    rw [show group = movedBy dx dy (centred raw) from hmoved]
    exact (groupOf_centred hraw).movedBy dx dy
  obtain ⟨hkeep, hall, -⟩ := Core.Shows.le_foldl_max
    (group.map fun p => hypot2 p.x p.y) envelopeReach
  refine ⟨List.rel_append h.of (.cons hgroup .nil), ?_, fun q hq => ?_⟩
  · refine List.pairwise_append.mpr ⟨h.apart, List.pairwise_singleton _ _, ?_⟩
    intro before hbefore last hlast
    obtain rfl := List.mem_singleton.mp hlast
    refine GroupsApart.symm fun p hp q hq => hapart p hp q ?_
    exact List.mem_flatten.mpr ⟨before, hbefore, hq⟩
  · rw [List.flatten_append, List.flatten_singleton, List.mem_append] at hq
    rcases hq with hold | hnew
    · exact (h.within q hold).trans hkeep
    · exact hall _ (List.mem_map_of_mem hnew)

/-- The states of the loop over the support groups. -/
inductive Reached (supports : ℕ) : ℕ → List (SplitPart shapes × ℕ) → ℝ → List (List (Point ℝ)) →
    Prop
  | figure {part : SplitPart shapes} {count : ℕ} {raw : List (Point ℝ)}
      (h : partPoints "Figure" part count = .ok raw) :
      Reached supports 0 [(part, count)] (horizontalReach (centred raw)) [centred raw]
  | support {idx : ℕ} {counted : List (SplitPart shapes × ℕ)} {envelopeReach : ℝ}
      {groups : List (List (Point ℝ))} {part : SplitPart shapes} {count : ℕ}
      {raw group : List (Point ℝ)} (before : Reached supports idx counted envelopeReach groups)
      (h : partPoints "Support" part count = .ok raw)
      (hgroup : group =
        placeSupport part.circle idx supports envelopeReach (centred raw) groups.flatten) :
      Reached supports (idx + 1) (counted ++ [(part, count)])
        ((group.map fun p => hypot2 p.x p.y).foldl max envelopeReach) (groups ++ [group])

variable {supports idx : ℕ} {rest counted : List (SplitPart shapes × ℕ)} {envelopeReach : ℝ}
  {groups out : List (List (Point ℝ))}

lemma Reached.placed (h : Reached supports idx counted envelopeReach groups) :
    Placed counted envelopeReach groups := by
  induction h with
  | figure h => exact placed_figure h
  | support before h hgroup ih =>
    subst hgroup
    exact ih.step h _ _

lemma reached_placeSupports (h : Reached supports idx counted envelopeReach groups)
    (hout : placeSupports supports idx rest envelopeReach groups = .ok out) :
    ∃ last reach, Reached supports last (counted ++ rest) reach out := by
  induction rest generalizing idx counted envelopeReach groups with
  | nil =>
    obtain rfl := Except.ok.inj hout
    rw [List.append_nil]
    exact ⟨idx, envelopeReach, h⟩
  | cons next rest ih =>
    obtain ⟨part, count⟩ := next
    obtain ⟨raw, hraw, hout⟩ := bind_eq_ok.mp hout
    rw [List.append_cons]
    exact ih (h.support hraw rfl) hout

/-! ## The result -/

lemma recentred_flatten (groups : List (List (Point ℝ))) :
    ∃ dx dy dz, recentred groups.flatten = (groups.map (shifted dx dy dz)).flatten := by
  refine ⟨-(bboxCentre groups.flatten).1, -(bboxCentre groups.flatten).2,
    liftFor (least (groups.flatten.map fun p => -p.z)), ?_⟩
  unfold recentred shifted
  rw [← List.map_flatten]
  exact List.map_congr_left fun p _ => by simp only [sub_eq_add_neg]

lemma eq_of_checkSplit {supports totalN : ℕ} {current pts : List (Point ℝ)}
    (h : checkSplit supports totalN current = .ok pts) : pts = current := by
  unfold checkSplit at h
  split_ifs at h
  exact (Except.ok.inj h).symm

/-- The groups of the parts, in one piece each, and apart. -/
structure Grouped (parts : List (SplitPart shapes)) (pts : List (Point ℝ)) (dz : ℝ)
    (groups : List (List (Point ℝ))) : Prop where
  concat : pts = groups.flatten
  of : List.Forall₂ (fun part group => ∃ count : ℕ, part.count = (count : ℝ) ∧
    GroupOf dz part count group) parts groups
  apart : groups.Pairwise GroupsApart

lemma grouped_of_placed (hcounted : List.Forall₂ Counted parts counted)
    (h : Placed counted envelopeReach groups) :
    ∃ dz groups', Grouped parts (recentred groups.flatten) dz groups' := by
  obtain ⟨dx, dy, dz, hflat⟩ := recentred_flatten groups
  refine ⟨0 + dz, groups.map (shifted dx dy dz), hflat, ?_, ?_⟩
  · rw [List.forall₂_map_right_iff]
    have hof := h.of
    clear hflat h
    induction hof generalizing parts with
    | nil =>
      cases hcounted
      exact .nil
    | cons hgroup _ ih =>
      obtain - | ⟨hpart, hrest⟩ := hcounted
      obtain ⟨rfl, hcount, -⟩ := hpart
      exact .cons ⟨_, hcount, hgroup.shifted dx dy dz⟩ (ih hrest)
  · exact h.apart.map _ fun _ _ hapart => hapart.shifted dx dy dz

lemma grouped_of_build {pts : List (Point ℝ)} (h : buildSplitFormation parts = .ok pts) :
    ∃ dz groups, Grouped parts pts dz groups := by
  unfold buildSplitFormation at h
  split_ifs at h with hfew
  obtain ⟨counted, hcounts, h⟩ := bind_eq_ok.mp h
  have hcounted := forall₂_partCounts hcounts
  cases counted with
  | nil =>
    cases hcounted
    exact absurd Nat.two_pos hfew
  | cons figure supports =>
    obtain ⟨raw, hraw, h⟩ := bind_eq_ok.mp h
    obtain ⟨groups, hgroups, h⟩ := bind_eq_ok.mp h
    obtain rfl := eq_of_checkSplit h
    obtain ⟨last, reach, hreached⟩ := reached_placeSupports (.figure hraw) hgroups
    exact grouped_of_placed hcounted hreached.placed

end Groups

lemma distance_row (x x' y z : ℝ) : distance (⟨x, y, z⟩ : Point ℝ) ⟨x', y, z⟩ = |x - x'| := by
  rw [← Real.sqrt_mul_self_eq_abs]
  exact congrArg Real.sqrt (by ring)

lemma clears_not_monotone : ∃ (pts placed : List (Point ℝ)) (r r' : ℝ), r < r' ∧
    clears (Real.cos 0) (Real.sin 0) pts placed r = true ∧
    clears (Real.cos 0) (Real.sin 0) pts placed r' = false := by
  have hclears : ∀ r : ℝ, clears (Real.cos 0) (Real.sin 0) [⟨0, 0, 0⟩] [⟨10, 0, 0⟩] r = true ↔
      groupClearance ≤ |r - 10| := by
    intro r
    have hdist : distance (⟨0 + r * 1, 0 + r * 0, 0⟩ : Point ℝ) ⟨10, 0, 0⟩ = |r - 10| := by
      rw [zero_add, mul_one, mul_zero, add_zero, distance_row]
    rw [clears_iff, Real.cos_zero, Real.sin_zero, ← hdist]
    exact ⟨fun h => h _ List.mem_cons_self _ List.mem_cons_self, fun h p hp q hq =>
      List.mem_singleton.mp hp ▸ List.mem_singleton.mp hq ▸ h⟩
  refine ⟨[⟨0, 0, 0⟩], [⟨10, 0, 0⟩], 0, 10, by norm_num, (hclears 0).mpr ?_, ?_⟩
  · norm_num [groupClearance, minSeparationM, exportRoundingMarginM]
  · rw [← Bool.not_eq_true, hclears 10]
    norm_num [groupClearance, minSeparationM, exportRoundingMarginM]

noncomputable def lone : SplitPart (asGiven ℝ) where
  shapeType := .exactPoints
  payload := above (-8)
  payloadText := "[{x: 0, y: 0, z: -8}]"
  circle := false
  scale := none
  count := 1

lemma partPoints_lone (role : String) : partPoints role lone 1 = .ok (above (-8)) := rfl

lemma partCounts_lone : partCounts [lone, lone] = .ok [(lone, 1), (lone, 1)] := by
  have hcount : countOf (1 : ℝ) = some 1 := by
    unfold countOf
    rw [Int.floor_one, if_pos ⟨Int.cast_one.symm, le_rfl⟩]
    rfl
  unfold partCounts
  change (match countOf (1 : ℝ) with | none => _ | some count => _) = _
  rw [hcount]
  unfold partCounts
  change Except.map _ (match countOf (1 : ℝ) with | none => _ | some count => _) = _
  rw [hcount]
  rfl

lemma centred_above : centred (above (-8)) = above (-8) := by
  simp [centred, bboxCentre, least, greatest, above]

lemma reach_above : horizontalReach (above (-8)) = 0 := by
  simp [horizontalReach, bboxCentre, least, greatest, above, hypot2, sqrt]

lemma outward_above : outward (Real.cos 0) (Real.sin 0) 0 (above (-8)) (above (-8)) = 41 / 20 := by
  have hclear : clears (Real.cos 0) (Real.sin 0) (centred (above (-8))) (above (-8))
      (outward (Real.cos 0) (Real.sin 0) 0 (centred (above (-8))) (above (-8))) = true := by
    refine clears_outward fun q hq => ?_
    obtain rfl := List.mem_singleton.mp hq
    simp [hypot2, sqrt]
  have hmem : outward (Real.cos 0) (Real.sin 0) 0 (above (-8)) (above (-8)) ∈
      Set.Icc (0 : ℝ) (0 + horizontalReach (above (-8)) + minSeparationM +
        exportRoundingMarginM) := by
    refine bisect_mem 40 ?_
    rw [reach_above]
    norm_num [minSeparationM, exportRoundingMarginM]
  rw [centred_above] at hclear
  obtain ⟨hpos, hle⟩ := hmem
  rw [reach_above] at hle
  generalize outward (Real.cos 0) (Real.sin 0) 0 (above (-8)) (above (-8)) = r at *
  have hfar := clears_iff.mp hclear _ List.mem_cons_self _ List.mem_cons_self
  have hdist : distance (⟨0 + r * Real.cos 0, 0 + r * Real.sin 0, -8⟩ : Point ℝ) ⟨0, 0, -8⟩ =
      r := by
    rw [Real.cos_zero, Real.sin_zero, zero_add, mul_one, mul_zero, add_zero, distance_row,
      sub_zero, abs_of_nonneg hpos]
  rw [show distance _ _ = r from hdist] at hfar
  norm_num [groupClearance, minSeparationM, exportRoundingMarginM] at hfar hle
  exact le_antisymm hle hfar

lemma placeSupport_above : placeSupport false 0 1 0 (above (-8)) (above (-8)) =
    [{ x := 41 / 20, y := 0, z := -8 }] := by
  have hangle : 2 * Trig.pi * ((0 : ℕ) : ℝ) / ((1 : ℕ) : ℝ) = 0 := by norm_num
  unfold placeSupport
  rw [if_neg fun h => Bool.false_ne_true h.1]
  dsimp only
  rw [hangle]
  change movedBy (outward (Real.cos 0) (Real.sin 0) 0 _ _ * Real.cos 0)
    (outward (Real.cos 0) (Real.sin 0) 0 _ _ * Real.sin 0) _ = _
  rw [outward_above, Real.cos_zero, Real.sin_zero]
  simp [movedBy, above]

noncomputable def sides : List (Point ℝ) :=
  [{ x := -(41 / 40), y := 0, z := -8 }, { x := 41 / 40, y := 0, z := -8 }]

lemma recentred_above : recentred [{ x := (0 : ℝ), y := 0, z := -8 },
    { x := 41 / 20, y := 0, z := -8 }] = sides := by
  norm_num [recentred, bboxCentre, least, greatest, liftFor, minFormationAlt, sides]

lemma checkSplit_sides : checkSplit 1 2 sides = .ok sides := by
  have hhypot : ∀ x : ℝ, hypot2 x 0 = |x| := fun x => by
    rw [← Real.sqrt_mul_self_eq_abs]
    exact congrArg Real.sqrt (by ring)
  have hreach : ¬ siteRadiusM + tolerance < maxReach sides := by
    change ¬ _ < max (max 0 (hypot2 (-(41 / 40)) 0)) (hypot2 (41 / 40 : ℝ) 0)
    rw [hhypot, hhypot]
    norm_num [siteRadiusM, tolerance]
  have haltitude : ¬ maxAltitudeM + tolerance < greatest (sides.map fun p => -p.z) := by
    norm_num [sides, greatest, maxAltitudeM, tolerance]
  have hspacing : below (minPairDist sides) (minSeparationM - tolerance) = false := by
    refine not_below_of_exceeds (exceeds_of_le fun v hv => ?_)
    obtain rfl : v = distance (⟨-(41 / 40), 0, -8⟩ : Point ℝ) ⟨41 / 40, 0, -8⟩ :=
      List.mem_singleton.mp hv
    rw [distance_row]
    norm_num [minSeparationM, tolerance]
  unfold checkSplit
  rw [if_neg hreach, if_neg haltitude, hspacing]
  rfl

lemma build_lone : buildSplitFormation [lone, lone] = .ok sides := by
  unfold buildSplitFormation
  rw [if_neg (by decide), partCounts_lone]
  refine bind_eq_ok.mpr ⟨_, rfl, ?_⟩
  refine bind_eq_ok.mpr ⟨above (-8), partPoints_lone _, ?_⟩
  refine bind_eq_ok.mpr ⟨[above (-8), [{ x := 41 / 20, y := 0, z := -8 }]], ?_, ?_⟩
  · refine bind_eq_ok.mpr ⟨above (-8), partPoints_lone _, ?_⟩
    rw [centred_above, reach_above]
    exact congrArg (fun group => Except.ok [above (-8), group]) placeSupport_above
  · change checkSplit 1 2 (recentred [{ x := (0 : ℝ), y := 0, z := -8 },
      { x := 41 / 20, y := 0, z := -8 }]) = _
    rw [recentred_above]
    exact checkSplit_sides

/-- Split formations are their groups one after the other, apart, and so is each group at the
distance that the bisection finds for it, though not at every larger one. -/
theorem split_groups_apart (shapes : Shapes ℝ) :
    (∀ (parts : List (SplitPart shapes)) (pts : List (Point ℝ)),
      buildSplitFormation parts = .ok pts → ∃ dz groups, Grouped parts pts dz groups) ∧
    (∀ (supports idx : ℕ) (counted : List (SplitPart shapes × ℕ)) (envelopeReach : ℝ)
      (groups : List (List (Point ℝ))), Reached supports idx counted envelopeReach groups →
      ∀ (angle : ℝ) (raw : List (Point ℝ)),
        clears (Real.cos angle) (Real.sin angle) (centred raw) groups.flatten
          (outward (Real.cos angle) (Real.sin angle) envelopeReach (centred raw)
            groups.flatten) = true) ∧
    ∃ (pts placed : List (Point ℝ)) (r r' : ℝ), r < r' ∧
      clears (Real.cos 0) (Real.sin 0) pts placed r = true ∧
      clears (Real.cos 0) (Real.sin 0) pts placed r' = false := by
  refine ⟨fun parts pts h => grouped_of_build h, ?_, clears_not_monotone⟩
  intro supports idx counted envelopeReach groups hreached angle raw
  exact clears_outward hreached.placed.within

theorem split_groups_apart_lone : (∃ dz groups, Grouped [lone, lone] sides dz groups) ∧
    clears (Real.cos 0) (Real.sin 0) (centred (above (-8))) [centred (above (-8))].flatten
      (outward (Real.cos 0) (Real.sin 0) (horizontalReach (centred (above (-8))))
        (centred (above (-8))) [centred (above (-8))].flatten) = true :=
  ⟨(split_groups_apart (asGiven ℝ)).1 _ _ build_lone,
    (split_groups_apart (asGiven ℝ)).2.1 1 0 _ _ _ (.figure (partPoints_lone "Figure")) 0 _⟩

end Taramandal.Studio.SplitFormations
