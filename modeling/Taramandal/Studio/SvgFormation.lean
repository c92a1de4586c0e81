import Taramandal.Studio.Sequencer
import Taramandal.Studio.SvgWalk

/-! # A drawing as a formation (`svgToFormation`)

The contours of a drawing are sampled, scaled so that the drones fit side by side on them, and
stood up. A point too close to one before it is moved to the next free depth. -/
set_option linter.unusedSectionVars false

namespace Taramandal.Studio.SvgFormation

open Core.Numbers Core.ScriptNumbers Lib.Check Studio.Layout Studio.Contours Studio.SvgWalk
open Studio.Formations hiding toSpacingFloor
open Studio.PathGrammar (pathContours)
open Studio.Sequencer (inherited)

def BUILTIN_SVGS : List (String × String) :=
  [("dandiya_sticks",
    "<svg xmlns=\"http://www.w3.org/2000/svg\" viewBox=\"0 0 100 100\" width=\"100\" " ++
    "height=\"100\">\n  <path d=\"M 15 85 L 85 15 M 15 15 L 85 85\" stroke=\"currentColor\" " ++
    "stroke-width=\"4\" stroke-linecap=\"round\" />\n</svg>"),
  ("diya_flame",
    "<svg xmlns=\"http://www.w3.org/2000/svg\" viewBox=\"0 0 100 100\" width=\"100\" " ++
    "height=\"100\">\n  <path d=\"M 20 60 Q 50 90 80 60 Q 50 70 20 60 Z\" fill=\"none\" " ++
    "stroke=\"currentColor\" stroke-width=\"3\" />\n  <path d=\"M 50 55 Q 35 40 50 15 Q 65 40 50 " ++
    "55 Z\" fill=\"none\" stroke=\"currentColor\" stroke-width=\"3\" />\n</svg>")]

/-- `svgText`, if it is a text: what a name is looked up as may be an inherited member. -/
def svgTextOf (svgTextOrKey : Option String) : Option String :=
  svgTextOrKey.bind fun key =>
    if key ∈ inherited then none else some ((BUILTIN_SVGS.lookup key).getD key)

inductive Plane where
  | XY
  | XZ
  deriving DecidableEq

variable {K : Type} [Field K] [LinearOrder K] [FloorRing K]

def minDesignSpacingM : K := 2

/-- `Number(x.toFixed(3))`. -/
def fixed3 (x : K) : K :=
  if x < 0 then -(⌊-x * 10 ^ 3 + 1 / 2⌋ / 10 ^ 3) else ⌊x * 10 ^ 3 + 1 / 2⌋ / 10 ^ 3

def depthLayers : List K := [0, 25 / 10, -(25 / 10), 5, -5, 75 / 10, -(75 / 10)]

variable [Sqrt K]

def isFree (pts3d : List (Point K)) (p : Point K) : Bool :=
  pts3d.all fun other => minDesignSpacingM - 1 / 10 ^ 4 ≤ distance p other

def baseDepth (count contourIndex : ℕ) : K :=
  if 1 < count then (contourIndex - ((count : K) - 1) / 2) * (25 / 10) else 0

def standUp (plane : Plane) (altitude minPy depth : K) (pts3d : List (Point K)) (p : Sample K) :
    Point K :=
  match plane with
  | .XZ =>
    let spot := fun dl => Point.mk (fixed3 p.x) (fixed3 p.y) (fixed3 (-altitude + depth + dl))
    ((depthLayers.map spot).find? (isFree pts3d)).getD (spot 0)
  | .XY =>
    let spot := fun y => Point.mk (fixed3 p.x) y (fixed3 (-altitude - (p.y - minPy)))
    ((depthLayers.map fun dl => spot (fixed3 (depth + dl))).find? (isFree pts3d)).getD (spot depth)

def projectPoints (contours : List (List (PlanePoint K))) (plane : Plane) (altitude : K) (n : ℕ)
    (curScale : K) : Except (ShowError K) (List (Point K)) :=
  (sampleSvgContours contours n curScale).map fun pts2d =>
    let minPy := least (pts2d.map Sample.y)
    pts2d.foldl (fun pts3d p => pts3d ++
      [standUp plane altitude minPy (baseDepth contours.length p.contourIndex) pts3d p]) []

def minRequiredScale (contours : List (List (PlanePoint K))) (n : ℕ) : K :=
  let extent := max (largerSide contours) (1 / 10 ^ 4)
  n * minDesignSpacingM / (totalLength contours / extent) * (105 / 100)

def needsSpan (n : ℕ) (effectiveScale : K) (purpose : String) : ShowError K :=
  .refusal (.shape ("SVG formation for " ++ toString n ++ " drones requires " ++
    toFixed 1 effectiveScale ++ "m span" ++ purpose ++ ", exceeding site limits (30m radius)."))

/-- How much larger the drawing has to be, if its points are too close. -/
def boostOf (pts3d : List (Point K)) : Option K :=
  match minPairDist pts3d with
  | some m =>
    if m < minDesignSpacingM ∧ 1 / 10 ^ 4 < m then some (minDesignSpacingM / m * (105 / 100))
    else none
  | none => none

def scaledPoints (contours : List (List (PlanePoint K))) (plane : Plane) (altitude : K) (n : ℕ)
    (effectiveScale : K) : Except (ShowError K) (List (Point K)) :=
  (projectPoints contours plane altitude n effectiveScale).bind fun pts3d =>
    match boostOf pts3d with
    | none => .ok pts3d
    | some boost =>
      if siteRadiusM * 2 < effectiveScale * boost then
        .error (needsSpan n (effectiveScale * boost) " to maintain 2m spacing")
      else projectPoints contours plane altitude n (effectiveScale * boost)

def pointError (p : Point K) : Option (ShowError K) :=
  let reach := hypot2 p.x p.y
  let alt := -p.z
  if siteRadiusM + tolerance < reach then
    some (.refusal (.shape ("SVG formation point exceeds site radius (" ++ toFixed 2 reach ++
      "m > 30m).")))
  else if alt < 0 ∨ maxAltitudeM < alt then
    some (.refusal (.shape ("SVG formation altitude (" ++ toFixed 2 alt ++
      "m) exceeds bounds (0 - 120m).")))
  else none

def spacingError (pts3d : List (Point K)) : Option (ShowError K) :=
  match minPairDist pts3d with
  | some finalDist =>
    if finalDist < minDesignSpacingM - 1 / 10 ^ 4 then
      some (.refusal (.shape ("SVG formation violates minimum design spacing: " ++
        toFixed 2 finalDist ++ "m < 2m.")))
    else none
  | none => none

def checkPoints (pts3d : List (Point K)) : Except (ShowError K) (List (Point K)) :=
  match (pts3d.findSome? pointError).or (spacingError pts3d) with
  | some e => .error e
  | none => .ok pts3d

def formationOf (contours : List (List (PlanePoint K))) (plane : Plane) (altitude : K) (n : ℕ)
    (scale : K) : Except (ShowError K) (List (Point K)) :=
  if totalLength contours ≤ 1 / 10 ^ 6 then
    .error (.plain "Degenerate SVG geometry (zero path length).")
  else
    let effectiveScale := max scale (minRequiredScale contours n)
    if siteRadiusM * 2 < effectiveScale then .error (needsSpan n effectiveScale "")
    else (scaledPoints contours plane altitude n effectiveScale).bind checkPoints

/-- `svgToFormation`, of a text (`none` for anything else). -/
def svgToFormation [Trig K] (svgTextOrKey : Option String) (n : ℕ) (scale altitude : K)
    (plane : Plane) : Except (ShowError K) (List (Point K)) :=
  match (svgTextOf svgTextOrKey).map fun text => parseSvgToContours (K := K) text.toList with
  | none => .error (.plain "SVG content must not be empty.")
  | some (.error text) => .error (.plain text)
  | some (.ok svg) => formationOf svg.contours plane altitude n scale

/-! ## Contours that can be sampled -/

def Lines (contours : List (List (PlanePoint K))) : Prop := ∀ c ∈ contours, 2 ≤ c.length

lemma Lines.filtered (contours : List (List (PlanePoint K))) :
    Lines (contours.filter fun pts => 2 ≤ pts.length) := fun _ hc =>
  of_decide_eq_true (List.mem_filter.mp hc).2

lemma shapeOf_lines {tagName : List Char} {attrs : Attributes}
    {sub : List (List (PlanePoint K))} (h : shapeOf tagName attrs = .ok sub) : Lines sub := by
  unfold shapeOf at h
  dsimp only at h
  split_ifs at h
  · obtain rfl := Except.ok.inj h
    exact List.forall_mem_nil _
  · obtain ⟨contours, -, rfl⟩ := map_eq_ok.mp h
    exact Lines.filtered contours
  · obtain rfl := Except.ok.inj h
    exact List.forall_mem_nil _
  · obtain ⟨pts, -, rfl⟩ := map_eq_ok.mp h
    split
    next hpts => exact List.forall_mem_singleton.mpr hpts
    next => exact List.forall_mem_nil _
  · obtain rfl := Except.ok.inj h
    exact List.forall_mem_nil _

section

variable [Trig K] {v : Viewport K}

variable {w w' : Walk K}

lemma enter_lines {tagName : List Char} {isSelfClosing : Bool}
    {attrs : Attributes} (h : w.enter v tagName isSelfClosing attrs = .ok w')
    (hw : Lines w.contours) : Lines w'.contours := by
  obtain ⟨elemMatrix, -, h⟩ := bind_eq_ok.mp h
  split_ifs at h
  · obtain rfl := Except.ok.inj h
    exact hw
  · obtain rfl := Except.ok.inj h
    exact hw
  · obtain rfl := Except.ok.inj h
    exact hw
  · obtain ⟨sub, hsub, rfl⟩ := map_eq_ok.mp h
    intro c hc
    rcases List.mem_append.mp hc with hc | hc
    · exact hw c hc
    · obtain ⟨pts, hpts, rfl⟩ := List.mem_map.mp hc
      rw [List.length_map]
      exact shapeOf_lines hsub pts hpts

lemma step_lines {t : RawTag} (h : w.step v t = .ok w')
    (hw : Lines w.contours) : Lines w'.contours := by
  unfold Walk.step Walk.close Walk.open at h
  dsimp only at h
  split_ifs at h
  all_goals first
    | exact enter_lines h hw
    | (obtain rfl := Except.ok.inj h; exact hw)

lemma walk_lines {tags : List RawTag} (h : walk v w tags = .ok w')
    (hw : Lines w.contours) : Lines w'.contours := by
  induction tags generalizing w with
  | nil =>
    obtain rfl := Except.ok.inj h
    exact hw
  | cons t tags ih =>
    obtain ⟨w₁, hstep, hrest⟩ := bind_eq_ok.mp h
    exact ih hrest (step_lines hstep hw)

lemma parseSvgToContours_lines {svgText : List Char} {svg : SvgContours K}
    (h : parseSvgToContours svgText = .ok svg) : svg.contours ≠ [] ∧ Lines svg.contours := by
  obtain ⟨clean, -, h⟩ := bind_eq_ok.mp h
  obtain ⟨vb, -, h⟩ := bind_eq_ok.mp h
  split_ifs at h
  · obtain ⟨sub, -, h⟩ := bind_eq_ok.mp h
    dsimp only at h
    split_ifs at h with hne
    obtain rfl := Except.ok.inj h
    exact ⟨hne, Lines.filtered sub⟩
  · obtain ⟨v, -, h⟩ := bind_eq_ok.mp h
    obtain ⟨w, hwalk, h⟩ := bind_eq_ok.mp h
    split_ifs at h with hne
    obtain rfl := Except.ok.inj h
    exact ⟨hne, walk_lines hwalk (List.forall_mem_nil _)⟩

end

/-! ## A point for each drone -/

lemma isSome_onContours {contours : List (List (PlanePoint K))} (hne : contours ≠ [])
    (hlines : Lines contours) (target : K) (cIdx : ℕ) (accumulated : K) :
    (onContours target cIdx contours accumulated).isSome := by
  induction contours generalizing cIdx accumulated with
  | nil => exact absurd rfl hne
  | cons c rest ih =>
    unfold onContours
    split
    next =>
      have hsteps : Lib.Pairs.steps c ≠ [] := by
        intro hnil
        have hlen := congrArg List.length hnil
        rw [Lib.Pairs.steps, List.length_zip, List.length_tail, List.length_nil] at hlen
        have := hlines c (.head _)
        omega
      rw [Option.isSome_map, onContour, Option.isSome_map]
      exact Lib.Walk.isSome_walk segmentLength hsteps _
    next hend =>
      exact ih (fun h => hend (.inr h)) (fun c hc => hlines c (.tail _ hc)) _ _

variable {n : ℕ}

lemma length_sampleSvgContours {contours : List (List (PlanePoint K))} (hne : contours ≠ [])
    (hlines : Lines contours) {scaleMeters : K} {samples : List (Sample K)}
    (h : sampleSvgContours contours n scaleMeters = .ok samples) : samples.length = n := by
  unfold sampleSvgContours at h
  split_ifs at h with hn
  · obtain rfl := Except.ok.inj h
    exact (Nat.lt_one_iff.mp hn).symm
  · obtain rfl := Except.ok.inj h
    rw [List.length_filterMap_eq_countP, List.countP_eq_length.mpr, List.length_range]
    intro idx _
    rw [Option.isSome_map]
    exact isSome_onContours hne hlines _ _ _

variable {plane : Plane} {altitude : K} {pts : List (Point K)}

lemma length_projectPoints {contours : List (List (PlanePoint K))} (hne : contours ≠ [])
    (hlines : Lines contours) {curScale : K} (h : projectPoints contours plane altitude n curScale = .ok pts) :
    pts.length = n := by
  obtain ⟨samples, hsamples, rfl⟩ := map_eq_ok.mp h
  rw [← length_sampleSvgContours hne hlines hsamples]
  have hfold : ∀ (f : List (Point K) → Sample K → Point K) (samples : List (Sample K))
      (pts3d : List (Point K)),
      (samples.foldl (fun pts3d p => pts3d ++ [f pts3d p]) pts3d).length =
        pts3d.length + samples.length := by
    intro f samples
    induction samples with
    | nil => exact fun _ => rfl
    | cons p samples ih =>
      intro pts3d
      rw [List.foldl_cons, ih, List.length_append, List.length_cons, List.length_cons,
        List.length_nil]
      omega
  exact (hfold _ samples []).trans (Nat.zero_add _)

lemma length_svgToFormation [Trig K] {svgTextOrKey : Option String} {scale : K}
    (h : svgToFormation svgTextOrKey n scale altitude plane = .ok pts) : pts.length = n := by
  unfold svgToFormation at h
  split at h
  · cases h
  · cases h
  next svg heq =>
    obtain ⟨text, -, hparse⟩ := Option.map_eq_some_iff.mp heq
    obtain ⟨hne, hlines⟩ := parseSvgToContours_lines hparse
    unfold formationOf at h
    dsimp only at h
    split_ifs at h
    obtain ⟨scaled, hscaled, hcheck⟩ := bind_eq_ok.mp h
    have hlength : scaled.length = n := by
      obtain ⟨pts3d, hproject, hscaled⟩ := bind_eq_ok.mp hscaled
      split at hscaled
      · obtain rfl := Except.ok.inj hscaled
        exact length_projectPoints hne hlines hproject
      · split_ifs at hscaled
        exact length_projectPoints hne hlines hscaled
    unfold checkPoints at hcheck
    split at hcheck
    · cases hcheck
    · obtain rfl := Except.ok.inj hcheck
      exact hlength

end Taramandal.Studio.SvgFormation
