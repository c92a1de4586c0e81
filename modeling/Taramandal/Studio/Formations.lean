import Taramandal.Lib.Check
import Taramandal.Lib.Pairs
import Taramandal.Studio.Layout

/-! # Formations (`formations.js`)

A shape's own points are a parameter (`Shapes`): what matters here is how a formation is
spaced, placed and checked. Coordinates are numbers; a shape with one that is not finite is
refused at the latest by the last check, so a shape that has one counts as an error. -/
namespace Taramandal.Studio.Formations

open Lib.Pairs Core.Numbers Studio.Layout

variable {K : Type} [Field K] [LinearOrder K]

def formationSpacing : K := 32 / 10

def minFormationAlt : K := 4

def siteRadiusM : K := 30

def minSeparationM : K := 2

def maxAltitudeM : K := 120

/-- `1e-6`. -/
def tolerance : K := 1 / 10 ^ 6

/-- What a `ShowRefusalError` tells of the show. -/
inductive Refusal (K : Type) where
  | exactReach (reach : K)
  | siteSpacing (spacing : Option K)
  | altitude (highest : K)
  | spacing (least : Option K)
  | shape (text : String)
  | endpointSpacing (label : String) (least : Option K)
  | verticalSwap (label : String)
  | layerCeiling (label : String)
  | layeredLeg (label : String) (least : Option K)
  deriving DecidableEq

inductive ShowError (K : Type) where
  | refusal (reason : Refusal K)
  /-- A plain `Error`, or a `TypeError`. -/
  | plain (text : String)
  deriving DecidableEq

/-- `shapeType`; every other word is taken for a parametric shape. -/
inductive ShapeType where
  | exactPoints
  | text
  | svg
  | points
  | parametric
  deriving DecidableEq

/-- A point of a `points` payload. -/
structure SourcePoint (K : Type) where
  x : Option K
  y : Option K
  z : Option K

/-- The shapes' own points, at a scale. -/
structure Shapes (K : Type) where
  Payload : Type
  parametric : Payload → ℕ → K → Except (ShowError K) (List (Point K))
  text : Payload → ℕ → K → Except (ShowError K) (List (Point K))
  svg : Payload → ℕ → K → Except (ShowError K) (List (Point K))
  /-- `fmtCircle`. -/
  circle : ℕ → K → List (Point K)
  /-- The points of a `points` payload. -/
  points : Payload → List (SourcePoint K)
  /-- The points of an `exact_points` payload, read from its JSON. -/
  exactPoints : Payload → Except String (List (Point K))

section Spacing

variable [Sqrt K]

def distance (p q : Point K) : K := hypot3 (p.x - q.x) (p.y - q.y) (p.z - q.z)

section

variable (pts : List (Point K))

def minPairDist : Option K :=
  ((pairs pts).map fun p => distance p.1 p.2).min?

def centroid : Point K :=
  pts.foldl (fun a p =>
    { x := a.x + p.x / pts.length, y := a.y + p.y / pts.length, z := a.z + p.z / pts.length })
    { x := 0, y := 0, z := 0 }

/-- Scaled up about the centroid until no pair is closer than the formation spacing. -/
def toSpacingFloor : List (Point K) :=
  match minPairDist pts with
  | none => pts
  | some m =>
    if formationSpacing ≤ m then pts
    else
      let k := formationSpacing / m
      let c := centroid pts
      pts.map fun p =>
        { x := c.x + (p.x - c.x) * k, y := c.y + (p.y - c.y) * k, z := c.z + (p.z - c.z) * k }

end

def least (vs : List K) : K := vs.min?.getD 0

def greatest (vs : List K) : K := vs.max?.getD 0

def bboxCentre (pts : List (Point K)) : K × K :=
  ((least (pts.map Point.x) + greatest (pts.map Point.x)) / 2,
    (least (pts.map Point.y) + greatest (pts.map Point.y)) / 2)

/-- How far a formation with this lowest altitude is lifted. -/
def liftFor (lowest : K) : K := if lowest < minFormationAlt then minFormationAlt - lowest else 0

/-- Spaced, centred over the pads, and lifted off the ground. -/
def place (pts : List (Point K)) (n : ℕ) : List (Point K) :=
  let out := toSpacingFloor pts
  let c := bboxCentre out
  let centre := fleetCenter n
  let dz := liftFor (least (out.map fun p => -p.z))
  out.map fun p => { x := p.x + (centre.1 - c.1), y := p.y + (centre.2 - c.2), z := p.z - dz }

/-! ## Building -/

def scaleOf (scale : Option K) : K :=
  match scale with
  | some s => if 0 < s then s else 1
  | none => 1

/-- The points a payload lists, as many as there are drones. -/
def fromSource (s : K) (pts : List (SourcePoint K)) (n : ℕ) :
    Except (ShowError K) (List (Point K)) :=
  if pts = [] then .error (.plain "Points formation payload is empty.")
  else if pts.length < n then
    .error (.plain ("Points formation has only " ++ toString pts.length ++
      " points, but fleet needs " ++ toString n ++ "."))
  else .ok ((pts.take n).map fun src => {
    x := src.x.getD 0 * s
    y := src.y.getD 0 * s
    z := match src.z with
      | some z => if z = 0 then -showAlt else z * s
      | none => -showAlt })

def shapePoints (shapes : Shapes K) (shapeType : ShapeType) (payload : shapes.Payload) (n : ℕ)
    (s : K) : Except (ShowError K) (List (Point K)) :=
  match shapeType with
  | .exactPoints =>
    match shapes.exactPoints payload with
    | .error text => .error (.plain text)
    | .ok list =>
      if list.length ≠ n then
        .error (.plain ("points formation has " ++ toString list.length ++
          " points for a fleet of " ++ toString n))
      else .ok list
  | .text => shapes.text payload n s
  | .svg => shapes.svg payload n (s * 15)
  | .points => fromSource s (shapes.points payload) n
  | .parametric => shapes.parametric payload n s

/-- A shape that is drawn or listed may not fall back to a circle; it is named as its error
names it. -/
def ShapeType.custom : ShapeType → Option String
  | .svg => some "SVG"
  | .points => some "POINTS"
  | .exactPoints => some "EXACT_POINTS"
  | _ => none

def rawFormation (shapes : Shapes K) (shapeType : ShapeType) (payload : shapes.Payload) (n : ℕ)
    (scale : Option K) : Except (ShowError K) (List (Point K)) :=
  match shapePoints shapes shapeType payload n (scaleOf scale) with
  | .error e => .error e
  | .ok raw =>
    if 1 < n ∧ (minPairDist raw).any (· ≤ tolerance) then
      match shapeType.custom with
      | some name =>
        .error (.plain (name ++ " formation produced degenerate geometry (points collapsed)."))
      | none => .ok (shapes.circle n (scaleOf scale))
    else .ok raw

def maxReach (pts : List (Point K)) : K := pts.foldl (fun m p => max m (hypot2 p.x p.y)) 0

/-- How far a span is shifted so that it ends half a metre inside the site. -/
def shiftFor (lo hi : K) : K :=
  if siteRadiusM - 1 / 2 < hi then siteRadiusM - 1 / 2 - hi
  else if lo < -(siteRadiusM - 1 / 2) then -(siteRadiusM - 1 / 2) - lo else 0

/-- Shifted towards the origin, if it fits the site so. -/
def shiftedToSite (pts : List (Point K)) : List (Point K) :=
  let minX := least (pts.map Point.x)
  let maxX := greatest (pts.map Point.x)
  let minY := least (pts.map Point.y)
  let maxY := greatest (pts.map Point.y)
  if maxX - minX ≤ 2 * (siteRadiusM - 1 / 2) ∧ maxY - minY ≤ 2 * (siteRadiusM - 1 / 2) then
    pts.map fun p => { p with x := p.x + shiftFor minX maxX, y := p.y + shiftFor minY maxY }
  else pts

/-- Scaled about the origin, if that leaves the pairs far enough apart. -/
def fitToSite (pts : List (Point K)) : Except (ShowError K) (List (Point K)) :=
  if siteRadiusM + tolerance < maxReach pts then
    let shifted := shiftedToSite pts
    if siteRadiusM + tolerance < maxReach shifted then
      let k := (siteRadiusM - 1 / 2) / maxReach shifted
      let spacing := (minPairDist shifted).map (· * k)
      if below spacing (minSeparationM - tolerance) then .error (.refusal (.siteSpacing spacing))
      else .ok (shifted.map fun p => { p with x := p.x * k, y := p.y * k })
    else .ok shifted
  else .ok pts

def checkFormation (current : List (Point K)) : Except (ShowError K) (List (Point K)) :=
  if maxAltitudeM + tolerance < greatest (current.map fun p => -p.z) then
    .error (.refusal (.altitude (greatest (current.map fun p => -p.z))))
  else if below (minPairDist current) (minSeparationM - tolerance) then
    .error (.refusal (.spacing (minPairDist current)))
  else .ok current

def placedFormation (shapeType : ShapeType) (raw : List (Point K)) (n : ℕ) : List (Point K) :=
  if shapeType = .exactPoints then raw else place raw n

def buildFormation (shapes : Shapes K) (shapeType : ShapeType) (payload : shapes.Payload) (n : ℕ)
    (scale : Option K) : Except (ShowError K) (List (Point K)) :=
  if n < 1 then .ok []
  else
    match rawFormation shapes shapeType payload n scale with
    | .error e => .error e
    | .ok raw =>
      let placed := placedFormation shapeType raw n
      if shapeType = .exactPoints ∧ siteRadiusM + tolerance < maxReach placed then
        .error (.refusal (.exactReach (maxReach placed)))
      else
        match fitToSite placed with
        | .error e => .error e
        | .ok current => checkFormation current

end Spacing

end Taramandal.Studio.Formations
