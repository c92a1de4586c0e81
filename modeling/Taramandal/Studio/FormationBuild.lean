import Taramandal.Studio.Lettering
import Taramandal.Studio.SvgFormation

/-! # Building a formation (`formations.js`)

What a formation is made of can be any value, and what a value lists need not be numbers. Nothing
on the way asks for the number of points or for whether they are numbers: the generators have
a point for each drone, and the last check lets numbers through only. -/
namespace Taramandal.Studio.FormationBuild

open Core.Numbers Core.Floats Core.ScriptFloats Studio.Layout Studio.Clouds
open Studio.Generators Studio.Lettering Studio.SvgFormation
open Studio.Formations (ShapeType ShowError Refusal siteRadiusM minSeparationM
  maxAltitudeM tolerance scaleOf)
open Studio.Sequencer (inherited)

/-! ## Values -/

/-- A value of a script. -/
inductive Value (K : Type) where
  | undefined
  | null
  | bool (b : Bool)
  | num (x : Double K)
  | str (s : String)
  | arr (items : List (Value K))
  | obj (entries : List (String × Value K))

/-- What the language makes of a text and of a value that is no text, and what it says where an
expression is not one of the kind that is needed. -/
structure Host (K : Type) where
  textNumber : String → Double K
  numberText : Double K → String
  objectText : Value K → String
  jsonParse : String → Except String (Value K)
  typeError : String → String

def ofRefusal {K : Type} : Refusal K → Refusal (Double K)
  | .exactReach reach => .exactReach (.finite reach)
  | .siteSpacing spacing => .siteSpacing (spacing.map .finite)
  | .altitude highest => .altitude (.finite highest)
  | .spacing least => .spacing (least.map .finite)
  | .shape text => .shape text
  | .endpointSpacing label least => .endpointSpacing label (least.map .finite)
  | .verticalSwap label => .verticalSwap label
  | .layerCeiling label => .layerCeiling label
  | .layeredLeg label least => .layeredLeg label (least.map .finite)

def ofShowError {K : Type} : ShowError K → ShowError (Double K)
  | .refusal reason => .refusal (ofRefusal reason)
  | .plain text => .plain text

variable {K : Type} [Field K] [LinearOrder K]

abbrev Result (K α : Type) := Except (ShowError (Double K)) α

namespace Value

variable (host : Host K)

def text : Value K → String
  | .undefined => "undefined"
  | .null => "null"
  | .bool b => toString b
  | .num x => host.numberText x
  | .str s => s
  | v => host.objectText v

/-- `Number(v)`. -/
def toNumber : Value K → Double K
  | .undefined => .nan
  | .null => .finite 0
  | .bool b => .finite (if b then 1 else 0)
  | .num x => x
  | .str s => host.textNumber s
  | v => host.textNumber (host.objectText v)

def truthy : Value K → Bool
  | .undefined | .null | .num .nan => false
  | .bool b => b
  | .num (.finite x) => x ≠ 0
  | .str s => s ≠ ""
  | _ => true

/-- `v ?? d`. -/
def orElse (d : Value K) : Value K → Value K
  | .undefined | .null => d
  | v => v

/-- `v[k]`, of a name that is not inherited. -/
def member (k : String) : Value K → Result K (Value K)
  | .undefined | .null => .error (.plain (host.typeError k))
  | .obj entries => .ok ((entries.lookup k).getD .undefined)
  | _ => .ok .undefined

def length : Value K → Value K
  | .arr items => .num (.finite items.length)
  | .str s => .num (.finite (scriptUnits s).length)
  | .obj entries => (entries.lookup "length").getD .undefined
  | _ => .undefined

def number? : Value K → Option K
  | .num x => x.value
  | _ => none

def text? : Value K → Option String
  | .str s => some s
  | _ => none

end Value

section

variable (host : Host K)

/-- A point of `exact_points`. -/
def exactPoint (q : Value K) : Result K (Point (Double K)) := do
  let x ← q.member host "x"
  let y ← q.member host "y"
  let z ← q.member host "z"
  return ⟨x.toNumber host, (y.orElse (.num (.finite 0))).toNumber host, z.toNumber host⟩

def parsePointsPayload (payload : Value K) (n : ℕ) : Result K (Cloud K) :=
  match host.jsonParse (payload.text host) with
  | .error message =>
    .error (.plain ("points formation payload is not valid JSON: " ++ message))
  | .ok (.arr list) =>
    if list.length ≠ n then
      .error (.plain ("points formation has " ++ toString list.length ++
        " points for a fleet of " ++ toString n))
    else list.mapM (exactPoint host)
  | .ok _ =>
    .error (.plain "points formation payload must be a JSON array of \x7bx, y, z\x7d")

def heightOf (s : K) : Value K → Double K
  | .undefined => .finite (-showAlt)
  | .num (.finite z) => if z = 0 then .finite (-showAlt) else .finite z * .finite s
  | v => v.toNumber host * .finite s

/-- A point of `points`, at a scale. -/
def sourcePoint (s : K) (src : Value K) : Result K (Point (Double K)) := do
  let x ← src.member host "x"
  let y ← src.member host "y"
  let z ← src.member host "z"
  return {
    x := (x.orElse (.num (.finite 0))).toNumber host * .finite s
    y := (y.orElse (.num (.finite 0))).toNumber host * .finite s
    z := heightOf host s z }

/-- `pts`. -/
def pointsOf (payload : Value K) : Result K (Value K) :=
  match payload with
  | .arr items => .ok (.arr items)
  | .undefined | .null => .ok (.arr [])
  | v => (v.member host "points").map fun pts => if pts.truthy then pts else .arr []

def fromPoints (payload : Value K) (n : ℕ) (s : K) : Result K (Cloud K) :=
  (pointsOf host payload).bind fun pts =>
    if !pts.length.truthy then .error (.plain "Points formation payload is empty.")
    else if (pts.length.toNumber host).lt (.finite n) then
      .error (.plain ("Points formation has only " ++ pts.length.text host ++
        " points, but fleet needs " ++ toString n ++ "."))
    else
      match pts with
      | .arr items => (items.take n).mapM (sourcePoint host s)
      | _ => .error (.plain (host.typeError "pts.slice(0, n).map"))

end

section

variable [FloorRing K] [Sqrt K] [Trig K] (host : Host K)

section

variable (payload : Value K) (n : ℕ) (s : K)

def textPoints : Result K (Cloud K) :=
  match payload with
  | .str text => .ok (fmtText n (.finite s) text)
  | v =>
    if v.truthy then .error (.plain (host.typeError "chars.split"))
    else .ok (fmtText n (.finite s) "")

/-- Any other name is a circle; an inherited member is no generator. -/
def parametricPoints : Result K (Cloud K) :=
  let name := payload.text host
  if name ∈ inherited then .error (.plain (host.typeError "gen"))
  else
    match PARAMETRIC name with
    | some .sphere => .ok (fmtSphere n (.finite s))
    | some shape => .ok (stackIfOversized shape.generate n (.finite s))
    | none => .ok (stackIfOversized fmtCircle n (.finite s))

def svgPoints : Result K (Cloud K) :=
  match svgToFormation payload.text? n (s * 15) showAlt .XY with
  | .error e => .error (ofShowError e)
  | .ok pts => .ok (pts.map ofNumbers)

end

def shapePoints (shapeType : ShapeType) (payload : Value K) (n : ℕ) (s : K) : Result K (Cloud K) :=
  match shapeType with
  | .exactPoints => parsePointsPayload host payload n
  | .text => textPoints host payload n s
  | .svg => svgPoints payload n s
  | .points => fromPoints host payload n s
  | .parametric => parametricPoints host payload n s

def rawFormation (shapeType : ShapeType) (payload : Value K) (n : ℕ) (scale : Value K) :
    Result K (Cloud K) :=
  let s := scaleOf scale.number?
  (shapePoints host shapeType payload n s).bind fun raw =>
    if 1 < n ∧ ¬ (Double.finite tolerance).lt (minPairDist raw) then
      match shapeType.custom with
      | some name =>
        .error (.plain (name ++ " formation produced degenerate geometry (points collapsed)."))
      | none => .ok (fmtCircle n (.finite s))
    else .ok raw

end

section

variable [Sqrt K]

def tooFar (pts : Cloud K) : Bool := (Double.finite (siteRadiusM + tolerance)).lt (maxReach pts)

/-- How far a span is shifted so that it ends half a metre inside the site. -/
def shiftFor (lo hi : Double K) : Double K :=
  if (Double.finite (295 / 10)).lt hi then .finite (295 / 10) - hi
  else if lo.lt (.finite (-(295 / 10))) then .finite (-(295 / 10)) - lo else .finite 0

/-- Shifted towards the origin, if it fits the site so. -/
def shiftedToSite (pts : Cloud K) : Cloud K :=
  let maxX := mathMax (pts.map Point.x)
  let minX := mathMin (pts.map Point.x)
  let maxY := mathMax (pts.map Point.y)
  let minY := mathMin (pts.map Point.y)
  let diameter := Double.finite (2 * (siteRadiusM - 1 / 2) : K)
  if (maxX - minX).le diameter ∧ (maxY - minY).le diameter then
    pts.map fun p => { p with x := p.x + shiftFor minX maxX, y := p.y + shiftFor minY maxY }
  else pts

def shrunkBy (k : Double K) (pts : Cloud K) : Cloud K :=
  pts.map fun p => { p with x := p.x * k, y := p.y * k }

/-- Scaled about the origin, if that leaves the pairs far enough apart. -/
def shrunkToSite (pts : Cloud K) : Result K (Cloud K) :=
  let k := .finite (siteRadiusM - 1 / 2) / maxReach pts
  if (minPairDist pts * k).lt (.finite (minSeparationM - tolerance)) then
    .error (.refusal (.siteSpacing (some (minPairDist pts * k))))
  else .ok (shrunkBy k pts)

def fitToSite (pts : Cloud K) : Result K (Cloud K) :=
  if tooFar pts then
    if tooFar (shiftedToSite pts) then shrunkToSite (shiftedToSite pts)
    else .ok (shiftedToSite pts)
  else .ok pts

/-- `Number.isFinite`, of each coordinate. -/
def areNumbers (p : Point (Double K)) : Bool := isNumber p.x && isNumber p.y && isNumber p.z

def checkFormation (host : Host K) (payload : Value K) (current : Cloud K) : Result K (Cloud K) :=
  let maxAlt := mathMax (current.map fun p => -p.z)
  if (Double.finite (maxAltitudeM + tolerance)).lt maxAlt then .error (.refusal (.altitude maxAlt))
  else if (minPairDist current).lt (.finite (minSeparationM - tolerance)) then
    .error (.refusal (.spacing (some (minPairDist current))))
  else if current.all areNumbers then .ok current
  else .error (.plain ("Formation \"" ++ payload.text host ++
    "\" produced non-finite coordinates."))

end

section

variable [FloorRing K] [Sqrt K] [Trig K] (host : Host K)

def placedFormation (shapeType : ShapeType) (raw : Cloud K) (n : ℕ) : Cloud K :=
  if shapeType = .exactPoints then raw else place raw n

def buildFormation (shapeType : ShapeType) (payload : Value K) (n : ℕ) (scale : Value K) :
    Result K (Cloud K) :=
  if n < 1 then .ok []
  else
    (rawFormation host shapeType payload n scale).bind fun raw =>
      let placed := placedFormation shapeType raw n
      if shapeType = .exactPoints ∧ tooFar placed then
        .error (.refusal (.exactReach (maxReach placed)))
      else (fitToSite placed).bind (checkFormation host payload)

end

end Taramandal.Studio.FormationBuild
