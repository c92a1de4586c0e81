import Taramandal.Studio.PathGrammar
import Taramandal.Studio.SvgTransforms

/-! # The walk over the elements (`parseSvgToContours`)

The tags of a drawing are gone through in a row. What is open is kept as the matrices of the
groups, and as a count of the elements that are open inside of one that is not drawn. -/
namespace Taramandal.Studio.SvgWalk

open Core.ScriptNumbers Lib.Scan Studio.Contours Studio.Layout Studio.SvgText Studio.SvgTransforms
open Studio.PathGrammar (pathContours)
open Studio.VaultClient (isJsSpace)

/-- `[a-zA-Z0-9:-]`. -/
def isNameChar (c : Char) : Bool := c.isAlphanum || c = ':' || c = '-'

/-- What stands up to a character, and what is behind it. -/
def upTo (close : Char) (cs : List Char) : Option (List Char × List Char) :=
  let (value, rest) := cs.span (· ≠ close)
  if rest = [] then none else some (value, rest.tail)

/-- `[^\s>]+`. -/
def bareValue (cs : List Char) : Option (List Char × List Char) :=
  let (value, rest) := cs.span fun c => !isJsSpace c && c ≠ '>'
  if value = [] then none else some (value, rest)

def attributeValue (cs : List Char) : Option (List Char × List Char) :=
  match cs with
  | '\'' :: rest => (upTo '\'' rest).orElse fun _ => bareValue cs
  | '"' :: rest => (upTo '"' rest).orElse fun _ => bareValue cs
  | _ => bareValue cs

def attributeAt (cs : List Char) : Option ((List Char × List Char) × List Char) :=
  let (name, rest) := cs.span isNameChar
  if name = [] then none
  else
    match rest.dropWhile isJsSpace with
    | '=' :: rest =>
      (attributeValue (rest.dropWhile isJsSpace)).map fun (value, rest) =>
        ((toLowerCase name, value), rest)
    | _ => none

/-- `attrs`, in the order of the text. -/
abbrev Attributes := List (List Char × List Char)

def parseAttributes (attrStr : List Char) : Attributes := found attributeAt attrStr

/-- `attrs[key]`: the last of that name. -/
def Attributes.get (attrs : Attributes) (key : String) : Option (List Char) :=
  (attrs.filter (·.1 = key.toList)).getLast?.map Prod.snd

/-- `prop\s*:\s*value\b`. -/
def declares (prop : String) (value : Pattern) : Pattern :=
  inOrder [literal prop, blanks, literal ":", blanks, value, .edge]

/-- `0(?:\.0+)?`. -/
def zeroText : Pattern :=
  .both (literal "0")
    (.either (inOrder [literal ".", literal "0", .many (· = '0')]) .nothing)

def isHiddenAttrs (attrs : Attributes) : Bool :=
  (attrs.get "display").any (fun v => toLowerCase (trim v) = "none".toList) ||
  (attrs.get "visibility").any (fun v => toLowerCase (trim v) = "hidden".toList) ||
  (attrs.get "opacity").any (fun v => number v = some (0 : ℚ)) ||
  (attrs.get "style").any fun style =>
    (declares "display" (literal "none")).test none (toLowerCase style) ||
    (declares "visibility" (literal "hidden")).test none (toLowerCase style) ||
    (Pattern.both (.notBehind fun c => isWordChar c || c = '-')
      (declares "opacity" zeroText)).test none (toLowerCase style)

/-! ## The viewport -/

structure ViewBox (K : Type) where
  minX : K
  minY : K
  width : K
  height : K
  deriving DecidableEq

/-- `viewBox=['"]([^'"]+)['"]`. -/
def viewBoxValue (cs : List Char) : Option (List Char × List Char) :=
  match behindWord "viewBox=".toList cs with
  | some (q :: cs) =>
    let (value, rest) := cs.span (!isQuote ·)
    if isQuote q ∧ value ≠ [] ∧ rest ≠ [] then some (value, rest.tail) else none
  | _ => none

def lastViewBox : Char → List Char → Option (List Char × List Char)
  | _, [] => none
  | behind, c :: cs =>
    if c = '>' then none
    else
      (lastViewBox c cs).orElse fun _ =>
        if isEdge (some behind) (some c) then viewBoxValue (c :: cs) else none

def viewBoxAt (cs : List Char) : Option (List Char × List Char) :=
  (behindWord "<svg".toList cs).bind (lastViewBox 'g')

variable {K : Type} [Field K] [LinearOrder K] [FloorRing K]

def validateViewBox (svgText : List Char) : Except String (Option (ViewBox K)) :=
  match (found viewBoxAt svgText).head? with
  | none => .ok none
  | some value =>
    match (splitRuns false (trim value)).mapM (number : List Char → Option K) with
    | some [minX, minY, width, height] =>
      if width ≤ 0 ∨ height ≤ 0 then
        .error ("Invalid SVG viewBox: width (" ++ numberText width ++ ") and height (" ++
          numberText height ++ ") must be positive.")
      else .ok (some ⟨minX, minY, width, height⟩)
    | _ =>
      .error ("Malformed SVG viewBox: '" ++ String.ofList value ++ "'. Expected 4 numeric values.")

/-- `<svg\b([^>]*)>`. -/
def svgOpenAt (cs : List Char) : Option (List Char × List Char) :=
  (behindWord "<svg".toList cs).bind fun rest =>
    if isEdge (some 'g') rest.head? then upTo '>' rest else none

structure Viewport (K : Type) where
  vb : Option (ViewBox K)
  svgW : Option K
  svgH : Option K
  preserveAspectRatio : List Char

/-- A side in whole or broken units, if it is positive. -/
def sideOf (v : Option (List Char)) : Option K :=
  (v.bind (parseFloat : List Char → Option K)).filter fun w => (0 : K) < w

def preserveAspectRatioOf (attrs : Attributes) : List Char :=
  match attrs.get "preserveaspectratio" with
  | some (c :: cs) => toLowerCase (trim (c :: cs))
  | _ => "xmidymid meet".toList

def readViewport (vb : Option (ViewBox K)) (clean : List Char) : Except String (Viewport K) :=
  let svgAttrs := ((found svgOpenAt clean).head?.map parseAttributes).getD []
  let preserveAspectRatio := preserveAspectRatioOf svgAttrs
  if (literal "slice").test none preserveAspectRatio then
    .error "Unsupported SVG preserveAspectRatio: 'slice' is not supported."
  else if preserveAspectRatio ≠ "none".toList ∧
      ¬ "xmidymid".toList.isPrefixOf preserveAspectRatio then
    .error ("Unsupported SVG preserveAspectRatio: '" ++ String.ofList preserveAspectRatio ++ "'.")
  else
    .ok ⟨vb, sideOf (svgAttrs.get "width"), sideOf (svgAttrs.get "height"), preserveAspectRatio⟩

def mapCoordinate (v : Viewport K) (pt : PlanePoint K) : PlanePoint K :=
  match v.vb with
  | none => pt
  | some vb =>
    match v.svgW, v.svgH with
    | some svgW, some svgH =>
      if v.preserveAspectRatio = "none".toList then
        ⟨(pt.x - vb.minX) * (svgW / vb.width), (pt.y - vb.minY) * (svgH / vb.height)⟩
      else
        let scale := min (svgW / vb.width) (svgH / vb.height)
        ⟨(svgW - vb.width * scale) / 2 + (pt.x - vb.minX) * scale,
          (svgH - vb.height * scale) / 2 + (pt.y - vb.minY) * scale⟩
    | _, _ => ⟨pt.x - vb.minX, pt.y - vb.minY⟩

def behindClose : List Char → Option (List Char)
  | [] => none
  | c :: cs => if "-->".toList.isPrefixOf (c :: cs) then some ((c :: cs).drop 3) else behindClose cs

def commentAt (cs : List Char) : Option (Unit × List Char) :=
  if "<!--".toList.isPrefixOf cs then (behindClose (cs.drop 4)).map ((), ·) else none

structure RawTag where
  isClosing : Bool
  tagName : List Char
  attrsStr : List Char

/-- A name and what belongs to it, up to the end of the tag. -/
def tagBody (isClosing : Bool) (cs : List Char) : Option (RawTag × List Char) :=
  let (name, rest) := cs.span isNameChar
  if name = [] then none
  else (upTo '>' rest).map fun (attrs, rest) => (⟨isClosing, toLowerCase name, attrs⟩, rest)

/-- `tagRegex`, at the start of the text. -/
def tagAt (cs : List Char) : Option (RawTag × List Char) :=
  match cs with
  | '<' :: '/' :: cs => tagBody true cs
  | '<' :: cs => tagBody false cs
  | _ => none

def tagsOf (clean : List Char) : List RawTag := found tagAt (without commentAt clean)

def RawTag.isSelfClosing (t : RawTag) : Bool := (trimEnd t.attrsStr).getLast? = some '/'

def RawTag.attrs (t : RawTag) : Attributes :=
  parseAttributes (if t.isSelfClosing then (trimEnd t.attrsStr).dropLast else t.attrsStr)

/-! ## Elements -/

def SUPPORTED_DRAWABLE : List (List Char) := ["path", "polygon", "polyline"].map String.toList

def UNSUPPORTED_GEOMETRY : List (List Char) :=
  ["rect", "circle", "ellipse", "line", "text", "mesh"].map String.toList

def STRUCTURAL : List (List Char) :=
  ["svg", "g", "title", "desc", "metadata"].map String.toList

/-- `points`, two by two. -/
def pairUp : List K → List (PlanePoint K)
  | x :: y :: rest => ⟨x, y⟩ :: pairUp rest
  | _ => []

def pointsContour (points : List Char) : Except String (List (PlanePoint K)) :=
  match (splitRuns false (trim points)).mapM (number : List Char → Option K) with
  | none => .error "Malformed SVG polygon/polyline points data."
  | some nums =>
    if nums.length < 4 ∨ nums.length % 2 ≠ 0 then
      .error "Malformed SVG polygon/polyline points data."
    else .ok (pairUp nums)

def shapeOf (tagName : List Char) (attrs : Attributes) :
    Except String (List (List (PlanePoint K))) :=
  if tagName = "path".toList then
    let d := (attrs.get "d").getD []
    if d.all isJsSpace then .ok []
    else (pathContours d).map fun sub => sub.filter fun pts => 2 ≤ pts.length
  else if tagName = "polygon".toList ∨ tagName = "polyline".toList then
    let points := (attrs.get "points").getD []
    if points.all isJsSpace then .ok []
    else (pointsContour points).map fun pts => if 2 ≤ pts.length then [pts] else []
  else .ok []

/-- Where the walk is. -/
structure Walk (K : Type) where
  base : Matrix K
  pushed : List (Matrix K)
  suppressDepth : ℕ
  sawRootSvg : Bool
  contours : List (List (PlanePoint K))

def Walk.start : Walk K := ⟨IDENTITY_MATRIX, [], 0, false, []⟩

def Walk.currentMatrix (w : Walk K) : Matrix K := w.pushed.head?.getD w.base

def Walk.close (w : Walk K) (tagName : List Char) : Except String (Walk K) :=
  if tagName = "g".toList ∨ tagName = "svg".toList then
    if w.pushed ≠ [] then .ok { w with pushed := w.pushed.tail }
    else if tagName = "g".toList then .error "Malformed SVG: mismatched closing </g> tag."
    else .ok w
  else .ok w

variable [Trig K]

section

variable (v : Viewport K) (w : Walk K)

def Walk.enter (tagName : List Char) (isSelfClosing : Bool)
    (attrs : Attributes) : Except String (Walk K) :=
  (parseTransform ((attrs.get "transform").getD [])).bind fun elemMatrix =>
    if tagName = "g".toList then
      .ok (if isSelfClosing then w
        else { w with pushed := multiplyMatrices w.currentMatrix elemMatrix :: w.pushed })
    else if tagName = "svg".toList then .ok { w with base := multiplyMatrices w.base elemMatrix }
    else
      (shapeOf tagName attrs).map fun sub =>
        { w with
          contours := w.contours ++ sub.map fun pts => pts.map fun p =>
            mapCoordinate v (applyMatrix (multiplyMatrices w.currentMatrix elemMatrix) p) }

def Walk.open (t : RawTag) : Except String (Walk K) :=
  let tagName := t.tagName
  let attrs := t.attrs
  if tagName = "svg".toList ∧ w.sawRootSvg then .error "Nested <svg> elements are not supported."
  else
    let w := if tagName = "svg".toList then { w with sawRootSvg := true } else w
    if tagName = "defs".toList ∨ isHiddenAttrs attrs then
      .ok (if t.isSelfClosing then w else { w with suppressDepth := 1 })
    else if UNSUPPORTED_GEOMETRY.contains tagName then
      .error ("Unsupported SVG element '<" ++ String.ofList tagName ++ ">'. Supported drawable " ++
        "elements are <path>, <polygon>, and <polyline>.")
    else if !SUPPORTED_DRAWABLE.contains tagName && !STRUCTURAL.contains tagName then
      .error ("Unsupported SVG element '<" ++ String.ofList tagName ++ ">'.")
    else w.enter v tagName t.isSelfClosing attrs

def Walk.step (t : RawTag) : Except String (Walk K) :=
  if 0 < w.suppressDepth then
    .ok { w with
      suppressDepth :=
        if t.isClosing then w.suppressDepth - 1
        else if t.isSelfClosing then w.suppressDepth
        else w.suppressDepth + 1 }
  else if t.isClosing then w.close t.tagName
  else w.open v t

def walk (tags : List RawTag) : Except String (Walk K) :=
  tags.foldlM (Walk.step v) w

end

/-- The contours, with the view box that is kept with them. -/
structure SvgContours (K : Type) where
  contours : List (List (PlanePoint K))
  viewBox : Option (ViewBox K)
  deriving DecidableEq

def nothingDrawn : String := "SVG contains no valid drawable paths or polygons."

def rawPath (clean : List Char) : Except String (SvgContours K) :=
  (pathContours (trim clean)).bind fun sub =>
    let contours := sub.filter fun pts => 2 ≤ pts.length
    if contours = [] then .error nothingDrawn else .ok ⟨contours, none⟩

def parseSvgToContours (svgText : List Char) : Except String (SvgContours K) := do
  let clean ← sanitizeSvg svgText
  let vb ← validateViewBox clean
  if (trim clean).head? = some 'M' ∨ (trim clean).head? = some 'm' then rawPath clean
  else
    let v ← readViewport vb clean
    let w ← walk v .start (tagsOf clean)
    if w.contours = [] then .error nothingDrawn else .ok ⟨w.contours, vb⟩

end Taramandal.Studio.SvgWalk
