import Taramandal.Lib.Scan
import Taramandal.Studio.SvgText

/-! # Transforms of a drawing (`parseTransform`)

A list of transforms is one matrix, the product of theirs in order. -/
namespace Taramandal.Studio.SvgTransforms

open Lib.Scan Studio.Contours Studio.Layout Studio.SvgText
open Studio.PathData (isSeparator)
open Studio.VaultClient (isJsSpace)

variable {K : Type} [Field K]

/-- `[m0, …, m5]`. -/
structure Matrix (K : Type) where
  m0 : K
  m1 : K
  m2 : K
  m3 : K
  m4 : K
  m5 : K

def IDENTITY_MATRIX : Matrix K := ⟨1, 0, 0, 1, 0, 0⟩

def applyMatrix (m : Matrix K) (pt : PlanePoint K) : PlanePoint K where
  x := m.m0 * pt.x + m.m2 * pt.y + m.m4
  y := m.m1 * pt.x + m.m3 * pt.y + m.m5

def multiplyMatrices (m1 m2 : Matrix K) : Matrix K where
  m0 := m1.m0 * m2.m0 + m1.m2 * m2.m1
  m1 := m1.m1 * m2.m0 + m1.m3 * m2.m1
  m2 := m1.m0 * m2.m2 + m1.m2 * m2.m3
  m3 := m1.m1 * m2.m2 + m1.m3 * m2.m3
  m4 := m1.m0 * m2.m4 + m1.m2 * m2.m5 + m1.m4
  m5 := m1.m1 * m2.m4 + m1.m3 * m2.m5 + m1.m5

@[simp] lemma applyMatrix_identity (pt : PlanePoint K) : applyMatrix IDENTITY_MATRIX pt = pt := by
  simp [applyMatrix, IDENTITY_MATRIX]

lemma applyMatrix_multiply (m1 m2 : Matrix K) (pt : PlanePoint K) :
    applyMatrix (multiplyMatrices m1 m2) pt = applyMatrix m1 (applyMatrix m2 pt) := by
  simp only [applyMatrix, multiplyMatrices, PlanePoint.mk.injEq]
  constructor <;> ring

@[simp] lemma identity_multiply (m : Matrix K) : multiplyMatrices IDENTITY_MATRIX m = m := by
  simp [multiplyMatrices, IDENTITY_MATRIX]

/-! ## One transform -/

inductive TransformOp where
  | translate
  | scale
  | rotate
  | matrix

def TransformOp.word : TransformOp → String
  | .translate => "translate"
  | .scale => "scale"
  | .rotate => "rotate"
  | .matrix => "matrix"

/-- A transform as it stands in the text, and what stands between its brackets. -/
structure TransformCall where
  op : TransformOp
  argsStr : List Char
  text : List Char

def behindWord : List Char → List Char → Option (List Char)
  | [], cs => some cs
  | _ :: _, [] => none
  | a :: word, c :: cs => if sameLetter a c then behindWord word cs else none

/-- `\s*\(\s*([^)]*)\s*\)`: what stands between the brackets, and what is behind them. -/
def bracketed (cs : List Char) : Option (List Char × List Char) :=
  match cs.dropWhile isJsSpace with
  | '(' :: cs =>
    let (args, rest) := (cs.dropWhile isJsSpace).span (· ≠ ')')
    if rest = [] then none else some (args, rest.tail)
  | _ => none

def callOf (cs : List Char) (op : TransformOp) : Option (TransformCall × List Char) :=
  ((behindWord op.word.toList cs).bind bracketed).map fun (args, rest) =>
    (⟨op, args, cs.take (cs.length - rest.length)⟩, rest)

/-- `transformRegex`, at the start of the text. -/
def transformAt (cs : List Char) : Option (TransformCall × List Char) :=
  [TransformOp.translate, .scale, .rotate, .matrix].findSome? (callOf cs)

variable [Trig K]

def wrongCount (call : TransformCall) (expected : String) : String :=
  "Invalid parameter count for " ++ call.op.word ++ "() in '" ++ String.ofList call.text ++
    "'. Expected " ++ expected ++ "."

def rotation (angle : K) : Matrix K :=
  let rad := angle * Trig.pi / 180
  ⟨Trig.cos rad, Trig.sin rad, -Trig.sin rad, Trig.cos rad, 0, 0⟩

def opMatrix (call : TransformCall) (args : List K) : Except String (Matrix K) :=
  match call.op with
  | .translate =>
    match args with
    | [tx] => .ok ⟨1, 0, 0, 1, tx, 0⟩
    | [tx, ty] => .ok ⟨1, 0, 0, 1, tx, ty⟩
    | _ => .error (wrongCount call "1 or 2")
  | .scale =>
    match args with
    | [sx] => .ok ⟨sx, 0, 0, sx, 0, 0⟩
    | [sx, sy] => .ok ⟨sx, 0, 0, sy, 0, 0⟩
    | _ => .error (wrongCount call "1 or 2")
  | .rotate =>
    match args with
    | [angle] => .ok (rotation angle)
    | [angle, cx, cy] =>
      .ok (multiplyMatrices (multiplyMatrices ⟨1, 0, 0, 1, cx, cy⟩ (rotation angle))
        ⟨1, 0, 0, 1, -cx, -cy⟩)
    | _ => .error (wrongCount call "1 or 3")
  | .matrix =>
    match args with
    | [a, b, c, d, e, f] => .ok ⟨a, b, c, d, e, f⟩
    | _ => .error (wrongCount call "6 numeric values")

/-- The matrix of a transform, if its arguments are numbers. -/
def callMatrix (call : TransformCall) : Except String (Matrix K) :=
  let rawTokens := (splitRuns false (trim call.argsStr)).filter (· ≠ [])
  match rawTokens.mapM (number : List Char → Option K) with
  | some (v :: args) => opMatrix call (v :: args)
  | _ => .error ("Malformed SVG transform parameters in '" ++ String.ofList call.text ++ "'.")

/-- The loop over the matches: what stands before the next one, and the product so far. -/
def transformLoop : List Char → Matrix K → List (Piece Char TransformCall) →
    Except String (Matrix K)
  | gap, curMatrix, [] =>
    let trailing := trim gap
    if trailing ≠ [] then
      .error ("Malformed or unsupported SVG transform: '" ++ String.ofList trailing ++ "'.")
    else .ok curMatrix
  | gap, curMatrix, .skipped c :: ps => transformLoop (gap ++ [c]) curMatrix ps
  | gap, curMatrix, .matched call :: ps =>
    let between := trim gap
    if between ≠ [] ∧ between ≠ [','] then
      .error ("Malformed SVG transform: unrecognized syntax near '" ++ String.ofList between ++
        "'.")
    else
      (callMatrix call).bind fun m => transformLoop [] (multiplyMatrices curMatrix m) ps

/-- `skewX` and `skewY`. -/
def unsupported : Pattern :=
  inOrder [.either (literal "skewX") (literal "skewY"), blanks, literal "("]

/-- `parseTransform`, as its matrix. -/
def parseTransform (transformStr : List Char) : Except String (Matrix K) :=
  let str := trim transformStr
  if str = [] then .ok IDENTITY_MATRIX
  else if unsupported.test none str then
    .error ("Unsupported SVG transform: '" ++ String.ofList transformStr ++ "'. Only translate, " ++
      "scale, rotate, and matrix transforms are supported.")
  else transformLoop [] IDENTITY_MATRIX (pieces transformAt 0 str)

end Taramandal.Studio.SvgTransforms
