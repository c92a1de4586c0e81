import Taramandal.Studio.PathData

/-! # The text of a drawing (`sanitizeSvg`)

What is read from the text of a drawing is read by patterns; numbers are exact, and an infinite
one counts as none. -/
namespace Taramandal.Studio.SvgText

open Core.Text (signed)
open Studio.PathData (exponentPart isSeparator valueOf)
open Studio.VaultClient (isJsSpace)

/-! ## Blanks, lists, numbers -/

/-- `text.trim()`. -/
def trim (cs : List Char) : List Char :=
  ((cs.dropWhile isJsSpace).reverse.dropWhile isJsSpace).reverse

/-- `text.trimEnd()`. -/
def trimEnd (cs : List Char) : List Char := (cs.reverse.dropWhile isJsSpace).reverse

/-- `text.toLowerCase()`, of the letters that a pattern may ask for. -/
def toLowerCase (cs : List Char) : List Char := cs.map Char.toLower

/-- `text.split(/[\s,]+/)`; whether the character before was a separator. -/
def splitRuns : Bool → List Char → List (List Char)
  | _, [] => [[]]
  | inRun, c :: cs =>
    if isSeparator c then (if inRun then splitRuns true cs else [] :: splitRuns true cs)
    else (splitRuns false cs).modifyHead (c :: ·)

variable {K : Type} [Field K]

def digitParts (cs : List Char) : Option ((List Char × List Char) × List Char) :=
  let (whole, rest) := cs.span Char.isDigit
  match rest with
  | '.' :: rest =>
    let (frac, rest) := rest.span Char.isDigit
    if whole = [] ∧ frac = [] then none else some ((whole, frac), rest)
  | rest => if whole = [] then none else some ((whole, []), rest)

/-- A decimal numeral at the start of the text, and what is behind it. -/
def decimal? (cs : List Char) : Option (K × List Char) :=
  let (neg, rest) := signed cs
  match digitParts rest with
  | none => none
  | some ((whole, frac), rest) =>
    let (e, rest) := (exponentPart rest).getD (0, rest)
    some (valueOf neg whole frac e, rest)

/-- `parseFloat(text)`. -/
def parseFloat (cs : List Char) : Option K := (decimal? (cs.dropWhile isJsSpace)).map Prod.fst

def digitOf (c : Char) : ℕ :=
  if c.isDigit then c.toNat - '0'.toNat
  else if c.isAlpha then c.toLower.toNat - 'a'.toNat + 10
  else 36

def digitsOf (base : ℕ) (ds : List Char) : Option ℕ :=
  if ds ≠ [] ∧ ds.all fun c => digitOf c < base then
    some (ds.foldl (fun n c => base * n + digitOf c) 0)
  else none

/-- `0x`, `0o` and `0b`. -/
def baseOf (c : Char) : Option ℕ :=
  match c.toLower with
  | 'x' => some 16
  | 'o' => some 8
  | 'b' => some 2
  | _ => none

/-- `Number(text)`. -/
def number (text : List Char) : Option K :=
  match trim text with
  | [] => some 0
  | cs =>
    match cs.head?, cs[1]?.bind baseOf with
    | some '0', some base => (digitsOf base (cs.drop 2)).map Nat.cast
    | _, _ =>
      match decimal? cs with
      | some (v, []) => some v
      | _ => none

/-- A pattern that is only tested for; letters count in either case. -/
inductive Pattern where
  | nothing
  | one (p : Char → Bool)
  | many (p : Char → Bool)
  | edge
  | notBehind (p : Char → Bool)
  | both (a b : Pattern)
  | either (a b : Pattern)

/-- `\w`. -/
def isWordChar (c : Char) : Bool := c.isAlphanum || c = '_'

/-- Whether a word begins or ends between two characters. -/
def isEdge (behind next : Option Char) : Bool := behind.any isWordChar != next.any isWordChar

def manyRests (p : Char → Bool) : Option Char → List Char → List (Option Char × List Char)
  | behind, [] => [(behind, [])]
  | behind, c :: cs => (if p c then manyRests p (some c) cs else []) ++ [(behind, c :: cs)]

def Pattern.rests : Pattern → Option Char → List Char → List (Option Char × List Char)
  | .nothing, behind, cs => [(behind, cs)]
  | .one _, _, [] => []
  | .one p, _, c :: cs => if p c then [(some c, cs)] else []
  | .many p, behind, cs => manyRests p behind cs
  | .edge, behind, cs => if isEdge behind cs.head? then [(behind, cs)] else []
  | .notBehind p, behind, cs => if behind.any p then [] else [(behind, cs)]
  | .both a b, behind, cs => (a.rests behind cs).flatMap fun r => b.rests r.1 r.2
  | .either a b, behind, cs => a.rests behind cs ++ b.rests behind cs

def Pattern.test (p : Pattern) : Option Char → List Char → Bool
  | behind, [] => !(p.rests behind []).isEmpty
  | behind, c :: cs => !(p.rests behind (c :: cs)).isEmpty || p.test (some c) cs

def sameLetter (a b : Char) : Bool := a.toLower = b.toLower

def literal (word : String) : Pattern :=
  word.toList.foldr (fun a rest => .both (.one (sameLetter a)) rest) .nothing

def blanks : Pattern := .many isJsSpace

/-- `a`, then `b`, and so on. -/
def inOrder (ps : List Pattern) : Pattern := ps.foldr .both .nothing

def MAX_SVG_BYTES : ℕ := 500000

def isQuote (c : Char) : Bool := c = '\'' || c = '"'

/-- `FORBIDDEN_PATTERNS`, each with its text. -/
def FORBIDDEN_PATTERNS : List (Pattern × String) :=
  [(literal "<script", "/<script/i"),
    (literal "<foreignobject", "/<foreignobject/i"),
    (literal "<use", "/<use/i"),
    (literal "<iframe", "/<iframe/i"),
    (literal "<embed", "/<embed/i"),
    (literal "<image", "/<image/i"),
    (literal "<!DOCTYPE", "/<!DOCTYPE/i"),
    (literal "xlink:href", "/xlink:href/i"),
    (inOrder [literal "href", blanks, literal "=", blanks, .one isQuote,
      .either (literal "http") (.either (literal "data") (literal "javascript"))],
      "/href\\s*=\\s*['\"](http|data|javascript)/i"),
    (inOrder [.edge, literal "on", .one isWordChar, .many isWordChar, blanks, literal "="],
      "/\\bon\\w+\\s*=/i"),
    (literal "<!ENTITY", "/<!ENTITY/i"),
    (literal "SYSTEM", "/SYSTEM/i")]

/-- `svgText.length`. -/
def unitLength (text : List Char) : ℕ := (text.map fun c => if c.toNat < 65536 then 1 else 2).sum

def sanitizeSvg (svgText : List Char) : Except String (List Char) :=
  if svgText.all isJsSpace then .error "SVG content must not be empty."
  else if MAX_SVG_BYTES < unitLength svgText then
    .error ("SVG exceeds maximum size limit of " ++ toString MAX_SVG_BYTES ++ " bytes.")
  else
    match FORBIDDEN_PATTERNS.find? fun p => p.1.test none svgText with
    | some p => .error ("Unsafe SVG content rejected: matches forbidden pattern " ++ p.2 ++ ".")
    | none => .ok svgText

end Taramandal.Studio.SvgText
