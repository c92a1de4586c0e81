import Taramandal.Studio.Contours
import Taramandal.Studio.VaultClient

/-! # Path data (`parsePathCommands`)

The `d` of a path is split into letters and numbers, and the commands that they spell are drawn
one after the other: a bare number repeats the command before it, but for a move, which goes on
as a line. Both loops are given fuel: what comes of them is an outcome only if it suffices. -/
namespace Taramandal.Studio.PathData

open Core.ScriptNumbers Studio.Contours
open Core.Text (signed natOf)
open Studio.VaultClient (isJsSpace)

/-! ## Tokens -/

inductive Token (K : Type) where
  | cmd (val : Char)
  | num (val : K)

/-- `[a-df-z]`, in either case. -/
def isCommandLetter (c : Char) : Bool := c.isAlpha && c != 'e' && c != 'E'

def isSeparator (c : Char) : Bool := isJsSpace c || c = ','

def digitValues (ds : List Char) : ℕ := natOf (ds.map fun c => c.toNat - '0'.toNat)

/-- `[eE][+-]?\d+`, and what is behind it. -/
def exponentPart : List Char → Option (ℤ × List Char)
  | [] => none
  | c :: cs =>
    if c = 'e' ∨ c = 'E' then
      let (neg, rest) := signed cs
      let (ds, rest) := rest.span Char.isDigit
      if ds = [] then none
      else some (if neg then -(digitValues ds : ℤ) else digitValues ds, rest)
    else none

/-- `\.\d+`, and what is behind it. -/
def fractionPart : List Char → Option (List Char × List Char)
  | [] => none
  | c :: cs =>
    if c = '.' then
      let (ds, rest) := cs.span Char.isDigit
      if ds = [] then none else some (ds, rest)
    else none

variable {K : Type} [Field K]

/-- `\d*\.\d+|\d+`, and what is behind it. -/
def mantissa (cs : List Char) : Option ((List Char × List Char) × List Char) :=
  let (whole, rest) := cs.span Char.isDigit
  match fractionPart rest with
  | some (frac, rest) => some ((whole, frac), rest)
  | none => if whole = [] then none else some ((whole, []), rest)

/-- `Number`, of the parts of a numeral. -/
def valueOf (neg : Bool) (whole frac : List Char) (e : ℤ) : K :=
  let v : K := digitValues (whole ++ frac) * 10 ^ (e - frac.length)
  if neg then -v else v

/-- A number at the start of the text, and what is behind it. -/
def number? (cs : List Char) : Option (K × List Char) :=
  let (neg, rest) := signed cs
  match mantissa rest with
  | none => none
  | some ((whole, frac), rest) =>
    let (e, rest) := (exponentPart rest).getD (0, rest)
    some (valueOf neg whole frac e, rest)

/-- The tokens of a text; the fuel is the number of characters that are looked at. -/
def tokenize : ℕ → List Char → Option (Except String (List (Token K)))
  | _, [] => some (.ok [])
  | 0, _ :: _ => none
  | fuel + 1, c :: cs =>
    if isSeparator c then tokenize fuel cs
    else if isCommandLetter c then (tokenize fuel cs).map (·.map (.cmd c :: ·))
    else
      match number? (c :: cs) with
      | some (v, rest) => (tokenize fuel rest).map (·.map (.num v :: ·))
      | none =>
        some (.error ("Malformed SVG path data: unexpected token '" ++
          String.ofList ((c :: cs).takeWhile (!isSeparator ·)) ++ "'."))

inductive PathCommand where
  | moveTo
  | lineTo
  | horizontal
  | vertical
  | cubic
  | quadratic
  | close
  deriving DecidableEq

/-- `SUPPORTED_COMMANDS`, by the letter in upper case. -/
def commandOf (cmd : Char) : Option PathCommand :=
  match cmd.toUpper with
  | 'M' => some .moveTo
  | 'L' => some .lineTo
  | 'H' => some .horizontal
  | 'V' => some .vertical
  | 'C' => some .cubic
  | 'Q' => some .quadratic
  | 'Z' => some .close
  | _ => none

def isRel (cmd : Char) : Bool := cmd == cmd.toLower

def PathCommand.contexts : PathCommand → List String
  | .moveTo => ["X", "Y"]
  | .lineTo => ["X", "Y"]
  | .horizontal => ["X"]
  | .vertical => ["Y"]
  | .cubic => ["ctrl1 X", "ctrl1 Y", "ctrl2 X", "ctrl2 Y", "end X", "end Y"]
  | .quadratic => ["ctrl X", "ctrl Y", "end X", "end Y"]
  | .close => []

/-- A command with one group of its numbers. -/
structure Step (K : Type) where
  command : PathCommand
  relative : Bool
  args : List K

/-- Where a command starts from, and where the subpath began. -/
structure Pen (K : Type) where
  x : K
  y : K
  startX : K
  startY : K

structure Drawing (K : Type) where
  pen : Pen K
  curContour : List (PlanePoint K)
  contours : List (List (PlanePoint K))

def Drawing.empty : Drawing K := ⟨⟨0, 0, 0, 0⟩, [], []⟩

/-- The contours with the current one, if it has two points. -/
def Drawing.kept (d : Drawing K) : List (List (PlanePoint K)) :=
  if 2 ≤ d.curContour.length then d.contours ++ [d.curContour] else d.contours

def Pen.to (pen : Pen K) (x y : K) : Pen K := { pen with x := x, y := y }

def Drawing.lineTo (d : Drawing K) (x y : K) : Drawing K :=
  { d with pen := d.pen.to x y, curContour := d.curContour ++ [⟨x, y⟩] }

/-- A curve in `n` steps, to where it ends. -/
def Drawing.curveTo (d : Drawing K) (n : ℕ) (curve : K → PlanePoint K) (x y : K) : Drawing K :=
  { d with
    pen := d.pen.to x y
    curContour := d.curContour ++ (List.range n).map fun s => curve ((s + 1 : ℕ) / (n : K)) }

def cubicAt (a p1 p2 b u : K) : K :=
  (1 - u) ^ 3 * a + 3 * (1 - u) ^ 2 * u * p1 + 3 * (1 - u) * u ^ 2 * p2 + u ^ 3 * b

def quadraticAt (a p b u : K) : K := (1 - u) ^ 2 * a + 2 * (1 - u) * u * p + u ^ 2 * b

/-- One step of the main loop, once its numbers have been read. -/
def Drawing.draw (d : Drawing K) (s : Step K) : Drawing K :=
  let ax (v : K) : K := if s.relative then d.pen.x + v else v
  let ay (v : K) : K := if s.relative then d.pen.y + v else v
  match s.command, s.args with
  | .moveTo, [x, y] =>
    { pen := ⟨ax x, ay y, ax x, ay y⟩, curContour := [⟨ax x, ay y⟩], contours := d.kept }
  | .lineTo, [x, y] => d.lineTo (ax x) (ay y)
  | .horizontal, [x] => d.lineTo (ax x) d.pen.y
  | .vertical, [y] => d.lineTo d.pen.x (ay y)
  | .cubic, [x1, y1, x2, y2, x, y] =>
    d.curveTo 8 (fun u => ⟨cubicAt d.pen.x (ax x1) (ax x2) (ax x) u,
      cubicAt d.pen.y (ay y1) (ay y2) (ay y) u⟩) (ax x) (ay y)
  | .quadratic, [x1, y1, x, y] =>
    d.curveTo 6 (fun u => ⟨quadraticAt d.pen.x (ax x1) (ax x) u,
      quadraticAt d.pen.y (ay y1) (ay y) u⟩) (ax x) (ay y)
  | .close, _ =>
    let start : PlanePoint K := ⟨d.pen.startX, d.pen.startY⟩
    { pen := d.pen.to start.x start.y
      contours := (d.lineTo start.x start.y).kept
      curContour := [start] }
  | _, _ => d

/-- `readNum`, for each of a command's numbers. -/
def readNums (cmd : Char) : List String → List (Token K) → Except String (List K × List (Token K))
  | [], tokens => .ok ([], tokens)
  | _ :: contexts, .num v :: tokens =>
    (readNums cmd contexts tokens).map fun r => (v :: r.1, r.2)
  | context :: _, _ =>
    .error ("Malformed SVG path data: missing coordinate for command '" ++ toString cmd ++ "' (" ++
      context ++ ").")

/-- What bare numbers go on with: after a move, with lines. -/
def following (cmd : Char) (command : PathCommand) : Char :=
  if command = .moveTo then (if isRel cmd then 'l' else 'L') else cmd

/-- A step of a command, that a letter has just named or a bare number repeats. -/
def stepOf (cmd : Char) (named : Bool) (tokens : List (Token K)) :
    Except String ((Step K × Char) × List (Token K)) :=
  match commandOf cmd with
  | none =>
    .error ("Unsupported SVG path command '" ++ toString cmd ++
      "'. Supported commands are M, L, H, V, C, Q, Z.")
  | some command =>
    if command = .close ∧ named = false then
      .error ("Malformed SVG path data: 'Z' does not take parameters and cannot be implicitly " ++
        "repeated.")
    else
      (readNums cmd command.contexts tokens).map fun r =>
        ((⟨command, isRel cmd, r.1⟩, following cmd command), r.2)

def readStep (cmd : Char) : List (Token K) → Except String ((Step K × Char) × List (Token K))
  | .cmd c :: rest => stepOf c true rest
  | tokens => stepOf cmd false tokens

/-- The main loop; the fuel is the number of its turns. -/
def parseLoop : ℕ → Char → Drawing K → List (Token K) → Option (Except String (Drawing K))
  | _, _, d, [] => some (.ok d)
  | 0, _, _, _ :: _ => none
  | fuel + 1, cmd, d, t :: rest =>
    match readStep cmd (t :: rest) with
    | .error text => some (.error text)
    | .ok ((s, cmd), rest) => parseLoop fuel cmd (d.draw s) rest

variable [LinearOrder K] [FloorRing K]

def mustStart (got : String) : String :=
  "Malformed SVG path data: path must start with MoveTo (M or m), got '" ++ got ++ "'."

def parseTokens (fuel : ℕ) (tokens : List (Token K)) :
    Option (Except String (List (List (PlanePoint K)))) :=
  match tokens with
  | [] => some (.error "Malformed SVG path: no valid tokens found.")
  | .num v :: _ => some (.error (mustStart (numberText v)))
  | .cmd c :: _ =>
    if c.toUpper ≠ 'M' then some (.error (mustStart (toString c)))
    else (parseLoop fuel ' ' .empty tokens).map (·.map Drawing.kept)

/-- `parsePathCommands`, with as many turns as there are characters, and then tokens. -/
def parsePathCommands (d : List Char) : Option (Except String (List (List (PlanePoint K)))) :=
  if d.all isJsSpace then some (.error "Malformed SVG path: path data string is empty.")
  else
    match tokenize d.length d with
    | none => none
    | some (.error text) => some (.error text)
    | some (.ok tokens) => parseTokens tokens.length tokens

end Taramandal.Studio.PathData
