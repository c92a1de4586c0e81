import Taramandal.Lib.Json

/-! # Reading JSON

`json.loads` on the characters of a text: blanks, escapes and the surrogate pairs in them,
numbers, and objects in which the last value of a key counts. What `json.dumps` writes,
indented, of an object of strings and naturals is read back (`loads_indented`), if no string
has the two halves of a character side by side. -/
namespace Taramandal.Lib.JsonRead

open Lib.Dict Lib.Json

/-! ## Strings -/

def hexValue (c : CodePoint) : Option Nat :=
  if 48 ≤ c.val ∧ c.val ≤ 57 then some (c.val - 48)
  else if 97 ≤ c.val ∧ c.val ≤ 102 then some (c.val - 87)
  else if 65 ≤ c.val ∧ c.val ≤ 70 then some (c.val - 55) else none

def hex4 : Str → Option (Nat × Str)
  | a :: b :: c :: d :: rest => do
    let a ← hexValue a
    let b ← hexValue b
    let c ← hexValue c
    let d ← hexValue d
    return (((a * 16 + b) * 16 + c) * 16 + d, rest)
  | _ => none

def lowHalf : Str → Option (Nat × Str)
  | b :: e :: rest =>
    if b.val = 92 ∧ e.val = 117 then
      (hex4 rest).filter fun r => 0xDC00 ≤ r.1 ∧ r.1 < 0xE000
    else none
  | _ => none

def pair (u v : Nat) : CodePoint :=
  .ofNat 0x110000 (0x10000 + (u - 0xD800) * 0x400 + (v - 0xDC00))

def letter (e : CodePoint) : Option CodePoint :=
  if e.val = 34 ∨ e.val = 92 ∨ e.val = 47 then some e
  else if e.val = 98 then some 8
  else if e.val = 102 then some 12
  else if e.val = 110 then some 10
  else if e.val = 114 then some 13
  else if e.val = 116 then some 9
  else none

def escape (e : CodePoint) (rest : Str) : Option (CodePoint × Str) :=
  if e.val = 117 then do
    let (u, rest) ← hex4 rest
    if 0xD800 ≤ u ∧ u < 0xDC00 then
      match lowHalf rest with
      | some (v, rest) => some (pair u v, rest)
      | none => some (.ofNat 0x110000 u, rest)
    else some (.ofNat 0x110000 u, rest)
  else (letter e).map fun c => (c, rest)

/-- Behind the opening quote; a control character is refused. -/
def readString : Nat → Str → Option (Str × Str)
  | 0, _ => none
  | _ + 1, [] => none
  | fuel + 1, c :: rest =>
    if c.val = 34 then some ([], rest)
    else if c.val < 32 then none
    else if c.val = 92 then
      match rest with
      | [] => none
      | e :: rest => do
        let (c, rest) ← escape e rest
        let (s, rest) ← readString fuel rest
        return (c :: s, rest)
    else do
      let (s, rest) ← readString fuel rest
      return (c :: s, rest)

def string (rest : Str) : Option (Str × Str) := readString (rest.length + 1) rest

def isNumeral (c : CodePoint) : Bool := 48 ≤ c.val && c.val ≤ 57

def decimal (ds : Str) : Nat := ds.foldl (fun n d => n * 10 + (d.val - 48)) 0

def sign (codes : List Nat) (text : Str) : Str := (text.head?.filter (·.val ∈ codes)).toList

def fraction : Str → Str
  | [] => []
  | point :: rest =>
    if point.val = 46 ∧ rest.takeWhile isNumeral ≠ [] then point :: rest.takeWhile isNumeral
    else []

def exponent : Str → Str
  | [] => []
  | e :: rest =>
    let ds := (rest.drop (sign [43, 45] rest).length).takeWhile isNumeral
    if (e.val = 101 ∨ e.val = 69) ∧ ds ≠ [] then e :: (sign [43, 45] rest ++ ds) else []

def maxDigits : Nat := 4300

/-- `float` is the float a text stands for. -/
def number (float : Str → FloatValue) (text : Str) : Option (Value × Str) :=
  let minus := sign [45] text
  let rest := text.drop minus.length
  let whole := if rest.head?.map Fin.val = some 48 then rest.take 1 else rest.takeWhile isNumeral
  let frac := fraction (rest.drop whole.length)
  let exp := exponent (rest.drop (whole.length + frac.length))
  if whole = [] then none
  else if frac = [] ∧ exp = [] then
    if maxDigits < whole.length then none
    else some (.int (if minus = [] then decimal whole else - decimal whole), rest.drop whole.length)
  else some (.float (float (minus ++ whole ++ frac ++ exp)),
    rest.drop (whole.length + frac.length + exp.length))

/-! ## Values -/

def nan : FloatValue where
  text := [78, 97, 78]
  integer := none
  marked := ⟨[], 78, _, rfl, fun _ h => absurd h List.not_mem_nil, by decide, by decide,
    by decide, by decide⟩

def infinity : FloatValue where
  text := [73, 110, 102, 105, 110, 105, 116, 121]
  integer := none
  marked := ⟨[], 73, _, rfl, fun _ h => absurd h List.not_mem_nil, by decide, by decide,
    by decide, by decide⟩

def negInfinity : FloatValue where
  text := [45, 73, 110, 102, 105, 110, 105, 116, 121]
  integer := none
  marked := ⟨[], 45, _, rfl, fun _ h => absurd h List.not_mem_nil, by decide, by decide,
    by decide, by decide⟩

def words : List (Str × Value) :=
  [([110, 117, 108, 108], .null), ([116, 114, 117, 101], .bool true),
    ([102, 97, 108, 115, 101], .bool false), ([78, 97, 78], .float nan),
    ([73, 110, 102, 105, 110, 105, 116, 121], .float infinity),
    ([45, 73, 110, 102, 105, 110, 105, 116, 121], .float negInfinity)]

def word (text : Str) : Option (Value × Str) :=
  words.findSome? fun w =>
    if w.1.isPrefixOf text then some (w.2, text.drop w.1.length) else none

def isBlank (c : CodePoint) : Bool := c.val = 32 || c.val = 9 || c.val = 10 || c.val = 13

def skip (text : Str) : Str := text.dropWhile isBlank

def expect (code : Nat) : Str → Option Str
  | [] => none
  | c :: rest => if c.val = code then some rest else none

variable (float : Str → FloatValue)

mutual

def value : Nat → Str → Option (Value × Str)
  | 0, _ => none
  | _ + 1, [] => none
  | fuel + 1, c :: rest =>
    if c.val = 34 then (string rest).map fun r => (.str r.1, r.2)
    else if c.val = 123 then
      match expect 125 (skip rest) with
      | some rest => some (.obj [], rest)
      | none => members fuel [] (skip rest)
    else if c.val = 91 then
      match expect 93 (skip rest) with
      | some rest => some (.arr [], rest)
      | none => elements fuel [] (skip rest)
    else (word (c :: rest)).or (number float (c :: rest))

/-- A key set twice keeps its place and takes the new value. -/
def members : Nat → Object → Str → Option (Value × Str)
  | 0, _, _ => none
  | fuel + 1, es, text => do
    let rest ← expect 34 text
    let (k, rest) ← string rest
    let rest ← expect 58 (skip rest)
    let (v, rest) ← value fuel (skip rest)
    match expect 125 (skip rest) with
    | some rest => return (.obj (assign es k v), rest)
    | none =>
      let rest ← expect 44 (skip rest)
      members fuel (assign es k v) (skip rest)

def elements : Nat → List Value → Str → Option (Value × Str)
  | 0, _, _ => none
  | fuel + 1, vs, text => do
    let (v, rest) ← value fuel text
    match expect 93 (skip rest) with
    | some rest => return (.arr (vs ++ [v]), rest)
    | none =>
      let rest ← expect 44 (skip rest)
      elements fuel (vs ++ [v]) (skip rest)

end

/-- Of two nested calls one at least consumes a character, so that there is fuel for all of
them. A depth at which the interpreter gives up is not modelled. -/
def loads (text : Str) : Option Value := do
  let (v, rest) ← value float (2 * text.length + 2) (skip text)
  if skip rest = [] then return v else none

def ofByte (b : UInt8) : CodePoint := ⟨b.toNat, by have := b.toNat_lt; omega⟩

def ofText (text : Text) : Str := text.map ofByte

def line (e : Str × Value) : Text := 10 :: 32 :: 32 :: (quoted e.1 ++ 58 :: 32 :: dumps e.2)

/-- `json.dumps(es, indent=2)`, for an object without arrays and objects in it. -/
def indented : Object → Text
  | [] => [123, 125]
  | e :: es => 123 :: (line e ++ es.flatMap (fun e => 44 :: line e) ++ [10, 125])

@[simp] lemma ofByte_val (b : UInt8) : (ofByte b).val = b.toNat := rfl

lemma ofText_append (a b : Text) : ofText (a ++ b) = ofText a ++ ofText b := List.map_append

lemma ofText_cons (b : UInt8) (text : Text) : ofText (b :: text) = ofByte b :: ofText text := rfl

lemma length_ofText (text : Text) : (ofText text).length = text.length := List.length_map ..

/-! ## Strings are read back -/

lemma hexValue_hexDigit {n : Nat} (h : n < 16) : hexValue (ofByte (hexDigit n)) = some n := by
  have hall : ∀ n < 16, hexValue (ofByte (hexDigit n)) = some n := by decide
  exact hall n h

/-- The text of a unit that is no printable character and has no letter. -/
def hexText (u : Nat) : Text :=
  [hexDigit (u / 4096 % 16), hexDigit (u / 256 % 16), hexDigit (u / 16 % 16), hexDigit (u % 16)]

variable {u : Nat}

lemma hex4_hexText (h : u < 0x10000) (rest : Str) :
    hex4 (ofText (hexText u) ++ rest) = some (u, rest) := by
  have hdigit : ∀ n, hexValue (ofByte (hexDigit (n % 16))) = some (n % 16) :=
    fun n => hexValue_hexDigit (Nat.mod_lt n (by decide))
  simp only [hexText, ofText, List.map_cons, List.map_nil, List.cons_append, List.nil_append, hex4,
    hdigit]
  simp only [bind, Option.bind, pure, Option.some.injEq, Prod.mk.injEq, and_true]
  omega

lemma escaped_cases (u : Nat) : (32 ≤ u ∧ u ≤ 126 ∧ u ≠ 34 ∧ u ≠ 92 ∧ escaped u = [.ofNat u]) ∨
      (∃ e : UInt8, u < 0x80 ∧ e ≠ 117 ∧ letter (ofByte e) = some (.ofNat 0x110000 u) ∧
        escaped u = [92, e]) ∨
      escaped u = 92 :: 117 :: hexText u := by
  unfold escaped
  split
  · next hu =>
    rcases hu with rfl | rfl
    · exact .inr (.inl ⟨34, by decide, by decide, rfl, rfl⟩)
    · exact .inr (.inl ⟨92, by decide, by decide, rfl, rfl⟩)
  split
  · next hu => exact .inr (.inl ⟨98, by omega, by decide, by rw [hu]; rfl, rfl⟩)
  split
  · next hu => exact .inr (.inl ⟨116, by omega, by decide, by rw [hu]; rfl, rfl⟩)
  split
  · next hu => exact .inr (.inl ⟨110, by omega, by decide, by rw [hu]; rfl, rfl⟩)
  split
  · next hu => exact .inr (.inl ⟨102, by omega, by decide, by rw [hu]; rfl, rfl⟩)
  split
  · next hu => exact .inr (.inl ⟨114, by omega, by decide, by rw [hu]; rfl, rfl⟩)
  split
  · next hquote _ _ _ _ _ hprint =>
    obtain ⟨hquote, hslash⟩ := not_or.mp hquote
    exact .inl ⟨hprint.1, hprint.2, hquote, hslash, rfl⟩
  · exact .inr (.inr rfl)

lemma lowHalf_escaped (h : u < 0x10000) (rest : Str) : lowHalf (ofText (escaped u) ++ rest) =
      if 0xDC00 ≤ u ∧ u < 0xE000 then some (u, rest) else none := by
  rcases escaped_cases u with ⟨-, hle, -, hslash, htext⟩ | ⟨e, hlt, he, -, htext⟩ | htext
  · have hval : (UInt8.ofNat u).toNat = u := UInt8.toNat_ofNat_of_lt (by
      rw [UInt8.size]
      omega)
    rw [htext, if_neg (by omega)]
    cases rest with
    | nil => rfl
    | cons c rest => exact if_neg fun h => hslash (hval.symm.trans h.1)
  · rw [htext, if_neg (by omega)]
    exact if_neg fun h => he (UInt8.toNat_inj.mp h.2)
  · rw [htext]
    change lowHalf (ofByte 92 :: ofByte 117 :: (ofText (hexText u) ++ rest)) = _
    rw [lowHalf, if_pos ⟨rfl, rfl⟩, hex4_hexText h]
    split
    · next hlow => simp [Option.filter, hlow]
    · next hlow => simp [Option.filter, hlow]

variable {s : Str}

lemma lowHalf_units {c : CodePoint} (h : Separate (c :: s)) (hc : isHigh c) (rest : Str) :
    lowHalf (ofText ((units s).flatMap escaped ++ [34]) ++ rest) = none := by
  cases s with
  | nil =>
    cases rest with
    | nil => rfl
    | cons d rest => rfl
  | cons d s =>
    have hlow : ¬ isLow d := fun hlow => (List.isChain_cons_cons.mp h).1 ⟨hc, hlow⟩
    have hd := d.isLt
    rw [units, List.flatMap_cons, List.flatMap_append, unitsOf]
    split
    · rw [List.flatMap_singleton, List.append_assoc, ofText_append, List.append_assoc,
        lowHalf_escaped (by omega)]
      exact if_neg hlow
    · rw [List.flatMap_cons, List.append_assoc, List.append_assoc, ofText_append,
        List.append_assoc, lowHalf_escaped (by omega), if_neg (by omega)]

lemma readString_hex (u fuel : Nat) (rest : Str) :
    readString (fuel + 1) (ofText (92 :: 117 :: hexText u) ++ rest) = do
      let (c, rest) ← escape 117 (ofText (hexText u) ++ rest)
      let (s, rest) ← readString fuel rest
      return (c :: s, rest) := rfl

lemma escape_hex (h : u < 0x10000) (rest : Str) : escape 117 (ofText (hexText u) ++ rest) =
      if 0xD800 ≤ u ∧ u < 0xDC00 then
        match lowHalf rest with
        | some (v, rest) => some (pair u v, rest)
        | none => some (.ofNat 0x110000 u, rest)
      else some (.ofNat 0x110000 u, rest) := by
  have hcode : (117 : CodePoint).val = 117 := rfl
  rw [escape, if_pos hcode, hex4_hexText h]
  rfl

variable {rest : Str}

lemma readString_unit (h : u < 0x10000) (fuel : Nat)
    (hrest : 0xD800 ≤ u ∧ u < 0xDC00 → lowHalf rest = none) :
    readString (fuel + 1) (ofText (escaped u) ++ rest) = do
      let (s, rest) ← readString fuel rest
      return (.ofNat 0x110000 u :: s, rest) := by
  rcases escaped_cases u with ⟨hge, hle, hquote, hslash, htext⟩ | ⟨e, -, he, hletter, htext⟩ | htext
  · have hval : (UInt8.ofNat u).toNat = u := UInt8.toNat_ofNat_of_lt (by
      rw [UInt8.size]
      omega)
    have hchar : ofByte (.ofNat u) = .ofNat 0x110000 u := Fin.ext (by
      rw [ofByte_val, hval, Fin.val_ofNat, Nat.mod_eq_of_lt (by omega)])
    rw [htext]
    change (if (UInt8.ofNat u).toNat = 34 then _ else if (UInt8.ofNat u).toNat < 32 then _
      else if (UInt8.ofNat u).toNat = 92 then _ else _) = _
    rw [hval, if_neg hquote, if_neg (by omega), if_neg hslash, hchar]
    rfl
  · have he' : ¬ (ofByte e).val = 117 := fun h => he (UInt8.toNat_inj.mp h)
    have hescape : escape (ofByte e) rest = some (.ofNat 0x110000 u, rest) := by
      rw [escape, if_neg he', hletter]
      rfl
    rw [htext]
    change (do
      let (c, rest) ← escape (ofByte e) rest
      let (s, rest) ← readString fuel rest
      return (c :: s, rest)) = _
    rw [hescape]
    rfl
  · have hescape : escape 117 (ofText (hexText u) ++ rest) = some (.ofNat 0x110000 u, rest) := by
      rw [escape_hex h]
      split
      · next hhigh => rw [hrest hhigh]
      · rfl
    rw [htext, readString_hex, hescape]
    rfl

lemma readString_pair {v : Nat} (hu : 0xD800 ≤ u ∧ u < 0xDC00) (hv : 0xDC00 ≤ v ∧ v < 0xE000)
    (fuel : Nat) (rest : Str) :
    readString (fuel + 1) (ofText (escaped u) ++ (ofText (escaped v) ++ rest)) = do
      let (s, rest) ← readString fuel rest
      return (pair u v :: s, rest) := by
  have htext : escaped u = 92 :: 117 :: hexText u := by
    rcases escaped_cases u with ⟨-, hle, -⟩ | ⟨e, hlt, -⟩ | htext
    · omega
    · omega
    · exact htext
  have hlow : lowHalf (ofText (escaped v) ++ rest) = some (v, rest) := by
    rw [lowHalf_escaped (by omega), if_pos hv]
  have hescape : escape 117 (ofText (hexText u) ++ (ofText (escaped v) ++ rest)) =
      some (pair u v, rest) := by
    rw [escape_hex (by omega), if_pos hu, hlow]
  rw [htext, readString_hex, hescape]
  rfl

lemma readString_quoted (hs : Separate s) {fuel : Nat} (hfuel : s.length < fuel) (rest : Str) :
    readString fuel (ofText ((units s).flatMap escaped ++ [34]) ++ rest) = some (s, rest) := by
  induction s generalizing fuel with
  | nil =>
    obtain ⟨fuel, rfl⟩ := Nat.exists_eq_add_one_of_ne_zero (Nat.ne_of_gt hfuel)
    rfl
  | cons c s ih =>
    obtain ⟨fuel, rfl⟩ := Nat.exists_eq_add_one_of_ne_zero (Nat.ne_of_gt (Nat.zero_lt_of_lt hfuel))
    have hrest := ih hs.tail (Nat.lt_of_succ_lt_succ hfuel)
    have hc := c.isLt
    rw [units, List.flatMap_cons, List.flatMap_append, ← units, unitsOf]
    split
    · next hsmall =>
      have hchar : Fin.ofNat 0x110000 c.val = c := Fin.ext (Nat.mod_eq_of_lt hc)
      rw [List.flatMap_singleton, List.append_assoc, ofText_append, List.append_assoc,
        readString_unit hsmall fuel fun hhigh => lowHalf_units hs hhigh rest, hrest, hchar]
      rfl
    · have hpair : pair (0xD800 + (c.val - 0x10000) / 0x400)
          (0xDC00 + (c.val - 0x10000) % 0x400) = c := Fin.ext (by
        rw [pair, Fin.val_ofNat]
        omega)
      rw [List.flatMap_cons, List.flatMap_singleton, List.append_assoc, List.append_assoc,
        ofText_append, ofText_append, List.append_assoc, List.append_assoc,
        readString_pair (by omega) (by omega), hrest, hpair]
      rfl

lemma length_le_escaped (s : Str) : s.length ≤ ((units s).flatMap escaped).length := by
  have hunit : ∀ u, 0 < (escaped u).length := by
    intro u
    rcases escaped_cases u with ⟨-, -, -, -, htext⟩ | ⟨e, -, -, -, htext⟩ | htext
    · rw [htext]
      exact Nat.one_pos
    · rw [htext]
      exact Nat.two_pos
    · rw [htext]
      exact Nat.succ_pos _
  have hunits : ∀ us : List Nat, us.length ≤ (us.flatMap escaped).length := by
    intro us
    induction us with
    | nil => exact Nat.le_refl 0
    | cons u us ih =>
      rw [List.flatMap_cons, List.length_append, List.length_cons]
      have := hunit u
      omega
  refine Nat.le_trans ?_ (hunits (units s))
  induction s with
  | nil => exact Nat.le_refl 0
  | cons c s ih =>
    have hpos := List.length_pos_iff.mpr (unitsOf_ne_nil c)
    rw [units, List.flatMap_cons, List.length_append, List.length_cons, ← units]
    omega

lemma string_quoted (hs : Separate s) (rest : Str) :
    string (ofText ((units s).flatMap escaped ++ [34]) ++ rest) = some (s, rest) := by
  refine readString_quoted hs ?_ rest
  have hlength := length_le_escaped s
  rw [List.length_append, length_ofText, List.length_append]
  omega

/-! ## So are naturals -/

variable {b : UInt8}

lemma isNumeral_of_isDigit (h : isDigit b = true) : isNumeral (ofByte b) = true := h

lemma decimal_digits (ds : List Nat) (hds : ∀ d ∈ ds, d < 10) :
    decimal (ofText (ds.reverse.map fun d => .ofNat (48 + d))) = Nat.ofDigits 10 ds := by
  induction ds with
  | nil => rfl
  | cons d ds ih =>
    have hd : (UInt8.ofNat (48 + d)).toNat = 48 + d := UInt8.toNat_ofNat_of_lt (by
      have := hds d List.mem_cons_self
      rw [UInt8.size]
      omega)
    rw [List.reverse_cons, List.map_append, ofText_append, decimal, List.foldl_append, ← decimal,
      ih fun e he => hds e (List.mem_cons_of_mem d he), Nat.ofDigits_cons]
    change Nat.ofDigits 10 ds * 10 + ((UInt8.ofNat (48 + d)).toNat - 48) = _
    rw [hd]
    omega

lemma decimal_natText (n : Nat) : decimal (ofText (natText n)) = n := by
  unfold natText
  split
  · next hn =>
    rw [hn]
    rfl
  · rw [decimal_digits _ fun d hd => Nat.digits_lt_base (by decide) hd, Nat.ofDigits_digits]

/-- A natural is `0`, or begins with another digit. -/
lemma natText_head (n : Nat) : natText n = [48] ∨ ∃ b ds, natText n = b :: ds ∧ b ≠ 48 := by
  unfold natText
  split
  · exact .inl rfl
  · next hn =>
    right
    have hne : Nat.digits 10 n ≠ [] := Nat.digits_ne_nil_iff_ne_zero.mpr hn
    have hlast : (Nat.digits 10 n).getLast hne ≠ 0 := Nat.getLast_digit_ne_zero 10 hn
    have hlt : (Nat.digits 10 n).getLast hne < 10 :=
      Nat.digits_lt_base (by decide) (List.getLast_mem hne)
    obtain ⟨d, ds, hds⟩ := List.exists_cons_of_ne_nil (List.reverse_ne_nil_iff.mpr hne)
    have hd : (Nat.digits 10 n).getLast hne = d := by
      have hhead := List.head_reverse (List.reverse_ne_nil_iff.mpr hne)
      simp only [hds, List.head_cons] at hhead
      exact hhead.symm
    refine ⟨.ofNat (48 + d), ds.map fun d => .ofNat (48 + d), by rw [hds]; rfl, ?_⟩
    have hall : ∀ d < 10, d ≠ 0 → UInt8.ofNat (48 + d) ≠ 48 := by decide
    exact hall d (hd ▸ hlt) (hd ▸ hlast)

lemma ne_of_isDigit (h : isDigit b = true) {code : Nat} (hcode : code < 48 ∨ 57 < code) :
    ¬ b.toNat = code := by
  intro hb
  rw [isDigit, hb] at h
  simp only [Bool.and_eq_true, decide_eq_true_eq] at h
  omega

def EndsNumber (rest : Str) : Prop := ∃ c r, rest = c :: r ∧ (c.val = 44 ∨ c.val = 10)

lemma number_natText {n : Nat} (hn : (natText n).length ≤ maxDigits) (hrest : EndsNumber rest) :
    number float (ofText (natText n) ++ rest) = some (.int n, rest) := by
  obtain ⟨c, rest, rfl, hc⟩ := hrest
  have hcn : isNumeral c = false := by
    rcases hc with hc | hc <;> simp [isNumeral, hc]
  have hall : ∀ d ∈ ofText (natText n), isNumeral d = true := by
    intro d hd
    obtain ⟨b, hb, rfl⟩ := List.mem_map.mp hd
    exact isNumeral_of_isDigit (isDigit_of_mem_natText hb)
  have hspan : (ofText (natText n) ++ c :: rest).takeWhile isNumeral = ofText (natText n) := by
    rw [List.takeWhile_append_of_pos hall, List.takeWhile_cons_of_neg (by simp [hcn]),
      List.append_nil]
  obtain ⟨b, ds, hb⟩ := List.exists_cons_of_ne_nil (natText_ne_nil n)
  have hbd : isDigit b = true := isDigit_of_mem_natText (hb ▸ List.mem_cons_self)
  have hsign : sign [45] (ofText (natText n) ++ c :: rest) = [] := by
    have hne : ¬ b.toNat = 45 := ne_of_isDigit hbd (.inl (by decide))
    rw [hb, ofText_cons]
    simp [sign, Option.filter, hne]
  have hwhole : (if (ofText (natText n) ++ c :: rest).head?.map Fin.val = some 48 then
      (ofText (natText n) ++ c :: rest).take 1
      else (ofText (natText n) ++ c :: rest).takeWhile isNumeral) = ofText (natText n) := by
    rcases natText_head n with hzero | ⟨b, ds, hb, hne⟩
    · rw [hzero]
      rfl
    · have hne : ¬ b.toNat = 48 := fun h => hne (UInt8.toNat_inj.mp h)
      have hhead : (ofText (natText n) ++ c :: rest).head?.map Fin.val ≠ some 48 := by
        rw [hb]
        simpa [ofText_cons] using hne
      rw [if_neg hhead, hspan]
  have hfrac : fraction (c :: rest) = [] := if_neg fun h => by
    rcases hc with hc | hc <;> rw [hc] at h <;> exact absurd h.1 (by decide)
  have hexp : exponent (c :: rest) = [] := if_neg fun h => by
    rcases hc with hc | hc <;> rw [hc] at h <;> exact absurd h.1 (by decide)
  have hnil : ofText (natText n) ≠ [] := by
    rw [hb]
    exact List.cons_ne_nil _ _
  have hlength : ¬ maxDigits < (ofText (natText n)).length := by
    rw [length_ofText]
    omega
  unfold number
  simp only [hsign, List.length_nil, List.drop_zero, hwhole, hnil, if_false, List.drop_left, hfrac,
    Nat.add_zero, hexp, and_self, if_true, hlength, decimal_natText]

lemma word_digit (hb : isDigit b = true) (rest : Str) : word (ofByte b :: rest) = none := by
  refine List.findSome?_eq_none_iff.mpr fun w hw => if_neg ?_
  have hhead : ∀ w ∈ words, ∃ c cs, w.1 = c :: cs ∧ isNumeral c = false := by
    simp only [words, List.mem_cons, List.not_mem_nil, or_false]
    intro w hw
    rcases hw with rfl | rfl | rfl | rfl | rfl | rfl <;> exact ⟨_, _, rfl, rfl⟩
  obtain ⟨c, cs, hw, hc⟩ := hhead w hw
  rw [hw, List.isPrefixOf_cons_cons]
  have hne : c ≠ ofByte b := by
    intro heq
    rw [heq, isNumeral_of_isDigit hb] at hc
    cases hc
  simp [hne]

/-! ## And objects of both -/

/-- A separate string, or a natural that has not too many digits. -/
def Readable : Value → Prop
  | .str s => Separate s
  | .int n => 0 ≤ n ∧ (natText n.natAbs).length ≤ maxDigits
  | _ => False

variable {v : Value}

lemma value_dumps (hv : Readable v) (fuel : Nat) (hrest : EndsNumber rest) :
    value float (fuel + 1) (ofText (dumps v) ++ rest) = some (v, rest) := by
  cases v with
  | str s =>
    rw [dumps_str]
    change (string (ofText ((units s).flatMap escaped ++ [34]) ++ rest)).map _ = _
    rw [string_quoted hv]
    rfl
  | int n =>
    obtain ⟨hpos, hlength⟩ := hv
    have hn : ((n.natAbs : ℕ) : ℤ) = n := Int.natAbs_of_nonneg hpos
    have hnumber := number_natText float hlength hrest
    obtain ⟨b, ds, hb⟩ := List.exists_cons_of_ne_nil (natText_ne_nil n.natAbs)
    have hbd : isDigit b = true := isDigit_of_mem_natText (hb ▸ List.mem_cons_self)
    rw [dumps_int hpos, hb, ofText_cons, List.cons_append]
    rw [hb, ofText_cons, List.cons_append, hn] at hnumber
    rw [value, ofByte_val, if_neg (ne_of_isDigit hbd (.inl (by decide))),
      if_neg (ne_of_isDigit hbd (.inr (by decide))), if_neg (ne_of_isDigit hbd (.inr (by decide))),
      word_digit hbd, hnumber]
    rfl
  | _ => cases hv

def following (es : Object) : Text := es.flatMap (fun e => 44 :: line e) ++ [10, 125]

lemma endsNumber_following (es : Object) (rest : Str) :
    EndsNumber (ofText (following es) ++ rest) := by
  cases es with
  | nil => exact ⟨_, _, rfl, .inr rfl⟩
  | cons e es => exact ⟨_, _, rfl, .inl rfl⟩

lemma length_le_following (es : Object) : es.length ≤ (following es).length := by
  induction es with
  | nil => exact Nat.zero_le _
  | cons e es ih =>
    rw [following, List.length_append] at ih ⊢
    rw [List.flatMap_cons, List.length_append, List.length_cons, List.length_cons]
    omega

lemma skip_line (e : Str × Value) (rest : Str) : skip (ofText (line e) ++ rest) =
      ofText (quoted e.1 ++ 58 :: 32 :: dumps e.2) ++ rest := rfl

lemma skip_of_head {c : CodePoint} (h : isBlank c = false) (rest : Str) :
    skip (c :: rest) = c :: rest := List.dropWhile_cons_of_neg (by simp [h])

lemma skip_dumps (hv : Readable v) (rest : Str) :
    skip (ofText (dumps v) ++ rest) = ofText (dumps v) ++ rest := by
  cases v with
  | str s =>
    rw [dumps_str]
    exact skip_of_head rfl _
  | int n =>
    obtain ⟨b, ds, hb⟩ := List.exists_cons_of_ne_nil (natText_ne_nil n.natAbs)
    have hbd : isDigit b = true := isDigit_of_mem_natText (hb ▸ List.mem_cons_self)
    rw [dumps_int hv.1, hb, ofText_cons, List.cons_append]
    refine skip_of_head ?_ _
    have hne : ∀ code, code < 48 → ¬ b.toNat = code := fun code h => ne_of_isDigit hbd (.inl h)
    simp [isBlank, hne]
  | _ => cases hv

variable {e : Str × Value}

lemma members_entry (h : Separate e.1 ∧ Readable e.2) (es : Object) (fuel : Nat)
    (hrest : EndsNumber rest) :
    members float (fuel + 2) es (ofText (quoted e.1 ++ 58 :: 32 :: dumps e.2) ++ rest) =
      match expect 125 (skip rest) with
      | some rest => some (.obj (assign es e.1 e.2), rest)
      | none => (expect 44 (skip rest)).bind fun rest =>
          members float (fuel + 1) (assign es e.1 e.2) (skip rest) := by
  let behind := ofByte 58 :: ofByte 32 :: (ofText (dumps e.2) ++ rest)
  have htext : ofText (quoted e.1 ++ 58 :: 32 :: dumps e.2) ++ rest =
      ofByte 34 :: (ofText ((units e.1).flatMap escaped ++ [34]) ++ behind) := by
    simp [quoted, ofText, behind]
  have hopen : expect 34 (ofByte 34 :: (ofText ((units e.1).flatMap escaped ++ [34]) ++ behind)) =
      some (ofText ((units e.1).flatMap escaped ++ [34]) ++ behind) := rfl
  have hkey : string (ofText ((units e.1).flatMap escaped ++ [34]) ++ behind) =
      some (e.1, behind) := string_quoted h.1 behind
  have hcolon : expect 58 (skip behind) = some (ofByte 32 :: (ofText (dumps e.2) ++ rest)) := rfl
  have hblank : skip (ofByte 32 :: (ofText (dumps e.2) ++ rest)) = ofText (dumps e.2) ++ rest :=
    skip_dumps h.2 rest
  have hvalue := value_dumps float h.2 fuel hrest
  rw [htext, members]
  simp only [hopen, hkey, hcolon, hblank, hvalue, bind, Option.bind, pure]

variable {es : Object}

lemma fresh_of_nodup {es₀ : Object} (h : ((es₀ ++ e :: es).map Prod.fst).Nodup) :
    e.1 ∉ es₀.map Prod.fst := by
  rw [List.map_append, List.map_cons] at h
  exact fun hmem => List.disjoint_of_nodup_append h hmem List.mem_cons_self

lemma members_line (h : ∀ d ∈ e :: es, Separate d.1 ∧ Readable d.2) {es₀ : Object}
    (hkeys : ((es₀ ++ e :: es).map Prod.fst).Nodup) {fuel : Nat} (hfuel : es.length + 1 < fuel)
    (rest : Str) :
    members float fuel es₀ (ofText (quoted e.1 ++ 58 :: 32 :: dumps e.2) ++
      (ofText (following es) ++ rest)) = some (.obj (es₀ ++ e :: es), rest) := by
  induction es generalizing e es₀ fuel with
  | nil =>
    obtain ⟨fuel, rfl⟩ := Nat.exists_eq_add_of_lt hfuel
    have hfuel : ([] : Object).length + 1 + fuel + 1 = fuel + 2 := by
      rw [List.length_nil]
      omega
    rw [hfuel, members_entry float (h e List.mem_cons_self) es₀ fuel (endsNumber_following [] rest),
      assign_of_fresh e.2 (fresh_of_nodup hkeys)]
    rfl
  | cons e' es ih =>
    obtain ⟨fuel, rfl⟩ := Nat.exists_eq_add_of_lt hfuel
    have hfuel : (e' :: es).length + 1 + fuel + 1 = es.length + fuel + 1 + 2 := by
      rw [List.length_cons]
      omega
    have hnext : (es₀ ++ [(e.1, e.2)]) ++ e' :: es = es₀ ++ e :: e' :: es := by
      rw [List.append_assoc]
      rfl
    have hread : members float (es.length + fuel + 2) (es₀ ++ [(e.1, e.2)])
        (ofText (quoted e'.1 ++ 58 :: 32 :: dumps e'.2) ++ (ofText (following es) ++ rest)) =
          some (.obj ((es₀ ++ [(e.1, e.2)]) ++ e' :: es), rest) :=
      ih (fun d hd => h d (List.mem_cons_of_mem e hd)) (hnext ▸ hkeys) (by omega)
    rw [hfuel, members_entry float (h e List.mem_cons_self) es₀ _
      (endsNumber_following (e' :: es) rest), assign_of_fresh e.2 (fresh_of_nodup hkeys)]
    rw [hnext] at hread
    have htext : ofText (following (e' :: es)) ++ rest =
        ofByte 44 :: (ofText (line e') ++ (ofText (following es) ++ rest)) := by
      simp [following, ofText]
    rw [htext, skip_of_head rfl]
    change members float (es.length + fuel + 2) _
      (skip (ofText (line e') ++ (ofText (following es) ++ rest))) = _
    rw [skip_line]
    exact hread

/-! ## And is ASCII -/

def Legible (b : UInt8) : Prop := b ≠ 0 ∧ b < 128

instance (b : UInt8) : Decidable (Legible b) := inferInstanceAs (Decidable (_ ∧ _))

lemma legible_hexDigit (n : Nat) : Legible (hexDigit (n % 16)) := by
  have hall : ∀ n < 16, Legible (hexDigit n) := by decide
  exact hall _ (Nat.mod_lt n (by decide))

lemma legible_escaped (u : Nat) : ∀ b ∈ escaped u, Legible b := by
  rcases escaped_cases u with ⟨hge, hle, -, -, htext⟩ | ⟨e, -, -, hletter, htext⟩ | htext
  · have hall : ∀ u < 127, 32 ≤ u → Legible (.ofNat u) := by decide
    rw [htext, List.forall_mem_singleton]
    exact hall u (by omega) hge
  · have he : Legible e := by
      have hall : ∀ n < 256, (letter (ofByte (.ofNat n))).isSome = true → Legible (.ofNat n) := by
        decide +kernel
      have hread := hall e.toNat e.toNat_lt
      rw [UInt8.ofNat_toNat] at hread
      exact hread (by rw [hletter]; rfl)
    rw [htext]
    exact List.forall_mem_cons.mpr ⟨by decide, List.forall_mem_singleton.mpr he⟩
  · rw [htext]
    simp only [hexText, List.forall_mem_cons, legible_hexDigit, true_and]
    exact ⟨by decide, by decide, fun _ h => absurd h List.not_mem_nil⟩

lemma legible_quoted (s : Str) : ∀ b ∈ quoted s, Legible b := by
  have hunits : ∀ b ∈ (units s).flatMap escaped, Legible b := by
    intro b hb
    obtain ⟨u, -, hb⟩ := List.mem_flatMap.mp hb
    exact legible_escaped u b hb
  rw [quoted, List.cons_append]
  exact List.forall_mem_cons.mpr ⟨by decide,
    List.forall_mem_append.mpr ⟨hunits, List.forall_mem_singleton.mpr (by decide)⟩⟩

lemma legible_dumps (hv : Readable v) : ∀ b ∈ dumps v, Legible b := by
  cases v with
  | str s =>
    rw [dumps]
    exact legible_quoted s
  | int n =>
    rw [dumps, intText, if_neg (not_lt.mpr hv.1)]
    have hall : ∀ n < 256, isDigit (.ofNat n) = true → Legible (.ofNat n) := by decide +kernel
    intro b hb
    have hread := hall b.toNat b.toNat_lt
    rw [UInt8.ofNat_toNat] at hread
    exact hread (isDigit_of_mem_natText hb)
  | _ => cases hv

lemma legible_line (h : Readable e.2) : ∀ b ∈ line e, Legible b := by
  simp only [line, List.forall_mem_cons, List.forall_mem_append]
  exact ⟨by decide, by decide, by decide, legible_quoted e.1, by decide, by decide, legible_dumps h⟩

lemma legible_indented (h : ∀ e ∈ es, Readable e.2) : ∀ b ∈ indented es, Legible b := by
  cases es with
  | nil => exact List.forall_mem_cons.mpr ⟨by decide, List.forall_mem_singleton.mpr (by decide)⟩
  | cons e es =>
    obtain ⟨he, hes⟩ := List.forall_mem_cons.mp h
    have hlines : ∀ b ∈ es.flatMap fun e => 44 :: line e, Legible b := by
      intro b hb
      obtain ⟨d, hd, hb⟩ := List.mem_flatMap.mp hb
      exact List.forall_mem_cons.mpr ⟨by decide, legible_line (hes d hd)⟩ b hb
    simp only [indented, List.forall_mem_cons, List.forall_mem_append]
    exact ⟨by decide, ⟨legible_line he, hlines⟩, by decide, by decide,
      fun _ h => absurd h List.not_mem_nil⟩

lemma loads_indented (h : ∀ e ∈ es, Separate e.1 ∧ Readable e.2)
    (hkeys : (es.map Prod.fst).Nodup) : loads float (ofText (indented es ++ [10])) =
      some (.obj es) := by
  cases es with
  | nil => rfl
  | cons e es =>
    have htext : ofText (indented (e :: es) ++ [10]) =
        ofByte 123 :: (ofText (line e) ++ (ofText (following es) ++ [10])) := by
      simp [indented, following, ofText, ofByte]
    have hlength : es.length + 1 < 2 * (ofText (indented (e :: es) ++ [10])).length + 1 := by
      have hes : es.length ≤ (following es).length := length_le_following es
      rw [htext, List.length_cons, List.length_append, List.length_append, length_ofText,
        length_ofText]
      omega
    have hmembers : members float (2 * (ofText (indented (e :: es) ++ [10])).length + 1) []
        (ofText (quoted e.1 ++ 58 :: 32 :: dumps e.2) ++ (ofText (following es) ++ [10])) =
          some (.obj (e :: es), [10]) := members_line float h hkeys hlength [10]
    have hskip : skip (ofText (indented (e :: es) ++ [10])) =
        ofByte 123 :: (ofText (line e) ++ (ofText (following es) ++ [10])) := by
      rw [htext, skip_of_head rfl]
    have hvalue : value float (2 * (ofText (indented (e :: es) ++ [10])).length + 2)
        (ofByte 123 :: (ofText (line e) ++ (ofText (following es) ++ [10]))) =
          some (.obj (e :: es), [10]) := hmembers
    rw [loads, hskip, hvalue]
    rfl

end Taramandal.Lib.JsonRead
