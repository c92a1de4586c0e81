import Mathlib.Data.Nat.Digits.Lemmas
import Taramandal.Lib.Dict

/-! # JSON text

What `json.dumps` writes with sorted keys, without blanks and in ASCII (`dumps`), and how far
the text determines the value: strings up to the way two surrogates make one character
(`units`), and an object whose values are strings and naturals entry by entry, whatever the
other side was (`agree_of_dumps`). A float is known by its text. -/
namespace Taramandal.Lib.Json

open Lib.Dict

/-! ## Strings, in UTF-16 -/

abbrev CodePoint := Fin 0x110000

instance codePoints : NeZero 0x110000 := ⟨by decide⟩

abbrev Str := List CodePoint

abbrev Text := List UInt8

def unitsOf (c : CodePoint) : List Nat :=
  if c.val < 0x10000 then [c.val]
  else [0xD800 + (c.val - 0x10000) / 0x400, 0xDC00 + (c.val - 0x10000) % 0x400]

def units (s : Str) : List Nat := s.flatMap unitsOf

def isHigh (c : CodePoint) : Prop := 0xD800 ≤ c.val ∧ c.val < 0xDC00

def isLow (c : CodePoint) : Prop := 0xDC00 ≤ c.val ∧ c.val < 0xE000

instance (c : CodePoint) : Decidable (isHigh c) := inferInstanceAs (Decidable (_ ∧ _))

instance (c : CodePoint) : Decidable (isLow c) := inferInstanceAs (Decidable (_ ∧ _))

/-- No two code points that stand side by side are the halves of one character. -/
def Separate (s : Str) : Prop := s.IsChain fun a b => ¬ (isHigh a ∧ isLow b)

instance (s : Str) : Decidable (Separate s) :=
  inferInstanceAs (Decidable (List.IsChain (fun a b => ¬ (isHigh a ∧ isLow b)) s))

lemma unitsOf_lt {c : CodePoint} {u : Nat} (h : u ∈ unitsOf c) : u < 0x10000 := by
  have hc := c.isLt
  unfold unitsOf at h
  split at h
  · obtain rfl := List.mem_singleton.mp h
    assumption
  · simp only [List.mem_cons, List.not_mem_nil, or_false] at h
    omega

lemma units_lt {s : Str} {u : Nat} (h : u ∈ units s) : u < 0x10000 := by
  obtain ⟨c, -, hu⟩ := List.mem_flatMap.mp h
  exact unitsOf_lt hu

lemma unitsOf_ne_nil (c : CodePoint) : unitsOf c ≠ [] := by
  unfold unitsOf
  split <;> simp

lemma isLow_of_units {s : Str} {u : Nat} {us : List Nat} (h : units s = u :: us)
    (hlow : 0xDC00 ≤ u ∧ u < 0xE000) : ∃ c s', s = c :: s' ∧ isLow c := by
  cases s with
  | nil => cases h
  | cons c s =>
    refine ⟨c, s, rfl, ?_⟩
    have hc := c.isLt
    rw [units, List.flatMap_cons, unitsOf] at h
    split at h
    · obtain ⟨rfl, -⟩ := List.cons.inj h
      exact hlow
    · obtain ⟨rfl, -⟩ := List.cons.inj h
      omega

lemma eq_of_units {s t : Str} (hs : Separate s) (ht : Separate t) (h : units s = units t) :
    s = t := by
  induction s generalizing t with
  | nil =>
    cases t with
    | nil => rfl
    | cons b t => exact absurd (List.append_eq_nil_iff.mp h.symm).1 (unitsOf_ne_nil b)
  | cons a s ih =>
    cases t with
    | nil => exact absurd (List.append_eq_nil_iff.mp h).1 (unitsOf_ne_nil a)
    | cons b t =>
      have hs' : Separate s := hs.tail
      have ht' : Separate t := ht.tail
      have ha := a.isLt
      have hb := b.isLt
      have h' : unitsOf a ++ units s = unitsOf b ++ units t := h
      unfold unitsOf at h'
      split at h' <;> split at h'
      · obtain ⟨hab, hrest⟩ := List.cons.inj h'
        rw [Fin.ext hab, ih hs' ht' hrest]
      · -- one half of a character stands against the whole of it
        obtain ⟨hab, hrest⟩ := List.cons.inj h'
        obtain ⟨c, s', rfl, hlow⟩ := isLow_of_units hrest (by omega)
        have hhigh : isHigh a := by unfold isHigh; omega
        exact absurd ⟨hhigh, hlow⟩ (List.isChain_cons_cons.mp hs).1
      · obtain ⟨hab, hrest⟩ := List.cons.inj h'
        obtain ⟨c, t', rfl, hlow⟩ := isLow_of_units hrest.symm (by omega)
        have hhigh : isHigh b := by unfold isHigh; omega
        exact absurd ⟨hhigh, hlow⟩ (List.isChain_cons_cons.mp ht).1
      · obtain ⟨hone, hrest⟩ := List.cons.inj h'
        obtain ⟨htwo, hrest⟩ := List.cons.inj hrest
        have hab : a.val = b.val := by omega
        rw [Fin.ext hab, ih hs' ht' hrest]

lemma separate_of_lt {s : Str} (h : ∀ u ∈ units s, u < 0xD800) : Separate s := by
  have hhigh : ∀ a ∈ s, ¬ isHigh a := by
    intro a ha hhigh
    have hu : a.val ∈ unitsOf a := by
      rw [unitsOf, if_pos (by unfold isHigh at hhigh; omega)]
      exact List.mem_singleton_self _
    exact absurd (h _ (List.mem_flatMap.mpr ⟨a, ha, hu⟩)) (not_lt.mpr hhigh.1)
  have hpairs : s.Pairwise fun a b => ¬ (isHigh a ∧ isLow b) :=
    List.pairwise_of_forall_mem_list fun a ha _ _ hab => hhigh a ha hab.1
  exact hpairs.isChain

lemma units_of_lt {s : Str} (h : ∀ c ∈ s, c.val < 0xD800) {u : Nat} (hu : u ∈ units s) :
    u < 0xD800 := by
  obtain ⟨c, hc, hu⟩ := List.mem_flatMap.mp hu
  have hlt := h c hc
  rw [unitsOf, if_pos (by omega)] at hu
  obtain rfl := List.mem_singleton.mp hu
  exact hlt

lemma eq_of_units_of_lt {s t : Str} (ht : ∀ c ∈ t, c.val < 0xD800) (h : units s = units t) :
    s = t :=
  eq_of_units (separate_of_lt fun _ hu => units_of_lt ht (h ▸ hu))
    (separate_of_lt fun _ hu => units_of_lt ht hu) h

/-! ## Their text -/

def hexDigit (n : Nat) : UInt8 := if n < 10 then .ofNat (48 + n) else .ofNat (87 + n)

/-- One unit: as it is, by its letter, or in hexadecimal. -/
def escaped (u : Nat) : Text :=
  if u = 34 ∨ u = 92 then [92, .ofNat u]
  else if u = 8 then [92, 98]
  else if u = 9 then [92, 116]
  else if u = 10 then [92, 110]
  else if u = 12 then [92, 102]
  else if u = 13 then [92, 114]
  else if 32 ≤ u ∧ u ≤ 126 then [.ofNat u]
  else [92, 117, hexDigit (u / 4096 % 16), hexDigit (u / 256 % 16), hexDigit (u / 16 % 16),
    hexDigit (u % 16)]

def quoted (s : Str) : Text := 34 :: (units s).flatMap escaped ++ [34]

def unhex (b : UInt8) : Nat := if b.toNat < 58 then b.toNat - 48 else b.toNat - 87

def unescape (b : UInt8) : Nat :=
  if b = 98 then 8 else if b = 116 then 9 else if b = 110 then 10 else if b = 102 then 12
  else if b = 114 then 13 else b.toNat

def readHex : Text → Option (Nat × Text)
  | a :: b :: c :: d :: rest =>
    some (((unhex a * 16 + unhex b) * 16 + unhex c) * 16 + unhex d, rest)
  | _ => none

/-- The unit a text begins with, if it is not the end of a string. -/
def readUnit : Text → Option (Nat × Text)
  | [] => none
  | b :: rest =>
    if b = 34 then none
    else if b ≠ 92 then some (b.toNat, rest)
    else
      match rest with
      | [] => none
      | e :: rest => if e = 117 then readHex rest else some (unescape e, rest)

lemma unhex_hexDigit {n : Nat} (h : n < 16) : unhex (hexDigit n) = n := by
  have hall : ∀ n < 16, unhex (hexDigit n) = n := by decide
  exact hall n h

lemma readHex_hexDigits {u : Nat} (h : u < 0x10000) (rest : Text) :
    readHex ([hexDigit (u / 4096 % 16), hexDigit (u / 256 % 16), hexDigit (u / 16 % 16),
      hexDigit (u % 16)] ++ rest) = some (u, rest) := by
  have hdigit : ∀ n, unhex (hexDigit (n % 16)) = n % 16 :=
    fun n => unhex_hexDigit (Nat.mod_lt n (by decide))
  simp only [List.cons_append, List.nil_append, readHex, hdigit]
  congr 2
  omega

lemma readUnit_escaped {u : Nat} (h : u < 0x10000) (rest : Text) :
    readUnit (escaped u ++ rest) = some (u, rest) := by
  unfold escaped
  split
  · next hu =>
    rcases hu with rfl | rfl <;> rfl
  split
  · next hu => subst hu; rfl
  split
  · next hu => subst hu; rfl
  split
  · next hu => subst hu; rfl
  split
  · next hu => subst hu; rfl
  split
  · next hu => subst hu; rfl
  split
  · next hquote _ _ _ _ _ hprint =>
    obtain ⟨hquote, hslash⟩ := not_or.mp hquote
    have hnat : (UInt8.ofNat u).toNat = u := UInt8.toNat_ofNat_of_lt (by
      rw [UInt8.size]
      omega)
    have h34 : UInt8.ofNat u ≠ 34 := fun h => hquote (hnat.symm.trans (congrArg UInt8.toNat h))
    have h92 : UInt8.ofNat u ≠ 92 := fun h => hslash (hnat.symm.trans (congrArg UInt8.toNat h))
    simp [readUnit, h34, h92, hnat]
  · exact readHex_hexDigits h rest

lemma escaped_inj {us vs : List Nat} (hus : ∀ u ∈ us, u < 0x10000)
    (hvs : ∀ v ∈ vs, v < 0x10000) {r r' : Text}
    (h : us.flatMap escaped ++ 34 :: r = vs.flatMap escaped ++ 34 :: r') : us = vs ∧ r = r' := by
  have hend : ∀ r : Text, readUnit (34 :: r) = none := fun _ => rfl
  induction us generalizing vs with
  | nil =>
    cases vs with
    | nil => exact ⟨rfl, (List.cons.inj h).2⟩
    | cons v vs =>
      have hread := congrArg readUnit h
      rw [List.flatMap_cons, List.append_assoc,
        readUnit_escaped (hvs v List.mem_cons_self)] at hread
      cases hread
  | cons u us ih =>
    have hread := congrArg readUnit h
    rw [List.flatMap_cons, List.append_assoc, readUnit_escaped (hus u List.mem_cons_self)] at hread
    cases vs with
    | nil => cases hread
    | cons v vs =>
      rw [List.flatMap_cons, List.append_assoc,
        readUnit_escaped (hvs v List.mem_cons_self)] at hread
      obtain ⟨rfl, hrest⟩ := Prod.mk.inj (Option.some.inj hread)
      obtain ⟨rfl, hr⟩ := ih (fun w hw => hus w (List.mem_cons_of_mem u hw))
        (fun w hw => hvs w (List.mem_cons_of_mem u hw)) hrest
      exact ⟨rfl, hr⟩

lemma quoted_inj {s t : Str} {r r' : Text} (h : quoted s ++ r = quoted t ++ r') :
    units s = units t ∧ r = r' := by
  simp only [quoted, List.cons_append, List.append_assoc, List.nil_append] at h
  exact escaped_inj (fun _ => units_lt) (fun _ => units_lt) (List.cons.inj h).2

def isDigit (b : UInt8) : Bool := 48 ≤ b.toNat && b.toNat ≤ 57

def natText (n : Nat) : Text :=
  if n = 0 then [48] else (Nat.digits 10 n).reverse.map fun d => .ofNat (48 + d)

def intText (n : ℤ) : Text := if n < 0 then 45 :: natText n.natAbs else natText n.natAbs

lemma isDigit_of_mem_natText {n : Nat} {b : UInt8} (h : b ∈ natText n) : isDigit b = true := by
  unfold natText at h
  split at h
  · obtain rfl := List.mem_singleton.mp h
    decide
  · obtain ⟨d, hd, rfl⟩ := List.mem_map.mp h
    have hlt := Nat.digits_lt_base (by decide) (List.mem_reverse.mp hd)
    have hall : ∀ d < 10, isDigit (.ofNat (48 + d)) = true := by decide
    exact hall d hlt

lemma natText_ne_nil (n : Nat) : natText n ≠ [] := by
  unfold natText
  split
  · simp
  · next h => simpa using Nat.digits_ne_nil_iff_ne_zero.mpr h

/-- What stands behind a value in an object: a comma, or the end. -/
def Delimited (r : Text) : Prop := ∃ b r', r = b :: r' ∧ (b = 44 ∨ b = 125)

lemma not_isDigit_of_delimited {b : UInt8} (h : b = 44 ∨ b = 125) : isDigit b = false := by
  rcases h with rfl | rfl <;> rfl

lemma digits_end {ds es r r' : Text} {a b : UInt8} (hds : ∀ d ∈ ds, isDigit d = true)
    (hes : ∀ d ∈ es, isDigit d = true) (ha : isDigit a = false) (hb : isDigit b = false)
    (h : ds ++ a :: r = es ++ b :: r') : a :: r = b :: r' := by
  induction ds generalizing es with
  | nil =>
    cases es with
    | nil => exact h
    | cons e es =>
      obtain ⟨rfl, -⟩ := List.cons.inj h
      exact absurd (ha.symm.trans (hes a List.mem_cons_self)) Bool.false_ne_true
  | cons d ds ih =>
    cases es with
    | nil =>
      obtain ⟨rfl, -⟩ := List.cons.inj h
      exact absurd (hb.symm.trans (hds d List.mem_cons_self)) Bool.false_ne_true
    | cons e es =>
      exact ih (fun c hc => hds c (List.mem_cons_of_mem d hc))
        (fun c hc => hes c (List.mem_cons_of_mem e hc)) (List.cons.inj h).2

/-- A float, known by its text and by the integer it is, if any: behind the digits the text
begins with comes a mark that no integer has. -/
structure FloatValue where
  text : Text
  integer : Option ℤ
  marked : ∃ digits mark rest, text = digits ++ mark :: rest ∧ (∀ d ∈ digits, isDigit d = true) ∧
    isDigit mark = false ∧ mark ≠ 34 ∧ mark ≠ 44 ∧ mark ≠ 125

inductive Value where
  | null
  | bool (b : Bool)
  | int (n : ℤ)
  | float (x : FloatValue)
  | str (s : Str)
  | arr (items : List Value)
  | obj (entries : List (Str × Value))

abbrev Object := Dict Str Value

/-- `", ".join`, without the blank. -/
def commas : List Text → Text
  | [] => []
  | item :: items => item ++ items.flatMap fun item => 44 :: item

def keyLe {β : Type} (e e' : Str × β) : Prop := e.1 ≤ e'.1

instance {β : Type} : DecidableRel (keyLe (β := β)) := fun e e' =>
  inferInstanceAs (Decidable (e.1 ≤ e'.1))

def member (e : Str × Text) : Text := quoted e.1 ++ 58 :: e.2

mutual

/-- `json.dumps(value, sort_keys=True, separators=(",", ":"), ensure_ascii=True)`. -/
def dumps : Value → Text
  | .null => [110, 117, 108, 108]
  | .bool b => if b then [116, 114, 117, 101] else [102, 97, 108, 115, 101]
  | .int n => intText n
  | .float x => x.text
  | .str s => quoted s
  | .arr vs => 91 :: commas (dumpsItems vs) ++ [93]
  | .obj es => 123 :: commas (((dumpsEntries es).insertionSort keyLe).map member) ++ [125]

def dumpsItems : List Value → List Text
  | [] => []
  | v :: vs => dumps v :: dumpsItems vs

def dumpsEntries : List (Str × Value) → List (Str × Text)
  | [] => []
  | (k, v) :: es => (k, dumps v) :: dumpsEntries es

end

lemma dumps_str (s : Str) : dumps (.str s) = 34 :: ((units s).flatMap escaped ++ [34]) := by
  rw [dumps, quoted, List.cons_append]

lemma dumps_int {n : ℤ} (h : 0 ≤ n) : dumps (.int n) = natText n.natAbs := by
  rw [dumps, intText, if_neg (not_lt.mpr h)]

/-! ## What the text tells -/

/-- How the text of a value begins: it is a natural's, or behind its digits stands a mark,
which is a quote for strings only. -/
lemma dumps_shape (v : Value) : (dumps v ≠ [] ∧ ∀ b ∈ dumps v, isDigit b = true) ∨
      ∃ ds mark rest, dumps v = ds ++ mark :: rest ∧ (∀ d ∈ ds, isDigit d = true) ∧
        isDigit mark = false ∧ mark ≠ 44 ∧ mark ≠ 125 ∧ (mark = 34 → ∃ s, v = .str s) := by
  have hmark : ∀ (mark : UInt8) (rest : Text), dumps v = mark :: rest → isDigit mark = false →
      mark ≠ 44 → mark ≠ 125 → (mark = 34 → ∃ s, v = .str s) →
      ∃ ds mark rest, dumps v = ds ++ mark :: rest ∧ (∀ d ∈ ds, isDigit d = true) ∧
        isDigit mark = false ∧ mark ≠ 44 ∧ mark ≠ 125 ∧ (mark = 34 → ∃ s, v = .str s) :=
    fun mark rest h hd h44 h125 hs => ⟨[], mark, rest, h, by simp, hd, h44, h125, hs⟩
  cases v with
  | null => exact .inr (hmark 110 _ rfl rfl (by decide) (by decide) fun h => absurd h (by decide))
  | bool b =>
    cases b with
    | false =>
      exact .inr (hmark 102 _ rfl rfl (by decide) (by decide) fun h => absurd h (by decide))
    | true => exact .inr (hmark 116 _ rfl rfl (by decide) (by decide) fun h => absurd h (by decide))
  | int n =>
    by_cases hn : n < 0
    · have htext : dumps (.int n) = 45 :: natText n.natAbs := by simp [dumps, intText, hn]
      exact .inr (hmark 45 _ htext rfl (by decide) (by decide) fun h => absurd h (by decide))
    · rw [dumps_int (not_lt.mp hn)]
      exact .inl ⟨natText_ne_nil _, fun b hb => isDigit_of_mem_natText hb⟩
  | float x =>
    obtain ⟨ds, mark, rest, htext, hds, hmark, h34, h44, h125⟩ := x.marked
    have hdumps : dumps (.float x) = ds ++ mark :: rest := by rw [dumps, htext]
    exact .inr ⟨ds, mark, rest, hdumps, hds, hmark, h44, h125, fun h => absurd h h34⟩
  | str s =>
    exact .inr (hmark 34 _ (dumps_str s) rfl (by decide) (by decide) fun _ => ⟨s, rfl⟩)
  | arr vs =>
    have htext : dumps (.arr vs) = 91 :: (commas (dumpsItems vs) ++ [93]) := by
      rw [dumps, List.cons_append]
    exact .inr (hmark 91 _ htext rfl (by decide) (by decide) fun h => absurd h (by decide))
  | obj es =>
    have htext : dumps (.obj es) =
        123 :: (commas (((dumpsEntries es).insertionSort keyLe).map member) ++ [125]) := by
      rw [dumps, List.cons_append]
    exact .inr (hmark 123 _ htext rfl (by decide) (by decide) fun h => absurd h (by decide))

def Plain : Value → Prop
  | .str _ => True
  | .int n => 0 ≤ n
  | _ => False

/-- Where one side has a string the other has one of the same units. -/
def Agree (v : Value) : Value → Prop
  | .str t => ∃ s, v = .str s ∧ units s = units t
  | _ => True

lemma value_end {v w : Value} (hw : Plain w) {r r' : Text} (hr : Delimited r)
    (hr' : Delimited r') (h : dumps v ++ r = dumps w ++ r') : Agree v w ∧ r = r' := by
  obtain ⟨b, r, rfl, hb⟩ := hr
  obtain ⟨b', r', rfl, hb'⟩ := hr'
  have hbd := not_isDigit_of_delimited hb
  have hbd' := not_isDigit_of_delimited hb'
  cases w with
  | str t =>
    have htext : dumps (.str t) = quoted t := by rw [dumps]
    rw [htext] at h
    -- the quote can only be the mark of another string
    have hquote : ∃ s, v = .str s := by
      rw [quoted, List.cons_append, List.cons_append] at h
      rcases dumps_shape v with ⟨hne, hds⟩ | ⟨ds, mark, rest, hv, hds, -, -, -, hs⟩
      · obtain ⟨d, ds, hd⟩ := List.exists_cons_of_ne_nil hne
        rw [hd] at h hds
        obtain ⟨rfl, -⟩ := List.cons.inj h
        exact absurd (hds 34 List.mem_cons_self) (by decide)
      · rw [hv] at h
        cases ds with
        | nil => exact hs (List.cons.inj h).1
        | cons d ds =>
          obtain ⟨rfl, -⟩ := List.cons.inj h
          exact absurd (hds 34 List.mem_cons_self) (by decide)
    obtain ⟨s, rfl⟩ := hquote
    rw [dumps] at h
    obtain ⟨hunits, hrest⟩ := quoted_inj h
    exact ⟨⟨s, rfl, hunits⟩, hrest⟩
  | int n =>
    rw [dumps_int hw] at h
    have hdigits : ∀ d ∈ natText n.natAbs, isDigit d = true := fun d hd =>
      isDigit_of_mem_natText hd
    refine ⟨trivial, ?_⟩
    rcases dumps_shape v with ⟨-, hds⟩ | ⟨ds, mark, rest, hv, hds, hmark, h44, h125, -⟩
    · exact digits_end hds hdigits hbd hbd' h
    · rw [hv, List.append_assoc, List.cons_append] at h
      obtain ⟨rfl, -⟩ := List.cons.inj (digits_end hds hdigits hmark hbd' h)
      exact absurd hb' (not_or.mpr ⟨h44, h125⟩)
  | _ => cases hw

/-! ## Objects -/

def behind (es : List (Str × Value)) : Text :=
  es.flatMap (fun e => 44 :: member (e.1, dumps e.2)) ++ [125]

lemma behind_cons (e : Str × Value) (es : List (Str × Value)) :
    behind (e :: es) = 44 :: (quoted e.1 ++ 58 :: (dumps e.2 ++ behind es)) := by
  simp [behind, member, List.flatMap_cons]

lemma delimited_behind (es : List (Str × Value)) : Delimited (behind es) := by
  cases es with
  | nil => exact ⟨125, [], rfl, .inr rfl⟩
  | cons e es => exact ⟨44, _, behind_cons e es, .inl rfl⟩

def Matches (e e' : Str × Value) : Prop := units e.1 = units e'.1 ∧ Agree e.2 e'.2

lemma matches_of_behind {es es' : List (Str × Value)} (hplain : ∀ e ∈ es', Plain e.2)
    (h : behind es = behind es') : List.Forall₂ Matches es es' := by
  induction es generalizing es' with
  | nil =>
    cases es' with
    | nil => exact .nil
    | cons e' es' =>
      rw [behind_cons] at h
      exact absurd (List.cons.inj h).1 (by decide)
  | cons e es ih =>
    cases es' with
    | nil =>
      rw [behind_cons] at h
      exact absurd (List.cons.inj h).1 (by decide)
    | cons e' es' =>
      rw [behind_cons, behind_cons] at h
      obtain ⟨hkey, hrest⟩ := quoted_inj (List.cons.inj h).2
      obtain ⟨hvalue, hrest⟩ := value_end (hplain e' List.mem_cons_self) (delimited_behind es)
        (delimited_behind es') (List.cons.inj hrest).2
      exact .cons ⟨hkey, hvalue⟩ (ih (fun d hd => hplain d (List.mem_cons_of_mem e' hd)) hrest)

lemma dumpsEntries_eq (es : List (Str × Value)) :
    dumpsEntries es = es.map fun e => (e.1, dumps e.2) := by
  induction es with
  | nil => rw [dumpsEntries]; rfl
  | cons e es ih => rw [dumpsEntries, ih]; rfl

lemma dumps_obj (es : Object) : dumps (.obj es) = 123 ::
      (commas ((es.insertionSort keyLe).map fun e => member (e.1, dumps e.2)) ++ [125]) := by
  rw [dumps, dumpsEntries_eq, ← List.map_insertionSort (r := keyLe) (s := keyLe)
    (fun e : Str × Value => (e.1, dumps e.2)) es fun _ _ _ _ => Iff.rfl, List.map_map]
  rfl

lemma commas_cons (e : Str × Value) (es : List (Str × Value)) :
    44 :: (commas ((e :: es).map fun e => member (e.1, dumps e.2)) ++ [125]) =
      behind (e :: es) := by
  simp [commas, behind, List.flatMap_map]

lemma behind_of_dumps {es es' : Object} (h : dumps (.obj es) = dumps (.obj es')) :
    behind (es.insertionSort keyLe) = behind (es'.insertionSort keyLe) := by
  rw [dumps_obj, dumps_obj] at h
  have h := (List.cons.inj h).2
  have hhead : ∀ (e : Str × Value) (es : List (Str × Value)),
      commas ((e :: es).map fun e => member (e.1, dumps e.2)) ++ [125] ≠ [125] := by
    intro e es heq
    simp [commas, member, quoted] at heq
  cases hs : es.insertionSort keyLe with
  | nil =>
    rw [hs] at h
    cases hs' : es'.insertionSort keyLe with
    | nil => rfl
    | cons e' rest' =>
      rw [hs'] at h
      exact absurd h.symm (hhead e' rest')
  | cons e rest =>
    rw [hs] at h
    cases hs' : es'.insertionSort keyLe with
    | nil =>
      rw [hs'] at h
      exact absurd h (hhead e rest)
    | cons e' rest' =>
      rw [hs'] at h
      rw [← commas_cons, ← commas_cons, h]

lemma keys_of_matches {ds ds' : Object} (h : List.Forall₂ Matches ds ds')
    (hkeys : ∀ e ∈ ds', ∀ c ∈ e.1, c.val < 0xD800) : ds.map Prod.fst = ds'.map Prod.fst := by
  induction h with
  | nil => rfl
  | cons he _ ih =>
    rw [List.map_cons, List.map_cons, ih fun d hd => hkeys d (List.mem_cons_of_mem _ hd)]
    rw [eq_of_units_of_lt (hkeys _ List.mem_cons_self) he.1]

lemma find_of_matches {ds ds' : Object} (h : List.Forall₂ Matches ds ds')
    (hkeys : ds.map Prod.fst = ds'.map Prod.fst) {k : Str} {w : Value} (hw : find ds' k = some w) :
    ∃ v, find ds k = some v ∧ Agree v w := by
  induction h with
  | nil => cases hw
  | @cons e e' ds ds' he _ ih =>
    obtain ⟨hkey, hkeys⟩ := List.cons.inj hkeys
    rw [find] at hw ⊢
    rw [hkey]
    split at hw
    · next hk =>
      rw [if_pos hk]
      exact ⟨_, rfl, Option.some.inj hw ▸ he.2⟩
    · next hk =>
      rw [if_neg hk]
      exact ih hkeys hw

lemma agree_of_dumps {es es' : Object} (hplain : ∀ e ∈ es', Plain e.2)
    (hkeys : ∀ e ∈ es', ∀ c ∈ e.1, c.val < 0xD800) (hnodup : (es'.map Prod.fst).Nodup)
    (h : dumps (.obj es) = dumps (.obj es')) {k : Str} {w : Value} (hw : find es' k = some w) :
    ∃ v, find es k = some v ∧ Agree v w := by
  let sorted := es.insertionSort keyLe
  let sorted' := es'.insertionSort keyLe
  have hperm' : sorted'.Perm es' := List.perm_insertionSort keyLe es'
  have hperm : sorted.Perm es := List.perm_insertionSort keyLe es
  have hmatch : List.Forall₂ Matches sorted sorted' :=
    matches_of_behind (fun e he => hplain e (hperm'.mem_iff.mp he)) (behind_of_dumps h)
  have hsame : sorted.map Prod.fst = sorted'.map Prod.fst :=
    keys_of_matches hmatch fun e he => hkeys e (hperm'.mem_iff.mp he)
  have hunique' : (sorted'.map Prod.fst).Nodup := (hperm'.map Prod.fst).nodup_iff.mpr hnodup
  have hunique : (sorted.map Prod.fst).Nodup := hsame ▸ hunique'
  rw [← find_perm hperm' hunique'] at hw
  rw [← find_perm hperm hunique]
  exact find_of_matches hmatch hsame hw

end Taramandal.Lib.Json
