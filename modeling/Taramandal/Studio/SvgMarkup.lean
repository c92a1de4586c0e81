import Taramandal.Studio.SvgWalk

/-! # Drawings as they are written

The text of a drawing is tags, with their attributes in quotes, text without an angle bracket,
and comments. What is read from it are the tags that were written. -/
namespace Taramandal.Studio.SvgMarkup

open Lib.Scan Studio.SvgText Studio.SvgWalk
open Studio.VaultClient (isJsSpace)

/-! ## What is written -/

structure Blank where
  chars : List Char
  blank : ∀ c ∈ chars, isJsSpace c = true

/-- Text between tags. -/
structure PlainText where
  chars : List Char
  plain : '<' ∉ chars

/-- What a comment says: anything but its own end. -/
structure CommentText where
  chars : List Char
  unclosed : ¬ "-->".toList <:+: chars

/-- A character that may stand in a name: no blank, no bracket, no quote, no sign. -/
def isPlainChar (c : Char) : Bool :=
  !isJsSpace c && !isQuote c && c ≠ '<' && c ≠ '>' && c ≠ '=' && c ≠ '/'

/-- An attribute, with the blanks around it and its quotes. -/
structure Attribute where
  space : Blank
  name : List Char
  beforeSign : Blank
  behindSign : Blank
  quote : Char
  value : List Char
  space_ne : space.chars ≠ []
  name_plain : name ≠ [] ∧ name.all isPlainChar = true
  quote_isQuote : isQuote quote = true
  value_plain : ∀ c ∈ value, c ≠ quote ∧ c ≠ '<' ∧ c ≠ '>'

def Attribute.Read (a : Attribute) : Prop := ∀ c ∈ a.name, isNameChar c = true

def Attribute.text (a : Attribute) : List Char :=
  a.space.chars ++ (a.name ++ (a.beforeSign.chars ++
    '=' :: (a.behindSign.chars ++ a.quote :: (a.value ++ [a.quote]))))

/-- A name with its attributes, and what stands before the end of the tag. -/
structure Tag where
  name : List Char
  attributes : List Attribute
  space : Blank
  name_chars : name ≠ [] ∧ ∀ c ∈ name, isNameChar c = true

def Tag.kind (t : Tag) : List Char := toLowerCase t.name

def Tag.attrs (t : Tag) : Attributes := t.attributes.map fun a => (toLowerCase a.name, a.value)

/-- A tag whose attributes are read as they are written. -/
def Tag.Read (t : Tag) : Prop := ∀ a ∈ t.attributes, a.Read

def Tag.attrsText (t : Tag) : List Char := t.attributes.flatMap Attribute.text ++ t.space.chars

inductive Lexeme where
  | plain (text : PlainText)
  | comment (text : CommentText)
  | opening (t : Tag) (isSelfClosing : Bool)
  | closing (t : Tag) (space : Blank)

def tagEnd (isSelfClosing : Bool) : List Char := if isSelfClosing then ['/'] else []

def Lexeme.text : Lexeme → List Char
  | .plain text => text.chars
  | .comment text => "<!--".toList ++ (text.chars ++ "-->".toList)
  | .opening t isSelfClosing => '<' :: (t.name ++ ((t.attrsText ++ tagEnd isSelfClosing) ++ ['>']))
  | .closing t space => '<' :: '/' :: (t.name ++ (space.chars ++ ['>']))

def Lexeme.raw? : Lexeme → Option RawTag
  | .plain _ => none
  | .comment _ => none
  | .opening t isSelfClosing => some ⟨false, t.kind, t.attrsText ++ tagEnd isSelfClosing⟩
  | .closing t space => some ⟨true, t.kind, space.chars⟩

variable {c : Char} {t : Tag} {cs : List Char}

lemma isJsSpace_of_isNameChar (h : isNameChar c = true) : isJsSpace c = false := by
  unfold isNameChar Char.isAlphanum Char.isAlpha Char.isUpper Char.isLower Char.isDigit at h
  unfold isJsSpace
  simp only [Bool.or_eq_true, Bool.and_eq_true, decide_eq_true_eq, ge_iff_le,
    UInt32.le_iff_toNat_le] at h
  have hrange : 45 ≤ c.toNat ∧ c.toNat ≤ 122 := by
    rcases h with (((h | h) | h) | rfl) | rfl
    · exact ⟨le_trans (by decide) h.1, le_trans h.2 (by decide)⟩
    · exact ⟨le_trans (by decide) h.1, le_trans h.2 (by decide)⟩
    · exact ⟨le_trans (by decide) h.1, le_trans h.2 (by decide)⟩
    · decide
    · decide
  obtain ⟨hlow, hhigh⟩ := hrange
  simp only [List.contains_cons, List.contains_nil, Bool.or_false, Bool.or_eq_false_iff,
    beq_eq_false_iff_ne, Bool.and_eq_false_iff, decide_eq_false_iff_not]
  omega

lemma span_append {p : Char → Bool} {word rest : List Char} (hword : ∀ c ∈ word, p c = true)
    (hrest : ∀ c ∈ rest.head?, p c = false) : (word ++ rest).span p = (word, rest) := by
  have hnone : rest.takeWhile p = [] ∧ rest.dropWhile p = rest := by
    cases rest with
    | nil => exact ⟨rfl, rfl⟩
    | cons c rest => simp [hrest c rfl]
  rw [List.span_eq_takeWhile_dropWhile, List.takeWhile_append_of_pos hword,
    List.dropWhile_append_of_pos hword, hnone.1, hnone.2, List.append_nil]

lemma dropBlank_append (b : Blank) {rest : List Char}
    (hrest : ∀ c ∈ rest.head?, isJsSpace c = false) :
    (b.chars ++ rest).dropWhile isJsSpace = rest := by
  have hspan := span_append b.blank hrest
  rw [List.span_eq_takeWhile_dropWhile] at hspan
  exact (Prod.mk.inj hspan).2

lemma upTo_append {close : Char} {value : List Char} (h : close ∉ value) (rest : List Char) :
    upTo close (value ++ close :: rest) = some (value, rest) := by
  have hspan : (value ++ close :: rest).span (fun c => decide (c ≠ close)) =
      (value, close :: rest) :=
    span_append (fun c hc => decide_eq_true fun heq => h (heq ▸ hc)) fun c hc => by
      obtain rfl := Option.some.inj hc
      simp
  unfold upTo
  rw [hspan]
  rfl

lemma not_isNameChar_of_head (b : Blank) {s : Char} (hs : isNameChar s = false)
    (rest : List Char) : ∀ c ∈ (b.chars ++ s :: rest).head?, isNameChar c = false := by
  intro c hc
  obtain ⟨cs, hblank⟩ := b
  cases cs with
  | nil =>
    obtain rfl := Option.some.inj hc
    exact hs
  | cons x cs =>
    obtain rfl := Option.some.inj hc
    have hx := hblank x List.mem_cons_self
    by_contra hname
    rw [isJsSpace_of_isNameChar (Bool.eq_true_of_not_eq_false hname)] at hx
    cases hx

lemma eq_of_isQuote (h : isQuote c = true) : c = '\'' ∨ c = '"' := by
  simpa [isQuote] using h

lemma not_isJsSpace_of_isQuote (h : isQuote c = true) : isJsSpace c = false := by
  rcases eq_of_isQuote h with rfl | rfl <;> decide

/-! ## Attributes -/

lemma attributeValue_quoted {q : Char} (hq : isQuote q = true) {value : List Char}
    (h : q ∉ value) (rest : List Char) :
    attributeValue (q :: (value ++ q :: rest)) = some (value, rest) := by
  rcases eq_of_isQuote hq with rfl | rfl
  · show (upTo '\'' (value ++ '\'' :: rest)).orElse _ = _
    rw [upTo_append h]
    rfl
  · show (upTo '"' (value ++ '"' :: rest)).orElse _ = _
    rw [upTo_append h]
    rfl

lemma attributeAt_attribute {a : Attribute} (hread : a.Read) (rest : List Char) :
    attributeAt (a.name ++ (a.beforeSign.chars ++ '=' :: (a.behindSign.chars ++
      a.quote :: (a.value ++ a.quote :: rest)))) = some ((toLowerCase a.name, a.value), rest) := by
  have hvalue : a.quote ∉ a.value := fun h => (a.value_plain _ h).1 rfl
  have hsign : ∀ c ∈ ('=' :: (a.behindSign.chars ++ a.quote :: (a.value ++ a.quote :: rest))).head?,
      isJsSpace c = false := by
    intro c hc
    obtain rfl := Option.some.inj hc
    decide
  have hquote : ∀ c ∈ (a.quote :: (a.value ++ a.quote :: rest)).head?, isJsSpace c = false := by
    intro c hc
    obtain rfl := Option.some.inj hc
    exact not_isJsSpace_of_isQuote a.quote_isQuote
  unfold attributeAt
  rw [span_append hread (not_isNameChar_of_head a.beforeSign (by decide) _)]
  dsimp only
  rw [if_neg a.name_plain.1, dropBlank_append a.beforeSign hsign]
  show (attributeValue (List.dropWhile isJsSpace _)).map _ = _
  rw [dropBlank_append a.behindSign hquote, attributeValue_quoted a.quote_isQuote hvalue]
  rfl

lemma attributeAt_blank (h : isJsSpace c = true) (rest : List Char) :
    attributeAt (c :: rest) = none := by
  have hname : isNameChar c = false := by
    by_contra hname
    rw [isJsSpace_of_isNameChar (Bool.eq_true_of_not_eq_false hname)] at h
    cases h
  unfold attributeAt
  rw [List.span_eq_takeWhile_dropWhile, List.takeWhile_cons_of_neg (by simp [hname])]
  rfl

lemma parseAttributes_attrsText (hread : t.Read) : parseAttributes t.attrsText = t.attrs := by
  have hblank : ∀ (b : Blank) (rest : List Char),
      found attributeAt (b.chars ++ rest) = found attributeAt rest := fun b rest =>
    found_skipped (fun c hc rest => attributeAt_blank (b.blank c hc) rest) rest
  have hall : ∀ attributes : List Attribute, (∀ a ∈ attributes, a.Read) →
      found attributeAt (attributes.flatMap Attribute.text ++ t.space.chars) =
        attributes.map fun a => (toLowerCase a.name, a.value) := by
    intro attributes h
    induction attributes with
    | nil =>
      have hend := hblank t.space []
      rwa [List.append_nil] at hend
    | cons a attributes ih =>
      obtain ⟨ha, hrest⟩ := List.forall_mem_cons.mp h
      let word := a.name ++ (a.beforeSign.chars ++ '=' :: (a.behindSign.chars ++
        a.quote :: (a.value ++ [a.quote])))
      let rest := attributes.flatMap Attribute.text ++ t.space.chars
      have hne : word ≠ [] := List.append_ne_nil_of_left_ne_nil a.name_plain.1 _
      have hmatch : attributeAt (word ++ rest) = some ((toLowerCase a.name, a.value), rest) := by
        rw [← attributeAt_attribute ha rest]
        simp [word]
      rw [List.flatMap_cons, Attribute.text, List.append_assoc, List.append_assoc, hblank]
      exact (found_matched hne hmatch).trans (congrArg _ (ih hrest))
  exact hall t.attributes hread

lemma trimEnd_concat (h : isJsSpace c = false) (cs : List Char) :
    trimEnd (cs ++ [c]) = cs ++ [c] := by
  unfold trimEnd
  rw [List.reverse_append, List.reverse_singleton, List.singleton_append,
    List.dropWhile_cons_of_neg (by simp [h]), List.reverse_cons, List.reverse_reverse]

lemma trimEnd_append (cs : List Char) (b : Blank) : trimEnd (cs ++ b.chars) = trimEnd cs := by
  have hblank : ∀ c ∈ b.chars.reverse, isJsSpace c = true := fun c hc =>
    b.blank c (List.mem_reverse.mp hc)
  unfold trimEnd
  rw [List.reverse_append, List.dropWhile_append_of_pos hblank]

lemma Attribute.text_eq (a : Attribute) : ∃ cs, a.text = cs ++ [a.quote] := by
  refine ⟨a.space.chars ++ (a.name ++ (a.beforeSign.chars ++
    '=' :: (a.behindSign.chars ++ a.quote :: a.value))), ?_⟩
  simp [Attribute.text]

lemma getLast?_attributes (attributes : List Attribute) :
    (trimEnd (attributes.flatMap Attribute.text)).getLast? ≠ some '/' := by
  rcases List.eq_nil_or_concat attributes with rfl | ⟨before, a, rfl⟩
  · decide
  · obtain ⟨cs, hcs⟩ := a.text_eq
    have hquote := a.quote_isQuote
    rw [List.concat_eq_append, List.flatMap_append, List.flatMap_singleton, hcs,
      ← List.append_assoc, trimEnd_concat (not_isJsSpace_of_isQuote hquote), List.getLast?_concat]
    intro h
    rw [Option.some.inj h] at hquote
    exact absurd hquote (by decide)

/-- A tag with its sign is one without content, and its attributes are those that are written. -/
lemma attrs_of_opening (hread : t.Read) (isSelfClosing : Bool) :
    let raw : RawTag := ⟨false, t.kind, t.attrsText ++ tagEnd isSelfClosing⟩
    raw.isSelfClosing = isSelfClosing ∧ raw.attrs = t.attrs := by
  intro raw
  cases isSelfClosing with
  | true =>
    have htrim : trimEnd (t.attrsText ++ ['/']) = t.attrsText ++ ['/'] :=
      trimEnd_concat (by decide) _
    have hself : raw.isSelfClosing = true := by
      show decide ((trimEnd (t.attrsText ++ ['/'])).getLast? = some '/') = true
      rw [htrim, List.getLast?_concat]
      rfl
    refine ⟨hself, ?_⟩
    unfold RawTag.attrs
    rw [if_pos hself]
    show parseAttributes (trimEnd (t.attrsText ++ ['/'])).dropLast = t.attrs
    rw [htrim, List.dropLast_concat, parseAttributes_attrsText hread]
  | false =>
    have hself : raw.isSelfClosing = false := by
      show decide ((trimEnd (t.attrsText ++ [])).getLast? = some '/') = false
      rw [List.append_nil, Tag.attrsText, trimEnd_append]
      exact decide_eq_false (getLast?_attributes t.attributes)
    refine ⟨hself, ?_⟩
    unfold RawTag.attrs
    rw [hself]
    show parseAttributes (t.attrsText ++ []) = t.attrs
    rw [List.append_nil, parseAttributes_attrsText hread]

def Unbracketed (cs : List Char) : Prop := ∀ c ∈ cs, c ≠ '<' ∧ c ≠ '>'

lemma Unbracketed.append {xs ys : List Char} (hx : Unbracketed xs) (hy : Unbracketed ys) :
    Unbracketed (xs ++ ys) :=
  List.forall_mem_append.mpr ⟨hx, hy⟩

lemma Unbracketed.cons {x : Char} {xs : List Char} (h : x ≠ '<' ∧ x ≠ '>')
    (hxs : Unbracketed xs) : Unbracketed (x :: xs) :=
  List.forall_mem_cons.mpr ⟨h, hxs⟩

lemma unbracketed_of {p : Char → Bool} (h : ∀ c ∈ cs, p c = true) (hp : ¬ p '<' ∧ ¬ p '>') :
    Unbracketed cs := by
  intro c hc
  constructor
  · rintro rfl
    exact hp.1 (h _ hc)
  · rintro rfl
    exact hp.2 (h _ hc)

lemma Blank.unbracketed (b : Blank) : Unbracketed b.chars := unbracketed_of b.blank (by decide)

lemma unbracketed_of_isNameChar (h : ∀ c ∈ cs, isNameChar c = true) : Unbracketed cs :=
  unbracketed_of h (by decide)

lemma Attribute.unbracketed (a : Attribute) : Unbracketed a.text := by
  have hname : Unbracketed a.name := unbracketed_of (List.all_eq_true.mp a.name_plain.2) (by decide)
  have hquote : a.quote ≠ '<' ∧ a.quote ≠ '>' := by
    rcases eq_of_isQuote a.quote_isQuote with h | h
    · rw [h]
      decide
    · rw [h]
      decide
  have hvalue : Unbracketed (a.value ++ [a.quote]) :=
    Unbracketed.append (fun c hc => (a.value_plain c hc).2) (List.forall_mem_singleton.mpr hquote)
  have hsigned : Unbracketed (a.behindSign.chars ++ a.quote :: (a.value ++ [a.quote])) :=
    a.behindSign.unbracketed.append (.cons hquote hvalue)
  exact a.space.unbracketed.append
    (hname.append (a.beforeSign.unbracketed.append (.cons (by decide) hsigned)))

lemma Tag.unbracketed (t : Tag) (isSelfClosing : Bool) :
    Unbracketed (t.attrsText ++ tagEnd isSelfClosing) := by
  have hattributes : Unbracketed (t.attributes.flatMap Attribute.text) := by
    intro c hc
    obtain ⟨a, -, ha⟩ := List.mem_flatMap.mp hc
    exact a.unbracketed c ha
  refine (hattributes.append t.space.unbracketed).append ?_
  cases isSelfClosing with
  | true => exact List.forall_mem_singleton.mpr (by decide)
  | false => exact fun c hc => absurd hc List.not_mem_nil

/-! ## Comments -/

lemma behindClose_append (h : ¬ "-->".toList <:+: cs) (rest : List Char) :
    behindClose (cs ++ ("-->".toList ++ rest)) = some rest := by
  induction cs with
  | nil => rfl
  | cons c cs ih =>
    have hcs : ¬ "-->".toList <:+: cs := fun hinfix => h (List.infix_cons hinfix)
    have hnot : "-->".toList.isPrefixOf (c :: (cs ++ ("-->".toList ++ rest))) = false := by
      by_contra hprefix
      have hprefix := List.isPrefixOf_iff_prefix.mp (Bool.eq_true_of_not_eq_false hprefix)
      match cs, h, hprefix with
      -- the end of the comment is too near to begin here as well
      | [], _, hprefix => simp at hprefix
      | [d], _, hprefix => simp at hprefix
      | d :: e :: cs, h, hprefix =>
        have hshort : "-->".toList <+: c :: d :: e :: cs := by
          refine List.prefix_of_prefix_length_le hprefix ?_ (Nat.le_add_left 3 cs.length)
          exact ⟨"-->".toList ++ rest, rfl⟩
        exact h hshort.isInfix
    rw [List.cons_append, behindClose, hnot]
    exact ih hcs

lemma commentAt_comment (text : CommentText) (rest : List Char) :
    commentAt ((Lexeme.comment text).text ++ rest) = some ((), rest) := by
  have hclose := behindClose_append text.unclosed rest
  show (behindClose ((text.chars ++ "-->".toList) ++ rest)).map _ = _
  rw [List.append_assoc, hclose]
  rfl

lemma commentAt_of_ne (h : c ≠ '<') (rest : List Char) : commentAt (c :: rest) = none := by
  unfold commentAt
  rw [if_neg]
  rw [List.isPrefixOf_iff_prefix]
  intro hprefix
  exact h (List.cons_prefix_cons.mp hprefix).1.symm

lemma commentAt_of_second (h : c ≠ '!') (rest : List Char) :
    commentAt ('<' :: c :: rest) = none := by
  unfold commentAt
  rw [if_neg]
  rw [List.isPrefixOf_iff_prefix]
  intro hprefix
  exact h (List.cons_prefix_cons.mp (List.cons_prefix_cons.mp hprefix).2).1.symm

def Lexeme.isComment : Lexeme → Bool
  | .comment _ => true
  | _ => false

lemma without_tag (h : c ≠ '!') {body : List Char} (hbody : '<' ∉ c :: body) (rest : List Char) :
    without commentAt ('<' :: c :: body ++ rest) = '<' :: c :: body ++ without commentAt rest := by
  have hskip : without commentAt ((c :: body) ++ rest) = (c :: body) ++ without commentAt rest :=
    without_skipped (fun s hs rest => commentAt_of_ne (fun heq => hbody (heq ▸ hs)) rest) rest
  rw [List.cons_append, List.cons_append, without_cons (commentAt_of_second h _)]
  exact congrArg _ hskip

lemma not_mem_of_unbracketed (h : Unbracketed cs) : '<' ∉ cs :=
  fun hc => (h _ hc).1 rfl

lemma Tag.name_head (t : Tag) : ∃ c cs, t.name = c :: cs ∧ c ≠ '!' := by
  obtain ⟨c, cs, hname⟩ := List.exists_cons_of_ne_nil t.name_chars.1
  refine ⟨c, cs, hname, ?_⟩
  rintro rfl
  exact absurd (t.name_chars.2 '!' (hname ▸ List.mem_cons_self)) (by decide)

lemma without_lexeme (l : Lexeme) (rest : List Char) : without commentAt (l.text ++ rest) =
      (if l.isComment then [] else l.text) ++ without commentAt rest := by
  cases l with
  | plain text =>
    exact without_skipped (fun s hs rest => commentAt_of_ne (fun h => text.plain (h ▸ hs)) rest) rest
  | comment text => exact without_matched (List.cons_ne_nil _ _) (commentAt_comment text rest)
  | opening t isSelfClosing =>
    obtain ⟨c, cs, hname, hc⟩ := t.name_head
    have hplain := unbracketed_of_isNameChar t.name_chars.2
    have hbody : '<' ∉ t.name ++ ((t.attrsText ++ tagEnd isSelfClosing) ++ ['>']) := by
      rw [List.mem_append, List.mem_append]
      rintro (h | h | h)
      · exact not_mem_of_unbracketed hplain h
      · exact not_mem_of_unbracketed (t.unbracketed isSelfClosing) h
      · exact absurd h (by decide)
    show without commentAt ('<' :: (t.name ++ _) ++ rest) = '<' :: (t.name ++ _) ++ _
    rw [hname] at hbody ⊢
    exact without_tag hc hbody rest
  | closing t space =>
    have hplain := unbracketed_of_isNameChar t.name_chars.2
    have hbody : '<' ∉ '/' :: (t.name ++ (space.chars ++ ['>'])) := by
      rw [List.mem_cons, List.mem_append, List.mem_append]
      rintro (h | h | h | h)
      · exact absurd h (by decide)
      · exact not_mem_of_unbracketed hplain h
      · exact not_mem_of_unbracketed space.unbracketed h
      · exact absurd h (by decide)
    exact without_tag (by decide) hbody rest

/-! ## Tags -/

lemma tagAt_of_ne (h : c ≠ '<') (rest : List Char) : tagAt (c :: rest) = none := by
  unfold tagAt
  split
  · next heq => exact absurd (List.cons.inj heq).1 h
  · next heq => exact absurd (List.cons.inj heq).1 h
  · rfl

lemma tagBody_append {isClosing : Bool} {body : List Char} (hbody : Unbracketed body)
    (hhead : ∀ c ∈ (body ++ ['>']).head?, isNameChar c = false) (rest : List Char) :
    tagBody isClosing (t.name ++ (body ++ '>' :: rest)) =
      some (⟨isClosing, t.kind, body⟩, rest) := by
  have hhead' : ∀ c ∈ (body ++ '>' :: rest).head?, isNameChar c = false := by
    cases body with
    | nil => exact hhead
    | cons x body => exact hhead
  unfold tagBody
  rw [span_append t.name_chars.2 hhead']
  dsimp only
  rw [if_neg t.name_chars.1, upTo_append fun h => (hbody _ h).2 rfl]
  rfl

lemma head_attrsText (t : Tag) (isSelfClosing : Bool) :
    ∀ c ∈ ((t.attrsText ++ tagEnd isSelfClosing) ++ ['>']).head?, isNameChar c = false := by
  have hend : ∀ c ∈ (t.space.chars ++ (tagEnd isSelfClosing ++ ['>'])).head?,
      isNameChar c = false := by
    cases isSelfClosing with
    | true => exact not_isNameChar_of_head t.space (by decide) ['>']
    | false => exact not_isNameChar_of_head t.space (by decide) []
  unfold Tag.attrsText
  cases t.attributes with
  | nil =>
    simpa only [List.flatMap_nil, List.nil_append, List.append_assoc] using hend
  | cons a attributes =>
    obtain ⟨s, blank, hspace⟩ := List.exists_cons_of_ne_nil a.space_ne
    have hs : isJsSpace s = true := a.space.blank s (hspace ▸ List.mem_cons_self)
    intro c hc
    rw [List.flatMap_cons, Attribute.text, hspace] at hc
    obtain rfl := Option.some.inj hc
    by_contra hname
    rw [isJsSpace_of_isNameChar (Bool.eq_true_of_not_eq_false hname)] at hs
    cases hs

lemma tagAt_opening (t : Tag) (isSelfClosing : Bool) (rest : List Char) :
    tagAt ((Lexeme.opening t isSelfClosing).text ++ rest) =
      some (⟨false, t.kind, t.attrsText ++ tagEnd isSelfClosing⟩, rest) := by
  have hbody : tagBody false (t.name ++ ((t.attrsText ++ tagEnd isSelfClosing) ++ '>' :: rest)) =
      some (⟨false, t.kind, t.attrsText ++ tagEnd isSelfClosing⟩, rest) :=
    tagBody_append (t.unbracketed isSelfClosing) (head_attrsText t isSelfClosing) rest
  obtain ⟨c, cs, hname, -⟩ := t.name_head
  have hc : c ≠ '/' := by
    rintro rfl
    exact absurd (t.name_chars.2 '/' (hname ▸ List.mem_cons_self)) (by decide)
  have htext : (Lexeme.opening t isSelfClosing).text ++ rest =
      '<' :: (t.name ++ ((t.attrsText ++ tagEnd isSelfClosing) ++ '>' :: rest)) := by
    simp [Lexeme.text]
  rw [htext, ← hbody, hname]
  unfold tagAt
  split
  · next heq => exact absurd (List.cons.inj (List.cons.inj heq).2).1 hc
  · next heq =>
    rw [(List.cons.inj heq).2]
  · next hno => exact absurd rfl (hno _)

lemma tagAt_closing (t : Tag) (space : Blank) (rest : List Char) :
    tagAt ((Lexeme.closing t space).text ++ rest) = some (⟨true, t.kind, space.chars⟩, rest) := by
  have htext : (Lexeme.closing t space).text ++ rest =
      '<' :: '/' :: (t.name ++ (space.chars ++ '>' :: rest)) := by
    simp [Lexeme.text]
  rw [htext]
  exact tagBody_append space.unbracketed (not_isNameChar_of_head space (by decide) []) rest

lemma tagsOf_lexemes (ls : List Lexeme) :
    tagsOf (ls.flatMap Lexeme.text) = ls.filterMap Lexeme.raw? := by
  have hcomments : ∀ ls : List Lexeme, without commentAt (ls.flatMap Lexeme.text) =
      (ls.filter (!·.isComment)).flatMap Lexeme.text := by
    intro ls
    induction ls with
    | nil => rfl
    | cons l ls ih =>
      rw [List.flatMap_cons, without_lexeme, ih]
      cases l <;> rfl
  unfold tagsOf
  rw [hcomments]
  induction ls with
  | nil => rfl
  | cons l ls ih =>
    cases l with
    | plain text =>
      exact (found_skipped (fun s hs rest => tagAt_of_ne (fun h => text.plain (h ▸ hs)) rest)
        _).trans ih
    | comment text => exact ih
    | opening t isSelfClosing =>
      exact (found_matched (List.cons_ne_nil _ _) (tagAt_opening t isSelfClosing _)).trans
        (congrArg _ ih)
    | closing t space =>
      exact (found_matched (List.cons_ne_nil _ _) (tagAt_closing t space _)).trans (congrArg _ ih)

end Taramandal.Studio.SvgMarkup
