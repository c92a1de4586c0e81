import Taramandal.Core.Floats
import Taramandal.Core.Text
import Taramandal.Lib.Check

/-! # One scene from a prompt (`ai_author.propose`)

The model's reply is JSON within JSON, and is checked before it becomes a proposal; a reply that
fails is asked for once more. What is raised inside the call and is of no caught kind goes out. -/
namespace Taramandal.Studio.AiAuthor

open Lib.Check Lib.Dict Core.Floats Core.Values

/-- `SHAPE_TOKENS`: a token, the type and the payload of its shape. -/
def shapeTokens : List (String × String × String) :=
  ["circle", "grid", "line", "heart", "sphere", "vee"].map (fun t => (t, "parametric", t)) ++
    (List.range 10).map (fun d => ("text_" ++ toString d, "text", toString d)) ++
    ["dandiya_sticks", "diya_flame"].map fun t => ("svg_" ++ t, "svg", t)

def uploadedSvgToken : String := "svg_uploaded"

inductive Status where
  | ok | schemaError | unavailable | timeout

structure AIProposal where
  status : Status
  name : Option (List Char) := none
  shapeType : Option String := none
  shapePayload : Option String := none
  scale : Option ℚ := none
  holdSeconds : Option ℚ := none
  transitionSeconds : Option ℚ := none
  unsupported : List String := []
  repaired : Bool := false
  error : Option String := none

/-- What `propose` does not catch, by the name of its class. -/
abbrev Raised := String

/-- What can end the call of the endpoint. -/
inductive Failure where
  | timeout (text : String)
  /-- A `URLError`: whether its reason is a timeout. -/
  | url (text reason : String) (timedOut : Bool)
  /-- A `JSONDecodeError`, a `KeyError` or a `UnicodeDecodeError`. -/
  | invalid (text : String)
  | raised (e : Raised)

def Failure.Caught : Failure → Prop
  | .raised _ => False
  | _ => True

/-- `str.isspace`, of one character. -/
def isSpace (c : Char) : Bool :=
  let n := c.toNat
  (9 ≤ n && n ≤ 13) || (28 ≤ n && n ≤ 32) || (0x2000 ≤ n && n ≤ 0x200A) ||
    n ∈ [0x85, 0xA0, 0x1680, 0x2028, 0x2029, 0x202F, 0x205F, 0x3000]

def strip (s : String) : List Char :=
  ((s.toList.dropWhile isSpace).reverse.dropWhile isSpace).reverse

def text? : PyVal ℚ → Option String
  | .str s => some s
  | _ => none

/-- `list[str]`, of the value of a key. -/
def texts? : Option (PyVal ℚ) → Option (List String)
  | some (.list items) => items.mapM text?
  | _ => none

def nameOf (d : PyDict ℚ) : List Char := (((find d "name").bind text?).map strip).getD []

/-- A `dict` cannot look for a list, nor for another `dict`. -/
def hashable : Option (PyVal ℚ) → Bool
  | some (.list _) | some (.dict _) => false
  | _ => true

def isNumber : Option (PyVal ℚ) → Bool
  | some (.int _) | some (.float _) | some (.inf _) | some .nan => true
  | _ => false

def numberKeys : List String := ["scale", "hold_seconds", "transition_seconds"]

section

variable (d : PyDict ℚ)

def tokenOf : Option (String × String × String) :=
  ((find d "shape").bind text?).bind fun t => shapeTokens.find? fun e => e.1 = t

def nameErrors : List String :=
  if nameOf d = [] then ["name must be a non-empty string"] else []

def shapeErrors (allowUpload : Bool) : List String :=
  if allowUpload then
    if (find d "shape").bind text? = some uploadedSvgToken then []
    else ["shape must be \"" ++ uploadedSvgToken ++ "\" when an SVG was uploaded"]
  else if (tokenOf d).isSome then []
  else
    let tokens := (shapeTokens.map Prod.fst).insertionSort fun a b => decide (a ≤ b)
    ["shape must be one of [" ++ ", ".intercalate (tokens.map fun t => "'" ++ t ++ "'") ++ "]"]

/-- `_field_errors`, of an object. -/
def fieldErrors (allowUpload : Bool) : List String :=
  nameErrors d ++ shapeErrors d allowUpload ++
    (numberKeys.filter fun key => !isNumber (find d key)).map (· ++ " must be a number") ++
    if (texts? (find d "unsupported")).isSome then [] else ["unsupported must be a list of strings"]

end

/-- `float` has room for an integer. -/
def fitsFloat : Option (PyVal ℚ) → Bool
  | some (.int n) => decide (|(n : ℚ)| < overflowFrom)
  | _ => true

/-- `min(high, max(low, float(v)))`; `max` drops a NaN. -/
def clamped (low high : ℚ) : Option (PyVal ℚ) → Except Raised ℚ
  | some (.int n) =>
    if fitsFloat (some (.int n)) then .ok (min high (max low n)) else .error "OverflowError"
  | some (.float x) => .ok (min high (max low x))
  | some (.inf negative) => .ok (if negative then low else high)
  | some .nan => .ok low
  | _ => .error "TypeError"

section

-- `json.loads`, of bytes and of a text
variable (loadBytes : List UInt8 → Except Failure (PyVal ℚ))
  (loadText : String → Except Failure (PyVal ℚ))

/-- `_call_ollama`, from the bytes of the response. -/
def callOllama (response : Except Failure (List UInt8)) : Except Failure (PyVal ℚ) := do
  match ← loadBytes (← response) with
  | .dict body =>
    match find body "response" with
    | some (.str s) => loadText s
    | some _ => .error (.raised "TypeError")
    | none => .error (.invalid "'response'")
  | _ => .error (.raised "TypeError")

def accepted (svgText : Option String) (repaired : Bool) (d : PyDict ℚ) :
    Except Raised AIProposal := do
  let scale ← clamped (1 / 10) 10 (find d "scale")
  let holdSeconds ← clamped 0 60 (find d "hold_seconds")
  let transitionSeconds ← clamped 0 60 (find d "transition_seconds")
  let shape := match svgText with
    | some svg => ("svg", svg)
    | none => ((tokenOf d).map Prod.snd).getD ("", "")
  .ok { status := .ok, name := some ((nameOf d).take 60), shapeType := some shape.1
        shapePayload := some shape.2, scale := some scale, holdSeconds := some holdSeconds
        transitionSeconds := some transitionSeconds
        unsupported := ((texts? (find d "unsupported")).getD []).take 10, repaired }

/-- One turn of the loop: a proposal, or the note for the repair. -/
def attempt (svgText : Option String) (repaired : Bool)
    (response : Except Failure (List UInt8)) : Except Raised (AIProposal ⊕ String) :=
  match callOllama loadBytes loadText response with
  | .error (.timeout text) => .ok (.inl { status := .timeout, error := some text })
  | .error (.url text reason timedOut) => .ok (.inl
      (if timedOut then { status := .timeout, error := some text }
      else { status := .unavailable, error := some reason }))
  | .error (.invalid text) => .ok (.inr ("your reply was not valid JSON (" ++ text ++ ")."))
  | .error (.raised e) => .error e
  | .ok (.dict d) =>
    if svgText.isNone ∧ ¬hashable (find d "shape") then .error "TypeError"
    else
      let errors := fieldErrors d svgText.isSome
      if errors = [] then (accepted svgText repaired d).map .inl
      else .ok (.inr ("; ".intercalate errors))
  | .ok _ => .error "AttributeError"

/-- The loop; `respond` is the endpoint, by the note that is in the prompt. With the result comes
how often it is called. -/
def attempts (svgText : Option String) (respond : Option String → Except Failure (List UInt8)) :
    ℕ → Option String → Except Raised AIProposal × ℕ
  | 0, note => (.ok { status := .schemaError, error := note, repaired := true }, 0)
  | turns + 1, note =>
    match attempt loadBytes loadText svgText note.isSome (respond note) with
    | .error e => (.error e, 1)
    | .ok (.inl proposal) => (.ok proposal, 1)
    | .ok (.inr again) =>
      let rest := attempts svgText respond turns (some again)
      (rest.1, rest.2 + 1)

def propose (svgText : Option String) (respond : Option String → Except Failure (List UInt8)) :
    Except Raised AIProposal × ℕ :=
  attempts loadBytes loadText svgText respond 2 none

end

/-! ## The vocabulary -/

/-- What an accepted proposal is limited to. -/
structure Within (svgText : Option String) (p : AIProposal) : Prop where
  name : ∃ name, p.name = some name ∧ name ≠ [] ∧ name.length ≤ 60
  shape : match svgText with
    | some svg => p.shapeType = some "svg" ∧ p.shapePayload = some svg
    | none => ∃ e ∈ shapeTokens, p.shapeType = some e.2.1 ∧ p.shapePayload = some e.2.2
  scale : ∃ x ∈ Set.Icc (1 / 10) 10, p.scale = some x
  holdSeconds : ∃ x ∈ Set.Icc 0 60, p.holdSeconds = some x
  transitionSeconds : ∃ x ∈ Set.Icc 0 60, p.transitionSeconds = some x
  unsupported : p.unsupported.length ≤ 10

variable {loadBytes : List UInt8 → Except Failure (PyVal ℚ)}
  {loadText : String → Except Failure (PyVal ℚ)} {svgText : Option String} {d : PyDict ℚ}
  {repaired : Bool} {proposal : AIProposal}

lemma clamped_mem {low high : ℚ} (h : low ≤ high) {v : Option (PyVal ℚ)} {x : ℚ}
    (hx : clamped low high v = .ok x) : x ∈ Set.Icc low high := by
  have hclamp : ∀ y : ℚ, min high (max low y) ∈ Set.Icc low high := fun y =>
    ⟨le_min h (le_max_left low y), min_le_left high _⟩
  unfold clamped at hx
  split at hx
  · split at hx
    · exact Except.ok.inj hx ▸ hclamp _
    · cases hx
  · exact Except.ok.inj hx ▸ hclamp _
  · rw [← Except.ok.inj hx]
    split
    · exact ⟨le_rfl, h⟩
    · exact ⟨h, le_rfl⟩
  · exact Except.ok.inj hx ▸ ⟨le_rfl, h⟩
  · cases hx

lemma clamped_ok_iff {v : Option (PyVal ℚ)} (h : isNumber v = true) (low high : ℚ) :
    (∃ x, clamped low high v = .ok x) ↔ fitsFloat v = true := by
  unfold isNumber at h
  split at h
  next n =>
    by_cases hfit : fitsFloat (some (.int n)) = true
    · exact iff_of_true ⟨_, (clamped.eq_1 ..).trans (if_pos hfit)⟩ hfit
    · refine iff_of_false (fun ⟨x, hx⟩ => ?_) hfit
      rw [clamped, if_neg hfit] at hx
      cases hx
  next => exact iff_of_true ⟨_, rfl⟩ rfl
  next => exact iff_of_true ⟨_, rfl⟩ rfl
  next => exact iff_of_true ⟨_, rfl⟩ rfl
  next => cases h

/-- An object without an error has a name, a token, three numbers and a list. -/
lemma fields_of_no_errors {upload : Bool} (h : fieldErrors d upload = []) :
    nameOf d ≠ [] ∧ (upload = false → (tokenOf d).isSome) ∧
      ∀ key ∈ numberKeys, isNumber (find d key) = true := by
  obtain ⟨h, -⟩ := List.append_eq_nil_iff.mp h
  obtain ⟨h, hnumbers⟩ := List.append_eq_nil_iff.mp h
  obtain ⟨hname, hshape⟩ := List.append_eq_nil_iff.mp h
  refine ⟨fun hnil => ?_, fun hupload => ?_, fun key hkey => ?_⟩
  · rw [nameErrors, if_pos hnil] at hname
    cases hname
  · by_contra hnone
    rw [shapeErrors, if_neg (by simp [hupload]), if_neg hnone] at hshape
    cases hshape
  · have hall := List.filter_eq_nil_iff.mp (List.map_eq_nil_iff.mp hnumbers) key hkey
    simpa using hall

variable (repaired) in
lemma accepted_ok_iff (h : fieldErrors d svgText.isSome = []) :
    (∃ p, accepted svgText repaired d = .ok p) ↔
      ∀ key ∈ numberKeys, fitsFloat (find d key) = true := by
  obtain ⟨-, -, hnumbers⟩ := fields_of_no_errors h
  have hall : (∀ key ∈ numberKeys, fitsFloat (find d key) = true) ↔
      (∃ x, clamped (1 / 10) 10 (find d "scale") = .ok x) ∧
      (∃ x, clamped 0 60 (find d "hold_seconds") = .ok x) ∧
      ∃ x, clamped 0 60 (find d "transition_seconds") = .ok x := by
    rw [clamped_ok_iff (hnumbers _ (by decide)), clamped_ok_iff (hnumbers _ (by decide)),
      clamped_ok_iff (hnumbers _ (by decide))]
    simp [numberKeys]
  rw [hall]
  simp only [accepted, bind_eq_ok]
  constructor
  · rintro ⟨p, x, hx, y, hy, z, hz, -⟩
    exact ⟨⟨x, hx⟩, ⟨y, hy⟩, z, hz⟩
  · rintro ⟨⟨x, hx⟩, ⟨y, hy⟩, z, hz⟩
    exact ⟨_, x, hx, y, hy, z, hz, rfl⟩

lemma accepted_within (h : fieldErrors d svgText.isSome = [])
    (hok : accepted svgText repaired d = .ok proposal) : Within svgText proposal := by
  obtain ⟨hname, htoken, -⟩ := fields_of_no_errors h
  simp only [accepted, bind_eq_ok] at hok
  obtain ⟨x, hx, y, hy, z, hz, hok⟩ := hok
  obtain rfl := Except.ok.inj hok
  refine ⟨⟨_, rfl, ?_, List.length_take_le _ _⟩, ?_, ⟨x, clamped_mem (by norm_num) hx, rfl⟩,
    ⟨y, clamped_mem (by norm_num) hy, rfl⟩, ⟨z, clamped_mem (by norm_num) hz, rfl⟩,
    List.length_take_le _ _⟩
  · exact fun hnil => hname ((List.take_eq_nil_iff.mp hnil).resolve_left (by decide))
  · cases svgText with
    | some svg => exact ⟨rfl, rfl⟩
    | none =>
      obtain ⟨e, he⟩ := Option.isSome_iff_exists.mp (htoken rfl)
      obtain ⟨t, -, hfind⟩ := Option.bind_eq_some_iff.mp he
      refine ⟨e, List.mem_of_find?_eq_some hfind, ?_⟩
      rw [he]
      exact ⟨rfl, rfl⟩

/-! ## What a reply can do -/

/-- A parsed answer that nothing trips over: an object, whose shape can be looked up, and whose
numbers fit a float if all its fields are as they should be. -/
def Digestible (upload : Bool) : PyVal ℚ → Prop
  | .dict d => (upload = true ∨ hashable (find d "shape") = true) ∧
    (fieldErrors d upload = [] → ∀ key ∈ numberKeys, fitsFloat (find d key) = true)
  | _ => False

variable (loadBytes loadText) in
/-- A response that does not raise: a caught failure, or an object whose answer, if there is one,
is a text that is no JSON or that is digestible. -/
def Readable (upload : Bool) (response : Except Failure (List UInt8)) : Prop :=
  match response.bind loadBytes with
  | .error f => f.Caught
  | .ok (.dict body) =>
    match find body "response" with
    | some (.str s) =>
      match loadText s with
      | .error f => f.Caught
      | .ok v => Digestible upload v
    | some _ => False
    | none => True
  | .ok _ => False

lemma readable_iff (upload : Bool) (response : Except Failure (List UInt8)) :
    Readable loadBytes loadText upload response ↔
      match callOllama loadBytes loadText response with
      | .error f => f.Caught
      | .ok v => Digestible upload v := by
  have hcall : callOllama loadBytes loadText response = (response.bind loadBytes).bind fun v =>
      match v with
      | .dict body =>
        match find body "response" with
        | some (.str s) => loadText s
        | some _ => .error (.raised "TypeError")
        | none => .error (.invalid "'response'")
      | _ => .error (.raised "TypeError") := by
    cases response <;> rfl
  rw [hcall, Readable]
  cases response.bind loadBytes with
  | error f => exact Iff.rfl
  | ok v =>
    cases v with
    | dict body =>
      dsimp only [Except.bind]
      cases find body "response" with
      | none => exact Iff.rfl
      | some r => cases r <;> exact Iff.rfl
    | _ => exact Iff.rfl

variable (repaired) in
/-- A turn raises unless its response is readable. -/
lemma attempt_ok_iff (response : Except Failure (List UInt8)) :
    (∃ r, attempt loadBytes loadText svgText repaired response = .ok r) ↔
      Readable loadBytes loadText svgText.isSome response := by
  rw [readable_iff, attempt]
  cases callOllama loadBytes loadText response with
  | error f => cases f <;> simp [Failure.Caught]
  | ok v =>
    cases v with
    | dict d =>
      dsimp only [Digestible]
      by_cases hshape : svgText.isNone ∧ ¬hashable (find d "shape")
      · rw [if_pos hshape]
        refine iff_of_false (fun ⟨r, hr⟩ => nomatch hr) fun h => ?_
        rcases h.1 with hupload | hhash
        · simp [Option.isNone_iff_eq_none.mp hshape.1] at hupload
        · exact hshape.2 hhash
      · rw [if_neg hshape, and_iff_right]
        · by_cases herrors : fieldErrors d svgText.isSome = []
          · rw [if_pos herrors, forall_prop_of_true herrors, ← accepted_ok_iff repaired herrors]
            simp only [map_eq_ok]
            exact ⟨fun ⟨_, p, hp, _⟩ => ⟨p, hp⟩, fun ⟨p, hp⟩ => ⟨_, p, hp, rfl⟩⟩
          · rw [if_neg herrors]
            exact iff_of_true ⟨_, rfl⟩ fun h => absurd h herrors
        · cases svgText with
          | some svg => exact .inl rfl
          | none => exact .inr (by simpa using hshape)
    | _ => simp [Digestible]

lemma attempt_within {response : Except Failure (List UInt8)}
    (h : attempt loadBytes loadText svgText repaired response = .ok (.inl proposal))
    (hok : proposal.status = .ok) : Within svgText proposal := by
  unfold attempt at h
  split at h
  next => cases h; cases hok
  next text reason timedOut _ =>
    cases h
    cases timedOut <;> cases hok
  next => cases h
  next => cases h
  next d _ =>
    split at h
    · cases h
    · dsimp only at h
      split at h
      next herrors =>
        obtain ⟨p, hp, heq⟩ := map_eq_ok.mp h
        cases heq
        exact accepted_within herrors hp
      next => cases h
  next => cases h

variable {respond : Option String → Except Failure (List UInt8)}

/-- However many turns there are, an accepted proposal keeps to the vocabulary. -/
lemma attempts_within {turns : ℕ} {note : Option String}
    (h : (attempts loadBytes loadText svgText respond turns note).1 = .ok proposal)
    (hok : proposal.status = .ok) : Within svgText proposal := by
  induction turns generalizing note with
  | zero =>
    cases h
    cases hok
  | succ turns ih =>
    rw [attempts] at h
    split at h
    next => cases h
    next hattempt =>
      cases h
      exact attempt_within hattempt hok
    next => exact ih h

lemma calls_le (turns : ℕ) (note : Option String) :
    (attempts loadBytes loadText svgText respond turns note).2 ≤ turns := by
  induction turns generalizing note with
  | zero => exact le_rfl
  | succ turns ih =>
    rw [attempts]
    split
    next => exact Nat.le_add_left 1 turns
    next => exact Nat.le_add_left 1 turns
    next => exact Nat.succ_le_succ (ih _)

variable (loadBytes loadText svgText respond) in
/-- What is promised of a call: it returns, keeps to the vocabulary, and asks twice at most. -/
def Promised : Prop :=
  (∃ p, (propose loadBytes loadText svgText respond).1 = .ok p ∧
    (p.status = .ok → Within svgText p)) ∧
  (propose loadBytes loadText svgText respond).2 ≤ 2

/-- The promise is kept just where the first response is readable, and so is the second, where the
first is asked to be repaired. -/
theorem promised_iff : Promised loadBytes loadText svgText respond ↔
    Readable loadBytes loadText svgText.isSome (respond none) ∧
      ∀ note, attempt loadBytes loadText svgText false (respond none) = .ok (.inr note) →
        Readable loadBytes loadText svgText.isSome (respond (some note)) := by
  have hreturns : Promised loadBytes loadText svgText respond ↔
      ∃ p, (propose loadBytes loadText svgText respond).1 = .ok p :=
    ⟨fun h => h.1.imp fun _ h => h.1, fun ⟨p, hp⟩ => ⟨⟨p, hp, attempts_within hp⟩, calls_le 2 none⟩⟩
  rw [hreturns, ← attempt_ok_iff false, propose, attempts]
  dsimp only [Option.isSome_none]
  cases attempt loadBytes loadText svgText false (respond none) with
  | error e => simp
  | ok r =>
    cases r with
    | inl p => simp
    | inr note =>
      have hlast : (∃ p, (attempts loadBytes loadText svgText respond 1 (some note)).1 = .ok p) ↔
          ∃ r, attempt loadBytes loadText svgText true (respond (some note)) = .ok r := by
        rw [attempts]
        dsimp only [Option.isSome_some]
        cases attempt loadBytes loadText svgText true (respond (some note)) with
        | error e => simp
        | ok r => cases r <;> simp [attempts]
      dsimp only
      rw [hlast, attempt_ok_iff]
      simp

/-- `json.loads` on the bytes `[]`. -/
def loadEmptyList (bytes : List UInt8) : Except Failure (PyVal ℚ) :=
  if bytes = [91, 93] then .ok (.list []) else .error (.invalid "Expecting value")

/-- A body that is a list: its `response` is a `TypeError`. -/
theorem list_body_raises : ¬ Promised loadEmptyList (fun _ => .error (.invalid "Expecting value"))
    none fun _ => .ok [91, 93] := by
  rintro ⟨⟨p, hp, -⟩, -⟩
  cases hp

end Taramandal.Studio.AiAuthor
