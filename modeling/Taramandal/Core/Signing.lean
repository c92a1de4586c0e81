import Taramandal.Core.Text
import Taramandal.Lib.Base64
import Taramandal.Lib.Check
import Taramandal.Lib.JsonRead

/-! # Signatures of show files

A manifest binds the digest of a file, its length and its extension, and the signature is
over the other members of the manifest, written again in their canonical form. That form
tells every member that is then checked, whatever a manifest has in its place, but a string
only in UTF-16: two surrogates are one there with the character they make.

The signature scheme, the digest, the case mapping and the decoding of bytes are parameters,
and so are the float a text stands for and how a value prints. -/
namespace Taramandal.Core.Signing

open Taramandal.Lib Lib.Check Lib.Dict Lib.Json Lib.JsonRead Core.Values

def lit (s : String) : Str := ofText s.toUTF8.data.toList

def manifestSchema : Str := lit "tara-show-signature/1"

def maxManifestBytes : ℕ := 16 * 1024

structure Platform (Key : Type) where
  sha256 : Bytes → Bytes
  publicKey : Key → Bytes
  sign : Key → Bytes → Bytes
  /-- By public key, signature and message. -/
  verify : Bytes → Bytes → Bytes → Bool
  /-- In the encoding that `json.loads` detects. -/
  decode : Bytes → Option Str
  /-- `float(text)`. -/
  float : Str → FloatValue
  /-- `str(value)`, of no string. -/
  str : Value → Str
  lower : Str → Str

/-- A key accepts what it signed, and ASCII without NUL is decoded as it is. -/
structure Platform.Documented {Key : Type} (P : Platform Key) : Prop where
  accepts : ∀ key message, P.verify (P.publicKey key) (P.sign key message) message = true
  ascii : ∀ text : Bytes, (∀ b ∈ text, Legible b) → P.decode text = some (ofText text)

/-- `hexdigest`, of a digest. -/
def hex (digest : Bytes) : Str :=
  ofText (digest.flatMap fun b => [hexDigit (b.toNat / 16), hexDigit (b.toNat % 16)])

def Ascii (s : Str) : Prop := ∀ c ∈ s, c.val < 128

instance (s : Str) : Decidable (Ascii s) :=
  decidable_of_iff (s.all fun c => c.val < 128) (by simp [Ascii])

def b64encode (bytes : Bytes) : Str := (Base64.encode bytes).map (Fin.ofNat 0x110000)

/-- `base64.b64decode(text, validate=True)`; no other character is a letter of it. -/
def b64decode (text : Str) : Option Bytes := Base64.decode (text.map Fin.val)

def padded (width n : ℕ) : Str :=
  (List.range width).map fun i => .ofNat 0x110000 (48 + n / 10 ^ (width - 1 - i) % 10)

/-- The offset from UTC is in microseconds. -/
structure Datetime where
  year : ℕ
  month : ℕ
  day : ℕ
  hour : ℕ
  minute : ℕ
  second : ℕ
  utcoffset : Option ℤ

def formatOffset (offset : ℤ) : Str :=
  let micros := offset.natAbs
  let seconds := micros / 1000000
  let sign := if offset < 0 then lit "-" else lit "+"
  let minutes := sign ++ padded 2 (seconds / 3600) ++ lit ":" ++ padded 2 (seconds / 60 % 60)
  if micros % 1000000 ≠ 0 then
    minutes ++ lit ":" ++ padded 2 (seconds % 60) ++ lit "." ++ padded 6 (micros % 1000000)
  else if seconds % 60 ≠ 0 then minutes ++ lit ":" ++ padded 2 (seconds % 60)
  else minutes

/-- `isoformat(timespec="seconds")`. -/
def Datetime.isoformat (t : Datetime) : Str :=
  padded 4 t.year ++ lit "-" ++ padded 2 t.month ++ lit "-" ++ padded 2 t.day ++ lit "T" ++
    padded 2 t.hour ++ lit ":" ++ padded 2 t.minute ++ lit ":" ++ padded 2 t.second ++
    (t.utcoffset.map formatOffset).getD []

def slash : CodePoint := 47

def dot : CodePoint := 46

/-- `PurePath(filename).name`: the last part, where empty parts and `.` do not count. -/
def pathName (filename : Str) : Str :=
  ((filename.splitOn slash).filter fun part => part ≠ [] ∧ part ≠ [dot]).getLastD []

/-- `PurePath(filename).suffix`: from the last dot on, if the name neither begins nor ends
with it. -/
def suffix (filename : Str) : Str :=
  let name := pathName filename
  let ext := (name.reverse.takeWhile (· ≠ dot)).reverse
  if dot ∈ name ∧ ext.length + 1 < name.length ∧ ext ≠ [] then dot :: ext else []

section Manifests

variable {Key : Type} (P : Platform Key)

def fileFormat (filename : Str) : Str := (P.lower (suffix filename)).dropWhile (· = dot)

def keyFingerprint (publicKey : Bytes) : Str := (hex (P.sha256 publicKey)).take 16

structure TrustedKey where
  signer : Str
  publicKey : Bytes

def TrustedKey.keyId (trusted : TrustedKey) : Str := keyFingerprint P trusted.publicKey

def signedPayload (manifest : Object) : Bytes := dumps (.obj (remove manifest (lit "signature")))

/-- A call of `sign_show`; without a time it signs at the present. -/
structure SignedShow (Key : Type) where
  content : Bytes
  filename : Str
  key : Key
  signedAt : Option Datetime
  now : Datetime

section

variable (s : SignedShow Key)

def SignedShow.time : Str := (s.signedAt.getD s.now).isoformat

def SignedShow.unsigned : Object :=
  [(lit "schema", .str manifestSchema),
    (lit "format", .str (fileFormat P s.filename)),
    (lit "sha256", .str (hex (P.sha256 s.content))),
    (lit "size", .int s.content.length),
    (lit "key_id", .str (keyFingerprint P (P.publicKey s.key))),
    (lit "signed_at", .str s.time)]

def SignedShow.manifest : Object :=
  assign (s.unsigned P) (lit "signature")
    (.str (b64encode (P.sign s.key (signedPayload (s.unsigned P)))))

def signShow : Bytes := indented (s.manifest P) ++ [10]

end

/-! ## Verifying -/

/-- The reasons `verify_show` gives, with what it names in them. -/
inductive SignatureError where
  | tooLarge
  | notJson
  | notObject
  | unsupportedSchema (schema : Option Value)
  | missing (field : Str)
  | notTrusted (keyId : Option Value)
  | altered
  | otherFormat (signed : Option Value) (upload : Str)
  | modified

structure VerifiedSignature where
  keyId : Str
  signer : Str
  signedAt : Str
  deriving DecidableEq

/-- `value == text`. -/
def eqStr (text : Str) : Value → Bool
  | .str s => s = text
  | _ => false

/-- `value == n`: a truth value and a float are equal to an integer too. -/
def eqInt (n : ℤ) : Value → Bool
  | .int m => m = n
  | .bool b => (if b then 1 else 0) = n
  | .float x => x.integer = some n
  | _ => false

/-- `str(value)`. -/
def strOf : Value → Str
  | .str s => s
  | v => P.str v

def required : List Str :=
  [lit "format", lit "sha256", lit "size", lit "key_id", lit "signed_at", lit "signature"]

def loadManifest (manifestBytes : Bytes) : Except SignatureError Object :=
  if maxManifestBytes < manifestBytes.length then .error .tooLarge
  else
    match (P.decode manifestBytes).bind (loads P.float) with
    | none => .error .notJson
    | some (.obj manifest) =>
      if (find manifest (lit "schema")).any (eqStr manifestSchema) then
        match required.find? fun field => !has manifest field with
        | some field => .error (.missing field)
        | none => .ok manifest
      else .error (.unsupportedSchema (find manifest (lit "schema")))
    | some _ => .error .notObject

/-- `trusted_keys.get(key_id)`, if that is a string. -/
def trustedBy (trustedKeys : Dict Str TrustedKey) (manifest : Object) : Option TrustedKey :=
  match find manifest (lit "key_id") with
  | some (.str keyId) => find trustedKeys keyId
  | _ => none

def presented (manifest : Object) : Option Bytes :=
  (find manifest (lit "signature")).bind fun v => b64decode (strOf P v)

def verifyShow (content : Bytes) (filename : Str) (manifestBytes : Bytes)
    (trustedKeys : Dict Str TrustedKey) : Except SignatureError VerifiedSignature := do
  let manifest ← loadManifest P manifestBytes
  match trustedBy trustedKeys manifest with
  | none => .error (.notTrusted (find manifest (lit "key_id")))
  | some trusted =>
    if (presented P manifest).any fun signature =>
        P.verify trusted.publicKey signature (signedPayload manifest) then
      if (find manifest (lit "format")).any (eqStr (fileFormat P filename)) then
        if (find manifest (lit "size")).any (eqInt content.length) ∧
            (find manifest (lit "sha256")).any (eqStr (hex (P.sha256 content))) then
          .ok {
            keyId := trusted.keyId P
            signer := trusted.signer
            signedAt := ((find manifest (lit "signed_at")).map (strOf P)).getD [] }
        else .error .modified
      else .error (.otherFormat (find manifest (lit "format")) (fileFormat P filename))
    else .error .altered

def keys : List Str :=
  [lit "schema", lit "format", lit "sha256", lit "size", lit "key_id", lit "signed_at"]

lemma keys_unsigned (s : SignedShow Key) : (s.unsigned P).map Prod.fst = keys := rfl

lemma nodup_keys : keys.Nodup := by decide +kernel

lemma nodup_unsigned (s : SignedShow Key) : ((s.unsigned P).map Prod.fst).Nodup := nodup_keys

lemma ascii_keys : ∀ k ∈ keys, Ascii k := by decide +kernel

lemma signature_notMem_keys : lit "signature" ∉ keys := by decide +kernel

variable {k : Str}

lemma remove_of_notMem {β : Type} {d : Dict Str β} (h : k ∉ d.map Prod.fst) : remove d k = d := by
  refine List.filter_eq_self.mpr fun e he => ?_
  have hne : e.1 ≠ k := fun heq => h (heq ▸ List.mem_map_of_mem he)
  simpa using hne

section

variable (s : SignedShow Key)

lemma remove_unsigned : remove (s.unsigned P) (lit "signature") = s.unsigned P :=
  remove_of_notMem (by rw [keys_unsigned]; exact signature_notMem_keys)

lemma mem_schema : (lit "schema", .str manifestSchema) ∈ s.unsigned P := List.mem_cons_self

lemma mem_format : (lit "format", .str (fileFormat P s.filename)) ∈ s.unsigned P :=
  List.mem_of_getElem? (i := 1) rfl

lemma mem_sha256 : (lit "sha256", .str (hex (P.sha256 s.content))) ∈ s.unsigned P :=
  List.mem_of_getElem? (i := 2) rfl

lemma mem_size : (lit "size", .int s.content.length) ∈ s.unsigned P :=
  List.mem_of_getElem? (i := 3) rfl

lemma mem_keyId : (lit "key_id", .str (keyFingerprint P (P.publicKey s.key))) ∈ s.unsigned P :=
  List.mem_of_getElem? (i := 4) rfl

lemma mem_signedAt : (lit "signed_at", .str s.time) ∈ s.unsigned P :=
  List.mem_of_getElem? (i := 5) rfl

end

variable {s : SignedShow Key}

variable {w : Value} {t filename : Str} {n : ℕ} {v : VerifiedSignature}

lemma agree_of_payload {manifest : Object}
    (h : signedPayload manifest = signedPayload (s.unsigned P))
    (hk : (k, w) ∈ s.unsigned P) : ∃ v, find manifest k = some v ∧ Agree v w := by
  rw [signedPayload, signedPayload, remove_unsigned] at h
  have hplain : ∀ e ∈ s.unsigned P, Plain e.2 := by
    simp only [SignedShow.unsigned, List.forall_mem_cons]
    exact ⟨trivial, trivial, trivial, Int.natCast_nonneg _, trivial, trivial, by simp⟩
  have hkeys : ∀ e ∈ s.unsigned P, ∀ c ∈ e.1, c.val < 0xD800 := fun e he c hc =>
    lt_trans (ascii_keys e.1 (keys_unsigned P s ▸ List.mem_map_of_mem he) c hc) (by decide)
  have hnodup := nodup_unsigned P s
  obtain ⟨v, hv, hagree⟩ := agree_of_dumps hplain hkeys hnodup h (find_of_mem hnodup hk)
  have hne : lit "signature" ≠ k := by
    rintro rfl
    exact signature_notMem_keys (keys_unsigned P s ▸ List.mem_map_of_mem hk)
  rw [find_remove_ne _ hne] at hv
  exact ⟨v, hv, hagree⟩

/-! ## ASCII texts -/

lemma Ascii.append {s : Str} (hs : Ascii s) (ht : Ascii t) : Ascii (s ++ t) :=
  List.forall_mem_append.mpr ⟨hs, ht⟩

lemma hexDigit_lt (h : n < 16) : (hexDigit n).toNat < 128 := by
  have hall : ∀ n < 16, (hexDigit n).toNat < 128 := by decide
  exact hall n h

lemma ascii_hex (digest : Bytes) : Ascii (hex digest) := by
  intro c hc
  obtain ⟨b, hb, rfl⟩ := List.mem_map.mp hc
  obtain ⟨d, -, hb⟩ := List.mem_flatMap.mp hb
  have hd := d.toNat_lt
  simp only [List.mem_cons, List.not_mem_nil, or_false] at hb
  rcases hb with rfl | rfl
  · exact hexDigit_lt (by omega)
  · exact hexDigit_lt (by omega)

lemma ascii_padded (width n : ℕ) : Ascii (padded width n) := by
  intro c hc
  obtain ⟨i, -, rfl⟩ := List.mem_map.mp hc
  rw [Fin.val_ofNat]
  omega

lemma ascii_formatOffset (offset : ℤ) : Ascii (formatOffset offset) := by
  have hsign : Ascii (if offset < 0 then lit "-" else lit "+") := by
    split
    · decide +kernel
    · decide +kernel
  have hcolon : Ascii (lit ":") := by decide +kernel
  have hpoint : Ascii (lit ".") := by decide +kernel
  have hminutes := ((hsign.append (ascii_padded 2 (offset.natAbs / 1000000 / 3600))).append
    hcolon).append (ascii_padded 2 (offset.natAbs / 1000000 / 60 % 60))
  have hseconds := (hminutes.append hcolon).append (ascii_padded 2 (offset.natAbs / 1000000 % 60))
  unfold formatOffset
  dsimp only
  split
  · exact (hseconds.append hpoint).append (ascii_padded 6 _)
  split
  · exact hseconds
  · exact hminutes

lemma ascii_isoformat (t : Datetime) : Ascii t.isoformat := by
  have hdash : Ascii (lit "-") := by decide +kernel
  have hcolon : Ascii (lit ":") := by decide +kernel
  have hletter : Ascii (lit "T") := by decide +kernel
  have hdate := ((((ascii_padded 4 t.year).append hdash).append
    (ascii_padded 2 t.month)).append hdash).append (ascii_padded 2 t.day)
  have htime := (((((hdate.append hletter).append (ascii_padded 2 t.hour)).append hcolon).append
    (ascii_padded 2 t.minute)).append hcolon).append (ascii_padded 2 t.second)
  refine htime.append ?_
  cases t.utcoffset with
  | none => exact fun _ h => absurd h List.not_mem_nil
  | some offset => exact ascii_formatOffset offset

lemma eq_of_units_of_ascii {s : Str} (ht : Ascii t) (h : units s = units t) : s = t :=
  eq_of_units_of_lt (fun c hc => lt_trans (ht c hc) (by decide)) h

lemma separate_of_ascii {s : Str} (hs : Ascii s) : Separate s :=
  separate_of_lt fun _ hu => units_of_lt (fun c hc => lt_trans (hs c hc) (by decide)) hu

lemma hex_inj {a b : Bytes} (h : hex a = hex b) : a = b := by
  have hdigits : ∀ (c : UInt8) (cs : Bytes), hex (c :: cs) =
      ofByte (hexDigit (c.toNat / 16)) :: ofByte (hexDigit (c.toNat % 16)) :: hex cs :=
    fun _ _ => rfl
  have hvalue : ∀ {m n : ℕ}, m < 16 → n < 16 → ofByte (hexDigit m) = ofByte (hexDigit n) →
      m = n := by
    intro m n hm hn heq
    have hread := hexValue_hexDigit hm
    rw [heq, hexValue_hexDigit hn] at hread
    exact (Option.some.inj hread).symm
  induction a generalizing b with
  | nil =>
    cases b with
    | nil => rfl
    | cons d b => cases h
  | cons c a ih =>
    cases b with
    | nil => cases h
    | cons d b =>
      have hc := c.toNat_lt
      have hd := d.toNat_lt
      rw [hdigits, hdigits] at h
      obtain ⟨hhigh, h⟩ := List.cons.inj h
      obtain ⟨hlow, hrest⟩ := List.cons.inj h
      have hhigh := hvalue (by omega) (by omega) hhigh
      have hlow := hvalue (by omega) (by omega) hlow
      have hcd : c = d := UInt8.toNat_inj.mp (by omega)
      rw [hcd, ih hrest]

variable {manifestBytes : Bytes}

lemma loadManifest_ok {manifest : Object} (h : loadManifest P manifestBytes = .ok manifest) :
    (P.decode manifestBytes).bind (loads P.float) = some (.obj manifest) := by
  unfold loadManifest at h
  split at h
  · cases h
  split at h
  · cases h
  · next m hm =>
    split at h
    · split at h
      · cases h
      · rw [hm, Except.ok.inj h]
    · cases h
  · cases h

lemma eq_of_eqStr {text : Str} {o : Option Value} (h : o.any (eqStr text) = true) :
    o = some (.str text) := by
  cases o with
  | none => cases h
  | some v =>
    cases v with
    | str s => rw [of_decide_eq_true h]
    | _ => cases h

variable {trustedKeys : Dict Str TrustedKey}

lemma verifyShow_ok {content : Bytes}
    (h : verifyShow P content filename manifestBytes trustedKeys = .ok v) :
    ∃ manifest trusted signature,
      (P.decode manifestBytes).bind (loads P.float) = some (.obj manifest) ∧
      trustedBy trustedKeys manifest = some trusted ∧
      presented P manifest = some signature ∧
      P.verify trusted.publicKey signature (signedPayload manifest) = true ∧
      find manifest (lit "format") = some (.str (fileFormat P filename)) ∧
      find manifest (lit "sha256") = some (.str (hex (P.sha256 content))) ∧
      v = {
        keyId := trusted.keyId P
        signer := trusted.signer
        signedAt := ((find manifest (lit "signed_at")).map (strOf P)).getD [] } := by
  obtain ⟨manifest, hload, h⟩ := bind_eq_ok.mp h
  split at h
  · cases h
  · next trusted htrusted =>
    split at h
    · next hverify =>
      obtain ⟨signature, hsignature, hverify⟩ := (Option.any_eq_true _ _).mp hverify
      split at h
      · next hformat =>
        split at h
        · next hcontent =>
          exact ⟨manifest, trusted, signature, loadManifest_ok P hload, htrusted, hsignature,
            hverify, eq_of_eqStr hformat, eq_of_eqStr hcontent.2, (Except.ok.inj h).symm⟩
        · cases h
      · cases h
    · cases h

/-! ## What signing writes -/

lemma manifest_eq (s : SignedShow Key) : s.manifest P = s.unsigned P ++
    [(lit "signature", .str (b64encode (P.sign s.key (signedPayload (s.unsigned P)))))] :=
  assign_of_fresh _ (by rw [keys_unsigned]; exact signature_notMem_keys)

lemma nodup_manifest (s : SignedShow Key) : ((s.manifest P).map Prod.fst).Nodup :=
  nodup_assign (nodup_unsigned P s) ..

lemma find_manifest (h : (k, w) ∈ s.unsigned P) : find (s.manifest P) k = some w := by
  refine find_of_mem (nodup_manifest P s) ?_
  rw [manifest_eq]
  exact List.mem_append_left _ h

lemma find_signature (s : SignedShow Key) : find (s.manifest P) (lit "signature") =
    some (.str (b64encode (P.sign s.key (signedPayload (s.unsigned P))))) :=
  find_assign_self ..

lemma signedPayload_manifest (s : SignedShow Key) :
    signedPayload (s.manifest P) = signedPayload (s.unsigned P) := by
  rw [signedPayload, signedPayload, manifest_eq, remove, List.filter_append, ← remove]
  simp

lemma b64decode_b64encode (bytes : Bytes) : b64decode (b64encode bytes) = some bytes := by
  have hcodes : (b64encode bytes).map Fin.val = Base64.encode bytes := by
    rw [b64encode, List.map_map]
    refine (List.map_congr_left fun n hn => ?_).trans (List.map_id _)
    exact Nat.mod_eq_of_lt (lt_trans (Base64.encode_lt n hn) (by decide))
  rw [b64decode, hcodes, Base64.decode_encode]

lemma ascii_b64encode (bytes : Bytes) : Ascii (b64encode bytes) := by
  intro c hc
  obtain ⟨n, hn, rfl⟩ := List.mem_map.mp hc
  have hlt := Base64.encode_lt n hn
  rw [Fin.val_ofNat]
  omega

lemma length_natText_le (h : n < 2 ^ 63) : (natText n).length ≤ maxDigits := by
  have hdigits : (Nat.digits 10 n).length ≤ maxDigits :=
    (Nat.digits_length_le_iff (by decide) n).mpr
      (lt_of_lt_of_le h (le_trans (by norm_num) (Nat.pow_le_pow_right (by decide)
        (show 19 ≤ maxDigits by decide))))
  unfold natText
  split
  · decide
  · simpa using hdigits

section

variable (hP : P.Documented) (hsize : s.content.length < 2 ^ 63)
  (hformat : Separate (fileFormat P s.filename))
include hP hsize hformat

/-- A manifest is read back, if it is as long as bytes can be and its extension has no two
halves of a character side by side. -/
lemma loads_signShow :
    (P.decode (signShow P s)).bind (loads P.float) = some (.obj (s.manifest P)) := by
  have hreadable : ∀ e ∈ s.manifest P, Separate e.1 ∧ Readable e.2 := by
    have hkey : ∀ k ∈ keys, Separate k := fun k hk => separate_of_ascii (ascii_keys k hk)
    have hsignature : Ascii (lit "signature") := by decide +kernel
    have hschema : Ascii manifestSchema := by decide +kernel
    have hkeyId : Ascii (keyFingerprint P (P.publicKey s.key)) := fun c hc =>
      ascii_hex _ c (List.mem_of_mem_take hc)
    have hvalues : ∀ e ∈ s.unsigned P, Readable e.2 := by
      simp only [SignedShow.unsigned, List.forall_mem_cons]
      exact ⟨separate_of_ascii hschema, hformat, separate_of_ascii (ascii_hex _),
        ⟨Int.natCast_nonneg _, length_natText_le hsize⟩, separate_of_ascii hkeyId,
        separate_of_ascii (ascii_isoformat _), fun _ h => absurd h List.not_mem_nil⟩
    rw [manifest_eq, List.forall_mem_append, List.forall_mem_singleton]
    exact ⟨fun e he => ⟨hkey e.1 (keys_unsigned P s ▸ List.mem_map_of_mem he), hvalues e he⟩,
      separate_of_ascii hsignature, separate_of_ascii (ascii_b64encode _)⟩
  have hlegible : ∀ b ∈ signShow P s, Legible b :=
    List.forall_mem_append.mpr ⟨legible_indented fun e he => (hreadable e he).2,
      List.forall_mem_singleton.mpr (by decide)⟩
  rw [hP.ascii _ hlegible, Option.bind_some, signShow]
  exact loads_indented P.float hreadable (nodup_manifest P s)

lemma loadManifest_signShow (hlength : (signShow P s).length ≤ maxManifestBytes) :
    loadManifest P (signShow P s) = .ok (s.manifest P) := by
  have hschema : find (s.manifest P) (lit "schema") = some (.str manifestSchema) :=
    find_manifest P (mem_schema P s)
  have hkeys : (s.manifest P).map Prod.fst = keys ++ [lit "signature"] := by
    rw [manifest_eq, List.map_append, keys_unsigned]
    rfl
  have hrequired : (required.find? fun field => !has (s.manifest P) field) = none := by
    have hmem : ∀ field ∈ required, field ∈ keys ++ [lit "signature"] := by decide +kernel
    refine List.find?_eq_none.mpr fun field hfield hmissing => ?_
    have hnone : find (s.manifest P) field = none := by simpa [has] using hmissing
    rw [find_eq_none_iff, hkeys] at hnone
    exact hnone (hmem field hfield)
  unfold loadManifest
  rw [if_neg (not_lt.mpr hlength), loads_signShow P hP hsize hformat]
  simp [hschema, eqStr, hrequired]

end

/-! ## What the trusted keys decide -/

/-- The digest is free of collisions on these contents. -/
def CollisionFree (contents : Set Bytes) : Prop := Set.InjOn P.sha256 contents

/-- What a manifest presents as a signature was not made without the key: if it is one, of
the trusted key that the manifest names and for its payload, then it was made in signing one
of these shows. -/
def Unforged (signed : Set (SignedShow Key)) (manifestBytes : Bytes)
    (trustedKeys : Dict Str TrustedKey) : Prop :=
  ∀ manifest trusted signature,
    (P.decode manifestBytes).bind (loads P.float) = some (.obj manifest) →
    trustedBy trustedKeys manifest = some trusted →
    presented P manifest = some signature →
    P.verify trusted.publicKey signature (signedPayload manifest) = true →
    ∃ s ∈ signed, P.publicKey s.key = trusted.publicKey ∧
      signedPayload (s.unsigned P) = signedPayload manifest

/-- The show was signed by the holder of this key, with these bytes and this extension. -/
structure SignedBy (s : SignedShow Key) (trusted : TrustedKey) (content : Bytes)
    (filename : Str) : Prop where
  key : P.publicKey s.key = trusted.publicKey
  content : s.content = content
  /-- In UTF-16 -/
  format : units (fileFormat P s.filename) = units (fileFormat P filename)

lemma signed_of_verified {signed : Set (SignedShow Key)} {content : Bytes} (hsha : CollisionFree P (insert content (SignedShow.content '' signed)))
    (hsigned : Unforged P signed manifestBytes trustedKeys)
    (h : verifyShow P content filename manifestBytes trustedKeys = .ok v) :
    ∃ manifest trusted, ∃ s ∈ signed,
      (P.decode manifestBytes).bind (loads P.float) = some (.obj manifest) ∧
      trustedBy trustedKeys manifest = some trusted ∧ SignedBy P s trusted content filename ∧
      v = { keyId := trusted.keyId P, signer := trusted.signer, signedAt := s.time } := by
  obtain ⟨manifest, trusted, signature, hload, htrusted, hsignature, hverify, hformat, hdigest,
    rfl⟩ := verifyShow_ok P h
  obtain ⟨s, hs, hkey, hpayload⟩ := hsigned manifest trusted signature hload htrusted hsignature
    hverify
  have hstr : ∀ {k t t' : Str}, (k, Value.str t) ∈ s.unsigned P →
      find manifest k = some (.str t') → units t' = units t := by
    intro k t t' hk ht'
    obtain ⟨v, hv, t'', rfl, hunits⟩ := agree_of_payload P hpayload.symm hk
    rw [hv] at ht'
    obtain rfl := Value.str.inj (Option.some.inj ht')
    exact hunits
  have hformat := hstr (mem_format P s) hformat
  have hdigest := eq_of_units_of_ascii (ascii_hex _) (hstr (mem_sha256 P s) hdigest)
  have hcontent : s.content = content :=
    (hsha (Set.mem_insert ..) (Set.mem_insert_of_mem _ (Set.mem_image_of_mem _ hs))
      (hex_inj hdigest)).symm
  obtain ⟨time, htime, t, rfl, hunits⟩ := agree_of_payload P hpayload.symm (mem_signedAt P s)
  obtain rfl := eq_of_units_of_ascii (ascii_isoformat _) hunits
  refine ⟨manifest, trusted, s, hs, hload, htrusted, ⟨hkey, hcontent, hformat.symm⟩, ?_⟩
  rw [htime]
  rfl

lemma verifyShow_signShow (hP : P.Documented) {trusted : TrustedKey}
    (htrusted : find trustedKeys (keyFingerprint P (P.publicKey s.key)) = some trusted)
    (hkey : trusted.publicKey = P.publicKey s.key) (hsize : s.content.length < 2 ^ 63)
    (hformat : Separate (fileFormat P s.filename))
    (hlength : (signShow P s).length ≤ maxManifestBytes) :
    verifyShow P s.content s.filename (signShow P s) trustedKeys =
      .ok { keyId := keyFingerprint P (P.publicKey s.key), signer := trusted.signer,
            signedAt := s.time } := by
  have hload := loadManifest_signShow P hP hsize hformat hlength
  have htrusted : trustedBy trustedKeys (s.manifest P) = some trusted := by
    rw [trustedBy, find_manifest P (mem_keyId P s)]
    exact htrusted
  have hpresented : presented P (s.manifest P) =
      some (P.sign s.key (signedPayload (s.unsigned P))) := by
    rw [presented, find_signature]
    exact b64decode_b64encode _
  have haccepts := hP.accepts s.key (signedPayload (s.unsigned P))
  simp only [verifyShow, hload, bind, Except.bind, htrusted, hpresented, Option.any_some, hkey,
    signedPayload_manifest, haccepts, if_true, find_manifest P (mem_format P s),
    find_manifest P (mem_size P s), find_manifest P (mem_sha256 P s), eqStr, eqInt, decide_true,
    and_self, find_manifest P (mem_signedAt P s), TrustedKey.keyId]
  rfl

lemma length_dumps_le {es : Object} {e : Str × Value} (he : e ∈ es) :
    (dumps e.2).length ≤ (indented es).length := by
  have hline : ∀ d : Str × Value, (dumps d.2).length ≤ (line d).length := by
    intro d
    simp only [line, List.length_cons, List.length_append]
    omega
  cases es with
  | nil => cases he
  | cons d es =>
    simp only [indented, List.length_cons, List.length_append]
    rcases List.mem_cons.mp he with rfl | he
    · have := hline e
      omega
    · obtain ⟨before, behind, rfl⟩ := List.append_of_mem he
      have := hline e
      simp only [List.flatMap_append, List.flatMap_cons, List.length_append, List.length_cons]
      omega

lemma length_fileFormat_lt (s : SignedShow Key) :
    (fileFormat P s.filename).length < (signShow P s).length := by
  have hmem : (lit "format", Value.str (fileFormat P s.filename)) ∈ s.manifest P := by
    rw [manifest_eq]
    exact List.mem_append_left _ (mem_format P s)
  have hlength := length_dumps_le hmem
  have hquoted := length_le_escaped (fileFormat P s.filename)
  rw [dumps, quoted, List.length_append, List.length_cons] at hlength
  rw [signShow, List.length_append, List.length_singleton]
  omega

lemma verifyShow_tooLarge (h : maxManifestBytes ≤
    (fileFormat P s.filename).length) (trustedKeys : Dict Str TrustedKey) :
    verifyShow P s.content s.filename (signShow P s) trustedKeys = .error .tooLarge := by
  have hlength := length_fileFormat_lt P s
  rw [verifyShow, loadManifest, if_pos (lt_of_le_of_lt h hlength)]
  rfl

lemma suffix_ext {stem ext : Str} (hstem : stem ≠ []) (hslash : slash ∉ stem ++ dot :: ext)
    (hdot : dot ∉ ext) (hext : ext ≠ []) : suffix (stem ++ dot :: ext) = dot :: ext := by
  have hname : pathName (stem ++ dot :: ext) = stem ++ dot :: ext := by
    have hsplit := List.splitOn_eq_singleton hslash
    have hpart : stem ++ dot :: ext ≠ [dot] := by
      intro h
      have hlength := congrArg List.length h
      have hpos := List.length_pos_iff.mpr hstem
      simp only [List.length_append, List.length_cons, List.length_nil] at hlength
      omega
    rw [pathName, hsplit, List.filter_singleton]
    simp [hpart]
  have htake : ((stem ++ dot :: ext).reverse.takeWhile (· ≠ dot)).reverse = ext := by
    have hall : ∀ c ∈ ext.reverse, decide (c ≠ dot) = true := by
      intro c hc
      exact decide_eq_true fun h => hdot (h ▸ List.mem_reverse.mp hc)
    rw [List.reverse_append, List.reverse_cons, List.append_assoc,
      List.takeWhile_append_of_pos hall, List.singleton_append,
      List.takeWhile_cons_of_neg (by simp), List.append_nil, List.reverse_reverse]
  unfold suffix
  rw [hname]
  dsimp only
  rw [htake, if_pos]
  have hpos := List.length_pos_iff.mpr hstem
  refine ⟨by simp, ?_, hext⟩
  rw [List.length_append, List.length_cons]
  omega

end Manifests

/-! ## Shows signed with a published test key -/

def testPublicKey : Bytes :=
  [215, 90, 152, 1, 130, 177, 10, 183, 213, 75, 254, 211, 201, 100, 7, 58, 14, 225, 114, 243,
    218, 166, 35, 37, 175, 2, 26, 104, 247, 7, 81, 26]

def emptyDigest : Bytes :=
  [227, 176, 196, 66, 152, 252, 28, 20, 154, 251, 244, 200, 153, 111, 185, 36, 39, 174, 65, 228,
    100, 155, 147, 76, 164, 149, 153, 27, 120, 82, 184, 85]

def testKeyDigest : Bytes :=
  [33, 254, 49, 223, 161, 84, 162, 97, 98, 107, 248, 84, 4, 111, 210, 39, 27, 123, 237, 75, 106,
    190, 69, 170, 88, 135, 126, 244, 127, 151, 33, 185]

def asciiLower (s : Str) : Str :=
  s.map fun c => if 65 ≤ c.val ∧ c.val ≤ 90 then .ofNat 0x110000 (c.val + 32) else c

/-- Of a text only its own bytes are looked at, not all there are. -/
instance (priority := high) (text : Bytes) : Decidable (∀ b ∈ text, Legible b) :=
  List.decidableBAll Legible text

def bare : Platform Unit where
  sha256 bytes := if bytes = [] then emptyDigest else if bytes = testPublicKey then testKeyDigest
    else []
  publicKey _ := testPublicKey
  sign _ _ := []
  verify _ _ _ := true
  decode text := if ∀ b ∈ text, Legible b then some (ofText text) else none
  float _ := nan
  str _ := []
  lower := asciiLower

def newYear : Datetime := ⟨2026, 1, 1, 0, 0, 0, some 0⟩

def emptyShow (filename : Str) : SignedShow Unit := ⟨[], filename, (), some newYear, newYear⟩

/-- `show.json` -/
def jsonShow : SignedShow Unit := emptyShow (lit "show.json")

/-- `a.` and the two halves of a character. -/
def halvesShow : SignedShow Unit := emptyShow [97, 46, 0xD83D, 0xDE00]

def testSignature (message : Bytes) : Bytes :=
  if message = signedPayload (jsonShow.unsigned bare) then
    [82, 21, 22, 149, 25, 36, 15, 146, 201, 17, 145, 57, 214, 106, 69, 177, 150, 105, 61, 89, 153,
      164, 140, 117, 91, 68, 97, 139, 117, 76, 235, 122, 69, 37, 134, 30, 219, 150, 29, 159, 213,
      180, 189, 14, 204, 67, 49, 243, 201, 85, 132, 126, 34, 206, 149, 166, 226, 60, 49, 143, 206,
      44, 95, 7]
  else if message = signedPayload (halvesShow.unsigned bare) then
    [207, 37, 35, 105, 10, 138, 164, 239, 27, 101, 29, 67, 64, 16, 121, 145, 3, 160, 210, 143, 23,
      203, 63, 150, 204, 59, 0, 73, 177, 19, 154, 159, 72, 235, 62, 13, 11, 229, 123, 85, 67, 71,
      218, 198, 155, 132, 29, 93, 152, 13, 142, 163, 192, 245, 47, 6, 203, 28, 21, 202, 47, 57, 70,
      11]
  else List.replicate 64 0

def testPlatform : Platform Unit :=
  { bare with
    sign := fun _ => testSignature
    verify := fun publicKey signature message =>
      publicKey = testPublicKey ∧ signature = testSignature message }

lemma testPlatform_documented : testPlatform.Documented where
  accepts _ _ := decide_eq_true ⟨rfl, rfl⟩
  ascii _ h := if_pos h

def alice : TrustedKey := ⟨lit "Alice", testPublicKey⟩

def aliceOnly : Dict Str TrustedKey := [(alice.keyId testPlatform, alice)]

lemma trusted_alice {manifest : Object} {trusted : TrustedKey}
    (h : trustedBy aliceOnly manifest = some trusted) : trusted = alice := by
  unfold trustedBy at h
  split at h
  · obtain ⟨-, heq⟩ := Prod.mk.inj (List.mem_singleton.mp (mem_of_find h))
    exact heq
  · cases h

lemma unforged_alice {s : SignedShow Unit} {manifestBytes : Bytes} (h : ∀ manifest,
      (testPlatform.decode manifestBytes).bind (loads testPlatform.float) = some (.obj manifest) →
      signedPayload manifest = signedPayload (s.unsigned testPlatform)) :
    Unforged testPlatform {s} manifestBytes aliceOnly := by
  intro manifest trusted signature hload htrusted _ _
  obtain rfl := trusted_alice htrusted
  exact ⟨s, rfl, rfl, (h manifest hload).symm⟩

lemma collisionFree_empty (filename : Str) :
    CollisionFree testPlatform (insert [] (SignedShow.content '' {emptyShow filename})) := by
  have hcontents : insert [] (SignedShow.content '' {emptyShow filename}) = {[]} := by
    rw [Set.image_singleton]
    exact Set.pair_eq_singleton []
  rw [hcontents]
  exact Set.injOn_singleton ..

/-! ## Signatures bind -/

/-- A file passes only if the holder of the key that the manifest names signed these bytes
under this extension, in UTF-16; and what signing writes passes, if it is no longer than a
manifest may be and the extension has no two halves of a character side by side. -/
theorem signatures_bind {Key : Type} (P : Platform Key) :
    (∀ (signed : Set (SignedShow Key)) content filename manifestBytes trustedKeys v,
      CollisionFree P (insert content (SignedShow.content '' signed)) →
      Unforged P signed manifestBytes trustedKeys →
      verifyShow P content filename manifestBytes trustedKeys = .ok v →
      ∃ manifest trusted, ∃ s ∈ signed,
        (P.decode manifestBytes).bind (loads P.float) = some (.obj manifest) ∧
        trustedBy trustedKeys manifest = some trusted ∧
        SignedBy P s trusted content filename ∧
        (Separate (fileFormat P s.filename) → Separate (fileFormat P filename) →
          fileFormat P s.filename = fileFormat P filename) ∧
        v = { keyId := trusted.keyId P, signer := trusted.signer, signedAt := s.time }) ∧
    (P.Documented → ∀ (s : SignedShow Key) trustedKeys trusted,
      find trustedKeys (keyFingerprint P (P.publicKey s.key)) = some trusted →
      trusted.publicKey = P.publicKey s.key → s.content.length < 2 ^ 63 →
      Separate (fileFormat P s.filename) → (signShow P s).length ≤ maxManifestBytes →
      verifyShow P s.content s.filename (signShow P s) trustedKeys =
        .ok { keyId := keyFingerprint P (P.publicKey s.key), signer := trusted.signer,
              signedAt := s.time }) := by
  constructor
  · intro signed content filename manifestBytes trustedKeys v hsha hsigned h
    obtain ⟨manifest, trusted, s, hs, hload, htrusted, hby, hv⟩ :=
      signed_of_verified P hsha hsigned h
    exact ⟨manifest, trusted, s, hs, hload, htrusted, hby,
      fun hsep hsep' => eq_of_units hsep hsep' hby.format, hv⟩
  · intro hP s trustedKeys trusted htrusted hkey hsize hformat hlength
    exact verifyShow_signShow P hP htrusted hkey hsize hformat hlength

theorem signatures_bind_json : (∃ manifest trusted, ∃ s ∈ ({jsonShow} : Set (SignedShow Unit)),
      (testPlatform.decode (signShow testPlatform jsonShow)).bind (loads testPlatform.float) =
        some (.obj manifest) ∧
      trustedBy aliceOnly manifest = some trusted ∧
      SignedBy testPlatform s trusted [] jsonShow.filename ∧
      (Separate (fileFormat testPlatform s.filename) →
        Separate (fileFormat testPlatform jsonShow.filename) →
        fileFormat testPlatform s.filename = fileFormat testPlatform jsonShow.filename) ∧
      (⟨alice.keyId testPlatform, alice.signer, jsonShow.time⟩ : VerifiedSignature) =
        { keyId := trusted.keyId testPlatform, signer := trusted.signer, signedAt := s.time }) ∧
    verifyShow testPlatform [] jsonShow.filename (signShow testPlatform jsonShow) aliceOnly =
      .ok ⟨alice.keyId testPlatform, alice.signer, jsonShow.time⟩ := by
  obtain ⟨hsound, haccepts⟩ := signatures_bind testPlatform
  have hseparate : Separate (fileFormat testPlatform jsonShow.filename) := by decide +kernel
  have hlength : (signShow testPlatform jsonShow).length ≤ maxManifestBytes := by decide +kernel
  have hverified := haccepts testPlatform_documented jsonShow aliceOnly alice (if_pos rfl) rfl
    (by decide) hseparate hlength
  have hunforged : Unforged testPlatform {jsonShow} (signShow testPlatform jsonShow) aliceOnly := by
    refine unforged_alice fun manifest hload => ?_
    rw [loads_signShow testPlatform testPlatform_documented (by decide) hseparate] at hload
    obtain rfl := Value.obj.inj (Option.some.inj hload)
    exact signedPayload_manifest testPlatform jsonShow
  exact ⟨hsound {jsonShow} [] jsonShow.filename _ aliceOnly _ (collisionFree_empty _) hunforged
    hverified, hverified⟩

def xs (n : ℕ) : Str := [97] ++ dot :: List.replicate n 120

lemma length_fileFormat_xs {n : ℕ} (hn : 0 < n) : (fileFormat testPlatform (xs n)).length = n := by
  have hx : ∀ {c : CodePoint}, c ∈ List.replicate n 120 → c = 120 := List.eq_of_mem_replicate
  have hext : List.replicate n (120 : CodePoint) ≠ [] :=
    List.ne_nil_of_length_pos (by rwa [List.length_replicate])
  have hdot : dot ∉ List.replicate n (120 : CodePoint) := fun hmem =>
    absurd (hx hmem) (by decide)
  have hslash : slash ∉ [97] ++ dot :: List.replicate n (120 : CodePoint) := by
    rw [List.singleton_append, List.mem_cons, List.mem_cons, not_or, not_or]
    exact ⟨by decide, by decide, fun hmem => absurd (hx hmem) (by decide)⟩
  have hsuffix : suffix (xs n) = dot :: List.replicate n 120 :=
    suffix_ext (List.cons_ne_nil 97 []) hslash hdot hext
  have hlower : testPlatform.lower (dot :: List.replicate n 120) = dot :: List.replicate n 120 := by
    change asciiLower _ = _
    rw [asciiLower, List.map_cons, List.map_replicate]
    rfl
  have hdrop : (dot :: List.replicate n (120 : CodePoint)).dropWhile (· = dot) =
      List.replicate n 120 := by
    rw [List.dropWhile_cons_of_pos (by simp), List.dropWhile_replicate]
    rfl
  rw [fileFormat, hsuffix, hlower, hdrop, List.length_replicate]

def payloadOf : Value → Option Bytes
  | .obj manifest => some (signedPayload manifest)
  | _ => none

def longShow : SignedShow Unit := emptyShow (xs maxManifestBytes)

/-- A file passes that was signed under another extension, which its character is written as
in UTF-16; and a manifest for a long extension is refused. -/
theorem extension_lost :
    (CollisionFree testPlatform (insert [] (SignedShow.content '' {halvesShow})) ∧
      Unforged testPlatform {halvesShow} (signShow testPlatform halvesShow) aliceOnly ∧
      (verifyShow testPlatform [] [97, 46, 0x1F600] (signShow testPlatform halvesShow)
        aliceOnly).toOption = some ⟨alice.keyId testPlatform, alice.signer, halvesShow.time⟩ ∧
      ∀ s ∈ ({halvesShow} : Set (SignedShow Unit)),
        fileFormat testPlatform s.filename ≠ fileFormat testPlatform [97, 46, 0x1F600]) ∧
    (find aliceOnly (keyFingerprint testPlatform (testPlatform.publicKey longShow.key)) =
        some alice ∧ alice.publicKey = testPlatform.publicKey longShow.key ∧
      verifyShow testPlatform longShow.content longShow.filename (signShow testPlatform longShow)
        aliceOnly = .error .tooLarge) := by
  have hunforged : Unforged testPlatform {halvesShow} (signShow testPlatform halvesShow)
      aliceOnly := by
    have hread : ((testPlatform.decode (signShow testPlatform halvesShow)).bind
        (loads testPlatform.float)).bind payloadOf =
          some (signedPayload (halvesShow.unsigned testPlatform)) := by decide +kernel
    refine unforged_alice fun manifest hload => ?_
    rw [hload] at hread
    exact Option.some.inj hread
  have hother : fileFormat testPlatform halvesShow.filename ≠
      fileFormat testPlatform [97, 46, 0x1F600] := by decide +kernel
  have hlong : maxManifestBytes ≤ (fileFormat testPlatform longShow.filename).length :=
    (length_fileFormat_xs (by decide)).ge
  refine ⟨⟨collisionFree_empty _, hunforged, by decide +kernel, ?_⟩, if_pos rfl, rfl,
    verifyShow_tooLarge testPlatform hlong aliceOnly⟩
  rintro s rfl
  exact hother

end Taramandal.Core.Signing
