import Mathlib.Data.String.Basic
import Taramandal.Core.Schema

/-! # The Project Vault's files (`project_store.py`)

A project is a directory of the vault with two files, `project.json` and the
show it was built to; a file is written whole or not at all. The encoders, the
decoder and the hash of the standard library are parameters; the decoder reads
back what an encoder wrote. A call on the store may be given the number of its
file operations after which the process dies or a write raises. -/
set_option linter.unusedSectionVars false

namespace Taramandal.Studio.ProjectStore

open Lib.Check Lib.Dict Lib.SortedDict Core.Values Core.Schema

def projectFormat : String := "tara-project"

def projectFormatVersion : ℤ := 1

def showFormatVersion : ℤ := 1

def maxVersions : Nat := 20

def maxReportedShowErrors : Nat := 20

def internalFields : List String := ["show_sha256", "imported_fingerprint"]

/-- `json` and `hashlib`; a `ValueError` is its text. -/
structure Stdlib (K Blob : Type) where
  /-- `json.dumps(v, allow_nan=False, separators=(",", ":"))`. -/
  dumps : PyVal K → Except String Blob
  /-- The same with `sort_keys=True`. -/
  dumpsSorted : PyVal K → Except String Blob
  loads : Blob → Except String (PyVal K)
  /-- `hashlib.sha256(blob).hexdigest()`. -/
  sha256 : Blob → String
  repr : Option (PyVal K) → String
  loads_dumps : ∀ v b, dumps v = .ok b → loads b = .ok v

inductive StoreError where
  | notFound (projectId : String)
  | exists (projectId : String)
  | invalid (message : String)
  | unreadable (message : String)
  | conflict (projectId : String) (currentRevision baseRevision : ℤ)
  /-- A `ValueError` of `json`, not caught. -/
  | valueError (message : String)
  /-- The process died, or a write raised. -/
  | died

def StoreError.text : StoreError → String
  | .notFound projectId | .exists projectId => projectId
  | .invalid message | .unreadable message | .valueError message => message
  | .conflict projectId current base =>
    "project " ++ projectId ++ " is at revision " ++ toString current ++
      ", but the save was based on revision " ++ toString base
  | .died => ""

/-- The two files of a project's directory. -/
structure Directory (Blob : Type) where
  project : Option Blob
  showFile : Option Blob

abbrev Vault (Blob : Type) := Dict String (Directory Blob)

/-- What a client stores. -/
structure Content (K : Type) where
  name : String
  document : PyDict K
  showData : Option (PyDict K)
  validation : PyVal K
  versions : List (PyVal K)

/-- What is said of a show that breaks the schema. -/
structure Warning where
  code : String
  message : String
  errorCount : Nat
  errors : List SchemaError

structure Saved (K : Type) where
  project : PyDict K
  warnings : List Warning

variable {K Blob : Type}

/-! ## Ids and files -/

def isIdChar (c : Char) : Bool := c.isAlphanum || c = '_' || c = '-'

/-- `_ID_RE.fullmatch`. -/
def idMatches (projectId : String) : Bool :=
  match projectId.toList with
  | [] => false
  | c :: rest => c.isAlphanum && rest.all isIdChar && rest.length ≤ 63

def dir (projectId : String) : Except StoreError Unit :=
  if idMatches projectId then .ok ()
  else .error (.invalid
    "a project id is 1-64 letters, digits, '-' or '_', starting with a letter or digit")

section

variable (v : Vault Blob) (projectId : String)

/-- The bytes of a project's `project.json`. -/
def projectFile : Option Blob :=
  (find v projectId).bind Directory.project

def showFileOf : Option Blob :=
  (find v projectId).bind Directory.showFile

/-- `_exists`. -/
def existsProject : Except StoreError Bool :=
  (dir projectId).map fun _ => (projectFile v projectId).isSome

end

/-- `isinstance(v, int)`, and the int. -/
def intOf : Option (PyVal K) → Option ℤ
  | some (.int n) => some n
  | some (.bool b) => some b.toNat
  | _ => none

def hasFormat : Option (PyVal K) → Bool
  | some (.str s) => s = projectFormat
  | _ => false

def shownHash (info : PyDict K) : Option String :=
  match find info "show_sha256" with
  | some (.str s) => if s = "" then none else some s
  | _ => none

variable (P : Stdlib K Blob) (root : String)

def path (projectId : String) : String := root ++ "/" ++ projectId ++ "/project.json"

/-- What `_read_meta` asks of the decoded file. -/
def checkMeta (projectId : String) : PyVal K → Except StoreError (PyDict K)
  | .dict d =>
    if !hasFormat (find d "format") then
      .error (.unreadable (path root projectId ++ " is not a " ++ projectFormat ++ " file"))
    else
      match intOf (find d "format_version") with
      | some n =>
        if projectFormatVersion < n then unreadableVersion d
        else
          match intOf (find d "revision") with
          | some _ => .ok d
          | none => .error (.unreadable (path root projectId ++ " has no revision"))
      | none => unreadableVersion d
  | _ => .error (.unreadable (path root projectId ++ " is not a " ++ projectFormat ++ " file"))
where
  unreadableVersion (d : PyDict K) : Except StoreError (PyDict K) :=
    .error (.unreadable (path root projectId ++ " has format_version " ++
      P.repr (find d "format_version") ++ "; this Studio reads up to " ++
      toString projectFormatVersion))

section

variable (v : Vault Blob) (projectId : String)

def readMeta : Except StoreError (PyDict K) := do
  dir projectId
  match projectFile v projectId with
  | none => .error (.notFound projectId)
  | some raw =>
    match P.loads raw with
    | .error e => .error (.unreadable (path root projectId ++ " is not valid JSON: " ++ e))
    | .ok value =>
      (checkMeta P root projectId value).map fun d => assign d "id" (.str projectId)

def readShow (info : PyDict K) : Option (PyVal K) :=
  match shownHash info, showFileOf v projectId with
  | some expected, some blob =>
    if P.sha256 blob = expected then (P.loads blob).toOption else none
  | _, _ => none

/-- `_public`. -/
def publicFields (info : PyDict K) : PyDict K :=
  assign (info.filter fun e => !internalFields.contains e.1) "has_show"
    (.bool ((shownHash info).isSome && (showFileOf v projectId).isSome))

def get : Except StoreError (PyDict K) := do
  let info ← readMeta P root v projectId
  let built := readShow P v projectId info
  return assign (assign (publicFields v projectId info) "has_show" (.bool built.isSome))
    "show" (built.getD .none)

end

section Commit

variable [Field K] [LinearOrder K]

def conformingShow : Option (PyDict K) → Option (PyDict K) × List Warning
  | none => (none, [])
  | some built =>
    let data := assignAll [("version", .int showFormatVersion)] built
    match validateContainer (.dict data) with
    | .ok _ => (some data, [])
    | .error errors =>
      (none, [{
        code := "show_schema"
        message := "The built trajectory does not match the show schema (show_v1) and was not " ++
          "stored. The rest of the project was saved; rebuild the show and save again."
        errorCount := errors.length
        errors := errors.take maxReportedShowErrors }])

/-- One file operation of a commit. -/
inductive Write (Blob : Type) where
  | putShow (blob : Blob)
  | putProject (blob : Blob)
  | dropShow

def Write.apply (d : Directory Blob) : Write Blob → Directory Blob
  | .putShow blob => { d with showFile := some blob }
  | .putProject blob => { d with project := some blob }
  | .dropShow => { d with showFile := none }

/-- What a commit is about to write. -/
structure Draft (K Blob : Type) where
  info : PyDict K
  showData : Option (PyDict K)
  infoBlob : Blob
  showBlob : Option Blob
  warnings : List Warning

/-- `_dumps`. -/
def dumpsBlob (payload : PyDict K) : Except StoreError Blob :=
  match P.dumps (.dict payload) with
  | .ok blob => .ok blob
  | .error e => .error (.invalid ("project is not valid JSON: " ++ e))

/-- `_commit`, before the first write. -/
def draft (info : PyDict K) (built : Option (PyDict K)) : Except StoreError (Draft K Blob) := do
  let conforming := conformingShow built
  let showBlob ← conforming.1.mapM (dumpsBlob P)
  let info := assign info "show_sha256" ((showBlob.map fun b => .str (P.sha256 b)).getD .none)
  let infoBlob ← dumpsBlob P info
  return { info, showData := conforming.1, infoBlob, showBlob, warnings := conforming.2 }

/-- The writes of a commit, in order: `project.json` is the commit point. -/
def Draft.writes (d : Draft K Blob) : List (Write Blob) :=
  match d.showBlob with
  | some blob => [.putShow blob, .putProject d.infoBlob]
  | none => [.putProject d.infoBlob, .dropShow]

/-- A project was committed or deleted. -/
inductive Event (K : Type) where
  | committed (projectId : String) (info : PyDict K) (showData : Option (PyDict K))
  | deleted (projectId : String)

inductive Reply (K : Type) where
  | project (fields : PyDict K)
  | saved (s : Saved K)
  | imported (s : Saved K) (status : String)
  | done

def Reply.withStatus (status : String) : Reply K → Reply K
  | .saved s => .imported s status
  | reply => reply

/-- The vault after a call, what the caller gets, and what the call committed. -/
structure Result (K Blob : Type) where
  vault : Vault Blob
  reply : Except StoreError (Reply K)
  events : List (Event K)

def Result.refused (v : Vault Blob) (e : StoreError) : Result K Blob := ⟨v, .error e, []⟩

def Write.isCommit : Write Blob → Bool
  | .putProject _ => true
  | _ => false

/-- The vault after those writes in a project's directory. -/
def written (v : Vault Blob) (projectId : String) (ws : List (Write Blob)) : Vault Blob :=
  assign v projectId (ws.foldl Write.apply ((find v projectId).getD ⟨none, none⟩))

/-- `_commit`, up to the given number of its writes. -/
def commit (v : Vault Blob) (projectId : String) (info : PyDict K) (built : Option (PyDict K))
    (fault : Option Nat) : Result K Blob :=
  match draft P info built with
  | .error e => .refused v e
  | .ok d =>
    let ws := (fault.map fun n => d.writes.take n).getD d.writes
    { vault := written v projectId ws
      reply := if fault.isSome then .error .died
        else .ok (.saved ⟨publicFields (written v projectId ws) projectId d.info, d.warnings⟩)
      events := if ws.any Write.isCommit then [.committed projectId d.info d.showData] else [] }

/-! ## The calls -/

def checkVersions (versions : List (PyVal K)) : Except StoreError Unit :=
  if maxVersions < versions.length then
    .error (.invalid ("a project keeps at most " ++ toString maxVersions ++
      " saved versions, got " ++ toString versions.length))
  else .ok ()

/-- `_create`, before its commit: the id and the fields of `project.json`. -/
def createInfo (v : Vault Blob) (projectId : Option String) (uuid now : String) (c : Content K)
    (extra : PyDict K) : Except StoreError (String × PyDict K) := do
  let projectId := projectId.getD ("proj-" ++ uuid)
  if ← existsProject v projectId then .error (.exists projectId)
  else
    checkVersions c.versions
    return (projectId, assignAll
      [("format", .str projectFormat), ("format_version", .int projectFormatVersion),
        ("id", .str projectId), ("name", .str c.name), ("revision", .int 1),
        ("created_at", .str now), ("updated_at", .str now), ("document", .dict c.document),
        ("validation", c.validation), ("versions", .list c.versions)] extra)

def create (v : Vault Blob) (projectId : Option String) (uuid now : String) (c : Content K)
    (fault : Option Nat) : Result K Blob :=
  match createInfo v projectId uuid now c [] with
  | .error e => .refused v e
  | .ok (projectId, info) => commit P v projectId info c.showData fault

/-- `save`, before its commit. -/
def saveInfo (v : Vault Blob) (projectId : String) (baseRevision : ℤ) (now : String)
    (c : Content K) : Except StoreError (PyDict K) := do
  let info ← readMeta P root v projectId
  let revision := (intOf (find info "revision")).getD 0
  if revision ≠ baseRevision then .error (.conflict projectId revision baseRevision)
  else
    checkVersions c.versions
    return assignAll info [("name", .str c.name), ("document", .dict c.document),
      ("validation", c.validation), ("versions", .list c.versions),
      ("revision", .int (revision + 1)), ("updated_at", .str now)]

def save (v : Vault Blob) (projectId : String) (baseRevision : ℤ) (now : String) (c : Content K)
    (fault : Option Nat) : Result K Blob :=
  match saveInfo P root v projectId baseRevision now c with
  | .error e => .refused v e
  | .ok info => commit P v projectId info c.showData fault

/-- `delete`: the directory is moved out of the vault. -/
def delete (v : Vault Blob) (projectId : String) : Result K Blob :=
  match existsProject v projectId with
  | .error e => .refused v e
  | .ok false => .refused v (.notFound projectId)
  | .ok true => ⟨remove v projectId, .ok .done, [.deleted projectId]⟩

/-- `_iter_meta`: every readable project, by id. -/
def iterMeta (v : Vault Blob) : List (PyDict K) :=
  (sorted v).filterMap fun e =>
    if idMatches e.1 then (readMeta P root v e.1).toOption else none

def hasFingerprint (fingerprint : String) (info : PyDict K) : Bool :=
  match find info "imported_fingerprint" with
  | some (.str s) => s = fingerprint
  | _ => false

def idText (info : PyDict K) : String :=
  match find info "id" with
  | some (.str s) => s
  | _ => ""

def importFingerprint (c : Content K) : Except StoreError String :=
  match P.dumpsSorted (.dict [("name", .str c.name), ("document", .dict c.document),
    ("versions", .list c.versions)]) with
  | .ok blob => .ok (P.sha256 blob)
  | .error e => .error (.valueError e)

def firstChars (n : Nat) (s : String) : String := String.ofList (s.toList.take n)

/-- The id an import is stored under, `none` for a new one, and its status. -/
def importId (v : Vault Blob) (sourceId : Option String) (fingerprint : String) :
    Option String × String :=
  match sourceId.filter idMatches with
  | none => (none, "created")
  | some id =>
    if (projectFile v id).isNone then (some id, "created")
    else
      let renamed := firstChars 55 id ++ "-" ++ firstChars 8 fingerprint
      (if (projectFile v renamed).isNone then some renamed else none, "renamed")

def importProject (v : Vault Blob) (sourceId : Option String) (uuid now : String)
    (c : Content K) (fault : Option Nat) : Result K Blob :=
  match importFingerprint P c with
  | .error e => .refused v e
  | .ok fingerprint =>
    match (iterMeta P root v).find? (hasFingerprint fingerprint) with
    | some info => ⟨v, .ok (.imported ⟨publicFields v (idText info) info, []⟩ "skipped"), []⟩
    | none =>
      let (projectId, status) := importId v sourceId fingerprint
      match createInfo v projectId uuid now c [("imported_fingerprint", .str fingerprint)] with
      | .error e => .refused v e
      | .ok (projectId, info) =>
        let r := commit P v projectId info c.showData fault
        { r with reply := r.reply.map (Reply.withStatus status) }

/-- A call of a client. -/
inductive Call (K : Type) where
  | create (projectId : Option String) (uuid now : String) (c : Content K)
  | get (projectId : String)
  | save (projectId : String) (baseRevision : ℤ) (now : String) (c : Content K)
  | delete (projectId : String)
  | importProject (sourceId : Option String) (uuid now : String) (c : Content K)

/-- A call, which may be cut short after some of its writes. -/
def call (v : Vault Blob) (fault : Option Nat) : Call K → Result K Blob
  | .create projectId uuid now c => create P v projectId uuid now c fault
  | .get projectId => ⟨v, (get P root v projectId).map .project, []⟩
  | .save projectId base now c => save P root v projectId base now c fault
  | .delete projectId => delete v projectId
  | .importProject sourceId uuid now c => importProject P root v sourceId uuid now c fault

end Commit

/-! ## What is read -/

/-- What `_read_meta` accepts. -/
structure IsMeta (d : PyDict K) : Prop where
  format : hasFormat (find d "format") = true
  version : ∃ n, intOf (find d "format_version") = some n ∧ n ≤ projectFormatVersion
  revision : ∃ r, intOf (find d "revision") = some r

variable {P root} {v : Vault Blob} {projectId : String}

lemma checkMeta_ok {value : PyVal K} {d : PyDict K} :
    checkMeta P root projectId value = .ok d ↔ value = .dict d ∧ IsMeta d := by
  constructor
  · intro h
    unfold checkMeta at h
    split at h
    next d' =>
      split at h
      next => cases h
      next hformat =>
        split at h
        next n hversion =>
          split at h
          next => cases h
          next hle =>
            split at h
            next r hrevision =>
              cases h
              exact ⟨rfl, by simpa using hformat, ⟨n, hversion, not_lt.mp hle⟩, r, hrevision⟩
            next => cases h
        next => cases h
    next => cases h
  · rintro ⟨rfl, hformat, ⟨n, hversion, hle⟩, r, hrevision⟩
    simp only [checkMeta, hformat, Bool.not_true, Bool.false_eq_true, if_false, hversion,
      if_neg (not_lt.mpr hle), hrevision]

lemma dir_ok : dir projectId = .ok () ↔ idMatches projectId = true := by
  unfold dir
  split <;> simp_all

lemma readMeta_ok {info : PyDict K} : readMeta P root v projectId = .ok info ↔
    ∃ raw d, idMatches projectId = true ∧ projectFile v projectId = some raw ∧
      P.loads raw = .ok (.dict d) ∧ IsMeta d ∧ info = assign d "id" (.str projectId) := by
  constructor
  · intro h
    obtain ⟨_, hdir, h⟩ := bind_eq_ok.mp h
    split at h
    next => cases h
    next raw hfile =>
      split at h
      next => cases h
      next value hloads =>
        obtain ⟨d, hcheck, rfl⟩ := map_eq_ok.mp h
        obtain ⟨rfl, hmeta⟩ := checkMeta_ok.mp hcheck
        exact ⟨raw, d, dir_ok.mp hdir, hfile, hloads, hmeta, rfl⟩
  · rintro ⟨raw, d, hid, hfile, hloads, hmeta, rfl⟩
    refine bind_eq_ok.mpr ⟨(), dir_ok.mpr hid, ?_⟩
    simp only [hfile, hloads]
    exact map_eq_ok.mpr ⟨d, checkMeta_ok.mpr ⟨rfl, hmeta⟩, rfl⟩

lemma readMeta_notFound (hid : idMatches projectId = true)
    (hfile : projectFile v projectId = none) :
    readMeta P root v projectId = .error (.notFound projectId) := by
  rw [readMeta, dir_ok.mpr hid]
  simp only [hfile]
  rfl

/-- The fields of a `project.json` under its id. -/
structure Stored (projectId : String) (info : PyDict K) : Prop extends IsMeta info where
  id : find info "id" = some (.str projectId)

lemma Stored.congr {info info' : PyDict K} (h : Stored projectId info)
    (hformat : find info' "format" = find info "format")
    (hversion : find info' "format_version" = find info "format_version")
    (hid : find info' "id" = find info "id")
    (hrevision : ∃ r, intOf (find info' "revision") = some r) : Stored projectId info' where
  format := hformat ▸ h.format
  version := hversion ▸ h.version
  revision := hrevision
  id := hid.trans h.id

lemma stored_of_readMeta {info : PyDict K} (h : readMeta P root v projectId = .ok info) :
    Stored projectId info := by
  obtain ⟨raw, d, -, -, -, hmeta, rfl⟩ := readMeta_ok.mp h
  refine ⟨⟨?_, ?_, ?_⟩, find_assign_self ..⟩
  · rw [find_assign_ne _ _ (by decide)]; exact hmeta.format
  · rw [find_assign_ne _ _ (by decide)]; exact hmeta.version
  · rw [find_assign_ne _ _ (by decide)]; exact hmeta.revision

lemma readMeta_written {info : PyDict K} {blob : Blob} (hid : idMatches projectId = true)
    (h : Stored projectId info) (hfile : projectFile v projectId = some blob)
    (hdumps : P.dumps (.dict info) = .ok blob) : readMeta P root v projectId = .ok info :=
  readMeta_ok.mpr ⟨blob, info, hid, hfile, P.loads_dumps _ _ hdumps, h.toIsMeta,
    (assign_of_find h.id).symm⟩

lemma find_publicFields {info : PyDict K} {k : String}
    (hk : internalFields.contains k = false) (hshow : k ≠ "has_show") :
    find (publicFields v projectId info) k = find info k := by
  rw [publicFields, find_assign_ne _ _ (Ne.symm hshow),
    find_filter _ (fun k => !internalFields.contains k), hk]
  rfl

lemma find_get {p : PyDict K} (h : get P root v projectId = .ok p) : ∃ info,
    readMeta P root v projectId = .ok info ∧
      ∀ k, internalFields.contains k = false → k ≠ "has_show" → k ≠ "show" →
        find p k = find info k := by
  obtain ⟨info, hread, h⟩ := bind_eq_ok.mp h
  cases h
  refine ⟨info, hread, fun k hk hhas hshow => ?_⟩
  rw [find_assign_ne _ _ (Ne.symm hshow), find_assign_ne _ _ (Ne.symm hhas),
    find_publicFields hk hhas]

section Commit

variable [Field K] [LinearOrder K] {info : PyDict K} {built : Option (PyDict K)}
  {d : Draft K Blob}

/-- What a draft is made of. -/
structure Drafted (P : Stdlib K Blob) (info : PyDict K) (built : Option (PyDict K))
    (d : Draft K Blob) : Prop where
  showData : d.showData = (conformingShow built).1
  info : d.info = assign info "show_sha256"
    ((d.showBlob.map fun b => .str (P.sha256 b)).getD .none)
  infoBlob : P.dumps (.dict d.info) = .ok d.infoBlob
  showBlob : ∀ blob, d.showBlob = some blob →
    ∃ s, d.showData = some s ∧ P.dumps (.dict s) = .ok blob
  noShow : d.showBlob = none → d.showData = none

lemma dumpsBlob_ok {payload : PyDict K} {blob : Blob} :
    dumpsBlob P payload = .ok blob ↔ P.dumps (.dict payload) = .ok blob := by
  unfold dumpsBlob
  split <;> simp_all

lemma draft_ok (h : draft P info built = .ok d) : Drafted P info built d := by
  obtain ⟨showBlob, hshow, h⟩ := bind_eq_ok.mp h
  obtain ⟨infoBlob, hinfo, h⟩ := bind_eq_ok.mp h
  cases h
  refine ⟨rfl, rfl, dumpsBlob_ok.mp hinfo, ?_, ?_⟩
  · rintro blob rfl
    cases hs : (conformingShow built).1 with
    | none => rw [hs] at hshow; cases hshow
    | some s =>
      rw [hs, Option.mapM_some] at hshow
      obtain ⟨b, hb, heq⟩ := map_eq_ok.mp hshow
      cases heq
      exact ⟨s, rfl, dumpsBlob_ok.mp hb⟩
  · rintro rfl
    cases hs : (conformingShow built).1 with
    | none => rfl
    | some s =>
      rw [hs, Option.mapM_some] at hshow
      obtain ⟨b, -, heq⟩ := map_eq_ok.mp hshow
      cases heq

lemma commit_cases (P : Stdlib K Blob) (v : Vault Blob) (projectId : String) (info : PyDict K)
    (built : Option (PyDict K)) (fault : Option Nat) :
    (∃ e, commit P v projectId info built fault = .refused v e) ∨
    ∃ d, Drafted P info built d ∧ commit P v projectId info built fault =
      let ws := (fault.map fun n => d.writes.take n).getD d.writes
      { vault := written v projectId ws
        reply := if fault.isSome then .error .died
          else .ok (.saved ⟨publicFields (written v projectId ws) projectId d.info, d.warnings⟩)
        events := if ws.any Write.isCommit then [.committed projectId d.info d.showData]
          else [] } := by
  unfold commit
  cases hd : draft P info built with
  | error e => exact .inl ⟨e, rfl⟩
  | ok d => exact .inr ⟨d, draft_ok hd, rfl⟩

lemma find_written (v : Vault Blob) (projectId : String) (d : Draft K Blob) :
    find (written v projectId d.writes) projectId = some ⟨some d.infoBlob, d.showBlob⟩ := by
  rw [written, find_assign_self]
  unfold Draft.writes
  split
  next blob hblob => simp [Write.apply, hblob]
  next hblob => simp [Write.apply, hblob]

lemma find_written_ne (v : Vault Blob) {projectId other : String} (ws : List (Write Blob))
    (h : projectId ≠ other) : find (written v projectId ws) other = find v other :=
  find_assign_ne _ _ h

variable {c : Content K}

variable {projectId' : Option String} {uuid : String} {extra : PyDict K} {r : String × PyDict K}
  {base : ℤ}

lemma createInfo_ok {now : String} (h : createInfo v projectId' uuid now c extra = .ok r) :
    idMatches r.1 = true ∧ projectFile v r.1 = none ∧ r.1 = projectId'.getD ("proj-" ++ uuid) ∧
      r.2 = assignAll
        [("format", .str projectFormat), ("format_version", .int projectFormatVersion),
          ("id", .str r.1), ("name", .str c.name), ("revision", .int 1),
          ("created_at", .str now), ("updated_at", .str now), ("document", .dict c.document),
          ("validation", c.validation), ("versions", .list c.versions)] extra := by
  obtain ⟨found, hexists, h⟩ := bind_eq_ok.mp h
  obtain ⟨_, hdir, hfound⟩ := map_eq_ok.mp hexists
  split at h
  next => cases h
  next hfree =>
    obtain ⟨_, -, h⟩ := bind_eq_ok.mp h
    cases h
    refine ⟨dir_ok.mp hdir, ?_, rfl, rfl⟩
    rw [← hfound] at hfree
    simpa using hfree

lemma saveInfo_ok {now : String} {next : PyDict K}
    (h : saveInfo P root v projectId base now c = .ok next) :
    ∃ info, readMeta P root v projectId = .ok info ∧ intOf (find info "revision") = some base ∧
      next = assignAll info [("name", .str c.name), ("document", .dict c.document),
        ("validation", c.validation), ("versions", .list c.versions),
        ("revision", .int (base + 1)), ("updated_at", .str now)] := by
  obtain ⟨info, hread, h⟩ := bind_eq_ok.mp h
  obtain ⟨raw, d, -, -, -, hmeta, rfl⟩ := readMeta_ok.mp hread
  obtain ⟨r, hr⟩ := hmeta.revision
  have hrev : intOf (find (assign d "id" (.str projectId)) "revision") = some r := by
    rw [find_assign_ne _ _ (by decide), hr]
  rw [hrev] at h
  dsimp only [Option.getD_some] at h
  split at h
  next => cases h
  next heq =>
    obtain ⟨_, -, h⟩ := bind_eq_ok.mp h
    cases h
    have hbase : r = base := not_not.mp heq
    subst hbase
    exact ⟨_, hread, hrev, rfl⟩

lemma Drafted.stored (hd : Drafted P info built d) (h : Stored projectId info) :
    Stored projectId d.info := by
  rw [hd.info]
  refine h.congr ?_ ?_ ?_ ?_
  · exact find_assign_ne _ _ (by decide)
  · exact find_assign_ne _ _ (by decide)
  · exact find_assign_ne _ _ (by decide)
  · rw [find_assign_ne _ _ (by decide)]; exact h.revision

lemma saveInfo_stored {now : String} {next : PyDict K}
    (h : saveInfo P root v projectId base now c = .ok next) :
    Stored projectId next ∧ find next "revision" = some (.int (base + 1)) := by
  obtain ⟨info, hread, -, rfl⟩ := saveInfo_ok h
  have hrevision : find (assignAll info [("name", .str c.name), ("document", .dict c.document),
      ("validation", c.validation), ("versions", .list c.versions),
      ("revision", .int (base + 1)), ("updated_at", .str now)]) "revision" =
      some (.int (base + 1)) := find_assignAll_mem (by simp) (by simp)
  refine ⟨(stored_of_readMeta hread).congr ?_ ?_ ?_ ⟨base + 1, by rw [hrevision]; rfl⟩, hrevision⟩
  · exact find_assignAll_ne (by simp)
  · exact find_assignAll_ne (by simp)
  · exact find_assignAll_ne (by simp)

lemma createInfo_stored {now : String} (h : createInfo v projectId' uuid now c extra = .ok r)
    (hextra : ∀ k ∈ ["format", "format_version", "id", "revision"], k ∉ extra.map Prod.fst) :
    Stored r.1 r.2 := by
  obtain ⟨-, -, -, hfields⟩ := createInfo_ok h
  rw [hfields]
  refine ⟨⟨?_, ⟨projectFormatVersion, ?_, le_refl _⟩, ⟨1, ?_⟩⟩, ?_⟩
  · rw [find_assignAll_ne (hextra _ (by simp))]; rfl
  · rw [find_assignAll_ne (hextra _ (by simp))]; rfl
  · rw [find_assignAll_ne (hextra _ (by simp))]; rfl
  · rw [find_assignAll_ne (hextra _ (by simp))]; rfl

end Commit

def plain : Stdlib ℚ (PyVal ℚ) where
  dumps v := .ok v
  dumpsSorted v := .ok v
  loads := .ok
  sha256 _ := "0"
  repr _ := ""
  loads_dumps _ _ h := by cases h; rfl

def named (name : String) : Content ℚ where
  name := name
  document := [("scenes", .list []), ("dronesList", .list [])]
  showData := none
  validation := .none
  versions := []

end Taramandal.Studio.ProjectStore
