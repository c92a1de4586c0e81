import Taramandal.Studio.LostUpdate

/-! # Importing again

A project that an import made keeps the fingerprint of what was imported through every
edit, so importing the same again is skipped for as long as the project is in the store. -/
set_option linter.unusedSectionVars false

namespace Taramandal.Studio.ProjectStore

open Lib.Dict Lib.SortedDict Lib.Run Core.Values

variable {K Blob : Type} {P : Stdlib K Blob} {root : String} {v w : Vault Blob}
  {projectId fingerprint : String}

def Holds (P : Stdlib K Blob) (root fingerprint projectId : String) (v : Vault Blob) : Prop :=
  ∃ info, readMeta P root v projectId = .ok info ∧
    find info "imported_fingerprint" = some (.str fingerprint)

lemma readMeta_congr (h : cell w projectId = cell v projectId) :
    readMeta P root w projectId = readMeta P root v projectId := by
  rw [readMeta, readMeta, projectFile_eq, projectFile_eq, h]

lemma hasFingerprint_iff {info : PyDict K} : hasFingerprint fingerprint info = true ↔
    find info "imported_fingerprint" = some (.str fingerprint) := by
  unfold hasFingerprint
  split
  next s hs => rw [hs, decide_eq_true_iff, Option.some.injEq, PyVal.str.injEq]
  next hs =>
    exact ⟨by simp, fun h => absurd h (hs fingerprint)⟩

lemma mem_iterMeta {info : PyDict K} : info ∈ iterMeta P root v ↔
    ∃ projectId, readMeta P root v projectId = .ok info := by
  rw [iterMeta, List.mem_filterMap]
  constructor
  · rintro ⟨e, -, he⟩
    split at he
    next =>
      refine ⟨e.1, ?_⟩
      cases hread : readMeta P root v e.1 with
      | error err => rw [hread] at he; cases he
      | ok info' => rw [hread] at he; cases he; rfl
    next => cases he
  · rintro ⟨id, hread⟩
    obtain ⟨raw, d, hid, hfile, -⟩ := readMeta_ok.mp hread
    obtain ⟨files, hfind, -⟩ := Option.bind_eq_some_iff.mp hfile
    refine ⟨(id, files), (sorted_perm v).mem_iff.mpr (mem_of_find hfind), ?_⟩
    rw [if_pos hid, hread]
    rfl

lemma Holds.found (h : Holds P root fingerprint projectId v) :
    ((iterMeta P root v).find? (hasFingerprint fingerprint)).isSome := by
  obtain ⟨info, hread, hfp⟩ := h
  rw [List.find?_isSome]
  exact ⟨info, mem_iterMeta.mpr ⟨projectId, hread⟩, hasFingerprint_iff.mpr hfp⟩

section Calls

variable [Field K] [LinearOrder K]

variable {reply : Reply K} {c : Content K}

variable (root) in
lemma readMeta_commit {info : PyDict K} {built : Option (PyDict K)}
    (hid : idMatches projectId = true) (hstored : Stored projectId info)
    (h : (commit P v projectId info built none).reply = .ok reply) :
    ∃ d s, readMeta P root (commit P v projectId info built none).vault projectId = .ok d ∧
      reply = .saved s ∧ (∀ k, k ≠ "show_sha256" → find d k = find info k) ∧
      find s.project "id" = some (.str projectId) := by
  rcases commit_cases P v projectId info built none with ⟨e, he⟩ | ⟨d, hd, he⟩
  · rw [he] at h
    cases h
  · rw [he] at h ⊢
    cases h
    have hfile : projectFile (written v projectId d.writes) projectId = some d.infoBlob := by
      rw [projectFile, find_written v projectId d]
      rfl
    refine ⟨d.info, _, readMeta_written hid (hd.stored hstored) hfile hd.infoBlob, rfl,
      fun k hk => ?_, ?_⟩
    · rw [hd.info, find_assign_ne _ _ (Ne.symm hk)]
    · rw [find_publicFields (by decide) (by decide)]
      exact (hd.stored hstored).id

lemma Holds.save {base : ℤ} {now : String} (h : Holds P root fingerprint projectId v)
    (hreply : (save P root v projectId base now c none).reply = .ok reply) :
    Holds P root fingerprint projectId
      (ProjectStore.save P root v projectId base now c none).vault := by
  obtain ⟨info, hread, hfp⟩ := h
  unfold ProjectStore.save at hreply ⊢
  cases hinfo : saveInfo P root v projectId base now c with
  | error e => rw [hinfo] at hreply; cases hreply
  | ok next =>
    simp only [hinfo] at hreply ⊢
    obtain ⟨info', hread', -, hnext⟩ := saveInfo_ok hinfo
    obtain rfl : info = info' := Except.ok.inj (hread.symm.trans hread')
    obtain ⟨_, _, hid, -⟩ := readMeta_ok.mp hread
    obtain ⟨d, -, hd, -, hfields, -⟩ := readMeta_commit root hid (saveInfo_stored hinfo).1 hreply
    refine ⟨d, hd, ?_⟩
    rw [hfields _ (by decide), hnext, find_assignAll_ne (by simp), hfp]

lemma Holds.step {l : Call K} {o : List (Except StoreError (Reply K))}
    (h : Holds P root fingerprint projectId v)
    (hstays : cell (call P root v none l).vault projectId ≠ none)
    (hs : ProjectStore.step P root v l = some (w, o)) : Holds P root fingerprint projectId w := by
  cases hs
  have hsame : cell (call P root v none l).vault projectId = cell v projectId →
      Holds P root fingerprint projectId (call P root v none l).vault := by
    intro heq
    obtain ⟨info, hread, hfp⟩ := h
    exact ⟨info, (readMeta_congr heq).trans hread, hfp⟩
  by_cases hsave : ∃ base now content, l = .save projectId base now content
  · obtain ⟨base, now, content, rfl⟩ := hsave
    cases hreply : (ProjectStore.save P root v projectId base now content none).reply with
    | error e =>
      refine hsame ?_
      rw [call, save_error hreply]
      rfl
    | ok reply => exact h.save hreply
  · push Not at hsave
    rcases call_cell_other P root v l projectId hsave with heq | heq | heq
    · exact hsame heq
    · exact absurd heq hstays
    · obtain ⟨info, hread, -⟩ := h
      obtain ⟨c, hc⟩ := cell_of_readMeta hread
      exact absurd (hc.symm.trans heq) (Option.some_ne_none c)

/-! ## What an import does -/

/-- The one project that an import added: nothing was there before, and the project can be
opened and saved. -/
structure Added (P : Stdlib K Blob) (root : String) (v w : Vault Blob) (sourceId : Option String)
    (uuid fingerprint : String) (c : Content K) (status projectId : String) : Prop where
  id : projectId = "proj-" ++ uuid ∨ ∃ source, sourceId = some source ∧
    (projectId = source ∧ status = "created" ∨
      projectId = firstChars 55 source ++ "-" ++ firstChars 8 fingerprint ∧ status = "renamed")
  valid : idMatches projectId = true
  fresh : projectFile v projectId = none
  others : ∀ other, projectId ≠ other → cell w other = cell v other
  stored : ∃ p, get P root w projectId = .ok p ∧ find p "id" = some (.str projectId) ∧
    find p "name" = some (.str c.name) ∧ find p "document" = some (.dict c.document) ∧
    find p "versions" = some (.list c.versions) ∧ find p "revision" = some (.int 1)
  saves : ∀ now next, next.versions.length ≤ maxVersions →
    ∃ info, saveInfo P root w projectId 1 now next = .ok info
  holds : Holds P root fingerprint projectId w

lemma importId_cases (v : Vault Blob) (sourceId : Option String) (uuid fingerprint : String) :
    let id := (importId v sourceId fingerprint).1.getD ("proj-" ++ uuid)
    let status := (importId v sourceId fingerprint).2
    status ≠ "skipped" ∧ (id = "proj-" ++ uuid ∨ ∃ source, sourceId = some source ∧
      (id = source ∧ status = "created" ∨
        id = firstChars 55 source ++ "-" ++ firstChars 8 fingerprint ∧ status = "renamed")) := by
  unfold importId
  split
  next => exact ⟨(by decide : "created" ≠ "skipped"), .inl rfl⟩
  next id hid =>
    have hsource : sourceId = some id := (Option.filter_eq_some_iff.mp hid).1
    split
    next => exact ⟨(by decide : "created" ≠ "skipped"), .inr ⟨id, hsource, .inl ⟨rfl, rfl⟩⟩⟩
    next =>
      dsimp only
      split
      next => exact ⟨(by decide : "renamed" ≠ "skipped"), .inr ⟨id, hsource, .inr ⟨rfl, rfl⟩⟩⟩
      next => exact ⟨(by decide : "renamed" ≠ "skipped"), .inl rfl⟩

variable (root) in
lemma added_of_commit {sourceId : Option String} {uuid now status id : String}
    {made : String × PyDict K}
    (hinfo : createInfo v (importId v sourceId fingerprint).1 uuid now c
      [("imported_fingerprint", .str fingerprint)] = .ok made)
    (hstatus : (importId v sourceId fingerprint).2 = status) (hmade : made.1 = id)
    (h : (commit P v id made.2 c.showData none).reply = .ok reply) :
    Added P root v (commit P v id made.2 c.showData none).vault sourceId uuid fingerprint c status
      id ∧ ∃ s, reply = .saved s ∧ find s.project "id" = some (.str id) := by
  subst hstatus hmade
  obtain ⟨hvalid, hfresh, hid, hfields⟩ := createInfo_ok hinfo
  have hstored := createInfo_stored hinfo (by simp)
  obtain ⟨d, s, hread, hreply, hkept, hsaved⟩ := readMeta_commit root hvalid hstored h
  have hshow := (importId_cases v sourceId uuid fingerprint).2
  rw [← hid] at hshow
  have hfield : ∀ k x, k ≠ "show_sha256" → find made.2 k = some x → find d k = some x :=
    fun k x hk hx => (hkept k hk).trans hx
  have hget : ∃ p, get P root (commit P v made.1 made.2 c.showData none).vault made.1 = .ok p := by
    rw [get, hread]
    exact ⟨_, rfl⟩
  obtain ⟨p, hp⟩ := hget
  obtain ⟨d', hread', hpublic⟩ := find_get hp
  obtain rfl : d = d' := Except.ok.inj (hread.symm.trans hread')
  have hrevision : find d "revision" = some (.int 1) :=
    hfield _ _ (by decide) (by rw [hfields, find_assignAll_ne (by simp)]; rfl)
  refine ⟨⟨hshow, hvalid, hfresh, fun other hne => commit_other P v _ _ hne, ⟨p, hp, ?_, ?_, ?_,
    ?_, ?_⟩, fun now next hversions => ?_, ⟨d, hread, ?_⟩⟩, s, hreply, hsaved⟩
  · rw [hpublic _ (by decide) (by decide) (by decide)]
    exact hfield _ _ (by decide) hstored.id
  · rw [hpublic _ (by decide) (by decide) (by decide)]
    exact hfield _ _ (by decide) (by rw [hfields, find_assignAll_ne (by simp)]; rfl)
  · rw [hpublic _ (by decide) (by decide) (by decide)]
    exact hfield _ _ (by decide) (by rw [hfields, find_assignAll_ne (by simp)]; rfl)
  · rw [hpublic _ (by decide) (by decide) (by decide)]
    exact hfield _ _ (by decide) (by rw [hfields, find_assignAll_ne (by simp)]; rfl)
  · rw [hpublic _ (by decide) (by decide) (by decide)]
    exact hrevision
  · simp only [saveInfo, hread, bind, Except.bind, hrevision, intOf, Option.getD_some,
      checkVersions, if_neg (Nat.not_lt.mpr hversions)]
    exact ⟨_, rfl⟩
  · refine hfield _ (.str fingerprint) (by decide) ?_
    rw [hfields]
    exact find_assignAll_mem (by simp) (by simp)

lemma import_cases (P : Stdlib K Blob) (root : String) (v : Vault Blob)
    (sourceId : Option String) (uuid now : String) (c : Content K) :
    (∃ e, importProject P root v sourceId uuid now c none = .refused v e) ∨
    ∃ fingerprint, importFingerprint P c = .ok fingerprint ∧
      ((∃ s projectId, importProject P root v sourceId uuid now c none =
          ⟨v, .ok (.imported s "skipped"), []⟩ ∧ find s.project "id" = some (.str projectId) ∧
          Holds P root fingerprint projectId v) ∨
        ∃ s status projectId, status ≠ "skipped" ∧
          (importProject P root v sourceId uuid now c none).reply = .ok (.imported s status) ∧
          find s.project "id" = some (.str projectId) ∧
          Added P root v (importProject P root v sourceId uuid now c none).vault sourceId uuid
            fingerprint c status projectId) := by
  unfold importProject
  cases hfp : importFingerprint P c with
  | error e => exact .inl ⟨e, rfl⟩
  | ok fingerprint =>
    dsimp only
    cases hfound : (iterMeta P root v).find? (hasFingerprint fingerprint) with
    | some info =>
      refine .inr ⟨fingerprint, rfl, .inl ?_⟩
      obtain ⟨projectId, hread⟩ := mem_iterMeta.mp (List.mem_of_find?_eq_some hfound)
      have hholds := hasFingerprint_iff.mp (List.find?_some hfound)
      refine ⟨_, projectId, rfl, ?_, info, hread, hholds⟩
      rw [find_publicFields (by decide) (by decide)]
      exact (stored_of_readMeta hread).id
    | none =>
      dsimp only
      cases hinfo : createInfo v (importId v sourceId fingerprint).1 uuid now c
          [("imported_fingerprint", .str fingerprint)] with
      | error e => exact .inl ⟨e, rfl⟩
      | ok made =>
        dsimp only
        cases hreply : (commit P v made.1 made.2 c.showData none).reply with
        | error e =>
          refine .inl ⟨e, ?_⟩
          rw [commit_error hreply]
          rfl
        | ok reply =>
          obtain ⟨hadded, s, rfl, hs⟩ := added_of_commit root hinfo rfl rfl hreply
          exact .inr ⟨fingerprint, rfl, .inr ⟨s, _, made.1,
            (importId_cases v sourceId uuid fingerprint).1, rfl, hs, hadded⟩⟩

/-! ## Importing the same again -/

/-- What can be relied on when a project is imported. -/
structure RepeatSafe (P : Stdlib K Blob) (root : String) (v : Vault Blob)
    (sourceId : Option String) (uuid now : String) (c : Content K) : Prop where
  /-- The files of every project there is stay. -/
  kept : ∀ projectId, projectFile v projectId ≠ none →
    cell (importProject P root v sourceId uuid now c none).vault projectId = cell v projectId
  refused : ∀ e, (importProject P root v sourceId uuid now c none).reply = .error e →
    (importProject P root v sourceId uuid now c none).vault = v
  added : ∀ reply, (importProject P root v sourceId uuid now c none).reply = .ok reply →
    ∃ s status projectId, reply = .imported s status ∧
      find s.project "id" = some (.str projectId) ∧
      if status = "skipped" then (importProject P root v sourceId uuid now c none).vault = v
      else ∃ fingerprint, importFingerprint P c = .ok fingerprint ∧
        Added P root v (importProject P root v sourceId uuid now c none).vault sourceId uuid
          fingerprint c status projectId
  /-- As long as no call takes the project away, importing the same is skipped. -/
  again : ∀ s status, (importProject P root v sourceId uuid now c none).reply =
    .ok (.imported s status) → ∃ projectId, find s.project "id" = some (.str projectId) ∧
      ∀ calls w os, run (step P root) (importProject P root v sourceId uuid now c none).vault
          calls = some (w, os) →
        Along (step P root) (fun u l => cell (call P root u none l).vault projectId ≠ none)
          (importProject P root v sourceId uuid now c none).vault calls →
        ∀ sourceId' uuid' now' c', c'.name = c.name → c'.document = c.document →
          c'.versions = c.versions → ∃ s', importProject P root w sourceId' uuid' now' c' none =
            ⟨w, .ok (.imported s' "skipped"), []⟩

lemma importFingerprint_congr {c' : Content K} (hname : c'.name = c.name)
    (hdocument : c'.document = c.document) (hversions : c'.versions = c.versions) :
    importFingerprint P c' = importFingerprint P c := by
  rw [importFingerprint, importFingerprint, hname, hdocument, hversions]

/-- While the project is in the store, importing what it has the fingerprint of is skipped. -/
lemma Holds.skipped (h : Holds P root fingerprint projectId v)
    (hfp : importFingerprint P c = .ok fingerprint) (sourceId : Option String)
    (uuid now : String) : ∃ s, importProject P root v sourceId uuid now c none =
      ⟨v, .ok (.imported s "skipped"), []⟩ := by
  obtain ⟨info, hfound⟩ := Option.isSome_iff_exists.mp h.found
  refine ⟨⟨publicFields v (idText info) info, []⟩, ?_⟩
  rw [importProject, hfp]
  dsimp only
  rw [hfound]

lemma holds_run {calls : List (Call K)} {os : List (Except StoreError (Reply K))}
    (h : Holds P root fingerprint projectId v)
    (hstays : Along (ProjectStore.step P root)
      (fun u l => cell (call P root u none l).vault projectId ≠ none) v calls)
    (hrun : run (ProjectStore.step P root) v calls = some (w, os)) :
    Holds P root fingerprint projectId w :=
  run_invariant (fun _ _ _ _ h hl hs => h.step hl hs) h hstays hrun

theorem import_repeat_safe (P : Stdlib K Blob) (root : String) (v : Vault Blob)
    (sourceId : Option String) (uuid now : String) (c : Content K) :
    RepeatSafe P root v sourceId uuid now c := by
  have hagain : ∀ {fingerprint projectId u},
      importFingerprint P c = .ok fingerprint → Holds P root fingerprint projectId u →
      ∀ calls w os, run (step P root) u calls = some (w, os) →
        Along (step P root) (fun u l => cell (call P root u none l).vault projectId ≠ none) u
          calls →
        ∀ sourceId' uuid' now' c', c'.name = c.name → c'.document = c.document →
          c'.versions = c.versions → ∃ s', importProject P root w sourceId' uuid' now' c' none =
            ⟨w, .ok (.imported s' "skipped"), []⟩ := by
    intro fingerprint projectId u hfp hholds calls w os hrun hstays sourceId' uuid' now' c' hname
      hdocument hversions
    have hfp' := (importFingerprint_congr (P := P) hname hdocument hversions).trans hfp
    exact (holds_run hholds hstays hrun).skipped hfp' sourceId' uuid' now'
  rcases import_cases P root v sourceId uuid now c with ⟨e, he⟩ | ⟨fingerprint, hfp, hdone⟩
  · refine ⟨fun _ _ => by rw [he]; rfl, fun _ _ => by rw [he]; rfl, fun reply h => ?_,
      fun s status h => ?_⟩
    · rw [he] at h
      cases h
    · rw [he] at h
      cases h
  · rcases hdone with ⟨s, projectId, heq, hid, hholds⟩ | ⟨s, status, projectId, hne, hreply, hid,
      hadded⟩
    · refine ⟨fun _ _ => by rw [heq], fun _ _ => by rw [heq], fun reply h => ?_,
        fun s' status h => ?_⟩
      · rw [heq] at h ⊢
        cases h
        exact ⟨s, _, projectId, rfl, hid, by rw [if_pos rfl]⟩
      · rw [heq] at h ⊢
        cases h
        exact ⟨projectId, hid, hagain hfp hholds⟩
    · refine ⟨fun other hother => ?_, fun e h => ?_, fun reply h => ?_, fun s' status' h => ?_⟩
      · refine hadded.others other ?_
        rintro rfl
        exact hother hadded.fresh
      · rw [hreply] at h
        cases h
      · obtain rfl := Except.ok.inj (hreply.symm.trans h)
        exact ⟨s, status, projectId, rfl, hid, by
          rw [if_neg hne]
          exact ⟨fingerprint, hfp, hadded⟩⟩
      · rw [hreply] at h
        cases h
        exact ⟨projectId, hid, hagain hfp hadded.holds⟩

end Calls

end Taramandal.Studio.ProjectStore
