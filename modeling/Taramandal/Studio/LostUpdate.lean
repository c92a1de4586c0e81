import Taramandal.Lib.Run
import Taramandal.Lib.Settling
import Taramandal.Studio.ProjectStore

/-! # No update is lost in the store

Clients call the store in any order. What a save replaces is what a client that
read the revision it names was given, as long as no project was made under the
id since; revisions start at 1 again with every project that is made. -/
namespace Taramandal.Studio.ProjectStore

open Lib.Dict Lib.Revisions Lib.Run Core.Values

variable {K Blob : Type}

def cell (v : Vault Blob) (projectId : String) : Option (Blob × Option Blob) :=
  (find v projectId).bind fun d => d.project.map fun blob => (blob, d.showFile)

/-- The revision that a `project.json` states. -/
def revisionOf (P : Stdlib K Blob) (c : Blob × Option Blob) : ℤ :=
  match P.loads c.1 with
  | .ok (.dict d) => (intOf (find d "revision")).getD 0
  | _ => 0

lemma projectFile_eq (v : Vault Blob) (projectId : String) :
    projectFile v projectId = (cell v projectId).map Prod.fst := by
  unfold projectFile cell
  cases find v projectId with
  | none => rfl
  | some d => cases hp : d.project <;> simp [hp]

lemma cell_of_find {v w : Vault Blob} {projectId : String}
    (h : find v projectId = find w projectId) : cell v projectId = cell w projectId := by
  rw [cell, cell, h]

variable {P : Stdlib K Blob} {root : String} {v w : Vault Blob} {projectId : String}

lemma get_congr (h : cell w projectId = cell v projectId) :
    get P root w projectId = get P root v projectId := by
  have hfile : projectFile w projectId = projectFile v projectId := by
    rw [projectFile_eq, projectFile_eq, h]
  have hmeta : readMeta P root w projectId = readMeta P root v projectId := by
    rw [readMeta, readMeta, hfile]
  cases hc : cell v projectId with
  | none =>
    have hnone : projectFile v projectId = none := by rw [projectFile_eq, hc]; rfl
    unfold get
    rw [hmeta, readMeta, hnone]
    cases dir projectId <;> rfl
  | some c =>
    have hshow : ∀ u : Vault Blob, cell u projectId = some c → showFileOf u projectId = c.2 := by
      intro u hu
      obtain ⟨d, hd, hp⟩ := Option.bind_eq_some_iff.mp hu
      obtain ⟨b, -, rfl⟩ := Option.map_eq_some_iff.mp hp
      rw [showFileOf, hd]
      rfl
    have hfiles : showFileOf w projectId = showFileOf v projectId :=
      (hshow w (h.trans hc)).trans (hshow v hc).symm
    simp only [get, hmeta, readShow, publicFields, hfiles]

variable {info : PyDict K}

lemma cell_of_readMeta (h : readMeta P root v projectId = .ok info) :
    ∃ c, cell v projectId = some c := by
  obtain ⟨raw, _, -, hfile, -⟩ := readMeta_ok.mp h
  rw [projectFile_eq] at hfile
  obtain ⟨c, hc, -⟩ := Option.map_eq_some_iff.mp hfile
  exact ⟨c, hc⟩

lemma revisionOf_readMeta {c : Blob × Option Blob} {r : ℤ}
    (h : readMeta P root v projectId = .ok info) (hc : cell v projectId = some c)
    (hr : intOf (find info "revision") = some r) : revisionOf P c = r := by
  obtain ⟨raw, d, -, hfile, hloads, -, rfl⟩ := readMeta_ok.mp h
  rw [projectFile_eq, hc] at hfile
  cases hfile
  rw [find_assign_ne _ _ (by decide)] at hr
  simp only [revisionOf, hloads, hr, Option.getD_some]

section Calls

variable [Field K] [LinearOrder K]

def step (P : Stdlib K Blob) (root : String) :
    System (Vault Blob) (Call K) (Except StoreError (Reply K))
  | v, c => some ((call P root v none c).vault, [(call P root v none c).reply])

/-- The call makes a project under an id that has none. -/
def Makes (P : Stdlib K Blob) (root : String) (projectId : String) (v : Vault Blob)
    (c : Call K) : Prop :=
  cell v projectId = none ∧ cell (call P root v none c).vault projectId ≠ none

variable {e : StoreError} {base : ℤ} {c : Content K}

lemma commit_error {info : PyDict K} {built : Option (PyDict K)}
    (h : (commit P v projectId info built none).reply = .error e) :
    commit P v projectId info built none = .refused v e := by
  rcases commit_cases P v projectId info built none with ⟨e', he⟩ | ⟨d, -, he⟩
  · rw [he] at h ⊢
    cases h
    rfl
  · rw [he] at h
    cases h

lemma commit_vault (P : Stdlib K Blob) (v : Vault Blob) (projectId : String) (info : PyDict K)
    (built : Option (PyDict K)) :
    (commit P v projectId info built none).vault = v ∨
    ∃ d, Drafted P info built d ∧ (commit P v projectId info built none).reply =
        .ok (.saved ⟨publicFields (written v projectId d.writes) projectId d.info, d.warnings⟩) ∧
      (commit P v projectId info built none).vault = written v projectId d.writes := by
  rcases commit_cases P v projectId info built none with ⟨e, he⟩ | ⟨d, hd, he⟩
  · exact .inl (by rw [he]; rfl)
  · exact .inr ⟨d, hd, by rw [he]; rfl, by rw [he]; rfl⟩

lemma commit_other (P : Stdlib K Blob) (v : Vault Blob) {projectId other : String}
    (info : PyDict K) (built : Option (PyDict K)) (h : projectId ≠ other) :
    cell (commit P v projectId info built none).vault other = cell v other := by
  rcases commit_vault P v projectId info built with heq | ⟨d, -, -, heq⟩
  · rw [heq]
  · rw [heq]
    exact cell_of_find (find_written_ne v d.writes h)

/-- The project that was there is replaced by its next revision. -/
structure Replaced (P : Stdlib K Blob) (root projectId : String) (v w : Vault Blob) (r : ℤ) :
    Prop where
  old : ∃ info, readMeta P root v projectId = .ok info ∧
    intOf (find info "revision") = some r
  new : ∃ info, readMeta P root w projectId = .ok info ∧
    find info "revision" = some (.int (r + 1))

/-- A save that is not turned down replaces the revision it names, and answers with the
next one. -/
lemma save_ok {now : String} {reply : Reply K}
    (h : (save P root v projectId base now c none).reply = .ok reply) :
    Replaced P root projectId v (save P root v projectId base now c none).vault base ∧
      ∃ s, reply = .saved s ∧ find s.project "revision" = some (.int (base + 1)) := by
  unfold save at h ⊢
  cases hs : saveInfo P root v projectId base now c with
  | error e => rw [hs] at h; cases h
  | ok next =>
    simp only [hs] at h ⊢
    obtain ⟨info, hread, hrev, -⟩ := saveInfo_ok hs
    obtain ⟨hstored, hnext⟩ := saveInfo_stored hs
    obtain ⟨raw, d, hid, -⟩ := readMeta_ok.mp hread
    rcases commit_cases P v projectId next c.showData none with ⟨e, he⟩ | ⟨d, hd, he⟩
    · rw [he] at h
      cases h
    · rw [he] at h ⊢
      cases h
      have hfind := find_written v projectId d
      have hfile : projectFile (written v projectId d.writes) projectId = some d.infoBlob := by
        rw [projectFile, hfind]
        rfl
      have hrevision : find d.info "revision" = some (.int (base + 1)) := by
        rw [hd.info, find_assign_ne _ _ (by decide), hnext]
      refine ⟨⟨⟨info, hread, hrev⟩, d.info, ?_, hrevision⟩, _, rfl, ?_⟩
      · exact readMeta_written hid (hd.stored hstored) hfile hd.infoBlob
      · rw [find_publicFields (by decide) (by decide), hrevision]

lemma save_error {now : String} (h : (save P root v projectId base now c none).reply = .error e) :
    save P root v projectId base now c none = .refused v e := by
  unfold save at h ⊢
  split at h
  next e' hs => cases h; rfl
  next info hs => exact commit_error h

section

variable (P : Stdlib K Blob) (root : String) (v : Vault Blob) (c : Call K) (projectId : String)

/-- What a call that is no save of the id makes of its files: they stay, they are deleted,
or they are made. -/
lemma call_cell_other (h : ∀ base now content, c ≠ .save projectId base now content) :
    cell (call P root v none c).vault projectId = cell v projectId ∨
    cell (call P root v none c).vault projectId = none ∨ cell v projectId = none := by
  cases c with
  | get id => exact .inl rfl
  | create id uuid now content =>
    simp only [call, create]
    cases hinfo : createInfo v id uuid now content [] with
    | error e => exact .inl rfl
    | ok made =>
      by_cases heq : made.1 = projectId
      · have hnone := (createInfo_ok hinfo).2.1
        rw [heq, projectFile_eq, Option.map_eq_none_iff] at hnone
        exact .inr (.inr hnone)
      · exact .inl (commit_other P v _ _ heq)
  | save id base now content =>
    have hne : id ≠ projectId := fun heq => h base now content (by rw [heq])
    refine .inl ?_
    simp only [call, save]
    split
    next => rfl
    next => exact commit_other P v _ _ hne
  | delete id =>
    simp only [call, delete]
    cases existsProject v id with
    | error e => exact .inl rfl
    | ok found =>
      cases found with
      | false => exact .inl rfl
      | true =>
        by_cases heq : id = projectId
        · subst heq
          refine .inr (.inl ?_)
          rw [cell, find_remove_self]
          rfl
        · exact .inl (cell_of_find (find_remove_ne v heq))
  | importProject sourceId uuid now content =>
    simp only [call, importProject]
    cases importFingerprint P content with
    | error e => exact .inl rfl
    | ok fingerprint =>
      dsimp only
      cases (iterMeta P root v).find? (hasFingerprint fingerprint) with
      | some info => exact .inl rfl
      | none =>
        dsimp only
        cases hinfo : createInfo v (importId v sourceId fingerprint).1 uuid now content
            [("imported_fingerprint", .str fingerprint)] with
        | error e => exact .inl rfl
        | ok made =>
          by_cases heq : made.1 = projectId
          · have hnone := (createInfo_ok hinfo).2.1
            rw [heq, projectFile_eq, Option.map_eq_none_iff] at hnone
            exact .inr (.inr hnone)
          · exact .inl (commit_other P v _ _ heq)

/-- What a call makes of the files of an id: they stay, a save replaces them, they are
deleted, or they are made. -/
lemma call_cell : cell (call P root v none c).vault projectId = cell v projectId ∨
    cell (call P root v none c).vault projectId = none ∨ cell v projectId = none ∨
    ∃ r, Replaced P root projectId v (call P root v none c).vault r := by
  by_cases hsave : ∃ base now content, c = .save projectId base now content
  · obtain ⟨base, now, content, rfl⟩ := hsave
    cases hreply : (save P root v projectId base now content none).reply with
    | error e =>
      refine .inl ?_
      rw [call, save_error hreply]
      rfl
    | ok reply => exact .inr (.inr (.inr ⟨base, (save_ok hreply).1⟩))
  · push Not at hsave
    rcases call_cell_other P root v c projectId hsave with heq | heq | heq
    · exact .inl heq
    · exact .inr (.inl heq)
    · exact .inr (.inr (.inl heq))

end

/-- While no project is made under the id, its files only move on to the next revision. -/
structure Onwards (P : Stdlib K Blob) (root projectId : String) (c : Blob × Option Blob)
    (w : Vault Blob) : Prop where
  later : Later (revisionOf P) (some c) (cell w projectId)
  readable : cell w projectId ≠ none → ∃ info, readMeta P root w projectId = .ok info

lemma Onwards.step {c : Blob × Option Blob} {v w : Vault Blob} {l : Call K}
    {o : List (Except StoreError (Reply K))} (h : Onwards P root projectId c v)
    (hmakes : ¬ Makes P root projectId v l)
    (hs : ProjectStore.step P root v l = some (w, o)) : Onwards P root projectId c w := by
  cases hs
  rcases call_cell P root v l projectId with heq | heq | heq | ⟨r, hreplaced⟩
  · refine ⟨heq ▸ h.later, fun hne => ?_⟩
    obtain ⟨info, hread⟩ := h.readable (heq ▸ hne)
    refine ⟨info, ?_⟩
    rw [readMeta, projectFile_eq, heq, ← projectFile_eq]
    exact hread
  · refine ⟨?_, fun hne => absurd heq hne⟩
    rw [heq]
    cases hc : cell v projectId with
    | none => exact hc ▸ h.later
    | some a => exact (hc ▸ h.later).tail (.deleted a)
  · have hnone : cell (call P root v none l).vault projectId = none := by
      by_contra hne
      exact hmakes ⟨heq, hne⟩
    exact ⟨hnone ▸ heq ▸ h.later, fun hne => absurd hnone hne⟩
  · obtain ⟨⟨info, hread, hr⟩, next, hnext, hr'⟩ := hreplaced
    refine ⟨?_, fun _ => ⟨next, hnext⟩⟩
    obtain ⟨a, ha⟩ := cell_of_readMeta hread
    obtain ⟨b, hb⟩ := cell_of_readMeta hnext
    have hrev : intOf (find next "revision") = some (r + 1) := by rw [hr']; rfl
    rw [hb]
    refine (ha ▸ h.later).tail (.saved ?_)
    rw [revisionOf_readMeta hread ha hr, revisionOf_readMeta hnext hb hrev]

/-- What stands under the id is what was read, or the id has none, or a later revision. -/
lemma Onwards.now {p : PyDict K} {r : ℤ} {calls : List (Call K)}
    {os : List (Except StoreError (Reply K))} (hget : get P root v projectId = .ok p)
    (hrev : intOf (find p "revision") = some r)
    (hmakes : Along (ProjectStore.step P root) (fun s l => ¬ Makes P root projectId s l) v calls)
    (hrun : run (ProjectStore.step P root) v calls = some (w, os)) :
    get P root w projectId = .ok p ∨ projectFile w projectId = none ∨
      ∃ info r', readMeta P root w projectId = .ok info ∧
        intOf (find info "revision") = some r' ∧ r < r' := by
  obtain ⟨info, hread, hfields⟩ := find_get hget
  rw [hfields _ (by decide) (by decide) (by decide)] at hrev
  obtain ⟨c, hc⟩ := cell_of_readMeta hread
  have hstart : Onwards P root projectId c v :=
    ⟨hc ▸ .refl, fun _ => ⟨info, hread⟩⟩
  have hend : Onwards P root projectId c w :=
    run_invariant (fun _ _ _ _ h hm hs => h.step hm hs) hstart hmakes hrun
  cases hw : cell w projectId with
  | none => exact .inr (.inl (by rw [projectFile_eq, hw]; rfl))
  | some b =>
    rcases later_some (hw ▸ hend.later) b rfl with hlt | rfl
    · obtain ⟨info', hread'⟩ := hend.readable (by rw [hw]; exact Option.some_ne_none b)
      obtain ⟨r', hr'⟩ := (stored_of_readMeta hread').revision
      refine .inr (.inr ⟨info', r', hread', hr', ?_⟩)
      rwa [revisionOf_readMeta hread hc hrev, revisionOf_readMeta hread' hw hr'] at hlt
    · exact .inl ((get_congr (hw.trans hc.symm)).trans hget)

/-- A client reads a project, other calls follow, and none of them makes a project under
its id. A save of any client then either replaces the revision it names, which is the one
that was read if it names that, by the next one, or it leaves the vault as it was; and if
the client that read is not given the same any more, a save on what it read is refused. -/
theorem no_lost_update {p : PyDict K} {r : ℤ} {calls : List (Call K)}
    {os : List (Except StoreError (Reply K))} (hget : get P root v projectId = .ok p)
    (hrev : intOf (find p "revision") = some r)
    (hmakes : Along (ProjectStore.step P root) (fun s l => ¬ Makes P root projectId s l) v calls)
    (hrun : run (ProjectStore.step P root) v calls = some (w, os)) (now : String)
    (c : Content K) :
    (∀ base reply, (save P root w projectId base now c none).reply = .ok reply →
      (∃ s, reply = .saved s ∧ find s.project "revision" = some (.int (base + 1))) ∧
      Replaced P root projectId w (save P root w projectId base now c none).vault base ∧
      (base = r → get P root w projectId = .ok p)) ∧
    (get P root w projectId ≠ .ok p → ∃ e, save P root w projectId r now c none = .refused w e ∧
      (e = .notFound projectId ∨ ∃ r', e = .conflict projectId r' r)) ∧
    ∀ base e, (save P root w projectId base now c none).reply = .error e →
      (save P root w projectId base now c none).vault = w := by
  have hid : idMatches projectId = true := by
    obtain ⟨info, hread, -⟩ := find_get hget
    obtain ⟨_, _, hid, -⟩ := readMeta_ok.mp hread
    exact hid
  have hrefused : get P root w projectId ≠ .ok p → ∃ e,
      save P root w projectId r now c none = .refused w e ∧
        (e = .notFound projectId ∨ ∃ r', e = .conflict projectId r' r) := by
    intro hne
    rcases Onwards.now hget hrev hmakes hrun with heq | hnone | ⟨info, r', hread, hr', hlt⟩
    · exact absurd heq hne
    · refine ⟨_, ?_, .inl rfl⟩
      rw [save, saveInfo, readMeta_notFound hid hnone]
      rfl
    · refine ⟨_, ?_, .inr ⟨r', rfl⟩⟩
      rw [save, saveInfo, hread]
      simp only [bind, Except.bind, hr', Option.getD_some, if_pos (ne_of_gt hlt)]
  refine ⟨fun base reply hreply => ?_, hrefused, fun base e he => ?_⟩
  · obtain ⟨hreplaced, hsaved⟩ := save_ok hreply
    refine ⟨hsaved, hreplaced, ?_⟩
    rintro rfl
    by_contra hne
    obtain ⟨e, he, -⟩ := hrefused hne
    rw [he] at hreply
    cases hreply
  · rw [save_error he]
    rfl

end Calls

def opened : Vault (PyVal ℚ) :=
  (create plain [] (some "default-proj") "" "08:00" (named "Untitled Show") none).vault

def given : PyDict ℚ := (get plain "" opened "default-proj").toOption.getD []

lemma get_ne_given {w : Vault (PyVal ℚ)} {p : String}
    (hw : ((get plain "" w "default-proj").toOption.bind fun d => find d "name") = some (.str p))
    (h : p ≠ "Untitled Show") : get plain "" w "default-proj" ≠ .ok given := by
  intro heq
  rw [heq] at hw
  have hname : some (PyVal.str (K := ℚ) "Untitled Show") = some (.str p) := hw
  injection hname with hname
  injection hname with hname
  exact h hname.symm

def savedBefore : Call ℚ := .save "default-proj" 1 "08:05" (named "Evening")

def evening : Vault (PyVal ℚ) := (call plain "" opened none savedBefore).vault

theorem no_lost_update_conflict : get plain "" opened "default-proj" = .ok given ∧
    (∃ os, run (step plain "") opened [savedBefore] = some (evening, os)) ∧
      get plain "" evening "default-proj" ≠ .ok given ∧
      ∃ e, save plain "" evening "default-proj" 1 "08:10" (named "Mine") none =
          .refused evening e ∧
        (e = .notFound "default-proj" ∨ ∃ r', e = .conflict "default-proj" r' 1) := by
  have hother := get_ne_given (w := evening) (p := "Evening") rfl (by decide)
  have hrun : run (step plain "") opened [savedBefore] =
      some (evening, [(call plain "" opened none savedBefore).reply]) := rfl
  refine ⟨rfl, ⟨_, hrun⟩, hother, ?_⟩
  refine (no_lost_update (p := given) rfl rfl ?_ hrun "08:10" (named "Mine")).2.1 hother
  exact ⟨fun hmakes => (by cases hmakes.1), fun _ _ _ => trivial⟩

/-- A project is deleted and another one made under its id. -/
def remade : List (Call ℚ) :=
  [.delete "default-proj", .create (some "default-proj") "" "09:00" (named "Another Show")]

/-- A save on what was read of the first project replaces the second one. -/
theorem remade_overwritten : get plain "" opened "default-proj" = .ok given ∧
    find given "revision" = some (.int 1) ∧
    ∃ w os reply, run (step plain "") opened remade = some (w, os) ∧
      get plain "" w "default-proj" ≠ .ok given ∧
      (save plain "" w "default-proj" 1 "09:05" (named "Mine") none).reply = .ok reply := by
  refine ⟨rfl, rfl, _, _, _, rfl, ?_, rfl⟩
  exact get_ne_given (p := "Another Show") rfl (by decide)

end Taramandal.Studio.ProjectStore
