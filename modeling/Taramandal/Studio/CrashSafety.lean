import Taramandal.Lib.Run
import Taramandal.Studio.ProjectStore

/-! # A crash never mixes two commits

Any call may be cut short after any of its file operations. A project is always
read as the last commit that wrote its `project.json`, with the show of that
commit or with none; shows are told apart by their hash, so no two of those
that were stored may have the same. -/
set_option linter.unusedSectionVars false

namespace Taramandal.Studio.ProjectStore

open Lib.Check Lib.Dict Lib.Run Core.Values

variable {K Blob : Type} [Field K] [LinearOrder K]

def crashStep (P : Stdlib K Blob) (root : String) :
    System (Vault Blob) (Option Nat × Call K) (Event K)
  | v, l => some ((call P root v l.1 l.2).vault, (call P root v l.1 l.2).events)

def Call.content : Call K → Option (Content K)
  | .create _ _ _ c | .save _ _ _ c | .importProject _ _ _ c => some c
  | .get _ | .delete _ => none

def ShowBlobs (P : Stdlib K Blob) (ls : List (Option Nat × Call K)) : Set Blob :=
  {blob | ∃ l ∈ ls, ∃ c ∈ l.2.content, ∃ s ∈ (conformingShow c.showData).1,
    P.dumps (.dict s) = .ok blob}

/-- The commit that an id's `project.json` was written by last, after one more event. -/
def lastAfter (projectId : String) (last : Option (PyDict K × Option (PyDict K))) :
    Event K → Option (PyDict K × Option (PyDict K))
  | .committed id info showData => if id = projectId then some (info, showData) else last
  | .deleted id => if id = projectId then none else last

/-- The commit that an id's `project.json` was written by last, and its show. -/
def lastCommit (projectId : String) (es : List (Event K)) : Option (PyDict K × Option (PyDict K)) :=
  es.foldl (lastAfter projectId) none

lemma lastCommit_snoc (projectId : String) (es : List (Event K)) (e : Event K) :
    lastCommit projectId (es ++ [e]) = lastAfter projectId (lastCommit projectId es) e :=
  List.foldl_append

variable {P : Stdlib K Blob} {root : String} {v : Vault Blob} {projectId : String}

/-- What a commit that may be cut short does to its project's files: the show is put or not,
and `project.json` is the old one until the commit is reported. -/
structure Effect (v : Vault Blob) (projectId : String) (d : Draft K Blob) (r : Result K Blob) :
    Prop where
  other : ∀ id, projectId ≠ id → find r.vault id = find v id
  showFile : showFileOf r.vault projectId = showFileOf v projectId ∨
    showFileOf r.vault projectId = d.showBlob
  project : r.events = [] ∧ projectFile r.vault projectId = projectFile v projectId ∨
    r.events = [.committed projectId d.info d.showData] ∧
      projectFile r.vault projectId = some d.infoBlob

lemma apply_take (d : Draft K Blob) (dir : Directory Blob) (n : Nat) :
    (((d.writes.take n).foldl Write.apply dir).showFile = dir.showFile ∨
      ((d.writes.take n).foldl Write.apply dir).showFile = d.showBlob) ∧
    ((d.writes.take n).any Write.isCommit = false ∧
        ((d.writes.take n).foldl Write.apply dir).project = dir.project ∨
      (d.writes.take n).any Write.isCommit = true ∧
        ((d.writes.take n).foldl Write.apply dir).project = some d.infoBlob) := by
  unfold Draft.writes
  split
  next blob hblob =>
    rcases n with _ | _ | n
    · exact ⟨.inl rfl, .inl ⟨rfl, rfl⟩⟩
    · exact ⟨.inr hblob.symm, .inl ⟨rfl, rfl⟩⟩
    · refine ⟨.inr ?_, .inr ⟨?_, ?_⟩⟩ <;> simp [Write.apply, Write.isCommit, hblob]
  next hblob =>
    rcases n with _ | _ | n
    · exact ⟨.inl rfl, .inl ⟨rfl, rfl⟩⟩
    · exact ⟨.inl rfl, .inr ⟨rfl, rfl⟩⟩
    · refine ⟨.inr ?_, .inr ⟨?_, ?_⟩⟩ <;> simp [Write.apply, Write.isCommit, hblob]

lemma files_getD (v : Vault Blob) (projectId : String) :
    ((find v projectId).getD ⟨none, none⟩).project = projectFile v projectId ∧
      ((find v projectId).getD ⟨none, none⟩).showFile = showFileOf v projectId := by
  unfold projectFile showFileOf
  cases find v projectId <;> exact ⟨rfl, rfl⟩

lemma commit_effect (P : Stdlib K Blob) (v : Vault Blob) (projectId : String) (info : PyDict K)
    (built : Option (PyDict K)) (fault : Option Nat) :
    (∃ e, commit P v projectId info built fault = .refused v e) ∨
    ∃ d, Drafted P info built d ∧ Effect v projectId d (commit P v projectId info built fault) := by
  rcases commit_cases P v projectId info built fault with he | ⟨d, hd, heq⟩
  · exact .inl he
  refine .inr ⟨d, hd, ?_⟩
  rw [heq]
  obtain ⟨hproject, hshow⟩ := files_getD v projectId
  have hfind : ∀ ws, find (written v projectId ws) projectId =
      some (ws.foldl Write.apply ((find v projectId).getD ⟨none, none⟩)) :=
    fun ws => find_assign_self ..
  have hws : ∃ n, (fault.map fun n => d.writes.take n).getD d.writes = d.writes.take n := by
    cases fault with
    | none => exact ⟨d.writes.length, (List.take_length ..).symm⟩
    | some n => exact ⟨n, rfl⟩
  obtain ⟨n, hn⟩ := hws
  obtain ⟨hshows, hprojects⟩ := apply_take d ((find v projectId).getD ⟨none, none⟩) n
  simp only [hn]
  refine ⟨fun id hne => find_written_ne v _ hne, ?_, ?_⟩
  · rw [showFileOf, hfind, ← hshow]
    exact hshows
  · rw [projectFile, hfind, ← hproject]
    rcases hprojects with ⟨hany, hsame⟩ | ⟨hany, hnew⟩
    · exact .inl ⟨if_neg (by simp [hany]), hsame⟩
    · exact .inr ⟨if_pos hany, hnew⟩

/-- What `lastCommit` says of a project, its files say, and no show is there but one that a
call stored or tried to. -/
structure Agrees (P : Stdlib K Blob) (shows : Set Blob) (v : Vault Blob) (projectId : String)
    (last : Option (PyDict K × Option (PyDict K))) : Prop where
  absent : last = none → projectFile v projectId = none
  info : ∀ c, last = some c → idMatches projectId = true ∧ Stored projectId c.1 ∧
    ∃ blob, projectFile v projectId = some blob ∧ P.dumps (.dict c.1) = .ok blob
  noShow : ∀ c, last = some c → c.2 = none → find c.1 "show_sha256" = some .none
  hash : ∀ c s, last = some c → c.2 = some s → ∃ blob ∈ shows, P.dumps (.dict s) = .ok blob ∧
    find c.1 "show_sha256" = some (.str (P.sha256 blob))
  showFile : ∀ blob, showFileOf v projectId = some blob → blob ∈ shows

variable {shows : Set Blob} {es : List (Event K)}

lemma Agrees.same {w : Vault Blob} {last last' : Option (PyDict K × Option (PyDict K))}
    (h : Agrees P shows v projectId last) (hlast : last' = last)
    (hfind : find w projectId = find v projectId) : Agrees P shows w projectId last' := by
  have hproject : projectFile w projectId = projectFile v projectId := by
    rw [projectFile, projectFile, hfind]
  have hshow : showFileOf w projectId = showFileOf v projectId := by
    rw [showFileOf, showFileOf, hfind]
  rw [hlast]
  refine ⟨?_, ?_, h.noShow, h.hash, ?_⟩
  · rw [hproject]; exact h.absent
  · rw [hproject]; exact h.info
  · rw [hshow]; exact h.showFile

variable {info : PyDict K}

lemma Agrees.commit {built : Option (PyDict K)} (h : ∀ id, Agrees P shows v id (lastCommit id es))
    (hid : idMatches projectId = true) (hstored : Stored projectId info)
    (hshows : ∀ s ∈ (conformingShow built).1, ∀ blob, P.dumps (.dict s) = .ok blob → blob ∈ shows)
    (fault : Option Nat) (id : String) :
    Agrees P shows (ProjectStore.commit P v projectId info built fault).vault id
      (lastCommit id (es ++ (ProjectStore.commit P v projectId info built fault).events)) := by
  rcases commit_effect P v projectId info built fault with ⟨e, he⟩ | ⟨d, hd, heffect⟩
  · rw [he]
    exact (h id).same (by rw [Result.refused, List.append_nil]) rfl
  generalize ProjectStore.commit P v projectId info built fault = r at heffect ⊢
  have hblob : ∀ blob, d.showBlob = some blob → blob ∈ shows := by
    intro blob hb
    obtain ⟨s, hs, hdumps⟩ := hd.showBlob blob hb
    exact hshows s (hd.showData ▸ hs) blob hdumps
  have hshowFile : ∀ blob, showFileOf r.vault projectId = some blob → blob ∈ shows := by
    intro blob hb
    rcases heffect.showFile with hsame | hnew
    · exact (h projectId).showFile blob (hsame ▸ hb)
    · exact hblob blob (hnew ▸ hb)
  by_cases heq : projectId = id
  · subst heq
    rcases heffect.project with ⟨hev, hproject⟩ | ⟨hev, hproject⟩
    · rw [hev, List.append_nil]
      have hold := h projectId
      exact ⟨hproject ▸ hold.absent, hproject ▸ hold.info, hold.noShow, hold.hash, hshowFile⟩
    · rw [hev, lastCommit_snoc, lastAfter, if_pos rfl]
      refine ⟨nofun, ?_, ?_, ?_, hshowFile⟩
      · rintro c ⟨⟩
        exact ⟨hid, hd.stored hstored, d.infoBlob, hproject, hd.infoBlob⟩
      · rintro c ⟨⟩ hnone
        have hno : d.showBlob = none := by
          by_contra hne
          obtain ⟨blob, hb⟩ := Option.ne_none_iff_exists'.mp hne
          obtain ⟨s, hs, -⟩ := hd.showBlob blob hb
          cases hs.symm.trans hnone
        rw [hd.info, hno, find_assign_self]
        rfl
      · rintro c s ⟨⟩ hs
        have hsome : d.showBlob ≠ none := by
          intro hno
          cases (hd.noShow hno).symm.trans hs
        obtain ⟨blob, hb⟩ := Option.ne_none_iff_exists'.mp hsome
        obtain ⟨s', hs', hdumps⟩ := hd.showBlob blob hb
        have hss : s' = s := Option.some.inj (hs'.symm.trans hs)
        subst hss
        refine ⟨blob, hblob blob hb, hdumps, ?_⟩
        rw [hd.info, hb, find_assign_self]
        rfl
  · refine (h id).same ?_ (heffect.other id heq)
    rcases heffect.project with ⟨hev, -⟩ | ⟨hev, -⟩
    · rw [hev, List.append_nil]
    · rw [hev, lastCommit_snoc, lastAfter, if_neg heq]

lemma Agrees.call (h : ∀ id, Agrees P shows v id (lastCommit id es)) (fault : Option Nat)
    (c : Call K) (hshows : ∀ blob ∈ ShowBlobs P [(fault, c)], blob ∈ shows) (id : String) :
    Agrees P shows (ProjectStore.call P root v fault c).vault id
      (lastCommit id (es ++ (ProjectStore.call P root v fault c).events)) := by
  have hsame : Agrees P shows v id (lastCommit id (es ++ [])) :=
    (h id).same (by rw [List.append_nil]) rfl
  have hcontent : ∀ content ∈ c.content, ∀ s ∈ (conformingShow content.showData).1, ∀ blob,
      P.dumps (.dict s) = .ok blob → blob ∈ shows :=
    fun content hc s hs blob hb =>
      hshows blob ⟨(fault, c), List.mem_singleton_self _, content, hc, s, hs, hb⟩
  cases c with
  | get id' => exact hsame
  | create id' uuid now content =>
    simp only [ProjectStore.call, create]
    split
    next => exact hsame
    next made info hinfo =>
      exact Agrees.commit h (createInfo_ok hinfo).1 (createInfo_stored hinfo (by simp))
        (hcontent content rfl) fault id
  | save id' base now content =>
    simp only [ProjectStore.call, save]
    split
    next => exact hsame
    next info hinfo =>
      obtain ⟨_, hread, -⟩ := saveInfo_ok hinfo
      obtain ⟨_, _, hid, -⟩ := readMeta_ok.mp hread
      exact Agrees.commit h hid (saveInfo_stored hinfo).1 (hcontent content rfl) fault id
  | delete id' =>
    simp only [ProjectStore.call, delete]
    split
    next => exact hsame
    next => exact hsame
    next =>
      rw [lastCommit_snoc, lastAfter]
      by_cases heq : id' = id
      · subst heq
        rw [if_pos rfl]
        refine ⟨fun _ => ?_, nofun, nofun, nofun, ?_⟩
        · rw [projectFile, find_remove_self]; rfl
        · rw [showFileOf, find_remove_self]; nofun
      · rw [if_neg heq]
        exact (h id).same rfl (find_remove_ne v heq)
  | importProject sourceId uuid now content =>
    simp only [ProjectStore.call, importProject]
    split
    next => exact hsame
    next fingerprint _ =>
      split
      next => exact hsame
      next =>
        split
        next => exact hsame
        next made info hinfo =>
          exact Agrees.commit h (createInfo_ok hinfo).1 (createInfo_stored hinfo (by simp))
            (hcontent content rfl) fault id

variable {showData : Option (PyDict K)}

lemma Agrees.readShow (h : Agrees P shows v projectId (some (info, showData)))
    (hsha : Set.InjOn P.sha256 shows) :
    ProjectStore.readShow P v projectId info = none ∨
      ∃ s, showData = some s ∧ ProjectStore.readShow P v projectId info = some (.dict s) := by
  cases hs : showData with
  | none =>
    subst hs
    refine .inl ?_
    have hhash : shownHash info = none := by rw [shownHash, h.noShow _ rfl rfl]
    rw [ProjectStore.readShow, hhash]
  | some s =>
    subst hs
    obtain ⟨blob, hblob, hdumps, hfind⟩ := h.hash _ _ rfl rfl
    unfold ProjectStore.readShow
    split
    next expected found hhash hfile =>
      have hexpected : expected = P.sha256 blob := by
        rw [shownHash, hfind] at hhash
        dsimp only at hhash
        split at hhash
        next => cases hhash
        next => exact (Option.some.inj hhash).symm
      split
      next heq =>
        have hsame : found = blob := hsha (h.showFile _ hfile) hblob (heq.trans hexpected)
        exact .inr ⟨s, rfl, by rw [hsame, P.loads_dumps _ _ hdumps]; rfl⟩
      next => exact .inl rfl
    next => exact .inl rfl

lemma agrees_nil (P : Stdlib K Blob) (shows : Set Blob) (projectId : String) :
    Agrees P shows [] projectId none :=
  ⟨fun _ => rfl, nofun, nofun, nofun, nofun⟩

variable {ls : List (Option Nat × Call K)}

lemma agrees_of_run {es : List (Event K)}
    (hrun : run (crashStep P root) [] ls = some (v, es)) (projectId : String) :
    Agrees P (ShowBlobs P ls) v projectId (lastCommit projectId es) := by
  have hlabels : Along (crashStep P root) (fun _ l => l ∈ ls) [] ls :=
    along_of_labels fun _ hl => hl
  refine run_history (I := fun _ es w => ∀ id, Agrees P (ShowBlobs P ls) w id (lastCommit id es))
    (agrees_nil P _) ?_ hlabels hrun projectId
  intro _ es w l m o _ h hl hs
  cases hs
  refine Agrees.call h l.1 l.2 fun blob hblob => ?_
  obtain ⟨l', hl', rest⟩ := hblob
  obtain rfl := List.mem_singleton.mp hl'
  exact ⟨l, hl, rest⟩

/-! ## The last commit is a call's -/

def Event.Of (c : Content K) : Event K → Prop
  | .committed _ info showData => find info "document" = some (.dict c.document) ∧
    find info "name" = some (.str c.name) ∧ showData = (conformingShow c.showData).1
  | .deleted _ => True

variable {c : Content K}

lemma commit_of (fault : Option Nat) (hdocument : find info "document" = some (.dict c.document))
    (hname : find info "name" = some (.str c.name)) :
    ∀ e ∈ (ProjectStore.commit P v projectId info c.showData fault).events, e.Of c := by
  intro e he
  rcases commit_effect P v projectId info c.showData fault with ⟨_, heq⟩ | ⟨d, hd, heffect⟩
  · rw [heq] at he
    cases he
  · rcases heffect.project with ⟨hev, -⟩ | ⟨hev, -⟩
    · rw [hev] at he
      cases he
    · rw [hev, List.mem_singleton] at he
      subst he
      refine ⟨?_, ?_, hd.showData⟩
      · rw [hd.info, find_assign_ne _ _ (by decide), hdocument]
      · rw [hd.info, find_assign_ne _ _ (by decide), hname]

lemma createInfo_content {projectId' : Option String} {uuid now : String} {extra : PyDict K}
    {r : String × PyDict K} (h : createInfo v projectId' uuid now c extra = .ok r)
    (hextra : ∀ k ∈ ["document", "name"], k ∉ extra.map Prod.fst) :
    find r.2 "document" = some (.dict c.document) ∧ find r.2 "name" = some (.str c.name) := by
  obtain ⟨-, -, -, hfields⟩ := createInfo_ok h
  rw [hfields, find_assignAll_ne (hextra _ (by simp)), find_assignAll_ne (hextra _ (by simp))]
  exact ⟨rfl, rfl⟩

lemma saveInfo_content {base : ℤ} {now : String}
    (h : saveInfo P root v projectId base now c = .ok info) :
    find info "document" = some (.dict c.document) ∧ find info "name" = some (.str c.name) := by
  obtain ⟨_, -, -, rfl⟩ := saveInfo_ok h
  exact ⟨find_assignAll_mem (by simp) (by simp), find_assignAll_mem (by simp) (by simp)⟩

lemma call_of (P : Stdlib K Blob) (root : String) (v : Vault Blob) (fault : Option Nat)
    (c : Call K) : ∀ e ∈ (call P root v fault c).events,
      (∃ id, e = .deleted id) ∨ ∃ content ∈ c.content, e.Of content := by
  cases c with
  | get id => nofun
  | create id uuid now content =>
    simp only [call, create]
    split
    next => nofun
    next made info hinfo =>
      have hfields := createInfo_content hinfo (by simp)
      exact fun e he => .inr ⟨content, rfl, commit_of fault hfields.1 hfields.2 e he⟩
  | save id base now content =>
    simp only [call, save]
    split
    next => nofun
    next info hinfo =>
      have hfields := saveInfo_content hinfo
      exact fun e he => .inr ⟨content, rfl, commit_of fault hfields.1 hfields.2 e he⟩
  | delete id =>
    simp only [call, delete]
    split
    next => nofun
    next => nofun
    next => exact fun e he => .inl ⟨id, List.mem_singleton.mp he⟩
  | importProject sourceId uuid now content =>
    simp only [call, importProject]
    split
    next => nofun
    next fingerprint _ =>
      split
      next => nofun
      next =>
        split
        next => nofun
        next made info hinfo =>
          have hfields := createInfo_content hinfo (by simp)
          exact fun e he => .inr ⟨content, rfl, commit_of fault hfields.1 hfields.2 e he⟩

lemma mem_of_lastCommit {es : List (Event K)}
    (h : lastCommit projectId es = some (info, showData)) :
    .committed projectId info showData ∈ es := by
  induction es using List.reverseRecOn with
  | nil => cases h
  | append_singleton es e ih =>
    rw [lastCommit_snoc] at h
    cases e with
    | committed id info' showData' =>
      by_cases heq : id = projectId
      · rw [lastAfter, if_pos heq] at h
        cases h
        subst heq
        exact List.mem_append_right _ (List.mem_singleton_self _)
      · rw [lastAfter, if_neg heq] at h
        exact List.mem_append_left _ (ih h)
    | deleted id =>
      by_cases heq : id = projectId
      · rw [lastAfter, if_pos heq] at h
        cases h
      · rw [lastAfter, if_neg heq] at h
        exact List.mem_append_left _ (ih h)

lemma lastCommit_of {es : List (Event K)} (hrun : run (crashStep P root) [] ls = some (v, es))
    (h : lastCommit projectId es = some (info, showData)) :
    ∃ l ∈ ls, ∃ c ∈ l.2.content, find info "document" = some (.dict c.document) ∧
      find info "name" = some (.str c.name) ∧ showData = (conformingShow c.showData).1 := by
  have hlabels : Along (crashStep P root) (fun _ l => l ∈ ls) [] ls :=
    along_of_labels fun _ hl => hl
  have hall := (run_spec (I := fun _ => True)
    (P := fun e => (∃ id, e = .deleted id) ∨ ∃ l ∈ ls, ∃ c ∈ l.2.content, Event.Of c e)
    (fun w l m o _ hl hs => ?_) trivial hlabels hrun).2 _ (mem_of_lastCommit h)
  · rcases hall with ⟨id, hdel⟩ | hof
    · cases hdel
    · exact hof
  · cases hs
    refine ⟨trivial, fun e he => ?_⟩
    exact (call_of P root w l.1 l.2 e he).imp id fun ⟨c, hc, hof⟩ => ⟨l, hl, c, hc, hof⟩

/-- After any run of calls, each of them cut short or not, a project that was committed and
not deleted is read as its last commit, with the show of that commit or with none; an id
without one has no project. -/
theorem get_last_commit {ls : List (Option Nat × Call K)} {es : List (Event K)}
    (hrun : run (crashStep P root) [] ls = some (v, es))
    (hsha : Set.InjOn P.sha256 (ShowBlobs P ls)) (projectId : String) :
    (lastCommit projectId es = none → idMatches projectId = true →
      get P root v projectId = .error (.notFound projectId)) ∧
    ∀ info showData, lastCommit projectId es = some (info, showData) →
      (∃ l ∈ ls, ∃ c ∈ l.2.content, find info "document" = some (.dict c.document) ∧
        find info "name" = some (.str c.name) ∧ showData = (conformingShow c.showData).1) ∧
      ∃ p, get P root v projectId = .ok p ∧
        (find p "show" = some .none ∨ ∃ s, showData = some s ∧ find p "show" = some (.dict s)) ∧
        ∀ k, internalFields.contains k = false → k ≠ "has_show" → k ≠ "show" →
          find p k = find info k := by
  have h := agrees_of_run hrun projectId
  refine ⟨fun hnone hid => ?_, fun info showData hlast => ?_⟩
  · rw [get, readMeta_notFound hid (h.absent hnone)]
    rfl
  · obtain ⟨hid, hstored, blob, hfile, hdumps⟩ := h.info _ hlast
    have hread : readMeta P root v projectId = .ok info :=
      readMeta_written hid hstored hfile hdumps
    have hget : ∃ p, get P root v projectId = .ok p ∧
        find p "show" = some ((ProjectStore.readShow P v projectId info).getD .none) := by
      refine ⟨_, bind_eq_ok.mpr ⟨info, hread, rfl⟩, find_assign_self ..⟩
    obtain ⟨p, hp, hshow⟩ := hget
    obtain ⟨info', hread', hfields⟩ := find_get hp
    cases hread.symm.trans hread'
    refine ⟨lastCommit_of hrun hlast, p, hp, ?_, hfields⟩
    rw [hlast] at h
    rcases h.readShow hsha with hnone | ⟨s, hs, hsome⟩
    · rw [hnone] at hshow
      exact .inl hshow
    · rw [hsome] at hshow
      exact .inr ⟨s, hs, hshow⟩

/-- A project is made, and a save with a show dies once the show is written. -/
def cutShort : List (Option Nat × Call ℚ) :=
  [(none, .create (some "night") "" "08:00" (named "Night")),
    (some 1, .save "night" 1 "08:05" { named "Day" with showData := some [("drones", .list [])] })]

lemma injOn_cutShort : Set.InjOn plain.sha256 (ShowBlobs plain cutShort) := by
  intro a ha b hb _
  have hone : ∀ blob ∈ ShowBlobs plain cutShort,
      ∃ s ∈ (conformingShow (K := ℚ) (some [("drones", .list [])])).1, blob = .dict s := by
    rintro blob ⟨l, hl, c, hc, s, hs, hdumps⟩
    rcases List.mem_cons.mp hl with rfl | hl
    · cases hc
      cases hs
    · obtain rfl := List.mem_singleton.mp hl
      cases hc
      cases hdumps
      exact ⟨s, hs, rfl⟩
  obtain ⟨s, hs, rfl⟩ := hone a ha
  obtain ⟨s', hs', rfl⟩ := hone b hb
  rw [Option.some.inj (hs.symm.trans hs')]

theorem get_last_commit_cutShort : ∃ v es, run (crashStep plain "") [] cutShort = some (v, es) ∧
    (showFileOf v "night").isSome ∧ ∃ p, get plain "" v "night" = .ok p ∧
      find p "name" = some (.str "Night") ∧ find p "show" = some .none := by
  have hrun : ∃ v es, run (crashStep plain "") [] cutShort = some (v, es) ∧
      (showFileOf v "night").isSome ∧ ∃ info, lastCommit "night" es = some (info, none) ∧
        find info "name" = some (.str "Night") := ⟨_, _, rfl, rfl, _, rfl, rfl⟩
  obtain ⟨v, es, hr, hfile, info, hlast, hname⟩ := hrun
  obtain ⟨-, p, hp, hshow, hfields⟩ :=
    (get_last_commit hr injOn_cutShort "night").2 info none hlast
  refine ⟨v, es, hr, hfile, p, hp, ?_, hshow.resolve_right fun ⟨_, h, _⟩ => nomatch h⟩
  rw [hfields _ (by decide) (by decide) (by decide), hname]

end Taramandal.Studio.ProjectStore
