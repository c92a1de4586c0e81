import Taramandal.Gcs.BlackboxService

/-! # The files of the flight recorder

`prune_sessions` takes the oldest files first, and never the one it is told to keep. The
prune behind a rotation is told to keep the file in use. The prune that makes room for a
new file is not told of any, so the file in use is safe in it only if it cannot be removed
or the files before it make enough room (`Spares`). -/
set_option linter.unusedSectionVars false

namespace Taramandal.Gcs.BlackboxFiles

open Core.Numbers Core.Values Gcs.BlackboxService Lib.Evict Lib.Run

variable {K : Type}

section Prune

variable [LinearOrder K]

def rowSize (f : FileRow K) : Nat := f.2.2

def sessionBytes (d : Directory K) : ℤ := total rowSize (sortedRows d)

/-- The rows that sort before the file at `path`. -/
def rowsBefore (d : Directory K) (path : String) : List (FileRow K) :=
  (sortedRows d).takeWhile fun f => f.2.1 ≠ path

/-- A prune down to `budget` that keeps no file spares the one at `path`: it is not to be
seen or cannot be removed, or what can be removed before it makes enough room. -/
def Spares (removable : String → Bool) (d : Directory K) (budget : ℤ) (path : String) : Prop :=
  path ∈ (sortedRows d).map (fun f => f.2.1) → removable path = true →
    sessionBytes d - total rowSize ((rowsBefore d path).filter fun f => removable f.2.1) ≤ budget

instance (removable : String → Bool) (d : Directory K) (budget : ℤ) (path : String) :
    Decidable (Spares removable d budget path) :=
  inferInstanceAs (Decidable (_ → _ → _))

lemma paths_filterMap_row (files : List (SessionFile K)) :
    (files.filterMap SessionFile.row).map (fun f => f.2.1) =
      (files.filter fun f => f.stat.isSome).map SessionFile.path := by
  induction files with
  | nil => rfl
  | cons f files ih =>
    obtain ⟨path, stat⟩ := f
    cases stat with
    | none => exact ih
    | some s => exact congrArg (path :: ·) ih

lemma nodup_paths (d : Directory K) : ((sortedRows d).map fun f => f.2.1).Nodup := by
  refine (((List.perm_insertionSort _ _).map _).nodup_iff).mpr ?_
  rw [paths_filterMap_row]
  exact d.nodup.sublist (List.filter_sublist.map _)

variable {d : Directory K}

lemma exists_rows_eq {path : String} (h : path ∈ (sortedRows d).map fun f => f.2.1) :
    ∃ x rest, sortedRows d = rowsBefore d path ++ x :: rest ∧ x.2.1 = path ∧
      x ∉ rowsBefore d path ∧ x ∉ rest := by
  obtain ⟨x, hx, rfl⟩ := List.mem_map.mp h
  obtain ⟨front, rest, hrows, -⟩ := List.eq_append_cons_of_mem hx
  have hnodup := nodup_paths d
  rw [hrows, List.map_append, List.map_cons, List.nodup_middle, List.nodup_cons,
    ← List.map_append] at hnodup
  have hothers : ∀ f ∈ front ++ rest, f.2.1 ≠ x.2.1 := fun f hf heq =>
    hnodup.1 (heq ▸ List.mem_map_of_mem hf)
  have hfront : rowsBefore d x.2.1 = front := by
    have hall : ∀ f ∈ front, decide (f.2.1 ≠ x.2.1) = true := fun f hf =>
      decide_eq_true (hothers f (List.mem_append_left _ hf))
    rw [rowsBefore, hrows, List.takeWhile_append_of_pos hall]
    simp
  rw [hfront]
  exact ⟨x, rest, hrows, rfl, fun hf => hothers x (List.mem_append_left _ hf) rfl,
    fun hr => hothers x (List.mem_append_right _ hr) rfl⟩

variable {removable : String → Bool} {budget : ℤ}

lemma mem_pruneSessions
    {keep : Option String} {path : String} (h : path ∈ pruneSessions removable d budget keep) :
    keep ≠ some path ∧ removable path = true := by
  obtain ⟨f, hf, rfl⟩ := List.mem_map.mp h
  simpa using allowed_of_mem_evict hf

lemma not_mem_pruneSessions_iff {path : String} :
    path ∉ pruneSessions removable d budget none ↔ Spares removable d budget path := by
  by_cases hmem : path ∈ (sortedRows d).map fun f => f.2.1
  · obtain ⟨x, rest, hrows, rfl, hfront, hrest⟩ := exists_rows_eq hmem
    have hpaths : x.2.1 ∈ pruneSessions removable d budget none ↔
        x ∈ evict (fun f : FileRow K => none ≠ some f.2.1 && removable f.2.1) rowSize budget
          (sessionBytes d) (sortedRows d) := by
      refine ⟨fun h => ?_, fun h => List.mem_map_of_mem h⟩
      obtain ⟨f, hf, heq⟩ := List.mem_map.mp h
      have hfx : f = x := List.inj_on_of_nodup_map (nodup_paths d)
        ((evict_sublist _ _).subset hf) (hrows ▸ by simp) heq
      exact hfx ▸ hf
    rw [hpaths, hrows, mem_evict_iff hfront hrest, Spares]
    simp only [hmem, ne_eq, reduceCtorEq, not_false_eq_true, decide_true, Bool.true_and,
      not_and, not_lt, true_imp_iff]
  · have hout : path ∉ pruneSessions removable d budget none := by
      intro h
      obtain ⟨f, hf, rfl⟩ := List.mem_map.mp h
      exact hmem (List.mem_map_of_mem ((evict_sublist _ _).subset hf))
    exact ⟨fun _ hin => absurd hin hmem, fun _ => hout⟩

lemma sortedRows_without (d : Directory K) (removed : List String) :
    (sortedRows (d.without removed)).Perm ((sortedRows d).filter fun f => f.2.1 ∉ removed) := by
  have hrows : (d.without removed).files.filterMap SessionFile.row =
      (d.files.filterMap SessionFile.row).filter fun f => f.2.1 ∉ removed := by
    rw [List.filter_filterMap, Directory.without, List.filterMap_filter]
    refine List.filterMap_congr fun f _ => ?_
    obtain ⟨path, stat⟩ := f
    by_cases hpath : path ∈ removed <;> cases stat <;>
      simp [SessionFile.row, Option.filter, hpath]
  rw [sortedRows, hrows]
  exact (List.perm_insertionSort _ _).trans ((List.perm_insertionSort _ _).filter _).symm

/-- What is left of the session files fits, or is to be kept or cannot be removed. -/
lemma pruneSessions_fits (removable : String → Bool) (d : Directory K) (budget : ℤ)
    (keep : Option String) :
    sessionBytes (d.without (pruneSessions removable d budget keep)) ≤ budget ∨
      ∀ f ∈ sortedRows (d.without (pruneSessions removable d budget keep)),
        keep = some f.2.1 ∨ removable f.2.1 = false := by
  set allowed : FileRow K → Bool := fun f => keep ≠ some f.2.1 && removable f.2.1
  set taken := evict allowed rowSize budget (sessionBytes d) (sortedRows d) with htaken
  have hremoved : pruneSessions removable d budget keep = taken.map fun f => f.2.1 := rfl
  have hsub : taken.Sublist (sortedRows d) := evict_sublist _ _
  have hmem : ∀ f ∈ sortedRows d, f.2.1 ∈ taken.map (fun f => f.2.1) ↔ f ∈ taken := by
    refine fun f hf => ⟨fun h => ?_, List.mem_map_of_mem⟩
    obtain ⟨g, hg, heq⟩ := List.mem_map.mp h
    exact List.inj_on_of_nodup_map (nodup_paths d) (hsub.subset hg) hf heq ▸ hg
  have hleft := sortedRows_without d (taken.map fun f => f.2.1)
  rw [hremoved]
  rcases evict_fits allowed rowSize budget (sessionBytes d) (sortedRows d) with hfits | hall
  · left
    have hgone : ((sortedRows d).filter fun f => f.2.1 ∈ taken.map (fun f => f.2.1)).Perm taken := by
      have hrows := (nodup_paths d).of_map
      refine (List.perm_ext_iff_of_nodup (hrows.filter _) (hrows.sublist hsub)).mpr fun f => ?_
      rw [List.mem_filter, decide_eq_true_iff]
      exact ⟨fun h => (hmem f h.1).mp h.2, fun h => ⟨hsub.subset h, List.mem_map_of_mem h⟩⟩
    have hsplit := total_filter_add rowSize
      (fun f : FileRow K => decide (f.2.1 ∈ taken.map fun f => f.2.1)) (sortedRows d)
    have hkept : sessionBytes (d.without (taken.map fun f => f.2.1)) = total rowSize
        ((sortedRows d).filter fun f => !decide (f.2.1 ∈ taken.map fun f => f.2.1)) := by
      rw [sessionBytes, total_perm hleft]
      simp only [decide_not]
    rw [total_perm hgone] at hsplit
    rw [hkept]
    exact (eq_sub_of_add_eq' hsplit).trans_le hfits
  · right
    intro f hf
    obtain ⟨hin, hnot⟩ := List.mem_filter.mp (hleft.mem_iff.mp hf)
    have hout : f ∉ taken := fun h => of_decide_eq_true hnot ((hmem f hin).mpr h)
    have hforbidden : allowed f ≠ true := fun h => hout (hall f hin h)
    by_contra hcon
    obtain ⟨hkeep, hremovable⟩ := not_or.mp hcon
    exact hforbidden (by simp [allowed, hkeep, Bool.eq_true_of_not_eq_false hremovable])

end Prune

/-! ## Runs of the service -/

def Service.openPaths (s : Service K) : List String :=
  (s.recorder.toList.filter fun r => !r.closed).map Session.path ++
    ((s.finishing.map Finishing.old).toList.filter fun r => !r.closed).map Session.path

/-- The current recorder is open, and a rotation that is under way keeps its file. -/
structure Kept (s : Service K) : Prop where
  idle : s.phase = .idle → s.recorder = none ∧ s.finishing = none
  opened : ∀ r ∈ s.recorder, r.closed = false
  keeps : ∀ f ∈ s.finishing, ∀ r ∈ s.recorder, r.path = f.keep
  present : ∀ f ∈ s.finishing, f.abandoned = false → s.recorder.isSome

variable {s : Service K}

variable {r : Session K} {t : Service K}

lemma openPaths_of_poll (h : Kept s) (hr : s.recorder = some r)
    (hfin : s.finishing = none) : Service.openPaths s = [r.path] := by
  rw [Service.openPaths, hr, hfin]
  simp [h.opened r hr]

lemma eq_keep_of_open {f : Finishing K} (h : Kept s) (hf : s.finishing = some f)
    (hclosed : f.old.closed = true) {path : String} (hpath : path ∈ Service.openPaths s) :
    path = f.keep := by
  rw [Service.openPaths, hf] at hpath
  simp only [Option.map_some, Option.toList_some, List.filter_cons, hclosed, Bool.not_true,
    Bool.false_eq_true, if_false, List.filter_nil, List.map_nil, List.append_nil,
    List.mem_map, List.mem_filter, Option.mem_toList] at hpath
  obtain ⟨r, ⟨hr, -⟩, rfl⟩ := hpath
  exact h.keeps f hf r hr

/-- What a step does to the recorder `r`: it goes on, or another one takes its place. -/
def Moved (s : Service K) (r : Session K) (t : Service K) : Prop :=
  t.phase = s.phase ∧ ((∃ r', t.recorder = some r' ∧ r'.path = r.path ∧ r'.closed = r.closed ∧
        t.finishing = s.finishing) ∨
      ∃ path old, t.recorder = some { path := path } ∧
        t.finishing = some { old := old, keep := path })

lemma Kept.of_same (h : Kept s) (hphase : t.phase = .idle → s.phase = .idle)
    (hrec : t.recorder = s.recorder) (hfin : t.finishing = s.finishing ∨ t.finishing = none) :
    Kept t := by
  have hf : ∀ f ∈ t.finishing, f ∈ s.finishing := by
    rcases hfin with hfin | hfin
    · exact fun f hf => hfin ▸ hf
    · intro f hf
      rw [hfin] at hf
      cases hf
  refine ⟨fun hidle => ?_, fun r hr => h.opened r (hrec ▸ hr),
    fun f hm r hr => h.keeps f (hf f hm) r (hrec ▸ hr),
    fun f hm ha => hrec ▸ h.present f (hf f hm) ha⟩
  obtain ⟨hnone, hnone'⟩ := h.idle (hphase hidle)
  exact ⟨hrec.trans hnone, hfin.elim (·.trans hnone') id⟩

lemma Kept.moved (h : Kept s) (hr : s.recorder = some r) (hm : Moved s r t) : Kept t := by
  have hphase : s.phase ≠ .idle := fun hidle => by
    rw [(h.idle hidle).1] at hr
    cases hr
  obtain ⟨hsame, ⟨r', hr', hpath, hclosed, hfin⟩ | ⟨path, old, hr', hfin⟩⟩ := hm
  · refine ⟨fun hidle => absurd (hsame ▸ hidle) hphase, ?_, ?_, ?_⟩
    · rintro _ hmem
      obtain rfl := Option.some.inj (hr'.symm.trans hmem)
      exact hclosed.trans (h.opened r hr)
    · rintro f hf _ hmem
      obtain rfl := Option.some.inj (hr'.symm.trans hmem)
      exact hpath.trans (h.keeps f (hfin ▸ hf) r hr)
    · exact fun _ _ _ => hr' ▸ rfl
  · refine ⟨fun hidle => absurd (hsame ▸ hidle) hphase, ?_, ?_, ?_⟩
    · rintro _ hmem
      obtain rfl := Option.some.inj (hr'.symm.trans hmem)
      rfl
    · rintro f hf _ hmem
      obtain rfl := Option.some.inj (hr'.symm.trans hmem)
      obtain rfl := Option.some.inj (hfin.symm.trans hf)
      rfl
    · exact fun _ _ _ => hr' ▸ rfl

@[simp] lemma Session.record_path (r : Session K) (lines : List (Line K)) :
    (r.record lines).path = r.path := by
  unfold Session.record
  split <;> rfl

@[simp] lemma Session.record_closed (r : Session K) (lines : List (Line K)) :
    (r.record lines).closed = r.closed := by
  unfold Session.record
  split <;> rfl

section Runs

variable [Field K] [LinearOrder K] [FloorRing K] [Sqrt K] (str : PyVal K → String)
  (cfg : ServiceConfig K)

/-- The step removes no file that a recorder of the service has open. -/
def KeepsOpen (s : Service K) (l : ServiceLabel K) : Prop :=
  ∀ t o, serviceStep str cfg s l = some (t, o) → ∀ path ∈ o, path ∉ Service.openPaths s

/-- If the step completes a rotation, the session files fit, or those that are left are
the one in use and those that cannot be removed. -/
def LeavesRoom (s : Service K) : ServiceLabel K → Prop
  | .pruneOld removable => ∀ f ∈ s.finishing, f.abandoned = false →
    ∀ t o, serviceStep str cfg s (.pruneOld removable) = some (t, o) →
      sessionBytes t.directory ≤ cfg.maxTotalBytes ∨ ∀ row ∈ sortedRows t.directory,
          s.recorder.map Session.path = some row.2.1 ∨ removable row.2.1 = false
  | _ => True

/-- A poll that rotates finds the file in use spared by the prune that makes room. -/
def SparesOpen (s : Service K) : ServiceLabel K → Prop
  | .poll now bytesWritten removable _ =>
    ∀ r ∈ s.recorder, rotates cfg now bytesWritten r s = true →
      Spares removable s.directory (cfg.maxTotalBytes - cfg.fileBytes) r.path
  | _ => True

instance (s : Service K) (l : ServiceLabel K) : Decidable (KeepsOpen str cfg s l) :=
  match h : serviceStep str cfg s l with
  | none => .isTrue fun t o hs => by rw [h] at hs; cases hs
  | some (t, o) =>
    decidable_of_iff (∀ path ∈ o, path ∉ Service.openPaths s)
      ⟨fun hk t' o' hs => by
        obtain rfl := congrArg Prod.snd (Option.some.inj (h.symm.trans hs))
        exact hk, fun hk => hk t o h⟩

instance (s : Service K) : ∀ l, Decidable (SparesOpen cfg s l)
  | .poll .. => inferInstanceAs (Decidable (∀ r ∈ s.recorder, _ → _))
  | .start .. | .fsm _ | .audit _ | .watch _ | .disk _ | .fail | .closeOld _ | .pruneOld _
  | .cancel | .detach | .giveUp | .close => .isTrue trivial

variable {str cfg}

lemma moved_rotate (cfg : ServiceConfig K) (removable : String → Bool)
    (created : Option (SessionFile K))
    (s : Service K) (old : Session K) : Moved s old (rotate cfg removable created old s) := by
  rcases rotate_cases cfg removable created old s with ⟨d, hd⟩ | ⟨d, path, hd⟩
  · rw [hd]
    exact ⟨rfl, .inl ⟨old, rfl, rfl, rfl, rfl⟩⟩
  · rw [hd]
    exact ⟨rfl, .inr ⟨path, old, rfl, rfl⟩⟩

lemma polledSession_path (now : K) (r : Session K) (s : Service K) :
    (polledSession now r s).path = r.path ∧ (polledSession now r s).closed = r.closed := by
  unfold polledSession
  split <;> simp

variable {s : Service K}

lemma moved_poll {r : Session K} (hr : s.recorder = some r) (now : K)
    (bytesWritten : Nat) (removable : String → Bool) (created : Option (SessionFile K)) :
    Moved s r (poll cfg now bytesWritten removable created r s) := by
  obtain ⟨hpath, hclosed⟩ := polledSession_path now r s
  unfold poll
  split_ifs with hfailed hrotates hrotates
  · exact moved_rotate cfg removable created { s with retryAt := now + retryAfterFailureS } r
  · exact ⟨rfl, .inl ⟨r, hr, rfl, rfl, rfl⟩⟩
  · obtain ⟨hphase, hmoved⟩ := moved_rotate cfg removable created (polled now r s)
      (polledSession now r s)
    rw [Moved, ← hpath, ← hclosed]
    exact ⟨hphase, hmoved⟩
  · exact ⟨rfl, .inl ⟨_, rfl, hpath, hclosed, rfl⟩⟩

variable {l : ServiceLabel K}

lemma kept_step {t : Service K} {o : List String} (h : Kept s)
    (hs : serviceStep str cfg s l = some (t, o)) : Kept t := by
  cases served_of_step hs with
  | unopened d => exact h.of_same id rfl (.inl rfl)
  | started d path hidle =>
    have hfin := (h.idle hidle).2
    refine ⟨fun hidle => (nomatch hidle), ?_, ?_, fun _ _ _ => rfl⟩
    · rintro _ ⟨⟩
      rfl
    · rintro f hf
      rw [hfin] at hf
      cases hf
  | unpolled => exact h
  | polled now bytesWritten removable created r hr =>
    exact h.moved hr (moved_poll hr now bytesWritten removable created)
  | fsm entry =>
    cases hr : s.recorder with
    | none => exact h
    | some r => exact h.moved hr ⟨rfl, .inl ⟨_, rfl, by simp, by simp, rfl⟩⟩
  | audit entry =>
    cases hr : s.recorder with
    | none => exact h
    | some r => exact h.moved hr ⟨rfl, .inl ⟨_, rfl, by simp, by simp, rfl⟩⟩
  | watch dm => exact h.of_same id rfl (.inl rfl)
  | disk directory => exact h.of_same id rfl (.inl rfl)
  | fail =>
    cases hr : s.recorder with
    | none => exact h.of_same id (by rw [hr]; rfl) (.inl rfl)
    | some r => exact h.moved hr ⟨rfl, .inl ⟨_, rfl, rfl, rfl, rfl⟩⟩
  | closed f hf hkept =>
    refine ⟨fun hidle => ?_, h.opened, ?_, ?_⟩
    · exact absurd ((h.idle hidle).2.symm.trans hf) (by simp)
    · rintro _ ⟨⟩
      exact h.keeps f hf
    · rintro _ ⟨⟩
      exact h.present f hf
  | unclosed => exact h.of_same id rfl (.inr rfl)
  | pruned f => exact h.of_same id rfl (.inr rfl)
  | cancelled => exact h.of_same (fun hidle => nomatch hidle) rfl (.inl rfl)
  | detached => exact h.of_same (fun hidle => nomatch hidle) rfl (.inl rfl)
  | givenUp f hf hphase =>
    refine ⟨fun hidle => ?_, h.opened, ?_, ?_⟩
    · exact absurd (hphase.symm.trans hidle) (by simp)
    · rintro _ ⟨⟩
      exact h.keeps f hf
    · rintro _ ⟨⟩ ha
      cases ha
  | stopped habandoned =>
    refine ⟨fun hidle => (nomatch hidle), fun _ hm => (nomatch hm),
      fun _ _ _ hm => (nomatch hm), ?_⟩
    intro f hf ha
    rw [Option.mem_def.mp hf, Option.all_some, ha] at habandoned
    cases habandoned

/-- The labels under which `prune_sessions` is called. -/
inductive Prunes : ServiceLabel K → Prop
  | start (removable created) : Prunes (.start removable created)
  | poll (now bytesWritten removable created) : Prunes (.poll now bytesWritten removable created)
  | pruneOld (removable) : Prunes (.pruneOld removable)

lemma keepsOpen_iff (h : Kept s)
    (hpossible : (serviceStep str cfg s l).isSome) : KeepsOpen str cfg s l ↔ SparesOpen cfg s l := by
  obtain ⟨⟨t, o⟩, hs⟩ := Option.isSome_iff_exists.mp hpossible
  have hstep : KeepsOpen str cfg s l ↔ ∀ path ∈ o, path ∉ Service.openPaths s := by
    refine ⟨fun hk => hk t o hs, fun hk t' o' hs' => ?_⟩
    obtain rfl := congrArg Prod.snd (Option.some.inj (hs.symm.trans hs'))
    exact hk
  have hidle : s.phase = .idle → Service.openPaths s = [] := by
    intro hphase
    obtain ⟨hrec, hfin⟩ := h.idle hphase
    rw [Service.openPaths, hrec, hfin]
    rfl
  rw [hstep]
  cases served_of_step hs with
  | unopened d hphase =>
    rw [hidle hphase]
    exact iff_of_true (fun _ _ => List.not_mem_nil) trivial
  | started d path hphase =>
    rw [hidle hphase]
    exact iff_of_true (fun _ _ => List.not_mem_nil) trivial
  | unpolled hr =>
    refine iff_of_true (fun _ hpath => (nomatch hpath)) ?_
    rw [SparesOpen, hr]
    exact fun _ hm => (nomatch hm)
  | polled now bytesWritten removable created r hr hfin =>
    rw [openPaths_of_poll h hr hfin, SparesOpen, hr]
    simp only [Option.mem_def, Option.some.injEq, forall_eq']
    refine Iff.trans ?_ (imp_congr_right fun _ => not_mem_pruneSessions_iff)
    split_ifs with hrotates
    · simp only [List.mem_singleton]
      exact ⟨fun hk _ hmem => hk _ hmem rfl, fun hnot path hpath heq =>
        hnot hrotates (heq ▸ hpath)⟩
    · exact iff_of_true (fun _ hpath => (nomatch hpath)) fun hr => absurd hr hrotates
  | pruned f hf hclosed =>
    refine iff_of_true (fun path hpath hopen => ?_) trivial
    have hkeep := eq_keep_of_open h hf hclosed hopen
    exact (mem_pruneSessions hpath).1 (congrArg some hkeep.symm)
  | _ => exact iff_of_true (fun _ hpath => (nomatch hpath)) trivial

lemma leavesRoom_step (h : Kept s) (l : ServiceLabel K) : LeavesRoom str cfg s l := by
  cases l with
  | pruneOld removable =>
    intro f hf habandoned t o hs
    obtain ⟨r, hr⟩ := Option.isSome_iff_exists.mp (h.present f hf habandoned)
    rw [hr, Option.map_some, h.keeps f hf r hr]
    cases served_of_step hs with
    | pruned f' hf' =>
      obtain rfl := Option.some.inj (hf'.symm.trans hf)
      exact pruneSessions_fits removable s.directory cfg.maxTotalBytes (some f'.keep)
  | _ => trivial

lemma kept_newService (directory : Directory K) (dm : ManagerView K) :
    Kept (newService directory dm) :=
  ⟨fun _ => ⟨rfl, rfl⟩, fun _ hm => (nomatch hm), fun _ hm => (nomatch hm),
    fun _ hm => (nomatch hm)⟩

/-- Along every run of the service, over any directory: no file that is open is removed
exactly if the file in use is spared whenever a poll rotates, and in any case there is room
behind every completed rotation. -/
theorem open_files_kept_iff {directory : Directory K} {dm : ManagerView K}
    {ls : List (ServiceLabel K)} {t : Service K} {os : List String}
    (hrun : run (serviceStep str cfg) (newService directory dm) ls = some (t, os)) :
    (Along (serviceStep str cfg) (KeepsOpen str cfg) (newService directory dm) ls ↔
      Along (serviceStep str cfg) (SparesOpen cfg) (newService directory dm) ls) ∧
    Along (serviceStep str cfg) (LeavesRoom str cfg) (newService directory dm) ls := by
  have hpossible := along_of_run hrun
  refine ⟨along_congr (I := Kept) ?_ ?_ (kept_newService directory dm) hpossible,
    along_of_invariant (I := Kept) ?_ ?_ (kept_newService directory dm) hpossible⟩
  · exact fun s l h hp => keepsOpen_iff h hp
  · exact fun s l m o h _ _ hs => kept_step h hs
  · exact fun s l m o h _ hs => kept_step h hs
  · exact fun s l h _ => leavesRoom_step h l

end Runs

def smallCap : ServiceConfig ℚ where
  maxTotalMb := 4
  fileMb := 100

def sessionFile (path : String) (mtime : ℚ) (size : Nat) : SessionFile ℚ where
  path := path
  stat := some (mtime, size)

/-- A session, beside it a file of 3 MB that was written at `mtime`, and a rotation. -/
def rotationBeside (mtime : ℚ) : List (ServiceLabel ℚ) :=
  [.start (fun _ => true) (some (sessionFile "blackbox_b.jsonl.gz" 10 0)),
    .disk {
      files := [sessionFile "blackbox_b.jsonl.gz" 20 1048576,
        sessionFile "blackbox_a.jsonl.gz" mtime 3000000]
      nodup := by simp [sessionFile] },
    .poll 1 1048576 (fun _ => true) (some (sessionFile "blackbox_c.jsonl.gz" 21 0)),
    .closeOld true, .pruneOld fun _ => true]

theorem open_files_kept_older_file :
    Along (serviceStep (fun _ => "") smallCap) (KeepsOpen (fun _ => "") smallCap)
      (newService { files := [] } {}) (rotationBeside 5) := by
  obtain ⟨⟨t, os⟩, hrun, -⟩ : ∃ r ∈ run (serviceStep (fun _ => "") smallCap)
      (newService { files := [] } {}) (rotationBeside 5), True := by decide +kernel
  exact (open_files_kept_iff hrun).1.mpr (by decide +kernel)

/-- The other file is dated after the one in use, which then goes first. -/
theorem open_file_removed :
    ¬ Along (serviceStep (fun _ => "") smallCap) (KeepsOpen (fun _ => "") smallCap)
      (newService { files := [] } {}) (rotationBeside 30) := by
  decide +kernel

end Taramandal.Gcs.BlackboxFiles
