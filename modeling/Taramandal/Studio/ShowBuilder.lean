import Taramandal.Lib.Run

/-! # Building a show in the editor (`useShowBuilder.js`, `latestRun.js`)

A build asks the backend for the assignment and is suspended until the answer is there; its
validation runs in the background after it. Meanwhile the designer can build again, load a project
or clear the editor. What a build comes to and what the validator answers are in the label of the
step. -/
namespace Taramandal.Studio.ShowBuilder

open Lib.Run

variable {Show V : Type}

/-- What validating a show came to. -/
inductive Verdict (V : Type) where
  | report (v : V)
  | unverified (summary : String)

/-- A report, with the show that was sent to the validator for it. -/
structure Report (Show V : Type) where
  about : Show
  verdict : Verdict V

/-- What building the scenes came to once the assignment was answered. -/
inductive Outcome (Show : Type) where
  | built (choreo : Show)
  | refused (message : String)
  | threw

/-- How the validation request ended. -/
inductive Answer (V : Type) where
  | metrics (v : V)
  | other
  | failed (message : Option String)

def Answer.verdict : Answer V → Verdict V
  | .metrics v => .report v
  | .other => .unverified "Invalid response from validator."
  | .failed message =>
    .unverified ("Validation service unavailable: " ++ (message.filter (· ≠ "")).getD "offline")

structure Builder (Show V : Type) where
  choreoData : Option Show
  validation : Option (Report Show V)
  validating : Bool
  loading : Bool
  error : Option String
  /-- `latest` of the run gate. -/
  latest : Nat
  /-- How many builds, loads and clears were started. -/
  started : Nat
  /-- The builds that wait for their assignment. -/
  suspended : List Nat
  /-- The runs whose validation is not answered, with their shows. -/
  validations : List (Nat × Show)
  /-- The runs whose validation is answered and not yet over. -/
  answered : List Nat

def Builder.initial : Builder Show V where
  choreoData := none
  validation := none
  validating := false
  loading := false
  error := none
  latest := 0
  started := 0
  suspended := []
  validations := []
  answered := []

/-- What an action put into `choreoData`. -/
structure Result (Show : Type) where
  action : Nat
  choreo : Option Show

inductive Label (Show V : Type) where
  | build (noScenes : Bool)
  | resume (action : Nat) (outcome : Outcome Show)
  | answer (runId : Nat) (a : Answer V)
  | finish (runId : Nat)
  | load (choreo : Option Show) (report : Option (Report Show V))
  | clear
  | setError (error : Option String)

namespace Builder

section

variable (s : Builder Show V)

def setChoreoDataExternal (value : Option Show) : Builder Show V :=
  { s with latest := s.latest + 1, validating := false, choreoData := value }

def setValidationExternal (value : Option (Report Show V)) : Builder Show V :=
  { s with latest := s.latest + 1, validating := false, validation := value }

/-- `build`, up to the request for the assignment. -/
def build (noScenes : Bool) : Builder Show V :=
  if noScenes then { s with started := s.started + 1, error := some "Add at least one scene." }
  else
    { s with
      started := s.started + 1
      loading := true
      error := none
      suspended := (s.started + 1) :: s.suspended }

/-- `build`, from the answer to its end. -/
def resume : Outcome Show → Builder Show V
  | .built choreo =>
    { s with
      choreoData := some choreo
      validation := none
      latest := s.latest + 1
      loading := false
      validating := true
      validations := (s.latest + 1, choreo) :: s.validations }
  | .refused message =>
    { s with error := some ("Sequence build failed: " ++ message), loading := false }
  | .threw => { s with loading := false }

def answer (runId : Nat) (choreo : Show) (a : Answer V) : Builder Show V :=
  if runId = s.latest then { s with validation := some ⟨choreo, a.verdict⟩ } else s

def finish (runId : Nat) : Builder Show V :=
  if runId = s.latest then { s with validating := false } else s

def clear : Builder Show V :=
  { s with
    latest := s.latest + 1
    choreoData := none
    validation := none
    validating := false
    error := none }

end

end Builder

def Outcome.results (action : Nat) : Outcome Show → List (Result Show)
  | .built choreo => [⟨action, some choreo⟩]
  | _ => []

def step : System (Builder Show V) (Label Show V) (Result Show)
  | s, .build noScenes => some (s.build noScenes, [])
  | s, .resume action outcome =>
    if action ∈ s.suspended then
      some ({ s.resume outcome with suspended := s.suspended.erase action }, outcome.results action)
    else none
  | s, .answer runId a =>
    match s.validations.find? (·.1 = runId) with
    | some (_, choreo) =>
      some ({ s.answer runId choreo a with
        validations := s.validations.filter (·.1 ≠ runId), answered := runId :: s.answered }, [])
    | none => none
  | s, .finish runId =>
    if runId ∈ s.answered then
      some ({ s.finish runId with answered := s.answered.erase runId }, [])
    else none
  | s, .load choreo report =>
    some ({ (s.setChoreoDataExternal choreo).setValidationExternal report with
      started := s.started + 1 }, [⟨s.started + 1, choreo⟩])
  | s, .clear => some ({ s.clear with started := s.started + 1 }, [⟨s.started + 1, none⟩])
  | s, .setError error => some ({ s with error }, [])

/-! ## The newest intent -/

def newest (rs : List (Result Show)) : Result Show :=
  rs.foldl (fun best r => if best.action ≤ r.action then r else best) ⟨0, none⟩

lemma newest_snoc (rs : List (Result Show)) (r : Result Show) :
    newest (rs ++ [r]) = if (newest rs).action ≤ r.action then r else newest rs :=
  List.foldl_append

/-- The editor shows the newest intent, and a report only of the show in it. -/
structure Builder.ShowsNewest (s : Builder Show V) (rs : List (Result Show)) : Prop where
  choreo : s.choreoData = (newest rs).choreo
  report : ∀ r ∈ s.validation, s.choreoData = some r.about

/-- A build that was overtaken changes nothing when it resumes. -/
def OvertakenQuiet (s : Builder Show V) (l : Label Show V) : Prop :=
  ∀ action outcome, l = .resume action outcome → action ≠ s.started → ∀ t rs,
    step s l = some (t, rs) → t = { s with suspended := s.suspended.erase action }

/-- The build fails, and the editor already shows all that this would change. -/
def AlreadyFailed (s : Builder Show V) : Outcome Show → Prop
  | .built _ => False
  | .refused message =>
    s.loading = false ∧ s.error = some ("Sequence build failed: " ++ message)
  | .threw => s.loading = false

/-- A build that resumes is the action started last, or fails as the editor
already shows; a load brings a report of its own show or none. -/
def InOrder (s : Builder Show V) : Label Show V → Prop
  | .resume action outcome =>
    action ∈ s.suspended → action = s.started ∨ AlreadyFailed s outcome
  | .load choreo report => ∀ r ∈ report, choreo = some r.about
  | _ => True

variable {s : Builder Show V}

/-- A resumed build is quiet exactly if nothing was started after it or it fails
as the editor already shows. -/
lemma overtakenQuiet_resume {action : Nat} {outcome : Outcome Show} :
    OvertakenQuiet s (.resume action outcome) ↔ InOrder s (.resume action outcome) := by
  constructor
  · intro hquiet hmem
    by_contra hnot
    obtain ⟨hne, hfresh⟩ := not_or.mp hnot
    have heq := hquiet action outcome rfl hne _ _ (if_pos hmem)
    cases outcome with
    | built choreo =>
      have hlatest := congrArg Builder.latest heq
      exact Nat.succ_ne_self _ hlatest
    | refused message =>
      exact hfresh ⟨(congrArg Builder.loading heq).symm, (congrArg Builder.error heq).symm⟩
    | threw => exact hfresh (congrArg Builder.loading heq).symm
  · intro horder action' outcome' heq hne t rs hs
    cases heq
    by_cases hmem : action ∈ s.suspended
    · rw [step, if_pos hmem, Option.some.injEq, Prod.mk.injEq] at hs
      rw [← hs.1]
      have hfailed := (horder hmem).resolve_left hne
      cases outcome with
      | built choreo => exact hfailed.elim
      | refused message => rw [Builder.resume, ← hfailed.1, ← hfailed.2]
      | threw => rw [Builder.resume, ← show s.loading = false from hfailed]
    · rw [step, if_neg hmem] at hs
      cases hs

instance [DecidableEq Show] (s : Builder Show V) (l : Label Show V) : Decidable (InOrder s l) :=
  match l with
  | .build _ | .answer _ _ | .finish _ | .clear | .setError _ => .isTrue trivial
  | .resume action (.built _) =>
    inferInstanceAs (Decidable (action ∈ s.suspended → action = s.started ∨ False))
  | .resume action (.refused message) =>
    inferInstanceAs (Decidable (action ∈ s.suspended → action = s.started ∨
      s.loading = false ∧ s.error = some ("Sequence build failed: " ++ message)))
  | .resume action .threw =>
    inferInstanceAs (Decidable (action ∈ s.suspended → action = s.started ∨ s.loading = false))
  | .load choreo report => inferInstanceAs (Decidable (∀ r ∈ report, choreo = some r.about))

variable {l : Label Show V}

lemma InOrder.overtakenQuiet (h : InOrder s l) : OvertakenQuiet s l := by
  cases l with
  | resume action outcome => exact overtakenQuiet_resume.mpr h
  | _ => intro action outcome heq; cases heq

/-- What holds between the steps of a run in order: the editor shows the newest
intent, and the validation of the current run is about the show in it. -/
structure Builder.Kept (s : Builder Show V) (rs : List (Result Show)) : Prop
    extends s.ShowsNewest rs where
  started : (newest rs).action ≤ s.started
  runs : ∀ v ∈ s.validations, v.1 ≤ s.latest
  current : ∀ v ∈ s.validations, v.1 = s.latest → s.choreoData = some v.2

lemma Builder.kept_initial : (Builder.initial : Builder Show V).Kept [] where
  choreo := rfl
  report := fun _ hr => by cases hr
  started := Nat.le_refl 0
  runs := fun _ hv => by cases hv
  current := fun _ hv => by cases hv

variable {rs : List (Result Show)} {t : Builder Show V}

lemma Builder.Kept.frame (h : s.Kept rs) (hchoreo : t.choreoData = s.choreoData)
    (hreport : t.validation = s.validation) (hlatest : t.latest = s.latest)
    (hstarted : s.started ≤ t.started) (hvalidations : ∀ v ∈ t.validations, v ∈ s.validations) :
    t.Kept (rs ++ []) where
  choreo := by rw [List.append_nil, hchoreo]; exact h.choreo
  report := by rw [hchoreo, hreport]; exact h.report
  started := by rw [List.append_nil]; exact Nat.le_trans h.started hstarted
  runs := fun v hv => by rw [hlatest]; exact h.runs v (hvalidations v hv)
  current := fun v hv => by rw [hlatest, hchoreo]; exact h.current v (hvalidations v hv)

lemma Builder.Kept.replaced (h : s.Kept rs) {r : Result Show} (hchoreo : t.choreoData = r.choreo)
    (hreport : ∀ v ∈ t.validation, r.choreo = some v.about) (hle : s.started ≤ r.action)
    (hstarted : t.started = r.action) (hlatest : s.latest < t.latest)
    (hvalidations : ∀ v ∈ t.validations, v ∈ s.validations ∨ r.choreo = some v.2 ∧ v.1 ≤ t.latest) :
    t.Kept (rs ++ [r]) := by
  have hnewest : newest (rs ++ [r]) = r :=
    (newest_snoc rs r).trans (if_pos (Nat.le_trans h.started hle))
  refine ⟨⟨?_, ?_⟩, ?_, ?_, ?_⟩
  · rw [hnewest, hchoreo]
  · rw [hchoreo]
    exact hreport
  · exact Nat.le_of_eq (by rw [hnewest, hstarted])
  · intro v hv
    rcases hvalidations v hv with hold | ⟨-, hnew⟩
    · exact Nat.le_trans (h.runs v hold) (Nat.le_of_lt hlatest)
    · exact hnew
  · intro v hv heq
    rcases hvalidations v hv with hold | ⟨hnew, -⟩
    · exact absurd (heq ▸ h.runs v hold) (Nat.not_le.mpr hlatest)
    · rw [hchoreo, hnew]

lemma Builder.Kept.step {o : List (Result Show)} (h : s.Kept rs) (horder : InOrder s l)
    (hs : ShowBuilder.step s l = some (t, o)) : t.Kept (rs ++ o) := by
  cases l with
  | build noScenes =>
    cases hs
    cases noScenes with
    | true => exact h.frame rfl rfl rfl (Nat.le_succ _) fun _ hv => hv
    | false => exact h.frame rfl rfl rfl (Nat.le_succ _) fun _ hv => hv
  | resume action outcome =>
    by_cases hmem : action ∈ s.suspended
    · rw [ShowBuilder.step, if_pos hmem] at hs
      cases hs
      cases outcome with
      | built choreo =>
        obtain rfl := (horder hmem).resolve_right id
        refine h.replaced (r := ⟨s.started, some choreo⟩) rfl (fun _ hv => by cases hv)
          (Nat.le_refl _) rfl (Nat.lt_succ_self _) fun v hv => ?_
        rcases List.mem_cons.mp hv with rfl | hold
        · exact .inr ⟨rfl, Nat.le_refl _⟩
        · exact .inl hold
      | refused message => exact h.frame rfl rfl rfl (Nat.le_refl _) fun _ hv => hv
      | threw => exact h.frame rfl rfl rfl (Nat.le_refl _) fun _ hv => hv
    · rw [ShowBuilder.step, if_neg hmem] at hs
      cases hs
  | answer runId a =>
    simp only [ShowBuilder.step] at hs
    split at hs
    next run choreo hfind =>
      cases hs
      have hmem : (run, choreo) ∈ s.validations := List.mem_of_find?_eq_some hfind
      obtain rfl : run = runId := by simpa using List.find?_some hfind
      have hsub : ∀ v ∈ s.validations.filter (·.1 ≠ run), v ∈ s.validations :=
        fun v hv => (List.mem_filter.mp hv).1
      by_cases hcurrent : run = s.latest
      · have hshow := h.current _ hmem hcurrent
        simp only [Builder.answer, if_pos hcurrent, List.append_nil]
        refine ⟨⟨h.choreo, fun r hr => ?_⟩, h.started, fun v hv => h.runs v (hsub v hv),
          fun v hv => h.current v (hsub v hv)⟩
        cases hr
        exact hshow
      · simp only [Builder.answer, if_neg hcurrent]
        exact h.frame rfl rfl rfl (Nat.le_refl _) hsub
    next => cases hs
  | finish runId =>
    by_cases hmem : runId ∈ s.answered
    · rw [ShowBuilder.step, if_pos hmem] at hs
      cases hs
      by_cases hcurrent : runId = s.latest
      · simp only [Builder.finish, if_pos hcurrent]
        exact h.frame rfl rfl rfl (Nat.le_refl _) fun _ hv => hv
      · simp only [Builder.finish, if_neg hcurrent]
        exact h.frame rfl rfl rfl (Nat.le_refl _) fun _ hv => hv
    · rw [ShowBuilder.step, if_neg hmem] at hs
      cases hs
  | load choreo report =>
    cases hs
    exact h.replaced rfl horder (Nat.le_succ _) rfl
      (Nat.lt_succ_of_lt (Nat.lt_succ_self _)) fun v hv => .inl hv
  | clear =>
    cases hs
    exact h.replaced rfl (fun _ hv => by cases hv) (Nat.le_succ _) rfl (Nat.lt_succ_self _)
      fun v hv => .inl hv
  | setError error =>
    cases hs
    exact h.frame rfl rfl rfl (Nat.le_refl _) fun _ hv => hv

lemma kept_of_inOrder {ls : List (Label Show V)} (horder : Along step InOrder Builder.initial ls)
    (hr : run step Builder.initial ls = some (t, rs)) : t.Kept rs :=
  run_history (I := fun _ rs s => s.Kept rs) Builder.kept_initial
    (fun _ _ _ _ _ _ _ hkept ho hs => hkept.step ho hs) horder hr

lemma inOrder_of_showsNewest {o : List (Result Show)} (hquiet : OvertakenQuiet s l)
    (hs : step s l = some (t, o)) (hshows : t.ShowsNewest rs) : InOrder s l := by
  cases l with
  | resume action outcome => exact overtakenQuiet_resume.mp hquiet
  | load choreo report =>
    cases hs
    exact hshows.report
  | _ => trivial

/-- In every state of a run the editor shows the newest intent and a report only
of the show in it, and builds that were overtaken change nothing, exactly if
every step of the run is in order. -/
theorem showsNewest_iff {ls : List (Label Show V)} {t : Builder Show V}
    {rs : List (Result Show)} (hr : run step Builder.initial ls = some (t, rs)) :
    (Along step OvertakenQuiet Builder.initial ls ∧
      ∀ as, as <+: ls → ∀ m o, run step Builder.initial as = some (m, o) → m.ShowsNewest o) ↔
    Along step InOrder Builder.initial ls := by
  constructor
  · rintro ⟨hquiet, hshows⟩
    induction ls using List.reverseRecOn generalizing t rs with
    | nil => trivial
    | append_singleton ls l ih =>
      obtain ⟨m, o, o', hm, hl, rfl⟩ := run_append.mp hr
      rw [along_snoc hm] at hquiet ⊢
      refine ⟨ih hm hquiet.1 fun as has => hshows as (has.trans (List.prefix_append ls [l])), ?_⟩
      exact inOrder_of_showsNewest hquiet.2 (run_singleton.mp hl) (hshows _ List.prefix_rfl t _ hr)
  · intro horder
    refine ⟨horder.mono fun s l => InOrder.overtakenQuiet, fun as has m o hm => ?_⟩
    obtain ⟨bs, rfl⟩ := has
    exact (kept_of_inOrder horder.take hm).toShowsNewest

/-- Two builds in order, a report of the second and a project loaded over it. -/
def editing : List (Label String String) :=
  [.build false, .resume 1 (.built "circle"), .build false, .resume 2 (.built "star"),
    .answer 2 (.metrics "passed"), .load (some "opened") none]

theorem showsNewest_iff_editing : ∃ t rs, run step Builder.initial editing = some (t, rs) ∧
    t.choreoData = some "opened" ∧ Along step OvertakenQuiet Builder.initial editing ∧
      ∀ as, as <+: editing → ∀ m o, run step Builder.initial as = some (m, o) →
        m.ShowsNewest o := by
  refine ⟨_, _, rfl, rfl, ?_⟩
  exact (showsNewest_iff rfl).mpr (by decide)

/-- Two builds are started, the second is answered first. -/
def overtaken : List (Label String String) :=
  [.build false, .build false, .resume 2 (.built "star"), .resume 1 (.built "circle")]

/-- The build that was overtaken puts its show in place of the newer one. -/
theorem overtaken_shows : ∃ t rs, run step Builder.initial overtaken = some (t, rs) ∧
    t.choreoData = some "circle" ∧ (newest rs).choreo = some "star" ∧ ¬ t.ShowsNewest rs ∧
      ¬ Along step OvertakenQuiet Builder.initial overtaken := by
  refine ⟨_, _, rfl, rfl, rfl, fun hshows => absurd hshows.choreo (by decide), fun hquiet => ?_⟩
  have hlast := (((hquiet.2 _ _ rfl).2 _ _ rfl).2 _ _ rfl).1
  have hsame := congrArg Builder.choreoData (hlast 1 _ rfl (by decide) _ _ rfl)
  exact absurd hsame (by decide)

end Taramandal.Studio.ShowBuilder
