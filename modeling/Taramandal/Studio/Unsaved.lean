import Taramandal.Studio.Operations

/-! # The unsaved-changes indicator

The baseline the indicator compares with is the content that was last stored or put in the
editor, as long as no save and no first open fails: an operation never rejects, so the hook
takes a failed one's snapshot for saved. -/
namespace Taramandal.Studio.Unsaved

open Lib.Dict Lib.Hoare Lib.Run Lib.ScriptValues Studio.VaultClient Studio.ProjectVault
open Studio.Projects Studio.VaultRules Studio.Operations

def alone (_ : Tab) : Label → Bool
  | .run env => env.slots.all fun slot => slot.others.isEmpty
  | _ => true

/-- The call takes its snapshot to be stored when it is over. -/
def storesSnapshot : Call → Option Snapshot
  | .open snap _ | .save snap => some snap
  | _ => none

def isRetry : Call → Bool
  | .retry _ => true
  | _ => false

instance (v : Json) : Decidable (Conforms v) := inferInstanceAs (Decidable (_ ∨ _))

/-- What must not happen: a save or the first open fails, or carries a show that the store
turns down; a retry stores the editor, the vault being empty; another operation fails after
the backend has changed the open project. -/
def careful (s : Tab) (l : Label) : Bool :=
  match s.queue, l with
  | call :: _, .run env =>
    match outcome (call.op env) (s.world env) with
    | (.ok _, w) =>
      ((storesSnapshot call).all fun snap => Conforms snap.content.choreoData.json) &&
        !(isRetry call && (latest w.log).isSome)
    | (.error _, w) =>
      (storesSnapshot call).isNone &&
        s.vault.base.all fun b => find w.backend b.1 = find s.backend b.1
  | _, _ => true

/-- While nothing is pending and nothing is said to be unsaved, the editor's content is what
was last stored or read, and the backend has it if a project is open. -/
def CleanIsStored (s : Tab) : Prop :=
  s.queue = [] → s.isDirty = false → ∃ id r, s.held = some (id, r) ∧ Holds r s.editor ∧
    ∀ a, s.vault.activeId = some a → a = id ∧ find s.backend id = some r

/-! ## What is kept -/

def NoOpen (queue : List Call) : Prop := ∀ snap wanted, Call.open snap wanted ∉ queue

def Booting (s : Tab) : Prop :=
  s.booted = true ∧ NoOpen s.queue ∨
  ∃ snap wanted rest, s.queue = .open snap wanted :: rest ∧
    snap.content.name = defaultProjectName ∧ NoOpen rest

structure Baseline (s : Tab) : Prop where
  vault : ∀ env, Alone (s.world env) → Before s.held True (s.world env)
  saved : s.booted = true → ∃ id r c, s.held = some (id, r) ∧ s.lastSaved = some c ∧ Holds r c

variable {r : Record} {e : VaultError} {res : Result} {base : Tab}

variable {p : Project} {t : Tab} {snap : Snapshot}

lemma normalized_holds (h : Mirrors r p) (fresh : ℕ)
    (sceneId : String) : Holds r (normalized fresh sceneId p.content) where
  name := .inr h.name.symm
  doc := by
    refine .inr (.inr ⟨sceneId, ?_⟩)
    rw [← h.doc]
    simp only [normalized, Doc.map, settledDoc, Val.orElse_json, Val.parse_json, Doc.mk.injEq]
    exact ⟨apply_ite Val.json .., trivial, trivial, trivial, apply_ite Val.json ..,
      apply_ite Val.json .., trivial⟩
  showData := h.showData
  validation := h.validation.symm

variable {held : Option (String × Record)} {w : World} {s : Tab} {env : Env}

lemma before_of_opened {id : String} (h : Opened True id r w) {s : Tab}
    (hvault : s.vault = w.vault) (hbackend : s.backend = w.backend) (env : Env)
    (halone : Alone (s.world env)) : Before (some (id, r)) True (s.world env) := by
  refine ⟨rfl, fun _ => halone, ?_, fun b hb => ?_⟩
  · rw [Tab.world, hvault, h.active, h.base]
    rfl
  · rw [Tab.world, hvault, h.base] at hb
    cases hb
    refine ⟨r, rfl, rfl, fun _ => ⟨?_, ?_⟩⟩
    · rw [Tab.world, hbackend]
      exact (h.kept trivial).1
    · rw [Tab.world, hvault]
      exact (h.kept trivial).2

lemma before_of_before (h : Before held True w) {s : Tab} (hvault : s.vault = w.vault)
    (hbackend : s.backend = w.backend) (env : Env) (halone : Alone (s.world env)) :
    Before held True (s.world env) := by
  refine ⟨rfl, fun _ => halone, by rw [Tab.world, hvault]; exact h.active, fun b hb => ?_⟩
  rw [Tab.world, hvault] at hb
  obtain ⟨r, hheld, hr, hkept⟩ := h.base b hb
  refine ⟨r, hheld, hr, fun _ => ⟨?_, ?_⟩⟩
  · rw [Tab.world, hbackend]
    exact (hkept trivial).1
  · rw [Tab.world, hvault]
    exact (hkept trivial).2

/-- After a failure that left the open project's record as it was, the list has it too. -/
lemma before_of_failed (h : Failed held True w)
    (hs : ∀ b, w.vault.base = some b → find w.backend b.1 ≠ none ∧
      ∀ r, held = some (b.1, r) → find w.backend b.1 = some r) {s : Tab}
    (hvault : s.vault = failedWith e w.vault) (hbackend : s.backend = w.backend) (env : Env)
    (halone : Alone (s.world env)) : Before held True (s.world env) := by
  refine ⟨rfl, fun _ => halone, by rw [Tab.world, hvault]; exact h.active, fun b hb => ?_⟩
  rw [Tab.world, hvault] at hb
  obtain ⟨r, hheld, hr, hleft⟩ := h.base b hb
  obtain ⟨hsome, hrecord⟩ := hs b hb
  refine ⟨r, hheld, hr, fun _ => ⟨?_, ?_⟩⟩
  · rw [Tab.world, hbackend]
    exact hrecord r hheld
  · rw [Tab.world, hvault]
    exact (hleft trivial).resolve_right hsome

lemma runCall_of_guarded (call : Call) {rest : List Call}
    (h : guarded (call.op env) (s.world env) = (res, w)) : (s.runCall call rest env).1 =
      (({ s with
          vault := w.vault
          backend := w.backend
          fresh := w.fresh
          queue := rest
          held := latest w.log <|> s.held
          opened := if reopens call w.log then s.opened + 1 else s.opened } : Tab).settle env
            res).finish res call := by
  rw [Tab.runCall, h]

/-- Of a tab that has finished a call: the vault and the backend are as the call left them. -/
lemma Baseline.of_settled {call : Call}
    (hvault : ∀ t : Tab, t.vault = base.vault → t.backend = base.backend → ∀ env,
      Alone (t.world env) → Before base.held True (t.world env))
    (hsaved : ((base.settle env res).finish res call).booted = true → ∃ id r c,
      base.held = some (id, r) ∧ ((base.settle env res).finish res call).lastSaved = some c ∧
        Holds r c) : Baseline ((base.settle env res).finish res call) := by
  obtain ⟨editor, lastSaved, booted, fresh, heq⟩ := settle_finish base env res call
  rw [heq] at hsaved ⊢
  exact ⟨hvault _ rfl rfl, hsaved⟩

lemma settle_opened (s : Tab) (env : Env) (p : Project) : s.settle env (opened p) =
    { s with
      editor := normalized s.fresh env.sceneId p.content
      lastSaved := some (normalized s.fresh env.sceneId p.content)
      fresh := s.fresh + 1 } := rfl

lemma baseline_shown {call : Call} {id : String}
    (hcall : ∀ snap, call ≠ .save snap) (hopened : Opened True id r w) (hp : Mirrors r p)
    (hvault : base.vault = w.vault) (hbackend : base.backend = w.backend)
    (hheld : base.held = some (id, r)) :
    Baseline ((base.settle env (opened p)).finish (opened p) call) := by
  refine Baseline.of_settled (fun t ht ht' env' halone => ?_) fun _ =>
    ⟨id, r, normalized base.fresh env.sceneId p.content, hheld, ?_, normalized_holds hp _ _⟩
  · rw [hheld]
    exact before_of_opened hopened (ht.trans hvault) (ht'.trans hbackend) env' halone
  · rw [settle_opened]
    cases call with
    | save snap => exact absurd rfl (hcall snap)
    | _ => rfl

/-- A call that was told nothing, and whose snapshot is not taken for saved, leaves the
baseline. -/
lemma baseline_rested {call : Call} (hcall : storesSnapshot call = none)
    (h : Baseline s) (hvault : ∀ t : Tab, t.vault = base.vault → t.backend = base.backend →
      ∀ env, Alone (t.world env) → Before base.held True (t.world env))
    (hheld : base.held = s.held) (hsaved : base.lastSaved = s.lastSaved)
    (hbooted : base.booted = s.booted) :
    Baseline ((base.settle env nothing).finish nothing call) := by
  have hsame : (base.settle env nothing).finish nothing call = base := by
    cases call <;> first | rfl | cases hcall
  refine Baseline.of_settled hvault fun hb => ?_
  rw [hsame] at hb ⊢
  rw [hheld, hsaved]
  exact h.saved (hbooted ▸ hb)

variable {call : Call} {rest : List Call}

lemma Baseline.start (h : Baseline s) (halone : alone s (.run env) = true) :
    Alone (s.world env) ∧ Before s.held True (s.world env) := by
  have hslots : Alone (s.world env) := by
    intro slot hslot
    exact List.isEmpty_iff.mp (List.all_eq_true.mp halone slot hslot)
  exact ⟨hslots, h.vault env hslots⟩

/-- What `careful` says of a call that is carried out. -/
lemma careful_ok (hqueue : s.queue = call :: rest) (hcareful : careful s (.run env) = true)
    (houtcome : outcome (call.op env) (s.world env) = (.ok res, w)) :
    (∀ snap, storesSnapshot call = some snap → Conforms snap.content.choreoData.json) ∧
      (isRetry call = true → latest w.log = none) := by
  simp only [careful, hqueue, houtcome, Bool.and_eq_true] at hcareful
  obtain ⟨hshow, hretry⟩ := hcareful
  refine ⟨fun snap hsnap => ?_, fun hcall => ?_⟩
  · simpa [hsnap] using hshow
  · simpa [hcall] using hretry

lemma careful_error (hqueue : s.queue = call :: rest) (hcareful : careful s (.run env) = true)
    (houtcome : outcome (call.op env) (s.world env) = (.error e, w)) :
    storesSnapshot call = none ∧
      ∀ b, s.vault.base = some b → find w.backend b.1 = find s.backend b.1 := by
  simp only [careful, hqueue, houtcome, Bool.and_eq_true, Option.isNone_iff_eq_none] at hcareful
  refine ⟨hcareful.1, fun b hb => ?_⟩
  have hall := hcareful.2
  rw [hb] at hall
  simpa using hall

/-- The open project is the same after a failure, and the backend and the list have it. -/
lemma failed_before (h : Baseline s) (halone : alone s (.run env) = true)
    (hrecord : ∀ b, s.vault.base = some b → find w.backend b.1 = find s.backend b.1)
    (hfailed : ∀ held, Before held True (s.world env) → Failed held True w)
    (hvault : t.vault = failedWith e w.vault) (hbackend : t.backend = w.backend) (env' : Env)
    (halone' : Alone (t.world env')) : Before s.held True (t.world env') := by
  obtain ⟨-, hstart⟩ := h.start halone
  cases hbase : s.vault.base with
  | none =>
    have hnone : Before none True (s.world env) :=
      ⟨rfl, hstart.alone, hstart.active, fun b hb => by
        rw [Tab.world, hbase] at hb
        cases hb⟩
    have hclosed : w.vault.base = none := by
      cases hw : w.vault.base with
      | none => rfl
      | some b =>
        obtain ⟨r, hheld, -⟩ := (hfailed none hnone).base b hw
        cases hheld
    refine before_of_failed (hfailed s.held hstart) (fun b hb => ?_) hvault hbackend env' halone'
    rw [hclosed] at hb
    cases hb
  | some b₀ =>
    obtain ⟨r₀, hheld₀, -, hkept⟩ := hstart.base b₀ hbase
    refine before_of_failed (hfailed s.held hstart) (fun b hb => ?_) hvault hbackend env' halone'
    obtain ⟨r, hheld, -⟩ := (hfailed s.held hstart).base b hb
    have hid : b.1 = b₀.1 := (Prod.mk.inj (Option.some.inj (hheld.symm.trans hheld₀))).1
    have hfind : find w.backend b.1 = some r₀ := by
      rw [hid, hrecord b₀ hbase]
      exact (hkept trivial).1
    refine ⟨by rw [hfind]; exact Option.some_ne_none r₀, fun r hr => ?_⟩
    rw [hfind, (Prod.mk.inj (Option.some.inj (hheld₀.symm.trans hr))).2]

section

variable (h : Baseline s) (hqueue : s.queue = call :: rest) (halone : alone s (.run env) = true)
  (hcareful : careful s (.run env) = true)
include h hqueue halone hcareful

lemma baseline_failed (houtcome : outcome (call.op env) (s.world env) = (.error e, w))
    (hguarded : guarded (call.op env) (s.world env) =
      (nothing, { w with vault := failedWith e w.vault }))
    (hfailed : ∀ held, Before held True (s.world env) → Failed held True w) :
    Baseline (s.runCall call rest env).1 := by
  obtain ⟨hcall, hrecord⟩ := careful_error hqueue hcareful houtcome
  have htold : latest w.log = none := (hfailed s.held (h.start halone).2).told
  rw [runCall_of_guarded call hguarded]
  refine baseline_rested hcall h (fun t ht ht' env' halone' => ?_) ?_ rfl rfl
  · simp only [htold]
    exact failed_before h halone hrecord hfailed ht ht' env' halone'
  · simp only [htold]
    rfl

lemma baseline_call (hcall : storesSnapshot call = none)
    (hspec : ∀ held, Triple (Before held True) (call.op env)
      (fun res w => (res = nothing ∧ (Before held True w ∨
        isRetry call = true ∧ latest w.log ≠ none)) ∨ Shown True res w)
      (fun _ => Failed held True)) : Baseline (s.runCall call rest env).1 := by
  rcases guarded_spec (hspec s.held) (h.start halone).2 with
    ⟨res, w, houtcome, hguarded, hw⟩ | ⟨e, w, houtcome, hguarded, -⟩
  · obtain ⟨-, hretry⟩ := careful_ok hqueue hcareful houtcome
    rw [runCall_of_guarded call hguarded]
    rcases hw with ⟨rfl, hw⟩ | ⟨id, r, hopened, p, rfl, hp⟩
    · have hbefore : Before s.held True w := hw.elim id fun hr => absurd (hretry hr.1) hr.2
      refine baseline_rested hcall h (fun t ht ht' env' halone' => ?_) ?_ rfl rfl
      · simp only [hbefore.told]
        exact before_of_before hbefore ht ht' env' halone'
      · simp only [hbefore.told]
        rfl
    · refine baseline_shown (fun snap hsnap => ?_) hopened hp rfl rfl ?_
      · rw [hsnap] at hcall
        cases hcall
      · simp only [hopened.told]
        rfl
  · exact baseline_failed h hqueue halone hcareful houtcome hguarded fun held hb =>
      (hspec held).error hb houtcome

end

lemma baseline_save (h : Baseline s) (hqueue : s.queue = .save snap :: rest)
    (halone : alone s (.run env) = true) (hcareful : careful s (.run env) = true) :
    Baseline (s.runCall (.save snap) rest env).1 := by
  obtain ⟨-, hstart⟩ := h.start halone
  rcases guarded_spec (vaultSave_spec snap.content) hstart with
    ⟨res, w, houtcome, hguarded, heditor, hw⟩ | ⟨e, w, houtcome, hguarded, -⟩
  · obtain ⟨hconforms, -⟩ := careful_ok hqueue hcareful houtcome
    rw [runCall_of_guarded (.save snap) hguarded]
    rcases hw with ⟨hbefore, hname, hholds⟩ | ⟨id, r, hopened, hholds⟩
    · obtain ⟨id, r, hheld, hr⟩ := hholds trivial
      refine Baseline.of_settled (fun t ht ht' env' halone' => ?_) fun _ =>
        ⟨id, r, snap.content, ?_, ?_, hr⟩
      · simp only [hbefore.told]
        exact before_of_before hbefore ht ht' env' halone'
      · simp only [hbefore.told]
        exact hheld
      · simp only [Tab.finish, Result.nameOr, hname]
    · refine Baseline.of_settled (fun t ht ht' env' halone' => ?_) fun _ =>
        ⟨id, r, _, ?_, rfl, hholds (hconforms snap rfl)⟩
      · simp only [hopened.told]
        exact before_of_opened hopened ht ht' env' halone'
      · simp only [hopened.told]
        rfl
  · obtain ⟨hnone, -⟩ := careful_error hqueue hcareful houtcome
    cases hnone

lemma baseline_open {wanted : Option String} (h : Baseline s)
    (hqueue : s.queue = .open snap wanted :: rest) (hname : snap.content.name = defaultProjectName)
    (halone : alone s (.run env) = true) (hcareful : careful s (.run env) = true) :
    Baseline (s.runCall (.open snap wanted) rest env).1 := by
  obtain ⟨-, hstart⟩ := h.start halone
  rcases guarded_spec (openVault_spec snap.content wanted) hstart with
    ⟨res, w, houtcome, hguarded, hw⟩ | ⟨e, w, houtcome, hguarded, -⟩
  · obtain ⟨hconforms, -⟩ := careful_ok hqueue hcareful houtcome
    rw [runCall_of_guarded (.open snap wanted) hguarded]
    rcases hw with ⟨id, r, hopened, p, rfl, hp⟩ | ⟨rfl, id, r, hopened, hsent⟩
    · refine baseline_shown (fun snap' hsnap => nomatch hsnap) hopened hp rfl rfl ?_
      simp only [hopened.told]
      rfl
    · refine Baseline.of_settled (fun t ht ht' env' halone' => ?_) fun _ =>
        ⟨id, r, snap.content, ?_, rfl, ?_⟩
      · simp only [hopened.told]
        exact before_of_opened hopened ht ht' env' halone'
      · simp only [hopened.told]
        rfl
      · exact hsent.holds (hconforms snap rfl) (.inl (hsent.name.trans (hname ▸ rfl))) rfl rfl rfl
  · obtain ⟨hnone, -⟩ := careful_error hqueue hcareful houtcome
    cases hnone

/-- Every call that is carried out leaves the baseline what was last stored or read. -/
lemma baseline_run (h : Baseline s) (hqueue : s.queue = call :: rest)
    (hopen : ∀ snap wanted, call = .open snap wanted → snap.content.name = defaultProjectName)
    (halone : alone s (.run env) = true) (hcareful : careful s (.run env) = true) :
    Baseline (s.runCall call rest env).1 := by
  have hcase := fun hcall => baseline_call h hqueue halone hcareful hcall
  have hrested : ∀ held res w, Rested held True res w → (res = nothing ∧ (Before held True w ∨
      isRetry call = true ∧ latest w.log ≠ none)) ∨ Shown True res w :=
    fun held res w hw => .inl ⟨hw.1, .inl hw.2⟩
  cases call with
  | «open» snap wanted => exact baseline_open h hqueue (hopen snap wanted rfl) halone hcareful
  | save snap => exact baseline_save h hqueue halone hcareful
  | retry snap =>
    refine hcase rfl fun held => retry_spec.post (fun res w hw => ?_)
    refine .inl ⟨hw.1, hw.2.imp_right fun ⟨id, r, hopened⟩ => ⟨rfl, ?_⟩⟩
    rw [hopened.told]
    exact Option.some_ne_none _
  | refresh =>
    exact hcase rfl fun held => refresh_spec.post (hrested held)
  | load id =>
    exact hcase rfl fun held => load_spec.post (fun _ _ h => .inr h)
  | create =>
    exact hcase rfl fun held => vaultCreate_spec.post (fun _ _ h => .inr h)
  | remove id =>
    exact hcase rfl fun held => vaultRemove_spec.post (fun res w h => h.elim (hrested held res w) .inr)
  | restore id versionId snap =>
    exact hcase rfl fun held => restore_spec.post (fun res w h => h.elim (hrested held res w) .inr)

/-- The state of a run in which nobody else is there and no save fails. -/
structure Sound (s : Tab) : Prop where
  booting : Booting s
  baseline : Baseline s

lemma run_booted (s : Tab) (call : Call) (rest : List Call) (env : Env) :
    (s.runCall call rest env).1.queue = rest ∧
      (s.booted = true ∨ (∃ snap wanted, call = .open snap wanted) →
        (s.runCall call rest env).1.booted = true) := by
  unfold Tab.runCall
  generalize guarded (call.op env) (s.world env) = r
  have hsettle : ∀ (base : Tab) (res : Result),
      (base.settle env res).queue = base.queue ∧ (base.settle env res).booted = base.booted := by
    intro base res
    unfold Tab.settle
    split
    · exact ⟨rfl, rfl⟩
    · split
      · exact ⟨rfl, rfl⟩
      · exact ⟨rfl, rfl⟩
    · exact ⟨rfl, rfl⟩
  cases call with
  | «open» snap wanted => exact ⟨(hsettle _ _).1, fun _ => rfl⟩
  | _ =>
    refine ⟨(hsettle _ _).1, fun h => (hsettle _ _).2.trans (h.resolve_right ?_)⟩
    rintro ⟨snap, wanted, hcall⟩
    cases hcall

lemma Ask.noOpen {queue : List Call} (h : NoOpen queue) (a : Ask) (snap : Snapshot) :
    NoOpen (queue ++ [a.call snap]) := by
  intro snap' wanted hmem
  rcases List.mem_append.mp hmem with hmem | hmem
  · exact h snap' wanted hmem
  · have hcall := List.mem_singleton.mp hmem
    cases a <;> cases hcall

lemma step_sound {l : Label} {os : List Event} (h : Sound s)
    (hl : alone s l = true ∧ careful s l = true) (hs : step s l = some (t, os)) : Sound t := by
  obtain ⟨hboot, hbase⟩ := h
  cases l with
  | edit content =>
    cases hs
    exact ⟨hboot, hbase.vault, hbase.saved⟩
  | effect =>
    cases hs
    exact ⟨hboot, hbase.vault, hbase.saved⟩
  | ask a =>
    cases hs
    refine ⟨?_, hbase.vault, hbase.saved⟩
    rcases hboot with ⟨hbooted, hno⟩ | ⟨snap, wanted, rest, hqueue, hname, hno⟩
    · exact .inl ⟨hbooted, Ask.noOpen hno a s.live⟩
    · refine .inr ⟨snap, wanted, rest ++ [a.call s.live], ?_, hname, Ask.noOpen hno a s.live⟩
      simp only [hqueue, List.cons_append]
  | run env =>
    cases hqueue : s.queue with
    | nil =>
      simp only [step, hqueue] at hs
      cases hs
    | cons call rest =>
      simp only [step, hqueue, Option.some.injEq] at hs
      obtain rfl : (s.runCall call rest env).1 = t := by rw [hs]
      obtain ⟨hrest, hbooted⟩ := run_booted s call rest env
      rcases hboot with ⟨hb, hno⟩ | ⟨snap, wanted, rest', hqueue', hname, hno⟩
      · rw [hqueue] at hno
        refine ⟨.inl ⟨hbooted (.inl hb), ?_⟩, baseline_run hbase hqueue ?_ hl.1 hl.2⟩
        · rw [hrest]
          exact fun snap wanted hmem => hno snap wanted (List.mem_cons_of_mem _ hmem)
        · rintro snap wanted rfl
          exact absurd List.mem_cons_self (hno snap wanted)
      · obtain ⟨rfl, rfl⟩ := List.cons.inj (hqueue.symm.trans hqueue')
        refine ⟨.inl ⟨hbooted (.inr ⟨snap, wanted, rfl⟩), by rw [hrest]; exact hno⟩,
          baseline_run hbase hqueue ?_ hl.1 hl.2⟩
        rintro snap' wanted' heq
        cases heq
        exact hname

lemma sound_initial (backend : Backend) (fresh : ℕ) (content : Content) (wanted : Option String) :
    Sound (Tab.initial backend fresh content wanted) where
  booting := .inr ⟨_, wanted, [], rfl, rfl, fun _ _ hmem => nomatch hmem⟩
  baseline :=
    { vault := fun _ halone => ⟨rfl, fun _ => halone, rfl, fun _ hb => nomatch hb⟩
      saved := fun hb => nomatch hb }

lemma editor_of_clean {c : Content} (hsaved : s.lastSaved = some c) (hbooted : s.booted = true)
    (hclean : s.isDirty = false) : s.editor = c := by
  simp only [Tab.isDirty, hsaved, hbooted, Bool.true_and, Bool.or_eq_false_iff,
    decide_eq_false_iff_not, ne_eq, not_not] at hclean
  obtain ⟨⟨⟨hname, hdoc⟩, hshow⟩, hvalidation⟩ := hclean
  exact Content.ext hname hdoc hshow hvalidation

/-- In every run without other clients in which no save and no first open fails, and no other
operation that fails changes the open project, the indicator is sound. -/
theorem clean_is_stored {backend : Backend} {fresh : ℕ} {content : Content}
    {wanted : Option String} {ls : List Label} {t : Tab} {os : List Event}
    (halone : Along step (fun s l => alone s l) (Tab.initial backend fresh content wanted) ls)
    (hcareful : Along step (fun s l => careful s l) (Tab.initial backend fresh content wanted) ls)
    (hr : run step (Tab.initial backend fresh content wanted) ls = some (t, os)) :
    CleanIsStored t := by
  have hsound : Sound t := run_invariant (fun s l m o hi hl hs => step_sound hi hl hs)
    (sound_initial backend fresh content wanted) (halone.and hcareful) hr
  intro hqueue hclean
  have hbooted : t.booted = true := by
    rcases hsound.booting with h | ⟨snap, wanted, rest, hcons, -⟩
    · exact h.1
    · rw [hqueue] at hcons
      cases hcons
  obtain ⟨id, r, c, hheld, hsaved, hholds⟩ := hsound.baseline.saved hbooted
  obtain rfl := editor_of_clean hsaved hbooted hclean
  refine ⟨id, r, hheld, hholds, fun a ha => ?_⟩
  -- what an operation would find if it ran now
  have hnow := hsound.baseline.vault ⟨[], [], "", ""⟩ (fun _ hmem => nomatch hmem)
  rw [show t.vault.activeId = _ from hnow.active] at ha
  obtain ⟨b, hb, rfl⟩ := Option.map_eq_some_iff.mp ha
  obtain ⟨r', hheld', -, hkept⟩ := hnow.base b hb
  rw [hheld] at hheld'
  cases hheld'
  exact ⟨rfl, (hkept trivial).1⟩

def checked : Content :=
  { sceneOf 9 "more lamps" with validation := ⟨9, .obj [("status", .str "PASSED")]⟩ }

/-- The project is edited and saved, and another one cannot be loaded. -/
def savedThenLost : List Label :=
  [.run calm, .edit checked, .effect, .ask .save, .ask (.load "holi"), .run calm,
    .run { calm with slots := [⟨[], some ⟨.unreachable, false⟩⟩] }]

theorem clean_is_stored_saved : ∃ t os, run step (Tab.initial twoProjects 20 checked none)
    savedThenLost = some (t, os) ∧ t.isDirty = false ∧ CleanIsStored t := by
  have hdirty : (run step (Tab.initial twoProjects 20 checked none) savedThenLost).map
      (fun r => r.1.isDirty) = some false := by decide +kernel
  obtain ⟨⟨t, os⟩, hr, hclean⟩ := Option.map_eq_some_iff.mp hdirty
  exact ⟨t, os, hr, hclean, clean_is_stored (by decide +kernel) (by decide +kernel) hr⟩

def saveLost : List Label :=
  [.run calm, .edit checked, .effect, .ask .save,
    .run { calm with slots := [⟨[], some ⟨.unreachable, false⟩⟩] }]

/-- The save failed, and nothing is said to be unsaved. -/
theorem lost_save_clean : ∃ t os, run step (Tab.initial twoProjects 20 (sceneOf 1 "blank") none)
    saveLost = some (t, os) ∧ Along step (fun s l => alone s l)
      (Tab.initial twoProjects 20 (sceneOf 1 "blank") none) saveLost ∧ ¬ CleanIsStored t := by
  have hend : (run step (Tab.initial twoProjects 20 (sceneOf 1 "blank") none) saveLost).map
      (fun r => (r.1.queue.isEmpty, r.1.isDirty, r.1.held.map fun h => h.2.validation,
        r.1.editor.validation.json)) =
      some (true, false, some .null, .obj [("status", .str "PASSED")]) := by decide +kernel
  obtain ⟨⟨t, os⟩, hr, heq⟩ := Option.map_eq_some_iff.mp hend
  refine ⟨t, os, hr, by decide +kernel, fun h => ?_⟩
  simp only [Prod.mk.injEq, List.isEmpty_iff] at heq
  obtain ⟨hqueue, hclean, hheld, heditor⟩ := heq
  obtain ⟨id, r, hr', hholds, -⟩ := h hqueue hclean
  have hvalidation := hholds.validation
  rw [hr', Option.map_some, Option.some.injEq] at hheld
  rw [heditor, hheld] at hvalidation
  cases hvalidation

end Taramandal.Studio.Unsaved
