import Taramandal.Studio.Operations

/-! # Where a save lands

A save is carried out when the operations called before it are over, and takes its target
from the vault's state as it is then. While no other content was put in the editor since its
snapshot was taken, that is the project the snapshot is of, on top of the revision the
editor's content is based on; or the save makes a new project. -/
namespace Taramandal.Studio.SaveTarget

open Lib.Dict Lib.Hoare Lib.Run Studio.VaultClient Studio.ProjectVault
open Studio.Projects Studio.VaultRules Studio.Operations

variable {α : Type}

/-! ## What a save asks of the backend -/

/-- A project is made, or the one at `base` is replaced on top of the revision there. -/
def FromBase (base : Option (String × ℕ)) : Event → Prop
  | .created .. => True
  | .replaced id revision .. => base = some (id, revision)
  | _ => False

/-- The vault is in a state with `p`, and everything asked so far is as it should be. -/
def Asked (base : Option (String × ℕ)) (p : Vault → Prop) (w : World) : Prop :=
  p w.vault ∧ ∀ e ∈ w.log, FromBase base e

variable {base : Option (String × ℕ)} {p : Vault → Prop}

variable {w : World} {editor : Content} {t : Tab} {l : Label}

lemma Asked.served (h : Asked base p w) (b : Backend) {events : List Event}
    (hevents : ∀ e ∈ events, FromBase base e) : Asked base p (w.served b events) :=
  ⟨h.1, fun e he => (List.mem_append.mp he).elim (h.2 e) (hevents e)⟩

lemma request_asked {serve : Backend → Except VaultError (α × Backend)}
    {event : α → Bool → List Event} (hevent : ∀ a b, ∀ e ∈ event a b, FromBase base e) :
    Triple (Asked base p) (request serve event) (fun _ => Asked base p) (fun _ => Asked base p) :=
  triple_request (fun _ a b hw _ => hw.served b (hevent a true))
    (fun _ _ hw _ => hw.served _ (by simp)) (fun _ _ hw => hw.served _ (by simp))
    fun _ _ a b hw _ => hw.served b (hevent a false)

lemma connect_asked :
    Triple (Asked base p) connect (fun _ => Asked base p) (fun _ => Asked base p) :=
  (request_asked (by simp)).bind fun _ _ hw => hw

lemma createFrom_asked {versions : List Version} {name : String}
    {id note : Option String} : Triple (Asked base p) (createFrom editor versions name id note)
      (fun _ => Asked base fun _ => True) (fun _ => Asked base fun _ => True) := by
  refine Triple.bind (clock_spec fun w hw => hw) fun now => ?_
  have hasked : Triple (Asked base fun _ => True)
      (Client.create (addVersion ⟨{ editor with name }, versions⟩ editor.doc now "Saved") id)
      (fun _ => Asked base fun _ => True) (fun _ => Asked base fun _ => True) :=
    Triple.get_bind fun w₀ => ((request_asked (by simp [FromBase])).pre (fun _ h => h.2)).bind fun _ _ hw => hw
  refine Triple.bind (hasked.pre (fun _ h => ⟨trivial, h.2⟩))
    fun res => ?_
  exact Triple.bind (Q := fun _ => Asked base fun _ => True) (fun w hw => hw) fun p w hw => hw

lemma saveOver_asked {current : Project} {revision : ℕ}
    (hbase : base = some (current.id, revision)) :
    Triple (Asked base p) (saveOver editor current revision) (fun _ => Asked base fun _ => True)
      (fun _ => Asked base fun _ => True) := by
  refine Triple.bind (clock_spec fun w hw => hw) fun now =>
    Triple.ite (fun _ w hw => ⟨trivial, hw.2⟩) fun _ => ?_
  have hsave : Triple (Asked base p) (Client.save current.id
      (addVersion ⟨editor, current.versions⟩ editor.doc now "Saved") revision)
      (fun _ => Asked base p) (fun _ => Asked base p) :=
    (request_asked (by simp [FromBase, hbase])).bind fun _ _ hw => hw
  refine Triple.bind hsave.attempt fun saved => ?_
  cases saved with
  | ok res => exact fun w hw => ⟨trivial, hw.2⟩
  | error e =>
    cases e with
    | conflict => exact createFrom_asked.bind fun _ _ hw => hw
    | notFound i =>
      refine Triple.bind (setVault_spec (Q := fun _ => Asked base fun _ => True)
        fun w hw => ⟨trivial, hw.2⟩) fun _ => createFrom_asked.bind fun _ _ hw => hw
    | _ => exact fun w hw => ⟨trivial, hw.2⟩

lemma save_asked (editor : Content) :
    Triple (Asked base fun v => v.base = none ∨ v.base = base) (ProjectVault.save editor)
      (fun _ => Asked base fun _ => True) (fun _ => Asked base fun _ => True) := by
  refine Triple.bind (Q := fun _ => Asked base fun v => v.base = none ∨ v.base = base) ?_ fun _ =>
    vault_bind fun v => ?_
  · refine vault_bind fun v => Triple.ite (fun _ w hw => hw.2) fun _ => ?_
    exact Triple.bind (connect_asked.weaken (fun _ h => h.2) (fun _ _ h => h)
      fun _ _ h => ⟨trivial, h.2⟩) fun projects w hw => ⟨.inl rfl, hw.2⟩
  · cases htarget : target v with
    | none =>
      exact (createFrom_asked.pre (fun _ h => h.2)).bind
        fun _ _ hw => hw
    | some t =>
      obtain ⟨-, hbase⟩ := target_eq htarget
      intro w hw
      have heq : base = some (t.1.id, t.2) := by
        rcases hw.2.1 with hnone | hsome
        · rw [hw.1, hbase] at hnone
          cases hnone
        · rw [← hsome, hw.1, hbase]
      exact saveOver_asked heq w hw.2

/-! ## Over a whole run -/

/-- What the vault takes the editor's content to be based on is what was held last. -/
def Based (held : Option (String × Record)) (v : Vault) : Prop :=
  v.activeId = v.base.map Prod.fst ∧
    ∀ b, v.base = some b → ∃ r, held = some (b.1, r) ∧ r.revision = b.2

/-- A snapshot of the content that is in the editor still knows the project it is of. -/
def Current (s : Tab) (snap : Snapshot) : Prop :=
  snap.opened ≤ s.opened ∧ (snap.opened = s.opened → snap.project = s.held.map Prod.fst)

structure Consistent (s : Tab) : Prop where
  based : Based s.held s.vault
  live : Current s s.live
  saves : ∀ snap, Call.save snap ∈ s.queue → Current s snap

variable {held : Option (String × Record)} {s : Tab} {env : Env}

lemma Untold.based {K : World → String → Record → Prop}
    (h : Untold K held False w) : Based (latest w.log <|> held) w.vault := by
  refine ⟨h.active, fun b hb => ?_⟩
  obtain ⟨r, hheld, hr, -⟩ := h.base b hb
  rw [h.told]
  exact ⟨r, hheld, hr⟩

lemma Opened.based {id : String} {r : Record} (h : Opened False id r w) :
    Based (latest w.log <|> held) w.vault := by
  refine ⟨by rw [h.active, h.base]; rfl, fun b hb => ?_⟩
  rw [h.base] at hb
  cases hb
  rw [h.told]
  exact ⟨r, rfl, rfl⟩

/-- Every operation leaves `base` at what it was told last. -/
lemma call_based (call : Call) :
    Triple (Before held False) (call.op env) (fun _ w => Based (latest w.log <|> held) w.vault)
      (fun _ w => Based (latest w.log <|> held) w.vault) := by
  have hshown : ∀ res w, Shown False res w → Based (latest w.log <|> held) w.vault :=
    fun _ _ ⟨_, _, h, _⟩ => Opened.based h
  have hfailed : ∀ (_ : VaultError) w, Failed held False w →
      Based (latest w.log <|> held) w.vault := fun _ _ h => Untold.based h
  have hboth : ∀ res w, Rested held False res w ∨ Shown False res w →
      Based (latest w.log <|> held) w.vault :=
    fun res w h => h.elim (fun h => Untold.based h.2) (hshown res w)
  cases call with
  | «open» snap wanted =>
    refine (openVault_spec snap.content wanted).ends (fun res w h => ?_) hfailed
    rcases h with h | ⟨-, id, r, h, -⟩
    · exact hshown res w h
    · exact Opened.based h
  | retry snap =>
    refine retry_spec.ends (fun res w h => ?_) hfailed
    rcases h.2 with h | ⟨id, r, h⟩
    · exact Untold.based h
    · exact Opened.based h
  | refresh => exact refresh_spec.ends (fun _ _ h => Untold.based h.2) hfailed
  | save snap =>
    refine (vaultSave_spec snap.content).ends (fun res w h => ?_) hfailed
    rcases h.2 with h | ⟨id, r, h, -⟩
    · exact Untold.based h.1
    · exact Opened.based h
  | load id => exact load_spec.ends hshown hfailed
  | create => exact vaultCreate_spec.ends hshown hfailed
  | remove id => exact vaultRemove_spec.ends hboth hfailed
  | restore id versionId snap => exact restore_spec.ends hboth hfailed

lemma runCall_eq (s : Tab) (call : Call) (rest : List Call) (env : Env) :
    ∃ editor lastSaved booted fresh, s.runCall call rest env =
      ({ s with
          vault := (guarded (call.op env) (s.world env)).2.vault
          backend := (guarded (call.op env) (s.world env)).2.backend
          queue := rest
          held := latest (guarded (call.op env) (s.world env)).2.log <|> s.held
          opened := if reopens call (guarded (call.op env) (s.world env)).2.log
            then s.opened + 1 else s.opened
          editor, lastSaved, booted, fresh },
        (guarded (call.op env) (s.world env)).2.log) := by
  unfold Tab.runCall
  generalize guarded (call.op env) (s.world env) = r
  obtain ⟨editor, lastSaved, booted, fresh, heq⟩ := settle_finish
    { s with
      vault := r.2.vault
      backend := r.2.backend
      fresh := r.2.fresh
      queue := rest
      held := latest r.2.log <|> s.held
      opened := if reopens call r.2.log then s.opened + 1 else s.opened } env r.1 call
  exact ⟨editor, lastSaved, booted, fresh, congrArg (·, r.2.log) heq⟩

/-- A save asks for nothing but to replace what is at `base` when its turn comes. -/
lemma save_events (s : Tab) (env : Env) (snap : Snapshot) :
    ∀ e ∈ (guarded (ProjectVault.save snap.content) (s.world env)).2.log,
      FromBase s.vault.base e := by
  have hstart : Asked s.vault.base (fun v => v.base = none ∨ v.base = s.vault.base)
      (s.world env) := ⟨.inr rfl, by simp [Tab.world]⟩
  rcases guarded_spec (save_asked snap.content) hstart with
    ⟨res, w, -, heq, hw⟩ | ⟨e, w, -, heq, hw⟩
  · rw [heq]
    exact hw.2
  · rw [heq]
    exact hw.2

lemma guarded_based (hbased : Based s.held s.vault) (call : Call) :
    Based (latest (guarded (call.op env) (s.world env)).2.log <|> s.held)
      (guarded (call.op env) (s.world env)).2.vault := by
  have hstart : Before s.held False (s.world env) :=
    ⟨rfl, False.elim, hbased.1, fun b hb =>
      have ⟨r, hheld, hr⟩ := hbased.2 b hb
      ⟨r, hheld, hr, False.elim⟩⟩
  rcases guarded_spec (call_based call) hstart with
    ⟨res, w, -, heq, hw⟩ | ⟨e, w, -, heq, hw⟩
  · rw [heq]
    exact hw
  · rw [heq]
    exact hw

/-- A snapshot keeps its project: another content is in the editor, or it is still of the
project that the editor's content is stored in. -/
lemma Current.run {snap : Snapshot} (h : Current s snap) (hbased : Based s.held s.vault)
    (call : Call)
    (hheld : t.held = (latest (guarded (call.op env) (s.world env)).2.log <|> s.held))
    (hopened : t.opened = if reopens call (guarded (call.op env) (s.world env)).2.log
      then s.opened + 1 else s.opened) : Current t snap := by
  by_cases hreopens : reopens call (guarded (call.op env) (s.world env)).2.log
  · rw [if_pos hreopens] at hopened
    have hle := h.1
    exact ⟨by omega, fun heq => by omega⟩
  rw [if_neg hreopens] at hopened
  refine ⟨hopened ▸ h.1, fun heq => ?_⟩
  rw [h.2 (heq.trans hopened), hheld]
  cases htold : latest (guarded (call.op env) (s.world env)).2.log with
  | none => rfl
  | some told =>
    cases call with
    | save snap' =>
      -- what a save was told of without making a project is the one at `base`
      have hevents := save_events s env snap'
      obtain ⟨e, he, hetold⟩ := List.exists_of_findSome?_eq_some htold
      have hfrom := hevents e (List.mem_reverse.mp he)
      cases e with
      | created id r answered =>
        cases answered with
        | true => exact absurd (List.any_eq_true.mpr ⟨_, List.mem_reverse.mp he, rfl⟩) hreopens
        | false => cases hetold
      | replaced id revision r answered =>
        obtain ⟨r', hr', -⟩ := hbased.2 _ hfrom
        cases answered with
        | true =>
          cases hetold
          rw [hr']
          rfl
        | false => cases hetold
      | _ => cases hfrom
    | _ => exact absurd (by simp [reopens, htold]) hreopens

lemma step_consistent {os : List Event} (h : Consistent s)
    (hs : step s l = some (t, os)) : Consistent t := by
  cases l with
  | edit content =>
    cases hs
    exact ⟨h.based, h.live, h.saves⟩
  | effect =>
    cases hs
    exact ⟨h.based, ⟨Nat.le_refl _, fun _ => rfl⟩, h.saves⟩
  | ask a =>
    cases hs
    refine ⟨h.based, h.live, fun snap hsnap => ?_⟩
    rcases List.mem_append.mp hsnap with hsnap | hsnap
    · exact h.saves snap hsnap
    · have hcall : Call.save snap = a.call s.live := List.mem_singleton.mp hsnap
      cases a <;> cases hcall
      exact h.live
  | run env =>
    cases hqueue : s.queue with
    | nil =>
      simp only [step, hqueue] at hs
      cases hs
    | cons call rest =>
      obtain ⟨editor, lastSaved, booted, fresh, heq⟩ := runCall_eq s call rest env
      simp only [step, hqueue, heq] at hs
      cases hs
      refine ⟨guarded_based h.based call, h.live.run h.based call rfl rfl, fun snap hsnap => ?_⟩
      exact (h.saves snap (hqueue ▸ List.mem_cons_of_mem _ hsnap)).run h.based call rfl rfl

lemma consistent_initial (backend : Backend) (fresh : ℕ) (content : Content)
    (wanted : Option String) : Consistent (Tab.initial backend fresh content wanted) where
  based := ⟨rfl, fun _ hb => nomatch hb⟩
  live := ⟨Nat.le_refl _, fun _ => rfl⟩
  saves := fun _ hsnap => nomatch List.mem_singleton.mp hsnap

/-- The step is not a save, or it is one whose snapshot is of the content that is still in the
editor: since it was taken, no operation put a project there or made the editor a new one. -/
def inPlace (s : Tab) (l : Label) : Bool :=
  match s.queue, l with
  | .save snap :: _, .run _ => snap.opened = s.opened
  | _, _ => true

/-- The step is not a save, or all it does is to make projects, and to replace the one its
snapshot is of on top of the revision the editor's content is based on. -/
def LandsHome (s : Tab) (l : Label) : Prop :=
  ∀ snap rest env t os, s.queue = .save snap :: rest → l = .run env → step s l = some (t, os) →
    ∀ e ∈ os, (∃ id r answered, e = .created id r answered) ∨
      ∃ id r₀ r answered, e = .replaced id r₀.revision r answered ∧ s.held = some (id, r₀) ∧
        snap.project = some id

/-- In every run in which every save is in place, every save lands where it belongs. -/
theorem saves_land_home {backend : Backend} {fresh : ℕ} {content : Content}
    {wanted : Option String} {ls : List Label}
    (h : Along step (fun s l => inPlace s l) (Tab.initial backend fresh content wanted) ls) :
    Along step LandsHome (Tab.initial backend fresh content wanted) ls := by
  refine along_of_invariant (fun s l t os hi _ hs => step_consistent hi hs) (fun s l hi hplace => ?_)
    (consistent_initial backend fresh content wanted) h
  intro snap rest env t os hqueue hl hs e he
  subst hl
  have hopened : snap.opened = s.opened := by simpa [inPlace, hqueue] using hplace
  have hproject := (hi.saves snap (hqueue ▸ List.mem_cons_self)).2 hopened
  simp only [step, hqueue, Option.some.injEq] at hs
  obtain ⟨editor, lastSaved, booted, fresh, heq⟩ := runCall_eq s (.save snap) rest env
  rw [heq] at hs
  cases hs
  have hfrom := save_events s env snap e he
  cases e with
  | created id r answered => exact .inl ⟨id, r, answered, rfl⟩
  | replaced id revision r answered =>
    obtain ⟨r₀, hheld, rfl⟩ := hi.based.2 _ hfrom
    exact .inr ⟨id, r₀, r, answered, rfl, hheld, by rw [hproject, hheld]; rfl⟩
  | _ => cases hfrom

/-- The first project is opened and edited, and saved twice. -/
def savedTwice : List Label :=
  [.run calm, .edit (sceneOf 9 "more lamps"), .effect, .ask .save,
    .edit (sceneOf 10 "all the lamps"), .effect, .ask .save, .run calm, .run calm]

theorem saves_land_home_twice :
    Along step LandsHome (Tab.initial twoProjects 20 (sceneOf 1 "blank") none) savedTwice :=
  saves_land_home (by decide +kernel)

/-- A save that replaces another project than the one its snapshot is of. -/
def strays (s : Tab) (l : Label) : Bool :=
  match s.queue, l with
  | .save snap :: rest, .run env => (s.runCall (.save snap) rest env).2.any fun
    | .replaced id .. => snap.project ≠ some id
    | _ => false
  | _, _ => false

lemma LandsHome.not_strays (h : LandsHome s l) : strays s l = false := by
  unfold strays
  split
  next _ snap rest env hqueue =>
    refine List.any_eq_false.mpr fun e he => ?_
    have hs : step s (.run env) = some (s.runCall (.save snap) rest env) := by
      simp only [step, hqueue]
    rcases h snap rest env _ _ hqueue rfl hs e he with
      ⟨id, r, answered, rfl⟩ | ⟨id, r₀, r, answered, rfl, -, hproject⟩
    · exact Bool.false_ne_true
    · simp [hproject]
  next => rfl

/-- The other project is being opened when the first one is saved: the save replaces it. -/
theorem loaded_overwritten : ¬ Along step LandsHome
    (Tab.initial twoProjects 20 (sceneOf 1 "blank") none)
    [.run calm, .effect, .ask (.load "holi"), .ask .save, .run calm, .run calm] := by
  intro h
  have hstrays := h.mono (B := fun s l => strays s l = false) fun s l => LandsHome.not_strays
  revert hstrays
  decide +kernel

end Taramandal.Studio.SaveTarget
