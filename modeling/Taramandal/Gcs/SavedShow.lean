import Taramandal.Gcs.ShowRecord
import Taramandal.Gcs.Shutdown

/-! # The saved show over a shutdown (`_write_state_snapshot`, `shutdown`)

`shutdown` writes one last snapshot if a trajectory is loaded and a show was ever
started. Neither says that the show is still playing: nothing clears
`show_started_at` when a show completes or is stopped. -/
namespace Taramandal.Gcs.SavedShow

open Lib.Run Gcs.State Gcs.Playback Gcs.Handlers Gcs.Fleet Gcs.ShowRecord
open Gcs.Handover Gcs.Shutdown

/-- The station as it starts: the saved show, if there is one, waits to be
resumed or discarded, and no show has been started. -/
structure StartUp (m : DroneManager) : Prop where
  pending : m.pendingResumeState = m.playback.savedShow
  startedAt : m.playback.showStartedAt = none
  tasks : m.playback.tasks = []
  idle : m.fsm.state ≠ .running

section

variable (m : DroneManager)

/-- A show is being played: the manager's task is alive, nobody has cancelled it,
and its loop goes on. -/
def Playing : Prop :=
  m.playback.isRunningTrajectory = true ∧ ∃ i ∈ m.playback.trajectoryTask,
    ∃ t ∈ m.playback.tasks[i]?, t.pc ≠ .finished ∧ t.cancelRequested = false

def OnDisk : Prop := m.playback.savedShow.isSome = true

def Pending : Prop := m.pendingResumeState.isSome = true

/-- A snapshot of the show that was started can be written. -/
def Writable (faults : Faults) : Prop :=
  (loadedShow m).isSome = true ∧ faults.snapshotWrite = false

end

def NoStart (setup : Setup) (s : Closing) : ClosingLabel → Prop
  | .station l => startsShow setup s.station l = false
  | _ => True

/-- Where the record of the show stays true. Before any show was started the
saved one is not taken from disk behind the back of the pending one, and goes
with it; shutdown finds a show that was started still playing, if a snapshot can
be written or is there, and over, if not; and from then on nothing stops, starts
or discards a show over the file. -/
def RecordKept (setup : Setup) (s : Closing) : ClosingLabel → Prop
  | .station l =>
    if s.pc = .serving then
      s.station.playback.showStartedAt = none → Pending s.station →
        (∀ r ∈ stops setup s.station l, r ≠ .removed) ∧ ∀ r ∈ discards l, r = .removed
    else
      startsShow setup s.station l = false ∧ (OnDisk s.station →
        (∀ r ∈ stops setup s.station l, r ≠ .removed) ∧ ∀ r ∈ discards l, r ≠ .removed)
  | .shutdown faults _ =>
    s.station.playback.showStartedAt.isSome = true →
      (Writable s.station faults ∨ OnDisk s.station ↔ Playing s.station)
  | _ => True

/-! ## Before the shutdown -/

/-- No show has been started: the file is there exactly while its show waits. -/
structure Waiting (m : DroneManager) : Prop where
  startedAt : m.playback.showStartedAt = none
  tasks : m.playback.tasks = []
  idle : m.fsm.state ≠ .running
  file : OnDisk m ↔ Pending m

variable {m : DroneManager}

lemma StartUp.waiting (h : StartUp m) : Waiting m :=
  ⟨h.startedAt, h.tasks, h.idle, by rw [OnDisk, Pending, h.pending]⟩

variable {saved : Option SavedShow}

lemma discarded_removed : (discardShowState .removed saved).1 = none := rfl

variable {removal : Removal} {m' : DroneManager} {l : Label} {s' : Closing} {there : Prop}

lemma discarded_kept (h : removal ≠ .removed) : (discardShowState removal saved).1 = saved := by
  cases removal <;> first | rfl | exact absurd rfl h

lemma discarded_none (removal : Removal) : (discardShowState removal none).1 = none := by
  cases removal <;> rfl

lemma discarded_isSome (h : saved.isSome = true → removal ≠ .removed) :
    (discardShowState removal saved).1.isSome = saved.isSome := by
  cases saved with
  | none => rw [discarded_none]
  | some s => rw [discarded_kept (h rfl)]

variable {setup : Setup}

/-- A step before any show was started either starts one, or leaves the file and
the pending show together. -/
lemma Waiting.step (h : Waiting m)
    (hkeep : Pending m → (∀ r ∈ stops setup m l, r ≠ .removed) ∧ ∀ r ∈ discards l, r = .removed)
    (hs : RecordStep setup m l m') :
    startsShow setup m l = true ∧ m'.playback.showStartedAt.isSome = true ∨
      startsShow setup m l = false ∧ Waiting m' := by
  have hfile := h.file
  cases hs with
  | kept hnot hp hb =>
    refine .inr ⟨hnot, by rw [hp]; exact h.startedAt, by rw [hp]; exact h.tasks,
      fun hrun => h.idle (hb.running hrun), ?_⟩
    rw [OnDisk, Pending, hp, hb.pending]
    exact hfile
  | @stopped _ _ r hnot hstops hp hb =>
    refine .inr ⟨hnot, by rw [hp]; exact h.startedAt, ?_, fun hrun => h.idle (hb.running hrun), ?_⟩
    · rw [hp, ← List.length_eq_zero_iff]
      simp only [stopPlayback]
      split <;> simp [h.tasks]
    · have hsame : (discardShowState r m.playback.savedShow).1.isSome = m.playback.savedShow.isSome :=
        discarded_isSome fun hdisk => (hkeep (hfile.mp hdisk)).1 r hstops
      rw [OnDisk, Pending, hp, hb.pending]
      exact (Bool.eq_iff_iff.mp hsame).trans hfile
  | started hyes _ _ hp => exact .inl ⟨hyes, by rw [hp]; rfl⟩
  | @discarded _ _ r _ hdiscards hp hpending _ _ hfsm =>
    have hnot : startsShow setup m l = false := by
      cases l with
      | api o q f => cases q <;> first | rfl | cases hdiscards
      | _ => cases hdiscards
    refine .inr ⟨hnot, by rw [hp]; exact h.startedAt, by rw [hp]; exact h.tasks,
      by rw [hfsm]; exact h.idle, ?_⟩
    have hgone : (discardShowState r m.playback.savedShow).1 = none := by
      cases hsaved : m.playback.savedShow with
      | none => exact discarded_none r
      | some saved =>
        have hr := (hkeep (hfile.mp (by rw [OnDisk, hsaved]; rfl))).2 r hdiscards
        rw [hr]
        exact discarded_removed
    rw [OnDisk, Pending, hp, hpending, hgone]
  | snapshot _ hstarted => rw [h.startedAt] at hstarted; cases hstarted
  | task hstep =>
    obtain ⟨_, ht, -⟩ := stepTask_stepped hstep
    rw [h.tasks] at ht
    simp at ht
  | setpoint ht => rw [h.tasks] at ht; simp at ht
  | clock => exact .inr ⟨rfl, h.startedAt, h.tasks, h.idle, hfile⟩

lemma startedAt_kept (h : m.playback.showStartedAt.isSome = true) (hs : RecordStep setup m l m') :
    m'.playback.showStartedAt.isSome = true := by
  cases hs with
  | kept _ hp => rw [hp]; exact h
  | stopped _ _ hp => rw [hp]; exact h
  | started _ _ _ hp => rw [hp]; rfl
  | discarded _ hp => rw [hp]; exact h
  | snapshot => exact h
  | task hstep => rw [(stepTask_kept hstep).startedAt]; exact h
  | setpoint => exact h
  | clock => exact h

/-- Whether a show was started, against what is on record. -/
def Recorded (setup : Setup) (init : Closing) (ls : List ClosingLabel) (m : DroneManager) : Prop :=
  Waiting m ∧ Along (closingStep setup) (NoStart setup) init ls ∨
    m.playback.showStartedAt.isSome = true ∧ ¬ Along (closingStep setup) (NoStart setup) init ls

variable {os : List Sent} {s : Closing}

lemma serving_before {l : ClosingLabel}
    (hs : closingStep setup s l = some (s', os)) (h : s'.pc = .serving) :
    ∃ l', l = .station l' ∧ s.pc = .serving ∧ step setup s.station l' = some (s'.station, os) := by
  cases l with
  | station l =>
    obtain ⟨⟨m', sent⟩, hm', hf⟩ := Option.map_eq_some_iff.mp hs
    cases hf
    exact ⟨l, rfl, h, hm'⟩
  | shutdown faults raised =>
    simp only [closingStep] at hs
    split at hs <;> cases hs
    revert h
    simp only [beginShutdown, afterPlayback, disarmArmed]
    split
    · simp
    · split
      · split <;> simp
      · simp
  | playbackEnded raised =>
    simp only [closingStep] at hs
    split at hs
    · split at hs <;> cases hs
      revert h
      unfold afterPlayback disarmArmed
      split <;> simp
    · cases hs
  | disarm d =>
    obtain ⟨_, _, _, rfl, _⟩ := disarm_some hs
    cases h
  | gathered =>
    simp only [closingStep] at hs
    split at hs <;> cases hs
    cases h

lemma serving_recorded {m₀ : DroneManager} {ls : List ClosingLabel} (hinit : StartUp m₀)
    (hkeep : Along (closingStep setup) (RecordKept setup) ⟨m₀, .serving⟩ ls)
    (hr : run (closingStep setup) ⟨m₀, .serving⟩ ls = some (s, os)) (hpc : s.pc = .serving) :
    CancelledBut s.station.playback.trajectoryTask s.station.playback.tasks ∧
      Recorded setup ⟨m₀, .serving⟩ ls s.station := by
  refine run_history (A := RecordKept setup) (I := fun ls _ s => s.pc = .serving →
    CancelledBut s.station.playback.trajectoryTask s.station.playback.tasks ∧
      Recorded setup ⟨m₀, .serving⟩ ls s.station) ?_ ?_ hkeep hr hpc
  · exact fun _ => ⟨by rw [hinit.tasks]; exact cancelledBut_nil _, .inl ⟨hinit.waiting, trivial⟩⟩
  · intro ls os s l s' o hrun hinv hkeep hs hpc'
    obtain ⟨l, rfl, hpc, hstep⟩ := serving_before hs hpc'
    obtain ⟨hcancelled, hrec⟩ := hinv hpc
    have hrecord := step_record hstep
    refine ⟨hrecord.cancelledBut hcancelled, ?_⟩
    unfold Recorded
    rw [along_snoc hrun]
    simp only [RecordKept, hpc, if_true] at hkeep
    rcases hrec with ⟨hwaiting, hnone⟩ | ⟨hstarted, hsome⟩
    · rcases hwaiting.step (hkeep hwaiting.startedAt) hrecord with ⟨hyes, hat⟩ | ⟨hno, hwaiting'⟩
      · exact .inr ⟨hat, fun h => by simp [NoStart, hyes] at h⟩
      · exact .inl ⟨hwaiting', hnone, hno⟩
    · exact .inr ⟨startedAt_kept hstarted hrecord, fun h => hsome h.1⟩

/-! ## From the shutdown on -/

/-- Shutdown has been called: no task is left that could write or remove the
file, which is there or not. -/
structure Closed (there : Prop) (s : Closing) : Prop where
  pc : s.pc ≠ .serving
  file : OnDisk s.station ↔ there
  tasks : CancelledBut none s.station.playback.tasks
  snapshotting : s.station.playback.snapshotting = false

lemma lastSnapshot_isSome {faults : Faults} : (lastSnapshot m faults).isSome = true ↔
      m.playback.showStartedAt.isSome = true ∧ Writable m faults ∨ OnDisk m := by
  unfold lastSnapshot Writable loadedShow OnDisk
  cases hactive : m.activeTrajectory with
  | none => simp
  | some trajectory =>
    cases hstarted : m.playback.showStartedAt with
    | none => simp
    | some startedAt =>
      by_cases hempty : trajectory.drones = []
      · simp [hempty]
      · cases hwrite : faults.snapshotWrite <;> simp [hempty, Option.filter]

lemma stopForShutdown_closed {pc : ShutdownPc}
    (h : CancelledBut m.playback.trajectoryTask m.playback.tasks) (faults : Faults)
    (hpc : pc ≠ .serving) :
    Closed (m.playback.showStartedAt.isSome = true ∧ Writable m faults ∨ OnDisk m)
      ⟨stopForShutdown m faults, pc⟩ :=
  ⟨hpc, lastSnapshot_isSome, h.cancelled, rfl⟩

lemma Closed.afterPlayback (h : Closed there s) (raised : Bool) :
    Closed there (afterPlayback s.station raised) := by
  unfold Shutdown.afterPlayback disarmArmed
  split
  · exact ⟨by simp, h.file, h.tasks, h.snapshotting⟩
  · exact ⟨by simp, h.file, h.tasks, h.snapshotting⟩

lemma beginShutdown_closed (h : CancelledBut m.playback.trajectoryTask m.playback.tasks)
    (faults : Faults) (raised : Bool) :
    Closed (m.playback.showStartedAt.isSome = true ∧ Writable m faults ∨ OnDisk m)
      (beginShutdown m faults raised) := by
  unfold beginShutdown
  dsimp only
  split
  · exact stopForShutdown_closed h faults (by simp)
  next i _ =>
    have hawait : Closed _ ⟨stopForShutdown m faults, .stoppingPlayback i⟩ :=
      stopForShutdown_closed h faults (by simp)
    split
    · exact hawait.afterPlayback raised
    · exact hawait

lemma Closed.step {l : ClosingLabel} (h : Closed there s)
    (hkeep : RecordKept setup s l) (hs : closingStep setup s l = some (s', os)) :
    Closed there s' := by
  cases l with
  | station l =>
    obtain ⟨⟨m', sent⟩, hm', hf⟩ := Option.map_eq_some_iff.mp hs
    cases hf
    simp only [RecordKept, h.pc, if_false] at hkeep
    obtain ⟨hnot, hkeep⟩ := hkeep
    have hsame : ∀ r, r ∈ stops setup s.station l ∨ r ∈ discards l →
        ((discardShowState r s.station.playback.savedShow).1.isSome = true ↔
          s.station.playback.savedShow.isSome = true) := fun r hr =>
      Bool.eq_iff_iff.mp (discarded_isSome fun hdisk =>
        hr.elim ((hkeep hdisk).1 r) ((hkeep hdisk).2 r))
    have hfile := h.file
    unfold OnDisk at hfile
    cases step_record hm' with
    | kept _ hp => exact ⟨h.pc, by rw [OnDisk, hp]; exact hfile, by rw [hp]; exact h.tasks,
        by rw [hp]; exact h.snapshotting⟩
    | stopped _ hstops hp =>
      refine ⟨h.pc, ?_, ?_, by rw [hp]; rfl⟩
      · rw [OnDisk, hp]
        exact (hsame _ (.inl hstops)).trans hfile
      · rw [hp]
        simp only [stopPlayback]
        split
        · exact h.tasks
        · exact CancelledBut.cancelled h.tasks.of_none
    | started hyes => rw [hnot] at hyes; cases hyes
    | discarded hdiscards hp =>
      refine ⟨h.pc, ?_, by rw [hp]; exact h.tasks, by rw [hp]; exact h.snapshotting⟩
      rw [OnDisk, hp]
      exact (hsame _ (.inr hdiscards)).trans hfile
    | snapshot halive => rw [h.snapshotting] at halive; cases halive
    | task hstep =>
      obtain ⟨t, ht, hlive, -, hcancel⟩ := stepTask_stepped hstep
      refine ⟨h.pc, ?_, h.tasks.task hstep, ?_⟩
      · rw [OnDisk, hcancel (h.tasks _ t ht hlive (by simp)), deliverCancel_saved]
        exact hfile
      · rw [← Bool.not_eq_true]
        exact fun hsnap => by
          have halive := (stepTask_kept hstep).snapshotting hsnap
          rw [h.snapshotting] at halive
          cases halive
    | setpoint ht => exact ⟨h.pc, hfile, h.tasks.set ht fun hlive => ⟨hlive, rfl⟩, h.snapshotting⟩
    | clock => exact ⟨h.pc, hfile, h.tasks, h.snapshotting⟩
  | shutdown faults raised =>
    simp only [closingStep, h.pc, if_false] at hs
    cases hs
  | playbackEnded raised =>
    simp only [closingStep] at hs
    split at hs
    · split at hs <;> cases hs
      exact h.afterPlayback raised
    · cases hs
  | disarm d =>
    obtain ⟨_, _, _, rfl, _⟩ := disarm_some hs
    exact ⟨by simp, h.file, h.tasks, h.snapshotting⟩
  | gathered =>
    simp only [closingStep] at hs
    split at hs <;> cases hs
    exact ⟨by simp, h.file, h.tasks, h.snapshotting⟩

/-! ## The rule -/

lemma Waiting.not_playing (h : Waiting m) : ¬ Playing m := by
  rintro ⟨-, i, -, t, ht, -⟩
  rw [h.tasks] at ht
  simp at ht

/-- In every run from start-up whose steps keep the record, a saved show is on
disk from the shutdown on exactly if a show was being played when it was called,
or the one that waited was neither resumed nor discarded and no show was started;
and that is what the next start-up offers. -/
theorem saved_show_kept {setup : Setup} {m₀ : DroneManager} {as bs : List ClosingLabel}
    {faults : Faults} {raised : Bool} {s₁ s : Closing} {os₁ os : List Sent} (hinit : StartUp m₀)
    (hkeep : Along (closingStep setup) (RecordKept setup) ⟨m₀, .serving⟩
      (as ++ .shutdown faults raised :: bs))
    (h₁ : run (closingStep setup) ⟨m₀, .serving⟩ as = some (s₁, os₁))
    (hr : run (closingStep setup) s₁ (.shutdown faults raised :: bs) = some (s, os)) :
    (OnDisk s.station ↔ Playing s₁.station ∨
      Pending s₁.station ∧ Along (closingStep setup) (NoStart setup) ⟨m₀, .serving⟩ as) ∧
    ∀ m, StartUp m → m.playback.savedShow = s.station.playback.savedShow →
      (Pending m ↔ Playing s₁.station ∨
        Pending s₁.station ∧ Along (closingStep setup) (NoStart setup) ⟨m₀, .serving⟩ as) := by
  obtain ⟨s₂, o₂, os₂, hbegin, hrest, rfl⟩ := run_cons.mp hr
  simp only [closingStep] at hbegin
  split at hbegin
  · cases hbegin
    next hpc =>
      obtain ⟨hcancelled, hrec⟩ := serving_recorded hinit hkeep.take h₁ hpc
      obtain ⟨hshutdown, hafter⟩ := hkeep.drop h₁
      have hclosed := run_invariant (I := Closed _) (fun _ _ _ _ h hk hs => h.step hk hs)
        (beginShutdown_closed hcancelled faults raised)
        (hafter _ [] (by simp [closingStep, hpc])) hrest
      have hfile : OnDisk s.station ↔ Playing s₁.station ∨
          Pending s₁.station ∧ Along (closingStep setup) (NoStart setup) ⟨m₀, .serving⟩ as := by
        rw [hclosed.file]
        rcases hrec with ⟨hwaiting, hnone⟩ | ⟨hstarted, hsome⟩
        · simp [hwaiting.startedAt, hwaiting.not_playing, hnone, hwaiting.file]
        · simp [hstarted, hsome, ← hshutdown hstarted]
      exact ⟨hfile, fun m hm hsaved => by rw [Pending, hm.pending, hsaved]; exact hfile⟩
  · cases hbegin

instance (m : DroneManager) : Decidable (Playing m) :=
  inferInstanceAs (Decidable (_ ∧ ∃ i ∈ m.playback.trajectoryTask,
    ∃ t ∈ m.playback.tasks[i]?, _ ∧ _))

instance (m : DroneManager) : Decidable (OnDisk m) := inferInstanceAs (Decidable (_ = _))

instance (m : DroneManager) : Decidable (Pending m) := inferInstanceAs (Decidable (_ = _))

instance (m : DroneManager) (faults : Faults) : Decidable (Writable m faults) :=
  inferInstanceAs (Decidable (_ ∧ _))

instance (setup : Setup) (s : Closing) (l : ClosingLabel) : Decidable (RecordKept setup s l) := by
  cases l <;> unfold RecordKept <;> infer_instance

/-- A show is started, and the station goes away in the middle of it. -/
theorem saved_show_kept_midshow : ∃ s₁ os₁ s os, run (closingStep simSetup) ⟨hovering, .serving⟩
        [.station startHover, .station (.playback 0 {})] = some (s₁, os₁) ∧
      Playing s₁.station ∧
      run (closingStep simSetup) s₁ [.shutdown {} false] = some (s, os) ∧ OnDisk s.station := by
  obtain ⟨⟨s₁, os₁⟩, h₁, ⟨s, os⟩, hr, hplaying⟩ :
      ∃ r ∈ run (closingStep simSetup) ⟨hovering, .serving⟩
        [.station startHover, .station (.playback 0 {})],
      ∃ r' ∈ run (closingStep simSetup) r.1 [.shutdown {} false], Playing r.1.station := by
    decide +kernel
  exact ⟨s₁, os₁, s, os, h₁, hplaying, hr, (saved_show_kept ⟨rfl, rfl, rfl, by decide⟩
    (by decide +kernel) h₁ hr).1.mpr (.inl hplaying)⟩

/-- A show is loaded in formation, started, and played to its end. -/
def playedOut : List Label :=
  climbOut ++ [.tick {}, .api "operator" (.uploadTrajectory "hover.json" false none) {},
    .receive 0 hoverFile.toUTF8.toList, .receive 0 [],
    .api "operator" (.startTrajectory ⟨"LOCAL", 0, .streamed⟩) {}, .playback 0 {},
    .setpoint 0 0 .ok, .setpoint 0 0 .ok, .playback 0 {}, .clock 2 2, .playback 0 {}]

/-- The end of the show removes its file. The station goes away after it: the file
is written again, and the next start-up offers the show. -/
theorem finished_show_saved : StartUp onPad ∧ ∃ s₁ os₁ s os,
    run (closingStep simSetup) ⟨onPad, .serving⟩ (playedOut.map .station) = some (s₁, os₁) ∧
      s₁.station.fsm.state = .showComplete ∧
      ¬ Playing s₁.station ∧ ¬ OnDisk s₁.station ∧ ¬ Pending s₁.station ∧
      run (closingStep simSetup) s₁ [.shutdown {} false] = some (s, os) ∧ OnDisk s.station ∧
      ∃ m, StartUp m ∧ m.playback.savedShow = s.station.playback.savedShow ∧ Pending m := by
  have hidle : onPad.fsm.state ≠ .running := by decide
  obtain ⟨⟨s₁, os₁⟩, h₁, hcomplete, hover, hnone, hpending, ⟨s, os⟩, hr, hdisk⟩ :
      ∃ r ∈ run (closingStep simSetup) ⟨onPad, .serving⟩ (playedOut.map .station),
      r.1.station.fsm.state = .showComplete ∧ ¬ Playing r.1.station ∧ ¬ OnDisk r.1.station ∧
      ¬ Pending r.1.station ∧ ∃ r' ∈ run (closingStep simSetup) r.1 [.shutdown {} false],
      OnDisk r'.1.station := by decide +kernel
  have hdisk : OnDisk s.station := hdisk
  exact ⟨⟨rfl, rfl, rfl, hidle⟩, s₁, os₁, s, os, h₁, hcomplete, hover, hnone, hpending, hr, hdisk,
    { onPad with
      pendingResumeState := s.station.playback.savedShow
      playback := { onPad.playback with savedShow := s.station.playback.savedShow } },
    ⟨rfl, rfl, rfl, hidle⟩, rfl, hdisk⟩

end Taramandal.Gcs.SavedShow
