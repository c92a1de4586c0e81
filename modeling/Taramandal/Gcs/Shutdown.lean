import Taramandal.Gcs.Fleet

/-! # Shutdown (`DroneManager.shutdown`)

The station goes away: one last snapshot of the show, the playback task
cancelled and awaited, and then a disarm for every drone that was armed when it
was last heard of. It is the one place of the class that disarms without asking
whether the drone is on the ground. -/
namespace Taramandal.Gcs.Shutdown

open Lib.Run Gcs.State Gcs.Playback Gcs.Launch Gcs.Lifecycle
open Gcs.Fleet

/-! ## The coroutine -/

/-- Where `shutdown` is: not called, at the await of the cancelled playback
task, at the gather of the disarms with those not started yet, or over. -/
inductive ShutdownPc where
  | serving
  | stoppingPlayback (i : Nat)
  | disarming (pending : List Nat)
  | closed
  | raised
  deriving DecidableEq

structure Closing where
  station : DroneManager
  pc : ShutdownPc := .serving

/-- Anything else on the station takes a step; `shutdown` is called; the
playback task it awaits has ended, with an exception or without; the disarm of a
drone is started; all of them are back. -/
inductive ClosingLabel where
  | station (l : Label)
  | shutdown (faults : Faults) (raised : Bool)
  | playbackEnded (raised : Bool)
  | disarm (d : Nat)
  | gathered

section

variable (m : DroneManager)

/-- `_write_state_snapshot`. A file that cannot be written is logged. -/
def lastSnapshot (faults : Faults) : Option SavedShow :=
  match m.activeTrajectory, m.playback.showStartedAt with
  | some trajectory, some startedAt =>
    if trajectory.drones = [] ∨ faults.snapshotWrite = true then m.playback.savedShow
    else some ⟨m.time, m.playback.showMode, startedAt, trajectory⟩
  | _, _ => m.playback.savedShow

/-- The recording and the snapshots are stopped, one is written, and the
playback task is cancelled. -/
def stopForShutdown (faults : Faults) : DroneManager :=
  { m with playback :=
    { m.playback with
      isRecordingTelemetry := false
      snapshotting := false
      savedShow := lastSnapshot m faults
      tasks := cancelled m.playback } }

def playbackOver (i : Nat) : Bool :=
  m.playback.tasks[i]?.all fun t => t.pc = .finished

/-- The disarms: every drone whose last-known flag is armed. -/
def disarmArmed : Closing := ⟨m, .disarming (armedIds m)⟩

def afterPlayback (raised : Bool) : Closing :=
  if raised then ⟨m, .raised⟩
  else
    disarmArmed { m with playback :=
      { m.playback with trajectoryTask := none, isRunningTrajectory := false } }

/-- `shutdown` up to its first await. A playback task that is over already is
awaited without suspending. -/
def beginShutdown (faults : Faults) (raised : Bool) : Closing :=
  let m' := stopForShutdown m faults
  match m.playback.trajectoryTask with
  | none => disarmArmed m'
  | some i => if playbackOver m i then afterPlayback m' raised else ⟨m', .stoppingPlayback i⟩

def close : DroneManager :=
  { m with drones := [], drones_nodup := List.nodup_nil, staging := { m.staging with missionDir := none } }

end

def closingStep (setup : Setup) : System Closing ClosingLabel Sent := fun s l =>
  match l with
  | .station l => (step setup s.station l).map fun r => ({ s with station := r.1 }, r.2)
  | .shutdown faults raised =>
    if s.pc = .serving then some (beginShutdown s.station faults raised, []) else none
  | .playbackEnded raised =>
    match s.pc with
    | .stoppingPlayback i =>
      if playbackOver s.station i then some (afterPlayback s.station raised, []) else none
    | _ => none
  | .disarm d =>
    match s.pc with
    | .disarming pending =>
      if d ∈ pending then some ({ s with pc := .disarming (pending.erase d) }, [.call d .disarm])
      else none
    | _ => none
  | .gathered =>
    if s.pc = .disarming [] then some (⟨close s.station, .closed⟩, []) else none

/-! ## Who is disarmed -/

def Confirmed (m : DroneManager) (d : Nat) : Prop := onGroundNow m (m.telemetry d) = true

instance (m : DroneManager) (d : Nat) : Decidable (Confirmed m d) :=
  inferInstanceAs (Decidable (_ = true))

/-- If the step is the shutdown's, what it disarms is confirmed on the ground. -/
def DisarmsGrounded (setup : Setup) (s : Closing) (l : ClosingLabel) : Prop :=
  (∀ l', l ≠ .station l') → ∀ s' os, closingStep setup s l = some (s', os) →
    ∀ d, .call d .disarm ∈ os → Confirmed s.station d

/-- Every drone that was armed when last heard of is confirmed on the ground. -/
def Parked (m : DroneManager) : Prop :=
  ∀ d ∈ m.drones, (m.telemetry d).armed = true → Confirmed m d

instance (m : DroneManager) : Decidable (Parked m) := inferInstanceAs (Decidable (∀ _ ∈ _, _ → _))

/-- The step at which shutdown comes to its disarms finds the fleet parked, and
until they are started nothing takes a drone's confirmation away. -/
def KeepsParked (setup : Setup) (s : Closing) (l : ClosingLabel) : Prop :=
  match l with
  | .station l => ∀ pending, s.pc = .disarming pending → ∀ m' os, step setup s.station l = some (m', os) →
      ∀ d, Confirmed s.station d → Confirmed m' d
  | .shutdown _ _ => (∀ i, s.station.playback.trajectoryTask = some i → playbackOver s.station i = true) →
      Parked s.station
  | .playbackEnded _ => Parked s.station
  | _ => True

variable {setup : Setup} {s : Closing} {m : DroneManager}

variable {s' : Closing} {d : Nat} {os : List Sent} {l : ClosingLabel}

lemma disarm_some (h : closingStep setup s (.disarm d) = some (s', os)) :
    ∃ pending, s.pc = .disarming pending ∧ d ∈ pending ∧
      s' = { s with pc := .disarming (pending.erase d) } ∧ os = [.call d .disarm] := by
  simp only [closingStep] at h
  split at h
  next pending hpc =>
    split at h
    next hmem => cases h; exact ⟨pending, hpc, hmem, rfl, rfl⟩
    next => cases h
  next => cases h

lemma disarmsGrounded_iff : DisarmsGrounded setup s l ↔
      ∀ d pending, l = .disarm d → s.pc = .disarming pending → d ∈ pending → Confirmed s.station d := by
  constructor
  · rintro h d pending rfl hpc hmem
    have hs : closingStep setup s (.disarm d) =
        some ({ s with pc := .disarming (pending.erase d) }, [.call d .disarm]) := by
      simp [closingStep, hpc, hmem]
    exact h (by simp) _ _ hs d (by simp)
  · intro h hown s' os hs d hd
    cases l with
    | station l => exact absurd rfl (hown l)
    | shutdown faults raised =>
      simp only [closingStep] at hs
      split at hs <;> cases hs
      cases hd
    | playbackEnded raised =>
      simp only [closingStep] at hs
      split at hs
      · split at hs <;> cases hs
        cases hd
      · cases hs
    | disarm e =>
      obtain ⟨pending, hpc, hmem, -, rfl⟩ := disarm_some hs
      obtain rfl : d = e := by simpa using hd
      exact h d pending rfl hpc hmem
    | gathered =>
      simp only [closingStep] at hs
      split at hs <;> cases hs
      cases hd

/-- The drones that are still to be disarmed are confirmed on the ground. -/
def PendingGrounded (s : Closing) : Prop :=
  ∀ pending, s.pc = .disarming pending → ∀ d ∈ pending, Confirmed s.station d

lemma mem_armedIds : d ∈ armedIds m ↔ d ∈ m.drones ∧ (m.telemetry d).armed = true := List.mem_filter

lemma disarmArmed_grounded (h : Parked m) : PendingGrounded (disarmArmed m) := by
  intro pending hpc d hd
  cases hpc
  obtain ⟨hmem, harmed⟩ := mem_armedIds.mp hd
  exact h d hmem harmed

lemma afterPlayback_grounded {raised : Bool} (h : Parked m) :
    PendingGrounded (afterPlayback m raised) := by
  unfold afterPlayback
  split
  · intro pending hpc
    cases hpc
  · exact disarmArmed_grounded h

lemma PendingGrounded.step (h : PendingGrounded s) (hkeeps : KeepsParked setup s l)
    (hs : closingStep setup s l = some (s', os)) : PendingGrounded s' := by
  cases l with
  | station l =>
    obtain ⟨⟨m', sent⟩, hm', hf⟩ := Option.map_eq_some_iff.mp hs
    cases hf
    intro pending hpc d hd
    exact hkeeps pending hpc m' sent hm' d (h pending hpc d hd)
  | shutdown faults raised =>
    simp only [closingStep] at hs
    split at hs <;> cases hs
    unfold beginShutdown
    dsimp only
    split
    next htask => exact disarmArmed_grounded (hkeeps (by simp [htask]))
    next i htask =>
      split
      next hover => exact afterPlayback_grounded (hkeeps (by simpa [htask] using hover))
      next =>
        intro pending hpc
        cases hpc
  | playbackEnded raised =>
    simp only [closingStep] at hs
    split at hs
    · split at hs <;> cases hs
      exact afterPlayback_grounded hkeeps
    · cases hs
  | disarm d =>
    obtain ⟨pending, hpc, -, rfl, -⟩ := disarm_some hs
    intro pending' hpc' e he
    cases hpc'
    exact h pending hpc e (List.mem_of_mem_erase he)
  | gathered =>
    simp only [closingStep] at hs
    split at hs <;> cases hs
    intro pending hpc
    cases hpc

/-- A shutdown that goes through its disarms undisturbed sends them to drones on
the ground exactly if every drone it finds armed is confirmed there; and in
every run in which that holds, and stays, no drone is disarmed in the air. -/
theorem shutdown_disarms_iff (setup : Setup) : (∀ m : DroneManager,
      (∀ ds : List Nat, Along (closingStep setup) (DisarmsGrounded setup) (disarmArmed m)
        (ds.map .disarm)) ↔ Parked m) ∧
    ∀ (s : Closing) (ls : List ClosingLabel), s.pc = .serving →
      Along (closingStep setup) (KeepsParked setup) s ls →
        Along (closingStep setup) (DisarmsGrounded setup) s ls := by
  constructor
  · intro m
    constructor
    · intro h d hmem harmed
      exact disarmsGrounded_iff.mp (h [d]).1 d _ rfl rfl (mem_armedIds.mpr ⟨hmem, harmed⟩)
    · intro hparked ds
      refine along_of_invariant (I := PendingGrounded) (A := fun _ l => ∃ d, l = .disarm d)
        (fun s l s' os h hl hs => h.step (by obtain ⟨d, rfl⟩ := hl; trivial) hs)
        (fun s l h _ => disarmsGrounded_iff.mpr fun d pending _ hpc hmem => h pending hpc d hmem)
        (disarmArmed_grounded hparked) (along_of_labels ?_)
      simp
  · intro s ls hserving hkeeps
    exact along_of_invariant (I := PendingGrounded) (fun _ _ _ _ h hk hs => h.step hk hs)
      (fun s l h _ => disarmsGrounded_iff.mpr fun d pending _ hpc hmem => h pending hpc d hmem)
      (fun pending hpc => by rw [hserving] at hpc; cases hpc) hkeeps

/-- A drone that is armed, and has just reported itself on the ground. -/
def armedOnGround : DroneManager :=
  { onPad with telemetry := fun _ =>
    { connected := true, armed := true, lastHeartbeat := some 0
      landedState := some "ON_GROUND", landedStateAt := some 0 } }

/-- It is disarmed. -/
theorem shutdown_disarms_iff_on_ground :
    Along (closingStep simSetup) (DisarmsGrounded simSetup) { station := armedOnGround }
      [.shutdown {} false, .disarm 0] :=
  (shutdown_disarms_iff simSetup).2 _ _ rfl
    ⟨fun _ => by decide +kernel, fun _ _ _ => ⟨trivial, fun _ _ _ => trivial⟩⟩

/-- A drone that hovers in formation when the station goes away is disarmed there. -/
theorem disarmed_in_the_air : ∃ s os, run (closingStep simSetup) { station := onPad }
        (climbOut.map .station ++ [.shutdown {} false]) = some (s, os) ∧
      (s.station.telemetry 0).fleetZ = 2 ∧ ¬ Confirmed s.station 0 ∧
        ¬ DisarmsGrounded simSetup s (.disarm 0) := by
  obtain ⟨⟨s, os⟩, hrun, hz, hair, hpc⟩ :
      ∃ r ∈ run (closingStep simSetup) { station := onPad } (climbOut.map .station ++
      [.shutdown {} false]), (r.1.station.telemetry 0).fleetZ = 2 ∧ ¬ Confirmed r.1.station 0 ∧
      r.1.pc = .disarming [0] := by decide +kernel
  exact ⟨s, os, hrun, hz, hair, fun hg =>
    hair (disarmsGrounded_iff.mp hg 0 [0] rfl hpc (List.mem_singleton.mpr rfl))⟩

end Taramandal.Gcs.Shutdown
