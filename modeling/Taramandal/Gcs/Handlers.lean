import Taramandal.Gcs.Emergency
import Taramandal.Gcs.Launch
import Taramandal.Gcs.Staging

/-! # The API handlers (`main.py`)

Each request up to its first await, and the upload that reads its file in
chunks. A handler checks the lifecycle where it starts; whether that still holds
where it acts is the business of the code in between. -/
namespace Taramandal.Gcs.Handlers

open Lib.Dict Core.Values Core.Shows Core.Schema Gcs.FleetFsm Gcs.Geofence Gcs.TrajectoryParser
open Gcs.State Gcs.Playback Gcs.Emergency Gcs.Launch Gcs.LaunchGate Gcs.Staging

inductive Response where
  | ok
  | error (status : Nat) (detail : String)
  deriving DecidableEq

/-- What a request came to: the state, what was sent, and the response. -/
abbrev Handled := DroneManager × List Sent × Response

/-- `check_flight_mode_and_hardware_gate`. -/
def hardwareRefusal (action : String) : Response :=
  .error 412 ("Physical flight action '" ++ action ++ "' blocked: Hardware acceptance gate #135 " ++
    "has not passed and verified hardware controller transport is not configured.")

/-- `_check_no_active_single_drone_sequence`. -/
def benchRefusal (m : DroneManager) (action : String) : Response :=
  .error 409 ("Cannot " ++ action ++ " while a single-drone sequence is active on drone(s) " ++
    listStr (m.singleDroneSequenceActive.insertionSort (· ≤ ·)) ++ ".")

section

variable (m : DroneManager) (faults : Faults) (c : Command) (operator trigger : String)

/-- A refused `_check_command`: the refusal is audited. -/
def refuseCommand : Handled :=
  (m.moveFsm faults.auditWrite (m.fsm.reject c operator trigger m.time), [],
    .error 409 (FsmError.illegalTransition c m.fsm.state).message)

/-- `_check_command`, and what a legal command goes on to. -/
def checked (act : Handled) : Handled :=
  match m.fsm.check c with
  | .ok _ => act
  | .error _ => refuseCommand m faults c operator trigger

/-- `_apply_command`. -/
def applied (act : DroneManager → Handled) : Handled :=
  match m.fsm.apply c operator trigger m.time with
  | .ok f => act (m.moveFsm faults.auditWrite f)
  | .error _ => refuseCommand m faults c operator trigger

end

/-- `drone_manager.active_trajectory`, where it is one that can be flown. -/
def loadedShow (m : DroneManager) : Option (Show ℚ) :=
  m.activeTrajectory.filter fun trajectory => trajectory.drones ≠ []

def noActiveTrajectory : Response :=
  .error 400 "No active trajectory loaded. Please upload a trajectory first."

def missionGate (setup : Setup) (m : DroneManager) : Response :=
  if m.activeTrajectory.isSome || m.stagedShow.isSome then
    match launchGate setup m with
    | .error e => .error 500 e.text
    | .ok gate => if gate.ok then .ok else .error 409 gate.reason
  else .ok

/-- `POST /api/launch`. What the pre-arm checklist decided is its argument: the
drones it cleared, and whether the EKF check stands. -/
def launchFleet (setup : Setup) (m : DroneManager) (faults : Faults) (operator : String)
    (decision : Option (List Nat × Bool)) : Handled :=
  if setup.flightBlocked then (m, [], hardwareRefusal "launch")
  else if m.singleDroneSequenceActive ≠ [] then (m, [], benchRefusal m "launch the fleet")
  else
    checked m faults .launch operator "POST /api/launch" <|
      match decision with
      | none => (m, [], .error 412 "Launch refused: pre-arm gates are red.")
      | some (droneIds, requireEkfHealth) =>
        match missionGate setup m with
        | .error status detail => (m, [], .error status detail)
        | .ok =>
          applied m faults .launch operator "POST /api/launch" fun m =>
            (startLaunch m (some droneIds) requireEkfHealth true, [], .ok)

/-- The refusal of an emergency that no controller could carry out. -/
def controllerRefusal (label : String) : Response :=
  .error 503 ("Physical emergency " ++ label ++ " unavailable: no verified physical hardware " ++
    "controller transport exists.")

def fleetLabel : AbortMode → String
  | .rtl => "RTL"
  | .land => "landing"
  | .estop => "stop"

def droneLabel : AbortMode → String
  | .rtl => "RTL"
  | .land => "landing"
  | .estop => "emergency stop"

/-- `POST /api/rtl`, `/api/land` and `/api/estop`, and the monitors' failsafes. -/
def emergency (m : DroneManager) (faults : Faults) (mode : AbortMode) (operator trigger : String) :
    Handled :=
  match triggerEmergency faults mode operator trigger m with
  | (m, sent, none) => (m, sent, .error 500 "OSError")
  | (m, sent, some tasks) => ({ m with commands := m.commands ++ tasks }, sent, .ok)

/-- `abort_drone`: the flag first, then the drone's own command. -/
def abortDrone (m : DroneManager) (d : Nat) (mode : AbortMode) : Handled :=
  if !m.drones.contains d then
    (m, [], .error 404 ("Drone " ++ toString d ++ " is not connected to this GCS."))
  else
    let m := m.setTelemetry d
      { m.telemetry d with aborted := some ⟨mode, m.time⟩, plannedValid := false }
    match stepCommand { mode := mode, droneId := d } .ok with
    | some (t, sent) => ({ m with commands := m.commands ++ [t] }, sent, .ok)
    | none => (m, [], .ok)

def launchIncomplete (m : DroneManager) : Response :=
  .error 409 ("Show start refused: the launch did not get every planned drone up. " ++
    "; ".intercalate (m.launch.launchFailures.map fun e =>
      "Drone " ++ toString e.1 ++ ": " ++ e.2) ++ ". Land the fleet and relaunch.")

/-- `POST /api/start-trajectory`: checked, then acted on, then committed. -/
def startShow (setup : Setup) (m : DroneManager) (faults : Faults) (operator : String)
    (req : StartRequest) : Handled :=
  let trigger := "POST /api/start-trajectory"
  if setup.flightBlocked then (m, [], hardwareRefusal "start-trajectory")
  else if m.launch.launchFailures ≠ [] then (m, [], launchIncomplete m)
  else
    checked m faults .startTrajectory operator trigger <|
      match loadedShow m with
      | none => (m, [], noActiveTrajectory)
      | some trajectory =>
        match startTrajectory setup faults trajectory req m with
        | (m, sent, some e) => (m, sent, .error 400 e)
        | (m, sent, none) =>
          applied m faults .startTrajectory operator trigger fun m => (m, sent, .ok)

/-- `POST /api/stop-trajectory`. -/
def stopShow (m : DroneManager) (faults : Faults) (operator : String) : Handled :=
  let trigger := "POST /api/stop-trajectory"
  checked m faults .stopTrajectory operator trigger <|
    match stopTrajectory faults m with
    | (m, sent, true) => (m, sent, .error 500 "OSError")
    | (m, sent, false) =>
      applied m faults .stopTrajectory operator trigger fun m => (m, sent, .ok)

def discardSaved (m : DroneManager) (faults : Faults) : Handled :=
  let saved := discardShowState faults.removal m.playback.savedShow
  ({ m with
    pendingResumeState := none
    playback := { m.playback with savedShow := saved.1 } }, [],
    if saved.2 then .error 500 "OSError" else .ok)

/-- `POST /api/resume-show`. What the upload gate says of the saved trajectory
is its argument. -/
def resumeShow (setup : Setup) (m : DroneManager) (faults : Faults) (operator : String)
    (gated : Except String (Show ℚ)) : Handled :=
  if setup.flightBlocked then (m, [], hardwareRefusal "resume-show")
  else if m.singleDroneSequenceActive ≠ [] then (m, [], benchRefusal m "resume a saved show")
  else
    checked m faults .resumeShow operator "POST /api/resume-show" <|
      match m.pendingResumeState, gated with
      | none, _ => (m, [], .error 400 "No pending saved show state to resume.")
      | some _, .error e => (m, [], .error 400 ("Saved show cannot be resumed: " ++ e))
      | some state, .ok trajectory =>
        discardSaved { m with
          activeTrajectory := some trajectory
          playback := { m.playback with showMode := state.mode } } faults

/-- `POST /api/discard-show`. -/
def discardShow (m : DroneManager) (faults : Faults) (operator : String) : Handled :=
  if m.singleDroneSequenceActive ≠ [] then (m, [], benchRefusal m "discard a saved show")
  else
    checked m faults .discardShow operator "POST /api/discard-show" (discardSaved m faults)

def maxFileSize : Nat := 5 * 1024 * 1024

/-- `POST /api/upload-trajectory` up to its first read. -/
def uploadTrajectory (m : DroneManager) (faults : Faults) (operator filename : String)
    (signed : Bool) (contentLength : Option Nat) : Handled :=
  if m.singleDroneSequenceActive ≠ [] then (m, [], benchRefusal m "upload a trajectory")
  else
    checked m faults .uploadTrajectory operator "POST /api/upload-trajectory" <|
      if contentLength.any (maxFileSize < ·) then
        (m, [], .error 400 "File too large. Maximum size is 5MB.")
      else ({ m with receives := m.receives ++ [{ filename := filename, signed := signed }] }, [], .ok)

section

variable (setup : Setup) (m : DroneManager)

/-- Everything has been read: the trust check, the parse, and the swap. -/
def acceptUpload (r : Receive) (manifest : Option Bytes) : DroneManager :=
  match setup.trustCheck r.content r.filename manifest with
  | .error _ => m
  | .ok _ =>
    match parseTrajectoryBytes setup.readers setup.tree r.content r.filename with
    | .error _ => m
    | .ok trajectory =>
      { m with
        activeTrajectory := some trajectory
        geofenceRadius := (applyGeofenceEnvelope trajectory).1
        softGeofenceRadius := (applyGeofenceEnvelope trajectory).2 }

/-- An upload whose read has come back with `chunk`. -/
def receiveChunk (r : Receive) (chunk : Bytes) : Option (DroneManager × Receive) :=
  match r.pc with
  | .reading =>
    if chunk = [] then
      if r.signed then some (m, { r with pc := .readingManifest })
      else some (acceptUpload setup m r none, { r with pc := .returned })
    else if maxFileSize < (r.content ++ chunk).length then
      some (m, { r with content := r.content ++ chunk, pc := .returned })
    else some (m, { r with content := r.content ++ chunk })
  | .readingManifest => some (acceptUpload setup m r (some chunk), { r with pc := .returned })
  | .returned => none

def stepReceive (i : Nat) (chunk : Bytes) : Option (DroneManager × List Sent) := do
  let r ← m.receives[i]?
  let (m', r') ← receiveChunk setup m r chunk
  return ({ m' with receives := m'.receives.set i r' }, [])

/-- `POST /api/upload-mission` up to its first await. -/
def uploadMissions (faults : Faults) (operator : String) : Handled :=
  if m.singleDroneSequenceActive ≠ [] then (m, [], benchRefusal m "upload show missions")
  else
    checked m faults .uploadMission operator "POST /api/upload-mission" <|
      match loadedShow m with
      | none => (m, [], noActiveTrajectory)
      | some trajectory =>
        match uploadShow setup m trajectory with
        | (m, some e) => (m, [], .error 400 e)
        | (m, none) => (m, [], .ok)

end

/-! ## What a request can do -/

def AuditOnly (m m' : DroneManager) : Prop :=
  ∃ f auditFile, m' = { m with fsm := f, auditFile := auditFile } ∧ f.state = m.fsm.state

lemma AuditOnly.refl (m : DroneManager) : AuditOnly m m := ⟨m.fsm, m.auditFile, rfl, rfl⟩

/-- A refusal: nothing is sent, and nothing but the audit trail changes. -/
structure Refused (m : DroneManager) (h : Handled) : Prop where
  audit : AuditOnly m h.1
  sent : h.2.1 = []
  response : h.2.2 ≠ .ok

lemma refused_error (m : DroneManager) (status : Nat) (detail : String) :
    Refused m (m, [], .error status detail) := ⟨.refl m, rfl, by simp⟩

section

variable (m : DroneManager) (faults : Faults) (c : Command) (operator trigger : String)

lemma refuseCommand_refused : Refused m (refuseCommand m faults c operator trigger) :=
  ⟨⟨_, _, rfl, rfl⟩, rfl, by simp [refuseCommand]⟩

lemma checked_cases (act : Handled) : Refused m (checked m faults c operator trigger act) ∨
      m.fsm.state ∈ (commandRules c).allowedFrom ∧
        checked m faults c operator trigger act = act := by
  unfold checked
  split
  next h => exact .inr ⟨FleetStateMachine.check_ok h, rfl⟩
  next => exact .inl (refuseCommand_refused ..)

end

lemma applied_cases (m : DroneManager) (faults : Faults) {c : Command} {target : LifecycleState}
    (ht : (commandRules c).target = some target) (operator trigger : String)
    (act : DroneManager → Handled) :
    Refused m (applied m faults c operator trigger act) ∨
      ∃ f auditFile, f.state = target ∧ applied m faults c operator trigger act =
        act { m with fsm := f, auditFile := auditFile } := by
  unfold applied
  split
  next f h =>
    obtain ⟨-, rfl⟩ := FleetStateMachine.apply_ok ht h
    exact .inr ⟨_, _, rfl, rfl⟩
  next => exact .inl (refuseCommand_refused ..)

/-- `POST /api/launch` is refused, or starts the launch task from the ground. -/
lemma launchFleet_cases (setup : Setup) (m : DroneManager) (faults : Faults) (operator : String)
    (decision : Option (List Nat × Bool)) :
    Refused m (launchFleet setup m faults operator decision) ∨
      ∃ droneIds ekf f auditFile, decision = some (droneIds, ekf) ∧
        (m.fsm.state = .staged ∨ m.fsm.state = .disarmed) ∧ f.state = .prearm ∧
        launchFleet setup m faults operator decision =
          (startLaunch { m with fsm := f, auditFile := auditFile } (some droneIds) ekf true, [],
            .ok) := by
  unfold launchFleet
  split
  · exact .inl (refused_error ..)
  · split
    · exact .inl (refused_error ..)
    · rcases checked_cases m faults .launch operator "POST /api/launch" _ with h | ⟨hs, h⟩
      · exact .inl h
      · rw [h]
        split
        · exact .inl (refused_error ..)
        next droneIds ekf =>
          split
          · exact .inl (refused_error ..)
          · rcases applied_cases m faults (c := .launch) rfl operator "POST /api/launch" _ with
              h | ⟨f, auditFile, hf, h⟩
            · exact .inl h
            · exact .inr ⟨droneIds, ekf, f, auditFile, rfl, by simpa [commandRules] using hs, hf, h⟩

/-- What an emergency does: the lifecycle enters its state, the show is stopped,
and commands are started. -/
lemma emergency_moved (m : DroneManager) (faults : Faults) (mode : AbortMode)
    (operator trigger : String) :
    ∃ f auditFile playback commands, f.state = emergencyState mode ∧
      Stopped m.playback playback ∧ (emergency m faults mode operator trigger).1 =
        { m with
          fsm := f, auditFile := auditFile, playback := playback, commands := commands } := by
  obtain ⟨playback, hm, hstopped, -⟩ := stopTrajectory_stopped faults
    (m.moveFsm faults.auditWrite (m.fsm.enter (emergencyState mode) operator trigger m.time))
  simp only [emergency, triggerEmergency, apply_emergencyCommand]
  generalize stopTrajectory faults _ = r at hm ⊢
  obtain ⟨m1, sent, raised⟩ := r
  simp only at hm
  subst hm
  cases raised with
  | true => exact ⟨_, _, _, _, rfl, hstopped, rfl⟩
  | false => exact ⟨_, _, _, _, rfl, hstopped, rfl⟩

/-- `abort_drone` sets the drone's flag and starts its command. -/
lemma abortDrone_cases (m : DroneManager) (d : Nat) (mode : AbortMode) :
    Refused m (abortDrone m d mode) ∨
      ∃ tel commands, tel.aborted.isSome = true ∧ (abortDrone m d mode).2.2 = .ok ∧
        (abortDrone m d mode).1 = { m.setTelemetry d tel with commands := commands } := by
  unfold abortDrone
  split
  · exact .inl (refused_error ..)
  · dsimp only
    split
    · exact .inr ⟨_, _, rfl, rfl, rfl⟩
    · exact .inr ⟨_, _, rfl, rfl, rfl⟩

/-- `POST /api/start-trajectory` is refused, or raised where the show is started,
or the show is started and the fleet runs. -/
lemma startShow_cases (setup : Setup) (m : DroneManager) (faults : Faults) (operator : String)
    (req : StartRequest) :
    Refused m (startShow setup m faults operator req) ∨
      m.fsm.state = .formationHold ∧ m.launch.launchFailures = [] ∧ setup.flightBlocked = false ∧
        ∃ trajectory, loadedShow m = some trajectory ∧
          ((∃ e, (startTrajectory setup faults trajectory req m).2.2 = some e ∧
            (startShow setup m faults operator req).1 =
              (startTrajectory setup faults trajectory req m).1) ∨
          ((startTrajectory setup faults trajectory req m).2.2 = none ∧
            ∃ f auditFile, f.state = .running ∧ (startShow setup m faults operator req).1 =
              { (startTrajectory setup faults trajectory req m).1 with
                fsm := f, auditFile := auditFile })) := by
  unfold startShow
  dsimp only
  split
  · exact .inl (refused_error ..)
  next hblocked =>
    split
    · exact .inl (refused_error ..)
    next hfailures =>
      rcases checked_cases m faults .startTrajectory operator "POST /api/start-trajectory" _ with
        h | ⟨hs, h⟩
      · exact .inl h
      · rw [h]
        have hhold : m.fsm.state = .formationHold := by simpa [commandRules] using hs
        have hfsm : ∀ trajectory, (startTrajectory setup faults trajectory req m).1.fsm = m.fsm := by
          intro trajectory
          obtain ⟨_, hstop, -⟩ := stopTrajectory_stopped faults m
          rcases startTrajectory_cases setup faults trajectory req m with
            ⟨-, h | h⟩ | ⟨-, -, -, _, _, _, _, h, -⟩
          · rw [h]
          · rw [h, hstop]
          · rw [h]
        split
        · exact .inl (refused_error ..)
        next trajectory hload =>
          refine .inr ⟨hhold, by simpa using hfailures, by simpa using hblocked, trajectory, hload, ?_⟩
          have hf := hfsm trajectory
          generalize startTrajectory setup faults trajectory req m = r at hf ⊢
          obtain ⟨m1, sent, raised⟩ := r
          cases raised with
          | some e => exact .inl ⟨e, rfl, rfl⟩
          | none =>
            refine .inr ⟨rfl, ?_⟩
            have happly := m1.fsm.apply_of_allowed (c := .startTrajectory) operator
              "POST /api/start-trajectory" m1.time (by rw [hf, hhold]; decide) rfl
            simp only [applied, happly]
            exact ⟨_, _, rfl, rfl⟩

/-- `POST /api/stop-trajectory` is refused, or stops the show of a running fleet. -/
lemma stopShow_cases (m : DroneManager) (faults : Faults) (operator : String) :
    Refused m (stopShow m faults operator) ∨ m.fsm.state = .running ∧ ∃ f auditFile,
        (f.state = .running ∨ f.state = .formationHold) ∧
        (stopShow m faults operator).1 =
          { (stopTrajectory faults m).1 with fsm := f, auditFile := auditFile } := by
  unfold stopShow
  dsimp only
  rcases checked_cases m faults .stopTrajectory operator "POST /api/stop-trajectory" _ with
    h | ⟨hs, h⟩
  · exact .inl h
  · rw [h]
    have hrun : m.fsm.state = .running := by simpa [commandRules] using hs
    obtain ⟨playback, hm, -⟩ := stopTrajectory_stopped faults m
    refine .inr ⟨hrun, ?_⟩
    generalize stopTrajectory faults m = r at hm ⊢
    obtain ⟨m1, sent, raised⟩ := r
    simp only at hm
    subst hm
    cases raised with
    | true => exact ⟨m.fsm, m.auditFile, .inl hrun, rfl⟩
    | false =>
      have happly := m.fsm.apply_of_allowed (c := .stopTrajectory) operator
        "POST /api/stop-trajectory" m.time (by rw [hrun]; decide) rfl
      simp only [applied, happly]
      exact ⟨_, _, .inr rfl, rfl⟩

/-- Resuming and discarding change the saved show, and resuming loads a
trajectory, only while no show is running. -/
lemma resumeShow_cases (setup : Setup) (m : DroneManager) (faults : Faults) (operator : String)
    (gated : Except String (Show ℚ)) :
    Refused m (resumeShow setup m faults operator gated) ∨
      m.fsm.state ≠ .running ∧ ∃ active pending mode saved,
        (resumeShow setup m faults operator gated).1 =
          { m with
            activeTrajectory := active, pendingResumeState := pending
            playback := { m.playback with showMode := mode, savedShow := saved } } := by
  unfold resumeShow
  split
  · exact .inl (refused_error ..)
  · split
    · exact .inl (refused_error ..)
    · rcases checked_cases m faults .resumeShow operator "POST /api/resume-show" _ with h | ⟨hs, h⟩
      · exact .inl h
      · rw [h]
        split
        · exact .inl (refused_error ..)
        · exact .inl (refused_error ..)
        · exact .inr ⟨mem_notRunning.mp hs, _, _, _, _, rfl⟩

lemma discardShow_cases (m : DroneManager) (faults : Faults) (operator : String) :
    Refused m (discardShow m faults operator) ∨ ∃ pending saved, (discardShow m faults operator).1 =
        { m with
          pendingResumeState := pending
          playback := { m.playback with savedShow := saved } } := by
  unfold discardShow
  split
  · exact .inl (refused_error ..)
  · rcases checked_cases m faults .discardShow operator "POST /api/discard-show" _ with h | ⟨-, h⟩
    · exact .inl h
    · rw [h]
      exact .inr ⟨_, _, rfl⟩

lemma uploadTrajectory_cases (m : DroneManager) (faults : Faults) (operator filename : String)
    (signed : Bool) (contentLength : Option Nat) :
    Refused m (uploadTrajectory m faults operator filename signed contentLength) ∨
      m.fsm.state ≠ .running ∧ ∃ r, (uploadTrajectory m faults operator filename signed
        contentLength).1 = { m with receives := m.receives ++ [r] } := by
  unfold uploadTrajectory
  split
  · exact .inl (refused_error ..)
  · rcases checked_cases m faults .uploadTrajectory operator "POST /api/upload-trajectory" _ with
      h | ⟨hs, h⟩
    · exact .inl h
    · rw [h]
      split
      · exact .inl (refused_error ..)
      · exact .inr ⟨mem_notRunning.mp hs, _, rfl⟩

lemma uploadMissions_cases (setup : Setup) (m : DroneManager) (faults : Faults)
    (operator : String) :
    Refused m (uploadMissions setup m faults operator) ∨
      m.fsm.state ≠ .running ∧ ∃ trajectory, loadedShow m = some trajectory ∧
        (uploadMissions setup m faults operator).1 = (uploadShow setup m trajectory).1 := by
  unfold uploadMissions
  split
  · exact .inl (refused_error ..)
  · rcases checked_cases m faults .uploadMission operator "POST /api/upload-mission" _ with
      h | ⟨hs, h⟩
    · exact .inl h
    · rw [h]
      split
      · exact .inl (refused_error ..)
      next trajectory hload =>
        refine .inr ⟨mem_notRunning.mp hs, trajectory, hload, ?_⟩
        generalize uploadShow setup m trajectory = r
        obtain ⟨m1, raised⟩ := r
        cases raised <;> rfl

lemma acceptUpload_only (setup : Setup) (m : DroneManager) (r : Receive) (manifest : Option Bytes) :
    ∃ active radius soft, acceptUpload setup m r manifest =
      { m with
        activeTrajectory := active, geofenceRadius := radius, softGeofenceRadius := soft } := by
  unfold acceptUpload
  split
  · exact ⟨_, _, _, rfl⟩
  · split <;> exact ⟨_, _, _, rfl⟩

lemma stepReceive_some {setup : Setup} {m m' : DroneManager} {i : Nat} {chunk : Bytes}
    {os : List Sent} (h : stepReceive setup m i chunk = some (m', os)) :
    ∃ r r' active radius soft, m.receives[i]? = some r ∧ r.pc ≠ .returned ∧
      m' = { m with
        activeTrajectory := active, geofenceRadius := radius, softGeofenceRadius := soft
        receives := m.receives.set i r' } := by
  simp only [stepReceive, Option.bind_eq_bind, Option.bind_eq_some_iff] at h
  obtain ⟨r, hr, ⟨m1, r'⟩, hstep, h⟩ := h
  obtain ⟨hlive, active, radius, soft, rfl⟩ : r.pc ≠ .returned ∧ ∃ active radius soft, m1 =
      { m with activeTrajectory := active, geofenceRadius := radius, softGeofenceRadius := soft } := by
    unfold receiveChunk at hstep
    split at hstep
    next hpc =>
      refine ⟨by simp [hpc], ?_⟩
      split at hstep
      · split at hstep
        · cases hstep; exact ⟨_, _, _, rfl⟩
        · cases hstep; exact acceptUpload_only ..
      · split at hstep <;> · cases hstep; exact ⟨_, _, _, rfl⟩
    next hpc =>
      refine ⟨by simp [hpc], ?_⟩
      cases hstep
      exact acceptUpload_only ..
    · cases hstep
  cases h
  exact ⟨r, r', active, radius, soft, hr, hlive, rfl⟩

end Taramandal.Gcs.Handlers
