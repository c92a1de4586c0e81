import Taramandal.Gcs.Handover

/-! # The record of a show

When the show was started, whether its task is alive, its saved file, and the
saved show that waits to be resumed. `step_record` says what every step of the
station does to these: most leave them alone, and the others do what
`stop_trajectory`, `start_trajectory`, the discard, the snapshot and the playback
task do. -/
namespace Taramandal.Gcs.ShowRecord

open Core.Shows Gcs.FleetFsm Gcs.Geofence Gcs.StartBridge Gcs.State Gcs.Playback
open Gcs.Emergency Gcs.Launch Gcs.Lifecycle Gcs.Staging Gcs.Handlers Gcs.Telemetry Gcs.Fleet
open Gcs.Handover

/-! ## The playback behind a stop and a start -/

/-- What `stop_trajectory` makes of the playback. -/
def stopPlayback (removal : Removal) (p : Playback) : Playback :=
  { p with
    onboardShowId := none
    isRunningTrajectory := false
    playingTrajectory := none
    startBridgeS := 0
    playbackStartTime := none
    isRecordingTelemetry := false
    snapshotting := false
    savedShow := (discardShowState removal p.savedShow).1
    trajectoryTask := if removal = .failed then p.trajectoryTask else none
    tasks := if removal = .failed then p.tasks else cancelled p }

lemma stopTrajectory_playback (faults : Faults) (m : DroneManager) :
    (stopTrajectory faults m).1 = { m with playback := stopPlayback faults.removal m.playback } := by
  unfold stopTrajectory
  cases hr : faults.removal <;> cases ht : m.playback.trajectoryTask <;>
    simp [stopPlayback, discardShowState, cancelled, ht]

def startPlayback (removal : Removal) (p : Playback) (now : ℚ) (plan : Plan ℚ) (bridgeS : ℚ)
    (req : StartRequest) : Playback :=
  { stopPlayback removal p with
    showMode := req.mode
    showStartedAt := some now
    startBridgeS := bridgeS
    playingTrajectory := some plan
    isRunningTrajectory := true
    isRecordingTelemetry := true
    snapshotting := true
    trajectoryTask := some p.tasks.length
    tasks := cancelled p ++
      [{ plan := plan, mode := req.mode, triggerEpochMs := req.triggerEpochMs
         onboard := req.execution = .onboard }] }

/-- What `start_trajectory` does: nothing, its stop, or a start. -/
inductive StartOutcome (setup : Setup) (faults : Faults) (trajectory : Show ℚ) (req : StartRequest)
    (m : DroneManager) : DroneManager × List Sent × Option String → Prop where
  | unplanned (e : String) (h : startPlan setup m trajectory req.execution = .error e) :
      StartOutcome setup faults trajectory req m (m, [], some e)
  | raised (sent : List Sent) (h : faults.removal = .failed) :
      StartOutcome setup faults trajectory req m
        ({ m with playback := stopPlayback .failed m.playback }, sent, some "OSError")
  | started (sent : List Sent) (plan : Plan ℚ) (bridgeS : ℚ) (h : faults.removal ≠ .failed)
      (hplan : startPlan setup m trajectory req.execution = .ok (plan, bridgeS)) :
      StartOutcome setup faults trajectory req m
        ({ m with
          activeTrajectory := some trajectory
          geofenceRadius := (applyGeofenceEnvelope trajectory).1
          softGeofenceRadius := (applyGeofenceEnvelope trajectory).2
          playback := startPlayback faults.removal m.playback m.time plan bridgeS req }, sent, none)

lemma startTrajectory_outcome (setup : Setup) (faults : Faults) (trajectory : Show ℚ)
    (req : StartRequest) (m : DroneManager) :
    StartOutcome setup faults trajectory req m (startTrajectory setup faults trajectory req m) := by
  have hstop := stopTrajectory_playback faults m
  have hraised := stopTrajectory_raised faults m
  unfold startTrajectory
  split
  next e h => exact .unplanned e h
  next plan bridgeS hplan =>
    generalize stopTrajectory faults m = r at hstop hraised
    obtain ⟨m1, sent, raised⟩ := r
    simp only at hstop hraised
    subst hstop
    cases raised with
    | true =>
      have hfailed := hraised.mp rfl
      rw [hfailed]
      exact .raised sent hfailed
    | false =>
      have hne : faults.removal ≠ .failed := fun h => by simpa using hraised.mpr h
      have h : StartOutcome setup faults trajectory req m _ := .started sent plan bridgeS hne hplan
      simpa [startPlayback, stopPlayback, hne] using h

/-! ## What a step does -/

/-- The removal of the saved-show file with which a label stops a show. -/
def stops (setup : Setup) (m : DroneManager) : Label → Option Removal
  | .api _ .stopTrajectory faults => if m.fsm.state = .running then some faults.removal else none
  | .api _ (.emergency _ _) faults => if setup.controllerMissing then none else some faults.removal
  | .failsafe _ faults => some faults.removal
  | .method .stopTrajectory faults => some faults.removal
  | .tick faults =>
    if m.fsm.state = .running ∧ armedIds m = [] ∧ launchInProgress m = false then
      some faults.removal
    else none
  -- a start stops the show before it, and goes no further if that raised
  | .api _ (.startTrajectory _) faults => if faults.removal = .failed then some .failed else none
  | .method (.startTrajectory _ _) faults => if faults.removal = .failed then some .failed else none
  | _ => none

/-- The removal with which a label resumes or discards the saved show. -/
def discards : Label → Option Removal
  | .api _ (.resumeShow _) faults => some faults.removal
  | .api _ .discardShow faults => some faults.removal
  | _ => none

/-- The saved show that waits and the clocks are as they were, and no show was
set running. -/
structure Beside (m m' : DroneManager) : Prop where
  pending : m'.pendingResumeState = m.pendingResumeState
  time : m'.time = m.time
  monotonic : m'.monotonic = m.monotonic
  running : m'.fsm.state = .running → m.fsm.state = .running

/-- A step of the station, by what it does to the record of the show. -/
inductive RecordStep (setup : Setup) (m : DroneManager) : Label → DroneManager → Prop where
  | kept {l m'} (starts : startsShow setup m l = false) (playback : m'.playback = m.playback)
      (beside : Beside m m') : RecordStep setup m l m'
  | stopped {l m' removal} (starts : startsShow setup m l = false)
      (stops : stops setup m l = some removal)
      (playback : m'.playback = stopPlayback removal m.playback) (beside : Beside m m') :
      RecordStep setup m l m'
  | started {l m' removal trajectory req plan bridgeS} (starts : startsShow setup m l = true)
      (removed : removal ≠ Removal.failed)
      (planned : startPlan setup m trajectory req.execution = .ok (plan, bridgeS))
      (playback : m'.playback = startPlayback removal m.playback m.time plan bridgeS req)
      (pending : m'.pendingResumeState = m.pendingResumeState) (time : m'.time = m.time)
      (monotonic : m'.monotonic = m.monotonic) : RecordStep setup m l m'
  | discarded {l m' removal mode} (discards : discards l = some removal)
      (playback : m'.playback = { m.playback with
        showMode := mode, savedShow := (discardShowState removal m.playback.savedShow).1 })
      (pending : m'.pendingResumeState = none) (time : m'.time = m.time)
      (monotonic : m'.monotonic = m.monotonic) (state : m'.fsm = m.fsm) : RecordStep setup m l m'
  | snapshot {faults saved} (alive : m.playback.snapshotting = true)
      (startedAt : m.playback.showStartedAt.isSome = true) :
      RecordStep setup m (.snapshot faults)
        { m with playback := { m.playback with savedShow := some saved } }
  | task {i faults m' os} (h : stepTask m i faults = some (m', os)) :
      RecordStep setup m (.playback i faults) m'
  | setpoint {i k reply t sends} (task : m.playback.tasks[i]? = some t) :
      RecordStep setup m (.setpoint i k reply) (setTask m i { t with sends := sends })
  | clock {elapsed time} (elapsed_nonneg : 0 ≤ elapsed) : RecordStep setup m (.clock elapsed time)
      { m with monotonic := m.monotonic + elapsed, time := time }

lemma Beside.refl (m : DroneManager) : Beside m m := ⟨rfl, rfl, rfl, id⟩

variable {m m' : DroneManager}

lemma auditOnly_beside (h : AuditOnly m m') : m'.playback = m.playback ∧ Beside m m' := by
  obtain ⟨f, auditFile, rfl, hf⟩ := h
  exact ⟨rfl, rfl, rfl, rfl, fun hrun => hf ▸ hrun⟩

variable {faults : Faults} {l : Label} {setup : Setup}

variable {req : StartRequest} {p : Playback}

lemma start_record {trajectory : Show ℚ} {f : FleetStateMachine}
    {auditFile : List AuditEntry} (hstarts : startsShow setup m l = true ↔
      (startPlan setup m trajectory req.execution).toBool = true ∧ faults.removal ≠ .failed)
    (hstops : faults.removal = .failed → stops setup m l = some .failed)
    (hm' : m' = { (startTrajectory setup faults trajectory req m).1 with
      fsm := f, auditFile := auditFile })
    (hrun : (startTrajectory setup faults trajectory req m).2.2 ≠ none →
      f.state = .running → m.fsm.state = .running) : RecordStep setup m l m' := by
  have hout := startTrajectory_outcome setup faults trajectory req m
  generalize startTrajectory setup faults trajectory req m = r at hm' hout hrun
  cases hout with
  | unplanned e h =>
    rw [h] at hstarts
    exact .kept (by simpa [Except.toBool] using hstarts) (by rw [hm'])
      ⟨by rw [hm'], by rw [hm'], by rw [hm'], by rw [hm']; exact hrun (by simp)⟩
  | raised sent h =>
    refine .stopped (by simpa [h] using hstarts) (hstops h) (by rw [hm']) ⟨?_, ?_, ?_, ?_⟩ <;> rw [hm']
    exact hrun (by simp)
  | started sent plan bridgeS h hplan =>
    have hyes : startsShow setup m l = true := hstarts.mpr ⟨by rw [hplan]; rfl, h⟩
    exact .started hyes h hplan (by rw [hm']) (by rw [hm']) (by rw [hm']) (by rw [hm'])

lemma startTrajectory_fsm (setup : Setup) (faults : Faults) (trajectory : Show ℚ)
    (req : StartRequest) (m : DroneManager) :
    (startTrajectory setup faults trajectory req m).1.fsm = m.fsm := by
  have hout := startTrajectory_outcome setup faults trajectory req m
  generalize startTrajectory setup faults trajectory req m = r at hout
  cases hout <;> rfl

lemma own_fsm (m : DroneManager) : m = { m with fsm := m.fsm, auditFile := m.auditFile } := rfl

lemma startShow_ok {operator : String}
    (h : startsShow setup m (.api operator (.startTrajectory req) faults) = true) :
    (startShow setup m faults operator req).2.2 = .ok := by
  simp only [startsShow, Bool.and_eq_true, Bool.not_eq_true', decide_eq_true_eq,
    Option.any_eq_true] at h
  obtain ⟨⟨⟨⟨hblocked, hfailures⟩, hhold⟩, trajectory, hload, hplan⟩, hremoval⟩ := h
  have hcheck : m.fsm.check .startTrajectory = .ok () := by
    simp [FleetStateMachine.check, hhold, commandRules]
  have hfsm := startTrajectory_fsm setup faults trajectory req m
  have hout := startTrajectory_outcome setup faults trajectory req m
  simp only [startShow, hblocked, hfailures, checked, hcheck, hload]
  generalize startTrajectory setup faults trajectory req m = r at hfsm hout
  cases hout with
  | unplanned e h => rw [h] at hplan; cases hplan
  | raised sent h => exact absurd h hremoval
  | started sent plan bridgeS hne hplanned =>
    have happly := m.fsm.apply_of_allowed (c := .startTrajectory) operator
      "POST /api/start-trajectory" m.time (by rw [hhold]; decide) rfl
    simp [applied, happly]

lemma startShow_record (setup : Setup) (m : DroneManager) (operator : String) (faults : Faults)
    (req : StartRequest) :
    RecordStep setup m (.api operator (.startTrajectory req) faults)
      (startShow setup m faults operator req).1 := by
  have hstops : ∀ o r, faults.removal = .failed →
      stops setup m (.api o (.startTrajectory r) faults) = some .failed := fun _ _ h => by
    simp [stops, h]
  rcases startShow_cases setup m faults operator req with
    h | ⟨hhold, hfailures, hblocked, trajectory, hload, hcases⟩
  · -- a start that was refused met one of the conditions of `startsShow`
    have hnot : startsShow setup m (.api operator (.startTrajectory req) faults) = false := by
      rw [← Bool.not_eq_true]
      exact fun hyes => h.response (startShow_ok hyes)
    obtain ⟨hplayback, hbeside⟩ := auditOnly_beside h.audit
    exact .kept hnot hplayback hbeside
  · have hstarts : startsShow setup m (.api operator (.startTrajectory req) faults) = true ↔
        (startPlan setup m trajectory req.execution).toBool = true ∧ faults.removal ≠ .failed := by
      simp [startsShow, hblocked, hfailures, hhold, hload]
    rcases hcases with ⟨e, hraised, h⟩ | ⟨hok, f, auditFile, -, h⟩
    · have hfsm := startTrajectory_fsm setup faults trajectory req m
      rw [h]
      refine start_record hstarts (hstops operator req) (own_fsm _) fun _ hrun => ?_
      rwa [hfsm] at hrun
    · exact start_record hstarts (hstops operator req) h fun h' => absurd hok h'

lemma stopShow_record (setup : Setup) (m : DroneManager) (operator : String) (faults : Faults) :
    RecordStep setup m (.api operator .stopTrajectory faults) (stopShow m faults operator).1 := by
  rcases stopShow_cases m faults operator with h | ⟨hrun, f, auditFile, -, h⟩
  · obtain ⟨hplayback, hbeside⟩ := auditOnly_beside h.audit
    exact .kept rfl hplayback hbeside
  · rw [h, stopTrajectory_playback]
    exact .stopped rfl (by simp [stops, hrun]) rfl ⟨rfl, rfl, rfl, fun _ => hrun⟩

section

variable (m : DroneManager)

lemma emergency_playback (faults : Faults) (mode : AbortMode) (operator trigger : String) :
    (emergency m faults mode operator trigger).1.playback = stopPlayback faults.removal m.playback ∧
      Beside m (emergency m faults mode operator trigger).1 := by
  have hstop := stopTrajectory_playback faults
    (m.moveFsm faults.auditWrite (m.fsm.enter (emergencyState mode) operator trigger m.time))
  have hstate : (m.fsm.enter (emergencyState mode) operator trigger m.time).state ≠ .running := by
    cases mode <;> simp [FleetStateMachine.enter, emergencyState]
  simp only [emergency, triggerEmergency, apply_emergencyCommand]
  generalize stopTrajectory faults _ = r at hstop ⊢
  obtain ⟨m1, sent, raised⟩ := r
  simp only at hstop
  subst hstop
  cases raised <;> exact ⟨rfl, rfl, rfl, rfl, fun h => absurd h hstate⟩

lemma moveTo_playback (faults : Faults)
    (r : Except FsmError FleetStateMachine) : (moveTo m faults r).playback = m.playback := by
  rcases moveTo_cases m faults r with h | ⟨f, -, h⟩
  · rw [h]
  · rw [h]
    rfl

lemma advanceTo_playback (faults : Faults) (target : LifecycleState)
    (trigger : String) : (advanceTo m faults target trigger).playback = m.playback :=
  moveTo_playback ..

lemma climbsChecked_playback : (climbsChecked m).playback = m.playback := by
  obtain ⟨launch, h, -⟩ := climbsChecked_only m
  rw [h]

section

variable (faults : Faults)

lemma tickPrearm_playback (launching : Bool) :
    (tickPrearm m faults launching).playback = m.playback := by
  unfold tickPrearm
  split
  · exact advanceTo_playback ..
  · split
    · exact advanceTo_playback ..
    · rfl

lemma tickArmed_playback : (tickArmed m faults).playback = m.playback := by
  unfold tickArmed
  split
  · exact advanceTo_playback ..
  · rfl

lemma tickTakeoff_playback (launching : Bool) :
    (tickTakeoff m faults launching).playback = m.playback := by
  unfold tickTakeoff
  split
  · exact advanceTo_playback m faults _ _
  · rfl

lemma tickDisarmed_playback : (tickDisarmed m faults).1.playback =
      if m.fsm.state = .running then stopPlayback faults.removal m.playback else m.playback := by
  have hstop := stopTrajectory_playback faults m
  unfold tickDisarmed
  dsimp only
  split
  · generalize stopTrajectory faults m = r at hstop ⊢
    obtain ⟨m1, sent, raised⟩ := r
    simp only at hstop
    subst hstop
    cases raised with
    | true => rfl
    | false => exact moveTo_playback ..
  · exact moveTo_playback ..

end

end

lemma evaluateLifecycle_playback (setup : Setup) (m : DroneManager) (faults : Faults) :
    (stops setup m (.tick faults) = none ∧ (evaluateLifecycle m faults).1.playback = m.playback) ∨
    (stops setup m (.tick faults) = some faults.removal ∧
      (evaluateLifecycle m faults).1.playback = stopPlayback faults.removal m.playback) := by
  unfold evaluateLifecycle
  dsimp only
  split
  next hover =>
    simp only [Bool.and_eq_true, Bool.not_eq_true', List.isEmpty_iff] at hover
    obtain ⟨⟨-, hground⟩, hidle⟩ := hover
    rw [tickDisarmed_playback]
    split
    next hrun => exact .inr ⟨by simp [stops, hrun, hground, hidle], rfl⟩
    next hrun => exact .inl ⟨by simp [stops, hrun], rfl⟩
  next hgoing =>
    refine .inl ⟨?_, ?_⟩
    · simp only [stops, ite_eq_right_iff, reduceCtorEq, imp_false]
      rintro ⟨hrun, hground, hidle⟩
      exact hgoing (by simp [hrun, hground, hidle, airborneStates])
    · rw [← climbsChecked_playback m]
      split
      · exact tickPrearm_playback ..
      · exact tickArmed_playback ..
      · exact tickTakeoff_playback ..
      · rfl

lemma tick_record (setup : Setup) (m : DroneManager) (faults : Faults) :
    RecordStep setup m (.tick faults) (evaluateLifecycle m faults).1 := by
  have hticked := evaluateLifecycle_ticked m faults
  have hbeside : Beside m (evaluateLifecycle m faults).1 := by
    have hrun : (evaluateLifecycle m faults).1.fsm.state = .running → m.fsm.state = .running := by
      intro h
      rcases hticked.move with hmove | ⟨-, hmove⟩ | ⟨-, hmove⟩ | ⟨-, hmove | ⟨-, hmove⟩ | ⟨-, hmove, -⟩⟩
      · rwa [hmove] at h
      all_goals rw [hmove] at h; cases h
    obtain ⟨_, _, _, _, hm'⟩ := hticked.frame
    exact ⟨by rw [hm'], by rw [hm'], by rw [hm'], hrun⟩
  rcases evaluateLifecycle_playback setup m faults with ⟨-, h⟩ | ⟨hstops, h⟩
  · exact .kept rfl h hbeside
  · exact .stopped rfl hstops h hbeside

lemma discardSaved_record (active : Option (Show ℚ)) (mode : String)
    (hl : discards l = some faults.removal) (hm' : m' = (discardSaved { m with
      activeTrajectory := active, playback := { m.playback with showMode := mode } } faults).1) :
    RecordStep setup m l m' := by
  subst hm'
  exact .discarded hl rfl rfl rfl rfl rfl

section

variable (setup : Setup) (m : DroneManager) (operator : String) (faults : Faults)

lemma resumeShow_record (gated : Except String (Show ℚ)) :
    RecordStep setup m (.api operator (.resumeShow gated) faults)
      (resumeShow setup m faults operator gated).1 := by
  unfold resumeShow
  split
  · exact .kept rfl rfl (.refl m)
  · split
    · exact .kept rfl rfl (.refl m)
    · rcases checked_cases m faults .resumeShow operator "POST /api/resume-show" _ with h | ⟨-, h⟩
      · obtain ⟨hplayback, hbeside⟩ := auditOnly_beside h.audit
        exact .kept rfl hplayback hbeside
      · rw [h]
        split
        · exact .kept rfl rfl (.refl m)
        · exact .kept rfl rfl (.refl m)
        · exact discardSaved_record _ _ rfl rfl

lemma discardShow_record :
    RecordStep setup m (.api operator .discardShow faults) (discardShow m faults operator).1 := by
  unfold discardShow
  split
  · exact .kept rfl rfl (.refl m)
  · rcases checked_cases m faults .discardShow operator "POST /api/discard-show" _ with h | ⟨-, h⟩
    · obtain ⟨hplayback, hbeside⟩ := auditOnly_beside h.audit
      exact .kept rfl hplayback hbeside
    · rw [h]
      exact discardSaved_record m.activeTrajectory m.playback.showMode rfl rfl

lemma handle_record (r : Request) :
    RecordStep setup m (.api operator r faults) (handle setup m operator faults r).1 := by
  have haudit : ∀ {h : Handled}, startsShow setup m (.api operator r faults) = false →
      Refused m h → RecordStep setup m (.api operator r faults) h.1 := fun hnot h =>
    .kept hnot (auditOnly_beside h.audit).1 (auditOnly_beside h.audit).2
  cases r with
  | launch decision =>
    rcases launchFleet_cases setup m faults operator decision with
      h | ⟨droneIds, ekf, f, auditFile, -, -, hf, h⟩
    · exact haudit rfl h
    · obtain ⟨launch, hlaunch⟩ := startLaunch_only { m with fsm := f, auditFile := auditFile }
        (some droneIds) ekf true
      simp only [handle, h, hlaunch]
      exact .kept rfl rfl ⟨rfl, rfl, rfl, fun h => by simp [hf] at h⟩
  | startTrajectory req => exact startShow_record ..
  | stopTrajectory => exact stopShow_record ..
  | emergency mode trigger =>
    simp only [handle]
    split
    · exact .kept rfl rfl (.refl m)
    next hctrl =>
      obtain ⟨hplayback, hbeside⟩ := emergency_playback m faults mode operator trigger
      exact .stopped rfl (by simp [stops, hctrl]) hplayback hbeside
  | abort d mode =>
    simp only [handle]
    split
    · exact .kept rfl rfl (.refl m)
    · rcases abortDrone_cases m d mode with h | ⟨_, _, -, -, h⟩
      · exact haudit rfl h
      · rw [h]
        exact .kept rfl rfl ⟨rfl, rfl, rfl, id⟩
  | uploadTrajectory filename signed contentLength =>
    rcases uploadTrajectory_cases m faults operator filename signed contentLength with
      h | ⟨-, _, h⟩
    · exact haudit rfl h
    · simp only [handle, h]
      exact .kept rfl rfl ⟨rfl, rfl, rfl, id⟩
  | uploadMission =>
    rcases uploadMissions_cases setup m faults operator with h | ⟨-, trajectory, -, h⟩
    · exact haudit rfl h
    · obtain ⟨_, _, hm'⟩ := uploadShow_only setup m trajectory
      simp only [handle, h, hm']
      exact .kept rfl rfl ⟨rfl, rfl, rfl, id⟩
  | resumeShow gated => exact resumeShow_record ..
  | discardShow => exact discardShow_record ..

end

lemma call_record (setup : Setup) (m : DroneManager) (faults : Faults) (c : Method) :
    RecordStep setup m (.method c faults) (call setup m faults c).1 := by
  cases c with
  | launchSequence droneIds ekf wrapped =>
    obtain ⟨_, hlaunch⟩ := startLaunch_only m droneIds ekf wrapped
    simp only [call, hlaunch]
    exact .kept rfl rfl ⟨rfl, rfl, rfl, id⟩
  | startTrajectory trajectory req =>
    refine start_record (by simp [startsShow]) (fun h => by simp [stops, h]) (own_fsm _)
      fun _ hrun => ?_
    rwa [startTrajectory_fsm] at hrun
  | stopTrajectory =>
    simp only [call, stopTrajectory_playback]
    exact .stopped rfl rfl rfl ⟨rfl, rfl, rfl, id⟩
  | uploadShow trajectory =>
    obtain ⟨_, _, hm'⟩ := uploadShow_only setup m trajectory
    simp only [call, hm']
    exact .kept rfl rfl ⟨rfl, rfl, rfl, id⟩

variable {os : List Sent}

lemma snapshot_record (h : writeSnapshot m faults = some (m', os)) :
    RecordStep setup m (.snapshot faults) m' := by
  unfold writeSnapshot at h
  split at h
  next halive =>
    split at h
    next trajectory startedAt _ hstarted =>
      split at h
      · cases h; exact .kept rfl rfl (.refl m)
      · cases h; exact .snapshot halive (by rw [hstarted]; rfl)
    · cases h; exact .kept rfl rfl (.refl m)
  · cases h

lemma step_record (h : step setup m l = some (m', os)) : RecordStep setup m l m' := by
  cases l with
  | api operator r faults => cases h; exact handle_record ..
  | method c faults =>
    have hm' : (call setup m faults c).1 = m' := congrArg Prod.fst (Option.some.inj h)
    rw [← hm']
    exact call_record ..
  | failsafe trigger faults =>
    cases h
    obtain ⟨hplayback, hbeside⟩ := emergency_playback m faults .rtl systemOperator trigger
    exact .stopped rfl rfl hplayback hbeside
  | tick faults =>
    have hm' : (evaluateLifecycle m faults).1 = m' := congrArg Prod.fst (Option.some.inj h)
    rw [← hm']
    exact tick_record ..
  | sequence i =>
    obtain ⟨_, rfl⟩ := (stepSequence_stepped h).1.frame
    exact .kept rfl rfl ⟨rfl, rfl, rfl, id⟩
  | drone i j reply =>
    obtain ⟨_, _, _, _, _, _, -, -, -, hstepped, rfl⟩ := stepDrone_some h
    rcases hstepped.frame with ⟨_, rfl, -⟩ | ⟨-, rfl⟩ <;> exact .kept rfl rfl ⟨rfl, rfl, rfl, id⟩
  | recovery k reply =>
    obtain ⟨_, rfl⟩ := stepRecovery_some h
    exact .kept rfl rfl ⟨rfl, rfl, rfl, id⟩
  | command k reply =>
    obtain ⟨_, -, hm'⟩ := Option.map_eq_some_iff.mp h
    cases hm'
    exact .kept rfl rfl ⟨rfl, rfl, rfl, id⟩
  | playback i faults => exact .task h
  | setpoint i k reply =>
    obtain ⟨_, _, ht, rfl⟩ := stepSend_some h
    exact .setpoint ht
  | snapshot faults => exact snapshot_record h
  | receive i chunk =>
    obtain ⟨_, _, _, _, _, -, -, rfl⟩ := stepReceive_some h
    exact .kept rfl rfl ⟨rfl, rfl, rfl, id⟩
  | transfer u k reply =>
    obtain ⟨_, _, rfl⟩ := stepTransfer_only h
    exact .kept rfl rfl ⟨rfl, rfl, rfl, id⟩
  | telemetry d ev =>
    simp only [step] at h
    split at h
    · cases h
      obtain ⟨_, _, hm'⟩ := (telemetryStep_frame m d ev).rest
      rw [hm']
      exact .kept rfl rfl ⟨rfl, rfl, rfl, id⟩
    · cases h
  | clock elapsed time =>
    simp only [step] at h
    split at h
    next hnonneg => cases h; exact .clock hnonneg
    · cases h
  | bench droneIds => cases h; exact .kept rfl rfl ⟨rfl, rfl, rfl, id⟩

/-! ## The playback task -/

/-- A task leaves alone when the show was started, its transition leg, which
task is the manager's, the saved show that waits, and the clocks. -/
structure TaskKept (m m' : DroneManager) : Prop where
  startedAt : m'.playback.showStartedAt = m.playback.showStartedAt
  bridge : m'.playback.startBridgeS = m.playback.startBridgeS
  task : m'.playback.trajectoryTask = m.playback.trajectoryTask
  snapshotting : m'.playback.snapshotting = true → m.playback.snapshotting = true
  pending : m'.pendingResumeState = m.pendingResumeState
  time : m'.time = m.time
  monotonic : m'.monotonic = m.monotonic

lemma finishLoop_kept (m : DroneManager) (i : Nat) (t : PlaybackTask) (cancelled completed : Bool)
    (faults : Faults) : TaskKept m (finishLoop m i t cancelled completed faults) := by
  unfold finishLoop
  cases cancelled with
  | true => exact ⟨rfl, rfl, rfl, id, rfl, rfl, rfl⟩
  | false =>
    simp only [Bool.false_eq_true, if_false, concludePlayback]
    split
    · exact ⟨rfl, rfl, rfl, fun h => (by cases h), rfl, rfl, rfl⟩
    · split <;> exact ⟨rfl, rfl, rfl, fun h => (by cases h), rfl, rfl, rfl⟩

variable {i : Nat}

lemma stepTask_kept (h : stepTask m i faults = some (m', os)) : TaskKept m m' := by
  obtain ⟨_, -, -, hend, -⟩ := stepTask_end h
  cases hend with
  | rests t touched =>
    obtain ⟨⟨_, _, _, rfl⟩, -⟩ := touched
    exact ⟨rfl, rfl, rfl, id, rfl, rfl, rfl⟩
  | leaves t cancelled completed faults touched =>
    obtain ⟨⟨_, _, _, rfl⟩, -⟩ := touched
    obtain ⟨h1, h2, h3, h4, h5, h6, h7⟩ := finishLoop_kept _ i t cancelled completed faults
    exact ⟨h1, h2, h3, h4, h5, h6, h7⟩

lemma deliverCancel_saved (m : DroneManager) (i : Nat) (t : PlaybackTask) (faults : Faults) :
    (deliverCancel m i t faults).playback.savedShow = m.playback.savedShow := by
  unfold deliverCancel finishLoop
  split <;> rfl

def CancelledBut (one : Option Nat) (tasks : List PlaybackTask) : Prop :=
  ∀ i t, tasks[i]? = some t → t.pc ≠ .finished → one ≠ some i → t.cancelRequested = true

variable {one : Option Nat}

lemma CancelledBut.of_none {tasks : List PlaybackTask} (h : CancelledBut none tasks) :
    CancelledBut one tasks :=
  fun i t ht hlive _ => h i t ht hlive (by simp)

lemma cancelledBut_nil (one : Option Nat) : CancelledBut one [] := fun i t ht => by simp at ht

lemma CancelledBut.set {tasks : List PlaybackTask} (h : CancelledBut one tasks)
    {t t' : PlaybackTask} (ht : tasks[i]? = some t)
    (hkeep : t'.pc ≠ .finished → t.pc ≠ .finished ∧ t'.cancelRequested = t.cancelRequested) :
    CancelledBut one (tasks.set i t') := by
  intro k u hu hlive hk
  rw [List.getElem?_set] at hu
  split at hu
  next hik =>
    subst hik
    split at hu
    · cases hu
      obtain ⟨hbefore, hc⟩ := hkeep hlive
      rw [hc]
      exact h i t ht hbefore hk
    · cases hu
  next => exact h k u hu hlive hk

lemma cancelled_or_kept {i : Nat} {t : PlaybackTask} (ht : (cancelled p)[i]? = some t)
    (hlive : t.pc ≠ .finished) :
    t.cancelRequested = true ∨ p.tasks[i]? = some t ∧ p.trajectoryTask ≠ some i := by
  unfold Playback.cancelled at ht
  split at ht
  next htask => exact .inr ⟨ht, by rw [htask]; nofun⟩
  next j htask =>
    rw [List.getElem?_modify] at ht
    obtain ⟨u, hu, rfl⟩ := Option.map_eq_some_iff.mp ht
    by_cases hj : j = i
    · rw [if_pos hj, cancel_pc] at hlive
      rw [if_pos hj]
      exact .inl (cancel_requested hlive)
    · rw [if_neg hj]
      exact .inr ⟨hu, by rw [htask]; simpa using hj⟩

lemma CancelledBut.cancelled (h : CancelledBut p.trajectoryTask p.tasks) :
    CancelledBut none (cancelled p) := fun i t ht hlive _ =>
  (cancelled_or_kept ht hlive).elim id fun hkept => h i t hkept.1 hlive hkept.2

lemma CancelledBut.stop (h : CancelledBut one p.tasks) :
    CancelledBut one (Playback.cancelled p) := fun i t ht hlive hi =>
  (cancelled_or_kept ht hlive).elim id fun hkept => h i t hkept.1 hlive hi

lemma CancelledBut.task (h : CancelledBut one m.playback.tasks)
    (hs : stepTask m i faults = some (m', os)) : CancelledBut one m'.playback.tasks := by
  obtain ⟨t, ht, hlive, hstepped, -⟩ := stepTask_stepped hs
  obtain ⟨t', htasks, hown⟩ := hstepped.own
  rw [htasks]
  exact h.set ht fun hgoing => ⟨hlive, (hown.resolve_left hgoing).1⟩

/-- Whatever is stopped and started, no task but the manager's is alive and not
cancelled. -/
lemma RecordStep.cancelledBut (h : CancelledBut m.playback.trajectoryTask m.playback.tasks)
    (hs : RecordStep setup m l m') :
    CancelledBut m'.playback.trajectoryTask m'.playback.tasks := by
  cases hs with
  | kept _ hp => rw [hp]; exact h
  | stopped _ _ hp =>
    rw [hp]
    simp only [stopPlayback]
    split
    · exact h
    · exact h.cancelled
  | started _ _ _ hp =>
    rw [hp]
    intro i t ht hlive hne
    rcases Nat.lt_or_ge i (Playback.cancelled m.playback).length with hlt | hge
    · exact h.cancelled i t (by rwa [startPlayback, List.getElem?_append_left hlt] at ht) hlive
        (by simp)
    · have hlast : m.playback.tasks.length ≠ i := fun hi => hne (congrArg some hi)
      rw [length_cancelled] at hge
      rw [startPlayback, List.getElem?_eq_none (by simp; omega)] at ht
      cases ht
  | discarded _ hp => rw [hp]; exact h
  | snapshot => exact h
  | task hstep =>
    rw [(stepTask_kept hstep).task]
    exact h.task hstep
  | setpoint htask => exact h.set htask fun hlive => ⟨hlive, rfl⟩
  | clock => exact h

end Taramandal.Gcs.ShowRecord
