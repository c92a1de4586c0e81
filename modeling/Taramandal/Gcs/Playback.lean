import Taramandal.Gcs.State
import Taramandal.Lib.Run

/-! # Starting, playing and stopping a show (`drone_manager.py`)

`start_trajectory`, `stop_trajectory`, the playback task from one await to the
next, the setpoints of a tick, and the snapshots of the saved show. A cancelled
task is only marked here; what it still does when the cancellation reaches it
depends on the await it was suspended at (`deliverCancel`). -/
namespace Taramandal.Gcs.Playback

open Lib.Dict Core.Values Core.Geometry Core.Shows Core.Safety Core.Validate Core.Mission
open Gcs.FleetFsm Gcs.StartBridge Gcs.Geofence Gcs.State

/-- `discard_show_state`: the file after it, and whether it raised. Only a
missing file is taken care of. -/
def discardShowState (removal : Removal) (saved : Option SavedShow) : Option SavedShow × Bool :=
  match removal with
  | .removed => (none, false)
  | .notFound => (saved, false)
  | .failed => (saved, true)

/-- The CANCEL frame of an onboard show; a broadcast that raises is logged. -/
def cancelFrame (faults : Faults) : Option ShowId → List Sent
  | none => []
  | some showId =>
    match encodeShowTrigger .cancel showId 0 with
    | .ok frame => if faults.broadcast then [] else [.broadcast frame]
    | .error _ => []

/-- `Task.cancel` on a playback task. A tick's setpoints go with it. -/
def PlaybackTask.cancel (t : PlaybackTask) : PlaybackTask :=
  if t.pc = .finished then t else { t with cancelRequested := true, sends := [] }

/-- `stop_trajectory`, and whether it raised. -/
def stopTrajectory (faults : Faults) (m : DroneManager) : DroneManager × List Sent × Bool :=
  let saved := discardShowState faults.removal m.playback.savedShow
  let stopped : Playback :=
    { m.playback with
      onboardShowId := none
      isRunningTrajectory := false
      playingTrajectory := none
      startBridgeS := 0
      playbackStartTime := none
      isRecordingTelemetry := false
      snapshotting := false
      savedShow := saved.1 }
  let sent := cancelFrame faults m.playback.onboardShowId
  if saved.2 then ({ m with playback := stopped }, sent, true)
  else
    match m.playback.trajectoryTask with
    | none => ({ m with playback := stopped }, sent, false)
    | some i =>
      ({ m with playback :=
          { stopped with
            trajectoryTask := none
            tasks := stopped.tasks.modify i PlaybackTask.cancel } }, sent, false)

/-! ## Starting -/

inductive ExecutionMode where
  | onboard | streamed
  deriving DecidableEq

structure StartRequest where
  mode : String
  triggerEpochMs : ℚ
  execution : ExecutionMode

def onboardShowPlan (setup : Setup) (m : DroneManager) (trajectory : Show ℚ) :
    Except String (Plan ℚ) :=
  if !setup.broadcastTransmit then
    .error ("Onboard execution needs a broadcast radio and drone firmware with an onboard " ++
      "show executor; the " ++ setup.backend ++ " backend has neither (stock PX4 cannot fly a " ++
      "timed trajectory from storage). Use execution='streamed' for PX4 SITL development.")
  else
    match m.stagedShow with
    | none => .error notUploaded
    | some staged =>
      match computeShowId setup.sha256 trajectory with
      | .error e => .error e.text
      | .ok showId =>
        if showId ≠ staged.showId then .error notUploaded
        else
          let verified := staged.drones.filter fun e => e.2.status = .verified
          if verified = [] then
            .error "No drone holds a verified mission for this show. Upload it again."
          else .ok (verified.map fun e => (e.1, (find staged.trajectory e.1).getD []))
where
  notUploaded : String :=
    "This trajectory has not been uploaded to the fleet. Upload it " ++
      "(POST /api/upload-mission) before starting the show."

/-- Where each drone holds: only drones that report, and report their position. -/
def holdPositions (m : DroneManager) : Dict Nat (Point ℚ) :=
  m.drones.filterMap fun d =>
    let tel := m.telemetry d
    if m.isHeartbeatFresh tel && tel.positionAt.any fun at_ => m.time - at_ ≤ heartbeatStaleS then
      some (d, (tel.fleetX, tel.fleetY, -tel.fleetZ))
    else none

/-- What a start will play, and how long its transition leg is. -/
def startPlan (setup : Setup) (m : DroneManager) (trajectory : Show ℚ) :
    ExecutionMode → Except String (Plan ℚ × ℚ)
  | .onboard => (onboardShowPlan setup m trajectory).map fun plan => (plan, 0)
  | .streamed =>
    buildStartBridge setup.tree (remapTrajectoryToHealthyDrones trajectory m.health)
      (holdPositions m) setup.startBridgePeakSpeedMs

/-- `start_trajectory`, and the error it raised. A start that cannot be planned
changes nothing; one whose `stop_trajectory` raises has stopped the old show. -/
def startTrajectory (setup : Setup) (faults : Faults) (trajectory : Show ℚ) (req : StartRequest)
    (m : DroneManager) : DroneManager × List Sent × Option String :=
  match startPlan setup m trajectory req.execution with
  | .error e => (m, [], some e)
  | .ok (plan, bridgeS) =>
    match stopTrajectory faults m with
    | (m, sent, true) => (m, sent, some "OSError")
    | (m, sent, false) =>
      ({ m with
        activeTrajectory := some trajectory
        geofenceRadius := (applyGeofenceEnvelope trajectory).1
        softGeofenceRadius := (applyGeofenceEnvelope trajectory).2
        playback :=
          { m.playback with
            showMode := req.mode
            showStartedAt := some m.time
            startBridgeS := bridgeS
            playingTrajectory := some plan
            isRunningTrajectory := true
            isRecordingTelemetry := true
            snapshotting := true
            trajectoryTask := some m.playback.tasks.length
            tasks := m.playback.tasks ++
              [{ plan := plan, mode := req.mode, triggerEpochMs := req.triggerEpochMs
                 onboard := req.execution = .onboard }] } }, sent, none)

/-! ## The playback task -/

def triggerLeadS : ℚ := 1

/-- Inside the `try` of `_run_trajectory_loop`. -/
def PlaybackPc.inLoop : PlaybackPc → Bool
  | .sending => true
  | .sleeping => true
  | _ => false

def setTask (m : DroneManager) (i : Nat) (t : PlaybackTask) : DroneManager :=
  { m with playback := { m.playback with tasks := m.playback.tasks.set i t } }

/-- The part of the `finally` block that runs however playback ended. -/
def clearPlayback (onboard : Bool) (m : DroneManager) : DroneManager :=
  { m with
    telemetry := fun d => { m.telemetry d with plannedValid := false }
    playback :=
      { m.playback with
        isRunningTrajectory := false
        onboardShowId := if onboard then none else m.playback.onboardShowId
        isRecordingTelemetry := false } }

def endOfShow (completed : Bool) : LifecycleState × String :=
  if completed then (.showComplete, "trajectory_complete") else (.formationHold, "trajectory_error")

/-- The part that runs only when the loop was not cancelled. A file that cannot
be removed raises before the lifecycle hears of the end. -/
def concludePlayback (completed : Bool) (faults : Faults) (m : DroneManager) : DroneManager :=
  let saved := discardShowState faults.removal m.playback.savedShow
  let m := { m with playback :=
    { m.playback with playbackStartTime := none, snapshotting := false, savedShow := saved.1 } }
  if saved.2 then m
  else
    match m.fsm.advance .running (endOfShow completed).1 (endOfShow completed).2 m.time with
    | .ok f => m.moveFsm faults.auditWrite f
    | .error _ => m

/-- The `finally` block, and the end of the task. -/
def finishLoop (m : DroneManager) (i : Nat) (t : PlaybackTask) (cancelled completed : Bool)
    (faults : Faults) : DroneManager :=
  let m := clearPlayback t.onboard (setTask m i { t with pc := .finished })
  if cancelled then m else concludePlayback completed faults m

def tickTarget (m : DroneManager) (plan : Plan ℚ) (elapsed : ℚ) (d : Nat) : Option (Waypoint ℚ) :=
  match find plan d with
  | none => none
  | some wps =>
    if !(m.telemetry d).connected || m.isAborted d then none else interpolateWaypoint wps elapsed

/-- The commanded point, published beside the measured one. -/
def publish (tel : Telemetry) (target : Waypoint ℚ) : Telemetry :=
  { tel with plannedX := target.x, plannedY := target.y, plannedZ := -target.z, plannedValid := true }

/-- The setpoint of one drone: in GLOBAL mode only once its home is known. -/
def setpointOf (m : DroneManager) (mode : String) (d : Nat) (target : Waypoint ℚ) :
    Except String (Option VehicleCall) :=
  match padOffset d with
  | .error e => .error e
  | .ok (padX, padY) =>
    let tel := m.telemetry d
    if mode.toUpper = "GLOBAL" then
      if tel.homeLat = 0 ∧ tel.homeLon = 0 then .ok none
      else .ok (some (.setPositionGlobal (target.x - padX) (target.y - padY) tel.homeLat tel.homeLon
        (-target.z) target.yaw))
    else .ok (some (.setPositionVelocityAccelerationNed (target.x - padX) (target.y - padY) target.z
      target.yaw (target.vx.getD 0, target.vy.getD 0, target.vz.getD 0)))

/-- One drone of a tick: what is published, and the setpoint to send. -/
def tickDrone (t : PlaybackTask) (elapsed : ℚ) (m : DroneManager) (d : Nat) :
    DroneManager × Except String (List SendTask) :=
  match tickTarget m t.plan elapsed d with
  | none => (m, .ok [])
  | some target =>
    (m.setTelemetry d (publish (m.telemetry d) target),
      if t.onboard then .ok []
      else (setpointOf m t.mode d target).map fun c =>
        c.toList.map fun c => { droneId := d, setpoint := c })

/-- One tick over the drones, up to the first that has no pad. -/
def tickDrones (t : PlaybackTask) (elapsed : ℚ) :
    List Nat → DroneManager → DroneManager × Except String (List SendTask)
  | [], m => (m, .ok [])
  | d :: ds, m =>
    match tickDrone t elapsed m d with
    | (m', .error e) => (m', .error e)
    | (m', .ok sends) =>
      let r := tickDrones t elapsed ds m'
      (r.1, r.2.map fun more => sends ++ more)

section

variable (m : DroneManager) (i : Nat) (t : PlaybackTask)

/-- The loop from the test of its condition to its next await. -/
def loopTop (faults : Faults) : DroneManager :=
  if !m.playback.isRunningTrajectory then finishLoop m i t false false faults
  else if playbackEnd t.plan < m.monotonic - t.startTime then finishLoop m i t false true faults
  else
    match tickDrones t (m.monotonic - t.startTime) m.drones m with
    | (m, .error _) => finishLoop m i t false false faults
    | (m, .ok []) => setTask m i { t with pc := .sleeping, sends := [] }
    | (m, .ok sends) => setTask m i { t with pc := .sending, sends := sends }

def enterLoop (startTime : ℚ) (faults : Faults) : DroneManager :=
  loopTop { m with playback := { m.playback with playbackStartTime := some startTime } } i
    { t with startTime := startTime } faults

/-- One round of the trigger broadcast. Until `t = 0` it is repeated. -/
def broadcastTrigger (startS : ℚ) (frame : Bytes) (faults : Faults) : DroneManager × List Sent :=
  if faults.broadcast then (setTask m i { t with pc := .finished }, [])
  else if startS - m.time ≤ 0 then
    (enterLoop m i t (m.monotonic - max 0 (m.time - startS)) faults, [.broadcast frame])
  else (setTask m i { t with pc := .triggering startS }, [.broadcast frame])

end

/-- The START frame; one that cannot be packed ends the task outside its `try`. -/
def startFrame (t : PlaybackTask) (startS : ℚ) : Except MissionError Bytes :=
  encodeShowTrigger .start t.showId ⌊startS * 1000000⌋

section

variable (m : DroneManager) (i : Nat) (t : PlaybackTask) (faults : Faults)

def firstStep : DroneManager × List Sent :=
  if t.onboard then
    match m.stagedShow with
    | none => (setTask m i { t with pc := .finished }, [])
    | some staged =>
      (setTask m i { t with showId := staged.showId, pc := .releasing },
        (t.plan.filter fun e => m.drones.contains e.1).map fun e => .call e.1 .offboardStop)
  else if 0 < t.triggerEpochMs ∧ m.time < t.triggerEpochMs / 1000 then
    (setTask m i { t with pc := .waiting }, [])
  else (enterLoop m i t m.monotonic faults, [])

/-- Once every drone is released: the start instant, and the first frame. -/
def released : DroneManager × List Sent :=
  let startS := max (t.triggerEpochMs / 1000) (m.time + triggerLeadS)
  match startFrame t startS with
  | .error _ => (setTask m i { t with pc := .finished }, [])
  | .ok frame =>
    broadcastTrigger { m with playback := { m.playback with onboardShowId := some t.showId } } i t
      startS frame faults

/-- Where a `CancelledError` is thrown in: the `finally` block runs only if the
task was suspended inside its loop. -/
def deliverCancel : DroneManager :=
  if PlaybackPc.inLoop t.pc then finishLoop m i t true false faults
  else setTask m i { t with pc := .finished }

end

def stepTask (m : DroneManager) (i : Nat) (faults : Faults) : Option (DroneManager × List Sent) :=
  match m.playback.tasks[i]? with
  | none => none
  | some t =>
    if t.pc = .finished then none
    else if t.cancelRequested then some (deliverCancel m i t faults, [])
    else
      match t.pc with
      | .created => some (firstStep m i t faults)
      | .releasing => some (released m i t faults)
      | .triggering startS =>
        match startFrame t startS with
        | .error _ => none
        | .ok frame => some (broadcastTrigger m i t startS frame faults)
      | .waiting => some (enterLoop m i t m.monotonic faults, [])
      | .sending =>
        -- the gather hands on the first setpoint that raised, without waiting for the rest
        if t.sends.any fun s => s.pc = .raised then some (finishLoop m i t false false faults, [])
        else if t.sends.all fun s => s.pc = .sent then
          some (setTask m i { t with pc := .sleeping }, [])
        else none
      | .sleeping => some (loopTop m i t faults, [])
      | .finished => none

/-- `_send_setpoint`: the abort check, the call, and its end. -/
def stepSend (m : DroneManager) (i k : Nat) (reply : Reply) : Option (DroneManager × List Sent) := do
  let t ← m.playback.tasks[i]?
  let s ← t.sends[k]?
  let put (pc : SendPc) := setTask m i { t with sends := t.sends.set k { s with pc := pc } }
  match s.pc with
  | .created =>
    if m.isAborted s.droneId then some (put .sent, [])
    else some (put .awaiting, [.call s.droneId s.setpoint])
  | .awaiting =>
    match reply with
    | .raised _ => some (put .raised, [])
    | _ => some (put .sent, [])
  | _ => none

/-- `_write_state_snapshot`, from the snapshot task. -/
def writeSnapshot (m : DroneManager) (faults : Faults) : Option (DroneManager × List Sent) :=
  if m.playback.snapshotting then
    match m.activeTrajectory, m.playback.showStartedAt with
    | some trajectory, some startedAt =>
      if trajectory.drones = [] ∨ faults.snapshotWrite = true then some (m, [])
      else
        some ({ m with playback :=
          { m.playback with savedShow := some ⟨m.time, m.playback.showMode, startedAt, trajectory⟩ } }, [])
    | _, _ => some (m, [])
  else none

/-! ## What a stop and a start leave -/

lemma stopTrajectory_raised (faults : Faults) (m : DroneManager) :
    (stopTrajectory faults m).2.2 = true ↔ faults.removal = .failed := by
  unfold stopTrajectory discardShowState
  cases faults.removal <;> cases m.playback.trajectoryTask <;> simp

def cancelled (p : Playback) : List PlaybackTask :=
  match p.trajectoryTask with
  | none => p.tasks
  | some i => p.tasks.modify i PlaybackTask.cancel

@[simp] lemma length_cancelled (p : Playback) : (cancelled p).length = p.tasks.length := by
  unfold cancelled
  split <;> simp

/-- What a stop makes of the playback. One that raised still has its task. -/
structure Stopped (p p' : Playback) : Prop where
  notRunning : p'.isRunningTrajectory = false
  notPlaying : p'.playingTrajectory = none
  tasks : p'.trajectoryTask = p.trajectoryTask ∧ p'.tasks = p.tasks ∨
    p'.trajectoryTask = none ∧ p'.tasks = cancelled p

lemma stopTrajectory_stopped (faults : Faults) (m : DroneManager) :
    ∃ playback, (stopTrajectory faults m).1 = { m with playback := playback } ∧
      Stopped m.playback playback ∧
      (faults.removal ≠ .failed →
        playback.trajectoryTask = none ∧ playback.tasks = cancelled m.playback) := by
  have hraised := stopTrajectory_raised faults m
  unfold stopTrajectory at hraised ⊢
  dsimp only at hraised ⊢
  split
  next hsaved =>
    simp only [hsaved, if_true, true_iff] at hraised
    exact ⟨_, rfl, ⟨rfl, rfl, .inl ⟨rfl, rfl⟩⟩, fun h => absurd hraised h⟩
  · split
    next htask =>
      have hcancelled : m.playback.tasks = cancelled m.playback := by rw [cancelled, htask]
      exact ⟨_, rfl, ⟨rfl, rfl, .inr ⟨htask, hcancelled⟩⟩, fun _ => ⟨htask, hcancelled⟩⟩
    next i htask =>
      have hcancelled : m.playback.tasks.modify i PlaybackTask.cancel = cancelled m.playback := by
        rw [cancelled, htask]
      exact ⟨_, rfl, ⟨rfl, rfl, .inr ⟨rfl, hcancelled⟩⟩, fun _ => ⟨rfl, hcancelled⟩⟩

/-- What a start makes of the playback: the old task is cancelled, and a new one
is created behind it. -/
structure Started (p p' : Playback) : Prop where
  running : p'.isRunningTrajectory = true
  current : p'.trajectoryTask = some p.tasks.length
  tasks : ∃ t, t.pc = .created ∧ t.cancelRequested = false ∧ p'.tasks = cancelled p ++ [t]

/-- A start that raised has done nothing, or stopped the old show; one that went
through had a plan and could remove the saved-show file. -/
lemma startTrajectory_cases (setup : Setup) (faults : Faults) (trajectory : Show ℚ)
    (req : StartRequest) (m : DroneManager) :
    ((startTrajectory setup faults trajectory req m).2.2 ≠ none ∧
      ((startTrajectory setup faults trajectory req m).1 = m ∨
        (startTrajectory setup faults trajectory req m).1 = (stopTrajectory faults m).1)) ∨
    ((startTrajectory setup faults trajectory req m).2.2 = none ∧
      (startPlan setup m trajectory req.execution).toBool = true ∧ faults.removal ≠ .failed ∧
      ∃ active radius soft playback, (startTrajectory setup faults trajectory req m).1 =
        { m with
          activeTrajectory := active, geofenceRadius := radius, softGeofenceRadius := soft
          playback := playback } ∧ Started m.playback playback) := by
  unfold startTrajectory
  split
  · exact .inl ⟨by simp, .inl rfl⟩
  next plan bridgeS hplan =>
    have hraised := stopTrajectory_raised faults m
    obtain ⟨playback, hm, -, hok⟩ := stopTrajectory_stopped faults m
    split
    next m1 sent hstop =>
      rw [hstop]
      exact .inl ⟨by simp, .inr rfl⟩
    next m1 sent hstop =>
      rw [hstop] at hraised hm
      have hne : faults.removal ≠ .failed := fun h => by simpa using hraised.mpr h
      obtain ⟨-, htasks⟩ := hok hne
      simp only at hm
      subst hm
      let t : PlaybackTask :=
        { plan := plan, mode := req.mode, triggerEpochMs := req.triggerEpochMs
          onboard := req.execution = .onboard }
      refine .inr ⟨rfl, by rw [hplan]; rfl, hne, _, _, _, _, rfl, rfl, ?_, t, rfl, rfl, ?_⟩
      · simp only [htasks, length_cancelled]
      · simp only [htasks, t]

/-! ## What a step of a playback task can do -/

/-- What a step of the `i`-th playback task changes: telemetry but no aborted
flag, the lifecycle only out of RUNNING, of the tasks only its own, and neither
which task is the manager's nor what it plays. A task that goes on has left the
loop's condition alone, and is cancelled if it was (`c`). -/
structure TaskStepped (m : DroneManager) (i : Nat) (c : Bool) (m' : DroneManager) : Prop where
  frame : ∃ telemetry fsm auditFile playback,
    m' = { m with telemetry := telemetry, fsm := fsm, auditFile := auditFile, playback := playback }
  aborted : ∀ d, (m'.telemetry d).aborted = (m.telemetry d).aborted
  lifecycle : m'.fsm.state = m.fsm.state ∨ m.fsm.state = .running ∧
    (m'.fsm.state = .showComplete ∨ m'.fsm.state = .formationHold)
  task : m'.playback.trajectoryTask = m.playback.trajectoryTask
  playing : m'.playback.playingTrajectory = m.playback.playingTrajectory
  own : ∃ t', m'.playback.tasks = m.playback.tasks.set i t' ∧
    (t'.pc = .finished ∨ t'.cancelRequested = c ∧
      m'.playback.isRunningTrajectory = m.playback.isRunningTrajectory)

/-- The uncancelled part of the `finally` block: some playback fields, and the
lifecycle only out of RUNNING. -/
lemma concludePlayback_spec (completed : Bool) (faults : Faults) (m : DroneManager) :
    ∃ startTime snapshotting saved f auditFile, concludePlayback completed faults m =
        { m with
          fsm := f, auditFile := auditFile
          playback := { m.playback with
            playbackStartTime := startTime, snapshotting := snapshotting, savedShow := saved } } ∧
      (f.state = m.fsm.state ∨ m.fsm.state = .running ∧
        (f.state = .showComplete ∨ f.state = .formationHold)) := by
  unfold concludePlayback
  dsimp only
  split
  · exact ⟨_, _, _, _, _, rfl, .inl rfl⟩
  · split
    next f hf =>
      refine ⟨_, _, _, f, _, rfl, ?_⟩
      rcases FleetStateMachine.advance_ok hf with rfl | ⟨hrun, -, hstate⟩
      · exact .inl rfl
      · exact .inr ⟨hrun, by rw [hstate]; cases completed <;> simp [endOfShow]⟩
    next => exact ⟨_, _, _, _, _, rfl, .inl rfl⟩

/-- The `finally` block ends the task. -/
lemma finishLoop_stepped (m : DroneManager) (i : Nat) (t : PlaybackTask)
    (cancelled completed : Bool) (faults : Faults) (c : Bool) :
    TaskStepped m i c (finishLoop m i t cancelled completed faults) ∧
      (finishLoop m i t cancelled completed faults).playback.tasks =
        m.playback.tasks.set i { t with pc := .finished } := by
  unfold finishLoop
  cases cancelled with
  | true =>
    simp only [if_true]
    exact ⟨⟨⟨_, _, _, _, rfl⟩, fun _ => rfl, .inl rfl, rfl, rfl, _, rfl, .inl rfl⟩, rfl⟩
  | false =>
    obtain ⟨_, _, _, f, _, hm', hf⟩ := concludePlayback_spec completed faults
      (clearPlayback t.onboard (setTask m i { t with pc := .finished }))
    simp only [Bool.false_eq_true, if_false, hm']
    exact ⟨⟨⟨_, _, _, _, rfl⟩, fun _ => rfl, hf, rfl, rfl, _, rfl, .inl rfl⟩, rfl⟩

def Published (m m' : DroneManager) : Prop :=
  (∃ telemetry, m' = { m with telemetry := telemetry }) ∧
    ∀ d, (m'.telemetry d).aborted = (m.telemetry d).aborted

lemma tickDrone_published (t : PlaybackTask) (elapsed : ℚ) (m : DroneManager) (d : Nat) :
    Published m (tickDrone t elapsed m d).1 := by
  unfold tickDrone
  split
  · exact ⟨⟨m.telemetry, rfl⟩, fun _ => rfl⟩
  next target _ =>
    refine ⟨⟨_, rfl⟩, fun e => ?_⟩
    by_cases he : e = d
    · rw [he]; simp [DroneManager.setTelemetry, publish]
    · simp [DroneManager.setTelemetry, Function.update_of_ne he]

lemma tickDrones_published (t : PlaybackTask) (elapsed : ℚ) (ds : List Nat) (m : DroneManager) :
    Published m (tickDrones t elapsed ds m).1 := by
  induction ds generalizing m with
  | nil => exact ⟨⟨m.telemetry, rfl⟩, fun _ => rfl⟩
  | cons d ds ih =>
    have hd := tickDrone_published t elapsed m d
    unfold tickDrones
    generalize tickDrone t elapsed m d = r at hd
    obtain ⟨m1, sends⟩ := r
    obtain ⟨⟨telemetry, rfl : m1 = _⟩, ha⟩ := hd
    cases sends with
    | error e => exact ⟨⟨telemetry, rfl⟩, ha⟩
    | ok sends =>
      obtain ⟨⟨telemetry', hf⟩, ha'⟩ := ih { m with telemetry := telemetry }
      exact ⟨⟨telemetry', hf⟩, fun e => (ha' e).trans (ha e)⟩

/-- What a task writes before its step ends: planned points, when its clock
started, and the show on board. -/
def Touched (m m' : DroneManager) : Prop :=
  (∃ telemetry startTime showId, m' =
    { m with
      telemetry := telemetry
      playback := { m.playback with playbackStartTime := startTime, onboardShowId := showId } }) ∧
    ∀ d, (m'.telemetry d).aborted = (m.telemetry d).aborted

lemma Touched.refl (m : DroneManager) : Touched m m := ⟨⟨_, _, _, rfl⟩, fun _ => rfl⟩

variable {m m' : DroneManager}

variable {m1 : DroneManager} {c : Bool} {t : PlaybackTask}

lemma Touched.trans (h : Touched m m1) (h' : Touched m1 m') : Touched m m' := by
  obtain ⟨⟨_, _, _, rfl⟩, ha⟩ := h
  obtain ⟨⟨_, _, _, hm'⟩, ha'⟩ := h'
  exact ⟨⟨_, _, _, hm'⟩, fun d => (ha' d).trans (ha d)⟩

lemma Published.touched (h : Published m m') : Touched m m' := by
  obtain ⟨⟨_, rfl⟩, ha⟩ := h
  exact ⟨⟨_, _, _, rfl⟩, ha⟩

/-- How a step of the `i`-th task ends: the task comes to rest, awaiting or over,
or it leaves its loop. -/
inductive TaskEnd (m : DroneManager) (i : Nat) (c : Bool) : DroneManager → Prop
  | rests {m1 : DroneManager} (t : PlaybackTask) (touched : Touched m m1)
    (cancel : t.cancelRequested = c) : TaskEnd m i c (setTask m1 i t)
  | leaves {m1 : DroneManager} (t : PlaybackTask) (cancelled completed : Bool) (faults : Faults)
    (touched : Touched m m1) : TaskEnd m i c (finishLoop m1 i t cancelled completed faults)

variable {i : Nat}

lemma TaskEnd.after (h : TaskEnd m1 i c m') (ht : Touched m m1) : TaskEnd m i c m' := by
  cases h with
  | rests t touched cancel => exact .rests t (ht.trans touched) cancel
  | leaves t cancelled completed faults touched =>
    exact .leaves t cancelled completed faults (ht.trans touched)

section

variable (m : DroneManager) (i : Nat) (t : PlaybackTask)

lemma loopTop_end (faults : Faults) : TaskEnd m i t.cancelRequested (loopTop m i t faults) := by
  unfold loopTop
  split
  · exact .leaves _ _ _ _ (.refl m)
  · split
    · exact .leaves _ _ _ _ (.refl m)
    · have htouched := (tickDrones_published t (m.monotonic - t.startTime) m.drones m).touched
      generalize tickDrones t (m.monotonic - t.startTime) m.drones m = r at htouched
      obtain ⟨m1, sends⟩ := r
      cases sends with
      | error e => exact .leaves _ _ _ _ htouched
      | ok sends =>
        cases sends with
        | nil => exact .rests _ htouched rfl
        | cons s sends => exact .rests _ htouched rfl

lemma enterLoop_end (startTime : ℚ)
    (faults : Faults) : TaskEnd m i t.cancelRequested (enterLoop m i t startTime faults) :=
  (loopTop_end _ i { t with startTime := startTime } faults).after ⟨⟨_, _, _, rfl⟩, fun _ => rfl⟩

lemma broadcastTrigger_end (startS : ℚ) (frame : Bytes) (faults : Faults) :
    TaskEnd m i t.cancelRequested (broadcastTrigger m i t startS frame faults).1 := by
  unfold broadcastTrigger
  split
  · exact .rests _ (.refl m) rfl
  · split
    · exact enterLoop_end ..
    · exact .rests _ (.refl m) rfl

lemma firstStep_end (faults : Faults) :
    TaskEnd m i t.cancelRequested (firstStep m i t faults).1 := by
  unfold firstStep
  split
  · split
    · exact .rests _ (.refl m) rfl
    · exact .rests _ (.refl m) rfl
  · split
    · exact .rests _ (.refl m) rfl
    · exact enterLoop_end ..

lemma released_end (faults : Faults) : TaskEnd m i t.cancelRequested (released m i t faults).1 := by
  unfold released
  dsimp only
  split
  · exact .rests _ (.refl m) rfl
  · exact (broadcastTrigger_end ..).after ⟨⟨_, _, _, rfl⟩, fun _ => rfl⟩

lemma deliverCancel_end (faults : Faults) :
    TaskEnd m i t.cancelRequested (deliverCancel m i t faults) := by
  unfold deliverCancel
  split
  · exact .leaves _ _ _ _ (.refl m)
  · exact .rests _ (.refl m) rfl

end

lemma TaskEnd.stepped (h : TaskEnd m i c m') : TaskStepped m i c m' := by
  cases h with
  | rests t touched cancel =>
    obtain ⟨⟨_, _, _, rfl⟩, ha⟩ := touched
    exact ⟨⟨_, _, _, _, rfl⟩, ha, .inl rfl, rfl, rfl, t, rfl, .inr ⟨cancel, rfl⟩⟩
  | @leaves m1 t cancelled completed faults touched =>
    obtain ⟨⟨_, _, _, rfl⟩, ha⟩ := touched
    obtain ⟨hs, htasks⟩ := finishLoop_stepped _ i t cancelled completed faults c
    obtain ⟨_, _, _, _, hm'⟩ := hs.frame
    exact ⟨⟨_, _, _, _, hm'⟩, fun d => (hs.aborted d).trans (ha d), hs.lifecycle, hs.task,
      hs.playing, _, htasks, .inl rfl⟩

lemma deliverCancel_tasks (m : DroneManager) (i : Nat) (t : PlaybackTask) (faults : Faults) :
    (deliverCancel m i t faults).playback.tasks =
      m.playback.tasks.set i { t with pc := .finished } := by
  unfold deliverCancel
  split
  · exact (finishLoop_stepped m i t true false faults false).2
  · rfl

/-- The steps of a task that is not cancelled, by where it is. -/
inductive TaskMove (m : DroneManager) (i : Nat) (t : PlaybackTask) (faults : Faults) :
    DroneManager → List Sent → Prop
  | first (h : t.pc = .created) :
    TaskMove m i t faults (firstStep m i t faults).1 (firstStep m i t faults).2
  | released (h : t.pc = .releasing) :
    TaskMove m i t faults (released m i t faults).1 (released m i t faults).2
  | triggered {startS : ℚ} {frame : Bytes} (h : t.pc = .triggering startS)
    (encoded : startFrame t startS = .ok frame) :
    TaskMove m i t faults (broadcastTrigger m i t startS frame faults).1
      (broadcastTrigger m i t startS frame faults).2
  | waited (h : t.pc = .waiting) : TaskMove m i t faults (enterLoop m i t m.monotonic faults) []
  | raised (h : t.pc = .sending) (any : t.sends.any (fun s => s.pc = .raised) = true) :
    TaskMove m i t faults (finishLoop m i t false false faults) []
  | sent (h : t.pc = .sending) (none_ : t.sends.any (fun s => s.pc = .raised) = false)
    (all : t.sends.all (fun s => s.pc = .sent) = true) :
    TaskMove m i t faults (setTask m i { t with pc := .sleeping }) []
  | woke (h : t.pc = .sleeping) : TaskMove m i t faults (loopTop m i t faults) []

variable {faults : Faults} {os : List Sent}

lemma TaskMove.step (h : TaskMove m i t faults m' os)
    (ht : m.playback.tasks[i]? = some t) (hgoing : t.cancelRequested = false) :
    stepTask m i faults = some (m', os) := by
  unfold stepTask
  cases h with
  | triggered hpc hframe => simp [ht, hgoing, hpc, hframe]
  | raised hpc hany => simp only [ht, hgoing, hpc, hany]; rfl
  | sent hpc hnone hall => simp only [ht, hgoing, hpc, hnone, hall]; rfl
  | first hpc => simp [ht, hgoing, hpc]
  | released hpc => simp [ht, hgoing, hpc]
  | waited hpc => simp [ht, hgoing, hpc]
  | woke hpc => simp [ht, hgoing, hpc]

lemma stepTask_cancelled (faults : Faults) (ht : m.playback.tasks[i]? = some t)
    (hlive : t.pc ≠ .finished) (hcancelled : t.cancelRequested = true) :
    stepTask m i faults = some (deliverCancel m i t faults, []) := by
  simp only [stepTask, ht, if_neg hlive, hcancelled, if_true]

section

variable (h : stepTask m i faults = some (m', os))
include h

lemma stepTask_cases : ∃ t, m.playback.tasks[i]? = some t ∧ t.pc ≠ .finished ∧
      (t.cancelRequested = true ∧ m' = deliverCancel m i t faults ∧ os = [] ∨
        t.cancelRequested = false ∧ TaskMove m i t faults m' os) := by
  unfold stepTask at h
  split at h
  · cases h
  next t ht =>
    split at h
    · cases h
    next hlive =>
      refine ⟨t, ht, hlive, ?_⟩
      split at h
      next hcancelled =>
        cases h
        exact .inl ⟨hcancelled, rfl, rfl⟩
      next hgoing =>
        refine .inr ⟨by simpa using hgoing, ?_⟩
        split at h
        next hpc =>
          obtain ⟨rfl, rfl⟩ := Prod.mk.inj (Option.some.inj h)
          exact .first hpc
        next hpc =>
          obtain ⟨rfl, rfl⟩ := Prod.mk.inj (Option.some.inj h)
          exact .released hpc
        next startS hpc =>
          split at h
          · cases h
          next frame hframe =>
            obtain ⟨rfl, rfl⟩ := Prod.mk.inj (Option.some.inj h)
            exact .triggered hpc hframe
        next hpc => cases h; exact .waited hpc
        next hpc =>
          split at h
          next hany => cases h; exact .raised hpc hany
          next hnone =>
            split at h
            next hall => cases h; exact .sent hpc (by simpa using hnone) hall
            next => cases h
        next hpc => cases h; exact .woke hpc
        · cases h

lemma stepTask_end :
    ∃ t, m.playback.tasks[i]? = some t ∧ t.pc ≠ .finished ∧ TaskEnd m i t.cancelRequested m' ∧
      (t.cancelRequested = true → m' = deliverCancel m i t faults) := by
  obtain ⟨t, ht, hlive, ⟨-, rfl, -⟩ | ⟨hgoing, hmove⟩⟩ := stepTask_cases h
  · exact ⟨t, ht, hlive, deliverCancel_end .., fun _ => rfl⟩
  · refine ⟨t, ht, hlive, ?_, fun hc => by rw [hgoing] at hc; cases hc⟩
    cases hmove with
    | first => exact firstStep_end ..
    | released => exact released_end ..
    | triggered => exact broadcastTrigger_end ..
    | waited => exact enterLoop_end ..
    | raised => exact .leaves _ _ _ _ (.refl m)
    | sent => exact .rests _ (.refl m) rfl
    | woke => exact loopTop_end ..

lemma stepTask_stepped : ∃ t, m.playback.tasks[i]? = some t ∧ t.pc ≠ .finished ∧
      TaskStepped m i t.cancelRequested m' ∧
      (t.cancelRequested = true → m' = deliverCancel m i t faults) := by
  obtain ⟨t, ht, hlive, hend, hcancel⟩ := stepTask_end h
  exact ⟨t, ht, hlive, hend.stepped, hcancel⟩

end

lemma stepSend_some {k : Nat} {reply : Reply} (h : stepSend m i k reply = some (m', os)) :
    ∃ t sends, m.playback.tasks[i]? = some t ∧ m' = setTask m i { t with sends := sends } := by
  simp only [stepSend, Option.bind_eq_bind, Option.bind_eq_some_iff] at h
  obtain ⟨t, ht, s, hs, h⟩ := h
  split at h
  · split at h <;> · cases h; exact ⟨t, _, ht, rfl⟩
  · split at h <;> · cases h; exact ⟨t, _, ht, rfl⟩
  · cases h

lemma writeSnapshot_some (h : writeSnapshot m faults = some (m', os)) :
    ∃ saved, m' = { m with playback := { m.playback with savedShow := saved } } ∧ os = [] := by
  unfold writeSnapshot at h
  split at h
  · split at h
    · split at h <;> · cases h; exact ⟨_, rfl, rfl⟩
    · cases h; exact ⟨_, rfl, rfl⟩
  · cases h

end Taramandal.Gcs.Playback
