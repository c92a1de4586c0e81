import Taramandal.Gcs.State
import Taramandal.Lib.Run

/-! # Launching (`drone_manager.py`)

`launch_sequence` gathers the drones in batches; `_launch_one` arms, engages
offboard and climbs one drone, suspending at every call on the vehicle. Each
function here is that code from one await to the next: it takes the reply to the
call it was suspended at and returns where it is suspended now, with the calls
it made on the way. -/

/-! ## The launch gate (`drone_manager.py`, `launch_gate`)

Whether the fleet may arm, what stands in the way, and the drones a launch may
arm. A drone the gate clears is connected and holds a verified mission of the
staged show (`mem_armable`). -/
namespace Taramandal.Gcs.LaunchGate

open Lib.Dict Core.Mission Gcs.State

/-- The gate's answer. It is open if nothing stands in the way. -/
structure Gate where
  reason : String
  armable : List Nat
  problems : List String

def Gate.ok (g : Gate) : Bool := g.problems = []

/-- One drone against the staged show: its problem, or that it may be armed. -/
def gateDrone (m : DroneManager) (staged : StagedShow) (d : Nat) : Option (String ⊕ Nat) :=
  let connected := (m.telemetry d).connected
  match find staged.drones d with
  | none =>
    if connected && !has staged.excluded d then
      some (.inl ("drone " ++ toString d ++ " connected after the upload and holds no mission"))
    else none
  | some entry =>
    if !connected then
      some (.inl ("drone " ++ toString d ++ " holds a mission but is disconnected"))
    else if entry.status ≠ .verified then
      some (.inl ("drone " ++ toString d ++ " mission " ++ entry.status.value))
    else some (.inr d)

/-- Whether the loaded show is the staged one. A show that does not compile has
no id; only a number that fits no field gets past that. -/
def showProblems (setup : Setup) (m : DroneManager) (staged : StagedShow) :
    Except MissionError (List String) :=
  let changed := ["the loaded trajectory is not the show uploaded to the fleet — upload it again"]
  match m.activeTrajectory with
  | none => .ok []
  | some trajectory =>
    match computeShowId setup.sha256 trajectory with
    | .ok showId => .ok (if showId = staged.showId then [] else changed)
    | .error (.valueError _) => .ok changed
    | .error .structError => .error .structError

def refusal (problems : List String) : String :=
  if problems = [] then ""
  else "Arming refused: " ++ "; ".intercalate (problems.take 5) ++
    (if 5 < problems.length then " (+" ++ toString (problems.length - 5) ++ " more)" else "") ++ "."

def launchGate (setup : Setup) (m : DroneManager) : Except MissionError Gate :=
  match m.stagedShow with
  | none =>
    let reason := "No show has been uploaded to the fleet. Upload it (POST /api/upload-mission) " ++
      "before arming."
    .ok { reason := reason, armable := [], problems := [reason] }
  | some staged =>
    (showProblems setup m staged).map fun mismatch =>
      let judged := (m.drones.insertionSort (· ≤ ·)).filterMap (gateDrone m staged)
      let problems := mismatch ++ judged.filterMap Sum.getLeft? ++
        (if staged.drones = [] then ["no drone was assigned a mission"] else [])
      { reason := refusal problems
        armable := judged.filterMap Sum.getRight?
        problems := problems }

end Taramandal.Gcs.LaunchGate

namespace Taramandal.Gcs.Launch

open Lib.Dict Core.Numbers Core.Safety Core.Mission Gcs.FleetFsm Gcs.State Gcs.LaunchGate

def launchBatchSize : Nat := 5

def offboardConfirmTimeoutS : ℚ := 3

def homeLockTimeoutS : ℚ := 45

def takeoffBudgetBaseS : ℚ := 15

def takeoffBudgetSPerM : ℚ := 1

def calibrationParams : List (String × ℚ) :=
  [("COM_ARM_MAG_STR", 0), ("EKF2_MAG_CHECK", 0), ("COM_ARM_IMU_ACC", 10), ("COM_ARM_IMU_GYR", 10)]

/-- `EMERGENCY_STATES` has the fleet's state. -/
def inEmergency (m : DroneManager) : Bool := emergencyStates.contains m.fsm.state

def trackClimb (m : DroneManager) (d : Nat) (targetM : ℚ) : DroneManager :=
  let budgetS := takeoffBudgetBaseS + takeoffBudgetSPerM * targetM
  let climb : Climb :=
    { targetM := targetM, budgetS := budgetS, deadline := m.monotonic + budgetS, reached := false }
  { m with launch := { m.launch with climbs := assign m.launch.climbs d climb } }

/-- `_record_launch_failure`: the first reason stands. With `recover`, a task
that brings the drone down is started. -/
def recordLaunchFailure (m : DroneManager) (d : Nat) (reason : String) (recover : Bool) :
    DroneManager :=
  if has m.launch.launchFailures d then m
  else
    { m with launch :=
      { m.launch with
        launchFailures := assign m.launch.launchFailures d reason
        climbs := remove m.launch.climbs d
        recoveries :=
          if recover then m.launch.recoveries ++ [{ droneId := d }] else m.launch.recoveries } }

/-! ## One drone -/

def climbCall (d : Nat) : VehicleCall := .setPositionNed 0 0 (-hoverAltitude d) 0

def armUnlessPreempted (m : DroneManager) (d : Nat) : LaunchPc × List Sent :=
  if inEmergency m then (.returned, []) else (.arming, [.call d .arm])

/-- Wait for the drone to become armable with its home locked, or go straight on. -/
def awaitArmable (requireEkfHealth : Bool) (m : DroneManager) (d : Nat) : LaunchPc × List Sent :=
  if requireEkfHealth then (.waitingArmable (m.monotonic + homeLockTimeoutS), [])
  else armUnlessPreempted m d

/-- The calibration parameters from the `k`-th on. -/
def calibrateFrom (requireEkfHealth : Bool) (m : DroneManager) (d k : Nat) : LaunchPc × List Sent :=
  match calibrationParams[k]? with
  | some (name, value) => (.calibrating k, [.call d (.setParam name value)])
  | none => awaitArmable requireEkfHealth m d

section

variable (m : DroneManager) (d : Nat)

def notOffboard : String :=
  "did not enter OFFBOARD: flight mode " ++ (m.telemetry d).flightMode ++ " " ++
    fixed 0 offboardConfirmTimeoutS ++ "s after offboard start" ++
    (if m.isHeartbeatFresh (m.telemetry d) then "" else " (telemetry stale)")

/-- A drone that was never sent up: its failure, and a disarm on its pad. -/
def failOnPad (reason : String) : DroneManager × LaunchPc × List Sent :=
  (recordLaunchFailure m d reason false, .disarming true, [.call d .disarm])

/-- `_confirm_offboard`, one look at the telemetry, and the climb behind it. -/
def confirmOffboard (deadline : ℚ) : DroneManager × LaunchPc × List Sent :=
  let tel := m.telemetry d
  if inEmergency m then (m, .returned, [])
  else if m.isHeartbeatFresh tel && tel.armed && tel.flightMode = "OFFBOARD" then
    (m, .climbing, [.call d (climbCall d)])
  else if deadline ≤ m.monotonic then failOnPad m d (notOffboard m d)
  else (m, .confirming deadline, [])

/-- `_launch_one` up to its first await. Getting past the two checks clears the
aborted flag, whoever named the drone. -/
def beginLaunch : DroneManager × LaunchPc × List Sent :=
  let tel := m.telemetry d
  if tel.armed then (trackClimb m d (hoverAltitude d), .returned, [])
  else if !tel.connected then
    (recordLaunchFailure m d "not connected at launch" false, .returned, [])
  else (m.setTelemetry d { tel with aborted := none }, .staggering, [])

/-- An exception no inner handler takes: the drone's state is unknown. -/
def unexpectedError (e : String) : DroneManager × LaunchPc × List Sent :=
  (recordLaunchFailure m d ("unexpected launch error: " ++ e) true, .returned, [])

def armableReply (deadline : ℚ) : Reply → Option (DroneManager × LaunchPc × List Sent)
  | .health armable homeOk =>
    if inEmergency m || (armable && homeOk) then some (m, armUnlessPreempted m d)
    else some (m, .waitingArmable deadline, [])
  | .streamEnded => some (m, armUnlessPreempted m d)
  | .timedOut =>
    if deadline ≤ m.monotonic then
      some (recordLaunchFailure m d ("did not become armable with home lock within " ++
        floatStr homeLockTimeoutS ++ "s") false, .returned, [])
    else none
  | .raised e => some (unexpectedError m d e)
  | .ok => none

end

/-- `_launch_one`, from its await to the next one. -/
def stepOne (requireEkfHealth : Bool) (m : DroneManager) (d : Nat) (pc : LaunchPc) (reply : Reply) :
    Option (DroneManager × LaunchPc × List Sent) :=
  match pc with
  | .begin => some (beginLaunch m d)
  | .staggering => some (m, calibrateFrom requireEkfHealth m d 0)
  | .calibrating k =>
    match reply with
    | .raised _ => some (m, awaitArmable requireEkfHealth m d)
    | _ => some (m, calibrateFrom requireEkfHealth m d (k + 1))
  | .waitingArmable deadline => armableReply m d deadline reply
  | .arming =>
    match reply with
    | .raised e => some (recordLaunchFailure m d ("arming failed: " ++ e) false, .returned, [])
    | _ => some (m, .settingInitial, [.call d (.setPositionNed 0 0 0 0)])
  | .settingInitial =>
    match reply with
    | .raised e => some (failOnPad m d ("initial offboard setpoint failed: " ++ e))
    | _ =>
      if inEmergency m then some (m, .returned, [])
      else some (m, .startingOffboard, [.call d .offboardStart])
  | .startingOffboard =>
    match reply with
    | .raised e =>
      -- this disarm is not `_disarm_on_pad`: its failure is an unexpected error
      some (recordLaunchFailure m d ("offboard start failed: " ++ e) false, .disarming false,
        [.call d .disarm])
    | _ => some (confirmOffboard m d (m.monotonic + offboardConfirmTimeoutS))
  | .confirming deadline => some (confirmOffboard m d deadline)
  | .climbing =>
    match reply with
    | .raised e => some (failOnPad m d ("climb command failed: " ++ e))
    | _ => some (trackClimb m d (hoverAltitude d), .returned, [])
  | .disarming onPad =>
    match reply with
    | .raised e => if onPad then some (m, .returned, []) else some (unexpectedError m d e)
    | _ => some (m, .returned, [])
  | .returned => none

/-! ## The sequence -/

section

variable (m : DroneManager) (i : Nat) (t : LaunchTask)

def setLaunch : DroneManager :=
  { m with launch := { m.launch with tasks := m.launch.tasks.set i t } }

def finishLaunch : DroneManager :=
  let m := setLaunch m i { t with stage := .finished }
  if t.wrapped then { m with launch := { m.launch with launchFinishedAt := some m.monotonic } } else m

def nextBatch (droneIds : List Nat) : DroneManager :=
  if droneIds = [] then finishLaunch m i t
  else
    let batch := (droneIds.take launchBatchSize).map fun d => { droneId := d }
    setLaunch m i { t with stage := .running batch (droneIds.drop launchBatchSize) }

end

section

variable (setup : Setup) (m : DroneManager)

/-- The drones a launch sets out to fly; `none` if it is refused. A fleet-wide
launch leaves the aborted drones out, an explicit one does not. -/
def launchList : Option (List Nat) → Option (List Nat)
  | none =>
    match launchGate setup m with
    | .error _ => none
    | .ok gate =>
      if gate.ok then some (gate.armable.filter fun d => !m.isAborted d) else none
  | some droneIds =>
    let known := droneIds.filter m.drones.contains
    if m.stagedShow.isNone then some known
    else
      match launchGate setup m with
      | .error _ => none
      | .ok gate => if gate.ok then some (known.filter gate.armable.contains) else none

/-- `launch_sequence` up to its first batch. -/
def beginSequence (i : Nat) (t : LaunchTask) (droneIds : Option (List Nat)) : DroneManager :=
  let m := { m with launch := { m.launch with launchPlanned := [], launchFailures := [], climbs := [] } }
  match launchList setup m droneIds with
  | none => finishLaunch m i t
  | some ids => nextBatch { m with launch := { m.launch with launchPlanned := ids } } i t ids

def stepSequence (i : Nat) : Option (DroneManager × List Sent) :=
  match m.launch.tasks[i]? with
  | none => none
  | some t =>
    match t.stage with
    | .created droneIds => some (beginSequence setup m i t droneIds, [])
    | .running batch rest =>
      if batch.all fun one => one.pc = .returned then some (nextBatch m i t rest, []) else none
    | .finished => none

end

section

variable (m : DroneManager)

/-- The `j`-th coroutine of the batch a sequence has gathered. -/
def stepDrone (i j : Nat) (reply : Reply) : Option (DroneManager × List Sent) :=
  match m.launch.tasks[i]? with
  | none => none
  | some t =>
    match t.stage with
    | .running batch rest =>
      match batch[j]? with
      | none => none
      | some one =>
        (stepOne t.requireEkfHealth m one.droneId one.pc reply).map fun r =>
          (setLaunch r.1 i
            { t with stage := .running (batch.set j { one with pc := r.2.1 }) rest }, r.2.2)
    | _ => none

/-- A call of `launch_sequence`; `wrapped` by `start_launch_sequence` it is the
manager's launch task. -/
def startLaunch (droneIds : Option (List Nat)) (requireEkfHealth wrapped : Bool) : DroneManager :=
  let tasks := m.launch.tasks ++
    [{ requireEkfHealth := requireEkfHealth, wrapped := wrapped, stage := .created droneIds }]
  if wrapped then
    { m with launch := { m.launch with
      tasks := tasks, launchTask := some m.launch.tasks.length, launchFinishedAt := none } }
  else { m with launch := { m.launch with tasks := tasks } }

def launchInProgress : Bool :=
  match m.launch.launchTask with
  | none => false
  | some i => m.launch.tasks[i]?.any fun t => t.stage ≠ .finished

def onGroundNow (tel : Telemetry) : Bool :=
  m.isHeartbeatFresh tel && tel.landedState = some "ON_GROUND" &&
    tel.landedStateAt.any fun at_ => m.time - at_ ≤ heartbeatStaleS

/-- `_recover_failed_launch`, from its await to the next one. -/
def recoverFailedLaunch (r : Recovery) : Option (Recovery × List Sent) :=
  let tel := m.telemetry r.droneId
  match r.pc with
  | .created =>
    if inEmergency m || !tel.armed then some ({ r with pc := .returned }, [])
    else if onGroundNow m tel then some ({ r with pc := .disarming }, [.call r.droneId .disarm])
    else if tel.flightMode = "OFFBOARD" then
      some ({ r with pc := .stopping }, [.call r.droneId .offboardStop])
    else some ({ r with pc := .returned }, [])
  | .stopping => some ({ r with pc := .landing }, [.call r.droneId .land])
  | .disarming => some ({ r with pc := .returned }, [])
  | .landing => some ({ r with pc := .returned }, [])
  | .returned => none

def stepRecovery (k : Nat) : Option (DroneManager × List Sent) := do
  let r ← m.launch.recoveries[k]?
  let (r', sent) ← recoverFailedLaunch m r
  return ({ m with launch := { m.launch with recoveries := m.launch.recoveries.set k r' } }, sent)

end

/-! ## What a launch step can do -/

/-- The launch's tasks, its task and its plan are as they were. -/
def RecordOnly (l l' : Launch) : Prop :=
  l'.tasks = l.tasks ∧ l'.launchTask = l.launchTask ∧ l'.launchPlanned = l.launchPlanned

def LaunchOnly (m m' : DroneManager) : Prop :=
  ∃ launch, m' = { m with launch := launch } ∧ RecordOnly m.launch launch

lemma LaunchOnly.refl (m : DroneManager) : LaunchOnly m m := ⟨m.launch, rfl, rfl, rfl, rfl⟩

variable {m m' : DroneManager}

lemma LaunchOnly.trans {m'' : DroneManager} (h : LaunchOnly m m') (h' : LaunchOnly m' m'') :
    LaunchOnly m m'' := by
  obtain ⟨l, rfl, h1, h2, h3⟩ := h
  obtain ⟨l', rfl, h1', h2', h3'⟩ := h'
  exact ⟨l', rfl, h1'.trans h1, h2'.trans h2, h3'.trans h3⟩

section

variable (m : DroneManager) (d : Nat)

lemma recordLaunchFailure_only (reason : String) (recover : Bool) :
    LaunchOnly m (recordLaunchFailure m d reason recover) := by
  unfold recordLaunchFailure
  split
  · exact .refl m
  · exact ⟨_, rfl, rfl, rfl, rfl⟩

lemma failOnPad_only (reason : String) :
    LaunchOnly m (failOnPad m d reason).1 := recordLaunchFailure_only ..

lemma unexpectedError_only (e : String) :
    LaunchOnly m (unexpectedError m d e).1 := recordLaunchFailure_only ..

lemma trackClimb_only (targetM : ℚ) :
    LaunchOnly m (trackClimb m d targetM) := ⟨_, rfl, rfl, rfl, rfl⟩

end

/-- A call that puts drone `d` further into the air: an arm, an offboard start,
or a local setpoint above its pad. -/
def putsUp (d : Nat) : Sent → Bool
  | .call e .arm => e = d
  | .call e .offboardStart => e = d
  | .call e (.setPositionNed _ _ down _) => e = d && (down < 0 : Bool)
  | _ => false

/-- `_launch_one` has not sent the climb yet. -/
def LaunchPc.ahead : LaunchPc → Bool
  | .climbing => false
  | .disarming _ => false
  | .returned => false
  | _ => true

/-- What a step of a coroutine sends goes to its own drone, and puts it up only
while the climb is ahead and the fleet is in no emergency. -/
def SendsOwn (m : DroneManager) (d : Nat) (pc : LaunchPc) (os : List Sent) : Prop :=
  ∀ s ∈ os, ∀ e, putsUp e s = true → e = d ∧ LaunchPc.ahead pc = true ∧ inEmergency m = false

/-- A step of `_launch_one` for drone `d`. It begins by clearing the aborted
flag, of its own drone; nothing else it does touches telemetry. -/
structure OneStepped (m : DroneManager) (d : Nat) (pc : LaunchPc) (m' : DroneManager)
    (pc' : LaunchPc) (os : List Sent) : Prop where
  frame : LaunchOnly m m' ∨
    pc = .begin ∧ m' = m.setTelemetry d { m.telemetry d with aborted := none }
  ahead : LaunchPc.ahead pc' = true → LaunchPc.ahead pc = true ∧ pc' ≠ .begin
  sends : SendsOwn m d pc os

variable {d : Nat} {pc : LaunchPc}

lemma sendsOwn_nil : SendsOwn m d pc [] :=
  fun _ hs => absurd hs (List.not_mem_nil)

variable {c : VehicleCall} {r : DroneManager × LaunchPc × List Sent} {i : Nat} {setup : Setup}

lemma sendsOwn_call (h : ∀ e, putsUp e (.call d c) = false) : SendsOwn m d pc [.call d c] := by
  intro s hs e he
  obtain rfl := List.mem_singleton.mp hs
  rw [h e] at he
  cases he

lemma sendsOwn_up (hpc : LaunchPc.ahead pc = true) (hfree : inEmergency m = false) :
    SendsOwn m d pc [.call d c] := by
  intro s hs e he
  obtain rfl := List.mem_singleton.mp hs
  refine ⟨?_, hpc, hfree⟩
  cases c <;> simp_all [putsUp]

lemma armUnlessPreempted_stepped (hpc : LaunchPc.ahead pc = true) :
    OneStepped m d pc m (armUnlessPreempted m d).1 (armUnlessPreempted m d).2 := by
  unfold armUnlessPreempted
  by_cases he : inEmergency m = true
  · rw [if_pos he]
    exact ⟨.inl (.refl m), by simp [LaunchPc.ahead], sendsOwn_nil⟩
  · rw [if_neg he]
    exact ⟨.inl (.refl m), fun _ => ⟨hpc, by simp⟩, sendsOwn_up hpc (by simpa using he)⟩

lemma awaitArmable_stepped (ekf : Bool) (hpc : LaunchPc.ahead pc = true) :
    OneStepped m d pc m (awaitArmable ekf m d).1 (awaitArmable ekf m d).2 := by
  unfold awaitArmable
  split
  · exact ⟨.inl (.refl m), fun _ => ⟨hpc, by simp⟩, sendsOwn_nil⟩
  · exact armUnlessPreempted_stepped hpc

lemma calibrateFrom_stepped (ekf : Bool) (k : Nat) (hpc : LaunchPc.ahead pc = true) :
    OneStepped m d pc m (calibrateFrom ekf m d k).1 (calibrateFrom ekf m d k).2 := by
  unfold calibrateFrom
  split
  · exact ⟨.inl (.refl m), fun _ => ⟨hpc, by simp⟩, sendsOwn_call fun _ => rfl⟩
  · exact awaitArmable_stepped ekf hpc

lemma failOnPad_stepped (m : DroneManager) (d : Nat) (pc : LaunchPc) (reason : String) :
    OneStepped m d pc (failOnPad m d reason).1 (failOnPad m d reason).2.1
      (failOnPad m d reason).2.2 :=
  ⟨.inl (failOnPad_only ..), by simp [failOnPad, LaunchPc.ahead], sendsOwn_call fun _ => rfl⟩

lemma unexpectedError_stepped (m : DroneManager) (d : Nat) (pc : LaunchPc) (e : String) :
    OneStepped m d pc (unexpectedError m d e).1 (unexpectedError m d e).2.1
      (unexpectedError m d e).2.2 :=
  ⟨.inl (unexpectedError_only ..), by simp [unexpectedError, LaunchPc.ahead], sendsOwn_nil⟩

lemma confirmOffboard_stepped (deadline : ℚ) (hpc : LaunchPc.ahead pc = true) :
    OneStepped m d pc (confirmOffboard m d deadline).1 (confirmOffboard m d deadline).2.1
      (confirmOffboard m d deadline).2.2 := by
  unfold confirmOffboard
  dsimp only
  by_cases he : inEmergency m = true
  · rw [if_pos he]
    exact ⟨.inl (.refl m), by simp [LaunchPc.ahead], sendsOwn_nil⟩
  · rw [if_neg he]
    split
    · exact ⟨.inl (.refl m), by simp [LaunchPc.ahead], sendsOwn_up hpc (by simpa using he)⟩
    · split
      · exact failOnPad_stepped ..
      · exact ⟨.inl (.refl m), fun _ => ⟨hpc, by simp⟩, sendsOwn_nil⟩

lemma beginLaunch_stepped (m : DroneManager) (d : Nat) :
    OneStepped m d .begin (beginLaunch m d).1 (beginLaunch m d).2.1 (beginLaunch m d).2.2 := by
  unfold beginLaunch
  dsimp only
  split
  · exact ⟨.inl (trackClimb_only ..), by simp [LaunchPc.ahead], sendsOwn_nil⟩
  · split
    · exact ⟨.inl (recordLaunchFailure_only ..), by simp [LaunchPc.ahead], sendsOwn_nil⟩
    · exact ⟨.inr ⟨rfl, rfl⟩, fun _ => ⟨rfl, by simp⟩, sendsOwn_nil⟩

variable {reply : Reply}

lemma armableReply_stepped {deadline : ℚ} (h : armableReply m d deadline reply = some r) :
    OneStepped m d (.waitingArmable deadline) r.1 r.2.1 r.2.2 := by
  unfold armableReply at h
  split at h
  · split at h
    · cases h; exact armUnlessPreempted_stepped rfl
    · cases h; exact ⟨.inl (.refl m), fun _ => ⟨rfl, by simp⟩, sendsOwn_nil⟩
  · cases h; exact armUnlessPreempted_stepped rfl
  · split at h
    · cases h; exact ⟨.inl (recordLaunchFailure_only ..), by simp [LaunchPc.ahead], sendsOwn_nil⟩
    · cases h
  · cases h; exact unexpectedError_stepped ..
  · cases h
/-- Every step of `_launch_one` is one. -/
lemma stepOne_stepped {ekf : Bool} (h : stepOne ekf m d pc reply = some r) :
    OneStepped m d pc r.1 r.2.1 r.2.2 := by
  cases pc with
  | begin => cases h; exact beginLaunch_stepped m d
  | staggering => cases h; exact calibrateFrom_stepped ekf 0 rfl
  | calibrating k =>
    simp only [stepOne] at h
    split at h
    · cases h; exact awaitArmable_stepped ekf rfl
    · cases h; exact calibrateFrom_stepped ekf (k + 1) rfl
  | waitingArmable deadline => exact armableReply_stepped h
  | arming =>
    simp only [stepOne] at h
    split at h
    · cases h
      exact ⟨.inl (recordLaunchFailure_only ..), by simp [LaunchPc.ahead], sendsOwn_nil⟩
    · -- the initial setpoint holds the drone on its pad
      cases h
      exact ⟨.inl (.refl m), fun _ => ⟨rfl, by simp⟩, sendsOwn_call fun _ => by simp [putsUp]⟩
  | settingInitial =>
    simp only [stepOne] at h
    split at h
    · cases h; exact failOnPad_stepped ..
    · split at h
      · cases h; exact ⟨.inl (.refl m), by simp [LaunchPc.ahead], sendsOwn_nil⟩
      next he =>
        cases h
        exact ⟨.inl (.refl m), fun _ => ⟨rfl, by simp⟩, sendsOwn_up rfl (by simpa using he)⟩
  | startingOffboard =>
    simp only [stepOne] at h
    split at h
    · cases h
      exact ⟨.inl (recordLaunchFailure_only ..), by simp [LaunchPc.ahead], sendsOwn_call fun _ => rfl⟩
    · cases h; exact confirmOffboard_stepped _ rfl
  | confirming deadline => cases h; exact confirmOffboard_stepped deadline rfl
  | climbing =>
    simp only [stepOne] at h
    split at h
    · cases h; exact failOnPad_stepped ..
    · cases h; exact ⟨.inl (trackClimb_only ..), by simp [LaunchPc.ahead], sendsOwn_nil⟩
  | disarming onPad =>
    simp only [stepOne] at h
    split at h
    · split at h
      · cases h; exact ⟨.inl (.refl m), by simp [LaunchPc.ahead], sendsOwn_nil⟩
      · cases h; exact unexpectedError_stepped ..
    · cases h; exact ⟨.inl (.refl m), by simp [LaunchPc.ahead], sendsOwn_nil⟩
  | returned => cases h

variable {os : List Sent}

/-- A step of a coroutine is a step of `_launch_one` and the coroutine's new place. -/
lemma stepDrone_some {j : Nat} (h : stepDrone m i j reply = some (m', os)) :
    ∃ t batch rest one m1 pc', m.launch.tasks[i]? = some t ∧ t.stage = .running batch rest ∧
      batch[j]? = some one ∧ OneStepped m one.droneId one.pc m1 pc' os ∧
      m' = setLaunch m1 i { t with stage := .running (batch.set j { one with pc := pc' }) rest } := by
  unfold stepDrone at h
  split at h
  · cases h
  next t ht =>
    split at h
    next batch rest hstage =>
      split at h
      · cases h
      next one hone =>
        obtain ⟨r, hr, hm'⟩ := Option.map_eq_some_iff.mp h
        cases hm'
        exact ⟨t, batch, rest, one, r.1, r.2.1, ht, hstage, hone, stepOne_stepped hr, rfl⟩
    · cases h

/-- The launch may still put drone `d` up. A fleet-wide launch that has not begun
has yet to choose its drones. -/
def LaunchStage.pending (d : Nat) : LaunchStage → Bool
  | .created none => false
  | .created (some droneIds) => droneIds.contains d
  | .running batch rest =>
    rest.contains d || batch.any fun one => one.droneId = d && LaunchPc.ahead one.pc
  | .finished => false

lemma mem_launchList {droneIds : Option (List Nat)} {ids : List Nat}
    (h : launchList setup m droneIds = some ids) (hd : d ∈ ids) :
    match droneIds with
    | none => m.isAborted d = false
    | some named => d ∈ named := by
  cases droneIds with
  | none =>
    simp only [launchList] at h
    split at h
    · cases h
    · split at h
      · cases h
        simpa using (List.mem_filter.mp hd).2
      · cases h
  | some named =>
    simp only [launchList] at h
    split at h
    · cases h; exact (List.mem_filter.mp hd).1
    · split at h
      · cases h
      · split at h
        · cases h; exact (List.mem_filter.mp (List.mem_filter.mp hd).1).1
        · cases h

lemma startLaunch_only (m : DroneManager) (droneIds : Option (List Nat)) (ekf wrapped : Bool) :
    ∃ launch, startLaunch m droneIds ekf wrapped = { m with launch := launch } := by
  unfold startLaunch
  dsimp only
  split <;> exact ⟨_, rfl⟩

/-- The stage a sequence goes on to: done, or at a batch of `ids` that begins. -/
def Gathered (ids : List Nat) (stage : LaunchStage) : Prop :=
  stage = .finished ∨ stage = .running ((ids.take launchBatchSize).map fun d => { droneId := d })
      (ids.drop launchBatchSize)

/-- A step of the `i`-th launch sequence: it ends, or gathers drones it still had
to fly. -/
structure SequenceStepped (m : DroneManager) (i : Nat) (m' : DroneManager) : Prop where
  frame : ∃ launch, m' = { m with launch := launch }
  task : m'.launch.launchTask = m.launch.launchTask
  own : ∃ t t' ids, m.launch.tasks[i]? = some t ∧ t.stage ≠ .finished ∧
    m'.launch.tasks = m.launch.tasks.set i t' ∧ Gathered ids t'.stage ∧
    ∀ d ∈ ids, t.stage = .created none ∧ m.isAborted d = false ∨
      LaunchStage.pending d t.stage = true

lemma nextBatch_gathered (m : DroneManager) (i : Nat) (t : LaunchTask) (ids : List Nat) :
    ∃ launch t', nextBatch m i t ids = { m with launch := launch } ∧
      launch.launchTask = m.launch.launchTask ∧ launch.tasks = m.launch.tasks.set i t' ∧
      Gathered ids t'.stage := by
  unfold nextBatch finishLaunch
  dsimp only
  split
  · split <;> exact ⟨_, _, rfl, rfl, rfl, .inl rfl⟩
  · exact ⟨_, _, rfl, rfl, rfl, .inr rfl⟩

lemma stepSequence_stepped
    (h : stepSequence setup m i = some (m', os)) : SequenceStepped m i m' ∧ os = [] := by
  unfold stepSequence at h
  split at h
  · cases h
  next t ht =>
    have hgather : ∀ (l : Launch) (ids : List Nat),
        l.launchTask = m.launch.launchTask → l.tasks = m.launch.tasks → t.stage ≠ .finished →
        (∀ d ∈ ids, t.stage = .created none ∧ m.isAborted d = false ∨
          LaunchStage.pending d t.stage = true) →
        SequenceStepped m i (nextBatch { m with launch := l } i t ids) := by
      intro l ids htask htasks hlive hids
      obtain ⟨launch, t', hm', htask', htasks', hg⟩ := nextBatch_gathered { m with launch := l } i t ids
      rw [hm']
      exact ⟨⟨_, rfl⟩, htask'.trans htask,
        t, t', ids, ht, hlive, htasks'.trans (by rw [htasks]), hg, hids⟩
    split at h
    next droneIds hstage =>
      cases h
      refine ⟨?_, rfl⟩
      unfold beginSequence
      dsimp only
      split
      · have hend := hgather
          { m.launch with launchPlanned := [], launchFailures := [], climbs := [] } [] rfl rfl
          (by simp [hstage]) (by simp)
        simpa only [nextBatch, if_true] using hend
      next ids hids =>
        refine hgather { m.launch with launchPlanned := ids, launchFailures := [], climbs := [] }
          ids rfl rfl (by simp [hstage]) fun d hd => ?_
        have hmem := mem_launchList hids hd
        cases droneIds with
        | none => exact .inl ⟨hstage, hmem⟩
        | some named => exact .inr (by rw [hstage]; simpa [LaunchStage.pending] using hmem)
    next batch rest hstage =>
      split at h
      · cases h
        refine ⟨hgather m.launch rest rfl rfl (by simp [hstage]) fun d hd => .inr ?_, rfl⟩
        rw [hstage]
        simp [LaunchStage.pending, hd]
      · cases h
    · cases h

lemma stepRecovery_some {k : Nat} (h : stepRecovery m k = some (m', os)) :
    ∃ recoveries, m' = { m with launch := { m.launch with recoveries := recoveries } } := by
  simp only [stepRecovery, Option.bind_eq_bind, Option.bind_eq_some_iff] at h
  obtain ⟨r, -, r', -, h⟩ := h
  cases h
  exact ⟨_, rfl⟩

/-- A recovery calls its drone down, and disarms it on the ground only. -/
lemma stepRecovery_calls {k : Nat} (h : stepRecovery m k = some (m', os)) : ∀ s ∈ os, ∃ d c,
    s = .call d c ∧
      (c = .disarm ∧ onGroundNow m (m.telemetry d) = true ∨ c = .offboardStop ∨ c = .land) := by
  simp only [stepRecovery, Option.bind_eq_bind, Option.bind_eq_some_iff] at h
  obtain ⟨r, -, ⟨r', sent⟩, hr, h⟩ := h
  cases h
  simp only [recoverFailedLaunch] at hr
  split at hr
  · split at hr
    · cases hr; simp
    · split at hr
      next hground =>
        cases hr
        simpa using hground
      next => split at hr <;> cases hr <;> simp
  · cases hr; simp
  · cases hr; simp
  · cases hr; simp
  · cases hr

end Taramandal.Gcs.Launch
