import Taramandal.Core.Mission
import Taramandal.Gcs.FleetFsm
import Taramandal.Gcs.Geofence
import Taramandal.Gcs.TrajectoryParser

/-! # The drone manager's state (`DroneManager.__init__`)

Everything the manager and the API handlers share on the event loop: the
telemetry table, the lifecycle machine, the loaded and the staged show, the
playback, the launch, and the tasks in flight with the await each is suspended
at. The other modules are the code that runs on it, from one await to the next. -/
namespace Taramandal.Gcs.State

open Lib.Dict Core.Values Core.Shows Core.Safety Core.Validate Core.Mission
open Gcs.FleetFsm Gcs.StartBridge Gcs.Geofence Gcs.TrajectoryParser

/-- A call on a vehicle. A global setpoint carries what its coordinates are
computed from. -/
inductive VehicleCall where
  | setParam (name : String) (value : ℚ)
  | arm | disarm | land | returnToLaunch | kill
  | offboardStart | offboardStop
  | setPositionNed (north east down yaw : ℚ)
  | setPositionGlobal (relX relY homeLat homeLon altM yaw : ℚ)
  | setPositionVelocityAccelerationNed (north east down yaw : ℚ) (velocity : Point ℚ)
  deriving DecidableEq

/-- What leaves the station: a call on one drone, or a broadcast frame. -/
inductive Sent where
  | call (droneId : Nat) (c : VehicleCall)
  | broadcast (frame : Bytes)
  deriving DecidableEq

/-- What an awaited operation came to. The last three are what waiting for a
health report can come to. -/
inductive Reply where
  | ok
  | raised (message : String)
  | health (armable homeOk : Bool)
  | streamEnded
  | timedOut

/-- Removing the saved-show file: done, no such file, or another `OSError`. -/
inductive Removal where
  | removed | notFound | failed
  deriving DecidableEq

/-- What goes wrong outside the process during a step: the audit file cannot be
written, a broadcast raises, the saved-show file cannot be removed or written. -/
structure Faults where
  auditWrite : Bool := false
  broadcast : Bool := false
  removal : Removal := .removed
  snapshotWrite : Bool := false

inductive AbortMode where
  | rtl | land | estop
  deriving DecidableEq

/-- The `aborted` entry of a drone: how, and when. -/
structure Abort where
  mode : AbortMode
  at_ : ℚ

/-- A drone's entry in `self.telemetry`. A flight mode and a landed state are
whatever name the vehicle reports. -/
structure Telemetry where
  connected : Bool := false
  armed : Bool := false
  flightMode : String := "UNKNOWN"
  batteryPercent : ℚ := 0
  batteryVoltage : ℚ := 0
  gpsLock : Bool := false
  satellites : ℤ := 0
  gpsFixType : String := "NO_GPS"
  commLatencyMs : ℚ := 0
  homeLat : ℚ := 0
  homeLon : ℚ := 0
  homeAlt : ℚ := 0
  localX : ℚ := 0
  localY : ℚ := 0
  localZ : ℚ := 0
  fleetX : ℚ := 0
  fleetY : ℚ := 0
  fleetZ : ℚ := 0
  plannedX : ℚ := 0
  plannedY : ℚ := 0
  plannedZ : ℚ := 0
  plannedValid : Bool := false
  linkStableSince : Option ℚ := none
  healthArmable : Bool := false
  healthHomeOk : Bool := false
  aborted : Option Abort := none
  lastHeartbeat : Option ℚ := none
  positionAt : Option ℚ := none
  landedState : Option String := none
  landedStateAt : Option ℚ := none
  linkUp : Bool := false
  telemetryStale : Bool := false
  staleStreams : List String := []

inductive MissionStatus where
  | pending | uploading | verified | mismatch | failed
  deriving DecidableEq

def MissionStatus.value : MissionStatus → String
  | .pending => "PENDING"
  | .uploading => "UPLOADING"
  | .verified => "VERIFIED"
  | .mismatch => "MISMATCH"
  | .failed => "FAILED"

/-- One drone's entry in the staged show. -/
structure MissionEntry where
  status : MissionStatus
  bytes : Nat
  crc32 : String
  msg : String

/-- `staged_show`. Its `drones` table is the one the upload that set it goes on
writing to; `upload` says which that is. -/
structure StagedShow where
  upload : Nat
  showId : ShowId
  trajectory : Plan ℚ
  drones : Dict Nat MissionEntry
  excluded : Dict Nat String

/-- A saved show, on disk or loaded at startup. -/
structure SavedShow where
  savedAt : ℚ
  mode : String
  showStartedAt : ℚ
  trajectory : Show ℚ

/-- Where `_run_trajectory_loop` is suspended. From `sending` on it is inside
its `try`. -/
inductive PlaybackPc where
  | created
  | releasing
  | triggering (startS : ℚ)
  | waiting
  | sending
  | sleeping
  | finished
  deriving DecidableEq

/-- One `_send_setpoint` of a tick, as a task of its own. -/
inductive SendPc where
  | created | awaiting | sent | raised
  deriving DecidableEq

structure SendTask where
  droneId : Nat
  setpoint : VehicleCall
  pc : SendPc := .created

structure PlaybackTask where
  plan : Plan ℚ
  mode : String
  triggerEpochMs : ℚ
  onboard : Bool
  showId : ShowId := []
  startTime : ℚ := 0
  pc : PlaybackPc := .created
  cancelRequested : Bool := false
  sends : List SendTask := []

structure Playback where
  isRunningTrajectory : Bool := false
  playingTrajectory : Option (Plan ℚ) := none
  startBridgeS : ℚ := 0
  playbackStartTime : Option ℚ := none
  isRecordingTelemetry : Bool := false
  /-- A snapshot task is alive. -/
  snapshotting : Bool := false
  onboardShowId : Option ShowId := none
  showMode : String := "LOCAL"
  showStartedAt : Option ℚ := none
  /-- The saved-show file. -/
  savedShow : Option SavedShow := none
  trajectoryTask : Option Nat := none
  tasks : List PlaybackTask := []

/-! ## The launch -/

structure Climb where
  targetM : ℚ
  budgetS : ℚ
  deadline : ℚ
  reached : Bool

/-- Where `_launch_one` is suspended. -/
inductive LaunchPc where
  | begin
  | staggering
  | calibrating (k : Nat)
  | waitingArmable (deadline : ℚ)
  | arming
  | settingInitial
  | startingOffboard
  | confirming (deadline : ℚ)
  | climbing
  /-- `disarming true` is `_disarm_on_pad`, which keeps a failure to itself. -/
  | disarming (onPad : Bool)
  | returned
  deriving DecidableEq

structure LaunchOne where
  droneId : Nat
  pc : LaunchPc := .begin
  deriving DecidableEq

/-- `launch_sequence`, before its first step, at the batch it has gathered with
the drones after it, or done. -/
inductive LaunchStage where
  | created (droneIds : Option (List Nat))
  | running (batch : List LaunchOne) (rest : List Nat)
  | finished
  deriving DecidableEq

structure LaunchTask where
  requireEkfHealth : Bool
  /-- Wrapped by `start_launch_sequence`. -/
  wrapped : Bool
  stage : LaunchStage

/-- Where `_recover_failed_launch` is suspended. -/
inductive RecoveryPc where
  | created | disarming | stopping | landing | returned

structure Recovery where
  droneId : Nat
  pc : RecoveryPc := .created

structure Launch where
  launchTask : Option Nat := none
  launchFinishedAt : Option ℚ := none
  launchPlanned : List Nat := []
  launchFailures : Dict Nat String := []
  climbs : Dict Nat Climb := []
  tasks : List LaunchTask := []
  /-- `_launch_failure_tasks`. -/
  recoveries : List Recovery := []

/-- Where a per-drone RTL, LAND or ESTOP is suspended. -/
inductive CommandPc where
  | created | stopping | commanding | returned

/-- A per-drone command: of a fleet-wide one, or of a single-drone abort. -/
structure CommandTask where
  mode : AbortMode
  droneId : Nat
  pc : CommandPc := .created

/-- What an FTP operation came to. A transfer over a bad link may leave other
bytes on the drone than were sent. -/
inductive FtpReply where
  | ok
  | raised (message : String)
  | damaged (stored : Bytes)
  | timedOut

/-- Where `_upload_mission` is suspended: for its turn, or at an FTP operation. -/
inductive TransferPc where
  | queued
  | making (k : Nat)
  | listing
  | uploading
  | comparing
  | done
  deriving DecidableEq

structure Transfer where
  droneId : Nat
  pc : TransferPc := .queued
  deadline : ℚ := 0
  lastError : Option String := none

/-- An `upload_show` past its first part: its directory and its transfers. -/
structure Upload where
  dir : Nat
  transfers : List Transfer

/-- The local mission files, by directory and drone, and what each drone stores
under the mission's remote path. `mkdtemp` hands out a directory once. -/
structure Staging where
  missionDir : Option Nat := none
  nextDir : Nat := 0
  files : Dict (Nat × Nat) Bytes := []
  storage : Nat → Option Bytes := fun _ => none
  uploads : List Upload := []

/-- Where `POST /api/upload-trajectory` is suspended. -/
inductive ReceivePc where
  | reading | readingManifest | returned
  deriving DecidableEq

/-- An `upload_trajectory` request past its checks, with what it has read. -/
structure Receive where
  filename : String
  signed : Bool
  content : Bytes := []
  pc : ReceivePc := .reading

/-! ## The manager -/

/-- What the station is built with: the backend, whether it has a broadcast
radio, whether flight actions and emergencies are blocked by the hardware gate,
the digest of the show ids, the index the separation checks use, the trust
policy and the readers of uploaded files. -/
structure Setup where
  backend : String
  broadcastTransmit : Bool
  startBridgePeakSpeedMs : ℚ
  flightBlocked : Bool
  controllerMissing : Bool
  sha256 : Bytes → Bytes
  tree : KdTree ℚ
  trustCheck : Bytes → String → Option Bytes → Except String Unit
  readers : Readers ℚ

structure DroneManager where
  /-- The keys of `self.drones` and of `self.telemetry`, in the order the drones connected. -/
  drones : List Nat
  drones_nodup : drones.Nodup := by decide
  telemetry : Nat → Telemetry := fun _ => {}
  streamsDown : Nat → List String := fun _ => []
  fsm : FleetStateMachine := {}
  /-- What the audit file holds. -/
  auditFile : List AuditEntry := []
  /-- `time.monotonic()`, which is also the event loop's clock. -/
  monotonic : ℚ := 0
  /-- `time.time()`. -/
  time : ℚ := 0
  activeTrajectory : Option (Show ℚ) := none
  geofenceRadius : ℚ := (defaultLimits : SafetyLimits ℚ).geofenceRadiusM
  softGeofenceRadius : Option ℚ := none
  stagedShow : Option StagedShow := none
  pendingResumeState : Option SavedShow := none
  singleDroneSequenceActive : List Nat := []
  playback : Playback := {}
  launch : Launch := {}
  commands : List CommandTask := []
  staging : Staging := {}
  receives : List Receive := []

/-- `open(audit_path, "a")` and the write behind it. -/
def writeAudit (fails : Bool) (file entries : List AuditEntry) : Except String (List AuditEntry) :=
  if fails then .error "OSError" else .ok (file ++ entries)

section

variable (m : DroneManager)

/-- Take over a machine that has moved or refused. `_audit` writes what it
recorded to the audit file and keeps an `OSError` to itself. -/
def DroneManager.moveFsm (auditFails : Bool) (f : FleetStateMachine) : DroneManager :=
  { m with
    fsm := f
    auditFile :=
      match writeAudit auditFails m.auditFile (f.audited.drop m.fsm.audited.length) with
      | .ok file => file
      | .error _ => m.auditFile }

@[simp] lemma moveFsm_fsm (fails : Bool) (f : FleetStateMachine) :
    (m.moveFsm fails f).fsm = f := rfl

def DroneManager.setTelemetry (d : Nat) (tel : Telemetry) : DroneManager :=
  { m with telemetry := Function.update m.telemetry d tel }

def DroneManager.health : List (Health ℚ) :=
  m.drones.map fun d =>
    { drone := d
      connected := (m.telemetry d).connected
      batteryPercent := (m.telemetry d).batteryPercent
      satellites := (m.telemetry d).satellites
      aborted := (m.telemetry d).aborted.isSome }

end

def heartbeatStaleS : ℚ := 5 / 2

def DroneManager.isHeartbeatFresh (m : DroneManager) (tel : Telemetry) : Bool :=
  tel.connected && tel.lastHeartbeat.any fun at_ => m.time - at_ ≤ heartbeatStaleS

def DroneManager.isAborted (m : DroneManager) (d : Nat) : Bool := (m.telemetry d).aborted.isSome

end Taramandal.Gcs.State
