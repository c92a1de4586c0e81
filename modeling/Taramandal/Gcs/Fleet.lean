import Taramandal.Gcs.Handlers
import Taramandal.Gcs.Lifecycle
import Taramandal.Gcs.Telemetry

/-! # The station as one system

Every task on the event loop runs from one of its awaits to the next without
being interrupted, so a schedule of the station is a list of such steps. The
label of a step says which task runs and everything the code does not decide
itself: the request, the reply of a vehicle, what fails outside, the time. -/
namespace Taramandal.Gcs.Fleet

open Lib.Run Core.Values Core.Shows Core.Validate Gcs.FleetFsm Gcs.TrajectoryParser Gcs.State
open Gcs.Telemetry Gcs.Playback Gcs.Emergency Gcs.Launch Gcs.Lifecycle Gcs.Staging Gcs.Handlers

/-- A request to the API. -/
inductive Request where
  | launch (decision : Option (List Nat × Bool))
  | startTrajectory (req : StartRequest)
  | stopTrajectory
  | emergency (mode : AbortMode) (trigger : String)
  | abort (droneId : Nat) (mode : AbortMode)
  | uploadTrajectory (filename : String) (signed : Bool) (contentLength : Option Nat)
  | uploadMission
  | resumeShow (gated : Except String (Show ℚ))
  | discardShow

/-- A call of one of the manager's methods, past the API. -/
inductive Method where
  | launchSequence (droneIds : Option (List Nat)) (requireEkfHealth wrapped : Bool)
  | startTrajectory (trajectory : Show ℚ) (req : StartRequest)
  | stopTrajectory
  | uploadShow (trajectory : Show ℚ)

inductive Label where
  | api (operator : String) (r : Request) (faults : Faults)
  | method (c : Method) (faults : Faults)
  | failsafe (trigger : String) (faults : Faults)
  | tick (faults : Faults)
  | sequence (i : Nat)
  | drone (i j : Nat) (reply : Reply)
  | recovery (k : Nat) (reply : Reply)
  | command (k : Nat) (reply : Reply)
  | playback (i : Nat) (faults : Faults)
  | setpoint (i k : Nat) (reply : Reply)
  | snapshot (faults : Faults)
  | receive (i : Nat) (chunk : Bytes)
  | transfer (u k : Nat) (reply : FtpReply)
  | telemetry (droneId : Nat) (ev : TelemetryEvent)
  | clock (elapsed : ℚ) (time : ℚ)
  /-- The bench sequence takes and releases drones. -/
  | bench (droneIds : List Nat)

def handle (setup : Setup) (m : DroneManager) (operator : String) (faults : Faults) :
    Request → Handled
  | .launch decision => launchFleet setup m faults operator decision
  | .startTrajectory req => startShow setup m faults operator req
  | .stopTrajectory => stopShow m faults operator
  | .emergency mode trigger =>
    if setup.controllerMissing then (m, [], controllerRefusal (fleetLabel mode))
    else emergency m faults mode operator trigger
  | .abort d mode =>
    if setup.controllerMissing then (m, [], controllerRefusal (droneLabel mode))
    else abortDrone m d mode
  | .uploadTrajectory filename signed contentLength =>
    uploadTrajectory m faults operator filename signed contentLength
  | .uploadMission => uploadMissions setup m faults operator
  | .resumeShow gated => resumeShow setup m faults operator gated
  | .discardShow => discardShow m faults operator

def call (setup : Setup) (m : DroneManager) (faults : Faults) : Method → DroneManager × List Sent
  | .launchSequence droneIds requireEkfHealth wrapped =>
    (startLaunch m droneIds requireEkfHealth wrapped, [])
  | .startTrajectory trajectory req =>
    let r := startTrajectory setup faults trajectory req m
    (r.1, r.2.1)
  | .stopTrajectory =>
    let r := stopTrajectory faults m
    (r.1, r.2.1)
  | .uploadShow trajectory => ((uploadShow setup m trajectory).1, [])

def stepEmergency (m : DroneManager) (k : Nat) (reply : Reply) : Option (DroneManager × List Sent) :=
  (forEachDrone m.commands (k, reply)).map fun r => ({ m with commands := r.1 }, r.2)

def step (setup : Setup) : System DroneManager Label Sent := fun m l =>
  match l with
  | .api operator r faults =>
    let h := handle setup m operator faults r
    some (h.1, h.2.1)
  | .method c faults => some (call setup m faults c)
  | .failsafe trigger faults =>
    let h := emergency m faults .rtl systemOperator trigger
    some (h.1, h.2.1)
  | .tick faults => some (evaluateLifecycle m faults)
  | .sequence i => stepSequence setup m i
  | .drone i j reply => stepDrone m i j reply
  | .recovery k _ => stepRecovery m k
  | .command k reply => stepEmergency m k reply
  | .playback i faults => stepTask m i faults
  | .setpoint i k reply => stepSend m i k reply
  | .snapshot faults => writeSnapshot m faults
  | .receive i chunk => stepReceive setup m i chunk
  | .transfer u k reply => stepTransfer m u k reply
  | .telemetry d ev => if m.drones.contains d then some (telemetryStep m d ev, []) else none
  | .clock elapsed time =>
    if 0 ≤ elapsed then some ({ m with monotonic := m.monotonic + elapsed, time := time }, [])
    else none
  | .bench droneIds => some ({ m with singleDroneSequenceActive := droneIds }, [])

def hoverShow : Show ℚ := ⟨[(0, [{ time := 0, x := 0, y := 0, z := -2, yaw := 0 }])], by decide⟩

def hoverFile : String :=
  "\x7b\"version\": 1, \"drones\": [\x7b\"id\": 0, \"waypoints\": [\x7b\"time\": 0, \"x\": 0, " ++
    "\"y\": 0, \"z\": -2, \"yaw\": 0\x7d]\x7d]\x7d"

def hoverJson : PyVal ℚ :=
  .dict [("version", .int 1), ("drones", .list [.dict [("id", .int 0), ("waypoints", .list
    [.dict [("time", .int 0), ("x", .int 0), ("y", .int 0), ("z", .int (-2)), ("yaw", .int 0)]])]])]

/-- The station over the simulated fleet, with no trust policy. Of the files and
the digests it reads those of the show above. -/
def simSetup : Setup where
  backend := "sim"
  broadcastTransmit := true
  startBridgePeakSpeedMs := 2
  flightBlocked := false
  controllerMissing := false
  sha256 := fun _ =>
    [39, 110, 65, 113, 35, 120, 208, 252, 136, 93, 205, 65, 51, 178, 117, 119, 239, 47, 24, 228, 205,
      21, 134, 65, 92, 101, 36, 96, 230, 158, 143, 237]
  tree := bruteForce
  trustCheck := fun _ _ _ => .ok ()
  readers := { noReaders with
    decodeUtf8 := fun _ => .ok hoverFile
    jsonLoads := fun _ => .ok hoverJson }

def onPad : DroneManager where
  drones := [0]
  telemetry := fun _ => { connected := true, linkUp := true, batteryPercent := 90, satellites := 12 }

/-- Launch drone 0, up to its hover altitude: it is calibrated, armed, switched
to OFFBOARD and sent up, and the monitor follows. -/
def climbOut : List Label :=
  [.api "operator" (.launch (some ([0], false))) {}, .sequence 0] ++
    List.replicate 8 (.drone 0 0 .ok) ++
  [.telemetry 0 (.item (.armed true)), .telemetry 0 (.item (.flightMode "OFFBOARD")),
    .telemetry 0 (.item (.connectionState true)), .drone 0 0 .ok, .drone 0 0 .ok, .sequence 0,
    .tick {}, .telemetry 0 (.item (.positionVelocityNed 0 0 (-2))), .tick {}]

/-! ## What a step can do -/

/-- A label that starts a show: a start request that gets past every check, or a
direct call, with a show that can be planned and a saved-show file that can be
removed. -/
def startsShow (setup : Setup) (m : DroneManager) : Label → Bool
  | .api _ (.startTrajectory req) faults =>
    !setup.flightBlocked && m.launch.launchFailures = [] && m.fsm.state = .formationHold &&
      ((loadedShow m).any fun trajectory => (startPlan setup m trajectory req.execution).toBool) &&
      faults.removal ≠ .failed
  | .method (.startTrajectory trajectory req) faults =>
    (startPlan setup m trajectory req.execution).toBool && faults.removal ≠ .failed
  | _ => false

/-- How the lifecycle moves where a show is stopped: not at all, back into
formation, or into an emergency. -/
def StopMove (m : DroneManager) (s' : LifecycleState) : Prop :=
  s' = m.fsm.state ∨ (m.fsm.state = .running ∧ s' = .formationHold) ∨ emergencyStates.contains s'

/-- The step of the system, one case for each thing that can happen. -/
inductive Stepped (setup : Setup) (m : DroneManager) : Label → DroneManager → Prop where
  | refused {l m'} (h : AuditOnly m m') : Stepped setup m l m'
  | launched {operator droneIds ekf faults f auditFile}
      (accepted : (launchFleet setup m faults operator (some (droneIds, ekf))).2.2 = .ok)
      (ground : m.fsm.state = .staged ∨ m.fsm.state = .disarmed) (move : f.state = .prearm) :
      Stepped setup m (.api operator (.launch (some (droneIds, ekf))) faults)
        (startLaunch { m with fsm := f, auditFile := auditFile } (some droneIds) ekf true)
  | called {droneIds ekf wrapped faults} :
      Stepped setup m (.method (.launchSequence droneIds ekf wrapped) faults)
        (startLaunch m droneIds ekf wrapped)
  | started {l f auditFile active radius soft playback} (starts : startsShow setup m l = true)
      (show_ : Started m.playback playback)
      (move : f.state = m.fsm.state ∨ m.fsm.state = .formationHold ∧ f.state = .running) :
      Stepped setup m l { m with
        fsm := f, auditFile := auditFile, activeTrajectory := active, geofenceRadius := radius
        softGeofenceRadius := soft, playback := playback }
  | stopped {l f auditFile playback commands} (show_ : Stopped m.playback playback)
      (move : StopMove m f.state) :
      Stepped setup m l { m with
        fsm := f, auditFile := auditFile, playback := playback, commands := commands }
  | aborted {operator d mode faults tel commands} (flag : tel.aborted.isSome = true) :
      Stepped setup m (.api operator (.abort d mode) faults)
        { m.setTelemetry d tel with commands := commands }
  | saved {l active pending mode file} (idle : m.fsm.state ≠ .running ∨ active = m.activeTrajectory) :
      Stepped setup m l { m with
        activeTrajectory := active, pendingResumeState := pending
        playback := { m.playback with showMode := mode, savedShow := file } }
  | receiving {l r} (idle : m.fsm.state ≠ .running) :
      Stepped setup m l { m with receives := m.receives ++ [r] }
  | uploaded {l} (trajectory : Show ℚ)
      (idle : m.fsm.state ≠ .running ∨ ∃ c faults, l = .method c faults) :
      Stepped setup m l (uploadShow setup m trajectory).1
  | ticked {faults m'} (h : Ticked m m') : Stepped setup m (.tick faults) m'
  | sequence {i m'} (h : SequenceStepped m i m') : Stepped setup m (.sequence i) m'
  | drone {i j reply t batch rest one m1 pc' os} (task : m.launch.tasks[i]? = some t)
      (stage : t.stage = .running batch rest) (one_ : batch[j]? = some one)
      (h : OneStepped m one.droneId one.pc m1 pc' os) :
      Stepped setup m (.drone i j reply)
        (setLaunch m1 i { t with stage := .running (batch.set j { one with pc := pc' }) rest })
  | recovery {k reply recoveries} :
      Stepped setup m (.recovery k reply) { m with launch := { m.launch with recoveries := recoveries } }
  | command {k reply commands} : Stepped setup m (.command k reply) { m with commands := commands }
  | playback {i faults t m'} (task : m.playback.tasks[i]? = some t) (live : t.pc ≠ .finished)
      (h : TaskStepped m i t.cancelRequested m')
      (cancel : t.cancelRequested = true → m' = deliverCancel m i t faults) :
      Stepped setup m (.playback i faults) m'
  | setpoint {i k reply t sends} (task : m.playback.tasks[i]? = some t) :
      Stepped setup m (.setpoint i k reply) (setTask m i { t with sends := sends })
  | snapshot {faults file} :
      Stepped setup m (.snapshot faults) { m with playback := { m.playback with savedShow := file } }
  | receive {i chunk r r' active radius soft} (request : m.receives[i]? = some r)
      (live : r.pc ≠ .returned) :
      Stepped setup m (.receive i chunk) { m with
        activeTrajectory := active, geofenceRadius := radius, softGeofenceRadius := soft
        receives := m.receives.set i r' }
  | transfer {u k reply m' os} (h : stepTransfer m u k reply = some (m', os)) :
      Stepped setup m (.transfer u k reply) m'
  | telemetry {d ev m'} (h : TelemetryOnly m m') : Stepped setup m (.telemetry d ev) m'
  | clock {elapsed time} : Stepped setup m (.clock elapsed time)
      { m with monotonic := m.monotonic + elapsed, time := time }
  | bench {droneIds} : Stepped setup m (.bench droneIds)
      { m with singleDroneSequenceActive := droneIds }

variable {setup : Setup} {m : DroneManager} {l : Label}

lemma stepped_start (faults : Faults)
    (trajectory : Show ℚ) (req : StartRequest) (f : FleetStateMachine) (auditFile : List AuditEntry)
    (starts : (startPlan setup m trajectory req.execution).toBool = true →
      faults.removal ≠ .failed → startsShow setup m l = true)
    (move : f.state = m.fsm.state ∨ m.fsm.state = .formationHold ∧ f.state = .running)
    (hok : (startTrajectory setup faults trajectory req m).2.2 = none) :
    Stepped setup m l { (startTrajectory setup faults trajectory req m).1 with
      fsm := f, auditFile := auditFile } := by
  rcases startTrajectory_cases setup faults trajectory req m with
    ⟨h, -⟩ | ⟨-, hplan, hremoval, _, _, _, _, h, hstarted⟩
  · exact absurd hok h
  · rw [h]
    exact .started (starts hplan hremoval) hstarted move

lemma stepped_start_raised {faults : Faults} {trajectory : Show ℚ} {req : StartRequest}
    (hraised : (startTrajectory setup faults trajectory req m).2.2 ≠ none) :
    Stepped setup m l (startTrajectory setup faults trajectory req m).1 := by
  rcases startTrajectory_cases setup faults trajectory req m with ⟨-, h | h⟩ | ⟨h, -⟩
  · rw [h]
    exact .refused (.refl m)
  · obtain ⟨playback, hm, hstopped, -⟩ := stopTrajectory_stopped faults m
    rw [h, hm]
    exact .stopped hstopped (.inl rfl)
  · exact absurd h hraised

lemma emergencyState_mem (mode : AbortMode) :
    emergencyStates.contains (emergencyState mode) = true := by
  cases mode <;> rfl

section

variable (setup : Setup) (m : DroneManager)

lemma stepped_emergency (l : Label) (faults : Faults)
    (mode : AbortMode) (operator trigger : String) :
    Stepped setup m l (emergency m faults mode operator trigger).1 := by
  obtain ⟨f, _, _, _, hf, hstopped, h⟩ := emergency_moved m faults mode operator trigger
  rw [h]
  exact .stopped hstopped (.inr (.inr (by rw [hf]; exact emergencyState_mem mode)))

lemma handle_stepped (operator : String) (faults : Faults) (r : Request) :
    Stepped setup m (.api operator r faults) (handle setup m operator faults r).1 := by
  cases r with
  | launch decision =>
    rcases launchFleet_cases setup m faults operator decision with
      h | ⟨_, _, _, _, rfl, hground, hf, h⟩
    · exact .refused h.audit
    · simp only [handle, h]
      exact .launched (by rw [h]) hground hf
  | startTrajectory req =>
    rcases startShow_cases setup m faults operator req with
      h | ⟨hhold, hfailures, hblocked, trajectory, hload, ⟨e, hraised, h⟩ | ⟨hok, f, _, hf, h⟩⟩
    · exact .refused h.audit
    · simp only [handle, h]
      exact stepped_start_raised (by rw [hraised]; simp)
    · simp only [handle, h]
      exact stepped_start faults trajectory req _ _
        (fun hplan hremoval => by
          simp [startsShow, hblocked, hfailures, hhold, hload, hplan, hremoval])
        (.inr ⟨hhold, hf⟩) hok
  | stopTrajectory =>
    rcases stopShow_cases m faults operator with h | ⟨hrun, f, _, hf, h⟩
    · exact .refused h.audit
    · obtain ⟨_, hm, hstopped, -⟩ := stopTrajectory_stopped faults m
      simp only [handle, h, hm]
      refine .stopped hstopped ?_
      rcases hf with hf | hf
      · exact .inl (by rw [hf, hrun])
      · exact .inr (.inl ⟨hrun, hf⟩)
  | emergency mode trigger =>
    simp only [handle]
    split
    · exact .refused (.refl m)
    · exact stepped_emergency ..
  | abort d mode =>
    simp only [handle]
    split
    · exact .refused (.refl m)
    · rcases abortDrone_cases m d mode with h | ⟨_, _, hflag, -, h⟩
      · exact .refused h.audit
      · rw [h]
        exact .aborted hflag
  | uploadTrajectory filename signed contentLength =>
    rcases uploadTrajectory_cases m faults operator filename signed contentLength with
      h | ⟨hidle, _, h⟩
    · exact .refused h.audit
    · simp only [handle, h]
      exact .receiving hidle
  | uploadMission =>
    rcases uploadMissions_cases setup m faults operator with h | ⟨hidle, trajectory, -, h⟩
    · exact .refused h.audit
    · simp only [handle, h]
      exact .uploaded trajectory (.inl hidle)
  | resumeShow gated =>
    rcases resumeShow_cases setup m faults operator gated with h | ⟨hidle, _, _, _, _, h⟩
    · exact .refused h.audit
    · simp only [handle, h]
      exact .saved (.inl hidle)
  | discardShow =>
    rcases discardShow_cases m faults operator with h | ⟨_, _, h⟩
    · exact .refused h.audit
    · simp only [handle, h]
      exact .saved (.inr rfl)

lemma call_stepped (faults : Faults) (c : Method) :
    Stepped setup m (.method c faults) (call setup m faults c).1 := by
  cases c with
  | launchSequence droneIds ekf wrapped => exact .called
  | startTrajectory trajectory req =>
    cases hr : (startTrajectory setup faults trajectory req m).2.2 with
    | none =>
      have hfsm : (startTrajectory setup faults trajectory req m).1.fsm.state = m.fsm.state := by
        rcases startTrajectory_cases setup faults trajectory req m with
          ⟨h, -⟩ | ⟨-, -, -, _, _, _, _, h, -⟩
        · exact absurd hr h
        · rw [h]
      exact stepped_start faults trajectory req
        (startTrajectory setup faults trajectory req m).1.fsm
        (startTrajectory setup faults trajectory req m).1.auditFile
        (fun hplan hremoval => by simp [startsShow, hplan, hremoval]) (.inl hfsm) hr
    | some e => exact stepped_start_raised (by rw [hr]; simp)
  | stopTrajectory =>
    obtain ⟨_, hm, hstopped, -⟩ := stopTrajectory_stopped faults m
    simp only [call, hm]
    exact .stopped hstopped (.inl rfl)
  | uploadShow trajectory => exact .uploaded trajectory (.inr ⟨_, _, rfl⟩)

end

lemma step_stepped {m' : DroneManager} {os : List Sent}
    (h : step setup m l = some (m', os)) : Stepped setup m l m' := by
  cases l with
  | api operator r faults => cases h; exact handle_stepped ..
  | method c faults =>
    have hm' : (call setup m faults c).1 = m' := congrArg Prod.fst (Option.some.inj h)
    rw [← hm']
    exact call_stepped ..
  | failsafe trigger faults => cases h; exact stepped_emergency ..
  | tick faults =>
    have hm' : (evaluateLifecycle m faults).1 = m' := congrArg Prod.fst (Option.some.inj h)
    rw [← hm']
    exact .ticked (evaluateLifecycle_ticked m faults)
  | sequence i => exact .sequence (stepSequence_stepped h).1
  | drone i j reply =>
    obtain ⟨_, _, _, _, _, _, ht, hstage, hone, hstepped, rfl⟩ := stepDrone_some h
    exact .drone ht hstage hone hstepped
  | recovery k reply =>
    obtain ⟨_, rfl⟩ := stepRecovery_some h
    exact .recovery
  | command k reply =>
    obtain ⟨_, -, hm'⟩ := Option.map_eq_some_iff.mp h
    cases hm'
    exact .command
  | playback i faults =>
    obtain ⟨_, ht, hlive, hstepped, hcancel⟩ := stepTask_stepped h
    exact .playback ht hlive hstepped hcancel
  | setpoint i k reply =>
    obtain ⟨_, _, ht, rfl⟩ := stepSend_some h
    exact .setpoint ht
  | snapshot faults =>
    obtain ⟨_, rfl, -⟩ := writeSnapshot_some h
    exact .snapshot
  | receive i chunk =>
    obtain ⟨_, _, _, _, _, hr, hlive, rfl⟩ := stepReceive_some h
    exact .receive hr hlive
  | transfer u k reply => exact .transfer h
  | telemetry d ev =>
    simp only [step] at h
    split at h
    · cases h; exact .telemetry (telemetryStep_frame m d ev)
    · cases h
  | clock elapsed time =>
    simp only [step] at h
    split at h
    · cases h; exact .clock
    · cases h
  | bench droneIds => cases h; exact .bench

end Taramandal.Gcs.Fleet
