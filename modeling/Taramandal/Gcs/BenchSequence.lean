import Taramandal.Gcs.Fleet

/-! # The single-drone bench sequence (`execute_single_drone_demo_sequence`)

Arm, climb, dwell, land and disarm one drone, each phase a polling loop of its
own over the telemetry the monitors write. Every failure past the arming, and
every cancellation of the flight, goes through `_safe_recover`, unless the fleet
is in an emergency or a pilot has been seen to take over. -/
namespace Taramandal.Gcs.BenchSequence

open Lib.Run Core.Numbers Gcs.State Gcs.Launch Gcs.Fleet

def landingOwnModes : List String := ["OFFBOARD", "HOLD", "LAND", "READY", "LANDED", "UNKNOWN"]

/-- `SINGLE_DRONE_CLIMB_STALL_WINDOW_S`. -/
def climbStallWindowS : ℚ := 10

/-- `SINGLE_DRONE_CLIMB_LIFTOFF_MARGIN_S`. -/
def climbLiftoffMarginS : ℚ := 15

/-- `SINGLE_DRONE_CLIMB_MIN_RATE_M_S`. -/
def climbMinRateMS : ℚ := 15 / 100

/-- What the sequence is called with. -/
structure Hover where
  droneId : Nat
  targetAltM : ℚ
  hoverS : ℚ

def climbCeilingS (h : Hover) : ℚ := climbLiftoffMarginS + h.targetAltM / climbMinRateMS

/-- Where `_safe_recover` is suspended. -/
inductive RecoverPc where
  | stopping | landing
  | waiting (deadline : ℚ)
  | disarming
  deriving DecidableEq

/-- What a recovery ends in: the error it was for, or the cancellation it was
for (`none`). One inside the flight phase is itself under the handler of a
cancellation. -/
structure Recovered where
  error : Option String
  inFlight : Bool
  deriving DecidableEq

inductive SequencePc where
  | arming
  | awaitingArm (deadline : ℚ)
  | settingInitial | startingOffboard | settingTarget
  | climbing (climbStart bestZ bestZAt : ℚ)
  | dwelling (dwellStart : ℚ)
  | stoppingOffboard | landing
  | awaitingTouchdown (deadline : ℚ)
  | disarming
  | awaitingDisarm (deadline : ℚ)
  | recovering (pc : RecoverPc) (after : Recovered)
  | finished (error : Option String)
  | cancelled
  deriving DecidableEq

/-- The sequence: where it is, whether it has seen OFFBOARD, the steps it has
logged, and everything it has sent to its drone. -/
structure Sequence where
  pc : SequencePc
  offboardSeen : Bool := false
  steps : List (String × String) := []
  sent : List VehicleCall := []
  deriving DecidableEq

/-- A stretch from one await to the next: the sequence, and what it sends. -/
abbrev Segment := Sequence × List VehicleCall

def Sequence.await (q : Sequence) (pc : SequencePc) : Segment := ({ q with pc := pc }, [])

def Sequence.send (q : Sequence) (pc : SequencePc) (c : VehicleCall) : Segment :=
  ({ q with pc := pc, sent := q.sent ++ [c] }, [c])

def Sequence.log (q : Sequence) (step status : String) : Sequence :=
  { q with steps := q.steps ++ [(step, status)] }

/-- An error of the sequence; a takeover is an `OperatorTakeoverError`. -/
inductive SequenceError where
  | runtime (message : String)
  | takeover (message : String)

def SequenceError.message : SequenceError → String
  | .runtime m => m
  | .takeover m => m

def SequenceError.isTakeover : SequenceError → Bool
  | .runtime _ => false
  | .takeover _ => true

def heartbeatStale (m : DroneManager) (tel : Telemetry) : Bool :=
  !tel.lastHeartbeat.any fun at_ => m.time - at_ ≤ heartbeatStaleS

def isConfirmedOnGround (m : DroneManager) (d : Nat) (context : String) :
    Except SequenceError Bool :=
  let tel := m.telemetry d
  if !tel.connected then
    .error (.runtime ("Drone " ++ toString d ++ " disconnected " ++ context))
  else if heartbeatStale m tel then
    .error (.runtime ("Drone " ++ toString d ++ " telemetry became stale " ++ context))
  else if !tel.landedStateAt.any fun at_ => m.time - at_ ≤ heartbeatStaleS then
    .error (.runtime ("Drone " ++ toString d ++ " landed-state telemetry became stale " ++ context))
  else .ok (tel.landedState = some "ON_GROUND")

/-- `_check_operator_takeover`: whether OFFBOARD has been seen by now. -/
def checkOperatorTakeover (d : Nat) (tel : Telemetry) (offboardSeen : Bool) :
    Except SequenceError Bool :=
  if tel.flightMode = "OFFBOARD" then .ok true
  else if offboardSeen then
    .error (.takeover ("Drone " ++ toString d ++ ": operator took over (flight mode left OFFBOARD " ++
      "for " ++ tel.flightMode ++ "); the sequence is yielding without commanding the vehicle"))
  else .ok offboardSeen

def checkLandingTakeover (d : Nat) (tel : Telemetry) : Except SequenceError Unit :=
  if landingOwnModes.contains tel.flightMode then .ok ()
  else .error (.takeover ("Drone " ++ toString d ++ ": operator took over during the landing " ++
    "(flight mode " ++ tel.flightMode ++ "); the sequence is yielding without commanding the vehicle"))

def yieldToEmergency (m : DroneManager) (d : Nat) (instead : String) : Except SequenceError Unit :=
  if inEmergency m then
    .error (.runtime ("Drone " ++ toString d ++ ": yielding to fleet emergency state " ++
      m.fsm.state.value ++ " instead of " ++ instead))
  else .ok ()

def checkLink (m : DroneManager) (d : Nat) (phase : String) : Except SequenceError Unit :=
  let tel := m.telemetry d
  if !tel.connected then .error (.runtime ("Drone " ++ toString d ++ " disconnected " ++ phase))
  else if heartbeatStale m tel then
    .error (.runtime ("Drone " ++ toString d ++ " telemetry became stale " ++ phase))
  else .ok ()

/-- `_safe_recover` begins by taking the drone out of OFFBOARD. -/
def startRecovery (q : Sequence) (after : Recovered) : Segment :=
  q.send (.recovering .stopping after) .offboardStop

def endRecovery (q : Sequence) (after : Recovered) : Segment :=
  match after.error with
  | some e => q.await (.finished (some e))
  | none => q.await .cancelled

section

variable (m : DroneManager)

/-- One look for the ground while recovering: only a drone that is confirmed
there is disarmed. -/
def recoverPoll (d : Nat) (q : Sequence) (deadline : ℚ) (after : Recovered) : Segment :=
  if m.time < deadline then
    match isConfirmedOnGround m d "during safe recovery" with
    | .error _ => endRecovery q after
    | .ok true =>
      if (m.telemetry d).armed then q.send (.recovering .disarming after) .disarm
      else endRecovery q after
    | .ok false => q.await (.recovering (.waiting deadline) after)
  else endRecovery q after

/-- `_safe_recover`, from its await to the next one. -/
def stepRecover (d : Nat) (q : Sequence) (after : Recovered) : RecoverPc → Segment
  | .stopping => q.send (.recovering .landing after) .land
  | .landing => recoverPoll m d q (m.time + 10) after
  | .waiting deadline => recoverPoll m d q deadline after
  | .disarming => endRecovery q after

/-- A phase of the flight has failed: a recovery, unless someone else is
commanding the drone. -/
def failPhase (q : Sequence) (step raised : String) (e : SequenceError) : Segment :=
  let q := q.log step ("FAILED: " ++ e.message)
  let error := raised ++ e.message
  if !inEmergency m && !e.isTakeover then startRecovery q ⟨some error, true⟩
  else q.await (.finished (some error))

section

variable (q : Sequence) (e : SequenceError)

def failClimb : Segment :=
  failPhase m q "HOVER" "Hover climb failed: " e

def failDwell : Segment :=
  failPhase m q "HOVER_HOLD" "Hover dwell failed: " e

def failLanding : Segment :=
  failPhase m q "LANDING" "Landing failed: " e

end

def touchedDown (d : Nat) (context : String) : Except SequenceError Bool :=
  if (m.telemetry d).armed then .ok false else isConfirmedOnGround m d context

end

def finishLanding (q : Sequence) : Segment :=
  (q.log "TOUCHDOWN_DISARM" "DISARMED").await (.finished none)

def disarmUnconfirmed (m : DroneManager) (q : Sequence) : Segment :=
  failLanding m (q.log "TOUCHDOWN_DISARM" "FAILED: disarm not confirmed by telemetry")
    (.runtime "Touchdown disarm could not be confirmed by telemetry")

section

variable (h : Hover) (m : DroneManager)
include h

/-- One look at the descent, and the fallback disarm once its time is up. -/
def touchdownPoll (q : Sequence) (deadline : ℚ) : Segment :=
  if m.time < deadline then
    match touchedDown m h.droneId "while awaiting landing/disarm confirmation" with
    | .error e => failLanding m q e
    | .ok true => finishLanding q
    | .ok false =>
      match checkLandingTakeover h.droneId (m.telemetry h.droneId) with
      | .error e => failLanding m q e
      | .ok _ => q.await (.awaitingTouchdown deadline)
  else
    match isConfirmedOnGround m h.droneId "before the fallback disarm attempt" with
    | .error e => failLanding m q e
    | .ok true => q.send .disarming .disarm
    | .ok false => disarmUnconfirmed m q

def disarmPoll (q : Sequence) (deadline : ℚ) : Segment :=
  if m.time < deadline then
    match touchedDown m h.droneId "during disarm confirmation" with
    | .error e => failLanding m q e
    | .ok true => finishLanding q
    | .ok false => q.await (.awaitingDisarm deadline)
  else disarmUnconfirmed m q

def startLanding (q : Sequence) : Segment :=
  match yieldToEmergency m h.droneId "commanding its own landing" with
  | .error e => failLanding m q e
  | .ok _ =>
    match checkOperatorTakeover h.droneId (m.telemetry h.droneId) q.offboardSeen with
    | .error e => failLanding m q e
    | .ok _ => q.send .stoppingOffboard .offboardStop

def checkBand : Except SequenceError Unit :=
  let z := (m.telemetry h.droneId).localZ
  if max (2 / 5) (3 / 10 * h.targetAltM) < |z - h.targetAltM| then
    .error (.runtime ("Drone " ++ toString h.droneId ++ " drifted outside the hover altitude band " ++
      "during dwell (observed " ++ fixed 2 z ++ " m, target " ++ floatStr h.targetAltM ++ " m)"))
  else .ok ()

/-- One tick of the dwell, and the landing once it is over. -/
def dwellPoll (q : Sequence) (dwellStart : ℚ) : Segment :=
  if m.time - dwellStart < h.hoverS then
    match yieldToEmergency m h.droneId "continuing the hover dwell" with
    | .error e => failDwell m q e
    | .ok _ =>
      match checkOperatorTakeover h.droneId (m.telemetry h.droneId) q.offboardSeen with
      | .error e => failDwell m q e
      | .ok seen =>
        let q := { q with offboardSeen := seen }
        match (checkLink m h.droneId "during hover dwell").bind fun _ => checkBand h m with
        | .error e => failDwell m q e
        | .ok _ => q.await (.dwelling dwellStart)
  else startLanding h m (q.log "HOVER_HOLD_COMPLETE" "STABLE")

/-- The altitude, at a tick of the climb: at the target, still rising, or stalled. -/
def climbAltitude (q : Sequence) (climbStart bestZ bestZAt : ℚ) : Segment :=
  let z := (m.telemetry h.droneId).localZ
  if |z - h.targetAltM| ≤ max (15 / 100) (1 / 10 * h.targetAltM) then
    dwellPoll h m (q.log "HOVER_REACHED" "HOLDING") m.time
  else if bestZ + 2 / 100 < z then q.await (.climbing climbStart z m.time)
  else if climbStallWindowS < m.time - bestZAt then
    failClimb m q (.runtime ("Drone " ++ toString h.droneId ++ " climb stalled: no altitude " ++
      "progress toward " ++ floatStr h.targetAltM ++ " m for " ++ fixed 0 climbStallWindowS ++
      "s (observed " ++ fixed 2 z ++ " m)"))
  else q.await (.climbing climbStart bestZ bestZAt)

def climbPoll (q : Sequence) (climbStart bestZ bestZAt : ℚ) : Segment :=
  if m.time - climbStart < climbCeilingS h then
    match yieldToEmergency m h.droneId "continuing the climb" with
    | .error e => failClimb m q e
    | .ok _ =>
      match checkOperatorTakeover h.droneId (m.telemetry h.droneId) q.offboardSeen with
      | .error e => failClimb m q e
      | .ok seen =>
        let q := { q with offboardSeen := seen }
        match checkLink m h.droneId "during climb" with
        | .error e => failClimb m q e
        | .ok _ => climbAltitude h m q climbStart bestZ bestZAt
  else
    failClimb m q (.runtime ("Drone " ++ toString h.droneId ++ " did not reach " ++
      floatStr h.targetAltM ++ " m within " ++ fixed 1 (climbCeilingS h) ++ "s (observed " ++
      fixed 2 (m.telemetry h.droneId).localZ ++ " m)"))

def armPoll (q : Sequence) (deadline : ℚ) : Segment :=
  let d := h.droneId
  if m.time < deadline then
    match checkLink m d "while awaiting arm confirmation" with
    | .error e => q.await (.finished (some e.message))
    | .ok _ =>
      if (m.telemetry d).armed then
        (q.log "ARM" "ARMED").send .settingInitial (.setPositionNed 0 0 0 0)
      else q.await (.awaitingArm deadline)
  else
    startRecovery (q.log "ARM" "FAILED: arm not observed in telemetry")
      ⟨some ("Arming could not be confirmed by telemetry for Drone " ++ toString d), false⟩

/-- The sequence up to its first await, or the error it raises at once. -/
def startSequence : Except String Sequence :=
  let d := h.droneId
  let tel := m.telemetry d
  if !m.drones.contains d then .error ("Drone " ++ toString d ++ " not available")
  else if !tel.connected then .error ("Drone " ++ toString d ++ " is disconnected")
  else if heartbeatStale m tel then
    .error ("Drone " ++ toString d ++ " telemetry is stale or missing heartbeat")
  else .ok { pc := .arming, steps := [("PREFLIGHT", "PASSED")], sent := [.arm] }

end

/-! ## The sequence as a task -/

def replyError : Reply → Option String
  | .raised e => some e
  | _ => none

def wake (h : Hover) (m : DroneManager) (q : Sequence) (reply : Reply) : Option Segment :=
  match q.pc with
  | .arming =>
    match replyError reply with
    | some e => some (startRecovery (q.log "ARM" ("FAILED: " ++ e))
        ⟨some ("Arming failed: " ++ e), false⟩)
    | none => some (armPoll h m q (m.time + 3))
  | .awaitingArm deadline => some (armPoll h m q deadline)
  | .settingInitial =>
    match replyError reply with
    | some e => some (failClimb m q (.runtime e))
    | none => some (q.send .startingOffboard .offboardStart)
  | .startingOffboard =>
    match replyError reply with
    | some e => some (failClimb m q (.runtime e))
    | none => some (q.send .settingTarget (.setPositionNed 0 0 (-h.targetAltM) 0))
  | .settingTarget =>
    match replyError reply with
    | some e => some (failClimb m q (.runtime e))
    | none => some (climbPoll h m q m.time (m.telemetry h.droneId).localZ m.time)
  | .climbing climbStart bestZ bestZAt => some (climbPoll h m q climbStart bestZ bestZAt)
  | .dwelling dwellStart => some (dwellPoll h m q dwellStart)
  -- leaving OFFBOARD may fail; LAND is commanded either way
  | .stoppingOffboard => some (q.send .landing .land)
  | .landing =>
    match replyError reply with
    | some e => some (failLanding m q (.runtime ("Autopilot rejected land command: " ++ e)))
    | none => some (touchdownPoll h m (q.log "LANDING_COMMANDED" "LANDING") (m.time + 10))
  | .awaitingTouchdown deadline => some (touchdownPoll h m q deadline)
  | .disarming => some (disarmPoll h m q (m.time + 2))
  | .awaitingDisarm deadline => some (disarmPoll h m q deadline)
  | .recovering pc after => some (stepRecover m h.droneId q after pc)
  | .finished _ => none
  | .cancelled => none

def cancelFlight (m : DroneManager) (q : Sequence) : Segment :=
  if inEmergency m then q.await .cancelled else startRecovery q ⟨none, false⟩

def cancel (m : DroneManager) (q : Sequence) : Option Segment :=
  match q.pc with
  | .arming => some (q.await .cancelled)
  | .awaitingArm _ => some (q.await .cancelled)
  | .recovering _ after => some (if after.inFlight then cancelFlight m q else q.await .cancelled)
  | .finished _ => none
  | .cancelled => none
  | _ => some (cancelFlight m q)

/-- The station, and the sequence on it. -/
structure Bench where
  station : DroneManager
  sequence : Sequence

/-- Anything else on the station takes a step, the sequence's await is over, or
the sequence is cancelled. -/
inductive BenchLabel where
  | station (l : Label)
  | wake (reply : Reply)
  | cancel

def benchStep (setup : Setup) (h : Hover) : System Bench BenchLabel VehicleCall := fun b l =>
  match l with
  | .station l => (step setup b.station l).map fun r => ({ b with station := r.1 }, [])
  | .wake reply => (wake h b.station b.sequence reply).map fun r => ({ b with sequence := r.1 }, r.2)
  | .cancel => (cancel b.station b.sequence).map fun r => ({ b with sequence := r.1 }, r.2)

end Taramandal.Gcs.BenchSequence
