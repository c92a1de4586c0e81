import Taramandal.Core.Mission

/-! # The simulated fleet (`fleet_state.py`, `rf_channel.py`)

The arrays of the simulator are one record per drone; every array operation of
a tick is the same operation on each of them. What a tick draws at random and
what it reads off the UTC clock come with it. Infinitely long ago and "not a
number", the start values of the code's time fields, are `none`. -/
set_option linter.unusedSectionVars false

namespace Taramandal.Sim.Vehicle

open Lib.Bisect Lib.Dict Core.Numbers Core.Values Core.Geometry Core.Mission

@[ext] structure Vec3 (K : Type) where
  north : K
  east : K
  up : K
  deriving DecidableEq

variable {K : Type} [Field K]

instance : Zero (Vec3 K) := ⟨⟨0, 0, 0⟩⟩

instance : Add (Vec3 K) := ⟨fun a b => ⟨a.north + b.north, a.east + b.east, a.up + b.up⟩⟩

instance : Sub (Vec3 K) := ⟨fun a b => ⟨a.north - b.north, a.east - b.east, a.up - b.up⟩⟩

section

variable (a b : Vec3 K)

@[simp] lemma Vec3.add_north : (a + b).north = a.north + b.north := rfl

@[simp] lemma Vec3.add_east : (a + b).east = a.east + b.east := rfl

@[simp] lemma Vec3.add_up : (a + b).up = a.up + b.up := rfl

@[simp] lemma Vec3.sub_north : (a - b).north = a.north - b.north := rfl

@[simp] lemma Vec3.sub_east : (a - b).east = a.east - b.east := rfl

@[simp] lemma Vec3.sub_up : (a - b).up = a.up - b.up := rfl

end

def Vec3.scale (c : K) (a : Vec3 K) : Vec3 K := ⟨c * a.north, c * a.east, c * a.up⟩

variable [LinearOrder K]

/-- `_clamp_norm` on one row. -/
def clampNorm [Sqrt K] (a : Vec3 K) (maxNorm : K) : Vec3 K :=
  let norm := sqrt (a.north * a.north + a.east * a.east + a.up * a.up)
  a.scale (min 1 (maxNorm / max norm (1 / 1000000000)))

def clip (x low high : K) : K := min (max x low) high

structure RFChannelConfig (K : Type) where
  packetLossBase : K
  packetLossPer100m : K
  burstLossMultiplier : K
  pGoodToBad : K
  pBadToGood : K

/-- `SimConfig`, without the noise of the telemetry readout. -/
structure SimConfig (K : Type) where
  tickHz : K
  maxVelocityMs : K
  maxAccelMs2 : K
  kp : K
  kd : K
  setpointLatencyS : K
  windStdMs2 : K
  batteryDrainPerS : K
  dropoutProbPerTick : K
  armableDelayS : K
  descentRateMs : K
  offboardLossTimeoutS : K
  rotorTauS : K
  rfChannel : Option (RFChannelConfig K)

def SimConfig.standard : SimConfig K where
  tickHz := 50
  maxVelocityMs := 8
  maxAccelMs2 := 15
  kp := 4
  kd := 3
  setpointLatencyS := 5 / 100
  windStdMs2 := 5 / 100
  batteryDrainPerS := 100 / 600
  dropoutProbPerTick := 0
  armableDelayS := 3 / 10
  descentRateMs := 1
  offboardLossTimeoutS := 1
  rotorTauS := 0
  rfChannel := none

def SimConfig.dt (cfg : SimConfig K) : K := 1 / cfg.tickHz

def rtlArrivalRadiusM : K := 3 / 10

def landedAltitudeM : K := 5 / 100

/-! ## One drone -/

inductive FlightMode where
  | manual | terminated | landed | returnToLaunch | land | inShow | offboard | hold
  deriving DecidableEq

/-- A commanded position with its feedforward. -/
structure Setpoint (K : Type) where
  position : Vec3 K
  velocityFf : Vec3 K
  accelFf : Vec3 K
  yawDeg : K

def Setpoint.zero : Setpoint K := ⟨0, 0, 0, 0⟩

/-- One row of a loaded mission's arrays, in the drone's own frame, altitude up. -/
structure MissionSample (K : Type) where
  time : K
  position : Vec3 K
  yawDeg : K

structure SimDrone (K : Type) where
  position : Vec3 K
  velocity : Vec3 K
  yawDeg : K
  appliedAccel : Vec3 K
  target : Setpoint K
  staged : Setpoint K
  stagedAt : Option K
  stagedPending : Bool
  armed : Bool
  connected : Bool
  offboardActive : Bool
  batteryPct : K
  landing : Bool
  rtlPending : Bool
  connectedSince : K
  lastSetpointRx : Option K
  offboardFailsafe : Bool
  setpointsReceived : Nat
  storage : Dict String Bytes
  mission : Option (List (MissionSample K))
  missionShowId : Option ShowId
  missionStartUtc : Option K
  missionActive : Bool
  missionComplete : Bool
  flightMode : FlightMode
  gpsFixType : String
  badState : Bool
  packetsDropped : Nat
  packetsTotal : Nat

def SimDrone.fresh : SimDrone K where
  position := 0
  velocity := 0
  yawDeg := 0
  appliedAccel := 0
  target := .zero
  staged := .zero
  stagedAt := none
  stagedPending := false
  armed := false
  connected := true
  offboardActive := false
  batteryPct := 100
  landing := false
  rtlPending := false
  connectedSince := 0
  lastSetpointRx := none
  offboardFailsafe := false
  setpointsReceived := 0
  storage := []
  mission := none
  missionShowId := none
  missionStartUtc := none
  missionActive := false
  missionComplete := false
  flightMode := .manual
  gpsFixType := "FIX_3D"
  badState := false
  packetsDropped := 0
  packetsTotal := 0

def commandSetpoint (now : K) (setpoint : Setpoint K) (d : SimDrone K) : SimDrone K :=
  { d with
    staged := setpoint
    stagedAt := some now
    stagedPending := true
    lastSetpointRx := some now
    setpointsReceived := d.setpointsReceived + 1
    landing := false
    rtlPending := false }

section

variable (d : SimDrone K)

def commandLand : SimDrone K :=
  { d with missionActive := false, rtlPending := false, landing := true }

def commandRtl : SimDrone K :=
  { d with missionActive := false, landing := false, rtlPending := true }

def commandArm : SimDrone K := { d with armed := true }

def commandDisarm : SimDrone K :=
  { d with
    armed := false
    offboardActive := false
    missionActive := false
    landing := false
    rtlPending := false }

end

def commandOffboardStart (now : K) (d : SimDrone K) : SimDrone K :=
  { d with offboardActive := true, lastSetpointRx := some now, missionActive := false }

/-- `offboard.stop`. -/
def commandOffboardStop (d : SimDrone K) : SimDrone K := { d with offboardActive := false }

def commandKill (d : SimDrone K) : SimDrone K :=
  let d := commandDisarm d
  { d with position := { d.position with up := 0 }, velocity := 0, flightMode := .terminated }

def missionSamples (waypoints : List (Waypoint K)) : List (MissionSample K) :=
  waypoints.map fun wp => ⟨wp.time, ⟨wp.x, wp.y, -wp.z⟩, wp.yaw⟩

def loadMission (showId : ShowId) (waypoints : List (Waypoint K)) (d : SimDrone K) : SimDrone K :=
  { d with
    mission := some (missionSamples waypoints)
    missionShowId := some showId
    missionActive := false
    missionComplete := false }

/-- `start_mission`: refused when nothing is loaded or the drone is not armed. -/
def startMission (startUtcS : K) (d : SimDrone K) : SimDrone K × Bool :=
  if d.mission = none ∨ d.armed = false then (d, false)
  else
    ({ d with
      missionStartUtc := some startUtcS
      missionActive := true
      missionComplete := false }, true)

def Setpoint.holdAt (position : Vec3 K) (s : Setpoint K) : Setpoint K :=
  { s with position := position, velocityFf := 0, accelFf := 0 }

def cancelMission (d : SimDrone K) : SimDrone K :=
  if d.missionActive then
    { d with missionActive := false, target := d.target.holdAt d.position }
  else d

/-! ## The tick -/

/-- What one tick draws at random for one drone. -/
structure Draws (K : Type) where
  wind : Vec3 K
  dropout : K
  toBad : K
  toGood : K
  loss : K

/-- What a call into the simulator raises. -/
inductive SimError where
  | typeError | indexError
  | valueError (message : String)
  | ftpError (message : String)

def applyStaged (cfg : SimConfig K) (now : K) (d : SimDrone K) : SimDrone K :=
  if d.stagedPending && d.stagedAt.all fun t => cfg.setpointLatencyS ≤ now - t then
    { d with target := d.staged, stagedPending := false }
  else d

def offboardLost (cfg : SimConfig K) (now : K) (d : SimDrone K) : Bool :=
  d.armed && d.offboardActive && !d.landing && !d.rtlPending &&
    d.lastSetpointRx.all fun t => cfg.offboardLossTimeoutS < now - t

/-- In offboard with its link up a drone hears a setpoint at every tick. -/
def hearSetpoint (now : K) (d : SimDrone K) : SimDrone K :=
  if d.offboardActive && d.connected then { d with lastSetpointRx := some now } else d

def applyOffboardLossFailsafe (cfg : SimConfig K) (now : K) (d : SimDrone K) : SimDrone K :=
  let d := hearSetpoint now d
  if offboardLost cfg now d then
    commandLand { d with offboardActive := false, offboardFailsafe := true }
  else d

/-- `np.searchsorted(times, elapsed, side="right")`. -/
def searchsortedRight (samples : List (MissionSample K)) (elapsed : K) : Nat :=
  bisect (fun i => (samples[i]?).all fun s => !decide (s.time ≤ elapsed)) samples.length 0
    samples.length

section Physics

variable [FloorRing K]

/-- The setpoint inside the segment from `s0` to `s1`. -/
def segmentTarget (s0 s1 : MissionSample K) (elapsed : K) : Setpoint K :=
  let span := s1.time - s0.time
  let ratio := if 0 < span then (elapsed - s0.time) / span else 0
  { position := s0.position + (s1.position - s0.position).scale ratio
    velocityFf := if 0 < span then (s1.position - s0.position).scale (1 / span) else 0
    accelFf := 0
    yawDeg := fmod (s0.yawDeg + ratio * yawDiff s0.yawDeg s1.yawDeg) 360 }

/-- The mission of a drone, `elapsed` after its start and before the time of its
last row. -/
def followMission (samples : List (MissionSample K)) (elapsed : K) (d : SimDrone K) :
    SimDrone K × Option SimError :=
  match searchsortedRight samples elapsed with
  | 0 =>
    match samples[0]? with
    | some s =>
      ({ d with
        target := { Setpoint.holdAt s.position d.target with yawDeg := s.yawDeg } }, none)
    | none => (d, some .indexError)
  | k + 1 =>
    match samples[k]?, samples[k + 1]? with
    | some s0, some s1 => ({ d with target := segmentTarget s0 s1 elapsed }, none)
    | _, _ => (d, some .indexError)

/-- The mission of a drone past its start instant: it ends in a hold at its last
row. -/
def flyMission (samples : List (MissionSample K)) (elapsed : Option K) (d : SimDrone K) :
    SimDrone K × Option SimError :=
  match samples.getLast?, elapsed with
  | some last, some elapsed =>
    if last.time ≤ elapsed then
      ({ d with
        target := { Setpoint.holdAt last.position d.target with yawDeg := last.yawDeg }
        missionActive := false
        missionComplete := true }, none)
    else followMission samples elapsed d
  | _, _ => (d, some .indexError)

/-- `_apply_mission`: the drone's own trajectory drives it, once its time has
come. -/
def applyMission (utc : K) (d : SimDrone K) : SimDrone K × Option SimError :=
  if (d.missionActive && d.armed) = false ∨
      (d.missionStartUtc.any fun start => utc - start < 0) = true then (d, none)
  else
    match d.mission with
    | none => (d, some .typeError)
    | some samples =>
      flyMission samples (d.missionStartUtc.map (utc - ·)) { d with stagedPending := false }

def flyHome [Sqrt K] (d : SimDrone K) : SimDrone K :=
  if d.rtlPending then
    if sqrt (d.position.north * d.position.north + d.position.east * d.position.east) ≤
        rtlArrivalRadiusM then
      { d with rtlPending := false, landing := true }
    else
      { d with
        target := { d.target with
          position := { d.target.position with north := 0, east := 0 }
          velocityFf := 0
          accelFf := 0 }
        flightMode := .returnToLaunch }
  else d

/-- Straight down, and a hold on the ground once close to it. -/
def descend (cfg : SimConfig K) (d : SimDrone K) : SimDrone K :=
  if d.landing then
    let nearGround := decide (d.position.up ≤ landedAltitudeM * 3)
    { d with
      target := { d.target with
        position := { d.position with
          up := if nearGround then 0 else d.position.up - cfg.descentRateMs * cfg.dt }
        velocityFf := if nearGround then 0 else ⟨0, 0, -cfg.descentRateMs⟩
        accelFf := 0 }
      flightMode := .land }
  else d

/-- The mode a drone in the air reports while it is neither landing nor flying
home. -/
def reportMode (d : SimDrone K) : SimDrone K :=
  if d.armed && !d.landing && !d.rtlPending then
    { d with
      flightMode :=
        if d.missionActive then .inShow else if d.offboardActive then .offboard else .hold }
  else d

def applyLandingAndRtl [Sqrt K] (cfg : SimConfig K) (d : SimDrone K) : SimDrone K :=
  reportMode (descend cfg (flyHome d))

/-- The tracker, the airframe and the battery over `dt`. -/
def integrate [Sqrt K] (exp : K → K) (cfg : SimConfig K) (dt : K) (wind : Vec3 K)
    (d : SimDrone K) : SimDrone K :=
  let posErr := d.target.position - d.position
  let velErr := d.target.velocityFf - d.velocity
  let commanded := posErr.scale cfg.kp + velErr.scale cfg.kd + d.target.accelFf
  let commanded := if 0 < cfg.windStdMs2 then commanded + wind else commanded
  let commanded := clampNorm commanded cfg.maxAccelMs2
  let accel :=
    if 0 < cfg.rotorTauS then
      d.appliedAccel + (commanded - d.appliedAccel).scale (1 - exp (-dt / cfg.rotorTauS))
    else commanded
  let velocity := clampNorm (if d.armed then d.velocity + accel.scale dt else 0) cfg.maxVelocityMs
  let position := if d.armed then d.position + velocity.scale dt else d.position
  let belowGround := decide (position.up < 0)
  let yawErr := fmod (d.target.yawDeg - d.yawDeg + 180) 360 - 180
  { d with
    appliedAccel := accel
    velocity :=
      if belowGround && decide (velocity.up < 0) then { velocity with up := 0 } else velocity
    position := if belowGround then { position with up := 0 } else position
    yawDeg := fmod (d.yawDeg + clip yawErr (-720 * dt) (720 * dt)) 360
    batteryPct :=
      if d.armed then clip (d.batteryPct - cfg.batteryDrainPerS * dt) 0 100 else d.batteryPct }

/-- `RFChannelModel.step` for one drone. -/
def rfStep (rf : RFChannelConfig K) (draws : Draws K) (distanceM : K) (d : SimDrone K) :
    SimDrone K :=
  let badState :=
    if d.badState then !decide (draws.toGood < rf.pBadToGood)
    else decide (draws.toBad < rf.pGoodToBad)
  let basePer := clip (rf.packetLossBase + rf.packetLossPer100m * (distanceM / 100)) 0 1
  let per := if badState then clip (basePer * rf.burstLossMultiplier) 0 1 else basePer
  let dropped := decide (draws.loss < per)
  { d with
    badState
    packetsTotal := d.packetsTotal + 1
    packetsDropped := if dropped then d.packetsDropped + 1 else d.packetsDropped
    connected := !dropped }

/-- The link after a tick: flipped by a dropout, or set by the channel model. -/
def stepLink [Sqrt K] (cfg : SimConfig K) (draws : Draws K) (d : SimDrone K) : SimDrone K :=
  if 0 < cfg.dropoutProbPerTick then
    if draws.dropout < cfg.dropoutProbPerTick then { d with connected := !d.connected } else d
  else
    match cfg.rfChannel with
    | some rf =>
      rfStep rf draws
        (sqrt (d.position.north * d.position.north + d.position.east * d.position.east)) d
    | none => d

/-- A landing drone that has come to rest on the ground disarms. -/
def touchDown (d : SimDrone K) : SimDrone K :=
  if d.armed && d.landing && decide (d.position.up ≤ landedAltitudeM) &&
      decide (|d.velocity.up| < 1 / 10) then
    { commandDisarm d with flightMode := .landed }
  else d

def beforeMission (cfg : SimConfig K) (now : K) (d : SimDrone K) : SimDrone K :=
  applyOffboardLossFailsafe cfg now (applyStaged cfg now d)

def afterMission [Sqrt K] (exp : K → K) (cfg : SimConfig K) (dt : K) (draws : Draws K)
    (d : SimDrone K) : SimDrone K :=
  touchDown (stepLink cfg draws (integrate exp cfg dt draws.wind (applyLandingAndRtl cfg d)))

end Physics

structure FleetState (K : Type) (n : Nat) where
  config : SimConfig K
  timeS : K
  drone : Fin n → SimDrone K

variable {n : Nat}

def FleetState.onDrone (s : FleetState K n) (d : Fin n) (f : SimDrone K → SimDrone K) :
    FleetState K n :=
  { s with drone := Function.update s.drone d (f (s.drone d)) }

lemma FleetState.onDrone_self (s : FleetState K n) (d : Fin n) (f : SimDrone K → SimDrone K) :
    (s.onDrone d f).drone d = f (s.drone d) :=
  Function.update_self ..

lemma FleetState.onDrone_of_ne (s : FleetState K n) {d d' : Fin n} (h : d' ≠ d)
    (f : SimDrone K → SimDrone K) : (s.onDrone d f).drone d' = s.drone d' :=
  Function.update_of_ne h ..

/-- `tick`: an exception out of one drone's mission leaves the drones after it,
and the physics, where they were. -/
def FleetState.tick [FloorRing K] [Sqrt K] (exp : K → K) (dt utc : K) (draws : Fin n → Draws K)
    (s : FleetState K n) : FleetState K n × Option SimError :=
  let now := s.timeS + dt
  let before := fun i => beforeMission s.config now (s.drone i)
  let flown := fun i => applyMission utc (before i)
  match (List.finRange n).find? fun i => (flown i).2.isSome with
  | some i =>
    ({ s with timeS := now, drone := fun j => if j ≤ i then (flown j).1 else before j },
      (flown i).2)
  | none =>
    ({ s with
      timeS := now
      drone := fun j => afterMission exp s.config dt (draws j) (flown j).1 }, none)

/-- What a tick makes of one drone: everything, or what came before an exception
out of its own or another drone's mission. -/
lemma FleetState.tick_drone [FloorRing K] [Sqrt K] (exp : K → K) (dt utc : K)
    (draws : Fin n → Draws K) (s : FleetState K n) (d : Fin n) :
    let before := beforeMission s.config (s.timeS + dt) (s.drone d)
    let after := (s.tick exp dt utc draws).1.drone d
    after = before ∨ after = (applyMission utc before).1 ∨
      after = afterMission exp s.config dt (draws d) (applyMission utc before).1 := by
  unfold FleetState.tick
  dsimp only
  split
  next i _ =>
    by_cases hd : d ≤ i
    · exact .inr (.inl (if_pos hd))
    · exact .inl (if_neg hd)
  next => exact .inr (.inr rfl)

end Taramandal.Sim.Vehicle
