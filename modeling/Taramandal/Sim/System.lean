import Taramandal.Lib.Run
import Taramandal.Sim.Vehicle

/-! # The simulated fleet's radio (`system.py`)

What reaches the simulated drones from outside: the calls on one drone, and the
show trigger, one frame that every drone whose link is up hears and acts on by
itself, out of its own storage. -/
namespace Taramandal.Sim.System

open Lib.Dict Core.Numbers Core.Values Core.Geometry Core.Mission Sim.Vehicle

variable {K : Type} [Field K] [LinearOrder K] {n : Nat}

/-- The calls of `SimSystem` that change its drone, and the injected faults. -/
inductive Call (K : Type) where
  | connect
  | arm
  | disarm
  | land
  | returnToLaunch
  | kill
  | offboardStart
  | offboardStop
  | setpoint (target : Setpoint K)
  | upload (remotePath : String) (data : Bytes)
  | gnssFault (fixType : String)
  | batteryFault (pct : K)
  | positionDeviation (offset : Vec3 K)

/-- A call at the fleet's time `now`. -/
def Call.run [FloorRing K] (now : K) (droneId : Nat) (d : SimDrone K) :
    Call K → SimDrone K × Option SimError
  | .connect => ({ d with connectedSince := now }, none)
  | .arm => (commandArm d, none)
  | .disarm => (commandDisarm d, none)
  | .land => (commandLand d, none)
  | .returnToLaunch => (commandRtl d, none)
  | .kill => (commandKill d, none)
  | .offboardStart => (commandOffboardStart now d, none)
  | .offboardStop => (commandOffboardStop d, none)
  | .setpoint target => (commandSetpoint now target d, none)
  | .upload remotePath data =>
    if d.connected then ({ d with storage := assign d.storage remotePath data }, none)
    else (d, some (.ftpError ("upload: drone " ++ toString droneId ++ " is not reachable")))
  | .gnssFault fixType => ({ d with gpsFixType := fixType }, none)
  | .batteryFault pct =>
    if 0 ≤ pct ∧ pct ≤ 100 then ({ d with batteryPct := pct }, none)
    else (d, some (.valueError ("pct must be in [0, 100], got " ++ floatStr pct)))
  | .positionDeviation offset => ({ d with position := d.position + offset }, none)

/-- `_load_stored_mission` finds the first file of the drone's storage that
decodes, is of the show and is addressed to the drone. -/
def storedMission (droneId : Nat) (showId : ShowId) (storage : Dict String Bytes) :
    Option (List (Waypoint K)) :=
  storage.findSome? fun file =>
    match decodeMission file.2 with
    | .ok (header, waypoints) =>
      if header.showId = showId ∧ header.droneId = droneId then some waypoints else none
    | .error _ => none

/-- The instant a trigger maps the show's `t = 0` to. -/
def startUtc (trigger : ShowTrigger) : K := (trigger.startUtcUsec : K) / 1000000

def hearTrigger (trigger : ShowTrigger) (droneId : Nat) (d : SimDrone K) : SimDrone K :=
  if d.connected = false then d
  else if trigger.command = ShowCommand.cancel.code then
    if d.missionShowId = some trigger.showId then cancelMission d else d
  else
    match storedMission droneId trigger.showId d.storage with
    | some waypoints =>
      (startMission (startUtc trigger) (loadMission trigger.showId waypoints d)).1
    | none => d

def broadcast (payload : Bytes) (targetSystem : Nat) (s : FleetState K n) :
    FleetState K n × Option SimError :=
  if targetSystem ≠ 0 then
    (s, some (.valueError
      "SimFleet.broadcast only models the broadcast address (target_system=0)"))
  else
    match decodeShowTrigger payload with
    | .ok trigger =>
      if trigger.valid then
        ({ s with drone := fun i => hearTrigger trigger i (s.drone i) }, none)
      else (s, none)
    | .error _ => (s, none)

/-- One thing happening to the fleet. A tick brings its length, the reading of
the UTC clock and its random draws. -/
inductive SimLabel (K : Type) (n : Nat) where
  | tick (dt utc : K) (draws : Fin n → Draws K)
  | call (d : Fin n) (c : Call K)
  | broadcast (payload : Bytes) (targetSystem : Nat)

/-- One step, with the exception it raised, if any. The exponential is that of
the rotor lag. -/
def simStep [FloorRing K] [Sqrt K] (exp : K → K) :
    Lib.Run.System (FleetState K n) (SimLabel K n) SimError
  | s, .tick dt utc draws =>
    let (m, raised) := s.tick exp dt utc draws
    some (m, raised.toList)
  | s, .call d c =>
    let (drone, raised) := c.run s.timeS d (s.drone d)
    some (s.onDrone d fun _ => drone, raised.toList)
  | s, .broadcast payload targetSystem =>
    let (m, raised) := broadcast payload targetSystem s
    some (m, raised.toList)

end Taramandal.Sim.System
