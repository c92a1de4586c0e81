import Taramandal.Core.Floats
import Taramandal.Gcs.TwoStep

/-! # The pre-arm rules on raw telemetry (`preflight.py`, `_drone_checks`)

The rules of `Preflight` as they run on a table whose numbers may be missing, `None`,
infinite or NaN. A comparison with NaN is false, which fails a rule that asks for
enough and passes one that asks for too much; `min` and `max` see a NaN only in front;
a position that is missing is the origin. -/
namespace Taramandal.Gcs.RawPreflight

open Lib.Dict Core.Numbers Core.Floats Core.Safety Core.Shows Core.Validate
open Gcs.State Gcs.Preflight Gcs.Confirmations

/-- A field that is read with a default: only a missing one has it. -/
inductive Field where
  | missing
  | null
  | value (x : Double ℚ)

/-- `tel.get(field, 0.0)`. -/
def Field.getD : Field → Option (Double ℚ)
  | .missing => some (.finite 0)
  | .null => none
  | .value x => some x

def Field.number : Field → Option ℚ
  | .value x => x.value
  | _ => none

/-- What the rules read of one drone. Where `None` and no entry are the same to them, both
are `none`. -/
structure RawTelemetry where
  connected : Bool := false
  armed : Bool := false
  commLatencyMs : Option (Double ℚ) := none
  linkStableSince : Option (Double ℚ) := none
  gpsFixType : Option String := none
  batteryPercent : Option (Double ℚ) := none
  batteryVoltage : Option (Double ℚ) := none
  batteryCellVoltages : Option (List (Option (Double ℚ))) := none
  healthArmable : Bool := false
  healthHomeOk : Bool := false
  flightMode : Option String := none
  missionHash : Option String := none
  localX : Field := .missing
  localY : Field := .missing
  fleetX : Field := .missing
  fleetY : Field := .missing
  fleetZ : Field := .missing

def RawTelemetry.tel (r : RawTelemetry) : Telemetry where
  connected := r.connected
  armed := r.armed
  flightMode := r.flightMode.getD "UNKNOWN"
  gpsFixType := r.gpsFixType.getD ""
  healthArmable := r.healthArmable
  healthHomeOk := r.healthHomeOk

/-- `float(tel.get(field) or 0.0)`. -/
def orZero (x : Option (Double ℚ)) : Double ℚ := x.getD (.finite 0)

/-- A position as it is read; a coordinate may be `None`. -/
abbrev RawPoint := Option (Double ℚ) × Option (Double ℚ) × Option (Double ℚ)

def RawTelemetry.read (r : RawTelemetry) : RawPoint :=
  (r.fleetX.getD, r.fleetY.getD, r.fleetZ.getD)

def RawTelemetry.position (r : RawTelemetry) : Option (Point ℚ) :=
  match r.fleetX.number, r.fleetY.number, r.fleetZ.number with
  | some x, some y, some z => some (x, y, z)
  | _, _, _ => none

/-! ## The rules -/

def latencyCheck (p : ProfilePolicy) (r : RawTelemetry) : Check :=
  match r.connected, r.commLatencyMs with
  | true, some latency =>
    if latency.lt (.finite 0) then (.commLatency, false, "Latency probe failed")
    else (.commLatency, latency.lt (.finite p.maxLatencyMs),
      latency.text 0 ++ " ms (limit < " ++ fixed 0 p.maxLatencyMs ++ " ms)")
  | _, _ => (.commLatency, false, "No latency measurement")

def stableS (r : RawTelemetry) (now : ℚ) : Double ℚ :=
  match r.connected, r.linkStableSince with
  | true, some since => (Double.finite now).sub since
  | _, _ => .finite 0

def heartbeatCheck (p : ProfilePolicy) (r : RawTelemetry) (now : ℚ) : Check :=
  (.heartbeat, (Double.finite p.heartbeatWindowS).le (stableS r now),
    (stableS r now).text 1 ++ "s without a dropped heartbeat (need " ++
      fixed 0 p.heartbeatWindowS ++ "s)")

def socCheck (p : ProfilePolicy) (r : RawTelemetry) : Check :=
  let soc := orZero r.batteryPercent
  (.batterySoc, r.connected && (Double.finite p.minBatteryPct).le soc,
    soc.text 1 ++ "% (floor " ++ fixed 0 p.minBatteryPct ++ "%)")

/-- The cells as `min` and `max` take them: with a `None` among them they raise. -/
def RawTelemetry.cells (r : RawTelemetry) : Except Raised (List (Double ℚ)) :=
  match (r.batteryCellVoltages.getD []).mapM id with
  | some cells => .ok cells
  | none => .error .typeError

def cellVoltageCheck (p : ProfilePolicy) (batteryCells : Nat) (r : RawTelemetry)
    (cells : List (Double ℚ)) : Check :=
  let packV := orZero r.batteryVoltage
  let (cellV, detail) :=
    match cells with
    | c :: cs => (Double.minimum c cs, "min cell " ++ (Double.minimum c cs).text 3 ++ " V")
    | [] => (packV.divBy batteryCells, (packV.divBy batteryCells).text 3 ++ " V/cell (" ++
        packV.text 2 ++ " V / " ++ toString batteryCells ++ "S)")
  (.batteryCellVoltage, r.connected && (Double.finite p.minCellVoltageV).le cellV,
    detail ++ " (floor " ++ fixed 2 p.minCellVoltageV ++ " V)")

def cellBalanceCheck (p : ProfilePolicy) (r : RawTelemetry) (cells : List (Double ℚ)) : Check :=
  match cells with
  | c :: cs =>
    let deltaMv := ((Double.maximum c cs).sub (Double.minimum c cs)).scale 1000
    (.batteryCellBalance, r.connected && deltaMv.lt (.finite p.maxCellDeltaMv),
      deltaMv.text 0 ++ " mV spread (limit < " ++ fixed 0 p.maxCellDeltaMv ++ " mV)")
  | [] => (.batteryCellBalance, false, "Per-cell voltages not reported by this vehicle")

/-- `math.hypot`, which takes no `None`. -/
def hypot (x y : Option (Double ℚ)) : Except Raised (Double ℚ) :=
  match x, y with
  | some x, some y => .ok (.norm [x, y])
  | _, _ => .error .typeError

/-- `math.dist`, which takes no `None`. -/
def dist (p q : RawPoint) : Except Raised (Double ℚ) :=
  match p, q with
  | (some x, some y, some z), (some x', some y', some z') =>
    .ok (.norm [x.sub x', y.sub y', z.sub z'])
  | _, _ => .error .typeError

/-- `min(distances, default=math.inf)`. -/
def nearestOf : List (Double ℚ) → Double ℚ
  | [] => .inf false
  | x :: xs => .minimum x xs

def checkPad (d : Nat) (r : RawTelemetry) (geofenceRadiusM : ℚ)
    (positions : Dict Nat RawPoint) : Except Raised (Bool × String) :=
  if !r.connected then .ok (false, "No position (disconnected)")
  else do
    let fromHome ← hypot r.localX.getD r.localY.getD
    if fromHome.exceeds geofenceRadiusM then
      return (false, fromHome.text 1 ++ " m from home, outside " ++ fixed 0 geofenceRadiusM ++
        " m geofence")
    else
      let own := (find positions d).getD (none, none, none)
      let limit := (defaultLimits : SafetyLimits ℚ).minSeparationM
      let distances ← (positions.filter fun e => e.1 ≠ d).mapM fun e => dist own e.2
      let nearest := nearestOf distances
      if nearest.lt (.finite limit) then
        return (false, "Another drone " ++ nearest.text 2 ++ " m away (min " ++ fixed 1 limit ++
          " m)")
      else
        return (true, "Inside geofence, " ++ match nearest with
          | .inf _ => "no other drone"
          | _ => "nearest drone " ++ nearest.text 1 ++ " m")

def droneChecks (c : EngineConfig) (d : Nat) (r : RawTelemetry) (trajectory : Option (Show ℚ))
    (geofenceRadiusM : ℚ) (positions : Dict Nat RawPoint) (now : ℚ) :
    Except Raised (List Check) := do
  let p := c.policy
  let cells ← r.cells
  let pad ← checkPad d r geofenceRadiusM positions
  return [(.connected, r.connected, if r.connected then "Link up" else "No link to vehicle"),
    latencyCheck p r, heartbeatCheck p r now, gnssCheck p r.tel, socCheck p r,
    cellVoltageCheck p c.batteryCells r cells, cellBalanceCheck p r cells,
    (.ekfHealth, r.connected && r.healthArmable && r.healthHomeOk, ekfDetail r.tel),
    (.trajectoryHash,
      checkTrajectory p c.hashes d { tel := r.tel, missionHash := r.missionHash } trajectory),
    (.padClearance, pad)]

/-! ## The report -/

/-- What an evaluation reads of the fleet. -/
structure RawFleet where
  telemetry : Dict Nat RawTelemetry
  expectedDrones : ℤ
  trajectory : Option (Show ℚ)
  geofenceRadiusM : ℚ

/-- Where the connected drones are, as far as is known. -/
def positions (fleet : RawFleet) : Dict Nat RawPoint :=
  (fleet.telemetry.filter fun e => e.2.connected).map fun e => (e.1, e.2.read)

def connectedCount (fleet : RawFleet) : Nat :=
  (fleet.telemetry.filter fun e => e.2.connected).length

section

variable (c : EngineConfig) (overridden : List String) (latch : Option Active) (now : ℚ)
  (fleet : RawFleet)

def checksOf (d : Nat) (r : RawTelemetry) : Except Raised (List Check) :=
  droneChecks c d r fleet.trajectory fleet.geofenceRadiusM (positions fleet) now

def droneReport (e : Nat × RawTelemetry) : Except Raised DroneReport :=
  (checksOf c now fleet e.1 e.2).map fun checks =>
    { droneId := e.1, armed := e.2.armed, gates := checks.map (gate c.policy overridden) }

def completeCheck : Check :=
  (.fleetComplete, 0 < fleet.expectedDrones && fleet.expectedDrones ≤ connectedCount fleet,
    toString (connectedCount fleet) ++ "/" ++ toString fleet.expectedDrones ++
      " drones connected")

def fleetGates : List Gate :=
  [gate c.policy overridden (latchCheck latch now), gate c.policy overridden (completeCheck fleet)]

def rows : List (Nat × RawTelemetry) :=
  ((fleet.telemetry.map Prod.fst).insertionSort (· ≤ ·)).filterMap fun d =>
    (find fleet.telemetry d).map fun r => (d, r)

def reportOf (drones : List DroneReport) : Report :=
  let blocking :=
    ((fleetGates c overridden latch now fleet).filter (·.state = .fail)).map
        (Gate.reason "Fleet") ++
      (if c.policy.allowPartialFleet then []
        else drones.flatMap fun d => d.failed.map (Gate.reason ("Drone " ++ toString d.droneId)))
  { drones := drones
    fleetGates := fleetGates c overridden latch now fleet
    blockingReasons := blocking ++
      if drones.all (!·.ready) then ["No drone passes every blocking pre-arm gate."] else []
    excludedDroneIds :=
      ((drones.filter (!·.ready)).map DroneReport.droneId).insertionSort (· ≤ ·)
    showHash := (fleet.trajectory.filter fun s => s.drones ≠ []).map c.hashes.show_ }

/-- The report on a fleet under the confirmations of an instant. -/
def judge : Except Raised Report := do
  let drones ← (rows fleet).mapM (droneReport c overridden now fleet)
  return reportOf c overridden latch now fleet drones

def evaluate (w : World) : EngineM (Report × (Kind → Described)) := do
  expire w c
  let overridden ← overriddenRules w c
  let now ← clock w
  match judge c overridden (find (← get).active .latch) now fleet with
  | .error e => throw e
  | .ok report =>
    let confirmations ← confirmationState w c
    return (report, confirmations)

end

end Taramandal.Gcs.RawPreflight
