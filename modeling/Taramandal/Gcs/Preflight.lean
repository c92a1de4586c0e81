import Taramandal.Gcs.State

/-! # The pre-arm rules (`preflight.py`)

Twelve fixed rules, a policy per operational profile that says how much each of
them weighs, and the checks themselves, which read the telemetry table and
nothing else. -/
namespace Taramandal.Gcs.Preflight

open Lib.Dict Core.Numbers Core.Geometry Core.Shows Core.Safety Core.Validate Gcs.State

inductive OperationalProfile where
  | simulation | engineering | fieldTest | production
  deriving DecidableEq

def OperationalProfile.value : OperationalProfile → String
  | .simulation => "SIMULATION"
  | .engineering => "ENGINEERING"
  | .fieldTest => "FIELD_TEST"
  | .production => "PRODUCTION"

inductive Severity where
  | blocking | warning | ignored
  deriving DecidableEq

inductive GateState where
  | pass | fail | warn | overridden | ignored
  deriving DecidableEq

def gnssFixTypes : Dict String ℤ :=
  [("NO_GPS", 0), ("NO_FIX", 1), ("FIX_2D", 2), ("FIX_3D", 3), ("FIX_DGPS", 4), ("RTK_FLOAT", 5),
    ("RTK_FIXED", 6)]

/-- `s.rsplit(".", 1)[-1]`. -/
def afterLastDot (s : String) : String :=
  String.ofList (s.toList.reverse.takeWhile (· ≠ '.')).reverse

def gnssFixLevel (fixType : String) : ℤ :=
  (find gnssFixTypes (afterLastDot fixType).toUpper).getD 0

/-- `_FIX_TYPE_NAMES`. -/
def fixTypeName (level : ℤ) : String :=
  ((gnssFixTypes.find? fun e => e.2 = level).map Prod.fst).getD ""

/-! ## Rules and policies -/

inductive RuleId where
  | operatorLatch | fleetComplete | connected | commLatency | heartbeat | gnssFix | batterySoc
  | batteryCellVoltage | batteryCellBalance | ekfHealth | trajectoryHash | padClearance
  deriving DecidableEq

def RuleId.id : RuleId → String
  | .operatorLatch => "operator_latch"
  | .fleetComplete => "fleet_complete"
  | .connected => "connected"
  | .commLatency => "comm_latency"
  | .heartbeat => "heartbeat"
  | .gnssFix => "gnss_fix"
  | .batterySoc => "battery_soc"
  | .batteryCellVoltage => "battery_cell_voltage"
  | .batteryCellBalance => "battery_cell_balance"
  | .ekfHealth => "ekf_health"
  | .trajectoryHash => "trajectory_hash"
  | .padClearance => "pad_clearance"

lemma ruleId_injective : Function.Injective RuleId.id := by
  intro a b h
  cases a <;> cases b <;> first | rfl | exact absurd h (by decide)

def RuleId.title : RuleId → String
  | .operatorLatch => "Operator confirmation latch"
  | .fleetComplete => "Full fleet connected"
  | .connected => "Vehicle link up"
  | .commLatency => "Comm latency"
  | .heartbeat => "Heartbeat continuity"
  | .gnssFix => "GNSS / RTK fix"
  | .batterySoc => "Battery state of charge"
  | .batteryCellVoltage => "Cell voltage"
  | .batteryCellBalance => "Cell balance"
  | .ekfHealth => "EKF health & home lock"
  | .trajectoryHash => "Trajectory hash match"
  | .padClearance => "Launch pad clearance"

/-- `ProfilePolicy`. Only a rule that can block can be overridden. -/
structure ProfilePolicy where
  profile : OperationalProfile
  severity : RuleId → Severity
  overridable : List RuleId := []
  overridable_blocking : ∀ r ∈ overridable, severity r = .blocking := by decide
  allowPartialFleet : Bool := false
  minFixType : ℤ := 6
  minBatteryPct : ℚ := 85
  minCellVoltageV : ℚ := 83 / 20
  maxCellDeltaMv : ℚ := 30
  maxLatencyMs : ℚ := 150
  heartbeatWindowS : ℚ := 10
  requireOnboardMissionHash : Bool := true

def policies : OperationalProfile → ProfilePolicy
  | .simulation =>
    { profile := .simulation
      severity := fun
        | .operatorLatch => .ignored
        | .fleetComplete => .warning
        | .connected => .blocking
        | .commLatency => .warning
        | .heartbeat => .warning
        | .gnssFix => .blocking
        | .batterySoc => .blocking
        | .batteryCellVoltage => .ignored
        | .batteryCellBalance => .ignored
        | .ekfHealth => .blocking
        | .trajectoryHash => .warning
        | .padClearance => .warning
      allowPartialFleet := true, minFixType := 3, minBatteryPct := 50
      requireOnboardMissionHash := false }
  | .engineering =>
    { profile := .engineering
      severity := fun
        | .connected => .blocking
        | .ekfHealth => .blocking
        | _ => .ignored
      overridable := [.ekfHealth]
      allowPartialFleet := true, minFixType := 0, minBatteryPct := 0
      requireOnboardMissionHash := false }
  | .fieldTest =>
    { profile := .fieldTest
      severity := fun
        | .operatorLatch => .ignored
        | .fleetComplete => .blocking
        | .connected => .blocking
        | .commLatency => .blocking
        | .heartbeat => .warning
        | .gnssFix => .blocking
        | .batterySoc => .blocking
        | .batteryCellVoltage => .warning
        | .batteryCellBalance => .warning
        | .ekfHealth => .blocking
        | .trajectoryHash => .blocking
        | .padClearance => .blocking
      minFixType := 5, minBatteryPct := 80, requireOnboardMissionHash := false }
  | .production => { profile := .production, severity := fun _ => .blocking }

lemma latch_not_overridable (profile : OperationalProfile) :
    RuleId.operatorLatch ∉ (policies profile).overridable := by
  cases profile <;> decide

/-! ## The checks of one drone -/

/-- What the rules read of one drone: its telemetry, the voltages of its cells
and the hash of the mission it holds, where it reports them. -/
structure VehicleReport where
  tel : Telemetry
  batteryCellVoltages : Option (List ℚ) := none
  missionHash : Option String := none

/-- A rule, whether it passed, and the detail that is shown. -/
abbrev Check := RuleId × Bool × String

def latencyCheck (p : ProfilePolicy) (tel : Telemetry) : Check :=
  if !tel.connected then (.commLatency, false, "No latency measurement")
  else if tel.commLatencyMs < 0 then (.commLatency, false, "Latency probe failed")
  else (.commLatency, tel.commLatencyMs < p.maxLatencyMs,
    fixed 0 tel.commLatencyMs ++ " ms (limit < " ++ fixed 0 p.maxLatencyMs ++ " ms)")

/-- How long the link has been stable, as the heartbeat rule counts it. -/
def stableS (tel : Telemetry) (now : ℚ) : ℚ :=
  if tel.connected then tel.linkStableSince.elim 0 fun since => now - since else 0

section

variable (p : ProfilePolicy)

def heartbeatCheck (tel : Telemetry) (now : ℚ) : Check :=
  (.heartbeat, p.heartbeatWindowS ≤ stableS tel now,
    fixed 1 (stableS tel now) ++ "s without a dropped heartbeat (need " ++
      fixed 0 p.heartbeatWindowS ++ "s)")

def gnssCheck (tel : Telemetry) : Check :=
  let fixName := afterLastDot (if tel.gpsFixType = "" then "NO_GPS" else tel.gpsFixType)
  (.gnssFix, tel.connected && p.minFixType ≤ gnssFixLevel fixName,
    fixName ++ " (need " ++ fixTypeName p.minFixType ++ " or better)")

def socCheck (tel : Telemetry) : Check :=
  (.batterySoc, tel.connected && p.minBatteryPct ≤ tel.batteryPercent,
    fixed 1 tel.batteryPercent ++ "% (floor " ++ fixed 0 p.minBatteryPct ++ "%)")

/-- The lowest cell, or the pack's voltage spread over its cells. -/
def cellVoltageCheck (batteryCells : Nat) (r : VehicleReport) : Check :=
  let (cellV, detail) :=
    match r.batteryCellVoltages with
    | some (c :: cs) =>
      let lowest := cs.foldl min c
      (lowest, "min cell " ++ fixed 3 lowest ++ " V")
    | _ =>
      let cellV := r.tel.batteryVoltage / batteryCells
      (cellV, fixed 3 cellV ++ " V/cell (" ++ fixed 2 r.tel.batteryVoltage ++ " V / " ++
        toString batteryCells ++ "S)")
  (.batteryCellVoltage, r.tel.connected && p.minCellVoltageV ≤ cellV,
    detail ++ " (floor " ++ fixed 2 p.minCellVoltageV ++ " V)")

def cellBalanceCheck (r : VehicleReport) : Check :=
  match r.batteryCellVoltages with
  | some (c :: cs) =>
    let deltaMv := (cs.foldl max c - cs.foldl min c) * 1000
    (.batteryCellBalance, r.tel.connected && deltaMv < p.maxCellDeltaMv,
      fixed 0 deltaMv ++ " mV spread (limit < " ++ fixed 0 p.maxCellDeltaMv ++ " mV)")
  | _ => (.batteryCellBalance, false, "Per-cell voltages not reported by this vehicle")

end

def capitalize (s : String) : String :=
  match s.toList with
  | [] => ""
  | c :: cs => String.ofList (c.toUpper :: cs.map Char.toLower)

def ekfDetail (tel : Telemetry) : String :=
  if tel.healthArmable && tel.healthHomeOk then "Armable, home position locked"
  else
    let missing := (if tel.healthArmable then [] else ["not armable"]) ++
      (if tel.healthHomeOk then [] else ["no home lock"])
    capitalize (", ".intercalate missing) ++
      if !tel.healthArmable && tel.flightMode ≠ "UNKNOWN" && tel.flightMode ≠ "HOLD" then
        "; PX4 is in " ++ tel.flightMode ++
          ", which can block arming even with a healthy EKF: set HOLD and re-check"
      else ""

/-- `trajectory_hash`, and `show_hash` over the whole show. -/
structure Hashes where
  trajectory : List (Waypoint ℚ) → String
  show_ : Show ℚ → String

def shortHash (h : String) : String := String.ofList (h.toList.take 12)

def checkTrajectory (p : ProfilePolicy) (hashes : Hashes) (d : Nat) (r : VehicleReport)
    (trajectory : Option (Show ℚ)) : Bool × String :=
  match trajectory.filter fun s => s.drones ≠ [] with
  | none => (false, "No show loaded")
  | some s =>
    match (find s.drones d).filter (· ≠ []) with
    | none => (false, "No trajectory slot for this drone")
    | some waypoints =>
      let expected := hashes.trajectory waypoints
      match r.missionHash with
      | none =>
        if p.requireOnboardMissionHash then (false, "Vehicle reports no onboard mission hash")
        else (true, "Slot hash " ++ shortHash expected ++ " (streamed from GCS)")
      | some onboard =>
        if onboard ≠ expected then
          (false, "Onboard " ++ shortHash onboard ++ " ≠ expected " ++ shortHash expected)
        else (true, "Onboard hash " ++ shortHash expected ++ " matches")

def checkPad (d : Nat) (tel : Telemetry) (geofenceRadiusM : ℚ) (positions : Dict Nat (Point ℚ)) :
    Bool × String :=
  if !tel.connected then (false, "No position (disconnected)")
  else
    let fromHome := hypot tel.localX tel.localY
    if geofenceRadiusM < fromHome then
      (false, fixed 1 fromHome ++ " m from home, outside " ++ fixed 0 geofenceRadiusM ++ " m geofence")
    else
      let own := (find positions d).getD (0, 0, 0)
      let limit := (defaultLimits : SafetyLimits ℚ).minSeparationM
      match ((positions.filter fun e => e.1 ≠ d).map fun e => pointDist own e.2).min? with
      | none => (true, "Inside geofence, no other drone")
      | some nearest =>
        if nearest < limit then
          (false, "Another drone " ++ fixed 2 nearest ++ " m away (min " ++ fixed 1 limit ++ " m)")
        else (true, "Inside geofence, nearest drone " ++ fixed 1 nearest ++ " m")

def droneChecks (p : ProfilePolicy) (batteryCells : Nat) (hashes : Hashes) (d : Nat)
    (r : VehicleReport) (trajectory : Option (Show ℚ)) (geofenceRadiusM : ℚ)
    (positions : Dict Nat (Point ℚ)) (now : ℚ) : List Check :=
  let tel := r.tel
  [(.connected, tel.connected, if tel.connected then "Link up" else "No link to vehicle"),
    latencyCheck p tel, heartbeatCheck p tel now, gnssCheck p tel, socCheck p tel,
    cellVoltageCheck p batteryCells r, cellBalanceCheck p r,
    (.ekfHealth, tel.connected && tel.healthArmable && tel.healthHomeOk, ekfDetail tel),
    (.trajectoryHash, checkTrajectory p hashes d r trajectory),
    (.padClearance, checkPad d tel geofenceRadiusM positions)]

end Taramandal.Gcs.Preflight
