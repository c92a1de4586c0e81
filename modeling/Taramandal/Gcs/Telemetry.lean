import Taramandal.Gcs.State

/-! # Telemetry (`drone_manager.py`)

What each supervised stream writes when it delivers, what a dropped stream does
to its drone, and the bulk read that replaces the streams on the sim backend.
None of them touches `aborted`, nor anything outside the telemetry table
(`telemetryStep_frame`). -/
namespace Taramandal.Gcs.Telemetry

open Core.Numbers Core.Safety Gcs.State

/-- One item of a stream. -/
inductive StreamItem where
  | connectionState (isConnected : Bool)
  | battery (remainingPercent voltageV : ℚ)
  | flightMode (mode : String)
  | gpsInfo (numSatellites : ℤ) (fixType : String)
  | positionVelocityNed (northM eastM downM : ℚ)
  | armed (isArmed : Bool)
  | landedState (state : String)
  | home (latitudeDeg longitudeDeg absoluteAltitudeM : ℚ)
  | health (isArmable isHomePositionOk : Bool)

def StreamItem.stream : StreamItem → String
  | .connectionState _ => "connection_state"
  | .battery _ _ => "battery"
  | .flightMode _ => "flight_mode"
  | .gpsInfo _ _ => "gps_info"
  | .positionVelocityNed _ _ _ => "position_velocity_ned"
  | .armed _ => "armed"
  | .landedState _ => "landed_state"
  | .home _ _ _ => "home"
  | .health _ _ => "health"

/-- A position, with its time; in the fleet frame the drone's pad is added. -/
def writePosition (m : DroneManager) (d : Nat) (northM eastM upM : ℚ) (tel : Telemetry) :
    Telemetry :=
  let pad := (padOffset d : Except String (ℚ × ℚ)).toOption.getD (0, 0)
  { tel with
    localX := roundTo 2 northM, localY := roundTo 2 eastM, localZ := roundTo 2 upM
    fleetX := roundTo 2 (roundTo 2 northM + pad.1), fleetY := roundTo 2 (roundTo 2 eastM + pad.2)
    fleetZ := roundTo 2 upM, positionAt := some m.time }

/-- `on_item` of each monitor. -/
def onItem (m : DroneManager) (d : Nat) (tel : Telemetry) : StreamItem → Telemetry
  | .connectionState isConnected =>
    let tel := { tel with
      linkUp := isConnected
      lastHeartbeat := if isConnected then some m.time else tel.lastHeartbeat }
    -- while a stream is down only `markStreamUp` sets `connected`
    if tel.telemetryStale then tel
    else { tel with
      connected := isConnected
      linkStableSince := if !isConnected then none else some (tel.linkStableSince.getD m.monotonic) }
  | .battery percent voltage =>
    { tel with batteryPercent := roundTo 1 percent, batteryVoltage := roundTo 2 voltage }
  | .flightMode mode => { tel with flightMode := mode }
  | .gpsInfo n fixType =>
    { tel with satellites := n, gpsLock := decide (6 ≤ n), gpsFixType := fixType }
  | .positionVelocityNed n e down =>
    writePosition m d n e (-down) { tel with lastHeartbeat := some m.time }
  | .armed isArmed => { tel with armed := isArmed }
  | .landedState state => { tel with landedState := some state, landedStateAt := some m.time }
  | .home lat lon alt => { tel with homeLat := lat, homeLon := lon, homeAlt := alt }
  | .health armable homeOk => { tel with healthArmable := armable, healthHomeOk := homeOk }

/-- `sorted(down)`. -/
def sortedStreams (down : List String) : List String := down.insertionSort (· ≤ ·)

def markStreamDown (m : DroneManager) (d : Nat) (name : String) : DroneManager :=
  let down := m.streamsDown d
  let down := if down.contains name then down else down ++ [name]
  { m with
    streamsDown := Function.update m.streamsDown d down
    telemetry := Function.update m.telemetry d
      { m.telemetry d with
        telemetryStale := true, staleStreams := sortedStreams down, connected := false
        linkStableSince := none } }

def markStreamUp (m : DroneManager) (d : Nat) (name : String) : DroneManager :=
  if !(m.streamsDown d).contains name then m
  else
    let down := (m.streamsDown d).filter (· ≠ name)
    let tel := { m.telemetry d with staleStreams := sortedStreams down }
    { m with
      streamsDown := Function.update m.streamsDown d down
      telemetry := Function.update m.telemetry d
        (if down ≠ [] then tel
        else { tel with
          telemetryStale := false, connected := tel.linkUp
          linkStableSince := if tel.linkUp then some m.monotonic else none }) }

/-- The slow fields of a bulk read. -/
structure SlowRow where
  batteryPct : ℚ
  batteryVoltage : ℚ
  flightMode : String
  satellites : ℤ
  gpsFixType : String
  homeLat : ℚ
  homeLon : ℚ
  homeAlt : ℚ

/-- One drone's row of a bulk read. -/
structure BulkRow where
  connected : Bool
  armed : Bool
  armable : Bool
  north : ℚ
  east : ℚ
  alt : ℚ
  climbing : ℚ
  slow : Option SlowRow := none

/-- `LANDED_ALTITUDE_M` of the simulated fleet. -/
def landedAltitudeM : ℚ := 1 / 20

/-- `_ingest_bulk_telemetry`, for one drone. -/
def ingestBulk (m : DroneManager) (d : Nat) (tel : Telemetry) (row : BulkRow) : Telemetry :=
  let tel := { tel with
    lastHeartbeat := if row.connected then some m.time else tel.lastHeartbeat
    linkStableSince := if row.connected then some (tel.linkStableSince.getD m.monotonic) else none
    connected := row.connected, linkUp := row.connected
    healthArmable := row.armable, healthHomeOk := row.armable
    landedState := some
      (if row.alt ≤ landedAltitudeM ∧ |row.climbing| < 1 / 10 then "ON_GROUND" else "IN_AIR")
    landedStateAt := some m.time, armed := row.armed }
  let tel := writePosition m d row.north row.east row.alt tel
  match row.slow with
  | none => tel
  | some slow =>
    { tel with
      batteryPercent := roundTo 1 slow.batteryPct, batteryVoltage := roundTo 2 slow.batteryVoltage
      flightMode := slow.flightMode, satellites := slow.satellites
      gpsLock := decide (6 ≤ slow.satellites), gpsFixType := slow.gpsFixType
      homeLat := slow.homeLat, homeLon := slow.homeLon, homeAlt := slow.homeAlt
      commLatencyMs := 0 }

/-- What happens to one drone's telemetry between two steps of anything else. -/
inductive TelemetryEvent where
  | item (i : StreamItem)
  | streamDropped (name : String)
  | probeAnswered (latencyMs : ℚ)
  | probeFailed
  | bulk (row : BulkRow)

/-- `_supervise_stream` and the latency loop, one delivery at a time. -/
def telemetryStep (m : DroneManager) (d : Nat) : TelemetryEvent → DroneManager
  | .item i => markStreamUp (m.setTelemetry d (onItem m d (m.telemetry d) i)) d i.stream
  | .streamDropped name => markStreamDown m d name
  | .probeAnswered latencyMs =>
    m.setTelemetry d { m.telemetry d with commLatencyMs := roundTo 1 latencyMs }
  | .probeFailed =>
    m.setTelemetry d { m.telemetry d with commLatencyMs := -1, linkStableSince := some m.monotonic }
  | .bulk row => m.setTelemetry d (ingestBulk m d (m.telemetry d) row)

/-- Only the telemetry table and the outage record have changed. -/
structure TelemetryOnly (m m' : DroneManager) : Prop where
  rest : ∃ telemetry streamsDown, m' = { m with telemetry := telemetry, streamsDown := streamsDown }
  aborted : ∀ d, (m'.telemetry d).aborted = (m.telemetry d).aborted

lemma update_aborted {telemetry : Nat → Telemetry} {d : Nat} {tel : Telemetry}
    (h : tel.aborted = (telemetry d).aborted) (e : Nat) :
    (Function.update telemetry d tel e).aborted = (telemetry e).aborted := by
  by_cases he : e = d
  · rw [he, Function.update_self]; exact h
  · rw [Function.update_of_ne he]

lemma onItem_aborted (m : DroneManager) (d : Nat) (tel : Telemetry) (i : StreamItem) :
    (onItem m d tel i).aborted = tel.aborted := by
  cases i with
  | connectionState isConnected => simp only [onItem]; split <;> rfl
  | _ => rfl

lemma ingestBulk_aborted (m : DroneManager) (d : Nat) (tel : Telemetry) (row : BulkRow) :
    (ingestBulk m d tel row).aborted = tel.aborted := by
  unfold ingestBulk
  dsimp only
  split <;> rfl

lemma TelemetryOnly.setTelemetry {m : DroneManager} {d : Nat} {tel : Telemetry}
    (h : tel.aborted = (m.telemetry d).aborted) : TelemetryOnly m (m.setTelemetry d tel) where
  rest := ⟨_, _, rfl⟩
  aborted := update_aborted h

lemma TelemetryOnly.trans {m m' m'' : DroneManager} (h : TelemetryOnly m m')
    (h' : TelemetryOnly m' m'') : TelemetryOnly m m'' where
  rest := by
    obtain ⟨_, _, rfl⟩ := h.rest
    obtain ⟨t, s, rfl⟩ := h'.rest
    exact ⟨t, s, rfl⟩
  aborted d := (h'.aborted d).trans (h.aborted d)

lemma markStreamUp_frame (m : DroneManager) (d : Nat) (name : String) :
    TelemetryOnly m (markStreamUp m d name) := by
  unfold markStreamUp
  split
  · exact ⟨⟨_, _, rfl⟩, fun _ => rfl⟩
  · refine ⟨⟨_, _, rfl⟩, update_aborted ?_⟩
    split <;> rfl

lemma telemetryStep_frame (m : DroneManager) (d : Nat) (ev : TelemetryEvent) :
    TelemetryOnly m (telemetryStep m d ev) := by
  cases ev with
  | item i =>
    exact (TelemetryOnly.setTelemetry (onItem_aborted m d _ i)).trans (markStreamUp_frame _ d _)
  | streamDropped name => exact ⟨⟨_, _, rfl⟩, update_aborted rfl⟩
  | probeAnswered latencyMs => exact .setTelemetry rfl
  | probeFailed => exact .setTelemetry rfl
  | bulk row => exact .setTelemetry (ingestBulk_aborted m d _ row)

end Taramandal.Gcs.Telemetry
