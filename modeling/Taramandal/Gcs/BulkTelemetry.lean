import Taramandal.Gcs.Telemetry
import Taramandal.Lib.Settling
import Taramandal.Sim.Vehicle

/-! # Bulk telemetry on the sim backend (`_ingest_bulk_telemetry`)

A simulated fleet can be read in two ways: through ten streams a drone, each with its
monitor (`simItems`, `feedStep`), or through one snapshot of arrays (`getBulkTelemetry`,
`ingestBulkTelemetry`). Either way a drone's entry comes to what the nine streams that
report something say of it, whatever the order (`settle`). -/
namespace Taramandal.Gcs.BulkTelemetry

open Core.Numbers Core.Safety Gcs.State Gcs.Telemetry Lib.Dict Lib.Settling Sim.Vehicle

/-! ## The simulated fleet, read -/

/-- A simulated fleet as a reader finds it, with the noisy positions both ways of reading
it are given. -/
structure SimFleet (n : Nat) where
  state : FleetState ℚ n
  satellites : Fin n → ℤ
  homes : Fin n → ℚ × ℚ
  sample : Fin n → Vec3 ℚ

def modeName : FlightMode → String
  | .manual => "MANUAL"
  | .terminated => "TERMINATED"
  | .landed => "LANDED"
  | .returnToLaunch => "RETURN_TO_LAUNCH"
  | .land => "LAND"
  | .inShow => "SHOW"
  | .offboard => "OFFBOARD"
  | .hold => "HOLD"

def homeAbsoluteAltM : ℚ := 920

def batteryVoltage (pct : ℚ) : ℚ := 14 + 28 / 1000 * pct

variable {n : Nat}

def SimFleet.isArmable (r : SimFleet n) (i : Fin n) : Bool :=
  r.state.config.armableDelayS ≤ r.state.timeS - (r.state.drone i).connectedSince

/-- The name a vehicle at rest near the ground reports, or that of one that is not. -/
def landedName (alt climbing : ℚ) : String :=
  if alt ≤ Sim.Vehicle.landedAltitudeM ∧ |climbing| < 1 / 10 then "ON_GROUND" else "IN_AIR"

/-- The next item of each stream of `SimSystem`. -/
def simItems (r : SimFleet n) (i : Fin n) : List StreamItem :=
  let d := r.state.drone i
  [.connectionState d.connected, .battery d.batteryPct (batteryVoltage d.batteryPct),
    .flightMode (modeName d.flightMode), .gpsInfo (r.satellites i) d.gpsFixType,
    .positionVelocityNed (r.sample i).north (r.sample i).east (-(r.sample i).up),
    .armed d.armed, .landedState (landedName (r.sample i).up d.velocity.up),
    .home (r.homes i).1 (r.homes i).2 homeAbsoluteAltM, .health (r.isArmable i) (r.isArmable i)]

/-- `BulkTelemetry`: an array for each quantity, by drone. -/
structure BulkSnapshot where
  position : List (Vec3 ℚ)
  velocity : List (Vec3 ℚ)
  connected : List Bool
  armed : List Bool
  batteryPct : List ℚ
  batteryVoltage : List ℚ
  satellites : List ℤ
  flightMode : List String
  gpsFixType : List String
  homeLat : List ℚ
  homeLon : List ℚ
  homeAlt : List ℚ

def getBulkTelemetry (r : SimFleet n) : BulkSnapshot where
  position := List.ofFn r.sample
  velocity := List.ofFn fun i => (r.state.drone i).velocity
  connected := List.ofFn fun i => (r.state.drone i).connected
  armed := List.ofFn fun i => (r.state.drone i).armed
  batteryPct := List.ofFn fun i => (r.state.drone i).batteryPct
  batteryVoltage := (List.ofFn fun i => (r.state.drone i).batteryPct).map batteryVoltage
  satellites := List.ofFn r.satellites
  flightMode := List.ofFn fun i => modeName (r.state.drone i).flightMode
  gpsFixType := List.ofFn fun i => (r.state.drone i).gpsFixType
  homeLat := List.ofFn fun i => (r.homes i).1
  homeLon := List.ofFn fun i => (r.homes i).2
  homeAlt := List.replicate n homeAbsoluteAltM

/-! ## The station -/

/-- The manager of a fleet that has pads for all its drones, with its geofence breaches. -/
structure Station where
  manager : DroneManager
  supported : ∀ d ∈ manager.drones, d < maxFleetSize
  geofenceBreaches : Dict Nat Bool

def resetBreach (d : Nat) (prevArmed armed : Bool) (breaches : Dict Nat Bool) : Dict Nat Bool :=
  if prevArmed && !armed && has breaches d then assign breaches d false else breaches

lemma telemetryStep_drones (m : DroneManager) (d : Nat) (ev : TelemetryEvent) :
    (telemetryStep m d ev).drones = m.drones := by
  obtain ⟨_, _, h⟩ := (telemetryStep_frame m d ev).rest
  rw [h]

section

variable (r : SimFleet n) (snap : BulkSnapshot) (includeSlow : Bool)

def bulkRow (d : Nat) : Option BulkRow := do
  let position ← snap.position[d]?
  let velocity ← snap.velocity[d]?
  let connected ← snap.connected[d]?
  let armed ← snap.armed[d]?
  let armable ← (List.ofFn r.isArmable)[d]?
  let slow : SlowRow := {
    batteryPct := ← snap.batteryPct[d]?
    batteryVoltage := ← snap.batteryVoltage[d]?
    flightMode := ← snap.flightMode[d]?
    satellites := ← snap.satellites[d]?
    gpsFixType := ← snap.gpsFixType[d]?
    homeLat := ← snap.homeLat[d]?
    homeLon := ← snap.homeLon[d]?
    homeAlt := ← snap.homeAlt[d]? }
  return {
    connected := connected, armed := armed, armable := armable
    north := position.north, east := position.east, alt := position.up
    climbing := velocity.up
    slow := if includeSlow then some slow else none }

def ingestDrone (s : Station) (d : Nat) : Station :=
  match bulkRow r snap includeSlow d with
  | none => s
  | some row => {
    manager := telemetryStep s.manager d (.bulk row)
    supported := telemetryStep_drones s.manager d (.bulk row) ▸ s.supported
    geofenceBreaches :=
      resetBreach d (s.manager.telemetry d).armed row.armed s.geofenceBreaches }

/-- `_ingest_bulk_telemetry`, of the fleet the station flies. -/
def ingestBulkTelemetry (s : Station) : Station :=
  (s.manager.drones.filter (· < snap.armed.length)).foldl (ingestDrone r snap includeSlow) s

end

/-- What the monitors do: a stream delivers, at some time; the latency probe answers. -/
inductive Fed where
  | item (d : Nat) (i : StreamItem) (time monotonic : ℚ)
  | probed (d : Nat) (latencyMs : ℚ)

def Fed.drone : Fed → Nat
  | .item d _ _ _ => d
  | .probed d _ => d

/-- The breaches behind an item (`_monitor_armed_state`). -/
def breachesAfter (d : Nat) (tel : Telemetry) (breaches : Dict Nat Bool) :
    StreamItem → Dict Nat Bool
  | .armed armed => resetBreach d tel.armed armed breaches
  | _ => breaches

def atTime (m : DroneManager) (time monotonic : ℚ) : DroneManager :=
  { m with time := time, monotonic := monotonic }

/-- One delivery, through `_supervise_stream` and the handler of its monitor. -/
def feedStep (s : Station) : Fed → Station
  | .item d i time monotonic => {
    manager := telemetryStep (atTime s.manager time monotonic) d (.item i)
    supported := telemetryStep_drones (atTime s.manager time monotonic) d (.item i) ▸ s.supported
    geofenceBreaches := breachesAfter d (s.manager.telemetry d) s.geofenceBreaches i }
  | .probed d latencyMs => {
    manager := telemetryStep s.manager d (.probeAnswered latencyMs)
    supported := telemetryStep_drones s.manager d (.probeAnswered latencyMs) ▸ s.supported
    geofenceBreaches := s.geofenceBreaches }

/-- An entry, timestamps and the latency probe aside: of the link's continuity there is
left whether it is there. -/
def untimed (tel : Telemetry) : Telemetry :=
  { tel with
    lastHeartbeat := none, positionAt := none, landedStateAt := none, commLatencyMs := 0
    linkStableSince := tel.linkStableSince.map fun _ => 0 }

/-- What is shown of a drone, and its geofence breach. -/
structure Shown where
  telemetry : Telemetry
  breach : Option Bool

def shownAt (s : Station) (d : Nat) : Shown where
  telemetry := untimed (s.manager.telemetry d)
  breach := find s.geofenceBreaches d

section

variable (d : Nat) (shown : Shown)

/-- What an item says of the drone `d`. -/
def settle : StreamItem → Shown
  | .connectionState connected =>
    { shown with telemetry := { shown.telemetry with
      linkUp := connected, connected := connected
      linkStableSince := if connected then some 0 else none } }
  | .battery percent voltage =>
    { shown with telemetry := { shown.telemetry with
      batteryPercent := roundTo 1 percent, batteryVoltage := roundTo 2 voltage } }
  | .flightMode mode => { shown with telemetry := { shown.telemetry with flightMode := mode } }
  | .gpsInfo satellites fixType =>
    { shown with telemetry := { shown.telemetry with
      satellites := satellites, gpsLock := decide (6 ≤ satellites), gpsFixType := fixType } }
  | .positionVelocityNed north east down =>
    { shown with telemetry := {
      writePosition { drones := [] } d north east (-down) shown.telemetry with
      lastHeartbeat := none, positionAt := none } }
  | .armed armed => {
    telemetry := { shown.telemetry with armed := armed }
    breach := if shown.telemetry.armed && !armed then shown.breach.map fun _ => false
      else shown.breach }
  | .landedState state =>
    { shown with telemetry := { shown.telemetry with
      landedState := some state, landedStateAt := none } }
  | .home lat lon alt =>
    { shown with telemetry := { shown.telemetry with
      homeLat := lat, homeLon := lon, homeAlt := alt } }
  | .health armable homeOk =>
    { shown with telemetry := { shown.telemetry with
      healthArmable := armable, healthHomeOk := homeOk } }

lemma settle_comm {i j : StreamItem} (h : i.stream ≠ j.stream) :
    settle d (settle d shown i) j = settle d (settle d shown j) i := by
  cases i <;> cases j <;>
    first
    | rfl
    | exact absurd rfl h

lemma settle_idem (i : StreamItem) : settle d (settle d shown i) i = settle d shown i := by
  cases i with
  | armed armed => cases armed <;> simp [settle]
  | _ => rfl

end

/-! ## What the monitors leave -/

/-- No stream of the drone is marked down. -/
structure NoneDown (m : DroneManager) (d : Nat) : Prop where
  fresh : (m.telemetry d).telemetryStale = false
  none : m.streamsDown d = []

lemma telemetryStep_item {m : DroneManager} {d : Nat} (h : m.streamsDown d = []) (i : StreamItem) :
    telemetryStep m d (.item i) = m.setTelemetry d (onItem m d (m.telemetry d) i) := by
  have hup : (m.setTelemetry d (onItem m d (m.telemetry d) i)).streamsDown d = [] := h
  simp [telemetryStep, markStreamUp, hup]

lemma onItem_stale (m : DroneManager) (d : Nat) (tel : Telemetry) (i : StreamItem) :
    (onItem m d tel i).telemetryStale = tel.telemetryStale := by
  cases i with
  | connectionState connected => simp only [onItem]; split <;> rfl
  | _ => rfl

@[simp] lemma find_resetBreach_self (d : Nat) (prevArmed armed : Bool)
    (breaches : Dict Nat Bool) :
    find (resetBreach d prevArmed armed breaches) d =
      if prevArmed && !armed then (find breaches d).map fun _ => false else find breaches d := by
  unfold resetBreach
  by_cases hdis : (prevArmed && !armed) = true
  · cases hf : find breaches d with
    | none => simp [hdis, has, hf]
    | some b => simp [hdis, has, hf, find_assign_self]
  · simp [hdis]

lemma find_resetBreach_ne {d e : Nat} (h : e ≠ d) (prevArmed armed : Bool)
    (breaches : Dict Nat Bool) :
    find (resetBreach d prevArmed armed breaches) e = find breaches e := by
  unfold resetBreach
  split
  · exact find_assign_ne _ _ h.symm
  · rfl

lemma settle_onItem {m : DroneManager} {d : Nat} {tel : Telemetry}
    (h : tel.telemetryStale = false) (breaches : Dict Nat Bool) (i : StreamItem) :
    (⟨untimed (onItem m d tel i), find (breachesAfter d tel breaches i) d⟩ : Shown) =
      settle d ⟨untimed tel, find breaches d⟩ i := by
  cases i with
  | connectionState connected =>
    cases connected <;> simp [onItem, untimed, settle, breachesAfter, h]
  | armed armed => simp [onItem, untimed, settle, breachesAfter]
  | _ => rfl

lemma breachesAfter_ne {d e : Nat} (h : e ≠ d) (tel : Telemetry) (breaches : Dict Nat Bool)
    (i : StreamItem) : find (breachesAfter d tel breaches i) e = find breaches e := by
  cases i with
  | armed armed => exact find_resetBreach_ne h tel.armed armed breaches
  | _ => rfl

section Feeding

variable {s : Station} {d : Nat}

lemma manager_item (h : NoneDown s.manager d) (i : StreamItem) (time monotonic : ℚ) :
    (feedStep s (.item d i time monotonic)).manager =
      (atTime s.manager time monotonic).setTelemetry d
        (onItem (atTime s.manager time monotonic) d (s.manager.telemetry d) i) :=
  telemetryStep_item (m := atTime s.manager time monotonic) h.none i

lemma telemetry_item (h : NoneDown s.manager d) (i : StreamItem) (time monotonic : ℚ) :
    (feedStep s (.item d i time monotonic)).manager.telemetry d =
      onItem (atTime s.manager time monotonic) d (s.manager.telemetry d) i := by
  rw [manager_item h]
  exact Function.update_self ..

variable {e : Nat} {fed : List Fed}

lemma telemetry_item_ne (h : NoneDown s.manager e) (hne : d ≠ e) (i : StreamItem)
    (time monotonic : ℚ) :
    (feedStep s (.item e i time monotonic)).manager.telemetry d = s.manager.telemetry d := by
  rw [manager_item h]
  exact Function.update_of_ne hne ..

lemma telemetry_probed (latencyMs : ℚ) : (feedStep s (.probed d latencyMs)).manager.telemetry d =
      { s.manager.telemetry d with commLatencyMs := roundTo 1 latencyMs } :=
  Function.update_self ..

lemma telemetry_probed_ne (hne : d ≠ e) (latencyMs : ℚ) :
    (feedStep s (.probed e latencyMs)).manager.telemetry d = s.manager.telemetry d :=
  Function.update_of_ne hne ..

lemma shownAt_item (h : NoneDown s.manager d) (i : StreamItem) (time monotonic : ℚ) :
    shownAt (feedStep s (.item d i time monotonic)) d = settle d (shownAt s d) i := by
  rw [shownAt, telemetry_item h]
  exact settle_onItem h.fresh s.geofenceBreaches i

lemma shownAt_item_ne (h : NoneDown s.manager e) (hne : d ≠ e) (i : StreamItem)
    (time monotonic : ℚ) :
    shownAt (feedStep s (.item e i time monotonic)) d = shownAt s d := by
  rw [shownAt, telemetry_item_ne h hne]
  exact congrArg _ (breachesAfter_ne hne (s.manager.telemetry e) s.geofenceBreaches i)

lemma shownAt_probed (e : Nat) (latencyMs : ℚ) :
    shownAt (feedStep s (.probed e latencyMs)) d = shownAt s d := by
  by_cases he : d = e
  · subst he
    rw [shownAt, telemetry_probed]
    rfl
  · rw [shownAt, telemetry_probed_ne he]
    rfl

lemma noneDown_feedStep {fed : Fed} (h : NoneDown s.manager d)
    (hfed : NoneDown s.manager fed.drone) : NoneDown (feedStep s fed).manager d := by
  cases fed with
  | item e i time monotonic =>
    have hfed : NoneDown s.manager e := hfed
    refine ⟨?_, (congrFun (congrArg _ (manager_item hfed i time monotonic)) d).trans h.none⟩
    by_cases he : d = e
    · subst he
      rw [telemetry_item h, onItem_stale]
      exact h.fresh
    · rw [telemetry_item_ne hfed he]
      exact h.fresh
  | probed e latencyMs =>
    refine ⟨?_, h.none⟩
    by_cases he : d = e
    · subst he
      rw [telemetry_probed]
      exact h.fresh
    · rw [telemetry_probed_ne he]
      exact h.fresh

/-- What the streams of `d` have delivered. -/
def heard (d : Nat) : List Fed → List StreamItem
  | [] => []
  | .item e i _ _ :: fed => if d = e then i :: heard d fed else heard d fed
  | .probed _ _ :: fed => heard d fed

lemma mem_heard {i : StreamItem} :
    i ∈ heard d fed ↔ ∃ time monotonic, .item d i time monotonic ∈ fed := by
  induction fed with
  | nil => simp [heard]
  | cons f fed ih =>
    cases f with
    | item e j time monotonic =>
      by_cases he : d = e
      · subst he
        simp only [heard, if_pos, List.mem_cons, ih, Fed.item.injEq, true_and]
        grind
      · rw [heard, if_neg he, ih]
        simp [he]
    | probed e latencyMs => simp [heard, ih]

section

variable {drones : List Nat} (h : ∀ e ∈ drones, NoneDown s.manager e)
  (hfed : ∀ f ∈ fed, f.drone ∈ drones)
include h hfed

lemma shownAt_feed :
    shownAt (fed.foldl feedStep s) d = (heard d fed).foldl (settle d) (shownAt s d) := by
  induction fed generalizing s with
  | nil => rfl
  | cons f fed ih =>
    have hf := h f.drone (hfed f List.mem_cons_self)
    have hnext : ∀ e ∈ drones, NoneDown (feedStep s f).manager e :=
      fun e he => noneDown_feedStep (h e he) hf
    rw [List.foldl_cons, ih hnext fun g hg => hfed g (List.mem_cons_of_mem f hg)]
    cases f with
    | item e i time monotonic =>
      have hf : NoneDown s.manager e := hf
      by_cases he : d = e
      · subst he
        rw [shownAt_item hf, heard, if_pos rfl, List.foldl_cons]
      · rw [shownAt_item_ne hf he, heard, if_neg he]
    | probed e latencyMs => rw [shownAt_probed, heard]

lemma link_feed (hup : ∀ c, .connectionState c ∈ heard d fed → c = true) {t : ℚ}
    (ht : (s.manager.telemetry d).linkStableSince = some t) :
    ((fed.foldl feedStep s).manager.telemetry d).linkStableSince = some t := by
  induction fed generalizing s with
  | nil => exact ht
  | cons f fed ih =>
    have hf := h f.drone (hfed f List.mem_cons_self)
    refine ih (fun e he => noneDown_feedStep (h e he) hf)
      (fun g hg => hfed g (List.mem_cons_of_mem f hg)) (fun c hc => hup c ?_) ?_
    · cases f with
      | item e i time monotonic =>
        rw [heard]
        split
        · exact List.mem_cons_of_mem i hc
        · exact hc
      | probed e latencyMs => exact hc
    · cases f with
      | item e i time monotonic =>
        have hf : NoneDown s.manager e := hf
        by_cases he : d = e
        · subst he
          rw [telemetry_item hf]
          cases i with
          | connectionState c =>
            have hc : c = true := hup c (by simp [heard])
            have hstale : (s.manager.telemetry d).telemetryStale = false := hf.fresh
            simp [onItem, hc, hstale, ht]
          | _ => exact ht
        · rw [telemetry_item_ne hf he]
          exact ht
      | probed e latencyMs =>
        by_cases he : d = e
        · subst he
          rw [telemetry_probed]
          exact ht
        · rw [telemetry_probed_ne he]
          exact ht

end

end Feeding

section Bulk

variable {r : SimFleet n} {s : Station} {d : Nat}

lemma bulkRow_none (includeSlow : Bool) (h : n ≤ d) :
    bulkRow r (getBulkTelemetry r) includeSlow d = none := by
  have hnone : (getBulkTelemetry r).position[d]? = none := by
    simp [getBulkTelemetry, h]
  rw [bulkRow, hnone]
  rfl

def rowOf (r : SimFleet n) (includeSlow : Bool) (i : Fin n) : BulkRow where
  connected := (r.state.drone i).connected
  armed := (r.state.drone i).armed
  armable := r.isArmable i
  north := (r.sample i).north
  east := (r.sample i).east
  alt := (r.sample i).up
  climbing := (r.state.drone i).velocity.up
  slow := if includeSlow then some {
      batteryPct := (r.state.drone i).batteryPct
      batteryVoltage := batteryVoltage (r.state.drone i).batteryPct
      flightMode := modeName (r.state.drone i).flightMode
      satellites := r.satellites i
      gpsFixType := (r.state.drone i).gpsFixType
      homeLat := (r.homes i).1
      homeLon := (r.homes i).2
      homeAlt := homeAbsoluteAltM }
    else none

lemma ofFn_getElem? {α : Type} (f : Fin n → α) (i : Fin n) :
    (List.ofFn f)[i.val]? = some (f i) := by
  rw [List.getElem?_ofFn, dif_pos i.isLt]

lemma bulkRow_eq (includeSlow : Bool) (i : Fin n) :
    bulkRow r (getBulkTelemetry r) includeSlow i = some (rowOf r includeSlow i) := by
  simp only [bulkRow, getBulkTelemetry, ofFn_getElem?, List.getElem?_map, Option.map_some,
    List.getElem?_replicate, if_pos i.isLt]
  rfl

lemma landedAltitudeM_eq : Gcs.Telemetry.landedAltitudeM = Sim.Vehicle.landedAltitudeM := by
  norm_num [Gcs.Telemetry.landedAltitudeM, Sim.Vehicle.landedAltitudeM]

lemma shownAt_ingestDrone (i : Fin n) : shownAt (ingestDrone r (getBulkTelemetry r) true s i) i =
      (simItems r i).foldl (settle i) (shownAt s i) := by
  simp only [ingestDrone, bulkRow_eq]
  simp only [shownAt, telemetryStep, DroneManager.setTelemetry, Function.update_self,
    find_resetBreach_self, simItems, List.foldl_cons, List.foldl_nil, settle, neg_neg]
  cases hc : (r.state.drone i).connected <;>
    simp [ingestBulk, rowOf, untimed, writePosition, landedName, hc, landedAltitudeM_eq]

variable {e : Nat}

lemma shownAt_ingestDrone_ne (h : d ≠ e) (includeSlow : Bool) (snap : BulkSnapshot) :
    shownAt (ingestDrone r snap includeSlow s e) d = shownAt s d := by
  unfold ingestDrone
  split
  · rfl
  · simp only [shownAt, telemetryStep, DroneManager.setTelemetry, Function.update_of_ne h,
      find_resetBreach_ne h]

/-- What a snapshot says of `d` when it comes to the drone `e`. -/
def saidOf (r : SimFleet n) (d e : Nat) : List StreamItem :=
  if h : d = e ∧ d < n then simItems r ⟨d, h.2⟩ else []

lemma shownAt_ingestDrone_eq (e : Nat) : shownAt (ingestDrone r (getBulkTelemetry r) true s e) d =
      (saidOf r d e).foldl (settle d) (shownAt s d) := by
  unfold saidOf
  by_cases he : d = e
  · subst he
    by_cases hd : d < n
    · rw [dif_pos ⟨rfl, hd⟩]
      exact shownAt_ingestDrone ⟨d, hd⟩
    · rw [dif_neg fun h => hd h.2, ingestDrone, bulkRow_none true (Nat.le_of_not_lt hd)]
      rfl
  · rw [dif_neg fun h => he h.1, shownAt_ingestDrone_ne he]
    rfl

lemma shownAt_foldl_ingest (ids : List Nat) :
    shownAt (ids.foldl (ingestDrone r (getBulkTelemetry r) true) s) d =
      (ids.flatMap (saidOf r d)).foldl (settle d) (shownAt s d) := by
  induction ids generalizing s with
  | nil => rfl
  | cons e ids ih =>
    rw [List.foldl_cons, ih, shownAt_ingestDrone_eq, List.flatMap_cons, List.foldl_append]

lemma telemetry_ingestDrone (includeSlow : Bool) (i : Fin n) :
    (ingestDrone r (getBulkTelemetry r) includeSlow s i).manager.telemetry i =
      ingestBulk s.manager i (s.manager.telemetry i) (rowOf r includeSlow i) := by
  simp only [ingestDrone, bulkRow_eq]
  exact Function.update_self ..

lemma telemetry_ingestDrone_ne (h : d ≠ e) (includeSlow : Bool) (snap : BulkSnapshot) :
    (ingestDrone r snap includeSlow s e).manager.telemetry d = s.manager.telemetry d := by
  unfold ingestDrone
  split
  · rfl
  · exact Function.update_of_ne h ..

lemma ingestDrone_of_le (h : n ≤ e) (includeSlow : Bool) :
    ingestDrone r (getBulkTelemetry r) includeSlow s e = s := by
  rw [ingestDrone, bulkRow_none includeSlow h]

lemma link_ingest {ids : List Nat}
    (hup : ∀ i : Fin n, i.val = d → d ∈ ids → (r.state.drone i).connected = true) {t : ℚ}
    (ht : (s.manager.telemetry d).linkStableSince = some t) :
    ((ids.foldl (ingestDrone r (getBulkTelemetry r) true) s).manager.telemetry d).linkStableSince =
      some t := by
  induction ids generalizing s with
  | nil => exact ht
  | cons e ids ih =>
    refine ih (fun i hi hd => hup i hi (List.mem_cons_of_mem e hd)) ?_
    by_cases he : d = e
    · subst he
      by_cases hd : d < n
      · have hc := hup ⟨d, hd⟩ rfl List.mem_cons_self
        have htel := telemetry_ingestDrone (r := r) (s := s) true ⟨d, hd⟩
        dsimp only at htel
        rw [htel]
        simp [ingestBulk, rowOf, writePosition, hc, ht]
      · rw [ingestDrone_of_le (Nat.le_of_not_lt hd)]
        exact ht
    · rw [telemetry_ingestDrone_ne he]
      exact ht

def withSlowOf (old tel : Telemetry) : Telemetry :=
  { tel with
    batteryPercent := old.batteryPercent, batteryVoltage := old.batteryVoltage
    flightMode := old.flightMode, satellites := old.satellites, gpsLock := old.gpsLock
    gpsFixType := old.gpsFixType, homeLat := old.homeLat, homeLon := old.homeLon
    homeAlt := old.homeAlt, commLatencyMs := old.commLatencyMs }

/-- What a station has read is what another has, but for the slow fields, which are those
of `s`. -/
structure FastOf (s fast all : Station) : Prop where
  clocks : fast.manager.time = all.manager.time ∧ fast.manager.monotonic = all.manager.monotonic
  telemetry : ∀ d, fast.manager.telemetry d =
    withSlowOf (s.manager.telemetry d) (all.manager.telemetry d)
  breaches : fast.geofenceBreaches = all.geofenceBreaches

lemma ingestBulk_fast {m m' : DroneManager} (hclocks : m.time = m'.time ∧
    m.monotonic = m'.monotonic) (i : Fin n) (old tel : Telemetry) :
    ingestBulk m i (withSlowOf old tel) (rowOf r false i) =
      withSlowOf old (ingestBulk m' i tel (rowOf r true i)) := by
  simp [ingestBulk, rowOf, writePosition, withSlowOf, hclocks.1, hclocks.2]

lemma fastOf_ingestDrone {fast all : Station} (h : FastOf s fast all) (e : Nat) :
    FastOf s (ingestDrone r (getBulkTelemetry r) false fast e)
      (ingestDrone r (getBulkTelemetry r) true all e) := by
  by_cases he : e < n
  · have hf := bulkRow_eq (r := r) false ⟨e, he⟩
    have ha := bulkRow_eq (r := r) true ⟨e, he⟩
    have harmed : (fast.manager.telemetry e).armed = (all.manager.telemetry e).armed := by
      rw [h.telemetry e]
      rfl
    refine ⟨?_, fun d => ?_, ?_⟩
    · simp only [ingestDrone, hf, ha]
      exact h.clocks
    · by_cases hd : d = e
      · subst hd
        have hfast := telemetry_ingestDrone (r := r) (s := fast) false ⟨d, he⟩
        have hall := telemetry_ingestDrone (r := r) (s := all) true ⟨d, he⟩
        rw [hfast, hall, h.telemetry d, ingestBulk_fast h.clocks]
      · rw [telemetry_ingestDrone_ne hd, telemetry_ingestDrone_ne hd]
        exact h.telemetry d
    · simp only [ingestDrone, hf, ha, harmed, h.breaches]
      rfl
  · rw [ingestDrone_of_le (Nat.le_of_not_lt he), ingestDrone_of_le (Nat.le_of_not_lt he)]
    exact h

end Bulk

/-! ## One and the other -/

/-- The streams of a fleet deliver what they read of it, each at least once, and its probes
answer. -/
structure Feeds (r : SimFleet n) (drones : List Nat) (fed : List Fed) : Prop where
  known : ∀ f ∈ fed, f.drone ∈ drones
  read : ∀ d, ∀ i ∈ heard d fed, ∃ h : d < n, i ∈ simItems r ⟨d, h⟩
  each : ∀ d ∈ drones, ∀ h : d < n, simItems r ⟨d, h⟩ ⊆ heard d fed

section

variable {r : SimFleet n} {s : Station} {d : Nat}

variable {k : Fin n}

lemma eq_of_stream {i j : StreamItem} (hi : i ∈ simItems r k)
    (hj : j ∈ simItems r k) (h : i.stream = j.stream) : i = j := by
  have hnodup : ((simItems r k).map StreamItem.stream).Nodup := by
    simp [simItems, StreamItem.stream]
  exact List.inj_on_of_nodup_map hnodup hi hj h

lemma settle_comm_of_mem (shown : Shown) (i j : StreamItem)
    (hi : i ∈ simItems r k) (hj : j ∈ simItems r k) :
    settle d (settle d shown i) j = settle d (settle d shown j) i := by
  by_cases h : i.stream = j.stream
  · rw [eq_of_stream hi hj h]
  · exact settle_comm d shown h

def ingested (r : SimFleet n) (s : Station) : List Nat :=
  s.manager.drones.filter (· < (getBulkTelemetry r).armed.length)

lemma mem_ingested : d ∈ ingested r s ↔ d ∈ s.manager.drones ∧ d < n := by
  simp [ingested, getBulkTelemetry]

lemma mem_said {i : StreamItem} : i ∈ (ingested r s).flatMap (saidOf r d) ↔
      d ∈ s.manager.drones ∧ ∃ h : d < n, i ∈ simItems r ⟨d, h⟩ := by
  simp only [List.mem_flatMap, saidOf]
  constructor
  · rintro ⟨e, he, hi⟩
    split at hi
    · next h =>
      obtain ⟨rfl, hd⟩ := h
      exact ⟨(mem_ingested.mp he).1, hd, hi⟩
    · cases hi
  · rintro ⟨hd, h, hi⟩
    exact ⟨d, mem_ingested.mpr ⟨hd, h⟩, by simpa [h] using hi⟩

lemma shownAt_eq (hdown : ∀ d ∈ s.manager.drones, NoneDown s.manager d) {fed : List Fed}
    (hfed : Feeds r s.manager.drones fed) :
    shownAt (ingestBulkTelemetry r (getBulkTelemetry r) true s) d =
      shownAt (fed.foldl feedStep s) d := by
  rw [ingestBulkTelemetry, shownAt_foldl_ingest, shownAt_feed hdown hfed.known]
  change ((ingested r s).flatMap (saidOf r d)).foldl _ _ = _
  by_cases hd : d ∈ s.manager.drones ∧ d < n
  · refine foldl_eq_of_subset (p := (· ∈ simItems r ⟨d, hd.2⟩)) settle_comm_of_mem
      (fun shown i _ => settle_idem d shown i) (fun i hi => ?_) (fun i hi => ?_) (fun i hi => ?_) _
    · exact (mem_said.mp hi).2.2
    · exact hfed.each d hd.1 hd.2 (mem_said.mp hi).2.2
    · exact mem_said.mpr ⟨hd.1, hfed.read d i hi⟩
  · have hsaid : (ingested r s).flatMap (saidOf r d) = [] :=
      List.eq_nil_iff_forall_not_mem.mpr fun i hi =>
        hd ⟨(mem_said.mp hi).1, (mem_said.mp hi).2.1⟩
    have hheard : heard d fed = [] := by
      refine List.eq_nil_iff_forall_not_mem.mpr fun i hi => hd ⟨?_, (hfed.read d i hi).1⟩
      obtain ⟨time, monotonic, hmem⟩ := mem_heard.mp hi
      exact hfed.known _ hmem
    rw [hsaid, hheard]

lemma link_lost (hc : (r.state.drone k).connected = false) (hk : k.val ∈ s.manager.drones) :
    ((ingestBulkTelemetry r (getBulkTelemetry r) true s).manager.telemetry k).linkStableSince =
      none := by
  have hmem : StreamItem.connectionState false ∈ (ingested r s).flatMap (saidOf r k) :=
    mem_said.mpr ⟨hk, k.isLt, by simp [simItems, hc]⟩
  have habsorb := foldl_absorb (p := (· ∈ simItems r k)) (f := settle k)
    settle_comm_of_mem (fun shown i _ => settle_idem k shown i)
    (fun i hi => (mem_said.mp hi).2.2) hmem (shownAt s k)
  have hshown := shownAt_foldl_ingest (r := r) (s := s) (d := k) (ingested r s)
  rw [← habsorb] at hshown
  have hlink := congrArg (fun shown => shown.telemetry.linkStableSince) hshown
  change (((ingested r s).foldl (ingestDrone r (getBulkTelemetry r) true)
    s).manager.telemetry k).linkStableSince = none
  simpa [shownAt, untimed, settle] using hlink

lemma link_eq (hdown : ∀ d ∈ s.manager.drones, NoneDown s.manager d) {fed : List Fed}
    (hfed : Feeds r s.manager.drones fed) {t : ℚ}
    (ht : (s.manager.telemetry d).linkStableSince = some t) :
    ((ingestBulkTelemetry r (getBulkTelemetry r) true s).manager.telemetry d).linkStableSince =
      ((fed.foldl feedStep s).manager.telemetry d).linkStableSince := by
  by_cases hlost : ∃ k : Fin n, k.val = d ∧ d ∈ s.manager.drones ∧
      (r.state.drone k).connected = false
  · obtain ⟨k, rfl, hk, hc⟩ := hlost
    have hshown := shownAt_eq (d := k) hdown hfed
    have hlink := congrArg (fun shown => shown.telemetry.linkStableSince) hshown
    simp only [shownAt, untimed, link_lost hc hk, Option.map_none] at hlink
    rw [link_lost hc hk, eq_comm]
    exact Option.map_eq_none_iff.mp hlink.symm
  · have hup : ∀ k : Fin n, k.val = d → d ∈ s.manager.drones →
        (r.state.drone k).connected = true := by
      intro k hk hd
      by_contra hc
      exact hlost ⟨k, hk, hd, Bool.eq_false_iff.mpr hc⟩
    rw [link_feed hdown hfed.known ?_ ht]
    · exact link_ingest (fun k hk hd => hup k hk (mem_ingested.mp hd).1) ht
    · intro c hc
      obtain ⟨time, monotonic, hmem⟩ := mem_heard.mp hc
      obtain ⟨hd, hi⟩ := hfed.read d _ hc
      have hconn : c = (r.state.drone ⟨d, hd⟩).connected := by simpa [simItems] using hi
      exact hconn.trans (hup ⟨d, hd⟩ rfl (hfed.known _ hmem))

lemma fastOf_ingest : FastOf s (ingestBulkTelemetry r (getBulkTelemetry r) false s)
      (ingestBulkTelemetry r (getBulkTelemetry r) true s) := by
  have hstart : FastOf s s s := ⟨⟨rfl, rfl⟩, fun _ => rfl, rfl⟩
  have hrun : ∀ (ids : List Nat) (fast all : Station), FastOf s fast all →
      FastOf s (ids.foldl (ingestDrone r (getBulkTelemetry r) false) fast)
        (ids.foldl (ingestDrone r (getBulkTelemetry r) true) all) := by
    intro ids
    induction ids with
    | nil => exact fun _ _ h => h
    | cons e ids ih => exact fun fast all h => ih _ _ (fastOf_ingestDrone h e)
  exact hrun _ s s hstart

end

/-- A snapshot leaves what the monitors leave of the same fleet, in whatever order and
however often their streams deliver; one without the slow fields leaves those as they were. -/
theorem bulk_refines_monitors (r : SimFleet n) (s : Station) (fed : List Fed)
    (hdown : ∀ d ∈ s.manager.drones, NoneDown s.manager d)
    (hfed : Feeds r s.manager.drones fed) :
    let bulk := ingestBulkTelemetry r (getBulkTelemetry r) true s
    let fast := ingestBulkTelemetry r (getBulkTelemetry r) false s
    let monitors := fed.foldl feedStep s
    (∀ d, shownAt bulk d = shownAt monitors d) ∧
    (∀ d t, (s.manager.telemetry d).linkStableSince = some t →
      (bulk.manager.telemetry d).linkStableSince =
        (monitors.manager.telemetry d).linkStableSince) ∧
    (∀ d, fast.manager.telemetry d =
      withSlowOf (s.manager.telemetry d) (bulk.manager.telemetry d)) ∧
    fast.geofenceBreaches = bulk.geofenceBreaches :=
  ⟨fun _ => shownAt_eq hdown hfed, fun _ _ ht => link_eq hdown hfed ht,
    fastOf_ingest.telemetry, fastOf_ingest.breaches⟩

def feedOf (r : SimFleet n) (drones : List Nat) (time monotonic : ℚ) : List Fed :=
  drones.flatMap fun d =>
    if h : d < n then (simItems r ⟨d, h⟩).map fun i => .item d i time monotonic else []

lemma mem_feedOf {r : SimFleet n} {drones : List Nat} {time monotonic : ℚ} {f : Fed} :
    f ∈ feedOf r drones time monotonic ↔ ∃ d ∈ drones, ∃ h : d < n,
      ∃ i ∈ simItems r ⟨d, h⟩, .item d i time monotonic = f := by
  simp only [feedOf, List.mem_flatMap]
  refine exists_congr fun d => and_congr_right fun _ => ?_
  by_cases h : d < n
  · simp [h]
  · simp [h]

lemma feeds_feedOf (r : SimFleet n) (drones : List Nat) (time monotonic : ℚ) :
    Feeds r drones (feedOf r drones time monotonic) where
  known f hf := by
    obtain ⟨d, hd, _, _, _, rfl⟩ := mem_feedOf.mp hf
    exact hd
  read d i hi := by
    obtain ⟨time', monotonic', hf⟩ := mem_heard.mp hi
    obtain ⟨e, _, he, j, hj, heq⟩ := mem_feedOf.mp hf
    obtain ⟨rfl, rfl, _⟩ := Fed.item.inj heq
    exact ⟨he, hj⟩
  each d hd h i hi :=
    mem_heard.mpr ⟨time, monotonic, mem_feedOf.mpr ⟨d, hd, h, i, hi, rfl⟩⟩

/-- Two simulated drones at rest, the second with its link lost. -/
def atRest : SimFleet 2 where
  state := {
    config := .standard
    timeS := 10
    drone i := { SimDrone.fresh with connected := i.val = 0, batteryPct := 1234 / 100 } }
  satellites _ := 10
  homes _ := (18, 73)
  sample _ := ⟨123 / 1000, -617 / 1000, 4 / 100⟩

/-- A station that has just flown them, the first out of bounds; a third drone is not simulated. -/
def justFlown : Station where
  manager := {
    drones := [0, 1, 2]
    telemetry _ := { armed := true, connected := true, linkUp := true, linkStableSince := some 3 }
    monotonic := 9
    time := 1009 }
  supported := by decide
  geofenceBreaches := [(0, true), (2, true)]

theorem bulk_refines_monitors_just_flown :
    (∀ d, shownAt (ingestBulkTelemetry atRest (getBulkTelemetry atRest) true justFlown) d =
      shownAt ((feedOf atRest [0, 1, 2] 1010 10).foldl feedStep justFlown) d) ∧
    find ((feedOf atRest [0, 1, 2] 1010 10).foldl feedStep justFlown).geofenceBreaches 0 =
      some false := by
  have h := bulk_refines_monitors atRest justFlown (feedOf atRest [0, 1, 2] 1010 10)
    (fun _ _ => ⟨rfl, rfl⟩) (feeds_feedOf atRest [0, 1, 2] 1010 10)
  exact ⟨h.1, by decide +kernel⟩

end Taramandal.Gcs.BulkTelemetry
