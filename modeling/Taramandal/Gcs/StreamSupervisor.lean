import Taramandal.Gcs.Heartbeat
import Taramandal.Lib.History

/-! # Stream supervision (`_supervise_stream`)

Nine of a drone's ten monitors feed one telemetry stream each, and resubscribe
when it drops; the tenth measures the latency. What the telemetry table says of
the streams is what their history says (`stream_bookkeeping`). -/
namespace Taramandal.Gcs.StreamSupervisor

open Lib.Run Lib.History Gcs.State Gcs.Telemetry Gcs.Heartbeat Gcs.Fleet

/-! ## The monitors -/

def supervisedStreams : List String :=
  ["connection_state", "battery", "flight_mode", "gps_info", "position_velocity_ned", "armed",
    "landed_state", "home", "health"]

def streamRetryInitialS : ℚ := 1 / 2

def streamRetryMaxS : ℚ := 5

/-- Where a supervisor is suspended: in its stream, in the respawn of a dead
server, or asleep until a time. A respawn that raises ends it. -/
inductive SupervisorPc where
  | reading
  | respawning
  | sleeping (wake : ℚ)
  | ended
  deriving DecidableEq

structure Supervisor where
  pc : SupervisorPc := .reading
  backoff : ℚ := streamRetryInitialS

/-- The link tasks of the station, with the supervisors of each drone's streams. -/
structure Monitors where
  link : LinkState
  supervisors : Nat → String → Supervisor := fun _ _ => {}

/-- A stream delivers an item; it ends, or an error of its own or of an item's
handler ends it; the respawn behind it is over; the supervisor subscribes again;
the latency loop goes on. -/
inductive MonitorEvent where
  | item (d : Nat) (i : StreamItem)
  | dropped (d : Nat) (name : String)
  | respawned (d : Nat) (name : String) (raised : Bool)
  | resubscribed (d : Nat) (name : String)
  | probe (d : Nat) (answered : Bool)
  | clock (elapsed time : ℚ)

def Monitors.setSupervisor (s : Monitors) (d : Nat) (name : String) (v : Supervisor) : Monitors :=
  { s with supervisors := Function.update s.supervisors d (Function.update (s.supervisors d) name v) }

@[simp] lemma setSupervisor_link (s : Monitors) (d : Nat) (name : String) (v : Supervisor) :
    (s.setSupervisor d name v).link = s.link := rfl

def Monitors.linkTask (s : Monitors) (l : LinkEvent) : Option (Monitors × List Sent) :=
  (linkStep s.link l).map fun r => ({ s with link := r.1 }, r.2)

def monitorStep : System Monitors MonitorEvent Sent := fun s l =>
  match l with
  | .item d i =>
    if (s.supervisors d i.stream).pc = .reading then
      (s.setSupervisor d i.stream {}).linkTask (.item d i)
    else none
  | .dropped d name =>
    let v := s.supervisors d name
    if name ∈ supervisedStreams ∧ v.pc = .reading then
      (s.setSupervisor d name { v with pc := .respawning }).linkTask (.dropped d name)
    else none
  | .respawned d name raised =>
    let v := s.supervisors d name
    if v.pc = .respawning then
      let pc := if raised then .ended else .sleeping (s.link.station.monotonic + v.backoff)
      some (s.setSupervisor d name { v with pc := pc }, [])
    else none
  | .resubscribed d name =>
    let v := s.supervisors d name
    match v.pc with
    | .sleeping wake =>
      if wake ≤ s.link.station.monotonic then
        some (s.setSupervisor d name ⟨.reading, min (v.backoff * 2) streamRetryMaxS⟩, [])
      else none
    | _ => none
  | .probe d answered => s.linkTask (.probe d answered)
  | .clock elapsed time => s.linkTask (.clock elapsed time)

/-- The stream has dropped, and has not delivered an item since. -/
def Down (d : Nat) (name : String) (ls : List MonitorEvent) : Prop :=
  Since (fun l => l = .dropped d name) (fun l => ∃ i : StreamItem, i.stream = name ∧ l = .item d i) ls

/-- The last item of the connection stream said that the link is up. -/
def ReportedUp (d : Nat) (ls : List MonitorEvent) : Prop :=
  Since (fun l => l = .item d (.connectionState true))
    (fun l => ∃ up, l = .item d (.connectionState up)) ls

/-- What the table says of a drone's streams, against their history. -/
structure Bookkeeping (d : Nat) (ls : List MonitorEvent) (tel : Telemetry) : Prop where
  stale : tel.telemetryStale = true ↔ ∃ name ∈ supervisedStreams, Down d name ls
  sorted : tel.staleStreams.Pairwise (· < ·)
  streams : ∀ name, name ∈ tel.staleStreams ↔ name ∈ supervisedStreams ∧ Down d name ls
  fresh : (¬ ∃ name ∈ supervisedStreams, Down d name ls) → tel.connected = tel.linkUp
  disconnected : (∃ name ∈ supervisedStreams, Down d name ls) → tel.connected = false
  link : tel.linkUp = true ↔ ReportedUp d ls

/-- The flags of a drone follow from the set of its streams that are down. -/
structure Books (d : Nat) (m : DroneManager) : Prop where
  nodup : (m.streamsDown d).Nodup
  stale : (m.telemetry d).telemetryStale = !(m.streamsDown d).isEmpty
  streams : (m.telemetry d).staleStreams = sortedStreams (m.streamsDown d)
  connected : (m.telemetry d).connected =
    ((m.telemetry d).linkUp && !(m.telemetry d).telemetryStale)

/-- Nothing the bookkeeping reads or writes has changed for the drone. -/
structure LinkKept (d : Nat) (m m' : DroneManager) : Prop where
  down : m'.streamsDown d = m.streamsDown d
  stale : (m'.telemetry d).telemetryStale = (m.telemetry d).telemetryStale
  streams : (m'.telemetry d).staleStreams = (m.telemetry d).staleStreams
  connected : (m'.telemetry d).connected = (m.telemetry d).connected
  linkUp : (m'.telemetry d).linkUp = (m.telemetry d).linkUp

lemma LinkKept.refl (d : Nat) (m : DroneManager) : LinkKept d m m := ⟨rfl, rfl, rfl, rfl, rfl⟩

variable {d : Nat} {m m' : DroneManager}

lemma Books.keep (h : Books d m) (hk : LinkKept d m m') : Books d m' where
  nodup := hk.down ▸ h.nodup
  stale := by rw [hk.stale, hk.down, h.stale]
  streams := by rw [hk.streams, hk.down, h.streams]
  connected := by rw [hk.connected, hk.linkUp, hk.stale, h.connected]

variable {e : Nat}

variable {down : List String} {i : StreamItem} {s s' : Monitors} {l : MonitorEvent}
  {ls : List MonitorEvent}

lemma linkKept_other {tel : Telemetry} (he : d ≠ e)
    (hdown : m'.streamsDown = Function.update m.streamsDown e down)
    (htel : m'.telemetry = Function.update m.telemetry e tel) : LinkKept d m m' := by
  have h : m'.telemetry d = m.telemetry d := by rw [htel, Function.update_of_ne he]
  exact ⟨by rw [hdown, Function.update_of_ne he], by rw [h], by rw [h], by rw [h], by rw [h]⟩

lemma linkKept_set {tel : Telemetry} (hs : tel.telemetryStale = (m.telemetry e).telemetryStale)
    (hl : tel.staleStreams = (m.telemetry e).staleStreams)
    (hc : tel.connected = (m.telemetry e).connected) (hu : tel.linkUp = (m.telemetry e).linkUp) :
    LinkKept d m (m.setTelemetry e tel) := by
  by_cases he : d = e
  · subst he
    have hset : (m.setTelemetry d tel).telemetry d = tel := Function.update_self ..
    exact ⟨rfl, by rw [hset, hs], by rw [hset, hl], by rw [hset, hc], by rw [hset, hu]⟩
  · exact linkKept_other he (Function.update_eq_self ..).symm rfl

lemma measureLatency_kept {answered : Bool} {pc pc' : ProbePc}
    (h : measureLatency m e answered pc = some (m', pc')) : LinkKept d m m' := by
  cases pc with
  | sleeping wake =>
    simp only [measureLatency] at h
    split at h
    · cases h
    · split at h
      · cases h
        exact linkKept_set rfl rfl rfl rfl
      · cases h
        exact .refl ..
  | probing startTime =>
    cases h
    cases answered <;> exact linkKept_set rfl rfl rfl rfl

/-! ## What an item and a drop do -/

lemma onItem_stale (m : DroneManager) (d : Nat) (tel : Telemetry) (i : StreamItem) :
    (onItem m d tel i).telemetryStale = tel.telemetryStale ∧
      (onItem m d tel i).staleStreams = tel.staleStreams := by
  cases i with
  | connectionState isConnected => simp only [onItem]; split <;> exact ⟨rfl, rfl⟩
  | _ => exact ⟨rfl, rfl⟩

/-- An item of the connection stream says what the link is. -/
def linkAfter (up : Bool) : StreamItem → Bool
  | .connectionState isConnected => isConnected
  | _ => up

lemma linkAfter_other {up : Bool} (h : i.stream ≠ "connection_state") : linkAfter up i = up := by
  cases i with
  | connectionState isConnected => exact absurd rfl h
  | _ => rfl

lemma onItem_linkUp (m : DroneManager) (d : Nat) (tel : Telemetry) (i : StreamItem) :
    (onItem m d tel i).linkUp = linkAfter tel.linkUp i := by
  cases i with
  | connectionState isConnected => simp only [onItem, linkAfter]; split <;> rfl
  | _ => rfl

lemma Books.onItem (h : Books d m) (i : StreamItem) :
    Books d (m.setTelemetry d (onItem m d (m.telemetry d) i)) := by
  have hset : (m.setTelemetry d (Telemetry.onItem m d (m.telemetry d) i)).telemetry d =
      Telemetry.onItem m d (m.telemetry d) i := Function.update_self ..
  obtain ⟨hstale, hstreams⟩ := onItem_stale m d (m.telemetry d) i
  refine ⟨h.nodup, ?_, ?_, ?_⟩
  · rw [hset, hstale]; exact h.stale
  · rw [hset, hstreams]; exact h.streams
  · rw [hset, hstale]
    cases i with
    | connectionState isConnected =>
      cases hs : (m.telemetry d).telemetryStale with
      | false => simp [Telemetry.onItem, hs]
      | true =>
        have hc : (m.telemetry d).connected = false := by simp [h.connected, hs]
        simp [Telemetry.onItem, hs, hc]
    | _ => exact h.connected

lemma Books.markStreamUp (h : Books d m) (name : String) : Books d (markStreamUp m d name) := by
  unfold Telemetry.markStreamUp
  split
  · exact h
  next hmem =>
    have hne : (m.streamsDown d).isEmpty = false := by
      rw [List.isEmpty_eq_false_iff]
      rintro hnil
      simp [hnil] at hmem
    dsimp only
    split
    next hdown =>
      refine ⟨?_, ?_, ?_, ?_⟩ <;> dsimp only <;> simp only [Function.update_self]
      · exact h.nodup.filter _
      · rw [h.stale, hne, List.isEmpty_eq_false_iff.mpr hdown]
      · exact h.connected
    next hdown =>
      have hnil : (m.streamsDown d).filter (· ≠ name) = [] := not_not.mp hdown
      refine ⟨?_, ?_, ?_, ?_⟩ <;> dsimp only <;> simp only [Function.update_self, hnil]
      · exact List.nodup_nil
      · rfl
      · rw [Bool.not_false, Bool.and_true]

lemma Books.markStreamDown (h : Books d m) (name : String) : Books d (markStreamDown m d name) := by
  have hdown : ((Telemetry.markStreamDown m d name).streamsDown d).Nodup ∧
      (Telemetry.markStreamDown m d name).streamsDown d ≠ [] := by
    simp only [Telemetry.markStreamDown, Function.update_self]
    split
    next hmem =>
      exact ⟨h.nodup, List.ne_nil_of_mem (List.contains_iff_mem.mp hmem)⟩
    next hmem =>
      refine ⟨?_, by simp⟩
      rw [← List.concat_eq_append]
      exact h.nodup.concat (by simpa using hmem)
  refine ⟨hdown.1, ?_, ?_, ?_⟩
  · rw [List.isEmpty_eq_false_iff.mpr hdown.2]
    simp [Telemetry.markStreamDown]
  · simp [Telemetry.markStreamDown]
  · simp [Telemetry.markStreamDown]

lemma dropped_other (he : d ≠ e) (m : DroneManager) (name : String) :
    LinkKept d m (telemetryStep m e (.streamDropped name)) := linkKept_other he rfl rfl

lemma item_other (he : d ≠ e) (m : DroneManager) (i : StreamItem) :
    LinkKept d m (telemetryStep m e (.item i)) := by
  have htel := telemetryStep_other he (.item i) (m := m)
  refine ⟨?_, by rw [htel], by rw [htel], by rw [htel], by rw [htel]⟩
  simp only [telemetryStep, Telemetry.markStreamUp]
  split
  · rfl
  · exact Function.update_of_ne he ..

lemma mem_down_item {name : String} : name ∈ (telemetryStep m d (.item i)).streamsDown d ↔
      name ∈ m.streamsDown d ∧ name ≠ i.stream := by
  simp only [telemetryStep, Telemetry.markStreamUp]
  split
  next hnot =>
    have hnot : i.stream ∉ m.streamsDown d := by simpa [DroneManager.setTelemetry] using hnot
    exact ⟨fun h => ⟨h, fun heq => hnot (heq ▸ h)⟩, And.left⟩
  next => simp [DroneManager.setTelemetry]

lemma mem_down_dropped {name dropped : String} :
    name ∈ (telemetryStep m d (.streamDropped dropped)).streamsDown d ↔
      name = dropped ∨ name ∈ m.streamsDown d := by
  simp only [telemetryStep, Telemetry.markStreamDown, Function.update_self]
  split
  next hmem =>
    have hmem : dropped ∈ m.streamsDown d := by simpa using hmem
    exact ⟨.inr, fun h => h.elim (fun heq => heq ▸ hmem) id⟩
  next => simp [or_comm]

lemma linkUp_item (m : DroneManager) (d : Nat) (i : StreamItem) :
    ((telemetryStep m d (.item i)).telemetry d).linkUp = linkAfter (m.telemetry d).linkUp i := by
  have hset : (m.setTelemetry d (onItem m d (m.telemetry d) i)).telemetry d =
      onItem m d (m.telemetry d) i := Function.update_self ..
  rw [← onItem_linkUp m d (m.telemetry d) i, ← hset]
  simp only [telemetryStep, Telemetry.markStreamUp]
  split
  · rfl
  · dsimp only
    rw [Function.update_self]
    split <;> rfl

lemma linkUp_dropped (m : DroneManager) (d : Nat) (name : String) :
    ((telemetryStep m d (.streamDropped name)).telemetry d).linkUp = (m.telemetry d).linkUp := by
  simp [telemetryStep, Telemetry.markStreamDown]

/-! ## Every run -/

/-- What a step does to the bookkeeping of one drone. -/
inductive Booked (d : Nat) (m m' : DroneManager) : MonitorEvent → Prop where
  | item (i : StreamItem) (h : m' = telemetryStep m d (.item i)) : Booked d m m' (.item d i)
  | dropped (name : String) (hname : name ∈ supervisedStreams)
      (h : m' = telemetryStep m d (.streamDropped name)) : Booked d m m' (.dropped d name)
  | other (l : MonitorEvent) (hitem : ∀ i, l ≠ .item d i) (hdropped : ∀ name, l ≠ .dropped d name)
      (h : LinkKept d m m') : Booked d m m' l

variable {os : List Sent}

lemma linkTask_some {l : LinkEvent} (h : s.linkTask l = some (s', os)) :
    linkStep s.link l = some (s'.link, os) := by
  obtain ⟨⟨link, sent⟩, hlink, h⟩ := Option.map_eq_some_iff.mp h
  cases h
  exact hlink

lemma linkStep_telemetry {s s' : LinkState} :
    (∀ i, linkStep s (.item d i) = some (s', os) → s'.station = telemetryStep s.station d (.item i)) ∧
      ∀ name, linkStep s (.dropped d name) = some (s', os) →
        s'.station = telemetryStep s.station d (.streamDropped name) := by
  constructor <;>
  · intro _ h
    simp only [linkStep] at h
    split at h <;> cases h
    rfl

lemma monitorStep_booked (d : Nat)
    (h : monitorStep s l = some (s', os)) : Booked d s.link.station s'.link.station l := by
  cases l with
  | item e i =>
    simp only [monitorStep] at h
    split at h
    · have hstation := linkStep_telemetry.1 i (linkTask_some h)
      rw [hstation]
      by_cases he : d = e
      · subst he
        exact .item i rfl
      · exact .other _ (by simp [Ne.symm he]) (by simp) (item_other he ..)
    · cases h
  | dropped e name =>
    simp only [monitorStep] at h
    split at h
    next hname =>
      have hstation := linkStep_telemetry.2 name (linkTask_some h)
      rw [hstation]
      by_cases he : d = e
      · subst he
        exact .dropped name hname.1 rfl
      · exact .other _ (by simp) (by simp [Ne.symm he]) (dropped_other he ..)
    · cases h
  | respawned e name raised =>
    simp only [monitorStep] at h
    split at h <;> cases h
    exact .other _ (by simp) (by simp) (.refl ..)
  | resubscribed e name =>
    simp only [monitorStep] at h
    split at h
    · split at h <;> cases h
      exact .other _ (by simp) (by simp) (.refl ..)
    · cases h
  | probe e answered =>
    have hlink := linkTask_some h
    simp only [linkStep] at hlink
    split at hlink
    · obtain ⟨⟨m, pc⟩, hm, heq⟩ := Option.map_eq_some_iff.mp hlink
      obtain ⟨heq, -⟩ := Prod.mk.inj heq
      rw [← heq]
      exact .other _ (by simp) (by simp) (measureLatency_kept hm)
    · cases hlink
  | clock elapsed time =>
    have hlink := linkTask_some h
    simp only [linkStep] at hlink
    split at hlink
    · obtain ⟨heq, -⟩ := Prod.mk.inj (Option.some.inj hlink)
      rw [← heq]
      exact .other _ (by simp) (by simp) ⟨rfl, rfl, rfl, rfl, rfl⟩
    · cases hlink

/-- The set of streams that are down, and the link, against the history. -/
structure Recorded (d : Nat) (ls : List MonitorEvent) (m : DroneManager) : Prop where
  books : Books d m
  down : ∀ name, name ∈ m.streamsDown d ↔ name ∈ supervisedStreams ∧ Down d name ls
  link : (m.telemetry d).linkUp = true ↔ ReportedUp d ls

lemma Recorded.step (h : Recorded d ls m) (hl : Booked d m m' l) : Recorded d (ls ++ [l]) m' := by
  cases hl with
  | item i heq =>
    subst heq
    refine ⟨(h.books.onItem i).markStreamUp i.stream, fun name => ?_, ?_⟩
    · rw [mem_down_item, h.down, Down, Down, since_snoc]
      simp [and_assoc, eq_comm]
    · rw [linkUp_item, ReportedUp, since_snoc]
      have hlink := h.link
      rw [ReportedUp] at hlink
      cases i with
      | connectionState up => cases up <;> simp [linkAfter]
      | _ =>
        rw [linkAfter_other (by simp [StreamItem.stream]), hlink]
        simp
  | dropped name hname heq =>
    subst heq
    refine ⟨h.books.markStreamDown name, fun name' => ?_, ?_⟩
    · rw [mem_down_dropped, h.down, Down, Down, since_snoc]
      by_cases heq : name' = name
      · subst heq
        simp [hname]
      · simp [heq, Ne.symm heq]
    · rw [linkUp_dropped, h.link, ReportedUp, ReportedUp, since_snoc]
      simp
  | other _ hitem hdropped hkept =>
    refine ⟨h.books.keep hkept, fun name => ?_, ?_⟩
    · rw [hkept.down, h.down, Down, Down, since_snoc]
      simp [hitem, hdropped]
    · rw [hkept.linkUp, h.link, ReportedUp, ReportedUp, since_snoc]
      simp [hitem]

lemma sortedStreams_pairwise (h : down.Nodup) : (sortedStreams down).Pairwise (· < ·) := by
  have hsorted : (sortedStreams down).Pairwise (· ≤ ·) := List.pairwise_insertionSort ..
  have hnodup : (sortedStreams down).Nodup := (List.perm_insertionSort ..).nodup_iff.mpr h
  exact (hsorted.and hnodup).imp fun ⟨hle, hne⟩ => Std.lt_of_le_of_ne hle hne

lemma Recorded.bookkeeping (h : Recorded d ls m) : Bookkeeping d ls (m.telemetry d) := by
  have hstale : (m.telemetry d).telemetryStale = true ↔
      ∃ name ∈ supervisedStreams, Down d name ls := by
    rw [h.books.stale, Bool.not_eq_true', List.isEmpty_eq_false_iff_exists_mem]
    exact exists_congr h.down
  refine ⟨hstale, ?_, fun name => ?_, fun hnone => ?_, fun hsome => ?_, h.link⟩
  · rw [h.books.streams]
    exact sortedStreams_pairwise h.books.nodup
  · rw [h.books.streams, sortedStreams, List.mem_insertionSort]
    exact h.down name
  · have hfresh : (m.telemetry d).telemetryStale = false := by
      rw [← Bool.not_eq_true]
      exact fun hs => hnone (hstale.mp hs)
    rw [h.books.connected, hfresh, Bool.not_false, Bool.and_true]
  · rw [h.books.connected, hstale.mpr hsome, Bool.not_true, Bool.and_false]

/-- As `_connect_drone` leaves the drone: no stream has dropped, and the vehicle
has said nothing about the link. -/
structure JustConnected (d : Nat) (m : DroneManager) : Prop where
  down : m.streamsDown d = []
  telemetry : m.telemetry d = {}

lemma JustConnected.recorded (h : JustConnected d m) : Recorded d [] m := by
  refine ⟨⟨?_, ?_, ?_, ?_⟩, fun name => ?_, ?_⟩
  · rw [h.down]; exact List.nodup_nil
  · rw [h.down, h.telemetry]; rfl
  · rw [h.down, h.telemetry]; rfl
  · rw [h.telemetry]; rfl
  · simp [h.down, Down, not_since_nil]
  · simp [h.telemetry, ReportedUp, not_since_nil]

/-- After every step of a drone's monitors the flags say exactly what its
streams have done. -/
theorem stream_bookkeeping {init s : Monitors} {ls : List MonitorEvent} {os : List Sent} {d : Nat}
    (hinit : JustConnected d init.link.station) (hr : run monitorStep init ls = some (s, os)) :
    Bookkeeping d ls (s.link.station.telemetry d) := by
  have hrun : Recorded d ls s.link.station :=
    run_history (A := fun _ _ => True) (I := fun ls _ s => Recorded d ls s.link.station)
      hinit.recorded
      (fun _ _ _ _ _ _ _ h _ hs => h.step (monitorStep_booked d hs))
      (along_of_labels fun _ _ => trivial) hr
  exact hrun.bookkeeping

def newFleet : Monitors := { link := { station := { onPad with telemetry := fun _ => {} } } }

/-- The link comes up, the battery stream drops and delivers again. -/
def batteryOutage : List MonitorEvent :=
  [.item 0 (.connectionState true), .dropped 0 "battery", .respawned 0 "battery" false, .clock 1 1,
    .resubscribed 0 "battery", .item 0 (.battery 80 12)]

theorem stream_bookkeeping_outage : ∃ s os, run monitorStep newFleet batteryOutage = some (s, os) ∧
      Bookkeeping 0 batteryOutage (s.link.station.telemetry 0) := by
  obtain ⟨⟨s, os⟩, hrun, -⟩ : ∃ r ∈ run monitorStep newFleet batteryOutage, True := by
    decide +kernel
  exact ⟨s, os, hrun, stream_bookkeeping ⟨rfl, rfl⟩ hrun⟩

end Taramandal.Gcs.StreamSupervisor
