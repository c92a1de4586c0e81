import Mathlib.Algebra.Order.Ring.Star
import Mathlib.Data.Rat.Star
import Taramandal.Gcs.BenchSequence
import Taramandal.Gcs.LaunchSafety

/-! # The bench handler (`POST /api/single-drone/hover-sequence`)

The bench drone is flown from inside the request: the handler checks, takes the
drone, awaits the sequence, and hands the drone back however the sequence ends.
The lifecycle stands still meanwhile, so what keeps the fleet on the ground is
the set of drones the sequences hold, and what keeps a sequence from starting in
a fleet flight is the lifecycle. -/
namespace Taramandal.Gcs.BenchHandler

open Lib.Run Gcs.FleetFsm Gcs.State Gcs.Launch Gcs.Staging Gcs.Handlers
open Gcs.Fleet Gcs.BenchSequence Gcs.LaunchSafety

inductive Role where
  | viewer | choreographer | flightCommander
  deriving DecidableEq

def Role.value : Role → Nat
  | .viewer => 1
  | .choreographer => 2
  | .flightCommander => 3

def Role.name : Role → String
  | .viewer => "VIEWER"
  | .choreographer => "CHOREOGRAPHER"
  | .flightCommander => "FLIGHT_COMMANDER"

/-- `SingleDroneSequenceRequest`, as it validates. -/
structure SingleDroneSequenceRequest where
  targetAltitudeM : ℚ := 1
  hoverDurationS : ℚ := 5
  altitude : 3 / 10 ≤ targetAltitudeM ∧ targetAltitudeM ≤ 5 := by norm_num
  duration : 1 ≤ hoverDurationS ∧ hoverDurationS ≤ 30 := by norm_num

/-- What the handler records in the command audit. -/
inductive CommandEntry where
  | requested (operator : String) (droneId : Nat) (targetAltitudeM hoverDurationS : ℚ)
  | failed (operator : String) (droneId : Nat) (error : String)
  | completed (operator : String) (droneId : Nat)

/-- A request whose sequence has been started: the sequence, and the answer once
there is one. -/
structure HoverRequest where
  hover : Hover
  operator : String
  sequence : Sequence
  answer : Option Response := none

/-- The station with the bench requests on it. -/
structure Floor where
  station : DroneManager
  requests : List HoverRequest := []
  commandAudit : List CommandEntry := []

/-- `command_audit.record`: an `OSError` is the caller's. -/
def Floor.record (f : Floor) (faults : Faults) (entry : CommandEntry) : Option Floor :=
  if faults.auditWrite then none else some { f with commandAudit := f.commandAudit ++ [entry] }

def whyNotParked (m : DroneManager) (d : Nat) : Option String :=
  if (m.telemetry d).armed then some ("Drone " ++ toString d ++ " is armed.")
  else
    match isConfirmedOnGround m d "with a show loaded" with
    | .error e => some (e.message ++ ".")
    | .ok true => none
    | .ok false => some ("Drone " ++ toString d ++ " is not confirmed on the ground (landed state: " ++
        (m.telemetry d).landedState.getD "None" ++ ").")

def whyFleetIsNotParked (m : DroneManager) : Option String := m.drones.findSome? (whyNotParked m)

/-- The handler's refusal of a request that is legal in the lifecycle. What the
pre-arm checklist says of the drone is its argument. -/
def hoverRefusal (m : DroneManager) (d : Nat) (ready : Bool) : Option Response :=
  if !m.drones.contains d || !(m.telemetry d).connected then
    some (.error 400 ("Drone " ++ toString d ++ " is not connected."))
  else if m.playback.isRunningTrajectory then
    some (.error 409 "Cannot run the single-drone sequence while a fleet show is active.")
  else
    match if m.activeTrajectory.isSome then whyFleetIsNotParked m else none with
    | some notParked => some (.error 409
        ("Cannot run the single-drone sequence while a fleet show is active: " ++ notParked))
    | none =>
      if m.singleDroneSequenceActive.contains d then
        some (.error 409 ("A single-drone sequence is already running on drone " ++ toString d ++ "."))
      else if !ready then
        some (.error 412 "Single-drone sequence refused: pre-arm gates are red.")
      else none

/-! ## The sequence's drone -/

/-- `single_drone_sequence_active.add`. -/
def take (m : DroneManager) (d : Nat) : DroneManager :=
  { m with singleDroneSequenceActive := m.singleDroneSequenceActive.insert d }

/-- `single_drone_sequence_active.discard`, in the handler's `finally`. -/
def release (m : DroneManager) (d : Nat) : DroneManager :=
  { m with singleDroneSequenceActive := m.singleDroneSequenceActive.filter (· ≠ d) }

def answer (f : Floor) (faults : Faults) (operator : String) (d : Nat) (error : Option String) :
    Floor × Response :=
  let recorded :=
    match error with
    | some e => (f.record faults (.failed operator d e)).map fun f => (f, Response.error 500 e)
    | none => (f.record faults (.completed operator d)).map fun f => (f, Response.ok)
  let r := recorded.getD (f, .error 500 "OSError")
  ({ r.1 with station := release r.1.station d }, r.2)

/-- The handler past its checks, up to the await of the sequence. -/
def beginSequence (f : Floor) (faults ending : Faults) (operator : String)
    (req : SingleDroneSequenceRequest) : Floor × List Sent × Response :=
  let h : Hover := ⟨0, req.targetAltitudeM, req.hoverDurationS⟩
  match f.record faults (.requested operator h.droneId h.targetAltM h.hoverS) with
  | none => (f, [], .error 500 "OSError")
  | some f =>
    let f := { f with station := take f.station h.droneId }
    match startSequence h f.station with
    | .error e =>
      let r := answer f ending operator h.droneId (some e)
      (r.1, [], r.2)
    | .ok q =>
      ({ f with requests := f.requests ++ [{ hover := h, operator := operator, sequence := q }] },
        q.sent.map (.call h.droneId), .ok)

def runSingleDroneSequence (setup : Setup) (f : Floor) (faults ending : Faults) (operator : String)
    (role : Role) (req : SingleDroneSequenceRequest) (ready : Bool) : Floor × List Sent × Response :=
  if role.value < Role.flightCommander.value then
    (f, [], .error 403 (operator ++ " is a " ++ role.name ++ "; this needs FLIGHT_COMMANDER."))
  else if setup.flightBlocked then (f, [], hardwareRefusal "hover-sequence")
  else
    match f.station.fsm.check .singleDroneHover with
    | .error _ =>
      let h := refuseCommand f.station faults .singleDroneHover operator
        "POST /api/single-drone/hover-sequence"
      ({ f with station := h.1 }, h.2)
    | .ok _ =>
      match hoverRefusal f.station 0 ready with
      | some refusal => (f, [], refusal)
      | none => beginSequence f faults ending operator req

/-- The sequence of the `k`-th request has gone on to its next await, or to its
end. A cancelled request has nobody to answer. -/
def settle (f : Floor) (faults : Faults) (k : Nat) (r : HoverRequest) (q : Sequence) : Floor :=
  let store (f : Floor) (reply : Option Response) : Floor :=
    { f with requests := f.requests.set k { r with sequence := q, answer := reply } }
  match q.pc with
  | .finished error =>
    let a := answer f faults r.operator r.hover.droneId error
    store a.1 (some a.2)
  | .cancelled => store { f with station := release f.station r.hover.droneId } none
  | _ => store f none

/-- A call past the API, or a bench drone taken without the handler. -/
def pastApi : Label → Bool
  | .method _ _ => true
  | .bench _ => true
  | _ => false

/-- Anything else on the station takes a step, a bench request comes in, the
await of one is over, or one is cancelled. -/
inductive FloorLabel where
  | station (l : Label)
  | hover (operator : String) (role : Role) (req : SingleDroneSequenceRequest) (ready : Bool)
      (faults ending : Faults)
  | wake (k : Nat) (reply : Reply) (faults : Faults)
  | cancel (k : Nat)

def floorStep (setup : Setup) : System Floor FloorLabel Sent := fun f l =>
  match l with
  | .station l =>
    if pastApi l then none
    else (step setup f.station l).map fun r => ({ f with station := r.1 }, r.2)
  | .hover operator role req ready faults ending =>
    let h := runSingleDroneSequence setup f faults ending operator role req ready
    some (h.1, h.2.1)
  | .wake k reply faults => do
    let r ← f.requests[k]?
    let (q, sent) ← wake r.hover f.station r.sequence reply
    return (settle f faults k r q, sent.map (.call r.hover.droneId))
  | .cancel k => do
    let r ← f.requests[k]?
    let (q, sent) ← cancel f.station r.sequence
    return (settle f {} k r q, sent.map (.call r.hover.droneId))

/-! ## What the bench handler does to the station -/

/-- The states of a fleet flight, from the launch to the show. -/
def fleetFlightStates : List LifecycleState := [.prearm, .armed, .takeoff, .formationHold, .running]

/-- The lifecycle stands, and no drone is taken that was not. -/
structure Yields (m m' : DroneManager) : Prop where
  state : m'.fsm.state = m.fsm.state
  launch : m'.launch = m.launch
  held : m.singleDroneSequenceActive = [] → m'.singleDroneSequenceActive = []

lemma Yields.refl (m : DroneManager) : Yields m m := ⟨rfl, rfl, id⟩

lemma release_yields (m : DroneManager) (d : Nat) : Yields m (release m d) := by
  refine ⟨rfl, rfl, fun h => ?_⟩
  simp [release, h]

lemma record_station {f f' : Floor} {faults : Faults} {entry : CommandEntry}
    (h : f.record faults entry = some f') : f'.station = f.station := by
  unfold Floor.record at h
  split at h <;> cases h
  rfl

lemma answer_yields (f : Floor) (faults : Faults) (operator : String) (d : Nat)
    (error : Option String) : Yields f.station (answer f faults operator d error).1.station := by
  have hrecord : ∀ entry r, Yields f.station
      (release (((f.record faults entry).map fun f => (f, r)).getD
        (f, Response.error 500 "OSError")).1.station d) := by
    intro entry r
    cases hf : f.record faults entry with
    | none => exact release_yields _ d
    | some f' =>
      have h := release_yields f'.station d
      rw [record_station hf] at h
      simpa [record_station hf] using h
  unfold answer
  cases error with
  | some e => exact hrecord _ _
  | none => exact hrecord _ _

lemma settle_yields (f : Floor) (faults : Faults) (k : Nat) (r : HoverRequest) (q : Sequence) :
    Yields f.station (settle f faults k r q).station := by
  unfold settle
  dsimp only
  split
  · exact answer_yields ..
  · exact release_yields ..
  · exact .refl _

/-- A bench request leaves the station as it is but for the audit, or takes a
drone of a fleet on the ground. -/
lemma runSingleDroneSequence_cases (setup : Setup) (f : Floor) (faults ending : Faults)
    (operator : String) (role : Role) (req : SingleDroneSequenceRequest) (ready : Bool) :
    let f' := (runSingleDroneSequence setup f faults ending operator role req ready).1
    Yields f.station f'.station ∨
      (f.station.fsm.state = .staged ∨ f.station.fsm.state = .disarmed) ∧
        f'.station.fsm.state = f.station.fsm.state ∧ f'.station.launch = f.station.launch := by
  intro f'
  simp only [f', runSingleDroneSequence]
  split
  · exact .inl (.refl _)
  · split
    · exact .inl (.refl _)
    · split
      · exact .inl ⟨rfl, rfl, id⟩
      next hcheck =>
        split
        · exact .inl (.refl _)
        · have hground : f.station.fsm.state = .staged ∨ f.station.fsm.state = .disarmed := by
            simpa [commandRules] using FleetStateMachine.check_ok hcheck
          unfold beginSequence
          dsimp only
          split
          · exact .inl (.refl _)
          next f₁ hrecord =>
            have hstation := record_station hrecord
            split
            next e _ =>
              have h := answer_yields { f₁ with station := take f₁.station 0 } ending operator 0 (some e)
              refine .inr ⟨hground, h.state.trans ?_, h.launch.trans ?_⟩
              · rw [← hstation]; rfl
              · rw [← hstation]; rfl
            next => exact .inr ⟨hground, by rw [← hstation]; rfl, by rw [← hstation]; rfl⟩

/-! ## What the rest of the station does -/

variable {l : Label} {m : DroneManager} {setup : Setup}

lemma acceptsLaunch_idle (h : acceptsLaunch setup m l = true) :
    m.singleDroneSequenceActive = [] := by
  cases l with
  | api operator r faults =>
    cases r with
    | launch decision =>
      by_contra hheld
      simp only [acceptsLaunch, launchFleet, hheld, ne_eq, not_false_eq_true, if_true,
        decide_eq_true_eq] at h
      split at h <;> simp [hardwareRefusal, benchRefusal] at h
    | _ => cases h
  | _ => cases h

variable {m' : DroneManager}

lemma active_kept (hapi : pastApi l = false) (hs : Stepped setup m l m') :
    m'.singleDroneSequenceActive = m.singleDroneSequenceActive := by
  cases hs with
  | refused hs => obtain ⟨_, _, rfl, -⟩ := hs; rfl
  | called => cases hapi
  | uploaded trajectory =>
    obtain ⟨_, _, hm'⟩ := uploadShow_only setup m trajectory
    rw [hm']
  | ticked hs => obtain ⟨_, _, _, _, rfl⟩ := hs.frame; rfl
  | sequence hs => obtain ⟨_, rfl⟩ := hs.frame; rfl
  | drone _ _ _ hs =>
    rcases hs.frame with ⟨_, rfl, -⟩ | ⟨-, rfl⟩
    · rfl
    · rfl
  | playback _ _ hs _ => obtain ⟨_, _, _, _, rfl⟩ := hs.frame; rfl
  | transfer hs => obtain ⟨_, _, rfl⟩ := stepTransfer_only hs; rfl
  | telemetry hs => obtain ⟨_, _, rfl⟩ := hs.rest; rfl
  | bench => cases hapi
  | _ => rfl

lemma grounded_kept (haccept : acceptsLaunch setup m l = false) (hs : Stepped setup m l m')
    (hground : m.fsm.state ∉ fleetFlightStates) : m'.fsm.state ∉ fleetFlightStates := by
  have hoff : ∀ s ∈ fleetFlightStates, m.fsm.state ≠ s := fun s hs h => hground (h ▸ hs)
  cases hs with
  | refused hs => obtain ⟨_, _, rfl, hf⟩ := hs; rw [hf]; exact hground
  | launched haccepted => simp [acceptsLaunch, haccepted] at haccept
  | @called _ _ wrapped => cases wrapped <;> exact hground
  | started _ _ hmove =>
    rcases hmove with h | ⟨h, -⟩
    · rw [h]; exact hground
    · exact absurd h (hoff _ (by decide))
  | stopped _ hmove =>
    rcases hmove with h | ⟨h, -⟩ | h
    · rw [h]; exact hground
    · exact absurd h (hoff _ (by decide))
    · intro hmem
      simp only [fleetFlightStates, List.mem_cons, List.not_mem_nil, or_false] at hmem
      rcases hmem with hmem | hmem | hmem | hmem | hmem <;> rw [hmem] at h <;> cases h
  | uploaded trajectory =>
    obtain ⟨_, _, hm'⟩ := uploadShow_only setup m trajectory
    rw [hm']
    exact hground
  | ticked hs =>
    rcases hs.move with h | ⟨h, -⟩ | ⟨h, -⟩ | ⟨-, h | ⟨h, -⟩ | ⟨h, -⟩⟩
    · rw [h]; exact hground
    · exact absurd h (hoff _ (by decide))
    · exact absurd h (hoff _ (by decide))
    · rw [h]; decide
    · exact absurd h (hoff _ (by decide))
    · exact absurd h (hoff _ (by decide))
  | sequence hs => obtain ⟨_, rfl⟩ := hs.frame; exact hground
  | drone _ _ _ hs =>
    rcases hs.frame with ⟨_, rfl, -⟩ | ⟨-, rfl⟩
    · exact hground
    · exact hground
  | playback _ _ hs _ =>
    rcases hs.lifecycle with h | ⟨h, -⟩
    · rw [h]; exact hground
    · exact absurd h (hoff _ (by decide))
  | transfer hs => obtain ⟨_, _, rfl⟩ := stepTransfer_only hs; exact hground
  | telemetry hs => obtain ⟨_, _, rfl⟩ := hs.rest; exact hground
  | _ => exact hground

/-! ## The bench and the fleet -/

/-- With a drone on the bench no launch is in progress and the fleet is in no
flight. -/
def Excluded (m : DroneManager) : Prop :=
  m.singleDroneSequenceActive ≠ [] → (∀ i, ¬ InProgress m i) ∧ m.fsm.state ∉ fleetFlightStates

/-- What carries the exclusion from step to step. -/
structure Apart (m : DroneManager) : Prop where
  one : OneLaunch m
  excluded : Excluded m

lemma Apart.station (h : Apart m) (hapi : pastApi l = false) (hs : Stepped setup m l m') :
    Apart m' := by
  have hcall : callsLaunch l = false := by
    cases l with
    | method => cases hapi
    | _ => rfl
  refine ⟨h.one.step hcall hs, fun hheld => ?_⟩
  rw [active_kept hapi hs] at hheld
  obtain ⟨hidle, hground⟩ := h.excluded hheld
  have haccept : acceptsLaunch setup m l = false := by
    by_contra hyes
    exact hheld (acceptsLaunch_idle (by simpa using hyes))
  rcases launchKept_or_accepted hcall hs with hkept | ⟨hyes, -⟩
  · exact ⟨fun i hi => hidle i (hkept.tasks i hi), grounded_kept haccept hs hground⟩
  · rw [haccept] at hyes
    cases hyes

lemma inProgress_of (h : launchInProgress m = true) : ∃ i, InProgress m i := by
  unfold launchInProgress at h
  split at h
  · cases h
  next i _ =>
    obtain ⟨t, ht, hlive⟩ := (Option.any_eq_true _ _).mp h
    exact ⟨i, t, ht, by simpa using hlive⟩

lemma oneLaunch_congr (h : OneLaunch m) (hstate : m'.fsm.state = m.fsm.state)
    (hlaunch : m'.launch = m.launch) : OneLaunch m' := by
  intro i ⟨t, ht, hlive⟩
  rw [hlaunch] at ht ⊢
  rw [hstate]
  exact h i ⟨t, ht, hlive⟩

lemma Apart.yields (h : Apart m) (hy : Yields m m') : Apart m' := by
  refine ⟨oneLaunch_congr h.one hy.state hy.launch, fun hheld => ?_⟩
  obtain ⟨hidle, hground⟩ := h.excluded fun hnone => hheld (hy.held hnone)
  refine ⟨fun i ⟨t, ht, hlive⟩ => hidle i ⟨t, hy.launch ▸ ht, hlive⟩, ?_⟩
  rw [hy.state]
  exact hground

lemma Apart.taken (h : Apart m) (hground : m.fsm.state = .staged ∨ m.fsm.state = .disarmed)
    (hstate : m'.fsm.state = m.fsm.state) (hlaunch : m'.launch = m.launch) : Apart m' := by
  refine ⟨oneLaunch_congr h.one hstate hlaunch, fun _ => ⟨fun i ⟨t, ht, hlive⟩ => ?_, ?_⟩⟩
  · obtain ⟨-, hstaged, hdisarmed⟩ := h.one i ⟨t, hlaunch ▸ ht, hlive⟩
    exact hground.elim hstaged hdisarmed
  · rw [hstate]
    rcases hground with hg | hg <;> rw [hg] <;> decide

lemma Apart.step {f f' : Floor} {l : FloorLabel} {os : List Sent} (h : Apart f.station)
    (hs : floorStep setup f l = some (f', os)) : Apart f'.station := by
  cases l with
  | station l =>
    simp only [floorStep] at hs
    split at hs
    · cases hs
    next hapi =>
      obtain ⟨⟨m', sent⟩, hm', hf⟩ := Option.map_eq_some_iff.mp hs
      cases hf
      exact h.station (by simpa using hapi) (step_stepped hm')
  | hover operator role req ready faults ending =>
    cases hs
    rcases runSingleDroneSequence_cases setup f faults ending operator role req ready with
      hy | ⟨hground, hstate, hlaunch⟩
    · exact h.yields hy
    · exact h.taken hground hstate hlaunch
  | wake k reply faults =>
    simp only [floorStep, Option.bind_eq_bind, Option.bind_eq_some_iff] at hs
    obtain ⟨r, -, ⟨q, sent⟩, -, hf⟩ := hs
    cases hf
    exact h.yields (settle_yields ..)
  | cancel k =>
    simp only [floorStep, Option.bind_eq_bind, Option.bind_eq_some_iff] at hs
    obtain ⟨r, -, ⟨q, sent⟩, -, hf⟩ := hs
    cases hf
    exact h.yields (settle_yields ..)

/-- In every run that begins with no launch and no drone on the bench, a drone
on the bench keeps the fleet out of a launch and out of a flight. -/
theorem bench_excludes_flight {setup : Setup} {init f : Floor} {ls : List FloorLabel}
    {os : List Sent} (hlaunch : init.station.launch.tasks = [])
    (hbench : init.station.singleDroneSequenceActive = [])
    (hrun : run (floorStep setup) init ls = some (f, os)) :
    f.station.singleDroneSequenceActive ≠ [] →
      launchInProgress f.station = false ∧ (∀ i, ¬ InProgress f.station i) ∧
        f.station.fsm.state ∉ fleetFlightStates := by
  have hinit : Apart init.station := by
    refine ⟨fun i ⟨t, ht, _⟩ => ?_, fun hheld => absurd hbench hheld⟩
    rw [hlaunch] at ht
    cases ht
  have hapart : Apart f.station :=
    run_invariant (I := fun f : Floor => Apart f.station) (A := fun _ _ => True)
      (fun _ _ _ _ h _ hs => h.step hs) hinit (along_of_labels fun _ _ => trivial) hrun
  intro hheld
  obtain ⟨hidle, hground⟩ := hapart.excluded hheld
  refine ⟨?_, hidle, hground⟩
  by_contra hprogress
  obtain ⟨i, hi⟩ := inProgress_of (by simpa using hprogress)
  exact hidle i hi

/-- A drone taken to the bench from its pad, and a launch asked for meanwhile. -/
theorem bench_excludes_flight_on_pad : ∃ f os, run (floorStep simSetup)
        { station := { onPad with telemetry := fun _ => { connected := true, lastHeartbeat := some 0 } } }
        [.hover "operator" .flightCommander {} true {} {}, .wake 0 .ok {},
          .station (.api "operator" (.launch (some ([0], false))) {}), .station (.tick {})] =
          some (f, os) ∧
      f.station.singleDroneSequenceActive = [0] ∧ launchInProgress f.station = false ∧
        (∀ i, ¬ InProgress f.station i) ∧ f.station.fsm.state ∉ fleetFlightStates := by
  obtain ⟨⟨f, os⟩, hrun, h⟩ :
      ∃ r ∈ run (floorStep simSetup)
      { station := { onPad with telemetry := fun _ => { connected := true, lastHeartbeat := some 0 }
      } } [.hover "operator" .flightCommander {} true {} {}, .wake 0 .ok {}, .station
      (.api "operator" (.launch (some ([0], false))) {}), .station (.tick {})],
      r.1.station.singleDroneSequenceActive = [0] := by decide +kernel
  have hheld : f.station.singleDroneSequenceActive = [0] := by simpa using h
  exact ⟨f, os, hrun, hheld, bench_excludes_flight rfl rfl hrun (by rw [hheld]; simp)⟩

end Taramandal.Gcs.BenchHandler
