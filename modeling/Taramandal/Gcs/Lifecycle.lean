import Taramandal.Gcs.Launch
import Taramandal.Gcs.Playback

/-! # The lifecycle monitor (`drone_manager.py`, `evaluate_lifecycle`)

One look at the telemetry, five times a second: climbs that went wrong become
launch failures, and the lifecycle makes at most one observed transition. -/
namespace Taramandal.Gcs.Lifecycle

open Lib.Dict Core.Numbers Core.Safety Gcs.FleetFsm Gcs.State Gcs.Playback Gcs.Launch

def launchArmGraceS : ℚ := 5 / 2

def takeoffDetectAltM : ℚ := 1 / 2

def formationAltToleranceM : ℚ := 1 / 2

/-- `f"{x:g}"` for a whole number of metres. -/
def metresText (x : ℚ) : String := if x = ⌊x⌋ then toString ⌊x⌋ else floatStr x

/-- `_check_climbs`, for one climb. -/
def checkClimb (m : DroneManager) (d : Nat) (climb : Climb) : DroneManager :=
  if !m.drones.contains d then m
  else
    let tel := m.telemetry d
    if !tel.armed then
      recordLaunchFailure m d ("disarmed at " ++ fixed 2 tel.fleetZ ++
        " m before the fleet reached formation (hover altitude " ++ metresText climb.targetM ++
        " m)") false
    else if tel.flightMode ≠ "OFFBOARD" then
      recordLaunchFailure m d ("left OFFBOARD for " ++ tel.flightMode ++ " during the climb, at " ++
        fixed 2 tel.fleetZ ++ " m") false
    else if climb.targetM - formationAltToleranceM ≤ tel.fleetZ then
      { m with launch := { m.launch with climbs := assign m.launch.climbs d { climb with reached := true } } }
    else if !climb.reached && (climb.deadline < m.monotonic : Bool) then
      recordLaunchFailure m d ("reached only " ++ fixed 2 tel.fleetZ ++ " m of its " ++
        metresText climb.targetM ++ " m hover altitude within " ++ fixed 0 climb.budgetS ++ "s") true
    else m

def checkClimbs (m : DroneManager) : DroneManager :=
  m.launch.climbs.foldl (fun m e => checkClimb m e.1 e.2) m

/-! ## The tick -/

section

variable (m : DroneManager)

/-- The drones whose last-known flag is armed, connected or not. -/
def armedIds : List Nat := m.drones.filter fun d => (m.telemetry d).armed

def inFormation (d : Nat) : Bool :=
  let tel := m.telemetry d
  m.drones.contains d && tel.armed && tel.flightMode = "OFFBOARD" &&
    (hoverAltitude d - formationAltToleranceM ≤ tel.fleetZ : Bool)

/-- Whether the fleet is up: every drone of the plan in formation and no failure
on record. Without a plan the armed fleet is judged, by altitude alone. -/
def atAltitude : Bool :=
  if m.launch.launchPlanned ≠ [] then
    m.launch.launchFailures = [] && m.launch.launchPlanned.all (inFormation m)
  else
    (armedIds m).all fun d =>
      (hoverAltitude d - formationAltToleranceM ≤ (m.telemetry d).fleetZ : Bool)

section

variable (faults : Faults)

/-- Take over a transition; one that is not in the table raises. -/
def moveTo : Except FsmError FleetStateMachine → DroneManager
  | .ok f => m.moveFsm faults.auditWrite f
  | .error _ => m

def advanceTo (target : LifecycleState) (trigger : String) : DroneManager :=
  moveTo m faults (m.fsm.advance m.fsm.state target trigger m.time)

/-- PREARM: the first drone has armed, or the launch is over and none will. -/
def tickPrearm (launching : Bool) : DroneManager :=
  if armedIds m ≠ [] then advanceTo m faults .armed "telemetry:first_drone_armed"
  else if !launching && m.launch.launchFinishedAt.all
      (fun ended => (launchArmGraceS ≤ m.monotonic - ended : Bool)) then
    advanceTo m faults .staged "launch_failed:no_drone_armed"
  else m

def tickArmed : DroneManager :=
  if (armedIds m).any fun d => (takeoffDetectAltM ≤ (m.telemetry d).fleetZ : Bool) then
    advanceTo m faults .takeoff "telemetry:climbing"
  else m

def tickTakeoff (launching : Bool) : DroneManager :=
  if atAltitude m && !launching then
    let m := advanceTo m faults .formationHold "telemetry:formation_altitude_reached"
    { m with launch := { m.launch with climbs := [] } }
  else m

end

def climbsChecked : DroneManager :=
  if m.launch.climbs ≠ [] ∧ [LifecycleState.prearm, .armed, .takeoff].contains m.fsm.state then
    checkClimbs m
  else m

/-- Nobody is armed and nothing is being launched: the flight is over. A
`stop_trajectory` that raises ends the tick before the transition. -/
def tickDisarmed (faults : Faults) : DroneManager × List Sent :=
  let disarmed (m : DroneManager) : DroneManager :=
    moveTo m faults (m.fsm.transition .disarmed systemOperator "telemetry:all_disarmed" m.time)
  if m.fsm.state = .running then
    match stopTrajectory faults m with
    | (m, sent, true) => (m, sent)
    | (m, sent, false) => (disarmed m, sent)
  else (disarmed m, [])

def evaluateLifecycle (faults : Faults) : DroneManager × List Sent :=
  let launching := launchInProgress m
  if airborneStates.contains m.fsm.state && (armedIds m).isEmpty && !launching then
    tickDisarmed m faults
  else
    let m := climbsChecked m
    match m.fsm.state with
    | .prearm => (tickPrearm m faults launching, [])
    | .armed => (tickArmed m faults, [])
    | .takeoff => (tickTakeoff m faults launching, [])
    | _ => (m, [])

end

/-! ## What a tick can do -/

lemma checkClimb_only (m : DroneManager) (d : Nat) (climb : Climb) :
    LaunchOnly m (checkClimb m d climb) := by
  unfold checkClimb
  dsimp only
  split
  · exact .refl m
  · split
    · exact recordLaunchFailure_only ..
    · split
      · exact recordLaunchFailure_only ..
      · split
        · exact ⟨_, rfl, rfl, rfl, rfl⟩
        · split
          · exact recordLaunchFailure_only ..
          · exact .refl m

lemma climbsChecked_only (m : DroneManager) : LaunchOnly m (climbsChecked m) := by
  have hfold : ∀ (climbs : Dict Nat Climb) (m : DroneManager),
      LaunchOnly m (climbs.foldl (fun m e => checkClimb m e.1 e.2) m) := by
    intro climbs
    induction climbs with
    | nil => exact .refl
    | cons e climbs ih => exact fun m => (checkClimb_only m e.1 e.2).trans (ih _)
  unfold climbsChecked
  split
  · exact hfold _ m
  · exact .refl m

/-- The step of the lifecycle a tick takes. It goes back to the ground, or into
formation, only when no launch is in progress. -/
def TickMove (m : DroneManager) (s' : LifecycleState) : Prop :=
  s' = m.fsm.state ∨ (m.fsm.state = .prearm ∧ s' = .armed) ∨
    (m.fsm.state = .armed ∧ s' = .takeoff) ∨
    (launchInProgress m = false ∧ (s' = .disarmed ∨ (m.fsm.state = .prearm ∧ s' = .staged) ∨
        (m.fsm.state = .takeoff ∧ s' = .formationHold ∧ atAltitude (climbsChecked m) = true)))

/-- What a tick does: it leaves the playback or stops it, keeps the tasks of the
launch, and moves the lifecycle as `TickMove` says. -/
structure Ticked (m m' : DroneManager) : Prop where
  frame : ∃ fsm auditFile playback launch,
    m' = { m with fsm := fsm, auditFile := auditFile, playback := playback, launch := launch }
  record : RecordOnly m.launch m'.launch
  playback : m'.playback = m.playback ∨ Stopped m.playback m'.playback
  move : TickMove m m'.fsm.state

lemma moveTo_cases (m : DroneManager) (faults : Faults) (r : Except FsmError FleetStateMachine) :
    moveTo m faults r = m ∨ ∃ f, r = .ok f ∧ moveTo m faults r = m.moveFsm faults.auditWrite f := by
  cases r with
  | ok f => exact .inr ⟨f, rfl, rfl⟩
  | error e => exact .inl rfl

lemma ticked_of_judged {m m' : DroneManager} (faults : Faults)
    (h : m' = climbsChecked m ∨ ∃ f launch, RecordOnly (climbsChecked m).launch launch ∧
      m' = { (climbsChecked m).moveFsm faults.auditWrite f with launch := launch } ∧
      TickMove m f.state) : Ticked m m' := by
  obtain ⟨l, hl, h1, h2, h3⟩ := climbsChecked_only m
  rw [hl] at h
  rcases h with rfl | ⟨f, launch, ⟨h1', h2', h3'⟩, rfl, hmove⟩
  · exact ⟨⟨_, _, _, _, rfl⟩, ⟨h1, h2, h3⟩, .inl rfl, .inl rfl⟩
  · exact ⟨⟨_, _, _, _, rfl⟩, ⟨h1'.trans h1, h2'.trans h2, h3'.trans h3⟩, .inl rfl, hmove⟩

lemma tickDisarmed_ticked (m : DroneManager) (faults : Faults)
    (hidle : launchInProgress m = false) : Ticked m (tickDisarmed m faults).1 := by
  obtain ⟨p, hp, hstopped, -⟩ := stopTrajectory_stopped faults m
  have hdisarmed : ∀ playback, (playback = m.playback ∨ Stopped m.playback playback) →
      Ticked m (moveTo { m with playback := playback } faults
        (m.fsm.transition .disarmed systemOperator "telemetry:all_disarmed" m.time)) := by
    intro playback hpb
    rcases moveTo_cases { m with playback := playback } faults
      (m.fsm.transition .disarmed systemOperator "telemetry:all_disarmed" m.time) with h | ⟨f, hf, h⟩
    · rw [h]
      exact ⟨⟨_, _, _, _, rfl⟩, ⟨rfl, rfl, rfl⟩, hpb, .inl rfl⟩
    · rw [h]
      obtain ⟨-, rfl⟩ := FleetStateMachine.transition_ok hf
      exact ⟨⟨_, _, _, _, rfl⟩, ⟨rfl, rfl, rfl⟩, hpb, .inr (.inr (.inr ⟨hidle, .inl rfl⟩))⟩
  unfold tickDisarmed
  dsimp only
  split
  · generalize stopTrajectory faults m = r at hp ⊢
    obtain ⟨m1, sent, raised⟩ := r
    simp only at hp
    subst hp
    cases raised with
    | true => exact ⟨⟨_, _, _, _, rfl⟩, ⟨rfl, rfl, rfl⟩, .inr hstopped, .inl rfl⟩
    | false => exact hdisarmed p (.inr hstopped)
  · exact hdisarmed m.playback (.inl rfl)

lemma evaluateLifecycle_ticked (m : DroneManager) (faults : Faults) :
    Ticked m (evaluateLifecycle m faults).1 := by
  unfold evaluateLifecycle
  dsimp only
  split
  next h =>
    simp only [Bool.and_eq_true, Bool.not_eq_true'] at h
    exact tickDisarmed_ticked m faults h.2
  next =>
    have hfsm : (climbsChecked m).fsm = m.fsm := by
      obtain ⟨l, hl, -⟩ := climbsChecked_only m
      rw [hl]
    -- a tick that moves on from `s` to `t` under the trigger `g`
    have hadvance : ∀ (t : LifecycleState) (g : String), TickMove m t →
        Ticked m (advanceTo (climbsChecked m) faults t g) := by
      intro t g hmove
      apply ticked_of_judged faults
      rcases moveTo_cases (climbsChecked m) faults
        ((climbsChecked m).fsm.advance (climbsChecked m).fsm.state t g (climbsChecked m).time)
        with h | ⟨f, hf, h⟩
      · exact .inl h
      · refine .inr ⟨f, (climbsChecked m).launch, ⟨rfl, rfl, rfl⟩, h, ?_⟩
        rcases FleetStateMachine.advance_ok hf with rfl | ⟨-, -, hstate⟩
        · exact .inl (by rw [hfsm])
        · rw [hstate]; exact hmove
    split
    next hs =>
      rw [hfsm] at hs
      unfold tickPrearm
      split
      · exact hadvance _ _ (.inr (.inl ⟨hs, rfl⟩))
      · split
        next h =>
          simp only [Bool.and_eq_true, Bool.not_eq_true'] at h
          exact hadvance _ _ (.inr (.inr (.inr ⟨h.1, .inr (.inl ⟨hs, rfl⟩)⟩)))
        next => exact ticked_of_judged faults (.inl rfl)
    next hs =>
      rw [hfsm] at hs
      unfold tickArmed
      split
      · exact hadvance _ _ (.inr (.inr (.inl ⟨hs, rfl⟩)))
      · exact ticked_of_judged faults (.inl rfl)
    next hs =>
      rw [hfsm] at hs
      unfold tickTakeoff
      split
      next h =>
        simp only [Bool.and_eq_true, Bool.not_eq_true'] at h
        have hmove : TickMove m .formationHold :=
          .inr (.inr (.inr ⟨h.2, .inr (.inr ⟨hs, rfl, h.1⟩)⟩))
        obtain ⟨⟨f, a, p, l, hf⟩, hrec, hpb, hmv⟩ :=
          hadvance .formationHold "telemetry:formation_altitude_reached" hmove
        generalize advanceTo (climbsChecked m) faults _ _ = m1 at *
        subst hf
        exact ⟨⟨_, _, _, _, rfl⟩, hrec, hpb, hmv⟩
      next => exact ticked_of_judged faults (.inl rfl)
    next => exact ticked_of_judged faults (.inl rfl)

end Taramandal.Gcs.Lifecycle
