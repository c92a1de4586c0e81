import Mathlib.Data.Rat.Defs

/-! # The fleet lifecycle state machine (`fleet_fsm.py`)

The states, the transition table, the rule of each operator command, and the
machine itself: `check`, `apply`, `transition`, `advance`. The table and the
rules are the source's, line by line. A machine keeps its history and every
entry it handed to its audit trail; whether writing that trail to disk failed is
the concern of the code that calls it (see `Taramandal.Gcs.Emergency`). -/
namespace Taramandal.Gcs.FleetFsm

inductive LifecycleState where
  | staged | prearm | armed | takeoff | formationHold | running | showComplete
  | landing | rtl | estop | disarmed
  deriving DecidableEq

namespace LifecycleState

def value : LifecycleState → String
  | .staged => "STAGED"
  | .prearm => "PREARM"
  | .armed => "ARMED"
  | .takeoff => "TAKEOFF"
  | .formationHold => "FORMATION_HOLD"
  | .running => "RUNNING"
  | .showComplete => "SHOW_COMPLETE"
  | .landing => "LANDING"
  | .rtl => "RTL"
  | .estop => "ESTOP"
  | .disarmed => "DISARMED"

/-- `STATE_DESCRIPTIONS`. -/
def description : LifecycleState → String
  | .staged => "fleet on its pads, not yet launched"
  | .prearm => "launch requested, waiting for drones to become armable"
  | .armed => "drones armed, climb not started"
  | .takeoff => "fleet climbing to formation altitude, takeoff not complete"
  | .formationHold => "fleet hovering in formation, ready to start the show"
  | .running => "show trajectory playing"
  | .showComplete => "show finished, fleet hovering at its final positions"
  | .landing => "fleet landing"
  | .rtl => "fleet returning to launch"
  | .estop => "emergency stop, motors killed"
  | .disarmed => "fleet on the ground, disarmed"

/-- `_STATE_ORDER`: the order states are listed in messages. -/
def all : List LifecycleState :=
  [.staged, .prearm, .armed, .takeoff, .formationHold, .running, .showComplete,
    .landing, .rtl, .estop, .disarmed]

lemma mem_all (s : LifecycleState) : s ∈ all := by cases s <;> decide

end LifecycleState

open LifecycleState

/-- `EMERGENCY_STATES`: enterable from every state. -/
def emergencyStates : List LifecycleState := [.landing, .rtl, .estop]

/-- `AIRBORNE_STATES`: at least one drone may be armed. -/
def airborneStates : List LifecycleState :=
  [.armed, .takeoff, .formationHold, .running, .showComplete, .landing, .rtl, .estop]

/-- `TRANSITIONS`: the non-emergency transitions. -/
def transitions : LifecycleState → List LifecycleState
  | .staged => [.prearm]
  | .prearm => [.armed, .staged]
  | .armed => [.takeoff, .disarmed]
  | .takeoff => [.formationHold, .disarmed]
  | .formationHold => [.running, .disarmed]
  | .running => [.showComplete, .formationHold, .disarmed]
  | .showComplete => [.disarmed]
  | .landing => [.disarmed]
  | .rtl => [.disarmed]
  | .estop => [.disarmed]
  | .disarmed => [.prearm]

def canTransition (src dst : LifecycleState) : Bool :=
  emergencyStates.contains dst || (transitions src).contains dst

inductive Command where
  | launch | startTrajectory | stopTrajectory | land | rtl | estop
  | uploadTrajectory | uploadMission | resumeShow | discardShow | singleDroneHover
  deriving DecidableEq

/-- Where a command is legal, the state it moves the fleet to (`none` for a
command that is gated but changes no state), and its phrasing in messages. -/
structure CommandRule where
  allowedFrom : List LifecycleState
  target : Option LifecycleState
  action : String

def notRunning : List LifecycleState := all.filter (· != .running)

@[simp] lemma mem_notRunning {s : LifecycleState} : s ∈ notRunning ↔ s ≠ .running := by
  simp [notRunning, mem_all]

def commandRules : Command → CommandRule
  | .launch => ⟨[.staged, .disarmed], some .prearm, "launch the fleet"⟩
  | .startTrajectory => ⟨[.formationHold], some .running, "start the show trajectory"⟩
  | .stopTrajectory => ⟨[.running], some .formationHold, "stop the show trajectory"⟩
  | .land => ⟨all, some .landing, "land the fleet"⟩
  | .rtl => ⟨all, some .rtl, "return the fleet to launch"⟩
  | .estop => ⟨all, some .estop, "emergency-stop the fleet"⟩
  | .uploadTrajectory => ⟨notRunning, none, "upload a trajectory"⟩
  | .uploadMission => ⟨notRunning, none, "upload show missions"⟩
  | .resumeShow => ⟨notRunning, none, "resume a saved show"⟩
  | .discardShow => ⟨notRunning, none, "discard a saved show"⟩
  | .singleDroneHover => ⟨[.staged, .disarmed], none, "run the single-drone hover sequence"⟩

/-- The rules and the table agree: a command that moves the fleet is only
allowed where the table has the transition, so `apply` never meets the
`ValueError` that stands for a disagreement. -/
lemma commandRules_in_table (c : Command) (s t : LifecycleState)
    (hs : s ∈ (commandRules c).allowedFrom) (ht : (commandRules c).target = some t) :
    canTransition s t = true := by
  cases c <;> simp [commandRules] at ht <;> subst ht <;> revert hs <;> cases s <;> decide

def systemOperator : String := "system"

/-- What the audit trail is handed: an accepted transition or a rejected
command. -/
inductive AuditEntry where
  | accepted (seq : Nat) (ts : ℚ) (src dst : LifecycleState) (operator trigger : String)
  | rejected (ts : ℚ) (command : Command) (state : LifecycleState)
      (operator trigger reason : String)

inductive FsmError where
  /-- `IllegalTransitionError`: the command is not legal now (HTTP 409). -/
  | illegalTransition (command : Command) (state : LifecycleState)
  /-- `ValueError`: the table has no such transition. -/
  | notInTable (src dst : LifecycleState)

def sortedStates (states : List LifecycleState) : List String :=
  (all.filter states.contains).map value

def FsmError.message : FsmError → String
  | .illegalTransition c s =>
    "Cannot " ++ (commandRules c).action ++ " while the fleet is " ++ s.value ++ " (" ++
      s.description ++ "). Allowed from: " ++
      ", ".intercalate (sortedStates (commandRules c).allowedFrom) ++ "."
  | .notInTable src dst =>
    "Transition " ++ src.value ++ " -> " ++ dst.value ++ " is not in the lifecycle table"

/-- The fleet's lifecycle state, with the history the API shows (`history_size`
entries) and the stream of entries handed to `_audit`. -/
structure FleetStateMachine where
  state : LifecycleState := .staged
  since : ℚ := 0
  seq : Nat := 0
  history : List AuditEntry := []
  audited : List AuditEntry := []

/-- `history_size`, the deque's `maxlen`. -/
def historySize : Nat := 100

/-- `deque(maxlen=history_size).append`. -/
def pushHistory (h : List AuditEntry) (e : AuditEntry) : List AuditEntry :=
  (h ++ [e]).drop ((h ++ [e]).length - historySize)

namespace FleetStateMachine

section

variable (m : FleetStateMachine)

/-- The machine after a legal `transition`. -/
def enter (target : LifecycleState) (operator trigger : String) (now : ℚ) : FleetStateMachine :=
  let record := AuditEntry.accepted (m.seq + 1) now m.state target operator trigger
  { state := target, since := now, seq := m.seq + 1
    history := pushHistory m.history record, audited := m.audited ++ [record] }

def transition (target : LifecycleState) (operator trigger : String)
    (now : ℚ) : Except FsmError FleetStateMachine :=
  if canTransition m.state target then .ok (m.enter target operator trigger now)
  else .error (.notInTable m.state target)

/-- `check` does not change the state; a refusal is audited and raised. -/
def check (c : Command) : Except FsmError Unit :=
  if (commandRules c).allowedFrom.contains m.state then .ok ()
  else .error (.illegalTransition c m.state)

/-- The machine after a refused `check`: only the audit trail has grown. -/
def reject (c : Command) (operator trigger : String) (now : ℚ) : FleetStateMachine :=
  { m with audited := m.audited ++ [.rejected now c m.state operator trigger
      (FsmError.illegalTransition c m.state).message] }

def apply (c : Command) (operator trigger : String) (now : ℚ) :
    Except FsmError FleetStateMachine := do
  m.check c
  match (commandRules c).target with
  | none => return m
  | some target => m.transition target operator trigger now

/-- Transition only if still in `expected`. -/
def advance (expected target : LifecycleState) (trigger : String)
    (now : ℚ) : Except FsmError FleetStateMachine :=
  if m.state = expected then m.transition target systemOperator trigger now else .ok m

@[simp] lemma enter_state (t : LifecycleState) (o g : String) (n : ℚ) :
    (m.enter t o g n).state = t := rfl

end

variable {g : String} {m m' : FleetStateMachine} {n : ℚ} {t : LifecycleState}

lemma transition_ok {o : String} (h : m.transition t o g n = .ok m') :
    canTransition m.state t = true ∧ m' = m.enter t o g n := by
  unfold transition at h
  split at h
  · next hc => exact ⟨hc, (Except.ok.inj h).symm⟩
  · cases h

variable {c : Command}

lemma check_ok {u : Unit} (h : m.check c = .ok u) : m.state ∈ (commandRules c).allowedFrom := by
  unfold check at h
  split at h
  · next hc => simpa using hc
  · cases h

lemma apply_ok {o : String} (ht : (commandRules c).target = some t) (h : m.apply c o g n = .ok m') :
    m.state ∈ (commandRules c).allowedFrom ∧ m' = m.enter t o g n := by
  unfold apply at h
  cases hc : m.check c with
  | error e => rw [hc] at h; cases h
  | ok u =>
    rw [hc] at h
    simp only [ht] at h
    exact ⟨check_ok hc, (transition_ok h).2⟩

lemma apply_of_allowed (o g : String) (n : ℚ) (hs : m.state ∈ (commandRules c).allowedFrom)
    (ht : (commandRules c).target = some t) : m.apply c o g n = .ok (m.enter t o g n) := by
  have hc : m.check c = .ok () := by simp [check, hs]
  simp only [apply, hc, ht, transition, commandRules_in_table c m.state t hs ht, if_true]
  rfl

lemma apply_emergency (m : FleetStateMachine) (o g : String) (n : ℚ)
    (hc : c = .land ∧ t = .landing ∨ c = .rtl ∧ t = .rtl ∨ c = .estop ∧ t = .estop) :
    m.apply c o g n = .ok (m.enter t o g n) := by
  rcases hc with ⟨rfl, rfl⟩ | ⟨rfl, rfl⟩ | ⟨rfl, rfl⟩ <;>
    exact apply_of_allowed o g n (mem_all m.state) rfl

lemma advance_ok {e : LifecycleState} (h : m.advance e t g n = .ok m') :
    m' = m ∨ m.state = e ∧ canTransition e t = true ∧ m'.state = t := by
  unfold advance at h
  split at h
  · next he =>
    obtain ⟨hc, rfl⟩ := transition_ok h
    exact .inr ⟨he, he ▸ hc, rfl⟩
  · exact .inl (Except.ok.inj h).symm

end FleetStateMachine

end Taramandal.Gcs.FleetFsm
