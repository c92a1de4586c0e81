import Taramandal.Gcs.Preflight
import Taramandal.Lib.Hoare
import Taramandal.Lib.Run

/-! # The checklist engine (`PreArmChecklistEngine`)

The two-step confirmations and the launch decision. Each method reads the clock
several times, and every entry of the audit trail may fail to reach its file,
which raises where it is recorded; the readings, the tokens and these failures
are the engine's surroundings (`World`), by their number. -/
namespace Taramandal.Gcs.Confirmations

open Lib.Dict Lib.Hoare Lib.Run Core.Numbers Core.Shows Core.Text Core.Validate
open Gcs.Preflight

inductive Kind where
  | latch | override
  deriving DecidableEq

def Kind.value : Kind → String
  | .latch => "latch"
  | .override => "override"

structure Pending where
  token : String
  operator : String
  expiresAt : ℚ
  rules : List String
  reason : String

structure Active where
  operator : String
  confirmedAt : ℚ
  expiresAt : ℚ
  rules : List String
  reason : String

/-- An entry of the audit trail; fields it does not carry are empty. -/
structure TrailEntry where
  event : String
  profile : String
  operator : String
  rules : List String := []
  reason : String := ""
  requestedBy : String := ""
  gates : Option (Bool × List String) := none
  reasons : List String := []
  droneIds : List Nat := []
  excluded : List Nat := []
  showHash : Option String := none

def launchAuthorized : String := "launch_authorized"

/-- What came to pass, and when. Nothing in the engine reads it. -/
inductive Event where
  | requested (kind : Kind) (token : String) (time : ℚ)
  | confirmed (kind : Kind) (token : String) (checked time : ℚ)
  | launched (time : ℚ)
  deriving DecidableEq

structure Engine where
  pending : Dict Kind Pending := []
  active : Dict Kind Active := []
  trail : List TrailEntry := []
  /-- How often the clock was read, and how many tokens were drawn. -/
  reads : Nat := 0
  issued : Nat := 0
  history : List Event := []

structure EngineConfig where
  profile : OperationalProfile
  batteryCells : Nat
  hashes : Hashes
  confirmWindowS : ℚ
  holdS : ℚ

def EngineConfig.policy (c : EngineConfig) : ProfilePolicy := policies c.profile

/-- The clock's readings, the tokens of `secrets`, and the entries whose file
write raises. -/
structure World where
  clock : Nat → ℚ
  token : Nat → String
  auditFails : Nat → Bool

inductive Raised where
  | osError
  | typeError
  | confirmationError (message : String)

abbrev EngineM (α : Type) := Action Engine Raised α

variable (w : World) (c : EngineConfig)

def clock : EngineM ℚ := do
  let e ← get
  modify fun e => { e with reads := e.reads + 1 }
  return w.clock e.reads

def issueToken : EngineM String := do
  let e ← get
  modify fun e => { e with issued := e.issued + 1 }
  return w.token e.issued

def record (entry : TrailEntry) : EngineM Unit := do
  let e ← get
  modify fun e => { e with trail := e.trail ++ [entry] }
  if w.auditFails e.trail.length then throw .osError

def note (event : Event) : EngineM Unit :=
  modify fun e => { e with history := e.history ++ [event] }

/-! ## Two-step confirmation -/

def expirePending (now : ℚ) (e : Kind × Pending) : EngineM Unit :=
  if e.2.expiresAt < now then do
    modify fun s => { s with pending := remove s.pending e.1 }
    record w
      { event := e.1.value ++ "_request_expired"
        profile := c.profile.value
        operator := e.2.operator }
  else pure ()

def expireActive (now : ℚ) (e : Kind × Active) : EngineM Unit :=
  if e.2.expiresAt < now then do
    modify fun s => { s with active := remove s.active e.1 }
    record w
      { event := e.1.value ++ "_expired"
        profile := c.profile.value
        operator := e.2.operator }
  else pure ()

def expire : EngineM Unit := do
  let now ← clock w
  each (expirePending w c now) (items (← get).pending)
  each (expireActive w c now) (items (← get).active)

/-- `sorted(rules)`. -/
def sortedRules (rules : List String) : List String := rules.dedup.insertionSort (· ≤ ·)

def request (kind : Kind) (operator : String) (rules : List String) (reason : String) :
    EngineM String := do
  expire w c
  let token ← issueToken w
  let now ← clock w
  modify fun e => { e with
    pending := assign e.pending kind ⟨token, operator, now + c.confirmWindowS, rules, reason⟩ }
  note (.requested kind token now)
  record w
    { event := kind.value ++ "_requested"
      profile := c.profile.value
      operator := operator
      rules := sortedRules rules
      reason := reason }
  return token

/-- `secrets.compare_digest`, which takes ASCII strings only. -/
def compareDigest (a b : String) : EngineM Bool :=
  if a.toList.all (·.toNat < 128) && b.toList.all (·.toNat < 128) then pure (a = b)
  else throw .typeError

def rejectConfirm (kind : Kind) (operator : String) : EngineM Unit := do
  record w
    { event := kind.value ++ "_confirm_rejected"
      profile := c.profile.value
      operator := operator }
  throw (.confirmationError ("No pending " ++ kind.value ++ " request matches that token — it may " ++
    "have expired (" ++ fixed 0 c.confirmWindowS ++ "s window). Start again from step 1."))

def acceptConfirm (kind : Kind) (pending : Pending) (operator : String)
    (gates : Option (Bool × List String)) (checked : ℚ) : EngineM Unit := do
  modify fun e => { e with pending := remove e.pending kind }
  let now ← clock w
  modify fun e => { e with
    active := assign e.active kind ⟨operator, now, now + c.holdS, pending.rules, pending.reason⟩ }
  note (.confirmed kind pending.token checked now)
  record w
    { event := kind.value ++ "_confirmed"
      profile := c.profile.value
      operator := operator
      requestedBy := pending.operator
      rules := sortedRules pending.rules
      reason := pending.reason
      gates := gates }

/-- `_confirm`. Its first reading is the one its token is checked at. -/
def confirm (kind : Kind) (token operator : String) (gates : Option (Bool × List String)) :
    EngineM Unit := do
  let first := (← get).reads
  expire w c
  match find (← get).pending kind with
  | none => rejectConfirm w c kind operator
  | some pending =>
    if ← compareDigest pending.token token then
      acceptConfirm w c kind pending operator gates (w.clock first)
    else rejectConfirm w c kind operator

def requestOverride (rules : List String) (reason operator : String) : EngineM String := do
  let allowed := c.policy.overridable.map RuleId.id
  let refused := sortedRules (rules.filter (· ∉ allowed))
  let stripped := String.ofList (strip reason.toList)
  if rules = [] then throw (.confirmationError "An override must name at least one rule.")
  else if stripped = "" then
    throw (.confirmationError "An override needs a reason for the audit trail.")
  else if refused ≠ [] then
    record w
      { event := "override_refused"
        profile := c.profile.value
        operator := operator
        rules := sortedRules rules
        reason := reason }
    throw (.confirmationError (", ".intercalate refused ++ " cannot be overridden under " ++
      c.profile.value ++ " (overridable here: " ++
      (if allowed = [] then "none" else ", ".intercalate (sortedRules allowed)) ++ ")."))
  else request w c .override operator rules stripped

/-- One kind in `confirmation_state`. -/
inductive Described where
  | confirmed (operator : String) (rules : List String) (reason : String) (expiresInS : ℚ)
  | pending (operator : String) (rules : List String) (reason : String) (expiresInS : ℚ)
  | idle

def describe (e : Engine) (now : ℚ) (kind : Kind) : Described :=
  match find e.active kind, find e.pending kind with
  | some a, _ => .confirmed a.operator (sortedRules a.rules) a.reason (roundTo 1 (a.expiresAt - now))
  | none, some p =>
    .pending p.operator (sortedRules p.rules) p.reason (roundTo 1 (p.expiresAt - now))
  | none, none => .idle

def confirmationState : EngineM (Kind → Described) := do
  expire w c
  let now ← clock w
  return describe (← get) now

def overriddenRules : EngineM (List String) := do
  expire w c
  return ((find (← get).active .override).map Active.rules).getD []

/-! ## Evaluation -/

/-- What an evaluation reads of the fleet. -/
structure FleetView where
  telemetry : Dict Nat VehicleReport
  expectedDrones : Nat
  trajectory : Option (Show ℚ)
  geofenceRadiusM : ℚ

structure Gate where
  rule : RuleId
  severity : Severity
  passed : Bool
  state : GateState
  detail : String

def gate (p : ProfilePolicy) (overridden : List String) (check : Check) : Gate where
  rule := check.1
  severity := p.severity check.1
  passed := check.2.1
  state :=
    if p.severity check.1 = .ignored then .ignored
    else if check.2.1 then .pass
    else if p.severity check.1 = .warning then .warn
    else if check.1.id ∈ overridden then .overridden
    else .fail
  detail := check.2.2

def Gate.reason (subject : String) (g : Gate) : String :=
  subject ++ ": " ++ g.rule.title ++ " — " ++ g.detail

structure DroneReport where
  droneId : Nat
  armed : Bool
  gates : List Gate

def DroneReport.failed (d : DroneReport) : List Gate := d.gates.filter (·.state = .fail)

def DroneReport.ready (d : DroneReport) : Bool := d.failed = []

/-- The report, without what it repeats of the policy. -/
structure Report where
  drones : List DroneReport
  fleetGates : List Gate
  blockingReasons : List String
  excludedDroneIds : List Nat
  showHash : Option String

def Report.launchPermitted (r : Report) : Bool := r.blockingReasons = []

def Report.launchDroneIds (r : Report) : List Nat :=
  if r.launchPermitted then (r.drones.filter DroneReport.ready).map DroneReport.droneId else []

def positions (fleet : FleetView) : Dict Nat (Point ℚ) :=
  (fleet.telemetry.filter fun e => e.2.tel.connected).map fun e =>
    (e.1, e.2.tel.fleetX, e.2.tel.fleetY, e.2.tel.fleetZ)

def droneReports (overridden : List String) (now : ℚ) (fleet : FleetView) : List DroneReport :=
  ((fleet.telemetry.map Prod.fst).insertionSort (· ≤ ·)).filterMap fun d =>
    (find fleet.telemetry d).map fun r =>
      { droneId := d
        armed := r.tel.armed
        gates := (droneChecks c.policy c.batteryCells c.hashes d r fleet.trajectory
          fleet.geofenceRadiusM (positions fleet) now).map (gate c.policy overridden) }

def latchCheck (latch : Option Active) (now : ℚ) : Check :=
  (.operatorLatch, latch.isSome,
    match latch with
    | some a => "Confirmed by " ++ a.operator ++ ", " ++ fixed 0 (a.expiresAt - now) ++ "s left"
    | none => "Not confirmed — arm and confirm the launch latch")

def completeCheck (fleet : FleetView) : Check :=
  let connected := (fleet.telemetry.filter fun e => e.2.tel.connected).length
  (.fleetComplete, 0 < fleet.expectedDrones && fleet.expectedDrones ≤ connected,
    toString connected ++ "/" ++ toString fleet.expectedDrones ++ " drones connected")

/-- The report on a fleet under the confirmations of an instant. -/
def judge (overridden : List String) (latch : Option Active) (now : ℚ) (fleet : FleetView) :
    Report :=
  let drones := droneReports c overridden now fleet
  let fleetGates := [gate c.policy overridden (latchCheck latch now),
    gate c.policy overridden (completeCheck fleet)]
  let blocking := (fleetGates.filter (·.state = .fail)).map (Gate.reason "Fleet") ++
    (if c.policy.allowPartialFleet then []
      else drones.flatMap fun d => d.failed.map (Gate.reason ("Drone " ++ toString d.droneId)))
  { drones := drones
    fleetGates := fleetGates
    blockingReasons := blocking ++
      if drones.all (!·.ready) then ["No drone passes every blocking pre-arm gate."] else []
    excludedDroneIds :=
      ((drones.filter (!·.ready)).map DroneReport.droneId).insertionSort (· ≤ ·)
    showHash := (fleet.trajectory.filter fun s => s.drones ≠ []).map c.hashes.show_ }

/-- `evaluate`. Its confirmations are described at the end, and may have expired
by then. -/
def evaluate (fleet : FleetView) : EngineM (Report × (Kind → Described)) := do
  expire w c
  let overridden ← overriddenRules w c
  let now ← clock w
  let report := judge c overridden (find (← get).active .latch) now fleet
  let confirmations ← confirmationState w c
  return (report, confirmations)

/-- `LaunchDecision`. -/
structure Decision where
  permitted : Bool
  report : Report
  droneIds : List Nat := []
  overriddenRules : List String := []

/-- A launch that was permitted: on record, its confirmations consumed. The
launch is dated at the reading its gates were evaluated behind. -/
def consume (operator : String) (report : Report) (overridden : List String) (time : ℚ) :
    EngineM Unit := do
  record w
    { event := launchAuthorized
      profile := c.profile.value
      operator := operator
      droneIds := report.launchDroneIds
      excluded := report.excludedDroneIds
      rules := sortedRules overridden
      showHash := report.showHash }
  modify fun e => { e with active := remove (remove e.active .latch) .override }
  note (.launched time)

def authorizeLaunch (fleet : FleetView) (operator : String) : EngineM Decision := do
  let first := (← get).reads
  let (report, _) ← evaluate w c fleet
  if report.launchPermitted then
    let overridden ← overriddenRules w c
    consume w c operator report overridden (w.clock (first + 1))
    return ⟨true, report, report.launchDroneIds, overridden⟩
  else
    record w
      { event := "launch_rejected"
        profile := c.profile.value
        operator := operator
        reasons := report.blockingReasons }
    return ⟨false, report, [], []⟩

/-- A call into the engine. -/
inductive Call where
  | requestLatch (operator : String)
  | confirmLatch (token operator : String) (gates : Option (Bool × List String))
  | requestOverride (rules : List String) (reason operator : String)
  | confirmOverride (token operator : String)
  | confirmationState
  | evaluate (fleet : FleetView)
  | authorizeLaunch (fleet : FleetView) (operator : String)

def Call.action : Call → EngineM Unit
  | .requestLatch operator => discard (request w c .latch operator [] "")
  | .confirmLatch token operator gates => confirm w c .latch token operator gates
  | .requestOverride rules reason operator =>
    discard (Confirmations.requestOverride w c rules reason operator)
  | .confirmOverride token operator => confirm w c .override token operator none
  | .confirmationState => discard (Confirmations.confirmationState w c)
  | .evaluate fleet => discard (Confirmations.evaluate w c fleet)
  | .authorizeLaunch fleet operator => discard (Confirmations.authorizeLaunch w c fleet operator)

/-- One call after the other, whatever one of them raises. -/
def step : System Engine Call Raised := fun e call =>
  match outcome (call.action w c) e with
  | (.ok _, e) => some (e, [])
  | (.error raised, e) => some (e, [raised])

end Taramandal.Gcs.Confirmations
