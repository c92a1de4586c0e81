import Mathlib.Data.List.Chain
import Taramandal.Gcs.FleetFsm

/-! # Runs of the lifecycle state machine (`fleet_fsm.py`)

A call that moves or refuses audits what it did, and the audit runs other code: the
observers and the context provider. Each may raise, and each may call the machine
again before it returns. Whatever they do, the machine only ever changes by one
legal transition or one refusal at a time (`runCalls_changes`), and every statement
about a run follows from what one such change does. -/
namespace Taramandal.Gcs.LifecycleRuns

open Gcs.FleetFsm

/-! ## Calls -/

inductive Operation where
  | apply (command : Command) (operator trigger : String)
  | transition (target : LifecycleState) (operator trigger : String)
  | advance (expected target : LifecycleState) (operator trigger : String)

/-- How an observer or the context provider ends: it returns, it raises an
`Exception`, which `_audit` logs, or it raises what is not one, which passes. -/
inductive Ending where
  | returns | raises | passes
  deriving DecidableEq

/-- How the write to the audit file ends. An `OSError` is logged; an entry that is not
JSON, for a value of the context, is not caught. -/
inductive FileWrite where
  | written | osError | notJson
  deriving DecidableEq

/-- What one observer, or the context provider, does while an entry is audited: the
calls it makes to the machine, and how it ends. -/
structure Watch (α : Type) where
  calls : List α
  ending : Ending

/-- One call, with the time it reads and all that happens inside its audit. Without an
audit path only the observers are run. -/
inductive Call where
  | mk (op : Operation) (now : ℚ) (observers : List (Watch Call)) (auditPath : Bool)
    (context : Watch Call) (file : FileWrite)

def Call.op : Call → Operation
  | .mk op .. => op

/-- The calls that the code inside the audit makes, in order, if none of it is cut short. -/
def Call.callsBack : Call → List Call
  | .mk _ _ observers _ context _ => observers.flatMap Watch.calls ++ context.calls

inductive Outcome where
  | returned
  | raised (e : FsmError)
  /-- What the audit did not catch. -/
  | escaped

/-- What a call does before its audit: nothing more is to come, or the machine has
changed and the entry is to be audited. -/
inductive Begun where
  | done (o : Outcome)
  | audits (m : FleetStateMachine) (o : Outcome)

def startMove (m : FleetStateMachine) (target : LifecycleState) (operator trigger : String)
    (now : ℚ) : Begun :=
  match m.transition target operator trigger now with
  | .ok m' => .audits m' .returned
  | .error e => .done (.raised e)

def start (m : FleetStateMachine) (now : ℚ) : Operation → Begun
  | .apply c operator trigger =>
    match m.check c with
    | .error e => .audits (m.reject c operator trigger now) (.raised e)
    | .ok () =>
      match (commandRules c).target with
      | none => .done .returned
      | some target => startMove m target operator trigger now
  | .transition target operator trigger => startMove m target operator trigger now
  | .advance expected target operator trigger =>
    if m.state = expected then startMove m target operator trigger now else .done .returned

mutual

/-- `apply`, `transition` or `advance`, with the `_audit` inside it. -/
def runCall (m : FleetStateMachine) : Call → FleetStateMachine × Outcome
  | .mk op now observers auditPath context file =>
    match start m now op with
    | .done o => (m, o)
    | .audits m' o =>
      match runWatches m' observers with
      | (m', true) => (m', .escaped)
      | (m', false) =>
        if auditPath then
          match runWatch m' context with
          | (m', true) => (m', .escaped)
          | (m', false) => (m', if file = .notJson then .escaped else o)
        else (m', o)

def runCalls (m : FleetStateMachine) : List Call → FleetStateMachine
  | [] => m
  | call :: calls => runCalls (runCall m call).1 calls

def runWatch (m : FleetStateMachine) : Watch Call → FleetStateMachine × Bool
  | ⟨calls, ending⟩ => (runCalls m calls, ending = .passes)

/-- The observers in their order, up to one that is not caught. -/
def runWatches (m : FleetStateMachine) : List (Watch Call) → FleetStateMachine × Bool
  | [] => (m, false)
  | watch :: watches =>
    match runWatch m watch with
    | (m', true) => (m', true)
    | (m', false) => runWatches m' watches

end

/-! ## One change -/

/-- What the machine can change by: one transition of the table, or one refusal. -/
inductive Changes (m : FleetStateMachine) : FleetStateMachine → Prop where
  | enters {target : LifecycleState} (h : canTransition m.state target = true)
      (operator trigger : String) (now : ℚ) : Changes m (m.enter target operator trigger now)
  | refuses (c : Command) (operator trigger : String) (now : ℚ) :
      Changes m (m.reject c operator trigger now)

variable {m m' : FleetStateMachine} {now : ℚ} {t : LifecycleState}

lemma startMove_changes {o g : String} {out : Outcome}
    (h : startMove m t o g now = .audits m' out) : Changes m m' := by
  unfold startMove at h
  split at h
  next m'' hok =>
    cases h
    obtain ⟨hlegal, rfl⟩ := FleetStateMachine.transition_ok hok
    exact .enters hlegal o g now
  next => cases h

lemma start_changes {op : Operation} {out : Outcome} (h : start m now op = .audits m' out) :
    Changes m m' := by
  cases op with
  | apply c o g =>
    simp only [start] at h
    split at h
    next => cases h; exact .refuses c o g now
    next =>
      split at h
      next => cases h
      next => exact startMove_changes h
  | transition t o g => exact startMove_changes h
  | advance e t o g =>
    simp only [start] at h
    split at h
    next => exact startMove_changes h
    next => cases h

mutual

theorem runCall_changes (m : FleetStateMachine) :
    ∀ call, Relation.ReflTransGen Changes m (runCall m call).1
  | .mk op now observers auditPath context file => by
    unfold runCall
    split
    next => exact .refl
    next m' o hstart =>
      have hwatches := runWatches_changes m' observers
      have hfirst := Relation.ReflTransGen.head (start_changes hstart) hwatches
      split
      next m'' hw => rw [hw] at hfirst; exact hfirst
      next m'' hw =>
        rw [hw] at hfirst
        have hcontext := runWatch_changes m'' context
        split
        · split
          next m3 hc => rw [hc] at hcontext; exact hfirst.trans hcontext
          next m3 hc => rw [hc] at hcontext; exact hfirst.trans hcontext
        · exact hfirst

theorem runCalls_changes (m : FleetStateMachine) :
    ∀ calls, Relation.ReflTransGen Changes m (runCalls m calls)
  | [] => by unfold runCalls; exact .refl
  | call :: calls => by
    unfold runCalls
    exact (runCall_changes m call).trans (runCalls_changes _ calls)

theorem runWatch_changes (m : FleetStateMachine) :
    ∀ watch, Relation.ReflTransGen Changes m (runWatch m watch).1
  | ⟨calls, ending⟩ => by
    unfold runWatch
    exact runCalls_changes m calls

theorem runWatches_changes (m : FleetStateMachine) :
    ∀ watches, Relation.ReflTransGen Changes m (runWatches m watches).1
  | [] => by unfold runWatches; exact .refl
  | watch :: watches => by
    have hwatch := runWatch_changes m watch
    unfold runWatches
    split
    next m' h => rw [h] at hwatch; exact hwatch
    next m' h => rw [h] at hwatch; exact hwatch.trans (runWatches_changes m' watches)

end

/-! ## The audit trail -/

/-- An accepted entry: its number, the state left and the state entered. -/
structure Move where
  seq : Nat
  src : LifecycleState
  dst : LifecycleState

def AuditEntry.move : AuditEntry → Option Move
  | .accepted seq _ src dst _ _ => some ⟨seq, src, dst⟩
  | .rejected .. => none

/-- The accepted entries, in the order in which they were handed to the audit. -/
def moves (m : FleetStateMachine) : List Move := m.audited.filterMap AuditEntry.move

/-- The states that the machine was in, from the first. -/
def entered (m : FleetStateMachine) : List LifecycleState := .staged :: (moves m).map Move.dst

/-- Follow the entries from a state, each from where the last one led. -/
def replay : LifecycleState → List Move → Option LifecycleState
  | s, [] => some s
  | s, e :: rest => if e.src = s then replay e.dst rest else none

lemma replay_append (s : LifecycleState) (a b : List Move) :
    replay s (a ++ b) = (replay s a).bind fun t => replay t b := by
  induction a generalizing s with
  | nil => rfl
  | cons e a ih =>
    simp only [List.cons_append, replay]
    split
    · exact ih e.dst
    · rfl

@[simp] lemma moves_enter (m : FleetStateMachine) (t : LifecycleState) (o g : String) (now : ℚ) :
    moves (m.enter t o g now) = moves m ++ [⟨m.seq + 1, m.state, t⟩] := by
  simp [moves, FleetStateMachine.enter, AuditEntry.move]

@[simp] lemma moves_reject (m : FleetStateMachine) (c : Command) (o g : String) (now : ℚ) :
    moves (m.reject c o g now) = moves m := by
  simp [moves, FleetStateMachine.reject, AuditEntry.move]

/-- What the trail says of the machine. -/
structure Recorded (m : FleetStateMachine) : Prop where
  numbered : (moves m).map Move.seq = List.range' 1 m.seq
  joined : (moves m).IsChain fun a b => b.src = a.dst
  legal : ∀ e ∈ moves m, canTransition e.src e.dst = true
  replayed : replay .staged (moves m) = some m.state

lemma recorded_new (since : ℚ) : Recorded { since := since } where
  numbered := rfl
  joined := List.isChain_nil
  legal := by simp [moves]
  replayed := rfl

variable {s : LifecycleState}

lemma last_of_replay {l : List Move} {e : Move} (h : replay s l = some t) (he : e ∈ l.getLast?) :
    e.dst = t := by
  induction l generalizing s with
  | nil => cases he
  | cons d rest ih =>
    simp only [replay] at h
    split at h
    next =>
      cases rest with
      | nil =>
        cases he
        exact Option.some.inj h
      | cons d' rest => exact ih h (by rwa [List.getLast?_cons_cons] at he)
    next => cases h

lemma Recorded.step (h : Recorded m) (hc : Changes m m') : Recorded m' := by
  cases hc with
  | refuses c o g now =>
    have hsame := moves_reject m c o g now
    exact ⟨hsame ▸ h.numbered, hsame ▸ h.joined, hsame ▸ h.legal, hsame ▸ h.replayed⟩
  | @enters target hlegal o g now =>
    refine ⟨?_, ?_, ?_, ?_⟩
    · rw [moves_enter, List.map_append, h.numbered]
      simp [FleetStateMachine.enter, List.range'_1_concat, Nat.add_comm]
    · rw [moves_enter, List.isChain_append]
      refine ⟨h.joined, List.isChain_singleton _, fun a ha b hb => ?_⟩
      cases hb
      exact (last_of_replay h.replayed ha).symm
    · intro e he
      rw [moves_enter, List.mem_append, List.mem_singleton] at he
      rcases he with he | rfl
      · exact h.legal e he
      · exact hlegal
    · rw [moves_enter, replay_append, h.replayed]
      simp [replay]

lemma recorded_run (since : ℚ) (calls : List Call) :
    Recorded (runCalls { since := since } calls) := by
  have hruns := runCalls_changes { since := since } calls
  generalize runCalls { since := since } calls = m at hruns
  induction hruns with
  | refl => exact recorded_new since
  | tail _ hc ih => exact ih.step hc

/-! ## From an emergency to a show -/

/-- What must have been passed since the last emergency, for a machine in a state. -/
def owed : LifecycleState → List LifecycleState
  | .landing | .rtl | .estop => []
  | .disarmed => [.disarmed]
  | .staged | .prearm => [.disarmed, .prearm]
  | .armed => [.disarmed, .prearm, .armed]
  | .takeoff => [.disarmed, .prearm, .armed, .takeoff]
  | .formationHold | .running | .showComplete =>
    [.disarmed, .prearm, .armed, .takeoff, .formationHold]

lemma owed_step (h : canTransition s t = true) (ht : t ∉ emergencyStates) :
    (owed t).Sublist (owed s ++ [t]) := by
  revert h ht
  cases s <;> cases t <;> decide

/-- After an emergency, the last stretch without another one has passed what the
state it led to needs. -/
lemma exists_stretch {e last : LifecycleState} {mid : List LifecycleState}
    (hchain : (e :: mid).IsChain fun s t => canTransition s t = true) (he : e ∈ emergencyStates)
    (hlast : (e :: mid).getLast? = some last) :
    ∃ early late, mid = early ++ late ∧ (∀ s ∈ late, s ∉ emergencyStates) ∧
      (owed last).Sublist late := by
  induction mid using List.reverseRecOn generalizing last with
  | nil =>
    cases hlast
    refine ⟨[], [], rfl, by simp, ?_⟩
    revert he
    cases e <;> decide
  | append_singleton mid t ih =>
    rw [← List.cons_append, List.getLast?_append_of_ne_nil _ (List.cons_ne_nil _ _),
      List.getLast?_singleton] at hlast
    cases hlast
    rw [← List.cons_append, List.isChain_append] at hchain
    obtain ⟨hchain, -, hjoin⟩ := hchain
    obtain ⟨s, hs⟩ : ∃ s, (e :: mid).getLast? = some s :=
      ⟨_, List.getLast?_eq_some_getLast (List.cons_ne_nil _ _)⟩
    by_cases ht : t ∈ emergencyStates
    · -- the stretch begins anew
      refine ⟨mid ++ [t], [], by simp, by simp, ?_⟩
      revert ht
      cases t <;> decide
    · obtain ⟨early, late, rfl, hnone, howed⟩ := ih hchain hs
      refine ⟨early, late ++ [t], List.append_assoc .., fun r hr => ?_, ?_⟩
      · rcases List.mem_append.mp hr with hr | hr
        · exact hnone r hr
        · rw [List.mem_singleton.mp hr]
          exact ht
      · exact (owed_step (hjoin s hs t rfl) ht).trans (howed.append (List.Sublist.refl [t]))

lemma entered_chain (h : Recorded m) : (entered m).IsChain fun s t => canTransition s t = true := by
  have hgo : ∀ (l : List Move) (s : LifecycleState), replay s l ≠ none →
      (∀ e ∈ l, canTransition e.src e.dst = true) →
        (s :: l.map Move.dst).IsChain fun s t => canTransition s t = true := by
    intro l
    induction l with
    | nil => exact fun s _ _ => List.isChain_singleton s
    | cons e l ih =>
      intro s hreplay hlegal
      simp only [replay] at hreplay
      split at hreplay
      next hsrc =>
        exact List.isChain_cons_cons.mpr ⟨hsrc ▸ hlegal e (List.mem_cons_self ..),
          ih e.dst hreplay fun d hd => hlegal d (List.mem_cons_of_mem _ hd)⟩
      next => exact absurd rfl hreplay
  exact hgo _ _ (by rw [h.replayed]; simp) h.legal

/-- Between an emergency and the show lies a stretch without emergency that passes the
whole way up. -/
def WholeWayUp (mid : List LifecycleState) : Prop :=
  ∃ early late, mid = early ++ late ∧ (∀ s ∈ late, s ∉ emergencyStates) ∧
    [LifecycleState.disarmed, .prearm, .armed, .takeoff, .formationHold].Sublist late

lemma before_running (h : canTransition s .running = true) : s = .formationHold := by
  revert h
  cases s <;> decide

lemma wholeWayUp_of_chain {e : LifecycleState} {mid : List LifecycleState}
    (hchain : (e :: mid ++ [LifecycleState.running]).IsChain fun s t => canTransition s t = true)
    (he : e ∈ emergencyStates) : WholeWayUp mid := by
  obtain ⟨hchain, -, hjoin⟩ := List.isChain_append.mp hchain
  obtain ⟨s, hs⟩ : ∃ s, (e :: mid).getLast? = some s :=
    ⟨_, List.getLast?_eq_some_getLast (List.cons_ne_nil _ _)⟩
  obtain rfl := before_running (hjoin s hs _ rfl)
  exact exists_stretch hchain he hs

/-! ## Calls that are refused -/

/-- What the API shows of the machine is as it was; the audit trail may have grown. -/
structure Unmoved (m m' : FleetStateMachine) : Prop where
  state : m'.state = m.state
  seq : m'.seq = m.seq
  since : m'.since = m.since
  history : m'.history = m.history

/-- The command is allowed now, the transition is in the table. An `advance` from
another state than the expected one asks for nothing. -/
def Operation.legal (m : FleetStateMachine) : Operation → Bool
  | .apply c _ _ => (commandRules c).allowedFrom.contains m.state
  | .transition target _ _ => canTransition m.state target
  | .advance expected target _ _ => m.state != expected || canTransition m.state target

lemma runCalls_append (m : FleetStateMachine) (a b : List Call) :
    runCalls m (a ++ b) = runCalls (runCalls m a) b := by
  induction a generalizing m with
  | nil => simp [runCalls]
  | cons call a ih => simp [runCalls, ih]

lemma runWatches_eq (m : FleetStateMachine) (watches : List (Watch Call)) :
    ∃ made, made <+: watches.flatMap Watch.calls ∧ (runWatches m watches).1 = runCalls m made ∧
      ((runWatches m watches).2 = false → made = watches.flatMap Watch.calls) := by
  induction watches generalizing m with
  | nil => exact ⟨[], by simp, by simp [runWatches, runCalls], by simp⟩
  | cons watch watches ih =>
    obtain ⟨calls, ending⟩ := watch
    by_cases hpass : ending = .passes
    · exact ⟨calls, by simp, by simp [runWatches, runWatch, hpass],
        by simp [runWatches, runWatch, hpass]⟩
    · obtain ⟨made, hprefix, hrun, hall⟩ := ih (runCalls m calls)
      refine ⟨calls ++ made, by simpa using hprefix, ?_, fun h => ?_⟩
      · simp [runWatches, runWatch, hpass, runCalls_append, hrun]
      · simp only [runWatches, runWatch, hpass, decide_false] at h
        rw [hall h, List.flatMap_cons]

/-- What a call that is audited does after its own change is what the calls made
inside its audit do. -/
lemma runCall_audits {call : Call} {o : Outcome} {observers : List (Watch Call)}
    {auditPath : Bool} {context : Watch Call} {file : FileWrite} {op : Operation}
    (hcall : call = .mk op now observers auditPath context file)
    (hstart : start m now op = .audits m' o) :
    ∃ made, made <+: call.callsBack ∧ (runCall m call).1 = runCalls m' made := by
  subst hcall
  obtain ⟨made, hprefix, hrun, hall⟩ := runWatches_eq m' observers
  obtain ⟨calls, ending⟩ := context
  simp only [runCall, hstart, Call.callsBack]
  cases hw : runWatches m' observers with
  | mk m'' cut =>
    rw [hw] at hrun hall
    cases cut with
    | true => exact ⟨made, hprefix.trans (List.prefix_append _ _), hrun⟩
    | false =>
      cases auditPath with
      | false => exact ⟨made, hprefix.trans (List.prefix_append _ _), hrun⟩
      | true =>
        have hmade : made = observers.flatMap Watch.calls := hall rfl
        have hprefix : made ++ calls <+: observers.flatMap Watch.calls ++ calls :=
          hmade ▸ List.prefix_rfl
        refine ⟨made ++ calls, hprefix, ?_⟩
        rw [runCalls_append, ← hrun]
        simp only [if_true, runWatch]
        split <;> simp_all

lemma Unmoved.refl (m : FleetStateMachine) : Unmoved m m := ⟨rfl, rfl, rfl, rfl⟩

lemma startMove_illegal (o g : String) (now : ℚ) (h : canTransition m.state t = false) :
    startMove m t o g now = .done (.raised (.notInTable m.state t)) := by
  simp [startMove, FleetStateMachine.transition, h]

/-- A call that is refused leaves the machine unmoved; what happens after that is what
the calls do that the code inside the audit makes. -/
lemma runCall_refused {call : Call} (h : call.op.legal m = false) :
    ∃ m' made, Unmoved m m' ∧ made <+: call.callsBack ∧ (runCall m call).1 = runCalls m' made := by
  cases call with
  | mk op now observers auditPath context file =>
    have hdone : ∀ {o}, start m now op = .done o → ∃ m' made, Unmoved m m' ∧
        made <+: (Call.mk op now observers auditPath context file).callsBack ∧
        (runCall m (.mk op now observers auditPath context file)).1 = runCalls m' made := by
      intro o hstart
      exact ⟨m, [], Unmoved.refl m, List.nil_prefix, by simp [runCall, runCalls, hstart]⟩
    cases op with
    | apply c operator trigger =>
      have hcheck : m.check c = .error (.illegalTransition c m.state) := by
        simp only [Call.op, Operation.legal] at h
        simp only [FleetStateMachine.check, h, Bool.false_eq_true, if_false]
      have hstart : start m now (.apply c operator trigger) =
          .audits (m.reject c operator trigger now) (.raised (.illegalTransition c m.state)) := by
        simp [start, hcheck]
      obtain ⟨made, hprefix, hrun⟩ := runCall_audits rfl hstart
      exact ⟨m.reject c operator trigger now, made, ⟨rfl, rfl, rfl, rfl⟩, hprefix, hrun⟩
    | transition target operator trigger =>
      exact hdone (startMove_illegal operator trigger now h)
    | advance expected target operator trigger =>
      simp only [Call.op, Operation.legal, Bool.or_eq_false_iff, bne_eq_false_iff_eq] at h
      refine hdone (o := .raised (.notInTable m.state target)) ?_
      simp only [start, h.1, if_true]
      rw [← h.1]
      exact startMove_illegal operator trigger now h.2

/-- In every run: a show that follows an emergency follows the whole way up; a refused
call leaves the machine unmoved, up to the calls made inside its audit; and the
accepted entries are numbered, joined, and replay to where the machine is. -/
theorem lifecycle_runs (since : ℚ) (calls : List Call) : (∀ before e mid after,
      entered (runCalls { since := since } calls) = before ++ e :: (mid ++ .running :: after) →
        e ∈ emergencyStates → WholeWayUp mid) ∧
    (∀ call, call.op.legal (runCalls { since := since } calls) = false →
      (∃ m' made, Unmoved (runCalls { since := since } calls) m' ∧ made <+: call.callsBack ∧
        (runCall (runCalls { since := since } calls) call).1 = runCalls m' made) ∧
      (call.callsBack = [] → Unmoved (runCalls { since := since } calls)
        (runCall (runCalls { since := since } calls) call).1)) ∧
    (moves (runCalls { since := since } calls)).map Move.seq =
      List.range' 1 (runCalls { since := since } calls).seq ∧
    ((moves (runCalls { since := since } calls)).IsChain fun a b => b.src = a.dst) ∧
    replay .staged (moves (runCalls { since := since } calls)) =
      some (runCalls { since := since } calls).state := by
  have hrecorded := recorded_run since calls
  generalize runCalls { since := since } calls = m at hrecorded
  refine ⟨fun before e mid after hsplit he => ?_, fun call hillegal => ⟨?_, fun hback => ?_⟩,
    hrecorded.numbered, hrecorded.joined, hrecorded.replayed⟩
  · have hchain := entered_chain hrecorded
    rw [hsplit, show before ++ e :: (mid ++ .running :: after) =
      before ++ ((e :: mid ++ [.running]) ++ after) by simp] at hchain
    exact wholeWayUp_of_chain hchain.right_of_append.left_of_append he
  · exact runCall_refused hillegal
  · obtain ⟨m', made, hunmoved, hprefix, hrun⟩ := runCall_refused hillegal
    rw [hback, List.prefix_nil] at hprefix
    rw [hrun, hprefix]
    simpa [runCalls] using hunmoved

end Taramandal.Gcs.LifecycleRuns
