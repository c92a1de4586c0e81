import Taramandal.Gcs.Fleet
import Taramandal.Gcs.TwoStep

/-! # The launch request and its gates (`main.py`, `launch_fleet`)

The lifecycle, the checklist and the mission gate are asked one after the other,
and the checklist consumes its confirmations when it is asked. A request that
only the mission gate refuses has spent them, and the trail has it authorized;
every other refusal leaves all as it was (`refusal_untouched_iff`). -/
namespace Taramandal.Gcs.LaunchRequest

open Lib.Dict Lib.Hoare Lib.Run Gcs.FleetFsm Gcs.State Gcs.Launch Gcs.LaunchGate Gcs.Handlers
open Gcs.Fleet Gcs.Preflight Gcs.Confirmations Gcs.TwoStep

/-- What the checklist reads beside the manager's state: how many ports it was
given, and what vehicles report of their cells and the mission they hold. -/
structure Reported where
  ports : Nat
  cellVoltages : Nat → Option (List ℚ) := fun _ => none
  missionHash : Nat → Option String := fun _ => none

/-- The fleet as `evaluate_manager` reads it. -/
def fleetView (r : Reported) (m : DroneManager) : FleetView where
  telemetry := m.drones.map fun d =>
    (d, { tel := m.telemetry d
          batteryCellVoltages := r.cellVoltages d
          missionHash := r.missionHash d })
  expectedDrones := r.ports
  trajectory := m.activeTrajectory
  geofenceRadiusM := m.geofenceRadius

/-- `launch_fleet`, with the engine it asks. What the engine raises is nobody's to
catch. -/
def launchFleet (setup : Setup) (w : World) (c : EngineConfig) (r : Reported) (m : DroneManager)
    (faults : Faults) (operator : String) (e : Engine) : Engine × Handled :=
  if setup.flightBlocked then (e, m, [], hardwareRefusal "launch")
  else if m.singleDroneSequenceActive ≠ [] then (e, m, [], benchRefusal m "launch the fleet")
  else
    match m.fsm.check .launch with
    | .error _ => (e, refuseCommand m faults .launch operator "POST /api/launch")
    | .ok _ =>
      match outcome (authorizeLaunch w c (fleetView r m) operator) e with
      | (.error _, e) => (e, m, [], .error 500 "Internal Server Error")
      | (.ok decision, e) =>
        (e,
          if !decision.permitted then (m, [], .error 412 "Launch refused: pre-arm gates are red.")
          else
            match missionGate setup m with
            | .error status detail => (m, [], .error status detail)
            | .ok =>
              applied m faults .launch operator "POST /api/launch" fun m =>
                (startLaunch m (some decision.droneIds)
                  (RuleId.ekfHealth.id ∉ decision.overriddenRules) true, [], .ok))

variable {setup : Setup} {w : World} {c : EngineConfig} {r : Reported} {m : DroneManager}

/-- What the engine decided, as the handler of the station takes it. -/
def Decision.given (d : Decision) : Option (List Nat × Bool) :=
  if d.permitted then some (d.droneIds, decide (RuleId.ekfHealth.id ∉ d.overriddenRules)) else none

section

variable (setup : Setup) (w : World) (c : EngineConfig) (r : Reported) (m : DroneManager)
  (faults : Faults) (operator : String) (e : Engine)

/-- The request is the station's launch request under the engine's decision, or
the engine raised. -/
lemma handled_eq : (∃ decision, (launchFleet setup w c r m faults operator e).2 =
        Handlers.launchFleet setup m faults operator decision) ∨
      (launchFleet setup w c r m faults operator e).2 =
        (m, [], .error 500 "Internal Server Error") := by
  by_cases hblocked : setup.flightBlocked = true
  · exact .inl ⟨none, by simp only [launchFleet, Handlers.launchFleet, hblocked, if_true]⟩
  by_cases hbench : m.singleDroneSequenceActive ≠ []
  · exact .inl ⟨none, by simp [launchFleet, Handlers.launchFleet, hblocked, hbench]⟩
  cases hcheck : m.fsm.check .launch with
  | error _ =>
    exact .inl ⟨none, by simp [launchFleet, Handlers.launchFleet, hblocked, hbench, hcheck, checked]⟩
  | ok _ =>
    cases hasked : outcome (authorizeLaunch w c (fleetView r m) operator) e with
    | mk v e' =>
      cases v with
      | error _ => exact .inr (by simp [launchFleet, hblocked, hbench, hcheck, hasked])
      | ok d =>
        refine .inl ⟨Decision.given d, ?_⟩
        simp only [launchFleet, Handlers.launchFleet, hblocked, hbench, hcheck, hasked, checked,
          Decision.given]
        cases d.permitted <;> rfl

lemma station_untouched (h : (launchFleet setup w c r m faults operator e).2.2.2 ≠ .ok) :
    AuditOnly m (launchFleet setup w c r m faults operator e).2.1 := by
  rcases handled_eq setup w c r m faults operator e with ⟨decision, heq⟩ | heq
  · rw [heq] at h ⊢
    rcases launchFleet_cases setup m faults operator decision with
      hrefused | ⟨_, _, _, _, _, _, _, hstarted⟩
    · exact hrefused.audit
    · rw [hstarted] at h
      exact absurd rfl h
  · rw [heq]
    exact .refl m

end

/-! ## What is confirmed, and what the gates make of it -/

/-- A confirmation of the kind that has not run out at `now`. -/
def activeAt (e : Engine) (now : ℚ) (k : Kind) : Option Active :=
  (find e.active k).filter fun a => now ≤ a.expiresAt

/-- What is confirmed when the request is over is what would have been without it. -/
def SameConfirmations (reading : Nat → ℚ) (e e' : Engine) : Prop :=
  ∀ now, reading e'.reads ≤ now → ∀ k, activeAt e' now k = activeAt e now k

variable {e : Engine} {k : Kind} {α : Type}

lemma activeAt_none (h : find e.active k = none) (now : ℚ) : activeAt e now k = none := by
  rw [activeAt, h]
  rfl

variable {a : Active} {x : EngineM α} {operator : String}

lemma activeAt_late {now : ℚ} (h : find e.active k = some a)
    (hlate : a.expiresAt < now) : activeAt e now k = none := by
  rw [activeAt, h, Option.filter_some, if_neg]
  simpa using hlate

lemma activeAt_live {now : ℚ} (h : find e.active k = some a)
    (hlive : now ≤ a.expiresAt) : activeAt e now k = some a := by
  rw [activeAt, h, Option.filter_some, if_pos]
  simpa using hlive

lemma activeAt_none_mono {t now : ℚ} (h : activeAt e t k = none)
    (hle : t ≤ now) : activeAt e now k = none := by
  cases ha : find e.active k with
  | none => exact activeAt_none ha now
  | some a =>
    refine activeAt_late ha (lt_of_lt_of_le ?_ hle)
    by_contra hlive
    rw [activeAt_live ha (not_lt.mp hlive)] at h
    cases h

section

variable (hclock : Monotone w.clock)

include hclock

lemma Lapse.sameConfirmations {e e' : Engine} (h : Lapse w e e') :
    SameConfirmations w.clock e e' := by
  intro now hnow k
  cases ha : find e.active k with
  | none =>
    rw [activeAt_none ha]
    refine activeAt_none (Option.eq_none_iff_forall_ne_some.mpr fun a' ha' => ?_) now
    rw [h.active k a' ha'] at ha
    cases ha
  | some a =>
    obtain hkept | ⟨n, -, hn, hlate⟩ := h.lapsed k a ha
    · rw [activeAt, activeAt, ha, hkept]
    · have hout : a.expiresAt < now := hlate.trans_le ((hclock hn.le).trans hnow)
      rw [activeAt_late ha hout]
      cases ha' : find e'.active k with
      | none => exact activeAt_none ha' now
      | some a' =>
        obtain rfl := Option.some.inj ((h.active k a' ha').symm.trans ha)
        exact activeAt_late ha' hout

variable {e₀ e₁ : Engine}

lemma Lapse.swept (h : Lapse w e₀ e₁) {n : Nat} (hreads : e₁.reads = n + 1)
    (hfresh : Fresh (w.clock n) e₁) (k : Kind) : find e₁.active k = activeAt e₀ (w.clock n) k := by
  cases ha₁ : find e₁.active k with
  | some a => exact (activeAt_live (h.active k a ha₁) (hfresh.active k a ha₁)).symm
  | none =>
    cases ha : find e₀.active k with
    | none => exact (activeAt_none ha _).symm
    | some a =>
      obtain hkept | ⟨m, -, hm, hlate⟩ := h.lapsed k a ha
      · rw [ha₁] at hkept
        cases hkept
      · rw [hreads] at hm
        exact (activeAt_late ha (hlate.trans_le (hclock (Nat.le_of_lt_succ hm)))).symm

lemma Judged.active {fleet : FleetView} {report : Report}
    (h : Judged w c fleet e₀ report e₁) (k : Kind) :
    find e₁.active k = activeAt e₀ (w.clock (e₀.reads + 1)) k :=
  Lapse.swept hclock h.lapse h.reads h.fresh k

end

/-- Whether the gates permit a launch that is asked for now. -/
def permits (w : World) (c : EngineConfig) (fleet : FleetView) (e : Engine) : Bool :=
  let confirmed := activeAt e (w.clock (e.reads + 1))
  (judge c (((confirmed .override).map Active.rules).getD []) (confirmed .latch)
    (w.clock (e.reads + 2)) fleet).launchPermitted

lemma Judged.permits (hclock : Monotone w.clock) {fleet : FleetView} {e₀ e₁ : Engine}
    {report : Report} (h : Judged w c fleet e₀ report e₁) :
    report.launchPermitted = LaunchRequest.permits w c fleet e₀ := by
  rw [h.report, overriddenAt, Judged.active hclock h, Judged.active hclock h]
  rfl

/-- Whatever the state, it raises only where an entry cannot be written. -/
def WritesOnly (w : World) {α : Type} (x : EngineM α) : Prop :=
  Triple (fun _ => True) x (fun _ _ => True) (fun _ _ => ∃ n, w.auditFails n = true)

lemma WritesOnly.bind {β : Type} {f : α → EngineM β} (hx : WritesOnly w x)
    (hf : ∀ a, WritesOnly w (f a)) : WritesOnly w (x >>= f) :=
  Triple.bind hx hf

lemma WritesOnly.pure (a : α) : WritesOnly w (Pure.pure a) := fun _ _ => trivial

lemma WritesOnly.get : WritesOnly w (get : EngineM Engine) := fun _ _ => trivial

lemma WritesOnly.modify (g : Engine → Engine) : WritesOnly w (modify g : EngineM Unit) :=
  fun _ _ => trivial

lemma WritesOnly.ite {p : Prop} [Decidable p] {y : EngineM α} (hx : WritesOnly w x)
    (hy : WritesOnly w y) : WritesOnly w (if p then x else y) :=
  Triple.ite (fun _ => hx) fun _ => hy

lemma WritesOnly.each {body : α → EngineM Unit} (h : ∀ a, WritesOnly w (body a))
    (as : List α) : WritesOnly w (each body as) :=
  Triple.each (I := fun _ _ => True) (fun a _ => h a) as

lemma record_writesOnly (entry : TrailEntry) : WritesOnly w (record w entry) := by
  intro e _
  rw [outcome_record]
  by_cases hfails : w.auditFails e.trail.length = true
  · simp only [hfails, if_true]
    exact ⟨_, hfails⟩
  · simp only [hfails]
    trivial

lemma clock_writesOnly : WritesOnly w (clock w) := fun _ _ => trivial

lemma expire_writesOnly : WritesOnly w (expire w c) := by
  have hpending : ∀ now x, WritesOnly w (expirePending w c now x) := fun now x =>
    .ite (.bind (.modify _) fun _ => record_writesOnly _) (.pure _)
  have hactive : ∀ now x, WritesOnly w (expireActive w c now x) := fun now x =>
    .ite (.bind (.modify _) fun _ => record_writesOnly _) (.pure _)
  refine .bind clock_writesOnly fun now => .bind .get fun e => ?_
  refine .bind (.each (hpending now) _) fun _ => .bind .get fun e => ?_
  exact .each (hactive now) _

lemma overriddenRules_writesOnly : WritesOnly w (overriddenRules w c) :=
  .bind expire_writesOnly fun _ => .bind .get fun _ => .pure _

lemma confirmationState_writesOnly : WritesOnly w (Confirmations.confirmationState w c) :=
  .bind expire_writesOnly fun _ => .bind clock_writesOnly fun _ => .bind .get fun _ => .pure _

lemma evaluate_writesOnly (fleet : FleetView) :
    WritesOnly w (Confirmations.evaluate w c fleet) := by
  refine .bind expire_writesOnly fun _ => .bind overriddenRules_writesOnly fun rules => ?_
  refine .bind clock_writesOnly fun now => .bind .get fun e => ?_
  exact .bind confirmationState_writesOnly fun _ => .pure _

lemma authorizeLaunch_writesOnly (fleet : FleetView) (operator : String) :
    WritesOnly w (Confirmations.authorizeLaunch w c fleet operator) := by
  refine .bind .get fun e => .bind (evaluate_writesOnly fleet) fun report => ?_
  refine .ite ?_ (.bind (record_writesOnly _) fun _ => .pure _)
  refine .bind overriddenRules_writesOnly fun rules => .bind ?_ fun _ => .pure _
  exact .bind (record_writesOnly _) fun _ => .bind (.modify _) fun _ => .modify _

/-! ## What a request comes to -/

def Asks (setup : Setup) (m : DroneManager) : Prop :=
  setup.flightBlocked = false ∧ m.singleDroneSequenceActive = [] ∧
    m.fsm.state ∈ (commandRules .launch).allowedFrom

/-- How far it got, what became of the engine, and the answer. -/
inductive Answered (setup : Setup) (w : World) (c : EngineConfig) (r : Reported) (m : DroneManager)
    (e e' : Engine) (answer : Response) : Prop where
  | early (blocked : ¬ Asks setup m) (same : e' = e)
  | raised (fails : ∃ n, w.auditFails n = true) (state : Interrupted w e e')
      (status : ∃ detail, answer = .error 500 detail)
  | red (gates : permits w c (fleetView r m) e = false) (lapse : Lapse w e e')
      (status : ∃ detail, answer = .error 412 detail)
  | green (asks : Asks setup m) (gates : permits w c (fleetView r m) e = true) (e₂ : Engine)
      (lapse : Lapse w e e₂) (reads : e₂.reads = e.reads + 6) (entry : TrailEntry)
      (recorded : entry.event = launchAuthorized) (state : e' = launchedFrom w e e₂ entry)
      (mission : answer = missionGate setup m)

lemma launchFleet_answered (setup : Setup) (c : EngineConfig) (r : Reported) (m : DroneManager)
    (hclock : Monotone w.clock) (faults : Faults) (operator : String) (e : Engine) :
    Answered setup w c r m e (launchFleet setup w c r m faults operator e).1
      (launchFleet setup w c r m faults operator e).2.2.2 := by
  by_cases hasks : Asks setup m
  · obtain ⟨hopen, hbench, hlegal⟩ := hasks
    have hcheck : m.fsm.check .launch = .ok () := by simp [FleetStateMachine.check, hlegal]
    have hask := (authorizeLaunch_spec (w := w) (c := c) (fleetView r m) operator e).and
      (authorizeLaunch_writesOnly (fleetView r m) operator) e ⟨rfl, trivial⟩
    unfold launchFleet
    rw [if_neg (by simp [hopen]), if_neg (by simp [hbench])]
    simp only [hcheck]
    generalize outcome (authorizeLaunch w c (fleetView r m) operator) e = asked at hask ⊢
    obtain ⟨v, e'⟩ := asked
    cases v with
    | error _ => exact .raised hask.2 hask.1 ⟨_, rfl⟩
    | ok d =>
      cases hask.1 with
      | refused e₁ judged red permitted lapse =>
        simp only [permitted, Bool.not_false, if_true]
        exact .red (Judged.permits hclock judged ▸ red) (judged.lapse.trans lapse) ⟨_, rfl⟩
      | launched e₁ e₂ judged green permitted lapse reads entry recorded state =>
        simp only [permitted, Bool.not_true, Bool.false_eq_true, if_false]
        refine .green ⟨hopen, hbench, hlegal⟩ (Judged.permits hclock judged ▸ green) e₂
          (judged.lapse.trans lapse) reads entry recorded state ?_
        cases hmission : missionGate setup m with
        | error status detail => rfl
        | ok =>
          -- the lifecycle still allows it, so the launch starts
          simp only [applied, FleetStateMachine.apply_of_allowed operator "POST /api/launch" m.time
            hlegal (t := .prearm) rfl]
  · refine .early hasks ?_
    unfold launchFleet
    by_cases hopen : setup.flightBlocked = true
    · rw [if_pos hopen]
    rw [if_neg hopen]
    by_cases hbench : m.singleDroneSequenceActive ≠ []
    · rw [if_pos hbench]
    rw [if_neg hbench]
    cases hcheck : m.fsm.check .launch with
    | error _ => rfl
    | ok _ =>
      refine absurd ⟨?_, not_not.mp hbench, FleetStateMachine.check_ok hcheck⟩ hasks
      exact Bool.not_eq_true _ ▸ hopen

lemma missionGate_status {status : Nat} {detail : String}
    (h : missionGate setup m = .error status detail) : status = 409 ∨ status = 500 := by
  unfold missionGate at h
  by_cases hasked : (m.activeTrajectory.isSome || m.stagedShow.isSome) = true
  · rw [if_pos hasked] at h
    cases hgate : launchGate setup m with
    | error e =>
      rw [hgate] at h
      exact .inr (Response.error.inj h).1.symm
    | ok gate =>
      rw [hgate] at h
      by_cases hok : gate.ok = true
      · simp [hok] at h
      · simp only [hok] at h
        exact .inl (Response.error.inj h).1.symm
  · rw [if_neg hasked] at h
    cases h

/-! ## A refused launch -/

/-- A request left the station, what is confirmed and the launches on record as
they were. -/
structure Untouched (reading : Nat → ℚ) (m : DroneManager) (e : Engine) (m' : DroneManager)
    (e' : Engine) : Prop where
  station : AuditOnly m m'
  confirmations : SameConfirmations reading e e'
  trail : ∃ new, e'.trail = e.trail ++ new ∧ ∀ x ∈ new, x.event ≠ launchAuthorized

/-- A refusal, 409 or 412, leaves all as it was, and only a launch that starts
consumes what was confirmed. -/
def Keeps (reading : Nat → ℚ) (m : DroneManager) (e : Engine) (result : Engine × Handled) : Prop :=
  (∀ status detail, result.2.2.2 = .error status detail → status = 409 ∨ status = 412 →
    Untouched reading m e result.2.1 result.1) ∧
  (result.2.2.2 ≠ .ok → SameConfirmations reading e result.1)

/-- The gate that is asked last has nothing to say against a launch the checklist
permits. If it fails instead, it fails where nothing is confirmed. -/
def LastGateOpen (setup : Setup) (w : World) (c : EngineConfig) (r : Reported) (m : DroneManager)
    (e : Engine) : Prop :=
  Asks setup m → permits w c (fleetView r m) e = true → ∀ status detail,
    missionGate setup m = .error status detail →
      status = 500 ∧ ∀ k, activeAt e (w.clock (e.reads + 6)) k = none

lemma activeAt_launchedFrom (e₀ e₂ : Engine) (entry : TrailEntry) (now : ℚ) (k : Kind) :
    activeAt (launchedFrom w e₀ e₂ entry) now k = none := by
  refine activeAt_none ?_ now
  cases k with
  | latch => exact (find_remove_ne _ (by decide)).trans (find_remove_self _ _)
  | override => exact find_remove_self _ _

lemma keeps_of_lastGateOpen
    (hclock : Monotone w.clock) {faults : Faults} (h : LastGateOpen setup w c r m e) :
    Keeps w.clock m e (launchFleet setup w c r m faults operator e) := by
  have hstation := station_untouched setup w c r m faults operator e
  have hanswered := launchFleet_answered setup c r m hclock faults operator e
  generalize launchFleet setup w c r m faults operator e = result at hstation hanswered ⊢
  obtain ⟨e', m', sent, answer⟩ := result
  have hlapse : Lapse w e e' → Keeps w.clock m e (e', m', sent, answer) := by
    intro hl
    have hsame := Lapse.sameConfirmations hclock hl
    refine ⟨fun status detail hanswer _ => ⟨hstation ?_, hsame, hl.trail⟩, fun _ => hsame⟩
    rw [show answer = _ from hanswer]
    exact nofun
  cases hanswered with
  | early blocked same =>
    obtain rfl : e' = e := same
    exact hlapse (.refl e')
  | raised fails state status =>
    obtain ⟨e₂, trail, hl, rfl⟩ := state
    obtain ⟨detail, rfl⟩ := status
    have hsame := Lapse.sameConfirmations hclock hl
    refine ⟨fun status' detail' hanswer hrefused => ?_, fun _ => hsame⟩
    obtain ⟨rfl, -⟩ := Response.error.inj hanswer
    rcases hrefused with h | h <;> cases h
  | red gates lapse status => exact hlapse lapse
  | green asks gates e₂ lapse reads entry recorded state mission =>
    subst state
    cases hmission : missionGate setup m with
    | ok =>
      rw [hmission] at mission
      refine ⟨fun status detail hanswer _ => ?_, fun hne => absurd mission hne⟩
      cases mission.symm.trans hanswer
    | error status detail =>
      rw [hmission] at mission
      obtain ⟨rfl, hnone⟩ := h asks gates status detail hmission
      refine ⟨fun status' detail' hanswer hrefused => ?_, fun _ now hnow k => ?_⟩
      · obtain ⟨rfl, -⟩ := Response.error.inj (mission.symm.trans hanswer)
        rcases hrefused with h | h <;> cases h
      · rw [activeAt_launchedFrom]
        refine (activeAt_none_mono (hnone k) ?_).symm
        exact reads ▸ hnow

lemma lastGateOpen_of_keeps (hclock : Monotone w.clock)
    (hwrites : ∀ n, w.auditFails n = false) {faults : Faults}
    (h : Keeps w.clock m e (launchFleet setup w c r m faults operator e)) :
    LastGateOpen setup w c r m e := by
  intro hasks hgates status detail hmission
  have hanswered := launchFleet_answered setup c r m hclock faults operator e
  generalize launchFleet setup w c r m faults operator e = result at h hanswered
  obtain ⟨e', m', sent, answer⟩ := result
  cases hanswered with
  | early blocked same => exact absurd hasks blocked
  | raised fails state status =>
    obtain ⟨n, hn⟩ := fails
    rw [hwrites n] at hn
    cases hn
  | red gates lapse status =>
    rw [hgates] at gates
    cases gates
  | green asks gates e₂ lapse reads entry recorded state mission =>
    subst state
    have hanswer : answer = .error status detail := mission.trans hmission
    rcases missionGate_status hmission with rfl | rfl
    · -- the entry is on the trail
      exfalso
      obtain ⟨new, happ, hnew⟩ := (h.1 409 detail hanswer (.inl rfl)).trail
      obtain ⟨new₂, happ₂, -⟩ := lapse.trail
      have heq : e₂.trail ++ [entry] = e.trail ++ new := happ
      rw [happ₂, List.append_assoc] at heq
      refine hnew entry ?_ recorded
      rw [← List.append_cancel_left heq]
      simp
    · refine ⟨rfl, fun k => ?_⟩
      have hsame := h.2 (by rw [show answer = _ from hanswer]; exact nofun) (w.clock e₂.reads) le_rfl k
      rw [activeAt_launchedFrom, reads] at hsame
      exact hsame.symm

/-- A refused launch changes nothing, whatever writes fail, exactly if the gate
asked last does not undo what the checklist permitted. -/
theorem refusal_untouched_iff (hclock : Monotone w.clock) (faults : Faults) (operator : String)
    (e : Engine) :
    (∀ auditFails, Keeps w.clock m e
      (launchFleet setup { w with auditFails := auditFails } c r m faults operator e)) ↔
        LastGateOpen setup w c r m e := by
  constructor
  · intro h
    exact lastGateOpen_of_keeps (w := { w with auditFails := fun _ => false }) hclock
      (fun _ => rfl) (h fun _ => false)
  · intro h auditFails
    exact keeps_of_lastGateOpen (w := { w with auditFails := auditFails }) hclock h

/-! A bench day: one drone on its pad, a show loaded but not uploaded to it, and
an EKF that is not ready. -/

def benchDay : EngineConfig where
  profile := .engineering
  batteryCells := 4
  hashes := ⟨fun _ => "ab", fun _ => "cd"⟩
  confirmWindowS := 30
  holdS := 120

def loaded : DroneManager := { onPad with activeTrajectory := some hoverShow }

/-- With no override the gates are red, and the request leaves all as it was. -/
theorem refusal_untouched_iff_red : Keeps stage.clock loaded {}
    (launchFleet simSetup stage benchDay { ports := 1 } loaded {} "pilot" {}) := by
  have hred : permits stage benchDay (fleetView { ports := 1 } loaded) {} = false := by
    decide +kernel
  refine (refusal_untouched_iff stage_monotone {} "pilot" {}).mpr ?_ stage.auditFails
  intro _ hgates
  rw [hred] at hgates
  cases hgates

/-- With the EKF rule overridden they are green, and the request that is refused
for the upload has spent the override. -/
theorem override_spent : ∃ e os,
    run (step stage benchDay) {} [.requestOverride ["ekf_health"] "bench test" "pilot",
      .confirmOverride "a" "pilot"] = some (e, os) ∧
      ¬ Keeps stage.clock loaded e
        (launchFleet simSetup stage benchDay { ports := 1 } loaded {} "pilot" e) := by
  obtain ⟨⟨e, os⟩, hrun, hrefused, hentry⟩ :
      ∃ r ∈ run (step stage benchDay) {} [.requestOverride ["ekf_health"] "bench test" "pilot",
        .confirmOverride "a" "pilot"],
      (launchFleet simSetup stage benchDay { ports := 1 } loaded {} "pilot" r.1).2.2.2 = .error 409
        ("No show has been uploaded to the fleet. Upload it " ++
          "(POST /api/upload-mission) before arming.") ∧
      ((launchFleet simSetup stage benchDay { ports := 1 } loaded {} "pilot" r.1).1.trail.drop
        r.1.trail.length).any (·.event = launchAuthorized) := by decide +kernel
  refine ⟨e, os, hrun, fun hkeeps => ?_⟩
  obtain ⟨new, happ, hnew⟩ := (hkeeps.1 409 _ hrefused (.inl rfl)).trail
  rw [happ, List.drop_left] at hentry
  obtain ⟨x, hx, hevent⟩ := List.any_eq_true.mp hentry
  exact hnew x hx (of_decide_eq_true hevent)

end Taramandal.Gcs.LaunchRequest
