import Taramandal.Gcs.BenchSequence

/-! # Operator takeover

A pilot who takes the drone over is seen by a look at the flight mode, and the
bench sequence looks at it only at the ticks of its polling loops. What it does
between two looks, at the end of a loop's time, after a cancellation, or in
`_safe_recover`, it does over the pilot. From a takeover on it is silent exactly
if each of its steps is one that looks first, or has nothing to send
(`silent_iff`). -/
namespace Taramandal.Gcs.Takeover

open Lib.Run Gcs.State Gcs.Launch Gcs.Fleet Gcs.BenchSequence

/-- A pilot's mode: one other than OFFBOARD after the sequence has seen OFFBOARD
(once it has left OFFBOARD itself, one its own landing cannot bring about), or
one its own landing cannot bring about after it has commanded LAND. -/
def PilotsMode (h : Hover) (b : Bench) : Prop :=
  let mode := (b.station.telemetry h.droneId).flightMode
  VehicleCall.land ∈ b.sequence.sent ∧ mode ∉ landingOwnModes ∨
    b.sequence.offboardSeen = true ∧ mode ≠ "OFFBOARD" ∧
      (VehicleCall.offboardStop ∈ b.sequence.sent → mode ∉ landingOwnModes)

instance (h : Hover) (b : Bench) : Decidable (PilotsMode h b) :=
  inferInstanceAs (Decidable (_ ∨ _))

/-- What the link, the heartbeat and the landed state say of the ground, if they
are fresh enough to say anything. -/
def groundState (m : DroneManager) (d : Nat) : Option Bool :=
  (isConfirmedOnGround m d "").toOption

/-- The step looks at the flight mode before it sends anything, or it comes to
its end, or a fleet emergency keeps it from commanding the drone. -/
def looksFirst (h : Hover) (b : Bench) : BenchLabel → Bool
  | .station _ => true
  | .cancel =>
    match b.sequence.pc with
    | .arming => true
    | .awaitingArm _ => true
    | .recovering _ after => !after.inFlight || inEmergency b.station
    | .finished _ => true
    | .cancelled => true
    | _ => inEmergency b.station
  | .wake reply =>
    let m := b.station
    let settled := (m.telemetry h.droneId).armed || (groundState m h.droneId).isSome
    let disarms := (m.telemetry h.droneId).armed && groundState m h.droneId = some true
    match b.sequence.pc with
    | .climbing climbStart _ _ => inEmergency m || m.time - climbStart < climbCeilingS h
    | .stoppingOffboard => false
    | .landing => inEmergency m || (replyError reply).isNone && settled
    | .awaitingTouchdown deadline =>
      if m.time < deadline then inEmergency m || settled
      else inEmergency m && groundState m h.droneId ≠ some true
    | .disarming => inEmergency m || settled
    | .awaitingDisarm deadline => inEmergency m || m.time < deadline && settled
    | .recovering .stopping _ => false
    | .recovering .landing _ => !disarms
    | .recovering (.waiting deadline) _ => !(m.time < deadline && disarms)
    | _ => true

section Segments

variable (h : Hover) (m : DroneManager) (q : Sequence)

lemma isConfirmedOnGround_cases (d : Nat) (context : String) :
    (groundState m d = none ∧ ∃ e, isConfirmedOnGround m d context = .error (.runtime e)) ∨
      ∃ g, groundState m d = some g ∧ isConfirmedOnGround m d context = .ok g := by
  unfold groundState isConfirmedOnGround
  dsimp only
  split
  · exact .inl ⟨rfl, _, rfl⟩
  · split
    · exact .inl ⟨rfl, _, rfl⟩
    · split
      · exact .inl ⟨rfl, _, rfl⟩
      · exact .inr ⟨_, rfl, rfl⟩

lemma failPhase_silent (step raised : String) (e : SequenceError) :
    (failPhase m q step raised e).2 = [] ↔ inEmergency m = true ∨ e.isTakeover = true := by
  unfold failPhase startRecovery Sequence.send Sequence.await
  dsimp only
  split
  next hs => simp_all
  next hs => simpa [or_iff_not_imp_left] using hs

lemma checkLandingTakeover_error {d : Nat} {tel : Telemetry}
    (hmode : tel.flightMode ∉ landingOwnModes) :
    ∃ e, checkLandingTakeover d tel = .error (.takeover e) := by
  unfold checkLandingTakeover
  rw [if_neg (by simpa using hmode)]
  exact ⟨_, rfl⟩

lemma checkOperatorTakeover_error {d : Nat} {tel : Telemetry} {seen : Bool}
    (hseen : seen = true) (hmode : tel.flightMode ≠ "OFFBOARD") :
    ∃ e, checkOperatorTakeover d tel seen = .error (.takeover e) := by
  unfold checkOperatorTakeover
  rw [if_neg hmode, if_pos hseen]
  exact ⟨_, rfl⟩

/-- With the drone disarmed and the ground unknown, a look raises; otherwise it
finds the drone down, or goes on. -/
lemma touchedDown_cases (d : Nat) (context : String) :
    ((m.telemetry d).armed = false ∧ groundState m d = none ∧
        ∃ e, touchedDown m d context = .error (.runtime e)) ∨
      ((m.telemetry d).armed || (groundState m d).isSome) = true ∧
        ∃ g, touchedDown m d context = .ok g := by
  unfold touchedDown
  split
  next harmed => exact .inr ⟨by simp [harmed], _, rfl⟩
  next harmed =>
    rcases isConfirmedOnGround_cases m d context with ⟨hg, e, he⟩ | ⟨g, hg, he⟩
    · exact .inl ⟨by simpa using harmed, hg, e, he⟩
    · exact .inr ⟨by simp [hg], g, he⟩

lemma touchdownPoll_silent (deadline : ℚ)
    (hmode : (m.telemetry h.droneId).flightMode ∉ landingOwnModes) :
    (touchdownPoll h m q deadline).2 = [] ↔ (if m.time < deadline then
        inEmergency m || ((m.telemetry h.droneId).armed || (groundState m h.droneId).isSome)
      else inEmergency m && groundState m h.droneId ≠ some true) = true := by
  unfold touchdownPoll
  by_cases ht : m.time < deadline
  · rw [if_pos ht, if_pos ht]
    rcases touchedDown_cases m h.droneId "while awaiting landing/disarm confirmation" with
      ⟨harmed, hg, e, he⟩ | ⟨hsettled, g, he⟩
    · rw [he, harmed, hg]
      simp [failLanding, failPhase_silent, SequenceError.isTakeover]
    · rw [he, hsettled]
      obtain ⟨e, htakeover⟩ := checkLandingTakeover_error (d := h.droneId) hmode
      cases g with
      | true => simp [finishLanding, Sequence.await]
      | false => simp [htakeover, failLanding, failPhase_silent, SequenceError.isTakeover]
  · rw [if_neg ht, if_neg ht]
    rcases isConfirmedOnGround_cases m h.droneId "before the fallback disarm attempt" with
      ⟨hg, e, he⟩ | ⟨g, hg, he⟩
    · rw [he, hg]
      simp [failLanding, failPhase_silent, SequenceError.isTakeover]
    · rw [he, hg]
      cases g with
      | true => simp [Sequence.send]
      | false => simp [disarmUnconfirmed, failLanding, failPhase_silent, SequenceError.isTakeover]

lemma disarmPoll_silent (deadline : ℚ) : (disarmPoll h m q deadline).2 = [] ↔
      (inEmergency m || m.time < deadline &&
        ((m.telemetry h.droneId).armed || (groundState m h.droneId).isSome)) = true := by
  unfold disarmPoll
  by_cases ht : m.time < deadline
  · rw [if_pos ht]
    rcases touchedDown_cases m h.droneId "during disarm confirmation" with
      ⟨harmed, hg, e, he⟩ | ⟨hsettled, g, he⟩
    · rw [he, harmed, hg]
      simp [failLanding, failPhase_silent, SequenceError.isTakeover]
    · rw [he, hsettled]
      cases g with
      | true => simp [finishLanding, Sequence.await, ht]
      | false => simp [Sequence.await, ht]
  · rw [if_neg ht]
    simp [disarmUnconfirmed, failLanding, failPhase_silent, SequenceError.isTakeover, ht]

lemma recoverPoll_silent (deadline : ℚ) (after : Recovered) :
    (recoverPoll m h.droneId q deadline after).2 = [] ↔
      (!(m.time < deadline && ((m.telemetry h.droneId).armed &&
        groundState m h.droneId = some true))) = true := by
  have hend : (endRecovery q after).2 = [] := by
    unfold endRecovery
    split <;> rfl
  unfold recoverPoll
  by_cases ht : m.time < deadline
  · rw [if_pos ht]
    rcases isConfirmedOnGround_cases m h.droneId "during safe recovery" with
      ⟨hg, e, he⟩ | ⟨g, hg, he⟩
    · rw [he, hg]
      simp [hend]
    · rw [he, hg]
      cases g with
      | true =>
        cases harmed : (m.telemetry h.droneId).armed with
        | true => simp [Sequence.send, ht]
        | false => simp [hend]
      | false => simp [Sequence.await]
  · rw [if_neg ht]
    simp [hend, ht]

/-- An emergency, or a pilot in the sequence's own OFFBOARD phase, ends a phase
without a command. -/
lemma yield_silent (instead step raised : String)
    (hseen : q.offboardSeen = true) (hmode : (m.telemetry h.droneId).flightMode ≠ "OFFBOARD")
    (go : Bool → Segment) :
    (match yieldToEmergency m h.droneId instead with
      | .error e => failPhase m q step raised e
      | .ok _ =>
        match checkOperatorTakeover h.droneId (m.telemetry h.droneId) q.offboardSeen with
        | .error e => failPhase m q step raised e
        | .ok seen => go seen).2 = [] := by
  unfold yieldToEmergency
  split
  next e he =>
    split at he
    next hemergency => cases he; exact (failPhase_silent ..).mpr (.inl hemergency)
    · cases he
  · obtain ⟨e, htakeover⟩ := checkOperatorTakeover_error (d := h.droneId) hseen hmode
    rw [htakeover]
    exact (failPhase_silent ..).mpr (.inr rfl)

lemma climbPoll_silent (climbStart bestZ bestZAt : ℚ) (hseen : q.offboardSeen = true)
    (hmode : (m.telemetry h.droneId).flightMode ≠ "OFFBOARD") :
    (climbPoll h m q climbStart bestZ bestZAt).2 = [] ↔
      (inEmergency m || m.time - climbStart < climbCeilingS h) = true := by
  unfold climbPoll
  by_cases ht : m.time - climbStart < climbCeilingS h
  · rw [if_pos ht]
    simp only [ht, decide_true, Bool.or_true, iff_true]
    exact yield_silent h m q "continuing the climb" "HOVER" "Hover climb failed: " hseen hmode _
  · rw [if_neg ht]
    simp [failClimb, failPhase_silent, SequenceError.isTakeover, ht]

lemma startLanding_silent (hseen : q.offboardSeen = true)
    (hmode : (m.telemetry h.droneId).flightMode ≠ "OFFBOARD") :
    (startLanding h m q).2 = [] :=
  yield_silent h m q "commanding its own landing" "LANDING" "Landing failed: " hseen hmode
    fun _ => q.send .stoppingOffboard .offboardStop

lemma dwellPoll_silent (dwellStart : ℚ) (hseen : q.offboardSeen = true)
    (hmode : (m.telemetry h.droneId).flightMode ≠ "OFFBOARD") :
    (dwellPoll h m q dwellStart).2 = [] := by
  unfold dwellPoll
  split
  · exact yield_silent h m q "continuing the hover dwell" "HOVER_HOLD" "Hover dwell failed: "
      hseen hmode _
  · exact startLanding_silent h m (q.log "HOVER_HOLD_COMPLETE" "STABLE") hseen hmode

end Segments

/-! ## Where the sequence is -/

/-- Before its climb the sequence has seen nothing and left nothing; until its
landing it has not left OFFBOARD; from then on it has. -/
def Phased (q : Sequence) : Prop :=
  match q.pc with
  | .climbing _ _ _ => VehicleCall.offboardStop ∉ q.sent ∧ VehicleCall.land ∉ q.sent
  | .dwelling _ => VehicleCall.offboardStop ∉ q.sent ∧ VehicleCall.land ∉ q.sent
  | .stoppingOffboard => VehicleCall.offboardStop ∈ q.sent
  | .landing => VehicleCall.offboardStop ∈ q.sent
  | .awaitingTouchdown _ => VehicleCall.offboardStop ∈ q.sent
  | .disarming => True
  | .awaitingDisarm _ => True
  | .recovering _ _ => True
  | .finished _ => True
  | .cancelled => True
  | _ => q.offboardSeen = false ∧ VehicleCall.offboardStop ∉ q.sent ∧ VehicleCall.land ∉ q.sent

section

variable (h : Hover) (m : DroneManager) (q : Sequence)

lemma failPhase_phased (step raised : String) (e : SequenceError) :
    Phased (failPhase m q step raised e).1 := by
  unfold failPhase
  dsimp only
  split <;> trivial

lemma touchdownPoll_phased (deadline : ℚ) (hq : VehicleCall.offboardStop ∈ q.sent) :
    Phased (touchdownPoll h m q deadline).1 := by
  unfold touchdownPoll
  split
  · split
    · exact failPhase_phased ..
    · trivial
    · split
      · exact failPhase_phased ..
      · exact hq
  · split
    · exact failPhase_phased ..
    · trivial
    · exact failPhase_phased ..

lemma disarmPoll_phased (deadline : ℚ) : Phased (disarmPoll h m q deadline).1 := by
  unfold disarmPoll
  split
  · split
    · exact failPhase_phased ..
    · trivial
    · trivial
  · exact failPhase_phased ..

lemma endRecovery_phased (after : Recovered) : Phased (endRecovery q after).1 := by
  unfold endRecovery
  split <;> trivial

lemma recoverPoll_phased (d : Nat) (deadline : ℚ) (after : Recovered) :
    Phased (recoverPoll m d q deadline after).1 := by
  unfold recoverPoll
  split
  · split
    · exact endRecovery_phased ..
    · split
      · trivial
      · exact endRecovery_phased ..
    · trivial
  · exact endRecovery_phased ..

lemma stepRecover_phased (d : Nat) (after : Recovered) (pc : RecoverPc) :
    Phased (stepRecover m d q after pc).1 := by
  cases pc with
  | stopping => trivial
  | landing => exact recoverPoll_phased ..
  | waiting deadline => exact recoverPoll_phased ..
  | disarming => exact endRecovery_phased ..

lemma startLanding_phased : Phased (startLanding h m q).1 := by
  unfold startLanding
  split
  · exact failPhase_phased ..
  · split
    · exact failPhase_phased ..
    · exact List.mem_append_right _ (List.mem_singleton.mpr rfl)

variable (hq : VehicleCall.offboardStop ∉ q.sent ∧ VehicleCall.land ∉ q.sent)
include hq

lemma dwellPoll_phased (dwellStart : ℚ) : Phased (dwellPoll h m q dwellStart).1 := by
  unfold dwellPoll
  split
  · split
    · exact failPhase_phased ..
    · split
      · exact failPhase_phased ..
      · dsimp only
        split
        · exact failPhase_phased ..
        · exact hq
  · exact startLanding_phased ..

lemma climbAltitude_phased (climbStart bestZ bestZAt : ℚ) :
    Phased (climbAltitude h m q climbStart bestZ bestZAt).1 := by
  unfold climbAltitude
  dsimp only
  split
  · exact dwellPoll_phased h m (q.log "HOVER_REACHED" "HOLDING") hq _
  · split
    · exact hq
    · split
      · exact failPhase_phased ..
      · exact hq

lemma climbPoll_phased (climbStart bestZ bestZAt : ℚ) :
    Phased (climbPoll h m q climbStart bestZ bestZAt).1 := by
  unfold climbPoll
  split
  · split
    · exact failPhase_phased ..
    · split
      · exact failPhase_phased ..
      next seen _ =>
        dsimp only
        split
        · exact failPhase_phased ..
        · exact climbAltitude_phased h m { q with offboardSeen := seen } hq _ _ _
  · exact failPhase_phased ..

end

lemma not_mem_send {sent : List VehicleCall} {c x : VehicleCall} (h : x ∉ sent) (hne : x ≠ c) :
    x ∉ sent ++ [c] := by
  simp [h, hne]

def Grounded (q : Sequence) : Prop :=
  q.offboardSeen = false ∧ VehicleCall.offboardStop ∉ q.sent ∧ VehicleCall.land ∉ q.sent

lemma Grounded.send {q : Sequence} (h : Grounded q) {pc : SequencePc} {c : VehicleCall}
    (hstop : VehicleCall.offboardStop ≠ c) (hland : VehicleCall.land ≠ c) :
    Grounded (q.send pc c).1 :=
  ⟨h.1, not_mem_send h.2.1 hstop, not_mem_send h.2.2 hland⟩

lemma armPoll_phased (h : Hover) (m : DroneManager) {q : Sequence} (hq : Grounded q)
    (deadline : ℚ) : Phased (armPoll h m q deadline).1 := by
  unfold armPoll
  dsimp only
  split
  · split
    · trivial
    · split
      · exact Grounded.send (q := q.log "ARM" "ARMED") hq (by simp) (by simp)
      · exact hq
  · trivial

variable {r : Segment} {reply : Reply}

lemma reply_phased {m : DroneManager} {q : Sequence} {go : Segment} (hgo : Phased go.1)
    (hw : (match replyError reply with
      | some e => some (failClimb m q (.runtime e))
      | none => some go) = some r) : Phased r.1 := by
  cases hreply : replyError reply with
  | some e => rw [hreply] at hw; cases hw; exact failPhase_phased ..
  | none => rw [hreply] at hw; cases hw; exact hgo

lemma wake_phased {h : Hover} {m : DroneManager} {q : Sequence} (hq : Phased q)
    (hw : wake h m q reply = some r) : Phased r.1 := by
  unfold wake at hw
  unfold Phased at hq
  cases hpc : q.pc with
  | arming =>
    simp only [hpc] at hw hq
    cases hreply : replyError reply with
    | some e => rw [hreply] at hw; cases hw; trivial
    | none => rw [hreply] at hw; cases hw; exact armPoll_phased h m hq _
  | awaitingArm deadline =>
    simp only [hpc] at hw hq
    cases hw
    exact armPoll_phased h m hq _
  | settingInitial =>
    simp only [hpc] at hw hq
    have hsend : Phased (q.send .startingOffboard .offboardStart).1 :=
      Grounded.send hq (by simp) (by simp)
    exact reply_phased hsend hw
  | startingOffboard =>
    simp only [hpc] at hw hq
    have hsend : Phased (q.send .settingTarget (.setPositionNed 0 0 (-h.targetAltM) 0)).1 :=
      Grounded.send hq (by simp) (by simp)
    exact reply_phased hsend hw
  | settingTarget =>
    simp only [hpc] at hw hq
    exact reply_phased (climbPoll_phased h m q hq.2 _ _ _) hw
  | climbing climbStart bestZ bestZAt =>
    simp only [hpc] at hw hq
    cases hw
    exact climbPoll_phased h m q hq _ _ _
  | dwelling dwellStart =>
    simp only [hpc] at hw hq
    cases hw
    exact dwellPoll_phased h m q hq _
  | stoppingOffboard =>
    simp only [hpc] at hw hq
    cases hw
    exact List.mem_append_left _ hq
  | landing =>
    simp only [hpc] at hw hq
    cases hreply : replyError reply with
    | some e => rw [hreply] at hw; cases hw; exact failPhase_phased ..
    | none => rw [hreply] at hw; cases hw; exact touchdownPoll_phased h m _ _ hq
  | awaitingTouchdown deadline =>
    simp only [hpc] at hw hq
    cases hw
    exact touchdownPoll_phased h m q _ hq
  | disarming =>
    simp only [hpc] at hw
    cases hw
    exact disarmPoll_phased ..
  | awaitingDisarm deadline =>
    simp only [hpc] at hw
    cases hw
    exact disarmPoll_phased ..
  | recovering pc after =>
    simp only [hpc] at hw
    cases hw
    exact stepRecover_phased ..
  | finished error => simp only [hpc] at hw; cases hw
  | cancelled => simp only [hpc] at hw; cases hw

lemma cancelFlight_phased (m : DroneManager) (q : Sequence) : Phased (cancelFlight m q).1 := by
  unfold cancelFlight
  split <;> trivial

lemma cancel_phased {m : DroneManager} {q : Sequence} (hc : cancel m q = some r) : Phased r.1 := by
  unfold cancel at hc
  split at hc
  · cases hc; trivial
  · cases hc; trivial
  · cases hc
    split
    · exact cancelFlight_phased m q
    · trivial
  · cases hc
  · cases hc
  · cases hc; exact cancelFlight_phased m q

variable {b b' : Bench} {os : List VehicleCall} {setup : Setup}

lemma benchStep_phased {h : Hover} {l : BenchLabel} (hb : Phased b.sequence)
    (hs : benchStep setup h b l = some (b', os)) : Phased b'.sequence := by
  cases l with
  | station l =>
    obtain ⟨_, -, he⟩ := Option.map_eq_some_iff.mp hs
    cases he
    exact hb
  | wake reply =>
    obtain ⟨_, hw, he⟩ := Option.map_eq_some_iff.mp hs
    cases he
    exact wake_phased hb hw
  | cancel =>
    obtain ⟨_, hc, he⟩ := Option.map_eq_some_iff.mp hs
    cases he
    exact cancel_phased hc

/-! ## One step, and every run -/

lemma startRecovery_sends (q : Sequence) (after : Recovered) : (startRecovery q after).2 ≠ [] := by
  simp [startRecovery, Sequence.send]

lemma cancelFlight_silent (m : DroneManager) (q : Sequence) :
    (cancelFlight m q).2 = [] ↔ inEmergency m = true := by
  unfold cancelFlight
  split
  next hs => simp [hs, Sequence.await]
  next hs => simp [hs, startRecovery_sends]

section

variable {h : Hover}

lemma wake_silent (hb : Phased b.sequence) (hpilot : PilotsMode h b)
    (hw : wake h b.station b.sequence reply = some r) :
    r.2 = [] ↔ looksFirst h b (.wake reply) = true := by
  unfold wake at hw
  unfold Phased at hb
  unfold looksFirst
  have hgrounded : ¬ Grounded b.sequence := by
    intro hg
    rcases hpilot with ⟨hland, -⟩ | ⟨hseen, -⟩
    · exact hg.2.2 hland
    · rw [hg.1] at hseen; cases hseen
  have hflying : VehicleCall.offboardStop ∉ b.sequence.sent ∧ VehicleCall.land ∉ b.sequence.sent →
      b.sequence.offboardSeen = true ∧
        (b.station.telemetry h.droneId).flightMode ≠ "OFFBOARD" := by
    intro hnone
    rcases hpilot with ⟨hland, -⟩ | ⟨hseen, hmode, -⟩
    · exact absurd hland hnone.2
    · exact ⟨hseen, hmode⟩
  have hlanding : VehicleCall.offboardStop ∈ b.sequence.sent →
      (b.station.telemetry h.droneId).flightMode ∉ landingOwnModes := by
    intro hstop
    rcases hpilot with ⟨-, hmode⟩ | ⟨-, -, hmode⟩
    · exact hmode
    · exact hmode hstop
  cases hpc : b.sequence.pc with
  | climbing climbStart bestZ bestZAt =>
    simp only [hpc] at hw hb
    cases hw
    exact climbPoll_silent h _ _ _ _ _ (hflying hb).1 (hflying hb).2
  | dwelling dwellStart =>
    simp only [hpc] at hw hb
    cases hw
    simpa using dwellPoll_silent h _ _ dwellStart (hflying hb).1 (hflying hb).2
  | stoppingOffboard =>
    simp only [hpc] at hw
    cases hw
    simp [Sequence.send]
  | landing =>
    simp only [hpc] at hw hb
    cases hreply : replyError reply with
    | some e =>
      rw [hreply] at hw
      cases hw
      simp [failLanding, failPhase_silent, SequenceError.isTakeover, hreply]
    | none =>
      rw [hreply] at hw
      cases hw
      have hsoon : b.station.time < b.station.time + 10 := by linarith
      rw [touchdownPoll_silent h _ _ _ (hlanding hb), if_pos hsoon]
      simp [hreply]
  | awaitingTouchdown deadline =>
    simp only [hpc] at hw hb
    cases hw
    exact touchdownPoll_silent h _ _ _ (hlanding hb)
  | disarming =>
    simp only [hpc] at hw
    cases hw
    have hsoon : b.station.time < b.station.time + 2 := by linarith
    rw [disarmPoll_silent]
    simp [hsoon]
  | awaitingDisarm deadline =>
    simp only [hpc] at hw
    cases hw
    exact disarmPoll_silent ..
  | recovering pc after =>
    simp only [hpc] at hw
    cases hw
    cases pc with
    | stopping => simp [stepRecover, Sequence.send]
    | landing =>
      have hsoon : b.station.time < b.station.time + 10 := by linarith
      simp only [stepRecover, recoverPoll_silent]
      simp [hsoon]
    | waiting deadline => exact recoverPoll_silent ..
    | disarming =>
      simp only [stepRecover, iff_true]
      unfold endRecovery
      split <;> rfl
  | finished error => simp only [hpc] at hw; cases hw
  | cancelled => simp only [hpc] at hw; cases hw
  | _ =>
    simp only [hpc] at hb
    exact absurd hb hgrounded

lemma cancel_silent (hc : cancel b.station b.sequence = some r) :
    r.2 = [] ↔ looksFirst h b .cancel = true := by
  unfold cancel at hc
  unfold looksFirst
  cases hpc : b.sequence.pc with
  | arming => simp only [hpc] at hc; cases hc; simp [Sequence.await]
  | awaitingArm deadline => simp only [hpc] at hc; cases hc; simp [Sequence.await]
  | recovering pc after =>
    simp only [hpc] at hc
    cases hc
    cases hflight : after.inFlight with
    | true => simp [cancelFlight_silent, hflight]
    | false => simp [Sequence.await, hflight]
  | finished error => simp only [hpc] at hc; cases hc
  | cancelled => simp only [hpc] at hc; cases hc
  | _ => simp only [hpc] at hc; cases hc; exact cancelFlight_silent ..

lemma benchStep_silent {l : BenchLabel} (hb : Phased b.sequence)
    (hpilot : PilotsMode h b) (hs : benchStep setup h b l = some (b', os)) :
    os = [] ↔ looksFirst h b l = true := by
  cases l with
  | station l =>
    obtain ⟨_, -, he⟩ := Option.map_eq_some_iff.mp hs
    cases he
    simp [looksFirst]
  | wake reply =>
    obtain ⟨_, hw, he⟩ := Option.map_eq_some_iff.mp hs
    cases he
    exact wake_silent hb hpilot hw
  | cancel =>
    obtain ⟨_, hc, he⟩ := Option.map_eq_some_iff.mp hs
    cases he
    exact cancel_silent hc

lemma run_silent {ls : List BenchLabel} (hb : Phased b.sequence)
    (hpilot : Along (benchStep setup h) (fun b _ => PilotsMode h b) b ls)
    (hrun : run (benchStep setup h) b ls = some (b', os)) :
    os = [] ↔ Along (benchStep setup h) (fun b l => looksFirst h b l = true) b ls := by
  induction ls generalizing b os with
  | nil =>
    cases hrun
    simp
  | cons l ls ih =>
    obtain ⟨mid, o, os', hs, hrest, rfl⟩ := run_cons.mp hrun
    have hstep := benchStep_silent hb hpilot.1 hs
    have hlater := ih (benchStep_phased hb hs) (hpilot.2 mid o hs) hrest
    rw [List.append_eq_nil_iff, hstep, hlater, along_cons]
    refine and_congr_right fun _ => ⟨fun hm m' o' hs' => ?_, fun hm => hm mid o hs⟩
    rw [hs] at hs'
    cases hs'
    exact hm

lemma startSequence_phased {m : DroneManager} {q : Sequence}
    (hstart : startSequence h m = .ok q) : Phased q := by
  unfold startSequence at hstart
  dsimp only at hstart
  split at hstart
  · cases hstart
  · split at hstart
    · cases hstart
    · split at hstart
      · cases hstart
      · cases hstart
        exact ⟨rfl, by simp, by simp⟩

end

/-- From the moment a pilot has the drone, and as long as he keeps it, the
sequence sends nothing exactly if every step it takes is one that looks at the
mode first. -/
theorem silent_iff {setup : Setup} {h : Hover} {init b b' : Bench} {before after : List BenchLabel}
    {sent os : List VehicleCall} (hstart : startSequence h init.station = .ok init.sequence)
    (hbefore : run (benchStep setup h) init before = some (b, sent))
    (hpilot : Along (benchStep setup h) (fun b _ => PilotsMode h b) b after)
    (hafter : run (benchStep setup h) b after = some (b', os)) :
    os = [] ↔ Along (benchStep setup h) (fun b l => looksFirst h b l = true) b after := by
  have hb : Phased b.sequence :=
    run_invariant (A := fun _ _ => True) (I := fun b => Phased b.sequence)
      (fun _ _ _ _ hb _ hs => benchStep_phased hb hs) (startSequence_phased hstart)
      (along_of_labels fun _ _ => trivial) hbefore
  exact run_silent hb hpilot hafter

def oneMetre : Hover := { droneId := 0, targetAltM := 1, hoverS := 5 }

def readyPad : DroneManager :=
  { onPad with telemetry := fun _ => { connected := true, linkUp := true, lastHeartbeat := some 0 } }

def benchReady : Bench :=
  { station := readyPad, sequence := { pc := .arming, steps := [("PREFLIGHT", "PASSED")], sent := [.arm] } }

/-- Up to the target, and then the pilot switches to POSCTL. -/
def takenOver : List BenchLabel :=
  [.wake .ok, .station (.telemetry 0 (.item (.armed true))), .wake .ok, .wake .ok, .wake .ok,
    .wake .ok, .station (.telemetry 0 (.item (.flightMode "OFFBOARD"))),
    .station (.telemetry 0 (.item (.positionVelocityNed 0 0 (-1)))), .wake .ok,
    .station (.telemetry 0 (.item (.flightMode "POSCTL")))]

/-- The next tick of the dwell sees it, and the sequence ends. -/
theorem silent_next_tick : ∃ b sent b' os,
    run (benchStep simSetup oneMetre) benchReady takenOver = some (b, sent) ∧
      PilotsMode oneMetre b ∧ run (benchStep simSetup oneMetre) b [.wake .ok] = some (b', os) ∧
      os = [] := by
  obtain ⟨⟨b, sent⟩, hrun, ⟨b', os⟩, hafter, hpilot, hlooks⟩ :
      ∃ r ∈ run (benchStep simSetup oneMetre) benchReady takenOver,
      ∃ r' ∈ run (benchStep simSetup oneMetre) r.1 [.wake .ok],
      PilotsMode oneMetre r.1 ∧ looksFirst oneMetre r.1 (.wake .ok) := by decide +kernel
  have halong : Along (benchStep simSetup oneMetre) (fun b _ => PilotsMode oneMetre b) b
      [.wake .ok] := ⟨hpilot, fun _ _ _ => trivial⟩
  exact ⟨b, sent, b', os, hrun, hpilot, hafter,
    (silent_iff (by decide +kernel) hrun halong hafter).mpr ⟨hlooks, fun _ _ _ => trivial⟩⟩

/-- The sequence is cancelled before that tick: it takes the drone out of the
pilot's hands and lands it. -/
theorem cancelled_over_pilot : ∃ b sent b',
    startSequence oneMetre benchReady.station = .ok benchReady.sequence ∧
      run (benchStep simSetup oneMetre) benchReady takenOver = some (b, sent) ∧
      (b.station.telemetry 0).flightMode = "POSCTL" ∧
      Along (benchStep simSetup oneMetre) (fun b _ => PilotsMode oneMetre b) b
        [.cancel, .wake .ok] ∧
      run (benchStep simSetup oneMetre) b [.cancel, .wake .ok] =
        some (b', [.offboardStop, .land]) := by
  obtain ⟨⟨b, sent⟩, hrun, hmode, hpilot, ⟨b', os⟩, hafter, hos⟩ :
      ∃ r ∈ run (benchStep simSetup oneMetre) benchReady takenOver,
      (r.1.station.telemetry 0).flightMode = "POSCTL" ∧ Along (benchStep simSetup oneMetre)
      (fun b _ => PilotsMode oneMetre b) r.1 [.cancel, .wake .ok] ∧
      ∃ r' ∈ run (benchStep simSetup oneMetre) r.1 [.cancel, .wake .ok],
      r'.2 = [.offboardStop, .land] := by decide +kernel
  subst hos
  exact ⟨b, sent, b', by decide +kernel, hrun, hmode, hpilot, hafter⟩

end Taramandal.Gcs.Takeover
