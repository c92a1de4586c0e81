import Taramandal.Gcs.Fleet

/-! # Failed launches (`_launch_one`, `_check_climbs`, `_recover_failed_launch`)

One launch of a drone, with the tasks that judge it and bring it down, while the
rest of the station does anything. Every exit of `_launch_one` that disarms takes
the drone to be on its pad, and all but one know that it is: behind a climb
command that raised the drone may be in the air (`no_disarm_in_flight_iff`). -/
namespace Taramandal.Gcs.FailedLaunch

open Lib.Run Core.Safety Gcs.State Gcs.Launch Gcs.Lifecycle Gcs.Fleet

/-- A launch of one drone: where `_launch_one` is, and what these tasks have
called on vehicles since it began. -/
structure Attempt where
  station : DroneManager
  pc : LaunchPc := .begin
  sent : List Sent := []

/-- `_launch_one` goes on with a reply; the climbs are checked; a recovery goes
on; anything else on the station runs, and leaves it in some state. -/
inductive AttemptLabel where
  | one (reply : Reply)
  | checkClimbs
  | recovery (k : Nat)
  | elsewhere (m : DroneManager)

def attemptStep (requireEkfHealth : Bool) (d : Nat) : System Attempt AttemptLabel Sent := fun s l =>
  match l with
  | .one reply =>
    (stepOne requireEkfHealth s.station d s.pc reply).map fun r =>
      (⟨r.1, r.2.1, s.sent ++ r.2.2⟩, r.2.2)
  | .checkClimbs => some ({ s with station := Lifecycle.checkClimbs s.station }, [])
  | .recovery k =>
    (stepRecovery s.station k).map fun r => (⟨r.1, s.pc, s.sent ++ r.2⟩, r.2)
  | .elsewhere m => some ({ s with station := m }, [])

def SentUp (d : Nat) (sent : List Sent) : Prop := .call d (climbCall d) ∈ sent

/-- Fresh telemetry says that the drone is on the ground. -/
def OnGround (d : Nat) (m : DroneManager) : Prop := onGroundNow m (m.telemetry d) = true

/-- A step that disarms the drone finds it not sent up, or on the ground. -/
def DisarmsSafely (requireEkfHealth : Bool) (d : Nat) (s : Attempt) (l : AttemptLabel) : Prop :=
  ∀ s' os, attemptStep requireEkfHealth d s l = some (s', os) → .call d .disarm ∈ os →
    SentUp d s.sent → OnGround d s.station

/-- If the climb command raises, the drone is on the ground. -/
def ClimbAnswered (d : Nat) (s : Attempt) (l : AttemptLabel) : Prop :=
  s.pc = .climbing → ∀ e, l = .one (.raised e) → OnGround d s.station

/-- The climb is sent on the way to its await, and not before. -/
structure Tracked (d : Nat) (s : Attempt) : Prop where
  ahead : LaunchPc.ahead s.pc = true → ¬ SentUp d s.sent
  climbing : s.pc = .climbing → SentUp d s.sent

lemma sentUp_append {d : Nat} {sent os : List Sent} :
    SentUp d (sent ++ os) ↔ SentUp d sent ∨ SentUp d os := List.mem_append

/-! ## What a step of the launch sends -/

/-- The calls of a step of `_launch_one`, by where it goes on to: the climb only
to its await, a disarm only from before the climb, or from a climb that raised. -/
structure OneSends (d : Nat) (pc : LaunchPc) (reply : Reply) (pc' : LaunchPc) (os : List Sent) :
    Prop where
  ahead : LaunchPc.ahead pc' = true → LaunchPc.ahead pc = true ∧ ¬ SentUp d os
  climbing : pc' = .climbing → SentUp d os
  disarm : .call d .disarm ∈ os → LaunchPc.ahead pc = true ∨ pc = .climbing ∧ ∃ e, reply = .raised e

section Sends

variable {d : Nat} {pc : LaunchPc} {reply : Reply}

lemma oneSends_returned : OneSends d pc reply .returned [] where
  ahead h := by cases h
  climbing h := by cases h
  disarm h := absurd h List.not_mem_nil

variable {pc' : LaunchPc} {m : DroneManager} {r : DroneManager × LaunchPc × List Sent}

lemma oneSends_waits (hpc : LaunchPc.ahead pc = true) (hclimb : pc' ≠ .climbing) :
    OneSends d pc reply pc' [] where
  ahead _ := ⟨hpc, List.not_mem_nil⟩
  climbing h := absurd h hclimb
  disarm h := absurd h List.not_mem_nil

lemma oneSends_call {c : VehicleCall} (hpc : LaunchPc.ahead pc = true)
    (hc : c ≠ climbCall d) (hclimb : pc' ≠ .climbing) :
    OneSends d pc reply pc' [.call d c] where
  ahead _ := ⟨hpc, fun h => hc (by simpa [SentUp, eq_comm] using h)⟩
  climbing h := absurd h hclimb
  disarm _ := .inl hpc

lemma armUnlessPreempted_sends (m : DroneManager) (hpc : LaunchPc.ahead pc = true) :
    OneSends d pc reply (armUnlessPreempted m d).1 (armUnlessPreempted m d).2 := by
  unfold armUnlessPreempted
  split
  · exact oneSends_returned
  · exact oneSends_call hpc (by simp [climbCall]) (by simp)

lemma awaitArmable_sends (ekf : Bool) (m : DroneManager) (hpc : LaunchPc.ahead pc = true) :
    OneSends d pc reply (awaitArmable ekf m d).1 (awaitArmable ekf m d).2 := by
  unfold awaitArmable
  split
  · exact oneSends_waits hpc (by simp)
  · exact armUnlessPreempted_sends m hpc

lemma calibrateFrom_sends (ekf : Bool) (m : DroneManager)
    (k : Nat) (hpc : LaunchPc.ahead pc = true) :
    OneSends d pc reply (calibrateFrom ekf m d k).1 (calibrateFrom ekf m d k).2 := by
  unfold calibrateFrom
  split
  · exact oneSends_call hpc (by simp [climbCall]) (by simp)
  · exact awaitArmable_sends ekf m hpc

lemma failOnPad_sends (m : DroneManager) (reason : String)
    (h : LaunchPc.ahead pc = true ∨ pc = .climbing ∧ ∃ e, reply = .raised e) :
    OneSends d pc reply (failOnPad m d reason).2.1 (failOnPad m d reason).2.2 where
  ahead h := by simp [failOnPad, LaunchPc.ahead] at h
  climbing h := by simp [failOnPad] at h
  disarm _ := h

lemma confirmOffboard_sends (m : DroneManager) (deadline : ℚ) (hpc : LaunchPc.ahead pc = true) :
    OneSends d pc reply (confirmOffboard m d deadline).2.1 (confirmOffboard m d deadline).2.2 := by
  unfold confirmOffboard
  dsimp only
  split
  · exact oneSends_returned
  · split
    · exact ⟨by simp [LaunchPc.ahead], fun _ => List.mem_singleton.mpr rfl, fun _ => .inl hpc⟩
    · split
      · exact failOnPad_sends m _ (.inl hpc)
      · exact oneSends_waits hpc (by simp)

lemma armableReply_sends {deadline : ℚ} (h : armableReply m d deadline reply = some r) :
    OneSends d (.waitingArmable deadline) reply r.2.1 r.2.2 := by
  unfold armableReply at h
  split at h
  · split at h
    · cases h; exact armUnlessPreempted_sends m rfl
    · cases h; exact oneSends_waits rfl (by simp)
  · cases h; exact armUnlessPreempted_sends m rfl
  · split at h
    · cases h; exact oneSends_returned
    · cases h
  · cases h; exact oneSends_returned
  · cases h

/-- Every step of `_launch_one`. -/
lemma stepOne_sends {ekf : Bool} (h : stepOne ekf m d pc reply = some r) :
    OneSends d pc reply r.2.1 r.2.2 := by
  cases pc with
  | begin =>
    cases h
    unfold beginLaunch
    dsimp only
    split
    · exact oneSends_returned
    · split
      · exact oneSends_returned
      · exact oneSends_waits rfl (by simp)
  | staggering => cases h; exact calibrateFrom_sends ekf m 0 rfl
  | calibrating k =>
    simp only [stepOne] at h
    split at h
    · cases h; exact awaitArmable_sends ekf m rfl
    · cases h; exact calibrateFrom_sends ekf m (k + 1) rfl
  | waitingArmable deadline => exact armableReply_sends h
  | arming =>
    simp only [stepOne] at h
    split at h
    · cases h; exact oneSends_returned
    · cases h
      -- the initial setpoint is not the climb, which goes above the pad
      refine oneSends_call rfl ?_ (by simp)
      have hpos := hoverAltitude_pos (K := ℚ) d
      simp [climbCall, hpos.ne']
  | settingInitial =>
    simp only [stepOne] at h
    split at h
    · cases h; exact failOnPad_sends m _ (.inl rfl)
    · split at h
      · cases h; exact oneSends_returned
      · cases h; exact oneSends_call rfl (by simp [climbCall]) (by simp)
  | startingOffboard =>
    simp only [stepOne] at h
    split at h
    · cases h; exact oneSends_call rfl (by simp [climbCall]) (by simp)
    · cases h; exact confirmOffboard_sends m _ rfl
  | confirming deadline => cases h; exact confirmOffboard_sends m deadline rfl
  | climbing =>
    simp only [stepOne] at h
    split at h
    next e => cases h; exact failOnPad_sends m _ (.inr ⟨rfl, e, rfl⟩)
    next => cases h; exact oneSends_returned
  | disarming onPad =>
    simp only [stepOne] at h
    split at h
    · split at h <;> cases h
      · exact oneSends_returned
      · exact oneSends_returned
    · cases h; exact oneSends_returned
  | returned => cases h

end Sends

lemma stepRecovery_sends {m m' : DroneManager} {k : Nat} {os : List Sent} {d : Nat}
    (h : stepRecovery m k = some (m', os)) :
    (.call d .disarm ∈ os → OnGround d m) ∧ ¬ SentUp d os := by
  constructor
  · intro hd
    obtain ⟨e, c, he, ⟨-, hground⟩ | rfl | rfl⟩ := stepRecovery_calls h _ hd <;> cases he
    exact hground
  · intro hup
    obtain ⟨e, c, he, ⟨rfl, -⟩ | rfl | rfl⟩ := stepRecovery_calls h _ hup <;> cases he

section

variable {ekf : Bool} {d : Nat} {s s' : Attempt} {l : AttemptLabel} {os : List Sent}

lemma tracked_step (h : Tracked d s) (hs : attemptStep ekf d s l = some (s', os)) :
    Tracked d s' := by
  cases l with
  | one reply =>
    obtain ⟨⟨m, pc, sent⟩, hone, hs⟩ := Option.map_eq_some_iff.mp hs
    cases hs
    have hsends := stepOne_sends hone
    refine ⟨fun hpc => ?_, fun hpc => ?_⟩
    · obtain ⟨hbefore, hnot⟩ := hsends.ahead hpc
      rw [sentUp_append]
      exact not_or.mpr ⟨h.ahead hbefore, hnot⟩
    · exact sentUp_append.mpr (.inr (hsends.climbing hpc))
  | checkClimbs => cases hs; exact ⟨h.ahead, h.climbing⟩
  | recovery k =>
    obtain ⟨⟨m, sent⟩, hrec, hs⟩ := Option.map_eq_some_iff.mp hs
    cases hs
    obtain ⟨-, hnot⟩ := stepRecovery_sends (d := d) hrec
    refine ⟨fun hpc => ?_, fun hpc => sentUp_append.mpr (.inl (h.climbing hpc))⟩
    rw [sentUp_append]
    exact not_or.mpr ⟨h.ahead hpc, hnot⟩
  | elsewhere m => cases hs; exact ⟨h.ahead, h.climbing⟩

lemma climbRaised_disarms (hpc : s.pc = .climbing) (e : String) :
    ∃ s', attemptStep ekf d s (.one (.raised e)) = some (s', [.call d .disarm]) := by
  obtain ⟨m, pc, sent⟩ := s
  obtain rfl : pc = .climbing := hpc
  exact ⟨_, rfl⟩

lemma disarmsSafely_iff (h : Tracked d s) : DisarmsSafely ekf d s l ↔ ClimbAnswered d s l := by
  constructor
  · rintro hsafe hpc e rfl
    obtain ⟨s', hs⟩ : ∃ s', attemptStep ekf d s (.one (.raised e)) = some (s', [.call d .disarm]) :=
      climbRaised_disarms hpc e
    exact hsafe s' _ hs (List.mem_singleton.mpr rfl) (h.climbing hpc)
  · intro hans s' os hs hdisarm hup
    cases l with
    | one reply =>
      obtain ⟨⟨m, pc, sent⟩, hone, hs⟩ := Option.map_eq_some_iff.mp hs
      cases hs
      rcases (stepOne_sends hone).disarm hdisarm with hpc | ⟨hpc, e, rfl⟩
      · exact absurd hup (h.ahead hpc)
      · exact hans hpc e rfl
    | checkClimbs => cases hs; cases hdisarm
    | recovery k =>
      obtain ⟨⟨m, sent⟩, hrec, hs⟩ := Option.map_eq_some_iff.mp hs
      cases hs
      exact (stepRecovery_sends hrec).1 hdisarm
    | elsewhere m => cases hs; cases hdisarm

/-- A launch disarms the drone only on its pad or on the ground exactly if its
climb command raises only there. -/
theorem no_disarm_in_flight_iff (ekf : Bool) (d : Nat) (m : DroneManager) (ls : List AttemptLabel) :
    Along (attemptStep ekf d) (DisarmsSafely ekf d) ⟨m, .begin, []⟩ ls ↔
      Along (attemptStep ekf d) (ClimbAnswered d) ⟨m, .begin, []⟩ ls := by
  have hbegin : Tracked d ⟨m, .begin, []⟩ :=
    ⟨fun _ => List.not_mem_nil, fun h => by cases h⟩
  constructor
  · exact along_of_invariant (I := Tracked d) (fun _ _ _ _ h _ hs => tracked_step h hs)
      (fun _ _ h hsafe => (disarmsSafely_iff h).mp hsafe) hbegin
  · exact along_of_invariant (I := Tracked d) (fun _ _ _ _ h _ hs => tracked_step h hs)
      (fun _ _ h hans => (disarmsSafely_iff h).mpr hans) hbegin

end

/-- A drone in OFFBOARD, armed, and last heard of in the air. -/
def airborne : DroneManager :=
  { onPad with telemetry := fun _ =>
    { connected := true, armed := true, flightMode := "OFFBOARD", lastHeartbeat := some 0
      landedState := some "IN_AIR", landedStateAt := some 0 } }

/-- The climb command is accepted, the answer is lost, and by then the drone is
in the air. -/
def lostAnswer : List AttemptLabel :=
  [.one .ok, .one .ok, .one .ok, .one .ok, .one .ok, .one .ok, .one (.health true true), .one .ok,
    .one .ok, .elsewhere airborne, .one .ok]

/-- It is disarmed there. -/
theorem disarmed_after_lost_answer : ∃ s os,
    run (attemptStep true 0) ⟨onPad, .begin, []⟩ lostAnswer = some (s, os) ∧
      ¬ DisarmsSafely true 0 s (.one (.raised "timeout")) := by
  obtain ⟨⟨s, os⟩, hrun, hpc, -, hup, hair⟩ :
      ∃ r ∈ run (attemptStep true 0) ⟨onPad, .begin, []⟩ lostAnswer, r.1.pc = .climbing ∧
      r.2 = r.1.sent ∧ Sent.call 0 (climbCall 0) ∈ r.1.sent ∧
      onGroundNow r.1.station (r.1.station.telemetry 0) = false := by decide +kernel
  refine ⟨s, os, hrun, fun hsafe => ?_⟩
  obtain ⟨s', hs⟩ : ∃ s', attemptStep true 0 s (.one (.raised "timeout")) =
      some (s', [.call 0 .disarm]) := climbRaised_disarms hpc "timeout"
  have hground : OnGround 0 s.station := hsafe s' _ hs (List.mem_singleton.mpr rfl) hup
  exact absurd hground (by rw [OnGround, hair]; decide)

end Taramandal.Gcs.FailedLaunch
