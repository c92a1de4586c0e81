import Taramandal.Gcs.AbortSafety
import Taramandal.Gcs.ShowRecord
import Taramandal.Lib.Matching

/-! # The station with and without an abort

Beside the run in which drone `d` was aborted goes the one in which it was not.
Of the drone's telemetry the abort and the playback write what is marked here;
everything else of the station agrees, but for the setpoints of `d` that only
the one playback still sends and the commands of `d` that only the other has. -/
namespace Taramandal.Gcs.Unaborted

open Lib.Padding Core.Values Core.Shows Gcs.FleetFsm Gcs.State Gcs.Telemetry Gcs.Playback
open Gcs.Emergency Gcs.Launch Gcs.Lifecycle Gcs.Staging Gcs.Handlers Gcs.Fleet Gcs.AbortSafety
open Gcs.ShowRecord

/-! ## One drone's marks -/

/-- What an abort and the playback write of a drone: its abort, and its planned point. -/
structure Marks where
  aborted : Option Abort
  plannedX : ℚ
  plannedY : ℚ
  plannedZ : ℚ
  plannedValid : Bool

def mark (k : Marks) (tel : Telemetry) : Telemetry :=
  { tel with
    aborted := k.aborted, plannedX := k.plannedX, plannedY := k.plannedY, plannedZ := k.plannedZ
    plannedValid := k.plannedValid }

def marks (tel : Telemetry) : Marks :=
  ⟨tel.aborted, tel.plannedX, tel.plannedY, tel.plannedZ, tel.plannedValid⟩

/-- The table with other marks on drone `d`. -/
def marked (d : Nat) (k : Marks) (telemetry : Nat → Telemetry) : Nat → Telemetry :=
  Function.update telemetry d (mark k (telemetry d))

section

variable {d : Nat} {k : Marks} {telemetry : Nat → Telemetry}

lemma marked_ne {e : Nat} (he : e ≠ d) : marked d k telemetry e = telemetry e :=
  Function.update_of_ne he ..

lemma marked_self : marked d k telemetry d = mark k (telemetry d) := Function.update_self ..

lemma marked_apply {α : Type} {f : Telemetry → α} (hf : ∀ tel, f (mark k tel) = f tel) (e : Nat) :
    f (marked d k telemetry e) = f (telemetry e) := by
  by_cases he : e = d
  · subst he
    rw [marked_self, hf]
  · rw [marked_ne he]

lemma marked_update_ne {e : Nat} (he : e ≠ d) (tel : Telemetry) :
    Function.update (marked d k telemetry) e tel = marked d k (Function.update telemetry e tel) := by
  unfold marked
  rw [Function.update_of_ne (Ne.symm he), Function.update_comm he]

lemma marked_update (d : Nat) (telemetry : Nat → Telemetry) {g : Telemetry → Telemetry}
    (hg : ∀ tel, g (mark k tel) = mark k (g tel)) (e : Nat) :
    Function.update (marked d k telemetry) e (g (marked d k telemetry e)) =
      marked d k (Function.update telemetry e (g (telemetry e))) := by
  by_cases he : e = d
  · subst he
    rw [marked_self, hg]
    simp [marked]
  · rw [marked_ne he]
    exact marked_update_ne he _

lemma marked_mark (k' : Marks) :
    Function.update (marked d k telemetry) d (mark k' (marked d k telemetry d)) =
      marked d k' telemetry := by
  rw [marked_self]
  simp [marked, mark]

lemma marked_marks : marked d (marks (telemetry d)) telemetry = telemetry := by
  unfold marked mark marks
  exact Function.update_eq_self ..

end

section

variable (d : Nat)

/-- The station with other marks on drone `d`, and other tasks. -/
def overlaid (k : Marks) (tasks : List PlaybackTask) (commands : List CommandTask)
    (m : DroneManager) : DroneManager :=
  { m with
    telemetry := marked d k m.telemetry
    playback := { m.playback with tasks := tasks }
    commands := commands }

/-- A setpoint for drone `d` that has been sent. -/
def SentTo (s : SendTask) : Prop := s.droneId = d ∧ s.pc = .sent

/-- A playback task, and the same one with more of the setpoints for `d` sent. -/
def TaskAlike (t t' : PlaybackTask) : Prop :=
  ∃ sends, t' = { t with sends := sends } ∧ Padded (SentTo d) sends t.sends

/-- The station `m` without the abort of drone `d`, and `m'` with it. -/
def Alike (m m' : DroneManager) : Prop :=
  ∃ k tasks commands, k.aborted.isSome = true ∧ List.Forall₂ (TaskAlike d) m.playback.tasks tasks ∧
    Padded (fun c => c.droneId = d) m.commands commands ∧ m' = overlaid d k tasks commands m

def HandledAlike (h h' : Handled) : Prop := Alike d h.1 h'.1 ∧ h'.2 = h.2

lemma taskAlike_refl (t : PlaybackTask) : TaskAlike d t t :=
  ⟨t.sends, rfl, .refl _ _⟩

end

section

variable {d : Nat} {k : Marks} {tasks : List PlaybackTask} {commands : List CommandTask}
  {m : DroneManager}

section

variable (d : Nat) (tasks : List PlaybackTask) (commands : List CommandTask) (m : DroneManager)

lemma overlaid_read {α : Type} {f : Telemetry → α} (hf : ∀ tel, f (mark k tel) = f tel) (e : Nat) :
    f ((overlaid d k tasks commands m).telemetry e) = f (m.telemetry e) := marked_apply hf e

lemma overlaid_write {g : Telemetry → Telemetry}
    (hg : ∀ tel, g (mark k tel) = mark k (g tel)) (e : Nat) :
    (overlaid d k tasks commands m).setTelemetry e (g ((overlaid d k tasks commands m).telemetry e)) =
      overlaid d k tasks commands (m.setTelemetry e (g (m.telemetry e))) := by
  unfold DroneManager.setTelemetry overlaid
  simp only [marked_update d m.telemetry hg]

end

lemma overlaid_isAborted_ne {e : Nat} (he : e ≠ d) :
    (overlaid d k tasks commands m).isAborted e = m.isAborted e := by
  simp only [DroneManager.isAborted, overlaid, marked_ne he]

lemma overlaid_isAborted (hk : k.aborted.isSome = true) :
    (overlaid d k tasks commands m).isAborted d = true := by
  simp only [DroneManager.isAborted, overlaid, marked_self, mark, hk]

end

/-! ## Telemetry -/

/-- What a stream that is back writes of its drone, with `down` still out. -/
def streamUp (now : ℚ) (down : List String) (tel : Telemetry) : Telemetry :=
  if down ≠ [] then { tel with staleStreams := sortedStreams down }
  else { tel with
    staleStreams := sortedStreams down, telemetryStale := false, connected := tel.linkUp
    linkStableSince := if tel.linkUp then some now else none }

lemma streamUp_mark (now : ℚ) (down : List String) (k : Marks) (tel : Telemetry) :
    streamUp now down (mark k tel) = mark k (streamUp now down tel) := by
  unfold streamUp
  split <;> rfl

lemma markStreamUp_eq (m : DroneManager) (e : Nat) (name : String) :
    markStreamUp m e name = if (m.streamsDown e).contains name then
      { m with
        streamsDown := Function.update m.streamsDown e ((m.streamsDown e).filter (· ≠ name))
        telemetry := Function.update m.telemetry e
          (streamUp m.monotonic ((m.streamsDown e).filter (· ≠ name)) (m.telemetry e)) }
      else m := by
  unfold markStreamUp streamUp
  cases (m.streamsDown e).contains name <;> rfl

section

variable (d : Nat) (k : Marks) (tasks : List PlaybackTask) (commands : List CommandTask)
  (m : DroneManager) (e : Nat)

lemma markStreamUp_overlaid (name : String) : markStreamUp (overlaid d k tasks commands m) e name =
      overlaid d k tasks commands (markStreamUp m e name) := by
  have htable := marked_update d m.telemetry
    (streamUp_mark m.monotonic ((m.streamsDown e).filter (· ≠ name)) k) e
  simp only [markStreamUp_eq, overlaid]
  rw [htable]
  split <;> rfl

lemma telemetryStep_overlaid (ev : TelemetryEvent) :
    telemetryStep (overlaid d k tasks commands m) e ev =
      overlaid d k tasks commands (telemetryStep m e ev) := by
  cases ev with
  | item i =>
    have hg : ∀ tel, onItem m e (mark k tel) i = mark k (onItem m e tel i) := by
      intro tel
      cases i with
      | connectionState isConnected =>
        cases hstale : tel.telemetryStale <;> simp [onItem, mark, hstale]
      | _ => rfl
    have hset := overlaid_write d tasks commands m (g := fun tel => onItem m e tel i) hg e
    exact (congrArg (markStreamUp · e i.stream) hset).trans (markStreamUp_overlaid ..)
  | streamDropped name =>
    let down := if (m.streamsDown e).contains name then m.streamsDown e
      else m.streamsDown e ++ [name]
    have htable := marked_update d m.telemetry (k := k)
      (g := fun tel => { tel with
        telemetryStale := true, staleStreams := sortedStreams down, connected := false
        linkStableSince := none }) (fun _ => rfl) e
    exact congrArg (fun telemetry =>
      { overlaid d k tasks commands m with
        streamsDown := Function.update m.streamsDown e down, telemetry := telemetry }) htable
  | probeAnswered latencyMs =>
    exact overlaid_write d tasks commands m
      (g := fun tel => { tel with commLatencyMs := Core.Numbers.roundTo 1 latencyMs })
      (fun _ => rfl) e
  | probeFailed =>
    exact overlaid_write d tasks commands m (g := fun tel =>
      { tel with commLatencyMs := -1, linkStableSince := some m.monotonic }) (fun _ => rfl) e
  | bulk row =>
    have hg : ∀ tel, ingestBulk m e (mark k tel) row = mark k (ingestBulk m e tel row) := by
      intro tel
      unfold ingestBulk
      dsimp only
      split <;> rfl
    exact overlaid_write d tasks commands m (g := fun tel => ingestBulk m e tel row) hg e

end

/-! ## Stops, and what stops the show -/

lemma TaskAlike.place {d : Nat} {t t' : PlaybackTask} (h : TaskAlike d t t') :
    t'.pc = t.pc ∧ t'.cancelRequested = t.cancelRequested ∧
      (∀ startS, startFrame t' startS = startFrame t startS) ∧
      t'.sends.any (fun s => s.pc = .raised) = t.sends.any (fun s => s.pc = .raised) ∧
      t'.sends.all (fun s => s.pc = .sent) = t.sends.all (fun s => s.pc = .sent) := by
  obtain ⟨_, rfl, hsends⟩ := h
  exact ⟨rfl, rfl, fun _ => rfl, (hsends.any_eq fun s hs => by simp [hs.2]).symm,
    (hsends.all_eq fun s hs => by simp [hs.2]).symm⟩

lemma TaskAlike.cancel {d : Nat} {t t' : PlaybackTask} (h : TaskAlike d t t') :
    TaskAlike d (PlaybackTask.cancel t) (PlaybackTask.cancel t') := by
  obtain ⟨sends, rfl, hsends⟩ := h
  unfold PlaybackTask.cancel
  by_cases hpc : t.pc = .finished
  · rw [if_pos hpc, if_pos (show ({ t with sends := sends } : PlaybackTask).pc = .finished from hpc)]
    exact ⟨sends, rfl, hsends⟩
  · rw [if_neg hpc, if_neg (show ({ t with sends := sends } : PlaybackTask).pc ≠ .finished from hpc)]
    exact ⟨[], rfl, .nil⟩

lemma stopTrajectory_rest (faults : Faults) (m : DroneManager) : (stopTrajectory faults m).2 =
    (cancelFrame faults m.playback.onboardShowId, decide (faults.removal = .failed)) := by
  unfold stopTrajectory
  cases hr : faults.removal <;> cases ht : m.playback.trajectoryTask <;>
    simp [discardShowState]

section Pair

variable {d : Nat} {m m' : DroneManager}

section

variable (h : Alike d m m')
include h

lemma Alike.stop (faults : Faults) :
    Alike d (stopTrajectory faults m).1 (stopTrajectory faults m').1 := by
  obtain ⟨k, tasks, commands, hk, htasks, hcommands, rfl⟩ := h
  rw [stopTrajectory_playback, stopTrajectory_playback]
  refine ⟨k, (stopPlayback faults.removal (overlaid d k tasks commands m).playback).tasks, commands,
    hk, ?_, hcommands, rfl⟩
  simp only [stopPlayback, cancelled, overlaid]
  split
  · exact htasks
  · split
    · exact htasks
    · exact forall₂_modify htasks _ fun _ _ ht => ht.cancel

lemma Alike.stop_rest (faults : Faults) :
    (stopTrajectory faults m').2 = (stopTrajectory faults m).2 := by
  obtain ⟨_, _, _, -, -, -, rfl⟩ := h
  rw [stopTrajectory_rest, stopTrajectory_rest]
  rfl

lemma Alike.moveFsm (fails : Bool) (f : FleetStateMachine) :
    Alike d (m.moveFsm fails f) (m'.moveFsm fails f) := by
  obtain ⟨k, tasks, commands, hk, htasks, hcommands, rfl⟩ := h
  exact ⟨k, tasks, commands, hk, htasks, hcommands, rfl⟩

lemma Alike.read {α : Type} {f : DroneManager → α}
    (hf : ∀ k tasks commands, f (overlaid d k tasks commands m) = f m) : f m' = f m := by
  obtain ⟨_, _, _, -, -, -, rfl⟩ := h
  exact hf ..

lemma Alike.fsm : m'.fsm = m.fsm := h.read fun _ _ _ => rfl

lemma Alike.time : m'.time = m.time := h.read fun _ _ _ => rfl

lemma Alike.monotonic : m'.monotonic = m.monotonic := h.read fun _ _ _ => rfl

lemma Alike.bench : m'.singleDroneSequenceActive = m.singleDroneSequenceActive :=
  h.read fun _ _ _ => rfl

lemma Alike.tasks : List.Forall₂ (TaskAlike d) m.playback.tasks m'.playback.tasks := by
  obtain ⟨_, _, _, -, htasks, -, rfl⟩ := h
  exact htasks

lemma Alike.moveTo (faults : Faults) (r : Except FsmError FleetStateMachine) :
    Alike d (moveTo m faults r) (moveTo m' faults r) := by
  cases r with
  | ok f => exact h.moveFsm _ f
  | error e => exact h

section

variable (faults : Faults) (c : Command) (operator trigger : String)

lemma refuseCommand_alike : HandledAlike d (refuseCommand m faults c operator trigger)
      (refuseCommand m' faults c operator trigger) := by
  unfold refuseCommand
  rw [h.fsm, h.time]
  exact ⟨h.moveFsm .., rfl⟩

lemma checked_alike {act act' : Handled} (hact : m.fsm.state ∈ (commandRules c).allowedFrom → HandledAlike d act act') :
    HandledAlike d (checked m faults c operator trigger act)
      (checked m' faults c operator trigger act') := by
  unfold checked
  rw [h.fsm]
  split
  next hc => exact hact (FleetStateMachine.check_ok hc)
  next => exact refuseCommand_alike h ..

lemma applied_alike (sent : List Sent) (response : Response) :
    HandledAlike d (applied m faults c operator trigger fun m => (m, sent, response))
      (applied m' faults c operator trigger fun m => (m, sent, response)) := by
  unfold applied
  rw [h.fsm, h.time]
  split
  · exact ⟨h.moveFsm .., rfl⟩
  · exact refuseCommand_alike h ..

end

/-- A stop ends the same way in both. -/
lemma Alike.stopped (faults : Faults) : ∃ m1 m1' sent raised,
    stopTrajectory faults m = (m1, sent, raised) ∧
      stopTrajectory faults m' = (m1', sent, raised) ∧ Alike d m1 m1' :=
  ⟨_, _, _, _, rfl, Prod.ext rfl (h.stop_rest faults), h.stop faults⟩

lemma stopShow_alike (faults : Faults) (operator : String) :
    HandledAlike d (stopShow m faults operator) (stopShow m' faults operator) := by
  refine checked_alike h faults _ operator _ fun _ => ?_
  obtain ⟨m1, m1', sent, raised, hm, hm', hstop⟩ := h.stopped faults
  rw [hm, hm']
  cases raised with
  | true => exact ⟨hstop, rfl⟩
  | false => exact applied_alike hstop ..

lemma emergency_alike (faults : Faults) (mode : AbortMode) (operator trigger : String) :
    HandledAlike d (emergency m faults mode operator trigger)
      (emergency m' faults mode operator trigger) := by
  unfold emergency triggerEmergency
  rw [h.fsm, h.time]
  cases m.fsm.apply (emergencyCommand mode) operator trigger m.time with
  | error e => exact ⟨h, rfl⟩
  | ok f =>
    have hmoved := h.moveFsm faults.auditWrite f
    obtain ⟨m1, m1', sent, raised, hm, hm', hstop⟩ := hmoved.stopped faults
    dsimp only
    rw [hm, hm']
    cases raised with
    | true => exact ⟨hstop, rfl⟩
    | false =>
      obtain ⟨k, tasks, commands, hk, htasks, hcommands, rfl⟩ := hstop
      exact ⟨⟨k, tasks, _, hk, htasks, hcommands.append (.refl _ _), rfl⟩, rfl⟩

end

/-! ## Requests -/

section

variable (h : Alike d m m')
include h

lemma abortDrone_alike {e : Nat} (he : e ≠ d) (mode : AbortMode) :
    HandledAlike d (abortDrone m e mode) (abortDrone m' e mode) := by
  obtain ⟨k, tasks, commands, hk, htasks, hcommands, rfl⟩ := h
  have hset : ∀ tel : Telemetry, (overlaid d k tasks commands m).setTelemetry e tel =
      overlaid d k tasks commands (m.setTelemetry e tel) := by
    intro tel
    unfold DroneManager.setTelemetry overlaid
    simp only [marked_update_ne he]
  unfold abortDrone
  by_cases hin : m.drones.contains e = true
  · have htel : (overlaid d k tasks commands m).telemetry e = m.telemetry e := marked_ne he
    have hdrones : (overlaid d k tasks commands m).drones = m.drones := rfl
    have htime : (overlaid d k tasks commands m).time = m.time := rfl
    simp only [hdrones, hin, htel, htime, Bool.not_true, Bool.false_eq_true, if_false, hset]
    split
    · exact ⟨⟨k, tasks, _, hk, htasks, hcommands.append (.refl _ _), rfl⟩, rfl⟩
    · exact ⟨⟨k, tasks, commands, hk, htasks, hcommands, rfl⟩, rfl⟩
  · have hdrones : (overlaid d k tasks commands m).drones = m.drones := rfl
    simp only [hdrones, hin, Bool.not_false, if_true]
    exact ⟨⟨k, tasks, commands, hk, htasks, hcommands, rfl⟩, rfl⟩

lemma uploadTrajectory_alike (faults : Faults) (operator filename : String)
    (signed : Bool) (contentLength : Option Nat) :
    HandledAlike d (uploadTrajectory m faults operator filename signed contentLength)
      (uploadTrajectory m' faults operator filename signed contentLength) := by
  have hboth := h
  obtain ⟨k, tasks, commands, hk, htasks, hcommands, rfl⟩ := h
  unfold uploadTrajectory
  have hbench : (overlaid d k tasks commands m).singleDroneSequenceActive =
    m.singleDroneSequenceActive := rfl
  rw [hbench]
  split
  · exact ⟨hboth, rfl⟩
  · refine checked_alike hboth faults _ operator _ fun _ => ?_
    split
    · exact ⟨hboth, rfl⟩
    · exact ⟨⟨k, tasks, commands, hk, htasks, hcommands, rfl⟩, rfl⟩

lemma discardSaved_alike (faults : Faults) :
    HandledAlike d (discardSaved m faults) (discardSaved m' faults) := by
  obtain ⟨k, tasks, commands, hk, htasks, hcommands, rfl⟩ := h
  exact ⟨⟨k, tasks, commands, hk, htasks, hcommands, rfl⟩, rfl⟩

lemma discardShow_alike (faults : Faults) (operator : String) :
    HandledAlike d (discardShow m faults operator) (discardShow m' faults operator) := by
  unfold discardShow benchRefusal
  rw [h.bench]
  split
  · exact ⟨h, rfl⟩
  · exact checked_alike h faults _ operator _ fun _ => discardSaved_alike h faults

lemma resumeShow_alike (setup : Setup) (faults : Faults) (operator : String)
    (gated : Except String (Show ℚ)) :
    HandledAlike d (resumeShow setup m faults operator gated)
      (resumeShow setup m' faults operator gated) := by
  have hpending : m'.pendingResumeState = m.pendingResumeState := h.read fun _ _ _ => rfl
  unfold resumeShow benchRefusal
  rw [h.bench, hpending]
  split
  · exact ⟨h, rfl⟩
  · split
    · exact ⟨h, rfl⟩
    · refine checked_alike h faults _ operator _ fun _ => ?_
      split
      · exact ⟨h, rfl⟩
      · exact ⟨h, rfl⟩
      · refine discardSaved_alike ?_ faults
        obtain ⟨k, tasks, commands, hk, htasks, hcommands, rfl⟩ := h
        exact ⟨k, tasks, commands, hk, htasks, hcommands, rfl⟩

end

/-- What a request or a call makes of the fleet's health: a launch, a show or the
missions of one. While the show runs the API refuses them. -/
def plansAfresh (m : DroneManager) : Label → Bool
  | .method .stopTrajectory _ => false
  | .method _ _ => true
  | .api _ (.launch _) _ => m.fsm.state ≠ .running
  | .api _ (.startTrajectory _) _ => m.fsm.state ≠ .running
  | .api _ .uploadMission _ => m.fsm.state ≠ .running
  | _ => false

lemma plansAfresh_congr {m m' : DroneManager} (h : m'.fsm = m.fsm) (l : Label) :
    plansAfresh m' l = plansAfresh m l := by
  unfold plansAfresh
  rw [h]

lemma handle_alike {setup : Setup} (h : Alike d m m') {operator : String} {r : Request}
    {faults : Faults} (habort : aborts d (.api operator r faults) = false)
    (hplan : plansAfresh m (.api operator r faults) = false) :
    HandledAlike d (handle setup m operator faults r) (handle setup m' operator faults r) := by
  cases r with
  | launch decision =>
    have hrun : m.fsm.state = .running := by simpa [plansAfresh] using hplan
    simp only [handle, launchFleet, benchRefusal]
    rw [h.bench]
    split
    · exact ⟨h, rfl⟩
    · split
      · exact ⟨h, rfl⟩
      · exact checked_alike h faults _ operator _ fun hs => by simp [hrun, commandRules] at hs
  | startTrajectory req =>
    have hrun : m.fsm.state = .running := by simpa [plansAfresh] using hplan
    have hfailures : m'.launch.launchFailures = m.launch.launchFailures :=
      h.read (f := (·.launch.launchFailures)) fun _ _ _ => rfl
    simp only [handle, startShow, launchIncomplete]
    rw [hfailures]
    split
    · exact ⟨h, rfl⟩
    · split
      · exact ⟨h, rfl⟩
      · exact checked_alike h faults _ operator _ fun hs => by simp [hrun, commandRules] at hs
  | stopTrajectory => exact stopShow_alike h faults operator
  | emergency mode trigger =>
    simp only [handle]
    split
    · exact ⟨h, rfl⟩
    · exact emergency_alike h faults mode operator trigger
  | abort e mode =>
    have he : e ≠ d := by simpa [aborts] using habort
    simp only [handle]
    split
    · exact ⟨h, rfl⟩
    · exact abortDrone_alike h he mode
  | uploadTrajectory filename signed contentLength =>
    exact uploadTrajectory_alike h faults operator filename signed contentLength
  | uploadMission =>
    have hrun : m.fsm.state = .running := by simpa [plansAfresh] using hplan
    simp only [handle, uploadMissions, benchRefusal]
    rw [h.bench]
    split
    · exact ⟨h, rfl⟩
    · exact checked_alike h faults _ operator _ fun hs => by
        simp [hrun, commandRules] at hs
  | resumeShow gated => exact resumeShow_alike h setup faults operator gated
  | discardShow => exact discardShow_alike h faults operator

/-! ## The other tasks -/

lemma tickDisarmed_alike (h : Alike d m m') (faults : Faults) :
    Alike d (tickDisarmed m faults).1 (tickDisarmed m' faults).1 ∧
      (tickDisarmed m' faults).2 = (tickDisarmed m faults).2 := by
  unfold tickDisarmed
  rw [h.fsm]
  split
  · obtain ⟨m1, m1', sent, raised, hm, hm', hstop⟩ := h.stopped faults
    rw [hm, hm']
    cases raised with
    | true => exact ⟨hstop, rfl⟩
    | false =>
      dsimp only at hstop ⊢
      rw [hstop.fsm, hstop.time]
      exact ⟨hstop.moveTo .., rfl⟩
  · dsimp only
    rw [h.fsm, h.time]
    exact ⟨h.moveTo .., rfl⟩

lemma evaluateLifecycle_alike (h : Alike d m m') (faults : Faults)
    (hstate : m.fsm.state ≠ .prearm ∧ m.fsm.state ≠ .armed ∧ m.fsm.state ≠ .takeoff) :
    Alike d (evaluateLifecycle m faults).1 (evaluateLifecycle m' faults).1 ∧
      (evaluateLifecycle m' faults).2 = (evaluateLifecycle m faults).2 := by
  have harmed : armedIds m' = armedIds m := by
    obtain ⟨k, tasks, commands, -, -, -, rfl⟩ := h
    exact List.filter_congr fun e _ =>
      overlaid_read d tasks commands m (f := Telemetry.armed) (fun _ => rfl) e
  have hlaunch : launchInProgress m' = launchInProgress m := h.read fun _ _ _ => rfl
  have hchecked : ∀ {m : DroneManager}, m.fsm.state ≠ .prearm ∧ m.fsm.state ≠ .armed ∧
      m.fsm.state ≠ .takeoff → climbsChecked m = m := by
    rintro m ⟨hp, ha, ht⟩
    simp [climbsChecked, hp, ha, ht]
  unfold evaluateLifecycle
  dsimp only
  rw [h.fsm, harmed, hlaunch, hchecked hstate, hchecked (by rw [h.fsm]; exact hstate), h.fsm]
  split
  · exact tickDisarmed_alike h faults
  · split
    next hs => exact absurd hs hstate.1
    next hs => exact absurd hs hstate.2.1
    next hs => exact absurd hs hstate.2.2
    next => exact ⟨h, rfl⟩

end Pair

/-- A step that leaves the marks, the playback tasks and the commands alone, and
does not look at them. -/
structure Apart (f : DroneManager → Option (DroneManager × List Sent)) : Prop where
  overlaid : ∀ d k tasks commands m, f (overlaid d k tasks commands m) =
    (f m).map fun r => (overlaid d k tasks commands r.1, r.2)
  keeps : ∀ m m1 os, f m = some (m1, os) →
    m1.playback.tasks = m.playback.tasks ∧ m1.commands = m.commands

lemma Apart.alike {f : DroneManager → Option (DroneManager × List Sent)} (hf : Apart f) {d : Nat}
    {m m' m1' : DroneManager} {os : List Sent} (h : Alike d m m') (hs : f m' = some (m1', os)) :
    ∃ m1, f m = some (m1, os) ∧ Alike d m1 m1' := by
  obtain ⟨k, tasks, commands, hk, htasks, hcommands, rfl⟩ := h
  rw [hf.overlaid, Option.map_eq_some_iff] at hs
  obtain ⟨⟨m1, os1⟩, hm1, hs⟩ := hs
  cases hs
  obtain ⟨hsame, hsame'⟩ := hf.keeps m m1 os1 hm1
  exact ⟨m1, hm1, k, tasks, commands, hk, by rw [hsame]; exact htasks,
    by rw [hsame']; exact hcommands, rfl⟩

lemma stepRecovery_apart (k : Nat) : Apart (stepRecovery · k) where
  overlaid := by
    intro d marks tasks commands m
    have hsame : ∀ r, recoverFailedLaunch (overlaid d marks tasks commands m) r =
        recoverFailedLaunch m r := by
      intro r
      have hread := overlaid_read d tasks commands m (k := marks)
        (f := fun tel => (tel.armed, tel.flightMode, onGroundNow m tel)) (fun _ => rfl) r.droneId
      simp only [Prod.mk.injEq] at hread
      obtain ⟨harmed, hmode, hground⟩ := hread
      have honGround : ∀ tel,
          onGroundNow (overlaid d marks tasks commands m) tel = onGroundNow m tel :=
        fun _ => rfl
      have hemergency : inEmergency (overlaid d marks tasks commands m) = inEmergency m :=
        rfl
      simp only [recoverFailedLaunch, harmed, hmode, honGround, hground, hemergency]
    have hlaunch : (overlaid d marks tasks commands m).launch = m.launch := rfl
    simp only [stepRecovery, hsame, hlaunch]
    cases m.launch.recoveries[k]? with
    | none => rfl
    | some r =>
      cases hr : recoverFailedLaunch m r with
      | none => simp [hr]
      | some p => simp [hr]; rfl
  keeps := by
    intro m m1 os h
    obtain ⟨_, rfl⟩ := stepRecovery_some h
    exact ⟨rfl, rfl⟩

lemma writeSnapshot_apart (faults : Faults) : Apart (writeSnapshot · faults) where
  overlaid := by
    intro d k tasks commands m
    have hsnapshotting : (overlaid d k tasks commands m).playback.snapshotting =
      m.playback.snapshotting := rfl
    have hactive :
        (overlaid d k tasks commands m).activeTrajectory = m.activeTrajectory := rfl
    have hstarted : (overlaid d k tasks commands m).playback.showStartedAt =
      m.playback.showStartedAt := rfl
    unfold writeSnapshot
    rw [hsnapshotting, hactive, hstarted]
    cases m.playback.snapshotting with
    | false => rfl
    | true =>
      cases m.activeTrajectory with
      | none => rfl
      | some trajectory =>
        cases m.playback.showStartedAt with
        | none => rfl
        | some startedAt =>
          simp only [if_true]
          split <;> rfl
  keeps := by
    intro m m1 os h
    obtain ⟨_, rfl, -⟩ := writeSnapshot_some h
    exact ⟨rfl, rfl⟩

section

variable (setup : Setup)

lemma stepReceive_apart (i : Nat) (chunk : Bytes) : Apart (stepReceive setup · i chunk) where
  overlaid := by
    intro d k tasks commands m
    have haccept : ∀ r manifest,
        acceptUpload setup (overlaid d k tasks commands m) r manifest =
          overlaid d k tasks commands (acceptUpload setup m r manifest) := by
      intro r manifest
      unfold acceptUpload
      split
      · rfl
      · split <;> rfl
    have hchunk : ∀ r, receiveChunk setup (overlaid d k tasks commands m) r chunk =
        (receiveChunk setup m r chunk).map fun p =>
          (overlaid d k tasks commands p.1, p.2) := by
      intro r
      unfold receiveChunk
      simp only [haccept]
      split
      · split
        · split <;> rfl
        · split <;> rfl
      · rfl
      · rfl
    have hreceives : (overlaid d k tasks commands m).receives = m.receives := rfl
    simp only [stepReceive, hreceives, hchunk]
    cases m.receives[i]? with
    | none => rfl
    | some r =>
      cases hr : receiveChunk setup m r chunk with
      | none => simp [hr]
      | some p => simp [hr]; rfl
  keeps := by
    intro m m1 os h
    obtain ⟨_, _, _, _, _, -, -, rfl⟩ := stepReceive_some h
    exact ⟨rfl, rfl⟩

lemma telemetry_apart (e : Nat) (ev : TelemetryEvent) : Apart (step setup · (.telemetry e ev)) where
  overlaid := by
    intro d k tasks commands m
    have hdrones : (overlaid d k tasks commands m).drones = m.drones := rfl
    simp only [step, hdrones, telemetryStep_overlaid]
    split <;> rfl
  keeps := by
    intro m m1 os h
    simp only [step] at h
    split at h <;> cases h
    obtain ⟨_, _, hm1⟩ := (telemetryStep_frame m e ev).rest
    rw [hm1]
    exact ⟨rfl, rfl⟩

lemma clock_apart (elapsed time : ℚ) : Apart (step setup · (.clock elapsed time)) where
  overlaid := by
    intro d k tasks commands m
    simp only [step]
    split <;> rfl
  keeps := by
    intro m m1 os h
    simp only [step] at h
    split at h <;> cases h
    exact ⟨rfl, rfl⟩

lemma bench_apart (droneIds : List Nat) : Apart (step setup · (.bench droneIds)) where
  overlaid _ _ _ _ _ := rfl
  keeps m m1 os h := by
    cases h
    exact ⟨rfl, rfl⟩

end

section

variable {d : Nat} {k : Marks} {tasks : List PlaybackTask} {commands : List CommandTask}
  {m : DroneManager}

lemma writeEntry_overlaid (u e : Nat) (f : MissionEntry → MissionEntry) :
    writeEntry (overlaid d k tasks commands m) u e f =
      overlaid d k tasks commands (writeEntry m u e f) := by
  have hstaged : (overlaid d k tasks commands m).stagedShow = m.stagedShow := rfl
  unfold writeEntry
  rw [hstaged]
  split
  · split <;> rfl
  · rfl

lemma endTransfer_overlaid (u : Nat) (t : Transfer) (status : MissionStatus) (msg : String) :
    endTransfer (overlaid d k tasks commands m) u t status msg =
      (overlaid d k tasks commands (endTransfer m u t status msg).1,
        (endTransfer m u t status msg).2) := by
  simp only [endTransfer, writeEntry_overlaid]

section

variable (u dir : Nat) (t : Transfer)

lemma sendFile_overlaid (damaged : Option Bytes) :
    sendFile (overlaid d k tasks commands m) u dir t damaged =
      (overlaid d k tasks commands (sendFile m u dir t damaged).1, (sendFile m u dir t damaged).2) := by
  have hstaging : (overlaid d k tasks commands m).staging = m.staging := rfl
  simp only [sendFile, hstaging, endTransfer_overlaid]
  split <;> rfl

lemma compareFiles_overlaid : compareFiles (overlaid d k tasks commands m) u dir t =
      (overlaid d k tasks commands (compareFiles m u dir t).1, (compareFiles m u dir t).2) := by
  have hstaging : (overlaid d k tasks commands m).staging = m.staging := rfl
  simp only [compareFiles, hstaging, endTransfer_overlaid]
  split
  · rfl
  · split
    · rfl
    · split <;> rfl

lemma ftpDone_overlaid (reply : FtpReply) : ftpDone (overlaid d k tasks commands m) u dir t reply =
      (ftpDone m u dir t reply).map fun p => (overlaid d k tasks commands p.1, p.2) := by
  have hmonotonic : (overlaid d k tasks commands m).monotonic = m.monotonic := rfl
  unfold ftpDone
  simp only [hmonotonic, endTransfer_overlaid, sendFile_overlaid, compareFiles_overlaid]
  split
  · split <;> rfl
  · split <;> rfl
  · split <;> rfl
  · split <;> rfl

end

end

lemma stepTransfer_apart (u k : Nat) (reply : FtpReply) : Apart (stepTransfer · u k reply) where
  overlaid := by
    intro d marks tasks commands m
    have hupload : ∀ up t, uploadMission (overlaid d marks tasks commands m) u up t reply =
        (uploadMission m u up t reply).map fun p =>
          (overlaid d marks tasks commands p.1, p.2) := by
      intro up t
      have hmonotonic : (overlaid d marks tasks commands m).monotonic = m.monotonic := rfl
      unfold uploadMission
      simp only [hmonotonic, writeEntry_overlaid, ftpDone_overlaid]
      split
      · split <;> rfl
      · rfl
      · rfl
    have hstaging : (overlaid d marks tasks commands m).staging = m.staging := rfl
    simp only [stepTransfer, hstaging, hupload]
    cases m.staging.uploads[u]? with
    | none => rfl
    | some up =>
      cases ht : up.transfers[k]? with
      | none => simp [ht]
      | some t =>
        cases hr : uploadMission m u up t reply with
        | none => simp [ht, hr]
        | some p => simp [ht, hr]; rfl
  keeps := by
    intro m m1 os h
    obtain ⟨_, _, rfl⟩ := stepTransfer_only h
    exact ⟨rfl, rfl⟩

end Taramandal.Gcs.Unaborted
