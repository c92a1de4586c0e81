import Taramandal.Gcs.AbortSilence
import Taramandal.Gcs.SavedShow

/-! # The fleet of a show

The API starts a show in the formation hold, and takes the lifecycle to RUNNING
with it. Whatever takes the lifecycle out of RUNNING stops the playback, or is its
end. So a show is played by a fleet that is up (`playing_up`). -/
namespace Taramandal.Gcs.ShowAloft

open Lib.Run Gcs.FleetFsm Gcs.State Gcs.Playback Gcs.Launch Gcs.Lifecycle Gcs.Staging
open Gcs.Handlers Gcs.Fleet Gcs.ShowRecord Gcs.SavedShow Gcs.AbortSilence

def callsStart : Label → Bool
  | .method (.startTrajectory _ _) _ => true
  | _ => false

def Aloft (m : DroneManager) : Prop := Playing m → m.fsm.state = .running

section Steps

variable {m : DroneManager} {i : Nat} {t t' : PlaybackTask}

lemma finishLoop_notRunning (m : DroneManager) (i : Nat) (t : PlaybackTask)
    (cancelled completed : Bool) (faults : Faults) :
    (finishLoop m i t cancelled completed faults).playback.isRunningTrajectory = false := by
  unfold finishLoop
  cases cancelled with
  | true => rfl
  | false =>
    obtain ⟨_, _, _, _, _, hm', -⟩ := concludePlayback_spec completed faults
      (clearPlayback t.onboard (setTask m i { t with pc := .finished }))
    simp only [Bool.false_eq_true, if_false, hm']
    rfl

lemma playing_of_setTask (ht : m.playback.tasks[i]? = some t)
    (hlive : t'.pc ≠ .finished → t.pc ≠ .finished) (hcancel : t'.cancelRequested = t.cancelRequested)
    (h : Playing (setTask m i t')) : Playing m := by
  obtain ⟨hrunning, j, hj, u, hu, hlive', hgoing⟩ := h
  refine ⟨hrunning, j, hj, ?_⟩
  simp only [setTask, Option.mem_def, List.getElem?_set] at hu
  by_cases hij : i = j
  · subst hij
    rw [if_pos rfl, if_pos (List.getElem?_eq_some_iff.mp ht).1, Option.some.injEq] at hu
    subst hu
    exact ⟨t, ht, hlive hlive', hcancel ▸ hgoing⟩
  · rw [if_neg hij] at hu
    exact ⟨u, hu, hlive', hgoing⟩

variable {m' : DroneManager} {os : List Sent}

lemma Aloft.task {faults : Faults} (h : Aloft m)
    (hs : stepTask m i faults = some (m', os)) : Aloft m' := by
  obtain ⟨t, ht, hlive, hend, -⟩ := stepTask_end hs
  intro hplaying
  cases hend with
  | rests t' touched hcancel =>
    obtain ⟨⟨_, _, _, rfl⟩, -⟩ := touched
    exact h (playing_of_setTask ht (fun _ => hlive) hcancel hplaying)
  | leaves t' cancelled completed faults touched =>
    have hrunning := hplaying.1
    rw [finishLoop_notRunning] at hrunning
    cases hrunning

lemma Aloft.tick (h : Aloft m) (setup : Setup) (faults : Faults) :
    Aloft (evaluateLifecycle m faults).1 := by
  intro hplaying
  rcases evaluateLifecycle_playback setup m faults with ⟨hstops, hp⟩ | ⟨-, hp⟩
  · have hrun : m.fsm.state = .running := h (by unfold Playing at hplaying ⊢; rwa [hp] at hplaying)
    have hup : ¬ (armedIds m = [] ∧ launchInProgress m = false) := by
      simpa [stops, hrun] using hstops
    have hsame : (evaluateLifecycle m faults).1 = m := by
      have hgoing : ¬ (airborneStates.contains m.fsm.state && (armedIds m).isEmpty &&
          !launchInProgress m) = true := by
        simpa [hrun, airborneStates] using hup
      simp only [evaluateLifecycle, if_neg hgoing, climbsChecked]
      simp [hrun]
    rw [hsame]
    exact hrun
  · have hrunning := hplaying.1
    rw [hp] at hrunning
    cases hrunning

lemma Aloft.start (h : Aloft m) (setup : Setup) (faults : Faults) (operator : String)
    (req : StartRequest) : Aloft (startShow setup m faults operator req).1 := by
  rcases startShow_cases setup m faults operator req with
    hrefused | ⟨hhold, -, -, trajectory, -, ⟨e, he, hraised⟩ | ⟨-, f, _, hf, hstarted⟩⟩
  · obtain ⟨f, auditFile, hm', hstate⟩ := hrefused.audit
    rw [hm']
    exact fun hplaying => hstate.trans (h hplaying)
  · rw [hraised]
    rcases startTrajectory_cases setup faults trajectory req m with ⟨-, hsame | hstop⟩ | ⟨hnone, -⟩
    · rw [hsame]
      exact h
    · rw [hstop, stopTrajectory_playback]
      exact fun hplaying => by cases hplaying.1
    · rw [he] at hnone
      cases hnone
  · rw [hstarted]
    exact fun _ => hf

lemma Aloft.step {setup : Setup} {l : Label} (h : Aloft m)
    (hcall : callsStart l = false) (hs : step setup m l = some (m', os)) : Aloft m' := by
  by_cases hstart : startsShow setup m l = true
  · cases l with
    | api operator r faults =>
      cases r with
      | startTrajectory req =>
        cases hs
        exact h.start setup faults operator req
      | _ => cases hstart
    | method c faults =>
      cases c with
      | startTrajectory trajectory req => cases hcall
      | _ => cases hstart
    | _ => cases hstart
  · cases step_stepped hs with
    | refused haudit =>
      obtain ⟨_, _, rfl, hf⟩ := haudit
      exact fun hplaying => hf.trans (h hplaying)
    | launched _ hground =>
      intro hplaying
      have hrun : m.fsm.state = .running := h hplaying
      simp [hrun] at hground
    | @called droneIds ekf wrapped =>
      obtain ⟨_, hm'⟩ := startLaunch_only m droneIds ekf wrapped
      rw [hm']
      exact h
    | started hstarts => exact absurd hstarts hstart
    | stopped hstopped =>
      intro hplaying
      have hrunning := hplaying.1
      rw [hstopped.notRunning] at hrunning
      cases hrunning
    | aborted => exact h
    | saved => exact h
    | receiving => exact h
    | uploaded trajectory =>
      obtain ⟨_, _, hm'⟩ := uploadShow_only setup m trajectory
      rw [hm']
      exact h
    | @ticked faults =>
      obtain rfl : (evaluateLifecycle m faults).1 = m' := congrArg Prod.fst (Option.some.inj hs)
      exact h.tick setup faults
    | sequence hsequence =>
      obtain ⟨_, rfl⟩ := hsequence.frame
      exact h
    | drone _ _ _ hone =>
      rcases hone.frame with ⟨_, rfl, -⟩ | ⟨-, rfl⟩
      · exact h
      · exact h
    | recovery => exact h
    | command => exact h
    | playback => exact h.task hs
    | setpoint ht =>
      intro hplaying
      refine h (playing_of_setTask ht ?_ ?_ hplaying)
      · exact id
      · rfl
    | snapshot => exact h
    | receive => exact h
    | transfer htransfer =>
      obtain ⟨_, _, rfl⟩ := stepTransfer_only htransfer
      exact h
    | telemetry htelemetry =>
      obtain ⟨_, _, rfl⟩ := htelemetry.rest
      exact h
    | clock => exact h
    | bench => exact h

end Steps

lemma playing_up {setup : Setup} {init m : DroneManager} {as : List Label} {os : List Sent}
    (hfirst : init.playback.tasks = []) (hcalls : ∀ l ∈ as, callsStart l = false)
    (hrun : run (step setup) init as = some (m, os)) (hplaying : Playing m) : isUp m = true := by
  have hinit : Aloft init := by
    rintro ⟨-, i, -, t, ht, -⟩
    rw [hfirst] at ht
    cases ht
  have haloft : Aloft m := run_invariant (A := fun _ l => callsStart l = false)
    (fun _ _ _ _ h hcall hs => h.step hcall hs) hinit (along_of_labels hcalls) hrun
  rw [isUp_iff, haloft hplaying]
  simp

end Taramandal.Gcs.ShowAloft
