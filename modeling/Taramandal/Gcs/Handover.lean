import Taramandal.Gcs.Fleet

/-! # From one show to the next

A cancelled playback task runs its `finally` block at some later time, and the
block writes what the next show has just set. It is kept from doing so only by
having run before that start, or by never having entered the loop. -/
namespace Taramandal.Gcs.Handover

open Lib.Run Gcs.State Gcs.Playback Gcs.Launch Gcs.Staging
open Gcs.Fleet

/-- Nothing but another task than the `j`-th has changed: not the flags, the
recording, the onboard show, the times and the file of the playback, nor any
drone's planned point. -/
def SameShow (m m' : DroneManager) (j : Nat) : Prop :=
  ∃ tasks, m' = { m with playback := { m.playback with tasks := tasks } } ∧
    tasks[j]? = m.playback.tasks[j]?

/-- The show of the manager's task is its own: no other task's step changes
anything of it, and until it ends or is stopped its loop goes on. -/
def ShowUndisturbed (setup : Setup) (m : DroneManager) : Prop :=
  ∀ j, m.playback.trajectoryTask = some j →
    (∀ i faults m' os, i ≠ j → step setup m (.playback i faults) = some (m', os) →
      SameShow m m' j) ∧
    ∀ t, m.playback.tasks[j]? = some t → t.pc ≠ .finished → m.playback.playingTrajectory ≠ none →
        m.playback.isRunningTrajectory = true ∧ t.cancelRequested = false

/-- A show is started only once no task is inside its loop any more. -/
def StartsClear (setup : Setup) (m : DroneManager) (l : Label) : Prop :=
  startsShow setup m l = true → ∀ t ∈ m.playback.tasks, PlaybackPc.inLoop t.pc = false

instance (setup : Setup) (m : DroneManager) (l : Label) : Decidable (StartsClear setup m l) :=
  inferInstanceAs (Decidable (_ → _))

/-! ## The invariant -/

/-- At most the manager's task is not cancelled, no other is inside its loop
while it has one, and its own loop's condition stands unless it was stopped. -/
structure OneShow (p : Playback) : Prop where
  current : ∀ j, p.trajectoryTask = some j → ∃ t, p.tasks[j]? = some t ∧
    (t.pc ≠ .finished → p.playingTrajectory ≠ none →
      p.isRunningTrajectory = true ∧ t.cancelRequested = false)
  others : ∀ i t, p.tasks[i]? = some t → t.pc ≠ .finished → p.trajectoryTask ≠ some i →
    t.cancelRequested = true
  cleared : ∀ i t, p.tasks[i]? = some t → PlaybackPc.inLoop t.pc = true →
    p.trajectoryTask ≠ some i → p.trajectoryTask = none

variable {p p' : Playback}

lemma OneShow.congr (h : OneShow p) (htask : p'.trajectoryTask = p.trajectoryTask)
    (htasks : p'.tasks = p.tasks) (hplaying : p'.playingTrajectory = p.playingTrajectory)
    (hrunning : p'.isRunningTrajectory = p.isRunningTrajectory) : OneShow p' := by
  obtain ⟨hcurrent, hothers, hcleared⟩ := h
  constructor
  · rw [htask, htasks, hplaying, hrunning]; exact hcurrent
  · rw [htask, htasks]; exact hothers
  · rw [htask, htasks]; exact hcleared

lemma cancel_pc (t : PlaybackTask) : (PlaybackTask.cancel t).pc = t.pc := by
  unfold PlaybackTask.cancel
  split <;> rfl

variable {t : PlaybackTask}

lemma cancel_requested (h : t.pc ≠ .finished) : (PlaybackTask.cancel t).cancelRequested = true := by
  unfold PlaybackTask.cancel
  rw [if_neg h]

variable {i : Nat}

lemma OneShow.cancelled (h : OneShow p) (ht : (cancelled p)[i]? = some t) :
    t.pc ≠ .finished → t.cancelRequested = true := by
  unfold Playback.cancelled at ht
  split at ht
  next htask => exact fun hlive => h.others i t ht hlive (by rw [htask]; simp)
  next j htask =>
    rw [List.getElem?_modify] at ht
    obtain ⟨u, hu, rfl⟩ := Option.map_eq_some_iff.mp ht
    by_cases hj : j = i
    · rw [if_pos hj, cancel_pc]
      exact cancel_requested
    · rw [if_neg hj]
      exact fun hlive => h.others i u hu hlive (by rw [htask]; simpa using hj)

lemma cancelled_pc (ht : (cancelled p)[i]? = some t) : ∃ u ∈ p.tasks, t.pc = u.pc := by
  unfold Playback.cancelled at ht
  split at ht
  · exact ⟨t, List.mem_of_getElem? ht, rfl⟩
  · rw [List.getElem?_modify] at ht
    obtain ⟨u, hu, rfl⟩ := Option.map_eq_some_iff.mp ht
    refine ⟨u, List.mem_of_getElem? hu, ?_⟩
    split
    · exact cancel_pc u
    · rfl

lemma OneShow.stopped (h : OneShow p) (hs : Stopped p p') : OneShow p' := by
  rcases hs.tasks with ⟨htask, htasks⟩ | ⟨htask, htasks⟩
  · constructor
    · intro j hj
      obtain ⟨t, ht, -⟩ := h.current j (htask ▸ hj)
      exact ⟨t, by rw [htasks]; exact ht, fun _ hplaying => absurd hs.notPlaying hplaying⟩
    · rw [htask, htasks]; exact h.others
    · rw [htask, htasks]; exact h.cleared
  · constructor
    · intro j hj
      rw [htask] at hj
      cases hj
    · intro i t ht hlive _
      exact h.cancelled (htasks ▸ ht) hlive
    · exact fun _ _ _ _ _ => htask

lemma OneShow.started (h : OneShow p) (hclear : ∀ t ∈ p.tasks, PlaybackPc.inLoop t.pc = false)
    (hs : Started p p') : OneShow p' := by
  obtain ⟨t, hpc, hcancel, htasks⟩ := hs.tasks
  have hlen := length_cancelled p
  have hold : ∀ i u, p'.tasks[i]? = some u → p'.trajectoryTask ≠ some i →
      (Playback.cancelled p)[i]? = some u := by
    intro i u hu hi
    rw [htasks, List.getElem?_append] at hu
    split at hu
    · exact hu
    next hge =>
      have hlast : i = (Playback.cancelled p).length := by
        by_contra hne
        have hpos : i - (Playback.cancelled p).length ≠ 0 := by omega
        rw [List.getElem?_eq_none (by simp; omega)] at hu
        cases hu
      rw [hs.current, hlast, hlen] at hi
      exact absurd rfl hi
  constructor
  · intro j hj
    rw [hs.current, Option.some.injEq] at hj
    exact ⟨t, by rw [htasks, ← hj, ← hlen]; simp, fun _ _ => ⟨hs.running, hcancel⟩⟩
  · exact fun i u hu hlive hi => h.cancelled (hold i u hu hi) hlive
  · intro i u hu hin hi
    obtain ⟨v, hv, heq⟩ := cancelled_pc (hold i u hu hi)
    rw [heq, hclear v hv] at hin
    cases hin

variable {m : DroneManager}

variable {m' : DroneManager} {setup : Setup}

/-- A step of the `i`-th task. One that is not the manager's is cancelled, and
with another in its place it is not inside its loop. -/
lemma OneShow.task {faults : Faults} (h : OneShow m.playback)
    (ht : m.playback.tasks[i]? = some t) (hlive : t.pc ≠ .finished)
    (hs : TaskStepped m i t.cancelRequested m')
    (hcancel : t.cancelRequested = true → m' = deliverCancel m i t faults) :
    OneShow m'.playback := by
  obtain ⟨t', htasks, hown⟩ := hs.own
  have hlt : i < m.playback.tasks.length := (List.getElem?_eq_some_iff.mp ht).1
  have hself : m'.playback.tasks[i]? = some t' := by rw [htasks]; simp [hlt]
  have hother : ∀ k, k ≠ i → m'.playback.tasks[k]? = m.playback.tasks[k]? := fun k hk => by
    rw [htasks, List.getElem?_set_ne (Ne.symm hk)]
  have hfinished : m.playback.trajectoryTask ≠ some i → t'.pc = .finished := by
    intro hi
    rw [hcancel (h.others i t ht hlive hi), deliverCancel_tasks] at hself
    simp only [List.getElem?_set_self hlt, Option.some.injEq] at hself
    rw [← hself]
  constructor
  · intro j hj
    rw [hs.task] at hj
    rw [hs.playing]
    obtain ⟨u, hu, hcurrent⟩ := h.current j hj
    by_cases hji : j = i
    · subst hji
      rw [ht, Option.some.injEq] at hu
      subst hu
      refine ⟨t', hself, fun hlive' hplaying => ?_⟩
      rcases hown with hfin | ⟨hc, hrun⟩
      · exact absurd hfin hlive'
      · rw [hrun, hc]
        exact hcurrent hlive hplaying
    · have hi : m.playback.trajectoryTask ≠ some i := by rw [hj]; simpa using hji
      have hout : ¬ PlaybackPc.inLoop t.pc = true := fun hin => by
        rw [h.cleared i t ht hin hi] at hj
        cases hj
      refine ⟨u, (hother j hji).trans hu, ?_⟩
      rw [hcancel (h.others i t ht hlive hi), deliverCancel, if_neg hout]
      exact hcurrent
  · intro k u hu hlive' hk
    rw [hs.task] at hk
    by_cases hki : k = i
    · subst hki
      rw [hself, Option.some.injEq] at hu
      exact absurd (hu ▸ hfinished hk) hlive'
    · exact h.others k u ((hother k hki).symm.trans hu) hlive' hk
  · intro k u hu hin hk
    rw [hs.task] at hk ⊢
    by_cases hki : k = i
    · subst hki
      rw [hself, Option.some.injEq] at hu
      rw [← hu, hfinished hk] at hin
      cases hin
    · exact h.cleared k u ((hother k hki).symm.trans hu) hin hk

/-- A setpoint's step changes neither where a task is nor whether it is cancelled. -/
lemma OneShow.setpoint {sends : List SendTask} (h : OneShow m.playback)
    (ht : m.playback.tasks[i]? = some t) :
    OneShow (setTask m i { t with sends := sends }).playback := by
  have hlt : i < m.playback.tasks.length := (List.getElem?_eq_some_iff.mp ht).1
  have hold : ∀ (k : Nat) (u : PlaybackTask),
      (setTask m i { t with sends := sends }).playback.tasks[k]? = some u → ∃ v : PlaybackTask,
      m.playback.tasks[k]? = some v ∧ u.pc = v.pc ∧ u.cancelRequested = v.cancelRequested := by
    intro k u hu
    simp only [setTask, List.getElem?_set] at hu
    split at hu
    next hki =>
      subst hki
      simp only [Option.some.injEq] at hu
      exact ⟨t, ht, by rw [← hu], by rw [← hu]⟩
    · exact ⟨u, hu, rfl, rfl⟩
  constructor
  · intro j hj
    obtain ⟨v, hv, hcurrent⟩ := h.current j hj
    have hjlt : j < (setTask m i { t with sends := sends }).playback.tasks.length := by
      simpa [setTask] using (List.getElem?_eq_some_iff.mp hv).1
    obtain ⟨w, hw, hpc, hc⟩ := hold j _ (List.getElem?_eq_getElem hjlt)
    rw [hv, Option.some.injEq] at hw
    subst hw
    exact ⟨_, List.getElem?_eq_getElem hjlt, by rw [hpc, hc]; exact hcurrent⟩
  · intro k u hu hlive hk
    obtain ⟨v, hv, hpc, hc⟩ := hold k u hu
    rw [hc]
    exact h.others k v hv (hpc ▸ hlive) hk
  · intro k u hu hin hk
    obtain ⟨v, hv, hpc, -⟩ := hold k u hu
    exact h.cleared k v hv (hpc ▸ hin) hk

lemma OneShow.step {l : Label} (h : OneShow m.playback)
    (hclear : StartsClear setup m l) (hs : Stepped setup m l m') : OneShow m'.playback := by
  cases hs with
  | refused hs => obtain ⟨_, _, rfl, -⟩ := hs; exact h
  | launched => exact h
  | called =>
    obtain ⟨_, hm'⟩ := startLaunch_only m _ _ _
    rw [hm']
    exact h
  | started hstarts hs => exact h.started (hclear hstarts) hs
  | stopped hs => exact h.stopped hs
  | aborted => exact h
  | saved => exact h.congr rfl rfl rfl rfl
  | receiving => exact h
  | uploaded trajectory =>
    obtain ⟨_, _, hm'⟩ := uploadShow_only setup m trajectory
    rw [hm']
    exact h
  | ticked hs =>
    rcases hs.playback with heq | hs
    · rw [heq]; exact h
    · exact h.stopped hs
  | sequence hs => obtain ⟨_, rfl⟩ := hs.frame; exact h
  | drone _ _ _ hs =>
    rcases hs.frame with ⟨_, rfl, -⟩ | ⟨-, rfl⟩
    · exact h
    · exact h
  | recovery => exact h
  | command => exact h
  | playback ht hlive hs hcancel => exact h.task ht hlive hs hcancel
  | setpoint ht => exact h.setpoint ht
  | snapshot => exact h.congr rfl rfl rfl rfl
  | receive => exact h
  | transfer hs => obtain ⟨_, _, rfl⟩ := stepTransfer_only hs; exact h
  | telemetry hs => obtain ⟨_, _, rfl⟩ := hs.rest; exact h
  | clock => exact h
  | bench => exact h

lemma OneShow.undisturbed (h : OneShow m.playback) : ShowUndisturbed setup m := by
  intro j hj
  constructor
  · intro i faults m' os hij hs
    obtain ⟨t, ht, hlive, -, hcancel⟩ := stepTask_stepped hs
    have hi : m.playback.trajectoryTask ≠ some i := by rw [hj]; simpa using Ne.symm hij
    have hout : ¬ PlaybackPc.inLoop t.pc = true := fun hin => by
      rw [h.cleared i t ht hin hi] at hj
      cases hj
    rw [hcancel (h.others i t ht hlive hi), deliverCancel, if_neg hout]
    exact ⟨_, rfl, List.getElem?_set_ne hij⟩
  · intro t ht
    obtain ⟨u, hu, hcurrent⟩ := h.current j hj
    rw [ht, Option.some.injEq] at hu
    subst hu
    exact hcurrent

/-- In every run that starts a show only once the task of the show before it is
out of its loop, no show is disturbed by another's task. -/
theorem newShow_undisturbed {setup : Setup} {init m : DroneManager} {ls : List Label}
    {os : List Sent}
    (hfirst : init.playback.trajectoryTask = none ∧ init.playback.tasks = [])
    (hclear : Along (step setup) (StartsClear setup) init ls)
    (hrun : run (step setup) init ls = some (m, os)) : ShowUndisturbed setup m := by
  have hinit : OneShow init.playback := by
    constructor
    · intro j hj
      rw [hfirst.1] at hj
      cases hj
    · intro i t ht
      rw [hfirst.2] at ht
      cases ht
    · intro i t ht
      rw [hfirst.2] at ht
      cases ht
  have hinv : OneShow m.playback := run_invariant (I := fun m => OneShow m.playback)
    (fun _ _ _ _ h hclear hs => h.step hclear (step_stepped hs)) hinit hclear hrun
  exact hinv.undisturbed

def hovering : DroneManager where
  drones := [0]
  drones_nodup := onPad.drones_nodup
  telemetry := fun _ =>
    { connected := true, batteryPercent := 90, satellites := 12, lastHeartbeat := some 0
      positionAt := some 0, fleetZ := 2 }

def startHover : Label := .method (.startTrajectory hoverShow ⟨"LOCAL", 0, .streamed⟩) {}

/-- The second start waits for the first show's cleanup. -/
theorem newShow_undisturbed_hover : ∃ m os, run (step simSetup) hovering
        [startHover, .playback 0 {}, .method .stopTrajectory {}, .playback 0 {}, startHover] =
      some (m, os) ∧ m.playback.isRunningTrajectory = true ∧ ShowUndisturbed simSetup m := by
  obtain ⟨⟨m, os⟩, hrun, hrunning⟩ :
      ∃ r ∈ run (step simSetup) hovering [startHover, .playback 0 {}, .method .stopTrajectory {},
      .playback 0 {}, startHover], r.1.playback.isRunningTrajectory := by decide +kernel
  exact ⟨m, os, hrun, hrunning, newShow_undisturbed ⟨rfl, rfl⟩ (by decide +kernel) hrun⟩

/-- The second start comes first: the first show's cleanup then ends the second
show and its recording. -/
theorem newShow_ended_by_old : ∃ m os m' os', run (step simSetup) hovering
        [startHover, .playback 0 {}, .method .stopTrajectory {}, startHover] = some (m, os) ∧
      m.playback.trajectoryTask = some 1 ∧ m.playback.isRunningTrajectory = true ∧
      step simSetup m (.playback 0 {}) = some (m', os') ∧
      m'.playback.isRunningTrajectory = false ∧ m'.playback.isRecordingTelemetry = false ∧
      ¬ ShowUndisturbed simSetup m := by
  obtain ⟨⟨m, os⟩, hrun, htask, hrunning, ⟨m', os'⟩, hstep, h'⟩ :
      ∃ r ∈ run (step simSetup) hovering [startHover, .playback 0 {}, .method .stopTrajectory {},
      startHover], r.1.playback.trajectoryTask = some 1 ∧ r.1.playback.isRunningTrajectory ∧
      ∃ r' ∈ step simSetup r.1 (.playback 0 {}), r'.1.playback.isRunningTrajectory = false ∧
      r'.1.playback.isRecordingTelemetry = false := by decide +kernel
  refine ⟨m, os, m', os', hrun, htask, hrunning, hstep, h'.1, h'.2, fun hund => ?_⟩
  obtain ⟨tasks, hm', -⟩ := (hund 1 htask).1 0 {} m' os' (by decide) hstep
  rw [hm', hrunning] at h'
  cases h'.1

end Taramandal.Gcs.Handover
