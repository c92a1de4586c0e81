import Taramandal.Gcs.SavedShow

/-! # Where a resumed show goes on (`resume_pending_show`)

The elapsed time is rebuilt from two stamps of the wall clock: when the snapshot
was written, and when `start_trajectory` was called. The show itself begins later:
behind the release of the drones and the trigger wait, in which the playback task
is not yet in its loop, and behind the transition leg. -/
namespace Taramandal.Gcs.ResumePoint

open Lib.Run Core.Shows Core.Values Gcs.StartBridge Gcs.State Gcs.Playback Gcs.Fleet
open Gcs.Handover Gcs.ShowRecord Gcs.Shutdown Gcs.SavedShow

/-- `resume_pending_show`, with what the upload gate says of the saved
trajectory: the station, and the elapsed time or the error it raised. -/
def resumePendingShow (m : DroneManager) (removal : Removal) (gated : Except String (Show ℚ)) :
    DroneManager × Except String ℚ :=
  match m.pendingResumeState, gated with
  | none, _ => (m, .error "No pending saved show state to resume.")
  | some _, .error e => (m, .error ("Saved show cannot be resumed: " ++ e))
  | some state, .ok trajectory =>
    let saved := discardShowState removal m.playback.savedShow
    ({ m with
      activeTrajectory := some trajectory
      pendingResumeState := none
      playback := { m.playback with showMode := state.mode, savedShow := saved.1 } },
      if saved.2 then .error "OSError" else .ok (max 0 (state.savedAt - state.showStartedAt)))

def showElapsed (m : DroneManager) : Option ℚ :=
  if m.playback.isRunningTrajectory then
    m.playback.playbackStartTime.map fun startTime => m.monotonic - startTime
  else none

/-- The show time that playback has reached. The transition leg delays the show's
own waypoints by its length. -/
def showTime (m : DroneManager) : ℚ := max 0 ((showElapsed m).getD 0 - m.playback.startBridgeS)

/-- `_write_state_snapshot` writes the saved show: every few seconds of a show, and
once more at shutdown. -/
inductive Saves (m : DroneManager) : SavedShow → Prop where
  | periodic {faults m' os saved} (writable : Writable m faults)
      (write : writeSnapshot m faults = some (m', os)) (file : m'.playback.savedShow = some saved) :
      Saves m saved
  | shutdown {faults saved} (startedAt : m.playback.showStartedAt.isSome = true)
      (writable : Writable m faults) (file : lastSnapshot m faults = some saved) : Saves m saved

variable {saved : SavedShow} {l : Label}

lemma Saves.stamps {m : DroneManager} (h : Saves m saved) {startedAt : ℚ}
    (hstarted : m.playback.showStartedAt = some startedAt) :
    saved.savedAt = m.time ∧ saved.showStartedAt = startedAt := by
  cases h with
  | @periodic faults m' os _ hwritable hwrite hfile =>
    obtain ⟨hloaded, hfault⟩ := hwritable
    obtain ⟨trajectory, hactive⟩ := Option.isSome_iff_exists.mp hloaded
    obtain ⟨hactive, hdrones⟩ := Option.filter_eq_some_iff.mp hactive
    simp only [writeSnapshot, hactive, hstarted, hfault] at hwrite
    split at hwrite
    · simp only [of_decide_eq_true hdrones, Bool.false_eq_true, or_self, if_false,
        Option.some.injEq, Prod.mk.injEq] at hwrite
      obtain ⟨rfl, -⟩ := hwrite
      cases hfile
      exact ⟨rfl, rfl⟩
    · cases hwrite
  | @shutdown faults _ _ hwritable hfile =>
    obtain ⟨hloaded, hfault⟩ := hwritable
    obtain ⟨trajectory, hactive⟩ := Option.isSome_iff_exists.mp hloaded
    obtain ⟨hactive, hdrones⟩ := Option.filter_eq_some_iff.mp hactive
    simp only [lastSnapshot, hactive, hstarted, hfault, of_decide_eq_true hdrones,
      Bool.false_eq_true, or_self, if_false, Option.some.injEq] at hfile
    cases hfile
    exact ⟨rfl, rfl⟩

/-! ## The clock of a show -/

def InStep (m : DroneManager) : Label → Prop
  | .clock elapsed time => time = m.time + elapsed
  | _ => True

/-- The show's clock, if it runs, was set no earlier than the start in `m₀`, and
the start instant that the task waits for is no earlier either. -/
structure ShowClock (m₀ : DroneManager) (i : Nat) (m : DroneManager) : Prop where
  start : ∀ startTime ∈ m.playback.playbackStartTime, m₀.monotonic ≤ startTime
  trigger : ∀ t ∈ m.playback.tasks[i]?, ∀ startS, t.pc = .triggering startS → m₀.time ≤ startS

/-- The clocks since `m₀`. -/
structure ClocksSince (m₀ m : DroneManager) : Prop where
  step : m.time - m₀.time = m.monotonic - m₀.monotonic
  later : m₀.time ≤ m.time

section Task

variable {m₀ m : DroneManager} {i : Nat}

section

variable (h : ShowClock m₀ i m)
include h

lemma ShowClock.setTask {t : PlaybackTask}
    (ht : ∀ startS, t.pc = .triggering startS → m₀.time ≤ startS) :
    ShowClock m₀ i (setTask m i t) := by
  refine ⟨h.start, fun u hu => ?_⟩
  simp only [Playback.setTask, Option.mem_def, List.getElem?_set_self'] at hu
  obtain ⟨_, -, rfl⟩ := Option.map_eq_some_iff.mp hu
  exact ht

lemma ShowClock.finishLoop (t : PlaybackTask) (cancelled completed : Bool)
    (faults : Faults) : ShowClock m₀ i (finishLoop m i t cancelled completed faults) := by
  have hdone : ShowClock m₀ i (clearPlayback t.onboard
      (Playback.setTask m i { t with pc := .finished })) :=
    ⟨h.start, (h.setTask (t := { t with pc := .finished }) fun _ h => by cases h).trigger⟩
  unfold Playback.finishLoop
  cases cancelled with
  | true => exact hdone
  | false =>
    have hnone : ∀ startTime ∈ (none : Option ℚ), m₀.monotonic ≤ startTime := by simp
    simp only [Bool.false_eq_true, if_false, concludePlayback]
    split
    · exact ⟨hnone, hdone.trigger⟩
    · split <;> exact ⟨hnone, hdone.trigger⟩

lemma ShowClock.loopTop (t : PlaybackTask) (faults : Faults) :
    ShowClock m₀ i (loopTop m i t faults) := by
  unfold Playback.loopTop
  split
  · exact h.finishLoop ..
  · split
    · exact h.finishLoop ..
    · obtain ⟨⟨telemetry, hm1⟩, -⟩ := tickDrones_published t (m.monotonic - t.startTime) m.drones m
      generalize tickDrones t (m.monotonic - t.startTime) m.drones m = r at hm1
      obtain ⟨m1, sends⟩ := r
      obtain rfl : m1 = _ := hm1
      have hpublished : ShowClock m₀ i { m with telemetry := telemetry } := ⟨h.start, h.trigger⟩
      cases sends with
      | error e => exact hpublished.finishLoop ..
      | ok sends => cases sends <;> exact hpublished.setTask fun _ h => by cases h

lemma ShowClock.enterLoop (t : PlaybackTask) {startTime : ℚ}
    (hstart : m₀.monotonic ≤ startTime) (faults : Faults) :
    ShowClock m₀ i (enterLoop m i t startTime faults) := by
  have hset : ShowClock m₀ i
      { m with playback := { m.playback with playbackStartTime := some startTime } } :=
    ⟨fun _ hs => by cases hs; exact hstart, h.trigger⟩
  exact hset.loopTop _ faults

section

variable (hc : ClocksSince m₀ m) (t : PlaybackTask)
include hc

lemma ShowClock.broadcastTrigger {startS : ℚ} (hstart : m₀.time ≤ startS) (frame : Bytes) (faults : Faults) :
    ShowClock m₀ i (broadcastTrigger m i t startS frame faults).1 := by
  unfold Playback.broadcastTrigger
  split
  · exact h.setTask fun _ h => by cases h
  · split
    · refine h.enterLoop t ?_ faults
      have hstep := hc.step
      have hlater := hc.later
      have hlate : max 0 (m.time - startS) ≤ m.time - m₀.time :=
        max_le (by linarith) (by linarith)
      linarith
    · exact h.setTask fun _ h => by cases h; exact hstart

lemma ShowClock.firstStep (faults : Faults) : ShowClock m₀ i (firstStep m i t faults).1 := by
  unfold Playback.firstStep
  split
  · split <;> exact h.setTask fun _ h => by cases h
  · split
    · exact h.setTask fun _ h => by cases h
    · exact h.enterLoop t (by linarith [hc.step, hc.later]) faults

lemma ShowClock.released (faults : Faults) : ShowClock m₀ i (released m i t faults).1 := by
  unfold Playback.released
  dsimp only
  split
  · exact h.setTask fun _ h => by cases h
  next frame _ =>
    have hshow : ShowClock m₀ i
        { m with playback := { m.playback with onboardShowId := some t.showId } } :=
      ⟨h.start, h.trigger⟩
    refine hshow.broadcastTrigger ⟨hc.step, hc.later⟩ t ?_ frame faults
    have hlead : m.time + triggerLeadS ≤ max (t.triggerEpochMs / 1000) (m.time + triggerLeadS) :=
      le_max_right _ _
    have hlater := hc.later
    unfold triggerLeadS at hlead ⊢
    linarith

end

lemma ShowClock.deliverCancel (t : PlaybackTask) (faults : Faults) :
    ShowClock m₀ i (deliverCancel m i t faults) := by
  unfold Playback.deliverCancel
  split
  · exact h.finishLoop ..
  · exact h.setTask fun _ h => by cases h

end

variable {m' : DroneManager} {os : List Sent}

lemma ShowClock.ownTask {faults : Faults}
    (h : ShowClock m₀ i m) (hc : ClocksSince m₀ m) (hs : stepTask m i faults = some (m', os)) :
    ShowClock m₀ i m' := by
  obtain ⟨t, ht, -, ⟨-, rfl, -⟩ | ⟨-, hmove⟩⟩ := stepTask_cases hs
  · exact h.deliverCancel ..
  · cases hmove with
    | first => exact h.firstStep hc ..
    | released => exact h.released hc ..
    | triggered hpc => exact h.broadcastTrigger hc t (h.trigger t ht _ hpc) ..
    | waited => exact h.enterLoop t (by linarith [hc.step, hc.later]) faults
    | raised => exact h.finishLoop t false false faults
    | sent => exact h.setTask fun _ h => by cases h
    | woke => exact h.loopTop ..

lemma ShowClock.task {j : Nat} {faults : Faults}
    (h : ShowClock m₀ i m) (hc : ClocksSince m₀ m) (hothers : CancelledBut (some i) m.playback.tasks)
    (hs : stepTask m j faults = some (m', os)) : ShowClock m₀ i m' := by
  by_cases hij : i = j
  · subst hij
    exact h.ownTask hc hs
  · obtain ⟨t, ht, hlive, -, hcancel⟩ := stepTask_stepped hs
    rw [hcancel (hothers j t ht hlive (by simpa using hij))]
    constructor
    · unfold Playback.deliverCancel
      split <;> exact h.start
    · rw [deliverCancel_tasks, List.getElem?_set_ne (Ne.symm hij)]
      exact h.trigger

end Task

/-! ## A show since its start -/

/-- The show whose task is `i` was started in `m₀`. -/
structure Since (m₀ : DroneManager) (i : Nat) (m : DroneManager) : Prop where
  clocks : ClocksSince m₀ m
  startedAt : m.playback.showStartedAt = some m₀.time
  bridge : 0 ≤ m.playback.startBridgeS
  others : CancelledBut (some i) m.playback.tasks
  clock : ShowClock m₀ i m

variable {setup : Setup}

lemma startPlan_bridge_nonneg {m : DroneManager} {trajectory : Show ℚ}
    {execution : ExecutionMode} {plan : Plan ℚ} {bridgeS : ℚ}
    (h : startPlan setup m trajectory execution = .ok (plan, bridgeS)) : 0 ≤ bridgeS := by
  cases execution with
  | onboard =>
    simp only [startPlan] at h
    cases hp : onboardShowPlan setup m trajectory with
    | error e => rw [hp] at h; cases h
    | ok p => rw [hp] at h; cases h; exact le_refl 0
  | streamed =>
    simp only [startPlan, buildStartBridge] at h
    split at h
    · cases h
    · split at h
      · cases h; exact le_refl 0
      · split at h
        · cases h
        · cases h
          exact mul_nonneg (Nat.cast_nonneg _) (by norm_num [bridgeSampleS])

lemma started_since {m₀ m₁ : DroneManager}
    (hcancelled : CancelledBut m₀.playback.trajectoryTask m₀.playback.tasks)
    (hstart : startsShow setup m₀ l = true) (hs : RecordStep setup m₀ l m₁) :
    Since m₀ m₀.playback.tasks.length m₁ := by
  have hall := hs.cancelledBut hcancelled
  cases hs with
  | kept hnot => rw [hstart] at hnot; cases hnot
  | stopped hnot => rw [hstart] at hnot; cases hnot
  | started _ _ hplan hp _ htime hmono =>
    rw [hp] at hall
    refine ⟨⟨by rw [htime, hmono]; ring, htime.ge⟩, by rw [hp]; rfl, ?_, by rw [hp]; exact hall, ?_, ?_⟩
    · rw [hp]
      exact startPlan_bridge_nonneg hplan
    · rw [hp]
      simp [startPlayback, stopPlayback]
    · rw [hp]
      intro t ht startS hpc
      rw [startPlayback, ← length_cancelled m₀.playback, List.getElem?_concat_length] at ht
      cases ht
      cases hpc
  | discarded hdiscards =>
    cases l with
    | api o q f => cases q <;> first | cases hstart | cases hdiscards
    | _ => cases hdiscards
  | snapshot => cases hstart
  | task => cases hstart
  | setpoint => cases hstart
  | clock => cases hstart

lemma Since.stopped {m₀ m m' : DroneManager} {i : Nat} {removal : Removal} (h : Since m₀ i m)
    (hp : m'.playback = stopPlayback removal m.playback) (hb : Beside m m') : Since m₀ i m' := by
  refine ⟨⟨by rw [hb.time, hb.monotonic]; exact h.clocks.step, by rw [hb.time]; exact h.clocks.later⟩,
    by rw [hp]; exact h.startedAt, by rw [hp]; exact le_refl 0, ?_, by rw [hp]; simp [stopPlayback], ?_⟩
  · rw [hp]
    simp only [stopPlayback]
    split
    · exact h.others
    · exact h.others.stop
  · rw [hp]
    intro t ht startS hpc
    simp only [stopPlayback] at ht
    split at ht
    · exact h.clock.trigger t ht startS hpc
    · unfold cancelled at ht
      split at ht
      · exact h.clock.trigger t ht startS hpc
      next j _ =>
        rw [Option.mem_def, List.getElem?_modify] at ht
        obtain ⟨u, hu, rfl⟩ := Option.map_eq_some_iff.mp ht
        refine h.clock.trigger u hu startS ?_
        rw [← hpc]
        split
        · exact (cancel_pc u).symm
        · rfl

lemma Since.step {m₀ m m' : DroneManager} {i : Nat}
    (h : Since m₀ i m) (hnot : startsShow setup m l = false) (hstep : InStep m l)
    (hs : RecordStep setup m l m') : Since m₀ i m' := by
  cases hs with
  | kept _ hp hb =>
    exact ⟨⟨by rw [hb.time, hb.monotonic]; exact h.clocks.step, by rw [hb.time]; exact h.clocks.later⟩,
      by rw [hp]; exact h.startedAt, by rw [hp]; exact h.bridge, by rw [hp]; exact h.others,
      by rw [hp]; exact h.clock.start, by rw [hp]; exact h.clock.trigger⟩
  | stopped _ _ hp hb => exact h.stopped hp hb
  | started hyes => rw [hnot] at hyes; cases hyes
  | discarded _ hp _ htime hmono =>
    exact ⟨⟨by rw [htime, hmono]; exact h.clocks.step, by rw [htime]; exact h.clocks.later⟩,
      by rw [hp]; exact h.startedAt, by rw [hp]; exact h.bridge, by rw [hp]; exact h.others,
      by rw [hp]; exact h.clock.start, by rw [hp]; exact h.clock.trigger⟩
  | snapshot => exact ⟨⟨h.clocks.step, h.clocks.later⟩, h.startedAt, h.bridge, h.others,
      h.clock.start, h.clock.trigger⟩
  | task htask =>
    have hkept := stepTask_kept htask
    exact ⟨⟨by rw [hkept.time, hkept.monotonic]; exact h.clocks.step,
        by rw [hkept.time]; exact h.clocks.later⟩,
      hkept.startedAt.trans h.startedAt, by rw [hkept.bridge]; exact h.bridge, h.others.task htask,
      h.clock.task h.clocks h.others htask⟩
  | @setpoint j _ _ t sends ht =>
    refine ⟨⟨h.clocks.step, h.clocks.later⟩, h.startedAt, h.bridge,
      h.others.set ht fun hlive => ⟨hlive, rfl⟩, h.clock.start, fun u hu startS hpc => ?_⟩
    by_cases hij : j = i
    · subst hij
      simp only [setTask, Option.mem_def, List.getElem?_set_self', ht] at hu
      cases hu
      exact h.clock.trigger t ht startS hpc
    · rw [setTask, List.getElem?_set_ne hij] at hu
      exact h.clock.trigger u hu startS hpc
  | clock helapsed =>
    have hstep : _ = _ + _ := hstep
    refine ⟨⟨?_, ?_⟩, h.startedAt, h.bridge, h.others, h.clock.start, h.clock.trigger⟩
    · have := h.clocks.step
      simp only [hstep]
      linarith
    · have := h.clocks.later
      simp only [hstep]
      linarith

/-! ## The rule -/

/-- The elapsed time that a snapshot of a show comes back with is right at the
instant of the start, and after it only if the show's clock was set at that very
instant, with no transition leg. -/
lemma Since.elapsed_iff {m₀ m : DroneManager} {i : Nat} (h : Since m₀ i m)
    (hrunning : m.playback.isRunningTrajectory = true) :
    max 0 (m.time - m₀.time) = showTime m ↔ m.time = m₀.time ∨
      m.playback.playbackStartTime = some m₀.monotonic ∧ m.playback.startBridgeS = 0 := by
  have hstep := h.clocks.step
  have hlater := h.clocks.later
  have hbridge := h.bridge
  rw [max_eq_right (by linarith), showTime, showElapsed, if_pos hrunning]
  cases hstart : m.playback.playbackStartTime with
  | none =>
    rw [Option.map_none, Option.getD_none, max_eq_left (by linarith)]
    constructor
    · intro h; exact .inl (by linarith)
    · rintro (h | ⟨h, -⟩)
      · linarith
      · cases h
  | some startTime =>
    have hfrom := h.clock.start startTime hstart
    rw [Option.map_some, Option.getD_some, Option.some.injEq]
    constructor
    · intro heq
      rcases max_choice 0 (m.monotonic - startTime - m.playback.startBridgeS) with hmax | hmax
      · exact .inl (by linarith)
      · exact .inr ⟨by linarith, by linarith⟩
    · rintro (h | ⟨rfl, h⟩)
      · rw [max_eq_left (by linarith)]
        linarith
      · rw [h, max_eq_right (by linarith)]
        linarith

/-- In every run in which the clocks keep step from the start of a show on, the
show saved while it plays is resumed after a restart at the show time it had
reached exactly if no time had passed since the start, or its clock was set at
the instant of the start and it has no transition leg. -/
theorem resume_point_iff {setup : Setup} {init m₀ m₁ m : DroneManager} {as bs : List Label}
    {l : Label} {os₀ os₁ os : List Sent} (hfirst : init.playback.tasks = [])
    (h₀ : run (step setup) init as = some (m₀, os₀)) (hstart : startsShow setup m₀ l = true)
    (h₁ : step setup m₀ l = some (m₁, os₁))
    (hkeep : Along (step setup) (fun m l => startsShow setup m l = false ∧ InStep m l) m₁ bs)
    (hr : run (step setup) m₁ bs = some (m, os)) (hplaying : Playing m) {saved : SavedShow}
    (hsaved : Saves m saved) {restarted : DroneManager} {trajectory : Show ℚ} {removal : Removal}
    (hload : restarted.pendingResumeState = some saved) (hremoval : removal ≠ .failed) :
    (resumePendingShow restarted removal (.ok trajectory)).2 = .ok (showTime m) ↔
      m.time = m₀.time ∨
        m.playback.playbackStartTime = some m₀.monotonic ∧ m.playback.startBridgeS = 0 := by
  have hcancelled : CancelledBut m₀.playback.trajectoryTask m₀.playback.tasks :=
    run_invariant (I := fun m => CancelledBut m.playback.trajectoryTask m.playback.tasks)
      (A := fun _ _ => True) (fun _ _ _ _ h _ hs => (step_record hs).cancelledBut h)
      (by rw [hfirst]; exact cancelledBut_nil _) (along_of_labels fun _ _ => trivial) h₀
  have hsince : Since m₀ m₀.playback.tasks.length m :=
    run_invariant (I := Since m₀ m₀.playback.tasks.length)
      (fun _ _ _ _ h hk hs => h.step hk.1 hk.2 (step_record hs))
      (started_since hcancelled hstart (step_record h₁)) hkeep hr
  obtain ⟨hat, hfrom⟩ := hsaved.stamps hsince.startedAt
  have hresumed : (resumePendingShow restarted removal (.ok trajectory)).2 =
      .ok (max 0 (m.time - m₀.time)) := by
    simp only [resumePendingShow, hload, hat, hfrom]
    cases removal <;> first | rfl | exact absurd rfl hremoval
  rw [hresumed, Except.ok.injEq]
  exact hsince.elapsed_iff hplaying.1

instance (setup : Setup) (m : DroneManager) (l : Label) :
    Decidable (startsShow setup m l = false ∧ InStep m l) := by
  cases l <;> unfold InStep <;> infer_instance

def restartedWith (saved : SavedShow) : DroneManager :=
  { onPad with
    pendingResumeState := some saved
    playback := { onPad.playback with savedShow := some saved } }

/-- The snapshot that is written in `m`, if one is. -/
def writtenIn (m : DroneManager) : Option SavedShow :=
  (writeSnapshot m {}).bind fun r => r.1.playback.savedShow

lemma saves_writtenIn {m : DroneManager} (hwritable : Writable m {})
    (h : writtenIn m = some saved) : Saves m saved := by
  obtain ⟨⟨m', os⟩, hwrite, hfile⟩ := Option.bind_eq_some_iff.mp h
  exact .periodic hwritable hwrite hfile

/-- A show that begins to play as it is started, from where the fleet hovers, is
resumed where it was. -/
theorem resume_point_iff_hover : ∃ m₁ os₁ m os saved,
    step simSetup hovering startHover = some (m₁, os₁) ∧
      run (step simSetup) m₁ [.playback 0 {}, .clock (1 / 2) (1 / 2)] = some (m, os) ∧
      writtenIn m = some saved ∧ showTime m = 1 / 2 ∧
      (resumePendingShow (restartedWith saved) .removed (.ok saved.trajectory)).2 =
        .ok (showTime m) := by
  obtain ⟨⟨m₁, os₁⟩, h₁, hkeep, ⟨m, os⟩, hr, hplaying, hwritable, saved, hsaved, htime, hclock,
      hbridge⟩ :
      ∃ r₁ ∈ step simSetup hovering startHover,
      Along (step simSetup) (fun m l => startsShow simSetup m l = false ∧ InStep m l) r₁.1
        [.playback 0 {}, .clock (1 / 2) (1 / 2)] ∧
      ∃ r ∈ run (step simSetup) r₁.1 [.playback 0 {}, .clock (1 / 2) (1 / 2)], Playing r.1 ∧
      Writable r.1 {} ∧ ∃ saved ∈ writtenIn r.1, showTime r.1 = 1 / 2 ∧
      r.1.playback.playbackStartTime = some 0 ∧ r.1.playback.startBridgeS = 0 := by decide +kernel
  have hload : (restartedWith saved).pendingResumeState = some saved := rfl
  exact ⟨m₁, os₁, m, os, saved, h₁, hr, hsaved, htime,
    (resume_point_iff rfl (run_nil hovering) (by decide +kernel) h₁ hkeep hr hplaying
      (saves_writtenIn hwritable hsaved) hload (by decide)).mpr (.inr ⟨hclock, hbridge⟩)⟩

/-- A show that was to wait five seconds for its trigger comes back five seconds
ahead of where it was. -/
theorem resumed_ahead_of_show : ∃ m₀ os₀ m₁ os₁ m os saved, run (step simSetup) onPad (climbOut ++
        [.tick {}, .api "operator" (.uploadTrajectory "hover.json" false none) {},
          .receive 0 hoverFile.toUTF8.toList, .receive 0 []]) = some (m₀, os₀) ∧
      step simSetup m₀ (.api "operator" (.startTrajectory ⟨"LOCAL", 5000, .streamed⟩) {}) =
        some (m₁, os₁) ∧
      run (step simSetup) m₁ [.playback 0 {}, .clock 5 5, .playback 0 {},
        .clock (1 / 2) (11 / 2)] = some (m, os) ∧
      Playing m ∧ Saves m saved ∧ showTime m = 1 / 2 ∧
      (resumePendingShow (restartedWith saved) .removed (.ok saved.trajectory)).2 =
        .ok (11 / 2) := by
  obtain ⟨⟨m₀, os₀⟩, h₀, ⟨m₁, os₁⟩, h₁, ⟨m, os⟩, hr, hplaying, hwritable, ⟨saved, hsaved, h⟩,
      htime⟩ :
      ∃ r₀ ∈ run (step simSetup) onPad
      (climbOut ++ [.tick {}, .api "operator" (.uploadTrajectory "hover.json" false none) {},
      .receive 0 hoverFile.toUTF8.toList, .receive 0 []]), ∃ r₁ ∈ step simSetup r₀.1
      (.api "operator" (.startTrajectory ⟨"LOCAL", 5000, .streamed⟩) {}),
      ∃ r ∈ run (step simSetup) r₁.1 [.playback 0 {}, .clock 5 5, .playback 0 {}, .clock (1 / 2)
      (11 / 2)], Playing r.1 ∧ Writable r.1 {} ∧ (∃ saved ∈ writtenIn r.1, saved.savedAt = 11 / 2 ∧
      saved.showStartedAt = 0) ∧ showTime r.1 = 1 / 2 := by decide +kernel
  refine ⟨m₀, os₀, m₁, os₁, m, os, saved, h₀, h₁, hr, hplaying, saves_writtenIn hwritable hsaved,
    htime, ?_⟩
  simp only [resumePendingShow, restartedWith, discardShowState, h.1, h.2]
  norm_num

end Taramandal.Gcs.ResumePoint
