import Taramandal.Gcs.AbortSafety

/-! # No setpoint for an aborted drone

Two things send setpoints: a launch, and the playback. While the fleet is up no
launch is in progress, so none has the drone's climb ahead, and the playback
asks for the aborted flag once more right before each call. -/
namespace Taramandal.Gcs.AbortSilence

open Lib.Run Core.Shows Gcs.FleetFsm Gcs.State Gcs.Playback Gcs.Emergency Gcs.Launch Gcs.Lifecycle
open Gcs.Staging Gcs.Handlers Gcs.Fleet Gcs.LaunchSafety Gcs.AbortSafety

def isSetpoint : VehicleCall → Bool
  | .setPositionNed _ _ _ _ => true
  | .setPositionGlobal _ _ _ _ _ _ => true
  | .setPositionVelocityAccelerationNed _ _ _ _ _ => true
  | _ => false

/-- A setpoint call on drone `d`. -/
def setpointTo (d : Nat) : Sent → Bool
  | .call e c => e = d && isSetpoint c
  | .broadcast _ => false

/-- Drone `d` is sent no setpoint. -/
def Silent (d : Nat) (os : List Sent) : Prop := ∀ s ∈ os, setpointTo d s = false

@[simp] lemma silent_nil (d : Nat) : Silent d [] := fun _ hs => absurd hs List.not_mem_nil

variable {d e : Nat}

lemma silent_call {c : VehicleCall} (h : isSetpoint c = false) : Silent d [.call e c] := by
  intro s hs
  obtain rfl := List.mem_singleton.mp hs
  simp [setpointTo, h]

lemma silent_broadcast (d : Nat) (frame : Core.Values.Bytes) : Silent d [.broadcast frame] := by
  intro s hs
  obtain rfl := List.mem_singleton.mp hs
  rfl

/-! ## What the manager sends -/

lemma cancelFrame_silent (d : Nat) (faults : Faults) (showId : Option Core.Mission.ShowId) :
    Silent d (cancelFrame faults showId) := by
  unfold cancelFrame
  split
  · exact silent_nil d
  · split
    · split
      · exact silent_nil d
      · exact silent_broadcast d _
    · exact silent_nil d

lemma stopTrajectory_silent (d : Nat) (faults : Faults) (m : DroneManager) :
    Silent d (stopTrajectory faults m).2.1 := by
  have hsent : (stopTrajectory faults m).2.1 = cancelFrame faults m.playback.onboardShowId := by
    unfold stopTrajectory
    dsimp only
    split
    · rfl
    · split <;> rfl
  rw [hsent]
  exact cancelFrame_silent d faults _

lemma startTrajectory_silent (d : Nat) (setup : Setup) (faults : Faults) (trajectory : Show ℚ)
    (req : StartRequest) (m : DroneManager) :
    Silent d (startTrajectory setup faults trajectory req m).2.1 := by
  have hstop := stopTrajectory_silent d faults m
  unfold startTrajectory
  split
  · exact silent_nil d
  · split
    next h => rw [h] at hstop; exact hstop
    next h => rw [h] at hstop; exact hstop

variable {os : List Sent} {reply : Reply}

lemma stepCommand_silent {t t' : CommandTask} (h : stepCommand t reply = some (t', os)) :
    Silent d os := by
  unfold stepCommand at h
  split at h
  · split at h <;> cases h <;> exact silent_call rfl
  · cases h
    refine silent_call ?_
    cases t.mode <;> rfl
  · cases h; exact silent_nil d
  · cases h

variable {faults : Faults} {m : DroneManager}

variable {c : Command} {operator trigger : String} {ekf : Bool} {pc : LaunchPc} {k i : Nat}

lemma checked_silent {act : Handled} (h : Silent d act.2.1) :
    Silent d (checked m faults c operator trigger act).2.1 := by
  unfold checked
  split
  · exact h
  · exact silent_nil d

lemma applied_silent {act : DroneManager → Handled} (h : ∀ m, Silent d (act m).2.1) :
    Silent d (applied m faults c operator trigger act).2.1 := by
  unfold applied
  split
  · exact h _
  · exact silent_nil d

lemma emergency_silent (d : Nat) (m : DroneManager) (faults : Faults) (mode : AbortMode)
    (operator trigger : String) : Silent d (emergency m faults mode operator trigger).2.1 := by
  unfold emergency triggerEmergency
  cases m.fsm.apply (emergencyCommand mode) operator trigger m.time with
  | error e => exact silent_nil d
  | ok f =>
    have hstop := stopTrajectory_silent d faults (m.moveFsm faults.auditWrite f)
    dsimp only
    generalize stopTrajectory faults (m.moveFsm faults.auditWrite f) = r at hstop ⊢
    obtain ⟨m1, sent, raised⟩ := r
    cases raised <;> exact hstop

lemma handle_silent (d : Nat) (setup : Setup) (m : DroneManager) (operator : String)
    (faults : Faults) (r : Request) : Silent d (handle setup m operator faults r).2.1 := by
  cases r with
  | launch decision =>
    rcases launchFleet_cases setup m faults operator decision with h | ⟨_, _, _, _, _, _, _, h⟩
    · rw [handle, h.sent]; exact silent_nil d
    · rw [handle, h]; exact silent_nil d
  | startTrajectory req =>
    simp only [handle, startShow]
    split
    · exact silent_nil d
    · split
      · exact silent_nil d
      · refine checked_silent ?_
        split
        · exact silent_nil d
        next trajectory _ =>
          have hstart := startTrajectory_silent d setup faults trajectory req m
          split
          next h => rw [h] at hstart; exact hstart
          next h => rw [h] at hstart; exact applied_silent fun _ => hstart
  | stopTrajectory =>
    refine checked_silent ?_
    have hstop := stopTrajectory_silent d faults m
    split
    next h => rw [h] at hstop; exact hstop
    next h => rw [h] at hstop; exact applied_silent fun _ => hstop
  | emergency mode trigger =>
    simp only [handle]
    split
    · exact silent_nil d
    · exact emergency_silent d m faults mode operator trigger
  | abort e mode =>
    simp only [handle]
    split
    · exact silent_nil d
    · unfold abortDrone
      split
      · exact silent_nil d
      · dsimp only
        split
        next h => exact stepCommand_silent h
        next => exact silent_nil d
  | uploadTrajectory filename signed contentLength =>
    simp only [handle, uploadTrajectory]
    split
    · exact silent_nil d
    · refine checked_silent ?_
      split <;> exact silent_nil d
  | uploadMission =>
    simp only [handle, uploadMissions]
    split
    · exact silent_nil d
    · refine checked_silent ?_
      split
      · exact silent_nil d
      · split <;> exact silent_nil d
  | resumeShow gated =>
    simp only [handle, resumeShow]
    split
    · exact silent_nil d
    · split
      · exact silent_nil d
      · refine checked_silent ?_
        split <;> exact silent_nil d
  | discardShow =>
    simp only [handle, discardShow]
    split
    · exact silent_nil d
    · exact checked_silent (silent_nil d)

lemma evaluateLifecycle_silent (d : Nat) (m : DroneManager) (faults : Faults) :
    Silent d (evaluateLifecycle m faults).2 := by
  have hstop := stopTrajectory_silent d faults m
  unfold evaluateLifecycle
  dsimp only
  split
  · unfold tickDisarmed
    dsimp only
    split
    · split
      next h => rw [h] at hstop; exact hstop
      next h => rw [h] at hstop; exact hstop
    · exact silent_nil d
  · split <;> exact silent_nil d

/-! ## What the launch and the playback send -/

/-- Only drone `d` is called. -/
def OnlyTo (d : Nat) (os : List Sent) : Prop := ∀ s ∈ os, ∃ c, s = .call d c

lemma onlyTo_nil (d : Nat) : OnlyTo d [] := fun _ hs => absurd hs List.not_mem_nil

lemma onlyTo_call (d : Nat) (c : VehicleCall) : OnlyTo d [.call d c] :=
  fun _ hs => ⟨c, List.mem_singleton.mp hs⟩

lemma OnlyTo.silent (h : OnlyTo e os) (he : d ≠ e) : Silent d os := by
  intro s hs
  obtain ⟨c, rfl⟩ := h s hs
  simp [setpointTo, Ne.symm he]

lemma armUnlessPreempted_onlyTo (m : DroneManager) (d : Nat) :
    OnlyTo d (armUnlessPreempted m d).2 := by
  unfold armUnlessPreempted
  split
  · exact onlyTo_nil d
  · exact onlyTo_call d _

lemma awaitArmable_onlyTo (ekf : Bool) (m : DroneManager) (d : Nat) :
    OnlyTo d (awaitArmable ekf m d).2 := by
  unfold awaitArmable
  split
  · exact onlyTo_nil d
  · exact armUnlessPreempted_onlyTo m d

lemma calibrateFrom_onlyTo (ekf : Bool) (m : DroneManager) (d k : Nat) :
    OnlyTo d (calibrateFrom ekf m d k).2 := by
  unfold calibrateFrom
  split
  · exact onlyTo_call d _
  · exact awaitArmable_onlyTo ekf m d

lemma confirmOffboard_onlyTo (m : DroneManager) (d : Nat) (deadline : ℚ) :
    OnlyTo d (confirmOffboard m d deadline).2.2 := by
  unfold confirmOffboard
  dsimp only
  split
  · exact onlyTo_nil d
  · split
    · exact onlyTo_call d _
    · split
      · exact onlyTo_call d _
      · exact onlyTo_nil d

lemma beginLaunch_onlyTo (m : DroneManager) (d : Nat) : OnlyTo d (beginLaunch m d).2.2 := by
  unfold beginLaunch
  dsimp only
  split
  · exact onlyTo_nil d
  · split <;> exact onlyTo_nil d

variable {r : DroneManager × LaunchPc × List Sent}

lemma armableReply_onlyTo {deadline : ℚ} (h : armableReply m d deadline reply = some r) :
    OnlyTo d r.2.2 := by
  unfold armableReply at h
  split at h
  · split at h <;> cases h
    · exact armUnlessPreempted_onlyTo m d
    · exact onlyTo_nil d
  · cases h; exact armUnlessPreempted_onlyTo m d
  · split at h <;> cases h
    exact onlyTo_nil d
  · cases h; exact onlyTo_nil d
  · cases h

lemma stepOne_onlyTo (h : stepOne ekf m d pc reply = some r) : OnlyTo d r.2.2 := by
  cases pc with
  | begin => cases h; exact beginLaunch_onlyTo m d
  | staggering => cases h; exact calibrateFrom_onlyTo ekf m d 0
  | calibrating k =>
    simp only [stepOne] at h
    split at h <;> cases h
    · exact awaitArmable_onlyTo ekf m d
    · exact calibrateFrom_onlyTo ekf m d (k + 1)
  | waitingArmable deadline => exact armableReply_onlyTo h
  | arming =>
    simp only [stepOne] at h
    split at h <;> cases h
    · exact onlyTo_nil d
    · exact onlyTo_call d _
  | settingInitial =>
    simp only [stepOne] at h
    split at h
    · cases h; exact onlyTo_call d _
    · split at h <;> cases h
      · exact onlyTo_nil d
      · exact onlyTo_call d _
  | startingOffboard =>
    simp only [stepOne] at h
    split at h <;> cases h
    · exact onlyTo_call d _
    · exact confirmOffboard_onlyTo m d _
  | confirming deadline => cases h; exact confirmOffboard_onlyTo m d deadline
  | climbing =>
    simp only [stepOne] at h
    split at h <;> cases h
    · exact onlyTo_call d _
    · exact onlyTo_nil d
  | disarming onPad =>
    simp only [stepOne] at h
    split at h
    · split at h <;> cases h <;> exact onlyTo_nil d
    · cases h; exact onlyTo_nil d
  | returned => cases h

lemma stepOne_silent (h : stepOne ekf m e pc reply = some r)
    (hnot : d = e → LaunchPc.ahead pc = false) : Silent d r.2.2 := by
  by_cases he : d = e
  · have hpast := hnot he
    cases pc with
    | climbing =>
      simp only [stepOne] at h
      split at h <;> cases h
      · exact silent_call rfl
      · exact silent_nil d
    | disarming onPad =>
      simp only [stepOne] at h
      split at h
      · split at h <;> cases h <;> exact silent_nil d
      · cases h; exact silent_nil d
    | returned => cases h
    | _ => cases hpast
  · exact (stepOne_onlyTo h).silent he

variable {m' : DroneManager}

lemma stepRecovery_silent (h : stepRecovery m k = some (m', os)) : Silent d os := by
  intro s hs
  obtain ⟨e, c, rfl, ⟨rfl, -⟩ | rfl | rfl⟩ := stepRecovery_calls h s hs <;> simp [setpointTo, isSetpoint]

section

variable (d : Nat) (m : DroneManager) (i : Nat) (t : PlaybackTask)

lemma broadcastTrigger_silent (startS : ℚ) (frame : Core.Values.Bytes) (faults : Faults) :
    Silent d (broadcastTrigger m i t startS frame faults).2 := by
  unfold broadcastTrigger
  split
  · exact silent_nil d
  · split <;> exact silent_broadcast d frame

lemma firstStep_silent (faults : Faults) : Silent d (firstStep m i t faults).2 := by
  unfold firstStep
  split
  · split
    · exact silent_nil d
    · intro s hs
      obtain ⟨e, -, rfl⟩ := List.mem_map.mp hs
      simp [setpointTo, isSetpoint]
  · split <;> exact silent_nil d

lemma released_silent (faults : Faults) : Silent d (released m i t faults).2 := by
  unfold released
  dsimp only
  split
  · exact silent_nil d
  · exact broadcastTrigger_silent d _ i t _ _ faults

end

lemma stepTask_silent (h : stepTask m i faults = some (m', os)) : Silent d os := by
  obtain ⟨t, -, -, ⟨-, -, rfl⟩ | ⟨-, hmove⟩⟩ := stepTask_cases h
  · exact silent_nil d
  · cases hmove with
    | first => exact firstStep_silent d m i t faults
    | released => exact released_silent d m i t faults
    | triggered => exact broadcastTrigger_silent d m i t _ _ faults
    | waited => exact silent_nil d
    | raised => exact silent_nil d
    | sent => exact silent_nil d
    | woke => exact silent_nil d

/-- `_send_setpoint` looks at the flag right before its call. -/
lemma stepSend_silent (h : stepSend m i k reply = some (m', os))
    (haborted : m.isAborted d = true) : Silent d os := by
  simp only [stepSend, Option.bind_eq_bind, Option.bind_eq_some_iff] at h
  obtain ⟨t, -, s, -, h⟩ := h
  split at h
  · split at h
    · cases h; exact silent_nil d
    next hfree =>
      cases h
      intro o ho
      obtain rfl := List.mem_singleton.mp ho
      by_cases he : s.droneId = d
      · exact absurd haborted (he ▸ hfree)
      · simp [setpointTo, he]
  · split at h <;> cases h <;> exact silent_nil d
  · cases h

/-! ## Every run -/

variable {l : Label} {setup : Setup}

lemma grounded_silent (h : Grounded m d) (hs : step setup m l = some (m', os)) : Silent d os := by
  cases l with
  | api operator r faults => cases hs; exact handle_silent d setup m operator faults r
  | method c faults =>
    have hos : (call setup m faults c).2 = os := congrArg Prod.snd (Option.some.inj hs)
    rw [← hos]
    cases c with
    | launchSequence droneIds ekf wrapped => exact silent_nil d
    | startTrajectory trajectory req => exact startTrajectory_silent d setup faults trajectory req m
    | stopTrajectory => exact stopTrajectory_silent d faults m
    | uploadShow trajectory => exact silent_nil d
  | failsafe trigger faults => cases hs; exact emergency_silent d m faults .rtl _ trigger
  | tick faults =>
    have hos : (evaluateLifecycle m faults).2 = os := congrArg Prod.snd (Option.some.inj hs)
    rw [← hos]
    exact evaluateLifecycle_silent d m faults
  | sequence i =>
    obtain ⟨-, rfl⟩ := stepSequence_stepped hs
    exact silent_nil d
  | drone i j reply =>
    simp only [step, stepDrone] at hs
    split at hs
    · cases hs
    next t ht =>
      split at hs
      next batch rest hstage =>
        split at hs
        · cases hs
        next one hone =>
          obtain ⟨r, hr, hs⟩ := Option.map_eq_some_iff.mp hs
          cases hs
          refine stepOne_silent hr fun he => ?_
          by_contra hahead
          exact h.2 (he ▸ ahead_of_coroutine ht hstage hone (by simpa using hahead))
      · cases hs
  | recovery k reply => exact stepRecovery_silent hs
  | command k reply =>
    obtain ⟨r, hr, hs⟩ := Option.map_eq_some_iff.mp hs
    cases hs
    simp only [forEachDrone, Option.bind_eq_bind, Option.bind_eq_some_iff] at hr
    obtain ⟨t, -, ⟨t', sent⟩, ht', hr⟩ := hr
    cases hr
    exact stepCommand_silent ht'
  | playback i faults => exact stepTask_silent hs
  | setpoint i k reply => exact stepSend_silent hs h.1
  | snapshot faults =>
    obtain ⟨_, -, rfl⟩ := writeSnapshot_some hs
    exact silent_nil d
  | receive i chunk =>
    simp only [step, stepReceive, Option.bind_eq_bind, Option.bind_eq_some_iff] at hs
    obtain ⟨_, -, _, -, hs⟩ := hs
    cases hs
    exact silent_nil d
  | transfer u k reply =>
    simp only [step, stepTransfer, Option.bind_eq_bind, Option.bind_eq_some_iff] at hs
    obtain ⟨_, -, _, -, _, -, hs⟩ := hs
    cases hs
    exact silent_nil d
  | telemetry e ev =>
    simp only [step] at hs
    split at hs <;> cases hs
    exact silent_nil d
  | clock elapsed time =>
    simp only [step] at hs
    split at hs <;> cases hs
    exact silent_nil d
  | bench droneIds => cases hs; exact silent_nil d

/-- A fleet that is up: in formation, in its show, or at the show's end. -/
def isUp (m : DroneManager) : Bool :=
  [LifecycleState.formationHold, .running, .showComplete].contains m.fsm.state

lemma isUp_iff : isUp m = true ↔
    m.fsm.state = .formationHold ∨ m.fsm.state = .running ∨ m.fsm.state = .showComplete := by
  simp [isUp]

/-- The steps of the lifecycle: a launch that is accepted, a show that starts or
ends, an emergency, and what a tick observes. -/
inductive LifecycleMove (setup : Setup) (m : DroneManager) (l : Label) (s' : LifecycleState) : Prop
  | stays (h : s' = m.fsm.state)
  | launched (accepted : acceptsLaunch setup m l = true)
      (ground : m.fsm.state = .staged ∨ m.fsm.state = .disarmed) (h : s' = .prearm)
  | started (hold : m.fsm.state = .formationHold) (h : s' = .running)
  | ended (running : m.fsm.state = .running) (h : s' = .showComplete ∨ s' = .formationHold)
  | emergency (h : emergencyStates.contains s' = true)
  | ticked (h : TickMove m s')

lemma stepped_move (hs : Stepped setup m l m') : LifecycleMove setup m l m'.fsm.state := by
  cases hs with
  | refused hs => obtain ⟨_, _, rfl, hf⟩ := hs; exact .stays hf
  | launched haccepted hground hf =>
    refine .launched (by simp [acceptsLaunch, haccepted]) hground ?_
    simpa [startLaunch] using hf
  | @called droneIds ekf wrapped =>
    obtain ⟨_, hm'⟩ := startLaunch_only m droneIds ekf wrapped
    exact .stays (by rw [hm'])
  | started _ _ hmove =>
    rcases hmove with h | ⟨hhold, h⟩
    · exact .stays h
    · exact .started hhold h
  | stopped _ hmove =>
    rcases hmove with h | ⟨hrun, h⟩ | h
    · exact .stays h
    · exact .ended hrun (.inr h)
    · exact .emergency h
  | aborted => exact .stays rfl
  | saved => exact .stays rfl
  | receiving => exact .stays rfl
  | uploaded trajectory =>
    obtain ⟨_, _, hm'⟩ := uploadShow_only setup m trajectory
    exact .stays (by rw [hm'])
  | ticked hs => exact .ticked hs.move
  | sequence hs => obtain ⟨_, rfl⟩ := hs.frame; exact .stays rfl
  | drone _ _ _ hs =>
    rcases hs.frame with ⟨_, rfl, -⟩ | ⟨-, rfl⟩
    · exact .stays rfl
    · exact .stays rfl
  | recovery => exact .stays rfl
  | command => exact .stays rfl
  | playback _ _ hs _ =>
    rcases hs.lifecycle with h | ⟨hrun, h⟩
    · exact .stays h
    · exact .ended hrun h
  | setpoint => exact .stays rfl
  | snapshot => exact .stays rfl
  | receive => exact .stays rfl
  | transfer hs => obtain ⟨_, _, rfl⟩ := stepTransfer_only hs; exact .stays rfl
  | telemetry hs => obtain ⟨_, _, rfl⟩ := hs.rest; exact .stays rfl
  | clock => exact .stays rfl
  | bench => exact .stays rfl

lemma isUp_before (hs : Stepped setup m l m') (h : isUp m' = true) :
    isUp m = true ∨ launchInProgress m = false := by
  rw [isUp_iff] at h ⊢
  rcases stepped_move hs with hsame | ⟨-, -, hp⟩ | ⟨hhold, -⟩ | ⟨hrun, -⟩ | hem | htick
  · exact .inl (hsame ▸ h)
  · simp [hp] at h
  · exact .inl (.inl hhold)
  · exact .inl (.inr (.inl hrun))
  · rcases h with hf | hf | hf <;> · rw [hf] at hem; cases hem
  · rcases htick with hsame | ⟨-, hf⟩ | ⟨-, hf⟩ | ⟨hidle, -⟩
    · exact .inl (hsame ▸ h)
    · simp [hf] at h
    · simp [hf] at h
    · exact .inr hidle

def Quiet (m : DroneManager) : Prop := isUp m = true → ∀ i, ¬ InProgress m i

lemma Quiet.step (h : Quiet m) (hone : OneLaunch m) (hcall : callsLaunch l = false)
    (hs : Stepped setup m l m') :
    Quiet m' := by
  intro hup i hi
  rcases launchKept_or_accepted hcall hs with hkept | ⟨-, -, hprearm, -⟩
  · have hold := hkept.tasks i hi
    rcases isUp_before hs hup with hbefore | hidle
    · exact h hbefore i hold
    · exact hone.idle hidle i hold
  · simp [isUp_iff, hprearm] at hup

lemma quiet_run {init : DroneManager} {as : List Label} (hfirst : init.launch.tasks = [])
    (hcalls : ∀ l ∈ as, callsLaunch l = false) (hrun : run (step setup) init as = some (m, os)) :
    Quiet m := by
  have hnone : ∀ i, ¬ InProgress init i := by
    rintro i ⟨t, ht, -⟩
    rw [hfirst] at ht
    cases ht
  refine (run_invariant (I := fun m => Quiet m ∧ OneLaunch m) (A := fun _ l => callsLaunch l = false)
    (fun _ _ _ _ h hcall hs => ⟨h.1.step h.2 hcall (step_stepped hs),
      h.2.step hcall (step_stepped hs)⟩)
    ⟨fun _ => hnone, fun i hi => absurd hi (hnone i)⟩ (along_of_labels hcalls) hrun).1

lemma not_ahead (h : ∀ i, ¬ InProgress m i) (d : Nat) : ¬ Ahead m d := by
  rintro ⟨t, ht, hpending⟩
  obtain ⟨i, hi⟩ := List.mem_iff_getElem?.mp ht
  refine h i ⟨t, hi, fun hfinished => ?_⟩
  rw [hfinished] at hpending
  cases hpending

/-- From an abort with no launch in progress on, until a launch names the drone,
it is sent no setpoint. -/
lemma grounded_silent_run {ls : List Label} (h : Grounded m d)
    (hnot : Along (step setup) (fun m l => relaunches setup d m l = false) m ls)
    (hrun : run (step setup) m ls = some (m', os)) : Silent d os :=
  (run_spec (I := fun m => Grounded m d)
    (fun _ _ _ _ h hnot hs => ⟨h.step hnot (step_stepped hs), grounded_silent h hs⟩) h hnot hrun).2

end Taramandal.Gcs.AbortSilence
