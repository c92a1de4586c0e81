import Taramandal.Gcs.Fleet

/-! # One launch at a time, and none against an emergency

Launches asked for at the API. A launch in progress is the manager's launch
task, and keeps the fleet out of STAGED and DISARMED, the only states a launch
is accepted from. An emergency state is left only for DISARMED, and only once
no launch is in progress, so a launch meets the emergency at its next check. -/
namespace Taramandal.Gcs.LaunchSafety

open Lib.Run Gcs.FleetFsm Gcs.State Gcs.Launch Gcs.Lifecycle Gcs.Staging
open Gcs.Handlers Gcs.Fleet

/-- The `i`-th launch task has not finished. -/
def InProgress (m : DroneManager) (i : Nat) : Prop :=
  ∃ t, m.launch.tasks[i]? = some t ∧ t.stage ≠ .finished

def acceptsLaunch (setup : Setup) (m : DroneManager) : Label → Bool
  | .api operator (.launch decision) faults =>
    (launchFleet setup m faults operator decision).2.2 = .ok
  | _ => false

/-- A call of `launch_sequence` past the API. -/
def callsLaunch : Label → Bool
  | .method (.launchSequence _ _ _) _ => true
  | _ => false

def launchStep : Label → Bool
  | .sequence _ => true
  | .drone _ _ _ => true
  | .recovery _ _ => true
  | _ => false

/-- If the step is a launch's, it does not put drone `d` up. -/
def HoldsDown (setup : Setup) (d : Nat) (m : DroneManager) (l : Label) : Prop :=
  launchStep l = true → ∀ m' os, step setup m l = some (m', os) → ∀ s ∈ os, putsUp d s = false

variable {m m' : DroneManager} {setup : Setup}

lemma holdsDown_run {d : Nat} {ls : List Label} {os : List Sent}
    (h : Along (step setup) (HoldsDown setup d) m ls) (hls : ∀ l ∈ ls, launchStep l = true)
    (hrun : run (step setup) m ls = some (m', os)) :
    ∀ s ∈ os, putsUp d s = false :=
  (run_spec (I := fun _ => True) (fun _ _ m' os _ hk hs => ⟨trivial, hk.1 hk.2 m' os hs⟩) trivial
    (h.and (along_of_labels hls)) hrun).2

/-! ## What a step does to the launch and the lifecycle -/

lemma launchInProgress_of {i : Nat} (htask : m.launch.launchTask = some i) (h : InProgress m i) :
    launchInProgress m = true := by
  obtain ⟨t, ht, hlive⟩ := h
  simp [launchInProgress, htask, ht, hlive]

/-- A step that starts no launch: it returns to the ground, and leaves an
emergency, only with no launch in progress. -/
structure LaunchKept (m m' : DroneManager) : Prop where
  task : m'.launch.launchTask = m.launch.launchTask
  tasks : ∀ i, InProgress m' i → InProgress m i
  ground : m'.fsm.state = .staged ∨ m'.fsm.state = .disarmed →
    m'.fsm.state = m.fsm.state ∨ launchInProgress m = false
  emergency : inEmergency m = true → inEmergency m' = true ∨ launchInProgress m = false

/-- The lifecycle stands, moves to a state off the ground from one in no
emergency, or enters an emergency. -/
lemma LaunchKept.of_move (hlaunch : m'.launch = m.launch) (hmove : m'.fsm.state = m.fsm.state ∨
      (inEmergency m = false ∧ m'.fsm.state ≠ .staged ∧ m'.fsm.state ≠ .disarmed) ∨
      inEmergency m' = true) : LaunchKept m m' := by
  have htasks : ∀ i, InProgress m' i → InProgress m i := fun i ⟨t, ht, hlive⟩ =>
    ⟨t, hlaunch ▸ ht, hlive⟩
  refine ⟨by rw [hlaunch], htasks, fun hground => ?_, fun hemergency => ?_⟩
  · rcases hmove with h | ⟨-, hs, hd⟩ | h
    · exact .inl h
    · rcases hground with hg | hg
      · exact absurd hg hs
      · exact absurd hg hd
    · rcases hground with hg | hg <;> simp [inEmergency, hg, emergencyStates] at h
  · rcases hmove with h | ⟨h, -, -⟩ | h
    · exact .inl (by unfold inEmergency at *; rw [h]; exact hemergency)
    · rw [hemergency] at h; cases h
    · exact .inl h

lemma LaunchKept.of_set {i : Nat} {t t' : LaunchTask} (hfsm : m'.fsm = m.fsm)
    (htask : m'.launch.launchTask = m.launch.launchTask) (ht : m.launch.tasks[i]? = some t)
    (hlive : t.stage ≠ .finished) (htasks : m'.launch.tasks = m.launch.tasks.set i t') :
    LaunchKept m m' := by
  refine ⟨htask, fun k ⟨u, hu, hulive⟩ => ?_, fun _ => .inl (by rw [hfsm]), fun h =>
    .inl (by unfold inEmergency at *; rw [hfsm]; exact h)⟩
  by_cases hk : k = i
  · rw [hk]
    exact ⟨t, ht, hlive⟩
  · rw [htasks, List.getElem?_set_ne (Ne.symm hk)] at hu
    exact ⟨u, hu, hulive⟩

lemma inEmergency_iff : inEmergency m = true ↔
    m.fsm.state = .landing ∨ m.fsm.state = .rtl ∨ m.fsm.state = .estop := by
  simp [inEmergency, emergencyStates]

lemma LaunchKept.tick (h : Ticked m m') : LaunchKept m m' := by
  obtain ⟨htasks, htask, -⟩ := h.record
  refine ⟨htask, fun i ⟨t, ht, hlive⟩ => ⟨t, htasks ▸ ht, hlive⟩, fun hground => ?_,
    fun hemergency => ?_⟩
  · rcases h.move with h | ⟨-, h⟩ | ⟨-, h⟩ | ⟨hidle, -⟩
    · exact .inl h
    · simp [h] at hground
    · simp [h] at hground
    · exact .inr hidle
  · rcases h.move with h | ⟨h, -⟩ | ⟨h, -⟩ | ⟨hidle, -⟩
    · exact .inl (by unfold inEmergency at *; rw [h]; exact hemergency)
    · simp [inEmergency_iff, h] at hemergency
    · simp [inEmergency_iff, h] at hemergency
    · exact .inr hidle

variable {l : Label}

lemma launchKept_or_accepted (hcall : callsLaunch l = false) (hs : Stepped setup m l m') :
    LaunchKept m m' ∨ acceptsLaunch setup m l = true ∧
      (m.fsm.state = .staged ∨ m.fsm.state = .disarmed) ∧ m'.fsm.state = .prearm ∧
      m'.launch.launchTask = some m.launch.tasks.length ∧
      ∃ t, m'.launch.tasks = m.launch.tasks ++ [t] := by
  cases hs with
  | refused hs => obtain ⟨_, _, rfl, hf⟩ := hs; exact .inl (.of_move rfl (.inl hf))
  | launched haccepted hground hf =>
    exact .inr ⟨by simp [acceptsLaunch, haccepted], hground, hf, rfl, _, rfl⟩
  | called => cases hcall
  | started _ _ hmove =>
    refine .inl (.of_move rfl ?_)
    rcases hmove with h | ⟨hhold, hf⟩
    · exact .inl h
    · exact .inr (.inl ⟨by simp [inEmergency, hhold, emergencyStates], by simp [hf], by simp [hf]⟩)
  | stopped _ hmove =>
    refine .inl (.of_move rfl ?_)
    rcases hmove with h | ⟨hrun, hf⟩ | h
    · exact .inl h
    · exact .inr (.inl ⟨by simp [inEmergency, hrun, emergencyStates], by simp [hf], by simp [hf]⟩)
    · exact .inr (.inr h)
  | aborted => exact .inl (.of_move rfl (.inl rfl))
  | saved => exact .inl (.of_move rfl (.inl rfl))
  | receiving => exact .inl (.of_move rfl (.inl rfl))
  | uploaded trajectory =>
    obtain ⟨_, _, hm'⟩ := uploadShow_only setup m trajectory
    rw [hm']
    exact .inl (.of_move rfl (.inl rfl))
  | ticked hs => exact .inl (.tick hs)
  | sequence hs =>
    obtain ⟨t, t', _, ht, hlive, htasks, -⟩ := hs.own
    obtain ⟨_, hm'⟩ := hs.frame
    exact .inl (.of_set (by rw [hm']) hs.task ht hlive htasks)
  | drone ht hstage _ hs =>
    rcases hs.frame with ⟨_, rfl, htasks, htask, -⟩ | ⟨-, rfl⟩
    · exact .inl (.of_set rfl htask ht (by simp [hstage]) (by rw [← htasks]; rfl))
    · exact .inl (.of_set rfl rfl ht (by simp [hstage]) rfl)
  | recovery => exact .inl ⟨rfl, fun _ h => h, fun _ => .inl rfl, .inl⟩
  | command => exact .inl (.of_move rfl (.inl rfl))
  | playback _ _ hs _ =>
    obtain ⟨_, _, _, _, hm'⟩ := hs.frame
    refine .inl (.of_move (by rw [hm']) ?_)
    rcases hs.lifecycle with h | ⟨hrun, h⟩
    · exact .inl h
    · refine .inr (.inl ⟨by simp [inEmergency, hrun, emergencyStates], ?_⟩)
      rcases h with h | h <;> simp [h]
  | setpoint => exact .inl (.of_move rfl (.inl rfl))
  | snapshot => exact .inl (.of_move rfl (.inl rfl))
  | receive => exact .inl (.of_move rfl (.inl rfl))
  | transfer hs =>
    obtain ⟨_, _, rfl⟩ := stepTransfer_only hs
    exact .inl (.of_move rfl (.inl rfl))
  | telemetry hs => obtain ⟨_, _, rfl⟩ := hs.rest; exact .inl (.of_move rfl (.inl rfl))
  | clock => exact .inl (.of_move rfl (.inl rfl))
  | bench => exact .inl (.of_move rfl (.inl rfl))

/-- A launch in progress is the manager's, and the fleet is off the ground states. -/
def OneLaunch (m : DroneManager) : Prop :=
  ∀ i, InProgress m i → m.launch.launchTask = some i ∧
    m.fsm.state ≠ .staged ∧ m.fsm.state ≠ .disarmed

lemma OneLaunch.idle (h : OneLaunch m) (hidle : launchInProgress m = false) (i : Nat) :
    ¬ InProgress m i := by
  intro hi
  rw [launchInProgress_of (h i hi).1 hi] at hidle
  cases hidle

lemma OneLaunch.step (h : OneLaunch m) (hcall : callsLaunch l = false)
    (hs : Stepped setup m l m') : OneLaunch m' := by
  intro i hi
  rcases launchKept_or_accepted hcall hs with hkept | ⟨-, hground, hprearm, htask, t, htasks⟩
  · have hold := hkept.tasks i hi
    obtain ⟨htask, hstaged, hdisarmed⟩ := h i hold
    have hoff : ¬ (m'.fsm.state = .staged ∨ m'.fsm.state = .disarmed) := by
      intro hground
      rcases hkept.ground hground with heq | hidle
      · rw [heq] at hground
        exact hground.elim hstaged hdisarmed
      · exact h.idle hidle i hold
    exact ⟨hkept.task.trans htask, fun hs => hoff (.inl hs), fun hd => hoff (.inr hd)⟩
  · -- on the ground no launch was in progress, so this is the new one
    obtain ⟨u, hu, hlive⟩ := hi
    rw [htasks, List.getElem?_append] at hu
    split at hu
    · obtain ⟨-, hstaged, hdisarmed⟩ := h i ⟨u, hu, hlive⟩
      exact absurd hground (by simp [hstaged, hdisarmed])
    next hge =>
      have hi : i = m.launch.tasks.length := by
        have hlt := (List.getElem?_eq_some_iff.mp hu).1
        simp at hlt
        omega
      exact ⟨by rw [htask, hi], by simp [hprearm], by simp [hprearm]⟩

/-! ## Nothing goes up in an emergency -/

def HeldDown (m : DroneManager) : Prop := inEmergency m = true ∨ ∀ i, ¬ InProgress m i

lemma HeldDown.step (h : HeldDown m) (hone : OneLaunch m) (hcall : callsLaunch l = false)
    (haccept : acceptsLaunch setup m l = false) (hs : Stepped setup m l m') : HeldDown m' := by
  rcases launchKept_or_accepted hcall hs with hkept | ⟨hyes, -⟩
  · rcases h with hemergency | hnone
    · rcases hkept.emergency hemergency with hem | hidle
      · exact .inl hem
      · exact .inr fun i hi => hone.idle hidle i (hkept.tasks i hi)
    · exact .inr fun i hi => hnone i (hkept.tasks i hi)
  · rw [haccept] at hyes
    cases hyes

lemma stepRecovery_sends {k : Nat} {os : List Sent} (h : stepRecovery m k = some (m', os)) :
    ∀ s ∈ os, ∀ d, putsUp d s = false := by
  intro s hs d
  obtain ⟨e, c, rfl, ⟨rfl, -⟩ | rfl | rfl⟩ := stepRecovery_calls h s hs <;> simp [putsUp]

lemma HeldDown.holdsDown (h : HeldDown m) (d : Nat) (l : Label) : HoldsDown setup d m l := by
  intro hl m' os hs s hmem
  cases l with
  | sequence i =>
    obtain ⟨-, rfl⟩ := stepSequence_stepped hs
    cases hmem
  | drone i j reply =>
    obtain ⟨t, _, _, _, _, _, ht, hstage, -, hone, -⟩ := stepDrone_some hs
    by_contra hup
    obtain ⟨-, -, hfree⟩ := hone.sends s hmem d (by simpa using hup)
    rcases h with hemergency | hnone
    · rw [hfree] at hemergency; cases hemergency
    · exact hnone i ⟨t, ht, by simp [hstage]⟩
  | recovery k reply => exact stepRecovery_sends hs s hmem d
  | _ => cases hl

/-- At any time at most one launch is in progress; and from an emergency on,
until a LAUNCH is accepted, no launch puts a drone up. -/
theorem launch_excluded {setup : Setup} {init m : DroneManager} {as bs : List Label}
    {os : List Sent} (hfirst : init.launch.tasks = [])
    (hcalls : ∀ l ∈ as ++ bs, callsLaunch l = false)
    (hrun : run (step setup) init as = some (m, os)) :
    (∀ i j, InProgress m i → InProgress m j → i = j) ∧
      (inEmergency m = true →
        Along (step setup) (fun m l => acceptsLaunch setup m l = false) m bs →
          ∀ d, Along (step setup) (HoldsDown setup d) m bs) := by
  have hone : OneLaunch m := by
    refine run_invariant (A := fun _ l => callsLaunch l = false)
      (fun _ _ _ _ h hcall hs => OneLaunch.step h hcall (step_stepped hs)) ?_
      (along_of_labels fun l hl => hcalls l (List.mem_append_left _ hl)) hrun
    intro i ⟨t, ht, _⟩
    rw [hfirst] at ht
    cases ht
  constructor
  · intro i j hi hj
    have hij := (hone i hi).1.symm.trans (hone j hj).1
    exact Option.some.inj hij
  · intro hemergency haccept d
    have hboth : Along (step setup)
        (fun m l => callsLaunch l = false ∧ acceptsLaunch setup m l = false) m bs :=
      Along.and (along_of_labels fun l hl => hcalls l (List.mem_append_right _ hl)) haccept
    exact along_of_invariant (I := fun m => HeldDown m ∧ OneLaunch m)
      (fun _ _ _ _ h hok hs => ⟨h.1.step h.2 hok.1 hok.2 (step_stepped hs),
        h.2.step hok.1 (step_stepped hs)⟩)
      (fun _ l h _ => h.1.holdsDown d l) ⟨.inl hemergency, hone⟩ hboth

/-- An RTL while the drone is being calibrated: the launch goes on to its end
without arming it. -/
theorem launch_excluded_rtl : ∃ m os,
    run (step simSetup) { drones := [0], telemetry := fun _ => { connected := true } }
        [.api "operator" (.launch (some ([0], false))) {}, .sequence 0, .drone 0 0 .ok,
          .drone 0 0 .ok, .api "operator" (.emergency .rtl "POST /api/rtl") {}] = some (m, os) ∧
      launchInProgress m = true ∧ Along (step simSetup) (HoldsDown simSetup 0) m
        [.drone 0 0 .ok, .drone 0 0 .ok, .drone 0 0 .ok, .drone 0 0 .ok, .sequence 0] := by
  obtain ⟨⟨m, os⟩, hrun, h⟩ :
      ∃ r ∈ run (step simSetup) { drones := [0], telemetry := fun _ => { connected := true } }
      [.api "operator" (.launch (some ([0], false))) {}, .sequence 0, .drone 0 0 .ok, .drone 0 0
      .ok, .api "operator" (.emergency .rtl "POST /api/rtl") {}], (launchInProgress r.1 ∧
      inEmergency r.1) ∧ Along (step simSetup) (fun m l => acceptsLaunch simSetup m l = false) r.1
      [.drone 0 0 .ok, .drone 0 0 .ok, .drone 0 0 .ok, .drone 0 0 .ok, .sequence 0] := by
    decide +kernel
  exact ⟨m, os, hrun, h.1.1, (launch_excluded rfl (by decide) hrun).2 h.1.2 h.2 0⟩

end Taramandal.Gcs.LaunchSafety
