import Taramandal.Gcs.LaunchSafety

/-! # An aborted drone and the launch it is part of

`_launch_one` clears the aborted flag where it begins, and after that asks only
whether the fleet is in an emergency. So an abort holds a drone down if no
launch has its climb still ahead: then the flag stands until a launch names the
drone again. -/
namespace Taramandal.Gcs.AbortSafety

open Lib.Run Gcs.State Gcs.Launch Gcs.Staging
open Gcs.Handlers Gcs.Fleet Gcs.LaunchSafety

/-- Some launch may still put drone `d` up. -/
def Ahead (m : DroneManager) (d : Nat) : Prop :=
  ∃ t ∈ m.launch.tasks, LaunchStage.pending d t.stage = true

instance (m : DroneManager) (d : Nat) : Decidable (Ahead m d) :=
  inferInstanceAs (Decidable (∃ t ∈ m.launch.tasks, _))

/-- An abort of drone `d`. -/
def aborts (d : Nat) : Label → Bool
  | .api _ (.abort e _) _ => e = d
  | _ => false

/-- Drone `d` is aborted only when no launch may still put it up. -/
def AbortClear (d : Nat) (m : DroneManager) (l : Label) : Prop := aborts d l = true → ¬ Ahead m d

instance (d : Nat) (m : DroneManager) (l : Label) : Decidable (AbortClear d m l) :=
  inferInstanceAs (Decidable (_ → _))

/-- A launch that explicitly names drone `d`. -/
def relaunches (setup : Setup) (d : Nat) (m : DroneManager) : Label → Bool
  | .api operator (.launch (some (droneIds, ekf))) faults =>
    acceptsLaunch setup m (.api operator (.launch (some (droneIds, ekf))) faults) &&
      droneIds.contains d
  | .method (.launchSequence (some droneIds) _ _) _ => droneIds.contains d
  | _ => false

def Grounded (m : DroneManager) (d : Nat) : Prop := m.isAborted d = true ∧ ¬ Ahead m d

variable {d : Nat} {m m' : DroneManager}

lemma Grounded.congr (h : Grounded m d) (hflag : (m'.telemetry d).aborted = (m.telemetry d).aborted)
    (htasks : m'.launch.tasks = m.launch.tasks) : Grounded m' d := by
  unfold Grounded DroneManager.isAborted Ahead at *
  rw [hflag, htasks]
  exact h

lemma Grounded.newLaunch {droneIds : Option (List Nat)} {ekf wrapped : Bool} (h : Grounded m d)
    (hids : ∀ ids, droneIds = some ids → d ∉ ids) :
    Grounded (startLaunch m droneIds ekf wrapped) d := by
  obtain ⟨_, hm'⟩ := startLaunch_only m droneIds ekf wrapped
  have htasks : (startLaunch m droneIds ekf wrapped).launch.tasks = m.launch.tasks ++
      [{ requireEkfHealth := ekf, wrapped := wrapped, stage := .created droneIds }] := by
    unfold startLaunch
    dsimp only
    split <;> rfl
  refine ⟨by rw [hm']; exact h.1, ?_⟩
  rintro ⟨t, ht, hpending⟩
  rw [htasks] at ht
  rcases List.mem_append.mp ht with ht | ht
  · exact h.2 ⟨t, ht, hpending⟩
  · obtain rfl := List.mem_singleton.mp ht
    cases droneIds with
    | none => cases hpending
    | some ids => exact hids ids rfl (by simpa [LaunchStage.pending] using hpending)

variable {i j : Nat} {t : LaunchTask} {batch : List LaunchOne} {rest : List Nat} {m1 : DroneManager}
  {mode : AbortMode} {os1 : List Sent}

lemma Grounded.set (h : Grounded m d) (t' : LaunchTask)
    (hflag : m'.isAborted d = true) (ht : m.launch.tasks[i]? = some t)
    (htasks : m'.launch.tasks = m.launch.tasks.set i t')
    (hpending : LaunchStage.pending d t'.stage = true → LaunchStage.pending d t.stage = true) :
    Grounded m' d := by
  refine ⟨hflag, fun ⟨u, hu, hup⟩ => ?_⟩
  rw [htasks] at hu
  rcases List.mem_or_eq_of_mem_set hu with hu | rfl
  · exact h.2 ⟨u, hu, hup⟩
  · exact h.2 ⟨t, List.mem_of_getElem? ht, hpending hup⟩

lemma mem_of_pending {ids : List Nat} {stage : LaunchStage} (h : Gathered ids stage)
    (hpending : LaunchStage.pending d stage = true) : d ∈ ids := by
  rcases h with rfl | rfl
  · cases hpending
  · simp only [LaunchStage.pending, Bool.or_eq_true, List.contains_iff_mem, List.any_map,
      List.any_eq_true, Function.comp, Bool.and_eq_true, decide_eq_true_eq] at hpending
    rcases hpending with hrest | ⟨e, he, rfl, -⟩
    · exact List.mem_of_mem_drop hrest
    · exact List.mem_of_mem_take he

lemma pending_set {one : LaunchOne} {pc' : LaunchPc} (hone : batch[j]? = some one)
    (hahead : LaunchPc.ahead pc' = true → LaunchPc.ahead one.pc = true)
    (h : LaunchStage.pending d (.running (batch.set j { one with pc := pc' }) rest) = true) :
    LaunchStage.pending d (.running batch rest) = true := by
  simp only [LaunchStage.pending, Bool.or_eq_true, List.any_eq_true, Bool.and_eq_true,
    decide_eq_true_eq] at h ⊢
  rcases h with h | ⟨o, ho, hod, hoa⟩
  · exact .inl h
  · rcases List.mem_or_eq_of_mem_set ho with ho | rfl
    · exact .inr ⟨o, ho, hod, hoa⟩
    · exact .inr ⟨one, List.mem_of_getElem? hone, hod, hahead hoa⟩

lemma ahead_of_coroutine
    {one : LaunchOne} (ht : m.launch.tasks[i]? = some t) (hstage : t.stage = .running batch rest)
    (hone : batch[j]? = some one) (hahead : LaunchPc.ahead one.pc = true) :
    Ahead m one.droneId := by
  refine ⟨t, List.mem_of_getElem? ht, ?_⟩
  rw [hstage]
  simp only [LaunchStage.pending, Bool.or_eq_true, List.any_eq_true, Bool.and_eq_true,
    decide_eq_true_eq]
  exact .inr ⟨one, List.mem_of_getElem? hone, rfl, hahead⟩

variable {setup : Setup}

lemma Grounded.step {l : Label} (h : Grounded m d) (hnot : relaunches setup d m l = false)
    (hs : Stepped setup m l m') :
    Grounded m' d := by
  cases hs with
  | refused hs => obtain ⟨_, _, rfl, -⟩ := hs; exact h
  | launched haccepted =>
    refine Grounded.newLaunch (h.congr rfl rfl) fun ids hids => ?_
    cases hids
    simpa [relaunches, acceptsLaunch, haccepted] using hnot
  | called =>
    refine h.newLaunch fun ids hids => ?_
    subst hids
    simpa [relaunches] using hnot
  | started => exact h
  | stopped => exact h
  | @aborted _ e _ _ tel _ hflag =>
    refine ⟨?_, h.2⟩
    by_cases he : d = e
    · subst he
      simpa [DroneManager.isAborted, DroneManager.setTelemetry] using hflag
    · simpa [DroneManager.isAborted, DroneManager.setTelemetry, Function.update_of_ne he] using h.1
  | saved => exact h
  | receiving => exact h
  | uploaded trajectory =>
    obtain ⟨_, _, hm'⟩ := uploadShow_only setup m trajectory
    rw [hm']
    exact h
  | ticked hs =>
    obtain ⟨htasks, -⟩ := hs.record
    obtain ⟨_, _, _, _, hm'⟩ := hs.frame
    exact h.congr (by rw [hm']) htasks
  | sequence hs =>
    obtain ⟨t, t', ids, ht, -, htasks, hgathered, hids⟩ := hs.own
    obtain ⟨_, hm'⟩ := hs.frame
    refine h.set t' (by rw [hm']; exact h.1) ht htasks fun hpending => ?_
    rcases hids d (mem_of_pending hgathered hpending) with ⟨-, hfree⟩ | hbefore
    · rw [h.1] at hfree
      cases hfree
    · exact hbefore
  | @drone _ j _ t batch rest one m1 pc' _ ht hstage hone hs =>
    refine h.set { t with stage := .running (batch.set j { one with pc := pc' }) rest } ?_ ht ?_
      fun hpending => ?_
    · rcases hs.frame with ⟨_, rfl, -⟩ | ⟨hbegin, rfl⟩
      · exact h.1
      · -- the coroutine that clears a flag has its own drone ahead
        by_cases he : d = one.droneId
        · exact absurd (ahead_of_coroutine ht hstage hone (by rw [hbegin]; rfl)) (he ▸ h.2)
        · simpa [DroneManager.isAborted, setLaunch, DroneManager.setTelemetry,
            Function.update_of_ne he] using h.1
    · rcases hs.frame with ⟨_, rfl, htasks, -⟩ | ⟨-, rfl⟩
      · simp only [setLaunch, htasks]
      · rfl
    · rw [hstage]
      exact pending_set hone (fun ha => (hs.ahead ha).1) hpending
  | recovery => exact h
  | command => exact h
  | playback _ _ hs _ =>
    obtain ⟨_, _, _, _, hm'⟩ := hs.frame
    exact h.congr (hs.aborted d) (by rw [hm'])
  | setpoint => exact h
  | snapshot => exact h
  | receive => exact h
  | transfer hs => obtain ⟨_, _, rfl⟩ := stepTransfer_only hs; exact h
  | telemetry hs =>
    obtain ⟨_, _, hm'⟩ := hs.rest
    exact h.congr (hs.aborted d) (by rw [hm'])
  | clock => exact h
  | bench => exact h

lemma Grounded.holdsDown (h : Grounded m d) (l : Label) : HoldsDown setup d m l := by
  intro hl m' os hs s hmem
  cases l with
  | sequence i =>
    obtain ⟨-, rfl⟩ := stepSequence_stepped hs
    cases hmem
  | drone i j reply =>
    obtain ⟨t, _, _, one, _, _, ht, hstage, hone, hstepped, -⟩ := stepDrone_some hs
    by_contra hup
    obtain ⟨rfl, hahead, -⟩ := hstepped.sends s hmem d (by simpa using hup)
    exact h.2 (ahead_of_coroutine ht hstage hone hahead)
  | recovery k reply => exact stepRecovery_sends hs s hmem d
  | _ => cases hl

lemma abort_accepted {operator : String} {faults : Faults}
    (hstep : step setup m (.api operator (.abort d mode) faults) = some (m1, os1))
    (haccepted : (handle setup m operator faults (.abort d mode)).2.2 = .ok) :
    abortDrone m d mode = (m1, os1, .ok) := by
  obtain ⟨rfl, rfl⟩ := Prod.mk.inj (Option.some.inj hstep)
  rw [← haccepted]
  simp only [handle] at haccepted ⊢
  split at haccepted
  · cases haccepted
  next hctrl =>
    rw [if_neg hctrl]

lemma abort_grounded
    (habort : abortDrone m d mode = (m1, os1, .ok)) (hfree : ¬ Ahead m d) : Grounded m1 d := by
  have h := abortDrone_cases m d mode
  rw [habort] at h
  rcases h with h | ⟨tel, _, hflag, -, rfl⟩
  · exact absurd rfl h.response
  · exact ⟨by simpa [DroneManager.isAborted, DroneManager.setTelemetry] using hflag, hfree⟩

/-- In every run that aborts a drone only when no launch may still put it up, an
abort stands until a launch names the drone: no launch puts it up, and its flag
stays set. -/
theorem abort_stands {setup : Setup} {d : Nat} {init m m1 : DroneManager} {as bs : List Label}
    {operator : String} {mode : AbortMode} {faults : Faults} {os os1 : List Sent}
    (hclear : Along (step setup) (AbortClear d) init
      (as ++ .api operator (.abort d mode) faults :: bs))
    (hrun : run (step setup) init as = some (m, os))
    (hstep : step setup m (.api operator (.abort d mode) faults) = some (m1, os1))
    (haccepted : (handle setup m operator faults (.abort d mode)).2.2 = .ok)
    (hnot : Along (step setup) (fun m l => relaunches setup d m l = false) m1 bs) :
    Along (step setup) (HoldsDown setup d) m1 bs ∧
      ∀ m2 os2, run (step setup) m1 bs = some (m2, os2) → m2.isAborted d = true := by
  have hfree : ¬ Ahead m d := (hclear.drop hrun).1 (by simp [aborts])
  have hgrounded : Grounded m1 d := abort_grounded (abort_accepted hstep haccepted) hfree
  constructor
  · exact along_of_invariant (I := fun m => Grounded m d)
      (fun _ _ _ _ h hnot hs => h.step hnot (step_stepped hs)) (fun _ l h _ => h.holdsDown l)
      hgrounded hnot
  · intro m2 os2 hrun2
    exact (run_invariant (I := fun m => Grounded m d)
      (fun _ _ _ _ h hnot hs => h.step hnot (step_stepped hs)) hgrounded hnot hrun2).1

/-- Six drones on their pads, of which only the last is connected. -/
def lastConnected : DroneManager where
  drones := [0, 1, 2, 3, 4, 5]
  telemetry := fun d => { connected := d = 5 }

def abortLast : Label := .api "operator" (.abort 5 .rtl) {}

/-- The first batch runs to its end: its drones are not connected. -/
def firstBatch : List Label := (List.range 5).map fun j => .drone 0 j .ok

/-- Drone 5, in the batch after it, gets as far as its arming. -/
def secondBatch : List Label := .sequence 0 :: List.replicate 6 (.drone 0 0 .ok)

/-- A launch of the other five takes its course, and so does a fleet-wide one. -/
theorem abort_stands_unnamed : ∃ m1 os1, run (step simSetup) lastConnected
        [.api "operator" (.launch (some ([0, 1, 2, 3, 4], false))) {}, .sequence 0, abortLast] =
      some (m1, os1) ∧ Along (step simSetup) (HoldsDown simSetup 5) m1
        (firstBatch ++ [.sequence 0, .method (.launchSequence none false true) {}, .sequence 1]) := by
  obtain ⟨⟨m, os⟩, hrun, haccepted, ⟨m1, os1⟩, hstep, hnot⟩ :
      ∃ r ∈ run (step simSetup) lastConnected
      [.api "operator" (.launch (some ([0, 1, 2, 3, 4], false))) {}, .sequence 0],
      (handle simSetup r.1 "operator" {} (.abort 5 .rtl)).2.2 = .ok ∧
      ∃ r1 ∈ step simSetup r.1 abortLast, Along (step simSetup) (fun m l => relaunches simSetup 5 m
      l = false) r1.1 (firstBatch ++ [.sequence 0, .method (.launchSequence none false true) {},
      .sequence 1]) := by decide +kernel
  refine ⟨m1, os ++ os1, run_append.mpr ⟨m, os, os1, hrun, run_singleton.mpr hstep, rfl⟩, ?_⟩
  exact (abort_stands (by decide +kernel) hrun hstep haccepted (by simpa using hnot)).1

/-- A launch of all six has drone 5 waiting for its batch. The batch clears the
flag and arms the drone. -/
theorem abort_undone_by_batch : ∃ m1 os1 m2 os2, run (step simSetup) lastConnected
        [.api "operator" (.launch (some ([0, 1, 2, 3, 4, 5], false))) {}, .sequence 0, abortLast] =
      some (m1, os1) ∧ m1.isAborted 5 = true ∧
      Along (step simSetup) (fun m l => relaunches simSetup 5 m l = false) m1
        (firstBatch ++ secondBatch) ∧
      run (step simSetup) m1 (firstBatch ++ secondBatch) = some (m2, os2) ∧
      m2.isAborted 5 = false ∧ .call 5 .arm ∈ os2 ∧
      ¬ Along (step simSetup) (HoldsDown simSetup 5) m1 (firstBatch ++ secondBatch) := by
  obtain ⟨⟨m1, os1⟩, hrun, hflag, ⟨m2, os2⟩, hrun2, h2⟩ :
      ∃ r ∈ run (step simSetup) lastConnected
      [.api "operator" (.launch (some ([0, 1, 2, 3, 4, 5], false))) {}, .sequence 0, abortLast],
      r.1.isAborted 5 ∧ ∃ r2 ∈ run (step simSetup) r.1 (firstBatch ++ secondBatch),
      r2.1.isAborted 5 = false ∧ Sent.call 5 .arm ∈ r2.2 := by decide +kernel
  have hlaunch : ∀ l ∈ firstBatch ++ secondBatch, launchStep l = true := by decide
  have hnot : Along (step simSetup) (fun m l => relaunches simSetup 5 m l = false) m1
      (firstBatch ++ secondBatch) :=
    (along_of_labels hlaunch).mono fun m l hl => by cases l <;> first | rfl | cases hl
  refine ⟨m1, os1, m2, os2, hrun, hflag, hnot, hrun2, h2.1, h2.2, fun hdown => ?_⟩
  have harm := holdsDown_run hdown hlaunch hrun2 (.call 5 .arm) h2.2
  simp [putsUp] at harm

end Taramandal.Gcs.AbortSafety
