import Taramandal.Gcs.Playback

/-! # LAND, RTL and ESTOP (`drone_manager.py`)

A fleet-wide emergency moves the lifecycle, stops the show and starts one
command per drone; an abort starts one command for one drone. Per-drone commands
keep the vehicle's errors to themselves, so once started every drone is
commanded, whatever the other vehicles answer (`forEachDrone_attempts`). Whether
they are started hangs on `stop_trajectory`, which lets an `OSError` of the
saved-show file through. -/
namespace Taramandal.Gcs.Emergency

open Lib.Run Gcs.FleetFsm Gcs.State Gcs.Playback

/-- What `_rtl_one`, `_land_one` and `_estop_one` are for. -/
def commandCall : AbortMode → VehicleCall
  | .rtl => .returnToLaunch
  | .land => .land
  | .estop => .kill

/-- The command from one await to the next. Leaving offboard comes first, except
for a kill; neither call's failure ends it. -/
def stepCommand (t : CommandTask) (_reply : Reply) : Option (CommandTask × List Sent) :=
  match t.pc with
  | .created =>
    if t.mode = .estop then some ({ t with pc := .commanding }, [.call t.droneId .kill])
    else some ({ t with pc := .stopping }, [.call t.droneId .offboardStop])
  | .stopping => some ({ t with pc := .commanding }, [.call t.droneId (commandCall t.mode)])
  | .commanding => some ({ t with pc := .returned }, [])
  | .returned => none

/-- `_for_each_drone` over per-drone commands: any of them may take its next
step. In turn, as on the sim backend, is one of the orders. -/
def forEachDrone : System (List CommandTask) (Nat × Reply) Sent := fun ts l => do
  let t ← ts[l.1]?
  let r ← stepCommand t l.2
  return (ts.set l.1 r.1, r.2)

def emergencyCommand : AbortMode → Command
  | .rtl => .rtl
  | .land => .land
  | .estop => .estop

def emergencyState : AbortMode → LifecycleState
  | .rtl => .rtl
  | .land => .landing
  | .estop => .estop

/-- `trigger_rtl`, `trigger_land` and `trigger_estop` up to their first await,
with the commands they go on to run; `none` if they raised. -/
def triggerEmergency (faults : Faults) (mode : AbortMode) (operator trigger : String)
    (m : DroneManager) : DroneManager × List Sent × Option (List CommandTask) :=
  match m.fsm.apply (emergencyCommand mode) operator trigger m.time with
  | .error _ => (m, [], none)
  | .ok f =>
    match stopTrajectory faults (m.moveFsm faults.auditWrite f) with
    | (m, sent, true) => (m, sent, none)
    | (m, sent, false) => (m, sent, some (m.drones.map fun d => { mode := mode, droneId := d }))

/-! ## Every drone is commanded -/

def Returned (ts : List CommandTask) : Prop := ∀ t ∈ ts, t.pc = .returned

/-- However the commands interleave and whatever the vehicles answer, they can
run to their end, and by then `mode`'s call has gone to each of the drones. -/
def Attempts (mode : AbortMode) (drones : List Nat) (ts : List CommandTask) : Prop :=
  ∀ ls ts' os, run forEachDrone ts ls = some (ts', os) →
    (∃ more done os', run forEachDrone ts' more = some (done, os') ∧ Returned done) ∧
      (Returned ts' → ∀ d ∈ drones, .call d (commandCall mode) ∈ os)

def Commanded (t : CommandTask) : Prop := t.pc = .commanding ∨ t.pc = .returned

def remaining (t : CommandTask) : Nat :=
  match t.pc with
  | .created => 3
  | .stopping => 2
  | .commanding => 1
  | .returned => 0

variable {os : List Sent}

lemma stepCommand_some {t t' : CommandTask} {reply : Reply}
    (h : stepCommand t reply = some (t', os)) :
    t'.droneId = t.droneId ∧ t'.mode = t.mode ∧ remaining t' < remaining t ∧
      (Commanded t' → Commanded t ∨ .call t.droneId (commandCall t.mode) ∈ os) := by
  obtain ⟨mode, d, pc⟩ := t
  cases pc with
  | created =>
    by_cases hm : mode = .estop
    · subst hm
      cases h
      exact ⟨rfl, rfl, by simp [remaining], fun _ => .inr (by simp [commandCall])⟩
    · simp only [stepCommand, if_neg hm] at h
      cases h
      exact ⟨rfl, rfl, by simp [remaining], fun hc => by rcases hc with hc | hc <;> cases hc⟩
  | stopping =>
    cases h
    exact ⟨rfl, rfl, by simp [remaining], fun _ => .inr (by simp)⟩
  | commanding =>
    cases h
    exact ⟨rfl, rfl, by simp [remaining], fun _ => .inl (.inl rfl)⟩
  | returned => cases h

lemma forEachDrone_some {ts ts' : List CommandTask} {l : Nat × Reply}
    (h : forEachDrone ts l = some (ts', os)) :
    ∃ t t', ts[l.1]? = some t ∧ stepCommand t l.2 = some (t', os) ∧ ts' = ts.set l.1 t' := by
  unfold forEachDrone at h
  cases ht : ts[l.1]? with
  | none => simp [ht] at h
  | some t =>
    cases hs : stepCommand t l.2 with
    | none => simp [ht, hs] at h
    | some r =>
      simp only [ht, hs, Option.bind_eq_bind, Option.bind_some, Option.pure_def,
        Option.some.injEq, Prod.mk.injEq] at h
      obtain ⟨rfl, rfl⟩ := h
      exact ⟨t, r.1, rfl, hs, rfl⟩

/-- Along a run a command stays the same drone's, and is not past its call
without the call having gone out. -/
lemma run_commanded {ts ts' : List CommandTask} {ls : List (Nat × Reply)}
    (h : run forEachDrone ts ls = some (ts', os)) {j : Nat} {t : CommandTask}
    (ht : ts[j]? = some t) :
    ∃ t', ts'[j]? = some t' ∧ t'.droneId = t.droneId ∧ t'.mode = t.mode ∧
      (Commanded t' → Commanded t ∨ .call t.droneId (commandCall t.mode) ∈ os) := by
  induction ls generalizing ts os t with
  | nil =>
    simp only [run_nil, Option.some.injEq, Prod.mk.injEq] at h
    obtain ⟨rfl, rfl⟩ := h
    exact ⟨t, ht, rfl, rfl, .inl⟩
  | cons l ls ih =>
    obtain ⟨mid, o, os', hstep, hrest, rfl⟩ := run_cons.mp h
    obtain ⟨u, u', hu, hcmd, rfl⟩ := forEachDrone_some hstep
    obtain ⟨hd, hm, -, hc⟩ := stepCommand_some hcmd
    by_cases hj : l.1 = j
    · subst hj
      obtain rfl : u = t := Option.some.inj (hu.symm.trans ht)
      have hlt : l.1 < ts.length := (List.getElem?_eq_some_iff.mp hu).1
      obtain ⟨t', ht', hd', hm', hc'⟩ := ih hrest (t := u') (by simp [hlt])
      refine ⟨t', ht', hd'.trans hd, hm'.trans hm, fun hdone => ?_⟩
      rcases hc' hdone with h1 | h1
      · exact (hc h1).imp_right (List.mem_append_left _)
      · rw [hd, hm] at h1
        exact .inr (List.mem_append_right _ h1)
    · obtain ⟨t', ht', hd', hm', hc'⟩ := ih hrest (t := t) (by simpa [List.getElem?_set, hj] using ht)
      exact ⟨t', ht', hd', hm', fun hdone => (hc' hdone).imp_right (List.mem_append_right _)⟩

lemma run_returned (ts : List CommandTask) :
    ∃ ls done os, run forEachDrone ts ls = some (done, os) ∧ Returned done := by
  -- by how far all of them together are from the end
  induction hn : (ts.map remaining).sum using Nat.strong_induction_on generalizing ts with
  | _ n ih =>
    by_cases hall : Returned ts
    · exact ⟨[], ts, [], rfl, hall⟩
    · obtain ⟨t, ht, hpc⟩ : ∃ t ∈ ts, t.pc ≠ .returned := by simpa [Returned] using hall
      obtain ⟨j, hj, rfl⟩ := List.getElem_of_mem ht
      obtain ⟨r, hr⟩ : ∃ r, stepCommand ts[j] .ok = some r := by
        unfold stepCommand
        split
        · split <;> exact ⟨_, rfl⟩
        · exact ⟨_, rfl⟩
        · exact ⟨_, rfl⟩
        next h => exact absurd h hpc
      have hstep : forEachDrone ts (j, .ok) = some (ts.set j r.1, r.2) := by
        simp [forEachDrone, List.getElem?_eq_getElem hj, hr]
      have hless : ((ts.set j r.1).map remaining).sum < n := by
        have hlt := (stepCommand_some (hr : _ = some (r.1, r.2))).2.2.1
        have hsplit : ts = ts.take j ++ ts[j] :: ts.drop (j + 1) := by simp
        have hset : ts.set j r.1 = ts.take j ++ r.1 :: ts.drop (j + 1) :=
          List.set_eq_take_append_cons_drop.trans (if_pos hj)
        rw [← hn, hset]
        conv_rhs => rw [hsplit]
        simp only [List.map_append, List.map_cons, List.sum_append, List.sum_cons]
        omega
      obtain ⟨ls, done, os, hrun, hdone⟩ := ih _ hless (ts.set j r.1) rfl
      exact ⟨(j, .ok) :: ls, done, r.2 ++ os, run_cons.mpr ⟨_, _, _, hstep, hrun, rfl⟩, hdone⟩

lemma forEachDrone_attempts (mode : AbortMode) (drones : List Nat) :
    Attempts mode drones (drones.map fun d => { mode := mode, droneId := d }) := by
  intro ls ts' os hrun
  refine ⟨run_returned ts', fun hdone d hd => ?_⟩
  obtain ⟨j, hj, rfl⟩ := List.getElem_of_mem hd
  obtain ⟨t', ht', -, -, hc⟩ := run_commanded hrun (j := j)
    (t := { mode := mode, droneId := drones[j] }) (by simp [hj])
  rcases hc (.inr (hdone t' (List.mem_of_getElem? ht'))) with h | h
  · rcases h with h | h <;> cases h
  · exact h

lemma not_attempts_nil {mode : AbortMode} {drones : List Nat} (h : drones ≠ []) :
    ¬ Attempts mode drones [] := by
  intro hatt
  obtain ⟨d, hd⟩ := List.exists_mem_of_ne_nil drones h
  exact absurd ((hatt [] [] [] rfl).2 (by simp [Returned]) d hd) (by simp)

@[simp] lemma stopTrajectory_fsm (faults : Faults) (m : DroneManager) :
    (stopTrajectory faults m).1.fsm = m.fsm ∧ (stopTrajectory faults m).1.drones = m.drones := by
  unfold stopTrajectory
  dsimp only
  split
  · exact ⟨rfl, rfl⟩
  · split <;> exact ⟨rfl, rfl⟩

lemma apply_emergencyCommand (f : FleetStateMachine) (mode : AbortMode) (o g : String) (n : ℚ) :
    f.apply (emergencyCommand mode) o g n = .ok (f.enter (emergencyState mode) o g n) :=
  f.apply_emergency o g n (by cases mode <;> simp [emergencyCommand, emergencyState])

/-- What an emergency leaves: the lifecycle in its state, and the commands
started unless the saved-show file could not be removed. -/
lemma triggerEmergency_spec (faults : Faults) (mode : AbortMode) (operator trigger : String)
    (m : DroneManager) :
    (triggerEmergency faults mode operator trigger m).1.fsm.state = emergencyState mode ∧
      (triggerEmergency faults mode operator trigger m).2.2 =
        if faults.removal = .failed then none
        else some (m.drones.map fun d => { mode := mode, droneId := d }) := by
  simp only [triggerEmergency, apply_emergencyCommand]
  generalize hm : m.moveFsm faults.auditWrite _ = m1
  have hstate : m1.fsm.state = emergencyState mode := by rw [← hm]; rfl
  have hdrones : m1.drones = m.drones := by rw [← hm]; rfl
  have hraised := stopTrajectory_raised faults m1
  obtain ⟨hfsm, hids⟩ := stopTrajectory_fsm faults m1
  generalize stopTrajectory faults m1 = r at *
  obtain ⟨m2, sent, raised⟩ := r
  cases raised with
  | true => simp only [hraised.mp rfl, if_true]; exact ⟨by rw [hfsm]; exact hstate, trivial⟩
  | false =>
    have hne : faults.removal ≠ .failed := fun h => by simpa using hraised.mpr h
    simp only [if_neg hne]
    exact ⟨by rw [hfsm]; exact hstate, by rw [hids, hdrones]⟩

/-- LAND, RTL and ESTOP reach every drone, and leave the lifecycle in their
state, exactly when there is no drone or the saved-show file raised no
`OSError` other than that it is missing. -/
theorem triggerEmergency_reaches_iff (faults : Faults) (mode : AbortMode)
    (operator trigger : String) (m : DroneManager) :
    ((triggerEmergency faults mode operator trigger m).1.fsm.state = emergencyState mode ∧
      Attempts mode m.drones ((triggerEmergency faults mode operator trigger m).2.2.getD [])) ↔
        m.drones = [] ∨ faults.removal ≠ .failed := by
  obtain ⟨hstate, hstarted⟩ := triggerEmergency_spec faults mode operator trigger m
  rw [hstarted]
  by_cases hfail : faults.removal = .failed
  · simp only [hfail, if_true, Option.getD_none, ne_eq, not_true, or_false]
    constructor
    · intro h
      by_contra hne
      exact not_attempts_nil hne h.2
    · intro hnil
      rw [hnil]
      exact ⟨hstate, forEachDrone_attempts mode []⟩
  · simp only [hfail, if_false, Option.getD_some, ne_eq, not_false_eq_true, or_true, iff_true]
    exact ⟨hstate, forEachDrone_attempts mode m.drones⟩

/-- An RTL of a single drone whose saved-show file cannot be removed: the
lifecycle reads RTL and the drone is never called. -/
theorem rtl_unsent_when_removal_fails :
    (triggerEmergency { removal := .failed } .rtl "operator" "POST /api/rtl"
        { drones := [0] }).1.fsm.state = .rtl ∧
      ¬ Attempts .rtl [0] ((triggerEmergency { removal := .failed } .rtl "operator"
        "POST /api/rtl" { drones := [0] }).2.2.getD []) :=
  ⟨rfl, not_attempts_nil (by simp)⟩

end Taramandal.Gcs.Emergency
