import Taramandal.Sim.Trigger

/-! # The phases of a simulated flight

A drone lands, flies home or flies its mission, one of them at a time, and none of them on the
ground disarmed. The tick keeps it so. Four commands do not look before they write: LAND, RTL and
the offboard start take a drone that is not armed, and a START frame takes one that is on its way
down. -/
set_option linter.unusedSectionVars false

namespace Taramandal.Sim.Phases

open Lib.Run Core.Numbers Core.Values Core.Geometry Core.Mission Sim.Vehicle Sim.System

variable {K : Type}

/-! ## Phases -/

/-- At most one of landing, flying home and the mission, and none of them, nor
offboard, without being armed. -/
structure InPhase (d : SimDrone K) : Prop where
  landing_rtl : ¬ (d.landing = true ∧ d.rtlPending = true)
  landing_mission : ¬ (d.landing = true ∧ d.missionActive = true)
  rtl_mission : ¬ (d.rtlPending = true ∧ d.missionActive = true)
  grounded : d.armed = false → d.landing = false ∧ d.rtlPending = false ∧
    d.missionActive = false ∧ d.offboardActive = false

def flags (d : SimDrone K) : Bool × Bool × Bool × Bool × Bool :=
  (d.armed, d.landing, d.rtlPending, d.missionActive, d.offboardActive)

variable {d d' : SimDrone K}

lemma InPhase.of_flags (h : InPhase d) (hflags : flags d' = flags d) : InPhase d' := by
  simp only [flags, Prod.mk.injEq] at hflags
  obtain ⟨harmed, hlanding, hrtl, hmission, hoffboard⟩ := hflags
  refine ⟨?_, ?_, ?_, ?_⟩
  · rw [hlanding, hrtl]
    exact h.landing_rtl
  · rw [hlanding, hmission]
    exact h.landing_mission
  · rw [hrtl, hmission]
    exact h.rtl_mission
  · rw [harmed, hlanding, hrtl, hmission, hoffboard]
    exact h.grounded

lemma inPhase_commandLand : InPhase (commandLand d) ↔ d.armed = true := by
  constructor
  · intro h
    by_contra hdown
    exact nomatch (h.grounded (Bool.eq_false_of_not_eq_true hdown)).1
  · intro harmed
    exact ⟨nofun, nofun, nofun, fun hdown => nomatch harmed.symm.trans hdown⟩

lemma inPhase_commandRtl : InPhase (commandRtl d) ↔ d.armed = true := by
  constructor
  · intro h
    by_contra hdown
    exact nomatch (h.grounded (Bool.eq_false_of_not_eq_true hdown)).2.1
  · intro harmed
    exact ⟨nofun, nofun, nofun, fun hdown => nomatch harmed.symm.trans hdown⟩

lemma inPhase_commandOffboardStart (now : K) (h : InPhase d) :
    InPhase (commandOffboardStart now d) ↔ d.armed = true := by
  constructor
  · intro h'
    by_contra hdown
    exact nomatch (h'.grounded (Bool.eq_false_of_not_eq_true hdown)).2.2.2
  · intro harmed
    exact ⟨h.landing_rtl, nofun, nofun, fun hdown => nomatch harmed.symm.trans hdown⟩

lemma inPhase_commandDisarm : InPhase (commandDisarm d) :=
  ⟨nofun, nofun, nofun, fun _ => ⟨rfl, rfl, rfl, rfl⟩⟩

lemma InPhase.commandArm (h : InPhase d) : InPhase (commandArm d) :=
  ⟨h.landing_rtl, h.landing_mission, h.rtl_mission, nofun⟩

lemma InPhase.commandSetpoint (now : K) (target : Setpoint K) (h : InPhase d) :
    InPhase (commandSetpoint now target d) :=
  ⟨nofun, nofun, nofun, fun hdown => ⟨rfl, rfl, (h.grounded hdown).2.2⟩⟩

lemma InPhase.commandOffboardStop (h : InPhase d) : InPhase (commandOffboardStop d) :=
  ⟨h.landing_rtl, h.landing_mission, h.rtl_mission, fun hdown =>
    have ⟨hlanding, hrtl, hmission, _⟩ := h.grounded hdown
    ⟨hlanding, hrtl, hmission, rfl⟩⟩

lemma InPhase.endMission (h : InPhase d)
    (hflags : flags d' = (d.armed, d.landing, d.rtlPending, false, d.offboardActive)) :
    InPhase d' := by
  simp only [flags, Prod.mk.injEq] at hflags
  obtain ⟨harmed, hlanding, hrtl, hmission, hoffboard⟩ := hflags
  refine ⟨?_, ?_, ?_, ?_⟩
  · rw [hlanding, hrtl]
    exact h.landing_rtl
  · rw [hmission]
    nofun
  · rw [hmission]
    nofun
  · rw [harmed, hlanding, hrtl, hmission, hoffboard]
    intro hdown
    obtain ⟨hl, hr, _, ho⟩ := h.grounded hdown
    exact ⟨hl, hr, rfl, ho⟩

/-- An armed drone on its mission is in a phase exactly if it is not on its way down. -/
lemma inPhase_onMission {landing rtl o : Bool} (hflags : flags d' = (true, landing, rtl, true, o)) :
    InPhase d' ↔ landing = false ∧ rtl = false := by
  simp only [flags, Prod.mk.injEq] at hflags
  obtain ⟨harmed, hlanding, hrtl, hmission, -⟩ := hflags
  constructor
  · intro h
    refine ⟨Bool.eq_false_of_not_eq_true fun hl => ?_, Bool.eq_false_of_not_eq_true fun hr => ?_⟩
    · exact h.landing_mission ⟨hlanding.trans hl, hmission⟩
    · exact h.rtl_mission ⟨hrtl.trans hr, hmission⟩
  · rintro ⟨rfl, rfl⟩
    refine ⟨?_, ?_, ?_, ?_⟩
    · rw [hlanding]
      nofun
    · rw [hlanding]
      nofun
    · rw [hrtl]
      nofun
    · rw [harmed]
      nofun

section Ordered

variable [Field K] [LinearOrder K]

lemma InPhase.cancelMission (h : InPhase d) : InPhase (cancelMission d) := by
  unfold Vehicle.cancelMission
  split
  · exact h.endMission rfl
  · exact h

/-! ### The tick -/

lemma flags_applyStaged (cfg : SimConfig K) (now : K) (d : SimDrone K) :
    flags (applyStaged cfg now d) = flags d := by
  unfold applyStaged
  split <;> rfl

lemma flags_hearSetpoint (now : K) (d : SimDrone K) : flags (hearSetpoint now d) = flags d := by
  unfold hearSetpoint
  split <;> rfl

lemma InPhase.beforeMission (cfg : SimConfig K) (now : K) (h : InPhase d) :
    InPhase (beforeMission cfg now d) := by
  have hheard : InPhase (hearSetpoint now (applyStaged cfg now d)) :=
    h.of_flags ((flags_hearSetpoint _ _).trans (flags_applyStaged _ _ _))
  unfold Vehicle.beforeMission applyOffboardLossFailsafe
  dsimp only
  split
  next hlost =>
    refine inPhase_commandLand.mpr ?_
    simp only [offboardLost, Bool.and_eq_true] at hlost
    exact hlost.1.1.1.1
  next => exact hheard

section

variable [FloorRing K]

lemma flags_followMission (samples : List (MissionSample K)) (elapsed : K) (d : SimDrone K) :
    flags (followMission samples elapsed d).1 = flags d := by
  unfold followMission
  split
  · split <;> rfl
  · split <;> rfl

lemma InPhase.flyMission (samples : List (MissionSample K)) (elapsed : Option K)
    (h : InPhase d) : InPhase (flyMission samples elapsed d).1 := by
  unfold Vehicle.flyMission
  split
  · split
    · exact h.endMission rfl
    · exact h.of_flags (flags_followMission _ _ _)
  · exact h

lemma InPhase.applyMission (utc : K) (h : InPhase d) : InPhase (applyMission utc d).1 := by
  unfold Vehicle.applyMission
  split
  · exact h
  · split
    · exact h
    · exact InPhase.flyMission _ _ (h.of_flags rfl)

variable [Sqrt K]

lemma InPhase.flyHome (h : InPhase d) : InPhase (flyHome d) := by
  unfold Vehicle.flyHome
  split
  next hrtl =>
    split
    · have hmission : d.missionActive = false :=
        Bool.eq_false_of_not_eq_true fun hactive => h.rtl_mission ⟨hrtl, hactive⟩
      have harmed : d.armed = true := by
        by_contra hdown
        rw [(h.grounded (Bool.eq_false_of_not_eq_true hdown)).2.1] at hrtl
        cases hrtl
      refine ⟨nofun, fun hboth => ?_, nofun, fun hdown => nomatch harmed.symm.trans hdown⟩
      exact nomatch hmission.symm.trans hboth.2
    · exact h.of_flags rfl
  next => exact h

lemma InPhase.applyLandingAndRtl (cfg : SimConfig K) (h : InPhase d) :
    InPhase (applyLandingAndRtl cfg d) := by
  have hdown : flags (descend cfg (Vehicle.flyHome d)) = flags (Vehicle.flyHome d) := by
    unfold descend
    split <;> rfl
  have hmode : flags (reportMode (descend cfg (Vehicle.flyHome d))) =
      flags (descend cfg (Vehicle.flyHome d)) := by
    unfold reportMode
    split <;> rfl
  exact h.flyHome.of_flags (hmode.trans hdown)

lemma flags_stepLink (cfg : SimConfig K) (draws : Draws K) (d : SimDrone K) :
    flags (stepLink cfg draws d) = flags d := by
  unfold stepLink
  split
  · split <;> rfl
  · split <;> rfl

lemma InPhase.touchDown (h : InPhase d) : InPhase (touchDown d) := by
  unfold Vehicle.touchDown
  split
  · exact (inPhase_commandDisarm (d := d)).of_flags rfl
  · exact h

lemma InPhase.afterMission (exp : K → K) (cfg : SimConfig K) (dt : K) (draws : Draws K)
    (h : InPhase d) : InPhase (afterMission exp cfg dt draws d) := by
  refine InPhase.touchDown ?_
  exact (h.applyLandingAndRtl cfg).of_flags (flags_stepLink cfg draws _)

lemma inPhase_tick {n : Nat} {exp : K → K} {dt utc : K} {draws : Fin n → Draws K}
    {s : FleetState K n} (h : ∀ i, InPhase (s.drone i)) (i : Fin n) :
    InPhase ((s.tick exp dt utc draws).1.drone i) := by
  have hbefore := (h i).beforeMission s.config (s.timeS + dt)
  obtain heq | heq | heq := s.tick_drone exp dt utc draws i
  · rw [heq]
    exact hbefore
  · rw [heq]
    exact hbefore.applyMission utc
  · rw [heq]
    exact (hbefore.applyMission utc).afterMission exp s.config dt (draws i)

end

/-- A mission is not started on a drone on its way down: it has none loaded, is not armed,
or is neither landing nor flying home. -/
def StartOrderly (d : SimDrone K) : Prop :=
  d.mission.isSome = true → d.armed = true → d.landing = false ∧ d.rtlPending = false

lemma inPhase_startMission_iff {startUtcS : K} (h : InPhase d) :
    InPhase (startMission startUtcS d).1 ↔ StartOrderly d := by
  unfold startMission StartOrderly
  split
  next hrefused =>
    refine iff_of_true h fun hloaded harmed => ?_
    rcases hrefused with hnone | hdown
    · rw [hnone] at hloaded
      cases hloaded
    · exact nomatch harmed.symm.trans hdown
  next htaken =>
    obtain ⟨hloaded, harmed⟩ := not_or.mp htaken
    have harmed' : d.armed = true := Bool.eq_true_of_not_eq_false harmed
    rw [imp_iff_right (Option.isSome_iff_ne_none.mpr hloaded), imp_iff_right harmed']
    refine inPhase_onMission (o := d.offboardActive) ?_
    simp only [flags, harmed']

/-- A START frame the drone takes up: it hears it, is armed, and stores a mission for it. -/
def takesStart (payload : Bytes) (targetSystem droneId : Nat) (d : SimDrone K) : Bool :=
  match decodeShowTrigger payload with
  | .ok trigger =>
    targetSystem == 0 && trigger.valid && trigger.command != ShowCommand.cancel.code &&
      d.connected && d.armed &&
      (storedMission (K := K) droneId trigger.showId d.storage).isSome
  | .error _ => false

/-- A trigger leaves a drone in a phase exactly if it does not start a mission on
one that is landing or flying home. -/
lemma inPhase_hearTrigger_iff {trigger : ShowTrigger} {droneId : Nat} (h : InPhase d) :
    InPhase (hearTrigger trigger droneId d) ↔
      ((trigger.command != ShowCommand.cancel.code && d.connected && d.armed &&
        (storedMission (K := K) droneId trigger.showId d.storage).isSome) = true →
          d.landing = false ∧ d.rtlPending = false) := by
  unfold hearTrigger
  split
  next hdeaf => simp [h, hdeaf]
  next hlinked =>
    have hconnected : d.connected = true := Bool.eq_true_of_not_eq_false hlinked
    split
    next hcancel =>
      have hkept : InPhase (if d.missionShowId = some trigger.showId then cancelMission d else d) := by
        split
        · exact h.cancelMission
        · exact h
      simp [hkept, hcancel]
    next hstart =>
      cases hfile : storedMission (K := K) droneId trigger.showId d.storage with
      | none => simp [h]
      | some waypoints =>
        have hloaded : InPhase (loadMission trigger.showId waypoints d) := h.endMission rfl
        have hcommand : (trigger.command != ShowCommand.cancel.code) = true := by
          simpa using hstart
        simp only [inPhase_startMission_iff hloaded, hcommand, hconnected, Option.isSome_some,
          Bool.and_true, Bool.true_and]
        exact imp_iff_right rfl

/-! ### Steps -/

/-- LAND, RTL and the offboard start find the drone armed; they do not look
themselves. -/
def CallOrderly (d : SimDrone K) : Call K → Prop
  | .land => d.armed = true
  | .returnToLaunch => d.armed = true
  | .offboardStart => d.armed = true
  | _ => True

section

variable [FloorRing K] {n : Nat}

lemma inPhase_call_iff {now : K} {droneId : Nat} {c : Call K} (h : InPhase d) :
    InPhase (c.run now droneId d).1 ↔ CallOrderly d c := by
  cases c with
  | land => exact inPhase_commandLand
  | returnToLaunch => exact inPhase_commandRtl
  | offboardStart => exact inPhase_commandOffboardStart now h
  | arm => exact iff_of_true h.commandArm trivial
  | disarm => exact iff_of_true inPhase_commandDisarm trivial
  | kill => exact iff_of_true ((inPhase_commandDisarm (d := d)).of_flags rfl) trivial
  | offboardStop => exact iff_of_true h.commandOffboardStop trivial
  | setpoint target => exact iff_of_true (h.commandSetpoint now target) trivial
  | connect => exact iff_of_true (h.of_flags rfl) trivial
  | gnssFault fixType => exact iff_of_true (h.of_flags rfl) trivial
  | positionDeviation offset => exact iff_of_true (h.of_flags rfl) trivial
  | upload remotePath data =>
    refine iff_of_true ?_ trivial
    dsimp only [Call.run]
    split
    · exact h.of_flags rfl
    · exact h
  | batteryFault pct =>
    refine iff_of_true ?_ trivial
    dsimp only [Call.run]
    split
    · exact h.of_flags rfl
    · exact h

/-- What happens to the fleet, the calls on its mission executor included. -/
inductive FleetLabel (K : Type) (n : Nat) where
  | sim (l : SimLabel K n)
  | loadMission (d : Fin n) (showId : ShowId) (waypoints : List (Waypoint K))
  | startMission (d : Fin n) (startUtcS : K)
  | cancelMission (d : Fin n)

def fleetStep [Sqrt K] (exp : K → K) : System (FleetState K n) (FleetLabel K n) SimError
  | s, .sim l => simStep exp s l
  | s, .loadMission d showId waypoints => some (s.onDrone d (loadMission showId waypoints), [])
  | s, .startMission d startUtcS =>
    some (s.onDrone d fun drone => (startMission startUtcS drone).1, [])
  | s, .cancelMission d => some (s.onDrone d cancelMission, [])

/-- A step does not send a drone that is not armed down or into offboard, nor one on
its way down into a show. -/
def Orderly (s : FleetState K n) : FleetLabel K n → Prop
  | .sim (.call d c) => CallOrderly (s.drone d) c
  | .sim (.broadcast payload targetSystem) => ∀ d : Fin n,
    takesStart payload targetSystem d (s.drone d) = true →
      (s.drone d).landing = false ∧ (s.drone d).rtlPending = false
  | .startMission d _ => StartOrderly (s.drone d)
  | _ => True

lemma inPhase_broadcast_iff {payload : Bytes} {targetSystem : Nat} {s : FleetState K n}
    (h : ∀ d, InPhase (s.drone d)) :
    (∀ d, InPhase ((broadcast payload targetSystem s).1.drone d)) ↔
      ∀ d : Fin n, takesStart payload targetSystem d (s.drone d) = true →
        (s.drone d).landing = false ∧ (s.drone d).rtlPending = false := by
  unfold broadcast takesStart
  by_cases htarget : targetSystem = 0
  · cases hframe : decodeShowTrigger payload with
    | error e => simp [htarget, h]
    | ok trigger =>
      cases hvalid : trigger.valid with
      | false => simp [htarget, hvalid, h]
      | true =>
        simp only [htarget, hvalid, ne_eq, not_true_eq_false, if_false, if_true,
          beq_self_eq_true, Bool.true_and]
        exact forall_congr' fun d => inPhase_hearTrigger_iff (h d)
  · cases decodeShowTrigger payload <;> simp [htarget, h]

variable [Sqrt K]

lemma inPhase_onDrone_iff {s : FleetState K n} {d : Fin n} {f : SimDrone K → SimDrone K}
    (h : ∀ d, InPhase (s.drone d)) :
    (∀ d', InPhase ((s.onDrone d f).drone d')) ↔ InPhase (f (s.drone d)) := by
  constructor
  · intro hall
    have hself := hall d
    rwa [FleetState.onDrone_self] at hself
  · intro hself d'
    by_cases hd : d' = d
    · subst hd
      rwa [FleetState.onDrone_self]
    · rw [FleetState.onDrone_of_ne s hd]
      exact h d'

lemma inPhase_step_iff {exp : K → K} {s m : FleetState K n} {l : FleetLabel K n}
    {os : List SimError} (h : ∀ d, InPhase (s.drone d)) (hs : fleetStep exp s l = some (m, os)) :
    (∀ d, InPhase (m.drone d)) ↔ Orderly s l := by
  cases l with
  | sim l =>
    cases l with
    | tick dt utc draws =>
      obtain rfl : (s.tick exp dt utc draws).1 = m := congrArg Prod.fst (Option.some.inj hs)
      exact iff_of_true (inPhase_tick h) trivial
    | broadcast payload targetSystem =>
      obtain rfl : (broadcast payload targetSystem s).1 = m :=
        congrArg Prod.fst (Option.some.inj hs)
      exact inPhase_broadcast_iff h
    | call d c =>
      obtain rfl : s.onDrone d (fun _ => (c.run s.timeS d (s.drone d)).1) = m :=
        congrArg Prod.fst (Option.some.inj hs)
      rw [inPhase_onDrone_iff h]
      exact inPhase_call_iff (h d)
  | loadMission d showId waypoints =>
    obtain rfl := congrArg Prod.fst (Option.some.inj hs)
    exact iff_of_true ((inPhase_onDrone_iff h).mpr ((h d).endMission rfl)) trivial
  | startMission d startUtcS =>
    obtain rfl := congrArg Prod.fst (Option.some.inj hs)
    rw [inPhase_onDrone_iff h]
    exact inPhase_startMission_iff (h d)
  | cancelMission d =>
    obtain rfl := congrArg Prod.fst (Option.some.inj hs)
    exact iff_of_true ((inPhase_onDrone_iff h).mpr (h d).cancelMission) trivial

end
end Ordered

end Taramandal.Sim.Phases
