import Taramandal.Gcs.Fleet

/-! # Into formation

The tick that takes a launched fleet from TAKEOFF into FORMATION_HOLD judges
every planned drone by its last-known telemetry. It asks for the armed flag, the
flight mode and the altitude, not for the link those values came over. -/
namespace Taramandal.Gcs.Formation

open Lib.Run Core.Safety Gcs.FleetFsm Gcs.State Gcs.Launch Gcs.Lifecycle Gcs.Fleet

/-- Drone `d` reports, on every stream. -/
def Linked (m : DroneManager) (d : Nat) : Prop :=
  (m.telemetry d).connected = true ∧ m.streamsDown d = []

instance (m : DroneManager) (d : Nat) : Decidable (Linked m d) := inferInstanceAs (Decidable (_ ∧ _))

/-- Drone `d` is no more than the tolerance above its hover altitude. -/
def NotAbove (m : DroneManager) (d : Nat) : Prop :=
  (m.telemetry d).fleetZ ≤ hoverAltitude d + formationAltToleranceM

/-- Drone `d` is part of the formation: it reports, is armed and in OFFBOARD, and
no more than the tolerance below its hover altitude. -/
structure Formed (m : DroneManager) (d : Nat) : Prop where
  linked : Linked m d
  armed : (m.telemetry d).armed = true
  offboard : (m.telemetry d).flightMode = "OFFBOARD"
  altitude : hoverAltitude d - formationAltToleranceM ≤ (m.telemetry d).fleetZ

/-- If the step is a tick that takes a launched fleet from TAKEOFF into
FORMATION_HOLD, no failure is on record and every planned drone is formed and
meets `extra`. -/
def FormationSound (setup : Setup) (extra : DroneManager → Nat → Prop) (m : DroneManager)
    (l : Label) : Prop :=
  ∀ faults m' os, l = .tick faults → step setup m l = some (m', os) →
    m.fsm.state = .takeoff → m'.fsm.state = .formationHold → m'.launch.launchPlanned ≠ [] →
      m'.launch.launchFailures = [] ∧ ∀ d ∈ m'.launch.launchPlanned, Formed m' d ∧ extra m' d

/-- When a tick in TAKEOFF finds a launch over and its last-known telemetry in
formation, every planned drone reports on every stream and meets `extra`. -/
def PlanLinked (extra : DroneManager → Nat → Prop) (m : DroneManager) (l : Label) : Prop :=
  ∀ faults, l = .tick faults → m.fsm.state = .takeoff → m.launch.launchPlanned ≠ [] →
    launchInProgress m = false → atAltitude (climbsChecked m) = true →
      ∀ d ∈ m.launch.launchPlanned, Linked m d ∧ extra m d

/-! ## What the tick has judged -/

variable {m : DroneManager}

/-- A fleet with a plan is up when no failure is on record and every planned
drone looks formed. -/
lemma atAltitude_iff (hplan : m.launch.launchPlanned ≠ []) :
    atAltitude m = true ↔ m.launch.launchFailures = [] ∧
      ∀ d ∈ m.launch.launchPlanned, inFormation m d = true := by
  simp [atAltitude, hplan]

lemma inFormation_iff {d : Nat} : inFormation m d = true ↔
    d ∈ m.drones ∧ (m.telemetry d).armed = true ∧ (m.telemetry d).flightMode = "OFFBOARD" ∧
      hoverAltitude d - formationAltToleranceM ≤ (m.telemetry d).fleetZ := by
  simp [inFormation, and_assoc]

lemma tickTakeoff_up (faults : Faults) (hstate : m.fsm.state = .takeoff)
    (hup : atAltitude m = true) :
    ∃ f auditFile, f.state = .formationHold ∧ tickTakeoff m faults false =
      { m with fsm := f, auditFile := auditFile, launch := { m.launch with climbs := [] } } := by
  have hmove : m.fsm.advance m.fsm.state .formationHold "telemetry:formation_altitude_reached"
      m.time = .ok (m.fsm.enter .formationHold systemOperator
        "telemetry:formation_altitude_reached" m.time) := by
    simp only [FleetStateMachine.advance, FleetStateMachine.transition, hstate, if_true]
    rfl
  simp only [tickTakeoff, hup, Bool.not_false, Bool.and_self, if_true, advanceTo, hmove, moveTo]
  exact ⟨_, _, rfl, rfl⟩

lemma tick_into_formation (faults : Faults) (hstate : m.fsm.state = .takeoff)
    (hplan : m.launch.launchPlanned ≠ []) (hidle : launchInProgress m = false)
    (hup : atAltitude (climbsChecked m) = true) :
    ∃ f auditFile, f.state = .formationHold ∧ (evaluateLifecycle m faults).1 =
      { m with
        fsm := f, auditFile := auditFile
        launch := { (climbsChecked m).launch with climbs := [] } } := by
  obtain ⟨launch, hm, -, -, hplanned⟩ := climbsChecked_only m
  have harmed : (armedIds m).isEmpty = false := by
    obtain ⟨d, hd⟩ := List.exists_mem_of_ne_nil _ hplan
    rw [hm] at hup
    obtain ⟨hknown, harmed, -⟩ := inFormation_iff.mp
      (((atAltitude_iff (by rw [hplanned]; exact hplan)).mp hup).2 d (by rw [hplanned]; exact hd))
    have hmem : d ∈ armedIds m := List.mem_filter.mpr ⟨hknown, harmed⟩
    cases hids : armedIds m with
    | nil => rw [hids] at hmem; cases hmem
    | cons => rfl
  have hchecked : (climbsChecked m).fsm.state = .takeoff := by rw [hm]; exact hstate
  have htick : (evaluateLifecycle m faults).1 = tickTakeoff (climbsChecked m) faults false := by
    simp only [evaluateLifecycle, harmed, hidle, Bool.and_false, Bool.false_and, hchecked,
      Bool.false_eq_true, if_false]
  obtain ⟨f, auditFile, hf, htakeoff⟩ := tickTakeoff_up faults hchecked hup
  rw [htick, htakeoff, hm]
  exact ⟨f, auditFile, hf, rfl⟩

lemma judged_of_tick {faults : Faults} (hstate : m.fsm.state = .takeoff)
    (hhold : (evaluateLifecycle m faults).1.fsm.state = .formationHold) :
    launchInProgress m = false ∧ atAltitude (climbsChecked m) = true := by
  rcases (evaluateLifecycle_ticked m faults).move with h | ⟨h, -⟩ | ⟨h, -⟩ | ⟨hidle, h | ⟨h, -⟩ | h⟩
  · rw [hhold, hstate] at h; cases h
  · rw [hstate] at h; cases h
  · rw [hstate] at h; cases h
  · rw [hhold] at h; cases h
  · rw [hstate] at h; cases h
  · exact ⟨hidle, h.2.2⟩

lemma formationSound_iff (setup : Setup) {extra : DroneManager → Nat → Prop}
    (hextra : ∀ m f auditFile launch d,
      extra { m with fsm := f, auditFile := auditFile, launch := launch } d ↔ extra m d)
    (m : DroneManager) (l : Label) : FormationSound setup extra m l ↔ PlanLinked extra m l := by
  obtain ⟨launch, hm, -, -, hplanned⟩ := climbsChecked_only m
  constructor
  · intro hsound faults hl hstate hplan hidle hup d hd
    obtain ⟨f, auditFile, hf, hm'⟩ := tick_into_formation faults hstate hplan hidle hup
    subst hl
    have hplan' : (climbsChecked m).launch.launchPlanned = m.launch.launchPlanned := by
      rw [hm]; exact hplanned
    obtain ⟨-, hall⟩ := hsound faults _ _ rfl (congrArg some (Prod.ext hm' rfl)) hstate hf
      (by simpa only [hplan'] using hplan)
    obtain ⟨hformed, hmore⟩ := hall d (by simpa only [hplan'] using hd)
    exact ⟨hformed.linked, (hextra ..).mp hmore⟩
  · intro hlinked faults m' os hl hs hstate hhold hplan
    subst hl
    have hm' : (evaluateLifecycle m faults).1 = m' := congrArg Prod.fst (Option.some.inj hs)
    have hheld : (evaluateLifecycle m faults).1.fsm.state = .formationHold := by
      rw [hm']; exact hhold
    obtain ⟨hidle, hup⟩ := judged_of_tick hstate hheld
    have hrecord := (evaluateLifecycle_ticked m faults).record.2.2
    rw [hm'] at hrecord
    rw [hrecord] at hplan
    obtain ⟨f, auditFile, -, heq⟩ := tick_into_formation faults hstate hplan hidle hup
    rw [hm'] at heq
    subst heq
    have hplan' : (climbsChecked m).launch.launchPlanned = m.launch.launchPlanned := by
      rw [hm]; exact hplanned
    obtain ⟨hnone, hall⟩ := (atAltitude_iff (by rw [hplan']; exact hplan)).mp hup
    refine ⟨hnone, fun d hd => ?_⟩
    have hd' : d ∈ (climbsChecked m).launch.launchPlanned := hd
    obtain ⟨hlink, hmore⟩ := hlinked faults rfl hstate hplan hidle hup d (by rwa [← hplan'])
    have hform := hall d hd'
    rw [hm] at hform
    obtain ⟨-, harmed, hoffboard, halt⟩ := inFormation_iff.mp hform
    exact ⟨⟨hlink, harmed, hoffboard, halt⟩, (hextra ..).mpr hmore⟩

/-- Every tick of a run is sound exactly when every one that took the fleet into
formation judged it over live links: with the tolerance read downwards, as its
comment has it, and with the tolerance read both ways for planned drones that
are not above it either. -/
theorem formation_sound_iff (setup : Setup) (init : DroneManager) (ls : List Label) :
    (Along (step setup) (FormationSound setup fun _ _ => True) init ls ↔
      Along (step setup) (PlanLinked fun _ _ => True) init ls) ∧
    (Along (step setup) (FormationSound setup NotAbove) init ls ↔
      Along (step setup) (PlanLinked NotAbove) init ls) := by
  have hiff : ∀ {extra : DroneManager → Nat → Prop},
      (∀ m f auditFile launch d,
        extra { m with fsm := f, auditFile := auditFile, launch := launch } d ↔ extra m d) →
      (Along (step setup) (FormationSound setup extra) init ls ↔
        Along (step setup) (PlanLinked extra) init ls) := fun hextra =>
    ⟨fun h => h.mono fun m l => (formationSound_iff setup hextra m l).mp,
      fun h => h.mono fun m l => (formationSound_iff setup hextra m l).mpr⟩
  exact ⟨hiff fun _ _ _ _ _ => Iff.rfl, hiff fun _ _ _ _ _ => Iff.rfl⟩

/-- The drone's position stream drops, and with it the link: the next tick takes
the fleet into formation. -/
theorem formation_with_link_lost : ∃ m os, run (step simSetup) onPad
        (climbOut ++ [.telemetry 0 (.streamDropped "position_velocity_ned")]) = some (m, os) ∧
      (m.telemetry 0).connected = false ∧ m.fsm.state = .takeoff ∧
      (evaluateLifecycle m {}).1.fsm.state = .formationHold ∧
      ∀ extra, ¬ FormationSound simSetup extra m (.tick {}) := by
  obtain ⟨⟨m, os⟩, hrun, hlost, hstate, hhold, hplan, hlost'⟩ :
      ∃ r ∈ run (step simSetup) onPad
      (climbOut ++ [.telemetry 0 (.streamDropped "position_velocity_ned")]),
      (r.1.telemetry 0).connected = false ∧ r.1.fsm.state = .takeoff ∧
      (evaluateLifecycle r.1 {}).1.fsm.state = .formationHold ∧
      (evaluateLifecycle r.1 {}).1.launch.launchPlanned = [0] ∧
      ((evaluateLifecycle r.1 {}).1.telemetry 0).connected = false := by decide +kernel
  refine ⟨m, os, hrun, hlost, hstate, hhold, fun extra hsound => ?_⟩
  obtain ⟨-, hall⟩ := hsound {} (evaluateLifecycle m {}).1 (evaluateLifecycle m {}).2 rfl rfl hstate
    hhold (by rw [hplan]; simp)
  have hlink := (hall 0 (by rw [hplan]; simp)).1.linked.1
  rw [hlost'] at hlink
  cases hlink

end Taramandal.Gcs.Formation
