import Taramandal.Sim.System

/-! # The show trigger, repeated

The ground repeats the START frame until the show begins, and takes a repeat to
change nothing. A drone that has been told to land or to fly home since the first
frame has given its mission up; if it is still armed the repeat hands it back.
That is the only way in which a repeat is felt (`repeat_idempotent_iff`). -/
set_option linter.unusedSectionVars false

namespace Taramandal.Sim.Trigger

open Lib.Run Core.Numbers Core.Values Core.Geometry Core.Mission Sim.Vehicle Sim.System

variable {K : Type} [Field K] [LinearOrder K] [FloorRing K] [Sqrt K] {n : Nat}

/-- What may happen between two deliveries ahead of the start instant: ticks, and
the commands that end a drone's flight. -/
def BeforeStart (start : K) : SimLabel K n → Prop
  | .tick _ utc _ => utc < start
  | .call _ .land => True
  | .call _ .returnToLaunch => True
  | .call _ .kill => True
  | .call _ .disarm => True
  | _ => False

/-- The step makes drone `d` land or fly home: it is commanded to, or its own
offboard-loss failsafe lands it. -/
def sendsDown (d : Fin n) (s : FleetState K n) : SimLabel K n → Bool
  | .call d' .land => d' = d
  | .call d' .returnToLaunch => d' = d
  | .tick dt _ _ =>
    offboardLost s.config (s.timeS + dt)
      (hearSetpoint (s.timeS + dt) (applyStaged s.config (s.timeS + dt) (s.drone d)))
  | _ => false

/-- The drone's mission is as it was, except that it may have been given up, and
the drone may have been disarmed, which gives it up. Only a drone that was sent
down gives it up and stays armed. -/
structure MissionKept (sent : Bool) (d d' : SimDrone K) : Prop where
  storage : d'.storage = d.storage
  mission : d'.mission = d.mission
  showId : d'.missionShowId = d.missionShowId
  startUtc : d'.missionStartUtc = d.missionStartUtc
  complete : d'.missionComplete = d.missionComplete
  active : d'.missionActive = true → d.missionActive = true ∧ (d.armed = true → d'.armed = true)
  armed : d'.armed = true → d.armed = true
  stays : sent = false → d'.armed = true → d'.missionActive = d.missionActive

section

omit [Field K] [LinearOrder K] [FloorRing K] [Sqrt K]

variable {sent : Bool} {d d' d'' : SimDrone K}

lemma MissionKept.refl (d : SimDrone K) : MissionKept sent d d :=
  ⟨rfl, rfl, rfl, rfl, rfl, fun h => ⟨h, id⟩, id, fun _ _ => rfl⟩

lemma MissionKept.trans (h : MissionKept sent d d') (h' : MissionKept sent d' d'') :
    MissionKept sent d d'' where
  storage := h'.storage.trans h.storage
  mission := h'.mission.trans h.mission
  showId := h'.showId.trans h.showId
  startUtc := h'.startUtc.trans h.startUtc
  complete := h'.complete.trans h.complete
  active ha :=
    have ⟨hmid, harmed⟩ := h'.active ha
    have ⟨hfirst, harmed'⟩ := h.active hmid
    ⟨hfirst, harmed ∘ harmed'⟩
  armed := h.armed ∘ h'.armed
  stays hsent harmed := (h'.stays hsent harmed).trans (h.stays hsent (h'.armed harmed))

/-- The fields of a drone that a delivered trigger or an arming writes. -/
def missionFields (d : SimDrone K) :=
  (d.storage, d.mission, d.missionShowId, d.missionStartUtc, d.missionComplete, d.missionActive,
    d.armed)

lemma kept_of_fields (h : missionFields d' = missionFields d) : MissionKept sent d d' := by
  simp only [missionFields, Prod.mk.injEq] at h
  obtain ⟨hstorage, hmission, hshow, hstart, hcomplete, hactive, harmed⟩ := h
  exact ⟨hstorage, hmission, hshow, hstart, hcomplete, fun h => ⟨hactive ▸ h, fun h => harmed ▸ h⟩,
    fun h => harmed ▸ h, fun _ _ => hactive⟩

lemma commandLand_kept (d : SimDrone K) : MissionKept true d (commandLand d) :=
  ⟨rfl, rfl, rfl, rfl, rfl, nofun, id, nofun⟩

lemma commandRtl_kept (d : SimDrone K) : MissionKept true d (commandRtl d) :=
  ⟨rfl, rfl, rfl, rfl, rfl, nofun, id, nofun⟩

lemma commandDisarm_kept (d : SimDrone K) : MissionKept sent d (commandDisarm d) :=
  ⟨rfl, rfl, rfl, rfl, rfl, nofun, nofun, fun _ => nofun⟩

end

lemma commandKill_kept (sent : Bool) (d : SimDrone K) : MissionKept sent d (commandKill d) :=
  (commandDisarm_kept d).trans (kept_of_fields rfl)

/-! ### The tick -/

lemma applyStaged_kept (sent : Bool) (cfg : SimConfig K) (now : K) (d : SimDrone K) :
    MissionKept sent d (applyStaged cfg now d) := by
  unfold applyStaged
  split
  · exact kept_of_fields rfl
  · exact .refl d

lemma hearSetpoint_kept (sent : Bool) (now : K) (d : SimDrone K) :
    MissionKept sent d (hearSetpoint now d) := by
  unfold hearSetpoint
  split
  · exact kept_of_fields rfl
  · exact .refl d

lemma beforeMission_kept (cfg : SimConfig K) (now : K) (d : SimDrone K) :
    MissionKept (offboardLost cfg now (hearSetpoint now (applyStaged cfg now d))) d
      (beforeMission cfg now d) := by
  refine (applyStaged_kept _ cfg now d).trans ((hearSetpoint_kept _ now _).trans ?_)
  change MissionKept _ _ (applyOffboardLossFailsafe cfg now (applyStaged cfg now d))
  unfold applyOffboardLossFailsafe
  dsimp only
  split
  next hlost =>
    rw [hlost]
    have hoff : MissionKept true (hearSetpoint now (applyStaged cfg now d))
        { hearSetpoint now (applyStaged cfg now d) with
          offboardActive := false
          offboardFailsafe := true } := kept_of_fields rfl
    exact hoff.trans (commandLand_kept _)
  next => exact .refl _

lemma applyLandingAndRtl_kept (sent : Bool) (cfg : SimConfig K) (d : SimDrone K) :
    MissionKept sent d (applyLandingAndRtl cfg d) := by
  have hhome : MissionKept sent d (flyHome d) := by
    unfold flyHome
    split
    · split
      · exact kept_of_fields rfl
      · exact kept_of_fields rfl
    · exact .refl d
  have hdown : MissionKept sent (flyHome d) (descend cfg (flyHome d)) := by
    unfold descend
    split
    · exact kept_of_fields rfl
    · exact .refl _
  refine hhome.trans (hdown.trans ?_)
  unfold applyLandingAndRtl reportMode
  split
  · exact kept_of_fields rfl
  · exact .refl _

lemma stepLink_kept (sent : Bool) (cfg : SimConfig K) (draws : Draws K) (d : SimDrone K) :
    MissionKept sent d (stepLink cfg draws d) := by
  unfold stepLink
  split
  · split
    · exact kept_of_fields rfl
    · exact .refl d
  · split
    · exact kept_of_fields rfl
    · exact .refl d

lemma touchDown_kept (sent : Bool) (d : SimDrone K) : MissionKept sent d (touchDown d) := by
  unfold touchDown
  split
  · exact (commandDisarm_kept d).trans (kept_of_fields rfl)
  · exact .refl d

lemma afterMission_kept (sent : Bool) (exp : K → K) (cfg : SimConfig K) (dt : K)
    (draws : Draws K) (d : SimDrone K) :
    MissionKept sent d (afterMission exp cfg dt draws d) := by
  have hflown : MissionKept sent (applyLandingAndRtl cfg d)
      (integrate exp cfg dt draws.wind (applyLandingAndRtl cfg d)) := kept_of_fields rfl
  exact (applyLandingAndRtl_kept sent cfg d).trans
    (hflown.trans ((stepLink_kept sent cfg draws _).trans (touchDown_kept sent _)))

variable [IsStrictOrderedRing K]

lemma applyMission_waiting {start utc : K} (hutc : utc < start) {d : SimDrone K}
    (hstart : d.missionActive = true → d.missionStartUtc = some start) :
    applyMission utc d = (d, none) := by
  unfold applyMission
  refine if_pos ?_
  cases hactive : d.missionActive
  · exact .inl rfl
  · simp [hstart hactive, hutc]

variable {s : FleetState K n} {l : SimLabel K n}

lemma simStep_call_kept {exp : K → K} {start : K} {d d' : Fin n} {m : FleetState K n}
    {c : Call K} {os : List SimError} (hl : BeforeStart (n := n) start (.call d' c))
    (hs : simStep exp s (.call d' c) = some (m, os)) :
    MissionKept (sendsDown d s (.call d' c)) (s.drone d) (m.drone d) := by
  have hm : m = s.onDrone d' fun _ => (c.run s.timeS d' (s.drone d')).1 :=
    (congrArg Prod.fst (Option.some.inj hs)).symm
  rw [hm]
  by_cases hd : d = d'
  · subst hd
    have hself : (s.onDrone d fun _ => (c.run s.timeS d (s.drone d)).1).drone d =
        (c.run s.timeS d (s.drone d)).1 := Function.update_self ..
    rw [hself]
    cases c with
    | land =>
      have hsent : sendsDown d s (.call d .land) = true := by simp [sendsDown]
      rw [hsent]
      exact commandLand_kept _
    | returnToLaunch =>
      have hsent : sendsDown d s (.call d .returnToLaunch) = true := by simp [sendsDown]
      rw [hsent]
      exact commandRtl_kept _
    | kill => exact commandKill_kept _ _
    | disarm => exact commandDisarm_kept _
    | _ => exact hl.elim
  · have hother : (s.onDrone d' fun _ => (c.run s.timeS d' (s.drone d')).1).drone d =
        s.drone d := Function.update_of_ne hd ..
    rw [hother]
    exact .refl _

section

variable {exp : K → K} {start : K} {d : Fin n} {m : FleetState K n} {os : List SimError}

lemma tick_eq {dt utc : K} {draws : Fin n → Draws K}
    (hs : simStep exp s (.tick dt utc draws) = some (m, os)) : m = (s.tick exp dt utc draws).1 :=
  (congrArg Prod.fst (Option.some.inj hs)).symm

/-- What a drone's part of the fleet becomes in one step, as far as its mission
goes, while the mission it holds waits for its start. -/
lemma simStep_kept (hstart : (s.drone d).missionActive = true → (s.drone d).missionStartUtc = some start)
    (hl : BeforeStart start l) (hs : simStep exp s l = some (m, os)) :
    MissionKept (sendsDown d s l) (s.drone d) (m.drone d) := by
  cases l with
  | tick dt utc draws =>
    have hbefore := beforeMission_kept s.config (s.timeS + dt) (s.drone d)
    have hwait : applyMission utc (beforeMission s.config (s.timeS + dt) (s.drone d)) =
        (beforeMission s.config (s.timeS + dt) (s.drone d), none) :=
      applyMission_waiting hl fun h => hbefore.startUtc.trans (hstart (hbefore.active h).1)
    rw [tick_eq hs]
    obtain h | h | h := s.tick_drone exp dt utc draws d
    · rw [h]; exact hbefore
    · rw [h, hwait]; exact hbefore
    · rw [h, hwait]; exact hbefore.trans (afterMission_kept _ ..)
  | call d' c => exact simStep_call_kept hl hs
  | broadcast payload targetSystem => exact hl.elim

lemma simStep_sendsDown (hl : BeforeStart start l)
    (hsent : sendsDown d s l = true) (hs : simStep exp s l = some (m, os)) :
    (m.drone d).missionActive = false := by
  cases l with
  | tick dt utc draws =>
    have hbefore : (beforeMission s.config (s.timeS + dt) (s.drone d)).missionActive = false := by
      change offboardLost _ _ _ = true at hsent
      simp [beforeMission, applyOffboardLossFailsafe, hsent, commandLand]
    have hwait := applyMission_waiting (lt_add_one utc)
      (d := beforeMission s.config (s.timeS + dt) (s.drone d)) (by simp [hbefore])
    rw [tick_eq hs]
    obtain h | h | h := s.tick_drone exp dt utc draws d
    · rw [h, hbefore]
    · rw [h, hwait, hbefore]
    · rw [h, hwait]
      by_contra hactive
      have hkept := afterMission_kept false exp s.config dt (draws d)
        (beforeMission s.config (s.timeS + dt) (s.drone d))
      rw [(hkept.active (Bool.eq_true_of_not_eq_false hactive)).1] at hbefore
      cases hbefore
  | call d' c =>
    have hm : m = s.onDrone d' fun _ => (c.run s.timeS d' (s.drone d')).1 :=
      (congrArg Prod.fst (Option.some.inj hs)).symm
    rw [hm]
    cases c with
    | land =>
      obtain rfl : d' = d := by simpa [sendsDown] using hsent
      simp [FleetState.onDrone, Call.run, commandLand]
    | returnToLaunch =>
      obtain rfl : d' = d := by simpa [sendsDown] using hsent
      simp [FleetState.onDrone, Call.run, commandRtl]
    | _ => cases hsent
  | broadcast payload targetSystem => exact hl.elim

end

lemma applyMission_storage (utc : K) (d : SimDrone K) :
    (applyMission utc d).1.storage = d.storage := by
  have hfollow : ∀ samples (elapsed : K) (d : SimDrone K),
      (followMission samples elapsed d).1.storage = d.storage := by
    intro samples elapsed d
    unfold followMission
    repeat' split
    all_goals rfl
  have hfly : ∀ samples (elapsed : Option K) (d : SimDrone K),
      (flyMission samples elapsed d).1.storage = d.storage := by
    intro samples elapsed d
    unfold flyMission
    split
    · split
      · rfl
      · exact hfollow ..
    · rfl
  unfold applyMission
  split
  · rfl
  · split
    · rfl
    · exact hfly ..

lemma simStep_storage {exp : K → K} {start : K} {d : Fin n}
    {m : FleetState K n} {os : List SimError} (hl : BeforeStart start l)
    (hs : simStep exp s l = some (m, os)) : (m.drone d).storage = (s.drone d).storage := by
  cases l with
  | tick dt utc draws =>
    have hbefore := (beforeMission_kept s.config (s.timeS + dt) (s.drone d)).storage
    rw [tick_eq hs]
    obtain h | h | h := s.tick_drone exp dt utc draws d
    · rw [h, hbefore]
    · rw [h, applyMission_storage, hbefore]
    · rw [h, (afterMission_kept false ..).storage, applyMission_storage, hbefore]
  | call d' c =>
    exact (simStep_call_kept hl hs).storage
  | broadcast payload targetSystem => exact hl.elim

/-! ## Between two deliveries -/

/-- The drone holds the mission the trigger is for, and, while it is going to fly
it, at the trigger's instant. -/
structure Holds (trigger : ShowTrigger) (waypoints : List (Waypoint K))
    (files : Lib.Dict.Dict String Bytes) (d : SimDrone K) : Prop where
  storage : d.storage = files
  mission : d.mission = some (missionSamples waypoints)
  showId : d.missionShowId = some trigger.showId
  complete : d.missionComplete = false
  active : d.missionActive = true → d.missionStartUtc = some (startUtc trigger) ∧ d.armed = true

section

omit [FloorRing K] [Sqrt K] [IsStrictOrderedRing K]

variable {trigger : ShowTrigger} {waypoints : List (Waypoint K)}
  {files : Lib.Dict.Dict String Bytes} {d d' : SimDrone K}

lemma Holds.kept {sent : Bool} (h : Holds trigger waypoints files d)
    (hk : MissionKept sent d d') : Holds trigger waypoints files d' where
  storage := hk.storage.trans h.storage
  mission := hk.mission.trans h.mission
  showId := hk.showId.trans h.showId
  complete := hk.complete.trans h.complete
  active ha :=
    have ⟨hbefore, harmed⟩ := hk.active ha
    have ⟨hstart, hup⟩ := h.active hbefore
    ⟨hk.startUtc.trans hstart, harmed hup⟩

variable {droneId : Nat} (hconnected : d.connected = true)
  (hstart : trigger.command = ShowCommand.start.code)

include hconnected hstart

lemma hearTrigger_none (hfile : storedMission (K := K) droneId trigger.showId d.storage = none) :
    hearTrigger trigger droneId d = d := by
  simp [hearTrigger, hconnected, hstart, ShowCommand.code, hfile]

lemma hearTrigger_armed (harmed : d.armed = true)
    (hfile : storedMission droneId trigger.showId d.storage = some waypoints) :
    hearTrigger trigger droneId d =
      { d with
        mission := some (missionSamples waypoints)
        missionShowId := some trigger.showId
        missionStartUtc := some (startUtc trigger)
        missionActive := true
        missionComplete := false } := by
  simp [hearTrigger, startMission, loadMission, hconnected, hstart, ShowCommand.code, hfile, harmed]

lemma hearTrigger_disarmed (harmed : d.armed = false)
    (hfile : storedMission droneId trigger.showId d.storage = some waypoints) :
    hearTrigger trigger droneId d =
      { d with
        mission := some (missionSamples waypoints)
        missionShowId := some trigger.showId
        missionActive := false
        missionComplete := false } := by
  simp [hearTrigger, startMission, loadMission, hconnected, hstart, ShowCommand.code, hfile, harmed]

/-- After the first frame the drone holds the mission, and is going to fly it if
it is armed. -/
lemma hearTrigger_holds (hfile : storedMission droneId trigger.showId d.storage = some waypoints) :
    Holds trigger waypoints d.storage (hearTrigger trigger droneId d) ∧
      (hearTrigger trigger droneId d).missionActive = (hearTrigger trigger droneId d).armed := by
  cases harmed : d.armed
  · rw [hearTrigger_disarmed hconnected hstart harmed hfile]
    exact ⟨⟨rfl, rfl, rfl, rfl, nofun⟩, harmed.symm⟩
  · rw [hearTrigger_armed hconnected hstart harmed hfile]
    exact ⟨⟨rfl, rfl, rfl, rfl, fun _ => ⟨rfl, harmed⟩⟩, harmed.symm⟩

/-- The repeat at a drone that holds the mission: it is felt exactly by an armed
drone that was no longer going to fly it. -/
lemma hearTrigger_again (h : Holds trigger waypoints d.storage d)
    (hfile : storedMission droneId trigger.showId d.storage = some waypoints) :
    hearTrigger trigger droneId d = d ↔ (d.armed = true → d.missionActive = true) := by
  obtain ⟨-, hmission, hshow, hcomplete, hactive⟩ := h
  cases harmed : d.armed
  · have hidle : d.missionActive = false := by
      by_contra ha
      have hup := (hactive (Bool.eq_true_of_not_eq_false ha)).2
      rw [harmed] at hup
      cases hup
    refine iff_of_true ?_ nofun
    rw [hearTrigger_disarmed hconnected hstart harmed hfile]
    cases d
    simp_all
  · rw [hearTrigger_armed hconnected hstart harmed hfile]
    constructor
    · intro heq _
      exact (congrArg SimDrone.missionActive heq).symm
    · intro ha
      rw [← hmission, ← hshow, ← (hactive (ha rfl)).1, ← hcomplete, ← ha rfl]

end

/-! ## The repeat -/

lemma simStep_broadcast {exp : K → K} {frame : Bytes} {trigger : ShowTrigger}
    {t : FleetState K n} {os : List SimError} (hframe : decodeShowTrigger frame = .ok trigger)
    (hs : simStep exp s (.broadcast frame 0) = some (t, os)) (d : Fin n) :
    t.drone d = if trigger.valid then hearTrigger trigger d (s.drone d) else s.drone d := by
  have ht : t = (broadcast frame 0 s).1 := (congrArg Prod.fst (Option.some.inj hs)).symm
  rw [ht]
  simp only [broadcast, hframe, ne_eq, not_true_eq_false, if_false]
  split <;> rfl

section

variable {exp : K → K} {trigger : ShowTrigger} {waypoints : List (Waypoint K)}
  {files : Lib.Dict.Dict String Bytes} {first m : FleetState K n} {ls : List (SimLabel K n)}
  {os : List SimError} {d : Fin n}
  (hbetween : Along (simStep exp) (fun _ l => BeforeStart (startUtc trigger) l) first ls)
  (hrun : run (simStep exp) first ls = some (m, os))

include hbetween hrun

lemma run_storage : (m.drone d).storage = (first.drone d).storage :=
  run_invariant (I := fun m => (m.drone d).storage = (first.drone d).storage)
    (fun _ _ _ _ h hl hs => (simStep_storage hl hs).trans h) rfl hbetween hrun

lemma Holds.run_kept (h : Holds trigger waypoints files (first.drone d)) :
    Holds trigger waypoints files (m.drone d) :=
  run_invariant (I := fun m => Holds trigger waypoints files (m.drone d))
    (fun _ _ _ _ h hl hs => h.kept (simStep_kept (fun ha => (h.active ha).1) hl hs)) h hbetween hrun

/-- A drone that is still armed goes on waiting for its start, unless something
has sent it down. -/
lemma Holds.waits_iff (h : Holds trigger waypoints files (first.drone d))
    (hgoing : (first.drone d).missionActive = (first.drone d).armed)
    (harmed : (m.drone d).armed = true) :
    (m.drone d).missionActive = true ↔
      Along (simStep exp) (fun s l => sendsDown d s l = false) first ls := by
  constructor
  · intro hactive
    refine (along_or (J := fun m => (m.drone d).missionActive = false) ?_ ?_ hbetween
      hrun).resolve_right (by rw [hactive]; nofun)
    · intro s l m o hl hsent hs
      exact simStep_sendsDown hl (Bool.eq_true_of_not_eq_false hsent) hs
    · intro s l m o hidle hl hs
      by_contra hactive'
      have hwaits : (s.drone d).missionActive = true →
          (s.drone d).missionStartUtc = some (startUtc trigger) := by
        rw [hidle]
        nofun
      have hkept := simStep_kept hwaits hl hs
      rw [(hkept.active (Bool.eq_true_of_not_eq_false hactive')).1] at hidle
      cases hidle
  · intro hquiet
    have hgoes : Holds trigger waypoints files (m.drone d) ∧
        ((m.drone d).armed = true → (m.drone d).missionActive = true) := by
      refine run_invariant (I := fun m => Holds trigger waypoints files (m.drone d) ∧
        ((m.drone d).armed = true → (m.drone d).missionActive = true)) ?_
        ⟨h, fun hup => hgoing.trans hup⟩ (hbetween.and hquiet) hrun
      intro s l m o h hl hs
      have hkept := simStep_kept (fun ha => (h.1.active ha).1) hl.1 hs
      refine ⟨h.1.kept hkept, fun hup => ?_⟩
      rw [hkept.stays hl.2 hup]
      exact h.2 (hkept.armed hup)
    exact hgoes.2 harmed

end

/-- A repeat leaves a drone as it is exactly if the frame means nothing to it,
or it is not armed any more, or nothing has sent it down since the first frame:
no LAND or RTL, and not its own offboard-loss failsafe. -/
theorem repeat_idempotent_iff {exp : K → K} {frame : Bytes} {trigger : ShowTrigger}
    {s first m again : FleetState K n} {ls : List (SimLabel K n)} {os os' os'' : List SimError}
    {d : Fin n} (hframe : decodeShowTrigger frame = .ok trigger)
    (hstart : trigger.command = ShowCommand.start.code)
    (hbetween : ∀ l ∈ ls, BeforeStart (startUtc trigger) l)
    (hfirst : simStep exp s (.broadcast frame 0) = some (first, os))
    (hrun : run (simStep exp) first ls = some (m, os'))
    (hagain : simStep exp m (.broadcast frame 0) = some (again, os''))
    (hlinked : (s.drone d).connected = true) (hlinked' : (m.drone d).connected = true) :
    again.drone d = m.drone d ↔
      (trigger.valid = true →
        (storedMission (K := K) d trigger.showId (s.drone d).storage).isSome = true →
        (m.drone d).armed = true →
          Along (simStep exp) (fun s l => sendsDown d s l = false) first ls) := by
  rw [simStep_broadcast hframe hagain]
  have hd := simStep_broadcast hframe hfirst d
  cases hvalid : trigger.valid
  · simp
  simp only [hvalid, if_true, forall_const] at hd ⊢
  have hbetween' : Along (simStep exp) (fun _ l => BeforeStart (startUtc trigger) l) first ls :=
    along_of_labels hbetween
  cases hfile : storedMission (K := K) d trigger.showId (s.drone d).storage with
  | none =>
    rw [hearTrigger_none hlinked hstart hfile] at hd
    have hfiles : (m.drone d).storage = (s.drone d).storage :=
      (run_storage hbetween' hrun).trans (congrArg SimDrone.storage hd)
    rw [← hfiles] at hfile
    simp [hearTrigger_none hlinked' hstart hfile]
  | some waypoints =>
    obtain ⟨hholds, hgoing⟩ := hearTrigger_holds hlinked hstart hfile
    rw [← hd] at hholds hgoing
    have hheld := hholds.run_kept hbetween' hrun
    have hfile' := hfile
    rw [← hheld.storage] at hfile'
    rw [hearTrigger_again hlinked' hstart (hheld.storage ▸ hheld) hfile']
    simp only [Option.isSome_some, forall_const]
    exact forall_congr' fun harmed => hholds.waits_iff hbetween' hrun hgoing harmed

/-! ## One drone in the air -/

def rehearsal : ShowId := List.replicate 16 7

/-- A single waypoint three metres up, compiled for drone 0. -/
def rehearsalFile : Bytes :=
  (compileMission [({ time := 0, x := 0, y := 0, z := -3, yaw := 0 } : Waypoint ℚ)] 0 rehearsal
    (0, 0)).toOption.getD []

def startFrame : Bytes := (encodeShowTrigger .start rehearsal 5000000).toOption.getD []

def startTrigger : ShowTrigger := ⟨1, rehearsal, 5000000, true⟩

/-- An armed drone three metres up, with its mission on board. -/
def airborne : FleetState ℚ 1 where
  config := .standard
  timeS := 0
  drone _ :=
    { SimDrone.fresh with
      position := ⟨0, 0, 3⟩
      armed := true
      storage := [("mission.tmsn", rehearsalFile)] }

def calmTick : SimLabel ℚ 1 := .tick (1 / 50) 1 fun _ => ⟨0, 1, 1, 1, 1⟩

/-- The rotor lag of `SimConfig.standard` is off, so no exponential is taken. -/
def noLag : ℚ → ℚ := fun _ => 1

theorem repeat_idempotent_tick :
    ∃ first m again os os' os'', simStep noLag airborne (.broadcast startFrame 0) = some (first, os) ∧
      run (simStep noLag) first [calmTick] = some (m, os') ∧
      simStep noLag m (.broadcast startFrame 0) = some (again, os'') ∧
      again.drone 0 = m.drone 0 := by
  obtain ⟨⟨first, os⟩, hfirst, ⟨m, os'⟩, hrun, ⟨⟨again, os''⟩, hagain, hlinked'⟩, hquiet⟩ :
      ∃ r ∈ simStep noLag airborne (.broadcast startFrame 0),
      ∃ r' ∈ run (simStep noLag) r.1 [calmTick],
      (∃ r'' ∈ simStep noLag r'.1 (.broadcast startFrame 0), (r'.1.drone 0).connected) ∧
      Along (simStep noLag) (fun s l => sendsDown 0 s l = false) r.1 [calmTick] := by decide +kernel
  refine ⟨first, m, again, os, os', os'', hfirst, hrun, hagain, ?_⟩
  have hframe : decodeShowTrigger startFrame = .ok startTrigger := by decide +kernel
  refine (repeat_idempotent_iff hframe rfl ?_ hfirst hrun hagain rfl hlinked').mpr
    fun _ _ _ => hquiet
  intro l hl
  obtain rfl := List.mem_singleton.mp hl
  change (1 : ℚ) < startUtc startTrigger
  norm_num [startUtc, startTrigger]

/-- Commanded to LAND between two deliveries, the drone is given its mission
back by the second. -/
theorem repeat_reactivates_landing :
    ∃ first m again os os' os'', simStep noLag airborne (.broadcast startFrame 0) = some (first, os) ∧
      run (simStep noLag) first [.call 0 .land] = some (m, os') ∧
      simStep noLag m (.broadcast startFrame 0) = some (again, os'') ∧
      (m.drone 0).connected = true ∧ (m.drone 0).missionActive = false ∧
      (again.drone 0).missionActive = true ∧ again.drone 0 ≠ m.drone 0 := by
  obtain ⟨⟨first, os⟩, hfirst, ⟨m, os'⟩, hrun, ⟨again, os''⟩, hagain, hlinked, hidle, hactive⟩ :
      ∃ r ∈ simStep noLag airborne (.broadcast startFrame 0), ∃ r' ∈ run (simStep noLag) r.1
      [.call 0 .land], ∃ r'' ∈ simStep noLag r'.1 (.broadcast startFrame 0),
      (r'.1.drone 0).connected ∧ (r'.1.drone 0).missionActive = false ∧
      (r''.1.drone 0).missionActive := by decide +kernel
  refine ⟨first, m, again, os, os', os'', hfirst, hrun, hagain, hlinked, hidle, hactive, ?_⟩
  intro hsame
  rw [hsame, hidle] at hactive
  cases hactive

end Taramandal.Sim.Trigger
