import Mathlib.Analysis.Complex.Exponential
import Taramandal.Sim.Phases

/-! # The envelope of a simulated flight

Whatever it is commanded, a drone stays above the ground, is not faster than its
limit, and has a charge between nothing and full; one that is not armed stays where
it is. With the phases this is what a run keeps, exactly as long as its steps are
orderly (`run_sound_iff`). -/
namespace Taramandal.Sim.Envelope

open Lib.Run Core.Numbers Core.Mission Sim.Vehicle Sim.System Sim.Phases

variable {K : Type}

/-! ## The vehicle -/

noncomputable section

def speed (d : SimDrone ℝ) : ℝ :=
  sqrt (d.velocity.north * d.velocity.north + d.velocity.east * d.velocity.east +
    d.velocity.up * d.velocity.up)

/-- Above the ground, not too fast, and with a charge that can be. -/
structure InEnvelope (cfg : SimConfig ℝ) (d : SimDrone ℝ) : Prop where
  altitude : 0 ≤ d.position.up
  slow : speed d ≤ cfg.maxVelocityMs
  charge : 0 ≤ d.batteryPct ∧ d.batteryPct ≤ 100

def body (d : SimDrone K) : Vec3 K × Vec3 K × K := (d.position, d.velocity, d.batteryPct)

variable {d d' : SimDrone ℝ}

lemma InEnvelope.of_body {cfg : SimConfig ℝ} (h : InEnvelope cfg d)
    (hbody : body d' = body d) : InEnvelope cfg d' := by
  simp only [body, Prod.mk.injEq] at hbody
  obtain ⟨hposition, hvelocity, hbattery⟩ := hbody
  refine ⟨?_, ?_, ?_⟩
  · rw [hposition]
    exact h.altitude
  · rw [speed, hvelocity]
    exact h.slow
  · rw [hbattery]
    exact h.charge

lemma body_beforeMission (cfg : SimConfig ℝ) (now : ℝ) (d : SimDrone ℝ) :
    body (beforeMission cfg now d) = body d ∧ (beforeMission cfg now d).armed = d.armed := by
  have hstaged : body (applyStaged cfg now d) = body d ∧
      (applyStaged cfg now d).armed = d.armed := by
    unfold applyStaged
    split <;> exact ⟨rfl, rfl⟩
  have hheard : body (hearSetpoint now (applyStaged cfg now d)) = body d ∧
      (hearSetpoint now (applyStaged cfg now d)).armed = d.armed := by
    unfold hearSetpoint
    split <;> exact hstaged
  unfold beforeMission applyOffboardLossFailsafe
  dsimp only
  split <;> exact hheard

lemma body_applyMission (utc : ℝ) (d : SimDrone ℝ) :
    body (applyMission utc d).1 = body d ∧ (applyMission utc d).1.armed = d.armed := by
  unfold applyMission
  split
  · exact ⟨rfl, rfl⟩
  · split
    · exact ⟨rfl, rfl⟩
    · unfold flyMission
      split
      · split
        · exact ⟨rfl, rfl⟩
        · unfold followMission
          split
          · split <;> exact ⟨rfl, rfl⟩
          · split <;> exact ⟨rfl, rfl⟩
      · exact ⟨rfl, rfl⟩

lemma body_applyLandingAndRtl (cfg : SimConfig ℝ) (d : SimDrone ℝ) :
    body (applyLandingAndRtl cfg d) = body d ∧ (applyLandingAndRtl cfg d).armed = d.armed := by
  have hhome : body (flyHome d) = body d ∧ (flyHome d).armed = d.armed := by
    unfold flyHome
    split
    · split <;> exact ⟨rfl, rfl⟩
    · exact ⟨rfl, rfl⟩
  have hdown : body (descend cfg (flyHome d)) = body d ∧
      (descend cfg (flyHome d)).armed = d.armed := by
    unfold descend
    split <;> exact hhome
  unfold applyLandingAndRtl reportMode
  split <;> exact hdown

lemma body_stepLink (cfg : SimConfig ℝ) (draws : Draws ℝ) (d : SimDrone ℝ) :
    body (stepLink cfg draws d) = body d := by
  unfold stepLink
  split
  · split <;> rfl
  · split <;> rfl

lemma body_touchDown (d : SimDrone ℝ) : body (touchDown d) = body d := by
  unfold touchDown
  split <;> rfl

lemma clampNorm_le (a : Vec3 ℝ) {maxNorm : ℝ} (hmax : 0 ≤ maxNorm) :
    let b := clampNorm a maxNorm
    b.north * b.north + b.east * b.east + b.up * b.up ≤ maxNorm ^ 2 := by
  intro b
  have hsum : 0 ≤ a.north * a.north + a.east * a.east + a.up * a.up :=
    add_nonneg (add_nonneg (mul_self_nonneg _) (mul_self_nonneg _)) (mul_self_nonneg _)
  obtain ⟨norm, hnorm⟩ : ∃ norm, norm = sqrt (a.north * a.north + a.east * a.east + a.up * a.up) :=
    ⟨_, rfl⟩
  have hpos : 0 < max norm (1 / 1000000000) := lt_max_of_lt_right (by norm_num)
  obtain ⟨scale, hscale⟩ : ∃ scale, scale = min 1 (maxNorm / max norm (1 / 1000000000)) := ⟨_, rfl⟩
  have hscale_nonneg : 0 ≤ scale := hscale ▸ le_min zero_le_one (div_nonneg hmax hpos.le)
  have hnorm_nonneg : 0 ≤ norm := hnorm ▸ sqrt_nonneg _
  have hlong : scale * norm ≤ maxNorm := by
    calc scale * norm ≤ scale * max norm (1 / 1000000000) :=
          mul_le_mul_of_nonneg_left (le_max_left _ _) hscale_nonneg
      _ ≤ maxNorm / max norm (1 / 1000000000) * max norm (1 / 1000000000) :=
          mul_le_mul_of_nonneg_right (hscale ▸ min_le_right _ _) hpos.le
      _ = maxNorm := div_mul_cancel₀ _ hpos.ne'
  have hsquare : norm * norm = a.north * a.north + a.east * a.east + a.up * a.up := by
    rw [hnorm, sqrt_real]
    exact Real.mul_self_sqrt hsum
  have hb : b = a.scale scale := by
    rw [hscale, hnorm]
    rfl
  calc b.north * b.north + b.east * b.east + b.up * b.up
      = scale * norm * (scale * norm) := by
        rw [hb, mul_mul_mul_comm, hsquare]
        simp only [Vec3.scale]
        ring
    _ ≤ maxNorm * maxNorm := mul_self_le_mul_self (mul_nonneg hscale_nonneg hnorm_nonneg) hlong
    _ = maxNorm ^ 2 := (sq maxNorm).symm

lemma clip_mem {x low high : ℝ} (h : low ≤ high) : low ≤ clip x low high ∧ clip x low high ≤ high :=
  ⟨le_min (le_max_right _ _) h, min_le_right _ _⟩

lemma integrate_fields (exp : ℝ → ℝ) (cfg : SimConfig ℝ) (dt : ℝ) (wind : Vec3 ℝ)
    (d : SimDrone ℝ) : ∃ velocity position : Vec3 ℝ,
      (∃ v, velocity = clampNorm v cfg.maxVelocityMs) ∧
      position = (if d.armed then d.position + velocity.scale dt else d.position) ∧
      (integrate exp cfg dt wind d).velocity =
        (if decide (position.up < 0) && decide (velocity.up < 0) then { velocity with up := 0 }
          else velocity) ∧
      (integrate exp cfg dt wind d).position =
        (if decide (position.up < 0) then { position with up := 0 } else position) ∧
      (integrate exp cfg dt wind d).batteryPct =
        (if d.armed then clip (d.batteryPct - cfg.batteryDrainPerS * dt) 0 100
          else d.batteryPct) :=
  ⟨_, _, ⟨_, rfl⟩, rfl, rfl, rfl, rfl⟩

/-- The physics of a tick lead into the envelope, and do not move a drone that is not
armed. -/
lemma InEnvelope.integrate (exp : ℝ → ℝ) {cfg : SimConfig ℝ} (dt : ℝ) (wind : Vec3 ℝ) (hcfg : 0 ≤ cfg.maxVelocityMs) (h : InEnvelope cfg d) :
    InEnvelope cfg (integrate exp cfg dt wind d) ∧
      (d.armed = false → (Vehicle.integrate exp cfg dt wind d).position = d.position) := by
  obtain ⟨velocity, position, ⟨v, hv⟩, hmoved, hvelocity, hposition, hbattery⟩ :=
    integrate_fields exp cfg dt wind d
  have hslow : velocity.north * velocity.north + velocity.east * velocity.east +
      velocity.up * velocity.up ≤ cfg.maxVelocityMs ^ 2 := hv ▸ clampNorm_le v hcfg
  refine ⟨⟨?_, ?_, ?_⟩, ?_⟩
  · rw [hposition]
    split
    next => exact le_rfl
    next hup => exact not_lt.mp (of_decide_eq_false (Bool.eq_false_of_not_eq_true hup))
  · rw [speed, sqrt_real, hvelocity]
    refine Real.sqrt_le_iff.mpr ⟨hcfg, ?_⟩
    split
    · refine le_trans ?_ hslow
      simp only [mul_zero, add_zero]
      exact le_add_of_nonneg_right (mul_self_nonneg _)
    · exact hslow
  · rw [hbattery]
    split
    · exact clip_mem (by norm_num)
    · exact h.charge
  · intro hdown
    have hstays : position = d.position := by rw [hmoved, hdown]; rfl
    have hup : decide (position.up < 0) = false :=
      decide_eq_false (not_lt.mpr (hstays ▸ h.altitude))
    rw [hposition, hup, hstays]
    rfl

lemma body_afterMission (exp : ℝ → ℝ) (cfg : SimConfig ℝ) (dt : ℝ) (draws : Draws ℝ)
    (d : SimDrone ℝ) : body (afterMission exp cfg dt draws d) =
      body (integrate exp cfg dt draws.wind (applyLandingAndRtl cfg d)) :=
  (body_touchDown _).trans (body_stepLink cfg draws _)

lemma position_of_body (h : body d' = body d) : d'.position = d.position :=
  congrArg Prod.fst h

/-- A tick keeps the fleet in the envelope and leaves a drone that is not armed where
it is. -/
lemma inEnvelope_tick {n : Nat} {exp : ℝ → ℝ} {dt utc : ℝ} {draws : Fin n → Draws ℝ}
    {s : FleetState ℝ n} (hcfg : 0 ≤ s.config.maxVelocityMs)
    (h : ∀ i, InEnvelope s.config (s.drone i)) (i : Fin n) :
    InEnvelope s.config ((s.tick exp dt utc draws).1.drone i) ∧ ((s.drone i).armed = false →
        ((s.tick exp dt utc draws).1.drone i).position = (s.drone i).position) := by
  obtain ⟨hbody, harmed⟩ := body_beforeMission s.config (s.timeS + dt) (s.drone i)
  obtain ⟨hbody', harmed'⟩ :=
    body_applyMission utc (beforeMission s.config (s.timeS + dt) (s.drone i))
  obtain ⟨hready, hidle⟩ := body_applyLandingAndRtl s.config
    (applyMission utc (beforeMission s.config (s.timeS + dt) (s.drone i))).1
  have hsame := hbody'.trans hbody
  obtain heq | heq | heq := s.tick_drone exp dt utc draws i
  · rw [heq]
    exact ⟨(h i).of_body hbody, fun _ => position_of_body hbody⟩
  · rw [heq]
    exact ⟨(h i).of_body hsame, fun _ => position_of_body hsame⟩
  · rw [heq]
    have hend := body_afterMission exp s.config dt (draws i)
      (applyMission utc (beforeMission s.config (s.timeS + dt) (s.drone i))).1
    have hflown := InEnvelope.integrate exp dt (draws i).wind hcfg
      ((h i).of_body (hready.trans hsame))
    refine ⟨hflown.1.of_body hend, fun hdown => ?_⟩
    rw [position_of_body hend, hflown.2 (by rw [hidle, harmed', harmed, hdown])]
    exact position_of_body (hready.trans hsame)

/-- The step is not an injected deviation of a position. -/
def Undisturbed {n : Nat} : FleetLabel ℝ n → Prop
  | .sim (.call _ (.positionDeviation _)) => False
  | _ => True

lemma InEnvelope.call {cfg : SimConfig ℝ} {now : ℝ} {droneId : Nat}
    {c : Call ℝ} (hcfg : 0 ≤ cfg.maxVelocityMs) (h : InEnvelope cfg d)
    (hc : ∀ offset, c ≠ .positionDeviation offset) : InEnvelope cfg (c.run now droneId d).1 := by
  cases c with
  | positionDeviation offset => exact absurd rfl (hc offset)
  | kill =>
    refine ⟨le_refl 0, ?_, h.charge⟩
    show sqrt ((0 : ℝ) * 0 + 0 * 0 + 0 * 0) ≤ _
    simpa [sqrt_real] using hcfg
  | upload remotePath data =>
    dsimp only [Call.run]
    split
    · exact h.of_body rfl
    · exact h
  | batteryFault pct =>
    dsimp only [Call.run]
    split
    next hpct => exact ⟨h.altitude, h.slow, hpct⟩
    next => exact h
  | _ => exact h.of_body rfl

lemma body_startMission (startUtcS : ℝ) (d : SimDrone ℝ) :
    body (startMission startUtcS d).1 = body d := by
  unfold startMission
  split <;> rfl

lemma body_cancelMission (d : SimDrone ℝ) : body (cancelMission d) = body d := by
  unfold cancelMission
  split <;> rfl

lemma body_hearTrigger (trigger : ShowTrigger) (droneId : Nat) (d : SimDrone ℝ) :
    body (hearTrigger trigger droneId d) = body d := by
  unfold hearTrigger
  split
  · rfl
  · split
    · split
      · exact body_cancelMission d
      · rfl
    · split
      · exact body_startMission _ _
      · rfl

/-- The step keeps the phases, and a tick the envelope and what is not armed. -/
def Sound {n : Nat} (exp : ℝ → ℝ) (s : FleetState ℝ n) (l : FleetLabel ℝ n) : Prop :=
  ∀ m os, fleetStep exp s l = some (m, os) → (∀ d, InPhase (m.drone d)) ∧
    ∀ dt utc draws, l = .sim (.tick dt utc draws) → ∀ d, InEnvelope s.config (m.drone d) ∧
      ((s.drone d).armed = false → (m.drone d).position = (s.drone d).position)

/-- What holds in every state of a run. -/
structure Flying {n : Nat} (cfg : SimConfig ℝ) (s : FleetState ℝ n) : Prop where
  config : s.config = cfg
  phases : ∀ d, InPhase (s.drone d)
  envelope : ∀ d, InEnvelope cfg (s.drone d)

def newFleet (cfg : SimConfig ℝ) (n : Nat) : FleetState ℝ n where
  config := cfg
  timeS := 0
  drone _ := .fresh

lemma flying_newFleet {cfg : SimConfig ℝ} (hcfg : 0 ≤ cfg.maxVelocityMs) (n : Nat) :
    Flying cfg (newFleet cfg n) where
  config := rfl
  phases _ := ⟨nofun, nofun, nofun, fun _ => ⟨rfl, rfl, rfl, rfl⟩⟩
  envelope _ := by
    refine ⟨le_refl 0, ?_, by norm_num [newFleet, SimDrone.fresh]⟩
    show sqrt ((0 : ℝ) * 0 + 0 * 0 + 0 * 0) ≤ _
    simpa [sqrt_real] using hcfg

section

variable {n : Nat} {exp : ℝ → ℝ} {cfg : SimConfig ℝ} {s m : FleetState ℝ n} {l : FleetLabel ℝ n}
  {os : List SimError}

omit exp l m os in
lemma inEnvelope_onDrone {d : Fin n} {f : SimDrone ℝ → SimDrone ℝ} (h : Flying cfg s)
    (hf : InEnvelope cfg (f (s.drone d))) :
    (s.onDrone d f).config = cfg ∧ ∀ d', InEnvelope cfg ((s.onDrone d f).drone d') := by
  refine ⟨h.config, fun d' => ?_⟩
  by_cases hd : d' = d
  · subst hd
    rwa [FleetState.onDrone_self]
  · rw [FleetState.onDrone_of_ne s hd]
    exact h.envelope d'

lemma inEnvelope_step (hcfg : 0 ≤ cfg.maxVelocityMs) (h : Flying cfg s) (hl : Undisturbed l)
    (hs : fleetStep exp s l = some (m, os)) :
    m.config = cfg ∧ ∀ d, InEnvelope cfg (m.drone d) := by
  cases l with
  | sim l =>
    cases l with
    | tick dt utc draws =>
      obtain rfl : (s.tick exp dt utc draws).1 = m := congrArg Prod.fst (Option.some.inj hs)
      obtain rfl := h.config
      refine ⟨?_, fun d => (inEnvelope_tick hcfg h.envelope d).1⟩
      unfold FleetState.tick
      dsimp only
      split <;> rfl
    | broadcast payload targetSystem =>
      obtain rfl : (broadcast payload targetSystem s).1 = m :=
        congrArg Prod.fst (Option.some.inj hs)
      unfold broadcast
      split
      · exact ⟨h.config, h.envelope⟩
      · split
        · split
          · exact ⟨h.config, fun d => (h.envelope d).of_body (body_hearTrigger _ _ _)⟩
          · exact ⟨h.config, h.envelope⟩
        · exact ⟨h.config, h.envelope⟩
    | call d c =>
      obtain rfl : s.onDrone d (fun _ => (c.run s.timeS d (s.drone d)).1) = m :=
        congrArg Prod.fst (Option.some.inj hs)
      refine inEnvelope_onDrone h ((h.envelope d).call hcfg fun offset hc => ?_)
      subst hc
      exact hl
  | loadMission d showId waypoints =>
    obtain rfl := congrArg Prod.fst (Option.some.inj hs)
    exact inEnvelope_onDrone h ((h.envelope d).of_body rfl)
  | startMission d startUtcS =>
    obtain rfl := congrArg Prod.fst (Option.some.inj hs)
    exact inEnvelope_onDrone h ((h.envelope d).of_body (body_startMission _ _))
  | cancelMission d =>
    obtain rfl := congrArg Prod.fst (Option.some.inj hs)
    exact inEnvelope_onDrone h ((h.envelope d).of_body (body_cancelMission _))

lemma sound_iff_orderly (hcfg : 0 ≤ cfg.maxVelocityMs) (h : Flying cfg s) :
    Sound exp s l ↔ Orderly s l := by
  obtain rfl := h.config
  constructor
  · intro hsound
    obtain ⟨m, os, hs⟩ : ∃ m os, fleetStep exp s l = some (m, os) := by
      cases l with
      | sim l => cases l <;> exact ⟨_, _, rfl⟩
      | _ => exact ⟨_, _, rfl⟩
    exact (inPhase_step_iff h.phases hs).mp (hsound m os hs).1
  · rintro horderly m os hs
    refine ⟨(inPhase_step_iff h.phases hs).mpr horderly, ?_⟩
    rintro dt utc draws rfl d
    obtain rfl : (s.tick exp dt utc draws).1 = m := congrArg Prod.fst (Option.some.inj hs)
    exact inEnvelope_tick hcfg h.envelope d

end

/-- Whatever the commands, the triggers, the draws and the clock, and however long the
ticks: the run is sound exactly if its steps are orderly. -/
theorem run_sound_iff {n : Nat} {exp : ℝ → ℝ} {cfg : SimConfig ℝ} {ls : List (FleetLabel ℝ n)}
    (hcfg : 0 ≤ cfg.maxVelocityMs) (hls : ∀ l ∈ ls, Undisturbed l) :
    Along (fleetStep exp) (Sound exp) (newFleet cfg n) ls ↔
      Along (fleetStep exp) Orderly (newFleet cfg n) ls := by
  refine along_congr (I := Flying cfg) (A := fun _ l => Undisturbed l) ?_ ?_
    (flying_newFleet hcfg n) (along_of_labels hls)
  · exact fun s l h _ => sound_iff_orderly hcfg h
  · intro s l m os h hl horderly hs
    obtain ⟨hconfig, henvelope⟩ := inEnvelope_step hcfg h hl hs
    exact ⟨hconfig, (inPhase_step_iff h.phases hs).mpr horderly, henvelope⟩

theorem run_sound_short_flight : Along (fleetStep Real.exp) (Sound Real.exp) (newFleet .standard 1)
      [.sim (.call 0 .arm), .sim (.call 0 .land),
        .sim (.tick (1 / 50) 0 fun _ => ⟨0, 1, 1, 1, 1⟩)] := by
  have hspeed : (0 : ℝ) ≤ (SimConfig.standard : SimConfig ℝ).maxVelocityMs := by
    norm_num [SimConfig.standard]
  refine (run_sound_iff hspeed ?_).mpr ⟨trivial, ?_⟩
  · intro l hl
    simp only [List.mem_cons, List.not_mem_nil, or_false] at hl
    obtain rfl | rfl | rfl := hl <;> trivial
  · intro m os hs
    obtain rfl := congrArg Prod.fst (Option.some.inj hs)
    exact ⟨rfl, fun _ _ _ => ⟨trivial, fun _ _ _ => trivial⟩⟩

/-- A drone on the ground, disarmed, can be landing; and a drone that is landing can be
handed a show. -/
theorem run_unsound_land_and_start :
    ¬ Along (fleetStep Real.exp) (Sound Real.exp) (newFleet .standard 1)
      [.sim (.call 0 .land)] ∧
    ¬ Along (fleetStep Real.exp) (Sound Real.exp) (newFleet .standard 1)
      [.sim (.call 0 (.upload "mission.tmsn" Trigger.rehearsalFile)), .sim (.call 0 .arm),
        .sim (.call 0 .land), .sim (.broadcast Trigger.startFrame 0)] := by
  constructor
  · intro h
    have hphase := (h.1 _ _ rfl).1 0
    exact nomatch (hphase.grounded rfl).1
  · intro h
    have hphase := (((h.2 _ _ rfl).2 _ _ rfl).2 _ _ rfl).1 _ _ rfl |>.1 0
    refine hphase.landing_mission ⟨?_, ?_⟩
    · decide +kernel
    · decide +kernel

end
end Taramandal.Sim.Envelope
