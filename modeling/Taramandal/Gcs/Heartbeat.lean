import Taramandal.Gcs.Fleet
import Taramandal.Gcs.Preflight

/-! # Heartbeat continuity (`_measure_latency_loop`, `_monitor_connection`)

Three tasks of a drone write `link_stable_since`: the connection monitor, the
supervision of its streams, and the latency loop, which writes it after an await.
The field says how long the link has been up without a break exactly if no probe
fails while the drone is not connected (`continuous_iff`). -/
namespace Taramandal.Gcs.Heartbeat

open Lib.Run Gcs.State Gcs.Telemetry Gcs.Preflight Gcs.Fleet

/-- Where a drone's latency loop is suspended: asleep until a time, or waiting
for the answer to the probe it sent at one. -/
inductive ProbePc where
  | sleeping (wake : ℚ)
  | probing (startTime : ℚ)

/-- The station with its drones' latency loops. -/
structure LinkState where
  station : DroneManager
  probes : Nat → ProbePc := fun _ => .sleeping 0

/-- What one of these tasks does next. -/
inductive LinkEvent where
  | item (d : Nat) (i : StreamItem)
  | dropped (d : Nat) (name : String)
  | probe (d : Nat) (answered : Bool)
  | clock (elapsed time : ℚ)

/-- `_measure_latency_loop`, from its await to the next one. -/
def measureLatency (m : DroneManager) (d : Nat) (answered : Bool) :
    ProbePc → Option (DroneManager × ProbePc)
  | .sleeping wake =>
    if m.monotonic < wake then none
    else if !(m.telemetry d).connected then
      some (m.setTelemetry d { m.telemetry d with commLatencyMs := 0 }, .sleeping (m.monotonic + 1))
    else some (m, .probing m.monotonic)
  | .probing startTime =>
    some (telemetryStep m d
      (if answered then .probeAnswered ((m.monotonic - startTime) * 1000) else .probeFailed),
      .sleeping (m.monotonic + 1))

def linkStep : System LinkState LinkEvent Sent := fun s l =>
  match l with
  | .item d i =>
    if s.station.drones.contains d then
      some ({ s with station := telemetryStep s.station d (.item i) }, [])
    else none
  | .dropped d name =>
    if s.station.drones.contains d then
      some ({ s with station := telemetryStep s.station d (.streamDropped name) }, [])
    else none
  | .probe d answered =>
    if s.station.drones.contains d then
      (measureLatency s.station d answered (s.probes d)).map fun r =>
        ({ station := r.1, probes := Function.update s.probes d r.2 }, [])
    else none
  | .clock elapsed time =>
    if 0 ≤ elapsed then
      some ({ s with
        station := { s.station with
          monotonic := s.station.monotonic + elapsed, time := time } }, [])
    else none

def failedProbe (s : LinkState) : LinkEvent → Option Nat
  | .probe d false =>
    match s.probes d with
    | .probing _ => some d
    | .sleeping _ => none
  | _ => none

def FailsConnected (s : LinkState) (l : LinkEvent) : Prop :=
  ∀ d ∈ failedProbe s l, (s.station.telemetry d).connected = true

instance (s : LinkState) (l : LinkEvent) : Decidable (FailsConnected s l) :=
  inferInstanceAs (Decidable (∀ d ∈ failedProbe s l, _))

/-- The drone is connected, and this is not its probe failing. -/
def Unbroken (d : Nat) (s : LinkState) (l : LinkEvent) : Prop :=
  (s.station.telemetry d).connected = true ∧ failedProbe s l ≠ some d

/-- From some state at time `since` on, up to the end of the run, the drone has
been connected without interruption and without a failed probe. -/
def UnbrokenSince (init : LinkState) (ls : List LinkEvent) (s : LinkState) (d : Nat)
    (since : ℚ) : Prop :=
  ∃ pre post m os, ls = pre ++ post ∧ run linkStep init pre = some (m, os) ∧
    m.station.monotonic = since ∧ Along linkStep (Unbroken d) m post ∧
    (s.station.telemetry d).connected = true

/-- What `link_stable_since` promises, and the heartbeat rule with it. -/
structure Continuous (init : LinkState) (ls : List LinkEvent) (s : LinkState) (d : Nat) : Prop where
  down : (s.station.telemetry d).connected = false → (s.station.telemetry d).linkStableSince = none
  unbroken : ∀ since, (s.station.telemetry d).linkStableSince = some since →
    UnbrokenSince init ls s d since
  heartbeat : ∀ profile,
    (heartbeatCheck (policies profile) (s.station.telemetry d) s.station.monotonic).2.1 = true →
    ∃ since, since + (policies profile).heartbeatWindowS ≤ s.station.monotonic ∧
      UnbrokenSince init ls s d since

/-! ## What a step does to a link -/

/-- The link flags of a drone, kept, lost, or up: then the link is stable from
now on, or from when it was. -/
inductive LinkMove (now : ℚ) (tel tel' : Telemetry) : Prop where
  | kept (connected : tel'.connected = tel.connected)
      (since : tel'.linkStableSince = tel.linkStableSince)
  | lost (connected : tel'.connected = false) (since : tel'.linkStableSince = none)
  | up (connected : tel'.connected = true)
      (since : tel'.linkStableSince = some (tel.linkStableSince.getD now))
  | restarted (connected : tel'.connected = true) (since : tel'.linkStableSince = some now)

lemma LinkMove.refl (now : ℚ) (tel : Telemetry) : LinkMove now tel tel := .kept rfl rfl

lemma onItem_move (m : DroneManager) (d : Nat) (tel : Telemetry) (i : StreamItem) :
    LinkMove m.monotonic tel (onItem m d tel i) := by
  cases i with
  | connectionState isConnected =>
    simp only [onItem]
    split
    · exact .kept rfl rfl
    · cases isConnected with
      | false => exact .lost rfl rfl
      | true => exact .up rfl rfl
  | _ => exact .kept rfl rfl

lemma markStreamUp_move (m : DroneManager) (d e : Nat) (name : String) :
    LinkMove m.monotonic (m.telemetry e) ((markStreamUp m d name).telemetry e) := by
  unfold markStreamUp
  split
  · exact .refl ..
  · by_cases he : e = d
    · subst he
      dsimp only
      rw [Function.update_self]
      split
      · exact .kept rfl rfl
      · cases hup : (m.telemetry e).linkUp with
        | false => exact .lost rfl rfl
        | true => exact .restarted rfl rfl
    · dsimp only
      rw [Function.update_of_ne he]
      exact .refl ..

lemma LinkMove.trans {now : ℚ} {tel tel' tel'' : Telemetry} (h : LinkMove now tel tel')
    (h' : LinkMove now tel' tel'') : LinkMove now tel tel'' := by
  cases h' with
  | lost hc hs => exact .lost hc hs
  | restarted hc hs => exact .restarted hc hs
  | kept hc hs =>
    cases h with
    | kept hc' hs' => exact .kept (hc.trans hc') (hs.trans hs')
    | lost hc' hs' => exact .lost (hc.trans hc') (hs.trans hs')
    | up hc' hs' => exact .up (hc.trans hc') (hs.trans hs')
    | restarted hc' hs' => exact .restarted (hc.trans hc') (hs.trans hs')
  | up hc hs =>
    cases h with
    | kept hc' hs' => exact .up hc (by rw [hs, hs'])
    | lost hc' hs' => exact .restarted hc (by rw [hs, hs']; rfl)
    | up hc' hs' => exact .up hc (by rw [hs, hs']; rfl)
    | restarted hc' hs' => exact .restarted hc (by rw [hs, hs']; rfl)

lemma telemetryStep_other {m : DroneManager} {d e : Nat} (h : e ≠ d) (ev : TelemetryEvent) :
    (telemetryStep m d ev).telemetry e = m.telemetry e := by
  cases ev with
  | item i =>
    have hset : (m.setTelemetry d (onItem m d (m.telemetry d) i)).telemetry e = m.telemetry e :=
      Function.update_of_ne h ..
    simp only [telemetryStep, markStreamUp]
    split
    · exact hset
    · exact (Function.update_of_ne h ..).trans hset
  | _ => exact Function.update_of_ne h ..

lemma telemetryStep_monotonic (m : DroneManager) (d : Nat) (ev : TelemetryEvent) :
    (telemetryStep m d ev).monotonic = m.monotonic := by
  obtain ⟨_, _, h⟩ := (telemetryStep_frame m d ev).rest
  rw [h]

lemma item_move (m : DroneManager) (d e : Nat) (i : StreamItem) :
    LinkMove m.monotonic (m.telemetry e) ((telemetryStep m d (.item i)).telemetry e) := by
  refine LinkMove.trans ?_
    (markStreamUp_move (m.setTelemetry d (onItem m d (m.telemetry d) i)) d e i.stream)
  by_cases he : e = d
  · subst he
    have hset : (m.setTelemetry e (onItem m e (m.telemetry e) i)).telemetry e =
        onItem m e (m.telemetry e) i := Function.update_self ..
    rw [hset]
    exact onItem_move m e _ i
  · have hset : (m.setTelemetry d (onItem m d (m.telemetry d) i)).telemetry e = m.telemetry e :=
      Function.update_of_ne he ..
    rw [hset]
    exact .refl ..

lemma dropped_move (m : DroneManager) (d e : Nat) (name : String) :
    LinkMove m.monotonic (m.telemetry e) ((telemetryStep m d (.streamDropped name)).telemetry e) := by
  by_cases he : e = d
  · subst he
    refine .lost ?_ ?_ <;> simp [telemetryStep, markStreamDown]
  · rw [telemetryStep_other he]
    exact .refl ..

lemma setTelemetry_move {m : DroneManager} {d : Nat} {tel : Telemetry}
    (hc : tel.connected = (m.telemetry d).connected)
    (hs : tel.linkStableSince = (m.telemetry d).linkStableSince) (e : Nat) (now : ℚ) :
    LinkMove now (m.telemetry e) ((m.setTelemetry d tel).telemetry e) := by
  by_cases he : e = d
  · subst he
    have hset : (m.setTelemetry e tel).telemetry e = tel := Function.update_self ..
    exact .kept (by rw [hset, hc]) (by rw [hset, hs])
  · have hset : (m.setTelemetry d tel).telemetry e = m.telemetry e := Function.update_of_ne he ..
    rw [hset]
    exact .refl ..

/-- A failed probe restarts its drone's window and touches nothing else. -/
structure Failed (s s' : LinkState) (d : Nat) : Prop where
  connected : (s'.station.telemetry d).connected = (s.station.telemetry d).connected
  since : (s'.station.telemetry d).linkStableSince = some s'.station.monotonic

lemma linkStep_move {s s' : LinkState} {l : LinkEvent} {os : List Sent}
    (h : linkStep s l = some (s', os)) (e : Nat) :
    failedProbe s l = some e ∧ Failed s s' e ∨ failedProbe s l ≠ some e ∧
        LinkMove s'.station.monotonic (s.station.telemetry e) (s'.station.telemetry e) := by
  cases l with
  | item d i =>
    simp only [linkStep] at h
    split at h
    · cases h
      refine .inr ⟨by simp [failedProbe], ?_⟩
      rw [telemetryStep_monotonic]
      exact item_move ..
    · cases h
  | dropped d name =>
    simp only [linkStep] at h
    split at h
    · cases h
      refine .inr ⟨by simp [failedProbe], ?_⟩
      rw [telemetryStep_monotonic]
      exact dropped_move ..
    · cases h
  | clock elapsed time =>
    simp only [linkStep] at h
    split at h
    · cases h
      exact .inr ⟨by simp [failedProbe], .refl ..⟩
    · cases h
  | probe d answered =>
    simp only [linkStep] at h
    split at h
    · obtain ⟨⟨m, pc⟩, hm, h⟩ := Option.map_eq_some_iff.mp h
      cases h
      cases hpc : s.probes d with
      | sleeping wake =>
        refine .inr ⟨by cases answered <;> simp [failedProbe, hpc], ?_⟩
        rw [hpc] at hm
        simp only [measureLatency] at hm
        split at hm
        · cases hm
        · split at hm
          · cases hm
            refine setTelemetry_move ?_ ?_ e _ <;> rfl
          · cases hm
            exact .refl ..
      | probing startTime =>
        rw [hpc] at hm
        cases hm
        cases answered with
        | true =>
          refine .inr ⟨by simp [failedProbe], setTelemetry_move ?_ ?_ e _⟩ <;> rfl
        | false =>
          by_cases he : e = d
          · subst he
            refine .inl ⟨by simp [failedProbe, hpc], ?_, ?_⟩ <;>
              simp [telemetryStep, DroneManager.setTelemetry]
          · refine .inr ⟨by simp [failedProbe, hpc, Ne.symm he], ?_⟩
            rw [telemetryStep_other he]
            exact .refl ..
    · cases h

section

variable {init s s' : LinkState} {ls : List LinkEvent} {l : LinkEvent} {os : List Sent} {d : Nat}

lemma UnbrokenSince.fresh (hrun : run linkStep init ls = some (s, os))
    (hc : (s.station.telemetry d).connected = true) :
    UnbrokenSince init ls s d s.station.monotonic :=
  ⟨ls, [], s, os, by simp, hrun, rfl, trivial, hc⟩

lemma UnbrokenSince.snoc {since : ℚ} (h : UnbrokenSince init ls s d since)
    (hrun : run linkStep init ls = some (s, os)) (hl : failedProbe s l ≠ some d)
    (hc : (s'.station.telemetry d).connected = true) :
    UnbrokenSince init (ls ++ [l]) s' d since := by
  obtain ⟨pre, post, m, o, rfl, hpre, hm, halong, hs⟩ := h
  obtain ⟨m', _, _, hpre', hpost, -⟩ := run_append.mp hrun
  rw [hpre] at hpre'
  cases hpre'
  have hsnoc : Along linkStep (Unbroken d) m (post ++ [l]) :=
    halong.append hpost ⟨⟨hs, hl⟩, fun _ _ _ => trivial⟩
  exact ⟨pre, post ++ [l], m, o, by simp, hpre, hm, hsnoc, hc⟩

def Stable (init : LinkState) (ls : List LinkEvent) (s : LinkState) (d : Nat) : Prop :=
  ((s.station.telemetry d).connected = false → (s.station.telemetry d).linkStableSince = none) ∧
    ∀ since, (s.station.telemetry d).linkStableSince = some since → UnbrokenSince init ls s d since

lemma stable_step {o : List Sent} (hrun : run linkStep init ls = some (s, os))
    (h : Stable init ls s d) (hok : FailsConnected s l) (hs : linkStep s l = some (s', o)) :
    Stable init (ls ++ [l]) s' d := by
  have hrun' : run linkStep init (ls ++ [l]) = some (s', os ++ o) :=
    run_append.mpr ⟨s, os, o, hrun, run_singleton.mpr hs, rfl⟩
  have hfresh : (s'.station.telemetry d).connected = true →
      (s'.station.telemetry d).linkStableSince = some s'.station.monotonic →
      Stable init (ls ++ [l]) s' d := by
    intro hc hsince
    refine ⟨fun hdown => absurd (hc.symm.trans hdown) (by decide), fun since hs' => ?_⟩
    rw [hsince] at hs'
    cases hs'
    exact .fresh hrun' hc
  rcases linkStep_move hs d with ⟨hfail, hfailed⟩ | ⟨hl, hmove⟩
  · exact hfresh (hfailed.connected.trans (hok d hfail)) hfailed.since
  · cases hmove with
    | kept hc hsince =>
      refine ⟨fun hdown => hsince.trans (h.1 (hc.symm.trans hdown)), fun since hs' => ?_⟩
      have hprev := h.2 since (hsince.symm.trans hs')
      obtain ⟨_, _, _, _, _, _, _, _, hup⟩ := id hprev
      exact hprev.snoc hrun hl (hc.trans hup)
    | lost hc hsince =>
      refine ⟨fun _ => hsince, fun since hs' => ?_⟩
      rw [hsince] at hs'
      cases hs'
    | up hc hsince =>
      cases hold : (s.station.telemetry d).linkStableSince with
      | none => exact hfresh hc (by rw [hsince, hold]; rfl)
      | some since0 =>
        refine ⟨fun hdown => absurd (hc.symm.trans hdown) (by decide), fun since hs' => ?_⟩
        rw [hsince, hold] at hs'
        cases hs'
        exact (h.2 _ hold).snoc hrun hl hc
    | restarted hc hsince => exact hfresh hc hsince

lemma Stable.continuous (h : Stable init ls s d) : Continuous init ls s d where
  down := h.1
  unbroken := h.2
  heartbeat profile hpass := by
    have hwindow : 0 < (policies profile).heartbeatWindowS := by cases profile <;> decide
    have hstable : (policies profile).heartbeatWindowS ≤
        stableS (s.station.telemetry d) s.station.monotonic := by
      simpa [heartbeatCheck] using hpass
    unfold stableS at hstable
    split at hstable
    · cases hsince : (s.station.telemetry d).linkStableSince with
      | none =>
        rw [hsince] at hstable
        exact absurd hstable (not_le.mpr hwindow)
      | some since =>
        rw [hsince] at hstable
        have hle : (policies profile).heartbeatWindowS ≤ s.station.monotonic - since := hstable
        exact ⟨since, by linarith, h.2 since hsince⟩
    · exact absurd hstable (not_le.mpr hwindow)

/-- A link is continuous in every state of a run exactly if every probe that
fails in it finds its drone connected. -/
theorem continuous_iff (hfirst : ∀ d, (init.station.telemetry d).linkStableSince = none)
    (hrun : run linkStep init ls = some (s, os)) :
    (∀ pre post m o, ls = pre ++ post → run linkStep init pre = some (m, o) →
      ∀ d, Continuous init pre m d) ↔ Along linkStep FailsConnected init ls := by
  constructor
  · intro h
    induction ls using List.reverseRecOn generalizing s os with
    | nil => trivial
    | append_singleton ls l ih =>
      obtain ⟨m, o, _, hm, hl, -⟩ := run_append.mp hrun
      have hpre : Along linkStep FailsConnected init ls :=
        ih hm fun pre post m' o' he => h pre (post ++ [l]) m' o' (by rw [he, List.append_assoc])
      refine hpre.append hm ⟨fun d hfail => ?_, fun _ _ _ => trivial⟩
      rcases linkStep_move (run_singleton.mp hl) d with ⟨-, hfailed⟩ | ⟨hne, -⟩
      · by_contra hdown
        have hnone := (h (ls ++ [l]) [] s os (by simp) hrun d).down
          (hfailed.connected.trans (by simpa using hdown))
        rw [hfailed.since] at hnone
        cases hnone
      · exact absurd hfail hne
  · intro hok pre post m o he hpre d
    subst he
    have hstable := run_history (I := fun ls _ s => ∀ d, Stable init ls s d)
      (fun d => ⟨fun _ => hfirst d, fun since hs => by rw [hfirst d] at hs; cases hs⟩)
      (fun _ _ _ _ _ _ hr h hk hs d => stable_step hr (h d) hk hs) hok.take hpre
    exact (hstable d).continuous

end

/-! ## A probe in flight when the link drops -/

def powered : LinkState :=
  { station := { drones := [0], drones_nodup := onPad.drones_nodup } }

/-- The link comes up, and a probe is sent after one second. -/
def probeSent : List LinkEvent :=
  [.item 0 (.connectionState true), .clock 1 0, .probe 0 true]

/-- The probe fails with the link still up, and ten seconds go by. -/
theorem continuous_probe_failed : ∃ s os,
    run linkStep powered (probeSent ++ [.probe 0 false, .clock 10 0]) = some (s, os) ∧
      (s.station.telemetry 0).linkStableSince = some 1 ∧
      Continuous powered (probeSent ++ [.probe 0 false, .clock 10 0]) s 0 := by
  obtain ⟨⟨s, os⟩, hrun, h⟩ :
      ∃ r ∈ run linkStep powered (probeSent ++ [.probe 0 false, .clock 10 0]),
      (r.1.station.telemetry 0).linkStableSince = some 1 := by decide +kernel
  have hall := (continuous_iff (fun _ => rfl) hrun).mpr (by decide +kernel)
  exact ⟨s, os, hrun, by simpa using h, hall _ [] s os (by simp) hrun 0⟩

/-- The link drops after the probe was sent; then the probe fails. -/
def droppedProbe : List LinkEvent :=
  probeSent ++ [.clock 1 0, .item 0 (.connectionState false), .clock 1 0, .probe 0 false]

def linkBack : List LinkEvent := [.clock 10 0, .item 0 (.connectionState true)]

/-- A drone that is not connected is taken to be stable, and the moment its link
is back it passes the heartbeat rule. -/
theorem droppedProbe_not_continuous : ∃ s os s' os',
    run linkStep powered droppedProbe = some (s, os) ∧
      (s.station.telemetry 0).connected = false ∧
      (s.station.telemetry 0).linkStableSince = some 3 ∧
      run linkStep powered (droppedProbe ++ linkBack) = some (s', os') ∧
      (heartbeatCheck (policies .production) (s'.station.telemetry 0)
        s'.station.monotonic).2.1 = true ∧
      ¬ Continuous powered droppedProbe s 0 ∧
      ¬ Continuous powered (droppedProbe ++ linkBack) s' 0 := by
  obtain ⟨⟨s, os⟩, hrun, h⟩ :
      ∃ r ∈ run linkStep powered droppedProbe, (r.1.station.telemetry 0).connected = false ∧
      (r.1.station.telemetry 0).linkStableSince = some 3 := by decide +kernel
  obtain ⟨⟨s', os'⟩, hrun', h'⟩ :
      ∃ r ∈ run linkStep powered (droppedProbe ++ linkBack),
      (heartbeatCheck (policies .production) (r.1.station.telemetry 0) r.1.station.monotonic).2.1 ∧
      r.1.station.monotonic = 13 := by decide +kernel
  refine ⟨s, os, s', os', hrun, h.1, h.2, hrun', h'.1, fun hc => ?_, fun hc => ?_⟩
  · rw [hc.down h.1] at h
    cases h.2
  · obtain ⟨since, hle, pre, post, m, o, he, hpre, hat, halong, -⟩ := hc.heartbeat _ h'.1
    cases post using List.reverseRecOn with
    | nil =>
      rw [List.append_nil] at he
      rw [← he, hrun'] at hpre
      cases hpre
      rw [← hat, h'.2] at hle
      revert hle
      decide +kernel
    | append_singleton post l =>
      -- the state before the last step is one with the link down
      obtain ⟨⟨m', _⟩, hm', hdown⟩ :
          ∃ r ∈ run linkStep powered (droppedProbe ++ [.clock 10 0]),
          (r.1.station.telemetry 0).connected = false := by decide +kernel
      have hsplit : (droppedProbe ++ [.clock 10 0]) ++ [.item 0 (.connectionState true)] =
          (pre ++ post) ++ [l] := by rw [List.append_assoc pre, ← he]; rfl
      rw [(List.append_inj' hsplit rfl).1] at hm'
      obtain ⟨_, _, _, hpre', hpost, -⟩ := run_append.mp hm'
      rw [hpre] at hpre'
      cases hpre'
      rw [(halong.drop hpost).1.1] at hdown
      cases hdown

end Taramandal.Gcs.Heartbeat
