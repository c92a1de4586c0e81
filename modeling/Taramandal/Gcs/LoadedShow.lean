import Taramandal.Gcs.Fleet

/-! # What is loaded while a show runs

The upload handlers check the lifecycle where they start, and write what they
have read or transferred several awaits later. A start asks only whether the
fleet is in formation. So what is loaded stands still while the fleet is RUNNING
if every upload taken on before the start has come to its end. -/
namespace Taramandal.Gcs.LoadedShow

open Lib.Run Gcs.FleetFsm Gcs.State Gcs.Staging
open Gcs.Handlers Gcs.Fleet

/-- A step of a handler that uploads, resumes or discards a show. -/
def handlesShow : Label → Bool
  | .api _ (.uploadTrajectory _ _ _) _ => true
  | .api _ .uploadMission _ => true
  | .api _ (.resumeShow _) _ => true
  | .api _ .discardShow _ => true
  | .receive _ _ => true
  | .transfer _ _ _ => true
  | _ => false

def pastApi : Label → Bool
  | .method _ _ => true
  | _ => false

/-- The loaded trajectory, its geofence, the staged show and the drones' stored
files are as they were. -/
structure SameLoaded (m m' : DroneManager) : Prop where
  trajectory : m'.activeTrajectory = m.activeTrajectory
  staged : m'.stagedShow = m.stagedShow
  radius : m'.geofenceRadius = m.geofenceRadius
  softRadius : m'.softGeofenceRadius = m.softGeofenceRadius
  storage : m'.staging.storage = m.staging.storage

def LoadedKept (setup : Setup) (m : DroneManager) : Prop :=
  ∀ l m' os, handlesShow l = true → step setup m l = some (m', os) → SameLoaded m m'

/-- No upload is under way. -/
structure Quiet (m : DroneManager) : Prop where
  receives : ∀ r ∈ m.receives, r.pc = .returned
  transfers : ∀ up ∈ m.staging.uploads, ∀ t ∈ up.transfers, t.pc = .done

instance (m : DroneManager) : Decidable (Quiet m) :=
  decidable_of_iff ((∀ r ∈ m.receives, r.pc = .returned) ∧
    ∀ up ∈ m.staging.uploads, ∀ t ∈ up.transfers, t.pc = .done)
    ⟨fun h => ⟨h.1, h.2⟩, fun h => ⟨h.receives, h.transfers⟩⟩

def StartsQuiet (setup : Setup) (m : DroneManager) (l : Label) : Prop :=
  startsShow setup m l = true → Quiet m

instance (setup : Setup) (m : DroneManager) (l : Label) : Decidable (StartsQuiet setup m l) :=
  inferInstanceAs (Decidable (_ → _))

/-! ## A running fleet is quiet -/

variable {m m' : DroneManager}

lemma Quiet.congr (h : Quiet m) (hreceives : m'.receives = m.receives)
    (huploads : m'.staging.uploads = m.staging.uploads) : Quiet m' :=
  ⟨by rw [hreceives]; exact h.receives, by rw [huploads]; exact h.transfers⟩

lemma stepTransfer_live {u k : Nat} {reply : FtpReply} {os : List Sent}
    (h : stepTransfer m u k reply = some (m', os)) :
    ∃ up ∈ m.staging.uploads, ∃ t ∈ up.transfers, t.pc ≠ .done := by
  obtain ⟨up, t, _, _, hup, ht, hlive, -, -⟩ := stepTransfer_some h
  exact ⟨up, List.mem_of_getElem? hup, t, List.mem_of_getElem? ht, hlive⟩

lemma quiet_step {setup : Setup} {l : Label}
    (h : m.fsm.state = .running → Quiet m) (hapi : pastApi l = false)
    (hstart : StartsQuiet setup m l) (hs : Stepped setup m l m')
    (hrun : m'.fsm.state = .running) : Quiet m' := by
  cases hs with
  | refused hs => obtain ⟨_, _, rfl, hf⟩ := hs; exact (h (hf ▸ hrun)).congr rfl rfl
  | launched _ _ hf => exact absurd (hf.symm.trans hrun) (by decide)
  | called => cases hapi
  | started hstarts => exact (hstart hstarts).congr rfl rfl
  | stopped _ hmove =>
    rcases hmove with hf | ⟨-, hf⟩ | hf
    · exact (h (hf.symm.trans hrun)).congr rfl rfl
    · exact absurd (hf.symm.trans hrun) (by decide)
    · rw [show _ = LifecycleState.running from hrun] at hf
      cases hf
  | aborted => exact (h hrun).congr rfl rfl
  | saved => exact (h hrun).congr rfl rfl
  | receiving hidle => exact absurd hrun hidle
  | uploaded trajectory hidle =>
    obtain ⟨_, _, hm'⟩ := uploadShow_only setup m trajectory
    rw [hm'] at hrun
    rcases hidle with hidle | ⟨_, _, rfl⟩
    · exact absurd hrun hidle
    · cases hapi
  | ticked hs =>
    obtain ⟨_, _, _, _, hm'⟩ := hs.frame
    have hsame : m.fsm.state = .running := by
      rcases hs.move with hf | ⟨-, hf⟩ | ⟨-, hf⟩ | ⟨-, hf | ⟨-, hf⟩ | ⟨-, hf, -⟩⟩
      · rw [← hf]; exact hrun
      all_goals rw [hrun] at hf; cases hf
    rw [hm']
    exact (h hsame).congr rfl rfl
  | sequence hs => obtain ⟨_, rfl⟩ := hs.frame; exact (h hrun).congr rfl rfl
  | drone _ _ _ hs =>
    rcases hs.frame with ⟨_, rfl, -⟩ | ⟨-, rfl⟩
    · exact (h hrun).congr rfl rfl
    · exact (h hrun).congr rfl rfl
  | recovery => exact (h hrun).congr rfl rfl
  | command => exact (h hrun).congr rfl rfl
  | playback _ _ hs _ =>
    obtain ⟨_, _, _, _, hm'⟩ := hs.frame
    have hsame : m.fsm.state = .running := by
      rcases hs.lifecycle with hf | ⟨hf, -⟩
      · rw [← hf]; exact hrun
      · exact hf
    rw [hm']
    exact (h hsame).congr rfl rfl
  | setpoint => exact (h hrun).congr rfl rfl
  | snapshot => exact (h hrun).congr rfl rfl
  | receive hr hlive => exact absurd ((h hrun).receives _ (List.mem_of_getElem? hr)) hlive
  | transfer hs =>
    obtain ⟨_, _, hm'⟩ := stepTransfer_only hs
    rw [hm'] at hrun
    obtain ⟨up, hup, t, ht, hlive⟩ := stepTransfer_live hs
    exact absurd ((h hrun).transfers up hup t ht) hlive
  | telemetry hs => obtain ⟨_, _, rfl⟩ := hs.rest; exact (h hrun).congr rfl rfl
  | clock => exact (h hrun).congr rfl rfl
  | bench => exact (h hrun).congr rfl rfl

lemma AuditOnly.sameLoaded (h : AuditOnly m m') : SameLoaded m m' := by
  obtain ⟨_, _, rfl, -⟩ := h
  exact ⟨rfl, rfl, rfl, rfl, rfl⟩

lemma Quiet.loadedKept {setup : Setup} (h : Quiet m)
    (hrun : m.fsm.state = .running) : LoadedKept setup m := by
  intro l m' os hl hs
  cases l with
  | api operator r faults =>
    have hm' : (handle setup m operator faults r).1 = m' := congrArg Prod.fst (Option.some.inj hs)
    rw [← hm']
    cases r with
    | uploadTrajectory filename signed contentLength =>
      rcases uploadTrajectory_cases m faults operator filename signed contentLength with
        hr | ⟨hidle, -⟩
      · exact AuditOnly.sameLoaded hr.audit
      · exact absurd hrun hidle
    | uploadMission =>
      rcases uploadMissions_cases setup m faults operator with hr | ⟨hidle, -⟩
      · exact AuditOnly.sameLoaded hr.audit
      · exact absurd hrun hidle
    | resumeShow gated =>
      rcases resumeShow_cases setup m faults operator gated with hr | ⟨hidle, -⟩
      · exact AuditOnly.sameLoaded hr.audit
      · exact absurd hrun hidle
    | discardShow =>
      rcases discardShow_cases m faults operator with hr | ⟨_, _, hr⟩
      · exact AuditOnly.sameLoaded hr.audit
      · simp only [handle, hr]
        exact ⟨rfl, rfl, rfl, rfl, rfl⟩
    | _ => cases hl
  | receive i chunk =>
    obtain ⟨_, _, _, _, _, hr, hlive, -⟩ := stepReceive_some hs
    exact absurd (h.receives _ (List.mem_of_getElem? hr)) hlive
  | transfer u k reply =>
    obtain ⟨up, hup, t, ht, hlive⟩ := stepTransfer_live hs
    exact absurd (h.transfers up hup t ht) hlive
  | _ => cases hl

/-- In every run through the API that starts shows only with no upload under
way, no step of an upload or resume handler changes what is loaded while the
fleet runs. -/
theorem loadedShow_kept {setup : Setup} {init m : DroneManager} {ls : List Label}
    {os : List Sent} (hfirst : init.fsm.state ≠ .running)
    (hapi : ∀ l ∈ ls, pastApi l = false)
    (hquiet : Along (step setup) (StartsQuiet setup) init ls)
    (hrun : run (step setup) init ls = some (m, os)) (hstate : m.fsm.state = .running) :
    LoadedKept setup m := by
  have hinv : m.fsm.state = .running → Quiet m := by
    refine run_invariant (I := fun m => m.fsm.state = .running → Quiet m)
      (A := fun m l => pastApi l = false ∧ StartsQuiet setup m l)
      (fun _ _ _ _ h hok hs => quiet_step h hok.1 hok.2 (step_stepped hs))
      (fun hr => absurd hr hfirst) ((along_of_labels hapi).and hquiet) hrun
  exact (hinv hstate).loadedKept hstate

/-- A show is loaded in formation, and its upload to the drones begun. -/
def uploadBegun : List Label :=
  climbOut ++ [.tick {}, .api "operator" (.uploadTrajectory "hover.json" false none) {},
    .receive 0 hoverFile.toUTF8.toList, .receive 0 [], .api "operator" .uploadMission {}] ++
    List.replicate 5 (.transfer 0 0 .ok)

def startStreamed : Label := .api "operator" (.startTrajectory ⟨"LOCAL", 0, .streamed⟩) {}

/-- The upload ends before the start. -/
theorem loadedShow_kept_uploaded : ∃ m os,
    run (step simSetup) onPad (uploadBegun ++ List.replicate 2 (.transfer 0 0 .ok) ++
        [startStreamed]) = some (m, os) ∧ m.fsm.state = .running ∧ LoadedKept simSetup m := by
  obtain ⟨⟨m, os⟩, hrun, hstate⟩ :
      ∃ r ∈ run (step simSetup) onPad (uploadBegun ++ List.replicate 2 (.transfer 0 0 .ok) ++
      [startStreamed]), r.1.fsm.state = .running := by decide +kernel
  exact ⟨m, os, hrun, by simpa using hstate,
    loadedShow_kept (by decide) (by decide) (by decide +kernel) hrun (by simpa using hstate)⟩

/-- The start is accepted with the upload on its way: while the fleet runs, the
drone's stored mission is written. -/
theorem mission_stored_while_running : ∃ m os m' os',
    run (step simSetup) onPad (uploadBegun ++ [startStreamed]) = some (m, os) ∧
      m.fsm.state = .running ∧ step simSetup m (.transfer 0 0 .ok) = some (m', os') ∧
      m.staging.storage 0 = none ∧ (m'.staging.storage 0).isSome = true ∧
      ¬ LoadedKept simSetup m := by
  obtain ⟨⟨m, os⟩, hrun, hstate, hnone, ⟨m', os'⟩, hstep, hstored⟩ :
      ∃ r ∈ run (step simSetup) onPad (uploadBegun ++ [startStreamed]), r.1.fsm.state = .running ∧
      r.1.staging.storage 0 = none ∧ ∃ r' ∈ step simSetup r.1 (.transfer 0 0 .ok),
      (r'.1.staging.storage 0).isSome := by decide +kernel
  refine ⟨m, os, m', os', hrun, hstate, hstep, hnone, hstored, fun hkept => ?_⟩
  have hsame := (hkept _ m' os' rfl hstep).storage
  rw [hsame, hnone] at hstored
  cases hstored

end Taramandal.Gcs.LoadedShow
