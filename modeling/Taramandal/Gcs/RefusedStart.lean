import Taramandal.Gcs.ShowRecord

/-! # A refused show start (`POST /api/start-trajectory`)

The handler checks, acts and then commits, and of the steps in between only the removal of the
saved-show file can still raise once anything was touched. So a refusal starts nothing, and
leaves the loaded show, its geofence, its saved file and every playback task as they were
(`refused_start`); a show that was playing goes on. -/
namespace Taramandal.Gcs.RefusedStart

open Core.Shows Gcs.FleetFsm Gcs.State Gcs.Playback
open Gcs.Handlers Gcs.Fleet Gcs.ShowRecord Gcs.Handover

/-- `StartTrajectoryRequest`: the execution is any text. -/
structure StartTrajectoryRequest where
  mode : String := "LOCAL"
  triggerEpochMs : ℚ := 0
  execution : String := "onboard"

def executionMode? : String → Option ExecutionMode
  | "onboard" => some .onboard
  | "streamed" => some .streamed
  | _ => none

/-- `start_trajectory`, with its check of the execution. -/
def startTrajectoryNamed (setup : Setup) (faults : Faults) (trajectory : Show ℚ)
    (req : StartTrajectoryRequest) (m : DroneManager) :
    DroneManager × List Sent × Option String :=
  match executionMode? req.execution with
  | none =>
    (m, [], some ("execution must be 'onboard' or 'streamed', got '" ++ req.execution ++ "'"))
  | some execution =>
    startTrajectory setup faults trajectory ⟨req.mode, req.triggerEpochMs, execution⟩ m

/-- `POST /api/start-trajectory`, of any request. -/
def startShowNamed (setup : Setup) (m : DroneManager) (faults : Faults) (operator : String)
    (req : StartTrajectoryRequest) : Handled :=
  let trigger := "POST /api/start-trajectory"
  if setup.flightBlocked then (m, [], hardwareRefusal "start-trajectory")
  else if m.launch.launchFailures ≠ [] then (m, [], launchIncomplete m)
  else
    checked m faults .startTrajectory operator trigger <|
      match loadedShow m with
      | none => (m, [], noActiveTrajectory)
      | some trajectory =>
        match startTrajectoryNamed setup faults trajectory req m with
        | (m, sent, some e) => (m, sent, .error 400 e)
        | (m, sent, none) =>
          applied m faults .startTrajectory operator trigger fun m => (m, sent, .ok)

/-! ## Refused -/

/-- The start came as far as its stop, and that raised where the saved-show file is removed: with
a file that goes it would have gone through. -/
def StoppedAtRemoval (setup : Setup) (m : DroneManager) (faults : Faults) (operator : String)
    (req : StartTrajectoryRequest) : Prop :=
  faults.removal = .failed ∧
    (startShowNamed setup m { faults with removal := .removed } operator req).2.2 = .ok

section Refused

variable {setup : Setup} {m : DroneManager} {faults : Faults} {operator : String}
  {req : StartTrajectoryRequest} {trajectory : Show ℚ}

lemma startTrajectoryNamed_raised {m' : DroneManager} {sent : List Sent} {e : String}
    (h : startTrajectoryNamed setup faults trajectory req m = (m', sent, some e)) :
    m' = m ∨ faults.removal = .failed ∧
      m' = { m with playback := stopPlayback .failed m.playback } ∧
      (startTrajectoryNamed setup { faults with removal := .removed } trajectory req m).2.2 =
        none := by
  unfold startTrajectoryNamed at h ⊢
  cases hexecution : executionMode? req.execution with
  | none =>
    rw [hexecution] at h
    exact .inl (Prod.mk.inj h).1.symm
  | some execution =>
    rw [hexecution] at h
    dsimp only at h ⊢
    cases hplan : startPlan setup m trajectory execution with
    | error e' =>
      simp only [startTrajectory, hplan] at h
      exact .inl (Prod.mk.inj h).1.symm
    | ok plan =>
      have hplanned : ∀ e, startPlan setup m trajectory execution ≠ .error e := by
        intro e he
        cases hplan.symm.trans he
      have hout := startTrajectory_outcome setup faults trajectory
        ⟨req.mode, req.triggerEpochMs, execution⟩ m
      have hagain := startTrajectory_outcome setup { faults with removal := .removed } trajectory
        ⟨req.mode, req.triggerEpochMs, execution⟩ m
      rw [h] at hout
      cases hout with
      | unplanned e he => exact absurd he (hplanned e)
      | raised sent hfailed =>
        refine .inr ⟨hfailed, rfl, ?_⟩
        generalize startTrajectory setup { faults with removal := .removed } trajectory _ m = r
          at hagain
        cases hagain with
        | unplanned e he => exact absurd he (hplanned e)
        | raised sent h => cases h
        | started => rfl

lemma startTrajectoryNamed_fsm {m' : DroneManager} {sent : List Sent}
    (h : startTrajectoryNamed setup faults trajectory req m = (m', sent, none)) :
    m'.fsm = m.fsm := by
  unfold startTrajectoryNamed at h
  cases hexecution : executionMode? req.execution with
  | none =>
    rw [hexecution] at h
    cases congrArg (fun r => r.2.2) h
  | some execution =>
    rw [hexecution] at h
    dsimp only at h
    have hfsm := startTrajectory_fsm setup faults trajectory
      ⟨req.mode, req.triggerEpochMs, execution⟩ m
    rwa [h] at hfsm

/-- Past the checks the response is that of the start: nothing is awaited between the check of
the lifecycle and its move, and the start leaves the lifecycle alone. -/
lemma startShowNamed_started (hblocked : ¬ setup.flightBlocked = true)
    (hfailures : ¬ m.launch.launchFailures ≠ [])
    (hstate : m.fsm.state ∈ (commandRules .startTrajectory).allowedFrom)
    (hload : loadedShow m = some trajectory)
    (hstart : (startTrajectoryNamed setup faults trajectory req m).2.2 = none) :
    (startShowNamed setup m faults operator req).2.2 = .ok := by
  have hcheck : m.fsm.check .startTrajectory = .ok () := by
    simp [FleetStateMachine.check, hstate]
  unfold startShowNamed
  rw [if_neg hblocked, if_neg hfailures]
  simp only [checked, hcheck, hload]
  cases h : startTrajectoryNamed setup faults trajectory req m with
  | mk m' rest =>
    obtain ⟨sent, raised⟩ := rest
    rw [h] at hstart
    dsimp only at hstart
    subst hstart
    have happly := m'.fsm.apply_of_allowed operator "POST /api/start-trajectory" m'.time
      (by rw [startTrajectoryNamed_fsm h]; exact hstate) rfl
    simp only [applied, happly]

/-- What a refused start may leave behind: an entry of the audit trail, and of a show that was
playing what its stop does before the removal of its file raises. -/
lemma startShowNamed_left (h : (startShowNamed setup m faults operator req).2.2 ≠ .ok) :
    AuditOnly m (startShowNamed setup m faults operator req).1 ∨
      StoppedAtRemoval setup m faults operator req ∧
        (startShowNamed setup m faults operator req).1 =
          { m with playback := stopPlayback .failed m.playback } := by
  unfold startShowNamed
  dsimp only
  split
  · exact .inl (.refl m)
  next hblocked =>
    split
    · exact .inl (.refl m)
    next hfailures =>
      rcases checked_cases m faults .startTrajectory operator "POST /api/start-trajectory" _ with
        hrefused | ⟨hstate, hact⟩
      · exact .inl hrefused.audit
      rw [hact]
      cases hload : loadedShow m with
      | none => exact .inl (.refl m)
      | some trajectory =>
        dsimp only
        cases hstart : startTrajectoryNamed setup faults trajectory req m with
        | mk m' rest =>
          obtain ⟨sent, raised⟩ := rest
          cases raised with
          | some e =>
            rcases startTrajectoryNamed_raised hstart with rfl | ⟨hfailed, rfl, hok⟩
            · exact .inl (.refl m')
            · refine .inr ⟨⟨hfailed, ?_⟩, rfl⟩
              exact startShowNamed_started hblocked hfailures hstate hload hok
          | none =>
            refine absurd (startShowNamed_started hblocked hfailures hstate hload ?_) h
            rw [hstart]

/-- No playback task is scheduled or running, and no show is marked as playing. -/
structure Idle (p : Playback) : Prop where
  running : p.isRunningTrajectory = false
  playing : p.playingTrajectory = none
  tasks : ∀ t ∈ p.tasks, t.pc = .finished

/-- Nothing was started, and what is loaded and saved is as it was. -/
structure NothingStarted (m m' : DroneManager) : Prop where
  lifecycle : m'.fsm.state = m.fsm.state
  activeTrajectory : m'.activeTrajectory = m.activeTrajectory
  geofence : m'.geofenceRadius = m.geofenceRadius ∧ m'.softGeofenceRadius = m.softGeofenceRadius
  showStartedAt : m'.playback.showStartedAt = m.playback.showStartedAt
  savedShow : m'.playback.savedShow = m.playback.savedShow
  tasks : m'.playback.tasks = m.playback.tasks ∧
    m'.playback.trajectoryTask = m.playback.trajectoryTask
  idle : Idle m.playback → Idle m'.playback

/-- A show that was playing goes on. -/
structure StillPlaying (m m' : DroneManager) : Prop where
  running : m'.playback.isRunningTrajectory = m.playback.isRunningTrajectory
  playing : m'.playback.playingTrajectory = m.playback.playingTrajectory

/-- A refused start starts nothing, and unless it stopped at the removal of the saved-show file a
show that was playing goes on. -/
theorem refused_start (h : (startShowNamed setup m faults operator req).2.2 ≠ .ok) :
    NothingStarted m (startShowNamed setup m faults operator req).1 ∧
      (¬ StoppedAtRemoval setup m faults operator req →
        StillPlaying m (startShowNamed setup m faults operator req).1) := by
  rcases startShowNamed_left h with ⟨f, auditFile, heq, hstate⟩ | ⟨hstopped, heq⟩
  · rw [heq]
    exact ⟨⟨hstate, rfl, ⟨rfl, rfl⟩, rfl, rfl, ⟨rfl, rfl⟩, id⟩, fun _ => ⟨rfl, rfl⟩⟩
  · rw [heq]
    refine ⟨⟨rfl, rfl, ⟨rfl, rfl⟩, rfl, rfl, ⟨rfl, rfl⟩, ?_⟩, fun hnot => absurd hstopped hnot⟩
    exact fun hidle => ⟨rfl, rfl, hidle.tasks⟩

end Refused

def inFormation : DroneManager :=
  { hovering with
    activeTrajectory := some hoverShow
    fsm := { state := .formationHold } }

def playing : DroneManager :=
  (startShowNamed simSetup inFormation {} "operator" { execution := "streamed" }).1

/-- A second start while the show plays. -/
theorem refused_start_playing :
    (startShowNamed simSetup playing {} "operator" { execution := "streamed" }).2.2 ≠ .ok ∧
      NothingStarted playing
        (startShowNamed simSetup playing {} "operator" { execution := "streamed" }).1 := by
  have hrefused : (startShowNamed simSetup playing {} "operator" { execution := "streamed" }).2.2 ≠
      .ok := by decide +kernel
  exact ⟨hrefused, (refused_start hrefused).1⟩

/-- It is refused, and the first show goes on: its task is scheduled, and the show runs. -/
theorem playing_goes_on :
    (startShowNamed simSetup playing {} "operator" { execution := "streamed" }).2.2 ≠ .ok ∧
      (startShowNamed simSetup playing {} "operator"
        { execution := "streamed" }).1.playback.isRunningTrajectory = true ∧
      ¬ Idle (startShowNamed simSetup playing {} "operator"
        { execution := "streamed" }).1.playback := by
  have hrunning : (startShowNamed simSetup playing {} "operator"
      { execution := "streamed" }).1.playback.isRunningTrajectory = true := by decide +kernel
  refine ⟨by decide +kernel, hrunning, fun hidle => ?_⟩
  exact Bool.false_ne_true (hidle.running.symm.trans hrunning)

end Taramandal.Gcs.RefusedStart
