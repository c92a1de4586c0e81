import Taramandal.Gcs.ShowAloft
import Taramandal.Gcs.Unaborted

/-! # One drone's abort does not disturb the rest

A run from the abort on is followed, step by step, by one in which the drone was
not aborted. A tick there gathers the drone's setpoint besides the others; its
call is made and returns, and the loop goes on as it does without it. -/
namespace Taramandal.Gcs.AbortIsolation

open Lib.Check Lib.Padding Lib.Run Lib.Simulation Core.Values Core.Safety
open Gcs.FleetFsm Gcs.State Gcs.Playback Gcs.Emergency Gcs.Launch Gcs.Lifecycle
open Gcs.Handlers Gcs.Fleet Gcs.LaunchSafety Gcs.AbortSafety Gcs.SavedShow
open Gcs.AbortSilence Gcs.ShowAloft Gcs.Unaborted

/-- Where the show stands: its clock and when it started, the lifecycle, the
saved show, and whether telemetry is recorded. -/
structure Status where
  clock : ℚ
  startedAt : Option ℚ
  lifecycle : LifecycleState
  savedShow : Option SavedShow
  recording : Bool

def status (m : DroneManager) : Status where
  clock := m.monotonic
  startedAt := m.playback.playbackStartTime
  lifecycle := m.fsm.state
  savedShow := m.playback.savedShow
  recording := m.playback.isRecordingTelemetry

/-- What is seen of a step: what the station took from outside, what another
drone answered to its setpoint, what was sent. -/
inductive Event where
  | took (l : Label) (at_ : Status)
  | answered (droneId : Nat) (reply : Reply)
  | sent (at_ : Status) (s : Sent)

/-- Nothing for drone `d`. -/
def spares (d : Nat) : Sent → Bool
  | .call e _ => e ≠ d
  | .broadcast _ => true

/-- The drone of the `k`-th setpoint of the `i`-th playback task. -/
def sendDrone (m : DroneManager) (i k : Nat) : Option Nat :=
  (m.playback.tasks[i]?.bind fun t => t.sends[k]?).map SendTask.droneId

/-- What a step takes from outside, but for what concerns drone `d` alone: its
aborts and its answers. -/
def takes (d : Nat) (m : DroneManager) : Label → List Event
  | .playback _ _ => []
  | .command _ _ => []
  | .setpoint i k reply =>
    match sendDrone m i k with
    | none => []
    | some e => if e = d then [] else [.answered e reply]
  | .api operator r faults =>
    if aborts d (.api operator r faults) then [] else [.took (.api operator r faults) (status m)]
  | l => [.took l (status m)]

/-- What is seen of a step besides drone `d`. -/
def besides (d : Nat) (m : DroneManager) (l : Label) (os : List Sent) : List Event :=
  takes d m l ++ (os.filter (spares d)).map (.sent (status m))

def Spared (d : Nat) (l : Label) : Prop := aborts d l = false

variable {setup : Setup} {d : Nat}

lemma Alike.status {m m' : DroneManager} (h : Alike d m m') : status m' = status m :=
  h.read fun _ _ _ => rfl

variable {l : Label} {s : SendTask} {m1' : DroneManager} {os : List Sent}

lemma besides_alike {m m' : DroneManager} (h : Alike d m m') (os : List Sent)
    (hl : ∀ i k reply, l ≠ .setpoint i k reply) : besides d m' l os = besides d m l os := by
  unfold besides
  rw [Alike.status h]
  cases l with
  | setpoint i k reply => exact absurd rfl (hl i k reply)
  | _ => simp only [takes, Alike.status h]

/-! ## The setpoints of the other run -/

def settled (d : Nat) (s : SendTask) : SendTask := if s.droneId = d then { s with pc := .sent } else s

/-- `_send_setpoint` for one setpoint. -/
def sendStep (aborted : Bool) (s : SendTask) (reply : Reply) : Option (SendPc × List Sent) :=
  match s.pc with
  | .created => if aborted then some (.sent, []) else some (.awaiting, [.call s.droneId s.setpoint])
  | .awaiting =>
    match reply with
    | .raised _ => some (.raised, [])
    | _ => some (.sent, [])
  | _ => none

lemma stepSend_eq {m : DroneManager} {i k : Nat} {t : PlaybackTask} (reply : Reply)
    (ht : m.playback.tasks[i]? = some t) (hs : t.sends[k]? = some s) :
    stepSend m i k reply = (sendStep (m.isAborted s.droneId) s reply).map fun r =>
      (setTask m i { t with sends := t.sends.set k { s with pc := r.1 } }, r.2) := by
  simp only [stepSend, ht, hs, Option.bind_eq_bind, Option.bind_some, sendStep]
  cases s.pc with
  | created => dsimp only; split <;> rfl
  | awaiting => cases reply <;> rfl
  | sent => rfl
  | raised => rfl

lemma setTask_setTask (m : DroneManager) (i : Nat) (t t' : PlaybackTask) :
    setTask (setTask m i t) i t' = setTask m i t' := by
  simp [setTask]

section

variable {m : DroneManager}

lemma getElem?_setTask {i : Nat} (hi : i < m.playback.tasks.length)
    (t : PlaybackTask) : (setTask m i t).playback.tasks[i]? = some t := List.getElem?_set_self hi

lemma takes_setpoint {i k : Nat} {t : PlaybackTask}
    (reply : Reply) (ht : m.playback.tasks[i]? = some t) (hs : t.sends[k]? = some s) :
    takes d m (.setpoint i k reply) = if s.droneId = d then [] else [.answered s.droneId reply] := by
  simp [takes, sendDrone, ht, hs]

/-- One setpoint of drone `d` is sent and returns. -/
lemma send_shows {i k : Nat} {t : PlaybackTask}
    (ht : m.playback.tasks[i]? = some t) (hs : t.sends[k]? = some s) (hd : s.droneId = d)
    (hpc : s.pc = .created) :
    Shows (step setup) (besides d) (Spared d) m
      (setTask m i { t with sends := t.sends.set k { s with pc := .sent } }) [] := by
  have hstep : step setup m (.setpoint i k .ok) = _ := stepSend_eq .ok ht hs
  by_cases haborted : m.isAborted s.droneId = true
  · simp only [sendStep, hpc, haborted, if_true, Option.map_some] at hstep
    have hshows : Shows (step setup) (besides d) (Spared d) m _ _ := .single hstep rfl
    rwa [besides, takes_setpoint .ok ht hs, if_pos hd] at hshows
  · simp only [sendStep, hpc, haborted, if_false, Bool.false_eq_true, Option.map_some] at hstep
    -- the call goes out, and then returns
    have ht' := getElem?_setTask (List.getElem?_eq_some_iff.mp ht).1
      { t with sends := t.sends.set k { s with pc := .awaiting } }
    have hs' : (t.sends.set k { s with pc := .awaiting })[k]? = some { s with pc := .awaiting } :=
      List.getElem?_set_self (List.getElem?_eq_some_iff.mp hs).1
    have hreturn : step setup _ (.setpoint i k .ok) = _ := stepSend_eq .ok ht' hs'
    simp only [sendStep, Option.map_some, setTask_setTask, List.set_set] at hreturn
    have hgoes : Shows (step setup) (besides d) (Spared d) m _ _ := .single hstep rfl
    have hshows := hgoes.trans (.single hreturn rfl)
    rw [besides, besides, takes_setpoint .ok ht hs, takes_setpoint .ok ht' hs', if_pos hd] at hshows
    simpa [spares, hd] using hshows

/-- All that a tick has gathered for drone `d` is sent and returns. -/
lemma settle_shows {i : Nat} {t : PlaybackTask} (done rest : List SendTask)
    (hi : i < m.playback.tasks.length) (hrest : ∀ s ∈ rest, s.pc = .created) :
    Shows (step setup) (besides d) (Spared d) (setTask m i { t with sends := done ++ rest })
      (setTask m i { t with sends := done ++ rest.map (settled d) }) [] := by
  induction rest generalizing done with
  | nil => exact .refl _
  | cons s rest ih =>
    have hrec := ih (done ++ [settled d s]) fun s' hs' => hrest s' (List.mem_cons_of_mem _ hs')
    simp only [List.append_assoc, List.singleton_append] at hrec
    rw [List.map_cons]
    by_cases hd : s.droneId = d
    · have ht := getElem?_setTask hi { t with sends := done ++ s :: rest }
      have hs : (done ++ s :: rest)[done.length]? = some s := by simp
      have hone : Shows (step setup) (besides d) (Spared d) _ _ _ :=
        send_shows ht hs hd (hrest s List.mem_cons_self)
      have hset : (done ++ s :: rest).set done.length { s with pc := .sent } =
          done ++ settled d s :: rest := by
        simp [settled, hd]
      simp only [hset, setTask_setTask] at hone
      exact hone.trans hrec
    · have hs : settled d s = s := if_neg hd
      rw [hs] at hrec ⊢
      exact hrec

end

section Tick

variable {k : Marks} {tasks : List PlaybackTask} {commands : List CommandTask} (t : PlaybackTask)
  (elapsed : ℚ)

lemma tickDrone_ne (m : DroneManager) {e : Nat} (he : e ≠ d) :
    tickDrone t elapsed (overlaid d k tasks commands m) e =
      (overlaid d k tasks commands (tickDrone t elapsed m e).1, (tickDrone t elapsed m e).2) := by
  have htel : (overlaid d k tasks commands m).telemetry e = m.telemetry e := marked_ne he
  have htarget : tickTarget (overlaid d k tasks commands m) t.plan elapsed e =
      tickTarget m t.plan elapsed e := by
    simp only [tickTarget, htel, overlaid_isAborted_ne he]
  have hset : ∀ tel, (overlaid d k tasks commands m).setTelemetry e tel =
      overlaid d k tasks commands (m.setTelemetry e tel) := by
    intro tel
    unfold DroneManager.setTelemetry overlaid
    simp only [marked_update_ne he]
  have hsetpoint : ∀ target, setpointOf (overlaid d k tasks commands m) t.mode e target =
      setpointOf m t.mode e target := by
    intro target
    unfold setpointOf
    rw [htel]
  unfold tickDrone
  rw [htarget]
  split
  · rfl
  · simp only [htel, hset, hsetpoint]

lemma tickDrone_self (m : DroneManager) (hk : k.aborted.isSome = true) :
    tickDrone t elapsed (overlaid d k tasks commands m) d = (overlaid d k tasks commands m, .ok []) := by
  have htarget : tickTarget (overlaid d k tasks commands m) t.plan elapsed d = none := by
    unfold tickTarget
    split
    · rfl
    · simp [overlaid_isAborted hk]
  unfold tickDrone
  rw [htarget]

lemma tickDrone_spared (k : Marks) (tasks : List PlaybackTask) (commands : List CommandTask)
    (t : PlaybackTask) (elapsed : ℚ) (m : DroneManager) (hpad : d < maxFleetSize) :
    ∃ m1 sends, tickDrone t elapsed m d = (m1, .ok sends) ∧
      overlaid d k tasks commands m1 = overlaid d k tasks commands m ∧
      ∀ s ∈ sends, s.droneId = d ∧ s.pc = .created := by
  obtain ⟨⟨padX, padY⟩, hoffset⟩ := (padOffset_isOk_iff (K := ℚ)).mpr hpad
  unfold tickDrone
  split
  · exact ⟨m, [], rfl, rfl, by simp⟩
  next target _ =>
    -- what is published are marks
    have hpublish : mark k (publish (m.telemetry d) target) = mark k (m.telemetry d) := rfl
    have hover : overlaid d k tasks commands (m.setTelemetry d (publish (m.telemetry d) target)) =
        overlaid d k tasks commands m := by
      unfold overlaid DroneManager.setTelemetry marked
      simp only [Function.update_self, Function.update_idem, hpublish]
    split
    · exact ⟨_, [], rfl, hover, by simp⟩
    · unfold setpointOf
      rw [hoffset]
      dsimp only
      split
      · split
        · exact ⟨_, _, rfl, hover, by simp⟩
        · exact ⟨_, _, rfl, hover, by simp⟩
      · exact ⟨_, _, rfl, hover, by simp⟩

lemma tickDrone_created {t : PlaybackTask} {elapsed : ℚ} {m m1 : DroneManager} {e : Nat}
    {sends : List SendTask} (h : tickDrone t elapsed m e = (m1, .ok sends)) :
    ∀ s ∈ sends, s.droneId = e ∧ s.pc = .created := by
  unfold tickDrone at h
  split at h
  · cases h
    simp
  · have hsends := congrArg Prod.snd h
    dsimp only at hsends
    split at hsends
    · cases hsends
      simp
    · obtain ⟨c, -, rfl⟩ := map_eq_ok.mp hsends
      intro s hs
      obtain ⟨c', -, rfl⟩ := List.mem_map.mp hs
      exact ⟨rfl, rfl⟩

/-- What a tick has gathered with the abort, and without it. -/
structure Gathered (d : Nat) (sends more : List SendTask) : Prop where
  padded : Padded (fun s => s.droneId = d) sends more
  others : ∀ s ∈ sends, s.droneId ≠ d
  created : ∀ s ∈ more, s.pc = .created

/-- A tick without the abort, and the same tick with it. -/
inductive TickAlike (d : Nat) (k : Marks) (tasks : List PlaybackTask) (commands : List CommandTask) :
    DroneManager × Except String (List SendTask) →
      DroneManager × Except String (List SendTask) → Prop
  | raised (m : DroneManager) (e : String) :
    TickAlike d k tasks commands (m, .error e) (overlaid d k tasks commands m, .error e)
  | gathered (m : DroneManager) {sends more : List SendTask} (h : Gathered d sends more) :
    TickAlike d k tasks commands (m, .ok more) (overlaid d k tasks commands m, .ok sends)

lemma tickDrones_alike (hk : k.aborted.isSome = true) (hpad : d < maxFleetSize) (ds : List Nat)
    (m : DroneManager) :
    TickAlike d k tasks commands (tickDrones t elapsed ds m)
      (tickDrones t elapsed ds (overlaid d k tasks commands m)) := by
  induction ds generalizing m with
  | nil => exact .gathered m ⟨.nil, by simp, by simp⟩
  | cons e ds ih =>
    by_cases he : e = d
    · rw [he]
      obtain ⟨m1, first, hfirst, hover, hcreated⟩ := tickDrone_spared k tasks commands t elapsed m hpad
      have hrest := ih m1
      rw [hover] at hrest
      unfold tickDrones
      rw [tickDrone_self t elapsed m hk, hfirst]
      dsimp only
      generalize tickDrones t elapsed ds m1 = r at hrest ⊢
      generalize tickDrones t elapsed ds (overlaid d k tasks commands m) = r' at hrest ⊢
      cases hrest with
      | raised m2 e => exact .raised m2 e
      | @gathered m2 sends more h =>
        refine .gathered m2 ⟨h.padded.prepend fun s hs => (hcreated s hs).1, h.others, ?_⟩
        intro s hs
        rcases List.mem_append.mp hs with hs | hs
        · exact (hcreated s hs).2
        · exact h.created s hs
    · unfold tickDrones
      rw [tickDrone_ne t elapsed m he]
      have hcreated := @tickDrone_created t elapsed m (tickDrone t elapsed m e).1 e
      generalize tickDrone t elapsed m e = r at hcreated ⊢
      obtain ⟨m1, sends⟩ := r
      cases sends with
      | error text => exact .raised m1 text
      | ok first =>
        have hrest := ih m1
        dsimp only
        generalize tickDrones t elapsed ds m1 = r at hrest ⊢
        generalize tickDrones t elapsed ds (overlaid d k tasks commands m1) = r' at hrest ⊢
        cases hrest with
        | raised m2 e => exact .raised m2 e
        | @gathered m2 sends more h =>
          refine .gathered m2 ⟨(Padded.refl _ first).append h.padded, ?_, ?_⟩
          · intro s hs
            rcases List.mem_append.mp hs with hs | hs
            · rw [(hcreated rfl s hs).1]
              exact he
            · exact h.others s hs
          · intro s hs
            rcases List.mem_append.mp hs with hs | hs
            · exact (hcreated rfl s hs).2
            · exact h.created s hs

lemma tickDrones_sends (sends : List SendTask) (ds : List Nat) (m : DroneManager) :
    tickDrones { t with sends := sends } elapsed ds m = tickDrones t elapsed ds m := by
  induction ds generalizing m with
  | nil => rfl
  | cons e ds ih =>
    have hone : tickDrone { t with sends := sends } elapsed m e = tickDrone t elapsed m e := rfl
    unfold tickDrones
    rw [hone]
    split
    · rfl
    · simp only [ih]

end Tick

section Task

variable {m m' : DroneManager} {i : Nat} {t t' : PlaybackTask}

lemma setTask_alike (h : Alike d m m') (ht : TaskAlike d t t') (i : Nat) :
    Alike d (setTask m i t) (setTask m' i t') := by
  obtain ⟨k, tasks, commands, hk, htasks, hcommands, rfl⟩ := h
  exact ⟨k, tasks.set i t', commands, hk, forall₂_set htasks i ht, hcommands, rfl⟩

lemma TaskAlike.at (ht : TaskAlike d t t') (pc : PlaybackPc) :
    TaskAlike d { t with pc := pc } { t' with pc := pc } := by
  obtain ⟨sends, rfl, hsends⟩ := ht
  exact ⟨sends, rfl, hsends⟩

lemma clearPlayback_alike (h : Alike d m m') (onboard : Bool) :
    Alike d (clearPlayback onboard m) (clearPlayback onboard m') := by
  obtain ⟨k, tasks, commands, hk, htasks, hcommands, rfl⟩ := h
  refine ⟨{ k with plannedValid := false }, tasks, commands, hk, htasks, hcommands, ?_⟩
  have htable : (fun e => { marked d k m.telemetry e with plannedValid := false }) =
      marked d { k with plannedValid := false }
        (fun e => { m.telemetry e with plannedValid := false }) := by
    funext e
    by_cases he : e = d
    · subst he
      rw [marked_self, marked_self]
      rfl
    · rw [marked_ne he, marked_ne he]
  unfold clearPlayback overlaid
  simp only [htable]

lemma concludePlayback_alike (h : Alike d m m') (completed : Bool) (faults : Faults) :
    Alike d (concludePlayback completed faults m) (concludePlayback completed faults m') := by
  obtain ⟨k, tasks, commands, hk, htasks, hcommands, rfl⟩ := h
  have hsaved : (overlaid d k tasks commands m).playback.savedShow = m.playback.savedShow := rfl
  have hfsm : (overlaid d k tasks commands m).fsm = m.fsm := rfl
  have htime : (overlaid d k tasks commands m).time = m.time := rfl
  unfold concludePlayback
  dsimp only
  rw [hsaved, hfsm, htime]
  split
  · exact ⟨k, tasks, commands, hk, htasks, hcommands, rfl⟩
  · split
    · exact ⟨k, tasks, commands, hk, htasks, hcommands, rfl⟩
    · exact ⟨k, tasks, commands, hk, htasks, hcommands, rfl⟩

lemma finishLoop_alike (h : Alike d m m') (ht : TaskAlike d t t') (i : Nat)
    (cancelled completed : Bool) (faults : Faults) :
    Alike d (finishLoop m i t cancelled completed faults)
      (finishLoop m' i t' cancelled completed faults) := by
  have hclear := clearPlayback_alike (setTask_alike h (TaskAlike.at ht .finished) i) t.onboard
  obtain ⟨_, rfl, -⟩ := ht
  unfold finishLoop
  cases cancelled with
  | true => exact hclear
  | false => exact concludePlayback_alike hclear completed faults

/-- From `m` the run without the abort can go on, with nothing to be seen, to
beside `m'`. -/
def Follows (setup : Setup) (d : Nat) (m m' : DroneManager) : Prop :=
  ∃ m1, Shows (step setup) (besides d) (Spared d) m m1 [] ∧ Alike d m1 m'

lemma Follows.of_alike (h : Alike d m m') : Follows setup d m m' := ⟨m, .refl m, h⟩

section

variable (h : Alike d m m') (ht : TaskAlike d t t') (hi : i < m.playback.tasks.length)
  (hgoing : t.cancelRequested = false)
include h ht hi hgoing

/-- What a tick has gathered for the drone is sent and returns. Where nothing was
gathered besides, the aborted station is asleep already. -/
lemma gathered_follows {sends more : List SendTask} (hgathered : Gathered d sends more) :
    Follows setup d
      (setTask m i { t with pc := if more = [] then .sleeping else .sending, sends := more })
      (setTask m' i { t' with pc := if sends = [] then .sleeping else .sending, sends := sends }) := by
  have hsettled : Padded (SentTo d) sends (more.map (settled d)) :=
    hgathered.padded.map (fun s hs => if_neg (hgathered.others s hs))
      fun s hs => by simp [SentTo, settled, hs]
  obtain ⟨_, rfl, -⟩ := ht
  have hsettle : ∀ t : PlaybackTask, Shows (step setup) (besides d) (Spared d)
      (setTask m i { t with sends := more }) (setTask m i { t with sends := more.map (settled d) })
      [] := fun t => settle_shows [] more hi hgathered.created
  by_cases hmore : more = []
  · subst hmore
    have hsends : sends = [] := by
      cases hgathered.padded
      rfl
    subst hsends
    exact .of_alike (setTask_alike h ⟨[], rfl, .nil⟩ i)
  · rw [if_neg hmore]
    by_cases hsends : sends = []
    · -- the loop wakes once more to see that all is sent
      rw [if_pos hsends]
      subst hsends
      have hall : (more.map (settled d)).all (fun s => s.pc = .sent) = true := by
        rw [hsettled.all_eq fun s hs => by simpa using hs.2]
        rfl
      have hraised : (more.map (settled d)).any (fun s => s.pc = .raised) = false := by
        rw [hsettled.any_eq fun s hs => by simp [hs.2]]
        rfl
      have hwake : step setup (setTask m i { t with pc := .sending, sends := more.map (settled d) })
          (.playback i {}) =
          some (setTask m i { t with pc := .sleeping, sends := more.map (settled d) }, []) := by
        let waiting : PlaybackTask := { t with pc := .sending, sends := more.map (settled d) }
        have hmove : stepTask (setTask m i waiting) i {} = _ :=
          TaskMove.step (.sent rfl hraised hall) (getElem?_setTask hi waiting) hgoing
        rw [setTask_setTask] at hmove
        exact hmove
      have hwoken : Shows (step setup) (besides d) (Spared d) _ _ _ := .single hwake rfl
      refine ⟨_, (hsettle { t with pc := .sending }).trans hwoken, ?_⟩
      exact setTask_alike h ⟨[], rfl, hsettled⟩ i
    · rw [if_neg hsends]
      exact ⟨_, hsettle { t with pc := .sending }, setTask_alike h ⟨sends, rfl, hsettled⟩ i⟩

section

variable (hpad : d < maxFleetSize)
include hpad

lemma loopTop_follows (faults : Faults) : Follows setup d (loopTop m i t faults) (loopTop m' i t' faults) := by
  have hfinish := fun completed => finishLoop_alike h ht i false completed faults
  have hboth := ht
  obtain ⟨k, tasks, commands, hk, htasks, hcommands, rfl⟩ := h
  obtain ⟨sends', rfl, hsends'⟩ := ht
  have hrunning : (overlaid d k tasks commands m).playback.isRunningTrajectory =
    m.playback.isRunningTrajectory := rfl
  have hmonotonic : (overlaid d k tasks commands m).monotonic = m.monotonic := rfl
  have hdrones : (overlaid d k tasks commands m).drones = m.drones := rfl
  unfold loopTop
  dsimp only
  rw [hrunning, hmonotonic, hdrones,
    tickDrones_sends t (m.monotonic - t.startTime) sends' m.drones (overlaid d k tasks commands m)]
  split
  · exact .of_alike (hfinish false)
  · split
    · exact .of_alike (hfinish true)
    · have htick : TickAlike d k tasks commands _ _ :=
        tickDrones_alike t (m.monotonic - t.startTime) hk hpad m.drones m
      obtain ⟨⟨telemetry, hf⟩, -⟩ :=
        tickDrones_published t (m.monotonic - t.startTime) m.drones m
      generalize tickDrones t (m.monotonic - t.startTime) m.drones m = r at htick hf ⊢
      generalize tickDrones t (m.monotonic - t.startTime) m.drones (overlaid d k tasks commands m) = r'
        at htick ⊢
      have hpublished : Alike d { m with telemetry := telemetry }
          (overlaid d k tasks commands { m with telemetry := telemetry }) :=
        ⟨k, tasks, commands, hk, htasks, hcommands, rfl⟩
      cases htick with
      | raised m1 e =>
        obtain rfl : m1 = _ := hf
        exact .of_alike (finishLoop_alike hpublished hboth i false false faults)
      | @gathered m1 sends more hgathered =>
        obtain rfl : m1 = _ := hf
        have hfollows : Follows setup d _ _ :=
          gathered_follows hpublished hboth hi hgoing hgathered
        cases sends <;> cases more <;> exact hfollows

lemma enterLoop_follows (startTime : ℚ) (faults : Faults) :
    Follows setup d (enterLoop m i t startTime faults) (enterLoop m' i t' startTime faults) := by
  have hentered : Alike d
      { m with playback := { m.playback with playbackStartTime := some startTime } }
      { m' with playback := { m'.playback with playbackStartTime := some startTime } } := by
    obtain ⟨k, tasks, commands, hk, htasks, hcommands, rfl⟩ := h
    exact ⟨k, tasks, commands, hk, htasks, hcommands, rfl⟩
  have hstarted : TaskAlike d { t with startTime := startTime } { t' with startTime := startTime } := by
    obtain ⟨sends, rfl, hsends⟩ := ht
    exact ⟨sends, rfl, hsends⟩
  exact loopTop_follows hentered hstarted hi hgoing hpad faults

lemma broadcastTrigger_follows (startS : ℚ) (frame : Bytes) (faults : Faults) :
    Follows setup d (broadcastTrigger m i t startS frame faults).1
        (broadcastTrigger m' i t' startS frame faults).1 ∧
      (broadcastTrigger m' i t' startS frame faults).2 =
        (broadcastTrigger m i t startS frame faults).2 := by
  unfold broadcastTrigger
  rw [h.time, h.monotonic]
  split
  · exact ⟨.of_alike (setTask_alike h (TaskAlike.at ht .finished) i), rfl⟩
  · split
    · exact ⟨enterLoop_follows h ht hi hgoing hpad _ faults, rfl⟩
    · exact ⟨.of_alike (setTask_alike h (TaskAlike.at ht _) i), rfl⟩

lemma firstStep_follows (faults : Faults) :
    Follows setup d (firstStep m i t faults).1 (firstStep m' i t' faults).1 ∧
      (firstStep m' i t' faults).2 = (firstStep m i t faults).2 := by
  have henter : ∀ startTime, Follows setup d (enterLoop m i t startTime faults)
      (enterLoop m' i t' startTime faults) :=
    fun startTime => enterLoop_follows h ht hi hgoing hpad startTime faults
  have hset := fun pc => setTask_alike h (TaskAlike.at ht pc) i
  have hshow : ∀ showId, Alike d (setTask m i { t with showId := showId, pc := .releasing })
      (setTask m' i { t' with showId := showId, pc := .releasing }) := by
    intro showId
    have hshown : TaskAlike d { t with showId := showId, pc := .releasing }
        { t' with showId := showId, pc := .releasing } := by
      obtain ⟨sends, rfl, hsends⟩ := ht
      exact ⟨sends, rfl, hsends⟩
    exact setTask_alike h hshown i
  obtain ⟨k, tasks, commands, hk, htasks, hcommands, rfl⟩ := h
  obtain ⟨_, rfl, -⟩ := ht
  unfold firstStep
  dsimp only
  split
  · have hstaged : (overlaid d k tasks commands m).stagedShow = m.stagedShow := rfl
    rw [hstaged]
    split
    · exact ⟨.of_alike (hset .finished), rfl⟩
    · exact ⟨.of_alike (hshow _), rfl⟩
  · have htime : (overlaid d k tasks commands m).time = m.time := rfl
    rw [htime]
    split
    · exact ⟨.of_alike (hset .waiting), rfl⟩
    · exact ⟨henter m.monotonic, rfl⟩

lemma released_follows (faults : Faults) :
    Follows setup d (released m i t faults).1 (released m' i t' faults).1 ∧
      (released m' i t' faults).2 = (released m i t faults).2 := by
  have hset := setTask_alike h (TaskAlike.at ht .finished) i
  have hshown : Alike d
      { m with playback := { m.playback with onboardShowId := some t.showId } }
      { m' with playback := { m'.playback with onboardShowId := some t.showId } } := by
    obtain ⟨k, tasks, commands, hk, htasks, hcommands, rfl⟩ := h
    exact ⟨k, tasks, commands, hk, htasks, hcommands, rfl⟩
  have htalike := ht
  obtain ⟨k, tasks, commands, hk, htasks, hcommands, rfl⟩ := h
  obtain ⟨sends, rfl, -⟩ := ht
  have hframe : ∀ startS, startFrame { t with sends := sends } startS = startFrame t startS :=
    fun _ => rfl
  have htime : (overlaid d k tasks commands m).time = m.time := rfl
  unfold released
  dsimp only
  rw [htime, hframe]
  split
  · exact ⟨.of_alike hset, rfl⟩
  · exact broadcastTrigger_follows hshown htalike hi hgoing hpad _ _ faults

end

end

lemma deliverCancel_alike (h : Alike d m m') (ht : TaskAlike d t t') (i : Nat) (faults : Faults) :
    Alike d (deliverCancel m i t faults) (deliverCancel m' i t' faults) := by
  have hfinish := finishLoop_alike h ht i true false faults
  have hset := setTask_alike h (TaskAlike.at ht .finished) i
  obtain ⟨_, rfl, -⟩ := ht
  unfold deliverCancel
  dsimp only
  split
  · exact hfinish
  · exact hset

lemma stepTask_follows (h : Alike d m m') (hpad : d < maxFleetSize) {faults : Faults}
    {m1' : DroneManager} {os : List Sent} (hs : stepTask m' i faults = some (m1', os)) :
    ∃ m1, stepTask m i faults = some (m1, os) ∧ Follows setup d m1 m1' := by
  obtain ⟨t', ht', hlive, hcase⟩ := stepTask_cases hs
  obtain ⟨t, ht, htalike⟩ := forall₂_get h.tasks ht'
  obtain ⟨hplace, hcancel, hframe, hraised, hsent⟩ := htalike.place
  have hi : i < m.playback.tasks.length := (List.getElem?_eq_some_iff.mp ht).1
  rw [hplace] at hlive
  rw [hcancel] at hcase
  rcases hcase with ⟨hcancelled, rfl, rfl⟩ | ⟨hgoing, hmove⟩
  · exact ⟨_, stepTask_cancelled faults ht hlive hcancelled,
      .of_alike (deliverCancel_alike h htalike i faults)⟩
  · cases hmove with
    | first hpc =>
      obtain ⟨hfollows, hos⟩ := firstStep_follows h htalike hi hgoing hpad faults
      rw [hos]
      exact ⟨_, TaskMove.step (.first (hplace ▸ hpc)) ht hgoing, hfollows⟩
    | released hpc =>
      obtain ⟨hfollows, hos⟩ := released_follows h htalike hi hgoing hpad faults
      rw [hos]
      exact ⟨_, TaskMove.step (.released (hplace ▸ hpc)) ht hgoing, hfollows⟩
    | @triggered startS frame hpc hencoded =>
      obtain ⟨hfollows, hos⟩ := broadcastTrigger_follows h htalike hi hgoing hpad startS frame faults
      rw [hos]
      exact ⟨_, TaskMove.step (.triggered (hplace ▸ hpc) (hframe startS ▸ hencoded)) ht hgoing,
        hfollows⟩
    | waited hpc =>
      rw [h.monotonic]
      exact ⟨_, TaskMove.step (.waited (hplace ▸ hpc)) ht hgoing,
        enterLoop_follows h htalike hi hgoing hpad _ faults⟩
    | raised hpc hany =>
      exact ⟨_, TaskMove.step (.raised (hplace ▸ hpc) (hraised ▸ hany)) ht hgoing,
        .of_alike (finishLoop_alike h htalike i false false faults)⟩
    | sent hpc hnone hall =>
      exact ⟨_, TaskMove.step (.sent (hplace ▸ hpc) (hraised ▸ hnone) (hsent ▸ hall)) ht hgoing,
        .of_alike (setTask_alike h (TaskAlike.at htalike .sleeping) i)⟩
    | woke hpc =>
      exact ⟨_, TaskMove.step (.woke (hplace ▸ hpc)) ht hgoing,
        loopTop_follows h htalike hi hgoing hpad faults⟩

end Task

/-- A setpoint of the aborted station, under the other's index for it. The one of
the drone itself is skipped here and sent there. -/
lemma stepSend_answers {m m' : DroneManager} (h : Alike d m m') {i k : Nat} {reply : Reply}
    (hs : stepSend m' i k reply = some (m1', os)) :
    ∃ m1, Shows (step setup) (besides d) (Spared d) m m1 (besides d m' (.setpoint i k reply) os) ∧
      Alike d m1 m1' := by
  have hboth := h
  obtain ⟨marks, tasks, commands, hk, htasks, hcommands, rfl⟩ := h
  cases ht' : (overlaid d marks tasks commands m).playback.tasks[i]? with
  | none => simp [stepSend, ht'] at hs
  | some t' =>
    cases hsend' : t'.sends[k]? with
    | none => simp [stepSend, ht', hsend'] at hs
    | some s =>
      obtain ⟨t, ht, htalike⟩ := forall₂_get htasks ht'
      obtain ⟨sends, rfl, hsends⟩ := htalike
      obtain ⟨k', hsend, hset⟩ := hsends.locate hsend'
      rw [stepSend_eq reply ht' hsend', Option.map_eq_some_iff] at hs
      obtain ⟨⟨pc, sent⟩, hpc, hs⟩ := hs
      cases hs
      have halike : Alike d (setTask m i { t with sends := t.sends.set k' { s with pc := pc } })
          (setTask (overlaid d marks tasks commands m) i
            { t with sends := sends.set k { s with pc := pc } }) :=
        setTask_alike hboth ⟨_, rfl, hset _⟩ i
      refine ⟨_, ?_, halike⟩
      have htakes : takes d (overlaid d marks tasks commands m) (.setpoint i k reply) =
          takes d m (.setpoint i k' reply) := by
        rw [takes_setpoint reply ht' hsend', takes_setpoint reply ht hsend]
      rw [besides, htakes, Alike.status hboth]
      by_cases hskip : s.droneId = d ∧ s.pc = .created
      · obtain ⟨hd, hcreated⟩ := hskip
        have haborted : (overlaid d marks tasks commands m).isAborted s.droneId = true :=
          hd ▸ overlaid_isAborted hk
        simp only [sendStep, hcreated, haborted, if_true, Option.some.injEq, Prod.mk.injEq] at hpc
        obtain ⟨rfl, rfl⟩ := hpc
        rw [takes_setpoint reply ht hsend, if_pos hd]
        exact send_shows ht hsend hd hcreated
      · have hsame : sendStep (m.isAborted s.droneId) s reply =
            sendStep ((overlaid d marks tasks commands m).isAborted s.droneId) s reply := by
          by_cases hd : s.droneId = d
          · have hnot : s.pc ≠ .created := fun hcreated => hskip ⟨hd, hcreated⟩
            unfold sendStep
            cases hspc : s.pc with
            | created => exact absurd hspc hnot
            | _ => rfl
          · rw [overlaid_isAborted_ne hd]
        have hstep : step setup m (.setpoint i k' reply) = _ := stepSend_eq reply ht hsend
        rw [hsame, hpc] at hstep
        exact .single hstep rfl

/-- A command of the aborted station is one of the other's, or of the aborted
drone. -/
lemma stepEmergency_answers {m m' : DroneManager} (h : Alike d m m') {k : Nat} {reply : Reply}
    (hs : stepEmergency m' k reply = some (m1', os)) :
    ∃ m1, Shows (step setup) (besides d) (Spared d) m m1 (besides d m' (.command k reply) os) ∧
      Alike d m1 m1' := by
  have hstatus := Alike.status h
  obtain ⟨marks, tasks, commands, hk, htasks, hcommands, rfl⟩ := h
  obtain ⟨r, hr, hs⟩ := Option.map_eq_some_iff.mp hs
  cases hs
  simp only [forEachDrone, Option.bind_eq_bind, Option.bind_eq_some_iff] at hr
  obtain ⟨c, hc, ⟨c', sent⟩, hc', hr⟩ := hr
  cases hr
  rw [besides, takes, hstatus, List.nil_append]
  rcases hcommands.locate_or_extra hc with ⟨k', hk', hset⟩ | ⟨hd, hset⟩
  · have hstep : step setup m (.command k' reply) =
        some ({ m with commands := m.commands.set k' c' }, sent) := by
      simp [step, stepEmergency, forEachDrone, hk', hc']
    exact ⟨_, .single hstep rfl, marks, tasks, _, hk, htasks, hset c', rfl⟩
  · have hown : c'.droneId = c.droneId ∧ ∀ s ∈ sent, spares d s = false := by
      unfold stepCommand at hc'
      split at hc'
      · split at hc' <;> cases hc' <;> simp [spares, hd]
      · cases hc'; simp [spares, hd]
      · cases hc'; simp
      · cases hc'
    have hnone : sent.filter (spares d) = [] := List.filter_eq_nil_iff.mpr fun s hs => by
      simp [hown.2 s hs]
    rw [hnone]
    exact ⟨m, .refl m, marks, tasks, _, hk, htasks, hset c' (hown.1.trans hd), rfl⟩

lemma abortDrone_ok {m : DroneManager} (hin : m.drones.contains d = true) (mode : AbortMode) :
    ∃ k c sent, k.aborted.isSome = true ∧ c.droneId = d ∧ (∀ s ∈ sent, spares d s = false) ∧
      abortDrone m d mode =
        ({ m.setTelemetry d (mark k (m.telemetry d)) with commands := m.commands ++ [c] }, sent,
          .ok) := by
  let k : Marks :=
    { marks (m.telemetry d) with aborted := some ⟨mode, m.time⟩, plannedValid := false }
  simp only [abortDrone, hin, Bool.not_true, Bool.false_eq_true, if_false]
  cases mode with
  | estop => exact ⟨k, _, _, rfl, rfl, by simp [spares], rfl⟩
  | rtl => exact ⟨k, _, _, rfl, rfl, by simp [spares], rfl⟩
  | land => exact ⟨k, _, _, rfl, rfl, by simp [spares], rfl⟩

lemma abortDrone_marks {m : DroneManager} {k : Marks} {tasks : List PlaybackTask}
    {commands : List CommandTask} (htasks : List.Forall₂ (TaskAlike d) m.playback.tasks tasks)
    (hcommands : Padded (fun c => c.droneId = d) m.commands commands)
    (hin : m.drones.contains d = true) (mode : AbortMode) :
    Alike d m (abortDrone (overlaid d k tasks commands m) d mode).1 ∧
      ∀ s ∈ (abortDrone (overlaid d k tasks commands m) d mode).2.1, spares d s = false := by
  obtain ⟨k', c, sent, hk', hc, hown, habort⟩ :=
    abortDrone_ok (m := overlaid d k tasks commands m) (d := d) hin mode
  have hextra : Padded (fun c : CommandTask => c.droneId = d) [] [c] := .extra hc .nil
  rw [habort]
  refine ⟨⟨k', tasks, commands ++ [c], hk', htasks, by simpa using hcommands.append hextra, ?_⟩, hown⟩
  unfold DroneManager.setTelemetry overlaid
  simp only [marked_mark]

lemma abortDrone_answers {m m' : DroneManager} (h : Alike d m m') (mode : AbortMode) :
    Alike d m (abortDrone m' d mode).1 ∧ ∀ s ∈ (abortDrone m' d mode).2.1, spares d s = false := by
  by_cases hin : m'.drones.contains d = true
  · obtain ⟨k, tasks, commands, -, htasks, hcommands, rfl⟩ := h
    exact abortDrone_marks htasks hcommands hin mode
  · simp only [abortDrone, hin, Bool.not_false, if_true]
    exact ⟨h, by simp⟩

/-! ## Every run -/

/-- No launch is in progress, and the lifecycle waits for none. -/
def Idle (m : DroneManager) : Prop :=
  (∀ i, ¬ InProgress m i) ∧ m.fsm.state ≠ .prearm ∧ m.fsm.state ≠ .armed ∧ m.fsm.state ≠ .takeoff

lemma Idle.step {m m' : DroneManager} (h : Idle m) (hplan : plansAfresh m l = false)
    (hs : Stepped setup m l m') : Idle m' := by
  have hcall : callsLaunch l = false := by
    cases l with
    | method c faults =>
      cases c with
      | launchSequence droneIds ekf wrapped => cases hplan
      | _ => rfl
    | _ => rfl
  have hrefused : acceptsLaunch setup m l = true →
      ¬ (m.fsm.state = .staged ∨ m.fsm.state = .disarmed) := by
    intro haccept hground
    cases l with
    | api operator r faults =>
      cases r with
      | launch decision =>
        have hrun : m.fsm.state = .running := by simpa [plansAfresh] using hplan
        simp [hrun] at hground
      | _ => cases haccept
    | _ => cases haccept
  refine ⟨fun i hi => ?_, ?_⟩
  · rcases launchKept_or_accepted hcall hs with hkept | ⟨haccept, hground, -⟩
    · exact h.1 i (hkept.tasks i hi)
    · exact hrefused haccept hground
  · rcases stepped_move hs with hsame | ⟨haccept, hground, -⟩ | ⟨-, hrun⟩ | ⟨-, hend⟩ | hem | htick
    · rw [hsame]
      exact h.2
    · exact absurd hground (hrefused haccept)
    · simp [hrun]
    · rcases hend with hend | hend <;> simp [hend]
    · refine ⟨?_, ?_, ?_⟩ <;> · intro heq; rw [heq] at hem; cases hem
    · rcases htick with hsame | ⟨hp, -⟩ | ⟨ha, -⟩ | ⟨-, hd | ⟨hp, -⟩ | ⟨ht, -⟩⟩
      · rw [hsame]
        exact h.2
      · exact absurd hp h.2.1
      · exact absurd ha h.2.2.1
      · simp [hd]
      · exact absurd hp h.2.1
      · exact absurd ht h.2.2.2

lemma step_answers {m m' : DroneManager} (hpad : d < maxFleetSize)
    (h : Alike d m m') (hidle : Idle m') (hplan : plansAfresh m' l = false)
    (hs : step setup m' l = some (m1', os)) :
    ∃ m1, Shows (step setup) (besides d) (Spared d) m m1 (besides d m' l os) ∧ Alike d m1 m1' := by
  -- a step under the same label
  have hsame : ∀ {m1 : DroneManager}, step setup m l = some (m1, os) → Alike d m1 m1' →
      Spared d l → (∀ i k reply, l ≠ .setpoint i k reply) →
      ∃ m1, Shows (step setup) (besides d) (Spared d) m m1 (besides d m' l os) ∧ Alike d m1 m1' := by
    intro m1 hm1 halike hspared hl
    rw [besides_alike h os hl]
    exact ⟨m1, .single hm1 hspared, halike⟩
  have hapart : ∀ {f : DroneManager → Option (DroneManager × List Sent)}, Apart f →
      (∀ m, step setup m l = f m) → Spared d l → (∀ i k reply, l ≠ .setpoint i k reply) →
      ∃ m1, Shows (step setup) (besides d) (Spared d) m m1 (besides d m' l os) ∧ Alike d m1 m1' := by
    intro f hf hstep hspared hl
    rw [hstep] at hs
    obtain ⟨m1, hm1, halike⟩ := hf.alike h hs
    exact hsame ((hstep m).trans hm1) halike hspared hl
  cases l with
  | api operator r faults =>
    by_cases habort : aborts d (.api operator r faults) = true
    · -- the run without the abort stands still
      cases r with
      | abort e mode =>
        obtain rfl : e = d := by simpa [aborts] using habort
        simp only [step, handle, Option.some.injEq] at hs
        split at hs
        · cases hs
          exact ⟨m, by simpa [besides, takes, habort] using .refl m, h⟩
        · cases hs
          obtain ⟨halike, hown⟩ := abortDrone_answers h mode
          have hnone : (abortDrone m' e mode).2.1.filter (spares e) = [] :=
            List.filter_eq_nil_iff.mpr fun s hs => by simp [hown s hs]
          exact ⟨m, by simpa [besides, takes, habort, hnone] using .refl m, halike⟩
      | _ => cases habort
    · have hspared : aborts d (.api operator r faults) = false := by simpa using habort
      rw [plansAfresh_congr h.fsm] at hplan
      obtain ⟨halike, hrest⟩ : HandledAlike d _ _ := handle_alike h hspared hplan
      cases hs
      refine hsame ?_ halike hspared (by simp)
      simp only [step, hrest]
  | method c faults =>
    cases c with
    | stopTrajectory =>
      cases hs
      refine hsame ?_ (h.stop faults) rfl (by simp)
      simp only [step, call, h.stop_rest faults]
    | _ => cases hplan
  | failsafe trigger faults =>
    obtain ⟨halike, hrest⟩ := emergency_alike h faults .rtl systemOperator trigger
    cases hs
    refine hsame ?_ halike rfl (by simp)
    simp only [step, hrest]
  | tick faults =>
    have hstate := hidle.2
    rw [h.fsm] at hstate
    obtain ⟨halike, hrest⟩ := evaluateLifecycle_alike h faults hstate
    have hs := Option.some.inj hs
    rw [hs] at halike hrest
    refine hsame ?_ halike rfl (by simp)
    simp only [step]
    rw [← Prod.eta (evaluateLifecycle m faults), ← hrest]
  | sequence i =>
    obtain ⟨t, _, _, ht, hlive, -⟩ := (stepSequence_stepped hs).1.own
    exact absurd ⟨t, ht, hlive⟩ (hidle.1 i)
  | drone i j reply =>
    obtain ⟨t, _, _, _, _, _, ht, hstage, -⟩ := stepDrone_some hs
    exact absurd ⟨t, ht, by simp [hstage]⟩ (hidle.1 i)
  | recovery k reply => exact hapart (stepRecovery_apart k) (fun _ => rfl) rfl (by simp)
  | command k reply => exact stepEmergency_answers h hs
  | playback i faults =>
    obtain ⟨m1, hm1, hfollows⟩ : ∃ m1, stepTask m i faults = some (m1, os) ∧
        Follows setup d m1 m1' := stepTask_follows h hpad hs
    obtain ⟨m2, hshows, halike⟩ := hfollows
    have hstep : step setup m (.playback i faults) = some (m1, os) := hm1
    have hgoes : Shows (step setup) (besides d) (Spared d) m m1 _ := .single hstep rfl
    rw [besides_alike h os (by simp)]
    exact ⟨m2, by simpa using hgoes.trans hshows, halike⟩
  | setpoint i k reply => exact stepSend_answers h hs
  | snapshot faults => exact hapart (writeSnapshot_apart faults) (fun _ => rfl) rfl (by simp)
  | receive i chunk => exact hapart (stepReceive_apart setup i chunk) (fun _ => rfl) rfl (by simp)
  | transfer u k reply => exact hapart (stepTransfer_apart u k reply) (fun _ => rfl) rfl (by simp)
  | telemetry e ev => exact hapart (telemetry_apart setup e ev) (fun _ => rfl) rfl (by simp)
  | clock elapsed time => exact hapart (clock_apart setup elapsed time) (fun _ => rfl) rfl (by simp)
  | bench droneIds => exact hapart (bench_apart setup droneIds) (fun _ => rfl) rfl (by simp)

lemma abort_alike {m m1 : DroneManager} {mode : AbortMode} {os1 : List Sent}
    (habort : abortDrone m d mode = (m1, os1, .ok)) : Alike d m m1 := by
  have hin : m.drones.contains d = true := by
    unfold abortDrone at habort
    split at habort
    · cases habort
    next hin => simpa using hin
  have hown : overlaid d (marks (m.telemetry d)) m.playback.tasks m.commands m = m := by
    unfold overlaid
    rw [marked_marks]
  have htasks : List.Forall₂ (TaskAlike d) m.playback.tasks m.playback.tasks :=
    List.forall₂_same.mpr fun t _ => taskAlike_refl d t
  have halike := (abortDrone_marks (k := marks (m.telemetry d)) htasks (.refl _ _) hin mode).1
  rwa [hown, habort] at halike

lemma Idle.alike {m m' : DroneManager} (h : Idle m) (halike : Alike d m m') : Idle m' := by
  obtain ⟨_, _, _, -, -, -, rfl⟩ := halike
  exact h

/-- A drone is aborted while a show that was started over the API is played, while
the fleet is up, or while no launch is under way. It is sent no setpoint until a
launch names it. Until the fleet's health is asked for again, there is a run
without the abort, from the state it was made in, of which the same is seen
besides the drone: in the same places of it the station takes the same requests,
telemetry and answers of the other drones, and sends them the same setpoints at
the same show clock, in the same lifecycle state, with the same saved show and
recording flag. In that run the drone's own setpoint calls return. `abort_drone`
looks up the drone's pad before it sets the flag, and so raises for a drone that
has none. -/
theorem abort_isolated {init m m1 m2 : DroneManager} {as bs : List Label} {operator : String}
    {mode : AbortMode} {faults : Faults} {os os1 os2 : List Sent}
    (hfirst : init.launch.tasks = [] ∧ init.playback.tasks = [])
    (hcalls : ∀ l ∈ as, callsLaunch l = false) (hrun : run (step setup) init as = some (m, os))
    (hwhen : Playing m ∧ (∀ l ∈ as, callsStart l = false) ∨ isUp m = true ∨ Idle m)
    (hpad : d < maxFleetSize)
    (hstep : step setup m (.api operator (.abort d mode) faults) = some (m1, os1))
    (haccepted : (handle setup m operator faults (.abort d mode)).2.2 = .ok)
    (hrun' : run (step setup) m1 bs = some (m2, os2)) :
    (Along (step setup) (fun m l => relaunches setup d m l = false) m1 bs →
      Silent d (os1 ++ os2)) ∧
    (Along (step setup) (fun m l => plansAfresh m l = false) m1 bs →
      ∃ m2', Shows (step setup) (besides d) (Spared d) m m2' (seen (step setup) (besides d) m1 bs) ∧
        status m2' = status m2) := by
  have hup_idle : isUp m = true → Idle m := by
    intro hup
    refine ⟨quiet_run hfirst.1 hcalls hrun hup, ?_⟩
    rcases isUp_iff.mp hup with hs | hs | hs <;> simp [hs]
  have hidle : Idle m := by
    rcases hwhen with ⟨hplaying, hstarts⟩ | hup | hidle
    · exact hup_idle (playing_up hfirst.2 hstarts hrun hplaying)
    · exact hup_idle hup
    · exact hidle
  have habort : abortDrone m d mode = (m1, os1, .ok) := abort_accepted hstep haccepted
  constructor
  · intro hnot
    have hgrounded : Grounded m1 d := abort_grounded habort (not_ahead hidle.1 d)
    have hquiet : Silent d os1 := by
      obtain ⟨-, rfl⟩ := Prod.mk.inj (Option.some.inj hstep)
      exact handle_silent d setup m operator faults _
    intro s hs
    rcases List.mem_append.mp hs with hs | hs
    · exact hquiet s hs
    · exact grounded_silent_run hgrounded hnot hrun' s hs
  · intro hplan
    have halike : Alike d m m1 := abort_alike habort
    obtain ⟨m2', hshows, hend⟩ := simulation
      (R := fun m m' => Alike d m m' ∧ Idle m')
      (fun m m' l m1' os h hplan hs => by
        obtain ⟨m1, hshows, hnext⟩ := step_answers hpad h.1 h.2 hplan hs
        exact ⟨m1, hshows, hnext, h.2.step hplan (step_stepped hs)⟩)
      ⟨halike, hidle.alike halike⟩ hplan hrun'
    exact ⟨m2', hshows, (Alike.status hend.1).symm⟩

/-- Two drones in formation, three metres apart, and a show in which they stay. -/
def pairAloft : DroneManager where
  drones := [0, 1]
  fsm := { state := .formationHold }
  activeTrajectory := some
    ⟨[(0, [{ time := 0, x := 0, y := 0, z := -2, yaw := 0 }]),
      (1, [{ time := 0, x := 3, y := 0, z := -2, yaw := 0 }])], (by decide : [0, 1].Nodup)⟩
  telemetry := fun d =>
    { connected := true, batteryPercent := 90, satellites := 12, lastHeartbeat := some 0
      positionAt := some 0, fleetX := 3 * d, fleetZ := 2 }

/-- A tick has gathered both setpoints, and made the call of drone 0. -/
def midTick : List Label :=
  [.api "operator" (.startTrajectory ⟨"LOCAL", 0, .streamed⟩) {}, .playback 0 {}, .setpoint 0 0 .ok]

def nextTick : List Label :=
  [.setpoint 0 1 .ok, .setpoint 0 0 .ok, .playback 0 {}, .clock (1 / 10) (1 / 10), .playback 0 {},
    .setpoint 0 0 .ok]

/-- Drone 1 is aborted in the middle of a tick that has gathered its setpoint. -/
theorem abort_isolated_midTick : ∃ m os m1 os1 m2 os2,
    run (step simSetup) pairAloft midTick = some (m, os) ∧
      step simSetup m (.api "operator" (.abort 1 .land) {}) = some (m1, os1) ∧
      run (step simSetup) m1 nextTick = some (m2, os2) ∧ os2.any (setpointTo 0) = true ∧
      Silent 1 (os1 ++ os2) ∧
      ∃ m2', Shows (step simSetup) (besides 1) (Spared 1) m m2'
        (seen (step simSetup) (besides 1) m1 nextTick) ∧ status m2' = status m2 := by
  obtain ⟨⟨m, os⟩, hrun, hplaying, haccepted, ⟨m1, os1⟩, hstep, hnot, hplan, ⟨m2, os2⟩, hrun',
      hsent⟩ :
      ∃ r ∈ run (step simSetup) pairAloft midTick, Playing r.1 ∧
      (handle simSetup r.1 "operator" {} (.abort 1 .land)).2.2 = .ok ∧
      ∃ r1 ∈ step simSetup r.1 (.api "operator" (.abort 1 .land) {}),
      Along (step simSetup) (fun m l => relaunches simSetup 1 m l = false) r1.1 nextTick ∧
      Along (step simSetup) (fun m l => plansAfresh m l = false) r1.1 nextTick ∧
      ∃ r2 ∈ run (step simSetup) r1.1 nextTick, r2.2.any (setpointTo 0) := by decide +kernel
  have hisolated := abort_isolated ⟨rfl, rfl⟩ (by decide) hrun (.inl ⟨hplaying, by decide⟩)
    (by decide) hstep haccepted hrun'
  exact ⟨m, os, m1, os1, m2, os2, hrun, hstep, hrun', hsent, hisolated.1 hnot, hisolated.2 hplan⟩

end Taramandal.Gcs.AbortIsolation
