import Taramandal.Core.Safety
import Taramandal.Lib.Dict
import Taramandal.Lib.Run

/-! # The simulation processes of the dashboard (`sim_manager.py`)

`launch` asks whether a simulation is running and then awaits the spawn before it
enters the process in the table; `stop` takes a copy of the table and awaits the end
of each process before it drops the entry. A run interleaves any number of both at
their await points, with processes that exit at any time. Between the question and
the entry, and between the copy and the drop, the table does not say what is alive. -/
namespace Taramandal.Gcs.SimProcesses

open Lib.Run Lib.Dict Core.Safety

/-- The arguments of `launch`. -/
structure LaunchRequest where
  numDrones : ℤ
  backend : String := "px4"
  headless : Bool := true

def px4MaxDrones : ℤ := 50

def validateDroneCount (count : ℤ) (backend : String) : Except String Unit :=
  if count < 1 then .error ("drone count must be at least 1, got " ++ toString count)
  else if backend = "px4" then
    if px4MaxDrones < count then
      .error (toString count ++ " drones exceeds the real-SITL ceiling of " ++
        toString px4MaxDrones ++
        ". Use backend=\"sim\" for fleets this size — see docs/fleet-scale-benchmark.md.")
    else .ok ()
  else if backend = "sim" then
    if (maxFleetSize : ℤ) < count then
      .error (toString count ++ " drones exceeds MAX_FLEET_SIZE (" ++ toString maxFleetSize ++ ")")
    else .ok ()
  else .error ("unknown backend '" ++ backend ++ "', expected 'px4' or 'sim'")

/-- What of the host a launch looks at before it spawns. -/
structure Host where
  /-- The platform, if it cannot run PX4. -/
  unsupported : Option String := none
  /-- The path of the script, if it is missing. -/
  scriptMissing : Option String := none
  bash : Bool := true

/-- The checks of `launch` between the request and the spawn. -/
def Host.check (host : Host) : Except String Unit :=
  match host.unsupported, host.scriptMissing with
  | some platform, _ => .error ("PX4/Gazebo launch is POSIX-only (they do not run natively on " ++
      platform ++ ") — use backend=\"sim\" for the vectorized fleet")
  | none, some script => .error ("fleet launch script not found at " ++ script)
  | none, none =>
    if host.bash then .ok () else .error "bash not found on PATH — required to run the fleet script"

/-! ## The manager -/

/-- A process that was spawned: whether it lives, and whether asyncio has its return
code. -/
structure Proc where
  alive : Bool := true
  returncode : Bool := false

/-- Where a `stop` waits: for the end of a process, with the signals that it has not
sent yet, or for the sweep of `stop_fleet.sh`. -/
inductive StopAt where
  | terminating (pid signals : ℕ)
  | sweeping (stopped : List ℕ)

/-- The manager with the calls in progress. A launch in progress awaits its spawn, with
the process once there is one. Processes are numbered as they come. -/
structure SimManager where
  procs : List Proc := []
  /-- `processes["fleet"]`. -/
  processes : Option ℕ := none
  lastLaunch : Option LaunchRequest := none
  launches : Dict ℕ (Option ℕ) := []
  stops : Dict ℕ StopAt := []

/-- What sending a signal to the process group does. -/
inductive Kill where
  | sent | lookupError | permissionError
  deriving DecidableEq

inductive Label where
  /-- A call of `launch`, up to its spawn. -/
  | launch (call : ℕ) (request : LaunchRequest) (host : Host)
  /-- The spawn of a launch makes its process. -/
  | fork (call : ℕ)
  | spawnFails (call : ℕ) (exc : String)
  /-- The spawn of a launch is done; the launch goes on to its end. -/
  | spawned (call : ℕ)
  /-- A call of `stop`, up to where it waits. -/
  | stop (call : ℕ) (kill : Kill) (sweep : Bool)
  /-- The wait of a `stop` for a process ends, with its exit or with the timeout. -/
  | waited (call : ℕ) (exited : Bool) (kill : Kill) (sweep : Bool)
  | swept (call : ℕ)
  | status
  /-- A process exits. -/
  | exits (pid : ℕ)
  /-- asyncio gets the return code. -/
  | reaped (pid : ℕ)

inductive Event where
  | launched (call : ℕ)
  | refused (call : ℕ) (text : String)
  | stopped (call : ℕ) (pids : List ℕ)

namespace SimManager

section

variable (m : SimManager)

def alive (pid : ℕ) : Bool := (m.procs[pid]?).any Proc.alive

def running (pid : ℕ) : Bool := (m.procs[pid]?).any fun p => !p.returncode

def isRunning : Bool :=
  m.processes.any m.running || m.lastLaunch.any fun l => l.backend == "sim"

/-- What `status` does to the table: a process that exited is dropped. -/
def status : SimManager := { m with processes := m.processes.filter m.running }

/-- `launch` up to its spawn. -/
def launch (call : ℕ) (request : LaunchRequest) (host : Host) : SimManager × List Event :=
  match validateDroneCount request.numDrones request.backend with
  | .error text => (m, [.refused call text])
  | .ok () =>
    if m.isRunning then
      (m, [.refused call ("a simulation is already running — stop it before launching another " ++
        "(two PX4 fleets collide on MAVLink ports and the Gazebo partition)")])
    else if request.backend = "sim" then
      ({ m with lastLaunch := some request }.status, [.launched call])
    else
      match host.check with
      | .error text => ({ m with lastLaunch := some request }, [.refused call text])
      | .ok () =>
        ({ m with lastLaunch := some request, launches := assign m.launches call none }, [])

/-- A launch has a process, which it does not know of yet. -/
def fork (call : ℕ) : SimManager :=
  { m with procs := m.procs ++ [{}], launches := assign m.launches call (some m.procs.length) }

/-- `_terminate` goes on with the signals it has not sent: it waits again, or returns
(`none`). -/
def terminate (pid : ℕ) (signals : ℕ) (kill : Kill) : Option ℕ :=
  match signals with
  | 0 => none
  | signals + 1 => if m.running pid ∧ kill = .sent then some signals else none

/-- The end of a `stop`. -/
def finishStop (call : ℕ) (stopped : List ℕ) : SimManager × List Event :=
  ({ { m with lastLaunch := none }.status with stops := remove m.stops call },
    [.stopped call stopped])

/-- `stop` after its loop: the sweep, if the host can run it. -/
def sweep (call : ℕ) (stopped : List ℕ) (sweeps : Bool) : SimManager × List Event :=
  if sweeps then ({ m with stops := assign m.stops call (.sweeping stopped) }, [])
  else m.finishStop call stopped

/-- `stop` after `_terminate` gave this: it waits, or drops the entry and goes on. -/
def afterTerminate (call pid : ℕ) (sweeps : Bool) : Option ℕ → SimManager × List Event
  | some signals => ({ m with stops := assign m.stops call (.terminating pid signals) }, [])
  | none => { m with processes := none }.sweep call [pid] sweeps

end

def step : SimManager → Label → Option (SimManager × List Event)
  | m, .launch call request host =>
    if has m.launches call then none else some (m.launch call request host)
  | m, .fork call =>
    match find m.launches call with
    | some none => some (m.fork call, [])
    | _ => none
  | m, .spawnFails call exc =>
    match find m.launches call with
    | some none => some ({ m with launches := remove m.launches call },
        [.refused call ("failed to spawn 'fleet': " ++ exc)])
    | _ => none
  | m, .spawned call =>
    match find m.launches call with
    | some (some pid) =>
      some ({ m with processes := some pid, launches := remove m.launches call }.status,
        [.launched call])
    | _ => none
  | m, .stop call kill sweeps =>
    if has m.stops call then none
    else
      match m.processes with
      | none => some (m.sweep call [] sweeps)
      | some pid =>
        if m.running pid then
          if kill = .lookupError ∧ m.alive pid then none
          else some (m.afterTerminate call pid sweeps (m.terminate pid 3 kill))
        else some ({ m with processes := none }.sweep call [] sweeps)
  | m, .waited call exited kill sweeps =>
    match find m.stops call with
    | some (.terminating pid signals) =>
      if exited then
        if m.running pid then none else some (m.afterTerminate call pid sweeps none)
      else if kill = .lookupError ∧ m.alive pid then none
      else some (m.afterTerminate call pid sweeps (m.terminate pid signals kill))
    | _ => none
  | m, .swept call =>
    match find m.stops call with
    | some (.sweeping stopped) => some (m.finishStop call stopped)
    | _ => none
  | m, .status => some (m.status, [])
  | m, .exits pid =>
    some ({ m with procs := m.procs.modify pid fun p => { p with alive := false } }, [])
  | m, .reaped pid =>
    if m.alive pid then none
    else some ({ m with procs := m.procs.modify pid fun p => { p with returncode := true } }, [])

def spawns (m : SimManager) (request : LaunchRequest) (host : Host) : Prop :=
  validateDroneCount request.numDrones request.backend = .ok () ∧ m.isRunning = false ∧
    request.backend ≠ "sim" ∧ host.check = .ok ()

/-- No launch gets to its spawn while another awaits its own, none enters its process
while a stop is in progress, and no stop gives up on a process that is alive. -/
def NoRace (m : SimManager) : Label → Prop
  | .launch _ request host => m.spawns request host → m.launches = []
  | .spawned _ => m.stops = []
  | .stop _ kill _ => ∀ pid ∈ m.processes, m.alive pid = true → kill ≠ .permissionError
  | .waited call false kill _ => ∀ pid signals,
      find m.stops call = some (.terminating pid signals) → m.alive pid = true →
        signals ≠ 0 ∧ kill ≠ .permissionError
  | _ => True

/-- At most one process is alive, and one that is alive is in the table, unless it is
of a launch that still awaits its spawn. -/
structure Contained (m : SimManager) : Prop where
  lone : ∀ p q, m.alive p = true → m.alive q = true → p = q
  listed : ∀ p, m.alive p = true → m.processes = some p ∨ ∃ call, (call, some p) ∈ m.launches

/-! ## What the table says of what is alive -/

structure Books (m : SimManager) : Prop where
  one : m.launches = [] ∨ ∃ call p, m.launches = [(call, p)]
  alive_running : ∀ pid, m.alive pid = true → m.running pid = true
  listed : ∀ pid, m.alive pid = true →
    m.processes = some pid ∨ ∃ call, m.launches = [(call, some pid)]
  idle : m.launches ≠ [] → ∀ pid, m.processes = some pid → m.alive pid = false
  spawned : ∀ pid, m.processes = some pid → pid < m.procs.length
  forked : ∀ call pid, m.launches = [(call, some pid)] → pid < m.procs.length
  terminating : ∀ call pid n, find m.stops call = some (.terminating pid n) →
    m.processes = none ∨ m.processes = some pid
  sweeping : ∀ call l, find m.stops call = some (.sweeping l) → m.processes = none

variable {m : SimManager}

lemma Books.contained (h : Books m) : Contained m where
  lone p q hp hq := by
    rcases h.listed p hp with hp' | ⟨call, hp'⟩ <;> rcases h.listed q hq with hq' | ⟨call', hq'⟩
    · exact Option.some.inj (hp'.symm.trans hq')
    · have hdead := h.idle (by simp [hq']) p hp'
      rw [hp] at hdead
      cases hdead
    · have hdead := h.idle (by simp [hp']) q hq'
      rw [hq] at hdead
      cases hdead
    · rw [hp'] at hq'
      cases hq'
      rfl
  listed p hp := (h.listed p hp).imp_right fun ⟨call, hl⟩ => ⟨call, by simp [hl]⟩

/-- What a step of a `stop`, or `status`, may do: drop the entry of a process that is
dead, and move on. -/
structure Drops (m m' : SimManager) : Prop where
  procs : m'.procs = m.procs
  launches : m'.launches = m.launches
  processes : m'.processes = m.processes ∨
    m'.processes = none ∧ ∀ pid, m.processes = some pid → m.alive pid = false
  terminating : ∀ call pid n, find m'.stops call = some (.terminating pid n) →
    (∃ n', find m.stops call = some (.terminating pid n')) ∨ m'.processes = some pid
  sweeping : ∀ call l, find m'.stops call = some (.sweeping l) →
    find m.stops call = some (.sweeping l) ∨ m'.processes = none

lemma Books.drops {m' : SimManager} (h : Books m) (hd : Drops m m') : Books m' := by
  have halive : ∀ pid, m'.alive pid = m.alive pid := fun pid => by simp [alive, hd.procs]
  have hrunning : ∀ pid, m'.running pid = m.running pid := fun pid => by simp [running, hd.procs]
  have hentry : ∀ pid, m'.processes = some pid → m.processes = some pid := by
    intro pid hp
    rcases hd.processes with he | ⟨he, -⟩
    · rw [← he, hp]
    · rw [he] at hp; cases hp
  have hnone : m.processes = none → m'.processes = none := by
    intro hn
    rcases hd.processes with he | ⟨he, -⟩
    · rw [he, hn]
    · exact he
  refine ⟨?_, ?_, ?_, ?_, ?_, ?_, ?_, ?_⟩
  · rw [hd.launches]; exact h.one
  · intro pid hp
    rw [hrunning]
    exact h.alive_running pid (halive pid ▸ hp)
  · intro pid hp
    rw [halive] at hp
    rw [hd.launches]
    refine (h.listed pid hp).imp_left fun hl => ?_
    rcases hd.processes with he | ⟨-, hdead⟩
    · rw [he, hl]
    · rw [hdead pid hl] at hp; cases hp
  · intro hne pid hp
    rw [halive]
    exact h.idle (hd.launches ▸ hne) pid (hentry pid hp)
  · intro pid hp
    rw [hd.procs]
    exact h.spawned pid (hentry pid hp)
  · intro call pid hl
    rw [hd.procs]
    exact h.forked call pid (hd.launches ▸ hl)
  · intro call pid n hs
    rcases hd.terminating call pid n hs with ⟨n', hs⟩ | hs
    · rcases h.terminating call pid n' hs with hn | hp
      · exact .inl (hnone hn)
      · rcases hd.processes with he | ⟨he, -⟩
        · exact .inr (he.trans hp)
        · exact .inl he
    · exact .inr hs
  · intro call l hs
    rcases hd.sweeping call l hs with hs | hs
    · exact hnone (h.sweeping call l hs)
    · exact hs

variable {pid : ℕ}

lemma Books.dead_of_not_running (h : Books m) (hr : m.running pid = false) :
    m.alive pid = false := by
  cases ha : m.alive pid with
  | false => rfl
  | true => rw [h.alive_running pid ha] at hr; cases hr

lemma Books.status_processes (h : Books m) : m.status.processes = m.processes ∨
      m.status.processes = none ∧ ∀ pid, m.processes = some pid → m.alive pid = false := by
  cases hp : m.processes with
  | none => simp [status, hp]
  | some pid =>
    cases hr : m.running pid with
    | true => simp [status, hp, Option.filter, hr]
    | false =>
      refine .inr ⟨by simp [status, hp, Option.filter, hr], fun p hpp => ?_⟩
      cases hpp
      exact h.dead_of_not_running hr

lemma Books.drops_status (h : Books m) : Drops m m.status :=
  ⟨rfl, rfl, h.status_processes, fun _ _ n hs => .inl ⟨n, hs⟩, fun _ _ hs => .inl hs⟩

/-- A `stop` that dropped a dead process, or found none, goes on to its sweep or its
end with an empty table. -/
lemma drops_sweep (hdead : ∀ pid, m.processes = some pid → m.alive pid = false) (call : ℕ)
    (stopped : List ℕ) (sweeps : Bool) :
    Drops m ({ m with processes := none }.sweep call stopped sweeps).1 ∧
      ({ m with processes := none }.sweep call stopped sweeps).1.processes = none := by
  cases sweeps with
  | true =>
    refine ⟨⟨rfl, rfl, .inr ⟨rfl, hdead⟩, fun c pid n hs => ?_, fun c l _ => .inr rfl⟩, rfl⟩
    by_cases hc : call = c
    · subst hc
      rw [SimManager.sweep, if_pos rfl, find_assign_self] at hs
      cases hs
    · rw [SimManager.sweep, if_pos rfl, find_assign_ne _ _ hc] at hs
      exact .inl ⟨n, hs⟩
  | false =>
    have hnone : ({ m with processes := none }.sweep call stopped false).1.processes = none := by
      simp [SimManager.sweep, finishStop, status]
    exact ⟨⟨rfl, rfl, .inr ⟨hnone, hdead⟩, fun c pid n hs => .inl ⟨n, (find_remove_some hs).2⟩,
      fun c l hs => .inl (find_remove_some hs).2⟩, hnone⟩

lemma sweep_of_none (h : m.processes = none) (call : ℕ) (stopped : List ℕ) (sweeps : Bool) :
    m.sweep call stopped sweeps = { m with processes := none }.sweep call stopped sweeps := by
  obtain ⟨procs, processes, lastLaunch, launches, stops⟩ := m
  cases h
  rfl

lemma launch_cases (m : SimManager) (call : ℕ) (request : LaunchRequest) (host : Host) :
    (∃ last, (m.launch call request host).1 = { m with lastLaunch := last }) ∨
      (∃ last, (m.launch call request host).1 = { m with lastLaunch := last }.status) ∨
      m.spawns request host ∧ (m.launch call request host).1 =
        { m with lastLaunch := some request, launches := assign m.launches call none } := by
  unfold launch
  split
  next => exact .inl ⟨m.lastLaunch, rfl⟩
  next hvalid =>
    split
    next => exact .inl ⟨m.lastLaunch, rfl⟩
    next hidle =>
      split
      next => exact .inr (.inl ⟨some request, rfl⟩)
      next hbackend =>
        split
        next => exact .inl ⟨some request, rfl⟩
        next hhost =>
          exact .inr (.inr ⟨⟨hvalid, by simpa using hidle, hbackend, hhost⟩, rfl⟩)

variable {call : ℕ}

lemma Books.launch (h : Books m) {request : LaunchRequest} {host : Host}
    (hrace : m.spawns request host → m.launches = []) :
    Books (m.launch call request host).1 := by
  rcases launch_cases m call request host with ⟨last, he⟩ | ⟨last, he⟩ | ⟨hspawns, he⟩
  · rw [he]
    exact { h with }
  · rw [he]
    have hlast : Books { m with lastLaunch := last } := { h with }
    exact hlast.drops hlast.drops_status
  · -- nothing runs, so the entry of the table, if there is one, is dead
    have hempty := hrace hspawns
    have hidle : ∀ pid, m.processes = some pid → m.alive pid = false := by
      intro pid hp
      refine h.dead_of_not_running ?_
      have hnot := hspawns.2.1
      rw [isRunning, hp, Option.any_some, Bool.or_eq_false_iff] at hnot
      exact hnot.1
    rw [he]
    refine { h with
      one := .inr ⟨call, none, by simp [hempty, assign]⟩
      listed := fun pid hp => ?_
      idle := fun _ => hidle
      forked := fun c pid hl => ?_ }
    · rcases h.listed pid hp with hl | ⟨c, hl⟩
      · exact .inl hl
      · rw [hempty] at hl; cases hl
    · simp [hempty, assign] at hl

lemma alive_fork (h : pid < m.procs.length) : (m.fork call).alive pid = m.alive pid := by
  simp [alive, SimManager.fork, List.getElem?_append_left h]

section

variable (h : Books m)
include h

lemma Books.fork (hl : m.launches = [(call, none)]) : Books (m.fork call) := by
  have hdead : ∀ pid, m.alive pid = false := by
    intro pid
    cases ha : m.alive pid with
    | false => rfl
    | true =>
      rcases h.listed pid ha with hp | ⟨c, hc⟩
      · exact ha.symm.trans (h.idle (by simp [hl]) pid hp)
      · rw [hl] at hc; cases hc
  have hnew : ∀ pid, (m.fork call).alive pid = true → pid = m.procs.length := by
    intro pid hp
    rcases Nat.lt_trichotomy pid m.procs.length with hlt | heq | hgt
    · rw [alive_fork hlt, hdead pid] at hp; cases hp
    · exact heq
    · rw [alive, List.getElem?_eq_none (by simp [SimManager.fork]; omega)] at hp; cases hp
  have hlaunches : (m.fork call).launches = [(call, some m.procs.length)] := by
    simp [SimManager.fork, hl, assign]
  refine { h with
    one := .inr ⟨call, _, hlaunches⟩
    alive_running := fun pid hp => ?_
    listed := fun pid hp => .inr ⟨call, by rw [hnew pid hp, hlaunches]⟩
    idle := fun _ pid hp => ?_
    spawned := fun pid hp => ?_
    forked := fun c pid hc => ?_ }
  · rw [hnew pid hp]
    simp [running, SimManager.fork]
  · rw [alive_fork (h.spawned pid hp)]
    exact hdead pid
  · have := h.spawned pid hp
    simp [SimManager.fork]
    omega
  · rw [hlaunches] at hc
    cases hc
    simp [SimManager.fork]

/-- With no `stop` in progress a launch that is done enters its process. -/
lemma Books.spawned_step (hl : m.launches = [(call, some pid)]) (hstops : m.stops = []) :
    Books { m with processes := some pid, launches := [] } := by
  refine { h with
    one := .inl rfl
    listed := fun p hp => .inl ?_
    idle := fun hne => absurd rfl hne
    spawned := fun p hp => ?_
    forked := fun c p hc => ?_
    terminating := fun c p n hs => ?_
    sweeping := fun c l hs => ?_ }
  · rcases h.listed p hp with he | ⟨c, hc⟩
    · have hdead := h.idle (by simp [hl]) p he
      have hp : m.alive p = true := hp
      rw [hdead] at hp
      cases hp
    · rw [hl] at hc
      cases hc
      rfl
  · cases hp
    exact h.forked call _ hl
  · cases hc
  · rw [hstops] at hs; cases hs
  · rw [hstops] at hs; cases hs

lemma Books.procs {procs : List Proc} (hlen : procs.length = m.procs.length)
    (hkept : ∀ pid, ({ m with procs := procs } : SimManager).alive pid = true →
      m.alive pid = true ∧ ({ m with procs := procs } : SimManager).running pid = true) :
    Books { m with procs := procs } := by
  refine { h with
    alive_running := fun pid hp => (hkept pid hp).2
    listed := fun pid hp => h.listed pid (hkept pid hp).1
    idle := fun hne pid hp => ?_
    spawned := fun pid hp => hlen.symm ▸ h.spawned pid hp
    forked := fun c pid hc => hlen.symm ▸ h.forked c pid hc }
  cases ha : ({ m with procs := procs } : SimManager).alive pid with
  | false => rfl
  | true =>
    have hdead := h.idle hne pid hp
    rw [(hkept pid ha).1] at hdead
    cases hdead

lemma Books.exits (pid : ℕ) :
    Books { m with procs := m.procs.modify pid fun p => { p with alive := false } } := by
  refine h.procs (List.length_modify ..) fun p hp => ?_
  have hrunning : ({ m with procs := m.procs.modify pid fun p => { p with alive := false } } :
      SimManager).running p = m.running p := by
    simp only [running, List.getElem?_modify]
    cases m.procs[p]? with
    | none => rfl
    | some q => by_cases hq : pid = p <;> simp [hq]
  have halive : m.alive p = true := by
    simp only [alive, List.getElem?_modify] at hp ⊢
    cases hq : m.procs[p]? with
    | none => simp [hq] at hp
    | some q =>
      by_cases hpid : pid = p
      · simp [hq, hpid] at hp
      · simpa [hq, hpid] using hp
  exact ⟨halive, hrunning ▸ h.alive_running p halive⟩

lemma Books.reaped (hdead : m.alive pid = false) :
    Books { m with procs := m.procs.modify pid fun p => { p with returncode := true } } := by
  refine h.procs (List.length_modify ..) fun p hp => ?_
  have halive : m.alive p = true := by
    simp only [alive, List.getElem?_modify] at hp ⊢
    cases hq : m.procs[p]? with
    | none => simp [hq] at hp
    | some q => by_cases hpid : pid = p <;> simpa [hq, hpid] using hp
  have hne : pid ≠ p := by
    rintro rfl
    rw [hdead] at halive
    cases halive
  have hrunning := h.alive_running p halive
  refine ⟨halive, ?_⟩
  simp only [running, List.getElem?_modify] at hrunning ⊢
  cases hq : m.procs[p]? with
  | none => simp [hq] at hrunning
  | some q => simpa [hq, hne] using hrunning

end

variable {kill : Kill}

lemma Books.terminate_ne_none (h : Books m) {signals : ℕ} (ha : m.alive pid = true)
    (hsignals : signals ≠ 0) (hpermission : kill ≠ .permissionError)
    (hlookup : ¬(kill = .lookupError ∧ m.alive pid = true)) :
    m.terminate pid signals kill ≠ none := by
  obtain ⟨left, rfl⟩ := Nat.exists_eq_succ_of_ne_zero hsignals
  have hsent : kill = .sent := by
    cases kill with
    | sent => rfl
    | lookupError => exact absurd ⟨rfl, ha⟩ hlookup
    | permissionError => exact absurd rfl hpermission
  simp [terminate, h.alive_running pid ha, hsent]

variable {sweeps : Bool}

/-- `_terminate` came back: a `stop` that did not give up drops a dead process. -/
lemma drops_afterTerminate {next : Option ℕ}
    (hentry : m.processes = some pid ∨ ∃ n, find m.stops call = some (.terminating pid n))
    (hdead : next = none → ∀ p, m.processes = some p → m.alive p = false) :
    Drops m (m.afterTerminate call pid sweeps next).1 ∧
      ∀ c pids, Event.stopped c pids ∈ (m.afterTerminate call pid sweeps next).2 →
        (m.afterTerminate call pid sweeps next).1.processes = none := by
  cases next with
  | none =>
    obtain ⟨hdrops, hnone⟩ := drops_sweep (hdead rfl) call [pid] sweeps
    exact ⟨hdrops, fun _ _ _ => hnone⟩
  | some signals =>
    refine ⟨⟨rfl, rfl, .inl rfl, fun c p n hs => ?_, fun c l hs => ?_⟩, fun c pids hc => ?_⟩
    · by_cases hcall : call = c
      · subst hcall
        simp only [afterTerminate, find_assign_self, Option.some.injEq, StopAt.terminating.injEq]
          at hs
        obtain ⟨rfl, -⟩ := hs
        exact hentry.symm
      · simp only [afterTerminate, find_assign_ne _ _ hcall] at hs
        exact .inl ⟨n, hs⟩
    · by_cases hcall : call = c
      · subst hcall
        simp [afterTerminate, find_assign_self] at hs
      · simp only [afterTerminate, find_assign_ne _ _ hcall] at hs
        exact .inl hs
    · simp [afterTerminate] at hc

/-- No `stop` event comes out of a launch. -/
lemma not_stopped_launch {c : ℕ} {pids : List ℕ} {request : LaunchRequest} {host : Host} :
    Event.stopped c pids ∉ (m.launch call request host).2 := by
  unfold launch
  split
  next => simp
  next =>
    split
    next => simp
    next =>
      split
      next => simp
      next => split <;> simp

lemma Books.only (h : Books m) {p : Option ℕ} (hf : find m.launches call = some p) :
    m.launches = [(call, p)] := by
  rcases h.one with he | ⟨c, q, he⟩
  · rw [he] at hf; cases hf
  · rw [he] at hf ⊢
    simp only [find] at hf
    split at hf
    next hc =>
      cases hf
      rw [hc]
    next => cases hf

lemma Books.spawnFails (h : Books m) (hl : m.launches = [(call, none)]) :
    Books { m with launches := remove m.launches call } := by
  have hgone : remove m.launches call = [] := by simp [hl, remove]
  refine { h with
    one := .inl hgone
    listed := fun pid hp => ?_
    idle := fun hne => absurd hgone hne
    forked := fun c pid hc => by simp [hl, remove] at hc }
  rcases h.listed pid hp with he | ⟨c, hc⟩
  · exact .inl he
  · rw [hl] at hc
    cases hc

/-- A `stop` that finds nothing alive in the table goes on to its sweep or its end. -/
lemma Books.swept (h : Books m) (hdead : ∀ pid, m.processes = some pid → m.alive pid = false)
    (call : ℕ) (stopped : List ℕ) (sweeps : Bool) :
    Books ({ m with processes := none }.sweep call stopped sweeps).1 ∧
      ∀ c pids, Event.stopped c pids ∈ ({ m with processes := none }.sweep call stopped sweeps).2 →
        ({ m with processes := none }.sweep call stopped sweeps).1.processes = none := by
  obtain ⟨hdrops, hempty⟩ := drops_sweep hdead call stopped sweeps
  exact ⟨h.drops hdrops, fun _ _ _ => hempty⟩

lemma Books.swept_of_none (h : Books m) (hnone : m.processes = none) (call : ℕ) (stopped : List ℕ)
    (sweeps : Bool) :
    Books (m.sweep call stopped sweeps).1 ∧
      ∀ c pids, Event.stopped c pids ∈ (m.sweep call stopped sweeps).2 →
        (m.sweep call stopped sweeps).1.processes = none := by
  have hdead : ∀ pid, m.processes = some pid → m.alive pid = false := by
    intro pid hp
    rw [hnone] at hp
    cases hp
  rw [sweep_of_none hnone]
  exact h.swept hdead call stopped sweeps

variable {r : SimManager × List Event}

/-- A `stop` that asks for the process of the table to end, or finds that it has. -/
lemma Books.stop_step (h : Books m) (hrace : NoRace m (.stop call kill sweeps))
    (hs : step m (.stop call kill sweeps) = some r) :
    Books r.1 ∧ ∀ c pids, Event.stopped c pids ∈ r.2 → r.1.processes = none := by
  simp only [SimManager.step] at hs
  split at hs
  next => cases hs
  split at hs
  next hnone =>
    cases hs
    exact h.swept_of_none hnone call [] sweeps
  next pid hp =>
    split at hs
    next =>
      split at hs
      next => cases hs
      next hlookup =>
        cases hs
        obtain ⟨hdrops, hempty⟩ := drops_afterTerminate (.inl hp) fun hgives p hpp => by
          cases hp.symm.trans hpp
          refine Bool.eq_false_iff.mpr fun ha => ?_
          have hne := h.terminate_ne_none ha (Nat.succ_ne_zero 2) (hrace pid hp ha) hlookup
          exact hne hgives
        exact ⟨h.drops hdrops, hempty⟩
    next hrunning =>
      cases hs
      refine h.swept (fun p hpp => ?_) call [] sweeps
      cases hp.symm.trans hpp
      exact h.dead_of_not_running (by simpa using hrunning)

/-- A `stop` that has waited for its process. -/
lemma Books.waited_step {exited : Bool} (h : Books m)
    (hrace : NoRace m (.waited call exited kill sweeps))
    (hs : step m (.waited call exited kill sweeps) = some r) :
    Books r.1 ∧ ∀ c pids, Event.stopped c pids ∈ r.2 → r.1.processes = none := by
  simp only [SimManager.step] at hs
  split at hs
  next pid signals hf =>
    -- the entry is the process waited for, or gone
    have hown : ∀ p, m.processes = some p → p = pid := by
      intro p hpp
      rcases h.terminating call pid signals hf with hn | hn
      · rw [hn] at hpp; cases hpp
      · exact Option.some.inj (hpp.symm.trans hn)
    split at hs
    next =>
      split at hs
      next => cases hs
      next hrunning =>
        cases hs
        obtain ⟨hdrops, hempty⟩ := drops_afterTerminate (.inr ⟨signals, hf⟩) fun _ p hpp => by
          rw [hown p hpp]
          exact h.dead_of_not_running (by simpa using hrunning)
        exact ⟨h.drops hdrops, hempty⟩
    next hexited =>
      split at hs
      next => cases hs
      next hlookup =>
        cases hs
        rw [Bool.not_eq_true] at hexited
        subst hexited
        obtain ⟨hdrops, hempty⟩ := drops_afterTerminate (.inr ⟨signals, hf⟩) fun hgives p hpp => by
          rw [hown p hpp]
          refine Bool.eq_false_iff.mpr fun ha => ?_
          obtain ⟨hsignals, hpermission⟩ := hrace pid signals hf ha
          exact h.terminate_ne_none ha hsignals hpermission hlookup hgives
        exact ⟨h.drops hdrops, hempty⟩
  next => cases hs

/-- One step keeps the books, if it is no race, and a `stop` that returns leaves an
empty table. -/
lemma Books.step {l : Label} (h : Books m) (hrace : NoRace m l) (hs : step m l = some r) :
    Books r.1 ∧ ∀ c pids, Event.stopped c pids ∈ r.2 → r.1.processes = none := by
  cases l with
  | launch call request host =>
    simp only [SimManager.step] at hs
    split at hs
    next => cases hs
    next =>
      cases hs
      exact ⟨h.launch hrace, fun c pids hc => absurd hc not_stopped_launch⟩
  | fork call =>
    simp only [SimManager.step] at hs
    split at hs
    next hf => cases hs; exact ⟨h.fork (h.only hf), by simp⟩
    next => cases hs
  | spawnFails call exc =>
    simp only [SimManager.step] at hs
    split at hs
    next hf => cases hs; exact ⟨h.spawnFails (h.only hf), by simp⟩
    next => cases hs
  | spawned call =>
    simp only [SimManager.step] at hs
    split at hs
    next pid hf =>
      cases hs
      have hl := h.only hf
      have hentered := h.spawned_step hl hrace
      rw [hl, show remove [(call, some pid)] call = [] by simp [remove]]
      exact ⟨hentered.drops hentered.drops_status, by simp⟩
    next => cases hs
  | stop call kill sweeps => exact h.stop_step hrace hs
  | waited call exited kill sweeps => exact h.waited_step hrace hs
  | swept call =>
    simp only [SimManager.step] at hs
    split at hs
    next stopped hf =>
      cases hs
      have hend : m.finishStop call stopped = m.sweep call stopped false := by simp [sweep]
      rw [hend]
      exact h.swept_of_none (h.sweeping call stopped hf) call stopped false
    next => cases hs
  | status => cases hs; exact ⟨h.drops h.drops_status, by simp⟩
  | exits pid => cases hs; exact ⟨h.exits pid, by simp⟩
  | reaped pid =>
    simp only [SimManager.step] at hs
    split at hs
    next => cases hs
    next hdead => cases hs; exact ⟨h.reaped (by simpa using hdead), by simp⟩

lemma books_new : Books {} := by
  constructor <;> simp [alive, find]

/-- In a run without a race at most one process is alive at any moment, each is in the
table or of a launch that awaits it, and when a `stop` returns with no launch in
progress none is alive. -/
theorem one_fleet {ls : List Label} {m : SimManager} {os : List Event}
    (ha : Along step NoRace {} ls) (hr : run step {} ls = some (m, os)) :
    Contained m ∧ ∀ l m' o call pids, NoRace m l → step m l = some (m', o) →
      Event.stopped call pids ∈ o → m'.launches = [] → ∀ p, m'.alive p = false := by
  have hbooks : Books m := run_invariant (fun s l t o h hl hs => (h.step hl hs).1) books_new ha hr
  refine ⟨hbooks.contained, fun l m' o call pids hl hs hstopped hidle p => ?_⟩
  obtain ⟨hbooks', hempty⟩ := hbooks.step hl hs
  refine Bool.eq_false_iff.mpr fun hp => ?_
  rcases hbooks'.listed p hp with he | ⟨c, hc⟩
  · rw [hempty call pids hstopped] at he; cases he
  · rw [hidle] at hc; cases hc

/-- Launched, up, and a stop that waits for the fleet to end on its `SIGINT`. -/
def servedRun : List Label :=
  [.launch 0 { numDrones := 3 } {}, .fork 0, .spawned 0, .stop 1 .sent false, .exits 0, .reaped 0]

def served : SimManager :=
  { procs := [{ alive := false, returncode := true }], processes := some 0
    lastLaunch := some { numDrones := 3 }, stops := [(1, .terminating 0 2)] }

def servedStopped : SimManager :=
  { procs := [{ alive := false, returncode := true }] }

lemma along_servedRun : Along step NoRace {} servedRun := by
  refine ⟨fun _ => rfl, fun m o hs => ?_⟩
  cases hs
  refine ⟨trivial, fun m o hs => ?_⟩
  cases hs
  refine ⟨rfl, fun m o hs => ?_⟩
  cases hs
  refine ⟨fun pid hp ha => by decide, fun m o hs => ?_⟩
  cases hs
  exact ⟨trivial, fun _ _ _ => ⟨trivial, fun _ _ _ => trivial⟩⟩

/-- The stop returns, and the fleet is gone. -/
theorem one_fleet_served : Contained served ∧ servedStopped.alive 0 = false := by
  have hr : run step {} servedRun = some (served, [.launched 0]) := rfl
  obtain ⟨hcontained, hstopped⟩ := one_fleet along_servedRun hr
  exact ⟨hcontained, hstopped (.waited 1 true .sent false) servedStopped [.stopped 1 [0]] 1 [0]
    trivial rfl (by simp) rfl 0⟩

/-- Two launches that both ask before either has its process, and a stop that ends the
one in the table. -/
def twoFleetsRun : List Label :=
  [.launch 0 { numDrones := 3 } {}, .launch 1 { numDrones := 3 } {}, .fork 0, .fork 1, .spawned 0,
    .spawned 1, .stop 2 .sent false, .exits 1, .reaped 1, .waited 2 true .sent false]

/-- Both are alive at once, and after the stop has returned the first still is, in no
table. -/
theorem two_fleets :
    (∃ m os, run step {} (twoFleetsRun.take 4) = some (m, os) ∧ m.alive 0 = true ∧ m.alive 1 = true) ∧
      ∃ m os, run step {} twoFleetsRun = some (m, os) ∧ os.getLast? = some (.stopped 2 [1]) ∧
        m.launches = [] ∧ m.alive 0 = true ∧ m.processes = none :=
  ⟨⟨_, _, rfl, rfl, rfl⟩, _, _, rfl, rfl, rfl, rfl, rfl⟩

end SimManager

end Taramandal.Gcs.SimProcesses
