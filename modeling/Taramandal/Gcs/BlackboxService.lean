import Taramandal.Gcs.Blackbox
import Taramandal.Gcs.ProximityMonitor
import Taramandal.Lib.Edges
import Taramandal.Lib.Evict

/-! # The flight recorder's service (`blackbox_service.py`)

The service owns the recorder of the process: it polls the telemetry, sweeps the breach flags,
hears of transitions and audit entries, moves on to a new file when one is large enough or has
failed, and prunes the directory. A line of a session file is the call that wrote it. A directory
is the session files in it; one that does not exist has none. -/
namespace Taramandal.Gcs.BlackboxService

open Core.Numbers Core.Floats Core.Values Core.Validate Gcs.Blackbox Gcs.ProximityMonitor
open Lib.Dict Lib.Edges Lib.Evict Lib.Run

variable {K : Type}

/-- A file that matches `_SESSION_GLOB`, with its time and size where `os.stat` gives them. -/
structure SessionFile (K : Type) where
  path : String
  stat : Option (K × Nat)

structure Directory (K : Type) where
  files : List (SessionFile K)
  nodup : (files.map SessionFile.path).Nodup := by decide

/-- A row of `files` in `prune_sessions`: time, path and size. -/
abbrev FileRow (K : Type) := K × String × Nat

def SessionFile.row (f : SessionFile K) : Option (FileRow K) := f.stat.map fun s => (s.1, f.path, s.2)

def sortedRows [LinearOrder K] (d : Directory K) : List (FileRow K) :=
  (d.files.filterMap SessionFile.row).insertionSort fun a b =>
    a.1 < b.1 ∨ (a.1 = b.1 ∧ (a.2.1 < b.2.1 ∨ (a.2.1 = b.2.1 ∧ a.2.2 ≤ b.2.2)))

/-- `prune_sessions`: the paths it removes. `removable` tells which files `os.remove` can
remove. -/
def pruneSessions [LinearOrder K] (removable : String → Bool) (d : Directory K) (maxTotalBytes : ℤ)
    (keep : Option String) : List String :=
  let files := sortedRows d
  (evict (fun f => keep ≠ some f.2.1 && removable f.2.1) (fun f => f.2.2) maxTotalBytes
    (total (fun f => f.2.2) files) files).map fun f => f.2.1

/-- The directory with one more file; `O_EXCL` creates none that is there. -/
def Directory.create (d : Directory K) (f : SessionFile K) : Option (Directory K) :=
  if h : f.path ∈ d.files.map SessionFile.path then none
  else some {
    files := d.files ++ [f]
    nodup := by
      rw [List.map_append]
      exact d.nodup.append (List.nodup_singleton _) (List.disjoint_singleton.mpr h) }

def Directory.without (d : Directory K) (removed : List String) : Directory K where
  files := d.files.filter fun f => f.path ∉ removed
  nodup := d.nodup.sublist (List.filter_sublist.map _)

/-! ## What is recorded -/

/-- A call into the recorder. -/
inductive Line (K : Type) where
  | tick
  | event (kind : String) (fields : PyDict K)

/-- A recorder: where it writes, and what it wrote. -/
structure Session (K : Type) where
  path : String
  failed : Bool := false
  closed : Bool := false
  lines : List (Line K) := []

/-- A recorder that has failed or is closed drops what it is handed. -/
def Session.record (r : Session K) (lines : List (Line K)) : Session K :=
  if r.failed || r.closed then r else { r with lines := r.lines ++ lines }

/-- Flags by name. -/
structure Flags (κ : Type) where
  entries : Dict κ Bool := []
  nodup : (entries.map Prod.fst).Nodup := by decide

def Flags.flagged {κ : Type} (f : Flags κ) : List κ :=
  (f.entries.filter fun e => e.2).map Prod.fst

lemma Flags.nodup_flagged {κ : Type} (f : Flags κ) : f.flagged.Nodup :=
  f.nodup.sublist (List.filter_sublist.map _)

/-- What a sweep reads of a drone's telemetry; a position that is missing or not made of
numbers is `none`. -/
structure BreachTel (K : Type) where
  fleet : Option (Point (Double K))
  home : Option (Double K × Double K)

/-- What a sweep reads of the drone manager. -/
structure ManagerView (K : Type) where
  telemetry : Dict Nat (BreachTel K) := []
  proximityBreaches : Flags Pair := {}
  geofenceBreaches : Flags Nat := {}
  geofenceWarnings : Flags Nat := {}
  geofenceRadius : Option K := none
  softGeofenceRadius : Option K := none

def pairDistance [Field K] [LinearOrder K] [Sqrt K] (tel : Dict Nat (BreachTel K)) (pair : Pair) :
    Double K :=
  match (find tel pair.1).bind BreachTel.fleet, (find tel pair.2).bind BreachTel.fleet with
  | some a, some b => Double.norm [a.1.sub b.1, a.2.1.sub b.2.1, a.2.2.sub b.2.2]
  | _, _ => .nan

def homeDistance [Field K] [LinearOrder K] [Sqrt K] (tel : Dict Nat (BreachTel K)) (drone : Nat) :
    Double K :=
  match (find tel drone).bind BreachTel.home with
  | some p => Double.norm [p.1, p.2]
  | none => .nan

def distanceField [Field K] [LinearOrder K] [FloorRing K] : Double K → PyVal K
  | .finite x => .float (roundTo 3 x)
  | .inf negative => .inf negative
  | .nan => .nan

def proximityKind (cleared : Bool) : String :=
  if cleared then "proximity_clear" else "proximity_breach"

/-- `record_proximity_breach`. -/
def proximityLine [Field K] [LinearOrder K] [FloorRing K] (pair : Pair) (distance : Double K)
    (cleared : Bool) : Line K :=
  .event (proximityKind cleared)
    [("drones", .list [.int pair.1, .int pair.2]), ("distance_m", distanceField distance)]

/-- A fence: the hard one and the one that only warns. -/
inductive Fence where
  | hard | soft

def Fence.name : Fence → String
  | .hard => "hard"
  | .soft => "soft"

def geofenceKind (level : Fence) (cleared : Bool) : String :=
  "geofence_" ++ level.name ++ "_" ++ if cleared then "clear" else "breach"

section

variable [Field K] [LinearOrder K]

/-- `record_geofence`. -/
def geofenceLine [FloorRing K] (drone : Nat) (level : Fence)
    (distance : Double K) (limit : Option K) (cleared : Bool) : Line K :=
  .event (geofenceKind level cleared)
    [("drone", .int drone), ("distance_m", distanceField distance),
      ("limit_m", limit.elim .none .float)]

/-- `record_fsm_transition`, of an audit record. -/
def transitionLine (entry : PyDict K) : Line K :=
  .event (if truthy ((find entry "accepted").getD (.bool true)) then "fsm_transition"
      else "fsm_rejected")
    (entry.filter fun e => e.1 ≠ "ts" ∧ e.1 ≠ "time")

/-- `status < 400`, where it does not raise. -/
def belowFourHundred : PyVal K → Option Bool
  | .bool _ => some true
  | .int n => some (n < 400)
  | .float x => some (x < 400)
  | .inf negative => some negative
  | .nan => some false
  | _ => none

/-- `_on_audit`: the event of an entry, unless the call raises. `str` is what a value reads
as in an f-string. -/
def auditLine (str : PyVal K → String) (entry : PyDict K) : Option (Line K) := do
  let fields := remove (remove entry "ts") "event"
  match find (remove entry "ts") "event" with
  | some (.str "command") =>
    let method := (find fields "method").getD (.str "")
    let path := (find fields "path").getD (.str "")
    let status := (find fields "status").getD (.int 0)
    let fields := removeAll fields ["method", "path", "status"]
    let accepted ← belowFourHundred status
    -- a field that is also named in the call is a `TypeError`
    if fields.any fun e => e.1 ∈ ["command", "trigger", "accepted"] then none
    else some (.event "command" ([("command", path),
      ("trigger", .str (str method ++ " " ++ str path)), ("accepted", .bool accepted),
      ("status", status)] ++ fields))
  | event =>
    if fields.any fun e => e.1 = "audit_event" then none
    else some (.event "audit" (("audit_event", event.getD .none) :: fields))

end

/-! ## The service -/

structure ServiceConfig (K : Type) where
  maxTotalMb : K
  fileMb : K
  enabled : Bool := true

def sampleHz : Nat := 10

def retryAfterFailureS : Nat := 60

def ServiceConfig.maxTotalBytes [Field K] [LinearOrder K] [FloorRing K] (cfg : ServiceConfig K) : ℤ :=
  trunc (cfg.maxTotalMb * 1024 * 1024)

def ServiceConfig.fileBytes [Field K] [LinearOrder K] [FloorRing K] (cfg : ServiceConfig K) : ℤ :=
  trunc (min cfg.fileMb (cfg.maxTotalMb / 4) * 1024 * 1024)

/-- `_finish_session`: the recorder that was rotated out, closed first, and the file the
prune behind it keeps. An abandoned one has been given up by `stop`; its worker goes on with
what it had begun. -/
structure Finishing (K : Type) where
  old : Session K
  keep : String
  abandoned : Bool := false

/-- How far the service is: not started, with its task running, in `stop` before and after
the observers are taken off, and stopped. -/
inductive Phase where
  | idle | running | cancelled | detached | stopped
  deriving DecidableEq

/-- The breaches that the current file tells of. -/
structure Swept where
  prox : List Pair := []
  hard : List Nat := []
  soft : List Nat := []

/-- The service, with what the files it no longer writes hold. -/
structure Service (K : Type) where
  directory : Directory K
  dm : ManagerView K
  phase : Phase := .idle
  recorder : Option (Session K) := none
  finishing : Option (Finishing K) := none
  ended : List (List (Line K)) := []
  nextSample : K
  retryAt : K
  sessions : Nat := 0
  swept : Swept := {}

def newService [Field K] (directory : Directory K) (dm : ManagerView K) : Service K where
  directory := directory
  dm := dm
  nextSample := 0
  retryAt := 0

/-- What can happen: the calls of the service, what the drone manager and the directory
become meanwhile, and a write that fails. -/
inductive ServiceLabel (K : Type) where
  | start (removable : String → Bool) (created : Option (SessionFile K))
  | poll (now : K) (bytesWritten : Nat) (removable : String → Bool)
      (created : Option (SessionFile K))
  | fsm (entry : PyDict K)
  | audit (entry : PyDict K)
  | watch (dm : ManagerView K)
  | disk (directory : Directory K)
  | fail
  | closeOld (ok : Bool)
  | pruneOld (removable : String → Bool)
  | cancel
  | detach
  | giveUp
  | close

section Step

variable [Field K] [LinearOrder K]

def edgeLines {κ : Type} (line : κ → Bool → Line K) (edges : List (Edge κ)) : List (Line K) :=
  edges.map fun e =>
    match e with
    | .up k => line k false
    | .down k => line k true

/-- The order of `sorted` on pairs. -/
def pairLe (a b : Pair) : Prop := a.1 < b.1 ∨ (a.1 = b.1 ∧ a.2 ≤ b.2)

instance : DecidableRel pairLe := fun _ _ => inferInstanceAs (Decidable (_ ∨ _))

/-- What `_poll_breaches` remembers. -/
def sweptOf (dm : ManagerView K) : Swept where
  prox := dm.proximityBreaches.flagged
  hard := dm.geofenceBreaches.flagged
  soft := dm.geofenceWarnings.flagged

variable [FloorRing K]

/-- `_open_session`: the directory is pruned before there is a new file, and no file is
kept. It gives the path of the new file, unless none could be created. -/
def openSession (cfg : ServiceConfig K) (removable : String → Bool)
    (created : Option (SessionFile K)) (s : Service K) : Service K × Option String :=
  let directory := s.directory.without
    (pruneSessions removable s.directory (cfg.maxTotalBytes - cfg.fileBytes) none)
  match created with
  | none => ({ s with directory := directory }, none)
  | some f =>
    match directory.create f with
    | none => ({ s with directory := directory }, none)
    | some directory =>
      ({ s with
        directory := directory
        recorder := some { path := f.path }
        sessions := s.sessions + 1
        swept := {} }, some f.path)

/-- `_rotate`, of the recorder `old`. -/
def rotate (cfg : ServiceConfig K) (removable : String → Bool) (created : Option (SessionFile K))
    (old : Session K) (s : Service K) : Service K :=
  match openSession cfg removable created s with
  | (s, none) => { s with recorder := some old }
  | (s, some path) =>
    { s with
      finishing := some { old := old, keep := path }
      ended := s.ended ++ [old.lines] }

section

variable (cfg : ServiceConfig K) (removable : String → Bool) (created : Option (SessionFile K))

lemma openSession_cases (s : Service K) :
    (∃ d, openSession cfg removable created s = ({ s with directory := d }, none)) ∨
      ∃ d path, openSession cfg removable created s = ({ s with
        directory := d
        recorder := some { path := path }
        sessions := s.sessions + 1
        swept := {} }, some path) := by
  unfold openSession
  cases created with
  | none => exact .inl ⟨_, rfl⟩
  | some f =>
    dsimp only
    cases Directory.create _ f with
    | none => exact .inl ⟨_, rfl⟩
    | some d => exact .inr ⟨d, f.path, rfl⟩

lemma rotate_cases (old : Session K) (s : Service K) :
    (∃ d, rotate cfg removable created old s = { s with directory := d, recorder := some old }) ∨
      ∃ d path, rotate cfg removable created old s = { s with
        directory := d
        recorder := some { path := path }
        finishing := some { old := old, keep := path }
        ended := s.ended ++ [old.lines]
        sessions := s.sessions + 1
        swept := {} } := by
  unfold rotate
  rcases openSession_cases cfg removable created s with ⟨d, ho⟩ | ⟨d, path, ho⟩
  · rw [ho]
    exact .inl ⟨d, rfl⟩
  · rw [ho]
    exact .inr ⟨d, path, rfl⟩

end

variable [Sqrt K]

/-- What `_poll_breaches` records. -/
def sweepLines (dm : ManagerView K) (before : Swept) : List (Line K) :=
  edgeLines (fun pair => proximityLine pair (pairDistance dm.telemetry pair))
      (diff pairLe before.prox dm.proximityBreaches.flagged) ++
    (edgeLines (fun drone =>
        geofenceLine drone .hard (homeDistance dm.telemetry drone) dm.geofenceRadius)
      (diff (· ≤ ·) before.hard dm.geofenceBreaches.flagged) ++
    edgeLines (fun drone =>
        geofenceLine drone .soft (homeDistance dm.telemetry drone) dm.softGeofenceRadius)
      (diff (· ≤ ·) before.soft dm.geofenceWarnings.flagged))

/-- The recorder behind the sweep and the sample of a poll. -/
def polledSession (now : K) (r : Session K) (s : Service K) : Session K :=
  let r := r.record (sweepLines s.dm s.swept)
  if s.nextSample ≤ now then r.record [.tick] else r

def polled (now : K) (r : Session K) (s : Service K) : Service K :=
  { s with
    recorder := some (polledSession now r s)
    swept := sweptOf s.dm
    nextSample :=
      if s.nextSample ≤ now then max (s.nextSample + 1 / sampleHz) (now - 1 / sampleHz)
      else s.nextSample }

/-- Whether `_poll` rotates the recorder `r`. -/
def rotates (cfg : ServiceConfig K) (now : K) (bytesWritten : Nat) (r : Session K)
    (s : Service K) : Bool :=
  if r.failed then s.retryAt ≤ now else cfg.fileBytes ≤ bytesWritten

def poll (cfg : ServiceConfig K) (now : K) (bytesWritten : Nat) (removable : String → Bool)
    (created : Option (SessionFile K)) (r : Session K) (s : Service K) : Service K :=
  if r.failed then
    if rotates cfg now bytesWritten r s then
      rotate cfg removable created r { s with retryAt := now + retryAfterFailureS }
    else s
  else if rotates cfg now bytesWritten r s then
    rotate cfg removable created (polledSession now r s) (polled now r s)
  else polled now r s

def onFsm (entry : PyDict K) (r : Session K) (s : Service K) : Service K :=
  { s with
    recorder := some ((r.record (sweepLines s.dm s.swept)).record [transitionLine entry])
    swept := sweptOf s.dm }

def onAudit (str : PyVal K → String) (entry : PyDict K) (r : Session K) (s : Service K) : Service K :=
  { s with recorder := some (r.record (auditLine str entry).toList) }

def Service.observes (s : Service K) : Bool := s.phase = .running || s.phase = .cancelled

/-- A step of the service, with the paths that it removed. -/
def serviceStep (str : PyVal K → String) (cfg : ServiceConfig K) :
    System (Service K) (ServiceLabel K) String := fun s l =>
  match l with
  | .start removable created =>
    if s.phase = .idle ∧ cfg.enabled then
      let removed := pruneSessions removable s.directory (cfg.maxTotalBytes - cfg.fileBytes) none
      match openSession cfg removable created s with
      | (s, none) => some (s, removed)
      | (s, some _) => some ({ s with phase := .running }, removed)
    else none
  | .poll now bytesWritten removable created =>
    if s.phase = .running ∧ s.finishing.isNone then
      match s.recorder with
      | none => some (s, [])
      | some r =>
        some (poll cfg now bytesWritten removable created r s,
          if rotates cfg now bytesWritten r s then
            pruneSessions removable s.directory (cfg.maxTotalBytes - cfg.fileBytes) none
          else [])
    else none
  | .fsm entry =>
    if s.observes then some (s.recorder.elim s fun r => onFsm entry r s, []) else none
  | .audit entry =>
    if s.observes then some (s.recorder.elim s fun r => onAudit str entry r s, []) else none
  | .watch dm => some ({ s with dm := dm }, [])
  | .disk directory => some ({ s with directory := directory }, [])
  | .fail => some ({ s with recorder := s.recorder.map fun r => { r with failed := true } }, [])
  | .closeOld ok =>
    match s.finishing with
    | none => none
    | some f =>
      if f.old.closed then none
      -- nothing follows a close that raised, or one that `stop` has given up
      else if ok && !f.abandoned then
        some ({ s with finishing := some { f with old := { f.old with closed := true } } }, [])
      else some ({ s with finishing := none }, [])
  | .pruneOld removable =>
    match s.finishing with
    | none => none
    | some f =>
      if f.old.closed then
        let removed := pruneSessions removable s.directory cfg.maxTotalBytes (some f.keep)
        some ({ s with directory := s.directory.without removed, finishing := none }, removed)
      else none
  | .cancel => if s.phase = .running then some ({ s with phase := .cancelled }, []) else none
  | .detach => if s.phase = .cancelled then some ({ s with phase := .detached }, []) else none
  | .giveUp =>
    match s.finishing with
    | none => none
    | some f =>
      if s.phase = .detached ∧ !f.abandoned then
        some ({ s with finishing := some { f with abandoned := true } }, [])
      else none
  | .close =>
    if s.phase = .detached ∧ s.finishing.all Finishing.abandoned then
      some ({ s with
        phase := .stopped
        recorder := none
        ended := s.ended ++ s.recorder.toList.map Session.lines }, [])
    else none

variable {str : PyVal K → String} {cfg : ServiceConfig K}

/-- What each step comes to when it is taken. -/
inductive Served (str : PyVal K → String) (cfg : ServiceConfig K) (s : Service K) :
    ServiceLabel K → Service K → List String → Prop
  | unopened {removable created} (d : Directory K) (idle : s.phase = .idle) :
      Served str cfg s (.start removable created) { s with directory := d }
        (pruneSessions removable s.directory (cfg.maxTotalBytes - cfg.fileBytes) none)
  | started {removable created} (d : Directory K) (path : String) (idle : s.phase = .idle) :
      Served str cfg s (.start removable created)
        { s with
          phase := .running
          directory := d
          recorder := some { path := path }
          sessions := s.sessions + 1
          swept := {} }
        (pruneSessions removable s.directory (cfg.maxTotalBytes - cfg.fileBytes) none)
  | unpolled {now bytesWritten removable created} (recorder : s.recorder = none) :
      Served str cfg s (.poll now bytesWritten removable created) s []
  | polled (now bytesWritten removable created) (r : Session K) (recorder : s.recorder = some r)
      (finished : s.finishing = none) :
      Served str cfg s (.poll now bytesWritten removable created)
        (poll cfg now bytesWritten removable created r s)
        (if rotates cfg now bytesWritten r s then
          pruneSessions removable s.directory (cfg.maxTotalBytes - cfg.fileBytes) none
        else [])
  | fsm (entry : PyDict K) :
      Served str cfg s (.fsm entry) (s.recorder.elim s fun r => onFsm entry r s) []
  | audit (entry : PyDict K) :
      Served str cfg s (.audit entry) (s.recorder.elim s fun r => onAudit str entry r s) []
  | watch (dm : ManagerView K) : Served str cfg s (.watch dm) { s with dm := dm } []
  | disk (directory : Directory K) :
      Served str cfg s (.disk directory) { s with directory := directory } []
  | fail : Served str cfg s .fail
      { s with recorder := s.recorder.map fun r => { r with failed := true } } []
  | closed {ok} (f : Finishing K) (finishing : s.finishing = some f) (kept : f.abandoned = false) :
      Served str cfg s (.closeOld ok)
        { s with finishing := some { f with old := { f.old with closed := true } } } []
  | unclosed {ok} : Served str cfg s (.closeOld ok) { s with finishing := none } []
  | pruned {removable} (f : Finishing K) (finishing : s.finishing = some f)
      (closed : f.old.closed = true) :
      Served str cfg s (.pruneOld removable)
        { s with
          directory := s.directory.without
            (pruneSessions removable s.directory cfg.maxTotalBytes (some f.keep))
          finishing := none }
        (pruneSessions removable s.directory cfg.maxTotalBytes (some f.keep))
  | cancelled : Served str cfg s .cancel { s with phase := .cancelled } []
  | detached : Served str cfg s .detach { s with phase := .detached } []
  | givenUp (f : Finishing K) (finishing : s.finishing = some f) (detached : s.phase = .detached) :
      Served str cfg s .giveUp { s with finishing := some { f with abandoned := true } } []
  | stopped (abandoned : s.finishing.all Finishing.abandoned = true) : Served str cfg s .close
        { s with
          phase := .stopped
          recorder := none
          ended := s.ended ++ s.recorder.toList.map Session.lines } []

lemma served_of_step {s t : Service K} {l : ServiceLabel K} {o : List String}
    (h : serviceStep str cfg s l = some (t, o)) : Served str cfg s l t o := by
  cases l with
  | start removable created =>
    rw [serviceStep] at h
    split_ifs at h with hguard
    rcases openSession_cases cfg removable created s with ⟨d, ho⟩ | ⟨d, path, ho⟩
    · rw [ho] at h
      cases h
      exact .unopened d hguard.1
    · rw [ho] at h
      cases h
      exact .started d path hguard.1
  | poll now bytesWritten removable created =>
    rw [serviceStep] at h
    split_ifs at h with hguard
    cases hr : s.recorder with
    | none =>
      rw [hr] at h
      cases h
      exact .unpolled hr
    | some r =>
      rw [hr] at h
      cases h
      exact .polled now bytesWritten removable created r hr (Option.isNone_iff_eq_none.mp hguard.2)
  | fsm entry =>
    rw [serviceStep] at h
    split_ifs at h
    cases h
    exact .fsm entry
  | audit entry =>
    rw [serviceStep] at h
    split_ifs at h
    cases h
    exact .audit entry
  | watch dm =>
    cases h
    exact .watch dm
  | disk directory =>
    cases h
    exact .disk directory
  | fail =>
    cases h
    exact .fail
  | closeOld ok =>
    rw [serviceStep] at h
    cases hf : s.finishing with
    | none =>
      rw [hf] at h
      cases h
    | some f =>
      simp only [hf] at h
      split_ifs at h with hclosed hok
      · cases h
        exact .closed f hf (by simpa using (Bool.and_eq_true _ _).mp hok |>.2)
      · cases h
        exact .unclosed
  | pruneOld removable =>
    rw [serviceStep] at h
    cases hf : s.finishing with
    | none =>
      rw [hf] at h
      cases h
    | some f =>
      simp only [hf] at h
      split_ifs at h with hclosed
      cases h
      exact .pruned f hf hclosed
  | cancel =>
    rw [serviceStep] at h
    split_ifs at h
    cases h
    exact .cancelled
  | detach =>
    rw [serviceStep] at h
    split_ifs at h
    cases h
    exact .detached
  | giveUp =>
    rw [serviceStep] at h
    cases hf : s.finishing with
    | none =>
      rw [hf] at h
      cases h
    | some f =>
      simp only [hf] at h
      split_ifs at h with hguard
      cases h
      exact .givenUp f hf hguard.1
  | close =>
    rw [serviceStep] at h
    split_ifs at h with hguard
    cases h
    exact .stopped hguard.2

end Step

end Taramandal.Gcs.BlackboxService
