import Taramandal.Gcs.State

/-! # Staging a show on the drones (`drone_manager.py`, `upload_show`)

`upload_show` compiles every drone's mission into a fresh directory, sets the
staged show, and only then awaits: each drone's file is transferred over MAVLink
FTP, and the drone's copy compared with the local one by its CRC-32. A later
upload takes the directory of an earlier one away, so what is left of the
earlier one fails at its next look at a local file. -/
namespace Taramandal.Gcs.Staging

open Lib.Dict Core.Values Core.Shows Core.Safety Core.Mission Gcs.StartBridge
open Gcs.Geofence Gcs.State

def uploadConcurrency : Nat := 5

def uploadTimeoutS : ℚ := 60

def missionRemoteDir : String := "/fs/microsd/tara"

/-- The parts of `MISSION_REMOTE_DIR`, each made in turn. -/
def remoteDirParts : List String := ["fs", "microsd", "tara"]

def missionFileName : String := "show.tmsn"

/-- Compile and write one file per drone. A mission that does not compile leaves
the files before it. -/
def compileAll (showId : ShowId) (dir : Nat) :
    Plan ℚ → Dict (Nat × Nat) Bytes → Dict (Nat × Nat) Bytes × Except String (Dict Nat MissionEntry)
  | [], files => (files, .ok [])
  | (d, wps) :: rest, files =>
    match padOffset d with
    | .error e => (files, .error e)
    | .ok pad =>
      match compileMission wps d showId pad with
      | .error e => (files, .error e.text)
      | .ok blob =>
        let entry : MissionEntry :=
          { status := .pending, bytes := blob.length, crc32 := crcText (missionCrc32 blob), msg := "" }
        let r := compileAll showId dir rest (assign files (dir, d) blob)
        (r.1, r.2.map fun entries => (d, entry) :: entries)

def excludedDrones (m : DroneManager) (assignment : Plan ℚ) : Dict Nat String :=
  (m.drones.filter fun d => !has assignment d).map fun d =>
    (d, if (m.telemetry d).connected then "no trajectory slot (unhealthy, or surplus to the show)"
      else "disconnected")

/-- `shutil.rmtree` of the last upload's directory, and `tempfile.mkdtemp`. -/
def freshMissionDir (s : Staging) : Staging :=
  { s with
    files := s.files.filter fun e => some e.1.1 ≠ s.missionDir
    missionDir := some s.nextDir
    nextDir := s.nextDir + 1 }

/-- `upload_show` up to its first await, and the error it raised. -/
def uploadShow (setup : Setup) (m : DroneManager) (trajectory : Show ℚ) :
    DroneManager × Option String :=
  match computeShowId setup.sha256 trajectory with
  | .error e => (m, some e.text)
  | .ok showId =>
    let assignment := remapTrajectoryToHealthyDrones trajectory m.health
    let s := freshMissionDir m.staging
    match compileAll showId m.staging.nextDir assignment s.files with
    | (files, .error e) => ({ m with staging := { s with files := files } }, some e)
    | (files, .ok drones) =>
      let staged : StagedShow :=
        { upload := s.uploads.length, showId := showId, trajectory := assignment, drones := drones
          excluded := excludedDrones m assignment }
      let upload : Upload :=
        { dir := m.staging.nextDir, transfers := drones.map fun e => { droneId := e.1 } }
      ({ m with
        stagedShow := some staged
        staging := { s with files := files, uploads := s.uploads ++ [upload] } }, none)

/-! ## Transferring -/

/-- Write to the entry of a drone in the table upload `u` works on. Only the
staged show's table is ever read. -/
def writeEntry (m : DroneManager) (u d : Nat) (f : MissionEntry → MissionEntry) : DroneManager :=
  match m.stagedShow with
  | some staged =>
    if staged.upload = u then
      { m with stagedShow := some { staged with drones := alter staged.drones d f } }
    else m
  | none => m

def endTransfer (m : DroneManager) (u : Nat) (t : Transfer) (status : MissionStatus)
    (msg : String) : DroneManager × Transfer :=
  (writeEntry m u t.droneId fun e => { e with status := status, msg := msg }, { t with pc := .done })

def activeTransfers (up : Upload) : Nat :=
  (up.transfers.filter fun t => t.pc ≠ .queued && t.pc ≠ .done).length

/-- After the `k`-th part of the remote directory. -/
def afterMaking (t : Transfer) (k : Nat) : Transfer :=
  if k + 1 < remoteDirParts.length then { t with pc := .making (k + 1) } else { t with pc := .listing }

def dirMissing (t : Transfer) (e : String) : String :=
  "mission directory " ++ missionRemoteDir ++ " does not exist on the drone and could not be " ++
    "created (listing it failed: " ++ e ++
    (t.lastError.elim "" fun last => "; last create_directory error: " ++ last) ++ ")"

/-- `open(local_path, "rb")` of a file that is gone. -/
def noSuchFile (dir d : Nat) : String :=
  "[Errno 2] No such file or directory: 'tara-missions-" ++ toString dir ++ "/" ++ toString d ++
    "/" ++ missionFileName ++ "'"

section

variable (m : DroneManager) (u dir : Nat) (t : Transfer)

/-- Send the local file. What the drone stores is the file, or what the link
made of it. -/
def sendFile (damaged : Option Bytes) : DroneManager × Transfer :=
  match find m.staging.files (dir, t.droneId) with
  | none => endTransfer m u t .failed (noSuchFile dir t.droneId)
  | some data =>
    ({ m with staging := { m.staging with
        storage := Function.update m.staging.storage t.droneId (some (damaged.getD data)) } },
      { t with pc := .comparing })

def compareFiles : DroneManager × Transfer :=
  match m.staging.storage t.droneId with
  | none =>
    endTransfer m u t .failed ("are_files_identical: " ++ missionRemoteDir ++ "/" ++
      missionFileName ++ " not found on drone " ++ toString t.droneId)
  | some stored =>
    match find m.staging.files (dir, t.droneId) with
    | none => endTransfer m u t .failed (noSuchFile dir t.droneId)
    | some data =>
      if missionCrc32 stored = missionCrc32 data then
        endTransfer m u t .verified "Drone-reported CRC-32 matches the compiled mission."
      else
        endTransfer m u t .mismatch "Drone's stored copy fails the CRC-32 comparison."

def ftpDone : FtpReply → Option (DroneManager × Transfer)
  | .timedOut =>
    if t.deadline ≤ m.monotonic then some (endTransfer m u t .failed "TimeoutError") else none
  | .raised e =>
    match t.pc with
    | .making k => some (m, afterMaking { t with lastError := some e } k)
    | .listing => some (endTransfer m u t .failed (dirMissing t e))
    | _ => some (endTransfer m u t .failed e)
  | .damaged stored =>
    match t.pc with
    | .uploading => some (sendFile m u dir t (some stored))
    | _ => none
  | .ok =>
    match t.pc with
    | .making k => some (m, afterMaking t k)
    | .listing => some (m, { t with pc := .uploading })
    | .uploading => some (sendFile m u dir t none)
    | _ => some (compareFiles m u dir t)

end

/-- `_upload_mission`, from its await to the next one. -/
def uploadMission (m : DroneManager) (u : Nat) (up : Upload) (t : Transfer) (reply : FtpReply) :
    Option (DroneManager × Transfer) :=
  match t.pc with
  | .queued =>
    if activeTransfers up < uploadConcurrency then
      some (writeEntry m u t.droneId fun e => { e with status := .uploading },
        { t with pc := .making 0, deadline := m.monotonic + uploadTimeoutS })
    else none
  | .done => none
  | _ => ftpDone m u up.dir t reply

/-- The `k`-th transfer of upload `u` takes its next step. -/
def stepTransfer (m : DroneManager) (u k : Nat) (reply : FtpReply) :
    Option (DroneManager × List Sent) := do
  let up ← m.staging.uploads[u]?
  let t ← up.transfers[k]?
  let (m', t') ← uploadMission m u up t reply
  return ({ m' with staging := { m'.staging with
    uploads := m'.staging.uploads.set u { up with transfers := up.transfers.set k t' } } }, [])

/-! ## What staging changes -/

def StagingOnly (m m' : DroneManager) : Prop :=
  ∃ stagedShow staging, m' = { m with stagedShow := stagedShow, staging := staging }

lemma uploadShow_only (setup : Setup) (m : DroneManager) (trajectory : Show ℚ) :
    StagingOnly m (uploadShow setup m trajectory).1 := by
  unfold uploadShow
  split
  · exact ⟨_, _, rfl⟩
  · dsimp only
    split <;> exact ⟨_, _, rfl⟩

lemma writeEntry_only (m : DroneManager) (u d : Nat) (f : MissionEntry → MissionEntry) :
    ∃ stagedShow, writeEntry m u d f = { m with stagedShow := stagedShow } := by
  unfold writeEntry
  split
  · split <;> exact ⟨_, rfl⟩
  · exact ⟨_, rfl⟩

/-- A step of one transfer: it moves on; it notes anything but VERIFIED; it sends
the local file, of which the drone stores what the link makes of it; or it finds
the drone's copy to have the local file's CRC-32. -/
inductive TransferStepped (m : DroneManager) (u dir : Nat) (t : Transfer) :
    DroneManager → Transfer → Prop where
  | moved {t'} (drone : t'.droneId = t.droneId) (live : t'.pc ≠ .done) :
      TransferStepped m u dir t m t'
  | noted {f t'} (drone : t'.droneId = t.droneId)
      (status : ∀ e : MissionEntry, (f e).status ≠ .verified) :
      TransferStepped m u dir t (writeEntry m u t.droneId f) t'
  | sent {data} (stored : Bytes) (file : find m.staging.files (dir, t.droneId) = some data) :
      TransferStepped m u dir t
        { m with staging := { m.staging with
          storage := Function.update m.staging.storage t.droneId (some stored) } }
        { t with pc := .comparing }
  | verified {stored data msg} (copy : m.staging.storage t.droneId = some stored)
      (file : find m.staging.files (dir, t.droneId) = some data)
      (crc : missionCrc32 stored = missionCrc32 data) :
      TransferStepped m u dir t
        (writeEntry m u t.droneId fun e => { e with status := .verified, msg := msg })
        { t with pc := .done }

variable {m : DroneManager} {u : Nat} {reply : FtpReply}

variable {t : Transfer} {m' : DroneManager} {k : Nat} {os : List Sent}

lemma endTransfer_stepped {dir : Nat}
    {status : MissionStatus} {msg : String} (h : status ≠ .verified) :
    TransferStepped m u dir t (endTransfer m u t status msg).1 (endTransfer m u t status msg).2 :=
  .noted rfl fun _ => h

lemma sendFile_stepped (m : DroneManager) (u dir : Nat) (t : Transfer) (damaged : Option Bytes) :
    TransferStepped m u dir t (sendFile m u dir t damaged).1 (sendFile m u dir t damaged).2 := by
  unfold sendFile
  split
  · exact endTransfer_stepped (by simp)
  next data hfile => exact .sent (damaged.getD data) hfile

lemma compareFiles_stepped (m : DroneManager) (u dir : Nat) (t : Transfer) :
    TransferStepped m u dir t (compareFiles m u dir t).1 (compareFiles m u dir t).2 := by
  unfold compareFiles
  split
  · exact endTransfer_stepped (by simp)
  next stored hstored =>
    split
    · exact endTransfer_stepped (by simp)
    next data hfile =>
      split
      next hcrc => exact .verified hstored hfile hcrc
      next => exact endTransfer_stepped (by simp)

lemma afterMaking_moved (t : Transfer) (k : Nat) :
    (afterMaking t k).droneId = t.droneId ∧ (afterMaking t k).pc ≠ .done := by
  unfold afterMaking
  split <;> simp

lemma ftpDone_stepped {dir : Nat}
    {r : DroneManager × Transfer} (h : ftpDone m u dir t reply = some r) :
    TransferStepped m u dir t r.1 r.2 := by
  unfold ftpDone at h
  split at h
  · split at h
    · cases h; exact endTransfer_stepped (by simp)
    · cases h
  · split at h
    · cases h; exact .moved (afterMaking_moved _ _).1 (afterMaking_moved _ _).2
    · cases h; exact endTransfer_stepped (by simp)
    · cases h; exact endTransfer_stepped (by simp)
  · split at h
    · cases h; exact sendFile_stepped ..
    · cases h
  · split at h
    · cases h; exact .moved (afterMaking_moved _ _).1 (afterMaking_moved _ _).2
    · cases h; exact .moved rfl (by simp)
    · cases h; exact sendFile_stepped ..
    · cases h; exact compareFiles_stepped ..

lemma stepTransfer_some (h : stepTransfer m u k reply = some (m', os)) :
    ∃ up t m1 t', m.staging.uploads[u]? = some up ∧ up.transfers[k]? = some t ∧ t.pc ≠ .done ∧
      TransferStepped m u up.dir t m1 t' ∧
      m' = { m1 with staging := { m1.staging with
        uploads := m1.staging.uploads.set u { up with transfers := up.transfers.set k t' } } } := by
  simp only [stepTransfer, Option.bind_eq_bind, Option.bind_eq_some_iff] at h
  obtain ⟨up, hup, t, ht, ⟨m1, t'⟩, hstep, h⟩ := h
  cases h
  refine ⟨up, t, m1, t', hup, ht, ?_⟩
  unfold uploadMission at hstep
  split at hstep
  next hpc =>
    split at hstep
    · cases hstep
      exact ⟨by simp [hpc], .noted rfl fun _ => by simp, rfl⟩
    · cases hstep
  · cases hstep
  next hlive => exact ⟨hlive, ftpDone_stepped hstep, rfl⟩

lemma stepTransfer_only (h : stepTransfer m u k reply = some (m', os)) : StagingOnly m m' := by
  obtain ⟨up, t, m1, t', -, -, -, hs, rfl⟩ := stepTransfer_some h
  cases hs with
  | moved => exact ⟨_, _, rfl⟩
  | noted =>
    obtain ⟨_, hm1⟩ := writeEntry_only m u t.droneId _
    rw [hm1]
    exact ⟨_, _, rfl⟩
  | sent => exact ⟨_, _, rfl⟩
  | verified =>
    obtain ⟨_, hm1⟩ := writeEntry_only m u t.droneId _
    rw [hm1]
    exact ⟨_, _, rfl⟩

end Taramandal.Gcs.Staging
