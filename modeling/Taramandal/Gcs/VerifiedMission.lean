import Taramandal.Gcs.LoadedShow

/-! # What a verified drone stores

Every upload writes its missions to a directory of its own and takes the one
before away, so of all the transfers under way only those of the last upload
still find a file to send, and each drone has one of these. What it stores can
therefore change only before its comparison. -/
namespace Taramandal.Gcs.VerifiedMission

open Lib.Run Lib.Dict Lib.Check Core.Values Core.Geometry Core.Shows Core.Safety Core.Mission
open Gcs.StartBridge Gcs.Geofence Gcs.State Gcs.Staging
open Gcs.Launch Gcs.Fleet Gcs.LoadedShow

/-- The mission a plan compiles to for drone `d`, in the frame of its pad. -/
def missionOf (showId : ShowId) (plan : Plan ℚ) (d : Nat) : Option Bytes :=
  (find plan d).bind fun wps => (padOffset d : Except String (ℚ × ℚ)).toOption.bind fun pad =>
    (compileMission wps d showId pad).toOption

/-- Every drone the staged show lists as VERIFIED stores the mission that was
compiled for it. -/
def VerifiedStored (m : DroneManager) : Prop :=
  ∀ staged, m.stagedShow = some staged → ∀ d e, find staged.drones d = some e →
    e.status = .verified → ∃ blob, missionOf staged.showId staged.trajectory d = some blob ∧
      m.staging.storage d = some blob

/-- No drone stores anything else with the CRC-32 of a local mission file of it. -/
def NoCollision (m : DroneManager) : Prop :=
  ∀ e ∈ m.staging.files, ∀ stored ∈ m.staging.storage e.1.2,
    missionCrc32 stored = missionCrc32 e.2 → stored = e.2

instance (m : DroneManager) : Decidable (NoCollision m) :=
  inferInstanceAs (Decidable (∀ e ∈ m.staging.files, ∀ stored ∈ m.staging.storage e.1.2, _))

/-! ## Compiling a show -/

lemma remap_nodup (trajectory : Show ℚ) (m : DroneManager) :
    ((remapTrajectoryToHealthyDrones trajectory m.health).map Prod.fst).Nodup := by
  have hkeys : ∀ (slots : List (Nat × List (Waypoint ℚ))) (ids : List Nat), ids.Nodup →
      ((List.zipWith (fun slot d => (d, slot.2)) slots ids).map Prod.fst).Nodup := by
    intro slots ids h
    refine List.Nodup.sublist ?_ h
    rw [List.map_zipWith]
    induction slots generalizing ids with
    | nil => simp
    | cons slot slots ih =>
      cases ids with
      | nil => simp
      | cons d ids => exact (ih ids (List.nodup_cons.mp h).2).cons_cons d
  refine hkeys _ _ ?_
  have hdrones : (m.health.map Health.drone).Nodup := by
    simpa [DroneManager.health, Function.comp_def] using m.drones_nodup
  unfold healthyIds
  rw [(List.perm_insertionSort _ _).nodup_iff]
  exact hdrones.sublist (List.filter_sublist.map _)

-- what the pads are does not matter here, and computing them would
attribute [local irreducible] padOffset in
lemma compileAll_eq (showId : ShowId) (dir d : Nat) (wps : List (Waypoint ℚ)) (plan : Plan ℚ)
    (files : Dict (Nat × Nat) Bytes) :
    compileAll showId dir ((d, wps) :: plan) files =
      match padOffset d with
      | .error e => (files, .error e)
      | .ok pad =>
        match compileMission wps d showId pad with
        | .error e => (files, .error e.text)
        | .ok blob =>
          let entry : MissionEntry :=
            { status := .pending, bytes := blob.length, crc32 := crcText (missionCrc32 blob), msg := "" }
          let r := compileAll showId dir plan (assign files (dir, d) blob)
          (r.1, r.2.map fun entries => (d, entry) :: entries) := rfl

/-- One drone of a plan: it stops the compilation, or adds its file and its entry. -/
lemma compileAll_cons (showId : ShowId) (dir d : Nat) (wps : List (Waypoint ℚ)) (plan : Plan ℚ)
    (files : Dict (Nat × Nat) Bytes) :
    (∃ e, compileAll showId dir ((d, wps) :: plan) files = (files, .error e)) ∨
    ∃ pad blob entry, (padOffset d : Except String (ℚ × ℚ)) = .ok pad ∧
      compileMission wps d showId pad = .ok blob ∧ entry.status = .pending ∧
      compileAll showId dir ((d, wps) :: plan) files =
        ((compileAll showId dir plan (assign files (dir, d) blob)).1,
          (compileAll showId dir plan (assign files (dir, d) blob)).2.map fun entries =>
            (d, entry) :: entries) := by
  rw [compileAll_eq]
  generalize hpad : (padOffset d : Except String (ℚ × ℚ)) = pad
  cases pad with
  | error e => exact .inl ⟨e, rfl⟩
  | ok pad =>
    dsimp only
    generalize hblob : compileMission wps d showId pad = blob
    cases blob with
    | error e => exact .inl ⟨e.text, rfl⟩
    | ok blob => exact .inr ⟨pad, blob, _, rfl, hblob, rfl, rfl⟩

lemma compileAll_elsewhere (showId : ShowId) {dir dir' : Nat} (h : dir ≠ dir') (d : Nat)
    (plan : Plan ℚ) (files : Dict (Nat × Nat) Bytes) :
    find (compileAll showId dir plan files).1 (dir', d) = find files (dir', d) := by
  induction plan generalizing files with
  | nil => rfl
  | cons slot plan ih =>
    rcases compileAll_cons showId dir slot.1 slot.2 plan files with ⟨e, hc⟩ | ⟨_, _, _, -, -, -, hc⟩
    · rw [hc]
    · rw [hc]
      exact (ih _).trans (find_assign_ne files _ (by simp [h]))

lemma compileAll_entries {showId : ShowId} {dir : Nat} {plan : Plan ℚ}
    {files : Dict (Nat × Nat) Bytes} {entries : Dict Nat MissionEntry}
    (h : (compileAll showId dir plan files).2 = .ok entries) :
    entries.map Prod.fst = plan.map Prod.fst ∧ ∀ e ∈ entries, e.2.status = .pending := by
  induction plan generalizing files entries with
  | nil => cases h; simp
  | cons slot plan ih =>
    rcases compileAll_cons showId dir slot.1 slot.2 plan files with
      ⟨e, hc⟩ | ⟨pad, blob, entry, -, -, hentry, hc⟩
    · rw [hc] at h; cases h
    · rw [hc] at h
      obtain ⟨rest, hrest, rfl⟩ := map_eq_ok.mp h
      obtain ⟨hkeys, hpending⟩ := ih hrest
      refine ⟨by simp [hkeys], fun e he => ?_⟩
      rcases List.mem_cons.mp he with rfl | he
      · exact hentry
      · exact hpending e he

lemma compileAll_files {showId : ShowId} {dir d : Nat} {blob : Bytes} {plan : Plan ℚ}
    {files : Dict (Nat × Nat) Bytes} (hnodup : (plan.map Prod.fst).Nodup)
    (h : find (compileAll showId dir plan files).1 (dir, d) = some blob) :
    missionOf showId plan d = some blob ∨ find files (dir, d) = some blob := by
  induction plan generalizing files with
  | nil => exact .inr h
  | cons slot plan ih =>
    obtain ⟨d0, wps⟩ := slot
    obtain ⟨hfresh, hrest⟩ := List.nodup_cons.mp hnodup
    rcases compileAll_cons showId dir d0 wps plan files with
      ⟨e, hc⟩ | ⟨pad, data, entry, hpad, hdata, -, hc⟩
    · rw [hc] at h; exact .inr h
    · rw [hc] at h
      by_cases hd : d0 = d
      · subst hd
        have hnone : find plan d0 = none := find_eq_none_iff.mpr hfresh
        rcases ih hrest h with h | h
        · simp [missionOf, hnone] at h
        · rw [find_assign_self] at h
          left
          simpa [missionOf, find, hpad, hdata, Except.toOption] using h
      · rcases ih hrest h with h | h
        · left
          simpa [missionOf, find, hd] using h
        · rw [find_assign_ne files data (by simp [hd])] at h
          exact .inr h

/-! ## What staging keeps -/

/-- The upload that set the staged show: the files it left are the missions the
show lists, it has one transfer per drone, and a drone whose transfer is still
under way is not verified. -/
structure Tracks (m : DroneManager) (staged : StagedShow) (up : Upload) : Prop where
  files : ∀ d blob, find m.staging.files (up.dir, d) = some blob →
    missionOf staged.showId staged.trajectory d = some blob
  once : (up.transfers.map Transfer.droneId).Nodup
  live : ∀ t ∈ up.transfers, t.pc ≠ .done → ∀ e, find staged.drones t.droneId = some e →
    e.status ≠ .verified

/-- Local files lie in the last upload's directory, which is no other upload's
than the one that set the staged show. -/
structure Consistent (m : DroneManager) : Prop where
  current : ∀ dir d blob, find m.staging.files (dir, d) = some blob →
    m.staging.missionDir = some dir
  dirs : ∀ dir, m.staging.missionDir = some dir → dir < m.staging.nextDir
  uploads : ∀ up ∈ m.staging.uploads, up.dir < m.staging.nextDir
  tracks : ∀ staged, m.stagedShow = some staged →
    ∃ up, m.staging.uploads[staged.upload]? = some up ∧ Tracks m staged up
  others : ∀ staged, m.stagedShow = some staged → ∀ u up, m.staging.uploads[u]? = some up →
    u ≠ staged.upload → m.staging.missionDir ≠ some up.dir
  stored : VerifiedStored m

lemma Consistent.congr {m m' : DroneManager} (h : Consistent m)
    (hstaged : m'.stagedShow = m.stagedShow) (hstaging : m'.staging = m.staging) :
    Consistent m' where
  current := by rw [hstaging]; exact h.current
  dirs := by rw [hstaging]; exact h.dirs
  uploads := by rw [hstaging]; exact h.uploads
  tracks staged hs := by
    obtain ⟨up, hup, htracks⟩ := h.tracks staged (hstaged ▸ hs)
    exact ⟨up, by rw [hstaging]; exact hup, by rw [hstaging]; exact htracks.files,
      htracks.once, htracks.live⟩
  others := by rw [hstaged, hstaging]; exact h.others
  stored := by
    unfold VerifiedStored
    rw [hstaged, hstaging]
    exact h.stored

lemma Consistent.fresh_none {m : DroneManager} (h : Consistent m) (k : Nat × Nat) :
    find (freshMissionDir m.staging).files k = none := by
  refine find_eq_none_iff.mpr fun hk => ?_
  obtain ⟨e, he, rfl⟩ := List.mem_map.mp hk
  obtain ⟨hmem, hdir⟩ := List.mem_filter.mp he
  obtain ⟨blob, hblob⟩ : ∃ blob, find m.staging.files e.1 = some blob :=
    Option.ne_none_iff_exists'.mp fun hn =>
      find_eq_none_iff.mp hn (List.mem_map.mpr ⟨e, hmem, rfl⟩)
  simp [h.current _ _ _ hblob] at hdir

lemma Consistent.compiled {m : DroneManager} (h : Consistent m) (showId : ShowId)
    (trajectory : Show ℚ) (dir d : Nat) (blob : Bytes)
    (hblob : find (compileAll showId m.staging.nextDir
      (remapTrajectoryToHealthyDrones trajectory m.health) (freshMissionDir m.staging).files).1
        (dir, d) = some blob) :
    dir = m.staging.nextDir ∧
      missionOf showId (remapTrajectoryToHealthyDrones trajectory m.health) d = some blob := by
  by_cases hdir : m.staging.nextDir = dir
  · subst hdir
    rcases compileAll_files (remap_nodup trajectory m) hblob with hm | hm
    · exact ⟨rfl, hm⟩
    · rw [h.fresh_none] at hm
      cases hm
  · rw [compileAll_elsewhere showId hdir, h.fresh_none] at hblob
    cases hblob

lemma uploadShow_consistent (setup : Setup) {m : DroneManager} (trajectory : Show ℚ)
    (h : Consistent m) : Consistent (uploadShow setup m trajectory).1 := by
  unfold uploadShow
  split
  · exact h
  next showId _ =>
    dsimp only
    have hfiles := h.compiled showId trajectory
    have hentries := @compileAll_entries showId m.staging.nextDir
      (remapTrajectoryToHealthyDrones trajectory m.health) (freshMissionDir m.staging).files
    have hne : ∀ up ∈ m.staging.uploads, m.staging.nextDir ≠ up.dir :=
      fun up hup => (h.uploads up hup).ne'
    revert hfiles hentries
    generalize compileAll showId m.staging.nextDir
      (remapTrajectoryToHealthyDrones trajectory m.health) (freshMissionDir m.staging).files = r
    obtain ⟨files, outcome⟩ := r
    intro hfiles hentries
    cases outcome with
    | error e =>
      refine ⟨fun dir d blob hblob => by rw [(hfiles dir d blob hblob).1]; rfl, ?_, ?_, ?_, ?_,
        h.stored⟩
      · intro dir hdir
        cases hdir
        exact Nat.lt_succ_self _
      · intro up hup
        exact (h.uploads up hup).trans (Nat.lt_succ_self _)
      · intro staged hs
        obtain ⟨up, hup, htracks⟩ := h.tracks staged hs
        refine ⟨up, hup, fun d blob hblob => ?_, htracks.once, htracks.live⟩
        exact absurd (hfiles _ _ _ hblob).1.symm (hne up (List.mem_of_getElem? hup))
      · intro staged _ u up hup _ hdir
        exact hne up (List.mem_of_getElem? hup) (Option.some.inj hdir)
    | ok entries =>
      obtain ⟨hkeys, hpending⟩ := hentries rfl
      have hnot : ∀ d e, find entries d = some e → e.status ≠ .verified := by
        intro d e he hv
        rw [hpending _ (mem_of_find he)] at hv
        cases hv
      refine ⟨fun dir d blob hblob => by rw [(hfiles dir d blob hblob).1]; rfl, ?_, ?_, ?_, ?_, ?_⟩
      · intro dir hdir
        cases hdir
        exact Nat.lt_succ_self _
      · intro up hup
        rcases List.mem_append.mp hup with hup | hup
        · exact (h.uploads up hup).trans (Nat.lt_succ_self _)
        · rw [List.mem_singleton.mp hup]
          exact Nat.lt_succ_self _
      · intro staged hs
        cases hs
        refine ⟨_, List.getElem?_concat_length, fun d blob hblob => (hfiles _ _ _ hblob).2, ?_,
          fun t _ _ e he => hnot _ e he⟩
        have hdrones : (entries.map fun e => ({ droneId := e.1 } : Transfer)).map Transfer.droneId =
            entries.map Prod.fst := by simp
        rw [hdrones, hkeys]
        exact remap_nodup trajectory m
      · intro staged hs u up hup hu hdir
        cases hs
        have hup' : (m.staging.uploads ++ [_])[u]? = some up := hup
        rw [List.getElem?_append] at hup'
        split at hup'
        · exact hne up (List.mem_of_getElem? hup') (Option.some.inj hdir)
        next hge =>
          have hlt : u - m.staging.uploads.length < 1 := by
            simpa using (List.getElem?_eq_some_iff.mp hup').1
          exact hu (by show u = m.staging.uploads.length; omega)
      · intro staged hs d e he hv
        cases hs
        exact absurd hv (hnot d e he)

lemma writeEntry_staged {m : DroneManager} {u d : Nat} {f : MissionEntry → MissionEntry}
    {staged' : StagedShow} (h : (writeEntry m u d f).stagedShow = some staged') :
    ∃ staged, m.stagedShow = some staged ∧ staged'.upload = staged.upload ∧
      staged'.showId = staged.showId ∧ staged'.trajectory = staged.trajectory ∧
      (∀ d', (staged.upload = u → d' ≠ d) → find staged'.drones d' = find staged.drones d') ∧
      (staged.upload = u → find staged'.drones d = (find staged.drones d).map f) := by
  unfold writeEntry at h
  split at h
  next _ staged hstaged =>
    split at h
    next hu =>
      cases h
      refine ⟨staged, hstaged, rfl, rfl, rfl, fun d' hd' => ?_, fun _ => ?_⟩
      · rw [find_alter, if_neg (hd' hu)]
      · rw [find_alter, if_pos rfl]
    next hu =>
      rw [hstaged] at h
      cases h
      exact ⟨_, hstaged, rfl, rfl, rfl, fun _ _ => rfl, fun he => absurd he hu⟩
  next hnone => rw [hnone] at h; cases h

section Transfer

variable {m : DroneManager} {u k : Nat} {up : Upload} {t t' : Transfer}

variable {m' : DroneManager} {staged : StagedShow}

lemma Tracks.transferred {staged' : StagedShow}
    (h : Tracks m staged up) (ht : up.transfers[k]? = some t) (hdrone : t'.droneId = t.droneId)
    (hfiles : m'.staging.files = m.staging.files) (hshow : staged'.showId = staged.showId)
    (hplan : staged'.trajectory = staged.trajectory)
    (hsame : ∀ d', d' ≠ t.droneId → find staged'.drones d' = find staged.drones d')
    (hentry : t'.pc ≠ .done → ∀ e, find staged'.drones t.droneId = some e → e.status ≠ .verified) :
    Tracks m' staged' { up with transfers := up.transfers.set k t' } := by
  obtain ⟨hk, htk⟩ := List.getElem?_eq_some_iff.mp ht
  have hset : (up.transfers.set k t').map Transfer.droneId = up.transfers.map Transfer.droneId := by
    have hid := @List.set_getElem_self _ (up.transfers.map Transfer.droneId) k (by simpa using hk)
    rwa [List.getElem_map, htk, ← hdrone, ← List.map_set] at hid
  refine ⟨?_, by rw [hset]; exact h.once, ?_⟩
  · rw [hfiles, hshow, hplan]
    exact h.files
  · intro t2 ht2 hlive e he
    obtain ⟨j, hj⟩ := List.getElem?_of_mem ht2
    by_cases hjk : k = j
    · rw [← hjk, List.getElem?_set_self hk] at hj
      cases hj
      exact hentry hlive e (hdrone ▸ he)
    · rw [List.getElem?_set_ne hjk] at hj
      have hd : t2.droneId ≠ t.droneId := by
        intro hd
        refine hjk ((List.getElem?_inj (by simpa using hk) h.once).mp ?_)
        simp [ht, hj, hd]
      rw [hsame _ hd] at he
      exact h.live t2 (List.mem_of_getElem? hj) hlive e he

section

variable (h : Consistent m) (hup : m.staging.uploads[u]? = some up)
include h hup

/-- What a transfer's step keeps, given what it does to the staged show's table
and that what is verified is stored after it. -/
lemma Consistent.transferred (ht : up.transfers[k]? = some t)
    (hdrone : t'.droneId = t.droneId) (hfiles : m'.staging.files = m.staging.files)
    (hdir : m'.staging.missionDir = m.staging.missionDir)
    (hnext : m'.staging.nextDir = m.staging.nextDir)
    (huploads : m'.staging.uploads =
      m.staging.uploads.set u { up with transfers := up.transfers.set k t' })
    (hstaged : ∀ staged', m'.stagedShow = some staged' → ∃ staged, m.stagedShow = some staged ∧
      staged'.upload = staged.upload ∧ staged'.showId = staged.showId ∧
      staged'.trajectory = staged.trajectory ∧
      (∀ d', (staged.upload = u → d' ≠ t.droneId) →
        find staged'.drones d' = find staged.drones d') ∧
      (staged.upload = u → t'.pc ≠ .done → ∀ e, find staged'.drones t.droneId = some e →
        e.status ≠ .verified))
    (hstored : VerifiedStored m') : Consistent m' where
  current := by rw [hfiles, hdir]; exact h.current
  dirs := by rw [hdir, hnext]; exact h.dirs
  uploads up' hup' := by
    rw [hnext]
    rw [huploads] at hup'
    rcases List.mem_or_eq_of_mem_set hup' with hup' | rfl
    · exact h.uploads up' hup'
    · exact h.uploads up (List.mem_of_getElem? hup)
  tracks staged' hs' := by
    obtain ⟨staged, hs, hu', hshow, hplan, hsame, hentry⟩ := hstaged staged' hs'
    obtain ⟨up0, hup0, htracks⟩ := h.tracks staged hs
    rw [huploads, hu']
    by_cases hu : staged.upload = u
    · have he : up0 = up := Option.some.inj (hup0.symm.trans (hu ▸ hup))
      subst he
      have hlt : u < m.staging.uploads.length := (List.getElem?_eq_some_iff.mp hup).1
      exact ⟨_, by rw [hu]; exact List.getElem?_set_self hlt, htracks.transferred ht hdrone hfiles
        hshow hplan (fun d' hd' => hsame d' fun _ => hd') (hentry hu)⟩
    · refine ⟨up0, by rw [List.getElem?_set_ne (Ne.symm hu)]; exact hup0, ?_, htracks.once, ?_⟩
      · rw [hfiles, hshow, hplan]
        exact htracks.files
      · intro t2 ht2 hlive e he
        rw [hsame _ fun hu' => absurd hu' hu] at he
        exact htracks.live t2 ht2 hlive e he
  others staged' hs' u' up' hup' hu' := by
    obtain ⟨staged, hs, hu0, -⟩ := hstaged staged' hs'
    rw [hdir]
    rw [huploads] at hup'
    rw [hu0] at hu'
    by_cases huu : u = u'
    · subst huu
      have hlt : u < m.staging.uploads.length := (List.getElem?_eq_some_iff.mp hup).1
      rw [List.getElem?_set_self hlt] at hup'
      cases hup'
      exact h.others staged hs u up hup hu'
    · rw [List.getElem?_set_ne huu] at hup'
      exact h.others staged hs u' up' hup' hu'
  stored := hstored

lemma Consistent.unverified (ht : up.transfers[k]? = some t) (hlive : t.pc ≠ .done)
    (hs : m.stagedShow = some staged) (hu : staged.upload = u) {e : MissionEntry}
    (he : find staged.drones t.droneId = some e) : e.status ≠ .verified := by
  obtain ⟨up0, hup0, htracks⟩ := h.tracks staged hs
  have hsame : up0 = up := Option.some.inj (hup0.symm.trans (hu ▸ hup))
  exact htracks.live t (hsame ▸ List.mem_of_getElem? ht) hlive e he

lemma Consistent.upload_of_file {d : Nat} {blob : Bytes} (hfile : find m.staging.files (up.dir, d) = some blob) (hs : m.stagedShow = some staged) : staged.upload = u := by
  by_cases hu : staged.upload = u
  · exact hu
  · exact absurd (h.current _ _ _ hfile) (h.others staged hs u up hup (Ne.symm hu))

end

lemma transfer_consistent {reply : FtpReply} {os : List Sent}
    (h : Consistent m) (hno : NoCollision m) (hs : stepTransfer m u k reply = some (m', os)) :
    Consistent m' := by
  obtain ⟨up, t, m1, t', hup, ht, hlive, hstep, rfl⟩ := stepTransfer_some hs
  cases hstep with
  | moved hdrone hlive' =>
    refine h.transferred hup ht hdrone rfl rfl rfl rfl (fun staged hs => ?_) h.stored
    exact ⟨staged, hs, rfl, rfl, rfl, fun _ _ => rfl,
      fun hu _ e he => h.unverified hup ht hlive hs hu he⟩
  | @noted f _ hdrone hstatus =>
    obtain ⟨stagedShow, hm1⟩ := writeEntry_only m u t.droneId f
    have hwrite : ∀ staged', stagedShow = some staged' → _ := fun staged' hs' =>
      writeEntry_staged (m := m) (u := u) (d := t.droneId) (f := f) (by rw [hm1]; exact hs')
    rw [hm1]
    refine h.transferred hup ht hdrone rfl rfl rfl rfl (fun staged' hs' => ?_) ?_
    · obtain ⟨staged, hs, hu', hshow, hplan, hsame, hentry⟩ := hwrite staged' hs'
      refine ⟨staged, hs, hu', hshow, hplan, hsame, fun hu _ e he => ?_⟩
      rw [hentry hu] at he
      obtain ⟨e0, -, rfl⟩ := Option.map_eq_some_iff.mp he
      exact hstatus e0
    · intro staged' hs' d e he hv
      obtain ⟨staged, hs, -, hshow, hplan, hsame, hentry⟩ := hwrite staged' hs'
      rw [hshow, hplan]
      by_cases hd : staged.upload = u ∧ d = t.droneId
      · rw [hd.2, hentry hd.1] at he
        obtain ⟨e0, -, rfl⟩ := Option.map_eq_some_iff.mp he
        exact absurd hv (hstatus e0)
      · rw [hsame d fun hu hd' => hd ⟨hu, hd'⟩] at he
        exact h.stored staged hs d e he hv
  | @sent data stored hfile =>
    have hdrone : ({ t with pc := .comparing } : Transfer).droneId = t.droneId := rfl
    refine h.transferred hup ht hdrone rfl rfl rfl rfl (fun staged hs => ?_) ?_
    · exact ⟨staged, hs, rfl, rfl, rfl, fun _ _ => rfl,
        fun hu _ e he => h.unverified hup ht hlive hs hu he⟩
    · intro staged hs d e he hv
      have hd : d ≠ t.droneId := by
        intro hd
        exact h.unverified hup ht hlive hs (h.upload_of_file hup hfile hs) (hd ▸ he) hv
      obtain ⟨blob, hmission, hstored⟩ := h.stored staged hs d e he hv
      exact ⟨blob, hmission, by rw [← hstored]; exact Function.update_of_ne hd ..⟩
  | @verified stored data msg hcopy hfile hcrc =>
    obtain ⟨stagedShow, hm1⟩ := writeEntry_only m u t.droneId
      fun e => { e with status := .verified, msg := msg }
    have hwrite : ∀ staged', stagedShow = some staged' → _ := fun staged' hs' =>
      writeEntry_staged (m := m) (u := u) (d := t.droneId)
        (f := fun e => { e with status := .verified, msg := msg }) (by rw [hm1]; exact hs')
    rw [hm1]
    have hdrone : ({ t with pc := .done } : Transfer).droneId = t.droneId := rfl
    refine h.transferred hup ht hdrone rfl rfl rfl rfl (fun staged' hs' => ?_) ?_
    · obtain ⟨staged, hs, hu', hshow, hplan, hsame, -⟩ := hwrite staged' hs'
      exact ⟨staged, hs, hu', hshow, hplan, hsame, fun _ hpc => absurd rfl hpc⟩
    · intro staged' hs' d e he hv
      obtain ⟨staged, hs, -, hshow, hplan, hsame, -⟩ := hwrite staged' hs'
      rw [hshow, hplan]
      by_cases hd : staged.upload = u ∧ d = t.droneId
      · obtain ⟨hu, rfl⟩ := hd
        obtain ⟨up0, hup0, htracks⟩ := h.tracks staged hs
        have hsameUp : up0 = up := Option.some.inj (hup0.symm.trans (hu ▸ hup))
        have hequal : stored = data := hno _ (mem_of_find hfile) stored hcopy hcrc
        exact ⟨data, htracks.files _ _ (hsameUp ▸ hfile), hequal ▸ hcopy⟩
      · rw [hsame d fun hu hd' => hd ⟨hu, hd'⟩] at he
        exact h.stored staged hs d e he hv

end Transfer

/-! ## Every run -/

lemma consistent_step {setup : Setup} {m m' : DroneManager} {l : Label} (h : Consistent m)
    (hno : NoCollision m) (hs : Stepped setup m l m') : Consistent m' := by
  cases hs with
  | refused hs => obtain ⟨_, _, rfl, -⟩ := hs; exact h.congr rfl rfl
  | @launched _ droneIds ekf _ f auditFile =>
    obtain ⟨_, hm'⟩ := startLaunch_only { m with fsm := f, auditFile := auditFile }
      (some droneIds) ekf true
    rw [hm']
    exact h.congr rfl rfl
  | @called droneIds ekf wrapped =>
    obtain ⟨_, hm'⟩ := startLaunch_only m droneIds ekf wrapped
    rw [hm']
    exact h.congr rfl rfl
  | uploaded trajectory => exact uploadShow_consistent setup trajectory h
  | ticked hs =>
    obtain ⟨_, _, _, _, hm'⟩ := hs.frame
    rw [hm']
    exact h.congr rfl rfl
  | sequence hs => obtain ⟨_, rfl⟩ := hs.frame; exact h.congr rfl rfl
  | drone _ _ _ hs =>
    rcases hs.frame with ⟨_, rfl, -⟩ | ⟨-, rfl⟩
    · exact h.congr rfl rfl
    · exact h.congr rfl rfl
  | playback _ _ hs _ =>
    obtain ⟨_, _, _, _, hm'⟩ := hs.frame
    rw [hm']
    exact h.congr rfl rfl
  | transfer hs => exact transfer_consistent h hno hs
  | telemetry hs => obtain ⟨_, _, rfl⟩ := hs.rest; exact h.congr rfl rfl
  | _ => exact h.congr rfl rfl

/-- Nothing has been staged yet. -/
structure Unstaged (m : DroneManager) : Prop where
  staged : m.stagedShow = none
  files : m.staging.files = []
  dir : m.staging.missionDir = none
  uploads : m.staging.uploads = []

lemma Unstaged.consistent {m : DroneManager} (h : Unstaged m) : Consistent m where
  current dir d blob hblob := by rw [h.files] at hblob; cases hblob
  dirs dir hdir := by rw [h.dir] at hdir; cases hdir
  uploads up hup := by rw [h.uploads] at hup; cases hup
  tracks staged hs := by rw [h.staged] at hs; cases hs
  others staged hs := by rw [h.staged] at hs; cases hs
  stored staged hs := by rw [h.staged] at hs; cases hs

/-- In every run in which no CRC-32 collides, whatever uploads, transfers and
link failures are interleaved, what a drone listed as VERIFIED stores is the
mission compiled for it by the upload that set the staged show. -/
theorem verified_stored {setup : Setup} {init m : DroneManager} {ls : List Label}
    {os : List Sent} (hfirst : Unstaged init)
    (hno : Along (step setup) (fun m _ => NoCollision m) init ls)
    (hrun : run (step setup) init ls = some (m, os)) : VerifiedStored m :=
  (run_invariant (I := Consistent) (fun _ _ _ _ h hok hs => consistent_step h hok (step_stepped hs))
    hfirst.consistent hno hrun).stored

/-- An upload runs to its end, and its drone is verified. -/
theorem verified_stored_hover : ∃ m os staged e blob,
    run (step simSetup) onPad (uploadBegun ++ List.replicate 2 (.transfer 0 0 .ok)) =
      some (m, os) ∧ m.stagedShow = some staged ∧ find staged.drones 0 = some e ∧
    e.status = .verified ∧ missionOf staged.showId staged.trajectory 0 = some blob ∧
    m.staging.storage 0 = some blob := by
  obtain ⟨⟨m, os⟩, hrun, staged, hstaged, e, he, h⟩ :
      ∃ r ∈ run (step simSetup) onPad (uploadBegun ++ List.replicate 2 (.transfer 0 0 .ok)),
      ∃ staged ∈ r.1.stagedShow, ∃ e ∈ find staged.drones 0, e.status = .verified := by
    decide +kernel
  have hverified : e.status = .verified := by simpa using h
  obtain ⟨blob, hmission, hstored⟩ :=
    verified_stored ⟨rfl, rfl, rfl, rfl⟩ (by decide +kernel) hrun staged hstaged 0 e he hverified
  exact ⟨m, os, staged, e, blob, hrun, hstaged, he, hverified, hmission, hstored⟩

end Taramandal.Gcs.VerifiedMission
