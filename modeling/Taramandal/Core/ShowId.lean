import Taramandal.Core.RoundTrip

/-! # What a show id says (`compute_show_id`)

The digest is taken over the slots in order, each with its number, its count of waypoints
and its records. So two shows have one id exactly if their waypoints are the same in
milliseconds, centimetres, centidegrees and colour bytes (`ids_eq_iff`). A mission file
says one thing more, whether the colours mean anything (`sameMissions_iff`). -/
set_option linter.unusedSectionVars false

namespace Taramandal.Core.ShowId

open Lib.Check Lib.SortedDict Core.Values Core.Geometry Core.Shows Core.Mission
open Core.Packing Core.RoundTrip

variable {K : Type}

def SameSlots (a b : Show K) : Prop :=
  ∀ slot, slot ∈ a.drones.map Prod.fst ↔ slot ∈ b.drones.map Prod.fst

/-- What the two shows have in a slot is related, for every slot of both. -/
def Slotwise (R : ℕ → List (Waypoint K) → List (Waypoint K) → Prop) (a b : Show K) : Prop :=
  ∀ slot wps wps', (slot, wps) ∈ a.drones → (slot, wps') ∈ b.drones → R slot wps wps'

variable [Field K] [LinearOrder K] [FloorRing K]

def showMessage (trajectory : Show K) : Except MissionError Bytes :=
  (slotDigests (trajectory.drones.insertionSort fun a b => a.1 ≤ b.1)).map fun slots =>
    missionMagic ++ packLE 2 missionFormatVersion ++ slots

/-- Truncated to the size of a show id, the hash is free of collisions on messages. -/
def CollisionFree (sha256 : Bytes → Bytes) (messages : Set Bytes) : Prop :=
  Set.InjOn (fun message => (sha256 message).take showIdSize) messages

/-- The waypoints are the same in milliseconds, centimetres, centidegrees and colour bytes. -/
def SameQuantised (wps wps' : List (Waypoint K)) : Prop :=
  wps.map (quantised true (0, 0)) = wps'.map (quantised true (0, 0))

def SameLed (wps wps' : List (Waypoint K)) : Prop := hasLed wps = hasLed wps'

/-- They are compiled to the same bytes for a drone, whose origin is that of the fleet. -/
def SameMission (droneId : ℕ) (showId : ShowId) (wps wps' : List (Waypoint K)) : Prop :=
  ∃ blob, compileMission wps droneId showId (0, 0) = .ok blob ∧
    compileMission wps' droneId showId (0, 0) = .ok blob

variable {droneId : ℕ} {origin : K × K} {records : Bytes} {wps : List (Waypoint K)}

lemma encodeRecords_ok : encodeRecords wps droneId origin = .ok records ↔
      wps ≠ [] ∧ encodeFrom droneId origin (-1) wps = .ok records := by
  unfold encodeRecords
  split
  next hnil => simp [hnil]
  next hne => simp [hne]

lemma encodeFrom_anyone (droneId' : ℕ) {prevMs : ℤ}
    (h : encodeFrom droneId origin prevMs wps = .ok records) :
    encodeFrom droneId' origin prevMs wps = .ok records := by
  induction wps generalizing prevMs records with
  | nil => exact h
  | cons wp wps ih =>
    obtain ⟨⟨timeMs, record⟩, hrecord, h⟩ := bind_eq_ok.mp h
    obtain ⟨rest, hrest, h⟩ := bind_eq_ok.mp h
    have hsame : encodeRecord droneId' origin prevMs wp = .ok (timeMs, record) :=
      encodeRecord_ok.mpr (encodeRecord_ok.mp hrecord)
    exact bind_eq_ok.mpr ⟨_, hsame, bind_eq_ok.mpr ⟨_, ih hrest, h⟩⟩

lemma encodeRecords_anyone (droneId' : ℕ) (h : encodeRecords wps droneId origin = .ok records) :
    encodeRecords wps droneId' origin = .ok records := by
  obtain ⟨hne, h⟩ := encodeRecords_ok.mp h
  exact encodeRecords_ok.mpr ⟨hne, encodeFrom_anyone droneId' h⟩

lemma length_records (h : encodeRecords wps droneId origin = .ok records) :
    records.length = wps.length * recordSize :=
  (decode_encodeFrom true (encodeRecords_ok.mp h).2).1

variable {wps' : List (Waypoint K)} {d : ℕ × List (Waypoint K)} {ds : List (ℕ × List (Waypoint K))}

lemma SameQuantised.length (h : SameQuantised wps wps') : wps.length = wps'.length := by
  simpa using congrArg List.length h

lemma records_eq_iff [IsStrictOrderedRing K] {slot slot' : ℕ}
    {records' : Bytes} (h : encodeRecords wps slot (0, 0) = .ok records)
    (h' : encodeRecords wps' slot' (0, 0) = .ok records') :
    records = records' ↔ SameQuantised wps wps' := by
  have hfrom := (encodeRecords_ok.mp h).2
  have hfrom' := (encodeRecords_ok.mp h').2
  constructor
  · rintro rfl
    have hlength : wps.length = wps'.length := by
      have hcount : wps.length * recordSize = wps'.length * recordSize := by
        rw [← length_records h, ← length_records h']
      exact Nat.eq_of_mul_eq_mul_right (by decide) hcount
    rw [SameQuantised, ← (decode_encodeFrom true hfrom).2, ← (decode_encodeFrom true hfrom').2,
      hlength]
  · intro hsame
    have hagain := encodeFrom_again hfrom (.inl rfl)
    have hagain' := encodeFrom_anyone slot (encodeFrom_again hfrom' (.inl rfl))
    have hmap : wps.map (quantised true (0, 0)) = wps'.map (quantised true (0, 0)) := hsame
    rw [hmap, hagain'] at hagain
    exact (Except.ok.inj hagain).symm

/-! ## The digest -/

variable {slots : Bytes}

/-- A slot of the digest: its number, its count and its records tell where it ends. -/
lemma slotDigests_cons {rest : List (ℕ × List (Waypoint K))}
    (h : slotDigests (d :: rest) = .ok slots) :
    ∃ records more, encodeRecords d.2 d.1 (0, 0) = .ok records ∧ d.1 < 256 ^ 2 ∧
      d.2.length < 256 ^ 4 ∧ slotDigests rest = .ok more ∧
        slots = packLE 2 d.1 ++ (packLE 4 d.2.length ++ (records ++ more)) := by
  obtain ⟨records, hrecords, h⟩ := bind_eq_ok.mp h
  obtain ⟨slotBytes, hslot, h⟩ := bind_eq_ok.mp h
  obtain ⟨count, hcount, h⟩ := bind_eq_ok.mp h
  obtain ⟨more, hmore, h⟩ := bind_eq_ok.mp h
  obtain ⟨hslotFits, rfl⟩ := packUnsigned_ok hslot
  obtain ⟨hcountFits, rfl⟩ := packUnsigned_ok hcount
  refine ⟨records, more, hrecords, hslotFits, hcountFits, hmore, ?_⟩
  simpa using (Except.ok.inj h).symm

lemma slotDigests_mem (h : slotDigests ds = .ok slots) (hd : d ∈ ds) :
    (∃ records, encodeRecords d.2 d.1 (0, 0) = .ok records) ∧ d.2.length < 256 ^ 4 := by
  induction ds generalizing slots with
  | nil => cases hd
  | cons e rest ih =>
    obtain ⟨records, more, hrecords, -, hcount, hmore, -⟩ := slotDigests_cons h
    rcases List.mem_cons.mp hd with rfl | hd
    · exact ⟨⟨records, hrecords⟩, hcount⟩
    · exact ih hmore hd

lemma packLE_inj {width n n' : ℕ} (hn : n < 256 ^ width) (hn' : n' < 256 ^ width)
    (h : packLE width n = packLE width n') : n = n' := by
  rw [← unpackLE_packLE hn, h, unpackLE_packLE hn']

lemma slotDigests_eq_iff [IsStrictOrderedRing K] {ds' : List (ℕ × List (Waypoint K))}
    {slots' : Bytes} (h : slotDigests ds = .ok slots) (h' : slotDigests ds' = .ok slots') :
    slots = slots' ↔ List.Forall₂ (Agree SameQuantised) ds ds' := by
  induction ds generalizing ds' slots slots' with
  | nil =>
    obtain rfl := Except.ok.inj h
    cases ds' with
    | nil =>
      obtain rfl := Except.ok.inj h'
      simp
    | cons d' rest' =>
      obtain ⟨_, _, -, -, -, -, rfl⟩ := slotDigests_cons h'
      simp [packLE]
  | cons d rest ih =>
    obtain ⟨records, more, hrecords, hslot, hcount, hmore, rfl⟩ := slotDigests_cons h
    cases ds' with
    | nil =>
      obtain rfl := Except.ok.inj h'
      simp [packLE]
    | cons d' rest' =>
      obtain ⟨records', more', hrecords', hslot', hcount', hmore', rfl⟩ := slotDigests_cons h'
      rw [List.forall₂_cons, Agree, ← ih hmore hmore', ← records_eq_iff hrecords hrecords']
      constructor
      · intro heq
        obtain ⟨hnumber, heq⟩ := List.append_inj heq (by simp)
        obtain ⟨hlength, heq⟩ := List.append_inj heq (by simp)
        have hsame : d.2.length = d'.2.length := packLE_inj hcount hcount' hlength
        have hsize : records.length = records'.length := by
          rw [length_records hrecords, length_records hrecords', hsame]
        obtain ⟨hrec, hrest⟩ := List.append_inj heq hsize
        exact ⟨⟨packLE_inj hslot hslot' hnumber, hrec⟩, hrest⟩
      · rintro ⟨⟨hnumber, hrec⟩, hrest⟩
        have hsame : d.2.length = d'.2.length :=
          ((records_eq_iff hrecords hrecords').mp hrec).length
        rw [hnumber, hsame, hrec, hrest]

lemma computeShowId_ok {sha256 : Bytes → Bytes} {trajectory : Show K} {showId : ShowId} :
    computeShowId sha256 trajectory = .ok showId ↔ ∃ message, showMessage trajectory = .ok message ∧
        (sha256 message).take showIdSize = showId := by
  constructor
  · intro h
    obtain ⟨slots, hslots, h⟩ := bind_eq_ok.mp h
    exact ⟨_, map_eq_ok.mpr ⟨slots, hslots, rfl⟩, Except.ok.inj h⟩
  · intro ⟨message, hmessage, h⟩
    obtain ⟨slots, hslots, rfl⟩ := map_eq_ok.mp hmessage
    exact bind_eq_ok.mpr ⟨slots, hslots, congrArg Except.ok h⟩

section

variable [IsStrictOrderedRing K] {a b : Show K}

variable {sha256 : Bytes → Bytes} {showId : ShowId}

lemma records_of_showId (h : computeShowId sha256 a = .ok showId) {d : ℕ × List (Waypoint K)}
    (hd : d ∈ a.drones) :
    (∃ records, encodeRecords d.2 d.1 (0, 0) = .ok records) ∧ d.2.length < 256 ^ 4 := by
  obtain ⟨message, hmessage, -⟩ := computeShowId_ok.mp h
  obtain ⟨slots, hslots, -⟩ := map_eq_ok.mp hmessage
  exact slotDigests_mem hslots ((List.perm_insertionSort _ _).mem_iff.mpr hd)

/-- The messages of two shows are the same exactly if the shows are, slot by slot. -/
lemma showMessage_eq_iff {message message' : Bytes} (ha : showMessage a = .ok message)
    (hb : showMessage b = .ok message') :
    message = message' ↔ SameSlots a b ∧ Slotwise (fun _ => SameQuantised) a b := by
  obtain ⟨slots, hslots, rfl⟩ := map_eq_ok.mp ha
  obtain ⟨slots', hslots', rfl⟩ := map_eq_ok.mp hb
  rw [List.append_cancel_left_eq, slotDigests_eq_iff hslots hslots']
  exact forall₂_sorted_iff a.unique b.unique

variable {idA idB : ShowId}

/-- Two shows have one id exactly if they have the same slots, and in each of them the same
waypoints up to what a record holds. -/
lemma ids_eq_iff (ha : computeShowId sha256 a = .ok idA) (hb : computeShowId sha256 b = .ok idB)
    (hsha : CollisionFree sha256 {m | showMessage a = .ok m ∨ showMessage b = .ok m}) :
    idA = idB ↔ SameSlots a b ∧ Slotwise (fun _ => SameQuantised) a b := by
  obtain ⟨message, hmessage, rfl⟩ := computeShowId_ok.mp ha
  obtain ⟨message', hmessage', rfl⟩ := computeShowId_ok.mp hb
  rw [← showMessage_eq_iff hmessage hmessage']
  exact ⟨fun h => hsha (.inl hmessage) (.inr hmessage') h, fun h => by rw [h]⟩

/-! ## Mission files -/

lemma compiles_of_records {wps : List (Waypoint K)} {slot droneId : ℕ} {records : Bytes}
    (h : encodeRecords wps slot (0, 0) = .ok records) (hcount : wps.length < 256 ^ 4)
    (hdrone : droneId < 256 ^ 2) (hsize : showId.length = showIdSize) :
    Compiles wps droneId showId (0, 0) records
      ((headerFields wps droneId showId records).flatten ++ records) where
  showSize := hsize
  written := encodeRecords_anyone droneId h
  drone := hdrone
  count := hcount
  duration := by
    obtain ⟨hne, hfrom⟩ := encodeRecords_ok.mp h
    have hmax := (durationMs_mem hfrom hne).2
    have : maxTimeMs = 4294967295 := rfl
    omega
  blob := rfl

/-- Mission files are the same exactly if the waypoints are, as the records hold them, and
the files agree on whether there are colours. -/
lemma sameMission_iff {wps wps' : List (Waypoint K)} {slot slot' droneId : ℕ}
    {records records' : Bytes} (h : encodeRecords wps slot (0, 0) = .ok records)
    (h' : encodeRecords wps' slot' (0, 0) = .ok records') (hcount : wps.length < 256 ^ 4)
    (hcount' : wps'.length < 256 ^ 4) (hdrone : droneId < 256 ^ 2)
    (hsize : showId.length = showIdSize) :
    SameMission droneId showId wps wps' ↔ SameQuantised wps wps' ∧ SameLed wps wps' := by
  have hcompiles := compiles_of_records h hcount hdrone hsize
  have hcompiles' := compiles_of_records h' hcount' hdrone hsize
  constructor
  · intro ⟨blob, hblob, hblob'⟩
    rw [compileMission_ok.mpr ⟨_, hcompiles⟩] at hblob
    rw [compileMission_ok.mpr ⟨_, hcompiles'⟩] at hblob'
    have hbytes := Except.ok.inj (hblob.trans hblob'.symm)
    have hrecords : records = records' := by
      refine (List.append_inj hbytes ?_).2
      rw [hcompiles.length_header, hcompiles'.length_header]
    have hdecoded := hcompiles.decode
    rw [hbytes, hcompiles'.decode] at hdecoded
    obtain ⟨hheader, -⟩ := Prod.mk.inj (Except.ok.inj hdecoded)
    have hled := congrArg MissionHeader.hasLed hheader
    rw [compiledHeader_hasLed, compiledHeader_hasLed] at hled
    exact ⟨(records_eq_iff h h').mp hrecords, hled.symm⟩
  · intro ⟨hsame, hled⟩
    refine ⟨_, compileMission_ok.mpr ⟨_, hcompiles⟩, compileMission_ok.mpr ⟨records', ?_⟩⟩
    have hrecords : records = records' := (records_eq_iff h h').mpr hsame
    have hduration : durationMs wps = durationMs wps' := by
      have hmap : wps.map (quantised true (0, 0)) = wps'.map (quantised true (0, 0)) := hsame
      rw [← durationMs_quantised true (0, 0) (encodeRecords_ok.mp h).1, hmap,
        durationMs_quantised true (0, 0) (encodeRecords_ok.mp h').1]
    have hheader : headerFields wps droneId showId records =
        headerFields wps' droneId showId records' := by
      rw [headerFields, headerFields, hled, hsame.length, hduration, hrecords]
    rw [hheader, hrecords]
    exact hcompiles'

/-- The shows are compiled to the same bytes, slot by slot, exactly if their waypoints are the
same, as the records hold them, and both say in every slot that there are colours, or neither. -/
lemma sameMissions_iff (ha : computeShowId sha256 a = .ok idA)
    (hb : computeShowId sha256 b = .ok idB) {droneOf : ℕ → ℕ}
    (hdrone : ∀ slot, droneOf slot < 256 ^ 2) (hsize : showId.length = showIdSize) :
    Slotwise (fun slot => SameMission (droneOf slot) showId) a b ↔
      Slotwise (fun _ => SameQuantised) a b ∧ Slotwise (fun _ => SameLed) a b := by
  have hslot : ∀ slot wps wps', (slot, wps) ∈ a.drones → (slot, wps') ∈ b.drones →
      (SameMission (droneOf slot) showId wps wps' ↔ SameQuantised wps wps' ∧ SameLed wps wps') := by
    intro slot wps wps' hwps hwps'
    obtain ⟨⟨records, hrecords⟩, hcount⟩ := records_of_showId ha hwps
    obtain ⟨⟨records', hrecords'⟩, hcount'⟩ := records_of_showId hb hwps'
    exact sameMission_iff hrecords hrecords' hcount hcount' (hdrone slot) hsize
  constructor
  · intro h
    have hboth := fun slot wps wps' hwps hwps' =>
      (hslot slot wps wps' hwps hwps').mp (h slot wps wps' hwps hwps')
    exact ⟨fun slot wps wps' hwps hwps' => (hboth slot wps wps' hwps hwps').1,
      fun slot wps wps' hwps hwps' => (hboth slot wps wps' hwps hwps').2⟩
  · intro ⟨hsame, hled⟩ slot wps wps' hwps hwps'
    exact (hslot slot wps wps' hwps hwps').mpr
      ⟨hsame slot wps wps' hwps hwps', hled slot wps wps' hwps hwps'⟩

end

end Taramandal.Core.ShowId
