import Taramandal.Core.Corruption
import Taramandal.Studio.TaraRoundTrip

/-! # A damaged show file

A file is refused for its size, its magic, its version and the checksum of its payload. The counts
of the header are under no checksum: a bit of them that is flipped is not refused, and neither is
a file cut off where the rest has the checksum of the whole. -/
namespace Taramandal.Studio.Tara

open Core.Values Core.Mission Core.Packing Lib.Check
open Core.Corruption (Burst Damage crc_set_ne flip_apply intact_of_decode)

/-- A file whose header is accepted, with its payload. -/
structure Intact (blob : Bytes) : Prop where
  size : taraHeaderSize ≤ blob.length
  magic : slice blob 0 4 = taraMagic
  version : unpackLE (slice blob 4 2) = taraVersion
  crc : (missionCrc32 (blob.drop taraHeaderSize)).toNat = unpackLE (slice blob 24 4)

lemma parseRecords_ne_valueError (message : String) :
    ∀ n records, parseRecords n records ≠ .error (.valueError message)
  | 0, _ => by simp [parseRecords]
  | n + 1, records => by
    unfold parseRecords
    split
    · simp
    · intro h
      rcases bind_eq_error.mp h with h | ⟨_, _, h⟩
      · exact parseRecords_ne_valueError message n _ h
      · cases h

lemma parseDrones_ne_valueError (message : String) :
    ∀ n index records, parseDrones n index records ≠ .error (.valueError message)
  | 0, _, _ => by simp [parseDrones]
  | n + 1, index, records => by
    unfold parseDrones
    split
    · simp
    · intro h
      rcases bind_eq_error.mp h with h | ⟨_, _, h⟩
      · exact parseRecords_ne_valueError message _ _ h
      · rcases bind_eq_error.mp h with h | ⟨_, _, h⟩
        · exact parseDrones_ne_valueError message n _ _ h
        · cases h

variable {K : Type} [Field K] [LinearOrder K] [FloorRing K]

/-- `parse_tara` raises a `ValueError`. -/
def Refused (K : Type) [Field K] [LinearOrder K] [FloorRing K] (blob : Bytes) : Prop :=
  ∃ message, parseTara (K := K) blob = .error (.valueError message)

lemma refused_iff {blob : Bytes} : Refused K blob ↔ ¬ Intact blob := by
  unfold Refused parseTara
  by_cases hsize : blob.length < taraHeaderSize
  · simp only [hsize, if_true]
    exact iff_of_true ⟨_, rfl⟩ fun h => absurd h.size (by omega)
  by_cases hmagic : slice blob 0 4 = taraMagic
  · by_cases hversion : unpackLE (slice blob 4 2) = taraVersion
    · by_cases hcrc : (missionCrc32 (blob.drop taraHeaderSize)).toNat = unpackLE (slice blob 24 4)
      · simp only [hsize, hmagic, hversion, hcrc, ne_eq, not_true_eq_false, if_false]
        refine iff_of_false ?_ (not_not.mpr ⟨by omega, hmagic, hversion, hcrc⟩)
        rintro ⟨message, h⟩
        rcases bind_eq_error.mp h with h | ⟨_, _, h⟩
        · exact parseDrones_ne_valueError message _ _ _ h
        · cases h
      · simp only [hsize, hmagic, hversion, hcrc, ne_eq, not_true_eq_false, not_false_eq_true,
          if_false, if_true]
        exact iff_of_true ⟨_, rfl⟩ fun h => hcrc h.crc
    · simp only [hsize, hmagic, hversion, ne_eq, not_true_eq_false, not_false_eq_true, if_false,
        if_true]
      exact iff_of_true ⟨_, rfl⟩ fun h => hversion h.version
  · simp only [hsize, hmagic, ne_eq, not_false_eq_true, if_false, if_true]
    exact iff_of_true ⟨_, rfl⟩ fun h => hmagic h.magic

/-- The damage is not in the rate, the duration or the reserved field. -/
def Exposed : Damage → Prop
  | .truncate _ => True
  | .flip pos _ => pos < 12 ∨ 24 ≤ pos

/-- A flipped bit is none of the counts; what is left of a truncated payload has another checksum
than all of it. -/
def Noticed (blob : Bytes) : Damage → Prop
  | .truncate size => size < taraHeaderSize ∨
    missionCrc32 ((blob.take size).drop taraHeaderSize) ≠ missionCrc32 (blob.drop taraHeaderSize)
  | .flip pos _ => pos < 6 ∨ 12 ≤ pos

section

omit [Field K] [LinearOrder K] [FloorRing K]

lemma Intact.take_iff {blob : Bytes} {size : ℕ} (h : Intact blob) (hsize : size < blob.length) :
    ¬ Intact (blob.take size) ↔ Noticed blob (.truncate size) := by
  have hheader : taraHeaderSize = 28 := rfl
  have hlength : (blob.take size).length = size := by
    rw [List.length_take, Nat.min_eq_left hsize.le]
  by_cases hshort : size < taraHeaderSize
  · exact iff_of_true (fun hcut => absurd hcut.size (by omega)) (.inl hshort)
  have hfield : ∀ start width, start + width ≤ 28 →
      slice (blob.take size) start width = slice blob start width := by
    intro start width hwithin
    unfold slice
    rw [List.drop_take, List.take_take, Nat.min_eq_left (by omega)]
  rw [Noticed, or_iff_right hshort]
  refine not_congr ⟨fun hcut => ?_, fun hsame => ⟨by omega, ?_, ?_, ?_⟩⟩
  · refine BitVec.eq_of_toNat_eq ?_
    rw [hcut.crc, hfield 24 4 (by omega), ← h.crc]
  · rw [hfield 0 4 (by omega)]
    exact h.magic
  · rw [hfield 4 2 (by omega)]
    exact h.version
  · rw [hsame, hfield 24 4 (by omega)]
    exact h.crc

/-- One byte changed is noticed exactly outside the counts, the rate, the duration and the
reserved field. -/
lemma Intact.set_iff {blob : Bytes} {pos : ℕ} {a b : UInt8} (h : Intact blob)
    (ha : blob[pos]? = some a) (hne : b ≠ a) :
    ¬ Intact (blob.set pos b) ↔ pos < 6 ∨ 24 ≤ pos := by
  have hheader : taraHeaderSize = 28 := rfl
  constructor
  · intro hbad
    by_contra hplace
    refine hbad ⟨?_, ?_, ?_, ?_⟩
    · rw [List.length_set]
      exact h.size
    · rw [slice_set_of_outside (by omega)]
      exact h.magic
    · rw [slice_set_of_outside (by omega)]
      exact h.version
    · rw [slice_set_of_outside (by omega), List.drop_set, if_pos (by omega)]
      exact h.crc
  · intro hplace hset
    by_cases hmagic : pos < 4
    · exact slice_set_of_inside ha hne (by omega) hmagic (hset.magic.trans h.magic.symm)
    by_cases hversion : pos < 6
    · exact unpackLE_set_ne ha hne (by omega) hversion (hset.version.trans h.version.symm)
    exact crc_set_ne h.crc rfl ha hne (by omega) hset.crc

end

variable [IsStrictOrderedRing K] {choreo : Choreo K} {rateHz : Rate K} {blob : Bytes}
  {damage : Damage}

lemma faults_of_export (h : exportTara choreo rateHz = .ok blob) : faults choreo = [] := by
  by_contra hne
  have hanswers : Answers (faults choreo) (exportTara choreo rateHz) blob :=
    exportTara_answers hne blob
  rw [h, Answers] at hanswers
  cases hfaults : faults choreo with
  | nil => exact hne hfaults
  | cons fault rest =>
    rw [hfaults] at hanswers
    cases fault with
    | refused => exact nomatch hanswers
    | unpackable => exact nomatch hanswers

lemma intact_of_export (h : exportTara choreo rateHz = .ok blob) : Intact blob := by
  have hfaults := faults_of_export h
  rw [exportTara_of_faults hfaults] at h
  obtain ⟨rate, hcompiled⟩ := compile_ok.mp h
  have hparse := hcompiled.parse fun d hd rec hrec => (wire_fits hfaults hd hrec).1
  by_contra hbad
  obtain ⟨message, hrefused⟩ := (refused_iff (K := K)).mpr hbad
  rw [hparse] at hrefused
  cases hrefused

/-- Damage to an exported file is refused exactly if it is noticed. -/
theorem tara_damage_iff (h : exportTara choreo rateHz = .ok blob) (hdamage : damage.Of blob)
    (hexposed : Exposed damage) : Refused K (damage.apply blob) ↔ Noticed blob damage := by
  have hintact := intact_of_export h
  rw [refused_iff]
  cases damage with
  | truncate size => exact hintact.take_iff hdamage
  | flip pos bit =>
    obtain ⟨a, b, ha, hne, hset⟩ := flip_apply hdamage
    rw [hset, hintact.set_iff ha hne]
    simp only [Exposed] at hexposed
    simp only [Noticed]
    omega

theorem tara_damage_iff_in_record : ∃ blob, exportTara southward (.finite false 2) = .ok blob ∧
      Refused ℚ ((Damage.flip 40 3).apply blob) := by
  obtain ⟨blob, hblob, h⟩ :
      ∃ blob ∈ (exportTara southward (.finite false 2)).toOption, 40 < blob.length := by
    decide +kernel
  have hexported := ok_of_toOption hblob
  refine ⟨blob, hexported, ?_⟩
  have hof : (Damage.flip 40 3).Of blob := ⟨h, by decide⟩
  exact (tara_damage_iff hexported hof (.inr (by decide))).mpr (.inr (by decide))

/-- One flipped bit of the frame count, and a file of one frame is read as one of none. -/
theorem frame_count_accepted : ∃ blob parsed,
    exportTara southward (.finite false 2) = .ok blob ∧ (Damage.flip 8 0).Of blob ∧
      Exposed (.flip 8 0) ∧ parseTara (K := ℚ) ((Damage.flip 8 0).apply blob) = .ok parsed ∧
      parsed.frameCount = 0 ∧ ¬ Refused ℚ ((Damage.flip 8 0).apply blob) := by
  obtain ⟨blob, hblob, hpos, parsed, hparsed, hframes⟩ :
      ∃ blob ∈ (exportTara southward (.finite false 2)).toOption, 8 < blob.length ∧
      ∃ parsed ∈ (parseTara (K := ℚ) ((Damage.flip 8 0).apply blob)).toOption,
      parsed.frameCount == 0 := by decide +kernel
  have hok := ok_of_toOption hparsed
  refine ⟨blob, parsed, ok_of_toOption hblob, ⟨hpos, by decide⟩, .inl (by decide),
    hok, by simpa using hframes, ?_⟩
  rintro ⟨message, hrefused⟩
  rw [hok] at hrefused
  cases hrefused

end Taramandal.Studio.Tara
