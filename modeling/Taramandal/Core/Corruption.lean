import Taramandal.Core.RoundTrip
import Taramandal.Lib.Crc

/-! # A damaged mission file

A file is refused for what its decoder looks at: its size, the magic and the
version, the count of its records and their checksum. Every truncation shows
there, and so does every flipped bit of those fields and of the records. A bit
flipped in the flags, the addressee, the duration or the show id does not: the
checksum leaves the header out. -/
namespace Taramandal.Core.Corruption

open Core.Values Core.Geometry Core.Mission Core.Packing Core.RoundTrip Lib.Check

lemma crcStep_injective : Function.Injective crcStep :=
  Lib.Crc.shift_injective (by decide : (0xEDB88320#32).msb = true)

lemma crcByte_injective_state (b : UInt8) : Function.Injective (crcByte · b) := by
  intro c c' h
  exact (BitVec.xor_left_inj _).mp (crcStep_injective.iterate 8 h)

lemma crcByte_injective (c : BitVec 32) : Function.Injective (crcByte c) := by
  intro b b' h
  have hwide : b.toBitVec.setWidth 32 = b'.toBitVec.setWidth 32 :=
    (BitVec.xor_right_inj _).mp (crcStep_injective.iterate 8 h)
  have hnat := congrArg BitVec.toNat hwide
  have hb : b.toNat < 256 := b.toNat_lt
  have hb' : b'.toNat < 256 := b'.toNat_lt
  apply UInt8.toNat.inj
  simpa [Nat.mod_eq_of_lt (show b.toNat < 2 ^ 32 by omega),
    Nat.mod_eq_of_lt (show b'.toNat < 2 ^ 32 by omega)] using hnat

variable {a b : UInt8} {blob : Bytes}

lemma missionCrc32_set_ne {bs : Bytes} {i : Nat} (ha : bs[i]? = some a)
    (hne : b ≠ a) : missionCrc32 (bs.set i b) ≠ missionCrc32 bs := by
  intro h
  have hfold : (bs.set i b).foldl crcByte (~~~ 0#32) = bs.foldl crcByte (~~~ 0#32) :=
    BitVec.not_inj.mp h
  exact Lib.Crc.foldl_set_ne crcByte_injective_state crcByte_injective _ ha hne hfold

/-- A file the decoder accepts. -/
structure Intact (blob : Bytes) : Prop where
  size : headerSize ≤ blob.length
  magic : slice blob 0 4 = missionMagic
  version : unpackLE (slice blob 4 2) = missionFormatVersion
  count : (blob.drop headerSize).length = unpackLE (slice blob 12 4) * recordSize
  crc : (missionCrc32 (blob.drop headerSize)).toNat = unpackLE (slice blob 36 4)

/-- `decode_mission` raises a `ValueError`. -/
def Refused (K : Type) [Field K] (blob : Bytes) : Prop :=
  ∃ message, decodeMission (K := K) blob = .error (.valueError message)

variable {K : Type} [Field K]

lemma header_cases (blob : Bytes) : (headerSize ≤ blob.length ∧ slice blob 0 4 = missionMagic ∧
        unpackLE (slice blob 4 2) = missionFormatVersion ∧
        ∃ header, decodeMissionHeader blob = .ok header ∧
          header.waypointCount = unpackLE (slice blob 12 4) ∧
          header.recordsCrc32 = unpackLE (slice blob 36 4)) ∨
      ¬ Intact blob ∧ ∃ message, decodeMissionHeader blob = .error (.valueError message) := by
  unfold decodeMissionHeader
  by_cases hsize : blob.length < headerSize
  · refine .inr ⟨fun h => absurd h.size (by omega), ?_⟩
    simp only [hsize, if_true]
    exact ⟨_, rfl⟩
  by_cases hmagic : slice blob 0 4 = missionMagic
  · by_cases hversion : unpackLE (slice blob 4 2) = missionFormatVersion
    · refine .inl ⟨by omega, hmagic, hversion, ?_⟩
      simp only [hsize, hmagic, hversion, ne_eq, not_true_eq_false, if_false]
      exact ⟨_, rfl, rfl, rfl⟩
    · refine .inr ⟨fun h => hversion h.version, ?_⟩
      simp only [hsize, hmagic, hversion, ne_eq, not_true_eq_false, not_false_eq_true, if_false,
        if_true]
      exact ⟨_, rfl⟩
  · refine .inr ⟨fun h => hmagic h.magic, ?_⟩
    simp only [hsize, hmagic, ne_eq, not_false_eq_true, if_false, if_true]
    exact ⟨_, rfl⟩

lemma refused_iff : Refused K blob ↔ ¬ Intact blob := by
  unfold Refused decodeMission
  obtain ⟨hsize, hmagic, hversion, header, hheader, hcount, hcrc⟩ | ⟨hbad, message, hheader⟩ :=
    header_cases blob
  · simp only [hheader, bind, Except.bind]
    by_cases hlen : (blob.drop headerSize).length = header.waypointCount * recordSize
    · by_cases hsum : (missionCrc32 (blob.drop headerSize)).toNat = header.recordsCrc32
      · simp only [hlen, hsum, ne_eq, not_true_eq_false, if_false]
        refine iff_of_false nofun (not_not.mpr ⟨hsize, hmagic, hversion, ?_, ?_⟩)
        · rw [hlen, hcount]
        · rw [hsum, hcrc]
      · simp only [hlen, hsum, ne_eq, not_true_eq_false, not_false_eq_true, if_false, if_true]
        exact iff_of_true ⟨_, rfl⟩ fun h => hsum (h.crc.trans hcrc.symm)
    · simp only [hlen, ne_eq, not_false_eq_true, if_true]
      exact iff_of_true ⟨_, rfl⟩ fun h => hlen (by rw [h.count, hcount])
  · rw [hheader]
    exact iff_of_true ⟨message, rfl⟩ hbad

/-! ## Damage -/

/-- A byte changed in a checksum or in what stands behind it is noticed by it. -/
lemma crc_set_ne {pos field size : Nat}
    (hcrc : (missionCrc32 (blob.drop size)).toNat = unpackLE (slice blob field 4))
    (hsize : field + 4 = size) (ha : blob[pos]? = some a) (hne : b ≠ a) (hpos : field ≤ pos) :
    (missionCrc32 ((blob.set pos b).drop size)).toNat ≠
      unpackLE (slice (blob.set pos b) field 4) := by
  intro hset
  by_cases hlt : pos < size
  · rw [List.drop_set, if_pos hlt, hcrc] at hset
    exact unpackLE_set_ne ha hne hpos (by omega) hset.symm
  · have hrecord : (blob.drop size)[pos - size]? = some a := by
      rw [List.getElem?_drop, ← ha]
      congr 1
      omega
    refine missionCrc32_set_ne hrecord hne (BitVec.eq_of_toNat_eq ?_)
    have hfield : slice (blob.set pos b) field 4 = slice blob field 4 :=
      slice_set_of_outside (by omega)
    rw [hcrc, ← hfield, ← hset, List.drop_set, if_neg hlt]

/-- A file cut off, or one of its bits flipped. -/
inductive Damage where
  | truncate (size : Nat)
  | flip (pos bit : Nat)

def Damage.apply (blob : Bytes) : Damage → Bytes
  | .truncate size => blob.take size
  | .flip pos bit => blob.set pos (blob.getD pos 0 ^^^ UInt8.ofNat (2 ^ bit))

/-- Something of the file is really cut off, and a flipped bit is one of its. -/
def Damage.Of (blob : Bytes) : Damage → Prop
  | .truncate size => size < blob.length
  | .flip pos bit => pos < blob.length ∧ bit < 8

/-- The flipped bit is one of the magic or the version, of the count, of the
checksum or of the records. -/
def Damage.Checked : Damage → Prop
  | .truncate _ => True
  | .flip pos _ => pos < 6 ∨ 12 ≤ pos ∧ pos < 16 ∨ 36 ≤ pos

lemma Intact.take {size : Nat} (h : Intact blob) (hsize : size < blob.length) :
    ¬ Intact (blob.take size) := by
  intro hcut
  have hfit := hcut.size
  rw [List.length_take, Nat.min_eq_left hsize.le] at hfit
  have hfield : slice (blob.take size) 12 4 = slice blob 12 4 := by
    have hwide : 4 ≤ size - 12 := by
      have : headerSize = 40 := rfl
      omega
    unfold slice
    rw [List.drop_take, List.take_take, Nat.min_eq_left hwide]
  have hcount := hcut.count
  rw [hfield, ← h.count, List.length_drop, List.length_drop, List.length_take,
    Nat.min_eq_left hsize.le] at hcount
  omega

lemma Intact.set_iff {pos : Nat} (h : Intact blob) (ha : blob[pos]? = some a) (hne : b ≠ a) :
    ¬ Intact (blob.set pos b) ↔ pos < 6 ∨ 12 ≤ pos ∧ pos < 16 ∨ 36 ≤ pos := by
  have hheader : headerSize = 40 := rfl
  constructor
  · intro hbad
    by_contra hplace
    refine hbad ⟨?_, ?_, ?_, ?_, ?_⟩
    · rw [List.length_set]
      exact h.size
    · rw [slice_set_of_outside (by omega)]
      exact h.magic
    · rw [slice_set_of_outside (by omega)]
      exact h.version
    · rw [slice_set_of_outside (by omega), List.length_drop, List.length_set, ← List.length_drop]
      exact h.count
    · rw [slice_set_of_outside (by omega), List.drop_set, if_pos (by omega)]
      exact h.crc
  · intro hplace hset
    by_cases hmagic : pos < 4
    · exact slice_set_of_inside ha hne (by omega) hmagic (hset.magic.trans h.magic.symm)
    by_cases hversion : pos < 6
    · exact unpackLE_set_ne ha hne (by omega) hversion (hset.version.trans h.version.symm)
    by_cases hcount : pos < 16
    · have hsame : unpackLE (slice (blob.set pos b) 12 4) * recordSize =
          unpackLE (slice blob 12 4) * recordSize := by
        rw [← hset.count, ← h.count, List.length_drop, List.length_drop, List.length_set]
      exact unpackLE_set_ne ha hne (by omega) hcount (Nat.eq_of_mul_eq_mul_right (by decide) hsame)
    exact crc_set_ne h.crc rfl ha hne (by omega) hset.crc

lemma flip_ne (a : UInt8) {bit : Nat} (hbit : bit < 8) : a ^^^ UInt8.ofNat (2 ^ bit) ≠ a := by
  intro h
  have hmask : ∀ k < 8, UInt8.ofNat (2 ^ k) ≠ 0 := by decide
  refine hmask bit hbit ((UInt8.xor_right_inj a).mp ?_)
  rw [h, UInt8.xor_zero]

lemma flip_apply {blob : Bytes} {pos bit : Nat} (h : (Damage.flip pos bit).Of blob) :
    ∃ a b, blob[pos]? = some a ∧ b ≠ a ∧ (Damage.flip pos bit).apply blob = blob.set pos b := by
  obtain ⟨hpos, hbit⟩ := h
  refine ⟨blob[pos], _, List.getElem?_eq_getElem hpos, flip_ne _ hbit, ?_⟩
  rw [Damage.apply, List.getD_eq_getElem?_getD, List.getElem?_eq_getElem hpos, Option.getD_some]

/-- Damage to a compiled file is refused exactly if it is a truncation or lies in
a field that is checked. -/
theorem damage_refused_iff [LinearOrder K] [FloorRing K] {waypoints : List (Waypoint K)}
    {droneId : Nat} {showId : ShowId} {origin : K × K} {blob : Bytes} {damage : Damage}
    (h : compileMission waypoints droneId showId origin = .ok blob) (hdamage : damage.Of blob) :
    Refused K (damage.apply blob) ↔ damage.Checked := by
  obtain ⟨records, hcompiles⟩ := compileMission_ok.mp h
  have hintact : Intact blob := by
    by_contra hbad
    obtain ⟨message, hrefused⟩ := (refused_iff (K := K)).mpr hbad
    rw [hcompiles.decode] at hrefused
    cases hrefused
  rw [refused_iff]
  cases damage with
  | truncate size => exact iff_of_true (hintact.take hdamage) trivial
  | flip pos bit =>
    obtain ⟨a, b, ha, hne, hset⟩ := flip_apply hdamage
    rw [hset]
    exact hintact.set_iff ha hne

theorem damage_refused_in_record :
    ∃ blob, compileMission [redPoint] 7 (List.replicate 16 1) (2, 0) = .ok blob ∧
      Refused ℚ ((Damage.flip 50 3).apply blob) := by
  obtain ⟨blob, hblob, h⟩ :
      ∃ blob ∈ (compileMission [redPoint] 7 (List.replicate 16 1) (2, 0)).toOption, 50 < blob.length
      := by decide +kernel
  have hcompiled := ok_of_toOption hblob
  refine ⟨blob, hcompiled, ?_⟩
  have hof : (Damage.flip 50 3).Of blob := ⟨h, by decide⟩
  exact (damage_refused_iff hcompiled hof).mpr (.inr (.inr (by decide)))

/-- One flipped bit of the addressee, and the file of drone 7 is a file of
drone 6. -/
theorem damage_accepted_in_addressee :
    ∃ blob header decoded, compileMission [redPoint] 7 (List.replicate 16 1) (2, 0) = .ok blob ∧
      (Damage.flip 8 0).Of blob ∧
      decodeMission (K := ℚ) ((Damage.flip 8 0).apply blob) = .ok (header, decoded) ∧
      header.droneId = 6 := by
  obtain ⟨blob, hblob, hpos, ⟨header, decoded⟩, hdecoded, hdrone⟩ :
      ∃ blob ∈ (compileMission [redPoint] 7 (List.replicate 16 1) (2, 0)).toOption,
      8 < blob.length ∧ ∃ r ∈ (decodeMission (K := ℚ) ((Damage.flip 8 0).apply blob)).toOption,
      r.1.droneId == 6 := by decide +kernel
  exact ⟨blob, header, decoded, ok_of_toOption hblob, ⟨hpos, by decide⟩,
    ok_of_toOption hdecoded, by simpa using hdrone⟩

/-! ## Bursts -/

/-- Up to four bytes in a row are changed, behind the first `size`. -/
inductive Burst (size : Nat) : Bytes → Bytes → Prop
  | mk (head tail : Bytes) {old new : Bytes} (hbehind : size ≤ head.length)
    (hlength : old.length = new.length) (hshort : old.length ≤ 4) (hchanged : old ≠ new) :
    Burst size (head ++ old ++ tail) (head ++ new ++ tail)

/-- The header is as before, and its checksum is no longer that of what stands behind it. -/
lemma Burst.crc_ne {size field : Nat} {blob' : Bytes} (h : Burst size blob blob')
    (hcrc : (missionCrc32 (blob.drop size)).toNat = unpackLE (slice blob field 4))
    (hfield : field + 4 ≤ size) :
    (missionCrc32 (blob'.drop size)).toNat ≠ unpackLE (slice blob' field 4) := by
  obtain ⟨head, tail, hbehind, hlength, hshort, hchanged⟩ := h
  have hslice : ∀ mid, slice (head ++ mid ++ tail) field 4 = slice head field 4 := by
    intro mid
    rw [slice, slice, List.append_assoc, List.drop_append_of_le_length (by omega),
      List.take_append_of_le_length (by rw [List.length_drop]; omega)]
  have hdrop : ∀ mid, (head ++ mid ++ tail).drop size = head.drop size ++ mid ++ tail := by
    intro mid
    rw [List.append_assoc, List.drop_append_of_le_length hbehind, List.append_assoc]
  rw [hslice, hdrop] at hcrc ⊢
  intro hsame
  have hfold := BitVec.not_inj.mp (BitVec.eq_of_toNat_eq (hcrc.trans hsame.symm))
  simp only [List.foldl_append] at hfold
  have hmid := Lib.Crc.foldl_injective crcByte_injective_state tail hfold
  exact hchanged ((Lib.Crc.foldl_absorb_inj (by decide) hlength (by omega) hmid).2 rfl)

lemma intact_of_decode {r : MissionHeader × List (Waypoint K)} (h : decodeMission blob = .ok r) :
    Intact blob := by
  by_contra hbad
  obtain ⟨message, hrefused⟩ := (refused_iff (K := K)).mpr hbad
  rw [h] at hrefused
  cases hrefused

end Taramandal.Core.Corruption
