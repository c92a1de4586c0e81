import Taramandal.Lib.Crc
import Taramandal.Sim.System

/-! # A damaged show trigger

A trigger frame ends with the checksum of what stands before it, so the register
of a whole sound frame is the same for all of them. Flipped bits move the register
by what depends on their places alone, and over the length of a frame no three of
them cancel: the frame that results is not a sound one. -/
namespace Taramandal.Sim.TriggerFrame

open Lib.Crc Core.Values Core.Mission Core.Packing Sim.Vehicle Sim.System

/-! ## The register of a frame -/

def crcPoly : BitVec 32 := 0xEDB88320#32

lemma crcByte_eq : crcByte = absorb crcPoly := rfl

lemma crcPoly_msb : crcPoly.msb = true := by decide

lemma crcPoly_spread : Spread crcPoly 232 :=
  spread_of_apart (by decide) (by decide +kernel)

def register (payload : Bytes) : BitVec 32 := payload.foldl crcByte (~~~ 0#32)

lemma missionCrc32_eq (blob : Bytes) : missionCrc32 blob = ~~~ register blob := rfl

lemma low_xor_high (v : Nat) : (v % 2 ^ 8) ^^^ (2 ^ 8 * (v / 2 ^ 8)) = v := by
  refine Nat.eq_of_testBit_eq fun i => ?_
  rw [Nat.testBit_xor, Nat.testBit_mod_two_pow, Nat.testBit_two_pow_mul, Nat.testBit_div_two_pow]
  by_cases hi : i < 8
  · simp [hi, show ¬ 8 ≤ i by omega]
  · simp [hi, show 8 ≤ i by omega]

lemma foldl_packLE (c : BitVec 32) {k v : Nat} (hv : v < 256 ^ k) (hk : k ≤ 4) :
    (packLE k v).foldl crcByte c = (shift crcPoly)^[8 * k] (c ^^^ BitVec.ofNat 32 v) := by
  induction k generalizing c v with
  | zero =>
    obtain rfl : v = 0 := by simpa using hv
    exact (BitVec.xor_zero).symm
  | succ k ih =>
    have hwide : v < 2 ^ 32 := hv.trans_le (by
      calc 256 ^ (k + 1) ≤ 256 ^ 4 := Nat.pow_le_pow_right (by decide) hk
        _ = 2 ^ 32 := by decide)
    have hrest : v / 256 < 256 ^ k := by
      rw [Nat.pow_succ] at hv
      exact Nat.div_lt_of_lt_mul (by omega)
    have hlow : (UInt8.ofNat (v % 256)).toBitVec.setWidth 32 = BitVec.ofNat 32 (v % 2 ^ 8) := by
      apply BitVec.eq_of_toNat_eq
      have hbyte : (UInt8.ofNat (v % 256)).toBitVec.toNat = v % 256 :=
        UInt8.toNat_ofNat_of_lt' (Nat.mod_lt v (by decide))
      rw [BitVec.toNat_setWidth, hbyte, BitVec.toNat_ofNat]
      rfl
    have hhigh : (shift crcPoly)^[8] (BitVec.ofNat 32 (2 ^ 8 * (v / 2 ^ 8))) =
        BitVec.ofNat 32 (v / 256) := by
      refine shift_iterate_of_toNat ?_
      rw [BitVec.toNat_ofNat, BitVec.toNat_ofNat, Nat.mod_eq_of_lt (by omega),
        Nat.mod_eq_of_lt (by omega)]
      rfl
    have hwhole : BitVec.ofNat 32 v =
        BitVec.ofNat 32 (v % 2 ^ 8) ^^^ BitVec.ofNat 32 (2 ^ 8 * (v / 2 ^ 8)) := by
      rw [← BitVec.ofNat_xor, low_xor_high]
    have hsteps : 8 * (k + 1) = 8 * k + 8 := by omega
    rw [packLE, List.foldl_cons, ih _ hrest (by omega), hsteps, Function.iterate_add_apply, hwhole,
      ← BitVec.xor_assoc, shift_iterate_xor crcPoly 8, hhigh, crcByte_eq, absorb, hlow]

def ChecksumOk (payload : Bytes) : Prop :=
  unpackLE (slice payload 25 4) = (missionCrc32 (payload.take 25)).toNat

lemma register_of_checksumOk {payload : Bytes} (hlen : payload.length = triggerSize)
    (h : ChecksumOk payload) : register payload = (shift crcPoly)^[32] (BitVec.allOnes 32) := by
  have hsize : payload.length = 29 := hlen
  have hfield : slice payload 25 4 = payload.drop 25 := by
    unfold slice
    rw [List.take_of_length_le]
    rw [List.length_drop]
    omega
  have hcrc : payload.drop 25 = packLE 4 (missionCrc32 (payload.take 25)).toNat := by
    rw [← h, hfield]
    have hwidth : (payload.drop 25).length = 4 := by rw [List.length_drop]; omega
    rw [← hwidth, packLE_unpackLE]
  have hsplit : register payload =
      (payload.drop 25).foldl crcByte (register (payload.take 25)) := by
    unfold register
    rw [← List.foldl_append, List.take_append_drop]
  rw [hsplit, hcrc, foldl_packLE _ (BitVec.isLt _) (by decide), BitVec.ofNat_toNat,
    BitVec.setWidth_eq, missionCrc32_eq, BitVec.not_def, BitVec.xor_comm (BitVec.allOnes 32),
    ← BitVec.xor_assoc, BitVec.xor_self, BitVec.zero_xor]

def triggerFrame (command : ShowCommand) (showId : ShowId) (start : Nat) : Bytes :=
  let body := packLE 1 command.code ++ showId ++ packLE 8 start
  body ++ packLE 4 (missionCrc32 body).toNat

section

variable (command : ShowCommand) {showId : ShowId} (start : Nat)
  (hid : showId.length = showIdSize) (hstart : start < 2 ^ 64)

include hid

lemma length_triggerFrame : (triggerFrame command showId start).length = triggerSize := by
  have h16 : showId.length = 16 := hid
  simp [triggerFrame, h16, triggerSize]

lemma take_triggerFrame : (triggerFrame command showId start).take 25 =
      packLE 1 command.code ++ showId ++ packLE 8 start := by
  have h16 : showId.length = 16 := hid
  rw [triggerFrame, List.take_left' (by simp [h16])]

lemma checksumOk_triggerFrame : ChecksumOk (triggerFrame command showId start) := by
  have h16 : showId.length = 16 := hid
  have hfield : slice (triggerFrame command showId start) 25 4 =
      packLE 4 (missionCrc32 (packLE 1 command.code ++ showId ++ packLE 8 start)).toNat := by
    rw [triggerFrame, slice, List.drop_left' (by simp [h16]), List.take_of_length_le (by simp)]
  rw [ChecksumOk, take_triggerFrame command start hid, hfield, unpackLE_packLE (BitVec.isLt _)]

variable {start}

include hstart

lemma encodeShowTrigger_ok :
    encodeShowTrigger command showId start = .ok (triggerFrame command showId start) := by
  have hfits : start < 256 ^ 8 := hstart
  have hpos : ¬ (start : ℤ) < 0 := by omega
  unfold encodeShowTrigger packUnsigned
  simp only [hid, ne_eq, not_true_eq_false, if_false, hpos, Int.toNat_natCast, hfits, if_true]
  rfl

lemma decodeShowTrigger_triggerFrame : decodeShowTrigger (triggerFrame command showId start) =
      .ok ⟨command.code, showId, start, true⟩ := by
  have hbody := take_triggerFrame command start hid
  have hcheck := checksumOk_triggerFrame command start hid
  have hcommand : unpackLE (slice (packLE 1 command.code ++ showId ++ packLE 8 start) 0 1) =
      command.code := by
    rw [List.append_assoc, slice_here (by simp), unpackLE_packLE (by cases command <;> decide)]
  have hshow : slice (packLE 1 command.code ++ showId ++ packLE 8 start) 1 16 = showId := by
    rw [List.append_assoc, slice_skip 16 (by simp), length_packLE]
    exact slice_here hid
  have hinstant : unpackLE (slice (packLE 1 command.code ++ showId ++ packLE 8 start) 17 8) =
      start := by
    have h16 : showId.length = 16 := hid
    rw [slice_skip 8 (by simp [h16]), List.length_append, length_packLE, h16, slice,
      List.drop_zero, List.take_of_length_le (by simp), unpackLE_packLE hstart]
  unfold decodeShowTrigger
  unfold ChecksumOk at hcheck
  simp only [length_triggerFrame command start hid, ne_eq, not_true_eq_false, if_false, hcheck, hbody, hcommand,
    hshow, hinstant, beq_self_eq_true, Bool.true_and]
  cases command <;> rfl

end

/-! ## Damage -/

/-- What may become of a frame on the radio: one to three of its bits flipped, a
part of it cut out, or something around it. -/
inductive Garbled (frame : Bytes) : Bytes → Prop
  | flipped (places : List Nat) (hne : places ≠ []) (hlen : places.length ≤ 3)
      (hnodup : places.Nodup) (hin : ∀ p ∈ places, p < 8 * frame.length) :
      Garbled frame (places.foldl flipBit frame)
  | truncated (start width : Nat) (h : (slice frame start width).length < frame.length) :
      Garbled frame (slice frame start width)
  | extended (before after : Bytes) (h : before ++ after ≠ []) :
      Garbled frame (before ++ frame ++ after)

def Ignored (payload : Bytes) : Prop :=
  (∃ message, decodeShowTrigger payload = .error (.valueError message)) ∨
    ∃ trigger, decodeShowTrigger payload = .ok trigger ∧ trigger.valid = false

lemma ignored_of_length {payload : Bytes} (h : payload.length ≠ triggerSize) : Ignored payload := by
  unfold Ignored decodeShowTrigger
  simp only [ne_eq, h, not_false_eq_true, if_true]
  exact .inl ⟨_, rfl⟩

lemma ignored_of_checksum {payload : Bytes} (h : ¬ ChecksumOk payload) : Ignored payload := by
  by_cases hlen : payload.length = triggerSize
  · unfold Ignored decodeShowTrigger
    simp only [hlen, ne_eq, not_true_eq_false, if_false]
    refine .inr ⟨_, rfl, ?_⟩
    rw [Bool.and_eq_false_iff]
    exact .inl (beq_eq_false_iff_ne.mpr h)
  · exact ignored_of_length hlen

lemma not_checksumOk_of_flips {frame : Bytes} {places : List Nat}
    (hlen : frame.length = triggerSize) (hok : ChecksumOk frame) (hne : places ≠ [])
    (hfew : places.length ≤ 3) (hnodup : places.Nodup)
    (hin : ∀ p ∈ places, p < 8 * frame.length) : ¬ ChecksumOk (places.foldl flipBit frame) := by
  intro hbad
  have hsize : 8 * frame.length = 232 := by rw [hlen]; rfl
  have hsame : register (places.foldl flipBit frame) = register frame := by
    rw [register_of_checksumOk ((length_flips _ _).trans hlen) hbad,
      register_of_checksumOk hlen hok]
  unfold register at hsame
  rw [crcByte_eq, foldl_flips (by decide) crcPoly _ hin] at hsame
  have hplaces : (places.map fun p => syndrome crcPoly (8 * frame.length - p)) =
      (places.map fun p => 232 - p).map (syndrome crcPoly) := by
    rw [List.map_map, hsize]
    rfl
  rw [hplaces] at hsame
  refine crcPoly_spread.syndromes_ne (by decide) crcPoly_msb ?_ ?_ ?_ ?_ _ hsame
  · refine hnodup.map_on fun a ha b hb hab => ?_
    have ha' := hin a ha
    have hb' := hin b hb
    omega
  · simpa using hne
  · simpa using hfew
  · intro k hk
    obtain ⟨p, hp, rfl⟩ := List.mem_map.mp hk
    have hp' := hin p hp
    omega

lemma Garbled.ignored {frame payload : Bytes} (hlen : frame.length = triggerSize)
    (hok : ChecksumOk frame) (h : Garbled frame payload) : Ignored payload := by
  cases h with
  | flipped places hne hfew hnodup hin =>
    exact ignored_of_checksum (not_checksumOk_of_flips hlen hok hne hfew hnodup hin)
  | truncated start width h => exact ignored_of_length (hlen ▸ h.ne)
  | extended before after h =>
    refine ignored_of_length fun hsize => h ?_
    rw [List.length_append, List.length_append, hlen] at hsize
    exact List.eq_nil_of_length_eq_zero (by rw [List.length_append]; omega)

variable {K : Type} [Field K] {n : Nat}

lemma broadcast_ignored {payload : Bytes} (h : Ignored payload) (targetSystem : Nat)
    (s : FleetState K n) : (broadcast payload targetSystem s).1 = s := by
  unfold broadcast
  split
  · rfl
  · obtain ⟨message, hrefused⟩ | ⟨trigger, hdecoded, hinvalid⟩ := h
    · rw [hrefused]
    · rw [hdecoded]
      simp only [hinvalid, Bool.false_eq_true, if_false]

/-- A show trigger is decoded as it was encoded, and no drone is changed by what up to
three flipped bits, or bytes cut off or added, make of it. -/
theorem trigger_detects {command : ShowCommand} {showId : ShowId} {start : Nat}
    (hid : showId.length = showIdSize) (hstart : start < 2 ^ 64) :
    ∃ frame, encodeShowTrigger command showId start = .ok frame ∧
      decodeShowTrigger frame = .ok ⟨command.code, showId, start, true⟩ ∧
      ∀ payload, Garbled frame payload → Ignored payload ∧
        ∀ targetSystem (s : FleetState K n), (broadcast payload targetSystem s).1 = s := by
  refine ⟨_, encodeShowTrigger_ok command hid hstart,
    decodeShowTrigger_triggerFrame command hid hstart, ?_⟩
  intro payload hpayload
  have hignored := hpayload.ignored (length_triggerFrame command start hid)
    (checksumOk_triggerFrame command start hid)
  exact ⟨hignored, broadcast_ignored hignored⟩

theorem trigger_detects_rehearsal :
    ∃ frame, encodeShowTrigger .start (List.replicate 16 7) (5000000 : Nat) = .ok frame ∧
      decodeShowTrigger frame = .ok ⟨1, List.replicate 16 7, 5000000, true⟩ ∧
      ∀ payload, Garbled frame payload → Ignored payload ∧
        ∀ targetSystem (s : FleetState ℚ 3), (broadcast payload targetSystem s).1 = s :=
  trigger_detects (by decide) (by decide)

end Taramandal.Sim.TriggerFrame
