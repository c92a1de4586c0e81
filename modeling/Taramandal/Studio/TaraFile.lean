import Taramandal.Core.RoundTrip
import Taramandal.Studio.Tara

/-! # What a compiled show is made of

An export stops at its first fault. Without one it writes the header, the index and the records,
each field in its place, and a file is parsed to the very records it was made of. -/
set_option linter.unusedSectionVars false

namespace Taramandal.Studio.Tara

open Core.Numbers Core.Values Core.Mission Core.Packing Lib.Binary32 Lib.Check

namespace Record

lemma length_fields (rec : Record) : rec.fields.map List.length = [4, 2, 2, 2, 2, 1, 1, 1, 1] := by
  simp [fields]

lemma length_bytes (rec : Record) : rec.bytes.length = taraRecordSize := by
  rw [bytes, List.length_flatten, length_fields]
  rfl

lemma unpack_bytes {rec : Record} (h : rec.Fits) (after : Bytes) :
    unpack (rec.bytes ++ after) = rec := by
  have hslice : ∀ {k start width : ℕ} {field : Bytes}, rec.fields[k]? = some field →
      (([4, 2, 2, 2, 2, 1, 1, 1, 1] : List ℕ).take k).sum = start → field.length = width →
      slice (rec.bytes ++ after) start width = field := by
    intro k start width field hfield hstart hwidth
    rw [← length_fields rec] at hstart
    exact slice_flatten hfield hstart hwidth after
  have htime : slice (rec.bytes ++ after) 0 4 = _ := hslice (k := 0) rfl rfl (length_packLE ..)
  have hx : slice (rec.bytes ++ after) 4 2 = _ := hslice (k := 1) rfl rfl (length_packSigned16 _)
  have hy : slice (rec.bytes ++ after) 6 2 = _ := hslice (k := 2) rfl rfl (length_packSigned16 _)
  have hz : slice (rec.bytes ++ after) 8 2 = _ := hslice (k := 3) rfl rfl (length_packSigned16 _)
  have hyaw : slice (rec.bytes ++ after) 10 2 = _ :=
    hslice (k := 4) rfl rfl (length_packSigned16 _)
  have hr : slice (rec.bytes ++ after) 12 1 = _ := hslice (k := 5) rfl rfl (length_packLE ..)
  have hg : slice (rec.bytes ++ after) 13 1 = _ := hslice (k := 6) rfl rfl (length_packLE ..)
  have hb : slice (rec.bytes ++ after) 14 1 = _ := hslice (k := 7) rfl rfl (length_packLE ..)
  have hw : slice (rec.bytes ++ after) 15 1 = _ := hslice (k := 8) rfl rfl (length_packLE ..)
  have hunsigned : ∀ {width : ℕ} {v : ℤ}, 0 ≤ v → v < 256 ^ width →
      (unpackLE (packLE width v.toNat) : ℤ) = v := by
    intro width v hpos hlt
    rw [unpackLE_packLE (by zify; rwa [Int.toNat_of_nonneg hpos]), Int.toNat_of_nonneg hpos]
  have htimeFits : rec.timeMs < 256 ^ 4 := by
    have hmax : maxTimeMs = 4294967295 := rfl
    have := h.timeMs.2
    omega
  unfold unpack
  rw [htime, hx, hy, hz, hyaw, hr, hg, hb, hw, hunsigned h.timeMs.1 htimeFits,
    unpackSigned16_packSigned16 h.x.1 h.x.2, unpackSigned16_packSigned16 h.y.1 h.y.2,
    unpackSigned16_packSigned16 h.z.1 h.z.2, unpackSigned16_packSigned16 h.yaw.1 h.yaw.2,
    hunsigned h.r.1 (by have := h.r.2; omega), hunsigned h.g.1 (by have := h.g.2; omega),
    hunsigned h.b.1 (by have := h.b.2; omega), hunsigned h.w.1 (by have := h.w.2; omega)]

end Record

/-! ## Faults -/

inductive Fault where
  | refused
  | unpackable

/-- What a computation answers that stops at the first of its faults. -/
def Answers {α : Type} (faults : List Fault) (result : Except TaraError α) (good : α) : Prop :=
  match faults.head? with
  | none => result = .ok good
  | some .refused => ∃ message, result = .error (.valueError message)
  | some .unpackable => result = .error .structError

lemma Answers.bind {α β : Type} {fs gs : List Fault} {r : Except TaraError α}
    {k : α → Except TaraError β} {a : α} {b : β} (h : Answers fs r a)
    (hk : fs = [] → Answers gs (k a) b) : Answers (fs ++ gs) (r >>= k) b := by
  cases fs with
  | nil =>
    obtain rfl : r = .ok a := h
    exact hk rfl
  | cons f fs =>
    cases f with
    | refused =>
      obtain ⟨message, rfl⟩ := h
      exact ⟨message, rfl⟩
    | unpackable =>
      obtain rfl : r = .error .structError := h
      rfl

lemma Answers.map {α β : Type} {fs : List Fault} {r : Except TaraError α} {a : α} (f : α → β)
    (h : Answers fs r a) : Answers fs (r >>= fun a => .ok (f a)) (f a) := by
  have hgood : Answers [] (.ok (f a)) (f a) := rfl
  have hbind := h.bind (k := fun a => .ok (f a)) fun _ => hgood
  rwa [List.append_nil] at hbind

variable {K : Type} [Field K] [LinearOrder K] [FloorRing K]

def quantise (wp : TrackPoint K) : Record where
  timeMs := roundHalfEven (wp.time * 1000)
  x := roundHalfEven (wp.x * 100)
  y := roundHalfEven (wp.y * 100)
  z := roundHalfEven (wp.z * 100)
  yaw := wrapYawCdeg (wp.yaw.getD 0)
  r := wp.r.getD 255 % 256
  g := wp.g.getD 255 % 256
  b := wp.b.getD 255 % 256
  w := wp.w.getD 0 % 256

def coordFaults (value : K) : List Fault :=
  if -32768 ≤ roundHalfEven (value * 100) ∧ roundHalfEven (value * 100) ≤ 32767 then []
  else [.refused]

def timeFaults (time : K) : List Fault :=
  if 0 ≤ roundHalfEven (time * 1000) ∧ roundHalfEven (time * 1000) ≤ maxTimeMs then []
  else [.unpackable]

def pointFaults (wp : TrackPoint K) : List Fault :=
  coordFaults wp.x ++ (coordFaults wp.y ++ (coordFaults wp.z ++ timeFaults wp.time))

def trackFaults (drone : Track K) : List Fault :=
  (if 0 ≤ drone.id ∧ drone.id ≤ 0xFFFF then [] else [.refused]) ++
    (sortByTime drone.waypoints).flatMap pointFaults

/-- What an export stops at, in the order in which it would. -/
def faults (choreo : Choreo K) : List Fault := choreo.flatMap trackFaults

lemma clampI16_answers (value : K) (name : String) :
    Answers (coordFaults value) (clampI16 (value * 100) name) (roundHalfEven (value * 100)) := by
  unfold coordFaults clampI16
  dsimp only
  split
  next h => rfl
  next h => exact ⟨_, rfl⟩

section

variable [IsStrictOrderedRing K]

lemma wrapYawCdeg_mem (yaw : K) : -18000 ≤ wrapYawCdeg yaw ∧ wrapYawCdeg yaw ≤ 18000 := by
  have hpos : (0 : K) < 360 := by norm_num
  have hlow := fmod_nonneg (a := yaw + 180) hpos
  have hhigh := fmod_lt (a := yaw + 180) hpos
  have hl : roundHalfEven (((-18000 : ℤ) : K)) ≤ wrapYawCdeg yaw :=
    roundHalfEven_mono (by push_cast; linarith)
  have hh : wrapYawCdeg yaw ≤ roundHalfEven (((18000 : ℤ) : K)) :=
    roundHalfEven_mono (by push_cast; linarith)
  rw [roundHalfEven_intCast] at hl hh
  exact ⟨hl, hh⟩

lemma fits_quantise {wp : TrackPoint K} (h : pointFaults wp = []) : (quantise wp).Fits := by
  simp only [pointFaults, coordFaults, timeFaults, List.append_eq_nil_iff, ite_eq_left_iff,
    imp_false, not_not, List.cons_ne_nil] at h
  obtain ⟨hx, hy, hz, htime⟩ := h
  obtain ⟨hlow, hhigh⟩ := wrapYawCdeg_mem (wp.yaw.getD 0)
  refine ⟨htime, hx, hy, hz, ?_, ?_, ?_, ?_, ?_⟩ <;> simp only [quantise] <;> omega

lemma frameRecord_answers (wp : TrackPoint K) :
    Answers (pointFaults wp) (frameRecord wp) (quantise wp).bytes := by
  refine (clampI16_answers wp.x "x").bind fun hx => (clampI16_answers wp.y "y").bind fun hy =>
    (clampI16_answers wp.z "z").bind fun hz => ?_
  show Answers (timeFaults wp.time) (quantise wp).pack (quantise wp).bytes
  unfold Record.pack
  split
  next h =>
    have htime : timeFaults wp.time = [] := if_pos h.timeMs
    rw [htime]
    rfl
  next h =>
    have htime : timeFaults wp.time = [.unpackable] := if_neg fun htime =>
      h (fits_quantise (by simp only [pointFaults, hx, hy, hz, timeFaults, if_pos htime]; rfl))
    rw [htime]
    rfl

lemma frameBlock_answers : ∀ wps : List (TrackPoint K),
    Answers (wps.flatMap pointFaults) (frameBlock wps)
      (wps.map fun wp => (quantise wp).bytes).flatten
  | [] => rfl
  | wp :: wps => by
    rw [List.flatMap_cons, List.map_cons, List.flatten_cons]
    exact (frameRecord_answers wp).bind fun _ => (frameBlock_answers wps).map _

/-- A show as its file holds it: each id with the records of its waypoints in time order. -/
def wire (choreo : Choreo K) : List (ℕ × List Record) :=
  choreo.map fun d => (d.id.toNat, (sortByTime d.waypoints).map quantise)

def blocksOf (drones : List (ℕ × List Record)) : List (ℕ × Bytes) :=
  drones.map fun d => (d.1, (d.2.map Record.bytes).flatten)

lemma frameRecords_answers : ∀ choreo : Choreo K,
    Answers (faults choreo) (frameRecords choreo) (blocksOf (wire choreo))
  | [] => rfl
  | drone :: rest => by
    have hblock := frameBlock_answers (sortByTime drone.waypoints)
    have hwire : blocksOf (wire (drone :: rest)) = (drone.id.toNat,
        ((sortByTime drone.waypoints).map fun wp => (quantise wp).bytes).flatten) ::
          blocksOf (wire rest) := by
      simp [blocksOf, wire, Function.comp_def]
    rw [hwire]
    simp only [faults, List.flatMap_cons, trackFaults, frameRecords]
    split
    next hid =>
      rw [List.nil_append]
      exact hblock.bind fun _ => (frameRecords_answers rest).map _
    next hid => exact ⟨_, rfl⟩

end

section


def entry (d : ℕ × List Record) : Bytes := packLE 2 d.1 ++ packLE 2 d.2.length

section

variable (drones : List (ℕ × List Record))

def payload : Bytes :=
  (drones.map entry).flatten ++ (drones.map fun d => (d.2.map Record.bytes).flatten).flatten

/-- `frame_count`. -/
def frames : ℕ := (drones.map fun d => d.2.length).sum

def headerFields (rate : Bytes) (duration : ℕ) : List Bytes :=
  [taraMagic, packLE 2 taraVersion, packLE 2 drones.length, packLE 4 (frames drones), rate,
    packLE 4 duration, packLE 4 0, packLE 4 (missionCrc32 (payload drones)).toNat]

end

/-- Ids, counts and the number of drones are in the range of their fields. -/
structure Counted (drones : List (ℕ × List Record)) : Prop where
  ids : ∀ d ∈ drones, d.1 < 65536
  counts : ∀ d ∈ drones, d.2.length < 65536
  drones : drones.length < 65536

lemma length_block (recs : List Record) :
    (recs.map Record.bytes).flatten.length = recs.length * taraRecordSize := by
  induction recs with
  | nil => rfl
  | cons rec recs ih =>
    rw [List.map_cons, List.flatten_cons, List.length_append, ih, Record.length_bytes,
      List.length_cons, Nat.add_one_mul, Nat.add_comm]

lemma frames_of_blocks (drones : List (ℕ × List Record)) :
    totalFrames (blocksOf drones) = frames drones := by
  unfold totalFrames frames blocksOf
  rw [List.map_map]
  congr 1
  refine List.map_congr_left fun d _ => ?_
  simp only [Function.comp_apply, length_block]
  exact Nat.mul_div_cancel _ (by decide)

lemma frames_le {drones : List (ℕ × List Record)} (h : ∀ d ∈ drones, d.2.length < 65536) :
    frames drones ≤ drones.length * 65535 := by
  rw [frames, ← List.length_map (f := fun d : ℕ × List Record => d.2.length)]
  refine List.sum_le_card_nsmul _ _ fun n hn => ?_
  obtain ⟨d, hd, rfl⟩ := List.mem_map.mp hn
  exact Nat.le_of_lt_succ (h d hd)

lemma field_ok {width n : ℕ} {bs : Bytes} :
    field width n = .ok bs ↔ n < 256 ^ width ∧ bs = packLE width n := by
  unfold field
  split
  next h => simp [h, eq_comm]
  next h => simp [h]

lemma indexOf_ok {drones : List (ℕ × List Record)} {index : Bytes} :
    indexOf (blocksOf drones) = .ok index ↔ (∀ d ∈ drones, d.1 < 65536 ∧ d.2.length < 65536) ∧
      index = (drones.map entry).flatten := by
  induction drones generalizing index with
  | nil => simp [blocksOf, indexOf, eq_comm]
  | cons d drones ih =>
    have hcount : (d.2.map Record.bytes).flatten.length / taraRecordSize = d.2.length := by
      rw [length_block]
      exact Nat.mul_div_cancel _ (by decide)
    rw [blocksOf, List.map_cons, ← blocksOf, indexOf, hcount]
    simp only [bind_eq_ok, field_ok, ih]
    constructor
    · rintro ⟨_, ⟨hid, rfl⟩, _, ⟨hlen, rfl⟩, _, ⟨hrest, rfl⟩, h⟩
      obtain rfl := Except.ok.inj h
      exact ⟨List.forall_mem_cons.mpr ⟨⟨hid, hlen⟩, hrest⟩, by simp [entry]⟩
    · rintro ⟨h, rfl⟩
      obtain ⟨⟨hid, hlen⟩, hrest⟩ := List.forall_mem_cons.mp h
      exact ⟨_, ⟨hid, rfl⟩, _, ⟨hlen, rfl⟩, _, ⟨hrest, rfl⟩, by simp [entry]; rfl⟩

end

/-- What remains of an export when its records are packed. -/
def compile (drones : List (ℕ × List Record)) (rateHz : Rate K) (duration : ℕ) :
    Except TaraError Bytes := do
  let index ← indexOf (blocksOf drones)
  container (blocksOf drones).length (totalFrames (blocksOf drones)) rateHz duration
    (index ++ ((blocksOf drones).map Prod.snd).flatten)

/-- What a file is made of. -/
structure Compiled (drones : List (ℕ × List Record)) (rateHz : Rate K) (duration : ℕ)
    (rate blob : Bytes) : Prop where
  counted : Counted drones
  fits : duration < 256 ^ 4
  packed : packRate rateHz = .ok rate
  blob : blob = (headerFields drones rate duration).flatten ++ payload drones

lemma compile_ok {drones : List (ℕ × List Record)} {rateHz : Rate K} {duration : ℕ}
    {blob : Bytes} : compile drones rateHz duration = .ok blob ↔
      ∃ rate, Compiled drones rateHz duration rate blob := by
  unfold compile container
  rw [frames_of_blocks]
  simp only [bind_eq_ok, field_ok, indexOf_ok]
  constructor
  · rintro ⟨_, ⟨hdrones, rfl⟩, _, ⟨hlength, rfl⟩, _, ⟨-, rfl⟩, rate, hrate, _, ⟨hduration, rfl⟩, h⟩
    obtain rfl := Except.ok.inj h
    rw [blocksOf, List.length_map] at hlength
    refine ⟨rate, ⟨⟨fun d hd => (hdrones d hd).1, fun d hd => (hdrones d hd).2, hlength⟩,
      hduration, hrate, ?_⟩⟩
    simp [headerFields, payload, blocksOf, Function.comp_def]
  · rintro ⟨rate, h⟩
    have hframes := frames_le h.counted.counts
    have hlength := h.counted.drones
    refine ⟨_, ⟨fun d hd => ⟨h.counted.ids d hd, h.counted.counts d hd⟩, rfl⟩, _, ⟨?_, rfl⟩, _,
      ⟨by omega, rfl⟩, rate, h.packed, _, ⟨h.fits, rfl⟩, ?_⟩
    · rw [blocksOf, List.length_map]
      exact hlength
    · rw [h.blob]
      simp [headerFields, payload, blocksOf, Function.comp_def]
      rfl

lemma compile_ne_valueError (drones : List (ℕ × List Record)) (rateHz : Rate K) (duration : ℕ)
    (message : String) : compile drones rateHz duration ≠ .error (.valueError message) := by
  have hfield : ∀ width n, field width n ≠ .error (.valueError message) := by
    intro width n h
    unfold field at h
    split at h <;> cases h
  have hrate : packRate rateHz ≠ .error (.valueError message) := by
    intro h
    unfold packRate at h
    split at h
    next => split at h <;> cases h
    all_goals cases h
  have hindex : ∀ blocks, indexOf blocks ≠ .error (.valueError message) := by
    intro blocks
    induction blocks with
    | nil => exact nofun
    | cons b blocks ih =>
      simp only [indexOf, ne_eq, bind_eq_error, not_or, not_exists, not_and]
      exact ⟨hfield _ _, fun _ _ => ⟨hfield _ _, fun _ _ => ⟨ih, fun _ _ => nofun⟩⟩⟩
  simp only [compile, container, ne_eq, bind_eq_error, not_or, not_exists, not_and]
  exact ⟨hindex _, fun _ _ => ⟨hfield _ _, fun _ _ => ⟨hfield _ _, fun _ _ =>
    ⟨hrate, fun _ _ => ⟨hfield _ _, fun _ _ => nofun⟩⟩⟩⟩⟩

section


lemma parseRecords_bytes : ∀ (recs : List Record) (after : Bytes), (∀ rec ∈ recs, rec.Fits) →
    parseRecords recs.length ((recs.map Record.bytes).flatten ++ after) = .ok (recs, after)
  | [], after, _ => rfl
  | rec :: recs, after, hfits => by
    have hlen : ¬ (rec.bytes ++ ((recs.map Record.bytes).flatten ++ after)).length
        < taraRecordSize := by
      rw [List.length_append, rec.length_bytes]
      omega
    have hrest := parseRecords_bytes recs after fun r hr => hfits r (List.mem_cons_of_mem _ hr)
    rw [List.map_cons, List.flatten_cons, List.append_assoc, List.length_cons, parseRecords,
      if_neg hlen, List.drop_left' rec.length_bytes, hrest,
      Record.unpack_bytes (hfits rec (List.mem_cons_self ..))]
    rfl

lemma length_entry (d : ℕ × List Record) : (entry d).length = 4 := by
  simp [entry]

lemma parseDrones_entries : ∀ drones : List (ℕ × List Record),
    (∀ d ∈ drones, d.1 < 65536 ∧ d.2.length < 65536 ∧ ∀ rec ∈ d.2, rec.Fits) →
      parseDrones drones.length (drones.map entry).flatten
        (drones.map fun d => (d.2.map Record.bytes).flatten).flatten = .ok drones
  | [], _ => rfl
  | d :: drones, h => by
    obtain ⟨hid, hcount, hfits⟩ := h d (List.mem_cons_self ..)
    have hlen : ¬ (entry d ++ (drones.map entry).flatten).length < 4 := by
      rw [List.length_append, length_entry]
      omega
    have hidBytes : slice (entry d ++ (drones.map entry).flatten) 0 2 = packLE 2 d.1 := by
      rw [entry, List.append_assoc]
      exact slice_here (length_packLE ..)
    have hcountBytes : slice (entry d ++ (drones.map entry).flatten) 2 2 = packLE 2 d.2.length := by
      rw [entry, List.append_assoc, slice_skip 2 (by rw [length_packLE]), length_packLE]
      exact slice_here (length_packLE ..)
    have hrest := parseDrones_entries drones fun d hd => h d (List.mem_cons_of_mem _ hd)
    simp only [List.map_cons, List.flatten_cons, List.length_cons]
    have hidRead : unpackLE (packLE 2 d.1) = d.1 := unpackLE_packLE hid
    have hcountRead : unpackLE (packLE 2 d.2.length) = d.2.length := unpackLE_packLE hcount
    rw [parseDrones, if_neg hlen, hidBytes, hcountBytes, hidRead, hcountRead,
      parseRecords_bytes d.2 _ hfits, List.drop_left' (length_entry d)]
    show (do
      let drones ← parseDrones drones.length (drones.map entry).flatten
        (drones.map fun d => (d.2.map Record.bytes).flatten).flatten
      return (d.1, d.2) :: drones : Except TaraError _) = _
    rw [hrest]
    rfl

lemma parsePayload_payload {drones : List (ℕ × List Record)} (hcounted : Counted drones)
    (hfits : ∀ d ∈ drones, ∀ rec ∈ d.2, rec.Fits) :
    parsePayload drones.length (payload drones) = .ok drones := by
  have hlength : (drones.map entry).flatten.length = drones.length * 4 := by
    simp [List.length_flatten, Function.comp_def, length_entry]
  unfold parsePayload payload
  rw [List.take_left' hlength, List.drop_left' hlength]
  exact parseDrones_entries drones fun d hd =>
    ⟨hcounted.ids d hd, hcounted.counts d hd, hfits d hd⟩

end

lemma unpackRate_packLE {negative : Bool} {n : ℕ} (h : n < 2 ^ 31) :
    (unpackRate (packLE 4 (pattern negative n)) : Rate K) =
      if n / 2 ^ 23 = 255 then if n % 2 ^ 23 = 0 then .inf negative else .nan
      else .finite negative (value n) := by
  have hread : unpackLE (packLE 4 (pattern negative n)) = pattern negative n := by
    refine unpackLE_packLE ?_
    unfold pattern
    split <;> omega
  unfold unpackRate
  rw [hread]
  cases negative with
  | false =>
    have hsign : ¬ n / 2 ^ 31 = 1 := by omega
    have hexp : n / 2 ^ 23 % 256 = n / 2 ^ 23 := by omega
    simp only [pattern, Bool.false_eq_true, if_false, hsign, hexp, decide_false, Nat.mod_eq_of_lt h]
  | true =>
    have hsign : (n + 2 ^ 31) / 2 ^ 31 = 1 := by omega
    have hexp : (n + 2 ^ 31) / 2 ^ 23 % 256 = n / 2 ^ 23 := by omega
    have hfraction : (n + 2 ^ 31) % 2 ^ 23 = n % 2 ^ 23 := by omega
    have hmagnitude : (n + 2 ^ 31) % 2 ^ 31 = n := by omega
    simp only [pattern, if_true, hsign, hexp, hfraction, hmagnitude, decide_true]

section

variable [IsStrictOrderedRing K]

lemma packRate_unpackRate {rateHz : Rate K} {bs : Bytes} (h : packRate rateHz = .ok bs) :
    bs.length = 4 ∧ packRate (unpackRate bs : Rate K) = .ok bs := by
  cases rateHz with
  | finite negative magnitude =>
    rw [packRate] at h
    split_ifs at h with hlarge
    obtain rfl := Except.ok.inj h
    have hfinite : bits roundHalfEven |magnitude| < infinity := not_le.mp hlarge
    have hagain : bits roundHalfEven |(value (bits roundHalfEven |magnitude|) : K)| =
        bits roundHalfEven |magnitude| := by
      rw [abs_of_nonneg (value_nonneg _)]
      exact bits_value abs_roundHalfEven_sub_le _
    have hexp : ¬ bits roundHalfEven |magnitude| / 2 ^ 23 = 255 := by
      unfold infinity at hfinite
      omega
    refine ⟨length_packLE 4 _, ?_⟩
    rw [unpackRate_packLE (by unfold infinity at hfinite; omega), if_neg hexp, packRate, hagain,
      if_neg hlarge]
  | inf negative =>
    obtain rfl := Except.ok.inj h
    refine ⟨length_packLE 4 _, ?_⟩
    rw [unpackRate_packLE (by norm_num [infinity])]
    rfl
  | nan =>
    obtain rfl := Except.ok.inj h
    refine ⟨length_packLE 4 _, ?_⟩
    rw [unpackRate_packLE (by norm_num [infinity])]
    rfl

end

section

variable {drones : List (ℕ × List Record)} {rateHz : Rate K} {duration : ℕ} {rate blob : Bytes}

section

variable [IsStrictOrderedRing K] (h : Compiled drones rateHz duration rate blob)
include h

lemma Compiled.length_fields :
    (headerFields drones rate duration).map List.length = [4, 2, 2, 4, 4, 4, 4, 4] := by
  simp [headerFields, taraMagic, (packRate_unpackRate h.packed).1]

lemma Compiled.slice {k start width : ℕ} {field : Bytes}
    (hfield : (headerFields drones rate duration)[k]? = some field)
    (hstart : (([4, 2, 2, 4, 4, 4, 4, 4] : List ℕ).take k).sum = start)
    (hwidth : field.length = width) : Core.Mission.slice blob start width = field := by
  rw [← h.length_fields] at hstart
  rw [h.blob]
  exact slice_flatten hfield hstart hwidth _

lemma Compiled.number {k start width n : ℕ} (hfield : (headerFields drones rate duration)[k]? = some (packLE width n))
    (hstart : (([4, 2, 2, 4, 4, 4, 4, 4] : List ℕ).take k).sum = start) (hn : n < 256 ^ width) :
    unpackLE (Core.Mission.slice blob start width) = n := by
  rw [h.slice hfield hstart (length_packLE ..), unpackLE_packLE hn]

lemma Compiled.length_header :
    (headerFields drones rate duration).flatten.length = taraHeaderSize := by
  rw [List.length_flatten, h.length_fields]
  rfl

lemma Compiled.drop_header : blob.drop taraHeaderSize = payload drones := by
  rw [h.blob, List.drop_left' h.length_header]

end

def parsedOf (drones : List (ℕ × List Record)) (rate : Bytes) (duration : ℕ) : Parsed K where
  version := taraVersion
  rateHz := unpackRate rate
  durationMs := duration
  frameCount := frames drones
  checksum := (missionCrc32 (payload drones)).toNat
  drones := drones.map fun d => ⟨d.1, d.2.map Record.waypoint⟩

lemma Compiled.parse [IsStrictOrderedRing K] (h : Compiled drones rateHz duration rate blob)
    (hfits : ∀ d ∈ drones, ∀ rec ∈ d.2, rec.Fits) :
    parseTara blob = .ok (parsedOf drones rate duration : Parsed K) := by
  have hsize : ¬ blob.length < taraHeaderSize := by
    rw [h.blob, List.length_append, h.length_header]
    omega
  have hframes := frames_le h.counted.counts
  have hmax := h.counted.drones
  have hmagic : Core.Mission.slice blob 0 4 = taraMagic := h.slice (k := 0) rfl rfl rfl
  have hversion : unpackLE (Core.Mission.slice blob 4 2) = taraVersion :=
    h.number (k := 1) rfl rfl (by decide)
  have hcount : unpackLE (Core.Mission.slice blob 6 2) = drones.length :=
    h.number (k := 2) rfl rfl hmax
  have hframeCount : unpackLE (Core.Mission.slice blob 8 4) = frames drones :=
    h.number (k := 3) rfl rfl (by omega)
  have hrate : Core.Mission.slice blob 12 4 = rate :=
    h.slice (k := 4) rfl rfl (packRate_unpackRate h.packed).1
  have hduration : unpackLE (Core.Mission.slice blob 16 4) = duration :=
    h.number (k := 5) rfl rfl h.fits
  have hcrc : unpackLE (Core.Mission.slice blob 24 4) = (missionCrc32 (payload drones)).toNat :=
    h.number (k := 7) rfl rfl (missionCrc32 (payload drones)).isLt
  unfold parseTara
  rw [if_neg hsize, if_neg (not_not.mpr hmagic), if_neg (not_not.mpr hversion), hcrc,
    h.drop_header, if_neg (not_not.mpr rfl), hcount, parsePayload_payload h.counted hfits,
    hversion, hframeCount, hrate, hduration]
  rfl

lemma Compiled.inj [IsStrictOrderedRing K] {drones' : List (ℕ × List Record)} {rateHz' : Rate K}
    {duration' : ℕ} {rate' : Bytes} (h : Compiled drones rateHz duration rate blob)
    (h' : Compiled drones' rateHz' duration' rate' blob)
    (hfits : ∀ d ∈ drones, ∀ rec ∈ d.2, rec.Fits)
    (hfits' : ∀ d ∈ drones', ∀ rec ∈ d.2, rec.Fits) : drones = drones' := by
  have hcount : unpackLE (Core.Mission.slice blob 6 2) = drones.length :=
    h.number (k := 2) rfl rfl h.counted.drones
  have hcount' : unpackLE (Core.Mission.slice blob 6 2) = drones'.length :=
    h'.number (k := 2) rfl rfl h'.counted.drones
  have hlength : drones.length = drones'.length := hcount.symm.trans hcount'
  have hpayload := parsePayload_payload h.counted hfits
  rw [← h.drop_header, h'.drop_header, hlength, parsePayload_payload h'.counted hfits'] at hpayload
  exact (Except.ok.inj hpayload).symm

end

end Taramandal.Studio.Tara
