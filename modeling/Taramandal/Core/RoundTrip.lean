import Taramandal.Core.Mission

/-! # A mission file, decoded

What a compiled file decodes to is the waypoints in whole milliseconds,
centimetres and centidegrees (`decode_compile`), and compiling those again gives
the same bytes. Whether the colours are among them hangs on the red channel
alone: a show whose waypoints carry green or blue and never red loses them
(`roundTrips_iff`). -/
set_option linter.unusedSectionVars false

namespace Taramandal.Core.RoundTrip

open Core.Numbers Core.Values Core.Geometry Core.Mission Core.Packing Lib.Check

variable {K : Type} [Field K] [LinearOrder K] [FloorRing K]

/-! ## One record -/

def quantised (led : Bool) (origin : K × K) (wp : Waypoint K) : Waypoint K :=
  let colour (c : Option ℤ) : Option ℤ := if led then some (c.getD 0 % 256) else none
  { time := (roundHalfEven (wp.time * 1000) : K) / 1000
    x := (roundHalfEven ((wp.x - origin.1) * 100) : K) / 100
    y := (roundHalfEven ((wp.y - origin.2) * 100) : K) / 100
    z := (roundHalfEven (wp.z * 100) : K) / 100
    yaw := ((roundHalfEven (wp.yaw * 100) % 36000 : ℤ) : K) / 100
    r := colour wp.r
    g := colour wp.g
    b := colour wp.b }

def recordFields (origin : K × K) (wp : Waypoint K) : List Bytes :=
  [packLE 4 (roundHalfEven (wp.time * 1000)).toNat,
    packSigned16 (roundHalfEven ((wp.x - origin.1) * 100)),
    packSigned16 (roundHalfEven ((wp.y - origin.2) * 100)),
    packSigned16 (roundHalfEven (wp.z * 100)),
    packLE 2 (roundHalfEven (wp.yaw * 100) % 36000).toNat,
    channel wp.r, channel wp.g, channel wp.b, [0]]

lemma length_recordFields (origin : K × K) (wp : Waypoint K) :
    (recordFields origin wp).map List.length = [4, 2, 2, 2, 2, 1, 1, 1, 1] := by
  simp [recordFields, channel]

/-- The record of a waypoint that is in range and not before the one before it. -/
structure Encodes (origin : K × K) (prevMs : ℤ) (wp : Waypoint K) (timeMs : ℤ) (record : Bytes) :
    Prop where
  time : timeMs = roundHalfEven (wp.time * 1000)
  time_mem : 0 ≤ timeMs ∧ timeMs ≤ maxTimeMs ∧ prevMs ≤ timeMs
  x_mem : |roundHalfEven ((wp.x - origin.1) * 100)| ≤ posLimitCm
  y_mem : |roundHalfEven ((wp.y - origin.2) * 100)| ≤ posLimitCm
  z_mem : |roundHalfEven (wp.z * 100)| ≤ posLimitCm
  record : record = (recordFields origin wp).flatten

lemma cm_ok {valueM : K} {axis : String} {droneId : Nat} {v : ℤ} : cm valueM axis droneId = .ok v ↔
      |roundHalfEven (valueM * 100)| ≤ posLimitCm ∧ v = roundHalfEven (valueM * 100) := by
  unfold cm
  dsimp only
  rw [abs_le]
  split
  next h => simp [h, eq_comm]
  next h => simp [h]

variable {prevMs timeMs : ℤ} {record : Bytes} {wp : Waypoint K}

lemma encodeRecord_ok {droneId : Nat} {origin : K × K} :
    encodeRecord droneId origin prevMs wp = .ok (timeMs, record) ↔
      Encodes origin prevMs wp timeMs record := by
  unfold encodeRecord
  by_cases hrange : roundHalfEven (wp.time * 1000) < 0 ∨ maxTimeMs < roundHalfEven (wp.time * 1000)
  · simp only [hrange, if_true]
    constructor
    · intro h
      cases h
    · intro h
      have htime := h.time
      have hmem := h.time_mem
      omega
  by_cases horder : roundHalfEven (wp.time * 1000) < prevMs
  · simp only [hrange, horder, if_true, if_false]
    constructor
    · intro h
      cases h
    · intro h
      have htime := h.time
      have hmem := h.time_mem
      omega
  simp only [hrange, horder, if_false]
  constructor
  · intro h
    obtain ⟨x, hx, h⟩ := bind_eq_ok.mp h
    obtain ⟨y, hy, h⟩ := bind_eq_ok.mp h
    obtain ⟨z, hz, h⟩ := bind_eq_ok.mp h
    obtain ⟨hxMem, rfl⟩ := cm_ok.mp hx
    obtain ⟨hyMem, rfl⟩ := cm_ok.mp hy
    obtain ⟨hzMem, rfl⟩ := cm_ok.mp hz
    obtain ⟨rfl, rfl⟩ := Prod.mk.inj (Except.ok.inj h)
    exact ⟨rfl, by omega, hxMem, hyMem, hzMem, by simp [recordFields]⟩
  · intro h
    obtain ⟨rfl, -, hxMem, hyMem, hzMem, rfl⟩ := h
    refine bind_eq_ok.mpr ⟨_, cm_ok.mpr ⟨hxMem, rfl⟩, ?_⟩
    refine bind_eq_ok.mpr ⟨_, cm_ok.mpr ⟨hyMem, rfl⟩, ?_⟩
    refine bind_eq_ok.mpr ⟨_, cm_ok.mpr ⟨hzMem, rfl⟩, ?_⟩
    simp [recordFields, pure, Except.pure]

lemma unpackLE_channel (c : Option ℤ) : (unpackLE (channel c) : ℤ) = c.getD 0 % 256 := by
  have hfits : (c.getD 0 % 256).toNat < 256 ^ 1 := by omega
  rw [channel, unpackLE_packLE hfits]
  omega

lemma Encodes.length {origin : K × K} (h : Encodes origin prevMs wp timeMs record) :
    record.length = recordSize := by
  rw [h.record, List.length_flatten, length_recordFields]
  rfl

lemma Encodes.decode {origin : K × K} (h : Encodes origin prevMs wp timeMs record) (led : Bool)
    (after : Bytes) :
    decodeRecord led (record ++ after) = quantised led origin wp := by
  obtain ⟨rfl, ⟨hpos, hmax, -⟩, hx, hy, hz, rfl⟩ := h
  generalize hblob : (recordFields origin wp).flatten ++ after = blob
  have hslice : ∀ {k start width : Nat} {field : Bytes}, (recordFields origin wp)[k]? = some field →
      (([4, 2, 2, 2, 2, 1, 1, 1, 1] : List Nat).take k).sum = start → field.length = width →
      slice blob start width = field := by
    intro k start width field hfield hstart hwidth
    rw [← length_recordFields origin wp] at hstart
    rw [← hblob]
    exact slice_flatten hfield hstart hwidth after
  have htime : slice blob 0 4 = _ := hslice (k := 0) rfl rfl (length_packLE ..)
  have hx' : slice blob 4 2 = _ := hslice (k := 1) rfl rfl (length_packSigned16 _)
  have hy' : slice blob 6 2 = _ := hslice (k := 2) rfl rfl (length_packSigned16 _)
  have hz' : slice blob 8 2 = _ := hslice (k := 3) rfl rfl (length_packSigned16 _)
  have hyaw : slice blob 10 2 = _ := hslice (k := 4) rfl rfl (length_packLE ..)
  have hr : slice blob 12 1 = _ := hslice (k := 5) rfl rfl (length_packLE ..)
  have hg : slice blob 13 1 = _ := hslice (k := 6) rfl rfl (length_packLE ..)
  have hb : slice blob 14 1 = _ := hslice (k := 7) rfl rfl (length_packLE ..)
  have htimeFits : (roundHalfEven (wp.time * 1000)).toNat < 256 ^ 4 := by
    have : maxTimeMs = 4294967295 := rfl
    omega
  have hyawFits : (roundHalfEven (wp.yaw * 100) % 36000).toNat < 256 ^ 2 := by omega
  have hsigned : ∀ {v : ℤ}, |v| ≤ posLimitCm → unpackSigned16 (packSigned16 v) = v := by
    intro v hv
    have : posLimitCm = 32767 := rfl
    obtain ⟨hlow, hhigh⟩ := abs_le.mp hv
    exact unpackSigned16_packSigned16 (by omega) (by omega)
  have hnat : ∀ {v : ℤ}, 0 ≤ v → (v.toNat : K) = v := by
    intro v hv
    rw [← Int.cast_natCast, Int.toNat_of_nonneg hv]
  simp only [decodeRecord, quantised, htime, hx', hy', hz', hyaw, hr, hg, hb, hsigned hx,
    hsigned hy, hsigned hz, unpackLE_packLE htimeFits, unpackLE_packLE hyawFits, unpackLE_channel,
    hnat hpos, hnat (Int.emod_nonneg (roundHalfEven (wp.yaw * 100)) (by decide : (36000 : ℤ) ≠ 0))]

lemma decode_encodeFrom {droneId : Nat} {origin : K × K} {waypoints : List (Waypoint K)}
    {records : Bytes} (led : Bool) (h : encodeFrom droneId origin prevMs waypoints = .ok records) :
    records.length = waypoints.length * recordSize ∧
      decodeRecords led waypoints.length records = waypoints.map (quantised led origin) := by
  induction waypoints generalizing prevMs records with
  | nil =>
    obtain rfl := Except.ok.inj h
    exact ⟨rfl, rfl⟩
  | cons wp waypoints ih =>
    obtain ⟨⟨timeMs, record⟩, hrecord, h⟩ := bind_eq_ok.mp h
    obtain ⟨rest, hrest, h⟩ := bind_eq_ok.mp h
    obtain rfl := Except.ok.inj h
    have hencodes := encodeRecord_ok.mp hrecord
    obtain ⟨hlen, hdecoded⟩ := ih hrest
    constructor
    · rw [List.length_append, hencodes.length, hlen, List.length_cons, Nat.add_one_mul, Nat.add_comm]
    · rw [List.length_cons, decodeRecords, hencodes.decode, List.map_cons]
      rw [List.drop_left' hencodes.length, hdecoded]

/-! ## The file -/

def durationMs (waypoints : List (Waypoint K)) : ℤ :=
  roundHalfEven ((waypoints.getLast?.elim 0 Waypoint.time) * 1000)

def headerFields (waypoints : List (Waypoint K)) (droneId : Nat) (showId : ShowId)
    (records : Bytes) : List Bytes :=
  [missionMagic, packLE 2 missionFormatVersion,
    packLE 2 (if hasLed waypoints then flagHasLed else 0), packLE 2 droneId, packLE 2 0,
    packLE 4 waypoints.length, packLE 4 (durationMs waypoints).toNat, showId,
    packLE 4 (missionCrc32 records).toNat]

/-- What a file is made of. -/
structure Compiles (waypoints : List (Waypoint K)) (droneId : Nat) (showId : ShowId)
    (origin : K × K) (records blob : Bytes) : Prop where
  showSize : showId.length = showIdSize
  written : encodeRecords waypoints droneId origin = .ok records
  drone : droneId < 256 ^ 2
  count : waypoints.length < 256 ^ 4
  duration : (durationMs waypoints).toNat < 256 ^ 4
  blob : blob = (headerFields waypoints droneId showId records).flatten ++ records

lemma packUnsigned_of_lt {width n : Nat} (h : n < 256 ^ width) :
    packUnsigned width n = .ok (packLE width n) := if_pos h

lemma compileMission_ok {waypoints : List (Waypoint K)} {droneId : Nat} {showId : ShowId}
    {origin : K × K} {blob : Bytes} :
    compileMission waypoints droneId showId origin = .ok blob ↔
      ∃ records, Compiles waypoints droneId showId origin records blob := by
  unfold compileMission
  by_cases hshow : showId.length = showIdSize
  · simp only [hshow, ne_eq, not_true_eq_false, if_false]
    constructor
    · intro h
      obtain ⟨records, hrecords, h⟩ := bind_eq_ok.mp h
      obtain ⟨drone, hdrone, h⟩ := bind_eq_ok.mp h
      obtain ⟨count, hcount, h⟩ := bind_eq_ok.mp h
      obtain ⟨duration, hduration, h⟩ := bind_eq_ok.mp h
      obtain ⟨hdroneFits, rfl⟩ := packUnsigned_ok hdrone
      obtain ⟨hcountFits, rfl⟩ := packUnsigned_ok hcount
      obtain ⟨hdurationFits, rfl⟩ := packUnsigned_ok hduration
      obtain rfl := Except.ok.inj h
      refine ⟨records, hshow, hrecords, hdroneFits, hcountFits, hdurationFits, ?_⟩
      simp [headerFields, durationMs]
    · intro ⟨records, h⟩
      refine bind_eq_ok.mpr ⟨_, h.written, ?_⟩
      refine bind_eq_ok.mpr ⟨_, packUnsigned_of_lt h.drone, ?_⟩
      refine bind_eq_ok.mpr ⟨_, packUnsigned_of_lt h.count, ?_⟩
      refine bind_eq_ok.mpr ⟨_, packUnsigned_of_lt h.duration, ?_⟩
      rw [h.blob]
      simp [headerFields, durationMs, pure, Except.pure]
  · simp only [hshow, ne_eq, not_false_eq_true, if_true]
    constructor
    · intro h
      cases h
    · intro ⟨records, h⟩
      exact absurd h.showSize hshow

lemma length_headerFields (waypoints : List (Waypoint K)) (droneId : Nat) {showId : ShowId}
    (hshow : showId.length = showIdSize) (records : Bytes) :
    (headerFields waypoints droneId showId records).map List.length =
      [4, 2, 2, 2, 2, 4, 4, 16, 4] := by
  simp [headerFields, missionMagic, hshow, showIdSize]

def compiledHeader (waypoints : List (Waypoint K)) (droneId : Nat) (showId : ShowId)
    (records : Bytes) : MissionHeader where
  version := missionFormatVersion
  flags := if hasLed waypoints then flagHasLed else 0
  droneId := droneId
  waypointCount := waypoints.length
  durationMs := (durationMs waypoints).toNat
  showId := showId
  recordsCrc32 := (missionCrc32 records).toNat

section

variable {waypoints : List (Waypoint K)} {droneId : Nat} {showId : ShowId} {origin : K × K}
  {records blob : Bytes}

section

variable (h : Compiles waypoints droneId showId origin records blob)
include h

lemma Compiles.slice {k start width : Nat} {field : Bytes}
    (hfield : (headerFields waypoints droneId showId records)[k]? = some field)
    (hstart : (([4, 2, 2, 2, 2, 4, 4, 16, 4] : List Nat).take k).sum = start)
    (hwidth : field.length = width) : Mission.slice blob start width = field := by
  rw [← length_headerFields waypoints droneId h.showSize records] at hstart
  rw [h.blob]
  exact slice_flatten hfield hstart hwidth records

lemma Compiles.length_header :
    (headerFields waypoints droneId showId records).flatten.length = headerSize := by
  rw [List.length_flatten, length_headerFields waypoints droneId h.showSize]
  rfl

lemma Compiles.header :
    decodeMissionHeader blob = .ok (compiledHeader waypoints droneId showId records) := by
  have hlen : ¬ blob.length < headerSize := by
    rw [h.blob, List.length_append, h.length_header]
    omega
  have hmagic : Mission.slice blob 0 4 = _ := h.slice (k := 0) rfl rfl rfl
  have hversion : Mission.slice blob 4 2 = _ := h.slice (k := 1) rfl rfl (length_packLE ..)
  have hflags : Mission.slice blob 6 2 = _ := h.slice (k := 2) rfl rfl (length_packLE ..)
  have hdrone : Mission.slice blob 8 2 = _ := h.slice (k := 3) rfl rfl (length_packLE ..)
  have hcount : Mission.slice blob 12 4 = _ := h.slice (k := 5) rfl rfl (length_packLE ..)
  have hduration : Mission.slice blob 16 4 = _ := h.slice (k := 6) rfl rfl (length_packLE ..)
  have hshow : Mission.slice blob 20 16 = _ := h.slice (k := 7) rfl rfl h.showSize
  have hcrc : Mission.slice blob 36 4 = _ := h.slice (k := 8) rfl rfl (length_packLE ..)
  have hversion' : unpackLE (packLE 2 missionFormatVersion) = missionFormatVersion := by decide
  have hflags' : (if hasLed waypoints then flagHasLed else 0) < 256 ^ 2 := by
    split <;> decide
  have hcrc' : (missionCrc32 records).toNat < 256 ^ 4 := (missionCrc32 records).isLt
  simp only [decodeMissionHeader, hlen, hmagic, hversion, hversion', hflags, hdrone, hcount,
    hduration, hshow, hcrc, unpackLE_packLE hflags', unpackLE_packLE h.drone,
    unpackLE_packLE h.count, unpackLE_packLE h.duration, unpackLE_packLE hcrc', ne_eq,
    not_true_eq_false, if_false]
  rfl

end

lemma compiledHeader_hasLed :
    (compiledHeader waypoints droneId showId records).hasLed = hasLed waypoints := by
  unfold MissionHeader.hasLed compiledHeader
  cases hasLed waypoints <;> rfl

section

variable (h : Compiles waypoints droneId showId origin records blob)
include h

lemma Compiles.ne_nil : waypoints ≠ [] := by
  intro hnil
  have hwritten := h.written
  rw [hnil] at hwritten
  cases hwritten

lemma Compiles.writtenFrom : encodeFrom droneId origin (-1) waypoints = .ok records :=
  (if_neg h.ne_nil).symm.trans h.written

/-- A compiled file decodes to its header and to its waypoints as the records
hold them. -/
lemma Compiles.decode : decodeMission blob = .ok (compiledHeader waypoints droneId showId records,
      waypoints.map (quantised (hasLed waypoints) origin)) := by
  obtain ⟨hlen, hdecoded⟩ := decode_encodeFrom (hasLed waypoints) h.writtenFrom
  have hdrop : blob.drop headerSize = records := by
    rw [h.blob, List.drop_left' h.length_header]
  refine bind_eq_ok.mpr ⟨_, h.header, ?_⟩
  rw [compiledHeader_hasLed]
  simp only [hdrop, compiledHeader, hlen, hdecoded, ne_eq, not_true_eq_false, if_false]
  rfl

end

end

variable [IsStrictOrderedRing K]

lemma roundHalfEven_scaled (n : ℤ) {scale : K} (hscale : scale ≠ 0) :
    roundHalfEven ((n : K) / scale * scale) = n := by
  rw [div_mul_cancel₀ _ hscale, roundHalfEven_intCast]

variable {led : Bool}

lemma channel_quantised {c : Option ℤ} (h : led = true ∨ c = none) :
    channel (if led then some (c.getD 0 % 256) else none) = channel c := by
  cases led with
  | true => simp [channel]
  | false => simp [h.resolve_left nofun]

lemma recordFields_quantised {origin : K × K}
    (h : led = true ∨ wp.r = none ∧ wp.g = none ∧ wp.b = none) :
    recordFields (0, 0) (quantised led origin wp) = recordFields origin wp := by
  have hhundred : (100 : K) ≠ 0 := by norm_num
  have hthousand : (1000 : K) ≠ 0 := by norm_num
  have hr := channel_quantised (h.imp_right And.left)
  have hg := channel_quantised (h.imp_right fun h => h.2.1)
  have hb := channel_quantised (h.imp_right fun h => h.2.2)
  simp only [recordFields, quantised, sub_zero, roundHalfEven_scaled _ hhundred,
    roundHalfEven_scaled _ hthousand, Int.emod_emod_of_dvd _ (dvd_refl 36000), hr, hg, hb]

lemma Encodes.again {origin : K × K} (h : Encodes origin prevMs wp timeMs record)
    (hled : led = true ∨ wp.r = none ∧ wp.g = none ∧ wp.b = none) :
    Encodes (0, 0) prevMs (quantised led origin wp) timeMs record := by
  have hhundred : (100 : K) ≠ 0 := by norm_num
  have hthousand : (1000 : K) ≠ 0 := by norm_num
  refine ⟨?_, h.time_mem, ?_, ?_, ?_, ?_⟩
  · rw [h.time]
    exact (roundHalfEven_scaled _ hthousand).symm
  · simpa only [quantised, sub_zero, roundHalfEven_scaled _ hhundred] using h.x_mem
  · simpa only [quantised, sub_zero, roundHalfEven_scaled _ hhundred] using h.y_mem
  · simpa only [quantised, roundHalfEven_scaled _ hhundred] using h.z_mem
  · rw [h.record, recordFields_quantised hled]

lemma encodeFrom_again {droneId : Nat} {origin : K × K} {waypoints : List (Waypoint K)}
    {records : Bytes} (h : encodeFrom droneId origin prevMs waypoints = .ok records)
    (hled : led = true ∨ ∀ wp ∈ waypoints, wp.r = none ∧ wp.g = none ∧ wp.b = none) :
    encodeFrom droneId (0, 0) prevMs (waypoints.map (quantised led origin)) = .ok records := by
  induction waypoints generalizing prevMs records with
  | nil => exact h
  | cons wp waypoints ih =>
    obtain ⟨⟨timeMs, record⟩, hrecord, h⟩ := bind_eq_ok.mp h
    obtain ⟨rest, hrest, h⟩ := bind_eq_ok.mp h
    have hagain := (encodeRecord_ok.mp hrecord).again
      (hled.imp_right fun hnone => hnone wp (List.mem_cons_self ..))
    have hrest' := ih hrest (hled.imp_right fun hnone wp hwp =>
      hnone wp (List.mem_cons_of_mem _ hwp))
    exact bind_eq_ok.mpr ⟨_, encodeRecord_ok.mpr hagain, bind_eq_ok.mpr ⟨_, hrest', h⟩⟩

/-! ## The round trip -/

/-- Some waypoint carries a red channel, or none carries any. -/
def LedCarried (waypoints : List (Waypoint K)) : Prop :=
  (∃ wp ∈ waypoints, wp.r.isSome = true) ∨ ∀ wp ∈ waypoints, wp.g = none ∧ wp.b = none

/-- A decoded waypoint is the one compiled, up to the resolution of its record. -/
structure SamePoint (origin : K × K) (wp decoded : Waypoint K) : Prop where
  time : decoded.time = (roundHalfEven (wp.time * 1000) : K) / 1000
  x : |decoded.x - (wp.x - origin.1)| ≤ 1 / 200
  y : |decoded.y - (wp.y - origin.2)| ≤ 1 / 200
  z : |decoded.z - wp.z| ≤ 1 / 200
  yaw : ∃ turns : ℤ, |decoded.yaw - (wp.yaw + 360 * turns)| ≤ 1 / 200
  colour : wp.r.isSome = true ∨ wp.g.isSome = true ∨ wp.b.isSome = true →
    decoded.r = some (wp.r.getD 0 % 256) ∧ decoded.g = some (wp.g.getD 0 % 256) ∧
      decoded.b = some (wp.b.getD 0 % 256)

/-- A file decodes to what it was compiled from, and that compiles to the file. -/
def RoundTrips (waypoints : List (Waypoint K)) (droneId : Nat) (showId : ShowId)
    (origin : K × K) (blob : Bytes) : Prop :=
  ∃ header decoded, decodeMission blob = .ok (header, decoded) ∧ header.droneId = droneId ∧
    header.showId = showId ∧ header.waypointCount = waypoints.length ∧
    (header.durationMs : ℤ) = durationMs waypoints ∧
    List.Forall₂ (SamePoint origin) waypoints decoded ∧
    compileMission decoded droneId showId (0, 0) = .ok blob

lemma abs_quantised_sub_le (v : K) :
    |(roundHalfEven (v * 100) : K) / 100 - v| ≤ 1 / 200 := by
  have h := abs_roundHalfEven_sub_le (v * 100)
  have hscale : (roundHalfEven (v * 100) : K) / 100 - v =
      ((roundHalfEven (v * 100) : K) - v * 100) / 100 := by ring
  rw [hscale, abs_div, abs_of_pos (by norm_num : (0 : K) < 100), div_le_iff₀ (by norm_num)]
  linarith

lemma samePoint_quantised (origin : K × K)
    (hled : led = true ∨ wp.r = none ∧ wp.g = none ∧ wp.b = none) :
    SamePoint origin wp (quantised led origin wp) := by
  refine ⟨rfl, abs_quantised_sub_le _, abs_quantised_sub_le _, abs_quantised_sub_le _, ?_, ?_⟩
  · -- the whole turns taken off a heading
    refine ⟨-(roundHalfEven (wp.yaw * 100) / 36000), ?_⟩
    have hturns := Int.emod_add_mul_ediv (roundHalfEven (wp.yaw * 100)) 36000
    have hcast : ((roundHalfEven (wp.yaw * 100) % 36000 : ℤ) : K) =
        (roundHalfEven (wp.yaw * 100) : K) -
          36000 * ((roundHalfEven (wp.yaw * 100) / 36000 : ℤ) : K) := by
      rw [eq_sub_iff_add_eq]
      exact_mod_cast hturns
    have hbound := abs_quantised_sub_le wp.yaw
    simp only [quantised]
    rw [hcast]
    have hsame : ((roundHalfEven (wp.yaw * 100) : K) -
        36000 * ((roundHalfEven (wp.yaw * 100) / 36000 : ℤ) : K)) / 100 -
          (wp.yaw + 360 * ((-(roundHalfEven (wp.yaw * 100) / 36000) : ℤ) : K)) =
        (roundHalfEven (wp.yaw * 100) : K) / 100 - wp.yaw := by
      push_cast
      ring
    rw [hsame]
    exact hbound
  · intro hany
    obtain rfl | ⟨hr, hg, hb⟩ := hled
    · exact ⟨rfl, rfl, rfl⟩
    · simp [hr, hg, hb] at hany

lemma durationMs_mem {droneId : Nat} {origin : K × K} {waypoints : List (Waypoint K)}
    {records : Bytes} (h : encodeFrom droneId origin prevMs waypoints = .ok records)
    (hne : waypoints ≠ []) :
    0 ≤ durationMs waypoints ∧ durationMs waypoints ≤ maxTimeMs := by
  induction waypoints generalizing prevMs records with
  | nil => exact absurd rfl hne
  | cons wp waypoints ih =>
    obtain ⟨⟨timeMs, record⟩, hrecord, h⟩ := bind_eq_ok.mp h
    obtain ⟨rest, hrest, -⟩ := bind_eq_ok.mp h
    have hencodes := encodeRecord_ok.mp hrecord
    cases waypoints with
    | nil =>
      have hdur : durationMs [wp] = timeMs := hencodes.time.symm
      rw [hdur]
      exact ⟨hencodes.time_mem.1, hencodes.time_mem.2.1⟩
    | cons wp' waypoints => exact ih hrest (List.cons_ne_nil wp' waypoints)

section

variable (led : Bool) (origin : K × K) {waypoints : List (Waypoint K)} (hne : waypoints ≠ [])
include hne

lemma durationMs_quantised :
    durationMs (waypoints.map (quantised led origin)) = durationMs waypoints := by
  obtain ⟨last, hlast⟩ : ∃ last, waypoints.getLast? = some last :=
    ⟨_, List.getLast?_eq_some_getLast hne⟩
  simp only [durationMs, List.getLast?_map, hlast, Option.map_some, Option.elim_some, quantised]
  exact roundHalfEven_scaled _ (by norm_num)

lemma hasLed_quantised : hasLed (waypoints.map (quantised led origin)) = led := by
  obtain ⟨wp, rest, rfl⟩ := List.exists_cons_of_ne_nil hne
  cases led <;> simp [hasLed, quantised]

end

/-- A compiled file comes back exactly if its colours do: if some waypoint has a
red channel, or no waypoint has a green or a blue one. -/
theorem roundTrips_iff {waypoints : List (Waypoint K)} {droneId : Nat} {showId : ShowId}
    {origin : K × K} {blob : Bytes}
    (h : compileMission waypoints droneId showId origin = .ok blob) :
    RoundTrips waypoints droneId showId origin blob ↔ LedCarried waypoints := by
  obtain ⟨records, hcompiles⟩ := compileMission_ok.mp h
  have hne := hcompiles.ne_nil
  have hwritten := hcompiles.writtenFrom
  constructor
  · intro hback
    obtain ⟨header, decoded, hdecode, -, -, -, -, hpoints, -⟩ := hback
    obtain ⟨-, rfl⟩ := Prod.mk.inj (Except.ok.inj (hcompiles.decode.symm.trans hdecode))
    cases hled : hasLed waypoints with
    | true =>
      obtain ⟨wp, hwp, hr⟩ := List.any_eq_true.mp hled
      exact .inl ⟨wp, hwp, hr⟩
    | false =>
      -- a decoded waypoint has no colour at all, so none was carried
      refine .inr fun wp hwp => ?_
      rw [List.forall₂_map_right_iff, List.forall₂_same] at hpoints
      by_contra hcarried
      have hany : wp.r.isSome = true ∨ wp.g.isSome = true ∨ wp.b.isSome = true := by
        simp only [Option.isSome_iff_ne_none]
        tauto
      have hred := ((hpoints wp hwp).colour hany).1
      simp [quantised, hled] at hred
  · intro hcarried
    have hall : hasLed waypoints = true ∨
        ∀ wp ∈ waypoints, wp.r = none ∧ wp.g = none ∧ wp.b = none := by
      cases hled : hasLed waypoints with
      | true => exact .inl rfl
      | false =>
        have hred := List.any_eq_false.mp hled
        refine .inr fun wp hwp => ⟨by simpa using hred wp hwp, ?_⟩
        obtain ⟨wp', hwp', hr⟩ | hnone := hcarried
        · exact absurd hr (hred wp' hwp')
        · exact hnone wp hwp
    have hlast : ((durationMs waypoints).toNat : ℤ) = durationMs waypoints :=
      Int.toNat_of_nonneg (durationMs_mem hwritten hne).1
    refine ⟨_, _, hcompiles.decode, rfl, rfl, rfl, hlast, ?_, ?_⟩
    · rw [List.forall₂_map_right_iff, List.forall₂_same]
      exact fun wp hwp => samePoint_quantised origin (hall.imp_right fun hnone => hnone wp hwp)
    · refine compileMission_ok.mpr ⟨records, hcompiles.showSize, ?_, hcompiles.drone, ?_, ?_, ?_⟩
      · have hne' : waypoints.map (quantised (hasLed waypoints) origin) ≠ [] := by simpa using hne
        exact (if_neg hne').trans (encodeFrom_again hwritten hall)
      · rw [List.length_map]
        exact hcompiles.count
      · rw [durationMs_quantised _ _ hne]
        exact hcompiles.duration
      · rw [hcompiles.blob]
        simp only [headerFields, hasLed_quantised _ _ hne, List.length_map,
          durationMs_quantised _ _ hne]

/-- Lit red, three metres above a pad two metres north of the origin. -/
def redPoint : Waypoint ℚ :=
  { time := 1 / 3, x := 5 / 2, y := 0, z := -3, yaw := -90, r := some 255 }

def greenPoint : Waypoint ℚ := { redPoint with r := none, g := some 255 }

theorem roundTrips_red :
    ∃ blob, compileMission [redPoint] 7 (List.replicate 16 1) (2, 0) = .ok blob ∧
      RoundTrips [redPoint] 7 (List.replicate 16 1) (2, 0) blob := by
  obtain ⟨blob, hblob, -⟩ :
      ∃ blob ∈ (compileMission [redPoint] 7 (List.replicate 16 1) (2, 0)).toOption, True := by
    decide +kernel
  have hcompiled := ok_of_toOption hblob
  exact ⟨blob, hcompiled, (roundTrips_iff hcompiled).mpr (.inl ⟨_, List.mem_singleton_self _, rfl⟩)⟩

/-- The green waypoint decodes to one without colour, and what that compiles to
is another file. -/
theorem green_lost : ∃ blob header decoded again,
      compileMission [greenPoint] 7 (List.replicate 16 1) (2, 0) = .ok blob ∧
      decodeMission (K := ℚ) blob = .ok (header, decoded) ∧ (∀ wp ∈ decoded, wp.g = none) ∧
      compileMission decoded 7 (List.replicate 16 1) (0, 0) = .ok again ∧ again ≠ blob := by
  obtain ⟨blob, hblob, ⟨header, decoded⟩, hdecoded, hnone, again, hagain, hother⟩ :
      ∃ blob ∈ (compileMission [greenPoint] 7 (List.replicate 16 1) (2, 0)).toOption,
      ∃ r ∈ (decodeMission (K := ℚ) blob).toOption, (∀ wp ∈ r.2, wp.g = none) ∧
      ∃ again ∈ (compileMission r.2 7 (List.replicate 16 1) (0, 0)).toOption, again ≠ blob := by
    decide +kernel
  exact ⟨blob, header, decoded, again, ok_of_toOption hblob, ok_of_toOption hdecoded, hnone,
    ok_of_toOption hagain, hother⟩

end Taramandal.Core.RoundTrip
