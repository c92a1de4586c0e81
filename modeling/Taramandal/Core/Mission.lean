import Taramandal.Core.Schema

/-! # Mission files (`mission.py`)

The compact per-drone file a show is compiled to, the identity of a whole show,
and the CRC-32 both carry. Numbers are packed little-endian; a number that does
not fit its field is the `struct.error` of the packer, everything the compiler and the
decoder refuse themselves is a `ValueError` with its text. SHA-256 is a parameter
of the show id. -/
namespace Taramandal.Core.Mission

open Core.Numbers Core.Values Core.Geometry Core.Shows

inductive MissionError where
  | valueError (message : String)
  | structError
  deriving DecidableEq

def MissionError.text : MissionError → String
  | .valueError message => message
  | .structError => "argument out of range"

def crcStep (c : BitVec 32) : BitVec 32 :=
  if c.getLsbD 0 then (c >>> 1) ^^^ 0xEDB88320#32 else c >>> 1

def crcByte (c : BitVec 32) (b : UInt8) : BitVec 32 :=
  crcStep^[8] (c ^^^ b.toBitVec.setWidth 32)

/-- `zlib.crc32`, under its name `mission_crc32` in the upload status. -/
def missionCrc32 (blob : Bytes) : BitVec 32 := ~~~ (blob.foldl crcByte (~~~ 0#32))

example : missionCrc32 "123456789".toUTF8.toList = 0xCBF43926#32 := by decide +kernel

/-- `f"{crc:08x}"`. -/
def crcText (c : BitVec 32) : String :=
  String.ofList ((List.range 8).map fun i => Nat.digitChar (c.toNat / 16 ^ (7 - i) % 16))

/-! ## Packing -/

/-- The `width` low bytes of a number, little-endian. -/
def packLE : Nat → Nat → Bytes
  | 0, _ => []
  | width + 1, n => UInt8.ofNat (n % 256) :: packLE width (n / 256)

/-- An unsigned field of `width` bytes. -/
def packUnsigned (width n : Nat) : Except MissionError Bytes :=
  if n < 256 ^ width then .ok (packLE width n) else .error .structError

def packSigned16 (v : ℤ) : Bytes := packLE 2 (v % 65536).toNat

def missionMagic : Bytes := [0x54, 0x4D, 0x53, 0x4E]

def missionFormatVersion : Nat := 1

def showIdSize : Nat := 16

def flagHasLed : Nat := 1

def posLimitCm : ℤ := 32767

def maxTimeMs : ℤ := 0xFFFFFFFF

def headerSize : Nat := 40

def recordSize : Nat := 16

def triggerSize : Nat := 29

abbrev ShowId := Bytes

variable {K : Type} [Field K] [LinearOrder K]

section

variable [FloorRing K]

def cm (valueM : K) (axis : String) (droneId : Nat) : Except MissionError ℤ :=
  let v := roundHalfEven (valueM * 100)
  if -posLimitCm ≤ v ∧ v ≤ posLimitCm then .ok v
  else .error (.valueError ("drone " ++ toString droneId ++ ": " ++ axis ++ "=" ++ fixed 2 valueM ++
    "m is outside the mission format's ±327.67m range"))

/-- A colour channel, `0` when the waypoint has none. -/
def channel (c : Option ℤ) : Bytes := packLE 1 (c.getD 0 % 256).toNat

def encodeRecord (droneId : Nat) (origin : K × K) (prevMs : ℤ) (wp : Waypoint K) :
    Except MissionError (ℤ × Bytes) := do
  let timeMs := roundHalfEven (wp.time * 1000)
  if timeMs < 0 ∨ maxTimeMs < timeMs then
    throw (.valueError ("drone " ++ toString droneId ++ ": waypoint time " ++ floatStr wp.time ++
      "s is out of range"))
  if timeMs < prevMs then
    throw (.valueError ("drone " ++ toString droneId ++ ": waypoints are not time-ordered (" ++
      toString timeMs ++ "ms follows " ++ toString prevMs ++ "ms)"))
  let x ← cm (wp.x - origin.1) "x" droneId
  let y ← cm (wp.y - origin.2) "y" droneId
  let z ← cm wp.z "z" droneId
  return (timeMs, packLE 4 timeMs.toNat ++ packSigned16 x ++ packSigned16 y ++ packSigned16 z ++
    packLE 2 (roundHalfEven (wp.yaw * 100) % 36000).toNat ++ channel wp.r ++ channel wp.g ++
    channel wp.b ++ [0])

/-- The records of a waypoint list, each no earlier than the one before it. -/
def encodeFrom (droneId : Nat) (origin : K × K) : ℤ → List (Waypoint K) → Except MissionError Bytes
  | _, [] => .ok []
  | prevMs, wp :: wps => do
    let (timeMs, record) ← encodeRecord droneId origin prevMs wp
    let records ← encodeFrom droneId origin timeMs wps
    return record ++ records

/-- `_encode_records`, without the flag. -/
def encodeRecords (waypoints : List (Waypoint K)) (droneId : Nat) (origin : K × K) :
    Except MissionError Bytes :=
  if waypoints = [] then
    .error (.valueError ("drone " ++ toString droneId ++ ": cannot compile an empty waypoint list"))
  else encodeFrom droneId origin (-1) waypoints

/-- `has_led`: some waypoint carries a red channel. -/
def hasLed (waypoints : List (Waypoint K)) : Bool := waypoints.any fun wp => wp.r.isSome

/-- The slots of a show in the order of their ids, packed for the digest. -/
def slotDigests : List (Nat × List (Waypoint K)) → Except MissionError Bytes
  | [] => .ok []
  | (slot, wps) :: rest => do
    let records ← encodeRecords wps slot (0, 0)
    let slotBytes ← packUnsigned 2 slot
    let count ← packUnsigned 4 wps.length
    let more ← slotDigests rest
    return slotBytes ++ count ++ records ++ more

def computeShowId (sha256 : Bytes → Bytes) (trajectory : Show K) : Except MissionError ShowId := do
  let slots ← slotDigests (trajectory.drones.insertionSort fun a b => a.1 ≤ b.1)
  return (sha256 (missionMagic ++ packLE 2 missionFormatVersion ++ slots)).take showIdSize

def compileMission (waypoints : List (Waypoint K)) (droneId : Nat) (showId : ShowId)
    (origin : K × K) : Except MissionError Bytes := do
  if showId.length ≠ showIdSize then
    throw (.valueError ("show_id must be " ++ toString showIdSize ++ " bytes, got " ++
      toString showId.length))
  let records ← encodeRecords waypoints droneId origin
  let drone ← packUnsigned 2 droneId
  let count ← packUnsigned 4 waypoints.length
  let duration ← packUnsigned 4
    (roundHalfEven ((waypoints.getLast?.elim 0 Waypoint.time) * 1000)).toNat
  return missionMagic ++ packLE 2 missionFormatVersion ++
    packLE 2 (if hasLed waypoints then flagHasLed else 0) ++ drone ++ packLE 2 0 ++ count ++
    duration ++ showId ++ packLE 4 (missionCrc32 records).toNat ++ records

end

/-! ## Decoding -/

def unpackLE : Bytes → Nat
  | [] => 0
  | b :: bs => b.toNat + 256 * unpackLE bs

def unpackSigned16 (bs : Bytes) : ℤ :=
  if unpackLE bs < 32768 then unpackLE bs else (unpackLE bs : ℤ) - 65536

def slice (blob : Bytes) (start width : Nat) : Bytes := (blob.drop start).take width

/-- One byte inside a bytes literal quoted with `quote`. -/
def byteRepr (quote b : UInt8) : String :=
  if b = quote ∨ b = 92 then "\\" ++ String.ofList [Char.ofNat b.toNat]
  else if b = 9 then "\\t" else if b = 10 then "\\n" else if b = 13 then "\\r"
  else if 32 ≤ b ∧ b < 127 then String.ofList [Char.ofNat b.toNat]
  else "\\x" ++ String.ofList [Nat.digitChar (b.toNat / 16), Nat.digitChar (b.toNat % 16)]

/-- `f"{bs!r}"` of bytes: single quotes unless only they occur inside. -/
def bytesRepr (bs : Bytes) : String :=
  let quote : UInt8 := if bs.contains 39 && !bs.contains 34 then 34 else 39
  let mark := String.ofList [Char.ofNat quote.toNat]
  "b" ++ mark ++ String.join (bs.map (byteRepr quote)) ++ mark

example : bytesRepr [0x54, 0, 0x27, 0x5C] = "b\"T\\x00'\\\\\"" := by decide +kernel

structure MissionHeader where
  version : Nat
  flags : Nat
  droneId : Nat
  waypointCount : Nat
  durationMs : Nat
  showId : ShowId
  recordsCrc32 : Nat

def MissionHeader.hasLed (header : MissionHeader) : Bool := header.flags % 2 == 1

def decodeMissionHeader (blob : Bytes) : Except MissionError MissionHeader := do
  if blob.length < headerSize then
    throw (.valueError ("mission file is " ++ toString blob.length ++ " bytes, shorter than its " ++
      toString headerSize ++ "-byte header"))
  if slice blob 0 4 ≠ missionMagic then
    throw (.valueError ("not a mission file (magic " ++ bytesRepr (slice blob 0 4) ++ ")"))
  if unpackLE (slice blob 4 2) ≠ missionFormatVersion then
    throw (.valueError ("unsupported mission format version " ++
      toString (unpackLE (slice blob 4 2))))
  return {
    version := unpackLE (slice blob 4 2)
    flags := unpackLE (slice blob 6 2)
    droneId := unpackLE (slice blob 8 2)
    waypointCount := unpackLE (slice blob 12 4)
    durationMs := unpackLE (slice blob 16 4)
    showId := slice blob 20 16
    recordsCrc32 := unpackLE (slice blob 36 4) }

/-- One record as a waypoint in the drone's own frame, with its colour if the
header says there is one. -/
def decodeRecord (hasLed : Bool) (record : Bytes) : Waypoint K :=
  let colour (offset : Nat) : Option ℤ :=
    if hasLed then some (unpackLE (slice record offset 1)) else none
  { time := (unpackLE (slice record 0 4) : K) / 1000
    x := (unpackSigned16 (slice record 4 2) : K) / 100
    y := (unpackSigned16 (slice record 6 2) : K) / 100
    z := (unpackSigned16 (slice record 8 2) : K) / 100
    yaw := (unpackLE (slice record 10 2) : K) / 100
    r := colour 12
    g := colour 13
    b := colour 14 }

/-- `struct.iter_unpack` over a block of `count` records. -/
def decodeRecords (hasLed : Bool) : Nat → Bytes → List (Waypoint K)
  | 0, _ => []
  | count + 1, records =>
    decodeRecord hasLed records :: decodeRecords hasLed count (records.drop recordSize)

def decodeMission (blob : Bytes) : Except MissionError (MissionHeader × List (Waypoint K)) := do
  let header ← decodeMissionHeader blob
  let records := blob.drop headerSize
  if records.length ≠ header.waypointCount * recordSize then
    throw (.valueError ("mission file carries " ++ toString records.length ++
      " record bytes, header promises " ++ toString (header.waypointCount * recordSize)))
  if (missionCrc32 records).toNat ≠ header.recordsCrc32 then
    throw (.valueError "mission records fail their CRC-32 — file is corrupt")
  return (header, decodeRecords header.hasLed header.waypointCount records)

/-! ## The show trigger -/

inductive ShowCommand where
  | start | cancel
  deriving DecidableEq

def ShowCommand.code : ShowCommand → Nat
  | .start => 1
  | .cancel => 2

def encodeShowTrigger (command : ShowCommand) (showId : ShowId) (startUtcUsec : ℤ) :
    Except MissionError Bytes := do
  if showId.length ≠ showIdSize then
    throw (.valueError ("show_id must be " ++ toString showIdSize ++ " bytes, got " ++
      toString showId.length))
  if startUtcUsec < 0 then throw .structError
  let start ← packUnsigned 8 startUtcUsec.toNat
  let body := packLE 1 command.code ++ showId ++ start
  return body ++ packLE 4 (missionCrc32 body).toNat

structure ShowTrigger where
  command : Nat
  showId : ShowId
  startUtcUsec : Nat
  valid : Bool
  deriving DecidableEq

def decodeShowTrigger (payload : Bytes) : Except MissionError ShowTrigger := do
  if payload.length ≠ triggerSize then
    throw (.valueError ("expected " ++ toString triggerSize ++ "-byte trigger, got " ++
      toString payload.length))
  let body := payload.take 25
  let command := unpackLE (slice body 0 1)
  return {
    command
    showId := slice body 1 16
    startUtcUsec := unpackLE (slice body 17 8)
    valid := unpackLE (slice payload 25 4) == (missionCrc32 body).toNat &&
      (command == ShowCommand.start.code || command == ShowCommand.cancel.code) }

end Taramandal.Core.Mission

/-! ## Packed fields read back

A number that fits its field is what the field unpacks to, and a field is what
its number packs to. A record is a row of fields, and a field is found in it by
the length of what stands before it. -/
namespace Taramandal.Core.Packing

open Core.Values Core.Mission

@[simp] lemma length_packLE (width n : Nat) : (packLE width n).length = width := by
  induction width generalizing n with
  | zero => rfl
  | succ width ih => simp [packLE, ih]

variable {width pos : Nat} {blob : Bytes} {b : UInt8}

lemma unpackLE_packLE {n : Nat} (h : n < 256 ^ width) : unpackLE (packLE width n) = n := by
  induction width generalizing n with
  | zero =>
    have hzero : n = 0 := by simpa using h
    simp [packLE, unpackLE, hzero]
  | succ width ih =>
    have hrest : n / 256 < 256 ^ width := by
      rw [Nat.pow_succ] at h
      exact Nat.div_lt_of_lt_mul (by omega)
    have hbyte : (UInt8.ofNat (n % 256)).toNat = n % 256 :=
      UInt8.toNat_ofNat_of_lt' (Nat.mod_lt n (by decide))
    rw [packLE, unpackLE, ih hrest, hbyte]
    omega

lemma packLE_unpackLE (bs : Bytes) : packLE bs.length (unpackLE bs) = bs := by
  induction bs with
  | nil => rfl
  | cons b bs ih =>
    have hb : b.toNat < 256 := b.toNat_lt
    have hlow : (b.toNat + 256 * unpackLE bs) % 256 = b.toNat := by omega
    have hhigh : (b.toNat + 256 * unpackLE bs) / 256 = unpackLE bs := by omega
    rw [List.length_cons, unpackLE, packLE, hlow, hhigh, ih, UInt8.ofNat_toNat]

lemma unpackLE_inj {as bs : Bytes} (hlen : as.length = bs.length)
    (h : unpackLE as = unpackLE bs) : as = bs := by
  rw [← packLE_unpackLE as, ← packLE_unpackLE bs, hlen, h]

lemma packUnsigned_ok {n : Nat} {bs : Bytes} (h : packUnsigned width n = .ok bs) :
    n < 256 ^ width ∧ bs = packLE width n := by
  unfold packUnsigned at h
  split at h
  next hlt => exact ⟨hlt, (Except.ok.inj h).symm⟩
  next => cases h

@[simp] lemma length_packSigned16 (v : ℤ) : (packSigned16 v).length = 2 := by
  simp [packSigned16]

lemma unpackSigned16_packSigned16 {v : ℤ} (hlow : -32768 ≤ v) (hhigh : v ≤ 32767) :
    unpackSigned16 (packSigned16 v) = v := by
  have hfits : (v % 65536).toNat < 256 ^ 2 := by omega
  unfold unpackSigned16 packSigned16
  rw [unpackLE_packLE hfits]
  split <;> omega

lemma slice_skip {before after : Bytes} {start : Nat} (width : Nat) (h : before.length ≤ start) :
    slice (before ++ after) start width = slice after (start - before.length) width := by
  rw [slice, List.drop_append, List.drop_eq_nil_of_le h, List.nil_append, slice]

lemma slice_here {field after : Bytes} (h : field.length = width) :
    slice (field ++ after) 0 width = field := by
  simp [slice, ← h]

/-- The `k`-th field of a row is where the fields before it end. -/
lemma slice_flatten {fields : List Bytes} {k start : Nat} {field : Bytes}
    (hfield : fields[k]? = some field) (hstart : ((fields.map List.length).take k).sum = start)
    (hwidth : field.length = width) (after : Bytes) :
    slice (fields.flatten ++ after) start width = field := by
  induction fields generalizing k start with
  | nil => cases hfield
  | cons f fields ih =>
    rw [List.flatten_cons, List.append_assoc]
    cases k with
    | zero =>
      obtain rfl := Option.some.inj hfield
      obtain rfl : 0 = start := by simpa using hstart
      exact slice_here hwidth
    | succ k =>
      simp only [List.map_cons, List.take_succ_cons, List.sum_cons] at hstart
      rw [slice_skip _ (by omega)]
      exact ih hfield (by omega)

lemma slice_set_of_outside {start : Nat} (h : pos < start ∨ start + width ≤ pos) :
    slice (blob.set pos b) start width = slice blob start width := by
  unfold slice
  rw [List.drop_set]
  split
  · rfl
  · rw [List.take_set_of_le (by omega)]

section

variable {start : Nat} {a : UInt8} (ha : blob[pos]? = some a) (hne : b ≠ a) (hlow : start ≤ pos)
  (hhigh : pos < start + width)
include ha hne hlow hhigh

lemma slice_set_of_inside : slice (blob.set pos b) start width ≠ slice blob start width := by
  intro h
  have hbyte := congrArg (·[pos - start]?) h
  have hplace : start + (pos - start) = pos := by omega
  have hlt : pos < blob.length := (List.getElem?_eq_some_iff.mp ha).1
  simp only [slice, List.getElem?_take, show pos - start < width by omega, if_true,
    List.getElem?_drop, hplace, List.getElem?_set_self hlt, ha, Option.some.injEq] at hbyte
  exact hne hbyte

lemma unpackLE_set_ne :
    unpackLE (slice (blob.set pos b) start width) ≠ unpackLE (slice blob start width) := by
  intro h
  exact slice_set_of_inside ha hne hlow hhigh (unpackLE_inj (by simp [slice]) h)

end

end Taramandal.Core.Packing
