import Taramandal.Core.Mission
import Taramandal.Lib.Binary32

/-! # Compiled shows (`export_tara`, `parse_tara`)

A header, an index entry for each drone, and a record for each waypoint, under a checksum of the
index and the records. What a coordinate or an id does not fit in is refused with a `ValueError`;
what the packer finds too large is a `struct.error`. -/
namespace Taramandal.Studio.Tara

open Core.Numbers Core.Values Core.Mission Lib.Binary32

inductive TaraError where
  | valueError (message : String)
  | structError
  | overflowError

/-- A waypoint of a choreography; what it need not carry has a default. -/
structure TrackPoint (K : Type) where
  time : K
  x : K
  y : K
  z : K
  yaw : Option K := none
  r : Option ℤ := none
  g : Option ℤ := none
  b : Option ℤ := none
  w : Option ℤ := none

structure Track (K : Type) where
  id : ℤ
  waypoints : List (TrackPoint K)

/-- `choreo["drones"]`. -/
abbrev Choreo (K : Type) := List (Track K)

/-- A float with its sign, which a zero has as well. -/
inductive Rate (K : Type) where
  | finite (negative : Bool) (magnitude : K)
  | inf (negative : Bool)
  | nan

/-! ## Packing -/

def taraMagic : Bytes := [0x54, 0x41, 0x52, 0x41]

def taraVersion : ℕ := 1

def taraRecordSize : ℕ := 16

def taraHeaderSize : ℕ := 28

/-- What the fields of a record hold. -/
structure Record where
  timeMs : ℤ
  x : ℤ
  y : ℤ
  z : ℤ
  yaw : ℤ
  r : ℤ
  g : ℤ
  b : ℤ
  w : ℤ
  deriving DecidableEq

namespace Record

def fields (rec : Record) : List Bytes :=
  [packLE 4 rec.timeMs.toNat, packSigned16 rec.x, packSigned16 rec.y, packSigned16 rec.z,
    packSigned16 rec.yaw, packLE 1 rec.r.toNat, packLE 1 rec.g.toNat, packLE 1 rec.b.toNat,
    packLE 1 rec.w.toNat]

def bytes (rec : Record) : Bytes := rec.fields.flatten

/-- Every number is in the range of its field. -/
structure Fits (rec : Record) : Prop where
  timeMs : 0 ≤ rec.timeMs ∧ rec.timeMs ≤ maxTimeMs
  x : -32768 ≤ rec.x ∧ rec.x ≤ 32767
  y : -32768 ≤ rec.y ∧ rec.y ≤ 32767
  z : -32768 ≤ rec.z ∧ rec.z ≤ 32767
  yaw : -32768 ≤ rec.yaw ∧ rec.yaw ≤ 32767
  r : 0 ≤ rec.r ∧ rec.r ≤ 255
  g : 0 ≤ rec.g ∧ rec.g ≤ 255
  b : 0 ≤ rec.b ∧ rec.b ≤ 255
  w : 0 ≤ rec.w ∧ rec.w ≤ 255

instance (rec : Record) : Decidable rec.Fits :=
  decidable_of_iff ((0 ≤ rec.timeMs ∧ rec.timeMs ≤ maxTimeMs) ∧ (-32768 ≤ rec.x ∧ rec.x ≤ 32767) ∧
      (-32768 ≤ rec.y ∧ rec.y ≤ 32767) ∧ (-32768 ≤ rec.z ∧ rec.z ≤ 32767) ∧
      (-32768 ≤ rec.yaw ∧ rec.yaw ≤ 32767) ∧ (0 ≤ rec.r ∧ rec.r ≤ 255) ∧
      (0 ≤ rec.g ∧ rec.g ≤ 255) ∧ (0 ≤ rec.b ∧ rec.b ≤ 255) ∧ (0 ≤ rec.w ∧ rec.w ≤ 255))
    ⟨fun ⟨h1, h2, h3, h4, h5, h6, h7, h8, h9⟩ => ⟨h1, h2, h3, h4, h5, h6, h7, h8, h9⟩,
      fun ⟨h1, h2, h3, h4, h5, h6, h7, h8, h9⟩ => ⟨h1, h2, h3, h4, h5, h6, h7, h8, h9⟩⟩

/-- `struct.pack(TARA_RECORD_FMT, …)`. -/
def pack (rec : Record) : Except TaraError Bytes :=
  if rec.Fits then .ok rec.bytes else .error .structError

/-- `struct.unpack_from(TARA_RECORD_FMT, …)`, of as many bytes as a record has. -/
def unpack (bs : Bytes) : Record where
  timeMs := unpackLE (slice bs 0 4)
  x := unpackSigned16 (slice bs 4 2)
  y := unpackSigned16 (slice bs 6 2)
  z := unpackSigned16 (slice bs 8 2)
  yaw := unpackSigned16 (slice bs 10 2)
  r := unpackLE (slice bs 12 1)
  g := unpackLE (slice bs 13 1)
  b := unpackLE (slice bs 14 1)
  w := unpackLE (slice bs 15 1)

end Record

/-- An unsigned field of `width` bytes. -/
def field (width n : ℕ) : Except TaraError Bytes :=
  if n < 256 ^ width then .ok (packLE width n) else .error .structError

variable {K : Type} [Field K] [LinearOrder K]

section

variable [FloorRing K]

def pattern (negative : Bool) (magnitude : ℕ) : ℕ :=
  if negative then magnitude + 2 ^ 31 else magnitude

/-- An `f` of `struct.pack`. -/
def packRate : Rate K → Except TaraError Bytes
  | .finite negative magnitude =>
    if infinity ≤ bits roundHalfEven |magnitude| then .error .overflowError
    else .ok (packLE 4 (pattern negative (bits roundHalfEven |magnitude|)))
  | .inf negative => .ok (packLE 4 (pattern negative infinity))
  | .nan => .ok (packLE 4 (pattern false (infinity + 2 ^ 22)))

end

/-- An `f` of `struct.unpack`. -/
def unpackRate (bs : Bytes) : Rate K :=
  let n := unpackLE bs
  if n / 2 ^ 23 % 256 = 255 then if n % 2 ^ 23 = 0 then .inf (n / 2 ^ 31 = 1) else .nan
  else .finite (n / 2 ^ 31 = 1) (value (n % 2 ^ 31))

section

variable [FloorRing K]

def clampI16 (value : K) (name : String) : Except TaraError ℤ :=
  let v := roundHalfEven value
  if -32768 ≤ v ∧ v ≤ 32767 then .ok v
  else .error (.valueError (name ++ "=" ++ floatStr value ++ " exceeds int16 range once scaled (" ++
    toString v ++ ")"))

def wrapYawCdeg (yawDeg : K) : ℤ := roundHalfEven ((fmod (yawDeg + 180) 360 - 180) * 100)

/-- `sorted(waypoints, key=lambda w: w["time"])`. -/
def sortByTime (waypoints : List (TrackPoint K)) : List (TrackPoint K) :=
  waypoints.insertionSort fun a b => a.time ≤ b.time

/-- One record, its arguments in the order they are computed. -/
def frameRecord (wp : TrackPoint K) : Except TaraError Bytes := do
  let x ← clampI16 (wp.x * 100) "x"
  let y ← clampI16 (wp.y * 100) "y"
  let z ← clampI16 (wp.z * 100) "z"
  Record.pack
    { timeMs := roundHalfEven (wp.time * 1000), x, y, z, yaw := wrapYawCdeg (wp.yaw.getD 0),
      r := wp.r.getD 255 % 256, g := wp.g.getD 255 % 256, b := wp.b.getD 255 % 256,
      w := wp.w.getD 0 % 256 }

def frameBlock : List (TrackPoint K) → Except TaraError Bytes
  | [] => .ok []
  | wp :: wps => do
    let record ← frameRecord wp
    let rest ← frameBlock wps
    return record ++ rest

/-- `_frame_records`: each id with its block. -/
def frameRecords : Choreo K → Except TaraError (List (ℕ × Bytes))
  | [] => .ok []
  | drone :: rest =>
    if 0 ≤ drone.id ∧ drone.id ≤ 0xFFFF then do
      let block ← frameBlock (sortByTime drone.waypoints)
      let blocks ← frameRecords rest
      return (drone.id.toNat, block) :: blocks
    else .error (.valueError ("drone id " ++ toString drone.id ++ " outside uint16 range"))

/-- The index, with the number of records of each block. -/
def indexOf : List (ℕ × Bytes) → Except TaraError Bytes
  | [] => .ok []
  | (id, block) :: blocks => do
    let idBytes ← field 2 id
    let count ← field 2 (block.length / taraRecordSize)
    let rest ← indexOf blocks
    return idBytes ++ count ++ rest

def durationMs (choreo : Choreo K) : ℤ :=
  ((choreo.flatMap Track.waypoints).map fun wp => roundHalfEven (wp.time * 1000)).foldl max 0

def totalFrames (blocks : List (ℕ × Bytes)) : ℕ :=
  (blocks.map fun b => b.2.length / taraRecordSize).sum

def container (droneCount totalFrames : ℕ) (rateHz : Rate K) (durationMs : ℕ) (payload : Bytes) :
    Except TaraError Bytes := do
  let droneCount ← field 2 droneCount
  let frameCount ← field 4 totalFrames
  let rate ← packRate rateHz
  let duration ← field 4 durationMs
  return taraMagic ++ packLE 2 taraVersion ++ droneCount ++ frameCount ++ rate ++ duration ++
    packLE 4 0 ++ packLE 4 (missionCrc32 payload).toNat ++ payload

def exportTara (choreo : Choreo K) (rateHz : Rate K) : Except TaraError Bytes := do
  let blocks ← frameRecords choreo
  let index ← indexOf blocks
  container blocks.length (totalFrames blocks) rateHz (durationMs choreo).toNat
    (index ++ (blocks.map Prod.snd).flatten)

end

/-- What a file says. -/
structure Parsed (K : Type) where
  version : ℕ
  rateHz : Rate K
  durationMs : ℕ
  frameCount : ℕ
  checksum : ℕ
  drones : Choreo K

def Record.waypoint [FloorRing K] (rec : Record) : TrackPoint K where
  time := rec.timeMs / 1000
  x := rec.x / 100
  y := rec.y / 100
  z := rec.z / 100
  yaw := some (fmod (rec.yaw / 100) 360)
  r := some rec.r
  g := some rec.g
  b := some rec.b
  w := some rec.w

def parseRecords : ℕ → Bytes → Except TaraError (List Record × Bytes)
  | 0, records => .ok ([], records)
  | n + 1, records =>
    if records.length < taraRecordSize then .error .structError
    else do
      let (wps, rest) ← parseRecords n (records.drop taraRecordSize)
      return (Record.unpack records :: wps, rest)

def parseDrones : ℕ → Bytes → Bytes → Except TaraError (List (ℕ × List Record))
  | 0, _, _ => .ok []
  | n + 1, index, records =>
    if index.length < 4 then .error .structError
    else do
      let (wps, rest) ← parseRecords (unpackLE (slice index 2 2)) records
      let drones ← parseDrones n (index.drop 4) rest
      return (unpackLE (slice index 0 2), wps) :: drones

def parsePayload (droneCount : ℕ) (payload : Bytes) : Except TaraError (List (ℕ × List Record)) :=
  parseDrones droneCount (payload.take (droneCount * 4)) (payload.drop (droneCount * 4))

def parseTara [FloorRing K] (blob : Bytes) : Except TaraError (Parsed K) :=
  if blob.length < taraHeaderSize then
    .error (.valueError "not a .tara file: shorter than one header")
  else if slice blob 0 4 ≠ taraMagic then
    .error (.valueError ("not a .tara file: bad magic " ++ bytesRepr (slice blob 0 4)))
  else if unpackLE (slice blob 4 2) ≠ taraVersion then
    .error (.valueError ("unsupported .tara version " ++ toString (unpackLE (slice blob 4 2))))
  else if (missionCrc32 (blob.drop taraHeaderSize)).toNat ≠ unpackLE (slice blob 24 4) then
    .error (.valueError "checksum mismatch: file is corrupt or truncated")
  else do
    let drones ← parsePayload (unpackLE (slice blob 6 2)) (blob.drop taraHeaderSize)
    return {
      version := unpackLE (slice blob 4 2)
      rateHz := unpackRate (slice blob 12 4)
      durationMs := unpackLE (slice blob 16 4)
      frameCount := unpackLE (slice blob 8 4)
      checksum := unpackLE (slice blob 24 4)
      drones := drones.map fun d => ⟨d.1, d.2.map Record.waypoint⟩ }

end Taramandal.Studio.Tara
