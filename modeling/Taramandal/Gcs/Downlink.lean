import Taramandal.Core.Mission
import Taramandal.Lib.Run

/-! # What the drones accept

Frames are lost, delayed, repeated and reordered, and other senders put theirs
among them. What a receiver has accepted is an increasing sequence of the
manager's own frames, each of them at most once; and no frame it has dropped
stands in the way of a later one. -/

/-! ## The authenticated downlink (`broadcast_manager.py`)

One frame for the whole fleet, ten times a second, each with a tag under the
show's key and a counter that only grows. HMAC-SHA256 is a parameter, and nobody
but the manager can make a tag that verifies (`Unforged`); everything else the
radio may do to frames, including what it delivers of its own making, is a label
of the system below. -/
namespace Taramandal.Gcs.Broadcast

open Lib.Run Core.Numbers Core.Values Core.Mission Core.Packing

inductive SwarmState where
  | idle | armed | run | hold | rtl | estop
  deriving DecidableEq

def SwarmState.code : SwarmState → Nat
  | .idle => 0
  | .armed => 1
  | .run => 2
  | .hold => 3
  | .rtl => 4
  | .estop => 5

inductive FrameStatus where
  | ok | malformed | badTag | clockSkew | replayed
  deriving DecidableEq

def payloadSize : Nat := 32

def authTagSize : Nat := 8

def authTagOffset : Nat := payloadSize - authTagSize

def authDomain : Bytes := "TARA-BCAST".toUTF8.toList ++ [1]

def showKeyMinBytes : Nat := 16

/-- A key that `_check_key` lets through. -/
structure ShowKey where
  bytes : Bytes
  longEnough : showKeyMinBytes ≤ bytes.length

/-- `hmac.new(key, message, sha256).digest()`. -/
abbrev Hmac := Bytes → Bytes → Bytes

def authTag (hmac : Hmac) (key : ShowKey) (authenticated : Bytes) : Bytes :=
  (hmac key.bytes (authDomain ++ authenticated)).take authTagSize

/-- `sync_checksum`, of numbers that fit their fields. -/
def syncChecksum (utc state sequenceId : Nat) : Nat :=
  let total := utc % 2 ^ 32 + utc / 2 ^ 32 + (state % 256 + sequenceId % 2 ^ 32)
  let total := total % 65536 + total / 65536
  (total + total / 65536) % 65536

/-- An unsigned field of `width` bytes, of any integer. -/
def packInteger (width : Nat) (v : ℤ) : Except MissionError Bytes :=
  if v < 0 then .error .structError else packUnsigned width v.toNat

def encodeBroadcastFrame (hmac : Hmac) (key : ShowKey) (utc : ℤ) (state : SwarmState)
    (sequenceId frameCounter : ℤ) : Except MissionError Bytes := do
  let time ← packInteger 8 utc
  let sequence ← packInteger 4 sequenceId
  let checksum := packLE 2 (syncChecksum utc.toNat state.code sequenceId.toNat)
  let counter ← packInteger 8 frameCounter
  let body := time ++ (packLE 1 state.code ++ (sequence ++ (checksum ++ (counter ++ [0]))))
  return body ++ authTag hmac key body

/-- A decoded frame, with the verdict on it. -/
structure Frame where
  utcTimestampUsec : Nat
  state : Nat
  sequenceId : Nat
  syncChecksum : Nat
  frameCounter : Nat
  status : FrameStatus

/-- The tag of a payload is the one its body has under the key. -/
def Verifies (hmac : Hmac) (key : ShowKey) (payload : Bytes) : Prop :=
  payload.drop authTagOffset = authTag hmac key (payload.take authTagOffset)

instance (hmac : Hmac) (key : ShowKey) (payload : Bytes) : Decidable (Verifies hmac key payload) :=
  inferInstanceAs (Decidable (_ = _))

def decodeBroadcastFrame (hmac : Hmac) (payload : Bytes) (key : ShowKey) : Except String Frame :=
  if payload.length ≠ payloadSize then
    .error ("expected " ++ toString payloadSize ++ "-byte payload, got " ++
      toString payload.length)
  else .ok {
    utcTimestampUsec := unpackLE (slice payload 0 8)
    state := unpackLE (slice payload 8 1)
    sequenceId := unpackLE (slice payload 9 4)
    syncChecksum := unpackLE (slice payload 13 2)
    frameCounter := unpackLE (slice payload 15 8)
    status := if Verifies hmac key payload then .ok else .badTag }

/-- `BroadcastManager`, without the callables it is given. -/
structure BroadcastManager where
  key : ShowKey
  state : SwarmState := .idle
  sequenceId : ℤ := 0
  framesSent : Nat := 0
  frameCounter : ℤ := 0

variable {K : Type} [Field K] [LinearOrder K] [FloorRing K]

def usec (seconds : K) : ℤ := trunc (seconds * 1000000)

/-- `build_frame`: the counter moves also when the packing fails. -/
def BroadcastManager.buildFrame (hmac : Hmac) (clock : K) (m : BroadcastManager) :
    BroadcastManager × Except MissionError Bytes :=
  let now := usec clock
  let m := { m with frameCounter := max (m.frameCounter + 1) now }
  (m, encodeBroadcastFrame hmac m.key now m.state m.sequenceId m.frameCounter)

/-- `tick`: the payload handed to the radio. -/
def BroadcastManager.tick (hmac : Hmac) (clock : K) (m : BroadcastManager) :
    BroadcastManager × Except MissionError Bytes :=
  match m.buildFrame hmac clock with
  | (m, .ok payload) => ({ m with framesSent := m.framesSent + 1 }, .ok payload)
  | (m, .error e) => (m, .error e)

structure BroadcastReceiver where
  key : ShowKey
  maxSkewUsec : ℤ
  lastFrameCounter : Option Nat := none
  lastFrame : Option Frame := none

/-- `BroadcastReceiver.__init__`. -/
def BroadcastReceiver.new (key : ShowKey) (maxSkewS : K) : BroadcastReceiver where
  key := key
  maxSkewUsec := usec maxSkewS

/-- The frame's timestamp is within the receiver's skew of its clock. -/
def InSkew (r : BroadcastReceiver) (clock : K) (frame : Frame) : Prop :=
  |usec clock - (frame.utcTimestampUsec : ℤ)| ≤ r.maxSkewUsec

instance (r : BroadcastReceiver) (clock : K) (frame : Frame) : Decidable (InSkew r clock frame) :=
  inferInstanceAs (Decidable (_ ≤ _))

/-- `receive`: the frame with its status, `none` for a malformed payload. -/
def BroadcastReceiver.receive (hmac : Hmac) (payload : Bytes) (clock : K) (r : BroadcastReceiver) :
    BroadcastReceiver × Option Frame :=
  match decodeBroadcastFrame hmac payload r.key with
  | .error _ => (r, none)
  | .ok frame =>
    if frame.status ≠ .ok then (r, some frame)
    else if ¬ InSkew r clock frame then (r, some { frame with status := .clockSkew })
    else if r.lastFrameCounter.any (frame.frameCounter ≤ ·) then
      (r, some { frame with status := .replayed })
    else
      ({ r with lastFrameCounter := some frame.frameCounter, lastFrame := some frame }, some frame)

end Taramandal.Gcs.Broadcast

namespace Taramandal.Gcs.Downlink

open Lib.Run Core.Numbers Core.Values Core.Mission Core.Packing Lib.Check Gcs.Broadcast

/-! ## The codec -/

lemma packInteger_ok {width : Nat} {v : ℤ} {bs : Bytes} (h : packInteger width v = .ok bs) :
    bs.length = width ∧ (unpackLE bs : ℤ) = v := by
  unfold packInteger at h
  split at h
  · cases h
  next hpos =>
    obtain ⟨hlt, rfl⟩ := packUnsigned_ok h
    refine ⟨length_packLE .., ?_⟩
    rw [unpackLE_packLE hlt]
    omega

lemma length_authTag {hmac : Hmac} (hdigest : ∀ k m, (hmac k m).length = 32) (key : ShowKey)
    (bs : Bytes) : (authTag hmac key bs).length = authTagSize := by
  simp [authTag, hdigest, authTagSize]

lemma decode_encode {hmac : Hmac} (hdigest : ∀ k m, (hmac k m).length = 32) {key : ShowKey}
    {utc sequenceId frameCounter : ℤ} {state : SwarmState} {payload : Bytes}
    (h : encodeBroadcastFrame hmac key utc state sequenceId frameCounter = .ok payload) :
    ∃ frame, decodeBroadcastFrame hmac payload key = .ok frame ∧ frame.status = .ok ∧
      (frame.utcTimestampUsec : ℤ) = utc ∧ frame.state = state.code ∧
      (frame.sequenceId : ℤ) = sequenceId ∧ (frame.frameCounter : ℤ) = frameCounter := by
  unfold encodeBroadcastFrame at h
  obtain ⟨time, htime, h⟩ := bind_eq_ok.mp h
  obtain ⟨sequence, hsequence, h⟩ := bind_eq_ok.mp h
  obtain ⟨counter, hcounter, h⟩ := bind_eq_ok.mp h
  obtain ⟨htimeLen, htime⟩ := packInteger_ok htime
  obtain ⟨hsequenceLen, hsequence⟩ := packInteger_ok hsequence
  obtain ⟨hcounterLen, hcounter⟩ := packInteger_ok hcounter
  generalize hchecksum : packLE 2 (syncChecksum utc.toNat state.code sequenceId.toNat) = checksum
    at h
  have hchecksumLen : checksum.length = 2 := by rw [← hchecksum]; simp
  generalize hbody : time ++ (packLE 1 state.code ++
    (sequence ++ (checksum ++ (counter ++ [0])))) = body at h
  have hbodyLen : body.length = authTagOffset := by
    simp [← hbody, htimeLen, hsequenceLen, hchecksumLen, hcounterLen, authTagOffset, payloadSize,
      authTagSize]
  have htagLen := length_authTag hdigest key body
  obtain rfl : body ++ authTag hmac key body = payload := Except.ok.inj h
  have hlen : (body ++ authTag hmac key body).length = payloadSize := by
    simp [hbodyLen, htagLen, authTagOffset, payloadSize, authTagSize]
  have hverifies : Verifies hmac key (body ++ authTag hmac key body) := by
    simp [Verifies, ← hbodyLen]
  have hstate : state.code < 256 ^ 1 := by cases state <;> decide
  -- each field is found where the widths before it end
  have hslice : ∀ {k start width : Nat} {field : Bytes},
      [time, packLE 1 state.code, sequence, checksum, counter, [0]][k]? = some field →
        (([8, 1, 4, 2, 8, 1] : List Nat).take k).sum = start → field.length = width →
          slice (body ++ authTag hmac key body) start width = field := by
    intro k start width field hfield hstart hwidth
    have hflat : body = [time, packLE 1 state.code, sequence, checksum, counter, [0]].flatten := by
      simp [← hbody]
    have hwidths : [time, packLE 1 state.code, sequence, checksum, counter, [0]].map List.length =
        [8, 1, 4, 2, 8, 1] := by
      simp [htimeLen, hsequenceLen, hchecksumLen, hcounterLen]
    rw [hflat]
    exact slice_flatten hfield (hwidths ▸ hstart) hwidth _
  refine ⟨_, if_neg (not_not.mpr hlen), if_pos hverifies, ?_, ?_, ?_, ?_⟩
  · exact (congrArg _ (congrArg _ (hslice (k := 0) rfl rfl htimeLen))).trans htime
  · exact (congrArg _ (hslice (k := 1) rfl rfl (length_packLE ..))).trans (unpackLE_packLE hstate)
  · exact (congrArg _ (congrArg _ (hslice (k := 2) rfl rfl hsequenceLen))).trans hsequence
  · exact (congrArg _ (congrArg _ (hslice (k := 4) rfl rfl hcounterLen))).trans hcounter

lemma verifies_of_decode {hmac : Hmac} {key : ShowKey} {payload : Bytes} {frame : Frame}
    (h : decodeBroadcastFrame hmac payload key = .ok frame) (hauthentic : frame.status = .ok) :
    payload.length = payloadSize ∧ Verifies hmac key payload := by
  unfold decodeBroadcastFrame at h
  split at h
  · cases h
  next hlen =>
    obtain rfl := Except.ok.inj h
    refine ⟨not_not.mp hlen, ?_⟩
    by_contra hbad
    simp [hbad] at hauthentic

variable {K : Type} [Field K] [LinearOrder K] [FloorRing K]

/-- A frame that passes every check, in their order. -/
structure Passes (hmac : Hmac) (payload : Bytes) (clock : K) (r : BroadcastReceiver)
    (frame : Frame) : Prop where
  decoded : decodeBroadcastFrame hmac payload r.key = .ok frame
  authentic : frame.status = .ok
  inSkew : InSkew r clock frame
  fresh : r.lastFrameCounter.any (frame.frameCounter ≤ ·) = false

lemma receive_of_passes {hmac : Hmac} {payload : Bytes} {clock : K} {r : BroadcastReceiver}
    {frame : Frame} (h : Passes hmac payload clock r frame) :
    r.receive hmac payload clock =
      ({ r with lastFrameCounter := some frame.frameCounter, lastFrame := some frame },
        some frame) := by
  obtain ⟨hdecoded, hauthentic, hskew, hfresh⟩ := h
  simp [BroadcastReceiver.receive, hdecoded, hauthentic, hskew, hfresh]

lemma receive_cases (hmac : Hmac) (payload : Bytes) (clock : K) (r : BroadcastReceiver) :
    (∃ frame, Passes hmac payload clock r frame) ∨ (r.receive hmac payload clock).1 = r ∧
        ∀ frame, (r.receive hmac payload clock).2 = some frame → frame.status ≠ .ok := by
  unfold BroadcastReceiver.receive
  split
  next => exact .inr ⟨rfl, nofun⟩
  next frame hdecoded =>
    by_cases hauthentic : frame.status = .ok
    · by_cases hskew : InSkew r clock frame
      · by_cases hfresh : r.lastFrameCounter.any (frame.frameCounter ≤ ·) = true
        · refine .inr ⟨by simp [hauthentic, hskew, hfresh], fun f hf => ?_⟩
          simp only [hauthentic, hskew, hfresh, ne_eq, not_true_eq_false, if_false, if_true,
            Option.some.injEq] at hf
          simp [← hf]
        · exact .inl ⟨frame, hdecoded, hauthentic, hskew, Bool.eq_false_of_not_eq_true hfresh⟩
      · refine .inr ⟨by simp [hauthentic, hskew], fun f hf => ?_⟩
        simp only [hauthentic, hskew, ne_eq, not_true_eq_false, not_false_eq_true, if_false,
          if_true, Option.some.injEq] at hf
        simp [← hf]
    · refine .inr ⟨by simp [hauthentic], fun f hf => ?_⟩
      simp only [hauthentic, ne_eq, not_false_eq_true, if_true, Option.some.injEq] at hf
      rw [← hf]
      exact hauthentic

/-! ## The radio -/

/-- A frame of the manager's, with what it put into it. -/
structure SentFrame where
  payload : Bytes
  utcTimestampUsec : ℤ
  state : SwarmState
  sequenceId : ℤ
  frameCounter : ℤ

/-- A frame a receiver has accepted, and its clock then. -/
structure Accepted (K : Type) where
  payload : Bytes
  frame : Frame
  clock : K

/-- The manager, everything it has sent, and one receiver. -/
structure Radio where
  manager : BroadcastManager
  sent : List SentFrame
  receiver : BroadcastReceiver

/-- The manager is told something or sends a frame; or the receiver is handed a
payload, whoever made it and whenever. -/
inductive RadioLabel (K : Type) where
  | setState (state : SwarmState)
  | setSequence (sequenceId : ℤ)
  | tick (clock : K)
  | deliver (payload : Bytes) (clock : K)

/-- One step, with the frame it made the receiver accept. -/
def radioStep (hmac : Hmac) : System Radio (RadioLabel K) (Accepted K)
  | s, .setState state => some ({ s with manager := { s.manager with state } }, [])
  | s, .setSequence sequenceId =>
    some ({ s with manager := { s.manager with sequenceId } }, [])
  | s, .tick clock =>
    match s.manager.tick hmac clock with
    | (m, .ok payload) =>
      some ({ s with
        manager := m
        sent := s.sent ++ [⟨payload, usec clock, m.state, m.sequenceId, m.frameCounter⟩] }, [])
    | (m, .error _) => some ({ s with manager := m }, [])
  | s, .deliver payload clock =>
    match s.receiver.receive hmac payload clock with
    | (r, some frame) =>
      some ({ s with receiver := r }, if frame.status = .ok then [⟨payload, frame, clock⟩] else [])
    | (r, none) => some ({ s with receiver := r }, [])

/-- The tag is unforgeable: a delivered payload whose tag verifies is one the
manager has sent. -/
def Unforged (hmac : Hmac) (s : Radio) : RadioLabel K → Prop
  | .deliver payload _ =>
    payload.length = payloadSize → Verifies hmac s.receiver.key payload →
      ∃ e ∈ s.sent, e.payload = payload
  | _ => True

instance (hmac : Hmac) (s : Radio) : ∀ l : RadioLabel K, Decidable (Unforged hmac s l)
  | .setState _ => .isTrue trivial
  | .setSequence _ => .isTrue trivial
  | .tick _ => .isTrue trivial
  | .deliver _ _ => inferInstanceAs (Decidable (_ → _ → ∃ e ∈ s.sent, _))

def Radio.start (manager : BroadcastManager) (maxSkewS : K) : Radio where
  manager := manager
  sent := []
  receiver := .new manager.key maxSkewS

/-- The frame `e` of the manager's as the receiver reads it. -/
structure ReadsAs (hmac : Hmac) (key : ShowKey) (e : SentFrame) (frame : Frame) : Prop where
  decoded : decodeBroadcastFrame hmac e.payload key = .ok frame
  authentic : frame.status = .ok
  time : (frame.utcTimestampUsec : ℤ) = e.utcTimestampUsec
  state : frame.state = e.state.code
  sequence : (frame.sequenceId : ℤ) = e.sequenceId
  counter : (frame.frameCounter : ℤ) = e.frameCounter

/-! ## Every run -/

/-- What the receiver remembers is the last of the frames it has accepted, and
those are the manager's, in the order of their counters. -/
structure Tracks (hmac : Hmac) (key : ShowKey) (maxSkewUsec : ℤ) (acc : List (Accepted K))
    (s : Radio) : Prop where
  manager : s.manager.key = key
  receiver : s.receiver.key = key
  skew : s.receiver.maxSkewUsec = maxSkewUsec
  genuine : ∀ e ∈ s.sent, ∃ frame, ReadsAs hmac key e frame
  increasing : acc.Pairwise fun a b => a.frame.frameCounter < b.frame.frameCounter
  last : s.receiver.lastFrameCounter = acc.getLast?.map fun a => a.frame.frameCounter
  accepted : ∀ a ∈ acc, ∃ e ∈ s.sent, e.payload = a.payload ∧ ReadsAs hmac key e a.frame ∧
    |usec a.clock - e.utcTimestampUsec| ≤ maxSkewUsec

section

variable {hmac : Hmac} {key : ShowKey} {maxSkewUsec : ℤ} {acc : List (Accepted K)} {s : Radio}

section

variable (h : Tracks hmac key maxSkewUsec acc s)
include h

lemma Tracks.fresh_iff (c : Nat) :
    s.receiver.lastFrameCounter.any (c ≤ ·) = false ↔ ∀ a ∈ acc, a.frame.frameCounter < c := by
  rw [h.last]
  obtain rfl | ⟨before, last, rfl⟩ := acc.eq_nil_or_concat
  · simp
  have hincreasing := h.increasing
  rw [List.concat_eq_append, List.pairwise_append] at hincreasing
  have hbefore : ∀ a ∈ before, a.frame.frameCounter < last.frame.frameCounter :=
    fun a ha => hincreasing.2.2 a ha last (List.mem_singleton_self _)
  simp only [List.concat_eq_append, List.getLast?_concat, Option.map_some, Option.any_some,
    decide_eq_false_iff_not, not_le, List.mem_append, List.mem_singleton]
  constructor
  · intro hlast a ha
    obtain ha | rfl := ha
    · exact (hbefore a ha).trans hlast
    · exact hlast
  · intro hall
    exact hall last (.inr rfl)

lemma Tracks.sent {m : BroadcastManager} {e : SentFrame}
    (hkey : m.key = key) (he : ∃ frame, ReadsAs hmac key e frame) :
    Tracks hmac key maxSkewUsec acc { s with manager := m, sent := s.sent ++ [e] } where
  manager := hkey
  receiver := h.receiver
  skew := h.skew
  genuine e' he' := by
    obtain he' | he' := List.mem_append.mp he'
    · exact h.genuine e' he'
    · rw [List.mem_singleton.mp he']
      exact he
  increasing := h.increasing
  last := h.last
  accepted a ha :=
    have ⟨e', he', hrest⟩ := h.accepted a ha
    ⟨e', List.mem_append_left _ he', hrest⟩

lemma Tracks.managed {m : BroadcastManager}
    (hkey : m.key = key) : Tracks hmac key maxSkewUsec acc { s with manager := m } :=
  ⟨hkey, h.receiver, h.skew, h.genuine, h.increasing, h.last, h.accepted⟩

lemma Tracks.received {payload : Bytes} {clock : K}
    {frame : Frame} (hunforged : Unforged hmac s (.deliver payload clock))
    (hpasses : Passes hmac payload clock s.receiver frame) :
    Tracks hmac key maxSkewUsec (acc ++ [⟨payload, frame, clock⟩])
      { s with receiver := { s.receiver with
          lastFrameCounter := some frame.frameCounter, lastFrame := some frame } } := by
  obtain ⟨hdecoded, hauthentic, hskew, hfresh⟩ := hpasses
  obtain ⟨hlen, hverifies⟩ := verifies_of_decode hdecoded hauthentic
  obtain ⟨e, he, rfl⟩ := hunforged hlen hverifies
  obtain ⟨frame', hreads⟩ := h.genuine e he
  rw [h.receiver] at hdecoded
  obtain rfl : frame' = frame := Except.ok.inj (hreads.decoded.symm.trans hdecoded)
  have hbelow := (h.fresh_iff frame'.frameCounter).mp hfresh
  refine ⟨h.manager, h.receiver, h.skew, h.genuine, ?_, by simp, ?_⟩
  · rw [List.pairwise_append]
    refine ⟨h.increasing, List.pairwise_singleton _ _, fun a ha b hb => ?_⟩
    rw [List.mem_singleton.mp hb]
    exact hbelow a ha
  · intro a ha
    obtain ha | ha := List.mem_append.mp ha
    · exact h.accepted a ha
    · rw [List.mem_singleton.mp ha]
      refine ⟨e, he, rfl, hreads, ?_⟩
      rw [← hreads.time, ← h.skew]
      exact hskew

end

end

lemma tick_encoded {hmac : Hmac} {clock : K} {m m' : BroadcastManager} {payload : Bytes}
    (h : m.tick hmac clock = (m', .ok payload)) :
    m'.key = m.key ∧ encodeBroadcastFrame hmac m.key (usec clock) m'.state m'.sequenceId
      m'.frameCounter = .ok payload := by
  unfold BroadcastManager.tick at h
  split at h
  next m₁ payload₁ hbuilt =>
    obtain ⟨rfl, hpayload⟩ := Prod.mk.inj h
    obtain rfl := Except.ok.inj hpayload
    unfold BroadcastManager.buildFrame at hbuilt
    obtain ⟨rfl, hencoded⟩ := Prod.mk.inj hbuilt
    exact ⟨rfl, hencoded⟩
  next => cases h

lemma tick_failed {hmac : Hmac} {clock : K} {m m' : BroadcastManager} {e : MissionError}
    (h : m.tick hmac clock = (m', .error e)) : m'.key = m.key := by
  unfold BroadcastManager.tick at h
  split at h
  next => cases h
  next m₁ e₁ hbuilt =>
    obtain ⟨rfl, -⟩ := Prod.mk.inj h
    unfold BroadcastManager.buildFrame at hbuilt
    obtain ⟨rfl, -⟩ := Prod.mk.inj hbuilt
    rfl

lemma deliver_cases {hmac : Hmac} {s s' : Radio} {payload : Bytes} {clock : K}
    {out : List (Accepted K)}
    (h : radioStep hmac s (.deliver payload clock) = some (s', out)) :
    (∃ frame, Passes hmac payload clock s.receiver frame ∧ out = [⟨payload, frame, clock⟩] ∧
      s' = { s with receiver := { s.receiver with
        lastFrameCounter := some frame.frameCounter, lastFrame := some frame } }) ∨
    (s' = s ∧ out = []) := by
  obtain ⟨frame, hpasses⟩ | ⟨hsame, hdropped⟩ := receive_cases hmac payload clock s.receiver
  · refine .inl ⟨frame, hpasses, ?_⟩
    simp only [radioStep, receive_of_passes hpasses, hpasses.authentic, if_true,
      Option.some.injEq, Prod.mk.injEq] at h
    exact ⟨h.2.symm, h.1.symm⟩
  · right
    simp only [radioStep] at h
    split at h
    next r frame hreceived =>
      rw [hreceived] at hsame hdropped
      rw [if_neg (hdropped frame rfl)] at h
      obtain ⟨rfl, rfl⟩ := Prod.mk.inj (Option.some.inj h)
      have hsame : r = s.receiver := hsame
      exact ⟨by rw [hsame], rfl⟩
    next r hreceived =>
      rw [hreceived] at hsame
      obtain ⟨rfl, rfl⟩ := Prod.mk.inj (Option.some.inj h)
      have hsame : r = s.receiver := hsame
      exact ⟨by rw [hsame], rfl⟩

lemma Tracks.step {hmac : Hmac} (hdigest : ∀ k m, (hmac k m).length = 32) {key : ShowKey}
    {maxSkewUsec : ℤ} {acc out : List (Accepted K)} {s s' : Radio} {l : RadioLabel K}
    (h : Tracks hmac key maxSkewUsec acc s) (hunforged : Unforged hmac s l)
    (hs : radioStep hmac s l = some (s', out)) : Tracks hmac key maxSkewUsec (acc ++ out) s' := by
  cases l with
  | setState state =>
    obtain ⟨rfl, rfl⟩ := Prod.mk.inj (Option.some.inj hs)
    rw [List.append_nil]
    exact h.managed h.manager
  | setSequence sequenceId =>
    obtain ⟨rfl, rfl⟩ := Prod.mk.inj (Option.some.inj hs)
    rw [List.append_nil]
    exact h.managed h.manager
  | tick clock =>
    unfold radioStep at hs
    dsimp only at hs
    split at hs
    next m payload htick =>
      obtain ⟨rfl, rfl⟩ := Prod.mk.inj (Option.some.inj hs)
      obtain ⟨hkey, hencoded⟩ := tick_encoded htick
      rw [h.manager] at hkey hencoded
      obtain ⟨frame, hdecoded, hauthentic, htime, hstate, hsequence, hcounter⟩ :=
        decode_encode hdigest hencoded
      rw [List.append_nil]
      exact h.sent hkey ⟨frame, hdecoded, hauthentic, htime, hstate, hsequence, hcounter⟩
    next m e htick =>
      obtain ⟨rfl, rfl⟩ := Prod.mk.inj (Option.some.inj hs)
      rw [List.append_nil]
      exact h.managed ((tick_failed htick).trans h.manager)
  | deliver payload clock =>
    obtain ⟨frame, hpasses, rfl, rfl⟩ | ⟨rfl, rfl⟩ := deliver_cases hs
    · exact h.received hunforged hpasses
    · rw [List.append_nil]
      exact h

/-- Whatever the radio has delivered: the accepted frames are the manager's, in
skew when they came and in the order of their counters, none of them twice; a
frame that is not accepted changes nothing; and a frame of the manager's that is
in skew and newer than all accepted ones is accepted. -/
theorem accepted_genuine {hmac : Hmac} (hdigest : ∀ k m, (hmac k m).length = 32)
    {manager : BroadcastManager} {maxSkewS : K} {ls : List (RadioLabel K)} {s : Radio}
    {acc : List (Accepted K)}
    (hunforged : Along (radioStep hmac) (Unforged hmac) (.start manager maxSkewS) ls)
    (hrun : run (radioStep hmac) (.start manager maxSkewS) ls = some (s, acc)) :
    (acc.Pairwise fun a b => a.frame.frameCounter < b.frame.frameCounter) ∧
      (acc.map Accepted.payload).Nodup ∧
      (∀ a ∈ acc, ∃ e ∈ s.sent, e.payload = a.payload ∧ ReadsAs hmac manager.key e a.frame ∧
        |usec a.clock - e.utcTimestampUsec| ≤ usec maxSkewS) ∧
      ∀ payload (clock : K) s' out, radioStep hmac s (.deliver payload clock) = some (s', out) →
        (out = [] → s'.receiver = s.receiver) ∧
        ∀ e ∈ s.sent, e.payload = payload → |usec clock - e.utcTimestampUsec| ≤ usec maxSkewS →
          (∀ a ∈ acc, (a.frame.frameCounter : ℤ) < e.frameCounter) →
            ∃ frame, ReadsAs hmac manager.key e frame ∧ out = [⟨payload, frame, clock⟩] := by
  have htracks : Tracks hmac manager.key (usec maxSkewS) acc s := by
    refine run_history (I := fun _ acc s => Tracks hmac manager.key (usec maxSkewS) acc s)
      ?_ ?_ hunforged hrun
    · exact ⟨rfl, rfl, rfl, nofun, .nil, rfl, nofun⟩
    · intro _ _ _ _ _ _ _ h hunforged hs
      exact h.step hdigest hunforged hs
  refine ⟨htracks.increasing, ?_, htracks.accepted, ?_⟩
  · -- two deliveries of one payload would have one counter
    rw [List.Nodup, List.pairwise_map]
    refine htracks.increasing.imp_of_mem fun {a b} ha hb hlt heq => ?_
    obtain ⟨e, -, hea, hread, -⟩ := htracks.accepted a ha
    obtain ⟨e', -, heb, hread', -⟩ := htracks.accepted b hb
    have hdecoded := hread.decoded
    rw [hea, heq, ← heb, hread'.decoded] at hdecoded
    rw [Except.ok.inj hdecoded] at hlt
    exact lt_irrefl _ hlt
  · intro payload clock s' out hs
    constructor
    · intro hout
      obtain ⟨frame, -, hacc, -⟩ | ⟨rfl, -⟩ := deliver_cases hs
      · rw [hacc] at hout
        cases hout
      · rfl
    · intro e he hpayload hskew hnew
      obtain ⟨frame, hreads⟩ := htracks.genuine e he
      have hpasses : Passes hmac payload clock s.receiver frame := by
        refine ⟨?_, hreads.authentic, ?_, ?_⟩
        · rw [htracks.receiver, ← hpayload]
          exact hreads.decoded
        · rw [InSkew, htracks.skew, hreads.time]
          exact hskew
        · refine (htracks.fresh_iff _).mpr fun a ha => ?_
          have hlt := hnew a ha
          rw [← hreads.counter] at hlt
          exact_mod_cast hlt
      obtain ⟨frame', hpasses', rfl, -⟩ | ⟨-, rfl⟩ := deliver_cases hs
      · refine ⟨frame, hreads, ?_⟩
        rw [Except.ok.inj (hpasses'.decoded.symm.trans hpasses.decoded)]
      · simp [radioStep, receive_of_passes hpasses, hreads.authentic] at hs

def rehearsalKey : ShowKey := ⟨List.range 16 |>.map UInt8.ofNat, by decide⟩

/-- The body of the frame a new manager builds one second past the epoch. -/
def firstBody : Bytes :=
  [64, 66, 15, 0, 0, 0, 0, 0, 0, 0, 0, 0, 0, 79, 66, 64, 66, 15, 0, 0, 0, 0, 0, 0]

def rehearsalHmac : Hmac := fun key message =>
  if key = rehearsalKey.bytes ∧ message = authDomain ++ firstBody then
    [244, 161, 32, 120, 142, 37, 155, 99, 177, 254, 101, 51, 73, 36, 9, 85, 26, 31, 50, 194, 199,
      176, 235, 126, 223, 244, 43, 143, 87, 253, 151, 5]
  else List.replicate 32 0

def firstPayload : Bytes := firstBody ++ [244, 161, 32, 120, 142, 37, 155, 99]

/-- The first frame arrives a tenth of a second late, and once more after that. -/
def heardTwice : List (RadioLabel ℚ) :=
  [.tick 1, .deliver firstPayload (11 / 10), .deliver firstPayload (23 / 20)]

theorem accepted_genuine_once :
    ∃ s acc, run (radioStep rehearsalHmac) (.start { key := rehearsalKey } (1 / 5 : ℚ)) heardTwice =
        some (s, acc) ∧ acc.length = 1 ∧ (acc.map Accepted.payload).Nodup := by
  have hdigest : ∀ k m, (rehearsalHmac k m).length = 32 := by
    intro k m
    unfold rehearsalHmac
    split
    · rfl
    · exact List.length_replicate
  have hunforged : Along (radioStep rehearsalHmac) (Unforged rehearsalHmac)
      (.start { key := rehearsalKey } (1 / 5 : ℚ)) heardTwice := by decide +kernel
  obtain ⟨⟨s, acc⟩, hrun, h⟩ :
      ∃ r ∈ run (radioStep rehearsalHmac) (.start { key := rehearsalKey } (1 / 5 : ℚ)) heardTwice,
      r.2.length == 1 := by decide +kernel
  exact ⟨s, acc, hrun, by simpa using h, (accepted_genuine hdigest hunforged hrun).2.1⟩

end Taramandal.Gcs.Downlink
