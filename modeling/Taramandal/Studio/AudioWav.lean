import Taramandal.Core.Mission
import Taramandal.Lib.ScriptValues

/-! # Audio from the browser to the analyser (`audioBufferToWav`, `_decode_wav`)

The browser writes the first seconds of a soundtrack as 16-bit PCM, two channels at most; the
analyser reads the file, with the `wave` module as a parameter, and mixes it down to one channel.
The one has a limit of seconds and the other one of bytes besides. -/
namespace Taramandal.Studio.AudioWav

open Core.Numbers Core.Values Core.Mission Core.Packing Lib.ScriptValues

/-- A decoded soundtrack; `channelData ch i` is `getChannelData(ch)[i]`. -/
structure AudioBuffer where
  numberOfChannels : ℕ
  length : ℕ
  sampleRate : ℚ
  channelData : ℕ → ℕ → Number

/-- A sample in full scale, silence for one that is no number. -/
def clampSample (sample : Number) : ℚ :=
  match sample with
  | .fin x => max (-1) (min 1 x)
  | _ => 0

def intSample (sample : Number) : ℤ :=
  if clampSample sample < 0 then ⌊clampSample sample * 0x8000 + 1 / 2⌋
  else ⌊clampSample sample * 0x7FFF + 1 / 2⌋

def wavHeader (channels rate dataSize : ℕ) : Bytes :=
  [[0x52, 0x49, 0x46, 0x46], packLE 4 (36 + dataSize), [0x57, 0x41, 0x56, 0x45],
    [0x66, 0x6D, 0x74, 0x20], packLE 4 16, packLE 2 1, packLE 2 channels, packLE 4 rate,
    packLE 4 (rate * (channels * 2)), packLE 2 (channels * 2), packLE 2 16,
    [0x64, 0x61, 0x74, 0x61], packLE 4 dataSize].flatten

namespace AudioBuffer

variable (buffer : AudioBuffer)

def channels : ℕ := min 2 (max 1 buffer.numberOfChannels)

def rate : ℕ := ⌊(if buffer.sampleRate = 0 then 44100 else buffer.sampleRate) + 1 / 2⌋.toNat

def maxFrames (maxSeconds : ℚ) : ℕ := min buffer.length ⌊maxSeconds * buffer.rate⌋.toNat

/-- The samples of one frame, a channel after the other. -/
def frame (i : ℕ) : List ℤ :=
  (List.range buffer.channels).map fun ch => intSample (buffer.channelData ch i)

end AudioBuffer

/-- `audioBufferToWav`; it is called with a limit of 600 seconds. -/
def audioBufferToWav (buffer : AudioBuffer) (maxSeconds : ℚ) : Bytes :=
  wavHeader buffer.channels buffer.rate (buffer.maxFrames maxSeconds * (buffer.channels * 2)) ++
    (((List.range (buffer.maxFrames maxSeconds)).flatMap buffer.frame).map packSigned16).flatten

/-! ## The decoder -/

def maxBytes : ℕ := 64 * 1024 * 1024

def maxDurationS : ℚ := 600

def minDurationS : ℚ := 2

def minSampleRate : ℕ := 8000

def maxSampleRate : ℕ := 192000

/-- What `wave.open` says of a file, and all its frames as they are read. -/
structure WaveFile where
  channels : ℕ
  width : ℕ
  rate : ℕ
  frames : ℕ
  comp : String
  data : Bytes

structure MusicAnalysisError where
  code : String
  message : String

/-- `np.frombuffer(raw, dtype="<i2")`. -/
def int16s : Bytes → List ℤ
  | a :: b :: rest => unpackSigned16 [a, b] :: int16s rest
  | _ => []

def int24s : Bytes → List ℤ
  | a :: b :: c :: rest =>
    (if unpackLE [a, b, c] < 2 ^ 23 then (unpackLE [a, b, c] : ℤ)
      else unpackLE [a, b, c] - 2 ^ 24) :: int24s rest
  | _ => []

/-- `samples.reshape(-1, 2).mean(axis=1)`. -/
def meanPairs : List ℚ → List ℚ
  | a :: b :: rest => (a + b) / 2 :: meanPairs rest
  | _ => []

section

def refuse {α : Type} (code message : String) : Except MusicAnalysisError α :=
  .error ⟨code, message⟩

def checkWave (wf : WaveFile) : Except MusicAnalysisError Unit :=
  if wf.comp ≠ "NONE" then refuse "unsupported" ("compressed WAV (" ++ wf.comp ++
    ") is not supported")
  else if wf.channels ≠ 1 ∧ wf.channels ≠ 2 then
    refuse "unsupported" (toString wf.channels ++ " channels; only mono or stereo")
  else if wf.width ≠ 2 ∧ wf.width ≠ 3 then
    refuse "unsupported" (toString (wf.width * 8) ++ "-bit samples; only 16-bit or 24-bit PCM")
  else if wf.rate < minSampleRate ∨ maxSampleRate < wf.rate then
    refuse "unsupported" ("sample rate " ++ toString wf.rate ++ " Hz is out of range")
  else if wf.frames = 0 then refuse "corrupt" "the file holds no audio"
  else if maxDurationS < (wf.frames : ℚ) / wf.rate then
    refuse "too_long" (fixed 0 ((wf.frames : ℚ) / wf.rate) ++ " s of audio; the limit is " ++
      fixed 0 maxDurationS ++ " s")
  else if (wf.frames : ℚ) / wf.rate < minDurationS then
    refuse "too_short" (fixed 2 ((wf.frames : ℚ) / wf.rate) ++ " s of audio; need at least " ++
      fixed 0 minDurationS ++ " s")
  else .ok ()

def decodeSamples (wf : WaveFile) : Except MusicAnalysisError (List ℚ × ℕ) :=
  if wf.data.length ≠ wf.frames * wf.channels * wf.width then
    refuse "corrupt" "the audio data is truncated"
  else
    let samples := if wf.width = 2 then (int16s wf.data).map fun v : ℤ => (v : ℚ) / 32768
      else (int24s wf.data).map fun v : ℤ => (v : ℚ) / 8388608
    .ok (if wf.channels = 2 then meanPairs samples else samples, wf.rate)

/-- `_decode_wav`; `openWave` is `wave.open`, with the text of what it raises. -/
def decodeWav (openWave : Bytes → Except String WaveFile) (data : Bytes) :
    Except MusicAnalysisError (List ℚ × ℕ) :=
  if maxBytes < data.length then
    refuse "too_large" ("file is " ++ toString data.length ++ " bytes; the limit is " ++
      toString maxBytes)
  else if data.length < 12 ∨ slice data 0 4 ≠ [0x52, 0x49, 0x46, 0x46] ∨
      slice data 8 4 ≠ [0x57, 0x41, 0x56, 0x45] then
    refuse "not_wav" "not a WAV file (missing RIFF/WAVE header)"
  else
    match openWave data with
    | .error message => refuse "corrupt" ("unreadable WAV: " ++ message)
    | .ok wf => do
      checkWave wf
      decodeSamples wf

end

/-- The `wave` module reads what is behind a canonical header of 16-bit PCM. -/
def ReadsCanonical (openWave : Bytes → Except String WaveFile) : Prop :=
  ∀ (channels rate : ℕ) (data : Bytes), 0 < channels → channels * 2 < 256 ^ 2 → 0 < rate →
    rate * (channels * 2) < 256 ^ 4 → 36 + data.length < 256 ^ 4 → channels * 2 ∣ data.length →
    openWave (wavHeader channels rate data.length ++ data) = .ok
      { channels, width := 2, rate, frames := data.length / (channels * 2), comp := "NONE", data }

/-! ## One sample -/

lemma clampSample_mem (sample : Number) : -1 ≤ clampSample sample ∧ clampSample sample ≤ 1 := by
  unfold clampSample
  split
  · exact ⟨le_max_left _ _, max_le (by norm_num) (min_le_left _ _)⟩
  · norm_num

lemma intSample_mem (sample : Number) : -32768 ≤ intSample sample ∧ intSample sample ≤ 32767 := by
  obtain ⟨hlow, hhigh⟩ := clampSample_mem sample
  unfold intSample
  split
  next hneg =>
    rw [Int.le_floor, ← Int.lt_add_one_iff, Int.floor_lt]
    push_cast
    constructor <;> linarith
  next hpos =>
    rw [Int.le_floor, ← Int.lt_add_one_iff, Int.floor_lt]
    push_cast
    constructor <;> linarith

lemma abs_intSample_sub_le (sample : Number) :
    |(intSample sample : ℚ) / 32768 - clampSample sample| ≤ 2 / 32768 := by
  obtain ⟨hlow, hhigh⟩ := clampSample_mem sample
  have hstep : |(intSample sample : ℚ) - clampSample sample * 32768| ≤ 2 := by
    rw [abs_le]
    unfold intSample
    split
    next hneg =>
      have hfloor := Int.floor_le (clampSample sample * 0x8000 + 1 / 2)
      have hnext := Int.lt_floor_add_one (clampSample sample * 0x8000 + 1 / 2)
      constructor <;> linarith
    next hpos =>
      have hfloor := Int.floor_le (clampSample sample * 0x7FFF + 1 / 2)
      have hnext := Int.lt_floor_add_one (clampSample sample * 0x7FFF + 1 / 2)
      constructor <;> linarith
  have hscale : (intSample sample : ℚ) / 32768 - clampSample sample =
      ((intSample sample : ℚ) - clampSample sample * 32768) / 32768 := by ring
  rw [hscale, abs_div, abs_of_pos (by norm_num : (0 : ℚ) < 32768)]
  exact div_le_div_of_nonneg_right hstep (by norm_num)

lemma int16s_flatten : ∀ ints : List ℤ, (∀ v ∈ ints, -32768 ≤ v ∧ v ≤ 32767) →
    int16s (ints.map packSigned16).flatten = ints
  | [], _ => rfl
  | v :: ints, h => by
    obtain ⟨hlow, hhigh⟩ := h v (List.mem_cons_self ..)
    have hread := unpackSigned16_packSigned16 hlow hhigh
    have hrest := int16s_flatten ints fun u hu => h u (List.mem_cons_of_mem _ hu)
    rw [List.map_cons, List.flatten_cons]
    show unpackSigned16 (packSigned16 v) :: int16s (ints.map packSigned16).flatten = v :: ints
    rw [hread, hrest]

lemma length_samples (ints : List ℤ) :
    (ints.map packSigned16).flatten.length = ints.length * 2 := by
  simp [List.length_flatten, Function.comp_def]

lemma meanPairs_flatMap (a b : ℕ → ℚ) : ∀ frames : List ℕ,
    meanPairs (frames.flatMap fun i => [a i, b i]) = frames.map fun i => (a i + b i) / 2
  | [] => rfl
  | i :: frames => by
    rw [List.flatMap_cons, List.map_cons, ← meanPairs_flatMap a b frames]
    rfl

lemma length_wavHeader (channels rate dataSize : ℕ) :
    (wavHeader channels rate dataSize).length = 44 := by
  simp [wavHeader]

lemma slice_wavHeader {channels rate dataSize k start width : ℕ} {field data : Bytes}
    (hfield : [[0x52, 0x49, 0x46, 0x46], packLE 4 (36 + dataSize), [0x57, 0x41, 0x56, 0x45],
      [0x66, 0x6D, 0x74, 0x20], packLE 4 16, packLE 2 1, packLE 2 channels, packLE 4 rate,
      packLE 4 (rate * (channels * 2)), packLE 2 (channels * 2), packLE 2 16,
      [0x64, 0x61, 0x74, 0x61], packLE 4 dataSize][k]? = some field)
    (hstart : (([4, 4, 4, 4, 4, 2, 2, 4, 4, 2, 2, 4, 4] : List ℕ).take k).sum = start)
    (hwidth : field.length = width) :
    slice (wavHeader channels rate dataSize ++ data) start width = field := by
  refine slice_flatten hfield ?_ hwidth data
  simpa using hstart

namespace AudioBuffer

variable {buffer : AudioBuffer} {rate : ℕ}

lemma channels_mem (buffer : AudioBuffer) : buffer.channels = 1 ∨ buffer.channels = 2 := by
  unfold channels
  omega

lemma length_frames (buffer : AudioBuffer) (n : ℕ) :
    ((List.range n).flatMap buffer.frame).length = n * buffer.channels := by
  simp [List.length_flatMap, frame]

lemma rate_of_natCast (hrate : buffer.sampleRate = rate) (hpos : 0 < rate) :
    buffer.rate = rate := by
  have hne : (rate : ℚ) ≠ 0 := by exact_mod_cast hpos.ne'
  have hfloor : ⌊(rate : ℚ) + 1 / 2⌋ = rate := by
    rw [Int.floor_natCast_add]
    norm_num
  rw [AudioBuffer.rate, hrate, if_neg hne, hfloor, Int.toNat_natCast]

lemma maxFrames_of_natCast (hrate : buffer.sampleRate = rate) (hpos : 0 < rate) :
    buffer.maxFrames 600 = min buffer.length (600 * rate) := by
  have hfloor : ⌊(600 : ℚ) * (rate : ℚ)⌋ = (600 * rate : ℕ) := by
    rw [← Int.floor_natCast (R := ℚ)]
    push_cast
    rfl
  rw [maxFrames, rate_of_natCast hrate hpos, hfloor, Int.toNat_natCast]

def mono (buffer : AudioBuffer) (i : ℕ) : ℚ :=
  if buffer.numberOfChannels = 1 then clampSample (buffer.channelData 0 i)
  else (clampSample (buffer.channelData 0 i) + clampSample (buffer.channelData 1 i)) / 2

def read (buffer : AudioBuffer) (i : ℕ) : ℚ :=
  if buffer.channels = 2 then
    ((intSample (buffer.channelData 0 i) : ℚ) / 32768 +
      (intSample (buffer.channelData 1 i) : ℚ) / 32768) / 2
  else (intSample (buffer.channelData 0 i) : ℚ) / 32768

lemma abs_read_sub_mono_le (hchannels : 1 ≤ buffer.numberOfChannels) (i : ℕ) :
    |buffer.read i - buffer.mono i| ≤ 2 / 32768 := by
  have h0 := abs_intSample_sub_le (buffer.channelData 0 i)
  have h1 := abs_intSample_sub_le (buffer.channelData 1 i)
  unfold read mono channels
  by_cases hone : buffer.numberOfChannels = 1
  · rw [if_neg (by omega), if_pos hone]
    exact h0
  · rw [if_pos (by omega), if_neg hone, abs_le]
    rw [abs_le] at h0 h1
    constructor <;> linarith

end AudioBuffer

lemma mixed_frames (buffer : AudioBuffer) (n : ℕ) : (if buffer.channels = 2 then
        meanPairs (((List.range n).flatMap buffer.frame).map fun v : ℤ => (v : ℚ) / 32768)
      else ((List.range n).flatMap buffer.frame).map fun v : ℤ => (v : ℚ) / 32768) =
      (List.range n).map buffer.read := by
  rcases buffer.channels_mem with hone | htwo
  · have hframe : buffer.frame = fun i => [intSample (buffer.channelData 0 i)] := by
      funext i
      rw [AudioBuffer.frame, hone]
      rfl
    rw [if_neg (by omega), hframe, List.map_flatMap]
    refine List.map_eq_flatMap.symm.trans (List.map_congr_left fun i _ => ?_)
    rw [AudioBuffer.read, if_neg (by omega)]
  · have hframe : buffer.frame = fun i =>
        [intSample (buffer.channelData 0 i), intSample (buffer.channelData 1 i)] := by
      funext i
      rw [AudioBuffer.frame, htwo]
      rfl
    rw [if_pos htwo, hframe, List.map_flatMap]
    refine (meanPairs_flatMap _ _ _).trans (List.map_congr_left fun i _ => ?_)
    rw [AudioBuffer.read, if_pos htwo]

/-- `wave.open` on a file whose first chunk is the format and whose second is the data. -/
def canonicalWave (data : Bytes) : Except String WaveFile :=
  let channels := unpackLE (slice data 22 2)
  let width := (unpackLE (slice data 34 2) + 7) / 8
  if unpackLE (slice data 20 2) ≠ 1 then
    .error ("unknown format: " ++ toString (unpackLE (slice data 20 2)))
  else .ok
    { channels, width, rate := unpackLE (slice data 24 4)
      frames := unpackLE (slice data 40 4) / (channels * width), comp := "NONE"
      data := data.drop 44 }

lemma canonicalWave_reads : ReadsCanonical canonicalWave := by
  intro channels rate data hpos hchannels hrate hbytes hsize hwhole
  have htag : slice (wavHeader channels rate data.length ++ data) 20 2 = packLE 2 1 :=
    slice_wavHeader (k := 5) rfl rfl rfl
  have hcount : slice (wavHeader channels rate data.length ++ data) 22 2 = packLE 2 channels :=
    slice_wavHeader (k := 6) rfl rfl (length_packLE ..)
  have hspeed : slice (wavHeader channels rate data.length ++ data) 24 4 = packLE 4 rate :=
    slice_wavHeader (k := 7) rfl rfl (length_packLE ..)
  have hbits : slice (wavHeader channels rate data.length ++ data) 34 2 = packLE 2 16 :=
    slice_wavHeader (k := 10) rfl rfl rfl
  have hlength : slice (wavHeader channels rate data.length ++ data) 40 4 =
      packLE 4 data.length := slice_wavHeader (k := 12) rfl rfl (length_packLE ..)
  have hdata : (wavHeader channels rate data.length ++ data).drop 44 = data :=
    List.drop_left' (length_wavHeader channels rate data.length)
  have hfast : rate ≤ rate * (channels * 2) := Nat.le_mul_of_pos_right _ (by omega)
  rw [canonicalWave, htag, hcount, hspeed, hbits, hlength, hdata,
    unpackLE_packLE (by omega : (1 : ℕ) < 256 ^ 2), unpackLE_packLE (by omega : channels < 256 ^ 2),
    unpackLE_packLE (by omega : rate < 256 ^ 4), unpackLE_packLE (by omega : (16 : ℕ) < 256 ^ 2),
    unpackLE_packLE (by omega : data.length < 256 ^ 4)]
  rfl

/-! ## What is accepted -/

lemma checkWave_ok {channels rate frames : ℕ} {data : Bytes}
    (hchannels : channels = 1 ∨ channels = 2) (hlow : 8000 ≤ rate) (hhigh : rate ≤ 192000) (hlong : 2 * rate ≤ frames)
    (hshort : frames ≤ 600 * rate) :
    checkWave { channels, width := 2, rate, frames, comp := "NONE", data } = .ok () := by
  have hpos : (0 : ℚ) < rate := by exact_mod_cast (by omega : 0 < rate)
  have hmax : ¬ maxDurationS < (frames : ℚ) / rate := by
    rw [not_lt, div_le_iff₀ hpos, maxDurationS]
    exact_mod_cast hshort
  have hmin : ¬ (frames : ℚ) / rate < minDurationS := by
    rw [not_lt, le_div_iff₀ hpos, minDurationS]
    exact_mod_cast hlong
  unfold checkWave
  rw [if_neg (by simp), if_neg (by simp only; omega), if_neg (by simp),
    if_neg (by simp only [minSampleRate, maxSampleRate]; omega), if_neg (by simp only; omega),
    if_neg hmax, if_neg hmin]

section

variable {openWave : Bytes → Except String WaveFile} {buffer : AudioBuffer} {rate : ℕ}

lemma length_audioBufferToWav (hrate : buffer.sampleRate = rate) (hpos : 0 < rate) :
    (audioBufferToWav buffer 600).length =
      44 + min buffer.length (600 * rate) * (buffer.channels * 2) := by
  rw [audioBufferToWav, List.length_append, length_wavHeader, length_samples,
    AudioBuffer.length_frames, AudioBuffer.maxFrames_of_natCast hrate hpos, Nat.mul_assoc]

lemma decodeWav_of_fits (hreads : ReadsCanonical openWave) (hrate : buffer.sampleRate = rate)
    (hlow : 8000 ≤ rate) (hhigh : rate ≤ 192000) (hlong : 2 * rate ≤ buffer.length)
    (hfits : (audioBufferToWav buffer 600).length ≤ maxBytes) :
    decodeWav openWave (audioBufferToWav buffer 600) =
      .ok ((List.range (min buffer.length (600 * rate))).map buffer.read, rate) := by
  have hpos : 0 < rate := by omega
  have hchannels := buffer.channels_mem
  have hsize := length_audioBufferToWav hrate hpos
  have hints : ∀ v ∈ (List.range (min buffer.length (600 * rate))).flatMap buffer.frame,
      -32768 ≤ v ∧ v ≤ 32767 := by
    intro v hv
    obtain ⟨i, -, hv⟩ := List.mem_flatMap.mp hv
    obtain ⟨ch, -, rfl⟩ := List.mem_map.mp hv
    exact intSample_mem _
  have hmin : 2 * rate ≤ min buffer.length (600 * rate) := le_min hlong (by omega)
  have hmax : min buffer.length (600 * rate) ≤ 600 * rate := min_le_right _ _
  have hlength := length_samples
    ((List.range (min buffer.length (600 * rate))).flatMap buffer.frame)
  rw [AudioBuffer.length_frames, Nat.mul_assoc] at hlength
  have hread := int16s_flatten _ hints
  have hmixed := mixed_frames buffer (min buffer.length (600 * rate))
  simp only [audioBufferToWav, AudioBuffer.rate_of_natCast hrate hpos,
    AudioBuffer.maxFrames_of_natCast hrate hpos] at hfits hsize ⊢
  rw [hsize] at hfits
  generalize min buffer.length (600 * rate) = n at *
  generalize (((List.range n).flatMap buffer.frame).map packSigned16).flatten = data at *
  have hbytes : maxBytes = 67108864 := rfl
  have hframes : data.length / (buffer.channels * 2) = n := by
    rw [hlength]
    exact Nat.mul_div_cancel n (by omega)
  have hrateBytes : rate * (buffer.channels * 2) ≤ 192000 * 4 :=
    Nat.mul_le_mul hhigh (by omega)
  have hopen := hreads buffer.channels rate data (by omega) (by omega) hpos (by omega) (by omega)
    ⟨n, hlength.trans (Nat.mul_comm _ _)⟩
  rw [hframes] at hopen
  have hriff : slice (wavHeader buffer.channels rate data.length ++ data) 0 4 =
      [0x52, 0x49, 0x46, 0x46] := slice_wavHeader (k := 0) rfl rfl rfl
  have hwave : slice (wavHeader buffer.channels rate data.length ++ data) 8 4 =
      [0x57, 0x41, 0x56, 0x45] := slice_wavHeader (k := 2) rfl rfl rfl
  have hwhole : data.length = n * buffer.channels * 2 := by rw [hlength, Nat.mul_assoc]
  rw [← hlength] at hsize ⊢
  have hlarge : ¬ (wavHeader buffer.channels rate data.length ++ data).length < 12 := by omega
  rw [decodeWav, if_neg (by omega),
    if_neg (not_or.mpr ⟨hlarge, not_or.mpr ⟨not_not.mpr hriff, not_not.mpr hwave⟩⟩), hopen]
  show (checkWave _ >>= fun _ => decodeSamples _) = _
  rw [checkWave_ok hchannels hlow hhigh hmin hmax]
  show decodeSamples _ = _
  rw [decodeSamples, if_neg (not_not.mpr hwhole)]
  simp only [if_true, hread, hmixed]

/-- What the browser writes of a soundtrack is analysed if and only if it is no larger than the
analyser takes, sample by sample as it was but for the rounding. -/
theorem browser_audio_decoded (hreads : ReadsCanonical openWave)
    (hrate : buffer.sampleRate = rate) (hlow : 8000 ≤ rate) (hhigh : rate ≤ 192000)
    (hchannels : 1 ≤ buffer.numberOfChannels) (hlong : 2 * rate ≤ buffer.length) :
    if 44 + min buffer.length (600 * rate) * (min 2 buffer.numberOfChannels * 2) ≤ maxBytes then
      ∃ samples, decodeWav openWave (audioBufferToWav buffer 600) = .ok (samples, rate) ∧
        samples.length = min buffer.length (600 * rate) ∧
        ∀ (i : ℕ) (x : ℚ), samples[i]? = some x → |x - buffer.mono i| ≤ 2 / 32768
    else ∃ message, decodeWav openWave (audioBufferToWav buffer 600) =
      .error ⟨"too_large", message⟩ := by
  have hsize := length_audioBufferToWav hrate (by omega)
  have hsame : buffer.channels = min 2 buffer.numberOfChannels := by
    unfold AudioBuffer.channels
    omega
  rw [hsame] at hsize
  split
  next hfits =>
    refine ⟨_, decodeWav_of_fits hreads hrate hlow hhigh hlong (by omega), by simp, ?_⟩
    intro i x hx
    rw [List.getElem?_map, Option.map_eq_some_iff] at hx
    obtain ⟨k, hk, rfl⟩ := hx
    obtain ⟨hi, rfl⟩ := List.getElem?_eq_some_iff.mp hk
    rw [List.getElem_range]
    exact AudioBuffer.abs_read_sub_mono_le hchannels i
  next hlarge => exact ⟨_, if_pos (by omega)⟩

end

def silence (seconds : ℕ) : AudioBuffer where
  numberOfChannels := 2
  length := 44100 * seconds
  sampleRate := 44100
  channelData := fun _ _ => .fin 0

theorem browser_audio_decoded_silence :
    ∃ samples, decodeWav canonicalWave (audioBufferToWav (silence 2) 600) = .ok (samples, 44100) ∧
      samples.length = 88200 := by
  have hrate : (silence 2).sampleRate = (44100 : ℕ) := rfl
  have h := browser_audio_decoded canonicalWave_reads hrate (by norm_num) (by norm_num)
    (by norm_num [silence]) (by norm_num [silence])
  rw [if_pos (by decide)] at h
  obtain ⟨samples, hdecoded, hlength, -⟩ := h
  exact ⟨samples, hdecoded, hlength⟩

/-- Seven minutes in stereo are more bytes than the analyser takes. -/
theorem seven_minutes_refused : ReadsCanonical canonicalWave ∧ 2 * 44100 ≤ (silence 420).length ∧
      ∃ message, decodeWav canonicalWave (audioBufferToWav (silence 420) 600) =
        .error ⟨"too_large", message⟩ := by
  have hrate : (silence 420).sampleRate = (44100 : ℕ) := rfl
  have hsize : (audioBufferToWav (silence 420) 600).length = 74088044 :=
    length_audioBufferToWav hrate (by norm_num)
  have hmax : maxBytes = 67108864 := rfl
  exact ⟨canonicalWave_reads, by decide, _, if_pos (by omega)⟩

end Taramandal.Studio.AudioWav
