import Mathlib.Data.Int.Log
import Taramandal.Core.Text
import Taramandal.Lib.Check
import Taramandal.Studio.Layout

/-! # The LED engine (`led_engine.py`)

The colour of a drone under a keyframe, at an instant; and the rate that a track has to be
sampled at so that none of its strobes is lost. A keyframe has passed its own checks, so its
duration and its count of blinks are not negative. The noise of a sparkle is a parameter. -/
namespace Taramandal.Studio.LedEngine

open Core.Numbers Core.Text Studio.Layout

/-! ## Colours -/

/-- Red, green, blue and white. -/
structure Rgbw where
  r : ℤ
  g : ℤ
  b : ℤ
  w : ℤ
  deriving DecidableEq

def dark : Rgbw := ⟨0, 0, 0, 0⟩

def hexDigit? (c : Char) : Option ℕ :=
  if c.isDigit then some (c.toNat - '0'.toNat)
  else if 'a' ≤ c ∧ c ≤ 'f' then some (c.toNat - 'a'.toNat + 10)
  else if 'A' ≤ c ∧ c ≤ 'F' then some (c.toNat - 'A'.toNat + 10)
  else none

/-- A run of hexadecimal digits, an underscore allowed between two of them. -/
def hexDigits : Bool → List Char → Option (List ℕ)
  | prev, [] => if prev then some [] else none
  | prev, c :: cs =>
    match hexDigit? c with
    | some d => (hexDigits true cs).map (d :: ·)
    | none => if c = '_' && prev then hexDigits false cs else none

/-- Without a `0x`, which an underscore may follow. -/
def withoutPrefix : List Char → List Char
  | '0' :: 'x' :: '_' :: cs => cs
  | '0' :: 'X' :: '_' :: cs => cs
  | '0' :: 'x' :: cs => cs
  | '0' :: 'X' :: cs => cs
  | cs => cs

/-- `int(text, 16)`. -/
def intBase16 (cs : List Char) : Option ℤ :=
  let (neg, cs) := signed (strip cs)
  (hexDigits false (withoutPrefix cs)).map fun ds =>
    let n : ℕ := ds.foldl (fun n d => 16 * n + d) 0
    if neg then -(n : ℤ) else n

def hexToRgbw (value : String) : Except String Rgbw :=
  let s := value.toList.dropWhile (· == '#')
  let s := if s.length = 3 then s.flatMap fun c => [c, c] else s
  let s := if s.length = 6 then s ++ ['0', '0'] else s
  if s.length ≠ 8 then
    .error ("bad colour '" ++ value ++ "': expected #RGB, #RRGGBB or #RRGGBBWW")
  else
    match intBase16 s with
    | none => .error ("bad colour '" ++ value ++ "': not hexadecimal")
    | some n => .ok ⟨n / 2 ^ 24 % 256, n / 2 ^ 16 % 256, n / 2 ^ 8 % 256, n % 256⟩

variable {K : Type} [Field K] [LinearOrder K] [FloorRing K]

def clamp8 (v : K) : ℤ := max 0 (min 255 (roundHalfEven v))

/-- `_lerp`, of each channel. -/
def blend (a b : Rgbw) (u : K) : Rgbw where
  r := clamp8 (a.r + ((b.r : K) - a.r) * u)
  g := clamp8 (a.g + ((b.g : K) - a.g) * u)
  b := clamp8 (a.b + ((b.b : K) - a.b) * u)
  w := clamp8 (a.w + ((b.w : K) - a.w) * u)

def ramp (stops : List Rgbw) (u : K) (loop : Bool) : Rgbw :=
  if stops.length = 1 then stops.headD dark
  else
    let ring := stops ++ if loop then [stops.headD dark] else []
    let u := if loop then fmod u 1 else max 0 (min 1 u)
    let pos := u * ((ring.length - 1 : ℕ) : K)
    let i := min (trunc pos).toNat (ring.length - 2)
    blend (ring.getD i dark) (ring.getD (i + 1) dark) (pos - i)

def rgbToHsv (r g b : K) : K × K × K :=
  let maxc := max r (max g b)
  let minc := min r (min g b)
  if minc = maxc then (0, 0, maxc)
  else
    let range := maxc - minc
    let rc := (maxc - r) / range
    let gc := (maxc - g) / range
    let bc := (maxc - b) / range
    let h := if r = maxc then bc - gc else if g = maxc then 2 + rc - bc else 4 + gc - rc
    (fmod (h / 6) 1, range / maxc, maxc)

def hsvToRgb (h s v : K) : K × K × K :=
  if s = 0 then (v, v, v)
  else
    let i := trunc (h * 6)
    let f := h * 6 - i
    let p := v * (1 - s)
    let q := v * (1 - s * f)
    let t := v * (1 - s * (1 - f))
    match i % 6 with
    | 0 => (v, t, p)
    | 1 => (q, v, p)
    | 2 => (p, v, t)
    | 3 => (p, q, v)
    | 4 => (t, p, v)
    | _ => (v, p, q)

/-! ## Keyframes -/

/-- `PATTERNS`. -/
inductive Pattern where
  | solid
  | colorCycle
  | strobe
  | sparkle
  | wavePropagation
  | sweepOn
  | colorChase
  deriving DecidableEq

inductive Axis where
  | x
  | y
  | z
  deriving DecidableEq

def Axis.of (axis : Axis) (p : Point K) : K :=
  match axis with
  | .x => p.x
  | .y => p.y
  | .z => p.z

structure LedKeyframe (K : Type) [Field K] [LinearOrder K] where
  pattern : Pattern := .solid
  startTime : K := 0
  duration : K := 0
  color : String := "#FFFFFF"
  palette : List String := []
  frequencyHz : K := 4
  dutyCycle : K := 1 / 2
  density : K := 15 / 100
  axis : Axis := .z
  waveSpeed : K := 4
  waveLength : K := 12
  reverse : Bool := false
  axisOrigin : K := 0
  blinkCount : K := 3
  duration_nonneg : 0 ≤ duration
  blinkCount_nonneg : 0 ≤ blinkCount

namespace LedKeyframe

variable (kf : LedKeyframe K)

def endTime : K := kf.startTime + kf.duration

def contains (t : K) : Bool := kf.startTime ≤ t && t < kf.endTime

def freq : K := max (1 / 100) kf.frequencyHz

def duty : K := max 0 (min 1 kf.dutyCycle)

def coord (droneIndex : ℕ) (position : Option (Point K)) : K :=
  match position with
  | some p => kf.axis.of p
  | none => droneIndex

def wavelength : K := if kf.waveLength ≠ 0 then kf.waveLength else 1

/-- From the start of a sweep to a drone, in its direction. -/
def sweepDistance (coord : K) : K :=
  max 0 (if kf.reverse then kf.axisOrigin - coord else coord - kf.axisOrigin)

/-- When the front of a sweep reaches a drone, after the start. -/
def arrival (coord : K) : K := kf.sweepDistance coord / max (1 / 100) |kf.waveSpeed|

end LedKeyframe

section

variable [Trig K]

/-- `WAVE_PROPAGATION`: the value of the colour follows a cosine. -/
def waveColour (base : Rgbw) (phase : K) : Rgbw :=
  let amp := 1 / 2 * (1 + Trig.cos (2 * Trig.pi * phase))
  let hsv := rgbToHsv ((base.r : K) / 255) (base.g / 255) (base.b / 255)
  let rgb := hsvToRgb hsv.1 hsv.2.1 (hsv.2.2 * amp)
  ⟨clamp8 (rgb.1 * 255), clamp8 (rgb.2.1 * 255), clamp8 (rgb.2.2 * 255), clamp8 (base.w * amp)⟩

/-- `SWEEP_ON`, of a drone that the front takes `d` to. -/
def sweepColour (kf : LedKeyframe K) (stops : List Rgbw) (d age : K) : Rgbw :=
  if age < 0 then dark
  else if 0 < kf.blinkCount ∧ age * kf.freq < kf.blinkCount ∧ kf.duty ≤ fmod (age * kf.freq) 1 then
    dark
  else ramp stops (d / kf.wavelength) false

def evaluate (hash01 : ℤ → ℤ → K) (kf : LedKeyframe K) (t : K) (droneIndex : ℕ)
    (position : Option (Point K)) : Except String Rgbw := do
  let time := t - kf.startTime
  let base ← hexToRgbw kf.color
  match kf.pattern with
  | .solid => .ok base
  | .colorCycle =>
    let stops := if kf.palette = [] then [kf.color] else kf.palette
    let colours ← stops.mapM hexToRgbw
    if stops.length = 1 then .ok (colours.headD dark)
    else
      let ring := colours ++ [colours.headD dark]
      let pos := fmod (time / if 0 < kf.duration then kf.duration else 1) 1 *
        ((ring.length - 1 : ℕ) : K)
      let i := (trunc pos).toNat
      .ok (blend (ring.getD i dark) (ring.getD (i + 1) dark) (pos - i))
  | .strobe => .ok (if fmod (time * kf.freq) 1 < kf.duty then base else dark)
  | .sparkle =>
    .ok (if hash01 droneIndex (trunc (time * 12)) < max 0 (min 1 kf.density) then base else dark)
  | .wavePropagation =>
    .ok (waveColour base ((kf.coord droneIndex position - kf.waveSpeed * time) / kf.wavelength))
  | .colorChase =>
    let stops ← kf.palette.mapM hexToRgbw
    .ok (ramp (if kf.palette = [] then [base] else stops)
      ((kf.coord droneIndex position - kf.waveSpeed * time) / kf.wavelength) true)
  | .sweepOn =>
    let stops ← kf.palette.mapM hexToRgbw
    let coord := kf.coord droneIndex position
    .ok (sweepColour kf (if kf.palette = [] then [base] else stops) (kf.sweepDistance coord)
      (time - kf.arrival coord))

/-- `color_at`: the last keyframe that covers the instant. -/
def colorAt (hash01 : ℤ → ℤ → K) (keyframes : List (LedKeyframe K)) (t : K) (droneIndex : ℕ)
    (position : Option (Point K)) : Except String Rgbw :=
  match (keyframes.filter (·.contains t)).getLast? with
  | none => .ok dark
  | some active => evaluate hash01 active t droneIndex position

end

def maxLedSampleRateHz : K := 50

def strobeSamplesPerPhase : K := 2

def minPhaseSamples : K := 125 / 100

/-- `f"{x:g}"`: six significant digits, without zeros at the end. -/
def general (x : K) : String :=
  let e := Int.log 10 |x|
  let n := roundHalfEven (|x| / 10 ^ (e - 5))
  let (n, e) := if n = 10 ^ 6 then (10 ^ 5, e + 1) else (n, e)
  let short (s : String) : String :=
    if s.toList.contains '.' then
      String.ofList ((s.toList.reverse.dropWhile (· == '0')).dropWhile (· == '.')).reverse
    else s
  if x = 0 then "0"
  else
    (if x < 0 then "-" else "") ++
      if -4 ≤ e ∧ e < 6 then short (decimal (5 - e).toNat n.toNat)
      else short (decimal 5 n.toNat) ++ (if e < 0 then "e-" else "e+") ++
        padLeft 2 (toString e.natAbs)

def LedKeyframe.blinks (kf : LedKeyframe K) : Prop :=
  0 < kf.duration ∧ (kf.pattern = .strobe ∨ kf.pattern = .sweepOn ∧ 0 < kf.blinkCount)

instance (kf : LedKeyframe K) : Decidable kf.blinks := inferInstanceAs (Decidable (_ ∧ _))

def LedKeyframe.shortest (kf : LedKeyframe K) : K := min kf.duty (1 - kf.duty) / kf.freq

def neededRate (kf : LedKeyframe K) : Except String (Option K) :=
  if ¬ kf.blinks ∨ kf.shortest ≤ 0 then .ok none
  else if maxLedSampleRateHz < strobeSamplesPerPhase / kf.shortest then
    if kf.shortest * maxLedSampleRateHz < minPhaseSamples - 1 / 10 ^ 9 then
      .error ("strobe at " ++ general kf.startTime ++ "s (" ++ general kf.freq ++ " Hz, duty " ++
        general kf.duty ++ ") has a " ++ fixed 0 (kf.shortest * 1000) ++
        " ms phase, too short to export at " ++ general (maxLedSampleRateHz : K) ++
        " Hz; lower the rate or move the duty towards 0.5")
    else .ok (some maxLedSampleRateHz)
  else .ok (some (strobeSamplesPerPhase / kf.shortest))

def rateFrom (rate : K) : List (LedKeyframe K) → Except String K
  | [] => .ok rate
  | kf :: keyframes =>
    match neededRate kf with
    | .error text => .error text
    | .ok needed => rateFrom (max rate (needed.getD rate)) keyframes

def ledSampleRateHz (keyframes : List (LedKeyframe K)) : Except String K := rateFrom 0 keyframes

end Taramandal.Studio.LedEngine
