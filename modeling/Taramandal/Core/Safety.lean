import Taramandal.Core.Numbers

/-! # Safety limits and the launch layout (`safety.py`, `layout.py`)

Limits carry the relations that `SafetyLimits.__post_init__` enforces, so limits
that break them cannot be built. The pad grid and the hover altitudes are
derived from the limits; both are fixed for the largest fleet, and a drone's
place in either depends on its id alone. -/
namespace Taramandal.Core.Safety

open Lib.Bisect Core.Numbers

structure SafetyLimits (K : Type) [Field K] [LinearOrder K] where
  minSeparationM : K
  designSeparationM : K
  padSpacingM : K
  maxVelocityMs : K
  maxAccelMs2 : K
  maxYawRateDps : K
  geofenceRadiusM : K
  maxAltitudeM : K
  geofenceSoftWarningBufferM : K
  geofenceHardBufferM : K
  min_le_design : minSeparationM ≤ designSeparationM
  soft_le_hard : geofenceSoftWarningBufferM ≤ geofenceHardBufferM
  design_le_pad : designSeparationM ≤ padSpacingM
  all_pos : 0 < minSeparationM ∧ 0 < maxVelocityMs ∧ 0 < maxAccelMs2 ∧ 0 < maxYawRateDps ∧
    0 < geofenceRadiusM ∧ 0 < maxAltitudeM ∧ 0 < geofenceSoftWarningBufferM

variable {K : Type} [Field K] [LinearOrder K]

section

variable [IsStrictOrderedRing K]

def defaultLimits : SafetyLimits K where
  minSeparationM := 3 / 2
  designSeparationM := 2
  padSpacingM := 11 / 5
  maxVelocityMs := 6
  maxAccelMs2 := 50
  maxYawRateDps := 300
  geofenceRadiusM := 30
  maxAltitudeM := 120
  geofenceSoftWarningBufferM := 10
  geofenceHardBufferM := 15
  min_le_design := by norm_num
  soft_le_hard := by norm_num
  design_le_pad := by norm_num
  all_pos := by norm_num

end

/-- `geofence_radii`: the soft-warning and the hard radius of a show. -/
def SafetyLimits.geofenceRadii [FloorRing K] (limits : SafetyLimits K) (envelopeRadiusM : K) :
    Except String (K × K) :=
  if envelopeRadiusM < 0 then
    .error ("envelope_radius_m must be non-negative, got " ++ floatStr envelopeRadiusM)
  else .ok (envelopeRadiusM + limits.geofenceSoftWarningBufferM,
    envelopeRadiusM + limits.geofenceHardBufferM)

def baseHoverAltM : Nat := 2

def maxFleetSize : Nat := 1000

/-- `ceil(sqrt(n))`. -/
def ceilSqrt (n : Nat) : Nat := if isqrt n * isqrt n = n then isqrt n else isqrt n + 1

section

variable [FloorRing K]

section

variable (n : Nat) (limits : SafetyLimits K)

def gridCols : Nat :=
  max 1 (min (ceilSqrt n) (max 1 ⌊limits.geofenceRadiusM / limits.padSpacingM⌋.toNat))

/-- `launch_grid` at the default spacing. -/
def launchGrid : List (K × K) :=
  (List.range n).map fun i : Nat =>
    (((i / gridCols n limits : Nat) : K) * limits.padSpacingM,
      ((i % gridCols n limits : Nat) : K) * limits.padSpacingM)

/-- `altitude_layers` at the default base and step. -/
def altitudeLayers : List K :=
  let usable := limits.maxAltitudeM - (baseHoverAltM : K)
  let maxLayers := max 1 (⌊usable / limits.designSeparationM⌋ + 1).toNat
  (List.range n).map fun i : Nat =>
    (baseHoverAltM : K) + limits.designSeparationM * ((i % maxLayers : Nat) : K)

end

variable [IsStrictOrderedRing K]

def padGrid : List (K × K) := launchGrid maxFleetSize defaultLimits

/-- `_pad_offset`: a drone's own launch pad in the fleet frame. -/
def padOffset (droneId : Nat) : Except String (K × K) :=
  match (padGrid : List (K × K))[droneId]? with
  | some p => .ok p
  | none => .error ("drone_id " ++ toString droneId ++ " outside supported fleet size 0.." ++
      toString (maxFleetSize - 1))

/-- `_hover_altitude`: what the launch climbs this drone to. -/
def hoverAltitude (droneId : Nat) : K :=
  (altitudeLayers maxFleetSize (defaultLimits : SafetyLimits K)).getD droneId 3

lemma gridCols_default : gridCols maxFleetSize (defaultLimits : SafetyLimits K) = 13 := by
  have h : ⌊(30 : K) / (11 / 5)⌋ = 13 := by
    rw [Int.floor_eq_iff]
    norm_num
  have hs : ceilSqrt maxFleetSize = 32 := by decide
  simp [gridCols, defaultLimits, h, hs]

lemma padOffset_eq {d : Nat} (hd : d < maxFleetSize) :
    padOffset d = .ok (((d / 13 : Nat) : K) * (11 / 5), ((d % 13 : Nat) : K) * (11 / 5)) := by
  have hrange : (List.range maxFleetSize)[d]? = some d := List.getElem?_range hd
  have h : (padGrid : List (K × K))[d]? =
      some (((d / 13 : Nat) : K) * (11 / 5), ((d % 13 : Nat) : K) * (11 / 5)) := by
    rw [padGrid, launchGrid, gridCols_default, List.getElem?_map, hrange, Option.map_some]
    rfl
  unfold padOffset
  split
  next p hp => rw [h] at hp; cases hp; rfl
  next hn => rw [h] at hn; cases hn

lemma padOffset_isOk_iff {d : Nat} : (∃ p : K × K, padOffset d = .ok p) ↔ d < maxFleetSize := by
  constructor
  · rintro ⟨p, hp⟩
    unfold padOffset at hp
    split at hp
    next q hq =>
      obtain ⟨hlt, _⟩ := List.getElem?_eq_some_iff.mp hq
      simpa [padGrid, launchGrid] using hlt
    next => cases hp
  · intro h
    exact ⟨_, padOffset_eq h⟩

lemma hoverAltitude_eq {d : Nat} (hd : d < maxFleetSize) :
    (hoverAltitude d : K) = 2 + 2 * ((d % 60 : Nat) : K) := by
  have h : ⌊(118 : K) / 2⌋ = 59 := by
    rw [Int.floor_eq_iff]
    norm_num
  have hu : (120 : K) - (2 : Nat) = 118 := by norm_num
  have hrange : (List.range maxFleetSize)[d]? = some d := List.getElem?_range hd
  simp only [hoverAltitude, altitudeLayers, defaultLimits, baseHoverAltM, hu, h,
    List.getD_eq_getElem?_getD, List.getElem?_map, hrange, Option.map_some, Option.getD_some]
  rfl

lemma hoverAltitude_of_ge {d : Nat} (hd : maxFleetSize ≤ d) : (hoverAltitude d : K) = 3 := by
  have : (altitudeLayers maxFleetSize (defaultLimits : SafetyLimits K))[d]? = none := by
    simpa [altitudeLayers] using hd
  simp [hoverAltitude, List.getD_eq_getElem?_getD, this]

lemma hoverAltitude_pos (d : Nat) : (0 : K) < hoverAltitude d := by
  rcases Nat.lt_or_ge d maxFleetSize with h | h
  · rw [hoverAltitude_eq h]; positivity
  · rw [hoverAltitude_of_ge h]; norm_num

end

end Taramandal.Core.Safety
