import Taramandal.Core.Geometry
import Taramandal.Core.Safety
import Taramandal.Lib.Check
import Taramandal.Studio.Layout

/-! # Generated shows (`generator.py`)

A takeoff from the pads, a choreography that the fleet blends into, and a landing that returns
to the pads before it descends, sampled at a rate. The formation of a shape is an argument of
the generator, as it is in the code. -/

/-! ## The pacing of generated shows (`pacing.py`)

The length of each phase of a show from the distances that the fleet has to cover in it, at a
fraction of the speed limit and never below the length that the phase always had. -/
namespace Taramandal.Studio.Pacing

open Lib.Check Core.Numbers Core.Safety Studio.Layout

variable {K : Type} [Field K] [LinearOrder K]

def baseTakeoffS : K := 5

def baseBlendS : K := 2

def baseChoreoS : K := 20

def baseLandS : K := 5

def cruiseFraction : K := 4 / 10

def cruiseYawFraction : K := 55 / 100

def maxOrbitSpeedMs : K := 25 / 10

def landReturnFraction : K := 6 / 10

/-- `math.pi`, the double. -/
def pi : K := 884279719003555 / 281474976710656

structure ShowPacing (K : Type) where
  takeoffS : K
  blendS : K
  choreoS : K
  landS : K

namespace ShowPacing

def landStartS (pacing : ShowPacing K) : K := pacing.takeoffS + pacing.choreoS

def totalS (pacing : ShowPacing K) : K := pacing.takeoffS + pacing.choreoS + pacing.landS

end ShowPacing

/-- `formation_spread`: the longest way of a drone from its start to its target. -/
def formationSpread [Sqrt K] (startPositions targets : List (Point K)) : K :=
  (startPositions.zip targets).foldl
    (fun worst way => max worst
      (hypot3 (way.1.x - way.2.x) (way.1.y - way.2.y) (way.1.z - way.2.z))) 0

section

variable [IsStrictOrderedRing K]

def cruise : K := (defaultLimits : SafetyLimits K).maxVelocityMs * cruiseFraction

def yawS (revolutions : K) : K :=
  if 0 < revolutions then
    360 * revolutions / ((defaultLimits : SafetyLimits K).maxYawRateDps * cruiseYawFraction)
  else 0

/-- The shortest window for an orbit, at the speed that the blend leaves for it. -/
def orbitS (spreadM blendS revolutions orbitReachM : K) : K :=
  if 0 < orbitReachM ∧ 0 < revolutions then
    let blendPeak := 15 / 10 * spreadM / blendS
    let budget := min maxOrbitSpeedMs
      (9 / 10 * (defaultLimits : SafetyLimits K).maxVelocityMs - blendPeak)
    if 0 < budget then 2 * pi * orbitReachM * revolutions / budget else 0
  else 0

def pacingOf (climbM spreadM revolutions orbitReachM : K) : ShowPacing K :=
  let blendS := max baseBlendS (spreadM / cruise)
  { takeoffS := max baseTakeoffS (climbM / cruise)
    blendS
    choreoS := max (max (max baseChoreoS (blendS + (baseChoreoS - baseBlendS)))
      (yawS revolutions)) (orbitS spreadM blendS revolutions orbitReachM)
    landS := max (max baseLandS (spreadM / cruise / landReturnFraction))
      (climbM / cruise / (1 - landReturnFraction)) }

variable [FloorRing K]

def checkNonNegative (name : String) (value : K) : Except String Unit :=
  if value < 0 then .error (name ++ " must be non-negative, got " ++ floatStr value) else .ok ()

def checkFleetSize (numDrones : ℕ) : Except String Unit :=
  if 1 ≤ numDrones ∧ numDrones ≤ maxFleetSize then .ok ()
  else .error ("num_drones must be between 1 and " ++ toString maxFleetSize ++ ", got " ++
    toString numDrones)

/-- `plan_pacing` at the default limits. -/
def planPacing (numDrones : ℕ) (climbM spreadM revolutions orbitReachM : K) :
    Except String (ShowPacing K) := do
  checkFleetSize numDrones
  checkNonNegative "climb_m" climbM
  checkNonNegative "spread_m" spreadM
  checkNonNegative "revolutions" revolutions
  checkNonNegative "orbit_reach_m" orbitReachM
  .ok (pacingOf climbM spreadM revolutions orbitReachM)

end

/-- What the generator relies on of a pacing. -/
structure WellPaced (pacing : ShowPacing K) : Prop where
  takeoff_pos : 0 < pacing.takeoffS
  choreo_pos : 0 < pacing.choreoS
  land_pos : 0 < pacing.landS
  takeoff_le_land : pacing.takeoffS ≤ pacing.landS

variable [IsStrictOrderedRing K]

lemma pacingOf_wellPaced {climbM : K} (hclimb : 0 ≤ climbM) (spreadM revolutions orbitReachM : K) :
    WellPaced (pacingOf climbM spreadM revolutions orbitReachM) := by
  have hcruise : 0 ≤ climbM / cruise := by
    refine div_nonneg hclimb ?_
    norm_num [cruise, defaultLimits, cruiseFraction]
  have hdescend : climbM / cruise ≤ climbM / cruise / (1 - landReturnFraction) := by
    rw [le_div_iff₀ (by norm_num [landReturnFraction])]
    refine mul_le_of_le_one_right hcruise ?_
    norm_num [landReturnFraction]
  refine ⟨lt_max_of_lt_left (by norm_num [baseTakeoffS]), ?_, ?_, max_le ?_ ?_⟩
  · exact lt_max_of_lt_left (lt_max_of_lt_left (lt_max_of_lt_left (by norm_num [baseChoreoS])))
  · exact lt_max_of_lt_left (lt_max_of_lt_left (by norm_num [baseLandS]))
  · exact le_max_of_le_left (le_max_of_le_left le_rfl)
  · exact le_max_of_le_right hdescend

omit [IsStrictOrderedRing K] in
lemma checkNonNegative_eq_ok [FloorRing K] {name : String} {value : K}
    (h : checkNonNegative name value = .ok ()) : 0 ≤ value := by
  unfold checkNonNegative at h
  split at h
  next => cases h
  next hvalue => exact not_lt.mp hvalue

lemma planPacing_wellPaced [FloorRing K] {numDrones : ℕ}
    {climbM spreadM revolutions orbitReachM : K} {pacing : ShowPacing K}
    (h : planPacing numDrones climbM spreadM revolutions orbitReachM = .ok pacing) :
    WellPaced pacing := by
  obtain ⟨-, -, h⟩ := bind_eq_ok.mp h
  obtain ⟨⟨⟩, hclimb, h⟩ := bind_eq_ok.mp h
  obtain ⟨-, -, h⟩ := bind_eq_ok.mp h
  obtain ⟨-, -, h⟩ := bind_eq_ok.mp h
  obtain ⟨-, -, h⟩ := bind_eq_ok.mp h
  cases h
  exact pacingOf_wellPaced (checkNonNegative_eq_ok hclimb) _ _ _

end Taramandal.Studio.Pacing

namespace Taramandal.Studio.Generator

open Core.Numbers Core.Safety Core.Geometry Studio.Layout Studio.Pacing

variable {K : Type} [Field K] [LinearOrder K]

structure ShapeSpec (K : Type) where
  formation : ℕ → ℕ → K → K → Point K
  yaw : ℕ → ℕ → K → K
  revolutions : K
  orbitReachFn : Option (ℕ → K)

/-- `_compact_lane_grid`: `side` is the cube root of the fleet, rounded up. -/
def compactLaneGrid (n : ℕ) : List (K × K) :=
  let side := max 2 (((List.range (n + 1)).find? fun k => n ≤ k ^ 3).getD n)
  (List.range side).flatMap fun _ => (List.range side).flatMap fun y =>
    (List.range side).map fun x => ((x : K) * (25 / 10) + 4, (y : K) * (25 / 10) + 1)

def splineFormationAtCell (cell : K × K) (ratio height : K) : Point K :=
  let tb := if ratio ≤ 1 / 2 then ratio * 2 else (1 - ratio) * 2
  let mt := 1 - tb
  let bez (p0 p1 p2 p3 : K) :=
    mt ^ 3 * p0 + 3 * mt ^ 2 * tb * p1 + 3 * mt * tb ^ 2 * p2 + tb ^ 3 * p3
  { x := bez cell.1 (cell.1 + 2) (cell.1 + 4) (cell.1 + 6)
    y := bez cell.2 (cell.2 + 2) (cell.2 - 2) cell.2
    z := bez (-height) (-height - 2) (-height + 15 / 10) (-height) }

def splineYaw (ratio : K) : K :=
  if ratio ≤ 1 / 2 - 1 / 10 then 90
  else if 1 / 2 + 1 / 10 ≤ ratio then 270
  else 90 + 180 * ((ratio - (1 / 2 - 1 / 10)) / (2 * (1 / 10)))

/-- The spline; `laneAssignment` gives each drone its cell. -/
def spline (laneAssignment : ℕ → ℕ → ℕ) : ShapeSpec K where
  formation := fun d n ratio height =>
    splineFormationAtCell ((compactLaneGrid n).getD (laneAssignment n d) (0, 0)) ratio height
  yaw := fun _ _ ratio => splineYaw ratio
  revolutions := 25 / 10
  orbitReachFn := none

/-! ## The launch -/

/-- An entry of `spawn_offsets`: a point, or the second coordinate alone. -/
inductive Pad (K : Type) where
  | point (x y : K)
  | offset (y : K)

/-- `_pad_xy`, on the ground. -/
def padXy : Pad K → Point K
  | .point x y => ⟨x, y, 0⟩
  | .offset y => ⟨0, y, 0⟩

structure Launch (K : Type) where
  startPositions : ℕ → Point K
  heights : ℕ → K

def checkLength {α : Type} (name : String) (override : Option (List α)) (numDrones : ℕ) :
    Except String Unit :=
  match override with
  | some entries =>
    if entries.length = numDrones then .ok ()
    else .error (name ++ " has " ++ toString entries.length ++ " entries but num_drones is " ++
      toString numDrones ++
      "; supply exactly one per drone or omit it to use the default grid")
  | none => .ok ()

section

variable [IsStrictOrderedRing K]

def layerLimits : SafetyLimits K :=
  { defaultLimits with
    maxAltitudeM := 118
    all_pos := by norm_num [defaultLimits] }

variable [FloorRing K]

def defaultLaunchState (numDrones : ℕ) (spawnOffsets : Option (List (Pad K)))
    (targetHeights : Option (List K)) : Except String (List (Pad K) × List K) := do
  checkFleetSize numDrones
  checkLength "spawn_offsets" spawnOffsets numDrones
  checkLength "target_heights" targetHeights numDrones
  .ok (spawnOffsets.getD
      (((launchGrid maxFleetSize defaultLimits).take numDrones).map fun p => .point p.1 p.2),
    targetHeights.getD (altitudeLayers numDrones layerLimits))

def launchState (numDrones : ℕ) (spawnOffsets : Option (List (Pad K)))
    (targetHeights : Option (List K)) : Except String (Launch K) :=
  (defaultLaunchState numDrones spawnOffsets targetHeights).map fun state =>
    { startPositions := fun d => padXy (state.1.getD d (.offset 0))
      heights := fun d => state.2.getD d 0 }

def pacingFor [Sqrt K] (spec : ShapeSpec K) (numDrones : ℕ) (launch : Launch K) :
    Except String (ShowPacing K) :=
  let entryTargets := (List.range numDrones).map fun d =>
    spec.formation d numDrones 0 (launch.heights d)
  let hoverPositions := (List.range numDrones).map fun d =>
    { launch.startPositions d with z := -launch.heights d }
  let climbM := match (List.range numDrones).map launch.heights with
    | [] => 0
    | height :: rest => rest.foldl max height
  planPacing numDrones climbM (formationSpread hoverPositions entryTargets) spec.revolutions
    (match spec.orbitReachFn with
    | some reach => reach numDrones
    | none => 0)

end

/-- `quintic_profile`: position, velocity, acceleration and jerk. -/
def quinticProfile (ratio : K) : K × K × K × K :=
  let r := min 1 (max 0 ratio)
  (6 * r ^ 5 - 15 * r ^ 4 + 10 * r ^ 3, 30 * r ^ 4 - 60 * r ^ 3 + 30 * r ^ 2,
    120 * r ^ 3 - 180 * r ^ 2 + 60 * r, 360 * r ^ 2 - 360 * r + 60)

def ease (ratio : K) : K := (quinticProfile ratio).1

section

variable [FloorRing K]

def wrapHeading (deg : K) : K := fmod (roundTo 1 (fmod deg 360)) 360

def blendYaw (startDeg targetDeg ratio : K) : K :=
  let delta := fmod (targetDeg - startDeg + 180) 360 - 180
  wrapHeading (startDeg + delta * ratio)

/-- `_land_waypoint`, with the heading beside the position. -/
def landWaypoint (ratio : K) (pad : Point K) (entry : Waypoint K) : Point K × K :=
  let returnRatio := ease (ratio / landReturnFraction)
  let descendRatio := ease ((ratio - landReturnFraction) / (1 - landReturnFraction))
  ({ x := entry.x + returnRatio * (pad.x - entry.x)
     y := entry.y + returnRatio * (pad.y - entry.y)
     z := entry.z * (1 - descendRatio) }, blendYaw entry.yaw 0 returnRatio)

def takeoffSample (launch : Launch K) (pacing : ShowPacing K) (t : K) (d : ℕ) : Waypoint K :=
  { time := roundTo 2 t
    x := (launch.startPositions d).x
    y := (launch.startPositions d).y
    z := roundTo 2 (-(launch.heights d * ease (t / pacing.takeoffS)))
    yaw := 0 }

def choreoSample (spec : ShapeSpec K) (numDrones : ℕ) (launch : Launch K) (pacing : ShowPacing K)
    (t : K) (d : ℕ) : Waypoint K :=
  let elapsed := t - pacing.takeoffS
  let ratio := elapsed / pacing.choreoS
  let blendRatio := ease (elapsed / pacing.blendS)
  let target := spec.formation d numDrones ratio (launch.heights d)
  let pad := launch.startPositions d
  let climbZ := -launch.heights d
  { time := roundTo 2 t
    x := roundTo 2 (pad.x + blendRatio * (target.x - pad.x))
    y := roundTo 2 (pad.y + blendRatio * (target.y - pad.y))
    z := roundTo 2 (climbZ + blendRatio * (target.z - climbZ))
    yaw := wrapHeading (blendRatio * spec.yaw d numDrones ratio) }

def landRatio (pacing : ShowPacing K) (t : K) : K :=
  min 1 ((t - pacing.landStartS) / pacing.landS)

def landSample (launch : Launch K) (pacing : ShowPacing K) (t : K) (d : ℕ) (entry : Waypoint K) :
    Waypoint K :=
  let wp := landWaypoint (landRatio pacing t) (launch.startPositions d) entry
  { time := roundTo 2 t, x := roundTo 2 wp.1.x, y := roundTo 2 wp.1.y, z := roundTo 2 wp.1.z
    yaw := wp.2 }

/-- The tracks so far, and where the landing began. -/
structure RunState (K : Type) where
  dronesWps : ℕ → List (Waypoint K)
  landEntry : Option (ℕ → Waypoint K)

def runStep (spec : ShapeSpec K) (numDrones : ℕ) (launch : Launch K) (pacing : ShowPacing K)
    (rate : K) (s : RunState K) (step : ℕ) : RunState K :=
  let t := step / rate
  if t ≤ pacing.takeoffS then
    { s with dronesWps := fun d => s.dronesWps d ++ [takeoffSample launch pacing t d] }
  else if t ≤ pacing.landStartS then
    { s with
      dronesWps := fun d => s.dronesWps d ++ [choreoSample spec numDrones launch pacing t d] }
  else
    -- no list is empty here: the first step is one of the takeoff
    let entry := s.landEntry.getD fun d =>
      (s.dronesWps d).getLastD { time := 0, x := 0, y := 0, z := 0, yaw := 0 }
    { dronesWps := fun d => s.dronesWps d ++ [landSample launch pacing t d (entry d)]
      landEntry := some entry }

def totalSteps (pacing : ShowPacing K) (rate : K) : ℤ := roundHalfEven (pacing.totalS * rate)

def tracks (spec : ShapeSpec K) (numDrones : ℕ) (launch : Launch K) (pacing : ShowPacing K)
    (rate : K) : ℕ → List (Waypoint K) :=
  ((List.range (totalSteps pacing rate + 1).toNat).foldl
    (runStep spec numDrones launch pacing rate) ⟨fun _ => [], none⟩).dronesWps

/-- The launch of a show and its pacing, the time asked for spent on the choreography. -/
def planShow [IsStrictOrderedRing K] [Sqrt K] (spec : ShapeSpec K) (numDrones : ℕ) (duration : K)
    (spawnOffsets : Option (List (Pad K))) (targetHeights : Option (List K)) :
    Except String (Launch K × ShowPacing K) := do
  let launch ← launchState numDrones spawnOffsets targetHeights
  let pacing ← pacingFor spec numDrones launch
  .ok (launch, { pacing with
    choreoS := max pacing.choreoS (duration - pacing.takeoffS - pacing.landS) })

def runShow [IsStrictOrderedRing K] [Sqrt K] (spec : ShapeSpec K) (numDrones : ℕ)
    (duration rate : K) (spawnOffsets : Option (List (Pad K))) (targetHeights : Option (List K)) :
    Except String (List (ℕ × List (Waypoint K))) :=
  (planShow spec numDrones duration spawnOffsets targetHeights).map fun plan =>
    (List.range numDrones).map fun d => (d, tracks spec numDrones plan.1 plan.2 rate d)

end

end Taramandal.Studio.Generator
