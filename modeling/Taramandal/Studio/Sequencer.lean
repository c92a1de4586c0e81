import Mathlib.Analysis.SpecialFunctions.Pow.Real
import Taramandal.Studio.Morphs

/-! # The show sequencer (`sequencer.js`)

A show is planned as a list of legs, each from one set of positions to another: takeoff, a
morph and a hold for every scene, the return to assigned spots, the swap onto the own pads at
layers, and the landing. A morph that comes too close is flown in three legs, at layers, and
each of them is checked. The legs are sampled along an easing curve, with coordinates and
times rounded to hundredths. -/
namespace Taramandal.Studio.Sequencer

open Lib.Pairs Core.Numbers Studio.Layout Studio.Formations Studio.Morphs

/-- A cube root. -/
class Cbrt (K : Type) where
  cbrt : K → K

export Cbrt (cbrt)

noncomputable instance : Cbrt ℝ := ⟨fun x => x ^ ((1 : ℝ) / 3)⟩

variable {K : Type} [Field K] [LinearOrder K]

/-! ## Pacing -/

inductive Profile (K : Type) where
  | smoothstep
  | smootherstep (maxJerk : K)

structure Pacing (K : Type) where
  maxH : K
  maxV : K
  maxDown : K
  maxAcc : K
  profile : Profile K

def standard : Pacing K where
  maxH := 32 / 10
  maxV := 24 / 10
  maxDown := 12 / 10
  maxAcc := 3
  profile := .smoothstep

def fast : Pacing K where
  maxH := 24 / 10
  maxV := 24 / 10
  maxDown := 12 / 10
  maxAcc := 26 / 10
  profile := .smootherstep 4

def inherited : List String :=
  ["constructor", "__defineGetter__", "__defineSetter__", "hasOwnProperty", "__lookupGetter__",
    "__lookupSetter__", "isPrototypeOf", "propertyIsEnumerable", "toString", "valueOf",
    "__proto__", "toLocaleString"]

/-- `pacingOf`: an unknown name falls back to the standard, but an inherited member is found,
which has none of the fields (`none`). -/
def pacingOf (name : String) : Option (Pacing K) :=
  if name = "standard" then some standard
  else if name = "fast" then some fast
  else if name ∈ inherited then none
  else some standard

def maxEdgeAccel : K := 4 * (1 / 10)

/-- The farthest that any drone goes. -/
structure Travel (K : Type) where
  dh : K
  dv : K
  up : K
  down : K

section

variable [Sqrt K]

def Travel.widen (t : Travel K) (p : Point K × Point K) : Travel K where
  dh := max t.dh (hypot2 (p.1.x - p.2.x) (p.1.y - p.2.y))
  dv := max t.dv |p.1.z - p.2.z|
  up := max t.up (p.1.z - p.2.z)
  down := max t.down (p.2.z - p.1.z)

def maxTravel (start goal : List (Point K)) : Travel K :=
  (start.zip goal).foldl Travel.widen { dh := 0, dv := 0, up := 0, down := 0 }

variable [Cbrt K]

/-- `easedSecs`; without a pacing every comparison is with NaN, and so is the duration
(`none`). -/
def easedSecs (secs : K) (travel : Travel K) (pacing : Option (Pacing K)) : Option K :=
  pacing.map fun P =>
    let dist := hypot2 travel.dh travel.dv
    match P.profile with
    | .smootherstep maxJerk =>
      max secs <| max (1875 / 1000 * travel.dh / P.maxH) <|
        max (1875 / 1000 * travel.up / P.maxV) <| max (1875 / 1000 * travel.down / P.maxDown) <|
          max (sqrt (57735 / 10000 * dist / P.maxAcc)) (cbrt (60 * dist / maxJerk))
    | .smoothstep =>
      max secs <| max (15 / 10 * travel.dh / P.maxH) <| max (15 / 10 * travel.up / P.maxV) <|
        max (15 / 10 * travel.down / P.maxDown) <|
          max (sqrt (6 * dist / P.maxAcc)) (sqrt (6 * dist / maxEdgeAccel))

end

/-- What `targetIdx` may be: numbers and arrays of them, or anything else. -/
inductive Js (K : Type) where
  | num (x : K)
  | arr (items : List (Js K))
  | other

section

variable [FloorRing K]

/-- An integer among the first `n`. -/
def Js.index (n : ℕ) : Js K → Option ℕ
  | .num x => if x = ⌊x⌋ ∧ 0 ≤ ⌊x⌋ ∧ ⌊x⌋ < n then some ⌊x⌋.toNat else none
  | _ => none

/-- `isPermutation`, and the permutation. -/
def Js.permutation (n : ℕ) : Js K → Option (List ℕ)
  | .arr items =>
    if items.length = n then (items.mapM (Js.index n)).filter fun is => is.Nodup else none
  | _ => none

structure Assignment where
  scenes : List (List ℕ)
  ret : List ℕ

/-- `normalizeAssignment`: what does not fit is the identity. -/
def normalizeAssignment (targetIdx : Js K) (sceneCount n : ℕ) : Assignment :=
  let t := match targetIdx with
    | .arr items => items
    | _ => []
  let shaped : Bool := t.length = sceneCount ∨ t.length = sceneCount + 1
  let row (s : ℕ) : List ℕ :=
    if shaped then (t[s]?.bind (Js.permutation n)).getD (List.range n) else List.range n
  { scenes := (List.range sceneCount).map row
    ret := if t.length = sceneCount + 1 then row sceneCount else List.range n }

end

/-! ## Planning -/

inductive Kind where
  | takeoff
  | morph
  | hold
  | land
  deriving DecidableEq

/-- Without a duration that is a number, `none`. -/
structure Leg (K : Type) where
  kind : Kind
  start : List (Point K)
  goal : List (Point K)
  secs : Option K

structure Scene {K : Type} (shapes : Shapes K) where
  name : String
  shapeType : ShapeType
  shapePayload : shapes.Payload
  scale : Option K
  holdDurationSeconds : Option K
  transitionDurationSeconds : Option K
  transitLayerGapMeters : Option K

/-- `Math.max(0, v || 0)`. -/
def nonNeg (v : Option K) : K := max 0 (v.getD 0)

def takeoffSeconds : K := 5

def landSeconds : K := 5

def defaultTransitGap : K := 2

def ground (n : ℕ) : List (Point K) := (List.range n).map padAt

def hover (n : ℕ) : List (Point K) := (List.range n).map hoverAt

section Moves

variable [Sqrt K] [Cbrt K]

def pacedLeg (P : Option (Pacing K)) (kind : Kind) (start goal : List (Point K)) (requested : K) :
    Leg K where
  kind := kind
  start := start
  goal := goal
  secs := easedSecs requested (maxTravel start goal) P

def highest (start goal : List (Point K)) : K :=
  least (start.map Point.z ++ goal.map Point.z)

/-- The points, at the height of their layers above this one. -/
def lifted (top : K) (layer : List ℤ) (pts : List (Point K)) : List (Point K) :=
  pts.zipWith (fun p l => { p with z := top - ((l : K) + 1) * layerClearance }) layer

def tooClose (start goal : List (Point K)) : Bool :=
  below (minMorphSeparation start goal) (designSeparation - tolerance)

/-- Lift, transit at the layers, descent; each is checked. -/
def layeredMorph (P : Option (Pacing K)) (label : String) (start goal : List (Point K))
    (requested : K) : Except (ShowError K) (List (Leg K)) :=
  if below (minPairDist start) (designSeparation - tolerance) ∨
      below (minPairDist goal) (designSeparation - tolerance) then
    .error (.refusal (.endpointSpacing label
      ((minPairDist start).elim (minPairDist goal) fun d =>
        some ((minPairDist goal).elim d fun d' => min d d'))))
  else
    match computeMorphLayers start goal layerClearance with
    | none => .error (.refusal (.verticalSwap label))
    | some layer =>
      let top := highest start goal
      if top - ((layer.max?.getD 0 : ℤ) + 1) * layerClearance < -maxAltitudeM then
        .error (.refusal (.layerCeiling label))
      else
        let startUp := lifted top layer start
        let goalUp := lifted top layer goal
        match [(start, startUp), (startUp, goalUp), (goalUp, goal)].find? fun leg =>
            tooClose leg.1 leg.2 with
        | some leg => .error (.refusal (.layeredLeg label (minMorphSeparation leg.1 leg.2)))
        | none => .ok [pacedLeg P .morph start startUp (requested * (2 / 10)),
          pacedLeg P .morph startUp goalUp (requested * (6 / 10)),
          pacedLeg P .morph goalUp goal (requested * (2 / 10))]

/-- `move`, of a morph. -/
def move (P : Option (Pacing K)) (label : String) (start goal : List (Point K)) (requested : K) :
    Except (ShowError K) (List (Leg K)) :=
  if morphNeedsLayering start goal then layeredMorph P label start goal requested
  else .ok [pacedLeg P .morph start goal requested]

variable {shapes : Shapes K}

/-- A drone without a point makes a `TypeError` when it is moved. -/
def allPlaced (pts : List (Option (Point K))) : Except (ShowError K) (List (Point K)) :=
  match pts.mapM id with
  | some pts => .ok pts
  | none => .error (.plain "Cannot read properties of undefined (reading 'x')")

/-- The morph into each scene and its hold, and where they end. -/
def sceneLegs (P : Option (Pacing K)) : Bool → List (Point K) →
    List (Scene shapes × List (Option (Point K))) →
    Except (ShowError K) (List (Leg K) × List (Point K))
  | _, prev, [] => .ok ([], prev)
  | first, prev, (s, pos) :: rest => do
    let pos ← allPlaced pos
    let morph ← move P (if first then "Climb-out" else "Morph → " ++ s.name) prev pos
      (nonNeg s.transitionDurationSeconds)
    let hold : Leg K := {
      kind := .hold
      start := pos
      goal := pos
      secs := some (nonNeg s.holdDurationSeconds) }
    let (legs, last) ← sceneLegs P false pos rest
    return (morph ++ hold :: legs, last)

def gapOf (transitLayerGapMeters : Option K) : K :=
  max designSeparation (transitLayerGapMeters.getD defaultTransitGap)

def atLayers (gap : K) (layer : List ℤ) (pts : List (Point K)) : List (Point K) :=
  pts.zipWith (fun p l => { p with z := -(showAlt + gap * l) }) layer

/-- The swap onto the own pads; no drone is assigned another's spot where there is none. -/
def swapLegs (P : Option (Pacing K)) (gap : K) (n : ℕ) (ret : List ℕ) :
    Except (ShowError K) (List (Leg K)) :=
  if ret = List.range n then .ok []
  else do
    let spots := ret.map hoverAt
    let layer := returnLayers spots (hover n)
    let spotsUp := atLayers gap layer spots
    let homesUp := atLayers gap layer (hover n)
    let lift ← move P "Return" spots spotsUp 0
    let cross ← move P "Return" spotsUp homesUp 0
    let descent ← move P "Return" homesUp (hover n) 0
    return lift ++ (cross ++ descent)

variable [FloorRing K]

/-- The points of a scene as its assignment gives them to the drones. -/
def scenePos (n : ℕ) (s : Scene shapes) (assigned : List ℕ) :
    Except (ShowError K) (List (Option (Point K))) := do
  let f ← buildFormation shapes s.shapeType s.shapePayload n s.scale
  return (List.range n).map fun i => (assigned[i]?.bind fun k => f[k]?).or f[i]?

/-- `planShow`, for the last of the scenes and all of them. -/
def planShow (scenes : List (Scene shapes)) (last : Scene shapes) (n : ℕ) (targetIdx : Js K)
    (pacing : String) : Except (ShowError K) (List (Leg K) × Assignment) := do
  let P : Option (Pacing K) := pacingOf pacing
  let assignment := normalizeAssignment targetIdx scenes.length n
  let positions ← (scenes.zip assignment.scenes).mapM fun s => scenePos n s.1 s.2
  let takeoff := pacedLeg P .takeoff (ground n) (hover n) takeoffSeconds
  let (body, prev) ← sceneLegs P true (hover n) (scenes.zip positions)
  let back ← move P "Return" prev (assignment.ret.map hoverAt)
    (nonNeg last.transitionDurationSeconds)
  let swap ← swapLegs P (gapOf last.transitLayerGapMeters) n assignment.ret
  let landing := pacedLeg P .land (hover n) (ground n) landSeconds
  return (takeoff :: (body ++ (back ++ (swap ++ [landing]))), assignment)

/-! ## Sampling -/

/-- `round2`: the nearest hundredth, of two the one farther from zero. -/
def round2 (v : K) : K :=
  if v < 0 then -(⌊-v * 100 + 1 / 2⌋ : K) / 100 else (⌊v * 100 + 1 / 2⌋ : K) / 100

/-- `Math.round`. -/
def jsRound (v : K) : ℤ := ⌊v + 1 / 2⌋

/-- How many samples a leg has; a count that is not a number is never reached. -/
def legSteps (leg : Leg K) (r : K) : ℕ :=
  match leg.secs with
  | none => 0
  | some secs =>
    if leg.kind = .hold then (jsRound (secs * r)).toNat else max 1 (jsRound (secs * r)).toNat

/-- `smooth` and `smoother`. -/
def ease (pacing : Option (Pacing K)) (u : K) : K :=
  match pacing.map Pacing.profile with
  | some (.smootherstep _) => u * u * u * (u * (6 * u - 15) + 10)
  | _ => u * u * (3 - 2 * u)

def between (a b : Point K) (w : K) : Point K where
  x := a.x + (b.x - a.x) * w
  y := a.y + (b.y - a.y) * w
  z := a.z + (b.z - a.z) * w

def Leg.at (leg : Leg K) (w : K) : List (Point K) :=
  leg.start.zipWith (fun a b => between a b w) leg.goal

def legFrames (P : Option (Pacing K)) (r : K) (leg : Leg K) : List (List (Point K)) :=
  (List.range (legSteps leg r)).map fun (k : ℕ) => leg.at (ease P (k / (legSteps leg r : K)))

structure Waypoint (K : Type) where
  time : K
  x : K
  y : K
  z : K
  yaw : K

def waypoint (t : K) (p : Point K) : Waypoint K where
  time := round2 t
  x := round2 p.x
  y := round2 p.y
  z := round2 p.z
  yaw := 0

structure Show (K : Type) where
  /-- The waypoints of drone `i`, in the place `i`. -/
  drones : List (List (Waypoint K))
  duration : K
  targetIdx : List (List ℕ)

def frames (P : Option (Pacing K)) (r : K) (legs : List (Leg K)) (n : ℕ) : List (List (Point K)) :=
  legs.flatMap (legFrames P r) ++ [ground n]

/-- What a drone has in every frame; a frame is a step of the clock later than the one
before. -/
def column (r : K) (frames : List (List (Point K))) (i : ℕ) : List (Waypoint K) :=
  frames.zipIdx.map fun f => waypoint (f.2 * (1 / r)) (f.1.getD i { x := 0, y := 0, z := 0 })

def buildSequencedShow (scenes : List (Scene shapes)) (n : ℕ) (rate : K) (targetIdx : Js K)
    (pacing : String) : Except (ShowError K) (Show K) :=
  match scenes.getLast? with
  | none => .ok { drones := [], duration := 0, targetIdx := [] }
  | some last =>
    if n < 1 then .ok { drones := [], duration := 0, targetIdx := [] }
    else
      let r := max 1 rate
      match planShow scenes last n targetIdx pacing with
      | .error e => .error e
      | .ok (legs, assignment) =>
        let all := frames (pacingOf pacing) r legs n
        .ok {
          drones := (List.range n).map (column r all)
          duration := round2 ((all.length - 1 : ℕ) * (1 / r))
          targetIdx := assignment.scenes ++ [assignment.ret] }

/-- `while (i > 0 && waypoints[i].time > t) i--`. -/
def stepBack (waypoints : List (Waypoint K)) (t : K) : ℕ → ℕ
  | 0 => 0
  | i + 1 => if waypoints[i + 1]?.any (t < ·.time) then stepBack waypoints t i else i + 1

/-- `while (i < waypoints.length - 2 && waypoints[i + 1].time <= t) i++`. -/
def stepOn (waypoints : List (Waypoint K)) (t : K) : ℕ → ℕ → ℕ
  | 0, i => i
  | fuel + 1, i =>
    if i + 2 < waypoints.length ∧ waypoints[i + 1]?.any (·.time ≤ t) then
      stepOn waypoints t fuel (i + 1)
    else i

def firstGuess (waypoints : List (Waypoint K)) (t : K) : ℕ :=
  match waypoints with
  | w :: w' :: _ =>
    if 0 < w'.time - w.time then
      min (waypoints.length - 2) ⌊(t - w.time) / (w'.time - w.time)⌋.toNat
    else 0
  | _ => 0

def segmentAt (w1 w2 : Waypoint K) (t : K) : Waypoint K :=
  let span := w2.time - w1.time
  let ratio := if 0 < span then (t - w1.time) / span else 0
  { time := t
    x := w1.x + ratio * (w2.x - w1.x)
    y := w1.y + ratio * (w2.y - w1.y)
    z := w1.z + ratio * (w2.z - w1.z)
    yaw := w1.yaw + ratio * (w2.yaw - w1.yaw) }

/-- `interpolateWaypoint`; between two waypoints the time is the one asked for. -/
def interpolateWaypoint (waypoints : List (Waypoint K)) (t : K) : Option (Waypoint K) :=
  match waypoints.head?, waypoints.getLast? with
  | some first, some last =>
    if t ≤ first.time then some first
    else if last.time ≤ t then some last
    else
      let i := stepBack waypoints t (firstGuess waypoints t)
      let i := stepOn waypoints t waypoints.length i
      match waypoints[i]?, waypoints[i + 1]? with
      | some w1, some w2 => some (segmentAt w1 w2 t)
      | _, _ => none
  | _, _ => none

end Moves

end Taramandal.Studio.Sequencer
