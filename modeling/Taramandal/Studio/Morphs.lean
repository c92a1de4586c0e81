import Taramandal.Studio.Formations

/-! # Morphs and their layers

The least distance of two drones that fly straight lines together (`minMorphSeparation`), and
the layers that a morph, or the swap onto the own pads, is flown at. -/
namespace Taramandal.Studio.Morphs

open Lib.Pairs Core.Numbers Studio.Layout

variable {K : Type} [Field K] [LinearOrder K]

def designSeparation : K := 2

def layerClearance : K := designSeparation + 5 / 100

abbrev Way (K : Type) := Point K × Point K

/-- The square of the least distance of two drones on their ways; of ways that keep nearly the
same distance only the ends count. -/
def wayDistSq (p q : Way K) : K :=
  let ux := p.1.x - q.1.x
  let uy := p.1.y - q.1.y
  let uz := p.1.z - q.1.z
  let u2 := ux * ux + uy * uy + uz * uz
  let vx := (p.2.x - p.1.x) - (q.2.x - q.1.x)
  let vy := (p.2.y - p.1.y) - (q.2.y - q.1.y)
  let vz := (p.2.z - p.1.z) - (q.2.z - q.1.z)
  let v2 := vx * vx + vy * vy + vz * vz
  let uv := ux * vx + uy * vy + uz * vz
  let d2 := min u2 ((ux + vx) * (ux + vx) + (uy + vy) * (uy + vy) + (uz + vz) * (uz + vz))
  if 1 / 10 ^ 12 < v2 then
    if 0 < -uv / v2 ∧ -uv / v2 < 1 then min d2 (u2 - uv * uv / v2) else d2
  else d2

section

variable [Sqrt K]

/-- `minMorphSeparation`, of as many points on either side. -/
def minMorphSeparation (start goal : List (Point K)) : Option K :=
  ((pairs (start.zip goal)).map fun p => sqrt (max 0 (wayDistSq p.1 p.2))).min?

def morphNeedsLayering (start goal : List (Point K)) : Bool :=
  below (minMorphSeparation start goal) layerClearance

/-! ## Layers -/

def crossing (p q : Way K) : K :=
  let ax := p.1.x - q.1.x
  let ay := p.1.y - q.1.y
  let dx := p.2.x - q.2.x - ax
  let dy := p.2.y - q.2.y - ay
  let dd := dx * dx + dy * dy
  let a := if dd < 1 / 10 ^ 12 then 0 else max 0 (min 1 (-(ax * dx + ay * dy) / dd))
  hypot2 (ax + a * dx) (ay + a * dy)

/-- Of the points at two places, the earlier first: does the other one have to be below? -/
def firstOver (p q : Point K) : Bool := p.z < q.z

def sameColumn (p q : Point K) : Bool := hypot2 (p.x - q.x) (p.y - q.y) < designSeparation

end

/-- `f` of the elements at two places, the earlier first. -/
def atPair {α : Type} (f : α → α → Bool) (as : List α) (i j : ℕ) : Bool :=
  match as[min i j]?, as[max i j]? with
  | some a, some b => f a b
  | _, _ => false

/-- The first number from `c` on that is not taken. -/
def firstFree (taken : List ℤ) : ℕ → ℤ → ℤ
  | 0, c => c
  | fuel + 1, c => if c ∈ taken then firstFree taken fuel (c + 1) else c

section

variable [Sqrt K]

/-- The drones whose ways come within the clearance of this one's. -/
def conflicts (ways : List (Way K)) (clearance : K) (i : ℕ) : List ℕ :=
  (List.range ways.length).filter fun j =>
    j ≠ i && atPair (fun p q => crossing p q < clearance) ways i j

/-- In the column they share, the drone has to be above the other; of two at one height the
later one. -/
def isOver (pts : List (Point K)) (i j : ℕ) : Bool :=
  i ≠ j && atPair sameColumn pts i j && (atPair firstOver pts i j == decide (i < j))

/-- The drones that have to be below this one, at the start or at the end. -/
def lowerOnes (start goal : List (Point K)) (i : ℕ) : List ℕ :=
  (List.range start.length).filter fun j => isOver start i j || isOver goal i j

def moreConstrained (degree : ℕ → ℕ) (a b : ℕ) : Prop :=
  degree b < degree a ∨ (degree a = degree b ∧ a ≤ b)

instance (degree : ℕ → ℕ) : DecidableRel (moreConstrained degree) := fun _ _ =>
  inferInstanceAs (Decidable (_ ∨ _))

def byConstraint (degree : ℕ → ℕ) (ds : List ℕ) : List ℕ :=
  ds.insertionSort (moreConstrained degree)

/-- What the layering of a morph has so far: the layers (below zero where there is none yet),
how many drones each one waits for, and the drones that are ready. -/
structure Layering where
  layer : List ℤ
  waiting : List ℕ
  ready : List ℕ
  done : ℕ

def layerOf (layer : List ℤ) (i : ℕ) : ℤ := layer.getD i (-1)

/-- One drone gets the lowest layer above all that it has to clear. -/
def Layering.assign (start goal : List (Point K)) (clearance : K) (i : ℕ) (rest : List ℕ)
    (s : Layering) : Layering :=
  let lower := lowerOnes start goal i
  let conflict := conflicts (start.zip goal) clearance i
  let above := (List.range start.length).filter fun hi => i ∈ lowerOnes start goal hi
  let c := lower.foldl (fun c lo => max c (layerOf s.layer lo + 1)) 0
  let taken := conflict.map (layerOf s.layer)
  let waiting := above.foldl (fun w hi => w.modify hi (· - 1)) s.waiting
  { layer := s.layer.set i (firstFree taken (taken.length + 1) c)
    waiting := waiting
    ready := rest ++ above.filter fun hi => waiting.getD hi 1 = 0
    done := s.done + 1 }

def runLayering (start goal : List (Point K)) (clearance : K) : ℕ → Layering → Layering
  | 0, s => s
  | fuel + 1, s =>
    match byConstraint (fun i => (conflicts (start.zip goal) clearance i).length) s.ready with
    | [] => s
    | i :: rest => runLayering start goal clearance fuel (s.assign start goal clearance i rest)

/-- `computeMorphLayers`; every drone is made ready once at most. -/
def computeMorphLayers (start goal : List (Point K)) (clearance : K) : Option (List ℤ) :=
  let n := start.length
  let waiting := (List.range n).map fun i => (lowerOnes start goal i).length
  let s := runLayering start goal clearance n {
    layer := List.replicate n (-1)
    waiting := waiting
    ready := (List.range n).filter fun i => waiting.getD i 0 = 0
    done := 0 }
  if s.done = n then some s.layer else none

section

variable (spots homes : List (Point K))

def still (i : ℕ) : Bool :=
  match spots[i]?, homes[i]? with
  | some p, some q => p.x = q.x ∧ p.y = q.y
  | _, _ => false

def returnConflicts (i : ℕ) : List ℕ :=
  (conflicts (spots.zip homes) layerClearance i).filter fun j =>
    !(still spots homes i && still spots homes j)

/-- `returnLayers`: the lowest layer that no conflicting drone has yet. -/
def returnLayers : List ℤ :=
  let n := spots.length
  let order := byConstraint (fun i => (returnConflicts spots homes i).length) (List.range n)
  order.foldl (fun layer i =>
    let taken := (returnConflicts spots homes i).map (layerOf layer)
    layer.set i (firstFree taken (taken.length + 1) 0)) (List.replicate n (-1))

end

end

end Taramandal.Studio.Morphs
