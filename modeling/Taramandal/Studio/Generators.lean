import Taramandal.Core.ScriptFloats
import Taramandal.Studio.Formations

/-! # Generators (`formations.js`)

The parametric shapes. A flat shape that would grow past its site is stacked instead: fewer
drones in each of more layers. -/

/-! ## Clouds of points (`formations.js`)

How a formation is spaced and placed, of coordinates that may be infinite or no number. -/
set_option linter.unusedSectionVars false

namespace Taramandal.Studio.Clouds

open Core.Numbers Core.Floats Core.ScriptFloats Lib.Pairs Studio.Layout
open Studio.Formations (formationSpacing minFormationAlt)

abbrev Cloud (K : Type) := List (Point (Double K))

variable {K : Type}

def ofNumbers (p : Point K) : Point (Double K) where
  x := .finite p.x
  y := .finite p.y
  z := .finite p.z

variable [Field K] [LinearOrder K] [Sqrt K]

def distance (p q : Point (Double K)) : Double K := Double.norm [p.x - q.x, p.y - q.y, p.z - q.z]

section

variable (pts : Cloud K)

def minPairDist : Double K :=
  Double.minimum (.inf false) ((pairs pts).map fun p => distance p.1 p.2)

def centroid : Point (Double K) :=
  let n := Double.finite (pts.length : K)
  pts.foldl (fun a p => { x := a.x + p.x / n, y := a.y + p.y / n, z := a.z + p.z / n })
    { x := .finite 0, y := .finite 0, z := .finite 0 }

/-- Scaled up about the centroid until no pair is closer than the formation spacing. -/
def toSpacingFloor : Cloud K :=
  let m := minPairDist pts
  if (Double.finite formationSpacing).le m then pts
  else
    let k := Double.finite formationSpacing / m
    let c := centroid pts
    pts.map fun p =>
      { x := c.x + (p.x - c.x) * k, y := c.y + (p.y - c.y) * k, z := c.z + (p.z - c.z) * k }

def bboxCentre : Double K × Double K :=
  ((mathMin (pts.map Point.x) + mathMax (pts.map Point.x)) / .finite 2,
    (mathMin (pts.map Point.y) + mathMax (pts.map Point.y)) / .finite 2)

def horizontalReach : Double K :=
  let c := bboxCentre pts
  mathMax (pts.map fun p => Double.norm [p.x - c.1, p.y - c.2])

end

/-- How far a formation with this lowest altitude is lifted. -/
def liftFor (lowest : Double K) : Double K :=
  if lowest.lt (.finite minFormationAlt) then .finite minFormationAlt - lowest else .finite 0

section

variable (pts : Cloud K)

/-- Spaced, centred over the pads, and lifted off the ground. -/
def place (n : ℕ) : Cloud K :=
  let out := toSpacingFloor pts
  let c := bboxCentre out
  let centre : K × K := fleetCenter n
  let dx := .finite centre.1 - c.1
  let dy := .finite centre.2 - c.2
  let dz := liftFor (mathMin (out.map fun p => -p.z))
  out.map fun p => { x := p.x + dx, y := p.y + dy, z := p.z - dz }

lemma length_toSpacingFloor : (toSpacingFloor pts).length = pts.length := by
  unfold toSpacingFloor
  dsimp only
  split
  · rfl
  · exact List.length_map _

lemma length_place (n : ℕ) : (place pts n).length = pts.length := by
  unfold place
  dsimp only
  rw [List.length_map, length_toSpacingFloor]

/-- `current.reduce((m, p) => Math.max(m, Math.hypot(p.x, p.y)), 0)`. -/
def maxReach : Double K :=
  pts.foldl (fun m p => mathMax [m, Double.norm [p.x, p.y]]) (.finite 0)

end

lemma le_foldl_max {pts : Cloud K} {m : Double K}
    (h : pts.foldl (fun m p => mathMax [m, Double.norm [p.x, p.y]]) m ≠ .nan) :
    m ≠ .nan ∧ m.le (pts.foldl (fun m p => mathMax [m, Double.norm [p.x, p.y]]) m) = true ∧
      ∀ p ∈ pts, (Double.norm [p.x, p.y]).le
        (pts.foldl (fun m p => mathMax [m, Double.norm [p.x, p.y]]) m) = true := by
  induction pts generalizing m with
  | nil => exact ⟨h, Double.le_refl h, List.forall_mem_nil _⟩
  | cons p pts ih =>
    rw [List.foldl_cons] at h ⊢
    obtain ⟨hstep, hle, hall⟩ := ih h
    have hmax := le_mathMax hstep
    obtain ⟨hm, hmle⟩ := hmax m (.head _)
    have hp := (hmax (Double.norm [p.x, p.y]) (.tail _ (.head _))).2
    refine ⟨hm, Double.le_trans hmle hle, List.forall_mem_cons.mpr ⟨?_, hall⟩⟩
    exact Double.le_trans hp hle

lemma le_maxReach {pts : Cloud K} (h : maxReach pts ≠ .nan) :
    ∀ p ∈ pts, (Double.norm [p.x, p.y]).le (maxReach pts) = true :=
  (le_foldl_max h).2.2

lemma mathMax_pair_ne_nan {x y : Double K} (hx : x ≠ .nan) (hy : y ≠ .nan) :
    mathMax [x, y] ≠ .nan := by
  have hnan : .nan ∉ [x, y] := by
    intro h
    rcases List.mem_cons.mp h with h | h
    · exact hx h.symm
    · exact hy (List.mem_singleton.mp h).symm
  rw [mathMax, if_neg hnan]
  exact maximum_ne_nan (inf_ne_nan true) _

lemma maxReach_ofNumbers_ne_nan (qs : List (Point K)) : maxReach (qs.map ofNumbers) ≠ .nan := by
  have hfold : ∀ (qs : List (Point K)) (m : Double K), m ≠ .nan →
      (qs.map ofNumbers).foldl (fun m p => mathMax [m, Double.norm [p.x, p.y]]) m ≠ .nan := by
    intro qs
    induction qs with
    | nil => exact fun m hm => hm
    | cons q qs ih =>
      intro m hm
      exact ih _ (mathMax_pair_ne_nan hm (norm_finite_ne_nan [q.x, q.y]))
  exact hfold qs _ (finite_ne_nan 0)

end Taramandal.Studio.Clouds

namespace Taramandal.Studio.Generators

open Core.Numbers Core.Floats Core.ScriptFloats Studio.Layout Studio.Clouds
open Studio.Formations (formationSpacing siteRadiusM)

variable {K : Type} [Field K] [LinearOrder K] [FloorRing K] [Sqrt K] [Trig K]

/-! ## Parametric shapes -/

inductive Parametric where
  | circle
  | grid
  | line
  | heart
  | sphere
  | vee
  deriving DecidableEq

def PARAMETRIC (name : String) : Option Parametric :=
  [("circle", Parametric.circle), ("grid", .grid), ("line", .line), ("heart", .heart),
    ("sphere", .sphere), ("vee", .vee)].lookup name

section

variable (n : ℕ) (scale : Double K)

def fmtCircle : Cloud K :=
  let r := .finite (max 4 (n * (6 / 10))) * scale
  (List.range n).map fun (i : ℕ) =>
    let a : K := 2 * Trig.pi * i / n
    { x := r * .finite (Trig.cos a), y := r * .finite (Trig.sin a), z := .finite (-showAlt) }

def fmtGrid : Cloud K :=
  let side := ⌈(sqrt n : K)⌉.toNat
  let sp := .finite (25 / 10) * scale
  (List.range n).map fun (i : ℕ) =>
    { x := .finite (i % side : ℕ) * sp
      y := .finite (i / side : ℕ) * sp
      z := .finite (-showAlt) }

def fmtLine : Cloud K :=
  let sp := .finite (25 / 10) * scale
  (List.range n).map fun (i : ℕ) =>
    { x := .finite i * sp, y := .finite 0, z := .finite (-showAlt) }

end

def heartXY (t : K) : K × K :=
  (16 * Trig.sin t ^ 3,
    13 * Trig.cos t - 5 * Trig.cos (2 * t) - 2 * Trig.cos (3 * t) - Trig.cos (4 * t))

/-- `ts[k]` of `HEART_TABLE`. -/
def heartTime (k : ℕ) : K := 2 * Trig.pi * k / 4096

/-- `lens[k]` of `HEART_TABLE`. -/
def heartLength : ℕ → K
  | 0 => 0
  | k + 1 =>
    let p := heartXY (heartTime k : K)
    let q := heartXY (heartTime (k + 1) : K)
    heartLength k + hypot2 (q.1 - p.1) (q.2 - p.2)

/-- `while (k < lens.length - 2 && lens[k + 1] < target) k++`, with so many turns left. -/
def heartSearch (target : K) : ℕ → ℕ → ℕ
  | 0, k => k
  | turns + 1, k => if heartLength (k + 1) < target then heartSearch target turns (k + 1) else k

/-- A point of the outline, from the index where its segment begins. -/
def heartAt (target : K) (scale : Double K) (k : ℕ) : Point (Double K) :=
  let span : K := heartLength (k + 1) - heartLength k
  let t := heartTime k + (if 0 < span then (target - heartLength k) / span else 0) *
    (heartTime (k + 1) - heartTime k)
  { x := .finite ((heartXY t).1 * (4 / 10)) * scale
    y := .finite ((heartXY t).2 * (4 / 10)) * scale
    z := .finite (-showAlt) }

/-- One more point; the search for it goes on from where the last one ended. -/
def heartStep (n : ℕ) (scale : Double K) (state : ℕ × Cloud K) (i : ℕ) : ℕ × Cloud K :=
  let target : K := i / n * heartLength 4096
  let k := heartSearch target (4095 - state.1) state.1
  (k, state.2 ++ [heartAt target scale k])

def fmtHeart (n : ℕ) (scale : Double K) : Cloud K :=
  ((List.range n).foldl (heartStep n scale) (0, [])).2

def sphereRawPoints (count : ℕ) : List (Point K) :=
  (List.range count).map fun (i : ℕ) =>
    let phi : K := Trig.acos (1 - 2 * (i + 1 / 2) / count)
    let theta : K := Trig.pi * (1 + sqrt 5) * i
    { x := Trig.sin phi * Trig.cos theta, y := Trig.sin phi * Trig.sin theta, z := Trig.cos phi }

def maxFormationRadius : K := 14

def fmtSphere (n : ℕ) (scale : Double K) : Cloud K :=
  let raw : List (Point K) := sphereRawPoints n
  let rMin : K :=
    match Formations.minPairDist raw with
    | some u => if 1 < n ∧ 0 < u then formationSpacing / u else 4
    | none => 4
  let r := .finite (min maxFormationRadius (max 4 rMin)) * scale
  raw.map fun p =>
    { x := .finite p.x * r, y := .finite p.y * r, z := .finite (-showAlt) - r - .finite p.z * r }

def fmtVee (n : ℕ) (scale : Double K) : Cloud K :=
  let sp := .finite 2 * scale
  (List.range n).map fun (i : ℕ) =>
    let side : K := if i % 2 = 0 then 1 else -1
    let k : ℕ := (i + 1) / 2
    { x := .finite k * sp, y := .finite (side * k) * sp, z := .finite (-showAlt) }

def Parametric.generate : Parametric → ℕ → Double K → Cloud K
  | .circle => fmtCircle
  | .grid => fmtGrid
  | .line => fmtLine
  | .heart => fmtHeart
  | .sphere => fmtSphere
  | .vee => fmtVee

/-- `n` in `d` parts, the larger ones first. -/
def layerCounts (n d : ℕ) : List ℕ :=
  (List.range d).map fun k => n / d + if k < n % d then 1 else 0

/-- The first number of layers, from one on, that will do, or the last of them. -/
def searchDepth (fits : ℕ → Bool) : ℕ → ℕ → ℕ
  | 0, d => d
  | turns + 1, d => if fits d then d else searchDepth fits turns (d + 1)

def maxRadiusFor (n : ℕ) : K :=
  let c : K × K := fleetCenter n
  min 18 (max 14 (siteRadiusM - hypot2 c.1 c.2 - 2 / 10))

section

variable (gen : ℕ → Double K → Cloud K) (n : ℕ) (scale : Double K)

def layersAt (d : ℕ) : List (Cloud K) :=
  (layerCounts n d).map fun m =>
    let pts := toSpacingFloor (gen m scale)
    let c := bboxCentre pts
    pts.map fun p => { p with x := p.x - c.1, y := p.y - c.2 }

def stacked (layers : List (Cloud K)) : Cloud K :=
  layers.zipIdx.flatMap fun layer =>
    layer.1.map fun p => { p with z := p.z - .finite (layer.2 * formationSpacing) }

def layersFit (d : ℕ) : Bool :=
  (mathMax ((layersAt gen n scale d).map horizontalReach)).le (.finite 14)

def stackIfOversized : Cloud K :=
  let raw := gen n scale
  let floorPts := toSpacingFloor raw
  let fitting := (horizontalReach floorPts).le (.finite (maxRadiusFor n))
  if n < 2 then raw
  else if (Double.finite formationSpacing).le (minPairDist raw) ∧ fitting then raw
  else if fitting then floorPts
  else stacked (layersAt gen n scale (searchDepth (layersFit gen n scale) (n - 2) 2))

end

/-! ## As many points as drones -/

lemma length_fmtHeart (n : ℕ) (scale : Double K) : (fmtHeart n scale).length = n := by
  have hfold : ∀ (is : List ℕ) (state : ℕ × Cloud K),
      (is.foldl (heartStep n scale) state).2.length = state.2.length + is.length := by
    intro is
    induction is with
    | nil => exact fun _ => rfl
    | cons i is ih =>
      intro state
      rw [List.foldl_cons, ih, heartStep, List.length_append, List.length_cons, List.length_cons,
        List.length_nil]
      omega
  refine (hfold (List.range n) (0, [])).trans ?_
  rw [List.length_nil, List.length_range, Nat.zero_add]

lemma length_generate (shape : Parametric) (n : ℕ) (scale : Double K) :
    (shape.generate n scale).length = n := by
  cases shape with
  | circle => simp [Parametric.generate, fmtCircle]
  | grid => simp [Parametric.generate, fmtGrid]
  | line => simp [Parametric.generate, fmtLine]
  | heart => exact length_fmtHeart n scale
  | sphere => simp [Parametric.generate, fmtSphere, sphereRawPoints]
  | vee => simp [Parametric.generate, fmtVee]

lemma sum_indicator {α M : Type} [AddCommMonoidWithOne M] (p : α → Bool) (xs : List α) :
    (xs.map fun x => if p x then (1 : M) else 0).sum = (xs.countP p : ℕ) := by
  induction xs with
  | nil => simp
  | cons x xs ih =>
    rw [List.map_cons, List.sum_cons, ih, List.countP_cons, Nat.cast_add, add_comm]
    split <;> simp

lemma countP_mem_range {picked : List ℕ} {n : ℕ} (hnodup : picked.Nodup)
    (hlt : ∀ i ∈ picked, i < n) : (List.range n).countP (· ∈ picked) = picked.length := by
  have hperm : ((List.range n).filter (· ∈ picked)).Perm picked := by
    refine (List.perm_ext_iff_of_nodup (List.nodup_range.filter _) hnodup).mpr fun i => ?_
    rw [List.mem_filter, List.mem_range, decide_eq_true_eq]
    exact ⟨And.right, fun h => ⟨hlt i h, h⟩⟩
  rw [List.countP_eq_length_filter, hperm.length_eq]

lemma sum_layerCounts (n : ℕ) {d : ℕ} (hd : 0 < d) : (layerCounts n d).sum = n := by
  have hones : ((List.range d).map fun k => if k < n % d then 1 else 0).sum = n % d := by
    have hcount : (List.range d).countP (· ∈ List.range (n % d)) = n % d := by
      rw [countP_mem_range List.nodup_range fun i hi =>
        (List.mem_range.mp hi).trans (Nat.mod_lt n hd), List.length_range]
    have hsum := sum_indicator (M := ℕ) (fun k => decide (k < n % d)) (List.range d)
    simp only [decide_eq_true_eq, Nat.cast_id] at hsum
    rw [hsum]
    exact (List.countP_congr fun k _ => by simp).trans hcount
  unfold layerCounts
  rw [List.sum_map_add, hones]
  simp only [List.map_const', List.length_range, List.sum_replicate, smul_eq_mul]
  exact Nat.div_add_mod n d

lemma le_searchDepth (fits : ℕ → Bool) (turns d : ℕ) : d ≤ searchDepth fits turns d := by
  induction turns generalizing d with
  | zero => exact le_rfl
  | succ turns ih =>
    unfold searchDepth
    split
    · exact le_rfl
    · exact (Nat.le_succ d).trans (ih (d + 1))

lemma length_flatMap_zipIdx {α β : Type} (layers : List (List α)) (f : List α × ℕ → List β)
    (hf : ∀ layer, (f layer).length = layer.1.length) :
    (layers.zipIdx.flatMap f).length = (layers.map List.length).sum := by
  rw [List.length_flatMap]
  have hmap : (layers.zipIdx.map fun layer => (f layer).length) =
      (layers.zipIdx.map Prod.fst).map List.length := by
    rw [List.map_map]
    exact List.map_congr_left fun layer _ => hf layer
  rw [hmap, List.zipIdx_map_fst]

section

variable {gen : ℕ → Double K → Cloud K} (hgen : ∀ n scale, (gen n scale).length = n)

include hgen

lemma length_layersAt (n : ℕ) (scale : Double K) (d : ℕ) :
    (layersAt gen n scale d).map List.length = layerCounts n d := by
  unfold layersAt
  rw [List.map_map]
  refine (List.map_congr_left fun m _ => ?_).trans (List.map_id _)
  show (List.map _ (toSpacingFloor (gen m scale))).length = m
  rw [List.length_map, length_toSpacingFloor, hgen]

lemma length_stackIfOversized (n : ℕ) (scale : Double K) :
    (stackIfOversized gen n scale).length = n := by
  unfold stackIfOversized
  dsimp only
  split_ifs with hfew
  · exact hgen n scale
  · exact hgen n scale
  · exact (length_toSpacingFloor _).trans (hgen n scale)
  · have hdepth := le_searchDepth (layersFit gen n scale) (n - 2) 2
    unfold stacked
    rw [length_flatMap_zipIdx _ _ fun _ => List.length_map _, length_layersAt hgen,
      sum_layerCounts n (by omega)]

end

end Taramandal.Studio.Generators
