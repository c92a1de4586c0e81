import Taramandal.Core.Vectors
import Taramandal.Gcs.State

/-! # The clearance of one drone's abort (`abort_clearance`)

The descent of an aborting drone is a path of two legs, along which it is
somewhere between its slowest and its fastest modelled progress. The check looks
at that stretch every `dt` seconds, against where each neighbour will be, with a
margin for what the two can close in between. The margin is enough: a descent that
is reported clear is clear at every instant. -/
namespace Taramandal.Gcs.AbortClearance

open Lib.Dict Lib.Moving Core.Numbers Core.Geometry Core.Safety Core.Shows Core.Validate
open Core.Vectors Gcs.StartBridge Gcs.State

section Model

variable {K : Type} [Field K] [LinearOrder K]

def abortRtlSpeedRangeMs : K × K := (1, 8)

def abortDescentRateRangeMs : K × K := (1 / 2, 3 / 2)

def abortFallAccelRangeMs2 : K × K := (1 / 2 * (981 / 100), 981 / 100)

def abortClearanceDtS : K := 1 / 10

/-- `_ABORT_MODEL_DESCRIPTIONS`. -/
def abortModelDescription [FloorRing K] : AbortMode → String
  | .rtl =>
    "horizontal leg to own pad at current altitude (" ++ floatStr (abortRtlSpeedRangeMs (K := K)).1 ++
      "-" ++ floatStr (abortRtlSpeedRangeMs (K := K)).2 ++ " m/s), then vertical descent (" ++
      floatStr (abortDescentRateRangeMs (K := K)).1 ++ "-" ++
      floatStr (abortDescentRateRangeMs (K := K)).2 ++
      " m/s); does not model PX4's default RTL climb"
  | .land =>
    "vertical descent from current position (" ++ floatStr (abortDescentRateRangeMs (K := K)).1 ++
      "-" ++ floatStr (abortDescentRateRangeMs (K := K)).2 ++ " m/s)"
  | .estop => "vertical fall from current position (0.5g-1g); ballistic drift not modelled"

def abortHorizon [Sqrt K] (mode : AbortMode) (horizontalM verticalM : K) : K :=
  match mode with
  | .estop => sqrt (2 * verticalM / abortFallAccelRangeMs2.1)
  | _ => horizontalM / abortRtlSpeedRangeMs.1 + verticalM / abortDescentRateRangeMs.1

def along (horizontalM verticalM hSpeed vRate tau : K) : K :=
  let leg1T := horizontalM / hSpeed
  min (if tau ≤ leg1T then hSpeed * tau else horizontalM + vRate * (tau - leg1T))
    (horizontalM + verticalM)

/-- `_abort_progress`: the slowest and the fastest. -/
def abortProgress (mode : AbortMode) (horizontalM verticalM tau : K) : K × K :=
  match mode with
  | .estop =>
    (min (1 / 2 * abortFallAccelRangeMs2.1 * tau ^ 2) (horizontalM + verticalM),
      min (1 / 2 * abortFallAccelRangeMs2.2 * tau ^ 2) (horizontalM + verticalM))
  | _ =>
    (along horizontalM verticalM abortRtlSpeedRangeMs.1 abortDescentRateRangeMs.1 tau,
      along horizontalM verticalM abortRtlSpeedRangeMs.2 abortDescentRateRangeMs.2 tau)

/-- The fastest the drone can be in the interval that begins at `tau`. -/
def abortSpeed (mode : AbortMode) (dt tau : K) : K :=
  match mode with
  | .estop => abortFallAccelRangeMs2.2 * (tau + dt)
  | .rtl => max abortRtlSpeedRangeMs.2 abortDescentRateRangeMs.2
  | .land => abortDescentRateRangeMs.2

/-- The path of the descent: its start, where its two legs meet, and how long
they are. -/
structure AbortPath (K : Type) where
  p0 : Point K
  corner : Point K
  horizontal : K
  vertical : K

def abortPath [Sqrt K] (mode : AbortMode) (start : Point K) (pad : K × K) : AbortPath K :=
  let p0 : Point K := (start.1, start.2.1, max start.2.2 0)
  let corner : Point K := if mode = .rtl then (pad.1, pad.2, p0.2.2) else p0
  { p0 := p0, corner := corner, horizontal := pointDist corner p0, vertical := p0.2.2 }

/-- `p + s * v`. -/
def ahead (p v : Point K) (s : K) : Point K := (p.1 + s * v.1, p.2.1 + s * v.2.1, p.2.2 + s * v.2.2)

def AbortPath.leg1Unit (path : AbortPath K) : Point K :=
  if 0 < path.horizontal then
    ((path.corner.1 - path.p0.1) / path.horizontal,
      (path.corner.2.1 - path.p0.2.1) / path.horizontal,
      (path.corner.2.2 - path.p0.2.2) / path.horizontal)
  else (0, 0, 0)

def leg2Unit : Point K := (0, 0, -1)

def clip (x lo hi : K) : K := min (max x lo) hi

/-- `_distance_to_leg`, for one sample. -/
def distanceToLeg [Sqrt K] (q origin unit : Point K) (lo hi : K) : K :=
  pointDist q (ahead origin unit (clip (dot (sub q origin) unit) lo hi))

/-- The smaller of two distances, either of which may be infinite. -/
def nearer : Option K → Option K → Option K
  | some a, some b => some (min a b)
  | some a, none => some a
  | none, b => b

/-- How far a point is from the stretch of the path between two places of it. -/
def AbortPath.distance [Sqrt K] (path : AbortPath K) (q : Point K) (slow fast : K) : Option K :=
  nearer
    (if slow ≤ path.horizontal then
      some (distanceToLeg q path.p0 path.leg1Unit (min slow path.horizontal)
        (min fast path.horizontal))
    else none)
    (if path.horizontal ≤ fast then
      some (distanceToLeg q path.corner leg2Unit (max slow path.horizontal - path.horizontal)
        (max fast path.horizontal - path.horizontal))
    else none)

/-- What the check is told of another drone: its waypoints, or where it holds. -/
structure Neighbour (K : Type) where
  waypoints : Option (List (Waypoint K)) := none
  position : Option (Point K) := none

/-- `np.interp` over increasing instants. -/
def interp : List (K × K) → K → K
  | [], _ => 0
  | [a], _ => a.2
  | a :: b :: rest, t =>
    if t < a.1 then a.2
    else if t < b.1 then (b.2 - a.2) / (b.1 - a.1) * (t - a.1) + a.2
    else interp (b :: rest) t

/-- Where the waypoints put a drone at `t`, with its altitude upwards. -/
def plannedPoint (waypoints : List (Waypoint K)) (t : K) : Point K :=
  (interp (waypoints.map fun w => (w.time, w.x)) t, interp (waypoints.map fun w => (w.time, w.y)) t,
    -interp (waypoints.map fun w => (w.time, w.z)) t)

/-- The speed from one waypoint to the next; one that takes no time has none. -/
def segmentSpeed [Sqrt K] (w1 w2 : Waypoint K) : K :=
  if 0 < w2.time - w1.time then
    pointDist (w2.x, w2.y, w2.z) (w1.x, w1.y, w1.z) / (w2.time - w1.time)
  else 0

def otherSpeed [Sqrt K] (waypoints : List (Waypoint K)) : K :=
  maxOr 0 (List.zipWith segmentSpeed waypoints waypoints.tail)

/-- Where a neighbour will be at each instant of the descent, and its speed at
most; one without waypoints or position is passed over. -/
def Neighbour.motion [Sqrt K] (other : Neighbour K) (showElapsedS : Option K) :
    Option ((K → Point K) × K) :=
  match other.waypoints, other.position with
  | some (w :: ws), _ =>
    some (fun tau => plannedPoint (w :: ws) (showElapsedS.elim 0 fun elapsed => elapsed + tau),
      otherSpeed (w :: ws))
  | _, some position => some (fun _ => position, 0)
  | _, none => none

structure Conflict (K : Type) where
  droneId : Nat
  minDistanceM : K
  inS : K

structure Clearance (K : Type) where
  clear : Bool
  thresholdM : K
  mode : AbortMode
  model : String
  horizonS : K
  conflicts : List (Conflict K)

/-- The distance at one sample, if it is below the limit. -/
def hitAt [Sqrt K] (mode : AbortMode) (path : AbortPath K) (q : K → Point K)
    (speed thresholdM dt tau : K) : Option (K × K) :=
  let progress := abortProgress mode path.horizontal path.vertical tau
  ((path.distance (q tau) progress.1 progress.2).filter fun dist =>
    dist < thresholdM + (speed + abortSpeed mode dt tau) * dt / 2).map fun dist => (dist, tau)

variable [FloorRing K] [Sqrt K]

def conflictWith (mode : AbortMode) (path : AbortPath K) (showElapsedS : Option K)
    (thresholdM dt : K) (e : Nat × Neighbour K) : Option (Conflict K) := do
  let (q, speed) ← e.2.motion showElapsedS
  let tau := sweepTimes (abortHorizon mode path.horizontal path.vertical) dt
  let (dist, at_) ← (tau.filterMap (hitAt mode path q speed thresholdM dt)).argmin Prod.fst
  pure ⟨e.1, roundTo 2 dist, roundTo 1 at_⟩

def abortClearance [IsStrictOrderedRing K] (mode : AbortMode) (start : Point K) (pad : K × K)
    (others : Dict Nat (Neighbour K)) (showElapsedS : Option K)
    (thresholdM : K := (defaultLimits : SafetyLimits K).designSeparationM)
    (dt : K := abortClearanceDtS) : Clearance K :=
  let path := abortPath mode start pad
  let conflicts := others.filterMap (conflictWith mode path showElapsedS thresholdM dt)
  { clear := conflicts.isEmpty
    thresholdM := thresholdM
    mode := mode
    model := abortModelDescription (K := K) mode
    horizonS := roundTo 1 (abortHorizon mode path.horizontal path.vertical)
    conflicts := conflicts.insertionSort fun c d => c.minDistanceM ≤ d.minDistanceM }

end Model

/-- The modelled position at arc length `s` of the path. -/
noncomputable def AbortPath.at (path : AbortPath ℝ) (s : ℝ) : Point ℝ :=
  if s ≤ path.horizontal then ahead path.p0 path.leg1Unit s
  else ahead path.corner leg2Unit (s - path.horizontal)

/-- Where a neighbour is at `t` of the descent: where the playback interpolates it,
or where it holds. -/
noncomputable def Neighbour.at (other : Neighbour ℝ) (showElapsedS : Option ℝ) (t : ℝ) :
    Option (Point ℝ) :=
  match other.waypoints, other.position with
  | some (w :: ws), _ =>
    (interpolateWaypoint (w :: ws) (showElapsedS.elim 0 fun elapsed => elapsed + t)).map
      fun w => (w.x, w.y, -w.z)
  | _, some position => some position
  | _, none => none

/-- The waypoints of a neighbour, if it has any, have strictly increasing times. -/
def Neighbour.Timed (other : Neighbour ℝ) : Prop :=
  ∀ waypoints ∈ other.waypoints, waypoints.Pairwise fun a b => a.time < b.time

lemma vec_ahead (p v : Point ℝ) (s : ℝ) : vec (ahead p v s) = vec p + s • vec v := by
  ext i
  fin_cases i <;> simp [vec, ahead]

/-! ## The stretch of the path -/

/-- The two legs join, and are no longer than the path says. -/
structure AbortPath.Joined (path : AbortPath ℝ) : Prop where
  horizontal : 0 ≤ path.horizontal
  vertical : 0 ≤ path.vertical
  corner : path.corner = ahead path.p0 path.leg1Unit path.horizontal
  unit : dot path.leg1Unit path.leg1Unit = 1 ∨ path.leg1Unit = (0, 0, 0)

variable {path : AbortPath ℝ}

lemma joined_of_length (hv : 0 ≤ path.vertical)
    (hlength : path.horizontal = pointDist path.corner path.p0) : path.Joined := by
  obtain ⟨p0, corner, h, v⟩ := path
  have hlength : h = pointDist corner p0 := hlength
  have hnonneg : 0 ≤ h := by rw [hlength]; exact sqrt_nonneg _
  have hsq : h * h = distSq corner p0 := by
    rw [hlength]
    exact Real.mul_self_sqrt (distSq_nonneg _ _)
  rcases hnonneg.lt_or_eq with hpos | hzero
  · have hne : h ≠ 0 := hpos.ne'
    refine ⟨hnonneg, hv, ?_, .inl ?_⟩
    · simp only [AbortPath.leg1Unit, hpos, if_true, ahead]
      refine Prod.ext ?_ (Prod.ext ?_ ?_) <;> field_simp <;> ring
    · simp only [AbortPath.leg1Unit, hpos, if_true, dot]
      rw [distSq] at hsq
      field_simp
      linarith
  · have hzero' : ¬ (0 : ℝ) < h := by rw [← hzero]; exact lt_irrefl _
    refine ⟨hnonneg, hv, ?_, .inr (by simp only [AbortPath.leg1Unit, if_neg hzero'])⟩
    rw [← hzero, mul_zero, distSq] at hsq
    have hx := mul_self_nonneg (corner.1 - p0.1)
    have hy := mul_self_nonneg (corner.2.1 - p0.2.1)
    have hz := mul_self_nonneg (corner.2.2 - p0.2.2)
    have hx' : corner.1 = p0.1 := sub_eq_zero.mp (mul_self_eq_zero.mp (by linarith))
    have hy' : corner.2.1 = p0.2.1 := sub_eq_zero.mp (mul_self_eq_zero.mp (by linarith))
    have hz' : corner.2.2 = p0.2.2 := sub_eq_zero.mp (mul_self_eq_zero.mp (by linarith))
    simp only [ahead, ← hzero, zero_mul, add_zero]
    exact Prod.ext hx' (Prod.ext hy' hz')

lemma abortPath_joined (mode : AbortMode) (start : Point ℝ) (pad : ℝ × ℝ) :
    (abortPath mode start pad).Joined :=
  joined_of_length (le_max_right _ _) rfl

variable {mode : AbortMode}

lemma abortPath_horizontal (hmode : mode ≠ .rtl) (start : Point ℝ) (pad : ℝ × ℝ) :
    (abortPath mode start pad).horizontal = 0 := by
  simp [abortPath, hmode, pointDist, distSq, sqrt_real]

lemma norm_vec_le {v : Point ℝ} (h : dot v v = 1 ∨ v = (0, 0, 0)) : ‖vec v‖ ≤ 1 := by
  have hnorm : ‖vec v‖ = Real.sqrt (dot v v) := by
    simp [vec, EuclideanSpace.norm_eq, Fin.sum_univ_three, dot, sq]
  rw [hnorm]
  rcases h with h | rfl
  · rw [h, Real.sqrt_one]
  · simp [dot]

lemma vec_at (h : path.Joined) (s : ℝ) : vec (path.at s) =
      twoLegs (vec path.p0) (vec path.leg1Unit) (vec leg2Unit) path.horizontal s := by
  unfold AbortPath.at twoLegs
  split
  · exact vec_ahead ..
  · rw [vec_ahead, h.corner, vec_ahead]

lemma dist_at_le (h : path.Joined) (s s' : ℝ) : pointDist (path.at s) (path.at s') ≤ |s - s'| := by
  rw [pointDist_eq_dist, vec_at h, vec_at h]
  exact dist_twoLegs_le (norm_vec_le h.unit) (norm_vec_le (.inl (by simp [dot, leg2Unit]))) _ s s'

variable {q unit : Point ℝ} {x : ℝ} {other : Neighbour ℝ} {showElapsedS : Option ℝ}

lemma distanceToLeg_le {origin : Point ℝ} {lo hi : ℝ}
    (hunit : dot unit unit = 1 ∨ unit = (0, 0, 0)) (hlo : lo ≤ x) (hhi : x ≤ hi) :
    distanceToLeg q origin unit lo hi ≤ pointDist q (ahead origin unit x) := by
  unfold distanceToLeg pointDist
  refine Real.sqrt_le_sqrt ?_
  generalize hfoot : dot (sub q origin) unit = foot
  have hexpand : ∀ y, distSq q (ahead origin unit y) =
      distSq q origin - 2 * y * foot + y * y * dot unit unit := fun y => by
    rw [← hfoot]
    simp only [distSq, ahead, dot, sub]
    ring
  rw [hexpand, hexpand]
  rcases hunit with hunit | rfl
  · rw [hunit]
    have hclip : (clip foot lo hi - foot) ^ 2 ≤ (x - foot) ^ 2 := by
      rw [sq_le_sq]
      unfold clip
      rcases le_total foot lo with hf | hf
      · rw [max_eq_right hf, min_eq_left (hlo.trans hhi), abs_of_nonneg (by linarith),
          abs_of_nonneg (by linarith)]
        linarith
      · rw [max_eq_left hf]
        rcases le_total foot hi with hf' | hf'
        · rw [min_eq_left hf', sub_self, abs_zero]
          exact abs_nonneg _
        · rw [min_eq_right hf', abs_of_nonpos (by linarith), abs_of_nonpos (by linarith)]
          linarith
    nlinarith [hclip]
  · have hzero : foot = 0 := by rw [← hfoot]; simp [dot]
    simp [hzero, dot]

lemma distance_le (h : path.Joined) {slow fast s : ℝ} (hslow : slow ≤ s) (hfast : s ≤ fast)
    (q : Point ℝ) :
    ∃ dist, path.distance q slow fast = some dist ∧ dist ≤ pointDist q (path.at s) := by
  unfold AbortPath.distance AbortPath.at
  by_cases hs : s ≤ path.horizontal
  · have hleg : distanceToLeg q path.p0 path.leg1Unit (min slow path.horizontal)
        (min fast path.horizontal) ≤ pointDist q (ahead path.p0 path.leg1Unit s) :=
      distanceToLeg_le h.unit (le_trans (min_le_left _ _) hslow) (le_min hfast hs)
    rw [if_pos (hslow.trans hs), if_pos hs]
    split
    · exact ⟨_, rfl, (min_le_left _ _).trans hleg⟩
    · exact ⟨_, rfl, hleg⟩
  · have hs' := not_le.mp hs
    have hleg : distanceToLeg q path.corner leg2Unit (max slow path.horizontal - path.horizontal)
        (max fast path.horizontal - path.horizontal) ≤
          pointDist q (ahead path.corner leg2Unit (s - path.horizontal)) :=
      distanceToLeg_le (.inl (by simp [dot, leg2Unit]))
        (sub_le_sub_right (max_le hslow hs'.le) _)
        (sub_le_sub_right (hfast.trans (le_max_left _ _)) _)
    rw [if_pos (hs'.le.trans hfast), if_neg hs]
    split
    · exact ⟨_, rfl, (min_le_right _ _).trans hleg⟩
    · exact ⟨_, rfl, hleg⟩

/-! ## The progress along the path -/

lemma min_sub_min_le {y total c : ℝ} (hc : 0 ≤ c) (h : x - y ≤ c) :
    min x total - min y total ≤ c := by
  rcases le_total y total with hy | hy
  · rw [min_eq_left hy]
    linarith [min_le_left x total]
  · rw [min_eq_right hy]
    linarith [min_le_right x total]

section

variable {horizontalM verticalM hSpeed vRate : ℝ}

lemma along_slip {bound t t' : ℝ} (hspeed : 0 < hSpeed) (hrate : 0 ≤ vRate)
    (hv : vRate ≤ bound) (hh : horizontalM = 0 ∨ hSpeed ≤ bound) (h0' : 0 ≤ t') :
    along horizontalM verticalM hSpeed vRate t - along horizontalM verticalM hSpeed vRate t' ≤
      bound * |t - t'| := by
  have hleg : hSpeed * (horizontalM / hSpeed) = horizontalM := mul_div_cancel₀ _ hspeed.ne'
  have hbound : 0 ≤ bound := hrate.trans hv
  have hfirst : ∀ x, 0 ≤ x → x ≤ horizontalM / hSpeed → hSpeed * x ≤ bound * x := by
    intro x hx hx'
    rcases hh with hzero | hle
    · rw [hzero, zero_div] at hx'
      rw [le_antisymm hx' hx, mul_zero, mul_zero]
    · exact mul_le_mul_of_nonneg_right hle hx
  have hlater : ∀ x, 0 ≤ x → vRate * x ≤ bound * x := fun x hx =>
    mul_le_mul_of_nonneg_right hv hx
  refine min_sub_min_le (mul_nonneg hbound (abs_nonneg _)) ?_
  generalize horizontalM / hSpeed = leg1T at hleg hfirst
  rcases le_total t t' with htt | htt
  · -- the progress is monotone
    refine le_trans ?_ (mul_nonneg hbound (abs_nonneg _))
    by_cases h' : t' ≤ leg1T
    · rw [if_pos (htt.trans h'), if_pos h']
      linarith [mul_le_mul_of_nonneg_left htt hspeed.le]
    · have hpast := not_le.mp h'
      by_cases h : t ≤ leg1T
      · rw [if_pos h, if_neg h']
        linarith [mul_le_mul_of_nonneg_left h hspeed.le, mul_nonneg hrate (sub_nonneg.mpr hpast.le)]
      · rw [if_neg h, if_neg h']
        linarith [mul_le_mul_of_nonneg_left htt hrate]
  · rw [abs_of_nonneg (sub_nonneg.mpr htt)]
    by_cases h : t ≤ leg1T
    · rw [if_pos h, if_pos (htt.trans h)]
      linarith [hfirst (t - t') (sub_nonneg.mpr htt) (by linarith)]
    · have hpast := not_le.mp h
      by_cases h' : t' ≤ leg1T
      · rw [if_neg h, if_pos h']
        linarith [hfirst (leg1T - t') (sub_nonneg.mpr h') (by linarith),
          hlater (t - leg1T) (sub_nonneg.mpr hpast.le)]
      · rw [if_neg h, if_neg h']
        linarith [hlater (t - t') (sub_nonneg.mpr htt)]

lemma along_mono {hSpeed' vRate' t : ℝ} (hhoriz : 0 ≤ horizontalM) (hspeed : 0 < hSpeed)
    (hh : hSpeed ≤ hSpeed') (hrate : 0 ≤ vRate) (hv : vRate ≤ vRate') (h0 : 0 ≤ t) :
    along horizontalM verticalM hSpeed vRate t ≤ along horizontalM verticalM hSpeed' vRate' t := by
  have hleg : hSpeed * (horizontalM / hSpeed) = horizontalM := mul_div_cancel₀ _ hspeed.ne'
  have hsooner : horizontalM / hSpeed' ≤ horizontalM / hSpeed :=
    div_le_div_of_nonneg_left hhoriz hspeed hh
  refine min_le_min_right _ ?_
  generalize horizontalM / hSpeed = leg1T at hleg hsooner
  generalize horizontalM / hSpeed' = leg1T' at hsooner
  by_cases h' : t ≤ leg1T'
  · rw [if_pos h', if_pos (h'.trans hsooner)]
    exact mul_le_mul_of_nonneg_right hh h0
  · have hpast := not_le.mp h'
    rw [if_neg h']
    have hrest : 0 ≤ vRate' * (t - leg1T') := mul_nonneg (hrate.trans hv) (by linarith)
    by_cases h : t ≤ leg1T
    · rw [if_pos h]
      linarith [mul_le_mul_of_nonneg_left h hspeed.le]
    · rw [if_neg h]
      have hlate : vRate * (t - leg1T) ≤ vRate' * (t - leg1T') :=
        mul_le_mul hv (by linarith) (by linarith) (hrate.trans hv)
      linarith

end

variable {t : ℝ}

lemma abortProgress_le (mode : AbortMode) {horizontalM : ℝ} (verticalM : ℝ)
    (hhoriz : 0 ≤ horizontalM) (h0 : 0 ≤ t) :
    (abortProgress mode horizontalM verticalM t).1 ≤
      (abortProgress mode horizontalM verticalM t).2 := by
  have hlegs : along horizontalM verticalM abortRtlSpeedRangeMs.1 abortDescentRateRangeMs.1 t ≤
      along horizontalM verticalM abortRtlSpeedRangeMs.2 abortDescentRateRangeMs.2 t :=
    along_mono hhoriz (by norm_num [abortRtlSpeedRangeMs]) (by norm_num [abortRtlSpeedRangeMs])
      (by norm_num [abortDescentRateRangeMs]) (by norm_num [abortDescentRateRangeMs]) h0
  cases mode with
  | estop =>
    refine min_le_min_right _ (mul_le_mul_of_nonneg_right ?_ (sq_nonneg t))
    norm_num [abortFallAccelRangeMs2]
  | rtl => exact hlegs
  | land => exact hlegs

variable {dt tau : ℝ}

lemma abortSpeed_nonneg (mode : AbortMode) (hdt : 0 ≤ dt) (htau : 0 ≤ tau) :
    0 ≤ abortSpeed mode dt tau := by
  cases mode with
  | rtl => exact le_max_of_le_left (by norm_num [abortRtlSpeedRangeMs])
  | land => norm_num [abortSpeed, abortDescentRateRangeMs]
  | estop => exact mul_nonneg (by norm_num [abortFallAccelRangeMs2]) (add_nonneg htau hdt)

lemma sq_sub_sq_le {a b : ℝ} (ha : 0 ≤ a) (hb : 0 ≤ b) (h : |a - b| ≤ dt / 2)
    (hab : a + b ≤ 2 * (tau + dt)) : a ^ 2 - b ^ 2 ≤ dt * (tau + dt) := by
  calc a ^ 2 - b ^ 2 = (a - b) * (a + b) := by ring
    _ ≤ |a - b| * (a + b) := mul_le_mul_of_nonneg_right (le_abs_self _) (add_nonneg ha hb)
    _ ≤ dt / 2 * (2 * (tau + dt)) :=
        mul_le_mul h hab (add_nonneg ha hb) ((abs_nonneg _).trans h)
    _ = dt * (tau + dt) := by ring

/-- Between an instant and a sample half an interval away, the stretch of the path
moves by no more than the margin allows for. -/
lemma abortProgress_slip {horizontalM : ℝ} (verticalM : ℝ) (hmode : mode ≠ .rtl → horizontalM = 0)
    (h0 : 0 ≤ t) (htau : 0 ≤ tau) (h : |t - tau| ≤ dt / 2) :
    (abortProgress mode horizontalM verticalM tau).1 -
        (abortProgress mode horizontalM verticalM t).1 ≤ abortSpeed mode dt tau * dt / 2 ∧
      (abortProgress mode horizontalM verticalM t).2 -
        (abortProgress mode horizontalM verticalM tau).2 ≤ abortSpeed mode dt tau * dt / 2 := by
  have hdt : 0 ≤ dt := by linarith [(abs_nonneg _).trans h]
  have hback : |tau - t| ≤ dt / 2 := by rwa [abs_sub_comm]
  -- on the two legs
  have hlegs : ∀ bound : ℝ, 3 / 2 ≤ bound → (horizontalM = 0 ∨ 8 ≤ bound) →
      along horizontalM verticalM abortRtlSpeedRangeMs.1 abortDescentRateRangeMs.1 tau -
          along horizontalM verticalM abortRtlSpeedRangeMs.1 abortDescentRateRangeMs.1 t ≤
          bound * dt / 2 ∧
        along horizontalM verticalM abortRtlSpeedRangeMs.2 abortDescentRateRangeMs.2 t -
          along horizontalM verticalM abortRtlSpeedRangeMs.2 abortDescentRateRangeMs.2 tau ≤
          bound * dt / 2 := by
    intro bound hrate hspeed
    have hclose : ∀ x : ℝ, |x| ≤ dt / 2 → bound * |x| ≤ bound * dt / 2 := fun x hx => by
      rw [mul_div_assoc]
      exact mul_le_mul_of_nonneg_left hx (by linarith)
    refine ⟨(along_slip ?_ ?_ ?_ ?_ h0).trans (hclose _ hback),
      (along_slip ?_ ?_ ?_ ?_ htau).trans (hclose _ h)⟩
    · norm_num [abortRtlSpeedRangeMs]
    · norm_num [abortDescentRateRangeMs]
    · norm_num [abortDescentRateRangeMs]; linarith
    · exact hspeed.imp_right fun h8 => by norm_num [abortRtlSpeedRangeMs]; linarith
    · norm_num [abortRtlSpeedRangeMs]
    · norm_num [abortDescentRateRangeMs]
    · norm_num [abortDescentRateRangeMs]; linarith
    · exact hspeed.imp_right fun h8 => by norm_num [abortRtlSpeedRangeMs]; linarith
  cases mode with
  | rtl =>
    have hmax : (8 : ℝ) ≤ max abortRtlSpeedRangeMs.2 abortDescentRateRangeMs.2 := le_max_left _ _
    exact hlegs (max abortRtlSpeedRangeMs.2 abortDescentRateRangeMs.2) (by linarith) (.inr hmax)
  | land => exact hlegs (3 / 2) (le_refl _) (.inl (hmode (by decide)))
  | estop =>
    have hle := (abs_le.mp h)
    have hgain : 0 ≤ dt * (tau + dt) := mul_nonneg hdt (by linarith)
    have hfall : ∀ x : ℝ, x ≤ dt * (tau + dt) → 981 / 200 * x ≤ 981 / 200 * (dt * (tau + dt)) :=
      fun x hx => mul_le_mul_of_nonneg_left hx (by norm_num)
    have hslow : tau ^ 2 - t ^ 2 ≤ dt * (tau + dt) := sq_sub_sq_le htau h0 hback (by linarith)
    have hfast : t ^ 2 - tau ^ 2 ≤ dt * (tau + dt) := sq_sub_sq_le h0 htau h (by linarith)
    constructor <;> refine min_sub_min_le ?_ ?_ <;>
      simp only [abortSpeed, abortFallAccelRangeMs2] <;> linarith [hfall _ hslow, hfall _ hfast]

section

variable {f : Waypoint ℝ → ℝ}

abbrev timed (f : Waypoint ℝ → ℝ) (waypoints : List (Waypoint ℝ)) : List (ℝ × ℝ) :=
  waypoints.map fun w => (w.time, f w)

variable {l : List (Waypoint ℝ)} {t : ℝ}

variable {a : Waypoint ℝ}

lemma interp_head (h : (a :: l).Pairwise fun a b => a.time < b.time) (ht : t ≤ a.time) :
    interp (timed f (a :: l)) t = f a := by
  cases l with
  | nil => rfl
  | cons b l =>
    have hab : a.time < b.time := List.rel_of_pairwise_cons h (List.mem_cons_self ..)
    rcases ht.lt_or_eq with hlt | rfl
    · simp [interp, hlt]
    · simp [interp, hab]

lemma interp_later {b : Waypoint ℝ} (hab : a.time < b.time) (ht : b.time ≤ t) :
    interp (timed f (a :: b :: l)) t = interp (timed f (b :: l)) t := by
  simp only [List.map_cons, interp]
  rw [if_neg (by linarith), if_neg (by linarith)]

lemma interp_last {w : Waypoint ℝ} (h : l.Pairwise fun a b => a.time < b.time)
    (hw : l.getLast? = some w) (ht : w.time ≤ t) :
    interp (timed f l) t = f w := by
  induction l with
  | nil => cases hw
  | cons a l ih =>
    cases l with
    | nil => cases hw; rfl
    | cons b l =>
      have hab : a.time < b.time := List.rel_of_pairwise_cons h (List.mem_cons_self ..)
      rw [List.getLast?_cons_cons] at hw
      have hbw : b.time ≤ w.time := by
        rcases List.mem_cons.mp (List.mem_of_getLast? hw) with rfl | hmem
        · exact le_refl _
        · exact (List.rel_of_pairwise_cons h.of_cons hmem).le
      rw [interp_later hab (hbw.trans ht)]
      exact ih h.of_cons hw

lemma interp_inner {i : Nat} {w1 w2 : Waypoint ℝ} (h : l.Pairwise fun a b => a.time < b.time)
    (h1 : l[i]? = some w1) (h2 : l[i + 1]? = some w2) (hlt : w1.time < t) (hle : t ≤ w2.time) :
    interp (timed f l) t = f w1 + (t - w1.time) / (w2.time - w1.time) * (f w2 - f w1) := by
  induction l generalizing i with
  | nil => cases h1
  | cons a l ih =>
    cases l with
    | nil => simp at h2
    | cons b l =>
      have hab : a.time < b.time := List.rel_of_pairwise_cons h (List.mem_cons_self ..)
      have hspan : b.time - a.time ≠ 0 := (sub_pos.mpr hab).ne'
      cases i with
      | zero =>
        cases h1
        cases h2
        rcases hle.lt_or_eq with hin | rfl
        · simp only [List.map_cons, interp]
          rw [if_neg (by linarith), if_pos hin]
          ring
        · rw [interp_later hab (le_refl _), interp_head h.of_cons (le_refl _), div_self hspan]
          ring
      | succ i =>
        have h1' : (b :: l)[i]? = some w1 := h1
        have hbw : b.time ≤ w1.time := by
          rcases List.mem_cons.mp (List.mem_of_getElem? h1') with rfl | hmem
          · exact le_refl _
          · exact (List.rel_of_pairwise_cons h.of_cons hmem).le
        rw [interp_later hab (by linarith)]
        exact ih h.of_cons h1 h2

end

variable {waypoints : List (Waypoint ℝ)}

/-- `np.interp` is the position rule of the playback. -/
lemma plannedPoint_eq {w : Waypoint ℝ} (h : waypoints.Pairwise fun a b => a.time < b.time)
    (hw : interpolateWaypoint waypoints t = some w) :
    plannedPoint waypoints t = (w.x, w.y, -w.z) := by
  have hord : TimeOrdered waypoints := h.imp le_of_lt
  cases waypoints with
  | nil => cases hw
  | cons a l =>
    obtain ⟨last, hl⟩ : ∃ w, (a :: l).getLast? = some w :=
      ⟨_, List.getLast?_eq_some_getLast (by simp)⟩
    rcases interpolateWaypoint_cases hord rfl hl t with
      ⟨hle, he⟩ | ⟨-, hle, he⟩ | ⟨i, w1, w2, h1, h2, hlt, hle, -, he⟩
    · cases he.symm.trans hw
      simp only [plannedPoint, interp_head h hle]
    · cases he.symm.trans hw
      simp only [plannedPoint, interp_last h hl hle]
    · cases he.symm.trans hw
      have hspan : 0 < w2.time - w1.time := by linarith
      simp only [plannedPoint, interp_inner h h1 h2 hlt hle, segmentState, segmentRatio, hspan,
        if_true]

noncomputable def placed (w : Waypoint ℝ) : ℝ × EuclideanSpace ℝ (Fin 3) :=
  (w.time, vec (w.x, w.y, -w.z))

lemma vec_plannedPoint (hne : waypoints ≠ []) (t : ℝ) :
    vec (plannedPoint waypoints t) = track (waypoints.map placed) t := by
  induction waypoints with
  | nil => exact absurd rfl hne
  | cons a l ih =>
    cases l with
    | nil => rfl
    | cons b l =>
      have hrest := ih (by simp)
      simp only [plannedPoint, List.map_cons, interp, track, placed] at hrest ⊢
      by_cases hta : t < a.time
      · simp only [hta, if_true]
      · by_cases htb : t < b.time
        · simp only [hta, htb, if_true, if_false]
          ext i
          fin_cases i <;> simp [vec] <;> ring
        · simp only [hta, htb, if_false]
          exact hrest

lemma segmentSpeed_nonneg (w1 w2 : Waypoint ℝ) : 0 ≤ segmentSpeed w1 w2 := by
  unfold segmentSpeed
  split
  next hspan => exact div_nonneg (sqrt_nonneg _) hspan.le
  next => exact le_refl _

lemma otherSpeed_nonneg (waypoints : List (Waypoint ℝ)) : 0 ≤ otherSpeed waypoints := by
  rcases maxOr_mem 0 (List.zipWith segmentSpeed waypoints waypoints.tail) with h | h
  · exact h.ge
  · obtain ⟨i, hi, hv⟩ := List.getElem_of_mem h
    rw [List.getElem_zipWith] at hv
    rw [otherSpeed, ← hv]
    exact segmentSpeed_nonneg ..

lemma slowerThan_of_speeds {v : ℝ} (h : waypoints.Pairwise fun a b => a.time < b.time)
    (hv : ∀ s ∈ List.zipWith segmentSpeed waypoints waypoints.tail, s ≤ v) :
    SlowerThan v (waypoints.map placed) := by
  induction waypoints with
  | nil => exact List.isChain_nil
  | cons a l ih =>
    cases l with
    | nil => exact List.isChain_singleton _
    | cons b l =>
      have hab : a.time < b.time := List.rel_of_pairwise_cons h (List.mem_cons_self ..)
      have hspan : 0 < b.time - a.time := sub_pos.mpr hab
      have hseg : segmentSpeed a b ≤ v := hv _ (by simp)
      refine List.isChain_cons_cons.mpr ⟨⟨hab, ?_⟩, ih h.of_cons fun s hs => hv s (by
        simp only [List.tail_cons, List.zipWith_cons_cons, List.mem_cons]
        exact .inr hs)⟩
      rw [segmentSpeed, if_pos hspan, div_le_iff₀ hspan] at hseg
      refine le_trans (le_of_eq ?_) hseg
      rw [dist_comm, placed, placed, ← pointDist_eq_dist]
      simp only [pointDist, distSq]
      congr 1
      ring

lemma motion_spec (htimed : other.Timed) {p : Point ℝ} (h : other.at showElapsedS t = some p) :
    ∃ q speed, other.motion showElapsedS = some (q, speed) ∧ q t = p ∧ 0 ≤ speed ∧
      ∀ t', pointDist (q t) (q t') ≤ speed * |t - t'| := by
  obtain ⟨waypoints, position⟩ := other
  match waypoints, position with
  | some (w :: ws), position =>
    have hord : (w :: ws).Pairwise fun a b => a.time < b.time := htimed (w :: ws) rfl
    obtain ⟨w', hw', rfl⟩ := Option.map_eq_some_iff.mp h
    refine ⟨_, _, rfl, plannedPoint_eq hord hw', otherSpeed_nonneg _, fun t' => ?_⟩
    rw [pointDist_eq_dist, vec_plannedPoint (by simp), vec_plannedPoint (by simp)]
    refine (dist_track_le (otherSpeed_nonneg _)
      (slowerThan_of_speeds hord fun s hs => le_maxOr hs) _ _).trans ?_
    refine mul_le_mul_of_nonneg_left ?_ (otherSpeed_nonneg _)
    cases showElapsedS with
    | none => simp
    | some elapsed => simp
  | some [], some position =>
    cases h
    exact ⟨_, _, rfl, rfl, le_refl _, fun t' => by simp [pointDist, distSq, sqrt_real]⟩
  | none, some position =>
    cases h
    exact ⟨_, _, rfl, rfl, le_refl _, fun t' => by simp [pointDist, distSq, sqrt_real]⟩
  | some [], none => cases h
  | none, none => cases h

/-! ## The rule -/

/-- A neighbour that causes no conflict is at the limit or beyond at every sample. -/
lemma limit_le_of_no_conflict {thresholdM : ℝ} {d : Nat}
    (h : conflictWith mode path showElapsedS thresholdM dt (d, other) = none)
    {q : ℝ → Point ℝ} {speed : ℝ} (hq : other.motion showElapsedS = some (q, speed)) {dist : ℝ}
    (htau : tau ∈ sweepTimes (abortHorizon mode path.horizontal path.vertical) dt)
    (hdist : path.distance (q tau) (abortProgress mode path.horizontal path.vertical tau).1
      (abortProgress mode path.horizontal path.vertical tau).2 = some dist) :
    thresholdM + (speed + abortSpeed mode dt tau) * dt / 2 ≤ dist := by
  by_contra hlt
  simp only [conflictWith, hq, Option.pure_def, Option.bind_eq_bind, Option.bind_some,
    Option.bind_eq_none_iff] at h
  cases hmin : ((sweepTimes (abortHorizon mode path.horizontal path.vertical) dt).filterMap
      (hitAt mode path q speed thresholdM dt)).argmin Prod.fst with
  | some hit => exact absurd (h hit hmin) (by simp)
  | none =>
    have hhit : hitAt mode path q speed thresholdM dt tau = some (dist, tau) := by
      simp [hitAt, hdist, Option.filter, not_le.mp hlt]
    have hmem := List.mem_filterMap.mpr ⟨tau, htau, hhit⟩
    rw [List.argmin_eq_none.mp hmin] at hmem
    cases hmem

/-- A descent that is reported clear keeps the threshold from every neighbour, at
every instant up to the horizon and at every place the drone may be then. -/
theorem clear_apart {mode : AbortMode} {start : Point ℝ} {pad : ℝ × ℝ}
    {others : Dict Nat (Neighbour ℝ)} {showElapsedS : Option ℝ} {thresholdM dt : ℝ} (hdt : 0 < dt)
    (htimed : ∀ e ∈ others, e.2.Timed)
    (hclear : (abortClearance mode start pad others showElapsedS thresholdM dt).clear = true) :
    ∀ t s, 0 ≤ t →
      t ≤ abortHorizon mode (abortPath mode start pad).horizontal (abortPath mode start pad).vertical →
      (abortProgress mode (abortPath mode start pad).horizontal
        (abortPath mode start pad).vertical t).1 ≤ s →
      s ≤ (abortProgress mode (abortPath mode start pad).horizontal
        (abortPath mode start pad).vertical t).2 →
      ∀ e ∈ others, ∀ p, e.2.at showElapsedS t = some p →
        thresholdM ≤ pointDist ((abortPath mode start pad).at s) p := by
  intro t s h0 ht hslow hfast e he p hp
  have hjoined := abortPath_joined mode start pad
  have hmode : mode ≠ .rtl → (abortPath mode start pad).horizontal = 0 :=
    fun h => abortPath_horizontal h start pad
  have hnone : conflictWith mode (abortPath mode start pad) showElapsedS thresholdM dt e = none := by
    rw [abortClearance, List.isEmpty_iff, List.filterMap_eq_nil_iff] at hclear
    exact hclear e he
  generalize abortPath mode start pad = path at *
  obtain ⟨q, speed, hq, rfl, hspeed, hmoves⟩ := motion_spec (htimed e he) hp
  -- the sample nearest to the instant
  obtain ⟨k, hk, hnear⟩ := exists_near_sample hdt h0 ht
  have htau : 0 ≤ (k : ℝ) * dt := mul_nonneg (Nat.cast_nonneg k) hdt.le
  have hsample : (k : ℝ) * dt ∈ sweepTimes (abortHorizon mode path.horizontal path.vertical) dt := by
    unfold sweepTimes
    split
    next hle =>
      rw [Int.toNat_of_nonpos (Int.ceil_le.mpr (by
        simpa using div_nonpos_of_nonpos_of_nonneg hle hdt.le))] at hk
      simp [Nat.le_zero.mp hk]
    next => exact List.mem_map.mpr ⟨k, List.mem_range.mpr (Nat.lt_succ_of_le hk), rfl⟩
  -- a place of the stretch at that sample, and what is checked there
  obtain ⟨hback, hahead⟩ := abortProgress_slip path.vertical hmode h0 htau hnear
  have hmargin : 0 ≤ abortSpeed mode dt (k * dt) * dt / 2 :=
    div_nonneg (mul_nonneg (abortSpeed_nonneg mode hdt.le htau) hdt.le) zero_le_two
  obtain ⟨s', hlo, hhi, hclose⟩ := exists_near_stretch hmargin
    (abortProgress_le mode path.vertical hjoined.horizontal htau)
    ((sub_le_sub_left hslow _).trans hback) ((sub_le_sub_right hfast _).trans hahead)
  obtain ⟨dist, hdist, hle⟩ := distance_le hjoined hlo hhi (q (k * dt))
  have hlimit := limit_le_of_no_conflict hnone hq hsample hdist
  have hother : pointDist (q t) (q (k * dt)) ≤ speed * dt / 2 := by
    rw [mul_div_assoc]
    exact (hmoves _).trans (mul_le_mul_of_nonneg_left hnear hspeed)
  have hown := (dist_at_le hjoined s s').trans hclose
  have htriangle : pointDist (q (k * dt)) (path.at s') ≤
      pointDist (q t) (q (k * dt)) + pointDist (path.at s) (q t) +
        pointDist (path.at s) (path.at s') := by
    simp only [pointDist_eq_dist]
    calc _ ≤ _ := dist_triangle4 _ (vec (q t)) (vec (path.at s)) _
      _ = _ := by rw [dist_comm (vec (q (k * dt))), dist_comm (vec (q t)) (vec (path.at s))]
  have hsplit : (speed + abortSpeed mode dt (k * dt)) * dt / 2 =
      speed * dt / 2 + abortSpeed mode dt (k * dt) * dt / 2 := by ring
  linarith

lemma five_le_of_upright {origin : Point ℝ} (ho : origin.1 = 0) (hu : unit.1 = 0)
    (hq : q.1 = 5) (x : ℝ) : 5 ≤ pointDist q (ahead origin unit x) := by
  refine Real.le_sqrt_of_sq_le ?_
  simp only [distSq, ahead, ho, hu, hq]
  nlinarith [mul_self_nonneg (q.2.1 - (origin.2.1 + x * unit.2.1)),
    mul_self_nonneg (q.2.2 - (origin.2.2 + x * unit.2.2))]

/-- A drone lands from a metre up, five metres beside one that holds. -/
theorem clear_apart_beside :
    (abortClearance .land ((0, 0, 1) : Point ℝ) (0, 0) [(1, { position := some (5, 0, 3) })]
        none 2 1).clear = true ∧
      2 ≤ pointDist ((abortPath .land ((0, 0, 1) : Point ℝ) (0, 0)).at (1 / 2)) (5, 0, 3) := by
  have hzero : (abortPath .land ((0, 0, 1) : Point ℝ) (0, 0)).horizontal = 0 :=
    abortPath_horizontal (by decide) _ _
  have hfar : ∀ slow fast dist : ℝ,
      (abortPath .land ((0, 0, 1) : Point ℝ) (0, 0)).distance (5, 0, 3) slow fast = some dist →
        5 ≤ dist := by
    intro slow fast dist h
    have hunit : (abortPath .land ((0, 0, 1) : Point ℝ) (0, 0)).leg1Unit.1 = 0 := by
      simp [AbortPath.leg1Unit, hzero]
    have hcorner : (abortPath .land ((0, 0, 1) : Point ℝ) (0, 0)).corner.1 = 0 := by
      simp [abortPath]
    unfold AbortPath.distance at h
    split at h <;> split at h <;> cases h
    · exact le_min (five_le_of_upright rfl hunit rfl _) (five_le_of_upright hcorner rfl rfl _)
    · exact five_le_of_upright rfl hunit rfl _
    · exact five_le_of_upright hcorner rfl rfl _
  have hclear : (abortClearance .land ((0, 0, 1) : Point ℝ) (0, 0)
      [(1, { position := some (5, 0, 3) })] none 2 1).clear = true := by
    have hnone : ∀ tau : ℝ, hitAt .land (abortPath .land ((0, 0, 1) : Point ℝ) (0, 0))
        (fun _ => (5, 0, 3)) 0 2 1 tau = none := by
      intro tau
      rw [hitAt, Option.map_eq_none_iff, Option.filter_eq_none_iff]
      intro dist hdist
      have hle := hfar _ _ _ hdist
      norm_num [abortSpeed, abortDescentRateRangeMs]
      linarith
    simp [abortClearance, conflictWith, Neighbour.motion, hnone]
  refine ⟨hclear, clear_apart one_pos (by simp [Neighbour.Timed]) hclear (1 / 2) (1 / 2)
    (by norm_num) ?_ ?_ ?_ _ (List.mem_singleton.mpr rfl) _ rfl⟩
  · rw [hzero]
    norm_num [abortHorizon, abortPath, abortRtlSpeedRangeMs, abortDescentRateRangeMs]
  · rw [hzero]
    norm_num [abortProgress, along, abortPath, abortRtlSpeedRangeMs, abortDescentRateRangeMs]
  · rw [hzero]
    norm_num [abortProgress, along, abortPath, abortRtlSpeedRangeMs, abortDescentRateRangeMs]

end Taramandal.Gcs.AbortClearance
