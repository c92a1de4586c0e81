import Taramandal.Gcs.Gate
import Taramandal.Gcs.StartBridge
import Taramandal.Lib.Moving

/-! # The geofence of a show (`drone_manager.py`)

A start derives the hard radius from the show: its largest distance from the
origin of the fleet frame, plus a buffer. The monitor compares that radius with
each drone's distance from its own pad. The two agree only where every drone's
path stays within the radius of the drone's own pad (`StaysInside`), which is
exactly when the monitor leaves a fleet alone that tracks its show
(`neverTriggers_iff`). -/
namespace Taramandal.Gcs.Geofence

open Lib.Dict Lib.Disc Core.Numbers Core.Values Core.Geometry Core.Safety Core.Shows Core.Validate
open Core.Schema Lib.Check Gcs.Gate Gcs.StartBridge

variable {K : Type} [Field K] [LinearOrder K]

/-- What the re-mapper reads of a drone's telemetry. -/
structure Health (K : Type) where
  drone : Nat
  connected : Bool
  batteryPercent : K
  satellites : ℤ
  aborted : Bool

def healthyIds (fleet : List (Health K)) : List Nat :=
  ((fleet.filter fun h => h.connected && (20 < h.batteryPercent : Bool) &&
    (6 ≤ h.satellites : Bool) && !h.aborted).map Health.drone).insertionSort (· ≤ ·)

/-- `remap_trajectory_to_healthy_drones`: slots in order to healthy drones in
order; what is left over on either side is dropped. -/
def remapTrajectoryToHealthyDrones (trajectory : Show K) (fleet : List (Health K)) : Plan K :=
  List.zipWith (fun slot droneId => (droneId, slot.2))
    (trajectory.drones.insertionSort fun a b => a.1 ≤ b.1) (healthyIds fleet)

/-- How a show is executed: from the drones that hold a verified mission of it,
or streamed to the fleet from where each drone holds. -/
inductive Execution (K : Type) where
  | onboard (verified : List Nat)
  | streamed (hold : Dict Nat (Point K)) (peakSpeedMs : K)

/-- The plan before any transition leg. For onboard execution the assignment was
made when the show was uploaded. -/
def assigned (trajectory : Show K) (fleet : List (Health K)) : Execution K → Plan K
  | .onboard verified =>
    (remapTrajectoryToHealthyDrones trajectory fleet).filter fun e => verified.contains e.1
  | .streamed _ _ => remapTrajectoryToHealthyDrones trajectory fleet

/-- `max_time` of the playback loop, which runs for one second more. -/
def playbackEnd (plan : Plan K) : K :=
  (plan.filterMap fun e => e.2.getLast?.map Waypoint.time).foldl max 0 + 1

section

variable [FloorRing K] [IsStrictOrderedRing K] [Sqrt K]

def playingTrajectory (tree : KdTree K) (trajectory : Show K) (fleet : List (Health K)) :
    Execution K → Except String (Plan K)
  | .onboard verified =>
    if assigned trajectory fleet (.onboard verified) = [] then
      .error "No drone holds a verified mission for this show. Upload it again."
    else .ok (assigned trajectory fleet (.onboard verified))
  | .streamed hold peakSpeedMs =>
    (buildStartBridge tree (assigned trajectory fleet (.streamed hold peakSpeedMs)) hold
      peakSpeedMs).map Prod.fst

/-- `_apply_geofence_envelope`: the hard and the soft radius. -/
def applyGeofenceEnvelope (trajectory : Show K) : K × Option K :=
  match trajectory.geofenceEnvelope defaultLimits with
  | .ok (_, soft, hard) => (hard, some soft)
  | .error _ => ((defaultLimits : SafetyLimits K).geofenceRadiusM, none)

lemma applyGeofenceEnvelope_hard [LawfulSqrt K] (trajectory : Show K) :
    (applyGeofenceEnvelope trajectory).1 = trajectory.maxHorizontalRadiusM + 15 := by
  have h0 := trajectory.maxHorizontalRadiusM_nonneg
  simp [applyGeofenceEnvelope, Show.geofenceEnvelope, SafetyLimits.geofenceRadii, not_lt.mpr h0,
    Except.map, defaultLimits]

end

/-! ## The monitor -/

/-- What the monitor reads of a drone's telemetry. -/
structure GeofenceTel (K : Type) where
  connected : Bool
  armed : Bool
  localX : K
  localY : K

structure GeofenceMonitor (K : Type) where
  geofenceRadius : K
  softGeofenceRadius : Option K
  geofenceBreaches : Dict Nat Bool
  geofenceWarnings : Dict Nat Bool

section

variable [Sqrt K]

def GeofenceTel.fromHome (tel : GeofenceTel K) : K := hypot tel.localX tel.localY

/-- The hard boundary for one drone, and whether it triggers RTL. -/
def checkHard (m : GeofenceMonitor K) (droneId : Nat) (tel : GeofenceTel K) :
    GeofenceMonitor K × Bool :=
  let alreadyBreached := (find m.geofenceBreaches droneId).getD false
  if m.geofenceRadius < tel.fromHome then
    if alreadyBreached then (m, false)
    else ({ m with geofenceBreaches := assign m.geofenceBreaches droneId true }, true)
  else if alreadyBreached then
    ({ m with geofenceBreaches := assign m.geofenceBreaches droneId false }, false)
  else (m, false)

def checkSoft (m : GeofenceMonitor K) (droneId : Nat) (tel : GeofenceTel K) : GeofenceMonitor K :=
  let alreadyWarned := (find m.geofenceWarnings droneId).getD false
  if m.softGeofenceRadius.any (· < tel.fromHome) then
    { m with geofenceWarnings := assign m.geofenceWarnings droneId true }
  else if alreadyWarned then
    { m with geofenceWarnings := assign m.geofenceWarnings droneId false }
  else m

/-- One scan of `_geofence_monitor_loop`: the drones that trigger an RTL. -/
def geofenceScan (m : GeofenceMonitor K) : List (Nat × GeofenceTel K) → GeofenceMonitor K × List Nat
  | [] => (m, [])
  | (droneId, tel) :: rest =>
    if tel.connected && tel.armed then
      let (m, triggers) := checkHard m droneId tel
      let (m, more) := geofenceScan (checkSoft m droneId tel) rest
      (m, if triggers then droneId :: more else more)
    else geofenceScan m rest

lemma checkHard_radius (m : GeofenceMonitor K) (d : Nat) (tel : GeofenceTel K) :
    (checkHard m d tel).1.geofenceRadius = m.geofenceRadius := by
  unfold checkHard
  split <;> (dsimp only; split <;> rfl)

lemma checkSoft_radius (m : GeofenceMonitor K) (d : Nat) (tel : GeofenceTel K) :
    (checkSoft m d tel).geofenceRadius = m.geofenceRadius := by
  unfold checkSoft
  dsimp only
  split
  · rfl
  · split <;> rfl

variable {m : GeofenceMonitor K} {d : Nat}

lemma geofenceScan_triggers {tels : List (Nat × GeofenceTel K)}
    (h : d ∈ (geofenceScan m tels).2) : ∃ tel, (d, tel) ∈ tels ∧ m.geofenceRadius < tel.fromHome := by
  induction tels generalizing m with
  | nil => cases h
  | cons e rest ih =>
    obtain ⟨droneId, tel⟩ := e
    unfold geofenceScan at h
    split at h
    next =>
      have hrest : d ∈ (geofenceScan (checkSoft (checkHard m droneId tel).1 droneId tel) rest).2 →
          ∃ tel', (d, tel') ∈ (droneId, tel) :: rest ∧ m.geofenceRadius < tel'.fromHome := by
        intro hd
        obtain ⟨tel', hm, hlt⟩ := ih hd
        rw [checkSoft_radius, checkHard_radius] at hlt
        exact ⟨tel', List.mem_cons_of_mem _ hm, hlt⟩
      by_cases ht : (checkHard m droneId tel).2 = true
      · simp only [ht, if_true] at h
        rcases List.mem_cons.mp h with rfl | h
        · refine ⟨tel, List.mem_cons_self .., ?_⟩
          by_contra hle
          unfold checkHard at ht
          simp only [if_neg hle] at ht
          split at ht <;> cases ht
        · exact hrest h
      · simp only [ht] at h
        exact hrest h
    next =>
      obtain ⟨tel', hm, hlt⟩ := ih h
      exact ⟨tel', List.mem_cons_of_mem _ hm, hlt⟩

/-- A monitor that has recorded no breach yet triggers for a drone past the
hard radius. -/
lemma geofenceScan_fresh {tel : GeofenceTel K}
    (hb : m.geofenceBreaches = []) (hc : tel.connected = true) (ha : tel.armed = true)
    (h : m.geofenceRadius < tel.fromHome) : (geofenceScan m [(d, tel)]).2 = [d] := by
  simp [geofenceScan, hc, ha, checkHard, h, hb, find]

end

section

variable [FloorRing K] [IsStrictOrderedRing K]

/-- The drone is exactly where its playing trajectory has it at `t`; its local
coordinates are measured from its own pad. -/
def TracksExactly (plan : Plan K) (t : K) (e : Nat × GeofenceTel K) : Prop :=
  ∃ wps wp pad, (e.1, wps) ∈ plan ∧ interpolateWaypoint wps t = some wp ∧ padOffset e.1 = .ok pad ∧
    e.2.localX = wp.x - pad.1 ∧ e.2.localY = wp.y - pad.2

variable [Sqrt K]

/-- At no instant of playback does the monitor trigger RTL for drones that track
the plan exactly. -/
def NeverTriggers (radius : K) (plan : Plan K) : Prop :=
  ∀ t, 0 ≤ t → t ≤ playbackEnd plan → ∀ m : GeofenceMonitor K, m.geofenceRadius = radius →
    ∀ tels : List (Nat × GeofenceTel K), (∀ e ∈ tels, TracksExactly plan t e) →
      (geofenceScan m tels).2 = []

omit [FloorRing K] [IsStrictOrderedRing K] in
/-- A point of the fleet frame that is within the radius of a pad. -/
def WithinRadius (radius : K) (pad : K × K) (x y : K) : Prop :=
  hypot (x - pad.1) (y - pad.2) ≤ radius

/-- Every assigned drone's path, with the hold it is brought from by a leg, is
within the hard radius of the drone's own pad. -/
def StaysInside (trajectory : Show K) (fleet : List (Health K)) (execution : Execution K) : Prop :=
  ∀ e ∈ assigned trajectory fleet execution, ∀ pad, padOffset e.1 = .ok pad →
    FlownInside (WithinRadius (applyGeofenceEnvelope trajectory).1 pad) e.2 ∧
      match execution with
      | .onboard _ => True
      | .streamed hold _ =>
        bridgeToleranceM < longestLeg (assigned trajectory fleet execution) hold →
          ∀ p, find hold e.1 = some p → WithinRadius (applyGeofenceEnvelope trajectory).1 pad p.1 p.2.1

end

section

variable {radius : ℝ} {pad : ℝ × ℝ} {waypoints : List (Waypoint ℝ)}

lemma withinRadius_iff (h0 : 0 ≤ radius) (x y : ℝ) :
    WithinRadius radius pad x y ↔ normSq (x - pad.1) (y - pad.2) ≤ radius * radius := by
  unfold WithinRadius hypot normSq
  rw [sqrt_real, Real.sqrt_le_left h0, pow_two]

lemma withinRadius_segment (h0 : 0 ≤ radius) (x1 y1 x2 y2 r : ℝ) (hr0 : 0 ≤ r) (hr1 : r ≤ 1)
    (h1 : WithinRadius radius pad x1 y1) (h2 : WithinRadius radius pad x2 y2) :
    WithinRadius radius pad (x1 + r * (x2 - x1)) (y1 + r * (y2 - y1)) := by
  rw [withinRadius_iff h0] at *
  have h := normSq_segment_le hr0 hr1 h1 h2
  have hx : x1 - pad.1 + r * (x2 - pad.1 - (x1 - pad.1)) = x1 + r * (x2 - x1) - pad.1 := by ring
  have hy : y1 - pad.2 + r * (y2 - pad.2 - (y1 - pad.2)) = y1 + r * (y2 - y1) - pad.2 := by ring
  rwa [hx, hy] at h

variable {w1 w2 : Waypoint ℝ}

/-- Within the radius at every inner instant of a segment means within it at
both ends. -/
lemma withinRadius_ends (h0 : 0 ≤ radius) (h : ∀ r, 0 < r → r < 1 →
      WithinRadius radius pad (w1.x + r * (w2.x - w1.x)) (w1.y + r * (w2.y - w1.y))) :
    WithinRadius radius pad w1.x w1.y ∧ WithinRadius radius pad w2.x w2.y := by
  have hends := ends_le_of_inner_le (c := radius * radius)
    (continuous_normSq_segment (w1.x - pad.1) (w1.y - pad.2) (w2.x - pad.1) (w2.y - pad.2))
    (fun r hr0 hr1 => by
      have := (withinRadius_iff h0 _ _).mp (h r hr0 hr1)
      have hx : w1.x - pad.1 + r * (w2.x - pad.1 - (w1.x - pad.1)) =
          w1.x + r * (w2.x - w1.x) - pad.1 := by ring
      have hy : w1.y - pad.2 + r * (w2.y - pad.2 - (w1.y - pad.2)) =
          w1.y + r * (w2.y - w1.y) - pad.2 := by ring
      rwa [hx, hy])
  rw [withinRadius_iff h0, withinRadius_iff h0]
  simpa using hends

lemma segment_inside (h0 : 0 ≤ radius) (hord : TimeOrdered waypoints) {stop : ℝ}
    (htimes : ∀ w ∈ waypoints, 0 ≤ w.time ∧ w.time ≤ stop)
    (h : ∀ t, 0 ≤ t → t ≤ stop → ∀ w, interpolateWaypoint waypoints t = some w →
      WithinRadius radius pad w.x w.y) {i : Nat}
    (h1 : waypoints[i]? = some w1) (h2 : waypoints[i + 1]? = some w2) (hlt : w1.time < w2.time) :
    WithinRadius radius pad w1.x w1.y ∧ WithinRadius radius pad w2.x w2.y := by
  refine withinRadius_ends h0 fun r hr0 hr1 => ?_
  have hspan : 0 < w2.time - w1.time := sub_pos.mpr hlt
  have hstart := (htimes w1 (List.mem_of_getElem? h1)).1
  have hstop := (htimes w2 (List.mem_of_getElem? h2)).2
  have hin1 : w1.time < w1.time + r * (w2.time - w1.time) := lt_add_of_pos_right _ (mul_pos hr0 hspan)
  have hin2 : w1.time + r * (w2.time - w1.time) < w2.time := by nlinarith
  have hpos := h _ (hstart.trans hin1.le) (hin2.le.trans hstop) _
    (interpolateWaypoint_inner hord h1 h2 hin1 hin2)
  have hratio : segmentRatio w1 w2 (w1.time + r * (w2.time - w1.time)) = r := by
    rw [segmentRatio, if_pos hspan, add_sub_cancel_left, mul_div_assoc, div_self hspan.ne', mul_one]
  simpa [segmentState, hratio] using hpos

/-- A drone is within the radius at every instant of a playback that outlasts
its waypoints exactly when what it flies is. -/
lemma inside_at_all_times_iff (h0 : 0 ≤ radius) (hord : TimeOrdered waypoints) {stop : ℝ}
    (hstop : 0 ≤ stop) (htimes : ∀ w ∈ waypoints, 0 ≤ w.time ∧ w.time < stop) :
    (∀ t, 0 ≤ t → t ≤ stop → ∀ w, interpolateWaypoint waypoints t = some w →
      WithinRadius radius pad w.x w.y) ↔ FlownInside (WithinRadius radius pad) waypoints := by
  constructor
  · intro h
    refine ⟨fun first hf => ?_, fun last hl => ?_, List.isChain_iff_getElem.mpr fun i hi hlt => ?_⟩
    · obtain ⟨last, hl⟩ : ∃ w, waypoints.getLast? = some w :=
        ⟨_, List.getLast?_eq_some_getLast (by rintro rfl; cases hf)⟩
      have hpos := (htimes first (List.mem_of_head? hf)).1
      rcases interpolateWaypoint_cases hord hf hl 0 with
        ⟨_, he⟩ | ⟨hlt, _⟩ | ⟨i, w1, w2, h1, _, hlt, _⟩
      · exact h 0 (le_refl _) hstop _ he
      · exact absurd hpos (not_le.mpr hlt)
      · exact absurd (htimes w1 (List.mem_of_getElem? h1)).1 (not_le.mpr hlt)
    · obtain ⟨first, hf⟩ : ∃ w, waypoints.head? = some w :=
        ⟨_, List.head?_eq_some_head (by rintro rfl; cases hl)⟩
      rcases interpolateWaypoint_cases hord hf hl stop with
        ⟨hle, _⟩ | ⟨_, _, he⟩ | ⟨_, _, _, _, _, _, _, hlt, _⟩
      · exact absurd (htimes first (List.mem_of_head? hf)).2 (not_lt.mpr hle)
      · exact h stop hstop (le_refl _) _ he
      · exact absurd (htimes last (List.mem_of_getLast? hl)).2 (not_lt.mpr hlt.le)
    · exact segment_inside h0 hord (fun w hw => ⟨(htimes w hw).1, (htimes w hw).2.le⟩) h
        (List.getElem?_eq_getElem (Nat.lt_of_succ_lt hi)) (List.getElem?_eq_getElem hi) hlt
  · intro h t _ _ w hw
    exact h.at_all_times (withinRadius_segment h0) hord hw

end

section Playback

variable {trajectory : Show ℝ} {fleet : List (Health ℝ)}

/-- What the tracks of a plan need for the playback to be right: time order, no
time before zero, at least one waypoint. -/
structure PlayablePlan (plan : Plan ℝ) : Prop where
  ordered : ∀ e ∈ plan, TimeOrdered e.2
  nonneg : ∀ e ∈ plan, ∀ w ∈ e.2, 0 ≤ w.time
  nonempty : ∀ e ∈ plan, e.2 ≠ []

lemma mem_zipWith {α β γ : Type} {f : α → β → γ} {as : List α} {bs : List β} {c : γ}
    (h : c ∈ List.zipWith f as bs) : ∃ a ∈ as, ∃ b ∈ bs, c = f a b := by
  induction as generalizing bs with
  | nil => simp at h
  | cons a as ih =>
    cases bs with
    | nil => simp at h
    | cons b bs =>
      rcases List.mem_cons.mp h with rfl | h
      · exact ⟨a, List.mem_cons_self .., b, List.mem_cons_self .., rfl⟩
      · obtain ⟨a', ha, b', hb, rfl⟩ := ih h
        exact ⟨a', List.mem_cons_of_mem _ ha, b', List.mem_cons_of_mem _ hb, rfl⟩

variable {e : Nat × List (Waypoint ℝ)} {plan : Plan ℝ}

variable {execution : Execution ℝ}

lemma mem_assigned
    (h : e ∈ assigned trajectory fleet execution) : ∃ d, (d, e.2) ∈ trajectory.drones := by
  have hremap : e ∈ remapTrajectoryToHealthyDrones trajectory fleet := by
    cases execution with
    | onboard verified => exact (List.mem_filter.mp h).1
    | streamed hold peak => exact h
  obtain ⟨slot, hs, d, _, rfl⟩ := mem_zipWith hremap
  exact ⟨slot.1, (List.mem_insertionSort _).mp hs⟩

lemma assigned_playable (fleet : List (Health ℝ)) (hsafe : Safe trajectory)
    (execution : Execution ℝ) :
    PlayablePlan (assigned trajectory fleet execution) where
  ordered e he := by
    obtain ⟨d, hd⟩ := mem_assigned he
    exact hsafe.ordered (d, e.2) hd
  nonneg e he w hw := by
    obtain ⟨d, hd⟩ := mem_assigned he
    exact (hsafe.in_range (d, e.2) hd w hw).1
  nonempty e he := by
    obtain ⟨d, hd⟩ := mem_assigned he
    exact hsafe.nonempty (d, e.2) hd

lemma lt_playbackEnd (hplan : PlayablePlan plan)
    (he : e ∈ plan) {w : Waypoint ℝ} (hw : w ∈ e.2) : w.time < playbackEnd plan := by
  obtain ⟨last, hl⟩ : ∃ w, e.2.getLast? = some w :=
    ⟨_, List.getLast?_eq_some_getLast (hplan.nonempty e he)⟩
  have hle : w.time ≤ last.time := by
    obtain ⟨i, hi⟩ := List.mem_iff_getElem?.mp hw
    obtain ⟨hlt, _⟩ := List.getElem?_eq_some_iff.mp hi
    exact (hplan.ordered e he).le_of_le hi (List.getLast?_eq_getElem? ▸ hl) (by omega)
  have hmax : last.time ≤ (plan.filterMap fun e => e.2.getLast?.map Waypoint.time).foldl max 0 :=
    (le_foldl_max _ _).2.1 _ (List.mem_filterMap.mpr ⟨e, he, by simp [hl]⟩)
  exact (hle.trans hmax).trans_lt (lt_add_one _)

lemma playbackEnd_nonneg (plan : Plan ℝ) : 0 ≤ playbackEnd plan :=
  add_nonneg (le_foldl_max _ _).1 zero_le_one

/-- Over the drones of a plan, the monitor stays quiet exactly when what each of
them flies is within the radius of its pad. -/
lemma neverTriggers_iff_flownInside {radius : ℝ} (h0 : 0 ≤ radius)
    (hplan : PlayablePlan plan) : NeverTriggers radius plan ↔
      ∀ e ∈ plan, ∀ pad, padOffset e.1 = .ok pad → FlownInside (WithinRadius radius pad) e.2 := by
  have hiff : ∀ e ∈ plan, ∀ pad : ℝ × ℝ, (∀ t, 0 ≤ t → t ≤ playbackEnd plan → ∀ w,
      interpolateWaypoint e.2 t = some w → WithinRadius radius pad w.x w.y) ↔
        FlownInside (WithinRadius radius pad) e.2 := fun e he pad =>
    inside_at_all_times_iff h0 (hplan.ordered e he) (playbackEnd_nonneg plan) fun w hw =>
      ⟨hplan.nonneg e he w hw, lt_playbackEnd hplan he hw⟩
  constructor
  · intro h e he pad hpad
    refine (hiff e he pad).mp fun t ht0 ht w hw => ?_
    by_contra hout
    -- one drone, tracking exactly, before a monitor that has seen no breach
    have hquiet := h t ht0 ht ⟨radius, none, [], []⟩ rfl
      [(e.1, ⟨true, true, w.x - pad.1, w.y - pad.2⟩)]
      (by
        intro e' he'
        obtain rfl := List.mem_singleton.mp he'
        exact ⟨e.2, w, pad, he, hw, hpad, rfl, rfl⟩)
    rw [geofenceScan_fresh rfl rfl rfl (not_le.mp hout)] at hquiet
    cases hquiet
  · intro h t ht0 ht m hm tels htels
    refine List.eq_nil_iff_forall_not_mem.mpr fun d hd => ?_
    obtain ⟨tel, hmem, hlt⟩ := geofenceScan_triggers hd
    obtain ⟨wps, w, pad, hplan', hw, hpad, hx, hy⟩ := htels _ hmem
    have hin := (hiff (d, wps) hplan' pad).mpr (h _ hplan' pad hpad) t ht0 ht w hw
    rw [hm, GeofenceTel.fromHome, hx, hy] at hlt
    exact absurd hin (not_le.mpr hlt)

lemma bridgedTrack_eq {hold : Dict Nat (Point ℝ)} {steps : Nat}
    {first : Waypoint ℝ} {p : Point ℝ} (hf : e.2.head? = some first)
    (hp : find hold e.1 = some p) :
    bridgedTrack hold steps e = (e.1,
      legSamples steps ⟨e.1, p, (first.x, first.y, first.z), first.yaw⟩ ++
        held ((steps : ℝ) * bridgeSampleS) e.2) := by
  simp [bridgedTrack, legOf, hf, hp]

/-- A bridged plan is playable, and stays inside exactly when the plan and the
holds do. -/
lemma bridged_inside_iff {radius : ℝ} (h0 : 0 ≤ radius)
    (hplan : PlayablePlan plan) {hold : Dict Nat (Point ℝ)} {steps : Nat} (hsteps : 0 < steps)
    (hknown : unknownDrones plan hold = []) :
    PlayablePlan (plan.map (bridgedTrack hold steps)) ∧
      ((∀ e ∈ plan.map (bridgedTrack hold steps), ∀ pad, padOffset e.1 = .ok pad →
        FlownInside (WithinRadius radius pad) e.2) ↔
        ∀ e ∈ plan, ∀ pad, padOffset e.1 = .ok pad → FlownInside (WithinRadius radius pad) e.2 ∧
          ∀ p, find hold e.1 = some p → WithinRadius radius pad p.1 p.2.1) := by
  have htrack : ∀ e ∈ plan, ∃ first p, e.2.head? = some first ∧ find hold e.1 = some p ∧
      bridgedTrack hold steps e = (e.1,
        legSamples steps ⟨e.1, p, (first.x, first.y, first.z), first.yaw⟩ ++
          held ((steps : ℝ) * bridgeSampleS) e.2) := by
    intro e he
    have hne := hplan.nonempty e he
    obtain ⟨p, hp⟩ := find_of_unknownDrones hknown he hne
    exact ⟨_, p, List.head?_eq_some_head hne, hp, bridgedTrack_eq (List.head?_eq_some_head hne) hp⟩
  have hflown : ∀ e ∈ plan, ∀ pad : ℝ × ℝ,
      FlownInside (WithinRadius radius pad) (bridgedTrack hold steps e).2 ↔
        FlownInside (WithinRadius radius pad) e.2 ∧
          ∀ p, find hold e.1 = some p → WithinRadius radius pad p.1 p.2.1 := by
    intro e he pad
    obtain ⟨first, p, hf, hp, ht⟩ := htrack e he
    rw [ht, bridged_flownInside (withinRadius_segment h0) hsteps hf rfl (hplan.nonneg e he),
      and_comm]
    refine and_congr_right fun _ => ⟨fun hin q hq => ?_, fun hin => hin p hp⟩
    cases hp.symm.trans hq
    exact hin
  refine ⟨⟨fun e he => ?_, fun e he w hw => ?_, fun e he => ?_⟩, fun h e he pad hpad => ?_,
    fun h e he pad hpad => ?_⟩
  · obtain ⟨e', he', rfl⟩ := List.mem_map.mp he
    obtain ⟨first, p, _, _, ht⟩ := htrack e' he'
    rw [ht]
    exact bridged_ordered (hplan.ordered e' he') (hplan.nonneg e' he')
  · obtain ⟨e', he', rfl⟩ := List.mem_map.mp he
    obtain ⟨first, p, _, _, ht⟩ := htrack e' he'
    rw [ht] at hw
    rcases List.mem_append.mp hw with hw | hw
    · exact (legSamples_time_lt hw).1
    · refine le_trans (mul_nonneg (Nat.cast_nonneg _) ?_) (le_time_of_mem_held (hplan.nonneg e' he') hw)
      norm_num [bridgeSampleS]
  · obtain ⟨e', he', rfl⟩ := List.mem_map.mp he
    obtain ⟨first, p, _, _, ht⟩ := htrack e' he'
    rw [ht]
    exact List.append_ne_nil_of_right_ne_nil _ (held_ne_nil _ (hplan.nonempty e' he'))
  · obtain ⟨first, p, _, _, ht⟩ := htrack e he
    exact (hflown e he pad).mp (h _ (List.mem_map_of_mem he) pad (by rw [ht]; exact hpad))
  · obtain ⟨e', he', rfl⟩ := List.mem_map.mp he
    obtain ⟨first, p, _, _, ht⟩ := htrack e' he'
    rw [ht] at hpad
    exact (hflown e' he' pad).mpr (h e' he' pad hpad)

/-- What is played is playable, and stays inside exactly when the assignment
and the holds do. -/
lemma playing_inside_iff {tree : KdTree ℝ}
    (hsafe : Safe trajectory) (h : playingTrajectory tree trajectory fleet execution = .ok plan)
    (h0 : 0 ≤ (applyGeofenceEnvelope trajectory).1) :
    PlayablePlan plan ∧ ((∀ e ∈ plan, ∀ pad, padOffset e.1 = .ok pad →
      FlownInside (WithinRadius (applyGeofenceEnvelope trajectory).1 pad) e.2) ↔
        StaysInside trajectory fleet execution) := by
  have hplan := assigned_playable fleet hsafe execution
  cases execution with
  | onboard verified =>
    simp only [playingTrajectory] at h
    split at h
    · cases h
    · cases h
      simpa [StaysInside] using hplan
  | streamed hold peakSpeedMs =>
    simp only [playingTrajectory] at h
    obtain ⟨⟨played, bridgeS⟩, hbridge, rfl⟩ := Lib.Check.map_eq_ok.mp h
    obtain ⟨hknown, ⟨hle, rfl, -⟩ | ⟨hgt, -, rfl, -⟩⟩ := buildStartBridge_ok hbridge
    · refine ⟨hplan, ?_⟩
      simp only [StaysInside, not_lt.mpr hle, false_imp_iff, and_true]
    · obtain ⟨hp, hiff⟩ := bridged_inside_iff h0 hplan
        (bridgeSteps_pos (longestLeg _ hold) peakSpeedMs) hknown
      refine ⟨hp, hiff.trans ?_⟩
      simp only [StaysInside, hgt, true_imp_iff]

/-- Over a fleet that tracks an accepted show exactly, the geofence monitor
never triggers RTL if and only if every drone's path stays within the hard
radius of the drone's own pad. -/
theorem neverTriggers_iff_staysInside {tree : KdTree ℝ} {canonical : PyVal ℝ}
    {execution : Execution ℝ} {plan : Plan ℝ} (hgate : gateShow tree canonical = .ok trajectory)
    (hplay : playingTrajectory tree trajectory fleet execution = .ok plan) :
    NeverTriggers (applyGeofenceEnvelope trajectory).1 plan ↔
      StaysInside trajectory fleet execution := by
  have h0 : 0 ≤ (applyGeofenceEnvelope trajectory).1 := by
    rw [applyGeofenceEnvelope_hard]
    exact add_nonneg trajectory.maxHorizontalRadiusM_nonneg (by norm_num)
  obtain ⟨hplan, hiff⟩ := playing_inside_iff (gateShow_sound hgate) hplay h0
  exact (neverTriggers_iff_flownInside h0 hplan).trans hiff

end Playback

/-! ## A show of one waypoint -/

def loneShow : PyVal ℝ :=
  .dict [("version", .int 1), ("drones", .list [.dict [("id", .int 0), ("waypoints", .list [.dict
    [("time", .int 0), ("x", .int 0), ("y", .int 0), ("z", .int 0), ("yaw", .int 0)]])]])]

noncomputable def loneWaypoint : Waypoint ℝ := { time := 0, x := 0, y := 0, z := 0, yaw := 0 }

noncomputable def loneTrajectory : Show ℝ := ⟨[(0, [loneWaypoint])], by simp⟩

/-- A fleet whose only healthy drone is `d`. -/
def loneFleet (d : Nat) : List (Health ℝ) := [⟨d, true, 100, 10, false⟩]

lemma loneShow_load : Show.validateAndLoad loneShow = .ok loneTrajectory := by
  simp [loneShow, loneTrajectory, loneWaypoint, Show.validateAndLoad, validateContainer, required,
    Core.Schema.optional, find, both, versionInt, strictInt, require, requireBoth, uniqueIds,
    listOf, each, validateDroneTrack, droneId, validateWaypoint, nonnegFloat, strictFloat, yawFloat,
    Except.map, bind, Except.bind, maxFleetSize, waypointKeys]

lemma loneShow_gate : gateShow bruteForce loneShow = .ok loneTrajectory := by
  have hload := loneShow_load
  have hsort : timeSorted loneTrajectory = loneTrajectory := by
    simp [timeSorted, loneTrajectory, sortByTime]
  have hcol : validateTrajectoryCollisions bruteForce loneTrajectory none = [] := by
    have hpairs : ∀ t, closePairs bruteForce (positionsAt loneTrajectory t)
        (defaultLimits : SafetyLimits ℝ).minSeparationM = [] := by
      intro t
      have hlen : (positionsAt loneTrajectory t).length < 2 :=
        (List.length_filterMap_le _ _).trans_lt (by simp [loneTrajectory])
      rw [closePairs, if_pos hlen]
    have htexts : (sweepTimes loneTrajectory.duration (1 / 10)).flatMap (fun t =>
        (closePairs bruteForce (positionsAt loneTrajectory t)
          (defaultLimits : SafetyLimits ℝ).minSeparationM).map
            (collisionText t (defaultLimits : SafetyLimits ℝ).minSeparationM)) = [] :=
      List.flatMap_eq_nil_iff.mpr fun t _ => by rw [hpairs t, List.map_nil]
    rw [validateTrajectoryCollisions, collisionErrors, Option.getD_none, htexts, upTo]
  have halt : validateTrajectoryAltitude loneTrajectory = [] := by
    have hceil : ¬ (120 : ℝ) < 0 := by norm_num
    simp [validateTrajectoryAltitude, altitudeErrors, altitudeFound, groundFound, loneTrajectory,
      loneWaypoint, defaultLimits, hceil, upTo]
  unfold loneShow at hload ⊢
  simp [gateShow, checkVersion, find, showFormatVersion, hload, Except.mapError, bind, Except.bind,
    hsort, hcol, halt, refuseErrors, pure, Except.pure]
  simp [loneTrajectory, emptyDrones]

lemma lone_plan (d : Nat) :
    playingTrajectory bruteForce loneTrajectory (loneFleet d) (.onboard [d]) =
      .ok [(d, [loneWaypoint])] := by
  have h : (20 : ℝ) < 100 := by norm_num
  simp [playingTrajectory, assigned, remapTrajectoryToHealthyDrones, healthyIds, loneFleet,
    loneTrajectory, h]

lemma lone_radius : (applyGeofenceEnvelope loneTrajectory).1 = 15 := by
  rw [applyGeofenceEnvelope_hard]
  simp [Show.maxHorizontalRadiusM, loneTrajectory, loneWaypoint, maxOr, hypot, sqrt_real]

/-- Drone 0 over its own pad: the monitor stays quiet. -/
theorem neverTriggers_lone_zero :
    NeverTriggers (applyGeofenceEnvelope loneTrajectory).1 [(0, [loneWaypoint])] := by
  refine (neverTriggers_iff_staysInside loneShow_gate (lone_plan 0)).mpr fun e he pad hpad => ?_
  have hassigned : assigned loneTrajectory (loneFleet 0) (.onboard [0]) = [(0, [loneWaypoint])] := by
    have h := lone_plan 0
    simp only [playingTrajectory] at h
    split at h
    · cases h
    · exact Except.ok.inj h
  rw [hassigned] at he
  obtain rfl := List.mem_singleton.mp he
  rw [padOffset_eq (by decide)] at hpad
  obtain rfl := Except.ok.inj hpad
  have hin : WithinRadius (applyGeofenceEnvelope loneTrajectory).1
      (((0 / 13 : Nat) : ℝ) * (11 / 5), ((0 % 13 : Nat) : ℝ) * (11 / 5)) loneWaypoint.x
      loneWaypoint.y := by
    rw [lone_radius]
    simp [WithinRadius, hypot, loneWaypoint, sqrt_real]
  exact ⟨⟨fun w hw => by cases Option.mem_def.mp hw; exact hin,
    fun w hw => by cases Option.mem_def.mp hw; exact hin, List.isChain_singleton _⟩, trivial⟩

/-- The same show on drone 12, whose pad is 26.4 m from the origin: the radius is
15 m, and the drone is past it the moment the show begins. -/
theorem geofence_triggers_lone_twelve : gateShow bruteForce loneShow = .ok loneTrajectory ∧
      playingTrajectory bruteForce loneTrajectory (loneFleet 12) (.onboard [12]) =
        .ok [(12, [loneWaypoint])] ∧
      ¬ NeverTriggers (applyGeofenceEnvelope loneTrajectory).1 [(12, [loneWaypoint])] := by
  refine ⟨loneShow_gate, lone_plan 12, fun hquiet => ?_⟩
  have h := hquiet 0 (le_refl _) (playbackEnd_nonneg _) ⟨15, none, [], []⟩ lone_radius.symm
    [(12, ⟨true, true, 0, -(132 / 5)⟩)] (by
      intro e he
      obtain rfl := List.mem_singleton.mp he
      refine ⟨[loneWaypoint], loneWaypoint, _, List.mem_singleton.mpr rfl, ?_,
        padOffset_eq (by decide), ?_, ?_⟩
      · simp [interpolateWaypoint, loneWaypoint]
      · simp [loneWaypoint]
      · norm_num [loneWaypoint])
  have hout : (15 : ℝ) < GeofenceTel.fromHome ⟨true, true, 0, -(132 / 5)⟩ := by
    rw [GeofenceTel.fromHome, hypot, sqrt_real, Real.lt_sqrt (by norm_num)]
    norm_num
  rw [geofenceScan_fresh rfl rfl rfl hout] at h
  cases h

end Taramandal.Gcs.Geofence
