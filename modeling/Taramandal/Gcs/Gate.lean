import Taramandal.Core.Validate

/-! # The gate every show passes (`trajectory_parser.py`, `gate_show`)

Schema, order in time, collision sweep, altitude scan: what comes out of
`gateShow` is `Safe`, whatever went in. The wrapper that brings the older
formats into the canonical shape is here as well; it only normalises, and a
wrapped file that is accepted keeps every point it had (`gateShow_legacy_points`). -/
set_option linter.unusedSectionVars false

namespace Taramandal.Gcs.Gate

open Lib.Check Lib.Dict Core.Numbers Core.Values Core.Geometry Core.Safety Core.Schema Core.Shows
open Core.Validate

def showFormatVersion : ℤ := 1

def maxReportedErrors : Nat := 10

def ledChannels : List String := ["r", "g", "b", "w"]

variable {K : Type} [Field K] [LinearOrder K] [FloorRing K]

/-! ## The gate -/

def describeSchemaErrors (errors : List SchemaError) : String :=
  let lines := errors.map fun err =>
    "  " ++ (if err.loc.isEmpty then "show" else ".".intercalate err.loc) ++ ": " ++ err.msg
  let shown := lines.take maxReportedErrors
  let more := if shown.length < lines.length then
    ["  (+" ++ toString (lines.length - shown.length) ++ " more)"] else []
  "Show does not match the show schema (show_v1):\n" ++ "\n".intercalate (shown ++ more)

/-- The version of a show file, read as 1 where it is missing; a newer one is
refused before the schema sees the file. -/
def checkVersion (d : PyDict K) : Except String (PyDict K) :=
  match find d "version" with
  | none => .ok (("version", .int showFormatVersion) :: d)
  | some (.int version) =>
    if showFormatVersion < version then
      .error ("Show format version " ++ toString version ++
        " is newer than this GCS understands (up to " ++ toString showFormatVersion ++
        "). Update the GCS, or re-export the show from a Studio that writes version " ++
        toString showFormatVersion ++ ".")
    else .ok d
  | some _ => .ok d

/-- `sorted(wps, key=lambda w: w["time"])`. -/
def sortByTime (wps : List (Waypoint K)) : List (Waypoint K) :=
  wps.insertionSort fun a b => a.time ≤ b.time

def timeSorted (s : Show K) : Show K where
  drones := s.drones.map fun d => (d.1, sortByTime d.2)
  unique := by simpa [Function.comp_def] using s.unique

/-- The drones without a waypoint, in increasing order. -/
def emptyDrones (s : Show K) : List Nat :=
  ((s.drones.filter fun d => d.2.isEmpty).map Prod.fst).insertionSort (· ≤ ·)

/-- Refuse with one line per error, unless there is none. -/
def refuseErrors (errors : List String) : Except String Unit :=
  if errors = [] then .ok ()
  else .error ("Trajectory safety check failed:\n" ++ "\n".intercalate errors)

section

variable [IsStrictOrderedRing K] [Sqrt K] (tree : KdTree K)

def validateTrajectoryCollisions (trajectory : Show K) (safetyDistance : Option K) : List String :=
  collisionErrors tree trajectory defaultLimits safetyDistance 3

def validateTrajectoryAltitude (trajectory : Show K) : List String :=
  altitudeErrors trajectory defaultLimits 3

def gateShow (canonical : PyVal K) : Except String (Show K) :=
  match canonical with
  | .dict d => do
    let d ← checkVersion d
    let s ← (Show.validateAndLoad (.dict d)).mapError describeSchemaErrors
    if s.drones = [] then .error "Show has no drones."
    else if emptyDrones s ≠ [] then
      .error ("Drone(s) " ++ listStr (emptyDrones s) ++ " have no waypoints.")
    else do
      refuseErrors (validateTrajectoryCollisions tree (timeSorted s) none)
      refuseErrors (validateTrajectoryAltitude (timeSorted s))
      return timeSorted s
  | _ => .error "A show file must be a JSON object."

end

/-- `_legacy_waypoint`: yaw is wrapped into `[0, 360)`, everything else kept.
The numbers of a value are Python numbers already. -/
def legacyWaypoint : PyVal K → PyVal K
  | .dict wp =>
    match find wp "yaw" with
    | some (.int n) => .dict (assign wp "yaw" (.float (wrapYaw n)))
    | some (.float x) => .dict (assign wp "yaw" (.float (wrapYaw x)))
    | some (.inf _) => .dict (assign wp "yaw" .nan)
    | _ => .dict wp
  | v => v
where
  wrapYaw (yaw : K) : K := if 360 ≤ fmod yaw 360 then 0 else fmod yaw 360

/-- `_legacy_canonical`: a GCS-shaped dict in the canonical shape. -/
def legacyCanonical (drones : List (ℤ × PyVal K)) (version : PyVal K) : PyVal K :=
  .dict [("version", version), ("drones", .list (drones.map fun d =>
    .dict [("id", .int d.1), ("waypoints", match d.2 with
      | .list wps => .list (wps.map legacyWaypoint)
      | wps => wps)]))]

/-! ## Soundness -/

/-- What a trajectory must be before it may fly. -/
structure Safe [IsStrictOrderedRing K] (trajectory : Show K) : Prop where
  ids : ∀ d ∈ trajectory.drones, d.1 < maxFleetSize
  unique : (trajectory.drones.map Prod.fst).Nodup
  nonempty : ∀ d ∈ trajectory.drones, d.2 ≠ []
  ordered : ∀ d ∈ trajectory.drones, TimeOrdered d.2
  in_range : ∀ d ∈ trajectory.drones, ∀ wp ∈ d.2, 0 ≤ wp.time ∧ 0 ≤ wp.yaw ∧ wp.yaw < 360
  altitude : ∀ d ∈ trajectory.drones, ∀ wp ∈ d.2,
    0 ≤ -wp.z ∧ -wp.z ≤ (defaultLimits : SafetyLimits K).maxAltitudeM
  separated : ∀ k : Nat, (k : K) * (1 / 10) < trajectory.duration + 1 / 10 →
    ∀ d ∈ trajectory.drones, ∀ e ∈ trajectory.drones, d.1 ≠ e.1 →
      ∃ wp wq, interpolateWaypoint d.2 ((k : K) * (1 / 10)) = some wp ∧
        interpolateWaypoint e.2 ((k : K) * (1 / 10)) = some wq ∧
        (defaultLimits : SafetyLimits K).minSeparationM *
          (defaultLimits : SafetyLimits K).minSeparationM ≤
            distSq (wp.x, wp.y, wp.z) (wq.x, wq.y, wq.z)

lemma refuseErrors_ok {errors : List String} {u : Unit} (h : refuseErrors errors = .ok u) :
    errors = [] := by
  unfold refuseErrors at h
  split at h
  · assumption
  · cases h

omit [Field K] [FloorRing K] in
lemma sortByTime_perm (wps : List (Waypoint K)) : (sortByTime wps).Perm wps :=
  List.perm_insertionSort _ _

lemma sortByTime_ordered (wps : List (Waypoint K)) : TimeOrdered (sortByTime wps) := by
  have : Std.Total fun a b : Waypoint K => a.time ≤ b.time := ⟨fun a b => le_total _ _⟩
  have : IsTrans (Waypoint K) fun a b => a.time ≤ b.time := ⟨fun _ _ _ => le_trans⟩
  exact List.pairwise_insertionSort _ _

section Sound

variable [IsStrictOrderedRing K] [Sqrt K] {tree : KdTree K}

variable {trajectory s : Show K} {d : PyDict K}

lemma gateShow_isDict {canonical : PyVal K}
    (h : gateShow tree canonical = .ok trajectory) : ∃ d, canonical = .dict d := by
  cases canonical with
  | dict d => exact ⟨d, rfl⟩
  | _ => cases h

lemma gateShow_ok (h : gateShow tree (.dict d) = .ok trajectory) :
    ∃ d' s, checkVersion d = .ok d' ∧ Show.validateAndLoad (.dict d') = .ok s ∧
      emptyDrones s = [] ∧ trajectory = timeSorted s ∧
      validateTrajectoryCollisions tree trajectory none = [] ∧
      validateTrajectoryAltitude trajectory = [] := by
  obtain ⟨d', hver, h⟩ := bind_eq_ok.mp h
  obtain ⟨s, hs, h⟩ := bind_eq_ok.mp h
  have hload : Show.validateAndLoad (.dict d') = .ok s := by
    cases hv : Show.validateAndLoad (.dict d') with
    | error e => rw [hv] at hs; cases hs
    | ok s' => rw [hv] at hs; exact congrArg _ (Except.ok.inj hs)
  split at h
  · cases h
  split at h
  · cases h
  next hempty =>
    obtain ⟨_, hcol, h⟩ := bind_eq_ok.mp h
    obtain ⟨_, halt, h⟩ := bind_eq_ok.mp h
    have htraj : timeSorted s = trajectory := Except.ok.inj h
    subst htraj
    exact ⟨d', s, hver, hload, by simpa using hempty, rfl, refuseErrors_ok hcol,
      refuseErrors_ok halt⟩

lemma gateShow_of_checked {d' : PyDict K} (hversion : checkVersion d = .ok d')
    (hload : Show.validateAndLoad (.dict d') = .ok s) (hdrones : s.drones ≠ [])
    (hempty : emptyDrones s = [])
    (hcol : validateTrajectoryCollisions tree (timeSorted s) none = [])
    (halt : validateTrajectoryAltitude (timeSorted s) = []) :
    gateShow tree (.dict d) = .ok (timeSorted s) := by
  have hload : (Show.validateAndLoad (.dict d')).mapError describeSchemaErrors = .ok s := by
    rw [hload]
    rfl
  refine bind_eq_ok.mpr ⟨d', hversion, bind_eq_ok.mpr ⟨s, hload, ?_⟩⟩
  rw [if_neg hdrones, if_neg (not_not.mpr hempty), hcol, halt]
  rfl

lemma gateShow_drones_ne_nil
    (h : gateShow tree (.dict d) = .ok trajectory) : trajectory.drones ≠ [] := by
  obtain ⟨d', _, h⟩ := bind_eq_ok.mp h
  obtain ⟨s, _, h⟩ := bind_eq_ok.mp h
  split at h
  · cases h
  next hdrones =>
    split at h
    · cases h
    · obtain ⟨_, _, h⟩ := bind_eq_ok.mp h
      obtain ⟨_, _, h⟩ := bind_eq_ok.mp h
      cases h
      simpa [timeSorted] using hdrones

lemma nonempty_of_emptyDrones (h : emptyDrones s = []) {d : Nat × List (Waypoint K)}
    (hd : d ∈ s.drones) : d.2 ≠ [] := by
  intro hnil
  have hmem : d.1 ∈ emptyDrones s := by
    rw [emptyDrones, List.mem_insertionSort]
    exact List.mem_map.mpr ⟨d, List.mem_filter.mpr ⟨hd, by simp [hnil]⟩, rfl⟩
  rw [h] at hmem
  cases hmem

/-- A clean sweep of time-ordered, non-empty waypoint lists separates any two
drones at every sample. -/
lemma separated_of_sweep [LawfulSqrt K] (hord : ∀ d ∈ s.drones, TimeOrdered d.2)
    (hne : ∀ d ∈ s.drones, d.2 ≠ [])
    (h : validateTrajectoryCollisions tree s none = []) {t : K}
    (ht : t ∈ sweepTimes s.duration (1 / 10)) {d e : Nat × List (Waypoint K)}
    (hd : d ∈ s.drones) (he : e ∈ s.drones) (hde : d.1 ≠ e.1) :
    ∃ wp wq, interpolateWaypoint d.2 t = some wp ∧ interpolateWaypoint e.2 t = some wq ∧
      (defaultLimits : SafetyLimits K).minSeparationM *
        (defaultLimits : SafetyLimits K).minSeparationM ≤
          distSq (wp.x, wp.y, wp.z) (wq.x, wq.y, wq.z) := by
  have hplaced : ∀ d ∈ s.drones, ∃ wp, interpolateWaypoint d.2 t = some wp := fun d hd =>
    interpolateWaypoint_isSome (hord d hd) (hne d hd) t
  obtain ⟨wp, hwp⟩ := hplaced d hd
  obtain ⟨wq, hwq⟩ := hplaced e he
  refine ⟨wp, wq, hwp, hwq, ?_⟩
  obtain ⟨i, hi⟩ := List.mem_iff_getElem?.mp hd
  obtain ⟨j, hj⟩ := List.mem_iff_getElem?.mp he
  have hpairs := collisionErrors_eq_nil h ht
  have hpi := positionsAt_eq hplaced hi hwp
  have hpj := positionsAt_eq hplaced hj hwq
  have hmin : (0 : K) ≤ (defaultLimits : SafetyLimits K).minSeparationM :=
    (defaultLimits : SafetyLimits K).all_pos.1.le
  rcases Nat.lt_trichotomy i j with hij | rfl | hji
  · exact sq_le_of_le_sqrt hmin (distSq_nonneg ..)
      (le_pointDist_of_closePairs_eq_nil tree hpairs hij hpi hpj)
  · rw [hi] at hj
    cases hj
    exact absurd rfl hde
  · rw [distSq_comm]
    exact sq_le_of_le_sqrt hmin (distSq_nonneg ..)
      (le_pointDist_of_closePairs_eq_nil tree hpairs hji hpj hpi)

lemma gateShow_sound [LawfulSqrt K] {canonical : PyVal K}
    (h : gateShow tree canonical = .ok trajectory) : Safe trajectory := by
  obtain ⟨d, rfl⟩ := gateShow_isDict h
  obtain ⟨_, s, _, hload, hempty, rfl, hcol, halt⟩ := gateShow_ok h
  have hsorted : ∀ e ∈ (timeSorted s).drones, ∃ wps, (e.1, wps) ∈ s.drones ∧ e.2 = sortByTime wps := by
    intro e he
    obtain ⟨f, hf, rfl⟩ := List.mem_map.mp he
    exact ⟨f.2, hf, rfl⟩
  have hord : ∀ e ∈ (timeSorted s).drones, TimeOrdered e.2 := by
    intro e he
    obtain ⟨wps, _, hw⟩ := hsorted e he
    exact hw ▸ sortByTime_ordered wps
  have hne : ∀ e ∈ (timeSorted s).drones, e.2 ≠ [] := by
    intro e he hnil
    obtain ⟨wps, hmem, hw⟩ := hsorted e he
    rw [hw] at hnil
    exact nonempty_of_emptyDrones hempty hmem (hnil ▸ sortByTime_perm wps).symm.eq_nil
  exact
    { ids := fun e he => by
        obtain ⟨wps, hmem, _⟩ := hsorted e he
        exact (Show.validateAndLoad_spec hload _ _ hmem).1
      unique := (timeSorted s).unique
      nonempty := hne
      ordered := hord
      in_range := fun e he wp hwp => by
        obtain ⟨wps, hmem, hw⟩ := hsorted e he
        exact (Show.validateAndLoad_spec hload _ _ hmem).2 wp
          ((sortByTime_perm wps).mem_iff.mp (hw ▸ hwp))
      altitude := fun e he wp hwp => altitudeErrors_eq_nil halt he hwp
      separated := fun k hk e he f hf hef =>
        separated_of_sweep hord hne hcol (mem_sweepTimes (by norm_num) hk) he hf hef }

end Sound

/-! ## What the gate keeps -/

def numberOf : PyVal K → Option K
  | .int n => some n
  | .float x => some x
  | _ => none

/-- The timed position a waypoint dict spells, if all four are numbers. -/
def coordsOf : PyVal K → Option (K × K × K × K)
  | .dict d => do
    let time ← (find d "time").bind numberOf
    let x ← (find d "x").bind numberOf
    let y ← (find d "y").bind numberOf
    let z ← (find d "z").bind numberOf
    return (time, x, y, z)
  | _ => none

def pointsOf (s : Show K) : List (ℤ × K × K × K × K) :=
  s.drones.flatMap fun d => d.2.map fun wp => ((d.1 : ℤ), wp.time, wp.x, wp.y, wp.z)

/-- Every timed position that a GCS-shaped dict spells, with its drone. -/
def rawPoints (drones : List (ℤ × PyVal K)) : List (Option (ℤ × K × K × K × K)) :=
  drones.flatMap fun e => match e.2 with
    | .list wps => wps.map fun wp => (coordsOf wp).map fun c => (e.1, c)
    | _ => []

variable {loc : Loc}

variable {v : PyVal K} {α : Type} {drones : List (ℤ × PyVal K)}

omit [LinearOrder K] [FloorRing K] in
lemma strictFloat_ok {x : K} (h : strictFloat loc v = .ok x) : numberOf v = some x := by
  cases v <;> cases h <;> rfl

omit [Field K] [LinearOrder K] [FloorRing K] in
lemma required_ok {d : PyDict K} {key : String}
    {check : Loc → PyVal K → Checked SchemaError α} {a : α}
    (h : required d loc key check = .ok a) :
    ∃ v, find d key = some v ∧ check (loc ++ [key]) v = .ok a := by
  unfold required at h
  split at h
  · cases h
  next v hv => exact ⟨v, hv, h⟩

lemma validateWaypoint_coords {w : SchemaWaypoint K}
    (h : validateWaypoint loc v = .ok w) : coordsOf v = some (w.time, w.x, w.y, w.z) := by
  unfold validateWaypoint at h
  split at h
  next d =>
    obtain ⟨⟨time, x, y, z, yaw, r, g, b, wc, vx, vy, vz⟩, hc, rfl⟩ := map_eq_ok.mp h
    simp only [both_eq_ok] at hc
    obtain ⟨ht, hx, hy, hz, _⟩ := hc
    obtain ⟨vt, hvt, ht⟩ := required_ok ht
    obtain ⟨t, ht, hr⟩ := bind_eq_ok.mp ht
    obtain ⟨_, hvx, hx⟩ := required_ok hx
    obtain ⟨_, hvy, hy⟩ := required_ok hy
    obtain ⟨_, hvz, hz⟩ := required_ok hz
    have htime : time.1 = t := require_eq_ok.mp hr
    simp [coordsOf, hvt, hvx, hvy, hvz, strictFloat_ok ht, strictFloat_ok hx, strictFloat_ok hy,
      strictFloat_ok hz, htime]
  next => cases h

lemma coordsOf_legacyWaypoint (v : PyVal K) : coordsOf (legacyWaypoint v) = coordsOf v := by
  have hset : ∀ (d : PyDict K) (w : PyVal K),
      coordsOf (.dict (assign d "yaw" w)) = coordsOf (.dict d) := by
    intro d w
    simp [coordsOf, find_assign_ne]
  unfold legacyWaypoint
  split
  · split <;> first | exact hset _ _ | rfl
  · rfl

omit [FloorRing K] in
lemma listOf_ok {check : Loc → PyVal K → Checked SchemaError α}
    {items : List (PyVal K)} {as : List α} (h : listOf check loc (.list items) = .ok as) :
    List.Forall₂ (fun v a => ∃ l, check l v = .ok a) items as := by
  have hmap : items.mapIdx (fun i v => check (loc ++ [toString i]) v) = as.map .ok := each_eq_ok.mp h
  rw [List.forall₂_iff_get]
  have hlen : items.length = as.length := by simpa using congrArg List.length hmap
  refine ⟨hlen, fun i hi ha => ⟨loc ++ [toString i], ?_⟩⟩
  have := congrArg (·[i]?) hmap
  simpa [hi, ha] using this

lemma points_of_forall₂ {wps : List (PyVal K)} {ws : List (SchemaWaypoint K)} (id : ℤ)
    (h : List.Forall₂ (fun v a => ∃ l, validateWaypoint l v = .ok a) (wps.map legacyWaypoint) ws) :
    (ws.map fun w => ((id, w.time, w.x, w.y, w.z) : ℤ × K × K × K × K)).map some =
      wps.map fun wp => (coordsOf wp).map fun c => (id, c) := by
  induction wps generalizing ws with
  | nil => cases h; rfl
  | cons v wps ih =>
    obtain ⟨w, ws, ⟨l, hw⟩, hrest, rfl⟩ := List.forall₂_cons_left_iff.mp h
    have hc := validateWaypoint_coords hw
    rw [coordsOf_legacyWaypoint] at hc
    simp [hc, ih hrest]

lemma validateDroneTrack_points {e : ℤ × PyVal K} {t : DroneTrack K}
    (h : validateDroneTrack loc (.dict [("id", .int e.1), ("waypoints", match e.2 with
      | .list wps => .list (wps.map legacyWaypoint)
      | wps => wps)]) = .ok t) :
    (t.waypoints.map fun w => (((t.id : ℤ), w.time, w.x, w.y, w.z) : ℤ × K × K × K × K)).map some =
      match e.2 with
      | .list wps => wps.map fun wp => (coordsOf wp).map fun c => (e.1, c)
      | _ => [] := by
  obtain ⟨⟨id, ws⟩, hc, rfl⟩ := map_eq_ok.mp h
  obtain ⟨hid, hws⟩ := both_eq_ok.mp hc
  obtain ⟨v, hv, hid⟩ := required_ok hid
  obtain ⟨u, hu, hws⟩ := required_ok hws
  simp only [find, if_true, String.reduceEq, if_false, Option.some.injEq] at hv hu
  subst hv hu
  have hint : id.1 = e.1 := by
    obtain ⟨n, hn, hr⟩ := bind_eq_ok.mp hid
    cases hn
    unfold requireBoth at hr
    split at hr
    · split at hr
      · exact (congrArg Subtype.val (Except.ok.inj hr)).symm
      · cases hr
    · cases hr
  have hnat : ((id.1.toNat : ℕ) : ℤ) = e.1 := by rw [Int.toNat_of_nonneg id.2.2, hint]
  split at hws
  next wps he =>
    simp only [hnat]
    exact points_of_forall₂ e.1 (listOf_ok hws)
  next hne =>
    cases hv : e.2 with
    | list wps => exact absurd hv (hne wps)
    | _ => rw [hv] at hws; cases hws

lemma timeSorted_points (s : Show K) : (pointsOf (timeSorted s)).Perm (pointsOf s) := by
  unfold pointsOf timeSorted
  rw [List.flatMap_map]
  exact List.Perm.flatMap_left _ fun d _ => (sortByTime_perm d.2).map _

lemma validate_points {tracks : List (DroneTrack K)}
    (h : List.Forall₂ (fun v t => ∃ l, validateDroneTrack l v = .ok t) (drones.map fun e =>
      PyVal.dict [("id", .int e.1), ("waypoints", match e.2 with
        | .list wps => .list (wps.map legacyWaypoint)
        | wps => wps)]) tracks) :
    (tracks.flatMap fun t => t.waypoints.map fun w =>
      (((t.id : ℤ), w.time, w.x, w.y, w.z) : ℤ × K × K × K × K)).map some = rawPoints drones := by
  induction drones generalizing tracks with
  | nil => cases h; rfl
  | cons e drones ih =>
    obtain ⟨t, ts, ⟨l, ht⟩, hrest, rfl⟩ := List.forall₂_cons_left_iff.mp h
    rw [List.flatMap_cons, List.map_append, validateDroneTrack_points ht, ih hrest]
    rfl

lemma gateShow_legacy_points [IsStrictOrderedRing K]
    [Sqrt K] {tree : KdTree K} {trajectory : Show K}
    (h : gateShow tree (legacyCanonical drones (.int showFormatVersion)) = .ok trajectory) :
    ((pointsOf trajectory).map some).Perm (rawPoints drones) := by
  obtain ⟨d, s, hver, hload, _, rfl, _, _⟩ := gateShow_ok (d := _) h
  cases hver
  obtain ⟨c, hc, rfl⟩ := map_eq_ok.mp hload
  obtain ⟨⟨version, ds, geofence, ref⟩, hboth, rfl⟩ := map_eq_ok.mp hc
  obtain ⟨_, hboth⟩ := both_eq_ok.mp hboth
  obtain ⟨v, hv, hds⟩ := required_ok (both_eq_ok.mp hboth).1
  simp only [find, String.reduceEq, if_false, if_true, Option.some.injEq] at hv
  subst hv
  obtain ⟨tracks, htracks, hu⟩ := bind_eq_ok.mp hds
  have heq : ds.1 = tracks := require_eq_ok.mp hu
  refine (timeSorted_points _).map some |>.trans (List.Perm.of_eq ?_)
  rw [← validate_points (listOf_ok htracks), ← heq]
  simp [pointsOf, List.flatMap_map, Function.comp_def]

end Taramandal.Gcs.Gate
