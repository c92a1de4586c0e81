import Taramandal.Gcs.Gate

/-! # The gate on its own output (`gate_trajectory`)

What the gate returns is a dict of waypoint dicts again: the fields that were set, and the
keys that the schema does not know. Wrapped into the canonical shape it passes the gate
once more and comes out unchanged. -/
set_option linter.unusedSectionVars false

namespace Taramandal.Gcs.Regate

open Taramandal.Core Lib.Check Lib.Dict Core.Numbers Core.Values Core.Geometry Core.Safety
open Core.Schema Core.Shows Core.Validate Gcs.Gate

variable {K : Type}

def field (key : String) (v : Option (PyVal K)) : PyDict K :=
  v.toList.map fun v => (key, v)

/-- The declared fields of a waypoint, in the schema's order. -/
def dumpFields (wp : Waypoint K) : PyDict K :=
  [("time", .float wp.time), ("x", .float wp.x), ("y", .float wp.y), ("z", .float wp.z),
    ("yaw", .float wp.yaw)] ++ field "r" (wp.r.map .int) ++ field "g" (wp.g.map .int) ++
    field "b" (wp.b.map .int) ++ field "w" (wp.w.map .int) ++ field "vx" (wp.vx.map .float) ++
    field "vy" (wp.vy.map .float) ++ field "vz" (wp.vz.map .float)

/-- `wp.model_dump(exclude_unset=True)`. -/
def modelDump (wp : Waypoint K) : PyVal K := .dict (dumpFields wp ++ wp.extra)

def gcsDict (trajectory : Show K) : Dict ℤ (PyVal K) :=
  trajectory.drones.map fun d => ((d.1 : ℤ), .list (d.2.map modelDump))

def canonical (trajectory : Dict ℤ (PyVal K)) : PyVal K :=
  .dict [("version", .int showFormatVersion), ("drones", .list (trajectory.map fun d =>
    .dict [("id", .int d.1), ("waypoints", d.2)]))]

variable [Field K] [LinearOrder K] [FloorRing K]

def gateTrajectory [IsStrictOrderedRing K] [Sqrt K] (tree : KdTree K)
    (trajectory : Dict ℤ (PyVal K)) : Except String (Show K) :=
  gateShow tree (canonical trajectory)

/-! ## Waypoints -/

/-- What the schema accepts: fields in range, and no declared key among the extra ones. -/
structure Accepted (wp : Waypoint K) : Prop where
  time_nonneg : 0 ≤ wp.time
  yaw_nonneg : 0 ≤ wp.yaw
  yaw_lt : wp.yaw < 360
  led_range : ∀ channel ∈ [wp.r, wp.g, wp.b, wp.w], ∀ v ∈ channel, 0 ≤ v ∧ v ≤ 255
  extra : ∀ e ∈ wp.extra, e.1 ∉ waypointKeys

def Accepted.schema {wp : Waypoint K} (h : Accepted wp) : SchemaWaypoint K :=
  { wp with
    time_nonneg := h.time_nonneg
    yaw_nonneg := h.yaw_nonneg
    yaw_lt := h.yaw_lt
    led_range := h.led_range }

lemma find_field (key k : String) (v : Option (PyVal K)) :
    find (field key v) k = if key = k then v else none := by
  cases v <;> simp [field, find]

variable {key : String} {wp : Waypoint K}

lemma Accepted.find_dump (h : Accepted wp) (hkey : key ∈ waypointKeys) :
    find (dumpFields wp ++ wp.extra) key = find (dumpFields wp) key := by
  have hnone : find wp.extra key = none := by
    rw [find_eq_none_iff]
    intro hmem
    obtain ⟨e, he, rfl⟩ := List.mem_map.mp hmem
    exact h.extra e he hkey
  rw [find_append, hnone, Option.or_none]

variable {loc : Loc}

variable {d : PyDict K} {e : String × PyVal K} {α : Type}

lemma optional_led {channel : Option ℤ} (hfind : find d key = channel.map .int)
    (hrange : ∀ n ∈ channel, 0 ≤ n ∧ n ≤ 255) :
    ∃ r, Schema.optional d loc key ledChannel = .ok r ∧ r.map Subtype.val = channel := by
  cases channel with
  | none => exact ⟨none, by simp [Schema.optional, hfind], rfl⟩
  | some n =>
    obtain ⟨h0, h255⟩ := hrange n rfl
    refine ⟨some ⟨n, h0, h255⟩, ?_, rfl⟩
    simp [Schema.optional, hfind, ledChannel, notNull, strictInt, requireBoth, h0, h255, Except.map,
      bind, Except.bind]

lemma optional_float {v : Option K} (hfind : find d key = v.map .float) :
    Schema.optional d loc key (fun l => notNull l (strictFloat l)) = .ok v := by
  cases v with
  | none => simp [Schema.optional, hfind]
  | some x => simp [Schema.optional, hfind, notNull, strictFloat, Except.map]

lemma key_of_mem_field {v : Option (PyVal K)} (h : e ∈ field key v) : e.1 = key := by
  obtain ⟨v, -, rfl⟩ := List.mem_map.mp h
  rfl

lemma key_of_mem_dumpFields (h : e ∈ dumpFields wp) : e.1 ∈ waypointKeys := by
  simp only [dumpFields, List.mem_append, List.mem_cons, List.not_mem_nil, or_false] at h
  rcases h with (((((((rfl | rfl | rfl | rfl | rfl) | h) | h) | h) | h) | h) | h) | h
  all_goals first | exact key_of_mem_field h ▸ (by decide) | simp [waypointKeys]

lemma filter_dump (h : ∀ e ∈ wp.extra, e.1 ∉ waypointKeys) :
    ((dumpFields wp ++ wp.extra).filter fun e => !waypointKeys.contains e.1) = wp.extra := by
  have hfields : (dumpFields wp).filter (fun e => !waypointKeys.contains e.1) = [] := by
    rw [List.filter_eq_nil_iff]
    intro e he
    simpa using key_of_mem_dumpFields he
  rw [List.filter_append, hfields, List.nil_append, List.filter_eq_self]
  intro e he
  simpa using h e he

def declared (wp : Waypoint K) : List (String × Option (PyVal K)) :=
  [("time", some (.float wp.time)), ("x", some (.float wp.x)), ("y", some (.float wp.y)),
    ("z", some (.float wp.z)), ("yaw", some (.float wp.yaw)), ("r", wp.r.map .int),
    ("g", wp.g.map .int), ("b", wp.b.map .int), ("w", wp.w.map .int), ("vx", wp.vx.map .float),
    ("vy", wp.vy.map .float), ("vz", wp.vz.map .float)]

lemma Accepted.find_declared (h : Accepted wp) {v : Option (PyVal K)}
    (hv : (key, v) ∈ declared wp) :
    find (dumpFields wp ++ wp.extra) key = v := by
  have hkey : key ∈ waypointKeys := by
    have hmem : key ∈ (declared wp).map Prod.fst := List.mem_map_of_mem hv
    exact hmem
  rw [h.find_dump hkey]
  simp only [declared, List.mem_cons, Prod.mk.injEq, List.not_mem_nil, or_false] at hv
  rcases hv with ⟨rfl, rfl⟩ | ⟨rfl, rfl⟩ | ⟨rfl, rfl⟩ | ⟨rfl, rfl⟩ | ⟨rfl, rfl⟩ | ⟨rfl, rfl⟩ |
    ⟨rfl, rfl⟩ | ⟨rfl, rfl⟩ | ⟨rfl, rfl⟩ | ⟨rfl, rfl⟩ | ⟨rfl, rfl⟩ | ⟨rfl, rfl⟩ <;>
    simp [dumpFields, find_append, find_field, find]

lemma validateWaypoint_dump (h : Accepted wp) (loc : Loc) :
    validateWaypoint loc (modelDump wp) = .ok h.schema := by
  have hled : ∀ key channel, (key, Option.map PyVal.int channel) ∈ declared wp →
      channel ∈ [wp.r, wp.g, wp.b, wp.w] → ∃ r, Schema.optional (dumpFields wp ++ wp.extra) loc key
        ledChannel = .ok r ∧ r.map Subtype.val = channel :=
    fun key channel hmem hchannel =>
      optional_led (h.find_declared hmem) (h.led_range channel hchannel)
  have hfloat : ∀ key v, (key, Option.map PyVal.float v) ∈ declared wp →
      Schema.optional (dumpFields wp ++ wp.extra) loc key (fun l => notNull l (strictFloat l)) =
        .ok v :=
    fun key v hmem => optional_float (h.find_declared hmem)
  have hcoord : ∀ key x, (key, some (PyVal.float x)) ∈ declared wp →
      required (dumpFields wp ++ wp.extra) loc key strictFloat = .ok x := by
    intro key x hmem
    rw [required, h.find_declared hmem]
    rfl
  have htime : required (dumpFields wp ++ wp.extra) loc "time" nonnegFloat =
      .ok ⟨wp.time, h.time_nonneg⟩ := by
    rw [required, h.find_declared (v := some (.float wp.time)) (by simp [declared])]
    exact require_eq_ok.mpr rfl
  have hyaw : required (dumpFields wp ++ wp.extra) loc "yaw" yawFloat =
      .ok ⟨wp.yaw, h.yaw_lt, h.yaw_nonneg⟩ := by
    rw [required, h.find_declared (v := some (.float wp.yaw)) (by simp [declared])]
    simp [yawFloat, strictFloat, requireBoth, h.yaw_lt, h.yaw_nonneg, bind, Except.bind]
  obtain ⟨r, hr, hrval⟩ := hled "r" wp.r (by simp [declared]) (by simp)
  obtain ⟨g, hg, hgval⟩ := hled "g" wp.g (by simp [declared]) (by simp)
  obtain ⟨b, hb, hbval⟩ := hled "b" wp.b (by simp [declared]) (by simp)
  obtain ⟨w, hw, hwval⟩ := hled "w" wp.w (by simp [declared]) (by simp)
  refine map_eq_ok.mpr ⟨(⟨wp.time, h.time_nonneg⟩, wp.x, wp.y, wp.z,
    ⟨wp.yaw, h.yaw_lt, h.yaw_nonneg⟩, r, g, b, w, wp.vx, wp.vy, wp.vz), ?_, ?_⟩
  · simp only [both_eq_ok]
    exact ⟨htime, hcoord "x" wp.x (by simp [declared]), hcoord "y" wp.y (by simp [declared]),
      hcoord "z" wp.z (by simp [declared]), hyaw, hr, hg, hb, hw,
      hfloat "vx" wp.vx (by simp [declared]), hfloat "vy" wp.vy (by simp [declared]),
      hfloat "vz" wp.vz (by simp [declared])⟩
  · simp only [hrval, hgval, hbval, hwval, filter_dump h.extra]
    rfl

variable {v : PyVal K}

lemma validateWaypoint_accepted {w : SchemaWaypoint K} (h : validateWaypoint loc v = .ok w) :
    Accepted w.toWaypoint := by
  cases v with
  | dict d =>
    have hextra : w.extra = d.filter fun e => !waypointKeys.contains e.1 := by
      obtain ⟨_, -, rfl⟩ := map_eq_ok.mp h
      rfl
    refine ⟨w.time_nonneg, w.yaw_nonneg, w.yaw_lt, w.led_range, fun e he => ?_⟩
    rw [hextra] at he
    simpa using (List.mem_filter.mp he).2
  | _ => cases h

/-! ## Shows -/

lemma exists_of_mem_listOf {check : Loc → PyVal K → Checked SchemaError α}
    {as : List α} (h : listOf check loc v = .ok as) {a : α} (ha : a ∈ as) :
    ∃ l u, check l u = .ok a := by
  cases v with
  | list items =>
    have hmem : Except.ok a ∈ as.map (Except.ok (ε := List SchemaError)) := List.mem_map_of_mem ha
    rw [← each_eq_ok.mp h] at hmem
    obtain ⟨i, hi, hcheck⟩ := List.mem_mapIdx.mp hmem
    exact ⟨_, _, hcheck⟩
  | _ => cases h

lemma listOf_map {β : Type} {check : Loc → PyVal K → Checked SchemaError α} {f : β → PyVal K}
    {bs : List β} {g : ∀ b ∈ bs, α} (h : ∀ b hb l, check l (f b) = .ok (g b hb)) (loc : Loc) :
    listOf check loc (.list (bs.map f)) = .ok (bs.pmap (fun b hb => g b hb) fun _ hb => hb) := by
  refine each_eq_ok.mpr (List.ext_getElem (by simp) fun i hi hi' => ?_)
  simp only [List.getElem_mapIdx, List.getElem_map, List.getElem_pmap]
  exact h _ _ _

/-- What the schema makes of a show: ids below the fleet size, accepted waypoints. -/
structure Loaded (s : Show K) : Prop where
  id_lt : ∀ d ∈ s.drones, d.1 < maxFleetSize
  accepted : ∀ d ∈ s.drones, ∀ wp ∈ d.2, Accepted wp

lemma validateDroneTrack_accepted {t : DroneTrack K} (h : validateDroneTrack loc v = .ok t) :
    ∀ w ∈ t.waypoints, Accepted w.toWaypoint := by
  cases v with
  | dict d =>
    obtain ⟨⟨id, ws⟩, hc, rfl⟩ := map_eq_ok.mp h
    obtain ⟨u, -, hws⟩ := required_ok (both_eq_ok.mp hc).2
    intro w hw
    obtain ⟨_, _, hw⟩ := exists_of_mem_listOf hws hw
    exact validateWaypoint_accepted hw
  | _ => cases h

variable {s : Show K}

lemma validateAndLoad_loaded {data : PyVal K} (h : Show.validateAndLoad data = .ok s) :
    Loaded s := by
  refine ⟨fun d hd => (Show.validateAndLoad_spec h d.1 d.2 hd).1, fun d hd wp hwp => ?_⟩
  obtain ⟨c, hc, rfl⟩ := map_eq_ok.mp h
  obtain ⟨t, ht, rfl⟩ := List.mem_map.mp hd
  obtain ⟨w, hw, rfl⟩ := List.mem_map.mp hwp
  cases data with
  | dict d =>
    obtain ⟨⟨version, ds, geofence, ref⟩, hboth, rfl⟩ := map_eq_ok.mp hc
    obtain ⟨_, hboth⟩ := both_eq_ok.mp hboth
    obtain ⟨v, -, hds⟩ := required_ok (both_eq_ok.mp hboth).1
    obtain ⟨tracks, htracks, hu⟩ := bind_eq_ok.mp hds
    have heq : ds.1 = tracks := require_eq_ok.mp hu
    rw [← heq] at htracks
    obtain ⟨_, _, ht⟩ := exists_of_mem_listOf htracks ht
    exact validateDroneTrack_accepted ht w hw
  | _ => cases hc

lemma Loaded.timeSorted (h : Loaded s) : Loaded (timeSorted s) where
  id_lt d hd := by
    obtain ⟨e, he, rfl⟩ := List.mem_map.mp hd
    exact h.id_lt e he
  accepted d hd wp hwp := by
    obtain ⟨e, he, rfl⟩ := List.mem_map.mp hd
    exact h.accepted e he wp ((sortByTime_perm e.2).mem_iff.mp hwp)

def Loaded.track {s : Show K} (h : Loaded s) (d : Nat × List (Waypoint K)) (hd : d ∈ s.drones) :
    DroneTrack K where
  id := d.1
  id_lt := h.id_lt d hd
  waypoints := d.2.pmap (fun wp hwp => (h.accepted d hd wp hwp).schema) fun _ hwp => hwp

lemma Loaded.track_waypoints (h : Loaded s) (d : Nat × List (Waypoint K)) (hd : d ∈ s.drones) :
    (h.track d hd).waypoints.map SchemaWaypoint.toWaypoint = d.2 := by
  simp [Loaded.track, List.map_pmap, Accepted.schema]

lemma Loaded.validateDroneTrack (h : Loaded s) (d : Nat × List (Waypoint K)) (hd : d ∈ s.drones)
    (loc : Loc) : validateDroneTrack loc (.dict [("id", .int d.1),
      ("waypoints", .list (d.2.map modelDump))]) = .ok (h.track d hd) := by
  have hid : droneId (loc ++ ["id"]) (.int d.1 : PyVal K) =
      .ok ⟨d.1, Nat.cast_lt.mpr (h.id_lt d hd), Int.natCast_nonneg _⟩ := by
    simp [droneId, strictInt, requireBoth, h.id_lt d hd, bind, Except.bind]
  have hwps : listOf validateWaypoint (loc ++ ["waypoints"]) (.list (d.2.map modelDump)) =
      .ok (h.track d hd).waypoints :=
    listOf_map (fun wp hwp l => validateWaypoint_dump (h.accepted d hd wp hwp) l) _
  have hboth : both (required [("id", .int d.1), ("waypoints", .list (d.2.map modelDump))] loc "id"
      droneId) (required [("id", .int d.1), ("waypoints", .list (d.2.map modelDump))] loc
        "waypoints" (listOf validateWaypoint)) = .ok (⟨d.1, Nat.cast_lt.mpr (h.id_lt d hd),
          Int.natCast_nonneg _⟩, (h.track d hd).waypoints) := by
    simp only [both_eq_ok, required, find, if_true, String.reduceEq, if_false]
    exact ⟨hid, hwps⟩
  rw [Schema.validateDroneTrack, hboth]
  rfl

lemma validateAndLoad_canonical (h : Loaded s) :
    Show.validateAndLoad (canonical (gcsDict s)) = .ok s := by
  have hdrones : listOf validateDroneTrack ["drones"] (.list (s.drones.map fun d =>
      .dict [("id", .int d.1), ("waypoints", .list (d.2.map modelDump))])) =
        .ok (s.drones.pmap h.track fun _ hd => hd) :=
    listOf_map h.validateDroneTrack _
  have hids : (s.drones.pmap h.track fun _ hd => hd).map DroneTrack.id = s.drones.map Prod.fst := by
    simp [List.map_pmap, Loaded.track]
  have hunique : ((s.drones.pmap h.track fun _ hd => hd).map DroneTrack.id).Nodup :=
    hids ▸ s.unique
  have hcontainer : validateContainer (canonical (gcsDict s)) = .ok
      { version := ⟨showFormatVersion, by decide⟩
        drones := s.drones.pmap h.track fun _ hd => hd
        unique_ids := hunique
        geofence := none
        signatureRef := none } := by
    refine map_eq_ok.mpr ⟨(⟨showFormatVersion, by decide⟩, ⟨_, hunique⟩, none, none), ?_, rfl⟩
    simp only [both_eq_ok]
    refine ⟨?_, ?_, rfl, rfl⟩
    · simp only [required, find, if_true]
      rfl
    · simp only [required, find, if_true, String.reduceEq, if_false, gcsDict, List.map_map]
      refine bind_eq_ok.mpr ⟨_, hdrones, ?_⟩
      exact require_eq_ok.mpr rfl
  refine map_eq_ok.mpr ⟨_, hcontainer, ?_⟩
  have hback : (s.drones.pmap h.track fun _ hd => hd).map (fun t => (t.id, t.waypoints.map
      SchemaWaypoint.toWaypoint)) = s.drones := by
    simp only [List.map_pmap, h.track_waypoints]
    simp [Loaded.track]
  obtain ⟨drones, unique⟩ := s
  simp only [Show.mk.injEq]
  exact hback

/-! ## The gate -/

lemma sortByTime_idem (wps : List (Waypoint K)) : sortByTime (sortByTime wps) = sortByTime wps := by
  have hsorted : (sortByTime wps).Pairwise fun a b => a.time ≤ b.time := sortByTime_ordered wps
  exact hsorted.insertionSort_eq

lemma timeSorted_idem (s : Show K) : timeSorted (timeSorted s) = timeSorted s := by
  simp [timeSorted, sortByTime_idem]

section

variable [IsStrictOrderedRing K] [Sqrt K] {tree : KdTree K}

variable {d : PyDict K} {trajectory : Show K}

lemma emptyDrones_timeSorted (s : Show K) : emptyDrones (timeSorted s) = emptyDrones s := by
  have hempty : ∀ wps : List (Waypoint K), (sortByTime wps).isEmpty = wps.isEmpty := by
    intro wps
    rw [Bool.eq_iff_iff, List.isEmpty_iff, List.isEmpty_iff, ← List.length_eq_zero_iff,
      (sortByTime_perm wps).length_eq, List.length_eq_zero_iff]
  simp [emptyDrones, timeSorted, List.filter_map, Function.comp_def, hempty]

lemma gateTrajectory_gcsDict {x : PyVal K} (h : gateShow tree x = .ok trajectory) :
    gateTrajectory tree (gcsDict trajectory) = .ok trajectory := by
  obtain ⟨d, rfl⟩ := gateShow_isDict h
  have hdrones : trajectory.drones ≠ [] := gateShow_drones_ne_nil h
  obtain ⟨d', s, -, hload, hempty, rfl, hcollisions, haltitude⟩ := gateShow_ok h
  have hagain : timeSorted (timeSorted s) = timeSorted s := timeSorted_idem s
  have hloaded : Loaded (timeSorted s) := (validateAndLoad_loaded hload).timeSorted
  have hgate : gateTrajectory tree (gcsDict (timeSorted s)) = .ok (timeSorted (timeSorted s)) := by
    refine gateShow_of_checked rfl (validateAndLoad_canonical hloaded) hdrones ?_ ?_ ?_
    · rw [emptyDrones_timeSorted, hempty]
    · rw [hagain, hcollisions]
    · rw [hagain, haltitude]
  rw [hgate, hagain]

end

end Taramandal.Gcs.Regate

/-! ## The show-state file (`state_store.py`)

A snapshot of the show is one JSON object; drone ids are strings in it and ints again when
it is loaded. The JSON encoder and decoder are parameters. -/
namespace Taramandal.Gcs.StateStore

open Lib.Check Lib.Dict Core.Numbers Core.Values Core.Text Core.Shows Core.Validate Gcs.Gate
open Gcs.Regate

variable {K : Type}

/-- `json.dumps` and `json.load`. -/
structure Json (K : Type) where
  dumps : PyVal K → String
  load : String → Except String (PyVal K)

def Json.RoundTrips (json : Json K) (v : PyVal K) : Prop := json.load (json.dumps v) = .ok v

/-- What a snapshot says besides the trajectory. -/
structure Playback (K : Type) where
  savedAt : K
  mode : String
  showStartedAt : K
  telemetry : Dict ℤ (PyVal K)

def strKeys (d : Dict ℤ (PyVal K)) : PyVal K := .dict (d.map fun e => (toString e.1, e.2))

/-- The object that `save_show_state` writes. -/
def payload (trajectory : Dict ℤ (PyVal K)) (playback : Playback K) : PyDict K :=
  [("version", .int 1), ("saved_at", .float playback.savedAt), ("mode", .str playback.mode),
    ("show_started_at", .float playback.showStartedAt), ("trajectory", strKeys trajectory),
    ("telemetry", strKeys playback.telemetry)]

/-- `save_show_state`, which raises or replaces the file; it removes the temporary one. -/
def saveShowState (json : Json K) (file : Option String) (trajectory : Dict ℤ (PyVal K))
    (playback : Playback K) (raises : Option String) : Option String × Except String Unit :=
  match raises with
  | some e => (file, .error e)
  | none => (some (json.dumps (.dict (payload trajectory playback))), .ok ())

/-- `{int(k): v for k, v in d.items()}`. -/
def intKeys : PyVal K → Except String (Dict ℤ (PyVal K))
  | .dict d => d.foldlM (fun ids e =>
      match pyInt e.1 with
      | some id => .ok (assign ids id e.2)
      | none => .error ("invalid literal for int() with base 10: '" ++ e.1 ++ "'")) []
  | _ => .error "object has no attribute 'items'"

/-- A state that was loaded: its object, and the two dicts whose keys are ints again. -/
structure SavedState (K : Type) where
  fields : PyDict K
  trajectory : Dict ℤ (PyVal K)
  telemetry : Dict ℤ (PyVal K)

def item (d : PyDict K) (key : String) : Except String (PyVal K) :=
  match find d key with
  | some v => .ok v
  | none => .error ("'" ++ key ++ "'")

/-- `load_show_state`: a file that is missing or corrupt is no state. -/
def loadShowState (json : Json K) (file : Option String) : Option (SavedState K) :=
  file.bind fun text => Except.toOption do
    match ← json.load text with
    | .dict d =>
      let trajectory ← intKeys (← item d "trajectory")
      let telemetry ← intKeys (← item d "telemetry")
      return ⟨d, trajectory, telemetry⟩
    | _ => .error "object is not subscriptable"

lemma intKeys_strKeys (d : Dict ℤ (PyVal K)) : intKeys (strKeys d) = .ok (assignAll [] d) := by
  rw [strKeys, intKeys, List.foldlM_map]
  simp only [pyInt_toString]
  rw [assignAll]
  generalize ([] : Dict ℤ (PyVal K)) = ids
  induction d generalizing ids with
  | nil => rfl
  | cons e d ih => exact ih _

lemma loadShowState_saveShowState {json : Json K} {trajectory : Dict ℤ (PyVal K)}
    {playback : Playback K} (hjson : json.RoundTrips (.dict (payload trajectory playback)))
    (file : Option String) :
    loadShowState json (saveShowState json file trajectory playback none).1 =
      some ⟨payload trajectory playback, assignAll [] trajectory,
        assignAll [] playback.telemetry⟩ := by
  have htrajectory : item (payload trajectory playback) "trajectory" =
      .ok (strKeys trajectory) := by
    simp [item, payload, find]
  have htelemetry : item (payload trajectory playback) "telemetry" =
      .ok (strKeys playback.telemetry) := by
    simp [item, payload, find]
  simp only [saveShowState, loadShowState, Option.bind_some]
  rw [hjson]
  simp only [bind, Except.bind, htrajectory, htelemetry, intKeys_strKeys]
  rfl

section

variable [Field K] [LinearOrder K] [FloorRing K] [IsStrictOrderedRing K] [Sqrt K] {tree : KdTree K}

/-- A gated show passes the gate again, and so does what is loaded after it was saved: both
times it comes out as it was. -/
theorem gated_show_survives {x : PyVal K} {trajectory : Show K}
    (h : gateShow tree x = .ok trajectory) :
    gateTrajectory tree (gcsDict trajectory) = .ok trajectory ∧
      ∀ (json : Json K) (file : Option String) (playback : Playback K),
        json.RoundTrips (.dict (payload (gcsDict trajectory) playback)) →
          ∃ state, loadShowState json
              (saveShowState json file (gcsDict trajectory) playback none).1 = some state ∧
            gateTrajectory tree state.trajectory = .ok trajectory := by
  have hagain := gateTrajectory_gcsDict h
  refine ⟨hagain, fun json file playback hjson => ⟨_, loadShowState_saveShowState hjson file, ?_⟩⟩
  have hkeys : ((gcsDict trajectory).map Prod.fst).Nodup := by
    have hids : (gcsDict trajectory).map Prod.fst =
        (trajectory.drones.map Prod.fst).map Nat.cast := by
      simp [gcsDict]
    rw [hids]
    exact trajectory.unique.map Nat.cast_injective
  have hloaded : assignAll [] (gcsDict trajectory) = gcsDict trajectory := assignAll_of_nodup hkeys
  rw [hloaded]
  exact hagain

end

/-- One drone whose waypoints are out of order, one of them lit, with a key of its own. -/
def cueShow : PyVal ℚ :=
  .dict [("drones", .list [.dict [("id", .int 3), ("waypoints", .list [
    .dict [("time", .int 2), ("x", .int 0), ("y", .int 1), ("z", .int (-2)), ("yaw", .int 90)],
    .dict [("cue", .str "blink"), ("time", .int 0), ("x", .int 0), ("y", .int 0),
      ("z", .int (-2)), ("yaw", .int 0), ("r", .int 255)]])]])]

def cuePlayback : Playback ℚ where
  savedAt := 1001
  mode := "LOCAL"
  showStartedAt := 1000
  telemetry := []

def cueText : String :=
  "\x7b\"version\": 1, \"saved_at\": 1001.0, \"mode\": \"LOCAL\", " ++
  "\"show_started_at\": 1000.0, \"trajectory\": \x7b\"3\": [" ++
  "\x7b\"time\": 0.0, \"x\": 0.0, \"y\": 0.0, \"z\": -2.0, \"yaw\": 0.0, \"r\": 255, " ++
  "\"cue\": \"blink\"\x7d, " ++
  "\x7b\"time\": 2.0, \"x\": 0.0, \"y\": 1.0, \"z\": -2.0, \"yaw\": 90.0\x7d]\x7d, " ++
  "\"telemetry\": \x7b\x7d\x7d"

def cueJson (trajectory : Show ℚ) : Json ℚ where
  dumps _ := cueText
  load text := if text = cueText then .ok (.dict (payload (gcsDict trajectory) cuePlayback))
    else .error "Expecting value: line 1 column 1 (char 0)"

theorem gated_show_survives_cue : ∃ trajectory, gateShow bruteForce cueShow = .ok trajectory ∧
    gateTrajectory bruteForce (gcsDict trajectory) = .ok trajectory ∧
    ∃ state, loadShowState (cueJson trajectory) (saveShowState (cueJson trajectory) none
        (gcsDict trajectory) cuePlayback none).1 = some state ∧
      gateTrajectory bruteForce state.trajectory = .ok trajectory := by
  have hok : (gateShow bruteForce cueShow).isOk := by decide +kernel
  cases h : gateShow bruteForce cueShow with
  | error e =>
    rw [h] at hok
    cases hok
  | ok trajectory =>
    obtain ⟨hagain, hsaved⟩ := gated_show_survives h
    have hjson : (cueJson trajectory).RoundTrips
        (.dict (payload (gcsDict trajectory) cuePlayback)) := by
      simp [Json.RoundTrips, cueJson]
    exact ⟨trajectory, rfl, hagain, hsaved (cueJson trajectory) none cuePlayback hjson⟩

end Taramandal.Gcs.StateStore
