import Taramandal.Studio.Exporter

/-! # The CSV table of a show that the gate accepts

What the dicts of a loaded show spell, the row that the exporter writes for a waypoint, and the
waypoint that the adapter makes of a row. -/
set_option linter.unusedSectionVars false

namespace Taramandal.Studio.CsvTable

open Lib.Check Lib.Dict Core.Numbers Core.Values Core.Text Core.Geometry Core.Safety Core.Schema
open Core.Shows Gcs.Gate Gcs.CsvAdapter Gcs.TrajectoryParser Studio.Exporter

variable {K : Type} [Field K] [LinearOrder K]

/-! ## What the dicts of a loaded show spell -/

/-- The numbers and the light channels of a waypoint dict. -/
structure Spells (d : PyDict K) (w : Waypoint K) : Prop where
  time : (find d "time").bind numberOf = some w.time
  x : (find d "x").bind numberOf = some w.x
  y : (find d "y").bind numberOf = some w.y
  z : (find d "z").bind numberOf = some w.z
  yaw : (find d "yaw").bind numberOf = some w.yaw
  r : find d "r" = w.r.map .int
  g : find d "g" = w.g.map .int
  b : find d "b" = w.b.map .int

lemma nonnegFloat_ok {loc : Loc} {v : PyVal K} {x : {x : K // 0 ≤ x}}
    (h : nonnegFloat loc v = .ok x) : numberOf v = some x.1 := by
  obtain ⟨y, hy, hx⟩ := bind_eq_ok.mp h
  rw [require_eq_ok.mp hx]
  exact strictFloat_ok hy

lemma yawFloat_ok {loc : Loc} {v : PyVal K} {x : {x : K // x < 360 ∧ 0 ≤ x}}
    (h : yawFloat loc v = .ok x) : numberOf v = some x.1 := by
  obtain ⟨y, hy, hx⟩ := bind_eq_ok.mp h
  rw [requireBoth_eq_ok.mp hx]
  exact strictFloat_ok hy

lemma optional_led {d : PyDict K} {loc : Loc} {key : String}
    {channel : Option {n : ℤ // 0 ≤ n ∧ n ≤ 255}}
    (h : optional d loc key ledChannel = .ok channel) :
    find d key = (channel.map (·.1)).map .int := by
  unfold Core.Schema.optional at h
  split at h
  next hnone =>
    cases h
    exact hnone
  next v hsome =>
    obtain ⟨n, hn, rfl⟩ := map_eq_ok.mp h
    obtain ⟨m, hm, hn⟩ := bind_eq_ok.mp hn
    have hval : n.1 = m := requireBoth_eq_ok.mp hn
    cases v <;> cases hm
    rw [hsome]
    exact congrArg (fun n => some (PyVal.int n)) hval.symm

lemma validateWaypoint_spells {loc : Loc} {v : PyVal K} {w : SchemaWaypoint K}
    (h : validateWaypoint loc v = .ok w) : ∃ d, v = .dict d ∧ Spells d w.toWaypoint := by
  unfold validateWaypoint at h
  split at h
  next d =>
    obtain ⟨⟨time, x, y, z, yaw, r, g, b, wc, vx, vy, vz⟩, hc, rfl⟩ := map_eq_ok.mp h
    simp only [both_eq_ok] at hc
    obtain ⟨htime, hx, hy, hz, hyaw, hr, hg, hb, -⟩ := hc
    obtain ⟨_, hfind_time, htime⟩ := required_ok htime
    obtain ⟨_, hfind_x, hx⟩ := required_ok hx
    obtain ⟨_, hfind_y, hy⟩ := required_ok hy
    obtain ⟨_, hfind_z, hz⟩ := required_ok hz
    obtain ⟨_, hfind_yaw, hyaw⟩ := required_ok hyaw
    refine ⟨d, rfl, ?_, ?_, ?_, ?_, ?_, optional_led hr, optional_led hg, optional_led hb⟩
    · rw [hfind_time]
      exact nonnegFloat_ok htime
    · rw [hfind_x]
      exact strictFloat_ok hx
    · rw [hfind_y]
      exact strictFloat_ok hy
    · rw [hfind_z]
      exact strictFloat_ok hz
    · rw [hfind_yaw]
      exact yawFloat_ok hyaw
  next => cases h

/-- A drone dict with its id and its waypoints in the order of the file. -/
structure DroneSpells (v : PyVal K) (track : Nat × List (Waypoint K)) : Prop where
  spelled : ∃ d ws, v = .dict d ∧ find d "id" = some (.int track.1) ∧
    find d "waypoints" = some (.list ws) ∧
    List.Forall₂ (fun v w => ∃ d, v = .dict d ∧ Spells d w) ws track.2

lemma validateDroneTrack_spells {loc : Loc} {v : PyVal K} {t : DroneTrack K}
    (h : validateDroneTrack loc v = .ok t) :
    DroneSpells v (t.id, t.waypoints.map SchemaWaypoint.toWaypoint) := by
  unfold validateDroneTrack at h
  split at h
  next d =>
    obtain ⟨⟨id, waypoints⟩, hc, rfl⟩ := map_eq_ok.mp h
    obtain ⟨hid, hwps⟩ := both_eq_ok.mp hc
    obtain ⟨v, hfind_id, hid⟩ := required_ok hid
    obtain ⟨u, hfind_wps, hwps⟩ := required_ok hwps
    obtain ⟨n, hn, hid⟩ := bind_eq_ok.mp hid
    have hval : id.1 = n := requireBoth_eq_ok.mp hid
    have hnat : ((id.1.toNat : ℕ) : ℤ) = n := by rw [Int.toNat_of_nonneg id.2.2, hval]
    cases v <;> cases hn
    cases u with
    | list ws =>
      refine ⟨d, ws, rfl, ?_, hfind_wps, ?_⟩
      · rw [hnat]
        exact hfind_id
      · rw [List.forall₂_map_right_iff]
        exact (listOf_ok hwps).imp fun v w ⟨_, hw⟩ => validateWaypoint_spells hw
    | _ => cases hwps
  next => cases h

variable {s : Show K}

lemma load_spells {d : PyDict K} (h : Show.validateAndLoad (.dict d) = .ok s) :
    ∃ items, find d "drones" = some (.list items) ∧
      List.Forall₂ DroneSpells items s.drones := by
  obtain ⟨c, hc, rfl⟩ := map_eq_ok.mp h
  obtain ⟨⟨version, drones, geofence, ref⟩, hboth, rfl⟩ := map_eq_ok.mp hc
  simp only [both_eq_ok] at hboth
  obtain ⟨v, hv, hd⟩ := required_ok hboth.2.1
  obtain ⟨tracks, hlist, hunique⟩ := bind_eq_ok.mp hd
  have hsame : drones.1 = tracks := require_eq_ok.mp hunique
  cases v with
  | list items =>
    refine ⟨items, hv, ?_⟩
    simp only [hsame]
    rw [List.forall₂_map_right_iff]
    exact (listOf_ok hlist).imp fun v t ⟨_, ht⟩ => validateDroneTrack_spells ht
  | _ => cases hlist

/-! ## The table that is written -/

def lit (s : Show K) : Bool := s.drones.any fun d => d.2.any fun w => w.r.isSome

def rowNumbers (color : Bool) (id : Nat) (w : Waypoint K) : List K :=
  [(id : K), w.time, w.x, w.y, w.z, w.yaw] ++
    if color then [((w.r.getD 255 : ℤ) : K), ((w.g.getD 255 : ℤ) : K), ((w.b.getD 255 : ℤ) : K)]
    else []

def entries (s : Show K) : List (Nat × Waypoint K) :=
  s.drones.flatMap fun d => d.2.map fun w => (d.1, w)

section

variable {v : PyVal K} {d : PyDict K} {w : Waypoint K} {color : Bool} {id : Nat}

lemma csvRow_ok (h : Spells d w) : ∃ row, csvRow color (.int id) (.dict d) = .ok row ∧
    row.map numberOf = (rowNumbers color id w).map some := by
  obtain ⟨time, htime, hntime⟩ := Option.bind_eq_some_iff.mp h.time
  obtain ⟨x, hx, hnx⟩ := Option.bind_eq_some_iff.mp h.x
  obtain ⟨y, hy, hny⟩ := Option.bind_eq_some_iff.mp h.y
  obtain ⟨z, hz, hnz⟩ := Option.bind_eq_some_iff.mp h.z
  obtain ⟨yaw, hyaw, hnyaw⟩ := Option.bind_eq_some_iff.mp h.yaw
  have hcoordinates : ["time", "x", "y", "z", "yaw"].mapM (subscript (.dict d)) =
      .ok [time, x, y, z, yaw] := by
    refine mapM_eq_ok.mpr (.cons ?_ (.cons ?_ (.cons ?_ (.cons ?_ (.cons ?_ .nil)))))
    · simp only [subscript, htime]
    · simp only [subscript, hx]
    · simp only [subscript, hy]
    · simp only [subscript, hz]
    · simp only [subscript, hyaw]
  have hint (n : ℤ) : numberOf (.int n : PyVal K) = some (n : K) := rfl
  have hid : numberOf (.int id : PyVal K) = some (id : K) := by rw [hint, Int.cast_natCast]
  cases color with
  | false =>
    refine ⟨.int id :: [time, x, y, z, yaw] ++ [], bind_eq_ok.mpr ⟨_, hcoordinates, rfl⟩, ?_⟩
    simp [rowNumbers, hid, hntime, hnx, hny, hnz, hnyaw]
  | true =>
    have hchannel (key : String) (channel : Option ℤ) (hfind : find d key = channel.map .int) :
        getDefault (.dict d) key (.int 255) = .ok (.int (channel.getD 255)) := by
      rw [getDefault, hfind]
      cases channel <;> rfl
    have hchannels : ["r", "g", "b"].mapM (fun key => getDefault (.dict d) key (.int 255)) =
        .ok [.int (w.r.getD 255), .int (w.g.getD 255), .int (w.b.getD 255)] :=
      mapM_eq_ok.mpr (.cons (hchannel _ _ h.r) (.cons (hchannel _ _ h.g)
        (.cons (hchannel _ _ h.b) .nil)))
    refine ⟨.int id :: [time, x, y, z, yaw] ++ [.int (w.r.getD 255), .int (w.g.getD 255),
      .int (w.b.getD 255)], bind_eq_ok.mpr ⟨_, hcoordinates,
        bind_eq_ok.mpr ⟨_, hchannels, rfl⟩⟩, ?_⟩
    simp [rowNumbers, hid, hint, hntime, hnx, hny, hnz, hnyaw]

lemma waypointsOf_dict {ws : List (PyVal K)} (h : find d "waypoints" = some (.list ws)) :
    waypointsOf (.dict d) = .ok ws := by
  refine bind_eq_ok.mpr ⟨.list ws, ?_, rfl⟩
  rw [getDefault, h]
  rfl

lemma anyOf_eq {α β : Type} {test : α → Except String Bool} {p : β → Bool} {as : List α}
    {bs : List β} (h : List.Forall₂ (fun a b => test a = .ok (p b)) as bs) :
    anyOf test as = .ok (bs.any p) := by
  induction h with
  | nil => rfl
  | @cons a b as bs hab _ ih =>
    refine bind_eq_ok.mpr ⟨p b, hab, ?_⟩
    cases hp : p b with
    | false => simpa [hp] using ih
    | true => simp [hp]

variable {s : Show K}

lemma hasColor_eq {items : List (PyVal K)}
    (h : List.Forall₂ DroneSpells items s.drones) : hasColor items = .ok (lit s) := by
  refine anyOf_eq (h.imp ?_)
  rintro v track ⟨d, ws, rfl, -, hwps, hspelled⟩
  refine bind_eq_ok.mpr ⟨ws, waypointsOf_dict hwps, anyOf_eq (hspelled.imp ?_)⟩
  rintro u w ⟨d, rfl, hw⟩
  rw [isIn, has, hw.r, Option.isSome_map]

def RowSpells (color : Bool) (row : List (PyVal K)) (e : Nat × Waypoint K) : Prop :=
  row.map numberOf = (rowNumbers color e.1 e.2).map some

lemma csvRows_ok {track : Nat × List (Waypoint K)} (h : DroneSpells v track) :
    ∃ rows, csvRows color v = .ok rows ∧
      List.Forall₂ (RowSpells color) rows (track.2.map fun w => (track.1, w)) := by
  obtain ⟨d, ws, rfl, hid, hwps, hspelled⟩ := h
  have hone : List.Forall₂ (fun u e => ∃ row, csvRow color (.int track.1) u = .ok row ∧
      RowSpells color row e) ws (track.2.map fun w => (track.1, w)) := by
    rw [List.forall₂_map_right_iff]
    refine hspelled.imp ?_
    rintro u w ⟨d, rfl, hw⟩
    exact csvRow_ok hw
  obtain ⟨rows, hrows, hspells⟩ := mapM_of_forall₂ hone
  refine ⟨rows, bind_eq_ok.mpr ⟨.int track.1, ?_, bind_eq_ok.mpr ⟨ws, waypointsOf_dict hwps,
    hrows⟩⟩, hspells⟩
  rw [subscript, hid]

lemma csvTable_ok {choreoData : PyDict K} {items : List (PyVal K)}
    (hitems : find choreoData "drones" = some (.list items))
    (h : List.Forall₂ DroneSpells items s.drones) :
    ∃ rows, csvTable choreoData = .ok (csvHeader (lit s), rows) ∧
      List.Forall₂ (RowSpells (lit s)) rows (entries s) := by
  have hone : List.Forall₂ (fun v es => ∃ rows, csvRows (lit s) v = .ok rows ∧
      List.Forall₂ (RowSpells (lit s)) rows es) items
        (s.drones.map fun track => track.2.map fun w => (track.1, w)) := by
    rw [List.forall₂_map_right_iff]
    exact h.imp fun v track hv => csvRows_ok hv
  obtain ⟨rows, hrows, hspells⟩ := mapM_of_forall₂ hone
  refine ⟨rows.flatten, bind_eq_ok.mpr ⟨items, ?_, bind_eq_ok.mpr ⟨lit s, hasColor_eq h,
    bind_eq_ok.mpr ⟨rows, hrows, rfl⟩⟩⟩, ?_⟩
  · rw [hitems]
    rfl
  · rw [entries, List.flatMap_def]
    exact List.rel_flatten hspells

end

/-! ## The table that is read -/

def CellReads (x : K) (cell : Cell K) : Prop :=
  (∃ n : ℤ, (n : K) = x ∧ cell = .int n) ∨ cell = .float x

/-- A table of finite numbers is read back as it was written. -/
def CsvRoundTrips (pandas : Pandas K) (writeCsv : List String → List (List (PyVal K)) → String)
    (header : List String) (rows : List (List (PyVal K))) : Prop :=
  ∀ (numbers : List (List K)) (nrows : ℕ), (∀ ns ∈ numbers, ns.length = header.length) →
    List.Forall₂ (fun row ns => row.map numberOf = ns.map some) rows numbers → rows.length ≤ nrows →
        ∃ frame, pandas.readCsv (writeCsv header rows) nrows = .ok frame ∧
          frame.columns = header ∧ List.Forall₂ (List.Forall₂ CellReads) numbers frame.rows

def RowReads (color : Bool) (e : Nat × Waypoint K) (row : Row K) : Prop :=
  List.Forall₂ CellReads (rowNumbers color e.1 e.2) row

section

variable {color : Bool} {x : K} {cell : Cell K} {row : Row K} {e : Nat × Waypoint K}

namespace CellReads

lemma toFloat_eq (h : CellReads x cell) : toFloat cell.value = .ok (.float x) := by
  rcases h with ⟨n, rfl, rfl⟩ | rfl
  · rfl
  · rfl

lemma key_eq (h : CellReads x cell) : cell.key = some (.number x) := by
  rcases h with ⟨n, rfl, rfl⟩ | rfl
  · rfl
  · rfl

lemma ledValue_eq [FloorRing K] [IsStrictOrderedRing K] {n : ℤ} (h : CellReads (n : K) cell) :
    ledValue cell = some (.int n) := by
  rcases h with ⟨m, hm, rfl⟩ | rfl
  · rw [Int.cast_injective hm]
    rfl
  · rw [ledValue, Int.floor_intCast, if_pos rfl]

end CellReads

variable {i : Nat}

lemma cellAt_reads {ns : List K} (h : List.Forall₂ CellReads ns row)
    (hi : ns[i]? = some x) : CellReads x (cellAt row i) := by
  induction h generalizing i with
  | nil => cases hi
  | @cons y c ns row hc _ ih =>
    cases i with
    | zero =>
      cases hi
      exact hc
    | succ i => exact ih hi

lemma coordinate_eq {name : String} {id : ℤ} [FloorRing K]
    (hcolumn : column (csvHeader color) name "cannot convert the series to <class 'float'>" =
      .ok i) (h : CellReads x (cellAt row i)) :
    coordinate (csvHeader color) id row name = .ok (.float x) := by
  have hread : (do
      let i ← column (csvHeader color) name "cannot convert the series to <class 'float'>"
      toFloat (cellAt row i).value : Except String (PyVal K)) =
      .ok (.float x) := bind_eq_ok.mpr ⟨i, hcolumn, h.toFloat_eq⟩
  rw [coordinate, hread]
  rfl

def csvDict (color : Bool) (w : Waypoint K) : PyDict K :=
  [("time", .float w.time), ("x", .float w.x), ("y", .float w.y), ("z", .float w.z),
    ("yaw", .float w.yaw)] ++
    if color then [("r", .int (w.r.getD 255)), ("g", .int (w.g.getD 255)),
      ("b", .int (w.b.getD 255))]
    else []

variable [FloorRing K] [IsStrictOrderedRing K]

lemma ledEntries_cons {columns : List String} {c : String} {cs : List String} {n : ℤ}
    {rest : PyDict K}
    (hcolumn : column columns c ("The truth value of a Series is ambiguous. " ++
      "Use a.empty, a.bool(), a.item(), a.any() or a.all().") = .ok i)
    (hrest : ledEntries columns row cs = .ok rest) (h : CellReads (n : K) (cellAt row i)) :
    ledEntries columns row (c :: cs) = .ok ((c, .int n) :: rest) := by
  refine bind_eq_ok.mpr ⟨i, hcolumn, bind_eq_ok.mpr ⟨rest, hrest, ?_⟩⟩
  rw [h.ledValue_eq]
  rfl

/-- The waypoint that is read is the one that was written, its missing channels filled. -/
lemma rowWaypoint_eq (h : RowReads color e row) (id : ℤ) :
    rowWaypoint (csvHeader color) id row = .ok (.dict (csvDict color e.2)) := by
  have hread {i : Nat} {x : K} (hi : (rowNumbers color e.1 e.2)[i]? = some x) :
      CellReads x (cellAt row i) := cellAt_reads h hi
  have htime : coordinate (csvHeader color) id row "time" = .ok (.float e.2.time) :=
    coordinate_eq (by cases color <;> decide) (hread (i := 1) rfl)
  have hx : coordinate (csvHeader color) id row "x" = .ok (.float e.2.x) :=
    coordinate_eq (by cases color <;> decide) (hread (i := 2) rfl)
  have hy : coordinate (csvHeader color) id row "y" = .ok (.float e.2.y) :=
    coordinate_eq (by cases color <;> decide) (hread (i := 3) rfl)
  have hz : coordinate (csvHeader color) id row "z" = .ok (.float e.2.z) :=
    coordinate_eq (by cases color <;> decide) (hread (i := 4) rfl)
  have hyaw : coordinate (csvHeader color) id row "yaw" = .ok (.float e.2.yaw) :=
    coordinate_eq (by cases color <;> decide) (hread (i := 5) rfl)
  have hleds : ∃ leds, ledEntries (csvHeader color) row
      (ledChannels.filter (csvHeader color).contains) = .ok leds ∧
        csvDict color e.2 = [("time", .float e.2.time), ("x", .float e.2.x), ("y", .float e.2.y),
          ("z", .float e.2.z), ("yaw", .float e.2.yaw)] ++ leds := by
    cases color with
    | false => exact ⟨[], rfl, rfl⟩
    | true =>
      have hchannels : ledChannels.filter (csvHeader true).contains = ["r", "g", "b"] := by decide
      rw [hchannels]
      exact ⟨_, ledEntries_cons (i := 6) (by decide) (ledEntries_cons (i := 7) (by decide)
        (ledEntries_cons (i := 8) (by decide) rfl (hread rfl)) (hread rfl)) (hread rfl), rfl⟩
  obtain ⟨leds, hleds, hdict⟩ := hleds
  rw [hdict]
  exact bind_eq_ok.mpr ⟨_, htime, bind_eq_ok.mpr ⟨_, hx, bind_eq_ok.mpr ⟨_, hy,
    bind_eq_ok.mpr ⟨_, hz, bind_eq_ok.mpr ⟨_, hyaw, bind_eq_ok.mpr ⟨leds, hleds, rfl⟩⟩⟩⟩⟩⟩

lemma rowKey_eq (h : RowReads color e row) :
    rowKey (csvHeader color) row = some (.number (e.1 : K)) := by
  have hcolumn : (csvHeader color).idxOf "drone_id" = 0 := by cases color <;> decide
  rw [rowKey, hcolumn]
  exact (cellAt_reads h (i := 0) rfl).key_eq

end

/-! ## What the schema makes of the rows -/

def csvWaypoint (color : Bool) (w : Waypoint K) : Waypoint K where
  time := w.time
  x := w.x
  y := w.y
  z := w.z
  yaw := w.yaw
  r := if color then some (w.r.getD 255) else none
  g := if color then some (w.g.getD 255) else none
  b := if color then some (w.b.getD 255) else none

/-- A waypoint that the schema has accepted. -/
structure Valid (w : Waypoint K) : Prop where
  time_nonneg : 0 ≤ w.time
  yaw_nonneg : 0 ≤ w.yaw
  yaw_lt : w.yaw < 360
  led_range : ∀ channel ∈ [w.r, w.g, w.b, w.w], ∀ v ∈ channel, 0 ≤ v ∧ v ≤ 255

lemma load_valid {d : PyDict K} (h : Show.validateAndLoad (.dict d) = .ok s)
    {track : Nat × List (Waypoint K)} (htrack : track ∈ s.drones) :
    track.1 < maxFleetSize ∧ ∀ w ∈ track.2, Valid w := by
  obtain ⟨c, -, rfl⟩ := map_eq_ok.mp h
  obtain ⟨t, -, rfl⟩ := List.mem_map.mp htrack
  refine ⟨t.id_lt, fun w hw => ?_⟩
  obtain ⟨sw, -, rfl⟩ := List.mem_map.mp hw
  exact ⟨sw.time_nonneg, sw.yaw_nonneg, sw.yaw_lt, sw.led_range⟩

lemma Valid.getD_range {w : Waypoint K} (h : Valid w) {channel : Option ℤ}
    (hmem : channel ∈ [w.r, w.g, w.b, w.w]) : 0 ≤ channel.getD 255 ∧ channel.getD 255 ≤ 255 := by
  cases hc : channel with
  | none => decide
  | some v => exact h.led_range channel hmem v (by rw [hc]; rfl)

/-- An accepted waypoint is accepted as a CSV brings it. -/
def csvSchema (color : Bool) (w : Waypoint K) (h : Valid w) : SchemaWaypoint K where
  toWaypoint := csvWaypoint color w
  time_nonneg := h.time_nonneg
  yaw_nonneg := h.yaw_nonneg
  yaw_lt := h.yaw_lt
  led_range := by
    intro channel hc v hv
    cases color with
    | false => simp [csvWaypoint] at hc; subst hc; cases hv
    | true =>
      simp only [csvWaypoint, if_true, List.mem_cons, List.not_mem_nil, or_false] at hc
      rcases hc with rfl | rfl | rfl | rfl
      · cases hv
        exact h.getD_range (by simp)
      · cases hv
        exact h.getD_range (by simp)
      · cases hv
        exact h.getD_range (by simp)
      · cases hv

section Accepted

variable [FloorRing K] [IsStrictOrderedRing K] {color : Bool} {w : Waypoint K} {loc : Loc}

lemma legacyWaypoint_csvDict (h : Valid w) :
    legacyWaypoint (.dict (csvDict color w)) = .dict (csvDict color w) := by
  have hfind : find (csvDict color w) "yaw" = some (.float w.yaw) := by
    simp [csvDict, find]
  have hwrap : legacyWaypoint.wrapYaw w.yaw = w.yaw := by
    have hself : fmod w.yaw 360 = w.yaw := fmod_eq h.yaw_nonneg h.yaw_lt 0 (by simp)
    rw [legacyWaypoint.wrapYaw, hself, if_neg (not_le.mpr h.yaw_lt)]
  simp only [legacyWaypoint, hfind, hwrap, assign_of_find hfind]

variable {α : Type}

lemma required_of_find {d : PyDict K} {key : String} {v : PyVal K} {a : α}
    {check : Loc → PyVal K → Checked SchemaError α} (hfind : find d key = some v)
    (hcheck : check (loc ++ [key]) v = .ok a) : required d loc key check = .ok a := by
  rw [required, hfind]
  exact hcheck

lemma optional_of_none {d : PyDict K} {key : String}
    {check : Loc → PyVal K → Checked SchemaError α} (hfind : find d key = none) :
    optional d loc key check = .ok none := by
  unfold Core.Schema.optional
  rw [hfind]

lemma optional_of_led {d : PyDict K} {key : String} {n : ℤ} (hn : 0 ≤ n ∧ n ≤ 255)
    (hfind : find d key = some (.int n)) :
    optional d loc key ledChannel = .ok (some ⟨n, hn⟩) := by
  have hcheck : ledChannel (loc ++ [key]) (.int n : PyVal K) = .ok ⟨n, hn⟩ :=
    bind_eq_ok.mpr ⟨n, rfl, requireBoth_eq_ok.mpr rfl⟩
  unfold Core.Schema.optional
  rw [hfind]
  exact map_eq_ok.mpr ⟨_, hcheck, rfl⟩

lemma yawFloat_float {x : K} (h : x < 360 ∧ 0 ≤ x) : yawFloat loc (.float x) = .ok ⟨x, h⟩ :=
  bind_eq_ok.mpr ⟨x, rfl, requireBoth_eq_ok.mpr rfl⟩

lemma validateWaypoint_csvDict (h : Valid w) :
    validateWaypoint loc (.dict (csvDict color w)) = .ok (csvSchema color w h) := by
  cases color with
  | false =>
    refine map_eq_ok.mpr ⟨(⟨w.time, h.time_nonneg⟩, w.x, w.y, w.z, ⟨w.yaw, h.yaw_lt, h.yaw_nonneg⟩,
      none, none, none, none, none, none, none), ?_, rfl⟩
    simp only [both_eq_ok]
    exact ⟨required_of_find rfl (nonnegFloat_float h.time_nonneg), required_of_find rfl rfl,
      required_of_find rfl rfl, required_of_find rfl rfl,
      required_of_find rfl (yawFloat_float ⟨h.yaw_lt, h.yaw_nonneg⟩), optional_of_none rfl,
      optional_of_none rfl, optional_of_none rfl, optional_of_none rfl, optional_of_none rfl,
      optional_of_none rfl, optional_of_none rfl⟩
  | true =>
    have hr : 0 ≤ w.r.getD 255 ∧ w.r.getD 255 ≤ 255 := h.getD_range (by simp)
    have hg : 0 ≤ w.g.getD 255 ∧ w.g.getD 255 ≤ 255 := h.getD_range (by simp)
    have hb : 0 ≤ w.b.getD 255 ∧ w.b.getD 255 ≤ 255 := h.getD_range (by simp)
    refine map_eq_ok.mpr ⟨(⟨w.time, h.time_nonneg⟩, w.x, w.y, w.z, ⟨w.yaw, h.yaw_lt, h.yaw_nonneg⟩,
      some ⟨w.r.getD 255, hr⟩, some ⟨w.g.getD 255, hg⟩, some ⟨w.b.getD 255, hb⟩, none, none, none,
      none), ?_, rfl⟩
    simp only [both_eq_ok]
    exact ⟨required_of_find rfl (nonnegFloat_float h.time_nonneg), required_of_find rfl rfl,
      required_of_find rfl rfl, required_of_find rfl rfl,
      required_of_find rfl (yawFloat_float ⟨h.yaw_lt, h.yaw_nonneg⟩), optional_of_led hr rfl,
      optional_of_led hg rfl, optional_of_led hb rfl, optional_of_none rfl, optional_of_none rfl,
      optional_of_none rfl, optional_of_none rfl⟩

lemma listOf_of_forall₂ {γ : Type} {check : Loc → PyVal K → Checked SchemaError α}
    {R : α → γ → Prop} {items : List (PyVal K)} {cs : List γ}
    (h : List.Forall₂ (fun v c => ∀ l, ∃ a, check l v = .ok a ∧ R a c) items cs) :
    ∃ as, listOf check loc (.list items) = .ok as ∧ List.Forall₂ R as cs := by
  suffices hall : ∀ at_ : ℕ → Loc, ∃ as,
      each (items.mapIdx fun i v => check (at_ i) v) = .ok as ∧ List.Forall₂ R as cs from
    hall fun i => loc ++ [toString i]
  induction h with
  | nil => exact fun _ => ⟨[], rfl, .nil⟩
  | @cons v c items cs hv _ ih =>
    intro at_
    obtain ⟨a, ha, hR⟩ := hv (at_ 0)
    obtain ⟨as, has, hrest⟩ := ih fun i => at_ (i + 1)
    refine ⟨a :: as, ?_, .cons hR hrest⟩
    rw [List.mapIdx_cons, each]
    exact map_eq_ok.mpr ⟨(a, as), both_eq_ok.mpr ⟨ha, has⟩, rfl⟩

def legacyTrack (color : Bool) (track : Nat × List (Waypoint K)) : ℤ × PyVal K :=
  ((track.1 : ℤ), .list (track.2.map fun w => .dict (csvDict color w)))

lemma validateDroneTrack_csv {track : Nat × List (Waypoint K)} (hid : track.1 < maxFleetSize)
    (hvalid : ∀ w ∈ track.2, Valid w) {ws : List (PyVal K)}
    (hws : ws = (track.2.map fun w => .dict (csvDict color w)).map legacyWaypoint) :
    ∃ t, validateDroneTrack loc (.dict [("id", .int track.1), ("waypoints", .list ws)]) = .ok t ∧
      (t.id, t.waypoints.map SchemaWaypoint.toWaypoint) =
        (track.1, track.2.map (csvWaypoint color)) := by
  have hrange : (track.1 : ℤ) < (maxFleetSize : ℤ) ∧ 0 ≤ (track.1 : ℤ) :=
    ⟨by exact_mod_cast hid, Int.natCast_nonneg _⟩
  have hdroneId : droneId (loc ++ ["id"]) (.int track.1 : PyVal K) = .ok ⟨track.1, hrange⟩ :=
    bind_eq_ok.mpr ⟨_, rfl, requireBoth_eq_ok.mpr rfl⟩
  have hwps : List.Forall₂ (fun v (w : Waypoint K) => ∀ l, ∃ sw : SchemaWaypoint K,
      validateWaypoint l v = .ok sw ∧ sw.toWaypoint = csvWaypoint color w) ws track.2 := by
    rw [hws, List.map_map, List.forall₂_map_left_iff, List.forall₂_same]
    intro w hw l
    refine ⟨csvSchema color w (hvalid w hw), ?_, rfl⟩
    rw [Function.comp_apply, legacyWaypoint_csvDict (hvalid w hw)]
    exact validateWaypoint_csvDict _
  obtain ⟨sws, hlist, hsame⟩ : ∃ sws,
      listOf validateWaypoint (loc ++ ["waypoints"]) (.list ws) = .ok sws ∧
        List.Forall₂ (fun (sw : SchemaWaypoint K) w => sw.toWaypoint = csvWaypoint color w)
          sws track.2 := listOf_of_forall₂ hwps
  have hidField : required [("id", .int track.1), ("waypoints", .list ws)] loc "id" droneId =
      .ok ⟨track.1, hrange⟩ := required_of_find rfl hdroneId
  have hwpsField : required [("id", .int track.1), ("waypoints", .list ws)] loc "waypoints"
      (listOf validateWaypoint) = .ok sws := required_of_find rfl hlist
  have hboth : both (required [("id", .int track.1), ("waypoints", .list ws)] loc "id" droneId)
      (required [("id", .int track.1), ("waypoints", .list ws)] loc "waypoints"
        (listOf validateWaypoint)) = .ok (⟨track.1, hrange⟩, sws) :=
    both_eq_ok.mpr ⟨hidField, hwpsField⟩
  have hmap : List.Forall₂ (fun a b : Waypoint K => a = b) (sws.map SchemaWaypoint.toWaypoint)
      (track.2.map (csvWaypoint color)) := by
    rw [List.forall₂_map_left_iff, List.forall₂_map_right_iff]
    exact hsame
  rw [validateDroneTrack, hboth]
  refine ⟨_, rfl, ?_⟩
  refine Prod.ext (Int.toNat_natCast track.1) ?_
  rw [List.forall₂_eq_eq_eq] at hmap
  exact hmap

variable (color) in
lemma load_legacy {tracks : List (Nat × List (Waypoint K))} (hnodup : (tracks.map Prod.fst).Nodup)
    (hvalid : ∀ t ∈ tracks, t.1 < maxFleetSize ∧ ∀ w ∈ t.2, Valid w) :
    ∃ s, Show.validateAndLoad (legacyCanonical (tracks.map (legacyTrack color))
        (.int showFormatVersion)) = .ok s ∧
      s.drones = tracks.map fun t => (t.1, t.2.map (csvWaypoint color)) := by
  let items : List (PyVal K) := tracks.map fun t => .dict [("id", .int t.1), ("waypoints",
    .list ((t.2.map fun w => .dict (csvDict color w)).map legacyWaypoint))]
  have hitems : legacyCanonical (tracks.map (legacyTrack color)) (.int showFormatVersion) =
      .dict [("version", .int showFormatVersion), ("drones", .list items)] := by
    rw [legacyCanonical, List.map_map]
    rfl
  have htracks : List.Forall₂ (fun v (t : Nat × List (Waypoint K)) => ∀ l,
      ∃ dt : DroneTrack K, validateDroneTrack l v = .ok dt ∧
        (dt.id, dt.waypoints.map SchemaWaypoint.toWaypoint) =
          (t.1, t.2.map (csvWaypoint color))) items tracks := by
    simp only [items]
    rw [List.forall₂_map_left_iff, List.forall₂_same]
    intro t ht l
    exact validateDroneTrack_csv (hvalid t ht).1 (hvalid t ht).2 rfl
  obtain ⟨dts, hlist, hsame⟩ : ∃ dts,
      listOf validateDroneTrack ["drones"] (.list items) = .ok dts ∧
        List.Forall₂ (fun (dt : DroneTrack K) (t : Nat × List (Waypoint K)) =>
          (dt.id, dt.waypoints.map SchemaWaypoint.toWaypoint) =
            (t.1, t.2.map (csvWaypoint color))) dts tracks := listOf_of_forall₂ htracks
  have hmap : dts.map (fun dt => (dt.id, dt.waypoints.map SchemaWaypoint.toWaypoint)) =
      tracks.map fun t => (t.1, t.2.map (csvWaypoint color)) := by
    rw [← List.forall₂_eq_eq_eq, List.forall₂_map_left_iff, List.forall₂_map_right_iff]
    exact hsame
  have hids : dts.map DroneTrack.id = tracks.map Prod.fst := by
    have h := congrArg (List.map Prod.fst) hmap
    simpa [Function.comp_def] using h
  have hunique : uniqueIds ["drones"] dts = .ok ⟨dts, hids ▸ hnodup⟩ := require_eq_ok.mpr rfl
  have hversion : required [("version", .int showFormatVersion), ("drones", .list items)] []
      "version" versionInt = .ok ⟨showFormatVersion, le_refl _⟩ :=
    required_of_find rfl (bind_eq_ok.mpr ⟨_, rfl, require_eq_ok.mpr rfl⟩)
  have hdrones : required [("version", .int showFormatVersion), ("drones", .list items)] []
      "drones" (fun l v => listOf validateDroneTrack l v >>= uniqueIds l) =
        .ok ⟨dts, hids ▸ hnodup⟩ :=
    required_of_find rfl (bind_eq_ok.mpr ⟨dts, hlist, hunique⟩)
  refine ⟨{ drones := dts.map fun dt => (dt.id, dt.waypoints.map SchemaWaypoint.toWaypoint)
            unique := ?_ }, ?_, hmap⟩
  · rw [List.map_map]
    exact hids ▸ hnodup
  · rw [hitems]
    refine map_eq_ok.mpr ⟨_, map_eq_ok.mpr ⟨(⟨showFormatVersion, le_refl _⟩,
      ⟨dts, hids ▸ hnodup⟩, none, none), ?_, rfl⟩, rfl⟩
    simp only [both_eq_ok]
    exact ⟨hversion, hdrones, optional_of_none rfl, optional_of_none rfl⟩

end Accepted

end Taramandal.Studio.CsvTable
