import Taramandal.Gcs.Gate
import Taramandal.Lib.Ranking

/-! # The CSV adapter (`trajectory_parser.py`, `_parse_csv`)

Reading the file, grouping its rows and ordering a group belong to pandas and
are parameters; what the adapter relies on is that `groupby` partitions the rows
by key value, leaving out rows with a missing key, and that `sort_values` only
reorders. The adapter turns a group's key into a drone id with
`int(float(key))` and stores the group under it, so a fractional key is cut off
and a second key for one id replaces the first one's rows. Whether an accepted
file keeps its rows depends on the spelling of its ids alone
(`WellSpelled`). -/
set_option linter.unusedSectionVars false

namespace Taramandal.Gcs.CsvAdapter

open Lib.Check Lib.Dict Lib.Groups Core.Numbers Core.Values Core.Text Core.Shows Core.Validate
open Gcs.Gate

/-- A cell of the table `read_csv` builds. -/
inductive Cell (K : Type) where
  | missing
  | bool (b : Bool)
  | int (n : ℤ)
  | float (x : K)
  | inf (negative : Bool)
  | text (s : String)

abbrev Row (K : Type) := List (Cell K)

structure Frame (K : Type) where
  columns : List String
  rows : List (Row K)

/-- The value of a key cell, as `groupby` tells keys apart: `1`, `1.0` and
`True` are one key, the text `"1"` is another. -/
inductive Key (K : Type) where
  | number (x : K)
  | inf (negative : Bool)
  | text (s : String)
  deriving DecidableEq

variable {K : Type} [Field K] [LinearOrder K]

def Cell.value : Cell K → PyVal K
  | .missing => .nan
  | .bool b => .bool b
  | .int n => .int n
  | .float x => .float x
  | .inf neg => .inf neg
  | .text s => .str s

def Cell.key : Cell K → Option (Key K)
  | .missing => none
  | .bool b => some (.number (if b then 1 else 0))
  | .int n => some (.number n)
  | .float x => some (.number x)
  | .inf neg => some (.inf neg)
  | .text s => some (.text s)

/-- What the adapter uses of pandas. -/
structure Pandas (K : Type) [Field K] [LinearOrder K] where
  /-- `read_csv(content, nrows=..)`. -/
  readCsv : String → Nat → Except String (Frame K)
  /-- `groupby`, with the key of a row. -/
  groupby : (Row K → Option (Key K)) → List (Row K) → List (Key K × List (Row K))
  groupby_isGrouping : ∀ key rows, IsGrouping key rows (groupby key rows)
  /-- `sort_values`, with the cell of a row that it is ordered by. -/
  sortValues : (Row K → Cell K) → List (Row K) → List (Row K)
  sortValues_perm : ∀ cell rows, (sortValues cell rows).Perm rows

def requiredCols : List String := ["drone_id", "time", "x", "y", "z", "yaw"]

/-- `part in s`. -/
def contains (part s : String) : Bool :=
  s.toList.tails.any fun t => part.toList.isPrefixOf t

/-- `col.lower().strip()`. -/
def normalise (col : String) : String := String.ofList (strip (col.toList.map Char.toLower))

/-- What `col_map` renames a column to. -/
def variation (col : String) : String :=
  if contains "drone" col || contains "id" col then "drone_id"
  else if contains "time" col then "time"
  else col

def csvColumns (header : List String) : Except String (List String) :=
  let columns := header.map normalise
  let columns := if requiredCols.all columns.contains then columns else columns.map variation
  if requiredCols.all columns.contains then .ok columns
  else .error ("CSV is missing one or more required columns: \x7b" ++
    ", ".intercalate (requiredCols.map fun c => "'" ++ c ++ "'") ++ "\x7d. Found: [" ++
    ", ".intercalate (columns.map fun c => "'" ++ c ++ "'") ++ "]")

/-- The place of a column; a label that is not unique selects no single one. -/
def column (columns : List String) (name ambiguous : String) : Except String Nat :=
  if columns.count name = 1 then .ok (columns.idxOf name) else .error ambiguous

def cellAt (row : Row K) (i : Nat) : Cell K := row.getD i .missing

section

variable [FloorRing K]

/-- `float(drone_id)`. -/
def keyFloat : Key K → Except String (PyVal K)
  | .number x => .ok (.float x)
  | .inf neg => .ok (.inf neg)
  | .text s => toFloat (.str s)

def keyStr : Key K → String
  | .number x => floatStr x
  | .inf neg => if neg then "-inf" else "inf"
  | .text s => s

/-- `int(float(drone_id))`; only the overflow of an infinite key is not reworded. -/
def keyId (k : Key K) : Except String ℤ :=
  let invalid e := "Invalid drone ID value: " ++ keyStr k ++ ". Must be a valid integer: " ++ e
  match keyFloat k with
  | .ok (.float x) => .ok (trunc x)
  | .ok (.inf _) => .error "cannot convert float infinity to integer"
  | .ok _ => .error (invalid "cannot convert float NaN to integer")
  | .error e => .error (invalid e)

def coordinate (columns : List String) (id : ℤ) (row : Row K) (name : String) :
    Except String (PyVal K) :=
  (do let i ← column columns name "cannot convert the series to <class 'float'>"
      toFloat (cellAt row i).value).mapError fun e =>
    "Invalid coordinate or float value in row for Drone " ++ toString id ++ ": " ++ e

/-- An LED cell: an empty one leaves the channel out, a whole float is an int. -/
def ledValue : Cell K → Option (PyVal K)
  | .missing => none
  | .float x => some (if (⌊x⌋ : K) = x then .int ⌊x⌋ else .float x)
  | c => some c.value

def ledEntries (columns : List String) (row : Row K) : List String → Except String (PyDict K)
  | [] => .ok []
  | c :: cs => do
    let i ← column columns c ("The truth value of a Series is ambiguous. " ++
      "Use a.empty, a.bool(), a.item(), a.any() or a.all().")
    let rest ← ledEntries columns row cs
    match ledValue (cellAt row i) with
    | none => return rest
    | some v => return (c, v) :: rest

def rowWaypoint (columns : List String) (id : ℤ) (row : Row K) : Except String (PyVal K) := do
  let time ← coordinate columns id row "time"
  let x ← coordinate columns id row "x"
  let y ← coordinate columns id row "y"
  let z ← coordinate columns id row "z"
  let yaw ← coordinate columns id row "yaw"
  let leds ← ledEntries columns row (ledChannels.filter columns.contains)
  return .dict ([("time", time), ("x", x), ("y", y), ("z", z), ("yaw", yaw)] ++ leds)

variable (pandas : Pandas K)

/-- What the loop stores for one group: the drone's id and its waypoints. -/
def groupTrack (columns : List String) (group : Key K × List (Row K)) :
    Except String (ℤ × PyVal K) := do
  let id ← keyId group.1
  let timeCol ← column columns "time" "The column label 'time' is not unique."
  let wps ← (pandas.sortValues (cellAt · timeCol) group.2).mapM (rowWaypoint columns id)
  return (id, .list wps)

def csvDrones (columns : List String) (rows : List (Row K)) :
    Except String (List (ℤ × PyVal K)) := do
  let idCol ← column columns "drone_id" "Grouper for 'drone_id' not 1-dimensional"
  let tracks ← (pandas.groupby (fun r => (cellAt r idCol).key) rows).mapM
    (groupTrack pandas columns)
  return assignAll [] tracks

variable [IsStrictOrderedRing K] [Sqrt K] (tree : KdTree K)

def parseCsv (content : String) : Except String (Show K) := do
  let df ← pandas.readCsv content 100001
  if 100000 < df.rows.length then
    .error "CSV exceeds maximum trajectory row limit (100,000 rows)."
  else do
    let columns ← csvColumns df.columns
    let drones ← csvDrones pandas columns df.rows
    gateShow tree (legacyCanonical drones (.int showFormatVersion))

end

section

variable [FloorRing K]

/-- The drone id a key spells: a whole number, nothing cut off. -/
def wholeId (k : Key K) : Option ℤ :=
  match keyFloat k with
  | .ok (.float x) => if (⌊x⌋ : K) = x then some ⌊x⌋ else none
  | _ => none

section

variable (columns : List String) (row : Row K)

def rowKey : Option (Key K) :=
  (cellAt row (columns.idxOf "drone_id")).key

def rowId : Option ℤ := (rowKey columns row).bind wholeId

def rowNumber (name : String) : Option K :=
  (toFloat (cellAt row (columns.idxOf name)).value).toOption.bind numberOf

def rowCoords : Option (K × K × K × K) := do
  let time ← rowNumber columns row "time"
  let x ← rowNumber columns row "x"
  let y ← rowNumber columns row "y"
  let z ← rowNumber columns row "z"
  return (time, x, y, z)

def rowPoint : Option (ℤ × K × K × K × K) :=
  (rowId columns row).bind fun id => (rowCoords columns row).map fun c => (id, c)

end

/-- The trajectory has one waypoint for each row, and each row's drone, time
and position is the one of its waypoint. -/
def RowsKept (columns : List String) (rows : List (Row K)) (trajectory : Show K) : Prop :=
  ((pointsOf trajectory).map some).Perm (rows.map (rowPoint columns))

/-- Every drone_id cell spells a whole number, and no number is spelled in two
ways. -/
structure WellSpelled (columns : List String) (rows : List (Row K)) : Prop where
  whole : ∀ row ∈ rows, ∃ n, rowId columns row = some n
  one_key : ∀ row ∈ rows, ∀ row' ∈ rows, rowId columns row = rowId columns row' →
    rowKey columns row = rowKey columns row'

variable [IsStrictOrderedRing K]

lemma trunc_of_whole {x : K} (h : (⌊x⌋ : K) = x) : trunc x = ⌊x⌋ := by
  unfold trunc
  split
  · rfl
  · rw [← h, Int.ceil_intCast]
    exact (Int.floor_intCast _).symm

lemma keyId_of_wholeId {k : Key K} {n : ℤ} (h : wholeId k = some n) : keyId k = .ok n := by
  unfold wholeId at h
  split at h
  next x hx =>
    split at h
    next hw =>
      cases h
      simp [keyId, hx, trunc_of_whole hw]
    next => cases h
  next => cases h

end

section Loop

variable [FloorRing K] {pandas : Pandas K} {columns : List String} {rows : List (Row K)}

lemma column_ok {name ambiguous : String} {i : Nat} (h : column columns name ambiguous = .ok i) :
    i = columns.idxOf name := by
  unfold column at h
  split at h
  · exact (Except.ok.inj h).symm
  · cases h

lemma mapError_ok {ε ε' α : Type} {f : ε → ε'} {c : Except ε α} {a : α}
    (h : c.mapError f = .ok a) : c = .ok a := by
  cases c with
  | error e => cases h
  | ok b => exact congrArg _ (Except.ok.inj h)

lemma coordinate_ok {id : ℤ} {row : Row K} {name : String} {v : PyVal K}
    (h : coordinate columns id row name = .ok v) : numberOf v = rowNumber columns row name := by
  obtain ⟨i, hi, hv⟩ := bind_eq_ok.mp (mapError_ok h)
  rw [column_ok hi] at hv
  simp [rowNumber, hv, Except.toOption]

lemma rowWaypoint_coords {id : ℤ} {row : Row K} {wp : PyVal K}
    (h : rowWaypoint columns id row = .ok wp) : coordsOf wp = rowCoords columns row := by
  obtain ⟨time, ht, h⟩ := bind_eq_ok.mp h
  obtain ⟨x, hx, h⟩ := bind_eq_ok.mp h
  obtain ⟨y, hy, h⟩ := bind_eq_ok.mp h
  obtain ⟨z, hz, h⟩ := bind_eq_ok.mp h
  obtain ⟨yaw, _, h⟩ := bind_eq_ok.mp h
  obtain ⟨leds, _, h⟩ := bind_eq_ok.mp h
  cases h
  simp [coordsOf, rowCoords, find, coordinate_ok ht, coordinate_ok hx, coordinate_ok hy,
    coordinate_ok hz]

lemma rowWaypoints_points {id : ℤ} {rs : List (Row K)} {wps : List (PyVal K)}
    (h : List.Forall₂ (fun r wp => rowWaypoint columns id r = .ok wp) rs wps) :
    wps.map (fun wp => (coordsOf wp).map fun c => (id, c)) =
      rs.map fun r => (rowCoords columns r).map fun c => (id, c) := by
  induction h with
  | nil => rfl
  | cons hr _ ih => simp [rowWaypoint_coords hr, ih]

def trackSize : PyVal K → Nat
  | .list wps => wps.length
  | _ => 0

lemma length_rawPoints (drones : List (ℤ × PyVal K)) :
    (rawPoints drones).length = weight trackSize drones := by
  induction drones with
  | nil => rfl
  | cons e drones ih =>
    rw [weight_cons, ← ih, rawPoints, List.flatMap_cons, List.length_append]
    congr 1
    obtain ⟨id, v⟩ := e
    cases v <;> simp [trackSize]

lemma groupTrack_ok {g : Key K × List (Row K)} {t : ℤ × PyVal K}
    (h : groupTrack pandas columns g = .ok t) :
    keyId g.1 = .ok t.1 ∧ trackSize t.2 = g.2.length ∧
      (rawPoints [t]).Perm (g.2.map fun r => (rowCoords columns r).map fun c => (t.1, c)) := by
  obtain ⟨id, hid, h⟩ := bind_eq_ok.mp h
  obtain ⟨timeCol, _, h⟩ := bind_eq_ok.mp h
  obtain ⟨wps, hwps, h⟩ := bind_eq_ok.mp h
  cases h
  have hall := mapM_eq_ok.mp hwps
  have hperm := pandas.sortValues_perm (cellAt · timeCol) g.2
  refine ⟨hid, by simpa [trackSize] using hall.length_eq.symm.trans hperm.length_eq, ?_⟩
  simpa [rawPoints, rowWaypoints_points hall] using hperm.map fun r =>
    (rowCoords columns r).map fun c => (id, c)

section

variable {groups : List (Key K × List (Row K))} {tracks : List (ℤ × PyVal K)}
  (h : List.Forall₂ (fun g t => groupTrack pandas columns g = .ok t) groups tracks)
include h

lemma groupTracks_points (hpoint : ∀ g ∈ groups, ∀ r ∈ g.2, ∀ id, keyId g.1 = .ok id → rowId columns r = some id) :
    (rawPoints tracks).Perm ((groups.flatMap Prod.snd).map (rowPoint columns)) := by
  induction h with
  | nil => simp [rawPoints]
  | @cons g t groups tracks hg _ ih =>
    obtain ⟨hid, _, hperm⟩ := groupTrack_ok hg
    have hrest := ih fun g' hg' => hpoint g' (List.mem_cons_of_mem _ hg')
    rw [List.flatMap_cons, List.map_append]
    have hcons : rawPoints (t :: tracks) = rawPoints [t] ++ rawPoints tracks := by simp [rawPoints]
    rw [hcons]
    refine (hperm.trans (List.Perm.of_eq (List.map_congr_left fun r hr => ?_))).append hrest
    simp [rowPoint, hpoint g (List.mem_cons_self ..) r hr t.1 hid]

lemma groupTracks_weight : weight trackSize tracks = (groups.flatMap Prod.snd).length := by
  induction h with
  | nil => rfl
  | @cons g t groups tracks hg _ ih =>
    rw [weight_cons, ih, (groupTrack_ok hg).2.1, List.flatMap_cons, List.length_append]

end

/-! ## Which files keep their rows -/

variable {drones : List (ℤ × PyVal K)} {trajectory : Show K}

lemma csvDrones_ok (h : csvDrones pandas columns rows = .ok drones) :
    ∃ groups tracks, IsGrouping (rowKey columns) rows groups ∧
      List.Forall₂ (fun g t => groupTrack pandas columns g = .ok t) groups tracks ∧
      drones = assignAll [] tracks := by
  obtain ⟨idCol, hcol, h⟩ := bind_eq_ok.mp h
  obtain ⟨tracks, htracks, h⟩ := bind_eq_ok.mp h
  cases h
  refine ⟨_, tracks, ?_, mapM_eq_ok.mp htracks, rfl⟩
  rw [column_ok hcol]
  exact pandas.groupby_isGrouping (rowKey columns) rows

variable [IsStrictOrderedRing K] {groups : List (Key K × List (Row K))}
  {tracks : List (ℤ × PyVal K)}

lemma group_whole (hg : IsGrouping (rowKey columns) rows groups)
    (hwhole : ∀ row ∈ rows, ∃ n, rowId columns row = some n) {e : Key K × List (Row K)}
    (he : e ∈ groups) : ∃ n, wholeId e.1 = some n := by
  obtain ⟨r, hr⟩ := List.exists_mem_of_ne_nil _ (hg.ne_nil_of_mem he)
  obtain ⟨hmem, hk⟩ := hg.key_of_mem he hr
  obtain ⟨n, hn⟩ := hwhole r hmem
  exact ⟨n, by simpa [rowId, hk] using hn⟩

lemma track_ids (ht : List.Forall₂ (fun g t => groupTrack pandas columns g = .ok t) groups tracks)
    (hw : ∀ e ∈ groups, ∃ n, wholeId e.1 = some n) :
    (tracks.map Prod.fst).map some = (groups.map Prod.fst).map wholeId := by
  induction ht with
  | nil => rfl
  | @cons g t groups tracks hgt _ ih =>
    obtain ⟨n, hn⟩ := hw g (List.mem_cons_self ..)
    have hid := (groupTrack_ok hgt).1
    rw [keyId_of_wholeId hn] at hid
    have hrest := ih fun e he => hw e (List.mem_cons_of_mem _ he)
    simp only [List.map_cons, hn, Except.ok.inj hid, hrest]

section

variable (hg : IsGrouping (rowKey columns) rows groups)
  (ht : List.Forall₂ (fun g t => groupTrack pandas columns g = .ok t) groups tracks)
include hg ht

/-- Where every id is whole, the groups have ids of their own exactly when no
id is spelled in two ways. -/
lemma nodup_ids_iff (hwhole : ∀ row ∈ rows, ∃ n, rowId columns row = some n) :
    (tracks.map Prod.fst).Nodup ↔ ∀ row ∈ rows, ∀ row' ∈ rows,
      rowId columns row = rowId columns row' → rowKey columns row = rowKey columns row' := by
  have hids := track_ids ht fun e he => group_whole hg hwhole he
  have hsome := List.nodup_map_iff (f := some) (Option.some_injective ℤ) (l := tracks.map Prod.fst)
  rw [← hsome, hids]
  constructor
  · intro hn row hr row' hr' he
    obtain ⟨n, hid⟩ := hwhole row hr
    obtain ⟨k, hk, hw⟩ := Option.bind_eq_some_iff.mp hid
    obtain ⟨k', hk', hw'⟩ := Option.bind_eq_some_iff.mp (he ▸ hid)
    obtain ⟨g, hmem⟩ := hg.exists_of_mem hr hk
    obtain ⟨g', hmem'⟩ := hg.exists_of_mem hr' hk'
    have hkk : k = k' := List.inj_on_of_nodup_map hn (List.mem_map_of_mem hmem)
      (List.mem_map_of_mem hmem') (hw.trans hw'.symm)
    rw [hk, hk', hkk]
  · intro hone
    refine List.Nodup.map_on (fun k hk k' hk' he => ?_) hg.nodup
    obtain ⟨⟨k, g⟩, hm, rfl⟩ := List.mem_map.mp hk
    obtain ⟨⟨k', g'⟩, hm', rfl⟩ := List.mem_map.mp hk'
    obtain ⟨r, hr⟩ := List.exists_mem_of_ne_nil _ (hg.ne_nil_of_mem hm)
    obtain ⟨r', hr'⟩ := List.exists_mem_of_ne_nil _ (hg.ne_nil_of_mem hm')
    obtain ⟨hrow, hrk⟩ := hg.key_of_mem hm hr
    obtain ⟨hrow', hrk'⟩ := hg.key_of_mem hm' hr'
    have := hone r hrow r' hrow' (by simpa [rowId, hrk, hrk'] using he)
    rw [hrk, hrk'] at this
    exact Option.some.inj this

lemma trackSize_pos : ∀ t ∈ tracks, 0 < trackSize t.2 := by
  have hne : ∀ e ∈ groups, e.2 ≠ [] := fun e he => hg.ne_nil_of_mem he
  clear hg
  induction ht with
  | nil => simp
  | @cons g t groups tracks hgt _ ih =>
    intro u hu
    rcases List.mem_cons.mp hu with rfl | hu
    · rw [(groupTrack_ok hgt).2.1]
      exact List.length_pos_iff.mpr (hne g (List.mem_cons_self ..))
    · exact ih (fun e he => hne e (List.mem_cons_of_mem _ he)) u hu

end

lemma RowsKept.whole (h : RowsKept columns rows trajectory) :
    ∀ row ∈ rows, ∃ n, rowId columns row = some n := by
  intro row hr
  have hm := h.mem_iff.mpr (List.mem_map_of_mem (f := rowPoint columns) hr)
  obtain ⟨p, _, hp⟩ := List.mem_map.mp hm
  obtain ⟨n, hn, _⟩ := Option.bind_eq_some_iff.mp hp.symm
  exact ⟨n, hn⟩

lemma rowsKept_iff_wellSpelled [Sqrt K] {tree : KdTree K}
    (hd : csvDrones pandas columns rows = .ok drones)
    (h : gateShow tree (legacyCanonical drones (.int showFormatVersion)) = .ok trajectory) :
    RowsKept columns rows trajectory ↔ WellSpelled columns rows := by
  obtain ⟨groups, tracks, hg, ht, rfl⟩ := csvDrones_ok hd
  have hraw := gateShow_legacy_points h
  constructor
  · intro hkept
    refine ⟨hkept.whole, (nodup_ids_iff hg ht hkept.whole).mp ?_⟩
    -- there are as many points as rows, so no group has replaced another
    by_contra hdup
    have hpos : ∀ e ∈ [] ++ tracks, 0 < trackSize e.2 := by simpa using trackSize_pos hg ht
    have hlt := weight_assignAll_lt hpos (by simpa using hdup) (by simp)
    have hlen := (hkept.symm.trans hraw).length_eq
    have hle := List.length_filter_le (fun r => (rowKey columns r).isSome) rows
    rw [length_rawPoints, List.length_map] at hlen
    rw [← hg.perm.length_eq, ← groupTracks_weight ht] at hle
    have h0 : weight trackSize ([] : Dict ℤ (PyVal K)) = 0 := rfl
    omega
  · intro hspell
    have hnodup := (nodup_ids_iff hg ht hspell.whole).mpr hspell.one_key
    have hassign : assignAll [] tracks = tracks := assignAll_of_nodup hnodup
    rw [hassign] at hraw
    refine hraw.trans ((groupTracks_points ht fun e he r hr id hid => ?_).trans ?_)
    · obtain ⟨hmem, hk⟩ := hg.key_of_mem he hr
      obtain ⟨n, hn⟩ := hspell.whole r hmem
      have hw : wholeId e.1 = some n := by simpa [rowId, hk] using hn
      rw [keyId_of_wholeId hw] at hid
      rw [← Except.ok.inj hid, hn]
    · refine hg.perm.trans (List.Perm.of_eq (List.filter_eq_self.mpr fun r hr => ?_)) |>.map _
      obtain ⟨n, hn⟩ := hspell.whole r hr
      obtain ⟨k, hk, _⟩ := Option.bind_eq_some_iff.mp hn
      simp [hk]

/-- An accepted CSV keeps every row, each exactly once, if and only if every
drone_id cell spells a whole number and no number is spelled in two ways. -/
theorem parseCsv_rowsKept_iff [Sqrt K] {tree : KdTree K} {content : String} {df : Frame K}
    {trajectory : Show K} (hdf : pandas.readCsv content 100001 = .ok df)
    (hcols : csvColumns df.columns = .ok columns)
    (h : parseCsv pandas tree content = .ok trajectory) :
    RowsKept columns df.rows trajectory ↔ WellSpelled columns df.rows := by
  obtain ⟨df', hdf', h⟩ := bind_eq_ok.mp h
  cases hdf.symm.trans hdf'
  split at h
  · cases h
  obtain ⟨columns', hcols', h⟩ := bind_eq_ok.mp h
  cases hcols.symm.trans hcols'
  obtain ⟨drones, hdrones, hgate⟩ := bind_eq_ok.mp h
  exact rowsKept_iff_wellSpelled hdrones hgate

/-- Pandas on a file that reads as a given table, for tables whose groups have
one row each. -/
def pandasReading (df : Frame ℚ) : Pandas ℚ where
  readCsv _ _ := .ok df
  groupby := groupRows
  groupby_isGrouping := groupRows_isGrouping
  sortValues _ rows := rows
  sortValues_perm _ rows := List.Perm.refl rows

/-- `drone_id,time,x,y,z,yaw` over one row each for the drones of `ids`, three
metres apart. -/
def rowsOf (ids : List (Cell ℚ)) : Frame ℚ where
  columns := requiredCols
  rows := ids.mapIdx fun i id => [id, .int 0, .int (3 * i), .int 0, .int (-2), .int 0]

theorem parseCsv_rowsKept_two_drones :
    ∃ trajectory, parseCsv (pandasReading (rowsOf [.int 0, .int 1])) bruteForce "" = .ok trajectory ∧
      RowsKept requiredCols (rowsOf [.int 0, .int 1]).rows trajectory := by
  have hok : (parseCsv (pandasReading (rowsOf [.int 0, .int 1])) bruteForce "").isOk := by
    decide +kernel
  cases h : parseCsv (pandasReading (rowsOf [.int 0, .int 1])) bruteForce "" with
  | error e => rw [h] at hok; cases hok
  | ok trajectory =>
    have hwhole : ∀ row ∈ (rowsOf [.int 0, .int 1]).rows, (rowId requiredCols row).isSome := by
      decide +kernel
    exact ⟨trajectory, rfl, (parseCsv_rowsKept_iff rfl rfl h).mpr
      ⟨fun row hr => Option.isSome_iff_exists.mp (hwhole row hr), by decide +kernel⟩⟩

/-- Drones `0` and `0.5` of an accepted file are one drone, with one of the two
rows. -/
theorem parseCsv_loses_row :
    ∃ trajectory, parseCsv (pandasReading (rowsOf [.float 0, .float (1 / 2)])) bruteForce "" =
      .ok trajectory ∧
        ¬ RowsKept requiredCols (rowsOf [.float 0, .float (1 / 2)]).rows trajectory := by
  have hok : (parseCsv (pandasReading (rowsOf [.float 0, .float (1 / 2)])) bruteForce "").isOk := by
    decide +kernel
  cases h : parseCsv (pandasReading (rowsOf [.float 0, .float (1 / 2)])) bruteForce "" with
  | error e => rw [h] at hok; cases hok
  | ok trajectory =>
    have hpart : ¬ ∀ row ∈ (rowsOf [.float 0, .float (1 / 2)]).rows,
        (rowId requiredCols row).isSome := by
      decide +kernel
    exact ⟨trajectory, rfl, fun hkept =>
      hpart fun row hr => Option.isSome_iff_exists.mpr (hkept.whole row hr)⟩

end Loop

end Taramandal.Gcs.CsvAdapter
