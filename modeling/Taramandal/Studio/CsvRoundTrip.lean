import Taramandal.Core.CleanSweep
import Taramandal.Studio.CsvTable

/-! # A show by way of CSV and by way of JSON

The rows of a drone come back in some order of their times: `sort_values` is not promised to be
stable, so any order that the times allow may be the one that is read. -/
set_option linter.unusedSectionVars false

namespace Taramandal.Studio.CsvRoundTrip

open Lib.Check Lib.Dict Lib.Groups Core.Numbers Core.Values Core.Geometry Core.Safety
open Core.Shows Core.Validate Core.CleanShows Gcs.Gate Gcs.CsvAdapter Gcs.TrajectoryParser
open Studio.Exporter Studio.CsvTable

variable {K : Type} [Field K] [LinearOrder K]

/-! ## Sorting by a column of numbers -/

/-- A `sort_values`: what it orders is the numbers of a column. -/
structure ColumnSort (K : Type) [Field K] [LinearOrder K] where
  sort : (Row K → Cell K) → List (Row K) → List (Row K)
  perm : ∀ cell rows, (sort cell rows).Perm rows
  ordered : ∀ cell rows, (∀ r ∈ rows, (numberOf (cell r).value).isSome) →
    (sort cell rows).Pairwise fun a b =>
      ∀ x ∈ numberOf (cell a).value, ∀ y ∈ numberOf (cell b).value, x ≤ y

def sortedBy (pandas : Pandas K) (sort : ColumnSort K) : Pandas K where
  readCsv := pandas.readCsv
  groupby := pandas.groupby
  groupby_isGrouping := pandas.groupby_isGrouping
  sortValues := sort.sort
  sortValues_perm := sort.perm

deriving instance DecidableEq for Cell

def sortKey (c : Cell K) : K := (numberOf c.value).getD 0

lemma find?_orderedInsert {α : Type} {le : α → α → Prop} [DecidableRel le] {p : α → Bool}
    {a : α} {l : List α} (ha : p a) (h : ∀ b, p b → le a b) :
    (l.orderedInsert le a).find? p = some a := by
  induction l with
  | nil => exact List.find?_cons_of_pos ha
  | cons b l ih =>
    rw [List.orderedInsert_cons]
    by_cases hab : le a b
    · rw [if_pos hab]
      exact List.find?_cons_of_pos ha
    · rw [if_neg hab, List.find?_cons_of_neg fun hb => hab (h b hb)]
      exact ih

lemma find?_of_forall₂ {α β : Type} {R : α → β → Prop} {p : α → Bool} {q : β → Bool}
    {as : List α} {bs : List β} {a : α} (h : List.Forall₂ R as bs)
    (htest : ∀ a b, R a b → p a = q b) (ha : as.find? p = some a) :
    ∃ b, bs.find? q = some b ∧ R a b := by
  induction h with
  | nil => cases ha
  | @cons a' b as bs hone _ ih =>
    cases hp : p a' with
    | true =>
      rw [List.find?_cons_of_pos hp] at ha
      cases ha
      exact ⟨b, List.find?_cons_of_pos (htest a b hone ▸ hp), hone⟩
    | false =>
      rw [List.find?_cons_of_neg (by rw [hp]; exact Bool.false_ne_true)] at ha
      rw [List.find?_cons_of_neg (by rw [← htest a' b hone, hp]; exact Bool.false_ne_true)]
      exact ih ha

/-- A sort that has one row come first among those that it ties with. -/
def firstSort (r : Row K) : ColumnSort K where
  sort cell rows := (if r ∈ rows then r :: rows.erase r else rows).insertionSort fun a b =>
    sortKey (cell a) ≤ sortKey (cell b)
  perm cell rows := by
    refine (List.perm_insertionSort _ _).trans ?_
    split
    next hr => exact (List.perm_cons_erase hr).symm
    next => exact .refl rows
  ordered cell rows _ := by
    have htotal : Std.Total fun a b : Row K => sortKey (cell a) ≤ sortKey (cell b) :=
      ⟨fun a b => le_total _ _⟩
    have htrans : IsTrans (Row K) fun a b => sortKey (cell a) ≤ sortKey (cell b) :=
      ⟨fun a b c => le_trans⟩
    refine (List.pairwise_insertionSort _ _).imp fun {a b} hab x hx y hy => ?_
    rwa [sortKey, sortKey, hx, hy] at hab

lemma firstSort_find {r : Row K} {rows : List (Row K)} (hr : r ∈ rows) (cell : Row K → Cell K) :
    ((firstSort r).sort cell rows).find? (fun q => sortKey (cell q) = sortKey (cell r)) =
      some r := by
  simp only [firstSort, if_pos hr, List.insertionSort_cons]
  refine find?_orderedInsert (decide_eq_true rfl) fun b hb => ?_
  exact (of_decide_eq_true hb).ge

section

variable {color : Bool} {s : Show K} {rows : List (Row K)} {d : Nat × List (Waypoint K)}

def rowsOfDrone (color : Bool) (rows : List (Row K)) (id : Nat) : List (Row K) :=
  rows.filter fun r => rowKey (csvHeader color) r = some (.number (id : K))

lemma filter_entries {drones : List (Nat × List (Waypoint K))}
    (hnodup : (drones.map Prod.fst).Nodup) (hd : d ∈ drones) :
    (drones.flatMap fun d => d.2.map fun w => (d.1, w)).filter (fun e => e.1 = d.1) =
      d.2.map fun w => (d.1, w) := by
  induction drones with
  | nil => cases hd
  | cons a drones ih =>
    obtain ⟨hnew, hnodup⟩ := List.nodup_cons.mp hnodup
    rw [List.flatMap_cons, List.filter_append]
    rcases List.mem_cons.mp hd with rfl | hd
    · have hall : (d.2.map fun w => (d.1, w)).filter (fun e => e.1 = d.1) =
          d.2.map fun w => (d.1, w) := by
        refine List.filter_eq_self.mpr fun e he => ?_
        obtain ⟨w, -, rfl⟩ := List.mem_map.mp he
        exact decide_eq_true rfl
      have hnone : (drones.flatMap fun d => d.2.map fun w => (d.1, w)).filter
          (fun e => e.1 = d.1) = [] := by
        refine List.filter_eq_nil_iff.mpr fun e he hid => hnew ?_
        obtain ⟨b, hb, he⟩ := List.mem_flatMap.mp he
        obtain ⟨w, -, rfl⟩ := List.mem_map.mp he
        rw [← of_decide_eq_true hid]
        exact List.mem_map_of_mem hb
      rw [hall, hnone, List.append_nil]
    · have hne : a.1 ≠ d.1 := fun h => hnew (h ▸ List.mem_map_of_mem hd)
      have hnone : (a.2.map fun w => (a.1, w)).filter (fun e => e.1 = d.1) = [] := by
        refine List.filter_eq_nil_iff.mpr fun e he hid => hne ?_
        obtain ⟨w, -, rfl⟩ := List.mem_map.mp he
        exact of_decide_eq_true hid
      rw [hnone, List.nil_append]
      exact ih hnodup hd

variable [FloorRing K] [IsStrictOrderedRing K]

lemma rowsOfDrone_reads (h : List.Forall₂ (RowReads color) (entries s) rows) (hd : d ∈ s.drones) :
    List.Forall₂ (fun row w => RowReads color (d.1, w) row) (rowsOfDrone color rows d.1) d.2 := by
  have hsame : ∀ ⦃e : Nat × Waypoint K⦄ ⦃row : Row K⦄, RowReads color e row →
      ((decide (e.1 = d.1) = true) ↔
        (decide (rowKey (csvHeader color) row = some (.number (d.1 : K))) = true)) := by
    intro e row he
    rw [rowKey_eq he]
    simp
  have hfiltered := List.rel_filter hsame h
  rw [entries, filter_entries s.unique hd, List.forall₂_map_left_iff] at hfiltered
  exact hfiltered.flip

lemma cell_number {x : K} {cell : Cell K} (h : CellReads x cell) :
    numberOf cell.value = some x := by
  rcases h with ⟨n, rfl, rfl⟩ | rfl
  · rfl
  · rfl

lemma time_of_row {e : Nat × Waypoint K} {row : Row K} (h : RowReads color e row) :
    numberOf (cellAt row 1).value = some e.2.time :=
  cell_number (cellAt_reads h (i := 1) rfl)

lemma sorted_reads (sort : ColumnSort K) {id : Nat} {grp : List (Row K)} {ws : List (Waypoint K)}
    (h : List.Forall₂ (fun row w => RowReads color (id, w) row) grp ws) :
    ∃ us, us.Perm ws ∧ TimeOrdered us ∧
      List.Forall₂ (fun row w => RowReads color (id, w) row) (sort.sort (cellAt · 1) grp) us := by
  obtain ⟨us, hus, hperm⟩ := List.perm_comp_forall₂ (sort.perm (cellAt · 1) grp) h
  have hnumbers : ∀ r ∈ grp, (numberOf (cellAt r 1).value).isSome := by
    intro r hr
    obtain ⟨w, -, hw⟩ := exists_of_forall₂ h.flip hr
    rw [time_of_row hw]
    rfl
  have hsorted := sort.ordered (cellAt · 1) grp hnumbers
  refine ⟨us, hperm, ?_, hus⟩
  clear hperm
  generalize sort.sort (cellAt · 1) grp = rs at hus hsorted
  induction hus with
  | nil => exact List.Pairwise.nil
  | @cons r w rs us hr hrs ih =>
    obtain ⟨hfirst, hsorted⟩ := List.pairwise_cons.mp hsorted
    refine List.Pairwise.cons (fun u hu => ?_) (ih hsorted)
    obtain ⟨q, hq, hread⟩ := exists_of_forall₂ hrs hu
    exact hfirst q hq _ (time_of_row hr) _ (time_of_row hread)

end

section Tracks

variable {color : Bool} {s : Show K} {rows : List (Row K)} {pandas : Pandas K}

/-- The track of a drone as it is read: its waypoints in the order of the sorted rows. -/
structure ReadAs (sort : ColumnSort K) (color : Bool) (rows : List (Row K))
    (track d : Nat × List (Waypoint K)) : Prop where
  id_eq : track.1 = d.1
  perm : track.2.Perm d.2
  ordered : TimeOrdered track.2
  reads : List.Forall₂ (fun row w => RowReads color (d.1, w) row)
    (sort.sort (cellAt · 1) (rowsOfDrone color rows d.1)) track.2

lemma ids_of_readAs {sort : ColumnSort K} {tracks drones : List (Nat × List (Waypoint K))}
    (h : List.Forall₂ (ReadAs sort color rows) tracks drones) :
    tracks.map Prod.fst = drones.map Prod.fst := by
  induction h with
  | nil => rfl
  | cons hone _ ih => rw [List.map_cons, List.map_cons, hone.id_eq, ih]

variable [FloorRing K] [IsStrictOrderedRing K]

lemma mem_entries {e : Nat × Waypoint K} :
    e ∈ entries s ↔ ∃ d ∈ s.drones, d.1 = e.1 ∧ e.2 ∈ d.2 := by
  rw [entries, List.mem_flatMap]
  constructor
  · rintro ⟨d, hd, he⟩
    obtain ⟨w, hw, rfl⟩ := List.mem_map.mp he
    exact ⟨d, hd, rfl, hw⟩
  · rintro ⟨d, hd, hid, hw⟩
    exact ⟨d, hd, List.mem_map.mpr ⟨e.2, hw, Prod.ext hid rfl⟩⟩

lemma groups_perm {groups : List (Key K × List (Row K))}
    (h : List.Forall₂ (RowReads color) (entries s) rows) (hne : ∀ d ∈ s.drones, d.2 ≠ [])
    (hg : IsGrouping (rowKey (csvHeader color)) rows groups) :
    groups.Perm (s.drones.map fun d => (.number (d.1 : K), rowsOfDrone color rows d.1)) := by
  have hkeys : (s.drones.map fun d => (.number (d.1 : K) : Key K)).Nodup := by
    have hinj : Function.Injective fun n : Nat => (.number (n : K) : Key K) := by
      intro m n hmn
      exact Nat.cast_injective (Key.number.inj hmn)
    have hmap := (List.nodup_map_iff hinj).mpr s.unique
    rwa [List.map_map] at hmap
  have hdrones : (s.drones.map fun d =>
      ((.number (d.1 : K), rowsOfDrone color rows d.1) : Key K × List (Row K))).Nodup := by
    refine List.Nodup.of_map Prod.fst ?_
    rwa [List.map_map]
  refine (List.perm_ext_iff_of_nodup (List.Nodup.of_map _ hg.nodup) hdrones).mpr fun e => ?_
  rw [hg.mem_iff e.1 e.2, List.mem_map]
  constructor
  · rintro ⟨⟨r, hr, hkey⟩, hrows⟩
    obtain ⟨en, hen, hread⟩ := exists_of_forall₂ h hr
    obtain ⟨d, hd, hid, -⟩ := mem_entries.mp hen
    rw [rowKey_eq hread, ← hid] at hkey
    refine ⟨d, hd, Prod.ext (Option.some.inj hkey) ?_⟩
    rw [hrows, ← Option.some.inj hkey]
    rfl
  · rintro ⟨d, hd, rfl⟩
    obtain ⟨w, hw⟩ := List.exists_mem_of_ne_nil _ (hne d hd)
    obtain ⟨r, hr, hread⟩ := exists_of_forall₂ h.flip
      ((mem_entries (e := (d.1, w))).mpr ⟨d, hd, rfl, hw⟩)
    exact ⟨⟨r, hr, rowKey_eq hread⟩, rfl⟩

lemma keyId_nat (n : Nat) : keyId (.number (n : K)) = .ok (n : ℤ) := by
  refine keyId_of_wholeId ?_
  have hfloor : ⌊(n : K)⌋ = (n : ℤ) := Int.floor_natCast n
  rw [wholeId, keyFloat]
  simp only [hfloor, Int.cast_natCast, if_true]

variable (pandas) in
lemma groupTrack_reads (sort : ColumnSort K) {d : Nat × List (Waypoint K)}
    (h : List.Forall₂ (RowReads color) (entries s) rows) (hd : d ∈ s.drones) :
    ∃ t, groupTrack (sortedBy pandas sort) (csvHeader color)
        (.number (d.1 : K), rowsOfDrone color rows d.1) = .ok (legacyTrack color t) ∧
      ReadAs sort color rows t d := by
  obtain ⟨us, hperm, hordered, hreads⟩ := sorted_reads sort (rowsOfDrone_reads h hd)
  refine ⟨(d.1, us), ?_, rfl, hperm, hordered, hreads⟩
  have hcolumn : column (csvHeader color) "time" "The column label 'time' is not unique." =
      .ok 1 := by
    cases color <;> decide
  have hrows : ((sortedBy pandas sort).sortValues (cellAt · 1) (rowsOfDrone color rows d.1)).mapM
      (rowWaypoint (csvHeader color) (d.1 : ℤ)) =
        .ok (us.map fun w => .dict (csvDict color w)) := by
    refine mapM_eq_ok.mpr ?_
    rw [List.forall₂_map_right_iff]
    exact hreads.imp fun row w hread => rowWaypoint_eq hread _
  exact bind_eq_ok.mpr ⟨_, keyId_nat d.1, bind_eq_ok.mpr ⟨1, hcolumn, bind_eq_ok.mpr
    ⟨_, hrows, rfl⟩⟩⟩

variable (pandas) in
lemma csvDrones_reads (sort : ColumnSort K)
    (h : List.Forall₂ (RowReads color) (entries s) rows) (hne : ∀ d ∈ s.drones, d.2 ≠ []) :
    ∃ tracks drones, csvDrones (sortedBy pandas sort) (csvHeader color) rows =
        .ok (tracks.map (legacyTrack color)) ∧ drones.Perm s.drones ∧
      List.Forall₂ (ReadAs sort color rows) tracks drones := by
  have hcolumn : column (csvHeader color) "drone_id" "Grouper for 'drone_id' not 1-dimensional" =
      .ok 0 := by
    cases color <;> decide
  have hplace : (csvHeader color).idxOf "drone_id" = 0 := by cases color <;> decide
  have hgrouping := pandas.groupby_isGrouping (rowKey (csvHeader color)) rows
  have hgroups := groups_perm h hne hgrouping
  obtain ⟨drones, hsame, hperm⟩ : ∃ drones, List.Forall₂
      (fun g d => g = (.number (d.1 : K), rowsOfDrone color rows d.1))
        (pandas.groupby (rowKey (csvHeader color)) rows) drones ∧ drones.Perm s.drones := by
    refine List.perm_comp_forall₂ hgroups ?_
    rw [List.forall₂_map_left_iff, List.forall₂_same]
    exact fun d _ => rfl
  have hone : List.Forall₂ (fun g d => ∃ u, groupTrack (sortedBy pandas sort) (csvHeader color) g =
      .ok u ∧ ∃ t, u = legacyTrack color t ∧ ReadAs sort color rows t d)
        (pandas.groupby (rowKey (csvHeader color)) rows) drones := by
    refine List.forall₂_iff_zip.mpr ⟨hsame.length_eq, fun {g d} hgd => ?_⟩
    have hg := List.forall₂_iff_zip.mp hsame |>.2 hgd
    have hd := hperm.mem_iff.mp (List.of_mem_zip hgd).2
    obtain ⟨t, ht, hread⟩ := groupTrack_reads pandas sort h hd
    exact ⟨_, hg ▸ ht, t, rfl, hread⟩
  obtain ⟨us, hus, hall⟩ := mapM_of_forall₂ hone
  obtain ⟨tracks, rfl, hreads⟩ : ∃ tracks, us = tracks.map (legacyTrack color) ∧
      List.Forall₂ (ReadAs sort color rows) tracks drones := by
    clear hus hone hsame hperm
    induction hall with
    | nil => exact ⟨[], rfl, .nil⟩
    | @cons u d us drones hu _ ih =>
      obtain ⟨t, rfl, ht⟩ := hu
      obtain ⟨tracks, rfl, hrest⟩ := ih
      exact ⟨t :: tracks, rfl, .cons ht hrest⟩
  refine ⟨tracks, drones, ?_, hperm, hreads⟩
  have hids : ((tracks.map (legacyTrack color)).map Prod.fst).Nodup := by
    have hnodup := (List.nodup_map_iff (Nat.cast_injective (R := ℤ))).mpr
      (ids_of_readAs hreads ▸ (hperm.map Prod.fst).nodup_iff.mpr s.unique)
    rw [List.map_map] at hnodup ⊢
    exact hnodup
  have hkey : (fun r : Row K => (cellAt r 0).key) = rowKey (csvHeader color) := by
    funext r
    rw [rowKey, hplace]
  refine bind_eq_ok.mpr ⟨0, hcolumn, bind_eq_ok.mpr ⟨tracks.map (legacyTrack color), ?_, ?_⟩⟩
  · rw [hkey]
    exact hus
  · exact congrArg Except.ok (assignAll_of_nodup hids)

lemma emptyDrones_eq_nil {s : Show K} (h : ∀ d ∈ s.drones, d.2 ≠ []) : emptyDrones s = [] := by
  have hnone : s.drones.filter (fun d => d.2.isEmpty) = [] := by
    refine List.filter_eq_nil_iff.mpr fun d hd hempty => h d hd ?_
    exact List.isEmpty_iff.mp hempty
  rw [emptyDrones, hnone]
  rfl

lemma timeSorted_drones {s : Show K} (h : ∀ d ∈ s.drones, TimeOrdered d.2) :
    (timeSorted s).drones = s.drones := by
  have hsame : s.drones.map (fun d => (d.1, sortByTime d.2)) = s.drones.map id := by
    refine List.map_congr_left fun d hd => Prod.ext rfl ?_
    exact List.Pairwise.insertionSort_eq (h d hd)
  exact hsame.trans (List.map_id _)

def csvTrack (color : Bool) (t : Nat × List (Waypoint K)) : Nat × List (Waypoint K) :=
  (t.1, t.2.map (csvWaypoint color))

variable [Sqrt K] {tree : KdTree K}

/-- What a table brings to the gate. -/
structure Brings (pandas : Pandas K) (tree : KdTree K) (sort : ColumnSort K) (csv : String)
    (color : Bool) (rows : List (Row K)) (s : Show K) (tracks : List (Nat × List (Waypoint K)))
    (brought : Show K) : Prop where
  parsed : parseCsv (sortedBy pandas sort) tree csv =
    gateShow tree (legacyCanonical (tracks.map (legacyTrack color)) (.int showFormatVersion))
  loaded : Show.validateAndLoad (legacyCanonical (tracks.map (legacyTrack color))
    (.int showFormatVersion)) = .ok brought
  drones_eq : brought.drones = tracks.map (csvTrack color)
  reads : ∃ drones, drones.Perm s.drones ∧ List.Forall₂ (ReadAs sort color rows) tracks drones

lemma brings_of_reads {d : PyDict K} {csv : String} {frame : Frame K} {sort : ColumnSort K}
    (hload : Show.validateAndLoad (.dict d) = .ok s) (hne : ∀ d ∈ s.drones, d.2 ≠ [])
    (hlength : (entries s).length ≤ 100000) (hframe : pandas.readCsv csv 100001 = .ok frame)
    (hcolumns : frame.columns = csvHeader color)
    (h : List.Forall₂ (RowReads color) (entries s) frame.rows) :
    ∃ tracks brought, Brings pandas tree sort csv color frame.rows s tracks brought := by
  obtain ⟨tracks, drones, hdrones, hperm, hreads⟩ := csvDrones_reads pandas sort h hne
  have hids := ids_of_readAs hreads
  have hvalid : ∀ t ∈ tracks, t.1 < maxFleetSize ∧ ∀ w ∈ t.2, Valid w := by
    intro t ht
    obtain ⟨d, hd, hread⟩ := exists_of_forall₂ hreads.flip ht
    obtain ⟨hlt, hall⟩ := load_valid hload (hperm.mem_iff.mp hd)
    exact ⟨hread.id_eq ▸ hlt, fun w hw => hall w (hread.perm.mem_iff.mp hw)⟩
  have hnodup : (tracks.map Prod.fst).Nodup :=
    hids ▸ (hperm.map Prod.fst).nodup_iff.mpr s.unique
  obtain ⟨brought, hloaded, hbrought⟩ := load_legacy color hnodup hvalid
  refine ⟨tracks, brought, ?_, hloaded, hbrought, drones, hperm, hreads⟩
  have hcolumnsOk : csvColumns (csvHeader color) = .ok (csvHeader color) := by
    cases color <;> decide
  have hfew : ¬ 100000 < frame.rows.length := by
    rw [← h.length_eq]
    exact not_lt.mpr hlength
  have hread : (sortedBy pandas sort).readCsv csv 100001 = .ok frame := hframe
  unfold parseCsv
  simp only [hread, bind, Except.bind, if_neg hfew, hcolumns, hcolumnsOk, hdrones]

/-! ## When the two shows agree -/

/-- A show that a table can hold: no white channel, all of the other channels or none of them, and
nothing to tell apart at one time of a drone. -/
structure Tabular (s : Show K) : Prop where
  no_white : ∀ d ∈ s.drones, ∀ w ∈ d.2, w.w = none
  colours : (∀ d ∈ s.drones, ∀ w ∈ d.2, w.r = none ∧ w.g = none ∧ w.b = none) ∨
    ∀ d ∈ s.drones, ∀ w ∈ d.2, w.r.isSome ∧ w.g.isSome ∧ w.b.isSome
  ties : ∀ d ∈ s.drones, ∀ w ∈ d.2, ∀ u ∈ d.2, w.time = u.time → bare w = bare u

lemma Tabular.bare_eq (h : Tabular s) {d : Nat × List (Waypoint K)} (hd : d ∈ s.drones)
    {w : Waypoint K} (hw : w ∈ d.2) : bare w = csvWaypoint (lit s) w := by
  have hwhite := h.no_white d hd w hw
  rcases h.colours with hdark | hall
  · have hlit : lit s = false := by
      rw [lit, List.any_eq_false]
      intro d hd hany
      obtain ⟨u, hu, hr⟩ := List.any_eq_true.mp hany
      rw [(hdark d hd u hu).1] at hr
      cases hr
    obtain ⟨hr, hg, hb⟩ := hdark d hd w hw
    simp [bare, csvWaypoint, hlit, hwhite, hr, hg, hb]
  · obtain ⟨hr, hg, hb⟩ := hall d hd w hw
    have hlit : lit s = true :=
      List.any_eq_true.mpr ⟨d, hd, List.any_eq_true.mpr ⟨w, hw, hr⟩⟩
    obtain ⟨r, hr⟩ := Option.isSome_iff_exists.mp hr
    obtain ⟨g, hg⟩ := Option.isSome_iff_exists.mp hg
    obtain ⟨b, hb⟩ := Option.isSome_iff_exists.mp hb
    simp [bare, csvWaypoint, hlit, hwhite, hr, hg, hb]

def gateTrack (d : Nat × List (Waypoint K)) : Nat × List (Waypoint K) :=
  (d.1, (sortByTime d.2).map bare)

lemma csvTrack_eq (h : Tabular s) {sort : ColumnSort K} {d t : Nat × List (Waypoint K)}
    (hd : d ∈ s.drones) (hread : ReadAs sort (lit s) rows t d) :
    csvTrack (lit s) t = gateTrack d := by
  refine Prod.ext hread.id_eq ?_
  have hbare : t.2.map (csvWaypoint (lit s)) = t.2.map bare := by
    refine List.map_congr_left fun w hw => ?_
    exact (h.bare_eq hd (hread.perm.mem_iff.mp hw)).symm
  have hperm : (t.2.map bare).Perm ((sortByTime d.2).map bare) :=
    (hread.perm.trans (sortByTime_perm d.2).symm).map bare
  have hleft : (t.2.map bare).Pairwise fun a b => a.time ≤ b.time :=
    List.pairwise_map.mpr hread.ordered
  have hright : ((sortByTime d.2).map bare).Pairwise fun a b => a.time ≤ b.time :=
    List.pairwise_map.mpr (sortByTime_ordered d.2)
  change t.2.map (csvWaypoint (lit s)) = (sortByTime d.2).map bare
  rw [hbare]
  refine hperm.eq_of_pairwise (fun a b ha hb hab hba => ?_) hleft hright
  obtain ⟨w, hw, rfl⟩ := List.mem_map.mp ha
  obtain ⟨u, hu, rfl⟩ := List.mem_map.mp hb
  exact h.ties d hd w (hread.perm.mem_iff.mp hw) u ((sortByTime_perm d.2).mem_iff.mp hu)
    (le_antisymm hab hba)

namespace Brings

variable {sort : ColumnSort K} {csv : String} {tracks : List (Nat × List (Waypoint K))}
  {brought : Show K}

lemma sorted_drones (h : Brings pandas tree sort csv color rows s tracks brought) :
    (timeSorted brought).drones = tracks.map (csvTrack color) := by
  refine (timeSorted_drones fun d hd => ?_).trans h.drones_eq
  rw [h.drones_eq] at hd
  obtain ⟨t, ht, rfl⟩ := List.mem_map.mp hd
  obtain ⟨drones, -, hreads⟩ := h.reads
  obtain ⟨d, -, hread⟩ := exists_of_forall₂ hreads.flip ht
  exact List.pairwise_map.mpr hread.ordered

lemma bare_drones (h : Brings pandas tree sort csv color rows s tracks brought) :
    (timeSorted brought).drones.map bareTrack = tracks.map (csvTrack color) := by
  rw [h.sorted_drones, List.map_map]
  refine List.map_congr_left fun t _ => Prod.ext rfl ?_
  exact List.map_map

lemma sameTracks (h : Brings pandas tree sort csv (lit s) rows s tracks brought)
    (htab : Tabular s) : SameTracks (timeSorted brought) (timeSorted s) := by
  obtain ⟨drones, hperm, hreads⟩ := h.reads
  have hgate : (timeSorted s).drones.map bareTrack = s.drones.map gateTrack := by
    rw [timeSorted, List.map_map]
    rfl
  have htracks : tracks.map (csvTrack (lit s)) = drones.map gateTrack := by
    have hmem : ∀ d ∈ drones, d ∈ s.drones := fun d hd => hperm.mem_iff.mp hd
    clear h hperm hgate
    induction hreads with
    | nil => rfl
    | @cons t d tracks drones hread _ ih =>
      have hrest := ih fun d hd => hmem d (List.mem_cons_of_mem _ hd)
      rw [List.map_cons, List.map_cons, hrest,
        csvTrack_eq htab (hmem d (List.mem_cons_self ..)) hread]
  rw [SameTracks, h.bare_drones, hgate, htracks]
  exact hperm.map gateTrack

lemma parse_ok (hlower : LowerFirst tree)
    (h : Brings pandas tree sort csv (lit s) rows s tracks brought) (htab : Tabular s)
    (hdrones : s.drones ≠ []) (hne : ∀ d ∈ s.drones, d.2 ≠ [])
    (hcol : validateTrajectoryCollisions tree (timeSorted s) none = [])
    (halt : validateTrajectoryAltitude (timeSorted s) = []) :
    parseCsv (sortedBy pandas sort) tree csv = .ok (timeSorted brought) := by
  obtain ⟨drones, hperm, hreads⟩ := h.reads
  have hsame := h.sameTracks htab
  rw [h.parsed]
  refine gateShow_of_checked rfl h.loaded ?_ (emptyDrones_eq_nil ?_)
    (hsame.symm.collisions_clean hlower hcol) (hsame.symm.altitudes_clean halt)
  · rw [h.drones_eq]
    intro hnil
    have hlength := hreads.length_eq.trans hperm.length_eq
    rw [List.map_eq_nil_iff.mp hnil] at hlength
    exact hdrones (List.eq_nil_of_length_eq_zero hlength.symm)
  · intro d hd hnil
    rw [h.drones_eq] at hd
    obtain ⟨t, ht, rfl⟩ := List.mem_map.mp hd
    obtain ⟨d, hd, hread⟩ := exists_of_forall₂ hreads.flip ht
    refine hne d (hperm.mem_iff.mp hd) ?_
    have hempty : t.2 = [] := List.map_eq_nil_iff.mp hnil
    have hnone := hread.perm
    rw [hempty] at hnone
    exact hnone.nil_eq.symm

lemma track_eq (h : Brings pandas tree sort csv color rows s tracks brought)
    (hsame : SameTracks (timeSorted brought) (timeSorted s)) {d : Nat × List (Waypoint K)}
    (hd : d ∈ s.drones) : ∃ t, ReadAs sort color rows t d ∧ csvTrack color t = gateTrack d := by
  obtain ⟨drones, hperm, hreads⟩ := h.reads
  have hmem : gateTrack d ∈ (timeSorted s).drones.map bareTrack := by
    rw [timeSorted, List.map_map]
    exact List.mem_map_of_mem hd
  have hin := hsame.symm.mem_iff.mp hmem
  rw [h.bare_drones] at hin
  obtain ⟨t, ht, htrack⟩ := List.mem_map.mp hin
  obtain ⟨d', hd', hread⟩ := exists_of_forall₂ hreads.flip ht
  have hids : (csvTrack color t).1 = (gateTrack d).1 := by rw [htrack]
  have hid : d'.1 = d.1 := hread.id_eq.symm.trans hids
  have heq : d' = d := List.inj_on_of_nodup_map s.unique (hperm.mem_iff.mp hd') hd hid
  exact ⟨t, heq ▸ hread, htrack⟩

end Brings

lemma csvWaypoint_of_row {id : Nat} {w u : Waypoint K} {row : Row K}
    (hw : RowReads color (id, w) row) (hu : RowReads color (id, u) row) :
    csvWaypoint color w = csvWaypoint color u := by
  have hnumbers : ∀ {ns : List K} {row : Row K}, List.Forall₂ CellReads ns row →
      row.map (fun c => numberOf c.value) = ns.map some := by
    intro ns row h
    induction h with
    | nil => rfl
    | cons hcell _ ih => rw [List.map_cons, List.map_cons, cell_number hcell, ih]
  have hsome : (rowNumbers color id w).map some = (rowNumbers color id u).map some :=
    (hnumbers hw).symm.trans (hnumbers hu)
  have hsame := (Option.some_injective K).list_map hsome
  cases color with
  | false =>
    simp [rowNumbers] at hsame
    simp [csvWaypoint, hsame]
  | true =>
    simp [rowNumbers] at hsame
    simp [csvWaypoint, hsame]

lemma find_of_first {d t : Nat × List (Waypoint K)} {w : Waypoint K} {r : Row K}
    (hr : r ∈ rowsOfDrone color rows d.1) (hw : RowReads color (d.1, w) r)
    (hread : ReadAs (firstSort r) color rows t d) :
    (t.2.map (csvWaypoint color)).find? (fun u => u.time = w.time) =
      some (csvWaypoint color w) := by
  have hkey {q : Row K} {u : Waypoint K} (h : RowReads color (d.1, u) q) :
      sortKey (cellAt q 1) = u.time := by
    rw [sortKey, time_of_row h]
    rfl
  have htest : ∀ q u, RowReads color (d.1, u) q →
      decide (sortKey (cellAt q 1) = sortKey (cellAt r 1)) = decide (u.time = w.time) := by
    intro q u hq
    rw [hkey hq, hkey hw]
  obtain ⟨u, hfind, hu⟩ := find?_of_forall₂ hread.reads htest (firstSort_find hr (cellAt · 1))
  rw [List.find?_map]
  change (t.2.find? fun u => u.time = w.time).map _ = _
  rw [hfind, Option.map_some, csvWaypoint_of_row hu hw]

lemma csvWaypoint_twice (w : Waypoint K) :
    csvWaypoint color (csvWaypoint color w) = csvWaypoint color w := by
  cases color <;> rfl

lemma tabular_of_same {csv : String} (hreads : List.Forall₂ (RowReads color) (entries s) rows)
    (h : ∀ sort, ∃ tracks brought, Brings pandas tree sort csv color rows s tracks brought ∧
      SameTracks (timeSorted brought) (timeSorted s)) : Tabular s := by
  -- one sort shows what the columns of the table keep
  have hkept : ∀ d ∈ s.drones, ∀ w ∈ d.2, ∃ u, bare w = csvWaypoint color u := by
    intro d hd w hw
    obtain ⟨tracks, brought, hb, hsame⟩ := h (firstSort [])
    obtain ⟨t, -, htrack⟩ := hb.track_eq hsame hd
    have hmem : bare w ∈ (gateTrack d).2 :=
      List.mem_map_of_mem ((sortByTime_perm d.2).mem_iff.mpr hw)
    rw [← htrack] at hmem
    obtain ⟨u, -, hu⟩ := List.mem_map.mp hmem
    exact ⟨u, hu.symm⟩
  have hshape : ∀ d ∈ s.drones, ∀ w ∈ d.2, bare w = csvWaypoint color w := by
    intro d hd w hw
    obtain ⟨u, hu⟩ := hkept d hd w hw
    calc bare w = csvWaypoint color u := hu
      _ = csvWaypoint color (csvWaypoint color u) := (csvWaypoint_twice u).symm
      _ = csvWaypoint color (bare w) := by rw [hu]
      _ = csvWaypoint color w := rfl
  refine ⟨?_, ?_, ?_⟩
  · intro d hd w hw
    exact congrArg Waypoint.w (hshape d hd w hw)
  · cases color with
    | false =>
      refine .inl fun d hd w hw => ?_
      have hw := hshape d hd w hw
      exact ⟨congrArg Waypoint.r hw, congrArg Waypoint.g hw, congrArg Waypoint.b hw⟩
    | true =>
      refine .inr fun d hd w hw => ?_
      have hw := hshape d hd w hw
      have hr : w.r = some (w.r.getD 255) := congrArg Waypoint.r hw
      have hg : w.g = some (w.g.getD 255) := congrArg Waypoint.g hw
      have hb : w.b = some (w.b.getD 255) := congrArg Waypoint.b hw
      rw [hr, hg, hb]
      exact ⟨rfl, rfl, rfl⟩
  · -- a sort may put either of two waypoints at one time first
    intro d hd w hw u hu htime
    have hfirst : ∀ v ∈ d.2, v.time = w.time →
        (gateTrack d).2.find? (fun a => a.time = w.time) = some (bare v) := by
      intro v hv hvtime
      obtain ⟨r, hr, hread⟩ := exists_of_forall₂ (rowsOfDrone_reads hreads hd) hv
      obtain ⟨tracks, brought, hb, hsame⟩ := h (firstSort r)
      obtain ⟨t, hreadAs, htrack⟩ := hb.track_eq hsame hd
      have hfind := find_of_first hr hread hreadAs
      rw [← htrack, hshape d hd v hv, ← hvtime]
      exact hfind
    exact Option.some.inj ((hfirst w hw rfl).symm.trans (hfirst u hu htime.symm))

end Tracks

section

variable [FloorRing K] [IsStrictOrderedRing K] [Sqrt K]

/-- The gate takes the choreography, and reads it as this show. -/
structure Accepted (tree : KdTree K) (choreoData : PyDict K) (s : Show K) : Prop where
  read : ∃ d, checkVersion choreoData = .ok d ∧ Show.validateAndLoad (.dict d) = .ok s
  accepted : ∃ trajectory, gateShow tree (.dict choreoData) = .ok trajectory

/-- Whatever sort pandas uses, the CSV of a choreography is read, and as what its JSON text is
read as. -/
def LoadsAlike (readers : Readers K) (tree : KdTree K)
    (writeCsv : List String → List (List (PyVal K)) → String) (choreoData : PyDict K)
    (json : String) : Prop :=
  ∀ sort : ColumnSort K, ∃ csv fromCsv fromJson, exportCsv writeCsv choreoData = .ok csv ∧
    parseCsv (sortedBy readers.pandas sort) tree csv = .ok fromCsv ∧
      parseJson readers tree json = .ok fromJson ∧ SameTracks fromCsv fromJson

variable {readers : Readers K} {tree : KdTree K} {choreoData : PyDict K} {s : Show K}
  {writeCsv : List String → List (List (PyVal K)) → String}
  {dumps : PyVal K → Except String String} {json : String}

variable (readers) in
lemma parseJson_export [LawfulSqrt K] {trajectory : Show K}
    (h : gateShow tree (.dict choreoData) = .ok trajectory)
    (hexport : exportJson dumps choreoData = .ok json)
    (hjson : ∀ data, exportedData choreoData = .ok data → dumps (.dict data) = .ok json →
      readers.jsonLoads json = .ok (.dict data)) :
    parseJson readers tree json = .ok trajectory := by
  unfold exportJson at hexport
  split at hexport
  · cases hexport
  next data hdata =>
    have hgate := gateShow_exportedData h hdata
    have hdumps : dumps (.dict data) = .ok json := mapError_ok hexport
    have hhas : has data "drones" = true := by
      obtain ⟨d, _, hversion, hload, -⟩ := gateShow_ok hgate
      obtain ⟨items, hitems⟩ := drones_of_load hload
      rw [(checkVersion_stamp hversion).2.1 "drones" (by decide)] at hitems
      rw [has, hitems]
      rfl
    refine bind_eq_ok.mpr ⟨.dict data, hjson data hdata hdumps, ?_⟩
    simp only [hhas, if_true]
    exact hgate

variable (tree) in
lemma exists_brings {d : PyDict K} (hversion : checkVersion choreoData = .ok d)
    (hload : Show.validateAndLoad (.dict d) = .ok s) (hne : ∀ d ∈ s.drones, d.2 ≠ [])
    (hcount : (entries s).length ≤ 100000)
    (hcsv : ∀ header rows, csvTable choreoData = .ok (header, rows) →
      CsvRoundTrips readers.pandas writeCsv header rows) :
    ∃ csv rows, exportCsv writeCsv choreoData = .ok csv ∧
      List.Forall₂ (RowReads (lit s)) (entries s) rows ∧ ∀ sort, ∃ tracks brought,
        Brings readers.pandas tree sort csv (lit s) rows s tracks brought := by
  obtain ⟨items, hitems, hspells⟩ := load_spells hload
  rw [(checkVersion_stamp hversion).2.1 "drones" (by decide)] at hitems
  obtain ⟨table, htable, hwritten⟩ := csvTable_ok hitems hspells
  let numbers : List (List K) := (entries s).map fun e => rowNumbers (lit s) e.1 e.2
  have hlength : ∀ ns ∈ numbers, ns.length = (csvHeader (lit s)).length := by
    intro ns hns
    obtain ⟨e, -, rfl⟩ := List.mem_map.mp hns
    cases lit s <;> rfl
  have hrows : List.Forall₂ (fun row ns => row.map numberOf = ns.map some) table numbers :=
    List.forall₂_map_right_iff.mpr hwritten
  have hfew : table.length ≤ 100001 := by
    rw [hwritten.length_eq]
    exact hcount.trans (by decide)
  obtain ⟨frame, hframe, hcolumns, hcells⟩ := hcsv _ _ htable numbers 100001 hlength hrows hfew
  have hreads : List.Forall₂ (RowReads (lit s)) (entries s) frame.rows :=
    List.forall₂_map_left_iff (f := fun e : Nat × Waypoint K =>
      rowNumbers (lit s) e.1 e.2) |>.mp hcells
  refine ⟨writeCsv (csvHeader (lit s)) table, frame.rows, ?_, hreads, fun sort => ?_⟩
  · exact map_eq_ok.mpr ⟨_, htable, rfl⟩
  · exact brings_of_reads hload hne hcount hframe hcolumns hreads

/-- The CSV of a show and its JSON load the same, whatever the sort, exactly if a table can hold
the show. -/
theorem loadsAlike_iff_tabular [LawfulSqrt K] (hlower : LowerFirst tree)
    (h : Accepted tree choreoData s) (hcount : (entries s).length ≤ 100000)
    (hcsv : ∀ header rows, csvTable choreoData = .ok (header, rows) →
      CsvRoundTrips readers.pandas writeCsv header rows)
    (hexport : exportJson dumps choreoData = .ok json)
    (hjson : ∀ data, exportedData choreoData = .ok data → dumps (.dict data) = .ok json →
      readers.jsonLoads json = .ok (.dict data)) :
    LoadsAlike readers tree writeCsv choreoData json ↔ Tabular s := by
  obtain ⟨d, hversion, hload⟩ := h.read
  obtain ⟨trajectory, hgate⟩ := h.accepted
  obtain ⟨d', s', hversion', hload', hempty, htrajectory, hcol, halt⟩ := gateShow_ok hgate
  cases hversion.symm.trans hversion'
  cases hload.symm.trans hload'
  subst htrajectory
  have hne : ∀ d ∈ s.drones, d.2 ≠ [] := fun d hd => nonempty_of_emptyDrones hempty hd
  obtain ⟨csv, rows, hwritten, hreads, hbrings⟩ :=
    exists_brings tree hversion hload hne hcount hcsv
  have hfrom := parseJson_export readers hgate hexport hjson
  constructor
  · intro hall
    have hsame : ∀ sort, ∃ tracks brought,
        Brings readers.pandas tree sort csv (lit s) rows s tracks brought ∧
          SameTracks (timeSorted brought) (timeSorted s) := by
      intro sort
      obtain ⟨csv', fromCsv, fromJson, hexported, hparsed, hparsedJson, hsame⟩ := hall sort
      cases hwritten.symm.trans hexported
      cases hfrom.symm.trans hparsedJson
      obtain ⟨tracks, brought, hb⟩ := hbrings sort
      rw [hb.parsed] at hparsed
      obtain ⟨c, b, hcversion, hcload, -, hsorted, -, -⟩ := gateShow_ok hparsed
      cases hcversion
      cases hb.loaded.symm.trans hcload
      exact ⟨tracks, brought, hb, hsorted ▸ hsame⟩
    exact tabular_of_same hreads hsame
  · intro htab sort
    obtain ⟨tracks, brought, hb⟩ := hbrings sort
    have hdrones : s.drones ≠ [] := by
      intro hnil
      exact gateShow_drones_ne_nil hgate (by simp [timeSorted, hnil])
    exact ⟨csv, timeSorted brought, timeSorted s, hwritten,
      hb.parse_ok hlower htab hdrones hne hcol halt, hfrom, hb.sameTracks htab⟩

end

/-! ## Shows with and without what a table can hold -/

def cellOf : PyVal K → Cell K
  | .int n => .int n
  | .float x => .float x
  | _ => .missing

def readersOf (choreoData : PyDict ℚ) : Readers ℚ where
  decodeUtf8 _ := .error ""
  jsonLoads _ := match exportedData choreoData with
    | .ok data => .ok (.dict data)
    | .error _ => .error ""
  openZip _ := none
  pandas := { pandasReading ⟨[], []⟩ with
    readCsv := fun _ _ => (csvTable choreoData).map fun table =>
      ⟨table.1, table.2.map fun row => row.map cellOf⟩ }

lemma readersOf_csv {choreoData : PyDict ℚ}
    {writeCsv : List String → List (List (PyVal ℚ)) → String} {header : List String}
    {rows : List (List (PyVal ℚ))} (h : csvTable choreoData = .ok (header, rows)) :
    CsvRoundTrips (readersOf choreoData).pandas writeCsv header rows := by
  intro numbers nrows _ hnumbers _
  refine ⟨_, map_eq_ok.mpr ⟨_, h, rfl⟩, rfl, ?_⟩
  have hcell : ∀ {v : PyVal ℚ} {x : ℚ}, numberOf v = some x → CellReads x (cellOf v) := by
    intro v x hv
    cases v with
    | int n => exact .inl ⟨n, Option.some.inj hv, rfl⟩
    | float y => exact .inr (congrArg Cell.float (Option.some.inj hv))
    | _ => cases hv
  rw [List.forall₂_map_right_iff]
  refine hnumbers.flip.imp fun ns row hrow => ?_
  rw [List.forall₂_map_right_iff]
  have hsame : List.Forall₂ (fun x v => numberOf v = some x) ns row := by
    have heq : List.Forall₂ Eq (row.map numberOf) (ns.map some) := by
      rw [List.forall₂_eq_eq_eq]
      exact hrow
    rw [List.forall₂_map_left_iff, List.forall₂_map_right_iff] at heq
    exact heq.flip
  exact hsame.imp fun x v hv => hcell hv

lemma readersOf_json {choreoData data : PyDict ℚ} {json : String}
    (h : exportedData choreoData = .ok data) :
    (readersOf choreoData).jsonLoads json = .ok (.dict data) := by
  simp only [readersOf, h]

def wpDict (time x : ℤ) (leds : PyDict ℚ) : PyVal ℚ :=
  .dict ([("time", .int time), ("x", .int x), ("y", .int 0), ("z", .int (-5)), ("yaw", .int 0)] ++
    leds)

def glowing : PyDict ℚ :=
  [("drones", .list [
    .dict [("id", .int 0), ("waypoints", .list [
      wpDict 0 0 [("r", .int 255), ("g", .int 0), ("b", .int 0)],
      wpDict 2 1 [("r", .int 0), ("g", .int 255), ("b", .int 0)]])],
    .dict [("id", .int 1), ("waypoints", .list [
      wpDict 0 10 [("r", .int 0), ("g", .int 0), ("b", .int 255)]])]])]

lemma ties_of_nodup {ws : List (Waypoint ℚ)} (h : (ws.map Waypoint.time).Nodup) :
    ∀ w ∈ ws, ∀ u ∈ ws, w.time = u.time → bare w = bare u := by
  intro w hw u hu htime
  rw [List.inj_on_of_nodup_map h hw hu htime]

theorem glowing_loadsAlike : ∃ s, Accepted bruteForce glowing s ∧ (entries s).length = 3 ∧
    LoadsAlike (readersOf glowing) bruteForce (fun _ _ => "") glowing "" := by
  obtain ⟨s, hs, hcount, hwhite, hall, htimes⟩ :
      ∃ s ∈ (Show.validateAndLoad (.dict (("version", .int 1) :: glowing))).toOption,
      (entries s).length = 3 ∧ (∀ d ∈ s.drones, ∀ w ∈ d.2, w.w = none) ∧
      (∀ d ∈ s.drones, ∀ w ∈ d.2, w.r.isSome ∧ w.g.isSome ∧ w.b.isSome) ∧
      ∀ d ∈ s.drones, (d.2.map Waypoint.time).Nodup := by decide +kernel
  obtain ⟨trajectory, htrajectory, data, hdata, -⟩ :
      ∃ trajectory ∈ (gateShow bruteForce (.dict glowing)).toOption,
      ∃ data ∈ (exportedData glowing).toOption, True := by decide +kernel
  have hdata := ok_of_toOption hdata
  have haccepted : Accepted bruteForce glowing s :=
    ⟨⟨_, rfl, ok_of_toOption hs⟩, trajectory, ok_of_toOption htrajectory⟩
  have hexport : exportJson (fun _ => .ok "") glowing = .ok "" := by
    simp only [exportJson, hdata]
    rfl
  refine ⟨s, haccepted, hcount, (loadsAlike_iff_tabular lowerFirst_bruteForce haccepted ?_
    (fun _ _ => readersOf_csv) hexport fun _ hd _ => readersOf_json hd).mpr
      ⟨hwhite, .inr hall, fun d hd => ties_of_nodup (htimes d hd)⟩⟩
  rw [hcount]
  decide

def white : PyDict ℚ :=
  [("drones", .list [.dict [("id", .int 0), ("waypoints", .list [wpDict 0 0 [("w", .int 255)]])]])]

/-- The white channel of an accepted show is not in its CSV. -/
theorem white_not_loadsAlike : ∃ s, Accepted bruteForce white s ∧ (entries s).length ≤ 100000 ∧
    (∀ header rows, csvTable white = .ok (header, rows) →
      CsvRoundTrips (readersOf white).pandas (fun _ _ => "") header rows) ∧
    exportJson (fun _ => .ok "") white = .ok "" ∧
    (∀ data, exportedData white = .ok data → (readersOf white).jsonLoads "" = .ok (.dict data)) ∧
    ¬ LoadsAlike (readersOf white) bruteForce (fun _ _ => "") white "" := by
  obtain ⟨s, hs, hcount⟩ :
      ∃ s ∈ (Show.validateAndLoad (.dict (("version", .int 1) :: white))).toOption,
      (entries s).length = 1 := by decide +kernel
  obtain ⟨trajectory, htrajectory, data, hdata, -⟩ :
      ∃ trajectory ∈ (gateShow bruteForce (.dict white)).toOption,
      ∃ data ∈ (exportedData white).toOption, True := by decide +kernel
  have hcsv : (parseCsv (sortedBy (readersOf white).pandas (firstSort [])) bruteForce
      "").toOption.all (fun s => ∀ d ∈ s.drones, ∀ w ∈ d.2, w.w = none) = true := by
    decide +kernel
  have hjson : (parseJson (readersOf white) bruteForce "").toOption.all
      (fun s => ∃ d ∈ s.drones, ∃ w ∈ d.2, w.w = some 255) = true := by
    decide +kernel
  have hdata := ok_of_toOption hdata
  refine ⟨s, ⟨⟨_, rfl, ok_of_toOption hs⟩, trajectory, ok_of_toOption htrajectory⟩, ?_,
    fun _ _ => readersOf_csv, ?_, fun _ hd => readersOf_json hd, fun hall => ?_⟩
  · rw [hcount]
    decide
  · simp only [exportJson, hdata]
    rfl
  · obtain ⟨csv, fromCsv, fromJson, hexported, hfromCsv, hfromJson, hsame⟩ := hall (firstSort [])
    obtain ⟨_, -, rfl⟩ := map_eq_ok.mp hexported
    rw [hfromCsv] at hcsv
    rw [hfromJson] at hjson
    have hnone : ∀ d ∈ fromCsv.drones, ∀ w ∈ d.2, w.w = none := of_decide_eq_true hcsv
    obtain ⟨d, hd, w, hw, hwhite⟩ : ∃ d ∈ fromJson.drones, ∃ w ∈ d.2, w.w = some 255 :=
      of_decide_eq_true hjson
    obtain ⟨d', hd', hbare⟩ := List.mem_map.mp
      (hsame.symm.subset (List.mem_map_of_mem (f := bareTrack) hd))
    have hmem : bare w ∈ (bareTrack d').2 := by
      rw [hbare]
      exact List.mem_map_of_mem hw
    obtain ⟨w', hw', hsame⟩ := List.mem_map.mp hmem
    have hchannel : (bare w').w = (bare w).w := congrArg Waypoint.w hsame
    change w'.w = w.w at hchannel
    rw [hnone d' hd' w' hw', hwhite] at hchannel
    cases hchannel

end Taramandal.Studio.CsvRoundTrip
