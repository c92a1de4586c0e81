import Taramandal.Gcs.Blackbox
import Taramandal.Lib.Stream

/-! # A flight record, read back

The recorder and the reader each keep the last row and the two dictionaries, and
after every line they agree on them (`Synced`). So what `iter_blackbox` hands
out of a finished file is what was recorded, call by call (`roundTrips`), as
long as no fleet without drones is sampled, no two rows are further apart than 64
bits can hold, and no context renames the type of an event. -/
set_option linter.unusedSectionVars false

namespace Taramandal.Gcs.BlackboxLog

open Core.Values Gcs.Blackbox Lib.Check Lib.Dict Lib.Intern Lib.Run Lib.Stream

variable {K : Type} [Field K]

/-! ## The reader -/

def columnsOf (cols : Columns) : Dict String (List (PyVal K)) :=
  allKeys.map fun k => (k, (column cols k).map .int)

/-- The `ch` object of a row. -/
def chEntry (cols : Columns) : PyDict K := allKeys.map fun k => (k, ints (column cols k))

lemma chEntry_eq (cols : Columns) :
    (chEntry cols : PyDict K) = (columnsOf cols).map fun e => (e.1, .list e.2) := by
  simp [chEntry, columnsOf, ints, Function.comp_def]

lemma wrap64_of_fits {n : ℤ} (h : -2 ^ 63 ≤ n ∧ n < 2 ^ 63) : wrap64 n = n := by
  unfold wrap64
  omega

def readerAt (ids : List ℤ) (sample : Sampled) : Reader K where
  ids := ints ids
  prev := columnsOf sample.cols
  modes := strs (names sample.modes)
  fixes := strs (names sample.fixes)

lemma readLine_key (r : Reader K) (t : ℤ) (ids : List ℤ) (sample : Sampled) :
    readLine r (.dict (keyEntry t ids sample)) =
      .ok (readerAt ids sample, [tickRecord true (.int t) (readerAt ids sample)]) := by
  have hcols : (chEntry sample.cols : PyDict K).mapM
      (fun e => do return (e.1, ← listOf e.2) : _ → Except PyError _) =
        .ok (columnsOf sample.cols) := by
    rw [mapM_eq_ok, chEntry, columnsOf, List.forall₂_map_left_iff, List.forall₂_map_right_iff,
      List.forall₂_same]
    exact fun k _ => rfl
  have hkind : ((find (keyEntry t ids sample : PyDict K) "type").bind text?) = some "key" := rfl
  rw [readLine, if_pos hkind]
  refine bind_eq_ok.mpr ⟨ints ids, rfl, ?_⟩
  refine bind_eq_ok.mpr ⟨strs (names sample.modes), rfl, ?_⟩
  refine bind_eq_ok.mpr ⟨strs (names sample.fixes), rfl, ?_⟩
  refine bind_eq_ok.mpr ⟨.dict (chEntry sample.cols), rfl, ?_⟩
  refine bind_eq_ok.mpr ⟨chEntry sample.cols, rfl, ?_⟩
  refine bind_eq_ok.mpr ⟨columnsOf sample.cols, hcols, ?_⟩
  rfl

variable {r : Reader K}

variable {cols : Columns} {k : String} {col : List ℤ}

lemma add_ints (ms ns : List ℤ) :
    ((ms.map PyVal.int).zip (ns.map PyVal.int)).mapM (fun p => add p.1 p.2) =
      .ok ((List.zipWith (· + ·) ms ns).map (PyVal.int (K := K))) := by
  induction ms generalizing ns with
  | nil => rfl
  | cons m ms ih =>
    cases ns with
    | nil => rfl
    | cons n ns =>
      have hone : add (PyVal.int (K := K) m) (.int n) = .ok (.int (m + n)) := rfl
      simp only [List.map_cons, List.zip_cons_cons, List.mapM_cons, hone, ih]
      rfl

def heldRow (row : String → List ℤ) : Dict String (List (PyVal K)) :=
  allKeys.map fun k => (k, (row k).map .int)

def driftedRow (row : String → List ℤ) (prev cols : Columns) (k : String) : List ℤ :=
  List.zipWith (· + ·) (row k)
    (List.zipWith (fun c p => wrap64 (c - p)) (column cols k) (column prev k))

lemma readLine_diff_row {r : Reader K} {row : String → List ℤ} (t : ℤ) (prev cols : Columns)
    (h : ∀ k ∈ allKeys, find r.prev k = some ((row k).map .int)) :
    readLine r (.dict (diffEntry t prev cols)) =
      .ok ({ r with prev := heldRow (driftedRow row prev cols) },
        [tickRecord false (.int t) { r with prev := heldRow (driftedRow row prev cols) }]) := by
  let diff (k : String) : List ℤ :=
    List.zipWith (fun c p => wrap64 (c - p)) (column cols k) (column prev k)
  have hkind : ((find (diffEntry t prev cols : PyDict K) "type").bind text?) = some "tick" := rfl
  have hkey : ¬ ((find (diffEntry t prev cols : PyDict K) "type").bind text?) = some "key" := by
    rw [hkind]
    decide
  rw [readLine, if_neg hkey, if_pos hkind]
  refine bind_eq_ok.mpr ⟨_, rfl, ?_⟩
  refine bind_eq_ok.mpr ⟨_, rfl, ?_⟩
  refine bind_eq_ok.mpr ⟨heldRow (driftedRow row prev cols), ?_, rfl⟩
  rw [mapM_eq_ok, heldRow, List.forall₂_map_left_iff, List.forall₂_map_right_iff, List.forall₂_same]
  intro k hk
  have hitem : item r.prev k = .ok ((row k).map PyVal.int) := by rw [item, h k hk]
  refine bind_eq_ok.mpr ⟨_, hitem, ?_⟩
  refine bind_eq_ok.mpr ⟨_, rfl, ?_⟩
  exact bind_eq_ok.mpr ⟨_, add_ints (row k) (diff k), rfl⟩

lemma driftedRow_eq {prev cols : List ℤ} (hlen : prev.length = cols.length)
    (hfits : ∀ d ∈ List.zipWith (· - ·) cols prev, -2 ^ 63 ≤ d ∧ d < 2 ^ 63) :
    List.zipWith (· + ·) prev (List.zipWith (fun c p => wrap64 (c - p)) cols prev) = cols := by
  refine List.ext_getElem (by simp [hlen]) fun i hi hi' => ?_
  have hd : cols[i] - prev[i] ∈ List.zipWith (· - ·) cols prev :=
    List.mem_iff_getElem.mpr ⟨i, by simp; omega, by simp⟩
  simp [wrap64_of_fits (hfits _ hd)]

lemma readLine_diff {t : ℤ} {prev : Columns} (hprev : r.prev = columnsOf prev)
    (hlen : ∀ k ∈ allKeys, (column prev k).length = (column cols k).length)
    (hfits : ∀ k ∈ allKeys, ∀ d ∈ List.zipWith (· - ·) (column cols k) (column prev k),
      -2 ^ 63 ≤ d ∧ d < 2 ^ 63) :
    readLine r (.dict (diffEntry t prev cols)) = .ok ({ r with prev := columnsOf cols },
        [tickRecord false (.int t) { r with prev := columnsOf cols }]) := by
  have hrow : heldRow (driftedRow (column prev) prev cols) = columnsOf (K := K) cols :=
    List.map_congr_left fun k hk => by rw [driftedRow, driftedRow_eq (hlen k hk) (hfits k hk)]
  rw [← hrow]
  exact readLine_diff_row t prev cols fun k hk => by rw [hprev, columnsOf, find_map_keys _ _ hk]

lemma readLine_event {rec : PyDict K} (htype : find rec "type" = some (.str "event")) :
    readLine r (.dict rec) = .ok (r, [rec]) := by
  have hkind : ((find rec "type").bind text?) = some "event" := by
    rw [htype]
    rfl
  rw [readLine]
  simp [hkind]

lemma iterBlackbox_append {r' : Reader K} {lines : List (PyVal K)} {recs : List (PyDict K)}
    (h : feed readLine r lines = .ok (r', recs)) (rest : List (Option (PyVal K))) :
    iterBlackbox r (lines.map some ++ rest) =
      (recs ++ (iterBlackbox r' rest).1, (iterBlackbox r' rest).2) := by
  induction lines generalizing r recs with
  | nil =>
    obtain ⟨rfl, rfl⟩ := Prod.mk.inj (Except.ok.inj h)
    rfl
  | cons line lines ih =>
    obtain ⟨⟨m, out⟩, hline, h⟩ := bind_eq_ok.mp h
    obtain ⟨⟨n, more⟩, hmore, h⟩ := bind_eq_ok.mp h
    obtain ⟨rfl, rfl⟩ := Prod.mk.inj (Except.ok.inj h)
    rw [List.map_cons, List.cons_append, iterBlackbox, hline]
    simp only [ih hmore, List.append_assoc]

lemma iterBlackbox_of_feed {r' : Reader K} {lines : List (PyVal K)} {recs : List (PyDict K)}
    (h : feed readLine r lines = .ok (r', recs)) :
    iterBlackbox r (lines.map some) = (recs, none) := by
  simpa [iterBlackbox] using iterBlackbox_append h []

/-- The reader is where the recorder is. -/
structure Synced (s : Recorder K) (r : Reader K) : Prop where
  live : s.closed = false
  ids : r.ids = ints s.ids
  modeTable : r.modes = strs (names s.modes)
  fixTable : r.fixes = strs (names s.fixes)
  modesNumbered : Numbered s.modes
  fixesNumbered : Numbered s.fixes
  prev : s.ids ≠ [] → r.prev = columnsOf s.prev ∧
    ∀ k ∈ allKeys, (column s.prev k).length = s.ids.length

lemma synced_new (cfg : RecorderConfig K) (context : PyDict K) :
    Synced (newRecorder cfg context) newReader :=
  ⟨rfl, rfl, rfl, rfl, numbered_nil, numbered_nil, fun h => absurd rfl h⟩

variable {s : Recorder K}

lemma Synced.touch (h : Synced s r) (lastTickT : Option K) (errors events : Nat)
    (lines : List (PyVal K)) :
    Synced { s with
      lastTickT := lastTickT
      errors := errors
      events := events
      lines := lines } r :=
  ⟨h.live, h.ids, h.modeTable, h.fixTable, h.modesNumbered, h.fixesNumbered, h.prev⟩

/-! ## One row -/

lemma length_rowsOf (telemetry : Dict ℤ (PyDict K)) :
    (rowsOf telemetry).length = (sortedIds telemetry).length := List.length_map _

variable {telemetry : Dict ℤ (PyDict K)}

lemma sortedIds_ne_nil (h : telemetry ≠ []) : sortedIds telemetry ≠ [] := by
  intro hnil
  have hlen := congrArg List.length hnil
  rw [sortedIds, List.length_insertionSort, List.length_map, List.length_nil,
    List.length_eq_zero_iff] at hlen
  exact h hlen

variable [LinearOrder K] [FloorRing K]

/-- What the quantised integers of a tick are, and how its dictionaries have
grown. -/
structure Samples (str : PyVal K → String) (modes fixes : Table String) (rows : List (PyDict K))
    (ids : List ℤ) (rf : RfDropRate K) (sample : Sampled) : Prop where
  numeric : ∀ ch ∈ channels, channelColumn rows ch = .ok (column sample.cols ch.key)
  rfDrops : rfColumn ids rf = .ok (column sample.cols rfKey)
  flags : column sample.cols flagKey = rows.map flagWord
  modeCodes : (sample.modes, column sample.cols modeKey) = code modes (modeNames str rows)
  fixCodes : (sample.fixes, column sample.cols fixKey) = code fixes (fixNames str rows)

variable {str : PyVal K → String} {cfg : RecorderConfig K} {modes fixes : Table String}
  {rows : List (PyDict K)} {ids : List ℤ} {rf : RfDropRate K} {sample : Sampled}

lemma column_of_mem (hkeys : cols.map Prod.fst = allKeys) (hmem : (k, col) ∈ cols) :
    column cols k = col := by
  have hnodup : allKeys.Nodup := by decide
  rw [column, find_of_mem (hkeys ▸ hnodup) hmem, Option.getD_some]

lemma samples_of_columns (h : columns str modes fixes rows ids rf = .ok sample) :
    Samples str modes fixes rows ids rf sample := by
  obtain ⟨numeric, hnumeric, h⟩ := bind_eq_ok.mp h
  obtain ⟨rfCol, hrf, h⟩ := bind_eq_ok.mp h
  obtain rfl := Except.ok.inj h
  have hkey : ∀ {ch : Channel} {e : String × List ℤ},
      (do return (ch.key, ← channelColumn rows ch)) = Except.ok e →
        e.1 = ch.key ∧ channelColumn rows ch = .ok e.2 := by
    intro ch e hone
    obtain ⟨col, hcol, hone⟩ := bind_eq_ok.mp hone
    obtain rfl := Except.ok.inj hone
    exact ⟨rfl, hcol⟩
  have hkeys : numeric.map Prod.fst = channels.map Channel.key := by
    rw [← List.forall₂_eq_eq_eq, List.forall₂_map_left_iff, List.forall₂_map_right_iff]
    exact (mapM_eq_ok.mp hnumeric).flip.imp fun e ch hone => (hkey hone).1
  have hall : (numeric ++ [(rfKey, rfCol), (flagKey, rows.map flagWord),
      (modeKey, (code modes (modeNames str rows)).2),
      (fixKey, (code fixes (fixNames str rows)).2)]).map Prod.fst = allKeys := by
    rw [List.map_append, hkeys]
    rfl
  constructor
  · intro ch hch
    obtain ⟨⟨k, col⟩, hmem, hone⟩ := exists_of_mapM hnumeric hch
    obtain ⟨rfl, hcol⟩ := hkey hone
    rw [hcol]
    exact congrArg Except.ok (column_of_mem hall (List.mem_append_left _ hmem)).symm
  · rw [hrf]
    exact congrArg Except.ok (column_of_mem hall (List.mem_append_right _ (by simp))).symm
  · exact column_of_mem hall (List.mem_append_right _ (by simp))
  · exact congrArg (Prod.mk _) (column_of_mem hall (List.mem_append_right _ (by simp)))
  · exact congrArg (Prod.mk _) (column_of_mem hall (List.mem_append_right _ (by simp)))

lemma length_rfColumn (h : rfColumn ids rf = .ok col) : col.length = ids.length := by
  cases rf with
  | none =>
    obtain rfl := Except.ok.inj h
    exact List.length_map _
  | scalar rate =>
    obtain ⟨v, -, h⟩ := bind_eq_ok.mp h
    obtain rfl := Except.ok.inj h
    exact List.length_map _
  | mapping rates => exact length_of_mapM h
  | sequence rates => exact length_of_mapM h

lemma length_code (table : Table String) (ks : List String) :
    (code table ks).2.length = ks.length :=
  (List.length_map _).trans (length_internAll table ks)

lemma Samples.length (h : Samples str modes fixes rows ids rf sample)
    (hrows : rows.length = ids.length) (hk : k ∈ allKeys) :
    (column sample.cols k).length = ids.length := by
  rcases List.mem_append.mp hk with hk | hk
  · obtain ⟨ch, hch, rfl⟩ := List.mem_map.mp hk
    rw [length_of_mapM (h.numeric ch hch), hrows]
  · simp only [List.mem_cons, List.not_mem_nil, or_false] at hk
    rcases hk with rfl | rfl | rfl | rfl
    · exact length_rfColumn h.rfDrops
    · rw [h.flags, List.length_map, hrows]
    · have hcol := congrArg (List.length ∘ Prod.snd) h.modeCodes
      exact (hcol.trans (length_code _ _)).trans ((List.length_map _).trans hrows)
    · have hcol := congrArg (List.length ∘ Prod.snd) h.fixCodes
      exact (hcol.trans (length_code _ _)).trans ((List.length_map _).trans hrows)

/-- A row's record carries the tick it was written for: the drones in order, the
integer of each channel, and codes that its dictionaries resolve. -/
structure CarriesTick (str : PyVal K → String) (cfg : RecorderConfig K) (now : K)
    (telemetry : Dict ℤ (PyDict K)) (rf : RfDropRate K) (rec ch : PyDict K)
    (modes fixes : List String) : Prop where
  type : find rec "type" = some (.str "tick")
  time : find rec "t_ms" = some (.int (tMs cfg now))
  ids : find rec "ids" = some (ints (sortedIds telemetry))
  values : find rec "ch" = some (.dict ch)
  modeTable : find rec "modes" = some (strs modes)
  fixTable : find rec "fixes" = some (strs fixes)
  numeric : ∀ c ∈ channels, ∃ col, channelColumn (rowsOf telemetry) c = .ok col ∧
    find ch c.key = some (ints col)
  rfDrops : ∃ col, rfColumn (sortedIds telemetry) rf = .ok col ∧ find ch rfKey = some (ints col)
  flags : find ch flagKey = some (ints ((rowsOf telemetry).map flagWord))
  modeCodes : ∃ col : List Nat, find ch modeKey = some (ints (col.map Nat.cast)) ∧
    List.Forall₂ (fun name i => modes[i]? = some name) (modeNames str (rowsOf telemetry)) col
  fixCodes : ∃ col : List Nat, find ch fixKey = some (ints (col.map Nat.cast)) ∧
    List.Forall₂ (fun name i => fixes[i]? = some name) (fixNames str (rowsOf telemetry)) col

def Carries (str : PyVal K → String) (cfg : RecorderConfig K) : Call K → PyDict K → Prop
  | .tick now telemetry rf, rec =>
    ∃ ch modes fixes, CarriesTick str cfg now telemetry rf rec ch modes fixes
  | .event now wall context kind fields, rec =>
    rec = eventEntry cfg now wall context kind fields ∧ find rec "type" = some (.str "event")

lemma mem_allKeys {ch : Channel} (h : ch ∈ channels) : ch.key ∈ allKeys :=
  List.mem_append_left _ (List.mem_map_of_mem h)

variable {now : K}

lemma carries_row (key : Bool) (hmodes : Numbered modes) (hfixes : Numbered fixes)
    (h : Samples str modes fixes (rowsOf telemetry) (sortedIds telemetry) rf sample) :
    Carries str cfg (.tick now telemetry rf)
      (tickRecord key (.int (tMs cfg now)) (readerAt (sortedIds telemetry) sample)) := by
  refine ⟨chEntry sample.cols, names sample.modes, names sample.fixes, ?_⟩
  have hfind : ∀ {k}, k ∈ allKeys → find (chEntry sample.cols : PyDict K) k =
      some (ints (column sample.cols k)) := fun hk => find_map_keys _ _ hk
  obtain ⟨hmode, hmodeCol⟩ := Prod.mk.inj h.modeCodes
  obtain ⟨hfix, hfixCol⟩ := Prod.mk.inj h.fixCodes
  refine ⟨rfl, rfl, rfl, ?_, rfl, rfl, ?_, ?_, ?_, ?_, ?_⟩
  · rw [chEntry_eq]
    rfl
  · exact fun c hc => ⟨_, h.numeric c hc, hfind (mem_allKeys hc)⟩
  · exact ⟨_, h.rfDrops, hfind (by decide)⟩
  · rw [hfind (by decide), h.flags]
  · refine ⟨_, ?_, hmode ▸ internAll_names hmodes _⟩
    rw [hfind (by decide), hmodeCol]
  · refine ⟨_, ?_, hfix ▸ internAll_names hfixes _⟩
    rw [hfind (by decide), hfixCol]

/-! ## One call -/

/-- The row can be written as a whole, or as differences that 64 bits hold. -/
def steady (str : PyVal K → String) (cfg : RecorderConfig K) (now : K)
    (telemetry : Dict ℤ (PyDict K)) (rf : RfDropRate K) (s : Recorder K) : Bool :=
  match columns str s.modes s.fixes (rowsOf telemetry) (sortedIds telemetry) rf with
  | .error _ => true
  | .ok sample =>
    needKey cfg now (sortedIds telemetry) sample s || allKeys.all fun k =>
        (List.zipWith (· - ·) (column sample.cols k) (column s.prev k)).all fun d =>
          decide (-2 ^ 63 ≤ d ∧ d < 2 ^ 63)

/-- A tick within the rate has a drone in it and is steady; an event's context
does not name another type. -/
def Recordable (str : PyVal K → String) (cfg : RecorderConfig K) (s : Recorder K) : Call K → Prop
  | .tick now telemetry rf =>
    tooSoon cfg now s = true ∨ telemetry ≠ [] ∧ steady str cfg now telemetry rf s = true
  | .event _ _ context _ _ => ∀ e ∈ context, e.1 = "type" → text? e.2 = some "event"

lemma writeRow_read (hs : Synced s r) (hne : telemetry ≠ [])
    (hcols : columns str s.modes s.fixes (rowsOf telemetry) (sortedIds telemetry) rf = .ok sample)
    (hsteady : steady str cfg now telemetry rf s = true) :
    ∃ line r' rec, (writeRow cfg now (sortedIds telemetry) sample s).lines = s.lines ++ [line] ∧
      readLine r line = .ok (r', [rec]) ∧
      Synced (writeRow cfg now (sortedIds telemetry) sample s) r' ∧
      Carries str cfg (.tick now telemetry rf) rec := by
  have hids := sortedIds_ne_nil hne
  have hsamples := samples_of_columns hcols
  obtain ⟨hmode, -⟩ := Prod.mk.inj hsamples.modeCodes
  obtain ⟨hfix, -⟩ := Prod.mk.inj hsamples.fixCodes
  have hcarries : ∀ key, Carries str cfg (.tick now telemetry rf)
      (tickRecord key (.int (tMs cfg now)) (readerAt (sortedIds telemetry) sample)) :=
    fun key => carries_row key hs.modesNumbered hs.fixesNumbered hsamples
  have hmodes : Numbered sample.modes := hmode ▸ hs.modesNumbered.internAll _
  have hfixes : Numbered sample.fixes := hfix ▸ hs.fixesNumbered.internAll _
  have hlen : ∀ k ∈ allKeys, (column sample.cols k).length = (sortedIds telemetry).length :=
    fun k hk => hsamples.length (length_rowsOf telemetry) hk
  unfold writeRow
  by_cases hkey : needKey cfg now (sortedIds telemetry) sample s = true
  · simp only [hkey, if_true]
    exact ⟨_, _, _, rfl, readLine_key r _ _ _,
      ⟨hs.live, rfl, rfl, rfl, hmodes, hfixes, fun _ => ⟨rfl, hlen⟩⟩, hcarries true⟩
  · simp only [hkey]
    simp only [steady, hcols, hkey, Bool.false_or, List.all_eq_true, decide_eq_true_eq] at hsteady
    simp only [needKey, Bool.or_eq_true, decide_eq_true_eq, not_or, ne_eq, not_not] at hkey
    obtain ⟨⟨⟨hsame, hmodeLen⟩, hfixLen⟩, -⟩ := hkey
    -- no name is new, so the dictionaries of the last key line still hold
    have hmodeSame : sample.modes = s.modes := by
      rw [hmode] at hmodeLen ⊢
      exact internAll_eq_self hmodeLen
    have hfixSame : sample.fixes = s.fixes := by
      rw [hfix] at hfixLen ⊢
      exact internAll_eq_self hfixLen
    obtain ⟨hprev, hprevLen⟩ := hs.prev (hsame ▸ hids)
    have hread := readLine_diff (t := tMs cfg now) hprev
      (fun k hk => (hprevLen k hk).trans (hsame ▸ (hlen k hk).symm)) hsteady
    have hreader : { r with prev := columnsOf sample.cols } =
        readerAt (sortedIds telemetry) sample := by
      rw [readerAt, hmodeSame, hfixSame, hsame, ← hs.ids, ← hs.modeTable, ← hs.fixTable]
    rw [hreader] at hread
    refine ⟨_, _, _, rfl, hread, ?_, hcarries false⟩
    refine ⟨hs.live, congrArg ints hsame, rfl, rfl, hmodes, hfixes, fun _ => ⟨rfl, ?_⟩⟩
    exact fun k hk => (hlen k hk).trans (congrArg List.length hsame)

lemma recordTick_read (hs : Synced s r) (hok : Recordable str cfg s (.tick now telemetry rf)) :
    ∃ items r' out, (recordTick str cfg now telemetry rf s).1.lines = s.lines ++ items ∧
      feed readLine r items = .ok (r', out) ∧
      Synced (recordTick str cfg now telemetry rf s).1 r' ∧
      List.Forall₂ (Carries str cfg)
        (if (recordTick str cfg now telemetry rf s).2 then [.tick now telemetry rf] else [])
        out := by
  have hnothing : s.lines = s.lines ++ [] := (List.append_nil _).symm
  have hopen : ¬ s.closed = true := by simp [hs.live]
  unfold recordTick
  rw [if_neg hopen]
  by_cases hsoon : tooSoon cfg now s = true
  · rw [if_pos hsoon]
    exact ⟨[], r, [], hnothing, rfl, hs, .nil⟩
  rw [if_neg hsoon]
  obtain ⟨hne, hsteady⟩ := hok.resolve_left hsoon
  unfold tick
  simp only [sortedIds_ne_nil hne, if_false]
  cases hcols : columns str s.modes s.fixes (rowsOf telemetry) (sortedIds telemetry) rf with
  | error e => exact ⟨[], r, [], hnothing, rfl, hs.touch _ _ _ _, .nil⟩
  | ok sample =>
    obtain ⟨line, r', rec, hline, hread, hsynced, hcarries⟩ :=
      writeRow_read hs hne hcols hsteady
    exact ⟨[line], r', [rec], hline, feed_singleton hread, hsynced.touch _ _ _ _,
      .cons hcarries .nil⟩

/-- A caller's field is renamed away from the type. -/
lemma ne_type_of_renamed {fields : PyDict K} {e : String × PyVal K} (he : e ∈ fields.map
    fun f => (if f.1 ∈ reservedEventKeys then "field_" ++ f.1 else f.1, f.2)) : e.1 ≠ "type" := by
  intro hk
  obtain ⟨f, -, rfl⟩ := List.mem_map.mp he
  by_cases hres : f.1 ∈ reservedEventKeys
  · simp only [hres, if_true] at hk
    have hlist := congrArg String.toList hk
    rw [String.toList_append] at hlist
    cases hlist
  · simp only [hres, if_false] at hk
    rw [hk] at hres
    exact hres (by decide)

lemma find_eventEntry {wall : K} {context fields : PyDict K} {kind : String}
    (h : ∀ e ∈ context, e.1 = "type" → text? e.2 = some "event") :
    find (eventEntry cfg now wall context kind fields) "type" = some (.str "event") := by
  have htext : ∀ {v : PyVal K}, text? v = some "event" → v = .str "event" := by
    intro v hv
    cases v with
    | str s => exact congrArg PyVal.str (Option.some.inj hv)
    | _ => cases hv
  exact find_assignAll_of_eq (find_assignAll_of_eq rfl fun e he hk => htext (h e he hk))
    fun e he hk => absurd hk (ne_type_of_renamed he)

lemma step_read {m : Recorder K} {call : Call K} {o : List (Call K)} (hs : Synced s r)
    (hok : Recordable str cfg s call) (hstep : step str cfg s call = some (m, o)) :
    ∃ items r' out, m.lines = s.lines ++ items ∧ feed readLine r items = .ok (r', out) ∧
      Synced m r' ∧ List.Forall₂ (Carries str cfg) o out := by
  cases call with
  | tick now telemetry rf =>
    obtain ⟨rfl, rfl⟩ := Prod.mk.inj (Option.some.inj hstep)
    exact recordTick_read hs hok
  | event now wall context kind fields =>
    obtain ⟨rfl, rfl⟩ := Prod.mk.inj (Option.some.inj hstep)
    have htype : find (eventEntry cfg now wall context kind fields) "type" = _ :=
      find_eventEntry hok
    have hopen : ¬ s.closed = true := by simp [hs.live]
    rw [recordEvent, if_neg hopen, if_neg hopen]
    exact ⟨_, r, _, rfl, feed_singleton (readLine_event htype), hs.touch _ _ _ _,
      .cons ⟨rfl, htype⟩ .nil⟩

/-- A finished file reads back as its header and then, in call order, one record
for each tick that was accepted and for each event. -/
theorem roundTrips {context : PyDict K} {calls recorded : List (Call K)} {t : Recorder K}
    (hok : Along (step str cfg) (Recordable str cfg) (newRecorder cfg context) calls)
    (hrun : run (step str cfg) (newRecorder cfg context) calls = some (t, recorded)) :
    ∃ records, iterBlackbox newReader (close t).2 = (headerEntry cfg context :: records, none) ∧
      List.Forall₂ (Carries str cfg) recorded records := by
  have hheader : feed readLine newReader (newRecorder cfg context).lines =
      .ok (newReader, [headerEntry cfg context]) := feed_singleton rfl
  obtain ⟨r, records, hread, -, hcarries⟩ := run_feed Recorder.lines
    (fun s l m o r hs hl hstep => step_read hs hl hstep) hheader (synced_new cfg context) hok hrun
  exact ⟨records, iterBlackbox_of_feed hread, hcarries⟩

/-! ## Two drones at 10 Hz -/

/-- `str` on the strings. -/
def strOf : PyVal ℚ → String
  | .str s => s
  | _ => ""

def tenHz : RecorderConfig ℚ where
  rateHz := 10
  keyframeIntervalS := 10
  flushIntervalS := 1
  t0 := 0
  startedWall := 1700000000
  started := "2023-11-14T22:13:20.000+00:00"
  pid := 1

def climbing (z : ℚ) : Dict ℤ (PyDict ℚ) :=
  [(7, [("flight_mode", .str "HOLD"), ("fleet_z", .nan)]),
    (3, [("fleet_z", .float z), ("flight_mode", .str "OFFBOARD"), ("armed", .bool true)])]

/-- A key line, an event, a tick line, and a key line again for a new mode. -/
def fourCalls : List (Call ℚ) :=
  [.tick 0 (climbing 1) .none, .event (1 / 20) 1700000000 [("backend", .str "sim")] "command" [],
    .tick (1 / 10) (climbing 2) (.mapping [(3, .float (1 / 8))]),
    .tick (1 / 5) [(3, [("flight_mode", .str "LAND")])] (.scalar (.float 0))]

instance (cfg : RecorderConfig ℚ) (s : Recorder ℚ) (call : Call ℚ) :
    Decidable (Recordable strOf cfg s call) :=
  match call with
  | .tick _ _ _ => inferInstanceAs (Decidable (_ ∨ _ ∧ _))
  | .event _ _ _ _ _ => inferInstanceAs (Decidable (∀ e ∈ _, _ → _))

theorem roundTrips_fourCalls : ∃ t recorded records,
      run (step strOf tenHz) (newRecorder tenHz []) fourCalls = some (t, recorded) ∧
      iterBlackbox newReader (close t).2 = (headerEntry tenHz [] :: records, none) ∧
      recorded.length = 4 ∧ List.Forall₂ (Carries strOf tenHz) recorded records := by
  have hok : Along (step strOf tenHz) (Recordable strOf tenHz) (newRecorder tenHz []) fourCalls := by
    decide +kernel
  obtain ⟨⟨t, recorded⟩, hrun, hlen⟩ :
      ∃ r ∈ run (step strOf tenHz) (newRecorder tenHz []) fourCalls, r.2.length = 4 := by
    decide +kernel
  obtain ⟨records, hread, hcarries⟩ := roundTrips hok hrun
  exact ⟨t, recorded, records, hrun, hread, hlen, hcarries⟩

/-- A tick of a fleet without drones is accepted, and its file has only the
header. -/
theorem empty_fleet_unrecorded : ∃ t recorded,
      run (step strOf tenHz) (newRecorder tenHz []) [.tick 0 [] .none] = some (t, recorded) ∧
      iterBlackbox newReader (close t).2 = ([headerEntry tenHz []], none) ∧
      ¬ ∃ records, iterBlackbox newReader (close t).2 = (headerEntry tenHz [] :: records, none) ∧
        List.Forall₂ (Carries strOf tenHz) recorded records := by
  refine ⟨_, _, rfl, rfl, ?_⟩
  intro ⟨records, hread, hcarries⟩
  obtain rfl := (List.cons.inj (Prod.mk.inj hread).1).2
  cases hcarries

/-- An event whose context names a type the reader does not know is skipped. -/
example : (run (step strOf tenHz) (newRecorder tenHz [])
    [.event 0 1700000000 [("type", .str "sim")] "command" []]).map
      (fun r => (iterBlackbox newReader (close r.1).2).1.length) = some 1 := by
  decide +kernel

/-- The difference of two rows that 64 bits cannot hold. -/
example : wrap64 (-(9 * 10 ^ 18) - 9 * 10 ^ 18) = 446744073709551616 := by decide

end Taramandal.Gcs.BlackboxLog
