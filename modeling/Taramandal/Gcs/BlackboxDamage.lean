import Taramandal.Gcs.BlackboxCut

/-! # A damaged flight record (`iter_blackbox`)

The reader ends at the first line that is not JSON, with a mark, and trusts the type and the
shape of every other line. So it reports all damage as it should just when the first line that
no recorder could have written there is not JSON (`reports_iff`). -/
set_option linter.unusedSectionVars false

namespace Taramandal.Gcs.BlackboxDamage

open Core.Values Gcs.Blackbox Gcs.BlackboxLog Gcs.BlackboxCut Lib.Dict Lib.Stream

variable {K : Type} [Field K] [LinearOrder K] [FloorRing K]

def recorderAfter (str : PyVal K → String) (cfg : RecorderConfig K) (context : PyDict K)
    (calls : List (Call K)) : Recorder K :=
  calls.foldl (fun s call => called str cfg call s) (newRecorder cfg context)

def Recorded (lines : List (PyVal K)) : Prop :=
  ∃ str cfg context calls, (∀ call ∈ calls, Framed call) ∧
    lines <+: (recorderAfter (K := K) str cfg context calls).lines

lemma Recorded.take {lines before : List (PyVal K)} (h : Recorded lines)
    (hbefore : before <+: lines) : Recorded before := by
  obtain ⟨str, cfg, context, calls, hcalls, hlines⟩ := h
  exact ⟨str, cfg, context, calls, hcalls, hbefore.trans hlines⟩

def blank : RecorderConfig K := ⟨0, 0, 0, 0, 0, "", 0⟩

lemma recorded_nil : Recorded ([] : List (PyVal K)) :=
  ⟨fun _ => "", blank, [], [], fun _ h => absurd h List.not_mem_nil, ⟨_, rfl⟩⟩

/-- The decompressed lines, each of them JSON, are such lines. -/
def Written (lines : List (Option (PyVal K))) : Prop :=
  ∃ values : List (PyVal K), lines = values.map some ∧ Recorded values

/-- A tick with the four channels and the eight, each with one integer for each drone. -/
structure Shaped (rec : PyDict K) : Prop where
  channels : ∃ ids ch, find rec "ids" = some (.list ids) ∧ find rec "ch" = some (.dict ch) ∧
    ch.map Prod.fst = allKeys ∧
    ∀ e ∈ ch, ∃ ns : List ℤ, e.2 = ints ns ∧ ns.length = ids.length

/-- Nothing is raised, a line that no recorder could have written there is marked by then, and
a tick has its shape. -/
structure Reports (lines : List (Option (PyVal K))) : Prop where
  quiet : (iterBlackbox newReader lines).2 = none
  marked : ∀ before line after, lines = before ++ line :: after → ¬ Written (before ++ [line]) →
    truncatedRecord ∈ (iterBlackbox newReader (before ++ [line])).1
  shaped : ∀ rec ∈ (iterBlackbox newReader lines).1, isTick rec = true → Shaped rec

/-- What is JSON behind lines of a recorder is a line the recorder could have written next. -/
def FirstDamageUnreadable (lines : List (Option (PyVal K))) : Prop :=
  ∀ before line after, lines = before.map some ++ some line :: after → Recorded before →
    Recorded (before ++ [line])

/-! ## The lines of a recorder -/

/-- Once a row was written, the reader holds a row of its drones. -/
structure Holds (s : Recorder K) (r : Reader K) : Prop where
  ids : r.ids = ints s.ids
  row : ∃ row : String → List ℤ, r.prev = heldRow row ∧ ∀ k ∈ allKeys, (row k).length = s.ids.length
  prev : ∀ k ∈ allKeys, (column s.prev k).length = s.ids.length

/-- A recorder whose lines are read without an exception, and with ticks as they should be. -/
structure Legible (s : Recorder K) : Prop where
  read : ∃ r recs, feed readLine newReader s.lines = .ok (r, recs) ∧ (s.ids ≠ [] → Holds s r) ∧
    ∀ rec ∈ recs, isTick rec = true → Shaped rec

variable {str : PyVal K → String} {cfg : RecorderConfig K} {s s' : Recorder K} {r r' : Reader K}

lemma shaped_tickRecord (key : Bool) (t : PyVal K) {ids : List ℤ} {row : String → List ℤ}
    (hids : r.ids = ints ids) (hprev : r.prev = heldRow row)
    (hrow : ∀ k ∈ allKeys, (row k).length = ids.length) : Shaped (tickRecord key t r) := by
  refine ⟨ids.map .int, r.prev.map fun e => (e.1, .list e.2), ?_, rfl, ?_, ?_⟩
  · exact congrArg some hids
  · rw [hprev, heldRow, List.map_map, List.map_map]
    exact List.map_id _
  · intro e he
    rw [hprev, heldRow, List.map_map] at he
    obtain ⟨k, hk, rfl⟩ := List.mem_map.mp he
    exact ⟨row k, rfl, (hrow k hk).trans (List.length_map _).symm⟩

lemma Legible.line (h : Legible s) {line : PyVal K} (hlines : s'.lines = s.lines ++ [line])
    (hread : ∀ r : Reader K, (s.ids ≠ [] → Holds s r) →
      ∃ r' out, readLine r line = .ok (r', out) ∧ (s'.ids ≠ [] → Holds s' r') ∧
        ∀ rec ∈ out, isTick rec = true → Shaped rec) : Legible s' := by
  obtain ⟨r, recs, hfeed, hholds, hshaped⟩ := h.read
  obtain ⟨r', out, hline, hholds', hout⟩ := hread r hholds
  refine ⟨r', recs ++ out, ?_, hholds', fun rec hrec => ?_⟩
  · rw [hlines]
    exact feed_append hfeed (feed_singleton hline)
  · exact (List.mem_append.mp hrec).elim (hshaped rec) (hout rec)

lemma Legible.touch (h : Legible s) (hlines : s'.lines = s.lines) (hids : s'.ids = s.ids)
    (hprev : s'.prev = s.prev) : Legible s' := by
  obtain ⟨r, recs, hfeed, hholds, hshaped⟩ := h.read
  refine ⟨r, recs, hlines ▸ hfeed, fun hne => ?_, hshaped⟩
  have hrow := hholds (hids ▸ hne)
  exact ⟨hids ▸ hrow.ids, hids ▸ hrow.row, by rw [hids, hprev]; exact hrow.prev⟩

lemma legible_writeRow {now : K} {ids : List ℤ} {sample : Sampled} (h : Legible s)
    (hids : ids ≠ []) (hlen : ∀ k ∈ allKeys, (column sample.cols k).length = ids.length) :
    Legible (writeRow cfg now ids sample s) := by
  by_cases hkey : needKey cfg now ids sample s = true
  · have hlines : (writeRow cfg now ids sample s).lines =
        s.lines ++ [.dict (keyEntry (tMs cfg now) ids sample)] := by
      simp only [writeRow, hkey, if_true]
    refine h.line hlines fun r _ => ?_
    have hids' : (writeRow cfg now ids sample s).ids = ids := by simp only [writeRow, hkey, if_true]
    refine ⟨_, _, readLine_key r _ _ _, fun _ => ⟨?_, ⟨column sample.cols, rfl, ?_⟩, ?_⟩, ?_⟩
    · rw [hids']
      rfl
    · rw [hids']
      exact hlen
    · rw [hids']
      exact hlen
    · intro rec hrec _
      obtain rfl := List.mem_singleton.mp hrec
      exact shaped_tickRecord true _ rfl rfl hlen
  · have hlines : (writeRow cfg now ids sample s).lines =
        s.lines ++ [.dict (diffEntry (tMs cfg now) s.prev sample.cols)] := by
      simp only [writeRow, hkey]
      rfl
    refine h.line hlines fun r hholds => ?_
    have hids' : (writeRow cfg now ids sample s).ids = s.ids := by
      simp only [writeRow, hkey]
      rfl
    simp only [needKey, Bool.or_eq_true, decide_eq_true_eq, not_or, ne_eq, not_not] at hkey
    obtain ⟨⟨⟨hsame, -⟩, -⟩, -⟩ := hkey
    obtain ⟨hr, ⟨row, hprev, hrow⟩, hbefore⟩ := hholds (hsame ▸ hids)
    have hfind : ∀ k ∈ allKeys, find r.prev k = some ((row k).map .int) := by
      intro k hk
      rw [hprev]
      exact find_map_keys _ _ hk
    -- the drones are those of the last row, so the differences are as long as it
    have hdrift : ∀ k ∈ allKeys, (driftedRow row s.prev sample.cols k).length = s.ids.length := by
      intro k hk
      rw [driftedRow, List.length_zipWith, List.length_zipWith, hrow k hk, hbefore k hk,
        hlen k hk, hsame, min_self, min_self]
    refine ⟨_, _, readLine_diff_row _ _ _ hfind, fun _ => ⟨?_, ⟨_, rfl, ?_⟩, ?_⟩, ?_⟩
    · rw [hids']
      exact hr
    · rw [hids']
      exact hdrift
    · rw [hids', ← hsame]
      exact hlen
    · intro rec hrec _
      obtain rfl := List.mem_singleton.mp hrec
      exact shaped_tickRecord false _ hr rfl hdrift

lemma legible_recordTick {now : K} {telemetry : Dict ℤ (PyDict K)} {rf : RfDropRate K}
    (h : Legible s) : Legible (recordTick str cfg now telemetry rf s).1 := by
  unfold recordTick
  split
  · exact h.touch rfl rfl rfl
  split
  · exact h
  unfold tick
  by_cases hids : sortedIds telemetry = []
  · simp only [hids, if_true]
    exact h.touch rfl rfl rfl
  simp only [hids, if_false]
  cases hcols : columns str s.modes s.fixes (rowsOf telemetry) (sortedIds telemetry) rf with
  | error e => exact h.touch rfl rfl rfl
  | ok sample =>
    have hlen : ∀ k ∈ allKeys, (column sample.cols k).length = (sortedIds telemetry).length :=
      fun k hk => (samples_of_columns hcols).length (length_rowsOf telemetry) hk
    have hrow : Legible (writeRow cfg now (sortedIds telemetry) sample s) :=
      legible_writeRow h hids hlen
    exact hrow.touch rfl rfl rfl

lemma legible_called {call : Call K} (hcall : Framed call) (h : Legible s) :
    Legible (called str cfg call s) := by
  cases call with
  | tick now telemetry rf => exact legible_recordTick h
  | event now wall context kind fields =>
    change Legible (recordEvent cfg now wall context kind fields s)
    unfold recordEvent
    split
    · exact h.touch rfl rfl rfl
    · refine h.line rfl fun r hholds => ?_
      have hread : ∃ out, readLine r (.dict (eventEntry cfg now wall context kind fields)) =
          .ok (r, out) := readLine_eventEntry r hcall
      obtain ⟨out, hread⟩ := hread
      have htype : typeOf (eventEntry cfg now wall context kind fields) ≠ some "key" ∧
          typeOf (eventEntry cfg now wall context kind fields) ≠ some "tick" :=
        typeOf_eventEntry hcall
      have hrow : isRow (.dict (eventEntry cfg now wall context kind fields)) = false := by
        simp [isRow, htype.1, htype.2]
      have hcount := (readLine_types hread).1
      rw [hrow] at hcount
      refine ⟨r, out, hread, fun hne => ⟨(hholds hne).ids, (hholds hne).row, (hholds hne).prev⟩,
        fun rec hrec htick => ?_⟩
      exact absurd htick (List.countP_eq_zero.mp hcount rec hrec)

lemma legible_recorderAfter (context : PyDict K) {calls : List (Call K)}
    (hcalls : ∀ call ∈ calls, Framed call) : Legible (recorderAfter str cfg context calls) := by
  have hnew : Legible (newRecorder cfg context) := by
    refine ⟨newReader, [headerEntry cfg context], feed_singleton rfl, fun hne => absurd rfl hne, ?_⟩
    intro rec hrec htick
    obtain rfl := List.mem_singleton.mp hrec
    cases htick
  have hrun : ∀ (calls : List (Call K)) (s : Recorder K), (∀ call ∈ calls, Framed call) →
      Legible s → Legible (calls.foldl (fun s call => called str cfg call s) s) := by
    intro calls
    induction calls with
    | nil => exact fun _ _ h => h
    | cons call calls ih =>
      intro s hcalls h
      exact ih _ (fun c hc => hcalls c (List.mem_cons_of_mem call hc))
        (legible_called (hcalls call List.mem_cons_self) h)
  exact hrun calls _ hcalls hnew

/-- Lines of a recorder are read without an exception, and their ticks have their shape. -/
lemma recorded_read {lines : List (PyVal K)} (h : Recorded lines) :
    ∃ r recs, feed readLine newReader lines = .ok (r, recs) ∧
      ∀ rec ∈ recs, isTick rec = true → Shaped rec := by
  obtain ⟨str, cfg, context, calls, hcalls, rest, hlines⟩ := h
  have hlegible : Legible (recorderAfter str cfg context calls) :=
    legible_recorderAfter context hcalls
  obtain ⟨r, recs, hfeed, -, hshaped⟩ := hlegible.read
  rw [← hlines] at hfeed
  obtain ⟨m, before, behind, hbefore, -, rfl⟩ := feed_of_append hfeed
  exact ⟨m, before, hbefore, fun rec hrec => hshaped rec (List.mem_append_left _ hrec)⟩

/-! ## Any lines -/

lemma truncatedRecord_notMem (r : Reader K) (lines : List (PyVal K)) :
    truncatedRecord ∉ (iterBlackbox r (lines.map some)).1 := by
  induction lines generalizing r with
  | nil => exact List.not_mem_nil
  | cons line lines ih =>
    rw [List.map_cons, iterBlackbox]
    cases hread : readLine r line with
    | error e => exact List.not_mem_nil
    | ok next =>
      obtain ⟨r', out⟩ := next
      intro hmem
      rcases List.mem_append.mp hmem with hmem | hmem
      · exact (readLine_types hread).2 _ hmem rfl
      · exact ih r' hmem

lemma FirstDamageUnreadable.recorded {lines : List (Option (PyVal K))}
    (h : FirstDamageUnreadable lines) {values : List (PyVal K)}
    (hvalues : values.map some <+: lines) : Recorded values := by
  induction values using List.reverseRecOn with
  | nil => exact recorded_nil
  | append_singleton before line ih =>
    obtain ⟨after, hlines⟩ := hvalues
    rw [List.map_append, List.append_assoc] at hlines
    exact h before line after hlines.symm (ih ⟨_, hlines⟩)

lemma readable_prefix (lines : List (Option (PyVal K))) :
    ∃ (values : List (PyVal K)) (rest : List (Option (PyVal K))), lines = values.map some ++ rest ∧
      (rest = [] ∨ ∃ after, rest = none :: after) := by
  induction lines with
  | nil => exact ⟨[], [], rfl, .inl rfl⟩
  | cons line lines ih =>
    cases line with
    | none => exact ⟨[], _, rfl, .inr ⟨lines, rfl⟩⟩
    | some v =>
      obtain ⟨values, rest, rfl, hrest⟩ := ih
      exact ⟨v :: values, rest, rfl, hrest⟩

lemma Recorded.written {values : List (PyVal K)} (h : Recorded values)
    {lines : List (Option (PyVal K))} (hlines : lines <+: values.map some) : Written lines := by
  rw [List.prefix_iff_eq_take, ← List.map_take] at hlines
  exact ⟨_, hlines, h.take (List.take_prefix ..)⟩

lemma Recorded.reports {values : List (PyVal K)} (h : Recorded values)
    {rest : List (Option (PyVal K))} (hrest : rest = [] ∨ ∃ after, rest = none :: after) :
    Reports (values.map some ++ rest) := by
  obtain ⟨r, recs, hfeed, hshaped⟩ := recorded_read h
  have hend : iterBlackbox r rest = (if rest = [] then [] else [truncatedRecord], none) := by
    rcases hrest with rfl | ⟨after, rfl⟩
    · rfl
    · rfl
  have hread := iterBlackbox_append hfeed rest
  rw [hend] at hread
  refine ⟨congrArg Prod.snd hread, fun before line after hlines hunwritten => ?_, ?_⟩
  · have hbefore : before ++ [line] <+: values.map some ++ rest :=
      ⟨after, by rw [hlines, List.append_assoc]; rfl⟩
    rcases List.prefix_or_prefix_of_prefix hbefore (List.prefix_append (values.map some) rest)
      with hpre | ⟨tail, htail⟩
    · exact absurd (h.written hpre) hunwritten
    -- the line is the one that is not JSON, or behind it
    rw [← htail, List.prefix_append_right_inj] at hbefore
    cases tail with
    | nil =>
      rw [List.append_nil] at htail
      exact absurd (h.written (htail ▸ List.prefix_rfl)) hunwritten
    | cons one tail =>
      rcases hrest with rfl | ⟨end', rfl⟩
      · exact absurd (List.prefix_nil.mp hbefore) (List.cons_ne_nil _ _)
      obtain ⟨rfl, -⟩ := List.cons_prefix_cons.mp hbefore
      rw [← htail, iterBlackbox_append hfeed]
      exact List.mem_append_right _ (List.mem_singleton_self _)
  · rw [hread]
    intro rec hrec htick
    rcases List.mem_append.mp hrec with hrec | hrec
    · exact hshaped rec hrec htick
    · split at hrec
      · cases hrec
      · obtain rfl := List.mem_singleton.mp hrec
        cases htick

/-- The damage is reported just when the first line that no recorder could have written there is
not JSON, if there is such a line. -/
theorem reports_iff (lines : List (Option (PyVal K))) :
    Reports lines ↔ FirstDamageUnreadable lines := by
  constructor
  · intro h before line after hlines _
    by_contra hbad
    have hunwritten : ¬ Written (before.map some ++ [some line]) := by
      intro ⟨values, hvalues, hrecorded⟩
      rw [← List.map_singleton (f := some), ← List.map_append] at hvalues
      exact hbad (List.map_injective_iff.mpr (Option.some_injective _) hvalues ▸ hrecorded)
    have hmark := h.marked _ _ _ hlines hunwritten
    rw [← List.map_singleton (f := some), ← List.map_append] at hmark
    exact truncatedRecord_notMem _ _ hmark
  · intro h
    obtain ⟨values, rest, rfl, hrest⟩ := readable_prefix lines
    exact (h.recorded (List.prefix_append ..)).reports hrest

def lostRow : List (Option (PyVal ℚ)) :=
  ((recorderAfter strOf tenHz [] fourCalls).lines.eraseIdx 1).map some

/-- The differences behind it have nothing to go by, and no mark is given. -/
theorem lostRow_raises :
    (iterBlackbox newReader lostRow).2 = some (.keyError "x") ∧ ¬ Reports lostRow := by
  have hraises : (iterBlackbox newReader lostRow).2 = some (.keyError "x") := by
    with_unfolding_all rfl
  refine ⟨hraises, fun h => ?_⟩
  cases hraises.symm.trans h.quiet

/-- A line that is no object. -/
example : (iterBlackbox newReader [some (.int 5 : PyVal ℚ)]).2 = some .attributeError := rfl

end Taramandal.Gcs.BlackboxDamage
