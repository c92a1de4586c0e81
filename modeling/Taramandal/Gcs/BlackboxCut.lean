import Taramandal.Gcs.BlackboxLog
import Taramandal.Lib.Zstream

/-! # A flight record, cut off (`_emit`, `_flush`, `_decompressed_lines`)

The bytes of the file: lines of JSON through a compressor that is flushed now and then, on a
disk whose writes may fail. The reader takes the file in slices. Whatever is left of a file
reads as the records it begins with and, unless it is whole, one mark that it was cut off
(`cut_anywhere`), as long as no context makes a row of an event. -/
set_option linter.unusedSectionVars false

namespace Taramandal.Gcs.BlackboxCut

open Core.Values Gcs.Blackbox Gcs.BlackboxLog Lib.Check Lib.Dict Lib.Lines Lib.Stream Lib.Zstream

variable {K : Type}

/-- `json.dumps` of one line, in bytes, and `json.loads`, which may raise `ValueError`. -/
structure Json (K : Type) where
  dumps : PyVal K → Bytes
  loads : Bytes → Option (PyVal K)

/-- `b"\n"`. -/
def newline : UInt8 := 10

def Json.Reads (json : Json K) (v : PyVal K) : Prop :=
  json.loads (json.dumps v) = some v ∧ newline ∉ json.dumps v

/-- What `_emit` compresses. -/
def Json.line (json : Json K) (v : PyVal K) : Bytes := json.dumps v ++ [newline]

/-! ## The file -/

/-- A recorder with its compressor, known by what it was asked, and its file. -/
structure Session (K : Type) where
  recorder : Recorder K
  lastFlushT : K
  asked : List (Op (PyVal K))
  failed : Bool
  file : Bytes

section

variable (z : Codec UInt8) (json : Json K)

def Session.requests (s : Session K) : List (Op Bytes) := s.asked.map (Op.map json.line)

/-- One request, and the write behind it. Of a write that fails the file gets some bytes. -/
def Session.ask (op : Op (PyVal K)) (fault : Option Nat) (s : Session K) : Session K :=
  let out := (z.ask (z.after z.compressobj (s.requests json)) (op.map json.line)).2
  { s with
    asked := s.asked ++ [op]
    failed := fault.isSome
    file := s.file ++ fault.elim out fun k => out.take k }

/-- `_flush`, done by `done`. -/
def Session.flushed (done : K) (fault : Option Nat) (s : Session K) : Session K :=
  let s' := s.ask z json .sync fault
  if s'.failed then s' else { s' with lastFlushT := done }

/-- `_fail`. -/
def Session.dropping (s : Session K) : Session K :=
  { s with recorder := { s.recorder with dropped := s.recorder.dropped + 1 } }

end

/-- How the two writes of a call go, if it comes to them, and when a flush is done. -/
structure Disk (K : Type) where
  emit : Option Nat
  flush : Option Nat
  done : K

section

variable (z : Codec UInt8) (json : Json K)

def Session.emitting (line : PyVal K) (due : Bool) (disk : Disk K) (s : Session K) : Session K :=
  let s' := s.ask z json (.put line) disk.emit
  if s'.failed || !due then s' else s'.flushed z json disk.done disk.flush

def Session.flush (done : K) (fault : Option Nat) (s : Session K) : Session K :=
  if s.failed || s.recorder.closed then s
  else
    let s' := s.flushed z json done fault
    if s'.failed then s'.dropping else s'

def Session.close (fault : Option Nat) (s : Session K) : Session K :=
  if s.recorder.closed then s
  else
    let s' := { s with recorder := (Blackbox.close s.recorder).1 }
    if s.failed then s'
    else
      let out := z.finish (z.after z.compressobj (s.requests json))
      match fault with
      | none => { s' with file := s.file ++ out }
      | some k => { s'.dropping with failed := true, file := s.file ++ out.take k }

end

section

variable [Field K] [LinearOrder K] [FloorRing K]

def called (str : PyVal K → String) (cfg : RecorderConfig K) (call : Call K) (s : Recorder K) :
    Recorder K :=
  match call with
  | .tick now telemetry rf => (recordTick str cfg now telemetry rf s).1
  | .event now wall context kind fields => recordEvent cfg now wall context kind fields s

/-- A flush is due behind the line of a call: at intervals for ticks, always for events. -/
def flushDue (cfg : RecorderConfig K) (call : Call K) (s : Session K) : Bool :=
  match call with
  | .tick now _ _ => cfg.flushIntervalS ≤ now - s.lastFlushT
  | .event _ _ _ _ _ => true

/-- `__init__`: the header, flushed. When a write fails there is a file and no recorder. -/
def openSession (z : Codec UInt8) (json : Json K) (cfg : RecorderConfig K) (context : PyDict K)
    (disk : Disk K) : Session K :=
  let s : Session K := {
    recorder := newRecorder cfg context
    lastFlushT := cfg.t0
    asked := []
    failed := false
    file := [] }
  s.emitting z json (.dict (headerEntry cfg context)) true disk

/-- `record_tick` and `record_event`. Nothing is read any more of a recorder that has failed. -/
def Session.record (z : Codec UInt8) (json : Json K) (str : PyVal K → String)
    (cfg : RecorderConfig K) (call : Call K) (disk : Disk K) (s : Session K) : Session K :=
  if s.failed then s.dropping
  else
    let next := called str cfg call s.recorder
    match next.lines.drop s.recorder.lines.length with
    | [] => { s with recorder := next }
    | line :: _ =>
      let s' := s.emitting z json line (flushDue cfg call s) disk
      if s'.failed then s'.dropping else { s' with recorder := next }

/-- A call of the recorder, with how the disk takes it. -/
inductive Act (K : Type) where
  | record (call : Call K) (disk : Disk K)
  | flush (done : K) (fault : Option Nat)
  | close (fault : Option Nat)

def Session.act (z : Codec UInt8) (json : Json K) (str : PyVal K → String)
    (cfg : RecorderConfig K) (s : Session K) : Act K → Session K
  | .record call disk => s.record z json str cfg call disk
  | .flush done fault => s.flush z json done fault
  | .close fault => s.close z json fault

def session (z : Codec UInt8) (json : Json K) (str : PyVal K → String) (cfg : RecorderConfig K)
    (context : PyDict K) (disk : Disk K) (acts : List (Act K)) : Session K :=
  acts.foldl (Session.act z json str cfg) (openSession z json cfg context disk)

end

def readSlice : Nat := 4096

/-- `f.read(_READ_SLICE)`, to the end of the file. -/
def slices (bytes : Bytes) : List Bytes :=
  if _h : bytes = [] then [] else bytes.take readSlice :: slices (bytes.drop readSlice)
termination_by bytes.length
decreasing_by
  have hpos := List.length_pos_of_ne_nil _h
  rw [List.length_drop, readSlice]
  omega

/-- `_decompressed_lines`; `none` is the mark of a stream that is cut off or damaged. -/
def decompressedLines (z : Codec UInt8) (dec : z.Dec) (pending : Bytes) :
    List Bytes → List (Option Bytes)
  | [] => if !z.eof dec || !pending.isEmpty then [none] else []
  | chunk :: chunks =>
    match z.decompress dec chunk with
    | none => [none]
    | some (dec, data) =>
      let (lines, pending) := cut newline [] (pending ++ data)
      lines.map some ++ decompressedLines z dec pending chunks

/-- `iter_blackbox`, of the bytes of a file. -/
def iterFile [Field K] (z : Codec UInt8) (json : Json K) (bytes : Bytes) :
    List (PyDict K) × Option PyError :=
  iterBlackbox newReader
    ((decompressedLines z z.decompressobj [] (slices bytes)).map (·.bind json.loads))

/-! ## Reading what is left -/

lemma flatten_slices (bytes : Bytes) : (slices bytes).flatten = bytes := by
  induction bytes using slices.induct with
  | case1 => simp [slices]
  | case2 bytes h ih =>
    rw [slices, dif_neg h, List.flatten_cons, ih, List.take_append_drop]

lemma decompressedLines_eq {z : Codec UInt8} {dec dec' : z.Dec} {pending out : Bytes}
    {chunks : List Bytes} (hpending : newline ∉ pending)
    (h : z.inflate dec chunks = some (dec', out)) :
    decompressedLines z dec pending chunks = (cut newline pending out).1.map some ++
        if !z.eof dec' || !(cut newline pending out).2.isEmpty then [none] else [] := by
  induction chunks generalizing dec pending out with
  | nil =>
    obtain ⟨rfl, rfl⟩ := Prod.mk.inj (Option.some.inj h)
    rfl
  | cons chunk chunks ih =>
    obtain ⟨⟨m, data⟩, hdata, h⟩ := Option.bind_eq_some_iff.mp h
    obtain ⟨⟨n, rest⟩, hrest, h⟩ := Option.bind_eq_some_iff.mp h
    obtain ⟨rfl, rfl⟩ := Prod.mk.inj (Option.some.inj h)
    simp only [decompressedLines, hdata, cut_carry hpending]
    rw [ih (notMem_cut hpending data) hrest, cut_append, List.map_append, List.append_assoc]

def truncatedRecord : PyDict K := [("type", .str "truncated")]

def salvaged (z : Codec UInt8) (bytes : Bytes) : Bytes :=
  ((z.inflate z.decompressobj (slices bytes)).map Prod.snd).getD []

def survived (z : Codec UInt8) (bytes : Bytes) : Nat := (cut newline [] (salvaged z bytes)).1.length

section

variable {z : Codec UInt8} {json : Json K} {asked : List (Op (PyVal K))} {bytes bytes' : Bytes}

lemma text_eq (json : Json K) (asked : List (Op (PyVal K))) :
    (puts (asked.map (Op.map json.line))).flatten =
      unlines newline ((puts asked).map json.dumps) := by
  rw [puts_map, unlines, List.flatMap_map, ← List.flatMap_def]
  rfl

lemma salvaged_eq {d : z.Dec} {out : Bytes}
    (h : z.inflate z.decompressobj (slices bytes) = some (d, out)) : salvaged z bytes = out := by
  rw [salvaged, h]
  rfl

lemma length_le_survived (hz : z.Salvages) (hjson : ∀ v ∈ puts asked, json.Reads v)
    (hbytes : bytes <+: z.finished (asked.map (Op.map json.line)))
    {ops₁ ops₂ : List (Op (PyVal K))} (hasked : asked = ops₁ ++ .sync :: ops₂)
    (hsync : z.stream (ops₁.map (Op.map json.line) ++ [.sync]) <+: bytes) :
    (puts ops₁).length ≤ survived z bytes := by
  obtain ⟨d, out, hout, -, -, -, hflushed⟩ :=
    hz.inflates _ (slices bytes) ((flatten_slices bytes).symm ▸ hbytes)
  have hpre := hflushed (ops₁.map (Op.map json.line)) (ops₂.map (Op.map json.line))
    (by rw [hasked, List.map_append]; rfl)
    (by rw [flatten_slices]; exact hsync)
  rw [text_eq] at hpre
  have hlines := cut_extend (fun l hl => by
    obtain ⟨v, hv, rfl⟩ := List.mem_map.mp hl
    refine (hjson v ?_).2
    rw [hasked, puts_append]
    exact List.mem_append_left _ hv) hpre
  rw [survived, salvaged_eq hout]
  exact List.length_map json.dumps ▸ hlines.length_le

lemma survived_mono (hz : z.Salvages)
    (hbytes : bytes' <+: z.finished (asked.map (Op.map json.line))) (h : bytes <+: bytes') :
    survived z bytes ≤ survived z bytes' := by
  obtain ⟨d, out, hout, -⟩ :=
    hz.inflates _ (slices bytes) ((flatten_slices bytes).symm ▸ h.trans hbytes)
  obtain ⟨d', out', hout', -⟩ :=
    hz.inflates _ (slices bytes') ((flatten_slices bytes').symm ▸ hbytes)
  have hpre := hz.mono (by rw [flatten_slices, flatten_slices]; exact h)
    (by rw [flatten_slices]; exact hbytes) hout hout'
  rw [survived, survived, salvaged_eq hout, salvaged_eq hout']
  exact (cut_take hpre).length_le

lemma iterFile_eq [Field K] (hz : z.Salvages) (hjson : ∀ v ∈ puts asked, json.Reads v)
    (hbytes : bytes <+: z.finished (asked.map (Op.map json.line))) :
    iterFile z json bytes = iterBlackbox newReader
      (((puts asked).take (survived z bytes)).map some ++
        if bytes = z.finished (asked.map (Op.map json.line)) then [] else [none]) := by
  obtain ⟨d, out, hout, hpre, heof, hall, -⟩ :=
    hz.inflates _ (slices bytes) ((flatten_slices bytes).symm ▸ hbytes)
  rw [flatten_slices] at heof
  rw [text_eq] at hpre hall
  have hclean : ∀ l ∈ (puts asked).map json.dumps, newline ∉ l := by
    intro l hl
    obtain ⟨v, hv, rfl⟩ := List.mem_map.mp hl
    exact (hjson v hv).2
  have hlines : (cut newline [] out).1 = ((puts asked).take (survived z bytes)).map json.dumps := by
    rw [List.map_take, survived, salvaged_eq hout]
    exact List.prefix_iff_eq_take.mp (cut_unlines_take hclean hpre)
  have hback : (((puts asked).take (survived z bytes)).map json.dumps).map json.loads =
      ((puts asked).take (survived z bytes)).map some := by
    rw [List.map_map]
    exact List.map_congr_left fun v hv => (hjson v (List.mem_of_mem_take hv)).1
  rw [iterFile, decompressedLines_eq List.not_mem_nil hout, hlines, List.map_append, List.map_map]
  change iterBlackbox newReader ((((puts asked).take (survived z bytes)).map json.dumps).map
    json.loads ++ _) = _
  rw [hback]
  by_cases hwhole : bytes = z.finished (asked.map (Op.map json.line))
  · have hend := heof.mpr hwhole
    have hnone : (cut newline [] out).2 = [] := by rw [hall hend, cut_unlines hclean]
    simp [hwhole, hend, hnone]
  · have hend : z.eof d = false := Bool.eq_false_iff.mpr fun h => hwhole (heof.mp h)
    simp [hwhole, hend]

end

section

variable [Field K]

def typeOf (rec : PyDict K) : Option String := (find rec "type").bind text?

def isTick (rec : PyDict K) : Bool := typeOf rec = some "tick"

def isRow : PyVal K → Bool
  | .dict rec => typeOf rec = some "key" || typeOf rec = some "tick"
  | _ => false

lemma typeOf_tickRecord (key : Bool) (v : PyVal K) (r : Reader K) :
    typeOf (tickRecord key v r) = some "tick" := rfl

/-- A line gives one tick if it is a row and none else, and never the mark of an end. -/
lemma readLine_types {r r' : Reader K} {line : PyVal K} {out : List (PyDict K)}
    (h : readLine r line = .ok (r', out)) :
    out.countP isTick = (if isRow line then 1 else 0) ∧
      ∀ rec ∈ out, typeOf rec ≠ some "truncated" := by
  have hrow : ∀ {rec : PyDict K} (key : Bool) (v : PyVal K) (m : Reader K),
      isRow (.dict rec) = true → out = [tickRecord key v m] →
      out.countP isTick = (if isRow (.dict rec) then 1 else 0) ∧
        ∀ rec ∈ out, typeOf rec ≠ some "truncated" := by
    intro rec key v m hrec hout
    subst hout
    simp [hrec, isTick, typeOf_tickRecord]
  cases line with
  | dict rec =>
    rw [readLine] at h
    change (if typeOf rec = some "key" then _ else if typeOf rec = some "tick" then _ else
      if typeOf rec = some "header" ∨ typeOf rec = some "event" then _ else _) = _ at h
    split at h
    · next hkey =>
      obtain ⟨ids, -, h⟩ := bind_eq_ok.mp h
      obtain ⟨modes, -, h⟩ := bind_eq_ok.mp h
      obtain ⟨fixes, -, h⟩ := bind_eq_ok.mp h
      obtain ⟨ch, -, h⟩ := bind_eq_ok.mp h
      obtain ⟨entries, -, h⟩ := bind_eq_ok.mp h
      obtain ⟨prev, -, h⟩ := bind_eq_ok.mp h
      obtain ⟨v, -, h⟩ := bind_eq_ok.mp h
      exact hrow true v _ (by simp [isRow, hkey]) (congrArg Prod.snd (Except.ok.inj h)).symm
    split at h
    · next htick =>
      obtain ⟨ch, -, h⟩ := bind_eq_ok.mp h
      obtain ⟨entries, -, h⟩ := bind_eq_ok.mp h
      obtain ⟨prev, -, h⟩ := bind_eq_ok.mp h
      obtain ⟨v, -, h⟩ := bind_eq_ok.mp h
      exact hrow false v _ (by simp [isRow, htick]) (congrArg Prod.snd (Except.ok.inj h)).symm
    · next hkey htick =>
      have hno : isRow (.dict rec) = false := by simp [isRow, hkey, htick]
      split at h
      · next hother =>
        obtain rfl := congrArg Prod.snd (Except.ok.inj h)
        rcases hother with hother | hother <;> simp [hno, isTick, hother]
      · obtain rfl := congrArg Prod.snd (Except.ok.inj h)
        simp [hno]
  | _ => cases h

lemma feed_types {r r' : Reader K} {lines : List (PyVal K)} {recs : List (PyDict K)}
    (h : feed readLine r lines = .ok (r', recs)) :
    recs.countP isTick = lines.countP isRow ∧ ∀ rec ∈ recs, typeOf rec ≠ some "truncated" := by
  induction lines generalizing r recs with
  | nil =>
    obtain ⟨-, rfl⟩ := Prod.mk.inj (Except.ok.inj h)
    simp
  | cons line lines ih =>
    obtain ⟨⟨m, out⟩, hline, h⟩ := bind_eq_ok.mp h
    obtain ⟨⟨n, more⟩, hmore, h⟩ := bind_eq_ok.mp h
    obtain ⟨rfl, rfl⟩ := Prod.mk.inj (Except.ok.inj h)
    obtain ⟨hone, hmark⟩ := readLine_types hline
    obtain ⟨hrest, hmarks⟩ := ih hmore
    refine ⟨?_, fun rec hrec => ?_⟩
    · rw [List.countP_append, hone, hrest, List.countP_cons, Nat.add_comm]
    · exact (List.mem_append.mp hrec).elim (hmark rec) (hmarks rec)

end

section Writes

variable [Field K] [LinearOrder K] [FloorRing K] {str : PyVal K → String}
  {cfg : RecorderConfig K}

/-- The reader holds a row of integers once the recorder has written one. -/
def Follows (s : Recorder K) (r : Reader K) : Prop :=
  s.ids ≠ [] → ∀ k ∈ allKeys, ∃ ns : List ℤ, find r.prev k = some (ns.map .int)

def Framed : Call K → Prop
  | .tick _ _ _ => True
  | .event _ _ context _ _ =>
    ∀ e ∈ context, e.1 = "type" → text? e.2 ≠ some "key" ∧ text? e.2 ≠ some "tick"

lemma readLine_diff_ints {r : Reader K} (t : ℤ) (prev cols : Columns)
    (h : ∀ k ∈ allKeys, ∃ ns : List ℤ, find r.prev k = some (ns.map .int)) :
    ∃ r' out, readLine r (.dict (diffEntry t prev cols)) = .ok (r', out) ∧
      ∀ k ∈ allKeys, ∃ ns : List ℤ, find r'.prev k = some (ns.map .int) := by
  choose! row hrow using h
  exact ⟨_, _, readLine_diff_row t prev cols hrow, fun k hk => ⟨_, find_map_keys _ _ hk⟩⟩

/-- A line was written that the reader can follow, or none. -/
def Extends (s s' : Recorder K) (r : Reader K) : Prop :=
  s'.lines = s.lines ∧ Follows s' r ∨
    s.closed = false ∧ ∃ line r' out, s'.lines = s.lines ++ [line] ∧
      readLine r line = .ok (r', out) ∧ Follows s' r'

lemma writeRow_follows {s : Recorder K} {r : Reader K} {now : K} {ids : List ℤ}
    {sample : Sampled} (h : Follows s r) (hids : ids ≠ []) :
    ∃ line r' out, (writeRow cfg now ids sample s).lines = s.lines ++ [line] ∧
      readLine r line = .ok (r', out) ∧ Follows (writeRow cfg now ids sample s) r' := by
  unfold writeRow
  by_cases hkey : needKey cfg now ids sample s = true
  · simp only [hkey, if_true]
    exact ⟨_, _, _, rfl, readLine_key r _ _ _, fun _ k hk => ⟨_, find_map_keys _ _ hk⟩⟩
  · simp only [hkey]
    simp only [needKey, Bool.or_eq_true, decide_eq_true_eq, not_or, ne_eq, not_not] at hkey
    obtain ⟨⟨⟨hsame, -⟩, -⟩, -⟩ := hkey
    obtain ⟨r', out, hread, hints⟩ :=
      readLine_diff_ints (tMs cfg now) s.prev sample.cols (h (hsame ▸ hids))
    exact ⟨_, r', out, rfl, hread, fun _ => hints⟩

lemma recordTick_extends {s : Recorder K} {r : Reader K} {now : K}
    {telemetry : Dict ℤ (PyDict K)} {rf : RfDropRate K} (h : Follows s r) :
    Extends s (recordTick str cfg now telemetry rf s).1 r := by
  unfold recordTick
  by_cases hclosed : s.closed = true
  · rw [if_pos hclosed]
    exact .inl ⟨rfl, h⟩
  rw [if_neg hclosed]
  by_cases hsoon : tooSoon cfg now s = true
  · rw [if_pos hsoon]
    exact .inl ⟨rfl, h⟩
  rw [if_neg hsoon]
  unfold tick
  by_cases hids : sortedIds telemetry = []
  · simp only [hids, if_true]
    exact .inl ⟨rfl, h⟩
  simp only [hids, if_false]
  cases hcols : columns str s.modes s.fixes (rowsOf telemetry) (sortedIds telemetry) rf with
  | error e => exact .inl ⟨rfl, h⟩
  | ok sample =>
    exact .inr ⟨Bool.eq_false_iff.mpr hclosed, writeRow_follows h hids⟩

lemma typeOf_eventEntry {now wall : K} {context fields : PyDict K} {kind : String}
    (h : Framed (.event now wall context kind fields)) :
    typeOf (eventEntry cfg now wall context kind fields) ≠ some "key" ∧
      typeOf (eventEntry cfg now wall context kind fields) ≠ some "tick" := by
  let plain (v : PyVal K) : Prop := text? v ≠ some "key" ∧ text? v ≠ some "tick"
  have hplain : ∀ v, find (eventEntry cfg now wall context kind fields) "type" = some v →
      plain v := by
    intro v hv
    refine find_assignAll_induction (P := plain) (fun w hw => ?_)
      (fun a ha hk => absurd hk (ne_type_of_renamed ha)) hv
    refine find_assignAll_induction (P := plain) (fun u hu => ?_) h hw
    obtain rfl := Option.some.inj hu
    simp [plain, text?]
  constructor
  · intro hkey
    obtain ⟨v, hv, hkey⟩ := Option.bind_eq_some_iff.mp hkey
    exact (hplain v hv).1 hkey
  · intro htick
    obtain ⟨v, hv, htick⟩ := Option.bind_eq_some_iff.mp htick
    exact (hplain v hv).2 htick

lemma readLine_eventEntry (r : Reader K) {now wall : K} {context fields : PyDict K}
    {kind : String} (h : Framed (.event now wall context kind fields)) :
    ∃ out, readLine r (.dict (eventEntry cfg now wall context kind fields)) = .ok (r, out) := by
  have htype : typeOf (eventEntry cfg now wall context kind fields) ≠ some "key" ∧
      typeOf (eventEntry cfg now wall context kind fields) ≠ some "tick" := typeOf_eventEntry h
  simp only [typeOf] at htype
  rw [readLine, if_neg htype.1, if_neg htype.2]
  split
  · exact ⟨_, rfl⟩
  · exact ⟨_, rfl⟩

lemma tick_closed {s s' : Recorder K} {now : K} {telemetry : Dict ℤ (PyDict K)}
    {rf : RfDropRate K} (h : tick str cfg now telemetry rf s = .ok s') :
    s'.closed = s.closed := by
  unfold tick at h
  dsimp only at h
  split at h
  · obtain rfl := Except.ok.inj h
    rfl
  · obtain ⟨sample, -, h⟩ := bind_eq_ok.mp h
    obtain rfl := Except.ok.inj h
    unfold writeRow
    dsimp only
    split <;> rfl

lemma called_closed (call : Call K) (s : Recorder K) :
    (called str cfg call s).closed = s.closed := by
  cases call with
  | tick now telemetry rf =>
    change (recordTick str cfg now telemetry rf s).1.closed = s.closed
    unfold recordTick
    split
    · rfl
    split
    · rfl
    split
    · rfl
    · next s' hs' =>
      have hclosed : s'.closed = s.closed := tick_closed hs'
      exact hclosed
  | event now wall context kind fields =>
    change (recordEvent cfg now wall context kind fields s).closed = s.closed
    unfold recordEvent
    split <;> rfl

lemma called_extends {s : Recorder K} {r : Reader K} {call : Call K} (hcall : Framed call)
    (h : Follows s r) : Extends s (called str cfg call s) r := by
  cases call with
  | tick now telemetry rf => exact recordTick_extends h
  | event now wall context kind fields =>
    change Extends s (recordEvent cfg now wall context kind fields s) r
    unfold recordEvent
    by_cases hclosed : s.closed = true
    · rw [if_pos hclosed]
      exact .inl ⟨rfl, h⟩
    · rw [if_neg hclosed]
      have hread : ∃ out, readLine r (.dict (eventEntry cfg now wall context kind fields)) =
          .ok (r, out) := readLine_eventEntry r hcall
      obtain ⟨out, hread⟩ := hread
      exact .inr ⟨Bool.eq_false_iff.mpr hclosed, _, r, out, rfl, hread, h⟩

end Writes

section

variable {z : Codec UInt8} {json : Json K} {s : Session K}

/-- The compressor was asked more, and the file has what came out, or some of it when a
write has failed. -/
structure Wrote (z : Codec UInt8) (json : Json K) (s s' : Session K)
    (ops : List (Op (PyVal K))) : Prop where
  asked : s'.asked = s.asked ++ ops
  recorder : s'.recorder = s.recorder
  file : s'.file <+: z.stream (s'.requests json)
  whole : s'.failed = false → s'.file = z.stream (s'.requests json)

section

variable (h : s.file = z.stream (s.requests json))
include h

lemma ask_wrote (op : Op (PyVal K))
    (fault : Option Nat) : Wrote z json s (s.ask z json op fault) [op] := by
  have hstream : z.stream ((s.ask z json op fault).requests json) =
      s.file ++ (z.ask (z.after z.compressobj (s.requests json)) (op.map json.line)).2 := by
    rw [Session.requests, Session.ask, List.map_append, h]
    exact z.stream_concat _ _
  refine ⟨rfl, rfl, ?_, fun hok => ?_⟩
  · rw [hstream]
    cases fault with
    | none => exact List.prefix_rfl
    | some k => exact (List.prefix_append_right_inj _).mpr (List.take_prefix ..)
  · rw [hstream]
    cases fault with
    | none => rfl
    | some k => cases hok

lemma flushed_wrote (done : K) (fault : Option Nat) :
    Wrote z json s (s.flushed z json done fault) [.sync] := by
  have hask := ask_wrote h .sync fault
  unfold Session.flushed
  simp only
  split
  · exact hask
  · exact ⟨hask.asked, hask.recorder, hask.file, hask.whole⟩

lemma emitting_wrote (line : PyVal K) (due : Bool) (disk : Disk K) :
    ∃ ops, puts ops = [line] ∧ Wrote z json s (s.emitting z json line due disk) ops := by
  have hask := ask_wrote h (.put line) disk.emit
  unfold Session.emitting
  simp only
  split
  · exact ⟨_, rfl, hask⟩
  · next hok =>
    rw [Bool.or_eq_true, not_or, Bool.not_eq_true] at hok
    have hflush := flushed_wrote (hask.whole hok.1) disk.done disk.flush
    refine ⟨[.put line, .sync], rfl, ?_, hflush.recorder.trans hask.recorder, hflush.file,
      hflush.whole⟩
    rw [hflush.asked, hask.asked, List.append_assoc]
    rfl

end

end

section Invariant

variable [Field K] [LinearOrder K] [FloorRing K] {z : Codec UInt8} {json : Json K}
  {str : PyVal K → String} {cfg : RecorderConfig K} {s : Session K}

/-- The file is the stream as far as it got, and the lines in it can be followed. -/
structure Kept (z : Codec UInt8) (json : Json K) (s : Session K) : Prop where
  file : s.file <+: z.finished (s.requests json)
  live : s.failed = false → s.recorder.closed = false → s.file = z.stream (s.requests json)
  closed : s.failed = false → s.recorder.closed = true → s.file = z.finished (s.requests json)
  read : ∃ r recs, feed readLine newReader (puts s.asked) = .ok (r, recs) ∧
    (s.failed = false → Follows s.recorder r)

lemma Wrote.onDisk {s' : Session K} {ops : List (Op (PyVal K))} (h : Wrote z json s s' ops) :
    s'.file <+: z.finished (s'.requests json) := h.file.trans (List.prefix_append ..)

lemma Kept.of_failed {r : Reader K} {recs : List (PyDict K)} (hfailed : s.failed = true)
    (hfile : s.file <+: z.finished (s.requests json))
    (hfeed : feed readLine newReader (puts s.asked) = .ok (r, recs)) : Kept z json s where
  file := hfile
  live hok := absurd (hfailed.symm.trans hok) (by decide)
  closed hok := absurd (hfailed.symm.trans hok) (by decide)
  read := ⟨r, recs, hfeed, fun hok => absurd (hfailed.symm.trans hok) (by decide)⟩

lemma kept_emitting {r r' : Reader K} {recs out : List (PyDict K)} {next : Recorder K}
    {line : PyVal K} {due : Bool} {disk : Disk K} (h : s.file = z.stream (s.requests json))
    (hfeed : feed readLine newReader (puts s.asked) = .ok (r, recs))
    (hread : readLine r line = .ok (r', out)) (hnext : Follows next r')
    (hopen : next.closed = false) :
    Kept z json (if (s.emitting z json line due disk).failed
      then (s.emitting z json line due disk).dropping
      else { s.emitting z json line due disk with recorder := next }) := by
  obtain ⟨ops, hops, hwrote⟩ := emitting_wrote h line due disk
  have hall : feed readLine newReader (puts (s.emitting z json line due disk).asked) =
      .ok (r', recs ++ out) := by
    rw [hwrote.asked, puts_append, hops]
    exact feed_append hfeed (feed_singleton hread)
  split
  · next hfailed =>
    exact .of_failed hfailed hwrote.onDisk hall
  · refine ⟨hwrote.onDisk, fun hok _ => hwrote.whole hok, fun _ hclosed => ?_, r', _, hall,
      fun _ => hnext⟩
    exact absurd (hopen.symm.trans hclosed) Bool.false_ne_true

lemma kept_record (h : Kept z json s) {call : Call K} (hcall : Framed call) (disk : Disk K) :
    Kept z json (s.record z json str cfg call disk) := by
  unfold Session.record
  split
  · next hfailed =>
    obtain ⟨r, recs, hfeed, -⟩ := h.read
    exact .of_failed hfailed h.file hfeed
  · next hok =>
    have hok : s.failed = false := Bool.eq_false_iff.mpr hok
    obtain ⟨r, recs, hfeed, hfollows⟩ := h.read
    have hextends : Extends s.recorder (called str cfg call s.recorder) r :=
      called_extends hcall (hfollows hok)
    rcases hextends with ⟨hlines, hnext⟩ | ⟨hopen, line, r', out, hlines, hread, hnext⟩
    · simp only [hlines, List.drop_length]
      have hclosed : (called str cfg call s.recorder).closed = s.recorder.closed :=
        called_closed call s.recorder
      exact ⟨h.file, fun _ hopen => h.live hok (hclosed.symm.trans hopen),
        fun _ hshut => h.closed hok (hclosed.symm.trans hshut), r, recs, hfeed, fun _ => hnext⟩
    · simp only [hlines, List.drop_left]
      exact kept_emitting (h.live hok hopen) hfeed hread hnext
        ((called_closed call s.recorder).trans hopen)

lemma kept_flush (h : Kept z json s) (done : K) (fault : Option Nat) :
    Kept z json (s.flush z json done fault) := by
  unfold Session.flush
  split
  · exact h
  · next hok =>
    rw [Bool.or_eq_true, not_or, Bool.not_eq_true, Bool.not_eq_true] at hok
    obtain ⟨r, recs, hfeed, hfollows⟩ := h.read
    have hwrote := flushed_wrote (h.live hok.1 hok.2) done fault
    have hall : feed readLine newReader (puts (s.flushed z json done fault).asked) =
        .ok (r, recs) := by
      rw [hwrote.asked, puts_append]
      simpa [puts] using hfeed
    dsimp only
    split
    · next hfailed => exact .of_failed hfailed hwrote.onDisk hall
    · refine ⟨hwrote.onDisk, fun hok _ => hwrote.whole hok, fun _ hclosed => ?_, r, recs, hall,
        fun _ => ?_⟩
      · rw [hwrote.recorder, hok.2] at hclosed
        cases hclosed
      · rw [hwrote.recorder]
        exact hfollows hok.1

lemma kept_close (h : Kept z json s) (fault : Option Nat) : Kept z json (s.close z json fault) := by
  obtain ⟨r, recs, hfeed, hfollows⟩ := h.read
  unfold Session.close
  split
  · exact h
  · next hopen =>
    dsimp only
    split
    · next hfailed => exact .of_failed hfailed h.file hfeed
    · next hok =>
      have hlive := h.live (Bool.eq_false_iff.mpr hok) (Bool.eq_false_iff.mpr hopen)
      cases fault with
      | none =>
        have hwhole := congrArg (· ++ z.finish (z.after z.compressobj (s.requests json))) hlive
        exact ⟨hwhole ▸ List.prefix_rfl, fun _ hclosed => (by cases hclosed), fun _ _ => hwhole,
          r, recs, hfeed, fun hok => hfollows hok⟩
      | some k =>
        refine .of_failed rfl ?_ hfeed
        dsimp only
        rw [hlive]
        exact (List.prefix_append_right_inj _).mpr (List.take_prefix ..)

lemma kept_open (context : PyDict K) (disk : Disk K) :
    Kept z json (openSession z json cfg context disk) := by
  let s : Session K := {
    recorder := newRecorder cfg context
    lastFlushT := cfg.t0
    asked := []
    failed := false
    file := [] }
  have hfile : s.file = z.stream (s.requests json) := rfl
  obtain ⟨ops, hops, hwrote⟩ := emitting_wrote hfile (.dict (headerEntry cfg context)) true disk
  have hheader : feed readLine newReader (puts (openSession z json cfg context disk).asked) =
      .ok (newReader, [headerEntry cfg context]) := by
    rw [openSession, hwrote.asked, List.nil_append, hops]
    exact feed_singleton rfl
  refine ⟨hwrote.onDisk, fun hok _ => hwrote.whole hok, fun _ hclosed => ?_, newReader, _, hheader,
    fun _ hids => ?_⟩
  · rw [openSession, hwrote.recorder] at hclosed
    cases hclosed
  · rw [openSession, hwrote.recorder] at hids
    exact absurd rfl hids

def FramedAct : Act K → Prop
  | .record call _ => Framed call
  | .flush _ _ => True
  | .close _ => True

lemma kept_session (context : PyDict K) (disk : Disk K) {acts : List (Act K)}
    (hacts : ∀ a ∈ acts, FramedAct a) :
    Kept z json (session z json str cfg context disk acts) := by
  have hopen : Kept z json (openSession z json cfg context disk) := kept_open context disk
  have hrun : ∀ (acts : List (Act K)) (s : Session K), Kept z json s →
      (∀ a ∈ acts, FramedAct a) → Kept z json (acts.foldl (Session.act z json str cfg) s) := by
    intro acts
    induction acts with
    | nil => exact fun _ h _ => h
    | cons a acts ih =>
      intro s h hacts
      refine ih _ ?_ fun b hb => hacts b (List.mem_cons_of_mem a hb)
      have ha := hacts a List.mem_cons_self
      cases a with
      | record call disk => exact kept_record h ha disk
      | flush done fault => exact kept_flush h done fault
      | close fault => exact kept_close h fault
  exact hrun acts _ hopen hacts

/-- What is left of a file is read without an exception, and marked unless it is finished. -/
lemma leftover_read (hz : z.Salvages) (hjson : ∀ line ∈ puts s.asked, json.Reads line)
    (h : Kept z json s) {bytes : Bytes} (hbytes : bytes <+: s.file) :
    ∃ r recs, feed readLine newReader ((puts s.asked).take (survived z bytes)) = .ok (r, recs) ∧
      iterFile z json bytes = (recs ++
        if bytes = z.finished (s.requests json) then [] else [truncatedRecord], none) := by
  obtain ⟨r, recs, hfeed, -⟩ := h.read
  rw [← List.take_append_drop (survived z bytes) (puts s.asked)] at hfeed
  obtain ⟨m, before, -, hbefore, -⟩ := feed_of_append hfeed
  refine ⟨m, before, hbefore, ?_⟩
  rw [iterFile_eq hz hjson (hbytes.trans h.file), iterBlackbox_append hbefore]
  change (_ ++ (iterBlackbox m (if bytes = z.finished (s.requests json) then _ else _)).1,
    (iterBlackbox m (if bytes = z.finished (s.requests json) then _ else _)).2) = _
  split <;> rfl

/-- Of a session's file, cut off anywhere, `iter_blackbox` hands out what it hands out of the
whole up to the cut, with the ticks that were flushed before it, and then the mark of a cut
unless the stream is finished. -/
theorem cut_anywhere (hz : z.Salvages) {context : PyDict K} {disk : Disk K}
    {acts : List (Act K)} (hacts : ∀ a ∈ acts, FramedAct a)
    (hs : session z json str cfg context disk acts = s)
    (hjson : ∀ line ∈ puts s.asked, json.Reads line) {whole part : Bytes}
    (hwhole : whole <+: s.file) (hpart : part <+: whole) :
    ∃ records,
      iterFile z json part = (records ++
        if part = z.finished (s.requests json) then [] else [truncatedRecord], none) ∧
      records <+: (iterFile z json whole).1 ∧
      (∀ rec ∈ records, typeOf rec ≠ some "truncated") ∧
      ∀ ops₁ ops₂, s.asked = ops₁ ++ .sync :: ops₂ →
        z.stream (ops₁.map (Op.map json.line) ++ [.sync]) <+: part →
        ∃ flushed, iterBlackbox newReader ((puts ops₁).map some) = (flushed, none) ∧
          flushed <+: records ∧ flushed.countP isTick = (puts ops₁).countP isRow := by
  have hkept : Kept z json s := hs ▸ kept_session context disk hacts
  have hfile := hwhole.trans hkept.file
  obtain ⟨r, records, hfeed, hread⟩ := leftover_read hz hjson hkept (hpart.trans hwhole)
  obtain ⟨r', all, hfeed', hread'⟩ := leftover_read hz hjson hkept hwhole
  refine ⟨records, hread, ?_, (feed_types hfeed).2, fun ops₁ ops₂ hasked hsync => ?_⟩
  · have hlines := List.take_prefix_take_left (survived_mono hz hfile hpart) (l := puts s.asked)
    rw [hread']
    exact (feed_take hlines hfeed hfeed').trans (List.prefix_append ..)
  · have hlen := length_le_survived hz hjson (hpart.trans hfile) hasked hsync
    have hlines : puts ops₁ <+: (puts s.asked).take (survived z part) := by
      refine List.prefix_take_iff.mpr ⟨?_, hlen⟩
      rw [hasked, puts_append]
      exact List.prefix_append ..
    obtain ⟨rest, hrest⟩ := hlines
    rw [← hrest] at hfeed
    obtain ⟨m, flushed, behind, hflushed, -, rfl⟩ := feed_of_append hfeed
    exact ⟨flushed, iterBlackbox_of_feed hflushed, List.prefix_append .., (feed_types hflushed).1⟩

end Invariant

/-! ## A recorder that is killed -/

/-- `str.encode()`. -/
def encoded (s : String) : Bytes := s.toUTF8.data.toList

mutual

/-- The JSON text of a value whose strings need no escapes. -/
def jsonBytes : PyVal ℚ → Bytes
  | .none => encoded "null"
  | .bool b => encoded (if b then "true" else "false")
  | .int n => encoded (toString n)
  | .float x => encoded (toString x.num ++ if x.den = 1 then ".0" else "/" ++ toString x.den)
  | .inf negative => encoded (if negative then "-Infinity" else "Infinity")
  | .nan => encoded "NaN"
  | .str s => encoded "\"" ++ encoded s ++ encoded "\""
  | .list vs => encoded "[" ++ (jsonItems vs).drop 1 ++ encoded "]"
  | .dict es => encoded "\x7b" ++ (jsonEntries es).drop 1 ++ encoded "\x7d"

def jsonItems : List (PyVal ℚ) → Bytes
  | [] => []
  | v :: vs => encoded "," ++ jsonBytes v ++ jsonItems vs

def jsonEntries : List (String × PyVal ℚ) → Bytes
  | [] => []
  | (k, v) :: es =>
    encoded ",\"" ++ encoded k ++ encoded "\":" ++ jsonBytes v ++ jsonEntries es

end

/-- A codec that writes such text, and reads back that of these lines. -/
def jsonOf (lines : List (PyVal ℚ)) : Json ℚ where
  dumps := jsonBytes
  loads bytes := lines.find? fun v => jsonBytes v = bytes

lemma jsonOf_reads {lines : List (PyVal ℚ)} (hnodup : (lines.map jsonBytes).Nodup)
    (hline : ∀ v ∈ lines, newline ∉ jsonBytes v) : ∀ v ∈ lines, (jsonOf lines).Reads v := by
  intro v hv
  refine ⟨?_, hline v hv⟩
  cases hfind : lines.find? fun w => jsonBytes w = jsonBytes v with
  | none => exact absurd (decide_eq_true rfl) (List.find?_eq_none.mp hfind v hv)
  | some w =>
    have hsame : jsonBytes w = jsonBytes v := by simpa using List.find?_some hfind
    have hw := List.inj_on_of_nodup_map hnodup (List.mem_of_find?_eq_some hfind) hv hsame
    exact hw ▸ hfind

/-- A disk on which every write works, and a flush takes no time. -/
def working : Disk ℚ := ⟨none, none, 0⟩

def linesOf (calls : List (Call ℚ)) : List (PyVal ℚ) :=
  (calls.foldl (fun s call => called strOf tenHz call s) (newRecorder tenHz [])).lines

def killed (calls : List (Call ℚ)) : Session ℚ :=
  session stored (jsonOf (linesOf calls)) strOf tenHz [] working
    (calls.map fun call => .record call working)

lemma reads_killed : ∀ line ∈ puts (killed fourCalls).asked,
    (jsonOf (linesOf fourCalls)).Reads line := by
  have hlines : puts (killed fourCalls).asked = linesOf fourCalls := by with_unfolding_all rfl
  rw [hlines]
  exact jsonOf_reads (by decide +kernel) (by decide +kernel)

theorem cut_anywhere_killed : ∃ records,
      iterFile stored (jsonOf (linesOf fourCalls)) ((killed fourCalls).file.take 3000) = (records ++
        if (killed fourCalls).file.take 3000 =
          stored.finished ((killed fourCalls).requests (jsonOf (linesOf fourCalls)))
        then [] else [truncatedRecord], none) ∧
      records <+:
        (iterFile stored (jsonOf (linesOf fourCalls)) (killed fourCalls).file).1 := by
  have hacts : ∀ a ∈ fourCalls.map fun call => Act.record call working, FramedAct a := by
    simp [fourCalls, FramedAct, Framed]
  obtain ⟨records, hread, hpre, -⟩ := cut_anywhere (s := killed fourCalls) stored_salvages hacts rfl
    reads_killed List.prefix_rfl (List.take_prefix 3000 _)
  exact ⟨records, hread, hpre⟩

def disguised : List (Call ℚ) := [.event 0 1700000000 [("type", .str "key")] "command" []]

/-- The event is read as a row without its drones. -/
theorem renamed_event_raises :
    (∀ line ∈ puts (killed disguised).asked, (jsonOf (linesOf disguised)).Reads line) ∧
      (iterFile stored (jsonOf (linesOf disguised)) (killed disguised).file).2 =
        some (.keyError "ids") := by
  have hlines : puts (killed disguised).asked = linesOf disguised := by with_unfolding_all rfl
  have hreads : ∀ line ∈ puts (killed disguised).asked,
      (jsonOf (linesOf disguised)).Reads line := by
    rw [hlines]
    exact jsonOf_reads (by decide +kernel) (by decide +kernel)
  have hstream : (killed disguised).file =
      stored.stream ((killed disguised).requests (jsonOf (linesOf disguised))) := by
    decide +kernel
  have hfile : (killed disguised).file <+:
      stored.finished ((killed disguised).requests (jsonOf (linesOf disguised))) := by
    rw [hstream]
    exact List.prefix_append ..
  have hraises : ∀ rest, (iterBlackbox newReader ((linesOf disguised).map some ++ rest)).2 =
      some (.keyError "ids") := fun _ => by with_unfolding_all rfl
  have hasked : (killed disguised).asked = (killed disguised).asked.take 3 ++ [.sync] := by
    with_unfolding_all rfl
  have hrequests : (killed disguised).requests (jsonOf (linesOf disguised)) =
      ((killed disguised).asked.take 3).map (Op.map (jsonOf (linesOf disguised)).line) ++ [.sync] :=
    (congrArg (List.map _) hasked).trans List.map_append
  have hlen := length_le_survived stored_salvages hreads hfile hasked (by rw [← hrequests, hstream])
  have hall : (puts (killed disguised).asked).length ≤
      survived stored (killed disguised).file := hlen
  refine ⟨hreads, ?_⟩
  rw [iterFile_eq stored_salvages hreads hfile, List.take_of_length_le hall, hlines]
  exact hraises _

end Taramandal.Gcs.BlackboxCut
