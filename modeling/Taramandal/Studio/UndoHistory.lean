import Mathlib.Data.List.Chain
import Mathlib.Data.Rat.Floor
import Taramandal.Lib.ScriptValues

/-! # Undo and redo (`history.js`)

A history is a document with what was done to it and what was undone, each entry with the
document on both sides of its command. Documents are compared by identity. -/
set_option linter.unusedSectionVars false

namespace Taramandal.Studio.UndoHistory

open Lib.ScriptValues

def mergeWindowMs : Number := .fin 1000

/-- A command, with the arguments its reducer looks at. -/
structure Command (κ α : Type) where
  type : String
  label : Option String
  mergeKey : Option κ
  args : α

structure Entry (D κ α : Type) where
  command : Command κ α
  label : String
  time : Number
  before : D
  after : D

/-- `past` and `future` oldest first. -/
structure History (D κ α : Type) where
  past : List (Entry D κ α)
  present : D
  future : List (Entry D κ α)
  limit : ℕ

variable {D κ α : Type}

def createHistory (present : D) (limit : ℤ) : History D κ α where
  past := []
  present := present
  future := []
  limit := (max 1 limit).toNat

namespace History

section

variable (h : History D κ α)
include h

def canUndo : Prop := 0 < h.past.length

def canRedo : Prop := 0 < h.future.length

def undo : History D κ α :=
  match h.past.getLast? with
  | none => h
  | some entry =>
    { h with past := h.past.dropLast, present := entry.before, future := entry :: h.future }

def redo : History D κ α :=
  match h.future with
  | [] => h
  | entry :: rest => { h with past := h.past ++ [entry], present := entry.after, future := rest }

/-- `Math.max(0, Math.min(total, Math.trunc(applied)))`, unless that is no number. -/
def target : Number → Option ℕ
  | .nan => none
  | .inf negative => some (if negative then 0 else h.past.length + h.future.length)
  | .fin x =>
    let trunc := if 0 ≤ x then ⌊x⌋ else ⌈x⌉
    some (max 0 (min ((h.past.length + h.future.length : ℕ) : ℤ) trunc)).toNat

end

/-- `while (h.past.length > target) h = undo(h)`, at most so often. -/
def undoTo (target : ℕ) : ℕ → History D κ α → History D κ α
  | 0, h => h
  | n + 1, h => if target < h.past.length then undoTo target n h.undo else h

/-- `while (h.past.length < target) h = redo(h)`, at most so often. -/
def redoTo (target : ℕ) : ℕ → History D κ α → History D κ α
  | 0, h => h
  | n + 1, h => if h.past.length < target then redoTo target n h.redo else h

def jumpTo (h : History D κ α) (applied : Number) : History D κ α :=
  match h.target applied with
  | none => h
  | some target => redoTo target target (undoTo target h.past.length h)

def reset (h : History D κ α) (present : D) : History D κ α := createHistory present h.limit

def timeline (h : History D κ α) : List (Entry D κ α) := h.past ++ h.future

section

variable [DecidableEq D] [DecidableEq κ] (reducer : D → Command κ α → D)

def merged (h : History D κ α) (command : Command κ α) (now : Number) : Option (Entry D κ α) :=
  h.past.getLast?.filter fun top =>
    command.mergeKey.isSome && top.command.mergeKey = command.mergeKey && h.future.isEmpty &&
      (now.sub top.time).le mergeWindowMs

def execute (h : History D κ α) (command : Command κ α) (now : Number) : History D κ α :=
  let after := reducer h.present command
  if after = h.present then h
  else
    let past : List (Entry D κ α) := match h.merged command now with
      | some top => h.past.dropLast ++
        [{ top with command, label := command.label.getD top.label, time := now, after }]
      | none => h.past ++
        [{ command, label := command.label.getD command.type, time := now, before := h.present,
           after }]
    { h with past := past.drop (past.length - h.limit), present := after, future := [] }

end

end History

/-! ## What holds of every history -/

/-- Every entry starts where the one before it ended; what was done ends at the present
document, and what was undone starts there. -/
structure Linked (h : History D κ α) : Prop where
  past : h.past.IsChain fun a b => a.after = b.before
  future : h.future.IsChain fun a b => a.after = b.before
  last : ∀ e ∈ h.past.getLast?, e.after = h.present
  first : ∀ e ∈ h.future.head?, e.before = h.present
  size : h.past.length + h.future.length ≤ h.limit
  limit : 0 < h.limit

variable {h : History D κ α}

lemma linked_create (present : D) (limit : ℤ) :
    Linked (createHistory present limit : History D κ α) where
  past := .nil
  future := .nil
  last := by simp [createHistory]
  first := by simp [createHistory]
  size := Nat.zero_le _
  limit := by
    simp only [createHistory]
    omega

lemma Linked.undo (hl : Linked h) : Linked h.undo := by
  unfold History.undo
  split
  next => exact hl
  next entry hlast =>
    have hsplit : h.past.dropLast ++ [entry] = h.past := List.dropLast_append_getLast? _ hlast
    have hchain := hl.past
    rw [← hsplit, List.isChain_append] at hchain
    have hsize := hl.size
    rw [← hsplit, List.length_append, List.length_singleton] at hsize
    refine ⟨hchain.1, ?_, fun e he => hchain.2.2 e he entry rfl, fun e he => ?_, ?_, hl.limit⟩
    · rw [List.isChain_cons]
      exact ⟨fun e he => (hl.last entry hlast).trans (hl.first e he).symm, hl.future⟩
    · obtain rfl := Option.some.inj he
      rfl
    · simp only [List.length_cons]
      omega

lemma Linked.redo (hl : Linked h) : Linked h.redo := by
  unfold History.redo
  split
  next => exact hl
  next entry rest hfuture =>
    have hchain := hl.future
    rw [hfuture, List.isChain_cons] at hchain
    have hsize := hl.size
    rw [hfuture, List.length_cons] at hsize
    refine ⟨?_, hchain.2, fun e he => ?_, fun e he => (hchain.1 e he).symm, ?_, hl.limit⟩
    · rw [List.isChain_append]
      refine ⟨hl.past, .singleton entry, fun e he x hx => ?_⟩
      obtain rfl := Option.some.inj hx
      exact (hl.last e he).trans (hl.first entry (by rw [hfuture]; rfl)).symm
    · rw [List.getLast?_concat] at he
      obtain rfl := Option.some.inj he
      rfl
    · simp only [List.length_append, List.length_singleton]
      omega

lemma redo_undo (hl : Linked h) (hundo : h.canUndo) : h.undo.redo = h := by
  obtain ⟨entry, hlast⟩ : ∃ entry, h.past.getLast? = some entry :=
    Option.ne_none_iff_exists'.mp fun hnone =>
      absurd hundo (by simp [History.canUndo, List.getLast?_eq_none_iff.mp hnone])
  simp only [History.undo, hlast, History.redo, List.dropLast_append_getLast? _ hlast,
    hl.last entry hlast]

lemma undo_redo (hl : Linked h) (hredo : h.canRedo) : h.redo.undo = h := by
  cases hfuture : h.future with
  | nil => exact absurd hredo (by simp [History.canRedo, hfuture])
  | cons entry rest =>
    have hfirst := hl.first entry (by rw [hfuture]; rfl)
    simp only [History.redo, hfuture, History.undo, List.getLast?_concat, List.dropLast_concat,
      hfirst]
    rw [← hfuture]

/-! ## Jumping -/

lemma timeline_undo (h : History D κ α) : h.undo.timeline = h.timeline := by
  unfold History.undo
  split
  next => rfl
  next entry hlast =>
    simp only [History.timeline]
    rw [← List.singleton_append, ← List.append_assoc, List.dropLast_append_getLast? _ hlast]

lemma timeline_redo (h : History D κ α) : h.redo.timeline = h.timeline := by
  unfold History.redo
  split
  next => rfl
  next entry rest hfuture => simp [History.timeline, hfuture]

lemma length_undo (h : History D κ α) : h.undo.past.length = h.past.length - 1 := by
  unfold History.undo
  split
  next hnone => simp [List.getLast?_eq_none_iff.mp hnone]
  next => simp

lemma length_redo (hredo : h.canRedo) : h.redo.past.length = h.past.length + 1 := by
  unfold History.redo
  split
  next hnil => exact absurd hredo (by simp [History.canRedo, hnil])
  next => simp

lemma undoTo_spec (target : ℕ) : ∀ n (h : History D κ α), h.past.length ≤ target + n →
    (History.undoTo target n h).past.length = min h.past.length target ∧
      (History.undoTo target n h).timeline = h.timeline ∧
        (Linked h → Linked (History.undoTo target n h))
  | 0, h, hn => ⟨(Nat.min_eq_left hn).symm, rfl, id⟩
  | n + 1, h, hn => by
    unfold History.undoTo
    split
    next hlt =>
      have hlength := length_undo h
      obtain ⟨hpast, htimeline, hlinked⟩ := undoTo_spec target n h.undo (by omega)
      refine ⟨by omega, htimeline.trans (timeline_undo h), fun hl => hlinked hl.undo⟩
    next hle => exact ⟨by omega, rfl, id⟩

lemma redoTo_spec (target : ℕ) : ∀ n (h : History D κ α), target ≤ h.past.length + n →
    h.past.length ≤ target → target ≤ h.timeline.length →
    (History.redoTo target n h).past.length = target ∧
      (History.redoTo target n h).timeline = h.timeline ∧
        (Linked h → Linked (History.redoTo target n h))
  | 0, h, hn, hle, _ => ⟨Nat.le_antisymm hle hn, rfl, id⟩
  | n + 1, h, hn, hle, htotal => by
    unfold History.redoTo
    split
    next hlt =>
      have hredo : h.canRedo := by
        simp only [History.timeline, List.length_append] at htotal
        simp only [History.canRedo]
        omega
      have hlength := length_redo hredo
      have htimeline := timeline_redo h
      obtain ⟨hpast, hsame, hlinked⟩ := redoTo_spec target n h.redo (by omega) (by omega)
        (by rw [htimeline]; exact htotal)
      exact ⟨hpast, hsame.trans htimeline, fun hl => hlinked hl.redo⟩
    next hlt => exact ⟨by omega, rfl, id⟩

lemma target_le {applied : Number} {target : ℕ} (ht : h.target applied = some target) :
    target ≤ h.timeline.length := by
  rw [History.timeline, List.length_append]
  unfold History.target at ht
  split at ht
  next => cases ht
  next negative =>
    obtain rfl := Option.some.inj ht
    split <;> omega
  next x =>
    obtain rfl := Option.some.inj ht
    omega

lemma jumpTo_spec {applied : Number} {target : ℕ} (ht : h.target applied = some target) :
    (h.jumpTo applied).past.length = target ∧ (h.jumpTo applied).timeline = h.timeline ∧
      (Linked h → Linked (h.jumpTo applied)) := by
  have htotal := target_le ht
  obtain ⟨hpast, htimeline, hlinked⟩ := undoTo_spec target h.past.length h (by omega)
  obtain ⟨hpast', htimeline', hlinked'⟩ := redoTo_spec target target
    (History.undoTo target h.past.length h) (by omega) (by omega) (by rw [htimeline]; exact htotal)
  simp only [History.jumpTo, ht]
  exact ⟨hpast', htimeline'.trans htimeline, fun hl => hlinked' (hlinked hl)⟩

section Execute

variable [DecidableEq D] [DecidableEq κ] {reducer : D → Command κ α → D}
  {command : Command κ α} {now : Number}

/-- The new entry stands behind everything that was done, or in the place of the newest entry
with its side before; what is over the limit is dropped from the other end. -/
structure Recorded (reducer : D → Command κ α → D) (h : History D κ α) (command : Command κ α)
    (now : Number) (h' : History D κ α) : Prop where
  present : h'.present = reducer h.present command
  future : h'.future = []
  limit : h'.limit = h.limit
  past : ∃ kept entry, h'.past = (kept ++ [entry]).drop ((kept ++ [entry]).length - h.limit) ∧
    entry.command = command ∧ entry.time = now ∧ entry.after = h'.present ∧
    match h.merged command now with
    | none => kept = h.past ∧ entry.before = h.present
    | some top => kept ++ [top] = h.past ∧ entry.before = top.before

lemma merged_eq_some {top : Entry D κ α} (hm : h.merged command now = some top) :
    h.past.getLast? = some top := by
  unfold History.merged at hm
  exact (Option.filter_eq_some_iff.mp hm).1

lemma execute_same (hsame : reducer h.present command = h.present) :
    h.execute reducer command now = h := by
  simp only [History.execute, hsame, if_true]

lemma execute_recorded (hchanges : reducer h.present command ≠ h.present) :
    Recorded reducer h command now (h.execute reducer command now) := by
  simp only [History.execute, if_neg hchanges]
  cases hm : h.merged command now with
  | none =>
    exact ⟨rfl, rfl, rfl, h.past, _, rfl, rfl, rfl, rfl, by rw [hm]; exact ⟨rfl, rfl⟩⟩
  | some top =>
    refine ⟨rfl, rfl, rfl, h.past.dropLast, _, rfl, rfl, rfl, rfl, ?_⟩
    rw [hm]
    exact ⟨List.dropLast_append_getLast? _ (merged_eq_some hm), rfl⟩

lemma Recorded.getLast? {h' : History D κ α} (hr : Recorded reducer h command now h')
    (hlimit : 0 < h.limit) : ∃ entry, h'.past.getLast? = some entry ∧ entry.after = h'.present ∧
      entry.before = (match h.merged command now with
        | none => h.present
        | some top => top.before) := by
  obtain ⟨kept, entry, hpast, -, -, hafter, hbefore⟩ := hr.past
  refine ⟨entry, ?_, hafter, ?_⟩
  · rw [hpast, List.getLast?_drop, if_neg (by simp; omega), List.getLast?_concat]
  · cases hm : h.merged command now <;> rw [hm] at hbefore <;> exact hbefore.2

lemma Linked.recorded {h' : History D κ α} (hl : Linked h)
    (hr : Recorded reducer h command now h') : Linked h' := by
  obtain ⟨kept, entry, hpast, -, -, hafter, hbefore⟩ := hr.past
  have hchain : (kept ++ [entry]).IsChain fun a b => a.after = b.before := by
    rw [List.isChain_append]
    cases hm : h.merged command now with
    | none =>
      rw [hm] at hbefore
      refine ⟨hbefore.1 ▸ hl.past, .singleton entry, fun e he x hx => ?_⟩
      obtain rfl := Option.some.inj hx
      rw [hbefore.2]
      exact hl.last e (hbefore.1 ▸ he)
    | some top =>
      rw [hm] at hbefore
      have hold := hl.past
      rw [← hbefore.1, List.isChain_append] at hold
      refine ⟨hold.1, .singleton entry, fun e he x hx => ?_⟩
      obtain rfl := Option.some.inj hx
      rw [hbefore.2]
      exact hold.2.2 e he top rfl
  refine ⟨hpast ▸ hchain.drop _, by rw [hr.future]; exact .nil, fun e he => ?_, ?_, ?_, ?_⟩
  · obtain ⟨newest, hnewest, hpresent, -⟩ := hr.getLast? hl.limit
    obtain rfl := Option.some.inj (he.symm.trans hnewest)
    exact hpresent
  · rw [hr.future]
    exact fun e he => nomatch he
  · rw [hr.future, hpast, hr.limit, List.length_drop]
    simp only [List.length_nil]
    omega
  · rw [hr.limit]
    exact hl.limit

lemma Linked.execute (hl : Linked h) : Linked (h.execute reducer command now) := by
  by_cases hsame : reducer h.present command = h.present
  · rw [execute_same hsame]
    exact hl
  · exact hl.recorded (execute_recorded hsame)

/-- Commands that are each merged into the newest entry, or change nothing. -/
def Burst (reducer : D → Command κ α → D) : History D κ α → List (Command κ α × Number) → Prop
  | _, [] => True
  | h, (command, now) :: rest =>
    (reducer h.present command = h.present ∨ (h.merged command now).isSome) ∧
      Burst reducer (h.execute reducer command now) rest

def executeAll (reducer : D → Command κ α → D) (h : History D κ α)
    (commands : List (Command κ α × Number)) : History D κ α :=
  commands.foldl (fun h c => h.execute reducer c.1 c.2) h

lemma burst_before {commands : List (Command κ α × Number)} {entry : Entry D κ α} (hl : Linked h)
    (hlast : h.past.getLast? = some entry) (hburst : Burst reducer h commands) :
    (executeAll reducer h commands).undo.present = entry.before := by
  induction commands generalizing h entry with
  | nil => simp only [executeAll, List.foldl_nil, History.undo, hlast]
  | cons c rest ih =>
    obtain ⟨hfirst, hrest⟩ := hburst
    by_cases hsame : reducer h.present c.1 = h.present
    · rw [executeAll, List.foldl_cons, ← executeAll]
      rw [execute_same hsame] at hrest ⊢
      exact ih hl hlast hrest
    · obtain ⟨top, hm⟩ := Option.isSome_iff_exists.mp (hfirst.resolve_left hsame)
      obtain ⟨newest, hnewest, -, hbefore⟩ := (execute_recorded hsame).getLast? hl.limit
      rw [hm] at hbefore
      have hkept : newest.before = top.before := hbefore
      obtain rfl := Option.some.inj (hlast.symm.trans (merged_eq_some hm))
      rw [← hkept]
      exact ih hl.execute hnewest hrest

inductive Action (D κ α : Type) where
  | execute (command : Command κ α) (now : Number)
  | undo
  | redo
  | jumpTo (applied : Number)
  | reset (present : D)

def step (reducer : D → Command κ α → D) (h : History D κ α) : Action D κ α → History D κ α
  | .execute command now => h.execute reducer command now
  | .undo => h.undo
  | .redo => h.redo
  | .jumpTo applied => h.jumpTo applied
  | .reset present => h.reset present

lemma Linked.step (hl : Linked h) (a : Action D κ α) : Linked (step reducer h a) := by
  cases a with
  | execute command now => exact hl.execute
  | undo => exact hl.undo
  | redo => exact hl.redo
  | jumpTo applied =>
    cases ht : h.target applied with
    | none =>
      simp only [UndoHistory.step, History.jumpTo, ht]
      exact hl
    | some target => exact (jumpTo_spec ht).2.2 hl
  | reset present => exact linked_create present h.limit

lemma linked_run (present : D) (limit : ℤ) (actions : List (Action D κ α)) :
    Linked (actions.foldl (step reducer) (createHistory present limit)) := by
  have hrun : ∀ h : History D κ α, Linked h → Linked (actions.foldl (step reducer) h) := by
    induction actions with
    | nil => exact fun _ hl => hl
    | cons a actions ih => exact fun h hl => ih (step reducer h a) (hl.step a)
  exact hrun _ (linked_create present limit)

/-- What can be relied on in a history. -/
structure Laws (reducer : D → Command κ α → D) (h : History D κ α) : Prop where
  linked : Linked h
  redo_undo : h.canUndo → h.undo.redo = h
  undo_redo : h.canRedo → h.redo.undo = h
  jump : ∀ applied target, h.target applied = some target →
    (h.jumpTo applied).past.length = target ∧ (h.jumpTo applied).timeline = h.timeline
  same : ∀ command now, reducer h.present command = h.present → h.execute reducer command now = h
  recorded : ∀ command now, reducer h.present command ≠ h.present →
    Recorded reducer h command now (h.execute reducer command now)
  burst : ∀ command now rest, reducer h.present command ≠ h.present →
    h.merged command now = none → Burst reducer (h.execute reducer command now) rest →
      (executeAll reducer (h.execute reducer command now) rest).undo.present = h.present

theorem history_laws (reducer : D → Command κ α → D) (present : D) (limit : ℤ)
    (actions : List (Action D κ α)) :
    Laws reducer (actions.foldl (step reducer) (createHistory present limit)) := by
  have hl : Linked (actions.foldl (step reducer) (createHistory present limit)) :=
    linked_run present limit actions
  refine ⟨hl, redo_undo hl, undo_redo hl, fun applied target ht => ?_, fun _ _ => execute_same,
    fun _ _ => execute_recorded, fun command now rest hchanges hfresh hburst => ?_⟩
  · obtain ⟨hpast, htimeline, -⟩ := jumpTo_spec ht
    exact ⟨hpast, htimeline⟩
  · obtain ⟨newest, hnewest, -, hbefore⟩ := (execute_recorded hchanges).getLast? hl.limit
    rw [hfresh] at hbefore
    exact (burst_before hl.execute hnewest hburst).trans hbefore

end Execute

end Taramandal.Studio.UndoHistory
