import Taramandal.Core.Floats
import Taramandal.Core.Validate
import Taramandal.Lib.Run

/-! # The proximity monitor (`_proximity_monitor_loop`)

Ten times a second the loop searches the connected, armed drones for pairs
within the separation limit, keeps a flag for each pair it has seen there, and
triggers one RTL for a tick that finds a pair not flagged yet. Fewer than two
such drones clear the flags. -/
set_option linter.unusedSectionVars false

namespace Taramandal.Gcs.ProximityMonitor

open Lib.Dict Lib.Run Core.Numbers Core.Floats Core.Validate Core.Safety

variable {K : Type}

/-- What the monitor reads of a drone's telemetry. -/
structure ProximityTel (K : Type) where
  connected : Bool
  armed : Bool
  fleet : Point (Double K)

/-- The telemetry table as a tick finds it. -/
structure FleetTable (K : Type) where
  entries : Dict Nat (ProximityTel K)
  nodup : (entries.map Prod.fst).Nodup := by decide

abbrev Pair := Nat × Nat

/-- `active_ids` with their coordinates. -/
def activeDrones (table : FleetTable K) : List (Nat × Point (Double K)) :=
  (table.entries.filter fun e => e.2.connected && e.2.armed).map fun e => (e.1, e.2.fleet)

def pointValue (p : Point (Double K)) : Option (Point K) := do
  let x ← p.1.value
  let y ← p.2.1.value
  let z ← p.2.2.value
  return (x, y, z)

/-- The points a `cKDTree` can be built of: it raises on a coordinate that is
not finite. -/
def located : List (Nat × Point (Double K)) → Option (List (Nat × Point K))
  | [] => some []
  | (d, p) :: rest => do
    let q ← pointValue p
    let qs ← located rest
    return ((d, q) :: qs)

/-- What `cKDTree` raises then. -/
def treeError : String := "Data must be finite, check for nan or inf values"

/-- Flag a pair the tree reports, and note whether it was not flagged yet. -/
def markPair (r : Dict Pair Bool × Bool) (pair : Pair) : Dict Pair Bool × Bool :=
  if (find r.1 pair).getD false then r else (assign r.1 pair true, true)

/-- Clear the flag of a pair that is no longer too close. -/
def clearBreaches (breaches : Dict Pair Bool) (current : List Pair) : Dict Pair Bool :=
  breaches.map fun e => if e.2 && !current.contains e.1 then (e.1, false) else e

section

variable [Field K] [LinearOrder K] [Sqrt K] (tree : KdTree K) (limit : K)

def currentBreaches (positions : List (Nat × Point K)) : List Pair :=
  (tree.queryPairs (positions.map Prod.snd) limit).filterMap fun p =>
    match positions[p.1]?, positions[p.2]? with
    | some a, some b => some (min a.1 b.1, max a.1 b.1)
    | _, _ => none

/-- The tick up to the RTL: the flags, and whether it is triggered. -/
def proximityScan (breaches : Dict Pair Bool) (table : FleetTable K) :
    Except String (Dict Pair Bool × Bool) :=
  let active := activeDrones table
  if active.length < 2 then .ok ([], false)
  else
    match located active with
    | none => .error treeError
    | some positions =>
      let current := currentBreaches tree limit positions
      let marked := current.foldl markPair (breaches, false)
      .ok (clearBreaches marked.1 current, marked.2)

end

/-! ## The loop -/

/-- Where a monitor loop is: before its next tick, in `trigger_rtl`, or over. -/
inductive LoopPc where
  | ready | triggering
  | cancelled
  | raised (error : String)
  deriving DecidableEq

structure ProximityLoop where
  proximityBreaches : Dict Pair Bool := []
  pc : LoopPc := .ready

/-- A tick over a table; what `trigger_rtl` came to, with the error if it
raised; and the cancellation of the loop. -/
inductive ProximityLabel (K : Type) where
  | tick (table : FleetTable K)
  | rtl (error : Option String)
  | cancel

/-- What a monitor does: it triggers an RTL. -/
inductive Failsafe where
  | rtl

/-- Where `trigger_rtl` leaves a loop that guards only its cancellation. -/
def afterRtl : Option String → LoopPc
  | none => .ready
  | some e => .raised e

/-- A step of `_proximity_monitor_loop`. -/
def proximityStep [Field K] [LinearOrder K] [Sqrt K] (tree : KdTree K) (limit : K) :
    System ProximityLoop (ProximityLabel K) Failsafe := fun s l =>
  match s.pc, l with
  | .ready, .tick table =>
    match proximityScan tree limit s.proximityBreaches table with
    | .error e => some ({ s with pc := .raised e }, [])
    | .ok (breaches, triggers) =>
      if triggers then some ({ proximityBreaches := breaches, pc := .triggering }, [.rtl])
      else some ({ proximityBreaches := breaches }, [])
  | .triggering, .rtl error => some ({ s with pc := afterRtl error }, [])
  | .ready, .cancel => some ({ s with pc := .cancelled }, [])
  | .triggering, .cancel => some ({ s with pc := .cancelled }, [])
  | _, _ => none

def ProximityLoop.breached (s : ProximityLoop) (pair : Pair) : Bool :=
  (find s.proximityBreaches pair).getD false

def ProximityLoop.Alive (s : ProximityLoop) : Prop := s.pc = .ready ∨ s.pc = .triggering

/-- A step of the loop, one case for each thing that can happen. -/
inductive ProximityStepped [Field K] [LinearOrder K] [Sqrt K] (tree : KdTree K) (limit : K)
    (s : ProximityLoop) : ProximityLabel K → ProximityLoop → List Failsafe → Prop where
  | died {table e} (ready : s.pc = .ready)
      (scan : proximityScan tree limit s.proximityBreaches table = .error e) :
      ProximityStepped tree limit s (.tick table) { s with pc := .raised e } []
  | quiet {table breaches} (ready : s.pc = .ready)
      (scan : proximityScan tree limit s.proximityBreaches table = .ok (breaches, false)) :
      ProximityStepped tree limit s (.tick table) { proximityBreaches := breaches } []
  | breach {table breaches} (ready : s.pc = .ready)
      (scan : proximityScan tree limit s.proximityBreaches table = .ok (breaches, true)) :
      ProximityStepped tree limit s (.tick table)
        { proximityBreaches := breaches, pc := .triggering } [.rtl]
  | rtl {error} (triggering : s.pc = .triggering) :
      ProximityStepped tree limit s (.rtl error) { s with pc := afterRtl error } []
  | cancelled (alive : s.Alive) :
      ProximityStepped tree limit s .cancel { s with pc := .cancelled } []

lemma proximityStep_stepped [Field K] [LinearOrder K] [Sqrt K] {tree : KdTree K} {limit : K}
    {s s' : ProximityLoop} {l : ProximityLabel K} {os : List Failsafe}
    (h : proximityStep tree limit s l = some (s', os)) : ProximityStepped tree limit s l s' os := by
  cases hpc : s.pc with
  | ready =>
    cases l with
    | tick table =>
      simp only [proximityStep, hpc] at h
      split at h
      next e hscan => cases h; exact .died hpc hscan
      next breaches triggers hscan =>
        cases triggers with
        | true => cases h; exact .breach hpc hscan
        | false => cases h; exact .quiet hpc hscan
    | rtl error => simp [proximityStep, hpc] at h
    | cancel => simp only [proximityStep, hpc] at h; cases h; exact .cancelled (.inl hpc)
  | triggering =>
    cases l with
    | tick table => simp [proximityStep, hpc] at h
    | rtl error => simp only [proximityStep, hpc] at h; cases h; exact .rtl hpc
    | cancel => simp only [proximityStep, hpc] at h; cases h; exact .cancelled (.inr hpc)
  | cancelled => cases l <;> simp [proximityStep, hpc] at h
  | raised e => cases l <;> simp [proximityStep, hpc] at h

lemma find_markPair (r : Dict Pair Bool × Bool) (p pair : Pair) :
    (find (markPair r p).1 pair).getD false = ((find r.1 pair).getD false || pair == p) := by
  unfold markPair
  by_cases hp : p = pair
  · subst hp
    split
    next hflag => simp [hflag]
    next => simp [find_assign_self]
  · have hne : (pair == p) = false := by simpa using Ne.symm hp
    split
    · rw [hne, Bool.or_false]
    · rw [find_assign_ne _ _ hp, hne, Bool.or_false]

lemma markPair_new (r : Dict Pair Bool × Bool) (p : Pair) :
    (markPair r p).2 = true ↔ r.2 = true ∨ (find r.1 p).getD false = false := by
  unfold markPair
  split
  next hflag => simp [hflag]
  next hflag => simp [hflag]

lemma find_markPairs (current : List Pair) (r : Dict Pair Bool × Bool) (pair : Pair) :
    (find (current.foldl markPair r).1 pair).getD false =
      ((find r.1 pair).getD false || current.contains pair) := by
  induction current generalizing r with
  | nil => simp
  | cons p current ih =>
    rw [List.foldl_cons, ih, find_markPair, Bool.or_assoc, List.contains_cons]

lemma markPairs_new (current : List Pair) (r : Dict Pair Bool × Bool) :
    (current.foldl markPair r).2 = true ↔
      r.2 = true ∨ ∃ pair, pair ∈ current ∧ (find r.1 pair).getD false = false := by
  induction current generalizing r with
  | nil => simp
  | cons p current ih =>
    rw [List.foldl_cons, ih, markPair_new]
    constructor
    · rintro ((h | h) | ⟨pair, hmem, hpair⟩)
      · exact .inl h
      · exact .inr ⟨p, List.mem_cons_self .., h⟩
      · rw [find_markPair, Bool.or_eq_false_iff] at hpair
        exact .inr ⟨pair, List.mem_cons_of_mem _ hmem, hpair.1⟩
    · rintro (h | ⟨pair, hmem, hpair⟩)
      · exact .inl (.inl h)
      · by_cases hp : pair = p
        · exact .inl (.inr (hp ▸ hpair))
        · refine .inr ⟨pair, (List.mem_cons.mp hmem).resolve_left hp, ?_⟩
          rw [find_markPair, hpair]
          simpa using hp

lemma find_clearBreaches (breaches : Dict Pair Bool) (current : List Pair) (pair : Pair) :
    (find (clearBreaches breaches current) pair).getD false =
      ((find breaches pair).getD false && current.contains pair) := by
  induction breaches with
  | nil => rfl
  | cons e breaches ih =>
    obtain ⟨p, flag⟩ := e
    have hcons : clearBreaches ((p, flag) :: breaches) current =
        (p, flag && current.contains p) :: clearBreaches breaches current := by
      cases flag
      · simp [clearBreaches]
      · by_cases hc : p ∈ current <;> simp [clearBreaches, hc]
    rw [hcons]
    by_cases hp : p = pair
    · simp [find, hp]
    · simp [find, hp, ih]

/-! ## Where the drones are -/

/-- The connected, armed drones of a table whose coordinates are all numbers. -/
def snapshot (table : FleetTable K) : Option (List (Nat × Point K)) := located (activeDrones table)

lemma located_keys {active : List (Nat × Point (Double K))} {positions : List (Nat × Point K)}
    (h : located active = some positions) : positions.map Prod.fst = active.map Prod.fst := by
  induction active generalizing positions with
  | nil => cases h; rfl
  | cons e active ih =>
    obtain ⟨d, p⟩ := e
    simp only [located, Option.bind_eq_bind, Option.bind_eq_some_iff] at h
    obtain ⟨q, -, qs, hqs, hpos⟩ := h
    cases hpos
    simp [ih hqs]

lemma snapshot_nodup {table : FleetTable K} {positions : List (Nat × Point K)}
    (h : snapshot table = some positions) : (positions.map Prod.fst).Nodup := by
  rw [located_keys h, activeDrones, List.map_map]
  exact table.nodup.sublist (List.filter_sublist.map Prod.fst)

/-- An index that finds a pair at every distance that is within the radius, and
no other (`query_pairs`). -/
structure ExactTree (K : Type) [Field K] [LinearOrder K] [Sqrt K] extends KdTree K where
  sound : ∀ (coords : List (Point K)) (r : K) (i j : Nat), (i, j) ∈ queryPairs coords r →
    ∃ p q, i < j ∧ coords[i]? = some p ∧ coords[j]? = some q ∧ pointDist p q ≤ r

section Pairs

variable [Field K] [LinearOrder K] [Sqrt K]

/-- The two drones of a pair are at a distance that is `near`. -/
def Apart (near : K → Prop) (positions : List (Nat × Point K)) (pair : Pair) : Prop :=
  ∃ p q, (pair.1, p) ∈ positions ∧ (pair.2, q) ∈ positions ∧ pair.1 < pair.2 ∧ near (pointDist p q)

/-- The same, of the two indices an index search reports. -/
def ApartAt (near : K → Prop) (positions : List (Nat × Point K)) (pair : Pair) : Prop :=
  ∃ (i j : Nat) (a b : Nat × Point K), i < j ∧ positions[i]? = some a ∧ positions[j]? = some b ∧
    near (pointDist a.2 b.2) ∧ pair = (min a.1 b.1, max a.1 b.1)

lemma pointDist_comm (p q : Point K) : pointDist p q = pointDist q p := by
  unfold pointDist
  rw [distSq_comm]

variable {positions : List (Nat × Point K)}

variable {near : K → Prop} {s' : ProximityLoop}

lemma apartAt_iff {pair : Pair} (hnodup : (positions.map Prod.fst).Nodup) :
    ApartAt near positions pair ↔ Apart near positions pair := by
  constructor
  · rintro ⟨i, j, ⟨a, p⟩, ⟨b, q⟩, hij, hi, hj, hnear, rfl⟩
    have hab : a ≠ b := by
      intro hab
      have hkeys : (positions.map Prod.fst)[i]? = (positions.map Prod.fst)[j]? := by
        simp [hi, hj, hab]
      have hlt : i < (positions.map Prod.fst).length := by
        rw [List.length_map]
        exact (List.getElem?_eq_some_iff.mp hi).1
      exact hij.ne ((List.getElem?_inj hlt hnodup).mp hkeys)
    rcases Nat.lt_or_gt_of_ne hab with hlt | hgt
    · refine ⟨p, q, ?_, ?_, by simpa [hlt.le] using hlt, hnear⟩
      · simpa [hlt.le] using List.mem_of_getElem? hi
      · simpa [hlt.le] using List.mem_of_getElem? hj
    · refine ⟨q, p, ?_, ?_, by simpa [hgt.le] using hgt, pointDist_comm p q ▸ hnear⟩
      · simpa [hgt.le] using List.mem_of_getElem? hj
      · simpa [hgt.le] using List.mem_of_getElem? hi
  · rintro ⟨p, q, hp, hq, hlt, hnear⟩
    obtain ⟨a, b⟩ := pair
    obtain ⟨i, hi⟩ := List.mem_iff_getElem?.mp hp
    obtain ⟨j, hj⟩ := List.mem_iff_getElem?.mp hq
    have hij : i ≠ j := by
      rintro rfl
      rw [hi] at hj
      cases hj
      exact lt_irrefl _ hlt
    rcases Nat.lt_or_gt_of_ne hij with h | h
    · exact ⟨i, j, (a, p), (b, q), h, hi, hj, hnear, by simp [min_eq_left hlt.le, max_eq_right hlt.le]⟩
    · exact ⟨j, i, (b, q), (a, p), h, hj, hi, pointDist_comm p q ▸ hnear,
        by simp [min_eq_right hlt.le, max_eq_left hlt.le]⟩

lemma apartAt_length {pair : Pair} (h : ApartAt near positions pair) : 2 ≤ positions.length := by
  obtain ⟨i, j, _, _, hij, -, hj, -⟩ := h
  have := (List.getElem?_eq_some_iff.mp hj).1
  omega

lemma mem_currentBreaches (tree : ExactTree K) (limit : K) (positions : List (Nat × Point K))
    (pair : Pair) : pair ∈ currentBreaches tree.toKdTree limit positions ↔
      ApartAt (· ≤ limit) positions pair := by
  unfold currentBreaches
  rw [List.mem_filterMap]
  constructor
  · rintro ⟨⟨i, j⟩, hmem, hpair⟩
    obtain ⟨p, q, hij, hi, hj, hdist⟩ := tree.sound _ _ _ _ hmem
    simp only [List.getElem?_map, Option.map_eq_some_iff] at hi hj
    obtain ⟨a, ha, rfl⟩ := hi
    obtain ⟨b, hb, rfl⟩ := hj
    simp only [ha, hb, Option.some.injEq] at hpair
    exact ⟨i, j, a, b, hij, ha, hb, hdist, hpair.symm⟩
  · rintro ⟨i, j, a, b, hij, ha, hb, hdist, rfl⟩
    exact ⟨(i, j), tree.complete _ _ _ _ a.2 b.2 hij (by simp [ha]) (by simp [hb]) hdist,
      by simp [ha, hb]⟩

def GateCounts (tree : KdTree K) (limit : K) (positions : List (Nat × Point K)) (pair : Pair) :
    Prop :=
  ∃ c ∈ closePairs tree positions limit, (c.a, c.b) = pair

lemma gateCounts_iff (tree : ExactTree K) (limit : K) (positions : List (Nat × Point K))
    (pair : Pair) : GateCounts tree.toKdTree limit positions pair ↔
      ApartAt (· < limit) positions pair := by
  have hclose : ∀ {i j : Nat} {a b : Nat × Point K}, positions[i]? = some a → positions[j]? = some b →
      ∀ c, closePair positions limit i j = some c ↔
        pointDist a.2 b.2 < limit ∧ c = ⟨min a.1 b.1, max a.1 b.1, pointDist a.2 b.2⟩ := by
    intro i j a b ha hb c
    simp only [closePair, ha, hb]
    split
    next hle => simp [not_lt.mpr hle]
    next hlt =>
      split
      next h => simp [not_le.mp hlt, min_eq_left h.le, max_eq_right h.le, eq_comm]
      next h => simp [not_le.mp hlt, min_eq_right (not_lt.mp h), max_eq_left (not_lt.mp h), eq_comm]
  unfold GateCounts closePairs
  split
  next hlen =>
    constructor
    · rintro ⟨c, hc, -⟩
      cases hc
    · intro h
      exact absurd (apartAt_length h) (by omega)
  next =>
    simp only [List.mem_insertionSort, List.mem_filterMap]
    constructor
    · rintro ⟨c, ⟨⟨i, j⟩, hmem, hc⟩, rfl⟩
      obtain ⟨p, q, hij, hi, hj, -⟩ := tree.sound _ _ _ _ hmem
      simp only [List.getElem?_map, Option.map_eq_some_iff] at hi hj
      obtain ⟨a, ha, rfl⟩ := hi
      obtain ⟨b, hb, rfl⟩ := hj
      obtain ⟨hlt, rfl⟩ := (hclose ha hb c).mp hc
      exact ⟨i, j, a, b, hij, ha, hb, hlt, rfl⟩
    · rintro ⟨i, j, a, b, hij, ha, hb, hlt, rfl⟩
      refine ⟨⟨min a.1 b.1, max a.1 b.1, pointDist a.2 b.2⟩, ⟨(i, j), ?_, ?_⟩, rfl⟩
      · exact tree.complete _ _ _ _ a.2 b.2 hij (by simp [ha]) (by simp [hb]) hlt.le
      · exact (hclose ha hb _).mpr ⟨hlt, rfl⟩

variable {table : FleetTable K}

/-- The scan of drones that are all where numbers say: it flags exactly the
pairs within the limit, and triggers for one that was not flagged. -/
lemma proximityScan_located (tree : ExactTree K) (limit : K) (breaches : Dict Pair Bool)
    (h : snapshot table = some positions) :
    ∃ breaches' triggers,
      proximityScan tree.toKdTree limit breaches table = .ok (breaches', triggers) ∧
      (∀ pair, (find breaches' pair).getD false = true ↔ ApartAt (· ≤ limit) positions pair) ∧
      (triggers = true ↔ ∃ pair, ApartAt (· ≤ limit) positions pair ∧
        (find breaches pair).getD false = false) := by
  have hlength : (activeDrones table).length = positions.length := by
    rw [← List.length_map Prod.fst, ← located_keys h, List.length_map]
  unfold proximityScan
  dsimp only
  rw [hlength]
  split
  next hlen =>
    refine ⟨_, _, rfl, fun pair => ?_, ?_⟩
    · simp only [find, Option.getD_none, Bool.false_eq_true, false_iff]
      exact fun hp => absurd (apartAt_length hp) (by omega)
    · simp only [Bool.false_eq_true, false_iff]
      rintro ⟨pair, hp, -⟩
      exact absurd (apartAt_length hp) (by omega)
  next =>
    unfold snapshot at h
    rw [h]
    refine ⟨_, _, rfl, fun pair => ?_, ?_⟩
    · rw [find_clearBreaches, find_markPairs, ← mem_currentBreaches tree]
      simp only [Bool.and_eq_true, Bool.or_eq_true, List.contains_iff_mem]
      exact ⟨And.right, fun hmem => ⟨.inr hmem, hmem⟩⟩
    · rw [markPairs_new]
      simp only [Bool.false_eq_true, false_or, mem_currentBreaches]

/-! ## Runs -/

section

variable (ls : List (ProximityLabel K))

/-- The drones the last tick found; none before the first. -/
def lastSnapshot : List (Nat × Point K) :=
  ls.foldl (fun before l =>
    match l with
    | .tick table => (snapshot table).getD []
    | _ => before) []

lemma lastSnapshot_append (l : ProximityLabel K) : lastSnapshot (ls ++ [l]) =
      match l with
      | .tick table => (snapshot table).getD []
      | _ => lastSnapshot ls := by
  unfold lastSnapshot
  rw [List.foldl_append, List.foldl_cons, List.foldl_nil]

lemma lastSnapshot_nodup : ((lastSnapshot ls).map Prod.fst).Nodup := by
  induction ls using List.reverseRecOn with
  | nil => exact List.nodup_nil
  | append_singleton ls l ih =>
    rw [lastSnapshot_append]
    cases l with
    | tick table =>
      cases h : snapshot table with
      | none => simp [h]
      | some positions => simpa [h] using snapshot_nodup h
    | rtl _ => exact ih
    | cancel => exact ih

end

variable {os : List Failsafe} {s : ProximityLoop}

lemma proximityStep_tick {tree : ExactTree K} {limit : K} (h : snapshot table = some positions)
    (hs : proximityStep tree.toKdTree limit s (.tick table) = some (s', os)) :
    (∀ pair, s'.breached pair = true ↔ ApartAt (· ≤ limit) positions pair) ∧
      (Failsafe.rtl ∈ os ↔ ∃ pair, ApartAt (· ≤ limit) positions pair ∧ s.breached pair = false) := by
  obtain ⟨breaches, triggers, hscan, hflags, htriggers⟩ :=
    proximityScan_located tree limit s.proximityBreaches h
  cases proximityStep_stepped hs with
  | died _ hfound => rw [hscan] at hfound; cases hfound
  | quiet _ hfound =>
    rw [hscan] at hfound
    cases hfound
    exact ⟨hflags, Iff.trans (by simp) htriggers⟩
  | breach _ hfound =>
    rw [hscan] at hfound
    cases hfound
    exact ⟨hflags, Iff.trans (by simp) htriggers⟩

/-- One over a drone that is nowhere: fewer than two are active, or the loop ends. -/
lemma proximityStep_tick_lost {tree : KdTree K} {limit : K}
    (h : snapshot table = none) (hs : proximityStep tree limit s (.tick table) = some (s', os)) :
    s'.proximityBreaches = [] ∨ ¬ s'.Alive := by
  have hscan : proximityScan tree limit s.proximityBreaches table = .ok ([], false) ∨
      proximityScan tree limit s.proximityBreaches table = .error treeError := by
    unfold snapshot at h
    unfold proximityScan
    dsimp only
    split
    · exact .inl rfl
    · rw [h]
      exact .inr rfl
  cases proximityStep_stepped hs with
  | died _ _ => exact .inr (by simp [ProximityLoop.Alive])
  | quiet _ hfound =>
    rcases hscan with hscan | hscan
    · rw [hscan] at hfound; cases hfound; exact .inl rfl
    · rw [hscan] at hfound; cases hfound
  | breach _ hfound => rcases hscan with hscan | hscan <;> rw [hscan] at hfound <;> cases hfound

/-- While the loop lives, the flags are the pairs the last tick found within the
limit. -/
lemma breached_iff {tree : ExactTree K} {limit : K} {ls : List (ProximityLabel K)}
    (hrun : run (proximityStep tree.toKdTree limit) {} ls = some (s, os)) (halive : s.Alive)
    (pair : Pair) : s.breached pair = true ↔ ApartAt (· ≤ limit) (lastSnapshot ls) pair := by
  have hnone : ∀ pair, ¬ ApartAt (· ≤ limit) ([] : List (Nat × Point K)) pair := fun _ h =>
    absurd (apartAt_length h) (by simp)
  refine run_history (A := fun _ _ => True)
    (I := fun ls _ s => s.Alive → ∀ pair, s.breached pair = true ↔
      ApartAt (· ≤ limit) (lastSnapshot ls) pair)
    (fun _ pair => by simp [ProximityLoop.breached, find, lastSnapshot, hnone])
    (fun ls os s l s' o _ ih _ hs halive pair => ?_) (along_of_labels fun _ _ => trivial) hrun
    halive pair
  rw [lastSnapshot_append]
  cases l with
  | tick table =>
    cases h : snapshot table with
    | some positions => simpa [h] using (proximityStep_tick h hs).1 pair
    | none =>
      rcases proximityStep_tick_lost h hs with hclear | hdead
      · simp [ProximityLoop.breached, hclear, find, h, hnone]
      · exact absurd halive hdead
  | rtl error =>
    cases proximityStep_stepped hs with
    | rtl htriggering => exact ih (.inr htriggering) pair
  | cancel =>
    cases proximityStep_stepped hs with
    | cancelled _ => simp [ProximityLoop.Alive] at halive

/-- The monitor counts at a tick the pairs the gate counts, and triggers an RTL
for one within the limit that was not there at the tick before. -/
def Agrees (tree : KdTree K) (limit : K) (before now : List (Nat × Point K)) (s : ProximityLoop)
    (os : List Failsafe) : Prop :=
  (∀ pair, s.breached pair = true ↔ GateCounts tree limit now pair) ∧
    (Failsafe.rtl ∈ os ↔ ∃ pair, s.breached pair = true ∧ ¬ Apart (· ≤ limit) before pair)

def AgreesAlong (tree : KdTree K) (limit : K) (ls : List (ProximityLabel K)) : Prop :=
  ∀ as table bs s o s' o' positions, ls = as ++ .tick table :: bs →
    run (proximityStep tree limit) {} as = some (s, o) →
    proximityStep tree limit s (.tick table) = some (s', o') → snapshot table = some positions →
      Agrees tree limit (lastSnapshot as) positions s' o'

/-- No tick of the run finds two drones at the limit itself. -/
def NoneAtLimit (limit : K) (ls : List (ProximityLabel K)) : Prop :=
  ∀ table positions pair, .tick table ∈ ls → snapshot table = some positions →
    ¬ Apart (· = limit) positions pair

end Pairs

/-! ## Two drones -/

def everyPair {K : Type} [Field K] [LinearOrder K] [Sqrt K] : ExactTree K where
  toKdTree := bruteForce
  sound coords r i j h := by
    simp only [bruteForce, List.mem_flatMap, List.mem_map, List.mem_filter, List.mem_range] at h
    obtain ⟨j', hj', i', ⟨hi', hdist⟩, hij⟩ := h
    cases hij
    have hlt : i < coords.length := hi'.trans hj'
    simp only [List.getElem?_eq_getElem hlt, List.getElem?_eq_getElem hj', decide_eq_true_eq] at hdist
    exact ⟨_, _, hi', List.getElem?_eq_getElem hlt, List.getElem?_eq_getElem hj', hdist⟩

def sideBySide (x : ℚ) : FleetTable ℚ where
  entries := [(0, ⟨true, true, .finite 0, .finite 0, .finite 2⟩),
    (1, ⟨true, true, .finite x, .finite 0, .finite 2⟩)]
  nodup := by simp

lemma apart_sideBySide {near : ℚ → Prop} {x : ℚ} {positions : List (Nat × Point ℚ)} {pair : Pair}
    (h : snapshot (sideBySide x) = some positions) (hpair : Apart near positions pair) :
    near (pointDist (0, 0, 2) (x, 0, 2)) := by
  have hpos : positions = [(0, (0, 0, 2)), (1, (x, 0, 2))] := (Option.some.inj h).symm
  obtain ⟨p, q, hp, hq, hlt, hnear⟩ := hpair
  simp only [hpos, List.mem_cons, Prod.mk.injEq, List.not_mem_nil, or_false] at hp hq
  rcases hp with ⟨ha, rfl⟩ | ⟨ha, rfl⟩ <;> rcases hq with ⟨hb, rfl⟩ | ⟨hb, rfl⟩
  · omega
  · exact hnear
  · omega
  · omega

/-- In every run the monitor agrees with the gate at every tick exactly if no
tick finds two drones at the limit itself. -/
theorem monitor_agrees_iff [Field K] [LinearOrder K] [Sqrt K] (tree : ExactTree K) (limit : K)
    {ls : List (ProximityLabel K)}
    {s : ProximityLoop} {os : List Failsafe}
    (hrun : run (proximityStep tree.toKdTree limit) {} ls = some (s, os)) :
    AgreesAlong tree.toKdTree limit ls ↔ NoneAtLimit limit ls := by
  constructor
  · intro hagrees table positions pair hmem hpos hat
    obtain ⟨as, bs, rfl⟩ := List.append_of_mem hmem
    obtain ⟨s₁, o₁, o₁', hr₁, hr₂, -⟩ := run_append.mp hrun
    obtain ⟨s₂, o₂, o₂', hs, -, -⟩ := run_cons.mp hr₂
    have hgate := ((hagrees as table bs s₁ o₁ s₂ o₂ positions rfl hr₁ hs hpos).1 pair).mp <| by
      rw [(proximityStep_tick hpos hs).1 pair, apartAt_iff (snapshot_nodup hpos)]
      obtain ⟨p, q, hp, hq, hlt, hdist⟩ := hat
      exact ⟨p, q, hp, hq, hlt, hdist.le⟩
    rw [gateCounts_iff, apartAt_iff (snapshot_nodup hpos)] at hgate
    obtain ⟨p, q, hp, hq, hlt, hdist⟩ := hat
    obtain ⟨p', q', hp', hq', -, hless⟩ := hgate
    -- a drone has one place in a snapshot
    have hplace : ∀ {d p p'}, (d, p) ∈ positions → (d, p') ∈ positions → p = p' := by
      intro d p p' h h'
      have hp := find_of_mem (snapshot_nodup hpos) h
      rw [find_of_mem (snapshot_nodup hpos) h'] at hp
      exact (Option.some.inj hp).symm
    rw [← hplace hp hp', ← hplace hq hq', hdist] at hless
    exact lt_irrefl _ hless
  · intro hfree as table bs s₁ o₁ s₂ o₂ positions hls hr₁ hs hpos
    obtain ⟨hflags, hrtl⟩ := proximityStep_tick hpos hs
    have halive : s₁.Alive := by
      cases proximityStep_stepped hs with
      | died h _ => exact .inl h
      | quiet h _ => exact .inl h
      | breach h _ => exact .inl h
    constructor
    · intro pair
      rw [hflags, gateCounts_iff, apartAt_iff (snapshot_nodup hpos), apartAt_iff (snapshot_nodup hpos)]
      constructor
      · rintro ⟨p, q, hp, hq, hlt, hle⟩
        refine ⟨p, q, hp, hq, hlt, lt_of_le_of_ne hle fun heq => ?_⟩
        exact hfree table positions pair (by rw [hls]; simp) hpos ⟨p, q, hp, hq, hlt, heq⟩
      · rintro ⟨p, q, hp, hq, hlt, hless⟩
        exact ⟨p, q, hp, hq, hlt, hless.le⟩
    · rw [hrtl]
      refine exists_congr fun pair => ?_
      rw [hflags, ← apartAt_iff (lastSnapshot_nodup as), ← breached_iff hr₁ halive pair]
      simp

/-- Two drones come close, part, and come close again. -/
theorem monitor_agrees_iff_twice :
    AgreesAlong everyPair.toKdTree (defaultLimits : SafetyLimits ℚ).minSeparationM
      [.tick (sideBySide 1), .rtl none, .tick (sideBySide 2), .tick (sideBySide 1), .rtl none] := by
  obtain ⟨⟨s, os⟩, hrun, -⟩ :
      ∃ r ∈ run (proximityStep everyPair.toKdTree (defaultLimits : SafetyLimits ℚ).minSeparationM) {}
        [.tick (sideBySide 1), .rtl none, .tick (sideBySide 2), .tick (sideBySide 1), .rtl none],
      True := by decide +kernel
  refine (monitor_agrees_iff everyPair _ hrun).mpr ?_
  intro table positions pair hmem hpos hat
  simp only [List.mem_cons, ProximityLabel.tick.injEq, reduceCtorEq, List.not_mem_nil, or_false,
    false_or] at hmem
  rcases hmem with rfl | rfl | rfl
  · exact absurd (apart_sideBySide hpos hat) (by decide +kernel)
  · exact absurd (apart_sideBySide hpos hat) (by decide +kernel)
  · exact absurd (apart_sideBySide hpos hat) (by decide +kernel)

/-- At the limit itself the monitor triggers an RTL for a pair the gate passes. -/
theorem disagrees_at_limit :
    ¬ AgreesAlong everyPair.toKdTree (defaultLimits : SafetyLimits ℚ).minSeparationM
      [.tick (sideBySide (3 / 2))] := by
  intro hagrees
  obtain ⟨⟨s, os⟩, hs, hbreached⟩ :
      ∃ r ∈ proximityStep everyPair.toKdTree (defaultLimits : SafetyLimits ℚ).minSeparationM {}
      (.tick (sideBySide (3 / 2))), r.1.breached (0, 1) := by decide +kernel
  have hcounted := ((hagrees [] _ [] _ _ _ _ _ rfl rfl hs rfl).1 (0, 1)).mp hbreached
  rw [gateCounts_iff, apartAt_iff (by decide)] at hcounted
  exact absurd (apart_sideBySide rfl hcounted) (by decide +kernel)

end Taramandal.Gcs.ProximityMonitor
