import Taramandal.Core.CleanSweep
import Taramandal.Lib.Ranking

/-! # What a safety report shows of its violations

A report shows at most 50 violations of a kind, the 25 worst among them, at the times at which they
happened. This rests on the violations coming in time order: the sweep finds them so, the scan of
the waypoints, drone by drone, need not. -/
set_option linter.unusedSectionVars false

namespace Taramandal.Core.ReportOrder

open Lib.Logged Lib.Ranking Core.Numbers Core.Geometry Core.Safety Core.Shows Core.Validate
open Core.ShowReport Core.CleanSweep

variable {K : Type} [Field K] [LinearOrder K]

section Kind

variable {V : Type} {time : V → K} {found : List (K × V)}

def timeAt (time : V → K) (found : List (K × V)) (i : Nat) : K :=
  (found[i]?.map fun e => time e.2).getD 0

/-- The entry at `j` is more severe than the one at `i`, or as severe and earlier. -/
def Beats (time : V → K) (found : List (K × V)) (j i : Nat) : Prop :=
  excessAt found i < excessAt found j ∨ excessAt found j = excessAt found i ∧
    (timeAt time found j < timeAt time found i ∨ timeAt time found j = timeAt time found i ∧ j < i)

instance (j i : Nat) : Decidable (Beats time found j i) := inferInstanceAs (Decidable (_ ∨ _))

def entriesAt (found : List (K × V)) (places : List Nat) : List V :=
  places.filterMap fun i => found[i]?.map Prod.snd

/-- What a report is to show of all violations of one kind: in time order, some of their places,
50 or all of them, among them the 25 most severe and the worst, which is the earliest of those that
went furthest. -/
structure ShowsWorst (time : V → K) (found : List (K × V)) (shown : List V) (worst : Option V) :
    Prop where
  ordered : shown.Pairwise fun a b => time a ≤ time b
  picked : ∃ places : List Nat, places.Pairwise (· < ·) ∧ (∀ i ∈ places, i < found.length) ∧
    shown = entriesAt found places ∧ places.length = min 50 found.length ∧
      (∀ i < found.length, ((List.range found.length).filter fun j => Beats time found j i).length <
        25 → i ∈ places) ∧
        ∀ v, worst = some v → ∃ i ∈ places, (found[i]?.map Prod.snd) = some v ∧
          ∀ j < found.length, excessAt found j ≤ excessAt found i ∧
            (excessAt found j = excessAt found i → time v ≤ timeAt time found j)
  worst_none : worst = none ↔ found = []

def InTimeOrder (time : V → K) (found : List (K × V)) : Prop :=
  found.Pairwise fun a b => time a.2 ≤ time b.2

/-! ### The places that are picked -/

section

variable (found : List (K × V))

/-- The places of the violations that `report_subset` picks. -/
def pickedPlaces (cap : Nat) : List Nat :=
  if found.length ≤ cap then List.range found.length
  else
    let mostSevere := cap / 2
    let indices := List.range found.length
    let severe := (indices.insertionSort fun i j => excessAt found j ≤ excessAt found i).take
      mostSevere
    let rest := indices.filter fun i => i ∉ severe
    let step := max 1 (rest.length / (cap - mostSevere))
    let sample := (every step rest).take (cap - mostSevere)
    indices.filter fun i => i ∈ severe ∨ i ∈ sample

lemma entriesAt_range : entriesAt found (List.range found.length) = found.map Prod.snd := by
  induction found using List.reverseRecOn with
  | nil => rfl
  | append_singleton found e ih =>
    have hkeep : entriesAt (found ++ [e]) (List.range found.length) =
        entriesAt found (List.range found.length) := by
      refine List.filterMap_congr fun i hi => ?_
      rw [List.getElem?_append_left (List.mem_range.mp hi)]
    rw [List.length_append, List.length_singleton, List.range_succ, List.map_append, ← ih, ← hkeep,
      entriesAt, List.filterMap_append]
    simp [entriesAt]

lemma reportSubset_eq (cap : Nat) :
    reportSubset found cap = entriesAt found (pickedPlaces found cap) := by
  unfold reportSubset pickedPlaces
  split
  · exact (entriesAt_range found).symm
  · rfl

lemma pickedPlaces_sublist (cap : Nat) :
    (pickedPlaces found cap).Sublist (List.range found.length) := by
  unfold pickedPlaces
  split
  · exact .refl _
  · exact List.filter_sublist

end

variable {α : Type} {i j : Nat}

lemma every_sublist (step : Nat) (xs : List α) : (every step xs).Sublist xs := by
  have hsub : (every step xs).Sublist (xs.zipIdx.map Prod.fst) := List.filter_sublist.map Prod.fst
  rwa [List.zipIdx_map_fst] at hsub

lemma div_le_length_every {step : Nat} (hstep : 0 < step) (xs : List α) :
    xs.length / step ≤ (every step xs).length := by
  have hplaces : (xs.zipIdx.map Prod.snd).filter (fun i => i % step = 0) =
      (xs.zipIdx.filter fun p => p.2 % step = 0).map Prod.snd := List.filter_map
  rw [List.zipIdx_map_snd, ← List.range_eq_range'] at hplaces
  have hlength := congrArg List.length hplaces
  rw [List.length_map] at hlength
  rw [every, List.length_map, ← hlength]
  exact div_le_length_filter_mod _ _ hstep

lemma le_length_every {size : Nat} {xs : List α} (hlong : size ≤ xs.length) :
    size ≤ (every (max 1 (xs.length / size)) xs).length := by
  refine le_trans ?_ (div_le_length_every (lt_max_of_lt_left Nat.zero_lt_one) xs)
  rcases Nat.eq_zero_or_pos size with rfl | hpos
  · exact Nat.zero_le _
  · have hstep : 1 ≤ xs.length / size := (Nat.one_le_div_iff hpos).mpr hlong
    rw [max_eq_right hstep, Nat.le_div_iff_mul_le hstep, Nat.mul_comm]
    exact Nat.div_mul_le_self _ _

lemma length_pickedPlaces (found : List (K × V)) (cap : Nat) :
    (pickedPlaces found cap).length = min cap found.length := by
  unfold pickedPlaces
  split
  next hle => rw [List.length_range, min_eq_right hle]
  next hlong =>
    simp only
    have hperm := List.perm_insertionSort (fun i j => excessAt found j ≤ excessAt found i)
      (List.range found.length)
    generalize (List.range found.length).insertionSort
      (fun i j => excessAt found j ≤ excessAt found i) = ranked at hperm
    have hrankedNodup : ranked.Nodup := hperm.nodup_iff.mpr List.nodup_range
    have hrankedLength : ranked.length = found.length := by
      rw [hperm.length_eq, List.length_range]
    have hsevere : (ranked.take (cap / 2)).length = cap / 2 := by
      rw [List.length_take, hrankedLength]
      omega
    have hsevereNodup : (ranked.take (cap / 2)).Nodup :=
      hrankedNodup.sublist (List.take_sublist _ _)
    have hsevereMem : ∀ i ∈ ranked.take (cap / 2), i ∈ List.range found.length :=
      fun i hi => hperm.mem_iff.mp (List.mem_of_mem_take hi)
    generalize ranked.take (cap / 2) = severe at hsevere hsevereNodup hsevereMem
    -- the rest is what the ranking has left, and is long enough for its sample
    have hrestLength : ((List.range found.length).filter fun i => i ∉ severe).length =
        found.length - cap / 2 := by
      have hsplit := List.length_eq_length_filter_add (l := List.range found.length)
        (fun i => decide (i ∈ severe))
      have hin : ((List.range found.length).filter fun i => i ∈ severe).Perm severe := by
        refine (List.perm_ext_iff_of_nodup (List.nodup_range.filter _) hsevereNodup).mpr
          fun i => ?_
        rw [List.mem_filter, decide_eq_true_eq]
        exact ⟨fun h => h.2, fun h => ⟨hsevereMem i h, h⟩⟩
      have hnot : (List.range found.length).filter (fun i => !decide (i ∈ severe)) =
          (List.range found.length).filter fun i => i ∉ severe :=
        List.filter_congr fun i _ => decide_not.symm
      rw [List.length_range, hin.length_eq, hsevere, hnot] at hsplit
      omega
    have hrestNodup : ((List.range found.length).filter fun i => i ∉ severe).Nodup :=
      List.nodup_range.filter _
    have hrestMem : ∀ i ∈ (List.range found.length).filter (fun i => i ∉ severe),
        i ∈ List.range found.length ∧ i ∉ severe := by
      intro i hi
      exact ⟨(List.mem_filter.mp hi).1, of_decide_eq_true (List.mem_filter.mp hi).2⟩
    generalize (List.range found.length).filter (fun i => i ∉ severe) = rest
      at hrestLength hrestNodup hrestMem
    have hsize : cap - cap / 2 ≤ rest.length := by omega
    have hsample : ((every (max 1 (rest.length / (cap - cap / 2))) rest).take
        (cap - cap / 2)).length = cap - cap / 2 := by
      rw [List.length_take, min_eq_left (le_length_every hsize)]
    have hsampleSub : ((every (max 1 (rest.length / (cap - cap / 2))) rest).take
        (cap - cap / 2)).Sublist rest := (List.take_sublist _ _).trans (every_sublist _ _)
    generalize (every (max 1 (rest.length / (cap - cap / 2))) rest).take (cap - cap / 2) = sample
      at hsample hsampleSub
    have hpicked : ((List.range found.length).filter fun i => i ∈ severe ∨ i ∈ sample).Perm
        (severe ++ sample) := by
      refine (List.perm_ext_iff_of_nodup (List.nodup_range.filter _) ?_).mpr fun i => ?_
      · refine hsevereNodup.append (hrestNodup.sublist hsampleSub) fun i hi hi' => ?_
        exact (hrestMem i (hsampleSub.subset hi')).2 hi
      · rw [List.mem_filter, decide_eq_true_eq, List.mem_append]
        refine ⟨fun h => h.2, fun h => ⟨?_, h⟩⟩
        rcases h with h | h
        · exact hsevereMem i h
        · exact (hrestMem i (hsampleSub.subset h)).1
    rw [hpicked.length_eq, List.length_append, hsevere, hsample]
    omega

lemma mem_pickedPlaces {cap : Nat} (hi : i < found.length)
    (hfew : ((List.range found.length).filter fun j => Outranks (excessAt found) j i).length <
      cap / 2) : i ∈ pickedPlaces found cap := by
  unfold pickedPlaces
  split
  · exact List.mem_range.mpr hi
  · refine List.mem_filter.mpr ⟨List.mem_range.mpr hi, decide_eq_true (.inl ?_)⟩
    have hsorted := List.perm_insertionSort (fun i j => excessAt found j ≤ excessAt found i)
      (List.range found.length)
    refine mem_take_of_few (insertionSort_ranked List.pairwise_lt_range)
      (hsorted.mem_iff.mpr (List.mem_range.mpr hi)) ?_
    rw [(hsorted.filter _).length_eq]
    exact hfew

/-- The more severe of two entries, the first if they are equal. -/
def worse (best item : K × V) : K × V := if best.1 < item.1 then item else best

lemma foldl_worse (item : K × V) (rest : List (K × V)) :
    ∃ i, (item :: rest)[i]? = some (rest.foldl worse item) ∧
      ∀ (j : Nat) (e : K × V), (item :: rest)[j]? = some e → e.1 ≤ (rest.foldl worse item).1 ∧
        (j < i → e.1 < (rest.foldl worse item).1) := by
  induction rest using List.reverseRecOn with
  | nil =>
    refine ⟨0, rfl, fun j e he => ?_⟩
    obtain ⟨hj, rfl⟩ := List.getElem?_eq_some_iff.mp he
    obtain rfl : j = 0 := Nat.lt_one_iff.mp hj
    exact ⟨le_refl _, fun h => absurd h (Nat.lt_irrefl 0)⟩
  | append_singleton rest last ih =>
    obtain ⟨i, hi, hmax⟩ := ih
    rw [List.foldl_append, List.foldl_cons, List.foldl_nil]
    generalize rest.foldl worse item = best at hi hmax ⊢
    have hcons : item :: (rest ++ [last]) = (item :: rest) ++ [last] := rfl
    have hkeep : ∀ {j : Nat} {e : K × V}, ((item :: rest) ++ [last])[j]? = some e →
        (item :: rest)[j]? = some e ∨ j = (item :: rest).length ∧ e = last := by
      intro j e he
      by_cases hj : j < (item :: rest).length
      · rw [List.getElem?_append_left hj] at he
        exact .inl he
      · obtain ⟨hlt, -⟩ := List.getElem?_eq_some_iff.mp he
        rw [List.length_append, List.length_singleton] at hlt
        obtain rfl : j = (item :: rest).length := by omega
        rw [List.getElem?_concat_length] at he
        exact .inr ⟨rfl, (Option.some.inj he).symm⟩
    rw [hcons]
    by_cases hlast : best.1 < last.1
    · rw [worse, if_pos hlast]
      refine ⟨(item :: rest).length, List.getElem?_concat_length, fun j e he => ?_⟩
      rcases hkeep he with he | ⟨rfl, rfl⟩
      · have hlt := (hmax j e he).1.trans_lt hlast
        exact ⟨hlt.le, fun _ => hlt⟩
      · exact ⟨le_refl _, fun h => absurd h (Nat.lt_irrefl _)⟩
    · rw [worse, if_neg hlast]
      obtain ⟨hlt, -⟩ := List.getElem?_eq_some_iff.mp hi
      refine ⟨i, (List.getElem?_append_left hlt).trans hi, fun j e he => ?_⟩
      rcases hkeep he with he | ⟨rfl, rfl⟩
      · exact hmax j e he
      · exact ⟨not_lt.mp hlast, fun h => absurd h (not_lt.mpr hlt.le)⟩

lemma excessAt_eq {e : K × V} (h : found[i]? = some e) : excessAt found i = e.1 := by
  rw [excessAt, h]
  rfl

lemma worstOf_spec {v : V} (h : worstOf found = some v) :
    ∃ i < found.length, (found[i]?.map Prod.snd) = some v ∧ ∀ j < found.length,
      excessAt found j ≤ excessAt found i ∧ (j < i → excessAt found j < excessAt found i) := by
  cases found with
  | nil => cases h
  | cons item rest =>
    obtain ⟨i, hi, hmax⟩ := foldl_worse item rest
    obtain ⟨hlt, -⟩ := List.getElem?_eq_some_iff.mp hi
    refine ⟨i, hlt, ?_, fun j hj => ?_⟩
    · rw [hi, Option.map_some]
      exact h
    · obtain ⟨hle, hfirst⟩ := hmax j _ (List.getElem?_eq_getElem hj)
      rw [excessAt_eq (List.getElem?_eq_getElem hj), excessAt_eq hi]
      exact ⟨hle, hfirst⟩

/-! ### In time order -/

section

variable (h : InTimeOrder time found)
include h

lemma InTimeOrder.timeAt_le (hij : i ≤ j)
    (hj : j < found.length) : timeAt time found i ≤ timeAt time found j := by
  have hi := Nat.lt_of_le_of_lt hij hj
  rw [timeAt, timeAt, List.getElem?_eq_getElem hi, List.getElem?_eq_getElem hj]
  rcases hij.lt_or_eq with hlt | rfl
  · exact List.pairwise_iff_getElem.mp h i j hi hj hlt
  · exact le_refl _

lemma InTimeOrder.beats_iff (hi : i < found.length)
    (hj : j < found.length) : Beats time found j i ↔ Outranks (excessAt found) j i := by
  refine or_congr_right (and_congr_right fun _ => ?_)
  constructor
  · rintro (hlt | ⟨-, hlt⟩)
    · by_contra hle
      exact absurd (h.timeAt_le (not_lt.mp hle) hj) (not_le.mpr hlt)
    · exact hlt
  · intro hlt
    rcases (h.timeAt_le hlt.le hi).lt_or_eq with htime | htime
    · exact .inl htime
    · exact .inr ⟨htime, hlt⟩

lemma InTimeOrder.showsWorst :
    ShowsWorst time found (reportSubset found maxReported) (worstOf found) where
  ordered := by
    have hall : (found.map Prod.snd).Pairwise fun a b => time a ≤ time b :=
      List.pairwise_map.mpr h
    rw [← entriesAt_range] at hall
    rw [reportSubset_eq]
    exact hall.sublist ((pickedPlaces_sublist _ _).filterMap _)
  picked := by
    refine ⟨pickedPlaces found maxReported,
      List.pairwise_lt_range.sublist (pickedPlaces_sublist _ _),
      fun i hi => List.mem_range.mp ((pickedPlaces_sublist _ _).subset hi), reportSubset_eq _ _,
      length_pickedPlaces _ _, fun i hi hfew => mem_pickedPlaces hi ?_, fun v hv => ?_⟩
    · have hsame : (List.range found.length).filter (fun j => Outranks (excessAt found) j i) =
          (List.range found.length).filter fun j => Beats time found j i := by
        refine List.filter_congr fun j hj => ?_
        rw [decide_eq_decide]
        exact (h.beats_iff hi (List.mem_range.mp hj)).symm
      rw [hsame]
      exact hfew
    · obtain ⟨i, hi, hentry, hmax⟩ := worstOf_spec hv
      have hnone : (List.range found.length).filter
          (fun j => Outranks (excessAt found) j i) = [] := by
        refine List.filter_eq_nil_iff.mpr fun j hj hout => ?_
        obtain ⟨hle, hfirst⟩ := hmax j (List.mem_range.mp hj)
        rcases of_decide_eq_true hout with hlt | ⟨heq, hlt⟩
        · exact absurd hle (not_le.mpr hlt)
        · exact (hfirst hlt).ne heq
      refine ⟨i, mem_pickedPlaces hi ?_, hentry, fun j hj => ⟨(hmax j hj).1, fun heq => ?_⟩⟩
      · rw [hnone]
        decide
      · have hij : i ≤ j := by
          by_contra hlt
          exact ((hmax j hj).2 (not_le.mp hlt)).ne heq
        have htime : timeAt time found i = time v := by
          rw [List.getElem?_eq_getElem hi, Option.map_some] at hentry
          rw [timeAt, List.getElem?_eq_getElem hi, ← Option.some.inj hentry]
          rfl
        rw [← htime]
        exact h.timeAt_le hij hj
  worst_none := by
    cases found with
    | nil => exact iff_of_true rfl rfl
    | cons item rest => exact iff_of_false (Option.some_ne_none _) (List.cons_ne_nil _ _)

end

lemma ShowsWorst.inTimeOrder {worst : Option V} (hfew : found.length ≤ maxReported)
    (h : ShowsWorst time found (reportSubset found maxReported) worst) :
    InTimeOrder time found := by
  have hordered := h.ordered
  rw [reportSubset, if_pos hfew, List.pairwise_map] at hordered
  exact hordered

end Kind

section Swept

variable [FloorRing K] [Sqrt K] {limits : SafetyLimits K} {dt t : K} {tree : KdTree K} {s : Show K}
  {threshold : K}

lemma past_time (t : K) (drone : Nat) (value limit : K) :
    ∀ x ∈ past t drone value limit, x.2.time = roundTo 2 t := by
  intro x hx
  unfold past at hx
  split at hx
  · rw [List.mem_singleton.mp hx]
  · cases hx

lemma sweepDrone_adds (acc : Sweep K) (state : Nat × Waypoint K) :
    ∃ velocity acceleration yawRate, (∀ x ∈ velocity ++ acceleration ++ yawRate,
        x.2.time = roundTo 2 t) ∧
      (sweepDrone limits dt t acc state).velocity = acc.velocity ++ velocity ∧
        (sweepDrone limits dt t acc state).acceleration = acc.acceleration ++ acceleration ∧
          (sweepDrone limits dt t acc state).yawRate = acc.yawRate ++ yawRate := by
  simp only [sweepDrone]
  split
  next =>
    exact ⟨[], [], [], fun x hx => absurd hx List.not_mem_nil, (List.append_nil _).symm,
      (List.append_nil _).symm, (List.append_nil _).symm⟩
  next =>
    refine ⟨_, _, _, fun x hx => ?_, rfl, rfl, rfl⟩
    rcases List.mem_append.mp hx with hx | hx
    · rcases List.mem_append.mp hx with hx | hx
      · exact past_time _ _ _ _ x hx
      · exact past_time _ _ _ _ x hx
    · exact past_time _ _ _ _ x hx

lemma velocity_adds : AppendsOnly (fun _ x => x.2.time = roundTo 2 t) Sweep.velocity
    (sweepDrone limits dt t) := by
  intro acc state
  obtain ⟨new, acceleration, yawRate, hall, hnew, -, -⟩ := sweepDrone_adds acc state
  exact ⟨new, hnew, fun x hx => hall x (by simp [hx])⟩

lemma acceleration_adds : AppendsOnly (fun _ x => x.2.time = roundTo 2 t) Sweep.acceleration
    (sweepDrone limits dt t) := by
  intro acc state
  obtain ⟨velocity, new, yawRate, hall, -, hnew, -⟩ := sweepDrone_adds acc state
  exact ⟨new, hnew, fun x hx => hall x (by simp [hx])⟩

lemma yawRate_adds : AppendsOnly (fun _ x => x.2.time = roundTo 2 t) Sweep.yawRate
    (sweepDrone limits dt t) := by
  intro acc state
  obtain ⟨velocity, acceleration, new, hall, -, -, hnew⟩ := sweepDrone_adds acc state
  exact ⟨new, hnew, fun x hx => hall x (by simp [hx])⟩

lemma sweepAt_adds {log : Sweep K → List (K × MotionViolation K)}
    (hlog : ∀ acc t, log (samplePairs tree s threshold acc t) = log acc)
    (h : ∀ t, AppendsOnly (fun _ x => x.2.time = roundTo 2 t) log (sweepDrone limits dt t)) :
    AppendsOnly (fun t x => x.2.time = roundTo 2 t) log (sweepAt tree s limits threshold dt) := by
  intro acc t
  obtain ⟨new, hnew, hall⟩ := (h t).foldl (fun _ x hx => hx) (samplePairs tree s threshold acc t)
    (statesAt s t)
  rw [hlog] at hnew
  exact ⟨new, hnew, hall⟩

lemma sweepAt_addsPairs : AppendsOnly (fun t x => x.2.time = roundTo 2 t) Sweep.proximity
    (sweepAt tree s limits threshold dt) := by
  intro acc t
  refine ⟨_, sweepAt_proximity acc t, fun x hx => ?_⟩
  obtain ⟨c, -, rfl⟩ := List.mem_map.mp hx
  rfl

variable [IsStrictOrderedRing K]

lemma roundTo_mono (digits : Nat) : Monotone (roundTo (K := K) digits) := by
  intro x y hxy
  have hscaled : x * 10 ^ digits ≤ y * 10 ^ digits :=
    mul_le_mul_of_nonneg_right hxy (by positivity)
  have hround : (roundHalfEven (x * 10 ^ digits) : K) ≤ roundHalfEven (y * 10 ^ digits) := by
    exact_mod_cast roundHalfEven_mono hscaled
  exact div_le_div_of_nonneg_right hround (by positivity)

lemma sweepTimes_ordered (duration : K) :
    ((sweepTimes duration (1 / 10)).map (roundTo 2)).Pairwise (· ≤ ·) := by
  rw [List.pairwise_map]
  suffices h : (sweepTimes duration (1 / 10)).Pairwise (· ≤ ·) from
    h.imp fun hle => roundTo_mono 2 hle
  unfold sweepTimes
  split
  · exact List.pairwise_singleton _ _
  · rw [List.pairwise_map]
    refine List.pairwise_lt_range.imp fun {i j} hij => ?_
    have hcast : (i : K) ≤ j := by exact_mod_cast hij.le
    linarith

lemma swept_inTimeOrder {V : Type} {time : V → K} {log : Sweep K → List (K × V)}
    (hstart : log startSweep = [])
    (h : AppendsOnly (fun t x => time x.2 = roundTo 2 t) log
      (sweepAt tree s limits threshold (1 / 10))) :
    InTimeOrder time (log (sweepShow tree s limits threshold (1 / 10))) := by
  refine AppendsOnly.ordered h (sweepTimes_ordered _) ?_ ?_
  · rw [hstart]
    exact List.Pairwise.nil
  · intro x hx
    rw [hstart] at hx
    cases hx

/-! ## The whole report -/

def ReportsWell (report : Report K) (found : Found K) : Prop :=
  ShowsWorst ProximityViolation.time found.proximity report.violations.proximity
      report.worstViolations.proximity ∧
    ShowsWorst MotionViolation.time found.velocity report.violations.velocity
      report.worstViolations.velocity ∧
    ShowsWorst MotionViolation.time found.acceleration report.violations.acceleration
      report.worstViolations.acceleration ∧
    ShowsWorst MotionViolation.time found.yawRate report.violations.yawRate
      report.worstViolations.yawRate ∧
    ShowsWorst AltitudeViolation.time found.altitude report.violations.altitude
      report.worstViolations.altitude ∧
    ShowsWorst AltitudeViolation.time found.ground report.violations.ground
      report.worstViolations.ground

/-- When the waypoints with a breach are, as a report gives the time, drone by drone. -/
def breachTimes (s : Show K) (breach : Waypoint K → Prop) [DecidablePred breach] : List K :=
  s.drones.flatMap fun d => (d.2.filter breach).map fun wp => roundTo 2 wp.time

def ceilingTimes (s : Show K) (limits : SafetyLimits K) : List K :=
  breachTimes s fun wp => limits.maxAltitudeM < -wp.z

def groundTimes (s : Show K) (limits : SafetyLimits K) : List K :=
  breachTimes s fun wp => ¬ limits.maxAltitudeM < -wp.z ∧ -wp.z < 0

/-- Drone by drone, the waypoints with a breach come in time order. -/
structure ScannedInOrder (s : Show K) (limits : SafetyLimits K) : Prop where
  ceiling : (ceilingTimes s limits).Pairwise (· ≤ ·)
  ground : (groundTimes s limits).Pairwise (· ≤ ·)

lemma altitude_times (s : Show K) (limits : SafetyLimits K) :
    (altitudeExtremes s limits).1.map (fun x => x.2.time) = ceilingTimes s limits := by
  simp only [altitudeExtremes, ceilingTimes, breachTimes, List.map_flatMap, List.map_map]
  rfl

lemma ground_times (s : Show K) (limits : SafetyLimits K) :
    (altitudeExtremes s limits).2.1.map (fun x => x.2.time) = groundTimes s limits := by
  simp only [altitudeExtremes, groundTimes, breachTimes, List.map_flatMap, List.map_map]
  rfl

variable (tree) in
/-- A report shows the picked violations and the worst of them, of no drones as well. -/
lemma validateShow_shows (s : Show K) (limits : SafetyLimits K) (separation : Option K) (dt : K) :
    (validateShow tree s limits separation dt).violations =
        (foundIn tree s limits (separation.getD limits.designSeparationM) dt).reported ∧
      (validateShow tree s limits separation dt).worstViolations =
        (foundIn tree s limits (separation.getD limits.designSeparationM) dt).worst := by
  unfold validateShow
  split
  next hnil =>
    have hduration : s.duration = 0 := by
      rw [Show.duration, hnil]
      rfl
    have htimes : sweepTimes s.duration dt = [0] := by
      rw [hduration]
      exact if_pos le_rfl
    have hstates : statesAt s 0 = [] := by rw [statesAt, hnil, List.filterMap_nil]
    have hpositions : positionsAt s 0 = [] := by rw [positionsAt, hnil, List.filterMap_nil]
    have hpairs : ∀ threshold, closePairs tree ([] : List (Nat × Point K)) threshold = [] :=
      fun _ => rfl
    have hfound : foundIn tree s limits (separation.getD limits.designSeparationM) dt =
        ⟨[], [], [], [], [], []⟩ := by
      simp only [foundIn, sweepShow, htimes, List.foldl_cons, List.foldl_nil, sweepAt, hstates,
        samplePairs, hpositions, hpairs, List.map_nil, altitudeExtremes, hnil, List.flatMap_nil]
      rfl
    rw [hfound]
    exact ⟨rfl, rfl⟩
  next => exact ⟨rfl, rfl⟩

/-- If the waypoints with a breach come in time order, drone by drone, then a report shows what it
is to show; with few enough of them it does so only then. -/
theorem reportsWell_iff (s : Show K) (limits : SafetyLimits K) (separation : Option K) :
    (ScannedInOrder s limits → ReportsWell (validateShow tree s limits separation (1 / 10))
        (foundIn tree s limits (separation.getD limits.designSeparationM) (1 / 10))) ∧
      ((ceilingTimes s limits).length ≤ maxReported → (groundTimes s limits).length ≤ maxReported →
        (ReportsWell (validateShow tree s limits separation (1 / 10))
            (foundIn tree s limits (separation.getD limits.designSeparationM) (1 / 10)) ↔
          ScannedInOrder s limits)) := by
  obtain ⟨hshown, hworst⟩ := validateShow_shows tree s limits separation (1 / 10)
  have hceiling : InTimeOrder AltitudeViolation.time (altitudeExtremes s limits).1 ↔
      (ceilingTimes s limits).Pairwise (· ≤ ·) := by
    rw [← altitude_times, List.pairwise_map]
    rfl
  have hground : InTimeOrder AltitudeViolation.time (altitudeExtremes s limits).2.1 ↔
      (groundTimes s limits).Pairwise (· ≤ ·) := by
    rw [← ground_times, List.pairwise_map]
    rfl
  have hwell : ScannedInOrder s limits →
      ReportsWell (validateShow tree s limits separation (1 / 10))
        (foundIn tree s limits (separation.getD limits.designSeparationM) (1 / 10)) := by
    intro h
    rw [ReportsWell, hshown, hworst]
    exact ⟨(swept_inTimeOrder rfl sweepAt_addsPairs).showsWorst,
      (swept_inTimeOrder rfl (sweepAt_adds (fun _ _ => rfl) fun _ => velocity_adds)).showsWorst,
      (swept_inTimeOrder rfl (sweepAt_adds (fun _ _ => rfl) fun _ => acceleration_adds)).showsWorst,
      (swept_inTimeOrder rfl (sweepAt_adds (fun _ _ => rfl) fun _ => yawRate_adds)).showsWorst,
      (hceiling.mpr h.ceiling).showsWorst, (hground.mpr h.ground).showsWorst⟩
  refine ⟨hwell, fun hfewAbove hfewBelow => ⟨fun h => ?_, hwell⟩⟩
  rw [ReportsWell, hshown, hworst] at h
  obtain ⟨-, -, -, -, habove, hbelow⟩ := h
  rw [← altitude_times, List.length_map] at hfewAbove
  rw [← ground_times, List.length_map] at hfewBelow
  exact ⟨hceiling.mp (habove.inTimeOrder hfewAbove), hground.mp (hbelow.inTimeOrder hfewBelow)⟩

/-- A drone that climbs too high early, and one that does so later. -/
def inTurn : Show ℚ where
  drones := [(0, [{ time := 1, x := 10, y := 0, z := -150, yaw := 0 }]),
    (1, [{ time := 5, x := 0, y := 0, z := -200, yaw := 0 }])]
  unique := by decide

theorem reportsWell_iff_inTurn : ReportsWell
    (validateShow bruteForce inTurn defaultLimits none (1 / 10))
    (foundIn bruteForce inTurn defaultLimits 2 (1 / 10)) := by
  have hscan : ScannedInOrder inTurn defaultLimits := by
    constructor
    · decide +kernel
    · decide +kernel
  exact (reportsWell_iff inTurn defaultLimits none).1 hscan

end Swept

/-- A drone that climbs too high late, and one that does so early. -/
def tooHigh : Show ℚ where
  drones := [(0, [{ time := 5, x := 0, y := 0, z := -200, yaw := 0 }]),
    (1, [{ time := 1, x := 10, y := 0, z := -150, yaw := 0 }])]
  unique := by decide

/-- The altitude violations of a report need not be in time order. -/
theorem tooHigh_out_of_order : ¬ ReportsWell
    (validateShow bruteForce tooHigh defaultLimits none (1 / 10))
    (foundIn bruteForce tooHigh defaultLimits 2 (1 / 10)) := by
  have htimes : (validateShow bruteForce tooHigh defaultLimits none
      (1 / 10)).violations.altitude.map AltitudeViolation.time = [5, 1] := by
    decide +kernel
  rintro ⟨-, -, -, -, haltitude, -⟩
  have hordered := List.pairwise_map.mpr haltitude.ordered
  rw [htimes] at hordered
  exact absurd hordered (by decide +kernel)

end Taramandal.Core.ReportOrder
