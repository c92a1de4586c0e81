import Taramandal.Core.CleanSweep

/-! # The altitude check is exact

A drone is between the altitudes of its waypoints at all times, and comes as close as one likes to
each of them: it flies into or out of a waypoint at an instant of its own or shared with one other.
So the scan of the waypoints finds the bounds of what is flown. -/
set_option linter.unusedSectionVars false

namespace Taramandal.Core.AltitudeExact

open Core.Numbers Core.Geometry Core.Safety Core.Shows Core.Validate Core.CleanShows Core.ShowReport

variable {K : Type} [Field K] [LinearOrder K] [IsStrictOrderedRing K]

variable {a b : K}

lemma mix_mem {lo hi r : K} (h0 : 0 ≤ r) (h1 : r ≤ 1) (ha : lo ≤ a ∧ a ≤ hi)
    (hb : lo ≤ b ∧ b ≤ hi) : lo ≤ a + r * (b - a) ∧ a + r * (b - a) ≤ hi := by
  have hmix : a + r * (b - a) = (1 - r) * a + r * b := by ring
  have h1' : 0 ≤ 1 - r := sub_nonneg.mpr h1
  have hlow := mul_le_mul_of_nonneg_left ha.1 h1'
  have hlow' := mul_le_mul_of_nonneg_left hb.1 h0
  have hhigh := mul_le_mul_of_nonneg_left ha.2 h1'
  have hhigh' := mul_le_mul_of_nonneg_left hb.2 h0
  rw [hmix]
  constructor <;> linarith

/-- A value that every share strictly on the way stays below is no more than that at its start. -/
lemma start_le_of_inner {hi : K} (h : ∀ r, 0 < r → r < 1 → a + r * (b - a) ≤ hi) : a ≤ hi := by
  by_contra hlt
  have hgap : 0 < a - hi := sub_pos.mpr (not_le.mp hlt)
  -- a share so small that it cannot make up for the gap
  let r := (a - hi) / (2 * (a - hi) + 2 * |b - a| )
  have habs : 0 ≤ |b - a| := abs_nonneg _
  have hden : 0 < 2 * (a - hi) + 2 * |b - a| := by linarith
  have hpos : 0 < r := div_pos hgap hden
  have hone : r < 1 := (div_lt_one hden).mpr (by linarith)
  have hsmall : r * |b - a| < a - hi := by
    have hle : r * |b - a| = (a - hi) * |b - a| / (2 * (a - hi) + 2 * |b - a|) := by
      simp only [r]
      ring
    rw [hle, div_lt_iff₀ hden]
    nlinarith
  have hback : -(r * |b - a|) ≤ r * (b - a) := by
    have := mul_le_mul_of_nonneg_left (neg_abs_le (b - a)) hpos.le
    linarith
  linarith [h r hpos hone]

lemma ends_mem_of_inner {lo hi : K}
    (h : ∀ r, 0 < r → r < 1 → lo ≤ a + r * (b - a) ∧ a + r * (b - a) ≤ hi) :
    (lo ≤ a ∧ a ≤ hi) ∧ lo ≤ b ∧ b ≤ hi := by
  have hturn : ∀ r, 0 < r → r < 1 → lo ≤ b + r * (a - b) ∧ b + r * (a - b) ≤ hi := by
    intro r h0 h1
    have hback : b + r * (a - b) = a + (1 - r) * (b - a) := by ring
    rw [hback]
    exact h (1 - r) (by linarith) (by linarith)
  have hneg : ∀ x y : K, (∀ r, 0 < r → r < 1 → lo ≤ x + r * (y - x)) → lo ≤ x := by
    intro x y hxy
    have hle : -x ≤ -lo := start_le_of_inner fun r h0 h1 => by
      have hlow := hxy r h0 h1
      have heq : -x + r * (-y - -x) = -(x + r * (y - x)) := by ring
      rw [heq]
      exact neg_le_neg hlow
    exact neg_le_neg_iff.mp hle
  exact ⟨⟨hneg a b fun r h0 h1 => (h r h0 h1).1, start_le_of_inner fun r h0 h1 => (h r h0 h1).2⟩,
    hneg b a fun r h0 h1 => (hturn r h0 h1).1, start_le_of_inner fun r h0 h1 => (hturn r h0 h1).2⟩

section

variable [FloorRing K] {waypoints : List (Waypoint K)} {lo hi : K}

def AtMostTwo (waypoints : List (Waypoint K)) : Prop :=
  ∀ t, (waypoints.filter fun w => w.time = t).length ≤ 2

variable {w1 w2 w : Waypoint K} {t : K} {i : Nat}

lemma segmentState_z :
    -(segmentState w1 w2 t).z = -w1.z + segmentRatio w1 w2 t * (-w2.z - -w1.z) := by
  simp only [segmentState]
  ring

lemma flown_mem_of_waypoints (hord : TimeOrdered waypoints)
    (h : ∀ w ∈ waypoints, lo ≤ -w.z ∧ -w.z ≤ hi)
    (hw : interpolateWaypoint waypoints t = some w) : lo ≤ -w.z ∧ -w.z ≤ hi := by
  have hne : waypoints ≠ [] := by rintro rfl; cases hw
  obtain ⟨first, last, hf, hl⟩ := exists_first_last hne
  rcases interpolateWaypoint_cases hord hf hl t with
    ⟨-, he⟩ | ⟨-, -, he⟩ | ⟨i, w1, w2, h1, h2, hlt, hle, -, he⟩
  · cases he.symm.trans hw
    exact h _ (List.mem_of_mem_head? hf)
  · cases he.symm.trans hw
    exact h _ (List.mem_of_getLast? hl)
  · cases he.symm.trans hw
    obtain ⟨h0, h1'⟩ := segmentRatio_mem hlt.le hle
    rw [segmentState_z]
    exact mix_mem h0 h1' (h _ (List.mem_of_getElem? h1)) (h _ (List.mem_of_getElem? h2))

/-- The ends of a segment that takes time are within the bounds of what is flown on it. -/
lemma segment_mem_of_flown (hord : TimeOrdered waypoints)
    (h1 : waypoints[i]? = some w1) (h2 : waypoints[i + 1]? = some w2) (hlt : w1.time < w2.time)
    (h : ∀ t w, interpolateWaypoint waypoints t = some w → lo ≤ -w.z ∧ -w.z ≤ hi) :
    (lo ≤ -w1.z ∧ -w1.z ≤ hi) ∧ lo ≤ -w2.z ∧ -w2.z ≤ hi := by
  have hspan : 0 < w2.time - w1.time := sub_pos.mpr hlt
  refine ends_mem_of_inner fun r h0 h1' => ?_
  have hstep : 0 < r * (w2.time - w1.time) := mul_pos h0 hspan
  have hstep' : r * (w2.time - w1.time) < w2.time - w1.time := by
    have := mul_lt_mul_of_pos_right h1' hspan
    rwa [one_mul] at this
  have hflown := h _ _ (interpolateWaypoint_inner hord h1 h2
    (t := w1.time + r * (w2.time - w1.time)) (by linarith) (by linarith))
  have hratio : segmentRatio w1 w2 (w1.time + r * (w2.time - w1.time)) = r := by
    rw [segmentRatio, if_pos hspan, add_sub_cancel_left, mul_div_cancel_right₀ _ hspan.ne']
  rwa [segmentState_z, hratio] at hflown

lemma AtMostTwo.lt (h : AtMostTwo waypoints) (hord : TimeOrdered waypoints)
    {a b c : Waypoint K} (ha : waypoints[i]? = some a) (hb : waypoints[i + 1]? = some b)
    (hc : waypoints[i + 2]? = some c) : a.time < c.time := by
  by_contra hle
  have hab := hord.le_of_le ha hb (Nat.le_succ i)
  have hbc := hord.le_of_le hb hc (Nat.le_succ (i + 1))
  have hsame : a.time = c.time := le_antisymm (hab.trans hbc) (not_lt.mp hle)
  have hsame' : b.time = c.time := le_antisymm hbc (hsame ▸ hab)
  have hsub : [a, b, c].Sublist waypoints := by
    obtain ⟨hi, rfl⟩ := List.getElem?_eq_some_iff.mp ha
    obtain ⟨hj, rfl⟩ := List.getElem?_eq_some_iff.mp hb
    obtain ⟨hk, rfl⟩ := List.getElem?_eq_some_iff.mp hc
    have hdrop : waypoints.drop i = waypoints[i] :: waypoints[i + 1] :: waypoints[i + 2] ::
        waypoints.drop (i + 3) := by
      rw [List.drop_eq_getElem_cons hi, List.drop_eq_getElem_cons hj, List.drop_eq_getElem_cons hk]
    refine List.Sublist.trans ?_ (List.drop_sublist i waypoints)
    rw [hdrop]
    exact List.Sublist.cons_cons _ (List.Sublist.cons_cons _ (List.Sublist.cons_cons _
      (List.nil_sublist _)))
  have hthree := (hsub.filter fun w => decide (w.time = c.time)).length_le
  simp only [hsame, hsame', decide_true, List.filter_cons_of_pos, List.filter_nil,
    List.length_cons, List.length_nil] at hthree
  exact absurd (hthree.trans (h c.time)) (by decide)

lemma waypoints_mem_of_flown (hord : TimeOrdered waypoints) (htwo : AtMostTwo waypoints)
    (h : ∀ t w, interpolateWaypoint waypoints t = some w → lo ≤ -w.z ∧ -w.z ≤ hi)
    (hw : w ∈ waypoints) : lo ≤ -w.z ∧ -w.z ≤ hi := by
  obtain ⟨i, hi⟩ := List.mem_iff_getElem?.mp hw
  have hne : waypoints ≠ [] := List.ne_nil_of_mem hw
  obtain ⟨first, last, hf, hl⟩ := exists_first_last hne
  cases i with
  | zero =>
    have hsame : first = w := Option.some.inj (hf.symm.trans (List.head?_eq_getElem?.trans hi))
    rcases interpolateWaypoint_cases hord hf hl first.time with
      ⟨-, he⟩ | ⟨hlt, -, -⟩ | ⟨j, w1, w2, h1, -, hlt, -, -, -⟩
    · exact hsame ▸ h _ _ he
    · exact absurd hlt (lt_irrefl _)
    · have hle := hord.le_of_le (hf ▸ List.head?_eq_getElem?.symm) h1 (Nat.zero_le j)
      exact absurd hlt (not_lt.mpr hle)
  | succ i =>
    obtain ⟨a, ha⟩ : ∃ a, waypoints[i]? = some a :=
      ⟨_, List.getElem?_eq_getElem (Nat.lt_of_succ_lt (List.getElem?_eq_some_iff.mp hi).1)⟩
    cases hc : waypoints[i + 2]? with
    | none =>
      -- it is the last one
      have hlen : waypoints.length = i + 2 := by
        have hge := List.getElem?_eq_none_iff.mp hc
        have hlt := (List.getElem?_eq_some_iff.mp hi).1
        omega
      have hsame : last = w := by
        rw [List.getLast?_eq_getElem?, hlen] at hl
        exact Option.some.inj (hl.symm.trans hi)
      have hfirst : first.time ≤ last.time := by
        rw [hsame]
        exact hord.le_of_le (hf ▸ List.head?_eq_getElem?.symm) hi (Nat.zero_le _)
      rcases interpolateWaypoint_cases hord hf hl (last.time + 1) with
        ⟨hle, -⟩ | ⟨-, -, he⟩ | ⟨-, -, -, -, -, -, -, hlt, -⟩
      · linarith
      · exact hsame ▸ h _ _ he
      · linarith
    | some c =>
      by_cases hbefore : a.time < w.time
      · exact (segment_mem_of_flown hord ha hi hbefore h).2
      · have hafter : w.time < c.time :=
          (not_lt.mp hbefore).trans_lt (htwo.lt hord ha hi hc)
        exact (segment_mem_of_flown hord hi hc hafter h).1

end

section Show

variable [FloorRing K] {s : Show K}

def flownAltitudes (s : Show K) : Set K :=
  {a | ∃ d ∈ s.drones, ∃ t w, interpolateWaypoint d.2 t = some w ∧ a = -w.z}

/-- The altitudes that `_altitude_extremes` scans. -/
def altitudesOf (s : Show K) : List K :=
  s.drones.flatMap fun d => d.2.map fun wp => -wp.z

/-- `max_alt` before it is rounded. -/
def maxAlt (s : Show K) : K := maxOr 0 (altitudesOf s)

/-- `min_alt` before it is rounded. -/
def minAlt (s : Show K) : K := -maxOr 0 ((altitudesOf s).map fun a => -a)

lemma flownAltitudes_mem_iff (hord : ∀ d ∈ s.drones, TimeOrdered d.2 ∧ AtMostTwo d.2)
    (lo hi : K) : (∀ a ∈ flownAltitudes s, lo ≤ a ∧ a ≤ hi) ↔
      ∀ a ∈ altitudesOf s, lo ≤ a ∧ a ≤ hi := by
  constructor
  · intro h a ha
    obtain ⟨d, hd, ha⟩ := List.mem_flatMap.mp ha
    obtain ⟨wp, hwp, rfl⟩ := List.mem_map.mp ha
    obtain ⟨htime, htwo⟩ := hord d hd
    exact waypoints_mem_of_flown htime htwo (fun t w hw => h _ ⟨d, hd, t, w, hw, rfl⟩) hwp
  · rintro h a ⟨d, hd, t, w, hw, rfl⟩
    refine flown_mem_of_waypoints (hord d hd).1 (fun wp hwp => ?_) hw
    exact h _ (List.mem_flatMap.mpr ⟨d, hd, List.mem_map_of_mem hwp⟩)

lemma maxOr_mem_of_ne_nil {default : K} {vs : List K} (h : vs ≠ []) : maxOr default vs ∈ vs := by
  obtain ⟨v, vs, rfl⟩ := List.exists_cons_of_ne_nil h
  rw [maxOr]
  rcases (le_foldl_max vs v).2.2 with hv | hv
  · rw [hv]
    exact List.mem_cons_self
  · exact List.mem_cons_of_mem _ hv

lemma altitudesOf_mem_iff (hsome : altitudesOf s ≠ []) (lo hi : K) :
    (∀ a ∈ altitudesOf s, lo ≤ a ∧ a ≤ hi) ↔ lo ≤ minAlt s ∧ maxAlt s ≤ hi := by
  obtain ⟨b, hb⟩ := List.exists_mem_of_ne_nil _ hsome
  constructor
  · intro h
    constructor
    · have hmem : maxOr 0 ((altitudesOf s).map fun a => -a) ∈ (altitudesOf s).map fun a => -a :=
        maxOr_mem_of_ne_nil (mt List.map_eq_nil_iff.mp hsome)
      obtain ⟨a, ha, he⟩ := List.mem_map.mp hmem
      rw [minAlt, ← he, neg_neg]
      exact (h a ha).1
    · exact (h _ (maxOr_mem_of_ne_nil hsome)).2
  · rintro ⟨hlow, hhigh⟩ a ha
    have hneg : -a ≤ maxOr 0 ((altitudesOf s).map fun a => -a) :=
      le_maxOr (List.mem_map_of_mem ha)
    exact ⟨hlow.trans (neg_le.mp hneg), (le_maxOr ha).trans hhigh⟩

/-- The gate passes exactly the shows that never leave the range, and the extremes that are reported
are, before they are rounded, those of what is flown. -/
theorem altitudes_exact (hord : ∀ d ∈ s.drones, TimeOrdered d.2 ∧ AtMostTwo d.2)
    (hsome : ∃ d ∈ s.drones, d.2 ≠ []) (limits : SafetyLimits K) (maxErrors : Nat) :
    (altitudeErrors s limits maxErrors = [] ↔ ∀ d ∈ s.drones, ∀ t w,
      interpolateWaypoint d.2 t = some w → 0 ≤ -w.z ∧ -w.z ≤ limits.maxAltitudeM) ∧
    (altitudeExtremes s limits).2.2 = (roundTo 2 (maxAlt s), roundTo 2 (minAlt s)) ∧
    IsLUB (flownAltitudes s) (maxAlt s) ∧ IsGLB (flownAltitudes s) (minAlt s) := by
  have hscan : altitudesOf s ≠ [] := by
    obtain ⟨d, hd, hne⟩ := hsome
    obtain ⟨wp, hwp⟩ := List.exists_mem_of_ne_nil _ hne
    exact List.ne_nil_of_mem (List.mem_flatMap.mpr ⟨d, hd, List.mem_map_of_mem hwp⟩)
  have hbounds := fun lo hi =>
    (flownAltitudes_mem_iff hord lo hi).trans (altitudesOf_mem_iff hscan lo hi)
  have hwithin := (hbounds (minAlt s) (maxAlt s)).mpr ⟨le_rfl, le_rfl⟩
  refine ⟨?_, rfl, ⟨fun a ha => (hwithin a ha).2, ?_⟩, fun a ha => (hwithin a ha).1, ?_⟩
  · constructor
    · intro h d hd t w hw
      have hpoints : ∀ a ∈ altitudesOf s, 0 ≤ a ∧ a ≤ limits.maxAltitudeM := by
        intro a ha
        obtain ⟨d, hd, ha⟩ := List.mem_flatMap.mp ha
        obtain ⟨wp, hwp, rfl⟩ := List.mem_map.mp ha
        exact altitudeErrors_eq_nil_iff.mp h d hd wp hwp
      exact (flownAltitudes_mem_iff hord _ _).mpr hpoints _ ⟨d, hd, t, w, hw, rfl⟩
    · intro h
      have hflown : ∀ a ∈ flownAltitudes s, 0 ≤ a ∧ a ≤ limits.maxAltitudeM := by
        rintro a ⟨d, hd, t, w, hw, rfl⟩
        exact h d hd t w hw
      refine altitudeErrors_eq_nil_iff.mpr fun d hd wp hwp => ?_
      exact (flownAltitudes_mem_iff hord _ _).mp hflown _
        (List.mem_flatMap.mpr ⟨d, hd, List.mem_map_of_mem hwp⟩)
  · intro b hb
    exact ((hbounds (minAlt s) b).mp fun a ha => ⟨(hwithin a ha).1, hb ha⟩).2
  · intro b hb
    exact ((hbounds b (maxAlt s)).mp fun a ha => ⟨hb ha, (hwithin a ha).2⟩).1

/-- A drone that climbs, waits for no time at a second waypoint and climbs on. -/
def climbing : Show ℚ where
  drones := [(1, [{ time := 0, x := 0, y := 0, z := 0, yaw := 0 },
    { time := 2, x := 0, y := 0, z := -10, yaw := 0 },
    { time := 2, x := 0, y := 0, z := -12, yaw := 0 },
    { time := 4, x := 0, y := 0, z := -30, yaw := 0 }]), (2, [])]
  unique := by decide

theorem climbing_exact :
    (∀ d ∈ climbing.drones, ∀ t w, interpolateWaypoint d.2 t = some w → 0 ≤ -w.z ∧ -w.z ≤ 120) ∧
    IsLUB (flownAltitudes climbing) 30 ∧ IsGLB (flownAltitudes climbing) 0 := by
  have hord : ∀ d ∈ climbing.drones, TimeOrdered d.2 ∧ AtMostTwo d.2 := by
    intro d hd
    have hdrones : d = climbing.drones[0] ∨ d = climbing.drones[1] := by
      simpa [climbing] using hd
    rcases hdrones with rfl | rfl
    · refine ⟨by norm_num [climbing, TimeOrdered], fun t => ?_⟩
      simp only [climbing, List.getElem_cons_zero, List.filter_cons, List.filter_nil]
      by_cases h0 : 0 = t
      · subst h0
        decide
      · by_cases h2 : 2 = t
        · subst h2
          decide
        · simp [h0, h2]
          split <;> simp
    · exact ⟨List.Pairwise.nil, fun t => Nat.zero_le 2⟩
  obtain ⟨hgate, -, hsup, hinf⟩ := altitudes_exact hord
    ⟨_, List.mem_cons_self, List.cons_ne_nil _ _⟩ (defaultLimits : SafetyLimits ℚ) 3
  have hmax : maxAlt climbing = 30 := by decide +kernel
  have hmin : minAlt climbing = 0 := by decide +kernel
  exact ⟨hgate.mp (by decide +kernel), hmax ▸ hsup, hmin ▸ hinf⟩

end Show

end Taramandal.Core.AltitudeExact
