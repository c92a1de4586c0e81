import Taramandal.Lib.Rounded
import Taramandal.Studio.Samples

/-! # The separation of a show

Every leg keeps the drones apart: takeoff and landing by their pads, a hold by the leg before
it, and all others because they were checked. Between samples, and rounded, they stay
nearly as far. -/
namespace Taramandal.Studio.Separation

open Lib.Check Lib.Pairs Lib.Rounded Studio.Layout Studio.Formations Studio.Morphs
open Studio.Sequencer Studio.Plans Studio.Samples

/-! ## Ways -/

noncomputable def vec (p : Point ℝ) : E := !₂[p.x, p.y, p.z]

noncomputable def dot (u v : E) : ℝ := u 0 * v 0 + u 1 * v 1 + u 2 * v 2

lemma normSq_eq (u : E) : ‖u‖ ^ 2 = u 0 * u 0 + u 1 * u 1 + u 2 * u 2 := by
  rw [EuclideanSpace.norm_sq_eq, Fin.sum_univ_three]
  simp only [Real.norm_eq_abs, sq_abs]
  ring

lemma normSq_piece (u v : E) (w : ℝ) :
    ‖u + w • v‖ ^ 2 = ‖u‖ ^ 2 + 2 * w * dot u v + w ^ 2 * ‖v‖ ^ 2 := by
  rw [normSq_eq, normSq_eq, normSq_eq, dot]
  simp only [PiLp.add_apply, PiLp.smul_apply, smul_eq_mul]
  ring

lemma hypot3_eq (p q : Point ℝ) : hypot3 (p.x - q.x) (p.y - q.y) (p.z - q.z) = ‖vec p - vec q‖ := by
  rw [← Real.sqrt_sq (norm_nonneg (vec p - vec q)), normSq_eq]
  rfl

/-- How far one drone is from another at the start of their ways. -/
noncomputable def gap (p q : Way ℝ) : E := vec p.1 - vec q.1

noncomputable def drift (p q : Way ℝ) : E := (vec p.2 - vec p.1) - (vec q.2 - vec q.1)

lemma wayDistSq_eq (p q : Way ℝ) : wayDistSq p q =
    if 1 / 10 ^ 12 < ‖drift p q‖ ^ 2 then
      if 0 < -dot (gap p q) (drift p q) / ‖drift p q‖ ^ 2 ∧
          -dot (gap p q) (drift p q) / ‖drift p q‖ ^ 2 < 1 then
        min (min (‖gap p q‖ ^ 2) (‖gap p q + drift p q‖ ^ 2)) (‖gap p q‖ ^ 2 -
          dot (gap p q) (drift p q) * dot (gap p q) (drift p q) / ‖drift p q‖ ^ 2)
      else min (‖gap p q‖ ^ 2) (‖gap p q + drift p q‖ ^ 2)
    else min (‖gap p q‖ ^ 2) (‖gap p q + drift p q‖ ^ 2) := by
  rw [normSq_eq (drift p q), normSq_eq (gap p q), normSq_eq (gap p q + drift p q)]
  rfl

lemma critical_le {u2 uv v2 : ℝ} (w : ℝ) (hv2 : 0 < v2) :
    u2 - uv * uv / v2 ≤ u2 + 2 * w * uv + w ^ 2 * v2 := by
  have hsq : 0 ≤ (w * v2 + uv) ^ 2 / v2 := div_nonneg (sq_nonneg _) hv2.le
  have heq : (w * v2 + uv) ^ 2 / v2 = w ^ 2 * v2 + 2 * w * uv + uv * uv / v2 := by
    field_simp
    ring
  linarith

variable {c : ℝ} {leg : Leg ℝ} {goal : List (Point ℝ)}

lemma apart_of_wayDistSq {p q : Way ℝ} (h : c ^ 2 ≤ wayDistSq p q) :
    Apart c (gap p q) (drift p q) := by
  rw [wayDistSq_eq] at h
  have hends : c ^ 2 ≤ min (‖gap p q‖ ^ 2) (‖gap p q + drift p q‖ ^ 2) := by
    split at h
    · split at h
      · exact h.trans (min_le_left _ _)
      · exact h
    · exact h
  obtain ⟨hstart, hgoal⟩ := le_min_iff.mp hends
  by_cases hv2 : 1 / 10 ^ 12 < ‖drift p q‖ ^ 2
  · refine .inl fun w hw => le_of_sq_le_sq ?_ (norm_nonneg _)
    have hpos : 0 < ‖drift p q‖ ^ 2 := lt_trans (by norm_num) hv2
    rw [if_pos hv2] at h
    have hone := normSq_piece (gap p q) (drift p q) 1
    rw [one_smul] at hone
    rw [normSq_piece]
    obtain ⟨hw0, hw1⟩ := hw
    by_cases hinside : 0 < -dot (gap p q) (drift p q) / ‖drift p q‖ ^ 2 ∧
        -dot (gap p q) (drift p q) / ‖drift p q‖ ^ 2 < 1
    · rw [if_pos hinside] at h
      exact (h.trans (min_le_right _ _)).trans (critical_le w hpos)
    · rcases not_and_or.mp hinside with hbefore | hafter
      · -- the distance only grows
        have hdot : 0 ≤ dot (gap p q) (drift p q) := by
          by_contra hneg
          exact hbefore (div_pos (neg_pos.mpr (not_le.mp hneg)) hpos)
        have hgrow : 0 ≤ 2 * w * dot (gap p q) (drift p q) + w ^ 2 * ‖drift p q‖ ^ 2 := by
          positivity
        linarith
      · -- it only shrinks
        have hdot : ‖drift p q‖ ^ 2 ≤ -dot (gap p q) (drift p q) := by
          rw [not_lt, le_div_iff₀ hpos, one_mul] at hafter
          exact hafter
        nlinarith [mul_nonneg (sub_nonneg.mpr hw1) (sub_nonneg.mpr hdot),
          mul_nonneg (sub_nonneg.mpr hw1) (mul_nonneg (sub_nonneg.mpr hw1) hpos.le)]
  · refine .inr ⟨?_, le_of_sq_le_sq hstart (norm_nonneg _), le_of_sq_le_sq hgoal (norm_nonneg _)⟩
    refine le_of_sq_le_sq ((not_lt.mp hv2).trans ?_) (by norm_num [shortest])
    norm_num [shortest]

/-! ## Legs -/

/-- What is checked, and what is left of it between rounded samples. -/
noncomputable def clearance : ℝ := 2 - shortest

lemma clearance_eq : (designSeparation : ℝ) - tolerance = clearance := by
  unfold designSeparation tolerance clearance shortest
  norm_num

lemma clearance_pos : 0 < clearance := by
  unfold clearance shortest
  norm_num

def ways (leg : Leg ℝ) : List (Way ℝ × Way ℝ) := pairs (leg.start.zip leg.goal)

def Separate (leg : Leg ℝ) : Prop :=
  ∀ pq ∈ ways leg, Apart clearance (gap pq.1 pq.2) (drift pq.1 pq.2)

lemma separate_of_checked
    (h : Exceeds clearance (minMorphSeparation leg.start leg.goal)) : Separate leg := by
  intro pq hpq
  have hle : clearance ≤ √(max 0 (wayDistSq pq.1 pq.2)) :=
    le_of_exceeds h (List.mem_map_of_mem hpq)
  rw [Real.le_sqrt' clearance_pos] at hle
  refine apart_of_wayDistSq ?_
  rcases le_max_iff.mp hle with hzero | hle
  · exact absurd hzero (not_le.mpr (pow_pos clearance_pos 2))
  · exact hle

/-- Every leg that a `move` makes was checked. -/
lemma separate_of_moved {P : Option (Pacing ℝ)} {start : List (Point ℝ)}
    {legs : List (Leg ℝ)} (h : Moved P start goal legs) : ∀ leg ∈ legs, Separate leg := by
  have hclose : ∀ {a b : List (Point ℝ)}, tooClose a b = false →
      Exceeds clearance (minMorphSeparation a b) := fun hab =>
    clearance_eq ▸ exceeds_of_not_below hab
  cases h with
  | straight requested h =>
    intro leg hleg
    obtain rfl := List.mem_singleton.mp hleg
    have hdirect : Exceeds layerClearance (minMorphSeparation start goal) := exceeds_of_not_below h
    have hlt : clearance ≤ layerClearance := by
      unfold clearance shortest layerClearance designSeparation
      norm_num
    exact separate_of_checked fun v hv => hlt.trans (hdirect v hv)
  | layered requested layer hlayer hceiling hlift htransit hdescent =>
    intro leg hleg
    simp only [List.mem_cons, List.not_mem_nil, or_false] at hleg
    rcases hleg with rfl | rfl | rfl
    · exact separate_of_checked (hclose hlift)
    · exact separate_of_checked (hclose htransit)
    · exact separate_of_checked (hclose hdescent)

lemma ends_of_separate {u v : E} (h : Apart c u v) : c ≤ ‖u + v‖ := by
  rcases h with hall | ⟨-, -, hend⟩
  · have hone := hall 1 ⟨zero_le_one, le_rfl⟩
    rwa [one_smul] at hone
  · exact hend

lemma Moved.ends_apart {P : Option (Pacing ℝ)} {start : List (Point ℝ)}
    {legs : List (Leg ℝ)} (h : Moved P start goal legs) (hlength : start.length = goal.length) :
    ∀ pq ∈ pairs goal, clearance ≤ ‖vec pq.1 - vec pq.2‖ := by
  obtain ⟨leg, hleg, hgoal⟩ := h.linked.exists_goal h.ne_nil
  obtain ⟨hstart, hend⟩ := h.lengths hlength rfl leg hleg
  have hsame : leg.start.length = leg.goal.length := hstart.trans hend.symm
  have hall := separate_of_moved h leg hleg
  have hsnd : (leg.start.zip leg.goal).map Prod.snd = goal := by
    rw [List.map_snd_zip hsame.ge, hgoal]
  intro pq hpq
  rw [← hsnd, pairs_map] at hpq
  obtain ⟨way, hway, rfl⟩ := List.mem_map.mp hpq
  have hend := ends_of_separate (hall way hway)
  have hdiff : gap way.1 way.2 + drift way.1 way.2 = vec way.1.2 - vec way.2.2 := by
    unfold gap drift
    abel
  rwa [hdiff] at hend

lemma separate_hold {P : Option (Pacing ℝ)} {start : List (Point ℝ)} {stop : Stop ℝ}
    {legs : List (Leg ℝ)} (h : Moved P start stop.pts legs)
    (hlength : start.length = stop.pts.length) : Separate stop.hold := by
  have hends := Moved.ends_apart h hlength
  intro pq hpq
  have hzip : stop.pts.zip stop.pts = stop.pts.map fun p => (p, p) := by
    conv_lhs => rw [← List.map_id stop.pts, List.zip_map']
    rfl
  change pq ∈ pairs (stop.pts.zip stop.pts) at hpq
  rw [hzip, pairs_map] at hpq
  obtain ⟨pair, hpair, rfl⟩ := List.mem_map.mp hpq
  refine .inl fun w _ => ?_
  have hstill : drift (pair.1, pair.1) (pair.2, pair.2) = 0 := by
    unfold drift
    abel
  change clearance ≤ ‖gap (pair.1, pair.1) (pair.2, pair.2) +
    w • drift (pair.1, pair.1) (pair.2, pair.2)‖
  rw [hstill, smul_zero, add_zero]
  exact hends pair hpair

lemma separate_over_pads {n : ℕ} (f g : ℕ → Point ℝ)
    (hstart : leg.start = (List.range n).map f) (hgoal : leg.goal = (List.range n).map g)
    (hf : ∀ i, (f i).x = (padAt i).x ∧ (f i).y = (padAt i).y)
    (hg : ∀ i, (g i).x = (padAt i).x ∧ (g i).y = (padAt i).y) : Separate leg := by
  intro pq hpq
  have hzip : leg.start.zip leg.goal = (List.range n).map fun i => (f i, g i) := by
    rw [hstart, hgoal, List.zip_map']
  rw [ways, hzip, pairs_map] at hpq
  obtain ⟨⟨i, j⟩, hij, rfl⟩ := List.mem_map.mp hpq
  have hne : i ≠ j := ne_of_mem_pairs List.nodup_range hij
  have hpads := pads_apart (K := ℝ) hne
  refine .inl fun w _ => le_of_sq_le_sq ?_ (norm_nonneg _)
  have hx : (gap (f i, g i) (f j, g j) + w • drift (f i, g i) (f j, g j)) 0 =
      (padAt i).x - (padAt j).x := by
    change ((f i).x - (f j).x) + w * (((g i).x - (f i).x) - ((g j).x - (f j).x)) = _
    rw [(hf i).1, (hf j).1, (hg i).1, (hg j).1]
    ring
  have hy : (gap (f i, g i) (f j, g j) + w • drift (f i, g i) (f j, g j)) 1 =
      (padAt i).y - (padAt j).y := by
    change ((f i).y - (f j).y) + w * (((g i).y - (f i).y) - ((g j).y - (f j).y)) = _
    rw [(hf i).2, (hf j).2, (hg i).2, (hg j).2]
    ring
  have hle : clearance ^ 2 ≤ (padSpacing : ℝ) ^ 2 := by
    refine pow_le_pow_left₀ clearance_pos.le ?_ 2
    unfold clearance shortest padSpacing
    norm_num
  change _ ≤ ‖gap (f i, g i) (f j, g j) + w • drift (f i, g i) (f j, g j)‖ ^ 2
  rw [normSq_eq, hx, hy]
  nlinarith [mul_self_nonneg ((gap (f i, g i) (f j, g j) + w • drift (f i, g i) (f j, g j)) 2)]

lemma separate_of_planned {P : Option (Pacing ℝ)} {shapes : Shapes ℝ}
    {scenes : List (Scene shapes)} {layerGap : ℝ} {n : ℕ} {ret : List ℕ} {legs : List (Leg ℝ)}
    (h : Planned P scenes layerGap n ret legs) (hret : ret.Perm (List.range n)) :
    ∀ leg ∈ legs, Separate leg := by
  have hlength : ret.length = n := hret.length_eq.trans List.length_range
  have hspots : (ret.map (hoverAt : ℕ → Point ℝ)).length = n := by rw [List.length_map, hlength]
  refine h.forall_legs (S := fun pts => pts.length = n) (fun hmoved _ _ => separate_of_moved hmoved)
    (fun s _ stop hstop => ⟨hstop.length, fun hmoved ha =>
      separate_hold hmoved (ha.trans hstop.length.symm)⟩)
    (length_hover n) hspots (fun _ => ⟨?_, ?_⟩) (separate_over_pads padAt hoverAt rfl rfl ?_ ?_)
    (separate_over_pads hoverAt padAt rfl rfl ?_ ?_)
  · rw [length_atLayers (by rw [length_swapLayers, hspots, hlength]), hspots]
  · rw [length_atLayers (by rw [length_swapLayers, length_hover, hlength]), length_hover]
  all_goals exact fun i => ⟨rfl, rfl⟩

/-! ## Samples -/

lemma round2_grid (v : ℝ) : ∃ m : ℤ, round2 v = m / 100 := by
  unfold round2
  split
  · exact ⟨-⌊-v * 100 + 1 / 2⌋, by push_cast; rfl⟩
  · exact ⟨_, rfl⟩

noncomputable def spot (w : Waypoint ℝ) : E := !₂[w.x, w.y, w.z]

noncomputable def rounded (p : Point ℝ) : E := !₂[round2 p.x, round2 p.y, round2 p.z]

lemma rounded_onGrid (p q : Point ℝ) : OnGrid (rounded p - rounded q) := by
  have hsub : ∀ v v' : ℝ, ∃ m : ℤ, round2 v - round2 v' = m / 100 := by
    intro v v'
    obtain ⟨m, hm⟩ := round2_grid v
    obtain ⟨m', hm'⟩ := round2_grid v'
    refine ⟨m - m', ?_⟩
    rw [hm, hm']
    push_cast
    ring
  intro i
  obtain rfl | rfl | rfl : i = 0 ∨ i = 1 ∨ i = 2 := by omega
  · exact hsub p.x q.x
  · exact hsub p.y q.y
  · exact hsub p.z q.z

lemma rounded_near (p q : Point ℝ) : Near (vec p - vec q) (rounded p - rounded q) := by
  intro i
  obtain rfl | rfl | rfl : i = 0 ∨ i = 1 ∨ i = 2 := by omega
  · exact abs_round2_sub_sub_le p.x q.x
  · exact abs_round2_sub_sub_le p.y q.y
  · exact abs_round2_sub_sub_le p.z q.z

lemma gap_at (p q : Way ℝ) (w : ℝ) :
    vec (between p.1 p.2 w) - vec (between q.1 q.2 w) = gap p q + w • drift p q := by
  ext i
  unfold gap drift
  simp only [PiLp.sub_apply, PiLp.add_apply, PiLp.smul_apply, smul_eq_mul]
  obtain rfl | rfl | rfl : i = 0 ∨ i = 1 ∨ i = 2 := by omega
  · change (p.1.x + (p.2.x - p.1.x) * w) - (q.1.x + (q.2.x - q.1.x) * w) =
      p.1.x - q.1.x + w * (p.2.x - p.1.x - (q.2.x - q.1.x))
    ring
  · change (p.1.y + (p.2.y - p.1.y) * w) - (q.1.y + (q.2.y - q.1.y) * w) =
      p.1.y - q.1.y + w * (p.2.y - p.1.y - (q.2.y - q.1.y))
    ring
  · change (p.1.z + (p.2.z - p.1.z) * w) - (q.1.z + (q.2.z - q.1.z) * w) =
      p.1.z - q.1.z + w * (p.2.z - p.1.z - (q.2.z - q.1.z))
    ring

section

variable {P : Pacing ℝ} {shapes : Shapes ℝ} {scenes : List (Scene shapes)} {layerGap r : ℝ}
  {n : ℕ} {ret : List ℕ} {legs : List (Leg ℝ)}

variable {f f' : List (Point ℝ)} {l : ℝ}

lemma exists_leg (h : Planned (some P) scenes layerGap n ret legs) (hret : ret.Perm (List.range n))
    (hstep : (f, f') ∈ steps (frames (some P) r legs n)) :
    ∃ leg ∈ legs, ∃ w ∈ Set.Icc (0 : ℝ) 1, ∃ w' ∈ Set.Icc (0 : ℝ) 1,
      f = leg.at w ∧ f' = leg.at w' := by
  rw [frames, steps_frames h.linked (Planned.paced h hret r)] at hstep
  obtain ⟨leg, hleg, hstep⟩ := List.mem_flatMap.mp hstep
  obtain ⟨k, hk, hstep⟩ := List.mem_map.mp hstep
  obtain ⟨rfl, rfl⟩ := Prod.mk.inj hstep
  have hlt : k < legSteps leg r := List.mem_range.mp hk
  have hpos : (0 : ℝ) < legSteps leg r := by
    exact_mod_cast Nat.zero_lt_of_lt hlt
  have hshare : ∀ {m : ℕ}, m ≤ legSteps leg r →
      ease (some P) (m / (legSteps leg r : ℝ)) ∈ Set.Icc (0 : ℝ) 1 := by
    intro m hm
    refine ease_mem _ ⟨by positivity, (div_le_one hpos).mpr ?_⟩
    exact_mod_cast hm
  exact ⟨leg, hleg, _, hshare hlt.le, _, hshare hlt, rfl, rfl⟩

noncomputable def sample (f : List (Point ℝ)) (d : ℕ) : E :=
  rounded (f.getD d { x := 0, y := 0, z := 0 })

lemma chord_apart (h : Planned (some P) scenes layerGap n ret legs) (hret : ret.Perm (List.range n))
    (hstep : (f, f') ∈ steps (frames (some P) r legs n)) {i j : ℕ} (hij : i < j) (hj : j < n) (hl : l ∈ Set.Icc (0 : ℝ) 1) :
    2 - shortest - worst ≤ ‖(sample f i - sample f j) +
      l • ((sample f' i - sample f' j) - (sample f i - sample f j))‖ := by
  obtain ⟨leg, hleg, w, hw, w', hw', rfl, rfl⟩ := exists_leg h hret hstep
  obtain ⟨hstart, hgoal⟩ := h.lengths hret leg hleg
  have hat : ∀ {pts : List (Point ℝ)} {k : ℕ}, pts.length = n → k < n → ∃ p, pts[k]? = some p :=
    fun hpts hk => ⟨_, List.getElem?_eq_getElem (hpts ▸ hk)⟩
  obtain ⟨a, ha⟩ := hat hstart (hij.trans hj)
  obtain ⟨b, hb⟩ := hat hgoal (hij.trans hj)
  obtain ⟨a', ha'⟩ := hat hstart hj
  obtain ⟨b', hb'⟩ := hat hgoal hj
  have hpair : ((a, b), (a', b')) ∈ ways leg := by
    refine mem_pairs_of_lt hij ?_ ?_
    · rw [List.getElem?_zip_eq_some]
      exact ⟨ha, hb⟩
    · rw [List.getElem?_zip_eq_some]
      exact ⟨ha', hb'⟩
  have hapart := separate_of_planned h hret leg hleg _ hpair
  unfold sample
  rw [Leg.getD_at ha hb, Leg.getD_at ha hb, Leg.getD_at ha' hb', Leg.getD_at ha' hb']
  refine le_rounded_chord hapart hw hw' (rounded_onGrid _ _) (rounded_onGrid _ _) ?_ ?_ hl
  · exact gap_at (a, b) (a', b') w ▸ rounded_near _ _
  · exact gap_at (a, b) (a', b') w' ▸ rounded_near _ _

lemma spot_onChord {w w' p : Waypoint ℝ} (h : OnChord w w' l p) :
    spot p = spot w + l • (spot w' - spot w) := by
  ext i
  obtain rfl | rfl | rfl : i = 0 ∨ i = 1 ∨ i = 2 := by omega
  · exact h.x
  · exact h.y
  · exact h.z

lemma two_le_frames (h : Planned (some P) scenes layerGap n ret legs) :
    2 ≤ (frames (some P) r legs n).length := by
  cases h with
  | mk hstops hbody hback hswap =>
    have htakeoff : 1 ≤ legSteps (takeoff (some P) n) r := one_le_legSteps (by decide) _ _ _ _
    have hlength : (legFrames (some P) r (takeoff (some P) n)).length =
        legSteps (takeoff (some P) n) r := by
      rw [legFrames_eq, List.length_map, List.length_range]
    rw [frames, List.flatMap_cons, List.length_append, List.length_append, hlength,
      List.length_singleton]
    omega

/-- At a moment every drone is on the chord between its samples in the same two frames. -/
lemma exists_samples (h : Planned (some P) scenes layerGap n ret legs) (t : ℝ) :
    ∃ f f', (f, f') ∈ steps (frames (some P) r legs n) ∧ ∃ l ∈ Set.Icc (0 : ℝ) 1,
      ∀ d, ∃ p, interpolateWaypoint (column r (frames (some P) r legs n) d) t = some p ∧
        spot p = sample f d + l • (sample f' d - sample f d) := by
  have hlen : ∀ d, 2 ≤ (column r (frames (some P) r legs n) d).length := fun d =>
    length_column r _ d ▸ two_le_frames h
  obtain ⟨w, w', hw, hw', hl, -⟩ := interpolate_moment (hlen 0) t
  have hmoment : ∀ d, moment (column r (frames (some P) r legs n) d) t =
      moment (column r (frames (some P) r legs n) 0) t := fun d =>
    moment_congr (column_time r _ d 0) t
  rw [getElem?_column] at hw hw'
  obtain ⟨f, hf, -⟩ := Option.map_eq_some_iff.mp hw
  obtain ⟨f', hf', -⟩ := Option.map_eq_some_iff.mp hw'
  refine ⟨f, f', mem_steps_iff.mpr ⟨_, hf, hf'⟩, _, hl, fun d => ?_⟩
  obtain ⟨v, v', hv, hv', -, p, hp, hchord⟩ := interpolate_moment (hlen d) t
  rw [hmoment d] at hv hv' hchord
  rw [getElem?_column, hf] at hv
  rw [getElem?_column, hf'] at hv'
  obtain rfl := Option.some.inj hv
  obtain rfl := Option.some.inj hv'
  exact ⟨p, hp, spot_onChord hchord⟩

end

/-- In every show that is built, under a pacing, the drones stay apart at all times; what is
not built is refused, or a scene's formation cannot be made. -/
theorem shows_separate {shapes : Shapes ℝ} {scenes : List (Scene shapes)} {n : ℕ} {rate : ℝ}
    {targetIdx : Js ℝ} {pacing : String} (hpacing : pacing ∉ inherited) :
    (∀ s, buildSequencedShow scenes n rate targetIdx pacing = .ok s →
      ∀ (t : ℝ) (i j : ℕ) (ws ws' : List (Waypoint ℝ)), i < j → s.drones[i]? = some ws →
        s.drones[j]? = some ws' →
        ∃ p q, interpolateWaypoint ws t = some p ∧ interpolateWaypoint ws' t = some q ∧
          2 - 1 / 10 ^ 6 - √3 * (1 / 100) ≤ hypot3 (p.x - q.x) (p.y - q.y) (p.z - q.z)) ∧
    (∀ text, buildSequencedShow scenes n rate targetIdx pacing = .error (.plain text) →
      ∃ s ∈ scenes, Unbuildable n text s) := by
  constructor
  · intro s hs t i j ws ws' hij hws hws'
    obtain ⟨-, hnone⟩ | ⟨last, legs, assignment, -, -, hplan, hdrones⟩ := buildSequencedShow_ok hs
    · rw [hnone] at hws
      cases hws
    obtain ⟨rfl, hplanned⟩ := planShow_ok hplan
    obtain ⟨-, hret⟩ := normalizeAssignment_perm targetIdx scenes.length n
    obtain ⟨P, hP⟩ := exists_pacing (K := ℝ) hpacing
    rw [hP] at hplanned hdrones
    rw [hdrones, List.getElem?_map] at hws hws'
    obtain ⟨i', hi, rfl⟩ := Option.map_eq_some_iff.mp hws
    obtain ⟨j', hj, rfl⟩ := Option.map_eq_some_iff.mp hws'
    obtain ⟨hin, hi⟩ := List.getElem?_eq_some_iff.mp hi
    obtain ⟨hjn, hj⟩ := List.getElem?_eq_some_iff.mp hj
    rw [List.getElem_range] at hi hj
    subst hi hj
    rw [List.length_range] at hjn
    obtain ⟨f, f', hstep, l, hl, hat⟩ := exists_samples (r := max 1 rate) hplanned t
    obtain ⟨p, hp, hpspot⟩ := hat i
    obtain ⟨q, hq, hqspot⟩ := hat j
    refine ⟨p, q, hp, hq, ?_⟩
    have hchord := chord_apart hplanned hret hstep hij hjn hl
    have hdist : hypot3 (p.x - q.x) (p.y - q.y) (p.z - q.z) = ‖spot p - spot q‖ :=
      hypot3_eq { x := p.x, y := p.y, z := p.z } { x := q.x, y := q.y, z := q.z }
    have hdiff : spot p - spot q = (sample f i - sample f j) +
        l • ((sample f' i - sample f' j) - (sample f i - sample f j)) := by
      rw [hpspot, hqspot]
      module
    rw [hdist, hdiff]
    unfold shortest worst at hchord
    linarith
  · intro text h
    unfold buildSequencedShow at h
    split at h
    · cases h
    · split at h
      · cases h
      · dsimp only at h
        split at h
        · next hplan =>
          cases h
          exact planShow_plain hplan
        · cases h

noncomputable def sides : List (Point ℝ) :=
  [{ x := 0, y := 22 / 10, z := -8 }, { x := 0, y := 0, z := -13 }]

theorem shows_separate_sides :
    (∀ s, buildSequencedShow [exactScene sides] 2 10 .other "standard" = .ok s →
      ∀ (t : ℝ) (i j : ℕ) (ws ws' : List (Waypoint ℝ)), i < j → s.drones[i]? = some ws →
        s.drones[j]? = some ws' →
        ∃ p q, interpolateWaypoint ws t = some p ∧ interpolateWaypoint ws' t = some q ∧
          2 - 1 / 10 ^ 6 - √3 * (1 / 100) ≤ hypot3 (p.x - q.x) (p.y - q.y) (p.z - q.z)) ∧
    (∀ text, buildSequencedShow [exactScene sides] 2 10 .other "standard" = .error (.plain text) →
      ∃ s ∈ [exactScene sides], Unbuildable 2 text s) :=
  shows_separate (by simp [inherited])

noncomputable def collapsed : List (Point ℝ) :=
  [{ x := 0, y := 0, z := -8 }, { x := 0, y := 0, z := -8 }]

lemma formation_collapsed : buildFormation (asGiven ℝ) .exactPoints collapsed 2 none =
    .error (.plain "EXACT_POINTS formation produced degenerate geometry (points collapsed).") := by
  have hdist : minPairDist collapsed = some 0 := by
    change some (√((0 - 0) * (0 - 0) + (0 - 0) * (0 - 0) + (-8 - -8) * (-8 - -8))) = some (0 : ℝ)
    norm_num
  have hany : (minPairDist collapsed).any (· ≤ tolerance) := by
    rw [hdist]
    exact decide_eq_true (by norm_num [tolerance])
  have hraw : rawFormation (asGiven ℝ) .exactPoints collapsed 2 none =
      .error (.plain "EXACT_POINTS formation produced degenerate geometry (points collapsed).") := by
    change (if 1 < 2 ∧ (minPairDist collapsed).any (· ≤ tolerance) then _ else _) = _
    rw [if_pos ⟨Nat.one_lt_two, hany⟩]
    rfl
  unfold buildFormation
  rw [hraw]
  rfl

lemma dist_sides : minPairDist sides = some (√(2984 / 100)) := by
  change some (√((0 - 0) * (0 - 0) + (22 / 10 - 0) * (22 / 10 - 0) + (-8 - -13) * (-8 - -13))) = _
  norm_num

lemma formation_sides : buildFormation (asGiven ℝ) .exactPoints sides 2 none = .ok sides := by
  have htwo : (2 : ℝ) ≤ √(2984 / 100) := Real.le_sqrt_of_sq_le (by norm_num)
  have hraw : rawFormation (asGiven ℝ) .exactPoints sides 2 none = .ok sides := by
    change (if 1 < 2 ∧ (minPairDist sides).any (· ≤ tolerance) then _ else _) = _
    have hapart : ¬ (1 < 2 ∧ (minPairDist sides).any (· ≤ tolerance)) := by
      rw [dist_sides]
      intro hany
      have hle : √(2984 / 100) ≤ (tolerance : ℝ) := of_decide_eq_true hany.2
      have hsmall : (tolerance : ℝ) < 2 := by norm_num [tolerance]
      linarith
    rw [if_neg hapart]
  have hreach : ¬ siteRadiusM + tolerance < maxReach sides := by
    have hside : √(0 * 0 + 22 / 10 * (22 / 10)) ≤ (30 : ℝ) := by
      rw [Real.sqrt_le_left (by norm_num)]
      norm_num
    have hnone : √(0 * 0 + 0 * 0) ≤ (30 : ℝ) := by norm_num
    have hmax : maxReach sides ≤ 30 := max_le (max_le (by norm_num) hside) hnone
    unfold siteRadiusM tolerance
    norm_num
    linarith
  have hfit : fitToSite sides = .ok sides := by
    unfold fitToSite
    rw [if_neg hreach]
  have hcheck : checkFormation sides = .ok sides := by
    have hgreatest : greatest (sides.map fun p => -p.z) = 13 := by
      change max (- -8) (- -13) = (13 : ℝ)
      norm_num
    have hspaced : below (minPairDist sides) (minSeparationM - tolerance) = false := by
      rw [dist_sides]
      refine decide_eq_false (not_lt.mpr (le_trans ?_ htwo))
      norm_num [minSeparationM, tolerance]
    unfold checkFormation
    rw [hgreatest, hspaced, if_neg (by norm_num [maxAltitudeM, tolerance])]
    rfl
  unfold buildFormation
  rw [if_neg (by norm_num), hraw]
  dsimp only [placedFormation]
  rw [if_pos rfl, if_neg (fun h => hreach h.2), hfit]
  exact hcheck

lemma hover_two : (hover 2 : List (Point ℝ)) = [
    { x := 0, y := 0, z := -8 }, { x := 0, y := 22 / 10, z := -(105 / 10) }] := by
  change [hoverAt 0, hoverAt 1] = _
  norm_num [hoverAt, padAt, padCols, padSpacing, hoverLevel, showAlt, hoverStep]

lemma move_sides (label : String) (requested : ℝ) : move none label (hover 2) sides requested =
    .ok [pacedLeg none .morph (hover 2) sides requested] := by
  have hfar : layerClearance ≤ √(max 0 (wayDistSq
      ({ x := 0, y := 0, z := -8 }, { x := 0, y := 22 / 10, z := -8 })
      ({ x := 0, y := 22 / 10, z := -(105 / 10) }, { x := 0, y := 0, z := -13 }))) := by
    refine Real.le_sqrt_of_sq_le ?_
    norm_num [wayDistSq, layerClearance, designSeparation]
  have hdirect : morphNeedsLayering (hover 2) sides = false := by
    rw [hover_two]
    exact decide_eq_false (not_lt.mpr hfar)
  rw [move, hdirect]
  rfl

lemma move_back (label : String) (requested : ℝ) : move none label sides (hover 2) requested =
    .ok [pacedLeg none .morph sides (hover 2) requested] := by
  have hfar : layerClearance ≤ √(max 0 (wayDistSq
      ({ x := 0, y := 22 / 10, z := -8 }, { x := 0, y := 0, z := -8 })
      ({ x := 0, y := 0, z := -13 }, { x := 0, y := 22 / 10, z := -(105 / 10) }))) := by
    refine Real.le_sqrt_of_sq_le ?_
    norm_num [wayDistSq, layerClearance, designSeparation]
  have hdirect : morphNeedsLayering sides (hover 2) = false := by
    rw [hover_two]
    exact decide_eq_false (not_lt.mpr hfar)
  rw [move, hdirect]
  rfl

noncomputable def holdSides : Leg ℝ where
  kind := .hold
  start := sides
  goal := sides
  secs := some (nonNeg (some 1))

lemma inherited_constructor : (pacingOf "constructor" : Option (Pacing ℝ)) = none := by
  simp [pacingOf, inherited]

lemma plan_sides : planShow [exactScene sides] (exactScene sides) 2 .other "constructor" = .ok
    ([pacedLeg none .takeoff (ground 2) (hover 2) takeoffSeconds,
      pacedLeg none .morph (hover 2) sides (nonNeg none), holdSides,
      pacedLeg none .morph sides (hover 2) (nonNeg none),
      pacedLeg none .land (hover 2) (ground 2) landSeconds],
    normalizeAssignment (Js.other : Js ℝ) 1 2) := by
  have hpos : scenePos 2 (exactScene sides) (List.range 2) = .ok (sides.map some) := by
    change (buildFormation (asGiven ℝ) .exactPoints sides 2 none >>= _) = _
    rw [formation_sides]
    rfl
  unfold planShow
  rw [inherited_constructor]
  refine bind_eq_ok.mpr ⟨[sides.map some], mapM_eq_ok.mpr (.cons hpos .nil), ?_⟩
  refine bind_eq_ok.mpr ⟨(_, sides), bind_eq_ok.mpr ⟨sides, rfl,
    bind_eq_ok.mpr ⟨_, move_sides _ _, bind_eq_ok.mpr ⟨([], sides), rfl, rfl⟩⟩⟩, ?_⟩
  exact bind_eq_ok.mpr ⟨_, move_back _ _, bind_eq_ok.mpr ⟨[], rfl, rfl⟩⟩

lemma frames_sides : frames none 1 [pacedLeg none .takeoff (ground 2) (hover 2) takeoffSeconds,
    pacedLeg none .morph (hover 2) sides (nonNeg none), holdSides,
    pacedLeg none .morph sides (hover 2) (nonNeg none),
    pacedLeg none .land (hover 2) (ground 2) landSeconds] 2 = [sides, ground 2] := by
  have hsteps : legSteps holdSides 1 = 1 := by
    change (⌊max 0 (1 : ℝ) * 1 + 1 / 2⌋).toNat = 1
    norm_num
  have hhold : legFrames none 1 holdSides = [sides] := by
    rw [legFrames_eq, hsteps]
    change [holdSides.at (ease none ((0 : ℕ) / (legSteps holdSides 1 : ℝ)))] = [sides]
    rw [Nat.cast_zero, zero_div, ease_zero, Leg.at_zero rfl]
    rfl
  change [] ++ ([] ++ (legFrames none 1 holdSides ++ [])) ++ [ground 2] = _
  rw [hhold]
  rfl

lemma interpolate_sides {w w' : Waypoint ℝ} (hw : w.time = 0) (hw' : w'.time = 1) :
    interpolateWaypoint [w, w'] (3 / 4) = some (segmentAt w w' (3 / 4)) := by
  have hguess : stepBack [w, w'] (3 / 4) (firstGuess [w, w'] (3 / 4)) = 0 := by
    have hzero : firstGuess [w, w'] (3 / 4) = 0 := Nat.le_zero.mp firstGuess_le
    rw [hzero]
    rfl
  have hstay : stepOn [w, w'] (3 / 4) 2 0 = 0 := by
    rw [stepOn, if_neg (fun h => absurd h.1 (by simp))]
  have hlast : [w, w'].getLast? = some w' := rfl
  unfold interpolateWaypoint
  rw [hlast]
  dsimp only [List.head?_cons, List.length_cons, List.length_nil]
  rw [hw, hw', if_neg (by norm_num), if_neg (by norm_num), hguess, hstay]
  rfl

lemma plan_collapsed : planShow [exactScene collapsed] (exactScene collapsed) 2
    (Js.other : Js ℝ) "standard" = .error (.plain
      "EXACT_POINTS formation produced degenerate geometry (points collapsed).") := by
  have hpos : scenePos 2 (exactScene collapsed) (List.range 2) = .error (.plain
      "EXACT_POINTS formation produced degenerate geometry (points collapsed).") := by
    change (buildFormation (asGiven ℝ) .exactPoints collapsed 2 none >>= _) = _
    rw [formation_collapsed]
    rfl
  refine bind_eq_error.mpr (.inl ?_)
  change [(exactScene collapsed, List.range 2)].mapM _ = _
  rw [List.mapM_cons]
  exact bind_eq_error.mpr (.inl hpos)

/-- Points that collapse are no refusal; and without a pacing nothing is flown but the chord
from the last hold to the pads. -/
theorem separation_breaks :
    (∃ e, buildSequencedShow [exactScene collapsed] 2 1 .other "standard" = .error e ∧
      ∀ reason, e ≠ .refusal reason) ∧
    ∃ s ws ws' t p q, buildSequencedShow [exactScene sides] 2 1 .other "constructor" = .ok s ∧
      s.drones[0]? = some ws ∧ s.drones[1]? = some ws' ∧ t ∈ Set.Icc 0 s.duration ∧
      interpolateWaypoint ws t = some p ∧ interpolateWaypoint ws' t = some q ∧
      hypot3 (p.x - q.x) (p.y - q.y) (p.z - q.z) < 2 - 1 / 10 ^ 6 - √3 * (1 / 100) := by
  constructor
  · refine ⟨.plain "EXACT_POINTS formation produced degenerate geometry (points collapsed).", ?_,
      fun reason h => ?_⟩
    · have hlast : [exactScene collapsed].getLast? = some (exactScene collapsed) := rfl
      unfold buildSequencedShow
      rw [hlast]
      dsimp only
      rw [if_neg (by norm_num), plan_collapsed]
    · cases h
  · obtain ⟨s, hs, hdrones, hduration⟩ := buildSequencedShow_of_plan 1 rfl (by norm_num) plan_sides
    rw [inherited_constructor, max_self, frames_sides] at hdrones hduration
    have hend : s.duration = 1 := by
      rw [hduration]
      norm_num [round2]
    refine ⟨s, [waypoint ((0 : ℕ) * (1 / 1)) { x := 0, y := 22 / 10, z := -8 },
      waypoint ((1 : ℕ) * (1 / 1)) (padAt 0)],
      [waypoint ((0 : ℕ) * (1 / 1)) { x := 0, y := 0, z := -13 },
      waypoint ((1 : ℕ) * (1 / 1)) (padAt 1)], 3 / 4, _, _, hs, ?_, ?_, ?_,
      interpolate_sides ?_ ?_, interpolate_sides ?_ ?_, ?_⟩
    · rw [hdrones]
      rfl
    · rw [hdrones]
      rfl
    · rw [hend]
      norm_num
    · norm_num [waypoint, round2]
    · norm_num [waypoint, round2]
    · norm_num [waypoint, round2]
    · norm_num [waypoint, round2]
    · have hroot : √3 ≤ (2 : ℝ) := by
        rw [Real.sqrt_le_left (by norm_num)]
        norm_num
      have hclose : hypot3 (0 : ℝ) (-(11 / 10)) (5 / 4) < 17 / 10 := by
        change √(0 * 0 + -(11 / 10) * -(11 / 10) + 5 / 4 * (5 / 4)) < 17 / 10
        rw [Real.sqrt_lt' (by norm_num)]
        norm_num
      norm_num [segmentAt, waypoint, round2, padAt, padCols, padSpacing]
      linarith

end Taramandal.Studio.Separation
