import Taramandal.Core.RoundTrip
import Taramandal.Sim.Vehicle

/-! # On board and streamed

A show flown from a drone's own storage passes through the file format and
through the vehicle's executor, which searches its rows from the other side than
the ground's playback does. For waypoints at whole milliseconds the two are
never half a centimetre apart on an axis (`onboard_refines_streamed`). -/
set_option linter.unusedSectionVars false

namespace Taramandal.Sim.Onboard

open Lib.Bisect Core.Numbers Core.Values Core.Geometry Core.Mission Core.RoundTrip Lib.Check
open Sim.Vehicle

variable {K : Type} [Field K] [LinearOrder K]

section

variable {samples : List (MissionSample K)}
  (hsorted : samples.Pairwise fun a b => a.time ≤ b.time)

include hsorted

/-- In time order, the search lands behind the last row at or before `elapsed`. -/
lemma searchsortedRight_split {elapsed : K} {i : Nat} {s : MissionSample K}
    (hs : samples[i]? = some s) : s.time ≤ elapsed ↔ i < searchsortedRight samples elapsed := by
  obtain ⟨hi, -⟩ := List.getElem?_eq_some_iff.mp hs
  have hsplit := bisect_split
    (p := fun i => (samples[i]?).all fun s => !decide (s.time ≤ elapsed))
    (Nat.zero_le samples.length)
    (show samples.length - 0 < 2 ^ samples.length by simpa using Nat.lt_two_pow_self)
    (by
      intro i j _ hij hj hp
      have hi : i < samples.length := Nat.lt_of_le_of_lt hij hj
      simp only [List.getElem?_eq_getElem hi, List.getElem?_eq_getElem hj, Option.all_some,
        Bool.not_eq_true', decide_eq_false_iff_not, not_le] at hp ⊢
      rcases hij.lt_or_eq with hlt | rfl
      · exact hp.trans_le (List.pairwise_iff_getElem.mp hsorted i j hi hj hlt)
      · exact hp)
    i (Nat.zero_le i) hi
  simp only [hs, Option.all_some, Bool.not_eq_true', decide_eq_false_iff_not, not_le] at hsplit
  rw [← not_lt, hsplit, searchsortedRight, not_le]

variable [FloorRing K] [IsStrictOrderedRing K]

/-- Where the executor puts its drone: at its last row once that is reached, at
its first until that is, and between two rows in between. -/
lemma flyMission_cases {first last : MissionSample K} (hfirst : samples.head? = some first)
    (hlast : samples.getLast? = some last) (elapsed : K) (d : SimDrone K) :
    (flyMission samples (some elapsed) d).2 = none ∧ (last.time ≤ elapsed ∧
          (flyMission samples (some elapsed) d).1.target.position = last.position ∨
        elapsed < first.time ∧
          (flyMission samples (some elapsed) d).1.target.position = first.position ∨
        ∃ i s0 s1, samples[i]? = some s0 ∧ samples[i + 1]? = some s1 ∧ s0.time ≤ elapsed ∧
          elapsed < s1.time ∧ elapsed < last.time ∧
          (flyMission samples (some elapsed) d).1.target.position =
            s0.position + (s1.position - s0.position).scale
              ((elapsed - s0.time) / (s1.time - s0.time))) := by
  have hfirst0 : samples[0]? = some first := by rw [← List.head?_eq_getElem?, hfirst]
  have hlast0 : samples[samples.length - 1]? = some last := by
    rw [← List.getLast?_eq_getElem?, hlast]
  unfold flyMission
  rw [hlast]
  dsimp only
  by_cases hend : last.time ≤ elapsed
  · rw [if_pos hend]
    exact ⟨rfl, .inl ⟨hend, rfl⟩⟩
  rw [if_neg hend]
  have hbefore : searchsortedRight samples elapsed ≤ samples.length - 1 :=
    not_lt.mp fun h => hend ((searchsortedRight_split hsorted hlast0).mpr h)
  unfold followMission
  cases hk : searchsortedRight samples elapsed with
  | zero =>
    simp only [hfirst0]
    have hearly : elapsed < first.time := by
      refine not_le.mp fun h => ?_
      have hlt := (searchsortedRight_split hsorted hfirst0).mp h
      omega
    exact ⟨trivial, .inr (.inl ⟨hearly, rfl⟩)⟩
  | succ k =>
    rw [hk] at hbefore
    obtain ⟨s0, hs0⟩ : ∃ s, samples[k]? = some s := ⟨_, List.getElem?_eq_getElem (by omega)⟩
    obtain ⟨s1, hs1⟩ : ∃ s, samples[k + 1]? = some s := ⟨_, List.getElem?_eq_getElem (by omega)⟩
    have hle : s0.time ≤ elapsed := (searchsortedRight_split hsorted hs0).mpr (by omega)
    have hlt : elapsed < s1.time := by
      refine not_le.mp fun h => ?_
      have hlt := (searchsortedRight_split hsorted hs1).mp h
      omega
    have hspan : 0 < s1.time - s0.time := sub_pos.mpr (hle.trans_lt hlt)
    simp only [hs0, hs1]
    refine ⟨trivial, .inr (.inr ⟨k, s0, s1, hs0, hs1, hle, hlt, not_le.mp hend, ?_⟩)⟩
    simp only [segmentTarget, hspan, if_true]

end

/-! ## Half a centimetre -/

lemma Vec3.add_scale_zero (p v : Vec3 K) : p + v.scale 0 = p := by
  ext <;> simp [Vec3.scale]

lemma Vec3.add_scale_one (p q : Vec3 K) : p + (q - p).scale 1 = q := by
  ext <;> simp [Vec3.scale]

/-- A position in the drone's own frame is within half a centimetre of a point
of the fleet's frame on each axis, altitude up. -/
structure Near (origin : K × K) (p : Vec3 K) (w : Waypoint K) : Prop where
  north : |p.north + origin.1 - w.x| ≤ 1 / 200
  east : |p.east + origin.2 - w.y| ≤ 1 / 200
  up : |p.up - -w.z| ≤ 1 / 200

variable [IsStrictOrderedRing K]

/-- Between two points that are close to two others, one is close to the point
between those. -/
lemma abs_between_le {p0 p1 v0 v1 r e : K} (hr0 : 0 ≤ r) (hr1 : r ≤ 1) (h0 : |p0 - v0| ≤ e)
    (h1 : |p1 - v1| ≤ e) : |p0 + r * (p1 - p0) - (v0 + r * (v1 - v0))| ≤ e := by
  have hmix : p0 + r * (p1 - p0) - (v0 + r * (v1 - v0)) =
      (1 - r) * (p0 - v0) + r * (p1 - v1) := by ring
  rw [hmix]
  calc |(1 - r) * (p0 - v0) + r * (p1 - v1)|
      ≤ |(1 - r) * (p0 - v0)| + |r * (p1 - v1)| := abs_add_le _ _
    _ = (1 - r) * |p0 - v0| + r * |p1 - v1| := by
        rw [abs_mul, abs_mul, abs_of_nonneg (by linarith), abs_of_nonneg hr0]
    _ ≤ (1 - r) * e + r * e := by gcongr
    _ = e := by ring

/-- The row of a waypoint in a decoded file, as the executor holds it. -/
def sampleOf [FloorRing K] (led : Bool) (origin : K × K) (wp : Waypoint K) : MissionSample K :=
  let decoded := quantised led origin wp
  ⟨decoded.time, ⟨decoded.x, decoded.y, -decoded.z⟩, decoded.yaw⟩

section

variable [FloorRing K] {led : Bool} {origin : K × K}

lemma near_sampleOf (wp : Waypoint K) : Near origin (sampleOf led origin wp).position wp := by
  constructor
  · have h := abs_quantised_sub_le (wp.x - origin.1)
    rwa [sub_sub_eq_add_sub] at h
  · have h := abs_quantised_sub_le (wp.y - origin.2)
    rwa [sub_sub_eq_add_sub] at h
  · have h := abs_quantised_sub_le wp.z
    rw [← abs_neg, neg_sub', sub_neg_eq_add] at h
    simpa [sampleOf, quantised, sub_neg_eq_add] using h

variable (led origin) in
lemma near_segment {w1 w2 : Waypoint K} {t : K} (h1 : w1.time ≤ t) (h2 : t ≤ w2.time)
    (hspan : w1.time < w2.time) :
    Near origin ((sampleOf led origin w1).position +
      ((sampleOf led origin w2).position - (sampleOf led origin w1).position).scale
        ((t - w1.time) / (w2.time - w1.time))) (segmentState w1 w2 t) := by
  obtain ⟨hn1, he1, hu1⟩ := near_sampleOf w1
  obtain ⟨hn2, he2, hu2⟩ := near_sampleOf w2
  obtain ⟨hr0, hr1⟩ := segmentRatio_mem h1 h2
  have hratio : (t - w1.time) / (w2.time - w1.time) = segmentRatio w1 w2 t := by
    rw [segmentRatio, if_pos (sub_pos.mpr hspan)]
  rw [hratio]
  constructor
  · have h := abs_between_le hr0 hr1 hn1 hn2
    rwa [add_sub_add_right_eq_sub, add_right_comm] at h
  · have h := abs_between_le hr0 hr1 he1 he2
    rwa [add_sub_add_right_eq_sub, add_right_comm] at h
  · have h := abs_between_le hr0 hr1 hu1 hu2
    have hup : -w1.z + segmentRatio w1 w2 t * (-w2.z - -w1.z) = -(segmentState w1 w2 t).z := by
      simp only [segmentState]
      ring
    rwa [hup] at h

end

section Refinement

variable [FloorRing K]

/-- The executor of an armed drone, `elapsed` after its mission's start. -/
lemma applyMission_flying {d : SimDrone K} {samples : List (MissionSample K)} {start elapsed : K}
    (hmission : d.mission = some samples) (hactive : d.missionActive = true)
    (harmed : d.armed = true) (hstart : d.missionStartUtc = some start) (helapsed : 0 ≤ elapsed) :
    applyMission (start + elapsed) d =
      flyMission samples (some elapsed) { d with stagedPending := false } := by
  have hflying : ¬ ((d.missionActive && d.armed) = false ∨
      (d.missionStartUtc.any fun s => start + elapsed - s < 0) = true) := by
    simp [hactive, harmed, hstart, helapsed]
  rw [applyMission, if_neg hflying]
  simp [hmission, hstart]

lemma sampleOf_time (led : Bool) (origin : K × K) {wp : Waypoint K}
    (hwhole : ∃ ms : ℤ, wp.time * 1000 = ms) : (sampleOf led origin wp).time = wp.time := by
  obtain ⟨ms, hms⟩ := hwhole
  simp only [sampleOf, quantised, hms, roundHalfEven_intCast]
  rw [← hms, mul_div_cancel_right₀ _ (by norm_num)]

/-- In a list of strictly increasing times, an earlier waypoint is one of smaller
index. -/
lemma time_lt_iff {waypoints : List (Waypoint K)}
    (hstrict : waypoints.Pairwise fun a b => a.time < b.time) {i j : Nat} {a b : Waypoint K}
    (ha : waypoints[i]? = some a) (hb : waypoints[j]? = some b) : a.time < b.time ↔ i < j := by
  constructor
  · intro h
    by_contra hge
    have hle := TimeOrdered.le_of_le (hstrict.imp le_of_lt) hb ha (not_lt.mp hge)
    exact absurd h (not_lt.mpr hle)
  · intro h
    obtain ⟨hi, rfl⟩ := List.getElem?_eq_some_iff.mp ha
    obtain ⟨hj, rfl⟩ := List.getElem?_eq_some_iff.mp hb
    exact List.pairwise_iff_getElem.mp hstrict i j hi hj h

section

variable {waypoints : List (Waypoint K)} {first last : Waypoint K} {elapsed : K}
  {led : Bool} {origin : K × K}
  (hstrict : waypoints.Pairwise fun a b => a.time < b.time)
  (hfirst : waypoints.head? = some first) (hlast : waypoints.getLast? = some last)

include hstrict hfirst hlast

lemma near_past (hpast : last.time ≤ elapsed) :
    ∃ w, interpolateWaypoint waypoints elapsed = some w ∧
      Near origin (sampleOf led origin last).position w := by
  have hordered : TimeOrdered waypoints := hstrict.imp le_of_lt
  obtain ⟨hearly, hw⟩ | ⟨-, -, hw⟩ | ⟨i, w1, w2, -, -, -, -, hbefore, -⟩ :=
    interpolateWaypoint_cases hordered hfirst hlast elapsed
  · -- the first waypoint is the last one
    have hfirst0 : waypoints[0]? = some first := by rw [← List.head?_eq_getElem?, hfirst]
    have hlast0 : waypoints[waypoints.length - 1]? = some last := by
      rw [← List.getLast?_eq_getElem?, hlast]
    have hzero : ¬ 0 < waypoints.length - 1 := fun hpos =>
      absurd (hpast.trans hearly) (not_le.mpr ((time_lt_iff hstrict hfirst0 hlast0).mpr hpos))
    rw [Nat.eq_zero_of_not_pos hzero, hfirst0] at hlast0
    obtain rfl := Option.some.inj hlast0
    exact ⟨first, hw, near_sampleOf first⟩
  · exact ⟨last, hw, near_sampleOf last⟩
  · exact absurd hpast (not_le.mpr hbefore)

lemma near_early (hearly : elapsed < first.time) :
    ∃ w, interpolateWaypoint waypoints elapsed = some w ∧
      Near origin (sampleOf led origin first).position w := by
  have hordered : TimeOrdered waypoints := hstrict.imp le_of_lt
  have hfirst0 : waypoints[0]? = some first := by rw [← List.head?_eq_getElem?, hfirst]
  obtain ⟨-, hw⟩ | ⟨hlate, -⟩ | ⟨i, w1, w2, hw1, -, hlate, -⟩ :=
    interpolateWaypoint_cases hordered hfirst hlast elapsed
  · exact ⟨first, hw, near_sampleOf first⟩
  · exact absurd hearly (not_lt.mpr hlate.le)
  · have hle := hordered.le_of_le hfirst0 hw1 (Nat.zero_le i)
    exact absurd (hlate.trans hearly) (not_lt.mpr hle)

/-- Between two waypoints. At a waypoint's own instant the executor is at the
start of the segment behind it, the playback at the end of the one before. -/
lemma near_between {j : Nat} {a b : Waypoint K} (ha : waypoints[j]? = some a)
    (hb : waypoints[j + 1]? = some b) (hle : a.time ≤ elapsed) (hlt : elapsed < b.time)
    (hbefore : elapsed < last.time) :
    ∃ w, interpolateWaypoint waypoints elapsed = some w ∧
      Near origin ((sampleOf led origin a).position +
        ((sampleOf led origin b).position - (sampleOf led origin a).position).scale
          ((elapsed - a.time) / (b.time - a.time))) w := by
  have hordered : TimeOrdered waypoints := hstrict.imp le_of_lt
  have hfirst0 : waypoints[0]? = some first := by rw [← List.head?_eq_getElem?, hfirst]
  obtain ⟨hearly, hw⟩ | ⟨-, hpast, -⟩ | ⟨i, w1, w2, hw1, hw2, hlt', hle', -, hw⟩ :=
    interpolateWaypoint_cases hordered hfirst hlast elapsed
  · have hzero : ¬ 0 < j := fun hpos =>
      absurd (hle.trans hearly) (not_le.mpr ((time_lt_iff hstrict hfirst0 ha).mpr hpos))
    rw [Nat.eq_zero_of_not_pos hzero, hfirst0] at ha
    obtain rfl := Option.some.inj ha
    refine ⟨first, hw, ?_⟩
    rw [le_antisymm hearly hle, sub_self, zero_div, Vec3.add_scale_zero]
    exact near_sampleOf first
  · exact absurd hpast (not_le.mpr hbefore)
  · refine ⟨_, hw, ?_⟩
    have hij : i < j + 1 := (time_lt_iff hstrict hw1 hb).mp (hlt'.trans hlt)
    by_cases hinside : elapsed < w2.time
    · have hji : j < i + 1 := (time_lt_iff hstrict ha hw2).mp (hle.trans_lt hinside)
      obtain rfl : i = j := by omega
      obtain rfl := Option.some.inj (ha.symm.trans hw1)
      obtain rfl := Option.some.inj (hb.symm.trans hw2)
      exact near_segment led origin hle hle' (hle.trans_lt hlt)
    · obtain rfl : elapsed = w2.time := le_antisymm hle' (not_lt.mp hinside)
      have hji : ¬ i + 1 < j := fun h =>
        absurd hle (not_le.mpr ((time_lt_iff hstrict hw2 ha).mpr h))
      have hij' : i + 1 < j + 1 := (time_lt_iff hstrict hw2 hb).mp hlt
      obtain rfl : i + 1 = j := by omega
      obtain rfl := Option.some.inj (ha.symm.trans hw2)
      have hnear := near_segment led origin hlt'.le hle' hlt'
      rw [div_self (sub_pos.mpr hlt').ne', Vec3.add_scale_one] at hnear
      rw [sub_self, zero_div, Vec3.add_scale_zero]
      exact hnear

end

/-- A show compiled for a drone's pad decodes, and at each of its instants the
target of a drone flying what was decoded, moved back into the fleet's frame, is
within half a centimetre of where the ground's playback has the drone. -/
theorem onboard_refines_streamed {waypoints : List (Waypoint K)} {droneId : Nat} {showId : ShowId}
    {origin : K × K} {blob : Bytes} (hstrict : waypoints.Pairwise fun a b => a.time < b.time)
    (hwhole : ∀ wp ∈ waypoints, ∃ ms : ℤ, wp.time * 1000 = ms)
    (hcompile : compileMission waypoints droneId showId origin = .ok blob) :
    ∃ header decoded, decodeMission blob = .ok (header, decoded) ∧
      ∀ (d : SimDrone K) (start elapsed : K), d.mission = some (missionSamples decoded) →
        d.missionActive = true → d.armed = true → d.missionStartUtc = some start → 0 ≤ elapsed →
        ∃ w, interpolateWaypoint waypoints elapsed = some w ∧
          (applyMission (start + elapsed) d).2 = none ∧
          Near origin (applyMission (start + elapsed) d).1.target.position w := by
  obtain ⟨records, hcompiles⟩ := compileMission_ok.mp hcompile
  refine ⟨_, _, hcompiles.decode, ?_⟩
  intro d start elapsed hloaded hactive harmed hstart helapsed
  generalize hasLed waypoints = led at hloaded
  have hne := hcompiles.ne_nil
  obtain ⟨first, last, hfirst, hlast⟩ := exists_first_last hne
  have hsamples : missionSamples (waypoints.map (quantised led origin)) =
      waypoints.map (sampleOf led origin) := by
    simp only [missionSamples, List.map_map]
    rfl
  have htime : ∀ wp ∈ waypoints, (sampleOf led origin wp).time = wp.time :=
    fun wp hwp => sampleOf_time led origin (hwhole wp hwp)
  have hsorted : (waypoints.map (sampleOf led origin)).Pairwise fun a b => a.time ≤ b.time := by
    rw [List.pairwise_map]
    refine hstrict.imp_of_mem fun {a b} ha hb hlt => ?_
    rw [htime a ha, htime b hb]
    exact hlt.le
  rw [hsamples] at hloaded
  rw [applyMission_flying hloaded hactive harmed hstart helapsed]
  have hhead : (waypoints.map (sampleOf led origin)).head? = some (sampleOf led origin first) := by
    rw [List.head?_map, hfirst, Option.map_some]
  have hend : (waypoints.map (sampleOf led origin)).getLast? = some (sampleOf led origin last) := by
    rw [List.getLast?_map, hlast, Option.map_some]
  obtain ⟨hraised, hexecutor⟩ :=
    flyMission_cases hsorted hhead hend elapsed { d with stagedPending := false }
  obtain ⟨hpast, hp⟩ | ⟨hearly, hp⟩ | ⟨j, s0, s1, hs0, hs1, hle, hlt, hbefore, hp⟩ := hexecutor
  · rw [htime last (List.mem_of_getLast? hlast)] at hpast
    obtain ⟨w, hw, hnear⟩ := near_past hstrict hfirst hlast hpast
    exact ⟨w, hw, hraised, hp ▸ hnear⟩
  · rw [htime first (List.mem_of_head? hfirst)] at hearly
    obtain ⟨w, hw, hnear⟩ := near_early hstrict hfirst hlast hearly
    exact ⟨w, hw, hraised, hp ▸ hnear⟩
  · rw [List.getElem?_map, Option.map_eq_some_iff] at hs0 hs1
    obtain ⟨a, ha, rfl⟩ := hs0
    obtain ⟨b, hb, rfl⟩ := hs1
    rw [htime a (List.mem_of_getElem? ha)] at hle hp
    rw [htime b (List.mem_of_getElem? hb)] at hlt hp
    rw [htime last (List.mem_of_getLast? hlast)] at hbefore
    obtain ⟨w, hw, hnear⟩ := near_between hstrict hfirst hlast ha hb hle hlt hbefore
    exact ⟨w, hw, hraised, hp ▸ hnear⟩

/-- Up three metres in half a second, a third of a metre off the pad's north. -/
def climbShow : List (Waypoint ℚ) :=
  [{ time := 0, x := 7 / 3, y := 0, z := 0, yaw := 0 },
    { time := 1 / 2, x := 7 / 3, y := 1, z := -3, yaw := 90 }]

/-- A quarter of a second in, an armed drone that has just started the mission it
loaded is within half a centimetre of the playback. -/
theorem onboard_refines_streamed_climb :
    ∃ blob header decoded, compileMission climbShow 7 (List.replicate 16 1) (2, 0) = .ok blob ∧
      decodeMission blob = .ok (header, decoded) ∧
      ∃ w, interpolateWaypoint climbShow (1 / 4) = some w ∧
        Near (2, 0) (applyMission (10 + 1 / 4) (startMission 10
          (loadMission header.showId decoded (commandArm SimDrone.fresh))).1).1.target.position
          w := by
  obtain ⟨blob, hblob, -⟩ :
      ∃ blob ∈ (compileMission climbShow 7 (List.replicate 16 1) (2, 0)).toOption, True := by
    decide +kernel
  have hwhole : ∀ wp ∈ climbShow, ∃ ms : ℤ, wp.time * 1000 = ms := by
    intro wp hwp
    rcases List.mem_cons.mp hwp with rfl | hwp
    · exact ⟨0, by norm_num⟩
    · rcases List.mem_singleton.mp hwp with rfl
      exact ⟨500, by norm_num⟩
  have hcompile : compileMission climbShow 7 (List.replicate 16 1) (2, 0) = .ok blob :=
    ok_of_toOption hblob
  obtain ⟨header, decoded, hdecode, hnear⟩ := onboard_refines_streamed
    (by decide +kernel : climbShow.Pairwise fun a b => a.time < b.time) hwhole hcompile
  obtain ⟨w, hw, -, hclose⟩ := hnear (startMission 10
    (loadMission header.showId decoded (commandArm SimDrone.fresh))).1 10 (1 / 4)
    rfl rfl rfl rfl (by norm_num)
  exact ⟨blob, header, decoded, hcompile, hdecode, w, hw, hclose⟩

end Refinement

end Taramandal.Sim.Onboard
