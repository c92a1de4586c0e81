import Taramandal.Studio.LedEngine
import Taramandal.Studio.SplitFormations
import Taramandal.Studio.Upsampling

/-! # Strobes survive export

Colours are only seen at waypoints. At the rate that a track asks for, no phase of a strobe is
shorter than a piece of an interval, so each has a waypoint of every drone that is under way in
it. A sweep blinks on each drone from the moment that its front arrives there. -/
set_option linter.unusedSectionVars false

namespace Taramandal.Studio.Strobes

open Core.Numbers Core.Geometry Studio.Layout Studio.LedEngine Studio.Upsampling

variable {K : Type} [Field K] [LinearOrder K] [FloorRing K]

/-- The lit part of the `m`-th cycle from `start` on. -/
def onPhase (kf : LedKeyframe K) (start : K) (m : ℤ) : Set K :=
  Set.Ico (start + m / kf.freq) (start + (m + kf.duty) / kf.freq)

/-- The dark part of the `m`-th cycle from `start` on. -/
def offPhase (kf : LedKeyframe K) (start : K) (m : ℤ) : Set K :=
  Set.Ico (start + (m + kf.duty) / kf.freq) (start + (m + 1) / kf.freq)

/-- A phase within a keyframe, and within the waypoints of a drone. -/
structure Inside (kf : LedKeyframe K) (drone : ChoreoDrone K) (phase : Set K) : Prop where
  keyframe : phase ⊆ Set.Ico kf.startTime kf.endTime
  span : ∃ w ∈ drone.waypoints, ∃ w' ∈ drone.waypoints, phase ⊆ Set.Icc w.time w'.time

def positionOf (w : Waypoint K) : Point K := ⟨w.x, w.y, w.z⟩

/-- Where the waypoints of a drone agree on a coordinate, it holds still there. -/
def HoldsAt (axis : Axis) (c : K) (waypoints : List (Waypoint K)) : Prop :=
  ∀ w ∈ waypoints, axis.of (positionOf w) = c

/-- A sweep on a drone at this coordinate, at an age since the front reached it. -/
def sweepAt (kf : LedKeyframe K) (c age : K) : Except String Rgbw := do
  let base ← hexToRgbw kf.color
  let stops ← kf.palette.mapM hexToRgbw
  .ok (sweepColour kf (if kf.palette = [] then [base] else stops) (kf.sweepDistance c) age)

/-- What a sweep leaves a drone at this coordinate lit in. -/
def sweepLit (kf : LedKeyframe K) (c : K) : Except String Rgbw := do
  let base ← hexToRgbw kf.color
  let stops ← kf.palette.mapM hexToRgbw
  .ok (ramp (if kf.palette = [] then [base] else stops) (kf.sweepDistance c / kf.wavelength) false)

section Rate

variable [IsStrictOrderedRing K]

lemma freq_pos (kf : LedKeyframe K) : 0 < kf.freq := lt_max_of_lt_left (by norm_num)

lemma le_of_rateFrom {keyframes : List (LedKeyframe K)} {start rate : K}
    (h : rateFrom start keyframes = .ok rate) : start ≤ rate ∧
      ∀ kf ∈ keyframes, ∃ needed, neededRate kf = .ok needed ∧ ∀ n, needed = some n → n ≤ rate := by
  induction keyframes generalizing start with
  | nil =>
    obtain rfl := Except.ok.inj h
    exact ⟨le_rfl, fun kf hkf => absurd hkf List.not_mem_nil⟩
  | cons kf keyframes ih =>
    unfold rateFrom at h
    split at h
    · cases h
    · next needed hneeded =>
      obtain ⟨hle, hrest⟩ := ih h
      refine ⟨(le_max_left _ _).trans hle, fun kf' hkf' => ?_⟩
      rcases List.mem_cons.mp hkf' with rfl | hmem
      · refine ⟨needed, hneeded, ?_⟩
        rintro n rfl
        exact (le_max_right _ _).trans hle
      · exact hrest kf' hmem

lemma shortest_spec {keyframes : List (LedKeyframe K)} {rate : K}
    (hrate : ledSampleRateHz keyframes = .ok rate) {kf : LedKeyframe K} (hkf : kf ∈ keyframes)
    (hblinks : kf.blinks) (hshort : 0 < kf.shortest) :
    0 < rate ∧ 1 + 1 / 10 ^ 9 ≤ kf.shortest * rate := by
  obtain ⟨needed, hneeded, hle⟩ := (le_of_rateFrom hrate).2 kf hkf
  have hskip : ¬ (¬ kf.blinks ∨ kf.shortest ≤ 0) :=
    not_or.mpr ⟨not_not.mpr hblinks, hshort.not_ge⟩
  unfold neededRate at hneeded
  rw [if_neg hskip] at hneeded
  split_ifs at hneeded with hcap hslack
  · obtain rfl := Except.ok.inj hneeded
    have hrate50 := hle _ rfl
    have hmul := mul_le_mul_of_nonneg_left hrate50 hshort.le
    unfold maxLedSampleRateHz minPhaseSamples at *
    exact ⟨by linarith, by linarith [not_lt.mp hslack]⟩
  · obtain rfl := Except.ok.inj hneeded
    have hrate2 := hle _ rfl
    have hpos : 0 < strobeSamplesPerPhase / kf.shortest :=
      div_pos (by norm_num [strobeSamplesPerPhase]) hshort
    have hmul := mul_le_mul_of_nonneg_left hrate2 hshort.le
    rw [mul_div_cancel₀ _ hshort.ne'] at hmul
    unfold strobeSamplesPerPhase at hmul
    exact ⟨hpos.trans_le hrate2, by linarith⟩

variable {t c : K} {m : ℤ}

lemma cycle_of_mem {f start u v : K} (hf : 0 < f)
    (ht : t ∈ Set.Ico (start + u / f) (start + v / f)) :
    u ≤ (t - start) * f ∧ (t - start) * f < v := by
  obtain ⟨hle, hlt⟩ := ht
  rw [← le_sub_iff_add_le', div_le_iff₀ hf] at hle
  rw [← sub_lt_iff_lt_add', lt_div_iff₀ hf] at hlt
  exact ⟨hle, hlt⟩

lemma fmod_one {x : K} (hle : m ≤ x) (hlt : x < m + 1) : fmod x 1 = x - m :=
  fmod_eq (sub_nonneg.mpr hle) (sub_lt_iff_lt_add'.mpr hlt) m (by ring)

variable {keyframes : List (LedKeyframe K)} {rate : K} {choreo : Choreo K} {i : ℕ}
  {drone result : ChoreoDrone K} {kf : LedKeyframe K}

/-- A stretch of a keyframe and of a drone's waypoints that is as long as the shorter phase. -/
lemma exists_waypoint_of_inside (hrate : ledSampleRateHz keyframes = .ok rate)
    (hdrone : choreo.drones[i]? = some drone)
    (hresult : (upsampleChoreo choreo (upsampleFactor choreo rate)).drones[i]? = some result)
    (hkf : kf ∈ keyframes)
    (hpattern : kf.pattern = .strobe ∨ kf.pattern = .sweepOn ∧ 0 < kf.blinkCount)
    (hshort : 0 < kf.shortest) {a b : K} (hlen : a + kf.shortest ≤ b)
    (hinside : Inside kf drone (Set.Ico a b)) :
    ∃ w ∈ dense (upsampleFactor choreo rate) (byTime drone.waypoints), w ∈ result.waypoints ∧
      w.time ∈ Set.Ico a b := by
  have hab : a < b := by linarith
  have ha : a ∈ Set.Ico a b := ⟨le_rfl, hab⟩
  have hduration : 0 < kf.duration := by
    obtain ⟨hstart, hend⟩ := hinside.keyframe ha
    unfold LedKeyframe.endTime at hend
    linarith
  obtain ⟨hpos, hroom⟩ := shortest_spec hrate hkf ⟨hduration, hpattern⟩ hshort
  obtain ⟨w, hw, w', hw', hspan⟩ := hinside.span
  have hpiece : longest choreo / upsampleFactor choreo rate ≤ kf.shortest :=
    le_of_mul_le_mul_right ((longest_div_le choreo hpos).trans hroom) hpos
  refine exists_waypoint (one_le_upsampleFactor choreo rate) hdrone hresult hab
    ⟨w, hw, (hspan ha).1⟩ ⟨w', hw', (hspan ha).2⟩ (by linarith)

lemma shortest_le (kf : LedKeyframe K) (start : K) (m : ℤ) :
    start + m / kf.freq + kf.shortest ≤ start + (m + kf.duty) / kf.freq ∧
      start + (m + kf.duty) / kf.freq + kf.shortest ≤ start + (m + 1) / kf.freq := by
  have hf := freq_pos kf
  have hon := div_le_div_of_nonneg_right (min_le_left kf.duty (1 - kf.duty)) hf.le
  have hoff := div_le_div_of_nonneg_right (min_le_right kf.duty (1 - kf.duty)) hf.le
  unfold LedKeyframe.shortest
  rw [add_div, add_div]
  rw [sub_div] at hoff
  exact ⟨by linarith, by linarith⟩

lemma shortest_pos (hpos : 0 < kf.duty) (hone : kf.duty < 1) : 0 < kf.shortest :=
  div_pos (lt_min hpos (sub_pos.mpr hone)) (freq_pos kf)

section

variable [Trig K] (hash01 : ℤ → ℤ → K) (droneIndex : ℕ)

lemma evaluate_onPhase (hpattern : kf.pattern = .strobe) (hone : kf.duty < 1) {t : K} {m : ℤ}
    (ht : t ∈ onPhase kf kf.startTime m) (position : Option (Point K)) :
    evaluate hash01 kf t droneIndex position = hexToRgbw kf.color := by
  obtain ⟨hle, hlt⟩ := cycle_of_mem (freq_pos kf) ht
  have hphase : fmod ((t - kf.startTime) * kf.freq) 1 < kf.duty := by
    rw [fmod_one hle (by linarith)]
    exact sub_lt_iff_lt_add'.mpr hlt
  unfold evaluate
  rw [hpattern]
  cases hexToRgbw kf.color with
  | error text => rfl
  | ok base => exact congrArg Except.ok (if_pos hphase)

lemma evaluate_offPhase (hpattern : kf.pattern = .strobe) (hpos : 0 < kf.duty) {t : K} {m : ℤ}
    (ht : t ∈ offPhase kf kf.startTime m) (position : Option (Point K)) :
    evaluate hash01 kf t droneIndex position = (hexToRgbw kf.color).map fun _ => dark := by
  obtain ⟨hle, hlt⟩ := cycle_of_mem (freq_pos kf) ht
  have hphase : ¬ fmod ((t - kf.startTime) * kf.freq) 1 < kf.duty := by
    rw [fmod_one (by linarith) hlt, not_lt]
    exact le_sub_iff_add_le'.mpr hle
  unfold evaluate
  rw [hpattern]
  cases hexToRgbw kf.color with
  | error text => rfl
  | ok base => exact congrArg Except.ok (if_neg hphase)

lemma evaluate_sweepOn (hpattern : kf.pattern = .sweepOn) (t : K) (p : Point K) :
    evaluate hash01 kf t droneIndex (some p) =
      sweepAt kf (kf.axis.of p) (t - (kf.startTime + kf.arrival (kf.axis.of p))) := by
  unfold evaluate
  rw [hpattern, ← sub_sub]
  rfl

end

lemma sweepAt_onPhase (hone : kf.duty < 1) (hm : 0 ≤ m)
    (ht : t ∈ onPhase kf (kf.startTime + kf.arrival c) m) :
    sweepAt kf c (t - (kf.startTime + kf.arrival c)) = sweepLit kf c := by
  obtain ⟨hle, hlt⟩ := cycle_of_mem (freq_pos kf) ht
  generalize t - (kf.startTime + kf.arrival c) = age at hle hlt ⊢
  have hage : ¬ age < 0 := fun hneg => by
    have hmul := mul_neg_of_neg_of_pos hneg (freq_pos kf)
    have hm' : (0 : K) ≤ m := by exact_mod_cast hm
    linarith
  have hphase : fmod (age * kf.freq) 1 < kf.duty := by
    rw [fmod_one hle (by linarith)]
    exact sub_lt_iff_lt_add'.mpr hlt
  have hlit : ∀ stops d, sweepColour kf stops d age = ramp stops (d / kf.wavelength) false := by
    intro stops d
    unfold sweepColour
    rw [if_neg hage, if_neg fun h => hphase.not_ge h.2.2]
  unfold sweepAt sweepLit
  simp only [hlit]

lemma sweepAt_offPhase (hpos : 0 < kf.duty) (hm : 0 ≤ m)
    (hcount : m + 1 ≤ kf.blinkCount) (ht : t ∈ offPhase kf (kf.startTime + kf.arrival c) m) :
    sweepAt kf c (t - (kf.startTime + kf.arrival c)) = (sweepLit kf c).map fun _ => dark := by
  obtain ⟨hle, hlt⟩ := cycle_of_mem (freq_pos kf) ht
  generalize t - (kf.startTime + kf.arrival c) = age at hle hlt ⊢
  have hm' : (0 : K) ≤ m := by exact_mod_cast hm
  have hphase : kf.duty ≤ fmod (age * kf.freq) 1 := by
    rw [fmod_one (by linarith) hlt]
    exact le_sub_iff_add_le'.mpr hle
  have hdark : ∀ stops d, sweepColour kf stops d age = dark := by
    intro stops d
    unfold sweepColour
    rw [if_pos (⟨by linarith, by linarith, hphase⟩ : _ ∧ _ ∧ _), ite_self]
  unfold sweepAt sweepLit
  simp only [hdark]
  cases hexToRgbw kf.color with
  | error text => rfl
  | ok base =>
    change (kf.palette.mapM hexToRgbw >>= fun _ => .ok dark) =
      Except.map _ (kf.palette.mapM hexToRgbw >>= fun _ => .ok _)
    cases kf.palette.mapM hexToRgbw with
    | error text => rfl
    | ok stops => rfl

variable {axis : Axis} {wps : List (Waypoint K)}

lemma of_interpolate {mid : Waypoint K}
    (h : HoldsAt axis c wps) (hmid : interpolateWaypoint wps t = some mid) :
    axis.of (positionOf mid) = c := by
  have hsegment : ∀ w1 ∈ wps, ∀ w2 ∈ wps, axis.of (positionOf (segmentState w1 w2 t)) = c := by
    intro w1 h1 w2 h2
    have hvalue : axis.of (positionOf (segmentState w1 w2 t)) = axis.of (positionOf w1) +
        segmentRatio w1 w2 t * (axis.of (positionOf w2) - axis.of (positionOf w1)) := by
      cases axis <;> rfl
    rw [hvalue, h w1 h1, h w2 h2, sub_self, mul_zero, add_zero]
  unfold interpolateWaypoint at hmid
  split at hmid
  · next first last hfirst hlast =>
    dsimp only at hmid
    split_ifs at hmid
    · obtain rfl := Option.some.inj hmid
      exact h _ (List.mem_of_head? hfirst)
    · obtain rfl := Option.some.inj hmid
      exact h _ (List.mem_of_getLast? hlast)
    · split at hmid
      · next w1 w2 h1 h2 =>
        obtain rfl := Option.some.inj hmid
        exact hsegment w1 (List.mem_of_getElem? h1) w2 (List.mem_of_getElem? h2)
      · cases hmid
  · cases hmid

lemma holdsAt_dense (h : HoldsAt axis c wps) (factor : ℕ) : HoldsAt axis c (dense factor wps) := by
  intro w hw
  unfold dense at hw
  rcases List.mem_append.mp hw with hpiece | hend
  · obtain ⟨⟨w1, w2⟩, hsteps, hw⟩ := List.mem_flatMap.mp hpiece
    obtain ⟨k, h1, h2⟩ := Lib.Pairs.mem_steps_iff.mp hsteps
    have hmem1 := h w1 (List.mem_of_getElem? h1)
    have hmem2 := h w2 (List.mem_of_getElem? h2)
    rcases List.mem_cons.mp hw with rfl | hframe
    · exact hmem1
    · obtain ⟨k, -, rfl⟩ := List.mem_map.mp hframe
      have hpos : ∀ t, axis.of (positionOf ((interpolateWaypoint [w1, w2] t).getD w1)) = c := by
        intro t
        cases hmid : interpolateWaypoint [w1, w2] t with
        | none => exact hmem1
        | some mid =>
          refine of_interpolate (fun w hw => ?_) hmid
          rcases List.mem_pair.mp hw with rfl | rfl
          · exact hmem1
          · exact hmem2
      exact hpos _
  · exact h w (List.mem_of_getLast? (Option.mem_toList.mp hend))

/-- Every phase of a strobe has a frame in it, of every drone whose waypoints it lies within; so
has every blink of a sweep, of a drone that holds still. -/
theorem strobes_survive [Trig K] (hash01 : ℤ → ℤ → K) (droneIndex : ℕ)
    (hrate : ledSampleRateHz keyframes = .ok rate) (hdrone : choreo.drones[i]? = some drone)
    (hresult : (upsampleChoreo choreo (upsampleFactor choreo rate)).drones[i]? = some result)
    (hkf : kf ∈ keyframes) (hpos : 0 < kf.duty) (hone : kf.duty < 1) :
    (kf.pattern = .strobe → ∀ (m : ℤ) (position : Option (Point K)),
      (Inside kf drone (onPhase kf kf.startTime m) → ∃ w ∈ result.waypoints,
        w.time ∈ onPhase kf kf.startTime m ∧
        evaluate hash01 kf w.time droneIndex position = hexToRgbw kf.color) ∧
      (Inside kf drone (offPhase kf kf.startTime m) → ∃ w ∈ result.waypoints,
        w.time ∈ offPhase kf kf.startTime m ∧
        evaluate hash01 kf w.time droneIndex position = (hexToRgbw kf.color).map fun _ => dark)) ∧
    (kf.pattern = .sweepOn → ∀ c, HoldsAt kf.axis c drone.waypoints → ∀ m : ℤ, 0 ≤ m →
      (m + kf.duty ≤ kf.blinkCount →
        Inside kf drone (onPhase kf (kf.startTime + kf.arrival c) m) → ∃ w ∈ result.waypoints,
        w.time ∈ onPhase kf (kf.startTime + kf.arrival c) m ∧
        evaluate hash01 kf w.time droneIndex (some (positionOf w)) = sweepLit kf c) ∧
      (m + 1 ≤ kf.blinkCount →
        Inside kf drone (offPhase kf (kf.startTime + kf.arrival c) m) → ∃ w ∈ result.waypoints,
        w.time ∈ offPhase kf (kf.startTime + kf.arrival c) m ∧
        evaluate hash01 kf w.time droneIndex (some (positionOf w)) =
          (sweepLit kf c).map fun _ => dark)) := by
  have hshort := shortest_pos hpos hone
  have hfound : ∀ {a b : K}, a + kf.shortest ≤ b →
      kf.pattern = .strobe ∨ kf.pattern = .sweepOn ∧ 0 < kf.blinkCount →
      Inside kf drone (Set.Ico a b) → _ := fun hlen hpattern =>
    exists_waypoint_of_inside hrate hdrone hresult hkf hpattern hshort hlen
  constructor
  · intro hpattern m position
    obtain ⟨hon, hoff⟩ := shortest_le kf kf.startTime m
    constructor
    · intro hinside
      obtain ⟨w, -, hw, htime⟩ := hfound hon (.inl hpattern) hinside
      exact ⟨w, hw, htime, evaluate_onPhase hash01 droneIndex hpattern hone htime position⟩
    · intro hinside
      obtain ⟨w, -, hw, htime⟩ := hfound hoff (.inl hpattern) hinside
      exact ⟨w, hw, htime, evaluate_offPhase hash01 droneIndex hpattern hpos htime position⟩
  · intro hpattern c hholds m hm
    obtain ⟨hon, hoff⟩ := shortest_le kf (kf.startTime + kf.arrival c) m
    have hm' : (0 : K) ≤ m := by exact_mod_cast hm
    have hstill : ∀ w ∈ dense (upsampleFactor choreo rate) (byTime drone.waypoints),
        kf.axis.of (positionOf w) = c :=
      holdsAt_dense (fun w hw => hholds w (mem_byTime.mp hw)) _
    constructor
    · intro hcount hinside
      obtain ⟨w, hframe, hw, htime⟩ := hfound hon (.inr ⟨hpattern, by linarith⟩) hinside
      refine ⟨w, hw, htime, ?_⟩
      rw [evaluate_sweepOn hash01 droneIndex hpattern, hstill w hframe,
        sweepAt_onPhase hone hm htime]
    · intro hcount hinside
      obtain ⟨w, hframe, hw, htime⟩ := hfound hoff (.inr ⟨hpattern, by linarith⟩) hinside
      refine ⟨w, hw, htime, ?_⟩
      rw [evaluate_sweepOn hash01 droneIndex hpattern, hstill w hframe,
        sweepAt_offPhase hpos hm hcount htime]

end Rate

/-! ## A strobe, a sweep and a constant light -/

noncomputable def pulse : LedKeyframe ℝ where
  pattern := .strobe
  duration := 1
  duration_nonneg := zero_le_one
  blinkCount_nonneg := by norm_num

noncomputable def hovering : ChoreoDrone ℝ where
  waypoints := [{ time := 0, x := 0, y := 0, z := -8, yaw := 0 },
    { time := 3 / 2, x := 0, y := 0, z := -8, yaw := 0 }]

lemma freq_pulse : pulse.freq = 4 := by norm_num [LedKeyframe.freq, pulse]

lemma duty_pulse : pulse.duty = 1 / 2 := by norm_num [LedKeyframe.duty, pulse]

lemma rate_pulse : ledSampleRateHz [pulse] = .ok 16 := by
  have hshort : pulse.shortest = 1 / 8 := by
    norm_num [LedKeyframe.shortest, freq_pulse, duty_pulse]
  have hblinks : pulse.blinks := ⟨zero_lt_one, .inl rfl⟩
  have hneeded : neededRate pulse = .ok (some 16) := by
    unfold neededRate
    rw [if_neg (by rw [hshort]; norm_num [hblinks]), hshort,
      if_neg (by norm_num [maxLedSampleRateHz, strobeSamplesPerPhase])]
    norm_num [strobeSamplesPerPhase]
  unfold ledSampleRateHz rateFrom
  rw [hneeded]
  norm_num [rateFrom]

theorem strobes_survive_pulse : ∃ result, (upsampleChoreo { drones := [hovering] }
    (upsampleFactor { drones := [hovering] } 16)).drones[0]? = some result ∧
    ∃ w ∈ result.waypoints, w.time ∈ onPhase pulse pulse.startTime 1 ∧
      evaluate (fun _ _ => 0) pulse w.time 0 none = hexToRgbw pulse.color := by
  obtain ⟨result, hresult⟩ : ∃ result, (upsampleChoreo { drones := [hovering] }
      (upsampleFactor { drones := [hovering] } (16 : ℝ))).drones[0]? = some result := by
    unfold upsampleChoreo
    split <;> exact ⟨_, rfl⟩
  have hinside : Inside pulse hovering (onPhase pulse pulse.startTime 1) := by
    unfold onPhase
    rw [freq_pulse, duty_pulse]
    refine ⟨fun t ⟨hle, hlt⟩ => ?_, _, List.mem_cons_self, _,
      List.mem_cons_of_mem _ List.mem_cons_self, fun t ⟨hle, hlt⟩ => ?_⟩
    · norm_num [pulse, LedKeyframe.endTime] at hle hlt ⊢
      exact ⟨by linarith, by linarith⟩
    · norm_num [pulse] at hle hlt ⊢
      exact ⟨by linarith, by linarith⟩
  exact ⟨result, hresult, (((strobes_survive (fun _ _ => 0) 0 rate_pulse rfl hresult
    List.mem_cons_self (by norm_num [duty_pulse]) (by norm_num [duty_pulse])).1 rfl 1 none).1
      hinside)⟩

/-- A flash, and a hundredth of a second of constant light. -/
def flashAndBlip : List (LedKeyframe ℚ) := [
  { pattern := .strobe, duration := 1, duration_nonneg := by norm_num,
    blinkCount_nonneg := by norm_num },
  { pattern := .strobe, startTime := 1 / 100, duration := 1 / 100, frequencyHz := 100,
    dutyCycle := 1, duration_nonneg := by norm_num, blinkCount_nonneg := by norm_num }]

def brief : ChoreoDrone ℚ where
  waypoints := [{ time := 0, x := 0, y := 0, z := -8, yaw := 0 },
    { time := 1 / 16, x := 0, y := 0, z := -8, yaw := 0 }]

/-- A keyframe of duty one is no strobe: its only phase may be without a frame. -/
theorem blip_unseen : ledSampleRateHz flashAndBlip = .ok 16 ∧ ∃ blip ∈ flashAndBlip,
    blip.pattern = .strobe ∧ Inside blip brief (onPhase blip blip.startTime 0) ∧
    ∃ result, (upsampleChoreo { drones := [brief] }
        (upsampleFactor { drones := [brief] } 16)).drones[0]? = some result ∧
      ∀ w ∈ result.waypoints, w.time ∉ onPhase blip blip.startTime 0 := by
  refine ⟨by decide +kernel, _, List.mem_cons_of_mem _ List.mem_cons_self, rfl, ?_, brief, ?_, ?_⟩
  · refine ⟨?_, _, List.mem_cons_self, _, List.mem_cons_of_mem _ List.mem_cons_self, ?_⟩
    all_goals rintro t ⟨hle, hlt⟩
    · norm_num [LedKeyframe.endTime, LedKeyframe.freq, LedKeyframe.duty] at hle hlt ⊢
      exact ⟨by linarith, by linarith⟩
    · norm_num [LedKeyframe.freq, LedKeyframe.duty] at hle hlt ⊢
      exact ⟨by linarith, by linarith⟩
  · have hfactor : upsampleFactor { drones := [brief] } (16 : ℚ) = 1 := by decide +kernel
    rw [hfactor]
    rfl
  · intro w hw hphase
    obtain ⟨hle, hlt⟩ := hphase
    rcases List.mem_pair.mp hw with rfl | rfl
    · norm_num at hle
    · norm_num [LedKeyframe.freq, LedKeyframe.duty] at hlt

end Taramandal.Studio.Strobes
