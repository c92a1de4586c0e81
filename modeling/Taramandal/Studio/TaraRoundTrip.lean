import Taramandal.Studio.TaraFile

/-! # A compiled show, parsed

What is exported without a fault is parsed to the waypoints as the records hold them, and those are
written as the same records again, but for a heading of half a turn, which comes back with the
other sign. -/
set_option linter.unusedSectionVars false

namespace Taramandal.Studio.Tara

open Core.Numbers Core.Values Core.Mission Lib.Check

variable {K : Type} [Field K] [LinearOrder K] [FloorRing K]

section

variable [IsStrictOrderedRing K]

lemma hundredth (n : ℤ) : roundHalfEven ((n : K) / 100 * 100) = n :=
  Core.RoundTrip.roundHalfEven_scaled n (by norm_num)

lemma thousandth (n : ℤ) : roundHalfEven ((n : K) / 1000 * 1000) = n :=
  Core.RoundTrip.roundHalfEven_scaled n (by norm_num)

lemma wrapYawCdeg_parsed {v : ℤ} (hlow : -18000 ≤ v) (hhigh : v ≤ 18000) :
    wrapYawCdeg (fmod ((v : K) / 100) 360) = if v = 18000 then -18000 else v := by
  have hl : (-18000 : K) ≤ v := by exact_mod_cast hlow
  have hh : (v : K) ≤ 18000 := by exact_mod_cast hhigh
  rcases lt_or_ge v 0 with hneg | hpos
  · have hneg' : (v : K) < 0 := by exact_mod_cast hneg
    have hread : fmod ((v : K) / 100) 360 = v / 100 + 360 :=
      fmod_eq (by linarith) (by linarith) (-1) (by push_cast; ring)
    have hfold : fmod ((v : K) / 100 + 360 + 180) 360 = v / 100 + 180 :=
      fmod_eq (by linarith) (by linarith) 1 (by push_cast; ring)
    rw [hread, wrapYawCdeg, hfold, if_neg (by omega), add_sub_cancel_right, hundredth]
  · have hpos' : (0 : K) ≤ v := by exact_mod_cast hpos
    have hread : fmod ((v : K) / 100) 360 = v / 100 :=
      fmod_eq (by linarith) (by linarith) 0 (by push_cast; ring)
    rw [hread, wrapYawCdeg]
    split
    next hhalf =>
      subst hhalf
      have hfold : fmod (((18000 : ℤ) : K) / 100 + 180) 360 = 0 :=
        fmod_eq (by norm_num) (by norm_num) 1 (by push_cast; ring)
      rw [hfold, ← hundredth (K := K) (-18000)]
      congr 1
      push_cast
      ring
    next hother =>
      have hlt : (v : K) < 18000 := by exact_mod_cast lt_of_le_of_ne hhigh hother
      have hfold : fmod ((v : K) / 100 + 180) 360 = v / 100 + 180 :=
        fmod_eq (by linarith) (by linarith) 0 (by push_cast; ring)
      rw [hfold, add_sub_cancel_right, hundredth]

lemma quantise_waypoint_iff {rec : Record} (hfits : rec.Fits) (hlow : -18000 ≤ rec.yaw)
    (hhigh : rec.yaw ≤ 18000) : quantise (rec.waypoint : TrackPoint K) = rec ↔ rec.yaw ≠ 18000 := by
  have hchannel : ∀ {v : ℤ}, 0 ≤ v ∧ v ≤ 255 → v % 256 = v := fun h =>
    Int.emod_eq_of_lt h.1 (by omega)
  have hyaw := wrapYawCdeg_parsed (K := K) hlow hhigh
  constructor
  · intro hsame hhalf
    have hfolded := congrArg Record.yaw hsame
    simp only [quantise, Record.waypoint, Option.getD_some, hyaw, if_pos hhalf] at hfolded
    omega
  · intro hother
    rw [if_neg hother] at hyaw
    simp only [quantise, Record.waypoint, Option.getD_some, thousandth, hundredth, hyaw,
      hchannel hfits.r, hchannel hfits.g, hchannel hfits.b, hchannel hfits.w]

lemma pointFaults_waypoint {rec : Record} (h : rec.Fits) :
    pointFaults (rec.waypoint : TrackPoint K) = [] := by
  simp only [pointFaults, coordFaults, timeFaults, Record.waypoint, thousandth, hundredth,
    if_pos h.x, if_pos h.y, if_pos h.z, if_pos h.timeMs, List.append_nil]

lemma sortByTime_parsed (wps : List (TrackPoint K)) :
    sortByTime (((sortByTime wps).map quantise).map Record.waypoint) =
      ((sortByTime wps).map quantise).map (Record.waypoint (K := K)) := by
  let r : TrackPoint K → TrackPoint K → Prop := fun a b => a.time ≤ b.time
  have : Std.Total r := ⟨fun a b => le_total a.time b.time⟩
  have : IsTrans (TrackPoint K) r := ⟨fun _ _ _ => le_trans⟩
  have hsorted : (sortByTime wps).Pairwise r := List.pairwise_insertionSort r wps
  have hparsed : (((sortByTime wps).map quantise).map (Record.waypoint (K := K))).Pairwise r := by
    rw [List.map_map, List.pairwise_map]
    refine hsorted.imp fun {a b} hab => ?_
    have hmul : a.time * 1000 ≤ b.time * 1000 := mul_le_mul_of_nonneg_right hab (by norm_num)
    have hcast : ((quantise a).timeMs : K) ≤ (quantise b).timeMs := by
      exact_mod_cast roundHalfEven_mono hmul
    exact div_le_div_of_nonneg_right hcast (by norm_num)
  exact hparsed.insertionSort_eq

end

lemma sortByTime_perm (wps : List (TrackPoint K)) : (sortByTime wps).Perm wps :=
  List.perm_insertionSort _ _

lemma foldl_max_le_iff (l : List ℤ) (a b : ℤ) : l.foldl max a ≤ b ↔ a ≤ b ∧ ∀ t ∈ l, t ≤ b := by
  induction l generalizing a with
  | nil => simp
  | cons t l ih => rw [List.foldl_cons, ih, max_le_iff, List.forall_mem_cons, and_assoc]

lemma durationMs_le_iff {choreo : Choreo K} {b : ℤ} : durationMs choreo ≤ b ↔
    0 ≤ b ∧ ∀ d ∈ choreo, ∀ wp ∈ d.waypoints, roundHalfEven (wp.time * 1000) ≤ b := by
  rw [durationMs, foldl_max_le_iff]
  simp only [List.mem_map, List.mem_flatMap, forall_exists_index, and_imp]
  refine and_congr_right fun _ => ⟨fun h d hd wp hwp => h _ wp d hd hwp rfl, ?_⟩
  rintro h _ wp d hd hwp rfl
  exact h d hd wp hwp

/-! ## The round trip -/

/-- A parsed waypoint is the one exported, up to the resolution of its record. -/
structure SamePoint (wp parsed : TrackPoint K) : Prop where
  time : parsed.time = (roundHalfEven (wp.time * 1000) : K) / 1000
  x : parsed.x = (roundHalfEven (wp.x * 100) : K) / 100
  y : parsed.y = (roundHalfEven (wp.y * 100) : K) / 100
  z : parsed.z = (roundHalfEven (wp.z * 100) : K) / 100
  yaw : ∃ (yaw : K) (turns : ℤ), parsed.yaw = some yaw ∧ 0 ≤ yaw ∧ yaw < 360 ∧
    |yaw - (wp.yaw.getD 0 + 360 * turns)| ≤ 1 / 200
  r : parsed.r = some (wp.r.getD 255)
  g : parsed.g = some (wp.g.getD 255)
  b : parsed.b = some (wp.b.getD 255)
  w : parsed.w = some (wp.w.getD 0)

/-- A file parses to what was exported, and that is exported as the same file. -/
def RoundTrips (choreo : Choreo K) (blob : Bytes) : Prop :=
  ∃ parsed : Parsed K, parseTara blob = .ok parsed ∧ List.Forall₂ (fun d d' => d'.id = d.id ∧
      List.Forall₂ SamePoint (sortByTime d.waypoints) d'.waypoints) choreo parsed.drones ∧
    parsed.frameCount = (choreo.map fun d => d.waypoints.length).sum ∧
    (parsed.durationMs : ℤ) = durationMs choreo ∧
    exportTara parsed.drones parsed.rateHz = .ok blob

/-- An export is refused with a `ValueError`, or its file makes the round trip. -/
def Holds (choreo : Choreo K) (rateHz : Rate K) : Prop :=
  (∃ message, exportTara choreo rateHz = .error (.valueError message)) ∨
    ∃ blob, exportTara choreo rateHz = .ok blob ∧ RoundTrips choreo blob

/-- The colours are bytes, and no heading is rounded to half a turn. -/
def Kept (wp : TrackPoint K) : Prop :=
  (∀ c ∈ [wp.r, wp.g, wp.b, wp.w], ∀ v ∈ c, 0 ≤ v ∧ v ≤ 255) ∧ wrapYawCdeg (wp.yaw.getD 0) ≠ 18000

/-- A show that fits the header and the index, of waypoints that come back. -/
structure Plain (choreo : Choreo K) (rateHz : Rate K) : Prop where
  drones : choreo.length < 65536
  counts : ∀ d ∈ choreo, d.waypoints.length < 65536
  rate : ∃ bs, packRate rateHz = .ok bs
  kept : ∀ d ∈ choreo, ∀ wp ∈ d.waypoints, Kept wp

section Ordered

variable [IsStrictOrderedRing K] {choreo : Choreo K} {rateHz : Rate K}

lemma channel_iff {c : Option ℤ} {default : ℤ} (hlow : 0 ≤ default) (hhigh : default ≤ 255) :
    c.getD default % 256 = c.getD default ↔ ∀ v ∈ c, 0 ≤ v ∧ v ≤ 255 := by
  cases c with
  | none => exact iff_of_true (Int.emod_eq_of_lt hlow (by rw [Option.getD_none]; omega)) nofun
  | some v =>
    simp only [Option.getD_some, Option.mem_def, Option.some.injEq, forall_eq']
    omega

/-- The heading that is read back is the one written, whole turns and a rounding apart. -/
lemma yaw_parsed (yaw : K) : ∃ (yaw' : K) (turns : ℤ),
    fmod ((wrapYawCdeg yaw : K) / 100) 360 = yaw' ∧ 0 ≤ yaw' ∧ yaw' < 360 ∧
      |yaw' - (yaw + 360 * turns)| ≤ 1 / 200 := by
  have hpos : (0 : K) < 360 := by norm_num
  refine ⟨_, -⌊(yaw + 180) / 360⌋ - ⌊(wrapYawCdeg yaw : K) / 100 / 360⌋, rfl, fmod_nonneg hpos,
    fmod_lt hpos, ?_⟩
  have hrounded := Core.RoundTrip.abs_quantised_sub_le (fmod (yaw + 180) 360 - 180)
  have hsame : fmod ((wrapYawCdeg yaw : K) / 100) 360 - (yaw + 360 *
      ((-⌊(yaw + 180) / 360⌋ - ⌊(wrapYawCdeg yaw : K) / 100 / 360⌋ : ℤ) : K)) =
      (wrapYawCdeg yaw : K) / 100 - (fmod (yaw + 180) 360 - 180) := by
    unfold fmod
    push_cast
    ring
  rw [hsame]
  exact hrounded

lemma samePoint_iff {wp : TrackPoint K} : SamePoint wp (quantise wp).waypoint ↔
    ∀ c ∈ [wp.r, wp.g, wp.b, wp.w], ∀ v ∈ c, 0 ≤ v ∧ v ≤ 255 := by
  have hfull : (0 : ℤ) ≤ 255 ∧ (255 : ℤ) ≤ 255 := by decide
  have hnone : (0 : ℤ) ≤ 0 ∧ (0 : ℤ) ≤ 255 := by decide
  simp only [List.forall_mem_cons, List.not_mem_nil, false_imp_iff, implies_true, and_true]
  constructor
  · intro h
    exact ⟨(channel_iff hfull.1 hfull.2).mp (Option.some.inj h.r),
      (channel_iff hfull.1 hfull.2).mp (Option.some.inj h.g),
      (channel_iff hfull.1 hfull.2).mp (Option.some.inj h.b),
      (channel_iff hnone.1 hnone.2).mp (Option.some.inj h.w)⟩
  · rintro ⟨hr, hg, hb, hw⟩
    obtain ⟨yaw, turns, hread, hyaw⟩ := yaw_parsed (wp.yaw.getD 0)
    exact ⟨rfl, rfl, rfl, rfl, ⟨yaw, turns, congrArg some hread, hyaw⟩,
      congrArg some ((channel_iff hfull.1 hfull.2).mpr hr),
      congrArg some ((channel_iff hfull.1 hfull.2).mpr hg),
      congrArg some ((channel_iff hfull.1 hfull.2).mpr hb),
      congrArg some ((channel_iff hnone.1 hnone.2).mpr hw)⟩

lemma faults_eq_nil_iff : faults choreo = [] ↔ ∀ d ∈ choreo, (0 ≤ d.id ∧ d.id ≤ 0xFFFF) ∧
    ∀ wp ∈ d.waypoints, pointFaults wp = [] := by
  rw [faults, List.flatMap_eq_nil_iff]
  refine forall₂_congr fun d _ => ?_
  rw [trackFaults, List.append_eq_nil_iff, List.flatMap_eq_nil_iff]
  refine and_congr ?_ (forall_congr' fun wp => ?_)
  · split
    next h => exact iff_of_true rfl h
    next h => exact iff_of_false (by simp) h
  · rw [(sortByTime_perm d.waypoints).mem_iff]

lemma wire_fits (hfaults : faults choreo = []) {d : ℕ × List Record} (hd : d ∈ wire choreo)
    {rec : Record} (hrec : rec ∈ d.2) : rec.Fits ∧ -18000 ≤ rec.yaw ∧ rec.yaw ≤ 18000 := by
  obtain ⟨track, htrack, rfl⟩ := List.mem_map.mp hd
  obtain ⟨wp, hwp, rfl⟩ := List.mem_map.mp hrec
  have hmem := (sortByTime_perm track.waypoints).mem_iff.mp hwp
  exact ⟨fits_quantise ((faults_eq_nil_iff.mp hfaults track htrack).2 wp hmem),
    wrapYawCdeg_mem (wp.yaw.getD 0)⟩

lemma exportTara_of_faults (hfaults : faults choreo = []) :
    exportTara choreo rateHz = compile (wire choreo) rateHz (durationMs choreo).toNat := by
  have hblocks := frameRecords_answers choreo
  rw [hfaults] at hblocks
  have hok : frameRecords choreo = .ok (blocksOf (wire choreo)) := hblocks
  unfold exportTara compile
  rw [hok]
  rfl

def back (drones : List (ℕ × List Record)) : Choreo K :=
  drones.map fun d => ⟨d.1, d.2.map Record.waypoint⟩

lemma faults_back (hfaults : faults choreo = []) : faults (back (wire choreo) : Choreo K) = [] := by
  refine faults_eq_nil_iff.mpr fun d hd => ?_
  obtain ⟨d', hd', rfl⟩ := List.mem_map.mp hd
  refine ⟨?_, fun wp hwp => ?_⟩
  · obtain ⟨track, htrack, rfl⟩ := List.mem_map.mp hd'
    have hid := (faults_eq_nil_iff.mp hfaults track htrack).1
    dsimp only
    omega
  · obtain ⟨rec, hrec, rfl⟩ := List.mem_map.mp hwp
    exact pointFaults_waypoint (wire_fits hfaults hd' hrec).1

lemma eq_of_map_eq {α : Type} {f : α → α} {l : List α} (h : l.map f = l) : ∀ a ∈ l, f a = a :=
  List.map_eq_map_iff.mp (h.trans (List.map_id l).symm)

/-- A parsed show is written with the records it was parsed from, if they are written again as
they are. -/
lemma wire_back : wire (back (wire choreo) : Choreo K) = (wire choreo).map fun d =>
    (d.1, d.2.map fun rec => quantise (rec.waypoint : TrackPoint K)) := by
  simp only [wire, back, List.map_map, Function.comp_def]
  refine List.map_congr_left fun track _ => ?_
  have hsort := sortByTime_parsed (K := K) track.waypoints
  simp only [List.map_map, Function.comp_def] at hsort
  rw [Int.toNat_natCast, hsort, List.map_map]
  rfl

lemma wire_back_iff (hfaults : faults choreo = []) :
    wire (back (wire choreo) : Choreo K) = wire choreo ↔
      ∀ d ∈ choreo, ∀ wp ∈ d.waypoints, wrapYawCdeg (wp.yaw.getD 0) ≠ 18000 := by
  rw [wire_back]
  constructor
  · intro h track htrack wp hwp
    have hd : (track.id.toNat, (sortByTime track.waypoints).map quantise) ∈ wire choreo :=
      List.mem_map_of_mem htrack
    have hrec : quantise wp ∈ (sortByTime track.waypoints).map quantise :=
      List.mem_map_of_mem ((sortByTime_perm _).mem_iff.mpr hwp)
    have hrecs := (Prod.mk.inj (eq_of_map_eq h _ hd)).2
    obtain ⟨hfits, hlow, hhigh⟩ := wire_fits hfaults hd hrec
    exact (quantise_waypoint_iff hfits hlow hhigh).mp (eq_of_map_eq hrecs _ hrec)
  · intro h
    refine (List.map_congr_left fun d hd => ?_).trans (List.map_id _)
    refine Prod.ext rfl ((List.map_congr_left fun rec hrec => ?_).trans (List.map_id _))
    obtain ⟨hfits, hlow, hhigh⟩ := wire_fits hfaults hd hrec
    refine (quantise_waypoint_iff hfits hlow hhigh).mpr ?_
    obtain ⟨track, htrack, rfl⟩ := List.mem_map.mp hd
    obtain ⟨wp, hwp, rfl⟩ := List.mem_map.mp hrec
    exact h track htrack wp ((sortByTime_perm _).mem_iff.mp hwp)

lemma durationMs_back : durationMs (back (wire choreo) : Choreo K) = durationMs choreo := by
  refine eq_of_forall_ge_iff fun b => ?_
  rw [durationMs_le_iff, durationMs_le_iff]
  refine and_congr_right fun _ => ?_
  have htime : ∀ wp : TrackPoint K,
      roundHalfEven (((quantise wp).waypoint : TrackPoint K).time * 1000) =
        roundHalfEven (wp.time * 1000) := fun wp =>
    Core.RoundTrip.roundHalfEven_scaled _ (by norm_num)
  constructor
  · intro h track htrack wp hwp
    have hmem := (sortByTime_perm track.waypoints).mem_iff.mpr hwp
    rw [← htime]
    exact h _ (List.mem_map_of_mem (List.mem_map_of_mem htrack)) _
      (List.mem_map_of_mem (List.mem_map_of_mem hmem))
  · intro h d hd wp hwp
    obtain ⟨d', hd', rfl⟩ := List.mem_map.mp hd
    obtain ⟨track, htrack, rfl⟩ := List.mem_map.mp hd'
    obtain ⟨rec, hrec, rfl⟩ := List.mem_map.mp hwp
    obtain ⟨wp', hwp', rfl⟩ := List.mem_map.mp hrec
    rw [htime]
    exact h track htrack wp' ((sortByTime_perm _).mem_iff.mp hwp')

lemma Compiled.back {duration : ℕ} {rate blob : Bytes}
    (h : Compiled (wire choreo) rateHz duration rate blob) (hfaults : faults choreo = [])
    (hduration : (durationMs choreo).toNat = duration) :
    exportTara (Tara.back (wire choreo) : Choreo K) (unpackRate rate) = .ok blob ↔
      ∀ d ∈ choreo, ∀ wp ∈ d.waypoints, wrapYawCdeg (wp.yaw.getD 0) ≠ 18000 := by
  rw [exportTara_of_faults (faults_back hfaults), durationMs_back, hduration,
    ← wire_back_iff hfaults]
  have hfits : ∀ d ∈ wire choreo, ∀ rec ∈ d.2, rec.Fits := fun d hd rec hrec =>
    (wire_fits hfaults hd hrec).1
  constructor
  · intro hagain
    obtain ⟨rate', h'⟩ := compile_ok.mp hagain
    exact h'.inj h (fun d hd rec hrec => (wire_fits (faults_back hfaults) hd hrec).1) hfits
  · intro hsame
    rw [hsame]
    exact compile_ok.mpr ⟨rate, h.counted, h.fits, (packRate_unpackRate h.packed).2, h.blob⟩

/-- The file of a show without faults makes the round trip if its colours are bytes and no heading
is rounded to half a turn. -/
lemma tara_back_iff {rate blob : Bytes} (hfaults : faults choreo = [])
    (h : Compiled (wire choreo) rateHz (durationMs choreo).toNat rate blob) :
    RoundTrips choreo blob ↔ ∀ d ∈ choreo, ∀ wp ∈ d.waypoints, Kept wp := by
  have hfits : ∀ d ∈ wire choreo, ∀ rec ∈ d.2, rec.Fits := fun d hd rec hrec =>
    (wire_fits hfaults hd hrec).1
  have hparse := h.parse hfits
  have hframes : frames (wire choreo) = (choreo.map fun d => d.waypoints.length).sum := by
    simp only [frames, wire, List.map_map, Function.comp_def, List.length_map,
      (sortByTime_perm _).length_eq]
  have hduration : ((durationMs choreo).toNat : ℤ) = durationMs choreo :=
    Int.toNat_of_nonneg (not_lt.mp fun hneg => by
      have hnone : durationMs choreo ≤ -1 := Int.le_sub_one_of_lt hneg
      exact absurd (durationMs_le_iff.mp hnone).1 (by decide))
  have hpoints : List.Forall₂ (fun d d' : Track K => d'.id = d.id ∧
      List.Forall₂ SamePoint (sortByTime d.waypoints) d'.waypoints) choreo (back (wire choreo)) ↔
      ∀ d ∈ choreo, ∀ wp ∈ d.waypoints,
        ∀ c ∈ [wp.r, wp.g, wp.b, wp.w], ∀ v ∈ c, 0 ≤ v ∧ v ≤ 255 := by
    rw [back, wire, List.map_map, List.forall₂_map_right_iff, List.forall₂_same]
    refine forall₂_congr fun d hd => ?_
    have hid := (faults_eq_nil_iff.mp hfaults d hd).1.1
    simp only [Function.comp_apply, Int.toNat_of_nonneg hid, true_and, List.map_map,
      List.forall₂_map_right_iff, List.forall₂_same]
    exact forall_congr' fun wp => by
      rw [(sortByTime_perm d.waypoints).mem_iff]
      exact imp_congr_right fun _ => samePoint_iff
  constructor
  · rintro ⟨parsed, hparsed, hsame, -, -, hagain⟩
    obtain rfl := Except.ok.inj (hparse.symm.trans hparsed)
    have hyaw := (h.back hfaults rfl).mp hagain
    exact fun d hd wp hwp => ⟨hpoints.mp hsame d hd wp hwp, hyaw d hd wp hwp⟩
  · intro hkept
    exact ⟨_, hparse, hpoints.mpr fun d hd wp hwp => (hkept d hd wp hwp).1, hframes, hduration,
      (h.back hfaults rfl).mpr fun d hd wp hwp => (hkept d hd wp hwp).2⟩

lemma counted_wire_iff (hfaults : faults choreo = []) : Counted (wire choreo) ↔
    choreo.length < 65536 ∧ ∀ d ∈ choreo, d.waypoints.length < 65536 := by
  constructor
  · intro h
    refine ⟨by simpa only [wire, List.length_map] using h.drones, fun track htrack => ?_⟩
    simpa only [List.length_map, (sortByTime_perm _).length_eq] using
      h.counts _ (List.mem_map_of_mem htrack)
  · rintro ⟨hlength, hcounts⟩
    refine ⟨fun d hd => ?_, fun d hd => ?_, by simpa only [wire, List.length_map] using hlength⟩
    · obtain ⟨track, htrack, rfl⟩ := List.mem_map.mp hd
      have hid := (faults_eq_nil_iff.mp hfaults track htrack).1
      dsimp only
      omega
    · obtain ⟨track, htrack, rfl⟩ := List.mem_map.mp hd
      simpa only [List.length_map, (sortByTime_perm _).length_eq] using hcounts track htrack

lemma durationMs_lt (hfaults : faults choreo = []) : (durationMs choreo).toNat < 256 ^ 4 := by
  have hle : durationMs choreo ≤ maxTimeMs := by
    refine durationMs_le_iff.mpr ⟨by decide, fun track htrack wp hwp => ?_⟩
    exact (fits_quantise ((faults_eq_nil_iff.mp hfaults track htrack).2 wp hwp)).timeMs.2
  have hmax : maxTimeMs = 4294967295 := rfl
  omega

lemma exportTara_answers (hne : faults choreo ≠ []) (blob : Bytes) :
    Answers (faults choreo) (exportTara choreo rateHz) blob := by
  have hblocks : Answers (faults choreo ++ []) (exportTara choreo rateHz) blob :=
    (frameRecords_answers choreo).bind fun hnil => absurd hnil hne
  rwa [List.append_nil] at hblocks

/-- An export is as it should be if and only if the first of its faults is one that it refuses, or
there is none and the show is plain. -/
theorem tara_round_trip (choreo : Choreo K) (rateHz : Rate K) : Holds choreo rateHz ↔
    (faults choreo).head? = some .refused ∨ faults choreo = [] ∧ Plain choreo rateHz := by
  cases hfaults : faults choreo with
  | nil =>
    simp only [List.head?_nil, reduceCtorEq, true_and, false_or]
    rw [Holds, exportTara_of_faults hfaults]
    constructor
    · rintro (⟨message, herror⟩ | ⟨blob, hok, htrips⟩)
      · exact absurd herror (compile_ne_valueError _ _ _ _)
      · obtain ⟨rate, h⟩ := compile_ok.mp hok
        obtain ⟨hdrones, hcounts⟩ := (counted_wire_iff hfaults).mp h.counted
        exact ⟨hdrones, hcounts, ⟨rate, h.packed⟩, (tara_back_iff hfaults h).mp htrips⟩
    · intro hplain
      obtain ⟨rate, hrate⟩ := hplain.rate
      have h : Compiled (wire choreo) rateHz (durationMs choreo).toNat rate _ :=
        ⟨(counted_wire_iff hfaults).mpr ⟨hplain.drones, hplain.counts⟩, durationMs_lt hfaults,
          hrate, rfl⟩
      exact .inr ⟨_, compile_ok.mpr ⟨rate, h⟩, (tara_back_iff hfaults h).mpr hplain.kept⟩
  | cons fault rest =>
    have hne : faults choreo ≠ [] := by
      rw [hfaults]
      exact List.cons_ne_nil fault rest
    have hanswers : ∀ blob, Answers (fault :: rest) (exportTara choreo rateHz) blob := fun blob =>
      hfaults ▸ exportTara_answers hne blob
    cases fault with
    | refused => exact iff_of_true (.inl (hanswers [])) (.inl rfl)
    | unpackable =>
      have herror : exportTara choreo rateHz = .error .structError := hanswers []
      refine iff_of_false ?_ (by simp)
      rw [Holds, herror]
      rintro (⟨message, h⟩ | ⟨blob, h, -⟩) <;> cases h

def eastward : Choreo ℚ :=
  [⟨0, [{ time := 0, x := 0, y := 0, z := 5, yaw := some 90 }]⟩]

theorem tara_round_trip_eastward : Holds eastward (.finite false 2) := by
  have hplain : Plain eastward (.finite false 2) := by
    have hrate : (packRate (.finite false (2 : ℚ))).toOption.isSome := by decide +kernel
    obtain ⟨bs, hbs⟩ := Option.isSome_iff_exists.mp hrate
    refine ⟨by decide, by decide, ⟨bs, ok_of_toOption hbs⟩, ?_⟩
    unfold Kept
    decide +kernel
  exact (tara_round_trip eastward (.finite false 2)).mpr (.inr ⟨by decide +kernel, hplain⟩)

/-- One drone that hangs above its pad, almost facing south. -/
def southward : Choreo ℚ :=
  [⟨0, [{ time := 0, x := 0, y := 0, z := 5, yaw := some (179996 / 1000) }]⟩]

/-- Its heading is written as half a turn, and that is written as minus half a turn. -/
theorem half_turn_differs : ¬ Holds southward (.finite false 2) := by
  obtain ⟨blob, hblob, parsed, hparsed, h⟩ :
      ∃ blob ∈ (exportTara southward (.finite false 2)).toOption,
      ∃ parsed ∈ (parseTara (K := ℚ) blob).toOption,
      (exportTara parsed.drones parsed.rateHz).toOption ≠ some blob := by decide +kernel
  rintro (⟨message, herror⟩ | ⟨blob', hblob', parsed', hparsed', -, -, -, hagain⟩)
  · rw [herror] at hblob
    cases hblob
  · obtain rfl := Except.ok.inj (hblob'.symm.trans (ok_of_toOption hblob))
    obtain rfl := Except.ok.inj (hparsed'.symm.trans (ok_of_toOption hparsed))
    refine h ?_
    rw [hagain]
    rfl

end Ordered

end Taramandal.Studio.Tara
