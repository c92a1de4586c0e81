import Taramandal.Studio.CsvRoundTrip

/-! # Certified shows (`validator.py`, `certify_feasibility_report`)

A show is certified if its safety report passes and no jerk is too high. Exported as JSON it clears
the gate of the ground station, if that knows the version of the format and the waypoints come in
the order of their times. -/
set_option linter.unusedSectionVars false

namespace Taramandal.Studio.Certificate

open Lib.Check Lib.Dict Core.Numbers Core.Values Core.Geometry Core.Safety Core.Schema Core.Shows
open Core.Validate Core.CleanShows Core.ShowReport Core.CleanSweep Gcs.Gate Studio.Exporter
open Gcs.CsvAdapter Studio.CsvRoundTrip

variable {K : Type} [Field K] [LinearOrder K]

/-! ## Dynamics -/

structure DynamicLimits (K : Type) where
  maxVelocityMs : K
  maxCentripetalMs2 : K
  maxJerkMs3 : K
  minSeparationM : K

def defaultDynamicLimits : DynamicLimits K where
  maxVelocityMs := 4
  maxCentripetalMs2 := 25 / 10
  maxJerkMs3 := 20
  minSeparationM := 15 / 10

def dynamicsSweepDtS : K := 1 / 10

structure CentripetalViolation (K : Type) where
  time : K
  drone : Nat
  centripetal : K
  curvature : K
  velocity : K
  limit : K

structure SeparationViolation (K : Type) where
  time : K
  distance : K
  limit : K

/-- One entry for each kind of violation of the dynamics. -/
structure PerDynamic (M C S : Type) where
  velocity : M
  centripetal : C
  jerk : M
  separation : S

structure DynamicMetrics (K : Type) where
  maxVelocityMS : K
  maxCentripetalMS2 : K
  maxJerkMS3 : K
  minDistanceM : K

structure DynamicReport (K : Type) where
  status : Status
  summary : String
  metrics : DynamicMetrics K
  violations : PerDynamic (List (MotionViolation K)) (List (CentripetalViolation K))
    (List (SeparationViolation K))
  worstViolations : PerDynamic (Option (MotionViolation K)) (Option (CentripetalViolation K))
    (Option (SeparationViolation K))
  feasibilityCertified : Bool

abbrev Track (K : Type) := Nat × List (Option (Point K))

def Track.at (track : Track K) (idx : Nat) : Option (Point K) := track.2[idx]?.join

def Track.before (track : Track K) (idx back : Nat) : Option (Point K) :=
  if back ≤ idx then track.at (idx - back) else none

section Sweep

variable [Sqrt K]

/-- `_curvature`: the curvature and the speed. -/
def curvature (prev curr next : Point K) (dt : K) : K × K :=
  let v : Point K := ((next.1 - prev.1) / (2 * dt), (next.2.1 - prev.2.1) / (2 * dt),
    (next.2.2 - prev.2.2) / (2 * dt))
  let speed := magnitude v
  if speed < 1 / 10 ^ 6 then (0, speed)
  else
    let second (p c n : K) : K := (n - 2 * c + p) / (dt * dt)
    let a : Point K := (second prev.1 curr.1 next.1, second prev.2.1 curr.2.1 next.2.1,
      second prev.2.2 curr.2.2 next.2.2)
    let cross := magnitude (v.2.1 * a.2.2 - v.2.2 * a.2.1, v.2.2 * a.1 - v.1 * a.2.2,
      v.1 * a.2.1 - v.2.1 * a.1)
    (cross / speed ^ 3, speed)

def jerkFromPositions (m2 m1 p1 p2 : Point K) (dt : K) : K :=
  let third (a b c d : K) : K := (-a + 2 * b - 2 * c + d) / (2 * dt ^ 3)
  magnitude (third m2.1 m1.1 p1.1 p2.1, third m2.2.1 m1.2.1 p1.2.1 p2.2.1,
    third m2.2.2 m1.2.2 p1.2.2 p2.2.2)

section

variable (dt : K) (track : Track K) (idx : Nat)

def speedAt : Option K := do
  let curr ← track.at idx
  let prev ← track.before idx 1
  return pointDist curr prev / dt

/-- The centripetal acceleration, the curvature and the speed at a sample between two others. -/
def centripetalAt : Option (K × K × K) := do
  let curr ← track.at idx
  let prev ← track.before idx 1
  let next ← track.at (idx + 1)
  let (kappa, speed) := curvature prev curr next dt
  return (kappa * speed * speed, kappa, speed)

def jerkAt : Option K := do
  let _ ← track.at idx
  let m2 ← track.before idx 2
  let m1 ← track.before idx 1
  let p1 ← track.at (idx + 1)
  let p2 ← track.at (idx + 2)
  return jerkFromPositions m2 m1 p1 p2 dt

end

variable [FloorRing K]

/-- A value of a drone's motion that is past its limit. -/
def beyond (t : K) (drone : Nat) (limit value : K) : Option (K × MotionViolation K) :=
  if limit < value then some (value - limit, ⟨roundTo 2 t, drone, roundTo 2 value, limit⟩)
  else none

def tracks (s : Show K) (times : List K) : List (Track K) :=
  s.drones.map fun d => (d.1, times.map fun t => (interpolateWaypoint d.2 t).map place)

/-- The samples in the order of the sweep, each with all drones. -/
def visits (s : Show K) (dt : K) : List (K × Nat × Track K) :=
  let times := sweepTimes s.duration dt
  times.zipIdx.flatMap fun p => (tracks s times).map fun track => (p.1, p.2, track)

/-- The smallest distance at each sample that has two drones. -/
def distances (s : Show K) (dt : K) : List (K × K) :=
  let times := sweepTimes s.duration dt
  times.zipIdx.filterMap fun p => (minSeparation ((tracks s times).filterMap fun track =>
    (track.at p.2).map fun q => (track.1, q))).map fun dist => (p.1, dist)

def validateDynamics (s : Show K) (limits : DynamicLimits K) (dt : K) : DynamicReport K :=
  if s.drones = [] then
    { status := .failed
      summary := "No drones found in choreography."
      metrics := ⟨0, 0, 0, 0⟩
      violations := ⟨[], [], [], []⟩
      worstViolations := ⟨none, none, none, none⟩
      feasibilityCertified := false }
  else
    let visited := visits s dt
    let velocity := visited.filterMap fun v => (speedAt dt v.2.2 v.2.1).bind
      (beyond v.1 v.2.2.1 limits.maxVelocityMs)
    let centripetal := visited.filterMap fun v => (centripetalAt dt v.2.2 v.2.1).bind fun c =>
      if limits.maxCentripetalMs2 < c.1 then
        some (c.1 - limits.maxCentripetalMs2, (⟨roundTo 2 v.1, v.2.2.1, roundTo 2 c.1,
          roundTo 4 c.2.1, roundTo 2 c.2.2, limits.maxCentripetalMs2⟩ : CentripetalViolation K))
      else none
    let jerk := visited.filterMap fun v => (jerkAt dt v.2.2 v.2.1).bind
      (beyond v.1 v.2.2.1 limits.maxJerkMs3)
    let separation := (distances s dt).filterMap fun p =>
      if p.2 < limits.minSeparationM then
        some (limits.minSeparationM - p.2, (⟨roundTo 2 p.1, roundTo 2 p.2, limits.minSeparationM⟩ :
          SeparationViolation K))
      else none
    let violations : PerDynamic _ _ _ := {
      velocity := reportSubset velocity maxReported
      centripetal := reportSubset centripetal maxReported
      jerk := reportSubset jerk maxReported
      separation := reportSubset separation maxReported }
    let passed := violations.velocity.isEmpty && violations.centripetal.isEmpty &&
      violations.jerk.isEmpty && violations.separation.isEmpty
    { status := if passed then .passed else .failed
      summary := if passed then "Choreography is dynamically feasible!"
        else "Choreography is not dynamically feasible."
      metrics := {
        maxVelocityMS := roundTo 2 ((visited.filterMap fun v => speedAt dt v.2.2 v.2.1).foldl max 0)
        maxCentripetalMS2 := roundTo 2
          ((visited.filterMap fun v => (centripetalAt dt v.2.2 v.2.1).map Prod.fst).foldl max 0)
        maxJerkMS3 := roundTo 2 ((visited.filterMap fun v => jerkAt dt v.2.2 v.2.1).foldl max 0)
        minDistanceM := (((distances s dt).map Prod.snd).min?.map (roundTo 2)).getD 0 }
      violations
      worstViolations := {
        velocity := worstOf velocity
        centripetal := worstOf centripetal
        jerk := worstOf jerk
        separation := worstOf separation }
      feasibilityCertified := passed }

/-- The safety report, with the jerk. -/
structure FeasibilityReport (K : Type) where
  report : Report K
  jerk : List (MotionViolation K)
  maxJerkMS3 : K
  jerkMethod : String := "central_difference_5pt"
  jerkSweepDtS : K
  feasibilityCertified : Bool

def certifyFeasibilityReport (tree : KdTree K) (s : Show K) (safetyLimits : SafetyLimits K)
    (dynamicLimits : DynamicLimits K) : Bool × FeasibilityReport K :=
  let safety := validateShow tree s safetyLimits none (1 / 10)
  let dynamics := validateDynamics s dynamicLimits dynamicsSweepDtS
  let jerk := dynamics.violations.jerk
  let maxJerk := dynamics.metrics.maxJerkMS3
  let corePassed := decide (safety.status = .passed)
  let isCertified := corePassed && jerk.isEmpty
  (isCertified, {
    report := { safety with
      status := if isCertified then safety.status else .failed
      summary := if corePassed && !jerk.isEmpty then
          "Choreography failed feasibility certification: " ++ toString jerk.length ++
            " jerk violation(s) (peak " ++ fixed 1 maxJerk ++ " m/s^3 exceeds limit " ++
            fixed 1 dynamicLimits.maxJerkMs3 ++ " m/s^3)."
        else safety.summary }
    jerk
    maxJerkMS3 := maxJerk
    jerkSweepDtS := dynamicsSweepDtS
    feasibilityCertified := isCertified })

end Sweep

section Clears

variable [FloorRing K] [Sqrt K] {tree : KdTree K} {s : Show K}

variable {limits : SafetyLimits K} {maxErrors : Nat} {choreoData data : PyDict K}

/-- Drones that keep the distance they are designed for keep the one they are gated by. -/
lemma collisionErrors_of_clean (hlower : LowerFirst tree)
    (h : (sweepShow tree s limits limits.designSeparationM (1 / 10)).proximity = []) : collisionErrors tree s limits none maxErrors = [] := by
  refine (collisionErrors_eq_nil_iff hlower).mpr fun t ht => ?_
  have hpairs := (closePairs_eq_nil_iff hlower).mp (closePairs_of_clean h ht)
  exact hpairs.imp fun hfar => limits.min_le_design.trans hfar

lemma altitudeErrors_of_clean
    (habove : (altitudeExtremes s limits).1 = []) (hbelow : (altitudeExtremes s limits).2.1 = []) : altitudeErrors s limits maxErrors = [] := by
  refine altitudeErrors_eq_nil_iff.mpr fun d hd wp hwp => ?_
  have hceiling := List.map_eq_nil_iff.mp (List.flatMap_eq_nil_iff.mp habove d hd)
  have hground := List.map_eq_nil_iff.mp (List.flatMap_eq_nil_iff.mp hbelow d hd)
  have hlow : ¬ limits.maxAltitudeM < -wp.z := by
    simpa using List.filter_eq_nil_iff.mp hceiling wp hwp
  have hhigh : ¬ -wp.z < 0 := by
    have hnot := List.filter_eq_nil_iff.mp hground wp hwp
    rw [decide_eq_true_eq] at hnot
    exact fun hneg => hnot ⟨hlow, hneg⟩
  exact ⟨not_lt.mp hhigh, not_lt.mp hlow⟩

variable [IsStrictOrderedRing K]

/-- `certify_feasibility_report`, by the default limits. -/
def Certified (tree : KdTree K) (s : Show K) : Prop :=
  (certifyFeasibilityReport tree s defaultLimits defaultDynamicLimits).1 = true

instance (tree : KdTree K) (s : Show K) : Decidable (Certified tree s) :=
  inferInstanceAs (Decidable (_ = _))

lemma Certified.passed (h : Certified tree s) :
    (validateShow tree s defaultLimits none (1 / 10)).status = .passed := by
  have hboth := (Bool.and_eq_true _ _).mp h
  exact of_decide_eq_true hboth.1

/-- The show of a choreography that is exported, as the schema vets it: `Show.from_any` reads the
same waypoints. -/
def vettedShow (choreoData : PyDict K) : Checked SchemaError (Show K) :=
  Show.validateAndLoad (.dict (remove (stampVersion choreoData) "_geofence"))

/-- A choreography with waypoints for each drone, certified and exported as JSON, is taken by the
gate, with its waypoints in the order of their times and neither collision nor altitude errors. -/
def ClearsGate (tree : KdTree K) (dumps : PyVal K → Except String String)
    (loads : String → Except String (PyVal K)) (choreoData : PyDict K) : Prop :=
  ∀ s json, vettedShow choreoData = .ok s → Certified tree s → (∀ d ∈ s.drones, d.2 ≠ []) →
    exportJson dumps choreoData = .ok json →
    ∃ shown, loads json = .ok shown ∧ gateShow tree shown = .ok (timeSorted s) ∧
      collisionErrors tree (timeSorted s) defaultLimits none 3 = [] ∧
      altitudeErrors (timeSorted s) defaultLimits 3 = []

lemma validateAndLoad_exported [LawfulSqrt K]
    (hvetted : vettedShow choreoData = .ok s) (hdata : exportedData choreoData = .ok data) :
    Show.validateAndLoad (.dict data) = .ok s ∧
      find data "version" = find (stampVersion choreoData) "version" := by
  have hkept : ∀ key, "_geofence" ≠ key →
      find (remove (stampVersion choreoData) "_geofence") key =
        find (stampVersion choreoData) key := fun key hne => find_remove_ne _ hne
  obtain ⟨items, hitems⟩ := drones_of_load hvetted
  rw [hkept _ (by decide)] at hitems
  unfold exportedData at hdata
  rw [vettedShow] at hvetted
  simp only [hvetted, hitems] at hdata
  split at hdata
  · cases hdata
  next envelope henvelope =>
    cases hdata
    have hassigned : ∀ key, "_geofence" ≠ key →
        find (assign (stampVersion choreoData) "_geofence" (envelopeDict envelope)) key =
          find (remove (stampVersion choreoData) "_geofence") key := fun key hne =>
      (find_assign_ne _ _ hne).trans (hkept key hne).symm
    refine ⟨validateAndLoad_congr (hassigned _ (by decide)) (hassigned _ (by decide))
      (hassigned _ (by decide)) (optional_envelope henvelope) hvetted, ?_⟩
    exact find_assign_ne _ _ (by decide)

lemma checkVersion_exported
    (hversion : ∀ n, find choreoData "version" = some (.int n) → n ≤ showFormatVersion)
    (hdata : find data "version" = find (stampVersion choreoData) "version") :
    checkVersion data = .ok data := by
  have hstamp : find data "version" =
      some ((find choreoData "version").getD (.int showFormatVersion)) := by
    rw [hdata, stampVersion, find, if_pos rfl]
  unfold checkVersion
  rw [hstamp]
  cases hfind : find choreoData "version" with
  | none => exact if_neg (lt_irrefl _)
  | some v =>
    cases v with
    | int n => exact if_neg (not_lt.mpr (hversion n hfind))
    | _ => rfl

lemma timeSorted_eq (h : ∀ d ∈ s.drones, TimeOrdered d.2) : timeSorted s = s := by
  have hdrones := timeSorted_drones h
  cases s with
  | mk drones unique => simpa only [timeSorted, Show.mk.injEq] using hdrones

/-- A certified show in the order of its times clears the gate that knows its version. -/
theorem certified_clears_gate [LawfulSqrt K] (hlower : LowerFirst tree)
    {dumps : PyVal K → Except String String} {loads : String → Except String (PyVal K)}
    {choreoData : PyDict K}
    (hjson : ∀ data json, exportedData choreoData = .ok data → dumps (.dict data) = .ok json →
      loads json = .ok (.dict data))
    (hversion : ∀ n, find choreoData "version" = some (.int n) → n ≤ showFormatVersion)
    (hordered : ∀ s, vettedShow choreoData = .ok s → ∀ d ∈ s.drones, TimeOrdered d.2) :
    ClearsGate tree dumps loads choreoData := by
  intro s json hvetted hcertified hne hexport
  obtain ⟨hdrones, hclean⟩ := (validateShow_passed_iff tree).mp hcertified.passed
  obtain ⟨hpairs, -, -, -, habove, hbelow⟩ := hclean
  have hsorted : timeSorted s = s := timeSorted_eq (hordered s hvetted)
  have hcol : collisionErrors tree (timeSorted s) defaultLimits none 3 = [] :=
    hsorted.symm ▸ collisionErrors_of_clean hlower hpairs
  have halt : altitudeErrors (timeSorted s) defaultLimits 3 = [] :=
    hsorted.symm ▸ altitudeErrors_of_clean habove hbelow
  unfold exportJson at hexport
  split at hexport
  · cases hexport
  next data hdata =>
    obtain ⟨hload, hstamp⟩ := validateAndLoad_exported hvetted hdata
    refine ⟨.dict data, hjson data json hdata (mapError_ok hexport), ?_, hcol, halt⟩
    exact gateShow_of_checked (checkVersion_exported hversion hstamp) hload hdrones
      (emptyDrones_eq_nil hne) hcol halt

def hovering (version : ℤ) : PyDict ℚ :=
  [("version", .int version), ("drones", .list [.dict [("id", .int 0), ("waypoints", .list [.dict
    [("time", .int 0), ("x", .int 0), ("y", .int 0), ("z", .int (-5)), ("yaw", .int 0)]])]])]

/-- A file that holds what is exported of one choreography. -/
def written (choreoData : PyDict ℚ) (_json : String) : Except String (PyVal ℚ) :=
  match exportedData choreoData with
  | .ok data => .ok (.dict data)
  | .error _ => .error ""

lemma exportJson_written {choreoData data : PyDict ℚ} (h : exportedData choreoData = .ok data) :
    exportJson (fun _ => .ok "") choreoData = .ok "" := by
  unfold exportJson
  rw [h]
  rfl

theorem certified_clears_gate_hovering : ∃ s shown, vettedShow (hovering 1) = .ok s ∧
    Certified bruteForce s ∧ written (hovering 1) "" = .ok shown ∧
      gateShow bruteForce shown = .ok (timeSorted s) := by
  obtain ⟨s, hs, hcertified, hne, hone⟩ :
      ∃ s ∈ (vettedShow (hovering 1)).toOption, Certified bruteForce s ∧
      (∀ d ∈ s.drones, d.2 ≠ []) ∧ ∀ d ∈ s.drones, d.2.length = 1 := by decide +kernel
  have hvetted : vettedShow (hovering 1) = .ok s := ok_of_toOption hs
  obtain ⟨data, (hdata : _ = _), -⟩ : ∃ data ∈ (exportedData (hovering 1)).toOption, True := by
    decide +kernel
  have hclears : ClearsGate bruteForce (fun _ => .ok "") (written (hovering 1)) (hovering 1) := by
    refine certified_clears_gate lowerFirst_bruteForce ?_ ?_ ?_
    · intro data json hdata _
      simp only [written, hdata]
    · intro n hn
      cases hn
      exact le_refl 1
    · intro s' hs' d hd
      obtain rfl := Except.ok.inj (hvetted.symm.trans hs')
      obtain ⟨wp, hwp⟩ := List.length_eq_one_iff.mp (hone d hd)
      rw [hwp]
      exact List.pairwise_singleton _ _
  obtain ⟨shown, hshown, hgate, -⟩ := hclears s "" hvetted hcertified hne
    (exportJson_written (ok_of_toOption hdata))
  exact ⟨s, shown, hvetted, hcertified, hshown, hgate⟩

/-- A version that is newer than the gate's is certified and exported, and refused. -/
theorem newer_version_refused :
    ¬ ClearsGate bruteForce (fun _ => .ok "") (written (hovering 2)) (hovering 2) := by
  obtain ⟨s, hs, hcertified, hne⟩ :
      ∃ s ∈ (vettedShow (hovering 2)).toOption, Certified bruteForce s ∧
      ∀ d ∈ s.drones, d.2 ≠ [] := by decide +kernel
  obtain ⟨data, hdata, hnone⟩ :
      ∃ data ∈ (exportedData (hovering 2)).toOption,
      (gateShow bruteForce (.dict data)).toOption.isNone := by decide +kernel
  have hdata : exportedData (hovering 2) = .ok data := ok_of_toOption hdata
  intro h
  obtain ⟨shown, hshown, hgate, -⟩ := h s "" (ok_of_toOption hs) hcertified hne
    (exportJson_written hdata)
  simp only [written, hdata] at hshown
  obtain rfl := Except.ok.inj hshown
  rw [hgate] at hnone
  cases hnone

end Clears

end Taramandal.Studio.Certificate
