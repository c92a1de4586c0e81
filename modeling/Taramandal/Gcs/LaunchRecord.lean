import Taramandal.Gcs.FailClosed
import Taramandal.Gcs.LaunchRequest

/-! # What the record of a launch says of its overrides (`preflight.py`, `authorize_launch`)

The gates are judged by the override that an evaluation reads, the record names the one that is
read after it. Between the two the clock is read three times more, and an override that runs out
there has let its gates pass and is not on record. -/
namespace Taramandal.Gcs.LaunchRecord

open Lib.Check Lib.Dict Lib.Hoare Gcs.Preflight Gcs.Confirmations Gcs.TwoStep Gcs.LaunchRequest
open Gcs.RawPreflight

variable (c : EngineConfig) (fleet : RawFleet) (w : World)

/-- `authorize_launch`, on a table as it is. -/
def authorizeRaw (operator : String) : EngineM Decision := do
  let first := (← get).reads
  let (report, _) ← RawPreflight.evaluate c fleet w
  if report.launchPermitted then
    let overridden ← overriddenRules w c
    consume w c operator report overridden (w.clock (first + 1))
    return ⟨true, report, report.launchDroneIds, overridden⟩
  else
    record w
      { event := "launch_rejected"
        profile := c.profile.value
        operator := operator
        reasons := report.blockingReasons }
    return ⟨false, report, [], []⟩

def Report.gates (r : Report) : List Gate := r.fleetGates ++ r.drones.flatMap DroneReport.gates

def Overrides (r : Report) (g : Gate) : Prop := g ∈ Report.gates r ∧ g.state = .overridden

/-- The engine as a permitted launch finds it when it takes the confirmations. -/
def beforeConsume (e : Engine) : Engine :=
  (outcome (RawPreflight.evaluate c fleet w >>= fun _ => overriddenRules w c) e).2

/-- The decision and the record name every rule that was overridden, and the override that was
read for the gates is the one that is consumed. -/
structure Tells (e : Engine) (d : Decision) (e' : Engine) : Prop where
  decision : ∀ g, Overrides d.report g → g.rule.id ∈ d.overriddenRules
  record : ∃ entry, e'.trail.getLast? = some entry ∧ entry.event = launchAuthorized ∧
    ∀ g, Overrides d.report g → g.rule.id ∈ entry.rules
  consumed : ∀ g, Overrides d.report g → ∃ a,
    activeAt e (w.clock (e.reads + 1)) .override = some a ∧ g.rule.id ∈ a.rules ∧
      find (beforeConsume c fleet w e).active .override = some a ∧
      find e'.active .override = none

/-- The override that the gates are judged by lasts until the record is made, or lets none of them
pass. -/
def LastsToRecord (e : Engine) : Prop :=
  ∀ a report g, activeAt e (w.clock (e.reads + 1)) .override = some a →
    judge c a.rules (activeAt e (w.clock (e.reads + 1)) .latch) (w.clock (e.reads + 2)) fleet =
      .ok report → Overrides report g → w.clock (e.reads + 5) ≤ a.expiresAt

variable {c fleet w}

/-- What was there at the gates and at the record of a permitted launch. -/
structure Launched (c : EngineConfig) (fleet : RawFleet) (w : World) (e : Engine) (d : Decision)
    (e' e₁ e₂ : Engine) : Prop where
  judged : RawJudged c fleet w e d.report e₁
  lapse : Lapse w e₁ e₂
  reads : e₂.reads = e.reads + 6
  fresh : Fresh (w.clock (e.reads + 5)) e₂
  before : beforeConsume c fleet w e = e₂
  rules : d.overriddenRules = overriddenAt e₂
  trail : ∃ entry, e'.trail = e₂.trail ++ [entry] ∧ entry.event = launchAuthorized ∧
    entry.rules = sortedRules (overriddenAt e₂)
  active : e'.active = remove (remove e₂.active .latch) .override

variable {e : Engine} {overridden : List String} {r : String}

lemma launched_of_permitted {operator : String} {e' : Engine} {d : Decision}
    (h : outcome (authorizeRaw c fleet w operator) e = (.ok d, e'))
    (hpermitted : d.permitted = true) :
    ∃ e₁ e₂, Launched c fleet w e d e' e₁ e₂ := by
  unfold authorizeRaw at h
  simp only [outcome_bind, outcome_get] at h
  cases hevaluated : outcome (RawPreflight.evaluate c fleet w) e with
  | mk v e₃ =>
    rw [hevaluated] at h
    cases v with
    | error raised => cases (Prod.mk.inj h).1
    | ok r =>
      obtain ⟨report, described⟩ := r
      obtain ⟨e₁, hjudged, hlapse, hreads⟩ := (evaluate_spec c fleet w e).ok rfl hevaluated
      dsimp only at h
      by_cases hgreen : report.launchPermitted = true
      · rw [if_pos hgreen, outcome_bind] at h
        cases hread : outcome (overriddenRules w c) e₃ with
        | mk v e₂ =>
          rw [hread] at h
          cases v with
          | error raised => cases (Prod.mk.inj h).1
          | ok rules =>
            obtain ⟨hlapse₂, hreads₂, hfresh, rfl⟩ := (overriddenRules_spec e₃).ok rfl hread
            have hbefore : beforeConsume c fleet w e = e₂ := by
              rw [beforeConsume, outcome_bind, hevaluated]
              exact congrArg Prod.snd hread
            simp only [outcome_bind, consume, outcome_record] at h
            cases hfails : w.auditFails e₂.trail.length with
            | true =>
              rw [hfails] at h
              cases (Prod.mk.inj h).1
            | false =>
              rw [hfails] at h
              obtain ⟨hd, he⟩ := Prod.mk.inj h
              cases hd
              subst he
              exact ⟨e₁, e₂, hjudged, hlapse.trans hlapse₂, by rw [hreads₂, hreads],
                hreads ▸ hfresh, hbefore, rfl, ⟨_, rfl, rfl, rfl⟩, rfl⟩
      · rw [if_neg hgreen, outcome_bind, outcome_record] at h
        cases hfails : w.auditFails e₃.trail.length with
        | true =>
          rw [hfails] at h
          cases (Prod.mk.inj h).1
        | false =>
          rw [hfails] at h
          cases (Prod.mk.inj h).1
          cases hpermitted

/-! ## The gates that are overridden -/

lemma id_mem_of_overridden {p : ProfilePolicy} {check : Check}
    (h : (gate p overridden check).state = .overridden) : check.1.id ∈ overridden := by
  simp only [gate] at h
  split at h
  · cases h
  split at h
  · cases h
  split at h
  · cases h
  split at h
  next hmem => exact hmem
  · cases h

lemma Overrides.id_mem {latch : Option Active} {now : ℚ}
    {report : Report} {g : Gate} (h : Overrides report g)
    (hreport : judge c overridden latch now fleet = .ok report) : g.rule.id ∈ overridden := by
  obtain ⟨drones, hdrones, hmade⟩ := bind_eq_ok.mp hreport
  cases hmade
  obtain ⟨hmem, hstate⟩ := h
  rcases List.mem_append.mp hmem with hmem | hmem
  · simp only [reportOf, fleetGates, List.mem_cons, List.not_mem_nil, or_false] at hmem
    rcases hmem with rfl | rfl
    · exact id_mem_of_overridden hstate
    · exact id_mem_of_overridden hstate
  · obtain ⟨drone, hdrone, hmem⟩ := List.mem_flatMap.mp hmem
    obtain ⟨row, -, hrow⟩ := exists_of_mem_mapM hdrones hdrone
    obtain ⟨checks, -, rfl⟩ := map_eq_ok.mp hrow
    obtain ⟨check, -, rfl⟩ := List.mem_map.mp hmem
    exact id_mem_of_overridden hstate

lemma mem_sortedRules {rules : List String} : r ∈ sortedRules rules ↔ r ∈ rules := by
  rw [sortedRules, List.mem_insertionSort, List.mem_dedup]

lemma exists_of_mem_overriddenAt (h : r ∈ overriddenAt e) :
    ∃ a, find e.active .override = some a ∧ r ∈ a.rules := by
  unfold overriddenAt at h
  cases hfind : find e.active .override with
  | none =>
    rw [hfind] at h
    cases h
  | some a =>
    rw [hfind] at h
    exact ⟨a, rfl, h⟩

lemma find_of_activeAt {now : ℚ} {k : Kind} {a : Active}
    (h : activeAt e now k = some a) : find e.active k = some a :=
  (Option.filter_eq_some_iff.mp h).1

/-- A permitted launch tells of its overrides exactly if they last to its record. -/
theorem tells_iff (hclock : Monotone w.clock) {operator : String} {e e' : Engine} {d : Decision}
    (h : outcome (authorizeRaw c fleet w operator) e = (.ok d, e'))
    (hpermitted : d.permitted = true) :
    Tells c fleet w e d e' ↔ LastsToRecord c fleet w e := by
  obtain ⟨e₁, e₂, hlaunched⟩ := launched_of_permitted h hpermitted
  obtain ⟨hjudged, hlapse, hreads, hfresh, hbefore, hrules, ⟨entry, htrail, hevent, hnamed⟩,
    hactive⟩ := hlaunched
  have hgates := Lapse.swept hclock hjudged.lapse hjudged.reads hjudged.fresh
  have hrecord := Lapse.swept hclock (hjudged.lapse.trans hlapse) hreads hfresh
  constructor
  · intro htells a report g ha hreport hg
    have hsame : judge c (overriddenAt e₁) (find e₁.active .latch) (w.clock (e.reads + 2)) fleet =
        .ok report := by
      rw [overriddenAt, hgates, hgates, ha]
      exact hreport
    obtain rfl : d.report = report := Except.ok.inj (hjudged.report.symm.trans hsame)
    obtain ⟨a', ha', -, hfind, -⟩ := htells.consumed g hg
    obtain rfl := Option.some.inj (ha.symm.trans ha')
    rw [hbefore] at hfind
    exact hfresh.active .override a hfind
  · intro hlasts
    have hused : ∀ g, Overrides d.report g → ∃ a,
        activeAt e (w.clock (e.reads + 1)) .override = some a ∧ g.rule.id ∈ a.rules ∧
          find e₂.active .override = some a := by
      intro g hg
      obtain ⟨a, hfind, hmem⟩ := exists_of_mem_overriddenAt (hg.id_mem hjudged.report)
      have ha : activeAt e (w.clock (e.reads + 1)) .override = some a :=
        (hgates .override).symm.trans hfind
      have hreport : judge c a.rules (activeAt e (w.clock (e.reads + 1)) .latch)
          (w.clock (e.reads + 2)) fleet = .ok d.report := by
        have hjudge := hjudged.report
        rw [overriddenAt, hfind, hgates] at hjudge
        exact hjudge
      refine ⟨a, ha, hmem, (hrecord .override).trans ?_⟩
      exact activeAt_live (find_of_activeAt ha) (hlasts a d.report g ha hreport hg)
    have hread : ∀ g, Overrides d.report g → g.rule.id ∈ overriddenAt e₂ := by
      intro g hg
      obtain ⟨a, -, hmem, hfind⟩ := hused g hg
      rw [overriddenAt, hfind]
      exact hmem
    refine ⟨fun g hg => hrules ▸ hread g hg, ⟨entry, ?_, hevent, fun g hg => ?_⟩, fun g hg => ?_⟩
    · rw [htrail]
      exact List.getLast?_concat
    · rw [hnamed]
      exact mem_sortedRules.mpr (hread g hg)
    · obtain ⟨a, ha, hmem, hfind⟩ := hused g hg
      refine ⟨a, ha, hmem, hbefore ▸ hfind, ?_⟩
      rw [hactive]
      exact find_remove_self _ _

/-! ## An override at its end -/

/-- A bench where a drone without a ready estimator may be launched on an override. -/
def bench : EngineConfig where
  profile := .engineering
  batteryCells := 4
  hashes := ⟨fun _ => "ab", fun _ => "cd"⟩
  confirmWindowS := 30
  holdS := 120

def unready : RawFleet where
  telemetry := [(0, { parked with healthArmable := false })]
  expectedDrones := 1
  trajectory := none
  geofenceRadiusM := 100

/-- The override was confirmed at 0 and holds until 120. -/
def overriding : Engine where
  active := [(.override, ⟨"pilot", 0, 120, [RuleId.ekfHealth.id], "estimator on the bench"⟩)]

/-- A clock that is at `late` from its sixth reading on. -/
def turning (late : ℚ) : World where
  clock n := if n < 5 then 119 else late
  token _ := ""
  auditFails _ := false

lemma turning_monotone {late : ℚ} (h : 119 ≤ late) : Monotone (turning late).clock := by
  intro m n hmn
  simp only [turning]
  split
  · split
    · exact le_rfl
    · exact h
  · split
    next hm hn => exact absurd (hmn.trans_lt hn) hm
    · exact le_rfl

/-- The launch is permitted over an overridden gate, which the decision names or not. -/
def launchShows (w : World) (named : Bool) : Bool :=
  match outcome (authorizeRaw bench unready w "pilot") overriding with
  | (.ok d, _) => d.permitted &&
      (Report.gates d.report).any (fun g => g.state = .overridden ∧ g.rule = .ekfHealth) &&
      (RuleId.ekfHealth.id ∈ d.overriddenRules : Bool) == named
  | (.error _, _) => false

theorem tells_in_time : ∃ d e',
    outcome (authorizeRaw bench unready (turning 120) "pilot") overriding =
    (.ok d, e') ∧ d.permitted = true ∧ Tells bench unready (turning 120) overriding d e' := by
  have hshown : launchShows (turning 120) true = true := by decide +kernel
  unfold launchShows at hshown
  split at hshown
  next d e' h =>
    simp only [Bool.and_eq_true] at hshown
    refine ⟨d, e', h, hshown.1.1, (tells_iff (turning_monotone (by norm_num)) h hshown.1.1).mpr ?_⟩
    intro a report g ha _ _
    obtain rfl := Option.some.inj (ha.symm.trans (activeAt_live rfl (by decide +kernel)))
    decide +kernel
  next => cases hshown

/-- A second later the drone is launched on the override, and the record names none. -/
theorem override_untold : ∃ d e', outcome (authorizeRaw bench unready (turning 121) "pilot")
    overriding = (.ok d, e') ∧ d.permitted = true ∧
      ¬ Tells bench unready (turning 121) overriding d e' := by
  have hshown : launchShows (turning 121) false = true := by decide +kernel
  unfold launchShows at hshown
  split at hshown
  next d e' h =>
    simp only [Bool.and_eq_true, List.any_eq_true, decide_eq_true_eq, beq_iff_eq,
      decide_eq_false_iff_not] at hshown
    obtain ⟨⟨hpermitted, g, hmem, hstate, hrule⟩, hunnamed⟩ := hshown
    refine ⟨d, e', h, hpermitted, fun htells => hunnamed ?_⟩
    rw [← hrule]
    exact htells.decision g ⟨hmem, hstate⟩
  next => cases hshown

end Taramandal.Gcs.LaunchRecord
