import Taramandal.Gcs.RawPreflight

/-! # Whether the pre-arm check fails closed

A rule measures a quantity of a drone; the check fails closed if a permitted launch has
every quantity of a blocking rule known and in bounds. It does where no drone it clears
is one of the few readings that pass without being a measurement (`Misread`). -/
namespace Taramandal.Gcs.RawPreflight

open Lib.Check Lib.Dict Lib.Hoare Core.Numbers Core.Floats Core.Safety Core.Shows
open Core.Validate Gcs.Preflight Gcs.Confirmations Gcs.TwoStep

section

variable (c : EngineConfig) (latch : Option Active) (now : ℚ) (fleet : RawFleet)

/-- The voltages of the cells, where the drone reports them. -/
def RawTelemetry.reported (r : RawTelemetry) : List (Option (Double ℚ)) :=
  r.batteryCellVoltages.getD []

/-- The drones besides `d` whose link is up. -/
def others (d : Nat) : List (Nat × RawTelemetry) :=
  fleet.telemetry.filter fun e => e.2.connected && e.1 ≠ d

/-- `min_separation_m`. -/
abbrev limit : ℚ := (defaultLimits : SafetyLimits ℚ).minSeparationM

/-- What the rule measures of a drone is known, and within its bounds. -/
def Measures (d : Nat) (r : RawTelemetry) : RuleId → Prop
  | .operatorLatch => latch.isSome = true
  | .fleetComplete => 0 < fleet.expectedDrones ∧ fleet.expectedDrones ≤ connectedCount fleet
  | .connected => r.connected = true
  | .commLatency =>
    ∃ x, r.commLatencyMs = some (.finite x) ∧ 0 ≤ x ∧ x < c.policy.maxLatencyMs
  | .heartbeat => ∃ since, r.linkStableSince = some since ∧
      ∃ stable, (Double.finite now).sub since = .finite stable ∧ c.policy.heartbeatWindowS ≤ stable
  | .gnssFix => ∃ fixType, r.gpsFixType = some fixType ∧
      c.policy.minFixType ≤ gnssFixLevel (afterLastDot fixType)
  | .batterySoc => ∃ x, r.batteryPercent = some (.finite x) ∧ c.policy.minBatteryPct ≤ x
  | .batteryCellVoltage =>
    (∀ cell ∈ r.reported, ∃ x, cell = some (.finite x) ∧ c.policy.minCellVoltageV ≤ x) ∧
      (r.reported = [] → ∃ v, r.batteryVoltage = some (.finite v) ∧
        c.policy.minCellVoltageV ≤ v / c.batteryCells)
  | .batteryCellBalance => r.reported ≠ [] ∧ ∀ cell ∈ r.reported, ∀ cell' ∈ r.reported,
      ∃ x y, cell = some (.finite x) ∧ cell' = some (.finite y) ∧
        (x - y) * 1000 < c.policy.maxCellDeltaMv
  | .ekfHealth => r.healthArmable = true ∧ r.healthHomeOk = true
  | .trajectoryHash => ∃ s waypoints, fleet.trajectory = some s ∧
      find s.drones d = some waypoints ∧ waypoints ≠ [] ∧
        (r.missionHash = some (c.hashes.trajectory waypoints) ∨
          r.missionHash = none ∧ c.policy.requireOnboardMissionHash = false)
  | .padClearance =>
    (∃ x y, r.localX.number = some x ∧ r.localY.number = some y ∧
      Core.Shows.hypot x y ≤ fleet.geofenceRadiusM) ∧
      ∀ e ∈ others fleet d, ∃ own pos, r.position = some own ∧ e.2.position = some pos ∧
        limit * limit ≤ distSq own pos

/-- There is no number to compare, and the comparison does not say so. -/
def Field.Unread : Field → Prop
  | .missing => True
  | .value .nan => True
  | _ => False

/-- The readings that a rule lets pass and that are no measurement: an infinity where
enough is asked for, a NaN where too much is, or behind the first cell, and a position
that is missing. -/
def Misread (d : Nat) (r : RawTelemetry) : RuleId → Prop
  | .heartbeat => r.linkStableSince = some (.inf true) ∨
      ∃ since, r.linkStableSince = some (.finite since) ∧ overflowFrom ≤ now - since
  | .batterySoc => r.batteryPercent = some (.inf false)
  | .batteryCellVoltage => some .nan ∈ r.reported ∨ some (.inf false) ∈ r.reported ∨
      r.reported = [] ∧ r.batteryVoltage = some (.inf false)
  | .batteryCellBalance => some .nan ∈ r.reported
  | .padClearance => r.localX.Unread ∨ r.localY.Unread ∨
      ∃ e ∈ others fleet d, r.position = none ∨ e.2.position = none
  | _ => False

end

section Rules

variable {c : EngineConfig} {now : ℚ} {fleet : RawFleet} {d : Nat} {r : RawTelemetry}

lemma latency_measures (h : (latencyCheck c.policy r).2.1 = true) (latch : Option Active) :
    Measures c latch now fleet d r .commLatency := by
  unfold latencyCheck at h
  split at h
  next latency _ hlatency =>
    split at h
    next => cases h
    next hneg =>
      cases latency with
      | nan => cases h
      | inf negative => cases negative <;> simp_all [Double.lt]
      | finite x =>
        simp only [Double.lt, decide_eq_true_eq] at h hneg
        exact ⟨x, hlatency, not_lt.mp hneg, h⟩
  next => cases h

lemma heartbeat_measures_iff (hblock : 0 < c.policy.heartbeatWindowS)
    (h : (heartbeatCheck c.policy r now).2.1 = true) (latch : Option Active) :
    Measures c latch now fleet d r .heartbeat ↔ ¬ Misread now fleet d r .heartbeat := by
  simp only [heartbeatCheck, stableS] at h
  split at h
  next since _ hsince =>
    simp only [Measures, Misread, hsince, Option.some.injEq, exists_eq_left']
    cases since with
    | nan => simp [Double.sub, Double.le] at h
    | inf negative =>
      cases negative with
      | false => simp [Double.sub, Double.le] at h
      | true => simp [Double.sub]
    | finite s =>
      simp only [Double.sub, Double.rounded, reduceCtorEq, false_or, Double.finite.injEq,
        exists_eq_left', not_le] at h ⊢
      split at h
      next hover =>
        rw [if_pos hover]
        have hpos : 0 ≤ now - s := by
          by_contra hneg
          simp [Double.le, not_le.mp hneg] at h
        rw [abs_of_nonneg hpos] at hover
        simpa using hover
      next hfits =>
        rw [if_neg hfits]
        simp only [Double.le, decide_eq_true_eq] at h
        have hlt := lt_of_le_of_lt (le_abs_self _) (not_le.mp hfits)
        exact ⟨fun _ => hlt, fun _ => ⟨_, rfl, h⟩⟩
  next =>
    simp only [Double.le, decide_eq_true_eq] at h
    exact absurd h (not_le.mpr hblock)

lemma soc_measures_iff (hblock : 0 < c.policy.minBatteryPct)
    (h : (socCheck c.policy r).2.1 = true) (latch : Option Active) :
    Measures c latch now fleet d r .batterySoc ↔ ¬ Misread now fleet d r .batterySoc := by
  simp only [socCheck, orZero, Bool.and_eq_true] at h
  simp only [Measures, Misread]
  cases hsoc : r.batteryPercent with
  | none =>
    simp only [hsoc, Option.getD_none, Double.le, decide_eq_true_eq] at h
    exact absurd h.2 (not_le.mpr hblock)
  | some soc =>
    rw [hsoc] at h
    cases soc with
    | nan => cases h.2
    | inf negative => cases negative <;> simp_all [Double.le]
    | finite x =>
      simp only [Option.getD_some, Double.le, decide_eq_true_eq] at h
      simpa using h.2

variable {cells : List (Double ℚ)}

lemma eq_map_of_mapM {l : List (Option (Double ℚ))} (h : l.mapM id = some cells) :
    l = cells.map some := by
  induction l generalizing cells with
  | nil => cases h; rfl
  | cons x l ih =>
    simp only [List.mapM_cons, id, Option.bind_eq_bind, Option.bind_eq_some_iff, Option.pure_def,
      Option.some.injEq] at h
    obtain ⟨v, rfl, vs, hvs, rfl⟩ := h
    rw [List.map_cons, ← ih hvs]

lemma reported_eq (h : r.cells = .ok cells) : r.reported = cells.map some := by
  unfold RawTelemetry.cells at h
  split at h
  next hcells => cases h; exact eq_map_of_mapM hcells
  next => cases h

variable {x : Double ℚ}

lemma exists_finite_of_le {bound : ℚ} (h : (Double.finite bound).le x = true)
    (hinf : x ≠ .inf false) : ∃ v, x = .finite v ∧ bound ≤ v := by
  cases x with
  | nan => cases h
  | inf negative => cases negative <;> simp_all [Double.le]
  | finite v => exact ⟨v, rfl, by simpa [Double.le] using h⟩

lemma voltage_measures_iff (hblock : 0 < c.policy.minCellVoltageV) (hcells : r.cells = .ok cells)
    (h : (cellVoltageCheck c.policy c.batteryCells r cells).2.1 = true) (latch : Option Active) :
    Measures c latch now fleet d r .batteryCellVoltage ↔
      ¬ Misread now fleet d r .batteryCellVoltage := by
  simp only [Measures, Misread, reported_eq hcells, not_or]
  cases cells with
  | nil =>
    simp only [cellVoltageCheck, orZero, Bool.and_eq_true] at h
    cases hpack : r.batteryVoltage with
    | none =>
      simp only [hpack, Option.getD_none, Double.divBy, zero_div, Double.le, decide_eq_true_eq] at h
      exact absurd h.2 (not_le.mpr hblock)
    | some pack =>
      rw [hpack, Option.getD_some] at h
      cases pack with
      | nan => cases h.2
      | inf negative => cases negative <;> simp_all [Double.divBy, Double.le]
      | finite v => simpa [Double.divBy, Double.le] using h.2
  | cons x xs =>
    simp only [cellVoltageCheck, Bool.and_eq_true, Double.le_minimum_iff] at h
    obtain ⟨-, hx, hxs⟩ := h
    have hall : ∀ y ∈ x :: xs, y = .nan ∨ (Double.finite c.policy.minCellVoltageV).le y = true := by
      intro y hy
      rcases List.mem_cons.mp hy with rfl | hy
      · exact .inr hx
      · exact hxs y hy
    constructor
    · rintro ⟨hfinite, -⟩
      refine ⟨fun hnan => ?_, fun hinf => ?_, by simp⟩
      · obtain ⟨v, hv, -⟩ := hfinite _ hnan
        cases hv
      · obtain ⟨v, hv, -⟩ := hfinite _ hinf
        cases hv
    · rintro ⟨hnan, hinf, -⟩
      refine ⟨fun cell hcell => ?_, by simp⟩
      obtain ⟨y, hy, rfl⟩ := List.mem_map.mp hcell
      have hle := (hall y hy).resolve_left fun hyn => hnan (hyn ▸ hcell)
      obtain ⟨v, rfl, hv⟩ := exists_finite_of_le hle fun hyi => hinf (hyi ▸ hcell)
      exact ⟨v, rfl, hv⟩

lemma exists_finite_between {lowest highest : ℚ} (hlow : (Double.finite lowest).le x = true)
    (hhigh : x.le (.finite highest) = true) :
    ∃ v, x = .finite v ∧ lowest ≤ v ∧ v ≤ highest := by
  cases x with
  | nan => cases hlow
  | inf negative => cases negative <;> simp_all [Double.le]
  | finite v => exact ⟨v, rfl, by simpa [Double.le] using hlow, by simpa [Double.le] using hhigh⟩

lemma finite_of_spread {lowest highest : Double ℚ} {limit : ℚ} (hle : lowest.le highest = true)
    (h : ((highest.sub lowest).scale 1000).lt (.finite limit) = true) :
    ∃ u v, lowest = .finite u ∧ highest = .finite v ∧ (v - u) * 1000 < limit := by
  have hrounded : ∀ x : ℚ, 0 ≤ x → (Double.rounded x).lt (.finite limit) = true → x < limit := by
    intro x hx hlt
    unfold Double.rounded at hlt
    split at hlt
    next => simp [Double.lt, not_lt.mpr hx] at hlt
    next => simpa [Double.lt] using hlt
  cases lowest with
  | nan => cases highest <;> cases hle
  | inf a =>
    cases highest with
    | nan => cases hle
    | inf b => cases a <;> cases b <;> simp_all [Double.sub, Double.scale, Double.lt, Double.le]
    | finite v => simp_all [Double.sub, Double.scale, Double.lt, Double.le]
  | finite u =>
    cases highest with
    | nan => cases hle
    | inf b => simp_all [Double.sub, Double.scale, Double.lt, Double.le]
    | finite v =>
      simp only [Double.le, decide_eq_true_eq] at hle
      have hpos : 0 ≤ v - u := sub_nonneg.mpr hle
      simp only [Double.sub] at h
      unfold Double.rounded at h
      split at h
      next => simp [Double.scale, Double.lt, not_lt.mpr hpos] at h
      next => exact ⟨u, v, rfl, rfl, hrounded _ (by positivity) h⟩

/-- `min` and `max` of what has a number in front. -/
lemma le_of_minimum {xs : List (Double ℚ)} (h : Double.minimum x xs ≠ .nan) :
    ∀ y ∈ x :: xs, y = .nan ∨ (Double.minimum x xs).le y = true := by
  obtain ⟨hx, hxs⟩ := (Double.le_minimum_iff _ x xs).mp (Double.le_refl h)
  exact List.forall_mem_cons.mpr ⟨.inr hx, hxs⟩

lemma le_of_maximum {xs : List (Double ℚ)} (h : Double.maximum x xs ≠ .nan) :
    ∀ y ∈ x :: xs, y = .nan ∨ y.le (Double.maximum x xs) = true := by
  obtain ⟨hx, hxs⟩ := (Double.maximum_le_iff _ x xs).mp (Double.le_refl h)
  exact List.forall_mem_cons.mpr ⟨.inr hx, hxs⟩

lemma balance_measures_iff (hcells : r.cells = .ok cells)
    (h : (cellBalanceCheck c.policy r cells).2.1 = true) (latch : Option Active) :
    Measures c latch now fleet d r .batteryCellBalance ↔
      ¬ Misread now fleet d r .batteryCellBalance := by
  simp only [Measures, Misread, reported_eq hcells]
  cases cells with
  | nil => cases h
  | cons x xs =>
    simp only [cellBalanceCheck, Bool.and_eq_true] at h
    have hmin : Double.minimum x xs ≠ .nan := by
      intro hnan
      rw [hnan] at h
      cases hmax : Double.maximum x xs <;> simp [hmax, Double.sub, Double.scale, Double.lt] at h
    have hmax : Double.maximum x xs ≠ .nan := by
      intro hnan
      rw [hnan] at h
      simp [Double.sub, Double.scale, Double.lt] at h
    have hle : (Double.minimum x xs).le (Double.maximum x xs) = true :=
      Double.le_trans ((Double.le_minimum_iff _ x xs).mp (Double.le_refl hmin)).1
        ((Double.maximum_le_iff _ x xs).mp (Double.le_refl hmax)).1
    obtain ⟨u, v, hu, hv, hspread⟩ := finite_of_spread hle h.2
    have hnumber : ∀ y ∈ x :: xs, y ≠ .nan → ∃ w, y = .finite w ∧ u ≤ w ∧ w ≤ v := by
      intro y hy hnan
      have hlow := (le_of_minimum hmin y hy).resolve_left hnan
      have hhigh := (le_of_maximum hmax y hy).resolve_left hnan
      exact exists_finite_between (hu ▸ hlow) (hv ▸ hhigh)
    constructor
    · rintro ⟨-, hall⟩ hnan
      obtain ⟨w, w', hw, -⟩ := hall _ hnan _ hnan
      cases hw
    · intro hnan
      refine ⟨by simp, fun cell hcell cell' hcell' => ?_⟩
      obtain ⟨y, hy, rfl⟩ := List.mem_map.mp hcell
      obtain ⟨y', hy', rfl⟩ := List.mem_map.mp hcell'
      obtain ⟨w, rfl, -, hwv⟩ := hnumber y hy fun he => hnan (he ▸ hcell)
      obtain ⟨w', rfl, huw', -⟩ := hnumber y' hy' fun he => hnan (he ▸ hcell')
      exact ⟨w, w', rfl, rfl, by linarith⟩

/-! ## The pad -/

variable {f : Field} {q own pos : Point ℚ} {radius : ℚ} {r' : RawTelemetry} {checks : List Check}

lemma number_eq_some {x : ℚ} : f.number = some x ↔ f = .value (.finite x) := by
  cases f with
  | missing => simp [Field.number]
  | null => simp [Field.number]
  | value v => cases v <;> simp [Field.number, Double.value]

lemma position_eq_some : r.position = some q ↔ r.fleetX = .value (.finite q.1) ∧
    r.fleetY = .value (.finite q.2.1) ∧ r.fleetZ = .value (.finite q.2.2) := by
  obtain ⟨x, y, z⟩ := q
  simp only [← number_eq_some, RawTelemetry.position]
  split
  next h₁ h₂ h₃ => simp [h₁, h₂, h₃]
  next hnone =>
    simp only [reduceCtorEq, false_iff, not_and]
    intro h₁ h₂ h₃
    exact hnone _ _ _ h₁ h₂ h₃

lemma find_positions (hfind : find fleet.telemetry d = some r) (hconnected : r.connected = true) :
    find (positions fleet) d = some r.read := by
  unfold positions
  generalize fleet.telemetry = telemetry at hfind
  induction telemetry with
  | nil => cases hfind
  | cons e rest ih =>
    obtain ⟨d', r'⟩ := e
    simp only [find] at hfind
    split at hfind
    next hd =>
      cases hfind
      simp [hconnected, find, hd]
    next hd =>
      rw [List.filter_cons]
      split
      next => simpa [find, hd] using ih hfind
      next => exact ih hfind

lemma positions_others : (positions fleet).filter (fun e => e.1 ≠ d) =
    (others fleet d).map fun e => (e.1, e.2.read) := by
  simp only [positions, others, List.filter_map, List.filter_filter]
  congr 2
  funext e
  simp [Function.comp, Bool.and_comm]

lemma passes_pad {positions : Dict Nat RawPoint} {pad : Bool × String}
    (h : checkPad d r radius positions = .ok pad) (hpass : pad.1 = true) :
    r.connected = true ∧ (∃ x y, r.localX.getD = some x ∧ r.localY.getD = some y ∧
      (Double.norm [x, y]).exceeds radius = false) ∧
        ∃ distances, (positions.filter fun e => e.1 ≠ d).mapM
            (fun e => dist ((find positions d).getD (none, none, none)) e.2) = .ok distances ∧
          (nearestOf distances).lt (.finite limit) = false := by
  unfold checkPad at h
  split at h
  next => cases h; cases hpass
  next hconnected =>
    obtain ⟨fromHome, hhome, h⟩ := bind_eq_ok.mp h
    split at h
    next => cases h; cases hpass
    next hinside =>
      obtain ⟨distances, hdistances, h⟩ := bind_eq_ok.mp h
      dsimp only at h
      split at h
      next => cases h; cases hpass
      next hclear =>
        refine ⟨by simpa using hconnected, ?_, distances, hdistances, by simpa using hclear⟩
        unfold hypot at hhome
        split at hhome
        next x y hx hy => cases hhome; exact ⟨x, y, hx, hy, by simpa using hinside⟩
        next => cases hhome

def differences (p q : Point ℚ) : List ℚ := [p.1 - q.1, p.2.1 - q.2.1, p.2.2 - q.2.2]

lemma dist_eq (hown : r.position = some own) (hpos : r'.position = some pos) :
    dist r.read r'.read = .ok (.norm ((differences own pos).map .rounded)) := by
  obtain ⟨hx, hy, hz⟩ := position_eq_some.mp hown
  obtain ⟨hx', hy', hz'⟩ := position_eq_some.mp hpos
  simp [dist, RawTelemetry.read, hx, hy, hz, hx', hy', hz', Field.getD, Double.sub, differences]

lemma sum_differences (p q : Point ℚ) :
    ((differences p q).map fun x => x * x).sum = distSq p q := by
  simp [differences, distSq, add_assoc]

lemma mul_self_le_distSq {p : Point ℚ} {v : ℚ} (hv : v ∈ differences p q) : v * v ≤ distSq p q := by
  simp only [differences, List.mem_cons, List.not_mem_nil, or_false] at hv
  unfold distSq
  have h₁ := mul_self_nonneg (p.1 - q.1)
  have h₂ := mul_self_nonneg (p.2.1 - q.2.1)
  have h₃ := mul_self_nonneg (p.2.2 - q.2.2)
  rcases hv with rfl | rfl | rfl <;> linarith

lemma limit_le_overflowFrom : limit ≤ overflowFrom := by
  decide +kernel

lemma apart_of_dist (hown : r.position = some own)
    (hpos : r'.position = some pos) (hx : dist r.read r'.read = .ok x) :
    x ≠ .nan ∧ ((Double.finite limit).le x = true → limit * limit ≤ distSq own pos) := by
  rw [dist_eq hown hpos] at hx
  cases hx
  have hnonneg : (0 : ℚ) ≤ limit := by norm_num [limit, defaultLimits]
  have hsqrt : limit ≤ sqrt (distSq own pos) → limit * limit ≤ distSq own pos :=
    sq_le_of_le_sqrt hnonneg
      ((mul_self_nonneg _).trans (mul_self_le_distSq (List.mem_cons_self ..)))
  by_cases hfits : ∀ v ∈ differences own pos, ¬ overflowFrom ≤ |v|
  · have hmap : (differences own pos).map Double.rounded = (differences own pos).map .finite :=
      List.map_congr_left fun v hv => if_neg (hfits v hv)
    rw [hmap, Double.norm_of_finite, sum_differences]
    split
    next hover => exact ⟨by simp, fun _ => hsqrt (limit_le_overflowFrom.trans hover)⟩
    next => exact ⟨by simp, fun hle => hsqrt (by simpa [Double.le] using hle)⟩
  · push Not at hfits
    obtain ⟨v, hv, hover⟩ := hfits
    have hmem : Double.inf (v < 0) ∈ (differences own pos).map Double.rounded :=
      List.mem_map.mpr ⟨v, hv, if_pos hover⟩
    rw [Double.norm_of_inf hmem]
    refine ⟨by simp, fun _ => ?_⟩
    calc limit * limit ≤ |v| * |v| :=
          mul_self_le_mul_self hnonneg (limit_le_overflowFrom.trans hover)
      _ = v * v := abs_mul_abs_self v
      _ ≤ distSq own pos := mul_self_le_distSq hv

lemma exists_number (hx : f.getD = some x) (hread : ¬ f.Unread)
    (hinf : ∀ a, x ≠ .inf a) : ∃ v, x = .finite v ∧ f.number = some v := by
  cases f with
  | missing => exact absurd trivial hread
  | null => cases hx
  | value y =>
    cases hx
    cases x with
    | nan => exact absurd trivial hread
    | inf a => exact absurd rfl (hinf a)
    | finite v => exact ⟨v, rfl, rfl⟩

lemma inside_measures_iff {y : Double ℚ} (hx : r.localX.getD = some x)
    (hy : r.localY.getD = some y) (hinside : (Double.norm [x, y]).exceeds radius = false) :
    (∃ u v, r.localX.number = some u ∧ r.localY.number = some v ∧
      Core.Shows.hypot u v ≤ radius) ↔ ¬ r.localX.Unread ∧ ¬ r.localY.Unread := by
  constructor
  · rintro ⟨u, v, hu, hv, -⟩
    simp [number_eq_some.mp hu, number_eq_some.mp hv, Field.Unread]
  · rintro ⟨hreadX, hreadY⟩
    have hinf : ∀ a, Double.inf a ∉ [x, y] := by
      intro a ha
      rw [Double.norm_of_inf ha] at hinside
      cases hinside
    obtain ⟨u, rfl, hu⟩ := exists_number hx hreadX fun a ha => hinf a (by simp [ha])
    obtain ⟨v, rfl, hv⟩ := exists_number hy hreadY fun a ha => hinf a (by simp [ha])
    refine ⟨u, v, hu, hv, ?_⟩
    have hnorm := Double.norm_of_finite [u, v]
    simp only [List.map_cons, List.map_nil] at hnorm
    rw [hnorm] at hinside
    split at hinside
    next => cases hinside
    next => simpa [Double.exceeds, Core.Shows.hypot] using hinside

/-- Where the nearest is not below the limit none is, if all distances are numbers. -/
lemma far_of_nearest {es : List (Nat × RawTelemetry)} {distances : List (Double ℚ)}
    (h : List.Forall₂ (fun e x => dist r.read e.2.read = .ok x) es distances)
    (hnumber : ∀ e ∈ es, ∀ x, dist r.read e.2.read = .ok x → x ≠ .nan)
    (hclear : (nearestOf distances).lt (.finite limit) = false) :
    ∀ e ∈ es, ∃ x, dist r.read e.2.read = .ok x ∧ (Double.finite limit).le x = true := by
  intro e he
  obtain ⟨x, hmem, hx⟩ := exists_of_mapM (mapM_eq_ok.mpr h) he
  refine ⟨x, hx, ?_⟩
  cases h with
  | nil => cases he
  | @cons e' x' es xs hx' _ =>
    -- the first distance is a number, and so the least of them is
    have hfirst := hnumber e' (List.mem_cons_self ..) x' hx'
    have hle : (Double.finite limit).le (Double.minimum x' xs) = true :=
      Double.le_of_not_lt hclear nofun (Double.minimum_ne_nan hfirst xs)
    obtain ⟨hhead, hrest⟩ := (Double.le_minimum_iff _ x' xs).mp hle
    rcases List.mem_cons.mp hmem with rfl | hmem
    · exact hhead
    · exact (hrest x hmem).resolve_left (hnumber e he x hx)

lemma pad_measures_iff {pad : Bool × String} (hfind : find fleet.telemetry d = some r)
    (h : checkPad d r fleet.geofenceRadiusM (positions fleet) = .ok pad) (hpass : pad.1 = true)
    (latch : Option Active) :
    Measures c latch now fleet d r .padClearance ↔ ¬ Misread now fleet d r .padClearance := by
  obtain ⟨hconnected, ⟨x, y, hx, hy, hinside⟩, distances, hdistances, hclear⟩ := passes_pad h hpass
  rw [positions_others, find_positions hfind hconnected, Option.getD_some] at hdistances
  simp only [Measures, Misread, not_or, not_exists, not_and, inside_measures_iff hx hy hinside,
    and_assoc]
  refine and_congr_right fun _ => and_congr_right fun _ => ?_
  constructor
  · intro hknown e he
    obtain ⟨own, pos, hown, hpos, -⟩ := hknown e he
    simp [hown, hpos]
  · intro hknown e he
    rw [mapM_eq_ok, List.forall₂_map_left_iff] at hdistances
    have hdist : ∀ e' ∈ others fleet d, ∀ y, dist r.read e'.2.read = .ok y → ∃ own pos,
        r.position = some own ∧ e'.2.position = some pos ∧ y ≠ .nan ∧
          ((Double.finite limit).le y = true → limit * limit ≤ distSq own pos) := by
      intro e' he' y hy
      obtain ⟨own, hown⟩ := Option.ne_none_iff_exists'.mp (hknown e' he').1
      obtain ⟨pos, hpos⟩ := Option.ne_none_iff_exists'.mp (hknown e' he').2
      exact ⟨own, pos, hown, hpos, apart_of_dist hown hpos hy⟩
    have hnumber : ∀ e' ∈ others fleet d, ∀ y, dist r.read e'.2.read = .ok y → y ≠ .nan := by
      intro e' he' y hy
      obtain ⟨_, _, _, _, hnumber, _⟩ := hdist e' he' y hy
      exact hnumber
    obtain ⟨y, hy, hfar⟩ := far_of_nearest hdistances hnumber hclear e he
    obtain ⟨own, pos, hown, hpos, -, hapart⟩ := hdist e he y hy
    exact ⟨own, pos, hown, hpos, hapart hfar⟩

/-! ## Every rule -/

lemma gnss_measures (hblock : 0 < c.policy.minFixType)
    (h : (gnssCheck c.policy r.tel).2.1 = true) (latch : Option Active) :
    Measures c latch now fleet d r .gnssFix := by
  simp only [gnssCheck, Bool.and_eq_true, decide_eq_true_eq] at h
  have hnone : gnssFixLevel (afterLastDot "NO_GPS") = 0 := by decide +kernel
  obtain ⟨-, h⟩ := h
  split at h
  next =>
    rw [hnone] at h
    exact absurd h (not_le.mpr hblock)
  next hne =>
    have htel : r.tel.gpsFixType = r.gpsFixType.getD "" := rfl
    rw [htel] at h hne
    cases hfix : r.gpsFixType with
    | none => simp [hfix] at hne
    | some fixType => exact ⟨fixType, hfix, by simpa [hfix] using h⟩

lemma trajectory_measures (h : (checkTrajectory c.policy c.hashes d
      { tel := r.tel, missionHash := r.missionHash } fleet.trajectory).1 = true)
    (latch : Option Active) : Measures c latch now fleet d r .trajectoryHash := by
  unfold checkTrajectory at h
  split at h
  next => cases h
  next s hs =>
    split at h
    next => cases h
    next waypoints hwaypoints =>
      obtain ⟨hs, -⟩ := Option.filter_eq_some_iff.mp hs
      obtain ⟨hfind, hne⟩ := Option.filter_eq_some_iff.mp hwaypoints
      refine ⟨s, waypoints, hs, hfind, by simpa using hne, ?_⟩
      dsimp only at h
      split at h
      next hmission =>
        split at h
        next => cases h
        next hrequire => exact .inr ⟨hmission, by simpa using hrequire⟩
      next onboard hmission =>
        split at h
        next => cases h
        next heq => exact .inl (by rw [hmission, not_ne_iff.mp heq])

lemma floor_pos (profile : OperationalProfile) :
    0 < (policies profile).heartbeatWindowS ∧ 0 < (policies profile).minCellVoltageV ∧
      ((policies profile).severity .batterySoc = .blocking → 0 < (policies profile).minBatteryPct) ∧
      ((policies profile).severity .gnssFix = .blocking → 0 < (policies profile).minFixType) := by
  cases profile <;> refine ⟨?_, ?_, ?_, ?_⟩ <;> simp [policies]

lemma latencyCheck_rule (p : ProfilePolicy) (r : RawTelemetry) :
    (latencyCheck p r).1 = .commLatency := by
  unfold latencyCheck
  split
  next => split <;> rfl
  next => rfl

lemma cellBalanceCheck_rule (p : ProfilePolicy) (r : RawTelemetry) (cells : List (Double ℚ)) :
    (cellBalanceCheck p r cells).1 = .batteryCellBalance := by
  cases cells <;> rfl

def droneRules : List RuleId :=
  [.connected, .commLatency, .heartbeat, .gnssFix, .batterySoc, .batteryCellVoltage,
    .batteryCellBalance, .ekfHealth, .trajectoryHash, .padClearance]

lemma rules_of_checks (h : checksOf c now fleet d r = .ok checks) :
    checks.map Prod.fst = droneRules := by
  obtain ⟨cells, -, h⟩ := bind_eq_ok.mp h
  obtain ⟨pad, -, h⟩ := bind_eq_ok.mp h
  cases h
  simp [droneRules, latencyCheck_rule, cellBalanceCheck_rule, heartbeatCheck, gnssCheck, socCheck,
    cellVoltageCheck]

lemma measures_iff (hfind : find fleet.telemetry d = some r)
    (hchecks : checksOf c now fleet d r = .ok checks) {check : Check} (hmem : check ∈ checks)
    (hblock : c.policy.severity check.1 = .blocking) (hpass : check.2.1 = true)
    (latch : Option Active) :
    Measures c latch now fleet d r check.1 ↔ ¬ Misread now fleet d r check.1 := by
  obtain ⟨hwindow, hvoltage, hsoc, hfix⟩ := floor_pos c.profile
  obtain ⟨cells, hcells, h⟩ := bind_eq_ok.mp hchecks
  obtain ⟨pad, hpad, h⟩ := bind_eq_ok.mp h
  cases h
  simp only [List.mem_cons, List.not_mem_nil, or_false] at hmem
  rcases hmem with rfl | rfl | rfl | rfl | rfl | rfl | rfl | rfl | rfl | rfl
  · exact iff_of_true hpass not_false
  · rw [latencyCheck_rule]
    exact iff_of_true (latency_measures hpass latch) not_false
  · exact heartbeat_measures_iff hwindow hpass latch
  · exact iff_of_true (gnss_measures (hfix hblock) hpass latch) not_false
  · exact soc_measures_iff (hsoc hblock) hpass latch
  · exact voltage_measures_iff hvoltage hcells hpass latch
  · rw [cellBalanceCheck_rule]
    exact balance_measures_iff hcells hpass latch
  · simp only [Bool.and_eq_true] at hpass
    exact iff_of_true ⟨hpass.1.2, hpass.2⟩ not_false
  · exact iff_of_true (trajectory_measures hpass latch) not_false
  · exact pad_measures_iff hfind hpad hpass latch

end Rules

section

variable (c : EngineConfig) (overridden : List String) (latch : Option Active) (now : ℚ)
  (fleet : RawFleet)

/-- A check that stands in the way of nothing: it passes, or it need not. -/
def Holds (check : Check) : Prop :=
  c.policy.severity check.1 = .blocking → check.1.id ∉ overridden → check.2.1 = true

def Clears (d : Nat) (r : RawTelemetry) : Prop :=
  ∃ checks, checksOf c now fleet d r = .ok checks ∧ ∀ check ∈ checks, Holds c overridden check

/-- No rule refuses the launch: the fleet's own hold, and, where one drone may not be left
out, every drone's. -/
structure LetsThrough : Prop where
  checked : ∀ d r, find fleet.telemetry d = some r → ∃ checks, checksOf c now fleet d r = .ok checks
  latched : Holds c overridden (latchCheck latch now)
  complete : Holds c overridden (completeCheck fleet)
  whole : c.policy.allowPartialFleet = true ∨
    ∀ d r, find fleet.telemetry d = some r → Clears c overridden now fleet d r

/-- A permitted launch has every blocking rule that is not overridden measured of every
drone it launches. -/
def FailsClosed : Prop :=
  ∀ report, judge c overridden latch now fleet = .ok report → report.launchPermitted = true →
    ∀ d ∈ report.launchDroneIds, ∀ rule, c.policy.severity rule = .blocking →
      rule.id ∉ overridden → ∃ r, find fleet.telemetry d = some r ∧
        Measures c latch now fleet d r rule

/-- If the launch goes through, no drone in it is misread. -/
def ReadsAll : Prop :=
  LetsThrough c overridden latch now fleet → ∀ d r, find fleet.telemetry d = some r →
    Clears c overridden now fleet d r → ∀ rule, c.policy.severity rule = .blocking →
      rule.id ∉ overridden → ¬ Misread now fleet d r rule

end

section Judged

variable {c : EngineConfig} {overridden : List String} {latch : Option Active} {now : ℚ}
  {fleet : RawFleet}

lemma gate_ne_fail_iff {check : Check} :
    (gate c.policy overridden check).state ≠ .fail ↔ Holds c overridden check := by
  unfold gate Holds
  cases hs : c.policy.severity check.1 with
  | ignored => simp
  | warning => simp; split <;> simp
  | blocking =>
    by_cases hp : check.2.1 = true
    · simp [hp]
    · by_cases ho : check.1.id ∈ overridden <;> simp [hp, ho]

lemma mem_rows {d : Nat} {r : RawTelemetry} :
    (d, r) ∈ rows fleet ↔ find fleet.telemetry d = some r := by
  unfold rows
  rw [List.mem_filterMap]
  constructor
  · rintro ⟨d', -, h⟩
    obtain ⟨r', hr', he⟩ := Option.map_eq_some_iff.mp h
    cases he
    exact hr'
  · intro h
    refine ⟨d, (List.mem_insertionSort _).mpr ?_, by rw [h]; rfl⟩
    exact List.mem_map.mpr ⟨(d, r), mem_of_find h, rfl⟩

lemma ready_iff {drone : DroneReport} :
    drone.ready = true ↔ ∀ g ∈ drone.gates, g.state ≠ .fail := by
  simp [DroneReport.ready, DroneReport.failed]

lemma ready_iff_clears {d : Nat} {r : RawTelemetry} {drone : DroneReport}
    (h : droneReport c overridden now fleet (d, r) = .ok drone) :
    drone.droneId = d ∧ (drone.ready = true ↔ Clears c overridden now fleet d r) := by
  obtain ⟨checks, hchecks, rfl⟩ := map_eq_ok.mp h
  refine ⟨rfl, ?_⟩
  rw [ready_iff, List.forall_mem_map]
  simp only [gate_ne_fail_iff]
  constructor
  · intro hall
    exact ⟨checks, hchecks, hall⟩
  · rintro ⟨checks', hchecks', hall⟩
    cases hchecks.symm.trans hchecks'
    exact hall

lemma launchPermitted_iff (report : Report) :
    report.launchPermitted = true ↔ report.blockingReasons = [] :=
  decide_eq_true_iff

/-- No reason blocks: the fleet's gates hold, every drone is ready where none may be left
out, and one is. -/
lemma reportOf_permitted_iff {drones : List DroneReport} :
    (reportOf c overridden latch now fleet drones).launchPermitted = true ↔
      (Holds c overridden (latchCheck latch now) ∧ Holds c overridden (completeCheck fleet)) ∧
        (c.policy.allowPartialFleet = true ∨ ∀ drone ∈ drones, drone.ready = true) ∧
          ∃ drone ∈ drones, drone.ready = true := by
  have hgates : (fleetGates c overridden latch now fleet).filter (·.state = .fail) = [] ↔
      Holds c overridden (latchCheck latch now) ∧ Holds c overridden (completeCheck fleet) := by
    simp only [fleetGates, List.filter_eq_nil_iff, List.forall_mem_cons, decide_eq_true_eq,
      List.not_mem_nil, false_implies, implies_true, and_true]
    exact and_congr gate_ne_fail_iff gate_ne_fail_iff
  have hdrones : drones.flatMap (fun d =>
      d.failed.map (Gate.reason ("Drone " ++ toString d.droneId))) = [] ↔
        ∀ drone ∈ drones, drone.ready = true := by
    simp [DroneReport.ready]
  have hsome : (if drones.all (!·.ready) then
      ["No drone passes every blocking pre-arm gate."] else []) = [] ↔
        ∃ drone ∈ drones, drone.ready = true := by
    simp
  have hwhole : (if c.policy.allowPartialFleet then [] else drones.flatMap fun d =>
      d.failed.map (Gate.reason ("Drone " ++ toString d.droneId))) = [] ↔
        c.policy.allowPartialFleet = true ∨ ∀ drone ∈ drones, drone.ready = true := by
    cases c.policy.allowPartialFleet with
    | true => simp
    | false => simpa using hdrones
  rw [launchPermitted_iff]
  simp only [reportOf, List.append_eq_nil_iff, List.map_eq_nil_iff]
  rw [hgates, hsome, hwhole, and_assoc]

/-- What the report says of the launch: it is permitted if no rule refuses it and some
drone is cleared, and the cleared ones are launched. -/
lemma judge_spec {report : Report} (h : judge c overridden latch now fleet = .ok report) :
    (report.launchPermitted = true ↔ LetsThrough c overridden latch now fleet ∧
      ∃ d r, find fleet.telemetry d = some r ∧ Clears c overridden now fleet d r) ∧
    ∀ d, d ∈ report.launchDroneIds ↔ report.launchPermitted = true ∧
      ∃ r, find fleet.telemetry d = some r ∧ Clears c overridden now fleet d r := by
  obtain ⟨drones, hdrones, h⟩ := bind_eq_ok.mp h
  cases h
  have hrow : ∀ d r, find fleet.telemetry d = some r → ∃ drone ∈ drones,
      drone.droneId = d ∧ (drone.ready = true ↔ Clears c overridden now fleet d r) := by
    intro d r hfind
    obtain ⟨drone, hmem, hdrone⟩ := exists_of_mapM hdrones (mem_rows.mpr hfind)
    exact ⟨drone, hmem, ready_iff_clears hdrone⟩
  have hdrone : ∀ drone ∈ drones, ∃ r, find fleet.telemetry drone.droneId = some r ∧
      (drone.ready = true ↔ Clears c overridden now fleet drone.droneId r) := by
    intro drone hmem
    obtain ⟨⟨d, r⟩, hrow, hdrone⟩ := exists_of_mem_mapM hdrones hmem
    obtain ⟨rfl, hready⟩ := ready_iff_clears hdrone
    exact ⟨r, mem_rows.mp hrow, hready⟩
  have hchecked : ∀ d r, find fleet.telemetry d = some r →
      ∃ checks, checksOf c now fleet d r = .ok checks := by
    intro d r hfind
    obtain ⟨drone, -, hdrone⟩ := exists_of_mapM hdrones (mem_rows.mpr hfind)
    obtain ⟨checks, hchecks, -⟩ := map_eq_ok.mp hdrone
    exact ⟨checks, hchecks⟩
  have hready : (∃ drone ∈ drones, drone.ready = true) ↔
      ∃ d r, find fleet.telemetry d = some r ∧ Clears c overridden now fleet d r := by
    constructor
    · rintro ⟨drone, hmem, hready⟩
      obtain ⟨r, hfind, hiff⟩ := hdrone drone hmem
      exact ⟨drone.droneId, r, hfind, hiff.mp hready⟩
    · rintro ⟨d, r, hfind, hclears⟩
      obtain ⟨drone, hmem, -, hiff⟩ := hrow d r hfind
      exact ⟨drone, hmem, hiff.mpr hclears⟩
  have hwhole : (∀ drone ∈ drones, drone.ready = true) ↔
      ∀ d r, find fleet.telemetry d = some r → Clears c overridden now fleet d r := by
    constructor
    · intro hall d r hfind
      obtain ⟨drone, hmem, -, hiff⟩ := hrow d r hfind
      exact hiff.mp (hall drone hmem)
    · intro hall drone hmem
      obtain ⟨r, hfind, hiff⟩ := hdrone drone hmem
      exact hiff.mpr (hall _ r hfind)
  have hpermitted : (reportOf c overridden latch now fleet drones).launchPermitted = true ↔
      LetsThrough c overridden latch now fleet ∧
        ∃ d r, find fleet.telemetry d = some r ∧ Clears c overridden now fleet d r := by
    rw [reportOf_permitted_iff, hready, hwhole]
    constructor
    · rintro ⟨⟨hlatched, hcomplete⟩, hpartial, hsome⟩
      exact ⟨⟨hchecked, hlatched, hcomplete, hpartial⟩, hsome⟩
    · rintro ⟨hlets, hsome⟩
      exact ⟨⟨hlets.latched, hlets.complete⟩, hlets.whole, hsome⟩
  refine ⟨hpermitted, fun d => ?_⟩
  by_cases hp : (reportOf c overridden latch now fleet drones).launchPermitted = true
  · rw [Report.launchDroneIds, if_pos hp, List.mem_map]
    simp only [List.mem_filter, hp, true_and]
    constructor
    · rintro ⟨drone, ⟨hmem, hready⟩, rfl⟩
      obtain ⟨r, hfind, hiff⟩ := hdrone drone hmem
      exact ⟨r, hfind, hiff.mp hready⟩
    · rintro ⟨r, hfind, hclears⟩
      obtain ⟨drone, hmem, hid, hiff⟩ := hrow d r hfind
      exact ⟨drone, ⟨hmem, hiff.mpr hclears⟩, hid⟩
  · rw [Report.launchDroneIds, if_neg hp]
    simp [hp]

variable {rule : RuleId}

lemma measures_of_cleared {d : Nat} {r : RawTelemetry}
    (hfind : find fleet.telemetry d = some r) (hclears : Clears c overridden now fleet d r)
    (hrule : rule ∈ droneRules) (hblock : c.policy.severity rule = .blocking)
    (hnot : rule.id ∉ overridden) :
    Measures c latch now fleet d r rule ↔ ¬ Misread now fleet d r rule := by
  obtain ⟨checks, hchecks, hholds⟩ := hclears
  rw [← rules_of_checks hchecks] at hrule
  obtain ⟨check, hmem, rfl⟩ := List.mem_map.mp hrule
  exact measures_iff hfind hchecks hmem hblock (hholds check hmem hblock hnot) latch

/-- The rules of the fleet are measured wherever the launch goes through, and no drone is
misread for them. -/
lemma measures_of_letsThrough {d : Nat} {r : RawTelemetry}
    (h : LetsThrough c overridden latch now fleet) (hrule : rule ∉ droneRules)
    (hblock : c.policy.severity rule = .blocking) (hnot : rule.id ∉ overridden) :
    Measures c latch now fleet d r rule ↔ ¬ Misread now fleet d r rule := by
  cases rule with
  | operatorLatch => exact iff_of_true (h.latched hblock hnot) not_false
  | fleetComplete =>
    have hcomplete := h.complete hblock hnot
    simp only [completeCheck, Bool.and_eq_true, decide_eq_true_eq] at hcomplete
    exact iff_of_true hcomplete not_false
  | _ => exact absurd (by decide) hrule

lemma judge_of_letsThrough (h : LetsThrough c overridden latch now fleet) :
    ∃ report, judge c overridden latch now fleet = .ok report := by
  have hrows : ∀ e ∈ rows fleet, ∃ drone, droneReport c overridden now fleet e = .ok drone := by
    rintro ⟨d, r⟩ hrow
    obtain ⟨checks, hchecks⟩ := h.checked d r (mem_rows.mp hrow)
    exact ⟨_, map_eq_ok.mpr ⟨checks, hchecks, rfl⟩⟩
  obtain ⟨drones, hdrones⟩ := mapM_isOk hrows
  exact ⟨_, bind_eq_ok.mpr ⟨drones, hdrones, rfl⟩⟩

/-- The check fails closed exactly when it misreads no drone that it launches. -/
theorem failsClosed_iff (c : EngineConfig) (overridden : List String) (latch : Option Active)
    (now : ℚ) (fleet : RawFleet) :
    FailsClosed c overridden latch now fleet ↔ ReadsAll c overridden latch now fleet := by
  constructor
  · intro hclosed hlets d r hfind hclears rule hblock hnot
    obtain ⟨report, hreport⟩ := judge_of_letsThrough hlets
    obtain ⟨hpermitted, hlaunched⟩ := judge_spec hreport
    have hp := hpermitted.mpr ⟨hlets, d, r, hfind, hclears⟩
    obtain ⟨r', hfind', hmeasures⟩ :=
      hclosed report hreport hp d ((hlaunched d).mpr ⟨hp, r, hfind, hclears⟩) rule hblock hnot
    cases hfind.symm.trans hfind'
    by_cases hrule : rule ∈ droneRules
    · exact (measures_of_cleared hfind hclears hrule hblock hnot).mp hmeasures
    · exact (measures_of_letsThrough hlets hrule hblock hnot).mp hmeasures
  · intro hreads report hreport hp d hd rule hblock hnot
    obtain ⟨hpermitted, hlaunched⟩ := judge_spec hreport
    obtain ⟨hlets, -⟩ := hpermitted.mp hp
    obtain ⟨-, r, hfind, hclears⟩ := (hlaunched d).mp hd
    have hread := hreads hlets d r hfind hclears rule hblock hnot
    refine ⟨r, hfind, ?_⟩
    by_cases hrule : rule ∈ droneRules
    · exact (measures_of_cleared hfind hclears hrule hblock hnot).mpr hread
    · exact (measures_of_letsThrough hlets hrule hblock hnot).mpr hread

end Judged

/-- A fleet is judged by what the second sweep of an evaluation left. -/
structure RawJudged (c : EngineConfig) (fleet : RawFleet) (w : World) (e₀ : Engine)
    (report : Report) (e₁ : Engine) : Prop where
  lapse : Lapse w e₀ e₁
  reads : e₁.reads = e₀.reads + 2
  fresh : Fresh (w.clock (e₀.reads + 1)) e₁
  report : judge c (overriddenAt e₁) (find e₁.active .latch) (w.clock (e₀.reads + 2)) fleet =
    .ok report

/-- An evaluation reports what the judge says under the confirmations that its second sweep
left. -/
lemma evaluate_spec (c : EngineConfig) (fleet : RawFleet) (w : World) (e₀ : Engine) :
    Triple (· = e₀) (evaluate c fleet w)
      (fun r e => ∃ e₁, RawJudged c fleet w e₀ r.1 e₁ ∧ Lapse w e₁ e ∧ e.reads = e₀.reads + 5)
      (fun _ _ => True) := by
  refine Triple.bind ((expire_spec e₀).raises fun _ _ _ => trivial) ?_
  intro _ e he
  obtain ⟨hlapse, hreads, -⟩ := he
  refine Triple.bind ((overriddenRules_spec (w := w) (c := c) e).raises fun _ _ _ => trivial) ?_ e rfl
  rintro _ e₁ ⟨hlapse₁, hreads₁, hfresh, rfl⟩
  have hreads' : e₁.reads = e₀.reads + 2 := by omega
  simp only [outcome_bind, outcome_clock, outcome_get]
  rw [hreads']
  cases hjudge : judge c (overriddenAt e₁) (find e₁.active .latch) (w.clock (e₀.reads + 2)) fleet with
  | error raised => exact trivial
  | ok report =>
    have hjudged : RawJudged c fleet w e₀ report e₁ :=
      ⟨hlapse.trans hlapse₁, hreads', hreads ▸ hfresh, hjudge⟩
    have hread : Lapse w e₁ { e₁ with reads := e₀.reads + 2 + 1 } := hreads' ▸ Lapse.read e₁
    have hstate := (confirmationState_spec (w := w) (c := c)
      { e₁ with reads := e₀.reads + 2 + 1 }).raises fun _ _ _ => trivial
    refine hstate.bind (f := fun confirmations => (pure (report, confirmations) : EngineM _))
      (fun _ _ h => ?_) _ rfl
    exact ⟨e₁, hjudged, hread.trans h.1, h.2⟩

def rehearsal : EngineConfig where
  profile := .fieldTest
  batteryCells := 4
  hashes := ⟨fun _ => "ab", fun _ => "cd"⟩
  confirmWindowS := 30
  holdS := 120

def parked : RawTelemetry where
  connected := true
  commLatencyMs := some (.finite 20)
  gpsFixType := some "RTK_FIXED"
  batteryPercent := some (.finite 90)
  healthArmable := true
  healthHomeOk := true
  localX := .value (.finite 0)
  localY := .value (.finite 0)
  fleetX := .value (.finite 0)
  fleetY := .value (.finite 0)
  fleetZ := .value (.finite 0)

/-- Two drones on the field, the second at `NaN`. -/
def nanFleet : RawFleet where
  telemetry := [(0, parked), (1, { parked with fleetX := .value .nan })]
  expectedDrones := 2
  trajectory := some ⟨[(0, [{ time := 0, x := 0, y := 0, z := -2, yaw := 0 }]),
    (1, [{ time := 0, x := 3, y := 0, z := -2, yaw := 0 }])], by decide⟩
  geofenceRadiusM := 100

/-- Both are launched, and nobody knows how far apart they are. -/
theorem nanFleet_permitted : ¬ FailsClosed rehearsal [] none 0 nanFleet := by
  have hsome : (match judge rehearsal [] none 0 nanFleet with
      | .ok report => report.launchPermitted && decide (0 ∈ report.launchDroneIds)
      | .error _ => false) = true := by decide +kernel
  split at hsome
  next report hreport =>
    rw [Bool.and_eq_true, decide_eq_true_eq] at hsome
    intro hclosed
    obtain ⟨r, hfind, -, hothers⟩ := hclosed report hreport hsome.1 0 hsome.2 .padClearance rfl
      (by simp)
    obtain ⟨own, pos, -, hpos, -⟩ := hothers (1, { parked with fleetX := .value .nan })
      (by simp [others, nanFleet, parked])
    cases hpos
  next => cases hsome

end Taramandal.Gcs.RawPreflight
