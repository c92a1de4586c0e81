import Taramandal.Gcs.Geofence
import Taramandal.Gcs.ProximityMonitor

/-! # What ends a safety monitor

`_geofence_monitor_loop` and `_proximity_monitor_loop` guard their cancellation
and nothing else, so whatever a tick raises ends them: a coordinate the spatial
index or the arithmetic refuses, or an RTL that raises. The lifecycle monitor
next to them guards every tick. -/
set_option linter.unusedSectionVars false

namespace Taramandal.Gcs.MonitorLoops

open Lib.Dict Lib.Run Core.Numbers Core.Floats Core.Validate Core.Safety Gcs.Geofence
open Gcs.ProximityMonitor

variable {K : Type} [Field K] [LinearOrder K] [Sqrt K]

/-! ## The geofence loop -/

/-- What the geofence loop reads of a drone's telemetry. -/
structure GeofenceReading (K : Type) where
  connected : Bool
  armed : Bool
  localX : Double K
  localY : Double K
  localZ : Double K

/-- `dist` and `dist3d`. -/
def distances (tel : GeofenceReading K) : Except String (Double K × Double K) := do
  let x ← tel.localX.sq
  let y ← tel.localY.sq
  let z ← tel.localZ.sq
  return ((x.add y).root, ((x.add y).add z).root)

def softWarning (m : GeofenceMonitor K) (droneId : Nat) (dist : Double K) (alreadyWarned : Bool) :
    GeofenceMonitor K :=
  if m.softGeofenceRadius.any dist.exceeds then
    if alreadyWarned then m
    else { m with geofenceWarnings := assign m.geofenceWarnings droneId true }
  else if alreadyWarned then
    { m with geofenceWarnings := assign m.geofenceWarnings droneId false }
  else m

/-- A drone whose RTL is awaited, with what the rest of its check reads. -/
structure Breach (K : Type) where
  droneId : Nat
  dist : Double K
  alreadyWarned : Bool

def FreshBreach (telemetry : Nat → GeofenceReading K) (m : GeofenceMonitor K) (d : Nat) : Prop :=
  (telemetry d).connected = true ∧ (telemetry d).armed = true ∧
    (∃ r, distances (telemetry d) = .ok r ∧ r.1.exceeds m.geofenceRadius = true) ∧
      (find m.geofenceBreaches d).getD false = false

/-- The drones one after the other, up to the next RTL. -/
def scanDrones (telemetry : Nat → GeofenceReading K) :
    GeofenceMonitor K → List Nat → Except String (GeofenceMonitor K × Option (Breach K × List Nat))
  | m, [] => .ok (m, none)
  | m, d :: rest =>
    let tel := telemetry d
    if !tel.connected || !tel.armed then scanDrones telemetry m rest
    else
      match distances tel with
      | .error e => .error e
      | .ok (dist, _) =>
        let alreadyBreached := (find m.geofenceBreaches d).getD false
        let alreadyWarned := (find m.geofenceWarnings d).getD false
        if dist.exceeds m.geofenceRadius then
          if alreadyBreached then scanDrones telemetry (softWarning m d dist alreadyWarned) rest
          else
            .ok ({ m with geofenceBreaches := assign m.geofenceBreaches d true },
              some (⟨d, dist, alreadyWarned⟩, rest))
        else
          let m :=
            if alreadyBreached then { m with geofenceBreaches := assign m.geofenceBreaches d false }
            else m
          scanDrones telemetry (softWarning m d dist alreadyWarned) rest

/-- Where the loop is: before its next tick, in `trigger_rtl` with drones still
to look at, or over. -/
inductive GeofencePc (K : Type) where
  | ready
  | triggering (breach : Breach K) (rest : List Nat)
  | cancelled
  | raised (error : String)

structure GeofenceLoop (K : Type) where
  monitor : GeofenceMonitor K
  pc : GeofencePc K := .ready

/-- A tick over the drones; the end of an RTL, with the error if it raised, what
the station has made of the radii and the flags meanwhile, and the telemetry
then; a change of these between two ticks; and the cancellation of the loop. -/
inductive GeofenceLabel (K : Type) where
  | tick (drones : List Nat) (telemetry : Nat → GeofenceReading K)
  | rtl (error : Option String) (monitor : GeofenceMonitor K) (telemetry : Nat → GeofenceReading K)
  | elsewhere (monitor : GeofenceMonitor K)
  | cancel

def goOn (telemetry : Nat → GeofenceReading K) (m : GeofenceMonitor K) (drones : List Nat) :
    GeofenceLoop K × List Failsafe :=
  match scanDrones telemetry m drones with
  | .error e => ({ monitor := m, pc := .raised e }, [])
  | .ok (m, none) => ({ monitor := m }, [])
  | .ok (m, some (breach, rest)) => ({ monitor := m, pc := .triggering breach rest }, [.rtl])

/-- A step of `_geofence_monitor_loop`. -/
def geofenceStep : System (GeofenceLoop K) (GeofenceLabel K) Failsafe := fun s l =>
  match s.pc, l with
  | .ready, .tick drones telemetry => some (goOn telemetry s.monitor drones)
  | .ready, .elsewhere m => some ({ s with monitor := m }, [])
  | .triggering _ _, .rtl (some e) m _ => some ({ monitor := m, pc := .raised e }, [])
  | .triggering b rest, .rtl none m telemetry =>
    some (goOn telemetry (softWarning m b.droneId b.dist b.alreadyWarned) rest)
  | .ready, .cancel => some ({ s with pc := .cancelled }, [])
  | .triggering _ _, .cancel => some ({ s with pc := .cancelled }, [])
  | _, _ => none

/-! ## What a scan raises -/

def Squarable (tel : GeofenceReading K) : Prop :=
  ∀ x ∈ [tel.localX, tel.localY, tel.localZ], ∀ v, x.value = some v → v * v < overflowFrom

/-- The drones up to the first new breach, if they fly, have coordinates that
can be squared. -/
def InRange (telemetry : Nat → GeofenceReading K) (m : GeofenceMonitor K) : List Nat → Prop
  | [] => True
  | d :: rest =>
    ((telemetry d).connected = true → (telemetry d).armed = true → Squarable (telemetry d)) ∧
      (FreshBreach telemetry m d ∨ InRange telemetry m rest)

lemma distances_isOk_iff (tel : GeofenceReading K) :
    (∃ r, distances tel = .ok r) ↔ Squarable tel := by
  have hsq := fun x : Double K => x.sq_isOk_iff
  simp only [Squarable, List.mem_cons, List.not_mem_nil, or_false, forall_eq_or_imp, forall_eq,
    ← hsq]
  unfold distances
  constructor
  · rintro ⟨r, h⟩
    cases hx : tel.localX.sq with
    | error e => simp [hx, bind, Except.bind] at h
    | ok x =>
      cases hy : tel.localY.sq with
      | error e => simp [hx, hy, bind, Except.bind] at h
      | ok y =>
        cases hz : tel.localZ.sq with
        | error e => simp [hx, hy, hz, bind, Except.bind] at h
        | ok z => exact ⟨⟨x, rfl⟩, ⟨y, rfl⟩, ⟨z, rfl⟩⟩
  · rintro ⟨⟨x, hx⟩, ⟨y, hy⟩, ⟨z, hz⟩⟩
    exact ⟨_, by rw [hx, hy, hz]; rfl⟩

lemma softWarning_hard (m : GeofenceMonitor K) (d : Nat) (dist : Double K) (warned : Bool) :
    (softWarning m d dist warned).geofenceRadius = m.geofenceRadius ∧
      (softWarning m d dist warned).geofenceBreaches = m.geofenceBreaches := by
  unfold softWarning
  split
  · split
    · exact ⟨rfl, rfl⟩
    · exact ⟨rfl, rfl⟩
  · split
    · exact ⟨rfl, rfl⟩
    · exact ⟨rfl, rfl⟩

variable {telemetry : Nat → GeofenceReading K}

variable {m : GeofenceMonitor K} {d : Nat} {os : List Failsafe} {s : ProximityLoop}
  {l : ProximityLabel K}

lemma inRange_congr {m' : GeofenceMonitor K}
    (h : ∀ d, FreshBreach telemetry m' d ↔ FreshBreach telemetry m d) (drones : List Nat) :
    InRange telemetry m' drones ↔ InRange telemetry m drones := by
  induction drones with
  | nil => exact Iff.rfl
  | cons d rest ih => simp only [InRange, h, ih]

lemma freshBreach_softWarning (telemetry : Nat → GeofenceReading K) (m : GeofenceMonitor K)
    (d : Nat) (dist : Double K) (warned : Bool) (e : Nat) :
    FreshBreach telemetry (softWarning m d dist warned) e ↔ FreshBreach telemetry m e := by
  obtain ⟨hradius, hbreaches⟩ := softWarning_hard m d dist warned
  unfold FreshBreach
  rw [hradius, hbreaches]

lemma freshBreach_clear {r : Double K × Double K} (hr : distances (telemetry d) = .ok r)
    (hinside : r.1.exceeds m.geofenceRadius = false) (e : Nat) :
    FreshBreach telemetry { m with geofenceBreaches := assign m.geofenceBreaches d false } e ↔
      FreshBreach telemetry m e := by
  unfold FreshBreach
  by_cases hed : d = e
  · subst hed
    have hnot : ¬ ∃ r, distances (telemetry d) = .ok r ∧ r.1.exceeds m.geofenceRadius = true := by
      rintro ⟨r', hr', hout⟩
      rw [hr] at hr'
      cases hr'
      rw [hinside] at hout
      cases hout
    simp [hnot]
  · simp [find_assign_ne _ _ hed]

lemma scanDrones_isOk_iff (telemetry : Nat → GeofenceReading K) (m : GeofenceMonitor K)
    (drones : List Nat) :
    (∃ r, scanDrones telemetry m drones = .ok r) ↔ InRange telemetry m drones := by
  induction drones generalizing m with
  | nil => simp [scanDrones, InRange]
  | cons d rest ih =>
    unfold scanDrones
    dsimp only
    split
    next hidle =>
      have hidle' : ¬ ((telemetry d).connected = true ∧ (telemetry d).armed = true) := by
        rintro ⟨hc, ha⟩
        simp [hc, ha] at hidle
      have hnot : ¬ FreshBreach telemetry m d := fun h => hidle' ⟨h.1, h.2.1⟩
      rw [ih, InRange]
      simp only [hnot, false_or]
      exact ⟨fun h => ⟨fun hc ha => absurd ⟨hc, ha⟩ hidle', h⟩, And.right⟩
    next hflies =>
      have hflies' : (telemetry d).connected = true ∧ (telemetry d).armed = true := by
        simpa using hflies
      split
      next e he =>
        have hnot : ¬ Squarable (telemetry d) := by
          rw [← distances_isOk_iff, he]
          rintro ⟨r, hr⟩
          cases hr
        simp only [reduceCtorEq, exists_false, InRange, false_iff]
        exact fun h => hnot (h.1 hflies'.1 hflies'.2)
      next dist dist3d hdist =>
        have hsq : Squarable (telemetry d) := (distances_isOk_iff _).mp ⟨_, hdist⟩
        rw [InRange]
        simp only [hsq, implies_true, true_and]
        split
        next hout =>
          split
          next hflag =>
            have hnot : ¬ FreshBreach telemetry m d := fun h => by rw [h.2.2.2] at hflag; cases hflag
            rw [ih, inRange_congr (freshBreach_softWarning telemetry m d dist _)]
            simp [hnot]
          next hflag =>
            have hfresh : FreshBreach telemetry m d :=
              ⟨hflies'.1, hflies'.2, ⟨_, hdist, hout⟩, by simpa using hflag⟩
            simp [hfresh]
        next hinside =>
          have hin : dist.exceeds m.geofenceRadius = false := by simpa using hinside
          have hnot : ¬ FreshBreach telemetry m d := by
            rintro ⟨-, -, ⟨r, hr, hout⟩, -⟩
            rw [hdist] at hr
            cases hr
            exact hinside hout
          rw [ih, inRange_congr (freshBreach_softWarning telemetry _ d dist _)]
          simp only [hnot, false_or]
          split
          · exact inRange_congr (freshBreach_clear hdist hin) rest
          · exact Iff.rfl

/-! ## What ends the loops -/

def GeofenceLoop.Died (s : GeofenceLoop K) : Prop := ∃ e, s.pc = .raised e

/-- The step finds drones it can measure, and an RTL that does not raise. -/
def GeofenceSound (s : GeofenceLoop K) : GeofenceLabel K → Prop
  | .tick drones telemetry => InRange telemetry s.monitor drones
  | .rtl error m telemetry =>
    error = none ∧ ∀ breach rest, s.pc = .triggering breach rest → InRange telemetry m rest
  | _ => True

lemma goOn_died_iff (telemetry : Nat → GeofenceReading K) (m : GeofenceMonitor K)
    (drones : List Nat) :
    ¬ (goOn telemetry m drones).1.Died ↔ InRange telemetry m drones := by
  rw [← scanDrones_isOk_iff]
  unfold goOn GeofenceLoop.Died
  split
  next e he => simp [he]
  next h => simp [h]
  next h => simp [h]

lemma geofenceStep_died_iff {s s' : GeofenceLoop K} {l : GeofenceLabel K}
    (h : geofenceStep s l = some (s', os)) : ¬ s'.Died ↔ GeofenceSound s l := by
  unfold geofenceStep at h
  split at h
  next hpc =>
    have hs' : (goOn _ s.monitor _).1 = s' := congrArg Prod.fst (Option.some.inj h)
    rw [← hs', goOn_died_iff]
    exact Iff.rfl
  next hpc => cases h; simp [GeofenceLoop.Died, GeofenceSound, hpc]
  next hpc => cases h; simp [GeofenceLoop.Died, GeofenceSound]
  next b rest m telemetry hpc =>
    have hs' : (goOn telemetry (softWarning m b.droneId b.dist b.alreadyWarned) rest).1 = s' :=
      congrArg Prod.fst (Option.some.inj h)
    rw [← hs', goOn_died_iff, inRange_congr (freshBreach_softWarning telemetry m _ _ _)]
    simp [GeofenceSound, hpc]
  next hpc => cases h; simp [GeofenceLoop.Died, GeofenceSound]
  next hpc => cases h; simp [GeofenceLoop.Died, GeofenceSound]
  next => cases h

def ProximityDied (s : ProximityLoop) : Prop := ∃ e, s.pc = .raised e

/-- The step finds fewer than two drones, or drones that are all where numbers
say, and an RTL that does not raise. -/
def ProximitySound (_ : ProximityLoop) : ProximityLabel K → Prop
  | .tick table =>
    (activeDrones table).length < 2 ∨ ∀ e ∈ activeDrones table, (pointValue e.2).isSome = true
  | .rtl error => error = none
  | .cancel => True

lemma located_isSome_iff (active : List (Nat × Point (Double K))) :
    (located active).isSome = true ↔ ∀ e ∈ active, (pointValue e.2).isSome = true := by
  induction active with
  | nil => simp [located]
  | cons e active ih =>
    obtain ⟨d, p⟩ := e
    rw [List.forall_mem_cons, ← ih]
    cases hp : pointValue p with
    | none => simp [located, hp]
    | some q =>
      cases hrest : located active with
      | none => simp [located, hp, hrest]
      | some qs => simp [located, hp, hrest]

lemma mem_located {active : List (Nat × Point (Double K))} {positions : List (Nat × Point K)}
    (h : located active = some positions) {p : Point (Double K)} {q : Point K}
    (hmem : (d, p) ∈ active) (hq : pointValue p = some q) : (d, q) ∈ positions := by
  induction active generalizing positions with
  | nil => cases hmem
  | cons e active ih =>
    obtain ⟨d', p'⟩ := e
    simp only [located, Option.bind_eq_bind, Option.bind_eq_some_iff] at h
    obtain ⟨q', hq', qs, hqs, hpos⟩ := h
    cases hpos
    rcases List.mem_cons.mp hmem with heq | hmem
    · cases heq
      rw [hq] at hq'
      cases hq'
      exact List.mem_cons_self ..
    · exact List.mem_cons_of_mem _ (ih hqs hmem)

lemma proximityScan_isOk_iff (tree : KdTree K) (limit : K) (breaches : Dict Pair Bool)
    (table : FleetTable K) : (∃ r, proximityScan tree limit breaches table = .ok r) ↔
      (activeDrones table).length < 2 ∨
        ∀ e ∈ activeDrones table, (pointValue e.2).isSome = true := by
  rw [← located_isSome_iff]
  unfold proximityScan
  dsimp only
  split
  next h => simp [h]
  next h =>
    cases hl : located (activeDrones table) with
    | none => simp [h]
    | some positions => simp

lemma proximityStep_died_iff {tree : KdTree K}
    {limit : K} {s' : ProximityLoop} (h : proximityStep tree limit s l = some (s', os)) :
    ¬ ProximityDied s' ↔ ProximitySound s l := by
  cases proximityStep_stepped h with
  | @died table e _ hscan =>
    have hnot : ¬ ∃ r, proximityScan tree limit s.proximityBreaches table = .ok r := by simp [hscan]
    rw [proximityScan_isOk_iff] at hnot
    exact ⟨fun hdied => absurd ⟨e, rfl⟩ hdied, fun hsound => absurd hsound hnot⟩
  | quiet _ hscan =>
    exact ⟨fun _ => (proximityScan_isOk_iff ..).mp ⟨_, hscan⟩, fun _ => by simp [ProximityDied]⟩
  | breach _ hscan =>
    exact ⟨fun _ => (proximityScan_isOk_iff ..).mp ⟨_, hscan⟩, fun _ => by simp [ProximityDied]⟩
  | @rtl error _ => cases error <;> simp [ProximityDied, ProximitySound, afterRtl]
  | cancelled _ => simp [ProximityDied, ProximitySound]

/-- A tick counts every two flying drones within the limit that are where
numbers say, whatever is said of the others. -/
def Detects (tree : KdTree K) (limit : K) (s : ProximityLoop) : ProximityLabel K → Prop
  | .tick table => ∀ a b p q p' q', (a, p) ∈ activeDrones table → (b, q) ∈ activeDrones table →
      a < b → pointValue p = some p' → pointValue q = some q' → pointDist p' q' ≤ limit →
        ∀ s' os, proximityStep tree limit s (.tick table) = some (s', os) →
          s'.breached (a, b) = true
  | _ => True

lemma detects_of_sound {tree : ExactTree K} {limit : K} (h : ProximitySound s l) :
    Detects tree.toKdTree limit s l := by
  cases l with
  | tick table =>
    intro a b p q p' q' hp hq hlt hp' hq' hdist s' os hs
    rcases h with hfew | hall
    · -- two drones of different ids are two
      obtain ⟨i, hi⟩ := List.mem_iff_getElem?.mp hp
      obtain ⟨j, hj⟩ := List.mem_iff_getElem?.mp hq
      have hne : i ≠ j := by
        rintro rfl
        rw [hi] at hj
        cases hj
        exact lt_irrefl _ hlt
      have hilt := (List.getElem?_eq_some_iff.mp hi).1
      have hjlt := (List.getElem?_eq_some_iff.mp hj).1
      omega
    · obtain ⟨positions, hpos⟩ := Option.isSome_iff_exists.mp ((located_isSome_iff _).mpr hall)
      rw [(proximityStep_tick hpos hs).1, apartAt_iff (snapshot_nodup hpos)]
      exact ⟨p', q', mem_located hpos hp hp', mem_located hpos hq hq', hlt, hdist⟩
  | rtl _ => trivial
  | cancel => trivial

/-! ## Two ticks -/

lemma inRange_of_squarable (m : GeofenceMonitor K)
    {drones : List Nat} (h : ∀ d ∈ drones, Squarable (telemetry d)) : InRange telemetry m drones := by
  induction drones with
  | nil => trivial
  | cons d rest ih =>
    exact ⟨fun _ _ => h d (List.mem_cons_self ..), .inr (ih fun e he => h e (List.mem_cons_of_mem _ he))⟩

def strayed : Nat → GeofenceReading ℚ := fun _ => ⟨true, true, .finite 100, .finite 0, .finite 5⟩

lemma strayed_squarable (d : Nat) : Squarable (strayed d) := by
  intro x hx v hv
  simp only [strayed, List.mem_cons, List.not_mem_nil, or_false] at hx
  rcases hx with rfl | rfl | rfl <;> cases hv <;> decide +kernel

def fence : GeofenceMonitor ℚ := ⟨30, some 20, [], []⟩

/-- Two drones a metre apart, and a third that is nowhere. -/
def withNan : FleetTable ℚ where
  entries := (sideBySide 1).entries ++ [(2, ⟨true, true, .nan, .finite 0, .finite 2⟩)]
  nodup := by simp [sideBySide]

instance (s : ProximityLoop) (l : ProximityLabel K) : Decidable (ProximitySound s l) :=
  match l with
  | .tick table => inferInstanceAs (Decidable ((activeDrones table).length < 2 ∨
      ∀ e ∈ activeDrones table, (pointValue e.2).isSome = true))
  | .rtl error => inferInstanceAs (Decidable (error = none))
  | .cancel => .isTrue trivial

/-- Both loops outlive everything but their cancellation, and no bad position
hides a breach of other drones, exactly if every tick finds coordinates its
arithmetic takes and no RTL raises. -/
theorem monitors_survive_iff (tree : ExactTree K) (limit : K) {s₀ s : ProximityLoop}
    {ls : List (ProximityLabel K)} {g₀ g : GeofenceLoop K} {gs : List (GeofenceLabel K)}
    {os os' : List Failsafe} (hs₀ : ¬ ProximityDied s₀) (hg₀ : ¬ g₀.Died)
    (hs : run (proximityStep tree.toKdTree limit) s₀ ls = some (s, os))
    (hg : run geofenceStep g₀ gs = some (g, os')) :
    (¬ ProximityDied s ∧ ¬ g.Died ∧
        Along (proximityStep tree.toKdTree limit) (Detects tree.toKdTree limit) s₀ ls) ↔
      Along (proximityStep tree.toKdTree limit) ProximitySound s₀ ls ∧
        Along geofenceStep GeofenceSound g₀ gs := by
  have hproximity := not_bad_iff_along (B := ProximityDied)
    (fun _ _ _ _ h => proximityStep_died_iff h)
    (by rintro s l ⟨e, he⟩; cases l <;> simp [proximityStep, he]) hs₀ hs
  have hgeofence := not_bad_iff_along (B := GeofenceLoop.Died)
    (fun _ _ _ _ h => geofenceStep_died_iff h)
    (by rintro s l ⟨e, he⟩; cases l <;> simp [geofenceStep, he]) hg₀ hg
  constructor
  · rintro ⟨hsurvives, hsurvives', -⟩
    exact ⟨hproximity.mp hsurvives, hgeofence.mp hsurvives'⟩
  · rintro ⟨hsound, hsound'⟩
    exact ⟨hproximity.mpr hsound, hgeofence.mpr hsound',
      hsound.mono fun _ _ h => detects_of_sound h⟩

/-- Two drones too close, and one past its geofence: both loops trigger and go on. -/
theorem monitors_survive_iff_breaches : ∃ s os g os',
    run (proximityStep everyPair.toKdTree (defaultLimits : SafetyLimits ℚ).minSeparationM) {}
        [.tick (sideBySide 1), .rtl none, .tick (sideBySide 2)] = some (s, os) ∧
      run geofenceStep { monitor := fence } [.tick [0] strayed, .rtl none fence strayed, .tick [0] strayed] =
        some (g, os') ∧
      ¬ ProximityDied s ∧ ¬ g.Died ∧
        Along (proximityStep everyPair.toKdTree (defaultLimits : SafetyLimits ℚ).minSeparationM)
          (Detects everyPair.toKdTree (defaultLimits : SafetyLimits ℚ).minSeparationM) {}
          [.tick (sideBySide 1), .rtl none, .tick (sideBySide 2)] := by
  obtain ⟨⟨s, os⟩, hs, ⟨g, os'⟩, hg, -⟩ :
      ∃ r ∈ run (proximityStep everyPair.toKdTree (defaultLimits : SafetyLimits ℚ).minSeparationM) {}
        [.tick (sideBySide 1), .rtl none, .tick (sideBySide 2)],
      ∃ r' ∈ run geofenceStep { monitor := fence }
        [.tick [0] strayed, .rtl none fence strayed, .tick [0] strayed], True := by decide +kernel
  refine ⟨s, os, g, os', hs, hg, (monitors_survive_iff everyPair _ (by simp [ProximityDied])
    (by simp [GeofenceLoop.Died]) hs hg).mpr ⟨by decide +kernel, ?_⟩⟩
  refine Along.mono (along_of_labels (p := fun l => l = .tick [0] strayed ∨ l = .rtl none fence strayed)
    (by simp)) fun s l hl => ?_
  rcases hl with rfl | rfl
  · exact inRange_of_squarable _ fun d _ => strayed_squarable d
  · exact ⟨rfl, fun _ _ _ => inRange_of_squarable _ fun d _ => strayed_squarable d⟩

/-- One drone's coordinate is NaN, two others are a metre apart: the loop ends,
and their breach is not counted. -/
theorem nan_ends_monitor : ∃ s os,
    run (proximityStep everyPair.toKdTree (defaultLimits : SafetyLimits ℚ).minSeparationM) {}
        [.tick withNan] = some (s, os) ∧ ProximityDied s ∧ s.breached (0, 1) = false := by
  obtain ⟨⟨s, os⟩, hrun, h⟩ :
      ∃ r ∈ run (proximityStep everyPair.toKdTree (defaultLimits : SafetyLimits ℚ).minSeparationM)
      {} [.tick withNan], r.1.pc = .raised treeError ∧ r.1.breached (0, 1) = false := by
    decide +kernel
  exact ⟨s, os, hrun, ⟨_, h.1⟩, h.2⟩

end Taramandal.Gcs.MonitorLoops
