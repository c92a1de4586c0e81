import Taramandal.Gcs.BlackboxService

/-! # Breaches in a flight record

A session file holds the edges of the breach flags. While the recorder works, the edges in
the current file lead from no breach to what the last sweep found (`Tells`), and those of
one pair, or of one drone and fence, alternate (`InTurn`). A sweep appends the difference
to the flags of the moment, and a transition is swept for before it is recorded. -/
set_option linter.unusedSectionVars false

namespace Taramandal.Gcs.BreachLog

open Core.Numbers Core.Values Gcs.Blackbox Gcs.ProximityMonitor Gcs.BlackboxService Lib.Dict
open Lib.Edges Lib.Run

variable {K : Type}

/-- How the events of one family of flags are told from others. -/
structure Family (K κ : Type) where
  kind : Bool → String
  name : PyDict K → Option κ

def Family.read {κ : Type} (w : Family K κ) : Line K → Option (Edge κ)
  | .tick => none
  | .event kind fields =>
    if kind = w.kind false then (w.name fields).map .up
    else if kind = w.kind true then (w.name fields).map .down
    else none

/-- The breach and clear events of a family, in the order of the file. -/
def Family.edges {κ : Type} (w : Family K κ) (lines : List (Line K)) : List (Edge κ) :=
  lines.filterMap w.read

def pairOf (fields : PyDict K) : Option Pair :=
  match find fields "drones" with
  | some (.list [.int a, .int b]) => some (a.toNat, b.toNat)
  | _ => none

def droneOf (fields : PyDict K) : Option Nat :=
  match find fields "drone" with
  | some (.int d) => some d.toNat
  | _ => none

def proximityFamily : Family K Pair := ⟨proximityKind, pairOf⟩

def fenceFamily (level : Fence) : Family K Nat := ⟨geofenceKind level, droneOf⟩

section

variable {κ : Type}

lemma Family.edges_append (w : Family K κ) (as bs : List (Line K)) :
    w.edges (as ++ bs) = w.edges as ++ w.edges bs := List.filterMap_append

variable {w : Family K κ}

lemma Family.edges_of_kinds {lines : List (Line K)}
    (h : ∀ kind fields, .event kind fields ∈ lines → ∀ cleared, kind ≠ w.kind cleared) :
    w.edges lines = [] := by
  refine List.filterMap_eq_nil_iff.mpr fun line hline => ?_
  cases line with
  | tick => rfl
  | event kind fields =>
    have hkind := h kind fields hline
    rw [Family.read, if_neg (hkind false), if_neg (hkind true)]

lemma Family.edges_edgeLines {line : κ → Bool → Line K}
    (hup : ∀ k, w.read (line k false) = some (.up k))
    (hdown : ∀ k, w.read (line k true) = some (.down k)) (es : List (Edge κ)) :
    w.edges (edgeLines line es) = es := by
  induction es with
  | nil => rfl
  | cons e es ih =>
    cases e with
    | up k => exact (List.filterMap_cons_some (hup k)).trans (congrArg _ ih)
    | down k => exact (List.filterMap_cons_some (hdown k)).trans (congrArg _ ih)

end

/-! ## What a sweep writes -/

lemma proximityKind_ne (cleared : Bool) (level : Fence) (cleared' : Bool) :
    proximityKind cleared ≠ geofenceKind level cleared' := by
  cases cleared <;> cases level <;> cases cleared' <;>
    simp [proximityKind, geofenceKind, Fence.name]

lemma geofenceKind_ne {level level' : Fence} (h : level ≠ level') (cleared cleared' : Bool) :
    geofenceKind level cleared ≠ geofenceKind level' cleared' := by
  cases level <;> cases level' <;> cases cleared <;> cases cleared' <;>
    first
    | exact absurd rfl h
    | simp [geofenceKind, Fence.name]

def Swept.fence (sw : Swept) : Fence → List Nat
  | .hard => sw.hard
  | .soft => sw.soft

section

variable [Field K] [LinearOrder K] [FloorRing K]

lemma edges_proximityLines (distance : Pair → Core.Floats.Double K) (es : List (Edge Pair)) :
    proximityFamily.edges (edgeLines (fun pair => proximityLine pair (distance pair)) es) = es :=
  Family.edges_edgeLines (fun _ => rfl) (fun _ => rfl) es

lemma edges_geofenceLines (level : Fence) (distance : Nat → Core.Floats.Double K)
    (limit : Option K) (es : List (Edge Nat)) :
    (fenceFamily level).edges
      (edgeLines (fun drone => geofenceLine drone level (distance drone) limit) es) = es := by
  refine Family.edges_edgeLines (fun _ => ?_) (fun _ => ?_) es
  · cases level <;> rfl
  · cases level <;> rfl

lemma kind_of_proximityLines {distance : Pair → Core.Floats.Double K}
    {es : List (Edge Pair)} {kind : String} {fields : PyDict K} (h : .event kind fields ∈
      edgeLines (fun pair => proximityLine pair (distance pair)) es) :
    ∃ cleared, kind = proximityKind cleared := by
  obtain ⟨e, -, he⟩ := List.mem_map.mp h
  cases e with
  | up k => exact ⟨false, (Line.event.inj he).1.symm⟩
  | down k => exact ⟨true, (Line.event.inj he).1.symm⟩

lemma kind_of_geofenceLines {level : Fence} {distance : Nat → Core.Floats.Double K}
    {limit : Option K} {es : List (Edge Nat)} {kind : String} {fields : PyDict K}
    (h : .event kind fields ∈
      edgeLines (fun drone => geofenceLine drone level (distance drone) limit) es) :
    ∃ cleared, kind = geofenceKind level cleared := by
  obtain ⟨e, -, he⟩ := List.mem_map.mp h
  cases e with
  | up k => exact ⟨false, (Line.event.inj he).1.symm⟩
  | down k => exact ⟨true, (Line.event.inj he).1.symm⟩

variable [Sqrt K]

lemma proximity_edges_sweepLines (dm : ManagerView K) (before : Swept) :
    proximityFamily.edges (sweepLines dm before) =
      diff pairLe before.prox dm.proximityBreaches.flagged := by
  have hother : ∀ (level : Fence) (limit : Option K) (es : List (Edge Nat)),
      proximityFamily.edges (edgeLines (fun drone => geofenceLine drone level
        (homeDistance dm.telemetry drone) limit) es) = [] := by
    refine fun level limit es => Family.edges_of_kinds fun kind fields hmem cleared => ?_
    obtain ⟨cleared', rfl⟩ := kind_of_geofenceLines hmem
    exact (proximityKind_ne cleared level cleared').symm
  rw [sweepLines, Family.edges_append, Family.edges_append, edges_proximityLines, hother, hother]
  simp

lemma fence_edges_sweepLines (level : Fence) (dm : ManagerView K) (before : Swept) :
    (fenceFamily level).edges (sweepLines dm before) =
      diff (· ≤ ·) (Swept.fence before level) (Swept.fence (sweptOf dm) level) := by
  have hprox : (fenceFamily level).edges (edgeLines (fun pair =>
      proximityLine pair (pairDistance dm.telemetry pair))
        (diff pairLe before.prox dm.proximityBreaches.flagged)) = [] := by
    refine Family.edges_of_kinds fun kind fields hmem cleared => ?_
    obtain ⟨cleared', rfl⟩ := kind_of_proximityLines hmem
    exact proximityKind_ne cleared' level cleared
  have hother : ∀ (level' : Fence) (limit : Option K) (es : List (Edge Nat)), level' ≠ level →
      (fenceFamily level).edges (edgeLines (fun drone => geofenceLine drone level'
        (homeDistance dm.telemetry drone) limit) es) = [] := by
    refine fun level' limit es hne => Family.edges_of_kinds fun kind fields hmem cleared => ?_
    obtain ⟨cleared', rfl⟩ := kind_of_geofenceLines hmem
    exact geofenceKind_ne hne cleared' cleared
  rw [sweepLines, Family.edges_append, Family.edges_append, hprox, List.nil_append]
  cases level with
  | hard =>
    rw [edges_geofenceLines, hother .soft _ _ (by simp), List.append_nil]
    rfl
  | soft =>
    rw [edges_geofenceLines, hother .hard _ _ (by simp), List.nil_append]
    rfl

end

/-! ## What a file tells -/

def Unrelated (line : Line K) : Prop :=
  ∀ kind fields, line = .event kind fields →
    (∀ cleared, kind ≠ proximityKind cleared) ∧ ∀ level cleared, kind ≠ geofenceKind level cleared

/-- The edges in the file alternate, a breach first. -/
structure InTurn (lines : List (Line K)) : Prop where
  proximity : Alternates (proximityFamily.edges lines)
  fence : ∀ level, Alternates ((fenceFamily level).edges lines)

/-- The edges in the file, replayed from no breach, lead to `sw`. -/
structure Tells (lines : List (Line K)) (sw : Swept) : Prop where
  proximity : ∀ pair, raised (proximityFamily.edges lines) pair = true ↔ pair ∈ sw.prox
  fence : ∀ level drone,
    raised ((fenceFamily level).edges lines) drone = true ↔ drone ∈ Swept.fence sw level

/-- No name is remembered twice. -/
structure Swept.Distinct (sw : Swept) : Prop where
  proximity : sw.prox.Nodup
  fence : ∀ level, (Swept.fence sw level).Nodup

lemma inTurn_nil : InTurn ([] : List (Line K)) :=
  ⟨fun _ => trivial, fun _ _ => trivial⟩

lemma tells_nil : Tells ([] : List (Line K)) {} :=
  ⟨fun _ => iff_of_false nofun List.not_mem_nil, fun level _ => by
    cases level <;> exact iff_of_false nofun List.not_mem_nil⟩

lemma distinct_sweptOf (dm : ManagerView K) : Swept.Distinct (sweptOf dm) :=
  ⟨dm.proximityBreaches.nodup_flagged, fun level => by
    cases level with
    | hard => exact dm.geofenceBreaches.nodup_flagged
    | soft => exact dm.geofenceWarnings.nodup_flagged⟩

variable {lines more : List (Line K)}

lemma edges_unrelated {κ : Type} {w : Family K κ}
    (hkind : ∀ kind, (∀ c, kind ≠ proximityKind c) → (∀ level c, kind ≠ geofenceKind level c) →
      ∀ c, kind ≠ w.kind c) (hmore : ∀ line ∈ more, Unrelated line) :
    w.edges (lines ++ more) = w.edges lines := by
  have hnone : w.edges more = [] := by
    refine Family.edges_of_kinds fun kind fields hmem c => ?_
    obtain ⟨hprox, hfence⟩ := hmore _ hmem kind fields rfl
    exact hkind kind hprox hfence c
  rw [Family.edges_append, hnone, List.append_nil]

lemma proximity_edges_unrelated (hmore : ∀ line ∈ more, Unrelated line) :
    proximityFamily.edges (lines ++ more) = proximityFamily.edges lines :=
  edges_unrelated (fun _ hprox _ => hprox) hmore

lemma fence_edges_unrelated (level : Fence) (hmore : ∀ line ∈ more, Unrelated line) :
    (fenceFamily level).edges (lines ++ more) = (fenceFamily level).edges lines :=
  edges_unrelated (fun _ _ hfence => hfence level) hmore

lemma InTurn.unrelated (h : InTurn lines) (hmore : ∀ line ∈ more, Unrelated line) :
    InTurn (lines ++ more) where
  proximity := by
    rw [proximity_edges_unrelated hmore]
    exact h.proximity
  fence level := by
    rw [fence_edges_unrelated level hmore]
    exact h.fence level

variable {sw : Swept}

lemma Tells.unrelated (h : Tells lines sw) (hmore : ∀ line ∈ more, Unrelated line) :
    Tells (lines ++ more) sw where
  proximity := by
    rw [proximity_edges_unrelated hmore]
    exact h.proximity
  fence level := by
    rw [fence_edges_unrelated level hmore]
    exact h.fence level

section

variable [Field K] [LinearOrder K] [FloorRing K] [Sqrt K]

lemma Tells.sweep {lines : List (Line K)} {sw : Swept} (h : Tells lines sw)
    (dm : ManagerView K) : Tells (lines ++ sweepLines dm sw) (sweptOf dm) where
  proximity pair := by
    rw [Family.edges_append, proximity_edges_sweepLines, raised, raisedFrom_append]
    exact raisedFrom_diff (h.proximity pair)
  fence level drone := by
    rw [Family.edges_append, fence_edges_sweepLines, raised, raisedFrom_append]
    exact raisedFrom_diff (h.fence level drone)

lemma InTurn.sweep {lines : List (Line K)} {sw : Swept} (h : InTurn lines) (ht : Tells lines sw)
    (hsw : Swept.Distinct sw) (dm : ManagerView K) : InTurn (lines ++ sweepLines dm sw) where
  proximity pair := by
    rw [Family.edges_append, proximity_edges_sweepLines]
    exact alternatesFrom_append.mpr ⟨h.proximity pair, alternatesFrom_diff (ht.proximity pair)
      hsw.proximity (distinct_sweptOf dm).proximity⟩
  fence level drone := by
    rw [Family.edges_append, fence_edges_sweepLines]
    exact alternatesFrom_append.mpr ⟨h.fence level drone,
      alternatesFrom_diff (ht.fence level drone) (hsw.fence level)
        ((distinct_sweptOf dm).fence level)⟩

lemma unrelated_event {kind : String} (fields : PyDict K)
    (hkind : kind ∈ ["fsm_transition", "fsm_rejected", "command", "audit"]) :
    Unrelated (.event kind fields) := by
  have hall : ∀ kind ∈ ["fsm_transition", "fsm_rejected", "command", "audit"],
      (∀ c, kind ≠ proximityKind c) ∧ ∀ level c, kind ≠ geofenceKind level c := by
    intro kind hkind
    refine ⟨fun c heq => ?_, fun level c heq => ?_⟩
    · subst heq
      cases c <;> revert hkind <;> decide
    · subst heq
      cases level <;> cases c <;> revert hkind <;> decide
  rintro kind' fields' heq
  obtain ⟨rfl, -⟩ := Line.event.inj heq
  exact hall kind hkind

lemma unrelated_transitionLine (entry : PyDict K) : Unrelated (transitionLine entry) := by
  refine unrelated_event _ ?_
  split_ifs <;> simp

lemma unrelated_auditLine {str : PyVal K → String} {entry : PyDict K} {line : Line K}
    (h : auditLine str entry = some line) : Unrelated line := by
  have hline : ∃ fields, line = .event "command" fields ∨ line = .event "audit" fields := by
    unfold auditLine at h
    dsimp only at h
    split at h
    · obtain ⟨accepted, -, h⟩ := Option.bind_eq_some_iff.mp h
      split_ifs at h
      exact ⟨_, .inl (Option.some.inj h).symm⟩
    · split_ifs at h
      exact ⟨_, .inr (Option.some.inj h).symm⟩
  obtain ⟨fields, rfl | rfl⟩ := hline
  · exact unrelated_event _ (by simp)
  · exact unrelated_event _ (by simp)

end

/-! ## Runs of the service -/

def Service.files (s : Service K) : List (List (Line K)) :=
  s.ended ++ s.recorder.toList.map Session.lines

def Working : ServiceLabel K → Prop
  | .fail => False
  | _ => True

def Sweeps : ServiceLabel K → Prop
  | .poll .. => True
  | .fsm _ => True
  | _ => False

/-- A recorder that works, and what its file tells. -/
structure Current (r : Session K) (sw : Swept) : Prop where
  failed : r.failed = false
  closed : r.closed = false
  turn : InTurn r.lines
  tells : Tells r.lines sw

/-- The files of the service while no write has failed. -/
structure Story (s : Service K) : Prop where
  ended : ∀ lines ∈ s.ended, InTurn lines
  current : ∀ r ∈ s.recorder, Current r s.swept
  distinct : Swept.Distinct s.swept

lemma Current.record_lines {r : Session K} (h : Current r sw) (lines : List (Line K)) :
    r.record lines = { r with lines := r.lines ++ lines } := by
  rw [Session.record, h.failed, h.closed]
  rfl

lemma Current.unrelated {r : Session K} (h : Current r sw)
    (hmore : ∀ line ∈ more, Unrelated line) : Current (r.record more) sw := by
  rw [h.record_lines]
  exact ⟨h.failed, h.closed, h.turn.unrelated hmore, h.tells.unrelated hmore⟩

lemma current_new (path : String) : Current ({ path := path } : Session K) {} :=
  ⟨rfl, rfl, inTurn_nil, tells_nil⟩

lemma distinct_nil : Swept.Distinct {} :=
  ⟨List.nodup_nil, fun level => by cases level <;> exact List.nodup_nil⟩

lemma prefix_record (r : Session K) (lines : List (Line K)) :
    r.lines <+: (r.record lines).lines := by
  unfold Session.record
  split
  · exact List.prefix_rfl
  · exact List.prefix_append r.lines lines

section Runs

variable [Field K] [LinearOrder K] [FloorRing K] [Sqrt K] {str : PyVal K → String}
  {cfg : ServiceConfig K}

variable {r : Session K}

lemma Current.sweep {sw : Swept} (h : Current r sw) (hsw : Swept.Distinct sw)
    (dm : ManagerView K) : Current (r.record (sweepLines dm sw)) (sweptOf dm) := by
  rw [h.record_lines]
  exact ⟨h.failed, h.closed, h.turn.sweep h.tells hsw dm, h.tells.sweep dm⟩

variable {s : Service K}

lemma current_polledSession (h : Story s) (hr : s.recorder = some r) (now : K) :
    Current (polledSession now r s) (sweptOf s.dm) := by
  have hswept := (h.current r hr).sweep h.distinct s.dm
  unfold polledSession
  split
  · refine hswept.unrelated ?_
    simp only [List.mem_singleton, forall_eq]
    exact fun kind fields heq => nomatch heq
  · exact hswept

lemma story_rotate {old : Session K} (h : Story s) (hr : s.recorder = some old)
    (removable : String → Bool) (created : Option (SessionFile K)) :
    Story (rotate cfg removable created old s) := by
  rcases rotate_cases cfg removable created old s with ⟨d, hd⟩ | ⟨d, path, hd⟩
  · rw [hd, ← hr]
    exact ⟨h.ended, h.current, h.distinct⟩
  · rw [hd]
    refine ⟨?_, ?_, distinct_nil⟩
    · intro lines hlines
      rcases List.mem_append.mp hlines with hmem | hmem
      · exact h.ended lines hmem
      · rw [List.mem_singleton.mp hmem]
        exact (h.current old hr).turn
    · rintro _ ⟨⟩
      exact current_new path

section

variable (h : Story s) (hr : s.recorder = some r)
include h hr

lemma story_polled (now : K) : Story (polled now r s) := by
  refine ⟨h.ended, ?_, distinct_sweptOf s.dm⟩
  rintro _ ⟨⟩
  exact current_polledSession h hr now

lemma story_onFsm (entry : PyDict K) : Story (onFsm entry r s) := by
  refine ⟨h.ended, ?_, distinct_sweptOf s.dm⟩
  rintro _ ⟨⟩
  refine ((h.current r hr).sweep h.distinct s.dm).unrelated ?_
  simp only [List.mem_singleton, forall_eq]
  exact unrelated_transitionLine entry

lemma story_onAudit (entry : PyDict K) : Story (onAudit str entry r s) := by
  refine ⟨h.ended, ?_, h.distinct⟩
  rintro _ ⟨⟩
  refine (h.current r hr).unrelated fun line hline => ?_
  exact unrelated_auditLine (Option.mem_toList.mp hline)

lemma story_poll (now : K) (bytesWritten : Nat)
    (removable : String → Bool) (created : Option (SessionFile K)) :
    Story (poll cfg now bytesWritten removable created r s) := by
  rw [poll, (h.current r hr).failed, if_neg Bool.false_ne_true]
  split_ifs
  · exact story_rotate (story_polled h hr now) rfl removable created
  · exact story_polled h hr now

end

variable {t : Service K}

lemma Story.of_same (h : Story s) (hended : t.ended = s.ended) (hrec : t.recorder = s.recorder)
    (hswept : t.swept = s.swept) : Story t :=
  ⟨fun lines hl => h.ended lines (hended ▸ hl), fun r hr => hswept ▸ h.current r (hrec ▸ hr),
    hswept ▸ h.distinct⟩

variable {l : ServiceLabel K} {o : List String}

lemma story_step (h : Story s) (hl : Working l)
    (hs : serviceStep str cfg s l = some (t, o)) : Story t := by
  cases served_of_step hs with
  | started d path =>
    refine ⟨h.ended, ?_, distinct_nil⟩
    rintro _ ⟨⟩
    exact current_new path
  | unpolled => exact h
  | polled now bytesWritten removable created r hr =>
    exact story_poll h hr now bytesWritten removable created
  | fsm entry =>
    cases hr : s.recorder with
    | none => exact h
    | some r => exact story_onFsm h hr entry
  | audit entry =>
    cases hr : s.recorder with
    | none => exact h
    | some r => exact story_onAudit h hr entry
  | fail => exact hl.elim
  | stopped =>
    refine ⟨fun lines hlines => ?_, fun _ hm => (nomatch hm), h.distinct⟩
    rcases List.mem_append.mp hlines with hmem | hmem
    · exact h.ended lines hmem
    · obtain ⟨r, hr, rfl⟩ := List.mem_map.mp hmem
      exact (h.current r (Option.mem_toList.mp hr)).turn
  | _ => exact h.of_same rfl rfl rfl

lemma story_newService (directory : Directory K) (dm : ManagerView K) :
    Story (newService directory dm) :=
  ⟨fun _ hm => (nomatch hm), fun _ hm => (nomatch hm), distinct_nil⟩

lemma mem_files_rotate (removable : String → Bool) (created : Option (SessionFile K))
    (old : Session K) (s : Service K) :
    old.lines ∈ Service.files (rotate cfg removable created old s) := by
  rcases rotate_cases cfg removable created old s with ⟨d, hd⟩ | ⟨d, path, hd⟩
  · rw [hd]
    exact List.mem_append_right _ (List.mem_singleton.mpr rfl)
  · rw [hd]
    exact List.mem_append_left _ (List.mem_append_right _ (List.mem_singleton.mpr rfl))

lemma prefix_polledSession (now : K) (r : Session K) (s : Service K) :
    r.lines <+: (polledSession now r s).lines := by
  have hsweep := prefix_record r (sweepLines s.dm s.swept)
  unfold polledSession
  split
  · exact hsweep.trans (prefix_record _ _)
  · exact hsweep

/-- The file that a sweep wrote to, as the step left it, tells of the flags it found. -/
lemma exists_file_of_sweep (h : Story s)
    (hr : s.recorder = some r) (hl : Sweeps l) (hs : serviceStep str cfg s l = some (t, o)) :
    ∃ lines ∈ Service.files t, r.lines <+: lines ∧ Tells lines (sweptOf s.dm) := by
  cases served_of_step hs with
  | unpolled hnone => cases hr.symm.trans hnone
  | polled now bytesWritten removable created r' hr' =>
    obtain rfl := Option.some.inj (hr'.symm.trans hr)
    refine ⟨(polledSession now r' s).lines, ?_, prefix_polledSession now r' s,
      (current_polledSession h hr now).tells⟩
    rw [poll, (h.current r' hr).failed, if_neg Bool.false_ne_true]
    split_ifs
    · exact mem_files_rotate removable created _ _
    · exact List.mem_append_right _ (List.mem_singleton.mpr rfl)
  | fsm entry =>
    rw [hr]
    have hcurrent := (story_onFsm h hr entry).current _ rfl
    refine ⟨_, List.mem_append_right _ (List.mem_singleton.mpr rfl), ?_, hcurrent.tells⟩
    exact (prefix_record r _).trans (prefix_record _ _)
  | _ => exact hl.elim

/-- While no write fails, the files of the service tell of the breaches in turn; a file that
is swept to tells of exactly the flags of the moment; and a transition is recorded behind the
breaches that are flagged when it is announced. -/
theorem breaches_told {directory : Directory K} {dm : ManagerView K} {ls : List (ServiceLabel K)}
    {s : Service K} {os : List String} (hworking : ∀ l ∈ ls, Working l)
    (hrun : run (serviceStep str cfg) (newService directory dm) ls = some (s, os)) :
    (∀ lines ∈ Service.files s, InTurn lines) ∧
    (∀ r ∈ s.recorder, ∀ l t o, Sweeps l → serviceStep str cfg s l = some (t, o) →
      ∃ lines ∈ Service.files t, r.lines <+: lines ∧ Tells lines (sweptOf s.dm)) ∧
    ∀ r ∈ s.recorder, ∀ entry t o, serviceStep str cfg s (.fsm entry) = some (t, o) →
      ∃ told, t.recorder = some { r with lines := r.lines ++ told ++ [transitionLine entry] } ∧
        (∀ pair ∈ s.dm.proximityBreaches.flagged, ∃ as bs,
          proximityFamily.edges (r.lines ++ told) = as ++ .up pair :: bs ∧ .down pair ∉ bs) ∧
        ∀ level, ∀ drone ∈ Swept.fence (sweptOf s.dm) level, ∃ as bs,
          (fenceFamily level).edges (r.lines ++ told) = as ++ .up drone :: bs ∧
            .down drone ∉ bs := by
  have hstep : ∀ s l m o, Story s → Working l → serviceStep str cfg s l = some (m, o) → Story m :=
    fun s l m o h hl hs => story_step h hl hs
  have hstory : Story s := run_invariant hstep (story_newService directory dm)
    (along_of_labels hworking) hrun
  refine ⟨?_, fun r hr l t o hl hs => exists_file_of_sweep hstory hr hl hs, ?_⟩
  · intro lines hlines
    rcases List.mem_append.mp hlines with hmem | hmem
    · exact hstory.ended lines hmem
    · obtain ⟨r, hr, rfl⟩ := List.mem_map.mp hmem
      exact (hstory.current r (Option.mem_toList.mp hr)).turn
  · intro r hr entry t o hs
    have hcurrent := hstory.current r hr
    have htells := hcurrent.tells.sweep s.dm
    refine ⟨sweepLines s.dm s.swept, ?_, fun pair hpair => ?_, fun level drone hdrone => ?_⟩
    · cases served_of_step hs
      rw [hr]
      have hswept := hcurrent.sweep hstory.distinct s.dm
      have htransition := hswept.record_lines [transitionLine entry]
      rw [hcurrent.record_lines] at htransition
      refine congrArg some ?_
      rw [hcurrent.record_lines]
      exact htransition
    · exact exists_up_of_raised ((htells.proximity pair).mpr hpair)
    · exact exists_up_of_raised ((htells.fence level drone).mpr hdrone)

end Runs

def rehearsal : List (ServiceLabel ℚ) :=
  [.start (fun _ => true) (some ⟨"blackbox_b.jsonl.gz", some (10, 0)⟩),
    .watch {
      proximityBreaches := { entries := [((0, 1), true)] }
      geofenceBreaches := { entries := [(2, true), (3, false)] } },
    .fsm [("to", .str "RTL"), ("accepted", .bool true)],
    .watch { geofenceWarnings := { entries := [(2, true)] } },
    .poll 1 1048576 (fun _ => true) (some ⟨"blackbox_c.jsonl.gz", some (11, 0)⟩),
    .closeOld true, .pruneOld fun _ => true, .poll 2 0 (fun _ => true) none]

theorem breaches_told_rehearsal : ∃ s os,
    run (serviceStep (fun _ => "") ⟨4, 1, true⟩) (newService { files := [] } {}) rehearsal =
      some (s, os) ∧ (Service.files s).length = 2 ∧ ∀ lines ∈ Service.files s, InTurn lines := by
  obtain ⟨⟨s, os⟩, hrun, hlength⟩ :
      ∃ r ∈ run (serviceStep (fun _ => "") ⟨4, 1, true⟩) (newService { files := [] } {}) rehearsal,
      (Service.files r.1).length = 2 := by decide +kernel
  refine ⟨s, os, hrun, hlength, (breaches_told ?_ hrun).1⟩
  intro l hl
  simp only [rehearsal, List.mem_cons, List.not_mem_nil, or_false] at hl
  obtain rfl | rfl | rfl | rfl | rfl | rfl | rfl | rfl := hl <;> trivial

end Taramandal.Gcs.BreachLog
