import Taramandal.Gcs.Confirmations
import Taramandal.Lib.History

/-! # One launch for each confirmation

Requests and confirmations run out at whatever call comes next, are replaced by
later ones and consumed by launches. In a profile that insists on the latch,
every launch goes back to a confirmation of its own, and that to the request
whose token it was given (`launches_accounted`). -/
namespace Taramandal.Gcs.TwoStep

open Lib.Dict Lib.History Lib.Hoare Lib.Run Gcs.Preflight Gcs.Confirmations

variable {w : World} {c : EngineConfig}

lemma outcome_clock (e : Engine) :
    outcome (clock w) e = (.ok (w.clock e.reads), { e with reads := e.reads + 1 }) := rfl

lemma outcome_issueToken (e : Engine) :
    outcome (issueToken w) e = (.ok (w.token e.issued), { e with issued := e.issued + 1 }) := rfl

lemma outcome_note (event : Event) (e : Engine) :
    outcome (note event) e = (.ok (), { e with history := e.history ++ [event] }) := rfl

lemma outcome_modify (g : Engine → Engine) (e : Engine) :
    outcome (modify g : EngineM Unit) e = (.ok (), g e) := rfl

lemma outcome_get (e : Engine) : outcome (get : EngineM Engine) e = (.ok e, e) := rfl

lemma outcome_record (entry : TrailEntry) (e : Engine) : outcome (record w entry) e =
      (if w.auditFails e.trail.length then .error .osError else .ok (),
        { e with trail := e.trail ++ [entry] }) := by
  unfold record
  simp only [outcome_bind, outcome_get, outcome_modify]
  split <;> rfl

lemma record_triple {entry : TrailEntry} {Q : Unit → Engine → Prop} {E : Raised → Engine → Prop} :
    Triple (fun e => Q () { e with trail := e.trail ++ [entry] } ∧
      ∀ r, E r { e with trail := e.trail ++ [entry] }) (record w entry) Q E := by
  intro e he
  rw [outcome_record]
  by_cases hfails : w.auditFails e.trail.length = true
  · simp only [hfails, if_true]
    exact he.2 _
  · simp only [hfails]
    exact he.1

/-! ## What runs out -/

/-- Between two states only time has passed: confirmations and requests may have
run out, and the trail says so. -/
structure Lapse (w : World) (e e' : Engine) : Prop where
  pending : ∀ k p, find e'.pending k = some p → find e.pending k = some p
  active : ∀ k a, find e'.active k = some a → find e.active k = some a
  lapsed : ∀ k a, find e.active k = some a → find e'.active k = some a ∨
    ∃ n, e.reads ≤ n ∧ n < e'.reads ∧ a.expiresAt < w.clock n
  reads : e.reads ≤ e'.reads
  issued : e'.issued = e.issued
  history : e'.history = e.history
  trail : ∃ new, e'.trail = e.trail ++ new ∧ ∀ x ∈ new, x.event ≠ launchAuthorized

lemma Lapse.refl (e : Engine) : Lapse w e e :=
  ⟨fun _ _ h => h, fun _ _ h => h, fun _ _ h => .inl h, le_rfl, rfl, rfl,
    [], (List.append_nil _).symm, by simp⟩

variable {e : Engine}

variable {e' : Engine} {i : Nat}

lemma Lapse.trans {e'' : Engine} (h : Lapse w e e') (h' : Lapse w e' e'') : Lapse w e e'' := by
  refine ⟨fun k p hp => h.pending k p (h'.pending k p hp),
    fun k a ha => h.active k a (h'.active k a ha), ?_, h.reads.trans h'.reads,
    h'.issued.trans h.issued, h'.history.trans h.history, ?_⟩
  · intro k a ha
    obtain ha' | ⟨n, hn, hn', hlate⟩ := h.lapsed k a ha
    · obtain ha'' | ⟨n, hn, hn', hlate⟩ := h'.lapsed k a ha'
      · exact .inl ha''
      · exact .inr ⟨n, h.reads.trans hn, hn', hlate⟩
    · exact .inr ⟨n, hn, hn'.trans_le h'.reads, hlate⟩
  · obtain ⟨new, happ, hnew⟩ := h.trail
    obtain ⟨new', happ', hnew'⟩ := h'.trail
    refine ⟨new ++ new', by rw [happ', happ, List.append_assoc], ?_⟩
    intro x hx
    rcases List.mem_append.mp hx with hx | hx
    · exact hnew x hx
    · exact hnew' x hx

lemma Lapse.read (e : Engine) : Lapse w e { e with reads := e.reads + 1 } :=
  ⟨fun _ _ h => h, fun _ _ h => h, fun _ _ h => .inl h, Nat.le_succ _, rfl, rfl,
    [], (List.append_nil _).symm, by simp⟩

lemma Lapse.record {entry : TrailEntry} (h : entry.event ≠ launchAuthorized) (e : Engine) :
    Lapse w e { e with trail := e.trail ++ [entry] } :=
  ⟨fun _ _ h => h, fun _ _ h => h, fun _ _ h => .inl h, le_rfl, rfl, rfl,
    [entry], rfl, by simpa using h⟩

/-- Nothing in the tables has run out at `now`. -/
structure Fresh (now : ℚ) (e : Engine) : Prop where
  pending : ∀ k p, find e.pending k = some p → now ≤ p.expiresAt
  active : ∀ k a, find e.active k = some a → now ≤ a.expiresAt

lemma requestExpired_ne (k : Kind) : k.value ++ "_request_expired" ≠ launchAuthorized := by
  cases k <;> decide

lemma expired_ne (k : Kind) : k.value ++ "_expired" ≠ launchAuthorized := by
  cases k <;> decide

/-- The requests that are left to look at, in the loop over them. -/
structure Sweeping (w : World) (e₀ : Engine) (rest : List (Kind × Pending)) (e : Engine) :
    Prop where
  lapse : Lapse w e₀ e
  reads : e.reads = e₀.reads + 1
  pending : ∀ k p, find e.pending k = some p → (k, p) ∈ rest ∨ w.clock e₀.reads ≤ p.expiresAt

lemma expirePending_spec (e₀ : Engine) (x : Kind × Pending) (rest : List (Kind × Pending)) :
    Triple (Sweeping w e₀ (x :: rest)) (expirePending w c (w.clock e₀.reads) x)
      (fun _ => Sweeping w e₀ rest) (fun _ e => Lapse w e₀ e ∧ e.reads = e₀.reads + 1) := by
  refine Triple.ite ?_ ?_
  · intro _
    refine ((Triple.modify _).bind fun _ => record_triple).pre ?_
    intro e he
    have hswept : Sweeping w e₀ rest
        { e with
          pending := remove e.pending x.1
          trail := e.trail ++ [{ event := x.1.value ++ "_request_expired"
                                 profile := c.profile.value
                                 operator := x.2.operator }] } := by
      refine ⟨he.lapse.trans ⟨fun k p hp => (find_remove_some hp).2, fun _ _ h => h,
        fun _ _ h => .inl h, le_rfl, rfl, rfl, _, rfl, ?_⟩, he.reads, ?_⟩
      · simpa using requestExpired_ne x.1
      · intro k p hp
        obtain ⟨hk, hp⟩ := find_remove_some hp
        refine (he.pending k p hp).imp_left fun hmem => ?_
        exact (List.mem_cons.mp hmem).resolve_left fun heq => hk (congrArg Prod.fst heq)
    exact ⟨hswept, fun _ => ⟨hswept.lapse, hswept.reads⟩⟩
  · intro hlive e he
    refine ⟨he.lapse, he.reads, fun k p hp => ?_⟩
    rcases he.pending k p hp with hmem | hle
    · rcases List.mem_cons.mp hmem with rfl | hmem
      · exact .inr (not_lt.mp hlive)
      · exact .inl hmem
    · exact .inr hle

/-- The confirmations that are left to look at, in the loop over them. -/
structure SweepingActive (w : World) (e₀ : Engine) (rest : List (Kind × Active)) (e : Engine) :
    Prop where
  lapse : Lapse w e₀ e
  reads : e.reads = e₀.reads + 1
  pending : ∀ k p, find e.pending k = some p → w.clock e₀.reads ≤ p.expiresAt
  old : ∀ x ∈ rest, find e₀.active x.1 = some x.2
  active : ∀ k a, find e.active k = some a → (k, a) ∈ rest ∨ w.clock e₀.reads ≤ a.expiresAt

lemma expireActive_spec (e₀ : Engine) (x : Kind × Active) (rest : List (Kind × Active)) :
    Triple (SweepingActive w e₀ (x :: rest)) (expireActive w c (w.clock e₀.reads) x)
      (fun _ => SweepingActive w e₀ rest) (fun _ e => Lapse w e₀ e ∧ e.reads = e₀.reads + 1) := by
  refine Triple.ite ?_ ?_
  · intro hlate
    refine ((Triple.modify _).bind fun _ => record_triple).pre ?_
    intro e he
    have hswept : SweepingActive w e₀ rest
        { e with
          active := remove e.active x.1
          trail := e.trail ++ [{ event := x.1.value ++ "_expired"
                                 profile := c.profile.value
                                 operator := x.2.operator }] } := by
      obtain ⟨new, happ, hnew⟩ := he.lapse.trail
      refine ⟨⟨he.lapse.pending, fun k a ha => he.lapse.active k a (find_remove_some ha).2, ?_,
        he.lapse.reads, he.lapse.issued, he.lapse.history, ?_⟩, he.reads, he.pending,
        fun y hy => he.old y (List.mem_cons_of_mem _ hy), ?_⟩
      · intro k a ha
        by_cases hk : x.1 = k
        · -- the one that is dropped had run out
          obtain rfl := Option.some.inj ((he.old x (List.mem_cons_self ..)).symm.trans (hk ▸ ha))
          have hlt : e₀.reads < e.reads := he.reads ▸ Nat.lt_succ_self _
          exact .inr ⟨e₀.reads, le_rfl, hlt, hlate⟩
        · exact (he.lapse.lapsed k a ha).imp_left fun h => (find_remove_ne _ hk).trans h
      · refine ⟨new ++ [_], by rw [← List.append_assoc, ← happ], ?_⟩
        intro y hy
        rcases List.mem_append.mp hy with hy | hy
        · exact hnew y hy
        · rw [List.mem_singleton.mp hy]
          exact expired_ne x.1
      · intro k a ha
        obtain ⟨hk, ha⟩ := find_remove_some ha
        refine (he.active k a ha).imp_left fun hmem => ?_
        exact (List.mem_cons.mp hmem).resolve_left fun heq => hk (congrArg Prod.fst heq)
    exact ⟨hswept, fun _ => ⟨hswept.lapse, hswept.reads⟩⟩
  · intro hlive e he
    refine ⟨he.lapse, he.reads, he.pending, fun y hy => he.old y (List.mem_cons_of_mem _ hy), ?_⟩
    intro k a ha
    rcases he.active k a ha with hmem | hle
    · rcases List.mem_cons.mp hmem with rfl | hmem
      · exact .inr (not_lt.mp hlive)
      · exact .inl hmem
    · exact .inr hle

/-- `_expire` drops what has run out by its reading, and nothing else. -/
lemma expire_spec (e₀ : Engine) : Triple (· = e₀) (expire w c)
      (fun _ e => Lapse w e₀ e ∧ e.reads = e₀.reads + 1 ∧ Fresh (w.clock e₀.reads) e)
      (fun _ e => Lapse w e₀ e ∧ e.reads = e₀.reads + 1) := by
  refine Triple.bind (Q := fun now e => now = w.clock e₀.reads ∧
    Sweeping w e₀ (items e.pending) e) ?_ ?_
  · intro e he
    subst he
    exact ⟨rfl, .read e, rfl, fun k p hp => .inl (mem_items.mpr hp)⟩
  intro now
  refine Triple.of_imp fun hnow => ?_
  subst hnow
  refine Triple.bind (Q := fun e e' => Sweeping w e₀ (items e.pending) e') Triple.get ?_
  intro e
  refine (Triple.each (expirePending_spec e₀) (items e.pending)).bind fun _ => ?_
  refine Triple.bind (Q := fun e e' => SweepingActive w e₀ (items e.active) e') ?_ ?_
  · refine Triple.get.pre ?_
    intro e he
    exact ⟨he.lapse, he.reads, fun k p hp => (he.pending k p hp).resolve_left (by simp),
      fun x hx => he.lapse.active _ _ (mem_items.mp hx), fun k a ha => .inl (mem_items.mpr ha)⟩
  intro e
  refine (Triple.each (expireActive_spec e₀) (items e.active)).post ?_
  intro _ e he
  exact ⟨he.lapse, he.reads, he.pending, fun k a ha => (he.active k a ha).resolve_left (by simp)⟩

def overriddenAt (e : Engine) : List String := ((find e.active .override).map Active.rules).getD []

lemma overriddenRules_spec (e₀ : Engine) : Triple (· = e₀) (overriddenRules w c)
      (fun rules e => Lapse w e₀ e ∧ e.reads = e₀.reads + 1 ∧ Fresh (w.clock e₀.reads) e ∧
        rules = overriddenAt e)
      (fun _ e => Lapse w e₀ e) := by
  refine Triple.bind ((expire_spec e₀).raises fun _ _ h => h.1) ?_
  intro _ e he
  exact ⟨he.1, he.2.1, he.2.2, rfl⟩

lemma confirmationState_spec (e₀ : Engine) : Triple (· = e₀) (Confirmations.confirmationState w c)
      (fun _ e => Lapse w e₀ e ∧ e.reads = e₀.reads + 2) (fun _ e => Lapse w e₀ e) := by
  refine Triple.bind ((expire_spec e₀).raises fun _ _ h => h.1) ?_
  intro _ e he
  exact ⟨he.1.trans (.read e), congrArg (· + 1) he.2.1⟩

/-- A fleet is judged by what the second sweep of an evaluation left. -/
structure Judged (w : World) (c : EngineConfig) (fleet : FleetView) (e₀ : Engine) (report : Report)
    (e₁ : Engine) : Prop where
  lapse : Lapse w e₀ e₁
  reads : e₁.reads = e₀.reads + 2
  fresh : Fresh (w.clock (e₀.reads + 1)) e₁
  report : report = judge c (overriddenAt e₁) (find e₁.active .latch) (w.clock (e₀.reads + 2)) fleet

lemma evaluate_spec (fleet : FleetView) (e₀ : Engine) : Triple (· = e₀) (evaluate w c fleet)
      (fun r e => ∃ e₁, Judged w c fleet e₀ r.1 e₁ ∧ Lapse w e₁ e ∧ e.reads = e₀.reads + 5)
      (fun _ e => Lapse w e₀ e) := by
  refine Triple.bind ((expire_spec e₀).raises fun _ _ h => h.1) ?_
  intro _ e he
  obtain ⟨hlapse, hreads, -⟩ := he
  have hrules := (overriddenRules_spec (w := w) (c := c) e).raises fun _ _ h => hlapse.trans h
  refine hrules.bind (fun rules e₁ he₁ => ?_) e rfl
  obtain ⟨hlapse₁, hreads₁, hfresh, rfl⟩ := he₁
  have hreads' : e₁.reads = e₀.reads + 2 := by omega
  have hjudged : Judged w c fleet e₀
      (judge c (overriddenAt e₁) (find e₁.active .latch) (w.clock e₁.reads) fleet) e₁ :=
    ⟨hlapse.trans hlapse₁, hreads', hreads ▸ hfresh, by rw [hreads']⟩
  have hstate := (confirmationState_spec (w := w) (c := c) { e₁ with reads := e₁.reads + 1 }).ends (fun _ _ h => And.intro ((Lapse.read e₁).trans h.1) h.2)
    fun _ _ h => hjudged.lapse.trans ((Lapse.read e₁).trans h)
  have hreport := hstate.bind (f := fun confirmations => (pure (_, confirmations) : EngineM _))
    (R := fun r e => ∃ e₁, Judged w c fleet e₀ r.1 e₁ ∧ Lapse w e₁ e ∧ e.reads = e₀.reads + 5)
    fun _ e' he' => ⟨e₁, hjudged, he'.1, by rw [he'.2, hreads']⟩
  exact hreport _ rfl

/-- How a request leaves the engine: pending, in the place of any earlier one. -/
def requestedFrom (w : World) (c : EngineConfig) (k : Kind) (operator : String)
    (rules : List String) (reason : String) (e : Engine) : Engine :=
  { e with
    issued := e.issued + 1
    reads := e.reads + 1
    pending := assign e.pending k
      ⟨w.token e.issued, operator, w.clock e.reads + c.confirmWindowS, rules, reason⟩
    history := e.history ++ [.requested k (w.token e.issued) (w.clock e.reads)] }

lemma request_spec (k : Kind) (operator : String) (rules : List String) (reason : String)
    (e₀ : Engine) :
    Triple (· = e₀) (request w c k operator rules reason)
      (fun token e => ∃ e₁ trail, Lapse w e₀ e₁ ∧ token = w.token e₁.issued ∧
        e = { requestedFrom w c k operator rules reason e₁ with trail := trail })
      (fun _ e => Lapse w e₀ e ∨ ∃ e₁ trail, Lapse w e₀ e₁ ∧
        e = { requestedFrom w c k operator rules reason e₁ with trail := trail }) := by
  refine Triple.bind ((expire_spec e₀).raises fun _ _ hl => .inl hl.1) ?_
  intro _ e he
  simp only [outcome_bind, outcome_issueToken, outcome_clock, outcome_modify, outcome_note,
    outcome_record, outcome_pure]
  cases w.auditFails e.trail.length with
  | true => exact .inr ⟨e, _, he.1, rfl⟩
  | false => exact ⟨e, _, he.1, rfl, rfl⟩

/-! ## What a confirmation does -/

/-- How a confirmation leaves the engine: its request gone, and active from now. -/
def confirmedFrom (w : World) (c : EngineConfig) (k : Kind) (p : Pending) (operator : String)
    (e₀ e₁ : Engine) : Engine :=
  { e₁ with
    reads := e₁.reads + 1
    pending := remove e₁.pending k
    active := assign e₁.active k
      ⟨operator, w.clock e₁.reads, w.clock e₁.reads + c.holdS, p.rules, p.reason⟩
    history := e₁.history ++ [.confirmed k p.token (w.clock e₀.reads) (w.clock e₁.reads)] }

/-- The token was that of a pending request whose window was open. -/
def Accepted (w : World) (c : EngineConfig) (k : Kind) (token operator : String) (e₀ e : Engine) :
    Prop :=
  ∃ e₁ p trail, Lapse w e₀ e₁ ∧ Fresh (w.clock e₀.reads) e₁ ∧ find e₁.pending k = some p ∧
    p.token = token ∧ e = { confirmedFrom w c k p operator e₀ e₁ with trail := trail }

lemma confirmRejected_ne (k : Kind) : k.value ++ "_confirm_rejected" ≠ launchAuthorized := by
  cases k <;> decide

lemma rejectConfirm_spec (k : Kind) (operator : String) (e₀ : Engine) :
    Triple (· = e₀) (rejectConfirm w c k operator) (fun _ _ => False)
      (fun _ e => Lapse w e₀ e) := by
  refine Triple.bind (Q := fun _ e => Lapse w e₀ e) ?_ fun _ _ h => h
  refine record_triple.pre ?_
  intro e he
  subst he
  exact ⟨.record (confirmRejected_ne k) e, fun _ => .record (confirmRejected_ne k) e⟩

lemma acceptConfirm_spec (k : Kind) (p : Pending) (operator : String)
    (gates : Option (Bool × List String)) (e₀ e₁ : Engine) :
    Triple (· = e₁) (acceptConfirm w c k p operator gates (w.clock e₀.reads))
      (fun _ e => ∃ trail, e = { confirmedFrom w c k p operator e₀ e₁ with trail := trail })
      (fun _ e => ∃ trail, e = { confirmedFrom w c k p operator e₀ e₁ with trail := trail }) := by
  intro e he
  subst he
  simp only [acceptConfirm, outcome_bind, outcome_modify, outcome_clock, outcome_note,
    outcome_record]
  cases w.auditFails e.trail.length <;> exact ⟨_, rfl⟩

/-- A confirmation is accepted for its token only; an entry that could not be
written does not take it back. -/
lemma confirm_spec (k : Kind) (token operator : String) (gates : Option (Bool × List String))
    (e₀ : Engine) :
    Triple (· = e₀) (confirm w c k token operator gates)
      (fun _ e => Accepted w c k token operator e₀ e)
      (fun _ e => Lapse w e₀ e ∨ Accepted w c k token operator e₀ e) := by
  refine Triple.bind (Q := fun e e' => e = e₀ ∧ e' = e₀) (Triple.get.pre (fun _ h => ⟨h, h⟩)) ?_
  intro e
  refine Triple.of_imp fun he => ?_
  subst he
  refine Triple.bind ((expire_spec e).raises fun _ _ hl => .inl hl.1) ?_
  intro _ e₁ he₁
  obtain ⟨hlapse, -, hfresh⟩ := he₁
  have hreject : Triple (· = e₁) (rejectConfirm w c k operator)
      (fun _ e' => Accepted w c k token operator e e')
      (fun _ e' => Lapse w e e' ∨ Accepted w c k token operator e e') :=
    (rejectConfirm_spec k operator e₁).ends (fun _ _ h => h.elim)
      fun _ _ hl => .inl (hlapse.trans hl)
  rw [outcome_bind, outcome_get]
  cases hp : find e₁.pending k with
  | none =>
    simp only [hp]
    exact hreject e₁ rfl
  | some p =>
    simp only [hp]
    by_cases hascii : p.token.toList.all (·.toNat < 128) && token.toList.all (·.toNat < 128)
    · simp only [outcome_bind, compareDigest, hascii, if_true, outcome_pure]
      by_cases htoken : p.token = token
      · simp only [htoken, decide_true, if_true]
        refine ((acceptConfirm_spec k p operator gates e e₁).ends ?_ ?_) e₁ rfl
        · intro _ e' he'
          obtain ⟨trail, rfl⟩ := he'
          exact ⟨e₁, p, trail, hlapse, hfresh, hp, htoken, rfl⟩
        · intro _ e' he'
          obtain ⟨trail, rfl⟩ := he'
          exact .inr ⟨e₁, p, trail, hlapse, hfresh, hp, htoken, rfl⟩
      · simp only [htoken, decide_false]
        exact hreject e₁ rfl
    · simp only [outcome_bind, compareDigest, hascii]
      exact .inl hlapse

/-! ## What every event goes back to -/

def tokenOf : Event → Option String
  | .requested _ token _ => some token
  | _ => none

def timeOf : Event → ℚ
  | .requested _ _ time => time
  | .confirmed _ _ _ time => time
  | .launched time => time

/-- An earlier request of the kind is not the pending one any more. -/
def Touches (k : Kind) : Event → Prop
  | .requested k' _ _ => k' = k
  | .confirmed k' _ _ _ => k' = k
  | .launched _ => False

/-- An earlier confirmation of the kind is not the active one any more. -/
def Uses (k : Kind) : Event → Prop
  | .requested _ _ _ => False
  | .confirmed k' _ _ _ => k' = k
  | .launched _ => True

/-- At place `j` the pending request of the kind is the one of this token and time. -/
def Requested (h : List Event) (j : Nat) (k : Kind) (token : String) (time : ℚ) : Prop :=
  ∃ i, i < j ∧ h[i]? = some (.requested k token time) ∧ Between (Touches k) h i j

/-- At place `j` the active confirmation of the kind is this one. -/
def Confirmed (h : List Event) (j : Nat) (k : Kind) (token : String) (checked time : ℚ) : Prop :=
  ∃ i, i < j ∧ h[i]? = some (.confirmed k token checked time) ∧ Between (Uses k) h i j

/-- The rules are ones the profile lets an operator override. -/
def Allowed (c : EngineConfig) (rules : List String) : Prop :=
  ∀ r ∈ rules, r ∈ c.policy.overridable.map RuleId.id

/-- A confirmation answers the pending request within its window, and a launch
that needs the latch uses the active one within its hold. -/
def Justified (c : EngineConfig) (h : List Event) (j : Nat) : Event → Prop
  | .requested _ _ _ => True
  | .confirmed k token checked _ =>
    ∃ asked, Requested h j k token asked ∧ asked ≤ checked ∧ checked ≤ asked + c.confirmWindowS
  | .launched time => c.policy.severity .operatorLatch = .blocking →
    ∃ token checked confirmedAt, Confirmed h j .latch token checked confirmedAt ∧
      confirmedAt ≤ time ∧ time ≤ confirmedAt + c.holdS

section

variable {h : List Event} {j : Nat} {k : Kind} {token : String} {checked time : ℚ} {y : Event}

lemma Requested.snoc_le (hr : Requested h j k token time) (hj : j ≤ h.length) (y : Event) :
    Requested (h ++ [y]) j k token time := by
  obtain ⟨i, hi, hx, hb⟩ := hr
  exact ⟨i, hi, getElem?_snoc_of_some hx y, hb.snoc_le hj y⟩

lemma Requested.snoc (hr : Requested h h.length k token time) (hy : ¬ Touches k y) :
    Requested (h ++ [y]) (h ++ [y]).length k token time := by
  obtain ⟨i, hi, hx, hb⟩ := hr
  refine ⟨i, hi.trans ?_, getElem?_snoc_of_some hx y, hb.snoc hy⟩
  simp

lemma requested_last (h : List Event) (k : Kind) (token : String) (time : ℚ) :
    Requested (h ++ [Event.requested k token time]) (h ++ [Event.requested k token time]).length k
      token time :=
  ⟨h.length, by simp, List.getElem?_concat_length, between_last _ _ _⟩

lemma Confirmed.snoc_le (hc : Confirmed h j k token checked time) (hj : j ≤ h.length)
    (y : Event) : Confirmed (h ++ [y]) j k token checked time := by
  obtain ⟨i, hi, hx, hb⟩ := hc
  exact ⟨i, hi, getElem?_snoc_of_some hx y, hb.snoc_le hj y⟩

lemma Confirmed.snoc (hc : Confirmed h h.length k token checked time) (hy : ¬ Uses k y) :
    Confirmed (h ++ [y]) (h ++ [y]).length k token checked time := by
  obtain ⟨i, hi, hx, hb⟩ := hc
  refine ⟨i, hi.trans ?_, getElem?_snoc_of_some hx y, hb.snoc hy⟩
  simp

lemma confirmed_last (h : List Event) (k : Kind) (token : String) (checked time : ℚ) :
    Confirmed (h ++ [Event.confirmed k token checked time])
      (h ++ [Event.confirmed k token checked time]).length k token checked time :=
  ⟨h.length, by simp, List.getElem?_concat_length, between_last _ _ _⟩

lemma Justified.snoc_le {x : Event} (hx : Justified c h j x) (hj : j ≤ h.length) (y : Event) :
    Justified c (h ++ [y]) j x := by
  cases x with
  | requested k token time => trivial
  | confirmed k token checked time =>
    obtain ⟨asked, hr, hle⟩ := hx
    exact ⟨asked, hr.snoc_le hj y, hle⟩
  | launched time =>
    intro hblocking
    obtain ⟨token, checked, confirmedAt, hc, hle⟩ := hx hblocking
    exact ⟨token, checked, confirmedAt, hc.snoc_le hj y, hle⟩

end

/-- The tables are what the history says, and every event of it is justified. -/
structure Accounted (w : World) (c : EngineConfig) (e : Engine) : Prop where
  pending : ∀ k p, find e.pending k = some p → Allowed c p.rules ∧
    ∃ time, Requested e.history e.history.length k p.token time ∧
      p.expiresAt = time + c.confirmWindowS
  active : ∀ k a, find e.active k = some a → Allowed c a.rules ∧
    ∃ token checked time, Confirmed e.history e.history.length k token checked time ∧
      a.expiresAt = time + c.holdS
  justified : ∀ j x, e.history[j]? = some x → Justified c e.history j x
  tokens : e.history.filterMap tokenOf = (List.range e.issued).map w.token
  times : ∀ x ∈ e.history, timeOf x ≤ w.clock e.reads

lemma accounted_fresh : Accounted w c {} :=
  ⟨nofun, nofun, nofun, rfl, nofun⟩

lemma Accounted.lapse (hclock : Monotone w.clock) (h : Accounted w c e)
    (hl : Lapse w e e') : Accounted w c e' := by
  refine ⟨fun k p hp => ?_, fun k a ha => ?_, ?_, ?_, ?_⟩
  · rw [hl.history]
    exact h.pending k p (hl.pending k p hp)
  · rw [hl.history]
    exact h.active k a (hl.active k a ha)
  · rw [hl.history]
    exact h.justified
  · rw [hl.history, hl.issued]
    exact h.tokens
  · intro x hx
    rw [hl.history] at hx
    exact (h.times x hx).trans (hclock hl.reads)

lemma Accounted.trail (h : Accounted w c e) (trail : List TrailEntry) :
    Accounted w c { e with trail := trail } :=
  ⟨h.pending, h.active, h.justified, h.tokens, h.times⟩

lemma justified_snoc {h : List Event} {y : Event}
    (hold : ∀ j x, h[j]? = some x → Justified c h j x) (hy : Justified c h h.length y) (j : Nat)
    (x : Event) (hx : (h ++ [y])[j]? = some x) : Justified c (h ++ [y]) j x := by
  obtain hx | ⟨rfl, rfl⟩ := getElem?_snoc hx
  · exact (hold j x hx).snoc_le (lt_length_of_getElem? hx).le y
  · exact hy.snoc_le le_rfl x

lemma times_snoc {h : List Event} {y : Event} {t t' : ℚ} (hold : ∀ x ∈ h, timeOf x ≤ t)
    (ht : t ≤ t') (hy : timeOf y ≤ t') (x : Event) (hx : x ∈ h ++ [y]) : timeOf x ≤ t' := by
  rcases List.mem_append.mp hx with hx | hx
  · exact (hold x hx).trans ht
  · rw [List.mem_singleton.mp hx]
    exact hy

section Calls

variable (hclock : Monotone w.clock)

include hclock

variable {operator : String} {rules : List String}

lemma Accounted.requested {e : Engine} (h : Accounted w c e)
    (k : Kind) {reason : String} (hrules : Allowed c rules) :
    Accounted w c (requestedFrom w c k operator rules reason e) := by
  unfold requestedFrom
  refine ⟨?_, ?_, ?_, ?_, ?_⟩
  · intro k' p hp
    by_cases hk : k = k'
    · subst hk
      rw [find_assign_self] at hp
      obtain rfl := Option.some.inj hp
      exact ⟨hrules, _, requested_last .., rfl⟩
    · rw [find_assign_ne _ _ hk] at hp
      obtain ⟨hallowed, time, hr, hexpires⟩ := h.pending k' p hp
      exact ⟨hallowed, time, hr.snoc hk, hexpires⟩
  · intro k' a ha
    obtain ⟨hallowed, token, checked, time, hc, hexpires⟩ := h.active k' a ha
    exact ⟨hallowed, token, checked, time, hc.snoc nofun, hexpires⟩
  · exact justified_snoc h.justified trivial
  · rw [List.filterMap_append, h.tokens, List.range_succ, List.map_append]
    rfl
  · exact times_snoc h.times (hclock (Nat.le_succ _)) (hclock (Nat.le_succ _))

variable {e₀ : Engine}

lemma Accounted.confirmed {e : Engine} (h : Accounted w c e)
    {k : Kind} {p : Pending} (hp : find e.pending k = some p)
    (htimes : ∀ x ∈ e.history, timeOf x ≤ w.clock e₀.reads)
    (hlive : w.clock e₀.reads ≤ p.expiresAt) :
    Accounted w c (confirmedFrom w c k p operator e₀ e) := by
  unfold confirmedFrom
  obtain ⟨hrules, asked, hasked, hexpires⟩ := h.pending k p hp
  refine ⟨?_, ?_, ?_, ?_, ?_⟩
  · intro k' p' hp'
    obtain ⟨hk, hp'⟩ := find_remove_some hp'
    obtain ⟨hallowed, time, hr, hexpires'⟩ := h.pending k' p' hp'
    exact ⟨hallowed, time, hr.snoc (Ne.symm hk), hexpires'⟩
  · intro k' a ha
    by_cases hk : k = k'
    · subst hk
      rw [find_assign_self] at ha
      obtain rfl := Option.some.inj ha
      exact ⟨hrules, p.token, _, _, confirmed_last .., rfl⟩
    · rw [find_assign_ne _ _ hk] at ha
      obtain ⟨hallowed, token, checked, time, hc, hexpires'⟩ := h.active k' a ha
      exact ⟨hallowed, token, checked, time, hc.snoc hk, hexpires'⟩
  · refine justified_snoc h.justified ⟨asked, hasked, ?_, hexpires ▸ hlive⟩
    obtain ⟨i, -, hi, -⟩ := hasked
    exact htimes _ (List.mem_of_getElem? hi)
  · rw [List.filterMap_append, h.tokens]
    exact List.append_nil _
  · exact times_snoc h.times (hclock (Nat.le_succ _)) (hclock (Nat.le_succ _))

lemma Accounted.launched {e : Engine} (h : Accounted w c e) {first : Nat}
    (hfirst : first + 1 ≤ e.reads)
    (hlatch : Justified c e.history e.history.length (.launched (w.clock (first + 1)))) :
    Accounted w c { e with
      active := remove (remove e.active .latch) .override
      history := e.history ++ [.launched (w.clock (first + 1))] } := by
  refine ⟨?_, ?_, ?_, ?_, ?_⟩
  · intro k p hp
    obtain ⟨hallowed, time, hr, hexpires⟩ := h.pending k p hp
    exact ⟨hallowed, time, hr.snoc nofun, hexpires⟩
  · intro k a ha
    -- both kinds are gone
    obtain ⟨hoverride, ha⟩ := find_remove_some ha
    obtain ⟨hlatch, -⟩ := find_remove_some ha
    cases k with
    | latch => exact absurd rfl hlatch
    | override => exact absurd rfl hoverride
  · exact justified_snoc h.justified hlatch
  · rw [List.filterMap_append, h.tokens]
    exact List.append_nil _
  · exact times_snoc h.times le_rfl (hclock hfirst)

lemma request_accounted (h : Accounted w c e₀) (k : Kind)
    (operator reason : String) (hrules : Allowed c rules) :
    Triple (· = e₀) (request w c k operator rules reason) (fun _ e => Accounted w c e)
      (fun _ e => Accounted w c e) := by
  refine (request_spec k operator rules reason e₀).ends ?_ ?_
  · intro _ e he
    obtain ⟨e₁, trail, hlapse, -, rfl⟩ := he
    exact ((h.lapse hclock hlapse).requested hclock k hrules).trail trail
  · intro _ e he
    rcases he with hlapse | ⟨e₁, trail, hlapse, rfl⟩
    · exact h.lapse hclock hlapse
    · exact ((h.lapse hclock hlapse).requested hclock k hrules).trail trail

lemma confirm_accounted (h : Accounted w c e₀) (k : Kind) (token operator : String)
    (gates : Option (Bool × List String)) :
    Triple (· = e₀) (confirm w c k token operator gates) (fun _ e => Accounted w c e)
      (fun _ e => Accounted w c e) := by
  have haccepted : ∀ e, Accepted w c k token operator e₀ e → Accounted w c e := by
    intro e he
    obtain ⟨e₁, p, trail, hlapse, hfresh, hp, rfl, rfl⟩ := he
    have htimes : ∀ x ∈ e₁.history, timeOf x ≤ w.clock e₀.reads := by
      rw [hlapse.history]
      exact h.times
    exact ((h.lapse hclock hlapse).confirmed hclock hp htimes (hfresh.pending k p hp)).trail trail
  refine (confirm_spec k token operator gates e₀).ends (fun _ e he => haccepted e he) fun _ e he => ?_
  rcases he with hlapse | he
  · exact h.lapse hclock hlapse
  · exact haccepted e he

lemma requestOverride_accounted (h : Accounted w c e₀) (rules : List String)
    (reason operator : String) :
    Triple (· = e₀) (Confirmations.requestOverride w c rules reason operator)
      (fun _ e => Accounted w c e) (fun _ e => Accounted w c e) := by
  refine Triple.ite (fun _ e he => he ▸ h) fun _ => ?_
  refine Triple.ite (fun _ e he => he ▸ h) fun _ => ?_
  refine Triple.ite (fun _ => ?_) fun hrefused => ?_
  · refine Triple.bind (Q := fun _ e => Accounted w c e) ?_ fun _ _ h => h
    refine record_triple.pre ?_
    intro e he
    subst he
    exact ⟨h.trail _, fun _ => h.trail _⟩
  · refine request_accounted hclock h .override operator _ ?_
    intro r hr
    by_contra hnot
    have hmem : r ∈ sortedRules (rules.filter (· ∉ c.policy.overridable.map RuleId.id)) := by
      rw [sortedRules, List.mem_insertionSort, List.mem_dedup]
      exact List.mem_filter.mpr ⟨hr, decide_eq_true hnot⟩
    rw [not_not.mp hrefused] at hmem
    cases hmem

end Calls

/-! ## The launch decision -/

lemma latch_of_permitted {overridden : List String} {latch : Option Active} {now : ℚ}
    {fleet : FleetView} (hblocking : c.policy.severity .operatorLatch = .blocking)
    (hallowed : Allowed c overridden)
    (hpermitted : (judge c overridden latch now fleet).launchPermitted = true) :
    latch.isSome = true := by
  have hnot : RuleId.operatorLatch.id ∉ overridden := by
    intro hmem
    obtain ⟨rule, hrule, hid⟩ := List.mem_map.mp (hallowed _ hmem)
    exact latch_not_overridable c.profile (ruleId_injective hid ▸ hrule)
  by_contra hnone
  rw [Bool.not_eq_true] at hnone
  have hfail : (gate c.policy overridden (latchCheck latch now)).state = .fail := by
    have hcheck : (latchCheck latch now).1 = .operatorLatch := rfl
    have hpassed : (latchCheck latch now).2.1 = false := hnone
    simp [gate, hcheck, hpassed, hblocking, hnot]
  have hreasons := of_decide_eq_true hpermitted
  simp [judge, hfail] at hreasons

/-- How a permitted launch leaves the engine: on record, and without its
confirmations. -/
def launchedFrom (w : World) (e₀ e₂ : Engine) (entry : TrailEntry) : Engine :=
  { e₂ with
    trail := e₂.trail ++ [entry]
    active := remove (remove e₂.active .latch) .override
    history := e₂.history ++ [.launched (w.clock (e₀.reads + 1))] }

/-- What `authorize_launch` came to: refused, or permitted. -/
inductive Authorised (w : World) (c : EngineConfig) (fleet : FleetView) (e₀ : Engine)
    (d : Decision) (e : Engine) : Prop where
  | refused (e₁ : Engine) (judged : Judged w c fleet e₀ d.report e₁)
      (red : d.report.launchPermitted = false) (permitted : d.permitted = false)
      (lapse : Lapse w e₁ e)
  | launched (e₁ e₂ : Engine) (judged : Judged w c fleet e₀ d.report e₁)
      (green : d.report.launchPermitted = true) (permitted : d.permitted = true)
      (lapse : Lapse w e₁ e₂) (reads : e₂.reads = e₀.reads + 6) (entry : TrailEntry)
      (recorded : entry.event = launchAuthorized)
      (state : e = launchedFrom w e₀ e₂ entry)

def Interrupted (w : World) (e₀ e : Engine) : Prop :=
  ∃ e₂ trail, Lapse w e₀ e₂ ∧ e = { e₂ with trail := trail }

lemma Lapse.interrupted {e₀ : Engine} (h : Lapse w e₀ e) : Interrupted w e₀ e :=
  ⟨e, e.trail, h, rfl⟩

lemma authorizeLaunch_spec (fleet : FleetView) (operator : String) (e₀ : Engine) :
    Triple (· = e₀) (Confirmations.authorizeLaunch w c fleet operator)
      (fun d e => Authorised w c fleet e₀ d e) (fun _ e => Interrupted w e₀ e) := by
  refine Triple.bind (Q := fun e e' => e = e₀ ∧ e' = e₀) (Triple.get.pre (fun _ h => ⟨h, h⟩)) ?_
  intro e
  refine Triple.of_imp fun he => ?_
  subst he
  refine Triple.bind ((evaluate_spec fleet e).raises fun _ _ h => h.interrupted) ?_
  intro r e' he'
  obtain ⟨report, described⟩ := r
  obtain ⟨e₁, hjudged, hlapse, hreads⟩ := he'
  by_cases hgreen : report.launchPermitted = true
  · simp only [hgreen, if_true]
    have hrules := (overriddenRules_spec (w := w) (c := c) e').raises fun _ _ h => (hjudged.lapse.trans (hlapse.trans h)).interrupted
    have hconsume : ∀ rules, Triple (fun e₂ => Lapse w e' e₂ ∧ e₂.reads = e'.reads + 1 ∧
        Fresh (w.clock e'.reads) e₂ ∧ rules = overriddenAt e₂)
        (do
          consume w c operator report rules (w.clock (e.reads + 1))
          return ⟨true, report, report.launchDroneIds, rules⟩ : EngineM Decision)
        (fun d e₂ => Authorised w c fleet e d e₂) (fun _ e₂ => Interrupted w e e₂) := by
      intro rules e₂ he₂
      have hlapse₂ := hlapse.trans he₂.1
      simp only [outcome_bind, consume, outcome_record]
      cases w.auditFails e₂.trail.length with
      | true => exact ⟨e₂, _, hjudged.lapse.trans hlapse₂, rfl⟩
      | false =>
        exact .launched e₁ e₂ hjudged hgreen rfl hlapse₂ (he₂.2.1.trans (by rw [hreads])) _ rfl rfl
    exact hrules.bind hconsume e' rfl
  · simp only [hgreen]
    have hred : report.launchPermitted = false := Bool.not_eq_true _ ▸ hgreen
    rw [if_neg (by simp), outcome_bind, outcome_record]
    cases w.auditFails e'.trail.length with
    | true =>
      exact ⟨e', _, hjudged.lapse.trans hlapse, rfl⟩
    | false =>
      have hentry : "launch_rejected" ≠ launchAuthorized := by decide
      exact .refused e₁ hjudged hred rfl (hlapse.trans (Lapse.record hentry e'))

section

variable (hclock : Monotone w.clock)

include hclock

variable {e₀ : Engine}

lemma authorizeLaunch_accounted (h : Accounted w c e₀) (fleet : FleetView) (operator : String) :
    Triple (· = e₀) (Confirmations.authorizeLaunch w c fleet operator) (fun _ e => Accounted w c e)
      (fun _ e => Accounted w c e) := by
  refine (authorizeLaunch_spec fleet operator e₀).ends ?_ ?_
  · intro d e he
    cases he with
    | refused e₁ judged red permitted lapse => exact h.lapse hclock (judged.lapse.trans lapse)
    | launched e₁ e₂ judged green permitted lapse reads entry recorded state =>
      subst state
      have h₂ := h.lapse hclock (judged.lapse.trans lapse)
      refine (h₂.launched hclock ?_ ?_).trail _
      · have hjudged := judged.reads
        have hlapse := lapse.reads
        omega
      · intro hblocking
        -- the gates were green, so the second sweep had left a latch
        have hallowed : Allowed c (overriddenAt e₁) := by
          unfold overriddenAt
          cases hoverride : find e₁.active .override with
          | none => exact nofun
          | some a => exact (h.active _ _ (judged.lapse.active _ _ hoverride)).1
        rw [judged.report] at green
        obtain ⟨a, ha⟩ := Option.isSome_iff_exists.mp (latch_of_permitted hblocking hallowed green)
        obtain ⟨-, token, checked, time, hconfirmed, hexpires⟩ :=
          h.active _ _ (judged.lapse.active _ _ ha)
        rw [(judged.lapse.trans lapse).history]
        refine ⟨token, checked, time, hconfirmed, ?_, hexpires ▸ judged.fresh.active _ _ ha⟩
        obtain ⟨i, -, hi, -⟩ := hconfirmed
        exact (h.times _ (List.mem_of_getElem? hi)).trans (hclock (Nat.le_succ _))
  · intro _ e he
    obtain ⟨e₂, trail, hlapse, rfl⟩ := he
    exact (h.lapse hclock hlapse).trail _

omit hclock in
lemma discard_accounted {α : Type} {x : EngineM α}
    (h : Triple (· = e₀) x (fun _ e => Accounted w c e) (fun _ e => Accounted w c e)) :
    Triple (· = e₀) (discard x) (fun _ e => Accounted w c e) (fun _ e => Accounted w c e) :=
  h.bind fun _ _ h => h

lemma action_accounted (h : Accounted w c e₀) (call : Call) :
    Triple (· = e₀) (call.action w c) (fun _ e => Accounted w c e)
      (fun _ e => Accounted w c e) := by
  cases call with
  | requestLatch operator =>
    have hnone : Allowed c [] := fun r hr => by cases hr
    exact discard_accounted (request_accounted hclock h .latch operator "" hnone)
  | confirmLatch token operator gates =>
    exact confirm_accounted hclock h .latch token operator gates
  | requestOverride rules reason operator =>
    exact discard_accounted (requestOverride_accounted hclock h rules reason operator)
  | confirmOverride token operator =>
    exact confirm_accounted hclock h .override token operator none
  | confirmationState =>
    refine discard_accounted ((confirmationState_spec e₀).ends ?_ ?_)
    · exact fun _ _ hl => h.lapse hclock hl.1
    · exact fun _ _ hl => h.lapse hclock hl
  | evaluate fleet =>
    refine discard_accounted ((evaluate_spec fleet e₀).ends ?_ ?_)
    · intro _ e he
      obtain ⟨e₁, hjudged, hl, -⟩ := he
      exact h.lapse hclock (hjudged.lapse.trans hl)
    · exact fun _ _ hl => h.lapse hclock hl
  | authorizeLaunch fleet operator =>
    exact discard_accounted (authorizeLaunch_accounted hclock h fleet operator)

variable {os : List Raised}

lemma step_accounted {e e' : Engine} {call : Call} (h : Accounted w c e)
    (hs : step w c e call = some (e', os)) : Accounted w c e' := by
  have hcall := action_accounted hclock h call e rfl
  unfold step at hs
  generalize outcome (call.action w c) e = r at hcall hs
  obtain ⟨v, e₁⟩ := r
  cases v with
  | ok _ =>
    obtain ⟨rfl, -⟩ := Prod.mk.inj (Option.some.inj hs)
    exact hcall
  | error _ =>
    obtain ⟨rfl, -⟩ := Prod.mk.inj (Option.some.inj hs)
    exact hcall

lemma run_accounted {e : Engine} {calls : List Call}
    (hrun : run (step w c) {} calls = some (e, os)) : Accounted w c e :=
  run_invariant (I := Accounted w c) (A := fun _ _ => True)
    (fun _ _ _ _ h _ hs => step_accounted hclock h hs) accounted_fresh
    (along_of_labels fun _ _ => trivial) hrun

end

/-! ## The history is what the calls returned -/

/-- What a call gives back from a state is an event of that call's own time. -/
structure Records (w : World) (c : EngineConfig) (e : Engine) : Prop where
  requested : ∀ k operator rules reason token e',
    outcome (request w c k operator rules reason) e = (.ok token, e') →
      ∃ n, e.reads ≤ n ∧ n < e'.reads ∧ e'.history = e.history ++ [.requested k token (w.clock n)]
  confirmed : ∀ k token operator gates e',
    outcome (confirm w c k token operator gates) e = (.ok (), e') →
      ∃ n, e.reads ≤ n ∧ n < e'.reads ∧
        e'.history = e.history ++ [.confirmed k token (w.clock e.reads) (w.clock n)]
  launched : ∀ fleet operator d e',
    outcome (Confirmations.authorizeLaunch w c fleet operator) e = (.ok d, e') →
      d.permitted = true → e.reads + 1 < e'.reads ∧
        e'.history = e.history ++ [.launched (w.clock (e.reads + 1))] ∧
        find e'.active .latch = none ∧ find e'.active .override = none

lemma records (e : Engine) : Records w c e := by
  refine ⟨?_, ?_, ?_⟩
  · intro k operator rules reason token e' hcall
    obtain ⟨e₁, trail, hlapse, rfl, rfl⟩ := (request_spec k operator rules reason e).ok rfl hcall
    exact ⟨e₁.reads, hlapse.reads, Nat.lt_succ_self _, hlapse.history ▸ rfl⟩
  · intro k token operator gates e' hcall
    obtain ⟨e₁, p, trail, hlapse, -, -, rfl, rfl⟩ :=
      (confirm_spec k token operator gates e).ok rfl hcall
    exact ⟨e₁.reads, hlapse.reads, Nat.lt_succ_self _, hlapse.history ▸ rfl⟩
  · intro fleet operator d e' hcall hpermitted
    have hauth := (authorizeLaunch_spec fleet operator e).ok rfl hcall
    cases hauth with
    | refused e₁ judged red permitted lapse =>
      rw [permitted] at hpermitted
      cases hpermitted
    | launched e₁ e₂ judged green permitted lapse reads entry recorded state =>
      subst state
      have hreads := judged.reads
      have hle := lapse.reads
      refine ⟨by show e.reads + 1 < e₂.reads; omega, ?_, ?_, find_remove_self _ _⟩
      · exact (judged.lapse.trans lapse).history ▸ rfl
      · exact (find_remove_ne _ (by decide)).trans (find_remove_self _ _)

/-- The launch at place `j` uses up the latch confirmation at place `i`: nothing
has replaced or used that one, it is at most the hold old, and it gave the token
of the latest latch request, within the window. -/
def Authorises (c : EngineConfig) (h : List Event) (i j : Nat) : Prop :=
  ∃ token asked checked confirmedAt time,
    h[i]? = some (.confirmed .latch token checked confirmedAt) ∧ h[j]? = some (.launched time) ∧
      i < j ∧ Between (Uses .latch) h i j ∧
      confirmedAt ≤ time ∧ time ≤ confirmedAt + c.holdS ∧
      Requested h i .latch token asked ∧ asked ≤ checked ∧ checked ≤ asked + c.confirmWindowS

lemma Accounted.authorised (h : Accounted w c e)
    (hblocking : c.policy.severity .operatorLatch = .blocking) {j : Nat} {time : ℚ}
    (hj : e.history[j]? = some (.launched time)) : ∃ i, Authorises c e.history i j := by
  obtain ⟨token, checked, confirmedAt, ⟨i, hij, hi, hbetween⟩, hafter, hheld⟩ :=
    h.justified j _ hj hblocking
  obtain ⟨asked, hrequested, hwindow⟩ := h.justified i _ hi
  exact ⟨i, token, asked, checked, confirmedAt, time, hi, hj, hij, hbetween, hafter, hheld,
    hrequested, hwindow⟩

lemma Authorises.unique {h : List Event} {j j' : Nat} (ha : Authorises c h i j)
    (ha' : Authorises c h i j') : j = j' := by
  obtain ⟨_, _, _, _, time, -, hj, hij, hbetween, -⟩ := ha
  obtain ⟨_, _, _, _, time', -, hj', hij', hbetween', -⟩ := ha'
  exact hbetween.unique hbetween' hij hij' hj hj' trivial trivial

lemma Accounted.token_once (htoken : Function.Injective w.token)
    (h : Accounted w c e) {i' : Nat} {k k' : Kind} {token : String}
    {checked checked' time time' : ℚ}
    (hi : e.history[i]? = some (.confirmed k token checked time))
    (hi' : e.history[i']? = some (.confirmed k' token checked' time')) : i = i' := by
  have hnodup : (e.history.filterMap tokenOf).Nodup := by
    rw [h.tokens]
    exact List.nodup_range.map htoken
  obtain ⟨asked, ⟨r, hri, hr, hbetween⟩, -⟩ := h.justified i _ hi
  obtain ⟨asked', ⟨r', hri', hr', hbetween'⟩, -⟩ := h.justified i' _ hi'
  obtain rfl := place_unique hnodup hr hr' rfl rfl
  rw [hr] at hr'
  obtain ⟨rfl, -⟩ := Event.requested.inj (Option.some.inj hr')
  exact hbetween.unique hbetween' hri hri' hi hi' rfl rfl

/-- Whatever the order of requests, confirmations, evaluations and launch
requests: where the latch blocks, each launch uses up a latch confirmation of its
own that was fresh and answered the latest request, no confirmation serves two
launches, no token is accepted twice, and an override names only what the profile
lets it. -/
theorem launches_accounted (hclock : Monotone w.clock) (htoken : Function.Injective w.token)
    {calls : List Call} {e : Engine} {os : List Raised}
    (hrun : run (step w c) {} calls = some (e, os)) :
    Records w c e ∧
      (c.policy.severity .operatorLatch = .blocking → ∀ (j : Nat) (time : ℚ),
        e.history[j]? = some (.launched time) → ∃ i, Authorises c e.history i j) ∧
      (∀ i j j' : Nat, Authorises c e.history i j → Authorises c e.history i j' → j = j') ∧
      (∀ (i i' : Nat) (k k' : Kind) (token : String) (checked checked' time time' : ℚ),
        e.history[i]? = some (.confirmed k token checked time) →
          e.history[i']? = some (.confirmed k' token checked' time') → i = i') ∧
      ∀ a, find e.active .override = some a →
        ∀ r ∈ a.rules, r ∈ c.policy.overridable.map RuleId.id := by
  have haccounted := run_accounted hclock hrun
  refine ⟨records e, ?_, ?_, ?_, ?_⟩
  · exact fun hblocking j time hj => haccounted.authorised hblocking hj
  · exact fun i j j' ha ha' => ha.unique ha'
  · exact fun i i' k k' token checked checked' time time' hi hi' =>
      haccounted.token_once htoken hi hi'
  · exact fun a ha => (haccounted.active .override a ha).1

/-! A field day: the latch is armed and confirmed, and the one drone is launched. -/

def stage : World where
  clock n := 100 + n
  token n := String.ofList (List.replicate (n + 1) 'a')
  auditFails _ := false

def fieldDay : EngineConfig where
  profile := .production
  batteryCells := 4
  hashes := ⟨fun _ => "ab", fun _ => "cd"⟩
  confirmWindowS := 30
  holdS := 120

def readyDrone : VehicleReport where
  tel :=
    { connected := true, linkStableSince := some 0, gpsFixType := "RTK_FIXED"
      batteryPercent := 90, healthArmable := true, healthHomeOk := true }
  batteryCellVoltages := some [21 / 5, 21 / 5]
  missionHash := some "ab"

def readyFleet : FleetView where
  telemetry := [(0, readyDrone)]
  expectedDrones := 1
  trajectory := some ⟨[(0, [{ time := 0, x := 0, y := 0, z := -2, yaw := 0 }])], (by decide : [0].Pairwise (· ≠ ·))⟩
  geofenceRadiusM := 100

lemma stage_monotone : Monotone stage.clock :=
  fun _ _ h => add_le_add_right (Nat.cast_le.mpr h) 100

lemma stage_injective : Function.Injective stage.token := by
  intro a b h
  have hlen := congrArg (fun s => s.toList.length) h
  simpa [stage] using hlen

theorem launches_accounted_fieldDay : ∃ e os,
    run (step stage fieldDay) {} [.requestLatch "pilot", .confirmLatch "a" "pilot" none,
      .authorizeLaunch readyFleet "pilot"] = some (e, os) ∧
      e.history = [.requested .latch "a" 101, .confirmed .latch "a" 102 103, .launched 105] ∧
      ∃ i, Authorises fieldDay e.history i 2 := by
  obtain ⟨⟨e, os⟩, hrun, h⟩ :
      ∃ r ∈ run (step stage fieldDay) {} [.requestLatch "pilot", .confirmLatch "a" "pilot" none,
      .authorizeLaunch readyFleet "pilot"], r.1.history = [.requested .latch "a" 101,
      .confirmed .latch "a" 102 103, .launched 105] := by decide +kernel
  have hhistory := h
  have haccounted := launches_accounted stage_monotone stage_injective hrun
  refine ⟨e, os, hrun, hhistory, haccounted.2.1 rfl 2 105 ?_⟩
  rw [show e.history = _ from hhistory]
  rfl

end Taramandal.Gcs.TwoStep
