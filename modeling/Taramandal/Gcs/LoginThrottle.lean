import Taramandal.Gcs.Auth
import Taramandal.Lib.Run

/-! # Concurrent logins and the throttle (`AuthService.login`)

A login asks the throttle, verifies the passphrase and records the outcome; threads
interleave these three. What the throttle counts is what has been recorded, so a login
that is past the question and not yet recorded is one it does not know of. -/
namespace Taramandal.Gcs.Auth

open Lib.Dict Lib.Run

/-! ## Logins in progress -/

/-- What a login in progress has done: asked the throttle, or verified the passphrase. -/
inductive LoginPhase where
  | asked | refused | accepted
  deriving DecidableEq

structure LoginCall where
  origin : String
  phase : LoginPhase
  deriving DecidableEq

structure Logins where
  throttle : LoginThrottle := []
  calls : Dict ℕ LoginCall := []
  clock : ℚ

inductive LoginLabel where
  | ask (call : ℕ) (origin : String) (now : ℚ)
  | verify (call : ℕ) (accepted : Bool) (now : ℚ)
  /-- The operators file cannot be read, and the login ends there. -/
  | raises (call : ℕ) (now : ℚ)
  | record (call : ℕ) (now : ℚ)

inductive LoginEvent where
  | throttled (origin : String)
  /-- A passphrase was checked and refused. -/
  | refused (origin : String) (time : ℚ)
  | succeeded (origin : String) (time : ℚ)
  deriving DecidableEq

def LoginLabel.now : LoginLabel → ℚ
  | .ask _ _ now => now
  | .verify _ _ now => now
  | .raises _ now => now
  | .record _ now => now

def Logins.act (cfg : ThrottleConfig) (m : Logins) : LoginLabel → Option (Logins × List LoginEvent)
  | .ask call origin now =>
    if has m.calls call then none
    else
      let (throttle, wait) := m.throttle.retryAfter cfg origin now
      if wait = some 0 then
        some ({ m with throttle := throttle, calls := assign m.calls call ⟨origin, .asked⟩ }, [])
      else some ({ m with throttle := throttle }, [.throttled origin])
  | .verify call accepted now =>
    match find m.calls call with
    | some ⟨origin, .asked⟩ =>
      if accepted then some ({ m with calls := assign m.calls call ⟨origin, .accepted⟩ }, [])
      else some ({ m with calls := assign m.calls call ⟨origin, .refused⟩ }, [.refused origin now])
    | _ => none
  | .raises call _ =>
    match find m.calls call with
    | some ⟨_, .asked⟩ => some ({ m with calls := remove m.calls call }, [])
    | _ => none
  | .record call now =>
    match find m.calls call with
    | some ⟨origin, .refused⟩ =>
      some ({ m with throttle := m.throttle.failed cfg origin now, calls := remove m.calls call }, [])
    | some ⟨origin, .accepted⟩ =>
      some ({ m with throttle := m.throttle.succeeded origin, calls := remove m.calls call },
        [.succeeded origin now])
    | _ => none

def Logins.step (cfg : ThrottleConfig) : System Logins LoginLabel LoginEvent
  | m, l => if l.now < m.clock then none else { m with clock := l.now }.act cfg l

/-- The logins of an origin between the question and the record. -/
def Logins.inProgress (m : Logins) (origin : String) : ℕ :=
  weight (fun c => if c.origin = origin then 1 else 0) m.calls

/-- A login that passes does so with fewer than `max_failures` of its origin known or in
progress. -/
def Counted (cfg : ThrottleConfig) (m : Logins) : LoginLabel → Prop
  | .ask _ origin now => (m.throttle.retryAfter cfg origin now).2 = some 0 →
      (m.throttle.recent cfg origin now).length + m.inProgress origin < cfg.maxFailures
  | _ => True

/-! ## The window -/

def LoginEvent.RefusedIn (origin : String) (first last : ℚ) (e : LoginEvent) : Prop :=
  ∃ time, e = .refused origin time ∧ first ≤ time ∧ time ≤ last

instance (origin : String) (first last : ℚ) (e : LoginEvent) :
    Decidable (e.RefusedIn origin first last) :=
  match e with
  | .refused origin' time =>
    decidable_of_iff (origin' = origin ∧ first ≤ time ∧ time ≤ last)
      ⟨fun ⟨ho, h⟩ => ⟨time, ho ▸ rfl, h⟩, by rintro ⟨_, ⟨⟩, h⟩; exact ⟨rfl, h⟩⟩
  | .throttled _ => .isFalse nofun
  | .succeeded .. => .isFalse nofun

/-- How many passphrases of an origin were refused in a span. -/
def refusedIn (history : List LoginEvent) (origin : String) (first last : ℚ) : ℕ :=
  history.countP fun e => decide (e.RefusedIn origin first last)

def NoneSucceeded (history : List LoginEvent) (origin : String) (first last : ℚ) : Prop :=
  ∀ time, .succeeded origin time ∈ history → ¬ (first ≤ time ∧ time ≤ last)

section

variable (m : Logins) (origin : String)

/-- The failures since `first` that the throttle has on record. -/
def Logins.known (first : ℚ) : ℕ :=
  (m.throttle.failures origin).countP fun t => decide (first ≤ t)

/-- The passphrases that were refused, but not yet recorded. -/
def Logins.pending : ℕ :=
  weight (fun c => if c = ⟨origin, .refused⟩ then 1 else 0) m.calls

lemma Logins.pending_le : m.pending origin ≤ m.inProgress origin := by
  refine weight_le _ (fun c => ?_) m.calls
  by_cases hc : c = ⟨origin, .refused⟩ <;> simp [hc]

end

lemma countP_dropWhile {α : Type} {p q : α → Bool}
    (h : ∀ x, q x = true → p x = false) (l : List α) :
    (l.dropWhile q).countP p = l.countP p := by
  induction l with
  | nil => rfl
  | cons x l ih =>
    rw [List.dropWhile_cons]
    split
    next hq => rw [ih, List.countP_cons_of_neg (by simp [h x hq])]
    next => rfl

section

variable (throttle : LoginThrottle)

lemma countP_recent (cfg : ThrottleConfig) (origin : String)
    {now first : ℚ} (h : now ≤ first + cfg.windowS) :
    (throttle.recent cfg origin now).countP (fun t => decide (first ≤ t)) =
      (throttle.failures origin).countP fun t => decide (first ≤ t) := by
  refine countP_dropWhile (fun t ht => ?_) _
  simp only [decide_eq_true_eq, decide_eq_false_iff_not, not_le] at ht ⊢
  linarith

lemma failures_assign_self (origin : String) (q : List ℚ) :
    LoginThrottle.failures (assign throttle origin q) origin = q := by
  rw [LoginThrottle.failures, find_assign_self, Option.getD_some]

lemma failures_assign_ne {origin origin' : String} (q : List ℚ) (h : origin' ≠ origin) :
    LoginThrottle.failures (assign throttle origin' q) origin = throttle.failures origin := by
  rw [LoginThrottle.failures, find_assign_ne _ _ h, LoginThrottle.failures]

end

/-- What one origin's window knows, at a point of a run. -/
structure Window (cfg : ThrottleConfig) (origin : String) (first : ℚ) (history : List LoginEvent)
    (m : Logins) : Prop where
  keys : (m.calls.map Prod.fst).Nodup
  past : ∀ time, .refused origin time ∈ history → time ≤ m.clock
  room : m.clock ≤ first + cfg.windowS →
    m.inProgress origin + m.known origin first ≤ cfg.maxFailures
  counted : NoneSucceeded history origin first (first + cfg.windowS) →
    m.clock ≤ first + cfg.windowS →
      refusedIn history origin first (first + cfg.windowS) ≤ m.pending origin + m.known origin first
  bounded : NoneSucceeded history origin first (first + cfg.windowS) →
    refusedIn history origin first (first + cfg.windowS) ≤ cfg.maxFailures

namespace Window

variable {cfg : ThrottleConfig} {origin : String} {first : ℚ} {history : List LoginEvent}
  {m : Logins}

lemma later (h : Window cfg origin first history m) {now : ℚ} (hle : m.clock ≤ now) :
    Window cfg origin first history { m with clock := now } where
  keys := h.keys
  past time hmem := (h.past time hmem).trans hle
  room hopen := h.room (hle.trans hopen)
  counted hnone hopen := h.counted hnone (hle.trans hopen)
  bounded := h.bounded

lemma refusedIn_eq_zero (h : Window cfg origin first history m) (hbefore : m.clock < first) :
    refusedIn history origin first (first + cfg.windowS) = 0 := by
  rw [refusedIn, List.countP_eq_zero]
  rintro e hmem he
  obtain ⟨time, rfl, hfirst, -⟩ := of_decide_eq_true he
  exact absurd (h.past time hmem) (not_le.mpr (hbefore.trans_le hfirst))

variable {os : List LoginEvent}

/-- A step that refuses nothing, and has nothing succeed in the span, keeps the bound. -/
lemma of_steps {m' : Logins} (h : Window cfg origin first history m)
    (hkeys : (m'.calls.map Prod.fst).Nodup) (hclock : m'.clock = m.clock)
    (hroom : m.clock ≤ first + cfg.windowS → m.inProgress origin + m.known origin first ≤ cfg.maxFailures →
      m'.inProgress origin + m'.known origin first ≤ cfg.maxFailures)
    (hos : ∀ e ∈ os, ∀ time, e ≠ .refused origin time)
    (hkept : m.clock ≤ first + cfg.windowS → first ≤ m.clock → NoneSucceeded os origin first (first + cfg.windowS) →
      m.pending origin + m.known origin first ≤ m'.pending origin + m'.known origin first) :
    Window cfg origin first (history ++ os) m' := by
  have hcount : refusedIn (history ++ os) origin first (first + cfg.windowS) =
      refusedIn history origin first (first + cfg.windowS) := by
    rw [refusedIn, List.countP_append, refusedIn, Nat.add_eq_left, List.countP_eq_zero]
    rintro e hmem he
    obtain ⟨time, rfl, -⟩ := of_decide_eq_true he
    exact hos _ hmem time rfl
  have hnone : NoneSucceeded (history ++ os) origin first (first + cfg.windowS) →
      NoneSucceeded history origin first (first + cfg.windowS) ∧
        NoneSucceeded os origin first (first + cfg.windowS) := fun hnone =>
    ⟨fun time hmem => hnone time (List.mem_append_left _ hmem),
      fun time hmem => hnone time (List.mem_append_right _ hmem)⟩
  refine
    { keys := hkeys
      past := fun time hmem => ?_
      room := fun hopen => hroom (hclock ▸ hopen) (h.room (hclock ▸ hopen))
      counted := fun hn hopen => ?_
      bounded := fun hn => hcount ▸ h.bounded (hnone hn).1 }
  · rw [hclock]
    rcases List.mem_append.mp hmem with hmem | hmem
    · exact h.past time hmem
    · exact absurd rfl (hos _ hmem time)
  · rw [hcount]
    rw [hclock] at hopen
    rcases lt_or_ge m.clock first with hbefore | hfirst
    · rw [h.refusedIn_eq_zero hbefore]
      exact Nat.zero_le _
    · exact (h.counted (hnone hn).1 hopen).trans (hkept hopen hfirst (hnone hn).2)

variable {call : ℕ}

lemma ends (h : Window cfg origin first history m) {c : LoginCall}
    (hf : find m.calls call = some c) (throttle : LoginThrottle) :
    let m' : Logins := { m with throttle := throttle, calls := remove m.calls call }
    (m'.inProgress origin + if c.origin = origin then 1 else 0) = m.inProgress origin ∧
      (m'.pending origin + if c = ⟨origin, .refused⟩ then 1 else 0) = m.pending origin := by
  have hin := weight_remove (fun c => if c.origin = origin then 1 else 0) h.keys call
  have hpending := weight_remove (fun c => if c = ⟨origin, .refused⟩ then 1 else 0) h.keys call
  rw [hf, Option.elim_some] at hin hpending
  exact ⟨hin, hpending⟩

variable {origin' : String}

lemma verified (origin : String) (hf : find m.calls call = some ⟨origin', .asked⟩)
    (phase : LoginPhase) :
    let m' : Logins := { m with calls := assign m.calls call ⟨origin', phase⟩ }
    m'.inProgress origin = m.inProgress origin ∧ m'.pending origin = m.pending origin +
        if (⟨origin', phase⟩ : LoginCall) = ⟨origin, .refused⟩ then 1 else 0 := by
  have hin := weight_assign (fun c => if c.origin = origin then 1 else 0) m.calls call
    ⟨origin', phase⟩
  have hpending := weight_assign (fun c => if c = ⟨origin, .refused⟩ then 1 else 0) m.calls call
    ⟨origin', phase⟩
  rw [hf, Option.elim_some] at hin hpending
  simp only [LoginCall.mk.injEq, reduceCtorEq, and_false, if_false, Nat.add_zero] at hpending ⊢
  exact ⟨Nat.add_right_cancel hin, hpending⟩

lemma refused (h : Window cfg origin first history m)
    (hf : find m.calls call = some ⟨origin', .asked⟩) :
    Window cfg origin first (history ++ [.refused origin' m.clock])
      { m with calls := assign m.calls call ⟨origin', .refused⟩ } := by
  obtain ⟨hin, hpending⟩ := verified origin hf .refused
  by_cases ho : origin' = origin
  · subst ho
    have hnone : NoneSucceeded (history ++ [.refused origin' m.clock]) origin' first
        (first + cfg.windowS) → NoneSucceeded history origin' first (first + cfg.windowS) :=
      fun hnone time hmem => hnone time (List.mem_append_left _ hmem)
    have hcount : refusedIn (history ++ [.refused origin' m.clock]) origin' first
        (first + cfg.windowS) ≤ refusedIn history origin' first (first + cfg.windowS) + 1 := by
      rw [refusedIn, List.countP_append, List.countP_singleton, refusedIn]
      split <;> omega
    have hbound : NoneSucceeded (history ++ [.refused origin' m.clock]) origin' first
        (first + cfg.windowS) → m.clock ≤ first + cfg.windowS →
          refusedIn (history ++ [.refused origin' m.clock]) origin' first (first + cfg.windowS) ≤
            m.pending origin' + 1 + m.known origin' first := by
      intro hn hopen
      have := h.counted (hnone hn) hopen
      omega
    have hin' : (_ : ℕ) ≤ _ := Logins.pending_le
      { m with calls := assign m.calls call ⟨origin', .refused⟩ } origin'
    rw [hin, hpending, if_pos rfl] at hin'
    refine
      { keys := nodup_assign h.keys _ _
        past := fun time hmem => ?_
        room := fun hopen => by rw [hin]; exact h.room hopen
        counted := fun hn hopen => by rw [hpending, if_pos rfl]; exact hbound hn hopen
        bounded := fun hn => ?_ }
    · rcases List.mem_append.mp hmem with hmem | hmem
      · exact h.past time hmem
      · simp only [List.mem_singleton, LoginEvent.refused.injEq, true_and] at hmem
        exact hmem.le
    · rcases le_or_gt m.clock (first + cfg.windowS) with hopen | hclosed
      · have hroom := h.room hopen
        have := hbound hn hopen
        omega
      · -- the span is over, and the refusal is not in it
        have hout : ¬ (LoginEvent.refused origin' m.clock).RefusedIn origin' first
            (first + cfg.windowS) := by
          rintro ⟨time, heq, -, hlast⟩
          cases heq
          exact absurd hlast (not_le.mpr hclosed)
        rw [refusedIn, List.countP_append, List.countP_singleton, if_neg (by simpa using hout)]
        exact h.bounded (hnone hn)
  · refine h.of_steps (nodup_assign h.keys _ _) rfl ?_ (by simp [ho]) ?_
    · intro _ hroom
      rw [hin]
      exact hroom
    · intro _ _ _
      rw [hpending]
      exact Nat.add_le_add_right (Nat.le_add_right _ _) _

lemma known_pruned (m : Logins) (origin origin' : String) {now : ℚ}
    (hopen : now ≤ first + cfg.windowS) :
    (LoginThrottle.failures (assign m.throttle origin' (m.throttle.recent cfg origin' now))
      origin).countP (fun t => decide (first ≤ t)) = m.known origin first := by
  by_cases ho : origin' = origin
  · rw [ho, failures_assign_self, countP_recent m.throttle cfg origin hopen]
    rfl
  · rw [failures_assign_ne _ _ ho]
    rfl

section

variable (h : Window cfg origin first history m)
include h

lemma asked (hcounted : (m.throttle.retryAfter cfg origin' m.clock).2 = some 0 →
      (m.throttle.recent cfg origin' m.clock).length + m.inProgress origin' < cfg.maxFailures)
    (hfresh : find m.calls call = none) {calls : Dict ℕ LoginCall}
    (hcalls : calls = m.calls ∨ (m.throttle.retryAfter cfg origin' m.clock).2 = some 0 ∧
      calls = assign m.calls call ⟨origin', .asked⟩) (hos : ∀ e ∈ os, e = .throttled origin') :
    Window cfg origin first (history ++ os)
      { m with
        throttle := assign m.throttle origin' (m.throttle.recent cfg origin' m.clock)
        calls := calls } := by
  set m' : Logins := { m with
    throttle := assign m.throttle origin' (m.throttle.recent cfg origin' m.clock)
    calls := calls } with hm'
  have hknown : m.clock ≤ first + cfg.windowS → m'.known origin first = m.known origin first :=
    known_pruned m origin origin'
  have hin : m'.inProgress origin = m.inProgress origin ∨
      (m.throttle.retryAfter cfg origin' m.clock).2 = some 0 ∧
        m'.inProgress origin = m.inProgress origin + if origin' = origin then 1 else 0 := by
    refine hcalls.imp (fun he => by rw [hm', he]; rfl) fun ⟨hpass, he⟩ => ⟨hpass, ?_⟩
    have hweight := weight_assign (fun c => if c.origin = origin then 1 else 0) m.calls call
      ⟨origin', .asked⟩
    rwa [hfresh, Option.elim_none, Nat.add_zero, ← he] at hweight
  have hpending : m'.pending origin = m.pending origin := by
    rcases hcalls with he | ⟨-, he⟩
    · rw [hm', he]
      rfl
    · have hweight := weight_assign (fun c => if c = ⟨origin, .refused⟩ then 1 else 0) m.calls call
        ⟨origin', .asked⟩
      rw [hfresh, Option.elim_none, Nat.add_zero, ← he] at hweight
      simp only [LoginCall.mk.injEq, reduceCtorEq, and_false, if_false, Nat.add_zero] at hweight
      exact hweight
  refine h.of_steps ?_ rfl ?_ ?_ ?_
  · rcases hcalls with he | ⟨-, he⟩
    · rw [hm', he]
      exact h.keys
    · rw [hm', he]
      exact nodup_assign h.keys _ _
  · intro hopen hroom
    rw [hknown hopen]
    rcases hin with hin | ⟨hpass, hin⟩
    · rw [hin]
      exact hroom
    · rw [hin]
      split
      next ho =>
        subst ho
        have hlt := hcounted hpass
        have hle : m.known origin' first ≤ (m.throttle.recent cfg origin' m.clock).length := by
          rw [Logins.known, ← countP_recent m.throttle cfg origin' hopen]
          exact List.countP_le_length
        omega
      next => exact hroom
  · intro e he time
    rw [hos e he]
    exact nofun
  · intro hopen _ _
    rw [hknown hopen, hpending]

lemma failed (hf : find m.calls call = some ⟨origin', .refused⟩) : Window cfg origin first history
      { m with
        throttle := m.throttle.failed cfg origin' m.clock
        calls := remove m.calls call } := by
  obtain ⟨hin, hpending⟩ := h.ends hf (m.throttle.failed cfg origin' m.clock)
  set m' : Logins := { m with
    throttle := m.throttle.failed cfg origin' m.clock
    calls := remove m.calls call }
  have hknown : m.clock ≤ first + cfg.windowS → m'.known origin first =
      m.known origin first + if origin' = origin ∧ first ≤ m.clock then 1 else 0 := by
    intro hopen
    have hthrottle : m'.throttle =
        assign m.throttle origin' (m.throttle.recent cfg origin' m.clock ++ [m.clock]) := rfl
    by_cases ho : origin' = origin
    · subst ho
      rw [Logins.known, hthrottle, failures_assign_self, List.countP_append,
        List.countP_singleton, countP_recent m.throttle cfg origin' hopen]
      simp [Logins.known]
    · rw [Logins.known, hthrottle, failures_assign_ne _ _ ho]
      simp [ho, Logins.known]
  simp only [LoginCall.mk.injEq, and_true] at hin hpending
  have hsteps : Window cfg origin first (history ++ []) m' := by
    refine h.of_steps (nodup_remove h.keys call) rfl ?_ (by simp) ?_
    · intro hopen hroom
      rw [hknown hopen]
      by_cases ho : origin' = origin
      · rw [if_pos ho] at hin
        split <;> omega
      · rw [if_neg ho] at hin
        rw [if_neg fun hboth => ho hboth.1]
        omega
    · intro hopen hfirst _
      rw [hknown hopen]
      by_cases ho : origin' = origin
      · rw [if_pos ho] at hpending
        rw [if_pos ⟨ho, hfirst⟩]
        omega
      · rw [if_neg ho] at hpending
        omega
  rwa [List.append_nil] at hsteps

/-- A success clears the record; a span with none in it has not begun, or is over. -/
lemma succeeded (hf : find m.calls call = some ⟨origin', .accepted⟩) :
    Window cfg origin first (history ++ [.succeeded origin' m.clock])
      { m with
        throttle := m.throttle.succeeded origin'
        calls := remove m.calls call } := by
  obtain ⟨hin, hpending⟩ := h.ends hf (m.throttle.succeeded origin')
  set m' : Logins := { m with
    throttle := m.throttle.succeeded origin'
    calls := remove m.calls call }
  simp only [LoginCall.mk.injEq, reduceCtorEq, and_false, if_false, Nat.add_zero] at hpending
  have hknown : m'.known origin first = if origin' = origin then 0 else m.known origin first := by
    unfold Logins.known LoginThrottle.failures
    by_cases ho : origin' = origin
    · rw [if_pos ho, show m'.throttle = remove m.throttle origin' from rfl, ho, find_remove_self]
      rfl
    · rw [if_neg ho, show m'.throttle = remove m.throttle origin' from rfl, find_remove_ne _ ho]
  refine h.of_steps (nodup_remove h.keys call) rfl ?_ (by simp) ?_
  · intro _ hroom
    rw [hknown]
    split <;> omega
  · intro hopen hfirst hnone
    have ho : origin' ≠ origin := by
      rintro rfl
      exact hnone m.clock (List.mem_singleton_self _) ⟨hfirst, hopen⟩
    rw [hknown, if_neg ho, hpending]

end

lemma act {m' : Logins} {l : LoginLabel} (h : Window cfg origin first history m)
    (hclock : l.now = m.clock) (hcounted : Counted cfg m l) (hs : m.act cfg l = some (m', os)) :
    Window cfg origin first (history ++ os) m' := by
  cases l with
  | ask call origin' now =>
    simp only [Logins.act] at hs
    split at hs
    next => cases hs
    next hfresh =>
      have hnone : find m.calls call = none := by simpa [has] using hfresh
      rw [show now = m.clock from hclock] at hs
      have hcounted' := hcounted
      rw [Counted, show now = m.clock from hclock] at hcounted'
      split at hs
      next hpass =>
        cases hs
        exact h.asked hcounted' hnone (.inr ⟨hpass, rfl⟩) (by simp)
      next =>
        cases hs
        exact h.asked hcounted' hnone (.inl rfl) (by simp)
  | verify call accepted now =>
    simp only [Logins.act] at hs
    split at hs
    next origin' hf =>
      split at hs
      next =>
        cases hs
        obtain ⟨hin, hpending⟩ := verified origin hf .accepted
        refine h.of_steps (nodup_assign h.keys _ _) rfl ?_ (by simp) ?_
        · intro _ hroom
          rw [hin]
          exact hroom
        · intro _ _ _
          rw [hpending]
          exact Nat.add_le_add_right (Nat.le_add_right _ _) _
      next =>
        cases hs
        rw [show now = m.clock from hclock]
        exact h.refused hf
    next => cases hs
  | raises call now =>
    simp only [Logins.act] at hs
    split at hs
    next origin' hf =>
      cases hs
      obtain ⟨hin, hpending⟩ := h.ends hf m.throttle
      refine h.of_steps (nodup_remove h.keys call) rfl ?_ (by simp) ?_
      · intro _ hroom
        exact (Nat.add_le_add_right (hin ▸ Nat.le_add_right _ _) _).trans hroom
      · intro _ _ _
        rw [← hpending]
        simp [Logins.known]
    next => cases hs
  | record call now =>
    simp only [Logins.act] at hs
    split at hs
    next origin' hf =>
      cases hs
      rw [show now = m.clock from hclock, List.append_nil]
      exact h.failed hf
    next origin' hf =>
      cases hs
      rw [show now = m.clock from hclock]
      exact h.succeeded hf
    next => cases hs

end Window

/-- In a run in which a login passes only where few are known or in progress, no window
without a success has more refusals than are allowed. -/
theorem refusals_bounded {cfg : ThrottleConfig} {clock : ℚ} {ls : List LoginLabel} {m : Logins}
    {os : List LoginEvent} (hr : run (Logins.step cfg) { clock := clock } ls = some (m, os))
    (ha : Along (Logins.step cfg) (Counted cfg) { clock := clock } ls) (origin : String) (first : ℚ)
    (hnone : NoneSucceeded os origin first (first + cfg.windowS)) :
    refusedIn os origin first (first + cfg.windowS) ≤ cfg.maxFailures := by
  have hinit : Window cfg origin first [] { clock := clock } :=
    { keys := List.nodup_nil
      past := by simp
      room := fun _ => Nat.zero_le _
      counted := fun _ _ => Nat.zero_le _
      bounded := fun _ => Nat.zero_le _ }
  have hwindow : Window cfg origin first os m := by
    refine run_history (I := fun _ os m => Window cfg origin first os m) hinit ?_ ha hr
    intro ls os m l m' os' _ h hcounted hs
    have hclock : ¬ l.now < m.clock := by
      intro hlt
      rw [Logins.step, if_pos hlt] at hs
      cases hs
    rw [Logins.step, if_neg hclock] at hs
    exact (h.later (not_lt.mp hclock)).act rfl (by cases l <;> exact hcounted) hs
  exact hwindow.bounded hnone

instance (cfg : ThrottleConfig) (m : Logins) : ∀ l, Decidable (Counted cfg m l)
  | .ask .. => inferInstanceAs (Decidable (_ → _))
  | .verify .. | .raises .. | .record .. => .isTrue trivial

def LoginEvent.succeeds : LoginEvent → Bool
  | .succeeded .. => true
  | _ => false

lemma noneSucceeded_of_all {history : List LoginEvent} (h : history.all (!·.succeeds) = true)
    (origin : String) (first last : ℚ) : NoneSucceeded history origin first last := by
  intro time hmem
  have hnot := List.all_eq_true.mp h _ hmem
  cases hnot

/-- Logins of one origin, one after the other, each refused at that time. -/
def refusedLogins (calls : List ℕ) (now : ℚ) : List LoginLabel :=
  calls.flatMap fun call => [.ask call "10.0.0.7" now, .verify call false now, .record call now]

/-- Five are refused, and the sixth is not even asked for its passphrase. -/
theorem refusals_bounded_five : ∃ m os, run (Logins.step {}) { clock := 0 }
      (refusedLogins [0, 1, 2, 3, 4] 0 ++ [.ask 5 "10.0.0.7" 30]) = some (m, os) ∧
      os.getLast? = some (.throttled "10.0.0.7") ∧ refusedIn os "10.0.0.7" 0 (0 + 60) ≤ 5 := by
  obtain ⟨⟨m, os⟩, hr, hsome⟩ :
      ∃ r ∈ run (Logins.step {}) { clock := 0 } (refusedLogins [0, 1, 2, 3, 4] 0 ++
      [.ask 5 "10.0.0.7" 30]), r.2.getLast? = some (.throttled "10.0.0.7") ∧ r.2.all (!·.succeeds)
      := by decide +kernel
  have ha : Along (Logins.step {}) (Counted {}) { clock := 0 }
      (refusedLogins [0, 1, 2, 3, 4] 0 ++ [.ask 5 "10.0.0.7" 30]) := by decide +kernel
  exact ⟨m, os, hr, hsome.1,
    refusals_bounded hr ha "10.0.0.7" 0 (noneSucceeded_of_all hsome.2 _ _ _)⟩

def sixAtOnce : List LoginLabel :=
  ([0, 1, 2, 3, 4, 5].map fun call => .ask call "10.0.0.7" 0) ++
    [0, 1, 2, 3, 4, 5].map fun call => .verify call false 0

/-- All six are verified; and so are six, one after the other, at the very end of a window
that has its five. -/
theorem refusals_unbounded : (∃ m os, run (Logins.step {}) { clock := 0 } sixAtOnce = some (m, os) ∧
      NoneSucceeded os "10.0.0.7" 0 60 ∧ refusedIn os "10.0.0.7" 0 60 = 6) ∧
    ∃ m os, run (Logins.step {}) { clock := 0 }
      (refusedLogins [0, 1, 2, 3, 4] 0 ++ refusedLogins [5, 6, 7, 8, 9, 10] 60) = some (m, os) ∧
      NoneSucceeded os "10.0.0.7" 60 120 ∧ refusedIn os "10.0.0.7" 60 120 = 6 := by
  obtain ⟨⟨m, os⟩, hr, hatOnce⟩ :
      ∃ r ∈ run (Logins.step {}) { clock := 0 } sixAtOnce,
      r.2.all (!·.succeeds) ∧ refusedIn r.2 "10.0.0.7" 0 60 = 6 := by decide +kernel
  obtain ⟨⟨m', os'⟩, hr', hatEdge⟩ :
      ∃ r ∈ run (Logins.step {}) { clock := 0 }
        (refusedLogins [0, 1, 2, 3, 4] 0 ++ refusedLogins [5, 6, 7, 8, 9, 10] 60),
      r.2.all (!·.succeeds) ∧ refusedIn r.2 "10.0.0.7" 60 120 = 6 := by decide +kernel
  exact ⟨⟨m, os, hr, noneSucceeded_of_all hatOnce.1 _ _ _, hatOnce.2⟩,
    m', os', hr', noneSucceeded_of_all hatEdge.1 _ _ _, hatEdge.2⟩

end Taramandal.Gcs.Auth
