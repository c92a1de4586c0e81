import Mathlib.Tactic.Common

/-! # Pre- and postconditions of actions that may raise

An action changes a state and then gives a value or raises; what it raised leaves
the state as it was then. `Triple P x Q E`: run where `P` holds, `x` gives a value
and ends where `Q` holds of it, or raises where `E` does. There is one rule for
each way to build an action, and a loop has one with an invariant of what is left
of its list. -/
namespace Taramandal.Lib.Hoare

variable {σ ε α β : Type}

abbrev Action (σ ε α : Type) := ExceptT ε (StateM σ) α

def outcome (x : Action σ ε α) (s : σ) : Except ε α × σ := x.run.run s

def Triple (P : σ → Prop) (x : Action σ ε α) (Q : α → σ → Prop) (E : ε → σ → Prop) : Prop :=
  ∀ s, P s → match outcome x s with
    | (.ok a, s') => Q a s'
    | (.error e, s') => E e s'

variable {P : σ → Prop} {x : Action σ ε α} {f : α → Action σ ε β} {Q : α → σ → Prop}
  {R : β → σ → Prop} {E : ε → σ → Prop}

lemma outcome_pure (a : α) (s : σ) : outcome (pure a : Action σ ε α) s = (.ok a, s) := rfl

lemma outcome_bind (s : σ) : outcome (x >>= f) s =
    match outcome x s with
    | (.ok a, s') => outcome (f a) s'
    | (.error e, s') => (.error e, s') := by
  unfold outcome
  rw [ExceptT.run_bind, StateT.run_bind]
  generalize StateT.run (ExceptT.run x) s = r
  obtain ⟨v, s'⟩ := r
  cases v <;> rfl

/-! ## Rules -/

variable {s s' : σ} {P' : σ → Prop} {Q' : α → σ → Prop}

lemma Triple.ok (h : Triple P x Q E) {a : α} (hp : P s)
    (hx : outcome x s = (.ok a, s')) : Q a s' := by
  have hq := h s hp
  rw [hx] at hq
  exact hq

lemma Triple.error (h : Triple P x Q E) {e : ε} (hp : P s)
    (hx : outcome x s = (.error e, s')) : E e s' := by
  have hq := h s hp
  rw [hx] at hq
  exact hq

lemma Triple.throw {Q : α → σ → Prop} (e : ε) : Triple (E e) (throw e : Action σ ε α) Q E :=
  fun _ he => he

lemma Triple.get {Q : σ → σ → Prop} : Triple (fun s => Q s s) (get : Action σ ε σ) Q E :=
  fun _ hq => hq

lemma Triple.get_bind {f : σ → Action σ ε β}
    (h : ∀ s, Triple (fun s' => s' = s ∧ P s') (f s) R E) : Triple P (MonadState.get >>= f) R E :=
  fun s hs => h s s ⟨rfl, hs⟩

lemma Triple.modify {Q : Unit → σ → Prop} (g : σ → σ) :
    Triple (fun s => Q () (g s)) (modify g : Action σ ε Unit) Q E :=
  fun _ hq => hq

lemma Triple.bind (hx : Triple P x Q E) (hf : ∀ a, Triple (Q a) (f a) R E) :
    Triple P (x >>= f) R E := by
  intro s hp
  have hq := hx s hp
  rw [outcome_bind]
  generalize outcome x s = r at hq ⊢
  obtain ⟨v, s'⟩ := r
  cases v with
  | ok a => exact hf a s' hq
  | error e => exact hq

variable {E' : ε → σ → Prop}

section

variable (h : Triple P x Q E)
include h

lemma Triple.weaken (hp : ∀ s, P' s → P s) (hq : ∀ a s, Q a s → Q' a s)
    (he : ∀ e s, E e s → E' e s) : Triple P' x Q' E' := by
  intro s hs
  have hr := h s (hp s hs)
  generalize outcome x s = r at hr ⊢
  obtain ⟨v, s'⟩ := r
  cases v with
  | ok a => exact hq a s' hr
  | error e => exact he e s' hr

lemma Triple.pre (hp : ∀ s, P' s → P s) : Triple P' x Q E :=
  h.weaken hp (fun _ _ h => h) fun _ _ h => h

lemma Triple.ends (hq : ∀ a s, Q a s → Q' a s) (he : ∀ e s, E e s → E' e s) : Triple P x Q' E' :=
  h.weaken (fun _ h => h) hq he

lemma Triple.post (hq : ∀ a s, Q a s → Q' a s) : Triple P x Q' E :=
  h.ends hq fun _ _ h => h

lemma Triple.raises (he : ∀ e s, E e s → E' e s) : Triple P x Q E' :=
  h.ends (fun _ _ h => h) he

lemma Triple.and (h' : Triple P' x Q' E') :
    Triple (fun s => P s ∧ P' s) x (fun a s => Q a s ∧ Q' a s) (fun e s => E e s ∧ E' e s) := by
  intro s hs
  have hq := h s hs.1
  have hq' := h' s hs.2
  generalize outcome x s = r at hq hq' ⊢
  obtain ⟨v, s'⟩ := r
  cases v with
  | ok a => exact ⟨hq, hq'⟩
  | error e => exact ⟨hq, hq'⟩

end

lemma Triple.ite {c : Prop} [Decidable c] {y : Action σ ε α}
    (hx : c → Triple P x Q E) (hy : ¬ c → Triple P y Q E) :
    Triple P (if c then x else y) Q E := by
  by_cases h : c
  · rw [if_pos h]
    exact hx h
  · rw [if_neg h]
    exact hy h

lemma Triple.of_imp {p : Prop} (h : p → Triple P x Q E) : Triple (fun s => p ∧ P s) x Q E :=
  fun s hs => h hs.1 s hs.2

/-- `try`: what the action raised is a value too. -/
def attempt (x : Action σ ε α) : Action σ ε (Except ε α) :=
  ExceptT.mk (Except.ok <$> x.run)

lemma outcome_attempt (s : σ) :
    outcome (attempt x) s = (.ok (outcome x s).1, (outcome x s).2) := rfl

lemma Triple.attempt (h : Triple P x Q E) :
    Triple P (attempt x) (fun r s => match r with | .ok a => Q a s | .error e => E e s) E' := by
  intro s hp
  have hq := h s hp
  rw [outcome_attempt]
  generalize outcome x s = r at hq ⊢
  obtain ⟨v, s'⟩ := r
  cases v with
  | ok a => exact hq
  | error e => exact hq

lemma Triple.of_exists {ι : Type} {P : ι → σ → Prop} (h : ∀ i, Triple (P i) x Q E) :
    Triple (fun s => ∃ i, P i s) x Q E :=
  fun s ⟨i, hi⟩ => h i s hi

def each (body : α → Action σ ε Unit) : List α → Action σ ε Unit
  | [] => Pure.pure ()
  | a :: rest => do
    body a
    each body rest

lemma Triple.each {body : α → Action σ ε Unit} {I : List α → σ → Prop}
    (hbody : ∀ a rest, Triple (I (a :: rest)) (body a) (fun _ => I rest) E) (as : List α) :
    Triple (I as) (each body as) (fun _ => I []) E := by
  induction as with
  | nil => exact fun _ h => h
  | cons a rest ih => exact (hbody a rest).bind fun _ => ih

end Taramandal.Lib.Hoare
