import Mathlib.Data.List.Induction

/-! # Runs of a partial labelled system

A system is a partial step function. The label of a step carries every choice the step is free to
make (which task runs, what an awaited call returned), so a run is its start state and its list of
labels, and it can be evaluated. A step also hands out what it sent to the outside. -/
namespace Taramandal.Lib.Run

variable {σ ι ω : Type*}

/-- One step under a label: the state after it and what it sent, or `none` if
the label is not possible in the state. -/
abbrev System (σ ι ω : Type*) := σ → ι → Option (σ × List ω)

/-- The run of a list of labels, with everything sent along it. -/
def run (step : System σ ι ω) : σ → List ι → Option (σ × List ω)
  | s, [] => some (s, [])
  | s, l :: ls =>
    match step s l with
    | none => none
    | some (m, o) => (run step m ls).map fun r => (r.1, o ++ r.2)

/-- Every step taken on the way meets `A` in the state before it. -/
def Along (step : System σ ι ω) (A : σ → ι → Prop) : σ → List ι → Prop
  | _, [] => True
  | s, l :: ls => A s l ∧ ∀ m o, step s l = some (m, o) → Along step A m ls

variable {step : System σ ι ω} {A : σ → ι → Prop}

@[simp] lemma run_nil (s : σ) : run step s [] = some (s, []) := rfl

variable {l : ι} {ls : List ι} {os : List ω} {s t : σ}

lemma run_cons : run step s (l :: ls) = some (t, os) ↔
      ∃ m o os', step s l = some (m, o) ∧ run step m ls = some (t, os') ∧ os = o ++ os' := by
  cases hs : step s l with
  | none => simp [run, hs]
  | some r =>
    obtain ⟨m, o⟩ := r
    simp only [run, hs, Option.map_eq_some_iff, Prod.mk.injEq, Option.some.injEq]
    constructor
    · rintro ⟨⟨t', os'⟩, hr, rfl, rfl⟩
      exact ⟨m, o, os', ⟨rfl, rfl⟩, hr, rfl⟩
    · rintro ⟨m', o', os', ⟨rfl, rfl⟩, hr, rfl⟩
      exact ⟨(t, os'), hr, rfl, rfl⟩

variable {as bs : List ι}

lemma run_append : run step s (as ++ bs) = some (t, os) ↔
      ∃ m o os', run step s as = some (m, o) ∧ run step m bs = some (t, os') ∧ os = o ++ os' := by
  induction as generalizing s os with
  | nil =>
    constructor
    · intro h; exact ⟨s, [], os, rfl, h, rfl⟩
    · rintro ⟨m, o, os', ho, h, rfl⟩
      simp only [run_nil, Option.some.injEq, Prod.mk.injEq] at ho
      obtain ⟨rfl, rfl⟩ := ho
      exact h
  | cons l as ih =>
    rw [List.cons_append, run_cons]
    constructor
    · rintro ⟨m, o, os', hs, hr, rfl⟩
      obtain ⟨n, p, q, hp, hq, rfl⟩ := ih.mp hr
      exact ⟨n, o ++ p, q, run_cons.mpr ⟨m, o, p, hs, hp, rfl⟩, hq, by simp⟩
    · rintro ⟨n, p, q, hp, hq, rfl⟩
      obtain ⟨m, o, p', hs, hp', rfl⟩ := run_cons.mp hp
      exact ⟨m, o, p' ++ q, hs, ih.mpr ⟨n, p', q, hp', hq, rfl⟩, by simp⟩

lemma run_singleton : run step s [l] = some (t, os) ↔ step s l = some (t, os) := by
  rw [run_cons]
  constructor
  · rintro ⟨m, o, os', hs, hr, rfl⟩
    simp only [run_nil, Option.some.injEq, Prod.mk.injEq] at hr
    obtain ⟨rfl, rfl⟩ := hr
    simpa using hs
  · intro h; exact ⟨t, os, [], h, rfl, by simp⟩

@[simp] lemma along_nil (s : σ) : Along step A s [] := trivial

lemma along_cons :
    Along step A s (l :: ls) ↔ A s l ∧ ∀ m o, step s l = some (m, o) → Along step A m ls :=
  Iff.rfl

instance decidableAlong [∀ s l, Decidable (A s l)] : ∀ s ls, Decidable (Along step A s ls)
  | _, [] => .isTrue trivial
  | s, l :: ls =>
    match h : step s l with
    | none => decidable_of_iff (A s l) ⟨fun hk => ⟨hk, fun m o hs => by simp [h] at hs⟩, And.left⟩
    | some (m, o) =>
      have := decidableAlong m ls
      decidable_of_iff (A s l ∧ Along step A m ls)
        ⟨fun hk => ⟨hk.1, fun m' o' hs => by
          rw [h, Option.some.injEq, Prod.mk.injEq] at hs
          exact hs.1 ▸ hk.2⟩, fun hk => ⟨hk.1, hk.2 m o h⟩⟩

variable {m : σ} {o : List ω} {P Q : σ → ι → Prop}

lemma Along.drop (h : Along step A s (as ++ bs)) (hr : run step s as = some (m, o)) :
    Along step A m bs := by
  induction as generalizing s o with
  | nil =>
    simp only [run_nil, Option.some.injEq, Prod.mk.injEq] at hr
    obtain ⟨rfl, _⟩ := hr
    exact h
  | cons l as ih =>
    obtain ⟨n, p, q, hs, hq, _⟩ := run_cons.mp hr
    exact ih (h.2 n p hs) hq

lemma Along.take (h : Along step A s (as ++ bs)) : Along step A s as := by
  induction as generalizing s with
  | nil => trivial
  | cons l as ih => exact ⟨h.1, fun m o hs => ih (h.2 m o hs)⟩

lemma Along.mono {B : σ → ι → Prop} (h : Along step A s ls) (himp : ∀ s l, A s l → B s l) :
    Along step B s ls := by
  induction ls generalizing s with
  | nil => trivial
  | cons l ls ih => exact ⟨himp _ _ h.1, fun m o hs => ih (h.2 m o hs)⟩

lemma Along.and {B : σ → ι → Prop} (h : Along step A s ls) (h' : Along step B s ls) :
    Along step (fun s l => A s l ∧ B s l) s ls := by
  induction ls generalizing s with
  | nil => trivial
  | cons l ls ih => exact ⟨⟨h.1, h'.1⟩, fun m o hs => ih (h.2 m o hs) (h'.2 m o hs)⟩

lemma along_of_labels {p : ι → Prop} (h : ∀ l ∈ ls, p l) : Along step (fun _ l => p l) s ls := by
  induction ls generalizing s with
  | nil => trivial
  | cons l ls ih =>
    exact ⟨h l (List.mem_cons_self ..), fun m o _ =>
      ih fun l' hl' => h l' (List.mem_cons_of_mem _ hl')⟩

lemma Along.append (h : Along step A s as) (hr : run step s as = some (m, o))
    (h' : Along step A m bs) : Along step A s (as ++ bs) := by
  induction as generalizing s o with
  | nil =>
    simp only [run_nil, Option.some.injEq, Prod.mk.injEq] at hr
    obtain ⟨rfl, _⟩ := hr
    exact h'
  | cons l as ih =>
    refine ⟨h.1, fun n p hs => ?_⟩
    obtain ⟨n', p', q, hs', hq, _⟩ := run_cons.mp hr
    rw [hs, Option.some.injEq, Prod.mk.injEq] at hs'
    obtain ⟨rfl, _⟩ := hs'
    exact ih (h.2 n p hs) hq

lemma along_snoc (hr : run step s ls = some (t, os)) :
    Along step A s (ls ++ [l]) ↔ Along step A s ls ∧ A t l :=
  ⟨fun h => ⟨h.take, (h.drop hr).1⟩, fun ⟨h, hl⟩ => h.append hr ⟨hl, fun _ _ _ => trivial⟩⟩

variable {I : σ → Prop}

/-- The rule of invariants: what each admitted step preserves holds at the end
of every run of admitted steps, and what each admitted step sends from such a
state satisfies `P`. -/
lemma run_spec {P : ω → Prop}
    (hstep : ∀ s l m o, I s → A s l → step s l = some (m, o) → I m ∧ ∀ c ∈ o, P c) (hi : I s)
    (ha : Along step A s ls) (hr : run step s ls = some (t, os)) : I t ∧ ∀ c ∈ os, P c := by
  induction ls generalizing s os with
  | nil =>
    simp only [run_nil, Option.some.injEq, Prod.mk.injEq] at hr
    obtain ⟨rfl, rfl⟩ := hr
    exact ⟨hi, by simp⟩
  | cons l ls ih =>
    obtain ⟨m, o, os', hs, hrest, rfl⟩ := run_cons.mp hr
    obtain ⟨him, hom⟩ := hstep s l m o hi ha.1 hs
    obtain ⟨hit, hot⟩ := ih him (ha.2 m o hs) hrest
    refine ⟨hit, fun c hc => ?_⟩
    rcases List.mem_append.mp hc with hc | hc
    · exact hom c hc
    · exact hot c hc

lemma run_invariant (hstep : ∀ s l m o, I s → A s l → step s l = some (m, o) → I m) (hi : I s)
    (ha : Along step A s ls) (hr : run step s ls = some (t, os)) : I t :=
  (run_spec (P := fun _ => True) (fun s l m o h hk hs => ⟨hstep s l m o h hk hs, by simp⟩)
    hi ha hr).1

/-- If every admitted step is possible and keeps the invariant, there is a run of them. -/
lemma exists_run (hstep : ∀ s l, I s → A s l → ∃ m o, step s l = some (m, o) ∧ I m) (hi : I s)
    (ha : Along step A s ls) :
    ∃ t os, run step s ls = some (t, os) ∧ I t := by
  induction ls generalizing s with
  | nil => exact ⟨s, [], rfl, hi⟩
  | cons l ls ih =>
    obtain ⟨m, o, hs, him⟩ := hstep s l hi ha.1
    obtain ⟨t, os, hr, hit⟩ := ih him (ha.2 m o hs)
    exact ⟨t, o ++ os, run_cons.mpr ⟨m, o, os, hs, hr, rfl⟩, hit⟩

/-- If a step without `P` leads into `J`, and no step leads out of it, a run has
`P` along all of it unless it ends in `J`. -/
lemma along_or {J : σ → Prop} (hbreak : ∀ s l m o, A s l → ¬ P s l → step s l = some (m, o) → J m)
    (hkeep : ∀ s l m o, J s → A s l → step s l = some (m, o) → J m) (ha : Along step A s ls)
    (hr : run step s ls = some (t, os)) : Along step P s ls ∨ J t := by
  induction ls generalizing s os with
  | nil => exact .inl trivial
  | cons l ls ih =>
    obtain ⟨m, o, os', hs, hrest, rfl⟩ := run_cons.mp hr
    by_cases hp : P s l
    · refine (ih (ha.2 m o hs) hrest).imp_left fun hrun => ⟨hp, fun m' o' hs' => ?_⟩
      rw [hs, Option.some.injEq, Prod.mk.injEq] at hs'
      exact hs'.1 ▸ hrun
    · exact .inr (run_invariant hkeep (hbreak s l m o ha.1 hp hs) (ha.2 m o hs) hrest)

/-- The rule of histories: a relation between the steps taken, what they sent
and the state they led to holds at the end of every run of admitted steps if one
more step keeps it. -/
lemma run_history {I : List ι → List ω → σ → Prop} (hi : I [] [] s)
    (hstep : ∀ ls os t l m o, run step s ls = some (t, os) → I ls os t → A t l →
      step t l = some (m, o) → I (ls ++ [l]) (os ++ o) m) (ha : Along step A s ls)
    (hr : run step s ls = some (t, os)) : I ls os t := by
  induction ls using List.reverseRecOn generalizing t os with
  | nil =>
    simp only [run_nil, Option.some.injEq, Prod.mk.injEq] at hr
    obtain ⟨rfl, rfl⟩ := hr
    exact hi
  | append_singleton ls l ih =>
    obtain ⟨m, o, o', hm, hl, rfl⟩ := run_append.mp hr
    exact hstep ls o m l t o' hm (ih ha.take hm) (ha.drop hm).1 (run_singleton.mp hl)

lemma along_of_run (hr : run step s ls = some (t, os)) :
    Along step (fun s l => (step s l).isSome) s ls := by
  induction ls generalizing s os with
  | nil => trivial
  | cons l ls ih =>
    obtain ⟨m, o, os', hs, hrest, rfl⟩ := run_cons.mp hr
    refine ⟨Option.isSome_of_eq_some hs, fun m' o' hs' => ?_⟩
    rw [hs, Option.some.injEq, Prod.mk.injEq] at hs'
    exact hs'.1 ▸ ih hrest

lemma along_of_invariant (hstep : ∀ s l m o, I s → A s l → step s l = some (m, o) → I m)
    (hq : ∀ s l, I s → A s l → Q s l) (hi : I s) (ha : Along step A s ls) : Along step Q s ls := by
  induction ls generalizing s with
  | nil => trivial
  | cons l ls ih =>
    exact ⟨hq s l hi ha.1, fun m o hs => ih (hstep s l m o hi ha.1 hs) (ha.2 m o hs)⟩

/-- Two step conditions that agree in every state of an invariant, which either of
them keeps, agree along whole runs. -/
lemma along_congr (hiff : ∀ s l, I s → A s l → (P s l ↔ Q s l))
    (hstep : ∀ s l m o, I s → A s l → Q s l → step s l = some (m, o) → I m) (hi : I s)
    (ha : Along step A s ls) :
    Along step P s ls ↔ Along step Q s ls := by
  induction ls generalizing s with
  | nil => exact Iff.rfl
  | cons l ls ih =>
    rw [along_cons, along_cons, hiff s l hi ha.1]
    refine and_congr_right fun hq => ?_
    refine forall₃_congr fun m o hs => ?_
    exact ih (hstep s l m o hi ha.1 hq hs) (ha.2 m o hs)

/-- If exactly the steps without `A` lead into a state that is `B`, and none
leads out of one, a run ends well exactly if it has `A` along all of it. -/
lemma not_bad_iff_along {B : σ → Prop} (hstep : ∀ s l m o, step s l = some (m, o) → (¬ B m ↔ A s l))
    (hstuck : ∀ s l, B s → step s l = none) (hs : ¬ B s) (hr : run step s ls = some (t, os)) :
    ¬ B t ↔ Along step A s ls := by
  induction ls generalizing s os with
  | nil =>
    simp only [run_nil, Option.some.injEq, Prod.mk.injEq] at hr
    obtain ⟨rfl, _⟩ := hr
    exact ⟨fun _ => trivial, fun _ => hs⟩
  | cons l ls ih =>
    obtain ⟨m, o, os', hl, hrest, rfl⟩ := run_cons.mp hr
    constructor
    · intro hgood
      have hm : ¬ B m := by
        intro hbad
        cases ls with
        | nil =>
          simp only [run_nil, Option.some.injEq, Prod.mk.injEq] at hrest
          exact hgood (hrest.1 ▸ hbad)
        | cons l' ls =>
          obtain ⟨_, _, _, hl', -, -⟩ := run_cons.mp hrest
          rw [hstuck m l' hbad] at hl'
          cases hl'
      refine ⟨(hstep s l m o hl).mp hm, fun m' o' hl' => ?_⟩
      rw [hl, Option.some.injEq, Prod.mk.injEq] at hl'
      exact hl'.1 ▸ (ih hm hrest).mp hgood
    · intro halong
      exact (ih ((hstep s l m o hl).mpr halong.1) hrest).mpr (halong.2 m o hl)

end Taramandal.Lib.Run

/-! ## What is seen of a run, and simulations

An observer sees of each step what a view makes of it, which may be nothing. One
system answers another if it can follow every step of it by some run of its own
of which the same is seen. -/
namespace Taramandal.Lib.Simulation

open Lib.Run

variable {σ ι ω ε : Type*}

/-- What a view makes of the steps of a run, in their order. -/
def seen (step : System σ ι ω) (view : σ → ι → List ω → List ε) : σ → List ι → List ε
  | _, [] => []
  | s, l :: ls =>
    match step s l with
    | none => []
    | some (m, o) => view s l o ++ seen step view m ls

variable {step : System σ ι ω} {view : σ → ι → List ω → List ε}

variable {s : σ}

variable {m : σ} {o : List ω}

lemma seen_cons {l : ι} {ls : List ι} (h : step s l = some (m, o)) :
    seen step view s (l :: ls) = view s l o ++ seen step view m ls := by
  simp only [seen, h]

lemma seen_append {as bs : List ι} (h : run step s as = some (m, o)) :
    seen step view s (as ++ bs) = seen step view s as ++ seen step view m bs := by
  induction as generalizing s o with
  | nil =>
    simp only [run_nil, Option.some.injEq, Prod.mk.injEq] at h
    obtain ⟨rfl, -⟩ := h
    rfl
  | cons l as ih =>
    obtain ⟨n, p, q, hs, hr, -⟩ := run_cons.mp h
    rw [List.cons_append, seen_cons hs, seen_cons hs, ih hr, List.append_assoc]

/-- Some run of steps with labels in `B` leads from `s` to `t`, and `es` is what is seen of it. -/
def Shows (step : System σ ι ω) (view : σ → ι → List ω → List ε) (B : ι → Prop) (s t : σ)
    (es : List ε) : Prop :=
  ∃ ls os, run step s ls = some (t, os) ∧ seen step view s ls = es ∧ ∀ l ∈ ls, B l

variable {B : ι → Prop}

lemma Shows.refl (s : σ) : Shows step view B s s [] := ⟨[], [], rfl, rfl, by simp⟩

lemma Shows.single {t : σ} {l : ι} {os : List ω} (h : step s l = some (t, os)) (hl : B l) :
    Shows step view B s t (view s l os) := by
  refine ⟨[l], os, run_singleton.mpr h, ?_, by simpa using hl⟩
  rw [seen_cons h]
  exact List.append_nil _

lemma Shows.trans {t u : σ} {es es' : List ε} (h : Shows step view B s t es)
    (h' : Shows step view B t u es') : Shows step view B s u (es ++ es') := by
  obtain ⟨ls, os, hr, rfl, hb⟩ := h
  obtain ⟨ls', os', hr', rfl, hb'⟩ := h'
  refine ⟨ls ++ ls', os ++ os', run_append.mpr ⟨t, os, os', hr, hr', rfl⟩, seen_append hr, ?_⟩
  intro l hl
  rcases List.mem_append.mp hl with hl | hl
  · exact hb l hl
  · exact hb' l hl

/-- The rule of simulations: if related states answer each admitted step of one
system with a run of the other of which the same is seen, into related states,
they answer every run of admitted steps so. -/
lemma simulation {σ' ι' ω' : Type*} {step' : System σ' ι' ω'} {view' : σ' → ι' → List ω' → List ε}
    {A : σ' → ι' → Prop} {R : σ → σ' → Prop}
    (hstep : ∀ s s' l t' o, R s s' → A s' l → step' s' l = some (t', o) →
      ∃ t, Shows step view B s t (view' s' l o) ∧ R t t') {s' t' : σ'} {ls : List ι'} {os : List ω'}
    (h : R s s') (ha : Along step' A s' ls) (hr : run step' s' ls = some (t', os)) :
    ∃ t, Shows step view B s t (seen step' view' s' ls) ∧ R t t' := by
  induction ls generalizing s s' os with
  | nil =>
    simp only [run_nil, Option.some.injEq, Prod.mk.injEq] at hr
    obtain ⟨rfl, -⟩ := hr
    exact ⟨s, .refl s, h⟩
  | cons l ls ih =>
    obtain ⟨m', o, os', hs, hrest, -⟩ := run_cons.mp hr
    obtain ⟨m, hshows, hm⟩ := hstep s s' l m' o h ha.1 hs
    obtain ⟨t, hshows', ht⟩ := ih hm (ha.2 m' o hs) hrest
    rw [seen_cons hs]
    exact ⟨t, hshows.trans hshows', ht⟩

end Taramandal.Lib.Simulation
