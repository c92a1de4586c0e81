import Mathlib.Data.List.Forall2

/-! # Checks that report every failure

A check gives a value or the list of everything wrong with its input. Two
checks run side by side both report, and the list of all their errors is in the
order they ran. Each combinator has one lemma: exactly when it accepts, and with
what. -/
namespace Taramandal.Lib.Check

universe u

variable {ε α β : Type u}

abbrev Checked (ε α : Type u) := Except (List ε) α

/-- Run both checks; the errors of both are reported. -/
def both : Checked ε α → Checked ε β → Checked ε (α × β)
  | .ok a, .ok b => .ok (a, b)
  | .ok _, .error e => .error e
  | .error e, .ok _ => .error e
  | .error e, .error e' => .error (e ++ e')

def each : List (Checked ε α) → Checked ε (List α)
  | [] => .ok []
  | c :: cs => (both c (each cs)).map fun p => p.1 :: p.2

def require (e : ε) (p : α → Prop) [DecidablePred p] (a : α) : Checked ε {a : α // p a} :=
  if h : p a then .ok ⟨a, h⟩ else .error [e]

/-- Two conditions on an accepted value; the first that fails is reported. -/
def requireBoth (e e' : ε) (p q : α → Prop) [DecidablePred p] [DecidablePred q] (a : α) :
    Checked ε {a : α // p a ∧ q a} :=
  if hp : p a then if hq : q a then .ok ⟨a, hp, hq⟩ else .error [e'] else .error [e]

lemma both_eq_ok {c : Checked ε α} {d : Checked ε β} {r : α × β} :
    both c d = .ok r ↔ c = .ok r.1 ∧ d = .ok r.2 := by
  obtain ⟨a, b⟩ := r
  cases c <;> cases d <;> simp [both]

section

variable {c : Except ε α}

lemma map_eq_ok {f : α → β} {b : β} : Except.map f c = .ok b ↔ ∃ a, c = .ok a ∧ f a = b := by
  cases c <;> simp [Except.map]

lemma bind_eq_ok {f : α → Except ε β} {b : β} :
    (c >>= f) = .ok b ↔ ∃ a, c = .ok a ∧ f a = .ok b := by
  cases c <;> simp [bind, Except.bind]

lemma bind_eq_error {f : α → Except ε β} {e : ε} :
    (c >>= f) = .error e ↔ c = .error e ∨ ∃ a, c = .ok a ∧ f a = .error e := by
  cases c <;> simp [bind, Except.bind]

lemma ok_of_toOption {a : α} (h : c.toOption = some a) : c = .ok a := by
  cases c with
  | error e => cases h
  | ok b => exact congrArg Except.ok (Option.some.inj h)

end

lemma each_eq_ok {cs : List (Checked ε α)} {as : List α} : each cs = .ok as ↔ cs = as.map .ok := by
  induction cs generalizing as with
  | nil => cases as <;> simp [each]
  | cons c cs ih =>
    simp only [each, map_eq_ok, both_eq_ok, Prod.exists, ih]
    constructor
    · rintro ⟨a, as, ⟨rfl, rfl⟩, rfl⟩
      simp
    · cases as with
      | nil => simp
      | cons a as =>
        intro h
        obtain ⟨rfl, rfl⟩ := List.cons.inj h
        exact ⟨a, as, ⟨rfl, rfl⟩, rfl⟩

lemma require_eq_ok {e : ε} {p : α → Prop} [DecidablePred p] {a : α} {r : {a : α // p a}} :
    require e p a = .ok r ↔ r.val = a := by
  unfold require
  split
  next h => simp [Except.ok.injEq, Subtype.ext_iff, eq_comm]
  next h =>
    constructor
    · intro h'; cases h'
    · rintro rfl; exact absurd r.property h

lemma requireBoth_eq_ok {e e' : ε} {p q : α → Prop} [DecidablePred p] [DecidablePred q] {a : α}
    {r : {a : α // p a ∧ q a}} : requireBoth e e' p q a = .ok r ↔ r.val = a := by
  unfold requireBoth
  constructor
  · intro h
    split at h
    · split at h
      · exact (congrArg Subtype.val (Except.ok.inj h)).symm
      · cases h
    · cases h
  · rintro rfl
    rw [dif_pos r.property.1, dif_pos r.property.2]

lemma mapM_eq_ok {f : α → Except ε β} {as : List α} {bs : List β} :
    as.mapM f = .ok bs ↔ List.Forall₂ (fun a b => f a = .ok b) as bs := by
  induction as generalizing bs with
  | nil =>
    cases bs with
    | nil => simp [pure, Except.pure]
    | cons b bs => simp [pure, Except.pure, List.forall₂_nil_left_iff]
  | cons a as ih =>
    rw [List.mapM_cons]
    constructor
    · intro h
      obtain ⟨b, hb, h⟩ := bind_eq_ok.mp h
      obtain ⟨bs', hbs, h⟩ := bind_eq_ok.mp h
      cases h
      exact .cons hb (ih.mp hbs)
    · rintro (_ | ⟨hb, hbs⟩)
      rw [hb, ih.mpr hbs]
      rfl

/-- A loop whose every step succeeds runs to its end, with what the steps promise. -/
lemma mapM_of_forall₂ {γ : Type*} {f : α → Except ε β} {R : β → γ → Prop} {as : List α}
    {cs : List γ} (h : List.Forall₂ (fun a c => ∃ b, f a = .ok b ∧ R b c) as cs) :
    ∃ bs, as.mapM f = .ok bs ∧ List.Forall₂ R bs cs := by
  induction h with
  | nil => exact ⟨[], rfl, .nil⟩
  | cons hone _ ih =>
    obtain ⟨b, hb, hR⟩ := hone
    obtain ⟨bs, hbs, hrest⟩ := ih
    exact ⟨b :: bs, mapM_eq_ok.mpr (.cons hb (mapM_eq_ok.mp hbs)), .cons hR hrest⟩

lemma length_of_mapM {f : α → Except ε β} {as : List α} {bs : List β}
    (h : as.mapM f = .ok bs) : bs.length = as.length :=
  (mapM_eq_ok.mp h).length_eq.symm

lemma exists_of_mapM {f : α → Except ε β} {as : List α} {bs : List β}
    (h : as.mapM f = .ok bs) {a : α} (ha : a ∈ as) : ∃ b ∈ bs, f a = .ok b := by
  induction mapM_eq_ok.mp h with
  | nil => cases ha
  | cons hone hrest ih =>
    rcases List.mem_cons.mp ha with rfl | ha
    · exact ⟨_, List.mem_cons_self .., hone⟩
    · obtain ⟨b, hb, hone⟩ := ih (mapM_eq_ok.mpr hrest) ha
      exact ⟨b, List.mem_cons_of_mem _ hb, hone⟩

lemma map_of_mapM {γ : Type*} {f : α → Except ε β} {g : β → γ} {k : α → γ} {as : List α}
    {bs : List β} (h : as.mapM f = .ok bs) (hone : ∀ a b, f a = .ok b → g b = k a) :
    bs.map g = as.map k := by
  induction mapM_eq_ok.mp h with
  | nil => rfl
  | cons hab hrest ih => rw [List.map_cons, List.map_cons, hone _ _ hab, ih (mapM_eq_ok.mpr hrest)]

lemma mapM_isOk {f : α → Except ε β} {as : List α} (h : ∀ a ∈ as, ∃ b, f a = .ok b) :
    ∃ bs, as.mapM f = .ok bs := by
  induction as with
  | nil => exact ⟨[], rfl⟩
  | cons a as ih =>
    obtain ⟨b, hb⟩ := h a (List.mem_cons_self ..)
    obtain ⟨bs, hbs⟩ := ih fun a ha => h a (List.mem_cons_of_mem _ ha)
    exact ⟨b :: bs, mapM_eq_ok.mpr (.cons hb (mapM_eq_ok.mp hbs))⟩

lemma mapM_eq_error {f : α → Except ε β} {as : List α} {e : ε} (h : as.mapM f = .error e) :
    ∃ a ∈ as, f a = .error e := by
  induction as with
  | nil => cases h
  | cons a as ih =>
    rw [List.mapM_cons] at h
    rcases bind_eq_error.mp h with hone | ⟨b, -, h⟩
    · exact ⟨a, List.mem_cons_self .., hone⟩
    · rcases bind_eq_error.mp h with hrest | ⟨bs, -, h⟩
      · obtain ⟨c, hc, hone⟩ := ih hrest
        exact ⟨c, List.mem_cons_of_mem _ hc, hone⟩
      · cases h

lemma exists_of_forall₂ {R : α → β → Prop} {as : List α} {bs : List β} (h : List.Forall₂ R as bs)
    {b : β} (hb : b ∈ bs) : ∃ a ∈ as, R a b := by
  induction h with
  | nil => cases hb
  | cons hone hrest ih =>
    rcases List.mem_cons.mp hb with rfl | hb
    · exact ⟨_, List.mem_cons_self .., hone⟩
    · obtain ⟨a, ha, hone⟩ := ih hb
      exact ⟨a, List.mem_cons_of_mem _ ha, hone⟩

lemma exists_of_zip {γ : Type*} {R : α × γ → β → Prop} {as : List α} {cs : List γ} {bs : List β}
    (h : List.Forall₂ R (as.zip cs) bs) {a : α} {b : β} (hab : (a, b) ∈ as.zip bs) :
    ∃ c, R (a, c) b := by
  induction as generalizing cs bs with
  | nil => cases hab
  | cons a' as ih =>
    cases cs with
    | nil =>
      cases h
      cases hab
    | cons c cs =>
      cases h with
      | cons hone hrest =>
        rcases List.mem_cons.mp hab with hhead | htail
        · obtain ⟨rfl, rfl⟩ := Prod.mk.inj hhead
          exact ⟨c, hone⟩
        · exact ih hrest htail

lemma exists_of_mem_mapM {f : α → Except ε β} {as : List α} {bs : List β}
    (h : as.mapM f = .ok bs) {b : β} (hb : b ∈ bs) : ∃ a ∈ as, f a = .ok b :=
  exists_of_forall₂ (mapM_eq_ok.mp h) hb

end Taramandal.Lib.Check
