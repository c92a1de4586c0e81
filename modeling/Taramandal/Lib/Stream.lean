import Mathlib.Data.List.Infix
import Taramandal.Lib.Check
import Taramandal.Lib.Run

/-! # A log written and read back

A system appends items to a log as it steps, and a reader goes through the log
item by item with a state of its own. If one step keeps the two states related
while the reader goes through what the step wrote, the reader of the whole log
hands out what was recorded along the run (`run_feed`). -/
namespace Taramandal.Lib.Stream

open Lib.Check Lib.Run

universe u

variable {ρ α ε : Type u} {β σ ι ω : Type*}

/-- The reader's state behind the items, and all it handed out, unless it stopped. -/
def feed (read : ρ → β → Except ε (ρ × List α)) : ρ → List β → Except ε (ρ × List α)
  | r, [] => .ok (r, [])
  | r, b :: bs => do
    let (r, out) ← read r b
    let (r, rest) ← feed read r bs
    return (r, out ++ rest)

variable {read : ρ → β → Except ε (ρ × List α)}

variable {bs : List β} {out : List α} {r r' r'' : ρ}

variable {b : β} {out' : List α}

lemma feed_cons {rest : List α} (hread : read r b = .ok (r', out))
    (hrest : feed read r' bs = .ok (r'', rest)) :
    feed read r (b :: bs) = .ok (r'', out ++ rest) :=
  bind_eq_ok.mpr ⟨_, hread, bind_eq_ok.mpr ⟨_, hrest, rfl⟩⟩

lemma feed_singleton (hread : read r b = .ok (r', out)) : feed read r [b] = .ok (r', out) := by
  rw [feed_cons hread rfl, List.append_nil]

variable {bs' : List β}

lemma feed_append (h : feed read r bs = .ok (r', out)) (h' : feed read r' bs' = .ok (r'', out')) :
    feed read r (bs ++ bs') = .ok (r'', out ++ out') := by
  induction bs generalizing r out with
  | nil =>
    obtain ⟨rfl, rfl⟩ := Prod.mk.inj (Except.ok.inj h)
    exact h'
  | cons b bs ih =>
    obtain ⟨⟨m, one⟩, hread, h⟩ := bind_eq_ok.mp h
    obtain ⟨⟨n, rest⟩, hrest, h⟩ := bind_eq_ok.mp h
    obtain ⟨rfl, rfl⟩ := Prod.mk.inj (Except.ok.inj h)
    rw [List.cons_append, List.append_assoc]
    exact feed_cons hread (ih hrest)

lemma feed_of_append (h : feed read r (bs ++ bs') = .ok (r'', out)) :
    ∃ r' before behind, feed read r bs = .ok (r', before) ∧
      feed read r' bs' = .ok (r'', behind) ∧ out = before ++ behind := by
  induction bs generalizing r out with
  | nil => exact ⟨r, [], out, rfl, h, rfl⟩
  | cons b bs ih =>
    obtain ⟨⟨m, one⟩, hread, h⟩ := bind_eq_ok.mp h
    obtain ⟨⟨n, rest⟩, hrest, h⟩ := bind_eq_ok.mp h
    obtain ⟨rfl, rfl⟩ := Prod.mk.inj (Except.ok.inj h)
    obtain ⟨r', before, behind, hbefore, hbehind, rfl⟩ := ih hrest
    exact ⟨r', one ++ before, behind, feed_cons hread hbefore, hbehind, (List.append_assoc ..).symm⟩

lemma feed_take (hpre : bs <+: bs') (h : feed read r bs = .ok (r', out))
    (h' : feed read r bs' = .ok (r'', out')) :
    out <+: out' := by
  obtain ⟨rest, rfl⟩ := hpre
  obtain ⟨m, before, behind, hbefore, -, rfl⟩ := feed_of_append h'
  obtain ⟨-, rfl⟩ := Prod.mk.inj (Except.ok.inj (h.symm.trans hbefore))
  exact List.prefix_append ..

lemma run_feed {step : System σ ι ω} {A : σ → ι → Prop} (log : σ → List β) {R : σ → ρ → Prop}
    {C : ω → α → Prop} (hstep : ∀ s l m o r, R s r → A s l → step s l = some (m, o) →
      ∃ items r' out, log m = log s ++ items ∧ feed read r items = .ok (r', out) ∧ R m r' ∧
        List.Forall₂ C o out) {s t : σ} {ls : List ι} {os : List ω} {r₀ : ρ} {before : List α}
    (hlog : feed read r₀ (log s) = .ok (r, before)) (hr : R s r) (ha : Along step A s ls)
    (hrun : run step s ls = some (t, os)) :
    ∃ r' out, feed read r₀ (log t) = .ok (r', before ++ out) ∧ R t r' ∧ List.Forall₂ C os out := by
  induction ls generalizing s os r before with
  | nil =>
    obtain ⟨rfl, rfl⟩ := Prod.mk.inj (Option.some.inj hrun)
    exact ⟨r, [], by rw [List.append_nil, hlog], hr, .nil⟩
  | cons l ls ih =>
    obtain ⟨m, o, os', hs, hrest, rfl⟩ := run_cons.mp hrun
    obtain ⟨items, r', out, happ, hread, hr', hout⟩ := hstep s l m o r hr ha.1 hs
    have hlog' : feed read r₀ (log m) = .ok (r', before ++ out) := by
      rw [happ]
      exact feed_append hlog hread
    obtain ⟨r'', rest, hall, hr'', hrest'⟩ := ih hlog' hr' (ha.2 m o hs) hrest
    rw [List.append_assoc] at hall
    exact ⟨r'', out ++ rest, hall, hr'', List.rel_append hout hrest'⟩

end Taramandal.Lib.Stream

/-! ## Lines, out of chunks

A text that comes in chunks is cut at its separators, and what stands behind the last of
them waits for the next chunk (`cut`). Where the chunks end makes no difference
(`cut_append`), and of a text that ends early whole lines are found and nothing else
(`cut_take`, `cut_extend`). -/
namespace Taramandal.Lib.Lines

variable {α : Type*} [DecidableEq α] {sep : α}

/-- The lines that are complete, and what is left of the text. -/
def cut (sep : α) (carry : List α) : List α → List (List α) × List α
  | [] => ([], carry)
  | a :: as =>
    if a = sep then (carry :: (cut sep [] as).1, (cut sep [] as).2) else cut sep (carry ++ [a]) as

def unlines (sep : α) (ls : List (List α)) : List α := ls.flatMap (· ++ [sep])

lemma cut_append (carry as bs : List α) : cut sep carry (as ++ bs) =
      ((cut sep carry as).1 ++ (cut sep (cut sep carry as).2 bs).1,
        (cut sep (cut sep carry as).2 bs).2) := by
  induction as generalizing carry with
  | nil => rfl
  | cons a as ih =>
    rw [List.cons_append, cut, cut]
    split
    · simp only [ih [], List.cons_append]
    · exact ih (carry ++ [a])

lemma cut_of_notMem {l : List α} (carry : List α) (h : sep ∉ l) :
    cut sep carry l = ([], carry ++ l) := by
  induction l generalizing carry with
  | nil => rw [cut, List.append_nil]
  | cons a l ih =>
    have ha : a ≠ sep := fun he => h (he ▸ List.mem_cons_self)
    have hl : sep ∉ l := fun hmem => h (List.mem_cons_of_mem a hmem)
    rw [cut, if_neg ha, ih _ hl, List.append_assoc, List.singleton_append]

variable {carry : List α}

lemma notMem_cut (h : sep ∉ carry) (as : List α) : sep ∉ (cut sep carry as).2 := by
  induction as generalizing carry with
  | nil => exact h
  | cons a as ih =>
    rw [cut]
    split
    · exact ih List.not_mem_nil
    · next ha =>
      refine ih ?_
      simp [h, Ne.symm ha]

lemma cut_carry (h : sep ∉ carry) (as : List α) : cut sep [] (carry ++ as) = cut sep carry as := by
  rw [cut_append, cut_of_notMem [] h]
  rfl

variable {ls : List (List α)}

lemma cut_unlines (h : ∀ l ∈ ls, sep ∉ l) : cut sep [] (unlines sep ls) = (ls, []) := by
  induction ls with
  | nil => rfl
  | cons l ls ih =>
    have hl := cut_of_notMem [] (h l List.mem_cons_self)
    rw [unlines, List.flatMap_cons, List.append_assoc, cut_append, hl]
    have hrest := ih fun k hk => h k (List.mem_cons_of_mem l hk)
    rw [unlines] at hrest
    simp [cut, hrest]

variable {as : List α}

lemma cut_take {bs : List α} (h : as <+: bs) : (cut sep [] as).1 <+: (cut sep [] bs).1 := by
  obtain ⟨cs, rfl⟩ := h
  rw [cut_append]
  exact List.prefix_append ..

lemma cut_unlines_take (h : ∀ l ∈ ls, sep ∉ l) (has : as <+: unlines sep ls) :
    (cut sep [] as).1 <+: ls := by
  have hpre : (cut sep [] as).1 <+: (cut sep [] (unlines sep ls)).1 := cut_take has
  rwa [cut_unlines h] at hpre

lemma cut_extend (h : ∀ l ∈ ls, sep ∉ l) (has : unlines sep ls <+: as) :
    ls <+: (cut sep [] as).1 := by
  have hpre : (cut sep [] (unlines sep ls)).1 <+: (cut sep [] as).1 := cut_take has
  rwa [cut_unlines h] at hpre

end Taramandal.Lib.Lines
