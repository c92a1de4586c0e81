import Mathlib.Data.List.Dedup
import Mathlib.Data.List.Induction
import Mathlib.Data.List.Sort

/-! # Levels logged as edges

A level is up or down for each of a family of names. A log of it holds the edges alone: a name
whose level went up, a name whose level came down. Read from the start, the edges give the level
back (`raised`). -/
namespace Taramandal.Lib.Edges

variable {κ : Type*} [DecidableEq κ]

inductive Edge (κ : Type*) where
  | up (k : κ)
  | down (k : κ)
  deriving DecidableEq

section

variable (k : κ) (level : Bool)

/-- The level of `k` behind one more edge. -/
def Edge.set : Edge κ → Bool
  | .up k' => if k' = k then true else level
  | .down k' => if k' = k then false else level

/-- The edge is one of `k`, and not to the level `k` has. -/
def Edge.Fits : Edge κ → Prop
  | .up k' => k' = k → level = false
  | .down k' => k' = k → level = true

/-- The level of `k` behind a log that it entered at `level`. -/
def raisedFrom (es : List (Edge κ)) : Bool := es.foldl (Edge.set k) level

end

/-- The level of `k` behind a log. -/
def raised (es : List (Edge κ)) (k : κ) : Bool := raisedFrom k false es

/-- From `level` on, the edges of `k` alternate. -/
def AlternatesFrom (k : κ) : Bool → List (Edge κ) → Prop
  | _, [] => True
  | level, e :: es => e.Fits k level ∧ AlternatesFrom k (e.set k level) es

/-- The edges of each name alternate, an upward one first. -/
def Alternates (es : List (Edge κ)) : Prop := ∀ k, AlternatesFrom k false es

@[simp] lemma raisedFrom_nil (k : κ) (level : Bool) : raisedFrom k level [] = level := rfl

lemma raisedFrom_append (k : κ) (level : Bool) (es es' : List (Edge κ)) :
    raisedFrom k level (es ++ es') = raisedFrom k (raisedFrom k level es) es' :=
  List.foldl_append

variable {k : κ} {level : Bool}

lemma alternatesFrom_append {es es' : List (Edge κ)} : AlternatesFrom k level (es ++ es') ↔
      AlternatesFrom k level es ∧ AlternatesFrom k (raisedFrom k level es) es' := by
  induction es generalizing level with
  | nil => exact (true_and _).to_iff.symm
  | cons e es ih =>
    rw [List.cons_append, AlternatesFrom, AlternatesFrom, ih, and_assoc]
    rfl

/-- The edge of a name to a level. -/
def Edge.to : Bool → κ → Edge κ
  | true => .up
  | false => .down

lemma raisedFrom_to (k : κ) (b level : Bool) (ks : List κ) :
    raisedFrom k level (ks.map (Edge.to b)) = if k ∈ ks then b else level := by
  induction ks generalizing level with
  | nil => rfl
  | cons j ks ih =>
    have hset : Edge.set k level (.to b j) = if j = k then b else level := by cases b <;> rfl
    have hstep : raisedFrom k level ((j :: ks).map (Edge.to b)) =
        raisedFrom k (Edge.set k level (.to b j)) (ks.map (Edge.to b)) := rfl
    rw [hstep, ih, hset]
    by_cases hj : j = k
    · simp [hj]
    · simp [hj, Ne.symm hj]

lemma alternatesFrom_to {b : Bool} {ks : List κ} (hnodup : ks.Nodup)
    (hlevel : k ∈ ks → level = !b) : AlternatesFrom k level (ks.map (Edge.to b)) := by
  induction ks generalizing level with
  | nil => trivial
  | cons j ks ih =>
    obtain ⟨hj, hnodup⟩ := List.nodup_cons.mp hnodup
    have hfits : j = k → level = !b := fun hjk => hlevel (hjk ▸ List.mem_cons_self)
    refine ⟨by cases b <;> exact hfits, ih hnodup fun hk => ?_⟩
    have hne : j ≠ k := fun hjk => hj (hjk ▸ hk)
    have hset : Edge.set k level (.to b j) = level := by cases b <;> exact if_neg hne
    rw [hset]
    exact hlevel (List.mem_cons_of_mem j hk)

/-- The names of `now` that are new and the names of `before` that are gone, each in
the order of `le`. -/
def newIn (le : κ → κ → Prop) [DecidableRel le] (before now : List κ) : List κ :=
  (now.filter (· ∉ before)).insertionSort le

def diff (le : κ → κ → Prop) [DecidableRel le] (before now : List κ) : List (Edge κ) :=
  (newIn le before now).map .up ++ (newIn le now before).map .down

variable {le : κ → κ → Prop} [DecidableRel le] {before now : List κ}

lemma mem_newIn : k ∈ newIn le before now ↔ k ∈ now ∧ k ∉ before := by
  simp [newIn]

lemma nodup_newIn (h : now.Nodup) : (newIn le before now).Nodup :=
  (List.perm_insertionSort le _).nodup_iff.mpr (h.filter _)

lemma raisedFrom_diff (hlevel : level = true ↔ k ∈ before) :
    raisedFrom k level (diff le before now) = true ↔ k ∈ now := by
  change raisedFrom k level ((newIn le before now).map (.to true) ++ _) = true ↔ k ∈ now
  rw [raisedFrom_append, raisedFrom_to]
  change raisedFrom k _ ((newIn le now before).map (.to false)) = true ↔ k ∈ now
  rw [raisedFrom_to]
  simp only [mem_newIn]
  by_cases hk : k ∈ now <;> by_cases hk' : k ∈ before <;> simp_all

lemma alternatesFrom_diff (hlevel : level = true ↔ k ∈ before)
    (hbefore : before.Nodup) (hnow : now.Nodup) :
    AlternatesFrom k level (diff le before now) := by
  refine alternatesFrom_append.mpr ⟨alternatesFrom_to (b := true) (nodup_newIn hnow) ?_,
    alternatesFrom_to (b := false) (nodup_newIn hbefore) ?_⟩
  · exact fun hk => Bool.eq_false_iff.mpr fun htrue => (mem_newIn.mp hk).2 (hlevel.mp htrue)
  · intro hk
    refine (raisedFrom_to k true level _).trans ?_
    rw [hlevel.mpr (mem_newIn.mp hk).1, ite_self, Bool.not_false]

lemma exists_up_of_raised {es : List (Edge κ)} (h : raised es k = true) :
    ∃ as bs, es = as ++ .up k :: bs ∧ Edge.down k ∉ bs := by
  induction es using List.reverseRecOn with
  | nil => cases h
  | append_singleton es e ih =>
    have hlast : raised (es ++ [e]) k = e.set k (raised es k) := raisedFrom_append k false es [e]
    rw [hlast] at h
    by_cases he : e = .up k
    · exact ⟨es, [], by rw [he], List.not_mem_nil⟩
    · have hdown : e ≠ .down k := by
        rintro rfl
        simp [Edge.set] at h
      have hstill : raised es k = true := by
        cases e with
        | up j =>
          have hj : j ≠ k := fun hj => he (hj ▸ rfl)
          rwa [Edge.set, if_neg hj] at h
        | down j =>
          have hj : j ≠ k := fun hj => hdown (hj ▸ rfl)
          rwa [Edge.set, if_neg hj] at h
      obtain ⟨as, bs, rfl, hbs⟩ := ih hstill
      refine ⟨as, bs ++ [e], by simp, ?_⟩
      rw [List.mem_append, List.mem_singleton, not_or]
      exact ⟨hbs, Ne.symm hdown⟩

end Taramandal.Lib.Edges
