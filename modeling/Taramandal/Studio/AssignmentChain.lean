import Taramandal.Studio.Assignment
import Taramandal.Studio.Samples

/-! # The assignment chain (`/api/assign-chain`)

From the hover grid to each formation and back, each leg from where the one before has left the
drones. The server solves the chain, and the browser does where there is none; what SciPy solves
a leg with is a parameter. Points are sent as they are. -/
set_option linter.unusedSectionVars false

namespace Taramandal.Studio.AssignmentChain

open Lib.Check Core.Numbers Studio.Layout Studio.Formations Studio.Assignment Studio.Sequencer
open Studio.Samples (asGiven exactScene)

variable {K : Type} [Field K] [LinearOrder K]

/-! ## Both chains -/

def origin : Point K := ⟨0, 0, 0⟩

def occupied (form : List (Point K)) (perm : List ℕ) : List (Point K) :=
  perm.map fun k => form.getD k origin

/-- The loop of `computeAssignmentChainLocal`. -/
def chainLocal (forms : List (List (Point K))) (n : ℕ) : Option (List (List ℕ)) :=
  (List.range (forms.length - 1)).foldlM (fun chain s =>
    (optimalAssignment (occupied (forms.getD s []) (chain.getD s [])) (forms.getD (s + 1) [])).map
      fun perm => chain ++ [perm]) [List.range n]

section

-- `linear_sum_assignment`: the rows and the columns of the pairs that it picks
variable (linearSumAssignment : List (List K) → List ℕ × List ℕ)

/-- `optimal_assignment`. -/
def serverAssignment (fromPts toPts : List (Point K)) : Except String (List ℕ) :=
  let n := fromPts.length
  if n = 0 then .ok []
  else if toPts.length ≠ n then
    .error ("formations must be equal size (got " ++ toString n ++ " vs " ++
      toString toPts.length ++ ")")
  else
    let picked := linearSumAssignment (fromPts.map fun a => toPts.map (distSq a))
    .ok ((picked.1.zip picked.2).foldl (fun perm rc => perm.set rc.1 rc.2) (List.replicate n 0))

/-- A formation that is not of this size, with its index. -/
def oddForm (n : ℕ) (forms : List (List (Point K))) : Option (List (Point K) × ℕ) :=
  forms.zipIdx.find? fun f => f.1.length ≠ n

/-- `api_assign_chain`; an error is the detail of a 400. -/
def apiAssignChain (forms : List (List (Point K))) : Except String (List (List ℕ)) :=
  match forms with
  | [] => .error "forms must contain at least one formation"
  | first :: _ =>
    let n := first.length
    match oddForm n forms with
    | some (form, i) =>
      .error ("formation " ++ toString i ++ " has " ++ toString form.length ++
        " points, expected " ++ toString n ++ " (all formations must be equal size)")
    | none =>
      (List.range (forms.length - 1)).foldlM (fun targetIdx s =>
        (serverAssignment linearSumAssignment
          (occupied (forms.getD s []) (targetIdx.getD s [])) (forms.getD (s + 1) [])).map
          fun perm => targetIdx ++ [perm]) [List.range n]

end

section

variable [Sqrt K]

def chainForms (shapes : Shapes K) (scenes : List (Scene shapes)) (n : ℕ) :
    Except (ShowError K) (List (List (Point K))) :=
  (scenes.mapM fun s => buildFormation shapes s.shapeType s.shapePayload n s.scale).map
    fun built => hover n :: (built ++ [hover n])

/-- `computeAssignmentChain`, from what is sent to what comes back. -/
def computeAssignmentChain (linearSumAssignment : List (List K) → List ℕ × List ℕ)
    (shapes : Shapes K) (scenes : List (Scene shapes)) (n : ℕ) :
    Except (ShowError K) (List (List ℕ)) :=
  (chainForms shapes scenes n).bind fun forms =>
    match apiAssignChain linearSumAssignment forms with
    | .ok targetIdx => .ok targetIdx.tail
    | .error _ => .error (.plain "assign-chain failed (400)")

/-- `computeAssignmentChainLocal`; `none` would be a loop that does not end. -/
def computeAssignmentChainLocal (shapes : Shapes K) (scenes : List (Scene shapes)) (n : ℕ) :
    Except (ShowError K) (Option (List (List ℕ))) :=
  (chainForms shapes scenes n).map fun forms => (chainLocal forms n).map List.tail

end

/-- `total_cost`: the squares of what the drones fly. -/
def legCost (start goal : List (Point K)) (perm : List ℕ) : K :=
  ((start.zip perm).map fun q => distSq q.1 (goal.getD q.2 origin)).sum

def listed {n : ℕ} (σ : Equiv.Perm (Fin n)) : List ℕ := List.ofFn fun i => (σ i : ℕ)

def LeastLeg (n : ℕ) (start goal : List (Point K)) (perm : List ℕ) : Prop :=
  ∃ σ : Equiv.Perm (Fin n), perm = listed σ ∧
    ∀ τ : Equiv.Perm (Fin n), legCost start goal perm ≤ legCost start goal (listed τ)

lemma length_listed {n : ℕ} (σ : Equiv.Perm (Fin n)) : (listed σ).length = n :=
  List.length_ofFn

lemma legCost_listed {n : ℕ} {start : List (Point K)} (h : start.length = n)
    (goal : List (Point K)) (σ : Equiv.Perm (Fin n)) :
    legCost start goal (listed σ) =
      ∑ i : Fin n, distSq (start.getD i origin) (goal.getD (σ i) origin) := by
  subst h
  have hstart : start = List.ofFn fun i : Fin start.length => start.getD i origin := by
    refine List.ext_getElem (List.length_ofFn).symm fun i hi _ => ?_
    simp [List.getD_eq_getElem?_getD]
  unfold legCost listed
  rw [← List.sum_ofFn]
  congr 1
  refine List.ext_getElem ?_ fun i hi hi' => ?_
  · simp
  · simp [List.getD_eq_getElem?_getD]

/-! ## One leg -/

variable [IsStrictOrderedRing K]

/-- What is asked of `linear_sum_assignment`: of a square matrix it picks one pair in each row, in
order, and no other pairs are cheaper together. -/
def Solves (linearSumAssignment : List (List K) → List ℕ × List ℕ) : Prop :=
  ∀ {n : ℕ} (cost : Fin n → Fin n → K), ∃ σ : Equiv.Perm (Fin n),
    linearSumAssignment (rowsOf cost) = (List.range n, listed σ) ∧
      ∀ τ : Equiv.Perm (Fin n), ∑ i, cost i (σ i) ≤ ∑ i, cost i (τ i)

variable {n : ℕ} {start goal : List (Point K)}

lemma costs_eq (hstart : start.length = n) (hgoal : goal.length = n) :
    (start.map fun a => goal.map (distSq a)) =
      rowsOf fun i j : Fin n => distSq (start.getD i origin) (goal.getD j origin) := by
  unfold rowsOf
  refine List.ext_getElem (by simp [hstart]) fun i hi _ => ?_
  have hi : i < start.length := by simpa using hi
  rw [List.getElem_map, List.getElem_ofFn]
  refine List.ext_getElem (by simp [hgoal]) fun j hj _ => ?_
  have hj : j < goal.length := by simpa using hj
  simp [List.getD_eq_getElem?_getD, hi, hj]

lemma optimalAssignment_leg (hstart : start.length = n) (hgoal : goal.length = n) :
    ∃ perm, optimalAssignment start goal = some perm ∧ LeastLeg n start goal perm := by
  obtain ⟨σ, hsolve, hleast⟩ := solveAssignment_rowsOf fun i j : Fin n =>
    distSq (start.getD i origin) (goal.getD j origin)
  refine ⟨listed σ, ?_, σ, rfl, fun τ => ?_⟩
  · unfold optimalAssignment
    rw [costs_eq hstart hgoal]
    exact hsolve
  · rw [legCost_listed hstart, legCost_listed hstart]
    exact hleast τ

lemma set_pairs (xs : List ℕ) (rest : List ℕ) :
    ((List.range' rest.length xs.length).zip xs).foldl (fun perm rc => perm.set rc.1 rc.2)
      (rest ++ List.replicate xs.length 0) = rest ++ xs := by
  induction xs generalizing rest with
  | nil => simp
  | cons x xs ih =>
    have hset : (rest ++ List.replicate (xs.length + 1) 0).set rest.length x =
        (rest ++ [x]) ++ List.replicate xs.length 0 := by
      rw [List.set_append_right _ _ (le_refl _), Nat.sub_self, List.replicate_succ,
        List.set_cons_zero, List.append_assoc]
      rfl
    have hrest := ih (rest ++ [x])
    rw [List.length_append, List.length_singleton] at hrest
    rw [List.length_cons, List.range'_succ, List.zip_cons_cons, List.foldl_cons, hset, hrest,
      List.append_assoc]
    rfl

lemma serverAssignment_leg {linearSumAssignment : List (List K) → List ℕ × List ℕ}
    (hsolves : Solves linearSumAssignment) (hstart : start.length = n) (hgoal : goal.length = n) :
    ∃ perm, serverAssignment linearSumAssignment start goal = .ok perm ∧
      LeastLeg n start goal perm := by
  subst hstart
  unfold serverAssignment
  by_cases hzero : start.length = 0
  · refine ⟨[], if_pos hzero, ?_⟩
    have hempty : ∀ τ : Equiv.Perm (Fin start.length), listed τ = [] := fun τ =>
      List.length_eq_zero_iff.mp ((length_listed τ).trans hzero)
    exact ⟨1, (hempty 1).symm, fun τ => by rw [hempty τ]⟩
  · obtain ⟨σ, hpicked, hleast⟩ := hsolves fun i j : Fin start.length =>
      distSq (start.getD i origin) (goal.getD j origin)
    have hset := set_pairs (listed σ) []
    rw [length_listed, List.nil_append, List.nil_append, List.length_nil,
      ← List.range_eq_range'] at hset
    refine ⟨listed σ, ?_, σ, rfl, fun τ => ?_⟩
    · dsimp only
      rw [if_neg hzero, if_neg (not_not.mpr hgoal), costs_eq rfl hgoal, hpicked]
      exact congrArg Except.ok hset
    · rw [legCost_listed rfl, legCost_listed rfl]
      exact hleast τ

/-! ## The loops -/

lemma length_occupied (form : List (Point K)) (perm : List ℕ) :
    (occupied form perm).length = perm.length :=
  List.length_map _

/-- A chain that has come to the formation `s`. -/
structure Chained (n : ℕ) (forms : List (List (Point K))) (s : ℕ) (chain : List (List ℕ)) :
    Prop where
  length : chain.length = s + 1
  first : chain.getD 0 [] = List.range n
  leg : ∀ k < s, LeastLeg n (occupied (forms.getD k []) (chain.getD k [])) (forms.getD (k + 1) [])
    (chain.getD (k + 1) [])

variable {forms : List (List (Point K))} {s : ℕ} {chain : List (List ℕ)}

lemma Chained.length_entry (h : Chained n forms s chain) {k : ℕ} (hk : k ≤ s) :
    (chain.getD k []).length = n := by
  cases k with
  | zero => rw [h.first, List.length_range]
  | succ k =>
    obtain ⟨σ, hσ, -⟩ := h.leg k hk
    rw [hσ, length_listed]

lemma Chained.initial (n : ℕ) (forms : List (List (Point K))) : Chained n forms 0 [List.range n] :=
  ⟨rfl, rfl, fun k hk => absurd hk (Nat.not_lt_zero k)⟩

lemma Chained.step (h : Chained n forms s chain) {perm : List ℕ}
    (hleg : LeastLeg n (occupied (forms.getD s []) (chain.getD s [])) (forms.getD (s + 1) [])
      perm) : Chained n forms (s + 1) (chain ++ [perm]) := by
  have hold : ∀ k ≤ s, (chain ++ [perm]).getD k [] = chain.getD k [] := by
    intro k hk
    have hlength := h.length
    rw [List.getD_eq_getElem?_getD, List.getD_eq_getElem?_getD,
      List.getElem?_append_left (by omega)]
  have hnew : (chain ++ [perm]).getD (s + 1) [] = perm := by
    rw [List.getD_eq_getElem?_getD, ← h.length, List.getElem?_concat_length]
    rfl
  refine ⟨?_, ?_, fun k hk => ?_⟩
  · rw [List.length_append, h.length]
    rfl
  · rw [hold 0 (Nat.zero_le s), h.first]
  · rcases Nat.lt_succ_iff_lt_or_eq.mp hk with hlt | rfl
    · rw [hold k hlt.le, hold (k + 1) hlt]
      exact h.leg k hlt
    · rw [hold k (le_refl k), hnew]
      exact hleg

def Sized (n : ℕ) (forms : List (List (Point K))) : Prop := ∀ f ∈ forms, f.length = n

lemma Sized.length_getD (h : Sized n forms) {k : ℕ} (hk : k < forms.length) :
    (forms.getD k []).length = n := by
  rw [List.getD_eq_getElem?_getD, List.getElem?_eq_getElem hk]
  exact h _ (List.getElem_mem hk)

lemma chained_of_leg {M : Type → Type} [Monad M] [LawfulMonad M]
    {leg : List (Point K) → List (Point K) → M (List ℕ)}
    (hleg : ∀ {start goal}, start.length = n → goal.length = n →
      ∃ perm, leg start goal = pure perm ∧ LeastLeg n start goal perm)
    (hsized : Sized n forms) {s : ℕ} (hs : s < forms.length) :
    ∃ chain, (List.range s).foldlM (fun chain s => (chain ++ [·]) <$>
        leg (occupied (forms.getD s []) (chain.getD s [])) (forms.getD (s + 1) []))
        [List.range n] = pure chain ∧ Chained n forms s chain := by
  induction s with
  | zero => exact ⟨_, rfl, Chained.initial n forms⟩
  | succ s ih =>
    obtain ⟨chain, hrun, hchain⟩ := ih (Nat.lt_of_succ_lt hs)
    obtain ⟨perm, hperm, hstep⟩ := hleg
      ((length_occupied _ _).trans (hchain.length_entry (le_refl s)))
      (hsized.length_getD hs)
    refine ⟨chain ++ [perm], ?_, hchain.step hstep⟩
    rw [List.range_succ, List.foldlM_append, hrun, pure_bind, List.foldlM_cons, hperm, map_pure,
      pure_bind, List.foldlM_nil]

lemma chained_chainLocal (hsized : Sized n forms) {s : ℕ} (hs : s < forms.length) :
    ∃ chain, (List.range s).foldlM (fun chain s =>
        (optimalAssignment (occupied (forms.getD s []) (chain.getD s []))
          (forms.getD (s + 1) [])).map fun perm => chain ++ [perm]) [List.range n] = some chain ∧
      Chained n forms s chain :=
  chained_of_leg optimalAssignment_leg hsized hs

section

variable {linearSumAssignment : List (List K) → List ℕ × List ℕ}
  (hsolves : Solves linearSumAssignment) (hsized : Sized n forms)
include hsolves hsized

lemma apiAssignChain_chained (hne : forms ≠ []) :
    ∃ chain, apiAssignChain linearSumAssignment forms = .ok chain ∧
      Chained n forms (forms.length - 1) chain := by
  obtain ⟨first, rest, rfl⟩ := List.exists_cons_of_ne_nil hne
  have hfirst : first.length = n := hsized first List.mem_cons_self
  have hodd : oddForm n (first :: rest) = none := by
    refine List.find?_eq_none.mpr fun f hf => ?_
    have hmem : f.1 ∈ first :: rest := (List.mem_zipIdx' hf).2 ▸ List.getElem_mem _
    simpa using hsized f.1 hmem
  obtain ⟨chain, hrun, hchain⟩ := chained_of_leg (serverAssignment_leg hsolves) hsized
    (Nat.sub_lt (Nat.succ_pos rest.length) Nat.one_pos)
  refine ⟨chain, ?_, hchain⟩
  unfold apiAssignChain
  dsimp only
  rw [hfirst, hodd]
  exact hrun

end

/-! ## Both chains are least, leg by leg -/

def before (forms : List (List (Point K))) (targetIdx : List (List ℕ)) : ℕ → List (Point K)
  | 0 => forms.getD 0 []
  | k + 1 => occupied (forms.getD (k + 1) []) (targetIdx.getD k [])

/-- An entry for each scene and one for the return; each is a permutation, and none would be
cheaper from where the entry before has left the drones. -/
structure LeastChain (n : ℕ) (forms : List (List (Point K))) (targetIdx : List (List ℕ)) :
    Prop where
  length : targetIdx.length + 1 = forms.length
  leg : ∀ k < targetIdx.length, LeastLeg n (before forms targetIdx k) (forms.getD (k + 1) [])
    (targetIdx.getD k [])

lemma occupied_range (form : List (Point K)) : occupied form (List.range form.length) = form := by
  unfold occupied
  refine List.ext_getElem (by simp) fun i hi _ => ?_
  have hi : i < form.length := by simpa using hi
  simp [List.getD_eq_getElem?_getD, hi]

lemma Chained.least (h : Chained n forms (forms.length - 1) chain) (hsized : Sized n forms)
    (hne : forms ≠ []) : LeastChain n forms chain.tail := by
  have hpos : 0 < forms.length := List.length_pos_iff.mpr hne
  have htail : ∀ k, chain.tail.getD k [] = chain.getD (k + 1) [] := by
    intro k
    rw [List.getD_eq_getElem?_getD, List.getD_eq_getElem?_getD, List.getElem?_tail]
  have hlength : chain.tail.length = forms.length - 1 := by
    rw [List.length_tail, h.length]
    rfl
  refine ⟨by omega, fun k hk => ?_⟩
  have hleg := h.leg k (by omega)
  rw [htail]
  cases k with
  | zero =>
    have hfirst : (forms.getD 0 []).length = n := hsized.length_getD hpos
    have hstart := occupied_range (forms.getD 0 [])
    rw [hfirst, ← h.first] at hstart
    rwa [hstart] at hleg
  | succ k =>
    show LeastLeg n (occupied _ (chain.tail.getD k [])) _ _
    rwa [htail]

lemma LeastChain.cost_eq {browser server : List (List ℕ)} (hbrowser : LeastChain n forms browser)
    (hserver : LeastChain n forms server) {k : ℕ} (hk : k < browser.length)
    (hsame : k = 0 ∨ browser.getD (k - 1) [] = server.getD (k - 1) []) :
    legCost (before forms browser k) (forms.getD (k + 1) []) (browser.getD k []) =
      legCost (before forms server k) (forms.getD (k + 1) []) (server.getD k []) := by
  have hlength : browser.length = server.length :=
    Nat.succ.inj (hbrowser.length.trans hserver.length.symm)
  have hbefore : before forms server k = before forms browser k := by
    cases k with
    | zero => rfl
    | succ k =>
      have hentry : browser.getD k [] = server.getD k [] :=
        hsame.resolve_left (Nat.succ_ne_zero k)
      show occupied _ (server.getD k []) = occupied _ (browser.getD k [])
      rw [hentry]
  obtain ⟨σ, hσ, hleast⟩ := hbrowser.leg k hk
  obtain ⟨τ, hτ, hleast'⟩ := hserver.leg k (hlength ▸ hk)
  rw [hbefore] at hleast' ⊢
  refine le_antisymm ?_ ?_
  · rw [hτ]
    exact hleast τ
  · rw [hσ]
    exact hleast' σ

variable [Sqrt K]

/-- What the browser plans and what the server does are chains of the same kind, of the same
costs. -/
theorem chains_agree {shapes : Shapes K} {scenes : List (Scene shapes)}
    {linearSumAssignment : List (List K) → List ℕ × List ℕ} {built : List (List (Point K))}
    (hsolves : Solves linearSumAssignment)
    (hbuilt : (scenes.mapM fun s =>
      buildFormation shapes s.shapeType s.shapePayload n s.scale) = .ok built)
    (hsized : Sized n built) :
    ∃ browser server,
      computeAssignmentChainLocal shapes scenes n = .ok (some browser) ∧
      computeAssignmentChain linearSumAssignment shapes scenes n = .ok server ∧
      LeastChain n (hover n :: (built ++ [hover n])) browser ∧
      LeastChain n (hover n :: (built ++ [hover n])) server ∧
      browser.length = scenes.length + 1 ∧ server.length = scenes.length + 1 ∧
      ∀ k ≤ scenes.length, (k = 0 ∨ browser.getD (k - 1) [] = server.getD (k - 1) []) →
        let forms : List (List (Point K)) := hover n :: (built ++ [hover n])
        legCost (before forms browser k) (forms.getD (k + 1) []) (browser.getD k []) =
          legCost (before forms server k) (forms.getD (k + 1) []) (server.getD k []) := by
  let forms : List (List (Point K)) := hover n :: (built ++ [hover n])
  have hhover : (hover n : List (Point K)).length = n := by simp [hover]
  have hall : Sized n forms :=
    List.forall_mem_cons.mpr ⟨hhover, List.forall_mem_append.mpr
      ⟨hsized, List.forall_mem_singleton.mpr hhover⟩⟩
  have hcount : built.length = scenes.length := (mapM_eq_ok.mp hbuilt).length_eq.symm
  have hforms : chainForms shapes scenes n = .ok forms := by
    unfold chainForms
    rw [hbuilt]
    rfl
  have hne : forms ≠ [] := List.cons_ne_nil _ _
  obtain ⟨browser, hbrowser, hchained⟩ := chained_chainLocal hall
    (Nat.sub_lt (List.length_pos_iff.mpr hne) Nat.one_pos)
  obtain ⟨server, hserver, hchained'⟩ := apiAssignChain_chained hsolves hall hne
  have hleast := hchained.least hall hne
  have hleast' := hchained'.least hall hne
  have hlength : forms.length = scenes.length + 2 := by simp [forms, hcount]
  refine ⟨browser.tail, server.tail, ?_, ?_, hleast, hleast', ?_, ?_, fun k hk hsame => ?_⟩
  · unfold computeAssignmentChainLocal
    rw [hforms]
    show Except.ok ((chainLocal forms n).map List.tail) = _
    unfold chainLocal
    rw [hbrowser]
    rfl
  · unfold computeAssignmentChain
    rw [hforms]
    dsimp only [Except.bind]
    rw [hserver]
  · have h := hleast.length
    omega
  · have h := hleast'.length
    omega
  · have h := hleast.length
    exact hleast.cost_eq hleast' (by omega) hsame

def searched (cost : List (List ℚ)) : List ℕ × List ℕ :=
  (List.range cost.length, (solveAssignment cost).getD [])

lemma solves_searched : Solves searched := by
  intro n cost
  obtain ⟨σ, hsolve, hleast⟩ := solveAssignment_rowsOf cost
  refine ⟨σ, ?_, hleast⟩
  unfold searched
  rw [hsolve, length_rowsOf]
  rfl

/-- Two drones, beside each other and then the other way round. -/
def sideBySide : List (Point ℚ) := [{ x := 0, y := 0, z := -8 }, { x := 0, y := 3, z := -8 }]

def sceneTwice : List (Scene (asGiven ℚ)) :=
  [exactScene sideBySide, exactScene sideBySide.reverse]

theorem chains_agree_pair : ∃ browser server,
    computeAssignmentChainLocal (asGiven ℚ) sceneTwice 2 = .ok (some browser) ∧
    computeAssignmentChain searched (asGiven ℚ) sceneTwice 2 = .ok server ∧
    LeastChain 2 [hover 2, sideBySide, sideBySide.reverse, hover 2] browser ∧
    LeastChain 2 [hover 2, sideBySide, sideBySide.reverse, hover 2] server := by
  have hbuilt : (sceneTwice.mapM fun s => buildFormation (asGiven ℚ) s.shapeType s.shapePayload 2
      s.scale) = .ok [sideBySide, sideBySide.reverse] := by decide +kernel
  have hsized : Sized 2 [sideBySide, sideBySide.reverse] :=
    List.forall_mem_cons.mpr ⟨rfl, List.forall_mem_singleton.mpr rfl⟩
  obtain ⟨browser, server, hbrowser, hserver, hleast, hleast', -⟩ :=
    chains_agree solves_searched hbuilt hsized
  exact ⟨browser, server, hbrowser, hserver, hleast, hleast'⟩

end Taramandal.Studio.AssignmentChain
