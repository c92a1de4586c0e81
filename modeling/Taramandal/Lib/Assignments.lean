import Mathlib.Algebra.Order.BigOperators.Group.Finset
import Mathlib.Order.Interval.Finset.Nat
import Mathlib.Tactic.Linarith

/-! # Assignments of least cost

Potentials on both sides certify an assignment that uses only pairs without slack; a partial
matching grows along a path of columns, each of which hands its row on to the one before. -/
namespace Taramandal.Lib.Assignments

section

variable {ι κ K : Type*} [CommRing K] [LinearOrder K] [IsStrictOrderedRing K]
  {cost : ι → κ → K} {u : ι → K} {v : κ → K}

def slack (cost : ι → κ → K) (u : ι → K) (v : κ → K) (i : ι) (j : κ) : K := cost i j - u i - v j

lemma exchange {i k : ι} {j l : κ} (hij : slack cost u v i j = 0) (hkl : slack cost u v k l = 0)
    (hil : 0 ≤ slack cost u v i l) (hkj : 0 ≤ slack cost u v k j) :
    cost i j + cost k l ≤ cost i l + cost k j := by
  unfold slack at hij hkl hil hkj
  linarith

lemma sum_le [Fintype ι] {σ τ : ι ≃ κ} (htight : ∀ i, slack cost u v i (σ i) = 0)
    (hslack : ∀ i j, 0 ≤ slack cost u v i j) : ∑ i, cost i (σ i) ≤ ∑ i, cost i (τ i) := by
  have hτ : ∀ i, u i + v (τ i) ≤ cost i (τ i) := by
    intro i
    have := hslack i (τ i)
    unfold slack at this
    linarith
  have hσ : ∀ i, cost i (σ i) = u i + v (σ i) := by
    intro i
    have := htight i
    unfold slack at this
    linarith
  have hv : ∑ i, v (σ i) = ∑ i, v (τ i) := by
    have hi : ∀ i, v (τ ((σ.trans τ.symm) i)) = v (σ i) := fun i => by simp
    rw [← Equiv.sum_comp (σ.trans τ.symm) fun i => v (τ i)]
    exact (Finset.sum_congr rfl fun i _ => hi i).symm
  calc ∑ i, cost i (σ i) = ∑ i, (u i + v (σ i)) := Finset.sum_congr rfl fun i _ => hσ i
    _ = ∑ i, u i + ∑ i, v (τ i) := by rw [Finset.sum_add_distrib, hv]
    _ = ∑ i, (u i + v (τ i)) := Finset.sum_add_distrib.symm
    _ ≤ ∑ i, cost i (τ i) := Finset.sum_le_sum fun i _ => hτ i

end

/-- Of `n` columns (0 is none), each has a row up to `m`, or 0 for none; each row has one. -/
structure Matching (n m : ℕ) (p : ℕ → ℕ) : Prop where
  le : ∀ j, 1 ≤ j → j ≤ n → p j ≤ m
  inj : ∀ j k, 1 ≤ j → j ≤ n → 1 ≤ k → k ≤ n → p j ≠ 0 → p j = p k → j = k
  onto : ∀ r, 1 ≤ r → r ≤ m → ∃ j, 1 ≤ j ∧ j ≤ n ∧ p j = r

variable {n j : ℕ} {p : ℕ → ℕ} {L : List ℕ}

lemma Matching.exists_free {m : ℕ} (h : Matching n m p) (hm : m < n) :
    ∃ j, 1 ≤ j ∧ j ≤ n ∧ p j = 0 := by
  by_contra hnone
  push Not at hnone
  obtain ⟨j, hj, k, hk, hne, heq⟩ := Finset.exists_ne_map_eq_of_card_lt_of_maps_to
    (s := Finset.Icc 1 n) (t := Finset.Icc 1 m) (f := p) (by simpa using hm) fun j hj => by
      obtain ⟨hj1, hjn⟩ := Finset.mem_Icc.mp hj
      exact Finset.mem_Icc.mpr ⟨Nat.one_le_iff_ne_zero.mpr (hnone j hj1 hjn), h.le j hj1 hjn⟩
  obtain ⟨hj1, hjn⟩ := Finset.mem_Icc.mp hj
  obtain ⟨hk1, hkn⟩ := Finset.mem_Icc.mp hk
  exact hne (h.inj j k hj1 hjn hk1 hkn (hnone j hj1 hjn) heq)

lemma Matching.full (h : Matching n n p) (hj1 : 1 ≤ j) (hj : j ≤ n) : p j ≠ 0 := by
  intro hfree
  choose q hq1 hqn hq using fun r : {r // 1 ≤ r ∧ r ≤ n} => h.onto r r.2.1 r.2.2
  let f : ℕ → ℕ := fun r => if hr : 1 ≤ r ∧ r ≤ n then q ⟨r, hr⟩ else 0
  obtain ⟨r, hr, r', hr', hne, heq⟩ := Finset.exists_ne_map_eq_of_card_lt_of_maps_to
    (s := Finset.Icc 1 n) (t := (Finset.Icc 1 n).erase j) (f := f)
    (Finset.card_erase_lt_of_mem (Finset.mem_Icc.mpr ⟨hj1, hj⟩)) fun r hr => by
      have hrow := Finset.mem_Icc.mp hr
      simp only [f, dif_pos hrow, Finset.coe_erase, Finset.coe_Icc]
      refine ⟨⟨hq1 ⟨r, hrow⟩, hqn ⟨r, hrow⟩⟩, fun hjq => ?_⟩
      have hzero := (hq ⟨r, hrow⟩).symm.trans ((congrArg p hjq).trans hfree)
      exact Nat.ne_of_gt hrow.1 hzero
  have hrow := Finset.mem_Icc.mp hr
  have hrow' := Finset.mem_Icc.mp hr'
  simp only [f, dif_pos hrow, dif_pos hrow'] at heq
  exact hne ((hq ⟨r, hrow⟩).symm.trans ((congrArg p heq).trans (hq ⟨r', hrow'⟩)))

/-! ## Paths -/

/-- `way` goes from `j` through the columns of the list to 0. -/
def Follows (way : ℕ → ℕ) : ℕ → List ℕ → Prop
  | j, [] => way j = 0
  | j, k :: rest => way j = k ∧ k ≠ 0 ∧ Follows way k rest

variable {way : ℕ → ℕ}

section

variable (h : Follows way j L)
include h

lemma Follows.next : ∀ c ∈ j :: L, way c = 0 ∨ way c ∈ L := by
  induction L generalizing j with
  | nil =>
    intro c hc
    obtain rfl := List.mem_singleton.mp hc
    exact .inl h
  | cons k rest ih =>
    obtain ⟨hway, -, hrest⟩ := h
    intro c hc
    rcases List.mem_cons.mp hc with rfl | hc
    · exact .inr (hway ▸ List.mem_cons_self)
    · exact (ih hrest c hc).imp_right (List.mem_cons_of_mem k)

lemma Follows.ne_zero : ∀ c ∈ L, c ≠ 0 := by
  induction L generalizing j with
  | nil => exact fun c hc => nomatch hc
  | cons k rest ih =>
    intro c hc
    rcases List.mem_cons.mp hc with rfl | hc
    · exact h.2.1
    · exact ih h.2.2 c hc

lemma Follows.reached : ∀ c, c = 0 ∨ c ∈ L → ∃ a ∈ j :: L, way a = c := by
  induction L generalizing j with
  | nil =>
    rintro c (rfl | hc)
    · exact ⟨j, List.mem_cons_self, h⟩
    · cases hc
  | cons k rest ih =>
    obtain ⟨hway, -, hrest⟩ := h
    intro c hc
    by_cases hck : c = k
    · exact ⟨j, List.mem_cons_self, hck ▸ hway⟩
    · obtain ⟨a, ha, hac⟩ := ih hrest c (hc.imp_right fun hmem =>
        (List.mem_cons.mp hmem).resolve_left hck)
      exact ⟨a, List.mem_cons_of_mem j ha, hac⟩

lemma Follows.inj (hnodup : (j :: L).Nodup) :
    ∀ a ∈ j :: L, ∀ b ∈ j :: L, way a = way b → a = b := by
  induction L generalizing j with
  | nil =>
    intro a ha b hb _
    rw [List.mem_singleton.mp ha, List.mem_singleton.mp hb]
  | cons k rest ih =>
    obtain ⟨hway, hk, hrest⟩ := h
    have htail := (List.nodup_cons.mp hnodup).2
    have hfirst : ∀ b ∈ k :: rest, way b ≠ k := by
      intro b hb heq
      rcases hrest.next b hb with hzero | hmem
      · exact hk (heq.symm.trans hzero)
      · exact (List.nodup_cons.mp htail).1 (heq ▸ hmem)
    intro a ha b hb hab
    rcases List.mem_cons.mp ha with haj | ha <;> rcases List.mem_cons.mp hb with hbj | hb
    · rw [haj, hbj]
    · exact absurd (hab.symm.trans (haj ▸ hway)) (hfirst b hb)
    · exact absurd (hab.trans (hbj ▸ hway)) (hfirst a ha)
    · exact ih hrest htail a ha b hb hab

end

lemma Follows.congr {way' : ℕ → ℕ} (h : Follows way j L)
    (hsame : ∀ c ∈ j :: L, way' c = way c) : Follows way' j L := by
  induction L generalizing j with
  | nil => exact (hsame j List.mem_cons_self).trans h
  | cons k rest ih =>
    obtain ⟨hway, hk, hrest⟩ := h
    exact ⟨(hsame j List.mem_cons_self).trans hway, hk,
      ih hrest fun c hc => hsame c (List.mem_cons_of_mem j hc)⟩

/-- The columns of the path get the row of the next one. -/
def handOn (way : ℕ → ℕ) (L : List ℕ) (p : ℕ → ℕ) (c : ℕ) : ℕ := if c ∈ L then p (way c) else p c

/-- A path from a column without a row to the new row's place: one row more is matched. -/
lemma Matching.grow {m : ℕ} (h : Matching n m p)
    (hfollows : Follows way j L) (hnodup : (j :: L).Nodup) (hcols : ∀ c ∈ j :: L, 1 ≤ c ∧ c ≤ n)
    (hnew : p 0 = m + 1) (hfree : p j = 0) : Matching n (m + 1) (handOn way (j :: L) p) := by
  have hmem : ∀ c ∈ j :: L, handOn way (j :: L) p c = p (way c) := fun c hc => if_pos hc
  have hout : ∀ c, c ∉ j :: L → handOn way (j :: L) p c = p c := fun c hc => if_neg hc
  have hway : ∀ c ∈ j :: L, way c = 0 ∨ 1 ≤ way c ∧ way c ≤ n := fun c hc =>
    (hfollows.next c hc).imp_right fun hw => hcols _ (List.mem_cons_of_mem j hw)
  refine ⟨fun c h1 hn => ?_, fun a b ha1 han hb1 hbn hne hab => ?_, fun r h1 hr => ?_⟩
  · by_cases hc : c ∈ j :: L
    · rw [hmem c hc]
      rcases hway c hc with hw | ⟨hw1, hwn⟩
      · rw [hw, hnew]
      · exact (h.le _ hw1 hwn).trans (Nat.le_succ m)
    · rw [hout c hc]
      exact (h.le c h1 hn).trans (Nat.le_succ m)
  · -- both sides read `p` at places that are the same only for the same column
    have hplace : ∀ c d, 1 ≤ c → c ≤ n → d = 0 ∨ 1 ≤ d ∧ d ≤ n → p c ≠ 0 → p c = p d → c = d := by
      intro c d hc1 hcn hd hpc heq
      rcases hd with rfl | ⟨hd1, hdn⟩
      · have := h.le c hc1 hcn
        omega
      · exact h.inj c d hc1 hcn hd1 hdn hpc heq
    have hcross : ∀ c ∈ j :: L, ∀ d, d ∉ j :: L → 1 ≤ d → d ≤ n → p (way c) ≠ 0 →
        p (way c) ≠ p d := by
      intro c hc d hd hd1 hdn hne heq
      have hsame := hplace d (way c) hd1 hdn (hway c hc) (heq ▸ hne) heq.symm
      rcases hfollows.next c hc with hzero | hwmem
      · omega
      · exact hd (hsame ▸ List.mem_cons_of_mem j hwmem)
    by_cases ha : a ∈ j :: L <;> by_cases hb : b ∈ j :: L
    · rw [hmem a ha] at hne hab
      rw [hmem b hb] at hab
      refine hfollows.inj hnodup a ha b hb ?_
      rcases hway a ha with hwa | ⟨hwa1, hwan⟩
      · rcases hway b hb with hwb | ⟨hwb1, hwbn⟩
        · rw [hwa, hwb]
        · exact (hplace _ _ hwb1 hwbn (.inl hwa) (hab ▸ hne) hab.symm).symm
      · exact hplace _ _ hwa1 hwan (hway b hb) hne hab
    · rw [hmem a ha] at hne hab
      rw [hout b hb] at hab
      exact absurd hab (hcross a ha b hb hb1 hbn hne)
    · rw [hout a ha] at hne hab
      rw [hmem b hb] at hab
      exact absurd hab.symm (hcross b hb a ha ha1 han (hab ▸ hne))
    · rw [hout a ha] at hne hab
      rw [hout b hb] at hab
      exact h.inj a b ha1 han hb1 hbn hne hab
  · by_cases hnewest : r = m + 1
    · obtain ⟨a, ha, hwa⟩ := hfollows.reached 0 (.inl rfl)
      exact ⟨a, (hcols a ha).1, (hcols a ha).2, by rw [hmem a ha, hwa, hnew, hnewest]⟩
    · obtain ⟨c, hc1, hcn, hpc⟩ := h.onto r h1 (by omega)
      by_cases hc : c ∈ j :: L
      · have hcL : c ∈ L := by
          rcases List.mem_cons.mp hc with rfl | hcL
          · omega
          · exact hcL
        obtain ⟨a, ha, hwa⟩ := hfollows.reached c (.inr hcL)
        exact ⟨a, (hcols a ha).1, (hcols a ha).2, by rw [hmem a ha, hwa, hpc]⟩
      · exact ⟨c, hc1, hcn, by rw [hout c hc, hpc]⟩

end Taramandal.Lib.Assignments
