import Taramandal.Lib.Assignments
import Taramandal.Studio.Layout

/-! # Assignment (`assignment.js`)

Which point each drone flies to, so that the squares of the distances are least together: row
after row is placed by a search for a path that ends at a column without a row. Rows and
columns count from 1; column 0 holds the row that is to be placed. -/
set_option linter.unusedSectionVars false

namespace Taramandal.Studio.Assignment

open Function Lib.Assignments Studio.Layout

variable {K : Type} [Field K] [LinearOrder K]

/-- `cost[r - 1][c - 1]`. -/
def costAt (cost : List (List K)) (r c : ℕ) : K := (cost.getD (r - 1) []).getD (c - 1) 0

/-- The potentials, the row that each column has, and the column each was reached from. -/
structure Tables (K : Type) where
  u : ℕ → K
  v : ℕ → K
  p : ℕ → ℕ
  way : ℕ → ℕ

/-- The search for a path; infinite is `⊤`. -/
structure Search (K : Type) extends Tables K where
  minv : ℕ → WithTop K
  used : ℕ → Bool
  j0 : ℕ

/-- What one look over the columns keeps. -/
structure Scan (K : Type) where
  minv : ℕ → WithTop K
  way : ℕ → ℕ
  delta : WithTop K
  j1 : ℕ

/-- `cur < minv[j]`. -/
def relax (cost : List (List K)) (s : Search K) (c : Scan K) (j : ℕ) : Scan K :=
  let cur := slack (costAt cost) s.u s.v (s.p s.j0) j
  if (cur : WithTop K) < c.minv j then
    { c with minv := update c.minv j cur, way := update c.way j s.j0 }
  else c

/-- `minv[j] < delta`. -/
def nearest (c : Scan K) (j : ℕ) : Scan K :=
  if c.minv j < c.delta then { c with delta := c.minv j, j1 := j } else c

def scanColumn (cost : List (List K)) (s : Search K) (c : Scan K) (j : ℕ) : Scan K :=
  if s.used j then c else nearest (relax cost s c j) j

def scan (n : ℕ) (cost : List (List K)) (s : Search K) : Scan K :=
  (List.range' 1 n).foldl (scanColumn cost s) ⟨s.minv, s.way, ⊤, 0⟩

def shiftColumn (delta : K) (s : Search K) (j : ℕ) : Search K :=
  if s.used j then
    { s with u := update s.u (s.p j) (s.u (s.p j) + delta), v := update s.v j (s.v j - delta) }
  else { s with minv := update s.minv j ((s.minv j).map (· - delta)) }

def shift (n : ℕ) (delta : K) (s : Search K) : Search K :=
  (List.range (n + 1)).foldl (shiftColumn delta) s

/-- One more column is used; without one to go on to, the loop would not end. -/
def searchStep (n : ℕ) (cost : List (List K)) (s : Search K) : Option (Search K) :=
  let s := { s with used := update s.used s.j0 true }
  let c := scan n cost s
  match c.delta with
  | ⊤ => none
  | (delta : K) => some { shift n delta { s with minv := c.minv, way := c.way } with j0 := c.j1 }

/-- `do … while (p[j0] !== 0)`. -/
def search (n : ℕ) (cost : List (List K)) : ℕ → Search K → Option (Search K)
  | 0, _ => none
  | fuel + 1, s =>
    (searchStep n cost s).bind fun s => if s.p s.j0 = 0 then some s else search n cost fuel s

/-- `do … while (j0)`. -/
def augment (way : ℕ → ℕ) : ℕ → (ℕ → ℕ) → ℕ → Option (ℕ → ℕ)
  | 0, _, _ => none
  | fuel + 1, p, j0 =>
    let p := update p j0 (p (way j0))
    if way j0 = 0 then some p else augment way fuel p (way j0)

/-- Where the search for a column for row `i` starts. -/
def openSearch (t : Tables K) (i : ℕ) : Search K where
  toTables := { t with p := update t.p 0 i }
  minv _ := ⊤
  used _ := false
  j0 := 0

/-- Row `i` gets a column. -/
def place (n : ℕ) (cost : List (List K)) (t : Tables K) (i : ℕ) : Option (Tables K) :=
  (search n cost (n + 1) (openSearch t i)).bind fun s =>
    (augment s.way (n + 1) s.p s.j0).map fun p => { s.toTables with p := p }

/-- `perm[p[j] - 1] = j - 1`, column after column. -/
def permOf (n : ℕ) (p : ℕ → ℕ) : List ℕ :=
  (List.range' 1 n).foldl (fun perm j => perm.set (p j - 1) (j - 1)) (List.replicate n 0)

def solveAssignment (cost : List (List K)) : Option (List ℕ) :=
  let n := cost.length
  ((List.range' 1 n).foldlM (place n cost) ⟨fun _ => 0, fun _ => 0, fun _ => 0, fun _ => 0⟩).map
    fun t => permOf n t.p

def distSq (a b : Point K) : K := (a.x - b.x) ^ 2 + (a.y - b.y) ^ 2 + (a.z - b.z) ^ 2

def optimalAssignment (start goal : List (Point K)) : Option (List ℕ) :=
  solveAssignment (start.map fun a => goal.map (distSq a))

section

variable {cost : List (List K)} {s : Search K}

lemma relax_minv (c : Scan K) (j k : ℕ) : (relax cost s c j).minv k = if k = j then
    min (c.minv j) (slack (costAt cost) s.u s.v (s.p s.j0) j : K) else c.minv k := by
  unfold relax
  dsimp only
  split
  next hlt =>
    simp only [update_apply]
    split
    next => exact (min_eq_right (le_of_lt hlt)).symm
    next => rfl
  next hle =>
    split
    next heq => rw [heq, min_eq_left (not_lt.mp hle)]
    next => rfl

lemma relax_way (c : Scan K) (j k : ℕ) : (relax cost s c j).way k =
    if k = j ∧ (slack (costAt cost) s.u s.v (s.p s.j0) j : K) < c.minv j then s.j0
    else c.way k := by
  unfold relax
  dsimp only
  split
  next hlt =>
    simp only [update_apply]
    exact if_congr (and_iff_left hlt).symm rfl rfl
  next hle => rw [if_neg fun h => hle h.2]

/-- What is known of the columns that were looked at. -/
structure ScanSpec (cost : List (List K)) (s : Search K) (seen : List ℕ) (c : Scan K) : Prop where
  minv : ∀ j, c.minv j = if j ∈ seen ∧ s.used j = false then
    min (s.minv j) (slack (costAt cost) s.u s.v (s.p s.j0) j : K) else s.minv j
  way : ∀ j, c.way j = if j ∈ seen ∧ s.used j = false ∧
    (slack (costAt cost) s.u s.v (s.p s.j0) j : K) < s.minv j then s.j0 else s.way j
  delta : ∀ j ∈ seen, s.used j = false → c.delta ≤ c.minv j
  best : c.delta = ⊤ ∨ c.j1 ∈ seen ∧ s.used c.j1 = false ∧ c.delta = c.minv c.j1

lemma ScanSpec.step {seen : List ℕ} {c : Scan K} (h : ScanSpec cost s seen c) {j : ℕ}
    (hj : j ∉ seen) : ScanSpec cost s (seen ++ [j]) (scanColumn cost s c j) := by
  have hmem : ∀ k, k ∈ seen ++ [j] ↔ k ∈ seen ∨ k = j := by simp
  cases hused : s.used j with
  | true =>
    have hother : ∀ k, s.used k = false → (k ∈ seen ++ [j] ↔ k ∈ seen) := fun k hk => by
      rw [hmem, or_iff_left]
      rintro rfl
      exact absurd (hused.symm.trans hk) (by decide)
    simp only [scanColumn, hused, if_true]
    refine ⟨fun k => ?_, fun k => ?_, fun k hk hku => ?_, h.best.imp_right fun hb => ?_⟩
    · rw [h.minv]
      exact if_congr (and_congr_left fun hk => (hother k hk).symm) rfl rfl
    · rw [h.way]
      exact if_congr (and_congr_left fun hk => (hother k hk.1).symm) rfl rfl
    · exact h.delta k ((hother k hku).mp hk) hku
    · exact ⟨(hmem _).mpr (.inl hb.1), hb.2⟩
  | false =>
    have hold : c.minv j = s.minv j := by rw [h.minv, if_neg fun hin => hj hin.1]
    have hminv : ∀ k, (relax cost s c j).minv k = if k ∈ seen ++ [j] ∧ s.used k = false then
        min (s.minv k) (slack (costAt cost) s.u s.v (s.p s.j0) k : K) else s.minv k := by
      intro k
      rw [relax_minv]
      by_cases hkj : k = j
      · rw [if_pos hkj, hkj, hold, if_pos ⟨(hmem j).mpr (.inr rfl), hused⟩]
      · rw [if_neg hkj, h.minv]
        exact if_congr (and_congr_left fun _ => by rw [hmem, or_iff_left hkj]) rfl rfl
    have hway : ∀ k, (relax cost s c j).way k = if k ∈ seen ++ [j] ∧ s.used k = false ∧
        (slack (costAt cost) s.u s.v (s.p s.j0) k : K) < s.minv k then s.j0 else s.way k := by
      intro k
      rw [relax_way, hold]
      by_cases hkj : k = j
      · subst hkj
        have hfresh : c.way k = s.way k := by rw [h.way, if_neg fun hin => hj hin.1]
        rw [hfresh]
        exact if_congr ⟨fun hk => ⟨(hmem k).mpr (.inr rfl), hused, hk.2⟩, fun hk => ⟨rfl, hk.2.2⟩⟩
          rfl rfl
      · rw [if_neg fun hk => hkj hk.1, h.way]
        exact if_congr (and_congr_left fun _ => by rw [hmem, or_iff_left hkj]) rfl rfl
    have hkeep : ∀ k ∈ seen, (relax cost s c j).minv k = c.minv k := fun k hk => by
      rw [relax_minv, if_neg (by rintro rfl; exact hj hk)]
    have hdelta : (relax cost s c j).delta = c.delta := by
      unfold relax
      dsimp only
      split <;> rfl
    have hj1 : (relax cost s c j).j1 = c.j1 := by
      unfold relax
      dsimp only
      split <;> rfl
    simp only [scanColumn, hused, Bool.false_eq_true, if_false, nearest]
    split
    next hlt =>
      refine ⟨hminv, hway, fun k hk hku => ?_, .inr ⟨(hmem j).mpr (.inr rfl), hused, rfl⟩⟩
      rcases (hmem k).mp hk with hk | rfl
      · refine (le_of_lt hlt).trans ?_
        rw [hdelta, hkeep k hk]
        exact h.delta k hk hku
      · exact le_refl _
    next hle =>
      refine ⟨hminv, hway, fun k hk hku => ?_, ?_⟩
      · rcases (hmem k).mp hk with hk | rfl
        · rw [hdelta, hkeep k hk]
          exact h.delta k hk hku
        · exact not_lt.mp hle
      · rw [hdelta, hj1]
        refine h.best.imp_right fun hb => ⟨(hmem _).mpr (.inl hb.1), hb.2.1, ?_⟩
        rw [hkeep _ hb.1]
        exact hb.2.2

lemma scanSpec_foldl (cost : List (List K)) (s : Search K) (columns : List ℕ)
    (hnodup : columns.Nodup) : ScanSpec cost s columns
      (columns.foldl (scanColumn cost s) ⟨s.minv, s.way, ⊤, 0⟩) := by
  induction columns using List.reverseRecOn with
  | nil => exact ⟨fun j => by simp, fun j => by simp, fun j hj => (nomatch hj), .inl rfl⟩
  | append_singleton seen j ih =>
    rw [List.foldl_concat]
    have hsplit := List.nodup_append.mp hnodup
    exact (ih hsplit.1).step fun hj => hsplit.2.2 j hj j List.mem_cons_self rfl

end

section

variable {s : Search K}

/-- The columns below `m` were shifted. -/
structure ShiftSpec (delta : K) (s : Search K) (m : ℕ) (t : Search K) : Prop where
  p : t.p = s.p
  way : t.way = s.way
  used : t.used = s.used
  v : ∀ j, t.v j = if j < m ∧ s.used j = true then s.v j - delta else s.v j
  minv : ∀ j, t.minv j = if j < m ∧ s.used j = false then (s.minv j).map (· - delta)
    else s.minv j
  moved : ∀ j < m, s.used j = true → t.u (s.p j) = s.u (s.p j) + delta
  kept : ∀ r, (∀ j < m, s.used j = true → s.p j ≠ r) → t.u r = s.u r

lemma ShiftSpec.step {delta : K} {m : ℕ} {t : Search K} (h : ShiftSpec delta s m t)
    (hinj : ∀ j < m, s.used j = true → s.used m = true → s.p j ≠ s.p m) :
    ShiftSpec delta s (m + 1) (shiftColumn delta t m) := by
  unfold shiftColumn
  rw [h.used]
  cases hused : s.used m with
  | true =>
    have hm : t.u (s.p m) = s.u (s.p m) := h.kept _ fun j hj hju => hinj j hj hju hused
    simp only [if_true]
    refine ⟨h.p, h.way, rfl, fun j => ?_, fun j => ?_, fun j hj hju => ?_, fun r hr => ?_⟩
    · simp only [update_apply]
      by_cases hjm : j = m
      · rw [if_pos hjm, hjm, if_pos ⟨Nat.lt_succ_self m, hused⟩, h.v,
          if_neg fun hin => (Nat.lt_irrefl m) hin.1]
      · rw [if_neg hjm, h.v]
        exact if_congr (and_congr_left fun _ => by omega) rfl rfl
    · refine (h.minv j).trans (if_congr (and_congr_left fun hfalse => ?_) rfl rfl)
      have hjm : j ≠ m := by
        rintro rfl
        exact absurd (hused.symm.trans hfalse) (by decide)
      omega
    · simp only [update_apply, h.p]
      by_cases hjm : j = m
      · rw [if_pos (by rw [hjm]), hm, hjm]
      · rw [if_neg (hinj j (by omega) hju hused)]
        exact h.moved j (by omega) hju
    · simp only [update_apply, h.p]
      rw [if_neg (Ne.symm (hr m (Nat.lt_succ_self m) hused))]
      exact h.kept r fun j hj => hr j (Nat.lt_succ_of_lt hj)
  | false =>
    simp only [Bool.false_eq_true, if_false]
    refine ⟨h.p, h.way, rfl, fun j => ?_, fun j => ?_, fun j hj hju => ?_, fun r hr => ?_⟩
    · refine (h.v j).trans (if_congr (and_congr_left fun htrue => ?_) rfl rfl)
      have hjm : j ≠ m := by
        rintro rfl
        exact absurd (hused.symm.trans htrue) (by decide)
      omega
    · simp only [update_apply]
      by_cases hjm : j = m
      · rw [if_pos hjm, hjm, if_pos ⟨Nat.lt_succ_self m, hused⟩, h.minv,
          if_neg fun hin => (Nat.lt_irrefl m) hin.1]
      · rw [if_neg hjm, h.minv]
        exact if_congr (and_congr_left fun _ => by omega) rfl rfl
    · refine h.moved j ?_ hju
      have hjm : j ≠ m := by
        rintro rfl
        exact absurd (hused.symm.trans hju) (by decide)
      omega
    · exact h.kept r fun j hj => hr j (Nat.lt_succ_of_lt hj)

lemma shiftSpec (delta : K) (m : ℕ)
    (hinj : ∀ j k, s.used j = true → s.used k = true → s.p j = s.p k → j = k) :
    ShiftSpec delta s m ((List.range m).foldl (shiftColumn delta) s) := by
  induction m with
  | zero => exact ⟨rfl, rfl, rfl, fun j => by simp, fun j => by simp, fun j hj => (nomatch hj),
      fun _ _ => rfl⟩
  | succ m ih =>
    rw [List.range_succ, List.foldl_concat]
    exact ih.step fun j hj hju hmu heq => Nat.ne_of_lt hj (hinj j m hju hmu heq)

end

section Search

variable {cost : List (List K)} {n m : ℕ} {s : Search K}

/-- Rows up to `m` have columns, none of them with slack, and a column is looked for for the
next one. -/
structure Rows (cost : List (List K)) (n m : ℕ) (t : Tables K) : Prop where
  lt : m < n
  matching : Matching n m t.p
  new : t.p 0 = m + 1
  tight : ∀ j, 1 ≤ j → j ≤ n → t.p j ≠ 0 → slack (costAt cost) t.u t.v (t.p j) j = 0
  old : ∀ r j, 1 ≤ r → r ≤ m → 1 ≤ j → j ≤ n → 0 ≤ slack (costAt cost) t.u t.v r j

/-- The used columns are a tree with its root at 0 and no slack on its edges. -/
structure Tree (cost : List (List K)) (n : ℕ) (s : Search K) : Prop where
  le : ∀ k, s.used k = true → k ≤ n
  row : ∀ k, s.used k = true → s.p k ≠ 0
  edge : ∀ k, 1 ≤ k → s.used k = true → s.used (s.way k) = true ∧
    slack (costAt cost) s.u s.v (s.p (s.way k)) k = 0
  path : ∀ k, 1 ≤ k → s.used k = true → ∃ L, Follows s.way k L ∧ (k :: L).Nodup ∧
    ∀ c ∈ L, s.used c = true

/-- The search before a column is used. -/
structure Growing (cost : List (List K)) (n m : ℕ) (s : Search K) : Prop
    extends Rows cost n m s.toTables, Tree cost n s where
  newest : s.used 0 = true → ∀ j, 1 ≤ j → j ≤ n → 0 ≤ slack (costAt cost) s.u s.v (m + 1) j
  lower : ∀ j k, 1 ≤ j → j ≤ n → s.used j = false → s.used k = true →
    s.minv j ≤ (slack (costAt cost) s.u s.v (s.p k) j : K)
  attained : ∀ j, 1 ≤ j → j ≤ n → s.used j = false → s.minv j ≠ ⊤ → s.used (s.way j) = true ∧
    s.minv j = (slack (costAt cost) s.u s.v (s.p (s.way j)) j : K)
  current : (s.j0 = 0 ∧ ∀ k, s.used k = false) ∨
    (1 ≤ s.j0 ∧ s.j0 ≤ n ∧ s.used s.j0 = false ∧ s.used 0 = true ∧ s.minv s.j0 = (0 : K))

/-- The search when the columns that are not used were looked at. -/
structure Scanned (cost : List (List K)) (n m : ℕ) (s : Search K) : Prop
    extends Rows cost n m s.toTables, Tree cost n s where
  root : s.used 0 = true
  newest : (∀ j, 1 ≤ j → s.used j = false) ∨
    ∀ j, 1 ≤ j → j ≤ n → 0 ≤ slack (costAt cost) s.u s.v (m + 1) j
  lower : ∀ j k, 1 ≤ j → j ≤ n → s.used j = false → s.used k = true →
    s.minv j ≤ (slack (costAt cost) s.u s.v (s.p k) j : K)
  attained : ∀ j, 1 ≤ j → j ≤ n → s.used j = false → s.used (s.way j) = true ∧
    s.minv j = (slack (costAt cost) s.u s.v (s.p (s.way j)) j : K)

lemma Rows.inj {t : Tables K} (h : Rows cost n m t) {j k : ℕ} (hj : j ≤ n) (hk : k ≤ n)
    (hrow : t.p j ≠ 0) (heq : t.p j = t.p k) : j = k := by
  have hle := h.matching.le
  have hnew := h.new
  rcases Nat.eq_zero_or_pos j with rfl | hj1 <;> rcases Nat.eq_zero_or_pos k with rfl | hk1
  · rfl
  · have := hle k hk1 hk
    omega
  · have := hle j hj1 hj
    omega
  · exact h.matching.inj j k hj1 hj hk1 hk hrow heq

lemma Rows.nonneg {t : Tables K} (h : Rows cost n m t)
    (hnew : ∀ j, 1 ≤ j → j ≤ n → 0 ≤ slack (costAt cost) t.u t.v (m + 1) j) {r j : ℕ}
    (hr1 : 1 ≤ r) (hr : r ≤ m + 1) (hj1 : 1 ≤ j) (hj : j ≤ n) :
    0 ≤ slack (costAt cost) t.u t.v r j := by
  rcases Nat.lt_or_ge m r with hlt | hle
  · obtain rfl : r = m + 1 := by omega
    exact hnew j hj1 hj
  · exact h.old r j hr1 hle hj1 hj

lemma Tree.row_le (ht : Tree cost n s) (h : Rows cost n m s.toTables) {k : ℕ}
    (hk : s.used k = true) : 1 ≤ s.p k ∧ s.p k ≤ m + 1 := by
  refine ⟨Nat.one_le_iff_ne_zero.mpr (ht.row k hk), ?_⟩
  rcases Nat.eq_zero_or_pos k with rfl | hk1
  · exact h.new.le
  · exact (h.matching.le k hk1 (ht.le k hk)).trans (Nat.le_succ m)

/-- The search with its current column used and the other columns looked at. -/
def scanned (n : ℕ) (cost : List (List K)) (s : Search K) : Search K :=
  let s := { s with used := update s.used s.j0 true }
  { s with minv := (scan n cost s).minv, way := (scan n cost s).way }

lemma mem_columns {j : ℕ} : j ∈ List.range' 1 n ↔ 1 ≤ j ∧ j ≤ n := by
  rw [List.mem_range'_1]
  omega

lemma scanSpec_scan (n : ℕ) (cost : List (List K)) (s : Search K) :
    ScanSpec cost s (List.range' 1 n) (scan n cost s) :=
  scanSpec_foldl cost s _ List.nodup_range'

lemma Growing.path_current (h : Growing cost n m s) (hj0 : 1 ≤ s.j0) :
    s.used (s.way s.j0) = true ∧ slack (costAt cost) s.u s.v (s.p (s.way s.j0)) s.j0 = 0 ∧
      ∃ L, Follows s.way s.j0 L ∧ (s.j0 :: L).Nodup ∧ ∀ c ∈ L, s.used c = true := by
  rcases h.current with ⟨hzero, -⟩ | ⟨-, hn, hunused, -, hminv⟩
  · omega
  · have hne : s.minv s.j0 ≠ ⊤ := by
      rw [hminv]
      exact WithTop.coe_ne_top
    obtain ⟨hway, heq⟩ := h.attained s.j0 hj0 hn hunused hne
    have hslack : slack (costAt cost) s.u s.v (s.p (s.way s.j0)) s.j0 = 0 :=
      WithTop.coe_injective (heq.symm.trans hminv)
    refine ⟨hway, hslack, ?_⟩
    rcases Nat.eq_zero_or_pos (s.way s.j0) with hzero | hpos
    · exact ⟨[], hzero, List.nodup_singleton _, fun c hc => nomatch hc⟩
    · obtain ⟨L, hfollows, hnodup, hused⟩ := h.path _ hpos hway
      have hall : ∀ c ∈ s.way s.j0 :: L, s.used c = true := fun c hc => by
        rcases List.mem_cons.mp hc with rfl | hc
        · exact hway
        · exact hused c hc
      refine ⟨s.way s.j0 :: L, ⟨rfl, by omega, hfollows⟩, List.nodup_cons.mpr ⟨fun hmem => ?_,
        hnodup⟩, hall⟩
      exact absurd ((hall _ hmem).symm.trans hunused) (by decide)

lemma Growing.scanned (h : Growing cost n m s) (hrow : s.p s.j0 ≠ 0) :
    Scanned cost n m (scanned n cost s) := by
  let s' : Search K := { s with used := update s.used s.j0 true }
  have hspec : ScanSpec cost s' (List.range' 1 n) (scan n cost s') := scanSpec_scan n cost s'
  have hj0 : s'.used s.j0 = true := update_self ..
  have hother : ∀ k, k ≠ s.j0 → s'.used k = s.used k := fun k hk => update_of_ne hk _ _
  have hmono : ∀ k, s.used k = true → s'.used k = true := fun k hk => by
    by_cases hkj : k = s.j0
    · rw [hkj, hj0]
    · rw [hother k hkj, hk]
  have hcases : ∀ k, s'.used k = true → k = s.j0 ∨ s.used k = true := fun k hk => by
    by_cases hkj : k = s.j0
    · exact .inl hkj
    · exact .inr ((hother k hkj).symm.trans hk)
  have hunused : ∀ k, s'.used k = false → s.used k = false ∧ k ≠ s.j0 := fun k hk => by
    by_cases hkj : k = s.j0
    · rw [hkj, hj0] at hk
      cases hk
    · exact ⟨(hother k hkj).symm.trans hk, hkj⟩
  have hway : ∀ k, s'.used k = true → (scan n cost s').way k = s.way k := fun k hk => by
    rw [hspec.way, if_neg]
    rintro ⟨-, hfalse, -⟩
    exact absurd (hk.symm.trans hfalse) (by decide)
  have hle0 : s.j0 ≤ n := by
    rcases h.current with ⟨hzero, -⟩ | ⟨-, hn, -⟩
    · omega
    · exact hn
  refine ⟨⟨h.lt, h.matching, h.new, h.tight, h.old⟩, ⟨fun k hk => ?_, fun k hk => ?_,
    fun k hk1 hk => ?_, fun k hk1 hk => ?_⟩, ?_, ?_, fun j k hj1 hj hju hku => ?_,
    fun j hj1 hj hju => ?_⟩
  · rcases hcases k hk with rfl | hk
    · exact hle0
    · exact h.le k hk
  · rcases hcases k hk with rfl | hk
    · exact hrow
    · exact h.row k hk
  · change s'.used ((scan n cost s').way k) = true ∧
      slack (costAt cost) s.u s.v (s.p ((scan n cost s').way k)) k = 0
    rw [hway k hk]
    rcases hcases k hk with rfl | hk
    · obtain ⟨hused, hslack, -⟩ := h.path_current hk1
      exact ⟨hmono _ hused, hslack⟩
    · obtain ⟨hused, hslack⟩ := h.edge k hk1 hk
      exact ⟨hmono _ hused, hslack⟩
  · obtain ⟨L, hfollows, hnodup, hused⟩ : ∃ L, Follows s.way k L ∧ (k :: L).Nodup ∧
        ∀ c ∈ L, s.used c = true := by
      rcases hcases k hk with rfl | hk
      · exact (h.path_current hk1).2.2
      · exact h.path k hk1 hk
    refine ⟨L, hfollows.congr fun c hc => ?_, hnodup, fun c hc => hmono c (hused c hc)⟩
    rcases List.mem_cons.mp hc with rfl | hc
    · exact hway c hk
    · exact hway c (hmono c (hused c hc))
  · rcases h.current with ⟨hzero, -⟩ | ⟨-, -, -, hroot, -⟩
    · exact hzero ▸ hj0
    · exact hmono 0 hroot
  · rcases h.current with ⟨hzero, hnone⟩ | ⟨-, -, -, hroot, -⟩
    · refine .inl fun j hj1 => ?_
      exact (hother j (by omega)).trans (hnone j)
    · exact .inr (h.newest hroot)
  · change (scan n cost s').minv j ≤ _
    rw [hspec.minv, if_pos ⟨mem_columns.mpr ⟨hj1, hj⟩, hju⟩]
    rcases hcases k hku with rfl | hk
    · exact min_le_right _ _
    · exact (min_le_left _ _).trans (h.lower j k hj1 hj (hunused j hju).1 hk)
  · change s'.used ((scan n cost s').way j) = true ∧ (scan n cost s').minv j =
      (slack (costAt cost) s.u s.v (s.p ((scan n cost s').way j)) j : K)
    rw [hspec.minv, if_pos ⟨mem_columns.mpr ⟨hj1, hj⟩, hju⟩, hspec.way]
    by_cases hlt : (slack (costAt cost) s.u s.v (s.p s.j0) j : K) < s.minv j
    · rw [if_pos ⟨mem_columns.mpr ⟨hj1, hj⟩, hju, hlt⟩]
      exact ⟨hj0, min_eq_right (le_of_lt hlt)⟩
    · rw [if_neg fun hin => hlt hin.2.2]
      have hmin := not_lt.mp hlt
      obtain ⟨hused, heq⟩ := h.attained j hj1 hj (hunused j hju).1
        (ne_top_of_le_ne_top WithTop.coe_ne_top hmin)
      exact ⟨hmono _ hused, (min_eq_left hmin).trans heq⟩

/-- The potentials are changed by the least slack of a column that is not used. -/
structure Least (n : ℕ) (s : Search K) (delta : K) (j1 : ℕ) : Prop where
  one_le : 1 ≤ j1
  le : j1 ≤ n
  unused : s.used j1 = false
  minv : s.minv j1 = delta
  least : ∀ j, 1 ≤ j → j ≤ n → s.used j = false → (delta : WithTop K) ≤ s.minv j

section

omit [LinearOrder K]

variable {delta : K} {t : Search K}

section

variable (hspec : ShiftSpec delta s (n + 1) t)
include hspec

lemma slack_both {j k : ℕ} (hj : j ≤ n) (hk : k ≤ n)
    (hju : s.used j = true) (hku : s.used k = true) :
    slack (costAt cost) t.u t.v (s.p k) j = slack (costAt cost) s.u s.v (s.p k) j := by
  unfold slack
  rw [hspec.moved k (by omega) hku, hspec.v, if_pos ⟨by omega, hju⟩]
  ring

lemma slack_row {j k : ℕ} (hk : k ≤ n) (hju : s.used j = false) (hku : s.used k = true) :
    slack (costAt cost) t.u t.v (s.p k) j = slack (costAt cost) s.u s.v (s.p k) j - delta := by
  unfold slack
  rw [hspec.moved k (by omega) hku, hspec.v, if_neg (by simp [hju])]
  ring

lemma slack_column {j r : ℕ} (hj : j ≤ n)
    (hju : s.used j = true) (hr : ∀ k, s.used k = true → s.p k ≠ r) :
    slack (costAt cost) t.u t.v r j = slack (costAt cost) s.u s.v r j + delta := by
  unfold slack
  rw [hspec.kept r fun k _ hku => hr k hku, hspec.v, if_pos ⟨by omega, hju⟩]
  ring

lemma slack_neither {j r : ℕ} (hju : s.used j = false) (hr : ∀ k, s.used k = true → s.p k ≠ r) :
    slack (costAt cost) t.u t.v r j = slack (costAt cost) s.u s.v r j := by
  unfold slack
  rw [hspec.kept r fun k _ hku => hr k hku, hspec.v, if_neg (by simp [hju])]

end

end

lemma Scanned.exists_unused (h : Scanned cost n m s) : ∃ j, 1 ≤ j ∧ j ≤ n ∧ s.used j = false := by
  obtain ⟨j, hj1, hj, hfree⟩ := h.matching.exists_free h.lt
  refine ⟨j, hj1, hj, ?_⟩
  by_contra hused
  exact h.row j (by simpa using hused) hfree

variable [IsStrictOrderedRing K]

lemma Scanned.nonneg (h : Scanned cost n m s) {delta : K} {j1 : ℕ} (hleast : Least n s delta j1)
    {t : Search K} (hspec : ShiftSpec delta s (n + 1) t) {r j : ℕ} (hr1 : 1 ≤ r) (hr : r ≤ m + 1)
    (hj1 : 1 ≤ j) (hj : j ≤ n) : 0 ≤ slack (costAt cost) t.u t.v r j := by
  have hnew : s.used j = true → ∀ j, 1 ≤ j → j ≤ n → 0 ≤ slack (costAt cost) s.u s.v (m + 1) j := by
    intro hju
    refine h.newest.resolve_left fun hnone => ?_
    exact absurd (hju.symm.trans (hnone j hj1)) (by decide)
  by_cases hmoved : ∃ k, s.used k = true ∧ s.p k = r
  · obtain ⟨k, hku, rfl⟩ := hmoved
    cases hju : s.used j with
    | true =>
      rw [slack_both hspec hj (h.le k hku) hju hku]
      exact h.toRows.nonneg (hnew hju) hr1 hr hj1 hj
    | false =>
      rw [slack_row hspec (h.le k hku) hju hku, sub_nonneg]
      exact WithTop.coe_le_coe.mp ((hleast.least j hj1 hj hju).trans (h.lower j k hj1 hj hju hku))
  · push Not at hmoved
    have hold : r ≤ m := by
      by_contra hlt
      exact hmoved 0 h.root (h.new.trans (by omega))
    cases hju : s.used j with
    | true =>
      have hdelta : 0 ≤ delta := by
        obtain ⟨hway, heq⟩ := h.attained j1 hleast.one_le hleast.le hleast.unused
        obtain ⟨hrow1, hrow⟩ := h.toTree.row_le h.toRows hway
        rw [WithTop.coe_injective (hleast.minv.symm.trans heq)]
        exact h.toRows.nonneg (hnew hju) hrow1 hrow hleast.one_le hleast.le
      rw [slack_column hspec hj hju hmoved]
      exact add_nonneg (h.old r j hr1 hold hj1 hj) hdelta
    | false =>
      rw [slack_neither hspec hju hmoved]
      exact h.old r j hr1 hold hj1 hj

lemma Scanned.shift (h : Scanned cost n m s) {delta : K} {j1 : ℕ} (hleast : Least n s delta j1) :
    Growing cost n m { shift n delta s with j0 := j1 } := by
  have hinj : ∀ j k, s.used j = true → s.used k = true → s.p j = s.p k → j = k :=
    fun j k hj hk heq => h.toRows.inj (h.le j hj) (h.le k hk) (h.row j hj) heq
  have hspec : ShiftSpec delta s (n + 1) (Assignment.shift n delta s) :=
    shiftSpec delta (n + 1) hinj
  generalize Assignment.shift n delta s = t at hspec
  obtain ⟨⟨u, v, p, way⟩, minv, used, j0⟩ := t
  obtain rfl : p = s.p := hspec.p
  obtain rfl : way = s.way := hspec.way
  obtain rfl : used = s.used := hspec.used
  have hminv : ∀ j, j ≤ n → s.used j = false → minv j = (s.minv j).map (· - delta) :=
    fun j hj hju => (hspec.minv j).trans (if_pos ⟨by omega, hju⟩)
  have hvalue : ∀ j, 1 ≤ j → j ≤ n → s.used j = false →
      minv j = (slack (costAt cost) u v (s.p (s.way j)) j : K) := fun j hj1 hj hju => by
    obtain ⟨hway, heq⟩ := h.attained j hj1 hj hju
    rw [hminv j hj hju, heq, slack_row hspec (h.le _ hway) hju hway]
    rfl
  refine ⟨⟨h.lt, h.matching, h.new, fun j hj1 hj hrow => ?_, fun r j hr1 hr hj1 hj => ?_⟩,
    ⟨h.le, h.row, fun k hk1 hk => ?_, h.path⟩, fun _ j hj1 hj => ?_, fun j k hj1 hj hju hku => ?_,
    fun j hj1 hj hju _ => ?_, .inr ⟨hleast.one_le, hleast.le, hleast.unused, h.root, ?_⟩⟩
  · cases hju : s.used j with
    | true => exact (slack_both hspec hj hj hju hju).trans (h.tight j hj1 hj hrow)
    | false =>
      -- the column's row is that of no used column
      refine (slack_neither hspec hju fun k hku heq => ?_).trans (h.tight j hj1 hj hrow)
      have hkj : k = j := h.toRows.inj (h.le k hku) hj (h.row k hku) heq
      exact absurd ((hkj ▸ hku).symm.trans hju) (by decide)
  · exact h.nonneg hleast hspec hr1 (hr.trans (Nat.le_succ m)) hj1 hj
  · obtain ⟨hway, hslack⟩ := h.edge k hk1 hk
    exact ⟨hway, (slack_both hspec (h.le k hk) (h.le _ hway) hk hway).trans hslack⟩
  · exact h.nonneg hleast hspec (Nat.le_add_left 1 m) (le_refl _) hj1 hj
  · change minv j ≤ (slack (costAt cost) u v (s.p k) j : K)
    rw [hvalue j hj1 hj hju, WithTop.coe_le_coe]
    obtain ⟨hway, heq⟩ := h.attained j hj1 hj hju
    have hlower := heq ▸ h.lower j k hj1 hj hju hku
    rw [slack_row hspec (h.le _ hway) hju hway, slack_row hspec (h.le k hku) hju hku]
    exact sub_le_sub_right (WithTop.coe_le_coe.mp hlower) delta
  · exact ⟨(h.attained j hj1 hj hju).1, hvalue j hj1 hj hju⟩
  · change minv j1 = _
    rw [hminv j1 hleast.le hleast.unused, hleast.minv]
    exact congrArg WithTop.some (sub_self delta)

lemma Growing.step (h : Growing cost n m s) (hrow : s.p s.j0 ≠ 0) :
    ∃ t, searchStep n cost s = some t ∧ Growing cost n m t ∧ t.p = s.p ∧
      t.used = update s.used s.j0 true := by
  have hscanned := h.scanned hrow
  let s' : Search K := { s with used := update s.used s.j0 true }
  have hspec : ScanSpec cost s' (List.range' 1 n) (scan n cost s') := scanSpec_scan n cost s'
  obtain ⟨j, hj1, hj, hju⟩ := hscanned.exists_unused
  have hne : (scan n cost s').delta ≠ ⊤ := by
    have hle := hspec.delta j (mem_columns.mpr ⟨hj1, hj⟩) hju
    have hminv : (Assignment.scanned n cost s).minv j ≠ ⊤ := by
      rw [(hscanned.attained j hj1 hj hju).2]
      exact WithTop.coe_ne_top
    exact ne_top_of_le_ne_top hminv hle
  obtain ⟨delta, hdelta⟩ := WithTop.ne_top_iff_exists.mp hne
  obtain ⟨hmem, hunused, hbest⟩ := hspec.best.resolve_left hne
  obtain ⟨hone, hle⟩ := mem_columns.mp hmem
  have hleast : Least n (Assignment.scanned n cost s) delta (scan n cost s').j1 :=
    ⟨hone, hle, hunused, (hdelta.trans hbest).symm, fun k hk1 hk hku =>
      hdelta ▸ hspec.delta k (mem_columns.mpr ⟨hk1, hk⟩) hku⟩
  have hinj : ∀ j k, (Assignment.scanned n cost s).used j = true →
      (Assignment.scanned n cost s).used k = true → s.p j = s.p k → j = k := fun j k hj hk heq =>
    hscanned.toRows.inj (hscanned.le j hj) (hscanned.le k hk) (hscanned.row j hj) heq
  have hshift := shiftSpec (s := Assignment.scanned n cost s) delta (n + 1) hinj
  refine ⟨_, ?_, hscanned.shift hleast, hshift.p, hshift.used⟩
  simp only [searchStep]
  rw [← hdelta]
  rfl

lemma Growing.search (h : Growing cost n m s) (hrow : s.p s.j0 ≠ 0) {fuel : ℕ}
    (hfuel : n + 1 ≤ fuel + ((Finset.range (n + 1)).filter fun k => s.used k = true).card) :
    ∃ t, search n cost fuel s = some t ∧ Growing cost n m t ∧ t.p = s.p ∧ t.p t.j0 = 0 := by
  have hj0 : s.j0 ≤ n ∧ s.used s.j0 = false := by
    rcases h.current with ⟨hzero, hnone⟩ | ⟨-, hn, hunused, -⟩
    · exact ⟨by omega, hnone _⟩
    · exact ⟨hn, hunused⟩
  have hnotin : s.j0 ∉ (Finset.range (n + 1)).filter fun k => s.used k = true := by
    simp [hj0.2]
  induction fuel generalizing s with
  | zero =>
    have hlt := Finset.card_lt_card (Finset.ssubset_iff_of_subset (Finset.filter_subset
      (fun k => s.used k = true) (Finset.range (n + 1))) |>.mpr
        ⟨s.j0, Finset.mem_range.mpr (by omega), hnotin⟩)
    rw [Finset.card_range] at hlt
    omega
  | succ fuel ih =>
    obtain ⟨t, ht, hgrowing, hp, hused⟩ := h.step hrow
    rw [Assignment.search, ht, Option.bind_some]
    split
    next hfree => exact ⟨t, rfl, hgrowing, hp, hfree⟩
    next htaken =>
      have hcard : ((Finset.range (n + 1)).filter fun k => t.used k = true).card =
          ((Finset.range (n + 1)).filter fun k => s.used k = true).card + 1 := by
        rw [← Finset.card_insert_of_notMem hnotin]
        congr 1
        ext k
        rw [hused, Finset.mem_insert, Finset.mem_filter, Finset.mem_filter, update_apply]
        by_cases hk : k = s.j0
        · subst hk
          rw [if_pos rfl]
          exact ⟨fun _ => .inl rfl, fun _ => ⟨Finset.mem_range.mpr (by omega), rfl⟩⟩
        · simp [hk]
      have hj0' : t.j0 ≤ n ∧ t.used t.j0 = false := by
        rcases hgrowing.current with ⟨hzero, hnone⟩ | ⟨-, hn, hunused, -⟩
        · exact ⟨by omega, hnone _⟩
        · exact ⟨hn, hunused⟩
      obtain ⟨t', hsearch, hgrowing', hp', hfree⟩ := ih hgrowing htaken (by omega) hj0'
        (by simp [hj0'.2])
      exact ⟨t', hsearch, hgrowing', hp'.trans hp, hfree⟩

end Search

lemma augment_eq {way : ℕ → ℕ} {fuel j : ℕ} {L : List ℕ} (hfollows : Follows way j L)
    (hnodup : (j :: L).Nodup) (hzero : 0 ∉ j :: L) (hfuel : L.length < fuel) (p : ℕ → ℕ) :
    augment way fuel p j = some (handOn way (j :: L) p) := by
  induction L generalizing fuel j p with
  | nil =>
    obtain ⟨fuel, rfl⟩ := Nat.exists_eq_succ_of_ne_zero (Nat.ne_of_gt hfuel)
    have hway : way j = 0 := hfollows
    rw [augment, if_pos hway]
    congr 1
    ext c
    rw [update_apply, handOn]
    by_cases hc : c = j
    · rw [if_pos hc, if_pos (List.mem_singleton.mpr hc), hc]
    · rw [if_neg hc, if_neg fun hmem => hc (List.mem_singleton.mp hmem)]
  | cons k rest ih =>
    obtain ⟨hway, hk, hrest⟩ := hfollows
    obtain ⟨fuel, rfl⟩ := Nat.exists_eq_succ_of_ne_zero (Nat.ne_of_gt (Nat.zero_lt_of_lt hfuel))
    rw [List.length_cons] at hfuel
    have htail := List.nodup_cons.mp hnodup
    rw [augment, if_neg (by rw [hway]; exact hk), hway,
      ih hrest htail.2 (fun hmem => hzero (List.mem_cons_of_mem j hmem)) (by omega)]
    congr 1
    ext c
    unfold handOn
    by_cases hc : c ∈ k :: rest
    · -- the row that is handed on is not the one that was replaced
      have hnext : way c ≠ j := by
        rintro rfl
        rcases hrest.next c hc with hz | hmem
        · exact hzero (hz ▸ List.mem_cons_self)
        · exact htail.1 (List.mem_cons_of_mem k hmem)
      rw [if_pos hc, if_pos (List.mem_cons_of_mem j hc), update_of_ne hnext]
    · rw [if_neg hc, update_apply]
      by_cases hcj : c = j
      · rw [if_pos hcj, if_pos (hcj ▸ List.mem_cons_self), hcj, hway]
      · rw [if_neg hcj, if_neg fun hmem => hc ((List.mem_cons.mp hmem).resolve_left hcj)]

/-! ## Row after row -/

/-- Rows up to `m` have columns without slack, and none of their pairs has a negative one. -/
structure Placed (cost : List (List K)) (n m : ℕ) (t : Tables K) : Prop where
  matching : Matching n m t.p
  tight : ∀ j, 1 ≤ j → j ≤ n → t.p j ≠ 0 → slack (costAt cost) t.u t.v (t.p j) j = 0
  nonneg : ∀ r j, 1 ≤ r → r ≤ m → 1 ≤ j → j ≤ n → 0 ≤ slack (costAt cost) t.u t.v r j

section

variable {cost : List (List K)} {n m : ℕ} {t : Tables K}

lemma Placed.growing (h : Placed cost n m t) (hm : m < n) :
    Growing cost n m (openSearch t (m + 1)) := by
  have hnew : (openSearch t (m + 1)).p 0 = m + 1 := by
    change update t.p 0 (m + 1) 0 = m + 1
    rw [update_self]
  have hp : ∀ j, 1 ≤ j → (openSearch t (m + 1)).p j = t.p j := fun j hj =>
    update_of_ne (by omega) _ _
  refine ⟨⟨hm, ⟨fun j h1 hn => ?_, fun j k hj1 hj hk1 hk => ?_, fun r h1 hr => ?_⟩,
    hnew, fun j h1 hn hrow => ?_, h.nonneg⟩, ⟨fun k hk => (nomatch hk),
      fun k hk => (nomatch hk), fun k _ hk => (nomatch hk), fun k _ hk => (nomatch hk)⟩,
    fun hroot => (nomatch hroot), fun j k _ _ _ hk => (nomatch hk),
    fun j _ _ _ hne => absurd rfl hne, .inl ⟨rfl, fun _ => rfl⟩⟩
  · rw [hp j h1]
    exact h.matching.le j h1 hn
  · rw [hp j hj1, hp k hk1]
    exact h.matching.inj j k hj1 hj hk1 hk
  · obtain ⟨j, hj1, hj, hpj⟩ := h.matching.onto r h1 hr
    exact ⟨j, hj1, hj, (hp j hj1).trans hpj⟩
  · rw [hp j h1] at hrow ⊢
    exact h.tight j h1 hn hrow

lemma Placed.start (cost : List (List K)) (n : ℕ) :
    Placed cost n 0 ⟨fun _ => 0, fun _ => 0, fun _ => 0, fun _ => 0⟩ where
  matching := ⟨fun _ _ _ => le_refl 0, fun _ _ _ _ _ _ hne => absurd rfl hne,
    fun r h1 hr => by omega⟩
  tight _ _ _ hne := absurd rfl hne
  nonneg r j h1 hr := by omega

variable [IsStrictOrderedRing K]

lemma Placed.place (h : Placed cost n m t) (hm : m < n) :
    ∃ t', place n cost t (m + 1) = some t' ∧ Placed cost n (m + 1) t' := by
  have hstart : (openSearch t (m + 1)).p (openSearch t (m + 1)).j0 ≠ 0 := by
    change update t.p 0 (m + 1) 0 ≠ 0
    rw [update_self]
    exact Nat.succ_ne_zero m
  obtain ⟨s, hsearch, hgrowing, -, hfree⟩ := (h.growing hm).search hstart (Nat.le_add_right _ _)
  have hj0 : 1 ≤ s.j0 ∧ s.j0 ≤ n ∧ s.used s.j0 = false ∧ s.used 0 = true := by
    rcases hgrowing.current with ⟨hzero, -⟩ | ⟨h1, hn, hunused, hroot, -⟩
    · have hnew := hgrowing.new
      rw [← hzero, hfree] at hnew
      omega
    · exact ⟨h1, hn, hunused, hroot⟩
  obtain ⟨hj1, hjn, -, hroot⟩ := hj0
  obtain ⟨hway, hslack, L, hfollows, hnodup, hused⟩ := hgrowing.path_current hj1
  have hne : ∀ c ∈ s.j0 :: L, c ≠ 0 := fun c hc => by
    rcases List.mem_cons.mp hc with rfl | hc
    · omega
    · exact hfollows.ne_zero c hc
  have hcols : ∀ c ∈ s.j0 :: L, 1 ≤ c ∧ c ≤ n := fun c hc => by
    refine ⟨Nat.one_le_iff_ne_zero.mpr (hne c hc), ?_⟩
    rcases List.mem_cons.mp hc with rfl | hc
    · exact hjn
    · exact hgrowing.le c (hused c hc)
  have hlength : L.length < n + 1 := by
    have hsub : L.Subperm (List.range' 1 n) :=
      (List.nodup_cons.mp hnodup).2.subperm fun c hc =>
        mem_columns.mpr (hcols c (List.mem_cons_of_mem _ hc))
    have hle := hsub.length_le
    rw [List.length_range'] at hle
    omega
  have haugment := augment_eq hfollows hnodup (fun hmem => hne 0 hmem rfl) hlength s.p
  refine ⟨{ s.toTables with p := handOn s.way (s.j0 :: L) s.p },
    by rw [Assignment.place, hsearch, Option.bind_some, haugment]; rfl,
    hgrowing.matching.grow hfollows hnodup hcols hgrowing.new hfree, fun j h1 hn hrow => ?_,
    fun r j hr1 hr h1 hn => hgrowing.toRows.nonneg (hgrowing.newest hroot) hr1 hr h1 hn⟩
  change slack (costAt cost) s.u s.v (handOn s.way (s.j0 :: L) s.p j) j = 0
  change handOn s.way (s.j0 :: L) s.p j ≠ 0 at hrow
  unfold handOn at hrow ⊢
  split
  next hmem =>
    rcases List.mem_cons.mp hmem with rfl | hmem
    · exact hslack
    · exact (hgrowing.edge j h1 (hused j hmem)).2
  next hout =>
    rw [if_neg hout] at hrow
    exact hgrowing.tight j h1 hn hrow

lemma placed_foldlM (cost : List (List K)) (n : ℕ) (hm : m ≤ n) : ∃ t : Tables K,
    (List.range' 1 m).foldlM (Assignment.place n cost)
      ⟨fun _ => 0, fun _ => 0, fun _ => 0, fun _ => 0⟩ = some t ∧ Placed cost n m t := by
  induction m with
  | zero => exact ⟨_, rfl, Placed.start cost n⟩
  | succ m ih =>
    obtain ⟨t, ht, hplaced⟩ := ih (Nat.le_of_succ_le hm)
    obtain ⟨t', ht', hplaced'⟩ := hplaced.place hm
    refine ⟨t', ?_, hplaced'⟩
    rw [List.range'_1_concat, List.foldlM_append, ht]
    simpa [Nat.add_comm] using ht'

end

/-! ## The assignment -/

lemma permOf_spec {n : ℕ} {p : ℕ → ℕ} (h : Matching n n p) (columns : List ℕ)
    (hcolumns : ∀ j ∈ columns, 1 ≤ j ∧ j ≤ n) (hnodup : columns.Nodup) :
    let perm := columns.foldl (fun perm j => perm.set (p j - 1) (j - 1)) (List.replicate n 0)
    perm.length = n ∧ ∀ j ∈ columns, perm[p j - 1]? = some (j - 1) := by
  induction columns using List.reverseRecOn with
  | nil => exact ⟨List.length_replicate, fun j hj => nomatch hj⟩
  | append_singleton seen j ih =>
    have hsplit := List.nodup_append.mp hnodup
    obtain ⟨hlength, hseen⟩ := ih (fun k hk => hcolumns k (List.mem_append_left _ hk)) hsplit.1
    obtain ⟨hj1, hj⟩ := hcolumns j (List.mem_append_right _ List.mem_cons_self)
    have hrow := h.full hj1 hj
    rw [List.foldl_concat]
    refine ⟨by rw [List.length_set, hlength], fun k hk => ?_⟩
    rcases List.mem_append.mp hk with hk | hk
    · obtain ⟨hk1, hkn⟩ := hcolumns k (List.mem_append_left _ hk)
      have hne : p j - 1 ≠ p k - 1 := by
        intro heq
        have hrow' := h.full hk1 hkn
        have hjk := h.inj j k hj1 hj hk1 hkn hrow (by omega)
        exact hsplit.2.2 k hk j List.mem_cons_self hjk.symm
      rw [List.getElem?_set_ne hne]
      exact hseen k hk
    · obtain rfl := List.mem_singleton.mp hk
      have hle := h.le k hj1 hj
      rw [List.getElem?_set_self (by rw [hlength]; omega)]

def entry (cost : List (List K)) (i j : Fin cost.length) : K := costAt cost (i + 1) (j + 1)

variable [IsStrictOrderedRing K]

/-- `solveAssignment` comes to an end with an assignment that uses no pair with slack. -/
lemma solveAssignment_spec (cost : List (List K)) :
    ∃ (σ : Equiv.Perm (Fin cost.length)) (u v : Fin cost.length → K),
      solveAssignment cost = some (List.ofFn fun i => (σ i : ℕ)) ∧
      (∀ i, slack (entry cost) u v i (σ i) = 0) ∧ ∀ i j, 0 ≤ slack (entry cost) u v i j := by
  obtain ⟨t, ht, hplaced⟩ := placed_foldlM cost cost.length (le_refl _)
  obtain ⟨hlength, hperm⟩ := permOf_spec hplaced.matching (List.range' 1 cost.length)
    (fun j hj => mem_columns.mp hj) List.nodup_range'
  change (permOf cost.length t.p).length = _ at hlength
  change ∀ j ∈ _, (permOf cost.length t.p)[t.p j - 1]? = some (j - 1) at hperm
  have hrow : ∀ i : Fin cost.length, ∃ k : Fin cost.length, t.p (k + 1) = i + 1 ∧
      (permOf cost.length t.p)[(i : ℕ)]? = some (k : ℕ) := by
    intro i
    obtain ⟨j, hj1, hj, hpj⟩ := hplaced.matching.onto (i + 1) (by omega) i.isLt
    refine ⟨⟨j - 1, by omega⟩, ?_, ?_⟩
    · rw [← hpj]
      exact congrArg t.p (Nat.sub_add_cancel hj1)
    · have hget := hperm j (mem_columns.mpr ⟨hj1, hj⟩)
      rwa [hpj] at hget
  choose f hf hget using hrow
  have hinj : Function.Injective f := fun i k heq => by
    have hik := (hf i).symm.trans ((congrArg (fun j : Fin cost.length => t.p (j + 1)) heq).trans
      (hf k))
    exact Fin.ext (Nat.succ_injective hik)
  refine ⟨Equiv.ofBijective f (Finite.injective_iff_bijective.mp hinj), fun i => t.u (i + 1),
    fun j => t.v (j + 1), ?_, fun i => ?_, fun i j => ?_⟩
  · rw [solveAssignment, ht, Option.map_some]
    congr 1
    refine List.ext_getElem? fun i => ?_
    by_cases hi : i < cost.length
    · rw [hget ⟨i, hi⟩, List.getElem?_ofFn, dif_pos hi]
      rfl
    · rw [List.getElem?_eq_none (by rw [hlength]; omega),
        List.getElem?_eq_none (by rw [List.length_ofFn]; omega)]
  · have htight := hplaced.tight (f i + 1) (by omega) (f i).isLt (by rw [hf]; omega)
    rwa [hf] at htight
  · exact hplaced.nonneg (i + 1) (j + 1) (by omega) i.isLt (by omega) j.isLt

lemma solveAssignment_least (cost : List (List K)) : ∃ σ : Equiv.Perm (Fin cost.length),
    solveAssignment cost = some (List.ofFn fun i => (σ i : ℕ)) ∧
      ∀ τ : Equiv.Perm (Fin cost.length), ∑ i, entry cost i (σ i) ≤ ∑ i, entry cost i (τ i) := by
  obtain ⟨σ, u, v, hsolve, htight, hslack⟩ := solveAssignment_spec cost
  exact ⟨σ, hsolve, fun τ => sum_le htight hslack⟩

/-- A square matrix as the rows that `solveAssignment` is given. -/
def rowsOf {n : ℕ} (cost : Fin n → Fin n → K) : List (List K) :=
  List.ofFn fun i => List.ofFn (cost i)

section

variable {n : ℕ} (cost : Fin n → Fin n → K)

lemma length_rowsOf : (rowsOf cost).length = n :=
  List.length_ofFn

lemma costAt_rowsOf (i j : Fin n) : costAt (rowsOf cost) (i + 1) (j + 1) = cost i j := by
  simp [costAt, rowsOf, List.getD_eq_getElem?_getD]

lemma solveAssignment_rowsOf :
    ∃ σ : Equiv.Perm (Fin n), solveAssignment (rowsOf cost) = some (List.ofFn fun i => (σ i : ℕ)) ∧
      ∀ τ : Equiv.Perm (Fin n), ∑ i, cost i (σ i) ≤ ∑ i, cost i (τ i) := by
  have hentry := costAt_rowsOf cost
  have hlength := length_rowsOf cost
  generalize rowsOf cost = rows at hentry hlength
  subst hlength
  obtain ⟨σ, hsolve, hleast⟩ := solveAssignment_least rows
  refine ⟨σ, hsolve, fun τ => ?_⟩
  have hle := hleast τ
  simp only [entry, hentry] at hle
  exact hle

end

/-- The loops end, on every square matrix, with a permutation that no other is cheaper than. -/
theorem solveAssignment_optimal {n : ℕ} (cost : Fin n → Fin n → K) :
    ∃ σ : Equiv.Perm (Fin n), solveAssignment (rowsOf cost) = some (List.ofFn fun i => (σ i : ℕ)) ∧
      ∀ τ : Equiv.Perm (Fin n), ∑ i, cost i (σ i) ≤ ∑ i, cost i (τ i) :=
  solveAssignment_rowsOf cost

def tied : Fin 3 → Fin 3 → ℚ := ![![-1, -1, 3], ![2, 0, -5], ![-1, -1, 2]]

theorem solveAssignment_optimal_tied : ∃ σ : Equiv.Perm (Fin 3),
    solveAssignment (rowsOf tied) = some (List.ofFn fun i => (σ i : ℕ)) ∧
      ∀ τ : Equiv.Perm (Fin 3), ∑ i, tied i (σ i) ≤ ∑ i, tied i (τ i) :=
  solveAssignment_optimal tied

example : solveAssignment [[4, 1, 3], [2, 0, 5], [3, 2, (2 : ℚ)]] = some [1, 0, 2] := by
  decide +kernel

end Taramandal.Studio.Assignment
