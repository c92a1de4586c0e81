import Mathlib.Data.List.Basic

/-! # A global search

The matches of a pattern in a text, one behind the other, and what is between them. A pattern is
what it matches at the start of a text, and what it leaves of it. -/
namespace Taramandal.Lib.Scan

inductive Piece (σ α : Type) where
  | skipped (s : σ)
  | matched (a : α)

variable {σ α : Type}

def Piece.skipped? : Piece σ α → Option σ
  | .skipped s => some s
  | .matched _ => none

def Piece.matched? : Piece σ α → Option α
  | .skipped _ => none
  | .matched a => some a

/-- The pieces of a text; the number is of the symbols that the last match has taken. -/
def pieces (m : List σ → Option (α × List σ)) : ℕ → List σ → List (Piece σ α)
  | _, [] => []
  | k + 1, _ :: text => pieces m k text
  | 0, s :: text =>
    match m (s :: text) with
    | some (a, rest) => .matched a :: pieces m (text.length - rest.length) text
    | none => .skipped s :: pieces m 0 text

def found (m : List σ → Option (α × List σ)) (text : List σ) : List α :=
  (pieces m 0 text).filterMap Piece.matched?

def without (m : List σ → Option (α × List σ)) (text : List σ) : List σ :=
  (pieces m 0 text).filterMap Piece.skipped?

section

variable {m : List σ → Option (α × List σ)}

lemma pieces_taken (taken text : List σ) :
    pieces m taken.length (taken ++ text) = pieces m 0 text := by
  induction taken with
  | nil => rfl
  | cons s taken ih => exact ih

variable {rest : List σ} {a : α}

lemma pieces_matched {word : List σ} (hne : word ≠ []) (h : m (word ++ rest) = some (a, rest)) :
    pieces m 0 (word ++ rest) = .matched a :: pieces m 0 rest := by
  cases word with
  | nil => exact absurd rfl hne
  | cons s word =>
    have hlength : (word ++ rest).length - rest.length = word.length := by
      rw [List.length_append, Nat.add_sub_cancel]
    rw [List.cons_append] at h ⊢
    rw [pieces, h]
    dsimp only
    rw [hlength, pieces_taken]

lemma pieces_cons {s : σ} (h : m (s :: rest) = none) :
    pieces m 0 (s :: rest) = .skipped s :: pieces m 0 rest := by
  rw [pieces, h]

lemma pieces_skipped {plain : List σ} (h : ∀ s ∈ plain, ∀ rest, m (s :: rest) = none)
    (rest : List σ) : pieces m 0 (plain ++ rest) = plain.map .skipped ++ pieces m 0 rest := by
  induction plain with
  | nil => rfl
  | cons s plain ih =>
    obtain ⟨hs, hplain⟩ := List.forall_mem_cons.mp h
    rw [List.cons_append, pieces_cons (hs _), ih hplain]
    rfl

lemma found_matched {word : List σ} (hne : word ≠ [])
    (h : m (word ++ rest) = some (a, rest)) : found m (word ++ rest) = a :: found m rest := by
  unfold found
  rw [pieces_matched hne h]
  rfl

lemma found_skipped {plain : List σ} (h : ∀ s ∈ plain, ∀ rest, m (s :: rest) = none)
    (rest : List σ) : found m (plain ++ rest) = found m rest := by
  unfold found
  rw [pieces_skipped h, List.filterMap_append]
  have hnone : (plain.map (Piece.skipped : σ → Piece σ α)).filterMap Piece.matched? = [] := by
    rw [List.filterMap_map]
    exact List.filterMap_eq_nil_iff.mpr fun _ _ => rfl
  rw [hnone, List.nil_append]

lemma without_cons {s : σ} (h : m (s :: rest) = none) :
    without m (s :: rest) = s :: without m rest := by
  unfold without
  rw [pieces_cons h]
  rfl

lemma without_matched {word : List σ} (hne : word ≠ [])
    (h : m (word ++ rest) = some (a, rest)) : without m (word ++ rest) = without m rest := by
  unfold without
  rw [pieces_matched hne h]
  rfl

lemma without_skipped {plain : List σ} (h : ∀ s ∈ plain, ∀ rest, m (s :: rest) = none)
    (rest : List σ) : without m (plain ++ rest) = plain ++ without m rest := by
  unfold without
  rw [pieces_skipped h, List.filterMap_append, List.filterMap_map]
  exact congrArg (· ++ _) List.filterMap_some

end

end Taramandal.Lib.Scan
