import Taramandal.Core.Numbers

/-! # The ground layout of the Studio (`layout.js`)

The pads, thirteen to a row, the hover grid on four staggered heights above them, and the
centre of the pads a fleet takes. Coordinates are north, east and down. -/
namespace Taramandal.Studio.Layout

open Core.Numbers

variable {K : Type} [Field K] [LinearOrder K]

structure Point (K : Type) where
  x : K
  y : K
  z : K
  deriving DecidableEq

def showAlt : K := 8

def padSpacing : K := 22 / 10

def padCols : ℕ := 13

def hoverStep : K := 25 / 10

def padAt (i : ℕ) : Point K where
  x := (i / padCols : ℕ) * padSpacing
  y := (i % padCols : ℕ) * padSpacing
  z := 0

def hoverLevel (i : ℕ) : ℕ := i / padCols % 2 * 2 + i % padCols % 2

def hoverAt (i : ℕ) : Point K := { padAt i with z := -(showAlt + hoverStep * hoverLevel i) }

/-- The horizontal centre of the pads of `n` drones. -/
def fleetCenter (n : ℕ) : K × K :=
  let rows := max 1 ((n + padCols - 1) / padCols)
  let cols := max 1 (min n padCols)
  (((rows - 1 : ℕ) : K) * padSpacing / 2, ((cols - 1 : ℕ) : K) * padSpacing / 2)

/-- `Math.hypot`, of two and of three. -/
def hypot2 [Sqrt K] (x y : K) : K := sqrt (x * x + y * y)

def hypot3 [Sqrt K] (x y z : K) : K := sqrt (x * x + y * y + z * z)

/-- `Math.PI`, `Math.cos`, `Math.sin` and `Math.acos`. -/
class Trig (K : Type*) where
  pi : K
  cos : K → K
  sin : K → K
  acos : K → K

lemma hoverLevel_le (i : ℕ) : hoverLevel i ≤ 3 := by
  unfold hoverLevel
  omega

variable [IsStrictOrderedRing K]

lemma padSpacing_sq_le {m : ℤ} (hm : m ≠ 0) :
    (padSpacing : K) ^ 2 ≤ ((m : K) * padSpacing) ^ 2 := by
  have hone : (1 : K) ≤ (m : K) ^ 2 := by
    have hsq : (1 : ℤ) ≤ m ^ 2 := by
      have := sq_pos_of_ne_zero hm
      omega
    exact_mod_cast hsq
  rw [mul_pow]
  exact le_mul_of_one_le_left (sq_nonneg _) hone

lemma pads_apart {i j : ℕ} (hij : i ≠ j) :
    (padSpacing : K) ^ 2 ≤ ((padAt i).x - (padAt j).x) ^ 2 + ((padAt i).y - (padAt j).y) ^ 2 := by
  have hrow : ((padAt i).x - (padAt j).x : K) =
      (((i / padCols : ℕ) : ℤ) - ((j / padCols : ℕ) : ℤ) : ℤ) * padSpacing := by
    rw [Int.cast_sub, Int.cast_natCast, Int.cast_natCast, sub_mul]
    rfl
  have hcol : ((padAt i).y - (padAt j).y : K) =
      (((i % padCols : ℕ) : ℤ) - ((j % padCols : ℕ) : ℤ) : ℤ) * padSpacing := by
    rw [Int.cast_sub, Int.cast_natCast, Int.cast_natCast, sub_mul]
    rfl
  by_cases hsame : i / padCols = j / padCols
  · have hne : ((i % padCols : ℕ) : ℤ) - ((j % padCols : ℕ) : ℤ) ≠ 0 := by
      unfold padCols at hsame ⊢
      omega
    rw [hcol]
    exact (padSpacing_sq_le hne).trans (le_add_of_nonneg_left (sq_nonneg _))
  · have hne : ((i / padCols : ℕ) : ℤ) - ((j / padCols : ℕ) : ℤ) ≠ 0 := by omega
    rw [hrow]
    exact (padSpacing_sq_le hne).trans (le_add_of_nonneg_right (sq_nonneg _))

end Taramandal.Studio.Layout
