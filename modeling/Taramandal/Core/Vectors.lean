import Mathlib.Analysis.InnerProductSpace.PiL2
import Taramandal.Core.Validate

/-! # Points as vectors

The distance the code computes is the distance of Euclidean space, so the triangle
inequality is there to use. -/
namespace Taramandal.Core.Vectors

open Core.Numbers Core.Validate

noncomputable def vec (p : Point ℝ) : EuclideanSpace ℝ (Fin 3) := !₂[p.1, p.2.1, p.2.2]

lemma pointDist_eq_dist (p q : Point ℝ) : pointDist p q = dist (vec p) (vec q) := by
  simp only [pointDist, sqrt_real, distSq, EuclideanSpace.dist_eq, vec, Fin.sum_univ_three,
    Real.dist_eq, sq, abs_mul_abs_self]
  rfl

end Taramandal.Core.Vectors
