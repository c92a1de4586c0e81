import Mathlib.Analysis.Calculus.Deriv.Add
import Mathlib.Analysis.Calculus.Deriv.Comp
import Mathlib.Analysis.Calculus.Deriv.Mul
import Mathlib.Topology.Algebra.Module.ModuleTopology
import Taramandal.Lib.Literals

/-! # Straight pieces

A curve that is sampled at equal steps and joined by chords, and the nearest that a
point on a chord comes. Chords are no steeper than the curve, and the foot of the
perpendicular, moved onto the chord, is the nearest place of it. -/
set_option linter.unusedSectionVars false

namespace Taramandal.Lib.Approach

variable {K : Type*} [Field K] [LinearOrder K] [IsStrictOrderedRing K]

section

variable {f : ℕ → K} {c u u' : K} {k k' n : ℕ}

section

variable (f : ℕ → K) (k : ℕ)

/-- The share `u` of the way from sample `k` of `f` to the next. -/
def chord (u : K) : K := f k + u * (f (k + 1) - f k)

@[simp] lemma chord_zero : chord f k 0 = f k := by simp [chord]

@[simp] lemma chord_one : chord f k 1 = f (k + 1) := by simp [chord]

end

section

variable (hf : ∀ i j, i ≤ n → j ≤ n → |f i - f j| ≤ c * |(i : K) - j|) (hk : k < n) (hk' : k' < n)
  (hu0 : 0 ≤ u) (hu1 : u ≤ 1) (hu0' : 0 ≤ u') (hu1' : u' ≤ 1)
include hf hk hk' hu0 hu1 hu0' hu1'

/-- From one place to a later one, the chords climb no more than the bound allows. -/
lemma abs_chord_sub_le_of_le (hle : (k : K) + u ≤ k' + u') :
    |chord f k' u' - chord f k u| ≤ c * ((k' + u') - (k + u)) := by
  have hstep : ∀ i < n, |f (i + 1) - f i| ≤ c := fun i hi => by
    simpa using hf (i + 1) i hi hi.le
  rcases lt_trichotomy k k' with hlt | rfl | hgt
  · -- the rest of one chord, the whole chords between, and the start of another
    have hcast : ((k + 1 : ℕ) : K) ≤ k' := by exact_mod_cast hlt
    have hrest : |(1 - u) * (f (k + 1) - f k)| ≤ (1 - u) * c := by
      rw [abs_mul, abs_of_nonneg (sub_nonneg.mpr hu1)]
      exact mul_le_mul_of_nonneg_left (hstep k hk) (sub_nonneg.mpr hu1)
    have hbetween : |f k' - f (k + 1)| ≤ c * (k' - (k + 1 : ℕ)) := by
      have := hf k' (k + 1) hk'.le hk
      rwa [abs_of_nonneg (sub_nonneg.mpr hcast)] at this
    have hstart : |u' * (f (k' + 1) - f k')| ≤ u' * c := by
      rw [abs_mul, abs_of_nonneg hu0']
      exact mul_le_mul_of_nonneg_left (hstep k' hk') hu0'
    calc |chord f k' u' - chord f k u|
        = |(1 - u) * (f (k + 1) - f k) + (f k' - f (k + 1)) + u' * (f (k' + 1) - f k')| := by
          congr 1; simp only [chord]; ring
      _ ≤ (1 - u) * c + c * (k' - (k + 1 : ℕ)) + u' * c :=
          (abs_add_three _ _ _).trans (add_le_add (add_le_add hrest hbetween) hstart)
      _ = c * ((k' + u') - (k + u)) := by push_cast; ring
  · have hdiff : chord f k u' - chord f k u = (u' - u) * (f (k + 1) - f k) := by
      simp only [chord]; ring
    have huu : 0 ≤ u' - u := sub_nonneg.mpr (le_of_add_le_add_left hle)
    calc |chord f k u' - chord f k u| = (u' - u) * |f (k + 1) - f k| := by
          rw [hdiff, abs_mul, abs_of_nonneg huu]
      _ ≤ (u' - u) * c := mul_le_mul_of_nonneg_left (hstep k hk) huu
      _ = c * ((k + u') - (k + u)) := by ring
  · -- only the common end of two neighbouring chords is not later
    have hcast : ((k' + 1 : ℕ) : K) ≤ k := by exact_mod_cast hgt
    push_cast at hcast
    have hend : (k : K) + u ≤ k' + 1 := hle.trans (add_le_add_right hu1' _)
    have hstart : (k : K) + u ≤ k := hend.trans hcast
    obtain rfl : u = 0 := le_antisymm (nonpos_of_add_le_right hstart) hu0
    rw [add_zero] at hle hend
    have hk1 : (k : K) = k' + 1 := le_antisymm hend hcast
    obtain rfl : u' = 1 := le_antisymm hu1' (le_of_add_le_add_left (hk1 ▸ hle))
    obtain rfl : k = k' + 1 := by exact_mod_cast hk1
    simp

lemma abs_chord_sub_le :
    |chord f k u - chord f k' u'| ≤ c * |(k + u) - (k' + u')| := by
  rcases le_total ((k : K) + u) (k' + u') with h | h
  · rw [abs_sub_comm, abs_sub_comm ((k : K) + u), abs_of_nonneg (sub_nonneg.mpr h)]
    exact abs_chord_sub_le_of_le hf hk hk' hu0 hu1 hu0' hu1' h
  · rw [abs_of_nonneg (sub_nonneg.mpr h)]
    exact abs_chord_sub_le_of_le hf hk' hk hu0' hu1' hu0 hu1 h

end

/-- Every instant of `n` steps lies in one of them. -/
lemma exists_step [FloorRing K] {dt t : K} (hn : 0 < n) (hdt : 0 < dt) (h0 : 0 ≤ t)
    (ht : t ≤ n * dt) : ∃ k < n, ∃ u, 0 ≤ u ∧ u ≤ 1 ∧ t = ((k : K) + u) * dt := by
  have hdiv : 0 ≤ t / dt := div_nonneg h0 hdt.le
  have hle : t / dt ≤ n := (div_le_iff₀ hdt).mpr ht
  rcases lt_or_ge ⌊t / dt⌋₊ n with hlt | hge
  · refine ⟨⌊t / dt⌋₊, hlt, t / dt - ⌊t / dt⌋₊, sub_nonneg.mpr (Nat.floor_le hdiv), ?_, ?_⟩
    · exact (sub_lt_iff_lt_add'.mpr (Nat.lt_floor_add_one (t / dt))).le
    · field_simp
      ring
  · obtain ⟨m, rfl⟩ := Nat.exists_eq_succ_of_ne_zero hn.ne'
    have heq : t / dt = (m + 1 : ℕ) :=
      le_antisymm hle ((Nat.cast_le.mpr hge).trans (Nat.floor_le hdiv))
    refine ⟨m, Nat.lt_succ_self m, 1, zero_le_one, le_refl _, ?_⟩
    rw [div_eq_iff hdt.ne'] at heq
    push_cast at heq
    exact heq

end

/-! ## The nearest place of a chord -/

/-- Of the places on a chord, `s * u ^ 2 + 2 * c * u` is least at the clamped foot. -/
lemma clamped_foot_le {s c u : K} (hs : 0 < s) (h0 : 0 ≤ u) (h1 : u ≤ 1) :
    s * max 0 (min 1 (-c / s)) ^ 2 + 2 * c * max 0 (min 1 (-c / s)) ≤ s * u ^ 2 + 2 * c * u := by
  have hc : c = -(s * (-c / s)) := by field_simp
  generalize -c / s = foot at hc
  subst hc
  rcases le_total foot 0 with hfoot | hfoot
  · -- before the chord: its start is nearest
    rw [min_eq_right (hfoot.trans zero_le_one), max_eq_left hfoot]
    have := mul_nonneg hs.le (mul_nonneg h0 (by linarith : 0 ≤ u - 2 * foot))
    linarith
  · rcases le_total foot 1 with hfoot' | hfoot'
    · rw [min_eq_right hfoot', max_eq_right hfoot]
      have := mul_nonneg hs.le (sq_nonneg (u - foot))
      linarith
    · rw [min_eq_left hfoot', max_eq_right zero_le_one]
      have := mul_nonneg hs.le (mul_nonneg (by linarith : 0 ≤ 1 - u) (by linarith : 0 ≤ 2 * foot - 1 - u))
      linarith

end Taramandal.Lib.Approach

/-! ## Ramps that are held at their ends

A profile from 0 to 1, held before and after. When it comes to rest at both ends the held
profile is smooth everywhere, and what is moved along it over a time goes at most at the
greatest slope times the mean speed. -/
namespace Taramandal.Lib.Ramp

open Set

def held (p : ℝ → ℝ) (r : ℝ) : ℝ := p (min 1 (max 0 r))

variable {p v : ℝ → ℝ}

section

variable (p : ℝ → ℝ) {r : ℝ}

lemma held_of_nonpos (h : r ≤ 0) : held p r = p 0 := by
  rw [held, max_eq_left h, min_eq_right zero_le_one]

lemma held_of_mem (h : r ∈ Icc (0 : ℝ) 1) : held p r = p r := by
  rw [held, max_eq_right h.1, min_eq_right h.2]

lemma held_of_one_le (h : 1 ≤ r) : held p r = p 1 := by
  rw [held, max_eq_right (zero_le_one.trans h), min_eq_left h]

end

lemma hasDerivWithinAt_of_mem {f : ℝ → ℝ} {f' r : ℝ} {s : Set ℝ} (hs : IsClosed s)
    (h : r ∈ s → HasDerivWithinAt f f' s r) : HasDerivWithinAt f f' s r := by
  by_cases hr : r ∈ s
  · exact h hr
  · refine HasFDerivWithinAt.of_notMem_closure ?_
    rw [hs.closure_eq]
    exact hr

/-- A profile that comes to rest at its ends has a slope everywhere when it is held. -/
lemma hasDerivAt_held (hp : ∀ r ∈ Icc (0 : ℝ) 1, HasDerivAt p (v r) r) (h0 : v 0 = 0)
    (h1 : v 1 = 0) (r : ℝ) : HasDerivAt (held p) (held v r) r := by
  have hbefore : HasDerivWithinAt (held p) (held v r) (Iic 0) r := by
    refine hasDerivWithinAt_of_mem isClosed_Iic fun hr => ?_
    rw [held_of_nonpos v hr, h0]
    exact (hasDerivWithinAt_const r (Iic 0) (p 0)).congr_of_mem (fun s hs => held_of_nonpos p hs) hr
  have hinside : HasDerivWithinAt (held p) (held v r) (Icc 0 1) r := by
    refine hasDerivWithinAt_of_mem isClosed_Icc fun hr => ?_
    rw [held_of_mem v hr]
    exact (hp r hr).hasDerivWithinAt.congr_of_mem (fun s hs => held_of_mem p hs) hr
  have hafter : HasDerivWithinAt (held p) (held v r) (Ici 1) r := by
    refine hasDerivWithinAt_of_mem isClosed_Ici fun hr => ?_
    rw [held_of_one_le v hr, h1]
    exact (hasDerivWithinAt_const r (Ici 1) (p 1)).congr_of_mem (fun s hs => held_of_one_le p hs) hr
  have hall : Iic (0 : ℝ) ∪ Icc 0 1 ∪ Ici 1 = univ := by
    rw [Iic_union_Icc_eq_Iic zero_le_one, Iic_union_Ici]
  rw [← hasDerivWithinAt_univ, ← hall]
  exact (hbefore.union hinside).union hafter

lemma hasDerivAt_held_inside {r d : ℝ} (hp : HasDerivAt p d r) (hr : r ∈ Ioo (0 : ℝ) 1) :
    HasDerivAt (held p) d r := by
  refine hp.congr_of_eventuallyEq ?_
  filter_upwards [Icc_mem_nhds hr.1 hr.2] with s hs using held_of_mem p hs

lemma isGreatest_held {top : ℝ} (h : IsGreatest (v '' Icc 0 1) top) :
    IsGreatest (range (held v)) top := by
  obtain ⟨⟨r, hr, rfl⟩, hle⟩ := h
  refine ⟨⟨r, held_of_mem v hr⟩, ?_⟩
  rintro _ ⟨s, rfl⟩
  exact hle ⟨_, ⟨le_min zero_le_one (le_max_left _ _), min_le_left _ _⟩, rfl⟩

/-- Along a profile over a time `T` from `t₀` on. -/
lemma hasDerivAt_along {f f' : ℝ → ℝ} (hf : ∀ r, HasDerivAt f (f' r) r) (d t₀ T t : ℝ) :
    HasDerivAt (fun t => f ((t - t₀) / T) * d) (f' ((t - t₀) / T) * (d / T)) t := by
  have hclock : HasDerivAt (fun t : ℝ => (t - t₀) / T) (1 / T) t :=
    ((hasDerivAt_id t).sub_const t₀).div_const T
  refine (((hf _).comp t hclock).mul_const d).congr_deriv ?_
  ring

end Taramandal.Lib.Ramp
