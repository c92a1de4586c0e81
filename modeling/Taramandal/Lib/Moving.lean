import Mathlib.Analysis.InnerProductSpace.PiL2
import Mathlib.Topology.Instances.Real.Lemmas
import Taramandal.Lib.Literals

/-! # Points that move at a bounded speed, looked at now and then

Between an instant and the sample nearest to it a point moves by at most half an
interval at its speed. Here are the two kinds of points that this is used for: one
on a path of two legs, of which only a stretch is known, and one that is taken
from one listed position to the next. -/
namespace Taramandal.Lib.Moving

lemma exists_near_sample {dt T t : ℝ} (hdt : 0 < dt) (h0 : 0 ≤ t) (hT : t ≤ T) :
    ∃ k : ℕ, k ≤ ⌈T / dt⌉.toNat ∧ |t - k * dt| ≤ dt / 2 := by
  have hfloor := Int.floor_le (t / dt + 1 / 2)
  have hnext := Int.lt_floor_add_one (t / dt + 1 / 2)
  have hk : 0 ≤ ⌊t / dt + 1 / 2⌋ :=
    Int.floor_nonneg.mpr (add_nonneg (div_nonneg h0 hdt.le) (by norm_num))
  refine ⟨⌊t / dt + 1 / 2⌋.toNat, Int.toNat_le_toNat (Int.lt_add_one_iff.mp ?_), ?_⟩
  · have hceil := Int.le_ceil (T / dt)
    have hdiv := div_le_div_of_nonneg_right hT hdt.le
    rw [Int.floor_lt]
    push_cast
    linarith
  · have hcast : ((⌊t / dt + 1 / 2⌋.toNat : ℕ) : ℝ) = (⌊t / dt + 1 / 2⌋ : ℝ) := by
      exact_mod_cast Int.toNat_of_nonneg hk
    have hsub : t - ⌊t / dt + 1 / 2⌋.toNat * dt = (t / dt - ⌊t / dt + 1 / 2⌋) * dt := by
      rw [hcast, sub_mul, div_mul_cancel₀ t hdt.ne']
    have hround : |t / dt - ⌊t / dt + 1 / 2⌋| ≤ 1 / 2 := abs_le.mpr ⟨by linarith, by linarith⟩
    rw [hsub, abs_mul, abs_of_pos hdt]
    calc |t / dt - ⌊t / dt + 1 / 2⌋| * dt ≤ 1 / 2 * dt :=
          mul_le_mul_of_nonneg_right hround hdt.le
      _ = dt / 2 := by ring

lemma exists_near_stretch {lo hi s c : ℝ} (hc : 0 ≤ c) (h : lo ≤ hi) (hlo : lo - s ≤ c)
    (hhi : s - hi ≤ c) : ∃ s', lo ≤ s' ∧ s' ≤ hi ∧ |s - s'| ≤ c := by
  rcases lt_or_ge s lo with hs | hs
  · exact ⟨lo, le_refl _, h, abs_le.mpr ⟨by linarith, by linarith⟩⟩
  · rcases lt_or_ge hi s with hs' | hs'
    · exact ⟨hi, h, le_refl _, abs_le.mpr ⟨by linarith, by linarith⟩⟩
    · exact ⟨s, hs, hs', by simpa using hc⟩

variable {E : Type*} [SeminormedAddCommGroup E] [NormedSpace ℝ E]

lemma dist_add_smul_le {v : E} (hv : ‖v‖ ≤ 1) (p : E) (s s' : ℝ) :
    dist (p + s • v) (p + s' • v) ≤ |s - s'| := by
  rw [dist_add_left, dist_eq_norm, ← sub_smul, norm_smul, Real.norm_eq_abs]
  exact mul_le_of_le_one_right (abs_nonneg _) hv

/-- Along `u` from `p` for `length`, then along `w`. -/
noncomputable def twoLegs (p u w : E) (length s : ℝ) : E :=
  if s ≤ length then p + s • u else p + length • u + (s - length) • w

lemma dist_twoLegs_le {p u w : E} (hu : ‖u‖ ≤ 1) (hw : ‖w‖ ≤ 1) (length s s' : ℝ) :
    dist (twoLegs p u w length s) (twoLegs p u w length s') ≤ |s - s'| := by
  wlog hss : s ≤ s' generalizing s s'
  · rw [dist_comm, abs_sub_comm]
    exact this s' s (le_of_not_ge hss)
  unfold twoLegs
  by_cases h : s ≤ length
  · by_cases h' : s' ≤ length
    · rw [if_pos h, if_pos h']
      exact dist_add_smul_le hu p s s'
    · rw [if_pos h, if_neg h']
      have hfirst := dist_add_smul_le hu p s length
      have hsecond := dist_add_smul_le hw (p + length • u) 0 (s' - length)
      rw [zero_smul, add_zero] at hsecond
      calc dist (p + s • u) (p + length • u + (s' - length) • w)
          ≤ dist (p + s • u) (p + length • u) +
              dist (p + length • u) (p + length • u + (s' - length) • w) := dist_triangle _ _ _
        _ ≤ |s - length| + |0 - (s' - length)| := add_le_add hfirst hsecond
        _ = |s - s'| := by
            rw [abs_of_nonpos (by linarith), abs_of_nonpos (by linarith),
              abs_of_nonpos (by linarith)]
            ring
  · have h' : ¬ s' ≤ length := fun hs' => h (hss.trans hs')
    rw [if_neg h, if_neg h']
    calc dist (p + length • u + (s - length) • w) (p + length • u + (s' - length) • w)
        ≤ |(s - length) - (s' - length)| := dist_add_smul_le hw _ _ _
      _ = |s - s'| := by rw [sub_sub_sub_cancel_right]

/-! ## A track -/

/-- A point that is taken from one listed position to the next, and held at the
first and at the last. -/
noncomputable def track : List (ℝ × E) → ℝ → E
  | [], _ => 0
  | [a], _ => a.2
  | a :: b :: rest, t =>
    if t < a.1 then a.2
    else if t < b.1 then a.2 + ((t - a.1) / (b.1 - a.1)) • (b.2 - a.2)
    else track (b :: rest) t

/-- No leg of the track is faster than `v`. -/
def SlowerThan (v : ℝ) (l : List (ℝ × E)) : Prop :=
  l.IsChain fun a b => a.1 < b.1 ∧ dist a.2 b.2 ≤ v * (b.1 - a.1)

lemma track_head {v : ℝ} {a : ℝ × E} {l : List (ℝ × E)} (h : SlowerThan v (a :: l)) :
    track (a :: l) a.1 = a.2 := by
  cases l with
  | nil => rfl
  | cons b rest =>
    obtain ⟨⟨hab, -⟩, -⟩ := List.isChain_cons_cons.mp h
    simp [track, hab]

lemma track_first {v t : ℝ} {a b : ℝ × E} {l : List (ℝ × E)} (h : SlowerThan v (a :: b :: l))
    (ht : t ≤ b.1) :
    track (a :: b :: l) t = a.2 + (max 0 (min 1 ((t - a.1) / (b.1 - a.1)))) • (b.2 - a.2) := by
  obtain ⟨⟨hab, -⟩, hrest⟩ := List.isChain_cons_cons.mp h
  have hspan : 0 < b.1 - a.1 := sub_pos.mpr hab
  unfold track
  by_cases hta : t < a.1
  · have hneg : (t - a.1) / (b.1 - a.1) ≤ 0 := div_nonpos_of_nonpos_of_nonneg (by linarith) hspan.le
    rw [if_pos hta, min_eq_right (hneg.trans zero_le_one), max_eq_left hneg, zero_smul, add_zero]
  · have hratio : 0 ≤ (t - a.1) / (b.1 - a.1) := div_nonneg (by linarith) hspan.le
    have hone : (t - a.1) / (b.1 - a.1) ≤ 1 := (div_le_one hspan).mpr (by linarith)
    rw [if_neg hta, min_eq_right hone, max_eq_right hratio]
    by_cases htb : t < b.1
    · rw [if_pos htb]
    · obtain rfl : t = b.1 := le_antisymm ht (not_lt.mp htb)
      rw [if_neg htb, track_head hrest, div_self hspan.ne', one_smul, add_sub_cancel]

lemma dist_track_first_le {v t t' : ℝ} {a b : ℝ × E} {l : List (ℝ × E)}
    (h : SlowerThan v (a :: b :: l)) (ht : t ≤ b.1) (ht' : t' ≤ b.1) :
    dist (track (a :: b :: l) t) (track (a :: b :: l) t') ≤ v * |t - t'| := by
  obtain ⟨⟨hab, hslow⟩, -⟩ := List.isChain_cons_cons.mp h
  have hspan : 0 < b.1 - a.1 := sub_pos.mpr hab
  rw [track_first h ht, track_first h ht', dist_add_left, dist_eq_norm, ← sub_smul, norm_smul,
    Real.norm_eq_abs, norm_sub_rev, ← dist_eq_norm]
  have hclamp : |max 0 (min 1 ((t - a.1) / (b.1 - a.1))) - max 0 (min 1 ((t' - a.1) / (b.1 - a.1)))| ≤
      |t - t'| / (b.1 - a.1) := by
    calc _ ≤ |(t - a.1) / (b.1 - a.1) - (t' - a.1) / (b.1 - a.1)| :=
          Set.abs_projIcc_sub_projIcc (zero_le_one' ℝ)
      _ = |t - t'| / (b.1 - a.1) := by
          rw [← sub_div, sub_sub_sub_cancel_right, abs_div, abs_of_pos hspan]
  calc _ ≤ |t - t'| / (b.1 - a.1) * (v * (b.1 - a.1)) :=
        mul_le_mul hclamp hslow dist_nonneg (div_nonneg (abs_nonneg _) hspan.le)
    _ = v * |t - t'| := by
        rw [div_mul_eq_mul_div, mul_comm v, ← mul_assoc, mul_div_assoc, mul_comm]
        field_simp

lemma track_later {t : ℝ} {a b : ℝ × E} {l : List (ℝ × E)} (hab : a.1 < b.1) (ht : b.1 ≤ t) :
    track (a :: b :: l) t = track (b :: l) t := by
  rw [track, if_neg (by linarith), if_neg (by linarith)]

lemma dist_track_le {v : ℝ} (hv : 0 ≤ v) {l : List (ℝ × E)} (h : SlowerThan v l) (t t' : ℝ) :
    dist (track l t) (track l t') ≤ v * |t - t'| := by
  wlog htt : t ≤ t' generalizing t t'
  · rw [dist_comm, abs_sub_comm]
    exact this t' t (le_of_not_ge htt)
  induction l generalizing t t' with
  | nil => simpa [track] using mul_nonneg hv (abs_nonneg _)
  | cons a l ih =>
    cases l with
    | nil => simpa [track] using mul_nonneg hv (abs_nonneg _)
    | cons b l =>
      obtain ⟨⟨hab, -⟩, hrest⟩ := List.isChain_cons_cons.mp h
      by_cases ht' : t' ≤ b.1
      · exact dist_track_first_le h (htt.trans ht') ht'
      · have hlater := not_le.mp ht'
        by_cases ht : t ≤ b.1
        · -- the point passes the second position in between
          have hfirst := dist_track_first_le h ht (le_refl b.1)
          have hsecond := ih hrest b.1 t' hlater.le
          rw [track_later hab (le_refl b.1)] at hfirst
          rw [track_later hab hlater.le]
          calc dist (track (a :: b :: l) t) (track (b :: l) t')
              ≤ dist (track (a :: b :: l) t) (track (b :: l) b.1) +
                  dist (track (b :: l) b.1) (track (b :: l) t') := dist_triangle _ _ _
            _ ≤ v * |t - b.1| + v * |b.1 - t'| := add_le_add hfirst hsecond
            _ = v * |t - t'| := by
                rw [abs_of_nonpos (by linarith), abs_of_nonpos (by linarith),
                  abs_of_nonpos (by linarith)]
                ring
        · rw [track_later hab (not_le.mp ht).le, track_later hab hlater.le]
          exact ih hrest t t' htt

end Taramandal.Lib.Moving

/-! ## A point moving along a segment, and a disc

The squared distance from a centre is convex along a segment: a segment whose
ends are in a disc stays in it. Conversely a point that is in the disc at every
inner instant of its segment has both ends in it, since the disc is closed. -/
namespace Taramandal.Lib.Disc

section

variable {K : Type*} [Field K] [LinearOrder K] [IsStrictOrderedRing K]

def normSq (x y : K) : K := x * x + y * y

lemma normSq_nonneg (x y : K) : 0 ≤ normSq x y :=
  add_nonneg (mul_self_nonneg x) (mul_self_nonneg y)

lemma normSq_segment_le {x1 y1 x2 y2 c r : K} (h0 : 0 ≤ r) (h1 : r ≤ 1)
    (h : normSq x1 y1 ≤ c) (h' : normSq x2 y2 ≤ c) :
    normSq (x1 + r * (x2 - x1)) (y1 + r * (y2 - y1)) ≤ c := by
  have hsplit : normSq (x1 + r * (x2 - x1)) (y1 + r * (y2 - y1)) =
      (1 - r) * normSq x1 y1 + r * normSq x2 y2 - r * (1 - r) * normSq (x2 - x1) (y2 - y1) := by
    unfold normSq; ring
  have hr : 0 ≤ 1 - r := sub_nonneg.mpr h1
  have hcross := mul_nonneg (mul_nonneg h0 hr) (normSq_nonneg (x2 - x1) (y2 - y1))
  calc normSq (x1 + r * (x2 - x1)) (y1 + r * (y2 - y1))
      ≤ (1 - r) * normSq x1 y1 + r * normSq x2 y2 := by rw [hsplit]; linarith
    _ ≤ (1 - r) * c + r * c :=
        add_le_add (mul_le_mul_of_nonneg_left h hr) (mul_le_mul_of_nonneg_left h' h0)
    _ = c := by ring

end

lemma ends_le_of_inner_le {g : ℝ → ℝ} (hg : Continuous g) {c : ℝ}
    (h : ∀ r, 0 < r → r < 1 → g r ≤ c) : g 0 ≤ c ∧ g 1 ≤ c := by
  have hclosed : IsClosed {r | g r ≤ c} := isClosed_le hg continuous_const
  have hsub : Set.Ioo (0 : ℝ) 1 ⊆ {r | g r ≤ c} := fun r hr => h r hr.1 hr.2
  have hicc : Set.Icc (0 : ℝ) 1 ⊆ {r | g r ≤ c} := by
    rw [← closure_Ioo zero_ne_one]
    exact closure_minimal hsub hclosed
  exact ⟨hicc ⟨le_refl _, zero_le_one⟩, hicc ⟨zero_le_one, le_refl _⟩⟩

lemma continuous_normSq_segment (x1 y1 x2 y2 : ℝ) :
    Continuous fun r : ℝ => normSq (x1 + r * (x2 - x1)) (y1 + r * (y2 - y1)) := by
  unfold normSq
  fun_prop

end Taramandal.Lib.Disc
