import Mathlib.Data.List.Iterate
import Mathlib.Tactic.Common

/-! # Cyclic redundancy checks

A register that is divided bit by bit by a polynomial with a top bit never
forgets: two registers that differ go on differing, whatever bytes follow. A
message with one byte changed therefore ends in another register. -/
namespace Taramandal.Lib.Crc

def shift {w : Nat} (poly c : BitVec w) : BitVec w :=
  if c.getLsbD 0 then (c >>> 1) ^^^ poly else c >>> 1

lemma msb_shift {w : Nat} {poly : BitVec w} (hpoly : poly.msb = true) (c : BitVec w) :
    (shift poly c).msb = c.getLsbD 0 := by
  have hzero : (c >>> 1).msb = false := by simp [BitVec.msb_ushiftRight]
  unfold shift
  cases h : c.getLsbD 0 <;> simp [hzero, hpoly]

lemma shift_injective {w : Nat} {poly : BitVec w} (hpoly : poly.msb = true) :
    Function.Injective (shift poly) := by
  intro a b h
  have hlow : a.getLsbD 0 = b.getLsbD 0 := by
    rw [← msb_shift hpoly a, ← msb_shift hpoly b, h]
  have hhigh : a >>> 1 = b >>> 1 := by
    unfold shift at h
    rw [hlow] at h
    split at h
    · exact (BitVec.xor_left_inj _).mp h
    · exact h
  apply BitVec.eq_of_getLsbD_eq
  intro i _
  cases i with
  | zero => exact hlow
  | succ i =>
    have hbit := congrArg (BitVec.getLsbD · i) hhigh
    simpa only [BitVec.getLsbD_ushiftRight, Nat.add_comm 1 i] using hbit

variable {σ β : Type*} {f : σ → β → σ}

lemma foldl_injective (hstate : ∀ b, Function.Injective (f · b)) (bs : List β) :
    Function.Injective fun c => bs.foldl f c := by
  induction bs with
  | nil => exact fun _ _ h => h
  | cons b bs ih => exact fun _ _ h => hstate b (ih h)

variable {i j : Nat} {bs : List UInt8}

lemma foldl_set_ne (hstate : ∀ b, Function.Injective (f · b))
    (hbyte : ∀ c, Function.Injective (f c)) {bs : List β} {a b : β} (c : σ)
    (ha : bs[i]? = some a) (hne : b ≠ a) : (bs.set i b).foldl f c ≠ bs.foldl f c := by
  induction bs generalizing c i with
  | nil => cases ha
  | cons x bs ih =>
    cases i with
    | zero =>
      obtain rfl := Option.some.inj ha
      intro h
      exact hne (hbyte c (foldl_injective hstate bs h))
    | succ i => exact ih (f c x) ha

variable {w : Nat}

lemma shift_xor (poly a b : BitVec w) : shift poly (a ^^^ b) = shift poly a ^^^ shift poly b := by
  unfold shift
  rw [BitVec.getLsbD_xor, BitVec.ushiftRight_xor_distrib]
  cases a.getLsbD 0 <;> cases b.getLsbD 0 <;> simp only [Bool.xor_false, Bool.xor_true,
    Bool.not_true, Bool.not_false, if_true, Bool.false_eq_true, if_false]
  · exact (BitVec.xor_assoc _ _ _).symm ▸ rfl
  · rw [BitVec.xor_assoc, BitVec.xor_comm (b >>> 1) poly, ← BitVec.xor_assoc]
  · rw [BitVec.xor_assoc, ← BitVec.xor_assoc poly, BitVec.xor_comm poly (b >>> 1),
      BitVec.xor_assoc, BitVec.xor_self, BitVec.xor_zero]

lemma shift_iterate_xor (poly : BitVec w) (k : Nat) (a b : BitVec w) :
    (shift poly)^[k] (a ^^^ b) = (shift poly)^[k] a ^^^ (shift poly)^[k] b := by
  induction k generalizing a b with
  | zero => rfl
  | succ k ih => rw [Function.iterate_succ_apply, shift_xor, ih]; rfl

lemma shift_iterate_of_toNat {poly c d : BitVec w} {k : Nat} (h : d.toNat = 2 ^ k * c.toNat) :
    (shift poly)^[k] d = c := by
  induction k generalizing d with
  | zero => exact BitVec.eq_of_toNat_eq (by simpa using h)
  | succ k ih =>
    rw [Function.iterate_succ_apply]
    have heven : d.toNat = 2 * (2 ^ k * c.toNat) := by
      rw [h, Nat.pow_succ, Nat.mul_comm (2 ^ k) 2, Nat.mul_assoc]
    have hlow : d.getLsbD 0 = false := by
      rw [BitVec.getLsbD, heven]
      simp
    refine ih ?_
    rw [shift, hlow]
    simp only [Bool.false_eq_true, if_false, BitVec.toNat_ushiftRight, heven]
    omega

def absorb (poly c : BitVec w) (b : UInt8) : BitVec w :=
  (shift poly)^[8] (c ^^^ b.toBitVec.setWidth w)

lemma absorb_xor (poly c d : BitVec w) (b : UInt8) :
    absorb poly (c ^^^ d) b = absorb poly c b ^^^ (shift poly)^[8] d := by
  unfold absorb
  rw [← shift_iterate_xor, BitVec.xor_assoc, BitVec.xor_assoc, BitVec.xor_comm d]

lemma foldl_absorb_xor (poly c d : BitVec w) (bs : List UInt8) : bs.foldl (absorb poly) (c ^^^ d) =
      bs.foldl (absorb poly) c ^^^ (shift poly)^[8 * bs.length] d := by
  induction bs generalizing c d with
  | nil => rfl
  | cons b bs ih =>
    have hlen : 8 * (b :: bs).length = 8 * bs.length + 8 := by simp [Nat.mul_add]
    rw [List.foldl_cons, absorb_xor, ih, hlen, Function.iterate_add_apply]
    rfl

/-! ## Flipped bits -/

/-- Bit `p` of a message, each byte from its low end. -/
def flipBit (bs : List UInt8) (p : Nat) : List UInt8 :=
  bs.set (p / 8) (bs.getD (p / 8) 0 ^^^ UInt8.ofNat (2 ^ (p % 8)))

@[simp] lemma length_flipBit (bs : List UInt8) (p : Nat) : (flipBit bs p).length = bs.length := by
  simp [flipBit]

/-- What a bit leaves in the register, `k` bits before the end. -/
def syndrome (poly : BitVec w) (k : Nat) : BitVec w := (shift poly)^[k] 1#w

lemma shift_iterate_syndrome (poly : BitVec w) (i k : Nat) :
    (shift poly)^[i] (syndrome poly k) = syndrome poly (i + k) :=
  (Function.iterate_add_apply _ i k _).symm

lemma toNat_bit (hw : 8 ≤ w) (hj : j < 8) :
    ((UInt8.ofNat (2 ^ j)).toBitVec.setWidth w).toNat = 2 ^ j * (1#w).toNat := by
  have hwide : 2 ^ 8 ≤ 2 ^ w := Nat.pow_le_pow_right (by decide) hw
  have hbit : 2 ^ j < 2 ^ 8 := Nat.pow_lt_pow_right (by decide) hj
  have hone : (1#w).toNat = 1 := Nat.mod_eq_of_lt (show 1 < 2 ^ w by omega)
  have hbyte : (UInt8.ofNat (2 ^ j)).toBitVec.toNat = 2 ^ j := UInt8.toNat_ofNat_of_lt' hbit
  rw [hone, BitVec.toNat_setWidth, hbyte, Nat.mod_eq_of_lt (by omega), Nat.mul_one]

lemma absorb_flip (hw : 8 ≤ w) (poly c : BitVec w) (b : UInt8) (hj : j < 8) :
    absorb poly c (b ^^^ UInt8.ofNat (2 ^ j)) = absorb poly c b ^^^ syndrome poly (8 - j) := by
  have hmove : (shift poly)^[8] ((UInt8.ofNat (2 ^ j)).toBitVec.setWidth w) =
      syndrome poly (8 - j) := by
    have hsplit : 8 = (8 - j) + j := by omega
    nth_rewrite 1 [hsplit]
    rw [Function.iterate_add_apply, shift_iterate_of_toNat (toNat_bit hw hj)]
    rfl
  rw [← hmove]
  unfold absorb
  rw [← shift_iterate_xor, UInt8.toBitVec_xor, BitVec.setWidth_xor, BitVec.xor_assoc]

lemma foldl_flipBit (hw : 8 ≤ w) (poly c : BitVec w) {p : Nat} (hp : p < 8 * bs.length) :
    (flipBit bs p).foldl (absorb poly) c =
      bs.foldl (absorb poly) c ^^^ syndrome poly (8 * bs.length - p) := by
  induction bs generalizing c p with
  | nil => simp at hp
  | cons b bs ih =>
    have hlen : (b :: bs).length = bs.length + 1 := rfl
    rcases Nat.lt_or_ge p 8 with hfirst | hlater
    · have hflip : flipBit (b :: bs) p = (b ^^^ UInt8.ofNat (2 ^ p)) :: bs := by
        simp [flipBit, Nat.div_eq_of_lt hfirst, Nat.mod_eq_of_lt hfirst]
      have hplace : 8 * (b :: bs).length - p = 8 * bs.length + (8 - p) := by omega
      rw [hflip, List.foldl_cons, absorb_flip hw poly c b hfirst, foldl_absorb_xor,
        shift_iterate_syndrome, hplace, List.foldl_cons]
    · have hbyte : p / 8 = (p - 8) / 8 + 1 := by omega
      have hbit : p % 8 = (p - 8) % 8 := by omega
      have hflip : flipBit (b :: bs) p = b :: flipBit bs (p - 8) := by
        simp [flipBit, hbyte, hbit]
      have hplace : 8 * (b :: bs).length - p = 8 * bs.length - (p - 8) := by omega
      rw [hflip, List.foldl_cons, ih _ (by omega), hplace, List.foldl_cons]

@[simp] lemma length_flips (ps : List Nat) (bs : List UInt8) :
    (ps.foldl flipBit bs).length = bs.length := by
  induction ps generalizing bs with
  | nil => rfl
  | cons p ps ih => rw [List.foldl_cons, ih, length_flipBit]

lemma foldl_flips (hw : 8 ≤ w) (poly c : BitVec w) {ps : List Nat}
    (hps : ∀ p ∈ ps, p < 8 * bs.length) :
    (ps.foldl flipBit bs).foldl (absorb poly) c =
      (ps.map fun p => syndrome poly (8 * bs.length - p)).foldl (· ^^^ ·)
        (bs.foldl (absorb poly) c) := by
  induction ps generalizing bs with
  | nil => rfl
  | cons p ps ih =>
    have hrest : ∀ q ∈ ps, q < 8 * (flipBit bs p).length := fun q hq => by
      rw [length_flipBit]
      exact hps q (List.mem_cons_of_mem p hq)
    rw [List.foldl_cons, ih hrest, foldl_flipBit hw poly c (hps p List.mem_cons_self),
      length_flipBit]
    rfl

/-! ## Bursts -/

variable {poly : BitVec w} {n : Nat}

/-- What eight shifts make small had its low eight bits clear. -/
lemma toNat_of_shifts (hpoly : poly.msb = true) {c : BitVec w} (hn : n + 8 ≤ w)
    (h : ((shift poly)^[8] c).toNat < 2 ^ n) :
    c.toNat = 2 ^ 8 * ((shift poly)^[8] c).toNat := by
  have hfit : 2 ^ 8 * ((shift poly)^[8] c).toNat < 2 ^ w :=
    calc 2 ^ 8 * ((shift poly)^[8] c).toNat < 2 ^ 8 * 2 ^ n := by omega
      _ = 2 ^ (n + 8) := by rw [← Nat.pow_add, Nat.add_comm]
      _ ≤ 2 ^ w := Nat.pow_le_pow_right (by decide) hn
  have hwide := Nat.mod_eq_of_lt hfit
  have hback : (shift poly)^[8] (BitVec.ofNat w (2 ^ 8 * ((shift poly)^[8] c).toNat)) =
      (shift poly)^[8] c := shift_iterate_of_toNat (by rw [BitVec.toNat_ofNat, hwide])
  have hsame := congrArg BitVec.toNat ((shift_injective hpoly).iterate 8 hback)
  rwa [BitVec.toNat_ofNat, hwide, eq_comm] at hsame

/-- Messages that fit the register leave it alike only if they are the same; those that start
from different registers make up for no more than their own length. -/
lemma foldl_absorb_inj (hpoly : poly.msb = true) {xs ys : List UInt8}
    (hlen : xs.length = ys.length) (hn : 8 * xs.length ≤ w) {c d : BitVec w}
    (h : xs.foldl (absorb poly) c = ys.foldl (absorb poly) d) :
    (c ^^^ d).toNat < 2 ^ (8 * xs.length) ∧ (c = d → xs = ys) := by
  induction xs generalizing ys c d with
  | nil =>
    obtain rfl := List.length_eq_zero_iff.mp hlen.symm
    obtain rfl : c = d := h
    simp
  | cons x xs ih =>
    obtain ⟨y, ys, rfl⟩ := List.exists_cons_of_length_eq_add_one hlen.symm
    rw [List.length_cons] at hn ⊢
    obtain ⟨hsmall, htail⟩ := ih (Nat.succ.inj hlen) (by omega) h
    have hbyte : ((x ^^^ y).toBitVec.setWidth w).toNat = (x ^^^ y).toNat := by
      have := (x ^^^ y).toNat_lt
      rw [BitVec.toNat_setWidth, UInt8.toNat_toBitVec, Nat.mod_eq_of_lt]
      exact this.trans_le (Nat.pow_le_pow_right (by decide) (by omega))
    have hmove : absorb poly c x ^^^ absorb poly d y =
        (shift poly)^[8] (c ^^^ d ^^^ (x ^^^ y).toBitVec.setWidth w) := by
      rw [absorb, absorb, ← shift_iterate_xor, UInt8.toBitVec_xor, BitVec.setWidth_xor]
      ac_rfl
    rw [hmove] at hsmall
    have hhigh := toNat_of_shifts hpoly (by omega) hsmall
    refine ⟨?_, ?_⟩
    · have hback : c ^^^ d = c ^^^ d ^^^ (x ^^^ y).toBitVec.setWidth w ^^^
          (x ^^^ y).toBitVec.setWidth w := by
        rw [BitVec.xor_assoc _ (BitVec.setWidth w _), BitVec.xor_self, BitVec.xor_zero]
      rw [hback, BitVec.toNat_xor, hbyte, hhigh]
      have hwide := Nat.pow_add 2 8 (8 * xs.length)
      rw [Nat.mul_succ, Nat.add_comm]
      exact Nat.xor_lt_two_pow (by omega) ((x ^^^ y).toNat_lt.trans_le
        (Nat.pow_le_pow_right (by decide) (by omega)))
    · rintro rfl
      rw [BitVec.xor_self, BitVec.zero_xor, hbyte] at hhigh
      have := (x ^^^ y).toNat_lt
      obtain rfl : x = y := UInt8.xor_eq_zero_iff.mp (UInt8.toNat.inj (show _ = 0 by omega))
      rw [htail rfl]

/-! ## Powers apart -/

/-- Up to `n` bits apart, no two bits cancel, and no three. -/
structure Spread (poly : BitVec w) (n : Nat) : Prop where
  two : ∀ i, 0 < i → i < n → syndrome poly i ≠ 1#w
  three : ∀ i j, 0 < i → i < n → 0 < j → j < n → 1#w ^^^ syndrome poly i ≠ syndrome poly j

variable {a b : Nat} {as : List Nat}

lemma Spread.syndrome_ne (h : Spread poly n) (hpoly : poly.msb = true)
    (hab : a < b) (hb : b < a + n) : syndrome poly a ≠ syndrome poly b := by
  intro heq
  have hfar : syndrome poly b = (shift poly)^[a] (syndrome poly (b - a)) := by
    rw [shift_iterate_syndrome, Nat.add_sub_cancel' hab.le]
  rw [hfar] at heq
  exact h.two (b - a) (by omega) (by omega) ((shift_injective hpoly).iterate a heq).symm

lemma Spread.syndrome_xor_ne (h : Spread poly n) (hpoly : poly.msb = true) {c : Nat}
    (hab : a < b) (hb : b < a + n) (hac : a < c) (hc : c < a + n) :
    syndrome poly a ^^^ syndrome poly b ≠ syndrome poly c := by
  intro heq
  have hfar : ∀ {k}, a < k → syndrome poly k = (shift poly)^[a] (syndrome poly (k - a)) := by
    intro k hk
    rw [shift_iterate_syndrome, Nat.add_sub_cancel' hk.le]
  have hnear : syndrome poly a = (shift poly)^[a] 1#w := rfl
  rw [hfar hab, hfar hac, hnear, ← shift_iterate_xor] at heq
  exact h.three (b - a) (c - a) (by omega) (by omega) (by omega) (by omega)
    ((shift_injective hpoly).iterate a heq)

lemma syndrome_ne_zero (hw : 0 < w) (hpoly : poly.msb = true) (k : Nat) :
    syndrome poly k ≠ 0#w := by
  intro hzero
  have hempty : (shift poly)^[k] 0#w = 0#w := shift_iterate_of_toNat (by simp)
  have hone : (1#w).toNat = (0#w).toNat :=
    congrArg BitVec.toNat ((shift_injective hpoly).iterate k (hzero.trans hempty.symm))
  have hwide : 1 < 2 ^ w := Nat.one_lt_two_pow hw.ne'
  rw [BitVec.toNat_ofNat, Nat.mod_eq_of_lt hwide] at hone
  simp at hone

/-- Up to three bits of a message of `n` change its register. -/
lemma Spread.syndromes_ne (h : Spread poly n) (hw : 0 < w) (hpoly : poly.msb = true)
    {ks : List Nat} (hnodup : ks.Nodup) (hne : ks ≠ []) (hlen : ks.length ≤ 3)
    (hks : ∀ k ∈ ks, 0 < k ∧ k ≤ n) (c : BitVec w) :
    (ks.map (syndrome poly)).foldl (· ^^^ ·) c ≠ c := by
  have hback : ∀ {d : BitVec w}, c ^^^ d = c → d = 0#w := fun hd => by
    rwa [← BitVec.xor_right_inj c, BitVec.xor_zero]
  match ks, hne, hlen with
  | [i], _, _ => exact fun heq => syndrome_ne_zero hw hpoly i (hback heq)
  | [i, j], _, _ =>
    intro heq
    simp only [List.map_cons, List.map_nil, List.foldl_cons, List.foldl_nil,
      BitVec.xor_assoc] at heq
    have hsame : syndrome poly i = syndrome poly j := BitVec.xor_eq_zero_iff.mp (hback heq)
    have hi := hks i (by simp)
    have hj := hks j (by simp)
    rcases Nat.lt_trichotomy i j with hlt | rfl | hlt
    · exact h.syndrome_ne hpoly hlt (by omega) hsame
    · simp at hnodup
    · exact h.syndrome_ne hpoly hlt (by omega) hsame.symm
  | [i, j, k], _, _ =>
    intro heq
    simp only [List.map_cons, List.map_nil, List.foldl_cons, List.foldl_nil,
      BitVec.xor_assoc] at heq
    have hzero := hback heq
    rw [← BitVec.xor_assoc] at hzero
    have hsum : syndrome poly i ^^^ syndrome poly j = syndrome poly k :=
      BitVec.xor_eq_zero_iff.mp hzero
    have hi := hks i (by simp)
    have hj := hks j (by simp)
    have hk := hks k (by simp)
    simp only [List.nodup_cons, List.mem_cons, List.not_mem_nil, or_false, not_or] at hnodup
    obtain ⟨⟨hij, hik⟩, hjk, -⟩ := hnodup
    -- the place nearest to the end stands alone
    by_cases hifirst : i < j ∧ i < k
    · exact h.syndrome_xor_ne hpoly hifirst.1 (by omega) hifirst.2 (by omega) hsum
    by_cases hjfirst : j < i ∧ j < k
    · rw [BitVec.xor_comm] at hsum
      exact h.syndrome_xor_ne hpoly hjfirst.1 (by omega) hjfirst.2 (by omega) hsum
    · refine h.syndrome_xor_ne hpoly (a := k) (b := i) (c := j) (by omega) (by omega) (by omega)
        (by omega) ?_
      rw [← hsum, BitVec.xor_comm, ← BitVec.xor_assoc, BitVec.xor_self, BitVec.zero_xor]

def absent (x : Nat) : List Nat → Bool
  | [] => true
  | a :: as => !Nat.beq a x && absent x as

/-- No number is one, and none is another with its low bit flipped. -/
def apart : List Nat → Bool
  | [] => true
  | a :: as => !Nat.beq a 1 && absent (1 ^^^ a) as && apart as

lemma not_mem_of_absent {x : Nat} (h : absent x as = true) : x ∉ as := by
  induction as with
  | nil => exact List.not_mem_nil
  | cons a as ih =>
    rw [absent, Bool.and_eq_true, Bool.not_eq_true'] at h
    rw [List.mem_cons, not_or]
    exact ⟨fun hx => Nat.ne_of_beq_eq_false h.1 hx.symm, ih h.2⟩

lemma ne_one_of_apart (h : apart as = true) : 1 ∉ as := by
  induction as with
  | nil => exact List.not_mem_nil
  | cons a as ih =>
    simp only [apart, Bool.and_eq_true, Bool.not_eq_true'] at h
    rw [List.mem_cons, not_or]
    exact ⟨fun hx => Nat.ne_of_beq_eq_false h.1.1 hx.symm, ih h.2⟩

lemma xor_ne_of_apart (h : apart as = true) (ha : a ∈ as) (hb : b ∈ as) : 1 ^^^ a ≠ b := by
  induction as with
  | nil => cases ha
  | cons c as ih =>
    simp only [apart, Bool.and_eq_true, Bool.not_eq_true'] at h
    have hlow : ∀ x : Nat, 1 ^^^ x ≠ x := fun x hx => by
      have hbit := congrArg (Nat.testBit · 0) hx
      rw [Nat.testBit_xor] at hbit
      cases hx0 : x.testBit 0 <;> simp [hx0] at hbit
    rcases List.mem_cons.mp ha with rfl | ha' <;> rcases List.mem_cons.mp hb with rfl | hb'
    · exact hlow _
    · exact fun heq => not_mem_of_absent h.1.2 (heq ▸ hb')
    · intro heq
      refine not_mem_of_absent h.1.2 ?_
      rwa [← heq, ← Nat.xor_assoc, Nat.xor_self, Nat.zero_xor]
    · exact ih h.2 ha' hb'

/-- The powers of a polynomial up to `n`, each from the one before. -/
def powers (poly : BitVec w) (n : Nat) : List Nat :=
  (List.iterate (shift poly) (syndrome poly 1) n).map BitVec.toNat

lemma mem_powers (hpos : 0 < i) (hi : i ≤ n) : (syndrome poly i).toNat ∈ powers poly n := by
  refine List.mem_map_of_mem (List.mem_iterate.mpr ⟨i - 1, by omega, ?_⟩)
  rw [shift_iterate_syndrome, Nat.sub_add_cancel hpos]

lemma spread_of_apart (hw : 0 < w) (h : apart (powers poly n) = true) : Spread poly (n + 1) := by
  have hone : (1#w).toNat = 1 := Nat.mod_eq_of_lt (Nat.one_lt_two_pow hw.ne')
  constructor
  · intro i hpos hi heq
    refine ne_one_of_apart h ?_
    rw [← hone, ← heq]
    exact mem_powers hpos (Nat.lt_succ_iff.mp hi)
  · intro i j hi hin hj hjn heq
    refine xor_ne_of_apart h (mem_powers hi (Nat.lt_succ_iff.mp hin))
      (mem_powers hj (Nat.lt_succ_iff.mp hjn)) ?_
    rw [← heq, BitVec.toNat_xor, hone]

end Taramandal.Lib.Crc
