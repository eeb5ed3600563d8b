import Mathlib.Algebra.Order.Floor.Div
import Mathlib.Algebra.Order.Ring.Nat
import Mathlib.Data.BitVec

/-!
# Alignment

Rounding up to a multiple of an alignment, as mathematics and as the mask that programs compute on
machine words, and what becomes of a size that is narrowed to a signed type.
-/

namespace Alignment

/-! ## Rounding up -/

/-- The least multiple of an alignment that is not below a number. -/
def alignUp (alignment n : ℕ) : ℕ := alignment * (n ⌈/⌉ alignment)

lemma dvd_alignUp (alignment n : ℕ) : alignment ∣ alignUp alignment n :=
  Nat.dvd_mul_right _ _

lemma le_alignUp {alignment : ℕ} (h : 0 < alignment) (n : ℕ) : n ≤ alignUp alignment n :=
  le_smul_ceilDiv h

/-- Rounding up adds less than the alignment. -/
lemma alignUp_lt {alignment : ℕ} (h : 0 < alignment) (n : ℕ) :
    alignUp alignment n < n + alignment := by
  have hdiv : alignment * ((n + alignment - 1) / alignment) ≤ n + alignment - 1 :=
    Nat.mul_div_le _ _
  rw [alignUp, Nat.ceilDiv_eq_add_pred_div]
  omega

/-! ## The mask of a power of two -/

/-- The mask below a power of two. -/
lemma toNat_sub_one {w : ℕ} {a : BitVec w} (ha : a.toNat.isPowerOfTwo) :
    (a - 1).toNat = a.toNat - 1 := by
  have hpos : 0 < a.toNat := Nat.pos_of_isPowerOfTwo ha
  have hone : (1 : BitVec w).toNat = 1 := by
    refine BitVec.toNat_one (Nat.pos_of_ne_zero ?_)
    rintro rfl
    exact hpos.ne' (BitVec.toNat_of_zero_length rfl a)
  rw [BitVec.toNat_sub_of_le (by rw [BitVec.le_def, hone]; exact hpos), hone]

/-- Clearing the bits below a power of two rounds down to a multiple of it. -/
lemma toNat_and_not_mask {w : ℕ} (x a : BitVec w) (ha : a.toNat.isPowerOfTwo) :
    (x &&& ~~~(a - 1)).toNat = a.toNat * (x.toNat / a.toNat) := by
  have hmask := toNat_sub_one ha
  obtain ⟨k, hk⟩ := ha
  have hshift : 2 ^ k * (x.toNat / 2 ^ k) = (x.toNat >>> k) <<< k := by
    rw [Nat.shiftRight_eq_div_pow, Nat.shiftLeft_eq, mul_comm]
  rw [hk, hshift]
  refine Nat.eq_of_testBit_eq fun i => ?_
  rw [BitVec.testBit_toNat, BitVec.getLsbD_and, BitVec.getLsbD_not, ← BitVec.testBit_toNat (a - 1),
    hmask, hk, Nat.testBit_two_pow_sub_one, Nat.testBit_shiftLeft, Nat.testBit_shiftRight,
    BitVec.testBit_toNat]
  by_cases hik : i < k
  · simp [hik, not_le.mpr hik]
  · have hsum : k + (i - k) = i := by omega
    rw [hsum]
    by_cases hiw : i < w
    · simp [hik, hiw, not_lt.mp hik]
    · simp [BitVec.getLsbD_of_ge x i (not_lt.mp hiw)]

/-- The mask that programs use to round an address up does so, unless the address wraps around. -/
lemma toNat_roundUp {w : ℕ} (x a : BitVec w) (ha : a.toNat.isPowerOfTwo)
    (h : x.toNat + (a.toNat - 1) < 2 ^ w) :
    ((x + a - 1) &&& ~~~(a - 1)).toNat = alignUp a.toNat x.toNat := by
  have hpos : 0 < a.toNat := Nat.pos_of_isPowerOfTwo ha
  have hsum : (x + a - 1).toNat = x.toNat + a.toNat - 1 := by
    have hassoc : x + a - 1 = x + (a - 1) := add_sub_assoc x a 1
    rw [hassoc, BitVec.toNat_add, toNat_sub_one ha, Nat.mod_eq_of_lt h]
    omega
  rw [toNat_and_not_mask _ _ ha, hsum, alignUp, Nat.ceilDiv_eq_add_pred_div]

/-! ## Narrowing -/

/-- A number in the upper half of the modulus or beyond it loses at least the modulus when it is
taken to the balanced remainder. -/
lemma bmod_add_le {z : ℤ} {n : ℕ} (hn : 0 < n) (h : (n : ℤ) ≤ 2 * z) : z.bmod n + n ≤ z := by
  have hdecompose : n * z.bdiv n + z.bmod n = z := Int.bdiv_add_bmod z n
  have hsmall : z.bmod n ≤ (n - 1) / 2 := Int.bmod_le hn
  have hpos : 0 < n * z.bdiv n := by omega
  have hquotient : 1 ≤ z.bdiv n := Int.pos_of_mul_pos_right hpos (Int.natCast_pos.mpr hn)
  have hle : (n : ℤ) * 1 ≤ n * z.bdiv n :=
    Int.mul_le_mul_of_nonneg_left hquotient (Int.natCast_nonneg n)
  omega

/-- A balanced remainder is not above a number that is not negative. -/
lemma bmod_le_self {z : ℤ} {n : ℕ} (hn : 0 < n) (hz : 0 ≤ z) : z.bmod n ≤ z := by
  by_cases h : (n : ℤ) ≤ 2 * z
  · have hloss := bmod_add_le hn h
    omega
  · exact (Int.bmod_eq_of_le_mul_two (by omega) (by omega)).le

/-- A number that fits is kept by a narrowing to a signed type. -/
lemma toInt_setWidth_of_lt {w v : ℕ} {x : BitVec w} (h : 2 * x.toNat < 2 ^ v) :
    (x.setWidth v).toInt = x.toNat := by
  rw [BitVec.toInt_setWidth]
  exact Int.bmod_eq_of_le_mul_two (by omega) (by omega)

/-- A size that is an amount and the padding of a power of two is narrowed to less than the
amount as soon as it does not fit, however large the power is. -/
lemma toInt_setWidth_lt_of_padding {w v k m : ℕ} {x : BitVec w} (hv : 0 < v)
    (hx : x.toNat = m + (2 ^ k - 1)) (h : 2 ^ v ≤ 2 * x.toNat) : (x.setWidth v).toInt < m := by
  have hk : 0 < 2 ^ k := Nat.two_pow_pos k
  have hpow : 0 < 2 ^ v := Nat.two_pow_pos v
  rw [BitVec.toInt_setWidth]
  by_cases hkv : k ≤ v
  · have hle : 2 ^ k ≤ 2 ^ v := Nat.pow_le_pow_right (by decide) hkv
    have hloss := bmod_add_le (z := x.toNat) hpow (by omega)
    omega
  · -- the power is a multiple of the modulus and leaves one less than the amount
    have hsplit : (x.toNat : ℤ) = (m - 1 : ℤ) + (2 ^ v : ℕ) * (2 ^ (k - v) : ℕ) := by
      have hprod : 2 ^ v * 2 ^ (k - v) = 2 ^ k := by
        rw [← Nat.pow_add, Nat.add_sub_cancel' (by omega)]
      rw [hx, ← Nat.cast_mul, hprod]
      omega
    rw [hsplit, Int.add_mul_bmod_self_left]
    rcases Nat.eq_zero_or_pos m with rfl | hm
    · have htwo : 2 ^ 1 ≤ 2 ^ v := Nat.pow_le_pow_right (by decide) hv
      have hminus : ((0 : ℕ) - 1 : ℤ).bmod (2 ^ v) = (0 : ℕ) - 1 :=
        Int.bmod_eq_of_le_mul_two (by omega) (by omega)
      rw [hminus]
      omega
    · have hle := bmod_le_self (z := (m - 1 : ℤ)) hpow (by omega)
      omega

end Alignment
