import Mathlib.Algebra.Order.Field.Rat
import Mathlib.Data.Nat.Log
import Mathlib.Data.Nat.ModEq
import Mathlib.Data.Rat.Cast.Order
import Mathlib.Tactic.FieldSimp
import Mathlib.Tactic.Ring

/-!
# Numbers of the format binary64

A `Binary64` is a number of IEEE 754 by the fields of its 64 bits.  The value of a finite number is
a multiple of the smallest positive one, which is `2 ^ (-1074)`, and `units` is the factor; so
comparisons, truncation and conversions from and to integers are facts about integers.  `value` is
the rational number that they are about.
-/

/-- A sign, a biased exponent and the fraction bits of the significand. -/
structure Binary64 where
  negative : Bool
  exponent : ℕ
  fraction : ℕ
  exponent_lt : exponent < 2 ^ 11
  fraction_lt : fraction < 2 ^ 52
  deriving DecidableEq

namespace Binary64

/-! ## Values -/

/-- It is neither infinite nor a NaN. -/
def isFinite (x : Binary64) : Bool := x.exponent != 2047

def isNan (x : Binary64) : Bool := x.exponent == 2047 && x.fraction != 0

/-- The fraction with the leading bit, which subnormal numbers do not have. -/
def significand (x : Binary64) : ℕ := if x.exponent = 0 then x.fraction else 2 ^ 52 + x.fraction

/-- How many units the magnitude is made of; subnormal numbers share the smallest exponent. -/
def magnitude (x : Binary64) : ℕ := x.significand * 2 ^ (x.exponent - 1)

/-- The number in multiples of the smallest positive one. -/
def units (x : Binary64) : ℤ := if x.negative then -x.magnitude else x.magnitude

/-- The place of the binary point in a number of units. -/
def point : ℕ := 1074

/-- How many units make one. -/
def scale : ℕ := 2 ^ point

/-- The value of a finite number. -/
def value (x : Binary64) : ℚ := x.units / scale

lemma scale_pos : 0 < scale := Nat.two_pow_pos point

lemma scale_eq {a b : ℕ} (h : a + b = point) : scale = 2 ^ a * 2 ^ b := by
  rw [scale, ← h, pow_add]

lemma isNan_of_isFinite {x : Binary64} (h : x.isFinite = true) : x.isNan = false := by
  rw [isFinite, bne_iff_ne] at h
  rw [isNan, beq_eq_false_iff_ne.mpr h, Bool.false_and]

/-- A number is an integer when its units are a multiple of the scale. -/
lemma value_eq_intCast_iff {x : Binary64} {z : ℤ} : x.value = z ↔ x.units = z * scale := by
  have hscale : (scale : ℚ) ≠ 0 := Nat.cast_ne_zero.mpr scale_pos.ne'
  rw [value, div_eq_iff hscale]
  constructor
  · intro h
    exact_mod_cast h
  · intro h
    exact_mod_cast h

/-! ## Comparisons -/

/-- `==`, which takes the two zeros for equal and no NaN. -/
def beq (x y : Binary64) : Bool := !x.isNan && !y.isNan && x.units == y.units

/-- `<`; the units of the infinities lie beyond those of all finite numbers. -/
def lt (x y : Binary64) : Bool := !x.isNan && !y.isNan && decide (x.units < y.units)

section Finite

variable {x y : Binary64} (hx : x.isFinite = true) (hy : y.isFinite = true)

include hx hy

lemma beq_iff : x.beq y = true ↔ x.units = y.units := by
  rw [beq, isNan_of_isFinite hx, isNan_of_isFinite hy]
  simp

lemma lt_iff : x.lt y = true ↔ x.units < y.units := by
  rw [lt, isNan_of_isFinite hx, isNan_of_isFinite hy]
  simp

end Finite

/-! ## Truncation -/

/-- `std::trunc`: the integer next to the number on the side of zero. -/
def trunc (x : Binary64) : Binary64 :=
  if x.exponent < 1023 then ⟨x.negative, 0, 0, by decide, by decide⟩
  else if x.exponent < 1075 then
    -- the bits below the binary point
    let low := 2 ^ (1075 - x.exponent)
    { x with
      fraction := x.fraction / low * low
      fraction_lt := (Nat.div_mul_le_self x.fraction low).trans_lt x.fraction_lt }
  else x

/-- What is less than a normal one has no bits above the binary point. -/
lemma magnitude_lt_scale {x : Binary64} (h : x.exponent < 1023) : x.magnitude < scale := by
  have hsignificand : x.significand < 2 ^ 53 := by
    have hfraction := x.fraction_lt
    unfold significand
    split <;> omega
  have hplace : 53 + (x.exponent - 1) ≤ point := by
    unfold point
    omega
  calc x.magnitude < 2 ^ 53 * 2 ^ (x.exponent - 1) :=
        Nat.mul_lt_mul_of_pos_right hsignificand (Nat.two_pow_pos _)
    _ = 2 ^ (53 + (x.exponent - 1)) := (pow_add ..).symm
    _ ≤ scale := Nat.pow_le_pow_right (by decide) hplace

/-- Truncation drops what the magnitude has below the scale. -/
lemma magnitude_trunc (x : Binary64) : x.trunc.magnitude = x.magnitude / scale * scale := by
  unfold trunc
  split
  · rename_i hsmall
    rw [Nat.div_eq_of_lt (magnitude_lt_scale hsmall), Nat.zero_mul]
    exact Nat.zero_mul _
  split
  · rename_i hsmall hmiddle
    have hnormal : x.exponent ≠ 0 := by omega
    have hlow : 2 ^ (1075 - x.exponent) ∣ 2 ^ 52 := Nat.pow_dvd_pow 2 (by omega)
    have hscale : scale = 2 ^ (1075 - x.exponent) * 2 ^ (x.exponent - 1) :=
      scale_eq (by unfold point; omega)
    simp only [magnitude, significand, if_neg hnormal]
    rw [hscale, Nat.mul_div_mul_right _ _ (Nat.two_pow_pos _), Nat.add_div_of_dvd_right hlow,
      ← mul_assoc, add_mul (2 ^ 52 / _), Nat.div_mul_cancel hlow]
  · rename_i hsmall hmiddle
    have hdvd : scale ∣ x.magnitude := by
      have hplace : point ≤ x.exponent - 1 := by
        unfold point
        omega
      exact (Nat.pow_dvd_pow 2 hplace).mul_left _
    exact (Nat.div_mul_cancel hdvd).symm

lemma negative_trunc (x : Binary64) : x.trunc.negative = x.negative := by
  unfold trunc
  split
  · rfl
  · split <;> rfl

lemma isFinite_trunc {x : Binary64} (h : x.isFinite = true) : x.trunc.isFinite = true := by
  unfold trunc
  split
  · rfl
  · split <;> exact h

/-- The integer that a conversion to an integer type takes from a number. -/
def toInt (x : Binary64) : ℤ := x.units.tdiv scale

lemma units_trunc (x : Binary64) : x.trunc.units = x.toInt * scale := by
  rw [units, negative_trunc, magnitude_trunc, toInt, units]
  have hwhole : ((x.magnitude / scale * scale : ℕ) : ℤ) =
      (x.magnitude : ℤ).tdiv scale * scale := by
    rw [Nat.cast_mul, Int.ofNat_tdiv]
  cases x.negative with
  | false => exact hwhole
  | true =>
    rw [if_pos rfl, if_pos rfl, Int.neg_tdiv, neg_mul]
    exact congrArg Neg.neg hwhole

/-- Truncation leaves exactly the integers. -/
lemma trunc_beq_iff {x : Binary64} (h : x.isFinite = true) :
    x.trunc.beq x = true ↔ ∃ z : ℤ, x.value = z := by
  rw [beq_iff (isFinite_trunc h) h, units_trunc]
  constructor
  · intro heq
    exact ⟨x.toInt, value_eq_intCast_iff.mpr heq.symm⟩
  · rintro ⟨z, hz⟩
    have hunits := value_eq_intCast_iff.mp hz
    have hscale : (scale : ℤ) ≠ 0 := Int.natCast_ne_zero.mpr scale_pos.ne'
    rw [toInt, hunits, Int.mul_tdiv_cancel _ hscale]

lemma toInt_of_value {x : Binary64} {z : ℤ} (h : x.value = z) : x.toInt = z := by
  have hscale : (scale : ℤ) ≠ 0 := Int.natCast_ne_zero.mpr scale_pos.ne'
  rw [toInt, value_eq_intCast_iff.mp h, Int.mul_tdiv_cancel _ hscale]

/-! ## Integers -/

/-- The integers that a significand holds. -/
def Exact (z : ℤ) : Prop := z.natAbs < 2 ^ 53

instance (z : ℤ) : Decidable (Exact z) := inferInstanceAs (Decidable (_ < _))

lemma log2_lt {z : ℤ} (h : Exact z) (hz : z ≠ 0) : z.natAbs.log2 < 53 :=
  (Nat.log2_lt (Int.natAbs_ne_zero.mpr hz)).mpr h

/-- The leading bit of an integer is moved to the place before the fraction. -/
lemma le_shifted {z : ℤ} (h : Exact z) (hz : z ≠ 0) :
    2 ^ 52 ≤ z.natAbs * 2 ^ (52 - z.natAbs.log2) ∧
      z.natAbs * 2 ^ (52 - z.natAbs.log2) < 2 * 2 ^ 52 := by
  have hne := Int.natAbs_ne_zero.mpr hz
  have hlog := log2_lt h hz
  have hlow := Nat.log2_self_le hne
  have hhigh : z.natAbs < 2 ^ (z.natAbs.log2 + 1) := Nat.lt_log2_self
  have hpow : 2 ^ z.natAbs.log2 * 2 ^ (52 - z.natAbs.log2) = 2 ^ 52 := by
    rw [← pow_add]
    congr 1
    omega
  constructor
  · calc 2 ^ 52 = 2 ^ z.natAbs.log2 * 2 ^ (52 - z.natAbs.log2) := hpow.symm
      _ ≤ _ := Nat.mul_le_mul_right _ hlow
  · calc z.natAbs * 2 ^ (52 - z.natAbs.log2)
          < 2 ^ (z.natAbs.log2 + 1) * 2 ^ (52 - z.natAbs.log2) :=
        Nat.mul_lt_mul_of_pos_right hhigh (Nat.two_pow_pos _)
      _ = 2 * (2 ^ z.natAbs.log2 * 2 ^ (52 - z.natAbs.log2)) := by ring
      _ = 2 * 2 ^ 52 := by rw [hpow]

/-- The number whose value is an integer. -/
def ofInt (z : ℤ) (h : Exact z) : Binary64 :=
  if hz : z = 0 then ⟨false, 0, 0, by decide, by decide⟩
  else
    { negative := decide (z < 0)
      exponent := z.natAbs.log2 + 1023
      fraction := z.natAbs * 2 ^ (52 - z.natAbs.log2) - 2 ^ 52
      exponent_lt := by have hlog := log2_lt h hz; omega
      fraction_lt := by have hshifted := le_shifted h hz; omega }

variable {z : ℤ} (h : Exact z)

lemma isFinite_ofInt : (ofInt z h).isFinite = true := by
  unfold ofInt
  split
  · rfl
  · rename_i hz
    have hlog := log2_lt h hz
    rw [isFinite, bne_iff_ne]
    dsimp only
    omega

lemma magnitude_ofInt : (ofInt z h).magnitude = z.natAbs * scale := by
  unfold ofInt
  split
  · rename_i hz
    rw [hz, Int.natAbs_zero, Nat.zero_mul]
    exact Nat.zero_mul _
  · rename_i hz
    have hlog := log2_lt h hz
    have hnormal : z.natAbs.log2 + 1023 ≠ 0 := by omega
    have hshifted := le_shifted h hz
    have hscale : scale = 2 ^ (52 - z.natAbs.log2) * 2 ^ (z.natAbs.log2 + 1023 - 1) :=
      scale_eq (by unfold point; omega)
    simp only [magnitude, significand, if_neg hnormal]
    rw [Nat.add_sub_cancel' hshifted.1, mul_assoc, ← hscale]

lemma units_ofInt : (ofInt z h).units = z * scale := by
  rw [units, magnitude_ofInt, Nat.cast_mul]
  unfold ofInt
  split
  · rename_i hz
    subst hz
    rfl
  · dsimp only
    by_cases hneg : z < 0
    · rw [decide_eq_true hneg, if_pos rfl, Int.ofNat_natAbs_of_nonpos hneg.le, neg_mul, neg_neg]
    · rw [decide_eq_false hneg, if_neg Bool.false_ne_true,
        Int.natAbs_of_nonneg (Int.not_lt.mp hneg)]

lemma value_ofInt : (ofInt z h).value = z := value_eq_intCast_iff.mpr (units_ofInt h)

/-- An integer compares with a number that is one like the two integers. -/
lemma lt_ofInt {x : Binary64} {n : ℤ} (hx : x.isFinite = true) (hn : x.value = n) :
    x.lt (ofInt z h) = true ↔ n < z := by
  have hscale : (0 : ℤ) < scale := Int.natCast_pos.mpr scale_pos
  rw [lt_iff hx (isFinite_ofInt h), units_ofInt, value_eq_intCast_iff.mp hn]
  exact mul_lt_mul_iff_left₀ hscale

lemma ofInt_lt {x : Binary64} {n : ℤ} (hx : x.isFinite = true) (hn : x.value = n) :
    (ofInt z h).lt x = true ↔ z < n := by
  have hscale : (0 : ℤ) < scale := Int.natCast_pos.mpr scale_pos
  rw [lt_iff (isFinite_ofInt h) hx, units_ofInt, value_eq_intCast_iff.mp hn]
  exact mul_lt_mul_iff_left₀ hscale

end Binary64
