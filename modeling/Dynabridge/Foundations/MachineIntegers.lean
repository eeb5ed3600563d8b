import Mathlib.Data.BitVec
import Mathlib.Algebra.Order.Ring.Nat

/-!
# Machine integers

A signed or unsigned word that was made from an integer compares, and is cast to other widths,
like the integer itself as long as the integer fits.
-/

namespace MachineIntegers

/-- A signed type of `w` bits holds the number. -/
def Fits (w : ℕ) (z : ℤ) : Prop := -(2 ^ w : ℕ) ≤ 2 * z ∧ 2 * z < (2 ^ w : ℕ)

/-- An unsigned type of `w` bits holds the number. -/
def UFits (w : ℕ) (z : ℤ) : Prop := 0 ≤ z ∧ z < (2 ^ w : ℕ)

instance (w : ℕ) (z : ℤ) : Decidable (Fits w z) := inferInstanceAs (Decidable (_ ∧ _))

instance (w : ℕ) (z : ℤ) : Decidable (UFits w z) := inferInstanceAs (Decidable (_ ∧ _))

variable {w v : ℕ} {a b z : ℤ}

lemma Fits.mono (h : Fits w z) (hle : w ≤ v) : Fits v z := by
  have hpow : 2 ^ w ≤ 2 ^ v := Nat.pow_le_pow_right (by decide) hle
  unfold Fits at *
  omega

lemma UFits.mono (h : UFits w z) (hle : w ≤ v) : UFits v z := by
  have hpow : 2 ^ w ≤ 2 ^ v := Nat.pow_le_pow_right (by decide) hle
  unfold UFits at *
  omega

/-- A word reads back as the signed number it was made from. -/
lemma toInt_ofInt (h : Fits w z) : (BitVec.ofInt w z).toInt = z := by
  rw [BitVec.toInt_ofInt]
  exact Int.bmod_eq_of_le_mul_two (by unfold Fits at h; omega) (by unfold Fits at h; omega)

/-- A word reads back as the unsigned number it was made from. -/
lemma toNat_ofInt (h : UFits w z) : ((BitVec.ofInt w z).toNat : ℤ) = z := by
  rw [BitVec.toNat_ofInt, Int.emod_eq_of_lt h.1 h.2, Int.toNat_of_nonneg h.1]

/-- A cast from a signed type is a cast of the number. -/
lemma signExtend_ofInt (h : Fits w z) : (BitVec.ofInt w z).signExtend v = BitVec.ofInt v z :=
  congrArg (BitVec.ofInt v) (toInt_ofInt h)

/-- A cast from an unsigned type is a cast of the number. -/
lemma setWidth_ofInt (h : UFits w z) : (BitVec.ofInt w z).setWidth v = BitVec.ofInt v z := by
  obtain ⟨n, rfl⟩ := Int.eq_ofNat_of_zero_le h.1
  have hlt : n < 2 ^ w := Int.ofNat_lt.mp h.2
  rw [BitVec.ofInt_natCast, BitVec.ofInt_natCast]
  refine BitVec.eq_of_toNat_eq ?_
  rw [BitVec.toNat_setWidth, BitVec.toNat_ofNat, BitVec.toNat_ofNat, Nat.mod_eq_of_lt hlt]

/-- Signed comparison. -/
lemma slt_ofInt (ha : Fits w a) (hb : Fits w b) :
    (BitVec.ofInt w a).slt (BitVec.ofInt w b) = decide (a < b) := by
  rw [BitVec.slt_eq_decide, toInt_ofInt ha, toInt_ofInt hb]

/-- Unsigned comparison. -/
lemma ult_ofInt (ha : UFits w a) (hb : UFits w b) :
    (BitVec.ofInt w a).ult (BitVec.ofInt w b) = decide (a < b) := by
  rw [BitVec.ult_eq_decide]
  refine decide_eq_decide.mpr ?_
  rw [← Int.ofNat_lt, toNat_ofInt ha, toNat_ofInt hb]

end MachineIntegers
