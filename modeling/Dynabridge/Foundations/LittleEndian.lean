import Mathlib.Data.Nat.Digits.Lemmas
import Mathlib.Tactic

/-!
# Fixed-width little-endian byte strings

`littleEndian width n` is the list of the `width` low bytes of `n`, least significant
first, and `ofLittleEndian` is the number a byte list denotes.  The two are mutually
inverse on numbers below `256 ^ width` and on byte lists of length `width`.

A decoder usually assembles the number by a loop of shifts and disjunctions;
`orLoop_eq_ofLittleEndian` identifies that loop with `ofLittleEndian`.  The positional
value itself is Mathlib's `Nat.ofDigits`.
-/

namespace LittleEndian

/-- The `width` low bytes of `n`, least significant byte first. -/
def littleEndian (width n : ℕ) : List UInt8 :=
  (List.range width).map fun i => UInt8.ofNat (n >>> (i * 8))

/-- The number denoted by a byte list, least significant byte first. -/
def ofLittleEndian (bytes : List UInt8) : ℕ :=
  Nat.ofDigits 256 (bytes.map UInt8.toNat)

/-- A fixed-width encoding has exactly its width. -/
@[simp] lemma length_littleEndian (width n : ℕ) : (littleEndian width n).length = width := by
  simp [littleEndian]

/-- The encoding of width zero is empty. -/
@[simp] lemma littleEndian_zero (n : ℕ) : littleEndian 0 n = [] := rfl

/-- The encoding starts with the low byte and continues with the remaining ones. -/
lemma littleEndian_succ (width n : ℕ) :
    littleEndian (width + 1) n = UInt8.ofNat n :: littleEndian width (n / 256) := by
  rw [littleEndian, List.range_succ_eq_map, List.map_cons, List.map_map]
  refine congrArg₂ List.cons (by simp) (List.map_congr_left fun i _ => ?_)
  have hshift : n >>> ((i + 1) * 8) = (n / 256) >>> (i * 8) := by
    rw [Nat.add_mul, Nat.add_comm, Nat.shiftRight_add, Nat.shiftRight_eq_div_pow n]
  simp [Function.comp, hshift]

/-- The empty byte list denotes zero. -/
@[simp] lemma ofLittleEndian_nil : ofLittleEndian [] = 0 := rfl

/-- The first byte of a list is the low digit of the number. -/
lemma ofLittleEndian_cons (b : UInt8) (bytes : List UInt8) :
    ofLittleEndian (b :: bytes) = b.toNat + 256 * ofLittleEndian bytes := by
  simp [ofLittleEndian, Nat.ofDigits_cons]

/-- Appending one byte adds it at the next position. -/
lemma ofLittleEndian_concat (bytes : List UInt8) (b : UInt8) :
    ofLittleEndian (bytes ++ [b]) = ofLittleEndian bytes + 256 ^ bytes.length * b.toNat := by
  simp [ofLittleEndian, Nat.ofDigits_append]

/-- A byte list of length `k` denotes a number below `256 ^ k`. -/
lemma ofLittleEndian_lt (bytes : List UInt8) : ofLittleEndian bytes < 256 ^ bytes.length := by
  have hdigit : ∀ d ∈ bytes.map UInt8.toNat, d < 256 := by
    intro d hd
    obtain ⟨b, -, rfl⟩ := List.mem_map.mp hd
    exact b.toNat_lt
  simpa [ofLittleEndian] using Nat.ofDigits_lt_base_pow_length (by norm_num) hdigit

/-- Decoding inverts encoding on the numbers the width can hold. -/
theorem ofLittleEndian_littleEndian {width n : ℕ} (h : n < 256 ^ width) :
    ofLittleEndian (littleEndian width n) = n := by
  induction width generalizing n with
  | zero =>
    have hn : n = 0 := by simpa using h
    simp [hn]
  | succ width ih =>
    have hrest : n / 256 < 256 ^ width := by
      rw [Nat.div_lt_iff_lt_mul (by norm_num), ← pow_succ]
      exact h
    rw [littleEndian_succ, ofLittleEndian_cons, ih hrest, UInt8.toNat_ofNat']
    exact Nat.mod_add_div n 256

/-- Encoding inverts decoding at the length of the byte list. -/
theorem littleEndian_ofLittleEndian (bytes : List UInt8) :
    littleEndian bytes.length (ofLittleEndian bytes) = bytes := by
  induction bytes with
  | nil => rfl
  | cons b bytes ih =>
    have hlow : UInt8.ofNat (b.toNat + 256 * ofLittleEndian bytes) = b := by
      apply UInt8.toNat_inj.mp
      rw [UInt8.toNat_ofNat']
      have := b.toNat_lt
      omega
    have hhigh : (b.toNat + 256 * ofLittleEndian bytes) / 256 = ofLittleEndian bytes := by
      have := b.toNat_lt
      omega
    rw [List.length_cons, littleEndian_succ, ofLittleEndian_cons, hlow, hhigh, ih]

/-- The byte list is the encoding of the number it denotes, and of no other number. -/
lemma ofLittleEndian_eq_iff {width n : ℕ} {bytes : List UInt8} (hlen : bytes.length = width)
    (hn : n < 256 ^ width) : ofLittleEndian bytes = n ↔ bytes = littleEndian width n := by
  subst hlen
  constructor
  · rintro rfl
    exact (littleEndian_ofLittleEndian bytes).symm
  · intro h
    rw [h, ofLittleEndian_littleEndian hn]

/-- The assembly loop of a little-endian reader: byte `i` of the input is shifted to its
position and joined to the result. -/
def orLoop (bytes : List UInt8) (width : ℕ) : ℕ :=
  (List.range width).foldl (fun result i => result ||| (bytes.getD i 0).toNat <<< (i * 8)) 0

/-- Joining a byte above the bits assembled so far is an addition. -/
lemma or_shiftLeft_eq_add {low width : ℕ} (byte : ℕ) (hlow : low < 256 ^ width) :
    low ||| byte <<< (width * 8) = low + 256 ^ width * byte := by
  have hpow : (256 : ℕ) ^ width = 2 ^ (width * 8) := by
    rw [Nat.mul_comm, pow_mul]
    norm_num
  rw [hpow] at hlow ⊢
  rw [Nat.or_comm, ← Nat.shiftLeft_add_eq_or_of_lt hlow, Nat.shiftLeft_eq]
  ring

/-- The assembly loop computes the number its bytes denote. -/
theorem orLoop_eq_ofLittleEndian {bytes : List UInt8} {width : ℕ} (h : width ≤ bytes.length) :
    orLoop bytes width = ofLittleEndian (bytes.take width) := by
  induction width with
  | zero => simp [orLoop]
  | succ width ih =>
    have hlt : width < bytes.length := h
    have hlen : (bytes.take width).length = width := List.length_take_of_le hlt.le
    have hlow : ofLittleEndian (bytes.take width) < 256 ^ width := by
      have hb := ofLittleEndian_lt (bytes.take width)
      rwa [hlen] at hb
    have hbyte : bytes.getD width 0 = bytes[width] := by simp [hlt]
    calc orLoop bytes (width + 1)
        = orLoop bytes width ||| (bytes.getD width 0).toNat <<< (width * 8) := by
          simp [orLoop, List.range_succ]
      _ = ofLittleEndian (bytes.take width) + 256 ^ width * bytes[width].toNat := by
          rw [ih hlt.le, hbyte, or_shiftLeft_eq_add _ hlow]
      _ = ofLittleEndian (bytes.take (width + 1)) := by
          rw [List.take_succ_eq_append_getElem hlt, ofLittleEndian_concat, hlen]

end LittleEndian
