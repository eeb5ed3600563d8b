import Dynabridge.Foundations.MachineIntegers
import Dynabridge.Python.Interpreter
import Mathlib.Data.Nat.Digits.Lemmas

/-!
# Conversion of Python integers

`converter<int>::from` and `converter<unsigned>::from` read small integers out of the object and
ask the interpreter for the others.  A `Platform` says how wide the types are that the two paths
compare in, and which of them a build has.
-/

namespace Dynabridge.Python

open MachineIntegers

/-! ## Platforms and objects -/

/-- How `compact_long_value` gets at the value of an integer. -/
inductive LongApi
  /-- `PyUnstable_Long_IsCompact`, from 3.12 on -/
  | unstable
  /-- `Py_SIZE` and `ob_digit` -/
  | digits
  /-- not at all, in the limited API and on PyPy -/
  | absent
  deriving DecidableEq

/-- The widths of `long` and of `Py_ssize_t`, and the digits that integers are made of. -/
structure Platform where
  longBits : ℕ
  ssizeBits : ℕ
  digitBits : ℕ
  api : LongApi
  intFitsLong : 32 ≤ longBits := by decide
  intFitsSsize : 32 ≤ ssizeBits := by decide
  digitPos : 0 < digitBits := by decide
  digitFitsSsize : digitBits < ssizeBits := by decide

/-- What the converters see of a Python object. -/
inductive PyValue
  /-- an `int` or an instance of a subclass of it -/
  | int (exact : Bool) (value : ℤ)
  | other
  deriving DecidableEq

def intMin : ℤ := -2 ^ 31

def intMax : ℤ := 2 ^ 31 - 1

def uintMax : ℤ := 2 ^ 32 - 1

namespace Platform

/-! ## The interpreter's integers -/

/-- The digits of an integer, the least significant first. -/
def digitsOf (p : Platform) (value : ℤ) : List ℕ := Nat.digits (2 ^ p.digitBits) value.natAbs

/-- `Py_SIZE` of an integer: the number of its digits, with its sign. -/
def pySize (p : Platform) (value : ℤ) : ℤ := value.sign * (p.digitsOf value).length

/-- `ob_digit[0]` -/
def obDigit (p : Platform) (value : ℤ) : ℕ := (p.digitsOf value).headD 0

/-- `PyLong_AsLongAndOverflow`: the result and the overflow indicator. -/
def asLongAndOverflow (p : Platform) (value : ℤ) : BitVec p.longBits × ℤ :=
  if Fits p.longBits value then (BitVec.ofInt _ value, 0)
  else (BitVec.ofInt _ (-1), value.sign)

/-- `PyLong_AsUnsignedLong`, where `overflowError` is the error it raises for a value. -/
def asUnsignedLong (p : Platform) (overflowError : ℤ → PendingError) (value : ℤ) (w : World) :
    BitVec p.longBits × World :=
  if UFits p.longBits value then (BitVec.ofInt _ value, w)
  else (BitVec.ofInt _ (-1), w.pyErrSet (overflowError value))

/-! ## The converters -/

/-- `compact_long_value` -/
def compactLongValue (p : Platform) : PyValue → Option (BitVec p.ssizeBits)
  | .int true value =>
    match p.api with
    | .unstable =>
      if (p.digitsOf value).length ≤ 1 then some (BitVec.ofInt _ value) else none
    | .digits =>
      let size := p.pySize value
      if -1 ≤ size ∧ size ≤ 1 then
        some (if size = 0 then 0
          else if 0 < size then BitVec.ofNat _ (p.obDigit value)
          else -BitVec.ofNat _ (p.obDigit value))
      else none
    | .absent => none
  | _ => none

/-- The comparisons with the limits of `int` in a wider signed type, and the cast. -/
def narrowToInt {w : ℕ} (value : BitVec w) : Option (BitVec 32) :=
  if value.slt (BitVec.ofInt w intMin) || (BitVec.ofInt w intMax).slt value then none
  else some (value.signExtend 32)

/-- `converter<int>::from` -/
def intFrom (p : Platform) (object : PyValue) (w : World) : Option (BitVec 32) × World :=
  match p.compactLongValue object with
  | some compact => (narrowToInt compact, w)
  | none =>
    match object with
    | .other => (none, w)
    | .int _ value =>
      let (result, overflow) := p.asLongAndOverflow value
      if overflow ≠ 0 ∨ w.pending.isSome then (none, w.pyErrClear)
      else (narrowToInt result, w)

/-- `converter<unsigned>::from` -/
def unsignedFrom (p : Platform) (overflowError : ℤ → PendingError) (object : PyValue)
    (w : World) : Option (BitVec 32) × World :=
  match p.compactLongValue object with
  | some compact =>
    -- the cast to `unsigned long` loses the upper half where `long` is narrower
    if compact.slt 0 || (BitVec.ofInt p.longBits uintMax).ult (compact.signExtend p.longBits)
    then (none, w)
    else (some (compact.signExtend 32), w)
  | none =>
    match object with
    | .other => (none, w)
    | .int _ value =>
      let (result, w) := p.asUnsignedLong overflowError value w
      if w.pending.isSome then (none, w.pyErrClear)
      else if (BitVec.ofInt p.longBits uintMax).ult result then (none, w)
      else (some (result.setWidth 32), w)

/-! ## The compact path -/

/-- The integers whose value `compact_long_value` reads, if their type is exactly `int`: those of
at most one digit. -/
def Compact (p : Platform) (value : ℤ) : Prop :=
  p.api ≠ .absent ∧ value.natAbs < 2 ^ p.digitBits

lemma length_digitsOf_le_one (p : Platform) (value : ℤ) :
    (p.digitsOf value).length ≤ 1 ↔ value.natAbs < 2 ^ p.digitBits := by
  have hbase : 1 < 2 ^ p.digitBits := Nat.one_lt_two_pow p.digitPos.ne'
  rw [digitsOf, Nat.digits_length_le_iff hbase, pow_one]

/-- `Py_SIZE` tells in its magnitude how many digits there are. -/
lemma pySize_small_iff (p : Platform) (value : ℤ) :
    -1 ≤ p.pySize value ∧ p.pySize value ≤ 1 ↔ (p.digitsOf value).length ≤ 1 := by
  unfold pySize
  rcases lt_trichotomy value 0 with hneg | rfl | hpos
  · rw [Int.sign_eq_neg_one_of_neg hneg]
    omega
  · simp [digitsOf]
  · rw [Int.sign_eq_one_of_pos hpos]
    omega

/-- The first digit with the sign of `Py_SIZE` is the value of an integer of one digit. -/
lemma signedDigit_eq {p : Platform} {value : ℤ} (h : value.natAbs < 2 ^ p.digitBits) :
    (if p.pySize value = 0 then 0
      else if 0 < p.pySize value then BitVec.ofNat p.ssizeBits (p.obDigit value)
      else -BitVec.ofNat p.ssizeBits (p.obDigit value)) = BitVec.ofInt p.ssizeBits value := by
  rcases eq_or_ne value 0 with rfl | hne
  · simp [pySize]
  have hdigits : p.digitsOf value = [value.natAbs] :=
    Nat.digits_of_lt _ _ (Int.natAbs_ne_zero.mpr hne) h
  have hdigit : p.obDigit value = value.natAbs := by rw [obDigit, hdigits, List.headD_cons]
  have hsize : p.pySize value = value.sign := by
    rw [pySize, hdigits, List.length_singleton, Nat.cast_one, mul_one]
  rw [hdigit, hsize]
  rcases lt_or_gt_of_ne hne with hneg | hpos
  · have habs : ((value.natAbs : ℕ) : ℤ) = -value := by omega
    rw [Int.sign_eq_neg_one_of_neg hneg, if_neg (by decide), if_neg (by decide),
      ← BitVec.ofInt_natCast, habs, BitVec.ofInt_neg, neg_neg]
  · have habs : ((value.natAbs : ℕ) : ℤ) = value := by omega
    rw [Int.sign_eq_one_of_pos hpos, if_neg (by decide), if_pos (by decide),
      ← BitVec.ofInt_natCast, habs]

/-- Whichever way a build reads compact integers, it reads their value. -/
lemma compactLongValue_of_compact {p : Platform} {value : ℤ} (h : p.Compact value) :
    p.compactLongValue (.int true value) = some (BitVec.ofInt _ value) := by
  obtain ⟨hapi, habs⟩ := h
  have hlength := (p.length_digitsOf_le_one value).mpr habs
  unfold compactLongValue
  cases hp : p.api with
  | unstable => simp only [if_pos hlength]
  | digits => simp only [if_pos ((p.pySize_small_iff value).mpr hlength), signedDigit_eq habs]
  | absent => exact absurd hp hapi

/-- Integers of more than one digit, and all of them on a build without access, take the general
path. -/
lemma compactLongValue_of_not_compact {p : Platform} {value : ℤ} (h : ¬ p.Compact value) :
    p.compactLongValue (.int true value) = none := by
  unfold compactLongValue
  cases hp : p.api with
  | absent => rfl
  | unstable =>
    have hlength : ¬ (p.digitsOf value).length ≤ 1 := fun hle =>
      h ⟨by rw [hp]; decide, (p.length_digitsOf_le_one value).mp hle⟩
    simp only [if_neg hlength]
  | digits =>
    have hlength : ¬ (p.digitsOf value).length ≤ 1 := fun hle =>
      h ⟨by rw [hp]; decide, (p.length_digitsOf_le_one value).mp hle⟩
    simp only [if_neg (mt (p.pySize_small_iff value).mp hlength)]

/-- `compact_long_value` takes no subclass. -/
lemma compactLongValue_subclass (p : Platform) (value : ℤ) :
    p.compactLongValue (.int false value) = none := rfl

/-- A compact value fits into `Py_ssize_t`. -/
lemma Compact.fits {p : Platform} {value : ℤ} (h : p.Compact value) :
    Fits p.ssizeBits value := by
  have hpow : 2 * 2 ^ p.digitBits ≤ 2 ^ p.ssizeBits := by
    rw [← Nat.pow_succ']
    exact Nat.pow_le_pow_right (by decide) p.digitFitsSsize
  have habs := h.2
  unfold Fits
  omega

/-! ## What the converters return -/

/-- The value of a 32-bit type, if it lies between the limits. -/
def within (low high value : ℤ) : Option (BitVec 32) :=
  if low ≤ value ∧ value ≤ high then some (BitVec.ofInt 32 value) else none

lemma map_toInt_within (value : ℤ) :
    (within intMin intMax value).map BitVec.toInt =
      if intMin ≤ value ∧ value ≤ intMax then some value else none := by
  unfold within
  split
  · rename_i h
    have hfits : Fits 32 value := by
      unfold Fits intMin intMax at *
      omega
    rw [Option.map_some, toInt_ofInt hfits]
  · rfl

lemma map_toNat_within (value : ℤ) :
    (within 0 uintMax value).map (fun x => (x.toNat : ℤ)) =
      if 0 ≤ value ∧ value ≤ uintMax then some value else none := by
  unfold within
  split
  · rename_i h
    have hfits : UFits 32 value := by
      unfold UFits
      unfold uintMax at h
      omega
    rw [Option.map_some, toNat_ofInt hfits]
  · rfl

lemma fits_intMin : Fits 32 intMin := by decide

lemma fits_intMax : Fits 32 intMax := by decide

lemma uFits_uintMax : UFits 32 uintMax := by decide

/-- The comparisons decide in every wider type whether the value is one of `int`. -/
lemma narrowToInt_ofInt {w : ℕ} {value : ℤ} (hw : 32 ≤ w) (h : Fits w value) :
    narrowToInt (BitVec.ofInt w value) = within intMin intMax value := by
  unfold narrowToInt within
  rw [slt_ofInt h (fits_intMin.mono hw), slt_ofInt (fits_intMax.mono hw) h, signExtend_ofInt h]
  by_cases hrange : intMin ≤ value ∧ value ≤ intMax
  · rw [if_pos hrange, if_neg]
    simp only [Bool.or_eq_true, decide_eq_true_eq]
    omega
  · rw [if_neg hrange, if_pos]
    simp only [Bool.or_eq_true, decide_eq_true_eq]
    omega

/-- What does not even fit into `long` is no value of `int`. -/
lemma within_int_of_not_fits {w : ℕ} {value : ℤ} (hw : 32 ≤ w) (h : ¬ Fits w value) :
    within intMin intMax value = none := by
  refine if_neg fun hrange => h (Fits.mono ?_ hw)
  unfold Fits
  unfold intMin intMax at hrange
  omega

/-- What does not even fit into `unsigned long` is no value of `unsigned`. -/
lemma within_unsigned_of_not_fits {w : ℕ} {value : ℤ} (hw : 32 ≤ w) (h : ¬ UFits w value) :
    within 0 uintMax value = none := by
  refine if_neg fun hrange => h (UFits.mono ?_ hw)
  unfold UFits
  unfold uintMax at hrange
  omega

section

variable (p : Platform) (overflowError : ℤ → PendingError) (w : World) {value : ℤ}

lemma intFrom_of_compact (h : p.Compact value) :
    p.intFrom (.int true value) w = (within intMin intMax value, w) := by
  rw [intFrom, compactLongValue_of_compact h]
  simp only [narrowToInt_ofInt p.intFitsSsize h.fits]

/-- The general path of `converter<int>::from`. -/
lemma intFrom_of_general {exact : Bool}
    (h : p.compactLongValue (.int exact value) = none) :
    p.intFrom (.int exact value) w =
      if w.pending = none ∧ Fits p.longBits value then (within intMin intMax value, w)
      else (none, w.pyErrClear) := by
  rw [intFrom, h]
  simp only [asLongAndOverflow]
  by_cases hfits : Fits p.longBits value
  · simp only [if_pos hfits, narrowToInt_ofInt p.intFitsLong hfits]
    cases w.pending <;> simp [hfits]
  · have hsign : value.sign ≠ 0 := by
      rw [ne_eq, Int.sign_eq_zero_iff_zero]
      rintro rfl
      exact hfits ((by decide : Fits 32 0).mono p.intFitsLong)
    simp [hfits, hsign]

/-- The comparisons of the compact path decide whether the value is one of `unsigned` as long as
the cast to `unsigned long` keeps compact values. -/
lemma unsignedFrom_of_compact (h : p.Compact value) (hdigit : p.digitBits ≤ p.longBits) :
    p.unsignedFrom overflowError (.int true value) w = (within 0 uintMax value, w) := by
  have hzero : (0 : BitVec p.ssizeBits) = BitVec.ofInt p.ssizeBits 0 := rfl
  have hfits0 : Fits p.ssizeBits 0 := (by decide : Fits 32 0).mono p.intFitsSsize
  rw [unsignedFrom, compactLongValue_of_compact h]
  simp only [hzero, slt_ofInt h.fits hfits0, signExtend_ofInt h.fits]
  by_cases hneg : value < 0
  · have hout : ¬ (0 ≤ value ∧ value ≤ uintMax) := by omega
    simp [hneg, within, hout]
  · have hlong : UFits p.longBits value := by
      have hpow : 2 ^ p.digitBits ≤ 2 ^ p.longBits := Nat.pow_le_pow_right (by decide) hdigit
      have habs := h.2
      unfold UFits
      omega
    rw [ult_ofInt (uFits_uintMax.mono p.intFitsLong) hlong]
    by_cases hlarge : uintMax < value
    · have hout : ¬ (0 ≤ value ∧ value ≤ uintMax) := by omega
      simp [hlarge, within, hout]
    · have hin : 0 ≤ value ∧ value ≤ uintMax := by omega
      simp [hneg, hlarge, within, hin]

/-- The general path of `converter<unsigned>::from`. -/
lemma unsignedFrom_of_general {exact : Bool}
    (h : p.compactLongValue (.int exact value) = none) :
    p.unsignedFrom overflowError (.int exact value) w =
      if UFits p.longBits value then
        if w.pending = none then (within 0 uintMax value, w) else (none, w.pyErrClear)
      else (none, (w.pyErrSet (overflowError value)).pyErrClear) := by
  rw [unsignedFrom, h]
  simp only [asUnsignedLong]
  by_cases hfits : UFits p.longBits value
  · simp only [if_pos hfits, ult_ofInt (uFits_uintMax.mono p.intFitsLong) hfits,
      setWidth_ofInt hfits]
    rcases hpending : w.pending with _ | e
    · by_cases hlarge : uintMax < value
      · have hout : ¬ (0 ≤ value ∧ value ≤ uintMax) := by omega
        simp [hlarge, within, hout]
      · have hin : 0 ≤ value ∧ value ≤ uintMax := ⟨hfits.1, by omega⟩
        simp [hlarge, within, hin]
    · simp
  · simp only [if_neg hfits]
    rfl

end

/-- The converters read the integer out of the object. -/
def ReadsCompact (p : Platform) (exact : Bool) (value : ℤ) : Prop :=
  exact = true ∧ p.Compact value

lemma compactLongValue_of_not_readsCompact {p : Platform} {exact : Bool} {value : ℤ}
    (h : ¬ p.ReadsCompact exact value) : p.compactLongValue (.int exact value) = none := by
  cases exact with
  | false => exact p.compactLongValue_subclass value
  | true => exact compactLongValue_of_not_compact fun hcompact => h ⟨rfl, hcompact⟩

/-- With no error pending, or on the compact path, `converter<int>::from` tells whether the value
is one of `int`, and leaves the indicator as it was. -/
lemma intFrom_eq (p : Platform) {exact : Bool} {value : ℤ} {w : World}
    (h : w.pending = none ∨ p.ReadsCompact exact value) :
    (p.intFrom (.int exact value) w).1 = within intMin intMax value ∧
      (p.intFrom (.int exact value) w).2.pending = w.pending := by
  by_cases hcompact : p.ReadsCompact exact value
  · obtain ⟨rfl, hcompact⟩ := hcompact
    rw [intFrom_of_compact p w hcompact]
    exact ⟨rfl, rfl⟩
  · have hpending := h.resolve_right hcompact
    rw [intFrom_of_general p w (compactLongValue_of_not_readsCompact hcompact)]
    by_cases hfits : Fits p.longBits value
    · rw [if_pos ⟨hpending, hfits⟩]
      exact ⟨rfl, rfl⟩
    · rw [if_neg fun hand => hfits hand.2, within_int_of_not_fits p.intFitsLong hfits]
      exact ⟨rfl, hpending.symm⟩

/-- The same of `converter<unsigned>::from`, where `long` holds every digit. -/
lemma unsignedFrom_eq (p : Platform) (overflowError : ℤ → PendingError) {exact : Bool}
    {value : ℤ} {w : World} (h : w.pending = none ∨ p.ReadsCompact exact value)
    (hdigit : p.digitBits ≤ p.longBits) :
    (p.unsignedFrom overflowError (.int exact value) w).1 = within 0 uintMax value ∧
      (p.unsignedFrom overflowError (.int exact value) w).2.pending = w.pending := by
  by_cases hcompact : p.ReadsCompact exact value
  · obtain ⟨rfl, hcompact⟩ := hcompact
    rw [unsignedFrom_of_compact p overflowError w hcompact hdigit]
    exact ⟨rfl, rfl⟩
  · have hpending := h.resolve_right hcompact
    rw [unsignedFrom_of_general p overflowError w
      (compactLongValue_of_not_readsCompact hcompact)]
    by_cases hfits : UFits p.longBits value
    · rw [if_pos hfits, if_pos hpending]
      exact ⟨rfl, rfl⟩
    · rw [if_neg hfits, within_unsigned_of_not_fits p.intFitsLong hfits]
      exact ⟨rfl, hpending.symm⟩

/-- On the general path an error that was pending before is taken for one of the conversion. -/
lemma from_of_pending (p : Platform) (overflowError : ℤ → PendingError) {exact : Bool}
    {value : ℤ} {w : World} (hpending : w.pending ≠ none) (h : ¬ p.ReadsCompact exact value) :
    (p.intFrom (.int exact value) w).1 = none ∧
      (p.intFrom (.int exact value) w).2.pending = none ∧
      (p.unsignedFrom overflowError (.int exact value) w).1 = none ∧
      (p.unsignedFrom overflowError (.int exact value) w).2.pending = none := by
  have hgeneral := compactLongValue_of_not_readsCompact h
  rw [intFrom_of_general p w hgeneral, unsignedFrom_of_general p overflowError w hgeneral,
    if_neg fun hand => hpending hand.1, if_neg hpending]
  refine ⟨rfl, rfl, ?_, ?_⟩ <;> split <;> rfl

/-- No conversion leaves an error behind where none was pending, on any platform. -/
lemma pending_unsignedFrom (p : Platform) (overflowError : ℤ → PendingError) {exact : Bool}
    {value : ℤ} {w : World} (hpending : w.pending = none) :
    (p.unsignedFrom overflowError (.int exact value) w).2.pending = none := by
  unfold unsignedFrom
  split
  · split <;> exact hpending
  · simp only [asUnsignedLong]
    by_cases hfits : UFits p.longBits value
    · simp only [if_pos hfits, hpending, Option.isSome_none, Bool.false_eq_true, if_false]
      split <;> exact hpending
    · simp only [if_neg hfits]
      rfl

/-- For every Python integer, with no error pending before the call, both converters return the
value if it lies between the limits of their type and nothing otherwise, and leave no error
behind; the compact path does so with an error pending as well, and leaves it.  Two calls agree
whatever the platforms, the types of the objects and the paths are.  The general path clears an
error that was pending before and returns nothing.  All of this is for a `long` that holds every
digit, where it is about `unsigned`. -/
theorem from_int (overflowError : ℤ → PendingError) (p : Platform) (exact : Bool) (value : ℤ)
    (w : World) :
    (w.pending = none ∨ p.ReadsCompact exact value →
      (p.intFrom (.int exact value) w).1.map BitVec.toInt =
          (if intMin ≤ value ∧ value ≤ intMax then some value else none) ∧
        (p.intFrom (.int exact value) w).2.pending = w.pending ∧
        (p.digitBits ≤ p.longBits →
          (p.unsignedFrom overflowError (.int exact value) w).1.map (fun x => (x.toNat : ℤ)) =
              (if 0 ≤ value ∧ value ≤ uintMax then some value else none) ∧
            (p.unsignedFrom overflowError (.int exact value) w).2.pending = w.pending) ∧
        ∀ (p' : Platform) (exact' : Bool) (w' : World),
          w'.pending = none ∨ p'.ReadsCompact exact' value →
          (p'.intFrom (.int exact' value) w').1 = (p.intFrom (.int exact value) w).1 ∧
          (p.digitBits ≤ p.longBits → p'.digitBits ≤ p'.longBits →
            (p'.unsignedFrom overflowError (.int exact' value) w').1 =
              (p.unsignedFrom overflowError (.int exact value) w).1)) ∧
    (w.pending = none →
      (p.unsignedFrom overflowError (.int exact value) w).2.pending = none) ∧
    (w.pending ≠ none → ¬ p.ReadsCompact exact value →
      (p.intFrom (.int exact value) w).1 = none ∧
        (p.intFrom (.int exact value) w).2.pending = none ∧
        (p.unsignedFrom overflowError (.int exact value) w).1 = none ∧
        (p.unsignedFrom overflowError (.int exact value) w).2.pending = none) := by
  refine ⟨fun h => ?_, pending_unsignedFrom p overflowError, from_of_pending p overflowError⟩
  obtain ⟨hint, hintPending⟩ := p.intFrom_eq h
  refine ⟨?_, hintPending, fun hdigit => ?_, fun p' exact' w' h' => ⟨?_, fun hdigit hdigit' => ?_⟩⟩
  · rw [hint, map_toInt_within]
  · obtain ⟨hunsigned, hunsignedPending⟩ := p.unsignedFrom_eq overflowError h hdigit
    rw [hunsigned, map_toNat_within]
    exact ⟨rfl, hunsignedPending⟩
  · rw [hint, (p'.intFrom_eq h').1]
  · rw [(p.unsignedFrom_eq overflowError h hdigit).1,
      (p'.unsignedFrom_eq overflowError h' hdigit').1]

/-- A 64-bit platform whose `long` has 32 bits and whose integers have digits of 60 bits. -/
def wideDigits : Platform := { longBits := 32, ssizeBits := 64, digitBits := 60, api := .unstable }

/-- A 64-bit platform of today. -/
def usual : Platform := { longBits := 64, ssizeBits := 64, digitBits := 30, api := .unstable }

/-- With no error pending, the cast to a `long` that does not hold every digit makes zero of
`2 ^ 32`; and on a usual platform an error that is pending makes nothing of an instance of a
subclass whose value is five, and is cleared. -/
theorem from_not_exact :
    (wideDigits.unsignedFrom (fun _ => noMemory) (.int true (2 ^ 32)) ⟨none, 0, [], []⟩).1 =
        some 0 ∧
      (usual.intFrom (.int false 5) ⟨some noMemory, 0, [], []⟩).1 = none ∧
      (usual.intFrom (.int false 5) ⟨some noMemory, 0, [], []⟩).2.pending = none := by
  refine ⟨?_, rfl, rfl⟩
  have hcompact : wideDigits.Compact (2 ^ 32) := ⟨by decide, by decide⟩
  rw [unsignedFrom, compactLongValue_of_compact hcompact]
  rfl

end Platform

end Dynabridge.Python
