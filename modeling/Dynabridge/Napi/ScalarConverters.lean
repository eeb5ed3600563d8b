import Dynabridge.ErrorPolicy
import Dynabridge.Foundations.Binary64
import Dynabridge.Foundations.UnicodeText

/-!
# Conversion of JavaScript numbers and strings

`converter<int>::from` and `converter<unsigned>::from` read a number as a `double` and accept it
when it is an integer between the limits of the type; the cast that follows is undefined for any
other.  `converter<std::string>::from` asks for the size of a string first and copies it then into
a buffer with a place for the terminator.

The encodings of strings are the engine's; what the converters need of them are the fields of a
`StringEngine`.
-/

namespace Dynabridge.Napi

open Binary64 UnicodeText

/-- What the converters see of a JavaScript value. -/
inductive JsValue
  | number (x : Binary64)
  /-- a string, by its code units -/
  | string (units : List UInt16)
  | other
  deriving DecidableEq

/-! ## Numbers -/

/-- The limits of a type of 32 bits; both are numbers of a `double`. -/
structure Limits where
  low : ℤ
  high : ℤ
  exact_low : Exact low
  exact_high : Exact high

/-- `std::numeric_limits<int>` -/
def Limits.int : Limits := ⟨-2 ^ 31, 2 ^ 31 - 1, by decide, by decide⟩

/-- `0` and `std::numeric_limits<unsigned>::max()` -/
def Limits.unsigned : Limits := ⟨0, 2 ^ 32 - 1, by decide, by decide⟩

/-- `napi_get_value_double` -/
def JsValue.getDouble : JsValue → Option Binary64
  | number x => some x
  | _ => none

/-- The `static_cast` of a `double`; there is none when the integer in it is beyond the limits. -/
def Limits.cast (limits : Limits) (x : Binary64) : Option (BitVec 32) :=
  if x.isFinite = true ∧ limits.low ≤ x.toInt ∧ x.toInt ≤ limits.high then
    some (BitVec.ofInt 32 x.toInt)
  else none

/-- What `converter<int>::from` and `converter<unsigned>::from` do with the limits of their types.
There is no result when the cast is undefined. -/
def Limits.numberFrom (limits : Limits) (value : JsValue) : Option (Option (BitVec 32)) :=
  match value.getDouble with
  | none => some none
  | some x =>
    if !x.isFinite || !x.trunc.beq x || x.lt (ofInt limits.low limits.exact_low)
        || (ofInt limits.high limits.exact_high).lt x then
      some none
    else (limits.cast x).map some

/-- `converter<int>::from` -/
def intFrom (value : JsValue) : Option (Option (BitVec 32)) := Limits.int.numberFrom value

/-- `converter<unsigned>::from` -/
def unsignedFrom (value : JsValue) : Option (Option (BitVec 32)) :=
  Limits.unsigned.numberFrom value

lemma exact_toInt (n : BitVec 32) : Exact n.toInt := by
  have hlow := BitVec.le_two_mul_toInt (x := n)
  have hhigh := BitVec.two_mul_toInt_lt (x := n)
  unfold Exact
  omega

lemma exact_toNat (n : BitVec 32) : Exact (n.toNat : ℤ) := by
  have hlt := n.isLt
  unfold Exact
  omega

/-- `converter<int>::to`, with whether the call succeeds. -/
def intTo (created : Bool) (n : BitVec 32) : Except Raised JsValue :=
  if created then .ok (.number (ofInt n.toInt (exact_toInt n)))
  else .error (.stdException (ascii "napi_create_int32 failed"))

/-- `converter<unsigned>::to` -/
def unsignedTo (created : Bool) (n : BitVec 32) : Except Raised JsValue :=
  if created then .ok (.number (ofInt n.toNat (exact_toNat n)))
  else .error (.stdException (ascii "napi_create_uint32 failed"))

namespace Limits

variable (limits : Limits)

/-- The value of the type, if the integer lies between the limits. -/
def within (z : ℤ) : Option (BitVec 32) :=
  if limits.low ≤ z ∧ z ≤ limits.high then some (BitVec.ofInt 32 z) else none

/-- An integer is compared with the limits and cast. -/
lemma numberFrom_of_value {x : Binary64} {z : ℤ} (hx : x.isFinite = true) (hz : x.value = z) :
    limits.numberFrom (.number x) = some (limits.within z) := by
  have htrunc : x.trunc.beq x = true := (trunc_beq_iff hx).mpr ⟨z, hz⟩
  have hlow : x.lt (ofInt limits.low limits.exact_low) = decide (z < limits.low) := by
    rw [Bool.eq_iff_iff, decide_eq_true_iff]
    exact lt_ofInt limits.exact_low hx hz
  have hhigh : (ofInt limits.high limits.exact_high).lt x = decide (limits.high < z) := by
    rw [Bool.eq_iff_iff, decide_eq_true_iff]
    exact ofInt_lt limits.exact_high hx hz
  simp only [numberFrom, JsValue.getDouble, hx, htrunc, hlow, hhigh, within]
  by_cases hrange : limits.low ≤ z ∧ z ≤ limits.high
  · have hcast : limits.cast x = some (BitVec.ofInt 32 z) := by
      rw [cast, toInt_of_value hz, if_pos ⟨hx, hrange⟩]
    rw [if_pos hrange, hcast, if_neg]
    · rfl
    · simp only [Bool.not_true, Bool.false_or, Bool.or_eq_true, decide_eq_true_eq, not_or]
      omega
  · rw [if_neg hrange, if_pos]
    simp only [Bool.not_true, Bool.false_or, Bool.or_eq_true, decide_eq_true_eq]
    omega

/-- Nothing else is accepted. -/
lemma numberFrom_of_not_integer {x : Binary64} (h : ¬ (x.isFinite = true ∧ ∃ z : ℤ, x.value = z)) :
    limits.numberFrom (.number x) = some none := by
  simp only [numberFrom, JsValue.getDouble]
  rw [if_pos]
  rcases hfinite : x.isFinite with _ | _
  · rfl
  · have htrunc : x.trunc.beq x = false := by
      rw [← Bool.not_eq_true, trunc_beq_iff hfinite]
      exact fun hex => h ⟨hfinite, hex⟩
    rw [htrunc]
    rfl

lemma numberFrom_ne_none (value : JsValue) : limits.numberFrom value ≠ none := by
  cases value with
  | number x =>
    by_cases hinteger : x.isFinite = true ∧ ∃ z : ℤ, x.value = z
    · obtain ⟨hx, z, hz⟩ := hinteger
      rw [limits.numberFrom_of_value hx hz]
      exact Option.some_ne_none _
    · rw [limits.numberFrom_of_not_integer hinteger]
      exact Option.some_ne_none _
  | string units => exact Option.some_ne_none _
  | other => exact Option.some_ne_none _

/-- A number made from an integer between the limits is accepted as that integer. -/
lemma numberFrom_ofInt {z : ℤ} (h : Exact z) :
    limits.numberFrom (.number (ofInt z h)) = some (limits.within z) :=
  limits.numberFrom_of_value (isFinite_ofInt h) (value_ofInt h)

end Limits

lemma within_toInt (n : BitVec 32) : Limits.int.within n.toInt = some n := by
  have hlow := BitVec.le_two_mul_toInt (x := n)
  have hhigh := BitVec.two_mul_toInt_lt (x := n)
  rw [Limits.within, if_pos, BitVec.ofInt_toInt]
  unfold Limits.int
  dsimp only
  omega

lemma within_toNat (n : BitVec 32) : Limits.unsigned.within n.toNat = some n := by
  have hlt := n.isLt
  rw [Limits.within, if_pos, BitVec.ofInt_natCast, BitVec.ofNat_toNat, BitVec.setWidth_eq]
  unfold Limits.unsigned
  dsimp only
  omega

/-- For every JavaScript value the conversion is defined.  A number that is an integer between the
limits of the type is that integer, whatever the sign of a zero is; every other number, infinite
or NaN included, and every other value is refused.  What the backend makes of a native integer is
read back as the same integer. -/
theorem numbers_convert (limits : Limits) :
    (∀ value : JsValue, limits.numberFrom value ≠ none) ∧
    (∀ x : Binary64, limits.numberFrom (.number x) = some none ↔
      ¬ (x.isFinite = true ∧ ∃ z : ℤ, x.value = z ∧ limits.low ≤ z ∧ z ≤ limits.high)) ∧
    (∀ (x : Binary64) (z : ℤ), x.isFinite = true → x.value = z → limits.low ≤ z →
      z ≤ limits.high → limits.numberFrom (.number x) = some (some (BitVec.ofInt 32 z))) ∧
    (∀ value : JsValue, value.getDouble = none → limits.numberFrom value = some none) ∧
    (∀ n value, intTo true n = .ok value → intFrom value = some (some n)) ∧
    (∀ n value, unsignedTo true n = .ok value → unsignedFrom value = some (some n)) := by
  refine ⟨limits.numberFrom_ne_none, fun x => ⟨?_, ?_⟩, ?_, ?_, ?_, ?_⟩
  · rintro hnone ⟨hx, z, hz, hrange⟩
    rw [limits.numberFrom_of_value hx hz, Limits.within, if_pos hrange] at hnone
    cases hnone
  · intro h
    by_cases hinteger : x.isFinite = true ∧ ∃ z : ℤ, x.value = z
    · obtain ⟨hx, z, hz⟩ := hinteger
      rw [limits.numberFrom_of_value hx hz, Limits.within, if_neg]
      exact fun hrange => h ⟨hx, z, hz, hrange⟩
    · exact limits.numberFrom_of_not_integer hinteger
  · intro x z hx hz hlow hhigh
    rw [limits.numberFrom_of_value hx hz, Limits.within, if_pos ⟨hlow, hhigh⟩]
  · intro value hvalue
    rw [Limits.numberFrom, hvalue]
  · intro n value hvalue
    obtain rfl := Except.ok.inj hvalue
    exact (Limits.int.numberFrom_ofInt _).trans (congrArg some (within_toInt n))
  · intro n value hvalue
    obtain rfl := Except.ok.inj hvalue
    exact (Limits.unsigned.numberFrom_ofInt _).trans (congrArg some (within_toNat n))

/-- Negative zero is zero, and infinity is refused. -/
theorem numbers_convert_zero :
    intFrom (.number ⟨true, 0, 0, by decide, by decide⟩) = some (some 0) ∧
      unsignedFrom (.number ⟨false, 2047, 0, by decide, by decide⟩) = some none := by
  constructor
  · refine (numbers_convert Limits.int).2.2.1 _ 0 rfl ?_ (by decide) (by decide)
    rw [value_eq_intCast_iff, zero_mul]
    rfl
  · refine ((numbers_convert Limits.unsigned).2.1 _).mpr ?_
    rintro ⟨hfinite, -⟩
    cases hfinite

/-! ## Strings -/

/-- How an engine converts its strings: the UTF-8 of a string, the string of some bytes, and how
many bytes of a string it copies into a given room. -/
structure StringEngine where
  utf8 : List UInt16 → List UInt8
  utf16 : List UInt8 → List UInt16
  copied : List UInt16 → ℕ → ℕ
  utf8_utf16 : ∀ cs, utf8 (UnicodeText.utf16 cs) = UnicodeText.utf8 cs
  utf16_utf8 : ∀ cs, utf16 (UnicodeText.utf8 cs) = UnicodeText.utf16 cs
  copied_of_le : ∀ {units room}, (utf8 units).length ≤ room →
    copied units room = (utf8 units).length

/-- Which calls of `converter<std::string>::from` succeed, for a string. -/
structure StringCalls where
  typeof : Bool
  probe : Bool
  copy : Bool
  deriving DecidableEq

/-- `std::numeric_limits<std::size_t>::max()` -/
def sizeMax : ℕ := 2 ^ 64 - 1

/-- `std::string::resize` -/
def resize (size : ℕ) (text : List UInt8) : List UInt8 :=
  text.take size ++ List.replicate (size - text.length) 0

namespace StringEngine

variable (engine : StringEngine)

/-- `napi_get_value_string_utf8` with a buffer that is not empty: as many bytes as fit before the
terminator, and their number. -/
def getValueString (units : List UInt16) (buffer : List UInt8) : List UInt8 × ℕ :=
  let copied := engine.copied units (buffer.length - 1)
  ((engine.utf8 units).take copied ++ 0 :: buffer.drop (copied + 1), copied)

/-- `converter<std::string>::from` -/
def stringFrom (calls : StringCalls) (value : JsValue) :
    Except Raised (Option (List UInt8)) :=
  if !calls.typeof then
    .error (.stdException (ascii "napi_typeof failed during string conversion"))
  else
    match value with
    | .string units =>
      if !calls.probe then
        .error (.stdException (ascii "napi_get_value_string_utf8 size probe failed"))
      else
        let size := (engine.utf8 units).length
        if size = sizeMax then
          .error (.stdException (ascii "dynabridge N-API string is too large"))
        else if !calls.copy then
          .error (.stdException (ascii "napi_get_value_string_utf8 failed"))
        else
          let (result, copied) := engine.getValueString units (List.replicate (size + 1) 0)
          .ok (some (resize copied result))
    | _ => .ok none

/-- `converter<std::string>::to`, with whether the call succeeds. -/
def stringTo (created : Bool) (text : List UInt8) : Except Raised JsValue :=
  if created then .ok (.string (engine.utf16 text))
  else .error (.stdException (ascii "napi_create_string_utf8 failed"))

/-- The buffer has room for the whole string, and the terminator is cut off again. -/
lemma resize_getValueString (units : List UInt16) :
    let got := engine.getValueString units (List.replicate ((engine.utf8 units).length + 1) 0)
    resize got.2 got.1 = engine.utf8 units := by
  have hcopied : engine.copied units ((engine.utf8 units).length + 1 - 1) =
      (engine.utf8 units).length := engine.copied_of_le (Nat.le_refl _)
  simp only [getValueString, List.length_replicate, hcopied]
  rw [List.take_length, resize, List.take_left' rfl, Nat.sub_eq_zero_of_le]
  · rw [List.replicate_zero, List.append_nil]
  · rw [List.length_append]
    exact Nat.le_add_right _ _

/-- A string comes out whole, without its terminator. -/
lemma stringFrom_string {units : List UInt16} (h : (engine.utf8 units).length ≠ sizeMax) :
    engine.stringFrom ⟨true, true, true⟩ (.string units) = .ok (some (engine.utf8 units)) := by
  have hresize := engine.resize_getValueString units
  simp only [stringFrom, Bool.not_true, Bool.false_eq_true, if_false, if_neg h]
  rw [hresize]

end StringEngine

end Dynabridge.Napi
