import Mathlib.Tactic

/-!
# Dynamic RPC values

`rpc::value` is a tagged value with private fields that only its factories fill in, so a
value of the class is one of the forms the factories build.  `Value` has one constructor for
each of them; `bits` and `stringData` are what the class keeps in `bits_` and in the owned or
borrowed text.

A `double` is represented by its 64-bit pattern: the class only copies it with `memcpy`.
A borrowed string is represented by the bytes it refers to.
-/

namespace Dynabridge.Rpc

/-- `value_kind`, in the order of its enumerators. -/
inductive ValueKind
  | undefined
  | signedInteger
  | unsignedInteger
  | real
  | boolean
  | string
  deriving DecidableEq, Repr

/-- The underlying integer of a kind. -/
def ValueKind.toNat : ValueKind → ℕ
  | undefined => 0
  | signedInteger => 1
  | unsignedInteger => 2
  | real => 3
  | boolean => 4
  | string => 5

/-- `rpc::value`, with one constructor for each factory. -/
inductive Value
  | undefined
  | signedInteger (number : Int64)
  | unsignedInteger (number : UInt64)
  | real (bits : UInt64)
  | boolean (state : Bool)
  | string (text : List UInt8)
  | borrowedString (text : List UInt8)
  deriving DecidableEq, Repr

namespace Value

/-- `value::kind` -/
def kind : Value → ValueKind
  | undefined => .undefined
  | signedInteger _ => .signedInteger
  | unsignedInteger _ => .unsignedInteger
  | real _ => .real
  | boolean _ => .boolean
  | string _ => .string
  | borrowedString _ => .string

/-- The field `bits_`, which every numeric accessor reads. -/
def bits : Value → UInt64
  | undefined => 0
  | signedInteger number => number.toUInt64
  | unsignedInteger number => number
  | real bits => bits
  | boolean state => if state then 1 else 0
  | string _ => 0
  | borrowedString _ => 0

/-- `value::as_signed` -/
def asSigned (v : Value) : Int64 := v.bits.toInt64

/-- `value::as_unsigned` -/
def asUnsigned (v : Value) : UInt64 := v.bits

/-- `value::as_real`, as a bit pattern -/
def asReal (v : Value) : UInt64 := v.bits

/-- `value::as_boolean` -/
def asBoolean (v : Value) : Bool := v.bits != 0

/-- The bytes from `string_data()` on, `string_size()` of them. -/
def stringData : Value → List UInt8
  | string text => text
  | borrowedString text => text
  | _ => []

/-- `value::string_size` -/
def stringSize (v : Value) : ℕ := v.stringData.length

/-- `value::copy_string` -/
def copyString (v : Value) : List UInt8 := v.stringData

/-- `value::take_string`, with the value it leaves behind: an owned text is moved out, a
borrowed one is copied. -/
def takeString : Value → List UInt8 × Value
  | string text => (text, string [])
  | v => (v.copyString, v)

/-- The value with the same kind and payload that owns its text. -/
def owned : Value → Value
  | borrowedString text => string text
  | v => v

@[simp] lemma asSigned_signedInteger (n : Int64) : (signedInteger n).asSigned = n := rfl

@[simp] lemma asUnsigned_unsignedInteger (n : UInt64) : (unsignedInteger n).asUnsigned = n := rfl

@[simp] lemma asReal_real (n : UInt64) : (real n).asReal = n := rfl

@[simp] lemma asBoolean_boolean (b : Bool) : (boolean b).asBoolean = b := by
  cases b <;> rfl

/-- Owning the text does not change the kind. -/
@[simp] lemma kind_owned (v : Value) : v.owned.kind = v.kind := by
  cases v <;> rfl

/-- Owning the text does not change the numeric payload. -/
@[simp] lemma bits_owned (v : Value) : v.owned.bits = v.bits := by
  cases v <;> rfl

/-- Owning the text does not change the text. -/
@[simp] lemma stringData_owned (v : Value) : v.owned.stringData = v.stringData := by
  cases v <;> rfl

/-- Owning the text does not change its size. -/
@[simp] lemma stringSize_owned (v : Value) : v.owned.stringSize = v.stringSize := by
  rw [stringSize, stringSize, stringData_owned]

/-- A value that owns its text stays as it is. -/
@[simp] lemma owned_owned (v : Value) : v.owned.owned = v.owned := by
  cases v <;> rfl

end Value

end Dynabridge.Rpc
