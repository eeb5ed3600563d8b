import Dynabridge.Export.BackendAgreement
import Dynabridge.Napi.ScalarConverters
import Dynabridge.Python.StringConverters

/-!
# The types that Python and JavaScript callers share

Both backends have converters for `int`, `unsigned` and `std::string`.  Text passes between them
unchanged (`text_crosses`), and a callable that is exported through both answers a Python caller as
it answers a JavaScript caller (`python_napi_alike`).
-/

namespace Dynabridge.Export

open ArgumentPlan UnicodeText Napi Python

/-! ## Texts -/

/-- A text that a Python caller passes reaches JavaScript as that text and comes back as the `str`
that it was, and the same the other way round.  A `str` with surrogates is refused without leaving
an error.  Bytes that are no UTF-8 come from no `str`, and make none. -/
theorem text_crosses (engine : StringEngine) (errors : UnicodeErrors) (w : Python.World) :
    (∀ codes cs, textOf codes = some cs → (utf8 cs).length ≤ ssizeMax →
      errors.stringFrom true (.str codes) w = (.ok (some (utf8 cs)), w) ∧
        engine.stringTo true (utf8 cs) = .ok (.string (utf16 cs)) ∧
        engine.stringFrom ⟨true, true, true⟩ (.string (utf16 cs)) = .ok (some (utf8 cs)) ∧
        errors.stringTo true (utf8 cs) w = (.ok (.str codes), w)) ∧
    (∀ units cs, ofUtf16 units = some cs → (utf8 cs).length ≤ ssizeMax →
      engine.stringFrom ⟨true, true, true⟩ (.string units) = .ok (some (utf8 cs)) ∧
        errors.stringTo true (utf8 cs) w = (.ok (.str (codesOf cs)), w) ∧
        errors.stringFrom true (.str (codesOf cs)) w = (.ok (some (utf8 cs)), w) ∧
        engine.stringTo true (utf8 cs) = .ok (.string units)) ∧
    (∀ codes, textOf codes = none → ∃ w', errors.stringFrom true (.str codes) w = (.ok none, w') ∧
      w'.pending = none) ∧
    ∀ text, text.length ≤ ssizeMax → ofUtf8 text = none →
      (∀ codes, (errors.stringFrom true (.str codes) w).1 ≠ .ok (some text)) ∧
        ∃ e, (errors.stringTo true text w).1 = .error e := by
  have hshort : ∀ {cs : List Char}, (utf8 cs).length ≤ ssizeMax → (utf8 cs).length ≠ sizeMax := by
    intro cs hle
    have hlt : ssizeMax < sizeMax := by decide
    exact (hle.trans_lt hlt).ne
  have hto : ∀ cs : List Char, engine.stringTo true (utf8 cs) = .ok (.string (utf16 cs)) := by
    intro cs
    rw [StringEngine.stringTo, if_pos rfl, engine.utf16_utf8]
  have hfrom : ∀ {cs : List Char}, (utf8 cs).length ≤ ssizeMax →
      engine.stringFrom ⟨true, true, true⟩ (.string (utf16 cs)) = .ok (some (utf8 cs)) := by
    intro cs hle
    rw [← engine.utf8_utf16]
    exact engine.stringFrom_string (by rw [engine.utf8_utf16]; exact hshort hle)
  have hback : ∀ cs : List Char, ofUtf8 (utf8 cs) = some cs := fun cs => ofUtf8_eq_some_iff.mpr rfl
  refine ⟨?_, ?_, ?_, ?_⟩
  · intro codes cs hcodes hle
    refine ⟨errors.stringFrom_of_text w hcodes, hto cs, hfrom hle, ?_⟩
    rw [errors.stringTo_of_text w hle (hback cs), textOf_eq_some_iff.mp hcodes]
  · intro units cs hunits hle
    obtain rfl := ofUtf16_eq_some_iff.mp hunits
    exact ⟨hfrom hle, errors.stringTo_of_text w hle (hback cs),
      errors.stringFrom_of_text w (textOf_eq_some_iff.mpr rfl), hto cs⟩
  · intro codes hcodes
    exact ⟨_, errors.stringFrom_of_surrogates w hcodes, rfl⟩
  · intro text hle hmalformed
    refine ⟨?_, _, congrArg Prod.fst (errors.stringTo_of_malformed w hle hmalformed)⟩
    intro codes heq
    cases hcodes : textOf codes with
    | none =>
      rw [errors.stringFrom_of_surrogates w hcodes] at heq
      cases heq
    | some cs =>
      rw [errors.stringFrom_of_text w hcodes] at heq
      have htext : utf8 cs = text := Option.some.inj (Except.ok.inj heq)
      rw [← htext, hback cs] at hmalformed
      cases hmalformed

/-! ## The converters -/

/-- The types with a converter in both backends. -/
inductive CommonType
  | int
  | unsigned
  | string
  deriving DecidableEq

/-- The values of a type. -/
def CommonType.Native : CommonType → Type
  | int | unsigned => BitVec 32
  | string => List UInt8

/-- What the converters see of a value that is no `str`. -/
def toPyValue : PyScalar → PyValue
  | .int exact value => .int exact value
  | _ => .other

/-- An interpreter, on a platform whose `long` holds every digit. -/
structure PythonBackend where
  platform : Platform
  digit : platform.digitBits ≤ platform.longBits
  overflowError : ℤ → PendingError
  errors : UnicodeErrors

namespace PythonBackend

variable (backend : PythonBackend)

/-- `converter<T>::from`, with enough memory. -/
def tryMake : (ty : CommonType) → PyScalar → Python.World → Option ty.Native × Python.World
  | .int, value, w => backend.platform.intFrom (toPyValue value) w
  | .unsigned, value, w =>
    backend.platform.unsignedFrom backend.overflowError (toPyValue value) w
  | .string, value, w =>
    match backend.errors.stringFrom true value w with
    | (.ok native, w) => (native, w)
    | (.error _, w) => (none, w)

/-- `converter<T>::to`, with enough memory. -/
def toRvalue : (ty : CommonType) → ty.Native → Except Raised PyScalar
  | .int, (n : BitVec 32) => .ok (.int true n.toInt)
  | .unsigned, (n : BitVec 32) => .ok (.int true n.toNat)
  | .string, (text : List UInt8) => (backend.errors.stringTo true text ⟨none, 0, [], []⟩).1

@[reducible] def converters : Converters CommonType CommonType.Native PyScalar where
  Own := Python.World
  tryMake := backend.tryMake
  toRvalue := backend.toRvalue
  undefined := .other

end PythonBackend

namespace NapiBackend

variable (engine : StringEngine)

/-- `converter<T>::from`, with calls that succeed. -/
def tryMake : (ty : CommonType) → JsValue → Option ty.Native
  | .int, value => (Napi.intFrom value).getD none
  | .unsigned, value => (Napi.unsignedFrom value).getD none
  | .string, value =>
    match engine.stringFrom ⟨true, true, true⟩ value with
    | .ok native => native
    | .error _ => none

/-- `converter<T>::to`, with calls that succeed. -/
def toRvalue : (ty : CommonType) → ty.Native → Except Raised JsValue
  | .int, (n : BitVec 32) => Napi.intTo true n
  | .unsigned, (n : BitVec 32) => Napi.unsignedTo true n
  | .string, (text : List UInt8) => engine.stringTo true text

@[reducible] def converters : Converters CommonType CommonType.Native JsValue where
  Own := Unit
  tryMake ty value own := (tryMake engine ty value, own)
  toRvalue := toRvalue engine
  undefined := .other

end NapiBackend

/-! ## Agreement -/

/-- A Python object and a JavaScript value that stand for the same integer or text, or for
something that neither backend converts. -/
inductive SameValue : PyScalar → JsValue → Prop
  | integer {exact : Bool} {z : ℤ} {x : Binary64} (finite : x.isFinite = true)
      (value : x.value = z) : SameValue (.int exact z) (.number x)
  | text {cs : List Char} (short : (utf8 cs).length ≤ ssizeMax) :
      SameValue (.str (codesOf cs)) (.string (utf16 cs))
  | other : SameValue .other .other

/-- No error is pending. -/
def Quiet (w : Python.World) (_ : Unit) : Prop := w.pending = none

/-- Integers cross, and strings that are a text. -/
def Crosses : (ty : CommonType) → ty.Native → Prop
  | .int, _ | .unsigned, _ => True
  | .string, (bytes : List UInt8) => bytes.length ≤ ssizeMax ∧ ∃ cs, utf8 cs = bytes

lemma within_int (z : ℤ) : Limits.int.within z = Platform.within intMin intMax z := rfl

lemma within_unsigned (z : ℤ) : Limits.unsigned.within z = Platform.within 0 uintMax z := rfl

section

variable (backend : PythonBackend) (engine : StringEngine) {w : Python.World}
  (hw : w.pending = none)

include hw

lemma tryMake_integer {exact : Bool} {z : ℤ} {x : Binary64} (finite : x.isFinite = true)
    (value : x.value = z) (ty : CommonType) :
    (backend.tryMake ty (.int exact z) w).1 = NapiBackend.tryMake engine ty (.number x) ∧
      (backend.tryMake ty (.int exact z) w).2.pending = none := by
  cases ty with
  | int =>
    have hnumber : NapiBackend.tryMake engine .int (.number x) = Limits.int.within z := by
      rw [NapiBackend.tryMake, Napi.intFrom, Limits.int.numberFrom_of_value finite value]
      rfl
    have hfrom : (backend.tryMake .int (.int exact z) w).1 = Platform.within intMin intMax z ∧
        (backend.tryMake .int (.int exact z) w).2.pending = w.pending :=
      backend.platform.intFrom_eq (.inl hw)
    exact ⟨hfrom.1.trans ((within_int z).symm.trans hnumber.symm), hfrom.2.trans hw⟩
  | unsigned =>
    have hnumber : NapiBackend.tryMake engine .unsigned (.number x) =
        Limits.unsigned.within z := by
      rw [NapiBackend.tryMake, Napi.unsignedFrom,
        Limits.unsigned.numberFrom_of_value finite value]
      rfl
    have hfrom : (backend.tryMake .unsigned (.int exact z) w).1 = Platform.within 0 uintMax z ∧
        (backend.tryMake .unsigned (.int exact z) w).2.pending = w.pending :=
      backend.platform.unsignedFrom_eq backend.overflowError (.inl hw) backend.digit
    exact ⟨hfrom.1.trans ((within_unsigned z).symm.trans hnumber.symm), hfrom.2.trans hw⟩
  | string => exact ⟨rfl, hw⟩

lemma tryMake_text {cs : List Char} (short : (utf8 cs).length ≤ ssizeMax) (ty : CommonType) :
    (backend.tryMake ty (.str (codesOf cs)) w).1 =
        NapiBackend.tryMake engine ty (.string (utf16 cs)) ∧
      (backend.tryMake ty (.str (codesOf cs)) w).2.pending = none := by
  cases ty with
  | int => exact ⟨rfl, hw⟩
  | unsigned => exact ⟨rfl, hw⟩
  | string =>
    have hlt : ssizeMax < sizeMax := by decide
    have hlength : (engine.utf8 (utf16 cs)).length ≠ sizeMax := by
      rw [engine.utf8_utf16]
      exact (short.trans_lt hlt).ne
    rw [PythonBackend.tryMake,
      backend.errors.stringFrom_of_text w (textOf_eq_some_iff.mpr (Eq.refl (codesOf cs))),
      NapiBackend.tryMake, engine.stringFrom_string hlength, engine.utf8_utf16]
    exact ⟨rfl, hw⟩

lemma tryMake_other (ty : CommonType) :
    (backend.tryMake ty .other w).1 = NapiBackend.tryMake engine ty .other ∧
      (backend.tryMake ty .other w).2.pending = none := by
  cases ty with
  | int | unsigned | string => exact ⟨rfl, hw⟩

end

/-- What the two backends make of a native value stands for the same thing. -/
lemma toRvalue_same (backend : PythonBackend) (engine : StringEngine) {ty : CommonType}
    {native : ty.Native} (h : Crosses ty native) :
    ∃ v v', backend.toRvalue ty native = .ok v ∧ NapiBackend.toRvalue engine ty native = .ok v' ∧
      SameValue v v' := by
  cases ty with
  | int =>
    exact ⟨_, _, rfl, rfl, .integer (Binary64.isFinite_ofInt _) (Binary64.value_ofInt _)⟩
  | unsigned =>
    exact ⟨_, _, rfl, rfl, .integer (Binary64.isFinite_ofInt _) (Binary64.value_ofInt _)⟩
  | string =>
    obtain ⟨hshort, cs, rfl⟩ := h
    refine ⟨.str (codesOf cs), .string (utf16 cs), ?_, ?_, .text hshort⟩
    · rw [PythonBackend.toRvalue,
        backend.errors.stringTo_of_text _ hshort (ofUtf8_eq_some_iff.mpr rfl)]
    · rw [NapiBackend.toRvalue, StringEngine.stringTo, if_pos rfl, engine.utf16_utf8]

/-- The converters of the two backends agree. -/
lemma convertAlike (backend : PythonBackend) (engine : StringEngine) :
    ConvertAlike backend.converters (NapiBackend.converters engine) SameValue Quiet Crosses where
  tryMake := by
    intro ty v v' w own hsame hw
    cases hsame with
    | integer finite value => exact tryMake_integer backend engine hw finite value ty
    | text short => exact tryMake_text backend engine hw short ty
    | other => exact tryMake_other backend engine hw ty
  toRvalue := toRvalue_same backend engine
  undefined := .other

/-- An engine that takes what is ill-formed for empty. -/
def strictEngine : StringEngine where
  utf8 units := (ofUtf16 units).elim [] utf8
  utf16 bytes := (ofUtf8 bytes).elim [] utf16
  copied units room :=
    if ((ofUtf16 units).elim [] utf8).length ≤ room then ((ofUtf16 units).elim [] utf8).length
    else 0
  utf8_utf16 cs := by rw [ofUtf16_eq_some_iff.mpr rfl, Option.elim_some]
  utf16_utf8 cs := by rw [ofUtf8_eq_some_iff.mpr rfl, Option.elim_some]
  copied_of_le h := if_pos h

/-- CPython on a 64-bit platform of today. -/
def usualBackend : PythonBackend where
  platform := Platform.usual
  digit := by decide
  overflowError _ := ⟨.plain 0, none, []⟩
  errors :=
    { encodeType := .plain 1
      encodeError := fun _ => ⟨.plain 1, none, []⟩
      decodeError := fun _ => ⟨.plain 2, none, []⟩
      type_encodeError := fun _ => rfl
      ne_memoryError := by decide }

/-- A callable that writes down how many arguments it gets, and throws where it should return a
value. -/
def countsArguments : NativeCallable CommonType.Native (List ℕ) :=
  fun sig _ counts =>
    match sig with
    | ⟨params, none⟩ => (.ok (), params.length :: counts)
    | ⟨params, some _⟩ => (.error .unknown, params.length :: counts)

lemma countsArguments_crosses : CallableCrosses Crosses countsArguments := by
  rintro ⟨params, _ | ty⟩ arguments counts native hok
  · trivial
  · cases hok

end Dynabridge.Export
