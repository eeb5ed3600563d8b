import Dynabridge.ErrorPolicy
import Dynabridge.Foundations.UnicodeText
import Dynabridge.Python.IntConverters

/-!
# Conversion of Python strings

`converter<std::string>::from` asks the interpreter for the UTF-8 of a `str`.  A `str` may hold
surrogates, and then there is none: the `UnicodeEncodeError` is cleared and the value refused, so
that overload dispatch goes on.  `converter<std::string>::to` has the interpreter decode the bytes;
bytes that are no UTF-8 are an error.
-/

namespace Dynabridge.Python

open UnicodeText

/-- A code point, which may be a surrogate. -/
abbrev CodePoint := Fin 0x110000

/-- What the converters see of a Python object. -/
inductive PyScalar
  | int (exact : Bool) (value : ℤ)
  /-- an instance of `str` or of a subclass of it -/
  | str (codes : List CodePoint)
  | other
  deriving DecidableEq

/-- `numeric_limits<Py_ssize_t>::max()` -/
def ssizeMax : ℕ := 2 ^ 63 - 1

/-- The errors that the interpreter raises for strings. -/
structure UnicodeErrors where
  /-- `PyExc_UnicodeEncodeError` -/
  encodeType : Object
  encodeError : List CodePoint → PendingError
  decodeError : List UInt8 → PendingError
  type_encodeError : ∀ codes, (encodeError codes).type = encodeType
  ne_memoryError : encodeType ≠ .memoryError

/-- The text of a `str`, if it has no surrogates. -/
def textOf (codes : List CodePoint) : Option (List Char) := ofCodePoints (codes.map Fin.val)

/-- The code points of a text. -/
def codesOf (cs : List Char) : List CodePoint :=
  cs.map fun c => Fin.ofNat _ c.toNat

lemma textOf_eq_some_iff {codes : List CodePoint} {cs : List Char} :
    textOf codes = some cs ↔ codesOf cs = codes := by
  have hval : ∀ c : Char, (Fin.ofNat 0x110000 c.toNat).val = c.toNat := by
    intro c
    have hvalid : c.toNat.isValidChar := c.valid
    refine Nat.mod_eq_of_lt ?_
    unfold Nat.isValidChar at hvalid
    omega
  have hmap : (codesOf cs).map Fin.val = cs.map Char.toNat := by
    rw [codesOf, List.map_map]
    exact List.map_congr_left fun c _ => hval c
  rw [textOf, ofCodePoints_eq_some_iff, ← hmap]
  exact (List.map_injective_iff.mpr Fin.val_injective).eq_iff

namespace UnicodeErrors

variable (errors : UnicodeErrors)

/-- `PyUnicode_AsUTF8AndSize`, with whether there is memory for the bytes. -/
def asUtf8AndSize (memory : Bool) (codes : List CodePoint) (w : World) :
    Option (List UInt8) × World :=
  if memory then
    match textOf codes with
    | some cs => (some (utf8 cs), w)
    | none => (none, w.pyErrSet (errors.encodeError codes))
  else (none, w.pyErrSet noMemory)

/-- `PyUnicode_FromStringAndSize`, with whether there is memory for the object. -/
def fromStringAndSize (memory : Bool) (text : List UInt8) (w : World) :
    Option PyScalar × World :=
  if memory then
    match ofUtf8 text with
    | some cs => (some (.str (codesOf cs)), w)
    | none => (none, w.pyErrSet (errors.decodeError text))
  else (none, w.pyErrSet noMemory)

/-- `PyErr_ExceptionMatches(PyExc_UnicodeEncodeError)` -/
def matchesEncodeError (w : World) : Bool := w.pending.any fun e => e.type = errors.encodeType

/-- `converter<std::string>::from` -/
def stringFrom (memory : Bool) (object : PyScalar) (w : World) :
    Except Raised (Option (List UInt8)) × World :=
  match object with
  | .str codes =>
    match errors.asUtf8AndSize memory codes w with
    | (some data, w) => (.ok (some data), w)
    | (none, w) =>
      if errors.matchesEncodeError w then (.ok none, w.pyErrClear)
      else (.error (.stdException (ascii "dynabridge Python string conversion failed")), w)
  | _ => (.ok none, w)

/-- `converter<std::string>::to` -/
def stringTo (memory : Bool) (text : List UInt8) (w : World) : Except Raised PyScalar × World :=
  if text.length > ssizeMax then
    (.error (.stdException (ascii "dynabridge Python string is too large")), w)
  else
    match errors.fromStringAndSize memory text w with
    | (some result, w) => (.ok result, w)
    | (none, w) =>
      (.error (.stdException (ascii "dynabridge Python string conversion failed")), w)

variable {codes : List CodePoint} {cs : List Char} {text : List UInt8} (w : World)

/-- A `str` without surrogates is its UTF-8. -/
lemma stringFrom_of_text (h : textOf codes = some cs) :
    errors.stringFrom true (.str codes) w = (.ok (some (utf8 cs)), w) := by
  simp only [stringFrom, asUtf8AndSize, if_true, h]

/-- A `str` with surrogates is refused, and no error is left. -/
lemma stringFrom_of_surrogates (h : textOf codes = none) :
    errors.stringFrom true (.str codes) w =
      (.ok none, (w.pyErrSet (errors.encodeError codes)).pyErrClear) := by
  have hmatches : errors.matchesEncodeError (w.pyErrSet (errors.encodeError codes)) = true := by
    rw [matchesEncodeError, World.pending_pyErrSet, Option.any_some, errors.type_encodeError,
      decide_eq_true rfl]
  simp only [stringFrom, asUtf8AndSize, if_true, h, hmatches]

/-- Without memory the error stays and the conversion raises. -/
lemma stringFrom_of_no_memory :
    errors.stringFrom false (.str codes) w =
      (.error (.stdException (ascii "dynabridge Python string conversion failed")),
        w.pyErrSet noMemory) := by
  have hmatches : errors.matchesEncodeError (w.pyErrSet noMemory) = false := by
    rw [matchesEncodeError, World.pending_pyErrSet, Option.any_some]
    exact decide_eq_false fun h => errors.ne_memoryError h.symm
  simp only [stringFrom, asUtf8AndSize, Bool.false_eq_true, if_false, hmatches]

/-- Well-formed bytes become their text. -/
lemma stringTo_of_text (hlen : text.length ≤ ssizeMax) (h : ofUtf8 text = some cs) :
    errors.stringTo true text w = (.ok (.str (codesOf cs)), w) := by
  simp only [stringTo, if_neg (Nat.not_lt.mpr hlen), fromStringAndSize, if_true, h]

/-- Other bytes raise, with the error of the interpreter pending. -/
lemma stringTo_of_malformed (hlen : text.length ≤ ssizeMax) (h : ofUtf8 text = none) :
    errors.stringTo true text w =
      (.error (.stdException (ascii "dynabridge Python string conversion failed")),
        w.pyErrSet (errors.decodeError text)) := by
  simp only [stringTo, if_neg (Nat.not_lt.mpr hlen), fromStringAndSize, if_true, h]

end UnicodeErrors

end Dynabridge.Python
