import Dynabridge.Python.References

/-!
# Exceptions across nested boundaries

Python calls an exported callable, whose C++ code calls an imported Python callable, and so on.
`call_vector` and `call_tuple` capture the error of a failed call in a `python_error`; the entry
of the exported callable restores it.  In between, frames of C++ code unwind.
-/

namespace Dynabridge.Python

open Ledger

/-! ## The handlers -/

/-- The handlers of an entry. -/
inductive Handler
  | pythonError
  | badConversion
  | stdException
  | catchAll
  deriving DecidableEq

/-- The handlers in the order of the source. -/
def handlers : List Handler := [.pythonError, .badConversion, .stdException, .catchAll]

/-- Whether a handler accepts an exception.  `python_error` and `bad_conversion` derive from
`std::runtime_error`. -/
def CppException.caughtBy : CppException → Handler → Bool
  | _, .catchAll => true
  | .unknown, _ => false
  | _, .stdException => true
  | .pythonError _, .pythonError => true
  | .badConversion _, .badConversion => true
  | _, _ => false

/-- `what` -/
def CppException.what : CppException → String
  | .pythonError e => e.message
  | .badConversion what => what
  | .stdException what => what
  | .unknown => ""

/-- The destructor of the exception, at the end of the handler. -/
def CppException.destroy (w : World) : CppException → World
  | .pythonError e => e.destroy w
  | _ => w

/-- The body of a handler; `fallback` is the text of the last one. -/
def Handler.handle (fallback : String) (x : CppException) (w : World) : Handler → World
  | .pythonError =>
    match x with
    | .pythonError e => e.restore w
    | _ => w
  | .badConversion => w.pyErrSetString .typeError x.what
  | .stdException => w.pyErrSetString .runtimeError x.what
  | .catchAll => w.pyErrSetString .runtimeError fallback

/-- What is pending after an exception has been handled. -/
def CppException.pending (fallback : String) : CppException → Fetched
  | .pythonError e => e.error
  | .badConversion what => some (errorOfText .typeError what)
  | .stdException what => some (errorOfText .runtimeError what)
  | .unknown => some (errorOfText .runtimeError fallback)

/-- The first handler that accepts the exception takes it. -/
def catchException (fallback : String) (x : CppException) (w : World) : World :=
  match handlers.find? x.caughtBy with
  | some h => x.destroy (h.handle fallback x w)
  | none => w

/-- Native code behind an entry: it returns a pointer or throws. -/
abbrev Body := World → Except CppException (Option Object) × World

/-- The `try` block of an entry. -/
def tryCatch (fallback : String) (body : Body) (w : World) : Option Object × World :=
  match body w with
  | (.ok result, w) => (result, w)
  | (.error x, w) => (none, catchException fallback x w)

@[simp] lemma pending_catchException (fallback : String) (x : CppException) (w : World) :
    (catchException fallback x w).pending = x.pending fallback := by
  cases x <;> rfl

@[simp] lemma own_catchException (fallback : String) (x : CppException) (w : World) :
    (catchException fallback x w).own = w.own - tally x.objects := by
  cases x with
  | pythonError e =>
    exact (PythonError.own_destroy e (e.restore w)).trans (by rw [e.own_restore]; rfl)
  | badConversion what =>
    exact (World.own_pyErrSetString _ _ _).trans (by simp [CppException.objects])
  | stdException what =>
    exact (World.own_pyErrSetString _ _ _).trans (by simp [CppException.objects])
  | unknown => exact (World.own_pyErrSetString _ _ _).trans (by simp [CppException.objects])

/-! ## The entries -/

/-- How the interpreter calls an entry: with a number of keyword arguments and a tuple, or
something else, which has no size; or with an array. -/
inductive CallShape
  | tuple (keywords : ℕ) (size : Option ℕ)
  | vector (keywords nargs : ℕ)
  deriving DecidableEq

/-- An entry that gives up before the native code. -/
def refuse (e : PendingError) (w : World) : Option Object × World := (none, w.pyErrSet e)

/-- `callable_call`: the call with a tuple. -/
def callableCall (keywords : ℕ) (invokeTuple : World → Option Object × World) (w : World) :
    Option Object × World :=
  if keywords ≠ 0 then
    refuse (errorOfText .typeError
      "dynabridge Python callback does not accept keyword arguments") w
  else invokeTuple w

/-- `typed_callable_holder::call_signature` -/
def callSignature (declared : ℕ) (actual : Option ℕ) (body : Body) (w : World) :
    Option Object × World :=
  if actual ≠ some declared then
    refuse (errorOfText .typeError "dynabridge Python callback received wrong arity") w
  else tryCatch "dynabridge Python callback failed" body w

/-- `typed_callable_holder::call_vector_signature` -/
def callVectorSignature (declared keywords nargs : ℕ) (body : Body) (w : World) :
    Option Object × World :=
  if keywords ≠ 0 then
    refuse (errorOfText .typeError
      "dynabridge Python callback does not accept keyword arguments") w
  else if nargs ≠ declared then
    refuse (errorOfText .typeError "dynabridge Python callback received wrong arity") w
  else tryCatch "dynabridge Python callback failed" body w

/-- Dispatch over the signatures of a group; `matched` says whether one of them matches. -/
def dispatch (matched : Bool) (body : Body) : Body := fun w =>
  if matched then body w
  else (.ok none, w.pyErrSetString .typeError
    "dynabridge Python overload has no matching signature")

/-- `overload_callable_holder::call_tuple` -/
def overloadCallTuple (actual : Option ℕ) (matched : Bool) (body : Body) (w : World) :
    Option Object × World :=
  if actual = none then
    refuse (errorOfText .typeError "dynabridge Python callback expected tuple arguments") w
  else tryCatch "dynabridge Python overload callback failed" (dispatch matched body) w

/-- `overload_callable_holder::call_vector` -/
def overloadCallVector (keywords : ℕ) (matched : Bool) (body : Body) (w : World) :
    Option Object × World :=
  if keywords ≠ 0 then
    refuse (errorOfText .typeError
      "dynabridge Python callback does not accept keyword arguments") w
  else tryCatch "dynabridge Python overload callback failed" (dispatch matched body) w

/-- `class_constructor_holder::construct`; `compatible` says whether `self` is an instance of the
exported class. -/
def construct (compatible : Bool) (body : Body) (w : World) : Option Object × World :=
  tryCatch "dynabridge Python constructor failed" (fun w =>
    if compatible then body w
    else (.ok none, w.pyErrSetString .typeError
      "dynabridge Python constructor received incompatible self")) w

/-- `class_constructor_holder::construct_tuple`; the first argument is `self`. -/
def constructTuple (declared : ℕ) (actual : Option ℕ) (compatible : Bool) (body : Body)
    (w : World) : Option Object × World :=
  if actual ≠ some (declared + 1) then
    refuse (errorOfText .typeError "dynabridge Python constructor received wrong arity") w
  else construct compatible body w

/-- `class_constructor_holder::construct_vector` -/
def constructVector (declared keywords nargs : ℕ) (compatible : Bool) (body : Body) (w : World) :
    Option Object × World :=
  if keywords ≠ 0 then
    refuse (errorOfText .typeError
      "dynabridge Python constructor does not accept keyword arguments") w
  else if nargs ≠ declared + 1 then
    refuse (errorOfText .typeError "dynabridge Python constructor received wrong arity") w
  else construct compatible body w

/-- What `export_type_vectorcall` depends on: whether the class has a bridge constructor, the new
instance, if it can be allocated, and whether there is room for the arguments behind `self`. -/
structure TypeCall where
  initializer : Bool
  self : Option Object
  argsAllocated : Bool
  deriving DecidableEq

/-- `export_type_vectorcall`: the instance is dropped when its constructor fails. -/
def exportTypeVectorcall (type : TypeCall) (declared keywords nargs : ℕ) (compatible : Bool)
    (body : Body) (w : World) : Option Object × World :=
  if type.initializer then
    match type.self with
    | none => refuse noMemory w
    | some self =>
      let w := w.incref [self]
      if type.argsAllocated then
        let (result, w) := constructVector declared keywords (nargs + 1) compatible body w
        match result with
        | none => (none, w.decref [self])
        | some result => (some self, w.decref [result])
      else refuse noMemory (w.decref [self])
  else refuse (errorOfText .typeError
    "dynabridge Python export class has no bridge constructor") w

/-- An entry, with what it finds out before it gets to the native code.  A member is a callable
whose first argument is the receiver. -/
inductive Entry
  | callable (declared : ℕ) (shape : CallShape)
  | overload (matched : Bool) (shape : CallShape)
  | constructor (declared : ℕ) (compatible : Bool) (shape : CallShape)
  | typeCall (target : TypeCall) (declared : ℕ) (compatible : Bool) (keywords nargs : ℕ)
  deriving DecidableEq

namespace Entry

/-- The call of an entry. -/
def enter (entry : Entry) (body : Body) : World → Option Object × World :=
  match entry with
  | .callable declared (.tuple keywords size) =>
    callableCall keywords (callSignature declared size body)
  | .callable declared (.vector keywords nargs) =>
    callVectorSignature declared keywords nargs body
  | .overload matched (.tuple keywords size) =>
    callableCall keywords (overloadCallTuple size matched body)
  | .overload matched (.vector keywords _) => overloadCallVector keywords matched body
  | .constructor declared compatible (.tuple keywords size) =>
    callableCall keywords (constructTuple declared size compatible body)
  | .constructor declared compatible (.vector keywords nargs) =>
    constructVector declared keywords nargs compatible body
  | .typeCall target declared compatible keywords nargs =>
    exportTypeVectorcall target declared keywords nargs compatible body

/-- The text for exceptions that are not exceptions of the standard library. -/
def fallback : Entry → String
  | .callable _ _ => "dynabridge Python callback failed"
  | .overload _ _ => "dynabridge Python overload callback failed"
  | .constructor _ _ _ => "dynabridge Python constructor failed"
  | .typeCall _ _ _ _ _ => "dynabridge Python constructor failed"

/-- The entry gets to the native code. -/
def Accepts : Entry → Prop
  | .callable declared (.tuple keywords size) => keywords = 0 ∧ size = some declared
  | .callable declared (.vector keywords nargs) => keywords = 0 ∧ nargs = declared
  | .overload matched (.tuple keywords size) => keywords = 0 ∧ size ≠ none ∧ matched = true
  | .overload matched (.vector keywords _) => keywords = 0 ∧ matched = true
  | .constructor declared compatible (.tuple keywords size) =>
    keywords = 0 ∧ size = some (declared + 1) ∧ compatible = true
  | .constructor declared compatible (.vector keywords nargs) =>
    keywords = 0 ∧ nargs = declared + 1 ∧ compatible = true
  | .typeCall target declared compatible keywords nargs =>
    target.initializer = true ∧ target.self ≠ none ∧ target.argsAllocated = true ∧ keywords = 0 ∧
      nargs = declared ∧ compatible = true

end Entry

/-! ## Calls that fail -/

/-- A call that returns null with the error pending; the objects are those that it leaves
references to. -/
def ReturnsNull (f : World → Option Object × World) (e : PendingError) (kept : List Object) :
    Prop :=
  ∀ w, (f w).1 = none ∧ (f w).2.pending = some e ∧ (f w).2.own = w.own + tally kept

/-- Native code that throws what an entry with the given fallback turns into the error. -/
def Throws (body : Body) (fallback : String) (e : PendingError) (kept : List Object) : Prop :=
  ∀ w, ∃ x, (body w).1 = .error x ∧ x.pending fallback = some e ∧
    (body w).2.own = w.own + tally kept + tally x.objects

section Entries

variable {body : Body} {fallback : String} {e : PendingError} {kept : List Object}

lemma returnsNull_tryCatch (h : Throws body fallback e kept) :
    ReturnsNull (tryCatch fallback body) e kept := by
  intro w
  obtain ⟨x, herror, hpending, hown⟩ := h w
  unfold tryCatch
  rcases hbody : body w with ⟨outcome, w'⟩
  rw [hbody] at herror hown
  obtain rfl : outcome = .error x := herror
  refine ⟨rfl, (pending_catchException fallback x w').trans hpending, ?_⟩
  rw [own_catchException, hown, add_sub_cancel_right]

lemma returnsNull_construct (h : Throws body "dynabridge Python constructor failed" e kept) :
    ReturnsNull (construct true body) e kept := returnsNull_tryCatch h

lemma returnsNull_constructVector {declared : ℕ}
    (h : Throws body "dynabridge Python constructor failed" e kept) :
    ReturnsNull (constructVector declared 0 (declared + 1) true body) e kept := by
  intro w
  unfold constructVector
  rw [if_neg (not_not.mpr rfl), if_neg (not_not.mpr rfl)]
  exact returnsNull_construct h w

/-- The new instance is dropped, and nothing else happens to the error. -/
lemma returnsNull_exportTypeVectorcall {self : Object} {declared keywords nargs : ℕ}
    {compatible : Bool}
    (h : ReturnsNull (constructVector declared keywords (nargs + 1) compatible body) e kept) :
    ReturnsNull (exportTypeVectorcall ⟨true, some self, true⟩ declared keywords nargs compatible
      body) e kept := by
  intro w
  obtain ⟨hnull, hpending, hown⟩ := h (w.incref [self])
  simp only [exportTypeVectorcall, if_true]
  rcases hcall : constructVector declared keywords (nargs + 1) compatible body
    (w.incref [self]) with ⟨result, w'⟩
  rw [hcall] at hnull hpending hown
  obtain rfl : result = none := hnull
  refine ⟨rfl, hpending, ?_⟩
  rw [World.own_incref] at hown
  rw [World.own_decref, hown]
  abel

/-- Every entry that gets to the native code turns what it throws into the error. -/
theorem returnsNull_enter {entry : Entry} (haccepts : entry.Accepts)
    (h : Throws body entry.fallback e kept) : ReturnsNull (entry.enter body) e kept := by
  cases entry with
  | callable declared shape =>
    cases shape with
    | tuple keywords size =>
      obtain ⟨rfl, rfl⟩ := haccepts
      intro w
      simp only [Entry.enter, callableCall, callSignature, ne_eq, not_true_eq_false, if_false]
      exact returnsNull_tryCatch h w
    | vector keywords nargs =>
      obtain ⟨rfl, rfl⟩ := haccepts
      intro w
      simp only [Entry.enter, callVectorSignature, ne_eq, not_true_eq_false, if_false]
      exact returnsNull_tryCatch h w
  | overload matched shape =>
    cases shape with
    | tuple keywords size =>
      obtain ⟨rfl, hsize, rfl⟩ := haccepts
      have hdispatch : Throws (dispatch true body) _ e kept := h
      intro w
      simp only [Entry.enter, callableCall, overloadCallTuple, hsize, ne_eq, not_true_eq_false,
        if_false]
      exact returnsNull_tryCatch hdispatch w
    | vector keywords nargs =>
      obtain ⟨rfl, rfl⟩ := haccepts
      have hdispatch : Throws (dispatch true body) _ e kept := h
      intro w
      simp only [Entry.enter, overloadCallVector, ne_eq, not_true_eq_false, if_false]
      exact returnsNull_tryCatch hdispatch w
  | constructor declared compatible shape =>
    cases shape with
    | tuple keywords size =>
      obtain ⟨rfl, rfl, rfl⟩ := haccepts
      intro w
      simp only [Entry.enter, callableCall, constructTuple, ne_eq, not_true_eq_false, if_false]
      exact returnsNull_construct h w
    | vector keywords nargs =>
      obtain ⟨rfl, rfl, rfl⟩ := haccepts
      exact returnsNull_constructVector h
  | typeCall target declared compatible keywords nargs =>
    obtain ⟨initializer, self, argsAllocated⟩ := target
    obtain ⟨hinitializer, hself, hargs, rfl, rfl, rfl⟩ := haccepts
    obtain rfl : initializer = true := hinitializer
    obtain rfl : argsAllocated = true := hargs
    obtain ⟨self, rfl⟩ := Option.ne_none_iff_exists'.mp hself
    exact returnsNull_exportTypeVectorcall (returnsNull_constructVector h)

end Entries

/-- A call that raises an error of its own without getting to the native code. -/
def Refuses (f : World → Option Object × World) : Prop :=
  ∃ e : PendingError, (e.type = .typeError ∨ e.type = .memoryError) ∧ ReturnsNull f e []

lemma returnsNull_refuse (e : PendingError) : ReturnsNull (refuse e) e [] := fun w =>
  ⟨rfl, rfl, by rw [refuse, World.own_pyErrSet, tally_nil, add_zero]⟩

lemma refuses_ite {p : Prop} [Decidable p] {message : String}
    {f : World → Option Object × World} (h : ¬ p → Refuses f) :
    Refuses fun w => if p then refuse (errorOfText .typeError message) w else f w := by
  by_cases hp : p
  · simp only [hp, if_true]
    exact ⟨_, Or.inl rfl, returnsNull_refuse _⟩
  · simp only [hp, if_false]
    exact h hp

/-- A `try` block that sets a `TypeError` and returns null. -/
lemma refuses_tryCatch (fallback message : String) :
    Refuses (tryCatch fallback fun w => (.ok none, w.pyErrSetString .typeError message)) :=
  ⟨errorOfText .typeError message, Or.inl rfl, fun w =>
    ⟨rfl, rfl, (World.own_pyErrSetString w _ _).trans (by simp)⟩⟩

lemma refuses_construct {compatible : Bool} {body : Body} (h : compatible ≠ true) :
    Refuses (construct compatible body) := by
  obtain rfl : compatible = false := by simpa using h
  exact refuses_tryCatch "dynabridge Python constructor failed"
    "dynabridge Python constructor received incompatible self"

lemma refuses_constructVector {declared keywords nargs : ℕ} {compatible : Bool} (body : Body)
    (h : ¬ (keywords = 0 ∧ nargs = declared + 1 ∧ compatible = true)) :
    Refuses (constructVector declared keywords nargs compatible body) := by
  refine refuses_ite fun hkeywords => refuses_ite fun hnargs => refuses_construct ?_
  intro hcompatible
  exact h ⟨not_not.mp hkeywords, not_not.mp hnargs, hcompatible⟩

/-- An entry that does not get to the native code raises a `TypeError`, or a `MemoryError` for
want of memory. -/
theorem refuses_enter {entry : Entry} (haccepts : ¬ entry.Accepts) (body : Body) :
    Refuses (entry.enter body) := by
  have hdispatch (fallback : String) {matched : Bool} (h : matched ≠ true) :
      Refuses (tryCatch fallback (dispatch matched body)) := by
    obtain rfl : matched = false := by simpa using h
    exact refuses_tryCatch _ _
  cases entry with
  | callable declared shape =>
    cases shape with
    | tuple keywords size =>
      refine refuses_ite fun hkeywords => refuses_ite fun hsize => ?_
      exact absurd ⟨not_not.mp hkeywords, not_not.mp hsize⟩ haccepts
    | vector keywords nargs =>
      refine refuses_ite fun hkeywords => refuses_ite fun hnargs => ?_
      exact absurd ⟨not_not.mp hkeywords, not_not.mp hnargs⟩ haccepts
  | overload matched shape =>
    cases shape with
    | tuple keywords size =>
      refine refuses_ite fun hkeywords => refuses_ite fun hsize => hdispatch _ ?_
      exact fun hmatched => haccepts ⟨not_not.mp hkeywords, hsize, hmatched⟩
    | vector keywords nargs =>
      refine refuses_ite fun hkeywords => hdispatch _ ?_
      exact fun hmatched => haccepts ⟨not_not.mp hkeywords, hmatched⟩
  | constructor declared compatible shape =>
    cases shape with
    | tuple keywords size =>
      refine refuses_ite fun hkeywords => refuses_ite fun hsize => refuses_construct ?_
      exact fun hcompatible => haccepts ⟨not_not.mp hkeywords, not_not.mp hsize, hcompatible⟩
    | vector keywords nargs => exact refuses_constructVector body haccepts
  | typeCall target declared compatible keywords nargs =>
    obtain ⟨initializer, self, argsAllocated⟩ := target
    rcases initializer with _ | _
    · exact ⟨_, Or.inl rfl, returnsNull_refuse _⟩
    rcases self with _ | self
    · exact ⟨noMemory, Or.inr rfl, returnsNull_refuse noMemory⟩
    rcases argsAllocated with _ | _
    · refine ⟨noMemory, Or.inr rfl, fun w => ⟨rfl, rfl, ?_⟩⟩
      exact (World.own_pyErrSet _ _).trans (by simp)
    have hconstruct : ¬ (keywords = 0 ∧ nargs + 1 = declared + 1 ∧ compatible = true) := by
      rintro ⟨hkeywords, hnargs, hcompatible⟩
      exact haccepts ⟨rfl, Option.some_ne_none self, rfl, hkeywords,
        Nat.succ_injective hnargs, hcompatible⟩
    obtain ⟨e, htype, hcall⟩ := refuses_constructVector body hconstruct
    exact ⟨e, htype, returnsNull_exportTypeVectorcall hcall⟩

end Dynabridge.Python
