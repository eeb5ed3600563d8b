import Dynabridge.Foundations.Ledger

/-!
# The interpreter's error indicator and `python_error`

The interpreter keeps one pending error.  `PyErr_Fetch` moves it out, `PyErr_Restore` moves one
in and drops the one that was pending.  `python_error` carries an error through C++ frames, with
references of its own.

`World.own` is what the reference counts amount to without the references that the indicator and
the saved copies of `python_error` hold.  Every operation on errors keeps it; the references of
an exception in flight are counted in it.
-/

namespace Dynabridge.Python

open Ledger

/-! ## Objects and pending errors -/

/-- The identity of a Python object. -/
inductive Object
  /-- an object of the program -/
  | plain (id : ℕ)
  | typeError
  | runtimeError
  | memoryError
  /-- the string that `PyErr_SetString` makes of a message -/
  | text (message : String)
  /-- a traceback, by its frames, the outermost first -/
  | traceback (frames : List ℕ)
  /-- the tuple that carries the arguments of a call -/
  | argumentTuple
  deriving DecidableEq

/-- What the indicator holds while an error is pending.  A traceback without frames is a null
pointer. -/
structure PendingError where
  type : Object
  value : Option Object
  traceback : List ℕ
  deriving DecidableEq

/-- The traceback object of a list of frames. -/
def tracebackObject (frames : List ℕ) : List Object :=
  if frames = [] then [] else [.traceback frames]

/-- The objects that a pending error holds a reference to. -/
def PendingError.objects (e : PendingError) : List Object :=
  e.type :: (e.value.toList ++ tracebackObject e.traceback)

/-- The error that `PyErr_SetString` makes. -/
def errorOfText (type : Object) (message : String) : PendingError :=
  ⟨type, some (.text message), []⟩

/-- The error of an allocation that fails. -/
def noMemory : PendingError := ⟨.memoryError, none, []⟩

/-- The three pointers that `PyErr_Fetch` gives and `PyErr_Restore` takes; all of them are null
when there is no error. -/
abbrev Fetched := Option PendingError

/-- The objects that fetched pointers hold a reference to. -/
def heldBy : Fetched → List Object
  | none => []
  | some e => e.objects

@[simp] lemma heldBy_none : heldBy none = [] := rfl

@[simp] lemma heldBy_some (e : PendingError) : heldBy (some e) = e.objects := rfl

/-- `python_error`: the message of its `std::runtime_error` and the three pointers, which are
null after a move. -/
structure PythonError where
  message : String
  error : Fetched
  deriving DecidableEq

/-- The objects that a `python_error` holds a reference to. -/
def PythonError.objects (e : PythonError) : List Object := heldBy e.error

/-- A reference that an import call has to give up: that of a lowered argument, by its position
in the call, or that of the result. -/
inductive Reference
  | argument (position : ℕ) (object : Object)
  | result (object : Object)
  deriving DecidableEq

/-- The interpreter: its indicator, the reference count of every object, the copies of
`python_error` that C++ code has put aside, and the references that import calls have given up. -/
structure World where
  pending : Option PendingError
  refs : Object → ℤ
  saved : List PythonError := []
  released : List Reference := []

namespace World

/-- The references that neither the indicator nor a saved copy accounts for. -/
def own (w : World) : Object → ℤ :=
  w.refs - tally (heldBy w.pending) - tally (w.saved.flatMap PythonError.objects)

/-! ## The reference and error API -/

/-- `Py_XINCREF` of each of the pointers -/
def incref (l : List Object) (w : World) : World := { w with refs := w.refs + tally l }

/-- `Py_XDECREF` of each of the pointers -/
def decref (l : List Object) (w : World) : World := { w with refs := w.refs - tally l }

/-- `PyErr_Restore`: it takes the references over and drops those of the error that was
pending. -/
def pyErrRestore (e : Fetched) (w : World) : World :=
  { w with pending := e, refs := w.refs - tally (heldBy w.pending) }

/-- `PyErr_SetObject`: the indicator takes references of its own. -/
def pyErrSet (e : PendingError) (w : World) : World := (w.incref e.objects).pyErrRestore (some e)

/-- `PyErr_SetString` -/
def pyErrSetString (type : Object) (message : String) (w : World) : World :=
  w.pyErrSet (errorOfText type message)

/-- `PyErr_Clear` -/
def pyErrClear (w : World) : World := w.pyErrRestore none

/-- `PyErr_Fetch`: the references move out with the error. -/
def pyErrFetch (w : World) : Fetched × World := (w.pending, { w with pending := none })

variable (w : World) (l : List Object)

@[simp] lemma own_incref : (w.incref l).own = w.own + tally l := by
  simp only [own, incref]
  abel

@[simp] lemma own_decref : (w.decref l).own = w.own - tally l := by
  simp only [own, decref]
  abel

@[simp] lemma own_pyErrRestore (e : Fetched) :
    (w.pyErrRestore e).own = w.own - tally (heldBy e) := by
  simp only [own, pyErrRestore]
  abel

@[simp] lemma own_pyErrSet (e : PendingError) : (w.pyErrSet e).own = w.own := by
  rw [pyErrSet, own_pyErrRestore, own_incref, heldBy_some, add_sub_cancel_right]

@[simp] lemma own_pyErrSetString (type : Object) (message : String) :
    (w.pyErrSetString type message).own = w.own := own_pyErrSet w _

@[simp] lemma own_pyErrClear : w.pyErrClear.own = w.own := by
  rw [pyErrClear, own_pyErrRestore, heldBy_none, tally_nil, sub_zero]

@[simp] lemma own_pyErrFetch : w.pyErrFetch.2.own = w.own + tally (heldBy w.pyErrFetch.1) := by
  simp only [own, pyErrFetch, heldBy_none, tally_nil]
  abel

@[simp] lemma pending_pyErrSet (e : PendingError) : (w.pyErrSet e).pending = some e := rfl

@[simp] lemma pending_pyErrSetString (type : Object) (message : String) :
    (w.pyErrSetString type message).pending = some (errorOfText type message) := rfl

@[simp] lemma released_incref : (w.incref l).released = w.released := rfl

@[simp] lemma released_decref : (w.decref l).released = w.released := rfl

@[simp] lemma released_pyErrSet (e : PendingError) : (w.pyErrSet e).released = w.released := rfl

@[simp] lemma released_pyErrSetString (type : Object) (message : String) :
    (w.pyErrSetString type message).released = w.released := rfl

@[simp] lemma released_pyErrFetch : w.pyErrFetch.2.released = w.released := rfl

end World

/-! ## Code that interferes -/

/-- What a finalizer or a destructor does to the indicator. -/
inductive Cleanup
  | set (e : PendingError)
  | clear
  deriving DecidableEq

/-- One such step. -/
def Cleanup.step (w : World) : Cleanup → World
  | .set e => w.pyErrSet e
  | .clear => w.pyErrClear

namespace World

/-- A finalizer or a destructor that takes the steps one after the other. -/
def cleanup (steps : List Cleanup) (w : World) : World := steps.foldl Cleanup.step w

@[simp] lemma own_cleanup (steps : List Cleanup) (w : World) :
    (w.cleanup steps).own = w.own := by
  induction steps generalizing w with
  | nil => rfl
  | cons step steps ih =>
    refine (ih (step.step w)).trans ?_
    cases step with
    | set e => exact own_pyErrSet w e
    | clear => exact own_pyErrClear w

@[simp] lemma released_cleanup (steps : List Cleanup) (w : World) :
    (w.cleanup steps).released = w.released := by
  induction steps generalizing w with
  | nil => rfl
  | cons step steps ih =>
    refine (ih (step.step w)).trans ?_
    cases step <;> rfl

end World

/-! ## `python_error` -/

namespace PythonError

/-- The constructor: when no error is pending it makes a `RuntimeError` of its message. -/
def construct (message : String) (w : World) : PythonError × World :=
  let w := if w.pending.isNone then w.pyErrSetString .runtimeError message else w
  let (error, w) := w.pyErrFetch
  (⟨message, error⟩, w)

/-- The copy constructor. -/
def copy (e : PythonError) (w : World) : PythonError × World := (e, w.incref e.objects)

/-- The move constructor: the new exception and what is left of the old one. -/
def move (e : PythonError) : PythonError × PythonError := (e, { e with error := none })

/-- The destructor. -/
def destroy (e : PythonError) (w : World) : World := w.decref e.objects

/-- `restore`: the exception keeps its references, `PyErr_Restore` takes new ones. -/
def restore (e : PythonError) (w : World) : World := (w.incref e.objects).pyErrRestore e.error

variable (e : PythonError) (message : String) (w : World)

/-- The error that the constructor captures. -/
@[simp] lemma construct_error :
    (construct message w).1.error =
      some (w.pending.getD (errorOfText .runtimeError message)) := by
  cases h : w.pending with
  | none => simp [construct, h, World.pyErrFetch]
  | some e => simp [construct, h, World.pyErrFetch]

@[simp] lemma own_construct :
    (construct message w).2.own = w.own + tally (construct message w).1.objects := by
  unfold construct objects
  split <;> simp

@[simp] lemma released_construct : (construct message w).2.released = w.released := by
  unfold construct
  split <;> simp

@[simp] lemma own_destroy : (e.destroy w).own = w.own - tally e.objects := w.own_decref _

@[simp] lemma own_restore : (e.restore w).own = w.own := by
  rw [restore, World.own_pyErrRestore, World.own_incref, objects, add_sub_cancel_right]

end PythonError

/-! ## C++ exceptions -/

/-- An exception in flight, as the handlers of the boundary tell exceptions apart.
`python_error` and `bad_conversion` are themselves exceptions of the standard library. -/
inductive CppException
  | pythonError (e : PythonError)
  | badConversion (what : String)
  | stdException (what : String)
  | unknown
  deriving DecidableEq

/-- The objects that an exception in flight holds a reference to. -/
def CppException.objects : CppException → List Object
  | .pythonError e => e.objects
  | _ => []

/-- What makes C++ code throw: an interpreter error that it turns into a `python_error`, or an
exception of its own. -/
inductive Failure
  | pythonError (message : String) (e : PendingError)
  | badConversion (what : String)
  | stdException (what : String)
  | unknown
  deriving DecidableEq

/-- The exception is thrown. -/
def Failure.throw (w : World) : Failure → CppException × World
  | .pythonError message e =>
    let (error, w) := PythonError.construct message (w.pyErrSet e)
    (.pythonError error, w)
  | .badConversion what => (.badConversion what, w)
  | .stdException what => (.stdException what, w)
  | .unknown => (.unknown, w)

@[simp] lemma Failure.own_throw (f : Failure) (w : World) :
    (f.throw w).2.own = w.own + tally (f.throw w).1.objects := by
  cases f with
  | pythonError message e =>
    simp only [throw, PythonError.own_construct, World.own_pyErrSet, CppException.objects]
  | badConversion | stdException | unknown => simp [throw, CppException.objects]

@[simp] lemma Failure.released_throw (f : Failure) (w : World) :
    (f.throw w).2.released = w.released := by
  cases f with
  | pythonError message e => simp [throw]
  | badConversion | stdException | unknown => rfl

end Dynabridge.Python
