import Mathlib.Data.List.Sort
import Dynabridge.Python.Interpreter

/-!
# Import calls on the Python backend

C++ code calls a Python callable with arguments that it owns references to, as raw new
references or through `object_ref` guards.  `invoke_contract` lowers the arguments to guards, in
an order that the compiler chooses; `invoke_impl` passes them on to `call`, which goes through
`call_vector` or `call_tuple`.  At each of these layers the arguments are by-value parameters: a
guard that is moved on is left empty, a raw pointer is copied.
-/

namespace Dynabridge.Python

open Ledger

/-! ## Handles -/

/-- A reference that the invocation owns: the position of the argument in the call, the object,
and what runs when the reference is given up. -/
structure Lowered where
  position : ℕ
  object : Object
  finalizer : List Cleanup
  deriving DecidableEq

/-- What is recorded when the reference is given up. -/
def Lowered.reference (a : Lowered) : Reference := .argument a.position a.object

namespace World

/-- An owned reference is given up. -/
def release (w : World) (a : Lowered) : World :=
  ({ w.decref [a.object] with released := a.reference :: w.released }).cleanup a.finalizer

/-- Owned references are given up one after the other. -/
def releaseAll (l : List Lowered) (w : World) : World := l.foldl release w

end World

/-- An argument of `invoke_impl`: a raw pointer to a new reference, or an `object_ref`, which is
empty after a move. -/
inductive Handle
  | raw (value : Lowered)
  | guard (value : Option Lowered)
  deriving DecidableEq

namespace Handle

/-- The reference that comes with the handle. -/
def owned : Handle → Option Lowered
  | .raw a => some a
  | .guard x => x

/-- The reference that has to be given up by hand. -/
def unguarded : Handle → Option Lowered
  | .raw a => some a
  | .guard _ => none

/-- The reference that the destructor of the handle gives up. -/
def guarded : Handle → Option Lowered
  | .raw _ => none
  | .guard x => x

/-- Moving into a by-value parameter: the parameter, and what is left behind. -/
def move : Handle → Handle × Handle
  | .raw a => (.raw a, .raw a)
  | .guard x => (.guard x, .guard none)

/-- `call_arg_value` -/
def callArgValue (h : Handle) : Option Object := h.owned.map Lowered.object

/-- `release_call_arg`: the pointer that is handed over, and what is left of the argument. -/
def releaseCallArg : Handle → Option Lowered × Handle
  | .raw a => (some a, .raw a)
  | .guard x => (x, .guard none)

/-- `decref_arg`: a guard gives its reference up by itself. -/
def decrefArg (w : World) : Handle → World
  | .raw a => w.release a
  | .guard _ => w

/-- The destructor of a by-value parameter. -/
def destruct (w : World) : Handle → World
  | .raw _ => w
  | .guard x => w.releaseAll x.toList

end Handle

/-- `decref_args` -/
def decrefArgs (args : List Handle) (w : World) : World := args.foldl Handle.decrefArg w

/-- The by-value parameters of a function that returns or throws. -/
def destructAll (args : List Handle) (w : World) : World := args.foldl Handle.destruct w

/-- The references that come with the handles. -/
def ownedBy (args : List Handle) : List Lowered := args.filterMap Handle.owned

namespace World

variable (w : World)

@[simp] lemma releaseAll_nil : w.releaseAll [] = w := rfl

lemma releaseAll_append (l r : List Lowered) :
    w.releaseAll (l ++ r) = (w.releaseAll l).releaseAll r := List.foldl_append

@[simp] lemma own_releaseAll (l : List Lowered) :
    (w.releaseAll l).own = w.own - tally (l.map Lowered.object) := by
  induction l generalizing w with
  | nil => simp
  | cons a l ih =>
    have hrelease : (w.release a).own = w.own - Pi.single a.object 1 := by
      refine (own_cleanup _ _).trans ?_
      exact (own_decref w [a.object]).trans (by simp)
    refine (ih (w.release a)).trans ?_
    rw [hrelease, List.map_cons, tally_cons]
    abel

@[simp] lemma tally_released_releaseAll (l : List Lowered) :
    tally (w.releaseAll l).released = tally w.released + tally (l.map Lowered.reference) := by
  induction l generalizing w with
  | nil => simp
  | cons a l ih =>
    refine (ih (w.release a)).trans ?_
    rw [release, released_cleanup, tally_cons, List.map_cons, tally_cons]
    abel

end World

/-! ## What the handles give up -/

lemma decrefArgs_eq (args : List Handle) (w : World) :
    decrefArgs args w = w.releaseAll (args.filterMap Handle.unguarded) := by
  induction args generalizing w with
  | nil => rfl
  | cons h args ih =>
    cases h with
    | raw a => exact ih (w.release a)
    | guard x => exact ih w

lemma destructAll_eq (args : List Handle) (w : World) :
    destructAll args w = w.releaseAll (args.filterMap Handle.guarded) := by
  induction args generalizing w with
  | nil => rfl
  | cons h args ih =>
    rcases h with a | _ | a
    · exact ih w
    · exact ih w
    · exact ih (w.release a)

/-- Every reference is given up by hand or by a destructor, not by both. -/
lemma unguarded_append_guarded_perm (args : List Handle) :
    (args.filterMap Handle.unguarded ++ args.filterMap Handle.guarded).Perm (ownedBy args) := by
  induction args with
  | nil => exact List.Perm.refl _
  | cons h args ih =>
    rcases h with a | _ | a
    · exact ih.cons a
    · exact ih
    · exact List.perm_middle.trans (ih.cons a)

@[simp] lemma map_move_fst (args : List Handle) : args.map (fun h => h.move.1) = args := by
  refine (List.map_congr_left fun h _ => ?_).trans (List.map_id args)
  cases h <;> rfl

/-- What moves leave behind gives nothing up. -/
@[simp] lemma destructAll_move_snd (args : List Handle) (w : World) :
    destructAll (args.map fun h => h.move.2) w = w := by
  induction args generalizing w with
  | nil => rfl
  | cons h args ih => cases h <;> exact ih w

/-- What `fill_tuple` leaves behind gives nothing up. -/
@[simp] lemma destructAll_releaseCallArg_snd (args : List Handle) (w : World) :
    destructAll (args.map fun h => h.releaseCallArg.2) w = w := by
  induction args generalizing w with
  | nil => rfl
  | cons h args ih => cases h <;> exact ih w

lemma filterMap_releaseCallArg (args : List Handle) :
    args.filterMap (fun h => h.releaseCallArg.1) = ownedBy args := by
  refine List.filterMap_congr fun h _ => ?_
  cases h <;> rfl

lemma filterMap_callArgValue (args : List Handle) :
    args.filterMap Handle.callArgValue = (ownedBy args).map Lowered.object := by
  rw [ownedBy, List.map_filterMap]
  rfl

/-! ## Calling -/

/-- A Python callable.  `call` is what it does with arguments that it borrows; `retains` says
whether it keeps the tuple of its arguments, which is its own when it is called without one. -/
structure Callable where
  call : List Object → World → Option Object × World
  retains : List Object → Bool

namespace Callable

variable (f : Callable) (args : List Object) (w : World)

/-- `PyObject_Vectorcall` -/
def vectorcall : Option Object × World :=
  let (result, w) := f.call args w
  (result, if f.retains args then w.incref args else w)

/-- `PyObject_CallObject` with a tuple of the arguments -/
def callObject : Option Object × World :=
  let (result, w) := f.call args w
  (result, if f.retains args then w.incref [.argumentTuple] else w)

lemma vectorcall_snd : (f.vectorcall args w).2 =
    if f.retains args then (f.call args w).2.incref args else (f.call args w).2 := rfl

lemma callObject_snd : (f.callObject args w).2 =
    if f.retains args then (f.call args w).2.incref [.argumentTuple]
    else (f.call args w).2 := rfl

@[simp] lemma pending_vectorcall :
    (f.vectorcall args w).2.pending = (f.call args w).2.pending := by
  rw [vectorcall_snd]
  split <;> rfl

@[simp] lemma pending_callObject :
    (f.callObject args w).2.pending = (f.call args w).2.pending := by
  rw [callObject_snd]
  split <;> rfl

@[simp] lemma released_vectorcall :
    (f.vectorcall args w).2.released = (f.call args w).2.released := by
  rw [vectorcall_snd]
  split <;> rfl

@[simp] lemma released_callObject :
    (f.callObject args w).2.released = (f.call args w).2.released := by
  rw [callObject_snd]
  split <;> rfl

end Callable

/-- A context without a callable. -/
def noCallable (args : List Handle) (w : World) : Except CppException (Option Object) × World :=
  let w := decrefArgs args w
  let w := w.pyErrSetString .runtimeError "dynabridge Python context has no callable"
  (.ok none, destructAll args w)

/-- `call_vector`.  A failed call is captured before the arguments are released. -/
def callVector (callable : Option Callable) (args : List Handle) (w : World) :
    Except CppException (Option Object) × World :=
  match callable with
  | none => noCallable args w
  | some f =>
    let (result, w) := f.vectorcall (args.filterMap Handle.callArgValue) w
    match result with
    | none =>
      let (error, w) := PythonError.construct "Python callable returned null" w
      let w := decrefArgs args w
      (.error (.pythonError error), destructAll args w)
    | some result =>
      let w := decrefArgs args w
      (.ok (some result), destructAll args w)

/-- The destructor of the `object_ref` that holds the tuple: the items go with the tuple, unless
the callable keeps it.  In both cases the invocation has given its references up. -/
def destructTuple (retained : Bool) (items : List Lowered) (w : World) : World :=
  let w := w.decref [.argumentTuple]
  if retained then { w with released := items.map Lowered.reference ++ w.released }
  else w.releaseAll items

/-- `call_tuple`; `allocated` says whether `PyTuple_New` succeeds. -/
def callTuple (allocated : Bool) (callable : Option Callable) (args : List Handle) (w : World) :
    Except CppException (Option Object) × World :=
  match callable with
  | none => noCallable args w
  | some f =>
    if allocated then
      let w := w.incref [.argumentTuple]
      let items := args.filterMap fun h => h.releaseCallArg.1
      let args := args.map fun h => h.releaseCallArg.2
      let objects := items.map Lowered.object
      let (result, w) := f.callObject objects w
      match result with
      | none =>
        let (error, w) := PythonError.construct "Python callable returned null" w
        let w := destructTuple (f.retains objects) items w
        (.error (.pythonError error), destructAll args w)
      | some result =>
        let w := destructTuple (f.retains objects) items w
        (.ok (some result), destructAll args w)
    else
      let w := w.pyErrSet noMemory
      let w := decrefArgs args w
      (.ok none, destructAll args w)

/-- Which of the two functions `call` is compiled to use. -/
inductive CallPath
  | vector
  | tuple (allocated : Bool)
  deriving DecidableEq

/-- `call` -/
def call (path : CallPath) (callable : Option Callable) (args : List Handle) (w : World) :
    Except CppException (Option Object) × World :=
  let (outcome, w) :=
    match path with
    | .vector => callVector callable (args.map fun h => (Handle.move h).1) w
    | .tuple allocated => callTuple allocated callable (args.map fun h => (Handle.move h).1) w
  (outcome, destructAll (args.map fun h => (Handle.move h).2) w)

/-- The place of an import call in the C++ code: whether it has a receiver, which is then the
first argument; what `from_cast` makes of the result, a C++ value that keeps references to some
objects or a failure; and what runs when the result is released. -/
structure CallSite where
  member : Bool
  fromCast : Object → Except Failure (List Object)
  resultFinalizer : List Cleanup

/-- The message of `invoke_impl` for a call without a result. -/
def CallSite.nullMessage (site : CallSite) : String :=
  if site.member then "Python member callable returned null" else "Python callable returned null"

/-- The destructor of the `object_ref` that holds the result. -/
def destructResult (site : CallSite) (result : Object) (w : World) : World :=
  ({ w.decref [result] with released := .result result :: w.released }).cleanup
    site.resultFinalizer

/-- `invoke_impl` -/
def invokeImpl (path : CallPath) (site : CallSite) (callable : Option Callable)
    (args : List Handle) (w : World) : Except CppException (List Object) × World :=
  let (outcome, w) := call path callable (args.map fun h => h.move.1) w
  let args := args.map fun h => h.move.2
  match outcome with
  | .error x => (.error x, destructAll args w)
  | .ok none =>
    let (error, w) := PythonError.construct site.nullMessage w
    (.error (.pythonError error), destructAll args w)
  | .ok (some result) =>
    match site.fromCast result with
    | .ok value =>
      let w := destructResult site result (w.incref value)
      (.ok value, destructAll args w)
    | .error failure =>
      let (x, w) := failure.throw w
      let w := destructResult site result w
      (.error x, destructAll args w)

/-! ## Lowering -/

/-- An argument of `invoke_contract`: its position, what `to_cast` makes of it, which is a new
reference or a failure, and what runs when that reference is given up. -/
structure Argument where
  position : ℕ
  toCast : Except Failure Object
  finalizer : List Cleanup

/-- Lowering the arguments in the order in which they are evaluated.  A failure destroys the
guards made so far. -/
def lowerArguments :
    List Argument → List Lowered → World → Except CppException (List Lowered) × World
  | [], made, w => (.ok made, w)
  | a :: rest, made, w =>
    match a.toCast with
    | .ok object => lowerArguments rest (⟨a.position, object, a.finalizer⟩ :: made)
        (w.incref [object])
    | .error failure =>
      let (x, w) := failure.throw w
      (.error x, w.releaseAll made)

/-- The guards in the order of the parameters. -/
def byPosition (made : List Lowered) : List Handle :=
  (made.insertionSort fun a b => a.position ≤ b.position).map fun a => .guard (some a)

/-- `invoke_contract` -/
def invokeContract (path : CallPath) (site : CallSite) (callable : Option Callable)
    (arguments : List Argument) (w : World) : Except CppException (List Object) × World :=
  let (outcome, w) := lowerArguments arguments [] w
  match outcome with
  | .error x => (.error x, w)
  | .ok made => invokeImpl path site callable (byPosition made) w

/-- The two ways in: `invoke_contract` with arguments in the order in which they are evaluated,
or `invoke_impl` with new references as handles of any kind. -/
inductive Actuals
  | contract (arguments : List Argument)
  | handles (args : List Handle)

/-- The whole invocation.  The caller of `invoke_impl` makes the references that it passes. -/
def invoke (path : CallPath) (site : CallSite) (callable : Option Callable) (actuals : Actuals)
    (w : World) : Except CppException (List Object) × World :=
  match actuals with
  | .contract arguments => invokeContract path site callable arguments w
  | .handles args =>
    invokeImpl path site callable args (w.incref ((ownedBy args).map Lowered.object))

end Dynabridge.Python
