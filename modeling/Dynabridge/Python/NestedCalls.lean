import Dynabridge.Python.ErrorBoundary

/-!
# Nested calls between Python and C++

An exported callable fails by itself, or its C++ code calls a Python callable that raises an
error, or one that calls an exported callable again.  However deep the calls are nested and
whatever runs while the C++ frames unwind, the outermost entry returns null with the innermost
error pending; only its traceback has grown, by the frames of the Python callables in between.
-/

namespace Dynabridge.Python

open Ledger

/-! ## Unwinding -/

/-- What happens while C++ frames unwind: a destructor sets or clears the indicator; the
exception goes on as a copy of itself or moves on; a copy is put aside, or one of those that were
put aside goes. -/
inductive Unwind
  | cleanup (step : Cleanup)
  | copy
  | move
  | save
  | drop (i : ℕ)
  deriving DecidableEq

/-- One such step, while the exception is in flight. -/
def Unwind.step (s : CppException × World) (u : Unwind) : CppException × World :=
  match u, s with
  | .cleanup step, (x, w) => (x, step.step w)
  | .copy, (.pythonError e, w) =>
    let (copied, w) := e.copy w
    (.pythonError copied, e.destroy w)
  | .move, (.pythonError e, w) => (.pythonError e.move.1, e.move.2.destroy w)
  | .save, (.pythonError e, w) =>
    let (copied, w) := e.copy w
    (.pythonError e, { w with saved := copied :: w.saved })
  | .drop i, (x, w) =>
    match w.saved[i]? with
    | some e => (x, e.destroy { w with saved := w.saved.eraseIdx i })
    | none => (x, w)
  | _, s => s

/-- The exception leaves the frames between its origin and the entry. -/
def unwind (steps : List Unwind) (s : CppException × World) : CppException × World :=
  steps.foldl Unwind.step s

/-- A step changes neither what the exception stands for nor the references of anything else. -/
lemma Unwind.step_spec (u : Unwind) (x : CppException) (w : World) :
    (∀ fallback, (u.step (x, w)).1.pending fallback = x.pending fallback) ∧
      (u.step (x, w)).2.own - tally (u.step (x, w)).1.objects = w.own - tally x.objects := by
  cases u with
  | cleanup step =>
    refine ⟨fun _ => rfl, ?_⟩
    have hown : (step.step w).own = w.own := w.own_cleanup [step]
    exact congrArg (· - tally x.objects) hown
  | copy =>
    cases x with
    | pythonError e =>
      refine ⟨fun _ => rfl, ?_⟩
      simp [Unwind.step, PythonError.copy, CppException.objects]
    | badConversion | stdException | unknown => exact ⟨fun _ => rfl, rfl⟩
  | move =>
    cases x with
    | pythonError e =>
      refine ⟨fun _ => rfl, ?_⟩
      simp [Unwind.step, PythonError.move, CppException.objects, PythonError.objects]
    | badConversion | stdException | unknown => exact ⟨fun _ => rfl, rfl⟩
  | save =>
    cases x with
    | pythonError e =>
      refine ⟨fun _ => rfl, ?_⟩
      simp only [Unwind.step, PythonError.copy, World.own, World.incref, List.flatMap_cons,
        tally_append]
      abel
    | badConversion | stdException | unknown => exact ⟨fun _ => rfl, rfl⟩
  | drop i =>
    cases hsaved : w.saved[i]? with
    | none =>
      simp only [Unwind.step, hsaved]
      exact ⟨fun _ => trivial, trivial⟩
    | some e =>
      obtain ⟨hi, rfl⟩ := List.getElem?_eq_some_iff.mp hsaved
      simp only [Unwind.step, hsaved]
      refine ⟨fun _ => trivial, ?_⟩
      rw [PythonError.own_destroy]
      simp only [World.own, tally_flatMap_eraseIdx PythonError.objects hi]
      abel

lemma unwind_spec (steps : List Unwind) (x : CppException) (w : World) :
    (∀ fallback, (unwind steps (x, w)).1.pending fallback = x.pending fallback) ∧
      (unwind steps (x, w)).2.own - tally (unwind steps (x, w)).1.objects =
        w.own - tally x.objects := by
  induction steps generalizing x w with
  | nil => exact ⟨fun _ => rfl, rfl⟩
  | cons u steps ih =>
    obtain ⟨hpending, hown⟩ := u.step_spec x w
    obtain ⟨hpending', hown'⟩ := ih (u.step (x, w)).1 (u.step (x, w)).2
    exact ⟨fun fallback => (hpending' fallback).trans (hpending fallback), hown'.trans hown⟩

/-! ## A failed import call -/

/-- The error that an entry with the given fallback makes of a failure: an interpreter error as
it is, a `TypeError` of `bad_conversion`, a `RuntimeError` of anything else. -/
def Failure.pending (fallback : String) : Failure → PendingError
  | .pythonError _ e => e
  | .badConversion what => errorOfText .typeError what
  | .stdException what => errorOfText .runtimeError what
  | .unknown => errorOfText .runtimeError fallback

lemma Failure.pending_throw (failure : Failure) (fallback : String) (w : World) :
    (failure.throw w).1.pending fallback = some (failure.pending fallback) := by
  cases failure with
  | pythonError message e => simp [Failure.throw, CppException.pending, Failure.pending]
  | badConversion | stdException | unknown => rfl

/-- How `call` is compiled, with a tuple that is allocated. -/
def callPath (throughTuple : Bool) : CallPath := if throughTuple then .tuple true else .vector

lemma reached_callPath (throughTuple : Bool) (f : Callable) :
    reached (callPath throughTuple) (some f) = some f := by
  cases throughTuple <;> rfl

section Failing

variable {f : Callable} {e : PendingError} {kept : List Object} (throughTuple : Bool)
  (site : CallSite)

/-- The error is captured before anything is released. -/
lemma call_raises (args : List Handle) (w : World)
    (hf : ReturnsNull (f.call (argumentObjects args)) e kept) :
    ∃ error, (call (callPath throughTuple) (some f) args w).1 = .error (.pythonError error) ∧
      error.error = some e := by
  obtain ⟨heq, -⟩ | ⟨heq, -⟩ := call_of_reached args w (reached_callPath throughTuple f)
  · obtain ⟨hnull, hpending, -⟩ := hf w
    rw [heq, callVector_of_none args f w hnull]
    refine ⟨_, rfl, ?_⟩
    rw [PythonError.construct_error, f.pending_vectorcall, hpending, Option.getD_some]
  · obtain ⟨hnull, hpending, -⟩ := hf (w.incref [.argumentTuple])
    rw [heq, callTuple_of_none args f w hnull]
    refine ⟨_, rfl, ?_⟩
    rw [PythonError.construct_error, f.pending_callObject, hpending, Option.getD_some]

/-- `invoke_impl` passes the exception on. -/
lemma invokeImpl_raises (args : List Handle) (w : World)
    (hretains : f.retains (argumentObjects args) = false)
    (hf : ReturnsNull (f.call (argumentObjects args)) e kept) :
    ∃ error, (invokeImpl (callPath throughTuple) site (some f) args w).1 =
        .error (.pythonError error) ∧ error.error = some e ∧
      (invokeImpl (callPath throughTuple) site (some f) args w).2.own =
        w.own + tally kept - tally (argumentObjects args) + tally error.objects := by
  obtain ⟨error, hcall, herror⟩ := call_raises throughTuple args w hf
  have hown := own_call args w (fun g hg => by
    rw [reached_callPath throughTuple f] at hg
    obtain rfl := Option.some.inj hg
    exact fun w => (hf w).2.2)
  have houtcome : (invokeImpl (callPath throughTuple) site (some f) args w).1 =
      .error (.pythonError error) := by
    simp only [invokeImpl, map_move_fst]
    rcases hsplit : call (callPath throughTuple) (some f) args w with ⟨outcome, w'⟩
    rw [hsplit] at hcall
    obtain rfl : outcome = .error (.pythonError error) := hcall
    rfl
  refine ⟨error, houtcome, herror, ?_⟩
  rw [own_invokeImpl, houtcome, hown, calleeAccount, reached_callPath, hcall]
  simp only [retained, hretains, Bool.false_eq_true, if_false, thrown, resultOf, heldByOutcome,
    CppException.objects, tally_nil]
  abel

/-- A failed invocation throws what stands for the error of the callable, or for the first
conversion that fails. -/
lemma invoke_throws (actuals : Actuals) (fallback : String) (hretains : ∀ l, f.retains l = false)
    (hf : ∀ l, ReturnsNull (f.call l) e kept) (w : World) :
    ∃ x, (invoke (callPath throughTuple) site (some f) actuals w).1 = .error x ∧
      x.pending fallback = some ((actuals.failure.map (Failure.pending fallback)).getD e) ∧
      (invoke (callPath throughTuple) site (some f) actuals w).2.own =
        w.own + tally (if actuals.failure.isSome then [] else kept) + tally x.objects := by
  obtain ⟨made, hmade, heq⟩ := invoke_eq (callPath throughTuple) site (some f) actuals w
  rw [heq]
  cases hfailure : actuals.failure with
  | some failure =>
    have hobjects : tally (made.map Lowered.object) =
        tally (actuals.lowered.map Lowered.object) :=
      tally_eq_iff_perm.mpr (hmade.map Lowered.object)
    refine ⟨_, rfl, failure.pending_throw fallback _, ?_⟩
    simp only [World.own_releaseAll, Failure.own_throw, World.own_incref, hobjects,
      Option.isSome_some, if_true, tally_nil]
    abel
  | none =>
    obtain ⟨error, houtcome, herror, hown⟩ := invokeImpl_raises throughTuple
      site actuals.passed (w.incref (actuals.lowered.map Lowered.object)) (hretains _) (hf _)
    have hlowered : tally (argumentObjects actuals.passed) =
        tally (actuals.lowered.map Lowered.object) := actuals.tally_passed Lowered.object
    refine ⟨.pythonError error, houtcome, herror, hown.trans ?_⟩
    simp only [World.own_incref, hlowered, Option.isSome_none, Bool.false_eq_true, if_false,
      CppException.objects]
    abel

end Failing

/-! ## Python callables in between -/

/-- A frame of a Python callable that an error passes through, with the objects that it keeps
alive, such as its locals. -/
structure PythonFrame where
  frame : ℕ
  kept : List Object
  deriving DecidableEq

/-- `PyTraceBack_Here`: a new traceback object takes over the reference to the old one. -/
def World.addFrame (w : World) (f : PythonFrame) : World :=
  match w.pending with
  | none => w
  | some e =>
    let traceback := f.frame :: e.traceback
    { w.incref (tracebackObject traceback ++ f.kept) with
      pending := some { e with traceback := traceback } }

/-- The error after it has passed through the frames, the innermost first. -/
def PendingError.through (e : PendingError) (frames : List PythonFrame) : PendingError :=
  { e with traceback := (frames.map PythonFrame.frame).reverse ++ e.traceback }

/-- What the frames keep, and the traceback objects that later ones are linked to. -/
def linked : List PythonFrame → List ℕ → List Object
  | [], _ => []
  | f :: frames, traceback =>
    f.kept ++ tracebackObject traceback ++ linked frames (f.frame :: traceback)

lemma World.own_addFrame {w : World} {e : PendingError} (f : PythonFrame)
    (h : w.pending = some e) :
    (w.addFrame f).own = w.own + tally (f.kept ++ tracebackObject e.traceback) := by
  simp only [World.addFrame, h, World.own, World.incref, heldBy_some, PendingError.objects,
    tally_cons, tally_append]
  abel

/-- An error that passes through frames. -/
lemma addFrames_spec (frames : List PythonFrame) {w : World} {e : PendingError}
    (h : w.pending = some e) :
    (frames.foldl World.addFrame w).pending = some (e.through frames) ∧
      (frames.foldl World.addFrame w).own = w.own + tally (linked frames e.traceback) := by
  induction frames generalizing w e with
  | nil => exact ⟨h, by simp [linked]⟩
  | cons f frames ih =>
    have hstep : (w.addFrame f).pending =
        some { e with traceback := f.frame :: e.traceback } := by
      simp only [World.addFrame, h]
    obtain ⟨hpending, hown⟩ := ih hstep
    refine ⟨hpending.trans ?_, ?_⟩
    · simp [PendingError.through]
    · refine hown.trans ?_
      rw [World.own_addFrame f h, linked, tally_append (_ ++ _)]
      abel

/-! ## Nested calls -/

/-- A frame of C++ code that calls a Python callable: the entry that it was called by and that
its exceptions go to, the import call, and what happens while it unwinds. -/
structure CppFrame where
  entry : Entry
  accepts : entry.Accepts
  site : CallSite
  throughTuple : Bool
  actuals : Actuals
  unwinding : List Unwind

namespace CppFrame

/-- The native code, which catches nothing. -/
def body (frame : CppFrame) (f : Callable) : Body := fun w =>
  match invoke (callPath frame.throughTuple) frame.site (some f) frame.actuals w with
  | (.ok _, w) => (.ok none, w)
  | (.error x, w) =>
    let (x, w) := unwind frame.unwinding (x, w)
    (.error x, w)

/-- The error that leaves the frame when the callable raises one: a conversion that fails comes
before it. -/
def raised (frame : CppFrame) (e : PendingError) : PendingError :=
  (frame.actuals.failure.map (Failure.pending frame.entry.fallback)).getD e

/-- Without the call nothing is left of what the callable keeps. -/
def keeps (frame : CppFrame) {α : Type} (kept : List α) : List α :=
  if frame.actuals.failure.isSome then [] else kept

/-- The entry returns null when the callable does. -/
lemma returnsNull_enter (frame : CppFrame) {f : Callable} {e : PendingError}
    {kept : List Object} (hretains : ∀ l, f.retains l = false)
    (hf : ∀ l, ReturnsNull (f.call l) e kept) :
    ReturnsNull (frame.entry.enter (frame.body f)) (frame.raised e) (frame.keeps kept) := by
  refine Python.returnsNull_enter frame.accepts fun w => ?_
  obtain ⟨x, houtcome, hpending, hown⟩ := invoke_throws frame.throughTuple
    frame.site frame.actuals frame.entry.fallback hretains hf w
  unfold body
  rcases hinvoke : invoke (callPath frame.throughTuple) frame.site (some f) frame.actuals w with
    ⟨outcome, w'⟩
  rw [hinvoke] at houtcome hown
  obtain rfl : outcome = .error x := houtcome
  obtain ⟨hpending', hown'⟩ := unwind_spec frame.unwinding x w'
  refine ⟨_, rfl, (hpending' _).trans hpending, ?_⟩
  refine (sub_eq_iff_eq_add.mp hown').trans ?_
  rw [hown, keeps, add_sub_cancel_right]

end CppFrame

/-- An exported callable that fails: its native code throws an exception of its own; or it calls
a Python callable that raises an error, whose frames keep some objects; or it calls a Python
callable that calls an exported one, whose error passes through the frames in between. -/
inductive Exported
  | fails (entry : Entry) (accepts : entry.Accepts) (failure : Failure) (unwinding : List Unwind)
  | raises (frame : CppFrame) (e : PendingError) (kept : List Object)
  | nests (frame : CppFrame) (python : List PythonFrame) (inner : Exported)

namespace Exported

/-- The call of the exported callable. -/
def run : Exported → World → Option Object × World
  | .fails entry _ failure unwinding => entry.enter fun w =>
    let (x, w) := unwind unwinding (failure.throw w)
    (.error x, w)
  | .raises frame e kept => frame.entry.enter (frame.body
    ⟨fun _ w => (none, (w.incref kept).pyErrSet e), fun _ => false⟩)
  | .nests frame python inner => frame.entry.enter (frame.body
    ⟨fun _ w =>
      let (result, w) := inner.run w
      (result, python.foldl World.addFrame w), fun _ => false⟩)

/-- The innermost error: that of the Python callable at the end of the nesting, or that of the C++
exception which was thrown instead of going on to it. -/
def origin : Exported → PendingError
  | .fails entry _ failure _ => failure.pending entry.fallback
  | .raises frame e _ => frame.raised e
  | .nests frame _ inner => frame.raised inner.origin

/-- The frames that the interpreter has added to the traceback of the innermost error. -/
def frames : Exported → List ℕ
  | .nests frame python inner =>
    frame.keeps ((python.map PythonFrame.frame).reverse ++ inner.frames)
  | _ => []

/-- The innermost error with the frames added. -/
def error (x : Exported) : PendingError :=
  { x.origin with traceback := x.frames ++ x.origin.traceback }

/-- The objects that frames and traceback objects keep. -/
def kept : Exported → List Object
  | .fails _ _ _ _ => []
  | .raises frame _ kept => frame.keeps kept
  | .nests frame python inner =>
    frame.keeps (inner.kept ++ linked python inner.error.traceback)

lemma returnsNull_fails (entry : Entry) (accepts : entry.Accepts) (failure : Failure)
    (unwinding : List Unwind) :
    ReturnsNull (fails entry accepts failure unwinding).run (failure.pending entry.fallback)
      [] := by
  refine returnsNull_enter accepts fun w => ?_
  obtain ⟨hpending, hown⟩ := unwind_spec unwinding (failure.throw w).1 (failure.throw w).2
  refine ⟨_, rfl, (hpending _).trans (failure.pending_throw _ w), ?_⟩
  refine (sub_eq_iff_eq_add.mp hown).trans ?_
  rw [Failure.own_throw, tally_nil]
  abel

lemma returnsNull_raises (frame : CppFrame) (e : PendingError) (kept : List Object) :
    ReturnsNull (raises frame e kept).run (frame.raised e) (frame.keeps kept) := by
  refine frame.returnsNull_enter (fun _ => rfl) fun _ w => ⟨rfl, rfl, ?_⟩
  rw [World.own_pyErrSet, World.own_incref]

lemma returnsNull_nests (frame : CppFrame) (python : List PythonFrame) {inner : Exported}
    {e : PendingError} {kept : List Object} (h : ReturnsNull inner.run e kept) :
    ReturnsNull (nests frame python inner).run (frame.raised (e.through python))
      (frame.keeps (kept ++ linked python e.traceback)) := by
  refine frame.returnsNull_enter (fun _ => rfl) fun _ w => ?_
  obtain ⟨hnull, hpending, hown⟩ := h w
  obtain ⟨hpending', hown'⟩ := addFrames_spec python hpending
  refine ⟨hnull, hpending', hown'.trans ?_⟩
  rw [hown, tally_append, add_assoc]

/-- A conversion that fails in a frame replaces the error, otherwise the frames are added. -/
lemma error_nests (frame : CppFrame) (python : List PythonFrame) (inner : Exported) :
    (nests frame python inner).error = frame.raised (inner.error.through python) := by
  have herror : (nests frame python inner).error =
      { frame.raised inner.origin with
        traceback := frame.keeps ((python.map PythonFrame.frame).reverse ++ inner.frames) ++
          (frame.raised inner.origin).traceback } := rfl
  rw [herror]
  unfold CppFrame.raised CppFrame.keeps
  cases frame.actuals.failure with
  | some failure => simp
  | none => simp [PendingError.through, error]

/-- By induction on the nesting, from the innermost call outwards. -/
lemma returnsNull_run (x : Exported) : ReturnsNull x.run x.error x.kept := by
  induction x with
  | fails entry accepts failure unwinding =>
    exact returnsNull_fails entry accepts failure unwinding
  | raises frame e kept => exact returnsNull_raises frame e kept
  | nests frame python inner ih =>
    rw [error_nests]
    exact returnsNull_nests frame python ih

/-- The outermost entry returns null with the innermost error pending: its type and its value
are those of the innermost error, its traceback has grown by the frames of the Python callables
in between, and the references of every object are balanced but for what these frames and the
traceback objects keep. -/
theorem run_pending (x : Exported) (w : World) :
    (x.run w).1 = none ∧
      (x.run w).2.pending =
        some ⟨x.origin.type, x.origin.value, x.frames ++ x.origin.traceback⟩ ∧
      (x.run w).2.own = w.own + tally x.kept := returnsNull_run x w

-- a callback that calls `use_callback` with a callback that raises: frame 1 joins frame 0
example :
    let frame : CppFrame := ⟨.callable 2 (.vector 0 2), ⟨rfl, rfl⟩,
      ⟨false, fun _ => .ok [], []⟩, false, .handles [], [.cleanup .clear]⟩
    (nests frame [⟨1, []⟩] (raises frame ⟨.plain 0, some (.plain 1), [0]⟩ [])).error =
      ⟨.plain 0, some (.plain 1), [1, 0]⟩ := rfl

end Exported

end Dynabridge.Python
