import Dynabridge.Python.ImportCall

/-!
# The references of an import call

An invocation gives up every reference that it has made or taken over, exactly once, and
otherwise changes the counts only by what the callable does and by what the outcome holds.
-/

namespace Dynabridge.Python

open Ledger

/-! ## What an invocation holds and gives up -/

/-- The objects that an exception holds a reference to, if one is thrown. -/
def thrown {α : Type} : Except CppException α → List Object
  | .error x => x.objects
  | .ok _ => []

/-- The result of `call`, a new reference. -/
def resultOf : Except CppException (Option Object) → List Object
  | .ok (some result) => [result]
  | _ => []

/-- The objects to which the outcome of an invocation holds a reference: those that the C++ value
keeps, or those of the exception. -/
def heldByOutcome : Except CppException (List Object) → List Object
  | .ok value => value
  | .error x => x.objects

/-- The objects of the arguments. -/
def argumentObjects (args : List Handle) : List Object := (ownedBy args).map Lowered.object

/-- What a callable keeps with the tuple of its arguments, if it keeps that tuple. -/
def retained (path : CallPath) (retains : Bool) (objects : List Object) : List Object :=
  if retains then
    match path with
    | .vector => objects
    | .tuple _ => .argumentTuple :: objects
  else []

/-- The callable that `call` gets to. -/
def reached {α : Type} (path : CallPath) (callable : Option α) : Option α :=
  match path with
  | .tuple false => none
  | _ => callable

section Accounts

variable {args : List Handle} {f : Callable} {w : World}

/-- Releasing by hand and by destructors gives up every reference. -/
lemma tally_unguarded_add_guarded {β : Type} [DecidableEq β] (g : Lowered → β)
    (args : List Handle) :
    tally ((args.filterMap Handle.unguarded).map g) +
      tally ((args.filterMap Handle.guarded).map g) = tally ((ownedBy args).map g) := by
  rw [← tally_append, ← List.map_append]
  exact tally_eq_iff_perm.mpr ((unguarded_append_guarded_perm args).map g)

@[simp] lemma own_decrefArgs :
    (decrefArgs args w).own =
      w.own - tally ((args.filterMap Handle.unguarded).map Lowered.object) := by
  rw [decrefArgs_eq, World.own_releaseAll]

@[simp] lemma own_destructAll :
    (destructAll args w).own =
      w.own - tally ((args.filterMap Handle.guarded).map Lowered.object) := by
  rw [destructAll_eq, World.own_releaseAll]

lemma own_noCallable :
    (noCallable args w).2.own = w.own - tally (argumentObjects args) := by
  simp only [noCallable, own_destructAll, World.own_pyErrSetString, own_decrefArgs]
  rw [argumentObjects, ← tally_unguarded_add_guarded]
  abel

lemma own_destructTuple (retained : Bool) (items : List Lowered) :
    (destructTuple retained items w).own = w.own - Pi.single .argumentTuple 1 -
      if retained then 0 else tally (items.map Lowered.object) := by
  cases retained with
  | true =>
    refine (World.own_decref w [.argumentTuple]).trans ?_
    simp
  | false => simp [destructTuple]

lemma own_vectorcall {objects : List Object} {effect : Object → ℤ}
    (hown : ∀ w, (f.call objects w).2.own = w.own + effect) :
    (f.vectorcall objects w).2.own =
      w.own + effect + tally (retained .vector (f.retains objects) objects) := by
  rw [f.vectorcall_snd, retained]
  split
  · rw [World.own_incref, hown]
  · rw [hown, tally_nil, add_zero]

lemma own_callObject {objects : List Object} {effect : Object → ℤ}
    (hown : ∀ w, (f.call objects w).2.own = w.own + effect) :
    (f.callObject objects w).2.own =
      w.own + effect + if f.retains objects then Pi.single .argumentTuple 1 else 0 := by
  rw [f.callObject_snd]
  split
  · rw [World.own_incref, hown, tally_cons, tally_nil, add_zero]
  · rw [hown, add_zero]

end Accounts

/-! ## The two ways to call -/

section Outcomes

variable (args : List Handle) (f : Callable) (w : World)

/-- A call through `call_vector` that fails. -/
lemma callVector_of_none (h : (f.vectorcall (argumentObjects args) w).1 = none) :
    callVector (some f) args w =
      let captured := PythonError.construct "Python callable returned null"
        (f.vectorcall (argumentObjects args) w).2
      (.error (.pythonError captured.1), destructAll args (decrefArgs args captured.2)) := by
  rw [callVector, filterMap_callArgValue]
  rcases hcall : f.vectorcall (argumentObjects args) w with ⟨result, w'⟩
  obtain rfl : result = none := by rw [← h, hcall]
  rw [argumentObjects] at hcall
  simp only [hcall]

/-- A call through `call_vector` that succeeds. -/
lemma callVector_of_some {result : Object}
    (h : (f.vectorcall (argumentObjects args) w).1 = some result) :
    callVector (some f) args w = (.ok (some result),
      destructAll args (decrefArgs args (f.vectorcall (argumentObjects args) w).2)) := by
  rw [callVector, filterMap_callArgValue]
  rcases hcall : f.vectorcall (argumentObjects args) w with ⟨result', w'⟩
  obtain rfl : result' = some result := by rw [← h, hcall]
  rw [argumentObjects] at hcall
  simp only [hcall]

/-- The call of `call_tuple`, once the tuple is filled. -/
lemma callTuple_of_none
    (h : (f.callObject (argumentObjects args) (w.incref [.argumentTuple])).1 = none) :
    callTuple true (some f) args w =
      let captured := PythonError.construct "Python callable returned null"
        (f.callObject (argumentObjects args) (w.incref [.argumentTuple])).2
      (.error (.pythonError captured.1),
        destructTuple (f.retains (argumentObjects args)) (ownedBy args) captured.2) := by
  simp only [callTuple, if_true, filterMap_releaseCallArg]
  rcases hcall : f.callObject (argumentObjects args) (w.incref [.argumentTuple]) with ⟨result, w'⟩
  obtain rfl : result = none := by rw [← h, hcall]
  rw [argumentObjects] at hcall
  simp only [hcall, destructAll_releaseCallArg_snd, argumentObjects]

lemma callTuple_of_some {result : Object}
    (h : (f.callObject (argumentObjects args) (w.incref [.argumentTuple])).1 = some result) :
    callTuple true (some f) args w = (.ok (some result),
      destructTuple (f.retains (argumentObjects args)) (ownedBy args)
        (f.callObject (argumentObjects args) (w.incref [.argumentTuple])).2) := by
  simp only [callTuple, if_true, filterMap_releaseCallArg]
  rcases hcall : f.callObject (argumentObjects args) (w.incref [.argumentTuple]) with ⟨result', w'⟩
  obtain rfl : result' = some result := by rw [← h, hcall]
  rw [argumentObjects] at hcall
  simp only [hcall, destructAll_releaseCallArg_snd, argumentObjects]

/-- The account of `call_vector`. -/
lemma own_callVector {effect : Object → ℤ}
    (hown : ∀ w, (f.call (argumentObjects args) w).2.own = w.own + effect) :
    (callVector (some f) args w).2.own =
      w.own + effect
        + tally (retained .vector (f.retains (argumentObjects args)) (argumentObjects args))
        - tally (argumentObjects args) + tally (thrown (callVector (some f) args w).1) := by
  have hsplit := tally_unguarded_add_guarded Lowered.object args
  rw [← argumentObjects] at hsplit
  cases hresult : (f.vectorcall (argumentObjects args) w).1 with
  | none =>
    rw [callVector_of_none args f w hresult, ← hsplit]
    simp only [own_destructAll, own_decrefArgs, PythonError.own_construct,
      own_vectorcall hown, thrown, CppException.objects]
    abel
  | some result =>
    rw [callVector_of_some args f w hresult, ← hsplit]
    simp only [own_destructAll, own_decrefArgs, own_vectorcall hown, thrown, tally_nil]
    abel

/-- The account of `call_tuple`. -/
lemma own_callTuple {effect : Object → ℤ}
    (hown : ∀ w, (f.call (argumentObjects args) w).2.own = w.own + effect) :
    (callTuple true (some f) args w).2.own =
      w.own + effect
        + tally (retained (.tuple true) (f.retains (argumentObjects args)) (argumentObjects args))
        - tally (argumentObjects args) + tally (thrown (callTuple true (some f) args w).1) := by
  have hobjects : (ownedBy args).map Lowered.object = argumentObjects args := rfl
  cases hresult : (f.callObject (argumentObjects args) (w.incref [.argumentTuple])).1 with
  | none =>
    rw [callTuple_of_none args f w hresult]
    simp only [own_destructTuple, PythonError.own_construct, own_callObject hown, hobjects,
      World.own_incref, thrown, CppException.objects, tally_cons, tally_nil, retained]
    split <;> simp <;> abel
  | some result =>
    rw [callTuple_of_some args f w hresult]
    simp only [own_destructTuple, own_callObject hown, hobjects, World.own_incref, thrown,
      tally_cons, tally_nil, retained]
    split <;> simp <;> abel

end Outcomes

/-- What a callable with the given effect does to the counts, if `call` gets to it. -/
def calleeAccount (path : CallPath) (callable : Option Callable) (objects : List Object)
    (effect : Object → ℤ) : Object → ℤ :=
  match reached path callable with
  | none => 0
  | some f => effect + tally (retained path (f.retains objects) objects)

/-- Without a callable, or without a tuple, `call` releases the arguments and gives no result. -/
lemma call_of_not_reached {path : CallPath} {callable : Option Callable} (args : List Handle)
    (w : World) (h : reached path callable = none) :
    (call path callable args w).1 = .ok none ∧
      (call path callable args w).2.own = w.own - tally (argumentObjects args) := by
  simp only [call, map_move_fst, destructAll_move_snd]
  cases callable with
  | none => cases path <;> exact ⟨rfl, own_noCallable⟩
  | some f =>
    obtain rfl : path = .tuple false := by
      rcases path with _ | _ | _ <;> first | rfl | cases h
    refine ⟨rfl, ?_⟩
    simp only [callTuple, Bool.false_eq_true, if_false, own_destructAll, own_decrefArgs,
      World.own_pyErrSet]
    rw [argumentObjects, ← tally_unguarded_add_guarded]
    abel

/-- `call` is one of the two functions. -/
lemma call_of_reached {path : CallPath} {callable : Option Callable} {f : Callable}
    (args : List Handle) (w : World) (h : reached path callable = some f) :
    call path callable args w = callVector (some f) args w ∧ path = .vector ∨
      call path callable args w = callTuple true (some f) args w ∧ path = .tuple true := by
  simp only [call, map_move_fst, destructAll_move_snd]
  rcases path with _ | _ | _
  · obtain rfl : callable = some f := h
    exact Or.inl ⟨rfl, rfl⟩
  · cases h
  · obtain rfl : callable = some f := h
    exact Or.inr ⟨rfl, rfl⟩

section Invocation

variable {path : CallPath} {site : CallSite} {callable : Option Callable} (args : List Handle)
  (w : World) {effect : Object → ℤ}

/-- The account of `call`. -/
lemma own_call
    (hown : ∀ f, reached path callable = some f →
      ∀ w, (f.call (argumentObjects args) w).2.own = w.own + effect) :
    (call path callable args w).2.own =
      w.own + calleeAccount path callable (argumentObjects args) effect
        - tally (argumentObjects args) + tally (thrown (call path callable args w).1) := by
  cases h : reached path callable with
  | none =>
    obtain ⟨houtcome, hcall⟩ := call_of_not_reached args w h
    rw [hcall, houtcome, calleeAccount, h]
    simp [thrown]
  | some f =>
    rw [calleeAccount, h]
    obtain ⟨heq, rfl⟩ | ⟨heq, rfl⟩ := call_of_reached args w h
    · rw [heq, own_callVector args f w (hown f h), add_assoc w.own]
    · rw [heq, own_callTuple args f w (hown f h), add_assoc w.own]

/-- The account of `invoke_impl` after `call`: the result is released, and what the outcome
holds is its own. -/
lemma own_invokeImpl :
    (invokeImpl path site callable args w).2.own =
      (call path callable args w).2.own - tally (thrown (call path callable args w).1)
        - tally (resultOf (call path callable args w).1)
        + tally (heldByOutcome (invokeImpl path site callable args w).1) := by
  have hdestruct (result : Object) (w : World) :
      (destructResult site result w).own = w.own - tally [result] :=
    (World.own_cleanup _ _).trans (World.own_decref w [result])
  simp only [invokeImpl, map_move_fst, destructAll_move_snd]
  rcases call path callable args w with ⟨x | _ | result, w'⟩
  · simp [thrown, resultOf, heldByOutcome]
  · simp [thrown, resultOf, heldByOutcome, CppException.objects]
  · dsimp only
    cases site.fromCast result with
    | error failure =>
      simp only [hdestruct, Failure.own_throw, thrown, resultOf, heldByOutcome, tally_nil]
      abel
    | ok value =>
      simp only [hdestruct, World.own_incref, thrown, resultOf, heldByOutcome, tally_nil]
      abel

end Invocation

/-! ## What is recorded as given up -/

section Released

variable {args : List Handle} {f : Callable} {w : World}

@[simp] lemma tally_released_decrefArgs :
    tally (decrefArgs args w).released = tally w.released +
      tally ((args.filterMap Handle.unguarded).map Lowered.reference) := by
  rw [decrefArgs_eq, World.tally_released_releaseAll]

@[simp] lemma tally_released_destructAll :
    tally (destructAll args w).released = tally w.released +
      tally ((args.filterMap Handle.guarded).map Lowered.reference) := by
  rw [destructAll_eq, World.tally_released_releaseAll]

lemma tally_released_destructTuple (retained : Bool) (items : List Lowered) :
    tally (destructTuple retained items w).released =
      tally w.released + tally (items.map Lowered.reference) := by
  cases retained with
  | true => simp [destructTuple, add_comm]
  | false => simp [destructTuple]

/-- `call` gives up the references of the arguments. -/
lemma tally_released_call {path : CallPath} {callable : Option Callable}
    (hreleased : ∀ f, reached path callable = some f →
      ∀ w, (f.call (argumentObjects args) w).2.released = w.released) :
    tally (call path callable args w).2.released =
      tally w.released + tally ((ownedBy args).map Lowered.reference) := by
  have hsplit := tally_unguarded_add_guarded Lowered.reference args
  cases h : reached path callable with
  | none =>
    simp only [call, map_move_fst, destructAll_move_snd]
    rw [← hsplit]
    cases callable with
    | none =>
      cases path <;> simp only [callVector, callTuple, noCallable, tally_released_destructAll,
        World.released_pyErrSetString, tally_released_decrefArgs] <;> abel
    | some f =>
      obtain rfl : path = .tuple false := by
        rcases path with _ | _ | _ <;> first | rfl | cases h
      simp only [callTuple, Bool.false_eq_true, if_false, tally_released_destructAll,
        World.released_pyErrSet, tally_released_decrefArgs]
      abel
  | some f =>
    obtain ⟨heq, rfl⟩ | ⟨heq, rfl⟩ := call_of_reached args w h
    · rw [heq, ← hsplit]
      cases hresult : (f.vectorcall (argumentObjects args) w).1 with
      | none =>
        rw [callVector_of_none args f w hresult]
        simp only [tally_released_destructAll, tally_released_decrefArgs,
          PythonError.released_construct, Callable.released_vectorcall, hreleased f h]
        abel
      | some result =>
        rw [callVector_of_some args f w hresult]
        simp only [tally_released_destructAll, tally_released_decrefArgs,
          Callable.released_vectorcall, hreleased f h]
        abel
    · rw [heq]
      cases hresult : (f.callObject (argumentObjects args) (w.incref [.argumentTuple])).1 with
      | none =>
        rw [callTuple_of_none args f w hresult]
        simp only [tally_released_destructTuple, PythonError.released_construct,
          Callable.released_callObject, hreleased f h, World.released_incref]
      | some result =>
        rw [callTuple_of_some args f w hresult]
        simp only [tally_released_destructTuple, Callable.released_callObject, hreleased f h,
          World.released_incref]

/-- `invoke_impl` gives up that of the result as well. -/
lemma tally_released_invokeImpl {path : CallPath} {site : CallSite}
    {callable : Option Callable} :
    tally (invokeImpl path site callable args w).2.released =
      tally (call path callable args w).2.released
        + tally ((resultOf (call path callable args w).1).map Reference.result) := by
  have hdestruct (result : Object) (w : World) :
      tally (destructResult site result w).released =
        tally w.released + tally [Reference.result result] := by
    rw [destructResult, World.released_cleanup]
    simp [add_comm]
  simp only [invokeImpl, map_move_fst, destructAll_move_snd]
  rcases call path callable args w with ⟨x | _ | result, w'⟩
  · simp [resultOf]
  · simp [resultOf]
  · dsimp only
    cases site.fromCast result with
    | error failure => simp only [hdestruct, Failure.released_throw, resultOf, List.map]
    | ok value => simp only [hdestruct, World.released_incref, resultOf, List.map]

end Released

/-! ## Lowering -/

/-- The references that lowering makes: those before the first failure, in the order of
evaluation. -/
def loweredBefore : List Argument → List Lowered
  | [] => []
  | a :: rest =>
    match a.toCast with
    | .ok object => ⟨a.position, object, a.finalizer⟩ :: loweredBefore rest
    | .error _ => []

/-- The first conversion that fails. -/
def firstFailure : List Argument → Option Failure
  | [] => none
  | a :: rest =>
    match a.toCast with
    | .ok _ => firstFailure rest
    | .error failure => some failure

/-- Lowering makes the references, and gives them up again at the first failure. -/
lemma lowerArguments_eq (arguments : List Argument) (made : List Lowered) (w : World) :
    lowerArguments arguments made w =
      let w := w.incref ((loweredBefore arguments).map Lowered.object)
      let made := (loweredBefore arguments).reverse ++ made
      match firstFailure arguments with
      | none => (.ok made, w)
      | some failure => (.error (failure.throw w).1, (failure.throw w).2.releaseAll made) := by
  have hzero (w : World) : w.incref [] = w := by simp [World.incref]
  have hincref (object : Object) (l : List Object) (w : World) :
      (w.incref [object]).incref l = w.incref (object :: l) := by
    simp [World.incref, add_assoc]
  induction arguments generalizing made w with
  | nil => simp [lowerArguments, loweredBefore, firstFailure, hzero]
  | cons a rest ih =>
    cases hcast : a.toCast with
    | error failure => simp [lowerArguments, loweredBefore, firstFailure, hcast, hzero]
    | ok object =>
      simp only [lowerArguments, loweredBefore, firstFailure, hcast, ih, List.map_cons, hincref,
        List.reverse_cons, List.append_assoc, List.singleton_append]

namespace Actuals

/-- The references that the invocation owns. -/
def lowered : Actuals → List Lowered
  | .contract arguments => loweredBefore arguments
  | .handles args => ownedBy args

/-- The conversion at which it stops. -/
def failure : Actuals → Option Failure
  | .contract arguments => firstFailure arguments
  | .handles _ => none

/-- The arguments of `invoke_impl`. -/
def passed : Actuals → List Handle
  | .contract arguments => byPosition (loweredBefore arguments).reverse
  | .handles args => args

/-- The objects of the arguments in the order of the parameters. -/
def objects (actuals : Actuals) : List Object := argumentObjects actuals.passed

lemma ownedBy_passed_perm (actuals : Actuals) :
    (ownedBy actuals.passed).Perm actuals.lowered := by
  cases actuals with
  | handles args => exact List.Perm.refl _
  | contract arguments =>
    have howned (l : List Lowered) :
        ownedBy (l.map fun a => Handle.guard (some a)) = l := by
      induction l with
      | nil => rfl
      | cons a l ih => exact congrArg (a :: ·) ih
    rw [passed, byPosition, howned]
    exact (List.perm_insertionSort _ _).trans (List.reverse_perm _)

lemma tally_passed {β : Type} [DecidableEq β] (g : Lowered → β) (actuals : Actuals) :
    tally ((ownedBy actuals.passed).map g) = tally (actuals.lowered.map g) :=
  tally_eq_iff_perm.mpr (actuals.ownedBy_passed_perm.map g)

end Actuals

/-- An invocation makes its references first; what follows is `invoke_impl`, or the unwinding
of a conversion that failed. -/
lemma invoke_eq (path : CallPath) (site : CallSite) (callable : Option Callable)
    (actuals : Actuals) (w : World) :
    ∃ made, made.Perm actuals.lowered ∧
      invoke path site callable actuals w =
        let w := w.incref (actuals.lowered.map Lowered.object)
        match actuals.failure with
        | none => invokeImpl path site callable actuals.passed w
        | some failure => (.error (failure.throw w).1, (failure.throw w).2.releaseAll made) := by
  cases actuals with
  | handles args => exact ⟨_, List.Perm.refl _, rfl⟩
  | contract arguments =>
    refine ⟨(loweredBefore arguments).reverse, List.reverse_perm _, ?_⟩
    simp only [invoke, invokeContract, lowerArguments_eq, List.append_nil, Actuals.failure,
      Actuals.lowered, Actuals.passed]
    cases firstFailure arguments <;> rfl

/-! ## Callables by what they do -/

/-- How a callable ends: with a new reference to a result, with an error, or with a null pointer
and no error of its own. -/
inductive Ending
  | returns (result : Object)
  | raises (e : PendingError)
  | returnsNull
  deriving DecidableEq

/-- The result of a call that ends so. -/
def Ending.result : Ending → Option Object
  | .returns result => some result
  | _ => none

/-- What a callable does with some arguments: the references that it takes and drops, how it
ends, and whether it keeps the tuple of the arguments. -/
structure Behaviour where
  effect : Object → ℤ
  ending : Ending
  retains : Bool

/-- The behaviour, carried out. -/
def Behaviour.perform (b : Behaviour) (w : World) : Option Object × World :=
  let w := { w with refs := w.refs + b.effect }
  match b.ending with
  | .returns result => (some result, w.incref [result])
  | .raises e => (none, w.pyErrSet e)
  | .returnsNull => (none, w)

/-- The callable that behaves so. -/
def Callable.ofBehaviour (b : List Object → Behaviour) : Callable where
  call objects := (b objects).perform
  retains objects := (b objects).retains

section Behaviour

variable (b : Behaviour) (w : World)

lemma Behaviour.own_perform :
    (b.perform w).2.own = w.own + (b.effect + tally b.ending.result.toList) := by
  have heffect : ({ w with refs := w.refs + b.effect } : World).own = w.own + b.effect := by
    simp only [World.own]
    abel
  unfold Behaviour.perform
  cases b.ending with
  | returns result => simp [heffect, Ending.result, add_assoc]
  | raises e => simp [heffect, Ending.result]
  | returnsNull => simp [heffect, Ending.result]

lemma Behaviour.released_perform : (b.perform w).2.released = w.released := by
  unfold Behaviour.perform
  cases b.ending <;> rfl

lemma Behaviour.perform_fst : (b.perform w).1 = b.ending.result := by
  unfold Behaviour.perform
  cases b.ending <;> rfl

end Behaviour

/-- What the callable does with the arguments of the invocation, if the invocation gets to it. -/
def performed (path : CallPath) (callable : Option (List Object → Behaviour))
    (actuals : Actuals) : Option Behaviour :=
  match actuals.failure with
  | some _ => none
  | none => (reached path callable).map fun b => b actuals.objects

/-- The result of the call, if there is one. -/
def callResult (path : CallPath) (callable : Option (List Object → Behaviour))
    (actuals : Actuals) : Option Object :=
  (performed path callable actuals).bind fun b => b.ending.result

/-- The references that the invocation has to give up. -/
def references (path : CallPath) (callable : Option (List Object → Behaviour))
    (actuals : Actuals) : List Reference :=
  actuals.lowered.map Lowered.reference ++
    (callResult path callable actuals).toList.map Reference.result

/-- What the callable takes and keeps, its result apart. -/
def calleeEffect (path : CallPath) (callable : Option (List Object → Behaviour))
    (actuals : Actuals) : Object → ℤ :=
  match performed path callable actuals with
  | none => 0
  | some b => b.effect + tally (retained path b.retains actuals.objects)

/-- The result that `call` gives is that of the callable. -/
lemma resultOf_call {path : CallPath} {callable : Option Callable} {f : Callable}
    {args : List Handle} {result : Option Object} (w : World)
    (h : reached path callable = some f)
    (hresult : ∀ w, (f.call (argumentObjects args) w).1 = result) :
    resultOf (call path callable args w).1 = result.toList := by
  obtain ⟨heq, -⟩ | ⟨heq, -⟩ := call_of_reached args w h
  · have hvector : (f.vectorcall (argumentObjects args) w).1 = result := hresult w
    rw [heq]
    cases result with
    | none =>
      rw [callVector_of_none args f w hvector]
      rfl
    | some result =>
      rw [callVector_of_some args f w hvector]
      rfl
  · have hobject : (f.callObject (argumentObjects args) (w.incref [.argumentTuple])).1 = result :=
      hresult _
    rw [heq]
    cases result with
    | none =>
      rw [callTuple_of_none args f w hobject]
      rfl
    | some result =>
      rw [callTuple_of_some args f w hobject]
      rfl

section Conservation

variable (path : CallPath) (site : CallSite) (callable : Option (List Object → Behaviour))
  (actuals : Actuals) (w : World)

lemma reached_map :
    reached path (callable.map Callable.ofBehaviour) =
      (reached path callable).map Callable.ofBehaviour := by
  rcases path with _ | _ | _ <;> rfl

/-- After `invoke_impl` with arguments that have been lowered. -/
lemma own_invokeImpl_passed (hfailure : actuals.failure = none) :
    (invokeImpl path site (callable.map Callable.ofBehaviour) actuals.passed
        (w.incref (actuals.lowered.map Lowered.object))).2.own =
      w.own + calleeEffect path callable actuals + tally (heldByOutcome (invokeImpl path site
        (callable.map Callable.ofBehaviour) actuals.passed
        (w.incref (actuals.lowered.map Lowered.object))).1) := by
  have hlowered : tally (argumentObjects actuals.passed) =
      tally (actuals.lowered.map Lowered.object) := actuals.tally_passed Lowered.object
  rw [own_invokeImpl, calleeEffect, performed, hfailure]
  cases h : reached path callable with
  | none =>
    have hreached : reached path (callable.map Callable.ofBehaviour) = none := by
      rw [reached_map, h, Option.map_none]
    obtain ⟨houtcome, hown⟩ := call_of_not_reached actuals.passed
      (w.incref (actuals.lowered.map Lowered.object)) hreached
    rw [hown, houtcome, World.own_incref, hlowered]
    simp only [thrown, resultOf, tally_nil, Option.map_none]
    abel
  | some b =>
    have hreached : reached path (callable.map Callable.ofBehaviour) =
        some (Callable.ofBehaviour b) := by rw [reached_map, h, Option.map_some]
    have hperform (w : World) :
        ((Callable.ofBehaviour b).call actuals.objects w).2.own = w.own +
          ((b actuals.objects).effect + tally (b actuals.objects).ending.result.toList) :=
      (b actuals.objects).own_perform w
    have hcall := own_call actuals.passed
      (w.incref (actuals.lowered.map Lowered.object)) (fun f hf => by
        rw [hreached] at hf
        obtain rfl := Option.some.inj hf
        exact hperform)
    have hretains : (Callable.ofBehaviour b).retains (argumentObjects actuals.passed) =
        (b actuals.objects).retains := rfl
    rw [calleeAccount, hreached] at hcall
    rw [hcall, resultOf_call _ hreached (fun w => (b actuals.objects).perform_fst w),
      World.own_incref, hlowered]
    simp only [Option.map_some, hretains, Actuals.objects]
    abel

/-- The account of an invocation. -/
lemma own_invoke :
    (invoke path site (callable.map Callable.ofBehaviour) actuals w).2.own =
      w.own + calleeEffect path callable actuals + tally (heldByOutcome
        (invoke path site (callable.map Callable.ofBehaviour) actuals w).1) := by
  obtain ⟨made, hmade, heq⟩ :=
    invoke_eq path site (callable.map Callable.ofBehaviour) actuals w
  rw [heq]
  cases hfailure : actuals.failure with
  | none => exact own_invokeImpl_passed path site callable actuals w hfailure
  | some failure =>
    have hobjects : tally (made.map Lowered.object) =
        tally (actuals.lowered.map Lowered.object) :=
      tally_eq_iff_perm.mpr (hmade.map Lowered.object)
    rw [calleeEffect, performed, hfailure]
    simp only [World.own_releaseAll, Failure.own_throw, World.own_incref, hobjects,
      heldByOutcome]
    abel

/-- What an invocation gives up. -/
lemma released_invoke_perm :
    (invoke path site (callable.map Callable.ofBehaviour) actuals w).2.released.Perm
      (references path callable actuals ++ w.released) := by
  rw [← tally_eq_iff_perm]
  obtain ⟨made, hmade, heq⟩ :=
    invoke_eq path site (callable.map Callable.ofBehaviour) actuals w
  rw [heq, references, callResult, performed]
  cases hfailure : actuals.failure with
  | some failure =>
    have hreferences : tally (made.map Lowered.reference) =
        tally (actuals.lowered.map Lowered.reference) :=
      tally_eq_iff_perm.mpr (hmade.map Lowered.reference)
    simp only [World.tally_released_releaseAll, Failure.released_throw, World.released_incref,
      hreferences, Option.bind_none, Option.toList_none, List.map_nil, List.append_nil,
      tally_append]
    abel
  | none =>
    have hlowered := actuals.tally_passed Lowered.reference
    dsimp only
    rw [tally_released_invokeImpl, tally_released_call]
    · rw [hlowered]
      cases h : reached path callable with
      | none =>
        have hreached : reached path (callable.map Callable.ofBehaviour) = none := by
          rw [reached_map, h, Option.map_none]
        rw [(call_of_not_reached _ _ hreached).1]
        simp only [World.released_incref, resultOf, Option.map_none, Option.bind_none,
          Option.toList_none, List.map_nil, List.append_nil, tally_append, tally_nil]
        abel
      | some b =>
        have hreached : reached path (callable.map Callable.ofBehaviour) =
            some (Callable.ofBehaviour b) := by rw [reached_map, h, Option.map_some]
        rw [resultOf_call _ hreached (fun w => (b actuals.objects).perform_fst w)]
        simp only [World.released_incref, Option.map_some, Option.bind_some, tally_append]
        abel
    · intro f hf w
      rw [reached_map] at hf
      obtain ⟨b, -, rfl⟩ := Option.map_eq_some_iff.mp hf
      exact (b actuals.objects).released_perform w

end Conservation

/-! ## The two paths compared -/

/-- Two interpreters with the same pending error and the same saved copies. -/
def SameErrors (w w' : World) : Prop := w.pending = w'.pending ∧ w.saved = w'.saved

namespace SameErrors

variable {w w' : World}

lemma symm (h : SameErrors w w') : SameErrors w' w := ⟨h.1.symm, h.2.symm⟩

lemma trans {v : World} (h : SameErrors w w') (h' : SameErrors w' v) : SameErrors w v :=
  ⟨h.1.trans h'.1, h.2.trans h'.2⟩

lemma cleanup (h : SameErrors w w') (steps : List Cleanup) :
    SameErrors (w.cleanup steps) (w'.cleanup steps) := by
  induction steps generalizing w w' with
  | nil => exact h
  | cons step steps ih =>
    apply ih
    cases step <;> exact ⟨rfl, h.2⟩

lemma construct (h : SameErrors w w') (message : String) :
    (PythonError.construct message w).1 = (PythonError.construct message w').1 ∧
      SameErrors (PythonError.construct message w).2 (PythonError.construct message w').2 := by
  unfold PythonError.construct
  rw [h.1]
  cases hpending : w'.pending with
  | none => exact ⟨rfl, rfl, h.2⟩
  | some e => exact ⟨by simp [World.pyErrFetch, h.1], rfl, h.2⟩

lemma throw (h : SameErrors w w') (failure : Failure) :
    (failure.throw w).1 = (failure.throw w').1 ∧
      SameErrors (failure.throw w).2 (failure.throw w').2 := by
  cases failure with
  | pythonError message e =>
    have hset : SameErrors (w.pyErrSet e) (w'.pyErrSet e) := ⟨rfl, h.2⟩
    obtain ⟨herror, hworld⟩ := hset.construct message
    exact ⟨congrArg CppException.pythonError herror, hworld⟩
  | badConversion | stdException | unknown => exact ⟨rfl, h⟩

lemma perform (h : SameErrors w w') (b : Behaviour) :
    SameErrors (b.perform w).2 (b.perform w').2 := by
  unfold Behaviour.perform
  cases b.ending with
  | returns result => exact h
  | raises e => exact ⟨rfl, h.2⟩
  | returnsNull => exact h

/-- Finalizers without steps leave the errors alone. -/
lemma releaseAll {l : List Lowered} (hfinalizer : ∀ a ∈ l, a.finalizer = []) (w : World) :
    SameErrors (w.releaseAll l) w := by
  induction l generalizing w with
  | nil => exact ⟨rfl, rfl⟩
  | cons a l ih =>
    refine (ih (fun b hb => hfinalizer b (List.mem_cons_of_mem a hb)) (w.release a)).trans ?_
    rw [World.release, hfinalizer a List.mem_cons_self]
    exact ⟨rfl, rfl⟩

/-- The counts of two interpreters with the same errors agree where `own` does. -/
lemma refs_eq (h : SameErrors w w') {o : Object} (hown : w.own o = w'.own o) :
    w.refs o = w'.refs o := by
  simp only [World.own, Pi.sub_apply, h.1, h.2] at hown
  omega

end SameErrors

section Paths

variable (site : CallSite) (b : List Object → Behaviour) (args : List Handle) (w : World)

/-- The call itself, as the two paths see it. -/
lemma vectorcall_callObject (objects : List Object) :
    ((Callable.ofBehaviour b).vectorcall objects w).1 =
        ((Callable.ofBehaviour b).callObject objects (w.incref [.argumentTuple])).1 ∧
      SameErrors ((Callable.ofBehaviour b).vectorcall objects w).2
        ((Callable.ofBehaviour b).callObject objects (w.incref [.argumentTuple])).2 := by
  have hsame : SameErrors w (w.incref [.argumentTuple]) := ⟨rfl, rfl⟩
  have hworld := hsame.perform (b objects)
  refine ⟨?_, ?_⟩
  · exact ((b objects).perform_fst w).trans ((b objects).perform_fst _).symm
  · rw [Callable.vectorcall_snd, Callable.callObject_snd]
    split <;> exact hworld

/-- The paths give the same outcome, and without finalizers they leave the same errors. -/
lemma call_vector_tuple (callable : Option (List Object → Behaviour)) :
    (call .vector (callable.map Callable.ofBehaviour) args w).1 =
        (call (.tuple true) (callable.map Callable.ofBehaviour) args w).1 ∧
      ((∀ a ∈ ownedBy args, a.finalizer = []) →
        SameErrors (call .vector (callable.map Callable.ofBehaviour) args w).2
          (call (.tuple true) (callable.map Callable.ofBehaviour) args w).2) := by
  simp only [call, map_move_fst, destructAll_move_snd]
  cases callable with
  | none => exact ⟨rfl, fun _ => ⟨rfl, rfl⟩⟩
  | some b =>
    obtain ⟨hfst, hworld⟩ := vectorcall_callObject b w (argumentObjects args)
    have hvector (w : World) (hfinalizer : ∀ a ∈ ownedBy args, a.finalizer = []) :
        SameErrors (destructAll args (decrefArgs args w)) w := by
      rw [destructAll_eq, decrefArgs_eq, ← World.releaseAll_append]
      exact SameErrors.releaseAll
        (fun a ha => hfinalizer a ((unguarded_append_guarded_perm args).subset ha)) w
    have htuple (retained : Bool) (w : World)
        (hfinalizer : ∀ a ∈ ownedBy args, a.finalizer = []) :
        SameErrors (destructTuple retained (ownedBy args) w) w := by
      cases retained with
      | true => exact ⟨rfl, rfl⟩
      | false => exact SameErrors.releaseAll hfinalizer (w.decref [.argumentTuple])
    simp only [Option.map_some]
    cases hresult : ((Callable.ofBehaviour b).vectorcall (argumentObjects args) w).1 with
    | none =>
      obtain ⟨herror, hcaptured⟩ := hworld.construct "Python callable returned null"
      rw [callVector_of_none args _ w hresult, callTuple_of_none args _ w (hfst ▸ hresult)]
      refine ⟨congrArg (fun e => Except.error (CppException.pythonError e)) herror, ?_⟩
      intro hfinalizer
      exact ((hvector _ hfinalizer).trans hcaptured).trans (htuple _ _ hfinalizer).symm
    | some result =>
      rw [callVector_of_some args _ w hresult, callTuple_of_some args _ w (hfst ▸ hresult)]
      refine ⟨rfl, ?_⟩
      intro hfinalizer
      exact ((hvector _ hfinalizer).trans hworld).trans (htuple _ _ hfinalizer).symm

/-- A call that reaches the callable gives a result or throws. -/
lemma call_ne_null {path : CallPath} {callable : Option Callable} {f : Callable}
    (h : reached path callable = some f) : (call path callable args w).1 ≠ .ok none := by
  obtain ⟨heq, -⟩ | ⟨heq, -⟩ := call_of_reached args w h
  · rw [heq]
    cases hresult : (f.vectorcall (argumentObjects args) w).1 with
    | none =>
      rw [callVector_of_none args f w hresult]
      exact nofun
    | some result =>
      rw [callVector_of_some args f w hresult]
      exact nofun
  · rw [heq]
    cases hresult : (f.callObject (argumentObjects args) (w.incref [.argumentTuple])).1 with
    | none =>
      rw [callTuple_of_none args f w hresult]
      exact nofun
    | some result =>
      rw [callTuple_of_some args f w hresult]
      exact nofun

/-- What is thrown does not depend on the interpreter's state. -/
lemma Failure.throw_fst (failure : Failure) (w w' : World) :
    (failure.throw w).1 = (failure.throw w').1 := by
  cases failure with
  | pythonError message e =>
    have hset : (PythonError.construct message (w.pyErrSet e)).1.error =
        (PythonError.construct message (w'.pyErrSet e)).1.error := by simp
    exact congrArg (fun error => CppException.pythonError ⟨message, error⟩) hset
  | badConversion | stdException | unknown => rfl

lemma invokeImpl_vector_tuple (callable : Option (List Object → Behaviour)) :
    (invokeImpl .vector site (callable.map Callable.ofBehaviour) args w).1 =
        (invokeImpl (.tuple true) site (callable.map Callable.ofBehaviour) args w).1 ∧
      ((∀ a ∈ ownedBy args, a.finalizer = []) →
        SameErrors (invokeImpl .vector site (callable.map Callable.ofBehaviour) args w).2
          (invokeImpl (.tuple true) site (callable.map Callable.ofBehaviour) args w).2) := by
  cases callable with
  | none => exact ⟨rfl, fun _ => ⟨rfl, rfl⟩⟩
  | some b =>
    obtain ⟨hfst, hworld⟩ := call_vector_tuple args w (some b)
    have hnull : (call .vector ((some b).map Callable.ofBehaviour) args w).1 ≠ .ok none :=
      call_ne_null args w rfl
    have hresult (v v' : World) (h : SameErrors v v') (result : Object) :
        SameErrors (destructResult site result v) (destructResult site result v') := by
      unfold destructResult
      apply SameErrors.cleanup
      exact h
    simp only [invokeImpl, map_move_fst, destructAll_move_snd]
    generalize call .vector ((some b).map Callable.ofBehaviour) args w = p at *
    generalize call (.tuple true) ((some b).map Callable.ofBehaviour) args w = q at *
    obtain ⟨outcome, v⟩ := p
    obtain ⟨outcome', v'⟩ := q
    obtain rfl : outcome = outcome' := hfst
    rcases outcome with x | _ | result
    · exact ⟨rfl, hworld⟩
    · exact absurd rfl hnull
    · dsimp only
      cases site.fromCast result with
      | ok value =>
        exact ⟨rfl, fun hfinalizer =>
          hresult (v.incref value) (v'.incref value) (hworld hfinalizer) result⟩
      | error failure =>
        exact ⟨congrArg Except.error (failure.throw_fst v v'), fun hfinalizer =>
          hresult _ _ ((hworld hfinalizer).throw failure).2 result⟩

/-- Without finalizers the two paths leave the same errors, and they always give the same
outcome. -/
lemma invoke_vector_tuple (callable : Option (List Object → Behaviour)) (actuals : Actuals) :
    (invoke .vector site (callable.map Callable.ofBehaviour) actuals w).1 =
        (invoke (.tuple true) site (callable.map Callable.ofBehaviour) actuals w).1 ∧
      ((∀ a ∈ actuals.lowered, a.finalizer = []) →
        SameErrors (invoke .vector site (callable.map Callable.ofBehaviour) actuals w).2
          (invoke (.tuple true) site (callable.map Callable.ofBehaviour) actuals w).2) := by
  cases actuals with
  | handles args =>
    exact invokeImpl_vector_tuple site args
      (w.incref ((ownedBy args).map Lowered.object)) callable
  | contract arguments =>
    have hpassed := (Actuals.contract arguments).ownedBy_passed_perm
    simp only [invoke, invokeContract, lowerArguments_eq, List.append_nil]
    cases firstFailure arguments with
    | some failure => exact ⟨rfl, fun _ => ⟨rfl, rfl⟩⟩
    | none =>
      obtain ⟨hfst, hworld⟩ := invokeImpl_vector_tuple site
        (byPosition (loweredBefore arguments).reverse)
        (w.incref ((loweredBefore arguments).map Lowered.object)) callable
      exact ⟨hfst, fun hfinalizer => hworld fun a ha => hfinalizer a (hpassed.subset ha)⟩

/-- Apart from the tuple, the callable keeps the same on both paths. -/
lemma calleeEffect_vector_tuple (callable : Option (List Object → Behaviour))
    (actuals : Actuals) {o : Object} (ho : o ≠ .argumentTuple) :
    calleeEffect .vector callable actuals o = calleeEffect (.tuple true) callable actuals o := by
  have hperformed : performed .vector callable actuals =
      performed (.tuple true) callable actuals := rfl
  rw [calleeEffect, calleeEffect, hperformed]
  cases performed (.tuple true) callable actuals with
  | none => rfl
  | some b =>
    simp only [Pi.add_apply, retained]
    split <;> simp [Pi.single_eq_of_ne ho]

end Paths

/-- An import call gives up each lowered argument's reference exactly once, and that of the
result; it changes the counts only by what the callable does and what the outcome holds; and
`call_vector` and `call_tuple` leave the same counts on every object but the tuple.  The
finalizers matter only to the error that is pending afterwards. -/
theorem invoke_conserves (site : CallSite) (callable : Option (List Object → Behaviour))
    (actuals : Actuals) (w : World) :
    let run (path : CallPath) :=
      invoke path site (callable.map Callable.ofBehaviour) actuals w
    (∀ path,
      (run path).2.released.Perm (references path callable actuals ++ w.released) ∧
      (run path).2.own =
        w.own + calleeEffect path callable actuals + tally (heldByOutcome (run path).1)) ∧
    (run .vector).1 = (run (.tuple true)).1 ∧
    (∀ o, o ≠ .argumentTuple → (run .vector).2.own o = (run (.tuple true)).2.own o) ∧
    ((∀ a ∈ actuals.lowered, a.finalizer = []) →
      ∀ o, o ≠ .argumentTuple → (run .vector).2.refs o = (run (.tuple true)).2.refs o) := by
  intro run
  obtain ⟨hfst, herrors⟩ := invoke_vector_tuple site w callable actuals
  have hown (path : CallPath) : (run path).2.own =
      w.own + calleeEffect path callable actuals + tally (heldByOutcome (run path).1) :=
    own_invoke path site callable actuals w
  have hpaths (o : Object) (ho : o ≠ .argumentTuple) :
      (run .vector).2.own o = (run (.tuple true)).2.own o := by
    have hsame : (run .vector).1 = (run (.tuple true)).1 := hfst
    rw [hown, hown, hsame]
    simp only [Pi.add_apply, calleeEffect_vector_tuple callable actuals ho]
  refine ⟨fun path => ⟨released_invoke_perm path site callable actuals w, hown path⟩,
    hfst, hpaths, ?_⟩
  intro hfinalizer o ho
  exact (herrors hfinalizer).refs_eq (hpaths o ho)

/-- A raw reference and a guard, a callable that keeps its arguments, and a result that cannot be
converted. -/
theorem invoke_conserves_unconverted :
    let site : CallSite := ⟨false, fun _ => .error (.badConversion "no integer"), []⟩
    let callable (objects : List Object) : Behaviour :=
      ⟨0, .returns (.plain 2), objects.length = 2⟩
    let actuals : Actuals := .handles [.raw ⟨0, .plain 0, []⟩, .guard (some ⟨1, .plain 1, []⟩)]
    let run (path : CallPath) :=
      invoke path site (some (Callable.ofBehaviour callable)) actuals ⟨none, 0, [], []⟩
    (run .vector).2.released.Perm
        [.argument 0 (.plain 0), .argument 1 (.plain 1), .result (.plain 2)] ∧
      (run .vector).2.refs (.plain 1) = (run (.tuple true)).2.refs (.plain 1) := by
  intro site callable actuals run
  have h := invoke_conserves site (some callable) actuals ⟨none, 0, [], []⟩
  exact ⟨(h.1 .vector).1, h.2.2.2 (by decide) (.plain 1) (by decide)⟩

end Dynabridge.Python
