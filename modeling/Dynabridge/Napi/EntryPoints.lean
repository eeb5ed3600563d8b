import Dynabridge.Napi.ExportObject

/-!
# The N-API entry points

JavaScript reaches native code through four callbacks: `callback_dispatch` for free callables,
`member_callback_dispatch` for members, `overload_callback_holder::callback` for overload
groups, and `class_constructor`.  Each runs the code behind it in a `try` block with a chain of
handlers of its own.  The runtime is C code, through which no C++ exception may pass.

The code behind an entry point is arbitrary: it may change the state of the program, call
`napi_throw_error` itself, enter JavaScript and come back through other entry points, and end
in a value or in an exception of any type.  An entry point is followed until it returns to the
runtime or lets an exception out.
-/

namespace Dynabridge.Napi

variable {Value σ α β : Type}

/-! ## Handlers -/

/-- The handlers of an entry point. -/
inductive Handler
  | badConversion
  | stdException
  | catchAll
  deriving DecidableEq

/-- Whether a handler accepts an exception.  `bad_conversion` and the errors of the RPC backend
derive from `std::runtime_error`. -/
def Handler.accepts : Handler → Raised → Bool
  | .catchAll, _ => true
  | .stdException, .unknown => false
  | .stdException, _ => true
  | .badConversion, .badConversion _ => true
  | .badConversion, _ => false

/-- The text a handler passes to `napi_throw_error`; `fallback` is that of the last one. -/
def Handler.text (fallback : List UInt8) (e : Raised) : Handler → List UInt8
  | .badConversion | .stdException => e.what.getD []
  | .catchAll => fallback

/-- The handlers of the three callbacks, in the order of the source. -/
def callbackHandlers : List Handler := [.badConversion, .stdException, .catchAll]

/-- The handlers of `class_constructor`, in the order of the source. -/
def constructorHandlers : List Handler := [.badConversion, .stdException]

/-! ## Code behind an entry point -/

/-- A piece of code that has run: how it ended, the state of the program afterwards, and the
texts that were passed to `napi_throw_error` on the way. -/
structure Run (σ α : Type) where
  result : Except Raised α
  world : σ
  thrown : List (List UInt8)

/-- Code that ends in a value or in an exception. -/
abbrev Code (σ α : Type) := σ → Run σ α

/-- Go on with the value of a run, if there is one. -/
def Run.map (f : α → β) (run : Run σ α) : Run σ β :=
  ⟨run.result.map f, run.world, run.thrown⟩

/-- Return `nullptr` after `napi_throw_error`. -/
def Run.refuse (message : List UInt8) (world : σ) (thrown : List (List UInt8)) :
    Run σ (Option Value) :=
  ⟨.ok none, world, thrown ++ [message]⟩

/-- A `try` block: the first handler that accepts the exception raises it in JavaScript and
returns `nullptr`; an exception that no handler accepts goes on to the caller. -/
def Run.tryCatch (handlers : List Handler) (fallback : String) (body : Run σ (Option Value)) :
    Run σ (Option Value) :=
  match body.result with
  | .ok _ => body
  | .error e =>
    match handlers.find? (·.accepts e) with
    | some handler => .refuse (handler.text (ascii fallback) e) body.world body.thrown
    | none => body

/-- A binder as a callback holder calls it: `call_indices` for a result and for `void`. -/
inductive Binder (σ Value : Type)
  | returning (call : List Value → Code σ Value)
  | void (call : List Value → Code σ Unit)

/-- `call_signature`.  `napi_get_undefined` only fails without an environment. -/
def Binder.callSignature (undefined : Value) (argv : List Value) :
    Binder σ Value → Code σ (Option Value)
  | returning call, w => (call argv w).map some
  | void call, w => (call argv w).map fun _ => some undefined

/-- `class_state_holder`: what it does with the receiver of a constructor call.  It does not
succeed without an object to construct. -/
structure ClassStateHolder (σ Value : Type) where
  invoke : Option Value → Code σ Unit
  needs_object : ∀ w, ∃ e, (invoke none w).result = .error e

/-! ## The entry points -/

/-- What a callback learns from `napi_get_cb_info`: whether the call succeeds, the arguments
and the receiver.  The pointer passed at registration comes with a successful call. -/
structure CallInfo (Value : Type) where
  ok : Bool
  args : List Value
  receiver : Option Value
  deriving DecidableEq

/-- The slots of an `argv` array: the arguments as far as they fit, then `undefined`. -/
def CallInfo.argv (info : CallInfo Value) (undefined : Value) (slots : ℕ) : List Value :=
  info.args.take slots ++ List.replicate (slots - info.args.length) undefined

/-- Node-API as the entry points use it. -/
structure Runtime (σ Value : Type) where
  undefined : Value
  /-- `napi_create_object` -/
  createObject : σ → Option Value × σ

/-- `callback_dispatch::call` for a signature with `arity` parameters. -/
def callbackDispatch (runtime : Runtime σ Value) (arity : ℕ) (holder : Binder σ Value)
    (info : CallInfo Value) : Code σ (Option Value) := fun w =>
  if !info.ok || info.args.length != arity then
    .refuse (ascii "dynabridge N-API callback received invalid call info") w []
  else
    .tryCatch callbackHandlers "dynabridge N-API callback failed"
      (holder.callSignature runtime.undefined (info.argv runtime.undefined arity) w)

/-- `member_callback_dispatch::call`; the binder of a member also takes the receiver. -/
def memberCallbackDispatch (runtime : Runtime σ Value) (arity : ℕ)
    (holder : Option Value → Binder σ Value) (info : CallInfo Value) :
    Code σ (Option Value) := fun w =>
  if !info.ok || info.args.length != arity then
    .refuse (ascii "dynabridge N-API callback received invalid call info") w []
  else
    .tryCatch callbackHandlers "dynabridge N-API callback failed"
      ((holder info.receiver).callSignature runtime.undefined
        (info.argv runtime.undefined arity) w)

/-- The `try` block of `overload_callback_holder::callback` after `dispatch_optional`: a
dispatch without a result is refused. -/
def overloadBody (dispatched : Run σ (Option Value)) : Run σ (Option Value) :=
  match dispatched.result with
  | .ok none =>
    .refuse (ascii "dynabridge N-API overload has no matching signature") dispatched.world
      dispatched.thrown
  | _ => dispatched

/-- `overload_callback_holder::callback`; `dispatchOptional` takes the argument count and the
slots of the buffer. -/
def overloadCallback (runtime : Runtime σ Value) (maxArity : ℕ)
    (dispatchOptional : ℕ → List Value → Code σ (Option Value)) (info : CallInfo Value) :
    Code σ (Option Value) := fun w =>
  if !info.ok then
    .refuse (ascii "dynabridge N-API overload callback received invalid call info") w []
  else
    .tryCatch callbackHandlers "dynabridge N-API overload callback failed"
      (overloadBody
        (dispatchOptional info.args.length (info.argv runtime.undefined (maxArity + 1)) w))

/-- The receiver of a constructor callback, or a new object. -/
def Runtime.selfOrNew (runtime : Runtime σ Value) (info : CallInfo Value) (w : σ) :
    Option Value × σ :=
  match info.receiver with
  | some self => (some self, w)
  | none => runtime.createObject w

/-- The `try` block of `class_constructor` -/
def constructorBody (runtime : Runtime σ Value) (holder : ClassStateHolder σ Value)
    (info : CallInfo Value) : Code σ (Option Value) := fun w =>
  let receiver := runtime.selfOrNew info w
  (holder.invoke receiver.1 receiver.2).map fun _ => receiver.1

/-- `class_constructor` -/
def classConstructorEntry (runtime : Runtime σ Value) (holder : ClassStateHolder σ Value)
    (info : CallInfo Value) : Code σ (Option Value) := fun w =>
  if !info.ok then ⟨.ok none, w, []⟩
  else .tryCatch constructorHandlers "" (constructorBody runtime holder info w)

/-- A callback that the backend has registered, with the holder passed as its data. -/
inductive Entry (σ Value : Type)
  | callable (arity : ℕ) (holder : Binder σ Value)
  | member (arity : ℕ) (holder : Option Value → Binder σ Value)
  | overload (maxArity : ℕ) (dispatchOptional : ℕ → List Value → Code σ (Option Value))
  | constructor (holder : ClassStateHolder σ Value)

/-- The registered `napi_callback`. -/
def Entry.callback (runtime : Runtime σ Value) (info : CallInfo Value) :
    Entry σ Value → Code σ (Option Value)
  | callable arity holder => callbackDispatch runtime arity holder info
  | member arity holder => memberCallbackDispatch runtime arity holder info
  | overload maxArity dispatchOptional => overloadCallback runtime maxArity dispatchOptional info
  | constructor holder => classConstructorEntry runtime holder info

/-- The code behind an entry point, on the arguments that a call brings. -/
def Entry.behind (runtime : Runtime σ Value) (info : CallInfo Value) :
    Entry σ Value → Code σ (Option Value)
  | callable arity holder =>
    holder.callSignature runtime.undefined (info.argv runtime.undefined arity)
  | member arity holder =>
    (holder info.receiver).callSignature runtime.undefined (info.argv runtime.undefined arity)
  | overload maxArity dispatchOptional =>
    dispatchOptional info.args.length (info.argv runtime.undefined (maxArity + 1))
  | constructor holder => constructorBody runtime holder info

/-! ## What reaches the runtime -/

/-- A callback returned normally to the runtime: with the result of the code behind it, or with
null, and then its last step was a call of `napi_throw_error`. -/
def ReturnsNormally (behind outcome : Run σ (Option Value)) : Prop :=
  (∃ v, behind.result = .ok (some v) ∧ outcome.result = .ok (some v)) ∨
    outcome.result = .ok none ∧ ∃ texts message, outcome.thrown = texts ++ [message]

lemma returnsNormally_refuse (behind : Run σ (Option Value)) (message : List UInt8) (w : σ)
    (thrown : List (List UInt8)) : ReturnsNormally behind (.refuse message w thrown) :=
  .inr ⟨rfl, thrown, message, rfl⟩

/-- A chain of handlers with a `catch (...)` accepts every exception. -/
lemma isSome_find?_accepts {handlers : List Handler} (h : .catchAll ∈ handlers) (e : Raised) :
    (handlers.find? (·.accepts e)).isSome = true := by
  rw [List.find?_isSome]
  exact ⟨.catchAll, h, rfl⟩

/-- Without `catch (...)`, a chain that has a handler for `std::exception` accepts what lies in
its hierarchy and nothing else. -/
lemma isSome_find?_constructorHandlers (e : Raised) :
    (constructorHandlers.find? (·.accepts e)).isSome = true ↔ e ≠ .unknown := by
  cases e <;> simp [constructorHandlers, Handler.accepts]

/-- A `try` block lets out the exceptions that none of its handlers accepts. -/
lemma result_tryCatch {handlers : List Handler} {body : Run σ (Option Value)} (fallback : String)
    {e : Raised} (hbody : body.result = .error e) (hnone : handlers.find? (·.accepts e) = none) :
    (Run.tryCatch handlers fallback body).result = .error e := by
  unfold Run.tryCatch
  simp only [hbody, hnone]

/-- A `try` block returns normally when its body does, and when a handler accepts what the body
throws. -/
lemma returnsNormally_tryCatch {handlers : List Handler} {behind body : Run σ (Option Value)}
    (fallback : String) (hvalue : ∀ result, body.result = .ok result →
      ReturnsNormally behind body)
    (hraise : ∀ e, body.result = .error e → (handlers.find? (·.accepts e)).isSome = true) :
    ReturnsNormally behind (.tryCatch handlers fallback body) := by
  unfold Run.tryCatch
  cases hbody : body.result with
  | ok result => exact hvalue result hbody
  | error e =>
    obtain ⟨handler, hhandler⟩ := Option.isSome_iff_exists.mp (hraise e hbody)
    simp only [hhandler]
    exact returnsNormally_refuse behind _ _ _

/-- A result that was mapped comes from one. -/
lemma Run.map_result_eq_ok {f : α → β} {run : Run σ α} {b : β}
    (h : (run.map f).result = .ok b) : ∃ a, run.result = .ok a ∧ f a = b := by
  cases hrun : run.result with
  | ok a =>
    refine ⟨a, rfl, ?_⟩
    rw [Run.map, hrun] at h
    exact Except.ok.inj h
  | error e =>
    rw [Run.map, hrun] at h
    cases h

/-- A binder that returns has a result. -/
lemma Binder.callSignature_result {undefined : Value} {argv : List Value}
    {holder : Binder σ Value} {w : σ} {result : Option Value}
    (h : (holder.callSignature undefined argv w).result = .ok result) :
    ∃ v, result = some v := by
  cases holder with
  | returning call =>
    obtain ⟨v, -, hv⟩ := Run.map_result_eq_ok h
    exact ⟨v, hv.symm⟩
  | void call =>
    obtain ⟨_, -, hv⟩ := Run.map_result_eq_ok h
    exact ⟨undefined, hv.symm⟩

/-- The `try` block around a binder returns normally, whatever the binder does. -/
lemma returnsNormally_callSignature (undefined : Value) (argv : List Value)
    (holder : Binder σ Value) (fallback : String) (w : σ) :
    ReturnsNormally (holder.callSignature undefined argv w)
      (.tryCatch callbackHandlers fallback (holder.callSignature undefined argv w)) := by
  refine returnsNormally_tryCatch fallback (fun result h => ?_) fun e _ =>
    isSome_find?_accepts (by decide) e
  obtain ⟨v, rfl⟩ := Binder.callSignature_result h
  exact .inl ⟨v, h, h⟩

/-- The overload callback returns normally, whatever the dispatch does. -/
lemma returnsNormally_overload (dispatched : Run σ (Option Value)) (fallback : String) :
    ReturnsNormally dispatched (.tryCatch callbackHandlers fallback (overloadBody dispatched)) := by
  refine returnsNormally_tryCatch fallback (fun result h => ?_) fun e _ =>
    isSome_find?_accepts (by decide) e
  unfold overloadBody at h ⊢
  rcases hresult : dispatched.result with e | result
  · simp only [hresult] at h
    cases h
  · cases result with
    | none => exact returnsNormally_refuse dispatched _ _ _
    | some v => exact .inl ⟨v, hresult, hresult⟩

/-- The code behind a class constructor throws nothing outside the `std::exception` hierarchy,
and the constructor gets to it. -/
def Entry.Guarded (runtime : Runtime σ Value) (info : CallInfo Value) (w : σ) :
    Entry σ Value → Prop
  | constructor holder =>
    let receiver := runtime.selfOrNew info w
    info.ok = true ∧ (holder.invoke receiver.1 receiver.2).result ≠ .error .unknown
  | _ => True

/-- `class_constructor` returns normally exactly when it gets its call info and the code behind
it throws nothing but standard exceptions. -/
lemma returnsNormally_classConstructor (runtime : Runtime σ Value)
    (holder : ClassStateHolder σ Value) (info : CallInfo Value) (w : σ) :
    ReturnsNormally (constructorBody runtime holder info w)
      (classConstructorEntry runtime holder info w) ↔
      (Entry.constructor holder).Guarded runtime info w := by
  unfold classConstructorEntry Entry.Guarded
  cases hok : info.ok with
  | false => simp [ReturnsNormally]
  | true =>
    simp only [Bool.not_true, Bool.false_eq_true, if_false, true_and]
    generalize hreceiver : runtime.selfOrNew info w = receiver
    have hbody : constructorBody runtime holder info w =
        (holder.invoke receiver.1 receiver.2).map fun _ => receiver.1 := by
      rw [constructorBody, hreceiver]
    rw [hbody]
    cases hresult : (holder.invoke receiver.1 receiver.2).result with
    | ok u =>
      -- an object was constructed, so there is one
      obtain ⟨self, hself⟩ : ∃ self, receiver.1 = some self := by
        cases hself : receiver.1 with
        | some self => exact ⟨self, rfl⟩
        | none =>
          obtain ⟨e, he⟩ := holder.needs_object receiver.2
          rw [hself, he] at hresult
          cases hresult
      refine iff_of_true (returnsNormally_tryCatch "" (fun result h => ?_) fun e h => ?_) (by simp)
      · have hvalue : ((holder.invoke receiver.1 receiver.2).map fun _ => receiver.1).result =
            .ok (some self) := by
          rw [Run.map, hresult, hself]
          rfl
        exact .inl ⟨self, hvalue, hvalue⟩
      · rw [Run.map, hresult] at h
        cases h
    | error e =>
      have hraised : ((holder.invoke receiver.1 receiver.2).map fun _ => receiver.1).result =
          .error e := by
        rw [Run.map, hresult]
        rfl
      have hcaught := isSome_find?_constructorHandlers e
      constructor
      · rintro hreturns heq
        obtain rfl : e = .unknown := Except.error.inj heq
        have hout := result_tryCatch "" hraised (by decide : constructorHandlers.find? _ = none)
        rcases hreturns with ⟨v, -, hv⟩ | ⟨hnone, -⟩
        · rw [hout] at hv
          cases hv
        · rw [hout] at hnone
          cases hnone
      · intro hne
        refine returnsNormally_tryCatch "" (fun result h => ?_) fun e' h => ?_
        · rw [hraised] at h
          cases h
        · obtain rfl : e = e' := Except.error.inj (hraised.symm.trans h)
          exact hcaught.mpr fun heq => hne (by rw [heq])

/-- Every registered callback returns normally to the runtime, except a class constructor that
does not get its call info or whose code throws an exception outside the `std::exception`
hierarchy: that one leaves without an error, or lets the exception out. -/
theorem entry_returnsNormally_iff (runtime : Runtime σ Value) (entry : Entry σ Value)
    (info : CallInfo Value) (w : σ) :
    ReturnsNormally (entry.behind runtime info w) (entry.callback runtime info w) ↔
      entry.Guarded runtime info w := by
  cases entry with
  | callable arity holder =>
    refine iff_of_true ?_ trivial
    rw [Entry.callback, callbackDispatch]
    split
    · exact returnsNormally_refuse _ _ _ _
    · exact returnsNormally_callSignature _ _ _ _ w
  | member arity holder =>
    refine iff_of_true ?_ trivial
    rw [Entry.callback, memberCallbackDispatch]
    split
    · exact returnsNormally_refuse _ _ _ _
    · exact returnsNormally_callSignature _ _ _ _ w
  | overload maxArity dispatchOptional =>
    refine iff_of_true ?_ trivial
    rw [Entry.callback, overloadCallback]
    split
    · exact returnsNormally_refuse _ _ _ _
    · exact returnsNormally_overload _ _
  | constructor holder => exact returnsNormally_classConstructor runtime holder info w

/-! ## The class constructor of an exported class -/

variable {Class : Type}

/-- `construct_export_object_from_native` succeeds or throws a standard exception, and it does
not succeed in the place of an object that is missing. -/
lemma constructExportObjectFromNative_result (napiVersion : ℕ) (cls : Class)
    (calls : ConstructorCalls) (self : Option ℕ) (receiver : ℕ) (w : World Class) :
    (self ≠ none ∧
      (constructExportObjectFromNative napiVersion cls calls self receiver w).1 = .ok ()) ∨
    ∃ what, (constructExportObjectFromNative napiVersion cls calls self receiver w).1 =
      .error (.stdException what) := by
  unfold constructExportObjectFromNative
  generalize (if 8 ≤ napiVersion then napiTypeTagObject calls.typeTagObject self cls w
    else (true, w)) = tagged
  obtain ⟨ok, w'⟩ := tagged
  cases ok with
  | false => exact .inr ⟨_, rfl⟩
  | true =>
    rcases napiWrap_cases calls.wrap self (.exported cls receiver) w' with
      ⟨handle, tag, rfl, -, -, hwrap⟩ | hwrap
    · simp only [hwrap, Bool.not_true, Bool.false_eq_true, if_false, reset, check]
      cases calls.createReference with
      | true => exact .inl ⟨Option.some_ne_none handle, rfl⟩
      | false => exact .inr ⟨_, rfl⟩
    · simp only [hwrap]
      exact .inr ⟨_, rfl⟩

/-- A handoff is taken, or not found, or it throws a standard exception. -/
lemma tryConstructExternalProxy_result (napiVersion : ℕ) (cls : Class)
    (calls : ConstructorCalls) (info : CallbackInfo Value) (self : Option ℕ) (w : World Class) :
    (self ≠ none ∧
      (tryConstructExternalProxy napiVersion cls calls info self w).1 = .ok true) ∨
    (tryConstructExternalProxy napiVersion cls calls info self w).1 = .ok false ∨
    ∃ what, (tryConstructExternalProxy napiVersion cls calls info self w).1 =
      .error (.stdException what) := by
  unfold tryConstructExternalProxy
  split
  · rename_i receiver _ _ _
    rcases constructExportObjectFromNative_result napiVersion cls calls self receiver w with
      ⟨hself, hrun⟩ | ⟨what, hrun⟩
    · refine .inl ⟨hself, ?_⟩
      split
      · rename_i heq
        rw [heq] at hrun
        cases hrun
      · rfl
    · refine .inr (.inr ⟨what, ?_⟩)
      split
      · rename_i heq
        rw [heq] at hrun
        rw [Except.error.inj hrun]
      · rename_i heq
        rw [heq] at hrun
        cases hrun
  · exact .inr (.inl rfl)

/-- The invocation gets as far as the code of an installed constructor, which throws something
outside the `std::exception` hierarchy. -/
def ClassState.ThrowsUnknown (state : ClassState Value) (calls : ConstructorCalls)
    (info : CallbackInfo Value) : Prop :=
  calls.getArgumentInfo = true ∧ ∃ constructor, state.construct = some constructor ∧
    info.argv.length = constructor.arity ∧ constructor.run info.argv = .error .unknown

/-- Without a handoff, an exception of the installed constructor is one of `construct_entry`. -/
lemma constructEntry_of_throws (napiVersion : ℕ) (cls : Class) {state : ClassState Value}
    {calls : ConstructorCalls} {info : CallbackInfo Value} {self : Option ℕ} {w : World Class}
    {constructor : Constructor Value} {e : Raised}
    (hhandoff : (tryConstructExternalProxy napiVersion cls calls info self w).1 = .ok false)
    (hconstruct : state.construct = some constructor) (harguments : calls.getArgumentInfo = true)
    (harity : info.argv.length = constructor.arity) (hrun : constructor.run info.argv = .error e) :
    (constructEntry napiVersion cls state calls info self w).1 = .error e := by
  unfold constructEntry
  rcases htry : tryConstructExternalProxy napiVersion cls calls info self w with ⟨result, w'⟩
  obtain rfl : result = .ok false := by rw [htry] at hhandoff; exact hhandoff
  simp [hconstruct, constructSignature, harguments, harity, hrun]

/-- How `construct_entry` ends: with the object it was given, with a standard exception, or with
whatever the installed constructor throws. -/
lemma constructEntry_result (napiVersion : ℕ) (cls : Class) (state : ClassState Value)
    (calls : ConstructorCalls) (info : CallbackInfo Value) (self : Option ℕ) (w : World Class) :
    (self ≠ none ∧ (constructEntry napiVersion cls state calls info self w).1 = .ok ()) ∨
    (∃ e, e ≠ .unknown ∧
      (constructEntry napiVersion cls state calls info self w).1 = .error e) ∨
    ((tryConstructExternalProxy napiVersion cls calls info self w).1 = .ok false ∧
      state.ThrowsUnknown calls info ∧
      (constructEntry napiVersion cls state calls info self w).1 = .error .unknown) := by
  have hstd : ∀ what, Raised.stdException what ≠ .unknown := by
    intro what h
    cases h
  have htry := tryConstructExternalProxy_result napiVersion cls calls info self w
  unfold constructEntry
  rcases hrun : tryConstructExternalProxy napiVersion cls calls info self w with ⟨result, w'⟩
  rw [hrun] at htry
  rcases htry with ⟨hself, rfl⟩ | rfl | ⟨what, rfl⟩
  · exact .inl ⟨hself, rfl⟩
  · dsimp only
    cases hconstruct : state.construct with
    | none => exact .inr (.inl ⟨_, hstd _, rfl⟩)
    | some constructor =>
      dsimp only
      unfold constructSignature
      split
      · exact .inr (.inl ⟨_, hstd _, rfl⟩)
      · rename_i harguments
        cases houtcome : constructor.run info.argv with
        | error e =>
          by_cases he : e = .unknown
          · subst he
            simp only [Bool.or_eq_true, Bool.not_eq_true', bne_iff_ne, not_or, not_not,
              Bool.not_eq_false] at harguments
            exact .inr (.inr ⟨rfl, ⟨harguments.1, constructor, hconstruct, harguments.2,
              houtcome⟩, rfl⟩)
          · exact .inr (.inl ⟨e, he, rfl⟩)
        | ok u =>
          rcases constructExportObjectFromNative_result napiVersion cls calls self w'.natives
            w'.constructNative with ⟨hself, hok⟩ | ⟨what, herror⟩
          · exact .inl ⟨hself, hok⟩
          · exact .inr (.inl ⟨_, hstd what, herror⟩)
  · exact .inr (.inl ⟨_, hstd what, rfl⟩)

/-- The holder of a class state, for one call of its constructor. -/
def classStateHolder (napiVersion : ℕ) (cls : Class) (state : ClassState Value)
    (calls : ConstructorCalls) (info : CallbackInfo Value) : ClassStateHolder (World Class) ℕ where
  invoke self w :=
    let run := constructEntry napiVersion cls state calls info self w
    ⟨run.1, run.2, []⟩
  needs_object := by
    intro w
    rcases constructEntry_result napiVersion cls state calls info none w with
      ⟨hself, -⟩ | ⟨e, -, he⟩ | ⟨-, -, he⟩
    · exact absurd rfl hself
    · exact ⟨e, he⟩
    · exact ⟨_, he⟩

/-- Node-API on the objects of the environment. -/
def worldRuntime (calls : ConstructorCalls) : Runtime (World Class) ℕ where
  undefined := 0
  createObject w :=
    if calls.createObject then (some w.objects.length, w.createObject) else (none, w)

/-- Both models choose the same receiver. -/
lemma selfOrNew_worldRuntime (calls : ConstructorCalls) (info : CallbackInfo Value)
    (w : World Class) :
    (worldRuntime calls).selfOrNew ⟨calls.getCbInfo, [], info.self⟩ w =
      selfOrNew calls info w := by
  unfold Runtime.selfOrNew selfOrNew
  cases info.self with
  | some self => rfl
  | none => rfl

/-- The entry point of an exported class is the constructor callback of the object model, with
its pending exception made explicit: an error of the model is the text of the last
`napi_throw_error`, unless no handler accepts it. -/
theorem classConstructorEntry_eq (napiVersion : ℕ) (cls : Class) (state : ClassState Value)
    (calls : ConstructorCalls) (info : CallbackInfo Value) (w : World Class) :
    classConstructorEntry (worldRuntime calls) (classStateHolder napiVersion cls state calls info)
        ⟨calls.getCbInfo, [], info.self⟩ w =
      match classConstructor napiVersion cls state calls info w with
      | (.ok value, w') => ⟨.ok value, w', []⟩
      | (.error .unknown, w') => ⟨.error .unknown, w', []⟩
      | (.error e, w') => ⟨.ok none, w', [e.what.getD []]⟩ := by
  unfold classConstructorEntry classConstructor constructorBody
  rw [selfOrNew_worldRuntime]
  cases calls.getCbInfo with
  | false => rfl
  | true =>
    dsimp only [classStateHolder]
    rcases constructEntry napiVersion cls state calls info (selfOrNew calls info w).1
      (selfOrNew calls info w).2 with ⟨result, w'⟩
    cases result with
    | ok u => rfl
    | error e => cases e <;> rfl

/-- The constructor of an exported class returns normally to the runtime unless it does not get
its call info, or it finds no handoff and the installed constructor throws something outside the
`std::exception` hierarchy. -/
theorem exportedClass_returnsNormally_iff (napiVersion : ℕ) (cls : Class)
    (state : ClassState Value) (calls : ConstructorCalls) (info : CallbackInfo Value)
    (w : World Class) :
    ReturnsNormally
      (constructorBody (worldRuntime calls) (classStateHolder napiVersion cls state calls info)
        ⟨calls.getCbInfo, [], info.self⟩ w)
      (classConstructorEntry (worldRuntime calls)
        (classStateHolder napiVersion cls state calls info) ⟨calls.getCbInfo, [], info.self⟩ w) ↔
    calls.getCbInfo = true ∧
      ¬ ((tryConstructExternalProxy napiVersion cls calls info (selfOrNew calls info w).1
          (selfOrNew calls info w).2).1 = .ok false ∧ state.ThrowsUnknown calls info) := by
  rw [returnsNormally_classConstructor]
  unfold Entry.Guarded
  rw [selfOrNew_worldRuntime]
  refine and_congr_right fun _ => not_congr ?_
  dsimp only [classStateHolder]
  constructor
  · intro h
    rcases constructEntry_result napiVersion cls state calls info (selfOrNew calls info w).1
      (selfOrNew calls info w).2 with ⟨-, hok⟩ | ⟨e, he, herror⟩ | ⟨hhandoff, hthrows, -⟩
    · rw [hok] at h
      cases h
    · rw [herror] at h
      exact absurd (Except.error.inj h) he
    · exact ⟨hhandoff, hthrows⟩
  · rintro ⟨hhandoff, harguments, constructor, hconstruct, harity, hrun⟩
    exact constructEntry_of_throws napiVersion cls hhandoff hconstruct harguments harity hrun

/-- A class exported with a constructor that throws an `int`: the exception leaves the
callback. -/
theorem throwingConstructor_escapes :
    ∃ entry : Entry (World Unit) ℕ,
      (entry.callback (worldRuntime {}) ⟨true, [], some 0⟩ { objects := [{}] }).result =
        .error .unknown ∧
      ¬ ReturnsNormally (entry.behind (worldRuntime {}) ⟨true, [], some 0⟩ { objects := [{}] })
        (entry.callback (worldRuntime {}) ⟨true, [], some 0⟩ { objects := [{}] }) := by
  refine ⟨.constructor (classStateHolder 8 () ⟨some ⟨0, fun _ => .error .unknown⟩⟩ {}
    (⟨some 0, []⟩ : CallbackInfo ℕ)), rfl, ?_⟩
  rintro (⟨v, -, h⟩ | ⟨h, -⟩)
  · cases h
  · cases h

end Dynabridge.Napi
