import Dynabridge.Napi.EntryPoints

/-!
# Exceptions between JavaScript and C++

JavaScript calls exported functions, whose C++ code calls JavaScript again, to any depth.  When
such a call throws, Node-API keeps the exception as pending: C++ code sees a `std::runtime_error`
that it may handle or not, no further call enters JavaScript, and `napi_throw_error` does nothing;
the exception goes on when the C++ code returns.  `Script.run` and `Native.run` follow this with the
pending exception in the environment.

In `Script.denote` and `Native.denote` there is no such state.  An exception that leaves
JavaScript is the result of the C++ code that it reaches, which goes on alone.
-/

namespace Dynabridge.Napi

variable {Value Exception Action σ : Type}

/-- What JavaScript can catch: an exception that was thrown there, or an `Error` that
`napi_throw_error` has made. -/
inductive JsError (Exception : Type)
  | thrown (e : Exception)
  | made (text : List UInt8)
  deriving DecidableEq

/-- The calls of Node-API that enter JavaScript and are checked. -/
inductive IntoJs
  | callFunction
  | newInstance
  | newExportedInstance
  | importLookup
  | prototypeLookup
  | defineProperty
  | defineMethod
  deriving DecidableEq

/-- What is thrown when such a call fails. -/
def IntoJs.failure : IntoJs → Raised
  | callFunction => .stdException (ascii "napi_call_function failed")
  | newInstance => .stdException (ascii "napi_new_instance failed")
  | newExportedInstance => .stdException (ascii "napi_new_instance failed for exported object")
  | importLookup => .stdException (ascii "N-API import lookup failed")
  | prototypeLookup => .stdException (ascii "napi class prototype lookup failed")
  | defineProperty => .stdException (ascii "napi_set_named_property failed")
  | defineMethod => .stdException (ascii "napi class method definition failed")

/-- The callback of an exported function. -/
inductive EntryPoint
  | callable (arity : ℕ)
  | member (arity : ℕ)
  | overload (maxArity : ℕ)
  deriving DecidableEq

mutual

/-- JavaScript code, by what it does next.  It catches what it goes on after. -/
inductive Script (Value Exception Action : Type)
  | act (a : Action) (next : Script Value Exception Action)
  | returns (v : Value)
  | throws (e : JsError Exception)
  /-- a call of an exported function; `body` is the code behind it on these arguments -/
  | call (point : EntryPoint) (info : CallInfo Value) (body : Native Value Exception Action)
      (next : Except (JsError Exception) Value → Script Value Exception Action)

/-- C++ code behind an exported function.  It has no result when it is `void` or when no overload
matches. -/
inductive Native (Value Exception Action : Type)
  | act (a : Action) (next : Native Value Exception Action)
  | returns (v : Option Value)
  | raises (e : Raised)
  | call (site : IntoJs) (script : Script Value Exception Action)
      (next : Except Raised Value → Native Value Exception Action)

end

/-- An action, and whether an exception is pending meanwhile. -/
inductive Event (Action : Type)
  | js (a : Action) (pending : Bool)
  | native (a : Action) (pending : Bool)
  deriving DecidableEq

/-- What Node-API keeps for the environment, and what has happened. -/
structure Env (Exception Action : Type) where
  pending : Option (JsError Exception)
  log : List (Event Action)

namespace Env

variable (env : Env Exception Action)

def noteJs (a : Action) : Env Exception Action :=
  { env with log := env.log ++ [.js a env.pending.isSome] }

def noteNative (a : Action) : Env Exception Action :=
  { env with log := env.log ++ [.native a env.pending.isSome] }

/-- `napi_throw_error` does nothing while an exception is pending. -/
def napiThrowError (text : List UInt8) : Env Exception Action :=
  { env with pending := env.pending.or (some (.made text)) }

end Env

/-! ## With the pending exception in the environment -/

/-- The registered callback, over the code behind it. -/
def EntryPoint.entry (undefined : Value) (code : Code σ (Option Value)) :
    EntryPoint → Entry σ Value
  | callable arity => .callable arity (.returning fun _ w => (code w).map (·.getD undefined))
  | member arity => .member arity fun _ => .returning fun _ w => (code w).map (·.getD undefined)
  | overload maxArity => .overload maxArity fun _ _ => code

/-- The return of a callback to Node-API, which throws what is pending.  The callback of an
exported function lets no C++ exception out. -/
def leave (undefined : Value) (run : Run (Env Exception Action) (Option Value)) :
    Except (JsError Exception) Value × Env Exception Action :=
  let env := run.thrown.foldl Env.napiThrowError run.world
  match env.pending with
  | some e => (.error e, { env with pending := none })
  | none => (.ok ((run.result.toOption.getD none).getD undefined), env)

/-- A call of an exported function. -/
def EntryPoint.called (undefined : Value) (point : EntryPoint) (info : CallInfo Value)
    (code : Code (Env Exception Action) (Option Value)) (env : Env Exception Action) :
    Except (JsError Exception) Value × Env Exception Action :=
  leave undefined ((point.entry undefined code).callback ⟨undefined, fun w => (none, w)⟩ info env)

mutual

def Script.run (undefined : Value) : Script Value Exception Action → Env Exception Action →
    Except (JsError Exception) Value × Env Exception Action
  | .act a next, env => next.run undefined (env.noteJs a)
  | .returns v, env => (.ok v, env)
  | .throws e, env => (.error e, env)
  | .call point info body next, env =>
    let back := point.called undefined info (body.run undefined) env
    (next back.1).run undefined back.2

def Native.run (undefined : Value) : Native Value Exception Action →
    Code (Env Exception Action) (Option Value)
  | .act a next, env => next.run undefined (env.noteNative a)
  | .returns v, env => ⟨.ok v, env, []⟩
  | .raises e, env => ⟨.error e, env, []⟩
  | .call site script next, env =>
    match env.pending with
    | some _ => (next (.error site.failure)).run undefined env
    | none =>
      match script.run undefined env with
      | (.ok v, env) => (next (.ok v)).run undefined env
      | (.error e, env) =>
        (next (.error site.failure)).run undefined { env with pending := some e }

end

/-! ## With exceptions as results -/

/-- The callback does not get to the code behind it. -/
def EntryPoint.refuses (point : EntryPoint) (info : CallInfo Value) : Bool :=
  match point with
  | callable arity | member arity => !info.ok || info.args.length != arity
  | overload _ => !info.ok

/-- The text of the error of a call that is refused. -/
def EntryPoint.refusal : EntryPoint → List UInt8
  | callable _ | member _ => ascii "dynabridge N-API callback received invalid call info"
  | overload _ => ascii "dynabridge N-API overload callback received invalid call info"

/-- The text of the error that stands for a C++ exception. -/
def EntryPoint.text (point : EntryPoint) (e : Raised) : List UInt8 :=
  e.what.getD (match point with
    | callable _ | member _ => ascii "dynabridge N-API callback failed"
    | overload _ => ascii "dynabridge N-API overload callback failed")

/-- What the code behind an exported function comes to in JavaScript. -/
def EntryPoint.answer (undefined : Value) (point : EntryPoint) :
    Except Raised (Option Value) → Except (JsError Exception) Value
  | .error e => .error (.made (point.text e))
  | .ok (some v) => .ok v
  | .ok none =>
    match point with
    | callable _ | member _ => .ok undefined
    | overload _ => .error (.made (ascii "dynabridge N-API overload has no matching signature"))

/-- C++ code that cannot enter JavaScript. -/
def Native.alone : Native Value Exception Action → List (Event Action) → List (Event Action)
  | .act a next, log => next.alone (log ++ [.native a true])
  | .returns _, log | .raises _, log => log
  | .call site _ next, log => (next (.error site.failure)).alone log

mutual

def Script.denote (undefined : Value) : Script Value Exception Action → List (Event Action) →
    Except (JsError Exception) Value × List (Event Action)
  | .act a next, log => next.denote undefined (log ++ [.js a false])
  | .returns v, log => (.ok v, log)
  | .throws e, log => (.error e, log)
  | .call point info body next, log =>
    if point.refuses info then (next (.error (.made point.refusal))).denote undefined log
    else
      match body.denote undefined log with
      | (.ok outcome, log) => (next (point.answer undefined outcome)).denote undefined log
      | (.error e, log) => (next (.error e)).denote undefined log

/-- The outcome of C++ code, or the exception that has reached it. -/
def Native.denote (undefined : Value) : Native Value Exception Action → List (Event Action) →
    Except (JsError Exception) (Except Raised (Option Value)) × List (Event Action)
  | .act a next, log => next.denote undefined (log ++ [.native a false])
  | .returns v, log => (.ok (.ok v), log)
  | .raises e, log => (.ok (.error e), log)
  | .call site script next, log =>
    match script.denote undefined log with
    | (.ok v, log) => (next (.ok v)).denote undefined log
    | (.error e, log) => (.error e, (next (.error site.failure)).alone log)

end

/-! ## Calls of exported functions -/

namespace EntryPoint

variable (undefined : Value) (point : EntryPoint) {info : CallInfo Value}
  {code : Code (Env Exception Action) (Option Value)}
  {env env' : Env Exception Action}

lemma called_of_refuses (hrefuses : point.refuses info = true) (hpending : env.pending = none) :
    point.called undefined info code env = (.error (.made point.refusal), env) := by
  obtain ⟨pending, log⟩ := env
  obtain rfl : pending = none := hpending
  cases point <;>
    simp only [refuses] at hrefuses <;>
    simp [called, entry, Entry.callback, callbackDispatch, memberCallbackDispatch,
      overloadCallback, hrefuses, Run.refuse, leave, Env.napiThrowError, refusal]

/-- The handlers of a callback make an error of every exception. -/
lemma tryCatch_error (fallback : String) (e : Raised) (w : σ) (thrown : List (List UInt8)) :
    Run.tryCatch callbackHandlers fallback (⟨.error e, w, thrown⟩ : Run σ (Option Value)) =
      .refuse (e.what.getD (ascii fallback)) w thrown := by
  cases e <;> rfl

/-- The callback over code that has ended. -/
lemma callback_of_code (hreaches : point.refuses info = false) (runtime : Runtime _ Value)
    {outcome : Except Raised (Option Value)} (hcode : code env = ⟨outcome, env', []⟩) :
    (point.entry undefined code).callback runtime info env =
      match outcome, point with
      | .error e, _ => .refuse (point.text e) env' []
      | .ok v, callable _ | .ok v, member _ => ⟨.ok (some (v.getD undefined)), env', []⟩
      | .ok (some v), overload _ => ⟨.ok (some v), env', []⟩
      | .ok none, overload _ =>
        .refuse (ascii "dynabridge N-API overload has no matching signature") env' [] := by
  rcases outcome with e | _ | v <;> cases point <;>
    simp only [refuses] at hreaches <;>
    simp only [entry, Entry.callback, callbackDispatch, memberCallbackDispatch, overloadCallback,
      hreaches, hcode, Binder.callSignature, Run.map, Except.map, overloadBody, tryCatch_error,
      text, Bool.false_eq_true, if_false] <;> rfl

/-- An exception that is pending goes on, whatever the C++ code came to. -/
lemma called_of_pending (hreaches : point.refuses info = false)
    {outcome : Except Raised (Option Value)} (hcode : code env = ⟨outcome, env', []⟩)
    {e : JsError Exception} (hpending : env'.pending = some e) :
    point.called undefined info code env = (.error e, { env' with pending := none }) := by
  obtain ⟨pending, log⟩ := env'
  obtain rfl : pending = some e := hpending
  rw [called, callback_of_code undefined point hreaches _ hcode]
  rcases outcome with e' | _ | v <;> cases point <;> rfl

/-- Without one the C++ code is answered. -/
lemma called_of_none (hreaches : point.refuses info = false)
    {outcome : Except Raised (Option Value)} (hcode : code env = ⟨outcome, env', []⟩)
    (hpending : env'.pending = none) :
    point.called undefined info code env = (point.answer undefined outcome, env') := by
  obtain ⟨pending, log⟩ := env'
  obtain rfl : pending = none := hpending
  rw [called, callback_of_code undefined point hreaches _ hcode]
  rcases outcome with e | _ | v <;> cases point <;> rfl

end EntryPoint

/-! ## The refinement -/

variable (undefined : Value)

/-- While an exception is pending C++ code goes on alone. -/
lemma Native.run_of_pending (native : Native Value Exception Action) (e : JsError Exception)
    (log : List (Event Action)) :
    ∃ outcome, native.run undefined ⟨some e, log⟩ = ⟨outcome, ⟨some e, native.alone log⟩, []⟩ := by
  match native with
  | .act a next => exact Native.run_of_pending next e (log ++ [.native a true])
  | .returns v => exact ⟨.ok v, rfl⟩
  | .raises r => exact ⟨.error r, rfl⟩
  | .call site _ next => exact Native.run_of_pending (next (.error site.failure)) e log

mutual

theorem Script.run_eq (script : Script Value Exception Action) (log : List (Event Action)) :
    script.run undefined ⟨none, log⟩ =
      ((script.denote undefined log).1, ⟨none, (script.denote undefined log).2⟩) := by
  match script with
  | .act a next => exact Script.run_eq next (log ++ [.js a false])
  | .returns v => rfl
  | .throws e => rfl
  | .call point info body next =>
    cases hrefuses : point.refuses info with
    | true =>
      rw [Script.run, Script.denote, point.called_of_refuses undefined hrefuses rfl,
        if_pos hrefuses]
      exact Script.run_eq _ log
    | false =>
      rw [Script.run, Script.denote, hrefuses, if_neg Bool.false_ne_true]
      rcases Native.run_eq body log with ⟨outcome, log', hdenote, hrun⟩ |
        ⟨e, outcome, log', hdenote, hrun⟩
      · rw [point.called_of_none undefined hrefuses hrun rfl, hdenote]
        exact Script.run_eq _ log'
      · rw [point.called_of_pending undefined hrefuses hrun rfl, hdenote]
        exact Script.run_eq _ log'

theorem Native.run_eq (native : Native Value Exception Action) (log : List (Event Action)) :
    (∃ outcome log', native.denote undefined log = (.ok outcome, log') ∧
      native.run undefined ⟨none, log⟩ = ⟨outcome, ⟨none, log'⟩, []⟩) ∨
    ∃ e outcome log', native.denote undefined log = (.error e, log') ∧
      native.run undefined ⟨none, log⟩ = ⟨outcome, ⟨some e, log'⟩, []⟩ := by
  match native with
  | .act a next => exact Native.run_eq next (log ++ [.native a false])
  | .returns v => exact .inl ⟨.ok v, log, rfl, rfl⟩
  | .raises r => exact .inl ⟨.error r, log, rfl, rfl⟩
  | .call site script next =>
    have hscript := Script.run_eq script log
    rw [Native.run, Native.denote]
    dsimp only
    rw [hscript]
    rcases script.denote undefined log with ⟨e | v, log'⟩
    · obtain ⟨outcome, hrun⟩ :=
        (next (.error site.failure)).run_of_pending undefined e log'
      exact .inr ⟨e, outcome, _, rfl, hrun⟩
    · exact Native.run_eq (next (.ok v)) log'

end

/-! ## What JavaScript sees -/

lemma Native.js_of_alone {a : Action} (native : Native Value Exception Action)
    {log : List (Event Action)} (h : .js a true ∈ native.alone log) : .js a true ∈ log := by
  match native with
  | .act b next =>
    have hmem := Native.js_of_alone next h
    simpa using hmem
  | .returns _ | .raises _ => exact h
  | .call site _ next => exact Native.js_of_alone (next (.error site.failure)) h

mutual

/-- No JavaScript runs while an exception is pending. -/
lemma Script.js_of_denote {a : Action} (script : Script Value Exception Action)
    {log : List (Event Action)} (h : .js a true ∈ (script.denote undefined log).2) :
    .js a true ∈ log := by
  match script with
  | .act b next =>
    have hmem := Script.js_of_denote next h
    simpa using hmem
  | .returns _ | .throws _ => exact h
  | .call point info body next =>
    rw [Script.denote] at h
    split at h
    · exact Script.js_of_denote _ h
    · split at h
      case h_1 outcome log' hbody =>
        have hmem := Script.js_of_denote _ h
        exact Native.js_of_denote body (hbody ▸ hmem)
      case h_2 e log' hbody =>
        have hmem := Script.js_of_denote _ h
        exact Native.js_of_denote body (hbody ▸ hmem)

lemma Native.js_of_denote {a : Action} (native : Native Value Exception Action)
    {log : List (Event Action)} (h : .js a true ∈ (native.denote undefined log).2) :
    .js a true ∈ log := by
  match native with
  | .act b next =>
    have hmem := Native.js_of_denote next h
    simpa using hmem
  | .returns _ | .raises _ => exact h
  | .call site script next =>
    rw [Native.denote] at h
    split at h
    case h_1 v log' hscript =>
      have hmem := Native.js_of_denote _ h
      exact Script.js_of_denote script (hscript ▸ hmem)
    case h_2 e log' hscript =>
      have hmem := Native.js_of_alone _ h
      exact Script.js_of_denote script (hscript ▸ hmem)

end

/-- A call of an exported function whose C++ code calls JavaScript.  The JavaScript around it does
not catch what the call throws. -/
structure Frame (Value Exception Action : Type) where
  point : EntryPoint
  info : CallInfo Value
  reaches : point.refuses info = false
  site : IntoJs
  /-- the C++ code after the call of JavaScript -/
  after : Except Raised Value → Native Value Exception Action
  resume : Value → Script Value Exception Action

/-- The frame around JavaScript code. -/
def Frame.around (f : Frame Value Exception Action) (inner : Script Value Exception Action) :
    Script Value Exception Action :=
  .call f.point f.info (.call f.site inner f.after) fun
    | .ok v => f.resume v
    | .error e => .throws e

lemma Frame.denote_around (f : Frame Value Exception Action)
    {inner : Script Value Exception Action} {log : List (Event Action)} {e : JsError Exception}
    (h : (inner.denote undefined log).1 = .error e) :
    ((f.around inner).denote undefined log).1 = .error e := by
  rcases hinner : inner.denote undefined log with ⟨outcome, log'⟩
  obtain rfl : outcome = .error e := by rw [hinner] at h; exact h
  rw [Frame.around, Script.denote, f.reaches, if_neg Bool.false_ne_true, Native.denote, hinner]
  rfl

lemma denote_frames (frames : List (Frame Value Exception Action)) (e : JsError Exception)
    (log : List (Event Action)) :
    ((frames.foldr Frame.around (.throws e)).denote undefined log).1 = .error e := by
  induction frames with
  | nil => rfl
  | cons f frames ih => exact f.denote_around undefined ih

/-- With the pending exception in the environment, JavaScript and C++ that call each other do what
they do when exceptions are results, and leave no exception pending.  No JavaScript runs while one
is pending.  An exception goes unchanged through any number of calls of exported functions whose
JavaScript does not catch it, whatever their C++ code does with its own. -/
theorem exceptions_pass (script : Script Value Exception Action) (log : List (Event Action)) :
    script.run undefined ⟨none, log⟩ =
      ((script.denote undefined log).1, ⟨none, (script.denote undefined log).2⟩) ∧
    (∀ a, .js a true ∈ (script.run undefined ⟨none, log⟩).2.log → .js a true ∈ log) ∧
    ∀ (frames : List (Frame Value Exception Action)) (e : JsError Exception),
      ((frames.foldr Frame.around (.throws e)).run undefined ⟨none, log⟩).1 = .error e := by
  refine ⟨script.run_eq undefined log, fun a h => ?_, fun frames e => ?_⟩
  · rw [script.run_eq undefined log] at h
    exact script.js_of_denote undefined h
  · rw [Script.run_eq]
    exact denote_frames undefined frames e log

end Dynabridge.Napi
