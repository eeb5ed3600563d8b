import Dynabridge.Export.OverloadDispatch
import Dynabridge.Foundations.SortedTable
import Dynabridge.Rpc.Converters
import Dynabridge.Rpc.RequestCodec
import Dynabridge.Rpc.ResponseCodec

/-!
# The RPC router

A `Router` is a table of routes that is sorted by the hash of their names; its fields carry
that invariant, and `Router.define` keeps it.  `dispatchBody` is the body of
`router::dispatch`: with exceptions switched off it is all of it, with exceptions it runs
inside the two handlers of `dispatch`.

The router is modelled for any backend over RPC values that opts into the probe policy.
-/

namespace Dynabridge.Rpc

open Export SortedTable

/-- A `const char*` name: its bytes up to the terminating NUL. -/
abbrev CString := {bytes : List UInt8 // (0 : UInt8) ∉ bytes}

/-- `detail::symbol_id` -/
def symbolId (name : CString) : UInt64 :=
  name.val.foldl (fun hash current => (hash ^^^ current.toUInt64) * 1099511628211)
    14695981039346656037

/-! ## The route table -/

/-- `router::route` -/
structure Route (B : ProbingBackend Value) where
  id : UInt64
  name : CString
  binder : Binder B.toBackend

/-- The key the route table is sorted by. -/
def Route.key {B : ProbingBackend Value} (r : Route B) : ℕ := r.id.toNat

/-- `route::invoke` for a library binder: `dispatch_optional` through the consuming
accessor. -/
def Route.invoke {B : ProbingBackend Value} (r : Route B) (args : List Value) :
    Except Raised (Option Value) × Trace B.toBackend :=
  r.binder.dispatchOptional args.length consumingVectorAccessor args

/-- `rpc::router` -/
structure Router (B : ProbingBackend Value) where
  /-- `routes_` -/
  routes : List (Route B)
  sorted : Sorted Route.key routes
  hashed : ∀ r ∈ routes, r.id = symbolId r.name

namespace Router

variable {B : ProbingBackend Value}

/-- A new router. -/
def empty : Router B := ⟨[], List.Pairwise.nil, by simp⟩

/-- The route with a given id, as `dispatch` and `define` look it up. -/
def find (router : Router B) (id : UInt64) : Option (Route B) :=
  lookup Route.key id.toNat router.routes

/-- A lookup finds exactly the route with the id. -/
lemma find_eq_some_iff {router : Router B} {id : UInt64} {r : Route B} :
    router.find id = some r ↔ r ∈ router.routes ∧ r.id = id := by
  rw [find, lookup_eq_some_iff router.sorted, Route.key, UInt64.toNat_inj]

/-- A lookup fails exactly when no route has the id. -/
lemma find_eq_none_iff {router : Router B} {id : UInt64} :
    router.find id = none ↔ ∀ r ∈ router.routes, r.id ≠ id := by
  rw [find, lookup_eq_none_iff router.sorted]
  simp only [Route.key, ne_eq, UInt64.toNat_inj]

/-- `router::define` -/
def define (router : Router B) (name : CString) (binder : Binder B.toBackend) :
    Except Raised (Router B) :=
  let route : Route B := ⟨symbolId name, name, binder⟩
  let existing := lowerBound Route.key (symbolId name).toNat router.routes
  match h : router.find (symbolId name) with
  | some entry =>
    if entry.name ≠ name then throw (.protocolError (ascii "RPC symbol hash collision"))
    else pure
      { routes := router.routes.set existing route
        sorted := sorted_set (b := route) router.sorted h
        hashed := by
          intro r hr
          rcases List.mem_or_eq_of_mem_set hr with hmem | rfl
          · exact router.hashed r hmem
          · rfl }
  | none =>
    pure
      { routes := router.routes.insertIdx existing route
        sorted := by
          refine sorted_insertIdx (a := route) router.sorted fun r hr => ?_
          have hid := find_eq_none_iff.mp h r hr
          simpa [Route.key, UInt64.toNat_inj, route] using hid
        hashed := by
          intro r hr
          rcases (List.mem_insertIdx (lowerBound_le_length _ _)).mp hr with rfl | hmem
          · rfl
          · exact router.hashed r hmem }

/-- The router with one route. -/
def singleton (name : CString) (binder : Binder B.toBackend) : Router B :=
  ⟨[⟨symbolId name, name, binder⟩], List.pairwise_singleton _ _, by simp⟩

/-! ## Dispatch -/

/-- The body of `router::dispatch`, with the events of the route it invokes. -/
def dispatchBody (router : Router B) (frame : List UInt8) :
    Except Raised (List UInt8) × List (Event B.toBackend) :=
  match tryDecodeRequest frame ⟨0, []⟩ with
  | (false, _) => (encodeError (ascii "invalid RPC request frame"), [])
  | (true, request) =>
    match router.find request.method with
    | none => (encodeError (ascii "unknown RPC method"), [])
    | some candidate =>
      match candidate.invoke request.args with
      | (.error e, trace) => (.error e, trace.log)
      | (.ok none, trace) =>
        (encodeError (ascii "RPC argument conversion or arity mismatch"), trace.log)
      | (.ok (some result), trace) => (encodeResponse result, trace.log)

/-- `router::dispatch` with exceptions: the two handlers around the body. -/
def dispatch (router : Router B) (frame : List UInt8) :
    Except Raised (List UInt8) × List (Event B.toBackend) :=
  match router.dispatchBody frame with
  | (.ok response, log) => (.ok response, log)
  | (.error e, log) =>
    match e.what with
    | some what => (encodeError what, log)
    | none => (encodeError (ascii "unknown RPC server failure"), log)

/-- The handlers do not call anything. -/
lemma dispatch_log (router : Router B) (frame : List UInt8) :
    (router.dispatch frame).2 = (router.dispatchBody frame).2 := by
  unfold dispatch
  rcases router.dispatchBody frame with ⟨e | response, log⟩
  · simp only
    split <;> rfl
  · rfl

/-- A frame selects a call: it decodes to a request for a route, a candidate of that route is
the first viable one, and the arguments denote native values there. -/
structure Selects (router : Router B) (frame : List UInt8) (route : Route B) (k : ℕ)
    (sig : Signature B.Ty) (natives : B.Arguments sig.types) (request : Request) : Prop where
  decoded : tryDecodeRequest frame ⟨0, []⟩ = (true, request)
  defined : route ∈ router.routes
  method : route.id = request.method
  first : B.FirstViable route.binder.contracts request.args k sig
  denoted : B.denote consumingVectorAccessor sig.types request.args = some natives

/-- A well-formed frame for a route that is not there, or for a route without a viable
candidate. -/
def Unaccepted (router : Router B) (request : Request) : Prop :=
  (∀ route ∈ router.routes, route.id ≠ request.method) ∨
    ∃ route ∈ router.routes, route.id = request.method ∧
      ∀ contract ∈ route.binder.contracts, B.viable request.args contract = false

/-- Everything the body of a dispatch can do: answer that the frame is malformed, that the
method is unknown or that no overload accepts the arguments, all without a call; commit one
call and answer with its result; or raise because an accepted argument was not converted. -/
theorem dispatchBody_cases (router : Router B) (frame : List UInt8) :
    (tryDecodeRequest frame ⟨0, []⟩).1 = false ∧
      router.dispatchBody frame = (encodeError (ascii "invalid RPC request frame"), []) ∨
    ∃ request, tryDecodeRequest frame ⟨0, []⟩ = (true, request) ∧
      ((router.Unaccepted request ∧ ∃ text log, text.length < 2 ^ 32 ∧
          (∀ e ∈ log, Event.isInvoke e = false) ∧
          router.dispatchBody frame = (encodeError text, log)) ∨
        ∃ route ∈ router.routes, route.id = request.method ∧
          ∃ k sig, B.FirstViable route.binder.contracts request.args k sig ∧
            ∃ log, (∀ e ∈ log, Event.isInvoke e = false) ∧
              ((∃ natives, B.denote consumingVectorAccessor sig.types request.args =
                    some natives ∧
                  router.dispatchBody frame =
                    ((route.binder.callable sig natives).bind fun result =>
                        encodeResponse (B.toExportResult sig.result result),
                      log ++ [.invoke k sig natives])) ∨
                (B.denote consumingVectorAccessor sig.types request.args = none ∧
                  router.dispatchBody frame =
                    (.error (.badConversion
                        (ascii "dynabridge export argument rejected an accepted probe")),
                      log ++ [.rejectedAcceptedProbe k])))) := by
  rcases hdecode : tryDecodeRequest frame ⟨0, []⟩ with ⟨accepted, request⟩
  cases accepted with
  | false =>
    refine .inl ⟨rfl, ?_⟩
    rw [dispatchBody, hdecode]
  | true =>
    refine .inr ⟨request, rfl, ?_⟩
    cases hfind : router.find request.method with
    | none =>
      refine .inl ⟨.inl (find_eq_none_iff.mp hfind), ascii "unknown RPC method", [], by decide,
        by simp, ?_⟩
      rw [dispatchBody, hdecode]
      simp only [hfind]
    | some route =>
      obtain ⟨hmem, hid⟩ := find_eq_some_iff.mp hfind
      have hbody : router.dispatchBody frame = match route.invoke request.args with
          | (.error e, trace) => (.error e, trace.log)
          | (.ok none, trace) =>
            (encodeError (ascii "RPC argument conversion or arity mismatch"), trace.log)
          | (.ok (some result), trace) => (encodeResponse result, trace.log) := by
        rw [dispatchBody, hdecode]
        simp only [hfind]
      rcases Binder.dispatchOptional_cases B route.binder request.args with
        ⟨hnone, probes, hprobes, hrun⟩ | ⟨k, sig, hfirst, probes, left, hprobes, hrun⟩
      · refine .inl ⟨.inr ⟨route, hmem, hid, hnone⟩,
          ascii "RPC argument conversion or arity mismatch", probes, by decide,
          fun e he => (hprobes e he).isInvoke_eq, ?_⟩
        rw [hbody, Route.invoke, hrun]
      · refine .inr ⟨route, hmem, hid, k, sig, hfirst,
          probes ++ conversions B.toBackend k request.args, ?_, ?_⟩
        · intro e he
          rcases List.mem_append.mp he with he | he
          · exact (hprobes e he).isInvoke_eq
          · exact isInvoke_of_mem_conversions he
        · rw [hbody, Route.invoke, hrun]
          cases hdenote : B.denote consumingVectorAccessor sig.types request.args with
          | none => exact .inr ⟨rfl, rfl⟩
          | some natives =>
            refine .inl ⟨natives, rfl, ?_⟩
            simp only [Backend.commit]
            cases route.binder.callable sig natives <;> rfl

/-- Every message of a `std::exception` that a callable of the router throws can be encoded. -/
def ShortMessages (router : Router B) : Prop :=
  ∀ route ∈ router.routes, ∀ sig natives e what,
    route.binder.callable sig natives = .error e → e.what = some what → what.length < 2 ^ 32

/-- Routes with the same id are the same route. -/
lemma eq_of_id_eq {router : Router B} {r r' : Route B} (hr : r ∈ router.routes)
    (hr' : r' ∈ router.routes) (h : r.id = r'.id) : r = r' := by
  have hfind : router.find r.id = some r := find_eq_some_iff.mpr ⟨hr, rfl⟩
  rw [find_eq_some_iff.mpr ⟨hr', h.symm⟩] at hfind
  exact (Option.some.inj hfind).symm

/-- A frame selects at most one candidate. -/
lemma Selects.unique {router : Router B} {frame : List UInt8} {route route' : Route B}
    {k k' : ℕ} {sig sig' : Signature B.Ty} {natives : B.Arguments sig.types}
    {request request' : Request} (h : router.Selects frame route k sig natives request)
    (hdecoded : tryDecodeRequest frame ⟨0, []⟩ = (true, request'))
    (hroute : route' ∈ router.routes) (hid : route'.id = request'.method)
    (hfirst : B.FirstViable route'.binder.contracts request'.args k' sig') :
    request = request' ∧ route = route' ∧ k = k' ∧ sig = sig' := by
  obtain rfl : request = request' := by
    have heq := h.decoded.symm.trans hdecoded
    exact (Prod.mk.inj heq).2
  obtain rfl := eq_of_id_eq h.defined hroute (h.method.trans hid.symm)
  obtain ⟨rfl, rfl⟩ := h.first.unique hfirst
  exact ⟨rfl, rfl, rfl, rfl⟩

/-- A request with a first viable candidate is accepted. -/
lemma not_unaccepted {router : Router B} {route : Route B} {k : ℕ} {sig : Signature B.Ty}
    {request : Request} (hroute : route ∈ router.routes) (hid : route.id = request.method)
    (hfirst : B.FirstViable route.binder.contracts request.args k sig) :
    ¬ router.Unaccepted request := by
  rintro (hunknown | ⟨route', hroute', hid', hnone⟩)
  · exact hunknown route hroute hid
  · obtain rfl := eq_of_id_eq hroute hroute' (hid.trans hid'.symm)
    exact hfirst.not_none_viable hnone

/-- The body of a dispatch makes the call a frame selects, and answers with its result. -/
lemma dispatchBody_of_selects {router : Router B} {frame : List UInt8} {route : Route B} {k : ℕ}
    {sig : Signature B.Ty} {natives : B.Arguments sig.types} {request : Request}
    (h : router.Selects frame route k sig natives request) :
    ∃ log, (∀ e ∈ log, Event.isInvoke e = false) ∧
      router.dispatchBody frame =
        ((route.binder.callable sig natives).bind fun result =>
            encodeResponse (B.toExportResult sig.result result),
          log ++ [.invoke k sig natives]) := by
  rcases router.dispatchBody_cases frame with
    ⟨hmalformed, -⟩ | ⟨request', hdecode, ⟨hunaccepted, -⟩ |
      ⟨route', hmem, hid, k', sig', hfirst, log, hlog, hcommit⟩⟩
  · rw [h.decoded] at hmalformed
    cases hmalformed
  · have heq := h.decoded.symm.trans hdecode
    rw [← (Prod.mk.inj heq).2] at hunaccepted
    exact absurd hunaccepted (not_unaccepted h.defined h.method h.first)
  · obtain ⟨rfl, rfl, rfl, rfl⟩ := h.unique hdecode hmem hid hfirst
    rcases hcommit with ⟨natives', hdenote, hbody⟩ | ⟨hdenote, -⟩
    · rw [h.denoted] at hdenote
      obtain rfl := Option.some.inj hdenote
      exact ⟨log, hlog, hbody⟩
    · rw [h.denoted] at hdenote
      cases hdenote

/-- The frame selects a call, and the call returns an encodable value. -/
def Succeeds (router : Router B) (frame : List UInt8) : Prop :=
  ∃ route k sig natives request result, router.Selects frame route k sig natives request ∧
    route.binder.callable sig natives = .ok result ∧
    (B.toExportResult sig.result result).Encodable

/-- The frame is malformed, its method is unknown, or no overload accepts its arguments. -/
def Refused (router : Router B) (frame : List UInt8) : Prop :=
  (tryDecodeRequest frame ⟨0, []⟩).1 = false ∨
    ∃ request, tryDecodeRequest frame ⟨0, []⟩ = (true, request) ∧ router.Unaccepted request

/-- A frame with a first viable candidate is not refused. -/
lemma not_refused {router : Router B} {frame : List UInt8} {route : Route B} {k : ℕ}
    {sig : Signature B.Ty} {request : Request}
    (hdecoded : tryDecodeRequest frame ⟨0, []⟩ = (true, request))
    (hroute : route ∈ router.routes) (hid : route.id = request.method)
    (hfirst : B.FirstViable route.binder.contracts request.args k sig) :
    ¬ router.Refused frame := by
  rintro (hmalformed | ⟨request', hdecoded', hunaccepted⟩)
  · rw [hdecoded] at hmalformed
    cases hmalformed
  · have heq := hdecoded.symm.trans hdecoded'
    rw [← (Prod.mk.inj heq).2] at hunaccepted
    exact not_unaccepted hroute hid hfirst hunaccepted

/-- A refused frame does not succeed. -/
lemma Refused.not_succeeds {router : Router B} {frame : List UInt8} (h : router.Refused frame) :
    ¬ router.Succeeds frame := by
  rintro ⟨route, k, sig, natives, request, result, hselects, -, -⟩
  exact not_refused hselects.decoded hselects.defined hselects.method hselects.first h

/-- With exceptions, a raise is answered with its message. -/
lemma dispatch_of_raise {router : Router B} {frame : List UInt8} {e : Raised}
    {log : List (Event B.toBackend)} (hbody : router.dispatchBody frame = (.error e, log))
    (hshort : ∀ what, e.what = some what → what.length < 2 ^ 32) :
    ∃ text : List UInt8, text.length < 2 ^ 32 ∧
      router.dispatch frame = (.ok (errorEncoding text), log) := by
  rw [dispatch, hbody]
  cases hwhat : e.what with
  | none =>
    refine ⟨ascii "unknown RPC server failure", by decide, ?_⟩
    simp only [hwhat]
    rw [encodeError_eq (by decide)]
  | some what =>
    refine ⟨what, hshort what hwhat, ?_⟩
    simp only [hwhat]
    rw [encodeError_eq (hshort what hwhat)]

/-- What succeeds for a frame with a first viable candidate is the call of this candidate. -/
lemma Succeeds.of_firstViable {router : Router B} {frame : List UInt8} {route : Route B} {k : ℕ}
    {sig : Signature B.Ty} {request : Request} (h : router.Succeeds frame)
    (hdecoded : tryDecodeRequest frame ⟨0, []⟩ = (true, request))
    (hroute : route ∈ router.routes) (hid : route.id = request.method)
    (hfirst : B.FirstViable route.binder.contracts request.args k sig) :
    ∃ natives result, B.denote consumingVectorAccessor sig.types request.args = some natives ∧
      route.binder.callable sig natives = .ok result ∧
      (B.toExportResult sig.result result).Encodable := by
  obtain ⟨route', k', sig', natives, request', result, hselects, hcall, henc⟩ := h
  obtain ⟨rfl, rfl, rfl, rfl⟩ := hselects.unique hdecoded hroute hid hfirst
  exact ⟨natives, result, hselects.denoted, hcall, henc⟩

/-- What a dispatch with exceptions answers: the value of the selected call, or a message; a
message without a call when the frame is refused. -/
lemma dispatch_cases (router : Router B) (frame : List UInt8) (hshort : router.ShortMessages) :
    (router.Succeeds frame ∧ ∃ (v : Value) (log : List (Event B.toBackend)), v.Encodable ∧
      router.dispatch frame = (.ok (responseEncoding v), log)) ∨
    (¬ router.Succeeds frame ∧ ∃ (text : List UInt8) (log : List (Event B.toBackend)),
      text.length < 2 ^ 32 ∧ router.dispatch frame = (.ok (errorEncoding text), log) ∧
      (router.Refused frame → ∀ e ∈ log, Event.isInvoke e = false)) := by
  rcases router.dispatchBody_cases frame with
    ⟨hmalformed, hbody⟩ | ⟨request, hdecode, ⟨hunaccepted, text, log, htext, hlog, hbody⟩ |
      ⟨route, hmem, hid, k, sig, hfirst, log, hlog, hcommit⟩⟩
  · have hrefused : router.Refused frame := .inl hmalformed
    refine .inr ⟨hrefused.not_succeeds, ascii "invalid RPC request frame", [], by decide, ?_,
      fun _ => by simp⟩
    rw [dispatch, hbody, encodeError_eq (by decide)]
  · have hrefused : router.Refused frame := .inr ⟨request, hdecode, hunaccepted⟩
    refine .inr ⟨hrefused.not_succeeds, text, log, htext, ?_, fun _ => hlog⟩
    rw [dispatch, hbody, encodeError_eq htext]
  · have haccepted := not_refused hdecode hmem hid hfirst
    -- a raise of an accepted candidate is answered with its message
    have hraised : ∀ (e : Raised) (log : List (Event B.toBackend)),
        router.dispatchBody frame = (.error e, log) →
        (∀ what, e.what = some what → what.length < 2 ^ 32) → ¬ router.Succeeds frame →
        ¬ router.Succeeds frame ∧ ∃ (text : List UInt8) (log : List (Event B.toBackend)),
          text.length < 2 ^ 32 ∧ router.dispatch frame = (.ok (errorEncoding text), log) ∧
          (router.Refused frame → ∀ e ∈ log, Event.isInvoke e = false) := by
      intro e log hbody hwhat hfails
      obtain ⟨text, htext, hrun⟩ := dispatch_of_raise hbody hwhat
      exact ⟨hfails, text, log, htext, hrun, fun hrefused => absurd hrefused haccepted⟩
    rcases hcommit with ⟨natives, hdenote, hbody⟩ | ⟨hdenote, hbody⟩
    · have honly : ∀ {natives'}, B.denote consumingVectorAccessor sig.types request.args =
          some natives' → natives' = natives := fun h => Option.some.inj (h.symm.trans hdenote)
      cases hcall : route.binder.callable sig natives with
      | error e =>
        rw [hcall] at hbody
        refine .inr (hraised e _ hbody (hshort route hmem sig natives e · hcall)
          fun hsucceeds => ?_)
        obtain ⟨natives', result, hdenote', hcall', -⟩ :=
          hsucceeds.of_firstViable hdecode hmem hid hfirst
        obtain rfl := honly hdenote'
        rw [hcall] at hcall'
        cases hcall'
      | ok result =>
        rw [hcall] at hbody
        by_cases henc : (B.toExportResult sig.result result).Encodable
        · refine .inl ⟨⟨route, k, sig, natives, request, result,
            ⟨hdecode, hmem, hid, hfirst, hdenote⟩, hcall, henc⟩, _,
            log ++ [.invoke k sig natives], henc, ?_⟩
          rw [dispatch, hbody]
          simp only [Except.bind, encodeResponse_eq henc]
        · have hraise : router.dispatchBody frame =
              (.error (.protocolError (ascii "RPC string is too large")),
                log ++ [.invoke k sig natives]) := by
            rw [hbody]
            simp only [Except.bind, encodeResponse_raises henc]
          refine .inr (hraised _ _ hraise ?_ fun hsucceeds => ?_)
          · rintro what ⟨⟩
            decide
          · obtain ⟨natives', result', hdenote', hcall', henc'⟩ :=
              hsucceeds.of_firstViable hdecode hmem hid hfirst
            obtain rfl := honly hdenote'
            rw [hcall] at hcall'
            obtain rfl := Except.ok.inj hcall'
            exact henc henc'
    · refine .inr (hraised _ _ hbody ?_ fun hsucceeds => ?_)
      · rintro what ⟨⟩
        decide
      · obtain ⟨natives, result, hdenote', -, -⟩ :=
          hsucceeds.of_firstViable hdecode hmem hid hfirst
        rw [hdenote] at hdenote'
        cases hdenote'

/-- A router with exceptions answers every frame with a response that can be decoded.  The
response is a value exactly when the frame selects a call that returns an encodable one; when
the frame is malformed, the method is unknown or no overload accepts the arguments, nothing is
called and the response is an error. -/
theorem dispatch_answers (router : Router B) (frame : List UInt8)
    (hshort : router.ShortMessages) :
    ∃ response, (router.dispatch frame).1 = .ok response ∧
      (∀ value error, (tryDecodeResponse response value error).1 = .ok ∨
        (tryDecodeResponse response value error).1 = .remoteError) ∧
      (∀ value error, (tryDecodeResponse response value error).1 = .ok ↔
        router.Succeeds frame) ∧
      (router.Refused frame →
        (∀ e ∈ (router.dispatch frame).2, Event.isInvoke e = false) ∧
        ∀ value error, (tryDecodeResponse response value error).1 = .remoteError) := by
  rcases router.dispatch_cases frame hshort with
    ⟨hsucceeds, v, log, henc, hrun⟩ | ⟨hfails, text, log, htext, hrun, hrefused⟩
  · have hread : ∀ value error,
        (tryDecodeResponse (responseEncoding v) value error).1 = .ok := by
      intro value error
      rw [tryDecodeResponse_responseEncoding henc]
    refine ⟨responseEncoding v, by rw [hrun], fun value error => .inl (hread value error),
      fun value error => iff_of_true (hread value error) hsucceeds, fun h => ?_⟩
    exact absurd hsucceeds h.not_succeeds
  · have hread : ∀ value error,
        (tryDecodeResponse (errorEncoding text) value error).1 = .remoteError := by
      intro value error
      rw [tryDecodeResponse_errorEncoding htext]
    refine ⟨errorEncoding text, by rw [hrun], fun value error => .inr (hread value error),
      fun value error => iff_of_false (by rw [hread]; simp) hfails, fun h => ⟨?_, hread⟩⟩
    rw [hrun]
    exact hrefused h

/-- A call that throws, over a route without parameters. -/
theorem dispatch_answers_throw :
    ∃ response,
      ((singleton (B := rpcBackend) ⟨ascii "f", by decide⟩
        (.single ⟨[], none⟩ fun _ _ => .error (.stdException (ascii "boom")))).dispatch
          (requestHeader (symbolId ⟨ascii "f", by decide⟩) 0)).1 = .ok response ∧
      ∀ value error, (tryDecodeResponse response value error).1 = .ok ∨
        (tryDecodeResponse response value error).1 = .remoteError := by
  obtain ⟨response, hresponse, hstatus, -⟩ := dispatch_answers
    (singleton (B := rpcBackend) ⟨ascii "f", by decide⟩
      (.single ⟨[], none⟩ fun _ _ => .error (.stdException (ascii "boom"))))
    (requestHeader (symbolId ⟨ascii "f", by decide⟩) 0) (by
      intro route hroute sig natives e what hcall hwhat
      obtain rfl := List.mem_singleton.mp hroute
      obtain rfl := Except.error.inj hcall
      obtain rfl := Option.some.inj hwhat
      decide)
  exact ⟨response, hresponse, hstatus⟩

/-- Without exceptions the router answers every frame without reaching a raise, as long as a
selected callable returns normally with an encodable result. -/
theorem dispatchBody_never_raises (router : Router rpcBackend) (frame : List UInt8)
    (hreturns : ∀ route k sig natives request, router.Selects frame route k sig natives request →
      ∃ result, route.binder.callable sig natives = .ok result ∧
        (rpcBackend.toExportResult sig.result result).Encodable) :
    ∃ response, (router.dispatchBody frame).1 = .ok response ∧
      ∀ value error, (tryDecodeResponse response value error).1 ≠ .malformed := by
  rcases router.dispatchBody_cases frame with
    ⟨-, hbody⟩ | ⟨request, hdecode, ⟨-, text, log, htext, -, hbody⟩ |
      ⟨route, hmem, hid, k, sig, hfirst, log, -, ⟨natives, hdenote, hbody⟩ | ⟨hdenote, -⟩⟩⟩
  · rw [hbody, encodeError_eq (by decide)]
    refine ⟨_, rfl, fun value error => ?_⟩
    rw [tryDecodeResponse_errorEncoding (by decide)]
    simp
  · rw [hbody, encodeError_eq htext]
    refine ⟨_, rfl, fun value error => ?_⟩
    rw [tryDecodeResponse_errorEncoding htext]
    simp
  · obtain ⟨result, hcall, henc⟩ := hreturns route k sig natives request
      ⟨hdecode, hmem, hid, hfirst, hdenote⟩
    rw [hbody, hcall]
    refine ⟨_, encodeResponse_eq henc, fun value error => ?_⟩
    rw [tryDecodeResponse_responseEncoding henc]
    simp
  · obtain ⟨natives, hnatives⟩ := rpcBackend_denote hfirst.accepts
    rw [hnatives] at hdenote
    cases hdenote

lemma encodable_valueInitialised (result : Option ScalarType) :
    (rpcBackend.toExportResult result (valueInitialised result)).Encodable := by
  rcases result with _ | ty
  · decide
  · cases ty <;> decide

/-- A call that returns normally, over a route without parameters. -/
theorem dispatchBody_never_raises_return :
    ∃ response,
      ((singleton (B := rpcBackend) ⟨ascii "f", by decide⟩
        (.single ⟨[], none⟩ fun sig _ => .ok (valueInitialised sig.result))).dispatchBody
          (requestHeader (symbolId ⟨ascii "f", by decide⟩) 0)).1 = .ok response ∧
      ∀ value error, (tryDecodeResponse response value error).1 ≠ .malformed := by
  refine dispatchBody_never_raises _ _ fun route k sig natives request hselects => ?_
  obtain rfl := List.mem_singleton.mp hselects.defined
  exact ⟨valueInitialised sig.result, rfl, encodable_valueInitialised sig.result⟩

end Router

end Dynabridge.Rpc
