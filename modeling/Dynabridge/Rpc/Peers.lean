import Dynabridge.Export.ConvertAndTest
import Dynabridge.Foundations.Procedures
import Dynabridge.Rpc.Loopback
import Dynabridge.Rpc.RouteTable

/-!
# Programs that call each other

Several routers, each with its own exports, are served at the same time.  Threads run native code
that imports functions from them, exported functions included, to any depth; and anybody may send
any bytes.  All definitions have been made before, so that a dispatch only reads the routes.

`Services.remote` is what the bridge does: it encodes a request, dispatches it on the router of the
peer, runs the native callable in the middle of the dispatch, and decodes the response.
`Services.direct` calls the native callable and says what becomes of its result.
-/

namespace Dynabridge.Rpc

open Export Procedures

/-! ## What a frame asks for -/

/-- The binder with another callable. -/
def rebind (callable : rpcBackend.Callable) :
    Binder rpcBackend.toBackend → Binder rpcBackend.toBackend
  | .single sig _ => .single sig callable
  | .overloads contracts _ => .overloads contracts callable

lemma contracts_rebind (callable : rpcBackend.Callable) (binder : Binder rpcBackend.toBackend) :
    (rebind callable binder).contracts = binder.contracts := by
  cases binder <;> rfl

lemma callable_rebind (callable : rpcBackend.Callable) (binder : Binder rpcBackend.toBackend) :
    (rebind callable binder).callable = callable := by
  cases binder <;> rfl

/-- What the handlers of a dispatch make of an exception. -/
def message (e : Raised) : List UInt8 := e.what.getD (ascii "unknown RPC server failure")

/-- The response to a call, whatever comes of it. -/
def reply {result : Option ScalarType} :
    Except Raised (rpcBackend.Result result) → Except Raised (List UInt8)
  | .ok native =>
    if (rpcBackend.toExportResult result native).Encodable then
      .ok (responseEncoding (rpcBackend.toExportResult result native))
    else .ok (errorEncoding (ascii "RPC string is too large"))
  | .error e =>
    if (message e).length < 2 ^ 32 then .ok (errorEncoding (message e))
    else .error (.protocolError (ascii "RPC error message is too large"))

/-- What becomes of the result of a call on the way back. -/
def overTheWire {result : Option ScalarType} :
    Except Raised (rpcBackend.Result result) → Except Raised (rpcBackend.Result result)
  | .ok native =>
    if (rpcBackend.toExportResult result native).Encodable then .ok native
    else .error (.remoteError (ascii "RPC string is too large"))
  | .error e =>
    if (message e).length < 2 ^ 32 then .error (.remoteError (message e))
    else .error (.protocolError (ascii "RPC error message is too large"))

/-- The client decodes a response to what has become of the result. -/
lemma decode_reply {result : Option ScalarType}
    (outcome : Except Raised (rpcBackend.Result result)) :
    ((reply outcome).bind fun response => (decodeResponse response).bind (fromCast result)) =
      overTheWire outcome := by
  have herror : ∀ text : List UInt8, text.length < 2 ^ 32 →
      ((decodeResponse (errorEncoding text)).bind (fromCast result)) =
        .error (.remoteError text) := by
    intro text htext
    rw [decodeResponse_errorEncoding htext]
    rfl
  rcases outcome with e | native
  · rw [reply, overTheWire]
    split
    case isTrue hshort => exact herror _ hshort
    case isFalse => rfl
  · rw [reply, overTheWire]
    split
    case isTrue henc =>
      rw [Except.bind, decodeResponse_responseEncoding henc]
      exact fromCast_toExportResult result native
    case isFalse => exact herror (ascii "RPC string is too large") (by decide)

/-- A binder refuses the arguments without a call, or calls its callable at the overload that they
select. -/
lemma serve_select (binder : Binder rpcBackend.toBackend) (args : List Value) :
    (rpcBackend.select consumingVectorAccessor args 0 binder.contracts = none ∧
      ∃ log, serve binder args =
          (encodeError (ascii "RPC argument conversion or arity mismatch"), log) ∧
        invocations rpcBackend.toBackend log = []) ∨
    ∃ call, rpcBackend.select consumingVectorAccessor args 0 binder.contracts = some call ∧
      ∃ log, serve binder args =
          ((binder.callable call.sig call.arguments).bind fun native =>
            encodeResponse (rpcBackend.toExportResult call.sig.result native), log) ∧
        invocations rpcBackend.toBackend log = [call] := by
  rcases Binder.dispatchOptional_cases rpcBackend binder args with
    ⟨hnone, probes, hprobes, hrun⟩ | ⟨k, sig, hfirst, probes, left, hprobes, hrun⟩
  · refine .inl ⟨rpcBackend_lawful.select_eq_none _ hnone 0, probes, ?_, ?_⟩
    · rw [serve, hrun]
    · exact invocations_eq_nil fun e he => (hprobes e he).isInvoke_eq
  · obtain ⟨natives, hdenote⟩ := rpcBackend_denote hfirst.accepts
    refine .inr ⟨⟨k, sig, natives⟩, ?_, ?_⟩
    · rw [rpcBackend_lawful.select_of_firstViable _ hfirst 0 (hdenote _), Nat.zero_add]
    · refine ⟨probes ++ conversions _ k args ++ [.invoke k sig natives], ?_, ?_⟩
      · rw [serve, hrun, hdenote]
        simp only [Backend.commit]
        cases binder.callable sig natives <;> rfl
      · have hprobe : invocations rpcBackend.toBackend probes = [] :=
          invocations_eq_nil fun e he => (hprobes e he).isInvoke_eq
        rw [invocations_append, invocations_append, hprobe, invocations_conversions]
        rfl

namespace Router

variable (router : Router rpcBackend)

/-- The route that is looked up in a dispatch. -/
def requested (frame : List UInt8) : Option (Route rpcBackend) :=
  match tryDecodeRequest frame ⟨0, []⟩ with
  | (false, _) => none
  | (true, request) => router.find request.method

/-- What a frame asks for: a call, given by the name of a route, a signature and arguments, or an
answer that refuses it. -/
def meaning (frame : List UInt8) :
    Except (List UInt8) (CString × Invocation rpcBackend.Native) :=
  match tryDecodeRequest frame ⟨0, []⟩ with
  | (false, _) => .error (ascii "invalid RPC request frame")
  | (true, request) =>
    match router.find request.method with
    | none => .error (ascii "unknown RPC method")
    | some route =>
      match rpcBackend.select consumingVectorAccessor request.args 0 route.binder.contracts with
      | none => .error (ascii "RPC argument conversion or arity mismatch")
      | some call => .ok (route.name, call)

/-- The router with other callables. -/
def rebind (callable : rpcBackend.Callable) : Router rpcBackend where
  routes := router.routes.map fun r => { r with binder := Rpc.rebind callable r.binder }
  sorted := by
    rw [SortedTable.Sorted, List.pairwise_map]
    exact router.sorted
  hashed := by
    intro r hr
    obtain ⟨r', hr', rfl⟩ := List.mem_map.mp hr
    exact router.hashed r' hr'

lemma find_rebind (callable : rpcBackend.Callable) (id : UInt64) :
    (router.rebind callable).find id =
      (router.find id).map fun r => { r with binder := Rpc.rebind callable r.binder } := by
  cases hfind : router.find id with
  | none =>
    rw [Option.map_none, find_eq_none_iff]
    intro r hr
    obtain ⟨r', hr', rfl⟩ := List.mem_map.mp hr
    exact find_eq_none_iff.mp hfind r' hr'
  | some r =>
    obtain ⟨hmem, hid⟩ := find_eq_some_iff.mp hfind
    rw [Option.map_some, find_eq_some_iff]
    exact ⟨List.mem_map.mpr ⟨r, hmem, rfl⟩, hid⟩

lemma requested_rebind (callable : rpcBackend.Callable) (frame : List UInt8) :
    (router.rebind callable).requested frame =
      (router.requested frame).map fun r =>
        { r with binder := Rpc.rebind callable r.binder } := by
  unfold requested
  rcases tryDecodeRequest frame ⟨0, []⟩ with ⟨_ | _, request⟩
  · rfl
  · exact router.find_rebind callable request.method

/-- What a frame asks for does not depend on the callables. -/
lemma meaning_rebind (callable : rpcBackend.Callable) (frame : List UInt8) :
    (router.rebind callable).meaning frame = router.meaning frame := by
  unfold meaning
  rcases tryDecodeRequest frame ⟨0, []⟩ with ⟨_ | _, request⟩
  · rfl
  · simp only [find_rebind]
    cases router.find request.method with
    | none => rfl
    | some route => simp only [Option.map_some, contracts_rebind]

/-- The handlers of a dispatch answer with the message of an exception. -/
lemma dispatch_of_error {frame : List UInt8} {e : Raised} {log : List (Event rpcBackend.toBackend)}
    (hbody : router.dispatchBody frame = (.error e, log)) :
    (router.dispatch frame).1 = encodeError (message e) := by
  rw [dispatch, hbody, message]
  cases hwhat : e.what <;> simp only [hwhat, Option.getD]

/-- A dispatch that makes a call responds to it. -/
lemma dispatch_of_call {frame : List UInt8} {result : Option ScalarType}
    {outcome : Except Raised (rpcBackend.Result result)}
    {log : List (Event rpcBackend.toBackend)}
    (hbody : router.dispatchBody frame =
      (outcome.bind fun native => encodeResponse (rpcBackend.toExportResult result native), log)) :
    (router.dispatch frame).1 = reply outcome := by
  rcases outcome with e | native
  · rw [router.dispatch_of_error hbody, reply]
    split
    case isTrue hshort => exact encodeError_eq hshort
    case isFalse hlong => exact encodeError_raises (Nat.le_of_not_lt hlong)
  · rw [reply]
    split
    case isTrue henc =>
      rw [Except.bind, encodeResponse_eq henc] at hbody
      rw [dispatch, hbody]
    case isFalse henc =>
      rw [Except.bind, encodeResponse_raises henc] at hbody
      rw [router.dispatch_of_error hbody]
      have hshort : (ascii "RPC string is too large").length < 2 ^ 32 := by decide
      exact encodeError_eq hshort

/-- A dispatch refuses a frame without a call, or makes the call that the frame asks for and
responds to it. -/
lemma dispatch_meaning (frame : List UInt8) :
    (∃ text, router.meaning frame = .error text ∧
      (router.dispatch frame).1 = .ok (errorEncoding text) ∧
      invocations rpcBackend.toBackend (router.dispatch frame).2 = []) ∨
    ∃ route call, router.requested frame = some route ∧
      router.meaning frame = .ok (route.name, call) ∧
      (router.dispatch frame).1 = reply (route.binder.callable call.sig call.arguments) ∧
      invocations rpcBackend.toBackend (router.dispatch frame).2 = [call] := by
  rw [router.dispatch_log]
  rcases hdecode : tryDecodeRequest frame ⟨0, []⟩ with ⟨accepted, request⟩
  cases accepted with
  | false =>
    refine .inl ⟨ascii "invalid RPC request frame", ?_, ?_, ?_⟩
    · rw [meaning, hdecode]
    · rw [dispatch, dispatchBody, hdecode, encodeError_eq (by decide)]
    · rw [dispatchBody, hdecode]
      rfl
  | true =>
    cases hfind : router.find request.method with
    | none =>
      refine .inl ⟨ascii "unknown RPC method", ?_, ?_, ?_⟩
      · rw [meaning, hdecode]
        simp only [hfind]
      · rw [dispatch, dispatchBody_of_unknown hdecode (find_eq_none_iff.mp hfind),
          encodeError_eq (by decide)]
      · rw [dispatchBody_of_unknown hdecode (find_eq_none_iff.mp hfind)]
        rfl
    | some route =>
      obtain ⟨hmem, hid⟩ := find_eq_some_iff.mp hfind
      have hbody := dispatchBody_of_mem hdecode hmem hid
      rcases serve_select route.binder request.args with
        ⟨hselect, log, hserve, hcalls⟩ | ⟨call, hselect, log, hserve, hcalls⟩
      · rw [hserve] at hbody
        refine .inl ⟨ascii "RPC argument conversion or arity mismatch", ?_, ?_, ?_⟩
        · rw [meaning, hdecode]
          simp only [hfind, hselect]
        · rw [dispatch, hbody, encodeError_eq (by decide)]
        · rw [hbody, hcalls]
      · rw [hserve] at hbody
        refine .inr ⟨route, call, ?_, ?_, router.dispatch_of_call hbody, ?_⟩
        · rw [requested, hdecode]
          exact hfind
        · rw [meaning, hdecode]
          simp only [hfind, hselect]
        · rw [hbody, hcalls]

end Router

/-! ## Programs -/

/-- The routers of programs that use each other, after all definitions.  What their callables do
is kept apart. -/
structure Services (Peer : Type) where
  router : Peer → Router rpcBackend
  distinct : ∀ peer, ∀ route ∈ (router peer).routes, DistinctOverloads route.binder.contracts

/-- A function that is imported from a peer: one of the overloads of a route. -/
structure Import {Peer : Type} (x : Services Peer) where
  peer : Peer
  route : Route rpcBackend
  defined : route ∈ (x.router peer).routes
  sig : Signature ScalarType
  declared : .free sig ∈ route.binder.contracts
  /-- the `static_assert` of `encode_request_values` -/
  counted : sig.params.length ≤ uint32Max

/-- What native code can ask the bridge for. -/
inductive Demand {Peer : Type} (x : Services Peer)
  /-- the call of an imported function -/
  | call (callee : Import x) (actuals : Tuple Actual callee.sig.types)
  /-- `round_trip` on some bytes -/
  | send (peer : Peer) (frame : List UInt8)

/-- What native code gets. -/
def Demand.Reply {Peer : Type} {x : Services Peer} : Demand x → Type
  | .call callee _ => Except Raised (rpcBackend.Result callee.sig.result)
  | .send _ _ => Except Raised (List UInt8)

namespace Services

variable {Peer σ : Type} (x : Services Peer)

/-- The callables of the routers: the code of each overload of each name. -/
abbrev Callables (σ : Type) :=
  Peer → CString → (sig : Signature ScalarType) → rpcBackend.Arguments sig.types →
    Code (Demand x) Demand.Reply σ (Except Raised (rpcBackend.Result sig.result))

variable {x} (native : x.Callables σ)

/-- A callable that ends in a given way where it is called. -/
def ending (sig : Signature ScalarType) (outcome : Except Raised (rpcBackend.Result sig.result)) :
    rpcBackend.Callable :=
  fun sig' _ => if h : sig = sig' then h ▸ outcome else .error .unknown

lemma ending_self (sig : Signature ScalarType)
    (outcome : Except Raised (rpcBackend.Result sig.result))
    (natives : rpcBackend.Arguments sig.types) : ending sig outcome sig natives = outcome :=
  dif_pos rfl

/-! ### Through the bridge -/

/-- `loopback_transport::round_trip`.  The dispatch is interrupted at the call that it makes, and
goes on with what comes of it. -/
def roundTrip (peer : Peer) (frame : List UInt8) :
    Code (Demand x) Demand.Reply σ (Except Raised (List UInt8)) :=
  let router := x.router peer
  match router.requested frame, invocations rpcBackend.toBackend (router.dispatch frame).2 with
  | some route, call :: _ =>
    .pause ((native peer route.name call.sig call.arguments).bind fun outcome =>
      .pause (.done ((router.rebind (ending call.sig outcome)).dispatch frame).1))
  | _, _ => .done (router.dispatch frame).1

/-- `rpc_backend::invoke_impl` -/
def invokeImpl (callee : Import x) (actuals : Tuple Actual callee.sig.types) :
    Code (Demand x) Demand.Reply σ (Except Raised (rpcBackend.Result callee.sig.result)) :=
  match encodeRequestValues (symbolId callee.route.name) (lowerArguments actuals) with
  | .error e => .done (.error e)
  | .ok request =>
    .pause ((roundTrip native callee.peer request).bind fun answer =>
      .pause (.done (answer.bind fun response =>
        (decodeResponse response).bind (fromCast callee.sig.result))))

/-- What the bridge does. -/
def remote : Bodies (Demand x) Demand.Reply σ
  | .call callee actuals => invokeImpl native callee actuals
  | .send peer frame => roundTrip native peer frame

/-! ### Without it -/

/-- What the bridge is for: the callable is called, and its result comes back.  A call that cannot
be encoded is not made, and bytes are answered by what they ask for. -/
def direct : Bodies (Demand x) Demand.Reply σ
  | .call callee actuals =>
    match encodeRequestValues (symbolId callee.route.name) (lowerArguments actuals) with
    | .error e => .done (.error e)
    | .ok _ =>
      (native callee.peer callee.route.name callee.sig (nativeArguments actuals)).bind
        fun outcome => .done (overTheWire outcome)
  | .send peer frame =>
    match (x.router peer).meaning frame with
    | .error text => .done (.ok (errorEncoding text))
    | .ok (name, call) =>
      (native peer name call.sig call.arguments).bind fun outcome => .done (reply outcome)

/-! ### They agree -/

/-- A dispatch goes on with what comes of its call. -/
lemma dispatch_ending {peer : Peer} {frame : List UInt8} {name : CString}
    {call : Invocation rpcBackend.Native}
    (hmeaning : (x.router peer).meaning frame = .ok (name, call))
    (outcome : Except Raised (rpcBackend.Result call.sig.result)) :
    (((x.router peer).rebind (ending call.sig outcome)).dispatch frame).1 = reply outcome := by
  rcases ((x.router peer).rebind (ending call.sig outcome)).dispatch_meaning frame with
    ⟨text, hrefused, -⟩ | ⟨route, call', hroute, hcall, hanswer, -⟩
  · rw [Router.meaning_rebind, hmeaning] at hrefused
    cases hrefused
  · rw [Router.meaning_rebind, hmeaning] at hcall
    obtain ⟨-, rfl⟩ := Prod.mk.inj (Except.ok.inj hcall)
    rw [Router.requested_rebind] at hroute
    obtain ⟨route', -, rfl⟩ := Option.map_eq_some_iff.mp hroute
    rw [hanswer, callable_rebind, ending_self]

/-- A dispatch does what the frame asks for. -/
lemma roundTrip_delays (peer : Peer) (frame : List UInt8) :
    (roundTrip native peer frame).Delays (direct native (.send peer frame)) := by
  rcases (x.router peer).dispatch_meaning frame with
    ⟨text, hmeaning, hanswer, hcalls⟩ | ⟨route, call, hroute, hmeaning, -, hcalls⟩
  · have hremote : roundTrip native peer frame = .done (.ok (errorEncoding text)) := by
      rw [roundTrip, hcalls, ← hanswer]
      cases (x.router peer).requested frame <;> rfl
    have hdirect : direct native (.send peer frame) = .done (.ok (errorEncoding text)) := by
      simp only [direct, hmeaning]
    rw [hremote, hdirect]
    exact .done _
  · have hremote : roundTrip native peer frame =
        .pause ((native peer route.name call.sig call.arguments).bind fun outcome =>
          .pause (.done (reply outcome))) := by
      simp only [roundTrip, hroute, hcalls, dispatch_ending hmeaning]
    have hdirect : direct native (.send peer frame) =
        (native peer route.name call.sig call.arguments).bind fun outcome =>
          .done (reply outcome) := by
      simp only [direct, hmeaning]
      rfl
    rw [hremote, hdirect]
    apply Code.Delays.more
    apply (Code.Delays.refl _).bind
    intro outcome
    exact .more (.done _)

/-- The request of a call asks for the overload it was made for, with the values of the client. -/
lemma meaning_of_encodeRequestValues (callee : Import x)
    (actuals : Tuple Actual callee.sig.types) {request : List UInt8}
    (hrequest : encodeRequestValues (symbolId callee.route.name) (lowerArguments actuals) =
      .ok request) :
    ∃ k, (x.router callee.peer).meaning request =
      .ok (callee.route.name, ⟨k, callee.sig, nativeArguments actuals⟩) := by
  have hid := (x.router callee.peer).hashed callee.route callee.defined
  have hlen : (lowerArguments actuals).length ≤ uint32Max := by
    rw [length_lowerArguments, callee.sig.length_types]
    exact callee.counted
  rw [← hid, encodeRequestValues_eq_encodeRequest _ hlen] at hrequest
  have henc : (⟨callee.route.id, lowerArguments actuals⟩ : Request).Encodable := by
    by_contra hnot
    obtain ⟨what, hraise⟩ := encodeRequest_raises hnot
    rw [hraise] at hrequest
    cases hrequest
  obtain rfl := Except.ok.inj ((encodeRequest_eq henc).symm.trans hrequest)
  obtain ⟨k, hk⟩ := List.getElem?_of_mem callee.declared
  have hselects := selects_of_lowerArguments callee.defined
    (x.distinct callee.peer callee.route callee.defined) hk henc
  have hfind := Router.find_eq_some_iff.mpr ⟨callee.defined, hselects.method⟩
  refine ⟨k, ?_⟩
  rw [Router.meaning, hselects.decoded]
  simp only [hfind]
  rw [rpcBackend_lawful.select_of_firstViable _ hselects.first 0 hselects.denoted, Nat.zero_add]

/-- The bridge makes the call, with more pauses. -/
lemma invokeImpl_delays (callee : Import x) (actuals : Tuple Actual callee.sig.types) :
    (invokeImpl native callee actuals).Delays (direct native (.call callee actuals)) := by
  cases hrequest : encodeRequestValues (symbolId callee.route.name) (lowerArguments actuals) with
  | error e =>
    simp only [invokeImpl, direct, hrequest]
    exact .done _
  | ok request =>
    obtain ⟨k, hmeaning⟩ := meaning_of_encodeRequestValues callee actuals hrequest
    have hserved : (roundTrip native callee.peer request).Delays
        ((native callee.peer callee.route.name callee.sig (nativeArguments actuals)).bind
          fun outcome => .done (reply outcome)) := by
      have hsend := roundTrip_delays native callee.peer request
      simp only [direct, hmeaning] at hsend
      exact hsend
    have hdirect : direct native (.call callee actuals) =
        ((native callee.peer callee.route.name callee.sig (nativeArguments actuals)).bind
          fun outcome => .done (reply outcome)).bind fun answer =>
            .done (answer.bind fun response =>
              (decodeResponse response).bind (fromCast callee.sig.result)) := by
      simp only [direct, hrequest, Code.bind_bind]
      apply congrArg (Code.bind _)
      funext outcome
      exact congrArg Code.done (decode_reply outcome).symm
    simp only [invokeImpl, hrequest]
    rw [hdirect]
    apply Code.Delays.more
    apply hserved.bind
    intro answer
    exact .more (.done _)

/-- The bridge does what it is for, with more pauses. -/
lemma remote_delays (demand : Demand x) :
    (remote native demand).Delays (direct native demand) := by
  cases demand with
  | call callee actuals => exact invokeImpl_delays native callee actuals
  | send peer frame => exact roundTrip_delays native peer frame

end Services

end Dynabridge.Rpc
