import Dynabridge.ErrorPolicy

/-!
# Overload dispatch of exported callables

`export_overload_dispatch` tries the declared signatures in order.  On a backend that opts
into the RPC probe policy a candidate is first probed as a whole, without consuming anything,
and its arguments are converted only once every probe has accepted; on any other backend the
candidate is converted and the results are tested.

The dispatcher is modelled over an arbitrary `Backend`: the scalar types that have a
converter, their native values, and the converter functions.  A `Trace` carries the argument
vector, which conversions may consume from, and records every probe, conversion and
invocation.  C++ leaves the order of the conversions inside `std::make_tuple` open; each of
them only touches its own argument, so the model runs them from left to right.
-/

namespace Dynabridge.Export

/-! ## Signatures -/

/-- How a parameter of type `T` is declared. -/
inductive ParamForm
  /-- `T` -/
  | value
  /-- `const T&` -/
  | constRef
  /-- `T&&` -/
  | rvalueRef
  deriving DecidableEq, Repr

/-- A declared parameter; its `type` is what `std::decay` leaves of it. -/
structure Param (Ty : Type) where
  form : ParamForm
  type : Ty
  deriving DecidableEq, Repr

/-- A declared signature `R(Args...)`, with `none` for a `void` result. -/
structure Signature (Ty : Type) where
  params : List (Param Ty)
  result : Option Ty
  deriving DecidableEq, Repr

/-- The decayed parameter types. -/
def Signature.types {Ty : Type} (sig : Signature Ty) : List Ty := sig.params.map Param.type

@[simp] lemma Signature.length_types {Ty : Type} (sig : Signature Ty) :
    sig.types.length = sig.params.length := List.length_map _

/-- An entry of a contract list: a `free_callable`, or the placeholder
`free_callable<unmatched_callable_t(unmatched_callable_t)>`. -/
inductive Contract (Ty : Type)
  | unmatched
  | free (sig : Signature Ty)
  deriving DecidableEq, Repr

/-! ## Backends -/

/-- What overload dispatch uses of a backend with dynamic values in `Dynamic`. -/
structure Backend (Dynamic : Type) where
  /-- The scalar types with a `converter` specialisation. -/
  Ty : Type
  /-- The native values of a type. -/
  Native : Ty → Type
  /-- `converter<T>::probe` -/
  probe : Ty → Dynamic → Bool
  /-- `converter<T>::from` on a `const` dynamic value -/
  fromConst : (ty : Ty) → Dynamic → Option (Native ty)
  /-- `converter<T>::from` on a mutable dynamic value, with the value it leaves behind -/
  fromMutable : (ty : Ty) → Dynamic → Option (Native ty) × Dynamic
  /-- `converter<T>::to` on an rvalue -/
  toRvalue : (ty : Ty) → Native ty → Dynamic
  /-- `undefined` -/
  undefined : Dynamic
  /-- `uses_rpc_export_probe` -/
  usesRpcExportProbe : Bool

/-- A backend that opts into the RPC probe policy. -/
structure ProbingBackend (Dynamic : Type) extends Backend Dynamic where
  opted : usesRpcExportProbe = true

/-- How an accessor hands out the arguments. -/
structure Accessor where
  /-- Whether `get` yields a mutable reference. -/
  consuming : Bool
  /-- `static_arity`, with `none` for `dynamic_arity` -/
  staticArity : Option ℕ
  deriving DecidableEq, Repr

/-- `detail::consuming_vector_accessor` -/
def consumingVectorAccessor : Accessor := ⟨true, none⟩

/-- Whether an accessor can hand out as many arguments as a contract has. -/
def Accessor.canAccess (accessor : Accessor) (arity : ℕ) : Bool :=
  match accessor.staticArity with
  | none => true
  | some size => size ≥ arity

/-- A `std::tuple` with one component for each type of a list. -/
inductive Tuple {Ty : Type} (F : Ty → Type) : List Ty → Type
  | nil : Tuple F []
  | cons {ty : Ty} {tys : List Ty} (head : F ty) (tail : Tuple F tys) : Tuple F (ty :: tys)

namespace Backend

variable {Dynamic : Type}

/-- Native values for a list of types. -/
abbrev Arguments (B : Backend Dynamic) (tys : List B.Ty) : Type := Tuple B.Native tys

/-- The tuple of optionals that the conversions of a candidate fill. -/
abbrev Converted (B : Backend Dynamic) (tys : List B.Ty) : Type :=
  Tuple (fun ty => Option (B.Native ty)) tys

/-- What a callable of a given result type returns. -/
def Result (B : Backend Dynamic) : Option B.Ty → Type
  | none => Unit
  | some ty => B.Native ty

/-- The exported C++ callable: what it does when it is called through a signature. -/
abbrev Callable (B : Backend Dynamic) : Type :=
  (sig : Signature B.Ty) → B.Arguments sig.types → Except Raised (B.Result sig.result)

/-- `to_export_result`, and `undefined` for a `void` result. -/
def toExportResult (B : Backend Dynamic) : (result : Option B.Ty) → B.Result result → Dynamic
  | none, _ => B.undefined
  | some ty, native => B.toRvalue ty native

end Backend

/-! ## The dispatcher -/

section Dispatch

variable {Dynamic : Type} (B : Backend Dynamic)

/-- What a dispatch does, with the position of the candidate in the contract list and, for
arguments, the value that was there. -/
inductive Event
  | probe (candidate index : ℕ) (seen : Dynamic)
  | convert (candidate index : ℕ) (seen : Dynamic)
  | invoke (candidate : ℕ) (sig : Signature B.Ty) (arguments : B.Arguments sig.types)
  /-- the raise of `accepted_export_arguments` -/
  | rejectedAcceptedProbe (candidate : ℕ)

/-- Whether an event is a call of the native callable. -/
def Event.isInvoke {B : Backend Dynamic} : Event B → Bool
  | .invoke _ _ _ => true
  | _ => false

/-- The argument vector and the events so far. -/
structure Trace where
  args : List Dynamic
  log : List (Event B)

/-- Record an event. -/
def Trace.record {B : Backend Dynamic} (t : Trace B) (e : Event B) : Trace B :=
  { t with log := t.log ++ [e] }

/-- `accessor.get<I>()`.  It is only called within the arity, where the default is not used. -/
def Trace.get {B : Backend Dynamic} (t : Trace B) (index : ℕ) : Dynamic :=
  t.args.getD index B.undefined

/-- `probe_export_arguments`, from the given index on and with the result so far. -/
def probeExportArguments (candidate : ℕ) :
    (tys : List B.Ty) → (index : ℕ) → (accepted : Bool) → Trace B → Bool × Trace B
  | [], _, accepted, t => (accepted, t)
  | ty :: tys, index, accepted, t =>
    if accepted then
      probeExportArguments candidate tys (index + 1) (B.probe ty (t.get index))
        (t.record (.probe candidate index (t.get index)))
    else probeExportArguments candidate tys (index + 1) false t

/-- `converter<T>::from` on what an accessor hands out. -/
def fromOptional (accessor : Accessor) (ty : B.Ty) (value : Dynamic) :
    Option (B.Native ty) × Dynamic :=
  if accessor.consuming then B.fromMutable ty value else (B.fromConst ty value, value)

/-- The conversions of a candidate, from the given index on. -/
def convertExportArguments (accessor : Accessor) (candidate : ℕ) :
    (tys : List B.Ty) → (index : ℕ) → Trace B → B.Converted tys × Trace B
  | [], _, t => (.nil, t)
  | ty :: tys, index, t =>
    let native := fromOptional B accessor ty (t.get index)
    let t := { t.record (.convert candidate index (t.get index)) with
      args := t.args.set index native.2 }
    let natives := convertExportArguments accessor candidate tys (index + 1) t
    (.cons native.1 natives.1, natives.2)

/-- `all_optionals`, with the values that `export_argument::get` then takes out. -/
def allOptionals {tys : List B.Ty} : B.Converted tys → Option (B.Arguments tys)
  | .nil => some .nil
  | .cons native natives => do return .cons (← native) (← allOptionals natives)

/-- `accepted_export_arguments` -/
def acceptedExportArguments {tys : List B.Ty} (converted : B.Converted tys) :
    Except Raised (Option (B.Arguments tys)) :=
  match allOptionals B converted with
  | some arguments => .ok (some arguments)
  | none =>
    if B.usesRpcExportProbe then
      .error (.badConversion (ascii "dynabridge export argument rejected an accepted probe"))
    else .ok none

/-- `export_overload_candidate::call_optional` -/
def exportOverloadCandidate (callable : B.Callable) (accessor : Accessor) (candidate : ℕ)
    (sig : Signature B.Ty) (t : Trace B) : Except Raised (Option Dynamic) × Trace B :=
  let probed :=
    if B.usesRpcExportProbe then probeExportArguments B candidate sig.types 0 true t
    else (true, t)
  if !probed.1 then (.ok none, probed.2)
  else
    let converted := convertExportArguments B accessor candidate sig.types 0 probed.2
    match acceptedExportArguments B converted.1 with
    | .error e => (.error e, converted.2.record (.rejectedAcceptedProbe candidate))
    | .ok none => (.ok none, converted.2)
    | .ok (some arguments) =>
      let t := converted.2.record (.invoke candidate sig arguments)
      match callable sig arguments with
      | .error e => (.error e, t)
      | .ok result => (.ok (some (B.toExportResult sig.result result)), t)

/-- `export_overload_dispatch::call_optional`, with the number of candidates tried so far. -/
def exportOverloadDispatch (callable : B.Callable) (argc : ℕ) (accessor : Accessor) :
    (candidate : ℕ) → List (Contract B.Ty) → Trace B → Except Raised (Option Dynamic) × Trace B
  | _, [], t => (.ok none, t)
  | candidate, .unmatched :: tail, t =>
    exportOverloadDispatch callable argc accessor (candidate + 1) tail t
  | candidate, .free sig :: tail, t =>
    if accessor.canAccess sig.params.length && argc == sig.params.length then
      match exportOverloadCandidate B callable accessor candidate sig t with
      | (.error e, t) => (.error e, t)
      | (.ok (some result), t) => (.ok (some result), t)
      | (.ok none, t) => exportOverloadDispatch callable argc accessor (candidate + 1) tail t
    else exportOverloadDispatch callable argc accessor (candidate + 1) tail t

/-- The library's export binders: `export_callable_binder` and `export_overload_binder`. -/
inductive Binder
  | single (sig : Signature B.Ty) (callable : B.Callable)
  | overloads (contracts : List (Contract B.Ty)) (callable : B.Callable)

/-- The contract list a binder dispatches over. -/
def Binder.contracts {B : Backend Dynamic} : Binder B → List (Contract B.Ty)
  | single sig _ => [.free sig]
  | overloads contracts _ => contracts

/-- The callable of a binder. -/
def Binder.callable {B : Backend Dynamic} : Binder B → B.Callable
  | single _ callable => callable
  | overloads _ callable => callable

/-- `dispatch_optional` of either binder, on an argument vector. -/
def Binder.dispatchOptional {B : Backend Dynamic} (binder : Binder B) (argc : ℕ)
    (accessor : Accessor) (args : List Dynamic) : Except Raised (Option Dynamic) × Trace B :=
  exportOverloadDispatch B binder.callable argc accessor 0 binder.contracts ⟨args, []⟩

end Dispatch

/-! ## What a candidate does -/

section Candidate

variable {Dynamic : Type} (B : Backend Dynamic)

/-- Whether a parameter list has the length of an argument list and each of its probes
accepts. -/
def Backend.probesAccept : List B.Ty → List Dynamic → Bool
  | [], [] => true
  | ty :: tys, arg :: args => B.probe ty arg && probesAccept tys args
  | _, _ => false

/-- The native values an argument list denotes at a parameter list: what the conversions of
an accessor yield on it. -/
def Backend.denote (accessor : Accessor) :
    (tys : List B.Ty) → List Dynamic → Option (B.Arguments tys)
  | [], [] => some .nil
  | ty :: tys, arg :: args => do
    return .cons (← (fromOptional B accessor ty arg).1) (← denote accessor tys args)
  | _, _ => none

/-- A candidate is viable when it has the arity of the arguments and every probe accepts. -/
def Backend.viable (args : List Dynamic) : Contract B.Ty → Bool
  | .unmatched => false
  | .free sig => B.probesAccept sig.types args

/-- The first viable candidate of a contract list, and its position. -/
structure Backend.FirstViable (contracts : List (Contract B.Ty)) (args : List Dynamic) (k : ℕ)
    (sig : Signature B.Ty) : Prop where
  declared : contracts[k]? = some (.free sig)
  accepts : B.probesAccept sig.types args = true
  earlier : ∀ j < k, ∀ contract, contracts[j]? = some contract → B.viable args contract = false

/-- There is only one first viable candidate. -/
lemma Backend.FirstViable.unique {B : Backend Dynamic} {contracts : List (Contract B.Ty)}
    {args : List Dynamic} {k k' : ℕ} {sig sig' : Signature B.Ty}
    (h : B.FirstViable contracts args k sig) (h' : B.FirstViable contracts args k' sig') :
    k = k' ∧ sig = sig' := by
  have hk : k = k' := by
    rcases Nat.lt_trichotomy k k' with hlt | heq | hlt
    · have hreject : B.probesAccept sig.types args = false := h'.earlier k hlt _ h.declared
      rw [h.accepts] at hreject
      cases hreject
    · exact heq
    · have hreject : B.probesAccept sig'.types args = false := h.earlier k' hlt _ h'.declared
      rw [h'.accepts] at hreject
      cases hreject
  subst hk
  refine ⟨rfl, ?_⟩
  have hdeclared := h.declared.symm.trans h'.declared
  simpa using hdeclared

/-- The event is a probe of one of the first candidates, on an original argument. -/
def Event.ProbesOriginal {B : Backend Dynamic} (args : List Dynamic) (bound : ℕ)
    (e : Event B) : Prop :=
  ∃ j < bound, ∃ index seen, args[index]? = some seen ∧ e = .probe j index seen

/-- The conversions of a candidate: each argument once. -/
def conversions (candidate : ℕ) (args : List Dynamic) : List (Event B) :=
  args.mapIdx fun index seen => .convert candidate index seen

/-- How a candidate that was accepted ends, and its last event. -/
def Backend.commit (callable : B.Callable) (candidate : ℕ) (sig : Signature B.Ty) :
    Option (B.Arguments sig.types) → Except Raised (Option Dynamic) × Event B
  | some natives =>
    ((callable sig natives).map fun result => some (B.toExportResult sig.result result),
      .invoke candidate sig natives)
  | none =>
    (.error (.badConversion (ascii "dynabridge export argument rejected an accepted probe")),
      .rejectedAcceptedProbe candidate)

variable {B}

/-- A contract list without a viable candidate has no first one. -/
lemma Backend.FirstViable.not_none_viable {contracts : List (Contract B.Ty)}
    {args : List Dynamic} {k : ℕ} {sig : Signature B.Ty}
    (h : B.FirstViable contracts args k sig) :
    ¬ ∀ contract ∈ contracts, B.viable args contract = false := by
  intro hnone
  have hreject : B.probesAccept sig.types args = false :=
    hnone _ (List.mem_of_getElem? h.declared)
  rw [h.accepts] at hreject
  cases hreject

/-- Probes do not call anything. -/
lemma Event.ProbesOriginal.isInvoke_eq {args : List Dynamic} {bound : ℕ} {e : Event B}
    (h : e.ProbesOriginal args bound) : e.isInvoke = false := by
  obtain ⟨_, _, _, _, _, rfl⟩ := h
  rfl

/-- Conversions do not call anything. -/
lemma isInvoke_of_mem_conversions {candidate : ℕ} {args : List Dynamic} {e : Event B}
    (h : e ∈ conversions B candidate args) : e.isInvoke = false := by
  obtain ⟨_, _, rfl⟩ := List.mem_mapIdx.mp h
  rfl

/-- Parameters and arguments that are accepted are equally many. -/
lemma Backend.length_of_probesAccept {tys : List B.Ty} {args : List Dynamic}
    (h : B.probesAccept tys args = true) : tys.length = args.length := by
  induction tys generalizing args with
  | nil =>
    cases args with
    | nil => rfl
    | cons arg args => cases h
  | cons ty tys ih =>
    cases args with
    | nil => cases h
    | cons arg args =>
      rw [probesAccept, Bool.and_eq_true] at h
      rw [List.length_cons, List.length_cons, ih h.2]

/-- The argument at the front of what is left to read. -/
lemma Trace.get_of_drop {t : Trace B} {index : ℕ} {arg : Dynamic} {rest : List Dynamic}
    (h : t.args.drop index = arg :: rest) :
    t.get index = arg ∧ t.args[index]? = some arg ∧ t.args.drop (index + 1) = rest := by
  have hget : t.args[index]? = some arg := by
    rw [← List.head?_drop, h]
    rfl
  refine ⟨?_, hget, ?_⟩
  · rw [Trace.get, List.getD_eq_getElem?_getD, hget]
    rfl
  · rw [← List.drop_drop, h]
    rfl

/-- After a rejection the remaining parameters are not probed. -/
lemma probeExportArguments_rejected (candidate : ℕ) (tys : List B.Ty) (index : ℕ)
    (t : Trace B) : probeExportArguments B candidate tys index false t = (false, t) := by
  induction tys generalizing index with
  | nil => rfl
  | cons ty tys ih => exact ih (index + 1)

/-- Probing answers whether every probe accepts; it only adds probe events. -/
lemma probeExportArguments_spec (candidate : ℕ) {tys : List B.Ty} {index : ℕ} {t : Trace B}
    {rest : List Dynamic} (hrest : t.args.drop index = rest) (hlen : tys.length = rest.length) :
    ∃ probes, (∀ e ∈ probes, Event.ProbesOriginal t.args (candidate + 1) e) ∧
      probeExportArguments B candidate tys index true t =
        (B.probesAccept tys rest, ⟨t.args, t.log ++ probes⟩) := by
  induction tys generalizing index t rest with
  | nil =>
    obtain rfl := List.length_eq_zero_iff.mp hlen.symm
    exact ⟨[], by simp, by rw [List.append_nil]; rfl⟩
  | cons ty tys ih =>
    obtain ⟨arg, args, rfl⟩ := List.exists_cons_of_length_eq_add_one hlen.symm
    obtain ⟨hget, hseen, hdrop⟩ := Trace.get_of_drop hrest
    have hfirst : Event.ProbesOriginal t.args (candidate + 1)
        (.probe (B := B) candidate index arg) :=
      ⟨candidate, Nat.lt_succ_self _, index, arg, hseen, rfl⟩
    have hlen' : tys.length = args.length := by simpa using hlen
    rw [probeExportArguments, if_pos rfl, hget, Backend.probesAccept]
    cases hprobe : B.probe ty arg with
    | false =>
      refine ⟨[.probe candidate index arg], by simpa using hfirst, ?_⟩
      rw [probeExportArguments_rejected]
      rfl
    | true =>
      obtain ⟨probes, hprobes, hrun⟩ :=
        ih (t := t.record (.probe candidate index arg)) hdrop hlen'
      refine ⟨.probe candidate index arg :: probes, ?_, ?_⟩
      · exact List.forall_mem_cons.mpr ⟨hfirst, hprobes⟩
      · rw [hrun, Bool.true_and, Trace.record, List.append_assoc, List.singleton_append]

/-- Conversion yields what the arguments denote and converts each of them once. -/
lemma convertExportArguments_spec (accessor : Accessor) (candidate : ℕ) {tys : List B.Ty}
    {index : ℕ} {t : Trace B} {rest : List Dynamic} (hrest : t.args.drop index = rest)
    (hlen : tys.length = rest.length) :
    allOptionals B (convertExportArguments B accessor candidate tys index t).1 =
      B.denote accessor tys rest ∧
    ∃ left, (convertExportArguments B accessor candidate tys index t).2 =
      ⟨left, t.log ++ (rest.zipIdx index).map fun p => .convert candidate p.2 p.1⟩ := by
  induction tys generalizing index t rest with
  | nil =>
    obtain rfl := List.length_eq_zero_iff.mp hlen.symm
    refine ⟨rfl, t.args, ?_⟩
    rw [List.zipIdx_nil, List.map_nil, List.append_nil]
    rfl
  | cons ty tys ih =>
    obtain ⟨arg, args, rfl⟩ := List.exists_cons_of_length_eq_add_one hlen.symm
    obtain ⟨hget, -, hdrop⟩ := Trace.get_of_drop hrest
    have hlen' : tys.length = args.length := by simpa using hlen
    -- what a conversion leaves behind is in front of what is left to read
    have hdrop' : (t.args.set index (fromOptional B accessor ty arg).2).drop (index + 1) =
        args := by
      rw [List.drop_set_of_lt (Nat.lt_succ_self index), hdrop]
    obtain ⟨hvalues, left, htrace⟩ := ih
      (t := ⟨t.args.set index (fromOptional B accessor ty arg).2,
        t.log ++ [.convert candidate index arg]⟩) hdrop' hlen'
    have hstep : convertExportArguments B accessor candidate (ty :: tys) index t =
        (.cons (fromOptional B accessor ty arg).1
          (convertExportArguments B accessor candidate tys (index + 1)
            ⟨t.args.set index (fromOptional B accessor ty arg).2,
              t.log ++ [.convert candidate index arg]⟩).1,
          (convertExportArguments B accessor candidate tys (index + 1)
            ⟨t.args.set index (fromOptional B accessor ty arg).2,
              t.log ++ [.convert candidate index arg]⟩).2) := by
      rw [convertExportArguments, hget]
      rfl
    rw [hstep]
    refine ⟨?_, left, ?_⟩
    · rw [allOptionals, Backend.denote, hvalues]
    · rw [htrace, List.zipIdx_cons, List.map_cons, List.append_assoc, List.singleton_append]

/-- The conversions of a whole argument list. -/
lemma conversions_eq_zipIdx (candidate : ℕ) (args : List Dynamic) :
    conversions B candidate args =
      (args.zipIdx 0).map fun p => .convert candidate p.2 p.1 := by
  rw [conversions, List.mapIdx_eq_zipIdx_map]

/-- An opted-in candidate that a probe rejects has only been probed. -/
lemma exportOverloadCandidate_of_rejected (B : ProbingBackend Dynamic)
    (callable : B.Callable) (accessor : Accessor) (candidate : ℕ) {sig : Signature B.Ty}
    {t : Trace B.toBackend} (hlen : sig.types.length = t.args.length)
    (hreject : B.probesAccept sig.types t.args = false) :
    ∃ probes, (∀ e ∈ probes, Event.ProbesOriginal t.args (candidate + 1) e) ∧
      exportOverloadCandidate B.toBackend callable accessor candidate sig t =
        (.ok none, ⟨t.args, t.log ++ probes⟩) := by
  have hrest : t.args.drop 0 = t.args := List.drop_zero
  obtain ⟨probes, hprobes, hrun⟩ := probeExportArguments_spec candidate hrest hlen
  refine ⟨probes, hprobes, ?_⟩
  rw [exportOverloadCandidate, if_pos B.opted, hrun, hreject]
  rfl

/-- An opted-in candidate that every probe accepts is converted and committed. -/
lemma exportOverloadCandidate_of_accepted (B : ProbingBackend Dynamic)
    (callable : B.Callable) (accessor : Accessor) (candidate : ℕ) {sig : Signature B.Ty}
    {t : Trace B.toBackend} (haccept : B.probesAccept sig.types t.args = true) :
    ∃ probes left, (∀ e ∈ probes, Event.ProbesOriginal t.args (candidate + 1) e) ∧
      exportOverloadCandidate B.toBackend callable accessor candidate sig t =
        ((B.commit callable candidate sig (B.denote accessor sig.types t.args)).1,
          ⟨left, t.log ++ probes ++ conversions B.toBackend candidate t.args ++
            [(B.commit callable candidate sig (B.denote accessor sig.types t.args)).2]⟩) := by
  have hlen := Backend.length_of_probesAccept haccept
  have hrest : t.args.drop 0 = t.args := List.drop_zero
  obtain ⟨probes, hprobes, hrun⟩ := probeExportArguments_spec candidate hrest hlen
  obtain ⟨hvalues, left, htrace⟩ := convertExportArguments_spec accessor candidate
    (t := ⟨t.args, t.log ++ probes⟩) hrest hlen
  refine ⟨probes, left, hprobes, ?_⟩
  rw [exportOverloadCandidate, if_pos B.opted, hrun, haccept,
    conversions_eq_zipIdx]
  simp only [Bool.not_true, Bool.false_eq_true, if_false, acceptedExportArguments, hvalues,
    htrace]
  cases hdenote : B.denote accessor sig.types t.args with
  | none =>
    simp only [B.opted, if_true]
    rfl
  | some natives =>
    cases hcall : callable sig natives with
    | error e =>
      simp only [hcall, Backend.commit]
      rfl
    | ok result =>
      simp only [hcall, Backend.commit]
      rfl

end Candidate

/-! ## What a dispatch does -/

section Selection

variable {Dynamic : Type} (B : ProbingBackend Dynamic)

/-- A probe of an earlier candidate is a probe of a later bound. -/
lemma Event.ProbesOriginal.mono {B : Backend Dynamic} {args : List Dynamic} {m n : ℕ}
    {e : Event B} (h : e.ProbesOriginal args m) (hle : m ≤ n) : e.ProbesOriginal args n := by
  obtain ⟨j, hj, hrest⟩ := h
  exact ⟨j, hj.trans_le hle, hrest⟩

/-- A candidate that is not viable is passed over, and leaves the arguments alone. -/
lemma exportOverloadDispatch_cons_of_not_viable (callable : B.Callable)
    {contract : Contract B.Ty} (contracts : List (Contract B.Ty)) {args : List Dynamic}
    (hviable : B.viable args contract = false) (candidate : ℕ) (log : List (Event B.toBackend)) :
    ∃ probes, (∀ e ∈ probes, Event.ProbesOriginal args (candidate + 1) e) ∧
      exportOverloadDispatch B.toBackend callable args.length consumingVectorAccessor candidate
        (contract :: contracts) ⟨args, log⟩ =
      exportOverloadDispatch B.toBackend callable args.length consumingVectorAccessor
        (candidate + 1) contracts ⟨args, log ++ probes⟩ := by
  cases contract with
  | unmatched =>
    refine ⟨[], by simp, ?_⟩
    rw [exportOverloadDispatch, List.append_nil]
  | free sig =>
    by_cases hlen : sig.params.length = args.length
    · obtain ⟨probes, hprobes, hrun⟩ := exportOverloadCandidate_of_rejected B callable
        consumingVectorAccessor candidate (t := ⟨args, log⟩) (by simpa using hlen) hviable
      refine ⟨probes, hprobes, ?_⟩
      rw [exportOverloadDispatch, hrun]
      simp [consumingVectorAccessor, Accessor.canAccess, hlen]
    · refine ⟨[], by simp, ?_⟩
      rw [exportOverloadDispatch, List.append_nil]
      simp [Ne.symm hlen]

/-- Without a viable candidate the dispatch returns empty, and the arguments have only been
probed. -/
theorem exportOverloadDispatch_of_none_viable (callable : B.Callable)
    {contracts : List (Contract B.Ty)} {args : List Dynamic}
    (hnone : ∀ contract ∈ contracts, B.viable args contract = false) (candidate : ℕ)
    (log : List (Event B.toBackend)) :
    ∃ probes, (∀ e ∈ probes, Event.ProbesOriginal args (candidate + contracts.length) e) ∧
      exportOverloadDispatch B.toBackend callable args.length consumingVectorAccessor candidate
        contracts ⟨args, log⟩ = (.ok none, ⟨args, log ++ probes⟩) := by
  induction contracts generalizing candidate log with
  | nil => exact ⟨[], by simp, by rw [List.append_nil]; rfl⟩
  | cons contract contracts ih =>
    rw [List.forall_mem_cons] at hnone
    obtain ⟨first, hfirst, hstep⟩ :=
      exportOverloadDispatch_cons_of_not_viable B callable contracts hnone.1 candidate log
    obtain ⟨probes, hprobes, hrun⟩ := ih hnone.2 (candidate + 1) (log ++ first)
    refine ⟨first ++ probes, ?_, by rw [hstep, hrun, List.append_assoc]⟩
    intro e he
    rcases List.mem_append.mp he with he | he
    · exact (hfirst e he).mono (by simp)
    · exact (hprobes e he).mono (by simp; omega)

/-- The first viable candidate is committed after every earlier one was at most probed. -/
theorem exportOverloadDispatch_of_firstViable (callable : B.Callable)
    {contracts : List (Contract B.Ty)} {args : List Dynamic} {k : ℕ} {sig : Signature B.Ty}
    (hfirst : B.FirstViable contracts args k sig) (candidate : ℕ)
    (log : List (Event B.toBackend)) :
    ∃ probes left, (∀ e ∈ probes, Event.ProbesOriginal args (candidate + k + 1) e) ∧
      exportOverloadDispatch B.toBackend callable args.length consumingVectorAccessor candidate
        contracts ⟨args, log⟩ =
      ((B.commit callable (candidate + k) sig
          (B.denote consumingVectorAccessor sig.types args)).1,
        ⟨left, log ++ probes ++ conversions B.toBackend (candidate + k) args ++
          [(B.commit callable (candidate + k) sig
            (B.denote consumingVectorAccessor sig.types args)).2]⟩) := by
  induction contracts generalizing candidate log k with
  | nil => exact absurd hfirst.declared (by simp)
  | cons contract contracts ih =>
    cases k with
    | zero =>
      obtain rfl : contract = .free sig := by simpa using hfirst.declared
      have hlen : sig.params.length = args.length := by
        simpa using Backend.length_of_probesAccept hfirst.accepts
      obtain ⟨probes, left, hprobes, hrun⟩ := exportOverloadCandidate_of_accepted B callable
        consumingVectorAccessor candidate (t := ⟨args, log⟩) hfirst.accepts
      refine ⟨probes, left, hprobes, ?_⟩
      have hguard : (consumingVectorAccessor.canAccess sig.params.length &&
          args.length == sig.params.length) = true := by
        simp [consumingVectorAccessor, Accessor.canAccess, hlen]
      rw [exportOverloadDispatch, if_pos hguard, hrun]
      -- a committed candidate never returns empty
      cases B.denote consumingVectorAccessor sig.types args with
      | none => rfl
      | some natives =>
        simp only [Backend.commit]
        cases callable sig natives <;> rfl
    | succ k =>
      have hviable : B.viable args contract = false :=
        hfirst.earlier 0 (Nat.succ_pos k) contract rfl
      have htail : B.FirstViable contracts args k sig :=
        ⟨by simpa using hfirst.declared, hfirst.accepts,
          fun j hj c hc => hfirst.earlier (j + 1) (by omega) c (by simpa using hc)⟩
      obtain ⟨first, hfirst', hstep⟩ :=
        exportOverloadDispatch_cons_of_not_viable B callable contracts hviable candidate log
      obtain ⟨probes, left, hprobes, hrun⟩ := ih htail (candidate + 1) (log ++ first)
      have hposition : candidate + 1 + k = candidate + (k + 1) := by omega
      rw [hposition] at hprobes hrun
      refine ⟨first ++ probes, left, ?_, ?_⟩
      · intro e he
        rcases List.mem_append.mp he with he | he
        · exact (hfirst' e he).mono (by omega)
        · exact hprobes e he
      · rw [hstep, hrun, List.append_assoc log first probes]

/-- A contract list has no viable candidate or a first one. -/
lemma Backend.none_viable_or_firstViable (B : Backend Dynamic) (contracts : List (Contract B.Ty))
    (args : List Dynamic) :
    (∀ contract ∈ contracts, B.viable args contract = false) ∨
      ∃ k sig, B.FirstViable contracts args k sig := by
  induction contracts with
  | nil => exact .inl (by simp)
  | cons contract contracts ih =>
    cases hviable : B.viable args contract with
    | true =>
      cases contract with
      | unmatched => cases hviable
      | free sig => exact .inr ⟨0, sig, rfl, hviable, fun j hj => absurd hj (Nat.not_lt_zero j)⟩
    | false =>
      rcases ih with hnone | ⟨k, sig, hdeclared, haccepts, hearlier⟩
      · exact .inl (List.forall_mem_cons.mpr ⟨hviable, hnone⟩)
      · refine .inr ⟨k + 1, sig, by simpa using hdeclared, haccepts, fun j hj c hc => ?_⟩
        cases j with
        | zero =>
          obtain rfl : contract = c := by simpa using hc
          exact hviable
        | succ j => exact hearlier j (by omega) c (by simpa using hc)

/-- Everything a binder's dispatch over an argument vector can do. -/
theorem Binder.dispatchOptional_cases (binder : Binder B.toBackend) (args : List Dynamic) :
    ((∀ contract ∈ binder.contracts, B.viable args contract = false) ∧
      ∃ probes, (∀ e ∈ probes, Event.ProbesOriginal args binder.contracts.length e) ∧
        binder.dispatchOptional args.length consumingVectorAccessor args =
          (.ok none, ⟨args, probes⟩)) ∨
    ∃ k sig, B.FirstViable binder.contracts args k sig ∧
      ∃ probes left, (∀ e ∈ probes, Event.ProbesOriginal args (k + 1) e) ∧
        binder.dispatchOptional args.length consumingVectorAccessor args =
          ((B.commit binder.callable k sig (B.denote consumingVectorAccessor sig.types args)).1,
            ⟨left, probes ++ conversions B.toBackend k args ++
              [(B.commit binder.callable k sig
                (B.denote consumingVectorAccessor sig.types args)).2]⟩) := by
  rcases B.none_viable_or_firstViable binder.contracts args with hnone | ⟨k, sig, hfirst⟩
  · obtain ⟨probes, hprobes, hrun⟩ :=
      exportOverloadDispatch_of_none_viable B binder.callable hnone 0 []
    rw [Nat.zero_add] at hprobes
    exact .inl ⟨hnone, probes, hprobes, by rw [dispatchOptional, hrun, List.nil_append]⟩
  · obtain ⟨probes, left, hprobes, hrun⟩ :=
      exportOverloadDispatch_of_firstViable B binder.callable hfirst 0 []
    rw [Nat.zero_add, List.nil_append] at hrun
    rw [Nat.zero_add] at hprobes
    exact .inr ⟨k, sig, hfirst, probes, left, hprobes, hrun⟩

end Selection

/-! ## Lawful converters -/

section Lawful

variable {Dynamic : Type}

/-- Converters whose probe accepts exactly the values that can be converted, and that read a
mutable value like a constant one. -/
structure Backend.Lawful (B : Backend Dynamic) : Prop where
  probe_eq : ∀ ty value, B.probe ty value = (B.fromConst ty value).isSome
  fromMutable_eq : ∀ ty value, (B.fromMutable ty value).1 = B.fromConst ty value

variable {B : Backend Dynamic}

/-- Lawful converters yield the same value through every accessor. -/
lemma Backend.Lawful.fromOptional_eq (hB : B.Lawful) (accessor : Accessor) (ty : B.Ty)
    (value : Dynamic) : (fromOptional B accessor ty value).1 = B.fromConst ty value := by
  unfold fromOptional
  split
  · exact hB.fromMutable_eq ty value
  · rfl

/-- With lawful converters, what arguments denote does not depend on the accessor. -/
lemma Backend.Lawful.denote_eq (hB : B.Lawful) (accessor accessor' : Accessor)
    (tys : List B.Ty) (args : List Dynamic) :
    B.denote accessor tys args = B.denote accessor' tys args := by
  induction tys generalizing args with
  | nil => cases args <;> rfl
  | cons ty tys ih =>
    cases args with
    | nil => rfl
    | cons arg args =>
      rw [denote, denote, ih args, hB.fromOptional_eq, hB.fromOptional_eq]

/-- With lawful converters, arguments denote native values exactly when their probes accept
them. -/
theorem Backend.Lawful.isSome_denote (hB : B.Lawful) (accessor : Accessor) (tys : List B.Ty)
    (args : List Dynamic) : (B.denote accessor tys args).isSome = B.probesAccept tys args := by
  induction tys generalizing args with
  | nil => cases args <;> rfl
  | cons ty tys ih =>
    cases args with
    | nil => rfl
    | cons arg args =>
      rw [denote, probesAccept, ← ih args, hB.fromOptional_eq, hB.probe_eq]
      cases B.fromConst ty arg with
      | none => rfl
      | some native => cases B.denote accessor tys args <;> rfl

end Lawful

end Dynabridge.Export
