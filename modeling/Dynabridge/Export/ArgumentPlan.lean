import Dynabridge.Export.OverloadDispatch
import Dynabridge.Foundations.OrderedSearch

/-!
# Argument plans

The arguments of an exported callable may be scalars and descriptors of foreign objects and
callables.  A descriptor is not probed: on a backend that opts into the RPC probe policy its
handle is prepared once, before any scalar of the candidate is probed, and moved into the
conversion; on any other backend it is converted like a scalar.

Making a handle may run foreign code, which changes what it can reach: here the world, that is
the argument slots and a foreign state.  `ExportContext` collects the `export_argument`
specialisations of a context.  Preparation is sequenced by the braces of its initialiser; the
conversions inside `std::make_tuple` and the extractions in the call run from left to right here.

A dispatch is an ordered search (`exportOverloadDispatch_eq_search`) over the candidates of the
arity of the arguments.
-/

namespace Dynabridge.Export.ArgumentPlan

open OrderedSearch

/-! ## Contexts -/

/-- The argument slots, and whatever foreign code can change. -/
structure World (Dynamic Foreign : Type) where
  args : List Dynamic
  foreign : Foreign
  deriving DecidableEq

/-- What dispatch uses of an export context over dynamic values in `Dynamic`.  A type is what
`std::decay` leaves of a declared parameter. -/
structure ExportContext (Dynamic : Type) where
  Ty : Type
  isBridgeDescriptor : Ty → Bool
  /-- what `export_argument::optional_t` holds -/
  Held : Ty → Type
  /-- `export_argument::cpp_type` -/
  CppType : Ty → Type
  /-- the values of a result type -/
  Native : Ty → Type
  Foreign : Type
  /-- `export_argument::probe` -/
  probe : Ty → Dynamic → Bool
  /-- `export_argument::try_make` on the argument with a number, as a mutable reference or not -/
  tryMake : (ty : Ty) → (mutableRef : Bool) → ℕ → World Dynamic Foreign →
    Option (Held ty) × World Dynamic Foreign
  /-- `export_argument::get`, which sees what the argument holds, but no slot -/
  get : (ty : Ty) → Held ty → Foreign → Except Raised (CppType ty)
  /-- `converter<R>::to` on an rvalue -/
  toRvalue : (ty : Ty) → Native ty → Except Raised Dynamic
  /-- `backend_t::undefined` -/
  undefined : Dynamic
  usesRpcExportProbe : Bool

/-- A context whose backend opts into the RPC probe policy. -/
structure ProbingContext (Dynamic : Type) extends ExportContext Dynamic where
  opted : usesRpcExportProbe = true

/-- A context whose backend converts and tests. -/
structure TestingContext (Dynamic : Type) extends ExportContext Dynamic where
  notOpted : usesRpcExportProbe = false

namespace ExportContext

variable {Dynamic : Type} (C : ExportContext Dynamic)

/-- The optionals of a candidate's arguments. -/
abbrev Optionals (tys : List C.Ty) : Type := Tuple (fun ty => Option (C.Held ty)) tys

/-- What a callable of a given result type returns. -/
def Result : Option C.Ty → Type
  | none => Unit
  | some ty => C.Native ty

/-- The exported C++ callable: what it does when it is called through a signature. -/
abbrev Callable : Type :=
  (sig : Signature C.Ty) → Tuple C.CppType sig.types → C.Foreign →
    Except Raised (C.Result sig.result) × C.Foreign

/-- `to_export_result`, and `undefined` for a `void` result. -/
def toExportResult : (result : Option C.Ty) → C.Result result → Except Raised Dynamic
  | none, _ => .ok C.undefined
  | some ty, native => C.toRvalue ty native

/-- Whether the plan of a candidate prepares an argument of this type. -/
def prepares (ty : C.Ty) : Bool := C.usesRpcExportProbe && C.isBridgeDescriptor ty

end ExportContext

section Dispatch

variable {Dynamic : Type} (C : ExportContext Dynamic)

/-- What a call does, with the position of the candidate and the number of the argument. -/
inductive Event
  | prepare (candidate index : ℕ)
  | probe (candidate index : ℕ) (seen : Dynamic)
  | convert (candidate index : ℕ)
  | invoke (candidate : ℕ) (sig : Signature C.Ty) (arguments : Tuple C.CppType sig.types)
  /-- the raise of `accepted_export_arguments` -/
  | rejectedAcceptedProbe (candidate : ℕ)

/-- The world, and the events so far. -/
structure Trace where
  world : World Dynamic C.Foreign
  log : List (Event C)

variable {C} in
/-- Record an event. -/
def Trace.record (t : Trace C) (e : Event C) : Trace C := { t with log := t.log ++ [e] }

/-- `accessor.get<I>()` -/
def slot (w : World Dynamic C.Foreign) (index : ℕ) : Dynamic := w.args.getD index C.undefined

/-! ## Plans -/

/-- The construction of `export_candidate_plan`, from the given index on: the handles of the
descriptors, and nothing for a scalar.  The plan of a candidate without descriptors, and that of a
backend that did not opt in, prepare nothing. -/
def prepareArguments (candidate : ℕ) :
    (tys : List C.Ty) → (index : ℕ) → Trace C → C.Optionals tys × Trace C
  | [], _, t => (.nil, t)
  | ty :: tys, index, t =>
    if C.prepares ty then
      let made := C.tryMake ty false index t.world
      let rest := prepareArguments candidate tys (index + 1)
        ⟨made.2, t.log ++ [.prepare candidate index]⟩
      (.cons made.1 rest.1, rest.2)
    else
      let rest := prepareArguments candidate tys (index + 1) t
      (.cons none rest.1, rest.2)

/-- `export_candidate_plan::probe`, from the given index on and with the result so far. -/
def probeArguments (candidate : ℕ) :
    {tys : List C.Ty} → C.Optionals tys → (index : ℕ) → (accepted : Bool) → Trace C →
      Bool × Trace C
  | [], .nil, _, accepted, t => (accepted, t)
  | ty :: _, .cons prepared plan, index, accepted, t =>
    if C.prepares ty then
      probeArguments candidate plan (index + 1) (accepted && prepared.isSome) t
    else if accepted then
      probeArguments candidate plan (index + 1) (C.probe ty (slot C t.world index))
        (t.record (.probe candidate index (slot C t.world index)))
    else probeArguments candidate plan (index + 1) false t

/-- `plan.probe` -/
def planProbe (candidate : ℕ) {tys : List C.Ty} (plan : C.Optionals tys) (t : Trace C) :
    Bool × Trace C :=
  if C.usesRpcExportProbe then probeArguments C candidate plan 0 true t else (true, t)

/-- `plan.convert`, from the given index on: a prepared handle is moved, and anything else is
converted. -/
def convertArguments (accessor : Accessor) (candidate : ℕ) :
    {tys : List C.Ty} → C.Optionals tys → (index : ℕ) → Trace C → C.Optionals tys × Trace C
  | [], .nil, _, t => (.nil, t)
  | ty :: _, .cons prepared plan, index, t =>
    if C.prepares ty then
      let rest := convertArguments accessor candidate plan (index + 1) t
      (.cons prepared rest.1, rest.2)
    else
      let made := C.tryMake ty accessor.consuming index t.world
      let rest := convertArguments accessor candidate plan (index + 1)
        ⟨made.2, t.log ++ [.convert candidate index]⟩
      (.cons made.1 rest.1, rest.2)

/-- `all_optionals`, with what the optionals hold. -/
def allOptionals : {tys : List C.Ty} → C.Optionals tys → Option (Tuple C.Held tys)
  | [], .nil => some .nil
  | _ :: _, .cons value values => do return .cons (← value) (← allOptionals values)

/-- `accepted_export_arguments` -/
def acceptedExportArguments {tys : List C.Ty} (converted : C.Optionals tys) :
    Except Raised (Option (Tuple C.Held tys)) :=
  match allOptionals C converted with
  | some held => .ok (some held)
  | none =>
    if C.usesRpcExportProbe then
      .error (.badConversion (ascii "dynabridge export argument rejected an accepted probe"))
    else .ok none

/-- `export_argument::get` on each of the arguments. -/
def getArguments (foreign : C.Foreign) :
    {tys : List C.Ty} → Tuple C.Held tys → Except Raised (Tuple C.CppType tys)
  | [], .nil => .ok .nil
  | ty :: _, .cons held rest =>
    match C.get ty held foreign with
    | .error e => .error e
    | .ok argument => (getArguments foreign rest).map (.cons argument)

/-- The call of the native callable, once its arguments have been converted: they are extracted,
and the callable is invoked. -/
def invokeCallable (callable : C.Callable) (candidate : ℕ) (sig : Signature C.Ty)
    (held : Tuple C.Held sig.types) (t : Trace C) :
    Except Raised (C.Result sig.result) × Trace C :=
  match getArguments C t.world.foreign held with
  | .error e => (.error e, t)
  | .ok arguments =>
    let called := callable sig arguments t.world.foreign
    (called.1,
      ⟨{ t.world with foreign := called.2 }, t.log ++ [.invoke candidate sig arguments]⟩)

/-! ## The dispatcher -/

/-- `export_overload_candidate::call_optional` -/
def exportOverloadCandidate (callable : C.Callable) (accessor : Accessor) (candidate : ℕ)
    (sig : Signature C.Ty) (t : Trace C) : Except Raised (Option Dynamic) × Trace C :=
  let plan := prepareArguments C candidate sig.types 0 t
  let probed := planProbe C candidate plan.1 plan.2
  if !probed.1 then (.ok none, probed.2)
  else
    let converted := convertArguments C accessor candidate plan.1 0 probed.2
    match acceptedExportArguments C converted.1 with
    | .error e => (.error e, converted.2.record (.rejectedAcceptedProbe candidate))
    | .ok none => (.ok none, converted.2)
    | .ok (some held) =>
      let called := invokeCallable C callable candidate sig held converted.2
      (called.1.bind fun result => (C.toExportResult sig.result result).map some, called.2)

/-- `export_overload_dispatch::call_optional`, with the number of candidates so far. -/
def exportOverloadDispatch (callable : C.Callable) (argc : ℕ) (accessor : Accessor) :
    (candidate : ℕ) → List (Contract C.Ty) → Trace C → Except Raised (Option Dynamic) × Trace C
  | _, [], t => (.ok none, t)
  | candidate, .unmatched :: tail, t =>
    exportOverloadDispatch callable argc accessor (candidate + 1) tail t
  | candidate, .free sig :: tail, t =>
    if accessor.canAccess sig.params.length && argc == sig.params.length then
      match exportOverloadCandidate C callable accessor candidate sig t with
      | (.ok none, t) => exportOverloadDispatch callable argc accessor (candidate + 1) tail t
      | (.ok (some result), t) => (.ok (some result), t)
      | (.error e, t) => (.error e, t)
    else exportOverloadDispatch callable argc accessor (candidate + 1) tail t

/-- `export_overload_required_dispatch::call` -/
def exportOverloadRequiredDispatch (callable : C.Callable) (argc : ℕ) (accessor : Accessor)
    (contracts : List (Contract C.Ty)) (t : Trace C) : Except Raised Dynamic × Trace C :=
  match exportOverloadDispatch C callable argc accessor 0 contracts t with
  | (.ok (some result), t) => (.ok result, t)
  | (.ok none, t) =>
    (.error (.badConversion (ascii "dynabridge export overload has no matching signature")), t)
  | (.error e, t) => (.error e, t)

/-- The candidates that a dispatch tries, with their positions: those of the arity of the
arguments, as far as the accessor can access that many. -/
def candidates (argc : ℕ) (accessor : Accessor) :
    (position : ℕ) → List (Contract C.Ty) → List (ℕ × Signature C.Ty)
  | _, [] => []
  | position, .unmatched :: tail => candidates argc accessor (position + 1) tail
  | position, .free sig :: tail =>
    if accessor.canAccess sig.params.length && argc == sig.params.length then
      (position, sig) :: candidates argc accessor (position + 1) tail
    else candidates argc accessor (position + 1) tail

/-! ## Dispatch as a search -/

/-- A dispatch tries the candidates of the arity of the arguments in the order of their
declaration. -/
theorem exportOverloadDispatch_eq_search (callable : C.Callable) (argc : ℕ) (accessor : Accessor)
    (position : ℕ) (contracts : List (Contract C.Ty)) (t : Trace C) :
    exportOverloadDispatch C callable argc accessor position contracts t =
      search (fun c => exportOverloadCandidate C callable accessor c.1 c.2)
        (candidates C argc accessor position contracts) t := by
  induction contracts generalizing position t with
  | nil => rfl
  | cons contract contracts ih =>
    cases contract with
    | unmatched => exact ih (position + 1) t
    | free sig =>
      rw [exportOverloadDispatch, candidates]
      split
      · rw [search]
        rcases exportOverloadCandidate C callable accessor position sig t with ⟨_ | _ | _, t'⟩
        · rfl
        · exact ih (position + 1) t'
        · rfl
      · exact ih (position + 1) t

/-- Which signatures are tried, and at which positions. -/
lemma mem_candidates {argc : ℕ} {accessor : Accessor} {position : ℕ}
    {contracts : List (Contract C.Ty)} {c : ℕ × Signature C.Ty} :
    c ∈ candidates C argc accessor position contracts ↔
      ∃ k, c.1 = position + k ∧ contracts[k]? = some (.free c.2) ∧
        c.2.params.length = argc ∧ accessor.canAccess argc = true := by
  induction contracts generalizing position with
  | nil => simp [candidates]
  | cons contract contracts ih =>
    -- a candidate of the tail is one position further on
    have htail : c ∈ candidates C argc accessor (position + 1) contracts ↔
        ∃ k, c.1 = position + (k + 1) ∧ contracts[k]? = some (.free c.2) ∧
          c.2.params.length = argc ∧ accessor.canAccess argc = true := by
      rw [ih]
      simp only [Nat.add_assoc, Nat.add_comm 1]
    constructor
    · intro hc
      have hcases : c ∈ candidates C argc accessor (position + 1) contracts ∨
          contract = .free c.2 ∧ c.1 = position ∧ c.2.params.length = argc ∧
            accessor.canAccess argc = true := by
        cases contract with
        | unmatched => exact .inl hc
        | free sig =>
          rw [candidates] at hc
          split at hc
          · rename_i hguard
            rcases List.mem_cons.mp hc with rfl | hrest
            · rw [Bool.and_eq_true, beq_iff_eq] at hguard
              exact .inr ⟨rfl, rfl, hguard.2.symm, hguard.2 ▸ hguard.1⟩
            · exact .inl hrest
          · exact .inl hc
      rcases hcases with hrest | ⟨rfl, hposition, hlen, haccess⟩
      · obtain ⟨k, hk⟩ := htail.mp hrest
        exact ⟨k + 1, hk.1, hk.2⟩
      · exact ⟨0, hposition, rfl, hlen, haccess⟩
    · rintro ⟨k, hposition, hk, hlen, haccess⟩
      cases k with
      | zero =>
        obtain rfl : contract = .free c.2 := Option.some.inj hk
        have hguard : (accessor.canAccess c.2.params.length &&
            argc == c.2.params.length) = true := by
          rw [hlen, haccess]
          exact beq_self_eq_true argc
        rw [candidates, if_pos hguard]
        exact List.mem_cons.mpr (.inl (Prod.ext hposition rfl))
      | succ k =>
        have hrest := htail.mpr ⟨k, hposition, hk, hlen, haccess⟩
        cases contract with
        | unmatched => exact hrest
        | free sig =>
          rw [candidates]
          split
          · exact List.mem_cons_of_mem _ hrest
          · exact hrest

/-- The candidates are tried in the order of their positions. -/
lemma pairwise_candidates (argc : ℕ) (accessor : Accessor) (position : ℕ)
    (contracts : List (Contract C.Ty)) :
    (candidates C argc accessor position contracts).Pairwise fun c d => c.1 < d.1 := by
  induction contracts generalizing position with
  | nil => exact List.Pairwise.nil
  | cons contract contracts ih =>
    cases contract with
    | unmatched => exact ih (position + 1)
    | free sig =>
      rw [candidates]
      split
      · refine List.pairwise_cons.mpr ⟨fun d hd => ?_, ih (position + 1)⟩
        obtain ⟨k, hk, -⟩ := (mem_candidates C).mp hd
        rw [hk]
        exact Nat.lt_of_lt_of_le (Nat.lt_succ_self position) (Nat.le_add_right _ k)
      · exact ih (position + 1)

end Dispatch

/-! ## What a plan does -/

/-- The numbers of the arguments whose types satisfy `p`, in order. -/
def positions {Ty : Type} (p : Ty → Bool) (tys : List Ty) (index : ℕ) : List ℕ :=
  ((tys.zipIdx index).filter fun x => p x.1).map Prod.snd

section

variable {Ty : Type} {p : Ty → Bool}

lemma positions_cons (ty : Ty) (tys : List Ty) (index : ℕ) :
    positions p (ty :: tys) index =
      (if p ty then [index] else []) ++ positions p tys (index + 1) := by
  rw [positions, List.zipIdx_cons, List.filter_cons]
  split
  · rfl
  · rfl

/-- Each argument of the kind is listed. -/
lemma mem_positions {tys : List Ty} {i : ℕ} :
    i ∈ positions p tys 0 ↔ ∃ ty, tys[i]? = some ty ∧ p ty = true := by
  simp [positions, List.mk_mem_zipIdx_iff_getElem?]

/-- No argument is listed twice, and they are listed in order. -/
lemma pairwise_positions (tys : List Ty) (index : ℕ) :
    (positions p tys index).Pairwise (· < ·) := by
  have hsub : (positions p tys index).Sublist (List.range' index tys.length) := by
    rw [← List.zipIdx_map_snd]
    exact List.filter_sublist.map Prod.snd
  exact List.Pairwise.sublist hsub List.pairwise_lt_range'

/-- All arguments. -/
lemma positions_true (tys : List Ty) (index : ℕ) :
    positions (fun _ => true) tys index = List.range' index tys.length := by
  rw [positions, List.filter_true, List.zipIdx_map_snd]

end

section Plan

variable {Dynamic : Type} (C : ExportContext Dynamic)

/-- Every handle that was prepared is there. -/
def handlesPresent : {tys : List C.Ty} → C.Optionals tys → Bool
  | [], .nil => true
  | ty :: _, .cons prepared plan => (!C.prepares ty || prepared.isSome) && handlesPresent plan

/-- The probes of the other arguments accept what their slots hold. -/
def scalarsAccept (w : World Dynamic C.Foreign) : List C.Ty → (index : ℕ) → Bool
  | [], _ => true
  | ty :: tys, index =>
    (C.prepares ty || C.probe ty (slot C w index)) && scalarsAccept w tys (index + 1)

/-- The handles that are passed on are those that were prepared. -/
def KeepsHandles : {tys : List C.Ty} → C.Optionals tys → Tuple C.Held tys → Prop
  | [], .nil, .nil => True
  | ty :: _, .cons prepared plan, .cons held rest =>
    (C.prepares ty = true → prepared = some held) ∧ KeepsHandles plan rest

/-- Each descriptor is prepared once. -/
lemma log_prepareArguments (candidate : ℕ) (tys : List C.Ty) (index : ℕ) (t : Trace C) :
    (prepareArguments C candidate tys index t).2.log =
      t.log ++ (positions C.prepares tys index).map (.prepare candidate) := by
  induction tys generalizing index t with
  | nil => exact (List.append_nil _).symm
  | cons ty tys ih =>
    rw [prepareArguments, positions_cons]
    split
    · rw [ih, List.map_append, List.append_assoc]
      rfl
    · exact ih (index + 1) t

/-- A plan without descriptors prepares nothing. -/
lemma prepareArguments_of_not_prepares (hnone : ∀ ty, C.prepares ty = false) (candidate : ℕ)
    (tys : List C.Ty) (index : ℕ) (t : Trace C) :
    (prepareArguments C candidate tys index t).2 = t := by
  induction tys generalizing index t with
  | nil => rfl
  | cons ty tys ih =>
    rw [prepareArguments, if_neg (ne_true_of_eq_false (hnone ty))]
    exact ih (index + 1) t

/-- After a mismatch nothing more is probed. -/
lemma probeArguments_false (candidate : ℕ) {tys : List C.Ty} (plan : C.Optionals tys)
    (index : ℕ) (t : Trace C) :
    probeArguments C candidate plan index false t = (false, t) := by
  induction tys generalizing index with
  | nil =>
    cases plan
    rfl
  | cons ty tys ih =>
    cases plan with
    | cons prepared plan =>
      rw [probeArguments, if_neg Bool.false_ne_true, Bool.false_and, ih plan (index + 1), ite_self]

/-- Probing reads the slots and the prepared handles, and stops at the first mismatch. -/
lemma probeArguments_spec (candidate : ℕ) {tys : List C.Ty} (plan : C.Optionals tys) (index : ℕ)
    (accepted : Bool) (t : Trace C) :
    ∃ n, probeArguments C candidate plan index accepted t =
      (accepted && (handlesPresent C plan && scalarsAccept C t.world tys index),
        ⟨t.world, t.log ++ ((positions (fun ty => !C.prepares ty) tys index).take n).map
          fun i => .probe candidate i (slot C t.world i)⟩) := by
  induction tys generalizing index accepted t with
  | nil =>
    cases plan
    exact ⟨0, by simp [probeArguments, handlesPresent, scalarsAccept]⟩
  | cons ty tys ih =>
    cases plan with
    | cons prepared plan =>
      cases hprep : C.prepares ty with
      | true =>
        obtain ⟨n, hn⟩ := ih plan (index + 1) (accepted && prepared.isSome) t
        refine ⟨n, ?_⟩
        rw [probeArguments, if_pos hprep, hn, positions_cons, handlesPresent, scalarsAccept, hprep]
        simp [Bool.and_assoc]
      | false =>
        cases accepted with
        | true =>
          obtain ⟨n, hn⟩ := ih plan (index + 1) (C.probe ty (slot C t.world index))
            (t.record (.probe candidate index (slot C t.world index)))
          refine ⟨n + 1, ?_⟩
          rw [probeArguments, if_neg (ne_true_of_eq_false hprep), if_pos rfl, hn, positions_cons,
            handlesPresent, scalarsAccept, hprep]
          simp [Trace.record, Bool.and_left_comm]
        | false =>
          refine ⟨0, ?_⟩
          rw [probeArguments_false, Bool.false_and, List.take_zero, List.map_nil, List.append_nil]

section

variable {C} {ty : C.Ty} {tys : List C.Ty}

/-- A prepared handle is moved. -/
lemma convertArguments_of_prepares (h : C.prepares ty = true) (accessor : Accessor)
    (candidate : ℕ) (prepared : Option (C.Held ty)) (plan : C.Optionals tys) (index : ℕ)
    (t : Trace C) :
    convertArguments C accessor candidate (.cons prepared plan) index t =
      (.cons prepared (convertArguments C accessor candidate plan (index + 1) t).1,
        (convertArguments C accessor candidate plan (index + 1) t).2) := by
  rw [convertArguments, if_pos h]

/-- Anything else is converted. -/
lemma convertArguments_of_not_prepares (h : C.prepares ty = false) (accessor : Accessor)
    (candidate : ℕ) (prepared : Option (C.Held ty)) (plan : C.Optionals tys) (index : ℕ)
    (t : Trace C) :
    convertArguments C accessor candidate (.cons prepared plan) index t =
      (.cons (C.tryMake ty accessor.consuming index t.world).1
          (convertArguments C accessor candidate plan (index + 1)
            ⟨(C.tryMake ty accessor.consuming index t.world).2,
              t.log ++ [.convert candidate index]⟩).1,
        (convertArguments C accessor candidate plan (index + 1)
          ⟨(C.tryMake ty accessor.consuming index t.world).2,
            t.log ++ [.convert candidate index]⟩).2) := by
  rw [convertArguments, if_neg (ne_true_of_eq_false h)]

lemma isSome_allOptionals_cons (value : Option (C.Held ty)) (values : C.Optionals tys) :
    (allOptionals C (.cons value values)).isSome =
      (value.isSome && (allOptionals C values).isSome) := by
  rw [allOptionals]
  cases value with
  | none => rfl
  | some held => cases allOptionals C values <;> rfl

end

/-- Every other argument is converted once. -/
lemma log_convertArguments (accessor : Accessor) (candidate : ℕ) {tys : List C.Ty}
    (plan : C.Optionals tys) (index : ℕ) (t : Trace C) :
    (convertArguments C accessor candidate plan index t).2.log =
      t.log ++ (positions (fun ty => !C.prepares ty) tys index).map (.convert candidate) := by
  induction tys generalizing index t with
  | nil =>
    cases plan
    exact (List.append_nil _).symm
  | cons ty tys ih =>
    cases plan with
    | cons prepared plan =>
      rw [convertArguments, positions_cons]
      cases hprep : C.prepares ty with
      | true =>
        rw [if_pos rfl]
        exact ih plan (index + 1) t
      | false =>
        rw [if_neg Bool.false_ne_true, ih, List.map_append, List.append_assoc]
        rfl

/-- Conversion moves the prepared handles. -/
lemma keepsHandles_of_convertArguments {accessor : Accessor} {candidate : ℕ} {tys : List C.Ty}
    {plan : C.Optionals tys} {index : ℕ} {t : Trace C} {held : Tuple C.Held tys}
    (h : allOptionals C (convertArguments C accessor candidate plan index t).1 = some held) :
    KeepsHandles C plan held := by
  induction tys generalizing index t with
  | nil =>
    cases plan
    cases held
    trivial
  | cons ty tys ih =>
    cases plan with
    | cons prepared plan =>
      cases held with
      | cons value rest =>
        rw [convertArguments] at h
        cases hprep : C.prepares ty with
        | true =>
          rw [hprep, if_pos rfl, allOptionals] at h
          obtain ⟨value', hvalue, hrest⟩ := Option.bind_eq_some_iff.mp h
          obtain ⟨rest', hrest', heq⟩ := Option.bind_eq_some_iff.mp hrest
          cases heq
          exact ⟨fun _ => hvalue, ih hrest'⟩
        | false =>
          rw [hprep, if_neg Bool.false_ne_true, allOptionals] at h
          obtain ⟨value', hvalue, hrest⟩ := Option.bind_eq_some_iff.mp h
          obtain ⟨rest', hrest', heq⟩ := Option.bind_eq_some_iff.mp hrest
          cases heq
          refine ⟨fun hcontra => ?_, ih hrest'⟩
          rw [hprep] at hcontra
          cases hcontra

end Plan

end Dynabridge.Export.ArgumentPlan
