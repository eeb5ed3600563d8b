import Dynabridge.Export.DescriptorPlan

/-!
# Binders of a single signature

`export_callable_binder` has three entry points.  `dispatch_optional` dispatches over the accessor
it is given; `call_optional` copies the arguments of the caller into a tuple and dispatches over
that; `operator()` copies them too, but has a plan, a conversion and an acceptance test of its own
(`invokeConverted`), and raises where the others return empty.

The arguments of a direct call are lvalues and rvalues.  `std::ref` makes a tuple of references,
whose components are not independent of the objects of the caller; it is left out.
-/

namespace Dynabridge.Export.ArgumentPlan

variable {Dynamic : Type}

/-! ## Direct calls -/

/-- An argument as the caller supplies it. -/
inductive CallerArgument (Dynamic : Type)
  | lvalue (value : Dynamic)
  | rvalue (value : Dynamic)
  deriving DecidableEq, Repr

namespace CallerArgument

/-- The component of `std::make_tuple` for an argument. -/
def component : CallerArgument Dynamic → Dynamic
  | lvalue value | rvalue value => value

/-- What `std::make_tuple` leaves in the object of the caller: an lvalue is copied, and an rvalue
is moved from. -/
def left (movedFrom : Dynamic → Dynamic) : CallerArgument Dynamic → Dynamic
  | lvalue value => value
  | rvalue value => movedFrom value

end CallerArgument

/-- `tuple_export_arg_accessor` over a tuple of the given size -/
def tupleAccessor (size : ℕ) : Accessor := ⟨true, some size⟩

section Binder

variable (C : ExportContext Dynamic)

/-- What `operator()` returns: nothing for a `void` result. -/
def Returned : Option C.Ty → Type
  | none => Unit
  | some _ => Dynamic

/-- The return of `operator()`: `to_export_result`, or nothing. -/
def toReturned : (result : Option C.Ty) → C.Result result → Except Raised (Returned C result)
  | none, _ => .ok ()
  | some ty, native => C.toRvalue ty native

/-- The dynamic value of a return. -/
def returnedValue : (result : Option C.Ty) → Returned C result → Dynamic
  | none, _ => C.undefined
  | some _, value => value

/-- The error that `operator()` raises of its own. -/
def conversionFailed : Raised :=
  .badConversion (ascii "dynabridge export argument conversion failed")

/-- How a direct call ends, and what it leaves in the objects of the caller. -/
structure DirectCall (α : Type) where
  result : Except Raised α
  trace : Trace C
  caller : List Dynamic

/-- `export_callable_binder::invoke_converted`, over a tuple of the arguments -/
def invokeConverted (callable : C.Callable) (sig : Signature C.Ty) (t : Trace C) :
    Except Raised (Returned C sig.result) × Trace C :=
  let accessor := tupleAccessor sig.params.length
  let plan := prepareArguments C 0 sig.types 0 t
  let probed := planProbe C 0 plan.1 plan.2
  if !probed.1 then (.error conversionFailed, probed.2)
  else
    let converted := convertArguments C accessor 0 plan.1 0 probed.2
    match acceptedExportArguments C converted.1 with
    | .error e => (.error e, converted.2.record (.rejectedAcceptedProbe 0))
    | .ok none => (.error conversionFailed, converted.2)
    | .ok (some held) =>
      let called := invokeCallable C callable 0 sig held converted.2
      (called.1.bind (toReturned C sig.result), called.2)

/-- `export_callable_binder::operator()`, for as many arguments as the signature declares -/
def callOperator (callable : C.Callable) (sig : Signature C.Ty) (movedFrom : Dynamic → Dynamic)
    (args : List (CallerArgument Dynamic)) (foreign : C.Foreign) :
    DirectCall C (Returned C sig.result) :=
  let tuple := args.map CallerArgument.component
  let run := invokeConverted C callable sig ⟨⟨tuple, foreign⟩, []⟩
  ⟨run.1, run.2, args.map (CallerArgument.left movedFrom)⟩

/-- `export_callable_binder::dispatch_optional` -/
def dispatchOptional (callable : C.Callable) (sig : Signature C.Ty) (argc : ℕ)
    (accessor : Accessor) (t : Trace C) : Except Raised (Option Dynamic) × Trace C :=
  exportOverloadDispatch C callable argc accessor 0 [.free sig] t

/-- `export_callable_binder::call_optional` -/
def callOptional (callable : C.Callable) (sig : Signature C.Ty) (movedFrom : Dynamic → Dynamic)
    (args : List (CallerArgument Dynamic)) (foreign : C.Foreign) :
    DirectCall C (Option Dynamic) :=
  let tuple := args.map CallerArgument.component
  let run := exportOverloadDispatch C callable args.length (tupleAccessor args.length) 0
    [.free sig] ⟨⟨tuple, foreign⟩, []⟩
  ⟨run.1, run.2, args.map (CallerArgument.left movedFrom)⟩

end Binder

/-! ## One candidate -/

section Candidate

variable {C : ExportContext Dynamic}

/-- Over a single signature, a dispatch of as many arguments as it declares is its candidate. -/
lemma dispatchOptional_of_arity (callable : C.Callable) {sig : Signature C.Ty} {argc : ℕ}
    {accessor : Accessor} (hlen : argc = sig.params.length)
    (haccess : accessor.canAccess argc = true) (t : Trace C) :
    dispatchOptional C callable sig argc accessor t =
      exportOverloadCandidate C callable accessor 0 sig t := by
  have hguard : (accessor.canAccess sig.params.length && argc == sig.params.length) = true := by
    rw [← hlen, haccess, beq_self_eq_true, Bool.and_self]
  rw [dispatchOptional, exportOverloadDispatch, if_pos hguard]
  rcases exportOverloadCandidate C callable accessor 0 sig t with ⟨_ | _ | _, t'⟩ <;> rfl

/-- With any other number of arguments nothing happens. -/
lemma dispatchOptional_of_ne (callable : C.Callable) {sig : Signature C.Ty} {argc : ℕ}
    (hlen : argc ≠ sig.params.length) (accessor : Accessor) (t : Trace C) :
    dispatchOptional C callable sig argc accessor t = (.ok none, t) := by
  have hguard : ¬(accessor.canAccess sig.params.length && argc == sig.params.length) = true := by
    rw [Bool.and_eq_true, beq_iff_eq]
    exact fun h => hlen h.2
  rw [dispatchOptional, exportOverloadDispatch, if_neg hguard]
  rfl

/-- The exported result is the value of what `operator()` returns. -/
lemma toExportResult_eq (result : Option C.Ty) (native : C.Result result) :
    C.toExportResult result native =
      (toReturned C result native).map (returnedValue C result) := by
  cases result with
  | none => rfl
  | some ty =>
    change C.toRvalue ty native = (C.toRvalue ty native).map id
    cases C.toRvalue ty native <;> rfl

/-- `operator()` as the others see it: it raises where they return empty, and returns what they
hold. -/
def asOptional (result : Option C.Ty) :
    Except Raised (Returned C result) → Except Raised (Option Dynamic) :=
  Except.map fun returned => some (returnedValue C result returned)

lemma asOptional_ne_none {result : Option C.Ty} (returned : Except Raised (Returned C result)) :
    asOptional result returned ≠ .ok none := by
  cases returned with
  | error e => simp [asOptional, Except.map]
  | ok value => simp [asOptional, Except.map]

/-- A return is determined by its dynamic value. -/
lemma asOptional_eq_ok {result : Option C.Ty} {run : Except Raised (Returned C result)}
    {returned : Returned C result} :
    asOptional result run = .ok (some (returnedValue C result returned)) ↔ run = .ok returned := by
  constructor
  · intro h
    cases run with
    | error e => cases h
    | ok value =>
      have hvalue : returnedValue C result value = returnedValue C result returned := by
        simpa [asOptional, Except.map] using h
      cases result with
      | none => rfl
      | some ty => exact congrArg Except.ok hvalue
  · rintro rfl
    rfl

lemma asOptional_eq_error {result : Option C.Ty} {run : Except Raised (Returned C result)}
    {e : Raised} : asOptional result run = .error e ↔ run = .error e := by
  cases run with
  | error e' => simp [asOptional, Except.map]
  | ok value => simp [asOptional, Except.map]

/-- A call of the callable ends alike for `operator()` and for the others. -/
lemma asOptional_bind (result : Option C.Ty) (called : Except Raised (C.Result result)) :
    asOptional result (called.bind (toReturned C result)) =
      called.bind fun native => (C.toExportResult result native).map some := by
  cases called with
  | error e => rfl
  | ok native =>
    change asOptional result (toReturned C result native) =
      (C.toExportResult result native).map some
    rw [toExportResult_eq]
    cases toReturned C result native <;> rfl

/-- `invoke_converted` makes the same trace as the candidate.  Where the candidate returns empty it
raises an error of its own; else they end alike. -/
theorem invokeConverted_eq (callable : C.Callable) (sig : Signature C.Ty) (t : Trace C) :
    let direct := invokeConverted C callable sig t
    let candidate := exportOverloadCandidate C callable (tupleAccessor sig.params.length) 0 sig t
    direct.2 = candidate.2 ∧
    (candidate.1 = .ok none ∧ direct.1 = .error conversionFailed ∨
      asOptional sig.result direct.1 = candidate.1) := by
  dsimp only
  rw [invokeConverted, exportOverloadCandidate]
  dsimp only
  split
  · exact ⟨rfl, .inl ⟨rfl, rfl⟩⟩
  · cases acceptedExportArguments C (convertArguments C (tupleAccessor sig.params.length) 0
      (prepareArguments C 0 sig.types 0 t).1 0 (planProbe C 0 (prepareArguments C 0 sig.types 0 t).1
        (prepareArguments C 0 sig.types 0 t).2).2).1 with
    | error e => exact ⟨rfl, .inr rfl⟩
    | ok held =>
      cases held with
      | none => exact ⟨rfl, .inl ⟨rfl, rfl⟩⟩
      | some held => exact ⟨rfl, .inr (asOptional_bind sig.result _)⟩

end Candidate

/-! ## Accessors -/

section Accessors

/-- Scalar converters that read a constant like a mutable value: from equal slots, and in equal
foreign states, they make the same. -/
structure ExportContext.ReadsAlike (C : ExportContext Dynamic) : Prop extends C.KeepsLater where
  made : ∀ ty mutableRef mutableRef' index w w', C.prepares ty = false →
    slot C w index = slot C w' index → w.foreign = w'.foreign →
    (C.tryMake ty mutableRef index w).1 = (C.tryMake ty mutableRef' index w').1 ∧
    (C.tryMake ty mutableRef index w).2.foreign = (C.tryMake ty mutableRef' index w').2.foreign

variable {C : ExportContext Dynamic}

/-- What a run shows: how it ends, what it has done, and the foreign state, but not the slots. -/
def observed {α : Type} (run : α × Trace C) : α × List (Event C) × C.Foreign :=
  (run.1, run.2.log, run.2.world.foreign)

/-- The traces differ at most in the slots of earlier arguments. -/
structure AgreeFrom (index : ℕ) (t t' : Trace C) : Prop where
  log_eq : t.log = t'.log
  foreign_eq : t.world.foreign = t'.world.foreign
  slot_eq : ∀ j, index ≤ j → slot C t.world j = slot C t'.world j

/-- A conversion of an argument through two accessors makes the same, and its traces agree on the
arguments after it. -/
lemma ExportContext.ReadsAlike.agreeFrom_succ (hC : C.ReadsAlike) {ty : C.Ty}
    (hprep : C.prepares ty = false) (mutableRef mutableRef' : Bool) {index : ℕ} {t t' : Trace C}
    (h : AgreeFrom index t t') (e : Event C) :
    (C.tryMake ty mutableRef index t.world).1 = (C.tryMake ty mutableRef' index t'.world).1 ∧
    AgreeFrom (index + 1) ⟨(C.tryMake ty mutableRef index t.world).2, t.log ++ [e]⟩
      ⟨(C.tryMake ty mutableRef' index t'.world).2, t'.log ++ [e]⟩ := by
  obtain ⟨hmade, hforeign⟩ := hC.made ty mutableRef mutableRef' index t.world t'.world hprep
    (h.slot_eq index (le_refl index)) h.foreign_eq
  refine ⟨hmade, congrArg (· ++ [e]) h.log_eq, hforeign, fun j hj => ?_⟩
  calc slot C (C.tryMake ty mutableRef index t.world).2 j
    _ = slot C t.world j := hC.keeps ty mutableRef index t.world j hprep hj
    _ = slot C t'.world j := h.slot_eq j (Nat.le_of_succ_le hj)
    _ = slot C (C.tryMake ty mutableRef' index t'.world).2 j :=
      (hC.keeps ty mutableRef' index t'.world j hprep hj).symm

/-- With such converters, what is converted does not depend on the accessor. -/
lemma ExportContext.ReadsAlike.observed_convertArguments (hC : C.ReadsAlike)
    (accessor accessor' : Accessor) (candidate : ℕ) {tys : List C.Ty} (plan : C.Optionals tys)
    {index : ℕ} {t t' : Trace C} (h : AgreeFrom index t t') :
    observed (convertArguments C accessor candidate plan index t) =
      observed (convertArguments C accessor' candidate plan index t') := by
  induction tys generalizing index t t' with
  | nil =>
    cases plan
    rw [observed, observed, convertArguments, convertArguments, h.log_eq, h.foreign_eq]
  | cons ty tys ih =>
    cases plan with
    | cons prepared plan =>
      cases hprep : C.prepares ty with
      | true =>
        have hrest := ih plan ⟨h.log_eq, h.foreign_eq,
          fun j hj => h.slot_eq j (Nat.le_of_succ_le hj)⟩
        rw [convertArguments_of_prepares hprep, convertArguments_of_prepares hprep]
        rw [observed, observed, Prod.mk.injEq] at hrest ⊢
        exact ⟨congrArg (Tuple.cons prepared) hrest.1, hrest.2⟩
      | false =>
        obtain ⟨hmade, hagree⟩ := hC.agreeFrom_succ hprep accessor.consuming accessor'.consuming h
          (.convert candidate index)
        have hrest := ih plan hagree
        rw [convertArguments_of_not_prepares hprep, convertArguments_of_not_prepares hprep]
        rw [observed, observed, Prod.mk.injEq] at hrest ⊢
        exact ⟨congrArg₂ Tuple.cons hmade hrest.1, hrest.2⟩

/-- An accessor matters by what its references are only. -/
lemma convertArguments_congr {accessor accessor' : Accessor}
    (h : accessor.consuming = accessor'.consuming) (candidate : ℕ) {tys : List C.Ty}
    (plan : C.Optionals tys) (index : ℕ) (t : Trace C) :
    convertArguments C accessor candidate plan index t =
      convertArguments C accessor' candidate plan index t := by
  induction tys generalizing index t with
  | nil =>
    cases plan
    rfl
  | cons ty tys ih =>
    cases plan with
    | cons prepared plan =>
      rw [convertArguments, convertArguments, h]
      simp only [ih]

/-- A candidate ends alike through two accessors of the same kind, and through any two accessors
when the converters read a constant like a mutable value. -/
theorem observed_exportOverloadCandidate {accessor accessor' : Accessor}
    (h : accessor.consuming = accessor'.consuming ∨ C.ReadsAlike) (callable : C.Callable)
    (candidate : ℕ) (sig : Signature C.Ty) (t : Trace C) :
    observed (exportOverloadCandidate C callable accessor candidate sig t) =
      observed (exportOverloadCandidate C callable accessor' candidate sig t) := by
  have hconverted : ∀ (plan : C.Optionals sig.types) (u : Trace C),
      observed (convertArguments C accessor candidate plan 0 u) =
        observed (convertArguments C accessor' candidate plan 0 u) := fun plan u => by
    rcases h with hsame | hC
    · rw [convertArguments_congr hsame]
    · exact hC.observed_convertArguments accessor accessor' candidate plan
        ⟨rfl, rfl, fun _ _ => rfl⟩
  rw [exportOverloadCandidate, exportOverloadCandidate]
  dsimp only
  split
  · rfl
  · specialize hconverted (prepareArguments C candidate sig.types 0 t).1
      (planProbe C candidate (prepareArguments C candidate sig.types 0 t).1
        (prepareArguments C candidate sig.types 0 t).2).2
    revert hconverted
    rcases convertArguments C accessor candidate _ 0 _ with ⟨converted, ⟨args, foreign⟩, log⟩
    rcases convertArguments C accessor' candidate _ 0 _ with ⟨converted', ⟨args', foreign'⟩, log'⟩
    intro hconverted
    cases hconverted
    -- what follows does not look at the slots
    dsimp only
    rcases acceptedExportArguments C converted with e | _ | held
    · rfl
    · rfl
    · unfold observed invokeCallable
      dsimp only
      cases getArguments C foreign held with
      | error e => rfl
      | ok arguments => rfl

/-- The lawful converters of a backend read a constant like a mutable value in its contexts. -/
lemma readsAlike_contextOver {B : Backend Dynamic} (hopted : B.usesRpcExportProbe = true)
    (D : Descriptors Dynamic) (hB : B.Lawful) : (contextOver B D).ReadsAlike where
  toKeepsLater := keepsLater_contextOver hopted D
  made ty mutableRef mutableRef' index w w' hprep hslot hforeign := by
    cases ty with
    | inl ty =>
      change w.args.getD index B.undefined = w'.args.getD index B.undefined at hslot
      change (fromOptional B ⟨mutableRef, none⟩ ty _).1 =
        (fromOptional B ⟨mutableRef', none⟩ ty _).1 ∧ _
      rw [hB.fromOptional_eq, hB.fromOptional_eq, hslot]
      exact ⟨rfl, hforeign⟩
    | inr d =>
      have hprepares := prepares_contextOver hopted D d
      rw [hprep] at hprepares
      cases hprepares

end Accessors

/-! ## The entry points -/

/-- The entry points of a binder agree.  For arguments of the declared length, `call_optional` ends
like `dispatch_optional` over an accessor to mutable references, and over one to constants if the
converters read them alike; and `operator()` does what they do.  It returns when they hold a value,
raises an error of its own when they are empty, and raises what they raise.  With any other number
of arguments `dispatch_optional` does nothing.  The lvalues of the caller are unchanged. -/
theorem entryPoints_agree {C : ExportContext Dynamic} {accessor : Accessor}
    (hreads : accessor.consuming = true ∨ C.ReadsAlike) (callable : C.Callable)
    (sig : Signature C.Ty) (movedFrom : Dynamic → Dynamic) (args : List (CallerArgument Dynamic))
    (hlen : args.length = sig.params.length) (haccess : accessor.canAccess args.length = true)
    (foreign : C.Foreign) :
    let direct := callOperator C callable sig movedFrom args foreign
    let optional := callOptional C callable sig movedFrom args foreign
    let dispatched := dispatchOptional C callable sig args.length accessor
      ⟨⟨args.map CallerArgument.component, foreign⟩, []⟩
    observed dispatched = observed (optional.result, optional.trace) ∧
    direct.trace = optional.trace ∧
    (∀ returned, direct.result = .ok returned ↔
      optional.result = .ok (some (returnedValue C sig.result returned))) ∧
    (optional.result = .ok none → direct.result = .error conversionFailed) ∧
    (∀ e, optional.result = .error e → direct.result = .error e) ∧
    (∀ argc t, argc ≠ sig.params.length →
      dispatchOptional C callable sig argc accessor t = (.ok none, t)) ∧
    ∀ (i : ℕ) value, args[i]? = some (.lvalue value) →
      direct.caller[i]? = some value ∧ optional.caller[i]? = some value := by
  intro direct optional dispatched
  have htuple : (tupleAccessor args.length).canAccess args.length = true :=
    decide_eq_true (le_refl args.length)
  have hoptional : (optional.result, optional.trace) = exportOverloadCandidate C callable
      (tupleAccessor args.length) 0 sig ⟨⟨args.map CallerArgument.component, foreign⟩, []⟩ :=
    dispatchOptional_of_arity callable hlen htuple _
  have hdispatched : dispatched = exportOverloadCandidate C callable accessor 0 sig
      ⟨⟨args.map CallerArgument.component, foreign⟩, []⟩ :=
    dispatchOptional_of_arity callable hlen haccess _
  obtain ⟨htrace, hends⟩ := invokeConverted_eq callable sig
    ⟨⟨args.map CallerArgument.component, foreign⟩, []⟩
  rw [← hlen, ← hoptional] at htrace hends
  change direct.trace = optional.trace at htrace
  change optional.result = .ok none ∧ direct.result = .error conversionFailed ∨
    asOptional sig.result direct.result = optional.result at hends
  refine ⟨?_, htrace, ?_, ?_, ?_, fun argc t hne => dispatchOptional_of_ne callable hne accessor t,
    fun i value hvalue => ?_⟩
  · rw [hdispatched, hoptional]
    exact observed_exportOverloadCandidate hreads callable 0 sig _
  · intro returned
    rcases hends with ⟨hnone, hraise⟩ | hends
    · rw [hnone, hraise]
      simp
    · rw [← hends]
      exact asOptional_eq_ok.symm
  · intro hnone
    rcases hends with ⟨-, hraise⟩ | hends
    · exact hraise
    · exact absurd (hends.trans hnone) (asOptional_ne_none _)
  · intro e herror
    rcases hends with ⟨hnone, -⟩ | hends
    · rw [hnone] at herror
      cases herror
    · exact asOptional_eq_error.mp (hends.trans herror)
  · have hleft : (args.map (CallerArgument.left movedFrom))[i]? = some value := by
      rw [List.getElem?_map, hvalue]
      rfl
    exact ⟨hleft, hleft⟩

/-! ## Numbers -/

/-- Numbers on an opted-in backend, whose converter adds a bias to a constant. -/
def numberContext (bias : ℕ) : ProbingContext ℕ where
  Ty := Unit
  isBridgeDescriptor _ := false
  Held _ := ℕ
  CppType _ := ℕ
  Native _ := ℕ
  Foreign := Unit
  probe _ _ := true
  tryMake _ mutableRef index w :=
    (some (if mutableRef then w.args.getD index 0 else w.args.getD index 0 + bias), w)
  get _ number _ := .ok number
  toRvalue _ number := .ok number
  undefined := 0
  usesRpcExportProbe := true
  opted := rfl

/-- Without a bias, a constant is read like a mutable value. -/
lemma readsAlike_numberContext : (numberContext 0).ReadsAlike where
  keeps _ _ _ _ _ _ _ := rfl
  made ty mutableRef mutableRef' index w w' _ hslot hforeign := by
    have hmade : ∀ (mutableRef : Bool) (w : World ℕ Unit),
        ((numberContext 0).tryMake ty mutableRef index w).1 =
          some (slot (numberContext 0).toExportContext w index) := fun mutableRef w => by
      cases mutableRef <;> rfl
    exact ⟨(hmade mutableRef w).trans ((congrArg some hslot).trans (hmade mutableRef' w').symm),
      hforeign⟩

/-- The first of the arguments. -/
def firstNumber (bias : ℕ) : (numberContext bias).Callable
  | ⟨_, none⟩, _, foreign => (.ok (), foreign)
  | ⟨[], some _⟩, _, foreign => (.ok (0 : ℕ), foreign)
  | ⟨_ :: _, some _⟩, .cons number _, foreign => (.ok number, foreign)

/-- A binder of one number, which a constant accessor hands to `dispatch_optional`. -/
theorem entryPoints_agree_constant :
    let sig : Signature Unit := ⟨[⟨.constRef, ()⟩], some ()⟩
    (callOperator (numberContext 0).toExportContext (firstNumber 0) sig id [.lvalue 7] ()).result =
      .ok (7 : ℕ) ∧
    (callOptional (numberContext 0).toExportContext (firstNumber 0) sig id [.lvalue 7] ()).result =
      .ok (some 7) ∧
    (dispatchOptional (numberContext 0).toExportContext (firstNumber 0) sig 1 ⟨false, none⟩
      ⟨⟨[7], ()⟩, []⟩).1 = .ok (some 7) := by
  intro sig
  obtain ⟨hobserved, -, hreturns, -⟩ := @entryPoints_agree ℕ (numberContext 0).toExportContext
    ⟨false, none⟩ (.inr readsAlike_numberContext) (firstNumber 0) sig id [.lvalue 7] rfl rfl ()
  have hoptional : (callOptional (numberContext 0).toExportContext (firstNumber 0) sig id
      [.lvalue 7] ()).result = .ok (some 7) := rfl
  exact ⟨(hreturns (7 : ℕ)).mpr hoptional, hoptional, (congrArg Prod.fst hobserved).trans hoptional⟩

/-- A callable that raises `bad_conversion` itself makes `operator()` raise it although the others
do not return empty; and with a converter that reads a constant in another way than a mutable value,
`dispatch_optional` over an accessor to constants holds another value. -/
theorem entryPoints_differ :
    let sig : Signature Unit := ⟨[⟨.value, ()⟩], some ()⟩
    let raising : (numberContext 0).Callable := fun _ _ foreign =>
      (.error (.badConversion (ascii "out of range")), foreign)
    ((callOperator (numberContext 0).toExportContext raising sig id [.lvalue 7] ()).result =
        .error (.badConversion (ascii "out of range")) ∧
      (callOptional (numberContext 0).toExportContext raising sig id [.lvalue 7] ()).result ≠
        .ok none ∧
      (dispatchOptional (numberContext 0).toExportContext raising sig 1 consumingVectorAccessor
        ⟨⟨[7], ()⟩, []⟩).1 ≠ .ok none) ∧
    (callOperator (numberContext 1).toExportContext (firstNumber 1) sig id [.lvalue 7] ()).result =
        .ok (7 : ℕ) ∧
      (dispatchOptional (numberContext 1).toExportContext (firstNumber 1) sig 1 ⟨false, none⟩
        ⟨⟨[7], ()⟩, []⟩).1 = .ok (some 8) := by
  refine ⟨⟨rfl, fun h => ?_, fun h => ?_⟩, rfl, rfl⟩
  · cases h
  · cases h


end Dynabridge.Export.ArgumentPlan
