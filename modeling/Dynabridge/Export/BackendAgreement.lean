import Dynabridge.Export.Trials
import Mathlib.Data.List.GetD

/-!
# Backends that convert alike

A native callable may be exported through two backends that convert and test.  Their converters
may read and change what belongs to the backend, an error indicator for instance.  When they yield
the same native values on dynamic values that stand for the same thing, dispatch through the one
makes the calls that dispatch through the other makes, and the answers stand for the same thing.

The state that the callable acts on is arbitrary; it may be the list of the calls.
-/

namespace Dynabridge.Export.ArgumentPlan

variable {Ty : Type} {Native : Ty → Type} {Dynamic Dynamic' σ : Type}

/-! ## Converters -/

/-- The converters of a backend. -/
structure Converters (Ty : Type) (Native : Ty → Type) (Dynamic : Type) where
  /-- what belongs to the backend -/
  Own : Type
  /-- `converter<T>::from` -/
  tryMake : (ty : Ty) → Dynamic → Own → Option (Native ty) × Own
  /-- `converter<T>::to` -/
  toRvalue : (ty : Ty) → Native ty → Except Raised Dynamic
  undefined : Dynamic

/-- What a native callable of a given result type returns. -/
def NativeResult (Native : Ty → Type) : Option Ty → Type
  | none => Unit
  | some ty => Native ty

/-- A native callable, which acts on a state of its own. -/
abbrev NativeCallable (Native : Ty → Type) (σ : Type) : Type :=
  (sig : Signature Ty) → Tuple Native sig.types → σ →
    Except Raised (NativeResult Native sig.result) × σ

namespace Converters

/-- The export context of a backend with these converters. -/
@[reducible] def context (c : Converters Ty Native Dynamic) (σ : Type) :
    TestingContext Dynamic where
  Ty := Ty
  isBridgeDescriptor _ := false
  Held := Native
  CppType := Native
  Native := Native
  Foreign := σ × c.Own
  probe _ _ := false
  tryMake ty _ index w :=
    let made := c.tryMake ty (w.args.getD index c.undefined) w.foreign.2
    (made.1, { w with foreign := (w.foreign.1, made.2) })
  get _ native _ := .ok native
  toRvalue := c.toRvalue
  undefined := c.undefined
  usesRpcExportProbe := false
  notOpted := rfl

variable (c : Converters Ty Native Dynamic)

/-- The result of a native callable, in the context. -/
def liftResult (σ : Type) : (result : Option Ty) → NativeResult Native result →
    (c.context σ).Result result
  | none, result => result
  | some _, result => result

/-- The native callable, in the context. -/
def lift (callable : NativeCallable Native σ) : (c.context σ).Callable :=
  fun sig arguments foreign =>
    let called := callable sig arguments foreign.1
    (called.1.map (c.liftResult σ sig.result), (called.2, foreign.2))

/-- Dispatch of a call through the backend. -/
def dispatch (callable : NativeCallable Native σ) (source : ArgumentSource)
    (contracts : List (Contract Ty)) (args : List Dynamic) (state : σ) (own : c.Own) :
    Except Raised (Option Dynamic) × Trace (c.context σ).toExportContext :=
  exportOverloadDispatch (c.context σ).toExportContext (c.lift callable) args.length
    (source.accessor contracts args.length) 0 contracts
    ⟨⟨source.slots contracts c.undefined args, (state, own)⟩, []⟩

end Converters

/-! ## Agreement -/

/-- The converters of two backends yield the same on values that stand for the same thing, and keep
what they need of the backends; native values of some kind become values that stand for the same
thing. -/
structure ConvertAlike (c : Converters Ty Native Dynamic) (c' : Converters Ty Native Dynamic')
    (Same : Dynamic → Dynamic' → Prop) (Quiet : c.Own → c'.Own → Prop)
    (Crosses : (ty : Ty) → Native ty → Prop) : Prop where
  tryMake : ∀ (ty : Ty) {v v' own own'}, Same v v' → Quiet own own' →
    (c.tryMake ty v own).1 = (c'.tryMake ty v' own').1 ∧
      Quiet (c.tryMake ty v own).2 (c'.tryMake ty v' own').2
  toRvalue : ∀ {ty native}, Crosses ty native → ∃ v v',
    c.toRvalue ty native = .ok v ∧ c'.toRvalue ty native = .ok v' ∧ Same v v'
  undefined : Same c.undefined c'.undefined

/-- Two dispatches raise the same, return empty, or answer with values that stand for the same
thing. -/
inductive AnswersAlike (Same : Dynamic → Dynamic' → Prop) :
    Except Raised (Option Dynamic) → Except Raised (Option Dynamic') → Prop
  | raises (e : Raised) : AnswersAlike Same (.error e) (.error e)
  | passes : AnswersAlike Same (.ok none) (.ok none)
  | answers {v : Dynamic} {v' : Dynamic'} (same : Same v v') :
      AnswersAlike Same (.ok (some v)) (.ok (some v'))

/-- A result that both backends can return. -/
def ResultCrosses (Crosses : (ty : Ty) → Native ty → Prop) :
    (result : Option Ty) → NativeResult Native result → Prop
  | none, _ => True
  | some ty, native => Crosses ty native

section Simulation

variable {c : Converters Ty Native Dynamic} {c' : Converters Ty Native Dynamic'}
  {Same : Dynamic → Dynamic' → Prop} {Quiet : c.Own → c'.Own → Prop}
  {Crosses : (ty : Ty) → Native ty → Prop}

/-- Two traces with slots that stand for the same things, where there is a signature for so many
arguments, and with the same state of the callable. -/
structure TracesAlike (Same : Dynamic → Dynamic' → Prop) (Quiet : c.Own → c'.Own → Prop)
    (contracts : List (Contract Ty)) (argc : ℕ) (t : Trace (c.context σ).toExportContext)
    (t' : Trace (c'.context σ).toExportContext) : Prop where
  slots : ∀ {sig : Signature Ty}, .free sig ∈ contracts → sig.params.length = argc →
    ∀ i < argc, Same (t.world.args.getD i c.undefined) (t'.world.args.getD i c'.undefined)
  state : t.world.foreign.1 = t'.world.foreign.1
  quiet : Quiet t.world.foreign.2 t'.world.foreign.2

lemma prepares_context (ty : Ty) : (c.context σ).prepares ty = false := rfl

variable (c c') in
/-- What the optionals hold does not depend on the backend. -/
lemma allOptionals_context {tys : List Ty} (converted : Tuple (fun ty => Option (Native ty)) tys) :
    allOptionals (c.context σ).toExportContext converted =
      allOptionals (c'.context σ).toExportContext converted := by
  induction tys with
  | nil =>
    cases converted
    rfl
  | cons ty tys ih =>
    cases converted with
    | cons native natives =>
      rw [allOptionals, allOptionals, ih]

lemma getArguments_context {tys : List Ty} (natives : Tuple Native tys) (foreign : σ × c.Own) :
    getArguments (c.context σ).toExportContext foreign natives = .ok natives := by
  induction tys with
  | nil =>
    cases natives
    rfl
  | cons ty tys ih =>
    cases natives with
    | cons native natives =>
      change (getArguments (c.context σ).toExportContext foreign natives).map
        (Tuple.cons native) = _
      rw [ih]
      rfl

variable {contracts : List (Contract Ty)} {argc : ℕ}
  {t : Trace (c.context σ).toExportContext} {t' : Trace (c'.context σ).toExportContext}

/-- The conversions of a candidate yield the same. -/
lemma convertArguments_alike (h : ConvertAlike c c' Same Quiet Crosses)
    {sig : Signature Ty} (hmem : .free sig ∈ contracts) (hlen : sig.params.length = argc)
    (accessor accessor' : Accessor) (k : ℕ) {tys : List Ty}
    (plan plan' : Tuple (fun ty => Option (Native ty)) tys) (index : ℕ)
    (hindex : index + tys.length ≤ argc) (ht : TracesAlike Same Quiet contracts argc t t') :
    (convertArguments (c.context σ).toExportContext accessor k plan index t).1 =
        (convertArguments (c'.context σ).toExportContext accessor' k plan' index t').1 ∧
      TracesAlike Same Quiet contracts argc
        (convertArguments (c.context σ).toExportContext accessor k plan index t).2
        (convertArguments (c'.context σ).toExportContext accessor' k plan' index t').2 := by
  induction tys generalizing index t t' with
  | nil =>
    cases plan
    cases plan'
    exact ⟨rfl, ht⟩
  | cons ty tys ih =>
    rw [List.length_cons] at hindex
    cases plan with
    | cons prepared plan =>
      cases plan' with
      | cons prepared' plan' =>
        rw [convertArguments_of_not_prepares (prepares_context ty),
          convertArguments_of_not_prepares (prepares_context ty)]
        obtain ⟨hvalue, hquiet⟩ :=
          h.tryMake ty (ht.slots hmem hlen index (by omega)) ht.quiet
        have hnext : TracesAlike Same Quiet contracts argc
            ⟨((c.context σ).tryMake ty accessor.consuming index t.world).2,
              t.log ++ [.convert k index]⟩
            ⟨((c'.context σ).tryMake ty accessor'.consuming index t'.world).2,
              t'.log ++ [.convert k index]⟩ := ⟨ht.slots, ht.state, hquiet⟩
        obtain ⟨hrest, halike⟩ := ih plan plan' (index + 1) (by omega) hnext
        exact ⟨congrArg₂ Tuple.cons hvalue hrest, halike⟩

/-- The results of the callable become values that stand for the same thing. -/
lemma toExportResult_alike (h : ConvertAlike c c' Same Quiet Crosses) (result : Option Ty)
    {native : NativeResult Native result} (hcrosses : ResultCrosses Crosses result native) :
    ∃ v v', (c.context σ).toExportResult result (c.liftResult σ result native) = .ok v ∧
      (c'.context σ).toExportResult result (c'.liftResult σ result native) = .ok v' ∧
      Same v v' := by
  cases result with
  | none => exact ⟨c.undefined, c'.undefined, rfl, rfl, h.undefined⟩
  | some ty => exact h.toRvalue hcrosses

/-- The callable returns what both backends can return. -/
def CallableCrosses (Crosses : (ty : Ty) → Native ty → Prop) (callable : NativeCallable Native σ) :
    Prop :=
  ∀ sig arguments state native, (callable sig arguments state).1 = .ok native →
    ResultCrosses Crosses sig.result native

lemma planProbe_context (k : ℕ) {tys : List Ty} (plan : Tuple (fun ty => Option (Native ty)) tys)
    (t : Trace (c.context σ).toExportContext) :
    planProbe (c.context σ).toExportContext k plan t = (true, t) := rfl

/-- What a candidate does with converted arguments. -/
lemma exportOverloadCandidate_context (callable : NativeCallable Native σ) (accessor : Accessor)
    (k : ℕ) (sig : Signature Ty) (t : Trace (c.context σ).toExportContext) :
    exportOverloadCandidate (c.context σ).toExportContext (c.lift callable) accessor k sig t =
      let converted := convertArguments (c.context σ).toExportContext accessor k
        (prepareArguments (c.context σ).toExportContext k sig.types 0 t).1 0 t
      match allOptionals (c.context σ).toExportContext converted.1 with
      | none => (.ok none, converted.2)
      | some natives =>
        let called := callable sig natives converted.2.world.foreign.1
        ((called.1.map (c.liftResult σ sig.result)).bind fun result =>
            ((c.context σ).toExportResult sig.result result).map some,
          ⟨⟨converted.2.world.args, (called.2, converted.2.world.foreign.2)⟩,
            converted.2.log ++ [.invoke k sig natives]⟩) := by
  rw [exportOverloadCandidate, prepareArguments_of_not_prepares _ prepares_context,
    planProbe_context]
  dsimp only
  rw [Bool.not_true, if_neg Bool.false_ne_true, acceptedExportArguments]
  cases allOptionals (c.context σ).toExportContext
    (convertArguments (c.context σ).toExportContext accessor k
      (prepareArguments (c.context σ).toExportContext k sig.types 0 t).1 0 t).1 with
  | none => rfl
  | some natives =>
    dsimp only
    rw [invokeCallable, getArguments_context]
    rfl

/-- A candidate answers alike. -/
lemma exportOverloadCandidate_alike (h : ConvertAlike c c' Same Quiet Crosses)
    {callable : NativeCallable Native σ} (hcallable : CallableCrosses Crosses callable)
    {sig : Signature Ty} (hmem : .free sig ∈ contracts) (hlen : sig.params.length = argc)
    (accessor accessor' : Accessor) (k : ℕ) (ht : TracesAlike Same Quiet contracts argc t t') :
    AnswersAlike Same
        (exportOverloadCandidate (c.context σ).toExportContext (c.lift callable) accessor k sig t).1
        (exportOverloadCandidate (c'.context σ).toExportContext (c'.lift callable) accessor' k sig
          t').1 ∧
      TracesAlike Same Quiet contracts argc
        (exportOverloadCandidate (c.context σ).toExportContext (c.lift callable) accessor k sig t).2
        (exportOverloadCandidate (c'.context σ).toExportContext (c'.lift callable) accessor' k sig
          t').2 := by
  have hindex : 0 + sig.types.length ≤ argc := by
    rw [Nat.zero_add, Signature.length_types, hlen]
  obtain ⟨hconverted, halike⟩ := convertArguments_alike h hmem hlen accessor accessor' k
    (prepareArguments (c.context σ).toExportContext k sig.types 0 t).1
    (prepareArguments (c'.context σ).toExportContext k sig.types 0 t').1 0 hindex ht
  rw [exportOverloadCandidate_context, exportOverloadCandidate_context]
  dsimp only
  rw [hconverted, allOptionals_context c c']
  cases allOptionals (c'.context σ).toExportContext
    (convertArguments (c'.context σ).toExportContext accessor' k
      (prepareArguments (c'.context σ).toExportContext k sig.types 0 t').1 0 t').1 with
  | none => exact ⟨.passes, halike⟩
  | some natives =>
    dsimp only
    rw [halike.state]
    refine ⟨?_, halike.slots, rfl, halike.quiet⟩
    cases hcalled : (callable sig natives _).1 with
    | error e => exact .raises e
    | ok native =>
      obtain ⟨v, v', hv, hv', hsame⟩ :=
        toExportResult_alike (σ := σ) h sig.result (hcallable _ _ _ native hcalled)
      simp only [Except.map, Except.bind, hv, hv']
      exact .answers hsame

/-- The candidates from some position on answer alike. -/
lemma exportOverloadDispatch_alike (h : ConvertAlike c c' Same Quiet Crosses)
    {callable : NativeCallable Native σ} (hcallable : CallableCrosses Crosses callable)
    (accessor accessor' : Accessor)
    (haccess : ∀ {sig : Signature Ty}, .free sig ∈ contracts → sig.params.length = argc →
      accessor.canAccess argc = true ∧ accessor'.canAccess argc = true)
    {tail : List (Contract Ty)} (htail : ∀ contract ∈ tail, contract ∈ contracts) (k : ℕ)
    (ht : TracesAlike Same Quiet contracts argc t t') :
    AnswersAlike Same
        (exportOverloadDispatch (c.context σ).toExportContext (c.lift callable) argc accessor k
          tail t).1
        (exportOverloadDispatch (c'.context σ).toExportContext (c'.lift callable) argc accessor' k
          tail t').1 ∧
      TracesAlike Same Quiet contracts argc
        (exportOverloadDispatch (c.context σ).toExportContext (c.lift callable) argc accessor k
          tail t).2
        (exportOverloadDispatch (c'.context σ).toExportContext (c'.lift callable) argc accessor' k
          tail t').2 := by
  induction tail generalizing k t t' with
  | nil => exact ⟨.passes, ht⟩
  | cons contract tail ih =>
    obtain ⟨hmem, hrest⟩ := List.forall_mem_cons.mp htail
    cases contract with
    | unmatched => exact ih hrest (k + 1) ht
    | free sig =>
      by_cases hlen : sig.params.length = argc
      · obtain ⟨hcan, hcan'⟩ := haccess hmem hlen
        have hguard :
            (accessor.canAccess sig.params.length && argc == sig.params.length) = true := by
          rw [hlen, hcan, beq_self_eq_true, Bool.and_self]
        have hguard' :
            (accessor'.canAccess sig.params.length && argc == sig.params.length) = true := by
          rw [hlen, hcan', beq_self_eq_true, Bool.and_self]
        rw [exportOverloadDispatch, exportOverloadDispatch, if_pos hguard, if_pos hguard']
        obtain ⟨hanswers, halike⟩ :=
          exportOverloadCandidate_alike h hcallable hmem hlen accessor accessor' k ht
        generalize exportOverloadCandidate (c.context σ).toExportContext (c.lift callable) accessor
          k sig t = attempt at hanswers halike ⊢
        generalize exportOverloadCandidate (c'.context σ).toExportContext (c'.lift callable)
          accessor' k sig t' = attempt' at hanswers halike ⊢
        obtain ⟨result, u⟩ := attempt
        obtain ⟨result', u'⟩ := attempt'
        dsimp only at hanswers halike
        cases hanswers with
        | raises e => exact ⟨.raises e, halike⟩
        | passes => exact ih hrest (k + 1) halike
        | answers hsame => exact ⟨.answers hsame, halike⟩
      · have hguard : ∀ accessor : Accessor,
            ¬ (accessor.canAccess sig.params.length && argc == sig.params.length) = true := by
          intro accessor hguard
          rw [Bool.and_eq_true, beq_iff_eq] at hguard
          exact hlen hguard.2.symm
        rw [exportOverloadDispatch, exportOverloadDispatch, if_neg (hguard _), if_neg (hguard _)]
        exact ih hrest (k + 1) ht

/-- A slot that a candidate reads holds its argument. -/
lemma getD_slots (source : ArgumentSource) (undefined : Dynamic) {args : List Dynamic}
    {sig : Signature Ty} (hmem : .free sig ∈ contracts) (hlen : sig.params.length = args.length)
    {i : ℕ} (hi : i < args.length) :
    (source.slots contracts undefined args).getD i undefined = args.getD i undefined := by
  cases source with
  | argv =>
    have hle := le_maxCallableArity hmem
    have htake : args.take (maxCallableArity contracts + 1) = args :=
      List.take_of_length_le (by omega)
    rw [ArgumentSource.slots, htake, List.getD_append _ _ _ _ hi]
  | tuple | vector | direct => rfl

/-- A callable that is exported through two backends whose converters agree answers alike, whatever
sources the arguments come from, and leaves its state alike. -/
theorem dispatch_alike (h : ConvertAlike c c' Same Quiet Crosses)
    {callable : NativeCallable Native σ} (hcallable : CallableCrosses Crosses callable)
    (source source' : ArgumentSource) (contracts : List (Contract Ty)) {args : List Dynamic}
    {args' : List Dynamic'} (hargs : List.Forall₂ Same args args') (state : σ) {own : c.Own}
    {own' : c'.Own} (hquiet : Quiet own own') :
    let run := c.dispatch callable source contracts args state own
    let run' := c'.dispatch callable source' contracts args' state own'
    AnswersAlike Same run.1 run'.1 ∧ run.2.world.foreign.1 = run'.2.world.foreign.1 ∧
      Quiet run.2.world.foreign.2 run'.2.world.foreign.2 := by
  intro run run'
  have hlength : args.length = args'.length := hargs.length_eq
  have hslots : ∀ {sig : Signature Ty}, .free sig ∈ contracts → sig.params.length = args.length →
      ∀ i < args.length, Same ((source.slots contracts c.undefined args).getD i c.undefined)
        ((source'.slots contracts c'.undefined args').getD i c'.undefined) := by
    intro sig hmem hlen i hi
    rw [getD_slots source c.undefined hmem hlen hi,
      getD_slots source' c'.undefined hmem (hlen.trans hlength) (hlength ▸ hi),
      List.getD_eq_getElem _ _ hi, List.getD_eq_getElem _ _ (hlength ▸ hi)]
    exact hargs.get hi (hlength ▸ hi)
  have hstart : TracesAlike Same Quiet contracts args.length
      ⟨⟨source.slots contracts c.undefined args, (state, own)⟩, []⟩
      ⟨⟨source'.slots contracts c'.undefined args', (state, own')⟩, []⟩ := ⟨hslots, rfl, hquiet⟩
  obtain ⟨hanswers, halike⟩ := exportOverloadDispatch_alike h hcallable
    (source.accessor contracts args.length) (source'.accessor contracts args.length)
    (fun hmem hlen => ⟨canAccess_accessor source hmem hlen, canAccess_accessor source' hmem hlen⟩)
    (fun _ hcontract => hcontract) 0 hstart
  have hrun' : run' = exportOverloadDispatch (c'.context σ).toExportContext (c'.lift callable)
      args.length (source'.accessor contracts args.length) 0 contracts
      ⟨⟨source'.slots contracts c'.undefined args', (state, own')⟩, []⟩ := by
    rw [hlength]
    rfl
  rw [hrun']
  exact ⟨hanswers, halike.state, halike.quiet⟩

end Simulation

end Dynabridge.Export.ArgumentPlan
