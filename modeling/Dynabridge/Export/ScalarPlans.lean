import Dynabridge.Export.ArgumentPlan

/-!
# Scalar plans

Without descriptors an argument plan is what `Dynabridge.Export.OverloadDispatch` models directly:
`exportOverloadDispatch_scalarContext` translates a dispatch over a backend to the dispatch of its
plans, in every argument list and through every accessor.
-/

namespace Dynabridge.Export.ArgumentPlan

variable {Dynamic : Type}

/-- The context of a backend whose arguments are all scalars. -/
@[reducible] def scalarContext (B : Backend Dynamic) : ExportContext Dynamic where
  Ty := B.Ty
  isBridgeDescriptor _ := false
  Held := B.Native
  CppType := B.Native
  Native := B.Native
  Foreign := Unit
  probe := B.probe
  tryMake ty mutableRef index w :=
    let made := fromOptional B ⟨mutableRef, none⟩ ty (w.args.getD index B.undefined)
    (made.1, { w with args := w.args.set index made.2 })
  get _ native _ := .ok native
  toRvalue ty native := .ok (B.toRvalue ty native)
  undefined := B.undefined
  usesRpcExportProbe := B.usesRpcExportProbe

section

variable (B : Backend Dynamic)

/-! ## Translation -/

/-- What a callable of the backend returns, in the context. -/
def liftResult : (result : Option B.Ty) → B.Result result → (scalarContext B).Result result
  | none, result => result
  | some _, result => result

/-- A callable of the backend, in the context. -/
def liftCallable (callable : B.Callable) : (scalarContext B).Callable :=
  fun sig arguments foreign => ((callable sig arguments).map (liftResult B sig.result), foreign)

variable {B}

/-- An event of the backend, in the context. -/
def liftEvent : Export.Event B → Event (scalarContext B)
  | .probe candidate index seen => .probe candidate index seen
  | .convert candidate index _ => .convert candidate index
  | .invoke candidate sig arguments => .invoke candidate sig arguments
  | .rejectedAcceptedProbe candidate => .rejectedAcceptedProbe candidate

/-- A trace of the backend, in the context. -/
def liftTrace (t : Export.Trace B) : Trace (scalarContext B) :=
  ⟨⟨t.args, ()⟩, t.log.map liftEvent⟩

lemma liftTrace_record (t : Export.Trace B) (e : Export.Event B) :
    liftTrace (t.record e) = (liftTrace t).record (liftEvent e) := by
  rw [liftTrace, Export.Trace.record, List.map_append]
  rfl

lemma prepares_scalarContext (ty : B.Ty) : (scalarContext B).prepares ty = false :=
  Bool.and_false _

lemma toExportResult_scalarContext (result : Option B.Ty) (native : B.Result result) :
    (scalarContext B).toExportResult result (liftResult B result native) =
      .ok (B.toExportResult result native) := by
  cases result <;> rfl

/-! ## Plans -/

/-- Probing, whatever the plan holds. -/
lemma probeArguments_liftTrace (candidate : ℕ) {tys : List B.Ty}
    (plan : (scalarContext B).Optionals tys) (index : ℕ) (accepted : Bool) (t : Export.Trace B) :
    probeArguments (scalarContext B) candidate plan index accepted (liftTrace t) =
      ((probeExportArguments B candidate tys index accepted t).1,
        liftTrace (probeExportArguments B candidate tys index accepted t).2) := by
  induction tys generalizing index accepted t with
  | nil =>
    cases plan
    rfl
  | cons ty tys ih =>
    cases plan with
    | cons prepared plan =>
      rw [probeArguments, if_neg (ne_true_of_eq_false (prepares_scalarContext ty)),
        probeExportArguments]
      cases accepted with
      | true =>
        rw [if_pos rfl, if_pos rfl, ← ih, liftTrace_record]
        rfl
      | false =>
        rw [if_neg Bool.false_ne_true, if_neg Bool.false_ne_true]
        exact ih plan (index + 1) false t

/-- Converting, whatever the plan holds. -/
lemma convertArguments_liftTrace (accessor : Accessor) (candidate : ℕ) {tys : List B.Ty}
    (plan : (scalarContext B).Optionals tys) (index : ℕ) (t : Export.Trace B) :
    convertArguments (scalarContext B) accessor candidate plan index (liftTrace t) =
      ((convertExportArguments B accessor candidate tys index t).1,
        liftTrace (convertExportArguments B accessor candidate tys index t).2) := by
  induction tys generalizing index t with
  | nil =>
    cases plan
    rfl
  | cons ty tys ih =>
    cases plan with
    | cons prepared plan =>
      rw [convertArguments_of_not_prepares (prepares_scalarContext ty), convertExportArguments]
      have hmade : (⟨((scalarContext B).tryMake ty accessor.consuming index (liftTrace t).world).2,
          (liftTrace t).log ++ [.convert candidate index]⟩ : Trace (scalarContext B)) =
          liftTrace { t.record (.convert candidate index (t.get index)) with
            args := t.args.set index (fromOptional B accessor ty (t.get index)).2 } :=
        congrArg (Trace.mk _)
          (congrArg Trace.log (liftTrace_record t (.convert candidate index (t.get index)))).symm
      rw [hmade, ih plan (index + 1)]
      rfl

lemma allOptionals_scalarContext {tys : List B.Ty} (converted : B.Converted tys) :
    allOptionals (scalarContext B) converted = Export.allOptionals B converted := by
  induction tys with
  | nil =>
    cases converted
    rfl
  | cons ty tys ih =>
    cases converted with
    | cons native natives =>
      rw [allOptionals, Export.allOptionals, ih]

lemma acceptedExportArguments_scalarContext {tys : List B.Ty} (converted : B.Converted tys) :
    acceptedExportArguments (scalarContext B) converted =
      Export.acceptedExportArguments B converted := by
  rw [acceptedExportArguments, Export.acceptedExportArguments, allOptionals_scalarContext]
  cases Export.allOptionals B converted <;> rfl

lemma getArguments_scalarContext {tys : List B.Ty} (natives : B.Arguments tys) (foreign : Unit) :
    getArguments (scalarContext B) foreign natives = .ok natives := by
  induction tys with
  | nil =>
    cases natives
    rfl
  | cons ty tys ih =>
    cases natives with
    | cons native natives =>
      change (getArguments (scalarContext B) foreign natives).map (Tuple.cons native) = _
      rw [ih]
      rfl

/-! ## Dispatch -/

/-- A candidate of a backend is the candidate of its plan. -/
lemma exportOverloadCandidate_liftTrace (callable : B.Callable) (accessor : Accessor)
    (candidate : ℕ) (sig : Signature B.Ty) (t : Export.Trace B) :
    exportOverloadCandidate (scalarContext B) (liftCallable B callable) accessor candidate sig
        (liftTrace t) =
      ((Export.exportOverloadCandidate B callable accessor candidate sig t).1,
        liftTrace (Export.exportOverloadCandidate B callable accessor candidate sig t).2) := by
  have hprobed : planProbe (scalarContext B) candidate
      (prepareArguments (scalarContext B) candidate sig.types 0 (liftTrace t)).1 (liftTrace t) =
      ((if B.usesRpcExportProbe then probeExportArguments B candidate sig.types 0 true t
        else (true, t)).1,
      liftTrace (if B.usesRpcExportProbe then probeExportArguments B candidate sig.types 0 true t
        else (true, t)).2) := by
    rw [planProbe]
    split
    · exact probeArguments_liftTrace candidate _ 0 true t
    · rfl
  rw [exportOverloadCandidate, Export.exportOverloadCandidate,
    prepareArguments_of_not_prepares (scalarContext B) prepares_scalarContext, hprobed]
  generalize (if B.usesRpcExportProbe then probeExportArguments B candidate sig.types 0 true t
    else (true, t)) = probed
  rcases probed with ⟨_ | _, probed⟩
  · rfl
  dsimp only
  rw [convertArguments_liftTrace]
  rcases convertExportArguments B accessor candidate sig.types 0 probed with ⟨converted, left⟩
  dsimp only
  rw [Bool.not_true, if_neg Bool.false_ne_true, if_neg Bool.false_ne_true,
    acceptedExportArguments_scalarContext]
  rcases Export.acceptedExportArguments B converted with e | _ | natives
  · dsimp only
    rw [liftTrace_record]
    rfl
  · rfl
  · unfold invokeCallable
    dsimp only
    rw [getArguments_scalarContext]
    dsimp only
    rw [liftCallable]
    cases callable sig natives with
    | error e =>
      dsimp only
      rw [liftTrace_record]
      rfl
    | ok result =>
      dsimp only
      rw [liftTrace_record]
      refine Prod.ext ?_ rfl
      change ((scalarContext B).toExportResult sig.result
        (liftResult B sig.result result)).map some = _
      rw [toExportResult_scalarContext]
      rfl

/-- A dispatch over a backend is the dispatch of its plans. -/
theorem exportOverloadDispatch_scalarContext (callable : B.Callable) (argc : ℕ)
    (accessor : Accessor) (candidate : ℕ) (contracts : List (Contract B.Ty))
    (t : Export.Trace B) :
    exportOverloadDispatch (scalarContext B) (liftCallable B callable) argc accessor candidate
        contracts (liftTrace t) =
      ((Export.exportOverloadDispatch B callable argc accessor candidate contracts t).1,
        liftTrace
          (Export.exportOverloadDispatch B callable argc accessor candidate contracts t).2) := by
  induction contracts generalizing candidate t with
  | nil => rfl
  | cons contract contracts ih =>
    cases contract with
    | unmatched => exact ih (candidate + 1) t
    | free sig =>
      rw [exportOverloadDispatch, Export.exportOverloadDispatch]
      split
      · rw [exportOverloadCandidate_liftTrace]
        rcases Export.exportOverloadCandidate B callable accessor candidate sig t with
          ⟨_ | _ | _, t'⟩
        · rfl
        · exact ih (candidate + 1) t'
        · rfl
      · exact ih (candidate + 1) t

end

end Dynabridge.Export.ArgumentPlan
