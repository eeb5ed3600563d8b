import Dynabridge.Export.ArgumentPlan

/-!
# Rounds of an opted-in dispatch

On a backend that opts into the RPC probe policy, a candidate that is tried makes a round: the
handles of its descriptors are prepared, then its scalars are probed as the preparations have left
them, and only if all of them accept, its scalars are converted and the callable is called with
the prepared handles.  `exportOverloadDispatch_rounds` describes every dispatch by its rounds.
-/

namespace Dynabridge.Export.ArgumentPlan

open OrderedSearch

variable {Dynamic : Type}

/-! ## Calls -/

section Call

variable (C : ExportContext Dynamic)

/-- How a call of the callable with what the arguments hold ends, after the events `before`: an
extraction raises, or the callable is invoked once, with what the extractions yield. -/
def Called (callable : C.Callable) (candidate : ℕ) (sig : Signature C.Ty)
    (held : Tuple C.Held sig.types) (before : List (Event C))
    (run : Except Raised (Option Dynamic) × Trace C) : Prop :=
  (∃ foreign e, getArguments C foreign held = .error e ∧ run.1 = .error e ∧ run.2.log = before) ∨
  ∃ foreign arguments, getArguments C foreign held = .ok arguments ∧
    run.1 = ((callable sig arguments foreign).1.bind fun result =>
      (C.toExportResult sig.result result).map some) ∧
    run.2.log = before ++ [.invoke candidate sig arguments]

lemma Called.ne_none {callable : C.Callable} {candidate : ℕ} {sig : Signature C.Ty}
    {held : Tuple C.Held sig.types} {before : List (Event C)}
    {run : Except Raised (Option Dynamic) × Trace C}
    (h : Called C callable candidate sig held before run) : run.1 ≠ .ok none := by
  rcases h with ⟨foreign, e, -, hrun, -⟩ | ⟨foreign, arguments, -, hrun, -⟩
  · rw [hrun]
    simp
  · rw [hrun]
    cases (callable sig arguments foreign).1 with
    | error e => simp [Except.bind]
    | ok result =>
      change (C.toExportResult sig.result result).map some ≠ .ok none
      cases C.toExportResult sig.result result with
      | error e => simp [Except.map]
      | ok value => simp [Except.map]

/-- The call at the end of a candidate. -/
lemma called_invokeCallable (callable : C.Callable) (candidate : ℕ) (sig : Signature C.Ty)
    (held : Tuple C.Held sig.types) (t : Trace C) :
    Called C callable candidate sig held t.log
      ((invokeCallable C callable candidate sig held t).1.bind fun result =>
          (C.toExportResult sig.result result).map some,
        (invokeCallable C callable candidate sig held t).2) := by
  unfold invokeCallable
  cases hget : getArguments C t.world.foreign held with
  | error e => exact .inl ⟨t.world.foreign, e, hget, rfl, rfl⟩
  | ok arguments => exact .inr ⟨t.world.foreign, arguments, hget, rfl, rfl⟩

end Call

/-! ## Rounds -/

/-- What is left by the preparations of a candidate that is tried, and how many of its scalars
are probed. -/
structure Round (C : ExportContext Dynamic) where
  candidate : ℕ
  sig : Signature C.Ty
  /-- the handles -/
  plan : C.Optionals sig.types
  /-- the world after the preparations -/
  world : World Dynamic C.Foreign
  probed : ℕ

namespace Round

variable {C : ExportContext Dynamic}

/-- The arguments that are prepared. -/
def descriptors (r : Round C) : List ℕ := positions C.prepares r.sig.types 0

/-- The arguments that are probed and converted. -/
def scalars (r : Round C) : List ℕ := positions (fun ty => !C.prepares ty) r.sig.types 0

/-- Each descriptor is prepared, and then scalars are probed as the preparations left them. -/
def events (r : Round C) : List (Event C) :=
  r.descriptors.map (.prepare r.candidate) ++
    (r.scalars.take r.probed).map fun i => .probe r.candidate i (slot C r.world i)

/-- Every handle is there, and every scalar is accepted as the preparations left it. -/
def accepted (r : Round C) : Bool :=
  handlesPresent C r.plan && scalarsAccept C r.world r.sig.types 0

/-- Every descriptor is prepared, and none is prepared twice. -/
lemma descriptors_spec (C : ProbingContext Dynamic) (r : Round C.toExportContext) :
    r.descriptors.Nodup ∧ ∀ i, i ∈ r.descriptors ↔
      ∃ ty, r.sig.types[i]? = some ty ∧ C.isBridgeDescriptor ty = true := by
  refine ⟨(pairwise_positions r.sig.types 0).imp Nat.ne_of_lt, fun i => ?_⟩
  have hprepares : C.prepares = C.isBridgeDescriptor := by
    funext ty
    rw [ExportContext.prepares, C.opted, Bool.true_and]
  rw [descriptors, mem_positions, hprepares]

/-- The handles and the world are those that the preparations of the candidate leave. -/
def Prepared (r : Round C) : Prop :=
  ∃ t, (prepareArguments C r.candidate r.sig.types 0 t).1 = r.plan ∧
    (prepareArguments C r.candidate r.sig.types 0 t).2.world = r.world

/-- How an accepted candidate ends, after the events `before`: a converter rejects what its probe
accepted, or the callable is called with the prepared handles. -/
def Committed (callable : C.Callable) (accessor : Accessor) (r : Round C)
    (before : List (Event C)) (run : Except Raised (Option Dynamic) × Trace C) : Prop :=
  ((∃ log, allOptionals C
      (convertArguments C accessor r.candidate r.plan 0 ⟨r.world, log⟩).1 = none) ∧
    run.1 = .error (.badConversion
      (ascii "dynabridge export argument rejected an accepted probe")) ∧
    run.2.log = before ++ [.rejectedAcceptedProbe r.candidate]) ∨
  ∃ held, KeepsHandles C r.plan held ∧ Called C callable r.candidate r.sig held before run

lemma Committed.ne_none {callable : C.Callable} {accessor : Accessor} {r : Round C}
    {before : List (Event C)} {run : Except Raised (Option Dynamic) × Trace C}
    (h : r.Committed callable accessor before run) : run.1 ≠ .ok none := by
  rcases h with ⟨-, hrun, -⟩ | ⟨held, -, hcalled⟩
  · rw [hrun]
    simp
  · exact hcalled.ne_none

end Round

section Rounds

variable (C : ProbingContext Dynamic)

/-- The round of a candidate that is tried. -/
def roundOf (candidate : ℕ) (sig : Signature C.Ty) (t : Trace C.toExportContext) (probed : ℕ) :
    Round C.toExportContext where
  candidate := candidate
  sig := sig
  plan := (prepareArguments C.toExportContext candidate sig.types 0 t).1
  world := (prepareArguments C.toExportContext candidate sig.types 0 t).2.world
  probed := probed

/-- The plan of a candidate is prepared and probed in a round. -/
lemma planProbe_roundOf (candidate : ℕ) (sig : Signature C.Ty) (t : Trace C.toExportContext) :
    ∃ n, planProbe C.toExportContext candidate
        (prepareArguments C.toExportContext candidate sig.types 0 t).1
        (prepareArguments C.toExportContext candidate sig.types 0 t).2 =
      ((roundOf C candidate sig t n).accepted, ⟨(roundOf C candidate sig t n).world,
        t.log ++ (roundOf C candidate sig t n).events⟩) := by
  obtain ⟨n, hn⟩ := probeArguments_spec C.toExportContext candidate
    (prepareArguments C.toExportContext candidate sig.types 0 t).1 0 true
    (prepareArguments C.toExportContext candidate sig.types 0 t).2
  refine ⟨n, ?_⟩
  rw [planProbe, if_pos C.opted, hn, Bool.true_and, log_prepareArguments, List.append_assoc]
  rfl

/-- Once every probe has accepted, each scalar is converted and the candidate is committed. -/
lemma committed_roundOf (callable : C.Callable) (accessor : Accessor) {candidate : ℕ}
    {sig : Signature C.Ty} {t : Trace C.toExportContext} {n : ℕ}
    {log : List (Event C.toExportContext)}
    (hprobed : planProbe C.toExportContext candidate
      (prepareArguments C.toExportContext candidate sig.types 0 t).1
      (prepareArguments C.toExportContext candidate sig.types 0 t).2 =
        (true, ⟨(roundOf C candidate sig t n).world, log⟩)) :
    (roundOf C candidate sig t n).Committed callable accessor
      (log ++ (roundOf C candidate sig t n).scalars.map (.convert candidate))
      (exportOverloadCandidate C.toExportContext callable accessor candidate sig t) := by
  rw [exportOverloadCandidate, hprobed]
  dsimp only
  rw [Bool.not_true, if_neg Bool.false_ne_true]
  have hlog := log_convertArguments C.toExportContext accessor candidate
    (prepareArguments C.toExportContext candidate sig.types 0 t).1 0
    ⟨(roundOf C candidate sig t n).world, log⟩
  rcases hconverted : convertArguments C.toExportContext accessor candidate
    (prepareArguments C.toExportContext candidate sig.types 0 t).1 0
    ⟨(roundOf C candidate sig t n).world, log⟩ with ⟨converted, left⟩
  rw [hconverted] at hlog
  dsimp only at hlog ⊢
  rw [acceptedExportArguments]
  cases hall : allOptionals C.toExportContext converted with
  | none =>
    dsimp only
    rw [if_pos C.opted]
    refine .inl ⟨⟨log, ?_⟩, rfl, ?_⟩
    · change allOptionals C.toExportContext (convertArguments C.toExportContext accessor candidate
        (prepareArguments C.toExportContext candidate sig.types 0 t).1 0 _).1 = none
      rw [hconverted]
      exact hall
    · change left.log ++ _ = _
      rw [hlog]
      rfl
  | some held =>
    have hkeeps : KeepsHandles C.toExportContext
        (prepareArguments C.toExportContext candidate sig.types 0 t).1 held := by
      refine keepsHandles_of_convertArguments C.toExportContext
        (?_ : allOptionals C.toExportContext (convertArguments C.toExportContext accessor
          candidate _ 0 ⟨(roundOf C candidate sig t n).world, log⟩).1 = some held)
      rw [hconverted]
      exact hall
    have hcalled := called_invokeCallable C.toExportContext callable candidate sig held left
    rw [hlog] at hcalled
    exact .inr ⟨held, hkeeps, hcalled⟩

/-- A candidate that is tried makes its round.  It is passed over when the round does not accept;
else each of its scalars is converted, and the candidate is committed. -/
theorem exportOverloadCandidate_round (callable : C.Callable) (accessor : Accessor)
    (candidate : ℕ) (sig : Signature C.Ty) (t : Trace C.toExportContext) :
    ∃ n, ((roundOf C candidate sig t n).accepted = false →
        exportOverloadCandidate C.toExportContext callable accessor candidate sig t =
          (.ok none, ⟨(roundOf C candidate sig t n).world,
            t.log ++ (roundOf C candidate sig t n).events⟩)) ∧
      ((roundOf C candidate sig t n).accepted = true →
        (roundOf C candidate sig t n).Committed callable accessor
          (t.log ++ (roundOf C candidate sig t n).events ++
            (roundOf C candidate sig t n).scalars.map (.convert candidate))
          (exportOverloadCandidate C.toExportContext callable accessor candidate sig t)) := by
  obtain ⟨n, hprobed⟩ := planProbe_roundOf C candidate sig t
  refine ⟨n, fun haccept => ?_, fun haccept => ?_⟩
  · rw [exportOverloadCandidate, hprobed, haccept]
    rfl
  · rw [haccept] at hprobed
    exact committed_roundOf C callable accessor hprobed

lemma prepared_roundOf (candidate : ℕ) (sig : Signature C.Ty) (t : Trace C.toExportContext)
    (n : ℕ) : (roundOf C candidate sig t n).Prepared := ⟨t, rfl, rfl⟩

/-- A candidate that passes has made a round that does not accept. -/
lemma exists_round_of_passed {callable : C.Callable} {accessor : Accessor}
    {c : ℕ × Signature C.Ty} {t m : Trace C.toExportContext}
    (h : exportOverloadCandidate C.toExportContext callable accessor c.1 c.2 t = (.ok none, m)) :
    ∃ r : Round C.toExportContext, (r.candidate, r.sig) = c ∧
      (r.Prepared ∧ r.accepted = false) ∧ m.log = t.log ++ r.events := by
  obtain ⟨n, hrejected, haccepted⟩ := exportOverloadCandidate_round C callable accessor c.1 c.2 t
  refine ⟨roundOf C c.1 c.2 t n, rfl, ?_⟩
  cases haccept : (roundOf C c.1 c.2 t n).accepted with
  | true =>
    have hne := (haccepted haccept).ne_none
    rw [h] at hne
    exact absurd rfl hne
  | false =>
    have hrun := (hrejected haccept).symm.trans h
    exact ⟨⟨prepared_roundOf C c.1 c.2 t n, rfl⟩,
      (congrArg Trace.log (congrArg Prod.snd hrun)).symm⟩

/-- A candidate that answers or raises has made a round that accepts, and is committed. -/
lemma exists_round_of_not_passed {callable : C.Callable} {accessor : Accessor}
    {c : ℕ × Signature C.Ty} {t : Trace C.toExportContext}
    (h : (exportOverloadCandidate C.toExportContext callable accessor c.1 c.2 t).1 ≠ .ok none) :
    ∃ r : Round C.toExportContext, (r.candidate, r.sig) = c ∧ r.Prepared ∧ r.accepted = true ∧
      r.Committed callable accessor (t.log ++ r.events ++ r.scalars.map (.convert r.candidate))
        (exportOverloadCandidate C.toExportContext callable accessor c.1 c.2 t) := by
  obtain ⟨n, hrejected, haccepted⟩ := exportOverloadCandidate_round C callable accessor c.1 c.2 t
  refine ⟨roundOf C c.1 c.2 t n, rfl, prepared_roundOf C c.1 c.2 t n, ?_⟩
  cases haccept : (roundOf C c.1 c.2 t n).accepted with
  | true => exact ⟨rfl, haccepted haccept⟩
  | false =>
    rw [hrejected haccept] at h
    exact absurd rfl h

/-- Every dispatch is a list of rounds, one for each candidate that is tried, in the order of
declaration.  All but the last do not accept.  If the last does not accept either, every candidate
of the arity of the arguments was tried and the dispatch returns empty; else the last candidate is
committed. -/
theorem exportOverloadDispatch_rounds (callable : C.Callable) (argc : ℕ) (accessor : Accessor)
    (contracts : List (Contract C.Ty)) (t : Trace C.toExportContext) :
    let run := exportOverloadDispatch C.toExportContext callable argc accessor 0 contracts t
    let tried := candidates C.toExportContext argc accessor 0 contracts
    ∃ rounds : List (Round C.toExportContext),
      (∀ r ∈ rounds, r.Prepared) ∧
      ((rounds.map (fun r => (r.candidate, r.sig)) = tried ∧ (∀ r ∈ rounds, r.accepted = false) ∧
        run.1 = .ok none ∧ run.2.log = t.log ++ rounds.flatMap Round.events) ∨
      ∃ earlier last, rounds = earlier ++ [last] ∧
        rounds.map (fun r => (r.candidate, r.sig)) <+: tried ∧
        (∀ r ∈ earlier, r.accepted = false) ∧ last.accepted = true ∧
        last.Committed callable accessor (t.log ++ rounds.flatMap Round.events ++
          last.scalars.map (.convert last.candidate)) run) := by
  intro run tried
  have hrun : run = search
      (fun c => exportOverloadCandidate C.toExportContext callable accessor c.1 c.2) tried t :=
    exportOverloadDispatch_eq_search C.toExportContext callable argc accessor 0 contracts t
  rw [hrun]
  rcases search_records
      (fun c => exportOverloadCandidate C.toExportContext callable accessor c.1 c.2)
      (fun r : Round C.toExportContext => (r.candidate, r.sig)) Round.events Trace.log
      (fun r => r.Prepared ∧ r.accepted = false)
      (fun r before result => r.Prepared ∧ r.accepted = true ∧
        r.Committed callable accessor (before ++ r.events ++ r.scalars.map (.convert r.candidate))
          result)
      (fun _ _ _ h => exists_round_of_passed C h) (fun _ _ h => exists_round_of_not_passed C h)
      tried t with
    ⟨rounds, hmap, hkind, hresult, hlog⟩ |
      ⟨earlier, last, hinitial, hkind, hprepared, haccepted, hcommitted⟩
  · exact ⟨rounds, fun r hr => (hkind r hr).1,
      .inl ⟨hmap, fun r hr => (hkind r hr).2, hresult, hlog⟩⟩
  · refine ⟨earlier ++ [last], fun r hr => ?_,
      .inr ⟨earlier, last, rfl, hinitial, fun r hr => (hkind r hr).2, haccepted, ?_⟩⟩
    · rcases List.mem_append.mp hr with hold | hnew
      · exact (hkind r hold).1
      · rw [List.mem_singleton.mp hnew]
        exact hprepared
    · rw [List.flatMap_append, List.flatMap_singleton, ← List.append_assoc]
      exact hcommitted

end Rounds

/-! ## Lawful scalars -/

/-- Scalar converters that leave the slots of the arguments after their own alone. -/
structure ExportContext.KeepsLater (C : ExportContext Dynamic) : Prop where
  keeps : ∀ ty mutableRef index w j, C.prepares ty = false → index < j →
    slot C (C.tryMake ty mutableRef index w).2 j = slot C w j

/-- The contract of scalar converters: they accept what their probes accept, and leave the
arguments after their own alone. -/
structure ExportContext.Lawful (C : ExportContext Dynamic) : Prop extends C.KeepsLater where
  accepts : ∀ ty mutableRef index w, C.prepares ty = false →
    C.probe ty (slot C w index) = true → (C.tryMake ty mutableRef index w).1.isSome = true

section Lawful

variable {C : ExportContext Dynamic}

/-- What the probes answer depends on the slots that they read. -/
lemma scalarsAccept_congr {w w' : World Dynamic C.Foreign} {tys : List C.Ty} {index : ℕ}
    (h : ∀ j, index ≤ j → slot C w' j = slot C w j) :
    scalarsAccept C w' tys index = scalarsAccept C w tys index := by
  induction tys generalizing index with
  | nil => rfl
  | cons ty tys ih =>
    rw [scalarsAccept, scalarsAccept, h index (le_refl index),
      ih fun j hj => h j ((Nat.le_succ index).trans hj)]

/-- Lawful converters reject nothing after every probe has accepted. -/
lemma ExportContext.Lawful.isSome_allOptionals (hC : C.Lawful) (accessor : Accessor)
    (candidate : ℕ) {tys : List C.Ty} {plan : C.Optionals tys} {index : ℕ} {t : Trace C}
    (hhandles : handlesPresent C plan = true)
    (hscalars : scalarsAccept C t.world tys index = true) :
    (allOptionals C (convertArguments C accessor candidate plan index t).1).isSome = true := by
  induction tys generalizing index t with
  | nil =>
    cases plan
    rfl
  | cons ty tys ih =>
    cases plan with
    | cons prepared plan =>
      rw [handlesPresent, Bool.and_eq_true] at hhandles
      rw [scalarsAccept, Bool.and_eq_true] at hscalars
      cases hprep : C.prepares ty with
      | true =>
        rw [hprep, Bool.not_true, Bool.false_or] at hhandles
        rw [convertArguments_of_prepares hprep, isSome_allOptionals_cons, hhandles.1, Bool.true_and]
        exact ih hhandles.2 hscalars.2
      | false =>
        rw [hprep, Bool.false_or] at hscalars
        have hmade := hC.accepts ty accessor.consuming index t.world hprep hscalars.1
        rw [convertArguments_of_not_prepares hprep, isSome_allOptionals_cons, hmade,
          Bool.true_and]
        refine ih hhandles.2 ?_
        -- the conversion has changed its own slot only, which is in front of the others
        refine (scalarsAccept_congr fun j hj => ?_).trans hscalars.2
        exact hC.keeps ty accessor.consuming index t.world j hprep hj

end Lawful

/-- With lawful scalar converters no dispatch reaches the raise for a rejected probe, whatever the
descriptors do. -/
theorem not_rejectedAcceptedProbe {C : ProbingContext Dynamic} (hC : C.toExportContext.Lawful)
    (callable : C.Callable) (argc : ℕ) (accessor : Accessor) (contracts : List (Contract C.Ty))
    (w : World Dynamic C.Foreign) (k : ℕ) :
    .rejectedAcceptedProbe k ∉ (exportOverloadDispatch C.toExportContext callable argc accessor 0
      contracts ⟨w, []⟩).2.log := by
  obtain ⟨rounds, -, hcases⟩ := exportOverloadDispatch_rounds C callable argc accessor contracts
    ⟨w, []⟩
  have hrounds : ∀ r : Round C.toExportContext, .rejectedAcceptedProbe k ∉ r.events := by
    intro r hmem
    rcases List.mem_append.mp hmem with hprepare | hprobe
    · obtain ⟨_, -, heq⟩ := List.mem_map.mp hprepare
      cases heq
    · obtain ⟨_, -, heq⟩ := List.mem_map.mp hprobe
      cases heq
  rcases hcases with ⟨-, -, -, hlog⟩ | ⟨earlier, last, -, -, -, haccepted, hcommitted⟩
  · rw [hlog]
    simp [hrounds]
  · rw [Round.accepted, Bool.and_eq_true] at haccepted
    rcases hcommitted with ⟨⟨log, hnone⟩, -⟩ | ⟨held, -, hcalled⟩
    · have hsome := hC.isSome_allOptionals accessor last.candidate (t := ⟨last.world, log⟩)
        haccepted.1 haccepted.2
      rw [hnone] at hsome
      cases hsome
    · rcases hcalled with ⟨_, _, -, -, hlog⟩ | ⟨_, _, -, -, hlog⟩
      · rw [hlog]
        simp [hrounds]
      · rw [hlog]
        simp [hrounds]

/-! ## Scalars of a backend with any descriptors -/

/-- The descriptors of a context: their handles, and how these are made and bound. -/
structure Descriptors (Dynamic : Type) where
  Descriptor : Type
  Handle : Descriptor → Type
  Bound : Descriptor → Type
  Foreign : Type
  tryMake : (d : Descriptor) → (mutableRef : Bool) → ℕ → World Dynamic Foreign →
    Option (Handle d) × World Dynamic Foreign
  get : (d : Descriptor) → Handle d → Foreign → Except Raised (Bound d)

/-- The context whose scalars are those of a backend.  A conversion replaces what its own slot
holds by what it leaves there. -/
def contextOver (B : Backend Dynamic) (D : Descriptors Dynamic) : ExportContext Dynamic where
  Ty := B.Ty ⊕ D.Descriptor
  isBridgeDescriptor := Sum.isRight
  Held := Sum.elim B.Native D.Handle
  CppType := Sum.elim B.Native D.Bound
  Native := Sum.elim B.Native fun _ => Empty
  Foreign := D.Foreign
  probe
    | .inl ty, value => B.probe ty value
    | .inr _, _ => false
  tryMake
    | .inl ty, mutableRef, index, w =>
      let made := fromOptional B ⟨mutableRef, none⟩ ty (w.args.getD index B.undefined)
      (made.1, { w with args := w.args.set index made.2 })
    | .inr d, mutableRef, index, w => D.tryMake d mutableRef index w
  get
    | .inl _, native, _ => .ok native
    | .inr d, handle, foreign => D.get d handle foreign
  toRvalue
    | .inl ty, native => .ok (B.toRvalue ty native)
    | .inr _, native => native.elim
  undefined := B.undefined
  usesRpcExportProbe := B.usesRpcExportProbe

section

variable {B : Backend Dynamic} (hopted : B.usesRpcExportProbe = true) (D : Descriptors Dynamic)
include hopted

/-- The plans of an opted-in backend prepare every descriptor. -/
lemma prepares_contextOver (d : D.Descriptor) : (contextOver B D).prepares (.inr d) = true :=
  (Bool.and_true _).trans hopted

/-- A conversion changes its own slot only. -/
lemma keepsLater_contextOver : (contextOver B D).KeepsLater where
  keeps ty mutableRef index w j hprep hlt := by
    cases ty with
    | inl ty =>
      change (w.args.set index _).getD j B.undefined = w.args.getD j B.undefined
      rw [List.getD_eq_getElem?_getD, List.getElem?_set_ne (Nat.ne_of_lt hlt),
        ← List.getD_eq_getElem?_getD]
    | inr d =>
      have hprepares := prepares_contextOver hopted D d
      rw [hprep] at hprepares
      cases hprepares

/-- The lawful converters of a backend are lawful in its contexts. -/
lemma lawful_contextOver (hB : B.Lawful) : (contextOver B D).Lawful where
  toKeepsLater := keepsLater_contextOver hopted D
  accepts ty mutableRef index w hprep hprobe := by
    cases ty with
    | inl ty =>
      change (fromOptional B ⟨mutableRef, none⟩ ty _).1.isSome = true
      rw [hB.fromOptional_eq, ← hB.probe_eq]
      exact hprobe
    | inr d =>
      have hprepares := prepares_contextOver hopted D d
      rw [hprep] at hprepares
      cases hprepares

end

end Dynabridge.Export.ArgumentPlan
