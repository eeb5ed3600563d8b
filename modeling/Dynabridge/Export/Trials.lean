import Dynabridge.Export.DescriptorPlan

/-!
# Trials of a convert-and-test dispatch

A backend that does not opt into the RPC probe policy tries a candidate by converting its
arguments, all of them, and testing the results.  `dispatch_trials` describes every dispatch over
the accessors of such backends by its trials, whatever the converters do to the world.

The N-API accessor reads from a buffer of one slot more than the largest arity, which is filled
with as many arguments as fit, while the count tells how many there are.  The check of the arity is
all that keeps the reads within it.
-/

namespace Dynabridge.Export.ArgumentPlan

open OrderedSearch

variable {Dynamic : Type}

/-! ## Sources of arguments -/

/-- `max_callable_arity`; the placeholder for an unmatched overload has arity one. -/
def maxCallableArity {Ty : Type} : List (Contract Ty) → ℕ
  | [] => 0
  | .unmatched :: tail => if 1 > maxCallableArity tail then 1 else maxCallableArity tail
  | .free sig :: tail =>
    if sig.params.length > maxCallableArity tail then sig.params.length else maxCallableArity tail

/-- Where a convert-and-test backend takes its arguments from. -/
inductive ArgumentSource
  /-- `tuple_accessor` of the Python backend -/
  | tuple
  /-- `vector_accessor` of the Python backend -/
  | vector
  /-- `argv_accessor` of the N-API backend -/
  | argv
  /-- `tuple_export_arg_accessor`, over the arguments of a direct call -/
  | direct
  deriving DecidableEq, Repr

namespace ArgumentSource

/-- How the arguments are handed out. -/
def accessor {Ty : Type} (contracts : List (Contract Ty)) (argc : ℕ) : ArgumentSource → Accessor
  | tuple | vector => ⟨false, none⟩
  | argv => ⟨false, some (maxCallableArity contracts)⟩
  | direct => ⟨true, some argc⟩

/-- The slots that the arguments are read from: the buffer that `napi_get_cb_info` fills, or the
arguments themselves. -/
def slots {Ty : Type} (contracts : List (Contract Ty)) (undefined : Dynamic)
    (args : List Dynamic) : ArgumentSource → List Dynamic
  | tuple | vector | direct => args
  | argv =>
    args.take (maxCallableArity contracts + 1) ++
      List.replicate (maxCallableArity contracts + 1 - args.length) undefined

end ArgumentSource

section

variable {Ty : Type} {contracts : List (Contract Ty)}

lemma le_maxCallableArity {sig : Signature Ty} (h : .free sig ∈ contracts) :
    sig.params.length ≤ maxCallableArity contracts := by
  induction contracts with
  | nil => cases h
  | cons contract contracts ih =>
    rcases List.mem_cons.mp h with rfl | hrest
    · rw [maxCallableArity]
      split <;> omega
    · have htail := ih hrest
      cases contract <;> rw [maxCallableArity] <;> split <;> omega

/-- Every signature of the arity of the arguments can be accessed. -/
lemma canAccess_accessor (source : ArgumentSource) {argc : ℕ} {sig : Signature Ty}
    (h : .free sig ∈ contracts) (hlen : sig.params.length = argc) :
    (source.accessor contracts argc).canAccess argc = true := by
  cases source with
  | tuple => rfl
  | vector => rfl
  | argv =>
    have hle := le_maxCallableArity h
    rw [hlen] at hle
    exact decide_eq_true hle
  | direct => exact decide_eq_true (le_refl argc)

/-- A signature of the arity of the arguments has a slot for each of its arguments. -/
lemma le_length_slots (source : ArgumentSource) (undefined : Dynamic) {args : List Dynamic}
    {sig : Signature Ty} (h : .free sig ∈ contracts) (hlen : sig.params.length = args.length) :
    args.length ≤ (source.slots contracts undefined args).length := by
  cases source with
  | argv =>
    have hle := le_maxCallableArity h
    rw [ArgumentSource.slots, List.length_append, List.length_take, List.length_replicate]
    omega
  | tuple | vector | direct => exact le_refl _

end

/-! ## Trials -/

/-- A candidate that is tried, and what its conversions yield. -/
structure Trial (C : ExportContext Dynamic) where
  candidate : ℕ
  sig : Signature C.Ty
  converted : C.Optionals sig.types

namespace Trial

variable {C : ExportContext Dynamic}

/-- Each argument is converted once. -/
def events (t : Trial C) : List (Event C) :=
  (List.range t.sig.types.length).map (.convert t.candidate)

/-- Every converter accepts. -/
def accepted (t : Trial C) : Bool := (allOptionals C t.converted).isSome

/-- The conversions yield this when the candidate is tried. -/
def Tried (accessor : Accessor) (t : Trial C) : Prop :=
  ∃ s, (convertArguments C accessor t.candidate
    (prepareArguments C t.candidate t.sig.types 0 s).1 0 s).1 = t.converted

end Trial

section Trials

variable (C : TestingContext Dynamic)

/-- The trial of a candidate. -/
def trialOf (accessor : Accessor) (candidate : ℕ) (sig : Signature C.Ty)
    (s : Trace C.toExportContext) : Trial C.toExportContext where
  candidate := candidate
  sig := sig
  converted := (convertArguments C.toExportContext accessor candidate
    (prepareArguments C.toExportContext candidate sig.types 0 s).1 0 s).1

/-- A candidate that is tried is passed over when a converter rejects; else the callable is called
with what the conversions yield. -/
theorem exportOverloadCandidate_trial (callable : C.Callable) (accessor : Accessor)
    (candidate : ℕ) (sig : Signature C.Ty) (s : Trace C.toExportContext) :
    ((trialOf C accessor candidate sig s).accepted = false →
      (exportOverloadCandidate C.toExportContext callable accessor candidate sig s).1 = .ok none ∧
      (exportOverloadCandidate C.toExportContext callable accessor candidate sig s).2.log =
        s.log ++ (trialOf C accessor candidate sig s).events) ∧
    ∀ held, allOptionals C.toExportContext (trialOf C accessor candidate sig s).converted =
        some held →
      Called C.toExportContext callable candidate sig held
        (s.log ++ (trialOf C accessor candidate sig s).events)
        (exportOverloadCandidate C.toExportContext callable accessor candidate sig s) := by
  have hprepares : ∀ ty, C.prepares ty = false := fun ty => by
    rw [ExportContext.prepares, C.notOpted, Bool.false_and]
  have hplan := prepareArguments_of_not_prepares C.toExportContext hprepares candidate sig.types 0 s
  have hprobed : ∀ (plan : C.Optionals sig.types) (u : Trace C.toExportContext),
      planProbe C.toExportContext candidate plan u = (true, u) := fun plan u => by
    rw [planProbe, if_neg (ne_true_of_eq_false C.notOpted)]
  have hlog := log_convertArguments C.toExportContext accessor candidate
    (prepareArguments C.toExportContext candidate sig.types 0 s).1 0 s
  have hall : positions (fun ty => !C.prepares ty) sig.types 0 = List.range sig.types.length := by
    have htrue : (fun ty => !C.prepares ty) = fun _ => true := funext fun ty => by
      rw [hprepares ty, Bool.not_false]
    rw [htrue, positions_true, List.range_eq_range']
  rw [hall] at hlog
  rcases hconverted : convertArguments C.toExportContext accessor candidate
    (prepareArguments C.toExportContext candidate sig.types 0 s).1 0 s with ⟨converted, left⟩
  rw [hconverted] at hlog
  have htrial : allOptionals C.toExportContext (trialOf C accessor candidate sig s).converted =
      allOptionals C.toExportContext converted :=
    congrArg (allOptionals C.toExportContext) (congrArg Prod.fst hconverted)
  rw [exportOverloadCandidate, hplan, hprobed, hconverted]
  dsimp only
  rw [Bool.not_true, if_neg Bool.false_ne_true, acceptedExportArguments, Trial.accepted]
  constructor
  · intro hreject
    have hnone : allOptionals C.toExportContext converted = none :=
      Option.not_isSome_iff_eq_none.mp (ne_true_of_eq_false (htrial ▸ hreject))
    rw [hnone]
    dsimp only
    rw [if_neg (ne_true_of_eq_false C.notOpted)]
    exact ⟨rfl, hlog⟩
  · intro held hheld
    rw [show allOptionals C.toExportContext converted = some held from htrial ▸ hheld]
    dsimp only
    have hcalled := called_invokeCallable C.toExportContext callable candidate sig held left
    rw [hlog] at hcalled
    exact hcalled

/-- A candidate that passes leaves a trial in which a converter rejects. -/
lemma exists_trial_of_passed {callable : C.Callable} {accessor : Accessor}
    {c : ℕ × Signature C.Ty} {s m : Trace C.toExportContext}
    (h : exportOverloadCandidate C.toExportContext callable accessor c.1 c.2 s = (.ok none, m)) :
    ∃ t : Trial C.toExportContext, (t.candidate, t.sig) = c ∧
      (t.Tried accessor ∧ t.accepted = false) ∧ m.log = s.log ++ t.events := by
  obtain ⟨hrejected, haccepted⟩ := exportOverloadCandidate_trial C callable accessor c.1 c.2 s
  refine ⟨trialOf C accessor c.1 c.2 s, rfl, ?_⟩
  cases hall : allOptionals C.toExportContext (trialOf C accessor c.1 c.2 s).converted with
  | some held =>
    have hne := (haccepted held hall).ne_none
    rw [h] at hne
    exact absurd rfl hne
  | none =>
    have hreject : (trialOf C accessor c.1 c.2 s).accepted = false := by
      rw [Trial.accepted, hall]
      rfl
    have hlog := (hrejected hreject).2
    rw [h] at hlog
    exact ⟨⟨⟨s, rfl⟩, hreject⟩, hlog⟩

/-- A candidate that answers or raises leaves a trial in which every converter accepts, and calls
the callable. -/
lemma exists_trial_of_not_passed {callable : C.Callable} {accessor : Accessor}
    {c : ℕ × Signature C.Ty} {s : Trace C.toExportContext}
    (h : (exportOverloadCandidate C.toExportContext callable accessor c.1 c.2 s).1 ≠ .ok none) :
    ∃ t : Trial C.toExportContext, (t.candidate, t.sig) = c ∧ t.Tried accessor ∧
      ∃ held, allOptionals C.toExportContext t.converted = some held ∧
        Called C.toExportContext callable t.candidate t.sig held (s.log ++ t.events)
          (exportOverloadCandidate C.toExportContext callable accessor c.1 c.2 s) := by
  obtain ⟨hrejected, haccepted⟩ := exportOverloadCandidate_trial C callable accessor c.1 c.2 s
  refine ⟨trialOf C accessor c.1 c.2 s, rfl, ⟨s, rfl⟩, ?_⟩
  cases hall : allOptionals C.toExportContext (trialOf C accessor c.1 c.2 s).converted with
  | some held => exact ⟨held, rfl, haccepted held hall⟩
  | none =>
    have hreject : (trialOf C accessor c.1 c.2 s).accepted = false := by
      rw [Trial.accepted, hall]
      rfl
    exact absurd (hrejected hreject).1 h

/-- Every dispatch is a list of trials, one for each candidate that is tried, in the order of
declaration.  In all but the last some converter rejects.  If one does in the last as well, every
candidate of the arity of the arguments was tried and the dispatch returns empty; else the callable
is called with what the conversions of the last have yielded. -/
theorem exportOverloadDispatch_trials (callable : C.Callable) (argc : ℕ) (accessor : Accessor)
    (contracts : List (Contract C.Ty)) (s : Trace C.toExportContext) :
    let run := exportOverloadDispatch C.toExportContext callable argc accessor 0 contracts s
    let tried := candidates C.toExportContext argc accessor 0 contracts
    ∃ trials : List (Trial C.toExportContext),
      (∀ t ∈ trials, t.Tried accessor) ∧
      ((trials.map (fun t => (t.candidate, t.sig)) = tried ∧ (∀ t ∈ trials, t.accepted = false) ∧
        run.1 = .ok none ∧ run.2.log = s.log ++ trials.flatMap Trial.events) ∨
      ∃ earlier last held, trials = earlier ++ [last] ∧
        trials.map (fun t => (t.candidate, t.sig)) <+: tried ∧
        (∀ t ∈ earlier, t.accepted = false) ∧
        allOptionals C.toExportContext last.converted = some held ∧
        Called C.toExportContext callable last.candidate last.sig held
          (s.log ++ trials.flatMap Trial.events) run) := by
  intro run tried
  have hrun : run = search
      (fun c => exportOverloadCandidate C.toExportContext callable accessor c.1 c.2) tried s :=
    exportOverloadDispatch_eq_search C.toExportContext callable argc accessor 0 contracts s
  rw [hrun]
  rcases search_records
      (fun c => exportOverloadCandidate C.toExportContext callable accessor c.1 c.2)
      (fun t : Trial C.toExportContext => (t.candidate, t.sig)) Trial.events Trace.log
      (fun t => t.Tried accessor ∧ t.accepted = false)
      (fun t before result => t.Tried accessor ∧
        ∃ held, allOptionals C.toExportContext t.converted = some held ∧
          Called C.toExportContext callable t.candidate t.sig held (before ++ t.events) result)
      (fun _ _ _ h => exists_trial_of_passed C h) (fun _ _ h => exists_trial_of_not_passed C h)
      tried s with
    ⟨trials, hmap, hkind, hresult, hlog⟩ |
      ⟨earlier, last, hinitial, hkind, htried, held, hheld, hcalled⟩
  · exact ⟨trials, fun t ht => (hkind t ht).1,
      .inl ⟨hmap, fun t ht => (hkind t ht).2, hresult, hlog⟩⟩
  · refine ⟨earlier ++ [last], fun t ht => ?_,
      .inr ⟨earlier, last, held, rfl, hinitial, fun t ht => (hkind t ht).2, hheld, ?_⟩⟩
    · rcases List.mem_append.mp ht with hold | hnew
      · exact (hkind t hold).1
      · rw [List.mem_singleton.mp hnew]
        exact htried
    · rw [List.flatMap_append, List.flatMap_singleton, ← List.append_assoc]
      exact hcalled

/-- The trials of candidates of the arity of the arguments convert no other argument. -/
lemma lt_of_mem_flatMap_events {trials : List (Trial C.toExportContext)} {argc k i : ℕ}
    (harity : ∀ t ∈ trials, t.sig.params.length = argc)
    (h : .convert k i ∈ trials.flatMap Trial.events) : i < argc := by
  obtain ⟨t, ht, he⟩ := List.mem_flatMap.mp h
  obtain ⟨j, hj, heq⟩ := List.mem_map.mp he
  cases heq
  rw [List.mem_range, Signature.length_types, harity t ht] at hj
  exact hj

/-- A call adds no conversion. -/
lemma mem_of_called {callable : C.Callable} {candidate : ℕ} {sig : Signature C.Ty}
    {held : Tuple C.Held sig.types} {before : List (Event C.toExportContext)}
    {run : Except Raised (Option Dynamic) × Trace C.toExportContext}
    (h : Called C.toExportContext callable candidate sig held before run) {k i : ℕ}
    (hmem : .convert k i ∈ run.2.log) : .convert k i ∈ before := by
  rcases h with ⟨_, _, -, -, hlog⟩ | ⟨_, _, -, -, hlog⟩
  · exact hlog ▸ hmem
  · rw [hlog] at hmem
    simpa using hmem

/-- The required form raises when the dispatch returns empty, and ends like it otherwise. -/
lemma exportOverloadRequiredDispatch_eq (callable : C.Callable) (argc : ℕ) (accessor : Accessor)
    (contracts : List (Contract C.Ty)) (s : Trace C.toExportContext) :
    exportOverloadRequiredDispatch C.toExportContext callable argc accessor contracts s =
      ((exportOverloadDispatch C.toExportContext callable argc accessor 0 contracts s).1.bind
        fun result => result.elim (.error (.badConversion
          (ascii "dynabridge export overload has no matching signature"))) .ok,
      (exportOverloadDispatch C.toExportContext callable argc accessor 0 contracts s).2) := by
  rw [exportOverloadRequiredDispatch]
  rcases exportOverloadDispatch C.toExportContext callable argc accessor 0 contracts s with
    ⟨_ | _ | _, _⟩ <;> rfl

/-- The candidates that are tried over a source are those of the arity of the arguments. -/
lemma mem_candidates_accessor (source : ArgumentSource) (contracts : List (Contract C.Ty))
    (argc k : ℕ) (sig : Signature C.Ty) :
    (k, sig) ∈ candidates C.toExportContext argc (source.accessor contracts argc) 0 contracts ↔
      contracts[k]? = some (.free sig) ∧ sig.params.length = argc := by
  refine (mem_candidates C.toExportContext).trans ⟨?_, ?_⟩
  · rintro ⟨j, hj, hdeclared, hlen, -⟩
    obtain rfl : k = j := hj.trans (Nat.zero_add j)
    exact ⟨hdeclared, hlen⟩
  · rintro ⟨hdeclared, hlen⟩
    have hmem := List.mem_of_getElem? hdeclared
    exact ⟨k, (Nat.zero_add k).symm, hdeclared, hlen, canAccess_accessor source hmem hlen⟩

/-- The trials of the candidates that are tried over a source convert what it has a slot for. -/
lemma lt_of_mem_trials {source : ArgumentSource} {contracts : List (Contract C.Ty)}
    {args : List Dynamic} {trials : List (Trial C.toExportContext)}
    (htried : trials.map (fun t => (t.candidate, t.sig)) <+:
      candidates C.toExportContext args.length (source.accessor contracts args.length) 0 contracts)
    {k i : ℕ} (h : .convert k i ∈ trials.flatMap Trial.events) :
    i < args.length ∧ i < (source.slots contracts C.undefined args).length := by
  have hof : ∀ t ∈ trials, contracts[t.candidate]? = some (.free t.sig) ∧
      t.sig.params.length = args.length := fun t ht => by
    have hmem : (t.candidate, t.sig) ∈ trials.map fun t => (t.candidate, t.sig) :=
      List.mem_map.mpr ⟨t, ht, rfl⟩
    exact (mem_candidates_accessor C source contracts args.length _ _).mp (htried.mem hmem)
  have hlt := lt_of_mem_flatMap_events C (fun t ht => (hof t ht).2) h
  obtain ⟨t, ht, -⟩ := List.mem_flatMap.mp h
  have hslots := le_length_slots source C.undefined (List.mem_of_getElem? (hof t ht).1) (hof t ht).2
  exact ⟨hlt, hlt.trans_le hslots⟩

end Trials

/-! ## Instances without a proxy -/

/-- Handles to the instances of an exported class.  A value says whether the instance has a native
proxy, which the conversion of an `object_param` does not ask for, but its extraction does. -/
def instanceContext : TestingContext Bool where
  Ty := Unit
  isBridgeDescriptor _ := true
  Held _ := Bool
  CppType _ := Unit
  Native _ := Unit
  Foreign := Unit
  probe _ _ := false
  tryMake _ _ index w := (some (w.args.getD index false), w)
  get _ bound _ :=
    if bound then .ok ()
    else .error (.badConversion (ascii "dynabridge exported object has no bound native proxy"))
  toRvalue _ _ := .ok false
  undefined := false
  usesRpcExportProbe := false
  notOpted := rfl

/-- A callable that ignores its arguments. -/
def ignoreArguments : instanceContext.Callable := fun sig _ foreign =>
  match sig.result with
  | none => (.ok (), foreign)
  | some _ => (.ok (), foreign)

end Dynabridge.Export.ArgumentPlan
