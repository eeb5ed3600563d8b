import Dynabridge.Export.OverloadDispatch

/-!
# Convert and test

A backend that does not opt into the RPC probe policy has its candidates converted, and the
results tested.  With an accessor that hands out constant values, a candidate that is rejected
leaves the arguments as they were, and dispatch computes what overload resolution is meant to
compute: `Backend.select`, the first candidate at which the arguments denote native values.

With lawful converters the probing dispatch computes the same selection from the arguments it
consumes, so the two kinds of dispatch agree.
-/

namespace Dynabridge.Export

/-- A backend that does not opt into the RPC probe policy. -/
structure TestingBackend (Dynamic : Type) extends Backend Dynamic where
  notOpted : usesRpcExportProbe = false

/-- `detail::vector_accessor` -/
def vectorAccessor : Accessor := ⟨false, none⟩

/-! ## Selection -/

section Selection

variable {Dynamic : Type} (B : Backend Dynamic)

/-- A call of the native callable: the position of the candidate, its signature, and the
arguments. -/
structure Invocation {Ty : Type} (Native : Ty → Type) where
  candidate : ℕ
  sig : Signature Ty
  arguments : Tuple Native sig.types

/-- The calls that a log records. -/
def invocations : List (Event B) → List (Invocation B.Native)
  | [] => []
  | .invoke candidate sig arguments :: log => ⟨candidate, sig, arguments⟩ :: invocations log
  | _ :: log => invocations log

/-- Overload resolution: the first candidate at which the arguments denote native values, with
the number of candidates passed over so far. -/
def Backend.select (accessor : Accessor) (args : List Dynamic) :
    ℕ → List (Contract B.Ty) → Option (Invocation B.Native)
  | _, [] => none
  | candidate, .unmatched :: tail => select accessor args (candidate + 1) tail
  | candidate, .free sig :: tail =>
    match B.denote accessor sig.types args with
    | some natives => some ⟨candidate, sig, natives⟩
    | none => select accessor args (candidate + 1) tail

/-- What a dispatch returns when it makes the selected call. -/
def Backend.answer (callable : B.Callable) :
    Option (Invocation B.Native) → Except Raised (Option Dynamic)
  | none => .ok none
  | some call =>
    (callable call.sig call.arguments).map fun result =>
      some (B.toExportResult call.sig.result result)

variable {B}

lemma Backend.answer_some (callable : B.Callable) (candidate : ℕ) (sig : Signature B.Ty)
    (natives : B.Arguments sig.types) :
    B.answer callable (some ⟨candidate, sig, natives⟩) =
      (callable sig natives).map fun result => some (B.toExportResult sig.result result) := rfl

@[simp] lemma invocations_append (log log' : List (Event B)) :
    invocations B (log ++ log') = invocations B log ++ invocations B log' := by
  induction log with
  | nil => rfl
  | cons e log ih => cases e <;> simp [invocations, ih]

/-- A log without calls records none. -/
lemma invocations_eq_nil {log : List (Event B)} (h : ∀ e ∈ log, e.isInvoke = false) :
    invocations B log = [] := by
  induction log with
  | nil => rfl
  | cons e log ih =>
    obtain ⟨he, hlog⟩ := List.forall_mem_cons.mp h
    cases e with
    | invoke candidate sig arguments => cases he
    | probe candidate index seen => exact ih hlog
    | convert candidate index seen => exact ih hlog
    | rejectedAcceptedProbe candidate => exact ih hlog

lemma invocations_conversions (candidate : ℕ) (args : List Dynamic) :
    invocations B (conversions B candidate args) = [] :=
  invocations_eq_nil fun _ he => isInvoke_of_mem_conversions he

/-- Arguments denote native values only at a parameter list of their length. -/
lemma Backend.length_of_denote {accessor : Accessor} {tys : List B.Ty} {args : List Dynamic}
    (h : (B.denote accessor tys args).isSome = true) : tys.length = args.length := by
  induction tys generalizing args with
  | nil =>
    rcases args with _ | ⟨arg, args⟩
    · rfl
    · exact absurd h Bool.false_ne_true
  | cons ty tys ih =>
    rcases args with _ | ⟨arg, args⟩
    · exact absurd h Bool.false_ne_true
    · rw [denote] at h
      obtain ⟨natives, hnatives⟩ := Option.isSome_iff_exists.mp h
      obtain ⟨native, -, hrest⟩ := Option.bind_eq_some_iff.mp hnatives
      obtain ⟨rest, hrest, -⟩ := Option.bind_eq_some_iff.mp hrest
      rw [List.length_cons, List.length_cons, ih (by rw [hrest]; rfl)]

/-- A candidate at which the arguments denote nothing is passed over. -/
lemma Backend.select_cons_of_none {accessor : Accessor} {args : List Dynamic}
    {sig : Signature B.Ty} (h : B.denote accessor sig.types args = none) (candidate : ℕ)
    (contracts : List (Contract B.Ty)) :
    B.select accessor args candidate (.free sig :: contracts) =
      B.select accessor args (candidate + 1) contracts := by
  rw [select, h]

/-- A candidate at which the arguments denote native values is selected. -/
lemma Backend.select_cons_of_some {accessor : Accessor} {args : List Dynamic}
    {sig : Signature B.Ty} {natives : B.Arguments sig.types}
    (h : B.denote accessor sig.types args = some natives) (candidate : ℕ)
    (contracts : List (Contract B.Ty)) :
    B.select accessor args candidate (.free sig :: contracts) =
      some ⟨candidate, sig, natives⟩ := by
  rw [select, h]

/-- The candidates of a longer list are tried in order. -/
lemma Backend.select_append (accessor : Accessor) (args : List Dynamic) (candidate : ℕ)
    (contracts contracts' : List (Contract B.Ty)) :
    B.select accessor args candidate (contracts ++ contracts') =
      (B.select accessor args candidate contracts).or
        (B.select accessor args (candidate + contracts.length) contracts') := by
  induction contracts generalizing candidate with
  | nil => rfl
  | cons contract contracts ih =>
    have hposition : candidate + (contract :: contracts).length =
        candidate + 1 + contracts.length := by
      rw [List.length_cons]
      omega
    rw [hposition, List.cons_append]
    rcases contract with _ | sig
    · exact ih (candidate + 1)
    · cases hdenote : B.denote accessor sig.types args with
      | some natives =>
        rw [Backend.select_cons_of_some hdenote, Backend.select_cons_of_some hdenote]
        rfl
      | none =>
        rw [Backend.select_cons_of_none hdenote, Backend.select_cons_of_none hdenote]
        exact ih (candidate + 1)

/-- The selected candidate is one of the list. -/
lemma Backend.candidate_lt_of_select {accessor : Accessor} {args : List Dynamic} {candidate : ℕ}
    {contracts : List (Contract B.Ty)} {call : Invocation B.Native}
    (h : B.select accessor args candidate contracts = some call) :
    call.candidate < candidate + contracts.length := by
  induction contracts generalizing candidate with
  | nil => cases h
  | cons contract contracts ih =>
    rw [List.length_cons]
    rcases contract with _ | sig
    · have hlt : call.candidate < candidate + 1 + contracts.length := ih h
      omega
    · cases hdenote : B.denote accessor sig.types args with
      | some natives =>
        rw [Backend.select_cons_of_some hdenote] at h
        obtain rfl := Option.some.inj h
        exact Nat.lt_add_of_pos_right (Nat.succ_pos _)
      | none =>
        rw [Backend.select_cons_of_none hdenote] at h
        have hlt : call.candidate < candidate + 1 + contracts.length := ih h
        omega

/-- Nothing is selected exactly when the arguments denote nothing at any declared signature. -/
lemma Backend.select_eq_none_iff {accessor : Accessor} {args : List Dynamic} {candidate : ℕ}
    {sigs : List (Signature B.Ty)} :
    B.select accessor args candidate (sigs.map .free) = none ↔
      ∀ sig ∈ sigs, B.denote accessor sig.types args = none := by
  induction sigs generalizing candidate with
  | nil => exact ⟨fun _ => by simp, fun _ => rfl⟩
  | cons sig sigs ih =>
    rw [List.map_cons, List.forall_mem_cons]
    cases hdenote : B.denote accessor sig.types args with
    | some natives =>
      rw [Backend.select_cons_of_some hdenote]
      simp
    | none =>
      rw [Backend.select_cons_of_none hdenote, ih]
      simp

end Selection

/-! ## Dispatch without probes -/

section Testing

variable {Dynamic : Type}

/-- An accessor of constant values leaves the arguments as they were. -/
lemma convertExportArguments_args {B : Backend Dynamic} {accessor : Accessor}
    (haccessor : accessor.consuming = false) (candidate : ℕ) (tys : List B.Ty) (index : ℕ)
    (t : Trace B) : (convertExportArguments B accessor candidate tys index t).2.args = t.args := by
  induction tys generalizing index t with
  | nil => rfl
  | cons ty tys ih =>
    have hset : t.args.set index (t.get index) = t.args := by
      unfold Trace.get
      rcases Nat.lt_or_ge index t.args.length with hlt | hge
      · rw [List.getD_eq_getElem?_getD, List.getElem?_eq_getElem hlt]
        exact List.set_getElem_self hlt
      · exact List.set_eq_of_length_le hge
    have hleft : (fromOptional B accessor ty (t.get index)).2 = t.get index := by
      unfold fromOptional
      rw [haccessor]
      rfl
    unfold convertExportArguments
    refine (ih (index + 1) _).trans ?_
    dsimp only
    rw [hleft, hset]

variable (B : TestingBackend Dynamic)

/-- A candidate is converted, and called when all of its arguments convert. -/
lemma exportOverloadCandidate_of_testing (callable : B.Callable) (accessor : Accessor)
    (candidate : ℕ) {sig : Signature B.Ty} {t : Trace B.toBackend}
    (hlen : sig.types.length = t.args.length) :
    ∃ left, (accessor.consuming = false → left = t.args) ∧
      exportOverloadCandidate B.toBackend callable accessor candidate sig t =
        match B.denote accessor sig.types t.args with
        | none => (.ok none, ⟨left, t.log ++ conversions B.toBackend candidate t.args⟩)
        | some natives =>
          (B.answer callable (some ⟨candidate, sig, natives⟩),
            ⟨left, t.log ++ conversions B.toBackend candidate t.args ++
              [.invoke candidate sig natives]⟩) := by
  obtain ⟨hvalues, left, htrace⟩ := convertExportArguments_spec accessor candidate
    (t := t) List.drop_zero hlen
  refine ⟨left, fun haccessor => ?_, ?_⟩
  · have hargs := convertExportArguments_args haccessor candidate sig.types 0 t
    rwa [htrace] at hargs
  · unfold exportOverloadCandidate acceptedExportArguments
    simp only [B.notOpted, Bool.false_eq_true, if_false, Bool.not_true, hvalues, htrace,
      conversions_eq_zipIdx]
    cases B.denote accessor sig.types t.args with
    | none => rfl
    | some natives =>
      dsimp only
      rw [Backend.answer_some]
      cases callable sig natives <;> rfl

/-- Dispatch over constant values makes the selected call and no other. -/
theorem exportOverloadDispatch_of_testing (callable : B.Callable)
    (contracts : List (Contract B.Ty)) (args : List Dynamic) (candidate : ℕ)
    (log : List (Event B.toBackend)) :
    (exportOverloadDispatch B.toBackend callable args.length vectorAccessor candidate contracts
        ⟨args, log⟩).1 = B.answer callable (B.select vectorAccessor args candidate contracts) ∧
    invocations B.toBackend (exportOverloadDispatch B.toBackend callable args.length
        vectorAccessor candidate contracts ⟨args, log⟩).2.log =
      invocations B.toBackend log ++ (B.select vectorAccessor args candidate contracts).toList := by
  induction contracts generalizing candidate log with
  | nil => exact ⟨rfl, (List.append_nil _).symm⟩
  | cons contract contracts ih =>
    rcases contract with _ | sig
    · exact ih (candidate + 1) log
    by_cases hlen : sig.params.length = args.length
    · have hguard : (vectorAccessor.canAccess sig.params.length &&
          args.length == sig.params.length) = true := by
        simp [vectorAccessor, Accessor.canAccess, hlen]
      obtain ⟨left, hleft, hrun⟩ := exportOverloadCandidate_of_testing B callable vectorAccessor
        candidate (t := ⟨args, log⟩) (by simpa using hlen)
      obtain rfl : left = args := hleft rfl
      unfold exportOverloadDispatch Backend.select
      rw [if_pos hguard, hrun]
      cases hdenote : B.denote vectorAccessor sig.types left with
      | none =>
        dsimp only
        obtain ⟨hresult, hlog⟩ := ih (candidate + 1)
          (log ++ conversions B.toBackend candidate left)
        refine ⟨hresult, hlog.trans ?_⟩
        rw [invocations_append, invocations_conversions, List.append_nil]
      | some natives =>
        dsimp only
        -- a committed candidate never returns empty
        have hlog : invocations B.toBackend (log ++ conversions B.toBackend candidate left ++
            [.invoke candidate sig natives]) =
            invocations B.toBackend log ++ [⟨candidate, sig, natives⟩] := by
          rw [invocations_append, invocations_append, invocations_conversions, List.append_nil]
          rfl
        rw [Backend.answer_some]
        cases callable sig natives <;> exact ⟨rfl, hlog⟩
    · have hguard : ¬ (vectorAccessor.canAccess sig.params.length &&
          args.length == sig.params.length) = true := by
        simp [Ne.symm hlen]
      have hdenote : B.denote vectorAccessor sig.types args = none := by
        rw [← Option.not_isSome_iff_eq_none]
        intro hsome
        exact hlen (by simpa using Backend.length_of_denote hsome)
      unfold exportOverloadDispatch Backend.select
      rw [if_neg hguard, hdenote]
      exact ih (candidate + 1) log

end Testing

/-! ## Agreement of the two kinds of dispatch -/

section Agreement

variable {Dynamic : Type}

/-- The backend with its converters kept and the RPC probe policy set. -/
@[reducible] def Backend.withProbePolicy (B : Backend Dynamic) (usesRpcExportProbe : Bool) :
    Backend Dynamic := { B with usesRpcExportProbe }

/-- Without a viable candidate nothing is selected. -/
lemma Backend.Lawful.select_eq_none {B : Backend Dynamic} (hB : B.Lawful) (accessor : Accessor)
    {args : List Dynamic} {contracts : List (Contract B.Ty)}
    (hnone : ∀ contract ∈ contracts, B.viable args contract = false) (candidate : ℕ) :
    B.select accessor args candidate contracts = none := by
  induction contracts generalizing candidate with
  | nil => rfl
  | cons contract contracts ih =>
    obtain ⟨hfirst, hrest⟩ := List.forall_mem_cons.mp hnone
    rcases contract with _ | sig
    · exact ih hrest (candidate + 1)
    · have hdenote : B.denote accessor sig.types args = none := by
        rw [← Option.not_isSome_iff_eq_none, hB.isSome_denote accessor sig.types args]
        exact ne_true_of_eq_false hfirst
      rw [Backend.select_cons_of_none hdenote]
      exact ih hrest (candidate + 1)

/-- The first viable candidate is selected. -/
lemma Backend.Lawful.select_of_firstViable {B : Backend Dynamic} (hB : B.Lawful)
    (accessor : Accessor) {args : List Dynamic} {contracts : List (Contract B.Ty)} {k : ℕ}
    {sig : Signature B.Ty} (hfirst : B.FirstViable contracts args k sig) (candidate : ℕ)
    {natives : B.Arguments sig.types} (hdenote : B.denote accessor sig.types args = some natives) :
    B.select accessor args candidate contracts = some ⟨candidate + k, sig, natives⟩ := by
  induction contracts generalizing candidate k with
  | nil => exact absurd hfirst.declared (by simp)
  | cons contract contracts ih =>
    rcases k with _ | k
    · obtain rfl : contract = .free sig := by simpa using hfirst.declared
      exact Backend.select_cons_of_some hdenote candidate contracts
    · have hviable : B.viable args contract = false :=
        hfirst.earlier 0 (Nat.succ_pos k) contract rfl
      have htail : B.FirstViable contracts args k sig :=
        ⟨by simpa using hfirst.declared, hfirst.accepts,
          fun j hj c hc => hfirst.earlier (j + 1) (by omega) c (by simpa using hc)⟩
      have hposition : candidate + 1 + k = candidate + (k + 1) := by omega
      rw [← hposition]
      rcases contract with _ | sig'
      · exact ih htail (candidate + 1)
      · have hreject : B.denote accessor sig'.types args = none := by
          rw [← Option.not_isSome_iff_eq_none, hB.isSome_denote accessor sig'.types args]
          exact ne_true_of_eq_false hviable
        rw [Backend.select_cons_of_none hreject]
        exact ih htail (candidate + 1)

/-- With lawful converters, the probing dispatch makes the selected call and no other. -/
theorem exportOverloadDispatch_of_probing (B : ProbingBackend Dynamic) (hB : B.toBackend.Lawful)
    (callable : B.Callable) (contracts : List (Contract B.Ty)) (args : List Dynamic) :
    (exportOverloadDispatch B.toBackend callable args.length consumingVectorAccessor 0 contracts
        ⟨args, []⟩).1 = B.answer callable (B.select vectorAccessor args 0 contracts) ∧
    invocations B.toBackend (exportOverloadDispatch B.toBackend callable args.length
        consumingVectorAccessor 0 contracts ⟨args, []⟩).2.log =
      (B.select vectorAccessor args 0 contracts).toList := by
  rcases B.none_viable_or_firstViable contracts args with hnone | ⟨k, sig, hfirst⟩
  · obtain ⟨probes, hprobes, hrun⟩ := exportOverloadDispatch_of_none_viable B callable hnone 0 []
    rw [hrun, hB.select_eq_none vectorAccessor hnone 0]
    exact ⟨rfl, invocations_eq_nil fun e he => (hprobes e he).isInvoke_eq⟩
  · obtain ⟨natives, hdenote⟩ := Option.isSome_iff_exists.mp
      ((hB.isSome_denote vectorAccessor sig.types args).trans hfirst.accepts)
    obtain ⟨probes, left, hprobes, hrun⟩ :=
      exportOverloadDispatch_of_firstViable B callable hfirst 0 []
    rw [hrun, hB.select_of_firstViable vectorAccessor hfirst 0 hdenote,
      hB.denote_eq consumingVectorAccessor vectorAccessor, hdenote]
    refine ⟨rfl, ?_⟩
    have hnil : invocations B.toBackend probes = [] :=
      invocations_eq_nil fun e he => (hprobes e he).isInvoke_eq
    dsimp only
    rw [invocations_append, invocations_append, invocations_conversions, List.nil_append, hnil]
    rfl

/-- The result of a callable, under another probe policy. -/
def Backend.resultUnder (B : Backend Dynamic) (policy : Bool) :
    (result : Option B.Ty) → B.Result result → (B.withProbePolicy policy).Result result
  | none, result => result
  | some _, native => native

/-- The native callable, under another probe policy. -/
def Backend.callableUnder (B : Backend Dynamic) (policy : Bool) (callable : B.Callable) :
    (B.withProbePolicy policy).Callable :=
  fun sig arguments => (callable sig arguments).map (B.resultUnder policy sig.result)

lemma Backend.denote_withProbePolicy (B : Backend Dynamic) (policy : Bool) (accessor : Accessor)
    (tys : List B.Ty) (args : List Dynamic) :
    (B.withProbePolicy policy).denote accessor tys args = B.denote accessor tys args := by
  induction tys generalizing args with
  | nil => cases args <;> rfl
  | cons ty tys ih =>
    rcases args with _ | ⟨arg, args⟩
    · rfl
    · unfold denote
      rw [ih args]
      rfl

lemma Backend.select_withProbePolicy (B : Backend Dynamic) (policy : Bool) (accessor : Accessor)
    (args : List Dynamic) (candidate : ℕ) (contracts : List (Contract B.Ty)) :
    (B.withProbePolicy policy).select accessor args candidate contracts =
      B.select accessor args candidate contracts := by
  induction contracts generalizing candidate with
  | nil => rfl
  | cons contract contracts ih =>
    rcases contract with _ | sig
    · exact ih (candidate + 1)
    · unfold select
      rw [B.denote_withProbePolicy policy accessor sig.types args, ih (candidate + 1)]
      cases B.denote accessor sig.types args <;> rfl

lemma Backend.answer_withProbePolicy (B : Backend Dynamic) (policy : Bool)
    (callable : B.Callable) (call : Option (Invocation B.Native)) :
    (B.withProbePolicy policy).answer (B.callableUnder policy callable) call =
      B.answer callable call := by
  rcases call with _ | ⟨candidate, sig, natives⟩
  · rfl
  · rw [answer_some, answer_some]
    unfold callableUnder
    have hresult : ∀ native : B.Result sig.result,
        (B.withProbePolicy policy).toExportResult sig.result
          (B.resultUnder policy sig.result native) = B.toExportResult sig.result native := by
      rcases sig.result with _ | ty <;> exact fun _ => rfl
    cases callable sig natives with
    | error e => rfl
    | ok native => exact congrArg (fun d => Except.ok (some d)) (hresult native)

/-- A dispatch over the consumed arguments of an opted-in backend and a dispatch over the
constant arguments of one that is not return the same, and make the same calls, at most one. -/
theorem exportOverloadDispatch_probing_eq_testing (B : Backend Dynamic) (hB : B.Lawful)
    (callable : B.Callable) (contracts : List (Contract B.Ty)) (args : List Dynamic) :
    let probing := exportOverloadDispatch (B.withProbePolicy true)
      (B.callableUnder true callable) args.length consumingVectorAccessor 0 contracts ⟨args, []⟩
    let testing := exportOverloadDispatch (B.withProbePolicy false)
      (B.callableUnder false callable) args.length vectorAccessor 0 contracts ⟨args, []⟩
    probing.1 = testing.1 ∧
      invocations _ probing.2.log = invocations _ testing.2.log ∧
      (invocations _ probing.2.log).length ≤ 1 := by
  intro probing testing
  obtain ⟨hprobing, hprobingCalls⟩ := exportOverloadDispatch_of_probing
    ⟨B.withProbePolicy true, rfl⟩ ⟨hB.probe_eq, hB.fromMutable_eq⟩ (B.callableUnder true callable)
    contracts args
  obtain ⟨htesting, htestingCalls⟩ := exportOverloadDispatch_of_testing
    ⟨B.withProbePolicy false, rfl⟩ (B.callableUnder false callable) contracts args 0 []
  rw [B.select_withProbePolicy] at hprobing hprobingCalls htesting htestingCalls
  rw [B.answer_withProbePolicy] at hprobing htesting
  refine ⟨hprobing.trans htesting.symm, hprobingCalls.trans htestingCalls.symm, ?_⟩
  rw [hprobingCalls]
  cases B.select vectorAccessor args 0 contracts <;> simp

/-- A backend with one scalar type, the numbers below ten; a conversion from a mutable value
leaves a zero behind. -/
def digitBackend : Backend ℕ where
  Ty := Unit
  Native _ := ℕ
  probe _ value := value < 10
  fromConst _ value := if value < 10 then some value else none
  fromMutable _ value := if value < 10 then (some value, 0) else (none, value)
  toRvalue _ native := native
  undefined := 0
  usesRpcExportProbe := false

lemma digitBackend_lawful : digitBackend.Lawful where
  probe_eq _ value := by
    by_cases hdigit : value < 10 <;> simp [digitBackend, hdigit]
  fromMutable_eq _ value := by
    by_cases hdigit : value < 10 <;> simp [digitBackend, hdigit]

/-- The dispatch that tests answers like the one that probes, on two digits. -/
theorem exportOverloadDispatch_probing_eq_testing_digits :
    (exportOverloadDispatch (digitBackend.withProbePolicy false)
      (digitBackend.callableUnder false fun sig _ =>
        match sig with
        | ⟨_, none⟩ => .ok ()
        | ⟨_, some _⟩ => .ok (0 : ℕ)) 2 vectorAccessor 0
      [.free ⟨[⟨.value, ()⟩], none⟩, .unmatched, .free ⟨[⟨.value, ()⟩, ⟨.constRef, ()⟩], none⟩]
      ⟨[3, 4], []⟩).1 = .ok (some 0) :=
  (exportOverloadDispatch_probing_eq_testing digitBackend digitBackend_lawful
    (fun sig _ =>
      match sig with
      | ⟨_, none⟩ => .ok ()
      | ⟨_, some _⟩ => .ok (0 : ℕ))
    [.free ⟨[⟨.value, ()⟩], none⟩, .unmatched, .free ⟨[⟨.value, ()⟩, ⟨.constRef, ()⟩], none⟩]
    [3, 4]).1.symm.trans rfl

end Agreement

end Dynabridge.Export
