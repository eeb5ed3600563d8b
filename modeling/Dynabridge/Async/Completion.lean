import Dynabridge.Async.Agreement

/-!
# Completion of an asynchronous operation

Three results about every run of an invocation.

* `handler_invoked_once`: the handler is invoked at most once, and at quiescence exactly once
  when the operation was completed.
* `resources_retired`: operation, context and access owner are released once, by the call that
  the flags designate, and not before some `finish` or `reject` has retired the operation.
* `outcome_precedence`: whose outcome the handler receives.

Quiescence is reached by runs that use the token and end the submit body in any order, as the
computed runs at the end of each section show.
-/

namespace Dynabridge.Async

open Interleaving

variable {R E : Type} {access : Bool} {s s' : System R E}

/-! ## Uniqueness -/

/-- Only one call delivers. -/
lemma Reachable.one_delivery (h : Reachable access s) {i j : ℕ} {t u : Task R E}
    (hi : .delivered i t ∈ s.log) (hj : .delivered j u ∈ s.log) : i = j ∧ t = u := by
  have heq : Event.delivered i t = .delivered j u :=
    eq_of_flag h.delivered_balance hi hj rfl rfl
  exact Event.delivered.inj heq

/-- The submit body ends with one error. -/
lemma Reachable.one_refusal (h : Reachable access s) {e e' : E} (he : Refusal s.log e)
    (he' : Refusal s.log e') : e = e' := by
  obtain ⟨o, ho, herr⟩ := he
  obtain ⟨o', ho', herr'⟩ := he'
  have heq : Event.concluded (R := R) o = .concluded o' :=
    eq_of_flag h.concluded_balance ho ho' rfl rfl
  cases heq
  exact Option.some.inj (herr.symm.trans herr')

/-- The task in an event is the task of the call that logged it. -/
theorem Reachable.task_of_event (h : Reachable access s) (i : ℕ) (t : Task R E)
    (he : .retired i t ∈ s.log ∨ .delivered i t ∈ s.log) :
    (s.procs.map Call.task)[i]? = some t := by
  revert i t
  refine Program.Reachable.invariant (I := fun s => ∀ i t,
    (.retired i t ∈ s.log ∨ .delivered i t ∈ s.log) →
      (s.procs.map Call.task)[i]? = some t) ?_ ?_ h
  · intro i t he
    rcases he with he | he <;> cases he
  · intro s s' _ hs hstep j u he
    rcases hstep.cases with ⟨i, c, v, c', events, hc, hadv, rfl⟩ | ⟨k, v, new, events, hcmd, rfl⟩
    · obtain ⟨t, ph⟩ := c
      obtain ⟨o', ph', hm, rfl, rfl⟩ := threads_advance hadv
      have htask : (s.procs.map Call.task)[i]? = some t := by rw [List.getElem?_map, hc]; rfl
      have hsame : (s.procs.set i ⟨t, ph'⟩).map Call.task = s.procs.map Call.task :=
        Program.map_set_eq hc rfl
      rw [hsame]
      rcases he with he | he <;> rcases List.mem_append.mp he with hold | hnew
      · exact hs j u (.inl hold)
      · obtain ⟨rfl, rfl, -⟩ := hm.of_retired hnew
        exact htask
      · exact hs j u (.inr hold)
      · obtain ⟨rfl, rfl, -⟩ := hm.of_delivered hnew
        exact htask
    · have hnot := (Invocation.command_obeys hcmd).not_delivery j u
      have hold := hs j u (he.imp (fun h => (List.mem_append.mp h).resolve_right hnot.1)
        fun h => (List.mem_append.mp h).resolve_right hnot.2)
      have hlt := (List.getElem?_eq_some_iff.mp hold).1
      rw [List.map_append, List.getElem?_append_left hlt, hold]

/-! ## Quiescence -/

instance [DecidableEq E] : Decidable (Quiescent s) :=
  inferInstanceAs (Decidable (s.shared.starter = .returned ∧ ∀ c ∈ s.procs, c.phase = .returned))

lemma Quiescent.countP_eq_zero (hq : Quiescent s) {w : Phase → Bool} (hw : w .returned = false) :
    s.procs.countP (fun c => w c.phase) = 0 := by
  rw [List.countP_eq_zero]
  intro c hc
  rw [hq.2 c hc, hw]
  exact Bool.false_ne_true

lemma Quiescent.submitting_eq (hq : Quiescent s) (h : Reachable access s) :
    s.shared.state.submitting = false := by
  rw [h.flags.submitting_eq, hq.1]
  rfl

/-- A quiescent operation that is retired has been cleaned. -/
theorem Quiescent.cleaned (hq : Quiescent s) (h : Reachable access s)
    (hret : s.shared.state.retired = true) : s.shared.state.cleaned = true := by
  refine eq_true_of_ne_false fun hcl => ?_
  have hst : s.shared.starter ≠ .awaitingDetach := by simp [hq.1]
  obtain ⟨c, hc, howes⟩ := h.cleanup_obligation ⟨hret, hq.submitting_eq h, hcl, hst⟩
  exact absurd howes (by simp [Call.owesCleanup, hq.2 c hc])

/-- A quiescent operation that was completed has been delivered. -/
theorem Quiescent.delivered (hq : Quiescent s) (h : Reachable access s)
    (hocc : Occurred s.log) : s.shared.state.delivered = true := by
  refine eq_true_of_ne_false fun hdel => ?_
  have hpend : s.shared.state.pendingDetach = none := by
    apply Option.not_isSome_iff_eq_none.mp
    intro hsome
    exact absurd (h.flags.submitting_of_pending hsome) (by simp [hq.submitting_eq h])
  have hst : ∀ e, s.shared.starter ≠ .rejecting e := by simp [hq.1]
  obtain ⟨c, hc, hentry, -⟩ := h.delivery_obligation ⟨hocc, hdel, hpend, hst⟩
  exact absurd hentry (by simp [hq.2 c hc])

/-! ## The handler -/

/-- How often the handler has been invoked. -/
def System.invocations (s : System R E) : ℕ := s.log.countP Event.isHandled

lemma Origin.occurred {v : Invocation E} {log : List (Event R E)} {t : Task R E}
    (h : Origin v log t) (ht : t.arguments.isSome = true) : Occurred log := by
  cases t with
  | finish r => exact ⟨_, h, rfl⟩
  | detach e => exact ⟨_, h, rfl⟩
  | reject e =>
    obtain ⟨o, ho, herr⟩ := h
    exact ⟨_, ho, by rw [Event.isCompletion, herr]; rfl⟩
  | deferredDetach e => exact ⟨_, h.1, rfl⟩
  | cleanup => cases ht

/-- What is delivered has a call that delivered it, and a result. -/
lemma Reachable.exists_delivered (h : Reachable access s)
    (hdel : s.shared.state.delivered = true) :
    ∃ i t r, .delivered i t ∈ s.log ∧ t.result = some r ∧ Origin s.shared s.log t := by
  obtain ⟨e, he, hd⟩ := exists_of_flag h.delivered_balance hdel
  cases e with
  | delivered i t =>
    obtain ⟨hsome, horigin⟩ := h.justified _ he
    obtain ⟨⟨r, retire⟩, harg⟩ := Option.isSome_iff_exists.mp hsome
    exact ⟨i, t, r, he, by rw [Task.result, harg]; rfl, horigin⟩
  | _ => cases hd

lemma Reachable.occurred_of_delivered (h : Reachable access s)
    (hdel : s.shared.state.delivered = true) : Occurred s.log := by
  obtain ⟨i, t, r, -, hres, horigin⟩ := h.exists_delivered hdel
  apply horigin.occurred
  rw [Task.result, Option.map_eq_some_iff] at hres
  obtain ⟨arg, harg, -⟩ := hres
  rw [harg, Option.isSome_some]

lemma Reachable.invocations_le (h : Reachable access s) :
    s.invocations ≤ s.shared.state.delivered.toNat := by
  rw [← h.handled_balance]
  exact Nat.le_add_left _ _

lemma Quiescent.invocations_eq (hq : Quiescent s) (h : Reachable access s) :
    s.invocations = s.shared.state.delivered.toNat := by
  rw [← h.handled_balance, hq.countP_eq_zero rfl, Nat.zero_add]
  rfl

/-- In every run the handler is invoked at most once; at quiescence it has been invoked
exactly once if the operation was completed by `finish`, `detach`, rejection or an exception,
and otherwise not at all. -/
theorem handler_invoked_once (h : Reachable access s) :
    s.invocations ≤ 1 ∧
      (Quiescent s →
        (Occurred s.log → s.invocations = 1) ∧ (¬ Occurred s.log → s.invocations = 0)) := by
  refine ⟨h.invocations_le.trans (Bool.toNat_le _), fun hq => ⟨fun hocc => ?_, fun hnot => ?_⟩⟩
  · rw [hq.invocations_eq h, hq.delivered h hocc]
    rfl
  · have hdel : s.shared.state.delivered = false :=
      eq_false_of_ne_true fun hdel => hnot (h.occurred_of_delivered hdel)
    rw [hq.invocations_eq h, hdel]
    rfl

/-- A detach during submission, delivered when submission ends, and a later `finish`. -/
theorem handler_invoked_once_deferred :
    ∃ s : System ℕ ℕ, Reachable true s ∧ Quiescent s ∧ Occurred s.log ∧ s.invocations = 1 := by
  obtain ⟨s, hreach, hq, hocc⟩ := Program.exists_reachable (S := threads ℕ ℕ)
    [.command (.detach 5), .advance 0, .command (.conclude .accepted), .command .resume,
      .advance 1, .advance 1, .advance 1, .advance 1, .advance 1,
      .command (.finish ⟨some 9, 0⟩),
      .advance 2, .advance 2, .advance 2, .advance 2, .advance 2,
      .advance 2, .advance 2, .command .resume, .advance 3, .advance 3, .command .resume]
    (s := System.start true) (q := fun s => Quiescent s ∧ Occurred s.log) (by decide +kernel)
  exact ⟨s, hreach, hq, hocc, ((handler_invoked_once hreach).2 hq).1 hocc⟩

/-! ## The slots -/

/-- A retirement was asked for: by `finish`, or by the error with which the submit body
ended. -/
def Retirement (log : List (Event R E)) (t : Task R E) : Prop :=
  (∃ r, t = .finish r ∧ .called t ∈ log) ∨ ∃ e, t = .reject e ∧ Refusal log e

lemma Reachable.retirement (h : Reachable access s) {i : ℕ} {t : Task R E}
    (hret : .retired i t ∈ s.log) : Retirement s.log t := by
  obtain ⟨hretires, horigin⟩ := h.justified _ hret
  rcases Task.retires_iff.mp hretires with ⟨r, rfl⟩ | ⟨e, rfl⟩
  · exact .inl ⟨r, rfl, horigin⟩
  · exact .inr ⟨e, rfl, horigin⟩

lemma Reachable.exists_retired (h : Reachable access s) (hret : s.shared.state.retired = true) :
    ∃ i t, .retired i t ∈ s.log := by
  obtain ⟨e, he, hr⟩ := exists_of_flag h.retired_balance hret
  cases e with
  | retired i t => exact ⟨i, t, he⟩
  | _ => cases hr

/-- A slot that is not claimed still holds its object. -/
lemma Reachable.slots_of_not_cleaned (h : Reachable access s)
    (hcl : s.shared.state.cleaned = false) :
    s.shared.state.operation = true ∧ s.shared.state.context = true := by
  have hop := h.operation_balance
  have hctx := h.context_balance
  rw [hcl] at hop hctx
  constructor
  · exact eq_true_of_ne_false fun hs => by simp [hs] at hop
  · exact eq_true_of_ne_false fun hs => by simp [hs] at hctx

lemma Reachable.slots_of_not_retired (h : Reachable access s)
    (hret : s.shared.state.retired = false) :
    s.shared.state.operation = true ∧ s.shared.state.context = true ∧
      s.shared.state.access = access := by
  have hcl : s.shared.state.cleaned = false := by
    refine eq_false_of_ne_true fun hcl => ?_
    exact absurd (h.flags.retired_of_cleaned hcl) (by simp [hret])
  obtain ⟨hop, hctx⟩ := h.slots_of_not_cleaned hcl
  refine ⟨hop, hctx, ?_⟩
  rw [h.flags.access_eq, hret, Bool.not_false, Bool.and_true]

lemma Reachable.operation_released_once (h : Reachable access s) :
    s.log.countP Event.isOperationReleased ≤ 1 := by
  rw [← h.operationReleased_balance]
  omega

lemma Reachable.context_released_once (h : Reachable access s) :
    s.log.countP Event.isContextReleased ≤ 1 := by
  rw [← h.contextReleased_balance]
  omega

lemma Reachable.access_released_once (h : Reachable access s) :
    s.log.countP Event.isAccessReleased ≤ 1 := by
  have hbal := h.access_balance
  have hle := Bool.toNat_le access
  omega

/-- The call that resets the context has reset the operation. -/
lemma Reachable.one_claimant (h : Reachable access s) {i j : ℕ}
    (hop : .operationReleased i ∈ s.log) (hctx : .contextReleased j ∈ s.log) : i = j := by
  have hown : Event.operationReleased j ∈ s.log := h.justified _ hctx
  exact Event.operationReleased.inj
    (eq_of_countP_le_one h.operation_released_once hop hown rfl rfl)

/-- When the call that retires also delivers, it has released the access owner before the
handler runs. -/
lemma Reachable.access_before_handler (h : Reachable access s) (hacc : access = true) {i : ℕ}
    {t u : Task R E} (hret : .retired i t ∈ s.log) (hhand : .handled i u ∈ s.log) :
    Precedes s.log (.accessReleased i) (.handled i u) := by
  obtain ⟨hdel, hprec⟩ := h.justified _ hhand
  have ht := h.task_of_event i t (.inl hret)
  have hu := h.task_of_event i u (.inr hdel)
  obtain rfl : t = u := Option.some.inj (ht.symm.trans hu)
  exact hprec hacc (h.justified _ hret).1

/-- In every quiescent state of a retired operation all slots are empty. -/
lemma Quiescent.slots_empty (hq : Quiescent s) (h : Reachable access s)
    (hret : s.shared.state.retired = true) :
    s.shared.state.operation = false ∧ s.shared.state.context = false ∧
      s.shared.state.access = false ∧ s.shared.state.handler = false := by
  have hcl := hq.cleaned h hret
  have hdel := h.flags.delivered_of_retired hret
  have hop := h.operation_balance
  have hctx := h.context_balance
  have hhand := h.handler_balance
  rw [hq.countP_eq_zero rfl, hcl] at hop hctx
  rw [hq.countP_eq_zero rfl, hdel] at hhand
  have hacc := h.flags.access_eq
  rw [hret, Bool.not_true, Bool.and_false] at hacc
  have hempty : ∀ b : Bool, 0 + (!true).toNat = b.toNat → b = false := by decide
  exact ⟨hempty _ hop, hempty _ hctx, hacc, hempty _ hhand⟩

/-- In every quiescent state of a retired operation each release has happened once. -/
lemma Quiescent.released (hq : Quiescent s) (h : Reachable access s)
    (hret : s.shared.state.retired = true) :
    s.log.countP Event.isAccessReleased = access.toNat ∧
      s.log.countP Event.isOperationReleased = 1 ∧ s.log.countP Event.isContextReleased = 1 := by
  have hcl := hq.cleaned h hret
  have hacc := h.access_balance
  have hop := h.operationReleased_balance
  have hctx := h.contextReleased_balance
  rw [hq.countP_eq_zero rfl, (hq.slots_empty h hret).2.2.1] at hacc
  rw [hq.countP_eq_zero rfl, hcl] at hop hctx
  refine ⟨?_, ?_, ?_⟩
  · simpa using hacc
  · simpa using hop
  · simpa using hctx

/-- What a run does with the operation, the context and the access owner. -/
theorem resources_retired (h : Reachable access s) :
    -- while the submit body is executing, its operation and its context are there
    (s.shared.starter = .body →
      s.shared.state.operation = true ∧ s.shared.state.context = true) ∧
    -- nothing is released before a `finish` or a rejection has retired the operation
    (s.shared.state.operation = false ∨ s.shared.state.context = false ∨
        s.shared.state.access ≠ access → ∃ i t, .retired i t ∈ s.log ∧ Retirement s.log t) ∧
    ((∀ t, ¬ Retirement s.log t) → s.shared.state.operation = true ∧
      s.shared.state.context = true ∧ s.shared.state.access = access) ∧
    -- the access owner is released once, by the one call that retires, before it delivers
    (s.log.countP Event.isRetired ≤ 1 ∧ s.log.countP Event.isAccessReleased ≤ 1 ∧
      (∀ i, .accessReleased i ∈ s.log → ∃ t, .retired i t ∈ s.log) ∧
      (access = true → ∀ i t u, .retired i t ∈ s.log → .handled i u ∈ s.log →
        Precedes s.log (.accessReleased i) (.handled i u))) ∧
    -- operation and context are released once, by one call
    (s.log.countP Event.isOperationReleased ≤ 1 ∧ s.log.countP Event.isContextReleased ≤ 1 ∧
      ∀ i j, .operationReleased i ∈ s.log → .contextReleased j ∈ s.log → i = j) ∧
    -- at quiescence a retired operation holds nothing
    (Quiescent s → s.shared.state.retired = true →
      (s.log.countP Event.isAccessReleased = access.toNat ∧
        s.log.countP Event.isOperationReleased = 1 ∧
        s.log.countP Event.isContextReleased = 1) ∧
      s.shared.state.operation = false ∧ s.shared.state.context = false ∧
        s.shared.state.access = false ∧ s.shared.state.handler = false) := by
  refine ⟨fun hst => ?_, fun hempty => ?_, fun hnone => ?_, ⟨?_, ?_, ?_, ?_⟩, ⟨?_, ?_, ?_⟩,
    fun hq hret => ⟨hq.released h hret, hq.slots_empty h hret⟩⟩
  · apply h.slots_of_not_cleaned
    refine eq_false_of_ne_true fun hcl => ?_
    have hsub := h.flags.submitted_of_cleaned hcl
    rw [h.flags.submitting_eq, hst] at hsub
    exact absurd hsub (by simp [Starter.inSubmission])
  · cases hret : s.shared.state.retired with
    | true =>
      obtain ⟨i, t, hmem⟩ := h.exists_retired hret
      exact ⟨i, t, hmem, h.retirement hmem⟩
    | false =>
      obtain ⟨hop, hctx, hacc⟩ := h.slots_of_not_retired hret
      simp [hop, hctx, hacc] at hempty
  · apply h.slots_of_not_retired
    refine eq_false_of_ne_true fun hret => ?_
    obtain ⟨i, t, hmem⟩ := h.exists_retired hret
    exact hnone t (h.retirement hmem)
  · exact countP_le_one_of_flag h.retired_balance
  · exact h.access_released_once
  · exact fun i hi => h.justified _ hi
  · exact fun hacc i t u hret hhand => h.access_before_handler hacc hret hhand
  · exact h.operation_released_once
  · exact h.context_released_once
  · exact fun i j hop hctx => h.one_claimant hop hctx

/-- An accepted operation that a token finishes after submission, in its quiescent state. -/
theorem resources_retired_finish :
    ∃ s : System ℕ ℕ, Reachable true s ∧ Quiescent s ∧ s.shared.state.retired = true ∧
      s.shared.state.operation = false ∧ s.shared.state.context = false ∧
      s.shared.state.access = false ∧ s.shared.state.handler = false := by
  obtain ⟨s, hreach, hq, hret⟩ := Program.exists_reachable (S := threads ℕ ℕ)
    [.command (.conclude .accepted), .command .resume, .advance 0, .advance 0,
      .command .resume, .command (.finish ⟨some 9, 0⟩), .advance 1, .advance 1, .advance 1,
      .advance 1, .advance 1, .advance 1, .advance 1]
    (s := System.start true) (q := fun s => Quiescent s ∧ s.shared.state.retired = true)
    (by decide +kernel)
  exact ⟨s, hreach, hq, hret, ((resources_retired hreach).2.2.2.2.2 hq hret).2⟩

/-! ## The outcome -/

lemma filterMap_eq_replicate {α β : Type} {f : α → Option β} {p : α → Bool} {b : β} {l : List α}
    (h : ∀ a ∈ l, f a = if p a then some b else none) :
    l.filterMap f = List.replicate (l.countP p) b := by
  induction l with
  | nil => rfl
  | cons a l ih =>
    obtain ⟨ha, hl⟩ := List.forall_mem_cons.mp h
    rw [List.countP_cons]
    cases hp : p a with
    | true =>
      rw [hp, if_pos rfl] at ha
      rw [List.filterMap_cons_some ha, ih hl, if_pos rfl, List.replicate_succ]
    | false =>
      rw [hp, if_neg Bool.false_ne_true] at ha
      rw [List.filterMap_cons_none ha, ih hl, if_neg Bool.false_ne_true, Nat.add_zero]

/-- The handler receives nothing but the result that was delivered. -/
lemma Reachable.received_eq (h : Reachable access s) {i : ℕ} {t : Task R E}
    {r : AsyncResult R E} (hdel : .delivered i t ∈ s.log) (hres : t.result = some r) :
    s.received = List.replicate s.invocations r := by
  apply filterMap_eq_replicate
  intro e he
  cases e with
  | handled j u =>
    obtain ⟨hown, -⟩ := h.justified _ he
    obtain ⟨-, rfl⟩ := h.one_delivery hdel hown
    exact hres
  | _ => rfl

lemma Reachable.delivered_of_mem (h : Reachable access s) {i : ℕ} {t : Task R E}
    (hdel : .delivered i t ∈ s.log) : s.shared.state.delivered = true :=
  flag_of_mem h.delivered_balance hdel rfl

lemma Quiescent.received_eq (hq : Quiescent s) (h : Reachable access s) {i : ℕ} {t : Task R E}
    {r : AsyncResult R E} (hdel : .delivered i t ∈ s.log) (hres : t.result = some r) :
    s.received = [r] := by
  rw [h.received_eq hdel hres, hq.invocations_eq h, h.delivered_of_mem hdel]
  rfl

/-- A result that the handler received was delivered. -/
lemma Reachable.delivered_of_received (h : Reachable access s) {x : AsyncResult R E}
    (hx : x ∈ s.received) : ∃ i t, .delivered i t ∈ s.log ∧ t.result = some x := by
  obtain ⟨e, he, hrec⟩ := List.mem_filterMap.mp hx
  cases e with
  | handled i t => exact ⟨i, t, (h.justified _ he).1, hrec⟩
  | _ => cases hrec

lemma Reachable.trans (h : Reachable access s) (h' : (threads R E).Reachable s s') :
    Reachable access s' := Relation.ReflTransGen.trans h h'

/-- When the submit body has rejected and no `finish` has retired, only the rejection
delivers. -/
lemma Reachable.delivered_of_refusal (h : Reachable access s) {e : E} (he : Refusal s.log e)
    (hno : ∀ i r, .retired i (.finish r) ∉ s.log) {i : ℕ} {t : Task R E}
    (hdel : .delivered i t ∈ s.log) : t = .reject e := by
  have hret := h.agreement.retired_of_delivered (.inr ⟨e, he⟩) i t hdel
  rcases h.retirement hret with ⟨r, rfl, -⟩ | ⟨e', rfl, he'⟩
  · exact absurd hret (hno i r)
  · rw [h.one_refusal he' he]

/-- A deferred detach delivers only after the submit body has accepted. -/
lemma Reachable.accepted_of_deferred (h : Reachable access s) {i : ℕ} {e : E}
    (hdel : .delivered i (.deferredDetach e) ∈ s.log) :
    .concluded .accepted ∈ s.log ∧ .called (.detach e) ∈ s.log := by
  obtain ⟨-, hcalled, hsub⟩ := h.justified _ hdel
  refine ⟨?_, hcalled⟩
  have hended : s.shared.starter.hasConcluded = true :=
    Starter.hasConcluded_of_inSubmission (h.flags.submitting_eq ▸ hsub)
  obtain ⟨ev, hmem, hconc⟩ := exists_of_flag h.concluded_balance hended
  cases ev with
  | concluded o =>
    cases herr : o.error with
    | none => exact Outcome.error_eq_none_iff.mp herr ▸ hmem
    | some e' =>
      -- a rejected operation would have been delivered by the call that retired it
      have hret := h.agreement.retired_of_delivered (.inr ⟨e', o, hmem, herr⟩) i _ hdel
      obtain ⟨hretires, -⟩ := h.justified _ hret
      cases hretires
  | _ => cases hconc

/-- Once the handler has received a result, it receives nothing more. -/
lemma Reachable.received_stable (h : Reachable access s) (hne : s.received ≠ [])
    (h' : (threads R E).Reachable s s') : s'.received = s.received := by
  obtain ⟨x, l, hx⟩ := List.exists_cons_of_ne_nil hne
  have hmem : x ∈ s.received := hx ▸ List.mem_cons_self
  obtain ⟨i, t, hdel, hres⟩ := h.delivered_of_received hmem
  have hdel' := h'.log_prefix.subset hdel
  have heq := h.received_eq hdel hres
  have heq' := (h.trans h').received_eq hdel' hres
  have hpos : 0 < s.invocations := by
    rw [heq] at hne
    exact Nat.pos_of_ne_zero fun hzero => hne (by rw [hzero]; rfl)
  have hle : s.invocations ≤ 1 := h.invocations_le.trans (Bool.toNat_le _)
  have hle' : s'.invocations ≤ 1 := (h.trans h').invocations_le.trans (Bool.toNat_le _)
  have hmono : s.invocations ≤ s'.invocations := h'.log_prefix.sublist.countP_le
  rw [heq, heq', le_antisymm hle' (le_trans hpos hmono), le_antisymm hle hpos]

lemma Quiescent.retired (hq : Quiescent s) (h : Reachable access s) {r : AsyncResult R E}
    (hcall : .called (.finish r) ∈ s.log) : s.shared.state.retired = true := by
  refine eq_true_of_ne_false fun hret => ?_
  obtain ⟨c, hc, hentry, -⟩ := h.retirement_obligation ⟨⟨_, hcall, rfl⟩, hret⟩
  exact absurd hentry (by simp [hq.2 c hc])

/-- A token that finishes between the check of `reject` and its retirement wins over the
rejection. -/
theorem rejection_overtaken :
    ∃ s : System ℕ ℕ, Reachable true s ∧ Quiescent s ∧ .concluded (.rejected 7) ∈ s.log ∧
      s.received = [⟨some 1, 0⟩] ∧ s.received ≠ [.failure 7] :=
  -- call 0 is the rejection, call 1 the token's and call 2 the cleanup of `submitted`
  Program.exists_reachable (S := threads ℕ ℕ)
    [.command (.conclude (.rejected 7)), .command .resume, .command (.finish ⟨some 1, 0⟩),
      .advance 1, .advance 1, .advance 1, .advance 1, .advance 1, .advance 0,
      .command .resume, .command .resume, .advance 2, .advance 2, .advance 2, .advance 2,
      .command .resume] (by decide +kernel)

/-- Whose outcome the handler receives, in every run. -/
theorem outcome_precedence (h : Reachable access s) :
    -- an error that the submit body ends with, unless a token has retired the operation
    (∀ e, Refusal s.log e → (∀ i r, .retired i (.finish r) ∉ s.log) →
      (∀ x ∈ s.received, x = .failure e) ∧ (Quiescent s → s.received = [.failure e])) ∧
    -- the result of a `finish` that retires the operation during submission
    (s.shared.state.submitting = true → ∀ i r, .retired i (.finish r) ∈ s.log →
      ∀ s' : System R E, (threads R E).Reachable s s' →
        (∀ x ∈ s'.received, x = r) ∧ (Quiescent s' → s'.received = [r])) ∧
    -- a detach only after submission, and a recorded one only if submission was accepted
    (s.shared.state.submitting = true → ∀ i t, .handled i t ∈ s.log → t.retires = true) ∧
    (∀ i e, .handled i (.deferredDetach e) ∈ s.log →
      .concluded .accepted ∈ s.log ∧ .called (.detach e) ∈ s.log ∧ s.received = [.failure e]) ∧
    -- nothing after the first outcome, though a later `finish` still retires
    (s.received ≠ [] → ∀ s' : System R E, (threads R E).Reachable s s' →
      s'.received = s.received ∧
      (∀ c ∈ s'.procs, c.task.retires = true → c.phase ≠ .entry →
        s'.shared.state.retired = true) ∧
      (Quiescent s' → ∀ r, .called (.finish r) ∈ s'.log → s'.shared.state.retired = true)) := by
  refine ⟨fun e he hno => ⟨fun x hx => ?_, fun hq => ?_⟩,
    fun hsub i r hret s' h' => ⟨fun x hx => ?_, fun hq => ?_⟩, fun hsub i t hhand => ?_,
    fun i e hhand => ?_, fun hne s' h' => ⟨h.received_stable hne h', fun c hc ht hentry => ?_,
      fun hq r hcall => hq.retired (h.trans h') hcall⟩⟩
  · obtain ⟨i, t, hdel, hres⟩ := h.delivered_of_received hx
    have ht := h.delivered_of_refusal he hno hdel
    rw [ht] at hres
    exact (Option.some.inj hres).symm
  · obtain ⟨o, ho, herr⟩ := he
    have hocc : Occurred s.log := ⟨_, ho, by rw [Event.isCompletion, herr]; rfl⟩
    obtain ⟨i, t, r, hdel, hres, -⟩ := h.exists_delivered (hq.delivered h hocc)
    have ht := h.delivered_of_refusal ⟨o, ho, herr⟩ hno hdel
    rw [hq.received_eq h hdel hres]
    rw [ht] at hres
    exact congrArg (fun x => [x]) (Option.some.inj hres).symm
  · have hdel := h'.log_prefix.subset (h.agreement.delivered_of_retired hsub i _ hret)
    obtain ⟨j, t, hown, hres⟩ := (h.trans h').delivered_of_received hx
    obtain ⟨-, rfl⟩ := (h.trans h').one_delivery hdel hown
    exact (Option.some.inj hres).symm
  · have hdel := h'.log_prefix.subset (h.agreement.delivered_of_retired hsub i _ hret)
    exact hq.received_eq (h.trans h') hdel rfl
  · obtain ⟨hdel, -⟩ := h.justified _ hhand
    have hret := h.agreement.retired_of_delivered (.inl hsub) i t hdel
    exact (h.justified _ hret).1
  · obtain ⟨hdel, -⟩ := h.justified _ hhand
    obtain ⟨hacc, hcalled⟩ := h.accepted_of_deferred hdel
    refine ⟨hacc, hcalled, ?_⟩
    have hcount : s.invocations = 1 := by
      apply le_antisymm (h.invocations_le.trans (Bool.toNat_le _))
      exact List.countP_pos_iff.mpr ⟨_, hhand, rfl⟩
    rw [h.received_eq hdel rfl, hcount]
    rfl
  · obtain ⟨i, hi⟩ := List.mem_iff_getElem?.mp hc
    exact ((h.trans h').located.2 i c hi).entered hentry ht

/-- A rejection after a detach, a `finish` during submission after a detach, and a deferred
detach that a `finish` follows. -/
theorem outcome_precedence_runs :
    (∃ s : System ℕ ℕ, Reachable true s ∧ .called (.detach 5) ∈ s.log ∧
      s.received = [.failure 7]) ∧
    (∃ s : System ℕ ℕ, Reachable true s ∧ .called (.detach 5) ∈ s.log ∧
      s.received = [⟨some 9, 0⟩]) ∧
    (∃ s : System ℕ ℕ, Reachable true s ∧ .called (.finish ⟨some 9, 0⟩) ∈ s.log ∧
      s.received = [.failure 5] ∧ s.shared.state.retired = true) := by
  refine ⟨?_, ?_, ?_⟩
  · obtain ⟨s, hreach, hq, hcall, hconc, hret⟩ := Program.exists_reachable (S := threads ℕ ℕ)
      [.command (.detach 5), .advance 0, .command (.conclude (.rejected 7)), .command .resume,
        .advance 1, .advance 1, .advance 1, .advance 1, .advance 1,
        .command .resume, .command .resume,
        .advance 2, .advance 2, .advance 2, .advance 2, .advance 2,
        .advance 2, .advance 2, .command .resume, .advance 3, .advance 3, .command .resume]
      (s := System.start true)
      (q := fun s => Quiescent s ∧ .called (.detach 5) ∈ s.log ∧
        .concluded (.rejected 7) ∈ s.log ∧
        ∀ e ∈ s.log, e.isRetired = true → e = .retired 1 (.reject 7)) (by decide +kernel)
    have hno : ∀ i r, Event.retired i (.finish r) ∉ s.log := by
      intro i r hmem
      cases hret _ hmem rfl
    exact ⟨s, hreach, hcall,
      ((outcome_precedence hreach).1 7 ⟨_, hconc, rfl⟩ hno).2 hq⟩
  · obtain ⟨s, hreach, hcall, hsub, hret, s', hrun, hq⟩ :=
      Program.exists_reachable (S := threads ℕ ℕ)
        [.command (.detach 5), .advance 0, .command (.finish ⟨some 9, 0⟩), .advance 1]
        (s := System.start true)
        (q := fun s => .called (.detach 5) ∈ s.log ∧ s.shared.state.submitting = true ∧
          .retired 1 (.finish ⟨some 9, 0⟩) ∈ s.log ∧ ∃ s' ∈ (threads ℕ ℕ).run s
            [.advance 1, .advance 1, .advance 1, .advance 1, .command (.conclude .accepted),
              .command .resume, .advance 2, .advance 2, .advance 2, .advance 2,
              .advance 2, .advance 2, .advance 2, .command .resume, .advance 3, .advance 3,
              .command .resume], Quiescent s') (by decide +kernel)
    have hrest := Program.reachable_of_run _ hrun
    exact ⟨s', hreach.trans hrest, hrest.log_prefix.subset hcall,
      ((outcome_precedence hreach).2.1 hsub 1 _ hret s' hrest).2 hq⟩
  · obtain ⟨s, hreach, hhand, s', hrun, hq, hcall⟩ :=
      Program.exists_reachable (S := threads ℕ ℕ)
        [.command (.detach 5), .advance 0, .command (.conclude .accepted), .command .resume,
          .advance 1, .advance 1, .advance 1, .advance 1, .advance 1] (s := System.start true)
        (q := fun s => .handled 1 (.deferredDetach 5) ∈ s.log ∧ ∃ s' ∈ (threads ℕ ℕ).run s
          [.command (.finish ⟨some 9, 0⟩), .advance 2, .advance 2, .advance 2, .advance 2,
            .advance 2, .advance 2, .advance 2, .command .resume, .advance 3, .advance 3,
            .command .resume],
          Quiescent s' ∧ .called (.finish ⟨some 9, 0⟩) ∈ s'.log) (by decide +kernel)
    have hrest := Program.reachable_of_run _ hrun
    have hrec := ((outcome_precedence hreach).2.2.2.1 1 5 hhand).2.2
    have hne : System.received s ≠ [] := by
      rw [hrec]
      exact List.cons_ne_nil _ _
    obtain ⟨hsame, -, hret⟩ := (outcome_precedence hreach).2.2.2.2 hne s' hrest
    exact ⟨s', hreach.trans hrest, hcall, hsame.trans hrec, hret hq _ hcall⟩

end Dynabridge.Async
