import Dynabridge.Async.Provenance

/-!
# Who still has to act, and whose outcome it is

Four obligations say which call is still on its way: the rejection until the operation is
retired, a retiring call until then, a completing call until the delivery, and a cleanup until
the slots are claimed.  At quiescence no call is on its way, so each of them has been met.

`Agreement` settles whose outcome is delivered.  During submission the call that retires is
the call that delivers, because a detach is only recorded; and when the submit body rejects,
the operation is retired before submission ends, so that no detach delivers afterwards.
-/

namespace Dynabridge.Async

open Interleaving

variable {R E : Type} {access : Bool} {s : System R E}

/-! ## Obligations -/

/-- A token call, a rejection or an exception. -/
@[simp] def Event.isCompletion : Event R E → Bool
  | .called _ => true
  | .concluded o => o.error.isSome
  | _ => false

/-- The operation was completed, by a token call, by rejection or by an exception. -/
def Occurred (log : List (Event R E)) : Prop := ∃ e ∈ log, e.isCompletion = true

instance (log : List (Event R E)) : Decidable (Occurred log) :=
  inferInstanceAs (Decidable (∃ e ∈ log, e.isCompletion = true))

/-- A call that will reach the section of `cleanup`. -/
def Call.owesCleanup (c : Call R E) : Bool :=
  match c.phase with
  | .entry => c.task.arguments.isNone
  | .consume _ _ | .release _ _ | .invoke _ | .cleanup => true
  | .resetOperation | .resetContext | .returned => false

lemma Moves.occurred {i : ℕ} {t : Task R E} {o o' : OperationState E} {ph ph' : Phase}
    {log events : List (Event R E)} (hm : Moves i t o ph o' ph' events)
    (h : Occurred (log ++ events)) : Occurred log := by
  obtain ⟨e, he, hcompl⟩ := h
  rcases List.mem_append.mp he with hold | hnew
  · exact ⟨e, hold, hcompl⟩
  · obtain ⟨hcalled, hconcluded⟩ := hm.not_command
    cases e with
    | called u => exact absurd hnew (hcalled u)
    | concluded c => exact absurd hnew (hconcluded c)
    | _ => cases hcompl

/-- Until the operation is retired, the rejection that the starting thread awaits is before
its section. -/
theorem Reachable.rejection_obligation (h : Reachable access s) :
    s.shared.starter = .awaitingRejection ∧ s.shared.state.retired = false →
      ∃ c ∈ s.procs, c.phase = .entry ∧ c.task.ofStarter = true ∧ c.task.retires = true := by
  refine Program.Reachable.obligation
    (fun v _ => v.starter = .awaitingRejection ∧ v.state.retired = false)
    (fun c => c.phase = .entry ∧ c.task.ofStarter = true ∧ c.task.retires = true)
    ?_ ?_ ?_ h
  · intro hneed
    cases hneed.1
  · intro s i c v' c' events _ hadv hneed
    obtain ⟨t, ph⟩ := c
    obtain ⟨o', ph', hm, rfl, rfl⟩ := threads_advance hadv
    obtain ⟨hst, hret⟩ := hneed
    refine .inr ⟨⟨hst, hm.not_retired_of_not_retired hret⟩, fun howes => ?_⟩
    have hret' := hm.entered (fun hne => absurd howes.1 hne) howes.2.2
    exact Bool.false_ne_true (hret.symm.trans hret')
  · intro s k v' new events _ hcmd hneed
    have ho := Invocation.command_obeys hcmd
    cases ho with
    | token => exact .inr hneed
    | reject => exact .inl ⟨_, List.mem_singleton_self _, rfl, rfl, rfl⟩
    | _ => cases hneed.1

/-- Until the operation is retired, a retiring token call is before its section. -/
theorem Reachable.retirement_obligation (h : Reachable access s) :
    (∃ t, .called t ∈ s.log ∧ t.retires = true) ∧ s.shared.state.retired = false →
      ∃ c ∈ s.procs, c.phase = .entry ∧ c.task.retires = true := by
  refine Program.Reachable.obligation
    (fun v log => (∃ t, .called t ∈ log ∧ t.retires = true) ∧ v.state.retired = false)
    (fun c => c.phase = .entry ∧ c.task.retires = true) ?_ ?_ ?_ h
  · rintro ⟨⟨t, ht, -⟩, -⟩
    cases ht
  · intro s i c v' c' events _ hadv hneed
    obtain ⟨t, ph⟩ := c
    obtain ⟨o', ph', hm, rfl, rfl⟩ := threads_advance hadv
    obtain ⟨⟨u, hu, hur⟩, hret⟩ := hneed
    have hold := (List.mem_append.mp hu).resolve_right (hm.not_command.1 u)
    refine .inr ⟨⟨⟨u, hold, hur⟩, hm.not_retired_of_not_retired hret⟩, fun howes => ?_⟩
    have hret' := hm.entered (fun hne => absurd howes.1 hne) howes.2
    exact Bool.false_ne_true (hret.symm.trans hret')
  · intro s k v' new events _ hcmd hneed
    obtain ⟨⟨u, hu, hur⟩, hret⟩ := hneed
    have ho := Invocation.command_obeys hcmd
    rcases List.mem_append.mp hu with hold | hnew
    · refine .inr ⟨⟨u, hold, hur⟩, ?_⟩
      cases ho <;> exact hret
    · cases ho with
      | token =>
        cases List.mem_singleton.mp hnew
        exact .inl ⟨_, List.mem_singleton_self _, rfl, hur⟩
      | _ => simp at hnew

/-- The operation was completed but not delivered, and no error waits in the shared state. -/
structure Undelivered (v : Invocation E) (log : List (Event R E)) : Prop where
  occurred : Occurred log
  delivered : v.state.delivered = false
  pending : v.state.pendingDetach = none
  rejecting : ∀ e, v.starter ≠ .rejecting e

/-- A call that completes the operation leaves its entry only when it delivers, or leaves its
error behind. -/
lemma Moves.undelivered {i : ℕ} {t : Task R E} {v : Invocation E} {o' : OperationState E}
    {ph ph' : Phase} {log events : List (Event R E)} (hm : Moves i t v.state ph o' ph' events)
    (hflags : Flags access v) (h : Undelivered { v with state := o' } (log ++ events)) :
    Undelivered v log ∧ ¬ (ph = .entry ∧ t.arguments.isSome = true) := by
  obtain ⟨hocc, hdel, hpend, hst⟩ := h
  have hold := hm.occurred hocc
  cases hm with
  | enter harg => exact ⟨⟨hold, hdel, hpend, hst⟩, by simp [harg]⟩
  | record harg hsub => simp at hpend
  | late harg hret =>
    exact absurd (hdel.symm.trans (hflags.delivered_of_retired hret)) Bool.false_ne_true
  | retire harg hret => cases hdel
  | observe harg hsub => cases hdel
  | _ => exact ⟨⟨hold, hdel, hpend, hst⟩, by simp⟩

/-- A command that completes the operation, or takes an error out of the shared state, starts
the call that delivers it. -/
lemma Obeys.undelivered {v v' : Invocation E} {calls new : List (Call R E)}
    {log events : List (Event R E)} (ho : Obeys v calls v' new events) (hflags : Flags access v)
    (h : Undelivered v' (log ++ events)) :
    (∃ c ∈ new, c.phase = .entry ∧ c.task.arguments.isSome = true) ∨ Undelivered v log := by
  obtain ⟨⟨e, he, hcompl⟩, hdel, hpend, hst⟩ := h
  cases ho with
  | token ht =>
    rename_i t
    refine .inl ⟨_, List.mem_singleton_self _, rfl, ?_⟩
    cases t with
    | finish r => rfl
    | detach e => rfl
    | reject e => cases ht
    | deferredDetach e => cases ht
    | cleanup => cases ht
  | reject => exact .inl ⟨_, List.mem_singleton_self _, rfl, rfl⟩
  | deferDetach => exact .inl ⟨_, List.mem_singleton_self _, rfl, rfl⟩
  | refuse => exact absurd rfl (hst _)
  | abort hst' hret =>
    exact absurd (hdel.symm.trans (hflags.delivered_of_retired hret)) Bool.false_ne_true
  | accept hst' =>
    rcases List.mem_append.mp he with hold | hnew
    · exact .inr ⟨⟨e, hold, hcompl⟩, hdel, hpend, by simp [hst']⟩
    · cases List.mem_singleton.mp hnew
      cases hcompl
  | submitted hst' hp =>
    have hold : e ∈ log := List.append_nil log ▸ he
    exact .inr ⟨⟨e, hold, hcompl⟩, hdel, hp, by simp [hst']⟩
  | rejectionReturned hst' | detachReturned hst' | cleanupReturned hst' =>
    have hold : e ∈ log := List.append_nil log ▸ he
    exact .inr ⟨⟨e, hold, hcompl⟩, hdel, hpend, by simp [hst']⟩

/-- A completed operation is delivered, or its error waits in the shared state, or a call
that completes it is before its section. -/
theorem Reachable.delivery_obligation (h : Reachable access s) :
    Undelivered s.shared s.log →
      ∃ c ∈ s.procs, c.phase = .entry ∧ c.task.arguments.isSome = true := by
  refine Program.Reachable.obligation Undelivered
    (fun c => c.phase = .entry ∧ c.task.arguments.isSome = true) ?_ ?_ ?_ h
  · rintro ⟨⟨e, he, -⟩, -⟩
    cases he
  · intro s i c v' c' events hreach hadv hneed
    have hflags : Flags access s.shared := Reachable.flags hreach
    obtain ⟨t, ph⟩ := c
    obtain ⟨o', ph', hm, rfl, rfl⟩ := threads_advance hadv
    exact .inr (hm.undelivered hflags hneed)
  · intro s k v' new events hreach hcmd hneed
    have hflags : Flags access s.shared := Reachable.flags hreach
    exact (Invocation.command_obeys hcmd).undelivered hflags hneed

/-- Until the slots are claimed, a cleanup of a retired operation is on its way. -/
theorem Reachable.cleanup_obligation (h : Reachable access s) :
    s.shared.state.retired = true ∧ s.shared.state.submitting = false ∧
        s.shared.state.cleaned = false ∧ s.shared.starter ≠ .awaitingDetach →
      ∃ c ∈ s.procs, c.owesCleanup = true := by
  refine Program.Reachable.obligation
    (fun v _ => v.state.retired = true ∧ v.state.submitting = false ∧
      v.state.cleaned = false ∧ v.starter ≠ .awaitingDetach)
    (fun c => c.owesCleanup = true) ?_ ?_ ?_ h
  · rintro ⟨hret, -⟩
    cases hret
  · intro s i c v' c' events _ hadv hneed
    obtain ⟨t, ph⟩ := c
    obtain ⟨o', ph', hm, rfl, rfl⟩ := threads_advance hadv
    obtain ⟨hret, hsub, hcl, hst⟩ := hneed
    cases hm with
    | record harg | late harg =>
      exact .inr ⟨⟨hret, hsub, hcl, hst⟩, by simp [Call.owesCleanup, harg]⟩
    | leave hleave =>
      exact absurd (hcl.symm.trans (hleave hret hsub)) Bool.false_ne_true
    | claim => cases hcl
    | resetOperation | resetContext =>
      exact .inr ⟨⟨hret, hsub, hcl, hst⟩, by simp [Call.owesCleanup]⟩
    | _ => exact .inl rfl
  · intro s k v' new events _ hcmd hneed
    obtain ⟨hret, hsub, hcl, hst⟩ := hneed
    have ho := Invocation.command_obeys hcmd
    cases ho with
    | deferDetach => exact absurd rfl hst
    | submitted => exact .inl ⟨_, List.mem_singleton_self _, rfl⟩
    | detachReturned => exact .inl ⟨_, List.mem_singleton_self _, rfl⟩
    | token => exact .inr ⟨hret, hsub, hcl, hst⟩
    | accept hst' | refuse hst' | abort hst' | reject hst' | rejectionReturned hst'
      | cleanupReturned hst' => exact .inr ⟨hret, hsub, hcl, by simp [hst']⟩

/-! ## Agreement -/

/-- The starting thread is past the rejection, if there is one. -/
def Starter.settled : Starter E → Bool
  | .submitting | .awaitingDetach | .awaitingCleanup | .returned => true
  | .body | .rejecting _ | .awaitingRejection | .aborted => false

lemma Starter.settled_of_inSubmission {x : Starter E} (h : x.inSubmission = false) :
    x.settled = true := by
  cases x with
  | body | rejecting | awaitingRejection | submitting | aborted => cases h
  | awaitingDetach | awaitingCleanup | returned => rfl

lemma Starter.hasConcluded_of_inSubmission {x : Starter E} (h : x.inSubmission = false) :
    x.hasConcluded = true := by
  cases x with
  | body => cases h
  | _ => rfl

/-- Whose outcome the handler receives. -/
structure Agreement (v : Invocation E) (log : List (Event R E)) : Prop where
  retired_of_settled : v.starter.settled = true → ∀ e, Refusal log e → v.state.retired = true
  delivered_of_retired :
    v.state.submitting = true → ∀ i t, .retired i t ∈ log → .delivered i t ∈ log
  retired_of_delivered : (v.state.submitting = true ∨ ∃ e, Refusal log e) →
    ∀ i t, .delivered i t ∈ log → .retired i t ∈ log

lemma Moves.refusal {i : ℕ} {t : Task R E} {o o' : OperationState E} {ph ph' : Phase}
    {log events : List (Event R E)} {e : E} (hm : Moves i t o ph o' ph' events)
    (h : Refusal (log ++ events) e) : Refusal log e := by
  obtain ⟨c, hc, herr⟩ := h
  exact ⟨c, (List.mem_append.mp hc).resolve_right (hm.not_command.2 c), herr⟩

lemma Agreement.moves {i : ℕ} {t : Task R E} {v : Invocation E} {o' : OperationState E}
    {ph ph' : Phase} {log events : List (Event R E)} (hv : Agreement v log)
    (hflags : Flags access v) (hm : Moves i t v.state ph o' ph' events) :
    Agreement { v with state := o' } (log ++ events) := by
  constructor
  · intro hset e he
    exact hm.retired_of_retired (hv.retired_of_settled hset e (hm.refusal he))
  · intro hsub j u hret
    replace hsub : v.state.submitting = true := hm.submitting_eq ▸ hsub
    rcases List.mem_append.mp hret with hold | hnew
    · exact List.mem_append_left _ (hv.delivered_of_retired hsub j u hold)
    · -- nothing was delivered before the first retirement
      obtain ⟨rfl, rfl, -, hnot, hdel⟩ := hm.of_retired hnew
      refine List.mem_append_right _ (hdel (eq_false_of_ne_true fun hd => ?_))
      exact absurd (hflags.retired_of_delivered hsub hd) (by simp [hnot])
  · intro hcase j u hdel
    replace hcase : v.state.submitting = true ∨ ∃ e, Refusal log e := by
      rcases hcase with hsub | ⟨e, he⟩
      · exact .inl (hm.submitting_eq ▸ hsub)
      · exact .inr ⟨e, hm.refusal he⟩
    rcases List.mem_append.mp hdel with hold | hnew
    · exact List.mem_append_left _ (hv.retired_of_delivered hcase j u hold)
    · obtain ⟨rfl, rfl, -, hnot, hret | hsub⟩ := hm.of_delivered hnew
      · exact List.mem_append_right _ hret
      · -- a detach after submission comes too late for a rejected operation
        rcases hcase with hsub' | ⟨e, he⟩
        · exact absurd hsub' (by simp [hsub])
        · have hset := Starter.settled_of_inSubmission (hflags.submitting_eq ▸ hsub)
          have hret := hv.retired_of_settled hset e he
          exact absurd (hflags.delivered_of_retired hret) (by simp [hnot])

/-- Commands log no retirement and no delivery. -/
lemma Obeys.not_delivery {v v' : Invocation E} {calls new : List (Call R E)}
    {events : List (Event R E)} (ho : Obeys v calls v' new events) (i : ℕ) (t : Task R E) :
    .retired i t ∉ events ∧ .delivered i t ∉ events := by
  cases ho <;> simp

/-- A command other than the end of the submit body refuses nothing. -/
lemma refusal_append {log events : List (Event R E)} {e : E}
    (hnot : ∀ o, .concluded o ∈ events → o.error = none) (h : Refusal (log ++ events) e) :
    Refusal log e := by
  obtain ⟨o, ho, herr⟩ := h
  rcases List.mem_append.mp ho with hold | hnew
  · exact ⟨o, hold, herr⟩
  · exact absurd herr (by simp [hnot o hnew])

lemma Reachable.not_refusal_of_body (h : Reachable access s) (hst : s.shared.starter = .body)
    (e : E) : ¬ Refusal s.log e := by
  rintro ⟨o, ho, -⟩
  have hended := flag_of_mem h.concluded_balance ho rfl
  rw [hst] at hended
  cases hended

lemma Reachable.retired_of_rejectionReturned (h : Reachable access s)
    (hst : s.shared.starter = .awaitingRejection) (hown : ownCallsReturned s.procs = true) :
    s.shared.state.retired = true := by
  refine eq_true_of_ne_false fun hret => ?_
  obtain ⟨c, hc, hentry, howner, -⟩ := h.rejection_obligation ⟨hst, hret⟩
  exact absurd (List.all_eq_true.mp hown c hc) (by simp [howner, hentry])

/-- A command neither opens submission again nor, unless it ends the submit body, refuses the
operation. -/
lemma Obeys.in_submission {v v' : Invocation E} {calls new : List (Call R E)}
    {log events : List (Event R E)} (ho : Obeys v calls v' new events) (hflags : Flags access v)
    (h : v'.state.submitting = true ∨ ∃ e, Refusal (log ++ events) e) :
    v.state.submitting = true ∨ ∃ e, Refusal log e := by
  cases ho with
  | refuse hst =>
    rw [hflags.submitting_eq, hst]
    exact .inl rfl
  | deferDetach | submitted =>
    rcases h with hsub | ⟨e, he⟩
    · cases hsub
    · exact .inr ⟨e, refusal_append (by simp) he⟩
  | _ =>
    rcases h with hsub | ⟨e, he⟩
    · exact .inl hsub
    · exact .inr ⟨e, refusal_append (by simp [Outcome.error]) he⟩

lemma Agreement.obeys {v v' : Invocation E} {calls new : List (Call R E)}
    {log events : List (Event R E)} (hv : Agreement v log) (hflags : Flags access v)
    (ho : Obeys v calls v' new events) (hbody : v.starter = .body → ∀ e, ¬ Refusal log e)
    (hrejected : v.starter = .awaitingRejection → ownCallsReturned calls = true →
      v.state.retired = true) :
    Agreement v' (log ++ events) := by
  constructor
  · intro hset e he
    cases ho with
    | token => exact hv.retired_of_settled hset e (refusal_append (by simp) he)
    | accept hst => exact absurd (refusal_append (by simp [Outcome.error]) he) (hbody hst e)
    | refuse | abort | reject => cases hset
    | rejectionReturned hst hown => exact hrejected hst hown
    | deferDetach hst | submitted hst | detachReturned hst | cleanupReturned hst =>
      have hset' : v.starter.settled = true := by rw [hst]; rfl
      exact hv.retired_of_settled hset' e (refusal_append (by simp) he)
  · intro hsub i t hret
    have hold := (List.mem_append.mp hret).resolve_right (ho.not_delivery i t).1
    apply List.mem_append_left
    cases ho with
    | deferDetach | submitted => cases hsub
    | _ => exact hv.delivered_of_retired hsub i t hold
  · intro hcase i t hdel
    have hold := (List.mem_append.mp hdel).resolve_right (ho.not_delivery i t).2
    exact List.mem_append_left _ (hv.retired_of_delivered (ho.in_submission hflags hcase) i t hold)

theorem Reachable.agreement (h : Reachable access s) : Agreement s.shared s.log := by
  refine Program.Reachable.global_invariant (G := Agreement) ?_ ?_ ?_ h
  · constructor
    · intro hset
      cases hset
    · intro _ i t hret
      cases hret
    · intro _ i t hdel
      cases hdel
  · intro s i c v' c' events hreach hv hadv
    obtain ⟨t, ph⟩ := c
    obtain ⟨o', ph', hm, rfl, rfl⟩ := threads_advance hadv
    have hflags : Flags access s.shared := Reachable.flags hreach
    exact hv.moves hflags hm
  · intro s k v' new events hreach hv hcmd
    have ho := Invocation.command_obeys hcmd
    have hreach' : Reachable access s := hreach
    exact hv.obeys hreach'.flags ho hreach'.not_refusal_of_body hreach'.retired_of_rejectionReturned

end Dynabridge.Async
