import Dynabridge.Async.OperationState

/-!
# What holds in every reachable state of an operation

The flags constrain one another (`Flags`).  The slots, the calls that are about to empty them
and the events logged when they were emptied balance (the laws of `## Balances`); each law is
the count of one resource.  `Located` says what a call knows at its program counter, and
`Justified` what a logged event knows.  Two obligations give progress: a retired operation is
cleaned by someone, and an operation that was completed is delivered by someone.
-/

namespace Dynabridge.Async

open Interleaving

variable {R E : Type} {access : Bool} {s : System R E}

/-! ## Flags -/

/-- How the flags of the state and the place of the starting thread constrain one another. -/
structure Flags (access : Bool) (v : Invocation E) : Prop where
  delivered_of_retired : v.state.retired = true → v.state.delivered = true
  retired_of_delivered :
    v.state.submitting = true → v.state.delivered = true → v.state.retired = true
  retired_of_cleaned : v.state.cleaned = true → v.state.retired = true
  submitted_of_cleaned : v.state.cleaned = true → v.state.submitting = false
  access_eq : v.state.access = (access && !v.state.retired)
  submitting_of_pending : v.state.pendingDetach.isSome = true → v.state.submitting = true
  submitting_eq : v.state.submitting = v.starter.inSubmission

lemma Flags.moves {i : ℕ} {t : Task R E} {v : Invocation E} {ph ph' : Phase}
    {s' : OperationState E} {events : List (Event R E)} (hv : Flags access v)
    (hm : Moves i t v.state ph s' ph' events) : Flags access { v with state := s' } := by
  obtain ⟨h₁, h₂, h₃, h₄, h₅, h₆, h₇⟩ := hv
  cases hm with
  | record h hsub => exact ⟨h₁, h₂, h₃, h₄, h₅, fun _ => hsub, h₇⟩
  | retire h hret =>
    exact ⟨fun _ => rfl, fun _ _ => rfl, fun _ => rfl, h₄, (Bool.and_false _).symm, h₆, h₇⟩
  | observe h hsub =>
    refine ⟨fun _ => rfl, fun hs _ => ?_, h₃, h₄, h₅, h₆, h₇⟩
    have hcontra : true = false := hs.symm.trans hsub
    cases hcontra
  | claim hret hsub hcl => exact ⟨h₁, h₂, fun _ => hret, fun _ => hsub, h₅, h₆, h₇⟩
  | _ => exact ⟨h₁, h₂, h₃, h₄, h₅, h₆, h₇⟩

lemma Flags.obeys {v v' : Invocation E} {calls new : List (Call R E)}
    {events : List (Event R E)} (hv : Flags access v) (ho : Obeys v calls v' new events) :
    Flags access v' := by
  obtain ⟨h₁, h₂, h₃, h₄, h₅, h₆, h₇⟩ := hv
  cases ho with
  | token => exact ⟨h₁, h₂, h₃, h₄, h₅, h₆, h₇⟩
  | deferDetach h hpend | submitted h hpend =>
    refine ⟨h₁, ?_, h₃, fun _ => rfl, h₅, ?_, rfl⟩
    · intro hsub
      cases hsub
    · intro hsome
      cases hsome
  | accept h | refuse h | abort h | reject h | rejectionReturned h | detachReturned h
    | cleanupReturned h =>
    refine ⟨h₁, h₂, h₃, h₄, h₅, h₆, ?_⟩
    rw [h₇, h]
    rfl

theorem Reachable.flags (h : Reachable access s) : Flags access s.shared := by
  refine Program.Reachable.global_invariant (G := fun v _ => Flags access v) ?_ ?_ ?_ h
  · refine ⟨?_, ?_, ?_, ?_, ?_, ?_, rfl⟩ <;>
      simp [System.start, OperationState.construct]
  · intro s i c v' c' events _ hv hadv
    obtain ⟨t, ph⟩ := c
    obtain ⟨s', ph', hm, rfl, rfl⟩ := threads_advance hadv
    exact hv.moves hm
  · intro s k v' new events _ hv hcmd
    exact hv.obeys (Invocation.command_obeys hcmd)

/-! ## Balances -/

/-- A call about to empty the handler slot. -/
@[simp] def Phase.consuming : Phase → Bool
  | .consume consumeHandler _ => consumeHandler
  | _ => false

/-- A call that has yet to invoke the handler. -/
@[simp] def Phase.delivering : Phase → Bool
  | .consume consumeHandler _ => consumeHandler
  | .release callback _ => callback
  | .invoke callback => callback
  | _ => false

/-- A call that holds the access owner. -/
@[simp] def Phase.releasing : Phase → Bool
  | .consume _ releaseAccess => releaseAccess
  | .release _ releaseAccess => releaseAccess
  | _ => false

/-- A call that has claimed the slots and has yet to reset the operation. -/
@[simp] def Phase.resettingOperation : Phase → Bool
  | .resetOperation => true
  | _ => false

/-- A call that has claimed the slots and has yet to reset the context. -/
@[simp] def Phase.resettingContext : Phase → Bool
  | .resetOperation => true
  | .resetContext => true
  | _ => false

@[simp] def Event.isConcluded : Event R E → Bool
  | .concluded _ => true
  | _ => false

@[simp] def Event.isRetired : Event R E → Bool
  | .retired _ _ => true
  | _ => false

@[simp] def Event.isDelivered : Event R E → Bool
  | .delivered _ _ => true
  | _ => false

@[simp] def Event.isAccessReleased : Event R E → Bool
  | .accessReleased _ => true
  | _ => false

@[simp] def Event.isHandled : Event R E → Bool
  | .handled _ _ => true
  | _ => false

@[simp] def Event.isOperationReleased : Event R E → Bool
  | .operationReleased _ => true
  | _ => false

@[simp] def Event.isContextReleased : Event R E → Bool
  | .contextReleased _ => true
  | _ => false

/-- The submit body has ended. -/
@[simp] def Starter.hasConcluded : Starter E → Bool
  | .body => false
  | _ => true

/-- A balance of this system.  Calls that have not entered their first section take no part
in it. -/
lemma Reachable.balance {w : Phase → Bool} {v : Event R E → Bool} {g f : Invocation E → ℕ}
    (init : g (System.start (R := R) access).shared = f (System.start (R := R) access).shared)
    (entry : w .entry = false)
    (moves : ∀ i t (o : Invocation E) ph s' ph' events, Moves i t o.state ph s' ph' events →
      (w ph).toNat + g o ≤ f o →
      (w ph').toNat + events.countP v + g { o with state := s' } + f o =
        (w ph).toNat + g o + f { o with state := s' })
    (obeys : ∀ o (calls : List (Call R E)) o' new events, Obeys o calls o' new events →
      events.countP v + g o' + f o = g o + f o')
    (h : Reachable access s) :
    s.procs.countP (fun c => w c.phase) + s.log.countP v + g s.shared = f s.shared := by
  refine Program.Reachable.conservation (w := fun c => w c.phase) ?_ ?_ ?_ h
  · exact (Nat.zero_add _).trans init
  · intro s i c o' c' events _ _ hadv hle
    obtain ⟨t, ph⟩ := c
    obtain ⟨s', ph', hm, rfl, rfl⟩ := threads_advance hadv
    exact moves i t s.shared ph s' ph' events hm hle
  · intro s k o' new events _ hcmd
    have ho := Invocation.command_obeys hcmd
    have hnew : new.countP (fun c => w c.phase) = 0 := by
      rw [List.countP_eq_zero]
      intro c hc
      rw [ho.entry c hc, entry]
      exact Bool.false_ne_true
    rw [hnew, Nat.zero_add]
    exact obeys s.shared s.procs o' new events ho

/-- The handler is in its slot until it is delivered, or while a call is about to take it. -/
theorem Reachable.handler_balance (h : Reachable access s) :
    s.procs.countP (fun c => c.phase.consuming) + (!s.shared.state.delivered).toNat =
      s.shared.state.handler.toNat := by
  have hbal := h.balance (w := Phase.consuming) (v := fun _ => false)
    (g := fun o => (!o.state.delivered).toNat) (f := fun o => o.state.handler.toNat) ?_ rfl ?_ ?_
  · simpa using hbal
  · simp [System.start, OperationState.construct]
  · intro i t o ph s' ph' events hm hle
    cases hm <;> simp_all [Nat.add_comm]
  · intro o calls o' new events ho
    cases ho <;> simp_all [OperationState.submittedSection, Nat.add_comm]

/-- A call that may find the handler in its slot is never stuck before it returns. -/
lemma OperationState.advance_isSome {o : OperationState E} {ph : Phase} (i : ℕ) (t : Task R E)
    (hhandler : ph.consuming = true → o.handler = true) (hrun : ph ≠ .returned) :
    (o.advance i t ph).isSome = true := by
  cases ph with
  | entry =>
    cases harg : t.arguments with
    | none => simp [advance, harg]
    | some arg =>
      simp only [advance, harg]
      split <;> rfl
  | consume b a =>
    cases b with
    | true => simp [advance, hhandler rfl]
    | false => rfl
  | returned => exact absurd rfl hrun
  | _ => rfl

/-- No call dereferences an empty handler slot: until it returns, every call can go on. -/
theorem Reachable.advance_isSome (h : Reachable access s) {i : ℕ} {c : Call R E}
    (hc : s.procs[i]? = some c) (hrun : c.phase ≠ .returned)
    (hlive : s.shared.starter.isAborted = false) :
    ((threads R E).advance i s.shared c).isSome = true := by
  have hhandler : c.phase.consuming = true → s.shared.state.handler = true := by
    intro hcons
    have hshare := Program.toNat_le_countP (fun c => c.phase.consuming) (List.mem_of_getElem? hc)
    have hbal := h.handler_balance
    refine eq_true_of_ne_false fun hempty => ?_
    simp only [hcons, hempty, Bool.toNat_true, Bool.toNat_false] at hshare hbal
    omega
  have hstep := OperationState.advance_isSome i c.task hhandler hrun
  simpa [threads, hlive] using hstep

/-- The handler is invoked, or about to be, exactly when it is delivered. -/
theorem Reachable.handled_balance (h : Reachable access s) :
    s.procs.countP (fun c => c.phase.delivering) + s.log.countP Event.isHandled =
      s.shared.state.delivered.toNat := by
  have hbal := h.balance (w := Phase.delivering) (v := Event.isHandled)
    (g := fun _ => 0) (f := fun o => o.state.delivered.toNat) ?_ rfl ?_ ?_
  · simpa using hbal
  · simp [System.start, OperationState.construct]
  · intro i t o ph s' ph' events hm hle
    cases hm <;> simp_all [Nat.add_comm]
  · intro o calls o' new events ho
    cases ho <;> simp_all [OperationState.submittedSection]

/-- One call delivers. -/
theorem Reachable.delivered_balance (h : Reachable access s) :
    s.log.countP Event.isDelivered = s.shared.state.delivered.toNat := by
  have hbal := h.balance (w := fun _ => false) (v := Event.isDelivered)
    (g := fun _ => 0) (f := fun o => o.state.delivered.toNat) ?_ rfl ?_ ?_
  · simpa using hbal
  · simp [System.start, OperationState.construct]
  · intro i t o ph s' ph' events hm hle
    cases hm <;> simp_all [Nat.add_comm]
  · intro o calls o' new events ho
    cases ho <;> simp_all [OperationState.submittedSection]

/-- One call retires. -/
theorem Reachable.retired_balance (h : Reachable access s) :
    s.log.countP Event.isRetired = s.shared.state.retired.toNat := by
  have hbal := h.balance (w := fun _ => false) (v := Event.isRetired)
    (g := fun _ => 0) (f := fun o => o.state.retired.toNat) ?_ rfl ?_ ?_
  · simpa using hbal
  · simp [System.start, OperationState.construct]
  · intro i t o ph s' ph' events hm hle
    cases hm <;> simp_all [List.countP_cons]
  · intro o calls o' new events ho
    cases ho <;> simp_all [OperationState.submittedSection]

/-- The access owner is in its slot, or with the call that took it, or released. -/
theorem Reachable.access_balance (h : Reachable access s) :
    s.procs.countP (fun c => c.phase.releasing) + s.log.countP Event.isAccessReleased +
      s.shared.state.access.toNat = access.toNat := by
  have hbal := h.balance (w := Phase.releasing) (v := Event.isAccessReleased)
    (g := fun o => o.state.access.toNat) (f := fun _ => access.toNat) ?_ rfl ?_ ?_
  · simpa using hbal
  · simp [System.start, OperationState.construct]
  · intro i t o ph s' ph' events hm hle
    cases hm <;> simp_all [Nat.add_comm]
  · intro o calls o' new events ho
    cases ho <;> simp_all [OperationState.submittedSection, Nat.add_comm]

/-- The operation is in its slot until the slots are claimed, or while their claimant is about to
reset it. -/
theorem Reachable.operation_balance (h : Reachable access s) :
    s.procs.countP (fun c => c.phase.resettingOperation) + (!s.shared.state.cleaned).toNat =
      s.shared.state.operation.toNat := by
  have hbal := h.balance (w := Phase.resettingOperation) (v := fun _ => false)
    (g := fun o => (!o.state.cleaned).toNat) (f := fun o => o.state.operation.toNat) ?_ rfl ?_ ?_
  · simpa using hbal
  · simp [System.start, OperationState.construct]
  · intro i t o ph s' ph' events hm hle
    cases hm with
    | resetOperation =>
      -- the claimant's own share shows that the slot still holds the operation
      cases hop : o.state.operation <;> cases hcl : o.state.cleaned <;> simp_all
    | _ => simp_all [Nat.add_comm]
  · intro o calls o' new events ho
    cases ho <;> simp_all [OperationState.submittedSection, Nat.add_comm]

/-- The context is in its slot until the slots are claimed, or while their claimant is about to
reset it. -/
theorem Reachable.context_balance (h : Reachable access s) :
    s.procs.countP (fun c => c.phase.resettingContext) + (!s.shared.state.cleaned).toNat =
      s.shared.state.context.toNat := by
  have hbal := h.balance (w := Phase.resettingContext) (v := fun _ => false)
    (g := fun o => (!o.state.cleaned).toNat) (f := fun o => o.state.context.toNat) ?_ rfl ?_ ?_
  · simpa using hbal
  · simp [System.start, OperationState.construct]
  · intro i t o ph s' ph' events hm hle
    cases hm with
    | resetContext =>
      -- the claimant's own share shows that the slot still holds the context
      cases hop : o.state.context <;> cases hcl : o.state.cleaned <;> simp_all
    | _ => simp_all [Nat.add_comm]
  · intro o calls o' new events ho
    cases ho <;> simp_all [OperationState.submittedSection, Nat.add_comm]

/-- One claimant resets the operation. -/
theorem Reachable.operationReleased_balance (h : Reachable access s) :
    s.procs.countP (fun c => c.phase.resettingOperation) +
      s.log.countP Event.isOperationReleased + (!s.shared.state.cleaned).toNat = 1 := by
  have hbal := h.balance (w := Phase.resettingOperation) (v := Event.isOperationReleased)
    (g := fun o => (!o.state.cleaned).toNat) (f := fun _ => 1) ?_ rfl ?_ ?_
  · simpa using hbal
  · simp [System.start, OperationState.construct]
  · intro i t o ph s' ph' events hm hle
    cases hm <;> simp_all [Nat.add_comm]
  · intro o calls o' new events ho
    cases ho <;> simp_all [OperationState.submittedSection]

/-- One claimant resets the context. -/
theorem Reachable.contextReleased_balance (h : Reachable access s) :
    s.procs.countP (fun c => c.phase.resettingContext) +
      s.log.countP Event.isContextReleased + (!s.shared.state.cleaned).toNat = 1 := by
  have hbal := h.balance (w := Phase.resettingContext) (v := Event.isContextReleased)
    (g := fun o => (!o.state.cleaned).toNat) (f := fun _ => 1) ?_ rfl ?_ ?_
  · simpa using hbal
  · simp [System.start, OperationState.construct]
  · intro i t o ph s' ph' events hm hle
    cases hm <;> simp_all [Nat.add_comm]
  · intro o calls o' new events ho
    cases ho <;> simp_all [OperationState.submittedSection]

/-- The submit body ends once. -/
theorem Reachable.concluded_balance (h : Reachable access s) :
    s.log.countP Event.isConcluded = s.shared.starter.hasConcluded.toNat := by
  have hbal := h.balance (w := fun _ => false) (v := Event.isConcluded)
    (g := fun _ => 0) (f := fun o => o.starter.hasConcluded.toNat) ?_ rfl ?_ ?_
  · simpa using hbal
  · simp [System.start, OperationState.construct]
  · intro i t o ph s' ph' events hm hle
    cases hm <;> simp_all
  · intro o calls o' new events ho
    cases ho <;> simp_all

end Dynabridge.Async
