import Dynabridge.Async.Awaitables

/-!
# Awaitables are resumed once

`Awaitables.Accounted` balances, for each awaitable, what its `submit` has resumed it with and the
submissions that carry its lambda against whether it was submitted.  Every event keeps it.
-/

namespace Dynabridge.Async

open Function Interleaving InvocationOperation Ownership Spawning

variable {K R E : Type}

/-- How an awaitable changes: it keeps what it was resumed with, and is not submitted when it is
gone. -/
structure Awaitable.Advances (w w' : Awaitable R E) : Prop where
  resumed : w.resumed.Sublist w'.resumed
  gone : w.gone = true → w'.gone = true
  submitted : w.submitted = true → w'.submitted = true
  frozen : w.gone = true → w'.submitted = w.submitted

lemma Awaitable.Advances.refl (w : Awaitable R E) : w.Advances w :=
  ⟨List.Sublist.refl _, id, id, fun _ => rfl⟩

lemma Awaitable.Advances.trans {w w' w'' : Awaitable R E} (h : w.Advances w')
    (h' : w'.Advances w'') : w.Advances w'' :=
  ⟨h.resumed.trans h'.resumed, h'.gone ∘ h.gone, h'.submitted ∘ h.submitted,
    fun hgone => (h'.frozen (h.gone hgone)).trans (h.frozen hgone)⟩

/-! ## The account -/

namespace Awaitables

variable {s : Awaitables K R E} {a : ℕ}

/-- The submissions whose handler resumes the awaitable. -/
def forwarded (submitted : List (Submission (Continuation K))) (a : ℕ) : ℕ :=
  submitted.countP (Submission.forwardsTo a)

/-- The runner has submitted the awaitable. -/
def started (s : Awaitables K R E) (a : ℕ) : Bool := (s.awaitable a).any Awaitable.submitted

/-- A submitted awaitable was resumed by its `submit`, or one submission resumes it. -/
def Balanced (invocations : Invocations (Continuation K)) (a : ℕ) (resumed : List (Except E R))
    (started : Bool) : Prop :=
  resumed.length + forwarded invocations.submitted a ≤ started.toNat ∧
    (invocations.aborted = false →
      resumed.length + forwarded invocations.submitted a = started.toNat)

/-- What holds of the awaitables of a program. -/
structure Accounted (s : Awaitables K R E) : Prop where
  kept : s.invocations.Kept
  balanced : ∀ a, Balanced s.invocations a (s.resumed a) (s.started a)
  slot : ∀ a w slot, s.awaitable a = some w → w.call = some slot →
    slot ∈ s.slots ∧ s.invocations.object slot ≠ none ∧ w.submitted = false
  distinct : ∀ a a' w w' slot, s.awaitable a = some w → s.awaitable a' = some w' →
    w.call = some slot → w'.call = some slot → a = a'

lemma accounted_new : ({} : Awaitables K R E).Accounted := by
  refine ⟨Invocations.kept_new, fun a => ⟨Nat.zero_le _, fun _ => rfl⟩, ?_, ?_⟩
  · intro a w slot hw
    cases hw
  · intro a a' w w' slot hw
    cases hw

/-- Awaitables that were not submitted have not been resumed, and nothing resumes them. -/
lemma Accounted.untouched (h : s.Accounted) (hstarted : s.started a = false) :
    s.resumed a = [] ∧ forwarded s.invocations.submitted a = 0 := by
  have hle := (h.balanced a).1
  rw [hstarted, Bool.toNat_false] at hle
  exact ⟨List.length_eq_zero_iff.mp (by omega), by omega⟩

lemma started_eq_false (ha : (s.awaitable a).isNone = true) : s.started a = false := by
  rw [started, Option.isNone_iff_eq_none.mp ha]
  rfl

lemma resumed_eq {w : Awaitable R E} (hw : s.awaitable a = some w) : s.resumed a = w.resumed := by
  rw [resumed, hw]
  rfl

lemma started_eq {w : Awaitable R E} (hw : s.awaitable a = some w) :
    s.started a = w.submitted := by
  rw [started, hw]
  rfl

/-- The invocations change, but not those inside awaitables, and no lambda of an awaitable is
passed. -/
lemma Accounted.of_invocations (h : s.Accounted) (hrunning : s.invocations.aborted = false)
    {invocations : Invocations (Continuation K)} (hkept : invocations.Kept)
    (hobject : ∀ o ∈ s.slots, invocations.object o = s.invocations.object o)
    (hforwarded : ∀ a, forwarded invocations.submitted a = forwarded s.invocations.submitted a)
    (flow : ℕ → Option (Flow R E)) :
    Accounted { s with invocations := invocations, flow := flow } := by
  refine ⟨hkept, fun a => ?_, fun a w slot hw hcall => ?_, h.distinct⟩
  · have heq := (h.balanced a).2 hrunning
    rw [Balanced, hforwarded a]
    exact ⟨heq.le, fun _ => heq⟩
  · obtain ⟨hslot, hthere, hsubmitted⟩ := h.slot a w slot hw hcall
    refine ⟨hslot, ?_, hsubmitted⟩
    dsimp only
    rw [hobject slot hslot]
    exact hthere

/-- One awaitable changes, and the invocations, but not those inside other awaitables. -/
lemma Accounted.of_awaitable (h : s.Accounted) (hrunning : s.invocations.aborted = false)
    {invocations : Invocations (Continuation K)} {slots : List ℕ} {w : Awaitable R E}
    (hkept : invocations.Kept) (hslots : s.slots ⊆ slots)
    (hobject : ∀ a' w' slot, a' ≠ a → s.awaitable a' = some w' → w'.call = some slot →
      invocations.object slot ≠ none ∧ w.call ≠ some slot)
    (hforwarded : ∀ a', a' ≠ a →
      forwarded invocations.submitted a' = forwarded s.invocations.submitted a')
    (hbalanced : Balanced invocations a w.resumed w.submitted)
    (hslot : ∀ slot, w.call = some slot →
      slot ∈ slots ∧ invocations.object slot ≠ none ∧ w.submitted = false)
    (flow : ℕ → Option (Flow R E)) :
    Accounted ⟨invocations, slots, update s.awaitable a (some w), flow⟩ := by
  refine ⟨hkept, fun a' => ?_, fun a' w' slot hw' hcall => ?_,
    fun a₁ a₂ w₁ w₂ slot hw₁ hw₂ hcall₁ hcall₂ => ?_⟩
  · by_cases ha : a' = a
    · subst ha
      dsimp only [resumed, started]
      rw [update_self]
      exact hbalanced
    · have heq := (h.balanced a').2 hrunning
      dsimp only [resumed, started]
      rw [update_of_ne ha, Balanced, hforwarded a' ha]
      exact ⟨heq.le, fun _ => heq⟩
  · dsimp only at hw'
    by_cases ha : a' = a
    · subst ha
      rw [update_self] at hw'
      obtain rfl := Option.some.inj hw'
      exact hslot slot hcall
    · rw [update_of_ne ha] at hw'
      obtain ⟨hmem, -, hsubmitted⟩ := h.slot a' w' slot hw' hcall
      exact ⟨hslots hmem, (hobject a' w' slot ha hw' hcall).1, hsubmitted⟩
  · dsimp only at hw₁ hw₂
    by_cases ha₁ : a₁ = a <;> by_cases ha₂ : a₂ = a
    · rw [ha₁, ha₂]
    · subst ha₁
      rw [update_self] at hw₁
      rw [update_of_ne ha₂] at hw₂
      obtain rfl := Option.some.inj hw₁
      exact absurd hcall₁ (hobject a₂ w₂ slot ha₂ hw₂ hcall₂).2
    · subst ha₂
      rw [update_of_ne ha₁] at hw₁
      rw [update_self] at hw₂
      obtain rfl := Option.some.inj hw₂
      exact absurd hcall₂ (hobject a₁ w₁ slot ha₁ hw₁ hcall₁).2
    · rw [update_of_ne ha₁] at hw₁
      rw [update_of_ne ha₂] at hw₂
      exact h.distinct a₁ a₂ w₁ w₂ slot hw₁ hw₂ hcall₁ hcall₂

/-! ### The events -/

lemma forwarded_cons (sub : Submission (Continuation K)) (submitted : List _) (a : ℕ) :
    forwarded (sub :: submitted) a = forwarded submitted a + (sub.forwardsTo a).toNat := by
  rw [forwarded, forwarded, List.countP_cons]
  cases sub.forwardsTo a <;> rfl

lemma forwardsTo_of_handler {sub : Submission (Continuation K)} {b : ℕ}
    (h : sub.handler = .direct (.forward b) ∨ sub.handler = .forwarding (.forward b)) (a : ℕ) :
    sub.forwardsTo a = (b == a) := by
  rcases h with h | h <;> rw [Submission.forwardsTo, h]

lemma forwardsTo_of_passed {sub : Submission (Continuation K)} {handler : Continuation K}
    (h : sub.handler = .direct handler ∨ sub.handler = .forwarding handler)
    (hhandler : AwaitableEvent.forwards (some handler) = false) (a : ℕ) :
    sub.forwardsTo a = false := by
  cases handler with
  | forward b => cases hhandler
  | other k => rcases h with h | h <;> rw [Submission.forwardsTo, h]

/-- An operation outside awaitables does not pass a lambda of theirs. -/
lemma forwarded_of_operate {invocations invocations' : Invocations (Continuation K)}
    (hkept : invocations.Kept) {op : InvocationOperation (Continuation K)}
    (hop : op.Valid invocations) (hpassed : AwaitableEvent.forwards op.passed = false)
    (hnext : op.next invocations = some invocations') (a : ℕ) :
    forwarded invocations'.submitted a = forwarded invocations.submitted a := by
  obtain ⟨ending, i, hperform, hperforms⟩ := exists_perform hkept hop
  rw [InvocationOperation.next, hperform] at hnext
  obtain rfl := Option.some.inj hnext
  dsimp only
  by_cases hstart : ∃ o handler capture, op = start o handler capture
  · obtain ⟨o, handler, capture, rfl⟩ := hstart
    obtain ⟨ending', i', hstart, -, -, -, hends⟩ := hkept.startEnds hop.2 handler capture
    obtain ⟨rfl, rfl⟩ := Prod.mk.inj (Option.some.inj (hperform.symm.trans hstart))
    cases hends with
    | returns _ _ hsubmitted hhandler =>
      rw [hsubmitted, forwarded_cons, forwardsTo_of_passed hhandler hpassed]
      rfl
    | throws _ hsubmitted => rw [hsubmitted]
    | aborts _ hsubmitted => rw [hsubmitted]
  · rw [(hperforms.quiet fun o handler capture heq => hstart ⟨o, handler, capture, heq⟩).submitted]

lemma Accounted.operate (h : s.Accounted) (hrunning : s.invocations.aborted = false)
    {op : InvocationOperation (Continuation K)} (hop : op.Valid s.invocations)
    (hobjects : ∀ o ∈ op.objects, o ∉ s.slots)
    (hpassed : AwaitableEvent.forwards op.passed = false)
    {invocations : Invocations (Continuation K)}
    (hnext : op.next s.invocations = some invocations) :
    Accounted { s with invocations := invocations } := by
  refine h.of_invocations hrunning (exists_next h.kept hop hnext).1 (fun o ho => ?_)
    (forwarded_of_operate h.kept hop hpassed hnext) s.flow
  obtain ⟨⟨ending, i⟩, hperform, heq⟩ := Option.bind_eq_some_iff.mp hnext
  obtain rfl := Option.some.inj heq
  exact perform_object hperform fun hmem => hobjects o hmem ho

/-- An object outside awaitables is destroyed. -/
lemma Accounted.rearrange (h : s.Accounted) (hrunning : s.invocations.aborted = false)
    {objects : List ℕ} (hobjects : ∀ o ∈ objects, o ∉ s.slots)
    {invocations : Invocations (Continuation K)}
    (hrearranges : s.invocations.Rearranges objects invocations)
    (flow : ℕ → Option (Flow R E)) :
    Accounted { s with invocations := invocations, flow := flow } := by
  refine h.of_invocations hrunning hrearranges.kept (fun o ho => ?_) (fun a => ?_) flow
  · exact hrearranges.others o fun hmem => hobjects o hmem ho
  · rw [hrearranges.submitted]

section

variable [Inhabited E]

lemma Accounted.construct_error (h : s.Accounted) (hrunning : s.invocations.aborted = false)
    (ha : (s.awaitable a).isNone = true) (slot : ℕ) (e : E) :
    ∃ s', s.construct a slot (.error e) = some s' ∧ s'.Accounted ∧
      s'.invocations = s.invocations := by
  refine ⟨_, rfl, h.of_awaitable hrunning h.kept (List.Subset.refl _) ?_ (fun _ _ => rfl) ?_ ?_
    s.flow, rfl⟩
  · exact fun a' w' slot _ hw' hcall => ⟨(h.slot a' w' slot hw' hcall).2.1, by simp⟩
  · obtain ⟨-, hzero⟩ := h.untouched (started_eq_false ha)
    exact ⟨by simp [hzero], fun _ => by simp [hzero]⟩
  · simp

lemma Accounted.construct_ok (h : s.Accounted) (hrunning : s.invocations.aborted = false)
    (ha : (s.awaitable a).isNone = true) {slot other : ℕ}
    (hslot : AwaitableEvent.Fresh s slot) (hother : AwaitableEvent.Outside s other) :
    ∃ s', s.construct a slot (.ok other) = some s' ∧ s'.Accounted ∧
      s'.invocations.submitted = s.invocations.submitted ∧
      s'.invocations.aborted = s.invocations.aborted ∧ s'.invocations.object other ≠ none ∧
      s'.slots = slot :: s.slots := by
  obtain ⟨invocations, hmove, hrearranges, hthere, hmoved, -⟩ :=
    h.kept.rearranges_moveConstruct hslot.1 hother.1
  refine ⟨_, ?_, h.of_awaitable (a := a) hrunning hrearranges.kept (List.subset_cons_self slot _)
    (w := ⟨some slot, default, false, [], false⟩) ?_ ?_ ?_ ?_ s.flow, hrearranges.submitted,
    hrearranges.aborted, hmoved, rfl⟩
  · rw [construct, hmove]
    rfl
  · intro a' w' slot' _ hw' hcall
    obtain ⟨hmem, hthere', -⟩ := h.slot a' w' slot' hw' hcall
    have hne : slot' ≠ slot := fun hcontra => hslot.2 (hcontra ▸ hmem)
    have hne' : slot' ≠ other := fun hcontra => hother.2 (hcontra ▸ hmem)
    refine ⟨?_, fun hcontra => hne (Option.some.inj hcontra).symm⟩
    rw [hrearranges.others slot' (by simp [hne, hne'])]
    exact hthere'
  · intro a' _
    rw [hrearranges.submitted]
  · obtain ⟨-, hzero⟩ := h.untouched (started_eq_false ha)
    rw [Balanced, hrearranges.submitted, hzero]
    exact ⟨Nat.le_refl 0, fun _ => rfl⟩
  · intro slot' hslot'
    obtain rfl := Option.some.inj hslot'
    exact ⟨List.mem_cons_self, hthere, rfl⟩

end

/-! ### The submission -/

/-- What `submit` does with an awaitable: it resumes with the error of the input, submits the
operation of the invocation with its lambda, or resumes with the exception of the capture.  It
aborts without an operation to start. -/
inductive Submits (s : Awaitables K R E) (a : ℕ) (w : Awaitable R E) (capture : Capture)
    (exception : E) (s' : Awaitables K R E) : Prop
  | input (hcall : w.call = none) (hresumed : s'.resumed a = [.error w.inputError])
      (hinvocations : s'.invocations = s.invocations)
  | submits {slot : ℕ} {sub : Submission (Continuation K)} (hcall : w.call = some slot)
      (hcapture : capture = .succeeds)
      (hcarried : s.invocations.carried slot = some sub.operation)
      (hsubmitted : s'.invocations.submitted = sub :: s.invocations.submitted)
      (hforwards : sub.forwardsTo a = true) (hresumed : s'.resumed a = [])
  | throws {slot : ℕ} (hcall : w.call = some slot) (hcapture : capture ≠ .succeeds)
      (hsubmitted : s'.invocations.submitted = s.invocations.submitted)
      (hresumed : s'.resumed a = [.error exception])
  | aborts {slot : ℕ} (hcall : w.call = some slot) (hcarried : s.invocations.carried slot = none)
      (hsubmitted : s'.invocations.submitted = s.invocations.submitted)
      (haborted : s'.invocations.aborted = true) (hresumed : s'.resumed a = [])

lemma Submits.suffix {w : Awaitable R E} {capture : Capture} {exception : E}
    {s' : Awaitables K R E} (h : s.Submits a w capture exception s') :
    s.invocations.submitted <:+ s'.invocations.submitted := by
  cases h with
  | input _ _ hinvocations => exact hinvocations ▸ List.suffix_refl _
  | submits _ _ _ hsubmitted => exact hsubmitted ▸ List.suffix_cons _ _
  | throws _ _ hsubmitted => exact hsubmitted ▸ List.suffix_refl _
  | aborts _ _ hsubmitted => exact hsubmitted ▸ List.suffix_refl _

lemma exists_submittable (h : AwaitableEvent.submittable s a = true) :
    ∃ w, s.awaitable a = some w ∧ w.submitted = false ∧ w.gone = false := by
  obtain ⟨w, hw, hfree⟩ := (Option.any_eq_true _ _).mp h
  rw [Bool.and_eq_true, Bool.not_eq_true', Bool.not_eq_true'] at hfree
  exact ⟨w, hw, hfree⟩

/-- The invocations when `submit` has taken the call out of the awaitable. -/
lemma Accounted.exists_taken (h : s.Accounted) {slot operation : ℕ}
    (hslot : slot ∈ s.slots ∧ s.invocations.object slot ≠ none)
    (hoperation : AwaitableEvent.Fresh s operation) :
    ∃ i₁ i₂, s.invocations.moveConstruct operation slot = some i₁ ∧ i₁.destruct slot = some i₂ ∧
      s.invocations.Rearranges [operation, slot] i₂ ∧ i₂.object operation ≠ none ∧
      i₂.carried operation = s.invocations.carried slot := by
  obtain ⟨i₁, hmove, hrearranges₁, hthere₁, hmoved, hcarried⟩ :=
    h.kept.rearranges_moveConstruct hoperation.1 hslot.2
  obtain ⟨i₂, hdestruct, hrearranges₂, -⟩ := hrearranges₁.kept.rearranges_destruct hmoved
  have hne : operation ≠ slot := fun hcontra => hoperation.2 (hcontra ▸ hslot.1)
  have hsame := hrearranges₂.others operation (by simpa using hne)
  refine ⟨i₁, i₂, hmove, hdestruct, hrearranges₁.trans (hrearranges₂.mono (by simp)), ?_, ?_⟩
  · rw [hsame]
    exact hthere₁
  · rw [Invocations.carried, hsame]
    exact hcarried

lemma Accounted.submit_input (h : s.Accounted) (hrunning : s.invocations.aborted = false)
    {w : Awaitable R E} (hw : s.awaitable a = some w) (hsubmitted : w.submitted = false)
    (hcall : w.call = none) (operation : ℕ) (capture : Capture) (exception : E) :
    ∃ s', s.submit a operation capture exception = some s' ∧ s'.Accounted ∧
      s.Submits a w capture exception s' := by
  have hstarted : s.started a = false := (started_eq hw).trans hsubmitted
  obtain ⟨hresumed, hzero⟩ := h.untouched hstarted
  rw [resumed_eq hw] at hresumed
  refine ⟨_, ?_, h.of_awaitable (a := a) hrunning h.kept (List.Subset.refl _)
    (w := { w with submitted := true, resumed := w.resumed ++ [.error w.inputError] }) ?_
    (fun _ _ => rfl) ?_ ?_ s.flow, .input hcall ?_ rfl⟩
  · rw [submit, hw]
    simp only [Option.bind_eq_bind, Option.bind_some, hcall]
  · exact fun a' w' slot _ hw' hcall' => ⟨(h.slot a' w' slot hw' hcall').2.1, by simp [hcall]⟩
  · rw [Balanced, hzero, hresumed]
    exact ⟨Nat.le_refl 1, fun _ => rfl⟩
  · intro slot hslot
    exact absurd (hcall.symm.trans hslot) (by simp)
  · dsimp only [resumed]
    rw [update_self, Option.map_some, Option.getD_some, hresumed]
    rfl

/-- The invocations after the start in `submit`: the objects inside other awaitables are as they
were. -/
lemma Accounted.other_slots (h : s.Accounted) {w : Awaitable R E} (hw : s.awaitable a = some w)
    {slot operation : ℕ} (hcall : w.call = some slot)
    (hoperation : AwaitableEvent.Fresh s operation) {i : Invocations (Continuation K)}
    (hothers : ∀ o, o ∉ [operation, slot] → i.object o = s.invocations.object o)
    (w' : Awaitable R E) (hcall' : w'.call = none) (a₁ : ℕ) (w₁ : Awaitable R E) (slot₁ : ℕ)
    (hne : a₁ ≠ a) (hw₁ : s.awaitable a₁ = some w₁) (hcall₁ : w₁.call = some slot₁) :
    i.object slot₁ ≠ none ∧ w'.call ≠ some slot₁ := by
  obtain ⟨hmem, hthere, -⟩ := h.slot a₁ w₁ slot₁ hw₁ hcall₁
  have hslot : slot₁ ≠ slot := by
    rintro rfl
    exact hne (h.distinct a₁ a w₁ w slot₁ hw₁ hw hcall₁ hcall)
  have hop : slot₁ ≠ operation := fun hcontra => hoperation.2 (hcontra ▸ hmem)
  refine ⟨?_, by simp [hcall']⟩
  rw [hothers slot₁ (by simp [hslot, hop])]
  exact hthere

lemma Accounted.submit_call (h : s.Accounted) (hrunning : s.invocations.aborted = false)
    {w : Awaitable R E} (hw : s.awaitable a = some w) {slot : ℕ}
    (hcall : w.call = some slot) {operation : ℕ} (hoperation : AwaitableEvent.Fresh s operation)
    (capture : Capture) (exception : E) :
    ∃ s', s.submit a operation capture exception = some s' ∧ s'.Accounted ∧
      s.Submits a w capture exception s' := by
  obtain ⟨hmem, hthere, hsubmitted⟩ := h.slot a w slot hw hcall
  obtain ⟨hresumed, hzero⟩ := h.untouched ((started_eq hw).trans hsubmitted)
  rw [resumed_eq hw] at hresumed
  obtain ⟨i₁, i₂, hmove, hdestruct, hrearranges, hthere₂, hcarried⟩ :=
    h.exists_taken ⟨hmem, hthere⟩ hoperation
  obtain ⟨ending, i₃, hstart, hkept₃, htouches, hthere₃, hends⟩ :=
    hrearranges.kept.startEnds hthere₂ (.forward a) capture
  have hothers₃ : ∀ o, o ∉ [operation, slot] → i₃.object o = s.invocations.object o := by
    intro o ho
    rw [htouches.others o (List.ne_of_not_mem_cons ho), hrearranges.others o ho]
  obtain ⟨i₄, hdestruct₄, hrearranges₄, -⟩ := hkept₃.rearranges_destruct hthere₃
  have hothers₄ : ∀ o, o ∉ [operation, slot] → i₄.object o = s.invocations.object o := by
    intro o ho
    rw [hrearranges₄.others o (by simpa using List.ne_of_not_mem_cons ho), hothers₃ o ho]
  have hrun : s.submit a operation capture exception =
      match ending with
      | .returns => some
          { s with
            invocations := i₄
            awaitable := update s.awaitable a (some { w with call := none, submitted := true }) }
      | .throws => some
          { s with
            invocations := i₄
            awaitable := update s.awaitable a (some
              { w with
                call := none, submitted := true, resumed := w.resumed ++ [.error exception] }) }
      | .aborts => some
          { s with
            invocations := { i₃ with aborted := true }
            awaitable := update s.awaitable a
              (some { w with call := none, submitted := true }) } := by
    rw [submit, hw]
    simp only [Option.bind_eq_bind, Option.bind_some, hcall, hmove, hdestruct, hstart]
    cases ending <;> simp only [hdestruct₄, Option.bind_some]
  rw [hrun]
  cases hends with
  | @returns sub hcapture hsub hsubmitted₃ hhandler =>
    have hsubmitted₄ : i₄.submitted = sub :: s.invocations.submitted := by
      rw [hrearranges₄.submitted, hsubmitted₃, hrearranges.submitted]
    have hforwards := forwardsTo_of_handler hhandler
    refine ⟨_, rfl, h.of_awaitable hrunning hrearranges₄.kept (List.Subset.refl _)
      (h.other_slots hw hcall hoperation hothers₄ _ rfl) (fun a' hne => ?_) ?_ (by simp) s.flow,
      .submits hcall hcapture (hcarried ▸ hsub) hsubmitted₄ ((hforwards a).trans (by simp)) ?_⟩
    · rw [hsubmitted₄, forwarded_cons, hforwards a', beq_eq_false_iff_ne.mpr (Ne.symm hne)]
      rfl
    · rw [Balanced, hsubmitted₄, forwarded_cons, hforwards a, hzero, hresumed]
      simp
    · dsimp only [resumed]
      rw [update_self]
      exact hresumed
  | throws hcapture hsubmitted₃ =>
    have hsubmitted₄ : i₄.submitted = s.invocations.submitted := by
      rw [hrearranges₄.submitted, hsubmitted₃, hrearranges.submitted]
    refine ⟨_, rfl, h.of_awaitable hrunning hrearranges₄.kept (List.Subset.refl _)
      (h.other_slots hw hcall hoperation hothers₄ _ rfl) (fun a' _ => ?_) ?_ (by simp) s.flow,
      .throws hcall hcapture hsubmitted₄ ?_⟩
    · rw [hsubmitted₄]
    · rw [Balanced, hsubmitted₄, hzero, hresumed]
      exact ⟨Nat.le_refl 1, fun _ => rfl⟩
    · dsimp only [resumed]
      rw [update_self, Option.map_some, Option.getD_some, hresumed]
      rfl
  | aborts hnone hsubmitted₃ =>
    have hsubmitted₄ : i₃.submitted = s.invocations.submitted := by
      rw [hsubmitted₃, hrearranges.submitted]
    have hkept₄ : Invocations.Kept { i₃ with aborted := true } :=
      ⟨hkept₃.owned, hkept₃.sound, hkept₃.gone, hkept₃.once⟩
    refine ⟨_, rfl, h.of_awaitable hrunning hkept₄ (List.Subset.refl _)
      (h.other_slots hw hcall hoperation hothers₃ _ rfl) (fun a' _ => ?_) ?_ (by simp) s.flow,
      .aborts hcall (hcarried ▸ hnone) hsubmitted₄ rfl ?_⟩
    · dsimp only
      rw [hsubmitted₄]
    · rw [Balanced, hsubmitted₄, hzero, hresumed]
      exact ⟨Nat.zero_le _, by simp⟩
    · dsimp only [resumed]
      rw [update_self]
      exact hresumed

lemma Accounted.submit (h : s.Accounted) (hrunning : s.invocations.aborted = false)
    {w : Awaitable R E} (hw : s.awaitable a = some w) (hsubmitted : w.submitted = false)
    {operation : ℕ} (hoperation : AwaitableEvent.Fresh s operation) (capture : Capture)
    (exception : E) : ∃ s', s.submit a operation capture exception = some s' ∧ s'.Accounted ∧
      s.Submits a w capture exception s' := by
  cases hcall : w.call with
  | none => exact h.submit_input hrunning hw hsubmitted hcall operation capture exception
  | some slot => exact h.submit_call hrunning hw hcall hoperation capture exception

/-- The destructor of an awaitable destroys the invocation that it was not asked to submit. -/
lemma Accounted.drop (h : s.Accounted) (hrunning : s.invocations.aborted = false)
    {w : Awaitable R E} (hw : s.awaitable a = some w) :
    ∃ s', s.drop a = some s' ∧ s'.Accounted ∧
      s'.invocations.submitted = s.invocations.submitted := by
  have heq := (h.balanced a).2 hrunning
  rw [resumed_eq hw, started_eq hw] at heq
  cases hcall : w.call with
  | none =>
    refine ⟨_, ?_, h.of_awaitable (a := a) hrunning h.kept (List.Subset.refl _)
      (w := { w with call := none, gone := true }) ?_ (fun _ _ => rfl) ⟨heq.le, fun _ => heq⟩
      (by simp) s.flow, rfl⟩
    · rw [Awaitables.drop, hw]
      simp only [Option.bind_eq_bind, Option.bind_some, hcall]
    · exact fun a' w' slot _ hw' hcall' => ⟨(h.slot a' w' slot hw' hcall').2.1, by simp⟩
  | some slot =>
    obtain ⟨hmem, hthere, hsubmitted⟩ := h.slot a w slot hw hcall
    obtain ⟨i, hdestruct, hrearranges, -⟩ := h.kept.rearranges_destruct hthere
    refine ⟨_, ?_, h.of_awaitable (a := a) hrunning hrearranges.kept (List.Subset.refl _)
      (w := { w with call := none, gone := true }) ?_ (fun a' _ => ?_) ?_ (by simp) s.flow,
      hrearranges.submitted⟩
    · rw [Awaitables.drop, hw]
      simp only [Option.bind_eq_bind, Option.bind_some, hcall, hdestruct]
    · intro a' w' slot' hne hw' hcall'
      have hslot : slot' ≠ slot := by
        rintro rfl
        exact hne (h.distinct a' a w' w slot' hw' hw hcall' hcall)
      refine ⟨?_, by simp⟩
      rw [hrearranges.others slot' (by simpa using hslot)]
      exact (h.slot a' w' slot' hw' hcall').2.1
    · rw [hrearranges.submitted]
    · rw [Balanced, hrearranges.submitted]
      exact ⟨heq.le, fun _ => heq⟩

section

variable [Inhabited E]

/-- `start_invocation` leaves the operation to an awaitable, or destroys it. -/
lemma Accounted.startInvocation (h : s.Accounted) (hrunning : s.invocations.aborted = false)
    {f o : ℕ} {launch : Launch}
    (hvalid : (AwaitableEvent.startInvocation f o launch : AwaitableEvent K E).Valid s)
    (notEnoughMemory : E) : ∃ s', s.startInvocation notEnoughMemory f o launch = some s' ∧
      s'.Accounted ∧ s'.invocations.submitted = s.invocations.submitted := by
  cases launch with
  | slotFails =>
    obtain ⟨-, ho⟩ := hvalid
    obtain ⟨i, hdestruct, hrearranges, -⟩ := h.kept.rearranges_destruct ho.1
    refine ⟨_, ?_, h.rearrange hrunning (by simpa using ho.2) hrearranges s.flow,
      hrearranges.submitted⟩
    simp only [Awaitables.startInvocation, hdestruct, Option.bind_eq_bind, Option.bind_some]
  | blueprintFails abandoned =>
    obtain ⟨-, ho, hfresh⟩ := hvalid
    obtain ⟨i₁, hmove, hrearranges₁, hthere, hmoved, -⟩ :=
      h.kept.rearranges_moveConstruct hfresh.1 ho.1
    obtain ⟨i₂, hdestruct₂, hrearranges₂, -⟩ := hrearranges₁.kept.rearranges_destruct hthere
    have hne : o ≠ abandoned := fun hcontra => ho.1 (hcontra ▸ hfresh.1)
    have hmoved₂ : i₂.object o ≠ none := by
      rw [hrearranges₂.others o (by simpa using hne)]
      exact hmoved
    obtain ⟨i₃, hdestruct₃, hrearranges₃, -⟩ := hrearranges₂.kept.rearranges_destruct hmoved₂
    have hrearranges := hrearranges₁.trans
      ((hrearranges₂.mono (by simp)).trans (hrearranges₃.mono (by simp)))
    have houtside : ∀ o' ∈ [abandoned, o], o' ∉ s.slots := by simp [hfresh.2, ho.2]
    refine ⟨_, ?_, h.rearrange hrunning houtside hrearranges
      (update s.flow f (some ⟨none, [.error notEnoughMemory]⟩)), hrearranges.submitted⟩
    simp only [Awaitables.startInvocation, hmove, hdestruct₂, hdestruct₃, Option.bind_eq_bind,
      Option.bind_some]
  | creationFails =>
    obtain ⟨-, ho⟩ := hvalid
    obtain ⟨i, hdestruct, hrearranges, -⟩ := h.kept.rearranges_destruct ho.1
    refine ⟨_, ?_, h.rearrange hrunning (by simpa using ho.2) hrearranges
      (update s.flow f (some ⟨none, [.error notEnoughMemory]⟩)), hrearranges.submitted⟩
    simp only [Awaitables.startInvocation, hdestruct, Option.bind_eq_bind, Option.bind_some]
  | awaits a slot =>
    obtain ⟨-, ho, ha, hslot⟩ := hvalid
    obtain ⟨s₁, hconstruct, hs₁, hsubmitted, haborted, hmoved, hslots⟩ :=
      h.construct_ok hrunning ha hslot ho
    obtain ⟨i, hdestruct, hrearranges, -⟩ := hs₁.kept.rearranges_destruct hmoved
    have hne : o ≠ slot := fun hcontra => ho.1 (hcontra ▸ hslot.1)
    have houtside : ∀ o' ∈ [o], o' ∉ s₁.slots := by simp [hslots, hne, ho.2]
    refine ⟨_, ?_, hs₁.rearrange (haborted.trans hrunning) houtside hrearranges
      (update s₁.flow f (some ⟨some a, []⟩)), hrearranges.submitted.trans hsubmitted⟩
    simp only [Awaitables.startInvocation, hconstruct, hdestruct, Option.bind_eq_bind,
      Option.bind_some]

/-- What every event keeps. -/
lemma Accounted.next (h : s.Accounted) (hrunning : s.invocations.aborted = false)
    {e : AwaitableEvent K E} (he : e.Valid s) {notEnoughMemory : E} {s' : Awaitables K R E}
    (hnext : e.next notEnoughMemory s = some s') :
    s'.Accounted ∧ s.invocations.submitted <:+ s'.invocations.submitted := by
  cases e with
  | operate op =>
    obtain ⟨hop, hobjects, hpassed⟩ := he
    obtain ⟨i, hi, heq⟩ := Option.bind_eq_some_iff.mp hnext
    obtain rfl := Option.some.inj heq
    exact ⟨h.operate hrunning hop hobjects hpassed hi, submitted_suffix h.kept hop hi⟩
  | construct a slot input =>
    cases input with
    | error e =>
      obtain ⟨s₁, hs₁, haccounted, hinvocations⟩ := h.construct_error hrunning he slot e
      obtain rfl := Option.some.inj (hs₁.symm.trans hnext)
      exact ⟨haccounted, hinvocations ▸ List.suffix_refl _⟩
    | ok other =>
      obtain ⟨ha, hslot, hother⟩ := he
      obtain ⟨s₁, hs₁, haccounted, hsubmitted, -⟩ := h.construct_ok hrunning ha hslot hother
      obtain rfl := Option.some.inj (hs₁.symm.trans hnext)
      exact ⟨haccounted, hsubmitted ▸ List.suffix_refl _⟩
  | submit a operation capture exception =>
    obtain ⟨hsubmittable, hoperation⟩ := he
    obtain ⟨w, hw, hfree⟩ := exists_submittable hsubmittable
    obtain ⟨s₁, hs₁, haccounted, hsubmits⟩ :=
      h.submit hrunning hw hfree.1 hoperation capture exception
    obtain rfl := Option.some.inj (hs₁.symm.trans hnext)
    exact ⟨haccounted, hsubmits.suffix⟩
  | drop a =>
    obtain ⟨w, hw, -⟩ := (Option.any_eq_true _ _).mp he
    obtain ⟨s₁, hs₁, haccounted, hsubmitted⟩ := h.drop hrunning hw
    obtain rfl := Option.some.inj (hs₁.symm.trans hnext)
    exact ⟨haccounted, hsubmitted ▸ List.suffix_refl _⟩
  | startInvocation f o launch =>
    obtain ⟨s₁, hs₁, haccounted, hsubmitted⟩ := h.startInvocation hrunning he notEnoughMemory
    obtain rfl := Option.some.inj (hs₁.symm.trans hnext)
    exact ⟨haccounted, hsubmitted ▸ List.suffix_refl _⟩

end

/-! ### What becomes of an awaitable -/

lemma submit_awaitable {w : Awaitable R E} (hw : s.awaitable a = some w) {operation : ℕ}
    {capture : Capture} {exception : E} {s' : Awaitables K R E}
    (h : s.submit a operation capture exception = some s') :
    s'.flow = s.flow ∧ ∃ w', s'.awaitable = update s.awaitable a (some w') ∧ w'.gone = w.gone ∧
      w'.submitted = true ∧ w.resumed.Sublist w'.resumed := by
  rw [submit, hw, Option.bind_eq_bind, Option.bind_some] at h
  cases hcall : w.call with
  | none =>
    simp only [hcall] at h
    obtain rfl := Option.some.inj h
    exact ⟨rfl, _, rfl, rfl, rfl, List.sublist_append_left ..⟩
  | some slot =>
    simp only [hcall] at h
    obtain ⟨i₁, -, h⟩ := Option.bind_eq_some_iff.mp h
    obtain ⟨i₂, -, h⟩ := Option.bind_eq_some_iff.mp h
    obtain ⟨⟨ending, i₃⟩, -, h⟩ := Option.bind_eq_some_iff.mp h
    cases ending with
    | returns =>
      obtain ⟨i₄, -, h⟩ := Option.bind_eq_some_iff.mp h
      obtain rfl := Option.some.inj h
      exact ⟨rfl, _, rfl, rfl, rfl, List.Sublist.refl _⟩
    | throws =>
      obtain ⟨i₄, -, h⟩ := Option.bind_eq_some_iff.mp h
      obtain rfl := Option.some.inj h
      exact ⟨rfl, _, rfl, rfl, rfl, List.sublist_append_left ..⟩
    | aborts =>
      obtain rfl := Option.some.inj h
      exact ⟨rfl, _, rfl, rfl, rfl, List.Sublist.refl _⟩

lemma drop_awaitable {w : Awaitable R E} (hw : s.awaitable a = some w) {s' : Awaitables K R E}
    (h : s.drop a = some s') : s'.flow = s.flow ∧
      s'.awaitable = update s.awaitable a (some { w with call := none, gone := true }) := by
  rw [drop, hw, Option.bind_eq_bind, Option.bind_some] at h
  cases hcall : w.call with
  | none =>
    simp only [hcall] at h
    obtain rfl := Option.some.inj h
    exact ⟨rfl, rfl⟩
  | some slot =>
    simp only [hcall] at h
    obtain ⟨i, -, h⟩ := Option.bind_eq_some_iff.mp h
    obtain rfl := Option.some.inj h
    exact ⟨rfl, rfl⟩

/-- A new awaitable leaves the others alone. -/
lemma advances_of_new {s' : Awaitables K R E} {a' : ℕ} (ha' : (s.awaitable a').isNone = true)
    {w' : Awaitable R E}
    (h : s'.awaitable = update s.awaitable a' (some w')) {w : Awaitable R E}
    (hw : s.awaitable a = some w) : s'.awaitable a = some w := by
  have hne : a ≠ a' := by
    rintro rfl
    rw [hw] at ha'
    cases ha'
  rw [h, update_of_ne hne]
  exact hw

section

variable [Inhabited E] {notEnoughMemory : E} {s' : Awaitables K R E}

lemma construct_awaitable {slot : ℕ} {input : Except E ℕ}
    (h : s.construct a slot input = some s') : s'.flow = s.flow ∧
      ∃ w', s'.awaitable = update s.awaitable a (some w') ∧ w'.gone = false := by
  cases input with
  | error e =>
    obtain rfl := Option.some.inj h
    exact ⟨rfl, _, rfl, rfl⟩
  | ok other =>
    obtain ⟨i, -, h⟩ := Option.bind_eq_some_iff.mp h
    obtain rfl := Option.some.inj h
    exact ⟨rfl, _, rfl, rfl⟩

/-- What `start_invocation` makes: a flow with a new awaitable, or one whose sink gets an error, or
none. -/
inductive Launches (notEnoughMemory : E) (s : Awaitables K R E) (f : ℕ) (launch : Launch)
    (s' : Awaitables K R E) : Prop
  | nothing (hlaunch : launch = .slotFails) (hawaitable : s'.awaitable = s.awaitable)
      (hflow : s'.flow = s.flow)
  | fails (hlaunch : launch = .creationFails ∨ ∃ abandoned, launch = .blueprintFails abandoned)
      (hawaitable : s'.awaitable = s.awaitable)
      (hflow : s'.flow = update s.flow f (some ⟨none, [.error notEnoughMemory]⟩))
  | awaits {a slot : ℕ} {w : Awaitable R E} (hlaunch : launch = .awaits a slot)
      (hawaitable : s'.awaitable = update s.awaitable a (some w)) (hgone : w.gone = false)
      (hflow : s'.flow = update s.flow f (some ⟨some a, []⟩))

lemma launches {f o : ℕ} {launch : Launch}
    (h : s.startInvocation notEnoughMemory f o launch = some s') :
    Launches notEnoughMemory s f launch s' := by
  cases launch with
  | slotFails =>
    obtain ⟨i, -, h⟩ := Option.bind_eq_some_iff.mp h
    obtain rfl := Option.some.inj h
    exact .nothing rfl rfl rfl
  | blueprintFails abandoned =>
    obtain ⟨i₁, -, h⟩ := Option.bind_eq_some_iff.mp h
    obtain ⟨i₂, -, h⟩ := Option.bind_eq_some_iff.mp h
    obtain ⟨i₃, -, h⟩ := Option.bind_eq_some_iff.mp h
    obtain rfl := Option.some.inj h
    exact .fails (.inr ⟨abandoned, rfl⟩) rfl rfl
  | creationFails =>
    obtain ⟨i, -, h⟩ := Option.bind_eq_some_iff.mp h
    obtain rfl := Option.some.inj h
    exact .fails (.inl rfl) rfl rfl
  | awaits a slot =>
    obtain ⟨s₁, hconstruct, h⟩ := Option.bind_eq_some_iff.mp h
    obtain ⟨i, -, h⟩ := Option.bind_eq_some_iff.mp h
    obtain rfl := Option.some.inj h
    obtain ⟨hflow, w, hawaitable, hgone⟩ := construct_awaitable hconstruct
    refine .awaits rfl hawaitable hgone ?_
    dsimp only
    rw [hflow]

/-- Every event advances the awaitables, and only their destructors make them gone. -/
lemma next_awaitable {e : AwaitableEvent K E} (he : e.Valid s)
    (hnext : e.next notEnoughMemory s = some s') {w : Awaitable R E}
    (hw : s.awaitable a = some w) : ∃ w', s'.awaitable a = some w' ∧ w.Advances w' ∧
      (w'.gone = true → w.gone = true ∨ e.dropped = some a ∧ w'.submitted = w.submitted) := by
  cases e with
  | operate op =>
    obtain ⟨i, -, heq⟩ := Option.bind_eq_some_iff.mp hnext
    obtain rfl := Option.some.inj heq
    exact ⟨w, hw, .refl w, .inl⟩
  | construct a' slot input =>
    obtain ⟨-, w', hawaitable, -⟩ := construct_awaitable hnext
    have ha' : (s.awaitable a').isNone = true := by
      cases input with
      | error e => exact he
      | ok other => exact he.1
    exact ⟨w, advances_of_new ha' hawaitable hw, .refl w, .inl⟩
  | submit a' operation capture exception =>
    obtain ⟨w₀, hw₀, -, hgone₀⟩ := exists_submittable he.1
    obtain ⟨-, w', hawaitable, hgone, hsubmitted, hresumed⟩ := submit_awaitable hw₀ hnext
    rw [hawaitable]
    by_cases ha : a = a'
    · subst ha
      obtain rfl := Option.some.inj (hw₀.symm.trans hw)
      refine ⟨w', update_self .., ⟨hresumed, fun h => hgone.trans h, fun _ => hsubmitted,
        fun h => ?_⟩, fun h => .inl (hgone.symm.trans h)⟩
      rw [hgone₀] at h
      cases h
    · exact ⟨w, (update_of_ne ha ..).trans hw, .refl w, .inl⟩
  | drop a' =>
    obtain ⟨w₀, hw₀, -⟩ := (Option.any_eq_true _ _).mp he
    obtain ⟨-, hawaitable⟩ := drop_awaitable hw₀ hnext
    rw [hawaitable]
    by_cases ha : a = a'
    · subst ha
      obtain rfl := Option.some.inj (hw₀.symm.trans hw)
      exact ⟨_, update_self .., ⟨List.Sublist.refl _, fun _ => rfl, id, fun _ => rfl⟩,
        fun _ => .inr ⟨rfl, rfl⟩⟩
    · exact ⟨w, (update_of_ne ha ..).trans hw, .refl w, .inl⟩
  | startInvocation f o launch =>
    cases launches hnext with
    | nothing _ hawaitable => exact ⟨w, hawaitable ▸ hw, .refl w, .inl⟩
    | fails _ hawaitable => exact ⟨w, hawaitable ▸ hw, .refl w, .inl⟩
    | awaits hlaunch hawaitable =>
      subst hlaunch
      exact ⟨w, advances_of_new he.2.2.1 hawaitable hw, .refl w, .inl⟩

/-- A new awaitable is there. -/
lemma gone_of_new {e : AwaitableEvent K E} (he : e.Valid s)
    (hnext : e.next notEnoughMemory s = some s') (hnone : s.awaitable a = none)
    {w' : Awaitable R E} (hw' : s'.awaitable a = some w') : w'.gone = false := by
  have hsame : s'.awaitable = s.awaitable → w'.gone = false := fun heq => by
    rw [heq, hnone] at hw'
    cases hw'
  have hupdate : ∀ a' w, (a = a' → w.gone = false) →
      s'.awaitable = update s.awaitable a' (some w) → w'.gone = false := fun a' w hgone heq => by
    rw [heq] at hw'
    by_cases ha : a = a'
    · subst ha
      rw [update_self] at hw'
      exact Option.some.inj hw' ▸ hgone rfl
    · rw [update_of_ne ha, hnone] at hw'
      cases hw'
  cases e with
  | operate op =>
    obtain ⟨i, -, heq⟩ := Option.bind_eq_some_iff.mp hnext
    obtain rfl := Option.some.inj heq
    exact hsame rfl
  | construct a' slot input =>
    obtain ⟨-, w, hawaitable, hgone⟩ := construct_awaitable hnext
    exact hupdate a' w (fun _ => hgone) hawaitable
  | submit a' operation capture exception =>
    obtain ⟨w₀, hw₀, -, hgone₀⟩ := exists_submittable he.1
    obtain ⟨-, w, hawaitable, hgone, -⟩ := submit_awaitable hw₀ hnext
    exact hupdate a' w (fun _ => hgone.trans hgone₀) hawaitable
  | drop a' =>
    obtain ⟨w₀, hw₀, -⟩ := (Option.any_eq_true _ _).mp he
    obtain ⟨-, hawaitable⟩ := drop_awaitable hw₀ hnext
    refine hupdate a' _ (fun ha => ?_) hawaitable
    rw [← ha, hnone] at hw₀
    cases hw₀
  | startInvocation f o launch =>
    cases launches hnext with
    | nothing _ hawaitable => exact hsame hawaitable
    | fails _ hawaitable => exact hsame hawaitable
    | @awaits a' slot w _ hawaitable hgone => exact hupdate a' w (fun _ => hgone) hawaitable

end

end Awaitables

/-! ## Runs -/

namespace AwaitingState

lemma resumes_length (p : AwaitingState K R E) (a : ℕ) :
    (p.resumes a).length =
      (p.registry.resumed a).length + (p.deliveries.map Prod.fst).countP (·.forwardsTo a) := by
  rw [resumes, List.length_append, List.length_map, List.countP_map, List.countP_eq_length_filter]
  rfl

variable [Inhabited E] {notEnoughMemory : E} {p p' : AwaitingState K R E} {a : ℕ}

/-- A program that has not made an invocation yet. -/
def initial : AwaitingState K R E := ⟨{}, []⟩

/-- Some run leads from the one state to the other. -/
def Leads (notEnoughMemory : E) (p p' : AwaitingState K R E) : Prop :=
  (awaiting K R notEnoughMemory).Leads p p'

/-- The states of a program with awaitables. -/
def Reachable (notEnoughMemory : E) (p : AwaitingState K R E) : Prop :=
  Leads notEnoughMemory initial p

lemma Reachable.matched (h : p.Reachable notEnoughMemory) :
    p.registry.Accounted ∧ Matched p.registry.invocations.submitted p.components :=
  Family.Leads.reached
    (fun _ _ _ hs hmay hnext => hs.next hmay.1.1 hmay.2.1 hnext) Awaitables.accounted_new rfl rfl h

lemma Reachable.trans (h : p.Reachable notEnoughMemory) (h' : Leads notEnoughMemory p p') :
    p'.Reachable notEnoughMemory := by
  refine Runs.Reaches.invariant h
    (fun _ _ _ hs hmay hnext => ?_) h'
  exact hs.step hmay hnext

/-- What the handlers of a program have received later on. -/
lemma Reachable.deliveries_sublist (h : p.Reachable notEnoughMemory)
    (h' : Leads notEnoughMemory p p') : p.deliveries.Sublist p'.deliveries := by
  obtain ⟨haccounted, hmatched⟩ := h.matched
  obtain ⟨-, new, old, ⟨xs, hxs, hnew⟩, hlisted, hold⟩ :=
    Family.Leads.matched
      (fun _ _ _ hs hmay hnext => hs.next hmay.1.1 hmay.2.1 hnext) haccounted h'
  have hsubmitted : p'.registry.invocations.submitted =
      new ++ p.registry.invocations.submitted := hlisted
  rw [deliveries, deliveries, hsubmitted, hxs]
  exact hmatched.deliveries_sublist hold hnew

/-- An awaitable later on. -/
lemma Leads.awaitable (h : Leads notEnoughMemory p p') {w : Awaitable R E}
    (hw : p.registry.awaitable a = some w) :
    ∃ w', p'.registry.awaitable a = some w' ∧ w.Advances w' := by
  let inv (q : AwaitingState K R E) : Prop :=
    ∃ w', q.registry.awaitable a = some w' ∧ w.Advances w'
  have hinv : inv p' := by
    refine Runs.Reaches.invariant ⟨w, hw, .refl w⟩ ?_ h
    rintro q (e | ⟨k, c⟩) q' ⟨w₁, hw₁, hadv⟩ hmay hnext
    · obtain ⟨r, hr, heq⟩ := Option.bind_eq_some_iff.mp hnext
      obtain rfl := Option.some.inj heq
      obtain ⟨w₂, hw₂, hadv', -⟩ := Awaitables.next_awaitable hmay.2.1 hr hw₁
      exact ⟨w₂, hw₂, hadv.trans hadv'⟩
    · obtain ⟨x, -, hrest⟩ := Option.bind_eq_some_iff.mp hnext
      obtain ⟨x', -, heq⟩ := Option.bind_eq_some_iff.mp hrest
      obtain rfl := Option.some.inj heq
      exact ⟨w₁, hw₁, hadv⟩
  exact hinv

/-- What an awaitable has been resumed with stays. -/
lemma Reachable.resumes_sublist (h : p.Reachable notEnoughMemory)
    (h' : Leads notEnoughMemory p p') (a : ℕ) : (p.resumes a).Sublist (p'.resumes a) := by
  refine List.Sublist.append ?_ (((h.deliveries_sublist h').filter _).map _)
  rcases hw : p.registry.awaitable a with _ | w
  · rw [Awaitables.resumed, hw]
    exact List.nil_sublist _
  · obtain ⟨w', hw', hadv⟩ := h'.awaitable hw
    rw [Awaitables.resumed_eq hw, Awaitables.resumed_eq hw']
    exact hadv.resumed

/-- An awaitable is resumed once, after its submission. -/
lemma Reachable.resumes_le (h : p.Reachable notEnoughMemory) (a : ℕ) :
    (p.resumes a).length ≤ (p.registry.started a).toNat := by
  obtain ⟨haccounted, hmatched⟩ := h.matched
  rw [resumes_length]
  refine le_trans (Nat.add_le_add_left ?_ _) (haccounted.balanced a).1
  exact hmatched.sublist.countP_le

lemma Reachable.resumes_eq_of_ne_nil (h : p.Reachable notEnoughMemory)
    (h' : Leads notEnoughMemory p p') (hne : p.resumes a ≠ []) : p'.resumes a = p.resumes a := by
  refine ((h.resumes_sublist h' a).eq_of_length_le ?_).symm
  have hle := ((h.trans h').resumes_le a).trans (Bool.toNat_le _)
  exact hle.trans (List.length_pos_iff.mpr hne)

/-- When everything has come to rest, every submitted awaitable was resumed. -/
lemma Reachable.resumes_eq (h : p.Reachable notEnoughMemory)
    (hrunning : p.registry.invocations.aborted = false)
    (hdone : ∀ run ∈ p.components, Quiescent run ∧ Occurred run.log) (a : ℕ) :
    (p.resumes a).length = (p.registry.started a).toNat := by
  obtain ⟨haccounted, hmatched⟩ := h.matched
  rw [resumes_length, deliveries, hmatched.complete hdone]
  exact (haccounted.balanced a).2 hrunning

/-- An awaitable that its runner has submitted and destroyed was resumed. -/
lemma Reachable.resumed_of_gone (h : p.Reachable notEnoughMemory) {w : Awaitable R E}
    (hw : p.registry.awaitable a = some w) (hgone : w.gone = true)
    (hsubmitted : w.submitted = true) : p.resumes a ≠ [] := by
  let inv (q : AwaitingState K R E) : Prop := q.Reachable notEnoughMemory ∧
    ∀ w, q.registry.awaitable a = some w → w.gone = true → w.submitted = true → q.resumes a ≠ []
  have hinv : inv p := by
    refine Runs.Reaches.invariant ⟨.start, fun w hw => ?_⟩ ?_ h
    · cases hw
    · rintro q e q' ⟨hq, hresumed⟩ hmay hnext
      have hlead : Leads notEnoughMemory q q' := Runs.Reaches.start.step hmay hnext
      refine ⟨hq.trans hlead, fun w' hw' hgone' hsubmitted' hnil => ?_⟩
      have hnil' : q.resumes a = [] := List.sublist_nil.mp (hnil ▸ hq.resumes_sublist hlead a)
      rcases e with e | ⟨k, c⟩
      · obtain ⟨r, hr, heq⟩ := Option.bind_eq_some_iff.mp hnext
        obtain rfl := Option.some.inj heq
        rcases hw : q.registry.awaitable a with _ | w
        · rw [Awaitables.gone_of_new hmay.2.1 hr hw hw'] at hgone'
          cases hgone'
        obtain ⟨w₁, hw₁, hadv, hdropped⟩ := Awaitables.next_awaitable hmay.2.1 hr hw
        obtain rfl := Option.some.inj (hw₁.symm.trans hw')
        rcases hdropped hgone' with hgone | ⟨hdrop, hsame⟩
        · exact hresumed w hw hgone ((hadv.frozen hgone).symm.trans hsubmitted') hnil'
        · rcases hmay.2.2 a hdrop with hsubmittable | hresumes
          · obtain ⟨w₀, hw₀, hnot, -⟩ := Awaitables.exists_submittable hsubmittable
            obtain rfl := Option.some.inj (hw₀.symm.trans hw)
            rw [← hsame, hsubmitted'] at hnot
            cases hnot
          · rw [hnil'] at hresumes
            cases hresumes
      · obtain ⟨x, -, hrest⟩ := Option.bind_eq_some_iff.mp hnext
        obtain ⟨x', -, heq⟩ := Option.bind_eq_some_iff.mp hrest
        obtain rfl := Option.some.inj heq
        exact hresumed w' hw' hgone' hsubmitted' hnil'
  exact hinv.2 w hw hgone hsubmitted

/-- In every program, with every submitted operation running in its own state: an awaitable is
resumed at most once, and not before the runner has submitted it.  When every run has come to rest
with an outcome, every submitted awaitable was resumed, unless the process has ended.  What it was
resumed with stays, and one that is gone is not resumed any more.  The submission of an awaitable
is defined; it resumes with the error of the input, submits the operation of the invocation, or
resumes with the exception of a failing capture, and aborts when the invocation was moved from. -/
theorem resumed_once (h : p.Reachable notEnoughMemory) :
    (∀ a, (p.resumes a).length ≤ 1 ∧ (p.registry.started a = false → p.resumes a = [])) ∧
    (p.registry.invocations.aborted = false →
      (∀ run ∈ p.components, Quiescent run ∧ Occurred run.log) →
      ∀ a, p.registry.started a = true → (p.resumes a).length = 1) ∧
    (∀ p' : AwaitingState K R E, Leads notEnoughMemory p p' → ∀ a,
      (p.resumes a ≠ [] → p'.resumes a = p.resumes a) ∧
      ∀ w, p.registry.awaitable a = some w → w.gone = true → p'.resumes a = p.resumes a) ∧
    ∀ a w operation capture exception, Running p.registry.invocations p.components →
      p.registry.awaitable a = some w → w.submitted = false →
      AwaitableEvent.Fresh p.registry operation →
      ∃ s', p.registry.submit a operation capture exception = some s' ∧
        p.registry.Submits a w capture exception s' := by
  refine ⟨fun a => ⟨(h.resumes_le a).trans (Bool.toNat_le _), fun hstarted => ?_⟩,
    fun hrunning hdone a hstarted => ?_, fun p' h' a => ⟨h.resumes_eq_of_ne_nil h',
      fun w hw hgone => ?_⟩,
    fun a w operation capture exception hrunning hw hsubmitted hfresh => ?_⟩
  · have hle := h.resumes_le a
    rw [hstarted] at hle
    exact List.length_eq_zero_iff.mp (Nat.le_zero.mp hle)
  · rw [h.resumes_eq hrunning hdone, hstarted]
    rfl
  · cases hsubmitted : w.submitted with
    | true => exact h.resumes_eq_of_ne_nil h' (h.resumed_of_gone hw hgone hsubmitted)
    | false =>
      obtain ⟨w', hw', hadv⟩ := h'.awaitable hw
      have hle := h.resumes_le a
      have hle' := (h.trans h').resumes_le a
      rw [Awaitables.started_eq hw, hsubmitted] at hle
      rw [Awaitables.started_eq hw', hadv.frozen hgone, hsubmitted] at hle'
      rw [List.length_eq_zero_iff.mp (Nat.le_zero.mp hle),
        List.length_eq_zero_iff.mp (Nat.le_zero.mp hle')]
  · obtain ⟨s', hs', -, hsubmits⟩ :=
      h.matched.1.submit hrunning.1 hw hsubmitted hfresh capture exception
    exact ⟨s', hs', hsubmits⟩

/-- A rejection resumes the first awaitable, an input without an invocation the second one. -/
theorem resumed_once_rejected :
    ∃ p : AwaitingState ℕ ℕ ℕ, p.Reachable 12 ∧ p.resumes 0 = [.error 3] ∧
      p.resumes 1 = [.error 8] ∧ ∀ a, (p.resumes a).length ≤ 1 := by
  obtain ⟨p, hrun⟩ : ∃ p : AwaitingState ℕ ℕ ℕ, Runs.run (awaiting ℕ ℕ 12).may
      (awaiting ℕ ℕ 12).advance initial
      [.registry (.operate (.make 0 (some 4) none false)), .registry (.construct 0 1 (.ok 0)),
        .registry (.construct 1 9 (.error 8)), .registry (.operate (.destruct 0)),
        .registry (.submit 0 2 .succeeds 6), .component 0 (.command (.conclude (.rejected 3))),
        .registry (.submit 1 3 .succeeds 6), .component 0 (.command .resume),
        .component 0 (.advance 0), .registry (.drop 1), .component 0 (.advance 0),
        .component 0 (.advance 0), .component 0 (.advance 0), .registry (.drop 0)] = some p :=
    ⟨_, rfl⟩
  have h : p.Reachable 12 := Runs.Reaches.of_run .start hrun
  have hresumes : p.resumes 0 = [.error 3] ∧ p.resumes 1 = [.error 8] := by
    obtain rfl := Option.some.inj hrun
    exact ⟨rfl, rfl⟩
  exact ⟨p, h, hresumes.1, hresumes.2, fun a => ((resumed_once h).1 a).1⟩

end AwaitingState

end Dynabridge.Async
