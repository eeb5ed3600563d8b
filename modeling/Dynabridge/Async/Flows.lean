import Dynabridge.Async.Resumption

/-!
# Flows of a single invocation

`start_invocation` runs one invocation as a flow and hands its outcome to a handler.  The handler
is in a shared slot that `invocation_sink::emplace` empties before it calls, so that it is called
once whatever the runner does.  With a runner that emplaces what the awaitable is resumed with,
the handler gets exactly that.
-/

namespace Dynabridge.Async

open Function Spawning

variable {K R E : Type}

/-! ## The sink -/

/-- `invocation_sink::emplace`: what it leaves of the slot, and whether it calls the handler. -/
def emplace (slot : Bool) : Bool × Bool := if slot then (false, true) else (slot, false)

/-- The results with which the handler is called, when these are emplaced one after another. -/
def sink {α : Type} : Bool → List α → List α
  | _, [] => []
  | slot, r :: rs =>
    let (slot, called) := emplace slot
    (if called then [r] else []) ++ sink slot rs

section

variable {α : Type}

@[simp] lemma sink_false (rs : List α) : sink false rs = [] := by
  induction rs with
  | nil => rfl
  | cons r rs ih => exact ih

/-- The handler is called with the first result. -/
@[simp] lemma sink_true (rs : List α) : sink true rs = rs.take 1 := by
  cases rs with
  | nil => rfl
  | cons r rs =>
    change [r] ++ sink false rs = _
    rw [sink_false]
    rfl

end

/-! ## The flows of a program -/

/-- What holds of the flows: each has an awaitable of its own, or its sink got an error. -/
structure Awaitables.FlowsKept (notEnoughMemory : E) (s : Awaitables K R E) : Prop where
  kind : ∀ f w, s.flow f = some w →
    (w.awaitable = none ∧ w.emplaced = [.error notEnoughMemory]) ∨
      ∃ a, w.awaitable = some a ∧ w.emplaced = [] ∧ s.awaitable a ≠ none
  distinct : ∀ f f' w w' a, s.flow f = some w → s.flow f' = some w' →
    w.awaitable = some a → w'.awaitable = some a → f = f'

namespace Awaitables

variable {s s' : Awaitables K R E} {notEnoughMemory : E}

lemma flowsKept_new : ({} : Awaitables K R E).FlowsKept notEnoughMemory := by
  refine ⟨?_, ?_⟩
  · intro f w hw
    cases hw
  · intro f f' w w' a hw
    cases hw

/-- Awaitables that were there are there. -/
lemma FlowsKept.of_awaitable (h : s.FlowsKept notEnoughMemory) (hflow : s'.flow = s.flow)
    (hthere : ∀ a, s.awaitable a ≠ none → s'.awaitable a ≠ none) :
    s'.FlowsKept notEnoughMemory := by
  refine ⟨fun f w hw => ?_, fun f f' w w' a hw hw' => ?_⟩
  · rw [hflow] at hw
    rcases h.kind f w hw with hnone | ⟨a, ha, hemplaced, hthere'⟩
    · exact .inl hnone
    · exact .inr ⟨a, ha, hemplaced, hthere a hthere'⟩
  · rw [hflow] at hw hw'
    exact h.distinct f f' w w' a hw hw'

/-- A new flow gets an error, or an awaitable that no other flow has. -/
lemma FlowsKept.update (h : s.FlowsKept notEnoughMemory) {f : ℕ} {w : Flow R E}
    (hflow : s'.flow = update s.flow f (some w))
    (hthere : ∀ a, s.awaitable a ≠ none → s'.awaitable a ≠ none)
    (hkind : (w.awaitable = none ∧ w.emplaced = [.error notEnoughMemory]) ∨
      ∃ a, w.awaitable = some a ∧ w.emplaced = [] ∧ s'.awaitable a ≠ none ∧
        s.awaitable a = none) : s'.FlowsKept notEnoughMemory := by
  have hfresh : ∀ f' w' a, s.flow f' = some w' → w'.awaitable = some a →
      w.awaitable ≠ some a := by
    intro f' w' a hw' ha' ha
    rcases hkind with ⟨hnone, -⟩ | ⟨a₁, ha₁, -, -, hnone⟩
    · rw [hnone] at ha
      cases ha
    · rcases h.kind f' w' hw' with ⟨hnone', -⟩ | ⟨a₂, ha₂, -, hthere'⟩
      · rw [hnone'] at ha'
        cases ha'
      · obtain rfl := Option.some.inj (ha₁.symm.trans ha)
        obtain rfl := Option.some.inj (ha₂.symm.trans ha')
        exact hthere' hnone
  refine ⟨fun f' w' hw' => ?_, fun f₁ f₂ w₁ w₂ a hw₁ hw₂ ha₁ ha₂ => ?_⟩
  · rw [hflow] at hw'
    by_cases hf : f' = f
    · subst hf
      rw [update_self] at hw'
      obtain rfl := Option.some.inj hw'
      rcases hkind with hnone | ⟨a, ha, hemplaced, hthere', -⟩
      · exact .inl hnone
      · exact .inr ⟨a, ha, hemplaced, hthere'⟩
    · rw [update_of_ne hf] at hw'
      rcases h.kind f' w' hw' with hnone | ⟨a, ha, hemplaced, hthere'⟩
      · exact .inl hnone
      · exact .inr ⟨a, ha, hemplaced, hthere a hthere'⟩
  · rw [hflow] at hw₁ hw₂
    by_cases hf₁ : f₁ = f <;> by_cases hf₂ : f₂ = f
    · rw [hf₁, hf₂]
    · subst hf₁
      rw [update_self] at hw₁
      rw [update_of_ne hf₂] at hw₂
      obtain rfl := Option.some.inj hw₁
      exact absurd ha₁ (hfresh f₂ w₂ a hw₂ ha₂)
    · subst hf₂
      rw [update_of_ne hf₁] at hw₁
      rw [update_self] at hw₂
      obtain rfl := Option.some.inj hw₂
      exact absurd ha₂ (hfresh f₁ w₁ a hw₁ ha₁)
    · rw [update_of_ne hf₁] at hw₁
      rw [update_of_ne hf₂] at hw₂
      exact h.distinct f₁ f₂ w₁ w₂ a hw₁ hw₂ ha₁ ha₂

variable [Inhabited E]

lemma next_there {e : AwaitableEvent K E} (he : e.Valid s)
    (hnext : e.next notEnoughMemory s = some s') (a : ℕ) (ha : s.awaitable a ≠ none) :
    s'.awaitable a ≠ none := by
  obtain ⟨w, hw⟩ := Option.ne_none_iff_exists'.mp ha
  obtain ⟨w', hw', -⟩ := next_awaitable he hnext hw
  rw [hw']
  simp

/-- Only `start_invocation` makes flows, and it does not replace one. -/
lemma FlowsKept.next (h : s.FlowsKept notEnoughMemory) {e : AwaitableEvent K E}
    (he : e.Valid s) (hnext : e.next notEnoughMemory s = some s') :
    s'.FlowsKept notEnoughMemory ∧ ∀ f w, s.flow f = some w → s'.flow f = some w := by
  have hthere := next_there he hnext
  have hsame : s'.flow = s.flow → s'.FlowsKept notEnoughMemory ∧
      ∀ f w, s.flow f = some w → s'.flow f = some w := fun heq =>
    ⟨h.of_awaitable heq hthere, fun f w hw => heq ▸ hw⟩
  have hnew : ∀ f w, (s.flow f).isNone = true → s'.flow = Function.update s.flow f (some w) →
      ∀ f' w', s.flow f' = some w' → s'.flow f' = some w' := by
    intro f w hf hflow f' w' hw'
    have hne : f' ≠ f := by
      rintro rfl
      rw [hw'] at hf
      cases hf
    rw [hflow, update_of_ne hne]
    exact hw'
  cases e with
  | operate op =>
    obtain ⟨i, -, heq⟩ := Option.bind_eq_some_iff.mp hnext
    obtain rfl := Option.some.inj heq
    exact hsame rfl
  | construct a slot input => exact hsame (construct_awaitable hnext).1
  | submit a operation capture exception =>
    obtain ⟨w₀, hw₀, -⟩ := exists_submittable he.1
    exact hsame (submit_awaitable hw₀ hnext).1
  | drop a =>
    obtain ⟨w₀, hw₀, -⟩ := (Option.any_eq_true _ _).mp he
    exact hsame (drop_awaitable hw₀ hnext).1
  | startInvocation f o launch =>
    cases launches hnext with
    | nothing _ _ hflow => exact hsame hflow
    | fails hlaunch _ hflow =>
      have hf : (s.flow f).isNone = true := by
        rcases hlaunch with rfl | ⟨abandoned, rfl⟩ <;> exact he.1
      exact ⟨h.update hflow hthere (.inl ⟨rfl, rfl⟩), hnew f _ hf hflow⟩
    | @awaits a slot w hlaunch hawaitable _ hflow =>
      subst hlaunch
      have ha : s.awaitable a = none := Option.isNone_iff_eq_none.mp he.2.2.1
      refine ⟨h.update hflow hthere (.inr ⟨a, rfl, rfl, ?_, ha⟩), hnew f _ he.1 hflow⟩
      rw [hawaitable, update_self]
      simp

end Awaitables

/-! ## What the handler of a flow gets -/

namespace AwaitingState

/-- What the runner of a flow has emplaced. -/
def emplaced (p : AwaitingState K R E) (w : Flow R E) : List (Except E R) :=
  w.emplaced ++ (w.awaitable.map p.resumes).getD []

/-- What the handler of a flow was called with. -/
def handled (p : AwaitingState K R E) (f : ℕ) : List (Except E R) :=
  ((p.registry.flow f).map fun w => sink true (p.emplaced w)).getD []

lemma handled_eq {p : AwaitingState K R E} {f : ℕ} {w : Flow R E}
    (hw : p.registry.flow f = some w) : p.handled f = (p.emplaced w).take 1 := by
  rw [handled, hw]
  exact sink_true _

lemma handled_none {p : AwaitingState K R E} {f : ℕ} (hnone : p.registry.flow f = none) :
    p.handled f = [] := by
  rw [handled, hnone]
  rfl

variable [Inhabited E] {notEnoughMemory : E} {p p' : AwaitingState K R E} {f : ℕ}

/-- The flows stay as they were made. -/
lemma Leads.flows (hkept : p.registry.FlowsKept notEnoughMemory)
    (h : Leads notEnoughMemory p p') : p'.registry.FlowsKept notEnoughMemory ∧
      ∀ f w, p.registry.flow f = some w → p'.registry.flow f = some w := by
  let inv (q : AwaitingState K R E) : Prop := q.registry.FlowsKept notEnoughMemory ∧
    ∀ f w, p.registry.flow f = some w → q.registry.flow f = some w
  have hinv : inv p' := by
    refine Runs.Reaches.invariant ⟨hkept, fun _ _ => id⟩ ?_ h
    rintro q (e | ⟨k, c⟩) q' ⟨hq, hflows⟩ hmay hnext
    · obtain ⟨r, hr, heq⟩ := Option.bind_eq_some_iff.mp hnext
      obtain rfl := Option.some.inj heq
      obtain ⟨hkept', hstays⟩ := hq.next hmay.2.1 hr
      exact ⟨hkept', fun f w hw => hstays f w (hflows f w hw)⟩
    · obtain ⟨x, -, hrest⟩ := Option.bind_eq_some_iff.mp hnext
      obtain ⟨x', -, heq⟩ := Option.bind_eq_some_iff.mp hrest
      obtain rfl := Option.some.inj heq
      exact ⟨hq, hflows⟩
  exact hinv

lemma Reachable.flowsKept (h : p.Reachable notEnoughMemory) :
    p.registry.FlowsKept notEnoughMemory :=
  (Leads.flows Awaitables.flowsKept_new h).1

/-- The handler of a flow without an awaitable gets an error at once. -/
lemma Reachable.handled_of_none (h : p.Reachable notEnoughMemory) {w : Flow R E}
    (hw : p.registry.flow f = some w) (hnone : w.awaitable = none) :
    p.handled f = [.error notEnoughMemory] := by
  rcases h.flowsKept.kind f w hw with ⟨-, hemplaced⟩ | ⟨a, ha, -⟩
  · rw [handled_eq hw, emplaced, hemplaced]
    rfl
  · rw [hnone] at ha
    cases ha

/-- The handler of a flow gets what its awaitable is resumed with. -/
lemma Reachable.handled_of_awaitable (h : p.Reachable notEnoughMemory) {w : Flow R E} {a : ℕ}
    (hw : p.registry.flow f = some w) (ha : w.awaitable = some a) : p.handled f = p.resumes a := by
  rcases h.flowsKept.kind f w hw with ⟨hnone, -⟩ | ⟨a', ha', hemplaced, -⟩
  · rw [hnone] at ha
    cases ha
  · have hle := (h.resumes_le a).trans (Bool.toNat_le _)
    have heq : p.emplaced w = p.resumes a := by
      rw [emplaced, hemplaced, ha]
      rfl
    rw [handled_eq hw, heq, List.take_of_length_le hle]

lemma Reachable.handled_stays (h : p.Reachable notEnoughMemory)
    (h' : Leads notEnoughMemory p p') (hne : p.handled f ≠ []) : p'.handled f = p.handled f := by
  rcases hw : p.registry.flow f with _ | w
  · exact absurd (handled_none hw) hne
  have hw' := (Leads.flows h.flowsKept h').2 f w hw
  rcases ha : w.awaitable with _ | a
  · rw [h.handled_of_none hw ha, (h.trans h').handled_of_none hw' ha]
  · rw [h.handled_of_awaitable hw ha] at hne ⊢
    rw [(h.trans h').handled_of_awaitable hw' ha]
    exact h.resumes_eq_of_ne_nil h' hne

end AwaitingState

end Dynabridge.Async
