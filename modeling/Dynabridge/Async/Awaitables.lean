import Dynabridge.Async.Frames
import Dynabridge.Async.Programs

/-!
# Invocations as awaitables

`invocation_awaitable` makes an invocation one node of a flow: it is built from a result that
carries the invocation or an error, and `submit` starts the invocation with a handler that resumes
the flow.  `start_invocation` builds such a flow of a single node, whose sink hands the outcome to
the handler of the caller.

The runner belongs to another library.  It makes one awaitable of its input, or none when that
cannot be allocated; it calls `submit` once; and what the awaitable is resumed with reaches the
sink.  Nobody else uses the invocation inside an awaitable.
-/

namespace Dynabridge.Async

open Function Interleaving InvocationOperation Ownership Spawning

variable {K R E : Type}

/-! ## Awaitables -/

/-- The handlers of a program with awaitables. -/
inductive Continuation (K : Type)
  /-- the lambda of `submit`, with the awaitable that it captures -/
  | forward (a : ℕ)
  | other (k : K)
  deriving DecidableEq, Repr

/-- `forward_result::finish` -/
def forwardResult (r : AsyncResult R E) : Except E R :=
  match r.value with
  | some value => .ok value
  | none => .error r.error

/-- `invocation_awaitable` -/
structure Awaitable (R E : Type) where
  /-- the object in `call` -/
  call : Option ℕ
  inputError : E
  /-- the runner has called `submit` -/
  submitted : Bool
  /-- what `submit` itself has resumed with -/
  resumed : List (Except E R)
  /-- the runner has destroyed the awaitable -/
  gone : Bool

/-- What `start_invocation` has made: the awaitable of the flow, and what the sink gets without
one. -/
structure Flow (R E : Type) where
  awaitable : Option ℕ
  emplaced : List (Except E R)

/-- The invocations of a program, with its awaitables and flows. -/
structure Awaitables (K R E : Type) where
  invocations : Invocations (Continuation K) := {}
  /-- the objects inside awaitables, now or before -/
  slots : List ℕ := []
  awaitable : ℕ → Option (Awaitable R E) := fun _ => none
  flow : ℕ → Option (Flow R E) := fun _ => none

/-- What becomes of the input of `start_invocation`. -/
inductive Launch
  /-- the allocation of the shared handler throws -/
  | slotFails
  /-- the flow cannot be allocated, and the call is moved to a local object -/
  | blueprintFails (abandoned : ℕ)
  /-- the runner cannot allocate the awaitable -/
  | creationFails
  | awaits (a slot : ℕ)
  deriving DecidableEq, Repr

namespace Awaitables

/-- What the `submit` of an awaitable has resumed it with. -/
def resumed (s : Awaitables K R E) (a : ℕ) : List (Except E R) :=
  ((s.awaitable a).map Awaitable.resumed).getD []

/-- The constructor of `invocation_awaitable`. -/
def construct [Inhabited E] (a slot : ℕ) (input : Except E ℕ) (s : Awaitables K R E) :
    Option (Awaitables K R E) :=
  match input with
  | .ok other => do
    let invocations ← s.invocations.moveConstruct slot other
    some
      { s with
        invocations := invocations
        slots := slot :: s.slots
        awaitable := update s.awaitable a (some ⟨some slot, default, false, [], false⟩) }
  | .error e =>
    some { s with awaitable := update s.awaitable a (some ⟨none, e, false, [], false⟩) }

/-- The destructor of `invocation_awaitable`. -/
def drop (a : ℕ) (s : Awaitables K R E) : Option (Awaitables K R E) := do
  let w ← s.awaitable a
  let gone := { w with call := none, gone := true }
  match w.call with
  | none => some { s with awaitable := update s.awaitable a (some gone) }
  | some slot => do
    let invocations ← s.invocations.destruct slot
    some { s with invocations := invocations, awaitable := update s.awaitable a (some gone) }

/-- `submit`, with the local `operation` and with the exception that a failing capture throws. -/
def submit (a operation : ℕ) (capture : Capture) (exception : E) (s : Awaitables K R E) :
    Option (Awaitables K R E) := do
  let w ← s.awaitable a
  match w.call with
  | none =>
    let resumed := w.resumed ++ [.error w.inputError]
    some
      { s with
        awaitable := update s.awaitable a (some { w with submitted := true, resumed := resumed }) }
  | some slot =>
    let invocations ← s.invocations.moveConstruct operation slot
    let invocations ← invocations.destruct slot
    let (ending, invocations) ← invocations.start operation (.forward a) capture
    let w := { w with call := none, submitted := true }
    match ending with
    | .returns => do
      let invocations ← invocations.destruct operation
      some { s with invocations := invocations, awaitable := update s.awaitable a (some w) }
    | .throws => do
      let invocations ← invocations.destruct operation
      let w := { w with resumed := w.resumed ++ [.error exception] }
      some { s with invocations := invocations, awaitable := update s.awaitable a (some w) }
    | .aborts =>
      some
        { s with
          invocations := { invocations with aborted := true }
          awaitable := update s.awaitable a (some w) }

/-- `start_invocation` with the call in object `o`. -/
def startInvocation [Inhabited E] (notEnoughMemory : E) (f o : ℕ) (launch : Launch)
    (s : Awaitables K R E) : Option (Awaitables K R E) :=
  match launch with
  | .slotFails => do
    let invocations ← s.invocations.destruct o
    some { s with invocations := invocations }
  | .blueprintFails abandoned => do
    let invocations ← s.invocations.moveConstruct abandoned o
    let invocations ← invocations.destruct abandoned
    let invocations ← invocations.destruct o
    some
      { s with
        invocations := invocations
        flow := update s.flow f (some ⟨none, [.error notEnoughMemory]⟩) }
  | .creationFails => do
    let invocations ← s.invocations.destruct o
    some
      { s with
        invocations := invocations
        flow := update s.flow f (some ⟨none, [.error notEnoughMemory]⟩) }
  | .awaits a slot => do
    let s ← s.construct a slot (.ok o)
    let invocations ← s.invocations.destruct o
    some
      { s with
        invocations := invocations
        flow := update s.flow f (some ⟨some a, []⟩) }

end Awaitables

/-- The handler that an operation passes. -/
def InvocationOperation.passed {H : Type} : InvocationOperation H → Option H
  | start _ handler _ => some handler
  | _ => none

/-- What happens to the invocations and the awaitables of a program. -/
inductive AwaitableEvent (K E : Type)
  | operate (op : InvocationOperation (Continuation K))
  | construct (a slot : ℕ) (input : Except E ℕ)
  | submit (a operation : ℕ) (capture : Capture) (exception : E)
  | drop (a : ℕ)
  | startInvocation (f o : ℕ) (launch : Launch)

namespace AwaitableEvent

/-- Only `submit` passes its lambda. -/
def forwards : Option (Continuation K) → Bool
  | some (.forward _) => true
  | _ => false

/-- An object that is there and not inside an awaitable. -/
def Outside (s : Awaitables K R E) (o : ℕ) : Prop :=
  s.invocations.object o ≠ none ∧ o ∉ s.slots

/-- An object that is not there, and was not inside an awaitable. -/
def Fresh (s : Awaitables K R E) (o : ℕ) : Prop :=
  s.invocations.object o = none ∧ o ∉ s.slots

instance (s : Awaitables K R E) (o : ℕ) : Decidable (Outside s o) :=
  inferInstanceAs (Decidable (_ ≠ none ∧ _))

instance (s : Awaitables K R E) (o : ℕ) : Decidable (Fresh s o) :=
  inferInstanceAs (Decidable (_ = none ∧ _))

/-- Whether the runner can submit the awaitable. -/
def submittable (s : Awaitables K R E) (a : ℕ) : Bool :=
  (s.awaitable a).any fun w => !w.submitted && !w.gone

/-- Awaitables and flows are made once.  The invocation inside an awaitable is only used by its
`submit`, which the runner calls at most once. -/
def Valid (s : Awaitables K R E) : AwaitableEvent K E → Prop
  | operate op => op.Valid s.invocations ∧ (∀ o ∈ op.objects, o ∉ s.slots) ∧
      forwards op.passed = false
  | construct a slot (.ok other) => (s.awaitable a).isNone = true ∧ Fresh s slot ∧ Outside s other
  | construct a _ (.error _) => (s.awaitable a).isNone = true
  | submit a operation _ _ => submittable s a = true ∧ Fresh s operation
  | drop a => (s.awaitable a).any (fun w => !w.gone) = true
  | startInvocation f o (.awaits a slot) => (s.flow f).isNone = true ∧ Outside s o ∧
      (s.awaitable a).isNone = true ∧ Fresh s slot
  | startInvocation f o (.blueprintFails abandoned) => (s.flow f).isNone = true ∧ Outside s o ∧
      Fresh s abandoned
  | startInvocation f o _ => (s.flow f).isNone = true ∧ Outside s o

instance (s : Awaitables K R E) : (e : AwaitableEvent K E) → Decidable (e.Valid s)
  | operate op =>
    inferInstanceAs (Decidable (op.Valid s.invocations ∧ (∀ o ∈ op.objects, o ∉ s.slots) ∧
      forwards op.passed = false))
  | construct a slot (.ok other) =>
    inferInstanceAs (Decidable ((s.awaitable a).isNone = true ∧ Fresh s slot ∧ Outside s other))
  | construct a _ (.error _) => inferInstanceAs (Decidable ((s.awaitable a).isNone = true))
  | submit a operation _ _ =>
    inferInstanceAs (Decidable (submittable s a = true ∧ Fresh s operation))
  | drop a => inferInstanceAs (Decidable ((s.awaitable a).any (fun w => !w.gone) = true))
  | startInvocation f o (.awaits a slot) =>
    inferInstanceAs (Decidable ((s.flow f).isNone = true ∧ Outside s o ∧
      (s.awaitable a).isNone = true ∧ Fresh s slot))
  | startInvocation f o (.blueprintFails abandoned) =>
    inferInstanceAs (Decidable ((s.flow f).isNone = true ∧ Outside s o ∧ Fresh s abandoned))
  | startInvocation f o .slotFails | startInvocation f o .creationFails =>
    inferInstanceAs (Decidable ((s.flow f).isNone = true ∧ Outside s o))

/-- The awaitable that an event destroys. -/
def dropped : AwaitableEvent K E → Option ℕ
  | drop a => some a
  | _ => none

/-- The state after an event. -/
def next [Inhabited E] (notEnoughMemory : E) (s : Awaitables K R E) :
    AwaitableEvent K E → Option (Awaitables K R E)
  | operate op => do
    let invocations ← op.next s.invocations
    some { s with invocations := invocations }
  | construct a slot input => s.construct a slot input
  | submit a operation capture exception => s.submit a operation capture exception
  | drop a => s.drop a
  | startInvocation f o launch => s.startInvocation notEnoughMemory f o launch

end AwaitableEvent

/-! ## Programs with awaitables -/

/-- The awaitables of a program, and the operation states that it has started. -/
abbrev AwaitingState (K R E : Type) := Spawning.State (Awaitables K R E) (System R E)

/-- Whether the handler of a submission resumes the awaitable. -/
def Submission.forwardsTo (a : ℕ) (sub : Submission (Continuation K)) : Bool :=
  match sub.handler with
  | .direct (.forward b) | .forwarding (.forward b) => b == a
  | .direct (.other _) | .forwarding (.other _) => false

namespace AwaitingState

/-- What the handlers have received. -/
def deliveries (p : AwaitingState K R E) :
    List (Submission (Continuation K) × AsyncResult R E) :=
  Async.deliveries p.registry.invocations.submitted p.components

/-- What an awaitable has been resumed with. -/
def resumes (p : AwaitingState K R E) (a : ℕ) : List (Except E R) :=
  p.registry.resumed a ++
    (p.deliveries.filter fun d => d.1.forwardsTo a).map fun d => forwardResult d.2

/-- A runner destroys an awaitable before it has submitted it, or after it has been resumed. -/
def Droppable (p : AwaitingState K R E) (a : ℕ) : Prop :=
  AwaitableEvent.submittable p.registry a = true ∨ (p.resumes a).isEmpty = false

instance (p : AwaitingState K R E) (a : ℕ) : Decidable (p.Droppable a) :=
  inferInstanceAs (Decidable (_ = true ∨ _ = false))

/-- What may happen in a program with awaitables. -/
def May (p : AwaitingState K R E) :
    Spawning.Event (AwaitableEvent K E) (Choice (Command R E)) → Prop
  | .registry e => Running p.registry.invocations p.components ∧ e.Valid p.registry ∧
      ∀ a ∈ e.dropped, p.Droppable a
  | .component _ _ => Running p.registry.invocations p.components

instance (p : AwaitingState K R E) :
    (e : Spawning.Event (AwaitableEvent K E) (Choice (Command R E))) → Decidable (p.May e)
  | .registry e =>
    inferInstanceAs (Decidable (Running p.registry.invocations p.components ∧
      e.Valid p.registry ∧ ∀ a ∈ e.dropped, p.Droppable a))
  | .component _ _ => inferInstanceAs (Decidable (Running p.registry.invocations p.components))

end AwaitingState

/-- Programs with awaitables. -/
def awaiting (K R : Type) [Inhabited E] (notEnoughMemory : E) :
    Family (Awaitables K R E) (AwaitableEvent K E) (Submission (Continuation K)) (System R E)
      (Choice (Command R E)) where
  next := AwaitableEvent.next notEnoughMemory
  listed s := s.invocations.submitted
  start sub := System.start sub.access.isSome
  step := (threads R E).perform
  may p e := AwaitingState.May p e

instance [Inhabited E] (notEnoughMemory : E) (p : AwaitingState K R E)
    (e : Spawning.Event (AwaitableEvent K E) (Choice (Command R E))) :
    Decidable ((awaiting K R notEnoughMemory).may p e) :=
  inferInstanceAs (Decidable (AwaitingState.May p e))

end Dynabridge.Async
