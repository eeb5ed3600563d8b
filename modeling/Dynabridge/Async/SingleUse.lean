import Dynabridge.Async.OperationState
import Dynabridge.Foundations.Ownership
import Dynabridge.Foundations.Runs

/-!
# Single use of invocations

`make_invocation` captures an operation in a `static_invocation`; moves and erasure hand it on,
and `start` moves it into an operation state, which submits it.  The model has any number of
invocations of both forms.  What the submit body and the handler do with other invocations comes
after the start that submits: `start` does not use the invocation any more by then.

The capture of an operation or a handler may throw, and so may an allocation.  In the no-exception
builds these do not happen.  A contract violation ends the process, and nothing happens after it.
-/

namespace Dynabridge.Async

open Ownership Runs Function

variable {H R E : Type}

/-! ## Submissions -/

/-- The handler of an operation state. -/
inductive Handler (H : Type)
  | direct (h : H)
  /-- the lambda of `model::start`, around a `std::function` that holds the handler -/
  | forwarding (h : H)
  deriving DecidableEq, Repr

/-- What the handler does with a result; `invoke` is what the one that the caller passed does. -/
def Handler.call {α : Type} (invoke : H → AsyncResult R E → α) :
    Handler H → AsyncResult R E → α
  | direct h, r | forwarding h, r => invoke h r

/-- An operation state whose operation is called. -/
structure Submission (H : Type) where
  operation : ℕ
  context : ℕ
  access : Option ℕ
  handler : Handler H
  deriving DecidableEq, Repr

/-- What the handler has done in a run of the operation state. -/
def Submission.delivered {α : Type} (sub : Submission H) (invoke : H → AsyncResult R E → α)
    (run : System R E) : List α :=
  run.received.map (sub.handler.call invoke)

/-- Two submissions that call the same operation with the same context and access owner, and
whose handlers do the same in every run of the operation state. -/
structure Submission.Alike (R E : Type) (sub sub' : Submission H) : Prop where
  operation : sub'.operation = sub.operation
  context : sub'.context = sub.context
  access : sub'.access = sub.access
  delivered : ∀ {α : Type} (invoke : H → AsyncResult R E → α) (run : System R E),
    Async.Reachable sub.access.isSome run → sub'.delivered invoke run = sub.delivered invoke run

/-- The lambda of `model::start` does with every result what the handler does. -/
lemma Submission.alike_forwarding (operation context : ℕ) (access : Option ℕ) (handler : H) :
    Submission.Alike R E ⟨operation, context, access, .direct handler⟩
      ⟨operation, context, access, .forwarding handler⟩ :=
  ⟨rfl, rfl, rfl, fun _ _ _ => rfl⟩

/-! ## Invocations -/

/-- `static_invocation` -/
structure StaticInvocation where
  context : Option ℕ
  access : Option ℕ
  /-- `operation_`, with the operation that its value still is; none for a value that was moved
  from -/
  operation : Option (Option ℕ)
  deriving DecidableEq, Repr

/-- A `static_invocation` that was moved from: its optional stays engaged. -/
def StaticInvocation.moved (x : StaticInvocation) : StaticInvocation where
  context := none
  access := none
  operation := x.operation.map fun _ => none

/-- The operation that a `static_invocation` carries. -/
def StaticInvocation.carried (x : StaticInvocation) : Option ℕ := x.operation.join

/-- The objects that carry operations. -/
inductive Carrier
  | concrete (x : StaticInvocation)
  /-- `invocation`, with the call of the `model` that its pointer owns -/
  | erased (operation : Option StaticInvocation)
  deriving DecidableEq, Repr

/-- A carrier that was moved from. -/
def Carrier.moved : Carrier → Carrier
  | concrete x => concrete x.moved
  | erased _ => erased none

/-- The operation that an object carries. -/
def Carrier.carried : Carrier → Option ℕ
  | concrete x => x.carried
  | erased operation => operation.bind StaticInvocation.carried

/-- Whether the object is a `static_invocation`. -/
def Carrier.isConcrete : Carrier → Bool
  | concrete _ => true
  | erased _ => false

/-- Whether two objects can be assigned to each other. -/
def Carrier.sameForm (c c' : Carrier) : Bool := c.isConcrete == c'.isConcrete

/-- How a call ends. -/
inductive Ending
  | returns
  | throws
  | aborts
  deriving DecidableEq, Repr

/-- What happens while `start` captures the handler and makes the operation state.  The
parameters of the constructor of the state may be initialised in either order: those before the
handler are moved into already when it throws. -/
inductive Capture
  | succeeds
  | allocationFails
  | handlerThrows (leftToRight : Bool)
  deriving DecidableEq, Repr

/-- The invocations of a program. -/
structure Invocations (H : Type) where
  /-- the operations that were captured; one is gone when no invocation carries it any more -/
  operations : Lifetimes := {}
  /-- the last one first -/
  submitted : List (Submission H) := []
  object : ℕ → Option Carrier := fun _ => none
  aborted : Bool := false

namespace Invocations

/-- The operation that an object carries. -/
def carried (s : Invocations H) (o : ℕ) : Option ℕ := (s.object o).bind Carrier.carried

/-- No invocation carries the operation any more. -/
def release (operation : Option ℕ) (s : Invocations H) : Option (Invocations H) := do
  let operations ← s.operations.release operation
  some { s with operations := operations }

/-- `make_invocation` -/
def make (o : ℕ) (context access : Option ℕ) (captureThrows : Bool) (s : Invocations H) :
    Ending × Invocations H :=
  if captureThrows then (.throws, s)
  else
    match context with
    | none => (.aborts, s)
    | some context =>
      let x : StaticInvocation := ⟨some context, access, some (some s.operations.made)⟩
      (.returns,
        { s with
          operations := s.operations.make
          object := update s.object o (some (.concrete x)) })

/-- The move constructors of both forms. -/
def moveConstruct (o other : ℕ) (s : Invocations H) : Option (Invocations H) := do
  let x ← s.object other
  some { s with object := update (update s.object o (some x)) other (some x.moved) }

/-- The move assignments of both forms: destruction and construction in place for
`static_invocation`, `unique_ptr::operator=` for `invocation`. -/
def moveAssign (o other : ℕ) (s : Invocations H) : Option (Invocations H) :=
  if o = other then some s
  else do
    let self ← s.object o
    let x ← s.object other
    let s ← s.release self.carried
    some { s with object := update (update s.object o (some x)) other (some x.moved) }

/-- `erase_invocation`.  Its allocation may fail, before or after the call is moved into the
parameter of the constructor of `model`. -/
def erase (o other : ℕ) (failure : Option Bool) (s : Invocations H) :
    Option (Ending × Invocations H) := do
  let x ← s.object other
  match x with
  | .erased _ => none
  | .concrete x =>
    let object := update s.object other (some (.concrete x.moved))
    match failure with
    | none => some (.returns, { s with object := update object o (some (.erased (some x))) })
    | some false => some (.throws, s)
    | some true => do
      let s ← s.release x.carried
      some (.throws, { s with object := object })

/-- `static_invocation::start`, with what it leaves of the invocation.  To submit an operation
that was moved from is undefined. -/
def startStatic (x : StaticInvocation) (handler : Handler H) (capture : Capture)
    (s : Invocations H) : Option (Ending × StaticInvocation × Invocations H) :=
  match x.context, x.operation with
  | some context, some operation =>
    match capture with
    | .allocationFails => some (.throws, x, s)
    | .handlerThrows true => do
      let s ← s.release operation
      some (.throws, { x.moved with access := x.access }, s)
    | .handlerThrows false => some (.throws, { x with access := none }, s)
    | .succeeds => do
      let id ← operation
      let s ← s.release operation
      some (.returns, ⟨none, none, none⟩,
        { s with submitted := ⟨id, context, x.access, handler⟩ :: s.submitted })
  | _, _ => some (.aborts, x, s)

/-- `start` of both forms.  The one of `invocation` takes the `model` out of the object before it
captures the handler in a `std::function`, and destroys it in the end. -/
def start (o : ℕ) (handler : H) (capture : Capture) (s : Invocations H) :
    Option (Ending × Invocations H) := do
  let x ← s.object o
  match x with
  | .concrete x => do
    let (ending, x, s) ← s.startStatic x (.direct handler) capture
    some (ending, { s with object := update s.object o (some (.concrete x)) })
  | .erased none => some (.aborts, s)
  | .erased (some x) =>
    let s := { s with object := update s.object o (some (.erased none)) }
    match capture with
    | .handlerThrows _ => do
      let s ← s.release x.carried
      some (.throws, s)
    | capture => do
      let (ending, x, s) ← s.startStatic x (.forwarding handler) capture
      let s ← s.release x.carried
      some (ending, s)

/-- The destructors of both forms. -/
def destruct (o : ℕ) (s : Invocations H) : Option (Invocations H) := do
  let self ← s.object o
  let s ← s.release self.carried
  some { s with object := update s.object o none }

end Invocations

/-! ## Operations on invocations -/

/-- The operations on invocations, with what fails in them. -/
inductive InvocationOperation (H : Type)
  | make (o : ℕ) (context access : Option ℕ) (captureThrows : Bool)
  | moveConstruct (o other : ℕ)
  | moveAssign (o other : ℕ)
  | erase (o other : ℕ) (failure : Option Bool)
  | start (o : ℕ) (handler : H) (capture : Capture)
  | destruct (o : ℕ)
  deriving DecidableEq, Repr

namespace InvocationOperation

/-- Constructors make an object that is not there, of the form of the other one for a move and of
a `static_invocation` for an erasure; the other operations work on objects that are there. -/
def Valid (s : Invocations H) (op : InvocationOperation H) : Prop :=
  s.aborted = false ∧
    match op with
    | make o _ _ _ => s.object o = none
    | moveConstruct o other => s.object o = none ∧ s.object other ≠ none
    | moveAssign o other =>
      ∃ x ∈ s.object o, ∃ y ∈ s.object other, x.sameForm y = true
    | erase o other _ => s.object o = none ∧ ∃ x ∈ s.object other, x.isConcrete = true
    | start o _ _ | destruct o => s.object o ≠ none

instance (s : Invocations H) : (op : InvocationOperation H) → Decidable (op.Valid s)
  | make o _ _ _ => inferInstanceAs (Decidable (s.aborted = false ∧ s.object o = none))
  | moveConstruct o other =>
    inferInstanceAs (Decidable (s.aborted = false ∧ s.object o = none ∧ s.object other ≠ none))
  | moveAssign o other =>
    inferInstanceAs (Decidable (s.aborted = false ∧
      ∃ x ∈ s.object o, ∃ y ∈ s.object other, x.sameForm y = true))
  | erase o other _ =>
    inferInstanceAs (Decidable (s.aborted = false ∧
      s.object o = none ∧ ∃ x ∈ s.object other, x.isConcrete = true))
  | start o _ _ | destruct o =>
    inferInstanceAs (Decidable (s.aborted = false ∧ s.object o ≠ none))

/-- What an operation does and how it ends, unless it is undefined. -/
def perform (s : Invocations H) : InvocationOperation H → Option (Ending × Invocations H)
  | make o context access captureThrows => some (s.make o context access captureThrows)
  | moveConstruct o other => (s.moveConstruct o other).map (.returns, ·)
  | moveAssign o other => (s.moveAssign o other).map (.returns, ·)
  | erase o other failure => s.erase o other failure
  | start o handler capture => s.start o handler capture
  | destruct o => (s.destruct o).map (.returns, ·)

/-- The state after an operation. -/
def next (s : Invocations H) (op : InvocationOperation H) : Option (Invocations H) := do
  let (ending, s) ← op.perform s
  some { s with aborted := ending == .aborts }

/-- The states that valid operations lead to from a given one. -/
def ReachableFrom (s s' : Invocations H) : Prop := Reaches (fun s op => op.Valid s) next s s'

/-- The states that valid operations lead to, from a program without invocations. -/
def Reachable (s : Invocations H) : Prop := ReachableFrom {} s

end InvocationOperation

/-! ## What the operations keep -/

/-- The context pointer of a `static_invocation` tells whether it carries an operation. -/
def StaticInvocation.Sound (x : StaticInvocation) : Prop := x.context.isSome = x.carried.isSome

/-- The `static_invocation` of a carrier. -/
def Carrier.invocation : Carrier → Option StaticInvocation
  | concrete x => some x
  | erased operation => operation

@[simp] lemma StaticInvocation.carried_moved (x : StaticInvocation) : x.moved.carried = none := by
  rcases x with ⟨_, _, _ | _⟩ <;> rfl

@[simp] lemma Carrier.carried_moved (c : Carrier) : c.moved.carried = none := by
  cases c with
  | concrete x => exact x.carried_moved
  | erased _ => rfl

lemma StaticInvocation.sound_moved (x : StaticInvocation) : x.moved.Sound := by
  rw [Sound, carried_moved]
  rfl

lemma StaticInvocation.Sound.exists_context {x : StaticInvocation} (hx : x.Sound)
    (hcarried : x.carried ≠ none) : ∃ context, x.context = some context := by
  rw [← Option.isSome_iff_exists, hx]
  exact Option.isSome_iff_ne_none.mpr hcarried

/-- The invocation of a carrier is sound, if it has one. -/
def Carrier.Sound (c : Carrier) : Prop := ∀ x, c.invocation = some x → x.Sound

lemma Carrier.sound_moved (c : Carrier) : c.moved.Sound := by
  intro x hx
  cases c with
  | concrete y =>
    rw [← Option.some.inj hx]
    exact y.sound_moved
  | erased _ => cases hx

/-- All carriers are sound. -/
def AllSound (object : ℕ → Option Carrier) : Prop := ∀ o c, object o = some c → c.Sound

lemma AllSound.update {object : ℕ → Option Carrier} (h : AllSound object) (o : ℕ)
    {value : Option Carrier} (hvalue : ∀ c, value = some c → c.Sound) :
    AllSound (update object o value) := by
  intro o' c hc
  by_cases ho : o' = o
  · subst ho
    rw [update_self] at hc
    exact hvalue c hc
  · rw [update_of_ne ho] at hc
    exact h o' c hc

namespace Invocations

variable {s s' : Invocations H} {o other : ℕ}

/-- The invocations carry the operations that are not gone, one each, and what was submitted is
gone and was submitted once. -/
structure Kept (s : Invocations H) : Prop where
  owned : Owned s.operations s.carried
  sound : AllSound s.object
  gone : ∀ sub ∈ s.submitted, sub.operation ∈ s.operations.destroyed
  once : (s.submitted.map Submission.operation).Nodup

/-- A step that submits nothing. -/
structure Quiet (s s' : Invocations H) : Prop where
  owned : Owned s'.operations s'.carried
  sound : AllSound s'.object
  destroyed : s.operations.destroyed ⊆ s'.operations.destroyed
  submitted : s'.submitted = s.submitted

/-- A step that submits an operation which an invocation carried. -/
structure Submits (s : Invocations H) (sub : Submission H) (s' : Invocations H) : Prop where
  owned : Owned s'.operations s'.carried
  sound : AllSound s'.object
  destroyed : s.operations.destroyed ⊆ s'.operations.destroyed
  alive : s.operations.Alive sub.operation
  gone : sub.operation ∈ s'.operations.destroyed
  submitted : s'.submitted = sub :: s.submitted

lemma kept_new : ({} : Invocations H).Kept := ⟨Owned.empty, by simp [AllSound], by simp, by simp⟩

lemma Kept.of_quiet (h : s.Kept) (hs' : s.Quiet s') : s'.Kept := by
  refine ⟨hs'.owned, hs'.sound, ?_, ?_⟩
  · rw [hs'.submitted]
    exact fun sub hsub => hs'.destroyed (h.gone sub hsub)
  · rw [hs'.submitted]
    exact h.once

lemma Kept.of_submits (h : s.Kept) {sub : Submission H} (hs' : s.Submits sub s') : s'.Kept := by
  refine ⟨hs'.owned, hs'.sound, ?_, ?_⟩
  · rw [hs'.submitted]
    intro sub' hsub'
    rcases List.mem_cons.mp hsub' with rfl | hold
    · exact hs'.gone
    · exact hs'.destroyed (h.gone sub' hold)
  · rw [hs'.submitted, List.map_cons, List.nodup_cons]
    refine ⟨fun hmem => ?_, h.once⟩
    obtain ⟨sub', hsub', heq⟩ := List.mem_map.mp hmem
    exact hs'.alive.2 (heq ▸ h.gone sub' hsub')

lemma carried_eq {c : Carrier} (hc : s.object o = some c) : s.carried o = c.carried := by
  rw [carried, hc]
  rfl

lemma carried_eq_none (ho : s.object o = none) : s.carried o = none := by
  rw [carried, ho]
  rfl

lemma carried_update (operations : Lifetimes) (submitted : List (Submission H)) (aborted : Bool)
    (object : ℕ → Option Carrier) (o : ℕ) (value : Option Carrier) :
    carried ⟨operations, submitted, update object o value, aborted⟩ =
      update (carried ⟨operations, submitted, object, aborted⟩) o (value.bind Carrier.carried) :=
  comp_update (Option.bind · Carrier.carried) object o value

@[simp] lemma release_none (s : Invocations H) : s.release none = some s := rfl

/-- An invocation gives up what it carries. -/
lemma exists_release (s : Invocations H) {holds : ℕ → Option ℕ} (h : Owned s.operations holds)
    (o : ℕ) : ∃ operations, s.release (holds o) = some { s with operations := operations } ∧
      Owned operations (update holds o none) ∧
      operations.destroyed = (holds o).toList ++ s.operations.destroyed := by
  obtain ⟨operations, hrelease, hdestroyed, howned⟩ := h.release o
  refine ⟨operations, ?_, howned, hdestroyed⟩
  rw [release, hrelease]
  rfl

lemma Kept.make (h : s.Kept) (ho : s.object o = none) (context access : Option ℕ)
    (captureThrows : Bool) : s.Quiet (s.make o context access captureThrows).2 := by
  have hsame : s.Quiet s := ⟨h.owned, h.sound, List.Subset.refl _, rfl⟩
  unfold Invocations.make
  cases captureThrows with
  | true => exact hsame
  | false =>
    cases context with
    | none => exact hsame
    | some context =>
      refine ⟨?_, h.sound.update o ?_, List.Subset.refl _, rfl⟩
      · simp only [Bool.false_eq_true, if_false]
        rw [carried_update]
        exact h.owned.make (carried_eq_none ho)
      · intro c hc x hx
        rw [← Option.some.inj hc] at hx
        rw [← Option.some.inj hx]
        rfl

/-- The second object carries what the first one did, which carries nothing now. -/
structure HandsOver (s : Invocations H) (other o : ℕ) (s' : Invocations H) : Prop where
  target : s'.carried o = s.carried other
  source : s'.carried other = none

lemma handsOver (operations : Lifetimes) {x y z : Carrier} (hx : s.object other = some x)
    (hne : o ≠ other) (hy : y.carried = x.carried) (hz : z.carried = none) :
    s.HandsOver other o
      { s with
        operations := operations
        object := update (update s.object o (some y)) other (some z) } := by
  constructor
  · rw [carried_update, update_of_ne hne, carried_update, update_self, carried_eq hx]
    exact hy
  · rw [carried_update, update_self]
    exact hz

/-- What both moves do, once the target carries nothing. -/
lemma Kept.move (h : s.Kept) {x : Carrier} (hx : s.object other = some x) (hne : o ≠ other)
    {operations : Lifetimes} (howned : Owned operations (update s.carried o none))
    (hdestroyed : s.operations.destroyed ⊆ operations.destroyed) :
    s.Quiet
      { s with
        operations := operations
        object := update (update s.object o (some x)) other (some x.moved) } := by
  refine ⟨?_, ?_, hdestroyed, rfl⟩
  · have htransfer := howned.transfer (s := other) (t := o) (update_self ..)
    rw [update_idem, update_of_ne (Ne.symm hne), carried_eq hx] at htransfer
    dsimp only
    rw [carried_update, carried_update, Option.bind_some, Option.bind_some, Carrier.carried_moved]
    exact htransfer
  · refine (h.sound.update o fun c hc => ?_).update other fun c hc => ?_
    · exact Option.some.inj hc ▸ h.sound other x hx
    · exact Option.some.inj hc ▸ x.sound_moved

lemma Kept.moveConstruct (h : s.Kept) (ho : s.object o = none) (hother : s.object other ≠ none) :
    ∃ s', s.moveConstruct o other = some s' ∧ s.Quiet s' ∧ s.HandsOver other o s' := by
  obtain ⟨x, hx⟩ := Option.ne_none_iff_exists'.mp hother
  have hne : o ≠ other := by
    rintro rfl
    exact hother ho
  refine ⟨_, ?_, h.move hx hne ?_ (List.Subset.refl _),
    handsOver s.operations hx hne rfl x.carried_moved⟩
  · rw [Invocations.moveConstruct, hx]
    rfl
  · rw [← carried_eq_none ho, update_eq_self]
    exact h.owned

/-- The operation that the target carried is gone. -/
lemma Kept.moveAssign (h : s.Kept) {self x : Carrier} (hself : s.object o = some self)
    (hx : s.object other = some x) :
    ∃ s', s.moveAssign o other = some s' ∧ s.Quiet s' ∧
      (o ≠ other → s.HandsOver other o s') := by
  rw [Invocations.moveAssign]
  by_cases hne : o = other
  · rw [if_pos hne]
    exact ⟨s, rfl, ⟨h.owned, h.sound, List.Subset.refl _, rfl⟩, fun hcontra => absurd hne hcontra⟩
  obtain ⟨operations, hrelease, howned, hdestroyed⟩ := s.exists_release h.owned o
  rw [carried_eq hself] at hrelease
  refine ⟨_, ?_, h.move hx hne howned ?_,
    fun _ => handsOver operations hx hne rfl x.carried_moved⟩
  · simp only [if_neg hne, hself, hx, hrelease, Option.bind_eq_bind, Option.bind_some]
  · rw [hdestroyed]
    exact List.subset_append_right ..

lemma Kept.destruct (h : s.Kept) {self : Carrier} (hself : s.object o = some self) :
    ∃ s', s.destruct o = some s' ∧ s.Quiet s' := by
  obtain ⟨operations, hrelease, howned, hdestroyed⟩ := s.exists_release h.owned o
  rw [carried_eq hself] at hrelease
  refine ⟨{ s with operations := operations, object := update s.object o none }, ?_, ?_,
    h.sound.update o (by simp), ?_, rfl⟩
  · simp only [Invocations.destruct, hself, hrelease, Option.bind_eq_bind, Option.bind_some]
  · dsimp only
    rw [carried_update]
    exact howned
  · dsimp only
    rw [hdestroyed]
    exact List.subset_append_right ..

/-- An erasure hands the operation over; one that fails leaves it or loses it. -/
lemma Kept.erase (h : s.Kept) (ho : s.object o = none) {x : StaticInvocation}
    (hx : s.object other = some (.concrete x)) (failure : Option Bool) :
    ∃ ending s', s.erase o other failure = some (ending, s') ∧ s.Quiet s' ∧
      (failure = none → s.HandsOver other o s') := by
  have hne : o ≠ other := by
    rintro rfl
    rw [hx] at ho
    cases ho
  have hmoved : ∀ c, some (Carrier.concrete x.moved) = some c → c.Sound := fun c hc y hy => by
    rw [← Option.some.inj hc] at hy
    exact Option.some.inj hy ▸ x.sound_moved
  rw [Invocations.erase, hx]
  rcases failure with _ | _ | _
  · have hcomm : update (update s.object other (some (.concrete x.moved))) o
        (some (.erased (some x))) =
        update (update s.object o (some (.erased (some x)))) other (some (.concrete x.moved)) :=
      update_comm (Ne.symm hne) ..
    simp only [Option.bind_eq_bind, Option.bind_some, hcomm]
    refine ⟨_, _, rfl, ⟨?_, (h.sound.update o fun c hc y hy => ?_).update other hmoved,
      List.Subset.refl _, rfl⟩, fun _ => handsOver s.operations hx hne rfl x.carried_moved⟩
    · have htransfer := h.owned.transfer (s := other) (carried_eq_none ho)
      rw [carried_eq hx] at htransfer
      dsimp only
      rw [carried_update, carried_update, Option.bind_some, Option.bind_some]
      rw [show (Carrier.concrete x.moved).carried = none from x.carried_moved]
      exact htransfer
    · rw [← Option.some.inj hc] at hy
      exact h.sound other _ hx y hy
  · exact ⟨_, _, rfl, ⟨h.owned, h.sound, List.Subset.refl _, rfl⟩, by simp⟩
  · obtain ⟨operations, hrelease, howned, hdestroyed⟩ := s.exists_release h.owned other
    rw [carried_eq hx] at hrelease
    refine ⟨.throws,
      { s with
        operations := operations
        object := update s.object other (some (.concrete x.moved)) }, ?_,
      ⟨?_, h.sound.update other hmoved, ?_, rfl⟩, by simp⟩
    · simp only [Option.bind_eq_bind, Option.bind_some]
      rw [show x.carried = (Carrier.concrete x).carried from rfl, hrelease]
      rfl
    · dsimp only
      rw [carried_update, Option.bind_some,
        show (Carrier.concrete x.moved).carried = none from x.carried_moved]
      exact howned
    · dsimp only
      rw [hdestroyed]
      exact List.subset_append_right ..

/-! ### The start -/

variable {x : StaticInvocation} {holds : ℕ → Option ℕ}

lemma startStatic_of_not_carried (hx : x.Sound) (hcarried : x.carried = none)
    (handler : Handler H) (capture : Capture) (s : Invocations H) :
    s.startStatic x handler capture = some (.aborts, x, s) := by
  have hcontext : x.context = none := by
    rw [← Option.isNone_iff_eq_none, ← Option.not_isSome, hx, hcarried]
    rfl
  rw [startStatic, hcontext]

/-- A start that captures everything moves the operation into the state and submits it. -/
lemma startStatic_succeeds {id context : ℕ} {operations : Lifetimes}
    (hcontext : x.context = some context) (hcarried : x.carried = some id)
    (hrelease : s.operations.release (some id) = some operations) (handler : Handler H) :
    s.startStatic x handler .succeeds = some (.returns, ⟨none, none, none⟩,
      { s with
        operations := operations
        submitted := ⟨id, context, x.access, handler⟩ :: s.submitted }) := by
  have hoperation : x.operation = some (some id) := Option.join_eq_some_iff.mp hcarried
  simp only [startStatic, hcontext, hoperation, release, hrelease, Option.bind_eq_bind,
    Option.bind_some]

/-- An operation that an invocation carries can be submitted. -/
lemma exists_startStatic (hx : x.Sound) {id : ℕ} (hcarried : x.carried = some id)
    (howned : Owned s.operations holds) (ho : holds o = some id) (handler : Handler H) :
    ∃ operations context, x.context = some context ∧
      s.startStatic x handler .succeeds = some (.returns, ⟨none, none, none⟩,
        { s with
          operations := operations
          submitted := ⟨id, context, x.access, handler⟩ :: s.submitted }) ∧
      Owned operations (update holds o none) ∧
      operations.destroyed = id :: s.operations.destroyed := by
  obtain ⟨context, hcontext⟩ := hx.exists_context (by rw [hcarried]; simp)
  obtain ⟨operations, hrelease, hdestroyed, howned'⟩ := howned.release o
  rw [ho] at hrelease hdestroyed
  exact ⟨operations, context, hcontext, startStatic_succeeds hcontext hcarried hrelease handler,
    howned', hdestroyed⟩

/-- A start that fails to capture something submits nothing, and leaves the operation with the
invocation or loses it. -/
lemma exists_startStatic_throws (hx : x.Sound) (hcarried : x.carried ≠ none)
    (howned : Owned s.operations holds) (ho : holds o = x.carried) (handler : Handler H)
    {capture : Capture} (hcapture : capture ≠ .succeeds) :
    ∃ operations x', s.startStatic x handler capture =
        some (.throws, x', { s with operations := operations }) ∧ x'.Sound ∧
      Owned operations (update holds o x'.carried) ∧
      s.operations.destroyed ⊆ operations.destroyed := by
  obtain ⟨id, hid⟩ := Option.ne_none_iff_exists'.mp hcarried
  obtain ⟨context, hcontext⟩ := hx.exists_context hcarried
  have hoperation : x.operation = some (some id) := Option.join_eq_some_iff.mp hid
  have hsame : Owned s.operations (update holds o x.carried) := by
    rw [← ho, update_eq_self]
    exact howned
  rw [startStatic, hcontext, hoperation]
  rcases capture with _ | _ | leftToRight
  · exact absurd rfl hcapture
  · exact ⟨s.operations, x, rfl, hx, hsame, List.Subset.refl _⟩
  · cases leftToRight with
    | false =>
      refine ⟨s.operations, { x with access := none }, ?_, hx, hsame, List.Subset.refl _⟩
      rw [hcontext, hoperation]
    | true =>
      obtain ⟨operations, hrelease, howned', hdestroyed⟩ := s.exists_release howned o
      rw [ho, hid] at hrelease hdestroyed
      refine ⟨operations, { x.moved with access := x.access }, ?_, x.sound_moved, ?_, ?_⟩
      · simp only [hrelease, Option.bind_eq_bind, Option.bind_some]
      · have hnone : StaticInvocation.carried { x.moved with access := x.access } = none :=
          x.carried_moved
        rw [hnone]
        exact howned'
      · rw [hdestroyed]
        exact List.subset_append_right ..

/-- What a start with the given handler and capture does to the operation of an object. -/
structure Starts (s : Invocations H) (o : ℕ) (handler : H) (capture : Capture) (ending : Ending)
    (s' : Invocations H) : Prop where
  submits : ∀ id, s.carried o = some id → capture = .succeeds →
    ending = .returns ∧ s'.carried o = none ∧ ∃ context access handler',
      (handler' = .direct handler ∨ handler' = .forwarding handler) ∧
        s.Submits ⟨id, context, access, handler'⟩ s'
  quiet : s.carried o = none ∨ capture ≠ .succeeds → s.Quiet s'
  throws : s.carried o ≠ none → capture ≠ .succeeds → ending = .throws
  aborts : s.carried o = none → (∀ leftToRight, capture ≠ .handlerThrows leftToRight) →
    ending = .aborts

lemma starts_of_submits {id context : ℕ} {access : Option ℕ} {handler : H} {handler' : Handler H}
    (hcarried : s.carried o = some id) (hhandler : handler' = .direct handler ∨
      handler' = .forwarding handler) (hs' : s.Submits ⟨id, context, access, handler'⟩ s')
    (hnone : s'.carried o = none) : s.Starts o handler .succeeds .returns s' := by
  refine ⟨fun id' hid' _ => ⟨rfl, hnone, context, access, handler', hhandler, ?_⟩, ?_,
    fun _ hne => absurd rfl hne, fun hnone _ => ?_⟩
  · obtain rfl : id' = id := Option.some.inj (hid'.symm.trans hcarried)
    exact hs'
  · rintro (hnone | hne)
    · rw [hcarried] at hnone
      cases hnone
    · exact absurd rfl hne
  · rw [hcarried] at hnone
    cases hnone

lemma starts_of_throws {handler : H} {capture : Capture} (hs' : s.Quiet s')
    (hcapture : capture ≠ .succeeds)
    (hthrows : s.carried o ≠ none ∨ ∃ leftToRight, capture = .handlerThrows leftToRight) :
    s.Starts o handler capture .throws s' := by
  refine ⟨fun _ _ hsucceeds => absurd hsucceeds hcapture, fun _ => hs', fun _ _ => rfl,
    fun hnone hnot => ?_⟩
  rcases hthrows with hcarried | ⟨leftToRight, heq⟩
  · exact absurd hnone hcarried
  · exact absurd heq (hnot leftToRight)

lemma starts_of_aborts {handler : H} {capture : Capture} (hs' : s.Quiet s')
    (hcarried : s.carried o = none) : s.Starts o handler capture .aborts s' := by
  refine ⟨fun id hid _ => ?_, fun _ => hs', fun hne _ => absurd hcarried hne, fun _ _ => rfl⟩
  rw [hcarried] at hid
  cases hid

/-- `start` of a `static_invocation`. -/
lemma Kept.start_concrete (h : s.Kept) (ho : s.object o = some (.concrete x)) (handler : H)
    (capture : Capture) : ∃ ending s', s.start o handler capture = some (ending, s') ∧
      s.Starts o handler capture ending s' := by
  have hx : x.Sound := h.sound o _ ho x rfl
  have hcarried : s.carried o = x.carried := carried_eq ho
  have hsound : ∀ {y : StaticInvocation}, y.Sound →
      AllSound (update s.object o (some (.concrete y))) := fun {y} hy =>
    h.sound.update o fun c hc z hz => by
      rw [← Option.some.inj hc] at hz
      exact Option.some.inj hz ▸ hy
  rw [start, ho]
  by_cases hnone : x.carried = none
  · refine ⟨.aborts, { s with object := update s.object o (some (.concrete x)) }, ?_,
      starts_of_aborts ?_ (hcarried.trans hnone)⟩
    · simp only [startStatic_of_not_carried hx hnone, Option.bind_eq_bind, Option.bind_some]
    · rw [← ho, update_eq_self]
      exact ⟨h.owned, h.sound, List.Subset.refl _, rfl⟩
  · by_cases hcapture : capture = .succeeds
    · subst hcapture
      obtain ⟨id, hid⟩ := Option.ne_none_iff_exists'.mp hnone
      obtain ⟨operations, context, hcontext, hstart, howned, hdestroyed⟩ :=
        exists_startStatic hx hid h.owned (hcarried.trans hid) (.direct handler)
      have hempty : StaticInvocation.Sound ⟨none, none, none⟩ := rfl
      refine ⟨.returns,
        { s with
          operations := operations
          submitted := ⟨id, context, x.access, .direct handler⟩ :: s.submitted
          object := update s.object o (some (.concrete ⟨none, none, none⟩)) }, ?_,
        starts_of_submits (hcarried.trans hid) (.inl rfl) ⟨?_, hsound hempty, ?_,
          h.owned.alive (hcarried.trans hid), ?_, rfl⟩ ?_⟩
      · simp only [hstart, Option.bind_eq_bind, Option.bind_some]
      · dsimp only
        rw [carried_update]
        exact howned
      · dsimp only
        rw [hdestroyed]
        exact List.subset_cons_self ..
      · dsimp only
        rw [hdestroyed]
        exact List.mem_cons_self ..
      · rw [carried_update, update_self]
        rfl
    · obtain ⟨operations, x', hstart, hx', howned, hdestroyed⟩ :=
        exists_startStatic_throws hx hnone h.owned hcarried (.direct handler) hcapture
      refine ⟨.throws,
        { s with
          operations := operations
          object := update s.object o (some (.concrete x')) }, ?_,
        starts_of_throws ⟨?_, hsound hx', hdestroyed, rfl⟩ hcapture
          (.inl (fun hcontra => hnone (hcarried.symm.trans hcontra)))⟩
      · simp only [hstart, Option.bind_eq_bind, Option.bind_some]
      · dsimp only
        rw [carried_update]
        exact howned

/-- The state in which `op`, the local variable of `invocation::start`, has the `model`. -/
def taken (s : Invocations H) (o : ℕ) : Invocations H :=
  { s with object := update s.object o (some (.erased none)) }

/-- Destroying `op` with what the `model` still carries is a step that submits nothing. -/
lemma Kept.quiet_taken (h : s.Kept) {operations : Lifetimes}
    (howned : Owned operations (update s.carried o none))
    (hdestroyed : s.operations.destroyed ⊆ operations.destroyed) :
    s.Quiet { s.taken o with operations := operations } := by
  refine ⟨?_, h.sound.update o fun c hc z hz => ?_, hdestroyed, rfl⟩
  · dsimp only [taken]
    rw [carried_update]
    exact howned
  · rw [← Option.some.inj hc] at hz
    cases hz

lemma Kept.start_erased_aborts (h : s.Kept) (ho : s.object o = some (.erased (some x)))
    (hnone : x.carried = none) (handler : H) {capture : Capture}
    (hcapture : ∀ leftToRight, capture ≠ .handlerThrows leftToRight) :
    ∃ ending s', s.start o handler capture = some (ending, s') ∧
      s.Starts o handler capture ending s' := by
  have hx : x.Sound := h.sound o _ ho x rfl
  have hcarried : s.carried o = none := (carried_eq ho).trans hnone
  have hsame : Owned s.operations (update s.carried o none) := by
    rw [← hcarried, update_eq_self]
    exact h.owned
  refine ⟨.aborts, s.taken o, ?_, starts_of_aborts (h.quiet_taken hsame (List.Subset.refl _))
    hcarried⟩
  have hrun := startStatic_of_not_carried hx hnone (.forwarding handler) capture (s.taken o)
  rw [Invocations.start, ho]
  rcases capture with _ | _ | leftToRight
  case handlerThrows => exact absurd rfl (hcapture leftToRight)
  all_goals
    simp only [Option.bind_eq_bind, Option.bind_some]
    rw [taken] at hrun
    rw [hrun]
    simp only [Option.bind_some, hnone, release_none, taken]

lemma Kept.start_erased_submits (h : s.Kept) (ho : s.object o = some (.erased (some x))) {id : ℕ}
    (hid : x.carried = some id) (handler : H) :
    ∃ ending s', s.start o handler .succeeds = some (ending, s') ∧
      s.Starts o handler .succeeds ending s' := by
  have hx : x.Sound := h.sound o _ ho x rfl
  have hcarried : s.carried o = some id := (carried_eq ho).trans hid
  obtain ⟨operations, context, -, hstart, howned, hdestroyed⟩ :=
    exists_startStatic (s := s.taken o) hx hid h.owned hcarried (.forwarding handler)
  have hgone : s.operations.destroyed ⊆ operations.destroyed := by
    rw [hdestroyed]
    exact List.subset_cons_self ..
  have hquiet := h.quiet_taken howned hgone
  refine ⟨.returns,
    { s.taken o with
      operations := operations
      submitted := ⟨id, context, x.access, .forwarding handler⟩ :: s.submitted }, ?_,
    starts_of_submits hcarried (.inr rfl) ⟨hquiet.owned, hquiet.sound, hgone,
      h.owned.alive hcarried, ?_, rfl⟩ ?_⟩
  · rw [Invocations.start, ho]
    simp only [Option.bind_eq_bind, Option.bind_some]
    rw [taken] at hstart
    rw [hstart]
    rfl
  · dsimp only
    rw [hdestroyed]
    exact List.mem_cons_self ..
  · dsimp only [taken]
    rw [carried_update, update_self]
    rfl

/-- The `model` is destroyed with what the start that failed has left in it. -/
lemma Kept.start_erased_throws (h : s.Kept) (ho : s.object o = some (.erased (some x)))
    (hcarried : x.carried ≠ none) (handler : H) :
    ∃ ending s', s.start o handler .allocationFails = some (ending, s') ∧
      s.Starts o handler .allocationFails ending s' := by
  have hx : x.Sound := h.sound o _ ho x rfl
  obtain ⟨operations, x', hstart, -, howned, hdestroyed⟩ :=
    exists_startStatic_throws (s := s.taken o) hx hcarried h.owned (carried_eq ho)
      (.forwarding handler) (by simp : Capture.allocationFails ≠ .succeeds)
  obtain ⟨operations', hrelease, howned', hdestroyed'⟩ :=
    exists_release { s.taken o with operations := operations } howned o
  rw [update_self] at hrelease hdestroyed'
  rw [update_idem] at howned'
  refine ⟨.throws, { s.taken o with operations := operations' }, ?_, starts_of_throws
    (h.quiet_taken howned' ?_) (by simp)
    (.inl (fun hnone => hcarried ((carried_eq ho).symm.trans hnone)))⟩
  · rw [Invocations.start, ho]
    simp only [Option.bind_eq_bind, Option.bind_some]
    rw [taken] at hstart
    rw [hstart]
    simp only [Option.bind_some]
    rw [taken] at hrelease
    rw [hrelease]
    rfl
  · rw [hdestroyed']
    exact List.Subset.trans hdestroyed (List.subset_append_right ..)

/-- The conversion of the handler to a `std::function` throws, and `op` is destroyed. -/
lemma Kept.start_erased_handlerThrows (h : s.Kept) (ho : s.object o = some (.erased (some x)))
    (handler : H) (leftToRight : Bool) :
    ∃ ending s', s.start o handler (.handlerThrows leftToRight) = some (ending, s') ∧
      s.Starts o handler (.handlerThrows leftToRight) ending s' := by
  obtain ⟨operations, hrelease, howned, hdestroyed⟩ := (s.taken o).exists_release h.owned o
  rw [show s.carried o = x.carried from carried_eq ho] at hrelease
  refine ⟨.throws, { s.taken o with operations := operations }, ?_, starts_of_throws
    (h.quiet_taken howned ?_) (by simp) (.inr ⟨leftToRight, rfl⟩)⟩
  · rw [Invocations.start, ho]
    simp only [Option.bind_eq_bind, Option.bind_some]
    rw [taken] at hrelease
    rw [hrelease]
    rfl
  · rw [hdestroyed]
    exact List.subset_append_right ..

/-- `start` of an `invocation` that has a `model`. -/
lemma Kept.start_erased (h : s.Kept) (ho : s.object o = some (.erased (some x))) (handler : H)
    (capture : Capture) : ∃ ending s', s.start o handler capture = some (ending, s') ∧
      s.Starts o handler capture ending s' := by
  cases capture with
  | handlerThrows leftToRight => exact h.start_erased_handlerThrows ho handler leftToRight
  | succeeds =>
    rcases hid : x.carried with _ | id
    · exact h.start_erased_aborts ho hid handler (by simp)
    · exact h.start_erased_submits ho hid handler
  | allocationFails =>
    by_cases hnone : x.carried = none
    · exact h.start_erased_aborts ho hnone handler (by simp)
    · exact h.start_erased_throws ho hnone handler

lemma Kept.start (h : s.Kept) (ho : s.object o ≠ none) (handler : H) (capture : Capture) :
    ∃ ending s', s.start o handler capture = some (ending, s') ∧
      s.Starts o handler capture ending s' := by
  obtain ⟨c, hc⟩ := Option.ne_none_iff_exists'.mp ho
  rcases c with x | _ | x
  · exact h.start_concrete hc handler capture
  · refine ⟨.aborts, s, ?_, starts_of_aborts ⟨h.owned, h.sound, List.Subset.refl _, rfl⟩
      (carried_eq hc)⟩
    rw [Invocations.start, hc]
    rfl
  · exact h.start_erased hc handler capture

/-! ### Both forms -/

/-- A start that captures everything, of a `static_invocation` and of the `invocation` that is
erased from it, ends alike and submits alike. -/
structure StartsAlike (R E : Type) (s s₁ s₂ : Invocations H) : Prop where
  operations : s₂.operations = s₁.operations
  submitted : (s₁.submitted = s.submitted ∧ s₂.submitted = s.submitted) ∨
    ∃ sub sub', Submission.Alike R E sub sub' ∧ s₁.submitted = sub :: s.submitted ∧
      s₂.submitted = sub' :: s.submitted

lemma Kept.exists_startsAlike (R E : Type) (h : s.Kept) {e : ℕ}
    (ho : s.object o = some (.concrete x)) (handler : H) :
    ∃ ending s₁ s' s₂, s.start o handler .succeeds = some (ending, s₁) ∧
      s.erase e o none = some (.returns, s') ∧
      s'.start e handler .succeeds = some (ending, s₂) ∧ StartsAlike R E s s₁ s₂ := by
  have hx : x.Sound := h.sound o _ ho x rfl
  have hcarried : s.carried o = x.carried := carried_eq ho
  let s' : Invocations H :=
    { s with
      object := update (update s.object o (some (.concrete x.moved))) e (some (.erased (some x))) }
  have herase : s.erase e o none = some (.returns, s') := by
    rw [Invocations.erase, ho]
    rfl
  have he' : s'.object e = some (.erased (some x)) := update_self ..
  rcases hid : x.carried with _ | id
  · refine ⟨.aborts, { s with object := update s.object o (some (.concrete x)) }, s', s'.taken e,
      ?_, herase, ?_, rfl, .inl ⟨rfl, rfl⟩⟩
    · rw [Invocations.start, ho]
      simp only [startStatic_of_not_carried hx hid, Option.bind_eq_bind, Option.bind_some]
    · rw [Invocations.start, he']
      simp only [Option.bind_eq_bind, Option.bind_some]
      rw [startStatic_of_not_carried hx hid]
      simp only [Option.bind_some, hid, release_none, taken]
  · obtain ⟨context, hcontext⟩ := hx.exists_context (by rw [hid]; simp)
    obtain ⟨operations, hrelease, -, -⟩ := h.owned.release o
    rw [hcarried, hid] at hrelease
    refine ⟨.returns,
      { s with
        operations := operations
        submitted := ⟨id, context, x.access, .direct handler⟩ :: s.submitted
        object := update s.object o (some (.concrete ⟨none, none, none⟩)) }, s',
      { s'.taken e with
        operations := operations
        submitted := ⟨id, context, x.access, .forwarding handler⟩ :: s.submitted }, ?_, herase, ?_,
      rfl, .inr ⟨_, _, Submission.alike_forwarding id context x.access handler, rfl, rfl⟩⟩
    · rw [Invocations.start, ho]
      simp only [startStatic_succeeds hcontext hid hrelease, Option.bind_eq_bind,
        Option.bind_some]
    · have hrun := startStatic_succeeds (s := s'.taken e) hcontext hid hrelease
        (.forwarding handler)
      rw [Invocations.start, he']
      simp only [Option.bind_eq_bind, Option.bind_some]
      rw [taken] at hrun
      rw [hrun]
      rfl

end Invocations

/-! ## Runs -/

namespace InvocationOperation

open Invocations

variable {s s' : Invocations H} {op : InvocationOperation H}

/-- What an operation does besides its purpose: it submits nothing unless it is a start, and hands
over what it moves. -/
structure Performs (s : Invocations H) (op : InvocationOperation H) (ending : Ending)
    (s' : Invocations H) : Prop where
  starts : ∀ o handler capture, op = start o handler capture →
    s.Starts o handler capture ending s'
  quiet : (∀ o handler capture, op ≠ start o handler capture) → s.Quiet s'
  handsOver : ∀ o other, (op = moveConstruct o other ∨ op = moveAssign o other ∧ o ≠ other ∨
    op = erase o other none) → s.HandsOver other o s'

lemma exists_perform (h : s.Kept) (hop : op.Valid s) :
    ∃ ending s', op.perform s = some (ending, s') ∧ Performs s op ending s' := by
  obtain ⟨-, hop⟩ := hop
  cases op with
  | make o context access captureThrows =>
    exact ⟨_, _, rfl, by simp, fun _ => h.make hop context access captureThrows, by simp⟩
  | moveConstruct o other =>
    obtain ⟨s', hmove, hquiet, hover⟩ := h.moveConstruct hop.1 hop.2
    refine ⟨.returns, s', ?_, by simp, fun _ => hquiet, fun o' other' heq => ?_⟩
    · rw [perform, hmove]
      rfl
    · obtain ⟨rfl, rfl⟩ : o = o' ∧ other = other' := by simpa using heq
      exact hover
  | moveAssign o other =>
    obtain ⟨x, hx, y, hy, -⟩ := hop
    obtain ⟨s', hmove, hquiet, hover⟩ := h.moveAssign hx hy
    refine ⟨.returns, s', ?_, by simp, fun _ => hquiet, fun o' other' heq => ?_⟩
    · rw [perform, hmove]
      rfl
    · obtain ⟨⟨rfl, rfl⟩, hne⟩ : (o = o' ∧ other = other') ∧ o' ≠ other' := by simpa using heq
      exact hover hne
  | erase o other failure =>
    obtain ⟨ho, x | operation, hx, hconcrete⟩ := hop
    case erased => cases hconcrete
    obtain ⟨ending, s', herase, hquiet, hover⟩ := h.erase ho hx failure
    refine ⟨ending, s', herase, by simp, fun _ => hquiet, fun o' other' heq => ?_⟩
    obtain ⟨rfl, rfl, hfailure⟩ : o = o' ∧ other = other' ∧ failure = none := by simpa using heq
    exact hover hfailure
  | start o handler capture =>
    obtain ⟨ending, s', hstart, hstarts⟩ := h.start hop handler capture
    refine ⟨ending, s', hstart, fun o' handler' capture' heq => ?_,
      fun hne => absurd rfl (hne o handler capture), by simp⟩
    obtain ⟨rfl, rfl, rfl⟩ := InvocationOperation.start.inj heq
    exact hstarts
  | destruct o =>
    obtain ⟨c, hc⟩ := Option.ne_none_iff_exists'.mp hop
    obtain ⟨s', hdestruct, hquiet⟩ := h.destruct hc
    refine ⟨.returns, s', ?_, by simp, fun _ => hquiet, by simp⟩
    rw [perform, hdestruct]
    rfl

/-- An operation submits nothing, or an operation that an invocation carried. -/
lemma Performs.cases {ending : Ending} (h : Performs s op ending s') :
    s.Quiet s' ∨ ∃ sub, s.Submits sub s' := by
  by_cases hstart : ∃ o handler capture, op = start o handler capture
  · obtain ⟨o, handler, capture, rfl⟩ := hstart
    have hstarts := h.starts o handler capture rfl
    by_cases hquiet : s.carried o = none ∨ capture ≠ .succeeds
    · exact .inl (hstarts.quiet hquiet)
    · obtain ⟨hcarried, hsucceeds⟩ := not_or.mp hquiet
      obtain ⟨id, hid⟩ := Option.ne_none_iff_exists'.mp hcarried
      obtain ⟨-, -, context, access, handler', -, hsubmits⟩ :=
        hstarts.submits id hid (not_not.mp hsucceeds)
      exact .inr ⟨_, hsubmits⟩
  · refine .inl (h.quiet fun o handler capture heq => hstart ⟨o, handler, capture, heq⟩)

/-- What is kept by every step. -/
lemma exists_next (h : s.Kept) (hop : op.Valid s) (hnext : op.next s = some s') :
    s'.Kept ∧ s.operations.destroyed ⊆ s'.operations.destroyed ∧
      ∀ id ∈ s'.submitted.map Submission.operation,
        id ∈ s.submitted.map Submission.operation ∨ s.operations.Alive id := by
  obtain ⟨ending, s₁, hperform, hperforms⟩ := exists_perform h hop
  rw [next, hperform] at hnext
  obtain rfl := Option.some.inj hnext
  rcases hperforms.cases with hquiet | ⟨sub, hsubmits⟩
  · obtain ⟨howned, hsound, hgone, honce⟩ := h.of_quiet hquiet
    refine ⟨⟨howned, hsound, hgone, honce⟩, hquiet.destroyed, fun id hid => ?_⟩
    exact .inl (hquiet.submitted ▸ hid)
  · obtain ⟨howned, hsound, hgone, honce⟩ := h.of_submits hsubmits
    refine ⟨⟨howned, hsound, hgone, honce⟩, hsubmits.destroyed, fun id hid => ?_⟩
    have hsubmitted : s₁.submitted.map Submission.operation =
        sub.operation :: s.submitted.map Submission.operation := by
      rw [hsubmits.submitted, List.map_cons]
    rcases List.mem_cons.mp (hsubmitted ▸ hid) with rfl | hold
    · exact .inr hsubmits.alive
    · exact .inl hold

lemma kept_of_reachable (h : Reachable s) : s.Kept :=
  Reaches.invariant kept_new (fun _ _ _ hs hop hnext => (exists_next hs hop hnext).1) h

/-- An operation that is gone without being submitted is never submitted. -/
lemma not_submitted_of_gone (h : s.Kept) {id : ℕ} (hgone : id ∈ s.operations.destroyed)
    (hnot : id ∉ s.submitted.map Submission.operation) (hreach : ReachableFrom s s') :
    id ∉ s'.submitted.map Submission.operation := by
  let inv (t : Invocations H) : Prop := t.Kept ∧ id ∈ t.operations.destroyed ∧
    id ∉ t.submitted.map Submission.operation
  have hinv : inv s' := by
    refine Reaches.invariant ⟨h, hgone, hnot⟩ (fun s₁ op s₂ hs₁ hop hnext => ?_) hreach
    obtain ⟨hkept, hgone₁, hnot₁⟩ := hs₁
    obtain ⟨hkept₂, hdestroyed, hsubmitted⟩ := exists_next hkept hop hnext
    refine ⟨hkept₂, hdestroyed hgone₁, fun hmem => ?_⟩
    rcases hsubmitted id hmem with hold | halive
    · exact hnot₁ hold
    · exact halive.2 hgone₁
  exact hinv.2.2

/-- After any sequence of operations on invocations, in which captures and allocations may fail:
every operation that was captured is carried by one object and was not submitted, or is carried by
none, was submitted at most once and, if it was not, never will be.  The next operation is
defined; it submits an operation exactly if it starts the object that carries it and captures the
handler.  A start of an object that carries nothing submits nothing, and aborts unless an
`invocation` throws at the capture before; a start that fails to capture throws.  Moves and
erasures hand the operation over.  Both forms of an invocation end, submit and deliver alike. -/
theorem single_use (R E : Type) (h : Reachable s) :
    (∀ id, id < s.operations.made →
      ((∃! o, s.carried o = some id) ∧ id ∉ s.submitted.map Submission.operation ∨
        (∀ o, s.carried o ≠ some id) ∧
          (s.submitted.map Submission.operation).count id ≤ 1 ∧
          (id ∉ s.submitted.map Submission.operation → ∀ s', ReachableFrom s s' →
            id ∉ s'.submitted.map Submission.operation))) ∧
    (∀ op : InvocationOperation H, op.Valid s → ∃ ending s', op.perform s = some (ending, s') ∧
      (∀ o handler capture, op = start o handler capture →
        (∀ id, s.carried o = some id → capture = .succeeds →
          ending = .returns ∧ s'.carried o = none ∧ ∃ context access handler',
            (handler' = .direct handler ∨ handler' = .forwarding handler) ∧
            s'.submitted = ⟨id, context, access, handler'⟩ :: s.submitted) ∧
        (s.carried o = none ∨ capture ≠ .succeeds → s'.submitted = s.submitted) ∧
        (s.carried o ≠ none → capture ≠ .succeeds → ending = .throws) ∧
        (s.carried o = none → (∀ leftToRight, capture ≠ .handlerThrows leftToRight) →
          ending = .aborts)) ∧
      ((∀ o handler capture, op ≠ start o handler capture) → s'.submitted = s.submitted) ∧
      (∀ o other, (op = moveConstruct o other ∨ op = moveAssign o other ∧ o ≠ other ∨
        op = erase o other none) → s'.carried o = s.carried other ∧ s'.carried other = none)) ∧
    ∀ o e x handler, s.object o = some (.concrete x) → s.object e = none →
      ∃ ending s₁ s' s₂, (start o handler .succeeds).perform s = some (ending, s₁) ∧
        (erase e o none).perform s = some (.returns, s') ∧
        (start e handler .succeeds).perform s' = some (ending, s₂) ∧
        StartsAlike R E s s₁ s₂ := by
  have hkept := kept_of_reachable h
  refine ⟨fun id hid => ?_, fun op hop => ?_, fun o e x handler ho _ =>
    hkept.exists_startsAlike R E ho handler⟩
  · rcases hkept.owned.accounted hid with ⟨⟨o, ho⟩, -⟩ | ⟨hnone, hcount⟩
    · refine .inl ⟨⟨o, ho, fun o' ho' => hkept.owned.injective ho' ho⟩, fun hmem => ?_⟩
      obtain ⟨sub, hsub, rfl⟩ := List.mem_map.mp hmem
      exact (hkept.owned.alive ho).2 (hkept.gone sub hsub)
    · refine .inr ⟨hnone, List.nodup_iff_count_le_one.mp hkept.once id, fun hnot s' hreach => ?_⟩
      have hgone : id ∈ s.operations.destroyed := List.count_pos_iff.mp (hcount ▸ Nat.one_pos)
      exact not_submitted_of_gone hkept hgone hnot hreach
  · obtain ⟨ending, s', hperform, hperforms⟩ := exists_perform hkept hop
    refine ⟨ending, s', hperform, fun o handler capture heq => ?_,
      fun hne => (hperforms.quiet hne).submitted, fun o other heq => ?_⟩
    · have hstarts := hperforms.starts o handler capture heq
      refine ⟨fun id hid hcapture => ?_, fun hquiet => (hstarts.quiet hquiet).submitted,
        hstarts.throws, hstarts.aborts⟩
      obtain ⟨hending, hnone, context, access, handler', hhandler, hsubmits⟩ :=
        hstarts.submits id hid hcapture
      exact ⟨hending, hnone, context, access, handler', hhandler, hsubmits.submitted⟩
    · have hover := hperforms.handsOver o other heq
      exact ⟨hover.target, hover.source⟩

/-- One operation is moved, erased and submitted, another one is overwritten. -/
theorem single_use_erased :
    ∃ s : Invocations ℕ, Reachable s ∧ s.submitted = [⟨0, 4, some 5, .forwarding 7⟩] ∧
      ∀ id, id < s.operations.made →
        ((∃! o, s.carried o = some id) ∧ id ∉ s.submitted.map Submission.operation ∨
          (∀ o, s.carried o ≠ some id) ∧
            (s.submitted.map Submission.operation).count id ≤ 1 ∧
            (id ∉ s.submitted.map Submission.operation → ∀ s', ReachableFrom s s' →
              id ∉ s'.submitted.map Submission.operation)) := by
  obtain ⟨s, hrun⟩ : ∃ s : Invocations ℕ, run (fun s op => op.Valid s) next {}
      [make 0 (some 4) (some 5) false, make 1 (some 4) none false, moveAssign 1 0,
        erase 2 1 none, start 2 7 .succeeds] = some s := ⟨_, rfl⟩
  have h : Reachable s := Reaches.of_run .start hrun
  have hsubmitted : s.submitted = [⟨0, 4, some 5, .forwarding 7⟩] := by
    obtain rfl := Option.some.inj hrun
    rfl
  exact ⟨s, h, hsubmitted, (single_use ℕ ℕ h).1⟩

/-- After a start that fails to allocate its state, nothing is submitted; the second start submits
the operation of a `static_invocation`, and aborts for the `invocation` that is erased from it. -/
theorem start_after_failure :
    (∃ s : Invocations ℕ, run (fun s op => op.Valid s) next {}
      [make 0 (some 4) none false, start 0 7 .allocationFails] = some s ∧ s.submitted = []) ∧
    (∃ s : Invocations ℕ, run (fun s op => op.Valid s) next {}
      [make 0 (some 4) none false, start 0 7 .allocationFails, start 0 7 .succeeds] = some s ∧
        s.aborted = false ∧ s.submitted = [⟨0, 4, none, .direct 7⟩]) ∧
    ∃ s : Invocations ℕ, run (fun s op => op.Valid s) next {}
      [make 0 (some 4) none false, erase 1 0 none, start 1 7 .allocationFails,
        start 1 7 .succeeds] = some s ∧ s.aborted = true ∧ s.submitted = [] :=
  ⟨⟨_, rfl, rfl⟩, ⟨_, rfl, rfl, rfl⟩, _, rfl, rfl, rfl⟩

end InvocationOperation

end Dynabridge.Async
