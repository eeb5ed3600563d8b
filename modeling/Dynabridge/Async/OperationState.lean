import Dynabridge.Foundations.Interleaving

/-!
# The state of an asynchronous operation

`operation_state` is shared by the thread that starts an invocation and by every copy of its
completion token.  Its critical sections are the functions `deliverSection`, `cleanupSection`
and `submittedSection`; between them a call consumes the handler, releases the access owner,
invokes the handler and resets the slots, each as a step of its own.  A call is therefore a
process with a program counter, `Phase`, and `Invocation.resume` is the program counter of
the starting thread.

The handler runs between the step that invokes it and the section of `cleanup` that follows,
so calls that the handler makes itself are among the interleavings.  The pool outlives every
token; the destruction of the whole state is not a step.
-/

namespace Dynabridge.Async

open Interleaving

/-! ## Calls -/

/-- `async_result`: the value of a success, and the error, which a failure sets. -/
structure AsyncResult (R E : Type) where
  value : Option R
  error : E
  deriving DecidableEq

/-- `async_result(async_error_tag, e)`. -/
def AsyncResult.failure {R E : Type} (e : E) : AsyncResult R E := ⟨none, e⟩

/-- Who calls: `finish` and `detach` through a token, `reject` of the starting thread, and the
`detach` and the `cleanup` that `submitted` makes. -/
inductive Task (R E : Type)
  | finish (r : AsyncResult R E)
  | detach (e : E)
  | reject (e : E)
  | deferredDetach (e : E)
  | cleanup
  deriving DecidableEq

/-- How the submit body ends.  The error of `threw` is the one that captures the exception. -/
inductive Outcome (E : Type)
  | accepted
  | rejected (e : E)
  | threw (e : E)
  deriving DecidableEq

/-- What a call does next, with the locals that are still in use. -/
inductive Phase
  | entry
  | consume (consumeHandler releaseAccess : Bool)
  | release (callback releaseAccess : Bool)
  | invoke (callback : Bool)
  | cleanup
  | resetOperation
  | resetContext
  | returned
  deriving DecidableEq

/-- A call in progress. -/
structure Call (R E : Type) where
  task : Task R E
  phase : Phase
  deriving DecidableEq

/-- What can be observed of a run.  A number is the position of the acting call in the pool. -/
inductive Event (R E : Type)
  | called (t : Task R E)
  | concluded (o : Outcome E)
  | retired (i : ℕ) (t : Task R E)
  | delivered (i : ℕ) (t : Task R E)
  | accessReleased (i : ℕ)
  | handled (i : ℕ) (t : Task R E)
  | operationReleased (i : ℕ)
  | contextReleased (i : ℕ)
  deriving DecidableEq

variable {R E : Type}

/-- The arguments with which `deliver` is called; none for `cleanup`. -/
def Task.arguments : Task R E → Option (AsyncResult R E × Bool)
  | .finish r => some (r, true)
  | .detach e => some (.failure e, false)
  | .reject e => some (.failure e, true)
  | .deferredDetach e => some (.failure e, false)
  | .cleanup => none

/-- The result that a call hands to the handler. -/
def Task.result (t : Task R E) : Option (AsyncResult R E) := t.arguments.map Prod.fst

/-- Whether a call retires the operation. -/
def Task.retires (t : Task R E) : Bool := (t.arguments.map Prod.snd).getD false

/-- Whether the starting thread makes the call itself. -/
def Task.ofStarter : Task R E → Bool
  | .finish _ | .detach _ => false
  | .reject _ | .deferredDetach _ | .cleanup => true

/-- The error with which the outcome rejects the operation. -/
def Outcome.error : Outcome E → Option E
  | .accepted => none
  | .rejected e => some e
  | .threw e => some e

/-- A call before its first section. -/
def Call.start (t : Task R E) : Call R E := ⟨t, .entry⟩

lemma Task.retires_of_arguments {t : Task R E} {r : AsyncResult R E} {b : Bool}
    (h : t.arguments = some (r, b)) : t.retires = b := by
  rw [Task.retires, h]
  rfl

/-- Only `finish` and `reject` retire. -/
lemma Task.retires_iff {t : Task R E} :
    t.retires = true ↔ (∃ r, t = .finish r) ∨ ∃ e, t = .reject e := by
  cases t <;> simp [Task.retires, Task.arguments]

lemma Outcome.error_eq_none_iff {o : Outcome E} : o.error = none ↔ o = .accepted := by
  cases o <;> simp [Outcome.error]

/-! ## The sections -/

/-- `operation_state`.  The slots are only ever emptied, so that it is enough to know whether
each of them still holds its object. -/
structure OperationState (E : Type) where
  delivered : Bool
  retired : Bool
  submitting : Bool
  cleaned : Bool
  pendingDetach : Option E
  context : Bool
  access : Bool
  operation : Bool
  handler : Bool
  deriving DecidableEq

/-- The constructor; the access owner is optional. -/
def OperationState.construct (access : Bool) : OperationState E where
  delivered := false
  retired := false
  submitting := true
  cleaned := false
  pendingDetach := none
  context := true
  access := access
  operation := true
  handler := true

/-- The section of `deliver`, with the locals `consume_handler` and `release_access` that it
leaves, or none where it returns. -/
def OperationState.deliverSection (s : OperationState E) (r : AsyncResult R E)
    (retire : Bool) : OperationState E × Option (Bool × Bool) :=
  if !retire && s.submitting then
    ({ s with pendingDetach := s.pendingDetach.or (some r.error) }, none)
  else if retire && s.retired then
    (s, none)
  else
    let releaseAccess := retire && s.access
    let s := if retire then { s with retired := true, access := false } else s
    ({ s with delivered := true }, some (!s.delivered, releaseAccess))

section

variable {s : OperationState E} (r : AsyncResult R E)

/-- During submission a detach is only recorded. -/
lemma OperationState.deliverSection_detach_of_submitting (h : s.submitting = true) :
    s.deliverSection r false =
      ({ s with pendingDetach := s.pendingDetach.or (some r.error) }, none) := by
  simp [deliverSection, h]

/-- After submission a detach delivers, unless something else has. -/
lemma OperationState.deliverSection_detach (h : s.submitting = false) :
    s.deliverSection r false = ({ s with delivered := true }, some (!s.delivered, false)) := by
  simp [deliverSection, h]

/-- A retired operation ignores every further retirement. -/
lemma OperationState.deliverSection_finish_of_retired (h : s.retired = true) :
    s.deliverSection r true = (s, none) := by
  simp [deliverSection, h]

/-- The first retirement takes the access owner and delivers, unless a detach has. -/
lemma OperationState.deliverSection_finish (h : s.retired = false) :
    s.deliverSection r true =
      ({ s with retired := true, access := false, delivered := true },
        some (!s.delivered, s.access)) := by
  simp [deliverSection, h]

end

/-- The section of `cleanup`, and whether it claims the slots. -/
def OperationState.cleanupSection (s : OperationState E) : OperationState E × Bool :=
  if !s.retired || s.submitting || s.cleaned then (s, false)
  else ({ s with cleaned := true }, true)

/-- The section of `submitted`, and the detach that it defers. -/
def OperationState.submittedSection (s : OperationState E) : OperationState E × Option E :=
  ({ s with submitting := false, pendingDetach := none }, s.pendingDetach)

/-- The next step of call number `i`.  Dereferencing an empty handler slot has no result. -/
def OperationState.advance (i : ℕ) (s : OperationState E) (t : Task R E) :
    Phase → Option (OperationState E × Phase × List (Event R E))
  | .entry =>
    match t.arguments with
    | none => some (s, .cleanup, [])
    | some (r, retire) =>
      match s.deliverSection r retire with
      | (s', none) => some (s', .returned, [])
      | (s', some (consumeHandler, releaseAccess)) =>
        some (s', .consume consumeHandler releaseAccess,
          logIf retire (.retired i t) ++ logIf consumeHandler (.delivered i t))
  | .consume true releaseAccess =>
    if s.handler then some ({ s with handler := false }, .release true releaseAccess, []) else none
  | .consume false releaseAccess => some (s, .release false releaseAccess, [])
  | .release callback releaseAccess =>
    some (s, .invoke callback, logIf releaseAccess (.accessReleased i))
  | .invoke callback => some (s, .cleanup, logIf callback (.handled i t))
  | .cleanup =>
    match s.cleanupSection with
    | (s', claimed) => some (s', if claimed then .resetOperation else .returned, [])
  | .resetOperation =>
    some ({ s with operation := false }, .resetContext, [.operationReleased i])
  | .resetContext => some ({ s with context := false }, .returned, [.contextReleased i])
  | .returned => none

/-! ## The starting thread -/

/-- Where the starting thread is in `start`. -/
inductive Starter (E : Type)
  | body
  | rejecting (e : E)
  | awaitingRejection
  | submitting
  | awaitingDetach
  | awaitingCleanup
  | returned
  | aborted
  deriving DecidableEq

/-- The shared state of a started invocation. -/
structure Invocation (E : Type) where
  state : OperationState E
  starter : Starter E
  deriving DecidableEq

/-- A contract violation ends the process. -/
def Starter.isAborted : Starter E → Bool
  | .aborted => true
  | _ => false

/-- Whether the starting thread has not yet passed the section of `submitted`. -/
def Starter.inSubmission : Starter E → Bool
  | .body | .rejecting _ | .awaitingRejection | .submitting | .aborted => true
  | .awaitingDetach | .awaitingCleanup | .returned => false

/-- Every call that the starting thread made has returned. -/
def ownCallsReturned (calls : List (Call R E)) : Bool :=
  calls.all fun c => !c.task.ofStarter || c.phase = .returned

/-- The submit body ends: an error, returned or thrown, goes to `reject`. -/
def Invocation.conclude (v : Invocation E) (o : Outcome E) :
    Option (Invocation E × List (Call R E) × List (Event R E)) :=
  match v.starter with
  | .body =>
    match o.error with
    | none => some ({ v with starter := .submitting }, [], [.concluded o])
    | some e => some ({ v with starter := .rejecting e }, [], [.concluded o])
  | _ => none

/-- What the starting thread does once the submit body has ended. -/
def Invocation.resume (v : Invocation E) (calls : List (Call R E)) :
    Option (Invocation E × List (Call R E) × List (Event R E)) :=
  match v.starter with
  | .rejecting e =>
    -- `require(!retired)`
    if v.state.retired then some ({ v with starter := .aborted }, [], [])
    else some ({ v with starter := .awaitingRejection }, [.start (.reject e)], [])
  | .awaitingRejection =>
    if ownCallsReturned calls then some ({ v with starter := .submitting }, [], []) else none
  | .submitting =>
    match v.state.submittedSection with
    | (s, some e) => some (⟨s, .awaitingDetach⟩, [.start (.deferredDetach e)], [])
    | (s, none) => some (⟨s, .awaitingCleanup⟩, [.start .cleanup], [])
  | .awaitingDetach =>
    if ownCallsReturned calls then
      some ({ v with starter := .awaitingCleanup }, [.start .cleanup], [])
    else none
  | .awaitingCleanup =>
    if ownCallsReturned calls then some ({ v with starter := .returned }, [], []) else none
  | .body | .returned | .aborted => none

/-- What happens besides the steps of the calls: a token is used by some thread, the submit
body ends, or the starting thread goes on. -/
inductive Command (R E : Type)
  | finish (r : AsyncResult R E)
  | detach (e : E)
  | conclude (o : Outcome E)
  | resume

/-- The effect of a command. -/
def Invocation.command (v : Invocation E) (calls : List (Call R E)) :
    Command R E → Option (Invocation E × List (Call R E) × List (Event R E))
  | .finish r =>
    if v.starter.isAborted then none
    else some (v, [.start (.finish r)], [.called (.finish r)])
  | .detach e =>
    if v.starter.isAborted then none
    else some (v, [.start (.detach e)], [.called (.detach e)])
  | .conclude o => v.conclude o
  | .resume => v.resume calls

/-! ## Runs -/

/-- A started invocation together with its calls. -/
abbrev System (R E : Type) := Pool (Invocation E) (Call R E) (Event R E)

/-- The threads of an invocation. -/
def threads (R E : Type) : Program (Invocation E) (Call R E) (Command R E) (Event R E) where
  advance i v c :=
    if v.starter.isAborted then none
    else (v.state.advance i c.task c.phase).map fun (s, phase, events) =>
      ({ v with state := s }, { c with phase := phase }, events)
  command k v calls := v.command calls k

/-- `start` when it calls the submit body. -/
def System.start (access : Bool) : System R E := ⟨⟨.construct access, .body⟩, [], []⟩

/-- A system that some run reaches; `access` says whether there is an access owner. -/
def Reachable (access : Bool) (s : System R E) : Prop :=
  (threads R E).Reachable (System.start access) s

/-- Every call has returned, and so has `start`. -/
def Quiescent (s : System R E) : Prop :=
  s.shared.starter = .returned ∧ ∀ c ∈ s.procs, c.phase = .returned

/-- The result that an event hands to the handler. -/
def Event.received : Event R E → Option (AsyncResult R E)
  | .handled _ t => t.result
  | _ => none

/-- The results that the handler has received, in order. -/
def System.received (s : System R E) : List (AsyncResult R E) := s.log.filterMap Event.received

/-! ## The steps by cases -/

/-- What a step of call number `i` with task `t` can do to the state `s`. -/
inductive Moves (i : ℕ) (t : Task R E) (s : OperationState E) :
    Phase → OperationState E → Phase → List (Event R E) → Prop
  | enter (h : t.arguments = none) : Moves i t s .entry s .cleanup []
  | record {r} (h : t.arguments = some (r, false)) (hsub : s.submitting = true) :
      Moves i t s .entry { s with pendingDetach := s.pendingDetach.or (some r.error) } .returned []
  | late {r} (h : t.arguments = some (r, true)) (hret : s.retired = true) :
      Moves i t s .entry s .returned []
  | retire {r} (h : t.arguments = some (r, true)) (hret : s.retired = false) :
      Moves i t s .entry { s with retired := true, access := false, delivered := true }
        (.consume (!s.delivered) s.access)
        (.retired i t :: logIf (!s.delivered) (.delivered i t))
  | observe {r} (h : t.arguments = some (r, false)) (hsub : s.submitting = false) :
      Moves i t s .entry { s with delivered := true } (.consume (!s.delivered) false)
        (logIf (!s.delivered) (.delivered i t))
  | consume {a} (h : s.handler = true) :
      Moves i t s (.consume true a) { s with handler := false } (.release true a) []
  | skip {a} : Moves i t s (.consume false a) s (.release false a) []
  | release {b a} :
      Moves i t s (.release b a) s (.invoke b) (logIf a (.accessReleased i))
  | invoke {b} : Moves i t s (.invoke b) s .cleanup (logIf b (.handled i t))
  | leave (h : s.retired = true → s.submitting = false → s.cleaned = true) :
      Moves i t s .cleanup s .returned []
  | claim (hret : s.retired = true) (hsub : s.submitting = false) (hcl : s.cleaned = false) :
      Moves i t s .cleanup { s with cleaned := true } .resetOperation []
  | resetOperation :
      Moves i t s .resetOperation { s with operation := false } .resetContext
        [.operationReleased i]
  | resetContext :
      Moves i t s .resetContext { s with context := false } .returned [.contextReleased i]

/-- The first step of a call: it enters `cleanup`, or passes the section of `deliver`. -/
lemma OperationState.advance_entry_moves {i : ℕ} {t : Task R E} {s s' : OperationState E}
    {ph' : Phase} {events : List (Event R E)}
    (h : s.advance i t .entry = some (s', ph', events)) : Moves i t s .entry s' ph' events := by
  cases harg : t.arguments with
  | none =>
    simp only [advance, harg] at h
    cases h
    exact .enter harg
  | some arg =>
    obtain ⟨r, retire⟩ := arg
    simp only [advance, harg] at h
    cases retire with
    | true =>
      cases hret : s.retired with
      | true =>
        rw [deliverSection_finish_of_retired r hret] at h
        cases h
        exact .late harg hret
      | false =>
        rw [deliverSection_finish r hret] at h
        cases h
        exact .retire harg hret
    | false =>
      cases hsub : s.submitting with
      | true =>
        rw [deliverSection_detach_of_submitting r hsub] at h
        cases h
        exact .record harg hsub
      | false =>
        rw [deliverSection_detach r hsub] at h
        cases h
        exact .observe harg hsub

theorem OperationState.advance_moves {i : ℕ} {t : Task R E} {s s' : OperationState E}
    {ph ph' : Phase} {events : List (Event R E)}
    (h : s.advance i t ph = some (s', ph', events)) : Moves i t s ph s' ph' events := by
  cases ph with
  | entry => exact advance_entry_moves h
  | consume consumeHandler releaseAccess =>
    cases consumeHandler with
    | true =>
      rw [advance] at h
      split at h
      · next hhandler =>
        cases h
        exact .consume hhandler
      · cases h
    | false =>
      cases h
      exact .skip
  | release callback releaseAccess =>
    cases h
    exact .release
  | invoke callback =>
    cases h
    exact .invoke
  | cleanup =>
    simp only [advance, cleanupSection] at h
    split at h
    · next hleave =>
      cases h
      refine .leave fun hret hsub => ?_
      simpa [hret, hsub] using hleave
    · next hclaim =>
      cases h
      simp only [Bool.or_eq_true, Bool.not_eq_true', not_or, Bool.not_eq_true,
        Bool.not_eq_false] at hclaim
      exact .claim hclaim.1.1 hclaim.1.2 hclaim.2
  | resetOperation =>
    cases h
    exact .resetOperation
  | resetContext =>
    cases h
    exact .resetContext
  | returned => cases h

/-- What a command can do to the invocation `v` whose calls are `calls`. -/
inductive Obeys (v : Invocation E) (calls : List (Call R E)) :
    Invocation E → List (Call R E) → List (Event R E) → Prop
  | token {t} (ht : t.ofStarter = false) : Obeys v calls v [.start t] [.called t]
  | accept (h : v.starter = .body) :
      Obeys v calls { v with starter := .submitting } [] [.concluded .accepted]
  | refuse {o e} (h : v.starter = .body) (ho : o.error = some e) :
      Obeys v calls { v with starter := .rejecting e } [] [.concluded o]
  | abort {e} (h : v.starter = .rejecting e) (hret : v.state.retired = true) :
      Obeys v calls { v with starter := .aborted } [] []
  | reject {e} (h : v.starter = .rejecting e) (hret : v.state.retired = false) :
      Obeys v calls { v with starter := .awaitingRejection } [.start (.reject e)] []
  | rejectionReturned (h : v.starter = .awaitingRejection) (hown : ownCallsReturned calls = true) :
      Obeys v calls { v with starter := .submitting } [] []
  | deferDetach {e} (h : v.starter = .submitting) (hpend : v.state.pendingDetach = some e) :
      Obeys v calls ⟨v.state.submittedSection.1, .awaitingDetach⟩ [.start (.deferredDetach e)] []
  | submitted (h : v.starter = .submitting) (hpend : v.state.pendingDetach = none) :
      Obeys v calls ⟨v.state.submittedSection.1, .awaitingCleanup⟩ [.start .cleanup] []
  | detachReturned (h : v.starter = .awaitingDetach) (hown : ownCallsReturned calls = true) :
      Obeys v calls { v with starter := .awaitingCleanup } [.start .cleanup] []
  | cleanupReturned (h : v.starter = .awaitingCleanup) (hown : ownCallsReturned calls = true) :
      Obeys v calls { v with starter := .returned } [] []

/-- New calls are before their first section. -/
lemma Obeys.entry {v v' : Invocation E} {calls new : List (Call R E)}
    {events : List (Event R E)} (h : Obeys v calls v' new events) :
    ∀ c ∈ new, c.phase = .entry := by
  cases h <;> simp [Call.start]

theorem Invocation.resume_obeys {v v' : Invocation E} {calls new : List (Call R E)}
    {events : List (Event R E)} (h : v.resume calls = some (v', new, events)) :
    Obeys v calls v' new events := by
  unfold resume at h
  cases hst : v.starter with
  | rejecting e =>
    simp only [hst] at h
    split at h
    · next hret =>
      cases h
      exact .abort hst hret
    · next hret =>
      cases h
      exact .reject hst (Bool.not_eq_true _ ▸ hret)
  | awaitingRejection =>
    simp only [hst] at h
    split at h
    · next hown =>
      cases h
      exact .rejectionReturned hst hown
    · cases h
  | submitting =>
    cases hpend : v.state.pendingDetach with
    | none =>
      simp only [hst, OperationState.submittedSection, hpend] at h
      cases h
      exact .submitted hst hpend
    | some e =>
      simp only [hst, OperationState.submittedSection, hpend] at h
      cases h
      exact .deferDetach hst hpend
  | awaitingDetach =>
    simp only [hst] at h
    split at h
    · next hown =>
      cases h
      exact .detachReturned hst hown
    · cases h
  | awaitingCleanup =>
    simp only [hst] at h
    split at h
    · next hown =>
      cases h
      exact .cleanupReturned hst hown
    · cases h
  | body => simp [hst] at h
  | returned => simp [hst] at h
  | aborted => simp [hst] at h

theorem Invocation.conclude_obeys {v v' : Invocation E} {o : Outcome E}
    {calls new : List (Call R E)} {events : List (Event R E)}
    (h : v.conclude o = some (v', new, events)) : Obeys v calls v' new events := by
  unfold conclude at h
  split at h
  · next hst =>
    cases ho : o.error with
    | none =>
      have hacc : o = .accepted := Outcome.error_eq_none_iff.mp ho
      subst hacc
      cases h
      exact .accept hst
    | some e =>
      simp only [ho] at h
      cases h
      exact .refuse hst ho
  · cases h

theorem Invocation.command_obeys {k : Command R E} {v v' : Invocation E}
    {calls new : List (Call R E)} {events : List (Event R E)}
    (h : v.command calls k = some (v', new, events)) : Obeys v calls v' new events := by
  cases k with
  | finish r =>
    rw [command] at h
    split at h
    · cases h
    · cases h
      exact .token rfl
  | detach e =>
    rw [command] at h
    split at h
    · cases h
    · cases h
      exact .token rfl
  | conclude o => exact conclude_obeys h
  | resume => exact resume_obeys h

/-- A call advances by a move and keeps its task. -/
lemma threads_advance {i : ℕ} {v v' : Invocation E} {t : Task R E} {ph : Phase} {c' : Call R E}
    {events : List (Event R E)}
    (h : (threads R E).advance i v ⟨t, ph⟩ = some (v', c', events)) :
    ∃ s ph', Moves i t v.state ph s ph' events ∧ v' = { v with state := s } ∧ c' = ⟨t, ph'⟩ := by
  simp only [threads] at h
  split at h
  · cases h
  · rw [Option.map_eq_some_iff] at h
    obtain ⟨⟨s, ph', events'⟩, hadv, heq⟩ := h
    cases heq
    exact ⟨s, ph', OperationState.advance_moves hadv, rfl, rfl⟩

end Dynabridge.Async
