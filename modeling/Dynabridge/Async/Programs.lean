import Dynabridge.Async.Completion
import Dynabridge.Async.SingleUse
import Dynabridge.Foundations.Spawning

/-!
# Programs of invocations

A program moves, erases, starts and drops any number of invocations, and every operation that it
submits runs in an operation state of its own, whose steps are interleaved with everything else.
The submit bodies and the handlers may use other invocations themselves: what they do is among
the interleavings.  An abort ends the process.
-/

namespace Dynabridge.Async

open Interleaving InvocationOperation Spawning

variable {H R E : Type}

/-! ## The received results of one operation -/

section

variable {access : Bool} {s s' : System R E}

lemma Reachable.received_length (h : Reachable access s) : s.received.length ≤ 1 := by
  rcases hreceived : s.received with _ | ⟨x, l⟩
  · exact Nat.zero_le 1
  · obtain ⟨i, t, hdel, hres⟩ := h.delivered_of_received (x := x) (by simp [hreceived])
    rw [← hreceived, h.received_eq hdel hres, List.length_replicate]
    exact h.invocations_le.trans (Bool.toNat_le _)

lemma Quiescent.exists_received (hq : Quiescent s) (h : Reachable access s)
    (hocc : Occurred s.log) : ∃ r, s.received = [r] := by
  obtain ⟨i, t, r, hdel, hres, -⟩ := h.exists_delivered (hq.delivered h hocc)
  exact ⟨r, hq.received_eq h hdel hres⟩

/-- What was received stays. -/
lemma Reachable.received_sublist (h : Reachable access s) (h' : (threads R E).Reachable s s') :
    s.received.Sublist s'.received := by
  by_cases hne : s.received = []
  · rw [hne]
    exact List.nil_sublist _
  · rw [h.received_stable hne h']

end

/-! ## The program -/

/-- Nothing has ended the process. -/
def Running (s : Invocations H) (runs : List (System R E)) : Prop :=
  s.aborted = false ∧ ∀ run ∈ runs, run.shared.starter.isAborted = false

instance (s : Invocations H) (runs : List (System R E)) : Decidable (Running s runs) :=
  inferInstanceAs (Decidable (_ = false ∧ ∀ run ∈ runs, run.shared.starter.isAborted = false))

/-- The invocations of a program, and the operation states that it has started. -/
abbrev ProgramState (H R E : Type) := Spawning.State (Invocations H) (System R E)

/-- What a program does next. -/
abbrev ProgramEvent (H R E : Type) := Spawning.Event (InvocationOperation H) (Choice (Command R E))

/-- What may happen in a program. -/
def ProgramEvent.May (p : ProgramState H R E) : ProgramEvent H R E → Prop
  | .registry op => Running p.registry p.components ∧ op.Valid p.registry
  | .component _ _ => Running p.registry p.components

instance (p : ProgramState H R E) : (e : ProgramEvent H R E) → Decidable (e.May p)
  | .registry op =>
    inferInstanceAs (Decidable (Running p.registry p.components ∧ op.Valid p.registry))
  | .component _ _ => inferInstanceAs (Decidable (Running p.registry p.components))

/-- Programs of invocations. -/
def programs (H R E : Type) : Family (Invocations H) (InvocationOperation H) (Submission H)
    (System R E) (Choice (Command R E)) where
  next := InvocationOperation.next
  listed := Invocations.submitted
  start sub := System.start sub.access.isSome
  step := (threads R E).perform
  may p e := ProgramEvent.May p e

instance (p : ProgramState H R E) (e : ProgramEvent H R E) :
    Decidable ((programs H R E).may p e) :=
  inferInstanceAs (Decidable (ProgramEvent.May p e))

/-- A program that has not made an invocation yet. -/
def ProgramState.initial : ProgramState H R E := ⟨{}, []⟩

/-- The states of a program. -/
def ProgramState.Reachable (p : ProgramState H R E) : Prop :=
  (programs H R E).Leads ProgramState.initial p

/-- What the handlers of some submissions have received in their runs. -/
def deliveries (submitted : List (Submission H)) (runs : List (System R E)) :
    List (Submission H × AsyncResult R E) :=
  (submitted.zip runs).flatMap fun d => d.2.received.map (d.1, ·)

/-- What the handlers of a program have received. -/
def ProgramState.deliveries (p : ProgramState H R E) : List (Submission H × AsyncResult R E) :=
  Async.deliveries p.registry.submitted p.components

/-- The operations whose handlers have received something. -/
def ProgramState.delivered (p : ProgramState H R E) : List ℕ :=
  p.deliveries.map fun d => d.1.operation

/-! ### Deliveries -/

section

variable {submitted : List (Submission H)} {runs runs' : List (System R E)}

/-- Every submission runs in an operation state of its own. -/
abbrev Matched (submitted : List (Submission H)) (runs : List (System R E)) : Prop :=
  List.Forall₂ (fun sub run => Async.Reachable sub.access.isSome run) submitted runs

lemma deliveries_cons (sub : Submission H) (run : System R E) :
    deliveries (sub :: submitted) (run :: runs) =
      run.received.map (sub, ·) ++ deliveries submitted runs := by
  rw [deliveries, List.zip_cons_cons, List.flatMap_cons]
  rfl

lemma deliveries_append {submitted' : List (Submission H)} (h : Matched submitted runs) :
    deliveries (submitted ++ submitted') (runs ++ runs') =
      deliveries submitted runs ++ deliveries submitted' runs' := by
  rw [deliveries, List.zip_append h.length_eq, List.flatMap_append]
  rfl

/-- No handler receives two results. -/
lemma Matched.sublist (h : Matched submitted runs) :
    ((deliveries submitted runs).map Prod.fst).Sublist submitted := by
  induction h with
  | nil => exact List.Sublist.refl _
  | @cons sub run submitted runs hrun _ ih =>
    rw [deliveries_cons, List.map_append, List.map_map]
    have hle := hrun.received_length
    rcases hreceived : run.received with _ | ⟨r, _ | ⟨r', l⟩⟩
    · exact ih.cons sub
    · exact ih.cons_cons sub
    · rw [hreceived] at hle
      exact absurd hle (by simp)

/-- Every handler receives a result when everything has come to rest. -/
lemma Matched.complete (h : Matched submitted runs)
    (hdone : ∀ run ∈ runs, Quiescent run ∧ Occurred run.log) :
    (deliveries submitted runs).map Prod.fst = submitted := by
  induction h with
  | nil => rfl
  | @cons sub run submitted runs hrun _ ih =>
    obtain ⟨⟨hq, hocc⟩, hrest⟩ := List.forall_mem_cons.mp hdone
    obtain ⟨r, hreceived⟩ := hq.exists_received hrun hocc
    rw [deliveries_cons, hreceived, List.map_append, ih hrest]
    rfl

/-- What was delivered stays, and runs of new submissions come before. -/
lemma Matched.deliveries_sublist {new : List (Submission H)} {newRuns : List (System R E)}
    (h : Matched submitted runs) (hsteps : List.Forall₂ (threads R E).Reachable runs runs')
    (hnew : Matched new newRuns) :
    (deliveries submitted runs).Sublist (deliveries (new ++ submitted) (newRuns ++ runs')) := by
  rw [deliveries_append hnew]
  refine List.Sublist.trans ?_ (List.sublist_append_right _ _)
  induction h generalizing runs' with
  | nil => exact List.nil_sublist _
  | @cons sub run submitted runs hrun _ ih =>
    obtain ⟨run', runs', hrun', hruns', rfl⟩ := List.forall₂_cons_left_iff.mp hsteps
    rw [deliveries_cons, deliveries_cons]
    exact ((hrun.received_sublist hrun').map _).append (ih hruns')

end

/-! ### Runs of the program -/

section

variable {s s' : Invocations H} {op : InvocationOperation H}

/-- An operation on invocations keeps what was submitted. -/
lemma submitted_suffix (h : s.Kept) (hop : op.Valid s) (hnext : op.next s = some s') :
    s.submitted <:+ s'.submitted := by
  obtain ⟨ending, s₁, hperform, hperforms⟩ := exists_perform h hop
  rw [InvocationOperation.next, hperform] at hnext
  obtain rfl := Option.some.inj hnext
  rcases hperforms.cases with hquiet | ⟨sub, hsubmits⟩
  · exact (hquiet.submitted ▸ List.suffix_refl _ : s.submitted <:+ s₁.submitted)
  · exact (hsubmits.submitted ▸ List.suffix_cons _ _ : s.submitted <:+ s₁.submitted)

lemma kept_next (h : s.Kept) (hop : op.Valid s) (hnext : op.next s = some s') :
    s'.Kept ∧ s.submitted <:+ s'.submitted :=
  ⟨(exists_next h hop hnext).1, submitted_suffix h hop hnext⟩

end

namespace ProgramState

variable {p p' : ProgramState H R E}

lemma Reachable.matched (h : p.Reachable) :
    p.registry.Kept ∧ Matched p.registry.submitted p.components :=
  Family.Leads.reached (F := programs H R E)
    (fun _ _ _ hs hmay hnext => kept_next hs hmay.2 hnext) Invocations.kept_new rfl rfl h

lemma Reachable.trans (h : p.Reachable) (h' : (programs H R E).Leads p p') : p'.Reachable := by
  refine Runs.Reaches.invariant h (fun _ _ _ hs hmay hnext => ?_) h'
  exact hs.step hmay hnext

lemma delivered_sublist {submitted : List (Submission H)}
    (h : (p.deliveries.map Prod.fst).Sublist submitted) :
    p.delivered.Sublist (submitted.map Submission.operation) := by
  have hmap := h.map Submission.operation
  rw [List.map_map] at hmap
  exact hmap

/-- What the handlers of a program have received later on. -/
lemma Reachable.deliveries_sublist (h : p.Reachable) (h' : (programs H R E).Leads p p') :
    p.deliveries.Sublist p'.deliveries := by
  obtain ⟨hkept, hmatched⟩ := h.matched
  obtain ⟨-, new, old, ⟨xs, hxs, hnew⟩, hlisted, hold⟩ :=
    Family.Leads.matched (F := programs H R E)
      (fun _ _ _ hs hmay hnext => kept_next hs hmay.2 hnext) hkept h'
  have hsubmitted : p'.registry.submitted = new ++ p.registry.submitted := hlisted
  rw [deliveries, deliveries, hsubmitted, hxs]
  exact hmatched.deliveries_sublist hold hnew

/-- An operation that is gone without being submitted is never submitted. -/
lemma Reachable.not_submitted (h : p.Reachable) {id : ℕ}
    (hgone : id ∈ p.registry.operations.destroyed)
    (hnot : id ∉ p.registry.submitted.map Submission.operation)
    (h' : (programs H R E).Leads p p') :
    id ∉ p'.registry.submitted.map Submission.operation := by
  let inv (s : Invocations H) : Prop := s.Kept ∧ id ∈ s.operations.destroyed ∧
    id ∉ s.submitted.map Submission.operation
  have hkeep : ∀ (s : ProgramState H R E) op s', inv s.registry →
      (programs H R E).may s (.registry op) → (programs H R E).next s.registry op = some s' →
      inv s' ∧ s.registry.submitted <:+ s'.submitted := by
    rintro s op s' ⟨hkept, hdestroyed, hsubmitted⟩ ⟨-, hop⟩ hnext
    obtain ⟨hkept', hsubset, hold⟩ := exists_next hkept hop hnext
    refine ⟨⟨hkept', hsubset hdestroyed, fun hmem => ?_⟩, submitted_suffix hkept hop hnext⟩
    rcases hold id hmem with hin | halive
    · exact hsubmitted hin
    · exact halive.2 hdestroyed
  have hinv := (Family.Leads.matched hkeep ⟨h.matched.1, hgone, hnot⟩ h').1
  exact hinv.2.2

/-- In every program of invocations, with every submitted operation running in its own state: the
handler of a submission receives at most one result, and what it has received stays.  An operation
that an invocation still carries, or that is gone without having been submitted, delivers nothing,
the latter for good.  When every run has come to rest with an outcome, every submission has
delivered exactly once. -/
theorem delivered_once (h : p.Reachable) :
    p.delivered.Nodup ∧ p.delivered ⊆ p.registry.submitted.map Submission.operation ∧
    (∀ o id, p.registry.carried o = some id → id ∉ p.delivered) ∧
    (∀ p' : ProgramState H R E, (programs H R E).Leads p p' → p.deliveries.Sublist p'.deliveries ∧
      ∀ id ∈ p.registry.operations.destroyed,
        id ∉ p.registry.submitted.map Submission.operation → id ∉ p'.delivered) ∧
    ((∀ run ∈ p.components, Quiescent run ∧ Occurred run.log) →
      p.delivered = p.registry.submitted.map Submission.operation ∧
        p.deliveries.length = p.registry.submitted.length) := by
  obtain ⟨hkept, hmatched⟩ := h.matched
  have hsub := delivered_sublist hmatched.sublist
  refine ⟨hkept.once.sublist hsub, hsub.subset, fun o id hid hmem => ?_, fun p' h' =>
    ⟨h.deliveries_sublist h', fun id hgone hnot hmem => ?_⟩, fun hdone => ?_⟩
  · obtain ⟨sub, hsubmitted, heq⟩ := List.mem_map.mp (hsub.subset hmem)
    exact (hkept.owned.alive hid).2 (heq ▸ hkept.gone sub hsubmitted)
  · have hmatched' := (h.trans h').matched.2
    exact h.not_submitted hgone hnot h' ((delivered_sublist hmatched'.sublist).subset hmem)
  · have hcomplete := hmatched.complete hdone
    constructor
    · rw [← hcomplete, List.map_map]
      rfl
    · rw [← hcomplete, List.length_map]
      rfl

/-- Two operations are submitted, the steps of their runs take turns; one of them is rejected. -/
theorem delivered_once_two :
    ∃ p : ProgramState ℕ ℕ ℕ, p.Reachable ∧
      p.deliveries = [(⟨1, 6, none, .forwarding 8⟩, .failure 3),
        (⟨0, 4, some 5, .direct 7⟩, ⟨some 9, 0⟩)] ∧ p.delivered.Nodup := by
  obtain ⟨p, hrun⟩ : ∃ p : ProgramState ℕ ℕ ℕ, Runs.run (programs ℕ ℕ ℕ).may
      (programs ℕ ℕ ℕ).advance ProgramState.initial
      [.registry (.make 0 (some 4) (some 5) false), .registry (.make 1 (some 6) none false),
        .registry (.start 0 7 .succeeds), .component 0 (.command (.finish ⟨some 9, 0⟩)),
        .registry (.erase 2 1 none), .component 0 (.advance 0),
        .registry (.start 2 8 .succeeds), .component 0 (.command (.conclude (.rejected 3))),
        .component 1 (.advance 0), .component 0 (.command .resume), .component 1 (.advance 0),
        .component 0 (.advance 0), .component 0 (.advance 0), .component 1 (.advance 0),
        .component 0 (.advance 0), .component 0 (.advance 0)] = some p := ⟨_, rfl⟩
  have h : p.Reachable := Runs.Reaches.of_run .start hrun
  have hdeliveries : p.deliveries = [(⟨1, 6, none, .forwarding 8⟩, .failure 3),
      (⟨0, 4, some 5, .direct 7⟩, ⟨some 9, 0⟩)] := by
    obtain rfl := Option.some.inj hrun
    rfl
  exact ⟨p, h, hdeliveries, (delivered_once h).1⟩

end ProgramState

end Dynabridge.Async
