import Mathlib.Logic.Function.Basic
import Mathlib.Tactic

/-!
# Procedures that threads call

Threads run code over a shared state.  What a procedure does is given by code of its own, which
may call procedures again.  Threads take their steps in any order, and one step is atomic.

A procedure may be implemented in more steps than it is specified with.  `Code.Delays` relates the
code of the two, and it is a congruence, so that it is enough to compare the procedures.

* `Pool.Delays.run`: whatever the implementation does, the specification does in fewer steps.
* `Pool.Delays.catch_up`: whatever the specification does, the implementation can do.
-/

namespace Procedures

/-- Code that makes pauses, reads and changes the shared state, and calls procedures. -/
inductive Code (Op : Type) (Reply : Op → Type) (σ α : Type) : Type
  | done (result : α)
  | pause (next : Code Op Reply σ α)
  /-- The state is changed; what comes next depends on what it was. -/
  | access (change : σ → σ) (next : σ → Code Op Reply σ α)
  | call (op : Op) (next : Reply op → Code Op Reply σ α)

variable {Op : Type} {Reply : Op → Type} {σ α β ι : Type}

/-- What each procedure does. -/
abbrev Bodies (Op : Type) (Reply : Op → Type) (σ : Type) :=
  (op : Op) → Code Op Reply σ (Reply op)

namespace Code

/-- Sequencing. -/
def bind : Code Op Reply σ α → (α → Code Op Reply σ β) → Code Op Reply σ β
  | done result, after => after result
  | pause next, after => pause (next.bind after)
  | access change next, after => access change fun s => (next s).bind after
  | call op next, after => call op fun reply => (next reply).bind after

/-- Sequencing is associative. -/
lemma bind_bind {γ : Type} (c : Code Op Reply σ α) (after : α → Code Op Reply σ β)
    (last : β → Code Op Reply σ γ) :
    (c.bind after).bind last = c.bind fun result => (after result).bind last := by
  induction c with
  | done result => rfl
  | pause next ih => exact congrArg pause ih
  | access change next ih => exact congrArg (access change) (funext ih)
  | call op next ih => exact congrArg (call op) (funext ih)

/-- One step: the code that is left, and the state. -/
def step (body : Bodies Op Reply σ) (s : σ) : Code Op Reply σ α → Code Op Reply σ α × σ
  | done result => (done result, s)
  | pause next => (next, s)
  | access change next => (next s, change s)
  | call op next => ((body op).bind next, s)

/-- The first code is the second one with more pauses. -/
inductive Delays : Code Op Reply σ α → Code Op Reply σ α → Prop
  | done (result : α) : Delays (done result) (done result)
  | pause {c d : Code Op Reply σ α} : Delays c d → Delays (pause c) (pause d)
  | access {change : σ → σ} {c d : σ → Code Op Reply σ α} :
      (∀ s, Delays (c s) (d s)) → Delays (access change c) (access change d)
  | call {op : Op} {c d : Reply op → Code Op Reply σ α} :
      (∀ reply, Delays (c reply) (d reply)) → Delays (call op c) (call op d)
  | more {c d : Code Op Reply σ α} : Delays c d → Delays (.pause c) d

namespace Delays

/-- No pause needs to be added. -/
lemma refl (c : Code Op Reply σ α) : Delays c c := by
  induction c with
  | done result => exact .done result
  | pause next ih => exact .pause ih
  | access change next ih => exact .access ih
  | call op next ih => exact .call ih

/-- Code that has come to its end is not a delay of anything else. -/
lemma eq_done {result : α} {d : Code Op Reply σ α} (h : Delays (.done result) d) :
    d = .done result := by
  cases h with
  | done => rfl

/-- Pauses can be added before and after. -/
lemma bind {c d : Code Op Reply σ α} (h : Delays c d) {after after' : α → Code Op Reply σ β}
    (hafter : ∀ result, Delays (after result) (after' result)) :
    Delays (c.bind after) (d.bind after') := by
  induction h with
  | done result => exact hafter result
  | pause _ ih => exact .pause ih
  | access _ ih => exact .access ih
  | call _ ih => exact .call ih
  | more _ ih => exact .more ih

section Steps

variable {body body' : Bodies Op Reply σ} (hbody : ∀ op, Delays (body op) (body' op))

include hbody

/-- A step is matched by a step, or it was a pause. -/
lemma step {c d : Code Op Reply σ α} (h : Delays c d) (s : σ) :
    Delays (c.step body s).1 (d.step body' s).1 ∧ (c.step body s).2 = (d.step body' s).2 ∨
      Delays (c.step body s).1 d ∧ (c.step body s).2 = s := by
  cases h with
  | done result => exact .inl ⟨.done result, rfl⟩
  | pause hnext => exact .inl ⟨hnext, rfl⟩
  | access hnext => exact .inl ⟨hnext s, rfl⟩
  | call hnext => exact .inl ⟨(hbody _).bind hnext, rfl⟩
  | more hnext => exact .inr ⟨hnext, rfl⟩

/-- After some pauses the next step is the same. -/
lemma catch_up {c d : Code Op Reply σ α} (h : Delays c d) (s : σ) :
    ∃ pauses c', c = Code.pause^[pauses] c' ∧ Delays (c'.step body s).1 (d.step body' s).1 ∧
      (c'.step body s).2 = (d.step body' s).2 := by
  induction h with
  | done result => exact ⟨0, _, rfl, .done result, rfl⟩
  | pause hnext => exact ⟨0, _, rfl, hnext, rfl⟩
  | access hnext => exact ⟨0, _, rfl, hnext s, rfl⟩
  | call hnext => exact ⟨0, _, rfl, (hbody _).bind hnext, rfl⟩
  | more _ ih =>
    obtain ⟨pauses, c', rfl, hnext⟩ := ih
    exact ⟨pauses + 1, c', (Function.iterate_succ_apply' _ _ _).symm, hnext⟩

end Steps

end Delays

end Code

/-! ## Threads -/

/-- The shared state, and what is left of each thread. -/
structure Pool (Op : Type) (Reply : Op → Type) (σ ι α : Type) where
  state : σ
  threads : ι → Code Op Reply σ α

namespace Pool

variable [DecidableEq ι]

/-- A thread takes a step. -/
def step (body : Bodies Op Reply σ) (p : Pool Op Reply σ ι α) (i : ι) : Pool Op Reply σ ι α :=
  let next := (p.threads i).step body p.state
  ⟨next.2, Function.update p.threads i next.1⟩

/-- Threads take steps in the order of a schedule. -/
def run (body : Bodies Op Reply σ) (p : Pool Op Reply σ ι α) (schedule : List ι) :
    Pool Op Reply σ ι α :=
  schedule.foldl (step body) p

lemma run_append (body : Bodies Op Reply σ) (p : Pool Op Reply σ ι α) (first last : List ι) :
    p.run body (first ++ last) = (p.run body first).run body last := List.foldl_append

/-- A thread makes its next pauses. -/
lemma run_pauses (body : Bodies Op Reply σ) {p : Pool Op Reply σ ι α} {i : ι} {pauses : ℕ}
    {c : Code Op Reply σ α} (h : p.threads i = Code.pause^[pauses] c) :
    p.run body (List.replicate pauses i) = ⟨p.state, Function.update p.threads i c⟩ := by
  induction pauses generalizing p with
  | zero => rw [← show p.threads i = c from h, Function.update_eq_self]; rfl
  | succ pauses ih =>
    rw [Function.iterate_succ_apply'] at h
    have hstep : p.step body i =
        ⟨p.state, Function.update p.threads i (Code.pause^[pauses] c)⟩ := by
      rw [step, h]
      rfl
    change (p.step body i).run body (List.replicate pauses i) = _
    rw [hstep, ih (Function.update_self _ _ _), Function.update_idem]

/-- The states are the same, and the threads of the first pool are those of the second one with
more pauses. -/
structure Delays (p q : Pool Op Reply σ ι α) : Prop where
  state : p.state = q.state
  threads : ∀ i, (p.threads i).Delays (q.threads i)

namespace Delays

variable {body body' : Bodies Op Reply σ} {p q : Pool Op Reply σ ι α}

omit [DecidableEq ι] in
lemma refl (p : Pool Op Reply σ ι α) : p.Delays p := ⟨rfl, fun i => .refl (p.threads i)⟩

/-- A thread can be changed in both pools. -/
lemma update (h : p.Delays q) (i : ι) {c d : Code Op Reply σ α} (hcode : c.Delays d) {s s' : σ}
    (hs : s = s') :
    Pool.Delays ⟨s, Function.update p.threads i c⟩ ⟨s', Function.update q.threads i d⟩ := by
  refine ⟨hs, fun j => ?_⟩
  by_cases hj : j = i
  · subst hj
    simpa only [Function.update_self] using hcode
  · simpa only [Function.update_of_ne hj] using h.threads j

variable (hbody : ∀ op, (body op).Delays (body' op))

include hbody

/-- A step of the implementation is matched by at most one of the specification. -/
lemma step (h : p.Delays q) (i : ι) :
    (p.step body i).Delays (q.step body' i) ∨ (p.step body i).Delays q := by
  rcases (h.threads i).step hbody p.state with ⟨hcode, hstate⟩ | ⟨hcode, hstate⟩
  · left
    rw [Pool.step, Pool.step, ← h.state]
    exact h.update i hcode hstate
  · right
    have hsame := h.update i hcode (hstate.trans h.state)
    rw [Function.update_eq_self] at hsame
    exact hsame

/-- Whatever the implementation does, the specification does when some of the steps are left
out. -/
theorem run (h : p.Delays q) (schedule : List ι) :
    ∃ fewer, fewer.Sublist schedule ∧ (p.run body schedule).Delays (q.run body' fewer) := by
  induction schedule generalizing p q with
  | nil => exact ⟨[], .refl _, h⟩
  | cons i schedule ih =>
    rcases h.step hbody i with hboth | hpause
    · obtain ⟨fewer, hsub, hrest⟩ := ih hboth
      exact ⟨i :: fewer, hsub.cons_cons i, hrest⟩
    · obtain ⟨fewer, hsub, hrest⟩ := ih hpause
      exact ⟨fewer, hsub.cons i, hrest⟩

/-- A step of the specification is one of the implementation after some pauses. -/
lemma catch_up_step (h : p.Delays q) (i : ι) :
    ∃ pauses, (p.run body (List.replicate pauses i ++ [i])).Delays (q.step body' i) := by
  obtain ⟨pauses, c, hpauses, hcode, hstate⟩ := (h.threads i).catch_up hbody p.state
  refine ⟨pauses, ?_⟩
  rw [run_append, run_pauses body hpauses]
  change Pool.Delays (Pool.step body ⟨p.state, Function.update p.threads i c⟩ i) (q.step body' i)
  rw [Pool.step, Pool.step]
  simp only [Function.update_self, Function.update_idem]
  rw [← h.state]
  exact h.update i hcode hstate

/-- Whatever the specification does, the implementation does when some pauses are put in. -/
theorem catch_up (h : p.Delays q) (schedule : List ι) :
    ∃ more, schedule.Sublist more ∧ (p.run body more).Delays (q.run body' schedule) := by
  induction schedule generalizing p q with
  | nil => exact ⟨[], .refl _, h⟩
  | cons i schedule ih =>
    obtain ⟨pauses, hstep⟩ := h.catch_up_step hbody i
    obtain ⟨more, hsub, hrest⟩ := ih hstep
    refine ⟨List.replicate pauses i ++ [i] ++ more, ?_, ?_⟩
    · rw [List.append_assoc]
      exact (hsub.cons_cons i).trans (List.sublist_append_right _ _)
    · rw [run_append]
      exact hrest

end Delays

end Pool

end Procedures
