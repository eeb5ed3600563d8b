import Dynabridge.Foundations.Handover

/-!
# Tasks of an executor

A task is known by its number among the accepted ones and by the thread that dispatched it.
The log of an executor says when a task is accepted, starts and returns; `α` is what else the
executor records.
-/

namespace Dynabridge.Executor

open Interleaving Handover

/-- A task that was accepted by `dispatch`. -/
structure Task where
  number : ℕ
  thread : ℕ
  deriving DecidableEq

/-- What can be observed of a run. -/
inductive Event (α : Type)
  | dispatched (t : Task)
  | started (t : Task)
  | finished (t : Task)
  | noted (a : α)
  deriving DecidableEq

variable {α : Type}

/-- The tasks that were accepted, in the order of the locked sections that accepted them. -/
def dispatched (log : List (Event α)) : List Task :=
  log.filterMap fun e =>
    match e with
    | .dispatched t => some t
    | _ => none

/-- The tasks that have started, in this order. -/
def started (log : List (Event α)) : List Task :=
  log.filterMap fun e =>
    match e with
    | .started t => some t
    | _ => none

/-- The tasks that have returned, in this order. -/
def finished (log : List (Event α)) : List Task :=
  log.filterMap fun e =>
    match e with
    | .finished t => some t
    | _ => none

lemma mem_started {log : List (Event α)} {t : Task} : t ∈ started log ↔ .started t ∈ log :=
  mem_filterMap_iff fun e => by cases e <;> simp

lemma mem_finished {log : List (Event α)} {t : Task} : t ∈ finished log ↔ .finished t ∈ log :=
  mem_filterMap_iff fun e => by cases e <;> simp

@[simp] lemma dispatched_append (log log' : List (Event α)) :
    dispatched (log ++ log') = dispatched log ++ dispatched log' := List.filterMap_append

@[simp] lemma started_append (log log' : List (Event α)) :
    started (log ++ log') = started log ++ started log' := List.filterMap_append

@[simp] lemma finished_append (log log' : List (Event α)) :
    finished (log ++ log') = finished log ++ finished log' := List.filterMap_append

section

variable (t : Task) (a : α) (log : List (Event α))

@[simp] lemma dispatched_nil : dispatched ([] : List (Event α)) = [] := rfl
@[simp] lemma started_nil : started ([] : List (Event α)) = [] := rfl
@[simp] lemma finished_nil : finished ([] : List (Event α)) = [] := rfl

@[simp] lemma dispatched_cons_dispatched :
    dispatched (.dispatched t :: log) = t :: dispatched log := rfl
@[simp] lemma dispatched_cons_started : dispatched (.started t :: log) = dispatched log := rfl
@[simp] lemma dispatched_cons_finished : dispatched (.finished t :: log) = dispatched log := rfl
@[simp] lemma dispatched_cons_noted : dispatched (.noted a :: log) = dispatched log := rfl

@[simp] lemma started_cons_dispatched : started (.dispatched t :: log) = started log := rfl
@[simp] lemma started_cons_started : started (.started t :: log) = t :: started log := rfl
@[simp] lemma started_cons_finished : started (.finished t :: log) = started log := rfl
@[simp] lemma started_cons_noted : started (.noted a :: log) = started log := rfl

@[simp] lemma finished_cons_dispatched : finished (.dispatched t :: log) = finished log := rfl
@[simp] lemma finished_cons_started : finished (.started t :: log) = finished log := rfl
@[simp] lemma finished_cons_finished : finished (.finished t :: log) = t :: finished log := rfl
@[simp] lemma finished_cons_noted : finished (.noted a :: log) = finished log := rfl

end

/-- Any two tasks that one thread dispatched start in the order in which it dispatched them. -/
def StartsInOrder (log : List (Event α)) : Prop :=
  ∀ a b, a.thread = b.thread → Precedes (dispatched log) a b → b ∈ started log →
    Precedes (started log) a b

/-- The accepted tasks are numbered in the order in which they were accepted. -/
def Numbered (accepted : ℕ) (log : List (Event α)) : Prop :=
  (dispatched log).map Task.number = List.range accepted

lemma Numbered.nodup {accepted : ℕ} {log : List (Event α)} (h : Numbered accepted log) :
    (dispatched log).Nodup := by
  refine List.Nodup.of_map Task.number ?_
  rw [h]
  exact List.nodup_range

/-- The next accepted task gets the next number. -/
lemma Numbered.concat {accepted : ℕ} {log events : List (Event α)} (h : Numbered accepted log)
    {t : Task} (hevents : dispatched events = [t]) (ht : t.number = accepted) :
    Numbered (accepted + 1) (log ++ events) := by
  unfold Numbered at *
  rw [dispatched_append, List.map_append, h, hevents, List.map_singleton, ht, List.range_succ]

/-- Events of other kinds do not change the numbering. -/
lemma Numbered.append {accepted : ℕ} {log events : List (Event α)} (h : Numbered accepted log)
    (hevents : dispatched events = []) : Numbered accepted (log ++ events) := by
  unfold Numbered at *
  rw [dispatched_append, hevents, List.append_nil, h]

/-- The numbers of the accepted tasks are below the next one. -/
lemma Numbered.number_lt {accepted : ℕ} {log : List (Event α)} (h : Numbered accepted log)
    {t : Task} (ht : t ∈ dispatched log) : t.number < accepted := by
  have hmem := List.mem_map_of_mem (f := Task.number) ht
  rw [h] at hmem
  exact List.mem_range.mp hmem

/-! ## Where the tasks are -/

/-- The accepted tasks wait or have started; those that have started are running or have
returned. -/
structure Accounted (accepted : ℕ) (waiting running : List Task) (log : List (Event α)) : Prop where
  numbered : Numbered accepted log
  placed : Conserved (dispatched log) waiting (started log)
  returned : Conserved (started log) running (finished log)

namespace Accounted

variable {accepted : ℕ} {waiting running : List Task} {log : List (Event α)}

lemma empty : Accounted 0 [] [] ([] : List (Event α)) :=
  ⟨rfl, List.Perm.refl _, List.Perm.refl _⟩

/-- A task is accepted and started in place. -/
lemma inline (h : Accounted accepted waiting running log) (thread : ℕ) :
    Accounted (accepted + 1) waiting (⟨accepted, thread⟩ :: running)
      (log ++ [.dispatched ⟨accepted, thread⟩, .started ⟨accepted, thread⟩]) := by
  refine ⟨h.numbered.concat rfl rfl, ?_, ?_⟩
  · simpa using h.placed.pass ⟨accepted, thread⟩
  · simpa using h.returned.push ⟨accepted, thread⟩

/-- A task is accepted and waits. -/
lemma enqueue (h : Accounted accepted waiting running log) (thread : ℕ) :
    Accounted (accepted + 1) (waiting ++ [⟨accepted, thread⟩]) running
      (log ++ [.dispatched ⟨accepted, thread⟩]) := by
  refine ⟨h.numbered.concat rfl rfl, ?_, ?_⟩
  · simpa using h.placed.enter ⟨accepted, thread⟩
  · simpa using h.returned

/-- The first of the waiting tasks starts. -/
lemma start {task : Task} (h : Accounted accepted (task :: waiting) running log) :
    Accounted accepted waiting (task :: running) (log ++ [.started task]) := by
  refine ⟨h.numbered.append rfl, ?_, ?_⟩
  · simpa using h.placed.leave
  · simpa using h.returned.push task

/-- The innermost task returns. -/
lemma finish {task : Task} (h : Accounted accepted waiting (task :: running) log) :
    Accounted accepted waiting running (log ++ [.finished task]) := by
  refine ⟨h.numbered.append rfl, ?_, ?_⟩
  · simpa using h.placed
  · simpa using h.returned.leave

lemma note (h : Accounted accepted waiting running log) (a : α) :
    Accounted accepted waiting running (log ++ [.noted a]) := by
  refine ⟨h.numbered.append rfl, ?_, ?_⟩
  · simpa using h.placed
  · simpa using h.returned

/-- When nothing waits and nothing runs, every accepted task has returned, once. -/
lemma finished_perm (h : Accounted accepted [] [] log) :
    (finished log).Perm (dispatched log) :=
  h.returned.perm_of_empty.trans h.placed.perm_of_empty

lemma nodup_started (h : Accounted accepted waiting running log) : (started log).Nodup :=
  h.placed.nodup_left h.numbered.nodup

end Accounted

/-! ## Their order -/

/-- Every thread sees its tasks start in the order in which it dispatched them. -/
def Ordered (waiting : List Task) (log : List (Event α)) : Prop :=
  ∀ thread, Fifo Task.thread thread (dispatched log) waiting (started log)

namespace Ordered

variable {waiting : List Task} {log : List (Event α)}

lemma empty : Ordered [] ([] : List (Event α)) := fun _ => rfl

/-- A task is started in place while no other task of its thread waits. -/
lemma inline (h : Ordered waiting log) {task : Task}
    (hnone : ∀ t ∈ waiting, t.thread ≠ task.thread) :
    Ordered waiting (log ++ [.dispatched task, .started task]) := by
  intro thread
  simpa using (h thread).pass task fun hthread t ht => hthread ▸ hnone t ht

lemma enqueue (h : Ordered waiting log) (task : Task) :
    Ordered (waiting ++ [task]) (log ++ [.dispatched task]) := by
  intro thread
  simpa using (h thread).enter task

lemma start {task : Task} (h : Ordered (task :: waiting) log) :
    Ordered waiting (log ++ [.started task]) := by
  intro thread
  simpa using (h thread).leave

lemma finish (h : Ordered waiting log) (task : Task) :
    Ordered waiting (log ++ [.finished task]) := by
  intro thread
  simpa using h thread

lemma note (h : Ordered waiting log) (a : α) : Ordered waiting (log ++ [.noted a]) := by
  intro thread
  simpa using h thread

lemma startsInOrder (h : Ordered waiting log) (hnodup : (dispatched log).Nodup) :
    StartsInOrder log :=
  fun _ b hthread hab hb => (h b.thread).in_order hnodup hthread rfl hab hb

end Ordered

/-- The order of the starts so far is not affected by what is logged later. -/
lemma StartsInOrder.of_append {log events : List (Event α)}
    (h : StartsInOrder (log ++ events)) (hnodup : (started (log ++ events)).Nodup) :
    StartsInOrder log := by
  intro a b hthread hab hb
  rw [started_append] at hnodup
  have hlater : Precedes (dispatched (log ++ events)) a b := by
    rw [dispatched_append]
    exact hab.mono (List.prefix_append _ _)
  have hstarts := h a b hthread hlater (by rw [started_append]; exact List.mem_append_left _ hb)
  rw [started_append] at hstarts
  exact precedes_of_append hstarts hnodup hb

end Dynabridge.Executor
