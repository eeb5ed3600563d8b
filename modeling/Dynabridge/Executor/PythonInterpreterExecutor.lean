import Dynabridge.Executor.Task

/-!
# The Python interpreter executor

`python_interpreter_executor` runs tasks on a worker thread of its own, which takes the whole
queue as a batch and executes and destroys it while it holds the GIL.  The steps of a run are
the locked sections of `dispatch`, `shutdown` and `run`, the `notify_one` that `dispatch` and
`shutdown` make after their sections, and the steps of the worker through a batch.  The wait
for the condition variable may end at any time.

User code runs on the worker inside the tasks and inside the destructors of what they have
captured; there it can call the executor as well.  Acquiring the GIL is not refused for ever.
-/

namespace Dynabridge.Executor

open Interleaving

/-- What else is recorded: the batches, counted from 0, with the calls that acquire and release
the GIL for them, the destruction of their tasks, and the return of the `shutdown` that has
joined the worker. -/
inductive PyNote
  | taken (n : ℕ) (batch : List Task)
  | ensured (n : ℕ)
  | destroyed (t : Task)
  | released (n : ℕ)
  | shutDown
  deriving DecidableEq

/-- Where the worker is in `run`: before its first section, before the section of a round of
its loop, in the wait, and then through a batch.  The last argument is what is left of it. -/
inductive Worker
  | starting
  | checking
  | asleep
  | ensuring (n : ℕ) (batch : List Task)
  | executing (n : ℕ) (batch rest : List Task)
  | clearing (n : ℕ) (batch rest : List Task)
  | exited
  deriving DecidableEq

/-- The tasks of the batch that have not started. -/
def Worker.unstarted : Worker → List Task
  | .ensuring _ batch => batch
  | .executing _ _ rest => rest
  | .starting | .checking | .asleep | .clearing _ _ _ | .exited => []

/-- The number of the batch that the worker has in hand. -/
def Worker.batch? : Worker → Option ℕ
  | .ensuring n _ | .executing n _ _ | .clearing n _ _ => some n
  | .starting | .checking | .asleep | .exited => none

/-- The destructors of captures run on the worker. -/
def Worker.isClearing : Worker → Bool
  | .clearing _ _ _ => true
  | _ => false

/-- `python_interpreter_executor` with its worker. -/
structure PythonExecutor where
  /-- `worker_id_` -/
  workerId : Option ℕ
  tasks : List Task
  stopping : Bool
  worker : Worker
  /-- The tasks that the worker is executing, the innermost first. -/
  running : List Task
  accepted : ℕ
  batches : ℕ
  terminated : Bool
  deriving DecidableEq

/-- The constructor. -/
def PythonExecutor.construct : PythonExecutor where
  workerId := none
  tasks := []
  stopping := false
  worker := .starting
  running := []
  accepted := 0
  batches := 0
  terminated := false

/-- What a call of `dispatch` or `shutdown` does after its section. -/
inductive CallPhase
  /-- `notify_one`, and the join of a `shutdown` after it. -/
  | notify (joins : Bool)
  | join
  | returned
  deriving DecidableEq

/-- A call that has left its section. -/
structure PyCall where
  thread : ℕ
  phase : CallPhase
  deriving DecidableEq

/-- The thread is not in a call. -/
def notCalling (thread : ℕ) (calls : List PyCall) : Bool :=
  calls.all fun call => decide (call.thread ≠ thread) || decide (call.phase = .returned)

/-- `notify_one` -/
def PythonExecutor.notifyOne (s : PythonExecutor) : PythonExecutor :=
  if s.worker = .asleep then { s with worker := .checking } else s

/-- The section of a round of `run`, with the predicate of the wait. -/
def PythonExecutor.check (s : PythonExecutor) : PythonExecutor × List (Event PyNote) :=
  if s.stopping || !s.tasks.isEmpty then
    if s.tasks.isEmpty && s.stopping then ({ s with worker := .exited }, [])
    else
      ({ s with
          tasks := []
          worker := .ensuring s.batches s.tasks
          batches := s.batches + 1 },
        [.noted (.taken s.batches s.tasks)])
  else ({ s with worker := .asleep }, [])

section

variable (worker : ℕ)

/-- Whether user code of a thread can call the executor. -/
def PythonExecutor.mayCall (s : PythonExecutor) (thread : ℕ) (calls : List PyCall) : Bool :=
  !s.terminated && notCalling thread calls &&
    (decide (thread ≠ worker) || !s.running.isEmpty || s.worker.isClearing)

/-- `dispatch` up to the end of its section, and the task when it is executed in place. -/
def PythonExecutor.dispatch (s : PythonExecutor) (thread : ℕ) :
    PythonExecutor × List PyCall × List (Event PyNote) :=
  if s.stopping then ({ s with terminated := true }, [], [])
  else
    let task : Task := ⟨s.accepted, thread⟩
    if s.workerId = some thread then
      ({ s with accepted := s.accepted + 1, running := task :: s.running }, [],
        [.dispatched task, .started task])
    else
      ({ s with accepted := s.accepted + 1, tasks := s.tasks ++ [task] },
        [⟨thread, .notify false⟩], [.dispatched task])

/-- `shutdown` up to the end of its section. -/
def PythonExecutor.shutdown (s : PythonExecutor) (thread : ℕ) : PythonExecutor × List PyCall :=
  if s.stopping then (s, []) else ({ s with stopping := true }, [⟨thread, .notify true⟩])

/-- What a call does next.  The worker cannot join itself: the assertion fails, and without it
the join throws inside a `noexcept` function. -/
def PythonExecutor.advance (s : PythonExecutor) (call : PyCall) :
    Option (PythonExecutor × PyCall × List (Event PyNote)) :=
  match call.phase with
  | .notify joins =>
    some (s.notifyOne, { call with phase := if joins then .join else .returned }, [])
  | .join =>
    if call.thread = worker then
      some ({ s with terminated := true }, { call with phase := .returned }, [])
    else if s.worker = .exited then
      some (s, { call with phase := .returned }, [.noted .shutDown])
    else none
  | .returned => none

/-- What the worker does next. -/
def PythonExecutor.resume (s : PythonExecutor) : Option (PythonExecutor × List (Event PyNote)) :=
  match s.running with
  | task :: running => some ({ s with running := running }, [.finished task])
  | [] =>
    match s.worker with
    | .starting => some ({ s with workerId := some worker, worker := .checking }, [])
    | .checking => some s.check
    | .ensuring n batch =>
      some ({ s with worker := .executing n batch batch }, [.noted (.ensured n)])
    | .executing n batch (task :: rest) =>
      some ({ s with worker := .executing n batch rest, running := [task] }, [.started task])
    | .executing n batch [] => some ({ s with worker := .clearing n batch batch }, [])
    | .clearing n batch (task :: rest) =>
      some ({ s with worker := .clearing n batch rest }, [.noted (.destroyed task)])
    | .clearing n _ [] => some ({ s with worker := .checking }, [.noted (.released n)])
    | .asleep | .exited => none

/-- What happens besides the steps of the calls. -/
inductive PyCommand
  | dispatch (thread : ℕ)
  | shutdown (thread : ℕ)
  | resume
  /-- The wait ends by itself. -/
  | wake
  deriving DecidableEq

/-- The effect of a command. -/
def PythonExecutor.command (s : PythonExecutor) (calls : List PyCall) :
    PyCommand → Option (PythonExecutor × List PyCall × List (Event PyNote))
  | .dispatch thread =>
    if s.mayCall worker thread calls then some (s.dispatch thread) else none
  | .shutdown thread =>
    if s.mayCall worker thread calls then
      match s.shutdown thread with
      | (s', new) => some (s', new, [])
    else none
  | .resume =>
    if !s.terminated && notCalling worker calls then
      (s.resume worker).map fun (s', events) => (s', [], events)
    else none
  | .wake =>
    if !s.terminated && decide (s.worker = .asleep) then
      some ({ s with worker := .checking }, [], [])
    else none

/-- The threads that use an executor. -/
def pyThreads : Program PythonExecutor PyCall PyCommand (Event PyNote) where
  advance _ s call := if s.terminated then none else s.advance worker call
  command k s calls := s.command worker calls k

end

/-- An executor with the calls of its functions. -/
abbrev PySystem := Pool PythonExecutor PyCall (Event PyNote)

/-- A new executor. -/
def PySystem.start : PySystem := ⟨.construct, [], []⟩

/-- A system that some run reaches. -/
abbrev PySystem.Reachable (worker : ℕ) (s : PySystem) : Prop :=
  (pyThreads worker).Reachable PySystem.start s

/-- Nothing happens any more by itself: no call and not the worker has a next step. -/
def PySystem.Quiescent (worker : ℕ) (s : PySystem) : Prop :=
  s.shared.terminated = false ∧
    (∀ i, ∀ call ∈ s.procs, (pyThreads worker).advance i s.shared call = none) ∧
    (pyThreads worker).command .resume s.shared s.procs = none

/-! ## What a step does -/

/-- Everything a command can do, with the guards that later proofs need. -/
inductive PythonExecutor.Obeys (worker : ℕ) (s : PythonExecutor) :
    PythonExecutor → List PyCall → List (Event PyNote) → Prop
  | terminate : Obeys worker s { s with terminated := true } [] []
  | inline (thread : ℕ) (stopping : s.stopping = false) (own : s.workerId = some thread)
      (caller : thread ≠ worker ∨ s.running ≠ [] ∨ s.worker.isClearing = true) :
    Obeys worker s
      { s with accepted := s.accepted + 1, running := ⟨s.accepted, thread⟩ :: s.running } []
      [.dispatched ⟨s.accepted, thread⟩, .started ⟨s.accepted, thread⟩]
  | enqueue (thread : ℕ) (stopping : s.stopping = false) (foreign : s.workerId ≠ some thread)
      (caller : thread ≠ worker ∨ s.running ≠ [] ∨ s.worker.isClearing = true) :
    Obeys worker s
      { s with accepted := s.accepted + 1, tasks := s.tasks ++ [⟨s.accepted, thread⟩] }
      [⟨thread, .notify false⟩] [.dispatched ⟨s.accepted, thread⟩]
  | shutdown (thread : ℕ) (stopping : s.stopping = false) :
    Obeys worker s { s with stopping := true } [⟨thread, .notify true⟩] []
  | shutdownAgain : Obeys worker s s [] []
  | enter (phase : s.worker = .starting) (running : s.running = []) :
    Obeys worker s { s with workerId := some worker, worker := .checking } [] []
  | take (phase : s.worker = .checking) (running : s.running = []) (queued : s.tasks ≠ []) :
    Obeys worker s
      { s with
        tasks := []
        worker := .ensuring s.batches s.tasks
        batches := s.batches + 1 }
      [] [.noted (.taken s.batches s.tasks)]
  | exit (phase : s.worker = .checking) (running : s.running = []) (empty : s.tasks = [])
      (stopping : s.stopping = true) :
    Obeys worker s { s with worker := .exited } [] []
  | sleep (phase : s.worker = .checking) (running : s.running = []) (empty : s.tasks = [])
      (stopping : s.stopping = false) :
    Obeys worker s { s with worker := .asleep } [] []
  | ensure (n : ℕ) (batch : List Task) (phase : s.worker = .ensuring n batch)
      (running : s.running = []) :
    Obeys worker s { s with worker := .executing n batch batch } [] [.noted (.ensured n)]
  | execute (n : ℕ) (batch : List Task) (task : Task) (rest : List Task)
      (phase : s.worker = .executing n batch (task :: rest)) (running : s.running = []) :
    Obeys worker s { s with worker := .executing n batch rest, running := [task] } []
      [.started task]
  | endBatch (n : ℕ) (batch : List Task) (phase : s.worker = .executing n batch [])
      (running : s.running = []) :
    Obeys worker s { s with worker := .clearing n batch batch } [] []
  | destroy (n : ℕ) (batch : List Task) (task : Task) (rest : List Task)
      (phase : s.worker = .clearing n batch (task :: rest)) (running : s.running = []) :
    Obeys worker s { s with worker := .clearing n batch rest } [] [.noted (.destroyed task)]
  | release (n : ℕ) (batch : List Task) (phase : s.worker = .clearing n batch [])
      (running : s.running = []) :
    Obeys worker s { s with worker := .checking } [] [.noted (.released n)]
  | taskReturns (task : Task) (rest : List Task) (running : s.running = task :: rest) :
    Obeys worker s { s with running := rest } [] [.finished task]
  | wake (phase : s.worker = .asleep) :
    Obeys worker s { s with worker := .checking } [] []

variable {worker : ℕ}

lemma PythonExecutor.check_obeys {s : PythonExecutor} (phase : s.worker = .checking)
    (running : s.running = []) : s.Obeys worker s.check.1 [] s.check.2 := by
  unfold check
  split_ifs with hready hexit
  · rw [Bool.and_eq_true, List.isEmpty_iff] at hexit
    exact .exit phase running hexit.1 hexit.2
  · refine .take phase running fun hempty => ?_
    have hstopping : s.stopping = true := by simpa [hempty] using hready
    simp [hempty, hstopping] at hexit
  · rw [Bool.or_eq_true, Bool.not_eq_true', not_or, Bool.not_eq_false, List.isEmpty_iff,
      Bool.not_eq_true] at hready
    exact .sleep phase running hready.2 hready.1

lemma PythonExecutor.resume_obeys {s s' : PythonExecutor} {events : List (Event PyNote)}
    (h : s.resume worker = some (s', events)) : s.Obeys worker s' [] events := by
  unfold resume at h
  split at h
  · rename_i task rest hrunning
    cases h
    exact .taskReturns task rest hrunning
  · rename_i hrunning
    split at h
    · cases h
      exact .enter (by assumption) hrunning
    · have hcheck : s.Obeys worker s.check.1 [] s.check.2 :=
        check_obeys (by assumption) hrunning
      rwa [Option.some.inj h] at hcheck
    · cases h
      exact .ensure _ _ (by assumption) hrunning
    · cases h
      exact .execute _ _ _ _ (by assumption) hrunning
    · cases h
      exact .endBatch _ _ (by assumption) hrunning
    · cases h
      exact .destroy _ _ _ _ (by assumption) hrunning
    · cases h
      exact .release _ _ (by assumption) hrunning
    · cases h
    · cases h

/-- A command does one of these things. -/
theorem PythonExecutor.command_obeys {s s' : PythonExecutor} {calls new : List PyCall}
    {k : PyCommand} {events : List (Event PyNote)}
    (h : s.command worker calls k = some (s', new, events)) : s.Obeys worker s' new events := by
  cases k with
  | dispatch thread =>
    unfold command at h
    dsimp only at h
    split at h
    · rename_i hcall
      unfold mayCall at hcall
      rw [Bool.and_eq_true, Bool.or_eq_true, Bool.or_eq_true, decide_eq_true_iff,
        Bool.not_eq_true', List.isEmpty_eq_false_iff] at hcall
      have hcaller := or_assoc.mp hcall.2
      unfold PythonExecutor.dispatch at h
      split_ifs at h with hstopping hown <;> cases h
      · exact .terminate
      · exact .inline thread (eq_false_of_ne_true hstopping) hown hcaller
      · exact .enqueue thread (eq_false_of_ne_true hstopping) hown hcaller
    · cases h
  | shutdown thread =>
    unfold command PythonExecutor.shutdown at h
    dsimp only at h
    split at h
    · by_cases hstopping : s.stopping = true
      · rw [if_pos hstopping] at h
        cases h
        exact .shutdownAgain
      · rw [if_neg hstopping] at h
        cases h
        exact .shutdown thread (eq_false_of_ne_true hstopping)
    · cases h
  | resume =>
    unfold command at h
    dsimp only at h
    split at h
    · obtain ⟨⟨t, events'⟩, hresume, heq⟩ := Option.map_eq_some_iff.mp h
      cases heq
      exact resume_obeys hresume
    · cases h
  | wake =>
    unfold command at h
    dsimp only at h
    split at h
    · rename_i hguard
      rw [Bool.and_eq_true, decide_eq_true_iff] at hguard
      cases h
      exact .wake hguard.2
    · cases h

/-- A call wakes the worker, returns after the end of the worker, or terminates. -/
lemma pyThreads_advance_cases {i : ℕ} {s s' : PythonExecutor} {call call' : PyCall}
    {events : List (Event PyNote)}
    (h : (pyThreads worker).advance i s call = some (s', call', events)) :
    (∃ joins, call.phase = .notify joins ∧ s' = s.notifyOne ∧ events = []) ∨
    (call.phase = .join ∧ s' = { s with terminated := true } ∧ events = []) ∨
    (call.phase = .join ∧ s' = s ∧ s.worker = .exited ∧ events = [.noted .shutDown]) := by
  unfold pyThreads at h
  dsimp only at h
  split at h
  · cases h
  unfold PythonExecutor.advance at h
  split at h
  · rename_i joins hphase
    cases h
    exact .inl ⟨joins, hphase, rfl, rfl⟩
  · rename_i hphase
    split_ifs at h with hself hexited
    · cases h
      exact .inr (.inl ⟨hphase, rfl, rfl⟩)
    · cases h
      exact .inr (.inr ⟨hphase, rfl, hexited, rfl⟩)
  · cases h

end Dynabridge.Executor
