import Dynabridge.Executor.Task

/-!
# The uv executor

`uv_executor` queues tasks for the thread of a libuv loop.  The steps of a run are its locked
sections, together with what the same thread does up to its next one: a `dispatch`, which
queues the task or starts it in place; the section of a `close`, whose `uv_async_send` is a step
of its own because the lock has been released by then; the section of `on_async`, which moves a
round out of the queue; and the steps of the loop thread through that round.

Of libuv it is assumed only that a callback answers some of the sends made before it, so that
sends may coalesce, and that no callback starts once `uv_close` was called.  What a task does
besides dispatching and closing is not observable here.
-/

namespace Dynabridge.Executor

open Interleaving

/-- `max_tasks_per_round` -/
def maxTasksPerRound : ℕ := 16

/-- What else is recorded: the tasks that an invocation of `on_async` takes, and the deletion
of the state. -/
inductive UvNote
  | round (tasks : List Task)
  | deleted
  deriving DecidableEq

/-- The locals of `on_async` after its section; of `round` the tasks that have not started. -/
structure OnAsync where
  round : List Task
  rearm : Bool
  close : Bool
  deriving DecidableEq

/-- The `uv_async_t`, up to the deletion of the state it is part of. -/
inductive AsyncHandle
  | active
  | closing
  | deleted
  deriving DecidableEq

/-- The executor and its `state_t`, with the loop thread and the wake-ups of libuv. -/
structure UvExecutor where
  /-- `state_` is not null. -/
  attached : Bool
  tasks : List Task
  closing : Bool
  handle : AsyncHandle
  /-- The calls of `uv_async_send` that no callback has answered. -/
  wakeUps : ℕ
  /-- The invocation of `on_async` in progress. -/
  callback : Option OnAsync
  /-- The tasks that the loop thread is executing, the innermost first. -/
  running : List Task
  accepted : ℕ
  terminated : Bool
  deriving DecidableEq

/-- The constructor. -/
def UvExecutor.construct : UvExecutor where
  attached := true
  tasks := []
  closing := false
  handle := .active
  wakeUps := 0
  callback := none
  running := []
  accepted := 0
  terminated := false

/-- A call of `close` that has left its section, and whether it has made its `uv_async_send`. -/
structure CloseCall where
  thread : ℕ
  sent : Bool
  deriving DecidableEq

/-- The thread is not in a call of `close`. -/
def notClosing (thread : ℕ) (calls : List CloseCall) : Bool :=
  calls.all fun call => decide (call.thread ≠ thread) || call.sent

/-- The tasks of the round in progress that have not started. -/
def UvExecutor.round (s : UvExecutor) : List Task := s.callback.elim [] OnAsync.round

/-- An invocation of `on_async` is in progress that will send again or close the handle. -/
def UvExecutor.willWake (s : UvExecutor) : Bool :=
  s.callback.any fun c => c.rearm || c.close

section

variable (loopThread : ℕ)

/-- Whether user code of a thread can call the executor: on the loop thread that is the code
around the loop and the code of the tasks. -/
def UvExecutor.mayCall (s : UvExecutor) (thread : ℕ) (calls : List CloseCall) : Bool :=
  !s.terminated && notClosing thread calls &&
    (decide (thread ≠ loopThread) || s.callback.isNone || !s.running.isEmpty)

/-- `dispatch` -/
def UvExecutor.dispatch (s : UvExecutor) (thread : ℕ) : UvExecutor × List (Event UvNote) :=
  if !s.attached || s.closing then ({ s with terminated := true }, [])
  else
    let task : Task := ⟨s.accepted, thread⟩
    if thread = loopThread ∧ s.tasks = [] then
      ({ s with accepted := s.accepted + 1, running := task :: s.running },
        [.dispatched task, .started task])
    else
      ({ s with
          accepted := s.accepted + 1
          tasks := s.tasks ++ [task]
          wakeUps := s.wakeUps + 1 },
        [.dispatched task])

/-- `close` up to the end of its section. -/
def UvExecutor.close (s : UvExecutor) (thread : ℕ) : UvExecutor × List CloseCall :=
  if s.attached then ({ s with attached := false, closing := true }, [⟨thread, false⟩])
  else (s, [])

/-- The `uv_async_send` of `close`.  On a handle that was deleted it is undefined. -/
def UvExecutor.sendClose (s : UvExecutor) (call : CloseCall) : Option (UvExecutor × CloseCall) :=
  if call.sent then none
  else
    match s.handle with
    | .active => some ({ s with wakeUps := s.wakeUps + 1 }, { call with sent := true })
    | .closing => some (s, { call with sent := true })
    | .deleted => none

/-- The section of `on_async`. -/
def UvExecutor.onAsync (s : UvExecutor) (answered : ℕ) : UvExecutor × List (Event UvNote) :=
  let round := s.tasks.take maxTasksPerRound
  let tasks := s.tasks.drop maxTasksPerRound
  let rearm := !tasks.isEmpty
  let close := s.closing && !rearm
  ({ s with
      tasks := tasks
      wakeUps := s.wakeUps - answered
      callback := some ⟨round, rearm, close⟩ },
    [.noted (.round round)])

/-- The end of `on_async`. -/
def UvExecutor.endAsync (s : UvExecutor) (c : OnAsync) : UvExecutor :=
  if c.rearm then { s with callback := none, wakeUps := s.wakeUps + 1 }
  else if c.close then { s with callback := none, handle := .closing }
  else { s with callback := none }

/-- What the loop thread does on its own. -/
inductive LoopStep
  /-- libuv calls `on_async`, which answers so many of the sends before it. -/
  | onAsync (answered : ℕ)
  /-- `on_async` starts the next task of its round, or returns after the last one. -/
  | resume
  /-- The innermost task returns. -/
  | taskReturns
  /-- libuv calls `on_closed`. -/
  | onClosed
  deriving DecidableEq

/-- The next step of the loop thread, when it is not in a call of `close`. -/
def UvExecutor.loop (s : UvExecutor) : LoopStep → Option (UvExecutor × List (Event UvNote))
  | .onAsync answered =>
    if s.handle = .active ∧ s.callback = none ∧ s.running = [] ∧ answered ≤ s.wakeUps then
      some (s.onAsync answered)
    else none
  | .resume =>
    match s.callback, s.running with
    | some c, [] =>
      match c.round with
      | [] => some (s.endAsync c, [])
      | task :: round =>
        some ({ s with callback := some { c with round := round }, running := [task] },
          [.started task])
    | _, _ => none
  | .taskReturns =>
    match s.running with
    | [] => none
    | task :: running => some ({ s with running := running }, [.finished task])
  | .onClosed =>
    if s.handle = .closing ∧ s.callback = none ∧ s.running = [] then
      some ({ s with handle := .deleted }, [.noted .deleted])
    else none

/-- What happens besides the sends of `close`. -/
inductive UvCommand
  | dispatch (thread : ℕ)
  | close (thread : ℕ)
  | loop (step : LoopStep)
  deriving DecidableEq

/-- The effect of a command. -/
def UvExecutor.command (s : UvExecutor) (calls : List CloseCall) :
    UvCommand → Option (UvExecutor × List CloseCall × List (Event UvNote))
  | .dispatch thread =>
    if s.mayCall loopThread thread calls then
      match s.dispatch loopThread thread with
      | (s', events) => some (s', [], events)
    else none
  | .close thread =>
    if s.mayCall loopThread thread calls then
      match s.close thread with
      | (s', calls) => some (s', calls, [])
    else none
  | .loop step =>
    if !s.terminated && notClosing loopThread calls then
      (s.loop step).map fun (s', events) => (s', [], events)
    else none

/-- The threads that use an executor. -/
def uvThreads : Program UvExecutor CloseCall UvCommand (Event UvNote) where
  advance _ s call :=
    if s.terminated then none
    else (s.sendClose call).map fun (s', call') => (s', call', [])
  command k s calls := s.command loopThread calls k

end

/-- An executor with the calls of `close`. -/
abbrev UvSystem := Pool UvExecutor CloseCall (Event UvNote)

/-- A new executor. -/
def UvSystem.start : UvSystem := ⟨.construct, [], []⟩

/-- A system that some run reaches. -/
abbrev UvSystem.Reachable (loopThread : ℕ) (s : UvSystem) : Prop :=
  (uvThreads loopThread).Reachable UvSystem.start s

/-! ## What a command does -/

/-- Everything a command can do, with the guards that later proofs need. -/
inductive UvExecutor.Obeys (loopThread : ℕ) (s : UvExecutor) :
    UvCommand → UvExecutor → List CloseCall → List (Event UvNote) → Prop
  | terminate (thread : ℕ) (refused : (!s.attached || s.closing) = true) :
    Obeys loopThread s (.dispatch thread) { s with terminated := true } [] []
  | inline (attached : s.attached = true) (closing : s.closing = false)
      (empty : s.tasks = []) :
    Obeys loopThread s (.dispatch loopThread)
      { s with
        accepted := s.accepted + 1
        running := ⟨s.accepted, loopThread⟩ :: s.running }
      [] [.dispatched ⟨s.accepted, loopThread⟩, .started ⟨s.accepted, loopThread⟩]
  | enqueue (thread : ℕ) (attached : s.attached = true) (closing : s.closing = false)
      (queued : ¬ (thread = loopThread ∧ s.tasks = [])) :
    Obeys loopThread s (.dispatch thread)
      { s with
        accepted := s.accepted + 1
        tasks := s.tasks ++ [⟨s.accepted, thread⟩]
        wakeUps := s.wakeUps + 1 }
      [] [.dispatched ⟨s.accepted, thread⟩]
  | close (thread : ℕ) (attached : s.attached = true) :
    Obeys loopThread s (.close thread) { s with attached := false, closing := true }
      [⟨thread, false⟩] []
  | closeAgain (thread : ℕ) (attached : s.attached = false) :
    Obeys loopThread s (.close thread) s [] []
  | onAsync (answered : ℕ) (handle : s.handle = .active) (callback : s.callback = none)
      (running : s.running = []) :
    Obeys loopThread s (.loop (.onAsync answered)) (s.onAsync answered).1 []
      [.noted (.round (s.tasks.take maxTasksPerRound))]
  | endAsync (c : OnAsync) (callback : s.callback = some c) (round : c.round = [])
      (running : s.running = []) :
    Obeys loopThread s (.loop .resume) (s.endAsync c) [] []
  | start (c : OnAsync) (task : Task) (round : List Task) (callback : s.callback = some c)
      (next : c.round = task :: round) (running : s.running = []) :
    Obeys loopThread s (.loop .resume)
      { s with callback := some { c with round := round }, running := [task] } []
      [.started task]
  | taskReturns (task : Task) (rest : List Task) (running : s.running = task :: rest) :
    Obeys loopThread s (.loop .taskReturns) { s with running := rest } [] [.finished task]
  | onClosed (handle : s.handle = .closing) (callback : s.callback = none)
      (running : s.running = []) :
    Obeys loopThread s (.loop .onClosed) { s with handle := .deleted } [] [.noted .deleted]

lemma UvExecutor.dispatch_obeys (loopThread : ℕ) (s : UvExecutor) (thread : ℕ) :
    s.Obeys loopThread (.dispatch thread) (s.dispatch loopThread thread).1 []
      (s.dispatch loopThread thread).2 := by
  unfold dispatch
  split
  · rename_i hrefused
    exact .terminate thread hrefused
  · rename_i hopen
    simp only [Bool.or_eq_true, Bool.not_eq_true', not_or, Bool.not_eq_false,
      Bool.not_eq_true] at hopen
    dsimp only
    split
    · rename_i hinline
      obtain ⟨rfl, hempty⟩ := hinline
      exact .inline hopen.1 hopen.2 hempty
    · rename_i hqueued
      exact .enqueue thread hopen.1 hopen.2 hqueued

lemma UvExecutor.loop_obeys {loopThread : ℕ} {s s' : UvExecutor} {step : LoopStep}
    {events : List (Event UvNote)} (h : s.loop step = some (s', events)) :
    s.Obeys loopThread (.loop step) s' [] events := by
  cases step with
  | onAsync answered =>
    unfold loop at h
    dsimp only at h
    split at h
    · rename_i hguard
      obtain ⟨hhandle, hcallback, hrunning, -⟩ := hguard
      cases h
      exact .onAsync answered hhandle hcallback hrunning
    · cases h
  | resume =>
    unfold loop at h
    dsimp only at h
    split at h
    · rename_i c hcallback hrunning
      split at h
      · rename_i hround
        cases h
        exact .endAsync c hcallback hround hrunning
      · rename_i task round hnext
        cases h
        exact .start c task round hcallback hnext hrunning
    · cases h
  | taskReturns =>
    unfold loop at h
    dsimp only at h
    split at h
    · cases h
    · rename_i task rest hrunning
      cases h
      exact .taskReturns task rest hrunning
  | onClosed =>
    unfold loop at h
    dsimp only at h
    split at h
    · rename_i hguard
      obtain ⟨hhandle, hcallback, hrunning⟩ := hguard
      cases h
      exact .onClosed hhandle hcallback hrunning
    · cases h

/-- A command does one of these things. -/
theorem UvExecutor.command_obeys {loopThread : ℕ} {s s' : UvExecutor} {calls new : List CloseCall}
    {k : UvCommand} {events : List (Event UvNote)}
    (h : s.command loopThread calls k = some (s', new, events)) :
    s.Obeys loopThread k s' new events := by
  cases k with
  | dispatch thread =>
    unfold command at h
    dsimp only at h
    split at h
    · cases h
      exact dispatch_obeys loopThread s thread
    · cases h
  | close thread =>
    unfold command UvExecutor.close at h
    dsimp only at h
    split at h
    · by_cases hattached : s.attached = true
      · rw [if_pos hattached] at h
        cases h
        exact .close thread hattached
      · rw [if_neg hattached] at h
        cases h
        exact .closeAgain thread (eq_false_of_ne_true hattached)
    · cases h
  | loop step =>
    unfold command at h
    dsimp only at h
    split at h
    · obtain ⟨⟨t, events'⟩, hloop, heq⟩ := Option.map_eq_some_iff.mp h
      cases heq
      exact loop_obeys hloop
    · cases h

/-- The send of a `close` wakes an active handle and does nothing on one that is closing. -/
lemma uvThreads_advance_cases {loopThread i : ℕ} {s s' : UvExecutor} {call call' : CloseCall}
    {events : List (Event UvNote)}
    (h : (uvThreads loopThread).advance i s call = some (s', call', events)) :
    call.sent = false ∧ call' = { call with sent := true } ∧ events = [] ∧
      (s.handle = .active ∧ s' = { s with wakeUps := s.wakeUps + 1 } ∨
        s.handle = .closing ∧ s' = s) := by
  unfold uvThreads at h
  dsimp only at h
  split at h
  · cases h
  obtain ⟨⟨t, call''⟩, hsend, heq⟩ := Option.map_eq_some_iff.mp h
  cases heq
  unfold UvExecutor.sendClose at hsend
  split at hsend
  · cases hsend
  · rename_i hsent
    refine ⟨eq_false_of_ne_true hsent, ?_⟩
    split at hsend
    · rename_i hhandle
      cases hsend
      exact ⟨rfl, rfl, .inl ⟨hhandle, rfl⟩⟩
    · rename_i hhandle
      cases hsend
      exact ⟨rfl, rfl, .inr ⟨hhandle, rfl⟩⟩
    · cases hsend

end Dynabridge.Executor
