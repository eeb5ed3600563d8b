import Dynabridge.Executor.PythonInterpreterExecutor

/-!
# Every task of the Python executor runs once, in order, under the GIL

`PythonExecutor.Accounted` and `PythonExecutor.Ordered` say where the tasks are and in which
order they start; `PythonExecutor.Staged` says that no task of the worker itself ever waits and
that the worker ends with an empty queue.  `BatchOk` is what the worker has recorded of the
batch it has in hand.
-/

namespace Dynabridge.Executor

open Interleaving Handover

variable {worker : ℕ}

/-! ## Places and order -/

/-- The tasks that have not started: those of the batch and then those of the queue. -/
def PythonExecutor.waiting (s : PythonExecutor) : List Task := s.worker.unstarted ++ s.tasks

/-- What is true in each phase of the worker: it has announced itself once it has started,
user code runs only in the middle of a batch, and the worker ends with an empty queue. -/
def PythonExecutor.StageOk (worker : ℕ) (s : PythonExecutor) : Worker → Prop
  | .starting => s.workerId = none ∧ s.running = []
  | .checking | .asleep | .ensuring _ _ => s.workerId = some worker ∧ s.running = []
  | .executing _ _ _ | .clearing _ _ _ => s.workerId = some worker
  | .exited => s.workerId = some worker ∧ s.running = [] ∧ s.stopping = true ∧ s.tasks = []

/-- The phase of the worker is in order, and no task that the worker itself has dispatched
waits. -/
structure PythonExecutor.Staged (worker : ℕ) (s : PythonExecutor) : Prop where
  stage : s.StageOk worker s.worker
  foreign : ∀ t ∈ s.waiting, t.thread ≠ worker

/-- A thread that finds its own id is the worker. -/
lemma PythonExecutor.Staged.own_eq {s : PythonExecutor} (h : s.Staged worker) {thread : ℕ}
    (hown : s.workerId = some thread) : thread = worker := by
  have hstage := h.stage
  cases hphase : s.worker <;> simp [StageOk, hphase, hown] at hstage
  all_goals first | exact hstage | exact hstage.1

/-- The code that runs on the worker runs after the worker has announced itself. -/
lemma PythonExecutor.Staged.own_of_inside {s : PythonExecutor} (h : s.Staged worker)
    (hinside : s.running ≠ [] ∨ s.worker.isClearing = true) :
    s.workerId = some worker ∧
      ((∃ n batch rest, s.worker = .executing n batch rest) ∨
        ∃ n batch rest, s.worker = .clearing n batch rest) := by
  have hstage := h.stage
  cases hphase : s.worker with
  | executing n batch rest =>
    rw [hphase] at hstage
    exact ⟨hstage, .inl ⟨n, batch, rest, rfl⟩⟩
  | clearing n batch rest =>
    rw [hphase] at hstage
    exact ⟨hstage, .inr ⟨n, batch, rest, rfl⟩⟩
  | _ =>
    simp [StageOk, hphase, Worker.isClearing] at hstage hinside
    exact absurd (by simp [hstage]) hinside

lemma PythonExecutor.Obeys.staged {s s' : PythonExecutor} {new : List PyCall}
    {events : List (Event PyNote)} (h : s.Obeys worker s' new events) (hs : s.Staged worker) :
    s'.Staged worker := by
  have hstage := hs.stage
  have hforeign := hs.foreign
  cases h with
  | terminate | shutdownAgain => exact ⟨hstage, hforeign⟩
  | inline thread stopping own caller =>
    have hinside := hs.own_of_inside (caller.resolve_left (not_not.mpr (hs.own_eq own)))
    refine ⟨?_, hforeign⟩
    rcases hinside with ⟨hown, ⟨n, batch, rest, hphase⟩ | ⟨n, batch, rest, hphase⟩⟩ <;>
      simpa [StageOk, hphase] using hown
  | enqueue thread stopping foreign caller =>
    have hthread : thread ≠ worker := by
      rintro rfl
      exact foreign (hs.own_of_inside (caller.resolve_left (not_not.mpr rfl))).1
    refine ⟨?_, fun t ht => ?_⟩
    · cases hphase : s.worker with
      | exited => simp [StageOk, hphase, stopping] at hstage
      | _ => simpa [StageOk, hphase] using hstage
    · rw [waiting, ← List.append_assoc] at ht
      rcases List.mem_append.mp ht with hold | hnew
      · exact hforeign t hold
      · rw [List.mem_singleton.mp hnew]
        exact hthread
  | shutdown thread stopping =>
    refine ⟨?_, hforeign⟩
    cases hphase : s.worker with
    | exited => simp [StageOk, hphase, stopping] at hstage
    | _ => simpa [StageOk, hphase] using hstage
  | enter phase running =>
    refine ⟨⟨rfl, running⟩, ?_⟩
    simpa [waiting, phase, Worker.unstarted] using hforeign
  | take phase | exit phase | sleep phase | ensure n batch phase | endBatch n batch phase
  | release n batch phase | wake phase | destroy n batch task rest phase =>
    rw [phase] at hstage
    refine ⟨?_, ?_⟩
    · simp_all [StageOk]
    · simpa [waiting, phase, Worker.unstarted] using hforeign
  | execute n batch task rest phase running =>
    rw [phase] at hstage
    refine ⟨hstage, fun t ht => hforeign t ?_⟩
    rw [waiting, phase]
    exact List.mem_cons_of_mem task ht
  | taskReturns task rest running =>
    refine ⟨?_, hforeign⟩
    cases hphase : s.worker <;> simp_all [StageOk]

/-- The accepted tasks wait or have started. -/
abbrev PythonExecutor.Accounted (s : PythonExecutor) (log : List (Event PyNote)) : Prop :=
  Executor.Accounted s.accepted s.waiting s.running log

lemma PythonExecutor.Obeys.accounted {s s' : PythonExecutor} {new : List PyCall}
    {events log : List (Event PyNote)} (h : s.Obeys worker s' new events)
    (hs : s.Accounted log) : s'.Accounted (log ++ events) := by
  unfold PythonExecutor.Accounted at *
  cases h with
  | terminate | shutdown | shutdownAgain =>
    rw [List.append_nil]
    exact hs
  | inline thread => exact hs.inline thread
  | enqueue thread => simpa [waiting] using hs.enqueue thread
  | enter phase | exit phase | sleep phase | endBatch n batch phase | wake phase =>
    simpa [waiting, phase, Worker.unstarted] using hs
  | take phase | ensure n batch phase | destroy n batch task rest phase
  | release n batch phase => simpa [waiting, phase, Worker.unstarted] using hs.note _
  | execute n batch task rest phase running =>
    rw [waiting, phase, running] at hs
    exact hs.start
  | taskReturns task rest running =>
    rw [running] at hs
    exact hs.finish

/-- Every thread sees its tasks start in order.  The worker starts its own tasks in place, and
none of them waits. -/
lemma PythonExecutor.Obeys.ordered {s s' : PythonExecutor} {new : List PyCall}
    {events log : List (Event PyNote)} (h : s.Obeys worker s' new events)
    (hstaged : s.Staged worker) (hs : Ordered s.waiting log) :
    Ordered s'.waiting (log ++ events) := by
  cases h with
  | terminate | shutdown | shutdownAgain =>
    rw [List.append_nil]
    exact hs
  | inline thread stopping own =>
    refine hs.inline fun t ht => ?_
    rw [hstaged.own_eq own]
    exact hstaged.foreign t ht
  | enqueue thread => simpa [waiting] using hs.enqueue ⟨s.accepted, thread⟩
  | enter phase | exit phase | sleep phase | endBatch n batch phase | wake phase =>
    simpa [waiting, phase, Worker.unstarted] using hs
  | take phase | ensure n batch phase | destroy n batch task rest phase
  | release n batch phase => simpa [waiting, phase, Worker.unstarted] using hs.note _
  | execute n batch task rest phase =>
    rw [waiting, phase] at hs
    exact hs.start
  | taskReturns task => exact hs.finish task

/-- A call does what some command does, and may record its return. -/
lemma pyThreads_advance_obeys {i : ℕ} {s s' : PythonExecutor} {call call' : PyCall}
    {events : List (Event PyNote)}
    (h : (pyThreads worker).advance i s call = some (s', call', events)) :
    s.Obeys worker s' [] [] ∧
      (events = [] ∨ s'.worker = .exited ∧ events = [.noted .shutDown]) := by
  rcases pyThreads_advance_cases h with
    ⟨joins, -, rfl, rfl⟩ | ⟨-, rfl, rfl⟩ | ⟨-, rfl, hexited, rfl⟩
  · refine ⟨?_, .inl rfl⟩
    unfold PythonExecutor.notifyOne
    split_ifs with hasleep
    · exact .wake hasleep
    · exact .shutdownAgain
  · exact ⟨.terminate, .inl rfl⟩
  · exact ⟨.shutdownAgain, .inr ⟨hexited, rfl⟩⟩

/-- What every command keeps, and the record of a joined worker, is true in every run. -/
lemma PySystem.Reachable.global {s : PySystem} (h : s.Reachable worker)
    {G : PythonExecutor → List (Event PyNote) → Prop} (init : G .construct [])
    (step : ∀ s s' new events log, s.Obeys worker s' new events → G s log →
      G s' (log ++ events))
    (joined : ∀ s log, s.worker = .exited → G s log → G s (log ++ [.noted .shutDown])) :
    G s.shared s.log := by
  refine h.global_invariant init ?_ ?_
  · intro s i call sh call' events _ hs hadv
    obtain ⟨hobeys, rfl | ⟨hexited, rfl⟩⟩ := pyThreads_advance_obeys hadv
    · exact step _ _ _ _ _ hobeys hs
    · refine joined sh s.log hexited ?_
      have hsame := step _ _ _ _ _ hobeys hs
      rwa [List.append_nil] at hsame
  · intro s k sh new events _ hs hcmd
    exact step _ _ _ _ _ (PythonExecutor.command_obeys hcmd) hs

lemma PythonExecutor.staged_construct : construct.Staged worker :=
  ⟨⟨rfl, rfl⟩, by simp [waiting, construct, Worker.unstarted]⟩

lemma PySystem.Reachable.staged {s : PySystem} (h : s.Reachable worker) :
    s.shared.Staged worker :=
  h.global (G := fun s _ => s.Staged worker) PythonExecutor.staged_construct
    (fun _ _ _ _ _ hobeys hs => hobeys.staged hs) fun _ _ _ hs => hs

lemma PySystem.Reachable.accounted {s : PySystem} (h : s.Reachable worker) :
    s.shared.Accounted s.log :=
  h.global (G := PythonExecutor.Accounted) .empty
    (fun _ _ _ _ _ hobeys hs => hobeys.accounted hs) fun _ _ _ hs => hs.note _

lemma PySystem.Reachable.startsInOrder {s : PySystem} (h : s.Reachable worker) :
    StartsInOrder s.log := by
  have hordered := h.global (G := fun s log => s.Staged worker ∧ Ordered s.waiting log)
    ⟨PythonExecutor.staged_construct, .empty⟩
    (fun _ _ _ _ _ hobeys hs => ⟨hobeys.staged hs.1, hobeys.ordered hs.1 hs.2⟩)
    fun _ _ _ hs => ⟨hs.1, hs.2.note _⟩
  exact hordered.2.startsInOrder h.accounted.numbered.nodup

/-! ## Wake-ups -/

/-- While the worker sleeps although there is something to do, a call is about to notify it. -/
lemma PySystem.Reachable.notify_obligation {s : PySystem} (h : s.Reachable worker)
    (hasleep : s.shared.worker = .asleep)
    (hready : s.shared.stopping = true ∨ s.shared.tasks ≠ []) :
    ∃ call ∈ s.procs, ∃ joins, call.phase = .notify joins := by
  refine Program.Reachable.obligation
    (fun s _ => s.worker = .asleep ∧ (s.stopping = true ∨ s.tasks ≠ []))
    (fun call : PyCall => ∃ joins, call.phase = .notify joins) ?_ ?_ ?_ h ⟨hasleep, hready⟩
  · rintro ⟨hconstruct, -⟩
    cases hconstruct
  · rintro s i call sh call' events - hadv ⟨hphase, hready⟩
    rcases pyThreads_advance_cases hadv with
      ⟨joins, -, rfl, -⟩ | ⟨hjoin, rfl, -⟩ | ⟨hjoin, rfl, -, -⟩
    · unfold PythonExecutor.notifyOne at hphase
      split_ifs at hphase with hasleep
      exact absurd hphase hasleep
    · exact .inr ⟨⟨hphase, hready⟩, by simp [hjoin]⟩
    · exact .inr ⟨⟨hphase, hready⟩, by simp [hjoin]⟩
  · rintro s k sh new events - hcmd ⟨hphase, hready⟩
    cases PythonExecutor.command_obeys hcmd with
    | enqueue thread => exact .inl ⟨_, List.mem_singleton.mpr rfl, false, rfl⟩
    | shutdown thread => exact .inl ⟨_, List.mem_singleton.mpr rfl, true, rfl⟩
    | sleep phase running empty stopping =>
      rcases hready with hstopping | htasks
      · rw [stopping] at hstopping
        cases hstopping
      · exact absurd empty htasks
    | terminate | inline | shutdownAgain | taskReturns => exact .inr ⟨hphase, hready⟩
    | _ => cases hphase

/-- When nothing happens any more by itself, the worker waits with nothing to do, or has
ended. -/
lemma PySystem.Quiescent.worker_cases {s : PySystem} (hq : s.Quiescent worker)
    (h : s.Reachable worker) :
    s.shared.running = [] ∧
      (s.shared.worker = .asleep ∧ s.shared.stopping = false ∧ s.shared.tasks = [] ∨
        s.shared.worker = .exited) := by
  obtain ⟨hterminated, hcalls, hresume⟩ := hq
  have hnotify : ∀ call ∈ s.procs, ∀ joins, call.phase ≠ .notify joins := by
    intro call hmem joins hphase
    have hnone := hcalls 0 call hmem
    simp [pyThreads, hterminated, PythonExecutor.advance, hphase] at hnone
  -- a call on the worker itself has a next step, so that the worker is in none
  have hidle : notCalling worker s.procs = true := by
    refine List.all_eq_true.mpr fun call hmem => ?_
    have hnone := hcalls 0 call hmem
    rw [Bool.or_eq_true, decide_eq_true_iff, decide_eq_true_iff]
    cases hphase : call.phase with
    | notify joins => exact absurd hphase (hnotify call hmem joins)
    | join =>
      refine .inl fun hthread => ?_
      simp [pyThreads, hterminated, PythonExecutor.advance, hphase, hthread] at hnone
    | returned => exact .inr rfl
  simp only [pyThreads, PythonExecutor.command, hterminated, hidle, Bool.not_false,
    Bool.and_self, if_true, Option.map_eq_none_iff] at hresume
  cases hrunning : s.shared.running with
  | cons task rest => simp [PythonExecutor.resume, hrunning] at hresume
  | nil =>
    refine ⟨rfl, ?_⟩
    simp only [PythonExecutor.resume, hrunning] at hresume
    split at hresume <;> try cases hresume
    · rename_i hasleep
      have hready : ¬ (s.shared.stopping = true ∨ s.shared.tasks ≠ []) := by
        intro hready
        obtain ⟨call, hmem, joins, hphase⟩ := h.notify_obligation hasleep hready
        exact hnotify call hmem joins hphase
      rw [not_or, not_not, Bool.not_eq_true] at hready
      exact .inl ⟨hasleep, hready⟩
    · exact .inr (by assumption)

end Dynabridge.Executor
