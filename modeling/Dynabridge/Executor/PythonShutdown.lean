import Dynabridge.Executor.PythonGil

/-!
# The shutdown of the Python executor does not deadlock

`GilSystem.work` bounds what the calls and the worker can still do by themselves.  When they are
stuck, every call has returned, or a thread outside of the executor keeps the GIL.
-/

namespace Dynabridge.Executor

open Interleaving

variable {worker : ℕ}

/-! ## What is left to do -/

/-- How many steps a call takes, and how many the worker takes because of it. -/
def GilPhase.work : GilPhase → ℕ
  | .notify joins => if joins then 5 else 2
  | .save => 3
  | .join _ => 2
  | .restore _ => 1
  | .returned => 0

/-- How many steps the worker takes before it sleeps or ends, without new tasks. -/
def Worker.work : Worker → ℕ
  | .starting => 2
  | .checking => 1
  | .asleep | .exited => 0
  | .ensuring _ batch => 4 + 3 * batch.length
  | .executing _ batch rest => 3 + batch.length + 2 * rest.length
  | .clearing _ _ rest => 2 + rest.length

def PythonExecutor.work (s : PythonExecutor) : ℕ :=
  s.worker.work + 7 * s.tasks.length + s.running.length

/-- How many steps the calls and the worker can still take by themselves. -/
def GilSystem.work (s : GilSystem) : ℕ :=
  s.shared.executor.work + s.shared.lent.toNat + (s.procs.map fun call => call.phase.work).sum

lemma PythonExecutor.work_notifyOne (s : PythonExecutor) : s.notifyOne.work ≤ s.work + 1 := by
  unfold notifyOne
  split_ifs with hasleep
  · simp only [work, hasleep, Worker.work]
    omega
  · exact Nat.le_succ _

/-- Every step of the worker is one step less to do. -/
lemma PythonExecutor.work_resume {s s' : PythonExecutor} {events : List (Event PyNote)}
    (h : s.resume worker = some (s', events)) : s'.work < s.work := by
  unfold resume at h
  split at h
  · rename_i task rest hrunning
    cases h
    simp only [work, hrunning, List.length_cons]
    omega
  · rename_i hrunning
    split at h <;> rename_i hphase
    · cases h
      simp only [work, hphase, Worker.work]
      omega
    · unfold check at h
      split_ifs at h with hready hexit <;> cases h <;> simp only [work, hphase, Worker.work]
      · omega
      · have hqueued : s.tasks ≠ [] := by
          intro hempty
          have hstopping : s.stopping = true := by simpa [hempty] using hready
          simp [hempty, hstopping] at hexit
        have hpos := List.length_pos_iff.mpr hqueued
        simp only [List.length_nil]
        omega
      · omega
    · cases h
      simp only [work, hphase, Worker.work]
      omega
    · cases h
      simp only [work, hphase, hrunning, Worker.work, List.length_cons, List.length_nil]
      omega
    · cases h
      simp only [work, hphase, Worker.work, List.length_nil]
      omega
    · cases h
      simp only [work, hphase, Worker.work, List.length_cons]
      omega
    · cases h
      simp only [work, hphase, Worker.work, List.length_nil]
      omega
    · cases h
    · cases h

/-- A step of a call is one step less to do. -/
lemma GilExecutor.Moves.work {g g' : GilExecutor} {call call' : GilCall}
    {events : List (Event PyNote)} (h : g.Moves worker call g' call' events) :
    g'.executor.work + g'.lent.toNat + call'.phase.work <
      g.executor.work + g.lent.toNat + call.phase.work := by
  cases h with
  | notify joins phase =>
    have hle := g.executor.work_notifyOne
    cases joins <;> simp [phase, GilPhase.work] <;> omega
  | joinItself phase | save phase | skip phase | join released phase | restore phase
  | leave phase =>
    simp [phase, GilPhase.work, PythonExecutor.work]

/-- A step of the worker. -/
lemma executor_resume {g g' : GilExecutor} {calls new : List GilCall}
    {events : List (Event PyNote)}
    (h : (gilThreads worker).command (.executor .resume) g calls = some (g', new, events)) :
    ∃ e, g.executor.resume worker = some (e, events) ∧
      g' = ⟨e, g.holderAfter worker .resume, g.lent⟩ ∧ new = [] := by
  simp only [gilThreads, GilExecutor.command, PythonExecutor.command] at h
  split_ifs at h with hallowed hguard
  · obtain ⟨⟨e, new', events'⟩, hmap, heq⟩ := Option.map_eq_some_iff.mp h
    obtain ⟨⟨e', events''⟩, hresume, heq'⟩ := Option.map_eq_some_iff.mp hmap
    cases heq'
    cases heq
    exact ⟨e', hresume, rfl, rfl⟩
  · cases h

/-- User code on the worker takes back what it has released. -/
lemma executor_takeBack {g g' : GilExecutor} {calls new : List GilCall}
    {events : List (Event PyNote)}
    (h : (gilThreads worker).command .takeBack g calls = some (g', new, events)) :
    g.lent = true ∧ g' = { g with holder := some worker, lent := false } ∧ new = [] := by
  simp only [gilThreads, GilExecutor.command] at h
  split_ifs at h with hguard
  simp only [Bool.and_eq_true] at hguard
  cases h
  exact ⟨hguard.1.2, rfl, rfl⟩

namespace GilSystem

variable {s s' : GilSystem}

/-- What happens by itself is one step less to do. -/
lemma work_internal {c : Choice GilCommand} (hinternal : internal c = true)
    (h : (gilThreads worker).perform s c = some s') : s'.work < s.work := by
  cases c with
  | advance i =>
    obtain ⟨call, g, call', events, hcall, hadv, rfl⟩ := Program.perform_advance h
    have hmoves := (gilThreads_advance_cases hadv).2.work
    have hset := Program.sum_map_set call' (fun c => c.phase.work) hcall
    simp only [work] at hset ⊢
    omega
  | command k =>
    obtain ⟨g, new, events, hcmd, rfl⟩ := Program.perform_command h
    cases k with
    | executor k =>
      cases k with
      | resume =>
        obtain ⟨e, hresume, rfl, rfl⟩ := executor_resume hcmd
        have hlt := PythonExecutor.work_resume hresume
        simp only [work, List.append_nil]
        omega
      | _ => cases hinternal
    | takeBack =>
      obtain ⟨hlent, rfl, rfl⟩ := executor_takeBack hcmd
      simp [work, hlent]
    | _ => cases hinternal

/-! ## When nothing happens by itself -/

/-- Nothing happens by itself. -/
def Stuck (worker : ℕ) (s : GilSystem) : Prop :=
  ∀ c, internal c = true → (gilThreads worker).perform s c = none

/-- A call that is stuck has returned, or is a `shutdown` of another thread that waits for the
worker to end or for the GIL. -/
lemma Stuck.call (hstuck : s.Stuck worker) (hkept : s.Kept worker)
    (hrunning : s.shared.executor.terminated = false) {call : GilCall} (hmem : call ∈ s.procs) :
    call.phase = .returned ∨ (call.thread ≠ worker ∧ s.shared.holder ≠ some call.thread ∧
      s.shared.executor.stopping = true ∧
      ((∃ released, call.phase = .join released) ∧ s.shared.executor.worker ≠ .exited ∨
        call.phase = .restore true ∧ s.shared.holder ≠ none)) := by
  obtain ⟨i, hcall⟩ := List.mem_iff_getElem?.mp hmem
  have hok := hkept.call i call hcall
  unfold GilExecutor.CallOk at hok
  have hnone : (gilThreads worker).advance i s.shared call = none := by
    have hperform := hstuck (.advance i) rfl
    refine Option.eq_none_iff_forall_ne_some.mpr fun r hr => ?_
    simp [Program.perform, hcall, hr] at hperform
  simp only [gilThreads, hrunning, GilExecutor.advance, Bool.false_eq_true, if_false] at hnone
  cases hphase : call.phase with
  | notify joins => simp [hphase] at hnone
  | save =>
    simp only [hphase] at hnone
    split_ifs at hnone
  | join released =>
    rw [hphase] at hok
    refine .inr ⟨hok.2.1, hok.2.2.1, hok.2.2.2, .inl ⟨⟨released, rfl⟩, fun hexited => ?_⟩⟩
    simp [hphase, hexited] at hnone
  | restore released =>
    rw [hphase] at hok
    cases released with
    | true =>
      refine .inr ⟨hok.2.1, hok.2.2.1, hok.2.2.2, .inr ⟨rfl, fun hfree => ?_⟩⟩
      simp [hphase, hfree] at hnone
    | false => simp [hphase] at hnone
  | returned => exact .inl rfl

/-- The worker, and a thread that holds the GIL, are in no call when the calls are stuck. -/
lemma Stuck.notBusy (hstuck : s.Stuck worker) (hkept : s.Kept worker)
    (hrunning : s.shared.executor.terminated = false) {thread : ℕ}
    (hthread : thread = worker ∨ s.shared.holder = some thread) :
    Executor.notBusy thread s.procs = true := by
  refine List.all_eq_true.mpr fun call hmem => ?_
  rw [Bool.or_eq_true, decide_eq_true_iff, decide_eq_true_iff]
  rcases hstuck.call hkept hrunning hmem with hphase | ⟨hne, hnot, -⟩
  · exact .inr hphase
  · refine .inl fun heq => ?_
    rcases hthread with hself | hholds
    · exact hne (heq.trans hself)
    · exact hnot (heq ▸ hholds)

/-- A worker that waits for nobody's GIL goes on. -/
lemma Stuck.resume (hstuck : s.Stuck worker) (hkept : s.Kept worker)
    (hrunning : s.shared.executor.terminated = false)
    (hholder : s.shared.holder = none ∨ s.shared.holder = some worker) :
    s.shared.executor.resume worker = none := by
  have hidle := hstuck.notBusy hkept hrunning (.inl rfl)
  -- what was lent would be taken back
  have hinside : s.shared.executor.worker.isInside = true → s.shared.holder = some worker := by
    intro hinside
    rcases hholder with hfree | hholds
    · refine hkept.holds.inside hinside (eq_false_of_ne_true fun hlent => ?_)
      have hperform := hstuck (.command .takeBack) rfl
      simp [Program.perform, gilThreads, GilExecutor.command, hrunning, hidle, hlent, hfree]
        at hperform
    · exact hholds
  have houtside : s.shared.executor.worker.isInside = false → s.shared.holder = none := by
    intro houtside
    refine hholder.resolve_right fun hholds => ?_
    rw [(hkept.holds.outside hholds).2] at houtside
    cases houtside
  have hallowed : s.shared.allows worker s.procs .resume = true := by
    unfold GilExecutor.allows
    dsimp only
    split <;> rename_i hphase
    · exact Option.isNone_iff_eq_none.mpr (houtside (by rw [hphase]; rfl))
    all_goals first | rfl | exact decide_eq_true (hinside (by rw [hphase]; rfl))
  refine Option.eq_none_iff_forall_ne_some.mpr fun r hr => ?_
  have hperform := hstuck (.command (.executor .resume)) rfl
  have hcalling := notCalling_of_notBusy hidle
  simp [Program.perform, gilThreads, GilExecutor.command, hallowed, PythonExecutor.command,
    hrunning, hcalling, hr] at hperform

/-- When nothing happens by itself, every call has returned, and the worker sleeps or has ended,
or another thread keeps the GIL. -/
lemma Stuck.cases (hstuck : s.Stuck worker) (h : s.Reachable worker)
    (hrunning : s.shared.executor.terminated = false) :
    (∃ thread, thread ≠ worker ∧ s.shared.holder = some thread ∧
      Executor.notBusy thread s.procs = true) ∨
    ((∀ call ∈ s.procs, call.phase = .returned) ∧ s.shared.executor.running = [] ∧
      (s.shared.executor.worker = .asleep ∧ s.shared.executor.stopping = false ∧
        s.shared.executor.tasks = [] ∨ s.shared.executor.worker = .exited)) := by
  have hkept := h.kept
  by_cases hother : ∃ thread, thread ≠ worker ∧ s.shared.holder = some thread
  · obtain ⟨thread, hne, hholds⟩ := hother
    exact .inl ⟨thread, hne, hholds, hstuck.notBusy hkept hrunning (.inr hholds)⟩
  have hholder : s.shared.holder = none ∨ s.shared.holder = some worker := by
    rcases hcase : s.shared.holder with _ | thread
    · exact .inl rfl
    · by_cases hself : thread = worker
      · exact .inr (congrArg some hself)
      · exact absurd ⟨thread, hself, hcase⟩ hother
  right
  have hresume := hstuck.resume hkept hrunning hholder
  have hquiescent : s.toPySystem.Quiescent worker := by
    refine ⟨hrunning, fun i pyCall hmem => ?_, ?_⟩
    · obtain ⟨call, hcall, rfl⟩ := List.mem_map.mp hmem
      simp only [pyThreads, toPySystem, hrunning, Bool.false_eq_true, if_false]
      rcases hstuck.call hkept hrunning hcall with
        hphase | ⟨hne, -, -, ⟨⟨released, hphase⟩, hnot⟩ | ⟨hphase, -⟩⟩ <;>
        simp [PythonExecutor.advance, GilCall.toPyCall, GilPhase.toCallPhase, *]
    · simp [pyThreads, toPySystem, PythonExecutor.command, hresume]
  obtain ⟨hnone, hworker⟩ := hquiescent.worker_cases h.toPySystem
  refine ⟨fun call hmem => ?_, hnone, hworker⟩
  -- nobody keeps a `shutdown` from returning
  rcases hstuck.call hkept hrunning hmem with
    hphase | ⟨-, -, hstopping, ⟨-, hnot⟩ | ⟨-, hheld⟩⟩
  · exact hphase
  · rcases hworker with ⟨-, hgoing, -⟩ | hexited
    · exact absurd (hgoing.symm.trans hstopping) (by simp)
    · exact absurd hexited hnot
  · have hinside : s.toPySystem.shared.worker.isInside = true :=
      (hkept.holds.outside (hholder.resolve_left hheld)).2
    rcases hworker with ⟨hphase, -⟩ | hphase
    · rw [hphase] at hinside
      cases hinside
    · rw [hphase] at hinside
      cases hinside

/-- A call that returns leaves the GIL to its thread exactly when it was made with the GIL. -/
lemma Kept.returns (hkept : s.Kept worker) {i : ℕ} {call call' : GilCall}
    (hcall : s.procs[i]? = some call) (h : (gilThreads worker).perform s (.advance i) = some s')
    (hcall' : s'.procs[i]? = some call') (hreturned : call'.phase = .returned)
    (hrunning : s'.shared.executor.terminated = false) :
    s'.shared.holder = some call.thread ↔ call.held = true := by
  obtain ⟨c, g, c', events, hc, hadv, rfl⟩ := Program.perform_advance h
  obtain rfl := Option.some.inj (hcall.symm.trans hc)
  have hok := hkept.call i call hcall
  unfold GilExecutor.CallOk at hok
  obtain rfl : c' = call' := by
    rcases Program.getElem?_set_cases hcall' with ⟨-, heq⟩ | ⟨hne, -⟩
    · exact heq.symm
    · exact absurd rfl hne
  cases (gilThreads_advance_cases hadv).2 with
  | notify joins phase =>
    rw [phase] at hok
    exact hok.1.symm
  | joinItself => cases hrunning
  | save | skip | join => cases hreturned
  | restore phase =>
    rw [phase] at hok
    exact iff_of_true rfl hok.1.symm
  | leave phase =>
    rw [phase] at hok
    refine iff_of_false hok.2.2.1 ?_
    rw [← hok.1]
    simp

/-- In every run of threads that use the executor and the GIL: what the calls and the worker do by
themselves ends after a bounded number of steps, and when it has ended, every call (every
`shutdown` in particular) has returned, or a thread that is not in a call keeps the GIL.  A call
that returns leaves the GIL to its thread exactly when it was made with the GIL, and the worker
executes and destroys its batches with the GIL.  Without the GIL the run is one of `PySystem`. -/
theorem shutdown_completes (h : s.Reachable worker) :
    (∀ cs (s' : GilSystem), (∀ c ∈ cs, internal c = true) → (gilThreads worker).run s cs = some s' →
      cs.length ≤ s.work ∧
      (s'.Stuck worker → s'.shared.executor.terminated = false →
        (∃ thread, thread ≠ worker ∧ s'.shared.holder = some thread ∧
          Executor.notBusy thread s'.procs = true) ∨
        ((∀ call ∈ s'.procs, call.phase = .returned) ∧ s'.shared.executor.running = [] ∧
          (s'.shared.executor.worker = .asleep ∧ s'.shared.executor.stopping = false ∧
            s'.shared.executor.tasks = [] ∨ s'.shared.executor.worker = .exited)))) ∧
    (∀ i call (s' : GilSystem) call', s.procs[i]? = some call →
      (gilThreads worker).perform s (.advance i) = some s' → s'.procs[i]? = some call' →
      call'.phase = .returned → s'.shared.executor.terminated = false →
      (s'.shared.holder = some call.thread ↔ call.held = true)) ∧
    (s.shared.executor.worker.isInside = true → s.shared.lent = false →
      s.shared.holder = some worker) ∧
    s.toPySystem.Reachable worker := by
  refine ⟨fun cs s' hinternal hrun => ⟨?_, fun hstuck hrunning => ?_⟩, ?_,
    h.kept.holds.inside, h.toPySystem⟩
  · have hle := Program.length_add_le_of_run (fun s s' c => work_internal) hinternal hrun
    exact (Nat.le_add_right _ _).trans hle
  · obtain ⟨holder, hholder, hreach⟩ := h
    have hreach' := hreach.trans (Program.reachable_of_run cs hrun)
    exact hstuck.cases ⟨holder, hholder, hreach'⟩ hrunning
  · intro i call s' call' hcall hperform hcall' hreturned hrunning
    exact h.kept.returns hcall hperform hcall' hreturned hrunning

/-- Thread 7 shuts the executor down with the GIL while the worker waits for the GIL. -/
theorem shutdown_completes_held :
    ∃ s : GilSystem, s.Reachable 0 ∧ s.shared.executor.worker = .exited ∧
      s.shared.holder = some 7 ∧ s.toPySystem.Reachable 0 := by
  obtain ⟨s, hreach, hworker, hholder⟩ := Program.exists_reachable (S := gilThreads 0)
    [.command (.executor .resume), .command (.executor (.dispatch 7)), .advance 0,
      .command (.executor .resume), .command (.executor (.shutdown 7)), .advance 1, .advance 1,
      .command (.executor .resume), .command (.executor .resume), .command (.executor .resume),
      .command (.executor .resume), .command (.executor .resume), .command (.executor .resume),
      .command (.executor .resume), .advance 1, .advance 1]
    (s := GilSystem.start (some 7))
    (q := fun s => s.shared.executor.worker = .exited ∧ s.shared.holder = some 7)
    ⟨_, rfl, by decide⟩
  have h : GilSystem.Reachable 0 s := ⟨some 7, by decide, hreach⟩
  exact ⟨s, h, hworker, hholder, (shutdown_completes h).2.2.2⟩

end GilSystem

end Dynabridge.Executor
