import Dynabridge.Executor.UvLifetime

/-!
# The order in which the uv executor starts tasks

The queue and the round keep the order in which tasks were accepted.  A task that `dispatch`
starts in place has found the queue empty, but the round in progress is not in the queue any
more: `UvExecutor.overtakes` is the case in which a task of the same thread is left in it.  The
tasks of each thread start in order in exactly those runs in which that does not happen.
-/

namespace Dynabridge.Executor

open Interleaving Handover

variable {loopThread : ℕ}

/-- A `dispatch` on the loop thread that starts its task in place, while a task that the loop
thread dispatched earlier has not started. -/
def UvExecutor.overtakes (loopThread : ℕ) (s : UvExecutor) : UvCommand → Bool
  | .dispatch thread =>
    s.attached && !s.closing && decide (thread = loopThread ∧ s.tasks = []) &&
      s.round.any fun t => t.thread = loopThread
  | _ => false

/-- The threads that use an executor, without overtaking. -/
def uvThreadsInOrder (loopThread : ℕ) : Program UvExecutor CloseCall UvCommand (Event UvNote) :=
  (uvThreads loopThread).restrict fun s k => !s.overtakes loopThread k

/-! ## Runs without overtaking -/

/-- Every thread sees its tasks start in order. -/
abbrev UvExecutor.Ordered (s : UvExecutor) (log : List (Event UvNote)) : Prop :=
  Executor.Ordered (s.round ++ s.tasks) log

lemma UvExecutor.Obeys.ordered {s s' : UvExecutor} {k : UvCommand} {new : List CloseCall}
    {events log : List (Event UvNote)} (h : s.Obeys loopThread k s' new events)
    (hnone : s.overtakes loopThread k = false) (hs : s.Ordered log) :
    s'.Ordered (log ++ events) := by
  unfold UvExecutor.Ordered at *
  cases h with
  | terminate | close | closeAgain =>
    rw [List.append_nil]
    exact hs
  | inline attached closing empty =>
    have hround : ∀ t ∈ s.round, t.thread ≠ loopThread := by
      simpa [UvExecutor.overtakes, attached, closing, empty] using hnone
    refine hs.inline fun t ht => ?_
    rw [empty, List.append_nil] at ht
    exact hround t ht
  | enqueue thread => simpa [UvExecutor.round] using hs.enqueue ⟨s.accepted, thread⟩
  | onAsync answered handle callback =>
    simpa [UvExecutor.round, UvExecutor.onAsync, callback] using hs.note _
  | endAsync c callback round running =>
    rw [List.append_nil]
    unfold UvExecutor.endAsync
    split_ifs <;> simpa [UvExecutor.round, callback, round] using hs
  | start c task round callback next running =>
    simp only [UvExecutor.round, callback, Option.elim_some, next] at hs
    exact hs.start
  | taskReturns task => exact hs.finish task
  | onClosed => exact hs.note _

lemma ordered_of_reachable {s : UvSystem}
    (h : (uvThreadsInOrder loopThread).Reachable UvSystem.start s) : s.shared.Ordered s.log := by
  refine h.global_invariant (G := UvExecutor.Ordered) ?_ ?_ ?_
  · exact .empty
  · intro s i call sh call' events _ hs hadv
    have hsend : (uvThreads loopThread).advance i s.shared call = some (sh, call', events) := hadv
    obtain ⟨rfl, n, -, rfl⟩ := uvThreads_advance_eq hsend
    rw [List.append_nil]
    exact hs
  · intro s k sh new events _ hs hcmd
    obtain ⟨hallowed, hcommand⟩ := Program.command_of_restrict hcmd
    exact (UvExecutor.command_obeys hcommand).ordered (by simpa using hallowed) hs

/-! ## Overtaking -/

/-- A task that overtakes another one has started before it. -/
lemma UvExecutor.Obeys.not_overtakes {s s' : UvExecutor} {k : UvCommand} {new : List CloseCall}
    {events log : List (Event UvNote)} (h : s.Obeys loopThread k s' new events)
    (hs : s.Accounted log) (horder : StartsInOrder (log ++ events)) :
    s.overtakes loopThread k = false := by
  refine eq_false_of_ne_true fun hovertakes => ?_
  cases h with
  | terminate thread refused =>
    cases hattached : s.attached <;> cases hclosing : s.closing <;>
      simp [UvExecutor.overtakes, hattached, hclosing] at hovertakes refused
  | enqueue thread attached closing queued =>
    simp [UvExecutor.overtakes, queued] at hovertakes
  | inline attached closing empty =>
    obtain ⟨t, ht, hthread⟩ : ∃ t ∈ s.round, t.thread = loopThread := by
      simpa [UvExecutor.overtakes, attached, closing, empty] using hovertakes
    have hwaits : t ∈ s.round ++ s.tasks := List.mem_append_left _ ht
    have hentered : t ∈ dispatched log := hs.placed.mem_of_mem_waiting hwaits
    -- the new task comes after it in the order of the dispatches, and before it in that of
    -- the starts
    have hstarts := horder t ⟨s.accepted, loopThread⟩ hthread
      (by simpa using precedes_append hentered (List.mem_singleton.mpr rfl)) (by simp)
    obtain ⟨x, y, hsplit, hx, -⟩ := hstarts
    have hstarted : t ∈ started log ++ [⟨s.accepted, loopThread⟩] := by
      have hmem : t ∈ started (log ++ _) := hsplit ▸ List.mem_append_left y hx
      simpa using hmem
    rcases List.mem_append.mp hstarted with hold | hnew
    · exact hs.placed.not_mem_left hs.numbered.nodup hwaits hold
    · have hlt := hs.numbered.number_lt hentered
      rw [List.mem_singleton.mp hnew] at hlt
      exact Nat.lt_irrefl _ hlt
  | _ => cases hovertakes

/-- The tasks of each thread start in the order in which it dispatched them in exactly those
runs in which no task overtakes another one. -/
theorem uv_startsInOrder_iff (cs : List (Choice UvCommand)) {s : UvSystem}
    (h : (uvThreads loopThread).run UvSystem.start cs = some s) :
    StartsInOrder s.log ↔ (uvThreadsInOrder loopThread).run UvSystem.start cs = some s := by
  constructor
  · intro horder
    induction cs using List.reverseRecOn generalizing s with
    | nil => exact h
    | append_singleton cs c ih =>
      rw [Program.run_concat, Option.bind_eq_some_iff] at h ⊢
      obtain ⟨t, hrun, hperform⟩ := h
      have hreach : UvSystem.Reachable loopThread t := Program.reachable_of_run cs hrun
      have hstep : (uvThreads loopThread).Step t s := ⟨c, hperform⟩
      have hafter : UvSystem.Reachable loopThread s := hreach.tail hstep
      obtain ⟨events, hlog⟩ := hstep.log_prefix
      have hnodup : (started (t.log ++ events)).Nodup := by
        rw [hlog]
        exact hafter.accounted.nodup_started
      refine ⟨t, ih hrun (StartsInOrder.of_append (hlog ▸ horder) hnodup), ?_⟩
      refine Program.perform_restrict hperform ?_
      rintro k rfl
      obtain ⟨sh, new, logged, hcmd, rfl⟩ := Program.perform_command hperform
      rw [(UvExecutor.command_obeys hcmd).not_overtakes hreach.accounted horder]
      rfl
  · intro hrun
    have hreach : s.Reachable loopThread := Program.reachable_of_run cs h
    have hordered := ordered_of_reachable (Program.reachable_of_run cs hrun)
    exact hordered.startsInOrder hreach.accounted.numbered.nodup

/-- Task 1 of the loop thread waits behind task 0 and has started when it dispatches task 2. -/
def drainedRound : List (Choice UvCommand) :=
  [.command (.dispatch 1), .command (.dispatch 0), .command (.loop (.onAsync 2)),
    .command (.loop .resume), .command (.loop .taskReturns), .command (.loop .resume),
    .command (.dispatch 0)]

/-- A task that is started in place when the round is drained. -/
theorem uv_startsInOrder_iff_drained :
    ∃ s : UvSystem, s.Reachable 0 ∧ (started s.log).map Task.number = [0, 1, 2] ∧
      StartsInOrder s.log := by
  obtain ⟨s, hrun, hstarted⟩ : ∃ s ∈ (uvThreads 0).run UvSystem.start drainedRound,
      (started s.log).map Task.number = [0, 1, 2] := by decide +kernel
  have hsame : (uvThreadsInOrder 0).run UvSystem.start drainedRound =
      (uvThreads 0).run UvSystem.start drainedRound := rfl
  exact ⟨s, Program.reachable_of_run drainedRound hrun, hstarted,
    (uv_startsInOrder_iff drainedRound hrun).mpr (hsame.trans hrun)⟩

/-- The loop thread dispatches task 1 behind task 0; both are in the round when task 0, on the
loop thread, dispatches task 2, which finds the queue empty and starts before task 1. -/
theorem uv_not_startsInOrder :
    ¬ ∀ s : UvSystem, s.Reachable 0 → StartsInOrder s.log := by
  intro hclaim
  obtain ⟨s, hreach, hdispatched, hstarted⟩ := (uvThreads 0).exists_reachable
    [.command (.dispatch 1), .command (.dispatch 0), .command (.loop (.onAsync 2)),
      .command (.loop .resume), .command (.dispatch 0)]
    (s := UvSystem.start)
    (q := fun s => dispatched s.log = [⟨0, 1⟩] ++ [⟨1, 0⟩] ++ [⟨2, 0⟩] ∧
      started s.log = [⟨0, 1⟩, ⟨2, 0⟩]) (by decide +kernel)
  have hdispatches : Precedes (dispatched s.log) ⟨1, 0⟩ ⟨2, 0⟩ := by
    rw [hdispatched]
    exact precedes_append (by decide) (by decide)
  obtain ⟨x, y, hsplit, hx, -⟩ :=
    hclaim s hreach ⟨1, 0⟩ ⟨2, 0⟩ rfl hdispatches (by rw [hstarted]; decide)
  have hmem : (⟨1, 0⟩ : Task) ∈ started s.log := hsplit ▸ List.mem_append_left y hx
  rw [hstarted] at hmem
  exact absurd hmem (by decide)

end Dynabridge.Executor
