import Dynabridge.Executor.UvLifetime

/-!
# The uv executor drains its queue

`UvSystem.work` bounds what the loop thread and the pending sends of `close` can still do by
themselves.  When they are stuck nothing waits, and an executor that was closed is deleted.  A task
waits for no more than one invocation of `on_async` for every 16 tasks before it (`Waits`), however
many are dispatched behind it.
-/

namespace Dynabridge.Executor

open Interleaving

variable {loopThread : ℕ}

/-! ## What is left to do -/

/-- The steps that are left of an invocation of `on_async`, with the wake-up that it makes. -/
def OnAsync.work (c : OnAsync) : ℕ := 2 * c.round.length + if c.rearm then 4 else 2

def AsyncHandle.work : AsyncHandle → ℕ
  | .active | .closing => 1
  | .deleted => 0

/-- How many steps a call of `close` takes, and how many the loop takes because of it. -/
def CloseCall.work (call : CloseCall) : ℕ := if call.sent then 0 else 4

def UvExecutor.work (s : UvExecutor) : ℕ :=
  3 * s.tasks.length + s.running.length + 3 * s.wakeUps + s.callback.elim 0 OnAsync.work +
    s.handle.work

/-- How many steps the loop thread and the calls of `close` can still take by themselves. -/
def UvSystem.work (s : UvSystem) : ℕ := s.shared.work + (s.procs.map CloseCall.work).sum

/-- What happens without user code that calls the executor.  A callback of libuv answers a
send. -/
def uvInternal : Choice UvCommand → Bool
  | .advance _ => true
  | .command (.loop (.onAsync answered)) => decide (0 < answered)
  | .command (.loop _) => true
  | .command (.dispatch _) | .command (.close _) => false

/-- Every step of the loop thread is one step less to do. -/
lemma UvExecutor.loop_work {s s' : UvExecutor} {step : LoopStep} {events : List (Event UvNote)}
    (hinternal : uvInternal (.command (.loop step)) = true)
    (h : s.loop step = some (s', events)) : s'.work < s.work := by
  unfold loop at h
  split at h
  · rename_i answered
    split_ifs at h with hguard
    obtain ⟨hactive, hcallback, hrunning, hanswered⟩ := hguard
    obtain rfl := (Prod.mk.inj (Option.some.inj h)).1
    have hpos : 0 < answered := of_decide_eq_true hinternal
    have hlength : (s.tasks.take maxTasksPerRound).length +
        (s.tasks.drop maxTasksPerRound).length = s.tasks.length := by
      rw [← List.length_append, List.take_append_drop]
    simp only [work, hcallback, Option.elim_some, Option.elim_none, OnAsync.work]
    split_ifs with hrearm
    · -- a round that leaves tasks in the queue is full
      have hfull : 16 ≤ (s.tasks.take maxTasksPerRound).length := by
        rw [List.length_take, maxTasksPerRound]
        rw [Bool.not_eq_true', List.isEmpty_eq_false_iff, ne_eq, List.drop_eq_nil_iff,
          maxTasksPerRound] at hrearm
        omega
      omega
    · omega
  · split at h
    · rename_i c hcallback hrunning
      split at h
      · rename_i hround
        obtain rfl := (Prod.mk.inj (Option.some.inj h)).1
        unfold endAsync
        split_ifs with hrearm hclose <;>
          simp [work, hcallback, OnAsync.work, AsyncHandle.work, hround, hrearm] <;> omega
      · rename_i task round hround
        obtain rfl := (Prod.mk.inj (Option.some.inj h)).1
        simp only [work, hcallback, hrunning, Option.elim_some, OnAsync.work, hround,
          List.length_cons, List.length_nil]
        omega
    · cases h
  · split at h
    · cases h
    · rename_i task running hrunning
      obtain rfl := (Prod.mk.inj (Option.some.inj h)).1
      simp only [work, hrunning, List.length_cons]
      omega
  · split_ifs at h with hguard
    obtain rfl := (Prod.mk.inj (Option.some.inj h)).1
    simp only [work, hguard.1, AsyncHandle.work]
    omega

/-- A send that was made is one step less to do. -/
lemma uvThreads_advance_work {i : ℕ} {s s' : UvExecutor} {call call' : CloseCall}
    {events : List (Event UvNote)}
    (h : (uvThreads loopThread).advance i s call = some (s', call', events)) :
    s'.work + call'.work < s.work + call.work := by
  obtain ⟨hsent, rfl, -, ⟨-, rfl⟩ | ⟨-, rfl⟩⟩ := uvThreads_advance_cases h
  · simp only [UvExecutor.work, CloseCall.work, hsent, if_true, Bool.false_eq_true, if_false]
    omega
  · simp [CloseCall.work, hsent]

namespace UvSystem

variable {s s' : UvSystem}

/-- What happens by itself is one step less to do. -/
lemma work_internal {c : Choice UvCommand} (hinternal : uvInternal c = true)
    (h : (uvThreads loopThread).perform s c = some s') : s'.work < s.work := by
  cases c with
  | advance i =>
    obtain ⟨call, sh, call', events, hcall, hadv, rfl⟩ := Program.perform_advance h
    have hlt := uvThreads_advance_work hadv
    have hset := Program.sum_map_set call' CloseCall.work hcall
    simp only [work] at hset ⊢
    omega
  | command k =>
    obtain ⟨sh, new, events, hcmd, rfl⟩ := Program.perform_command h
    cases k with
    | dispatch thread => cases hinternal
    | close thread => cases hinternal
    | loop step =>
      simp only [uvThreads, UvExecutor.command] at hcmd
      split_ifs at hcmd with hguard
      obtain ⟨⟨t, events'⟩, hloop, heq⟩ := Option.map_eq_some_iff.mp hcmd
      cases heq
      have hlt := UvExecutor.loop_work hinternal hloop
      simp only [work, List.append_nil]
      omega

/-! ## When nothing happens by itself -/

/-- Nothing happens by itself. -/
def Stuck (loopThread : ℕ) (s : UvSystem) : Prop :=
  ∀ c, uvInternal c = true → (uvThreads loopThread).perform s c = none

/-- Every `close` has made its send, unless the handle was deleted. -/
lemma Stuck.call (hstuck : s.Stuck loopThread) (hrunning : s.shared.terminated = false)
    {call : CloseCall} (hmem : call ∈ s.procs) :
    call.sent = true ∨ s.shared.handle = .deleted := by
  obtain ⟨i, hcall⟩ := List.mem_iff_getElem?.mp hmem
  have hperform := hstuck (.advance i) rfl
  rcases hsent : call.sent with _ | _
  · rcases hhandle : s.shared.handle with _ | _ | _
    · simp [Program.perform, hcall, uvThreads, hrunning, UvExecutor.sendClose, hsent, hhandle]
        at hperform
    · simp [Program.perform, hcall, uvThreads, hrunning, UvExecutor.sendClose, hsent, hhandle]
        at hperform
    · exact .inr rfl
  · exact .inl rfl

lemma Stuck.loop (hstuck : s.Stuck loopThread) (hrunning : s.shared.terminated = false)
    (hsent : ∀ call ∈ s.procs, call.sent = true) (step : LoopStep)
    (hinternal : uvInternal (.command (.loop step)) = true) : s.shared.loop step = none := by
  have hfree : notClosing loopThread s.procs = true :=
    List.all_eq_true.mpr fun call hmem => by rw [hsent call hmem, Bool.or_true]
  refine Option.eq_none_iff_forall_ne_some.mpr fun r hr => ?_
  have hperform := hstuck (.command (.loop step)) hinternal
  simp [Program.perform, uvThreads, UvExecutor.command, hrunning, hfree, hr] at hperform

/-- A stuck loop thread is outside of `on_async`, and waits for a send, if the handle is there. -/
lemma Stuck.idle (hstuck : s.Stuck loopThread) (hrunning : s.shared.terminated = false)
    (hsent : ∀ call ∈ s.procs, call.sent = true) :
    s.shared.callback = none ∧ s.shared.running = [] ∧ s.shared.handle ≠ .closing ∧
      (s.shared.handle = .active → s.shared.wakeUps = 0) := by
  have hreturns := hstuck.loop hrunning hsent .taskReturns rfl
  have hresume := hstuck.loop hrunning hsent .resume rfl
  have hclosed := hstuck.loop hrunning hsent .onClosed rfl
  have hasync := hstuck.loop hrunning hsent (.onAsync 1) rfl
  have hnone : s.shared.running = [] := by
    unfold UvExecutor.loop at hreturns
    dsimp only at hreturns
    split at hreturns
    · assumption
    · cases hreturns
  have hcallback : s.shared.callback = none := by
    rcases hcase : s.shared.callback with _ | c
    · rfl
    · unfold UvExecutor.loop at hresume
      simp only [hcase, hnone] at hresume
      split at hresume <;> cases hresume
  refine ⟨hcallback, hnone, fun hclosing => ?_, fun hactive => ?_⟩
  · simp [UvExecutor.loop, hclosing, hcallback, hnone] at hclosed
  · simpa [UvExecutor.loop, hactive, hcallback, hnone] using hasync

/-- When nothing happens by itself, nothing waits. -/
lemma Stuck.empty (hstuck : s.Stuck loopThread) (h : s.Reachable loopThread)
    (hrunning : s.shared.terminated = false) :
    s.shared.tasks = [] ∧ s.shared.callback = none ∧ s.shared.running = [] ∧
      (s.shared.closing = true → s.shared.handle = .deleted) := by
  by_cases hdeleted : s.shared.handle = .deleted
  · obtain ⟨-, hempty, hcallback, hnone⟩ := h.shutdown.closed (by rw [hdeleted]; decide)
    exact ⟨hempty, hcallback, hnone, fun _ => hdeleted⟩
  have hsent : ∀ call ∈ s.procs, call.sent = true := fun call hmem =>
    (hstuck.call hrunning hmem).resolve_right hdeleted
  obtain ⟨hcallback, hnone, hclosing, hwake⟩ := hstuck.idle hrunning hsent
  have hactive : s.shared.handle = .active := by
    cases hhandle : s.shared.handle with
    | active => rfl
    | closing => exact absurd hhandle hclosing
    | deleted => exact absurd hhandle hdeleted
  have hwill : s.shared.willWake = false := by rw [UvExecutor.willWake, hcallback]; rfl
  refine ⟨?_, hcallback, hnone, fun hcloses => ?_⟩
  · by_contra htasks
    rcases h.shutdown.served htasks with hpos | hwakes
    · exact hpos.ne' (hwake hactive)
    · rw [hwill] at hwakes
      cases hwakes
  · obtain ⟨call, hmem, hunsent⟩ := h.close_obligation hcloses hactive (hwake hactive) hwill
    rw [hsent call hmem] at hunsent
    cases hunsent

/-- Every accepted task has returned then. -/
lemma Stuck.finished (hstuck : s.Stuck loopThread) (h : s.Reachable loopThread)
    (hrunning : s.shared.terminated = false) : (finished s.log).Perm (dispatched s.log) := by
  obtain ⟨hempty, hcallback, hnone, -⟩ := hstuck.empty h hrunning
  have haccounted := h.accounted
  rw [UvExecutor.Accounted, UvExecutor.round, hcallback, hempty, hnone] at haccounted
  exact haccounted.finished_perm

/-! ## How long a task waits -/

/-- The rounds that the invocations of `on_async` took. -/
def rounds (log : List (Event UvNote)) : List (List Task) :=
  log.filterMap fun e =>
    match e with
    | .noted (.round tasks) => some tasks
    | _ => none

@[simp] lemma rounds_append (log log' : List (Event UvNote)) :
    rounds (log ++ log') = rounds log ++ rounds log' := List.filterMap_append

/-- A task that was at position `k` of the queue before these rounds: each of them was full, and
the task has moved up, or was in the round that its position says. -/
def Waits (t : Task) (k : ℕ) (s : UvExecutor) (rs : List (List Task)) : Prop :=
  (rs.length ≤ k / maxTasksPerRound ∧ s.tasks[k - maxTasksPerRound * rs.length]? = some t) ∨
    ∃ round, rs[k / maxTasksPerRound]? = some round ∧ round[k % maxTasksPerRound]? = some t

variable {t : Task} {k : ℕ} {sh sh' : UvExecutor} {rs : List (List Task)}

lemma Waits.of_tasks (h : Waits t k sh rs) (htasks : sh'.tasks = sh.tasks) : Waits t k sh' rs := by
  rw [Waits, htasks]
  exact h

/-- More tasks behind it change nothing. -/
lemma Waits.enqueue (h : Waits t k sh rs) {more : List Task}
    (htasks : sh'.tasks = sh.tasks ++ more) : Waits t k sh' rs := by
  rw [Waits, htasks]
  refine h.imp_left fun ⟨hle, hget⟩ => ⟨hle, ?_⟩
  rw [List.getElem?_append_left (List.getElem?_eq_some_iff.mp hget).1]
  exact hget

/-- The next round moves it up, or takes it. -/
lemma Waits.onAsync (h : Waits t k sh rs) (answered : ℕ) :
    Waits t k (sh.onAsync answered).1 (rs ++ [sh.tasks.take maxTasksPerRound]) := by
  rcases h with ⟨hle, hget⟩ | ⟨round, hround, hmem⟩
  · rcases hle.lt_or_eq with hlt | heq
    · refine .inl ⟨?_, ?_⟩
      · rw [List.length_append, List.length_singleton]
        exact hlt
      · rw [← hget, UvExecutor.onAsync, List.length_append, List.length_singleton]
        dsimp only
        rw [List.getElem?_drop]
        congr 1
        unfold maxTasksPerRound at hlt ⊢
        omega
    · refine .inr ⟨sh.tasks.take maxTasksPerRound, ?_, ?_⟩
      · rw [← heq, List.getElem?_append_right (Nat.le_refl _), Nat.sub_self]
        rfl
      · have hmod : k - maxTasksPerRound * rs.length = k % maxTasksPerRound := by
          rw [heq, Nat.sub_eq_iff_eq_add (Nat.mul_div_le k _)]
          exact (Nat.mod_add_div k _).symm
        rw [List.getElem?_take_of_lt (Nat.mod_lt k (by decide)), ← hmod]
        exact hget
  · refine .inr ⟨round, ?_, hmem⟩
    rw [List.getElem?_append_left (List.getElem?_eq_some_iff.mp hround).1]
    exact hround

/-- Whatever happens, a task waits for the rounds before its own. -/
lemma waits_of_reachable (hk : s.shared.tasks[k]? = some t)
    (h : (uvThreads loopThread).Reachable s s') :
    ∃ events, s'.log = s.log ++ events ∧ Waits t k s'.shared (rounds events) := by
  refine Program.Reachable.global_invariant (G := fun sh log => ∃ events,
    log = s.log ++ events ∧ Waits t k sh (rounds events)) ?_ ?_ ?_ h
  · exact ⟨[], (List.append_nil _).symm, .inl ⟨Nat.zero_le _, hk⟩⟩
  · rintro r i call sh call' events - ⟨past, hlog, hwaits⟩ hadv
    obtain ⟨rfl, n, -, rfl⟩ := uvThreads_advance_eq hadv
    exact ⟨past, by rw [List.append_nil, hlog], hwaits.of_tasks rfl⟩
  · rintro r c sh new events - ⟨past, hlog, hwaits⟩ hcmd
    refine ⟨past ++ events, by rw [hlog, List.append_assoc], ?_⟩
    rw [rounds_append]
    cases UvExecutor.command_obeys hcmd with
    | onAsync answered => exact hwaits.onAsync answered
    | enqueue thread =>
      rw [show rounds [.dispatched _] = [] from rfl, List.append_nil]
      exact hwaits.enqueue rfl
    | inline =>
      rw [show rounds [.dispatched _, .started _] = [] from rfl, List.append_nil]
      exact hwaits.of_tasks rfl
    | endAsync c =>
      rw [show rounds [] = [] from rfl, List.append_nil]
      refine hwaits.of_tasks ?_
      unfold UvExecutor.endAsync
      split_ifs <;> rfl
    | _ => exact (List.append_nil (rounds past)).symm ▸ hwaits.of_tasks rfl

end UvSystem

end Dynabridge.Executor
