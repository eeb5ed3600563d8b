import Dynabridge.Executor.UvExecutor

/-!
# No task of the uv executor is lost

Every accepted task is in the queue, in the round in progress, or has started once
(`UvExecutor.Accounted`).  The queue and the closing flag do not outlive the wake-ups that serve
them: `UvExecutor.Shutdown` and the obligation of a `close` that has not made its send.
-/

namespace Dynabridge.Executor

open Interleaving Handover

variable {loopThread : ℕ}

/-! ## The places of a task -/

/-- The accepted tasks wait in the round or in the queue, or have started. -/
abbrev UvExecutor.Accounted (s : UvExecutor) (log : List (Event UvNote)) : Prop :=
  Executor.Accounted s.accepted (s.round ++ s.tasks) s.running log

lemma UvExecutor.Obeys.accounted {s s' : UvExecutor} {k : UvCommand} {new : List CloseCall}
    {events log : List (Event UvNote)} (h : s.Obeys loopThread k s' new events)
    (hs : s.Accounted log) : s'.Accounted (log ++ events) := by
  unfold UvExecutor.Accounted at *
  cases h with
  | terminate | close | closeAgain =>
    rw [List.append_nil]
    exact hs
  | inline => exact hs.inline loopThread
  | enqueue thread => simpa [UvExecutor.round] using hs.enqueue thread
  | onAsync answered handle callback =>
    simpa [UvExecutor.round, UvExecutor.onAsync, callback] using hs.note _
  | endAsync c callback round running =>
    rw [List.append_nil]
    unfold UvExecutor.endAsync
    split_ifs <;> simpa [UvExecutor.round, callback, round] using hs
  | start c task round callback next running =>
    simp only [UvExecutor.round, callback, Option.elim_some, next, running] at hs
    exact hs.start
  | taskReturns task rest running =>
    rw [running] at hs
    exact hs.finish
  | onClosed => exact hs.note _

/-- A send changes the wake-ups only. -/
lemma uvThreads_advance_eq {i : ℕ} {s s' : UvExecutor} {call call' : CloseCall}
    {events : List (Event UvNote)}
    (h : (uvThreads loopThread).advance i s call = some (s', call', events)) :
    events = [] ∧ ∃ n, s.wakeUps ≤ n ∧ s' = { s with wakeUps := n } := by
  obtain ⟨-, -, hevents, ⟨-, rfl⟩ | ⟨-, rfl⟩⟩ := uvThreads_advance_cases h
  · exact ⟨hevents, _, Nat.le_succ _, rfl⟩
  · exact ⟨hevents, _, Nat.le_refl _, rfl⟩

lemma UvSystem.Reachable.accounted {s : UvSystem} (h : s.Reachable loopThread) :
    s.shared.Accounted s.log := by
  refine h.global_invariant ?_ ?_ ?_
  · exact .empty
  · intro s i call sh call' events _ hs hadv
    obtain ⟨rfl, n, -, rfl⟩ := uvThreads_advance_eq hadv
    rw [List.append_nil]
    exact hs
  · intro s k sh new events _ hs hcmd
    exact (UvExecutor.command_obeys hcmd).accounted hs

/-! ## Wake-ups and the end -/

/-- What is true of the flags: an invocation of `on_async` that is going to close the handle
has found the executor closing and left nothing in the queue, and once it has closed it nothing
is left to run; a queue that is not empty is going to be served. -/
structure UvExecutor.Shutdown (s : UvExecutor) : Prop where
  attached : s.attached = !s.closing
  closes : ∀ c, s.callback = some c → c.close = true → s.closing = true ∧ s.tasks = []
  closed : s.handle ≠ .active →
    s.closing = true ∧ s.tasks = [] ∧ s.callback = none ∧ s.running = []
  served : s.tasks ≠ [] → 0 < s.wakeUps ∨ s.willWake = true

lemma UvExecutor.Obeys.shutdown {s s' : UvExecutor} {k : UvCommand} {new : List CloseCall}
    {events : List (Event UvNote)} (h : s.Obeys loopThread k s' new events)
    (hs : s.Shutdown) : s'.Shutdown := by
  obtain ⟨hattached, hcloses, hclosed, hserved⟩ := hs
  cases h with
  | terminate | closeAgain => exact ⟨hattached, hcloses, hclosed, hserved⟩
  | close thread attached =>
    -- the handle is still active, since nothing has closed the executor
    have hclosing : s.closing = false := by simpa [hattached] using attached
    refine ⟨rfl, fun c hc hclose => ?_, fun hhandle => ?_, hserved⟩
    · rw [(hcloses c hc hclose).1] at hclosing
      cases hclosing
    · rw [(hclosed hhandle).1] at hclosing
      cases hclosing
  | inline attached closing empty =>
    refine ⟨hattached, hcloses, fun hhandle => ?_, hserved⟩
    rw [(hclosed hhandle).1] at closing
    cases closing
  | enqueue thread attached closing =>
    refine ⟨hattached, fun c hc hclose => ?_, fun hhandle => ?_,
      fun _ => .inl (Nat.succ_pos _)⟩
    · rw [(hcloses c hc hclose).1] at closing
      cases closing
    · rw [(hclosed hhandle).1] at closing
      cases closing
  | onAsync answered handle callback running =>
    refine ⟨hattached, fun c hc hclose => ?_, fun hhandle => absurd handle hhandle,
      fun htasks => .inr ?_⟩
    · cases hc
      simpa [UvExecutor.onAsync, Bool.and_eq_true] using hclose
    · have hrearm : (!(s.tasks.drop maxTasksPerRound).isEmpty) = true := by
        simpa [UvExecutor.onAsync] using htasks
      simp [UvExecutor.onAsync, UvExecutor.willWake, hrearm]
  | endAsync c callback round running =>
    have hactive : s.handle = .active := by
      by_contra hhandle
      rw [(hclosed hhandle).2.2.1] at callback
      cases callback
    unfold UvExecutor.endAsync
    split_ifs with hrearm hclose
    · exact ⟨hattached, by simp, fun hhandle => absurd hactive hhandle,
        fun _ => .inl (Nat.succ_pos _)⟩
    · obtain ⟨hclosing, hempty⟩ := hcloses c callback hclose
      exact ⟨hattached, by simp, fun _ => ⟨hclosing, hempty, rfl, running⟩,
        fun htasks => absurd hempty htasks⟩
    · refine ⟨hattached, by simp, fun hhandle => absurd hactive hhandle, fun htasks => ?_⟩
      rcases hserved htasks with hwake | hwill
      · exact .inl hwake
      · simp [UvExecutor.willWake, callback, hrearm, hclose] at hwill
  | start c task round callback next running =>
    refine ⟨hattached, fun d hd hclose => ?_, fun hhandle => ?_, fun htasks => ?_⟩
    · cases hd
      exact hcloses c callback hclose
    · rw [(hclosed hhandle).2.2.1] at callback
      cases callback
    · simpa [UvExecutor.willWake, callback] using hserved htasks
  | taskReturns task rest running =>
    refine ⟨hattached, hcloses, fun hhandle => ?_, hserved⟩
    rw [(hclosed hhandle).2.2.2] at running
    cases running
  | onClosed handle callback running =>
    refine ⟨hattached, hcloses, fun _ => ?_, hserved⟩
    exact hclosed (by rw [handle]; decide)

lemma UvSystem.Reachable.shutdown {s : UvSystem} (h : s.Reachable loopThread) :
    s.shared.Shutdown := by
  refine h.global_invariant (G := fun s _ => s.Shutdown)
    ⟨rfl, by simp [start, UvExecutor.construct], by simp [start, UvExecutor.construct],
      by simp [start, UvExecutor.construct]⟩ ?_ ?_
  · intro s i call sh call' events _ hs hadv
    obtain ⟨-, n, hle, rfl⟩ := uvThreads_advance_eq hadv
    refine ⟨hs.attached, hs.closes, hs.closed, fun htasks => ?_⟩
    exact (hs.served htasks).imp (fun hpos => Nat.lt_of_lt_of_le hpos hle) id
  · intro s k sh new events _ hs hcmd
    exact (UvExecutor.command_obeys hcmd).shutdown hs

/-- While the executor is closing, the handle is active, no wake-up is pending and no
invocation of `on_async` is going to wake it, a `close` is about to. -/
lemma UvSystem.Reachable.close_obligation {s : UvSystem} (h : s.Reachable loopThread)
    (hclosing : s.shared.closing = true) (hhandle : s.shared.handle = .active)
    (hwake : s.shared.wakeUps = 0) (hwill : s.shared.willWake = false) :
    ∃ call ∈ s.procs, call.sent = false := by
  refine Program.Reachable.obligation
    (fun s _ => s.closing = true ∧ s.handle = .active ∧ s.wakeUps = 0 ∧ s.willWake = false)
    (fun call : CloseCall => call.sent = false) ?_ ?_ ?_ h ⟨hclosing, hhandle, hwake, hwill⟩
  · rintro ⟨hconstruct, -⟩
    cases hconstruct
  · rintro s i call sh call' events - hadv ⟨-, hactive, hzero, -⟩
    obtain ⟨-, -, -, ⟨-, rfl⟩ | ⟨hhandle, rfl⟩⟩ := uvThreads_advance_cases hadv
    · cases hzero
    · rw [hhandle] at hactive
      cases hactive
  · rintro s k sh new events hreach hcmd ⟨hclosing, hactive, hzero, hwill⟩
    have hshutdown : s.shared.Shutdown := UvSystem.Reachable.shutdown hreach
    cases UvExecutor.command_obeys hcmd with
    | terminate | closeAgain | taskReturns | inline =>
      exact .inr ⟨hclosing, hactive, hzero, hwill⟩
    | enqueue => cases hzero
    | close thread => exact .inl ⟨⟨thread, false⟩, List.mem_singleton.mpr rfl, rfl⟩
    | onAsync answered handle callback =>
      -- the section finds the executor closing, so it leaves one of the two flags set
      have hboth : s.shared.closing = true := hclosing
      simp [UvExecutor.onAsync, UvExecutor.willWake, hboth] at hwill
    | endAsync c callback =>
      unfold UvExecutor.endAsync at hclosing hactive hzero
      split_ifs at hclosing hactive hzero with hrearm hclose
      · refine .inr ⟨hclosing, hactive, hzero, ?_⟩
        simp [UvExecutor.willWake, callback, hrearm, hclose]
    | start c task round callback =>
      refine .inr ⟨hclosing, hactive, hzero, ?_⟩
      simpa [UvExecutor.willWake, callback] using hwill
    | onClosed => cases hactive

/-- An invocation of `on_async` takes at most so many tasks. -/
lemma UvSystem.Reachable.length_round {s : UvSystem} (h : s.Reachable loopThread)
    {tasks : List Task} (htasks : .noted (.round tasks) ∈ s.log) :
    tasks.length ≤ maxTasksPerRound := by
  refine Program.Reachable.log_invariant (Q := fun _ _ e => ∀ tasks,
    e = .noted (.round tasks) → tasks.length ≤ maxTasksPerRound) ?_ ?_ ?_ ?_ h _ htasks _ rfl
  · intro e he
    cases he
  · intro s i call sh call' events _ _ hadv e he
    obtain ⟨rfl, -⟩ := uvThreads_advance_eq hadv
    cases he
  · rintro s k sh new events - hcmd e he tasks rfl
    cases UvExecutor.command_obeys hcmd with
    | onAsync =>
      obtain rfl := UvNote.round.inj (Event.noted.inj (List.mem_singleton.mp he))
      exact List.length_take_le _ _
    | _ => simp at he
  · exact fun s s' _ _ e hQ => hQ

end Dynabridge.Executor
