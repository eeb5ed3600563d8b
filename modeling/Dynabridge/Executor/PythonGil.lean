import Dynabridge.Executor.PythonLifetime

/-!
# The Python executor and the GIL

A refinement of `PySystem` in which the GIL is held by one thread at a time.  The worker waits for
it in `PyGILState_Ensure`; `shutdown` releases it before it joins the worker, when its thread holds
it, and waits for it afterwards.  User code may hold the GIL when it calls the executor.  Outside
of its calls a thread takes and releases the GIL as it likes; on the worker user code may release
it for a while, and takes it back before it returns.  The interpreter stays initialized.
-/

namespace Dynabridge.Executor

open Interleaving

/-- What a call does after its section. -/
inductive GilPhase
  | notify (joins : Bool)
  /-- `PyGILState_Check`, and `PyEval_SaveThread` when the thread holds the GIL -/
  | save
  | join (released : Bool)
  /-- `PyEval_RestoreThread` -/
  | restore (released : Bool)
  | returned
  deriving DecidableEq

/-- The phase without the GIL. -/
def GilPhase.toCallPhase : GilPhase → CallPhase
  | .notify joins => .notify joins
  | .save | .join _ => .join
  | .restore _ | .returned => .returned

/-- A call that has left its section. -/
structure GilCall where
  thread : ℕ
  /-- The thread has made the call with the GIL. -/
  held : Bool
  phase : GilPhase
  deriving DecidableEq

def GilCall.toPyCall (call : GilCall) : PyCall := ⟨call.thread, call.phase.toCallPhase⟩

/-- The thread is not in a call. -/
def notBusy (thread : ℕ) (calls : List GilCall) : Bool :=
  calls.all fun call => decide (call.thread ≠ thread) || decide (call.phase = .returned)

/-- The worker has a batch under the GIL in hand. -/
def Worker.isInside : Worker → Bool
  | .executing _ _ _ | .clearing _ _ _ => true
  | .starting | .checking | .asleep | .ensuring _ _ | .exited => false

/-- An executor and the GIL. -/
structure GilExecutor where
  executor : PythonExecutor
  /-- The thread that holds the GIL. -/
  holder : Option ℕ
  /-- User code on the worker has released the GIL and takes it back. -/
  lent : Bool
  deriving DecidableEq

/-- What happens besides the steps of the calls. -/
inductive GilCommand
  | executor (k : PyCommand)
  /-- User code on the worker releases the GIL. -/
  | lend
  | takeBack
  /-- User code of another thread takes the GIL, or releases it. -/
  | acquire (thread : ℕ)
  | drop (thread : ℕ)
  deriving DecidableEq

namespace GilExecutor

variable (worker : ℕ)

/-- What the executor does waits for the GIL here, or needs it. -/
def allows (g : GilExecutor) (calls : List GilCall) : PyCommand → Bool
  | .dispatch thread | .shutdown thread => notBusy thread calls
  | .wake => true
  | .resume =>
    match g.executor.running, g.executor.worker with
    | [], .ensuring _ _ => g.holder.isNone
    | [], .executing _ _ _ | [], .clearing _ _ _ | [_], .executing _ _ _ =>
      decide (g.holder = some worker)
    | _, _ => true

/-- Who holds the GIL after a step of the executor. -/
def holderAfter (g : GilExecutor) : PyCommand → Option ℕ
  | .dispatch _ | .shutdown _ | .wake => g.holder
  | .resume =>
    match g.executor.running, g.executor.worker with
    | [], .ensuring _ _ => some worker
    | [], .clearing _ _ [] => none
    | _, _ => g.holder

/-- A new call. -/
def newCall (g : GilExecutor) (call : PyCall) : GilCall where
  thread := call.thread
  held := decide (g.holder = some call.thread)
  phase :=
    match call.phase with
    | .notify joins => .notify joins
    | .join => .save
    | .returned => .returned

/-- What a call does next. -/
def advance (g : GilExecutor) (call : GilCall) :
    Option (GilExecutor × GilCall × List (Event PyNote)) :=
  match call.phase with
  | .notify joins =>
    some ({ g with executor := g.executor.notifyOne },
      { call with phase := if joins then .save else .returned }, [])
  | .save =>
    if call.thread = worker then
      some ({ g with executor := { g.executor with terminated := true } },
        { call with phase := .returned }, [])
    else if g.holder = some call.thread then
      some ({ g with holder := none }, { call with phase := .join true }, [])
    else some (g, { call with phase := .join false }, [])
  | .join released =>
    if g.executor.worker = .exited then
      some (g, { call with phase := .restore released }, [.noted .shutDown])
    else none
  | .restore true =>
    if g.holder.isNone then
      some ({ g with holder := some call.thread }, { call with phase := .returned }, [])
    else none
  | .restore false => some (g, { call with phase := .returned }, [])
  | .returned => none

/-- The effect of a command. -/
def command (g : GilExecutor) (calls : List GilCall) :
    GilCommand → Option (GilExecutor × List GilCall × List (Event PyNote))
  | .executor k =>
    if g.allows worker calls k then
      (g.executor.command worker (calls.map GilCall.toPyCall) k).map fun (e, new, events) =>
        (⟨e, g.holderAfter worker k, g.lent⟩, new.map g.newCall, events)
    else none
  | .lend =>
    if !g.executor.terminated && notBusy worker calls &&
        (!g.executor.running.isEmpty || g.executor.worker.isClearing) &&
        decide (g.holder = some worker) then
      some ({ g with holder := none, lent := true }, [], [])
    else none
  | .takeBack =>
    if !g.executor.terminated && notBusy worker calls && g.lent && g.holder.isNone then
      some ({ g with holder := some worker, lent := false }, [], [])
    else none
  | .acquire thread =>
    if !g.executor.terminated && notBusy thread calls && decide (thread ≠ worker) &&
        g.holder.isNone then
      some ({ g with holder := some thread }, [], [])
    else none
  | .drop thread =>
    if !g.executor.terminated && notBusy thread calls && decide (thread ≠ worker) &&
        decide (g.holder = some thread) then
      some ({ g with holder := none }, [], [])
    else none

end GilExecutor

/-- The threads that use an executor, and the GIL. -/
def gilThreads (worker : ℕ) : Program GilExecutor GilCall GilCommand (Event PyNote) where
  advance _ g call := if g.executor.terminated then none else g.advance worker call
  command k g calls := g.command worker calls k

/-- An executor with the calls of its functions, and the GIL. -/
abbrev GilSystem := Pool GilExecutor GilCall (Event PyNote)

/-- A new executor, made by a thread that may hold the GIL. -/
def GilSystem.start (holder : Option ℕ) : GilSystem := ⟨⟨.construct, holder, false⟩, [], []⟩

/-- A system that some run reaches. -/
def GilSystem.Reachable (worker : ℕ) (s : GilSystem) : Prop :=
  ∃ holder, holder ≠ some worker ∧ (gilThreads worker).Reachable (GilSystem.start holder) s

/-- What happens by itself: the steps of the calls and of the worker. -/
def GilSystem.internal : Choice GilCommand → Bool
  | .advance _ | .command (.executor .resume) | .command .takeBack => true
  | .command _ => false

/-! ## What a step does -/

variable {worker : ℕ}

/-- Everything a call can do. -/
inductive GilExecutor.Moves (worker : ℕ) (g : GilExecutor) (call : GilCall) :
    GilExecutor → GilCall → List (Event PyNote) → Prop
  | notify (joins : Bool) (phase : call.phase = .notify joins) :
    Moves worker g call { g with executor := g.executor.notifyOne }
      { call with phase := if joins then .save else .returned } []
  | joinItself (phase : call.phase = .save) (own : call.thread = worker) :
    Moves worker g call { g with executor := { g.executor with terminated := true } }
      { call with phase := .returned } []
  | save (phase : call.phase = .save) (foreign : call.thread ≠ worker)
      (holds : g.holder = some call.thread) :
    Moves worker g call { g with holder := none } { call with phase := .join true } []
  | skip (phase : call.phase = .save) (foreign : call.thread ≠ worker)
      (not : g.holder ≠ some call.thread) :
    Moves worker g call g { call with phase := .join false } []
  | join (released : Bool) (phase : call.phase = .join released)
      (exited : g.executor.worker = .exited) :
    Moves worker g call g { call with phase := .restore released } [.noted .shutDown]
  | restore (phase : call.phase = .restore true) (free : g.holder = none) :
    Moves worker g call { g with holder := some call.thread } { call with phase := .returned } []
  | leave (phase : call.phase = .restore false) :
    Moves worker g call g { call with phase := .returned } []

lemma gilThreads_advance_cases {i : ℕ} {g g' : GilExecutor} {call call' : GilCall}
    {events : List (Event PyNote)}
    (h : (gilThreads worker).advance i g call = some (g', call', events)) :
    g.executor.terminated = false ∧ g.Moves worker call g' call' events := by
  simp only [gilThreads] at h
  split at h
  · cases h
  rename_i hrunning
  refine ⟨eq_false_of_ne_true hrunning, ?_⟩
  unfold GilExecutor.advance at h
  split at h
  · rename_i joins hphase
    cases h
    exact .notify joins hphase
  · rename_i hphase
    split_ifs at h with hown hholds <;> cases h
    · exact .joinItself hphase hown
    · exact .save hphase hown hholds
    · exact .skip hphase hown hholds
  · rename_i released hphase
    split_ifs at h with hexited
    cases h
    exact .join released hphase hexited
  · rename_i hphase
    split_ifs at h with hfree
    cases h
    exact .restore hphase (Option.isNone_iff_eq_none.mp hfree)
  · rename_i hphase
    cases h
    exact .leave hphase
  · cases h

/-- Everything a command can do. -/
inductive GilExecutor.Obeys (worker : ℕ) (g : GilExecutor) (calls : List GilCall) :
    GilExecutor → List GilCall → List (Event PyNote) → Prop
  | executor {e : PythonExecutor} {new : List PyCall} {events : List (Event PyNote)}
      (k : PyCommand) (allowed : g.allows worker calls k = true)
      (obeyed : g.executor.command worker (calls.map GilCall.toPyCall) k = some (e, new, events)) :
    Obeys worker g calls ⟨e, g.holderAfter worker k, g.lent⟩ (new.map g.newCall) events
  | lend (idle : notBusy worker calls = true) (holds : g.holder = some worker) :
    Obeys worker g calls { g with holder := none, lent := true } [] []
  | takeBack (idle : notBusy worker calls = true) (lent : g.lent = true) (free : g.holder = none) :
    Obeys worker g calls { g with holder := some worker, lent := false } [] []
  | acquire (thread : ℕ) (idle : notBusy thread calls = true) (foreign : thread ≠ worker)
      (free : g.holder = none) :
    Obeys worker g calls { g with holder := some thread } [] []
  | drop (thread : ℕ) (idle : notBusy thread calls = true) (foreign : thread ≠ worker)
      (holds : g.holder = some thread) :
    Obeys worker g calls { g with holder := none } [] []

lemma GilExecutor.command_obeys {g g' : GilExecutor} {calls new : List GilCall} {k : GilCommand}
    {events : List (Event PyNote)} (h : g.command worker calls k = some (g', new, events)) :
    g.Obeys worker calls g' new events := by
  cases k with
  | executor k =>
    simp only [command] at h
    split_ifs at h with hallowed
    obtain ⟨⟨e, new', events'⟩, hobeyed, heq⟩ := Option.map_eq_some_iff.mp h
    cases heq
    exact .executor k hallowed hobeyed
  | lend =>
    simp only [command] at h
    split_ifs at h with hguard
    simp only [Bool.and_eq_true, decide_eq_true_iff] at hguard
    cases h
    exact .lend hguard.1.1.2 hguard.2
  | takeBack =>
    simp only [command] at h
    split_ifs at h with hguard
    simp only [Bool.and_eq_true, Option.isNone_iff_eq_none] at hguard
    cases h
    exact .takeBack hguard.1.1.2 hguard.1.2 hguard.2
  | acquire thread =>
    simp only [command] at h
    split_ifs at h with hguard
    simp only [Bool.and_eq_true, decide_eq_true_iff, Option.isNone_iff_eq_none] at hguard
    cases h
    exact .acquire thread hguard.1.1.2 hguard.1.2 hguard.2
  | drop thread =>
    simp only [command] at h
    split_ifs at h with hguard
    simp only [Bool.and_eq_true, decide_eq_true_iff] at hguard
    cases h
    exact .drop thread hguard.1.1.2 hguard.1.2 hguard.2

@[simp] lemma GilExecutor.toPyCall_newCall (g : GilExecutor) (call : PyCall) :
    (g.newCall call).toPyCall = call := by
  obtain ⟨thread, phase⟩ := call
  cases phase <;> rfl

/-! ## Who holds the GIL -/

/-- The worker holds the GIL in the middle of a batch, unless user code has released it. -/
structure GilExecutor.WorkerHolds (worker : ℕ) (g : GilExecutor) : Prop where
  inside : g.executor.worker.isInside = true → g.lent = false → g.holder = some worker
  outside : g.holder = some worker → g.lent = false ∧ g.executor.worker.isInside = true
  lends : g.lent = true → g.executor.worker.isInside = true

/-- A call holds the GIL until it releases it, and not while it waits. -/
def GilExecutor.CallOk (worker : ℕ) (g : GilExecutor) (call : GilCall) : Prop :=
  match call.phase with
  | .notify joins => (call.held = true ↔ g.holder = some call.thread) ∧
      (joins = true → g.executor.stopping = true)
  | .save => (call.held = true ↔ g.holder = some call.thread) ∧ g.executor.stopping = true
  | .join released | .restore released => released = call.held ∧ call.thread ≠ worker ∧
      g.holder ≠ some call.thread ∧ g.executor.stopping = true
  | .returned => True

/-- What holds of the GIL and the calls. -/
structure GilSystem.Kept (worker : ℕ) (s : GilSystem) : Prop where
  holds : s.shared.WorkerHolds worker
  call : ∀ (i : ℕ) (call : GilCall), s.procs[i]? = some call → s.shared.CallOk worker call
  distinct : ∀ (i j : ℕ) (call call' : GilCall), s.procs[i]? = some call →
    s.procs[j]? = some call' →
    call.phase ≠ .returned → call'.phase ≠ .returned → call.thread = call'.thread → i = j

namespace GilExecutor

variable {g g' : GilExecutor} {call call' : GilCall} {events : List (Event PyNote)}

/-- What others do with the GIL does not matter. -/
lemma CallOk.of_holder (h : g.CallOk worker call)
    (hholder : call.phase ≠ .returned →
      (g'.holder = some call.thread ↔ g.holder = some call.thread))
    (hstopping : g.executor.stopping = true → g'.executor.stopping = true) :
    g'.CallOk worker call := by
  unfold CallOk at *
  cases hphase : call.phase with
  | returned => trivial
  | notify joins =>
    rw [hphase] at h hholder
    have hiff := hholder (by simp)
    exact ⟨h.1.trans hiff.symm, hstopping ∘ h.2⟩
  | save =>
    rw [hphase] at h hholder
    have hiff := hholder (by simp)
    exact ⟨h.1.trans hiff.symm, hstopping h.2⟩
  | join released | restore released =>
    rw [hphase] at h hholder
    have hiff := hholder (by simp)
    exact ⟨h.1, h.2.1, fun hcontra => h.2.2.1 (hiff.mp hcontra), hstopping h.2.2.2⟩

lemma notifyOne_isInside (s : PythonExecutor) :
    s.notifyOne.worker.isInside = s.worker.isInside := by
  unfold PythonExecutor.notifyOne
  split_ifs with hasleep
  · rw [hasleep]
    rfl
  · rfl

lemma notifyOne_stopping (s : PythonExecutor) : s.notifyOne.stopping = s.stopping := by
  unfold PythonExecutor.notifyOne
  split_ifs <;> rfl

/-- A call keeps its assertion.  It does not change who else holds the GIL. -/
lemma Moves.callOk (h : g.Moves worker call g' call' events) (hcall : g.CallOk worker call) :
    g'.CallOk worker call' ∧ call'.thread = call.thread ∧
      (∀ thread, thread ≠ call.thread → (g'.holder = some thread ↔ g.holder = some thread)) ∧
      g'.executor.stopping = g.executor.stopping := by
  unfold CallOk at hcall
  cases h with
  | notify joins phase =>
    rw [phase] at hcall
    refine ⟨?_, rfl, fun _ _ => Iff.rfl, notifyOne_stopping _⟩
    cases joins with
    | true => exact ⟨hcall.1, (notifyOne_stopping _).trans (hcall.2 rfl)⟩
    | false => trivial
  | joinItself phase own => exact ⟨trivial, rfl, fun _ _ => Iff.rfl, rfl⟩
  | save phase foreign holds =>
    rw [phase] at hcall
    refine ⟨⟨(hcall.1.mpr holds).symm, foreign, by simp, hcall.2⟩, rfl, fun thread hne => ?_, rfl⟩
    rw [holds]
    simp [Ne.symm hne]
  | skip phase foreign not =>
    rw [phase] at hcall
    have hheld : call.held = false := eq_false_of_ne_true fun hheld => not (hcall.1.mp hheld)
    exact ⟨⟨hheld.symm, foreign, not, hcall.2⟩, rfl, fun _ _ => Iff.rfl, rfl⟩
  | join released phase exited =>
    rw [phase] at hcall
    exact ⟨hcall, rfl, fun _ _ => Iff.rfl, rfl⟩
  | restore phase free =>
    refine ⟨trivial, rfl, fun thread hne => ?_, rfl⟩
    rw [free]
    simp [Ne.symm hne]
  | leave phase => exact ⟨trivial, rfl, fun _ _ => Iff.rfl, rfl⟩

/-- The calls leave the GIL of the worker alone. -/
lemma Moves.workerHolds (h : g.Moves worker call g' call' events) (hcall : g.CallOk worker call)
    (hworker : g.WorkerHolds worker) : g'.WorkerHolds worker := by
  unfold CallOk at hcall
  cases h with
  | notify joins phase =>
    refine ⟨fun hinside => hworker.inside ?_, fun hholds => ?_, fun hlent => ?_⟩
    · exact (notifyOne_isInside _).symm.trans hinside
    · rw [notifyOne_isInside]
      exact hworker.outside hholds
    · exact (notifyOne_isInside _).trans (hworker.lends hlent)
  | joinItself | skip | join | leave => exact ⟨hworker.inside, hworker.outside, hworker.lends⟩
  | save phase foreign holds =>
    refine ⟨fun hinside hlent => ?_, by simp, hworker.lends⟩
    have hself := hworker.inside hinside hlent
    rw [holds] at hself
    exact absurd (Option.some.inj hself) foreign
  | restore phase free =>
    rw [phase] at hcall
    refine ⟨fun hinside hlent => ?_, fun hholds => ?_, hworker.lends⟩
    · have hself := hworker.inside hinside hlent
      rw [free] at hself
      cases hself
    · exact absurd (Option.some.inj hholds) hcall.2.1

/-- The worker acquires the GIL, releases it or leaves it. -/
lemma resume_cases {calls : List GilCall} {e : PythonExecutor}
    (hallowed : g.allows worker calls .resume = true)
    (h : g.executor.resume worker = some (e, events)) :
    e.stopping = g.executor.stopping ∧
    ((g.holderAfter worker .resume = g.holder ∧
        e.worker.isInside = g.executor.worker.isInside) ∨
      (g.holder = none ∧ g.holderAfter worker .resume = some worker ∧
        g.executor.worker.isInside = false ∧ e.worker.isInside = true) ∨
      (g.holder = some worker ∧ g.holderAfter worker .resume = none ∧
        e.worker.isInside = false)) := by
  unfold PythonExecutor.resume at h
  split at h
  · rename_i task rest hrunning
    cases h
    refine ⟨rfl, .inl ⟨?_, rfl⟩⟩
    simp only [holderAfter, hrunning]
  · rename_i hrunning
    split at h <;> rename_i hphase <;> simp only [allows, hrunning, hphase] at hallowed <;>
      simp only [holderAfter, hrunning, hphase]
    · cases h
      exact ⟨rfl, .inl ⟨trivial, rfl⟩⟩
    · unfold PythonExecutor.check at h
      split_ifs at h <;> cases h <;> exact ⟨rfl, .inl ⟨trivial, rfl⟩⟩
    · cases h
      exact ⟨rfl, .inr (.inl ⟨Option.isNone_iff_eq_none.mp hallowed, trivial, rfl, rfl⟩)⟩
    · cases h
      exact ⟨rfl, .inl ⟨trivial, rfl⟩⟩
    · cases h
      exact ⟨rfl, .inl ⟨trivial, rfl⟩⟩
    · cases h
      exact ⟨rfl, .inl ⟨trivial, rfl⟩⟩
    · cases h
      exact ⟨rfl, .inr (.inr ⟨of_decide_eq_true hallowed, trivial, rfl⟩)⟩
    · cases h
    · cases h

/-- Everything the executor can do with the GIL: it acquires it, releases it or leaves it. -/
lemma executor_cases {calls : List GilCall} {k : PyCommand} {e : PythonExecutor}
    {new : List PyCall} (hallowed : g.allows worker calls k = true)
    (h : g.executor.command worker (calls.map GilCall.toPyCall) k = some (e, new, events)) :
    (g.executor.stopping = true → e.stopping = true) ∧
    ((g.holderAfter worker k = g.holder ∧ e.worker.isInside = g.executor.worker.isInside) ∨
      (k = .resume ∧ notCalling worker (calls.map GilCall.toPyCall) = true ∧ new = [] ∧
        ((g.holder = none ∧ g.holderAfter worker k = some worker ∧
            g.executor.worker.isInside = false ∧ e.worker.isInside = true) ∨
          (g.holder = some worker ∧ g.holderAfter worker k = none ∧
            e.worker.isInside = false)))) := by
  cases k with
  | dispatch thread =>
    simp only [PythonExecutor.command] at h
    split at h
    · unfold PythonExecutor.dispatch at h
      split_ifs at h <;> cases h <;> exact ⟨id, .inl ⟨rfl, rfl⟩⟩
    · cases h
  | shutdown thread =>
    simp only [PythonExecutor.command] at h
    split at h
    · unfold PythonExecutor.shutdown at h
      split_ifs at h with hstopping <;> cases h
      · exact ⟨id, .inl ⟨rfl, rfl⟩⟩
      · exact ⟨fun _ => rfl, .inl ⟨rfl, rfl⟩⟩
    · cases h
  | wake =>
    simp only [PythonExecutor.command] at h
    split at h
    · rename_i hguard
      rw [Bool.and_eq_true, decide_eq_true_iff] at hguard
      cases h
      refine ⟨id, .inl ⟨rfl, ?_⟩⟩
      rw [hguard.2]
      rfl
    · cases h
  | resume =>
    simp only [PythonExecutor.command] at h
    split at h
    · rename_i hguard
      rw [Bool.and_eq_true] at hguard
      obtain ⟨⟨e', events'⟩, hresume, heq⟩ := Option.map_eq_some_iff.mp h
      cases heq
      obtain ⟨hstopping, hcases⟩ := resume_cases hallowed hresume
      refine ⟨fun h => hstopping.trans h, ?_⟩
      rcases hcases with hleaves | hchanges
      · exact .inl hleaves
      · exact .inr ⟨rfl, hguard.2, rfl, hchanges⟩
    · cases h

/-- A command leaves the calls that there are alone. -/
lemma Obeys.callOk {calls new : List GilCall} (h : g.Obeys worker calls g' new events)
    (hmem : call ∈ calls) (hcall : g.CallOk worker call) : g'.CallOk worker call := by
  have hbusy : ∀ thread, notBusy thread calls = true → call.phase ≠ .returned →
      call.thread ≠ thread := by
    intro thread hidle hphase
    have hor := List.all_eq_true.mp hidle call hmem
    rw [Bool.or_eq_true, decide_eq_true_iff, decide_eq_true_iff] at hor
    exact hor.resolve_right hphase
  -- a GIL that passes from nobody to a thread or back is none of the others' business
  have hpasses : ∀ {holder : Option ℕ} (thread : ℕ), call.thread ≠ thread →
      g.holder = none ∧ holder = some thread ∨ g.holder = some thread ∧ holder = none →
      (holder = some call.thread ↔ g.holder = some call.thread) := by
    rintro holder thread hne (⟨hold, rfl⟩ | ⟨hold, rfl⟩) <;> rw [hold] <;> simp [Ne.symm hne]
  cases h with
  | @executor e new events k allowed obeyed =>
    obtain ⟨hstopping, hcases⟩ := executor_cases allowed obeyed
    refine hcall.of_holder (fun hphase => ?_) hstopping
    rcases hcases with ⟨hsame, -⟩ | ⟨-, hidle, -, hchanges⟩
    · rw [hsame]
    · have hne : call.thread ≠ worker := by
        have hor := List.all_eq_true.mp hidle _ (List.mem_map_of_mem hmem)
        rw [Bool.or_eq_true, decide_eq_true_iff, decide_eq_true_iff] at hor
        rcases hor with hthread | hreturned
        · exact hthread
        · unfold CallOk at hcall
          cases hcase : call.phase with
          | restore released =>
            rw [hcase] at hcall
            exact hcall.2.1
          | returned => exact absurd hcase hphase
          | _ =>
            rw [GilCall.toPyCall, hcase] at hreturned
            cases hreturned
      rcases hchanges with ⟨hold, hnew, -⟩ | ⟨hold, hnew, -⟩
      · exact hpasses worker hne (.inl ⟨hold, hnew⟩)
      · exact hpasses worker hne (.inr ⟨hold, hnew⟩)
  | lend idle holds =>
    exact hcall.of_holder (fun hphase => hpasses worker (hbusy worker idle hphase)
      (.inr ⟨holds, rfl⟩)) id
  | takeBack idle lent free =>
    exact hcall.of_holder (fun hphase => hpasses worker (hbusy worker idle hphase)
      (.inl ⟨free, rfl⟩)) id
  | acquire thread idle foreign free =>
    exact hcall.of_holder (fun hphase => hpasses thread (hbusy thread idle hphase)
      (.inl ⟨free, rfl⟩)) id
  | drop thread idle foreign holds =>
    exact hcall.of_holder (fun hphase => hpasses thread (hbusy thread idle hphase)
      (.inr ⟨holds, rfl⟩)) id

/-- The GIL of the worker after a command. -/
lemma Obeys.workerHolds {calls new : List GilCall} (h : g.Obeys worker calls g' new events)
    (hworker : g.WorkerHolds worker) : g'.WorkerHolds worker := by
  cases h with
  | @executor e new events k allowed obeyed =>
    obtain ⟨-, hcases⟩ := executor_cases allowed obeyed
    rcases hcases with ⟨hholder, hinside⟩ | ⟨-, -, -, hchanges⟩
    · refine ⟨?_, ?_, ?_⟩ <;> dsimp only <;> rw [hinside]
      · rw [hholder]
        exact hworker.inside
      · rw [hholder]
        exact hworker.outside
      · exact hworker.lends
    · rcases hchanges with ⟨-, hnew, hbefore, hafter⟩ | ⟨hold, hnew, hafter⟩
      · have hlent : g.lent = false := by
          refine eq_false_of_ne_true fun hlent => ?_
          have hinside := hworker.lends hlent
          rw [hbefore] at hinside
          cases hinside
        exact ⟨fun _ _ => hnew, fun _ => ⟨hlent, hafter⟩, fun _ => hafter⟩
      · have hlent := (hworker.outside hold).1
        refine ⟨fun hinside => ?_, fun hholds => ?_, fun hcontra => ?_⟩
        · rw [hafter] at hinside
          cases hinside
        · rw [hnew] at hholds
          cases hholds
        · rw [hlent] at hcontra
          cases hcontra
  | lend idle holds =>
    refine ⟨fun _ hlent => ?_, fun hholds => ?_, fun _ => (hworker.outside holds).2⟩
    · cases hlent
    · cases hholds
  | takeBack idle lent free =>
    have hinside := hworker.lends lent
    exact ⟨fun _ _ => rfl, fun _ => ⟨rfl, hinside⟩, fun _ => hinside⟩
  | acquire thread idle foreign free =>
    refine ⟨fun hinside hlent => ?_, fun hholds => ?_, hworker.lends⟩
    · have hself := hworker.inside hinside hlent
      rw [free] at hself
      cases hself
    · exact absurd (Option.some.inj hholds) foreign
  | drop thread idle foreign holds =>
    refine ⟨fun hinside hlent => ?_, fun hholds => ?_, hworker.lends⟩
    · have hself := hworker.inside hinside hlent
      rw [holds] at hself
      exact absurd (Option.some.inj hself) foreign
    · cases hholds

end GilExecutor

/-- A new call is in order, and its thread was in none. -/
lemma GilExecutor.Obeys.new {g g' : GilExecutor} {calls new : List GilCall}
    {events : List (Event PyNote)} (h : g.Obeys worker calls g' new events) :
    new = [] ∨ ∃ call, new = [call] ∧ g'.CallOk worker call ∧
      notBusy call.thread calls = true := by
  cases h with
  | @executor e new events k allowed obeyed =>
    cases k with
    | dispatch thread =>
      simp only [PythonExecutor.command] at obeyed
      split at obeyed
      · unfold PythonExecutor.dispatch at obeyed
        split_ifs at obeyed <;> cases obeyed
        · exact .inl rfl
        · exact .inl rfl
        · exact .inr ⟨_, rfl, ⟨decide_eq_true_iff, by simp⟩, allowed⟩
      · cases obeyed
    | shutdown thread =>
      simp only [PythonExecutor.command] at obeyed
      split at obeyed
      · unfold PythonExecutor.shutdown at obeyed
        split_ifs at obeyed <;> cases obeyed
        · exact .inl rfl
        · exact .inr ⟨_, rfl, ⟨decide_eq_true_iff, fun _ => rfl⟩, allowed⟩
      · cases obeyed
    | wake =>
      simp only [PythonExecutor.command] at obeyed
      split at obeyed
      · cases obeyed
        exact .inl rfl
      · cases obeyed
    | resume =>
      simp only [PythonExecutor.command] at obeyed
      split at obeyed
      · obtain ⟨⟨e', events'⟩, -, heq⟩ := Option.map_eq_some_iff.mp obeyed
        cases heq
        exact .inl rfl
      · cases obeyed
  | lend | takeBack | acquire | drop => exact .inl rfl

namespace GilSystem

variable {s s' : GilSystem}

lemma kept_start {holder : Option ℕ} (hholder : holder ≠ some worker) :
    (GilSystem.start holder).Kept worker := by
  refine ⟨⟨?_, fun hcontra => absurd hcontra hholder, ?_⟩, ?_, ?_⟩
  · intro hinside
    cases hinside
  · intro hlent
    cases hlent
  · intro i call hcall
    cases hcall
  · intro i j call call' hcall
    cases hcall

lemma Kept.step (h : s.Kept worker) (hstep : (gilThreads worker).Step s s') : s'.Kept worker := by
  rcases hstep.cases with ⟨i, call, g, call', events, hcall, hadv, rfl⟩ |
    ⟨k, g, new, events, hcmd, rfl⟩
  · obtain ⟨-, hmoves⟩ := gilThreads_advance_cases hadv
    obtain ⟨hcall', hthread, hothers, hstopping⟩ := hmoves.callOk (h.call i call hcall)
    have hactive : call.phase ≠ .returned := by
      cases hmoves <;> simp [*]
    refine ⟨hmoves.workerHolds (h.call i call hcall) h.holds, fun j d hd => ?_,
      fun j j' d d' hd hd' hphase hphase' heq => ?_⟩
    · rcases Program.getElem?_set_cases hd with ⟨rfl, rfl⟩ | ⟨hne, hold⟩
      · exact hcall'
      · refine (h.call j d hold).of_holder (fun hphase => hothers d.thread fun heq => ?_)
          fun hstop => hstopping.trans hstop
        exact hne (h.distinct j i d call hold hcall hphase hactive heq)
    · rcases Program.getElem?_set_cases hd with ⟨rfl, rfl⟩ | ⟨hne, hold⟩ <;>
        rcases Program.getElem?_set_cases hd' with ⟨rfl, rfl⟩ | ⟨hne', hold'⟩
      · rfl
      · exact h.distinct _ _ call d' hcall hold' hactive hphase' (hthread.symm.trans heq)
      · exact h.distinct _ _ d call hold hcall hphase hactive (heq.trans hthread)
      · exact h.distinct j j' d d' hold hold' hphase hphase' heq
  · have hobeys := GilExecutor.command_obeys hcmd
    have hold : ∀ i call, s.procs[i]? = some call → g.CallOk worker call := fun i call hcall =>
      hobeys.callOk (List.mem_of_getElem? hcall) (h.call i call hcall)
    rcases hobeys.new with rfl | ⟨c, rfl, hnew, hidle⟩
    · rw [List.append_nil]
      exact ⟨hobeys.workerHolds h.holds, hold, h.distinct⟩
    · have hcases : ∀ {i : ℕ} {d : GilCall}, (s.procs ++ [c])[i]? = some d →
          s.procs[i]? = some d ∨ i = s.procs.length ∧ d = c := by
        intro i d hd
        rcases lt_or_ge i s.procs.length with hlt | hge
        · rw [List.getElem?_append_left hlt] at hd
          exact .inl hd
        · rw [List.getElem?_append_right hge, List.getElem?_singleton] at hd
          split_ifs at hd with hzero
          exact .inr ⟨by omega, (Option.some.inj hd).symm⟩
      have hforeign : ∀ {i : ℕ} {d : GilCall}, s.procs[i]? = some d → d.phase ≠ .returned →
          d.thread ≠ c.thread := by
        intro i d hd hphase
        have hor := List.all_eq_true.mp hidle d (List.mem_of_getElem? hd)
        rw [Bool.or_eq_true, decide_eq_true_iff, decide_eq_true_iff] at hor
        exact hor.resolve_right hphase
      refine ⟨hobeys.workerHolds h.holds, fun i d hd => ?_,
        fun i j d d' hd hd' hphase hphase' heq => ?_⟩
      · rcases hcases hd with hd | ⟨-, rfl⟩
        · exact hold i d hd
        · exact hnew
      · rcases hcases hd with hin | ⟨rfl, rfl⟩ <;> rcases hcases hd' with hin' | ⟨rfl, rfl⟩
        · exact h.distinct i j d d' hin hin' hphase hphase' heq
        · exact absurd heq (hforeign hin hphase)
        · exact absurd heq.symm (hforeign hin' hphase')
        · rfl

/-- What holds in every run. -/
theorem Reachable.kept (h : s.Reachable worker) : s.Kept worker := by
  obtain ⟨holder, hholder, hreach⟩ := h
  exact Program.Reachable.invariant (kept_start hholder) (fun _ _ _ hs hstep => hs.step hstep)
    hreach

end GilSystem

/-! ## Without the GIL -/

/-- The system without the GIL. -/
def GilSystem.toPySystem (s : GilSystem) : PySystem :=
  ⟨s.shared.executor, s.procs.map GilCall.toPyCall, s.log⟩

/-- A thread that is not in a call with the GIL is in none without it. -/
lemma notCalling_of_notBusy {thread : ℕ} {calls : List GilCall} (h : notBusy thread calls = true) :
    notCalling thread (calls.map GilCall.toPyCall) = true := by
  rw [notCalling, List.all_map]
  refine List.all_eq_true.mpr fun call hmem => ?_
  have hcall := List.all_eq_true.mp h call hmem
  rw [Bool.or_eq_true, decide_eq_true_iff, decide_eq_true_iff] at hcall
  rw [Function.comp_apply, Bool.or_eq_true, decide_eq_true_iff, decide_eq_true_iff]
  rcases hcall with hthread | hphase
  · exact .inl hthread
  · exact .inr (by rw [GilCall.toPyCall, hphase]; rfl)

/-- A step of a call with the GIL is a step of it without, or no step. -/
lemma GilExecutor.Moves.toPyCall {g g' : GilExecutor} {call call' : GilCall}
    {events : List (Event PyNote)} (h : g.Moves worker call g' call' events)
    (hcall : g.CallOk worker call) (hrunning : g.executor.terminated = false) (i : ℕ) :
    (g'.executor = g.executor ∧ call'.toPyCall = call.toPyCall ∧ events = []) ∨
      (pyThreads worker).advance i g.executor call.toPyCall =
        some (g'.executor, call'.toPyCall, events) := by
  cases h with
  | notify joins phase =>
    right
    cases joins <;> simp [pyThreads, hrunning, PythonExecutor.advance, GilCall.toPyCall, phase,
      GilPhase.toCallPhase]
  | joinItself phase own =>
    right
    simp [pyThreads, hrunning, PythonExecutor.advance, GilCall.toPyCall, phase,
      GilPhase.toCallPhase, own]
  | save phase | skip phase | restore phase | leave phase =>
    left
    simp [GilCall.toPyCall, phase, GilPhase.toCallPhase]
  | join released phase exited =>
    right
    unfold CallOk at hcall
    rw [phase] at hcall
    simp [pyThreads, hrunning, PythonExecutor.advance, GilCall.toPyCall, phase,
      GilPhase.toCallPhase, exited, hcall.2.1]

namespace GilSystem

variable {s s' : GilSystem}

/-- Every step with the GIL is a step without it, or changes only the GIL. -/
lemma Kept.step_toPySystem (hkept : s.Kept worker) (h : (gilThreads worker).Step s s') :
    Relation.ReflTransGen (pyThreads worker).Step s.toPySystem s'.toPySystem := by
  rcases h.cases with ⟨i, call, g, call', events, hcall, hadv, rfl⟩ |
    ⟨k, g, new, events, hcmd, rfl⟩
  · obtain ⟨hrunning, hmoves⟩ := gilThreads_advance_cases hadv
    rcases hmoves.toPyCall (hkept.call i call hcall) hrunning i with ⟨hexecutor, hsame, rfl⟩ | hpy
    · rw [toPySystem, toPySystem, Program.map_set_eq hcall hsame, hexecutor, List.append_nil]
    · refine .single ⟨.advance i, ?_⟩
      simp only [Program.perform, toPySystem, List.getElem?_map, hcall, Option.map_some,
        Option.bind_eq_bind, Option.bind_some, hpy, List.map_set]
  · cases GilExecutor.command_obeys hcmd with
    | @executor e new events k allowed obeyed =>
      have hnew : (new.map s.shared.newCall).map GilCall.toPyCall = new := by
        rw [List.map_map]
        exact (List.map_congr_left fun call _ => s.shared.toPyCall_newCall call).trans
          (List.map_id new)
      have hobeyed : (pyThreads worker).command k s.shared.executor
          (s.procs.map GilCall.toPyCall) = some (e, new, events) := obeyed
      refine .single ⟨.command k, ?_⟩
      simp only [Program.perform, toPySystem, hobeyed, Option.bind_eq_bind, Option.bind_some,
        List.map_append, hnew]
    | _ => rw [toPySystem, toPySystem, List.append_nil, List.append_nil]

/-- A run with the GIL is a run without it. -/
theorem Reachable.toPySystem (h : s.Reachable worker) : s.toPySystem.Reachable worker := by
  obtain ⟨holder, hholder, hreach⟩ := h
  induction hreach with
  | refl => exact .refl
  | tail hreach hstep ih =>
    exact ih.trans (Kept.step_toPySystem (Reachable.kept ⟨holder, hholder, hreach⟩) hstep)

end GilSystem

end Dynabridge.Executor
