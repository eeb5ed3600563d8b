import Dynabridge.Async.Invariants

/-!
# What the calls and the events of a run say about its past

`Located` is the assertion of a call at its program counter and `Justified` that of a logged
event: which earlier events they presuppose.  `Agreement` relates delivery and retirement:
during submission, and whenever the submit body rejects, the call that delivers is the call
that retires.  The obligations at the end say who will clean a retired operation, who will
retire a rejected one, and who will deliver a completed one.
-/

namespace Dynabridge.Async

open Interleaving

variable {R E : Type} {access : Bool} {s s' : System R E}

/-! ## Steps -/

lemma Moves.submitting_eq {i : ℕ} {t : Task R E} {o o' : OperationState E} {ph ph' : Phase}
    {events : List (Event R E)} (hm : Moves i t o ph o' ph' events) :
    o'.submitting = o.submitting := by
  cases hm <;> rfl

lemma Moves.retired_of_retired {i : ℕ} {t : Task R E} {o o' : OperationState E} {ph ph' : Phase}
    {events : List (Event R E)} (hm : Moves i t o ph o' ph' events) (h : o.retired = true) :
    o'.retired = true := by
  cases hm with
  | retire => rfl
  | _ => exact h

lemma Moves.not_retired_of_not_retired {i : ℕ} {t : Task R E} {o o' : OperationState E}
    {ph ph' : Phase} {events : List (Event R E)} (hm : Moves i t o ph o' ph' events)
    (h : o'.retired = false) : o.retired = false :=
  eq_false_of_ne_true fun hret => Bool.false_ne_true (h.symm.trans (hm.retired_of_retired hret))

/-- A move logs no event of a command. -/
lemma Moves.not_command {i : ℕ} {t : Task R E} {o o' : OperationState E} {ph ph' : Phase}
    {events : List (Event R E)} (hm : Moves i t o ph o' ph' events) :
    (∀ u, .called u ∉ events) ∧ ∀ c, .concluded c ∉ events := by
  cases hm <;> simp

/-- Only a retiring call logs a retirement, when there was none. -/
lemma Moves.of_retired {i j : ℕ} {t u : Task R E} {o o' : OperationState E} {ph ph' : Phase}
    {events : List (Event R E)} (hm : Moves i t o ph o' ph' events)
    (h : .retired j u ∈ events) :
    j = i ∧ u = t ∧ t.retires = true ∧ o.retired = false ∧
      (o.delivered = false → .delivered i t ∈ events) := by
  cases hm with
  | retire harg hret =>
    simp only [List.mem_cons, Event.retired.injEq, mem_logIf, reduceCtorEq, and_false,
      or_false] at h
    refine ⟨h.1, h.2, Task.retires_of_arguments harg, hret, fun hdel => ?_⟩
    simp [hdel]
  | _ => simp at h

/-- A delivery is logged by a call that retires with it, or by a detach after submission. -/
lemma Moves.of_delivered {i j : ℕ} {t u : Task R E} {o o' : OperationState E} {ph ph' : Phase}
    {events : List (Event R E)} (hm : Moves i t o ph o' ph' events)
    (h : .delivered j u ∈ events) :
    j = i ∧ u = t ∧ t.arguments.isSome = true ∧ o.delivered = false ∧
      (.retired i t ∈ events ∨ o.submitting = false) := by
  cases hm with
  | retire harg hret =>
    simp only [List.mem_cons, reduceCtorEq, mem_logIf, Bool.not_eq_true', Event.delivered.injEq,
      false_or] at h
    obtain ⟨hdel, rfl, rfl⟩ := h
    exact ⟨rfl, rfl, by simp [harg], hdel, .inl List.mem_cons_self⟩
  | observe harg hsub =>
    simp only [mem_logIf, Bool.not_eq_true', Event.delivered.injEq] at h
    obtain ⟨hdel, rfl, rfl⟩ := h
    exact ⟨rfl, rfl, by simp [harg], hdel, .inr hsub⟩
  | _ => simp at h

/-- What a step never takes back. -/
structure Later (s s' : System R E) : Prop where
  retired : s.shared.state.retired = true → s'.shared.state.retired = true
  submitted : s.shared.state.submitting = false → s'.shared.state.submitting = false
  log : s.log <+: s'.log

lemma Moves.later {i : ℕ} {t : Task R E} {o' : OperationState E} {ph ph' : Phase}
    {events : List (Event R E)} (hm : Moves i t s.shared.state ph o' ph' events)
    (calls : List (Call R E)) :
    Later s ⟨{ s.shared with state := o' }, calls, s.log ++ events⟩ :=
  ⟨hm.retired_of_retired, fun hsub => hm.submitting_eq.trans hsub, List.prefix_append _ _⟩

lemma Later.of_step (h : (threads R E).Step s s') : Later s s' := by
  have hlog := h.log_prefix
  rcases h.cases with ⟨i, c, v, c', events, -, hadv, rfl⟩ | ⟨k, v, new, events, hcmd, rfl⟩
  · obtain ⟨t, ph⟩ := c
    obtain ⟨o', ph', hm, rfl, rfl⟩ := threads_advance hadv
    exact hm.later _
  · have ho := Invocation.command_obeys hcmd
    cases ho with
    | deferDetach | submitted => exact ⟨id, fun _ => rfl, hlog⟩
    | _ => exact ⟨id, id, hlog⟩

/-! ## Where a call comes from -/

/-- The submit body ended with the error `e`. -/
def Refusal (log : List (Event R E)) (e : E) : Prop :=
  ∃ o, .concluded o ∈ log ∧ o.error = some e

/-- Why a call with this task was made. -/
def Origin (v : Invocation E) (log : List (Event R E)) : Task R E → Prop
  | .finish r => .called (.finish r) ∈ log
  | .detach e => .called (.detach e) ∈ log
  | .reject e => Refusal log e
  | .deferredDetach e => .called (.detach e) ∈ log ∧ v.state.submitting = false
  | .cleanup => True

/-- What a call knows at its program counter. -/
def AtPhase (access : Bool) (log : List (Event R E)) (i : ℕ) (t : Task R E) : Phase → Prop
  | .consume b a | .release b a =>
    (b = true → .delivered i t ∈ log) ∧ (t.retires = true → .retired i t ∈ log) ∧
      a = (access && t.retires)
  | .invoke b =>
    (b = true → .delivered i t ∈ log) ∧
      (access = true → t.retires = true → .accessReleased i ∈ log)
  | .resetContext => .operationReleased i ∈ log
  | .entry | .cleanup | .resetOperation | .returned => True

/-- The assertion of call number `i`. -/
structure Located (access : Bool) (v : Invocation E) (log : List (Event R E)) (i : ℕ)
    (c : Call R E) : Prop where
  origin : Origin v log c.task
  entered : c.phase ≠ .entry → c.task.retires = true → v.state.retired = true
  atPhase : AtPhase access log i c.task c.phase

/-- Where the errors that travel through the shared state come from. -/
structure Pending (v : Invocation E) (log : List (Event R E)) : Prop where
  detach : ∀ e, v.state.pendingDetach = some e → .called (.detach e) ∈ log
  rejection : ∀ e, v.starter = .rejecting e → Refusal log e

lemma Refusal.mono {log log' : List (Event R E)} {e : E} (h : Refusal log e)
    (hlog : log <+: log') : Refusal log' e := by
  obtain ⟨o, hmem, ho⟩ := h
  exact ⟨o, hlog.subset hmem, ho⟩

lemma Origin.mono {t : Task R E} (h : Origin s.shared s.log t) (hl : Later s s') :
    Origin s'.shared s'.log t := by
  cases t with
  | finish r => exact hl.log.subset h
  | detach e => exact hl.log.subset h
  | reject e => exact Refusal.mono h hl.log
  | deferredDetach e => exact ⟨hl.log.subset h.1, hl.submitted h.2⟩
  | cleanup => trivial

lemma AtPhase.mono {log log' : List (Event R E)} {i : ℕ} {t : Task R E} {ph : Phase}
    (h : AtPhase access log i t ph) (hlog : log <+: log') : AtPhase access log' i t ph := by
  cases ph with
  | consume b a | release b a =>
    exact ⟨fun hb => hlog.subset (h.1 hb), fun ht => hlog.subset (h.2.1 ht), h.2.2⟩
  | invoke b => exact ⟨fun hb => hlog.subset (h.1 hb), fun ha ht => hlog.subset (h.2 ha ht)⟩
  | resetContext => exact hlog.subset h
  | entry | cleanup | resetOperation | returned => trivial

lemma Located.mono {i : ℕ} {c : Call R E} (h : Located access s.shared s.log i c)
    (hl : Later s s') : Located access s'.shared s'.log i c :=
  ⟨h.origin.mono hl, fun hne ht => hl.retired (h.entered hne ht), h.atPhase.mono hl.log⟩

/-- A call that enters keeps, or establishes, its assertion. -/
lemma Moves.entered {i : ℕ} {t : Task R E} {o o' : OperationState E} {ph ph' : Phase}
    {events : List (Event R E)} (hm : Moves i t o ph o' ph' events)
    (h : ph ≠ .entry → t.retires = true → o.retired = true) (ht : t.retires = true) :
    o'.retired = true := by
  cases hm with
  | enter harg => simp [Task.retires, harg] at ht
  | record harg hsub => simp [Task.retires, harg] at ht
  | late harg hret => exact hret
  | retire harg hret => rfl
  | observe harg hsub => simp [Task.retires, harg] at ht
  | _ => exact h (by simp) ht

lemma Moves.atPhase {i : ℕ} {t : Task R E} {v : Invocation E} {o' : OperationState E}
    {ph ph' : Phase} {log events : List (Event R E)} (hm : Moves i t v.state ph o' ph' events)
    (hv : Flags access v) (h : AtPhase access log i t ph) :
    AtPhase access (log ++ events) i t ph' := by
  cases hm with
  | retire harg hret =>
    have ht := Task.retires_of_arguments harg
    refine ⟨fun hdel => ?_, fun _ => by simp, ?_⟩
    · simp [hdel]
    · rw [hv.access_eq, hret, ht, Bool.not_false]
  | observe harg hsub =>
    have ht := Task.retires_of_arguments harg
    refine ⟨fun hdel => ?_, fun hret => ?_, ?_⟩
    · simp [hdel]
    · rw [ht] at hret
      cases hret
    · rw [ht, Bool.and_false]
  | consume | skip => exact h.mono (List.prefix_append _ _)
  | release =>
    obtain ⟨hdel, hret, rfl⟩ := h
    refine ⟨fun hb => List.mem_append_left _ (hdel hb), fun ha ht => ?_⟩
    simp [ha, ht]
  | resetOperation => exact List.mem_append_right _ List.mem_cons_self
  | _ => trivial

/-- A recorded detach is one that some thread made. -/
lemma Moves.pending {i : ℕ} {t : Task R E} {v : Invocation E} {o' : OperationState E}
    {ph ph' : Phase} {log events : List (Event R E)} (hm : Moves i t v.state ph o' ph' events)
    (hv : Pending v log) (horigin : Origin v log t) :
    Pending { v with state := o' } (log ++ events) := by
  have hlog : log <+: log ++ events := List.prefix_append _ _
  refine ⟨fun e he => ?_, fun e he => (hv.rejection e he).mono hlog⟩
  apply hlog.subset
  cases hm with
  | record harg hsub =>
    rcases Option.or_eq_some_iff.mp he with hold | ⟨-, hnew⟩
    · exact hv.detach e hold
    · cases Option.some.inj hnew
      cases t with
      | detach e =>
        cases harg
        exact horigin
      | deferredDetach e =>
        cases harg
        exact horigin.1
      | finish r => cases harg
      | reject e => cases harg
      | cleanup => cases harg
  | _ => exact hv.detach e he

lemma Obeys.pending {v v' : Invocation E} {calls new : List (Call R E)}
    {log events : List (Event R E)} (ho : Obeys v calls v' new events) (hv : Pending v log) :
    Pending v' (log ++ events) := by
  have hlog : log <+: log ++ events := List.prefix_append _ _
  have hdetach : ∀ e, v.state.pendingDetach = some e → .called (.detach e) ∈ log ++ events :=
    fun e he => hlog.subset (hv.detach e he)
  cases ho with
  | token => exact ⟨hdetach, fun e he => (hv.rejection e he).mono hlog⟩
  | refuse h herr =>
    rename_i o e
    refine ⟨hdetach, fun e' he' => ⟨o, by simp, ?_⟩⟩
    cases he'
    exact herr
  | deferDetach | submitted =>
    constructor
    · intro e he
      cases he
    · intro e he
      cases he
  | _ =>
    refine ⟨hdetach, fun e he => ?_⟩
    cases he

/-- The calls that a command starts satisfy their assertion. -/
lemma Obeys.located {v v' : Invocation E} {calls new : List (Call R E)}
    {log events : List (Event R E)} (ho : Obeys v calls v' new events) (hv : Pending v log)
    (i : ℕ) (c : Call R E) (hc : c ∈ new) : Located access v' (log ++ events) i c := by
  have hentry := ho.entry c hc
  refine ⟨?_, fun hne => absurd hentry hne, ?_⟩
  · cases ho with
    | token ht =>
      cases List.mem_singleton.mp hc
      rename_i t
      cases t with
      | finish r => exact List.mem_append_right _ List.mem_cons_self
      | detach e => exact List.mem_append_right _ List.mem_cons_self
      | reject e => cases ht
      | deferredDetach e => cases ht
      | cleanup => cases ht
    | reject h hret =>
      cases List.mem_singleton.mp hc
      exact (hv.rejection _ h).mono (List.prefix_append _ _)
    | deferDetach h hpend =>
      cases List.mem_singleton.mp hc
      exact ⟨List.mem_append_left _ (hv.detach _ hpend), rfl⟩
    | submitted h hpend =>
      cases List.mem_singleton.mp hc
      trivial
    | detachReturned h hown =>
      cases List.mem_singleton.mp hc
      trivial
    | accept | refuse | abort | rejectionReturned | cleanupReturned => cases hc
  · rw [hentry]
    trivial

/-- In every reachable state the assertions of all calls hold. -/
theorem Reachable.located (h : Reachable access s) :
    Pending s.shared s.log ∧
      ∀ i c, s.procs[i]? = some c → Located access s.shared s.log i c := by
  refine Program.Reachable.proof_outline ?_ ?_ ?_ ?_ h
  · refine ⟨⟨fun e he => ?_, fun e he => ?_⟩, fun i c hc => ?_⟩
    · cases he
    · cases he
    · simp [System.start] at hc
  · intro s i c v' c' events hreach hG hP hadv
    obtain ⟨t, ph⟩ := c
    obtain ⟨o', ph', hm, rfl, rfl⟩ := threads_advance hadv
    have hflags : Flags access s.shared := Reachable.flags hreach
    exact ⟨hm.pending hG hP.origin, hP.origin.mono (hm.later []),
      fun _ ht => hm.entered hP.entered ht, hm.atPhase hflags hP.atPhase⟩
  · intro s k v' new events _ hG hcmd
    have ho := Invocation.command_obeys hcmd
    exact ⟨ho.pending hG, fun i c hc => ho.located hG i c hc⟩
  · intro s s' _ hstep i c hP
    exact hP.mono (Later.of_step hstep)

/-! ## What an event presupposes -/

/-- What held, and holds still, once the event is logged. -/
def Justified (access : Bool) (v : Invocation E) (log : List (Event R E)) : Event R E → Prop
  | .retired _ t => t.retires = true ∧ Origin v log t
  | .delivered _ t => t.arguments.isSome = true ∧ Origin v log t
  | .accessReleased i => ∃ t, .retired i t ∈ log
  | .handled i t =>
    .delivered i t ∈ log ∧
      (access = true → t.retires = true → Precedes log (.accessReleased i) (.handled i t))
  | .contextReleased i => .operationReleased i ∈ log
  | .called _ | .concluded _ | .operationReleased _ => True

lemma Justified.mono {e : Event R E} (h : Justified access s.shared s.log e) (hl : Later s s') :
    Justified access s'.shared s'.log e := by
  cases e with
  | retired i t => exact ⟨h.1, h.2.mono hl⟩
  | delivered i t => exact ⟨h.1, h.2.mono hl⟩
  | accessReleased i =>
    obtain ⟨t, ht⟩ := h
    exact ⟨t, hl.log.subset ht⟩
  | handled i t => exact ⟨hl.log.subset h.1, fun ha ht => (h.2 ha ht).mono hl.log⟩
  | contextReleased i => exact hl.log.subset h
  | called | concluded | operationReleased => trivial

/-- The assertion of a call justifies the events it logs. -/
lemma Moves.justified {i : ℕ} {t : Task R E} {v v' : Invocation E} {o' : OperationState E}
    {ph ph' : Phase} {log events : List (Event R E)} (hm : Moves i t v.state ph o' ph' events)
    (horigin : Origin v' (log ++ events) t) (hphase : AtPhase access log i t ph) (e : Event R E)
    (he : e ∈ events) : Justified access v' (log ++ events) e := by
  cases hm with
  | retire harg hret =>
    rcases List.mem_cons.mp he with rfl | hdel
    · exact ⟨Task.retires_of_arguments harg, horigin⟩
    · obtain ⟨-, rfl⟩ := mem_logIf.mp hdel
      exact ⟨by simp [harg], horigin⟩
  | observe harg hsub =>
    obtain ⟨-, rfl⟩ := mem_logIf.mp he
    exact ⟨by simp [harg], horigin⟩
  | release =>
    obtain ⟨ha, rfl⟩ := mem_logIf.mp he
    obtain ⟨-, hret, hown⟩ := hphase
    rw [ha, eq_comm, Bool.and_eq_true] at hown
    exact ⟨t, List.mem_append_left _ (hret hown.2)⟩
  | invoke =>
    obtain ⟨hb, rfl⟩ := mem_logIf.mp he
    obtain ⟨hdel, hrel⟩ := hphase
    exact ⟨List.mem_append_left _ (hdel hb), fun ha ht => precedes_append (hrel ha ht) he⟩
  | resetOperation =>
    rw [List.mem_singleton.mp he]
    trivial
  | resetContext =>
    rw [List.mem_singleton.mp he]
    exact List.mem_append_left _ hphase
  | _ => cases he

/-- In every reachable state every logged event is justified. -/
theorem Reachable.justified (h : Reachable access s) :
    ∀ e ∈ s.log, Justified access s.shared s.log e := by
  refine Program.Reachable.log_invariant ?_ ?_ ?_ ?_ h
  · intro e he
    cases he
  · intro s i c v' c' events hreach hc hadv e he
    have hP := (Reachable.located hreach).2 i c hc
    obtain ⟨t, ph⟩ := c
    obtain ⟨o', ph', hm, rfl, rfl⟩ := threads_advance hadv
    exact hm.justified (hP.origin.mono (hm.later [])) hP.atPhase e he
  · intro s k v' new events _ hcmd e he
    have ho := Invocation.command_obeys hcmd
    cases ho <;> simp_all [Justified]
  · intro s s' _ hstep e he
    exact he.mono (Later.of_step hstep)

end Dynabridge.Async
