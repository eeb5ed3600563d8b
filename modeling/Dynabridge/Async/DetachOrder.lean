import Dynabridge.Async.Completion

/-!
# The order of detaches

Several detaches may be made while an operation runs, from any threads.  Each of them passes the
section of `deliver` once, and the history of a run notes these passages in their order.  A detach
that passes during submission is only recorded; `submitted` takes the recorded one out of its slot
in a section of its own and then replays it as a detach like any other.

`detach_order` says whose error the handler gets: that of the detach that passed first, unless it
was recorded and another one passes before its replay does.
-/

namespace Dynabridge.Async

open Interleaving

variable {R E : Type} {access : Bool} {s s' : System R E}

/-! ## Passages -/

/-- A call passes the section of `deliver`. -/
structure Passage (R E : Type) where
  call : ℕ
  task : Task R E
  /-- `submitting` at that moment -/
  submitting : Bool
  deriving DecidableEq

/-- The error that the call carries. -/
def Passage.error (p : Passage R E) : Option E := p.task.result.map AsyncResult.error

/-- The passage that a choice makes. -/
def deliverPassage (s : System R E) : Choice (Command R E) → List (Passage R E)
  | .advance i =>
    match s.procs[i]? with
    | some ⟨t, .entry⟩ => if t.arguments.isSome then [⟨i, t, s.shared.state.submitting⟩] else []
    | _ => []
  | .command _ => []

/-- The passages of a run, in their order. -/
def passages (access : Bool) (cs : List (Choice (Command R E))) : List (Passage R E) :=
  (threads R E).history deliverPassage (System.start access) cs

/-- The first passage after submission has ended. -/
def firstLive (past : List (Passage R E)) : Option (Passage R E) :=
  past.find? fun p => !p.submitting

/-- A detach was recorded during submission, and one that a token made afterwards passes before
the recorded one is replayed. -/
def Overtaken (past : List (Passage R E)) : Prop :=
  (∃ p, past.head? = some p ∧ p.submitting = true) ∧
    ∃ q, firstLive past = some q ∧ q.task.ofStarter = false

section

variable {past : List (Passage R E)} {p : Passage R E}

lemma head?_append_passage : (past ++ [p]).head? = past.head?.or (some p) := by
  rw [List.head?_append]
  rfl

lemma firstLive_append_passage :
    firstLive (past ++ [p]) = (firstLive past).or (if p.submitting then none else some p) := by
  rw [firstLive, List.find?_append, firstLive, List.find?_singleton]
  cases p.submitting <;> rfl

lemma firstLive_eq_none_iff : firstLive past = none ↔ ∀ p ∈ past, p.submitting = true := by
  simp [firstLive]

lemma Task.error_of_arguments {i : ℕ} {t : Task R E} {r : AsyncResult R E} {retire b : Bool}
    (h : t.arguments = some (r, retire)) : Passage.error ⟨i, t, b⟩ = some r.error := by
  rw [Passage.error, Task.result, h]
  rfl

/-- Only a token's detach, and its replay, are neither retirements nor cleanups. -/
lemma Task.detach_of_arguments {t : Task R E} {r : AsyncResult R E}
    (h : t.arguments = some (r, false)) :
    t = .detach r.error ∨ t = .deferredDetach r.error := by
  cases t with
  | detach e =>
    cases h
    exact .inl rfl
  | deferredDetach e =>
    cases h
    exact .inr rfl
  | finish r => cases h
  | reject e => cases h
  | cleanup => cases h

end

/-! ## What the history tells about the state -/

/-- No `finish` was called, and submission was not refused. -/
structure OnlyDetaches (log : List (Event R E)) : Prop where
  finish : ∀ r, .called (.finish r) ∉ log
  accepted : ∀ e, ¬ Refusal log e

/-- How the state of an operation that is only ever detached follows from the passages made. -/
structure DetachHistory (s : System R E) (past : List (Passage R E)) : Prop where
  /-- the first passage is that of a token's detach -/
  first : ∀ p, past.head? = some p → ∃ e, p.task = .detach e
  /-- during submission every passage is recorded, and the slot keeps the first -/
  recorded : s.shared.state.submitting = true →
    s.shared.state.pendingDetach = past.head?.bind Passage.error ∧ firstLive past = none
  /-- the replay carries the error of the first passage -/
  replay : ∀ c ∈ s.procs, ∀ e, c.task = .deferredDetach e →
    ∃ p, past.head? = some p ∧ p.submitting = true ∧ p.task = .detach e
  /-- the first passage after submission delivers -/
  live : s.shared.state.delivered = (firstLive past).isSome
  delivers : ∀ i t, .delivered i t ∈ s.log → firstLive past = some ⟨i, t, false⟩
  occurred : past ≠ [] → Occurred s.log

lemma OnlyDetaches.of_prefix {log log' : List (Event R E)} (h : OnlyDetaches log')
    (hlog : log <+: log') : OnlyDetaches log :=
  ⟨fun r hr => h.finish r (hlog.subset hr), fun e he => h.accepted e (he.mono hlog)⟩

/-- A call that passes the section of `deliver` does not retire. -/
lemma OnlyDetaches.not_retires {log : List (Event R E)} {v : Invocation E} {t : Task R E}
    (h : OnlyDetaches log) (horigin : Origin v log t) : t.retires = false := by
  refine eq_false_of_ne_true fun ht => ?_
  rcases Task.retires_iff.mp ht with ⟨r, rfl⟩ | ⟨e, rfl⟩
  · exact h.finish r horigin
  · exact h.accepted e horigin

lemma Occurred.mono {log log' : List (Event R E)} (h : Occurred log) (hlog : log <+: log') :
    Occurred log' := by
  obtain ⟨e, he, hcompl⟩ := h
  exact ⟨e, hlog.subset he, hcompl⟩

lemma detachHistory_start : DetachHistory (System.start (R := R) (E := E) access) [] := by
  constructor
  · simp
  · intro _
    exact ⟨rfl, rfl⟩
  · simp [System.start]
  · rfl
  · simp [System.start]
  · simp

/-- The tasks of the calls are the same after one of them has advanced. -/
lemma DetachHistory.replay_set {past : List (Passage R E)} (h : DetachHistory s past) {i : ℕ}
    {t : Task R E} {ph ph' : Phase} (hc : s.procs[i]? = some ⟨t, ph⟩) :
    ∀ c ∈ s.procs.set i ⟨t, ph'⟩, ∀ e, c.task = .deferredDetach e →
      ∃ p, past.head? = some p ∧ p.submitting = true ∧ p.task = .detach e := by
  intro c hmem e hce
  rcases List.mem_or_eq_of_mem_set hmem with hold | rfl
  · exact h.replay c hold e hce
  · exact h.replay _ (List.mem_of_getElem? hc) e hce

/-- The first passage is that of a token's detach, as the replay has one before it. -/
lemma DetachHistory.first_append {past : List (Passage R E)} (h : DetachHistory s past) {i : ℕ}
    {t : Task R E} {ph : Phase} {r : AsyncResult R E} {b : Bool}
    (hc : s.procs[i]? = some ⟨t, ph⟩) (harg : t.arguments = some (r, false)) (p : Passage R E)
    (hp : (past ++ [Passage.mk i t b]).head? = some p) : ∃ e, p.task = .detach e := by
  rw [head?_append_passage] at hp
  cases hhead : past.head? with
  | some q =>
    rw [hhead, Option.some_or] at hp
    exact h.first p (hhead.trans hp)
  | none =>
    rw [hhead, Option.none_or] at hp
    obtain rfl : _ = p := Option.some.inj hp
    rcases Task.detach_of_arguments harg with rfl | rfl
    · exact ⟨_, rfl⟩
    · obtain ⟨q, hq, -⟩ := h.replay _ (List.mem_of_getElem? hc) _ rfl
      rw [hhead] at hq
      cases hq

/-- What is known about the replay stays known. -/
lemma DetachHistory.replay_append {past : List (Passage R E)} (h : DetachHistory s past) {i : ℕ}
    {t : Task R E} {ph ph' : Phase} (hc : s.procs[i]? = some ⟨t, ph⟩) (q : Passage R E) :
    ∀ c ∈ s.procs.set i ⟨t, ph'⟩, ∀ e, c.task = .deferredDetach e →
      ∃ p, (past ++ [q]).head? = some p ∧ p.submitting = true ∧ p.task = .detach e := by
  intro c hmem e hce
  obtain ⟨p, hp, hsub, htask⟩ := h.replay_set hc c hmem e hce
  refine ⟨p, ?_, hsub, htask⟩
  rw [head?_append_passage, hp, Option.some_or]

/-! ## One choice -/

/-- A detach is recorded: the slot keeps the first. -/
lemma DetachHistory.record {past : List (Passage R E)} (h : DetachHistory s past) {i : ℕ}
    {t : Task R E} {r : AsyncResult R E} (hc : s.procs[i]? = some ⟨t, .entry⟩)
    (harg : t.arguments = some (r, false)) (hsub : s.shared.state.submitting = true)
    (hocc : Occurred s.log) :
    DetachHistory
      ⟨{ s.shared with state :=
          { s.shared.state with pendingDetach := s.shared.state.pendingDetach.or (some r.error) } },
        s.procs.set i ⟨t, .returned⟩, s.log ++ []⟩
      (past ++ [⟨i, t, s.shared.state.submitting⟩]) := by
  obtain ⟨hpend, hlive⟩ := h.recorded hsub
  have hsame : firstLive (past ++ [⟨i, t, s.shared.state.submitting⟩]) = firstLive past := by
    rw [firstLive_append_passage, hsub, if_pos rfl, Option.or_none]
  refine ⟨h.first_append hc harg, fun _ => ⟨?_, hsame.trans hlive⟩, h.replay_append hc _, ?_, ?_,
    fun _ => hocc.mono (List.prefix_append _ _)⟩
  · rw [head?_append_passage]
    change s.shared.state.pendingDetach.or (some r.error) = _
    rw [hpend]
    cases hhead : past.head? with
    | none => exact (Task.error_of_arguments harg).symm
    | some q =>
      -- the first passage was that of a detach, so that the slot was not empty
      obtain ⟨e, he⟩ := h.first q hhead
      have herr : q.error = some e := by rw [Passage.error, he]; rfl
      rw [Option.some_or, Option.bind_some, herr, Option.some_or]
  · rw [hsame]
    exact h.live
  · intro j u hdel
    rw [List.append_nil] at hdel
    rw [hsame]
    exact h.delivers j u hdel

/-- A detach after submission delivers exactly if it is the first to pass. -/
lemma DetachHistory.observe {past : List (Passage R E)} (h : DetachHistory s past) {i : ℕ}
    {t : Task R E} {r : AsyncResult R E} {ph' : Phase} (hc : s.procs[i]? = some ⟨t, .entry⟩)
    (harg : t.arguments = some (r, false)) (hsub : s.shared.state.submitting = false)
    (hocc : Occurred s.log) :
    DetachHistory
      ⟨{ s.shared with state := { s.shared.state with delivered := true } },
        s.procs.set i ⟨t, ph'⟩,
        s.log ++ logIf (!s.shared.state.delivered) (.delivered i t)⟩
      (past ++ [⟨i, t, s.shared.state.submitting⟩]) := by
  have hlive : firstLive (past ++ [⟨i, t, s.shared.state.submitting⟩]) =
      (firstLive past).or (some ⟨i, t, false⟩) := by
    rw [firstLive_append_passage, hsub, if_neg Bool.false_ne_true]
  refine ⟨h.first_append hc harg, fun hcontra => ?_, h.replay_append hc _, ?_, ?_,
    fun _ => hocc.mono (List.prefix_append _ _)⟩
  · have hcontra' : s.shared.state.submitting = true := hcontra
    rw [hsub] at hcontra'
    cases hcontra'
  · rw [hlive]
    cases firstLive past <;> rfl
  · intro j u hdel
    rw [hlive]
    rcases List.mem_append.mp hdel with hold | hnew
    · rw [h.delivers j u hold, Option.some_or]
    · obtain ⟨hnone, heq⟩ := mem_logIf.mp hnew
      obtain ⟨rfl, rfl⟩ := Event.delivered.inj heq
      have hempty : firstLive past = none := by
        have hdelivered := h.live
        rw [Bool.not_eq_eq_eq_not.mp hnone] at hdelivered
        exact Option.isNone_iff_eq_none.mp (by simp [← Option.not_isSome, ← hdelivered])
      rw [hempty, Option.none_or]

/-- A step of a call that does not pass the section changes nothing that the history tells. -/
lemma DetachHistory.elsewhere {past : List (Passage R E)} (h : DetachHistory s past) {i : ℕ}
    {t : Task R E} {ph ph' : Phase} {o' : OperationState E} {events : List (Event R E)}
    (hc : s.procs[i]? = some ⟨t, ph⟩)
    (hsub : o'.submitting = s.shared.state.submitting)
    (hpend : o'.pendingDetach = s.shared.state.pendingDetach)
    (hdel : o'.delivered = s.shared.state.delivered) (hnot : ∀ j u, .delivered j u ∉ events) :
    DetachHistory
      ⟨{ s.shared with state := o' }, s.procs.set i ⟨t, ph'⟩, s.log ++ events⟩ past := by
  refine ⟨h.first, fun hs => ?_, h.replay_set hc, ?_, fun j u hmem => ?_,
    fun hne => (h.occurred hne).mono (List.prefix_append _ _)⟩
  · obtain ⟨hp, hl⟩ := h.recorded (hsub.symm.trans hs)
    exact ⟨hpend.trans hp, hl⟩
  · exact hdel.trans h.live
  · exact h.delivers j u ((List.mem_append.mp hmem).resolve_right (hnot j u))

/-- What the history tells after a step of a call. -/
lemma DetachHistory.moves {past : List (Passage R E)} (h : DetachHistory s past) {i : ℕ}
    {t : Task R E} {ph ph' : Phase} {o' : OperationState E} {events : List (Event R E)}
    (hc : s.procs[i]? = some ⟨t, ph⟩) (hm : Moves i t s.shared.state ph o' ph' events)
    (hretires : t.retires = false) (hocc : t.arguments.isSome = true → Occurred s.log) :
    DetachHistory ⟨{ s.shared with state := o' }, s.procs.set i ⟨t, ph'⟩, s.log ++ events⟩
      (past ++ deliverPassage s (.advance i)) := by
  have hnote : ph ≠ .entry → deliverPassage s (.advance i) = [] := by
    intro hne
    rw [deliverPassage, hc]
    cases ph with
    | entry => exact absurd rfl hne
    | _ => rfl
  cases hm with
  | enter harg =>
    have hnone : deliverPassage s (.advance i) = [] := by simp [deliverPassage, hc, harg]
    rw [hnone, List.append_nil past]
    exact h.elsewhere hc rfl rfl rfl (by simp)
  | record harg hsub =>
    have hpass : deliverPassage s (.advance i) = [⟨i, t, s.shared.state.submitting⟩] := by
      simp [deliverPassage, hc, harg]
    rw [hpass]
    exact h.record hc harg hsub (hocc (by simp [harg]))
  | observe harg hsub =>
    have hpass : deliverPassage s (.advance i) = [⟨i, t, s.shared.state.submitting⟩] := by
      simp [deliverPassage, hc, harg]
    rw [hpass]
    exact h.observe hc harg hsub (hocc (by simp [harg]))
  | late harg | retire harg =>
    rw [Task.retires_of_arguments harg] at hretires
    cases hretires
  | _ =>
    rw [hnote (by simp), List.append_nil past]
    exact h.elsewhere hc rfl rfl rfl (by simp)

/-- What the history tells after a command. -/
lemma DetachHistory.obeys {past : List (Passage R E)} (h : DetachHistory s past)
    (hflags : Flags access s.shared) {v' : Invocation E} {new : List (Call R E)}
    {events : List (Event R E)} (ho : Obeys s.shared s.procs v' new events) :
    DetachHistory ⟨v', s.procs ++ new, s.log ++ events⟩ past := by
  have hocc : past ≠ [] → Occurred (s.log ++ events) :=
    fun hne => (h.occurred hne).mono (List.prefix_append _ _)
  have hdelivers : ∀ i t, .delivered i t ∈ s.log ++ events →
      firstLive past = some ⟨i, t, false⟩ := fun i t hmem =>
    h.delivers i t ((List.mem_append.mp hmem).resolve_right (ho.not_delivery i t).2)
  have hreplay : (∀ c ∈ new, ∀ e, c.task = .deferredDetach e →
        ∃ p, past.head? = some p ∧ p.submitting = true ∧ p.task = .detach e) →
      ∀ c ∈ s.procs ++ new, ∀ e, c.task = .deferredDetach e →
        ∃ p, past.head? = some p ∧ p.submitting = true ∧ p.task = .detach e := by
    intro hnew c hc
    rcases List.mem_append.mp hc with hold | hmem
    · exact h.replay c hold
    · exact hnew c hmem
  cases ho with
  | token ht =>
    refine ⟨h.first, h.recorded, hreplay ?_, h.live, hdelivers, hocc⟩
    intro c hc e hce
    rw [List.mem_singleton.mp hc, Call.start] at hce
    obtain rfl : _ = Task.deferredDetach e := hce
    cases ht
  | deferDetach hst hpend =>
    rename_i e
    refine ⟨h.first, fun hsub => Bool.noConfusion hsub, hreplay ?_, h.live, hdelivers, hocc⟩
    have hsub : s.shared.state.submitting = true := by
      rw [hflags.submitting_eq, hst]
      rfl
    obtain ⟨hslot, hlive⟩ := h.recorded hsub
    rw [hpend] at hslot
    obtain ⟨p, hhead, herr⟩ := Option.bind_eq_some_iff.mp hslot.symm
    obtain ⟨e', he'⟩ := h.first p hhead
    have herr' : p.error = some e' := by
      rw [Passage.error, he']
      rfl
    obtain rfl : e' = e := Option.some.inj (herr'.symm.trans herr)
    intro c hc d hcd
    rw [List.mem_singleton.mp hc, Call.start] at hcd
    obtain rfl : e' = d := Task.deferredDetach.inj hcd
    exact ⟨p, hhead, firstLive_eq_none_iff.mp hlive p (List.mem_of_head? hhead), he'⟩
  | submitted =>
    refine ⟨h.first, fun hsub => Bool.noConfusion hsub, hreplay ?_, h.live, hdelivers, hocc⟩
    intro c hc e hce
    rw [List.mem_singleton.mp hc, Call.start] at hce
    cases hce
  | reject | detachReturned =>
    refine ⟨h.first, h.recorded, hreplay ?_, h.live, hdelivers, hocc⟩
    intro c hc e hce
    rw [List.mem_singleton.mp hc, Call.start] at hce
    cases hce
  | _ => exact ⟨h.first, h.recorded, hreplay (by simp), h.live, hdelivers, hocc⟩

/-- In every run of an operation that is only ever detached, its state follows from its history. -/
theorem detachHistory {cs : List (Choice (Command R E))}
    (h : (threads R E).run (System.start access) cs = some s) (honly : OnlyDetaches s.log) :
    DetachHistory s (passages access cs) := by
  revert honly
  refine Program.history_invariant
    (I := fun s past => OnlyDetaches s.log → DetachHistory s past)
    (fun _ => detachHistory_start) ?_ cs h
  intro s s' c past hreach ih hstep honly
  have hreach' : Reachable access s := hreach
  have hpast := ih (honly.of_prefix (Program.Step.log_prefix ⟨c, hstep⟩))
  cases c with
  | advance i =>
    simp only [Program.perform, bind, Option.bind_eq_some_iff] at hstep
    obtain ⟨⟨t, ph⟩, hc, ⟨v', c', events⟩, hadv, hs⟩ := hstep
    obtain rfl : _ = s' := Option.some.inj hs
    obtain ⟨o', ph', hm, rfl, rfl⟩ := threads_advance hadv
    have horigin : Origin s.shared s.log t := (hreach'.located.2 i _ hc).origin
    have hretires := (honly.of_prefix (List.prefix_append _ _)).not_retires horigin
    exact hpast.moves hc hm hretires horigin.occurred
  | command k =>
    obtain ⟨v', new, events, hcmd, rfl⟩ := Program.perform_command hstep
    rw [deliverPassage, List.append_nil]
    exact hpast.obeys hreach'.flags (Invocation.command_obeys hcmd)

/-! ## Whose error the handler gets -/

/-- What the handler gets is the error of the first passage after submission: of a token's detach,
or of the replay. -/
lemma DetachHistory.received {past : List (Passage R E)} (h : DetachHistory s past)
    (hreach : Reachable access s) (honly : OnlyDetaches s.log) {x : AsyncResult R E}
    (hx : x ∈ s.received) :
    ∃ i e, x = .failure e ∧
      (firstLive past = some ⟨i, .detach e, false⟩ ∨
        firstLive past = some ⟨i, .deferredDetach e, false⟩ ∧
          ∃ p, past.head? = some p ∧ p.submitting = true ∧ p.task = .detach e) := by
  obtain ⟨i, t, hdel, hres⟩ := hreach.delivered_of_received hx
  have hretires := honly.not_retires (hreach.justified _ hdel).2
  have hlive := h.delivers i t hdel
  obtain ⟨⟨r, b⟩, harg, hr⟩ := Option.map_eq_some_iff.mp hres
  rw [Task.retires_of_arguments harg] at hretires
  rw [hretires] at harg
  rcases Task.detach_of_arguments harg with rfl | rfl
  · exact ⟨i, r.error, (Option.some.inj hres).symm, .inl hlive⟩
  · refine ⟨i, r.error, (Option.some.inj hres).symm, .inr ⟨hlive, ?_⟩⟩
    have htask := hreach.task_of_event i _ (.inr hdel)
    rw [List.getElem?_map, Option.map_eq_some_iff] at htask
    obtain ⟨c, hc, hct⟩ := htask
    exact h.replay c (List.mem_of_getElem? hc) _ hct

/-- Where no passage was made during submission, the first passage is the first one after it. -/
lemma head?_eq_firstLive {past : List (Passage R E)} {q : Passage R E}
    (hlive : firstLive past = some q)
    (hnot : ¬ ∃ p, past.head? = some p ∧ p.submitting = true) : past.head? = some q := by
  cases past with
  | nil => cases hlive
  | cons p past =>
    have hp : p.submitting = false := by
      refine eq_false_of_ne_true fun hsub => hnot ⟨p, rfl, hsub⟩
    rw [firstLive, List.find?_cons_of_pos (by simp [hp])] at hlive
    exact hlive

/-- In every run whose submission is not refused and in which nothing finishes, the handler gets
the error of the detach that passed the section of `deliver` first; if that detach was recorded
during submission and another one passes between the section of `submitted` and the replay, it
gets the error of the first such detach.  At quiescence it has got one error if there was a
detach. -/
theorem detach_order {cs : List (Choice (Command R E))}
    (h : (threads R E).run (System.start access) cs = some s)
    (hfinish : ∀ r, .called (.finish r) ∉ s.log) (haccepted : ∀ e, ¬ Refusal s.log e) :
    (¬ Overtaken (passages access cs) → ∀ x ∈ s.received,
      ∃ p e, (passages access cs).head? = some p ∧ p.task = .detach e ∧ x = .failure e) ∧
    (Overtaken (passages access cs) → ∀ x ∈ s.received,
      ∃ p e, firstLive (passages access cs) = some p ∧ p.task = .detach e ∧ x = .failure e) ∧
    (Quiescent s → passages access cs ≠ [] → s.received.length = 1) := by
  have hreach : Reachable access s := Program.reachable_of_run cs h
  have honly : OnlyDetaches s.log := ⟨hfinish, haccepted⟩
  have hpast := detachHistory h honly
  refine ⟨fun hnot x hx => ?_, fun hover x hx => ?_, fun hq hne => ?_⟩
  · obtain ⟨i, e, hxe, hlive | ⟨-, p, hp, -, htask⟩⟩ := hpast.received hreach honly hx
    · -- a token's detach that overtakes nothing passed first
      have hhead := head?_eq_firstLive hlive fun hfirst => hnot ⟨hfirst, _, hlive, rfl⟩
      exact ⟨_, e, hhead, rfl, hxe⟩
    · exact ⟨p, e, hp, htask, hxe⟩
  · obtain ⟨i, e, hxe, hlive | ⟨hlive, -⟩⟩ := hpast.received hreach honly hx
    · exact ⟨_, e, hlive, rfl, hxe⟩
    · obtain ⟨-, q, hq, htoken⟩ := hover
      obtain rfl : _ = q := Option.some.inj (hlive.symm.trans hq)
      cases htoken
  · have hdelivered := hq.delivered hreach (hpast.occurred hne)
    obtain ⟨i, t, r, hdel, hres, -⟩ := hreach.exists_delivered hdelivered
    rw [hq.received_eq hreach hdel hres]
    rfl

/-- A detach during submission and one after it, which passes only once the replay has. -/
def replayedRun : List (Choice (Command ℕ ℕ)) :=
  [.command (.detach 5), .advance 0, .command (.conclude .accepted), .command .resume,
    .command (.detach 6), .advance 1, .advance 1, .advance 1, .advance 1, .advance 1,
    .advance 2, .advance 2, .advance 2, .advance 2, .advance 2,
    .command .resume, .advance 3, .advance 3, .command .resume]

/-- The same calls, but the second detach passes before the replay does. -/
def overtakingRun : List (Choice (Command ℕ ℕ)) :=
  [.command (.detach 5), .advance 0, .command (.conclude .accepted), .command .resume,
    .command (.detach 6), .advance 2, .advance 2, .advance 2, .advance 2, .advance 2,
    .advance 1, .advance 1, .advance 1, .advance 1, .advance 1,
    .command .resume, .advance 3, .advance 3, .command .resume]

/-- The passages of the two runs. -/
lemma passages_runs :
    passages true replayedRun =
        [⟨0, .detach 5, true⟩, ⟨1, .deferredDetach 5, false⟩, ⟨2, .detach 6, false⟩] ∧
      passages true overtakingRun =
        [⟨0, .detach 5, true⟩, ⟨2, .detach 6, false⟩, ⟨1, .deferredDetach 5, false⟩] := by
  decide +kernel

/-- The handler gets the error of the recorded detach in the one run and that of the second detach
in the other. -/
theorem detach_order_runs :
    (∃ s : System ℕ ℕ, (threads ℕ ℕ).run (System.start true) replayedRun = some s ∧
      s.received.length = 1 ∧ ∀ x ∈ s.received, x = .failure 5) ∧
    ∃ s : System ℕ ℕ, (threads ℕ ℕ).run (System.start true) overtakingRun = some s ∧
      s.received.length = 1 ∧ ∀ x ∈ s.received, x = .failure 6 := by
  obtain ⟨hreplayed, hovertaking⟩ := passages_runs
  constructor
  · obtain ⟨s, hrun, hq, hlog⟩ : ∃ s ∈ (threads ℕ ℕ).run (System.start true) replayedRun,
        Quiescent s ∧ s.log = [.called (.detach 5), .concluded .accepted, .called (.detach 6),
          .delivered 1 (.deferredDetach 5), .handled 1 (.deferredDetach 5)] := by
      decide +kernel
    have horder := detach_order hrun (by simp [hlog]) (by simp [Refusal, hlog, Outcome.error])
    rw [hreplayed] at horder
    have hnot : ¬ Overtaken (R := ℕ)
        [⟨0, .detach 5, true⟩, ⟨1, .deferredDetach 5, false⟩, ⟨2, .detach 6, false⟩] := by
      simp [Overtaken, firstLive, Task.ofStarter]
    refine ⟨s, hrun, horder.2.2 hq (by simp), fun x hx => ?_⟩
    obtain ⟨p, e, hp, htask, hxe⟩ := horder.1 hnot x hx
    cases hp
    cases htask
    exact hxe
  · obtain ⟨s, hrun, hq, hlog⟩ : ∃ s ∈ (threads ℕ ℕ).run (System.start true) overtakingRun,
        Quiescent s ∧ s.log = [.called (.detach 5), .concluded .accepted, .called (.detach 6),
          .delivered 2 (.detach 6), .handled 2 (.detach 6)] := by
      decide +kernel
    have horder := detach_order hrun (by simp [hlog]) (by simp [Refusal, hlog, Outcome.error])
    rw [hovertaking] at horder
    have hover : Overtaken (R := ℕ)
        [⟨0, .detach 5, true⟩, ⟨2, .detach 6, false⟩, ⟨1, .deferredDetach 5, false⟩] := by
      simp [Overtaken, firstLive, Task.ofStarter]
    refine ⟨s, hrun, horder.2.2 hq (by simp), fun x hx => ?_⟩
    obtain ⟨p, e, hp, htask, hxe⟩ := horder.2.1 hover x hx
    cases hp
    cases htask
    exact hxe

/-- A token's detach passes between the section of `submitted`, which takes the recorded detach
out of its slot, and the replay: the handler gets its error, not that of the recorded one. -/
theorem detach_overtaken :
    ∃ s : System ℕ ℕ, (threads ℕ ℕ).run (System.start true) overtakingRun = some s ∧
      Quiescent s ∧
      s.log = [.called (.detach 5), .concluded .accepted, .called (.detach 6),
        .delivered 2 (.detach 6), .handled 2 (.detach 6)] ∧
      (passages true overtakingRun).head? = some ⟨0, .detach 5, true⟩ ∧
      s.received = [.failure 6] := by
  have hrun : ∃ s ∈ (threads ℕ ℕ).run (System.start true) overtakingRun, Quiescent s ∧
      s.log = [.called (.detach 5), .concluded .accepted, .called (.detach 6),
        .delivered 2 (.detach 6), .handled 2 (.detach 6)] ∧
      (passages true overtakingRun).head? = some ⟨0, .detach 5, true⟩ ∧
      System.received s = [.failure 6] := by
    decide +kernel
  exact hrun

end Dynabridge.Async
