import Dynabridge.Executor.PythonLifetime

/-!
# Batches of the Python executor

The batches are numbered in the order in which the worker takes them, and each of them is
executed and destroyed between the two calls that acquire and release the GIL for it.  That
the batches are disjoint follows from the order of the queue: `PythonExecutor.Batched.queued`.
-/

namespace Dynabridge.Executor

open Interleaving Handover

variable {worker : ℕ}

/-- The batches that the worker has taken, with their numbers. -/
def taken (log : List (Event PyNote)) : List (ℕ × List Task) :=
  log.filterMap fun e =>
    match e with
    | .noted (.taken n batch) => some (n, batch)
    | _ => none

/-- The batches for which the GIL was released. -/
def released (log : List (Event PyNote)) : List ℕ :=
  log.filterMap fun e =>
    match e with
    | .noted (.released n) => some n
    | _ => none

@[simp] lemma taken_append (log log' : List (Event PyNote)) :
    taken (log ++ log') = taken log ++ taken log' := List.filterMap_append

@[simp] lemma released_append (log log' : List (Event PyNote)) :
    released (log ++ log') = released log ++ released log' := List.filterMap_append

lemma mem_taken {log : List (Event PyNote)} {n : ℕ} {batch : List Task} :
    (n, batch) ∈ taken log ↔ .noted (.taken n batch) ∈ log := by
  unfold taken
  apply mem_filterMap_iff
  intro e
  split <;> simp_all

lemma mem_released {log : List (Event PyNote)} {n : ℕ} :
    n ∈ released log ↔ .noted (.released n) ∈ log := by
  unfold released
  apply mem_filterMap_iff
  intro e
  split <;> simp_all

/-! ## The numbering of the batches -/

/-- The batches are numbered, the GIL was released for all of them but the one in hand, and the
tasks go through them in the order of the queue. -/
structure PythonExecutor.Batched (s : PythonExecutor) (log : List (Event PyNote)) : Prop where
  numbered : (taken log).map Prod.fst = List.range s.batches
  settled : released log ++ s.worker.batch?.toList = List.range s.batches
  queued : (((taken log).map Prod.snd).flatten ++ s.tasks).Sublist (dispatched log)
  placed : ∀ p ∈ taken log, ∀ t ∈ p.2, t ∈ started log ∨ t ∈ s.worker.unstarted

lemma PythonExecutor.Obeys.numbered {s s' : PythonExecutor} {new : List PyCall}
    {events log : List (Event PyNote)} (h : s.Obeys worker s' new events)
    (hs : (taken log).map Prod.fst = List.range s.batches) :
    (taken (log ++ events)).map Prod.fst = List.range s'.batches := by
  rw [taken_append, List.map_append, hs]
  cases h with
  | take => exact (List.range_succ).symm
  | _ => exact List.append_nil _

lemma PythonExecutor.Obeys.settled {s s' : PythonExecutor} {new : List PyCall}
    {events log : List (Event PyNote)} (h : s.Obeys worker s' new events)
    (hs : released log ++ s.worker.batch?.toList = List.range s.batches) :
    released (log ++ events) ++ s'.worker.batch?.toList = List.range s'.batches := by
  rw [released_append]
  cases h with
  | terminate | inline | enqueue | shutdown | shutdownAgain | taskReturns =>
    simpa [released] using hs
  | take phase =>
    rw [phase] at hs
    simpa [released, Worker.batch?, List.range_succ] using hs
  | enter phase | exit phase | sleep phase | wake phase | ensure n batch phase
  | execute n batch task rest phase | endBatch n batch phase | destroy n batch task rest phase
  | release n batch phase =>
    rw [phase] at hs
    simpa [released, Worker.batch?] using hs

lemma PythonExecutor.Obeys.queued {s s' : PythonExecutor} {new : List PyCall}
    {events log : List (Event PyNote)} (h : s.Obeys worker s' new events)
    (hs : (((taken log).map Prod.snd).flatten ++ s.tasks).Sublist (dispatched log)) :
    (((taken (log ++ events)).map Prod.snd).flatten ++ s'.tasks).Sublist
      (dispatched (log ++ events)) := by
  have hkeep (htaken : taken events = []) {tasks : List Task}
      (htasks : (((taken log).map Prod.snd).flatten ++ tasks).Sublist
        (dispatched log ++ dispatched events)) :
      (((taken (log ++ events)).map Prod.snd).flatten ++ tasks).Sublist
        (dispatched (log ++ events)) := by
    rw [taken_append, htaken, List.append_nil, dispatched_append]
    exact htasks
  cases h with
  | enqueue thread =>
    apply hkeep rfl
    rw [← List.append_assoc]
    exact hs.append_right [⟨s.accepted, thread⟩]
  | take =>
    -- the queue becomes the batch
    have hbatch : ((taken [.noted (.taken s.batches s.tasks)]).map Prod.snd).flatten = s.tasks :=
      List.append_nil s.tasks
    rw [taken_append, List.map_append, List.flatten_append, hbatch, List.append_nil,
      dispatched_append]
    exact hs.trans (List.sublist_append_left _ _)
  | _ => exact hkeep rfl (hs.trans (List.sublist_append_left _ _))

lemma PythonExecutor.Obeys.placed {s s' : PythonExecutor} {new : List PyCall}
    {events log : List (Event PyNote)} (h : s.Obeys worker s' new events)
    (hs : ∀ p ∈ taken log, ∀ t ∈ p.2, t ∈ started log ∨ t ∈ s.worker.unstarted) :
    ∀ p ∈ taken (log ++ events), ∀ t ∈ p.2,
      t ∈ started (log ++ events) ∨ t ∈ s'.worker.unstarted := by
  intro p hp t ht
  rw [taken_append, List.mem_append] at hp
  rw [started_append, List.mem_append]
  cases h with
  | take phase =>
    rcases hp with hold | hnew
    · have hplace := hs p hold t ht
      rw [phase] at hplace
      exact .inl (.inl (hplace.resolve_right (by simp [Worker.unstarted])))
    · obtain rfl := List.mem_singleton.mp hnew
      exact .inr ht
  | execute n batch task rest phase =>
    have hplace := hs p (hp.resolve_right (by simp [taken])) t ht
    rw [phase] at hplace
    rcases hplace with hstarted | hunstarted
    · exact .inl (.inl hstarted)
    · rcases List.mem_cons.mp hunstarted with rfl | hrest
      · exact .inl (.inr (List.mem_singleton.mpr rfl))
      · exact .inr hrest
  | terminate | inline | enqueue | shutdown | shutdownAgain | taskReturns =>
    exact (hs p (hp.resolve_right (by simp [taken])) t ht).imp_left .inl
  | enter phase | exit phase | sleep phase | wake phase | ensure n batch phase
  | endBatch n batch phase | destroy n batch task rest phase | release n batch phase =>
    have hplace := hs p (hp.resolve_right (by simp [taken])) t ht
    rw [phase] at hplace
    exact hplace.imp_left .inl

lemma PythonExecutor.Obeys.batched {s s' : PythonExecutor} {new : List PyCall}
    {events log : List (Event PyNote)} (h : s.Obeys worker s' new events)
    (hs : s.Batched log) : s'.Batched (log ++ events) :=
  ⟨h.numbered hs.numbered, h.settled hs.settled, h.queued hs.queued, h.placed hs.placed⟩

section

variable {s : PythonExecutor} {log : List (Event PyNote)}

/-- A batch is known by its number. -/
lemma PythonExecutor.Batched.batch_eq (h : s.Batched log) {n : ℕ} {batch batch' : List Task}
    (hmem : (n, batch) ∈ taken log) (hmem' : (n, batch') ∈ taken log) : batch = batch' := by
  have hnodup : ((taken log).map Prod.fst).Nodup := by
    rw [h.numbered]
    exact List.nodup_range
  exact (Prod.mk.inj (List.inj_on_of_nodup_map hnodup hmem hmem' rfl)).2

/-- A task is in one batch only. -/
lemma PythonExecutor.Batched.number_eq (h : s.Batched log) (hnodup : (dispatched log).Nodup)
    {n m : ℕ} {batch batch' : List Task} (hmem : (n, batch) ∈ taken log)
    (hmem' : (m, batch') ∈ taken log) {t : Task} (ht : t ∈ batch) (ht' : t ∈ batch') : n = m := by
  have hflat : ((taken log).map Prod.snd).flatten.Nodup :=
    (List.nodup_append.mp (hnodup.sublist h.queued)).1
  have hapart := (List.nodup_flatten.mp hflat).2
  rw [List.pairwise_map] at hapart
  have hsymm : Std.Symm fun p q : ℕ × List Task => p.2.Disjoint q.2 :=
    ⟨fun _ _ hdisjoint => hdisjoint.symm⟩
  by_contra hne
  exact hapart.forall hmem hmem' (fun heq => hne (Prod.mk.inj heq).1) ht ht'

/-- The task of a batch that was taken was dispatched. -/
lemma PythonExecutor.Batched.mem_dispatched (h : s.Batched log) {n : ℕ} {batch : List Task}
    (hmem : (n, batch) ∈ taken log) {t : Task} (ht : t ∈ batch) : t ∈ dispatched log := by
  refine h.queued.subset (List.mem_append_left _ (List.mem_flatten.mpr ⟨batch, ?_, ht⟩))
  exact List.mem_map.mpr ⟨_, hmem, rfl⟩

/-- A batch was released, or it is the one in hand. -/
lemma PythonExecutor.Batched.released_or (h : s.Batched log) {n : ℕ} {batch : List Task}
    (hmem : (n, batch) ∈ taken log) : n ∈ released log ∨ s.worker.batch? = some n := by
  have hrange : n ∈ List.range s.batches := by
    rw [← h.numbered]
    exact List.mem_map.mpr ⟨_, hmem, rfl⟩
  rw [← h.settled, List.mem_append, Option.mem_toList] at hrange
  exact hrange

lemma PythonExecutor.Batched.number_lt (h : s.Batched log) {n : ℕ} (hn : n ∈ released log) :
    n < s.batches := by
  have hrange : n ∈ List.range s.batches := by
    rw [← h.settled]
    exact List.mem_append_left _ hn
  exact List.mem_range.mp hrange

end

/-! ## The GIL -/

/-- What the worker has recorded of the batch it has in hand. -/
def PythonExecutor.BatchOk (s : PythonExecutor) (log : List (Event PyNote)) : Worker → Prop
  | .ensuring n batch => (n, batch) ∈ taken log
  | .executing n batch rest =>
    (n, batch) ∈ taken log ∧ .noted (.ensured n) ∈ log ∧ rest ⊆ batch ∧
      ∀ t ∈ batch, t ∈ rest ∨ t ∈ s.running ∨ t ∈ finished log
  | .clearing n batch rest =>
    (n, batch) ∈ taken log ∧ rest ⊆ batch ∧
      ∀ t ∈ batch, t ∈ finished log ∧ (t ∈ rest ∨ .noted (.destroyed t) ∈ log)
  | .starting | .checking | .asleep | .exited => True

/-- The record stays true while the tasks that were running run on or return. -/
lemma PythonExecutor.BatchOk.mono {s s' : PythonExecutor} {log events : List (Event PyNote)}
    {w : Worker} (h : s.BatchOk log w)
    (hrunning : ∀ t ∈ s.running, t ∈ s'.running ∨ t ∈ finished (log ++ events)) :
    s'.BatchOk (log ++ events) w := by
  have hfinished : ∀ t ∈ finished log, t ∈ finished (log ++ events) := by
    intro t ht
    rw [finished_append]
    exact List.mem_append_left _ ht
  have htaken : ∀ p ∈ taken log, p ∈ taken (log ++ events) := by
    intro p hp
    rw [taken_append]
    exact List.mem_append_left _ hp
  cases w with
  | starting | checking | asleep | exited => trivial
  | ensuring n batch => exact htaken _ h
  | executing n batch rest =>
    obtain ⟨hmem, hensured, hrest, hall⟩ := h
    refine ⟨htaken _ hmem, List.mem_append_left _ hensured, hrest, fun t ht => ?_⟩
    rcases hall t ht with hleft | hruns | hdone
    · exact .inl hleft
    · exact .inr (hrunning t hruns)
    · exact .inr (.inr (hfinished t hdone))
  | clearing n batch rest =>
    obtain ⟨hmem, hrest, hall⟩ := h
    refine ⟨htaken _ hmem, hrest, fun t ht => ⟨hfinished t (hall t ht).1, ?_⟩⟩
    exact (hall t ht).2.imp_right (List.mem_append_left _)

lemma PythonExecutor.Obeys.batchOk {s s' : PythonExecutor} {new : List PyCall}
    {events log : List (Event PyNote)} (h : s.Obeys worker s' new events)
    (hs : s.BatchOk log s.worker) : s'.BatchOk (log ++ events) s'.worker := by
  cases h with
  | enter | exit | sleep | release | wake => trivial
  | terminate | shutdown | shutdownAgain | enqueue => exact hs.mono fun t ht => .inl ht
  | inline => exact hs.mono fun t ht => .inl (List.mem_cons_of_mem _ ht)
  | taskReturns task rest running =>
    refine hs.mono fun t ht => ?_
    rw [running] at ht
    rcases List.mem_cons.mp ht with rfl | hrest
    · exact .inr (by simp)
    · exact .inl hrest
  | take =>
    refine mem_taken.mpr (List.mem_append_right _ (List.mem_singleton.mpr rfl))
  | ensure n batch phase =>
    rw [phase] at hs
    refine ⟨?_, List.mem_append_right _ (List.mem_singleton.mpr rfl), List.Subset.refl _,
      fun t ht => .inl ht⟩
    rw [taken_append]
    exact List.mem_append_left _ hs
  | execute n batch task rest phase running =>
    rw [phase] at hs
    have hlater : s.BatchOk (log ++ [.started task]) (.executing n batch (task :: rest)) :=
      hs.mono fun t ht => .inl ht
    obtain ⟨hmem, hensured, hrest, hall⟩ := hlater
    refine ⟨hmem, hensured, fun t ht => hrest (List.mem_cons_of_mem _ ht), fun t ht => ?_⟩
    rcases hall t ht with hleft | hruns | hdone
    · rcases List.mem_cons.mp hleft with rfl | hleft
      · exact .inr (.inl (List.mem_singleton.mpr rfl))
      · exact .inl hleft
    · rw [running] at hruns
      cases hruns
    · exact .inr (.inr hdone)
  | endBatch n batch phase running =>
    rw [phase] at hs
    obtain ⟨hmem, -, -, hall⟩ := hs
    rw [List.append_nil]
    refine ⟨hmem, List.Subset.refl _, fun t ht => ⟨?_, .inl ht⟩⟩
    rcases hall t ht with hleft | hruns | hdone
    · cases hleft
    · rw [running] at hruns
      cases hruns
    · exact hdone
  | destroy n batch task rest phase =>
    rw [phase] at hs
    have hlater : s.BatchOk (log ++ [.noted (.destroyed task)])
        (.clearing n batch (task :: rest)) := hs.mono fun t ht => .inl ht
    obtain ⟨hmem, hrest, hall⟩ := hlater
    refine ⟨hmem, fun t ht => hrest (List.mem_cons_of_mem _ ht), fun t ht =>
      ⟨(hall t ht).1, ?_⟩⟩
    rcases (hall t ht).2 with hleft | hgone
    · rcases List.mem_cons.mp hleft with rfl | hleft
      · exact .inr (List.mem_append_right _ (List.mem_singleton.mpr rfl))
      · exact .inl hleft
    · exact .inr hgone

/-- What every command keeps of the batches. -/
structure PythonExecutor.Recorded (s : PythonExecutor) (log : List (Event PyNote)) : Prop where
  accounted : s.Accounted log
  batched : s.Batched log
  inHand : s.BatchOk log s.worker

lemma PythonExecutor.Obeys.recorded {s s' : PythonExecutor} {new : List PyCall}
    {events log : List (Event PyNote)} (h : s.Obeys worker s' new events)
    (hs : s.Recorded log) : s'.Recorded (log ++ events) :=
  ⟨h.accounted hs.accounted, h.batched hs.batched, h.batchOk hs.inHand⟩

lemma PythonExecutor.recorded_construct : construct.Recorded [] :=
  ⟨.empty, ⟨rfl, rfl, List.Sublist.refl _, by simp [taken]⟩, trivial⟩

/-- Recording the return of a `shutdown` does not touch the batches. -/
lemma PythonExecutor.Recorded.shutDown {s : PythonExecutor} {log : List (Event PyNote)}
    (hs : s.Recorded log) : s.Recorded (log ++ [.noted .shutDown]) := by
  obtain ⟨hnumbered, hsettled, hqueued, hplaced⟩ := hs.batched
  refine ⟨hs.accounted.note _, ⟨?_, ?_, ?_, ?_⟩, hs.inHand.mono fun t ht => .inl ht⟩
  · simpa [taken] using hnumbered
  · simpa [released] using hsettled
  · simpa [taken] using hqueued
  · simpa [taken] using hplaced

lemma PySystem.Reachable.recorded {s : PySystem} (h : s.Reachable worker) :
    s.shared.Recorded s.log :=
  h.global (G := PythonExecutor.Recorded) PythonExecutor.recorded_construct
    (fun _ _ _ _ _ hobeys hs => hobeys.recorded hs) fun _ _ _ hs => hs.shutDown

/-- Tasks are executed and destroyed between the two calls for their batch. -/
structure Bracketed (log : List (Event PyNote)) : Prop where
  started : ∀ n batch, (n, batch) ∈ taken log → ∀ t ∈ batch, .started t ∈ log →
    Precedes log (.noted (.ensured n)) (.started t)
  finished : ∀ t, .finished t ∈ log → Precedes log (.started t) (.finished t)
  destroyed : ∀ t, .noted (.destroyed t) ∈ log →
    Precedes log (.finished t) (.noted (.destroyed t))
  released : ∀ n batch, (n, batch) ∈ taken log → ∀ t ∈ batch, .noted (.released n) ∈ log →
    Precedes log (.noted (.destroyed t)) (.noted (.released n))

section

variable {s s' : PythonExecutor} {new : List PyCall} {events log : List (Event PyNote)}

lemma PythonExecutor.Obeys.started_follows (h : s.Obeys worker s' new events)
    (hs : s.Recorded log) (hb : Bracketed log) {n : ℕ} {batch : List Task}
    (hmem : (n, batch) ∈ taken (log ++ events)) {t : Task} (ht : t ∈ batch) :
    .started t ∈ log ++ events → Precedes (log ++ events) (.noted (.ensured n)) (.started t) := by
  rw [taken_append, List.mem_append] at hmem
  refine follows_append ?_ ?_
  · intro hstarted
    rcases hmem with hold | hnew
    · exact hb.started n batch hold t ht hstarted
    · -- what is taken now has not started
      cases h with
      | take phase =>
        obtain ⟨rfl, rfl⟩ := Prod.mk.inj (List.mem_singleton.mp hnew)
        have hwaits : t ∈ s.waiting := List.mem_append_right _ ht
        exact absurd (mem_started.mpr hstarted)
          (hs.accounted.placed.not_mem_left hs.accounted.numbered.nodup hwaits)
      | _ => simp [taken] at hnew
  · intro hstarted
    cases h with
    | inline thread =>
      obtain rfl : t = ⟨s.accepted, thread⟩ := by simpa using hstarted
      have hold := hmem.resolve_right (by simp [taken])
      have hlt := hs.accounted.numbered.number_lt (hs.batched.mem_dispatched hold ht)
      exact absurd hlt (Nat.lt_irrefl _)
    | execute m batch' task rest phase =>
      obtain rfl : t = task := by simpa using hstarted
      have hold := hmem.resolve_right (by simp [taken])
      have hinHand := hs.inHand
      rw [phase] at hinHand
      obtain ⟨hmem', hensured, hrest, -⟩ := hinHand
      obtain rfl := hs.batched.number_eq hs.accounted.numbered.nodup hold hmem' ht
        (hrest List.mem_cons_self)
      exact hensured
    | _ => simp at hstarted

lemma PythonExecutor.Obeys.finished_follows (h : s.Obeys worker s' new events)
    (hs : s.Recorded log) (hb : Bracketed log) {t : Task} :
    .finished t ∈ log ++ events → Precedes (log ++ events) (.started t) (.finished t) := by
  refine follows_append (hb.finished t) fun hfinished => ?_
  cases h with
  | taskReturns task rest running =>
    obtain rfl : t = task := by simpa using hfinished
    refine mem_started.mp (hs.accounted.returned.mem_of_mem_waiting ?_)
    rw [running]
    exact List.mem_cons_self
  | _ => simp at hfinished

lemma PythonExecutor.Obeys.destroyed_follows (h : s.Obeys worker s' new events)
    (hs : s.Recorded log) (hb : Bracketed log) {t : Task} :
    .noted (.destroyed t) ∈ log ++ events →
      Precedes (log ++ events) (.finished t) (.noted (.destroyed t)) := by
  refine follows_append (hb.destroyed t) fun hdestroyed => ?_
  cases h with
  | destroy n batch task rest phase =>
    obtain rfl : t = task := by simpa using hdestroyed
    have hinHand := hs.inHand
    rw [phase] at hinHand
    exact mem_finished.mp (hinHand.2.2 t (hinHand.2.1 List.mem_cons_self)).1
  | _ => simp at hdestroyed

lemma PythonExecutor.Obeys.released_follows (h : s.Obeys worker s' new events)
    (hs : s.Recorded log) (hb : Bracketed log) {n : ℕ} {batch : List Task}
    (hmem : (n, batch) ∈ taken (log ++ events)) {t : Task} (ht : t ∈ batch) :
    .noted (.released n) ∈ log ++ events →
      Precedes (log ++ events) (.noted (.destroyed t)) (.noted (.released n)) := by
  rw [taken_append, List.mem_append] at hmem
  refine follows_append ?_ ?_
  · intro hreleased
    rcases hmem with hold | hnew
    · exact hb.released n batch hold t ht hreleased
    · -- the batch that is taken now has a new number
      cases h with
      | take phase =>
        obtain ⟨rfl, rfl⟩ := Prod.mk.inj (List.mem_singleton.mp hnew)
        exact absurd (hs.batched.number_lt (mem_released.mpr hreleased)) (Nat.lt_irrefl _)
      | _ => simp [taken] at hnew
  · intro hreleased
    cases h with
    | release m batch' phase =>
      obtain rfl : n = m := by simpa using hreleased
      have hold := hmem.resolve_right (by simp [taken])
      have hinHand := hs.inHand
      rw [phase] at hinHand
      obtain ⟨hmem', -, hall⟩ := hinHand
      obtain rfl := hs.batched.batch_eq hold hmem'
      exact (hall t ht).2.resolve_left List.not_mem_nil
    | _ => simp at hreleased

end

/-- Recording the return of a `shutdown` does not touch the tasks. -/
lemma Bracketed.shutDown {log : List (Event PyNote)} (h : Bracketed log) :
    Bracketed (log ++ [.noted .shutDown]) := by
  have htaken : taken (log ++ [.noted .shutDown]) = taken log := by
    rw [taken_append]
    exact List.append_nil _
  refine ⟨?_, ?_, ?_, ?_⟩
  · intro n batch hmem t ht
    rw [htaken] at hmem
    exact follows_append (h.started n batch hmem t ht) (by simp)
  · exact fun t => follows_append (h.finished t) (by simp)
  · exact fun t => follows_append (h.destroyed t) (by simp)
  · intro n batch hmem t ht
    rw [htaken] at hmem
    exact follows_append (h.released n batch hmem t ht) (by simp)

lemma PySystem.Reachable.bracketed {s : PySystem} (h : s.Reachable worker) :
    Bracketed s.log := by
  have hboth : s.shared.Recorded s.log ∧ Bracketed s.log := by
    refine h.global (G := fun s log => s.Recorded log ∧ Bracketed log) ?_ ?_ ?_
    · exact ⟨PythonExecutor.recorded_construct, by simp, by simp, by simp, by simp⟩
    · rintro s s' new events log hobeys ⟨hs, hb⟩
      exact ⟨hobeys.recorded hs, fun n batch hmem t ht => hobeys.started_follows hs hb hmem ht,
        fun t => hobeys.finished_follows hs hb, fun t => hobeys.destroyed_follows hs hb,
        fun n batch hmem t ht => hobeys.released_follows hs hb hmem ht⟩
    · exact fun s log _ hs => ⟨hs.1.shutDown, hs.2.shutDown⟩
  exact hboth.2

/-- A `shutdown` that joins the worker returns after the end of the worker. -/
lemma PySystem.Reachable.exited_of_shutDown {s : PySystem} (h : s.Reachable worker)
    (hreturned : .noted .shutDown ∈ s.log) : s.shared.worker = .exited := by
  refine h.global (G := fun s log => .noted .shutDown ∈ log → s.worker = .exited) (by simp) ?_
    (fun s log hexited _ _ => hexited) hreturned
  intro s s' new events log hobeys hs hmem
  rcases List.mem_append.mp hmem with hold | hnew
  · -- nothing leads out of the last phase
    have hexited := hs hold
    cases hobeys with
    | terminate | inline | enqueue | shutdown | shutdownAgain | taskReturns => exact hexited
    | exit => rfl
    | enter phase | take phase | sleep phase | ensure n batch phase
    | execute n batch task rest phase | endBatch n batch phase | destroy n batch task rest phase
    | release n batch phase | wake phase =>
      rw [hexited] at phase
      cases phase
  · cases hobeys <;> simp at hnew

/-! ## The whole run -/

/-- Where nothing waits and nothing runs, every accepted task has returned, once. -/
lemma PySystem.Reachable.finished_perm {s : PySystem} (h : s.Reachable worker)
    (hwaiting : s.shared.waiting = []) (hrunning : s.shared.running = []) :
    (finished s.log).Perm (dispatched s.log) := by
  have haccounted := h.accounted
  rw [PythonExecutor.Accounted, hwaiting, hrunning] at haccounted
  exact haccounted.finished_perm

/-- In every run every accepted task waits or has started, once, and then is running or has
returned; when nothing happens any more by itself, all of them have returned.  The tasks of each
thread start in the order in which it dispatched them, and each task that was queued is executed
and destroyed between the calls that acquire and release the GIL for its batch.  The worker
ends, and the `shutdown` that joins it returns, only with an empty queue and every accepted task
returned. -/
theorem python_tasks_executed {s : PySystem} (h : s.Reachable worker) :
    (dispatched s.log).Nodup ∧
    (∀ t, s.shared.waiting.count t + (started s.log).count t = (dispatched s.log).count t) ∧
    (∀ t, s.shared.running.count t + (finished s.log).count t = (started s.log).count t) ∧
    (s.Quiescent worker → (finished s.log).Perm (dispatched s.log)) ∧
    StartsInOrder s.log ∧
    Bracketed s.log ∧
    (∀ n batch, .noted (.taken n batch) ∈ s.log →
      .noted (.released n) ∈ s.log ∨ s.shared.worker.batch? = some n) ∧
    (.noted .shutDown ∈ s.log → s.shared.worker = .exited) ∧
    (s.shared.worker = .exited → s.shared.tasks = [] ∧
      (finished s.log).Perm (dispatched s.log)) := by
  have haccounted := h.accounted
  have hexit : s.shared.worker = .exited →
      s.shared.tasks = [] ∧ (finished s.log).Perm (dispatched s.log) := by
    intro hphase
    have hstage := h.staged.stage
    rw [hphase] at hstage
    obtain ⟨-, hrunning, -, htasks⟩ := hstage
    refine ⟨htasks, h.finished_perm ?_ hrunning⟩
    simp [PythonExecutor.waiting, hphase, htasks, Worker.unstarted]
  refine ⟨haccounted.numbered.nodup, fun t => ?_, fun t => ?_, fun hq => ?_, h.startsInOrder,
    h.bracketed, fun n batch hmem => ?_, h.exited_of_shutDown, hexit⟩
  · have hcount := haccounted.placed.count_add_count t
    omega
  · have hcount := haccounted.returned.count_add_count t
    omega
  · obtain ⟨hrunning, ⟨hphase, -, htasks⟩ | hphase⟩ := hq.worker_cases h
    · refine h.finished_perm ?_ hrunning
      simp [PythonExecutor.waiting, hphase, htasks, Worker.unstarted]
    · exact (hexit hphase).2
  · have hsettled := h.recorded.batched.released_or (mem_taken.mpr hmem)
    rwa [mem_released] at hsettled

/-- Two batches, the second of them taken after the executor was stopped, and a task that the
worker starts in place. -/
theorem python_tasks_executed_shutDown :
    ∃ s : PySystem, s.Reachable 9 ∧ .noted .shutDown ∈ s.log ∧
      dispatched s.log = [⟨0, 1⟩, ⟨1, 9⟩, ⟨2, 1⟩] ∧
      (finished s.log).Perm (dispatched s.log) := by
  obtain ⟨s, hreach, hreturned, hdispatched⟩ := (pyThreads 9).exists_reachable
    [.command .resume, .command .resume, .command (.dispatch 1), .advance 0, .command .resume,
      .command .resume, .command .resume, .command (.dispatch 9), .command (.dispatch 1),
      .advance 1, .command (.shutdown 2), .advance 2, .command .resume, .command .resume,
      .command .resume, .command .resume, .command .resume, .command .resume, .command .resume,
      .command .resume, .command .resume, .command .resume, .command .resume, .command .resume,
      .command .resume, .advance 2]
    (s := PySystem.start)
    (q := fun s => .noted .shutDown ∈ s.log ∧
      dispatched s.log = [⟨0, 1⟩, ⟨1, 9⟩, ⟨2, 1⟩]) (by decide +kernel)
  obtain ⟨-, -, -, -, -, -, -, hjoined, hdone⟩ := python_tasks_executed hreach
  exact ⟨s, hreach, hreturned, hdispatched, (hdone (hjoined hreturned)).2⟩

end Dynabridge.Executor
