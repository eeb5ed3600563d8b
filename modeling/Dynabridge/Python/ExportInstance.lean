import Dynabridge.Foundations.Runs
import Dynabridge.Python.Interpreter

/-!
# The proxy of an exported instance

An instance of an exported class stores its native proxy inline.  A constructor call, be it a
call of the type, an `__init__` after `tp_new`, or an `__init__` that Python code calls while a
native constructor runs, asks whether the instance has been initialised, runs the native
constructor in the storage and then records the proxy.

The events of one instance follow from the calls that are made on it.  Its calls nest, so the
native constructors at work in its storage form a stack.
-/

namespace Dynabridge.Python

open Runs

/-- `export_instance_object`, and what happens in its storage.  Proxies are numbered in the order
in which their constructors start. -/
structure ExportInstance where
  /-- `native`, by the proxy that was recorded last -/
  native : Option ℕ := none
  /-- `ctx != nullptr` -/
  ctx : Bool := false
  /-- `destroy != nullptr` -/
  destroy : Bool := false
  /-- the native constructors at work, the innermost first -/
  constructing : List ℕ := []
  /-- the proxies whose lifetime has begun and was not ended by a destructor -/
  alive : List ℕ := []
  started : ℕ := 0
  /-- the proxies whose constructor has returned -/
  completed : List ℕ := []
  /-- the proxies that `destroy_export_instance` has destroyed -/
  destroyed : List ℕ := []
  deallocated : Bool := false
  deriving DecidableEq, Repr

namespace ExportInstance

/-- `construct_export_object_impl` up to the native constructor: the proxy that is being
constructed. -/
def beginConstruction (s : ExportInstance) : Except CppException ℕ × ExportInstance :=
  if s.destroy then
    (.error (.stdException "dynabridge Python export object is already initialized"), s)
  else
    (.ok s.started,
      { s with constructing := s.started :: s.constructing, started := s.started + 1 })

/-- `construct_export_object_impl` after the native constructor. -/
def recordProxy (receiver : ℕ) (s : ExportInstance) : ExportInstance :=
  { s with native := some receiver, ctx := true, destroy := true }

/-- The innermost native constructor returns: the lifetime of its proxy begins, and the proxy is
recorded. -/
def completeConstruction (s : ExportInstance) : ExportInstance :=
  match s.constructing with
  | [] => s
  | receiver :: outer =>
    { s with
      constructing := outer
      alive := receiver :: s.alive
      completed := receiver :: s.completed }.recordProxy receiver

/-- The innermost native constructor throws. -/
def failConstruction (s : ExportInstance) : ExportInstance :=
  { s with constructing := s.constructing.tail }

/-- `destroy_export_instance` -/
def destroyExportInstance (s : ExportInstance) : ExportInstance :=
  { s with
    native := none
    ctx := false
    destroy := false
    alive := s.alive.filter (some · != s.native)
    destroyed := s.native.toList ++ s.destroyed }

/-- `export_instance_dealloc` -/
def exportInstanceDealloc (s : ExportInstance) : ExportInstance :=
  { (if s.destroy then s.destroyExportInstance else s) with deallocated := true }

end ExportInstance

/-- What happens to an instance. -/
inductive InstanceEvent
  /-- A constructor call, which is admitted when its arity, its keywords, the type of its receiver
  and the conversions of its arguments are as they should be. -/
  | call (admitted : Bool)
  /-- The innermost native constructor returns. -/
  | complete
  /-- The innermost native constructor throws. -/
  | throw
  /-- The last reference to the instance goes. -/
  | dealloc
  deriving DecidableEq, Repr

namespace InstanceEvent

/-- What an event makes of the instance. -/
def step (s : ExportInstance) : InstanceEvent → ExportInstance
  | call admitted => if admitted then s.beginConstruction.2 else s
  | complete => s.completeConstruction
  | throw => s.failConstruction
  | dealloc => s.exportInstanceDealloc

/-- The event can happen.  A call holds a reference to the instance until it returns. -/
def Possible (s : ExportInstance) (e : InstanceEvent) : Prop :=
  s.deallocated = false ∧
    match e with
    | call _ => True
    | complete | throw => s.constructing ≠ []
    | dealloc => s.constructing = []

/-- A native constructor that returns finds the instance as uninitialised as it was when it
started: no constructor call that was made on the instance in the meantime has completed. -/
def Undisturbed (s : ExportInstance) (e : InstanceEvent) : Prop :=
  e = complete → s.destroy = false

end InstanceEvent

namespace ExportInstance

open InstanceEvent

/-- At most one proxy has its lifetime begun, and once the instance is gone, every proxy whose
constructor had returned has been destroyed exactly once. -/
def OneProxy (s : ExportInstance) : Prop :=
  s.alive.length ≤ 1 ∧ (s.deallocated = true → ∀ p ∈ s.completed, s.destroyed.count p = 1)

/-- The pointers of the instance tell what its storage holds. -/
structure Recorded (s : ExportInstance) : Prop where
  alive : s.alive = s.native.toList
  destroy : s.destroy = s.native.isSome
  accounted : s.completed.Perm (s.native.toList ++ s.destroyed)
  nodup : (s.constructing ++ s.completed).Nodup
  bound : ∀ p ∈ s.constructing ++ s.completed, p < s.started
  gone : s.deallocated = true → s.native = none

variable {s : ExportInstance}

lemma recorded_new : ({} : ExportInstance).Recorded := by
  constructor <;> simp

/-- An instance whose pointers tell what it holds has one proxy at most. -/
lemma Recorded.oneProxy (h : s.Recorded) : s.OneProxy := by
  refine ⟨?_, fun hgone p hp => ?_⟩
  · rw [h.alive]
    cases s.native <;> simp
  · have hperm := h.accounted
    rw [h.gone hgone, Option.toList_none, List.nil_append] at hperm
    have hnodup : s.completed.Nodup := (List.nodup_append.mp h.nodup).2.1
    rw [← hperm.count_eq p]
    exact List.count_eq_one_of_mem hnodup hp

/-- A second initialisation raises and changes nothing. -/
lemma beginConstruction_of_destroy (h : s.destroy = true) :
    s.beginConstruction =
      (.error (.stdException "dynabridge Python export object is already initialized"), s) := by
  rw [beginConstruction, if_pos h]

/-- The constructor that starts is a new one. -/
lemma Recorded.begin (h : s.Recorded) : s.beginConstruction.2.Recorded := by
  unfold beginConstruction
  split
  · exact h
  · refine ⟨h.alive, h.destroy, h.accounted, ?_, ?_, h.gone⟩
    · have hfresh : s.started ∉ s.constructing ++ s.completed := fun hmem =>
        absurd (h.bound _ hmem) (Nat.lt_irrefl _)
      exact List.nodup_cons.mpr ⟨hfresh, h.nodup⟩
    · intro p hp
      rcases List.mem_cons.mp hp with rfl | hold
      · exact Nat.lt_succ_self _
      · exact (h.bound p hold).trans (Nat.lt_succ_self _)

/-- A proxy that completes on an uninitialised instance is its only one. -/
lemma Recorded.complete (h : s.Recorded) (hgone : s.deallocated = false)
    (hdestroy : s.destroy = false) : s.completeConstruction.Recorded := by
  have hnative : s.native = none := by
    rw [h.destroy] at hdestroy
    exact Option.isNone_iff_eq_none.mp (by simpa using hdestroy)
  unfold completeConstruction
  split
  · exact h
  · rename_i receiver outer hconstructing
    have hperm : (outer ++ receiver :: s.completed).Perm (s.constructing ++ s.completed) := by
      rw [hconstructing]
      exact List.perm_middle
    refine ⟨?_, rfl, ?_, ?_, ?_, ?_⟩
    · simp [recordProxy, h.alive, hnative]
    · have haccounted := h.accounted
      rw [hnative] at haccounted
      exact haccounted.cons receiver
    · exact hperm.nodup_iff.mpr h.nodup
    · exact fun p hp => h.bound p (hperm.mem_iff.mp hp)
    · intro hd
      have hsame : s.deallocated = true := hd
      rw [hgone] at hsame
      cases hsame

/-- A constructor that throws leaves nothing behind. -/
lemma Recorded.fail (h : s.Recorded) : s.failConstruction.Recorded := by
  refine ⟨h.alive, h.destroy, h.accounted, ?_, ?_, h.gone⟩
  · exact h.nodup.sublist ((List.tail_sublist _).append_right _)
  · exact fun p hp => h.bound p (((List.tail_sublist _).append_right _).subset hp)

/-- The instance destroys the proxy it has recorded. -/
lemma Recorded.dealloc (h : s.Recorded) : s.exportInstanceDealloc.Recorded := by
  have hdestroy := h.destroy
  have halive := h.alive
  have haccounted := h.accounted
  unfold exportInstanceDealloc
  cases hnative : s.native with
  | none =>
    rw [hnative] at hdestroy
    rw [if_neg (by simp [hdestroy])]
    exact ⟨h.alive, h.destroy, h.accounted, h.nodup, h.bound, fun _ => hnative⟩
  | some p =>
    rw [hnative] at hdestroy halive haccounted
    rw [if_pos (by simp [hdestroy])]
    refine ⟨?_, rfl, ?_, h.nodup, h.bound, fun _ => rfl⟩
    · simp [destroyExportInstance, halive, hnative]
    · simpa [destroyExportInstance, hnative] using haccounted

/-- Every step of a run from a new instance keeps the pointers right, unless a native constructor
returns to an instance that was initialised in the meantime. -/
lemma Recorded.step {e : InstanceEvent} (h : s.Recorded) (he : e.Possible s)
    (hundisturbed : e.Undisturbed s) : (e.step s).Recorded := by
  cases e with
  | call admitted =>
    cases admitted with
    | true => exact h.begin
    | false => exact h
  | complete => exact h.complete he.1 (hundisturbed rfl)
  | throw => exact h.fail
  | dealloc => exact h.dealloc

/-- A native constructor that returns to an initialised instance adds a second proxy. -/
lemma Recorded.undisturbed {e : InstanceEvent} (h : s.Recorded) (he : e.Possible s)
    (hone : (e.step s).OneProxy) : e.Undisturbed s := by
  rintro rfl
  by_contra hdestroy
  have hsome : s.native.isSome = true := by
    rw [← h.destroy]
    exact eq_true_of_ne_false hdestroy
  obtain ⟨q, hnative⟩ := Option.isSome_iff_exists.mp hsome
  obtain ⟨receiver, outer, hconstructing⟩ := List.exists_cons_of_ne_nil he.2
  have hlength := hone.1
  change s.completeConstruction.alive.length ≤ 1 at hlength
  simp only [completeConstruction, hconstructing, recordProxy, h.alive, hnative,
    Option.toList_some, List.length_cons, List.length_nil] at hlength
  omega

/-- In every run of an instance, at most one proxy is alive at any moment and every completed
proxy is destroyed exactly once, if and only if no native constructor returns to an instance
that a call made in the meantime has initialised.  In any case a second initialisation raises and
changes nothing. -/
theorem oneProxy_iff_undisturbed {events : List InstanceEvent}
    (h : EveryStep InstanceEvent.step (fun s e => e.Possible s) {} events) :
    (EveryState InstanceEvent.step OneProxy {} events ↔
      EveryStep InstanceEvent.step (fun s e => e.Undisturbed s) {} events) ∧
    ∀ s : ExportInstance, s.destroy = true → s.beginConstruction =
      (.error (.stdException "dynabridge Python export object is already initialized"), s) :=
  ⟨everyState_iff_everyStep (fun _ => Recorded.oneProxy) (fun _ _ => Recorded.step)
    (fun _ _ => Recorded.undisturbed) recorded_new h, fun _ => beginConstruction_of_destroy⟩

/-- A constructor that fails, one that succeeds, and a second initialisation. -/
theorem oneProxy_retried :
    EveryState InstanceEvent.step OneProxy {}
      [call true, throw, call true, complete, call true, dealloc] := by
  have hpossible : EveryStep InstanceEvent.step (fun s e => e.Possible s) {}
      [call true, throw, call true, complete, call true, dealloc] := by
    simp [EveryStep, InstanceEvent.step, Possible, beginConstruction, failConstruction,
      completeConstruction, recordProxy]
  refine (oneProxy_iff_undisturbed hpossible).1.mpr ?_
  simp [EveryStep, Undisturbed, InstanceEvent.step, beginConstruction, failConstruction]

/-- A native constructor whose Python callback calls `__init__` on the instance, where both
constructors succeed: two proxies have their lifetime begun in the storage, and only one of them
is destroyed. -/
theorem oneProxy_fails_nested :
    EveryStep InstanceEvent.step (fun s e => e.Possible s) {}
        [call true, call true, complete, complete, dealloc] ∧
      ([call true, call true, complete, complete].foldl InstanceEvent.step {}).alive = [0, 1] ∧
      ([call true, call true, complete, complete, dealloc].foldl InstanceEvent.step {}).destroyed =
        [0] ∧
      ¬ EveryState InstanceEvent.step OneProxy {}
        [call true, call true, complete, complete, dealloc] := by
  refine ⟨?_, by decide, by decide, ?_⟩
  · simp [EveryStep, InstanceEvent.step, Possible, beginConstruction, completeConstruction,
      recordProxy]
  · rintro ⟨-, -, -, -, hone, -⟩
    exact absurd hone.1 (by decide)

end ExportInstance

end Dynabridge.Python
