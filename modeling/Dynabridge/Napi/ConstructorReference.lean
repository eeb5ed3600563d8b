import Dynabridge.Foundations.Ownership
import Mathlib.Data.List.Perm.Basic

/-!
# Constructor references and the cleanup hooks of environments

A `constructor_reference` keeps a reference to the constructor of an exported class.  The
reference is deleted from one of two sides: by the destructor, or by the cleanup hook that it
registers with the environment and that gets a plain pointer to it.

What the environment does with a hook or a reference that it does not have, and what a hook does
with an object that is gone, is undefined here.
-/

namespace Dynabridge.Napi

open Ownership Function

/-- `class_target_t::constructor_reference` -/
structure ConstructorReference where
  env : Option ℕ
  ref : Option ℕ
  deriving DecidableEq, Repr

/-- What the `constructor_reference` objects share with the environments. -/
structure ReferenceHeap where
  /-- the references that `napi_create_reference` made for them -/
  references : Lifetimes := {}
  /-- the objects, by their addresses -/
  objects : Lifetimes := {}
  object : ℕ → Option ConstructorReference := fun _ => none
  /-- the objects whose `cleanup` is registered with an environment, the last one first -/
  hooks : ℕ → List ℕ := fun _ => []
  /-- the environments that are gone -/
  closed : ℕ → Bool := fun _ => false

/-- What fails in the construction of a `constructor_reference`. -/
inductive CreationFailure
  | allocation
  /-- `napi_create_reference` -/
  | reference
  /-- `napi_add_env_cleanup_hook` -/
  | hook
  deriving DecidableEq, Repr

namespace ReferenceHeap

/-! ## The operations -/

/-- `napi_delete_reference`; without an environment it only returns an error. -/
def deleteReference (self : ConstructorReference) (h : ReferenceHeap) : Option ReferenceHeap :=
  match self.env, self.ref with
  | some env, some ref =>
    if h.closed env then none
    else do
      let references ← h.references.destroy ref
      some { h with references := references }
  | _, _ => some h

/-- `napi_remove_env_cleanup_hook` -/
def removeHook (env id : ℕ) (h : ReferenceHeap) : Option ReferenceHeap :=
  if h.closed env = false ∧ id ∈ h.hooks env then
    some { h with hooks := update h.hooks env ((h.hooks env).erase id) }
  else none

/-- `constructor_reference::cleanup` -/
def cleanup (id : ℕ) (h : ReferenceHeap) : Option ReferenceHeap := do
  let self ← h.object id
  let h ← h.deleteReference self
  some { h with object := update h.object id (some ⟨none, none⟩) }

/-- The environment runs a hook: it takes it off its list and calls it. -/
def runHook (env id : ℕ) (h : ReferenceHeap) : Option ReferenceHeap := do
  let h ← h.removeHook env id
  h.cleanup id

/-- `new constructor_reference(env, constructor)`: the object, unless something fails. -/
def create (env : ℕ) (failure : Option CreationFailure) (h : ReferenceHeap) :
    Option (Option ℕ × ReferenceHeap) :=
  match failure with
  | some .allocation => some (none, h)
  | some .reference => some (none, h)
  | some .hook => do
    let made := { h with references := h.references.make }
    let h ← made.deleteReference ⟨some env, some h.references.made⟩
    some (none, h)
  | none =>
    let id := h.objects.made
    some (some id,
      { references := h.references.make
        objects := h.objects.make
        object := update h.object id (some ⟨some env, some h.references.made⟩)
        hooks := update h.hooks env (id :: h.hooks env)
        closed := h.closed })

/-- `delete` of a `constructor_reference` -/
def destroy (id : ℕ) (h : ReferenceHeap) : Option ReferenceHeap := do
  let self ← h.object id
  let h ← match self.env with
    | some env => do
      let h ← h.removeHook env id
      h.cleanup id
    | none => some h
  let objects ← h.objects.destroy id
  some { h with objects := objects, object := update h.object id none }

/-- An environment that has run its hooks goes. -/
def closeEnv (env : ℕ) (h : ReferenceHeap) : ReferenceHeap :=
  { h with closed := update h.closed env true }

/-! ## What they keep -/

/-- The reference that an object holds. -/
def held (h : ReferenceHeap) (id : ℕ) : Option ℕ := (h.object id).bind ConstructorReference.ref

/-- The references that were not deleted are those that the objects hold, an object holds one
exactly when it has an environment, and exactly those objects are registered, once each, with an
environment that is not gone. -/
structure Consistent (h : ReferenceHeap) : Prop where
  alive : ∀ id, h.objects.Alive id ↔ h.object id ≠ none
  owned : Owned h.references h.held
  paired : ∀ {id self}, h.object id = some self → (self.env = none ↔ self.ref = none)
  hooked : ∀ {env id}, id ∈ h.hooks env ↔ ∃ ref, h.object id = some ⟨some env, some ref⟩
  once : ∀ env, (h.hooks env).Nodup
  closed_empty : ∀ {env}, h.closed env = true → h.hooks env = []

lemma consistent_new : ({} : ReferenceHeap).Consistent where
  alive := fun id => iff_of_false (fun h => Nat.not_lt_zero _ h.1) (by simp)
  owned := Owned.empty
  paired := by simp
  hooked := by simp
  once := by simp
  closed_empty := by simp

variable {h : ReferenceHeap} {env id ref : ℕ}

/-- The environment of an object that holds a reference is not gone. -/
lemma Consistent.open_of_object (hc : h.Consistent)
    (hobject : h.object id = some ⟨some env, some ref⟩) : h.closed env = false := by
  by_contra hclosed
  have hmem : id ∈ h.hooks env := hc.hooked.mpr ⟨ref, hobject⟩
  rw [hc.closed_empty (eq_true_of_ne_false hclosed)] at hmem
  cases hmem

/-- An object is registered with its own environment only. -/
lemma Consistent.env_eq (hc : h.Consistent) (hobject : h.object id = some ⟨some env, some ref⟩)
    {env' : ℕ} (hmem : id ∈ h.hooks env') : env' = env := by
  obtain ⟨ref', hobject'⟩ := hc.hooked.mp hmem
  rw [hobject] at hobject'
  exact (Option.some.inj (ConstructorReference.mk.inj (Option.some.inj hobject')).1).symm

lemma held_update (references objects : Lifetimes) (object : ℕ → Option ConstructorReference)
    (id : ℕ) (value : Option ConstructorReference) (hooks : ℕ → List ℕ) (closed : ℕ → Bool) :
    held ⟨references, objects, update object id value, hooks, closed⟩ =
      update (held ⟨references, objects, object, hooks, closed⟩) id
        (value.bind ConstructorReference.ref) :=
  comp_update (Option.bind · ConstructorReference.ref) object id value

lemma Consistent.paired_update (hc : h.Consistent) {value : Option ConstructorReference}
    (hvalue : ∀ self, value = some self → (self.env = none ↔ self.ref = none)) {id' : ℕ}
    {self : ConstructorReference} (hself : update h.object id value id' = some self) :
    self.env = none ↔ self.ref = none := by
  by_cases hid : id' = id
  · subst hid
    rw [update_self] at hself
    exact hvalue self hself
  · rw [update_of_ne hid] at hself
    exact hc.paired hself

lemma Consistent.once_update (hc : h.Consistent) {list : List ℕ} (hlist : list.Nodup)
    (env' : ℕ) : (update h.hooks env list env').Nodup := by
  by_cases henv : env' = env
  · subst henv
    rwa [update_self]
  · rw [update_of_ne henv]
    exact hc.once env'

/-- An environment that is not gone may get other hooks. -/
lemma Consistent.closed_update (hc : h.Consistent) (hopen : h.closed env = false)
    (list : List ℕ) {env' : ℕ} (hclosed : h.closed env' = true) :
    update h.hooks env list env' = [] := by
  have henv : env' ≠ env := by
    rintro rfl
    rw [hopen] at hclosed
    cases hclosed
  rw [update_of_ne henv]
  exact hc.closed_empty hclosed

/-- Taking the hook off the list and running `cleanup`, as the destructor and the environment both
do, deletes the reference once. -/
lemma Consistent.runHook (hc : h.Consistent) (hobject : h.object id = some ⟨some env, some ref⟩) :
    ∃ h', h.runHook env id = some h' ∧ h'.Consistent ∧ h'.objects = h.objects ∧
      h'.object = update h.object id (some ⟨none, none⟩) := by
  have hopen := hc.open_of_object hobject
  have hmem : id ∈ h.hooks env := hc.hooked.mpr ⟨ref, hobject⟩
  have hheld : h.held id = some ref := by rw [held, hobject]; rfl
  obtain ⟨references, hdestroy⟩ := Lifetimes.exists_destroy (hc.owned.alive hheld)
  refine ⟨⟨references, h.objects, update h.object id (some ⟨none, none⟩),
    update h.hooks env ((h.hooks env).erase id), h.closed⟩, ?_, ?_, rfl, rfl⟩
  · rw [ReferenceHeap.runHook, removeHook, if_pos ⟨hopen, hmem⟩]
    simp [cleanup, hobject, deleteReference, hopen, hdestroy]
  · refine ⟨fun id' => ?_, ?_, hc.paired_update (by simp), fun {env' id'} => ?_,
      hc.once_update ((hc.once env).erase id), hc.closed_update hopen _⟩
    · rw [hc.alive]
      by_cases hid : id' = id
      · subst hid
        simp [hobject]
      · simp [update_of_ne hid]
    · rw [held_update]
      exact hc.owned.destroy hheld hdestroy
    · dsimp only
      by_cases hid : id' = id
      · subst hid
        refine iff_of_false (fun hmem' => ?_) (by simp)
        by_cases henv : env' = env
        · subst henv
          rw [update_self] at hmem'
          exact (hc.once env').not_mem_erase hmem'
        · rw [update_of_ne henv] at hmem'
          exact henv (hc.env_eq hobject hmem')
      · rw [update_of_ne hid, ← hc.hooked]
        by_cases henv : env' = env
        · subst henv
          rw [update_self, List.mem_erase_of_ne hid]
        · rw [update_of_ne henv]

/-- `delete` of an object that holds nothing any more. -/
lemma Consistent.free (hc : h.Consistent) (hobject : h.object id = some ⟨none, none⟩)
    {objects : Lifetimes} (hdestroy : h.objects.destroy id = some objects) :
    ({ h with objects := objects, object := update h.object id none } :
      ReferenceHeap).Consistent := by
  refine ⟨fun id' => ?_, ?_, hc.paired_update (by simp), fun {env' id'} => ?_, hc.once,
    hc.closed_empty⟩
  · rw [Lifetimes.alive_of_destroy hdestroy, hc.alive]
    by_cases hid : id' = id
    · subst hid
      simp
    · simp [hid]
  · have hsame : update h.held id none = h.held :=
      update_eq_self_iff.mpr (by rw [held, hobject]; rfl)
    rw [held_update]
    exact hsame.symm ▸ hc.owned
  · dsimp only
    rw [hc.hooked]
    by_cases hid : id' = id
    · subst hid
      simp [hobject]
    · rw [update_of_ne hid]

/-- The fields of an object are both null or neither is. -/
lemma Consistent.object_cases (hc : h.Consistent) (halive : h.objects.Alive id) :
    h.object id = some ⟨none, none⟩ ∨ ∃ env ref, h.object id = some ⟨some env, some ref⟩ := by
  obtain ⟨⟨env, ref⟩, hobject⟩ := Option.ne_none_iff_exists'.mp ((hc.alive id).mp halive)
  have hpaired := hc.paired hobject
  cases env with
  | none =>
    obtain rfl : ref = none := hpaired.mp rfl
    exact .inl hobject
  | some env =>
    cases ref with
    | none => exact absurd (hpaired.mpr rfl) (by simp)
    | some ref => exact .inr ⟨env, ref, hobject⟩

/-- The destructor of an object deletes its reference, unless the environment did so before. -/
lemma Consistent.destroy (hc : h.Consistent) (halive : h.objects.Alive id) :
    ∃ h', h.destroy id = some h' ∧ h'.Consistent ∧ h.objects.destroy id = some h'.objects := by
  obtain ⟨objects, hdestroy⟩ := Lifetimes.exists_destroy halive
  rcases hc.object_cases halive with hobject | ⟨env, ref, hobject⟩
  · refine ⟨_, ?_, hc.free hobject hdestroy, hdestroy⟩
    rw [ReferenceHeap.destroy, hobject]
    simp only [Option.bind_eq_bind, Option.bind_some, hdestroy]
  · obtain ⟨h₁, hrun, hc₁, hobjects, hobject₁⟩ := hc.runHook hobject
    have hempty : h₁.object id = some ⟨none, none⟩ := by rw [hobject₁, update_self]
    have hdestroy₁ : h₁.objects.destroy id = some objects := by rw [hobjects, hdestroy]
    refine ⟨_, ?_, hc₁.free hempty hdestroy₁, hdestroy⟩
    rw [ReferenceHeap.destroy, hobject]
    obtain ⟨h₀, hremove, hcleanup⟩ := Option.bind_eq_some_iff.mp hrun
    simp only [Option.bind_eq_bind, Option.bind_some, hremove, hcleanup, hdestroy₁]

/-- The number of the next object stands for none so far. -/
lemma Consistent.object_made (hc : h.Consistent) : h.object h.objects.made = none := by
  by_contra hne
  exact Lifetimes.not_alive_made ((hc.alive _).mpr hne)

/-- A new object with a new reference, registered with an environment that is not gone. -/
lemma Consistent.register (hc : h.Consistent) (hopen : h.closed env = false) :
    Consistent ⟨h.references.make, h.objects.make,
      update h.object h.objects.made (some ⟨some env, some h.references.made⟩),
      update h.hooks env (h.objects.made :: h.hooks env), h.closed⟩ := by
  have hfresh := hc.object_made
  have hnot : ∀ env', h.objects.made ∉ h.hooks env' := fun env' hmem => by
    obtain ⟨ref, hobject⟩ := hc.hooked.mp hmem
    rw [hfresh] at hobject
    cases hobject
  refine ⟨fun id' => ?_, ?_, hc.paired_update (by simp), fun {env' id'} => ?_,
    hc.once_update (List.nodup_cons.mpr ⟨hnot env, hc.once env⟩), hc.closed_update hopen _⟩
  · dsimp only
    rw [Lifetimes.alive_make_iff, hc.alive]
    by_cases hid : id' = h.objects.made
    · subst hid
      simp
    · simp [hid]
  · have hnone : h.held h.objects.made = none := by rw [held, hfresh]; rfl
    rw [held_update]
    exact hc.owned.make hnone
  · dsimp only
    by_cases hid : id' = h.objects.made
    · subst hid
      rw [update_self]
      by_cases henv : env' = env
      · subst henv
        simp
      · rw [update_of_ne henv]
        exact iff_of_false (hnot env') (by simp [Ne.symm henv])
    · rw [update_of_ne hid, ← hc.hooked]
      by_cases henv : env' = env
      · subst henv
        simp [hid]
      · rw [update_of_ne henv]

/-- Construction in an environment that is not gone: it gives a new object, or, if anything fails,
leaves no reference behind. -/
lemma Consistent.create (hc : h.Consistent) (hopen : h.closed env = false)
    (failure : Option CreationFailure) :
    ∃ h', h'.Consistent ∧ h'.closed = h.closed ∧
      (failure = none ∧ h.create env failure = some (some h.objects.made, h') ∧
          h'.objects = h.objects.make ∨
        failure ≠ none ∧ h.create env failure = some (none, h') ∧ h'.objects = h.objects) := by
  rcases failure with _ | (_ | _ | _)
  · exact ⟨_, hc.register hopen, rfl, .inl ⟨rfl, rfl, rfl⟩⟩
  · exact ⟨h, hc, rfl, .inr ⟨by simp, rfl, rfl⟩⟩
  · exact ⟨h, hc, rfl, .inr ⟨by simp, rfl, rfl⟩⟩
  · have halive : h.references.make.Alive h.references.made :=
      Lifetimes.alive_make_iff.mpr (.inl rfl)
    obtain ⟨references, hdestroy⟩ := Lifetimes.exists_destroy halive
    refine ⟨{ h with references := references }, ?_, rfl, .inr ⟨by simp, ?_, rfl⟩⟩
    · exact ⟨hc.alive, hc.owned.make_destroy hdestroy, hc.paired, hc.hooked, hc.once,
        hc.closed_empty⟩
    · rw [ReferenceHeap.create]
      simp [deleteReference, hopen, hdestroy]

lemma Consistent.closeEnv (hc : h.Consistent) (hempty : h.hooks env = []) :
    (h.closeEnv env).Consistent := by
  refine ⟨hc.alive, hc.owned, hc.paired, hc.hooked, hc.once, fun {env'} hclosed => ?_⟩
  by_cases henv : env' = env
  · subst henv
    exact hempty
  · have hclosed' : update h.closed env true env' = true := hclosed
    rw [update_of_ne henv] at hclosed'
    exact hc.closed_empty hclosed'

end ReferenceHeap

end Dynabridge.Napi
