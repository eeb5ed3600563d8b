import Dynabridge.Foundations.Runs
import Dynabridge.Napi.ConstructorReference

/-!
# Class targets and their registries

A `class_target_t` owns a `constructor_reference` through a `unique_ptr`.  Class targets are moved
between variables, the parameters of `store` and the entries of class registries, and at any point
an environment may run its cleanup hooks.
-/

namespace Dynabridge.Napi

open Ownership Runs Function

/-! ## Class targets -/

/-- `class_target_t` -/
structure ClassTarget where
  /-- `reference_`, by the address of the object it owns -/
  reference : Option ℕ := none
  env : Option ℕ := none
  constructorRef : Option ℕ := none
  state : Option ℕ := none
  deriving DecidableEq, Repr

/-- Where a class target can be. -/
inductive Slot
  | variable (name : ℕ)
  /-- the parameter of `export_class_registry::store` -/
  | target
  /-- the parameter of the constructor of `entry_t` -/
  | entryTarget
  /-- an entry of a registry; the vector may move it to another address -/
  | entry (registry index : ℕ)
  deriving DecidableEq, Repr

/-- The class targets and the class registries of a program. -/
structure ClassTargets where
  heap : ReferenceHeap := {}
  target : Slot → Option ClassTarget := fun _ => none
  /-- the keys of the entries of the registries -/
  keys : ℕ → List ℕ := fun _ => []

namespace ClassTargets

/-- The object that a class target owns. -/
def owned (s : ClassTargets) (slot : Slot) : Option ℕ := (s.target slot).bind ClassTarget.reference

/-- The slots that have a class target. -/
def present (s : ClassTargets) (slot : Slot) : Bool := (s.target slot).isSome

/-! ### Its constructors, assignment and destructor -/

/-- What a `unique_ptr` does with the object that it owns. -/
def deleteReference (reference : Option ℕ) (s : ClassTargets) : Option ClassTargets :=
  match reference with
  | some id => do
    let heap ← s.heap.destroy id
    some { s with heap := heap }
  | none => some s

/-- `class_target_t()` -/
def default (slot : Slot) (s : ClassTargets) : ClassTargets :=
  { s with target := update s.target slot (some {}) }

/-- `class_target_t(env, constructor, state)`, with whether it throws. -/
def construct (slot : Slot) (env : ℕ) (state : Option ℕ) (failure : Option CreationFailure)
    (s : ClassTargets) : Option (Bool × ClassTargets) := do
  let (reference, heap) ← s.heap.create env failure
  match reference with
  | some id =>
    let target : ClassTarget := ⟨some id, some env, heap.held id, state⟩
    some (false, { s with heap := heap, target := update s.target slot (some target) })
  | none => some (true, { s with heap := heap })

/-- `class_target_t(class_target_t&&)` -/
def moveConstruct (slot other : Slot) (s : ClassTargets) : Option ClassTargets := do
  let source ← s.target other
  some { s with target := update (update s.target slot (some source)) other (some {}) }

/-- `class_target_t::operator=(class_target_t&&)` -/
def moveAssign (slot other : Slot) (s : ClassTargets) : Option ClassTargets :=
  if slot = other then some s
  else do
    let self ← s.target slot
    let source ← s.target other
    let s ← s.deleteReference self.reference
    some { s with target := update (update s.target slot (some source)) other (some {}) }

/-- `~class_target_t` -/
def destruct (slot : Slot) (s : ClassTargets) : Option ClassTargets := do
  let self ← s.target slot
  let s ← s.deleteReference self.reference
  some { s with target := update s.target slot none }

/-! ### Registries -/

/-- `entries_.emplace_back(key, std::move(target))` -/
def emplaceBack (registry key : ℕ) (s : ClassTargets) : Option ClassTargets := do
  let s ← s.moveConstruct .entryTarget .target
  let s ← s.moveConstruct (.entry registry (s.keys registry).length) .entryTarget
  let s ← s.destruct .entryTarget
  some { s with keys := update s.keys registry (s.keys registry ++ [key]) }

/-- `export_class_registry::store` for its parameter `target`; the vector may fail to get memory
for one more entry. -/
def storeTarget (registry key : ℕ) (fails : Bool) (s : ClassTargets) :
    Option (Bool × ClassTargets) :=
  match (s.keys registry).idxOf? key with
  | some index => do
    let s ← s.moveAssign (.entry registry index) .target
    some (false, s)
  | none =>
    if fails then some (true, s)
    else do
      let s ← s.emplaceBack registry key
      some (false, s)

/-- A call of `export_class_registry::store`, which moves a class target into the parameter. -/
def store (registry key : ℕ) (other : Slot) (fails : Bool) (s : ClassTargets) :
    Option (Bool × ClassTargets) := do
  let s ← s.moveConstruct .target other
  let (thrown, s) ← s.storeTarget registry key fails
  let s ← s.destruct .target
  some (thrown, s)

/-- The first entries of a registry are destroyed. -/
def destructEntries (registry : ℕ) : ℕ → ClassTargets → Option ClassTargets
  | 0, s => some s
  | index + 1, s => do
    let s ← s.destruct (.entry registry index)
    destructEntries registry index s

/-- `~export_class_registry` -/
def destructRegistry (registry : ℕ) (s : ClassTargets) : Option ClassTargets := do
  let s ← s.destructEntries registry (s.keys registry).length
  some { s with keys := update s.keys registry [] }

/-! ### Environments -/

/-- An environment runs the hook of an object. -/
def runHook (env id : ℕ) (s : ClassTargets) : Option ClassTargets := do
  let heap ← s.heap.runHook env id
  some { s with heap := heap }

/-- An environment that has run its hooks goes. -/
def closeEnv (env : ℕ) (s : ClassTargets) : ClassTargets :=
  { s with heap := s.heap.closeEnv env }

end ClassTargets

/-! ## Operations -/

/-- What a program and its environments do. -/
inductive ClassTargetOperation
  | default (name : ℕ)
  | construct (name env : ℕ) (state : Option ℕ) (failure : Option CreationFailure)
  | moveConstruct (name : ℕ) (other : Slot)
  | moveAssign (slot other : Slot)
  | store (registry key : ℕ) (other : Slot) (fails : Bool)
  | destruct (name : ℕ)
  | destructRegistry (registry : ℕ)
  | runHook (env id : ℕ)
  | closeEnv (env : ℕ)
  deriving DecidableEq, Repr

namespace ClassTargetOperation

/-- Constructors make a variable that is not there, in an environment that is not gone; what is
moved, assigned or destroyed is there.  An environment runs the hooks that it has, in any order
and at any time, and is gone only after the last one. -/
def Valid (s : ClassTargets) : ClassTargetOperation → Prop
  | default name => s.target (.variable name) = none
  | construct name env _ _ => s.target (.variable name) = none ∧ s.heap.closed env = false
  | moveConstruct name other => s.target (.variable name) = none ∧ s.target other ≠ none
  | moveAssign slot other => s.target slot ≠ none ∧ s.target other ≠ none
  | store _ _ other _ => s.target other ≠ none
  | destruct name => s.target (.variable name) ≠ none
  | destructRegistry _ => True
  | runHook env id => id ∈ s.heap.hooks env
  | closeEnv env => s.heap.hooks env = []

instance (s : ClassTargets) : (op : ClassTargetOperation) → Decidable (op.Valid s)
  | default name => inferInstanceAs (Decidable (s.target (.variable name) = none))
  | construct name env _ _ =>
    inferInstanceAs (Decidable (s.target (.variable name) = none ∧ s.heap.closed env = false))
  | moveConstruct name other =>
    inferInstanceAs (Decidable (s.target (.variable name) = none ∧ s.target other ≠ none))
  | moveAssign slot other =>
    inferInstanceAs (Decidable (s.target slot ≠ none ∧ s.target other ≠ none))
  | store _ _ other _ => inferInstanceAs (Decidable (s.target other ≠ none))
  | destruct name => inferInstanceAs (Decidable (s.target (.variable name) ≠ none))
  | destructRegistry _ => inferInstanceAs (Decidable True)
  | runHook env id => inferInstanceAs (Decidable (id ∈ s.heap.hooks env))
  | closeEnv env => inferInstanceAs (Decidable (s.heap.hooks env = []))

/-- What an operation does and whether it throws, unless it is undefined. -/
def perform (s : ClassTargets) : ClassTargetOperation → Option (Bool × ClassTargets)
  | default name => some (false, s.default (.variable name))
  | construct name env state failure => s.construct (.variable name) env state failure
  | moveConstruct name other => (s.moveConstruct (.variable name) other).map (false, ·)
  | moveAssign slot other => (s.moveAssign slot other).map (false, ·)
  | store registry key other fails => s.store registry key other fails
  | destruct name => (s.destruct (.variable name)).map (false, ·)
  | destructRegistry registry => (s.destructRegistry registry).map (false, ·)
  | runHook env id => (s.runHook env id).map (false, ·)
  | closeEnv env => some (false, s.closeEnv env)

/-- The state after an operation. -/
def next (s : ClassTargets) (op : ClassTargetOperation) : Option ClassTargets :=
  (op.perform s).map Prod.snd

end ClassTargetOperation

/-! ## What the operations keep -/

namespace ClassTargets

variable {s : ClassTargets} {slot other : Slot}

/-- The class targets own the `constructor_reference` objects that there are, one each. -/
structure Sound (s : ClassTargets) : Prop where
  consistent : s.heap.Consistent
  owned : Owned s.heap.objects s.owned

/-- A sound state with the same registries and the slots given. -/
structure Leads (s : ClassTargets) (present : Slot → Bool) (s' : ClassTargets) : Prop where
  sound : s'.Sound
  keys : s'.keys = s.keys
  present : s'.present = present

lemma present_eq_true_iff : s.present slot = true ↔ s.target slot ≠ none := by
  rw [present, Option.isSome_iff_ne_none]

lemma present_eq_false_iff : s.present slot = false ↔ s.target slot = none := by
  rw [present, Option.isSome_eq_false_iff, Option.isNone_iff_eq_none]

lemma owned_eq_none (h : s.target slot = none) : s.owned slot = none := by
  rw [owned, h]
  rfl

lemma owned_update (heap : ReferenceHeap) (keys : ℕ → List ℕ) (target : Slot → Option ClassTarget)
    (slot : Slot) (value : Option ClassTarget) :
    owned ⟨heap, update target slot value, keys⟩ =
      update (owned ⟨heap, target, keys⟩) slot (value.bind ClassTarget.reference) :=
  comp_update (Option.bind · ClassTarget.reference) target slot value

lemma present_update (heap : ReferenceHeap) (keys : ℕ → List ℕ)
    (target : Slot → Option ClassTarget) (slot : Slot) (value : Option ClassTarget) :
    present ⟨heap, update target slot value, keys⟩ =
      update (present ⟨heap, target, keys⟩) slot value.isSome :=
  comp_update Option.isSome target slot value

/-- A new class target that owns nothing. -/
lemma Sound.default (h : s.Sound) (hslot : s.target slot = none) :
    s.Leads (update s.present slot true) (s.default slot) := by
  refine ⟨⟨h.consistent, ?_⟩, rfl, present_update ..⟩
  have hsame : (s.default slot).owned = s.owned := by
    rw [ClassTargets.default, owned_update]
    exact update_eq_self_iff.mpr (owned_eq_none hslot).symm
  rw [hsame]
  exact h.owned

/-- The `delete` of what a class target owns. -/
lemma Sound.deleteReference (h : s.Sound) {self : ClassTarget} (hself : s.target slot = some self) :
    ∃ heap, s.deleteReference self.reference = some { s with heap := heap } ∧ heap.Consistent ∧
      Owned heap.objects (update s.owned slot none) := by
  have howned : s.owned slot = self.reference := by rw [ClassTargets.owned, hself]; rfl
  rcases hreference : self.reference with _ | id
  · refine ⟨s.heap, rfl, h.consistent, ?_⟩
    rw [hreference] at howned
    rw [← howned, update_eq_self]
    exact h.owned
  · rw [hreference] at howned
    obtain ⟨heap, hdestroy, hconsistent, hobjects⟩ :=
      h.consistent.destroy (h.owned.alive howned)
    refine ⟨heap, ?_, hconsistent, h.owned.destroy howned hobjects⟩
    rw [ClassTargets.deleteReference]
    simp only [hdestroy, Option.bind_eq_bind, Option.bind_some]

/-- The destructor deletes what the class target owns. -/
lemma Sound.destruct (h : s.Sound) (hslot : s.target slot ≠ none) :
    ∃ s', s.destruct slot = some s' ∧ s.Leads (update s.present slot false) s' := by
  obtain ⟨self, hself⟩ := Option.ne_none_iff_exists'.mp hslot
  obtain ⟨heap, hdelete, hconsistent, howned⟩ := h.deleteReference hself
  refine ⟨⟨heap, update s.target slot none, s.keys⟩, ?_, ⟨hconsistent, ?_⟩, rfl,
    present_update ..⟩
  · rw [ClassTargets.destruct, hself]
    simp only [hdelete, Option.bind_eq_bind, Option.bind_some]
  · rw [owned_update]
    exact howned

/-- A move constructor hands over what the other class target owns. -/
lemma Sound.moveConstruct (h : s.Sound) (hslot : s.target slot = none)
    (hother : s.target other ≠ none) :
    ∃ s', s.moveConstruct slot other = some s' ∧ s.Leads (update s.present slot true) s' := by
  obtain ⟨source, hsource⟩ := Option.ne_none_iff_exists'.mp hother
  have hreference : source.reference = s.owned other := by
    rw [ClassTargets.owned, hsource]
    rfl
  have hne : other ≠ slot := by
    rintro rfl
    exact hother hslot
  refine ⟨⟨s.heap, update (update s.target slot (some source)) other (some {}), s.keys⟩, ?_,
    ⟨h.consistent, ?_⟩, rfl, ?_⟩
  · rw [ClassTargets.moveConstruct, hsource]
    rfl
  · rw [owned_update, owned_update, Option.bind_some, hreference]
    exact h.owned.transfer (owned_eq_none hslot)
  · rw [present_update, present_update]
    refine update_eq_self_iff.mpr ?_
    rw [update_of_ne hne]
    exact (present_eq_true_iff.mpr hother).symm

/-- A move assignment deletes what the class target owned before. -/
lemma Sound.moveAssign (h : s.Sound) (hslot : s.target slot ≠ none)
    (hother : s.target other ≠ none) :
    ∃ s', s.moveAssign slot other = some s' ∧ s.Leads s.present s' := by
  rw [ClassTargets.moveAssign]
  by_cases hsame : slot = other
  · exact ⟨s, if_pos hsame, h, rfl, rfl⟩
  obtain ⟨self, hself⟩ := Option.ne_none_iff_exists'.mp hslot
  obtain ⟨source, hsource⟩ := Option.ne_none_iff_exists'.mp hother
  obtain ⟨heap, hdelete, hconsistent, howned⟩ := h.deleteReference hself
  have hreference : source.reference = update s.owned slot none other := by
    rw [update_of_ne (Ne.symm hsame), ClassTargets.owned, hsource]
    rfl
  refine ⟨⟨heap, update (update s.target slot (some source)) other (some {}), s.keys⟩, ?_,
    ⟨hconsistent, ?_⟩, rfl, ?_⟩
  · simp only [if_neg hsame, hself, hsource, hdelete, Option.bind_eq_bind, Option.bind_some]
  · have htransfer := howned.transfer (s := other) (t := slot) (update_self ..)
    rw [← hreference, update_idem] at htransfer
    rw [owned_update, owned_update]
    exact htransfer
  · have hkeep : ∀ {slot}, s.target slot ≠ none → update s.present slot true = s.present :=
      fun hne => update_eq_self_iff.mpr (present_eq_true_iff.mpr hne).symm
    rw [present_update, present_update]
    exact (congrArg (update · other true) (hkeep hslot)).trans (hkeep hother)

/-- A new class target owns a new object; if it throws, nothing is left of it. -/
lemma Sound.construct (h : s.Sound) {env : ℕ} (hslot : s.target slot = none)
    (hopen : s.heap.closed env = false) (state : Option ℕ) (failure : Option CreationFailure) :
    ∃ s', s.construct slot env state failure = some (failure.isSome, s') ∧
      s.Leads (if failure.isSome then s.present else update s.present slot true) s' := by
  obtain ⟨heap, hconsistent, -, ⟨rfl, hcreate, hobjects⟩ | ⟨hfailure, hcreate, hobjects⟩⟩ :=
    h.consistent.create hopen failure
  · let target : ClassTarget :=
      ⟨some s.heap.objects.made, some env, heap.held s.heap.objects.made, state⟩
    refine ⟨⟨heap, update s.target slot (some target), s.keys⟩, ?_, ⟨hconsistent, ?_⟩, rfl,
      present_update ..⟩
    · rw [ClassTargets.construct, hcreate]
      rfl
    · rw [owned_update, hobjects]
      exact h.owned.make (owned_eq_none hslot)
  · have hsome : failure.isSome = true := Option.isSome_iff_ne_none.mpr hfailure
    rw [hsome]
    refine ⟨{ s with heap := heap }, ?_, ⟨hconsistent, ?_⟩, rfl, rfl⟩
    · rw [ClassTargets.construct, hcreate]
      rfl
    · rw [hobjects]
      exact h.owned

/-! ### Registries -/

/-- Between the steps of `store`: its parameter is there or not, and the entries of a registry
are as many as its keys. -/
structure Registered (argument : Bool) (s : ClassTargets) : Prop where
  sound : s.Sound
  target : s.present .target = argument
  entryTarget : s.present .entryTarget = false
  entries : ∀ registry index,
    s.present (.entry registry index) = true ↔ index < (s.keys registry).length

variable {argument argument' : Bool} {registry : ℕ}

lemma registered_new : ({} : ClassTargets).Registered false where
  sound := ⟨ReferenceHeap.consistent_new, Owned.empty⟩
  target := rfl
  entryTarget := rfl
  entries := by simp [present]

/-- A step that leaves the registries alone. -/
lemma Registered.of_leads (h : s.Registered argument) {p : Slot → Bool} {s' : ClassTargets}
    (hs' : s.Leads p s') (htarget : p .target = argument') (hentry : p .entryTarget = false)
    (hentries : ∀ registry index,
      p (.entry registry index) = s.present (.entry registry index)) :
    s'.Registered argument' := by
  refine ⟨hs'.sound, by rw [hs'.present, htarget], by rw [hs'.present, hentry], ?_⟩
  intro registry index
  rw [hs'.present, hs'.keys, hentries, h.entries]

/-- A new entry takes over what the parameter owns. -/
lemma Registered.emplaceBack (h : s.Registered true) (registry key : ℕ) :
    ∃ s', s.emplaceBack registry key = some s' ∧ s'.Registered true := by
  set index := (s.keys registry).length with hindex
  have hnew : s.present (.entry registry index) = false := by
    rw [Bool.eq_false_iff, Ne, h.entries]
    exact Nat.lt_irrefl _
  obtain ⟨s₁, hmove₁, h₁⟩ := h.sound.moveConstruct (present_eq_false_iff.mp h.entryTarget)
    (present_eq_true_iff.mp h.target)
  have hnew₁ : s₁.target (.entry registry index) = none := by
    rw [← present_eq_false_iff, h₁.present, update_of_ne (by simp), hnew]
  have hfrom₁ : s₁.target .entryTarget ≠ none := by
    rw [← present_eq_true_iff, h₁.present, update_self]
  obtain ⟨s₂, hmove₂, h₂⟩ := h₁.sound.moveConstruct hnew₁ hfrom₁
  have hfrom₂ : s₂.target .entryTarget ≠ none := by
    rw [← present_eq_true_iff, h₂.present, update_of_ne (by simp), h₁.present, update_self]
  obtain ⟨s₃, hdestruct, h₃⟩ := h₂.sound.destruct hfrom₂
  have hkeys₂ : s₂.keys = s.keys := h₂.keys.trans h₁.keys
  refine ⟨{ s₃ with keys := update s₃.keys registry (s₃.keys registry ++ [key]) }, ?_,
    ⟨h₃.sound.consistent, h₃.sound.owned⟩, ?_, ?_, ?_⟩
  · rw [ClassTargets.emplaceBack]
    simp only [hmove₁, Option.bind_eq_bind, Option.bind_some, h₁.keys, ← hindex, hmove₂,
      hdestruct]
  · show s₃.present .target = true
    rw [h₃.present, update_of_ne (by simp), h₂.present, update_of_ne (by simp), h₁.present,
      update_of_ne (by simp), h.target]
  · show s₃.present .entryTarget = false
    rw [h₃.present, update_self]
  · intro registry' index'
    show s₃.present (.entry registry' index') = true ↔
      index' < (update s₃.keys registry (s₃.keys registry ++ [key]) registry').length
    rw [h₃.present, update_of_ne (by simp), h₂.present, h₃.keys, hkeys₂]
    by_cases hregistry : registry' = registry
    · subst hregistry
      rw [update_self, List.length_append, List.length_singleton, ← hindex]
      by_cases hindex' : index' = index
      · subst hindex'
        simp
      · rw [update_of_ne (by simpa using hindex'), h₁.present, update_of_ne (by simp), h.entries]
        omega
    · rw [update_of_ne hregistry, update_of_ne (by simp [hregistry]), h₁.present,
        update_of_ne (by simp), h.entries]

/-- `store` leaves its parameter, whatever it still owns, for the caller to destroy. -/
lemma Registered.storeTarget (h : s.Registered true) (registry key : ℕ) (fails : Bool) :
    ∃ thrown s', s.storeTarget registry key fails = some (thrown, s') ∧ s'.Registered true := by
  rw [ClassTargets.storeTarget]
  rcases hfind : (s.keys registry).idxOf? key with _ | index
  · cases fails with
    | true => exact ⟨true, s, rfl, h⟩
    | false =>
      obtain ⟨s', hemplace, hs'⟩ := h.emplaceBack registry key
      refine ⟨false, s', ?_, hs'⟩
      simp only [hemplace, Bool.false_eq_true, if_false, Option.bind_eq_bind, Option.bind_some]
  · have hlt : index < (s.keys registry).length := by
      rw [List.idxOf?, List.findIdx?_eq_some_iff_getElem] at hfind
      exact hfind.1
    obtain ⟨s', hassign, hs'⟩ := h.sound.moveAssign
      (present_eq_true_iff.mp ((h.entries registry index).mpr hlt))
      (present_eq_true_iff.mp h.target)
    refine ⟨false, s', ?_, h.of_leads hs' h.target h.entryTarget fun _ _ => rfl⟩
    simp only [hassign, Option.bind_eq_bind, Option.bind_some]

/-- A call of `store`, from the construction of its parameter to its destruction. -/
lemma Registered.store (h : s.Registered false) (hother : s.target other ≠ none) (key : ℕ)
    (fails : Bool) :
    ∃ thrown s', s.store registry key other fails = some (thrown, s') ∧ s'.Registered false := by
  obtain ⟨s₁, hmove, h₁⟩ := h.sound.moveConstruct (present_eq_false_iff.mp h.target) hother
  have hregistered₁ : s₁.Registered true :=
    h.of_leads h₁ (update_self ..) h.entryTarget fun _ _ => rfl
  obtain ⟨thrown, s₂, hstore, h₂⟩ := hregistered₁.storeTarget registry key fails
  obtain ⟨s₃, hdestruct, h₃⟩ := h₂.sound.destruct (present_eq_true_iff.mp h₂.target)
  refine ⟨thrown, s₃, ?_, h₂.of_leads h₃ (update_self ..) h₂.entryTarget fun _ _ => rfl⟩
  rw [ClassTargets.store]
  simp only [hmove, hstore, hdestruct, Option.bind_eq_bind, Option.bind_some]

/-- The first entries of a registry go, and nothing else. -/
lemma Sound.destructEntries (h : s.Sound) {index : ℕ}
    (hentries : ∀ i, i < index → s.present (.entry registry i) = true) :
    ∃ s', s.destructEntries registry index = some s' ∧ s'.Sound ∧ s'.keys = s.keys ∧
      (∀ i, i < index → s'.present (.entry registry i) = false) ∧
      ∀ slot, (∀ i, i < index → slot ≠ .entry registry i) → s'.present slot = s.present slot := by
  induction index generalizing s with
  | zero => exact ⟨s, rfl, h, rfl, by simp, fun _ _ => rfl⟩
  | succ index ih =>
    obtain ⟨s₁, hdestruct, h₁⟩ := h.destruct
      (present_eq_true_iff.mp (hentries index (Nat.lt_succ_self index)))
    have hrest : ∀ i, i < index → s₁.present (.entry registry i) = true := by
      intro i hi
      rw [h₁.present, update_of_ne (by simpa using hi.ne)]
      exact hentries i (Nat.lt_succ_of_lt hi)
    obtain ⟨s₂, hrun, hsound, hkeys, hgone, hothers⟩ := ih h₁.sound hrest
    refine ⟨s₂, ?_, hsound, hkeys.trans h₁.keys, fun i hi => ?_, fun slot hslot => ?_⟩
    · rw [ClassTargets.destructEntries, hdestruct]
      exact hrun
    · rcases Nat.lt_succ_iff_lt_or_eq.mp hi with hlt | rfl
      · exact hgone i hlt
      · rw [hothers _ fun j hj => by simpa using hj.ne', h₁.present, update_self]
    · rw [hothers slot fun i hi => hslot i (Nat.lt_succ_of_lt hi), h₁.present,
        update_of_ne (hslot index (Nat.lt_succ_self index))]

lemma Registered.destructRegistry (h : s.Registered false) (registry : ℕ) :
    ∃ s', s.destructRegistry registry = some s' ∧ s'.Registered false := by
  obtain ⟨s₁, hrun, hsound, hkeys, hgone, hothers⟩ := h.sound.destructEntries
    fun i hi => (h.entries registry i).mpr hi
  refine ⟨{ s₁ with keys := update s₁.keys registry [] }, ?_,
    ⟨hsound.consistent, hsound.owned⟩, ?_, ?_, ?_⟩
  · rw [ClassTargets.destructRegistry, hrun]
    rfl
  · exact (hothers .target fun _ _ => by simp).trans h.target
  · exact (hothers .entryTarget fun _ _ => by simp).trans h.entryTarget
  · intro registry' index
    show s₁.present (.entry registry' index) = true ↔
      index < (update s₁.keys registry [] registry').length
    rw [hkeys]
    by_cases hregistry : registry' = registry
    · subst hregistry
      refine iff_of_false (fun hpresent => ?_) (by simp)
      by_cases hlt : index < (s.keys registry').length
      · rw [hgone index hlt] at hpresent
        cases hpresent
      · have hother : ∀ i, i < (s.keys registry').length →
            Slot.entry registry' index ≠ .entry registry' i := by
          rintro i hi heq
          exact hlt ((Slot.entry.inj heq).2 ▸ hi)
        rw [hothers _ hother, h.entries] at hpresent
        exact hlt hpresent
    · rw [update_of_ne hregistry, hothers _ fun _ _ => by simp [hregistry], h.entries]

/-! ### Environments -/

lemma Registered.runHook (h : s.Registered false) {env id : ℕ} (hhook : id ∈ s.heap.hooks env) :
    ∃ s', s.runHook env id = some s' ∧ s'.Registered false := by
  obtain ⟨ref, hobject⟩ := h.sound.consistent.hooked.mp hhook
  obtain ⟨heap, hrun, hconsistent, hobjects, -⟩ := h.sound.consistent.runHook hobject
  refine ⟨{ s with heap := heap }, ?_, ⟨hconsistent, ?_⟩, h.target, h.entryTarget, h.entries⟩
  · rw [ClassTargets.runHook, hrun]
    rfl
  · rw [hobjects]
    exact h.sound.owned

end ClassTargets

/-! ## Runs -/

namespace ClassTargetOperation

open ClassTargets

variable {s s' : ClassTargets} {op : ClassTargetOperation}

/-- No operation is undefined, and the class targets own their objects after it too. -/
lemma exists_perform (h : s.Registered false) (hop : op.Valid s) :
    ∃ thrown s', op.perform s = some (thrown, s') ∧ s'.Registered false := by
  cases op with
  | default name =>
    refine ⟨false, s.default (.variable name), rfl, ?_⟩
    exact h.of_leads (h.sound.default hop) h.target h.entryTarget fun _ _ => rfl
  | construct name env state failure =>
    obtain ⟨s', hconstruct, hs'⟩ := h.sound.construct hop.1 hop.2 state failure
    refine ⟨failure.isSome, s', hconstruct, h.of_leads hs' ?_ ?_ fun registry index => ?_⟩
    · cases failure <;> exact h.target
    · cases failure <;> exact h.entryTarget
    · cases failure <;> rfl
  | moveConstruct name other =>
    obtain ⟨s', hmove, hs'⟩ := h.sound.moveConstruct hop.1 hop.2
    refine ⟨false, s', ?_, h.of_leads hs' h.target h.entryTarget fun _ _ => rfl⟩
    rw [perform, hmove]
    rfl
  | moveAssign slot other =>
    obtain ⟨s', hassign, hs'⟩ := h.sound.moveAssign hop.1 hop.2
    refine ⟨false, s', ?_, h.of_leads hs' h.target h.entryTarget fun _ _ => rfl⟩
    rw [perform, hassign]
    rfl
  | store registry key other fails => exact h.store hop key fails
  | destruct name =>
    obtain ⟨s', hdestruct, hs'⟩ := h.sound.destruct hop
    refine ⟨false, s', ?_, h.of_leads hs' h.target h.entryTarget fun _ _ => rfl⟩
    rw [perform, hdestruct]
    rfl
  | destructRegistry registry =>
    obtain ⟨s', hdestruct, hs'⟩ := h.destructRegistry registry
    refine ⟨false, s', ?_, hs'⟩
    rw [perform, hdestruct]
    rfl
  | runHook env id =>
    obtain ⟨s', hrun, hs'⟩ := h.runHook hop
    refine ⟨false, s', ?_, hs'⟩
    rw [perform, hrun]
    rfl
  | closeEnv env =>
    refine ⟨false, s.closeEnv env, rfl, ⟨h.sound.consistent.closeEnv hop, h.sound.owned⟩,
      h.target, h.entryTarget, h.entries⟩

/-- The states that valid operations lead to, from a program without class targets. -/
def Reachable (s : ClassTargets) : Prop := Reaches (fun s op => op.Valid s) next {} s

lemma registered_of_reachable (h : Reachable s) : s.Registered false := by
  refine Reaches.invariant registered_new (fun s op s' hs hop hnext => ?_) h
  obtain ⟨thrown, s₁, hperform, hregistered⟩ := exists_perform hs hop
  rw [next, hperform] at hnext
  exact Option.some.inj hnext ▸ hregistered

/-- A reference that is not deleted belongs to a class target, whose environment is there. -/
lemma exists_owner (h : s.Registered false) {ref : ℕ} (halive : s.heap.references.Alive ref) :
    ∃ slot id env, s.owned slot = some id ∧ s.heap.object id = some ⟨some env, some ref⟩ ∧
      s.heap.closed env = false := by
  have hconsistent := h.sound.consistent
  obtain ⟨id, hheld⟩ := (hconsistent.owned.alive_iff ref).mp halive
  obtain ⟨self, hobject, href⟩ := Option.bind_eq_some_iff.mp hheld
  have hobjects : s.heap.objects.Alive id := (hconsistent.alive id).mpr (by simp [hobject])
  obtain ⟨slot, hslot⟩ := (h.sound.owned.alive_iff id).mp hobjects
  rcases hconsistent.object_cases hobjects with hempty | ⟨env, ref', hfull⟩
  · rw [hobject] at hempty
    rw [Option.some.inj hempty] at href
    cases href
  · have heq : ref' = ref := by
      rw [hobject] at hfull
      rw [Option.some.inj hfull] at href
      exact Option.some.inj href
    subst heq
    exact ⟨slot, id, env, hslot, hfull, hconsistent.open_of_object hfull⟩

/-- Whatever is done with any number of class targets and registries, and whenever the
environments run their hooks: every reference that was made belongs to one class target, whose
environment is there, or was deleted once, and not both; an object is registered with an
environment exactly when a class target owns it and it holds a reference that is not deleted, it
is registered once, and it is not destroyed; nothing that may happen next is undefined; and when
there is no class target any more, every reference was deleted once. -/
theorem constructor_reference_once (h : Reachable s) :
    (∀ ref, ref < s.heap.references.made →
      ((∃! slot, ∃ id env, s.owned slot = some id ∧
          s.heap.object id = some ⟨some env, some ref⟩ ∧ s.heap.closed env = false) ∧
          s.heap.references.destroyed.count ref = 0 ∨
        (∀ id, s.heap.held id ≠ some ref) ∧ s.heap.references.destroyed.count ref = 1)) ∧
    (∀ env id, (id ∈ s.heap.hooks env ↔ ∃ slot ref, s.owned slot = some id ∧
        s.heap.object id = some ⟨some env, some ref⟩ ∧ s.heap.references.Alive ref) ∧
      (s.heap.hooks env).count id ≤ 1 ∧ (id ∈ s.heap.hooks env → s.heap.objects.Alive id)) ∧
    (∀ op : ClassTargetOperation, op.Valid s → ∃ thrown s', op.perform s = some (thrown, s')) ∧
    ((∀ slot, s.target slot = none) →
      ∀ ref, ref < s.heap.references.made → s.heap.references.destroyed.count ref = 1) := by
  have hregistered := registered_of_reachable h
  have hsound := hregistered.sound
  have hconsistent := hsound.consistent
  have hheld : ∀ {id ref env}, s.heap.object id = some ⟨some env, some ref⟩ →
      s.heap.held id = some ref := fun hobject => by rw [ReferenceHeap.held, hobject]; rfl
  have hobjects : ∀ {env id}, id ∈ s.heap.hooks env → s.heap.objects.Alive id := by
    intro env id hhook
    obtain ⟨ref, hobject⟩ := hconsistent.hooked.mp hhook
    exact (hconsistent.alive id).mpr (by simp [hobject])
  refine ⟨fun ref href => ?_, fun env id => ⟨⟨fun hhook => ?_, ?_⟩, ?_, hobjects⟩,
    fun op hop => ?_, fun hnone ref href => ?_⟩
  · rcases hconsistent.owned.accounted href with ⟨hholder, hcount⟩ | hdeleted
    · have halive := (hconsistent.owned.alive_iff ref).mpr hholder
      obtain ⟨slot, id, env, hslot, hobject, hopen⟩ := exists_owner hregistered halive
      refine .inl ⟨⟨slot, ⟨id, env, hslot, hobject, hopen⟩, ?_⟩, hcount⟩
      rintro slot' ⟨id', env', hslot', hobject', -⟩
      obtain rfl : id' = id := hconsistent.owned.injective (hheld hobject') (hheld hobject)
      exact hsound.owned.injective hslot' hslot
    · exact .inr hdeleted
  · obtain ⟨ref, hobject⟩ := hconsistent.hooked.mp hhook
    obtain ⟨slot, hslot⟩ := (hsound.owned.alive_iff id).mp (hobjects hhook)
    exact ⟨slot, ref, hslot, hobject, hconsistent.owned.alive (hheld hobject)⟩
  · rintro ⟨slot, ref, -, hobject, -⟩
    exact hconsistent.hooked.mpr ⟨ref, hobject⟩
  · exact List.nodup_iff_count_le_one.mp (hconsistent.once env) id
  · obtain ⟨thrown, s', hperform, -⟩ := exists_perform hregistered hop
    exact ⟨thrown, s', hperform⟩
  · rcases hconsistent.owned.accounted href with ⟨hholder, -⟩ | ⟨-, hcount⟩
    · obtain ⟨slot, id, env, hslot, -⟩ :=
        exists_owner hregistered ((hconsistent.owned.alive_iff ref).mpr hholder)
      rw [owned_eq_none (hnone slot)] at hslot
      cases hslot
    · exact hcount

/-- A live target is replaced, a third construction fails at its hook, the environment goes, and
the targets go after it. -/
theorem constructor_reference_once_late :
    ∃ s, Reachable s ∧ s.heap.closed 0 = true ∧ s.heap.references.destroyed = [1, 2, 0] ∧
      ∀ ref, ref < s.heap.references.made →
        ((∃! slot, ∃ id env, s.owned slot = some id ∧
            s.heap.object id = some ⟨some env, some ref⟩ ∧ s.heap.closed env = false) ∧
            s.heap.references.destroyed.count ref = 0 ∨
          (∀ id, s.heap.held id ≠ some ref) ∧ s.heap.references.destroyed.count ref = 1) := by
  obtain ⟨s, hrun⟩ : ∃ s, run (fun s op => op.Valid s) next {}
      [construct 0 0 none none, construct 1 0 none none, moveAssign (.variable 0) (.variable 1),
        construct 2 0 none (some .hook), runHook 0 1, closeEnv 0, destruct 0, destruct 1] =
      some s := ⟨_, rfl⟩
  have h : Reachable s := Reaches.of_run .start hrun
  have hclosed : s.heap.closed 0 = true := by
    obtain rfl := Option.some.inj hrun
    rfl
  have hdestroyed : s.heap.references.destroyed = [1, 2, 0] := by
    obtain rfl := Option.some.inj hrun
    rfl
  exact ⟨s, h, hclosed, hdestroyed, (constructor_reference_once h).1⟩

end ClassTargetOperation

end Dynabridge.Napi
