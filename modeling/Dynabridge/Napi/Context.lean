import Dynabridge.Foundations.Ownership
import Dynabridge.Foundations.Runs

/-!
# The function of a Node-API context

A `context_t` has its function twice: as a reference in an `object_t`, and as a handle in a
cache.  A borrowed context has the handle only.  The model has any number of contexts within one
handle scope, so a handle stays what it is; functions are numbered, and so are environments.

`refresh_callable` reads the handle from the reference again.  A context that has a function and
no reference to it loses the function there; in every other run `callable()` is the function that
the context was last given.
-/

namespace Dynabridge.Napi

open Ownership Runs Function

/-! ## References -/

/-- The references that were made for functions. -/
structure References where
  lifetimes : Lifetimes := {}
  /-- the function that each of them refers to -/
  function : ℕ → Option ℕ := fun _ => none

namespace References

/-- `napi_create_reference`, unless it fails; it does without an environment. -/
def create (env : Option ℕ) (function : ℕ) (fails : Bool) (r : References) :
    Option (ℕ × References) :=
  if env = none ∨ fails then none
  else
    some (r.lifetimes.made,
      { lifetimes := r.lifetimes.make
        function := update r.function r.lifetimes.made (some function) })

/-- `napi_delete_reference`; without an environment it only returns an error. -/
def delete (env : Option ℕ) (ref : ℕ) (r : References) : Option References :=
  if env = none then some r
  else do
    let lifetimes ← r.lifetimes.destroy ref
    some { r with lifetimes := lifetimes }

/-- `napi_get_reference_value`; without an environment it only returns an error. -/
def value (env : Option ℕ) (ref : ℕ) (r : References) : Option (Option ℕ) :=
  if env = none then some none
  else if r.lifetimes.Alive ref then some (r.function ref)
  else none

end References

/-- `object_t`, as far as a context uses it. -/
structure CallableObject where
  env : Option ℕ := none
  ref : Option ℕ := none
  deriving DecidableEq, Repr

namespace CallableObject

/-- `object_t::get` -/
def get (self : CallableObject) (r : References) : Option (Option ℕ) :=
  match self.ref with
  | none => some none
  | some ref => r.value self.env ref

/-- `object_t(env, value)`, with whether it throws -/
def make (env value : Option ℕ) (fails : Bool) (r : References) :
    Bool × CallableObject × References :=
  match value with
  | none => (false, ⟨env, none⟩, r)
  | some function =>
    match r.create env function fails with
    | none => (true, ⟨env, none⟩, r)
    | some (ref, r) => (false, ⟨env, some ref⟩, r)

/-- `object_t::reset()`; the object has no reference after it. -/
def reset (self : CallableObject) (r : References) : Option References :=
  match self.ref with
  | none => some r
  | some ref => r.delete self.env ref

/-- `object_t::reset(env, value)`, with whether it throws -/
def resetTo (self : CallableObject) (env value : Option ℕ) (fails : Bool) (r : References) :
    Option (Bool × CallableObject × References) := do
  let r ← self.reset r
  some (make env value fails r)

end CallableObject

/-! ## Contexts -/

/-- `context_t` -/
structure Context where
  env : Option ℕ := none
  /-- `callable_` -/
  object : CallableObject := {}
  callableCache : Option ℕ := none
  /-- the environment whose `undefined` the cache has -/
  thisArgCache : Option ℕ := none
  deriving DecidableEq, Repr

/-- `context_t::refresh_this_arg`, with whether it throws -/
def Context.refreshThisArg (fails : Bool) (x : Context) : Bool × Context :=
  match x.env with
  | none => (false, x)
  | some env => if fails then (true, x) else (false, { x with thisArgCache := some env })

/-- A context after another one was constructed or assigned from it. -/
def Context.moved (x : Context) : Context where
  object := { x.object with ref := none }

/-- The contexts of a program. -/
structure Contexts where
  references : References := {}
  context : ℕ → Option Context := fun _ => none

namespace Contexts

/-- `context_t()` -/
def default (c : ℕ) (s : Contexts) : Contexts :=
  { s with context := update s.context c (some {}) }

/-- `context_t(env, callable)`, with whether it throws -/
def own (c : ℕ) (env callable : Option ℕ) (referenceFails undefinedFails : Bool) (s : Contexts) :
    Option (Bool × Contexts) :=
  let (thrown, object, references) := CallableObject.make env callable referenceFails s.references
  if thrown then some (true, { s with references := references })
  else
    let (thrown, x) := Context.refreshThisArg undefinedFails ⟨env, object, callable, none⟩
    if thrown then do
      -- the members of the context, which are complete by then, are destroyed
      let references ← object.reset references
      some (true, { s with references := references })
    else some (false, { references := references, context := update s.context c (some x) })

/-- `context_t(env, callable, borrowed_context_t)`, with whether it throws -/
def borrow (c : ℕ) (env callable : Option ℕ) (undefinedFails : Bool) (s : Contexts) :
    Bool × Contexts :=
  let (thrown, x) := Context.refreshThisArg undefinedFails ⟨env, {}, callable, none⟩
  if thrown then (true, s) else (false, { s with context := update s.context c (some x) })

/-- `context_t(context_t&&)` -/
def moveConstruct (c other : ℕ) (s : Contexts) : Option Contexts := do
  let x ← s.context other
  some { s with context := update (update s.context c (some x)) other (some x.moved) }

/-- `context_t::operator=(context_t&&)` -/
def moveAssign (c other : ℕ) (s : Contexts) : Option Contexts :=
  if c = other then some s
  else do
    let self ← s.context c
    let x ← s.context other
    let references ← self.object.reset s.references
    some
      { references := references
        context := update (update s.context c (some x)) other (some x.moved) }

/-- `context_t::callable` -/
def callable (c : ℕ) (s : Contexts) : Option (Option ℕ × Contexts) := do
  let x ← s.context c
  if x.callableCache = none then do
    let value ← x.object.get s.references
    some (value, { s with context := update s.context c (some { x with callableCache := value }) })
  else some (x.callableCache, s)

/-- `context_t::refresh_callable` -/
def refreshCallable (c : ℕ) (s : Contexts) : Option Contexts := do
  let x ← s.context c
  let value ← x.object.get s.references
  some { s with context := update s.context c (some { x with callableCache := value }) }

/-- `context_t::refresh_this_arg`, with whether it throws -/
def refreshThisArg (c : ℕ) (fails : Bool) (s : Contexts) : Option (Bool × Contexts) := do
  let x ← s.context c
  let (thrown, x) := x.refreshThisArg fails
  some (thrown, { s with context := update s.context c (some x) })

/-- `context_t::refresh`, with whether it throws -/
def refresh (c : ℕ) (fails : Bool) (s : Contexts) : Option (Bool × Contexts) := do
  let s ← s.refreshCallable c
  s.refreshThisArg c fails

/-- `context_t::set_callable`, with whether it throws -/
def setCallable (c : ℕ) (callable : Option ℕ) (fails : Bool) (s : Contexts) :
    Option (Bool × Contexts) := do
  let x ← s.context c
  let (thrown, object, references) ← x.object.resetTo x.env callable fails s.references
  let x := { x with object := object }
  let x := if thrown then x else { x with callableCache := callable }
  some (thrown, { references := references, context := update s.context c (some x) })

/-- `~context_t` -/
def destruct (c : ℕ) (s : Contexts) : Option Contexts := do
  let x ← s.context c
  let references ← x.object.reset s.references
  some { references := references, context := update s.context c none }

end Contexts

/-! ## Operations -/

/-- The operations on contexts, with what fails in them. -/
inductive ContextOperation
  | default (c : ℕ)
  | own (c : ℕ) (env callable : Option ℕ) (referenceFails undefinedFails : Bool)
  | borrow (c : ℕ) (env callable : Option ℕ) (undefinedFails : Bool)
  | moveConstruct (c other : ℕ)
  | moveAssign (c other : ℕ)
  | callable (c : ℕ)
  | refreshCallable (c : ℕ)
  | refreshThisArg (c : ℕ) (undefinedFails : Bool)
  | refresh (c : ℕ) (undefinedFails : Bool)
  | setCallable (c : ℕ) (callable : Option ℕ) (referenceFails : Bool)
  | destruct (c : ℕ)
  deriving DecidableEq, Repr

namespace ContextOperation

/-- Constructors make a context that is not there, the other operations work on those that are. -/
def Valid (s : Contexts) : ContextOperation → Prop
  | default c | own c _ _ _ _ | borrow c _ _ _ => s.context c = none
  | moveConstruct c other => s.context c = none ∧ s.context other ≠ none
  | moveAssign c other => s.context c ≠ none ∧ s.context other ≠ none
  | callable c | refreshCallable c | refreshThisArg c _ | refresh c _ | setCallable c _ _
  | destruct c => s.context c ≠ none

/-- What an operation does and whether it throws, unless it is undefined. -/
def perform (s : Contexts) : ContextOperation → Option (Bool × Contexts)
  | default c => some (false, s.default c)
  | own c env value referenceFails undefinedFails =>
    s.own c env value referenceFails undefinedFails
  | borrow c env value undefinedFails => some (s.borrow c env value undefinedFails)
  | moveConstruct c other => (s.moveConstruct c other).map (false, ·)
  | moveAssign c other => (s.moveAssign c other).map (false, ·)
  | callable c => (s.callable c).map fun result => (false, result.2)
  | refreshCallable c => (s.refreshCallable c).map (false, ·)
  | refreshThisArg c undefinedFails => s.refreshThisArg c undefinedFails
  | refresh c undefinedFails => s.refresh c undefinedFails
  | setCallable c value referenceFails => s.setCallable c value referenceFails
  | destruct c => (s.destruct c).map (false, ·)

/-- The functions that the contexts were last given, after an operation that does not throw. -/
def give (given : ℕ → Option ℕ) : ContextOperation → ℕ → Option ℕ
  | default c | destruct c => update given c none
  | own c _ value _ _ | borrow c _ value _ | setCallable c value _ => update given c value
  | moveConstruct c other => update (update given c (given other)) other none
  | moveAssign c other =>
    if c = other then given else update (update given c (given other)) other none
  | callable _ | refreshCallable _ | refreshThisArg _ _ | refresh _ _ => given

/-- What is refreshed has a reference to its function, or no function. -/
def Referenced (s : Contexts) : ContextOperation → Prop
  | refreshCallable c | refresh c _ =>
    ∀ x, s.context c = some x → x.object.ref = none → x.callableCache = none
  | _ => True

end ContextOperation

/-- A program that uses contexts, with the functions that they were last given. -/
structure ContextRun where
  contexts : Contexts := {}
  given : ℕ → Option ℕ := fun _ => none

namespace ContextRun

/-- `callable()` is the function that the context was last given, and nothing is undefined. -/
def Denotes (run : Option ContextRun) : Prop :=
  ∃ r, run = some r ∧ ∀ c, r.contexts.context c ≠ none →
    (r.contexts.callable c).map Prod.fst = some (r.given c)

/-- An operation; one that throws gives nothing. -/
def step (run : Option ContextRun) (op : ContextOperation) : Option ContextRun := do
  let r ← run
  let (thrown, contexts) ← op.perform r.contexts
  some ⟨contexts, if thrown then r.given else op.give r.given⟩

/-- The operations that may come next. -/
def May (run : Option ContextRun) (op : ContextOperation) : Prop :=
  ∀ r, run = some r → op.Valid r.contexts

/-- `ContextOperation.Referenced`, in a run. -/
def Referenced (run : Option ContextRun) (op : ContextOperation) : Prop :=
  ∀ r, run = some r → op.Referenced r.contexts

end ContextRun

/-! ## What the operations keep -/

/-- The reference of a context, if it has one, is to the function in its cache. -/
def Context.Cached (x : Context) (references : References) : Prop :=
  ∀ ref, x.object.ref = some ref → x.object.env ≠ none ∧ x.callableCache ≠ none ∧
    references.function ref = x.callableCache

lemma Context.refreshThisArg_object (x : Context) (fails : Bool) :
    (x.refreshThisArg fails).2.object = x.object := by
  unfold refreshThisArg
  cases x.env <;> cases fails <;> rfl

lemma Context.refreshThisArg_callableCache (x : Context) (fails : Bool) :
    (x.refreshThisArg fails).2.callableCache = x.callableCache := by
  unfold refreshThisArg
  cases x.env <;> cases fails <;> rfl

namespace Contexts

variable {s : Contexts} {c other : ℕ} {x : Context}

/-- The reference that a context has. -/
def held (s : Contexts) (c : ℕ) : Option ℕ := (s.context c).bind fun x => x.object.ref

/-- The references that are not deleted are those that the contexts have, one each. -/
structure Sound (s : Contexts) : Prop where
  owned : Owned s.references.lifetimes s.held
  cached : ∀ c x, s.context c = some x → x.Cached s.references

lemma sound_new : ({} : Contexts).Sound := ⟨Owned.empty, by simp⟩

lemma held_eq (hx : s.context c = some x) : s.held c = x.object.ref := by
  rw [held, hx]
  rfl

lemma held_update (references : References) (context : ℕ → Option Context) (c : ℕ)
    (value : Option Context) :
    held ⟨references, update context c value⟩ =
      update (held ⟨references, context⟩) c (value.bind fun x => x.object.ref) :=
  comp_update (Option.bind · fun x : Context => x.object.ref) context c value

/-- A change to one context, which may delete its reference or make another one. -/
lemma Sound.set (h : s.Sound) {references : References} {value : Option Context}
    (howned : Owned references.lifetimes (update s.held c (value.bind fun x => x.object.ref)))
    (hsame : ∀ {c' ref}, c' ≠ c → s.held c' = some ref →
      references.function ref = s.references.function ref)
    (hvalue : ∀ x, value = some x → x.Cached references) :
    Sound ⟨references, update s.context c value⟩ := by
  refine ⟨?_, fun c' x hx => ?_⟩
  · rw [held_update]
    exact howned
  · dsimp only at hx ⊢
    by_cases hc : c' = c
    · subst hc
      rw [update_self] at hx
      exact hvalue x hx
    · rw [update_of_ne hc] at hx
      intro ref href
      rw [hsame hc ((held_eq hx).trans href)]
      exact h.cached c' x hx ref href

/-- `get` finds what the cache has, if there is a reference. -/
lemma Sound.get (h : s.Sound) (hx : s.context c = some x) :
    x.object.get s.references =
      some (if x.object.ref = none then none else x.callableCache) := by
  rw [CallableObject.get]
  rcases href : x.object.ref with _ | ref
  · rfl
  · obtain ⟨henv, -, hfunction⟩ := h.cached c x hx ref href
    have halive := h.owned.alive ((held_eq hx).trans href)
    rw [if_neg (by simp), ← hfunction]
    exact (if_neg henv).trans (if_pos halive)

/-- `reset` deletes the reference of a context, which it is the only one to have. -/
lemma Sound.reset (h : s.Sound) (hx : s.context c = some x) :
    ∃ references, x.object.reset s.references = some references ∧
      Owned references.lifetimes (update s.held c none) ∧
      references.function = s.references.function := by
  rw [CallableObject.reset]
  have hheld := held_eq hx
  rcases href : x.object.ref with _ | ref
  · rw [href] at hheld
    refine ⟨s.references, rfl, ?_, rfl⟩
    rw [← hheld, update_eq_self]
    exact h.owned
  · rw [href] at hheld
    obtain ⟨lifetimes, hdestroy⟩ := Lifetimes.exists_destroy (h.owned.alive hheld)
    refine ⟨{ s.references with lifetimes := lifetimes }, ?_, h.owned.destroy hheld hdestroy, rfl⟩
    simp only [References.delete, if_neg (h.cached c x hx ref href).1, hdestroy,
      Option.bind_eq_bind, Option.bind_some]

/-- `object_t(env, value)` for a context that has no reference. -/
lemma owned_make {holds : ℕ → Option ℕ} {r : References} (h : Owned r.lifetimes holds)
    (hc : holds c = none) (env value : Option ℕ) (fails : Bool) :
    ∃ thrown object references,
      CallableObject.make env value fails r = (thrown, object, references) ∧
      Owned references.lifetimes (update holds c object.ref) ∧
      (∀ ref, r.lifetimes.Alive ref → references.function ref = r.function ref) ∧
      (thrown = true → object.ref = none ∧ references = r) ∧
      ∀ ref, object.ref = some ref →
        object.env ≠ none ∧ value ≠ none ∧ references.function ref = value := by
  have hkeep : update holds c none = holds := by rw [← hc, update_eq_self]
  rcases value with _ | function
  · refine ⟨false, ⟨env, none⟩, r, rfl, ?_, fun _ _ => rfl, by simp, by simp⟩
    rw [hkeep]
    exact h
  · by_cases hfail : env = none ∨ fails = true
    · refine ⟨true, ⟨env, none⟩, r, ?_, ?_, fun _ _ => rfl, fun _ => ⟨rfl, rfl⟩, by simp⟩
      · simp only [CallableObject.make, References.create, if_pos hfail]
      · rw [hkeep]
        exact h
    · let references : References :=
        { lifetimes := r.lifetimes.make
          function := update r.function r.lifetimes.made (some function) }
      refine ⟨false, ⟨env, some r.lifetimes.made⟩, references, ?_, h.make hc,
        fun ref halive => ?_, by simp, fun ref href => ?_⟩
      · simp only [CallableObject.make, References.create, if_neg hfail]
        rfl
      · have hne : ref ≠ r.lifetimes.made := by
          rintro rfl
          exact Lifetimes.not_alive_made halive
        exact update_of_ne hne ..
      · obtain rfl : r.lifetimes.made = ref := Option.some.inj href
        exact ⟨fun henv => hfail (.inl henv), by simp, update_self ..⟩

/-! ### The caches -/

/-- The caches are what the contexts were last given. -/
def Agrees (s : Contexts) (given : ℕ → Option ℕ) : Prop :=
  ∀ c x, s.context c = some x → x.callableCache = given c

variable {given : ℕ → Option ℕ}

/-- A change to one context, which is given something by it. -/
lemma Agrees.give (h : s.Agrees given) (references : References) (value : Option Context)
    (v : Option ℕ) :
    Agrees ⟨references, update s.context c value⟩ (update given c v) ↔
      ∀ x, value = some x → x.callableCache = v := by
  constructor
  · intro hagrees x hx
    exact (hagrees c x ((update_self ..).trans hx)).trans (update_self ..)
  · intro hvalue c' x hx
    dsimp only at hx
    by_cases hc : c' = c
    · subst hc
      rw [update_self] at hx ⊢
      exact hvalue x hx
    · rw [update_of_ne hc] at hx ⊢
      exact h c' x hx

/-- A change to one context, which is given nothing by it. -/
lemma Agrees.set (h : s.Agrees given) (references : References) (value : Option Context) :
    Agrees ⟨references, update s.context c value⟩ given ↔
      ∀ x, value = some x → x.callableCache = given c := by
  have hiff := h.give (c := c) references value (given c)
  rwa [update_eq_self] at hiff

/-- `callable()` is what the cache has, and changes nothing. -/
lemma Sound.callable (h : s.Sound) (hx : s.context c = some x) :
    s.callable c = some (x.callableCache, s) := by
  have hget := h.get hx
  rw [Contexts.callable, hx]
  by_cases hcache : x.callableCache = none
  · have hsame : { x with callableCache := none } = x := by rw [← hcache]
    simp only [Option.bind_eq_bind, Option.bind_some, hcache, if_true, hget, ite_self, hsame]
    rw [update_eq_self_iff.mpr hx.symm]
  · simp only [Option.bind_eq_bind, Option.bind_some, if_neg hcache]

/-! ### The operations -/

/-- What an operation leads to: a sound state, in which the caches are what was given. -/
structure Leads (given : ℕ → Option ℕ) (s' : Contexts) : Prop where
  sound : s'.Sound
  agrees : s'.Agrees given

lemma Sound.default (h : s.Sound) (hc : s.context c = none) (hagrees : s.Agrees given) :
    Leads (update given c none) (s.default c) := by
  have hheld : s.held c = none := by rw [held, hc]; rfl
  refine ⟨h.set ?_ (fun _ _ => rfl) ?_, (hagrees.give _ _ _).mpr ?_⟩
  · rw [Option.bind_some, ← hheld, update_eq_self]
    exact h.owned
  · intro x hx ref href
    rw [← Option.some.inj hx] at href
    cases href
  · intro x hx
    rw [← Option.some.inj hx]

/-- A context that has a reference to its function, or none. -/
lemma Sound.place (h : s.Sound) {references : References} {object : CallableObject}
    {callable : Option ℕ} (howned : Owned references.lifetimes (update s.held c object.ref))
    (hsame : ∀ ref, s.references.lifetimes.Alive ref →
      references.function ref = s.references.function ref)
    (href : ∀ ref, object.ref = some ref →
      object.env ≠ none ∧ callable ≠ none ∧ references.function ref = callable)
    {y : Context} (hobject : y.object = object) (hcache : y.callableCache = callable) :
    Sound ⟨references, update s.context c (some y)⟩ := by
  refine h.set ?_ (fun _ hheld => hsame _ (h.owned.alive hheld)) fun z hz ref href' => ?_
  · rw [Option.bind_some, hobject]
    exact howned
  · rw [← Option.some.inj hz, hobject] at href' ⊢
    rw [hcache]
    exact href ref href'

/-- A constructor that makes a reference; if it throws there is no context. -/
lemma Sound.own (h : s.Sound) (hc : s.context c = none) (hagrees : s.Agrees given)
    (env callable : Option ℕ) (referenceFails undefinedFails : Bool) :
    ∃ thrown s', s.own c env callable referenceFails undefinedFails = some (thrown, s') ∧
      Leads (if thrown then given else update given c callable) s' := by
  have hheld : s.held c = none := by rw [held, hc]; rfl
  have hcontext : update s.context c none = s.context := by rw [← hc, update_eq_self]
  obtain ⟨thrown, object, references, hmake, howned, hsame, hthrown, href⟩ :=
    owned_make h.owned hheld env callable referenceFails
  rw [Contexts.own, hmake]
  cases thrown with
  | true =>
    obtain ⟨-, rfl⟩ := hthrown rfl
    exact ⟨true, s, rfl, h, hagrees⟩
  | false =>
    let x : Context := ⟨env, object, callable, none⟩
    have hobject := x.refreshThisArg_object undefinedFails
    have hcache := x.refreshThisArg_callableCache undefinedFails
    rcases hrefresh : x.refreshThisArg undefinedFails with ⟨thrown, y⟩
    rw [hrefresh] at hobject hcache
    have hsound := h.place howned hsame href hobject hcache
    cases thrown with
    | false =>
      refine ⟨false, _, ?_, hsound, (hagrees.give _ _ _).mpr ?_⟩
      · simp only [Bool.false_eq_true, if_false, hrefresh, x]
      · intro z hz
        rw [← Option.some.inj hz]
        exact hcache
    | true =>
      have hobject' : object = y.object := hobject.symm
      subst hobject'
      have hctx : (⟨references, update s.context c (some y)⟩ : Contexts).context c = some y :=
        update_self ..
      obtain ⟨references', hreset, howned', hfunction⟩ := hsound.reset hctx
      refine ⟨true, ⟨references', s.context⟩, ?_, ?_, hagrees⟩
      · simp only [Bool.false_eq_true, if_false, hrefresh, x, if_true, Option.bind_eq_bind]
        rw [hreset]
        rfl
      · have hset : Sound ⟨references', update s.context c none⟩ := h.set
          (by rw [held_update, update_idem] at howned'; exact howned')
          (fun _ hheld' => by rw [hfunction]; exact hsame _ (h.owned.alive hheld')) (by simp)
        rwa [hcontext] at hset

/-- A borrowed context has no reference. -/
lemma Sound.borrow (h : s.Sound) (hc : s.context c = none) (hagrees : s.Agrees given)
    (env callable : Option ℕ) (undefinedFails : Bool) :
    ∃ thrown s', s.borrow c env callable undefinedFails = (thrown, s') ∧
      Leads (if thrown then given else update given c callable) s' := by
  have hheld : s.held c = none := by rw [held, hc]; rfl
  let x : Context := ⟨env, {}, callable, none⟩
  have hobject := x.refreshThisArg_object undefinedFails
  have hcache := x.refreshThisArg_callableCache undefinedFails
  rw [Contexts.borrow]
  rcases hrefresh : x.refreshThisArg undefinedFails with ⟨thrown, y⟩
  rw [hrefresh] at hobject hcache
  cases thrown with
  | true =>
    exact ⟨true, s, rfl, h, hagrees⟩
  | false =>
    have hkeep : Owned s.references.lifetimes (update s.held c none) := by
      rw [← hheld, update_eq_self]
      exact h.owned
    refine ⟨false, ⟨s.references, update s.context c (some y)⟩, rfl,
      h.place hkeep (fun _ _ => rfl) (by simp) hobject hcache, (hagrees.give _ _ _).mpr ?_⟩
    intro z hz
    rw [← Option.some.inj hz]
    exact hcache

/-- What both moves do, once the target has no reference. -/
lemma Sound.move (h : s.Sound) (hx : s.context other = some x) (hne : c ≠ other)
    {references : References} (howned : Owned references.lifetimes (update s.held c none))
    (hfunction : references.function = s.references.function) (hagrees : s.Agrees given) :
    Leads (update (update given c (given other)) other none)
      ⟨references, update (update s.context c (some x)) other (some x.moved)⟩ := by
  refine ⟨⟨?_, fun c' y hy => ?_⟩, ?_⟩
  · have htransfer := howned.transfer (s := other) (t := c) (update_self ..)
    rw [update_idem, update_of_ne (Ne.symm hne), held_eq hx] at htransfer
    rw [held_update, held_update]
    exact htransfer
  · have hcached : ∀ z, z ∈ [x, x.moved] → z.Cached references := by
      intro z hz ref href
      rw [hfunction]
      rcases List.mem_pair.mp hz with rfl | rfl
      · exact h.cached other z hx ref href
      · cases href
    dsimp only at hy ⊢
    by_cases hother : c' = other
    · subst hother
      rw [update_self] at hy
      exact hcached y (by simp [← Option.some.inj hy])
    · rw [update_of_ne hother] at hy
      by_cases hc : c' = c
      · subst hc
        rw [update_self] at hy
        exact hcached y (by simp [← Option.some.inj hy])
      · rw [update_of_ne hc] at hy
        intro ref href
        rw [hfunction]
        exact h.cached c' y hy ref href
  · have hfirst : Agrees ⟨references, update s.context c (some x)⟩
        (update given c (given other)) :=
      (hagrees.give _ _ _).mpr fun y hy => Option.some.inj hy ▸ hagrees other x hx
    exact (hfirst.give references (some x.moved) none).mpr fun y hy => Option.some.inj hy ▸ rfl

lemma Sound.moveConstruct (h : s.Sound) (hc : s.context c = none) (hother : s.context other ≠ none)
    (hagrees : s.Agrees given) :
    ∃ s', s.moveConstruct c other = some s' ∧
      Leads (update (update given c (given other)) other none) s' := by
  obtain ⟨x, hx⟩ := Option.ne_none_iff_exists'.mp hother
  have hheld : s.held c = none := by rw [held, hc]; rfl
  have hne : c ≠ other := by
    rintro rfl
    exact hother hc
  refine ⟨⟨s.references, update (update s.context c (some x)) other (some x.moved)⟩, ?_,
    h.move hx hne ?_ rfl hagrees⟩
  · rw [Contexts.moveConstruct, hx]
    rfl
  · rw [← hheld, update_eq_self]
    exact h.owned

lemma Sound.moveAssign (h : s.Sound) (hc : s.context c ≠ none) (hother : s.context other ≠ none)
    (hagrees : s.Agrees given) :
    ∃ s', s.moveAssign c other = some s' ∧
      Leads (if c = other then given
        else update (update given c (given other)) other none) s' := by
  rw [Contexts.moveAssign]
  by_cases hne : c = other
  · rw [if_pos hne, if_pos hne]
    exact ⟨s, rfl, h, hagrees⟩
  rw [if_neg hne, if_neg hne]
  obtain ⟨self, hself⟩ := Option.ne_none_iff_exists'.mp hc
  obtain ⟨x, hx⟩ := Option.ne_none_iff_exists'.mp hother
  obtain ⟨references, hreset, howned, hfunction⟩ := h.reset hself
  refine ⟨_, ?_, h.move hx hne howned hfunction hagrees⟩
  simp only [hself, hx, hreset, Option.bind_eq_bind, Option.bind_some]

/-- Reading the cache from the reference again: it stays as it is exactly if there is a reference,
or nothing in the cache. -/
lemma Sound.recache (h : s.Sound) (hx : s.context c = some x) {y : Context}
    (hobject : y.object = x.object)
    (hcache : y.callableCache = if x.object.ref = none then none else x.callableCache)
    (hagrees : s.Agrees given) :
    Sound ⟨s.references, update s.context c (some y)⟩ ∧
      (Agrees ⟨s.references, update s.context c (some y)⟩ given ↔
        (x.object.ref = none → x.callableCache = none)) := by
  constructor
  · refine h.set ?_ (fun _ _ => rfl) fun z hz ref href => ?_
    · rw [Option.bind_some, hobject, ← held_eq hx, update_eq_self]
      exact h.owned
    · rw [← Option.some.inj hz, hobject] at href ⊢
      rw [hcache, if_neg (by rw [href]; simp)]
      exact h.cached c x hx ref href
  · rw [hagrees.set, ← hagrees c x hx]
    constructor
    · intro hsame href
      rw [← hsame y rfl, hcache, if_pos href]
    · intro href z hz
      rw [← Option.some.inj hz, hcache]
      split
      case isTrue hnone => exact (href hnone).symm
      case isFalse => rfl

lemma Sound.refreshCallable (h : s.Sound) (hx : s.context c = some x)
    (hagrees : s.Agrees given) :
    ∃ s', s.refreshCallable c = some s' ∧ s'.Sound ∧
      (s'.Agrees given ↔ (x.object.ref = none → x.callableCache = none)) := by
  refine ⟨_, ?_, h.recache hx (y := { x with callableCache :=
    if x.object.ref = none then none else x.callableCache }) rfl rfl hagrees⟩
  simp only [Contexts.refreshCallable, hx, h.get hx, Option.bind_eq_bind, Option.bind_some]

lemma Sound.refresh (h : s.Sound) (hx : s.context c = some x) (fails : Bool)
    (hagrees : s.Agrees given) :
    ∃ thrown s', s.refresh c fails = some (thrown, s') ∧ s'.Sound ∧
      (s'.Agrees given ↔ (x.object.ref = none → x.callableCache = none)) := by
  let y : Context :=
    { x with callableCache := if x.object.ref = none then none else x.callableCache }
  refine ⟨(y.refreshThisArg fails).1, _, ?_, h.recache hx (y.refreshThisArg_object fails)
    (y.refreshThisArg_callableCache fails) hagrees⟩
  simp only [Contexts.refresh, Contexts.refreshCallable, Contexts.refreshThisArg, hx, h.get hx,
    Option.bind_eq_bind, Option.bind_some, update_self, update_idem, y]

lemma Sound.refreshThisArg (h : s.Sound) (hx : s.context c = some x) (fails : Bool)
    (hagrees : s.Agrees given) :
    ∃ thrown s', s.refreshThisArg c fails = some (thrown, s') ∧ Leads given s' := by
  have hobject := x.refreshThisArg_object fails
  have hcache := x.refreshThisArg_callableCache fails
  refine ⟨(x.refreshThisArg fails).1,
    ⟨s.references, update s.context c (some (x.refreshThisArg fails).2)⟩, ?_,
    h.set ?_ (fun _ _ => rfl) ?_, (hagrees.set _ _).mpr ?_⟩
  · simp only [Contexts.refreshThisArg, hx, Option.bind_eq_bind, Option.bind_some]
  · rw [Option.bind_some, hobject, ← held_eq hx, update_eq_self]
    exact h.owned
  · intro y hy ref href
    rw [← Option.some.inj hy, hobject] at href ⊢
    rw [hcache]
    exact h.cached c x hx ref href
  · intro y hy
    rw [← Option.some.inj hy, hcache]
    exact hagrees c x hx

/-- `set_callable` deletes the old reference first, also if it then fails to make the new one. -/
lemma Sound.setCallable (h : s.Sound) (hx : s.context c = some x) (callable : Option ℕ)
    (fails : Bool) (hagrees : s.Agrees given) :
    ∃ thrown s', s.setCallable c callable fails = some (thrown, s') ∧
      Leads (if thrown then given else update given c callable) s' := by
  obtain ⟨references, hreset, howned, hfunction⟩ := h.reset hx
  obtain ⟨thrown, object, references', hmake, howned', hsame, hthrown, href⟩ :=
    owned_make howned (update_self ..) x.env callable fails
  rw [update_idem] at howned'
  have hrun : x.object.resetTo x.env callable fails s.references =
      some (thrown, object, references') := by
    rw [CallableObject.resetTo, hreset]
    exact congrArg some hmake
  have hothers : ∀ {c' ref}, c' ≠ c → s.held c' = some ref →
      references'.function ref = s.references.function ref := by
    intro c' ref hne hheld
    rw [hsame ref (howned.alive ((update_of_ne hne ..).trans hheld)), hfunction]
  let y : Context := { x with object := object }
  let z : Context := if thrown then y else { y with callableCache := callable }
  have hobject : z.object = object := by
    cases thrown <;> rfl
  refine ⟨thrown, ⟨references', update s.context c (some z)⟩, ?_, h.set ?_ hothers ?_, ?_⟩
  · simp only [Contexts.setCallable, hx, hrun, Option.bind_eq_bind, Option.bind_some, z, y]
  · rw [Option.bind_some, hobject]
    exact howned'
  · intro w hw ref href'
    rw [← Option.some.inj hw, hobject] at href' ⊢
    cases thrown with
    | true =>
      rw [(hthrown rfl).1] at href'
      cases href'
    | false => exact href ref href'
  · cases thrown with
    | true => exact (hagrees.set _ _).mpr fun w hw => Option.some.inj hw ▸ hagrees c x hx
    | false => exact (hagrees.give _ _ _).mpr fun w hw => Option.some.inj hw ▸ rfl

lemma Sound.destruct (h : s.Sound) (hx : s.context c = some x) (hagrees : s.Agrees given) :
    ∃ s', s.destruct c = some s' ∧ Leads (update given c none) s' := by
  obtain ⟨references, hreset, howned, hfunction⟩ := h.reset hx
  refine ⟨⟨references, update s.context c none⟩, ?_,
    h.set howned (fun _ _ => by rw [hfunction]) (by simp), (hagrees.give _ _ _).mpr (by simp)⟩
  simp only [Contexts.destruct, hx, hreset, Option.bind_eq_bind, Option.bind_some]

end Contexts

/-! ## Runs -/

namespace ContextOperation

open Contexts

variable {s : Contexts} {op : ContextOperation} {given : ℕ → Option ℕ}

/-- Every operation is defined, and leaves the caches as the contexts were given exactly if it
refreshes nothing that has no reference. -/
lemma exists_perform (h : s.Sound) (hop : op.Valid s) (hagrees : s.Agrees given) :
    ∃ thrown s', op.perform s = some (thrown, s') ∧ s'.Sound ∧
      (s'.Agrees (if thrown then given else op.give given) ↔ op.Referenced s) := by
  -- an operation that keeps the caches meets the condition
  have hkeeps : ∀ (thrown : Bool) {s'} {given' : ℕ → Option ℕ}, op.Referenced s →
      op.perform s = some (thrown, s') → (if thrown then given else op.give given) = given' →
      Leads given' s' → ∃ thrown s', op.perform s = some (thrown, s') ∧ s'.Sound ∧
        (s'.Agrees (if thrown then given else op.give given) ↔ op.Referenced s) := by
    intro thrown s' given' hreferenced hperform hgiven hleads
    refine ⟨thrown, s', hperform, hleads.sound, iff_of_true ?_ hreferenced⟩
    rw [hgiven]
    exact hleads.agrees
  cases op with
  | default c => exact hkeeps false trivial rfl rfl (h.default hop hagrees)
  | own c env value referenceFails undefinedFails =>
    obtain ⟨thrown, s', hown, hleads⟩ :=
      h.own hop hagrees env value referenceFails undefinedFails
    exact hkeeps thrown trivial hown rfl hleads
  | borrow c env value undefinedFails =>
    obtain ⟨thrown, s', hborrow, hleads⟩ := h.borrow hop hagrees env value undefinedFails
    exact hkeeps thrown trivial (congrArg some hborrow) rfl hleads
  | moveConstruct c other =>
    obtain ⟨s', hmove, hleads⟩ := h.moveConstruct hop.1 hop.2 hagrees
    exact hkeeps false trivial (by rw [perform, hmove]; rfl) rfl hleads
  | moveAssign c other =>
    obtain ⟨s', hmove, hleads⟩ := h.moveAssign hop.1 hop.2 hagrees
    exact hkeeps false trivial (by rw [perform, hmove]; rfl) rfl hleads
  | callable c =>
    obtain ⟨x, hx⟩ := Option.ne_none_iff_exists'.mp hop
    exact hkeeps false trivial (by rw [perform, h.callable hx]; rfl) rfl ⟨h, hagrees⟩
  | refreshCallable c =>
    obtain ⟨x, hx⟩ := Option.ne_none_iff_exists'.mp hop
    obtain ⟨s', hrefresh, hsound, hiff⟩ := h.refreshCallable hx hagrees
    refine ⟨false, s', by rw [perform, hrefresh]; rfl, hsound, hiff.trans ?_⟩
    exact ⟨fun href y hy => Option.some.inj (hx.symm.trans hy) ▸ href, fun href => href x hx⟩
  | refreshThisArg c undefinedFails =>
    obtain ⟨x, hx⟩ := Option.ne_none_iff_exists'.mp hop
    obtain ⟨thrown, s', hrefresh, hleads⟩ := h.refreshThisArg hx undefinedFails hagrees
    exact hkeeps thrown trivial hrefresh (ite_self _) hleads
  | refresh c undefinedFails =>
    obtain ⟨x, hx⟩ := Option.ne_none_iff_exists'.mp hop
    obtain ⟨thrown, s', hrefresh, hsound, hiff⟩ := h.refresh hx undefinedFails hagrees
    have hsame : (if thrown then given else (refresh c undefinedFails).give given) = given :=
      ite_self _
    rw [← hsame] at hiff
    refine ⟨thrown, s', hrefresh, hsound, hiff.trans ?_⟩
    exact ⟨fun href y hy => Option.some.inj (hx.symm.trans hy) ▸ href, fun href => href x hx⟩
  | setCallable c value referenceFails =>
    obtain ⟨x, hx⟩ := Option.ne_none_iff_exists'.mp hop
    obtain ⟨thrown, s', hset, hleads⟩ := h.setCallable hx value referenceFails hagrees
    exact hkeeps thrown trivial hset rfl hleads
  | destruct c =>
    obtain ⟨x, hx⟩ := Option.ne_none_iff_exists'.mp hop
    obtain ⟨s', hdestruct, hleads⟩ := h.destruct hx hagrees
    exact hkeeps false trivial (by rw [perform, hdestruct]; rfl) rfl hleads

end ContextOperation

namespace ContextRun

open Contexts

/-- Nothing is undefined so far, and the caches are what the contexts were last given. -/
def Right (run : Option ContextRun) : Prop :=
  ∃ r, run = some r ∧ r.contexts.Sound ∧ r.contexts.Agrees r.given

lemma right_new : Right (some {}) := ⟨{}, rfl, sound_new, by simp [Agrees]⟩

/-- For a sound state, `callable()` is right exactly if the caches are. -/
lemma denotes_iff_agrees {r : ContextRun} (h : r.contexts.Sound) :
    Denotes (some r) ↔ r.contexts.Agrees r.given := by
  constructor
  · rintro ⟨r', hr, hdenotes⟩ c x hx
    obtain rfl := Option.some.inj hr
    have hcallable := hdenotes c (by rw [hx]; simp)
    rw [h.callable hx] at hcallable
    exact Option.some.inj hcallable
  · intro hagrees
    refine ⟨r, rfl, fun c hc => ?_⟩
    obtain ⟨x, hx⟩ := Option.ne_none_iff_exists'.mp hc
    rw [h.callable hx]
    exact congrArg some (hagrees c x hx)

/-- One step of a run that is right so far. -/
lemma exists_step {run : Option ContextRun} {op : ContextOperation} (h : Right run)
    (hop : May run op) :
    ∃ r, step run op = some r ∧ r.contexts.Sound ∧
      (r.contexts.Agrees r.given ↔ Referenced run op) := by
  obtain ⟨r, rfl, hsound, hagrees⟩ := h
  obtain ⟨thrown, s', hperform, hsound', hiff⟩ :=
    ContextOperation.exists_perform hsound (hop r rfl) hagrees
  refine ⟨⟨s', if thrown then r.given else op.give r.given⟩, ?_, hsound', hiff.trans ?_⟩
  · rw [step]
    simp only [hperform, Option.bind_eq_bind, Option.bind_some]
  · exact ⟨fun href r' hr' => Option.some.inj hr' ▸ href, fun href => href r rfl⟩

/-- In a run of valid operations on any number of contexts, `callable()` is always the function
that the context was last given, by its construction, by `set_callable` or by a move, and none
for a context that was moved from, exactly if no context is refreshed that has a function and
no reference to it. -/
theorem denotes_iff_referenced {ops : List ContextOperation}
    (hops : EveryStep step May (some {}) ops) :
    EveryState step Denotes (some {}) ops ↔ EveryStep step Referenced (some {}) ops := by
  refine everyState_iff_everyStep ?_ ?_ ?_ right_new hops
  · rintro _ ⟨r, rfl, hsound, hagrees⟩
    exact (denotes_iff_agrees hsound).mpr hagrees
  · intro run op hright hmay href
    obtain ⟨r, hstep, hsound, hiff⟩ := exists_step hright hmay
    exact ⟨r, hstep, hsound, hiff.mpr href⟩
  · intro run op hright hmay hdenotes
    obtain ⟨r, hstep, hsound, hiff⟩ := exists_step hright hmay
    rw [hstep] at hdenotes
    exact hiff.mp ((denotes_iff_agrees hsound).mp hdenotes)

/-- A context that owns its function is moved, given another function and refreshed. -/
theorem denotes_iff_referenced_moved :
    EveryState step Denotes (some {})
      [.own 0 (some 1) (some 5) false false, .default 1, .moveAssign 1 0,
        .setCallable 1 (some 6) false, .refresh 1 false] := by
  have hops : EveryStep step May (some {})
      [.own 0 (some 1) (some 5) false false, .default 1, .moveAssign 1 0,
        .setCallable 1 (some 6) false, .refresh 1 false] := by
    refine ⟨?_, ?_, ?_, ?_, ?_, trivial⟩ <;> intro r hr <;> obtain rfl := Option.some.inj hr
    · exact rfl
    · exact rfl
    · exact ⟨Option.some_ne_none _, Option.some_ne_none _⟩
    · exact Option.some_ne_none _
    · exact Option.some_ne_none _
  refine (denotes_iff_referenced hops).mpr ⟨fun _ _ => trivial, fun _ _ => trivial,
    fun _ _ => trivial, fun _ _ => trivial, fun r hr x hx href => ?_, trivial⟩
  obtain rfl := Option.some.inj hr
  obtain rfl := Option.some.inj hx
  cases href

/-- A borrowed context is given a function, and a refresh takes it away. -/
theorem refresh_drops_borrowed :
    EveryStep step May (some {}) [.borrow 0 (some 1) (some 5) false, .refresh 0 false] ∧
      ¬ EveryState step Denotes (some {})
        [.borrow 0 (some 1) (some 5) false, .refresh 0 false] := by
  refine ⟨⟨fun r hr => ?_, fun r hr => ?_, trivial⟩, fun h => ?_⟩
  · obtain rfl := Option.some.inj hr
    exact rfl
  · obtain rfl := Option.some.inj hr
    exact Option.some_ne_none _
  · obtain ⟨-, -, r, hr, hdenotes⟩ := h
    obtain rfl := Option.some.inj hr
    have hcallable := hdenotes 0 (by decide)
    cases hcallable

end ContextRun

end Dynabridge.Napi
