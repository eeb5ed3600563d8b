import Dynabridge.Foundations.Runs
import Mathlib.Data.List.Forall2
import Mathlib.Logic.Relation

/-!
# Components that a registry starts

A registry changes by events of its own and lists what it has started, the last one first.  From
then on each component takes steps of its own, interleaved with those of the others and with the
events of the registry, for as long as the whole is running.

* `Family.Leads.reached`: every component is reached from its own start.
* `Family.Leads.matched`: later on there may be new components, and the old ones have only taken
  steps of their own.
-/

namespace Spawning

open Runs

variable {σ ι ℓ τ κ : Type}

/-- The registry and the components, the last one first. -/
structure State (σ τ : Type) where
  registry : σ
  components : List τ

/-- What happens next: an event of the registry, or a step of a component. -/
inductive Event (ι κ : Type)
  | registry (i : ι)
  | component (k : ℕ) (c : κ)

/-- A registry with its events, the components that it starts with theirs, and what may happen. -/
structure Family (σ ι ℓ τ κ : Type) where
  next : σ → ι → Option σ
  listed : σ → List ℓ
  start : ℓ → τ
  step : τ → κ → Option τ
  may : State σ τ → Event ι κ → Prop

namespace Family

variable (F : Family σ ι ℓ τ κ)

/-- What the second registry lists before what the first one does. -/
def started (s s' : σ) : List ℓ :=
  (F.listed s').take ((F.listed s').length - (F.listed s).length)

/-- The state after an event, unless it is undefined. -/
def advance (s : State σ τ) : Event ι κ → Option (State σ τ)
  | .registry i => do
    let registry ← F.next s.registry i
    some ⟨registry, (F.started s.registry registry).map F.start ++ s.components⟩
  | .component k c => do
    let x ← s.components[k]?
    let x ← F.step x c
    some { s with components := s.components.set k x }

/-- The states that events lead to from a given one. -/
def Leads (s s' : State σ τ) : Prop := Reaches F.may F.advance s s'

/-- The steps of one component. -/
def Steps (x x' : τ) : Prop := Relation.ReflTransGen (fun y y' => ∃ c, F.step y c = some y') x x'

variable {F} {s s' s₀ : State σ τ}

lemma started_append {r r' : σ} {new : List ℓ} (h : F.listed r' = new ++ F.listed r) :
    F.started r r' = new := by
  rw [started, h, List.length_append, Nat.add_sub_cancel, List.take_left]

/-- The components of the second state are new ones, before those of the first one, which have
taken steps. -/
structure Extends (F : Family σ ι ℓ τ κ) (s s' : State σ τ) (new : List ℓ) (old : List τ) :
    Prop where
  components : ∃ xs, s'.components = xs ++ old ∧ List.Forall₂ (fun l x => F.Steps (F.start l) x)
    new xs
  listed : F.listed s'.registry = new ++ F.listed s.registry
  steps : List.Forall₂ F.Steps s.components old

lemma Extends.refl (s : State σ τ) : F.Extends s s [] s.components :=
  ⟨⟨[], rfl, .nil⟩, rfl, List.forall₂_same.mpr fun _ _ => .refl⟩

/-- A component takes a step. -/
lemma forall₂_set {α : Type} {r : α → τ → Prop} {as : List α} {xs : List τ} {k : ℕ} {x x' : τ}
    (h : List.Forall₂ r as xs) (hx : xs[k]? = some x) (hstep : ∀ a, r a x → r a x') :
    List.Forall₂ r as (xs.set k x') := by
  induction h generalizing k with
  | nil => cases hx
  | cons hhead htail ih =>
    cases k with
    | zero =>
      obtain rfl := Option.some.inj hx
      exact .cons (hstep _ hhead) htail
    | succ k => exact .cons hhead (ih hx)

/-- The components of a part of the list are changed where the step is in that part. -/
lemma Extends.component {new : List ℓ} {old : List τ} (h : F.Extends s s' new old) {k : ℕ} {c : κ}
    {x x' : τ} (hx : s'.components[k]? = some x) (hstep : F.step x c = some x') :
    ∃ old', F.Extends s { s' with components := s'.components.set k x' } new old' := by
  obtain ⟨⟨xs, hxs, hnew⟩, hlisted, hold⟩ := h
  have hsteps : ∀ y, F.Steps y x → F.Steps y x' := fun y hy => hy.tail ⟨c, hstep⟩
  rw [hxs] at hx
  rw [hxs]
  rcases lt_or_ge k xs.length with hlt | hge
  · rw [List.getElem?_append_left hlt] at hx
    refine ⟨old, ⟨xs.set k x', ?_, forall₂_set hnew hx fun l => hsteps (F.start l)⟩, hlisted,
      hold⟩
    dsimp only
    rw [List.set_append_left _ _ hlt]
  · rw [List.getElem?_append_right hge] at hx
    refine ⟨old.set (k - xs.length) x', ⟨xs, ?_, hnew⟩, hlisted, forall₂_set hold hx hsteps⟩
    dsimp only
    rw [List.set_append_right _ _ hge]

section

variable {inv : σ → Prop}
  (hkeep : ∀ s i r, inv s.registry → F.may s (.registry i) → F.next s.registry i = some r →
    inv r ∧ F.listed s.registry <:+ F.listed r)

include hkeep

/-- Later on there may be new components, and those that there were have taken steps. -/
theorem Leads.matched (hinit : inv s.registry) (h : F.Leads s s') :
    inv s'.registry ∧ ∃ new old, F.Extends s s' new old := by
  let later (t : State σ τ) : Prop := inv t.registry ∧ ∃ new old, F.Extends s t new old
  have hlater : later s' := by
    refine Reaches.invariant ⟨hinit, [], s.components, .refl s⟩ ?_ h
    rintro t (i | ⟨k, c⟩) t' ⟨hinv, new, old, hext⟩ hmay hnext
    · obtain ⟨registry, hreg, heq⟩ := Option.bind_eq_some_iff.mp hnext
      obtain rfl := Option.some.inj heq
      obtain ⟨hinv', more, hmore⟩ := hkeep _ _ _ hinv hmay hreg
      obtain ⟨⟨xs, hxs, hnew⟩, hlisted, hold⟩ := hext
      refine ⟨hinv', more ++ new, old, ⟨more.map F.start ++ xs, ?_, ?_⟩, ?_, hold⟩
      · dsimp only
        rw [started_append hmore.symm, hxs, List.append_assoc]
      · refine List.rel_append (List.forall₂_map_right_iff.mpr ?_) hnew
        exact List.forall₂_same.mpr fun _ _ => .refl
      · dsimp only
        rw [← hmore, hlisted, List.append_assoc]
    · obtain ⟨x, hx, hrest⟩ := Option.bind_eq_some_iff.mp hnext
      obtain ⟨x', hstep, heq⟩ := Option.bind_eq_some_iff.mp hrest
      obtain rfl := Option.some.inj heq
      obtain ⟨old', hext'⟩ := hext.component hx hstep
      exact ⟨hinv, new, old', hext'⟩
  exact hlater

/-- Every component is reached from its start. -/
theorem Leads.reached (hinit : inv s.registry) (hnone : F.listed s.registry = [])
    (hcomponents : s.components = []) (h : F.Leads s s') :
    inv s'.registry ∧ List.Forall₂ (fun l x => F.Steps (F.start l) x) (F.listed s'.registry)
      s'.components := by
  obtain ⟨hinv, new, old, ⟨xs, hxs, hnew⟩, hlisted, hold⟩ := h.matched hkeep hinit
  rw [hcomponents, List.forall₂_nil_left_iff] at hold
  rw [hnone, List.append_nil] at hlisted
  rw [hxs, hold, List.append_nil, hlisted]
  exact ⟨hinv, hnew⟩

end

end Family

end Spawning
