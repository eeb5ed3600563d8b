import Mathlib.Data.List.Count
import Mathlib.Data.List.Nodup
import Mathlib.Logic.Equiv.Basic
import Mathlib.Logic.Function.Basic

/-!
# Lifetimes and their owners

Objects are numbered in the order in which they are made, and each is destroyed at most once.
`Owned lifetimes holds` says that the objects alive are those that the owners hold, each of them
with one owner.  Making an object for an owner, destroying what an owner holds and moving it to
another owner keep that, and so every object is destroyed exactly once as soon as no owner holds
anything.
-/

namespace Ownership

/-! ## Lifetimes -/

lemma bound_nil : ∀ id ∈ ([] : List ℕ), id < 0 := List.forall_mem_nil _

/-- How many objects were made, and which of them were destroyed, the last one first. -/
structure Lifetimes where
  made : ℕ := 0
  destroyed : List ℕ := []
  nodup : destroyed.Nodup := by exact List.nodup_nil
  bound : ∀ id ∈ destroyed, id < made := by exact bound_nil
  deriving DecidableEq

namespace Lifetimes

/-- An object that was made and not destroyed. -/
def Alive (l : Lifetimes) (id : ℕ) : Prop := id < l.made ∧ id ∉ l.destroyed

instance (l : Lifetimes) (id : ℕ) : Decidable (l.Alive id) := inferInstanceAs (Decidable (_ ∧ _))

/-- One more object, whose number is `l.made`. -/
def make (l : Lifetimes) : Lifetimes where
  made := l.made + 1
  destroyed := l.destroyed
  nodup := l.nodup
  bound := fun id h => Nat.lt_succ_of_lt (l.bound id h)

/-- The end of an object that is alive; there is none for any other. -/
def destroy (l : Lifetimes) (id : ℕ) : Option Lifetimes :=
  if h : l.Alive id then
    some
      { made := l.made
        destroyed := id :: l.destroyed
        nodup := List.nodup_cons.mpr ⟨h.2, l.nodup⟩
        bound := fun id' h' => (List.mem_cons.mp h').elim (fun he => he ▸ h.1) (l.bound id') }
  else none

/-- The end of what an owner holds, if it holds anything. -/
def release (l : Lifetimes) : Option ℕ → Option Lifetimes
  | none => some l
  | some id => l.destroy id

variable {l l' : Lifetimes} {id id' : ℕ}

lemma alive_make_iff : l.make.Alive id ↔ id = l.made ∨ l.Alive id := by
  unfold Alive make
  constructor
  · rintro ⟨hlt, hnot⟩
    rcases Nat.lt_succ_iff_lt_or_eq.mp hlt with h | h
    · exact .inr ⟨h, hnot⟩
    · exact .inl h
  · rintro (rfl | ⟨hlt, hnot⟩)
    · exact ⟨Nat.lt_succ_self _, fun h => absurd (l.bound _ h) (Nat.lt_irrefl _)⟩
    · exact ⟨Nat.lt_succ_of_lt hlt, hnot⟩

lemma not_alive_made : ¬ l.Alive l.made := fun h => Nat.lt_irrefl _ h.1

/-- Destroying an object that is alive works. -/
lemma exists_destroy (h : l.Alive id) : ∃ l', l.destroy id = some l' :=
  ⟨_, dif_pos h⟩

lemma made_of_destroy (h : l.destroy id = some l') : l'.made = l.made := by
  unfold destroy at h
  split at h
  · exact (Option.some.inj h) ▸ rfl
  · cases h

lemma destroyed_of_destroy (h : l.destroy id = some l') : l'.destroyed = id :: l.destroyed := by
  unfold destroy at h
  split at h
  · exact (Option.some.inj h) ▸ rfl
  · cases h

lemma made_of_release {id? : Option ℕ} (h : l.release id? = some l') : l'.made = l.made := by
  cases id? with
  | none => exact (Option.some.inj h) ▸ rfl
  | some id => exact made_of_destroy h

lemma alive_of_destroy (h : l.destroy id = some l') : l'.Alive id' ↔ id' ≠ id ∧ l.Alive id' := by
  unfold Alive
  rw [made_of_destroy h, destroyed_of_destroy h, List.mem_cons, not_or]
  tauto

end Lifetimes

/-! ## Owners -/

open Lifetimes Function

variable {σ : Type*} {l l' : Lifetimes} {holds : σ → Option ℕ}

/-- The objects alive are those that the owners hold, and no two owners hold the same one. -/
structure Owned (l : Lifetimes) (holds : σ → Option ℕ) : Prop where
  alive_iff : ∀ id, l.Alive id ↔ ∃ s, holds s = some id
  injective : ∀ {s s' id}, holds s = some id → holds s' = some id → s = s'

namespace Owned

lemma empty : Owned {} fun _ : σ => none :=
  ⟨fun id => iff_of_false (fun h => Nat.not_lt_zero _ h.1) (by simp), by simp⟩

lemma alive (h : Owned l holds) {s : σ} {id : ℕ} (hs : holds s = some id) : l.Alive id :=
  (h.alive_iff id).mpr ⟨s, hs⟩

/-- Every object is held by an owner or was destroyed once, and not both. -/
theorem accounted (h : Owned l holds) {id : ℕ} (hid : id < l.made) :
    (∃ s, holds s = some id) ∧ l.destroyed.count id = 0 ∨
      (∀ s, holds s ≠ some id) ∧ l.destroyed.count id = 1 := by
  by_cases hmem : id ∈ l.destroyed
  · refine .inr ⟨fun s hs => (h.alive hs).2 hmem, ?_⟩
    exact List.count_eq_one_of_mem l.nodup hmem
  · exact .inl ⟨(h.alive_iff id).mp ⟨hid, hmem⟩, List.count_eq_zero_of_not_mem hmem⟩

/-- A new object that is destroyed at once. -/
theorem make_destroy (h : Owned l holds) (hl : l.make.destroy l.made = some l') :
    Owned l' holds := by
  refine ⟨fun id => ?_, h.injective⟩
  rw [alive_of_destroy hl, alive_make_iff, ← h.alive_iff]
  constructor
  · rintro ⟨hne, heq | halive⟩
    · exact absurd heq hne
    · exact halive
  · intro halive
    refine ⟨?_, .inr halive⟩
    rintro rfl
    exact not_alive_made halive

/-- It does not matter which owner is called what. -/
theorem comp_equiv (h : Owned l holds) (e : σ ≃ σ) : Owned l (holds ∘ e) := by
  refine ⟨fun id => ?_, fun {s s' id} hs hs' => e.injective (h.injective hs hs')⟩
  rw [h.alive_iff]
  constructor
  · rintro ⟨s, hs⟩
    exact ⟨e.symm s, by rwa [comp_apply, Equiv.apply_symm_apply]⟩
  · rintro ⟨s, hs⟩
    exact ⟨e s, hs⟩

variable [DecidableEq σ]

/-- A new object for an owner that holds nothing. -/
theorem make (h : Owned l holds) {s : σ} (hs : holds s = none) :
    Owned l.make (update holds s (some l.made)) := by
  have hfresh : ∀ t, holds t ≠ some l.made := fun t ht => not_alive_made (h.alive ht)
  constructor
  · intro id
    rw [alive_make_iff, h.alive_iff]
    constructor
    · rintro (rfl | ⟨t, ht⟩)
      · exact ⟨s, update_self ..⟩
      · have hne : t ≠ s := by
          rintro rfl
          rw [hs] at ht
          cases ht
        exact ⟨t, by rwa [update_of_ne hne]⟩
    · rintro ⟨t, ht⟩
      by_cases hts : t = s
      · subst hts
        rw [update_self] at ht
        exact .inl (Option.some.inj ht).symm
      · rw [update_of_ne hts] at ht
        exact .inr ⟨t, ht⟩
  · intro t t' id ht ht'
    by_cases hts : t = s <;> by_cases hts' : t' = s
    · exact hts.trans hts'.symm
    · subst hts
      rw [update_self] at ht
      rw [update_of_ne hts', ← ht] at ht'
      exact absurd ht' (hfresh t')
    · subst hts'
      rw [update_self] at ht'
      rw [update_of_ne hts, ← ht'] at ht
      exact absurd ht (hfresh t)
    · rw [update_of_ne hts] at ht
      rw [update_of_ne hts'] at ht'
      exact h.injective ht ht'

/-- An owner destroys what it holds. -/
theorem destroy (h : Owned l holds) {s : σ} {id : ℕ} (hs : holds s = some id)
    (hl : l.destroy id = some l') : Owned l' (update holds s none) := by
  constructor
  · intro id'
    rw [alive_of_destroy hl, h.alive_iff]
    constructor
    · rintro ⟨hne, t, ht⟩
      have hts : t ≠ s := by
        rintro rfl
        exact hne (Option.some.inj (ht.symm.trans hs))
      exact ⟨t, by rwa [update_of_ne hts]⟩
    · rintro ⟨t, ht⟩
      have hts : t ≠ s := by
        rintro rfl
        rw [update_self] at ht
        cases ht
      rw [update_of_ne hts] at ht
      refine ⟨?_, t, ht⟩
      rintro rfl
      exact hts (h.injective ht hs)
  · intro t t' id' ht ht'
    have hold : ∀ {u}, update holds s none u = some id' → holds u = some id' := by
      intro u hu
      by_cases hus : u = s
      · subst hus
        rw [update_self] at hu
        cases hu
      · rwa [update_of_ne hus] at hu
    exact h.injective (hold ht) (hold ht')

/-- An owner gives up what it holds, if anything. -/
theorem release (h : Owned l holds) (s : σ) : ∃ l', l.release (holds s) = some l' ∧
    l'.destroyed = (holds s).toList ++ l.destroyed ∧ Owned l' (update holds s none) := by
  rcases hs : holds s with _ | id
  · refine ⟨l, rfl, rfl, ?_⟩
    rw [← hs, update_eq_self]
    exact h
  · obtain ⟨l', hl⟩ := exists_destroy (h.alive hs)
    exact ⟨l', hl, destroyed_of_destroy hl, h.destroy hs hl⟩

/-- An owner hands what it holds, if anything, to one that holds nothing. -/
theorem transfer (h : Owned l holds) {s t : σ} (ht : holds t = none) :
    Owned l (update (update holds t (holds s)) s none) := by
  have hswap : update (update holds t (holds s)) s none = holds ∘ Equiv.swap s t := by
    funext u
    by_cases hus : u = s
    · rw [hus, update_self, comp_apply, Equiv.swap_apply_left, ht]
    · rw [update_of_ne hus]
      by_cases hut : u = t
      · rw [hut, update_self, comp_apply, Equiv.swap_apply_right]
      · rw [update_of_ne hut, comp_apply, Equiv.swap_apply_of_ne_of_ne hus hut]
  rw [hswap]
  exact h.comp_equiv _

end Owned

end Ownership
