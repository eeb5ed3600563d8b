import Mathlib.Algebra.Group.Pi.Basic
import Mathlib.Data.List.Perm.Basic
import Mathlib.Tactic.Abel

/-!
# Tallies

`tally l` counts how often each item stands in a list, with values in the integers, so that what
is taken and what is given back add up.  Two lists have one tally exactly when they are
permutations of each other.
-/

namespace Ledger

variable {α : Type} [DecidableEq α]

/-- How often each item stands in the list. -/
def tally (l : List α) : α → ℤ := fun a => (l.count a : ℤ)

@[simp] lemma tally_nil : tally ([] : List α) = 0 := by
  funext a
  simp [tally]

@[simp] lemma tally_cons (a : α) (l : List α) : tally (a :: l) = Pi.single a 1 + tally l := by
  funext b
  by_cases h : a = b
  · subst h
    simp [tally, add_comm]
  · simp [tally, Pi.single_eq_of_ne (Ne.symm h), List.count_cons_of_ne h]

@[simp] lemma tally_append (l r : List α) : tally (l ++ r) = tally l + tally r := by
  funext a
  simp [tally]

lemma tally_nonneg (l : List α) : 0 ≤ tally l := fun _ => Int.natCast_nonneg _

/-- What stands in a list is counted at least once. -/
lemma tally_pos_iff {a : α} {l : List α} : 0 < tally l a ↔ a ∈ l := by
  rw [tally, Int.natCast_pos, List.count_pos_iff]

/-- Taking an item out of a list. -/
lemma tally_erase {a : α} {l : List α} (h : a ∈ l) :
    tally (l.erase a) = tally l - Pi.single a 1 := by
  have hcons : tally l = tally (a :: l.erase a) := by
    funext b
    rw [tally, tally, (List.perm_cons_erase h).count_eq b]
  rw [hcons, tally_cons]
  abel

lemma tally_eq_iff_perm {l r : List α} : tally l = tally r ↔ l.Perm r := by
  rw [List.perm_iff_count, funext_iff]
  exact forall_congr' fun a => Int.natCast_inj

/-- What the items of a list hold is what one of them holds together with what the others do. -/
lemma tally_flatMap_eraseIdx {β : Type} (f : β → List α) {l : List β} {i : ℕ}
    (h : i < l.length) :
    tally (l.flatMap f) = tally (f l[i]) + tally ((l.eraseIdx i).flatMap f) := by
  rw [← tally_append, ← List.flatMap_cons]
  exact (tally_eq_iff_perm.mpr ((List.getElem_cons_eraseIdx_perm h).flatMap_right f)).symm

/-- Replacing an item exchanges what it holds. -/
lemma tally_flatMap_set {β : Type} (f : β → List α) {l : List β} {i : ℕ} {b : β}
    (h : l[i]? = some b) (b' : β) :
    tally ((l.set i b').flatMap f) + tally (f b) = tally (l.flatMap f) + tally (f b') := by
  induction l generalizing i with
  | nil => simp at h
  | cons c l ih =>
    cases i with
    | zero =>
      obtain rfl : c = b := by simpa using h
      simp only [List.set_cons_zero, List.flatMap_cons, tally_append]
      abel
    | succ i =>
      have hrest := ih (i := i) (by simpa using h)
      simp only [List.set_cons_succ, List.flatMap_cons, tally_append]
      rw [add_assoc, hrest, add_assoc]

end Ledger
