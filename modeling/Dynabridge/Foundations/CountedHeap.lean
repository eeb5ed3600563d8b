import Dynabridge.Foundations.Ledger
import Mathlib.Tactic

/-!
# Reference-counted heaps

Every object of a counted heap stores the number of references to it and the references that it
holds itself.  Giving up the last reference to an object frees it, and freeing it gives up the
references that it holds, and so on; `release` follows this cascade and lists the objects it
frees.

`outer` is what the counts amount to without the references between objects.  It is the account
that a program's references have to match: `outer_release` and `outer_retain` say how it moves.
-/

namespace CountedHeap

open Ledger

/-- What the heap stores of an object. -/
structure Cell where
  count : ℕ
  fields : List ℕ
  deriving DecidableEq, Repr

/-- The objects, by their number. -/
abbrev Heap := List Cell

/-- The reference count of an object; an object that does not exist has none. -/
def count (h : Heap) (x : ℕ) : ℕ := (h[x]?.map Cell.count).getD 0

/-- The references that objects hold to one another. -/
def internal (h : Heap) : List ℕ := h.flatMap Cell.fields

/-- The counts without the references between objects. -/
def outer (h : Heap) : ℕ → ℤ := fun x => (count h x : ℤ) - tally (internal h) x

/-- All counts together. -/
def total (h : Heap) : ℕ := (h.map Cell.count).sum

/-- Take one more reference to an object. -/
def retain (x : ℕ) (h : Heap) : Heap := h.modify x fun c => { c with count := c.count + 1 }

/-- Replacing a cell exchanges its count in the total. -/
lemma total_set {h : Heap} {x : ℕ} {c : Cell} (hx : h[x]? = some c) (c' : Cell) :
    total (h.set x c') + c.count = total h + c'.count := by
  induction h generalizing x with
  | nil => simp at hx
  | cons d h ih =>
    cases x with
    | zero =>
      obtain rfl : d = c := by simpa using hx
      simp only [total, List.set_cons_zero, List.map_cons, List.sum_cons]
      omega
    | succ x =>
      have hrest := ih (x := x) (by simpa using hx)
      simp only [total, List.set_cons_succ, List.map_cons, List.sum_cons] at hrest ⊢
      omega

/-- Give up references, one after the other: the heap afterwards and the objects freed, in
order.  The references of a freed object are given up first. -/
def release : List ℕ → Heap → Heap × List ℕ
  | [], h => (h, [])
  | x :: pending, h =>
    match _hx : h[x]? with
    | none => release pending h
    | some ⟨0, _⟩ => release pending h
    | some ⟨1, fields⟩ =>
      let rest := release (fields ++ pending) (h.set x ⟨0, []⟩)
      (rest.1, x :: rest.2)
    | some ⟨n + 2, fields⟩ => release pending (h.set x ⟨n + 1, fields⟩)
termination_by pending h => (total h, pending.length)
decreasing_by
  · exact Prod.Lex.right _ (Nat.lt_succ_self _)
  · exact Prod.Lex.right _ (Nat.lt_succ_self _)
  · have := total_set _hx ⟨0, []⟩
    exact Prod.Lex.left _ _ (by simp only at this; omega)
  · have := total_set _hx ⟨n + 1, fields⟩
    exact Prod.Lex.left _ _ (by simp only at this; omega)

/-! ## Counts -/

variable {h : Heap} {x y : ℕ} {c : Cell}

lemma count_of_getElem? (hx : h[x]? = some c) : count h x = c.count := by
  rw [count, hx]
  rfl

/-- Replacing a cell changes no other count. -/
lemma count_set (hx : h[x]? = some c) (c' : Cell) :
    count (h.set x c') y = if y = x then c'.count else count h y := by
  have hlt : x < h.length := (List.getElem?_eq_some_iff.mp hx).1
  by_cases hy : y = x
  · subst hy
    rw [if_pos rfl, count, List.getElem?_set_self hlt]
    rfl
  · rw [if_neg hy, count, List.getElem?_set_ne (Ne.symm hy), count]

/-- A cell that exists is replaced by one with a higher count. -/
lemma exists_retain_eq_set (hx : x < h.length) :
    ∃ c, h[x]? = some c ∧ retain x h = h.set x { c with count := c.count + 1 } := by
  have hcell : h[x]? = some h[x] := List.getElem?_eq_getElem hx
  refine ⟨h[x], hcell, ?_⟩
  rw [retain, List.modify_eq_set_getElem?, hcell]
  rfl

lemma count_retain (hx : x < h.length) :
    count (retain x h) y = if y = x then count h x + 1 else count h y := by
  obtain ⟨c, hc, hset⟩ := exists_retain_eq_set hx
  rw [hset, count_set hc, count_of_getElem? hc]

/-- An object that has references exists. -/
lemma lt_length_of_count_pos (hx : 0 < count h x) : x < h.length := by
  by_contra hge
  rw [count, List.getElem?_eq_none (Nat.le_of_not_lt hge)] at hx
  exact absurd hx (Nat.lt_irrefl 0)

/-- Replacing a cell moves the account by what its count and its fields say. -/
lemma outer_set (hx : h[x]? = some c) (c' : Cell) :
    outer (h.set x c') + Pi.single x (c.count : ℤ) - tally c.fields =
      outer h + Pi.single x (c'.count : ℤ) - tally c'.fields := by
  funext y
  have hinner := congrFun (tally_flatMap_set Cell.fields hx c') y
  have hcount : (count (h.set x c') y : ℤ) + (Pi.single x (c.count : ℤ) : ℕ → ℤ) y =
      count h y + (Pi.single x (c'.count : ℤ) : ℕ → ℤ) y := by
    rw [count_set hx]
    by_cases hy : y = x
    · subst hy
      simp [count_of_getElem? hx, add_comm]
    · simp [hy]
  simp only [Pi.add_apply, Pi.sub_apply, outer, internal] at hinner hcount ⊢
  omega

/-- A reference taken counts once. -/
lemma outer_retain (hx : x < h.length) : outer (retain x h) = outer h + Pi.single x 1 := by
  obtain ⟨c, hc, hset⟩ := exists_retain_eq_set hx
  have hsplit : (Pi.single x ((c.count + 1 : ℕ) : ℤ) : ℕ → ℤ) =
      Pi.single x (c.count : ℤ) + Pi.single x 1 := by
    rw [← Pi.single_add]
    norm_num
  have houter := outer_set hc { c with count := c.count + 1 }
  rw [hset]
  rw [hsplit] at houter
  linear_combination houter

/-! ## The cascade -/

/-- A reference to nothing, or to an object that is gone, gives up nothing. -/
lemma release_of_count_eq_zero {pending : List ℕ} (hx : count h x = 0) :
    release (x :: pending) h = release pending h := by
  rw [release]
  split
  · rfl
  · rfl
  · rename_i hcell
    rw [count_of_getElem? hcell] at hx
    cases hx
  · rename_i hcell
    rw [count_of_getElem? hcell] at hx
    cases hx

/-- The last reference to an object frees it. -/
lemma release_of_last {pending fields : List ℕ} (hx : h[x]? = some ⟨1, fields⟩) :
    release (x :: pending) h =
      ((release (fields ++ pending) (h.set x ⟨0, []⟩)).1,
        x :: (release (fields ++ pending) (h.set x ⟨0, []⟩)).2) := by
  rw [release]
  split <;> simp_all

/-- Any other reference only lowers the count. -/
lemma release_of_shared {pending fields : List ℕ} {n : ℕ} (hx : h[x]? = some ⟨n + 2, fields⟩) :
    release (x :: pending) h = release pending (h.set x ⟨n + 1, fields⟩) := by
  rw [release]
  split <;> simp_all

/-- Induction along the cascade. -/
lemma release_induction {motive : List ℕ → Heap → Prop} (nil : ∀ h, motive [] h)
    (gone : ∀ x pending h, count h x = 0 → motive pending h → motive (x :: pending) h)
    (last : ∀ x pending h fields, h[x]? = some ⟨1, fields⟩ →
      motive (fields ++ pending) (h.set x ⟨0, []⟩) → motive (x :: pending) h)
    (shared : ∀ x pending h n fields, h[x]? = some ⟨n + 2, fields⟩ →
      motive pending (h.set x ⟨n + 1, fields⟩) → motive (x :: pending) h)
    (pending : List ℕ) (h : Heap) : motive pending h := by
  induction pending, h using release.induct with
  | case1 h => exact nil h
  | case2 x pending h hx ih => exact gone x pending h (by rw [count, hx]; rfl) ih
  | case3 x pending h fields hx ih => exact gone x pending h (count_of_getElem? hx) ih
  | case4 x pending h fields hx ih => exact last x pending h fields hx ih
  | case5 x pending h n fields hx ih => exact shared x pending h n fields hx ih

/-- Giving up references never raises a count. -/
lemma count_release_le (pending : List ℕ) (h : Heap) (y : ℕ) :
    count (release pending h).1 y ≤ count h y := by
  induction pending, h using release_induction with
  | nil h => rw [release]
  | gone x pending h hx ih => rwa [release_of_count_eq_zero hx]
  | last x pending h fields hx ih =>
    rw [release_of_last hx]
    refine ih.trans ?_
    rw [count_set hx]
    split
    · exact Nat.zero_le _
    · exact le_rfl
  | shared x pending h n fields hx ih =>
    rw [release_of_shared hx]
    refine ih.trans ?_
    rw [count_set hx]
    split
    · rename_i heq
      rw [heq, count_of_getElem? hx]
      exact Nat.le_succ _
    · exact le_rfl

/-- A freed object has no references left when the cascade has ended. -/
lemma count_eq_zero_of_mem_freed {pending : List ℕ} {h : Heap} {y : ℕ}
    (hy : y ∈ (release pending h).2) : count (release pending h).1 y = 0 := by
  induction pending, h using release_induction with
  | nil h =>
    rw [release] at hy
    cases hy
  | gone x pending h hx ih =>
    rw [release_of_count_eq_zero hx] at hy ⊢
    exact ih hy
  | last x pending h fields hx ih =>
    rw [release_of_last hx] at hy ⊢
    rcases List.mem_cons.mp hy with rfl | hrest
    · have hle := count_release_le (fields ++ pending) (h.set y ⟨0, []⟩) y
      rw [count_set hx, if_pos rfl] at hle
      exact Nat.le_zero.mp hle
    · exact ih hrest
  | shared x pending h n fields hx ih =>
    rw [release_of_shared hx] at hy ⊢
    exact ih hy

/-- Giving up references that the account covers moves the account by them. -/
theorem outer_release {pending : List ℕ} {h : Heap} (hcovered : tally pending ≤ outer h) :
    outer (release pending h).1 = outer h - tally pending := by
  induction pending, h using release_induction with
  | nil h => rw [release, tally_nil, sub_zero]
  | gone x pending h hx ih =>
    -- a reference that the account covers is one that the object has
    have hle := hcovered x
    have hpending : (0 : ℤ) ≤ tally pending x := Int.natCast_nonneg _
    have hinner : (0 : ℤ) ≤ tally (internal h) x := Int.natCast_nonneg _
    simp only [tally_cons, Pi.add_apply, Pi.single_eq_same, outer, hx, Nat.cast_zero] at hle
    omega
  | last x pending h fields hx ih =>
    have houter := outer_set hx ⟨0, []⟩
    have hmoved : outer (h.set x ⟨0, []⟩) = outer h - Pi.single x 1 + tally fields := by
      simp only [Nat.cast_one, Nat.cast_zero, Pi.single_zero, tally_nil] at houter
      linear_combination houter
    rw [release_of_last hx, ih, hmoved, tally_append, tally_cons]
    · ring
    · rw [hmoved, tally_append]
      rw [tally_cons] at hcovered
      intro y
      have hy := hcovered y
      simp only [Pi.add_apply, Pi.sub_apply] at hy ⊢
      omega
  | shared x pending h n fields hx ih =>
    have houter := outer_set hx ⟨n + 1, fields⟩
    have hmoved : outer (h.set x ⟨n + 1, fields⟩) = outer h - Pi.single x 1 := by
      have hsplit : (Pi.single x ((n + 2 : ℕ) : ℤ) : ℕ → ℤ) =
          Pi.single x ((n + 1 : ℕ) : ℤ) + Pi.single x 1 := by
        rw [← Pi.single_add]
        norm_num
        ring_nf
      rw [hsplit] at houter
      linear_combination houter
    rw [release_of_shared hx, ih, hmoved, tally_cons]
    · ring
    · rw [hmoved]
      rw [tally_cons] at hcovered
      intro y
      have hy := hcovered y
      simp only [Pi.add_apply, Pi.sub_apply] at hy ⊢
      omega

/-- The objects of the heap stay where they are. -/
@[simp] lemma length_release (pending : List ℕ) (h : Heap) :
    (release pending h).1.length = h.length := by
  induction pending, h using release_induction with
  | nil h => rw [release]
  | gone x pending h hx ih => rw [release_of_count_eq_zero hx, ih]
  | last x pending h fields hx ih => rw [release_of_last hx, ih, List.length_set]
  | shared x pending h n fields hx ih => rw [release_of_shared hx, ih, List.length_set]

/-- An object that the account holds has a reference. -/
lemma count_pos_of_outer_pos (hx : 0 < outer h x) : 0 < count h x := by
  have hinner : (0 : ℤ) ≤ tally (internal h) x := Int.natCast_nonneg _
  rw [outer] at hx
  omega

/-- An object with a reference that is not given up is not freed. -/
lemma notMem_freed_of_lt {pending : List ℕ} (hcovered : tally pending ≤ outer h)
    (hx : tally pending x < outer h x) : x ∉ (release pending h).2 := by
  intro hfreed
  have hzero := count_eq_zero_of_mem_freed hfreed
  have hpos : 0 < outer (release pending h).1 x := by
    rw [outer_release hcovered, Pi.sub_apply]
    omega
  have hcount := count_pos_of_outer_pos hpos
  omega

end CountedHeap
