import Mathlib.Data.List.Basic
import Mathlib.Data.Nat.ModEq
import Mathlib.Data.Nat.Prime.Basic

/-!
# Multiplicative hashes

A hash that folds a step over a list keeps different states apart for as long as each step does,
whatever list follows.  The step of a xor-and-multiply hash is of this kind as soon as its
multiplier is odd, since an odd number can be cancelled modulo a power of two.
-/

namespace MultiplicativeHash

/-! ## Lists that differ at one position -/

section Lists

variable {α : Type*}

/-- Lists of equal length that differ at exactly one position. -/
def DifferAtOne (l l' : List α) : Prop :=
  l.length = l'.length ∧ ∃! i : ℕ, l[i]? ≠ l'[i]?

/-- Differing at one position is symmetric. -/
lemma DifferAtOne.symm {l l' : List α} (h : DifferAtOne l l') : DifferAtOne l' l := by
  obtain ⟨hlength, i, hi, honly⟩ := h
  exact ⟨hlength.symm, i, Ne.symm hi, fun j hj => honly j (Ne.symm hj)⟩

/-- Lists that differ at one position share what is in front of it and what follows it. -/
lemma DifferAtOne.exists_split {l l' : List α} (h : DifferAtOne l l') :
    ∃ front b c back, b ≠ c ∧ l = front ++ b :: back ∧ l' = front ++ c :: back := by
  obtain ⟨hlength, i, hi, honly⟩ := h
  have hsame : ∀ j, j ≠ i → l[j]? = l'[j]? := fun j hj => by
    by_contra hne
    exact hj (honly j hne)
  have hlt : i < l.length := by
    by_contra hge
    have hnone : l[i]? = none := List.getElem?_eq_none (not_lt.mp hge)
    have hnone' : l'[i]? = none := List.getElem?_eq_none (hlength ▸ not_lt.mp hge)
    exact hi (hnone.trans hnone'.symm)
  have hlt' : i < l'.length := hlength ▸ hlt
  have hfront : l.take i = l'.take i := by
    refine List.ext_getElem? fun j => ?_
    rw [List.getElem?_take, List.getElem?_take]
    split
    · exact hsame j (by omega)
    · rfl
  have hback : l.drop (i + 1) = l'.drop (i + 1) := by
    refine List.ext_getElem? fun j => ?_
    rw [List.getElem?_drop, List.getElem?_drop]
    exact hsame _ (by omega)
  refine ⟨l.take i, l[i], l'[i], l.drop (i + 1), ?_, ?_, ?_⟩
  · rwa [List.getElem?_eq_getElem hlt, List.getElem?_eq_getElem hlt', ne_eq,
      Option.some.injEq] at hi
  · rw [List.getElem_cons_drop, List.take_append_drop]
  · rw [hfront, hback, List.getElem_cons_drop, List.take_append_drop]

end Lists

/-! ## Folds of a separating step -/

section Folds

variable {σ α : Type*} {step : σ → α → σ}

/-- A step that keeps different states apart for each item, and different items apart for each
state. -/
structure Separating (step : σ → α → σ) : Prop where
  state : ∀ a, Function.Injective fun s => step s a
  item : ∀ s, Function.Injective (step s)

/-- Different states stay different whatever list follows. -/
lemma Separating.foldl_ne (hstep : Separating step) (l : List α) {s s' : σ} (h : s ≠ s') :
    l.foldl step s ≠ l.foldl step s' := by
  induction l generalizing s s' with
  | nil => exact h
  | cons a l ih => exact ih ((hstep.state a).ne h)

/-- Lists that differ at one position are hashed apart. -/
lemma Separating.foldl_ne_of_differAtOne (hstep : Separating step) (s : σ) {l l' : List α}
    (h : DifferAtOne l l') : l.foldl step s ≠ l'.foldl step s := by
  obtain ⟨front, b, c, back, hne, rfl, rfl⟩ := h.exists_split
  rw [List.foldl_append, List.foldl_append, List.foldl_cons, List.foldl_cons]
  exact hstep.foldl_ne back ((hstep.item _).ne hne)

end Folds

/-! ## Xor and multiply -/

/-- Multiplication by an odd constant loses nothing modulo `2 ^ 64`. -/
lemma mul_right_injective_of_odd {k : UInt64} (hk : k.toNat % 2 = 1) :
    Function.Injective fun s : UInt64 => s * k := by
  intro s t h
  have hcoprime : Nat.Coprime (2 ^ 64) k.toNat :=
    Nat.Coprime.pow_left 64 (Nat.coprime_two_left.mpr (Nat.odd_iff.mpr hk))
  have hmul : s.toNat * k.toNat ≡ t.toNat * k.toNat [MOD 2 ^ 64] := by
    have hval := congrArg UInt64.toNat h
    rwa [UInt64.toNat_mul, UInt64.toNat_mul] at hval
  have hmod : s.toNat ≡ t.toNat [MOD 2 ^ 64] :=
    Nat.ModEq.cancel_right_of_coprime hcoprime hmul
  exact UInt64.toNat_inj.mp (hmod.eq_of_lt_of_lt s.toNat_lt t.toNat_lt)

/-- The step of a hash that takes in a byte by xor and then multiplies. -/
def xorMultiply (k hash : UInt64) (byte : UInt8) : UInt64 :=
  (hash ^^^ byte.toUInt64) * k

/-- With an odd multiplier that step is separating. -/
lemma separating_xorMultiply {k : UInt64} (hk : k.toNat % 2 = 1) :
    Separating (xorMultiply k) where
  state := fun _ _ _ h =>
    (UInt64.xor_left_inj _).mp (mul_right_injective_of_odd hk h)
  item := fun _ _ _ h =>
    UInt8.toUInt64_inj.mp ((UInt64.xor_right_inj _).mp (mul_right_injective_of_odd hk h))

end MultiplicativeHash
