import Mathlib.Tactic

/-!
# Memory in blocks

A memory is a list of blocks; a block that was freed stays as a hole, so that a pointer into it
is recognised.  A pointer is a block and a position in it.  Loads, stores and frees fail outside
the live blocks: a run of a program that does not fail has made no invalid access.

New blocks are appended, so `m <+: m'` says that nothing happened to the blocks of `m`.
-/

namespace BlockMemory

variable {α : Type}

/-- The blocks, by number; `none` is a block that was freed. -/
abbrev Memory (α : Type) := List (Option (List α))

/-- A position in a block. -/
structure Pointer where
  block : ℕ
  offset : ℕ
  deriving DecidableEq, Repr

/-- Pointer arithmetic within the block. -/
def Pointer.add (p : Pointer) (i : ℕ) : Pointer := ⟨p.block, p.offset + i⟩

@[simp] lemma Pointer.block_add (p : Pointer) (i : ℕ) : (p.add i).block = p.block := rfl

@[simp] lemma Pointer.offset_add (p : Pointer) (i : ℕ) : (p.add i).offset = p.offset + i := rfl

/-- The values in a live block. -/
def values (m : Memory α) (b : ℕ) : Option (List α) := m[b]?.join

/-- Read one position. -/
def load (m : Memory α) (p : Pointer) : Option α := (values m p.block).bind (·[p.offset]?)

/-- Read `n` positions. -/
def loadRange (m : Memory α) (p : Pointer) (n : ℕ) : Option (List α) :=
  (values m p.block).bind fun vs =>
    if p.offset + n ≤ vs.length then some ((vs.drop p.offset).take n) else none

/-- Write one position. -/
def store (m : Memory α) (p : Pointer) (v : α) : Option (Memory α) :=
  (values m p.block).bind fun vs =>
    if p.offset < vs.length then some (m.set p.block (some (vs.set p.offset v))) else none

/-- A new block. -/
def alloc (m : Memory α) (vs : List α) : Pointer × Memory α := (⟨m.length, 0⟩, m ++ [some vs])

/-- Free a block through a pointer to its beginning. -/
def free (m : Memory α) (p : Pointer) : Option (Memory α) :=
  if p.offset = 0 ∧ (values m p.block).isSome then some (m.set p.block none) else none

/-- `for (i = 0; i < n; ++i) to[i] = from[i];` -/
def copy (m : Memory α) (source target : Pointer) : ℕ → Option (Memory α)
  | 0 => some m
  | n + 1 => do
    let m ← copy m source target n
    let v ← load m (source.add n)
    store m (target.add n) v

variable {m : Memory α} {b : ℕ} {p : Pointer} {vs : List α}

lemma lt_length_of_values (h : values m b = some vs) : b < m.length := by
  by_contra hge
  rw [values, List.getElem?_eq_none (Nat.le_of_not_lt hge)] at h
  cases h

lemma getElem?_of_values (h : values m b = some vs) : m[b]? = some (some vs) :=
  Option.join_eq_some_iff.mp h

/-- Replacing a block by itself changes nothing. -/
lemma set_values_self (h : values m b = some vs) : m.set b (some vs) = m := by
  obtain ⟨hlt, hget⟩ := List.getElem?_eq_some_iff.mp (getElem?_of_values h)
  rw [← hget, List.set_getElem_self]

/-- A block that was replaced has its new values. -/
lemma values_set (h : b < m.length) (content : Option (List α)) :
    values (m.set b content) b = content := by
  rw [values, List.getElem?_set_self h]
  rfl

/-- Replacing a block changes no other. -/
lemma values_set_ne {b' : ℕ} (h : b' ≠ b) (content : Option (List α)) :
    values (m.set b content) b' = values m b' := by
  rw [values, values, List.getElem?_set_ne (Ne.symm h)]

/-- The blocks of a memory are found in every memory that continues it. -/
lemma values_append (h : b < m.length) (t : Memory α) : values (m ++ t) b = values m b := by
  rw [values, values, List.getElem?_append_left h]

/-- The block appended last. -/
lemma values_append_length (m t : Memory α) (content : Option (List α)) :
    values (m ++ content :: t) m.length = content := by
  rw [values, List.getElem?_append_right le_rfl, Nat.sub_self]
  rfl

lemma loadRange_eq_some_iff {n : ℕ} {read : List α} :
    loadRange m p n = some read ↔ ∃ vs, values m p.block = some vs ∧
      p.offset + n ≤ vs.length ∧ read = (vs.drop p.offset).take n := by
  unfold loadRange
  rw [Option.bind_eq_some_iff]
  refine exists_congr fun vs => and_congr_right fun _ => ?_
  split
  · rename_i hle
    rw [Option.some.injEq, and_iff_right hle]
    exact eq_comm
  · rename_i hle
    exact iff_of_false (Option.some_ne_none read).symm fun h => hle h.1

lemma load_of_values (h : values m p.block = some vs) : load m p = vs[p.offset]? := by
  rw [load, h]
  rfl

lemma store_of_values (h : values m p.block = some vs) (hp : p.offset < vs.length) (v : α) :
    store m p v = some (m.set p.block (some (vs.set p.offset v))) := by
  rw [store, h, Option.bind_some, if_pos hp]

lemma free_of_values (h : values m b = some vs) : free m ⟨b, 0⟩ = some (m.set b none) := by
  rw [free, if_pos ⟨rfl, by rw [h]; rfl⟩]

/-- Freeing the block appended last. -/
lemma free_append_length (m t : Memory α) (vs : List α) :
    free (m ++ some vs :: t) ⟨m.length, 0⟩ = some (m ++ none :: t) := by
  rw [free_of_values (values_append_length m t (some vs)), List.set_append_right _ _ le_rfl,
    Nat.sub_self, List.set_cons_zero]

/-- Overwriting the first value of what is still to be filled. -/
lemma set_next {before filled : List α} {k : ℕ} (hk : k < filled.length) (after : List α)
    (v : α) : (before ++ filled.drop k ++ after).set before.length v =
      before ++ v :: (filled.drop (k + 1) ++ after) := by
  rw [List.append_assoc, List.set_append_right _ _ le_rfl, Nat.sub_self,
    List.drop_eq_getElem_cons hk, List.cons_append, List.set_cons_zero]

/-- Copying between two blocks fills the target from its pointer on. -/
theorem copy_eq {source target : Pointer} {n : ℕ} {read filled before after : List α}
    (hread : loadRange m source n = some read) (hne : source.block ≠ target.block)
    (htarget : values m target.block = some (before ++ filled ++ after))
    (hbefore : before.length = target.offset) (hfilled : filled.length = n) :
    copy m source target n = some (m.set target.block (some (before ++ read ++ after))) := by
  obtain ⟨svs, hsource, hle, rfl⟩ := loadRange_eq_some_iff.mp hread
  have htargetLt := lt_length_of_values htarget
  -- after `k` rounds, `k` values are in place
  have hprefix : ∀ k ≤ n, copy m source target k = some (m.set target.block
      (some (before ++ (svs.drop source.offset).take k ++ filled.drop k ++ after))) := by
    intro k hk
    induction k with
    | zero =>
      rw [copy, List.take_zero, List.append_nil, List.drop_zero,
        set_values_self htarget]
    | succ k ih =>
      have hlt : source.offset + k < svs.length := by omega
      have hrest : k < filled.length := by omega
      have htaken : ((svs.drop source.offset).take k).length = k := by
        rw [List.length_take, List.length_drop]
        omega
      have hload : load (m.set target.block (some (before ++ (svs.drop source.offset).take k ++
          filled.drop k ++ after))) (source.add k) = some svs[source.offset + k] := by
        rw [load_of_values (p := source.add k) ((values_set_ne hne _).trans hsource)]
        exact List.getElem?_eq_getElem hlt
      have hvalues := values_set htargetLt (some (before ++ (svs.drop source.offset).take k ++
          filled.drop k ++ after))
      have hoffset : (before ++ (svs.drop source.offset).take k).length = target.offset + k := by
        rw [List.length_append, htaken, hbefore]
      have hin : (target.add k).offset < (before ++ (svs.drop source.offset).take k ++
          filled.drop k ++ after).length := by
        simp only [Pointer.offset_add, List.length_append, List.length_drop, htaken]
        omega
      have hnext : (svs.drop source.offset).take (k + 1) =
          (svs.drop source.offset).take k ++ [svs[source.offset + k]] := by
        rw [List.take_succ_eq_append_getElem (by rw [List.length_drop]; omega), List.getElem_drop]
      rw [copy, ih (Nat.le_of_succ_le hk)]
      simp only [Option.bind_eq_bind, Option.bind_some, hload]
      rw [store_of_values (p := target.add k) hvalues hin, Pointer.block_add, List.set_set]
      refine congrArg (fun vs => some (m.set target.block (some vs))) ?_
      rw [Pointer.offset_add, ← hoffset, set_next hrest, hnext]
      simp only [List.append_assoc, List.cons_append, List.nil_append]
  have hall := hprefix n le_rfl
  rwa [List.drop_eq_nil_of_le hfilled.le, List.append_nil] at hall

/-- A range is read from a memory that continues another one as from that one. -/
lemma loadRange_append {n : ℕ} {read : List α} (h : loadRange m p n = some read) (t : Memory α) :
    loadRange (m ++ t) p n = some read := by
  obtain ⟨vs, hvs, hle, rfl⟩ := loadRange_eq_some_iff.mp h
  have hsame := (values_append (lt_length_of_values hvs) t).trans hvs
  exact loadRange_eq_some_iff.mpr ⟨vs, hsame, hle, rfl⟩

/-- A range of a block is not affected by another block. -/
lemma loadRange_set_ne {n : ℕ} (h : p.block ≠ b) (content : Option (List α)) :
    loadRange (m.set b content) p n = loadRange m p n := by
  rw [loadRange, values_set_ne h, loadRange]

end BlockMemory
