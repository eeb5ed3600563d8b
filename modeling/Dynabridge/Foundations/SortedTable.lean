import Mathlib.Tactic

/-!
# Tables sorted by a key

A table is a list whose entries have strictly increasing keys.  `lowerBound` is the position
of the first entry whose key is not less than a given one, which is where a lookup finds the
key and where an insertion puts it.  `lookup_eq_some_iff` says that a lookup finds exactly
the entry with the key; `sorted_insertIdx` and `sorted_set` say that inserting a new key and
replacing the entry of an old one keep the table sorted, and `mem_set_iff` what the table holds
then.  `eq_of_mem_iff` says that a table is determined by its entries.
-/

namespace SortedTable

variable {α κ : Type} [LinearOrder κ] (key : α → κ)

/-- The keys of a table increase strictly. -/
def Sorted (l : List α) : Prop := l.Pairwise fun a b => key a < key b

/-- The position of the first entry whose key is not less than `k`. -/
def lowerBound (k : κ) : List α → ℕ
  | [] => 0
  | a :: l => if key a < k then lowerBound k l + 1 else 0

/-- The entry with key `k`, looked up at its lower bound. -/
def lookup (k : κ) (l : List α) : Option α :=
  match l[lowerBound key k l]? with
  | some a => if key a = k then some a else none
  | none => none

variable {key}

lemma lookup_cons_of_lt {k : κ} {a : α} (h : key a < k) (l : List α) :
    lookup key k (a :: l) = lookup key k l := by
  rw [lookup, lowerBound, if_pos h, List.getElem?_cons_succ]
  rfl

lemma lookup_cons_of_le {k : κ} {a : α} (h : ¬ key a < k) (l : List α) :
    lookup key k (a :: l) = if key a = k then some a else none := by
  rw [lookup, lowerBound, if_neg h]
  rfl

/-- A lookup in a sorted table finds exactly the entry with the key. -/
theorem lookup_eq_some_iff {l : List α} (hl : Sorted key l) {k : κ} {a : α} :
    lookup key k l = some a ↔ a ∈ l ∧ key a = k := by
  induction l with
  | nil => simp [lookup]
  | cons b l ih =>
    obtain ⟨hhead, htail⟩ := List.pairwise_cons.mp hl
    by_cases hlt : key b < k
    · rw [lookup_cons_of_lt hlt, ih htail, List.mem_cons]
      constructor
      · rintro ⟨hmem, hkey⟩
        exact ⟨.inr hmem, hkey⟩
      · rintro ⟨rfl | hmem, hkey⟩
        · exact absurd hkey hlt.ne
        · exact ⟨hmem, hkey⟩
    · rw [lookup_cons_of_le hlt]
      by_cases hkey : key b = k
      · rw [if_pos hkey, Option.some.injEq, List.mem_cons]
        constructor
        · rintro rfl
          exact ⟨.inl rfl, hkey⟩
        · rintro ⟨rfl | hmem, ha⟩
          · rfl
          · exact absurd (hhead a hmem) (by rw [hkey, ha]; exact lt_irrefl k)
      · rw [if_neg hkey, List.mem_cons]
        constructor
        · intro h
          cases h
        · rintro ⟨rfl | hmem, ha⟩
          · exact absurd ha hkey
          · exact absurd (ha ▸ hhead a hmem) hlt

/-- A lookup in a sorted table fails exactly when no entry has the key. -/
theorem lookup_eq_none_iff {l : List α} (hl : Sorted key l) {k : κ} :
    lookup key k l = none ↔ ∀ a ∈ l, key a ≠ k := by
  rw [Option.eq_none_iff_forall_ne_some]
  constructor
  · intro h a hmem hkey
    exact h a ((lookup_eq_some_iff hl).mpr ⟨hmem, hkey⟩)
  · intro h a hlookup
    obtain ⟨hmem, hkey⟩ := (lookup_eq_some_iff hl).mp hlookup
    exact h a hmem hkey

/-- The lower bound is a position at which an entry can be inserted. -/
lemma lowerBound_le_length (k : κ) (l : List α) : lowerBound key k l ≤ l.length := by
  induction l with
  | nil => exact Nat.le_refl 0
  | cons a l ih =>
    rw [lowerBound]
    split
    · exact Nat.succ_le_succ ih
    · exact Nat.zero_le _

/-- Inserting an entry with a new key at its lower bound keeps the table sorted. -/
theorem sorted_insertIdx {l : List α} (hl : Sorted key l) {a : α}
    (hnew : ∀ b ∈ l, key b ≠ key a) :
    Sorted key (l.insertIdx (lowerBound key (key a) l) a) := by
  induction l with
  | nil => exact List.pairwise_singleton _ _
  | cons b l ih =>
    obtain ⟨hhead, htail⟩ := List.pairwise_cons.mp hl
    rw [List.forall_mem_cons] at hnew
    by_cases hlt : key b < key a
    · rw [lowerBound, if_pos hlt, List.insertIdx_succ_cons]
      refine List.pairwise_cons.mpr ⟨fun c hc => ?_, ih htail hnew.2⟩
      rcases (List.mem_insertIdx (lowerBound_le_length _ _)).mp hc with rfl | hmem
      · exact hlt
      · exact hhead c hmem
    · rw [lowerBound, if_neg hlt, List.insertIdx_zero]
      have hab : key a < key b := lt_of_le_of_ne (not_lt.mp hlt) hnew.1.symm
      refine List.pairwise_cons.mpr ⟨List.forall_mem_cons.mpr ⟨hab, fun c hc => ?_⟩, hl⟩
      exact hab.trans (hhead c hc)

/-- The entry a lookup finds is the one at the lower bound. -/
lemma getElem?_of_lookup {l : List α} {k : κ} {a : α} (h : lookup key k l = some a) :
    l[lowerBound key k l]? = some a ∧ key a = k := by
  unfold lookup at h
  split at h
  · split at h
    · cases h
      exact ⟨by assumption, by assumption⟩
    · cases h
  · cases h

/-- Replacing the entry of a key keeps the table sorted. -/
theorem sorted_set {l : List α} (hl : Sorted key l) {a b : α}
    (h : lookup key (key b) l = some a) : Sorted key (l.set (lowerBound key (key b) l) b) := by
  obtain ⟨hget, hkey⟩ := getElem?_of_lookup h
  have hkeys : (l.set (lowerBound key (key b) l) b).map key = l.map key := by
    obtain ⟨hlt, hentry⟩ := List.getElem?_eq_some_iff.mp hget
    have hbound : lowerBound key (key b) l < (l.map key).length := by simpa using hlt
    have hself : (l.map key)[lowerBound key (key b) l] = key b := by
      rw [List.getElem_map, hentry, hkey]
    rw [List.map_set]
    nth_rewrite 2 [← hself]
    exact List.set_getElem_self _
  rw [Sorted, ← List.pairwise_map] at hl ⊢
  rwa [hkeys]

/-- Two entries of a table with the same key are the same entry. -/
lemma eq_of_key_eq {l : List α} (hl : Sorted key l) {a b : α} (ha : a ∈ l) (hb : b ∈ l)
    (h : key a = key b) : a = b := by
  have hfind : lookup key (key b) l = some a := (lookup_eq_some_iff hl).mpr ⟨ha, h⟩
  rw [(lookup_eq_some_iff hl).mpr ⟨hb, rfl⟩] at hfind
  exact (Option.some.inj hfind).symm

/-- A replacement takes the place of the entry with its key. -/
theorem mem_set_iff {l : List α} (hl : Sorted key l) {a b c : α}
    (h : lookup key (key b) l = some a) :
    c ∈ l.set (lowerBound key (key b) l) b ↔ c = b ∨ c ∈ l ∧ key c ≠ key b := by
  obtain ⟨hget, hkey⟩ := getElem?_of_lookup h
  have hsorted := sorted_set hl h
  have hb : b ∈ l.set (lowerBound key (key b) l) b :=
    List.mem_set (List.getElem?_eq_some_iff.mp hget).1 b
  constructor
  · intro hc
    rcases List.mem_or_eq_of_mem_set hc with hmem | rfl
    · by_cases hcb : key c = key b
      · exact .inl (eq_of_key_eq hsorted hc hb hcb)
      · exact .inr ⟨hmem, hcb⟩
    · exact .inl rfl
  · rintro (rfl | ⟨hmem, hne⟩)
    · exact hb
    · obtain ⟨i, hi⟩ := List.mem_iff_getElem?.mp hmem
      refine List.mem_iff_getElem?.mpr ⟨i, ?_⟩
      rw [List.getElem?_set_ne, hi]
      rintro rfl
      rw [hget] at hi
      obtain rfl := Option.some.inj hi
      exact hne hkey

/-- No entry of a table is repeated. -/
lemma Sorted.nodup {l : List α} (hl : Sorted key l) : l.Nodup :=
  hl.imp fun hlt heq => by
    rw [heq] at hlt
    exact lt_irrefl _ hlt

/-- Every key of a table is there once. -/
theorem countP_eq_one {l : List α} (hl : Sorted key l) {a : α} (ha : a ∈ l) (p : α → Bool)
    (hp : ∀ b ∈ l, p b = true ↔ key b = key a) : l.countP p = 1 := by
  have hconst : ∀ b ∈ l.filter p, b = a := by
    intro b hb
    obtain ⟨hmem, hpb⟩ := List.mem_filter.mp hb
    exact eq_of_key_eq hl hmem ha ((hp b hmem).mp hpb)
  have hnodup : (l.filter p).Nodup := hl.nodup.filter p
  have hpa : a ∈ l.filter p := List.mem_filter.mpr ⟨ha, (hp a ha).mpr rfl⟩
  rw [List.countP_eq_length_filter]
  refine Nat.le_antisymm ?_ (List.length_pos_of_mem hpa)
  rw [List.eq_replicate_of_mem hconst, List.nodup_replicate] at hnodup
  exact hnodup

/-- Tables with the same entries are equal. -/
theorem eq_of_mem_iff {l l' : List α} (hl : Sorted key l) (hl' : Sorted key l')
    (h : ∀ a, a ∈ l ↔ a ∈ l') : l = l' := by
  have hperm : l.Perm l' := (List.perm_ext_iff_of_nodup hl.nodup hl'.nodup).mpr h
  exact hperm.eq_of_pairwise (fun a b _ _ hab hba => absurd hba hab.asymm) hl hl'

end SortedTable
