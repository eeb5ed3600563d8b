import Dynabridge.Foundations.Interleaving

/-!
# Handing items over in order

Items enter, wait, and leave.  `Conserved` says that what has entered is, up to order, what has
left together with what waits; `Fifo` says that among the items with one key the order is kept
as well, and `Fifo.in_order` reads this off for two items.
-/

namespace Handover

open Interleaving

variable {α κ : Type}

/-- An item that only one entry stands for is picked from a log exactly when the entry is there. -/
lemma mem_filterMap_iff {β : Type} {f : α → Option β} {a : α} {b : β}
    (h : ∀ x, f x = some b ↔ x = a) {log : List α} : b ∈ log.filterMap f ↔ a ∈ log := by
  rw [List.mem_filterMap]
  constructor
  · rintro ⟨x, hx, hfx⟩
    exact (h x).mp hfx ▸ hx
  · exact fun ha => ⟨a, ha, (h a).mpr rfl⟩

/-- What has left and what waits is what has entered. -/
def Conserved (entered waiting left : List α) : Prop := (left ++ waiting).Perm entered

namespace Conserved

variable {entered waiting left : List α}

/-- An item enters and waits. -/
lemma enter (h : Conserved entered waiting left) (a : α) :
    Conserved (entered ++ [a]) (waiting ++ [a]) left := by
  unfold Conserved
  rw [← List.append_assoc]
  exact h.append_right [a]

/-- An item enters and waits in front of the others. -/
lemma push (h : Conserved entered waiting left) (a : α) :
    Conserved (entered ++ [a]) (a :: waiting) left := by
  unfold Conserved
  refine List.Perm.trans List.perm_middle ?_
  exact (List.perm_append_singleton a (left ++ waiting)).symm.trans (h.append_right [a])

/-- An item enters and leaves at once. -/
lemma pass (h : Conserved entered waiting left) (a : α) :
    Conserved (entered ++ [a]) waiting (left ++ [a]) := by
  unfold Conserved
  refine List.Perm.trans ?_ (h.append_right [a])
  rw [List.append_assoc, List.append_assoc]
  exact List.perm_append_comm.append_left left

/-- The first of the waiting items leaves. -/
lemma leave {a : α} (h : Conserved entered (a :: waiting) left) :
    Conserved entered waiting (left ++ [a]) := by
  unfold Conserved at *
  rwa [List.append_assoc, List.singleton_append]

/-- Every item that has entered is in exactly one of the two places, as often as it entered. -/
lemma count_add_count [DecidableEq α] (h : Conserved entered waiting left) (a : α) :
    left.count a + waiting.count a = entered.count a := by
  rw [← List.count_append]
  exact h.count_eq a

lemma mem_of_mem_waiting (h : Conserved entered waiting left) {a : α} (ha : a ∈ waiting) :
    a ∈ entered := h.mem_iff.mp (List.mem_append_right _ ha)

/-- When nothing waits, everything has left. -/
lemma perm_of_empty (h : Conserved entered [] left) : left.Perm entered := by
  unfold Conserved at h
  rwa [List.append_nil] at h

/-- An item that waits has not left, when nothing enters twice. -/
lemma not_mem_left (h : Conserved entered waiting left) (hnodup : entered.Nodup) {a : α}
    (ha : a ∈ waiting) : a ∉ left := fun hleft =>
  List.disjoint_of_nodup_append (h.nodup_iff.mpr hnodup) hleft ha

lemma nodup_left (h : Conserved entered waiting left) (hnodup : entered.Nodup) : left.Nodup :=
  (List.nodup_append.mp (h.nodup_iff.mpr hnodup)).1

end Conserved

/-! ## Order -/

/-- An order in a part of a list that is filtered out is an order in the list. -/
lemma precedes_of_filter {p : α → Bool} {l : List α} {a b : α}
    (h : Precedes (l.filter p) a b) : Precedes l a b := by
  obtain ⟨x, y, hsplit, ha, hb⟩ := h
  obtain ⟨l₁, l₂, rfl, rfl, rfl⟩ := List.filter_eq_append_iff.mp hsplit
  exact ⟨l₁, l₂, rfl, (List.mem_filter.mp ha).1, (List.mem_filter.mp hb).1⟩

lemma precedes_filter {p : α → Bool} {l : List α} {a b : α} (h : Precedes l a b)
    (pa : p a = true) (pb : p b = true) : Precedes (l.filter p) a b := by
  obtain ⟨x, y, rfl, ha, hb⟩ := h
  exact ⟨x.filter p, y.filter p, List.filter_append x y, List.mem_filter.mpr ⟨ha, pa⟩,
    List.mem_filter.mpr ⟨hb, pb⟩⟩

/-- In a list without repetitions, what precedes an element of an initial part is in it. -/
lemma precedes_of_append {l l' : List α} {a b : α} (h : Precedes (l ++ l') a b)
    (hnodup : (l ++ l').Nodup) (hb : b ∈ l) : Precedes l a b := by
  obtain ⟨x, y, hsplit, hx, hy⟩ := h
  rcases List.append_eq_append_iff.mp hsplit.symm with ⟨m, rfl, rfl⟩ | ⟨m, rfl, rfl⟩
  · rcases List.mem_append.mp hy with hm | hl'
    · exact ⟨x, m, rfl, hx, hm⟩
    · exact absurd hl' (List.disjoint_of_nodup_append hnodup hb)
  · exact absurd (List.mem_append_right m hy) (List.disjoint_of_nodup_append hnodup hb)

/-- Among the items with one key, those that have left and then those that wait are those that
have entered, in the order in which they entered. -/
def Fifo [DecidableEq κ] (key : α → κ) (k : κ) (entered waiting left : List α) : Prop :=
  (left ++ waiting).filter (fun a => key a = k) = entered.filter (fun a => key a = k)

namespace Fifo

variable [DecidableEq κ] {key : α → κ} {k : κ} {entered waiting left : List α}

/-- An item enters and waits. -/
lemma enter (h : Fifo key k entered waiting left) (a : α) :
    Fifo key k (entered ++ [a]) (waiting ++ [a]) left := by
  unfold Fifo at *
  rw [← List.append_assoc, List.filter_append, h, List.filter_append]

/-- An item enters and leaves at once, while no item with its key waits. -/
lemma pass (h : Fifo key k entered waiting left) (a : α)
    (hnone : key a = k → ∀ b ∈ waiting, key b ≠ k) :
    Fifo key k (entered ++ [a]) waiting (left ++ [a]) := by
  unfold Fifo at *
  rw [List.filter_append entered [a], ← h]
  simp only [List.filter_append, List.append_assoc]
  by_cases ha : key a = k
  · have hwaiting : waiting.filter (fun a => key a = k) = [] :=
      List.filter_eq_nil_iff.mpr fun b hb => by simpa using hnone ha b hb
    rw [hwaiting, List.append_nil, List.nil_append]
  · rw [List.filter_singleton, decide_eq_false ha, cond_false, List.append_nil, List.nil_append]

/-- The first of the waiting items leaves. -/
lemma leave {a : α} (h : Fifo key k entered (a :: waiting) left) :
    Fifo key k entered waiting (left ++ [a]) := by
  unfold Fifo at *
  rwa [List.append_assoc, List.singleton_append]

/-- Items with the same key leave in the order in which they entered. -/
theorem in_order (h : Fifo key k entered waiting left) (hnodup : entered.Nodup) {a b : α}
    (ha : key a = k) (hb : key b = k) (hab : Precedes entered a b) (hleft : b ∈ left) :
    Precedes left a b := by
  have pa : decide (key a = k) = true := decide_eq_true ha
  have pb : decide (key b = k) = true := decide_eq_true hb
  have hboth : Precedes (left.filter (fun a => key a = k) ++
      waiting.filter (fun a => key a = k)) a b := by
    rw [← List.filter_append, h]
    exact precedes_filter hab pa pb
  refine precedes_of_filter (precedes_of_append hboth ?_ (List.mem_filter.mpr ⟨hleft, pb⟩))
  rw [← List.filter_append, h]
  exact hnodup.filter _

end Fifo

end Handover
