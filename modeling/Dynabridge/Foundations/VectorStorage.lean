import Mathlib.Data.List.InsertIdx
import Mathlib.Tactic

/-!
# The storage of a vector of objects that can only be moved

Memory is a map from addresses to slots: raw storage, an object that was moved from, or an object
with a value.  Objects are made by construction from a value or from another object, and change by
assignment from another one; what an assignment or a destructor gives up is recorded.  All of it
is undefined on the wrong kind of slot.

`Represents m b xs` says that the buffer `b` holds the values `xs` and that the rest of its
capacity is raw.  `Represents.insert` is about the insertion into a vector, which shifts the
objects behind the position or moves all of them into a new buffer, and `Represents.replace` and
`exists_destructAll` are about assigning to one of them and destroying all: nothing is undefined,
no value is lost or given up twice, and everything outside stays as it was.
-/

namespace VectorStorage

open Function

/-- Storage for one object. -/
inductive Slot (α : Type)
  | raw
  | moved
  | holds (a : α)
  deriving DecidableEq

/-- The values that an object gives up when it ends or is assigned to. -/
def Slot.given {α : Type} : Slot α → List α
  | raw | moved => []
  | holds a => [a]

/-- The slots, and the values that were given up, the last one first. -/
structure Memory (α : Type) where
  slot : ℕ → Slot α
  dropped : List α

/-- Where the objects of a vector are. -/
structure Buffer where
  base : ℕ
  capacity : ℕ
  size : ℕ
  deriving DecidableEq

/-- An address inside the buffer. -/
def Buffer.Contains (b : Buffer) (j : ℕ) : Prop := b.base ≤ j ∧ j < b.base + b.capacity

instance (b : Buffer) (j : ℕ) : Decidable (b.Contains j) :=
  inferInstanceAs (Decidable (b.base ≤ j ∧ j < b.base + b.capacity))

namespace Memory

variable {α : Type}

/-- A new object with a value. -/
def construct (target : ℕ) (a : α) (m : Memory α) : Option (Memory α) :=
  match m.slot target with
  | .raw => some { m with slot := update m.slot target (.holds a) }
  | .moved | .holds _ => none

/-- A new object from another one. -/
def moveConstruct (target source : ℕ) (m : Memory α) : Option (Memory α) :=
  match m.slot target, m.slot source with
  | .raw, .moved => some { m with slot := update m.slot target .moved }
  | .raw, .holds a =>
    some { m with slot := update (update m.slot target (.holds a)) source .moved }
  | _, _ => none

/-- The assignment of one object to another. -/
def moveAssign (target source : ℕ) (m : Memory α) : Option (Memory α) :=
  match m.slot target, m.slot source with
  | .raw, _ | _, .raw => none
  | old, new =>
    if target = source then some m
    else some ⟨update (update m.slot target new) source .moved, old.given ++ m.dropped⟩

/-- The end of an object. -/
def destruct (j : ℕ) (m : Memory α) : Option (Memory α) :=
  match m.slot j with
  | .raw => none
  | old => some ⟨update m.slot j .raw, old.given ++ m.dropped⟩

/-- Assign the objects from `p` on, the last one first, to the one behind each. -/
def shift (p : ℕ) : ℕ → Memory α → Option (Memory α)
  | 0, m => some m
  | k + 1, m => (m.moveAssign (p + k + 1) (p + k)).bind (shift p k)

/-- Construct new objects from old ones, which end. -/
def relocate : ℕ → ℕ → ℕ → Memory α → Option (Memory α)
  | _, _, 0, m => some m
  | source, target, k + 1, m => do
    let m ← m.moveConstruct target source
    let m ← m.destruct source
    relocate (source + 1) (target + 1) k m

/-- The ends of successive objects. -/
def destructAll : ℕ → ℕ → Memory α → Option (Memory α)
  | _, 0, m => some m
  | p, k + 1, m => (m.destruct p).bind (destructAll (p + 1) k)

/-- The insertion of an object before a position.  Without spare capacity the objects move into
a new buffer. -/
def insert (b new : Buffer) (pos source : ℕ) (m : Memory α) : Option (Buffer × Memory α) :=
  if b.size < b.capacity then
    if pos = b.size then do
      let m ← m.moveConstruct (b.base + b.size) source
      some ({ b with size := b.size + 1 }, m)
    else do
      let m ← m.moveConstruct (b.base + b.size) (b.base + b.size - 1)
      let m ← m.shift (b.base + pos) (b.size - 1 - pos)
      let m ← m.moveAssign (b.base + pos) source
      some ({ b with size := b.size + 1 }, m)
  else do
    let m ← m.moveConstruct (new.base + pos) source
    let m ← m.relocate b.base new.base pos
    let m ← m.relocate (b.base + pos) (new.base + pos + 1) (b.size - pos)
    some ({ new with size := b.size + 1 }, m)

/-- The values of successive objects. -/
def read : ℕ → ℕ → Memory α → Option (List α)
  | _, 0, _ => some []
  | p, k + 1, m =>
    match m.slot p with
    | .holds a => (read (p + 1) k m).map (a :: ·)
    | .raw | .moved => none

/-! ## Single objects -/

variable {m : Memory α} {target source j : ℕ} {a : α}

lemma exists_construct (htarget : m.slot target = .raw) (a : α) :
    ∃ m', m.construct target a = some m' ∧ m'.dropped = m.dropped ∧
      m'.slot target = .holds a ∧ ∀ j, j ≠ target → m'.slot j = m.slot j := by
  refine ⟨⟨update m.slot target (.holds a), m.dropped⟩, ?_, rfl, update_self .., fun j hj =>
    update_of_ne hj ..⟩
  rw [construct, htarget]

lemma exists_moveConstruct (htarget : m.slot target = .raw) (hsource : m.slot source = .holds a) :
    ∃ m', m.moveConstruct target source = some m' ∧ m'.dropped = m.dropped ∧
      m'.slot target = .holds a ∧ m'.slot source = .moved ∧
      ∀ j, j ≠ target → j ≠ source → m'.slot j = m.slot j := by
  have hne : target ≠ source := by
    rintro rfl
    rw [htarget] at hsource
    cases hsource
  refine ⟨⟨update (update m.slot target (.holds a)) source .moved, m.dropped⟩, ?_, rfl, ?_,
    update_self .., fun j hj hj' => ?_⟩
  · rw [moveConstruct, htarget, hsource]
  · dsimp only
    rw [update_of_ne hne, update_self]
  · dsimp only
    rw [update_of_ne hj', update_of_ne hj]

/-- The assignment of an object with a value to another object. -/
lemma exists_moveAssign (htarget : m.slot target ≠ .raw) (hsource : m.slot source = .holds a)
    (hne : target ≠ source) :
    ∃ m', m.moveAssign target source = some m' ∧
      m'.dropped = (m.slot target).given ++ m.dropped ∧ m'.slot target = .holds a ∧
      m'.slot source = .moved ∧ ∀ j, j ≠ target → j ≠ source → m'.slot j = m.slot j := by
  refine ⟨⟨update (update m.slot target (.holds a)) source .moved,
    (m.slot target).given ++ m.dropped⟩, ?_, rfl, ?_, update_self .., fun j hj hj' => ?_⟩
  · rw [moveAssign, hsource]
    cases hold : m.slot target with
    | raw => exact absurd hold htarget
    | moved => exact if_neg hne
    | holds b => exact if_neg hne
  · dsimp only
    rw [update_of_ne hne, update_self]
  · dsimp only
    rw [update_of_ne hj', update_of_ne hj]

lemma exists_destruct (hj : m.slot j ≠ .raw) :
    ∃ m', m.destruct j = some m' ∧ m'.dropped = (m.slot j).given ++ m.dropped ∧
      m'.slot j = .raw ∧ ∀ j', j' ≠ j → m'.slot j' = m.slot j' := by
  refine ⟨⟨update m.slot j .raw, (m.slot j).given ++ m.dropped⟩, ?_, rfl, update_self ..,
    fun j' hj' => update_of_ne hj' ..⟩
  rw [destruct]
  cases hold : m.slot j with
  | raw => exact absurd hold hj
  | moved => rfl
  | holds b => rfl

/-! ## Successive objects -/

/-- Shifting objects towards one that was moved from gives up nothing. -/
lemma exists_shift {p k : ℕ} (hlast : m.slot (p + k) = .moved)
    (hholds : ∀ i < k, ∃ a, m.slot (p + i) = .holds a) :
    ∃ m', m.shift p k = some m' ∧ m'.dropped = m.dropped ∧
      ∀ j, m'.slot j = if p < j ∧ j ≤ p + k then m.slot (j - 1)
        else if j = p then .moved else m.slot j := by
  induction k generalizing m with
  | zero =>
    refine ⟨m, rfl, rfl, fun j => ?_⟩
    rw [if_neg (by omega)]
    split_ifs with hj
    · rw [hj]
      exact hlast
    · rfl
  | succ k ih =>
    obtain ⟨a, ha⟩ := hholds k (Nat.lt_succ_self k)
    have htarget : m.slot (p + k + 1) = .moved := hlast
    obtain ⟨m₁, hassign, hdropped₁, hnew, hold, hothers⟩ :=
      exists_moveAssign (by simp [htarget]) ha (Nat.succ_ne_self (p + k))
    obtain ⟨m', hshift, hdropped, hslot⟩ := ih hold fun i hi => by
      obtain ⟨b, hb⟩ := hholds i (Nat.lt_succ_of_lt hi)
      exact ⟨b, (hothers _ (by omega) (by omega)).trans hb⟩
    refine ⟨m', ?_, ?_, fun j => ?_⟩
    · rw [shift, hassign]
      exact hshift
    · rw [hdropped, hdropped₁, htarget]
      rfl
    · rw [hslot j]
      rcases lt_trichotomy j (p + k + 1) with hlt | rfl | hgt
      · split_ifs <;> first | omega | rfl | exact hothers _ (by omega) (by omega)
      · rw [if_neg (by omega), if_neg (by omega), if_pos (by omega)]
        exact hnew.trans ha.symm
      · rw [if_neg (by omega), if_neg (by omega), if_neg (by omega), if_neg (by omega)]
        exact hothers j (by omega) (by omega)

/-- Moving objects into raw storage gives up nothing. -/
lemma exists_relocate (source target : ℕ) {k : ℕ}
    (hsource : ∀ i < k, ∃ a, m.slot (source + i) = .holds a)
    (htarget : ∀ i < k, m.slot (target + i) = .raw) :
    ∃ m', m.relocate source target k = some m' ∧ m'.dropped = m.dropped ∧
      ∀ j, m'.slot j = if target ≤ j ∧ j < target + k then m.slot (source + (j - target))
        else if source ≤ j ∧ j < source + k then .raw else m.slot j := by
  induction k generalizing m source target with
  | zero =>
    refine ⟨m, rfl, rfl, fun j => ?_⟩
    rw [if_neg (by omega), if_neg (by omega)]
  | succ k ih =>
    have hapart : ∀ i ≤ k, ∀ i' ≤ k, source + i ≠ target + i' := by
      intro i hi i' hi' heq
      obtain ⟨a, ha⟩ := hsource i (Nat.lt_succ_of_le hi)
      rw [heq, htarget i' (Nat.lt_succ_of_le hi')] at ha
      cases ha
    obtain ⟨a, ha⟩ := hsource 0 (Nat.succ_pos k)
    rw [Nat.add_zero] at ha
    have hfree := htarget 0 (Nat.succ_pos k)
    rw [Nat.add_zero] at hfree
    obtain ⟨m₁, hmove, hdropped₁, hnew₁, hold₁, hothers₁⟩ := exists_moveConstruct hfree ha
    obtain ⟨m₂, hdestruct, hdropped₂, hraw₂, hothers₂⟩ :=
      exists_destruct (m := m₁) (j := source) (by simp [hold₁])
    have hothers : ∀ j, j ≠ source → j ≠ target → m₂.slot j = m.slot j := fun j hj hj' =>
      (hothers₂ j hj).trans (hothers₁ j hj' hj)
    have hne := hapart 0 (Nat.zero_le k) 0 (Nat.zero_le k)
    obtain ⟨m', hrelocate, hdropped, hslot⟩ := ih (m := m₂) (source + 1) (target + 1)
      (fun i hi => by
        obtain ⟨b, hb⟩ := hsource (i + 1) (Nat.succ_lt_succ hi)
        refine ⟨b, (hothers _ (by omega) ?_).trans (by rw [← hb]; congr 1; omega)⟩
        have := hapart (i + 1) hi 0 (Nat.zero_le k)
        omega) fun i hi => by
        rw [← htarget (i + 1) (Nat.succ_lt_succ hi)]
        refine (hothers _ ?_ (by omega)).trans (by congr 1; omega)
        have := hapart 0 (Nat.zero_le k) (i + 1) hi
        omega
    refine ⟨m', ?_, ?_, fun j => ?_⟩
    · rw [relocate, hmove]
      simp only [Option.bind_eq_bind, Option.bind_some, hdestruct, hrelocate]
    · rw [hdropped, hdropped₂, hdropped₁, hold₁]
      rfl
    · rw [hslot j]
      by_cases hjt : j = target
      · subst hjt
        have hfar : ¬ (source + 1 ≤ j ∧ j < source + 1 + k) := fun h =>
          hapart (j - source) (by omega) 0 (Nat.zero_le k) (by omega)
        rw [if_neg (by omega), if_neg hfar, if_pos (by omega), hothers₂ j (Ne.symm hne), hnew₁,
          Nat.sub_self, Nat.add_zero, ha]
      by_cases hjs : j = source
      · subst hjs
        have hfar : ¬ (target ≤ j ∧ j < target + (k + 1)) := fun h =>
          hapart 0 (Nat.zero_le k) (j - target) (by omega) (by omega)
        rw [if_neg (by omega), if_neg (by omega), if_neg hfar, if_pos (by omega), hraw₂]
      by_cases hin : target + 1 ≤ j ∧ j < target + 1 + k
      · have hindex : source + 1 + (j - (target + 1)) = source + (j - target) := by omega
        rw [if_pos hin, if_pos (by omega), hindex]
        refine hothers _ (by omega) ?_
        have := hapart (j - target) (by omega) 0 (Nat.zero_le k)
        omega
      · rw [if_neg hin, if_neg (show ¬ (target ≤ j ∧ j < target + (k + 1)) by omega)]
        split_ifs <;> first | omega | rfl | exact hothers j hjs hjt

/-- Objects that end give up their values. -/
lemma exists_destructAll {p : ℕ} {xs : List α}
    (h : ∀ i a, xs[i]? = some a → m.slot (p + i) = .holds a) :
    ∃ m', m.destructAll p xs.length = some m' ∧ m'.dropped = xs.reverse ++ m.dropped ∧
      ∀ j, m'.slot j = if p ≤ j ∧ j < p + xs.length then .raw else m.slot j := by
  induction xs generalizing m p with
  | nil => exact ⟨m, rfl, rfl, fun j => by rw [if_neg (by simp)]⟩
  | cons x xs ih =>
    have hx := h 0 x rfl
    rw [Nat.add_zero] at hx
    obtain ⟨m₁, hdestruct, hdropped₁, hraw, hothers⟩ :=
      exists_destruct (m := m) (j := p) (by simp [hx])
    obtain ⟨m', hrest, hdropped, hslot⟩ := ih (m := m₁) (p := p + 1) fun i a hi => by
      rw [hothers _ (by omega), ← h (i + 1) a hi]
      congr 1
      omega
    refine ⟨m', ?_, ?_, fun j => ?_⟩
    · rw [List.length_cons, destructAll, hdestruct]
      exact hrest
    · rw [hdropped, hdropped₁, hx, List.reverse_cons, List.append_assoc]
      rfl
    · rw [hslot j, List.length_cons]
      by_cases hj : j = p
      · subst hj
        rw [if_neg (by omega), if_pos (by omega), hraw]
      · split_ifs <;> first | omega | rfl | exact hothers j hj

/-! ## Vectors -/

/-- The buffer holds the values, and the rest of its capacity is raw. -/
structure Represents (m : Memory α) (b : Buffer) (xs : List α) : Prop where
  size : b.size = xs.length
  bound : b.size ≤ b.capacity
  holds : ∀ i a, xs[i]? = some a → m.slot (b.base + i) = .holds a
  spare : ∀ i, b.size ≤ i → i < b.capacity → m.slot (b.base + i) = .raw

variable {b new : Buffer} {xs : List α} {m' : Memory α} {pos : ℕ}

lemma Represents.congr (h : m.Represents b xs)
    (hsame : ∀ j, b.Contains j → m'.slot j = m.slot j) : m'.Represents b xs := by
  have hin : ∀ i, i < b.capacity → m'.slot (b.base + i) = m.slot (b.base + i) := fun i hi =>
    hsame _ ⟨Nat.le_add_right _ _, Nat.add_lt_add_left hi _⟩
  refine ⟨h.size, h.bound, fun i a hi => ?_, fun i hsize hi => ?_⟩
  · have hlt := (List.getElem?_eq_some_iff.mp hi).1
    rw [hin i (by have := h.size; have := h.bound; omega)]
    exact h.holds i a hi
  · rw [hin i hi]
    exact h.spare i hsize hi

/-- A vector is read as what it represents. -/
lemma Represents.read (h : m.Represents b xs) : m.read b.base b.size = some xs := by
  have hread : ∀ (xs : List α) (p : ℕ), (∀ i a, xs[i]? = some a → m.slot (p + i) = .holds a) →
      m.read p xs.length = some xs := by
    intro xs
    induction xs with
    | nil => exact fun p _ => rfl
    | cons x xs ih =>
      intro p hp
      have hx := hp 0 x rfl
      rw [Nat.add_zero] at hx
      have hrest := ih (p + 1) fun i a hi => by
        rw [← hp (i + 1) a hi]
        congr 1
        omega
      rw [List.length_cons, Memory.read, hx]
      simp only [hrest, Option.map_some]
  rw [h.size]
  exact hread xs b.base h.holds

/-- The objects behind the position are one further, and the new one is in between. -/
lemma Represents.insertIdx (h : m.Represents b xs) (hpos : pos ≤ xs.length) {b' : Buffer}
    (hsize : b'.size = b.size + 1) (hbound : b'.size ≤ b'.capacity)
    (hbefore : ∀ i < pos, m'.slot (b'.base + i) = m.slot (b.base + i))
    (hat : m'.slot (b'.base + pos) = .holds a)
    (hafter : ∀ i, pos ≤ i → i < b.size → m'.slot (b'.base + (i + 1)) = m.slot (b.base + i))
    (hspare : ∀ i, b'.size ≤ i → i < b'.capacity → m'.slot (b'.base + i) = .raw) :
    m'.Represents b' (xs.insertIdx pos a) := by
  refine ⟨?_, hbound, fun i a' hi => ?_, hspare⟩
  · rw [hsize, h.size, List.length_insertIdx_of_le_length hpos a]
  · rw [List.getElem?_insertIdx] at hi
    rcases lt_trichotomy i pos with hlt | rfl | hgt
    · rw [if_pos hlt] at hi
      exact (hbefore i hlt).trans (h.holds i a' hi)
    · rw [if_neg (Nat.lt_irrefl i), if_pos rfl, if_pos hpos] at hi
      exact Option.some.inj hi ▸ hat
    · rw [if_neg (by omega), if_neg (by omega)] at hi
      have hlt := (List.getElem?_eq_some_iff.mp hi).1
      have hmoved := hafter (i - 1) (by omega) (h.size ▸ hlt)
      rw [Nat.sub_add_cancel (by omega)] at hmoved
      exact hmoved.trans (h.holds (i - 1) a' hi)

/-- What an insertion into a vector does. -/
structure Inserted (m : Memory α) (b new : Buffer) (xs : List α) (pos source : ℕ) (a : α)
    (b' : Buffer) (m' : Memory α) : Prop where
  represents : m'.Represents b' (xs.insertIdx pos a)
  dropped : m'.dropped = m.dropped
  moved : m'.slot source = .moved
  elsewhere : ∀ j, j ≠ source → ¬ b.Contains j → ¬ new.Contains j → m'.slot j = m.slot j

/-- Inserting behind the last object. -/
lemma Represents.insert_last (h : m.Represents b xs) (hspare : b.size < b.capacity)
    (hsource : m.slot source = .holds a) (houtside : ¬ b.Contains source) (new : Buffer) :
    ∃ m', m.insert b new b.size source = some ({ b with size := b.size + 1 }, m') ∧
      m.Inserted b new xs b.size source a { b with size := b.size + 1 } m' := by
  obtain ⟨m', hmove, hdropped, hnew, hold, hothers⟩ :=
    exists_moveConstruct (h.spare b.size (Nat.le_refl _) hspare) hsource
  have hin : ∀ i < b.capacity, i ≠ b.size → m'.slot (b.base + i) = m.slot (b.base + i) := by
    refine fun i hi hne => hothers _ (by omega) fun heq => houtside ?_
    exact heq ▸ ⟨Nat.le_add_right _ _, Nat.add_lt_add_left hi _⟩
  refine ⟨m', ?_, h.insertIdx h.size.le rfl hspare (fun i hi => hin i (by omega) (by omega)) hnew
    (fun i hi hi' => by omega) (fun i hi hi' => ?_), hdropped, hold, fun j hj hout _ =>
    hothers j ?_ hj⟩
  · unfold Memory.insert
    rw [if_pos hspare, if_pos rfl]
    simp only [hmove, Option.bind_eq_bind, Option.bind_some]
  · dsimp only at hi hi'
    exact (hin i hi' (by omega)).trans (h.spare i (by omega) hi')
  · rintro rfl
    exact hout ⟨Nat.le_add_right _ _, Nat.add_lt_add_left hspare _⟩

/-- Inserting before an object, with spare capacity. -/
lemma Represents.insert_shift (h : m.Represents b xs) (hpos : pos < b.size)
    (hspare : b.size < b.capacity) (hsource : m.slot source = .holds a)
    (houtside : ¬ b.Contains source) (new : Buffer) :
    ∃ m', m.insert b new pos source = some ({ b with size := b.size + 1 }, m') ∧
      m.Inserted b new xs pos source a { b with size := b.size + 1 } m' := by
  have hsize := h.size
  have hout : ∀ i < b.capacity, b.base + i ≠ source := fun i hi heq =>
    houtside (heq ▸ ⟨Nat.le_add_right _ _, Nat.add_lt_add_left hi _⟩)
  have hget : ∀ i < b.size, ∃ x, m.slot (b.base + i) = .holds x := fun i hi =>
    ⟨_, h.holds i _ (List.getElem?_eq_getElem (hsize ▸ hi))⟩
  obtain ⟨x, hx⟩ := hget (b.size - 1) (by omega)
  rw [show b.base + (b.size - 1) = b.base + b.size - 1 by omega] at hx
  obtain ⟨m₁, hmove, hdropped₁, hnew₁, hold₁, hothers₁⟩ :=
    exists_moveConstruct (h.spare b.size (Nat.le_refl _) hspare) hx
  obtain ⟨m₂, hshift, hdropped₂, hslot₂⟩ := exists_shift (m := m₁) (p := b.base + pos)
    (k := b.size - 1 - pos) (by rw [← hold₁]; congr 1; omega) fun i hi => by
      obtain ⟨y, hy⟩ := hget (pos + i) (by omega)
      refine ⟨y, (hothers₁ _ (by omega) (by omega)).trans ?_⟩
      rw [← hy, Nat.add_assoc]
  have hto : m₂.slot (b.base + pos) = .moved := by
    rw [hslot₂, if_neg (by omega), if_pos rfl]
  have houter : ∀ j, ¬ b.Contains j → m₂.slot j = m.slot j := by
    intro j hj
    rw [Buffer.Contains] at hj
    rw [hslot₂, if_neg (by omega), if_neg (by omega)]
    exact hothers₁ j (by omega) (by omega)
  obtain ⟨m', hassign, hdropped, hnew, hold, hothers⟩ :=
    exists_moveAssign (by simp [hto]) ((houter source houtside).trans hsource)
      (hout pos (by omega))
  have hin : ∀ i < b.capacity, i ≠ pos → m'.slot (b.base + i) = m₂.slot (b.base + i) :=
    fun i hi hne => hothers _ (by omega) (hout i hi)
  refine ⟨m', ?_, h.insertIdx (by omega) rfl hspare (fun i hi => ?_) hnew (fun i hi hi' => ?_)
    (fun i hi hi' => ?_), ?_, hold, fun j hj hin _ => ?_⟩
  · unfold Memory.insert
    rw [if_pos hspare, if_neg hpos.ne]
    simp only [hmove, hshift, hassign, Option.bind_eq_bind, Option.bind_some]
  · dsimp only
    rw [hin i (by omega) (by omega), hslot₂, if_neg (by omega), if_neg (by omega)]
    exact hothers₁ _ (by omega) (by omega)
  · dsimp only
    rw [hin (i + 1) (by omega) (by omega), hslot₂]
    by_cases hlast : i + 1 = b.size
    · rw [if_neg (by omega), if_neg (by omega), hlast, hnew₁, ← hx]
      congr 1
      omega
    · rw [if_pos (by omega), ← Nat.add_assoc, Nat.add_sub_cancel]
      exact hothers₁ _ (by omega) (by omega)
  · dsimp only at hi hi' ⊢
    rw [hin i hi' (by omega), hslot₂, if_neg (by omega), if_neg (by omega),
      hothers₁ _ (by omega) (by omega)]
    exact h.spare i (by omega) hi'
  · rw [hdropped, hto, hdropped₂, hdropped₁]
    rfl
  · refine (hothers j ?_ hj).trans (houter j hin)
    rintro rfl
    exact hin ⟨Nat.le_add_right _ _, Nat.add_lt_add_left (by omega) _⟩

/-- Inserting without spare capacity. -/
lemma Represents.insert_grow (h : m.Represents b xs) (hpos : pos ≤ b.size)
    (hfull : b.size = b.capacity) (hsource : m.slot source = .holds a)
    (houtside : ¬ b.Contains source) (hgrow : b.size < new.capacity)
    (hfresh : ∀ i < new.capacity, m.slot (new.base + i) = .raw) :
    ∃ m', m.insert b new pos source = some ({ new with size := b.size + 1 }, m') ∧
      m.Inserted b new xs pos source a { new with size := b.size + 1 } m' := by
  have hsize := h.size
  have hget : ∀ i < b.size, ∃ x, m.slot (b.base + i) = .holds x := fun i hi =>
    ⟨_, h.holds i _ (List.getElem?_eq_getElem (hsize ▸ hi))⟩
  have hnotnew : ∀ i < b.size,
      ¬ (new.base ≤ b.base + i ∧ b.base + i < new.base + new.capacity) := by
    rintro i hi ⟨hle, hlt⟩
    obtain ⟨x, hx⟩ := hget i hi
    have hraw := hfresh (b.base + i - new.base) (by omega)
    rw [Nat.add_sub_cancel' hle, hx] at hraw
    cases hraw
  have hnotold : ∀ i < new.capacity,
      ¬ (b.base ≤ new.base + i ∧ new.base + i < b.base + b.size) := by
    rintro i hi ⟨hle, hlt⟩
    have hnot := hnotnew (new.base + i - b.base) (by omega)
    omega
  have hsourceold : ¬ (b.base ≤ source ∧ source < b.base + b.size) := fun h =>
    houtside ⟨h.1, hfull ▸ h.2⟩
  have hsourcenew : ¬ (new.base ≤ source ∧ source < new.base + new.capacity) := by
    rintro ⟨hle, hlt⟩
    have hraw := hfresh (source - new.base) (by omega)
    rw [Nat.add_sub_cancel' hle, hsource] at hraw
    cases hraw
  obtain ⟨m₁, hmove, hdropped₁, hnew₁, hold₁, hothers₁⟩ :=
    exists_moveConstruct (hfresh pos (by omega)) hsource
  obtain ⟨m₂, hfirst, hdropped₂, hslot₂⟩ := exists_relocate (m := m₁) (k := pos) b.base new.base
    (fun i hi => by
      obtain ⟨x, hx⟩ := hget i (by omega)
      have hnot := hnotnew i (by omega)
      exact ⟨x, (hothers₁ _ (by omega) (by omega)).trans hx⟩)
    fun i hi => (hothers₁ _ (by omega) (by omega)).trans (hfresh i (by omega))
  have hold₂ : ∀ i, pos ≤ i → i < b.size → m₂.slot (b.base + i) = m.slot (b.base + i) := by
    intro i hi hi'
    have hnot := hnotnew i hi'
    rw [hslot₂, if_neg (by omega), if_neg (by omega)]
    exact hothers₁ _ (by omega) (by omega)
  have hfree₂ : ∀ i, pos < i → i < new.capacity → m₂.slot (new.base + i) = .raw := by
    intro i hi hi'
    have hnot := hnotold i hi'
    rw [hslot₂, if_neg (by omega), if_neg (by omega)]
    exact (hothers₁ _ (by omega) (by omega)).trans (hfresh i hi')
  obtain ⟨m', hsecond, hdropped, hslot⟩ := exists_relocate (m := m₂) (k := b.size - pos)
    (b.base + pos) (new.base + pos + 1) (fun i hi => by
      obtain ⟨x, hx⟩ := hget (pos + i) (by omega)
      exact ⟨x, by rw [Nat.add_assoc, hold₂ (pos + i) (by omega) (by omega), hx]⟩)
    fun i hi => by
      rw [Nat.add_assoc, Nat.add_assoc]
      exact hfree₂ (pos + (1 + i)) (by omega) (by omega)
  refine ⟨m', ?_, h.insertIdx (hsize ▸ hpos) rfl hgrow (fun i hi => ?_) ?_ (fun i hi hi' => ?_)
    (fun i hi hi' => ?_), ?_, ?_, fun j hj hout hout' => ?_⟩
  · unfold Memory.insert
    rw [if_neg hfull.not_lt]
    simp only [hmove, hfirst, hsecond, Option.bind_eq_bind, Option.bind_some]
  · have hnot := hnotold i (by omega)
    have hnot' := hnotnew i (by omega)
    dsimp only
    rw [hslot, if_neg (by omega), if_neg (by omega), hslot₂, if_pos (by omega),
      Nat.add_sub_cancel_left]
    exact hothers₁ _ (by omega) (by omega)
  · have hnot := hnotold pos (by omega)
    dsimp only
    rw [hslot, if_neg (by omega), if_neg (by omega), hslot₂, if_neg (by omega), if_neg (by omega)]
    exact hnew₁
  · dsimp only
    rw [hslot, if_pos (by omega), ← hold₂ i hi hi']
    congr 1
    omega
  · dsimp only at hi hi' ⊢
    have hnot := hnotold i hi'
    rw [hslot, if_neg (by omega), if_neg (by omega)]
    exact hfree₂ i (by omega) hi'
  · rw [hdropped, hdropped₂, hdropped₁]
  · rw [hslot, if_neg (by omega), if_neg (by omega), hslot₂, if_neg (by omega), if_neg (by omega)]
    exact hold₁
  · rw [Buffer.Contains] at hout hout'
    rw [hslot, if_neg (by omega), if_neg (by omega), hslot₂, if_neg (by omega), if_neg (by omega)]
    exact hothers₁ j (by omega) hj

/-- An insertion into a vector, with spare capacity or a larger raw buffer. -/
theorem Represents.insert (h : m.Represents b xs) (hpos : pos ≤ b.size)
    (hsource : m.slot source = .holds a) (houtside : ¬ b.Contains source)
    (hroom : b.size = b.capacity →
      b.size < new.capacity ∧ ∀ i < new.capacity, m.slot (new.base + i) = .raw) :
    ∃ b' m', m.insert b new pos source = some (b', m') ∧ m.Inserted b new xs pos source a b' m' ∧
      (b' = { b with size := b.size + 1 } ∨
        b.size = b.capacity ∧ b' = { new with size := b.size + 1 }) := by
  rcases h.bound.lt_or_eq with hspare | hfull
  · rcases hpos.lt_or_eq with hlt | rfl
    · obtain ⟨m', hinsert, hinserted⟩ := h.insert_shift hlt hspare hsource houtside new
      exact ⟨_, m', hinsert, hinserted, .inl rfl⟩
    · obtain ⟨m', hinsert, hinserted⟩ := h.insert_last hspare hsource houtside new
      exact ⟨_, m', hinsert, hinserted, .inl rfl⟩
  · obtain ⟨m', hinsert, hinserted⟩ :=
      h.insert_grow hpos hfull hsource houtside (hroom hfull).1 (hroom hfull).2
    exact ⟨_, m', hinsert, hinserted, .inr ⟨hfull, rfl⟩⟩

/-- Assigning to an object of a vector gives up its old value. -/
theorem Represents.replace (h : m.Represents b xs) {x : α} (hpos : xs[pos]? = some x)
    (hsource : m.slot source = .holds a) (houtside : ¬ b.Contains source) :
    ∃ m', m.moveAssign (b.base + pos) source = some m' ∧ m'.Represents b (xs.set pos a) ∧
      m'.dropped = x :: m.dropped ∧ m'.slot source = .moved ∧
      ∀ j, j ≠ source → ¬ b.Contains j → m'.slot j = m.slot j := by
  have hold := h.holds pos x hpos
  have hlt := (List.getElem?_eq_some_iff.mp hpos).1
  have hsize := h.size
  have hbound := h.bound
  have hout : ∀ i < b.capacity, b.base + i ≠ source := fun i hi heq =>
    houtside (heq ▸ ⟨Nat.le_add_right _ _, Nat.add_lt_add_left hi _⟩)
  obtain ⟨m', hassign, hdropped, hnew, hmoved, hothers⟩ :=
    exists_moveAssign (by simp [hold]) hsource (hout pos (by omega))
  have hin : ∀ i < b.capacity, i ≠ pos → m'.slot (b.base + i) = m.slot (b.base + i) :=
    fun i hi hne => hothers _ (by omega) (hout i hi)
  refine ⟨m', hassign, ⟨?_, hbound, fun i a' hi => ?_, fun i hi hi' => ?_⟩, ?_, hmoved,
    fun j hj hcontains => hothers j ?_ hj⟩
  · rw [hsize, List.length_set]
  · have hlt' := (List.getElem?_eq_some_iff.mp hi).1
    rw [List.length_set] at hlt'
    by_cases hip : i = pos
    · subst hip
      rw [List.getElem?_set_self hlt] at hi
      exact Option.some.inj hi ▸ hnew
    · rw [List.getElem?_set_ne (Ne.symm hip)] at hi
      rw [hin i (by omega) hip]
      exact h.holds i a' hi
  · rw [hin i hi' (by omega)]
    exact h.spare i hi hi'
  · rw [hdropped, hold]
    rfl
  · rintro rfl
    exact hcontains ⟨Nat.le_add_right _ _, Nat.add_lt_add_left (by omega) _⟩

end Memory

end VectorStorage
