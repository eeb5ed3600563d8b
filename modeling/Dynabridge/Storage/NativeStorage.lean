import Dynabridge.Foundations.Ownership
import Dynabridge.Foundations.Runs

/-!
# Ownership in `export_native_storage`

The storage of an exported native has one pointer, which stands either for an object in its own
inline buffer or for an object that it borrows.  A move relocates an object that is owned and
hands a borrowed pointer on.  The model has any number of storages; an object may be borrowed
from outside or from the buffer of a storage, and every constructor of `Native` may throw.
-/

namespace Dynabridge.Storage

open Ownership Runs Function

/-! ## Storages -/

/-- Where a `Native` lives. -/
inductive Address
  | outside (object : ℕ)
  /-- in `storage_` of a storage -/
  | buffer (storage : ℕ)
  deriving DecidableEq, Repr

/-- The fields of a storage besides its buffer. -/
structure NativeFields where
  /-- `native_` -/
  native : Option Address := none
  /-- `owns_` -/
  owns : Bool := false
  deriving DecidableEq, Repr

/-- The storages of a program, and what they have destroyed where. -/
structure Storages where
  lifetimes : Lifetimes := {}
  /-- the fields of the storages that there are -/
  fields : ℕ → Option NativeFields := fun _ => none
  /-- the `Native` that is alive in `storage_` -/
  buffer : ℕ → Option ℕ := fun _ => none
  /-- the storages that ran a destructor of `Native`, each with the address it ran it at -/
  destructions : List (ℕ × Address) := []

namespace Storages

/-- A `Native` that is alive has to be at the address.  Outside objects are in the care of their
owners. -/
def read (a : Address) (s : Storages) : Option Unit :=
  match a with
  | .outside _ => some ()
  | .buffer b => (s.buffer b).map fun _ => ()

/-- `native_->~Native()`, which a storage runs at an address. -/
def destroyAt (o : ℕ) (a : Address) (s : Storages) : Option Storages :=
  match a with
  | .outside _ => some { s with destructions := (o, a) :: s.destructions }
  | .buffer b => do
    let native ← s.buffer b
    let lifetimes ← s.lifetimes.destroy native
    some
      { lifetimes := lifetimes
        fields := s.fields
        buffer := update s.buffer b none
        destructions := (o, a) :: s.destructions }

/-- `construct`, with whether the constructor of `Native` throws. -/
def construct (o : ℕ) (throws : Bool) (s : Storages) : Bool × Storages :=
  if throws then (true, s)
  else
    (false,
      { lifetimes := s.lifetimes.make
        fields := update s.fields o (some ⟨some (.buffer o), true⟩)
        buffer := update s.buffer o (some s.lifetimes.made)
        destructions := s.destructions })

@[simp] lemma fields_construct (s : Storages) (o : ℕ) :
    (s.construct o false).2.fields = update s.fields o (some ⟨some (.buffer o), true⟩) := rfl

@[simp] lemma buffer_construct (s : Storages) (o : ℕ) :
    (s.construct o false).2.buffer = update s.buffer o (some s.lifetimes.made) := rfl

/-- The fields of a storage are set, or the storage ceases to be. -/
def setFields (o : ℕ) (fields : Option NativeFields) (s : Storages) : Storages :=
  { s with fields := update s.fields o fields }

@[simp] lemma fields_setFields (s : Storages) (o : ℕ) (fields : Option NativeFields) :
    (s.setFields o fields).fields = update s.fields o fields := rfl

@[simp] lemma buffer_setFields (s : Storages) (o : ℕ) (fields : Option NativeFields) :
    (s.setFields o fields).buffer = s.buffer := rfl

/-- `reset` -/
def reset (o : ℕ) (s : Storages) : Option Storages := do
  let this ← s.fields o
  let s ← match this.owns, this.native with
    | true, some a => s.destroyAt o a
    | _, _ => some s
  some (s.setFields o (some {}))

/-- `move_from` -/
def moveFrom (o other : ℕ) (throws : Bool) (s : Storages) : Option (Bool × Storages) := do
  let source ← s.fields other
  if source.owns then do
    let a ← source.native
    let _ ← s.read a
    let (thrown, s) := s.construct o throws
    if thrown then some (true, s)
    else do
      let s ← s.reset other
      some (false, s)
  else
    let s := s.setFields o (some ⟨source.native, false⟩)
    some (false, s.setFields other (some ⟨none, source.owns⟩))

/-- The member initialisers of a storage that is being constructed. -/
def begin (o : ℕ) (s : Storages) : Storages := s.setFields o (some {})

/-- The end of a constructor: if it throws there is no storage. -/
def finish (o : ℕ) (result : Bool × Storages) : Bool × Storages :=
  if result.1 then (true, result.2.setFields o none) else result

/-- `export_native_storage(borrowed_ref<Native>)` -/
def borrow (o : ℕ) (a : Address) (s : Storages) : Storages :=
  s.setFields o (some ⟨some a, false⟩)

/-- `export_native_storage(owned_value<Native>&&)` -/
def fromOwned (o : ℕ) (throws : Bool) (s : Storages) : Bool × Storages :=
  finish o ((s.begin o).construct o throws)

/-- `export_native_storage(Args&&...)` -/
def inPlace (o : ℕ) (throws : Bool) (s : Storages) : Bool × Storages :=
  finish o ((s.begin o).construct o throws)

/-- `export_native_storage(export_native_storage&&)` -/
def moveConstruct (o other : ℕ) (throws : Bool) (s : Storages) : Option (Bool × Storages) :=
  ((s.begin o).moveFrom o other throws).map (finish o)

/-- `operator=(export_native_storage&&)` -/
def moveAssign (o other : ℕ) (throws : Bool) (s : Storages) : Option (Bool × Storages) :=
  if o = other then some (false, s)
  else do
    let s ← s.reset o
    s.moveFrom o other throws

/-- `~export_native_storage` -/
def destruct (o : ℕ) (s : Storages) : Option Storages := do
  let s ← s.reset o
  some (s.setFields o none)

end Storages

/-! ## Operations -/

/-- The operations on storages, each with whether the constructor of `Native` that it runs
throws. -/
inductive StorageOperation
  | borrow (o : ℕ) (a : Address)
  | fromOwned (o : ℕ) (throws : Bool)
  | inPlace (o : ℕ) (throws : Bool)
  | moveConstruct (o other : ℕ) (throws : Bool)
  | moveAssign (o other : ℕ) (throws : Bool)
  | destruct (o : ℕ)
  deriving DecidableEq, Repr

namespace StorageOperation

/-- Constructors make a storage that is not there, the other operations work on those that
are. -/
def Valid (s : Storages) : StorageOperation → Prop
  | borrow o _ | fromOwned o _ | inPlace o _ => s.fields o = none
  | moveConstruct o other _ => s.fields o = none ∧ s.fields other ≠ none
  | moveAssign o other _ => s.fields o ≠ none ∧ s.fields other ≠ none
  | destruct o => s.fields o ≠ none

instance (s : Storages) : (op : StorageOperation) → Decidable (op.Valid s)
  | borrow o _ | fromOwned o _ | inPlace o _ => inferInstanceAs (Decidable (s.fields o = none))
  | moveConstruct o other _ =>
    inferInstanceAs (Decidable (s.fields o = none ∧ s.fields other ≠ none))
  | moveAssign o other _ =>
    inferInstanceAs (Decidable (s.fields o ≠ none ∧ s.fields other ≠ none))
  | destruct o => inferInstanceAs (Decidable (s.fields o ≠ none))

/-- What an operation does and whether it throws, unless it is undefined. -/
def perform (s : Storages) : StorageOperation → Option (Bool × Storages)
  | borrow o a => some (false, s.borrow o a)
  | fromOwned o throws => some (s.fromOwned o throws)
  | inPlace o throws => some (s.inPlace o throws)
  | moveConstruct o other throws => s.moveConstruct o other throws
  | moveAssign o other throws => s.moveAssign o other throws
  | destruct o => (s.destruct o).map (false, ·)

/-- The state after an operation. -/
def next (s : Storages) (op : StorageOperation) : Option Storages := (op.perform s).map Prod.snd

end StorageOperation

/-! ## What the operations keep -/

namespace Storages

variable {s : Storages} {o other : ℕ}

/-- The objects alive in buffers are those that their storages own, and no storage has run a
destructor anywhere but in its own buffer. -/
structure Consistent (s : Storages) : Prop where
  owned : Owned s.lifetimes s.buffer
  own : ∀ {o f}, s.fields o = some f → f.owns = true →
    f.native = some (.buffer o) ∧ s.buffer o ≠ none
  owner : ∀ {o}, s.buffer o ≠ none → ∃ f, s.fields o = some f ∧ f.owns = true
  logged : ∀ e ∈ s.destructions, e.2 = .buffer e.1

lemma consistent_new : ({} : Storages).Consistent :=
  ⟨Owned.empty, by simp, by simp, by simp⟩

/-- There is no object in the buffer of a storage that owns none. -/
lemma Consistent.buffer_eq_none (h : s.Consistent)
    (ho : ∀ f, s.fields o = some f → f.owns = false) : s.buffer o = none := by
  by_contra hne
  obtain ⟨f, hf, howns⟩ := h.owner hne
  rw [ho f hf] at howns
  cases howns

/-- Fields that own nothing may be given to a storage whose buffer is empty. -/
lemma Consistent.setFields (h : s.Consistent) (ho : s.buffer o = none)
    {fields : Option NativeFields} (hfields : ∀ f, fields = some f → f.owns = false) :
    (s.setFields o fields).Consistent := by
  refine ⟨h.owned, fun {o'} f hf howns => ?_, fun {o'} hne => ?_, h.logged⟩
  · rw [fields_setFields] at hf
    by_cases hoo : o' = o
    · subst hoo
      rw [update_self] at hf
      rw [hfields f hf] at howns
      cases howns
    · rw [update_of_ne hoo] at hf
      exact h.own hf howns
  · have hoo : o' ≠ o := by
      rintro rfl
      exact hne ho
    obtain ⟨f, hf, howns⟩ := h.owner hne
    exact ⟨f, by rwa [fields_setFields, update_of_ne hoo], howns⟩

/-- `construct` in an empty buffer. -/
lemma Consistent.construct (h : s.Consistent) (ho : s.buffer o = none) :
    (s.construct o false).2.Consistent := by
  refine ⟨h.owned.make ho, fun {o'} f hf howns => ?_, fun {o'} hne => ?_, h.logged⟩
  · rw [fields_construct] at hf
    rw [buffer_construct]
    by_cases hoo : o' = o
    · subst hoo
      rw [update_self] at hf ⊢
      obtain rfl := Option.some.inj hf
      exact ⟨rfl, by simp⟩
    · rw [update_of_ne hoo] at hf ⊢
      exact h.own hf howns
  · rw [buffer_construct] at hne
    rw [fields_construct]
    by_cases hoo : o' = o
    · subst hoo
      exact ⟨⟨some (.buffer o'), true⟩, update_self .., rfl⟩
    · rw [update_of_ne hoo] at hne ⊢
      exact h.owner hne

/-- Between two states no destructor was run but that of the object which a storage owned. -/
def DestroysOwned (s s' : Storages) (o : ℕ) : Prop :=
  s'.destructions = s.destructions ∨
    s.buffer o ≠ none ∧ s'.destructions = (o, .buffer o) :: s.destructions

/-- The destructor that a storage runs in its own buffer. -/
lemma Consistent.destroyAt (h : s.Consistent) (ho : s.buffer o ≠ none) :
    ∃ s', s.destroyAt o (.buffer o) = some s' ∧ s'.fields = s.fields ∧
      s'.buffer = update s.buffer o none ∧ Owned s'.lifetimes s'.buffer ∧
      s'.destructions = (o, .buffer o) :: s.destructions := by
  obtain ⟨native, hnative⟩ := Option.ne_none_iff_exists'.mp ho
  obtain ⟨lifetimes, hdestroy⟩ := Lifetimes.exists_destroy (h.owned.alive hnative)
  refine ⟨⟨lifetimes, s.fields, update s.buffer o none, (o, .buffer o) :: s.destructions⟩, ?_, rfl,
    rfl, h.owned.destroy hnative hdestroy, rfl⟩
  rw [Storages.destroyAt]
  simp only [Option.bind_eq_bind, Option.bind_some, hnative, hdestroy]

/-- `reset` destroys the object that is owned, if there is one, and clears the fields. -/
lemma Consistent.reset (h : s.Consistent) (ho : s.fields o ≠ none) :
    ∃ s', s.reset o = some s' ∧ s'.Consistent ∧ s'.fields = update s.fields o (some {}) ∧
      s'.buffer = update s.buffer o none ∧ s.DestroysOwned s' o := by
  obtain ⟨⟨native, owns⟩, hf⟩ := Option.ne_none_iff_exists'.mp ho
  cases owns with
  | false =>
    have hbuffer : s.buffer o = none := by
      refine h.buffer_eq_none fun f hf' => ?_
      obtain rfl := Option.some.inj (hf.symm.trans hf')
      rfl
    refine ⟨s.setFields o (some {}), ?_, h.setFields hbuffer (by rintro f ⟨⟩; rfl), rfl, ?_,
      .inl rfl⟩
    · rw [Storages.reset, hf]
      rfl
    · rw [buffer_setFields, ← hbuffer, update_eq_self]
  | true =>
    obtain ⟨hnative, hbuffer⟩ := h.own hf rfl
    obtain rfl : native = some (.buffer o) := hnative
    obtain ⟨s₁, hdestroy, hfields, hempty, howned, hlog⟩ := h.destroyAt hbuffer
    refine ⟨s₁.setFields o (some {}), ?_, ⟨howned, fun {o'} f hf' howns => ?_,
      fun {o'} hne => ?_, fun e he => ?_⟩, by rw [fields_setFields, hfields], hempty,
      .inr ⟨hbuffer, hlog⟩⟩
    · rw [Storages.reset, hf]
      simp only [Option.bind_eq_bind, Option.bind_some, hdestroy]
    · rw [fields_setFields, hfields] at hf'
      rw [buffer_setFields, hempty]
      by_cases hoo : o' = o
      · subst hoo
        rw [update_self] at hf'
        obtain rfl := Option.some.inj hf'
        cases howns
      · rw [update_of_ne hoo] at hf' ⊢
        exact h.own hf' howns
    · rw [buffer_setFields, hempty] at hne
      have hoo : o' ≠ o := by
        rintro rfl
        exact hne (update_self ..)
      rw [update_of_ne hoo] at hne
      rw [fields_setFields, hfields, update_of_ne hoo]
      exact h.owner hne
    · rcases List.mem_cons.mp (hlog ▸ he : e ∈ (o, .buffer o) :: s.destructions) with rfl | he
      · rfl
      · exact h.logged e he

/-- What a move does to the two storages: one that throws changes nothing and had an owned object
to relocate, any other leaves a source that owns nothing and refers to nothing. -/
structure Moved (s : Storages) (other : ℕ) (thrown : Bool) (s' : Storages) : Prop where
  consistent : s'.Consistent
  threw : thrown = true → s' = s ∧ ∃ f, s.fields other = some f ∧ f.owns = true
  source : thrown = false → s'.fields other = some {} ∧ s'.buffer other = none
  destroyed : s.DestroysOwned s' other

/-- `move_from` into a storage that owns nothing. -/
lemma Consistent.moveFrom (h : s.Consistent) (hne : o ≠ other) (ho : s.buffer o = none)
    (hother : s.fields other ≠ none) (throws : Bool) :
    ∃ thrown s', s.moveFrom o other throws = some (thrown, s') ∧ s.Moved other thrown s' := by
  obtain ⟨⟨native, owns⟩, hf⟩ := Option.ne_none_iff_exists'.mp hother
  cases owns with
  | false =>
    have hbuffer : s.buffer other = none := by
      refine h.buffer_eq_none fun f hf' => ?_
      obtain rfl := Option.some.inj (hf.symm.trans hf')
      rfl
    have hmiddle : (s.setFields o (some ⟨native, false⟩)).Consistent :=
      h.setFields ho (by rintro f ⟨⟩; rfl)
    refine ⟨false, (s.setFields o (some ⟨native, false⟩)).setFields other (some {}), ?_,
      hmiddle.setFields hbuffer (by rintro f ⟨⟩; rfl), by simp, fun _ => ⟨?_, hbuffer⟩, .inl rfl⟩
    · rw [Storages.moveFrom, hf]
      rfl
    · rw [fields_setFields, update_self]
  | true =>
    obtain ⟨hnative, hbuffer⟩ := h.own hf rfl
    obtain rfl : native = some (.buffer other) := hnative
    obtain ⟨id, hid⟩ := Option.ne_none_iff_exists'.mp hbuffer
    have hread : s.read (.buffer other) = some () := by rw [read, hid, Option.map_some]
    cases throws with
    | true =>
      refine ⟨true, s, ?_, h, fun _ => ⟨rfl, _, hf, rfl⟩, by simp, .inl rfl⟩
      rw [Storages.moveFrom, hf]
      simp only [Option.bind_eq_bind, Option.bind_some, hread, if_true, Storages.construct]
    | false =>
      have hstill : (s.construct o false).2.fields other ≠ none := by
        rw [fields_construct, update_of_ne hne.symm]
        exact hother
      obtain ⟨s', hreset, hconsistent, hfields, hempty, hdestroys⟩ := (h.construct ho).reset hstill
      refine ⟨false, s', ?_, hconsistent, by simp, fun _ => ⟨?_, ?_⟩,
        hdestroys.imp (fun hlog => hlog) fun hlog => ⟨hbuffer, hlog.2⟩⟩
      · rw [Storages.moveFrom, hf]
        simp only [Option.bind_eq_bind, Option.bind_some, hread, if_true]
        change (s.construct o false).2.reset other >>= _ = _
        rw [hreset]
        rfl
      · rw [hfields, update_self]
      · rw [hempty, update_self]

/-- A constructor that makes an object of its own. -/
lemma Consistent.constructNew (h : s.Consistent) (ho : s.fields o = none) (throws : Bool) :
    (finish o ((s.begin o).construct o throws)).2.Consistent := by
  have hbuffer : s.buffer o = none := h.buffer_eq_none (by simp [ho])
  have hbegin : (s.begin o).Consistent := h.setFields hbuffer (by rintro f ⟨⟩; rfl)
  cases throws with
  | true => exact hbegin.setFields hbuffer (by simp)
  | false => exact hbegin.construct hbuffer

lemma destructions_constructNew (s : Storages) (o : ℕ) (throws : Bool) :
    (finish o ((s.begin o).construct o throws)).2.destructions = s.destructions := by
  cases throws <;> rfl

end Storages

/-! ## Runs -/

namespace StorageOperation

open Storages

variable {s : Storages} {op : StorageOperation}

/-- What an operation guarantees: a destructor is run only on an object that the storage running it
owned before, a move leaves a source that owns nothing and refers to nothing, and a move assignment
that throws leaves the source with its object and a target that owns nothing. -/
def Guarantees (s : Storages) (op : StorageOperation) (thrown : Bool) (s' : Storages) : Prop :=
  (∀ e ∈ s'.destructions, e ∈ s.destructions ∨
    ∃ f, s.fields e.1 = some f ∧ f.owns = true ∧ f.native = some e.2) ∧
  (∀ o other throws,
    op = moveConstruct o other throws ∨ op = moveAssign o other throws ∧ o ≠ other →
    thrown = false → s'.fields other = some {} ∧ s'.buffer other = none) ∧
  ∀ o other throws, op = moveAssign o other throws → thrown = true →
    s'.fields other = s.fields other ∧ s'.buffer other = s.buffer other ∧
    (∃ f, s'.fields other = some f ∧ f.owns = true) ∧
    s'.fields o = some {} ∧ s'.buffer o = none

/-- The destructor that was run is that of an object which a storage owned. -/
lemma mem_destructions_of_destroysOwned {s s' : Storages} {o : ℕ} (h : s.Consistent)
    (hdestroys : s.DestroysOwned s' o) {e : ℕ × Address} (he : e ∈ s'.destructions) :
    e ∈ s.destructions ∨ ∃ f, s.fields e.1 = some f ∧ f.owns = true ∧ f.native = some e.2 := by
  rcases hdestroys with hlog | ⟨hbuffer, hlog⟩
  · exact .inl (hlog ▸ he)
  · rcases List.mem_cons.mp (hlog ▸ he : e ∈ (o, .buffer o) :: s.destructions) with rfl | he
    · obtain ⟨f, hf, howns⟩ := h.owner hbuffer
      exact .inr ⟨f, hf, howns, (h.own hf howns).1⟩
    · exact .inl he

/-- No operation is undefined, and each of them keeps the storages consistent. -/
lemma exists_perform (h : s.Consistent) (hop : op.Valid s) :
    ∃ thrown s', op.perform s = some (thrown, s') ∧ s'.Consistent ∧
      op.Guarantees s thrown s' := by
  cases op with
  | borrow o a =>
    have hbuffer : s.buffer o = none := h.buffer_eq_none (by simp [show s.fields o = none from hop])
    exact ⟨false, _, rfl, h.setFields hbuffer (by rintro f ⟨⟩; rfl), fun e he => .inl he, by simp,
      by simp⟩
  | fromOwned o throws =>
    exact ⟨_, _, rfl, h.constructNew hop throws,
      fun e he => .inl (destructions_constructNew s o throws ▸ he), by simp, by simp⟩
  | inPlace o throws =>
    exact ⟨_, _, rfl, h.constructNew hop throws,
      fun e he => .inl (destructions_constructNew s o throws ▸ he), by simp, by simp⟩
  | moveConstruct o other throws =>
    have hbuffer : s.buffer o = none := h.buffer_eq_none (by simp [hop.1])
    have hne : o ≠ other := by
      rintro rfl
      exact hop.2 hop.1
    have hbegin : (s.begin o).Consistent := h.setFields hbuffer (by rintro f ⟨⟩; rfl)
    have hother : (s.begin o).fields other ≠ none := by
      rw [begin, fields_setFields, update_of_ne hne.symm]
      exact hop.2
    obtain ⟨thrown, s', hmove, hmoved⟩ := hbegin.moveFrom hne hbuffer hother throws
    have hperform : (moveConstruct o other throws).perform s = some (finish o (thrown, s')) := by
      rw [perform, Storages.moveConstruct, hmove, Option.map_some]
    cases thrown with
    | true =>
      obtain ⟨rfl, -⟩ := hmoved.threw rfl
      exact ⟨true, _, hperform, hbegin.setFields hbuffer (by simp), fun e he => .inl he, by simp,
        by simp⟩
    | false =>
      refine ⟨false, s', hperform, hmoved.consistent, fun e he => ?_, ?_, by simp⟩
      · exact mem_destructions_of_destroysOwned h hmoved.destroyed he
      rintro o' other' throws' (heq | ⟨heq, -⟩) -
      · obtain ⟨rfl, rfl, rfl⟩ := StorageOperation.moveConstruct.inj heq
        exact hmoved.source rfl
      · cases heq
  | moveAssign o other throws =>
    by_cases hself : o = other
    · refine ⟨false, s, ?_, h, fun e he => .inl he, ?_, by simp⟩
      · rw [perform, Storages.moveAssign, if_pos hself]
      · rintro o' other' throws' (heq | ⟨heq, hne⟩) -
        · cases heq
        · obtain ⟨rfl, rfl, rfl⟩ := StorageOperation.moveAssign.inj heq
          exact absurd hself hne
    · obtain ⟨s₁, hreset, hconsistent, hfields, hempty, hdestroys⟩ := h.reset hop.1
      have hother : s₁.fields other = s.fields other := by
        rw [hfields, update_of_ne (Ne.symm hself)]
      obtain ⟨thrown, s', hmove, hmoved⟩ := hconsistent.moveFrom hself
        (by rw [hempty, update_self]) (by rw [hother]; exact hop.2) throws
      refine ⟨thrown, s', ?_, hmoved.consistent, fun e he => ?_, ?_, ?_⟩
      · rw [perform, Storages.moveAssign, if_neg hself, hreset]
        exact hmove
      · rcases mem_destructions_of_destroysOwned hconsistent hmoved.destroyed he with
          he | ⟨f, hf, howns, hnative⟩
        · exact mem_destructions_of_destroysOwned h hdestroys he
        · have hne : e.1 ≠ o := by
            intro heq
            rw [heq, hfields, update_self] at hf
            obtain rfl := Option.some.inj hf
            cases howns
          rw [hfields, update_of_ne hne] at hf
          exact .inr ⟨f, hf, howns, hnative⟩
      · rintro o' other' throws' (heq | ⟨heq, -⟩) hthrown
        · cases heq
        · obtain ⟨rfl, rfl, rfl⟩ := StorageOperation.moveAssign.inj heq
          exact hmoved.source hthrown
      · rintro o' other' throws' heq hthrown
        obtain ⟨rfl, rfl, rfl⟩ := StorageOperation.moveAssign.inj heq
        obtain ⟨rfl, f, hf, howns⟩ := hmoved.threw hthrown
        refine ⟨hother, ?_, ⟨f, hf, howns⟩, ?_, ?_⟩
        · rw [hempty, update_of_ne (Ne.symm hself)]
        · rw [hfields, update_self]
        · rw [hempty, update_self]
  | destruct o =>
    obtain ⟨s₁, hreset, hconsistent, hfields, hempty, hdestroys⟩ := h.reset hop
    refine ⟨false, s₁.setFields o none, ?_, hconsistent.setFields ?_ (by simp), fun e he => ?_,
      by simp, by simp⟩
    · rw [perform, Storages.destruct, hreset]
      rfl
    · rw [hempty, update_self]
    · exact mem_destructions_of_destroysOwned h hdestroys he

/-- The states that valid operations lead to, from a program without storages. -/
def Reachable (s : Storages) : Prop := Reaches (fun s op => op.Valid s) next {} s

lemma consistent_of_reachable (h : Reachable s) : s.Consistent := by
  refine Reaches.invariant consistent_new (fun s op s' hs hop hnext => ?_) h
  obtain ⟨thrown, s₁, hperform, hconsistent, -⟩ := exists_perform hs hop
  rw [next, hperform] at hnext
  exact Option.some.inj hnext ▸ hconsistent

/-- After any sequence of operations on any number of storages, the pointer of a storage that owns
is its own buffer, with a `Native` alive in it; every `Native` that was constructed in a storage is
in the buffer of the one storage that owns it or was destroyed once, and not both; and no storage
has destroyed anything but what was in its own buffer, so no outside object.  The next operation
uses and destroys only objects that are alive, and guarantees what `Guarantees` says. -/
theorem storage_ownership (h : Reachable s) :
    (∀ o f, s.fields o = some f → f.owns = true → f.native = some (.buffer o) ∧
      ∃ id, s.buffer o = some id ∧ s.lifetimes.Alive id) ∧
    (∀ id, id < s.lifetimes.made →
      ((∃! o, s.buffer o = some id) ∧
          (∀ o, s.buffer o = some id → ∃ f, s.fields o = some f ∧ f.owns = true) ∧
          s.lifetimes.destroyed.count id = 0 ∨
        (∀ o, s.buffer o ≠ some id) ∧ s.lifetimes.destroyed.count id = 1)) ∧
    (∀ o a, (o, a) ∈ s.destructions → a = .buffer o) ∧
    ∀ op : StorageOperation, op.Valid s → ∃ thrown s', op.perform s = some (thrown, s') ∧
      op.Guarantees s thrown s' := by
  have hconsistent := consistent_of_reachable h
  refine ⟨fun o f hf howns => ?_, fun id hid => ?_, fun o a he => hconsistent.logged _ he,
    fun op hop => ?_⟩
  · obtain ⟨hnative, hbuffer⟩ := hconsistent.own hf howns
    obtain ⟨id, hid⟩ := Option.ne_none_iff_exists'.mp hbuffer
    exact ⟨hnative, id, hid, hconsistent.owned.alive hid⟩
  · rcases hconsistent.owned.accounted hid with ⟨⟨o, ho⟩, hcount⟩ | hdestroyed
    · refine .inl ⟨⟨o, ho, fun o' ho' => hconsistent.owned.injective ho' ho⟩, fun o' ho' => ?_,
        hcount⟩
      exact hconsistent.owner (by rw [ho']; simp)
    · exact .inr hdestroyed
  · obtain ⟨thrown, s', hperform, -, hguarantees⟩ := exists_perform hconsistent hop
    exact ⟨thrown, s', hperform, hguarantees⟩

/-- A storage that owns, moved into one that borrows an outside object; the constructor throws. -/
theorem storage_ownership_throwing :
    ∃ s, Reachable s ∧ s.fields 0 = some ⟨some (.buffer 0), true⟩ ∧ s.fields 1 = some {} ∧
      ∀ o a, (o, a) ∈ s.destructions → a = .buffer o := by
  have hfirst : Reachable (({} : Storages).inPlace 0 false).2 :=
    .step (e := inPlace 0 false) .start rfl rfl
  have hsecond : Reachable ((({} : Storages).inPlace 0 false).2.borrow 1 (.outside 7)) :=
    .step (e := borrow 1 (.outside 7)) hfirst rfl rfl
  obtain ⟨s, hnext⟩ : ∃ s, next ((({} : Storages).inPlace 0 false).2.borrow 1 (.outside 7))
      (moveAssign 1 0 true) = some s := ⟨_, rfl⟩
  have hmove : Reachable s := .step (e := moveAssign 1 0 true) hsecond (by decide) hnext
  obtain rfl := Option.some.inj hnext
  exact ⟨_, hmove, rfl, rfl, (storage_ownership hmove).2.2.1⟩

/-- A storage that borrows the object in the buffer of another one: when that is destroyed, so is
the object that is borrowed. -/
theorem borrowed_destroyed :
    ∃ s, Reachable s ∧ s.fields 1 = some ⟨some (.buffer 0), false⟩ ∧
      s.destructions = [(0, .buffer 0)] ∧ s.lifetimes.destroyed = [0] := by
  have hfirst : Reachable (({} : Storages).inPlace 0 false).2 :=
    .step (e := inPlace 0 false) .start rfl rfl
  have hsecond : Reachable ((({} : Storages).inPlace 0 false).2.borrow 1 (.buffer 0)) :=
    .step (e := borrow 1 (.buffer 0)) hfirst rfl rfl
  obtain ⟨s, hnext⟩ : ∃ s, next ((({} : Storages).inPlace 0 false).2.borrow 1 (.buffer 0))
      (destruct 0) = some s := ⟨_, rfl⟩
  have hdestruct : Reachable s := .step (e := destruct 0) hsecond (by decide) hnext
  obtain rfl := Option.some.inj hnext
  exact ⟨_, hdestruct, rfl, rfl, rfl⟩

end StorageOperation

end Dynabridge.Storage
