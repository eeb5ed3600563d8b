import Dynabridge.Foundations.Ownership
import Dynabridge.Foundations.Runs

/-!
# Lifetimes in `optional`

An `optional<T>` whose `T` is not trivially destructible keeps a flag beside a union, and every
operation has to start and end the lifetime of the `T` in the union as the flag says.  The model
has any number of optionals; to use or to destroy a `T` that is not alive is undefined, and
every constructor and assignment of `T` may throw.
-/

namespace Dynabridge.Storage

open Ownership Runs Function

/-! ## Optionals -/

/-- The optionals of a program. -/
structure Optionals where
  lifetimes : Lifetimes := {}
  /-- `has_value_` of the optionals that there are -/
  flag : ℕ → Option Bool := fun _ => none
  /-- the `T` that was constructed in `payload_.value_` and not destroyed -/
  payload : ℕ → Option ℕ := fun _ => none

namespace Optionals

/-- `optional_storage_base::has_value` -/
def hasValue (s : Optionals) (o : ℕ) : Bool := s.flag o == some true

/-- `optional_storage_base::get`, where it refers to a `T` that is alive -/
def get (s : Optionals) (o : ℕ) : Option ℕ :=
  (s.payload o).filter fun value => decide (s.lifetimes.Alive value)

/-- `optional_storage_base()`: the payload is empty. -/
def storageBase (o : ℕ) (s : Optionals) : Optionals :=
  { s with flag := update s.flag o (some false), payload := update s.payload o none }

/-- `optional_storage_base::construct`, with whether the constructor of `T` throws. -/
def construct (o : ℕ) (throws : Bool) (s : Optionals) : Bool × Optionals :=
  if throws then (true, s)
  else
    (false,
      { lifetimes := s.lifetimes.make
        flag := update s.flag o (some true)
        payload := update s.payload o (some s.lifetimes.made) })

/-- `optional_storage_base::reset` -/
def reset (o : ℕ) (s : Optionals) : Option Optionals :=
  if s.hasValue o then do
    let value ← s.get o
    let lifetimes ← s.lifetimes.destroy value
    some
      { lifetimes := lifetimes
        flag := update s.flag o (some false)
        payload := update s.payload o none }
  else some s

/-- `~optional_storage_base`: then there is no such optional any more. -/
def destruct (o : ℕ) (s : Optionals) : Option Optionals := do
  let s ← s.reset o
  some { s with flag := update s.flag o none }

/-- `optional(in_place_t, ...)`: a constructor of `T` that throws leaves no optional. -/
def inPlaceConstruct (o : ℕ) (throws : Bool) (s : Optionals) : Bool × Optionals :=
  construct o throws s

/-- The constructor from another optional: its `T` is passed to the constructor of the new one;
if that throws, the base that is complete by then is destroyed. -/
def constructFrom (o other : ℕ) (throws : Bool) (s : Optionals) : Option (Bool × Optionals) :=
  let s := s.storageBase o
  if s.hasValue other then do
    let _ ← s.get other
    let (thrown, s) := s.construct o throws
    if thrown then do
      let s ← s.destruct o
      some (true, s)
    else some (false, s)
  else some (false, s)

/-- `optional_copy_construct_base(const optional_copy_construct_base&)` -/
def copyConstruct (o other : ℕ) (throws : Bool) (s : Optionals) : Option (Bool × Optionals) :=
  constructFrom o other throws s

/-- `optional_move_construct_base(optional_move_construct_base&&)`: the `T` of the other optional
stays alive. -/
def moveConstruct (o other : ℕ) (throws : Bool) (s : Optionals) : Option (Bool × Optionals) :=
  constructFrom o other throws s

/-- The assignment from another optional. -/
def assignFrom (o other : ℕ) (throws : Bool) (s : Optionals) : Option (Bool × Optionals) :=
  if o = other then some (false, s)
  else if s.hasValue o && s.hasValue other then do
    -- `T::operator=` uses both objects, and leaves them alive also if it throws
    let _ ← s.get o
    let _ ← s.get other
    some (throws, s)
  else if s.hasValue other then do
    let _ ← s.get other
    some (s.construct o throws)
  else do
    let s ← s.reset o
    some (false, s)

/-- `optional_copy_assign_base::operator=(const optional_copy_assign_base&)` -/
def copyAssign (o other : ℕ) (throws : Bool) (s : Optionals) : Option (Bool × Optionals) :=
  assignFrom o other throws s

/-- `optional_move_assign_base::operator=(optional_move_assign_base&&)` -/
def moveAssign (o other : ℕ) (throws : Bool) (s : Optionals) : Option (Bool × Optionals) :=
  assignFrom o other throws s

/-- `optional::emplace`, with an argument that is not part of the contents. -/
def emplace (o : ℕ) (throws : Bool) (s : Optionals) : Option (Bool × Optionals) := do
  let s ← s.reset o
  some (s.construct o throws)

end Optionals

/-! ## Operations -/

/-- The operations on optionals, each with whether the constructor or the assignment of `T` that
it runs throws. -/
inductive OptionalOperation
  | defaultConstruct (o : ℕ)
  | inPlaceConstruct (o : ℕ) (throws : Bool)
  | copyConstruct (o other : ℕ) (throws : Bool)
  | moveConstruct (o other : ℕ) (throws : Bool)
  | copyAssign (o other : ℕ) (throws : Bool)
  | moveAssign (o other : ℕ) (throws : Bool)
  | emplace (o : ℕ) (throws : Bool)
  | reset (o : ℕ)
  | destruct (o : ℕ)
  deriving DecidableEq, Repr

namespace OptionalOperation

/-- The optional that an operation is called on. -/
def target : OptionalOperation → ℕ
  | defaultConstruct o | inPlaceConstruct o _ | copyConstruct o _ _ | moveConstruct o _ _
  | copyAssign o _ _ | moveAssign o _ _ | emplace o _ | reset o | destruct o => o

/-- Constructors make an optional that is not there, the other operations work on those that
are. -/
def Valid (s : Optionals) : OptionalOperation → Prop
  | defaultConstruct o | inPlaceConstruct o _ => s.flag o = none
  | copyConstruct o other _ | moveConstruct o other _ =>
    s.flag o = none ∧ s.flag other ≠ none
  | copyAssign o other _ | moveAssign o other _ => s.flag o ≠ none ∧ s.flag other ≠ none
  | emplace o _ | reset o | destruct o => s.flag o ≠ none

instance (s : Optionals) : (op : OptionalOperation) → Decidable (op.Valid s)
  | defaultConstruct o | inPlaceConstruct o _ => inferInstanceAs (Decidable (s.flag o = none))
  | copyConstruct o other _ | moveConstruct o other _ =>
    inferInstanceAs (Decidable (s.flag o = none ∧ s.flag other ≠ none))
  | copyAssign o other _ | moveAssign o other _ =>
    inferInstanceAs (Decidable (s.flag o ≠ none ∧ s.flag other ≠ none))
  | emplace o _ | reset o | destruct o => inferInstanceAs (Decidable (s.flag o ≠ none))

/-- What an operation does and whether it throws, unless it is undefined. -/
def perform (s : Optionals) : OptionalOperation → Option (Bool × Optionals)
  | defaultConstruct o => some (false, s.storageBase o)
  | inPlaceConstruct o throws => some (s.inPlaceConstruct o throws)
  | copyConstruct o other throws => s.copyConstruct o other throws
  | moveConstruct o other throws => s.moveConstruct o other throws
  | copyAssign o other throws => s.copyAssign o other throws
  | moveAssign o other throws => s.moveAssign o other throws
  | emplace o throws => s.emplace o throws
  | reset o => (s.reset o).map (false, ·)
  | destruct o => (s.destruct o).map (false, ·)

/-- The state after an operation. -/
def next (s : Optionals) (op : OptionalOperation) : Option Optionals := (op.perform s).map Prod.snd

end OptionalOperation

/-! ## What the operations keep -/

namespace Optionals

variable {s : Optionals} {o : ℕ}

/-- The values alive are those in the payloads, and the flags tell which payloads have one. -/
structure Balanced (s : Optionals) : Prop where
  owned : Owned s.lifetimes s.payload
  engaged : ∀ o, s.hasValue o = (s.payload o).isSome

lemma balanced_new : ({} : Optionals).Balanced := ⟨Owned.empty, fun _ => rfl⟩

lemma hasValue_eq_true_iff : s.hasValue o = true ↔ s.flag o = some true := by
  rw [hasValue, beq_iff_eq]

/-- An engaged optional has a value that is alive. -/
lemma Balanced.exists_get (h : s.Balanced) (ho : s.hasValue o = true) :
    ∃ value, s.payload o = some value ∧ s.get o = some value := by
  obtain ⟨value, hvalue⟩ := Option.isSome_iff_exists.mp ((h.engaged o).symm.trans ho)
  refine ⟨value, hvalue, ?_⟩
  rw [get, hvalue]
  exact Option.filter_some_pos (decide_eq_true (h.owned.alive hvalue))

lemma Balanced.payload_eq_none (h : s.Balanced) (ho : s.flag o ≠ some true) :
    s.payload o = none := by
  rw [← Option.not_isSome_iff_eq_none, ← h.engaged o, hasValue_eq_true_iff]
  exact ho

/-- What every operation on an optional does besides its purpose: it keeps the balance, leaves
the other optionals as engaged as they were, and an empty one that it fails on stays empty. -/
structure Keeps (s : Optionals) (o : ℕ) (thrown : Bool) (s' : Optionals) : Prop where
  balanced : s'.Balanced
  others : ∀ o', o' ≠ o → s'.flag o' = s.flag o'
  empty : thrown = true → s.flag o ≠ some true → s'.flag o = s.flag o

/-- `construct` on an empty payload. -/
lemma Balanced.construct (h : s.Balanced) (ho : s.flag o ≠ some true) (throws : Bool) :
    s.Keeps o throws (s.construct o throws).2 ∧ (s.construct o throws).1 = throws := by
  cases throws with
  | true => exact ⟨⟨h, fun _ _ => rfl, fun _ _ => rfl⟩, rfl⟩
  | false =>
    refine ⟨⟨⟨h.owned.make (h.payload_eq_none ho), fun o' => ?_⟩, fun o' hne => ?_, by simp⟩, rfl⟩
    · by_cases hne : o' = o
      · subst hne
        simp [Optionals.construct, hasValue]
      · have hengaged := h.engaged o'
        simp only [hasValue] at hengaged
        simp [Optionals.construct, hasValue, update_of_ne hne, hengaged]
    · simp [Optionals.construct, update_of_ne hne]

/-- `reset` ends the lifetime of the value, if there is one. -/
lemma Balanced.reset (h : s.Balanced) (ho : s.flag o ≠ none) :
    ∃ s', s.reset o = some s' ∧ s'.Balanced ∧ s'.flag = update s.flag o (some false) := by
  by_cases hvalue : s.hasValue o = true
  · obtain ⟨value, hpayload, hget⟩ := h.exists_get hvalue
    obtain ⟨lifetimes, hdestroy⟩ := Lifetimes.exists_destroy (h.owned.alive hpayload)
    refine ⟨⟨lifetimes, update s.flag o (some false), update s.payload o none⟩, ?_, ⟨?_, ?_⟩, rfl⟩
    · rw [Optionals.reset, if_pos hvalue, hget]
      simp only [Option.bind_eq_bind, Option.bind_some, hdestroy]
    · exact h.owned.destroy hpayload hdestroy
    · intro o'
      by_cases hne : o' = o
      · subst hne
        simp [hasValue]
      · have hengaged := h.engaged o'
        simp only [hasValue] at hengaged
        simp [hasValue, update_of_ne hne, hengaged]
  · refine ⟨s, by rw [Optionals.reset, if_neg hvalue], h, ?_⟩
    rw [hasValue_eq_true_iff] at hvalue
    obtain ⟨b, hb⟩ := Option.ne_none_iff_exists'.mp ho
    cases b with
    | true => exact absurd hb hvalue
    | false => rw [← hb, update_eq_self]

/-- The destructor removes the optional with its value. -/
lemma Balanced.destruct (h : s.Balanced) (ho : s.flag o ≠ none) :
    ∃ s', s.destruct o = some s' ∧ s'.Balanced ∧ s'.flag = update s.flag o none := by
  obtain ⟨s', hreset, hbalanced, hflag⟩ := h.reset ho
  have hempty : s'.payload o = none :=
    hbalanced.payload_eq_none (by rw [hflag, update_self]; simp)
  refine ⟨{ s' with flag := update s'.flag o none }, ?_, ⟨hbalanced.owned, fun o' => ?_⟩, ?_⟩
  · rw [Optionals.destruct, hreset]
    rfl
  · by_cases hne : o' = o
    · subst hne
      simp [hasValue, hempty]
    · have hengaged := hbalanced.engaged o'
      simp only [hasValue] at hengaged
      simp [hasValue, update_of_ne hne, hengaged]
  · rw [hflag]
    exact update_idem ..

/-- The empty base of an optional that was not there before. -/
lemma Balanced.storageBase (h : s.Balanced) (ho : s.flag o = none) :
    (s.storageBase o).Balanced := by
  have hempty : s.payload o = none := h.payload_eq_none (by rw [ho]; simp)
  have hpayload : update s.payload o none = s.payload := by rw [← hempty, update_eq_self]
  refine ⟨?_, fun o' => ?_⟩
  · simp only [Optionals.storageBase, hpayload]
    exact h.owned
  · by_cases hne : o' = o
    · subst hne
      simp [Optionals.storageBase, hasValue]
    · have hengaged := h.engaged o'
      simp only [hasValue] at hengaged
      simp [Optionals.storageBase, hasValue, update_of_ne hne, hengaged]

/-- The constructor from another optional; one that throws destroys its empty base again. -/
lemma Balanced.constructFrom (h : s.Balanced) {other : ℕ} (ho : s.flag o = none)
    (hother : s.flag other ≠ none) (throws : Bool) :
    ∃ thrown s', s.constructFrom o other throws = some (thrown, s') ∧ s.Keeps o thrown s' := by
  have hbase := h.storageBase ho
  have hne : o ≠ other := by
    rintro rfl
    exact hother ho
  have hflags : ∀ o', o' ≠ o → (s.storageBase o).flag o' = s.flag o' :=
    fun o' hne' => update_of_ne hne' ..
  have hflag : (s.storageBase o).flag o = some false := update_self ..
  by_cases hvalue : (s.storageBase o).hasValue other = true
  · obtain ⟨value, -, hget⟩ := hbase.exists_get hvalue
    obtain ⟨hkeeps, hthrown⟩ := hbase.construct (o := o) (by rw [hflag]; simp) throws
    rcases hrun : (s.storageBase o).construct o throws with ⟨thrown, s₁⟩
    rw [hrun] at hkeeps hthrown
    dsimp only at hkeeps hthrown
    subst hthrown
    cases thrown with
    | false =>
      refine ⟨false, s₁, ?_, hkeeps.balanced, fun o' hne' => ?_, by simp⟩
      · rw [Optionals.constructFrom]
        simp only [if_pos hvalue, hget, hrun, Option.bind_eq_bind, Option.bind_some,
          Bool.false_eq_true, if_false]
      · rw [hkeeps.others o' hne', hflags o' hne']
    | true =>
      have hempty : s₁.flag o = some false :=
        (hkeeps.empty rfl (by rw [hflag]; simp)).trans hflag
      obtain ⟨s₂, hdestruct, hbalanced, hflag₂⟩ :=
        hkeeps.balanced.destruct (o := o) (by rw [hempty]; simp)
      refine ⟨true, s₂, ?_, hbalanced, fun o' hne' => ?_, fun _ _ => ?_⟩
      · rw [Optionals.constructFrom]
        simp only [if_pos hvalue, hget, hrun, hdestruct, Option.bind_eq_bind, Option.bind_some,
          if_true]
      · rw [hflag₂, update_of_ne hne', hkeeps.others o' hne', hflags o' hne']
      · rw [hflag₂, update_self, ho]
  · refine ⟨false, s.storageBase o, ?_, hbase, hflags, by simp⟩
    rw [Optionals.constructFrom]
    simp only [if_neg hvalue]

/-- The assignment from another optional, in all four combinations of engaged and empty. -/
lemma Balanced.assignFrom (h : s.Balanced) (other : ℕ) (ho : s.flag o ≠ none) (throws : Bool) :
    ∃ thrown s', s.assignFrom o other throws = some (thrown, s') ∧ s.Keeps o thrown s' := by
  rw [Optionals.assignFrom]
  by_cases hself : o = other
  · exact ⟨false, s, if_pos hself, h, fun _ _ => rfl, fun _ _ => rfl⟩
  rw [if_neg hself]
  by_cases hother : s.hasValue other = true
  · obtain ⟨value', -, hget'⟩ := h.exists_get hother
    by_cases hvalue : s.hasValue o = true
    · obtain ⟨value, -, hget⟩ := h.exists_get hvalue
      refine ⟨throws, s, ?_, h, fun _ _ => rfl, fun _ _ => rfl⟩
      simp only [hvalue, hother, Bool.and_self, if_true, hget, hget', Option.bind_eq_bind,
        Option.bind_some]
    · obtain ⟨hkeeps, hthrown⟩ := h.construct (mt hasValue_eq_true_iff.mpr hvalue) throws
      refine ⟨throws, (s.construct o throws).2, ?_, hkeeps⟩
      simp only [hvalue, hother, Bool.false_and, Bool.false_eq_true, if_false, if_true, hget',
        Option.bind_eq_bind, Option.bind_some]
      exact congrArg some (Prod.ext hthrown rfl)
  · obtain ⟨s', hreset, hbalanced, hflag⟩ := h.reset ho
    refine ⟨false, s', ?_, hbalanced, fun o' hne => ?_, by simp⟩
    · simp only [hother, Bool.and_false, Bool.false_eq_true, if_false, hreset,
        Option.bind_eq_bind, Option.bind_some]
    · rw [hflag, update_of_ne hne]

/-- `emplace` leaves the optional empty if the constructor throws, whatever it held before. -/
lemma Balanced.emplace (h : s.Balanced) (ho : s.flag o ≠ none) (throws : Bool) :
    ∃ s', s.emplace o throws = some (throws, s') ∧ s'.Balanced ∧
      (∀ o', o' ≠ o → s'.flag o' = s.flag o') ∧ (throws = true → s'.flag o = some false) := by
  obtain ⟨s₁, hreset, hbalanced, hflag⟩ := h.reset ho
  have hempty : s₁.flag o = some false := by rw [hflag, update_self]
  have hnot : s₁.flag o ≠ some true := by
    rw [hempty]
    simp
  obtain ⟨hkeeps, hthrown⟩ := hbalanced.construct hnot throws
  refine ⟨(s₁.construct o throws).2, ?_, hkeeps.balanced, fun o' hne => ?_, fun hthrows => ?_⟩
  · rw [Optionals.emplace, hreset]
    exact congrArg some (Prod.ext hthrown rfl)
  · rw [hkeeps.others o' hne, hflag, update_of_ne hne]
  · rw [hkeeps.empty hthrows hnot, hempty]

end Optionals

/-! ## Runs -/

namespace OptionalOperation

open Optionals

variable {s s' : Optionals} {op : OptionalOperation} {thrown : Bool}

/-- No operation is undefined, and each of them keeps the balance. -/
lemma exists_perform (h : s.Balanced) (hop : op.Valid s) :
    ∃ thrown s', op.perform s = some (thrown, s') ∧ s.Keeps op.target thrown s' ∧
      ∀ o throws, op = emplace o throws → thrown = true → s'.flag o = some false := by
  cases op with
  | defaultConstruct o =>
    refine ⟨false, s.storageBase o, rfl, ⟨h.storageBase hop, fun o' hne => ?_, by simp⟩, by simp⟩
    exact update_of_ne hne ..
  | inPlaceConstruct o throws =>
    have hnot : s.flag o ≠ some true := by
      rw [show s.flag o = none from hop]
      simp
    obtain ⟨hkeeps, hthrown⟩ := h.construct hnot throws
    exact ⟨throws, (construct o throws s).2, congrArg some (Prod.ext hthrown rfl), hkeeps,
      by simp⟩
  | copyConstruct o other throws =>
    obtain ⟨thrown, s', hperform, hkeeps⟩ := h.constructFrom hop.1 hop.2 throws
    exact ⟨thrown, s', hperform, hkeeps, by simp⟩
  | moveConstruct o other throws =>
    obtain ⟨thrown, s', hperform, hkeeps⟩ := h.constructFrom hop.1 hop.2 throws
    exact ⟨thrown, s', hperform, hkeeps, by simp⟩
  | copyAssign o other throws =>
    obtain ⟨thrown, s', hperform, hkeeps⟩ := h.assignFrom other hop.1 throws
    exact ⟨thrown, s', hperform, hkeeps, by simp⟩
  | moveAssign o other throws =>
    obtain ⟨thrown, s', hperform, hkeeps⟩ := h.assignFrom other hop.1 throws
    exact ⟨thrown, s', hperform, hkeeps, by simp⟩
  | emplace o throws =>
    obtain ⟨s', hperform, hbalanced, hothers, hempty⟩ := h.emplace hop throws
    refine ⟨throws, s', hperform, ⟨hbalanced, hothers, fun hthrows hnot => ?_⟩, ?_⟩
    · obtain ⟨b, hb⟩ := Option.ne_none_iff_exists'.mp hop
      cases b with
      | true => exact absurd hb hnot
      | false => exact (hempty hthrows).trans hb.symm
    · intro o' throws' heq hthrows
      obtain ⟨rfl, -⟩ := OptionalOperation.emplace.inj heq
      exact hempty hthrows
  | reset o =>
    obtain ⟨s', hreset, hbalanced, hflag⟩ := h.reset hop
    refine ⟨false, s', ?_, ⟨hbalanced, fun o' hne => ?_, by simp⟩, by simp⟩
    · rw [perform, hreset]
      rfl
    · exact (congrFun hflag o').trans (update_of_ne hne ..)
  | destruct o =>
    obtain ⟨s', hdestruct, hbalanced, hflag⟩ := h.destruct hop
    refine ⟨false, s', ?_, ⟨hbalanced, fun o' hne => ?_, by simp⟩, by simp⟩
    · rw [perform, hdestruct]
      rfl
    · exact (congrFun hflag o').trans (update_of_ne hne ..)

/-- The states that valid operations lead to, from a program without optionals. -/
def Reachable (s : Optionals) : Prop := Reaches (fun s op => op.Valid s) next {} s

lemma balanced_of_reachable (h : Reachable s) : s.Balanced := by
  refine Reaches.invariant balanced_new (fun s op s' hs hop hnext => ?_) h
  obtain ⟨thrown, s₁, hperform, hkeeps, -⟩ := exists_perform hs hop
  rw [next, hperform] at hnext
  exact Option.some.inj hnext ▸ hkeeps.balanced

/-- After any sequence of operations on any number of optionals, a `T` is alive in a payload
exactly when the optional has a value, and every `T` that was constructed is in one payload or was
destroyed once, and not both.  The next operation uses and destroys only objects that are alive;
it leaves the engagement of every other optional as it was; and if it throws, a target that was
empty before stays empty, an optional that was to be constructed is not there, and `emplace`
leaves its target empty. -/
theorem optional_balance (h : Reachable s) :
    (∀ o, s.flag o = some true ↔ ∃ value, s.payload o = some value ∧ s.lifetimes.Alive value) ∧
    (∀ value, value < s.lifetimes.made →
      ((∃! o, s.payload o = some value) ∧ s.lifetimes.destroyed.count value = 0 ∨
        (∀ o, s.payload o ≠ some value) ∧ s.lifetimes.destroyed.count value = 1)) ∧
    ∀ op : OptionalOperation, op.Valid s → ∃ thrown s', op.perform s = some (thrown, s') ∧
      (∀ o, o ≠ op.target → s'.flag o = s.flag o) ∧
      (thrown = true →
        (s.flag op.target ≠ some true → s'.flag op.target = s.flag op.target) ∧
        ∀ o throws, op = emplace o throws → s'.flag o = some false) := by
  have hbalanced := balanced_of_reachable h
  refine ⟨fun o => ?_, fun value hvalue => ?_, fun op hop => ?_⟩
  · rw [← hasValue_eq_true_iff, hbalanced.engaged o, Option.isSome_iff_exists]
    constructor
    · rintro ⟨value, hpayload⟩
      exact ⟨value, hpayload, hbalanced.owned.alive hpayload⟩
    · rintro ⟨value, hpayload, -⟩
      exact ⟨value, hpayload⟩
  · rcases hbalanced.owned.accounted hvalue with ⟨⟨o, ho⟩, hcount⟩ | hdestroyed
    · exact .inl ⟨⟨o, ho, fun o' ho' => hbalanced.owned.injective ho' ho⟩, hcount⟩
    · exact .inr hdestroyed
  · obtain ⟨thrown, s', hperform, hkeeps, hemplace⟩ := exists_perform hbalanced hop
    exact ⟨thrown, s', hperform, hkeeps.others, fun hthrown =>
      ⟨hkeeps.empty hthrown, fun o throws heq => hemplace o throws heq hthrown⟩⟩

/-- An engaged optional, an empty one that fails to copy it, and the first one emplaced with a
constructor that throws. -/
theorem optional_balance_throwing :
    ∃ s, Reachable s ∧ s.flag 0 = some false ∧ s.flag 1 = some false ∧ s.lifetimes.made = 1 ∧
      ∀ value, value < s.lifetimes.made →
        ((∃! o, s.payload o = some value) ∧ s.lifetimes.destroyed.count value = 0 ∨
          (∀ o, s.payload o ≠ some value) ∧ s.lifetimes.destroyed.count value = 1) := by
  have hfirst : Reachable (({} : Optionals).inPlaceConstruct 0 false).2 :=
    .step (e := inPlaceConstruct 0 false) .start rfl rfl
  have hsecond : Reachable ((({} : Optionals).inPlaceConstruct 0 false).2.storageBase 1) :=
    .step (e := defaultConstruct 1) hfirst rfl rfl
  have hcopy : Reachable ((({} : Optionals).inPlaceConstruct 0 false).2.storageBase 1) :=
    .step (e := copyAssign 1 0 true) hsecond (by decide) rfl
  obtain ⟨s, hnext⟩ : ∃ s, next ((({} : Optionals).inPlaceConstruct 0 false).2.storageBase 1)
      (emplace 0 true) = some s := ⟨_, rfl⟩
  have hemplace : Reachable s := .step (e := emplace 0 true) hcopy (by decide) hnext
  obtain rfl := Option.some.inj hnext
  exact ⟨_, hemplace, rfl, rfl, rfl, (optional_balance hemplace).2.1⟩

end OptionalOperation

end Dynabridge.Storage
