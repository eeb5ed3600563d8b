import Dynabridge.Foundations.CountedHeap
import Dynabridge.Foundations.Runs

/-!
# `object_ref` and the reference counts

`object_ref` owns a reference to a Python object or is empty.  Its operations are followed on a
heap of counted objects, beside the references that other code holds.  Giving up the last
reference to an object frees it, and the objects that only it kept alive with it; code that a
finalizer runs is not followed.

The counts agree with the references after every operation.  `reset` gives up the old object
before it takes its reference to a borrowed one, though, and is wrong exactly when that frees
the borrowed object.
-/

namespace Dynabridge.Python

open Ledger CountedHeap Runs

/-- `ref_policy` -/
inductive RefPolicy
  | borrowed
  | owned
  deriving DecidableEq, Repr

/-- The objects, the references that other code holds to them, and `object_` of every
`object_ref` that exists; null is `none`. -/
structure RefWorld where
  heap : Heap
  external : List ℕ
  refs : List (Option ℕ)
  deriving DecidableEq, Repr

namespace RefWorld

/-- The references that the `object_ref`s hold. -/
def held (w : RefWorld) : List ℕ := w.refs.flatMap Option.toList

/-- `object_` of an `object_ref` -/
def object (i : ℕ) (w : RefWorld) : Option ℕ := w.refs[i]?.join

/-- `object_ = object` -/
def setObject (i : ℕ) (object : Option ℕ) (w : RefWorld) : RefWorld :=
  { w with refs := w.refs.set i object }

/-- `Py_XINCREF` -/
def xincref (object : Option ℕ) (w : RefWorld) : RefWorld :=
  match object with
  | none => w
  | some x => { w with heap := retain x w.heap }

/-- `Py_XDECREF`, with the objects it frees. -/
def xdecref (object : Option ℕ) (w : RefWorld) : RefWorld × List ℕ :=
  let released := CountedHeap.release object.toList w.heap
  ({ w with heap := released.1 }, released.2)

/-- The reference that `object_` needs: a borrowed pointer does not bring one. -/
def adopt (object : Option ℕ) (policy : RefPolicy) (w : RefWorld) : RefWorld :=
  match policy with
  | .borrowed => w.xincref object
  | .owned => w

/-! ## The operations of `object_ref` -/

/-- `object_ref(object, policy)` -/
def construct (object : Option ℕ) (policy : RefPolicy) (w : RefWorld) : RefWorld × List ℕ :=
  ({ w.adopt object policy with refs := w.refs ++ [object] }, [])

/-- `object_ref(object_ref&& other)` -/
def moveConstruct (other : ℕ) (w : RefWorld) : RefWorld × List ℕ :=
  let emptied := w.setObject other none
  ({ emptied with refs := emptied.refs ++ [w.object other] }, [])

/-- `reset` -/
def reset (i : ℕ) (object : Option ℕ) (policy : RefPolicy) (w : RefWorld) :
    RefWorld × List ℕ :=
  let dropped := w.xdecref (w.object i)
  ((dropped.1.setObject i object).adopt object policy, dropped.2)

/-- `operator=(object_ref&& other)` -/
def moveAssign (i other : ℕ) (w : RefWorld) : RefWorld × List ℕ :=
  if i = other then (w, [])
  else (w.setObject other none).reset i (w.object other) .owned

/-- `release`: the reference passes to the caller. -/
def release (i : ℕ) (w : RefWorld) : RefWorld × List ℕ :=
  ({ w.setObject i none with external := (w.object i).toList ++ w.external }, [])

/-- `~object_ref` -/
def destroy (i : ℕ) (w : RefWorld) : RefWorld × List ℕ :=
  let dropped := w.xdecref (w.object i)
  ({ dropped.1 with refs := dropped.1.refs.eraseIdx i }, dropped.2)

/-- `context_t::set_callable`; `callable` is the `object_ref` of the context. -/
def setCallable (callable : ℕ) (object : Option ℕ) (policy : RefPolicy) (w : RefWorld) :
    RefWorld × List ℕ :=
  w.reset callable object policy

/-- The caller hands a pointer over; one that is owned brings a reference of the caller's. -/
def hand (object : Option ℕ) (policy : RefPolicy) (w : RefWorld) : RefWorld :=
  match policy with
  | .borrowed => w
  | .owned => { w with external := w.external.diff object.toList }

end RefWorld

/-- The operations on `object_ref`s, which are named by their position, and what other code does
in between: it takes a reference to an object or gives one up. -/
inductive RefOperation
  | construct (object : Option ℕ) (policy : RefPolicy)
  | moveConstruct (other : ℕ)
  | moveAssign (i other : ℕ)
  | reset (i : ℕ) (object : Option ℕ) (policy : RefPolicy)
  | setCallable (callable : ℕ) (object : Option ℕ) (policy : RefPolicy)
  | release (i : ℕ)
  | destroy (i : ℕ)
  | take (x : ℕ)
  | drop (x : ℕ)
  deriving DecidableEq, Repr

namespace RefOperation

/-- What an operation makes of the world, and the objects whose count it lets reach zero. -/
def perform : RefOperation → RefWorld → RefWorld × List ℕ
  | construct object policy, w => (w.hand object policy).construct object policy
  | moveConstruct other, w => w.moveConstruct other
  | moveAssign i other, w => w.moveAssign i other
  | reset i object policy, w => (w.hand object policy).reset i object policy
  | setCallable callable object policy, w =>
    (w.hand object policy).setCallable callable object policy
  | release i, w => w.release i
  | destroy i, w => w.destroy i
  | take x, w => ({ w.xincref (some x) with external := x :: w.external }, [])
  | drop x, w => { w with external := w.external.erase x }.xdecref (some x)

/-- A pointer may be passed on: a borrowed one points to an object that is alive, an owned one
comes with a reference that the caller holds. -/
def Passable (object : Option ℕ) (policy : RefPolicy) (w : RefWorld) : Prop :=
  ∀ x, object = some x →
    match policy with
    | .borrowed => 0 < count w.heap x
    | .owned => x ∈ w.external

/-- The operation is one that the program can make. -/
def Permitted (w : RefWorld) : RefOperation → Prop
  | construct object policy => Passable object policy w
  | moveConstruct other => other < w.refs.length
  | moveAssign i other => i < w.refs.length ∧ other < w.refs.length
  | reset i object policy | setCallable i object policy =>
    i < w.refs.length ∧ Passable object policy w
  | release i | destroy i => i < w.refs.length
  | take x => 0 < count w.heap x
  | drop x => x ∈ w.external

/-- A borrowed object that a handle is set to survives that the handle gives up what it holds. -/
def Survives (w : RefWorld) : RefOperation → Prop
  | reset i object policy | setCallable i object policy =>
    policy = .borrowed → ∀ x, object = some x →
      x ∉ (CountedHeap.release (w.object i).toList w.heap).2
  | _ => True

end RefOperation

/-! ## The ledger -/

namespace RefWorld

/-- The reference count of every object is the number of references to it: those of other
objects, those of other code and those of the `object_ref`s. -/
def Balanced (w : RefWorld) : Prop :=
  ∀ x, (count w.heap x : ℤ) = tally (internal w.heap) x + tally w.external x + tally w.held x

/-- The references between objects, those of other code and those of the `object_ref`s account
for the counts together with references that are on their way from one owner to the next. -/
def Accounts (moving : List ℕ) (w : RefWorld) : Prop :=
  outer w.heap = tally w.external + tally w.held + tally moving

lemma balanced_iff_accounts {w : RefWorld} : w.Balanced ↔ w.Accounts [] := by
  unfold Balanced Accounts
  rw [funext_iff]
  refine forall_congr' fun x => ?_
  rw [outer, tally_nil, add_zero, Pi.add_apply]
  constructor
  · intro h
    omega
  · intro h
    omega

variable {w : RefWorld} {moving : List ℕ} {i : ℕ}

@[simp] lemma refs_xincref (object : Option ℕ) : (w.xincref object).refs = w.refs := by
  cases object <;> rfl

@[simp] lemma external_xincref (object : Option ℕ) :
    (w.xincref object).external = w.external := by
  cases object <;> rfl

@[simp] lemma refs_adopt (object : Option ℕ) (policy : RefPolicy) :
    (w.adopt object policy).refs = w.refs := by
  cases policy <;> simp [adopt]

@[simp] lemma external_adopt (object : Option ℕ) (policy : RefPolicy) :
    (w.adopt object policy).external = w.external := by
  cases policy <;> simp [adopt]

/-- Setting a handle exchanges the reference it holds. -/
lemma tally_held_setObject (hi : i < w.refs.length) (object : Option ℕ) :
    tally (w.setObject i object).held + tally (w.object i).toList =
      tally w.held + tally object.toList := by
  have hget : w.refs[i]? = some w.refs[i] := List.getElem?_eq_getElem hi
  have hobject : w.object i = w.refs[i] := by
    rw [RefWorld.object, hget]
    rfl
  rw [hobject]
  exact tally_flatMap_set Option.toList hget object

/-- What a handle holds is accounted for. -/
lemma Accounts.covers (h : w.Accounts moving) (i : ℕ) :
    tally (w.object i).toList ≤ outer w.heap := by
  have hexternal := tally_nonneg w.external
  have hmoving := tally_nonneg moving
  have hheld : tally (w.object i).toList ≤ tally w.held := by
    by_cases hi : i < w.refs.length
    · have hset := tally_held_setObject hi none
      have hrest := tally_nonneg (w.setObject i none).held
      rw [Option.toList_none, tally_nil, add_zero] at hset
      rw [← hset]
      exact le_add_of_nonneg_left hrest
    · rw [RefWorld.object, List.getElem?_eq_none (Nat.le_of_not_lt hi)]
      exact tally_nonneg w.held
  rw [h]
  exact hheld.trans ((le_add_of_nonneg_left hexternal).trans (le_add_of_nonneg_right hmoving))

/-- A reference that is given up leaves the account. -/
lemma outer_xdecref {object : Option ℕ} (h : tally object.toList ≤ outer w.heap) :
    outer (w.xdecref object).1.heap = outer w.heap - tally object.toList := outer_release h

/-- A reference that is taken enters the account. -/
lemma outer_xincref {object : Option ℕ} (h : ∀ x, object = some x → x < w.heap.length) :
    outer (w.xincref object).heap = outer w.heap + tally object.toList := by
  cases object with
  | none => simp [xincref]
  | some x =>
    have hx := h x rfl
    simpa [xincref] using outer_retain hx

/-- The reference that comes with a pointer. -/
def carried (object : Option ℕ) : RefPolicy → List ℕ
  | .borrowed => []
  | .owned => object.toList

/-- Adopting a pointer completes the reference it needs. -/
lemma outer_adopt {object : Option ℕ} {policy : RefPolicy}
    (h : policy = .borrowed → ∀ x, object = some x → x < w.heap.length) :
    outer (w.adopt object policy).heap + tally (carried object policy) =
      outer w.heap + tally object.toList := by
  cases policy with
  | borrowed =>
    rw [adopt, outer_xincref (h rfl), carried, tally_nil, add_zero]
  | owned => rw [adopt, carried]

/-- A handle that is constructed from a pointer balances the counts. -/
lemma balanced_construct {object : Option ℕ} {policy : RefPolicy}
    (h : w.Accounts (carried object policy))
    (hexists : policy = .borrowed → ∀ x, object = some x → x < w.heap.length) :
    (w.construct object policy).1.Balanced := by
  have hadopt := outer_adopt hexists
  have hheld : tally (w.construct object policy).1.held =
      tally w.held + tally object.toList := by
    simp [construct, held]
  unfold Accounts at h
  rw [balanced_iff_accounts, Accounts, hheld, tally_nil, add_zero]
  simp only [construct, external_adopt]
  linear_combination hadopt + h

/-- A handle that is reset to a pointer balances the counts: the reference to the old object is
given up, and the one to the new object is adopted. -/
lemma balanced_reset {object : Option ℕ} {policy : RefPolicy}
    (h : w.Accounts (carried object policy)) (hi : i < w.refs.length)
    (hexists : policy = .borrowed → ∀ x, object = some x → x < w.heap.length) :
    (w.reset i object policy).1.Balanced := by
  have hdropped := outer_xdecref (h.covers i)
  have hadopt : outer (((w.xdecref (w.object i)).1.setObject i object).adopt object policy).heap +
      tally (carried object policy) =
        outer (w.xdecref (w.object i)).1.heap + tally object.toList := by
    refine outer_adopt fun hp x hx => ?_
    have hlength : (w.xdecref (w.object i)).1.heap.length = w.heap.length := length_release _ _
    exact (hexists hp x hx).trans_eq hlength.symm
  have hheld : tally (w.reset i object policy).1.held + tally (w.object i).toList =
      tally w.held + tally object.toList := by
    have hset := tally_held_setObject hi object
    have hrefs : (w.reset i object policy).1.held = (w.setObject i object).held := by
      simp [reset, held, setObject, xdecref]
    rw [hrefs, hset]
  have hexternal : (w.reset i object policy).1.external = w.external := by
    simp [reset, setObject, xdecref]
  unfold Accounts at h
  rw [balanced_iff_accounts, Accounts, hexternal, tally_nil, add_zero]
  change outer (((w.xdecref (w.object i)).1.setObject i object).adopt object policy).heap = _
  linear_combination hadopt + hdropped + h - hheld

/-- Emptying a handle puts its reference on its way. -/
lemma Accounts.setObject_none (h : w.Accounts []) (hi : i < w.refs.length) :
    (w.setObject i none).Accounts (w.object i).toList := by
  have hset := tally_held_setObject hi none
  rw [Option.toList_none, tally_nil, add_zero] at hset
  unfold Accounts at h ⊢
  rw [tally_nil, add_zero] at h
  change outer w.heap = tally w.external + tally (w.setObject i none).held + _
  linear_combination h - hset

/-- The reference of a moved handle is that of the new one. -/
lemma balanced_moveConstruct {other : ℕ} (h : w.Balanced) (hi : other < w.refs.length) :
    (w.moveConstruct other).1.Balanced := by
  have hempty := (balanced_iff_accounts.mp h).setObject_none hi
  have hheld : tally (w.moveConstruct other).1.held =
      tally (w.setObject other none).held + tally (w.object other).toList := by
    simp [moveConstruct, held]
  unfold Accounts at hempty
  rw [balanced_iff_accounts, Accounts, hheld, tally_nil, add_zero]
  change outer (w.setObject other none).heap = tally (w.setObject other none).external + _
  linear_combination hempty

/-- A move assignment gives up one reference and moves another. -/
lemma balanced_moveAssign {other : ℕ} (h : w.Balanced) (hi : i < w.refs.length)
    (hother : other < w.refs.length) : (w.moveAssign i other).1.Balanced := by
  unfold moveAssign
  split
  · exact h
  · refine balanced_reset ((balanced_iff_accounts.mp h).setObject_none hother) ?_ (by simp)
    rwa [setObject, List.length_set]

/-- A released reference belongs to the caller. -/
lemma balanced_release (h : w.Balanced) (hi : i < w.refs.length) :
    (w.release i).1.Balanced := by
  have hempty := (balanced_iff_accounts.mp h).setObject_none hi
  unfold Accounts at hempty
  rw [balanced_iff_accounts, Accounts, tally_nil, add_zero]
  change outer (w.setObject i none).heap =
    tally ((w.object i).toList ++ w.external) + tally (w.setObject i none).held
  have hexternal : (w.setObject i none).external = w.external := rfl
  rw [hexternal] at hempty
  rw [tally_append]
  linear_combination hempty

/-- A handle that is destroyed gives up its reference. -/
lemma balanced_destroy (h : w.Balanced) (hi : i < w.refs.length) :
    (w.destroy i).1.Balanced := by
  have haccounts := balanced_iff_accounts.mp h
  have hdropped := outer_xdecref (haccounts.covers i)
  have hheld : tally w.held =
      tally (w.object i).toList + tally (w.refs.eraseIdx i |>.flatMap Option.toList) := by
    have hobject : w.object i = w.refs[i] := by
      rw [RefWorld.object, List.getElem?_eq_getElem hi]
      rfl
    rw [hobject]
    exact tally_flatMap_eraseIdx Option.toList hi
  unfold Accounts at haccounts
  rw [tally_nil, add_zero] at haccounts
  rw [balanced_iff_accounts, Accounts, tally_nil, add_zero]
  change outer (w.xdecref (w.object i)).1.heap =
    tally w.external + tally (w.refs.eraseIdx i |>.flatMap Option.toList)
  linear_combination hdropped + haccounts + hheld

end RefWorld

namespace RefOperation

open RefWorld

variable {w : RefWorld}

/-- A pointer that may be passed brings its reference out of the caller's hands. -/
lemma accounts_hand {object : Option ℕ} {policy : RefPolicy} (h : w.Balanced)
    (hobject : Passable object policy w) :
    (w.hand object policy).Accounts (carried object policy) := by
  have haccounts := balanced_iff_accounts.mp h
  cases policy with
  | borrowed => exact haccounts
  | owned =>
    cases object with
    | none => simpa [hand, carried] using haccounts
    | some x =>
      have herase := tally_erase (hobject x rfl)
      unfold Accounts at haccounts ⊢
      rw [tally_nil, add_zero] at haccounts
      simp only [hand, carried, Option.toList_some, List.diff_cons, List.diff_nil, tally_cons,
        tally_nil, add_zero, herase, haccounts]
      change _ = tally w.external - Pi.single x 1 + tally w.held + Pi.single x 1
      abel

/-- A borrowed pointer that may be passed points to an object of the heap. -/
lemma Passable.exists {object : Option ℕ} {policy : RefPolicy} (h : Passable object policy w) :
    policy = .borrowed → ∀ x, object = some x → x < (w.hand object policy).heap.length := by
  rintro rfl x rfl
  exact lt_length_of_count_pos (h x rfl)

lemma refs_hand (object : Option ℕ) (policy : RefPolicy) :
    (w.hand object policy).refs = w.refs := by
  cases policy <;> rfl

/-- Every operation keeps the counts in balance. -/
theorem balanced_perform {op : RefOperation} (h : w.Balanced) (hop : op.Permitted w) :
    (op.perform w).1.Balanced := by
  cases op with
  | construct object policy =>
    exact balanced_construct (accounts_hand h hop) (Passable.exists hop)
  | moveConstruct other => exact balanced_moveConstruct h hop
  | moveAssign i other => exact balanced_moveAssign h hop.1 hop.2
  | reset i object policy =>
    have hi : i < (w.hand object policy).refs.length := by
      rw [refs_hand]
      exact hop.1
    exact balanced_reset (accounts_hand h hop.2) hi (Passable.exists hop.2)
  | setCallable i object policy =>
    have hi : i < (w.hand object policy).refs.length := by
      rw [refs_hand]
      exact hop.1
    exact balanced_reset (accounts_hand h hop.2) hi (Passable.exists hop.2)
  | release i => exact balanced_release h hop
  | destroy i => exact balanced_destroy h hop
  | take x =>
    have haccounts := balanced_iff_accounts.mp h
    have htaken : outer (retain x w.heap) = outer w.heap + Pi.single x 1 :=
      outer_retain (lt_length_of_count_pos hop)
    unfold Accounts at haccounts
    rw [balanced_iff_accounts, Accounts]
    change outer (retain x w.heap) = tally (x :: w.external) + tally w.held + tally []
    rw [tally_cons]
    linear_combination htaken + haccounts
  | drop x =>
    have haccounts := balanced_iff_accounts.mp h
    have herase := tally_erase (show x ∈ w.external from hop)
    unfold Accounts at haccounts
    have hcovered : tally (some x).toList ≤ outer w.heap := by
      have hrest := tally_nonneg (w.external.erase x)
      have hheld := tally_nonneg w.held
      rw [herase] at hrest
      rw [haccounts, Option.toList_some, tally_cons, tally_nil, add_zero, add_zero]
      intro y
      have hy := hrest y
      have hy' := hheld y
      simp only [Pi.zero_apply, Pi.sub_apply, Pi.add_apply] at hy hy' ⊢
      omega
    have hdropped := outer_release hcovered
    rw [balanced_iff_accounts, Accounts]
    change outer (CountedHeap.release (some x).toList w.heap).1 =
      tally (w.external.erase x) + tally w.held + tally []
    rw [hdropped, herase, haccounts, Option.toList_some, tally_cons, tally_nil]
    abel

/-! ## No handle to a freed object -/

/-- The operation keeps the counts in balance, and lets the count of no object reach zero that a
handle holds in the end. -/
def Sound (w : RefWorld) (op : RefOperation) : Prop :=
  (op.perform w).1.Balanced ∧ ∀ x ∈ (op.perform w).2, x ∉ (op.perform w).1.held

/-- What a handle holds in balance has a reference. -/
lemma count_pos_of_mem_held (h : w.Balanced) {x : ℕ} (hx : x ∈ w.held) : 0 < count w.heap x := by
  have hpos := tally_pos_iff.mpr hx
  have hinner : (0 : ℤ) ≤ tally (internal w.heap) x := tally_nonneg _ x
  have hexternal : (0 : ℤ) ≤ tally w.external x := tally_nonneg _ x
  have hcount := h x
  omega

/-- No handle holds an object that was freed last. -/
lemma notMem_held_of_freed (h : w.Balanced) {pending : List ℕ} {heap : Heap}
    (hheap : w.heap = (CountedHeap.release pending heap).1) :
    ∀ x ∈ (CountedHeap.release pending heap).2, x ∉ w.held := by
  intro x hfreed hheld
  have hpos := count_pos_of_mem_held h hheld
  rw [hheap, count_eq_zero_of_mem_freed hfreed] at hpos
  exact absurd hpos (Nat.lt_irrefl 0)

/-- A handle holds what it has been set to. -/
lemma mem_held_reset {i x : ℕ} {policy : RefPolicy} (hi : i < w.refs.length) :
    x ∈ (w.reset i (some x) policy).1.held := by
  have hrefs : (w.reset i (some x) policy).1.refs = w.refs.set i (some x) := by
    simp [RefWorld.reset, setObject, xdecref]
  rw [held, hrefs]
  exact List.mem_flatMap.mpr ⟨some x, List.mem_set hi _, by simp⟩

/-- Resetting a handle to a borrowed object is sound exactly when the object survives that the
old one is given up. -/
lemma reset_borrowed_sound_iff {i x : ℕ} (hi : i < w.refs.length)
    (h : (w.reset i (some x) .borrowed).1.Balanced) :
    (∀ y ∈ (w.reset i (some x) .borrowed).2, y ∉ (w.reset i (some x) .borrowed).1.held) ↔
      x ∉ (CountedHeap.release (w.object i).toList w.heap).2 := by
  constructor
  · intro hsound hfreed
    exact hsound x hfreed (mem_held_reset hi)
  · intro hsurvives y hfreed hheld
    have hne : y ≠ x := by
      rintro rfl
      exact hsurvives hfreed
    have hpos := count_pos_of_mem_held h hheld
    have hzero : count (CountedHeap.release (w.object i).toList w.heap).1 y = 0 :=
      count_eq_zero_of_mem_freed hfreed
    change 0 < count (retain x (CountedHeap.release (w.object i).toList w.heap).1) y at hpos
    by_cases hx : x < (CountedHeap.release (w.object i).toList w.heap).1.length
    · rw [count_retain hx, if_neg hne, hzero] at hpos
      exact absurd hpos (Nat.lt_irrefl 0)
    · rw [retain, List.modify_eq_self (Nat.le_of_not_lt hx), hzero] at hpos
      exact absurd hpos (Nat.lt_irrefl 0)

/-- An operation is sound exactly when a borrowed object that a handle is set to survives that
the handle gives up what it holds. -/
theorem sound_iff_survives {op : RefOperation} (h : w.Balanced) (hop : op.Permitted w) :
    Sound w op ↔ op.Survives w := by
  have hbalanced := balanced_perform h hop
  unfold Sound
  rw [and_iff_right hbalanced]
  have hreset : ∀ i object policy, i < w.refs.length →
      ((w.hand object policy).reset i object policy).1.Balanced →
      ((∀ x ∈ ((w.hand object policy).reset i object policy).2,
        x ∉ ((w.hand object policy).reset i object policy).1.held) ↔
          (reset i object policy).Survives w) := by
    intro i object policy hi hb
    cases policy with
    | owned => exact iff_of_true (notMem_held_of_freed hb rfl) (by simp [Survives])
    | borrowed =>
      cases object with
      | none => exact iff_of_true (notMem_held_of_freed hb rfl) (by simp [Survives])
      | some x =>
        refine (reset_borrowed_sound_iff hi hb).trans ?_
        simp [Survives]
  have hnothing : ∀ l : List ℕ, ∀ x ∈ ([] : List ℕ), x ∉ l := by simp
  cases op with
  | construct object policy => exact iff_of_true (hnothing _) trivial
  | moveConstruct other => exact iff_of_true (hnothing _) trivial
  | moveAssign i other =>
    refine iff_of_true ?_ trivial
    by_cases heq : i = other
    · have hrun : (RefOperation.moveAssign i other).perform w = (w, []) := if_pos heq
      rw [hrun]
      exact hnothing _
    · have hrun : (RefOperation.moveAssign i other).perform w =
          (w.setObject other none).reset i (w.object other) .owned := if_neg heq
      rw [hrun] at hbalanced ⊢
      exact notMem_held_of_freed hbalanced rfl
  | reset i object policy => exact hreset i object policy hop.1 hbalanced
  | setCallable i object policy => exact hreset i object policy hop.1 hbalanced
  | release i => exact iff_of_true (hnothing _) trivial
  | destroy i => exact iff_of_true (notMem_held_of_freed hbalanced rfl) trivial
  | take x => exact iff_of_true (hnothing _) trivial
  | drop x => exact iff_of_true (notMem_held_of_freed hbalanced rfl) trivial

/-! ## Runs -/

/-- What an operation leaves. -/
def step (w : RefWorld) (op : RefOperation) : RefWorld := (op.perform w).1

/-- An object that is set on a handle survives when it has an owner besides what the handle
gives up. -/
lemma survives_of_owner {i x : ℕ} (h : w.Balanced)
    (howner : tally (w.object i).toList x < tally w.external x + tally w.held x) :
    (reset i (some x) .borrowed).Survives w := by
  have haccounts := balanced_iff_accounts.mp h
  rintro - y hy
  obtain rfl := Option.some.inj hy
  refine notMem_freed_of_lt (haccounts.covers i) ?_
  rw [haccounts, tally_nil, add_zero]
  exact howner

/-- An object that only the handle itself owns does not survive that it is set on the handle
again. -/
lemma not_survives_of_last_owner {i x : ℕ} {fields : List ℕ} (hobject : w.object i = some x)
    (hlast : w.heap[x]? = some ⟨1, fields⟩) : ¬ (reset i (some x) .borrowed).Survives w := by
  intro h
  refine h rfl x rfl ?_
  rw [hobject, Option.toList_some, release_of_last hlast]
  exact List.mem_cons_self

/-- One object, which one handle holds and nothing else. -/
def lastOwner : RefWorld := ⟨[⟨1, []⟩], [], [some 0]⟩

lemma balanced_lastOwner : lastOwner.Balanced := by
  intro x
  rcases x with _ | x <;> simp [lastOwner, count, internal, held, tally]

end RefOperation

end Dynabridge.Python
