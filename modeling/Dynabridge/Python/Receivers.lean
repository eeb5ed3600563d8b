import Dynabridge.Foundations.Layouts
import Dynabridge.Python.ExportInstance

/-!
# The receivers of exported members

The type of an exported class has room for a native proxy in its instances.  Members and object
arguments read the pointer to it without knowing what is there: they only ask whether the object is
an instance of the type that the context has registered for the class, and whether there is a
pointer.

Python code derives types from exported ones, from several at once if the layouts allow it, makes
instances without initialising them, calls any initialiser on any object and assigns to `__class__`.
Classes are registered again and in several contexts.
-/

namespace Dynabridge.Python

open Layouts Function

variable {Class : Type}

/-! ## Types -/

/-- What tells types apart, by how they were made. -/
inductive TypeName (Class : Type)
  /-- It is derived from others. -/
  | derived (id : ℕ)
  /-- a type of the interpreter or of another module with a layout of its own -/
  | builtin (id : ℕ)
  /-- `make_export_class_type<cls>` -/
  | exported (cls : Class) (id : ℕ)
  deriving DecidableEq

/-- The type extends `object` by a layout of its own. -/
def TypeName.IsScratch : TypeName Class → Prop
  | derived _ => False
  | builtin _ | exported _ _ => True

instance : DecidablePred fun name : TypeName Class => name.IsScratch
  | .derived _ => inferInstanceAs (Decidable False)
  | .builtin _ | .exported _ _ => inferInstanceAs (Decidable True)

/-- `PyTypeObject` -/
abbrev PyType (Class : Type) := Laid fun name : TypeName Class => name.IsScratch

/-- The class for which the instances of a type have room, if they begin with an
`export_instance_object`. -/
def PyType.nativeClass (t : PyType Class) : Option Class :=
  match t.basis with
  | some (.exported cls _) => some cls
  | _ => none

/-! ## Instances -/

/-- An object, with the class of each native constructor that was started in it. -/
structure PyObject (Class : Type) where
  type : PyType Class
  state : ExportInstance := {}
  receivers : List Class := []

/-- The types and the objects of an interpreter, and the registries of the export contexts. -/
structure Exports (Class : Type) where
  types : List (PyType Class) := []
  registry : ℕ → Class → Option (PyType Class) := fun _ _ => none
  objects : List (PyObject Class) := []

namespace Exports

variable [DecidableEq Class]

/-- `export_context_t::export_class` -/
def exportClass (ctx : ℕ) (cls : Class) (w : Exports Class) :
    Except CppException (PyType Class) :=
  match w.registry ctx cls with
  | some target => .ok target
  | none => .error (.stdException "dynabridge export class is not registered in this context")

/-- `PyObject_TypeCheck`, of a pointer that is not null -/
def typeCheck (w : Exports Class) (o : ℕ) (target : PyType Class) : Bool :=
  (w.objects[o]?).any fun x => decide (x.type.IsSubtype target)

/-- `bind_export_object_impl`: the pointer in the `borrowed_export_object_t` -/
def bindExportObject (ctx : ℕ) (cls : Class) (self : Option ℕ) (w : Exports Class) :
    Except CppException (Option ℕ) :=
  (w.exportClass ctx cls).map fun target => self.filter fun o => w.typeCheck o target

/-- `native_from<cls>`, with the proxy that the pointer is to.  There is no result when the object
does not begin with an `export_instance_object`, or when the proxy is of another class. -/
def nativeFrom (cls : Class) (w : Exports Class) : Option ℕ → Option (Option (ℕ × ℕ))
  | none => some none
  | some o => do
    let x ← w.objects[o]?
    if x.type.nativeClass.isNone then none
    else match x.state.native with
      | none => some none
      | some k => if x.receivers[k]? = some cls then some (some (o, k)) else none

/-- The receiver of a member, as `export_member_callable_binder::operator()` gets it. -/
def memberReceiver (ctx : ℕ) (cls : Class) (self : Option ℕ) (w : Exports Class) :
    Option (Except CppException (ℕ × ℕ)) :=
  match w.bindExportObject ctx cls self with
  | .error e => some (.error e)
  | .ok object => (w.nativeFrom cls object).map fun native =>
    match native with
    | none => .error (.stdException "dynabridge export object has no proxy receiver")
    | some proxy => .ok proxy

/-- `try_bind_export_object_impl` and then `export_argument<object_param>::get`; a candidate whose
argument is not an instance gets nothing. -/
def objectArgument (ctx : ℕ) (cls : Class) (value : Option ℕ) (w : Exports Class) :
    Option (Except CppException (Option (ℕ × ℕ))) :=
  match value with
  | none => some (.ok none)
  | some o =>
    match w.exportClass ctx cls with
    | .error e => some (.error e)
    | .ok target =>
      if w.typeCheck o target then (w.nativeFrom cls (some o)).map fun native =>
        match native with
        | none => .error (.badConversion "dynabridge exported object has no bound native proxy")
        | some proxy => .ok (some proxy)
      else some (.ok none)

/-! ## Steps -/

/-- `make_export_class_type` and, unless `define` throws in between, `store_export_class_impl` -/
def defineClass (ctx : ℕ) (cls : Class) (stored : Bool) (w : Exports Class) : Exports Class :=
  let target : PyType Class := Laid.make (.exported cls w.types.length)
  { w with
    types := w.types ++ [target]
    registry := if stored then update w.registry ctx (update (w.registry ctx) cls (some target))
      else w.registry }

/-- A type with a layout of its own that is none of the bridge's. -/
def addBuiltin (w : Exports Class) : Exports Class :=
  { w with types := w.types ++ [Laid.make (.builtin w.types.length)] }

/-- A `class` statement, which fails when the layouts of the bases are at odds. -/
def deriveType (bases : List ℕ) (adds : Bool) (w : Exports Class) : Exports Class :=
  match derive (.derived w.types.length) id (bases.filterMap (w.types[·]?)) adds with
  | none => w
  | some t => { w with types := w.types ++ [t] }

/-- A new object that is not initialised. -/
def newObject (t : PyType Class) (w : Exports Class) : Exports Class :=
  { w with objects := w.objects ++ [{ type := t }] }

/-- `construct_export_object_impl` up to the native constructor, which then runs in the storage of
the object.  There is no result when the object has no room for the class. -/
def constructExportObject (cls : Class) (o : ℕ) (w : Exports Class) : Option (Exports Class) := do
  let x ← w.objects[o]?
  if x.type.nativeClass ≠ some cls then none
  else match x.state.beginConstruction with
    | (.error _, _) => some w
    | (.ok _, s) => some { w with
        objects := w.objects.set o { x with state := s, receivers := x.receivers ++ [cls] } }

/-- `class_constructor_holder::construct`; `admitted` says whether the arguments can be
converted. -/
def construct (ctx : ℕ) (cls : Class) (self : Option ℕ) (admitted : Bool) (w : Exports Class) :
    Option (Exports Class) :=
  match w.exportClass ctx cls, self with
  | .error _, _ => some w
  | .ok _, none => some w
  | .ok target, some o =>
    if w.typeCheck o target && admitted then w.constructExportObject cls o else some w

/-- `make_export_object_impl` -/
def makeExportObject (ctx : ℕ) (cls : Class) (w : Exports Class) : Option (Exports Class) :=
  match w.exportClass ctx cls with
  | .error _ => some w
  | .ok target => (w.newObject target).constructExportObject cls w.objects.length

/-- Something else happens to an object. -/
def instanceEvent (o : ℕ) (e : InstanceEvent) (w : Exports Class) : Exports Class :=
  match w.objects[o]? with
  | none => w
  | some x => { w with objects := w.objects.set o { x with state := e.step x.state } }

/-- `o.__class__ = t` -/
def assignClass (o : ℕ) (t : PyType Class) (w : Exports Class) : Exports Class :=
  match w.objects[o]? with
  | none => w
  | some x => { w with objects := w.objects.set o { x with type := t } }

/-- The object is there. -/
def Alive (w : Exports Class) (o : ℕ) : Prop :=
  (w.objects[o]?).any (fun x => !x.state.deallocated) = true

end Exports

instance (s : ExportInstance) : (e : InstanceEvent) → Decidable (e.Possible s)
  | .call _ => inferInstanceAs (Decidable (s.deallocated = false ∧ True))
  | .complete | .throw =>
    inferInstanceAs (Decidable (s.deallocated = false ∧ s.constructing ≠ []))
  | .dealloc => inferInstanceAs (Decidable (s.deallocated = false ∧ s.constructing = []))

/-- Something else can happen to an object. -/
def Exports.Allows (w : Exports Class) (o : ℕ) (e : InstanceEvent) : Prop :=
  (w.objects[o]?).any (fun x => decide (e.Possible x.state)) = true

instance (w : Exports Class) (o : ℕ) : Decidable (w.Alive o) :=
  inferInstanceAs (Decidable (_ = _))

instance (w : Exports Class) (o : ℕ) (e : InstanceEvent) : Decidable (w.Allows o e) :=
  inferInstanceAs (Decidable (_ = _))

/-- What can happen to the types and objects of an interpreter. -/
inductive ReceiverEvent (Class : Type)
  | defineClass (ctx : ℕ) (cls : Class) (stored : Bool)
  | addBuiltin
  | deriveType (bases : List ℕ) (adds : Bool)
  /-- `tp_new`, or the first half of `export_type_vectorcall` -/
  | newObject (type : ℕ)
  | assignClass (o type : ℕ)
  /-- an initialiser: by itself, as `__init__`, or in `export_type_vectorcall` -/
  | construct (ctx : ℕ) (cls : Class) (self : Option ℕ) (admitted : Bool)
  | makeExportObject (ctx : ℕ) (cls : Class)
  /-- The innermost native constructor in an object returns. -/
  | complete (o : ℕ)
  /-- It throws. -/
  | throw (o : ℕ)
  /-- The last reference to an object goes. -/
  | dealloc (o : ℕ)

namespace ReceiverEvent

open Exports

variable [DecidableEq Class]

/-- The event can happen: what it names is there, and the interpreter only assigns a type whose
layout begins with the same part. -/
def Valid (w : Exports Class) : ReceiverEvent Class → Prop
  | defineClass _ _ _ | addBuiltin | makeExportObject _ _ => True
  | deriveType bases _ => ∀ base ∈ bases, base < w.types.length
  | newObject type => type < w.types.length
  | assignClass o type => w.Alive o ∧ type < w.types.length ∧
      (w.objects[o]?).bind (fun x => x.type.basis) = (w.types[type]?).bind Laid.basis
  | construct _ _ self _ => ∀ o ∈ self, w.Alive o
  | complete o => w.Allows o .complete
  | throw o => w.Allows o .throw
  | dealloc o => w.Allows o .dealloc

/-- The state after an event, unless it is undefined. -/
def next (w : Exports Class) : ReceiverEvent Class → Option (Exports Class)
  | defineClass ctx cls stored => some (w.defineClass ctx cls stored)
  | addBuiltin => some w.addBuiltin
  | deriveType bases adds => some (w.deriveType bases adds)
  | newObject type => (w.types[type]?).map w.newObject
  | assignClass o type => (w.types[type]?).map (w.assignClass o)
  | construct ctx cls self admitted => w.construct ctx cls self admitted
  | makeExportObject ctx cls => w.makeExportObject ctx cls
  | complete o => some (w.instanceEvent o .complete)
  | throw o => some (w.instanceEvent o .throw)
  | dealloc o => some (w.instanceEvent o .dealloc)

instance (w : Exports Class) : (e : ReceiverEvent Class) → Decidable (e.Valid w)
  | defineClass _ _ _ | addBuiltin | makeExportObject _ _ => inferInstanceAs (Decidable True)
  | deriveType bases _ => inferInstanceAs (Decidable (∀ base ∈ bases, base < w.types.length))
  | newObject type => inferInstanceAs (Decidable (type < w.types.length))
  | assignClass _ _ => inferInstanceAs (Decidable (_ ∧ _ ∧ _ = _))
  | construct _ _ self _ => inferInstanceAs (Decidable (∀ o ∈ self, w.Alive o))
  | complete o | throw o | dealloc o => inferInstanceAs (Decidable (w.Allows o _))

end ReceiverEvent

/-! ## What holds -/

/-- What holds of an object: every native constructor that was started in it was one of the class
for which it has room, and the pointer is to a proxy that was completed and not destroyed. -/
structure PyObject.Sound (x : PyObject Class) : Prop where
  receivers : ∀ cls ∈ x.receivers, x.type.nativeClass = some cls
  length : x.receivers.length = x.state.started
  bound : ∀ k ∈ x.state.constructing ++ x.state.completed, k < x.state.started
  native : ∀ k, x.state.native = some k → k ∈ x.state.completed ∧ k ∉ x.state.destroyed
  alive : x.state.deallocated = false → x.state.destroyed = []

namespace PyObject.Sound

variable {x : PyObject Class}

lemma new (t : PyType Class) : ({ type := t } : PyObject Class).Sound where
  receivers _ h := absurd h List.not_mem_nil
  length := rfl
  bound _ h := absurd h List.not_mem_nil
  native _ h := nomatch h
  alive _ := rfl

/-- An object gets a type with room for the same class. -/
lemma assign (h : x.Sound) {t : PyType Class} (ht : x.type.nativeClass = t.nativeClass) :
    ({ x with type := t } : PyObject Class).Sound :=
  ⟨fun cls hcls => ht ▸ h.receivers cls hcls, h.length, h.bound, h.native, h.alive⟩

/-- A native constructor is started. -/
lemma begin (h : x.Sound) {cls : Class} (hcls : x.type.nativeClass = some cls) {k : ℕ}
    {s : ExportInstance} (hs : x.state.beginConstruction = (.ok k, s)) :
    ({ x with state := s, receivers := x.receivers ++ [cls] } : PyObject Class).Sound := by
  unfold ExportInstance.beginConstruction at hs
  split at hs
  · cases hs
  · obtain ⟨-, rfl⟩ := Prod.mk.inj hs
    constructor
    · intro cls' hcls'
      rcases List.mem_append.mp hcls' with hold | hnew
      · exact h.receivers cls' hold
      · exact List.mem_singleton.mp hnew ▸ hcls
    · change (x.receivers ++ [cls]).length = x.state.started + 1
      rw [List.length_append, h.length, List.length_singleton]
    · intro j hj
      rcases List.mem_cons.mp hj with rfl | hold
      · exact Nat.lt_succ_self _
      · exact (h.bound j hold).trans (Nat.lt_succ_self _)
    · exact h.native
    · exact h.alive

/-- A native constructor returns or throws, or the object goes. -/
lemma step (h : x.Sound) {e : InstanceEvent} (he : e.Possible x.state)
    (hcall : ∀ admitted, e ≠ .call admitted) :
    ({ x with state := e.step x.state } : PyObject Class).Sound := by
  cases e with
  | call admitted => exact absurd rfl (hcall admitted)
  | complete =>
    obtain ⟨k, outer, hconstructing⟩ := List.exists_cons_of_ne_nil he.2
    have hstep : InstanceEvent.complete.step x.state = ({ x.state with
        constructing := outer
        alive := k :: x.state.alive
        completed := k :: x.state.completed } : ExportInstance).recordProxy k := by
      rw [InstanceEvent.step, ExportInstance.completeConstruction, hconstructing]
    rw [hstep]
    refine ⟨h.receivers, h.length, ?_, ?_, h.alive⟩
    · intro j hj
      apply h.bound j
      rw [hconstructing]
      exact List.perm_middle.mem_iff.mp hj
    · intro j hj
      obtain rfl := Option.some.inj hj
      refine ⟨List.mem_cons_self, ?_⟩
      change k ∉ x.state.destroyed
      rw [h.alive he.1]
      exact List.not_mem_nil
  | throw =>
    refine ⟨h.receivers, h.length, ?_, h.native, h.alive⟩
    intro j hj
    exact h.bound j (((List.tail_sublist _).append_right _).subset hj)
  | dealloc =>
    rw [InstanceEvent.step, ExportInstance.exportInstanceDealloc]
    cases x.state.destroy with
    | false =>
      refine ⟨h.receivers, h.length, h.bound, h.native, ?_⟩
      intro hgone
      cases hgone
    | true =>
      refine ⟨h.receivers, h.length, h.bound, ?_, ?_⟩
      · intro k hnone
        cases hnone
      · intro hgone
        cases hgone

end PyObject.Sound

namespace Exports

variable {w : Exports Class} {ctx : ℕ} {cls : Class} {o : ℕ} {t : PyType Class}

/-- What holds of the types and objects: the contexts have types with room for their classes. -/
structure Sound (w : Exports Class) : Prop where
  registry : ∀ {ctx : ℕ} {cls : Class} {target : PyType Class},
    w.registry ctx cls = some target →
      ∃ id, target.name = .exported cls id ∧ target.basis = some target.name
  objects : ∀ {o : ℕ} {x : PyObject Class}, w.objects[o]? = some x → x.Sound

/-- The pointer to proxy `k` of an object is good: the object has room for the class, and the proxy
is one of the class that was completed and not destroyed. -/
def Holds (w : Exports Class) (cls : Class) (o k : ℕ) : Prop :=
  ∃ x, w.objects[o]? = some x ∧ x.type.nativeClass = some cls ∧ x.receivers[k]? = some cls ∧
    k ∈ x.state.completed ∧ k ∉ x.state.destroyed

namespace Sound

lemma empty : Sound ({} : Exports Class) where
  registry h := nomatch h
  objects h := nomatch h

lemma addTypes (h : Sound w) (types : List (PyType Class)) :
    Sound { w with types := types } := ⟨h.registry, h.objects⟩

lemma newObject (h : Sound w) (t : PyType Class) : Sound (w.newObject t) where
  registry := h.registry
  objects {o x} hx := by
    rcases List.mem_append.mp (List.mem_of_getElem? hx) with hold | hnew
    · obtain ⟨i, hi⟩ := List.mem_iff_getElem?.mp hold
      exact h.objects hi
    · exact List.mem_singleton.mp hnew ▸ PyObject.Sound.new t

/-- One object changes. -/
lemma setObject (h : Sound w) (o : ℕ) {x : PyObject Class} (hx : x.Sound) :
    Sound { w with objects := w.objects.set o x } where
  registry := h.registry
  objects {o' x'} hx' := by
    rcases List.mem_or_eq_of_mem_set (List.mem_of_getElem? hx') with hold | rfl
    · obtain ⟨i, hi⟩ := List.mem_iff_getElem?.mp hold
      exact h.objects hi
    · exact hx

/-- The type of a context has room for the class. -/
lemma nativeClass_target (h : Sound w) {target : PyType Class}
    (htarget : w.exportClass ctx cls = .ok target) : target.nativeClass = some cls := by
  unfold exportClass at htarget
  split at htarget
  case h_1 target' hregistry =>
    obtain rfl := Except.ok.inj htarget
    obtain ⟨id, hname, hbasis⟩ := h.registry hregistry
    rw [PyType.nativeClass, hbasis, hname]
  case h_2 => cases htarget

lemma instanceEvent (h : Sound w) {e : InstanceEvent}
    (he : w.Allows o e) (hcall : ∀ admitted, e ≠ .call admitted) : Sound (w.instanceEvent o e) := by
  obtain ⟨x, hx, hpossible⟩ := (Option.any_eq_true _ _).mp he
  simp only [Exports.instanceEvent, hx]
  exact h.setObject o ((h.objects hx).step (of_decide_eq_true hpossible) hcall)

lemma assignClass (h : Sound w) {x : PyObject Class} (hx : w.objects[o]? = some x)
    (ht : x.type.basis = t.basis) : Sound (w.assignClass o t) := by
  simp only [Exports.assignClass, hx]
  refine h.setObject o ((h.objects hx).assign ?_)
  rw [PyType.nativeClass, PyType.nativeClass, ht]

variable [DecidableEq Class]

lemma defineClass (h : Sound w) (ctx : ℕ) (cls : Class) (stored : Bool) :
    Sound (w.defineClass ctx cls stored) where
  registry {ctx' cls' target} htarget := by
    cases stored with
    | false => exact h.registry htarget
    | true =>
      change update w.registry ctx _ ctx' cls' = some target at htarget
      by_cases hctx : ctx' = ctx
      · subst hctx
        rw [update_self] at htarget
        by_cases hcls : cls' = cls
        · subst hcls
          rw [update_self, Option.some_inj] at htarget
          subst htarget
          exact ⟨w.types.length, rfl, Laid.basis_eq_some (List.mem_singleton_self _) trivial⟩
        · rw [update_of_ne hcls] at htarget
          exact h.registry htarget
      · rw [update_of_ne hctx] at htarget
        exact h.registry htarget
  objects := h.objects

lemma deriveType (h : Sound w) (bases : List ℕ) (adds : Bool) :
    Sound (w.deriveType bases adds) := by
  unfold Exports.deriveType
  split
  · exact h
  · exact h.addTypes _

/-- An object that passes the check has room for the class. -/
lemma nativeClass_of_typeCheck (h : Sound w) {target : PyType Class}
    (htarget : w.exportClass ctx cls = .ok target) (hcheck : w.typeCheck o target = true) :
    ∃ x, w.objects[o]? = some x ∧ x.type.nativeClass = some cls := by
  obtain ⟨x, hx, hsub⟩ := (Option.any_eq_true _ _).mp hcheck
  refine ⟨x, hx, ?_⟩
  unfold exportClass at htarget
  split at htarget
  case h_1 target' hregistry =>
    obtain rfl := Except.ok.inj htarget
    obtain ⟨id, hname, -⟩ := h.registry hregistry
    have hmem : TypeName.exported cls id ∈ x.type.ancestors := hname ▸ of_decide_eq_true hsub
    rw [PyType.nativeClass, Laid.basis_eq_some hmem trivial]
  case h_2 => cases htarget

/-- The pointer is read from such an object. -/
lemma exists_nativeFrom (h : Sound w) {x : PyObject Class} (hx : w.objects[o]? = some x)
    (hclass : x.type.nativeClass = some cls) :
    ∃ native, w.nativeFrom cls (some o) = some native ∧
      ∀ o' k, native = some (o', k) → o' = o ∧ w.Holds cls o k := by
  have hsound := h.objects hx
  have hread : w.nativeFrom cls (some o) = match x.state.native with
      | none => some none
      | some k => if x.receivers[k]? = some cls then some (some (o, k)) else none := by
    simp only [nativeFrom, hx, Option.bind_eq_bind, Option.bind_some, hclass, Option.isNone_some,
      Bool.false_eq_true, if_false]
  cases hnative : x.state.native with
  | none =>
    rw [hnative] at hread
    exact ⟨none, hread, fun _ _ hnone => nomatch hnone⟩
  | some k =>
    obtain ⟨hcompleted, hdestroyed⟩ := hsound.native k hnative
    have hlt : k < x.receivers.length :=
      hsound.length ▸ hsound.bound k (List.mem_append_right _ hcompleted)
    have hreceiver : x.receivers[k]? = some cls := by
      rw [List.getElem?_eq_getElem hlt, ← hclass]
      exact (hsound.receivers _ (List.getElem_mem hlt)).symm
    rw [hnative] at hread
    refine ⟨some (o, k), hread.trans (if_pos hreceiver), ?_⟩
    intro o' k' heq
    obtain ⟨rfl, rfl⟩ := Prod.mk.inj (Option.some.inj heq)
    exact ⟨rfl, x, hx, hclass, hreceiver, hcompleted, hdestroyed⟩

/-- A native constructor is started where there is room for it. -/
lemma exists_constructExportObject (h : Sound w) {x : PyObject Class} (hx : w.objects[o]? = some x)
    (hclass : x.type.nativeClass = some cls) :
    ∃ w', w.constructExportObject cls o = some w' ∧ Sound w' := by
  simp only [constructExportObject, hx, Option.bind_eq_bind, Option.bind_some, hclass, ne_eq,
    not_true_eq_false, if_false]
  split
  case h_1 => exact ⟨w, rfl, h⟩
  case h_2 k s hbegin => exact ⟨_, rfl, h.setObject o ((h.objects hx).begin hclass hbegin)⟩

lemma exists_construct (h : Sound w) (ctx : ℕ) (cls : Class) (self : Option ℕ) (admitted : Bool) :
    ∃ w', w.construct ctx cls self admitted = some w' ∧ Sound w' := by
  unfold Exports.construct
  split
  case h_1 => exact ⟨w, rfl, h⟩
  case h_2 => exact ⟨w, rfl, h⟩
  case h_3 target o htarget =>
    split
    case isTrue hcheck =>
      obtain ⟨htype, -⟩ := Bool.and_eq_true_iff.mp hcheck
      obtain ⟨x, hx, hclass⟩ := h.nativeClass_of_typeCheck htarget htype
      exact h.exists_constructExportObject hx hclass
    case isFalse => exact ⟨w, rfl, h⟩

lemma exists_makeExportObject (h : Sound w) (ctx : ℕ) (cls : Class) :
    ∃ w', w.makeExportObject ctx cls = some w' ∧ Sound w' := by
  unfold Exports.makeExportObject
  split
  case h_1 => exact ⟨w, rfl, h⟩
  case h_2 target htarget =>
    exact (h.newObject target).exists_constructExportObject List.getElem?_concat_length
      (h.nativeClass_target htarget)

/-- Whatever happens is defined. -/
lemma exists_next (h : Sound w) {e : ReceiverEvent Class} (he : e.Valid w) :
    ∃ w', e.next w = some w' ∧ Sound w' := by
  cases e with
  | defineClass ctx cls stored => exact ⟨_, rfl, h.defineClass ctx cls stored⟩
  | addBuiltin => exact ⟨_, rfl, h.addTypes _⟩
  | deriveType bases adds => exact ⟨_, rfl, h.deriveType bases adds⟩
  | newObject type =>
    exact ⟨_, congrArg (Option.map _) (List.getElem?_eq_getElem he), h.newObject _⟩
  | assignClass o type =>
    obtain ⟨halive, htype, hbasis⟩ := he
    obtain ⟨x, hx, -⟩ := (Option.any_eq_true _ _).mp halive
    rw [hx, List.getElem?_eq_getElem htype] at hbasis
    exact ⟨_, congrArg (Option.map _) (List.getElem?_eq_getElem htype), h.assignClass hx hbasis⟩
  | construct ctx cls self admitted => exact h.exists_construct ctx cls self admitted
  | makeExportObject ctx cls => exact h.exists_makeExportObject ctx cls
  | complete o => exact ⟨_, rfl, h.instanceEvent he fun _ hcall => nomatch hcall⟩
  | throw o => exact ⟨_, rfl, h.instanceEvent he fun _ hcall => nomatch hcall⟩
  | dealloc o => exact ⟨_, rfl, h.instanceEvent he fun _ hcall => nomatch hcall⟩

/-- A member gets a receiver exactly when the object can be an argument, and it is the same. -/
lemma exists_receiver (h : Sound w) (ctx : ℕ) (cls : Class) (self : Option ℕ) :
    ∃ r r', w.memberReceiver ctx cls self = some r ∧ w.objectArgument ctx cls self = some r' ∧
      ∀ o k, (r = .ok (o, k) ↔ r' = .ok (some (o, k))) ∧
        (r = .ok (o, k) → self = some o ∧ w.Holds cls o k) := by
  unfold memberReceiver objectArgument bindExportObject
  cases htarget : w.exportClass ctx cls with
  | error e =>
    cases self with
    | none => exact ⟨.error e, .ok none, rfl, rfl, by simp⟩
    | some o => exact ⟨.error e, .error e, rfl, rfl, by simp⟩
  | ok target =>
    cases self with
    | none => exact ⟨_, .ok none, rfl, rfl, by simp⟩
    | some o =>
      by_cases hcheck : w.typeCheck o target = true
      · obtain ⟨x, hx, hclass⟩ := h.nativeClass_of_typeCheck htarget hcheck
        obtain ⟨native, hread, hholds⟩ := h.exists_nativeFrom hx hclass
        simp only [Except.map, Option.filter_some, hcheck, if_true, hread, Option.map_some]
        cases native with
        | none => exact ⟨_, _, rfl, rfl, by simp⟩
        | some proxy =>
          refine ⟨_, _, rfl, rfl, fun o' k => ⟨by simp, fun hr => ?_⟩⟩
          obtain rfl := Except.ok.inj hr
          obtain ⟨rfl, hk⟩ := hholds o' k rfl
          exact ⟨rfl, hk⟩
      · simp only [Except.map, Option.filter_some, hcheck]
        exact ⟨_, .ok none, rfl, rfl, by simp⟩

end Sound

/-- The states of an interpreter. -/
abbrev Reachable [DecidableEq Class] (w : Exports Class) : Prop :=
  Runs.Reaches (fun w e => ReceiverEvent.Valid w e) ReceiverEvent.next {} w

variable [DecidableEq Class]

lemma Reachable.sound (h : w.Reachable) : Sound w := by
  refine Runs.Reaches.invariant Sound.empty ?_ h
  intro w e w' hw hvalid hnext
  obtain ⟨w'', hnext', hw''⟩ := hw.exists_next hvalid
  rw [hnext'] at hnext
  exact Option.some.inj hnext ▸ hw''

/-- Whatever Python code does, native constructors only run where there is room for their class, and
members and object arguments read a pointer only where there is one: if they get one it is to a
proxy of their class, which was completed in this object and was not destroyed. -/
theorem receivers_checked (h : w.Reachable) :
    (∀ e : ReceiverEvent Class, e.Valid w → ∃ w', e.next w = some w') ∧
    (∀ (o : ℕ) (x : PyObject Class), w.objects[o]? = some x →
      ∀ cls ∈ x.receivers, x.type.nativeClass = some cls) ∧
    ∀ (ctx : ℕ) (cls : Class) (self : Option ℕ),
      ∃ r r', w.memberReceiver ctx cls self = some r ∧ w.objectArgument ctx cls self = some r' ∧
        ∀ o k, (r = .ok (o, k) ↔ r' = .ok (some (o, k))) ∧
          (r = .ok (o, k) → self = some o ∧ w.Holds cls o k) := by
  refine ⟨fun e he => ?_, fun o x hx => (h.sound.objects hx).receivers,
    fun ctx cls self => h.sound.exists_receiver ctx cls self⟩
  obtain ⟨w', hnext, -⟩ := h.sound.exists_next he
  exact ⟨w', hnext⟩

/-- Two exported classes and types derived from the first one; nothing is derived from both.  An
instance of the last type is no receiver of the second class. -/
theorem receivers_checked_derived :
    ∃ w : Exports Bool, w.Reachable ∧ w.types.length = 4 ∧
      w.memberReceiver 0 false (some 0) = some (.ok (0, 0)) ∧ w.Holds false 0 0 ∧
      w.objectArgument 0 true (some 0) = some (.ok none) := by
  have hany : (Runs.run (fun w e => ReceiverEvent.Valid w e) ReceiverEvent.next
      ({} : Exports Bool)
      [.defineClass 0 false true, .defineClass 0 true true, .deriveType [0] true,
        .deriveType [2, 0] false, .deriveType [2, 1] false, .newObject 3,
        .construct 0 true (some 0) true, .construct 0 false (some 0) true, .complete 0]).any
        (fun w => decide (w.types.length = 4 ∧
          w.memberReceiver 0 false (some 0) = some (.ok (0, 0)) ∧
          w.objectArgument 0 true (some 0) = some (.ok none))) = true := by
    decide
  obtain ⟨w, hrun, hstate⟩ := (Option.any_eq_true _ _).mp hany
  have h : w.Reachable := Runs.Reaches.of_run .start hrun
  obtain ⟨htypes, hmember, hargument⟩ := of_decide_eq_true hstate
  obtain ⟨r, r', hr, -, hall⟩ := (receivers_checked h).2.2 0 false (some 0)
  obtain rfl := Option.some.inj (hmember.symm.trans hr)
  exact ⟨w, h, htypes, hmember, ((hall 0 0).2 rfl).2, hargument⟩

end Exports

end Dynabridge.Python
