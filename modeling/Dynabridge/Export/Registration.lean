import Dynabridge.Export.ConvertAndTest

/-!
# Registration of exported classes

`register_all` walks over the declaration of a class, the interfaces first, and defines every
signature on its own: each `DECL_MEMBER_FUNCTION` as a typed callable under the name of its
group, each `DECL_CONSTRUCTOR` in the one place that the backend has for a constructor.  Both
the Python and the N-API backend replace what was defined there before, so of each group only
the last signature can be called.
-/

namespace Dynabridge.Export

/-! ## Declarations -/

/-- A member callable group.  Names with a double underscore are reserved in C++. -/
structure MemberGroup (Ty : Type) where
  name : String
  overloads : List (Signature Ty)
  unreserved : name ≠ "__init__" ∧ name ≠ "__dynabridge_constructor__"

/-- A declaration in the body of a class. -/
inductive ClassItem (Ty : Type)
  /-- `DECL_CONSTRUCTOR(Args...)` -/
  | declConstructor (params : List (Param Ty))
  | group (members : MemberGroup Ty)

/-- The group that an item declares. -/
def ClassItem.group? {Ty : Type} : ClassItem Ty → Option (MemberGroup Ty)
  | declConstructor _ => none
  | group members => some members

/-- The signature `void(Args...)` of the constructor that an item declares. -/
def ClassItem.constructor? {Ty : Type} : ClassItem Ty → Option (Signature Ty)
  | declConstructor params => some ⟨params, none⟩
  | group _ => none

/-- An exported class.  Reusing a member name across the implemented interfaces and the class
is rejected at compile time. -/
structure ClassDeclaration (Ty : Type) where
  interfaces : List (List (MemberGroup Ty))
  items : List (ClassItem Ty)
  distinct : ((interfaces.flatten ++ items.filterMap ClassItem.group?).map MemberGroup.name).Nodup

/-- The member groups of a class, those of its interfaces first. -/
def ClassDeclaration.groups {Ty : Type} (decl : ClassDeclaration Ty) : List (MemberGroup Ty) :=
  decl.interfaces.flatten ++ decl.items.filterMap ClassItem.group?

/-- The declared constructors. -/
def ClassDeclaration.constructors {Ty : Type} (decl : ClassDeclaration Ty) :
    List (Signature Ty) := decl.items.filterMap ClassItem.constructor?

/-! ## Class targets -/

section Target

variable {Ty : Type}

/-- A declared signature, with its position in the group. -/
structure Overload (Ty : Type) where
  index : ℕ
  sig : Signature Ty

/-- What the bridge stores in a class: a typed member callable, or a constructor. -/
inductive Attribute (Ty : Type)
  | member (overload : Overload Ty)
  | initializer (overload : Overload Ty)

/-- `class_target_t`: the attributes of the Python type, or the properties of the N-API
prototype, and the `construct_` of an N-API `class_state`. -/
structure ClassTarget (Ty : Type) where
  attributes : String → Option (Attribute Ty) := fun _ => none
  construct : Option (Overload Ty) := none

/-- `class_target_t::define`: `PyObject_SetAttrString` and `napi_set_named_property` replace
the value of a name. -/
def ClassTarget.define (name : String) (value : Attribute Ty) (target : ClassTarget Ty) :
    ClassTarget Ty :=
  { target with attributes := Function.update target.attributes name (some value) }

/-- The backends that register exported classes. -/
inductive Runtime
  | python
  | napi
  deriving DecidableEq

/-- `define_constructor_impl`; on N-API, `set_constructor`. -/
def Runtime.defineConstructor (overload : Overload Ty) : Runtime → ClassTarget Ty → ClassTarget Ty
  | python, target =>
    (target.define "__init__" (.initializer overload)).define "__dynabridge_constructor__"
      (.initializer overload)
  | napi, target => { target with construct := some overload }

/-- The constructor that an invocation of the class runs. -/
def Runtime.constructorOf : Runtime → ClassTarget Ty → Option (Overload Ty)
  | python, target =>
    match target.attributes "__dynabridge_constructor__" with
    | some (.initializer overload) => some overload
    | _ => none
  | napi, target => target.construct

/-- The member that is found under a name. -/
def ClassTarget.member? (target : ClassTarget Ty) (name : String) : Option (Overload Ty) :=
  match target.attributes name with
  | some (.member overload) => some overload
  | _ => none

/-- The registration of a group: each overload is defined under the name of the group. -/
def registerGroup (members : MemberGroup Ty) (target : ClassTarget Ty) : ClassTarget Ty :=
  members.overloads.zipIdx.foldl
    (fun target overload => target.define members.name (.member ⟨overload.2, overload.1⟩)) target

/-- The registration of the items of a class, with the number of constructors so far. -/
def registerItems (runtime : Runtime) : ℕ → List (ClassItem Ty) → ClassTarget Ty → ClassTarget Ty
  | _, [], target => target
  | k, .declConstructor params :: items, target =>
    registerItems runtime (k + 1) items (runtime.defineConstructor ⟨k, ⟨params, none⟩⟩ target)
  | k, .group members :: items, target =>
    registerItems runtime k items (registerGroup members target)

/-- `export_class_registrar::register_all` on the target of a new class -/
def registerAll (runtime : Runtime) (decl : ClassDeclaration Ty) : ClassTarget Ty :=
  registerItems runtime 0 decl.items
    (decl.interfaces.flatten.foldl (fun target members => registerGroup members target) {})

/-- The last overload of a list whose positions are counted from `k` on. -/
def lastOverload (k : ℕ) (sigs : List (Signature Ty)) : Option (Overload Ty) :=
  (sigs.zipIdx k).getLast?.map fun overload => ⟨overload.2, overload.1⟩

end Target

/-! ## Calls -/

section Calls

variable {Dynamic : Type} (B : Backend Dynamic)

/-- How a call of an exported member or constructor fails. -/
inductive Failure
  /-- there is nothing to call -/
  | missing
  | wrongArity (message : List UInt8)
  /-- `bad_conversion` of an argument -/
  | conversionFailed (message : List UInt8)
  /-- what the native callable raised -/
  | raised (e : Raised)
  deriving DecidableEq

/-- The failures that mean that the arguments do not match. -/
def Failure.isMismatch : Failure → Bool
  | raised _ => false
  | _ => true

/-- `tuple_export_arg_accessor` of as many dynamic arguments -/
def tupleExportArgAccessor (arity : ℕ) : Accessor := ⟨true, some arity⟩

/-- `invoke_converted`, and `construct_impl` of a constructor: the steps of an overload
candidate, which raise where the candidate returns empty. -/
def invokeConverted (callable : B.Callable) (message : String) (overload : Overload B.Ty)
    (args : List Dynamic) : Except Failure Dynamic × Trace B :=
  match exportOverloadCandidate B callable (tupleExportArgAccessor args.length) overload.index
      overload.sig ⟨args, []⟩ with
  | (.error e, t) => (.error (.raised e), t)
  | (.ok none, t) => (.error (.conversionFailed (ascii message)), t)
  | (.ok (some result), t) => (.ok result, t)

/-- A typed callback checks the number of the arguments and converts them. -/
def callTyped (callable : B.Callable) (arityMessage conversionMessage : String)
    (args : List Dynamic) : Option (Overload B.Ty) → Except Failure Dynamic × Trace B
  | none => (.error .missing, ⟨args, []⟩)
  | some overload =>
    if args.length != overload.sig.params.length then
      (.error (.wrongArity (ascii arityMessage)), ⟨args, []⟩)
    else invokeConverted B callable conversionMessage overload args

/-- The message of a typed callback for a wrong number of arguments. -/
def Runtime.callbackArityMessage : Runtime → String
  | python => "dynabridge Python callback received wrong arity"
  | napi => "dynabridge N-API callback received invalid call info"

/-- The message of a class constructor for a wrong number of arguments. -/
def Runtime.constructorArityMessage : Runtime → String
  | python => "dynabridge Python constructor received wrong arity"
  | napi => "dynabridge N-API constructor received invalid call info"

/-- A call of a member of an exported object: `typed_callable_holder` on Python,
`typed_member_callback_holder` on N-API. -/
def Runtime.callMember (callable : B.Callable) (runtime : Runtime) (target : ClassTarget B.Ty)
    (name : String) (args : List Dynamic) : Except Failure Dynamic × Trace B :=
  callTyped B callable runtime.callbackArityMessage
    "dynabridge export member argument conversion failed" args (target.member? name)

/-- An invocation of an exported class: `class_constructor_holder` on Python,
`construct_signature` on N-API. -/
def Runtime.callConstructor (callable : B.Callable) (runtime : Runtime)
    (target : ClassTarget B.Ty) (args : List Dynamic) : Except Failure Dynamic × Trace B :=
  callTyped B callable runtime.constructorArityMessage
    "dynabridge export constructor argument conversion failed" args (runtime.constructorOf target)

/-- A call does what the declared signatures ask for: it invokes the first one that accepts the
arguments, and fails with a mismatch only if none does. -/
def MeetsDeclaration (sigs : List (Signature B.Ty)) (args : List Dynamic)
    (run : Except Failure Dynamic × Trace B) : Prop :=
  let selected := B.select (tupleExportArgAccessor args.length) args 0 (sigs.map .free)
  invocations B run.2.log = selected.toList ∧
    ∀ failure, run.1 = .error failure → failure.isMismatch = true → selected = none

end Calls

/-! ## What is defined after registration -/

section Registered

variable {Ty : Type}

@[simp] lemma ClassTarget.attributes_define_self (name : String) (value : Attribute Ty)
    (target : ClassTarget Ty) : (target.define name value).attributes name = some value :=
  Function.update_self ..

lemma ClassTarget.attributes_define_of_ne {name name' : String} (h : name' ≠ name)
    (value : Attribute Ty) (target : ClassTarget Ty) :
    (target.define name value).attributes name' = target.attributes name' :=
  Function.update_of_ne h ..

/-- Of the overloads of a group the last one stays defined. -/
lemma registerGroup_attributes_self (members : MemberGroup Ty) (target : ClassTarget Ty) :
    (registerGroup members target).attributes members.name =
      ((lastOverload 0 members.overloads).map .member).or (target.attributes members.name) := by
  unfold registerGroup lastOverload
  induction members.overloads.zipIdx using List.reverseRecOn with
  | nil => rfl
  | append_singleton overloads overload ih =>
    rw [List.foldl_append, List.getLast?_concat]
    exact ClassTarget.attributes_define_self ..

/-- Other names are not affected by a group. -/
lemma registerGroup_attributes_of_ne (members : MemberGroup Ty) {name : String}
    (h : name ≠ members.name) (target : ClassTarget Ty) :
    (registerGroup members target).attributes name = target.attributes name := by
  unfold registerGroup
  induction members.overloads.zipIdx using List.reverseRecOn with
  | nil => rfl
  | append_singleton overloads overload ih =>
    rw [List.foldl_append]
    exact (ClassTarget.attributes_define_of_ne h _ _).trans ih

/-- A group does not affect the constructor. -/
lemma constructorOf_registerGroup (runtime : Runtime) (members : MemberGroup Ty)
    (target : ClassTarget Ty) :
    runtime.constructorOf (registerGroup members target) = runtime.constructorOf target := by
  cases runtime with
  | python =>
    unfold Runtime.constructorOf
    dsimp only
    rw [registerGroup_attributes_of_ne members members.unreserved.2.symm]
  | napi =>
    unfold Runtime.constructorOf registerGroup
    induction members.overloads.zipIdx using List.reverseRecOn with
    | nil => rfl
    | append_singleton overloads overload ih =>
      rw [List.foldl_append]
      exact ih

/-- A constructor replaces the one before. -/
@[simp] lemma constructorOf_defineConstructor (runtime : Runtime) (overload : Overload Ty)
    (target : ClassTarget Ty) :
    runtime.constructorOf (runtime.defineConstructor overload target) = some overload := by
  cases runtime with
  | python =>
    unfold Runtime.constructorOf Runtime.defineConstructor
    dsimp only
    rw [ClassTarget.attributes_define_self]
  | napi => rfl

/-- A constructor does not affect the members. -/
lemma attributes_defineConstructor (runtime : Runtime) (overload : Overload Ty)
    (members : MemberGroup Ty) (target : ClassTarget Ty) :
    (runtime.defineConstructor overload target).attributes members.name =
      target.attributes members.name := by
  cases runtime with
  | python =>
    unfold Runtime.defineConstructor
    dsimp only
    rw [ClassTarget.attributes_define_of_ne members.unreserved.2,
      ClassTarget.attributes_define_of_ne members.unreserved.1]
  | napi => rfl

/-- Groups of other names do not affect a member. -/
lemma attributes_registerGroups_of_not_mem {groups : List (MemberGroup Ty)} {name : String}
    (h : name ∉ groups.map MemberGroup.name) (target : ClassTarget Ty) :
    (groups.foldl (fun target members => registerGroup members target) target).attributes name =
      target.attributes name := by
  induction groups generalizing target with
  | nil => rfl
  | cons first groups ih =>
    rw [List.map_cons, List.mem_cons, not_or] at h
    rw [List.foldl_cons, ih h.2, registerGroup_attributes_of_ne first h.1]

/-- A registered group is found under its name when no later group has the same name. -/
lemma attributes_registerGroups {groups : List (MemberGroup Ty)} {members : MemberGroup Ty}
    (hmem : members ∈ groups) (hdistinct : (groups.map MemberGroup.name).Nodup)
    {target : ClassTarget Ty} (hnone : target.attributes members.name = none) :
    (groups.foldl (fun target members => registerGroup members target) target).attributes
      members.name = (lastOverload 0 members.overloads).map .member := by
  induction groups generalizing target with
  | nil => exact absurd hmem List.not_mem_nil
  | cons first groups ih =>
    rw [List.map_cons, List.nodup_cons] at hdistinct
    rw [List.foldl_cons]
    rcases List.mem_cons.mp hmem with rfl | hmem
    · rw [attributes_registerGroups_of_not_mem hdistinct.1, registerGroup_attributes_self, hnone,
        Option.or_none]
    · refine ih hmem hdistinct.2 ?_
      rw [registerGroup_attributes_of_ne, hnone]
      exact fun heq => hdistinct.1 (heq ▸ List.mem_map_of_mem hmem)

/-- What the items of a class leave under a name is what their groups leave there. -/
lemma attributes_registerItems (runtime : Runtime) (members : MemberGroup Ty)
    (items : List (ClassItem Ty)) {target target' : ClassTarget Ty}
    (heq : target.attributes members.name = target'.attributes members.name) (k : ℕ) :
    (registerItems runtime k items target).attributes members.name =
      ((items.filterMap ClassItem.group?).foldl
        (fun target members => registerGroup members target) target').attributes members.name := by
  induction items generalizing k target target' with
  | nil => exact heq
  | cons item items ih =>
    rcases item with params | group
    · unfold registerItems
      refine ih ?_ (k + 1)
      rw [attributes_defineConstructor, heq]
    · unfold registerItems
      rw [List.filterMap_cons_some (f := ClassItem.group?) (b := group) rfl, List.foldl_cons]
      refine ih ?_ k
      by_cases hname : members.name = group.name
      · rw [hname, registerGroup_attributes_self, registerGroup_attributes_self, ← hname, heq]
      · rw [registerGroup_attributes_of_ne group hname, registerGroup_attributes_of_ne group hname,
          heq]

/-- After registration, the name of a group stands for its last overload. -/
theorem attributes_registerAll (runtime : Runtime) (decl : ClassDeclaration Ty)
    {members : MemberGroup Ty} (hmem : members ∈ decl.groups) :
    (registerAll runtime decl).attributes members.name =
      (lastOverload 0 members.overloads).map .member := by
  unfold registerAll
  rw [attributes_registerItems runtime members decl.items rfl 0, ← List.foldl_append]
  exact attributes_registerGroups hmem decl.distinct rfl

/-- Of the constructors of a class the last one stays defined. -/
lemma constructorOf_registerItems (runtime : Runtime) (items : List (ClassItem Ty))
    (target : ClassTarget Ty) (k : ℕ) :
    runtime.constructorOf (registerItems runtime k items target) =
      (lastOverload k (items.filterMap ClassItem.constructor?)).or
        (runtime.constructorOf target) := by
  induction items generalizing k target with
  | nil => rfl
  | cons item items ih =>
    rcases item with params | group
    · unfold registerItems
      rw [ih, constructorOf_defineConstructor,
        List.filterMap_cons_some (f := ClassItem.constructor?) (b := ⟨params, none⟩) rfl]
      unfold lastOverload
      rw [List.zipIdx_cons, List.getLast?_cons]
      cases ((items.filterMap ClassItem.constructor?).zipIdx (k + 1)).getLast? <;> rfl
    · unfold registerItems
      rw [ih, constructorOf_registerGroup,
        List.filterMap_cons_none (f := ClassItem.constructor?) rfl]

theorem constructorOf_registerAll (runtime : Runtime) (decl : ClassDeclaration Ty) :
    runtime.constructorOf (registerAll runtime decl) = lastOverload 0 decl.constructors := by
  have hgroups : runtime.constructorOf (decl.interfaces.flatten.foldl
      (fun target members => registerGroup members target) {}) = none := by
    induction decl.interfaces.flatten using List.reverseRecOn with
    | nil => cases runtime <;> rfl
    | append_singleton groups members ih =>
      rw [List.foldl_append]
      exact (constructorOf_registerGroup runtime members _).trans ih
  unfold registerAll
  rw [constructorOf_registerItems, hgroups, Option.or_none]
  rfl

end Registered

/-! ## What a call reaches -/

section Reached

variable {Dynamic : Type} (B : TestingBackend Dynamic)

/-- The typed invocation of a signature whose arguments convert ends as the callable does. -/
lemma invokeConverted_of_some (callable : B.Callable) (message : String) {args : List Dynamic}
    {overload : Overload B.Ty} {natives : B.Arguments overload.sig.types}
    (h : B.denote (tupleExportArgAccessor args.length) overload.sig.types args = some natives) :
    ∃ result left, (∀ failure, result = .error failure → failure.isMismatch = false) ∧
      invokeConverted B.toBackend callable message overload args =
        (result, ⟨left, conversions B.toBackend overload.index args ++
          [.invoke overload.index overload.sig natives]⟩) := by
  have hlen : overload.sig.types.length = args.length :=
    Backend.length_of_denote (by rw [h]; rfl)
  obtain ⟨left, -, hrun⟩ := exportOverloadCandidate_of_testing B callable
    (tupleExportArgAccessor args.length) overload.index (t := ⟨args, []⟩) hlen
  unfold invokeConverted
  rw [hrun, h]
  dsimp only
  rw [Backend.answer_some]
  cases callable overload.sig natives with
  | error e =>
    refine ⟨.error (.raised e), left, fun failure hfailure => ?_, rfl⟩
    obtain rfl := Except.error.inj hfailure
    rfl
  | ok result =>
    exact ⟨.ok (B.toExportResult overload.sig.result result), left,
      fun failure hfailure => (nomatch hfailure), rfl⟩

/-- The typed invocation of a signature whose arguments do not convert raises. -/
lemma invokeConverted_of_none (callable : B.Callable) (message : String) {args : List Dynamic}
    {overload : Overload B.Ty} (hlen : overload.sig.types.length = args.length)
    (h : B.denote (tupleExportArgAccessor args.length) overload.sig.types args = none) :
    ∃ left, invokeConverted B.toBackend callable message overload args =
      (.error (.conversionFailed (ascii message)),
        ⟨left, conversions B.toBackend overload.index args⟩) := by
  obtain ⟨left, -, hrun⟩ := exportOverloadCandidate_of_testing B callable
    (tupleExportArgAccessor args.length) overload.index (t := ⟨args, []⟩) hlen
  refine ⟨left, ?_⟩
  unfold invokeConverted
  rw [hrun, h]
  rfl

/-- A typed callback makes a call exactly when its signature accepts the arguments, and fails
with a mismatch exactly when it does not. -/
lemma callTyped_spec (callable : B.Callable) (arityMessage conversionMessage : String)
    (args : List Dynamic) (overload : Overload B.Ty) :
    let run := callTyped B.toBackend callable arityMessage conversionMessage args (some overload)
    match B.denote (tupleExportArgAccessor args.length) overload.sig.types args with
    | some natives => invocations B.toBackend run.2.log =
        [⟨overload.index, overload.sig, natives⟩] ∧
        ∀ failure, run.1 = .error failure → failure.isMismatch = false
    | none => invocations B.toBackend run.2.log = [] := by
  intro run
  by_cases hlen : overload.sig.types.length = args.length
  · have hrun : run = invokeConverted B.toBackend callable conversionMessage overload args :=
      if_neg (by simpa [bne] using hlen.symm)
    rw [hrun]
    cases hdenote : B.denote (tupleExportArgAccessor args.length) overload.sig.types args with
    | some natives =>
      obtain ⟨result, left, hresult, hinvoke⟩ :=
        invokeConverted_of_some B callable conversionMessage hdenote
      rw [hinvoke]
      refine ⟨?_, hresult⟩
      dsimp only
      rw [invocations_append, invocations_conversions]
      rfl
    | none =>
      obtain ⟨left, hinvoke⟩ := invokeConverted_of_none B callable conversionMessage hlen hdenote
      rw [hinvoke]
      exact invocations_conversions overload.index args
  · have hdenote :
        B.denote (tupleExportArgAccessor args.length) overload.sig.types args = none := by
      rw [← Option.not_isSome_iff_eq_none]
      exact fun hsome => hlen (Backend.length_of_denote hsome)
    have hrun : run = (.error (.wrongArity (ascii arityMessage)), ⟨args, []⟩) :=
      if_pos (by simpa [bne] using fun h : args.length = _ => hlen (by simpa using h.symm))
    rw [hrun, hdenote]
    rfl

/-- A callback for the last of some declared signatures does what the declarations ask for if
and only if all but the last of them reject the arguments. -/
theorem meetsDeclaration_lastOverload_iff (callable : B.Callable)
    (arityMessage conversionMessage : String) (sigs : List (Signature B.Ty))
    (args : List Dynamic) :
    MeetsDeclaration B.toBackend sigs args (callTyped B.toBackend callable arityMessage
      conversionMessage args (lastOverload 0 sigs)) ↔
    ∀ sig ∈ sigs.dropLast, B.denote (tupleExportArgAccessor args.length) sig.types args = none := by
  rcases List.eq_nil_or_concat sigs with rfl | ⟨earlier, last, rfl⟩
  · exact ⟨fun _ => by simp, fun _ => ⟨rfl, fun _ _ _ => rfl⟩⟩
  · have hlast : lastOverload 0 (earlier.concat last) = some ⟨earlier.length, last⟩ := by
      unfold lastOverload
      rw [List.concat_eq_append, List.zipIdx_append, List.zipIdx_singleton,
        List.getLast?_concat, Nat.zero_add]
      rfl
    have hspec := callTyped_spec B callable arityMessage conversionMessage args
      ⟨earlier.length, last⟩
    rw [hlast, List.concat_eq_append, List.dropLast_concat]
    unfold MeetsDeclaration
    dsimp only at hspec ⊢
    rw [List.map_append, Backend.select_append, Nat.zero_add, List.length_map]
    constructor
    · rintro ⟨hcalls, -⟩
      refine Backend.select_eq_none_iff.mp (?_ : B.select _ _ 0 _ = none)
      -- a call of an earlier signature is not the call that the callback makes
      cases hselect : B.select (tupleExportArgAccessor args.length) args 0
        (earlier.map .free) with
      | none => rfl
      | some call =>
        have hlt := Backend.candidate_lt_of_select hselect
        rw [hselect, Option.some_or, Option.toList_some] at hcalls
        rw [hcalls] at hspec
        cases hdenote : B.denote (tupleExportArgAccessor args.length) last.types args with
        | some natives =>
          rw [hdenote] at hspec
          obtain rfl := List.head_eq_of_cons_eq hspec.1
          simp at hlt
        | none =>
          rw [hdenote] at hspec
          cases hspec
    · intro hreject
      rw [Backend.select_eq_none_iff.mpr hreject, Option.none_or]
      cases hdenote : B.denote (tupleExportArgAccessor args.length) last.types args with
      | some natives =>
        rw [hdenote] at hspec
        rw [List.map_cons, Backend.select_cons_of_some hdenote]
        refine ⟨hspec.1, fun failure hfailure hmismatch => ?_⟩
        exact absurd (hmismatch.symm.trans (hspec.2 failure hfailure)) Bool.true_eq_false.mp
      | none =>
        rw [hdenote] at hspec
        rw [List.map_cons, Backend.select_cons_of_none hdenote]
        exact ⟨hspec, fun _ _ _ => rfl⟩

/-- After `register_all` on either backend, a call of a member, or of the class, does what the
declared signatures of its group ask for if and only if every signature of the group but the
last one declared rejects the arguments. -/
theorem meetsDeclaration_registerAll_iff (callable : B.Callable) (runtime : Runtime)
    (decl : ClassDeclaration B.Ty) (args : List Dynamic) :
    (∀ members ∈ decl.groups,
      MeetsDeclaration B.toBackend members.overloads args
        (runtime.callMember B.toBackend callable (registerAll runtime decl) members.name args) ↔
      ∀ sig ∈ members.overloads.dropLast,
        B.denote (tupleExportArgAccessor args.length) sig.types args = none) ∧
    (MeetsDeclaration B.toBackend decl.constructors args
        (runtime.callConstructor B.toBackend callable (registerAll runtime decl) args) ↔
      ∀ sig ∈ decl.constructors.dropLast,
        B.denote (tupleExportArgAccessor args.length) sig.types args = none) := by
  refine ⟨fun members hmem => ?_, ?_⟩
  · have hattribute := attributes_registerAll runtime decl hmem
    have hmember : (registerAll runtime decl).member? members.name =
        lastOverload 0 members.overloads := by
      unfold ClassTarget.member?
      rw [hattribute]
      cases lastOverload 0 members.overloads <;> rfl
    unfold Runtime.callMember
    rw [hmember]
    exact meetsDeclaration_lastOverload_iff B callable _ _ _ _
  · unfold Runtime.callConstructor
    rw [constructorOf_registerAll]
    exact meetsDeclaration_lastOverload_iff B callable _ _ _ _

/-- A class with the members `add(x)` and `add(x, y)`: after registration a call with one
argument, which the first of them accepts, fails. -/
theorem not_meetsDeclaration_of_two_overloads :
    ¬ MeetsDeclaration digitBackend
      [⟨[⟨.value, ()⟩], some ()⟩, ⟨[⟨.value, ()⟩, ⟨.value, ()⟩], some ()⟩] [3]
      (Runtime.python.callMember digitBackend
        (fun sig _ =>
          match sig with
          | ⟨_, none⟩ => .ok ()
          | ⟨_, some _⟩ => .ok (0 : ℕ))
        (registerAll .python
          ⟨[], [.group ⟨"add",
            [⟨[⟨.value, ()⟩], some ()⟩, ⟨[⟨.value, ()⟩, ⟨.value, ()⟩], some ()⟩], by decide⟩],
            by decide⟩) "add" [3]) := by
  rintro ⟨-, hmismatch⟩
  exact absurd (hmismatch (.wrongArity _) rfl rfl) (by decide)

end Reached

end Dynabridge.Export
