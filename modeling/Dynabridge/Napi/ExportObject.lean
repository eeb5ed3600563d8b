import Dynabridge.ErrorPolicy

/-!
# Exported objects on the N-API backend

An exported object is a JavaScript object that carries the type tag of its class and a wrapped
pointer to the native proxy.  JavaScript obtains one by invoking the class constructor; C++
obtains one through `make_export_object`, which allocates the proxy first and hands it to the
constructor in an external.

Whether a Node-API call succeeds is decided by the environment.  Every call of the source has
its own flag in `ConstructorCalls` or `MakeCalls`; a call that cannot succeed, such as wrapping
an object that is wrapped already, fails whatever the flag says.
-/

namespace Dynabridge.Napi

/-! ## The environment -/

/-- A pointer that `napi_wrap` has stored in an object, and who called it there. -/
inductive Wrapped (Class : Type)
  /-- a native proxy, stored by `construct_export_object_from_native` for the class -/
  | exported (cls : Class) (receiver : ℕ)
  /-- a pointer of another add-on -/
  | foreign (data : ℕ)
  deriving DecidableEq

/-- What Node-API keeps with an object.  The `napi_type_tag` of a class is determined by
`type_key`, so the class stands for it. -/
structure JsObject (Class : Type) where
  typeTag : Option Class := none
  wrapped : Option (Wrapped Class) := none
  deriving DecidableEq

/-- The objects, by handle; the number of native proxies that `construct_native` has allocated;
those passed to `destroy_native`; and `handoff.receiver` of the `make_export_object` call in
progress. -/
structure World (Class : Type) where
  objects : List (JsObject Class) := []
  natives : ℕ := 0
  destroyed : List ℕ := []
  handoff : Option ℕ := none
  deriving DecidableEq

variable {Class Value : Type}

/-- `construct_native`: the new proxy has the next number. -/
def World.constructNative (w : World Class) : World Class := { w with natives := w.natives + 1 }

/-- `destroy_native` -/
def World.destroyNative (receiver : ℕ) (w : World Class) : World Class :=
  { w with destroyed := w.destroyed ++ [receiver] }

/-- A new object, whose handle is the number of objects so far. -/
def World.createObject (w : World Class) : World Class :=
  { w with objects := w.objects ++ [{}] }

/-- `napi_type_tag_object`, which fails without an object and on a tagged one. -/
def napiTypeTagObject (ok : Bool) (object : Option ℕ) (tag : Class) (w : World Class) :
    Bool × World Class :=
  match object.bind (w.objects[·]?), object with
  | some ⟨none, wrapped⟩, some handle =>
    if ok then (true, { w with objects := w.objects.set handle ⟨some tag, wrapped⟩ })
    else (false, w)
  | _, _ => (false, w)

/-- `napi_wrap`, which fails without an object and on a wrapped one. -/
def napiWrap (ok : Bool) (object : Option ℕ) (pointer : Wrapped Class) (w : World Class) :
    Bool × World Class :=
  match object.bind (w.objects[·]?), object with
  | some ⟨tag, none⟩, some handle =>
    if ok then (true, { w with objects := w.objects.set handle ⟨tag, some pointer⟩ })
    else (false, w)
  | _, _ => (false, w)

lemma napiTypeTagObject_of_untagged (ok : Bool) {handle : ℕ} {wrapped : Option (Wrapped Class)}
    (tag : Class) {w : World Class} (hget : w.objects[handle]? = some ⟨none, wrapped⟩) :
    napiTypeTagObject ok (some handle) tag w =
      if ok then (true, { w with objects := w.objects.set handle ⟨some tag, wrapped⟩ })
      else (false, w) := by
  simp only [napiTypeTagObject, Option.bind_some, hget]

lemma napiWrap_of_unwrapped (ok : Bool) {handle : ℕ} {tag : Option Class}
    (pointer : Wrapped Class) {w : World Class} (hget : w.objects[handle]? = some ⟨tag, none⟩) :
    napiWrap ok (some handle) pointer w =
      if ok then (true, { w with objects := w.objects.set handle ⟨tag, some pointer⟩ })
      else (false, w) := by
  simp only [napiWrap, Option.bind_some, hget]

/-- An object is tagged when it had no tag, and otherwise nothing happens. -/
lemma napiTypeTagObject_cases (ok : Bool) (object : Option ℕ) (tag : Class) (w : World Class) :
    (∃ handle wrapped, object = some handle ∧ w.objects[handle]? = some ⟨none, wrapped⟩ ∧
      ok = true ∧ napiTypeTagObject ok object tag w =
        (true, { w with objects := w.objects.set handle ⟨some tag, wrapped⟩ })) ∨
    napiTypeTagObject ok object tag w = (false, w) := by
  unfold napiTypeTagObject
  split
  · rename_i wrapped handle hget
    split
    · rename_i hok
      exact .inl ⟨handle, wrapped, rfl, hget, hok, rfl⟩
    · exact .inr rfl
  · exact .inr rfl

/-- An object is wrapped when it had no wrapped pointer, and otherwise nothing happens. -/
lemma napiWrap_cases (ok : Bool) (object : Option ℕ) (pointer : Wrapped Class)
    (w : World Class) :
    (∃ handle tag, object = some handle ∧ w.objects[handle]? = some ⟨tag, none⟩ ∧
      ok = true ∧ napiWrap ok object pointer w =
        (true, { w with objects := w.objects.set handle ⟨tag, some pointer⟩ })) ∨
    napiWrap ok object pointer w = (false, w) := by
  unfold napiWrap
  split
  · rename_i tag handle hget
    split
    · rename_i hok
      exact .inl ⟨handle, tag, rfl, hget, hok, rfl⟩
    · exact .inr rfl
  · exact .inr rfl

/-- `throw std::runtime_error(message)` -/
def throwRuntimeError {α : Type} (message : String) : Except Raised α :=
  .error (.stdException (ascii message))

/-- `check` -/
def check (ok : Bool) (message : String) : Except Raised Unit :=
  if ok then .ok () else throwRuntimeError message

/-! ## The class constructor -/

/-- An argument of a constructor callback. -/
inductive Argument (Value : Type)
  /-- the external that `make_export_object` passes -/
  | handoff
  /-- any other JavaScript value; an external of another add-on does not carry the magic -/
  | value (v : Value)

/-- `napi_callback_info`, as the constructor callbacks read it. -/
structure CallbackInfo (Value : Type) where
  self : Option ℕ
  argv : List (Argument Value)

/-- The Node-API calls that one constructor callback makes. -/
structure ConstructorCalls where
  /-- of `class_constructor` -/
  getCbInfo : Bool := true
  createObject : Bool := true
  /-- of `try_construct_external_proxy` -/
  getHandoffInfo : Bool := true
  getValueExternal : Bool := true
  /-- of `construct_signature` -/
  getArgumentInfo : Bool := true
  typeTagObject : Bool := true
  wrap : Bool := true
  createReference : Bool := true
  deriving DecidableEq

/-- A constructor that `set_constructor` has installed: the number of its parameters, and the
outcome of converting the arguments and running the C++ constructor on them. -/
structure Constructor (Value : Type) where
  arity : ℕ
  run : List (Argument Value) → Except Raised Unit

/-- `class_state`, whose `construct_` is `missing_constructor_entry` at first. -/
structure ClassState (Value : Type) where
  construct : Option (Constructor Value) := none

/-- `object_t::reset(env, value)` of an object without a reference. -/
def reset (ok : Bool) (value : Option ℕ) : Except Raised Unit :=
  match value with
  | none => .ok ()
  | some _ => check ok "napi_create_reference failed"

/-- `construct_export_object_from_native`.  Objects are tagged from `NAPI_VERSION` 8 on. -/
def constructExportObjectFromNative (napiVersion : ℕ) (cls : Class) (calls : ConstructorCalls)
    (self : Option ℕ) (receiver : ℕ) (w : World Class) : Except Raised Unit × World Class :=
  let tagged :=
    if 8 ≤ napiVersion then napiTypeTagObject calls.typeTagObject self cls w else (true, w)
  if !tagged.1 then
    (throwRuntimeError "napi_type_tag_object failed", tagged.2.destroyNative receiver)
  else
    let wrapped := napiWrap calls.wrap self (.exported cls receiver) tagged.2
    if !wrapped.1 then (throwRuntimeError "napi_wrap failed", wrapped.2.destroyNative receiver)
    else (reset calls.createReference self, wrapped.2)

/-- `try_construct_external_proxy`, which forgets the receiver of the handoff only once its
object is complete. -/
def tryConstructExternalProxy (napiVersion : ℕ) (cls : Class) (calls : ConstructorCalls)
    (info : CallbackInfo Value) (self : Option ℕ) (w : World Class) :
    Except Raised Bool × World Class :=
  match calls.getHandoffInfo && calls.getValueExternal, info.argv, w.handoff with
  | true, [.handoff], some receiver =>
    match constructExportObjectFromNative napiVersion cls calls self receiver w with
    | (.error e, w) => (.error e, w)
    | (.ok (), w) => (.ok true, { w with handoff := none })
  | _, _, _ => (.ok false, w)

/-- `construct_export_object_impl` -/
def constructExportObject (napiVersion : ℕ) (cls : Class) (calls : ConstructorCalls)
    (self : Option ℕ) (w : World Class) : Except Raised Unit × World Class :=
  constructExportObjectFromNative napiVersion cls calls self w.natives w.constructNative

/-- `construct_signature` of an installed constructor -/
def constructSignature (napiVersion : ℕ) (cls : Class) (constructor : Constructor Value)
    (calls : ConstructorCalls) (info : CallbackInfo Value) (self : Option ℕ) (w : World Class) :
    Except Raised Unit × World Class :=
  if !calls.getArgumentInfo || info.argv.length != constructor.arity then
    (throwRuntimeError "dynabridge N-API constructor received invalid call info", w)
  else
    match constructor.run info.argv with
    | .error e => (.error e, w)
    | .ok () => constructExportObject napiVersion cls calls self w

/-- `class_state::construct_entry` -/
def constructEntry (napiVersion : ℕ) (cls : Class) (state : ClassState Value)
    (calls : ConstructorCalls) (info : CallbackInfo Value) (self : Option ℕ) (w : World Class) :
    Except Raised Unit × World Class :=
  match tryConstructExternalProxy napiVersion cls calls info self w with
  | (.error e, w) => (.error e, w)
  | (.ok true, w) => (.ok (), w)
  | (.ok false, w) =>
    match state.construct with
    | none => (throwRuntimeError "dynabridge N-API class has no exported constructor", w)
    | some constructor => constructSignature napiVersion cls constructor calls info self w

/-- The receiver of a constructor callback: `class_constructor` makes an object when it is
called without one. -/
def selfOrNew (calls : ConstructorCalls) (info : CallbackInfo Value) (w : World Class) :
    Option ℕ × World Class :=
  match info.self with
  | some handle => (some handle, w)
  | none => if calls.createObject then (some w.objects.length, w.createObject) else (none, w)

/-- `class_constructor`.  An error is the exception left pending by `napi_throw_error`; `none`
is the `nullptr` returned without one. -/
def classConstructor (napiVersion : ℕ) (cls : Class) (state : ClassState Value)
    (calls : ConstructorCalls) (info : CallbackInfo Value) (w : World Class) :
    Except Raised (Option ℕ) × World Class :=
  if !calls.getCbInfo then (.ok none, w)
  else
    let receiver := selfOrNew calls info w
    match constructEntry napiVersion cls state calls info receiver.1 receiver.2 with
    | (.error e, w) => (.error e, w)
    | (.ok (), w) => (.ok receiver.1, w)

/-! ## Making an object from C++ -/

/-- The Node-API calls of one `make_export_object`. -/
structure MakeCalls where
  createExternal : Bool := true
  /-- of `class_target_t::constructor` -/
  getReferenceValue : Bool := true
  /-- whether `napi_new_instance` gets as far as invoking the constructor -/
  invokesConstructor : Bool := true
  constructor : ConstructorCalls := {}
  /-- whether `napi_new_instance` succeeds once the constructor has returned -/
  newInstance : Bool := true
  /-- of the returned `object_t` -/
  createReference : Bool := true
  deriving DecidableEq

/-- `napi_new_instance` of a class constructor on the external: a new object is the receiver,
and an exception raised by the constructor makes the call fail. -/
def napiNewInstance (napiVersion : ℕ) (cls : Class) (state : ClassState Value)
    (calls : MakeCalls) (w : World Class) : Option ℕ × World Class :=
  if !calls.invokesConstructor then (none, w)
  else
    let this := w.objects.length
    match classConstructor napiVersion cls state calls.constructor ⟨some this, [.handoff]⟩
      w.createObject with
    | (.error _, w) => (none, w)
    | (.ok _, w) => if calls.newInstance then (some this, w) else (none, w)

/-- `make_export_object_impl` from the allocated proxy on.  The handoff ends with the call. -/
def makeFromHandoff (napiVersion : ℕ) (cls : Class) (state : ClassState Value)
    (calls : MakeCalls) (receiver : ℕ) (w : World Class) : Except Raised ℕ × World Class :=
  if !calls.createExternal then
    (throwRuntimeError "napi_create_external failed", w.destroyNative receiver)
  else if !calls.getReferenceValue then
    (throwRuntimeError "napi_get_reference_value failed for class constructor", w)
  else
    match napiNewInstance napiVersion cls state calls w with
    | (some value, w) =>
      match w.handoff with
      | none => ((reset calls.createReference (some value)).map fun _ => value, w)
      | some receiver =>
        (throwRuntimeError "napi_new_instance failed for exported object",
          w.destroyNative receiver)
    | (none, w) =>
      (throwRuntimeError "napi_new_instance failed for exported object",
        match w.handoff with
        | none => w
        | some receiver => w.destroyNative receiver)

/-- `make_export_object_impl`: `native` is the outcome of the C++ constructor. -/
def makeExportObject (napiVersion : ℕ) (classes : Class → Option (ClassState Value)) (cls : Class)
    (native : Except Raised Unit) (calls : MakeCalls) (w : World Class) :
    Except Raised ℕ × World Class :=
  match classes cls with
  | none => (throwRuntimeError "dynabridge export class is not registered in this context", w)
  | some state =>
    match native with
    | .error e => (.error e, w)
    | .ok () =>
      let made := makeFromHandoff napiVersion cls state calls w.natives
        { w.constructNative with handoff := some w.natives }
      (made.1, { made.2 with handoff := none })

/-! ## Reading an object -/

/-- The Node-API calls of one `checked_unwrap_export_object`. -/
structure UnwrapCalls where
  checkObjectTypeTag : Bool := true
  unwrap : Bool := true

/-- `checked_unwrap_export_object` from `NAPI_VERSION` 8 on. -/
def checkedUnwrapExportObject [DecidableEq Class] (cls : Class) (calls : UnwrapCalls)
    (value : Option ℕ) (w : World Class) : Option (Wrapped Class) :=
  match value.bind (w.objects[·]?) with
  | none => none
  | some object =>
    if !calls.checkObjectTypeTag || object.typeTag != some cls then none
    else if !calls.unwrap then none
    else object.wrapped

/-! ## Histories -/

/-- What can happen to the objects of an environment. -/
inductive Operation (Class Value : Type)
  /-- JavaScript makes an object. -/
  | createObject
  /-- Another add-on calls `napi_wrap`. -/
  | foreignWrap (ok : Bool) (object : Option ℕ) (data : ℕ)
  /-- JavaScript invokes a class constructor, with `new` or without. -/
  | construct (cls : Class) (calls : ConstructorCalls) (info : CallbackInfo Value)
  /-- C++ calls `make_export_object`. -/
  | makeExportObject (cls : Class) (native : Except Raised Unit) (calls : MakeCalls)

/-- What an operation does.  Code that runs in the conversions or in the C++ constructor of an
operation is over before the operation touches an object, so its own operations come first. -/
def Operation.perform (napiVersion : ℕ) (classes : Class → Option (ClassState Value)) :
    Operation Class Value → World Class → World Class
  | createObject, w => w.createObject
  | foreignWrap ok object data, w => (napiWrap ok object (.foreign data) w).2
  | construct cls calls info, w =>
    match classes cls with
    | none => w
    | some state => (classConstructor napiVersion cls state calls info w).2
  | makeExportObject cls native calls, w =>
    (Napi.makeExportObject napiVersion classes cls native calls w).2

/-- A history, from an environment without objects. -/
def history (napiVersion : ℕ) (classes : Class → Option (ClassState Value))
    (operations : List (Operation Class Value)) : World Class :=
  operations.foldl (fun w operation => operation.perform napiVersion classes w) {}

end Dynabridge.Napi
