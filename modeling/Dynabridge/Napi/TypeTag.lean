import Dynabridge.Napi.Ownership

/-!
# Soundness of checked receivers

`checked_unwrap_export_object` trusts the type tag of an object: if the tag is that of the
class, the wrapped pointer is taken for a proxy of the class.  Tagging and wrapping are two
calls, though, and a tag is never taken back, so the trust is misplaced once another add-on
wraps an object that a failed construction has tagged, or a construction tags an object that
another add-on has wrapped.  These two steps are the only ones that break it.
-/

namespace Dynabridge.Napi

variable {Class Value : Type}

/-! ## Objects that can be trusted -/

/-- A checked unwrap yields proxies of the class it is asked for and nothing else. -/
def World.CheckedUnwrapSound [DecidableEq Class] (w : World Class) : Prop :=
  ∀ cls calls value pointer, checkedUnwrapExportObject cls calls value w = some pointer →
    ∃ receiver, pointer = .exported cls receiver

/-- A wrapped proxy stands under the tag of its class, and under a tag nothing else. -/
def JsObject.Sound (object : JsObject Class) : Prop :=
  (∀ cls receiver, object.wrapped = some (.exported cls receiver) → object.typeTag = some cls) ∧
    ∀ cls pointer, object.typeTag = some cls → object.wrapped = some pointer →
      ∃ receiver, pointer = .exported cls receiver

/-- Every object of a list is sound. -/
def ObjectsSound (objects : List (JsObject Class)) : Prop := ∀ object ∈ objects, object.Sound

lemma JsObject.sound_new : ({} : JsObject Class).Sound := ⟨by simp, by simp⟩

lemma ObjectsSound.append_new {objects : List (JsObject Class)} (h : ObjectsSound objects) :
    ObjectsSound (objects ++ [({} : JsObject Class)]) := by
  intro object hobject
  rcases List.mem_append.mp hobject with hold | hnew
  · exact h object hold
  · rw [List.mem_singleton.mp hnew]
    exact JsObject.sound_new

lemma ObjectsSound.set {objects : List (JsObject Class)} (h : ObjectsSound objects) (handle : ℕ)
    {object : JsObject Class} (hobject : object.Sound) :
    ObjectsSound (objects.set handle object) := by
  intro other hother
  rcases List.mem_or_eq_of_mem_set hother with hold | rfl
  · exact h other hold
  · exact hobject

/-- Checked unwraps of sound objects are sound. -/
lemma ObjectsSound.checkedUnwrapSound [DecidableEq Class] {w : World Class}
    (h : ObjectsSound w.objects) : w.CheckedUnwrapSound := by
  intro cls calls value pointer hunwrap
  unfold checkedUnwrapExportObject at hunwrap
  split at hunwrap
  · cases hunwrap
  · rename_i object hget
    obtain ⟨handle, -, hget⟩ := Option.bind_eq_some_iff.mp hget
    split at hunwrap
    · cases hunwrap
    · rename_i hcheck
      have htag : object.typeTag = some cls := by
        simp only [Bool.or_eq_true, Bool.not_eq_true', bne_iff_ne, not_or, not_not] at hcheck
        exact hcheck.2
      split at hunwrap
      · cases hunwrap
      · exact (h object (List.mem_of_getElem? hget)).2 cls pointer htag hunwrap

/-- A checked unwrap hands out a foreign pointer that stands under a tag. -/
lemma not_checkedUnwrapSound [DecidableEq Class] {w : World Class} {handle : ℕ} {cls : Class}
    {data : ℕ} (hget : w.objects[handle]? = some ⟨some cls, some (.foreign data)⟩) :
    ¬ w.CheckedUnwrapSound := by
  intro h
  have hunwrap : checkedUnwrapExportObject cls {} (some handle) w = some (.foreign data) := by
    simp [checkedUnwrapExportObject, hget]
  obtain ⟨receiver, hpointer⟩ := h cls {} (some handle) (.foreign data) hunwrap
  cases hpointer

/-! ## What a construction does to its object -/

/-- A construction for a class leaves the objects alone, or tags an untagged one and possibly
wraps a proxy in it. -/
def Constructs (cls : Class) (tags : Bool) (self : Option ℕ)
    (objects objects' : List (JsObject Class)) : Prop :=
  objects' = objects ∨ tags = true ∧ ∃ handle wrapped, self = some handle ∧
    objects[handle]? = some ⟨none, wrapped⟩ ∧
    (objects' = objects.set handle ⟨some cls, wrapped⟩ ∨ wrapped = none ∧ ∃ receiver,
      objects' = objects.set handle ⟨some cls, some (.exported cls receiver)⟩)

/-- A construction keeps objects sound unless it tags an untagged object that carries a foreign
pointer. -/
lemma ObjectsSound.constructs {cls : Class} {tags : Bool} {self : Option ℕ}
    {objects objects' : List (JsObject Class)} (h : ObjectsSound objects)
    (hconstructs : Constructs cls tags self objects objects')
    (hfree : tags = true → ∀ handle data, self = some handle →
      objects[handle]? ≠ some ⟨none, some (.foreign data)⟩) : ObjectsSound objects' := by
  rcases hconstructs with rfl | ⟨htags, handle, wrapped, hself, hget, hset⟩
  · exact h
  have hsound := h _ (List.mem_of_getElem? hget)
  -- before the construction the object carries no pointer at all
  have hnone : wrapped = none := by
    rcases wrapped with _ | ⟨cls', receiver⟩ | data
    · rfl
    · exact absurd (hsound.1 cls' receiver rfl) (by simp)
    · exact absurd hget (hfree htags handle data hself)
  subst hnone
  rcases hset with rfl | ⟨-, receiver, rfl⟩
  · exact h.set handle ⟨by simp, by simp⟩
  · refine h.set handle ⟨?_, ?_⟩
    · intro cls' receiver' heq
      simp only [Option.some.injEq, Wrapped.exported.injEq] at heq
      rw [heq.1]
    · intro cls' pointer htag hwrapped
      obtain rfl : cls = cls' := Option.some.inj htag
      exact ⟨receiver, (Option.some.inj hwrapped).symm⟩

/-- What `construct_export_object_from_native` does to the objects. -/
lemma constructs_constructExportObjectFromNative {napiVersion : ℕ} (hversion : 8 ≤ napiVersion)
    (cls : Class) (calls : ConstructorCalls) (self : Option ℕ) (receiver : ℕ) (w : World Class) :
    Constructs cls calls.typeTagObject self w.objects
      (constructExportObjectFromNative napiVersion cls calls self receiver w).2.objects := by
  unfold constructExportObjectFromNative
  rw [if_pos hversion]
  rcases napiTypeTagObject_cases calls.typeTagObject self cls w with
    ⟨handle, wrapped, rfl, hget, hok, hrun⟩ | hrun
  · rw [hrun]
    refine .inr ⟨hok, handle, wrapped, rfl, hget, ?_⟩
    have hlt : handle < w.objects.length := (List.getElem?_eq_some_iff.mp hget).1
    rcases napiWrap_cases calls.wrap (some handle) (.exported cls receiver)
        { w with objects := w.objects.set handle ⟨some cls, wrapped⟩ } with
      ⟨handle', tag, hhandle, hget', -, hrun'⟩ | hrun'
    · obtain rfl : handle = handle' := Option.some.inj hhandle
      rw [List.getElem?_set_self hlt, Option.some.injEq, JsObject.mk.injEq] at hget'
      refine .inr ⟨hget'.2, receiver, ?_⟩
      simp [hrun', ← hget'.1]
    · exact .inl (by simp [hrun', World.destroyNative])
  · rw [hrun]
    exact .inl rfl

/-- An untagged object with a foreign pointer is tagged and keeps its pointer. -/
lemma constructExportObjectFromNative_of_foreign {napiVersion : ℕ} (hversion : 8 ≤ napiVersion)
    (cls : Class) {calls : ConstructorCalls} (hok : calls.typeTagObject = true) {handle data : ℕ}
    (receiver : ℕ) {w : World Class}
    (hget : w.objects[handle]? = some ⟨none, some (.foreign data)⟩) :
    (constructExportObjectFromNative napiVersion cls calls (some handle) receiver
      w).2.objects[handle]? = some ⟨some cls, some (.foreign data)⟩ := by
  have hlt : handle < w.objects.length := (List.getElem?_eq_some_iff.mp hget).1
  have hset : (w.objects.set handle ⟨some cls, some (.foreign data)⟩)[handle]? =
      some ⟨some cls, some (.foreign data)⟩ := List.getElem?_set_self hlt
  unfold constructExportObjectFromNative
  rw [if_pos hversion, napiTypeTagObject_of_untagged _ cls hget, hok]
  simp [napiWrap, hset, World.destroyNative]

/-! ## Steps that break soundness -/

/-- The invocation gets as far as tagging its object: the constructor is installed and accepts
the arguments. -/
def ClassState.reachesTag (state : ClassState Value) (calls : ConstructorCalls)
    (info : CallbackInfo Value) : Bool :=
  calls.getCbInfo &&
    match state.construct with
    | none => false
    | some constructor =>
      calls.getArgumentInfo && info.argv.length == constructor.arity &&
        (constructor.run info.argv).toBool

/-- The operation puts a foreign pointer and a type tag together: a constructor tags an object
that another add-on has wrapped, or another add-on wraps an object that has been tagged and not
wrapped. -/
def Operation.Exposes (classes : Class → Option (ClassState Value)) (w : World Class) :
    Operation Class Value → Prop
  | construct cls calls info =>
    (∃ state, classes cls = some state ∧ state.reachesTag calls info = true) ∧
      calls.typeTagObject = true ∧
      ∃ handle data, info.self = some handle ∧
        w.objects[handle]? = some ⟨none, some (.foreign data)⟩
  | foreignWrap ok object _ =>
    ok = true ∧ ∃ handle cls, object = some handle ∧ w.objects[handle]? = some ⟨some cls, none⟩
  | _ => False

/-- The object of a constructor callback is new, or it is the receiver of the call. -/
lemma selfOrNew_cases (calls : ConstructorCalls) (info : CallbackInfo Value) (w : World Class) :
    selfOrNew calls info w = (info.self, w) ∨
      selfOrNew calls info w = (some w.objects.length, w.createObject) := by
  unfold selfOrNew
  split
  · rename_i handle hself
    exact .inl (by rw [hself])
  · rename_i hself
    split
    · exact .inr rfl
    · exact .inl (by rw [hself])

/-- What an invocation of a constructor does to the objects when there is no handoff to find:
nothing, or the construction that its constructor asks for. -/
lemma constructEntry_of_not_findsHandoff (napiVersion : ℕ) (cls : Class)
    (state : ClassState Value) {calls : ConstructorCalls} (hinfo : calls.getCbInfo = true)
    (info : CallbackInfo Value) (self : Option ℕ) {w : World Class}
    (hfinds : ¬ calls.findsHandoff info w) :
    (state.reachesTag calls info = false ∧
      (constructEntry napiVersion cls state calls info self w).2.objects = w.objects) ∨
    (state.reachesTag calls info = true ∧
      (constructEntry napiVersion cls state calls info self w).2 =
        (constructExportObject napiVersion cls calls self w).2) := by
  unfold constructEntry ClassState.reachesTag
  rw [tryConstructExternalProxy_of_not_findsHandoff napiVersion cls self hfinds, hinfo]
  dsimp only
  cases state.construct with
  | none => exact .inl ⟨rfl, rfl⟩
  | some constructor =>
    dsimp only
    unfold constructSignature
    by_cases hargs : (calls.getArgumentInfo && info.argv.length == constructor.arity) = true
    · rw [if_neg (by simpa [bne, Bool.and_eq_true] using hargs), hargs]
      cases constructor.run info.argv with
      | error e => exact .inl ⟨rfl, rfl⟩
      | ok u => exact .inr ⟨rfl, rfl⟩
    · rw [if_pos (by simpa [bne, Bool.and_eq_true, imp_iff_not_or] using hargs),
        eq_false_of_ne_true hargs]
      exact .inl ⟨rfl, rfl⟩

lemma constructs_tryConstructExternalProxy {napiVersion : ℕ} (hversion : 8 ≤ napiVersion)
    (cls : Class) (calls : ConstructorCalls) (info : CallbackInfo Value) (self : Option ℕ)
    (w : World Class) :
    tryConstructExternalProxy napiVersion cls calls info self w = (.ok false, w) ∨
    (tryConstructExternalProxy napiVersion cls calls info self w).1 ≠ .ok false ∧
      Constructs cls calls.typeTagObject self w.objects
        (tryConstructExternalProxy napiVersion cls calls info self w).2.objects := by
  unfold tryConstructExternalProxy
  split
  · rename_i receiver _ _ _
    have hconstructs := constructs_constructExportObjectFromNative hversion cls calls self
      receiver w
    generalize constructExportObjectFromNative napiVersion cls calls self receiver w = run
      at hconstructs
    obtain ⟨result, w'⟩ := run
    cases result with
    | error e => exact .inr ⟨by simp, hconstructs⟩
    | ok u => exact .inr ⟨by simp, hconstructs⟩
  · exact .inl rfl

/-- What an invocation of a constructor does to the objects in any case. -/
lemma constructs_constructEntry {napiVersion : ℕ} (hversion : 8 ≤ napiVersion) (cls : Class)
    (state : ClassState Value) (calls : ConstructorCalls) (info : CallbackInfo Value)
    (self : Option ℕ) (w : World Class) :
    Constructs cls calls.typeTagObject self w.objects
      (constructEntry napiVersion cls state calls info self w).2.objects := by
  unfold constructEntry
  rcases constructs_tryConstructExternalProxy hversion cls calls info self w with
    htry | ⟨hne, hconstructs⟩
  · rw [htry]
    dsimp only
    split
    · exact .inl rfl
    · unfold constructSignature
      split
      · exact .inl rfl
      · split
        · exact .inl rfl
        · exact constructs_constructExportObjectFromNative hversion cls calls self w.natives
            w.constructNative
  · generalize tryConstructExternalProxy napiVersion cls calls info self w = run
      at hne hconstructs
    obtain ⟨result, w'⟩ := run
    rcases result with e | _ | _
    · exact hconstructs
    · exact absurd rfl hne
    · exact hconstructs

/-! ## Histories -/

/-- The objects after an invocation of the class constructor, whose receiver is settled first. -/
lemma classConstructor_objects (napiVersion : ℕ) (cls : Class) (state : ClassState Value)
    (calls : ConstructorCalls) (info : CallbackInfo Value) (w : World Class) :
    (classConstructor napiVersion cls state calls info w).2 =
      if calls.getCbInfo then
        (constructEntry napiVersion cls state calls info (selfOrNew calls info w).1
          (selfOrNew calls info w).2).2
      else w := by
  unfold classConstructor
  cases calls.getCbInfo
  · rfl
  · dsimp only
    generalize constructEntry napiVersion cls state calls info (selfOrNew calls info w).1
      (selfOrNew calls info w).2 = run
    obtain ⟨result, w'⟩ := run
    cases result <;> rfl

/-- A constructor that runs on a new object keeps the objects sound. -/
lemma objectsSound_classConstructor_new {napiVersion : ℕ} (hversion : 8 ≤ napiVersion)
    (cls : Class) (state : ClassState Value) (calls : ConstructorCalls)
    (argv : List (Argument Value)) {handle : ℕ} {w : World Class}
    (hnew : w.objects[handle]? = some {}) (h : ObjectsSound w.objects) :
    ObjectsSound
      (classConstructor napiVersion cls state calls ⟨some handle, argv⟩ w).2.objects := by
  rw [classConstructor_objects]
  split
  · refine h.constructs (constructs_constructEntry hversion cls state calls _ (some handle) w) ?_
    intro _ handle' data heq hget
    obtain rfl : handle = handle' := Option.some.inj heq
    rw [hnew] at hget
    cases hget
  · exact h

/-- The objects after `make_export_object` are those after its `napi_new_instance`. -/
lemma objectsSound_makeExportObject {napiVersion : ℕ} (hversion : 8 ≤ napiVersion)
    (classes : Class → Option (ClassState Value)) (cls : Class) (native : Except Raised Unit)
    (calls : MakeCalls) {w : World Class} (h : ObjectsSound w.objects) :
    ObjectsSound (makeExportObject napiVersion classes cls native calls w).2.objects := by
  unfold makeExportObject
  cases classes cls with
  | none => exact h
  | some state =>
    cases native with
    | error e => exact h
    | ok u =>
      change ObjectsSound
        (makeFromHandoff napiVersion cls state calls w.natives w.handOver).2.objects
      by_cases hexternal : calls.createExternal = true
      · by_cases hreference : calls.getReferenceValue = true
        · have hmade : ObjectsSound
              (napiNewInstance napiVersion cls state calls w.handOver).2.objects := by
            rw [napiNewInstance_snd]
            split
            · exact objectsSound_classConstructor_new hversion cls state calls.constructor
                [.handoff] (w := w.handOver.createObject) List.getElem?_concat_length
                h.append_new
            · exact h
          rw [makeFromHandoff_of_newInstance napiVersion cls state w.natives w.handOver hexternal
            hreference]
          split <;> exact hmade
        · unfold makeFromHandoff
          rw [hexternal, eq_false_of_ne_true hreference]
          exact h
      · unfold makeFromHandoff
        rw [eq_false_of_ne_true hexternal]
        exact h

/-- An operation that does not expose an object keeps the objects sound. -/
theorem Operation.objectsSound_perform {napiVersion : ℕ} (hversion : 8 ≤ napiVersion)
    (classes : Class → Option (ClassState Value)) (operation : Operation Class Value)
    {w : World Class} (h : ObjectsSound w.objects) (hhandoff : w.handoff = none)
    (hsafe : ¬ operation.Exposes classes w) :
    ObjectsSound (operation.perform napiVersion classes w).objects := by
  cases operation with
  | createObject => exact h.append_new
  | foreignWrap ok object data =>
    change ObjectsSound (napiWrap ok object (.foreign data) w).2.objects
    rcases napiWrap_cases ok object (.foreign data) w with
      ⟨handle, tag, hobject, hget, hok, hrun⟩ | hrun
    · rw [hrun]
      have htag : tag = none := by
        rcases tag with _ | cls
        · rfl
        · exact absurd ⟨hok, handle, cls, hobject, hget⟩ hsafe
      subst htag
      exact h.set handle ⟨by simp, by simp⟩
    · rw [hrun]
      exact h
  | makeExportObject cls native calls =>
    exact objectsSound_makeExportObject hversion classes cls native calls h
  | construct cls calls info =>
    unfold perform
    dsimp only
    split
    · exact h
    · rename_i state hcls
      rw [classConstructor_objects]
      split
      · rename_i hinfo
        rcases selfOrNew_cases calls info w with hself | hself
        · rw [hself]
          have hfinds : ¬ calls.findsHandoff info w := fun hfinds => by
            have hopen := hfinds.2.2
            rw [hhandoff] at hopen
            exact Bool.false_ne_true hopen
          rcases constructEntry_of_not_findsHandoff napiVersion cls state hinfo info info.self
            hfinds with ⟨-, hobjects⟩ | ⟨hreaches, -⟩
          · rw [hobjects]
            exact h
          · refine h.constructs (constructs_constructEntry hversion cls state calls info _ w) ?_
            intro htags handle data hself hget
            exact hsafe ⟨⟨state, hcls, hreaches⟩, htags, handle, data, hself, hget⟩
        · rw [hself]
          refine h.append_new.constructs
            (constructs_constructEntry hversion cls state calls info _ w.createObject) ?_
          intro _ handle data hself hget
          obtain rfl : w.objects.length = handle := Option.some.inj hself
          rw [List.getElem?_concat_length] at hget
          cases hget
      · exact h

/-- An operation that exposes an object makes a checked unwrap hand out a foreign pointer. -/
theorem Operation.not_checkedUnwrapSound_perform [DecidableEq Class] {napiVersion : ℕ}
    (hversion : 8 ≤ napiVersion) (classes : Class → Option (ClassState Value))
    (operation : Operation Class Value) {w : World Class} (hhandoff : w.handoff = none)
    (hexposes : operation.Exposes classes w) :
    ¬ (operation.perform napiVersion classes w).CheckedUnwrapSound := by
  cases operation with
  | createObject => exact hexposes.elim
  | makeExportObject cls native calls => exact hexposes.elim
  | foreignWrap ok object data =>
    obtain ⟨hok, handle, cls, rfl, hget⟩ := hexposes
    have hlt : handle < w.objects.length := (List.getElem?_eq_some_iff.mp hget).1
    change ¬ (napiWrap ok (some handle) (.foreign data) w).2.CheckedUnwrapSound
    rw [napiWrap_of_unwrapped ok (.foreign data) hget, hok]
    exact not_checkedUnwrapSound (List.getElem?_set_self hlt)
  | construct cls calls info =>
    obtain ⟨⟨state, hcls, hreaches⟩, htags, handle, data, hself, hget⟩ := hexposes
    have hinfo : calls.getCbInfo = true := by
      unfold ClassState.reachesTag at hreaches
      exact (Bool.and_eq_true _ _ ▸ hreaches).1
    have hfinds : ¬ calls.findsHandoff info w := fun hfinds => by
      have hopen := hfinds.2.2
      rw [hhandoff] at hopen
      exact Bool.false_ne_true hopen
    have hreceiver : selfOrNew calls info w = (some handle, w) := by
      unfold selfOrNew
      rw [hself]
    have hperform : (construct cls calls info).perform napiVersion classes w =
        (classConstructor napiVersion cls state calls info w).2 := by
      unfold perform
      dsimp only
      rw [hcls]
    rw [hperform, classConstructor_objects, hinfo, hreceiver]
    rcases constructEntry_of_not_findsHandoff napiVersion cls state hinfo info (some handle)
      hfinds with ⟨hnot, -⟩ | ⟨-, hrun⟩
    · exact absurd (hreaches.symm.trans hnot) Bool.true_eq_false.mp
    · dsimp only
      rw [if_pos rfl, hrun]
      exact not_checkedUnwrapSound
        (constructExportObjectFromNative_of_foreign hversion cls htags w.natives
          (w := w.constructNative) hget)

/-- The environment after the first operations of a history. -/
def historyUntil (napiVersion : ℕ) (classes : Class → Option (ClassState Value))
    (operations : List (Operation Class Value)) (k : ℕ) : World Class :=
  history napiVersion classes (operations.take k)

lemma historyUntil_succ (napiVersion : ℕ) (classes : Class → Option (ClassState Value))
    {operations : List (Operation Class Value)} {k : ℕ} {operation : Operation Class Value}
    (hget : operations[k]? = some operation) :
    historyUntil napiVersion classes operations (k + 1) =
      operation.perform napiVersion classes (historyUntil napiVersion classes operations k) := by
  unfold historyUntil
  rw [List.take_add_one, hget]
  exact history_append_singleton napiVersion classes _ operation

lemma historyUntil_of_length_le (napiVersion : ℕ) (classes : Class → Option (ClassState Value))
    {operations : List (Operation Class Value)} {k : ℕ} (hle : operations.length ≤ k) :
    historyUntil napiVersion classes operations (k + 1) =
      historyUntil napiVersion classes operations k := by
  unfold historyUntil
  rw [List.take_of_length_le hle, List.take_of_length_le (hle.trans (Nat.le_succ k))]

/-- Up to any point of a history, the objects are sound if no operation so far exposed one. -/
lemma objectsSound_historyUntil {napiVersion : ℕ} (hversion : 8 ≤ napiVersion)
    (classes : Class → Option (ClassState Value)) (operations : List (Operation Class Value))
    {k : ℕ} (hsafe : ∀ j < k, ∀ operation : Operation Class Value,
      operations[j]? = some operation →
      ¬ operation.Exposes classes (historyUntil napiVersion classes operations j)) :
    ObjectsSound (historyUntil napiVersion classes operations k).objects := by
  induction k with
  | zero => exact fun object hobject => absurd hobject List.not_mem_nil
  | succ k ih =>
    have hprevious := ih fun j hj => hsafe j (Nat.lt_succ_of_lt hj)
    cases hget : operations[k]? with
    | none =>
      rw [historyUntil_of_length_le napiVersion classes (List.getElem?_eq_none_iff.mp hget)]
      exact hprevious
    | some operation =>
      rw [historyUntil_succ napiVersion classes hget]
      exact operation.objectsSound_perform hversion classes hprevious
        (settled_history napiVersion classes _).handoff (hsafe k (Nat.lt_succ_self k) _ hget)

/-- From `NAPI_VERSION` 8 on, checked unwraps are sound throughout a history if and only if no
constructor tags an object that another add-on has wrapped, and no add-on wraps an object that
a construction has tagged without wrapping it. -/
theorem checkedUnwrapSound_historyUntil_iff [DecidableEq Class] {napiVersion : ℕ}
    (hversion : 8 ≤ napiVersion) (classes : Class → Option (ClassState Value))
    (operations : List (Operation Class Value)) :
    (∀ k, (historyUntil napiVersion classes operations k).CheckedUnwrapSound) ↔
      ∀ (k : ℕ) (operation : Operation Class Value), operations[k]? = some operation →
        ¬ operation.Exposes classes (historyUntil napiVersion classes operations k) := by
  constructor
  · intro hsound k operation hget hexposes
    refine operation.not_checkedUnwrapSound_perform hversion classes
      (settled_history napiVersion classes _).handoff hexposes ?_
    have hnext := hsound (k + 1)
    rwa [historyUntil_succ napiVersion classes hget] at hnext
  · intro hsafe k
    exact (objectsSound_historyUntil hversion classes operations
      fun j _ operation hget => hsafe j operation hget).checkedUnwrapSound

/-- A history of two `make_export_object` calls. -/
theorem checkedUnwrapSound_of_makeExportObject :
    (historyUntil 8 (fun _ : Unit => some ({} : ClassState Unit))
      [.makeExportObject () (.ok ()) {}, .makeExportObject () (.ok ()) {}]
      2).CheckedUnwrapSound := by
  refine (checkedUnwrapSound_historyUntil_iff (by decide) _ _).mpr ?_ 2
  intro k operation hget hexposes
  have hmem := List.mem_of_getElem? hget
  simp only [List.mem_cons, List.not_mem_nil, or_false, or_self] at hmem
  rw [hmem] at hexposes
  exact hexposes

/-- A constructor that is called on an object of another add-on fails and leaves its tag there;
the checked unwrap then hands out the pointer of the add-on. -/
theorem checkedUnwrap_of_failed_construction :
    ¬ (history 8 (fun _ : Unit => some ({ construct := some ⟨0, fun _ => .ok ()⟩ } :
        ClassState Unit))
      [.createObject, .foreignWrap true (some 0) 7,
        .construct () {} ⟨some 0, []⟩]).CheckedUnwrapSound := by
  intro h
  obtain ⟨receiver, hpointer⟩ := h () {} (some 0) (.foreign 7) (by decide)
  cases hpointer

end Dynabridge.Napi
