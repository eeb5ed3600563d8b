import Dynabridge.Foundations.Interleaving
import Dynabridge.Napi.ExportObject

/-!
# Ownership of native proxies

Every proxy that `construct_native` allocates has to be deleted exactly once: by an error path,
or by the finalizer of the object that wraps it.  A wrapped pointer is deleted by one later
call of the finalizer, so the deletions of a proxy over the life of the environment are its
`destroy_native` calls and the objects that wrap it.

`construct_export_object_from_native` always disposes of its receiver once.  When it is run
for a handoff and then raises, the receiver is still in the handoff, and `make_export_object`
destroys it again.
-/

namespace Dynabridge.Napi

open Interleaving.Program (countP_set_add)

variable {Class Value : Type}

/-! ## Deletions -/

/-- The object wraps the given proxy. -/
def JsObject.wraps (receiver : ℕ) (object : JsObject Class) : Bool :=
  match object.wrapped with
  | some (.exported _ r) => r == receiver
  | _ => false

/-- How often a proxy is deleted over the life of the environment. -/
def World.deletions (w : World Class) (n : ℕ) : ℕ :=
  w.destroyed.count n + w.objects.countP (JsObject.wraps n)

/-- From `w` to `w'` the proxies of `w` are left alone, and those allocated since are deleted
exactly once. -/
structure Balanced (w w' : World Class) : Prop where
  handoff : w'.handoff = w.handoff
  natives : w.natives ≤ w'.natives
  deletions : ∀ n, w'.deletions n =
    w.deletions n + if w.natives ≤ n ∧ n < w'.natives then 1 else 0

/-- From `w` to `w'` the given proxy is deleted once and nothing else happens to proxies. -/
structure Disposes (receiver : ℕ) (w w' : World Class) : Prop where
  handoff : w'.handoff = w.handoff
  natives : w'.natives = w.natives
  deletions : ∀ n, w'.deletions n = w.deletions n + if n = receiver then 1 else 0

/-- From `w` to `w'` nothing happens to proxies. -/
structure Untouched (w w' : World Class) : Prop where
  handoff : w'.handoff = w.handoff
  natives : w'.natives = w.natives
  deletions : ∀ n, w'.deletions n = w.deletions n

lemma Untouched.refl (w : World Class) : Untouched w w := ⟨rfl, rfl, fun _ => rfl⟩

lemma Untouched.trans_disposes {w w' w'' : World Class} {receiver : ℕ} (h : Untouched w w')
    (h' : Disposes receiver w' w'') : Disposes receiver w w'' where
  handoff := h'.handoff.trans h.handoff
  natives := h'.natives.trans h.natives
  deletions n := by rw [h'.deletions, h.deletions]

lemma Untouched.balanced {w w' : World Class} (h : Untouched w w') : Balanced w w' where
  handoff := h.handoff
  natives := h.natives.ge
  deletions n := by
    rw [h.deletions n, h.natives, if_neg (by omega), Nat.add_zero]

/-- A proxy that is allocated and then disposed of once. -/
lemma Disposes.balanced {w w' : World Class} (h : Disposes w.natives w.constructNative w') :
    Balanced w w' where
  handoff := h.handoff
  natives := h.natives ▸ Nat.le_succ _
  deletions n := by
    have hnatives : w'.natives = w.natives + 1 := h.natives
    have hdeletions : w'.deletions n = w.deletions n + if n = w.natives then 1 else 0 :=
      h.deletions n
    rw [hdeletions, hnatives]
    split <;> split <;> omega

lemma Untouched.trans_balanced {w w' w'' : World Class} (h : Untouched w w')
    (h' : Balanced w' w'') : Balanced w w'' where
  handoff := h'.handoff.trans h.handoff
  natives := h.natives ▸ h'.natives
  deletions n := by rw [h'.deletions n, h.deletions n, h.natives]

/-! ## What the Node-API calls do to proxies -/

lemma disposes_destroyNative (receiver : ℕ) (w : World Class) :
    Disposes receiver w (w.destroyNative receiver) := by
  refine ⟨rfl, rfl, fun n => ?_⟩
  have hcount : (w.destroyed ++ [receiver]).count n =
      w.destroyed.count n + if n = receiver then 1 else 0 := by
    rw [List.count_append, List.count_singleton]
    by_cases hn : n = receiver
    · simp [hn]
    · simp [hn, Ne.symm hn]
  unfold World.deletions World.destroyNative
  rw [hcount, Nat.add_right_comm]

lemma untouched_createObject (w : World Class) : Untouched w w.createObject := by
  refine ⟨rfl, rfl, fun n => ?_⟩
  have hcount : (w.objects ++ [({} : JsObject Class)]).countP (JsObject.wraps n) =
      w.objects.countP (JsObject.wraps n) := by
    rw [List.countP_append]
    rfl
  unfold World.deletions World.createObject
  rw [hcount]

/-- Replacing an object changes the deletions by what the two objects wrap. -/
lemma deletions_set {w : World Class} {handle : ℕ} {object : JsObject Class}
    (hget : w.objects[handle]? = some object) (object' : JsObject Class) (n : ℕ) :
    World.deletions { w with objects := w.objects.set handle object' } n +
        (object.wraps n).toNat = w.deletions n + (object'.wraps n).toNat := by
  have hset := countP_set_add object' (JsObject.wraps n) hget
  unfold World.deletions
  dsimp only
  omega

lemma untouched_napiTypeTagObject (ok : Bool) (object : Option ℕ) (tag : Class)
    (w : World Class) : Untouched w (napiTypeTagObject ok object tag w).2 := by
  rcases napiTypeTagObject_cases ok object tag w with ⟨handle, wrapped, -, hget, -, hrun⟩ | hrun
  · rw [hrun]
    exact ⟨rfl, rfl, fun n => Nat.add_right_cancel (deletions_set hget ⟨some tag, wrapped⟩ n)⟩
  · rw [hrun]
    exact Untouched.refl w

/-- `napi_wrap` of a foreign pointer. -/
lemma untouched_napiWrap (ok : Bool) (object : Option ℕ) (data : ℕ) (w : World Class) :
    Untouched w (napiWrap ok object (.foreign data) w).2 := by
  rcases napiWrap_cases ok object (.foreign data) w with ⟨handle, tag, -, hget, -, hrun⟩ | hrun
  · rw [hrun]
    exact ⟨rfl, rfl, fun n => deletions_set hget ⟨tag, some (.foreign data)⟩ n⟩
  · rw [hrun]
    exact Untouched.refl w

/-- `napi_wrap` of a proxy either makes its finalizer responsible for it or does nothing. -/
lemma napiWrap_exported (ok : Bool) (object : Option ℕ) (cls : Class) (receiver : ℕ)
    (w : World Class) :
    ((napiWrap ok object (.exported cls receiver) w).1 = true ∧
      Disposes receiver w (napiWrap ok object (.exported cls receiver) w).2) ∨
    napiWrap ok object (.exported cls receiver) w = (false, w) := by
  rcases napiWrap_cases ok object (.exported cls receiver) w with
    ⟨handle, tag, -, hget, -, hrun⟩ | hrun
  · rw [hrun]
    refine .inl ⟨rfl, rfl, rfl, fun n => ?_⟩
    have hset := deletions_set hget ⟨tag, some (.exported cls receiver)⟩ n
    have hwraps : (JsObject.wraps n (⟨tag, some (.exported cls receiver)⟩ : JsObject Class)).toNat =
        if n = receiver then 1 else 0 := by
      by_cases hn : n = receiver <;> simp [JsObject.wraps, hn, Ne.symm]
    rwa [hwraps] at hset
  · exact .inr hrun

/-- `construct_export_object_from_native` disposes of its receiver once, on every path. -/
theorem disposes_constructExportObjectFromNative (napiVersion : ℕ) (cls : Class)
    (calls : ConstructorCalls) (self : Option ℕ) (receiver : ℕ) (w : World Class) :
    Disposes receiver w
      (constructExportObjectFromNative napiVersion cls calls self receiver w).2 := by
  unfold constructExportObjectFromNative
  have htag : Untouched w
      (if 8 ≤ napiVersion then napiTypeTagObject calls.typeTagObject self cls w
        else (true, w)).2 := by
    split
    · exact untouched_napiTypeTagObject _ self cls w
    · exact Untouched.refl w
  generalize (if 8 ≤ napiVersion then napiTypeTagObject calls.typeTagObject self cls w
    else (true, w)) = tagged at htag
  simp only
  split
  · exact htag.trans_disposes (disposes_destroyNative receiver tagged.2)
  · rcases napiWrap_exported calls.wrap self cls receiver tagged.2 with ⟨hok, hwrap⟩ | hrun
    · rw [if_neg (by simp [hok])]
      exact htag.trans_disposes hwrap
    · rw [if_pos (by simp [hrun]), hrun]
      exact htag.trans_disposes (disposes_destroyNative receiver tagged.2)

/-- Whether `construct_export_object_from_native` gets to its end on a new object. -/
def ConstructorCalls.completes (napiVersion : ℕ) (calls : ConstructorCalls) : Bool :=
  (napiVersion < 8 || calls.typeTagObject) && calls.wrap && calls.createReference

lemma constructExportObjectFromNative_ok_iff (napiVersion : ℕ) (cls : Class)
    (calls : ConstructorCalls) {handle : ℕ} (receiver : ℕ) {w : World Class}
    (hnew : w.objects[handle]? = some {}) :
    (constructExportObjectFromNative napiVersion cls calls (some handle) receiver w).1 = .ok () ↔
      calls.completes napiVersion = true := by
  have hlt : handle < w.objects.length := (List.getElem?_eq_some_iff.mp hnew).1
  have htag := napiTypeTagObject_of_untagged calls.typeTagObject cls hnew
  unfold constructExportObjectFromNative ConstructorCalls.completes
  -- the object is still unwrapped when `napi_wrap` is called
  by_cases hversion : 8 ≤ napiVersion
  · have hset : (w.objects.set handle ⟨some cls, none⟩)[handle]? = some ⟨some cls, none⟩ :=
      List.getElem?_set_self hlt
    have hwrap := fun ok => napiWrap_of_unwrapped ok (.exported cls receiver)
      (w := { w with objects := w.objects.set handle ⟨some cls, none⟩ }) hset
    rw [if_pos hversion, htag]
    cases calls.typeTagObject <;> cases calls.wrap <;> cases calls.createReference <;>
      simp [hwrap, Nat.not_lt.mpr hversion, reset, check, throwRuntimeError]
  · have hwrap := fun ok => napiWrap_of_unwrapped ok (.exported cls receiver) hnew
    rw [if_neg hversion]
    cases calls.wrap <;> cases calls.createReference <;>
      simp [hwrap, Nat.lt_of_not_le hversion, reset, check, throwRuntimeError]

/-! ## Constructor callbacks -/

/-- The constructor callback finds a handoff. -/
def ConstructorCalls.findsHandoff (calls : ConstructorCalls) (info : CallbackInfo Value)
    (w : World Class) : Prop :=
  (calls.getHandoffInfo && calls.getValueExternal) = true ∧ info.argv = [.handoff] ∧
    w.handoff.isSome = true

lemma balanced_constructSignature (napiVersion : ℕ) (cls : Class)
    (constructor : Constructor Value) (calls : ConstructorCalls) (info : CallbackInfo Value)
    (self : Option ℕ) (w : World Class) :
    Balanced w (constructSignature napiVersion cls constructor calls info self w).2 := by
  unfold constructSignature
  split
  · exact (Untouched.refl w).balanced
  · split
    · exact (Untouched.refl w).balanced
    · exact (disposes_constructExportObjectFromNative _ cls calls self w.natives _).balanced

/-- Without a handoff there is nothing to try. -/
lemma tryConstructExternalProxy_of_not_findsHandoff (napiVersion : ℕ) (cls : Class)
    {calls : ConstructorCalls} {info : CallbackInfo Value} (self : Option ℕ) {w : World Class}
    (hfinds : ¬ calls.findsHandoff info w) :
    tryConstructExternalProxy napiVersion cls calls info self w = (.ok false, w) := by
  unfold tryConstructExternalProxy
  split
  · rename_i receiver hcalls hargv hhandoff
    exact absurd ⟨hcalls, hargv, by rw [hhandoff]; rfl⟩ hfinds
  · rfl

/-- Without a handoff the constructor runs for a proxy of its own. -/
lemma balanced_constructEntry (napiVersion : ℕ) (cls : Class) (state : ClassState Value)
    (calls : ConstructorCalls) (info : CallbackInfo Value) (self : Option ℕ) {w : World Class}
    (hfinds : ¬ calls.findsHandoff info w) :
    Balanced w (constructEntry napiVersion cls state calls info self w).2 := by
  unfold constructEntry
  rw [tryConstructExternalProxy_of_not_findsHandoff napiVersion cls self hfinds]
  dsimp only
  split
  · exact (Untouched.refl w).balanced
  · exact balanced_constructSignature napiVersion cls _ calls info self w

lemma untouched_selfOrNew (calls : ConstructorCalls) (info : CallbackInfo Value)
    (w : World Class) : Untouched w (selfOrNew calls info w).2 := by
  unfold selfOrNew
  split
  · exact Untouched.refl w
  · split
    · exact untouched_createObject w
    · exact Untouched.refl w

lemma balanced_classConstructor (napiVersion : ℕ) (cls : Class) (state : ClassState Value)
    (calls : ConstructorCalls) (info : CallbackInfo Value) {w : World Class}
    (hfinds : ¬ (calls.getCbInfo = true ∧ calls.findsHandoff info w)) :
    Balanced w (classConstructor napiVersion cls state calls info w).2 := by
  unfold classConstructor
  split
  · exact (Untouched.refl w).balanced
  · rename_i hinfo
    have hself := untouched_selfOrNew calls info w
    have hentry := balanced_constructEntry napiVersion cls state calls info
      (selfOrNew calls info w).1 (w := (selfOrNew calls info w).2) (fun h => hfinds
        ⟨by simpa using hinfo, h.1, h.2.1, by rw [← hself.handoff]; exact h.2.2⟩)
    dsimp only
    split
    · rename_i hrun
      rw [hrun] at hentry
      exact hself.trans_balanced hentry
    · rename_i hrun
      rw [hrun] at hentry
      exact hself.trans_balanced hentry

/-- On a handoff, the receiver is disposed of, and forgotten when the construction completes. -/
lemma classConstructor_of_handoff (napiVersion : ℕ) (cls : Class) (state : ClassState Value)
    {calls : ConstructorCalls} {handle receiver : ℕ} {w : World Class}
    (hinfo : calls.getCbInfo = true)
    (hcalls : (calls.getHandoffInfo && calls.getValueExternal) = true)
    (hnew : w.objects[handle]? = some {}) (hhandoff : w.handoff = some receiver) :
    ∃ w', Disposes receiver w w' ∧
      ((calls.completes napiVersion = true ∧
        classConstructor napiVersion cls state calls ⟨some handle, [.handoff]⟩ w =
          (.ok (some handle), { w' with handoff := none })) ∨
      (calls.completes napiVersion = false ∧ ∃ e,
        classConstructor napiVersion cls state calls ⟨some handle, [.handoff]⟩ w =
          (.error e, w'))) := by
  have hdisposes := disposes_constructExportObjectFromNative napiVersion cls calls (some handle)
    receiver w
  have hok := constructExportObjectFromNative_ok_iff napiVersion cls calls receiver hnew
  refine ⟨_, hdisposes, ?_⟩
  generalize hrun : constructExportObjectFromNative napiVersion cls calls (some handle) receiver w
    = run at hok
  obtain ⟨result, w'⟩ := run
  unfold classConstructor constructEntry tryConstructExternalProxy
  cases result with
  | ok u => exact .inl ⟨hok.mp rfl, by simp [hinfo, selfOrNew, hcalls, hhandoff, hrun]⟩
  | error e =>
    refine .inr ⟨eq_false_of_ne_true fun hcompletes => ?_, e, by
      simp [hinfo, selfOrNew, hcalls, hhandoff, hrun]⟩
    exact absurd (hok.mpr hcompletes) (by simp)

/-! ## `make_export_object` -/

/-- The Node-API calls of a `make_export_object` whose proxy is not deleted exactly once: the
class constructor cannot be looked up, or the constructor starts on the handoff and does not
complete. -/
def MakeCalls.mishandles (napiVersion : ℕ) (calls : MakeCalls) : Bool :=
  calls.createExternal &&
    (!calls.getReferenceValue ||
      calls.invokesConstructor && calls.constructor.getCbInfo &&
        calls.constructor.getHandoffInfo && calls.constructor.getValueExternal &&
        !calls.constructor.completes napiVersion)

/-- A proxy is allocated and deleted `k` times; those allocated after it are deleted once. -/
structure Handled (k : ℕ) (w w' : World Class) : Prop where
  natives : w.natives < w'.natives
  deletions : ∀ n, w'.deletions n = w.deletions n +
    if n = w.natives then k else if w.natives < n ∧ n < w'.natives then 1 else 0

/-- The deletions of the proxy that a `make_export_object` allocates. -/
def MakeCalls.deletions (napiVersion : ℕ) (calls : MakeCalls) : ℕ :=
  if calls.mishandles napiVersion then (if calls.getReferenceValue then 2 else 0) else 1

lemma MakeCalls.deletions_eq_one_iff (napiVersion : ℕ) (calls : MakeCalls) :
    calls.deletions napiVersion = 1 ↔ calls.mishandles napiVersion = false := by
  unfold deletions
  cases calls.mishandles napiVersion <;> cases calls.getReferenceValue <;> simp

/-- The state in which `make_export_object` calls Node-API for the first time. -/
def World.handOver (w : World Class) : World Class :=
  { w.constructNative with handoff := some w.natives }

/-- Destroying the receiver of the handoff after it has been disposed of `k` times. -/
lemma handled_destroyNative {w w' : World Class} {k : ℕ} (h : Handled k w w') :
    Handled (k + 1) w (w'.destroyNative w.natives) := by
  have hdestroy := disposes_destroyNative w.natives w'
  refine ⟨hdestroy.natives ▸ h.natives, fun n => ?_⟩
  rw [hdestroy.deletions n, h.deletions n, hdestroy.natives]
  split <;> simp [Nat.add_assoc]

/-- A constructor that does not take the receiver of the handoff leaves it alone. -/
lemma handled_of_balanced {w w' : World Class} (h : Balanced w.handOver w') : Handled 0 w w' := by
  have hnatives : w.natives + 1 ≤ w'.natives := h.natives
  refine ⟨hnatives, fun n => ?_⟩
  have hdeletions : w'.deletions n =
      w.deletions n + if w.natives + 1 ≤ n ∧ n < w'.natives then 1 else 0 := h.deletions n
  rw [hdeletions]
  by_cases hn : n = w.natives
  · simp [hn]
  · rw [if_neg hn]
    rfl

/-- A constructor that takes the receiver of the handoff disposes of it. -/
lemma handled_of_disposes {w w' : World Class} (h : Disposes w.natives w.handOver w') :
    Handled 1 w w' := by
  have hnatives : w'.natives = w.natives + 1 := h.natives
  refine ⟨by omega, fun n => ?_⟩
  have hdeletions : w'.deletions n = w.deletions n + if n = w.natives then 1 else 0 :=
    h.deletions n
  rw [hdeletions]
  split
  · rfl
  · rw [if_neg (by omega)]

/-- What `napi_new_instance` does is what the constructor does to a new object. -/
lemma napiNewInstance_snd (napiVersion : ℕ) (cls : Class) (state : ClassState Value)
    (calls : MakeCalls) (w : World Class) :
    (napiNewInstance napiVersion cls state calls w).2 =
      if calls.invokesConstructor then
        (classConstructor napiVersion cls state calls.constructor
          ⟨some w.objects.length, [.handoff]⟩ w.createObject).2
      else w := by
  unfold napiNewInstance
  cases calls.invokesConstructor
  · rfl
  · dsimp only
    generalize classConstructor napiVersion cls state calls.constructor
      ⟨some w.objects.length, [.handoff]⟩ w.createObject = run
    obtain ⟨result, w'⟩ := run
    cases result
    · rfl
    · cases calls.newInstance <;> rfl

/-- `napi_new_instance` takes the receiver of the handoff and forgets it, takes it and keeps it,
or leaves it alone. -/
lemma napiNewInstance_cases (napiVersion : ℕ) (cls : Class) (state : ClassState Value)
    (calls : MakeCalls) (w : World Class) :
    let taken := calls.invokesConstructor && calls.constructor.getCbInfo &&
      calls.constructor.getHandoffInfo && calls.constructor.getValueExternal
    let made := napiNewInstance napiVersion cls state calls w.handOver
    (taken = true ∧ calls.constructor.completes napiVersion = true ∧ Handled 1 w made.2 ∧
      made.2.handoff = none) ∨
    (taken = true ∧ calls.constructor.completes napiVersion = false ∧ Handled 1 w made.2 ∧
      made.2.handoff = some w.natives) ∨
    (taken = false ∧ Handled 0 w made.2 ∧ made.2.handoff = some w.natives) := by
  intro taken made
  have hnew := untouched_createObject w.handOver
  have hmade := napiNewInstance_snd napiVersion cls state calls w.handOver
  by_cases hinvokes : calls.invokesConstructor = true
  · rw [if_pos hinvokes] at hmade
    rw [show made.2 = _ from hmade]
    by_cases htaken : taken = true
    · obtain ⟨⟨⟨-, hinfo⟩, hget⟩, hvalue⟩ := by simpa [taken, Bool.and_eq_true] using htaken
      obtain ⟨w', hdisposes, ⟨hcompletes, hrun⟩ | ⟨hcompletes, e, hrun⟩⟩ :=
        classConstructor_of_handoff napiVersion cls state (w := w.handOver.createObject) hinfo
          (by simp [hget, hvalue]) (List.getElem?_concat_length (l := w.handOver.objects)) rfl
      · have hhandled := handled_of_disposes (hnew.trans_disposes hdisposes)
        refine .inl ⟨htaken, hcompletes, ?_⟩
        rw [hrun]
        exact ⟨⟨hhandled.natives, hhandled.deletions⟩, rfl⟩
      · refine .inr (.inl ⟨htaken, hcompletes, ?_⟩)
        rw [hrun]
        exact ⟨handled_of_disposes (hnew.trans_disposes hdisposes), hdisposes.handoff⟩
    · have hbalanced := balanced_classConstructor napiVersion cls state calls.constructor
        ⟨some w.handOver.objects.length, [.handoff]⟩ (w := w.handOver.createObject)
        (fun h => htaken (by
          obtain ⟨hcalls, -, -⟩ := h.2
          simpa [taken, hinvokes, h.1, Bool.and_eq_true] using hcalls))
      exact .inr (.inr ⟨eq_false_of_ne_true htaken,
        handled_of_balanced (hnew.trans_balanced hbalanced), hbalanced.handoff⟩)
  · rw [if_neg hinvokes] at hmade
    rw [show made.2 = _ from hmade]
    exact .inr (.inr ⟨by simp [taken, eq_false_of_ne_true hinvokes],
      handled_of_balanced (Untouched.refl _).balanced, rfl⟩)

/-- Once `napi_new_instance` is called, what it leaves in the handoff is destroyed. -/
lemma makeFromHandoff_of_newInstance (napiVersion : ℕ) (cls : Class) (state : ClassState Value)
    {calls : MakeCalls} (receiver : ℕ) (w : World Class) (hexternal : calls.createExternal = true)
    (hreference : calls.getReferenceValue = true) :
    (makeFromHandoff napiVersion cls state calls receiver w).2 =
      match (napiNewInstance napiVersion cls state calls w).2.handoff with
      | none => (napiNewInstance napiVersion cls state calls w).2
      | some receiver =>
        (napiNewInstance napiVersion cls state calls w).2.destroyNative receiver := by
  unfold makeFromHandoff
  rw [hexternal, hreference]
  generalize napiNewInstance napiVersion cls state calls w = made
  obtain ⟨value, w'⟩ := made
  cases value
  · rfl
  · dsimp only
    cases w'.handoff <;> rfl

/-- Deletions of the proxy that `make_export_object` allocates, for every outcome of its calls. -/
theorem handled_makeFromHandoff (napiVersion : ℕ) (cls : Class) (state : ClassState Value)
    (calls : MakeCalls) (w : World Class) :
    Handled (calls.deletions napiVersion) w
      (makeFromHandoff napiVersion cls state calls w.natives w.handOver).2 := by
  have hstart : Handled 0 w w.handOver := handled_of_balanced (Untouched.refl _).balanced
  unfold MakeCalls.deletions MakeCalls.mishandles
  by_cases hexternal : calls.createExternal = true
  · by_cases hreference : calls.getReferenceValue = true
    · rw [makeFromHandoff_of_newInstance napiVersion cls state w.natives w.handOver hexternal
        hreference, hexternal, hreference]
      rcases napiNewInstance_cases napiVersion cls state calls w with
        ⟨htaken, hcompletes, hhandled, hhandoff⟩ | ⟨htaken, hcompletes, hhandled, hhandoff⟩ |
        ⟨htaken, hhandled, hhandoff⟩
      · rw [hhandoff, htaken, hcompletes]
        exact hhandled
      · rw [hhandoff, htaken, hcompletes]
        exact handled_destroyNative hhandled
      · rw [hhandoff, htaken]
        exact handled_destroyNative hhandled
    · rw [hexternal, eq_false_of_ne_true hreference]
      simpa [makeFromHandoff, hexternal, hreference] using hstart
  · rw [eq_false_of_ne_true hexternal]
    simpa [makeFromHandoff, hexternal] using handled_destroyNative hstart

/-! ## Histories -/

/-- The proxy of the operation is not deleted exactly once. -/
def Operation.Mishandles (napiVersion : ℕ) (classes : Class → Option (ClassState Value)) :
    Operation Class Value → Prop
  | makeExportObject cls native calls =>
    (classes cls).isSome = true ∧ native = .ok () ∧ calls.mishandles napiVersion = true
  | _ => False

/-- Every proxy that has been allocated is deleted exactly once. -/
def World.DeletedOnce (w : World Class) : Prop := ∀ n < w.natives, w.deletions n = 1

/-- Outside `make_export_object` no handoff is open, and only allocated proxies are deleted. -/
structure World.Settled (w : World Class) : Prop where
  handoff : w.handoff = none
  unborn : ∀ n, w.natives ≤ n → w.deletions n = 0

/-- An operation either balances or allocates a proxy and handles it. -/
lemma Operation.perform_cases (napiVersion : ℕ) (classes : Class → Option (ClassState Value))
    (operation : Operation Class Value) {w : World Class} (hhandoff : w.handoff = none) :
    (¬ operation.Mishandles napiVersion classes ∧
      Balanced w (operation.perform napiVersion classes w)) ∨
    ∃ k, (k = 1 ↔ ¬ operation.Mishandles napiVersion classes) ∧
      Handled k w (operation.perform napiVersion classes w) ∧
      (operation.perform napiVersion classes w).handoff = none := by
  cases operation with
  | createObject => exact .inl ⟨id, (untouched_createObject w).balanced⟩
  | foreignWrap ok object data => exact .inl ⟨id, (untouched_napiWrap ok object data w).balanced⟩
  | construct cls calls info =>
    refine .inl ⟨id, ?_⟩
    unfold perform
    dsimp only
    split
    · exact (Untouched.refl w).balanced
    · refine balanced_classConstructor napiVersion cls _ calls info fun h => ?_
      have hopen := h.2.2.2
      rw [hhandoff] at hopen
      exact Bool.false_ne_true hopen
  | makeExportObject cls native calls =>
    unfold perform Mishandles Napi.makeExportObject
    dsimp only
    cases hcls : classes cls with
    | none => exact .inl ⟨by simp, (Untouched.refl w).balanced⟩
    | some state =>
      cases native with
      | error e => exact .inl ⟨by simp, (Untouched.refl w).balanced⟩
      | ok u =>
        have hhandled := handled_makeFromHandoff napiVersion cls state calls w
        refine .inr ⟨calls.deletions napiVersion, ?_, ⟨hhandled.natives, hhandled.deletions⟩, rfl⟩
        rw [MakeCalls.deletions_eq_one_iff]
        simp

/-- One operation keeps the environment settled, and keeps every proxy deleted exactly once
unless it mishandles its own. -/
lemma Operation.perform_settled (napiVersion : ℕ) (classes : Class → Option (ClassState Value))
    (operation : Operation Class Value) {w : World Class} (hw : w.Settled) :
    (operation.perform napiVersion classes w).Settled ∧
      ((operation.perform napiVersion classes w).DeletedOnce ↔
        w.DeletedOnce ∧ ¬ operation.Mishandles napiVersion classes) := by
  rcases operation.perform_cases napiVersion classes hw.handoff with
    ⟨hgood, hbalanced⟩ | ⟨k, hk, hhandled, hhandoff⟩
  · have hnatives := hbalanced.natives
    refine ⟨⟨hbalanced.handoff.trans hw.handoff, fun n hn => ?_⟩, ?_⟩
    · rw [hbalanced.deletions n, hw.unborn n (hnatives.trans hn), if_neg (by omega)]
    · refine ⟨fun h => ⟨fun n hn => ?_, hgood⟩, fun h n hn => ?_⟩
      · have hdeleted := h n (hn.trans_le hnatives)
        rwa [hbalanced.deletions n, if_neg (by omega)] at hdeleted
      · rw [hbalanced.deletions n]
        rcases Nat.lt_or_ge n w.natives with hlt | hge
        · rw [h.1 n hlt, if_neg (by omega)]
        · rw [hw.unborn n hge, if_pos ⟨hge, hn⟩]
  · have hnatives := hhandled.natives
    refine ⟨⟨hhandoff, fun n hn => ?_⟩, ?_⟩
    · rw [hhandled.deletions n, hw.unborn n (by omega), if_neg (by omega), if_neg (by omega)]
    · refine ⟨fun h => ⟨fun n hn => ?_, hk.mp ?_⟩, fun h n hn => ?_⟩
      · have hdeleted := h n (hn.trans hnatives)
        rwa [hhandled.deletions n, if_neg (by omega), if_neg (by omega)] at hdeleted
      · have hdeleted := h w.natives hnatives
        rwa [hhandled.deletions, hw.unborn _ le_rfl, if_pos rfl, Nat.zero_add] at hdeleted
      · rw [hhandled.deletions n]
        rcases Nat.lt_trichotomy n w.natives with hlt | heq | hgt
        · rw [h.1 n hlt, if_neg (by omega), if_neg (by omega)]
        · rw [hw.unborn n heq.ge, if_pos heq, hk.mpr h.2]
        · rw [hw.unborn n hgt.le, if_neg (by omega), if_pos ⟨hgt, hn⟩]

@[simp] lemma history_append_singleton (napiVersion : ℕ)
    (classes : Class → Option (ClassState Value)) (operations : List (Operation Class Value))
    (operation : Operation Class Value) :
    history napiVersion classes (operations ++ [operation]) =
      operation.perform napiVersion classes (history napiVersion classes operations) := by
  unfold history
  rw [List.foldl_append]
  rfl

/-- Every history ends in a settled environment. -/
theorem settled_history (napiVersion : ℕ) (classes : Class → Option (ClassState Value))
    (operations : List (Operation Class Value)) :
    (history napiVersion classes operations).Settled := by
  induction operations using List.reverseRecOn with
  | nil => exact ⟨rfl, fun n _ => rfl⟩
  | append_singleton operations operation ih =>
    rw [history_append_singleton]
    exact (operation.perform_settled napiVersion classes ih).1

/-- Over every history, and for every outcome of its Node-API calls, each proxy is deleted
exactly once if and only if no `make_export_object` fails to look up its class constructor, or
fails between taking the receiver of its handoff and forgetting it. -/
theorem deletedOnce_history_iff (napiVersion : ℕ) (classes : Class → Option (ClassState Value))
    (operations : List (Operation Class Value)) :
    (history napiVersion classes operations).DeletedOnce ↔
      ∀ operation ∈ operations, ¬ operation.Mishandles napiVersion classes := by
  induction operations using List.reverseRecOn with
  | nil => exact ⟨fun _ => by simp, fun _ n hn => absurd hn (Nat.not_lt_zero n)⟩
  | append_singleton operations operation ih =>
    have hstep := operation.perform_settled napiVersion classes
      (settled_history napiVersion classes operations)
    rw [history_append_singleton, hstep.2, ih, List.forall_mem_append, List.forall_mem_singleton]

/-- The proxy of a `make_export_object` whose `napi_wrap` fails is deleted twice. -/
theorem deletions_of_failed_wrap :
    ¬ ((history 8 (fun _ : Unit => some ({} : ClassState Unit))
      [.makeExportObject () (.ok ()) { constructor := { wrap := false } }]).DeletedOnce) := by
  intro h
  have hdeleted := h 0 (by decide)
  exact absurd hdeleted (by decide)

end Dynabridge.Napi
