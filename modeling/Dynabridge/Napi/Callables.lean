import Dynabridge.ErrorPolicy
import Dynabridge.Foundations.Ownership
import Dynabridge.Foundations.Runs

/-!
# The holders of functions and classes

A JavaScript function of the backend has a pointer to a `callback_holder`, and the constructor of an
exported class one to its `class_state`.  A finalizer on the function deletes it.  When a function
or its finalizer cannot be made, the C++ code deletes the holder itself; a function that was made
without a finalizer is never returned, and JavaScript cannot get at it.

JavaScript calls functions, which may call back and forth, and the garbage collector takes those
that are not called and that no class target refers to.  At the end of the environment the cleanup
hooks delete the references of the class targets before the finalizers run.
-/

namespace Dynabridge.Napi

open Ownership Function

/-! ## Functions -/

/-- A function that Node-API has made, with the holder that its callback gets as `data`. -/
structure JsFunction where
  data : ℕ
  finalizer : Bool
  /-- It was returned to its caller, and JavaScript may have got it. -/
  visible : Bool
  collected : Bool
  deriving DecidableEq

/-- The holder that the finalizer is going to delete. -/
def JsFunction.owned (x : JsFunction) : Option ℕ :=
  if x.finalizer && !x.collected then some x.data else none

/-- A `class_target_t` with its reference to the constructor. -/
structure DefinedClass where
  /-- the function that `constructor_ref` refers to -/
  constructor : ℕ
  state : ℕ
  deriving DecidableEq

/-- The holders and the functions of an environment. -/
structure Callables where
  holders : Lifetimes := {}
  /-- how many functions were made -/
  functions : ℕ := 0
  function : ℕ → Option JsFunction := fun _ => none
  /-- the functions whose callbacks are running, the innermost first -/
  calls : List ℕ := []
  targets : List DefinedClass := []
  /-- The environment has not begun to end. -/
  running : Bool := true

namespace Callables

/-- What a function owns. -/
def owns (s : Callables) (f : ℕ) : Option ℕ := (s.function f).bind JsFunction.owned

/-- A new holder, a function for it that `napi_create_function` or `napi_define_class` makes, and
its finalizer.  There is no result when something is deleted that is not there. -/
def makeHeld (what : String) (created attached : Bool) (s : Callables) :
    Option (Except Raised ℕ × Callables) :=
  let holder := s.holders.made
  let f := s.functions
  if !created then do
    let holders ← s.holders.make.destroy holder
    some (.error (.stdException (ascii what)), { s with holders := holders })
  else if !attached then do
    let holders ← s.holders.make.destroy holder
    some (.error (.stdException (ascii "napi_add_finalizer failed")),
      { s with
        holders := holders
        functions := f + 1
        function := update s.function f (some ⟨holder, false, false, false⟩) })
  else
    some (.ok f,
      { s with
        holders := s.holders.make
        functions := f + 1
        function := update s.function f (some ⟨holder, true, true, false⟩) })

/-- `make_function_impl`, which is the same for overloads, and `make_member_function` -/
def makeFunction (created attached : Bool) (s : Callables) :
    Option (Except Raised ℕ × Callables) :=
  s.makeHeld "napi_create_function failed" created attached

/-- `define_class_impl`, with what the constructor of the class target throws, if it does. -/
def defineClass (created attached defined : Bool) (thrown : Option Raised) (s : Callables) :
    Option (Except Raised DefinedClass × Callables) := do
  let state := s.holders.made
  match ← s.makeHeld "napi_define_class failed" created attached with
  | (.error e, s) => some (.error e, s)
  | (.ok constructor, s) =>
    if !defined then
      some (.error (.stdException (ascii "napi_set_named_property failed")), s)
    else match thrown with
      | some e => some (.error e, s)
      | none =>
        some (.ok ⟨constructor, state⟩, { s with targets := s.targets ++ [⟨constructor, state⟩] })

/-- Use a holder. -/
def access (holder : ℕ) (s : Callables) : Option Callables :=
  if s.holders.Alive holder then some s else none

/-- `define_constructor_impl` -/
def setConstructor (target : ℕ) (s : Callables) : Option Callables := do
  let t ← s.targets[target]?
  s.access t.state

/-- JavaScript calls a function, and the callback uses `data`. -/
def enter (f : ℕ) (s : Callables) : Option Callables := do
  let x ← s.function f
  let s ← s.access x.data
  some { s with calls := f :: s.calls }

/-- The innermost callback returns from the binder of its holder. -/
def leave (s : Callables) : Option Callables :=
  match s.calls with
  | [] => none
  | f :: calls => do
    let x ← s.function f
    let s ← s.access x.data
    some { s with calls := calls }

/-- A function goes, and `callback_holder_finalizer` or `class_state_finalizer` runs. -/
def collect (f : ℕ) (s : Callables) : Option Callables := do
  let x ← s.function f
  let holders ← s.holders.release x.owned
  some { s with
    holders := holders
    function := update s.function f (some { x with collected := true }) }

/-- A class target goes, with its reference. -/
def dropTarget (target : ℕ) (s : Callables) : Callables :=
  { s with targets := s.targets.eraseIdx target }

/-- The cleanup hooks of the environment. -/
def cleanup (s : Callables) : Callables := { s with targets := [], running := false }

end Callables

/-! ## Events -/

/-- What can happen, with what the calls of Node-API return. -/
inductive CallableEvent
  | makeFunction (created attached : Bool)
  | defineClass (created attached defined : Bool) (thrown : Option Raised)
  | setConstructor (target : ℕ)
  | enter (f : ℕ)
  | leave
  | collect (f : ℕ)
  | dropTarget (target : ℕ)
  | cleanup
  deriving DecidableEq

namespace CallableEvent

/-- JavaScript calls what it can get at; what is called or referred to is not collected; the
environment ends outside of all calls. -/
def Valid (s : Callables) : CallableEvent → Prop
  | makeFunction _ _ | defineClass _ _ _ _ => s.running = true
  | setConstructor target | dropTarget target => target < s.targets.length
  | enter f => s.running = true ∧
      (s.function f).any (fun x => x.visible && !x.collected) = true
  | leave => s.calls ≠ []
  | collect f => (s.function f).any (fun x => !x.collected) = true ∧ f ∉ s.calls ∧
      ∀ t ∈ s.targets, t.constructor ≠ f
  | cleanup => s.running = true ∧ s.calls = []

instance (s : Callables) : (e : CallableEvent) → Decidable (e.Valid s)
  | makeFunction _ _ | defineClass _ _ _ _ => inferInstanceAs (Decidable (s.running = true))
  | setConstructor target | dropTarget target =>
    inferInstanceAs (Decidable (target < s.targets.length))
  | enter f => inferInstanceAs (Decidable (s.running = true ∧
      (s.function f).any (fun x => x.visible && !x.collected) = true))
  | leave => inferInstanceAs (Decidable (s.calls ≠ []))
  | collect f => inferInstanceAs (Decidable ((s.function f).any (fun x => !x.collected) = true ∧
      f ∉ s.calls ∧ ∀ t ∈ s.targets, t.constructor ≠ f))
  | cleanup => inferInstanceAs (Decidable (s.running = true ∧ s.calls = []))

/-- The state after an event, unless it is undefined. -/
def next (s : Callables) : CallableEvent → Option Callables
  | makeFunction created attached => (s.makeFunction created attached).map Prod.snd
  | defineClass created attached defined thrown =>
    (s.defineClass created attached defined thrown).map Prod.snd
  | setConstructor target => s.setConstructor target
  | enter f => s.enter f
  | leave => s.leave
  | collect f => s.collect f
  | dropTarget target => some (s.dropTarget target)
  | cleanup => some s.cleanup

end CallableEvent

/-! ## What every event keeps -/

/-- The finalizer of a function is still to come. -/
def JsFunction.Held (x : JsFunction) : Prop := x.finalizer = true ∧ x.collected = false

lemma JsFunction.owned_eq_some_iff {x : JsFunction} {holder : ℕ} :
    x.owned = some holder ↔ x.Held ∧ x.data = holder := by
  unfold owned Held
  rcases x with ⟨data, _ | _, visible, _ | _⟩ <;> simp

namespace Callables

/-- The holders alive are those of the functions that are still to be finalized, JavaScript gets
at no function without a finalizer, and what is called or referred to was not finalized. -/
structure Sound (s : Callables) : Prop where
  owned : Owned s.holders s.owns
  fresh : ∀ f, s.functions ≤ f → s.function f = none
  visible : ∀ {f x}, s.function f = some x → x.visible = true → x.finalizer = true
  calls : ∀ f ∈ s.calls, ∃ x, s.function f = some x ∧ x.Held
  targets : ∀ t ∈ s.targets, ∃ x, s.function t.constructor = some x ∧ x.Held ∧ x.data = t.state
  ended : s.running = false → s.calls = [] ∧ s.targets = []

variable {s s' : Callables} {f : ℕ} {x : JsFunction}

lemma owns_update {holders : Lifetimes} {functions : ℕ} :
    owns { s with
      holders := holders
      functions := functions
      function := update s.function f (some x) } = update s.owns f x.owned :=
  comp_update (fun x? : Option JsFunction => x?.bind JsFunction.owned) s.function f (some x)

lemma owns_eq_some_iff {holder : ℕ} :
    s.owns f = some holder ↔ ∃ x, s.function f = some x ∧ x.Held ∧ x.data = holder := by
  rw [owns, Option.bind_eq_some_iff]
  simp_rw [JsFunction.owned_eq_some_iff]

namespace Sound

/-- A holder is alive as long as its function is still to be finalized. -/
lemma alive (h : Sound s) (hf : s.function f = some x) (hx : x.Held) : s.holders.Alive x.data :=
  h.owned.alive (owns_eq_some_iff.mpr ⟨x, hf, hx, rfl⟩)

lemma access (h : Sound s) (hf : s.function f = some x) (hx : x.Held) :
    s.access x.data = some s :=
  if_pos (h.alive hf hx)

lemma empty : Sound {} where
  owned := Owned.empty
  fresh _ _ := rfl
  visible hf := by cases hf
  calls _ hmem := absurd hmem List.not_mem_nil
  targets _ hmem := absurd hmem List.not_mem_nil
  ended := by decide

/-- A function is made, or one that nothing calls or refers to goes. -/
lemma set (h : Sound s) {holders : Lifetimes} {functions : ℕ}
    (howned : Owned holders (update s.owns f x.owned))
    (hvisible : x.visible = true → x.finalizer = true) (hlt : f < functions)
    (hle : s.functions ≤ functions) (hcalls : f ∉ s.calls)
    (htargets : ∀ t ∈ s.targets, t.constructor ≠ f) :
    Sound { s with
      holders := holders
      functions := functions
      function := update s.function f (some x) } := by
  refine ⟨owns_update ▸ howned, fun g hg => ?_, fun {g y} hg hy => ?_, fun g hg => ?_,
    fun t ht => ?_, h.ended⟩
  · have hle' : functions ≤ g := hg
    exact (update_of_ne (by omega) _ _).trans (h.fresh g (by omega))
  · dsimp only at hg
    by_cases hgf : g = f
    · rw [hgf, update_self] at hg
      obtain rfl := Option.some.inj hg
      exact hvisible hy
    · rw [update_of_ne hgf] at hg
      exact h.visible hg hy
  · obtain ⟨y, hy, hheld⟩ := h.calls g hg
    exact ⟨y, (update_of_ne (ne_of_mem_of_not_mem hg hcalls) _ _).trans hy, hheld⟩
  · obtain ⟨y, hy, hheld⟩ := h.targets t ht
    exact ⟨y, (update_of_ne (htargets t ht) _ _).trans hy, hheld⟩

/-- One more function, which JavaScript gets only with its finalizer. -/
lemma add (h : Sound s) {holders : Lifetimes}
    (howned : Owned holders (update s.owns s.functions x.owned))
    (hvisible : x.visible = true → x.finalizer = true) :
    Sound { s with
      holders := holders
      functions := s.functions + 1
      function := update s.function s.functions (some x) } := by
  have hnew : ∀ {y}, s.function s.functions ≠ some y := by
    intro y hy
    rw [h.fresh _ (Nat.le_refl _)] at hy
    cases hy
  refine h.set howned hvisible (Nat.lt_succ_self _) (Nat.le_succ _) (fun hmem => ?_) ?_
  · obtain ⟨y, hy, -⟩ := h.calls _ hmem
    exact hnew hy
  · rintro t ht heq
    obtain ⟨y, hy, -⟩ := h.targets t ht
    exact hnew (heq ▸ hy)

/-- A function is made for a new holder, or the holder is gone again and no owner has changed. -/
lemma makeHeld_cases (h : Sound s) (what : String) (created attached : Bool) :
    ∃ result s', s.makeHeld what created attached = some (result, s') ∧ Sound s' ∧
      s'.running = s.running ∧
      ((∃ f x, result = .ok f ∧ s'.function f = some x ∧ x.Held ∧ x.data = s.holders.made) ∨
        (∃ e, result = .error e) ∧ s'.owns = s.owns) := by
  have hmade : s.holders.make.Alive s.holders.made := Lifetimes.alive_make_iff.mpr (.inl rfl)
  obtain ⟨holders, hdestroy⟩ := Lifetimes.exists_destroy hmade
  have hback : Owned holders s.owns := h.owned.make_destroy hdestroy
  have hfree : s.owns s.functions = none := by
    rw [owns, h.fresh _ (Nat.le_refl _)]
    rfl
  dsimp only [makeHeld]
  cases created with
  | false =>
    refine ⟨.error (.stdException (ascii what)), { s with holders := holders }, ?_, ?_,
      rfl, .inr ⟨⟨_, rfl⟩, rfl⟩⟩
    · rw [Bool.not_false, if_pos rfl, hdestroy]
      rfl
    · exact ⟨hback, h.fresh, h.visible, h.calls, h.targets, h.ended⟩
  | true =>
    rw [Bool.not_true, if_neg Bool.false_ne_true]
    cases attached with
    | false =>
      let x : JsFunction := ⟨s.holders.made, false, false, false⟩
      have hsame : update s.owns s.functions x.owned = s.owns := by
        rw [show x.owned = none from rfl, ← hfree, update_eq_self]
      refine ⟨.error (.stdException (ascii "napi_add_finalizer failed")),
        { s with
          holders := holders
          functions := s.functions + 1
          function := update s.function s.functions (some x) }, ?_,
        h.add (hsame.symm ▸ hback) (fun hx => absurd hx Bool.false_ne_true), rfl,
        .inr ⟨⟨_, rfl⟩, owns_update.trans hsame⟩⟩
      rw [Bool.not_false, if_pos rfl, hdestroy]
      rfl
    | true =>
      rw [Bool.not_true, if_neg Bool.false_ne_true]
      exact ⟨_, _, rfl, h.add (h.owned.make hfree) (fun _ => rfl), rfl,
        .inl ⟨s.functions, _, rfl, update_self .., ⟨rfl, rfl⟩, rfl⟩⟩

/-- A class is defined, or its function is left to its finalizer, or the holder is gone again. -/
lemma exists_defineClass (h : Sound s) (hrunning : s.running = true)
    (created attached defined : Bool) (thrown : Option Raised) :
    ∃ result s', s.defineClass created attached defined thrown = some (result, s') ∧ Sound s' := by
  obtain ⟨result, s', hmake, hs', hsame, hcases⟩ :=
    h.makeHeld_cases "napi_define_class failed" created attached
  rw [defineClass, hmake]
  rcases hcases with ⟨f, x, rfl, hf, hx, hdata⟩ | ⟨⟨e, rfl⟩, -⟩
  · rcases defined with _ | _
    · exact ⟨_, _, rfl, hs'⟩
    · rcases thrown with _ | e
      · refine ⟨_, _, rfl, hs'.owned, hs'.fresh, hs'.visible, hs'.calls, fun t ht => ?_, ?_⟩
        · rcases List.mem_append.mp ht with ht | ht
          · exact hs'.targets t ht
          · obtain rfl := List.mem_singleton.mp ht
            exact ⟨x, hf, hx, hdata⟩
        · intro hended
          rw [← hsame, hended] at hrunning
          cases hrunning
      · exact ⟨_, _, rfl, hs'⟩
  · exact ⟨_, _, rfl, hs'⟩

/-- A function that nothing calls or refers to goes, and its finalizer deletes a holder once. -/
lemma exists_collect (h : Sound s) (hf : s.function f = some x) (hcalls : f ∉ s.calls)
    (htargets : ∀ t ∈ s.targets, t.constructor ≠ f) :
    ∃ holders, s.collect f = some { s with
        holders := holders
        function := update s.function f (some { x with collected := true }) } ∧
      holders.made = s.holders.made ∧ Sound { s with
        holders := holders
        function := update s.function f (some { x with collected := true }) } := by
  obtain ⟨holders, hrelease, -, howned⟩ := h.owned.release f
  rw [owns, hf, Option.bind_some] at hrelease
  have hgone : JsFunction.owned { x with collected := true } = none := by
    simp [JsFunction.owned]
  have hvisible : x.visible = true → x.finalizer = true := h.visible hf
  have hlt : f < s.functions := by
    by_contra hge
    rw [h.fresh f (Nat.le_of_not_lt hge)] at hf
    cases hf
  refine ⟨holders, ?_, Lifetimes.made_of_release hrelease,
    h.set (hgone.symm ▸ howned) hvisible hlt (Nat.le_refl _) hcalls htargets⟩
  rw [collect, hf, Option.bind_eq_bind, Option.bind_some, hrelease]
  rfl

/-- A callback uses its holder, and so does what it returns to. -/
lemma exists_enter (h : Sound s) (hf : s.function f = some x) (hvisible : x.visible = true)
    (hcollected : x.collected = false) :
    ∃ s', s.enter f = some s' ∧ (s.running = true → Sound s') := by
  have hx : x.Held := ⟨h.visible hf hvisible, hcollected⟩
  refine ⟨{ s with calls := f :: s.calls }, ?_, fun hrunning => ?_⟩
  · rw [enter, hf, Option.bind_eq_bind, Option.bind_some, h.access hf hx]
    rfl
  · refine ⟨h.owned, h.fresh, h.visible, fun g hg => ?_, h.targets, fun hended => ?_⟩
    · rcases List.mem_cons.mp hg with rfl | hg
      · exact ⟨x, hf, hx⟩
      · exact h.calls g hg
    · rw [hended] at hrunning
      cases hrunning

lemma exists_leave (h : Sound s) {calls : List ℕ} (hcalls : s.calls = f :: calls) :
    s.leave = some { s with calls := calls } ∧ Sound { s with calls := calls } := by
  obtain ⟨x, hf, hx⟩ := h.calls f (hcalls ▸ List.mem_cons_self)
  constructor
  · rw [leave, hcalls]
    dsimp only
    rw [hf, Option.bind_eq_bind, Option.bind_some, h.access hf hx]
    rfl
  · refine ⟨h.owned, h.fresh, h.visible, fun g hg => ?_, h.targets, fun hended => ?_⟩
    · exact h.calls g (hcalls ▸ List.mem_cons_of_mem f hg)
    · rw [(h.ended hended).1] at hcalls
      cases hcalls

lemma setConstructor (h : Sound s) {target : ℕ} (htarget : target < s.targets.length) :
    s.setConstructor target = some s := by
  obtain ⟨x, hf, hx, hdata⟩ := h.targets _ (List.getElem_mem htarget)
  rw [Callables.setConstructor, List.getElem?_eq_getElem htarget, Option.bind_eq_bind,
    Option.bind_some, ← hdata]
  exact h.access hf hx

lemma dropTarget (h : Sound s) (target : ℕ) : Sound (s.dropTarget target) := by
  refine ⟨h.owned, h.fresh, h.visible, h.calls, fun t ht => ?_,
    fun hended => ⟨(h.ended hended).1, ?_⟩⟩
  · exact h.targets t (List.mem_of_mem_eraseIdx ht)
  · rw [Callables.dropTarget, (h.ended hended).2]
    rfl

lemma cleanup (h : Sound s) (hcalls : s.calls = []) : Sound s.cleanup where
  owned := h.owned
  fresh := h.fresh
  visible := h.visible
  calls := h.calls
  targets _ hmem := absurd hmem List.not_mem_nil
  ended _ := ⟨hcalls, rfl⟩

/-- What can happen is defined. -/
lemma exists_next (h : Sound s) {e : CallableEvent} (he : e.Valid s) :
    ∃ s', e.next s = some s' ∧ Sound s' := by
  cases e with
  | makeFunction created attached =>
    obtain ⟨result, s', hmake, hs', -⟩ :=
      h.makeHeld_cases "napi_create_function failed" created attached
    exact ⟨s', congrArg (Option.map Prod.snd) hmake, hs'⟩
  | defineClass created attached defined thrown =>
    obtain ⟨result, s', hdefine, hs'⟩ := h.exists_defineClass he created attached defined thrown
    exact ⟨s', congrArg (Option.map Prod.snd) hdefine, hs'⟩
  | setConstructor target => exact ⟨s, h.setConstructor he, h⟩
  | enter f =>
    obtain ⟨x, hf, hx⟩ := (Option.any_eq_true _ _).mp he.2
    rw [Bool.and_eq_true, Bool.not_eq_true'] at hx
    obtain ⟨s', henter, hs'⟩ := h.exists_enter hf hx.1 hx.2
    exact ⟨s', henter, hs' he.1⟩
  | leave =>
    obtain ⟨f, calls, hcalls⟩ := List.exists_cons_of_ne_nil he
    exact ⟨_, h.exists_leave hcalls⟩
  | collect f =>
    obtain ⟨x, hf, -⟩ := (Option.any_eq_true _ _).mp he.1
    obtain ⟨holders, hcollect, -, hs'⟩ := h.exists_collect hf he.2.1 he.2.2
    exact ⟨_, hcollect, hs'⟩
  | dropTarget target => exact ⟨_, rfl, h.dropTarget target⟩
  | cleanup => exact ⟨_, rfl, h.cleanup he.2⟩

/-- Nothing is left to delete when all functions were collected. -/
lemma count_eq_one (h : Sound s) (hall : ∀ f x, s.function f = some x → x.collected = true)
    {id : ℕ} (hid : id < s.holders.made) : s.holders.destroyed.count id = 1 := by
  rcases h.owned.accounted hid with ⟨⟨f, hf⟩, -⟩ | ⟨-, hcount⟩
  · obtain ⟨x, hx, hheld, -⟩ := owns_eq_some_iff.mp hf
    have hcollected := hall f x hx
    rw [hheld.2] at hcollected
    cases hcollected
  · exact hcount

end Sound

/-! ## Runs -/

/-- What can happen from one state on. -/
abbrev Reaches : Callables → Callables → Prop :=
  Runs.Reaches (fun s e => CallableEvent.Valid s e) CallableEvent.next

/-- The states of an environment. -/
abbrev Reachable (s : Callables) : Prop := Reaches {} s

lemma Reachable.sound (h : s.Reachable) : Sound s := by
  refine Runs.Reaches.invariant Sound.empty ?_ h
  intro s e s' hs hvalid hnext
  obtain ⟨s'', hnext', hs''⟩ := hs.exists_next hvalid
  rw [hnext'] at hnext
  exact Option.some.inj hnext ▸ hs''

namespace Sound

variable {s₀ : Callables}

/-- The callbacks that run return, one after the other. -/
lemma exists_outside (h : Sound s) (hreach : Reaches s₀ s) :
    ∃ s', Reaches s₀ s' ∧ Sound s' ∧ s'.calls = [] ∧ s'.holders = s.holders := by
  generalize hcalls : s.calls = calls
  induction calls generalizing s with
  | nil => exact ⟨s, hreach, h, hcalls, rfl⟩
  | cons f calls ih =>
    obtain ⟨hleave, hs'⟩ := h.exists_leave hcalls
    have hvalid : CallableEvent.leave.Valid s := by
      rw [CallableEvent.Valid, hcalls]
      exact List.cons_ne_nil f calls
    obtain ⟨s', hrest⟩ := ih hs' (hreach.step hvalid hleave) rfl
    exact ⟨s', hrest⟩

/-- The environment begins to end, unless it has begun. -/
lemma exists_ended (h : Sound s) (hreach : Reaches s₀ s) (hcalls : s.calls = []) :
    ∃ s', Reaches s₀ s' ∧ Sound s' ∧ s'.calls = [] ∧ s'.targets = [] ∧
      s'.holders = s.holders := by
  rcases hrunning : s.running with _ | _
  · exact ⟨s, hreach, h, hcalls, (h.ended hrunning).2, rfl⟩
  · have hvalid : CallableEvent.cleanup.Valid s := ⟨hrunning, hcalls⟩
    exact ⟨s.cleanup, hreach.step hvalid rfl, h.cleanup hcalls, hcalls, rfl, rfl⟩

/-- Then the first functions are finalized, and so all of them. -/
lemma exists_collected (h : Sound s) (hreach : Reaches s₀ s) (hcalls : s.calls = [])
    (htargets : s.targets = []) (n : ℕ) :
    ∃ s', Reaches s₀ s' ∧ Sound s' ∧ s'.calls = [] ∧ s'.targets = [] ∧
      s'.functions = s.functions ∧ s'.holders.made = s.holders.made ∧
      ∀ f < n, ∀ x, s'.function f = some x → x.collected = true := by
  induction n with
  | zero =>
    exact ⟨s, hreach, h, hcalls, htargets, rfl, rfl, fun f hf => absurd hf (Nat.not_lt_zero f)⟩
  | succ n ih =>
    obtain ⟨s', hreach', h', hcalls', htargets', hfunctions, hmade, hall⟩ := ih
    by_cases hleft : (s'.function n).any (fun x => !x.collected) = true
    · obtain ⟨x, hx, -⟩ := (Option.any_eq_true _ _).mp hleft
      have hnot : n ∉ s'.calls := hcalls' ▸ List.not_mem_nil
      have hfree : ∀ t ∈ s'.targets, t.constructor ≠ n := by
        rw [htargets']
        exact List.forall_mem_nil _
      obtain ⟨holders, hcollect, hsame, hs'⟩ := h'.exists_collect hx hnot hfree
      have hvalid : (CallableEvent.collect n).Valid s' := ⟨hleft, hnot, hfree⟩
      refine ⟨_, hreach'.step hvalid hcollect, hs', hcalls', htargets', hfunctions,
        hsame.trans hmade, fun f hf y hy => ?_⟩
      dsimp only at hy
      by_cases hfn : f = n
      · rw [hfn, update_self] at hy
        exact Option.some.inj hy ▸ rfl
      · rw [update_of_ne hfn] at hy
        exact hall f (by omega) y hy
    · refine ⟨s', hreach', h', hcalls', htargets', hfunctions, hmade, fun f hf y hy => ?_⟩
      by_cases hfn : f = n
      · subst hfn
        rw [hy] at hleft
        simpa using hleft
      · exact hall f (by omega) y hy

end Sound

/-- Whatever JavaScript and the garbage collector do, every call of a function and every finalizer
finds its holder.  A holder is there as long as its function is to be finalized, and otherwise it
was deleted once; and when the environment ends, each was. -/
theorem holders_deleted_once (h : s.Reachable) :
    (∀ e : CallableEvent, e.Valid s → ∃ s', e.next s = some s') ∧
    (∀ id < s.holders.made,
      (∃ f x, s.function f = some x ∧ x.Held ∧ x.data = id) ∧ s.holders.destroyed.count id = 0 ∨
      (∀ f x, s.function f = some x → x.Held → x.data ≠ id) ∧
        s.holders.destroyed.count id = 1) ∧
    ∃ s', Reaches s s' ∧ s'.holders.made = s.holders.made ∧
      (∀ f x, s'.function f = some x → x.collected = true) ∧
      ∀ id < s'.holders.made, s'.holders.destroyed.count id = 1 := by
  refine ⟨fun e he => ?_, fun id hid => ?_, ?_⟩
  · obtain ⟨s', hnext, -⟩ := h.sound.exists_next he
    exact ⟨s', hnext⟩
  · rcases h.sound.owned.accounted hid with ⟨⟨f, hf⟩, hcount⟩ | ⟨hnone, hcount⟩
    · exact .inl ⟨⟨f, owns_eq_some_iff.mp hf⟩, hcount⟩
    · exact .inr ⟨fun f x hf hx hdata => hnone f (owns_eq_some_iff.mpr ⟨x, hf, hx, hdata⟩), hcount⟩
  · obtain ⟨s₁, hreach₁, hs₁, hcalls₁, hholders₁⟩ := h.sound.exists_outside .start
    obtain ⟨s₂, hreach₂, hs₂, hcalls₂, htargets₂, hholders₂⟩ := hs₁.exists_ended hreach₁ hcalls₁
    obtain ⟨s', hreach, hs', -, -, hfunctions, hmade, hall⟩ :=
      hs₂.exists_collected hreach₂ hcalls₂ htargets₂ s₂.functions
    have hcollected : ∀ f x, s'.function f = some x → x.collected = true := by
      intro f x hf
      refine hall f ?_ x hf
      by_contra hge
      rw [hs'.fresh f (hfunctions ▸ Nat.le_of_not_lt hge)] at hf
      cases hf
    exact ⟨s', hreach, by rw [hmade, hholders₂, hholders₁], hcollected,
      fun id hid => hs'.count_eq_one hcollected hid⟩

/-- A class and two functions, of which the second gets no finalizer; the first calls the class and
is collected. -/
theorem holders_deleted_once_three :
    ∃ s : Callables, s.Reachable ∧ s.holders.made = 3 ∧ s.holders.destroyed = [1, 2] ∧
      ∃ s', Reaches s s' ∧ s'.holders.destroyed.count 0 = 1 := by
  have hany : (Runs.run (fun s e => CallableEvent.Valid s e) CallableEvent.next {}
      [.defineClass true true true none, .setConstructor 0, .makeFunction true true, .enter 1,
        .enter 0, .makeFunction true false, .leave, .leave, .collect 1]).any
        (fun s => decide (s.holders.made = 3 ∧ s.holders.destroyed = [1, 2])) = true := by
    decide
  obtain ⟨s, hrun, hstate⟩ := (Option.any_eq_true _ _).mp hany
  have h : s.Reachable := Runs.Reaches.of_run .start hrun
  obtain ⟨hmade, hdestroyed⟩ := of_decide_eq_true hstate
  obtain ⟨s', hreach, hsame, -, hcount⟩ := (holders_deleted_once h).2.2
  exact ⟨s, h, hmade, hdestroyed, s', hreach, hcount 0 (by omega)⟩

end Callables

end Dynabridge.Napi
