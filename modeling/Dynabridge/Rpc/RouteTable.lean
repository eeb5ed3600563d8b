import Dynabridge.Rpc.Router

/-!
# The route table over a history of definitions

`Router.defineAll` makes any sequence of `define` calls on a new router and records what each
of them raised.  The most recent successful definitions of the names say everything about the
table that results, and so about every dispatch: `mem_routes_iff`.
-/

namespace Dynabridge.Rpc

open Export SortedTable

variable {B : ProbingBackend Value}

/-! ## What one definition does -/

namespace Router

/-- A route that holds the id of a name under another name. -/
def Collides (router : Router B) (name : CString) : Prop :=
  ∃ r ∈ router.routes, r.id = symbolId name ∧ r.name ≠ name

/-- Everything `define` can do: raise because of a collision, or put the route in the place of
whatever had its id. -/
lemma define_cases (router : Router B) (name : CString) (binder : Binder B.toBackend) :
    (router.Collides name ∧
      router.define name binder =
        .error (.protocolError (ascii "RPC symbol hash collision"))) ∨
    (¬ router.Collides name ∧ ∃ router', router.define name binder = .ok router' ∧
      ∀ r, r ∈ router'.routes ↔
        r = ⟨symbolId name, name, binder⟩ ∨ r ∈ router.routes ∧ r.id ≠ symbolId name) := by
  unfold define
  dsimp only
  split
  · rename_i entry hfind
    obtain ⟨hmem, hid⟩ := find_eq_some_iff.mp hfind
    by_cases hname : entry.name = name
    · refine .inr ⟨?_, _, if_neg (not_not.mpr hname), fun r => ?_⟩
      · rintro ⟨r, hr, hrid, hrname⟩
        obtain rfl := eq_of_id_eq hr hmem (hrid.trans hid.symm)
        exact hrname hname
      · have hset := mem_set_iff (b := ⟨symbolId name, name, binder⟩) (c := r) router.sorted hfind
        simpa only [Route.key, ne_eq, UInt64.toNat_inj] using hset
    · exact .inl ⟨⟨entry, hmem, hid, hname⟩, if_pos hname⟩
  · rename_i hfind
    have hnew := find_eq_none_iff.mp hfind
    refine .inr ⟨?_, _, rfl, fun r => ?_⟩
    · rintro ⟨r, hr, hrid, -⟩
      exact hnew r hr hrid
    · rw [List.mem_insertIdx (lowerBound_le_length _ _)]
      exact or_congr_right ⟨fun hr => ⟨hr, hnew r hr⟩, And.left⟩

end Router

/-! ## Histories -/

/-- A call of `define`, with what it raised. -/
structure Definition (B : ProbingBackend Value) where
  name : CString
  binder : Binder B.toBackend
  raised : Option Raised

/-- The next call of `define`: one that raises leaves the router as it was. -/
def defineNext (state : Router B × List (Definition B)) (call : CString × Binder B.toBackend) :
    Router B × List (Definition B) :=
  match state.1.define call.1 call.2 with
  | .ok router => (router, state.2 ++ [⟨call.1, call.2, none⟩])
  | .error e => (state.1, state.2 ++ [⟨call.1, call.2, some e⟩])

/-- A new router after some calls of `define`. -/
def defineAll (calls : List (CString × Binder B.toBackend)) : Router B :=
  (calls.foldl defineNext (.empty, [])).1

/-- The calls of `define` with what each of them raised. -/
def history (calls : List (CString × Binder B.toBackend)) : List (Definition B) :=
  (calls.foldl defineNext (.empty, [])).2

lemma defineAll_concat_of_ok {calls : List (CString × Binder B.toBackend)} {name : CString}
    {binder : Binder B.toBackend} {router : Router B}
    (h : (defineAll calls).define name binder = .ok router) :
    defineAll (calls ++ [(name, binder)]) = router ∧
      history (calls ++ [(name, binder)]) = history calls ++ [⟨name, binder, none⟩] := by
  unfold defineAll history at *
  rw [List.foldl_append, List.foldl_cons, List.foldl_nil]
  simp only [defineNext, h, and_self]

lemma defineAll_concat_of_error {calls : List (CString × Binder B.toBackend)} {name : CString}
    {binder : Binder B.toBackend} {e : Raised}
    (h : (defineAll calls).define name binder = .error e) :
    defineAll (calls ++ [(name, binder)]) = defineAll calls ∧
      history (calls ++ [(name, binder)]) = history calls ++ [⟨name, binder, some e⟩] := by
  unfold defineAll history at *
  rw [List.foldl_append, List.foldl_cons, List.foldl_nil]
  simp only [defineNext, h, and_self]

/-- What the last definition of a name raised, if there is one. -/
def lastOutcome (definitions : List (Definition B)) (name : CString) : Option (Option Raised) :=
  ((definitions.filter fun d => decide (d.name = name)).getLast?).map Definition.raised

/-- The binder that a name was given by its most recent successful definition. -/
def latest (definitions : List (Definition B)) (name : CString) : Option (Binder B.toBackend) :=
  ((definitions.filter fun d => decide (d.name = name ∧ d.raised = none)).getLast?).map
    Definition.binder

lemma latest_concat_of_raised (definitions : List (Definition B)) {d : Definition B}
    (h : d.raised ≠ none) : latest (definitions ++ [d]) = latest definitions := by
  funext name
  unfold latest
  rw [List.filter_append, List.filter_singleton, decide_eq_false fun hd => h hd.2]
  simp only [cond_false, List.append_nil]

lemma latest_concat_of_ne (definitions : List (Definition B)) {d : Definition B}
    {name : CString} (h : d.name ≠ name) :
    latest (definitions ++ [d]) name = latest definitions name := by
  unfold latest
  rw [List.filter_append, List.filter_singleton, decide_eq_false fun hd => h hd.1]
  simp only [cond_false, List.append_nil]

lemma latest_concat_self (definitions : List (Definition B)) (name : CString)
    (binder : Binder B.toBackend) :
    latest (definitions ++ [⟨name, binder, none⟩]) name = some binder := by
  unfold latest
  rw [List.filter_append, List.filter_singleton, decide_eq_true (by simp)]
  simp only [cond_true, List.getLast?_concat, Option.map_some]

/-- A name whose last definition did not raise has a most recent successful definition. -/
lemma isSome_latest_of_lastOutcome {definitions : List (Definition B)} {name : CString}
    (h : lastOutcome definitions name = some none) : (latest definitions name).isSome := by
  obtain ⟨d, hd, hraised⟩ := Option.map_eq_some_iff.mp h
  obtain ⟨hmem, hname⟩ := List.mem_filter.mp (List.mem_of_getLast? hd)
  have hgood : d ∈ definitions.filter fun d => decide (d.name = name ∧ d.raised = none) :=
    List.mem_filter.mpr ⟨hmem, decide_eq_true ⟨of_decide_eq_true hname, hraised⟩⟩
  rw [latest, Option.isSome_map, Option.isSome_iff_ne_none, ne_eq, List.getLast?_eq_none_iff]
  exact List.ne_nil_of_mem hgood

/-- The routes are the most recent successful definitions. -/
theorem mem_routes_iff (calls : List (CString × Binder B.toBackend)) (r : Route B) :
    r ∈ (defineAll calls).routes ↔
      r.id = symbolId r.name ∧ latest (history calls) r.name = some r.binder := by
  induction calls using List.reverseRecOn with
  | nil => simp [defineAll, history, Router.empty, latest]
  | append_singleton calls call ih =>
    obtain ⟨name, binder⟩ := call
    rcases (defineAll calls).define_cases name binder with
      ⟨-, hraise⟩ | ⟨hfree, router, hdefine, hroutes⟩
    · obtain ⟨htable, hhistory⟩ := defineAll_concat_of_error hraise
      rw [htable, hhistory, latest_concat_of_raised _ (by simp), ih]
    · obtain ⟨htable, hhistory⟩ := defineAll_concat_of_ok hdefine
      rw [htable, hhistory, hroutes]
      obtain ⟨id, name', binder'⟩ := r
      by_cases hname : name = name'
      · subst hname
        rw [latest_concat_self]
        constructor
        · rintro (h | ⟨hmem, hne⟩)
          · obtain ⟨rfl, -, rfl⟩ := Route.mk.inj h
            exact ⟨rfl, rfl⟩
          · exact absurd ((defineAll calls).hashed _ hmem) hne
        · rintro ⟨hid, hbinder⟩
          obtain rfl := Option.some.inj hbinder
          exact .inl (Route.mk.injEq .. ▸ ⟨hid, rfl, rfl⟩)
      · rw [latest_concat_of_ne _ hname, ← ih]
        refine ⟨?_, fun hmem => .inr ⟨hmem, fun hid => hfree ⟨_, hmem, hid, Ne.symm hname⟩⟩⟩
        rintro (h | ⟨hmem, -⟩)
        · exact absurd (Route.mk.inj h).2.1.symm hname
        · exact hmem

/-- A name collides exactly when another name with its hash is defined. -/
lemma collides_iff (calls : List (CString × Binder B.toBackend)) (name : CString) :
    (defineAll calls).Collides name ↔
      ∃ other, other ≠ name ∧ symbolId other = symbolId name ∧
        (latest (history calls) other).isSome := by
  constructor
  · rintro ⟨r, hmem, hid, hname⟩
    obtain ⟨hhash, hlatest⟩ := (mem_routes_iff calls r).mp hmem
    exact ⟨r.name, hname, hhash.symm.trans hid, Option.isSome_of_eq_some hlatest⟩
  · rintro ⟨other, hname, hid, hdefined⟩
    obtain ⟨binder, hlatest⟩ := Option.isSome_iff_exists.mp hdefined
    exact ⟨⟨symbolId other, other, binder⟩, (mem_routes_iff calls _).mpr ⟨rfl, hlatest⟩, hid,
      hname⟩

/-! ## Dispatch -/

/-- What the body of a dispatch does with the binder of a route. -/
def serve (binder : Binder B.toBackend) (args : List Value) :
    Except Raised (List UInt8) × List (Event B.toBackend) :=
  match binder.dispatchOptional args.length consumingVectorAccessor args with
  | (.error e, trace) => (.error e, trace.log)
  | (.ok none, trace) =>
    (encodeError (ascii "RPC argument conversion or arity mismatch"), trace.log)
  | (.ok (some result), trace) => (encodeResponse result, trace.log)

/-- The two handlers of a dispatch with exceptions. -/
def handled (outcome : Except Raised (List UInt8) × List (Event B.toBackend)) :
    Except Raised (List UInt8) × List (Event B.toBackend) :=
  match outcome with
  | (.ok response, log) => (.ok response, log)
  | (.error e, log) =>
    match e.what with
    | some what => (encodeError what, log)
    | none => (encodeError (ascii "unknown RPC server failure"), log)

lemma Router.dispatch_eq_handled (router : Router B) (frame : List UInt8) :
    router.dispatch frame = handled (router.dispatchBody frame) := rfl

/-- A well-formed request for a route is served by its binder. -/
lemma Router.dispatchBody_of_mem {router : Router B} {frame : List UInt8} {request : Request}
    (hdecode : tryDecodeRequest frame ⟨0, []⟩ = (true, request)) {r : Route B}
    (hmem : r ∈ router.routes) (hid : r.id = request.method) :
    router.dispatchBody frame = serve r.binder request.args := by
  rw [dispatchBody, hdecode]
  simp only [find_eq_some_iff.mpr ⟨hmem, hid⟩]
  rfl

/-- A well-formed request for an id without a route is refused. -/
lemma Router.dispatchBody_of_unknown {router : Router B} {frame : List UInt8}
    {request : Request} (hdecode : tryDecodeRequest frame ⟨0, []⟩ = (true, request))
    (hunknown : ∀ r ∈ router.routes, r.id ≠ request.method) :
    router.dispatchBody frame = (encodeError (ascii "unknown RPC method"), []) := by
  rw [dispatchBody, hdecode]
  simp only [find_eq_none_iff.mpr hunknown]

/-- A name whose last definition did not raise has exactly one route. -/
lemma countP_routes_of_lastOutcome {calls : List (CString × Binder B.toBackend)} {name : CString}
    (h : lastOutcome (history calls) name = some none) :
    (defineAll calls).routes.countP (fun r => decide (r.name = name)) = 1 := by
  obtain ⟨binder, hlatest⟩ := Option.isSome_iff_exists.mp (isSome_latest_of_lastOutcome h)
  have hmem : ⟨symbolId name, name, binder⟩ ∈ (defineAll calls).routes :=
    (mem_routes_iff calls _).mpr ⟨rfl, hlatest⟩
  refine countP_eq_one (defineAll calls).sorted hmem _ fun r hr => ?_
  rw [decide_eq_true_iff, Route.key, Route.key, UInt64.toNat_inj]
  constructor
  · rintro rfl
    exact (defineAll calls).hashed r hr
  · intro hid
    rw [Router.eq_of_id_eq hr hmem hid]

/-- A definition raises exactly when another name with the same hash is defined. -/
lemma define_raises_iff (calls : List (CString × Binder B.toBackend)) (name : CString)
    (binder : Binder B.toBackend) :
    (∃ e, (defineAll calls).define name binder = .error e) ↔
      ∃ other, other ≠ name ∧ symbolId other = symbolId name ∧
        (latest (history calls) other).isSome := by
  rw [← collides_iff]
  rcases (defineAll calls).define_cases name binder with
    ⟨hcollides, hraise⟩ | ⟨hfree, router, hdefine, -⟩
  · exact iff_of_true ⟨_, hraise⟩ hcollides
  · refine iff_of_false ?_ hfree
    rintro ⟨e, hraise⟩
    rw [hdefine] at hraise
    cases hraise

/-- The error of a definition is that of a collision. -/
lemma error_of_define {router : Router B} {name : CString} {binder : Binder B.toBackend}
    {e : Raised} (h : router.define name binder = .error e) :
    e = .protocolError (ascii "RPC symbol hash collision") := by
  rcases router.define_cases name binder with ⟨-, hcollision⟩ | ⟨-, router', hdefine, -⟩
  · rw [h] at hcollision
    exact Except.error.inj hcollision
  · rw [h] at hdefine
    cases hdefine

/-- A request for a defined name is served by the binder of its most recent definition. -/
lemma dispatchBody_of_latest {calls : List (CString × Binder B.toBackend)} {frame : List UInt8}
    {request : Request} (hdecode : tryDecodeRequest frame ⟨0, []⟩ = (true, request))
    {name : CString} {binder : Binder B.toBackend}
    (hlatest : latest (history calls) name = some binder) (hid : symbolId name = request.method) :
    (defineAll calls).dispatchBody frame = serve binder request.args := by
  have hmem : ⟨symbolId name, name, binder⟩ ∈ (defineAll calls).routes :=
    (mem_routes_iff calls _).mpr ⟨rfl, hlatest⟩
  exact Router.dispatchBody_of_mem hdecode hmem hid

/-- A request for any other id is refused. -/
lemma dispatchBody_of_none_latest {calls : List (CString × Binder B.toBackend)}
    {frame : List UInt8} {request : Request}
    (hdecode : tryDecodeRequest frame ⟨0, []⟩ = (true, request))
    (hunknown : ∀ name, (latest (history calls) name).isSome → symbolId name ≠ request.method) :
    (defineAll calls).dispatchBody frame = (encodeError (ascii "unknown RPC method"), []) := by
  refine Router.dispatchBody_of_unknown hdecode fun r hr hid => ?_
  obtain ⟨hhash, hlatest⟩ := (mem_routes_iff calls r).mp hr
  exact hunknown r.name (Option.isSome_of_eq_some hlatest) (hhash.symm.trans hid)

/-- Only the most recent successful definitions determine the table. -/
lemma defineAll_eq_of_latest_eq {calls calls' : List (CString × Binder B.toBackend)}
    (h : latest (history calls') = latest (history calls)) :
    defineAll calls' = defineAll calls := by
  have hroutes : (defineAll calls').routes = (defineAll calls).routes := by
    refine SortedTable.eq_of_mem_iff (defineAll calls').sorted (defineAll calls).sorted ?_
    intro r
    rw [mem_routes_iff, mem_routes_iff, h]
  rcases hleft : defineAll calls' with ⟨routes', sorted', hashed'⟩
  rcases hright : defineAll calls with ⟨routes, sorted, hashed⟩
  rw [hleft, hright] at hroutes
  obtain rfl : routes' = routes := hroutes
  rfl

/-- After any calls of `define` on a new router, the routes increase strictly in their ids,
each id is the hash of the name, and a name whose last definition did not raise has exactly one
route.  A further definition raises exactly when another name with the same hash is defined,
and then changes nothing.  A request for a defined name is served by the binder of its most
recent successful definition, a request for any other id by none; only these definitions
determine the table, not the order in which they were made. -/
theorem defineAll_table (calls : List (CString × Binder B.toBackend)) :
    (defineAll calls).routes.Pairwise (fun r r' => r.id < r'.id) ∧
    (∀ r ∈ (defineAll calls).routes, r.id = symbolId r.name) ∧
    (∀ name, lastOutcome (history calls) name = some none →
      (defineAll calls).routes.countP (fun r => decide (r.name = name)) = 1) ∧
    (∀ name binder,
      ((∃ e, (defineAll calls).define name binder = .error e) ↔
        ∃ other, other ≠ name ∧ symbolId other = symbolId name ∧
          (latest (history calls) other).isSome) ∧
      ∀ e, (defineAll calls).define name binder = .error e →
        e = .protocolError (ascii "RPC symbol hash collision") ∧
          defineAll (calls ++ [(name, binder)]) = defineAll calls) ∧
    (∀ frame request, tryDecodeRequest frame ⟨0, []⟩ = (true, request) →
      (∀ name binder, latest (history calls) name = some binder →
        symbolId name = request.method →
        (defineAll calls).dispatchBody frame = serve binder request.args ∧
          (defineAll calls).dispatch frame = handled (serve binder request.args)) ∧
      ((∀ name, (latest (history calls) name).isSome → symbolId name ≠ request.method) →
        (defineAll calls).dispatchBody frame =
            (encodeError (ascii "unknown RPC method"), []) ∧
          (defineAll calls).dispatch frame =
            (encodeError (ascii "unknown RPC method"), []))) ∧
    ∀ calls', latest (history calls') = latest (history calls) →
      defineAll calls' = defineAll calls := by
  refine ⟨(defineAll calls).sorted.imp fun h => UInt64.lt_iff_toNat_lt.mpr h,
    (defineAll calls).hashed, fun name => countP_routes_of_lastOutcome,
    fun name binder => ⟨define_raises_iff calls name binder,
      fun e hraise => ⟨error_of_define hraise, (defineAll_concat_of_error hraise).1⟩⟩,
    fun frame request hdecode => ⟨fun name binder hlatest hid => ?_, fun hunknown => ?_⟩,
    fun calls' => defineAll_eq_of_latest_eq⟩
  · have hbody := dispatchBody_of_latest hdecode hlatest hid
    rw [Router.dispatch_eq_handled, hbody]
    exact ⟨rfl, rfl⟩
  · have hbody := dispatchBody_of_none_latest hdecode hunknown
    rw [Router.dispatch_eq_handled, hbody, encodeError_eq (by decide)]
    exact ⟨rfl, rfl⟩

end Dynabridge.Rpc
