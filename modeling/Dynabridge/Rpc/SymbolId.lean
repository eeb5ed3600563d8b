import Dynabridge.Foundations.MultiplicativeHash
import Dynabridge.Rpc.RouteTable

/-!
# Ids of near-identical names

`symbol_id` hashes with xor and a multiplication by an odd constant, so that two hash states stay
apart for every common suffix, and two names of equal length that differ in one byte have
different ids.  In a router neither of two such names gets in the way of the other: not when it is
defined and not when it is requested.
-/

namespace Dynabridge.Rpc

open Export MultiplicativeHash

/-! ## The hash -/

/-- The loop of `symbol_id` over some bytes, from any state of the hash. -/
def symbolIdFrom (hash : UInt64) (bytes : List UInt8) : UInt64 :=
  bytes.foldl (xorMultiply 1099511628211) hash

lemma symbolId_eq (name : CString) :
    symbolId name = symbolIdFrom 14695981039346656037 name.val := rfl

lemma separating_symbolId : Separating (xorMultiply 1099511628211) :=
  separating_xorMultiply (by decide)

/-- Names of equal length that differ in one byte have different ids. -/
lemma symbolId_ne {first second : CString} (h : DifferAtOne first.val second.val) :
    symbolId first ≠ symbolId second := by
  rw [symbolId_eq, symbolId_eq]
  exact separating_symbolId.foldl_ne_of_differAtOne _ h

/-! ## Names with different ids in a router -/

namespace Router

variable {B : ProbingBackend Value} {router router' : Router B} {first second : CString}
  {binder : Binder B.toBackend}

/-- A definition raises exactly when its name collides. -/
lemma define_raises_iff_collides (router : Router B) (name : CString)
    (binder : Binder B.toBackend) :
    (∃ e, router.define name binder = .error e) ↔ router.Collides name := by
  rcases router.define_cases name binder with ⟨hcollides, hraise⟩ | ⟨hfree, router', hdefine, -⟩
  · exact iff_of_true ⟨_, hraise⟩ hcollides
  · refine iff_of_false ?_ hfree
    rintro ⟨e, hraise⟩
    exact absurd (hdefine.symm.trans hraise) (by simp)

/-- The routes after a definition that did not raise. -/
lemma mem_routes_of_define (hdefine : router.define first binder = .ok router') (r : Route B) :
    r ∈ router'.routes ↔
      r = ⟨symbolId first, first, binder⟩ ∨ r ∈ router.routes ∧ r.id ≠ symbolId first := by
  rcases router.define_cases first binder with ⟨-, hraise⟩ | ⟨-, router'', hdefine', hroutes⟩
  · exact absurd (hdefine.symm.trans hraise) (by simp)
  · obtain rfl : router' = router'' := Except.ok.inj (hdefine.symm.trans hdefine')
    exact hroutes r

/-- A definition leaves the lookup of every other id as it was. -/
lemma find_of_define (hdefine : router.define first binder = .ok router') {id : UInt64}
    (hid : symbolId first ≠ id) : router'.find id = router.find id := by
  ext r
  rw [find_eq_some_iff, find_eq_some_iff, mem_routes_of_define hdefine]
  constructor
  · rintro ⟨rfl | ⟨hmem, -⟩, hr⟩
    · exact absurd hr hid
    · exact ⟨hmem, hr⟩
  · rintro ⟨hmem, hr⟩
    exact ⟨.inr ⟨hmem, fun h => hid (h.symm.trans hr)⟩, hr⟩

/-- A definition makes no difference to whether a name with another id collides. -/
lemma collides_of_define (hdefine : router.define first binder = .ok router')
    (hid : symbolId first ≠ symbolId second) :
    router'.Collides second ↔ router.Collides second := by
  constructor
  · rintro ⟨r, hmem, hr, hname⟩
    rcases (mem_routes_of_define hdefine r).mp hmem with rfl | ⟨hmem, -⟩
    · exact absurd hr hid
    · exact ⟨r, hmem, hr, hname⟩
  · rintro ⟨r, hmem, hr, hname⟩
    have hkept : r.id ≠ symbolId first := fun h => hid (h.symm.trans hr)
    exact ⟨r, (mem_routes_of_define hdefine r).mpr (.inr ⟨hmem, hkept⟩), hr, hname⟩

/-- The route a lookup finds is not that of a name with another id. -/
lemma name_ne_of_find {id : UInt64} {r : Route B} (hfind : router.find id = some r)
    (hid : symbolId second ≠ id) : r.name ≠ second := by
  obtain ⟨hmem, hr⟩ := find_eq_some_iff.mp hfind
  rintro rfl
  exact hid ((router.hashed r hmem).symm.trans hr)

/-- What a dispatch does is determined by the lookup of the id of its request. -/
lemma dispatchBody_congr {frame : List UInt8} {request : Request}
    (hdecode : tryDecodeRequest frame ⟨0, []⟩ = (true, request))
    (hfind : router'.find request.method = router.find request.method) :
    router'.dispatchBody frame = router.dispatchBody frame := by
  rw [dispatchBody, dispatchBody, hdecode]
  simp only [hfind]

end Router

/-- The loop of `symbol_id` keeps two states of the hash apart for every common suffix, and two
names of equal length that differ in exactly one byte have different ids.  Defining the first of
them in a router makes no difference to whether defining the second raises, and when that raises
the route in its way is that of a third name.  A request for the first never finds the route of
the second and is served as if the second were not defined, by the binder of the first where
that is defined. -/
theorem symbolId_separates {B : ProbingBackend Value} :
    (∀ (suffix : List UInt8) (hash hash' : UInt64), hash ≠ hash' →
      symbolIdFrom hash suffix ≠ symbolIdFrom hash' suffix) ∧
    ∀ first second : CString, DifferAtOne first.val second.val →
      symbolId first ≠ symbolId second ∧
      ∀ (router router' : Router B) (binder : Binder B.toBackend),
        (router.define first binder = .ok router' → ∀ binder',
          ((∃ e, router'.define second binder' = .error e) ↔
            ∃ e, router.define second binder' = .error e)) ∧
        (∀ e, router.define second binder = .error e →
          ∃ r ∈ router.routes, r.id = symbolId second ∧ r.name ≠ second ∧ r.name ≠ first) ∧
        ∀ frame request, tryDecodeRequest frame ⟨0, []⟩ = (true, request) →
          request.method = symbolId first →
          (∀ r, router.find request.method = some r → r.name ≠ second) ∧
          (router.define second binder = .ok router' →
            router'.dispatch frame = router.dispatch frame ∧
            ∀ (before : Router B) binder', before.define first binder' = .ok router →
              router'.dispatchBody frame = serve binder' request.args) := by
  refine ⟨fun suffix hash hash' hne => separating_symbolId.foldl_ne suffix hne,
    fun first second hdiffer => ?_⟩
  have hne : symbolId first ≠ symbolId second := symbolId_ne hdiffer
  refine ⟨hne, fun router router' binder => ⟨fun hdefine binder' => ?_, fun e hraise => ?_,
    fun frame request hdecode hmethod => ⟨fun r hfind => ?_, fun hdefine => ?_⟩⟩⟩
  · rw [Router.define_raises_iff_collides, Router.define_raises_iff_collides]
    exact Router.collides_of_define hdefine hne
  · obtain ⟨r, hmem, hid, hname⟩ :=
      (router.define_raises_iff_collides second binder).mp ⟨e, hraise⟩
    refine ⟨r, hmem, hid, hname, ?_⟩
    rintro rfl
    exact hne ((router.hashed r hmem).symm.trans hid)
  · exact Router.name_ne_of_find hfind (hmethod ▸ hne.symm)
  · have hsame : router'.dispatchBody frame = router.dispatchBody frame :=
      Router.dispatchBody_congr hdecode (Router.find_of_define hdefine (hmethod ▸ hne.symm))
    refine ⟨?_, fun before binder' hbefore => ?_⟩
    · rw [Router.dispatch_eq_handled, Router.dispatch_eq_handled, hsame]
    · have hmem : ⟨symbolId first, first, binder'⟩ ∈ router.routes :=
        (Router.mem_routes_of_define hbefore _).mpr (.inl rfl)
      rw [hsame]
      exact Router.dispatchBody_of_mem hdecode hmem hmethod.symm

end Dynabridge.Rpc
