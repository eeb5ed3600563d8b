import Dynabridge.Foundations.Runs
import Dynabridge.Foundations.VectorStorage
import Dynabridge.Rpc.RouteTable

/-!
# The routes in memory

`router::routes_` is a vector of routes that own their binders and can only be moved.  `define`
makes a route, and assigns it to the one that it replaces or inserts it, which moves the routes
behind it or all of them.  `RouterStorage.Refines` connects the vector to the table of `Router`:
nothing that happens to it is undefined, and every binder is in one route or was deleted once.

What can fail is the copy of the name, the binder and the larger buffer.
-/

namespace Dynabridge.Rpc

open Export Function SortedTable VectorStorage
open scoped List

variable {B : ProbingBackend Value}

/-- A `route` with a binder.  Of one that was moved from only the null `state_` is used. -/
structure RouteCell where
  id : UInt64
  name : CString
  /-- the number of the binder that `state_` points to -/
  state : ℕ
  deriving DecidableEq

def RouteCell.key (c : RouteCell) : ℕ := c.id.toNat

/-- A `router` in memory, with the binders that were made. -/
structure RouterStorage (B : ProbingBackend Value) where
  memory : Memory RouteCell
  /-- where the vector `routes_` is -/
  buffer : Buffer
  made : ℕ
  binder : ℕ → Option (Binder B.toBackend)

/-- A call of `define`, with the address of the local route, the buffer that the vector gets when
it grows, and what fails. -/
structure DefineCall (B : ProbingBackend Value) where
  name : CString
  binder : Binder B.toBackend
  temporary : ℕ
  larger : Buffer
  /-- what the copy of the name or of the binder throws -/
  copyFails : Option Raised
  /-- what the allocation of a larger buffer throws -/
  growthFails : Option Raised

namespace RouterStorage

/-- A new router. -/
def empty : RouterStorage B := ⟨⟨fun _ => .raw, []⟩, ⟨0, 0, 0⟩, 0, fun _ => none⟩

/-- The binders that were deleted, the last one first. -/
def deleted (s : RouterStorage B) : List ℕ := s.memory.dropped.map RouteCell.state

/-- `define`.  There is no result when it does something undefined. -/
def define (s : RouterStorage B) (call : DefineCall B) :
    Option (Except Raised Unit × RouterStorage B) := do
  let id := symbolId call.name
  let cells ← s.memory.read s.buffer.base s.buffer.size
  let existing := lowerBound RouteCell.key id.toNat cells
  let binders := update s.binder s.made (some call.binder)
  match lookup RouteCell.key id.toNat cells with
  | some entry =>
    if entry.name ≠ call.name then
      some (.error (.protocolError (ascii "RPC symbol hash collision")), s)
    else
      match call.copyFails with
      | some e => some (.error e, s)
      | none => do
        let memory ← s.memory.construct call.temporary ⟨id, call.name, s.made⟩
        let memory ← memory.moveAssign (s.buffer.base + existing) call.temporary
        let memory ← memory.destruct call.temporary
        some (.ok (), ⟨memory, s.buffer, s.made + 1, binders⟩)
  | none =>
    match call.copyFails with
    | some e => some (.error e, s)
    | none => do
      let memory ← s.memory.construct call.temporary ⟨id, call.name, s.made⟩
      match if s.buffer.size < s.buffer.capacity then none else call.growthFails with
      | some e => do
        let memory ← memory.destruct call.temporary
        some (.error e, ⟨memory, s.buffer, s.made + 1, binders⟩)
      | none => do
        let (buffer, memory) ← memory.insert s.buffer call.larger existing call.temporary
        let memory ← memory.destruct call.temporary
        some (.ok (), ⟨memory, buffer, s.made + 1, binders⟩)

/-- The route with an id, as `dispatch` finds it.  There is none when its binder was deleted. -/
def find (s : RouterStorage B) (id : UInt64) : Option (Option (Route B)) := do
  let cells ← s.memory.read s.buffer.base s.buffer.size
  match lookup RouteCell.key id.toNat cells with
  | none => some none
  | some cell =>
    if cell.state ∈ s.deleted then none
    else (s.binder cell.state).map fun binder => some ⟨cell.id, cell.name, binder⟩

/-- The body of `dispatch`. -/
def dispatchBody (s : RouterStorage B) (frame : List UInt8) :
    Option (Except Raised (List UInt8) × List (Event B.toBackend)) :=
  match tryDecodeRequest frame ⟨0, []⟩ with
  | (false, _) => some (encodeError (ascii "invalid RPC request frame"), [])
  | (true, request) => do
    match ← s.find request.method with
    | none => some (encodeError (ascii "unknown RPC method"), [])
    | some candidate =>
      match candidate.invoke request.args with
      | (.error e, trace) => some (.error e, trace.log)
      | (.ok none, trace) =>
        some (encodeError (ascii "RPC argument conversion or arity mismatch"), trace.log)
      | (.ok (some result), trace) => some (encodeResponse result, trace.log)

/-- `dispatch` with exceptions. -/
def dispatch (s : RouterStorage B) (frame : List UInt8) :
    Option (Except Raised (List UInt8) × List (Event B.toBackend)) :=
  (s.dispatchBody frame).map handled

/-- The destructor of the vector. -/
def destroy (s : RouterStorage B) : Option (RouterStorage B) := do
  let memory ← s.memory.destructAll s.buffer.base s.buffer.size
  some ⟨memory, ⟨0, 0, 0⟩, s.made, s.binder⟩

end RouterStorage

/-- The local route and a larger buffer are in fresh memory. -/
structure DefineCall.Valid (call : DefineCall B) (s : RouterStorage B) : Prop where
  temporary : s.memory.slot call.temporary = .raw
  outside : ¬ s.buffer.Contains call.temporary
  apart : ¬ call.larger.Contains call.temporary
  larger : s.buffer.size = s.buffer.capacity → s.buffer.size < call.larger.capacity
  fresh : ∀ i < call.larger.capacity, s.memory.slot (call.larger.base + i) = .raw

instance (call : DefineCall B) (s : RouterStorage B) : Decidable (call.Valid s) :=
  decidable_of_iff (s.memory.slot call.temporary = .raw ∧ ¬ s.buffer.Contains call.temporary ∧
      ¬ call.larger.Contains call.temporary ∧
      (s.buffer.size = s.buffer.capacity → s.buffer.size < call.larger.capacity) ∧
      ∀ i < call.larger.capacity, s.memory.slot (call.larger.base + i) = .raw)
    ⟨fun ⟨h₁, h₂, h₃, h₄, h₅⟩ => ⟨h₁, h₂, h₃, h₄, h₅⟩,
      fun ⟨h₁, h₂, h₃, h₄, h₅⟩ => ⟨h₁, h₂, h₃, h₄, h₅⟩⟩

/-! ## The table -/

/-- A definition of a name that the table has. -/
lemma Router.define_found {router : Router B} {name : CString} {r : Route B}
    (hfind : router.find (symbolId name) = some r) (hname : r.name = name)
    (binder : Binder B.toBackend) : ∃ router', router.define name binder = .ok router' ∧
      router'.routes = router.routes.set (lowerBound Route.key (symbolId name).toNat
        router.routes) ⟨symbolId name, name, binder⟩ := by
  unfold define
  dsimp only
  split
  · rename_i entry hentry
    obtain rfl := Option.some.inj (hentry.symm.trans hfind)
    exact ⟨_, if_neg (not_not.mpr hname), rfl⟩
  · rename_i hnone
    rw [hnone] at hfind
    cases hfind

/-- A definition of a name that collides. -/
lemma Router.define_collides {router : Router B} {name : CString} {r : Route B}
    (hfind : router.find (symbolId name) = some r) (hname : r.name ≠ name)
    (binder : Binder B.toBackend) : router.define name binder =
      .error (.protocolError (ascii "RPC symbol hash collision")) := by
  unfold define
  dsimp only
  split
  · rename_i entry hentry
    obtain rfl := Option.some.inj (hentry.symm.trans hfind)
    exact if_pos hname
  · rename_i hnone
    rw [hnone] at hfind
    cases hfind

/-- A definition of a new name. -/
lemma Router.define_new {router : Router B} {name : CString}
    (hfind : router.find (symbolId name) = none) (binder : Binder B.toBackend) :
    ∃ router', router.define name binder = .ok router' ∧
      router'.routes = router.routes.insertIdx (lowerBound Route.key (symbolId name).toNat
        router.routes) ⟨symbolId name, name, binder⟩ := by
  unfold define
  dsimp only
  split
  · rename_i entry hentry
    rw [hfind] at hentry
    cases hentry
  · exact ⟨_, rfl, rfl⟩

/-! ## The refinement -/

/-- What the table has of a route. -/
def Route.shown (r : Route B) : UInt64 × CString × Option (Binder B.toBackend) :=
  (r.id, r.name, some r.binder)

/-- What the vector has of a route. -/
def RouteCell.shown (binder : ℕ → Option (Binder B.toBackend)) (c : RouteCell) :
    UInt64 × CString × Option (Binder B.toBackend) :=
  (c.id, c.name, binder c.state)

/-- The vector holds the routes of a table.  Every binder is in one route or was deleted, and
not both. -/
structure RouterStorage.Refines (s : RouterStorage B) (router : Router B)
    (cells : List RouteCell) : Prop where
  represents : s.memory.Represents s.buffer cells
  routes : cells.map (RouteCell.shown s.binder) = router.routes.map Route.shown
  accounted : (cells.map RouteCell.state ++ s.deleted).Perm (List.range s.made)

namespace RouterStorage

variable {s s' : RouterStorage B} {router : Router B} {cells : List RouteCell}
  {binder : ℕ → Option (Binder B.toBackend)} {routes : List (Route B)}

lemma refines_empty : (empty : RouterStorage B).Refines .empty [] := by
  refine ⟨⟨rfl, Nat.le_refl 0, ?_, ?_⟩, rfl, .refl _⟩
  · intro i a hi
    cases hi
  · intro i _ hi
    cases hi

/-- The table and the vector agree on positions. -/
lemma lowerBound_eq (h : cells.map (RouteCell.shown binder) = routes.map Route.shown) (k : ℕ) :
    lowerBound RouteCell.key k cells = lowerBound Route.key k routes := by
  induction cells generalizing routes with
  | nil =>
    rw [List.map_nil, eq_comm, List.map_eq_nil_iff] at h
    rw [h]
    rfl
  | cons c cells ih =>
    cases routes with
    | nil => cases h
    | cons r routes =>
      rw [List.map_cons, List.map_cons] at h
      obtain ⟨hhead, htail⟩ := List.cons.inj h
      have hkey : c.key = r.key := congrArg (fun x => x.1.toNat) hhead
      rw [lowerBound, lowerBound, ih htail, hkey]

/-- The table and the vector find the same routes. -/
lemma lookup_cases (h : cells.map (RouteCell.shown binder) = routes.map Route.shown) (k : ℕ) :
    (lookup RouteCell.key k cells = none ∧ lookup Route.key k routes = none) ∨
      ∃ c r, lookup RouteCell.key k cells = some c ∧ lookup Route.key k routes = some r ∧
        c.shown binder = r.shown := by
  have hget : (cells[lowerBound RouteCell.key k cells]?).map (RouteCell.shown binder) =
      (routes[lowerBound Route.key k routes]?).map Route.shown := by
    rw [lowerBound_eq h k, ← List.getElem?_map, ← List.getElem?_map, h]
  unfold lookup
  rcases hcell : cells[lowerBound RouteCell.key k cells]? with _ | c <;>
    rcases hroute : routes[lowerBound Route.key k routes]? with _ | r <;>
    rw [hcell, hroute] at hget
  · exact .inl ⟨rfl, rfl⟩
  · cases hget
  · cases hget
  · have hshown := Option.some.inj hget
    have hkey : c.key = r.key := congrArg (fun x => x.1.toNat) hshown
    dsimp only
    rw [hkey]
    split_ifs with hfound
    · exact .inr ⟨c, r, rfl, rfl, hshown⟩
    · exact .inl ⟨rfl, rfl⟩

namespace Refines

lemma state_lt (h : s.Refines router cells) {c : RouteCell} (hc : c ∈ cells) :
    c.state < s.made := by
  have hmem : c.state ∈ cells.map RouteCell.state ++ s.deleted :=
    List.mem_append_left _ (List.mem_map_of_mem hc)
  exact List.mem_range.mp (h.accounted.mem_iff.mp hmem)

/-- A new binder does not change what the routes show. -/
lemma shown_update (h : s.Refines router cells) (b : Binder B.toBackend) :
    cells.map (RouteCell.shown (update s.binder s.made (some b))) =
      router.routes.map Route.shown := by
  rw [← h.routes]
  refine List.map_congr_left fun c hc => ?_
  rw [RouteCell.shown, RouteCell.shown, update_of_ne (h.state_lt hc).ne]

/-- The account of a new binder. -/
lemma range_succ (h : s.Refines router cells) :
    (s.made :: (cells.map RouteCell.state ++ s.deleted)).Perm (List.range (s.made + 1)) := by
  rw [List.range_succ]
  exact (h.accounted.cons s.made).trans (List.perm_append_singleton _ _).symm

/-- Making the local route. -/
lemma exists_make (h : s.Refines router cells) {call : DefineCall B} (hvalid : call.Valid s)
    (c : RouteCell) : ∃ m, s.memory.construct call.temporary c = some m ∧
      m.dropped = s.memory.dropped ∧ m.slot call.temporary = .holds c ∧
      m.Represents s.buffer cells ∧
      ∀ j, j ≠ call.temporary → m.slot j = s.memory.slot j := by
  obtain ⟨m, hmake, hdropped, hnew, hothers⟩ := Memory.exists_construct hvalid.temporary c
  refine ⟨m, hmake, hdropped, hnew, h.represents.congr fun j hj => hothers j ?_, hothers⟩
  rintro rfl
  exact hvalid.outside hj

/-- The end of the local route after it was moved from. -/
lemma exists_destruct {m : Memory RouteCell} {temporary : ℕ} (hmoved : m.slot temporary = .moved)
    {buffer : Buffer} {cells : List RouteCell} (hrepresents : m.Represents buffer cells)
    (houtside : ¬ buffer.Contains temporary) :
    ∃ m', m.destruct temporary = some m' ∧ m'.dropped = m.dropped ∧
      m'.Represents buffer cells := by
  obtain ⟨m', hdestruct, hdropped, -, hothers⟩ :=
    Memory.exists_destruct (m := m) (j := temporary) (by simp [hmoved])
  refine ⟨m', hdestruct, ?_, hrepresents.congr fun j hj => hothers j ?_⟩
  · rw [hdropped, hmoved]
    rfl
  · rintro rfl
    exact houtside hj

/-- What is replaced joins the others that are gone. -/
lemma set_perm {l : List ℕ} {i x : ℕ} (hx : l[i]? = some x) (a : ℕ) (gone : List ℕ) :
    (l.set i a ++ x :: gone).Perm (a :: (l ++ gone)) := by
  obtain ⟨hlt, hget⟩ := List.getElem?_eq_some_iff.mp hx
  have hset := (List.set_perm_cons_eraseIdx hlt a).append_right (x :: gone)
  have hold := (List.getElem_cons_eraseIdx_perm hlt).append_right gone
  rw [hget] at hold
  calc l.set i a ++ x :: gone
    _ ~ (a :: l.eraseIdx i) ++ x :: gone := hset
    _ ~ a :: ((x :: l.eraseIdx i) ++ gone) := List.Perm.cons a List.perm_middle
    _ ~ a :: (l ++ gone) := hold.cons a

/-- The new route takes the place of the old one, whose binder is deleted. -/
lemma define_replace (h : s.Refines router cells) {call : DefineCall B} (hvalid : call.Valid s)
    {c : RouteCell} {r : Route B}
    (hcell : lookup RouteCell.key (symbolId call.name).toNat cells = some c)
    (hroute : router.find (symbolId call.name) = some r) (hshown : c.shown s.binder = r.shown)
    (hname : r.name = call.name) (hcopy : call.copyFails = none) :
    ∃ s' router' cells', router.define call.name call.binder = .ok router' ∧
      s.define call = some (.ok (), s') ∧ s'.Refines router' cells' := by
  have hlower := lowerBound_eq h.routes (symbolId call.name).toNat
  have hposition := (getElem?_of_lookup hcell).1
  have hlt := (List.getElem?_eq_some_iff.mp hposition).1
  obtain ⟨m₁, hmake, hdropped₁, hnew, hrepresents₁, -⟩ :=
    h.exists_make hvalid ⟨symbolId call.name, call.name, s.made⟩
  obtain ⟨m₂, hassign, hrepresents₂, hdropped₂, hmoved, -⟩ :=
    hrepresents₁.replace hposition hnew hvalid.outside
  obtain ⟨m₃, hdestruct, hdropped₃, hrepresents₃⟩ :=
    exists_destruct hmoved hrepresents₂ hvalid.outside
  have hcname : c.name = call.name := (congrArg (fun x => x.2.1) hshown).trans hname
  obtain ⟨router', hdefine, hroutes⟩ := Router.define_found hroute hname call.binder
  refine ⟨⟨m₃, s.buffer, s.made + 1, update s.binder s.made (some call.binder)⟩, router',
    cells.set (lowerBound RouteCell.key (symbolId call.name).toNat cells)
      ⟨symbolId call.name, call.name, s.made⟩, hdefine, ?_, hrepresents₃, ?_, ?_⟩
  · simp only [define, h.represents.read, hcell, hcname, hcopy, hmake, hassign, hdestruct,
      Option.bind_eq_bind, Option.bind_some, ne_eq, not_true_eq_false, if_false]
  · rw [List.map_set, h.shown_update, hroutes, List.map_set, hlower, RouteCell.shown]
    dsimp only
    rw [update_self]
    rfl
  · refine List.Perm.trans ?_ h.range_succ
    rw [deleted, hdropped₃, hdropped₂, hdropped₁, List.map_set, List.map_cons]
    refine set_perm ?_ _ _
    rw [List.getElem?_map, hposition]
    rfl

/-- A new route is inserted. -/
lemma define_insert (h : s.Refines router cells) {call : DefineCall B} (hvalid : call.Valid s)
    (hcell : lookup RouteCell.key (symbolId call.name).toNat cells = none)
    (hroute : router.find (symbolId call.name) = none) (hcopy : call.copyFails = none)
    (hgrowth : (if s.buffer.size < s.buffer.capacity then none else call.growthFails) = none) :
    ∃ s' router' cells', router.define call.name call.binder = .ok router' ∧
      s.define call = some (.ok (), s') ∧ s'.Refines router' cells' := by
  have hlower := lowerBound_eq h.routes (symbolId call.name).toNat
  have hle : lowerBound RouteCell.key (symbolId call.name).toNat cells ≤ cells.length :=
    lowerBound_le_length _ _
  obtain ⟨m₁, hmake, hdropped₁, hnew, hrepresents₁, hothers₁⟩ :=
    h.exists_make hvalid ⟨symbolId call.name, call.name, s.made⟩
  have hfresh : ∀ i < call.larger.capacity, m₁.slot (call.larger.base + i) = .raw := by
    intro i hi
    refine (hothers₁ _ fun heq => hvalid.apart ?_).trans (hvalid.fresh i hi)
    exact heq ▸ ⟨Nat.le_add_right _ _, Nat.add_lt_add_left hi _⟩
  obtain ⟨buffer, m₂, hinsert, hinserted, hbuffer⟩ := hrepresents₁.insert
    (hrepresents₁.size ▸ hle) hnew hvalid.outside fun hfull => ⟨hvalid.larger hfull, hfresh⟩
  have houtside : ¬ buffer.Contains call.temporary := by
    rcases hbuffer with rfl | ⟨-, rfl⟩
    · exact hvalid.outside
    · exact hvalid.apart
  obtain ⟨m₃, hdestruct, hdropped₃, hrepresents₃⟩ :=
    exists_destruct hinserted.moved hinserted.represents houtside
  obtain ⟨router', hdefine, hroutes⟩ := Router.define_new hroute call.binder
  refine ⟨⟨m₃, buffer, s.made + 1, update s.binder s.made (some call.binder)⟩, router',
    cells.insertIdx (lowerBound RouteCell.key (symbolId call.name).toNat cells)
      ⟨symbolId call.name, call.name, s.made⟩, hdefine, ?_, hrepresents₃, ?_, ?_⟩
  · simp only [define, h.represents.read, hcell, hcopy, hmake, hgrowth, hinsert, hdestruct,
      Option.bind_eq_bind, Option.bind_some]
  · rw [List.map_insertIdx, h.shown_update, hroutes, List.map_insertIdx, hlower, RouteCell.shown]
    dsimp only
    rw [update_self]
    rfl
  · refine List.Perm.trans ?_ h.range_succ
    rw [deleted, hdropped₃, hinserted.dropped, hdropped₁, List.map_insertIdx]
    exact (List.perm_insertIdx _ _ (by rwa [List.length_map])).append_right _

/-- Without memory for a larger buffer the new route ends, and its binder is deleted. -/
lemma define_fails (h : s.Refines router cells) {call : DefineCall B} (hvalid : call.Valid s)
    (hcell : lookup RouteCell.key (symbolId call.name).toNat cells = none)
    (hcopy : call.copyFails = none) {e : Raised}
    (hgrowth : (if s.buffer.size < s.buffer.capacity then none else call.growthFails) = some e) :
    ∃ s', s.define call = some (.error e, s') ∧ s'.Refines router cells := by
  obtain ⟨m₁, hmake, hdropped₁, hnew, hrepresents₁, -⟩ :=
    h.exists_make hvalid ⟨symbolId call.name, call.name, s.made⟩
  obtain ⟨m₂, hdestruct, hdropped₂, -, hothers₂⟩ :=
    Memory.exists_destruct (m := m₁) (j := call.temporary) (by simp [hnew])
  refine ⟨⟨m₂, s.buffer, s.made + 1, update s.binder s.made (some call.binder)⟩, ?_,
    hrepresents₁.congr fun j hj => hothers₂ j ?_, h.shown_update call.binder, ?_⟩
  · simp only [define, h.represents.read, hcell, hcopy, hmake, hgrowth, hdestruct,
      Option.bind_eq_bind, Option.bind_some]
  · rintro rfl
    exact hvalid.outside hj
  · refine List.Perm.trans ?_ h.range_succ
    rw [deleted, hdropped₂, hnew, hdropped₁]
    exact List.perm_middle

/-- What a call of `define` does, on the vector and on the table. -/
theorem define_cases (h : s.Refines router cells) {call : DefineCall B} (hvalid : call.Valid s) :
    ∃ result s', s.define call = some (result, s') ∧
      ((∃ router' cells', router.define call.name call.binder = .ok router' ∧ result = .ok () ∧
          s'.Refines router' cells') ∨
        (∃ e, router.define call.name call.binder = .error e ∧ result = .error e ∧ s' = s) ∨
        ∃ e, (call.copyFails = some e ∨ call.growthFails = some e) ∧ result = .error e ∧
          s'.Refines router cells) := by
  rcases lookup_cases h.routes (symbolId call.name).toNat with
    ⟨hcell, hroute⟩ | ⟨c, r, hcell, hroute, hshown⟩
  · rcases hcopy : call.copyFails with _ | e
    · rcases hgrowth : if s.buffer.size < s.buffer.capacity then none else call.growthFails with
        _ | e
      · obtain ⟨s', router', cells', hdefine, hs', hrefines⟩ :=
          h.define_insert hvalid hcell hroute hcopy hgrowth
        exact ⟨_, s', hs', .inl ⟨router', cells', hdefine, rfl, hrefines⟩⟩
      · obtain ⟨s', hs', hrefines⟩ := h.define_fails hvalid hcell hcopy hgrowth
        refine ⟨_, s', hs', .inr (.inr ⟨e, .inr ?_, rfl, hrefines⟩)⟩
        split_ifs at hgrowth
        exact hgrowth
    · refine ⟨.error e, s, ?_, .inr (.inr ⟨e, .inl rfl, rfl, h⟩)⟩
      simp only [define, h.represents.read, hcell, hcopy, Option.bind_eq_bind, Option.bind_some]
  · have hcname : c.name = r.name := congrArg (fun x => x.2.1) hshown
    by_cases hname : r.name = call.name
    · rcases hcopy : call.copyFails with _ | e
      · obtain ⟨s', router', cells', hdefine, hs', hrefines⟩ :=
          h.define_replace hvalid hcell hroute hshown hname hcopy
        exact ⟨_, s', hs', .inl ⟨router', cells', hdefine, rfl, hrefines⟩⟩
      · refine ⟨.error e, s, ?_, .inr (.inr ⟨e, .inl rfl, rfl, h⟩)⟩
        simp only [define, h.represents.read, hcell, hcname.trans hname, hcopy,
          Option.bind_eq_bind, Option.bind_some, ne_eq, not_true_eq_false, if_false]
    · refine ⟨_, s, ?_, .inr (.inl ⟨_, Router.define_collides hroute hname call.binder, rfl, rfl⟩)⟩
      simp only [define, h.represents.read, hcell, Option.bind_eq_bind, Option.bind_some, hcname,
        ne_eq, hname, not_false_eq_true, if_true]

/-- A route of the vector has its binder. -/
lemma state_not_mem_deleted (h : s.Refines router cells) {c : RouteCell} (hc : c ∈ cells) :
    c.state ∉ s.deleted := by
  have hnodup := h.accounted.nodup_iff.mpr List.nodup_range
  have hdisjoint := (List.nodup_append'.mp hnodup).2.2
  exact fun hdeleted => hdisjoint (List.mem_map_of_mem hc) hdeleted

lemma find_eq (h : s.Refines router cells) (id : UInt64) : s.find id = some (router.find id) := by
  rw [find, Router.find]
  simp only [h.represents.read, Option.bind_eq_bind, Option.bind_some]
  rcases lookup_cases h.routes id.toNat with ⟨hcell, hroute⟩ | ⟨c, r, hcell, hroute, hshown⟩
  · rw [hcell, hroute]
  · have hmem := List.mem_of_getElem? (getElem?_of_lookup hcell).1
    obtain ⟨hid, hrest⟩ := Prod.mk.inj hshown
    obtain ⟨hname, hbinder⟩ := Prod.mk.inj hrest
    rw [hcell, hroute]
    dsimp only
    rw [if_neg (h.state_not_mem_deleted hmem), hbinder, hid, hname]
    rfl

/-- A dispatch reaches no binder that was deleted, and answers as the table does. -/
lemma dispatchBody_eq (h : s.Refines router cells) (frame : List UInt8) :
    s.dispatchBody frame = some (router.dispatchBody frame) := by
  unfold dispatchBody Router.dispatchBody
  rcases tryDecodeRequest frame ⟨0, []⟩ with ⟨_ | _, request⟩
  · rfl
  · dsimp only
    rw [h.find_eq, Option.bind_eq_bind, Option.bind_some]
    rcases router.find request.method with _ | candidate
    · rfl
    · dsimp only
      rcases candidate.invoke request.args with ⟨e | _ | result, trace⟩ <;> rfl

lemma dispatch_eq (h : s.Refines router cells) (frame : List UInt8) :
    s.dispatch frame = some (router.dispatch frame) := by
  rw [dispatch, h.dispatchBody_eq, Router.dispatch_eq_handled]
  rfl

/-- A binder is deleted once. -/
lemma nodup_deleted (h : s.Refines router cells) : s.deleted.Nodup := by
  have hnodup := h.accounted.nodup_iff.mpr List.nodup_range
  exact (List.nodup_append'.mp hnodup).2.1

/-- The destructor deletes the binders that are left. -/
lemma exists_destroy (h : s.Refines router cells) :
    ∃ s', s.destroy = some s' ∧ s'.deleted.Perm (List.range s.made) := by
  obtain ⟨m, hdestroy, hdropped, -⟩ := Memory.exists_destructAll h.represents.holds
  refine ⟨⟨m, ⟨0, 0, 0⟩, s.made, s.binder⟩, ?_, ?_⟩
  · rw [destroy, h.represents.size, hdestroy]
    rfl
  · rw [deleted, hdropped, List.map_append, List.map_reverse]
    exact ((List.reverse_perm _).append_right _).trans h.accounted

end Refines

end RouterStorage

/-! ## Runs -/

/-- A router that was defined on, with the definitions that did not fail. -/
structure DefinedRouter (B : ProbingBackend Value) where
  storage : RouterStorage B
  calls : List (CString × Binder B.toBackend)

namespace DefinedRouter

/-- A new router. -/
def start : DefinedRouter B := ⟨.empty, []⟩

/-- The next call of `define`. -/
def next (p : DefinedRouter B) (call : DefineCall B) : Option (DefinedRouter B) := do
  let (result, storage) ← p.storage.define call
  match result with
  | .ok () => some ⟨storage, p.calls ++ [(call.name, call.binder)]⟩
  | .error _ => some ⟨storage, p.calls⟩

/-- The router after some calls of `define`. -/
abbrev Reachable (p : DefinedRouter B) : Prop :=
  Runs.Reaches (fun p call => DefineCall.Valid call p.storage) next start p

/-- The vector refines the table that the definitions make. -/
def Refined (p : DefinedRouter B) : Prop :=
  ∃ cells, p.storage.Refines (defineAll p.calls) cells

variable {p : DefinedRouter B}

lemma Reachable.refined (h : p.Reachable) : p.Refined := by
  refine Runs.Reaches.invariant ⟨[], RouterStorage.refines_empty⟩ ?_ h
  rintro p call p' ⟨cells, hp⟩ hvalid hnext
  obtain ⟨result, s', hdefine, hcases⟩ := hp.define_cases hvalid
  rw [next, hdefine, Option.bind_eq_bind, Option.bind_some] at hnext
  rcases hcases with ⟨router', cells', htable, rfl, hrefines⟩ | ⟨e, -, rfl, rfl⟩ |
    ⟨e, -, rfl, hrefines⟩
  · obtain rfl := Option.some.inj hnext
    exact ⟨cells', (defineAll_concat_of_ok htable).1 ▸ hrefines⟩
  · obtain rfl := Option.some.inj hnext
    exact ⟨cells, hp⟩
  · obtain rfl := Option.some.inj hnext
    exact ⟨cells, hrefines⟩

/-- After any calls of `define`, a dispatch on the routes in memory is defined and answers as the
table of the definitions that did not fail.  A further call is defined: it defines what it defines
on the table, raises its collision, or fails and leaves every dispatch as it was.  No binder is
deleted twice, and after the destructor each was deleted. -/
theorem refines_table (h : p.Reachable) :
    (∀ frame, p.storage.dispatchBody frame = some ((defineAll p.calls).dispatchBody frame) ∧
      p.storage.dispatch frame = some ((defineAll p.calls).dispatch frame)) ∧
    (∀ call : DefineCall B, call.Valid p.storage →
      ∃ result s', p.storage.define call = some (result, s') ∧
        ((∃ router, (defineAll p.calls).define call.name call.binder = .ok router ∧
            result = .ok () ∧ ∀ frame, s'.dispatchBody frame = some (router.dispatchBody frame)) ∨
          (∃ e, (defineAll p.calls).define call.name call.binder = .error e ∧
            result = .error e ∧ s' = p.storage) ∨
          ∃ e, (call.copyFails = some e ∨ call.growthFails = some e) ∧ result = .error e ∧
            ∀ frame, s'.dispatchBody frame = p.storage.dispatchBody frame)) ∧
    p.storage.deleted.Nodup ∧
    ∃ s', p.storage.destroy = some s' ∧ s'.deleted.Perm (List.range p.storage.made) := by
  obtain ⟨cells, hp⟩ := h.refined
  refine ⟨fun frame => ⟨hp.dispatchBody_eq frame, hp.dispatch_eq frame⟩, fun call hvalid => ?_,
    hp.nodup_deleted, hp.exists_destroy⟩
  obtain ⟨result, s', hdefine, hcases⟩ := hp.define_cases hvalid
  refine ⟨result, s', hdefine, ?_⟩
  rcases hcases with ⟨router, cells', htable, rfl, hrefines⟩ | hcollides |
    ⟨e, hfails, rfl, hrefines⟩
  · exact .inl ⟨router, htable, rfl, hrefines.dispatchBody_eq⟩
  · exact .inr (.inl hcollides)
  · refine .inr (.inr ⟨e, hfails, rfl, fun frame => ?_⟩)
    rw [hrefines.dispatchBody_eq, hp.dispatchBody_eq]

/-- A function without arguments. -/
def definesF (larger : Buffer) : DefineCall rpcBackend :=
  ⟨⟨ascii "f", by decide⟩, .single ⟨[], none⟩ fun sig _ => .ok (valueInitialised sig.result), 0,
    larger, none, none⟩

/-- A function is defined twice: the first binder is deleted when the second replaces it. -/
theorem refines_table_twice :
    ∃ p : DefinedRouter rpcBackend, p.Reachable ∧ p.storage.deleted = [0] ∧
      ∃ s', p.storage.destroy = some s' ∧ s'.deleted.Perm (List.range p.storage.made) := by
  have hany : (Runs.run (fun p call => DefineCall.Valid call p.storage) next start
      [definesF ⟨1, 1, 0⟩, definesF ⟨2, 2, 0⟩]).any
        (fun p => decide (p.storage.deleted = [0])) = true := by decide
  obtain ⟨p, hrun, hdeleted⟩ := (Option.any_eq_true _ _).mp hany
  have h : p.Reachable := Runs.Reaches.of_run .start hrun
  exact ⟨p, h, of_decide_eq_true hdeleted, (refines_table h).2.2.2⟩

end DefinedRouter

end Dynabridge.Rpc
