import Dynabridge.Foundations.BlockMemory
import Dynabridge.Python.ErrorBoundary

/-!
# The arguments of an exported type's vectorcall

`export_type_vectorcall` has to put the new instance in front of the caller's arguments.  It
borrows the slot before them when the caller allows that, copies them to an array of eight on
its stack when they fit there, and to a buffer of `PyMem_Malloc` otherwise.  The paths are
followed on a memory of blocks, in which an access outside a live block fails.

`nargsf` is the pair of `PyVectorcall_NARGS` and the flag `PY_VECTORCALL_ARGUMENTS_OFFSET`.  An
array that exists in memory is so much shorter than `2 ^ 63` that neither `nargs + 1` nor its
size in bytes wraps.
-/

namespace Dynabridge.Python

open Ledger BlockMemory

/-- A `PyObject*`; null, or whatever an array that has not been written holds, is `none`. -/
abbrev Slot := Option Object

/-- The constructor holder behind `invoke_vector`: what it returns for an argument array, and
what it makes of the memory.  It takes the pointers out of the array and holds none into it, so
that the blocks that exist stay as they are. -/
structure VectorHolder where
  invoke : List Slot → ℕ → World → Option Object × World
  memory : List Slot → ℕ → World → Memory Slot → Memory Slot
  frame : ∀ argv keywords w m, m <+: memory argv keywords w m

/-- The locals `call_args`, `saved_offset` and `owns_args`. -/
structure CallArgs where
  callArgs : Pointer
  savedOffset : Slot
  ownsArgs : Bool
  deriving DecidableEq

/-- `sizeof(local_args) / sizeof(local_args[0])` -/
def localArgsSize : ℕ := 8

/-- `args - 1`, which the caller has to provide with `PY_VECTORCALL_ARGUMENTS_OFFSET`. -/
def beforeArgs (args : Pointer) : Option Pointer :=
  if args.offset = 0 then none else some ⟨args.block, args.offset - 1⟩

/-- `call_args[0] = self;` and the loop that copies the arguments behind it. -/
def fillArgs (callArgs : Pointer) (self : Object) (args : Pointer) (nargs : ℕ)
    (m : Memory Slot) : Option (Memory Slot) := do
  let m ← store m callArgs (some self)
  copy m args (callArgs.add 1) nargs

/-- The choice of the argument array; without one, `PyMem_Malloc` has failed. -/
def prepareArgs (malloc : Bool) (self : Object) (args : Pointer) (nargs : ℕ)
    (argumentsOffset : Bool) (localArgs : Pointer) (m : Memory Slot) :
    Option (Option CallArgs × Memory Slot) :=
  if argumentsOffset then do
    let callArgs ← beforeArgs args
    let savedOffset ← load m callArgs
    let m ← store m callArgs (some self)
    return (some ⟨callArgs, savedOffset, false⟩, m)
  else if nargs + 1 ≤ localArgsSize then do
    let m ← fillArgs localArgs self args nargs m
    return (some ⟨localArgs, none, false⟩, m)
  else if malloc then do
    let (callArgs, m) := alloc m (List.replicate (nargs + 1) none)
    let m ← fillArgs callArgs self args nargs m
    return (some ⟨callArgs, none, true⟩, m)
  else return (none, m)

/-- What happens to the argument array after the call. -/
def restoreArgs (argumentsOffset : Bool) (locals : CallArgs) (m : Memory Slot) :
    Option (Memory Slot) :=
  if argumentsOffset then store m locals.callArgs locals.savedOffset
  else if locals.ownsArgs then free m locals.callArgs
  else some m

/-- The part of `export_type_vectorcall` after the allocation of `self`: its result and the
interpreter afterwards, and the memory.  `local_args` lives until it returns. -/
def vectorcallWithSelf (malloc : Bool) (self : Object) (holder : VectorHolder) (args : Pointer)
    (nargs : ℕ) (argumentsOffset : Bool) (keywords : ℕ) (m : Memory Slot) (w : World) :
    Option ((Option Object × World) × Memory Slot) := do
  let (localArgs, m) := alloc m (List.replicate localArgsSize none)
  let (locals, m) ← prepareArgs malloc self args nargs argumentsOffset localArgs m
  match locals with
  | none =>
    let m ← free m localArgs
    return (refuse noMemory (w.decref [self]), m)
  | some locals =>
    let argv ← loadRange m locals.callArgs (nargs + 1)
    let (result, w') := holder.invoke argv keywords w
    let m ← restoreArgs argumentsOffset locals (holder.memory argv keywords w m)
    let m ← free m localArgs
    match result with
    | none => return ((none, w'.decref [self]), m)
    | some result => return ((some self, w'.decref [result]), m)

/-- `export_type_vectorcall` of a class with the given holder, if it has a bridge constructor;
`self` is the new instance, if it can be allocated. -/
def exportTypeVectorcallArgs (self : Option Object) (malloc : Bool) (holder : Option VectorHolder)
    (args : Pointer) (nargs : ℕ) (argumentsOffset : Bool) (keywords : ℕ) (m : Memory Slot)
    (w : World) : Option ((Option Object × World) × Memory Slot) :=
  match holder with
  | none =>
    some (refuse (errorOfText .typeError
      "dynabridge Python export class has no bridge constructor") w, m)
  | some holder =>
    match self with
    | none => some (refuse noMemory w, m)
    | some self =>
      vectorcallWithSelf malloc self holder args nargs argumentsOffset keywords m
        (w.incref [self])

/-! ## The argument arrays -/

section Arrays

variable {m : Memory Slot} {args : Pointer} {argv : List Slot} {self : Object}

/-- Filling a new array: `self` stands in front of the caller's arguments. -/
lemma fillArgs_eq {b extra : ℕ} (hargs : loadRange m args argv.length = some argv)
    (hne : args.block ≠ b)
    (hb : values m b = some (List.replicate (argv.length + 1 + extra) none)) :
    fillArgs ⟨b, 0⟩ self args argv.length m =
      some (m.set b (some (some self :: argv ++ List.replicate extra none))) := by
  have hlt := lt_length_of_values hb
  have hsplit : List.replicate (argv.length + 1 + extra) (none : Slot) =
      none :: (List.replicate argv.length none ++ List.replicate extra none) := by
    rw [← List.replicate_add, ← List.replicate_succ]
    congr 1
    omega
  rw [hsplit] at hb
  have hstore : store m ⟨b, 0⟩ (some self) = some (m.set b
      (some (some self :: (List.replicate argv.length none ++ List.replicate extra none)))) :=
    store_of_values (p := ⟨b, 0⟩) hb (Nat.succ_pos _) (some self)
  have hread : loadRange (m.set b (some (some self :: (List.replicate argv.length none ++
      List.replicate extra none)))) args argv.length = some argv := by
    rw [loadRange_set_ne hne, hargs]
  have htarget : values (m.set b (some (some self :: (List.replicate argv.length none ++
      List.replicate extra none)))) ((⟨b, 0⟩ : Pointer).add 1).block =
        some ([some self] ++ List.replicate argv.length none ++ List.replicate extra none) :=
    values_set hlt _
  have hcopy := copy_eq hread hne htarget rfl List.length_replicate
  rw [fillArgs, hstore, Option.bind_eq_bind, Option.bind_some, hcopy, Pointer.block_add,
    List.set_set]
  rfl

/-- What the holder sees of a filled array. -/
lemma loadRange_filled {b : ℕ} (hb : b < m.length) (rest : List Slot) :
    loadRange (m.set b (some (some self :: argv ++ rest))) ⟨b, 0⟩ (argv.length + 1) =
      some (some self :: argv) := by
  refine loadRange_eq_some_iff.mpr ⟨_, values_set hb _, ?_, ?_⟩
  · simp
  · simp

/-- The slot before the arguments exists when the caller lends it. -/
lemma exists_beforeArgs (hargs : loadRange m args argv.length = some argv)
    (hbefore : 0 < args.offset) :
    ∃ before saved after, values m args.block = some (before ++ saved :: (argv ++ after)) ∧
      args.offset = before.length + 1 := by
  obtain ⟨vs, hvs, hle, htake⟩ := loadRange_eq_some_iff.mp hargs
  have hlt : args.offset - 1 < vs.length := by omega
  have hnext : args.offset - 1 + 1 = args.offset := by omega
  refine ⟨vs.take (args.offset - 1), vs[args.offset - 1], (vs.drop args.offset).drop argv.length,
    ?_, ?_⟩
  · have hargv : argv ++ (vs.drop args.offset).drop argv.length = vs.drop args.offset := by
      have hsplit := List.take_append_drop argv.length (vs.drop args.offset)
      rwa [← htake] at hsplit
    rw [hvs, hargv, Option.some.injEq]
    have hcons := List.drop_eq_getElem_cons hlt
    rw [hnext] at hcons
    rw [← hcons, List.take_append_drop]
  · rw [List.length_take]
    omega

/-- The caller's slot is borrowed: the holder sees `self` in it, and afterwards it is as it
was. -/
lemma prepareArgs_borrowed (malloc : Bool) (localArgs : Pointer)
    (hargs : loadRange m args argv.length = some argv) (hbefore : 0 < args.offset) :
    ∃ locals m₁, prepareArgs malloc self args argv.length true localArgs m =
        some (some locals, m₁) ∧ m₁.length = m.length ∧
      loadRange m₁ locals.callArgs (argv.length + 1) = some (some self :: argv) ∧
      ∀ t, restoreArgs true locals (m₁ ++ t) = some (m ++ t) := by
  obtain ⟨before, saved, after, hvs, hoffset⟩ := exists_beforeArgs hargs hbefore
  have hlt := lt_length_of_values hvs
  have hpointer : beforeArgs args = some ⟨args.block, before.length⟩ := by
    rw [beforeArgs, if_neg (Nat.pos_iff_ne_zero.mp hbefore), hoffset, Nat.add_sub_cancel]
  have hload : load m ⟨args.block, before.length⟩ = some saved := by
    rw [load_of_values (p := ⟨args.block, before.length⟩) hvs]
    simp
  have hstore : ∀ {m' : Memory Slot} {old : Slot} (new : Slot),
      values m' args.block = some (before ++ old :: (argv ++ after)) →
      store m' ⟨args.block, before.length⟩ new =
        some (m'.set args.block (some (before ++ new :: (argv ++ after)))) := by
    intro m' old new hm'
    rw [store_of_values (p := ⟨args.block, before.length⟩) hm' (by simp)]
    simp
  refine ⟨⟨⟨args.block, before.length⟩, saved, false⟩,
    m.set args.block (some (before ++ some self :: (argv ++ after))), ?_, List.length_set, ?_,
    fun t => ?_⟩
  · simp only [prepareArgs, if_true, hpointer, hload, hstore (some self) hvs,
      Option.bind_eq_bind, Option.bind_some]
    rfl
  · refine loadRange_eq_some_iff.mpr ⟨_, values_set hlt _, ?_, ?_⟩
    · simp
    · simp
  · have hvalues : values (m.set args.block (some (before ++ some self :: (argv ++ after))) ++ t)
        args.block = some (before ++ some self :: (argv ++ after)) := by
      rw [values_append (by rwa [List.length_set]), values_set hlt]
    rw [restoreArgs, if_pos rfl, hstore saved hvalues, List.set_append_left _ _
      (by rwa [List.length_set]), List.set_set, set_values_self hvs]

/-- The arguments are copied behind `self` into an array in a block of its own. -/
lemma fillArgs_append {extra : ℕ} (hargs : loadRange m args argv.length = some argv) :
    fillArgs ⟨m.length, 0⟩ self args argv.length
        (m ++ [some (List.replicate (argv.length + 1 + extra) none)]) =
      some (m ++ [some (some self :: argv ++ List.replicate extra none)]) ∧
    loadRange (m ++ [some (some self :: argv ++ List.replicate extra none)]) ⟨m.length, 0⟩
      (argv.length + 1) = some (some self :: argv) := by
  obtain ⟨vs, hvs, -⟩ := loadRange_eq_some_iff.mp hargs
  have hne : args.block ≠ m.length := (lt_length_of_values hvs).ne
  have hset : ∀ content content' : Option (List Slot),
      (m ++ [content]).set m.length content' = m ++ [content'] := by
    intro content content'
    rw [List.set_append_right _ _ le_rfl, Nat.sub_self, List.set_cons_zero]
  have hfill := @fillArgs_eq _ _ _ self _ _ (loadRange_append hargs _) hne
    (values_append_length m [] (some (List.replicate (argv.length + 1 + extra) none)))
  rw [hset] at hfill
  have hseen : loadRange ((m ++ [none]).set m.length
      (some (some self :: argv ++ List.replicate extra none))) ⟨m.length, 0⟩ (argv.length + 1) =
        some (some self :: argv) :=
    loadRange_filled (by simp) _
  rw [hset] at hseen
  exact ⟨hfill, hseen⟩

/-- What is left of a heap buffer: nothing without one, and the hole of its block otherwise. -/
def freedBuffer (malloc argumentsOffset : Bool) (nargs : ℕ) : Memory Slot :=
  if argumentsOffset || decide (nargs + 1 ≤ localArgsSize) || !malloc then [] else [none]

/-- There is an argument array: every path but the last has one, and the last needs
`PyMem_Malloc`. -/
def hasRoom (malloc argumentsOffset : Bool) (nargs : ℕ) : Bool :=
  argumentsOffset || decide (nargs + 1 ≤ localArgsSize) || malloc

/-- Whatever the path, the holder sees `self` and the arguments behind it, and afterwards the
memory of the caller is as it was and the buffer is freed. -/
lemma prepareArgs_spec {malloc argumentsOffset : Bool}
    (hargs : loadRange m args argv.length = some argv)
    (hbefore : argumentsOffset = true → 0 < args.offset)
    (hroom : hasRoom malloc argumentsOffset argv.length = true) :
    ∃ locals m₁, prepareArgs malloc self args argv.length argumentsOffset ⟨m.length, 0⟩
          (m ++ [some (List.replicate localArgsSize none)]) = some (some locals, m₁) ∧
      m₁.length = m.length + 1 + (freedBuffer malloc argumentsOffset argv.length).length ∧
      loadRange m₁ locals.callArgs (argv.length + 1) = some (some self :: argv) ∧
      ∀ t, ∃ localArgs, restoreArgs argumentsOffset locals (m₁ ++ t) =
        some (m ++ some localArgs :: (freedBuffer malloc argumentsOffset argv.length ++ t)) := by
  have hargs' := loadRange_append hargs [some (List.replicate localArgsSize none)]
  unfold hasRoom at hroom
  unfold freedBuffer
  cases argumentsOffset with
  | true =>
    obtain ⟨locals, m₁, hprepare, hlength, hseen, hrestore⟩ :=
      prepareArgs_borrowed malloc ⟨m.length, 0⟩ hargs' (hbefore rfl)
    refine ⟨locals, m₁, hprepare, ?_, hseen, fun t => ⟨List.replicate localArgsSize none, ?_⟩⟩
    · simpa using hlength
    · rw [hrestore t]
      simp
  | false =>
    by_cases hlocal : argv.length + 1 ≤ localArgsSize
    · obtain ⟨extra, hextra⟩ := Nat.exists_eq_add_of_le hlocal
      obtain ⟨hfill, hseen⟩ := @fillArgs_append _ _ _ self extra hargs
      refine ⟨⟨⟨m.length, 0⟩, none, false⟩, _, ?_, ?_, hseen,
        fun t => ⟨some self :: argv ++ List.replicate extra none, ?_⟩⟩
      · rw [hextra]
        simp only [prepareArgs, hlocal, if_true, Bool.false_eq_true, if_false, hfill,
          Option.bind_eq_bind, Option.bind_some]
        rfl
      · simp [hlocal]
      · simp [restoreArgs, hlocal]
    · have hmalloc : malloc = true := by simpa [hlocal] using hroom
      subst hmalloc
      obtain ⟨hfill, hseen⟩ := @fillArgs_append _ _ _ self 0 hargs'
      refine ⟨⟨⟨(m ++ [some (List.replicate localArgsSize none)]).length, 0⟩, none, true⟩, _,
        ?_, ?_, hseen, fun t => ⟨List.replicate localArgsSize none, ?_⟩⟩
      · simp only [prepareArgs, hlocal, if_true, Bool.false_eq_true, if_false, alloc]
        rw [Nat.add_zero] at hfill
        simp only [hfill, Option.bind_eq_bind, Option.bind_some]
        rfl
      · simp [hlocal]
      · have hvalues : values (m ++ [some (List.replicate localArgsSize none)] ++
            [some (some self :: argv ++ List.replicate 0 none)] ++ t)
            (m ++ [some (List.replicate localArgsSize none)]).length =
              some (some self :: argv ++ List.replicate 0 none) := by
          rw [List.append_assoc _ _ t]
          exact values_append_length _ _ _
        rw [restoreArgs, if_neg Bool.false_ne_true, if_pos rfl, free_of_values hvalues]
        simp [hlocal]

end Arrays

/-! ## The call -/

/-- What the construction of an instance amounts to when the arguments are simply put behind
it. -/
def constructed (self : Object) (holder : VectorHolder) (argv : List Slot) (keywords : ℕ)
    (w : World) : Option Object × World :=
  let (result, w') := holder.invoke (some self :: argv) keywords (w.incref [self])
  match result with
  | none => (none, w'.decref [self])
  | some result => (some self, w'.decref [result])

/-- A construction gives up every reference it takes but the one it returns, when the holder
does. -/
lemma own_constructed {self : Object} {holder : VectorHolder} {argv : List Slot} {keywords : ℕ}
    {w : World} {effect : Object → ℤ}
    (h : (holder.invoke (some self :: argv) keywords (w.incref [self])).2.own =
      (w.incref [self]).own + effect +
        tally (holder.invoke (some self :: argv) keywords (w.incref [self])).1.toList) :
    (constructed self holder argv keywords w).2.own =
      w.own + effect + tally (constructed self holder argv keywords w).1.toList := by
  unfold constructed
  rcases hrun : holder.invoke (some self :: argv) keywords (w.incref [self]) with ⟨result, w'⟩
  rw [hrun, World.own_incref] at h
  cases result with
  | none =>
    simp only [World.own_decref, h, Option.toList_none, tally_nil]
    abel
  | some result =>
    simp only [World.own_decref, h, Option.toList_some]
    abel

/-- The returned pointer says how the constructor ended. -/
lemma constructed_fst (self : Object) (holder : VectorHolder) (argv : List Slot) (keywords : ℕ)
    (w : World) : (constructed self holder argv keywords w).1 =
      (holder.invoke (some self :: argv) keywords (w.incref [self])).1.map fun _ => self := by
  unfold constructed
  generalize holder.invoke (some self :: argv) keywords (w.incref [self]) = run
  obtain ⟨result, w'⟩ := run
  cases result with
  | none => rfl
  | some result => rfl

/-- On every path with an argument array, the outcome is that of the plain construction.  The
memory of the caller is as it was, and behind it stand the hole of `local_args`, the hole of the
heap buffer if there was one, and the blocks of the holder. -/
lemma exportTypeVectorcallArgs_of_room {m : Memory Slot} {args : Pointer} {argv : List Slot}
    {argumentsOffset malloc : Bool} (hargs : loadRange m args argv.length = some argv)
    (hbefore : argumentsOffset = true → 0 < args.offset) (self : Object) (holder : VectorHolder)
    (keywords : ℕ) (w : World) (hroom : hasRoom malloc argumentsOffset argv.length = true) :
    ∃ m₁ t,
      m₁.length = m.length + 1 + (freedBuffer malloc argumentsOffset argv.length).length ∧
      holder.memory (some self :: argv) keywords (w.incref [self]) m₁ = m₁ ++ t ∧
      exportTypeVectorcallArgs (some self) malloc (some holder) args argv.length argumentsOffset
          keywords m w =
        some (constructed self holder argv keywords w,
          m ++ none :: (freedBuffer malloc argumentsOffset argv.length ++ t)) := by
  obtain ⟨locals, m₁, hprepare, hlength, hseen, hrestore⟩ :=
    @prepareArgs_spec _ _ _ self _ _ hargs hbefore hroom
  obtain ⟨t, ht⟩ := holder.frame (some self :: argv) keywords (w.incref [self]) m₁
  obtain ⟨localArgs, hrestored⟩ := hrestore t
  refine ⟨m₁, t, hlength, ht.symm, ?_⟩
  unfold exportTypeVectorcallArgs vectorcallWithSelf constructed alloc
  rcases hrun : holder.invoke (some self :: argv) keywords (w.incref [self]) with ⟨result, w'⟩
  simp only [hprepare, hseen, Option.bind_eq_bind, Option.bind_some, hrun, ← ht, hrestored,
    free_append_length]
  cases result with
  | none => rfl
  | some result => rfl

/-- Without an argument array there is no call. -/
lemma exportTypeVectorcallArgs_of_noRoom {argumentsOffset malloc : Bool} {nargs : ℕ}
    (m : Memory Slot) (args : Pointer) (self : Object) (holder : VectorHolder) (keywords : ℕ)
    (w : World) (hroom : hasRoom malloc argumentsOffset nargs = false) :
    exportTypeVectorcallArgs (some self) malloc (some holder) args nargs argumentsOffset keywords
        m w =
      some (refuse noMemory ((w.incref [self]).decref [self]), m ++ [none]) := by
  simp only [hasRoom, Bool.or_eq_false_iff, decide_eq_false_iff_not] at hroom
  obtain ⟨⟨hoffset, hlocal⟩, hmalloc⟩ := hroom
  subst hoffset hmalloc
  unfold exportTypeVectorcallArgs vectorcallWithSelf alloc
  simp only [prepareArgs, hlocal, Bool.false_eq_true, if_false, Option.bind_eq_bind,
    Option.bind_some, free_append_length, Option.pure_def]

/-- Whatever the number of the arguments and whether or not the slot before them is lent, the
constructor is called with the new instance and the arguments behind it, and a reference to the
instance is returned or given up as it says; only where the arguments fit nowhere else can an
allocation fail, and then the instance is given up without a call.  In the end the memory of the
caller is as it was, and a heap buffer is freed exactly when it was allocated. -/
theorem exportTypeVectorcall_paths {m : Memory Slot} {args : Pointer} {argv : List Slot}
    {argumentsOffset : Bool} (hargs : loadRange m args argv.length = some argv)
    (hbefore : argumentsOffset = true → 0 < args.offset) (malloc : Bool) (self : Object)
    (holder : VectorHolder) (keywords : ℕ) (w : World) :
    (hasRoom malloc argumentsOffset argv.length = true → ∃ m₁ t,
      m₁.length = m.length + 1 + (freedBuffer malloc argumentsOffset argv.length).length ∧
      holder.memory (some self :: argv) keywords (w.incref [self]) m₁ = m₁ ++ t ∧
      exportTypeVectorcallArgs (some self) malloc (some holder) args argv.length argumentsOffset
          keywords m w =
        some (constructed self holder argv keywords w,
          m ++ none :: (freedBuffer malloc argumentsOffset argv.length ++ t))) ∧
    (hasRoom malloc argumentsOffset argv.length = false →
      exportTypeVectorcallArgs (some self) malloc (some holder) args argv.length argumentsOffset
          keywords m w =
        some (refuse noMemory ((w.incref [self]).decref [self]), m ++ [none])) ∧
    (constructed self holder argv keywords w).1 =
      (holder.invoke (some self :: argv) keywords (w.incref [self])).1.map (fun _ => self) ∧
    (∀ effect, (holder.invoke (some self :: argv) keywords (w.incref [self])).2.own =
        (w.incref [self]).own + effect +
          tally (holder.invoke (some self :: argv) keywords (w.incref [self])).1.toList →
      (constructed self holder argv keywords w).2.own =
        w.own + effect + tally (constructed self holder argv keywords w).1.toList) ∧
    (refuse noMemory ((w.incref [self]).decref [self])).2.own = w.own := by
  refine ⟨exportTypeVectorcallArgs_of_room hargs hbefore self holder keywords w,
    exportTypeVectorcallArgs_of_noRoom m args self holder keywords w,
    constructed_fst self holder argv keywords w, fun _ => own_constructed, ?_⟩
  simp [refuse]

/-- Two arguments in an array whose slot before them is lent, for a constructor that returns
`None` (here object 9): the instance 5 is returned, and the slot holds what it held. -/
theorem exportTypeVectorcall_paths_lent :
    ∃ t, exportTypeVectorcallArgs (some (.plain 5)) false
        (some ⟨fun _ _ w => (some (.plain 9), w.incref [.plain 9]), fun _ _ _ m => m,
          fun _ _ _ _ => List.prefix_rfl⟩)
        ⟨0, 1⟩ 2 true 0 [some [some (.plain 7), some (.plain 1), some (.plain 2)]]
        ⟨none, 0, [], []⟩ =
      some ((some (.plain 5), ((World.mk none 0 [] []).incref [.plain 5] |>.incref [.plain 9]
          |>.decref [.plain 9])),
        [some [some (.plain 7), some (.plain 1), some (.plain 2)]] ++ none :: t) := by
  obtain ⟨hroom, -⟩ := @exportTypeVectorcall_paths
    [some [some (.plain 7), some (.plain 1), some (.plain 2)]] ⟨0, 1⟩
    [some (.plain 1), some (.plain 2)] true (by decide) (by decide) false (.plain 5)
    ⟨fun _ _ w => (some (.plain 9), w.incref [.plain 9]), fun _ _ _ m => m,
      fun _ _ _ _ => List.prefix_rfl⟩ 0 ⟨none, 0, [], []⟩
  obtain ⟨_, t, -, -, hrun⟩ := hroom (by decide)
  exact ⟨t, hrun⟩

/-! ## The entry point -/

/-- `class_constructor_holder::construct_vector` as the holder of an exported type. -/
def constructorHolder (declared : ℕ) (compatible : Bool) (body : List Slot → Body) :
    VectorHolder where
  invoke argv keywords w :=
    constructVector declared keywords argv.length compatible (body argv) w
  memory _ _ _ m := m
  frame _ _ _ _ := List.prefix_rfl

/-- The entry point of the error model is `export_type_vectorcall` with its argument arrays left
out. -/
theorem exportTypeVectorcallArgs_eq {m : Memory Slot} {args : Pointer} {argv : List Slot}
    {argumentsOffset : Bool} (hargs : loadRange m args argv.length = some argv)
    (hbefore : argumentsOffset = true → 0 < args.offset) (malloc : Bool) (self : Object)
    (declared : ℕ) (compatible : Bool) (body : List Slot → Body) (keywords : ℕ) (w : World) :
    ∃ m', m <+: m' ∧
      exportTypeVectorcallArgs (some self) malloc
          (some (constructorHolder declared compatible body)) args argv.length argumentsOffset
          keywords m w =
        some (exportTypeVectorcall
          ⟨true, some self, hasRoom malloc argumentsOffset argv.length⟩ declared keywords
          argv.length compatible (body (some self :: argv)) w, m') := by
  cases hroom : hasRoom malloc argumentsOffset argv.length with
  | true =>
    obtain ⟨_, t, -, -, hrun⟩ := exportTypeVectorcallArgs_of_room hargs hbefore self
      (constructorHolder declared compatible body) keywords w hroom
    exact ⟨_, List.prefix_append m _, hrun⟩
  | false =>
    exact ⟨_, List.prefix_append m _, exportTypeVectorcallArgs_of_noRoom m args self
      (constructorHolder declared compatible body) keywords w hroom⟩

end Dynabridge.Python
