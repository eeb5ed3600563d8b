import Dynabridge.Foundations.StateSimulation
import Dynabridge.Rpc.RequestCodec

/-!
# What decoding a frame costs

The codec reads a frame through a cursor whose input is a list.  Here the same decoders run
over the frame as memory: `current` and `remaining` are positions in it, every byte is loaded
at an index, and a meter records the indices loaded, the rounds of the argument loop, the
capacities asked for with `reserve` and the lengths of the strings built.

`Within` is the invariant that bounds the meter by the frame: the positions stay inside it,
and the strings built so far are no longer than what has been consumed.  Under it the metered
decoders simulate those of the codec (`simulates_stageRequest`, `simulates_stageResponse`),
so that the bounds hold of every frame, whatever numbers it contains.
-/

namespace Dynabridge.Rpc

open LittleEndian StateSimulation

/-- What a decoder has done so far. -/
structure Usage where
  /-- the indices of the frame that were loaded, in order -/
  loads : List ℕ
  /-- the rounds of the argument loop that were started -/
  rounds : ℕ
  /-- the arguments of the calls of `reserve` -/
  reserved : List ℕ
  /-- the lengths of the strings that were built -/
  strings : List ℕ
  deriving DecidableEq, Repr

/-- `detail::reader` as the positions it holds in a frame, with the meter. -/
structure FrameReader where
  /-- the offset of `current_` in the frame -/
  current : ℕ
  /-- `remaining_` -/
  remaining : ℕ
  /-- `valid_` -/
  valid : Bool
  usage : Usage
  deriving DecidableEq, Repr

namespace FrameReader

/-- The reader of a frame. -/
def new (frame : List UInt8) : FrameReader := ⟨0, frame.length, true, ⟨[], 0, [], []⟩⟩

/-- `reader::empty` -/
def empty (r : FrameReader) : Bool := r.remaining == 0

/-- `reader::invalidate` -/
def invalidate : StateM FrameReader Unit := fun r => ((), { r with valid := false })

/-- `reader::require` -/
def require (size : ℕ) : StateM FrameReader Bool := fun r =>
  if !r.valid || size > r.remaining then (false, { r with valid := false }) else (true, r)

/-- Load `current_[0]`, …, `current_[size - 1]`.  An index outside the frame would be undefined
behaviour; the value loaded there stands for anything. -/
def load (frame : List UInt8) (size : ℕ) : StateM FrameReader (List UInt8) := fun r =>
  let indices := (List.range size).map (r.current + ·)
  (indices.map fun i => frame.getD i 0,
    { r with usage := { r.usage with loads := r.usage.loads ++ indices } })

/-- `current_ += size; remaining_ -= size;` -/
def advance (size : ℕ) : StateM FrameReader Unit := fun r =>
  ((), { r with current := r.current + size, remaining := r.remaining - size })

/-- Record that a string of this length was built. -/
def allocate (size : ℕ) : StateM FrameReader Unit := fun r =>
  ((), { r with usage := { r.usage with strings := r.usage.strings ++ [size] } })

/-- Record a call of `reserve`. -/
def reserve (size : ℕ) : StateM FrameReader Unit := fun r =>
  ((), { r with usage := { r.usage with reserved := r.usage.reserved ++ [size] } })

/-- Record the start of a round of the argument loop. -/
def round : StateM FrameReader Unit := fun r =>
  ((), { r with usage := { r.usage with rounds := r.usage.rounds + 1 } })

/-- `reader::integer` for an unsigned type of `width` bytes. -/
def integer (frame : List UInt8) (width : ℕ) : StateM FrameReader ℕ := do
  if !(← require width) then return 0
  let bytes ← load frame width
  advance width
  return orLoop bytes width

/-- `reader::raw` -/
def raw (frame : List UInt8) : StateM FrameReader (List UInt8) := do
  let size ← integer frame 4
  if !(← require size) then return []
  let result ← load frame size
  allocate size
  advance size
  return result

/-- `detail::decode_value` -/
def decodeValue (frame : List UInt8) : StateM FrameReader Value := do
  match ValueKind.ofByte (← integer frame 1) with
  | some .undefined => return .undefined
  | some .signedInteger => return .signedInteger (UInt64.ofNat (← integer frame 8)).toInt64
  | some .unsignedInteger => return .unsignedInteger (UInt64.ofNat (← integer frame 8))
  | some .real => return .real (UInt64.ofNat (← integer frame 8))
  | some .boolean => return .boolean ((← integer frame 1) != 0)
  | some .string => return .string (← raw frame)
  | none =>
    invalidate
    return .undefined

/-- The argument loop of `try_decode_request`, with `count` rounds to go; `none` is its early
`return false`. -/
def decodeArguments (frame : List UInt8) :
    ℕ → List Value → StateM FrameReader (Option (List Value))
  | 0, args => return some args
  | count + 1, args => do
    round
    let item ← decodeValue frame
    if !(← get).valid then return none
    decodeArguments frame count (args ++ [item])

/-- `detail::try_decode_request`, up to the publication of the staged request. -/
def stageRequest (frame : List UInt8) : StateM FrameReader (Option Request) := do
  if (← integer frame 4) != requestMagic then return none
  if (← integer frame 1) != protocolVersion then return none
  let method := UInt64.ofNat (← integer frame 8)
  let argc ← integer frame 4
  if !(← get).valid || argc > (← get).remaining then return none
  reserve argc
  let some args ← decodeArguments frame argc [] | return none
  if !(← get).valid || !(← get).empty then return none
  return some ⟨method, args⟩

/-- `detail::try_decode_response`, up to the publication of the staged value or message. -/
def stageResponse (frame : List UInt8) : StateM FrameReader StagedResponse := do
  if (← integer frame 4) != responseMagic then return .malformed
  if (← integer frame 1) != protocolVersion then return .malformed
  let tag ← integer frame 1
  if !(← get).valid || tag > 1 then return .malformed
  if tag == 1 then
    let message ← raw frame
    if !(← get).valid || !(← get).empty then return .malformed
    return .remoteError message
  let staged ← decodeValue frame
  if !(← get).valid || !(← get).empty then return .malformed
  return .ok staged

/-! ## Reading from an invalid reader -/

/-- The calls by which the decoders read. -/
inductive Read
  | integer (width : ℕ)
  | raw
  | value
  deriving DecidableEq, Repr

/-- What a call does to the reader. -/
def Read.perform (frame : List UInt8) : Read → FrameReader → FrameReader
  | .integer width, r => ((FrameReader.integer frame width).run r).2
  | .raw, r => ((FrameReader.raw frame).run r).2
  | .value, r => ((decodeValue frame).run r).2

/-- A sequence of reading calls. -/
def performAll (frame : List UInt8) (reads : List Read) (r : FrameReader) : FrameReader :=
  reads.foldl (fun r read => read.perform frame r) r

variable {frame : List UInt8}

/-- An invalid reader grants nothing and stays as it is. -/
lemma require_of_invalid {r : FrameReader} (h : r.valid = false) (size : ℕ) :
    (require size).run r = (false, r) := by
  rcases r with ⟨current, remaining, valid, usage⟩
  obtain rfl : valid = false := h
  rfl

/-- An integer read from an invalid reader is zero. -/
lemma integer_of_invalid {r : FrameReader} (h : r.valid = false) (width : ℕ) :
    (integer frame width).run r = (0, r) := by
  have hrequire := require_of_invalid h width
  simp only [integer, StateT.run_bind, hrequire]
  rfl

/-- A text read from an invalid reader is empty. -/
lemma raw_of_invalid {r : FrameReader} (h : r.valid = false) :
    (raw frame).run r = ([], r) := by
  have hsize : (integer frame 4).run r = (0, r) := integer_of_invalid h 4
  have hrequire := require_of_invalid h 0
  simp only [raw, StateT.run_bind, hsize]
  change (do
    if !(← require 0) then return []
    let result ← load frame 0
    allocate 0
    advance 0
    return result : StateM FrameReader (List UInt8)).run r = ([], r)
  simp only [StateT.run_bind, hrequire]
  rfl

/-- A value read from an invalid reader is undefined: its kind byte is read as zero. -/
lemma decodeValue_of_invalid {r : FrameReader} (h : r.valid = false) :
    (decodeValue frame).run r = (.undefined, r) := by
  have hkind : (integer frame 1).run r = (0, r) := integer_of_invalid h 1
  simp only [decodeValue, StateT.run_bind, hkind]
  rfl

/-- No sequence of reading calls changes an invalid reader. -/
theorem performAll_of_invalid (reads : List Read) {r : FrameReader} (h : r.valid = false) :
    performAll frame reads r = r := by
  induction reads with
  | nil => rfl
  | cons read reads ih =>
    have hstep : read.perform frame r = r := by
      cases read with
      | integer width => rw [Read.perform, integer_of_invalid h]
      | raw => rw [Read.perform, raw_of_invalid h]
      | value => rw [Read.perform, decodeValue_of_invalid h]
    rw [performAll, List.foldl_cons, hstep]
    exact ih

/-! ## The meter stays within the frame -/

/-- The cursor of the codec that a reader of the frame stands for. -/
def cursor (frame : List UInt8) (r : FrameReader) : Reader := ⟨frame.drop r.current, r.valid⟩

/-- The positions lie in the frame, and so does everything the meter has recorded, with
`budget` rounds of the argument loop to spare. -/
structure Within (frame : List UInt8) (budget : ℕ) (r : FrameReader) : Prop where
  /-- `current_` and `remaining_` delimit the rest of the frame -/
  position : r.current + r.remaining = frame.length
  /-- every load was inside the frame -/
  loads : ∀ i ∈ r.usage.loads, i < frame.length
  /-- the strings built were made of bytes already consumed -/
  strings : r.usage.strings.sum ≤ r.current
  /-- no more was reserved than the frame is long -/
  reserved : ∀ size ∈ r.usage.reserved, size ≤ frame.length
  /-- the rounds started and the rounds to spare fit into the frame -/
  rounds : r.usage.rounds + budget ≤ frame.length

variable {budget : ℕ} {r : FrameReader}

/-- What is left of the frame has the length the reader remembers. -/
lemma Within.remaining_cursor (h : Within frame budget r) :
    Reader.remaining (cursor frame r) = r.remaining := by
  have hposition := h.position
  rw [Reader.remaining, cursor, List.length_drop]
  omega

/-- A reader that has started no round can afford as many as there are bytes. -/
lemma Within.weaken {fewer : ℕ} (h : Within frame budget r) (hle : fewer ≤ budget) :
    Within frame fewer r :=
  ⟨h.position, h.loads, h.strings, h.reserved, by have := h.rounds; omega⟩

/-- The new reader of a frame has recorded nothing. -/
lemma within_new (frame : List UInt8) : Within frame frame.length (new frame) := by
  constructor <;> simp [new]

/-- The indices of a load that was granted. -/
lemma mem_indices_lt {size i : ℕ} (h : Within frame budget r) (hsize : size ≤ r.remaining)
    (hi : i ∈ (List.range size).map (r.current + ·)) : i < frame.length := by
  obtain ⟨k, hk, rfl⟩ := List.mem_map.mp hi
  have hlt := List.mem_range.mp hk
  have hposition := h.position
  omega

/-- The bytes of a load that was granted are the next bytes of the frame. -/
lemma load_run_fst {size : ℕ} (h : Within frame budget r) (hsize : size ≤ r.remaining) :
    ((load frame size).run r).1 = (frame.drop r.current).take size := by
  have hposition := h.position
  have hvalue : ((load frame size).run r).1 =
      (List.range size).map fun k => frame.getD (r.current + k) 0 := by
    change ((List.range size).map (r.current + ·)).map (fun i => frame.getD i 0) = _
    rw [List.map_map]
    rfl
  rw [hvalue]
  apply List.ext_getElem
  · rw [List.length_map, List.length_range, List.length_take, List.length_drop]
    omega
  · intro k hk _
    rw [List.length_map, List.length_range] at hk
    have hlt : r.current + k < frame.length := by omega
    simp [hlt]

/-- Skipping granted bytes moves the abstract cursor by as many. -/
lemma cursor_advance (size : ℕ) (r : FrameReader) :
    cursor frame ((advance size).run r).2 = ((Reader.advance size).run (cursor frame r)).2 := by
  change (⟨frame.drop (r.current + size), r.valid⟩ : Reader) =
    ⟨(frame.drop r.current).drop size, r.valid⟩
  rw [List.drop_drop]

/-- Loading and skipping granted bytes stays within the frame. -/
lemma Within.consume {size : ℕ} (h : Within frame budget r) (hsize : size ≤ r.remaining) :
    Within frame budget ((advance size).run ((load frame size).run r).2).2 where
  position := by
    have hposition := h.position
    change r.current + size + (r.remaining - size) = frame.length
    omega
  loads := by
    intro i hi
    have hmem : i ∈ r.usage.loads ++ (List.range size).map (r.current + ·) := hi
    rcases List.mem_append.mp hmem with hold | hnew
    · exact h.loads i hold
    · exact mem_indices_lt h hsize hnew
  strings := h.strings.trans (Nat.le_add_right _ _)
  reserved := h.reserved
  rounds := h.rounds

/-- Building a string from the granted bytes before skipping them stays within the frame: the
string is paid for by the bytes it consumes. -/
lemma Within.consume_text {size : ℕ} (h : Within frame budget r) (hsize : size ≤ r.remaining) :
    Within frame budget
      ((advance size).run ((allocate size).run ((load frame size).run r).2).2).2 where
  position := (h.consume hsize).position
  loads := (h.consume hsize).loads
  strings := by
    have hstrings := h.strings
    change (r.usage.strings ++ [size]).sum ≤ r.current + size
    rw [List.sum_append, List.sum_singleton]
    omega
  reserved := h.reserved
  rounds := h.rounds

/-! ## The metered decoders are the decoders of the codec -/

/-- A granted request leaves that many bytes. -/
lemma simulates_require (size : ℕ) :
    Simulates (cursor frame) (Within frame budget) (require size) (Reader.require size)
      fun granted r => Within frame budget r ∧ (granted = true → size ≤ r.remaining) := by
  intro r h
  have hremaining := h.remaining_cursor
  by_cases hgrant : (!r.valid || decide (size > r.remaining)) = true
  · have hrun : (require size).run r = (false, { r with valid := false }) := if_pos hgrant
    have hcodec : (Reader.require size).run (cursor frame r) =
        (false, { cursor frame r with valid := false }) := by
      rw [← hremaining] at hgrant
      exact if_pos hgrant
    rw [hrun, hcodec]
    exact ⟨rfl, ⟨h.position, h.loads, h.strings, h.reserved, h.rounds⟩, by simp⟩
  · have hrun : (require size).run r = (true, r) := if_neg hgrant
    have hcodec : (Reader.require size).run (cursor frame r) = (true, cursor frame r) := by
      rw [← hremaining] at hgrant
      exact if_neg hgrant
    rw [hrun, hcodec]
    refine ⟨rfl, h, fun _ => ?_⟩
    by_contra hlarge
    exact hgrant (by simp [Nat.lt_of_not_le hlarge])

/-- Reading an integer. -/
lemma simulates_integer (width : ℕ) :
    Simulates (cursor frame) (Within frame budget) (integer frame width) (Reader.integer width)
      fun _ => Within frame budget := by
  refine Simulates.bind (simulates_require width) fun granted => ?_
  refine Simulates.ite (fun _ => Simulates.pure 0 fun r h => h.1) fun hgranted => ?_
  rintro r ⟨h, hsize⟩
  have hle : width ≤ r.remaining := hsize (by simpa using hgranted)
  have hinput : width ≤ (frame.drop r.current).length := by
    have hremaining : (frame.drop r.current).length = r.remaining := h.remaining_cursor
    omega
  have hvalue : orLoop ((load frame width).run r).1 width =
      orLoop (frame.drop r.current) width := by
    rw [load_run_fst h hle, orLoop_eq_ofLittleEndian hinput, orLoop_eq_ofLittleEndian
      (by rw [List.length_take]; omega), List.take_take, Nat.min_self]
  refine ⟨Prod.ext hvalue.symm ?_, h.consume hle⟩
  exact (cursor_advance width ((load frame width).run r).2).symm

/-- Reading a text. -/
lemma simulates_raw :
    Simulates (cursor frame) (Within frame budget) (raw frame) Reader.raw
      fun _ => Within frame budget := by
  refine Simulates.bind (simulates_integer 4) fun size => ?_
  refine Simulates.bind (simulates_require size) fun granted => ?_
  refine Simulates.ite (fun _ => Simulates.pure [] fun r h => h.1) fun hgranted => ?_
  rintro r ⟨h, hsize⟩
  have hle : size ≤ r.remaining := hsize (by simpa using hgranted)
  refine ⟨Prod.ext (load_run_fst h hle).symm ?_, h.consume_text hle⟩
  exact (cursor_advance size ((load frame size).run r).2).symm

/-- Reading a value. -/
lemma simulates_decodeValue :
    Simulates (cursor frame) (Within frame budget) (decodeValue frame) Rpc.decodeValue
      fun _ => Within frame budget := by
  refine Simulates.bind (simulates_integer 1) fun kind => ?_
  have hnumber : ∀ (width : ℕ) (build : ℕ → Value), Simulates (cursor frame)
      (Within frame budget) (do return build (← integer frame width))
      (do return build (← Reader.integer width)) fun _ => Within frame budget :=
    fun width _ => (simulates_integer width).bind fun _ => Simulates.pure _ fun _ h => h
  cases ValueKind.ofByte kind with
  | none =>
    intro r h
    exact ⟨rfl, h.position, h.loads, h.strings, h.reserved, h.rounds⟩
  | some kind =>
    cases kind with
    | undefined => exact Simulates.pure _ fun _ h => h
    | signedInteger => exact hnumber 8 fun bits => .signedInteger (UInt64.ofNat bits).toInt64
    | unsignedInteger => exact hnumber 8 fun bits => .unsignedInteger (UInt64.ofNat bits)
    | real => exact hnumber 8 fun bits => .real (UInt64.ofNat bits)
    | boolean => exact hnumber 1 fun bits => .boolean (bits != 0)
    | string => exact simulates_raw.bind fun _ => Simulates.pure _ fun _ h => h

/-- The argument loop starts no more rounds than it was given. -/
lemma simulates_decodeArguments (count : ℕ) (args : List Value) :
    Simulates (cursor frame) (Within frame count) (decodeArguments frame count args)
      (Rpc.decodeArguments count args) fun _ => Within frame 0 := by
  induction count generalizing args with
  | zero => exact Simulates.pure _ fun _ h => h
  | succ count ih =>
    have hround : ∀ r, Within frame (count + 1) r →
        cursor frame (round.run r).2 = cursor frame r ∧ Within frame count (round.run r).2 := by
      intro r h
      refine ⟨rfl, h.position, h.loads, h.strings, h.reserved, ?_⟩
      have hrounds := h.rounds
      change r.usage.rounds + 1 + count ≤ frame.length
      omega
    refine Simulates.skip hround (simulates_decodeValue.bind fun item => ?_)
    refine Simulates.get fun r h => ?_
    have hseen : ∀ r', r = r' → Within frame count r' := fun _ heq => heq ▸ h
    refine Simulates.ite (fun _ => Simulates.pure none fun r' heq => ?_) fun _ => ?_
    · exact (hseen r' heq).weaken (Nat.zero_le count)
    · exact (ih _).weaken hseen fun _ _ => id

/-- The end of both decoders: accept when the frame was read to its end. -/
lemma simulates_finish {α : Type} (rejected accepted : α) :
    Simulates (cursor frame) (Within frame 0)
      (do
        if !(← get).valid || !(← get).empty then return rejected
        return accepted : StateM FrameReader α)
      (do
        if !(← get).valid || !(← get).empty then return rejected
        return accepted : StateM Reader α) fun _ => Within frame 0 := by
  refine Simulates.get fun r h => Simulates.get fun r' heq => ?_
  obtain rfl := heq
  have hempty : Reader.empty (cursor frame r) = r.empty := by
    rw [Reader.empty, h.remaining_cursor, FrameReader.empty]
  have hseen : ∀ r', r = r' → Within frame 0 r' := fun _ heq => heq ▸ h
  rw [hempty]
  exact Simulates.ite (fun _ => Simulates.pure _ hseen) fun _ => Simulates.pure _ hseen

/-- The request decoder. -/
theorem simulates_stageRequest :
    Simulates (cursor frame) (Within frame frame.length) (stageRequest frame) Rpc.stageRequest
      fun _ => Within frame 0 := by
  have hreject : ∀ r, Within frame frame.length r → Within frame 0 r := fun r h =>
    h.weaken (Nat.zero_le _)
  refine (simulates_integer 4).bind fun magic => ?_
  refine Simulates.ite (fun _ => Simulates.pure none hreject) fun _ => ?_
  refine (simulates_integer 1).bind fun version => ?_
  refine Simulates.ite (fun _ => Simulates.pure none hreject) fun _ => ?_
  refine (simulates_integer 8).bind fun method => ?_
  refine (simulates_integer 4).bind fun argc => ?_
  refine Simulates.get fun r h => Simulates.get fun r' heq => ?_
  obtain rfl := heq
  rw [h.remaining_cursor]
  refine Simulates.ite (fun _ => Simulates.pure none fun r' heq => hreject r' (heq ▸ h))
    fun hargc => ?_
  have hfits : argc ≤ frame.length := by
    have hle : argc ≤ r.remaining := by
      by_contra hlarge
      exact hargc (by simp [Nat.lt_of_not_le hlarge])
    have hposition := h.position
    omega
  have h' := h.weaken hfits
  have hreserve : ∀ r', r = r' → cursor frame ((reserve argc).run r').2 = cursor frame r' ∧
      Within frame argc ((reserve argc).run r').2 := by
    rintro _ rfl
    refine ⟨rfl, h'.position, h'.loads, h'.strings, ?_, h'.rounds⟩
    intro size hsize
    rcases List.mem_append.mp hsize with hold | hnew
    · exact h.reserved size hold
    · rwa [List.mem_singleton.mp hnew]
  refine Simulates.skip hreserve ((simulates_decodeArguments argc []).bind fun args => ?_)
  cases args with
  | none => exact Simulates.pure none fun _ h => h
  | some args => exact simulates_finish none (some _)

/-- The response decoder. -/
theorem simulates_stageResponse :
    Simulates (cursor frame) (Within frame 0) (stageResponse frame) Rpc.stageResponse
      fun _ => Within frame 0 := by
  have hreject : ∀ r, Within frame 0 r → Within frame 0 r := fun _ h => h
  refine (simulates_integer 4).bind fun magic => ?_
  refine Simulates.ite (fun _ => Simulates.pure _ hreject) fun _ => ?_
  refine (simulates_integer 1).bind fun version => ?_
  refine Simulates.ite (fun _ => Simulates.pure _ hreject) fun _ => ?_
  refine (simulates_integer 1).bind fun tag => ?_
  refine Simulates.get fun r h => ?_
  have hseen : ∀ r', r = r' → Within frame 0 r' := fun _ heq => heq ▸ h
  refine Simulates.ite (fun _ => Simulates.pure _ hseen) fun _ => ?_
  refine Simulates.weaken (?_ : Simulates _ (Within frame 0) _ _ _) hseen fun _ _ => id
  refine Simulates.ite (fun _ => ?_) fun _ => ?_
  · exact simulates_raw.bind fun message =>
      simulates_finish StagedResponse.malformed (.remoteError message)
  · exact simulates_decodeValue.bind fun staged =>
      simulates_finish StagedResponse.malformed (.ok staged)

end FrameReader

/-! ## Decoding costs at most the frame -/

/-- `detail::try_decode_request` over the frame as memory: its results and what it did. -/
def meteredTryDecodeRequest (frame : List UInt8) (result : Request) :
    (Bool × Request) × Usage :=
  match (FrameReader.stageRequest frame).run (FrameReader.new frame) with
  | (some staged, r) => ((true, staged), r.usage)
  | (none, r) => ((false, result), r.usage)

/-- `detail::try_decode_response` over the frame as memory: its results and what it did. -/
def meteredTryDecodeResponse (frame : List UInt8) (result : Value) (error : List UInt8) :
    (ResponseStatus × Value × List UInt8) × Usage :=
  match (FrameReader.stageResponse frame).run (FrameReader.new frame) with
  | (.ok staged, r) => ((.ok, staged, error), r.usage)
  | (.remoteError message, r) => ((.remoteError, result, message), r.usage)
  | (.malformed, r) => ((.malformed, result, error), r.usage)

/-- What a decoder may do with a frame of this size. -/
structure Usage.Fits (used : Usage) (size : ℕ) : Prop where
  loads : ∀ i ∈ used.loads, i < size
  rounds : used.rounds ≤ size
  reserved : ∀ capacity ∈ used.reserved, capacity ≤ size
  strings : used.strings.sum ≤ size

/-- A reader within the frame has used no more than the frame. -/
lemma FrameReader.Within.fits {frame : List UInt8} {budget : ℕ} {r : FrameReader}
    (h : r.Within frame budget) : r.usage.Fits frame.length where
  loads := h.loads
  rounds := (Nat.le_add_right _ _).trans h.rounds
  reserved := h.reserved
  strings := by
    have hstrings := h.strings
    have hposition := h.position
    omega

/-- The metered request decoder returns what the codec returns, at most at the price of the
frame. -/
lemma meteredTryDecodeRequest_spec (frame : List UInt8) (result : Request) :
    (meteredTryDecodeRequest frame result).1 = tryDecodeRequest frame result ∧
      (meteredTryDecodeRequest frame result).2.Fits frame.length := by
  obtain ⟨hagree, hwithin⟩ := FrameReader.simulates_stageRequest _ (FrameReader.within_new frame)
  have hcodec : (stageRequest.run (Reader.new frame)).1 =
      ((FrameReader.stageRequest frame).run (FrameReader.new frame)).1 := by
    change (stageRequest.run (FrameReader.cursor frame (FrameReader.new frame))).1 = _
    rw [hagree]
  rw [tryDecodeRequest, meteredTryDecodeRequest, hcodec]
  rcases hrun : (FrameReader.stageRequest frame).run (FrameReader.new frame) with ⟨staged, r⟩
  rw [hrun] at hwithin
  cases staged with
  | none => exact ⟨rfl, hwithin.fits⟩
  | some staged => exact ⟨rfl, hwithin.fits⟩

/-- The metered response decoder returns what the codec returns, at most at the price of the
frame. -/
lemma meteredTryDecodeResponse_spec (frame : List UInt8) (result : Value) (error : List UInt8) :
    (meteredTryDecodeResponse frame result error).1 = tryDecodeResponse frame result error ∧
      (meteredTryDecodeResponse frame result error).2.Fits frame.length := by
  obtain ⟨hagree, hwithin⟩ := FrameReader.simulates_stageResponse _
    ((FrameReader.within_new frame).weaken (Nat.zero_le _))
  have hcodec : (stageResponse.run (Reader.new frame)).1 =
      ((FrameReader.stageResponse frame).run (FrameReader.new frame)).1 := by
    change (stageResponse.run (FrameReader.cursor frame (FrameReader.new frame))).1 = _
    rw [hagree]
  rw [tryDecodeResponse, meteredTryDecodeResponse, hcodec]
  rcases hrun : (FrameReader.stageResponse frame).run (FrameReader.new frame) with ⟨staged, r⟩
  rw [hrun] at hwithin
  cases staged with
  | ok staged => exact ⟨rfl, hwithin.fits⟩
  | malformed => exact ⟨rfl, hwithin.fits⟩
  | remoteError message => exact ⟨rfl, hwithin.fits⟩

/-- Whatever a frame contains, decoding it as a request or as a response returns, loads only
bytes of the frame, starts at most as many rounds, reserves at most as many elements and
builds strings of at most as many bytes as the frame is long; and an invalid reader is never
changed by reading on. -/
theorem tryDecode_cost (frame : List UInt8) :
    (∀ result, (meteredTryDecodeRequest frame result).1 = tryDecodeRequest frame result ∧
      (meteredTryDecodeRequest frame result).2.Fits frame.length) ∧
    (∀ result error,
      (meteredTryDecodeResponse frame result error).1 = tryDecodeResponse frame result error ∧
      (meteredTryDecodeResponse frame result error).2.Fits frame.length) ∧
    ∀ (r : FrameReader) (reads : List FrameReader.Read), r.valid = false →
      FrameReader.performAll frame reads r = r :=
  ⟨meteredTryDecodeRequest_spec frame, meteredTryDecodeResponse_spec frame,
    fun _ reads h => FrameReader.performAll_of_invalid reads h⟩

/-- A header that promises four billion arguments is rejected before anything is reserved. -/
example : (meteredTryDecodeRequest (requestHeader 0 (2 ^ 32 - 1) ++ [0, 0]) ⟨0, []⟩).2 =
    ⟨List.range 17, 0, [], []⟩ := by decide

end Dynabridge.Rpc
