import Dynabridge.ErrorPolicy
import Dynabridge.Foundations.LittleEndian
import Dynabridge.Foundations.PrefixParser
import Dynabridge.Rpc.Value

/-!
# The RPC codec

The frame writer and reader of `backends/rpc.h` and the request and response codecs built on
them.  Byte vectors are lists of bytes; `std::size_t` is 64 bits wide.  Allocation is not
modelled: `reserve` only records the capacity it was asked for.

A `reader` is a sticky cursor: its `input` is the `remaining_` bytes that start at
`current_`.
-/

namespace Dynabridge.Rpc

open LittleEndian PrefixParser

/-- `std::numeric_limits<std::uint32_t>::max()` -/
def uint32Max : ℕ := 2 ^ 32 - 1

/-- `std::numeric_limits<std::size_t>::max()` -/
def sizeMax : ℕ := 2 ^ 64 - 1

/-- `rpc::bytes`, with the size a `std::vector` can have. -/
abbrev Bytes := {data : List UInt8 // data.length ≤ sizeMax}

/-- `detail::request_magic` -/
def requestMagic : ℕ := 0x43505244

/-- `detail::response_magic` -/
def responseMagic : ℕ := 0x52505244

/-- `detail::protocol_version` -/
def protocolVersion : ℕ := 1

/-! ## The writer -/

/-- `detail::writer`: the bytes written so far and the capacity reserved for them. -/
structure Writer where
  /-- the constructor's `capacity` -/
  capacity : ℕ
  /-- `data_` -/
  data : List UInt8

namespace Writer

/-- `writer::writer` -/
def new (capacity : ℕ) : Writer := ⟨capacity, []⟩

/-- `writer::integer` for an unsigned type of `width` bytes. -/
def integer (out : Writer) (width number : ℕ) : Writer :=
  { out with
    data := (List.range width).foldl
      (fun data i => data ++ [UInt8.ofNat (number >>> (i * 8))]) out.data }

/-- `writer::raw` -/
def raw (out : Writer) (text : List UInt8) : Except Raised Writer :=
  if text.length > uint32Max then
    throw (.protocolError (ascii "RPC string is too large"))
  else
    let out := out.integer 4 (text.length % 2 ^ 32)
    if text.length ≠ 0 then pure { out with data := out.data ++ text } else pure out

/-- `writer::finish` -/
def finish (out : Writer) : List UInt8 := out.data

end Writer

/-! ## The reader -/

/-- `detail::reader` -/
abbrev Reader := Cursor UInt8

namespace Reader

/-- The reader of a frame. -/
def new (frame : List UInt8) : Reader := ⟨frame, true⟩

/-- `reader::remaining` -/
def remaining (r : Reader) : ℕ := r.input.length

/-- `reader::empty` -/
def empty (r : Reader) : Bool := r.remaining == 0

/-- `reader::invalidate` -/
def invalidate : StateM Reader Unit := fun r => ((), { r with valid := false })

/-- `reader::require` -/
def require (size : ℕ) : StateM Reader Bool := fun r =>
  if !r.valid || size > r.remaining then (false, { r with valid := false }) else (true, r)

/-- Skip `size` bytes: the updates of `current_` and `remaining_` after a read. -/
def advance (size : ℕ) : StateM Reader Unit := fun r =>
  ((), { r with input := r.input.drop size })

/-- `reader::integer` for an unsigned type of `width` bytes. -/
def integer (width : ℕ) : StateM Reader ℕ := do
  if !(← require width) then return 0
  let result := orLoop (← get).input width
  advance width
  return result

/-- `reader::raw` -/
def raw : StateM Reader (List UInt8) := do
  let size ← integer 4
  if !(← require size) then return []
  let result := (← get).input.take size
  advance size
  return result

end Reader

/-! ## Values -/

/-- `detail::encode_value`.  The raise after the `switch` is unreachable: a value has one of
the six kinds. -/
def encodeValue (out : Writer) (input : Value) : Except Raised Writer :=
  let out := out.integer 1 input.kind.toNat
  match input.kind with
  | .undefined => pure out
  | .signedInteger => pure (out.integer 8 input.asSigned.toUInt64.toNat)
  | .unsignedInteger => pure (out.integer 8 input.asUnsigned.toNat)
  | .real => pure (out.integer 8 input.asReal.toNat)
  | .boolean => pure (out.integer 1 (if input.asBoolean then 1 else 0))
  | .string => out.raw input.stringData

/-- `detail::checked_add` -/
def checkedAdd (left right : ℕ) : Except Raised ℕ :=
  if right > sizeMax - left then
    throw (.protocolError (ascii "RPC frame size overflow"))
  else pure (left + right)

/-- `detail::encoded_size` -/
def encodedSize (input : Value) : Except Raised ℕ :=
  match input.kind with
  | .undefined => pure 1
  | .signedInteger | .unsignedInteger | .real => pure 9
  | .boolean => pure 2
  | .string =>
    if input.stringSize > uint32Max then
      throw (.protocolError (ascii "RPC string is too large"))
    else checkedAdd 5 input.stringSize

/-- The enumerator a kind byte is cast to, if it names one. -/
def ValueKind.ofByte : ℕ → Option ValueKind
  | 0 => some .undefined
  | 1 => some .signedInteger
  | 2 => some .unsignedInteger
  | 3 => some .real
  | 4 => some .boolean
  | 5 => some .string
  | _ => none

/-- `detail::decode_value` -/
def decodeValue : StateM Reader Value := do
  match ValueKind.ofByte (← Reader.integer 1) with
  | some .undefined => return .undefined
  | some .signedInteger => return .signedInteger (UInt64.ofNat (← Reader.integer 8)).toInt64
  | some .unsignedInteger => return .unsignedInteger (UInt64.ofNat (← Reader.integer 8))
  | some .real => return .real (UInt64.ofNat (← Reader.integer 8))
  | some .boolean => return .boolean ((← Reader.integer 1) != 0)
  | some .string => return .string (← Reader.raw)
  | none =>
    Reader.invalidate
    return .undefined

/-! ## Requests -/

/-- `detail::request` -/
structure Request where
  method : UInt64
  args : List Value
  deriving DecidableEq, Repr

/-- The loop of `encode_request` that computes `frame_size`. -/
def requestFrameSize (args : List Value) : Except Raised ℕ :=
  args.foldlM (fun frameSize arg => do checkedAdd frameSize (← encodedSize arg)) 17

/-- `detail::encode_request` -/
def encodeRequest (method : UInt64) (args : List Value) : Except Raised (List UInt8) := do
  if args.length > uint32Max then
    throw (.protocolError (ascii "too many RPC arguments"))
  let frameSize ← requestFrameSize args
  let out := Writer.new frameSize
  let out := out.integer 4 requestMagic
  let out := out.integer 1 protocolVersion
  let out := out.integer 8 method.toNat
  let out := out.integer 4 (args.length % 2 ^ 32)
  let out ← args.foldlM encodeValue out
  return out.finish

/-- The pack expansion of `encode_request_values` that computes `frame_size`. -/
def packFrameSize (frameSize : ℕ) : List Value → Except Raised ℕ
  | [] => return frameSize
  | arg :: args => do
    let frameSize ← checkedAdd frameSize (← encodedSize arg)
    packFrameSize frameSize args

/-- The pack expansion of `encode_request_values` that writes the arguments. -/
def packEncodeValues (out : Writer) : List Value → Except Raised Writer
  | [] => return out
  | arg :: args => do
    let out ← encodeValue out arg
    packEncodeValues out args

/-- `detail::encode_request_values`.  The number of arguments is a compile-time constant that
a `static_assert` bounds by `uint32Max`. -/
def encodeRequestValues (method : UInt64) (args : List Value) : Except Raised (List UInt8) := do
  let frameSize ← packFrameSize 17 args
  let out := Writer.new frameSize
  let out := out.integer 4 requestMagic
  let out := out.integer 1 protocolVersion
  let out := out.integer 8 method.toNat
  let out := out.integer 4 (args.length % 2 ^ 32)
  let out ← packEncodeValues out args
  return out.finish

/-- The argument loop of `try_decode_request`, with `count` rounds to go; `none` is its early
`return false`. -/
def decodeArguments : ℕ → List Value → StateM Reader (Option (List Value))
  | 0, args => return some args
  | count + 1, args => do
    let item ← decodeValue
    if !(← get).valid then return none
    decodeArguments count (args ++ [item])

/-- `detail::try_decode_request`, up to the publication of the staged request. -/
def stageRequest : StateM Reader (Option Request) := do
  if (← Reader.integer 4) != requestMagic then return none
  if (← Reader.integer 1) != protocolVersion then return none
  let method := UInt64.ofNat (← Reader.integer 8)
  let argc ← Reader.integer 4
  if !(← get).valid || argc > (← get).remaining then return none
  let some args ← decodeArguments argc [] | return none
  if !(← get).valid || !(← get).empty then return none
  return some ⟨method, args⟩

/-- `detail::try_decode_request`: whether the frame was accepted, and the caller's request
afterwards. -/
def tryDecodeRequest (frame : List UInt8) (result : Request) : Bool × Request :=
  match (stageRequest.run (Reader.new frame)).1 with
  | some staged => (true, staged)
  | none => (false, result)

/-! ## Responses -/

/-- `detail::encode_response` -/
def encodeResponse (result : Value) : Except Raised (List UInt8) := do
  let out := Writer.new (← checkedAdd 7 (← encodedSize result))
  let out := out.integer 4 responseMagic
  let out := out.integer 1 protocolVersion
  let out := out.integer 1 0
  let out ← encodeValue out result
  return out.finish

/-- `detail::encode_error` -/
def encodeError (message : List UInt8) : Except Raised (List UInt8) := do
  if message.length > uint32Max then
    throw (.protocolError (ascii "RPC error message is too large"))
  let out := Writer.new (← checkedAdd 10 message.length)
  let out := out.integer 4 responseMagic
  let out := out.integer 1 protocolVersion
  let out := out.integer 1 1
  let out ← out.raw message
  return out.finish

/-- `detail::response_status` -/
inductive ResponseStatus
  | ok
  | malformed
  | remoteError
  deriving DecidableEq, Repr

/-- What `try_decode_response` has staged when it returns: a value, a message, or nothing. -/
inductive StagedResponse
  | ok (result : Value)
  | malformed
  | remoteError (message : List UInt8)
  deriving DecidableEq, Repr

/-- `detail::try_decode_response`, up to the publication of the staged value or message. -/
def stageResponse : StateM Reader StagedResponse := do
  if (← Reader.integer 4) != responseMagic then return .malformed
  if (← Reader.integer 1) != protocolVersion then return .malformed
  let tag ← Reader.integer 1
  if !(← get).valid || tag > 1 then return .malformed
  if tag == 1 then
    let message ← Reader.raw
    if !(← get).valid || !(← get).empty then return .malformed
    return .remoteError message
  let staged ← decodeValue
  if !(← get).valid || !(← get).empty then return .malformed
  return .ok staged

/-- `detail::try_decode_response`: the status, and the caller's value and error string
afterwards. -/
def tryDecodeResponse (frame : List UInt8) (result : Value) (error : List UInt8) :
    ResponseStatus × Value × List UInt8 :=
  match (stageResponse.run (Reader.new frame)).1 with
  | .ok staged => (.ok, staged, error)
  | .remoteError message => (.remoteError, result, message)
  | .malformed => (.malformed, result, error)

/-- `detail::decode_response` -/
def decodeResponse (frame : List UInt8) : Except Raised Value :=
  match tryDecodeResponse frame .undefined [] with
  | (.remoteError, _, error) => throw (.remoteError error)
  | (.malformed, _, _) => throw (.protocolError (ascii "invalid RPC response frame"))
  | (.ok, result, _) => pure result

end Dynabridge.Rpc
