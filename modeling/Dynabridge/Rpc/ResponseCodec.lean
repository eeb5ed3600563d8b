import Dynabridge.Rpc.WireFormat

/-!
# Responses on the wire

A response frame is a header with a tag byte, followed by the word of a value or by a
length-prefixed message.  `stageResponse_eq_ok_iff` and `stageResponse_eq_remoteError_iff`
say which frames the decoder reads as one or the other, and the tag keeps the two apart;
`encodeResponse_eq` and `encodeError_eq` are the frames the encoders produce.
-/

namespace Dynabridge.Rpc

open LittleEndian PrefixParser

/-- The bytes of a response frame before its payload. -/
def responseHeader (tag : ℕ) : List UInt8 :=
  littleEndian 4 responseMagic ++ littleEndian 1 protocolVersion ++ littleEndian 1 tag

@[simp] lemma length_responseHeader (tag : ℕ) : (responseHeader tag).length = 6 := by
  simp [responseHeader]

/-- The frame of a value. -/
def responseEncoding (v : Value) : List UInt8 := responseHeader 0 ++ v.encoding

/-- The frame of an error message. -/
def errorEncoding (message : List UInt8) : List UInt8 :=
  responseHeader 1 ++ (littleEndian 4 message.length ++ message)

/-! ## Encoding -/

/-- The encoder produces the frame of an encodable value. -/
theorem encodeResponse_eq {v : Value} (h : v.Encodable) :
    encodeResponse v = .ok (responseEncoding v) := by
  have hlen := encoding_length_lt h
  rw [encodeResponse, encodedSize_eq h]
  simp only [bind, Except.bind]
  rw [checkedAdd_eq (by omega)]
  simp only [Writer.integer_eq, encodeValue_eq _ h]
  rfl

/-- A value that is not encodable raises. -/
theorem encodeResponse_raises {v : Value} (h : ¬ v.Encodable) :
    encodeResponse v = .error (.protocolError (ascii "RPC string is too large")) := by
  rw [encodeResponse, encodedSize_of_not_encodable h]
  rfl

/-- The encoder produces the frame of a message the length prefix can hold. -/
theorem encodeError_eq {message : List UInt8} (h : message.length < 2 ^ 32) :
    encodeError message = .ok (errorEncoding message) := by
  have hguard : ¬ message.length > uint32Max := by
    unfold uint32Max
    omega
  rw [encodeError, if_neg hguard, checkedAdd_eq (by omega)]
  simp only [Writer.integer_eq, Writer.raw_eq _ h]
  rfl

/-- Other messages raise. -/
theorem encodeError_raises {message : List UInt8} (h : 2 ^ 32 ≤ message.length) :
    encodeError message = .error (.protocolError (ascii "RPC error message is too large")) := by
  have hguard : message.length > uint32Max := by
    unfold uint32Max
    omega
  rw [encodeError, if_pos hguard]
  rfl

/-! ## Decoding -/

/-- The part of `try_decode_response` after the tag. -/
def stagePayload (tag : ℕ) : StateM Reader StagedResponse := do
  if !(← get).valid || tag > 1 then return .malformed
  if tag == 1 then
    let message ← Reader.raw
    if !(← get).valid || !(← get).empty then return .malformed
    return .remoteError message
  let staged ← decodeValue
  if !(← get).valid || !(← get).empty then return .malformed
  return .ok staged

lemma stageResponse_eq_bind :
    stageResponse = (do
      if (← Reader.integer 4) != responseMagic then return .malformed
      if (← Reader.integer 1) != protocolVersion then return .malformed
      let tag ← Reader.integer 1
      stagePayload tag) := rfl

/-- Reading an item and asking for the end is reading a whole input. -/
lemma run_complete {α : Type} (m : StateM Reader α) (publish : α → StagedResponse)
    (s : List UInt8) :
    ((do
      let item ← m
      if !(← get).valid || !(← get).empty then return .malformed
      return publish item : StateM Reader StagedResponse).run ⟨s, true⟩).1 =
      match (parserOf m).complete s with
      | some item => publish item
      | none => .malformed := by
  rcases hrun : m.run ⟨s, true⟩ with ⟨item, rest, valid⟩
  simp only [Reader.run_bind, Reader.run_get, hrun, Parser.complete, parserOf]
  cases valid with
  | false => rfl
  | true =>
    cases rest with
    | nil => rfl
    | cons b rest => rfl

/-- The payload after each tag. -/
lemma stagePayload_run (tag : ℕ) (s : List UInt8) :
    ((stagePayload tag).run ⟨s, true⟩).1 =
      match tag with
      | 0 => ((parserOf decodeValue).complete s).elim .malformed .ok
      | 1 => ((parserOf Reader.raw).complete s).elim .malformed .remoteError
      | _ + 2 => .malformed := by
  match tag with
  | 0 =>
    refine (run_complete decodeValue .ok s).trans ?_
    cases (parserOf decodeValue).complete s <;> rfl
  | 1 =>
    refine (run_complete Reader.raw .remoteError s).trans ?_
    cases (parserOf Reader.raw).complete s <;> rfl
  | tag + 2 =>
    have hlarge : tag + 2 > 1 := by omega
    simp only [stagePayload, Reader.run_bind, Reader.run_get, Reader.run_pure, hlarge,
      decide_true, Bool.or_true, if_true]

/-- A response that is not malformed is a header with tag zero or one and a payload. -/
lemma stageResponse_eq_iff {f : List UInt8} {staged : StagedResponse}
    (hstaged : .malformed ≠ staged) :
    (stageResponse.run (Reader.new f)).1 = staged ↔
      ∃ tag payload, f = responseHeader tag ++ payload ∧ tag < 2 ∧
        ((stagePayload tag).run ⟨payload, true⟩).1 = staged := by
  have hinvalid : ∀ tag s, ((stagePayload tag).run ⟨s, false⟩).1 ≠ staged :=
    fun _ _ => hstaged
  rw [stageResponse_eq_bind, Reader.new,
    Reader.run_expect_eq_iff (by decide) (by decide) hstaged]
  constructor
  · rintro ⟨f, rfl, hrest⟩
    obtain ⟨f, rfl, hfields⟩ :=
      (Reader.run_expect_eq_iff (by decide) (by decide) hstaged).mp hrest
    obtain ⟨w, payload, rfl, hw, hpayload⟩ := (Reader.run_integer_bind_eq_iff hinvalid).mp hfields
    refine ⟨ofLittleEndian w, payload, ?_, ?_, hpayload⟩
    · rw [responseHeader, ← hw, littleEndian_ofLittleEndian]
      simp only [List.append_assoc]
    · rw [stagePayload_run] at hpayload
      split at hpayload
      · omega
      · omega
      · exact absurd hpayload hstaged
  · rintro ⟨tag, payload, rfl, htag, hpayload⟩
    simp only [responseHeader, List.append_assoc]
    refine ⟨_, rfl, (Reader.run_expect_eq_iff (by decide) (by decide) hstaged).mpr
      ⟨_, rfl, (Reader.run_integer_bind_eq_iff hinvalid).mpr
        ⟨_, _, rfl, length_littleEndian _ _, ?_⟩⟩⟩
    rw [ofLittleEndian_littleEndian (by omega)]
    exact hpayload

/-- The decoder reads a value exactly from a frame with tag zero and a word of that value. -/
theorem stageResponse_eq_ok_iff {f : List UInt8} {v : Value} :
    (stageResponse.run (Reader.new f)).1 = .ok v ↔
      ∃ w ∈ valueWords v, f = responseHeader 0 ++ w := by
  rw [stageResponse_eq_iff (by simp)]
  constructor
  · rintro ⟨tag, w, rfl, -, hpayload⟩
    rw [stagePayload_run] at hpayload
    split at hpayload
    · refine ⟨w, reads_decodeValue.complete_eq_some_iff.mp ?_, rfl⟩
      cases hparse : (parserOf decodeValue).complete w <;> simp_all
    · cases hparse : (parserOf Reader.raw).complete w <;> simp_all
    · cases hpayload
  · rintro ⟨w, hw, rfl⟩
    refine ⟨0, w, rfl, by norm_num, ?_⟩
    rw [stagePayload_run, reads_decodeValue.complete_eq_some_iff.mpr hw]
    rfl

/-- The decoder reads a message exactly from its own frame. -/
theorem stageResponse_eq_remoteError_iff {f message : List UInt8} :
    (stageResponse.run (Reader.new f)).1 = .remoteError message ↔
      message.length < 2 ^ 32 ∧ f = errorEncoding message := by
  rw [stageResponse_eq_iff (by simp)]
  constructor
  · rintro ⟨tag, w, rfl, -, hpayload⟩
    rw [stagePayload_run] at hpayload
    split at hpayload
    · cases hparse : (parserOf decodeValue).complete w <;> simp_all
    · have hparse : (parserOf Reader.raw).complete w = some message := by
        cases hparse : (parserOf Reader.raw).complete w <;> simp_all
      obtain ⟨hlen, rfl⟩ := Reader.reads_raw.complete_eq_some_iff.mp hparse
      exact ⟨hlen, rfl⟩
    · cases hpayload
  · rintro ⟨hlen, rfl⟩
    refine ⟨1, _, rfl, by norm_num, ?_⟩
    rw [stagePayload_run, Reader.reads_raw.complete_eq_some_iff.mpr ⟨hlen, rfl⟩]
    rfl

/-! ## The response codec as a whole -/

/-- What `try_decode_response` publishes is what it staged. -/
lemma tryDecodeResponse_eq (f : List UInt8) (result : Value) (error : List UInt8) :
    (∃ v, (stageResponse.run (Reader.new f)).1 = .ok v ∧
      tryDecodeResponse f result error = (.ok, v, error)) ∨
    (∃ m, (stageResponse.run (Reader.new f)).1 = .remoteError m ∧
      tryDecodeResponse f result error = (.remoteError, result, m)) ∨
    ((stageResponse.run (Reader.new f)).1 = .malformed ∧
      tryDecodeResponse f result error = (.malformed, result, error)) := by
  unfold tryDecodeResponse
  split <;> simp_all

/-- The frame of an encodable value is read back as that value, with its text owned. -/
lemma tryDecodeResponse_responseEncoding {v : Value} (h : v.Encodable) (result : Value)
    (error : List UInt8) :
    tryDecodeResponse (responseEncoding v) result error = (.ok, v.owned, error) := by
  have hstage : (stageResponse.run (Reader.new (responseEncoding v))).1 = .ok v.owned :=
    stageResponse_eq_ok_iff.mpr ⟨_, encoding_mem_valueWords h, rfl⟩
  rw [tryDecodeResponse, hstage]

/-- The frame of a message is read back as that message. -/
lemma tryDecodeResponse_errorEncoding {message : List UInt8} (h : message.length < 2 ^ 32)
    (result : Value) (error : List UInt8) :
    tryDecodeResponse (errorEncoding message) result error = (.remoteError, result, message) := by
  have hstage : (stageResponse.run (Reader.new (errorEncoding message))).1 =
      .remoteError message := stageResponse_eq_remoteError_iff.mpr ⟨h, rfl⟩
  rw [tryDecodeResponse, hstage]

/-- A client gets the value out of its frame. -/
lemma decodeResponse_responseEncoding {v : Value} (h : v.Encodable) :
    decodeResponse (responseEncoding v) = .ok v.owned := by
  rw [decodeResponse, tryDecodeResponse_responseEncoding h]
  rfl

/-- A client raises the message of an error frame. -/
lemma decodeResponse_errorEncoding {message : List UInt8} (h : message.length < 2 ^ 32) :
    decodeResponse (errorEncoding message) = .error (.remoteError message) := by
  rw [decodeResponse, tryDecodeResponse_errorEncoding h]
  rfl

/-- Whatever message was encoded is read back. -/
lemma encodeError_reads {message f : List UInt8} (h : encodeError message = .ok f)
    (result : Value) (error : List UInt8) :
    tryDecodeResponse f result error = (.remoteError, result, message) := by
  by_cases hlen : message.length < 2 ^ 32
  · rw [encodeError_eq hlen] at h
    cases h
    exact tryDecodeResponse_errorEncoding hlen result error
  · rw [encodeError_raises (Nat.le_of_not_lt hlen)] at h
    cases h

/-- The response frames are the disjoint sum of values and messages.  Every value and every
message that can be encoded is read back, and every frame is read as the value it encodes up
to the normalisation of a boolean, as the message it encodes, or as malformed; only what was
read is published. -/
theorem tryDecodeResponse_disjointSum :
    (∀ (v : Value) (result : Value) (error : List UInt8), v.stringSize < 2 ^ 32 →
      ∃ f, encodeResponse v = .ok f ∧
        tryDecodeResponse f result error = (.ok, v.owned, error)) ∧
    (∀ (message : List UInt8) (result : Value) (error : List UInt8), message.length < 2 ^ 32 →
      ∃ f, encodeError message = .ok f ∧
        tryDecodeResponse f result error = (.remoteError, result, message)) ∧
    ∀ (f : List UInt8) (result : Value) (error : List UInt8),
      (∃ v, ∃ word ∈ valueGrammar, f = responseHeader 0 ++ word ∧
        encodeResponse v = .ok (responseHeader 0 ++ normaliseBoolean word) ∧
        tryDecodeResponse f result error = (.ok, v, error)) ∨
      (∃ message, encodeError message = .ok f ∧
        tryDecodeResponse f result error = (.remoteError, result, message)) ∨
      ((∀ word ∈ valueGrammar, f ≠ responseHeader 0 ++ word) ∧
        (∀ message, encodeError message ≠ .ok f) ∧
        tryDecodeResponse f result error = (.malformed, result, error)) := by
  refine ⟨fun v result error h => ?_, fun message result error h => ?_,
    fun f result error => ?_⟩
  · exact ⟨_, encodeResponse_eq h, tryDecodeResponse_responseEncoding h result error⟩
  · exact ⟨_, encodeError_eq h, tryDecodeResponse_errorEncoding h result error⟩
  · rcases tryDecodeResponse_eq f result error with
      ⟨v, hstage, hread⟩ | ⟨message, hstage, hread⟩ | ⟨hstage, hread⟩
    · obtain ⟨w, hw, rfl⟩ := stageResponse_eq_ok_iff.mp hstage
      refine .inl ⟨v, w, mem_valueGrammar_iff.mpr ⟨v, hw⟩, rfl, ?_, hread⟩
      rw [encodeResponse_eq (encodable_of_mem_valueWords hw).1, responseEncoding,
        normaliseBoolean_of_mem_valueWords hw]
    · obtain ⟨hlen, rfl⟩ := stageResponse_eq_remoteError_iff.mp hstage
      exact .inr (.inl ⟨message, encodeError_eq hlen, hread⟩)
    · refine .inr (.inr ⟨?_, ?_, hread⟩)
      · rintro w hw rfl
        obtain ⟨v, hv⟩ := mem_valueGrammar_iff.mp hw
        have hok := stageResponse_eq_ok_iff.mpr ⟨w, hv, rfl⟩
        rw [hstage] at hok
        cases hok
      · intro message hmessage
        have hread' := encodeError_reads hmessage result error
        rw [hread] at hread'
        cases hread'

end Dynabridge.Rpc
