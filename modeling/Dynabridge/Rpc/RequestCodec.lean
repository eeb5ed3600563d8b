import Dynabridge.Rpc.WireFormat

/-!
# Requests on the wire

`Request.encoding` is the frame of a request: a header of seventeen bytes and the words of
the arguments.  `encodeRequest` produces it whenever the argument count, the strings and the
whole frame have sizes the code can represent (`encodeRequest_eq`), and raises otherwise
(`encodeRequest_raises`).  The variadic encoder agrees with it.

On the way back, `requestWords r` are the frames that denote `r`.
`stageRequest_eq_some_iff` says that the decoder accepts exactly those;
`requestGrammar` is the same set of frames described without values.
-/

namespace Dynabridge.Rpc

open LittleEndian PrefixParser

/-- The bytes of a request frame before its arguments. -/
def requestHeader (method : UInt64) (argc : ℕ) : List UInt8 :=
  littleEndian 4 requestMagic ++ littleEndian 1 protocolVersion ++
    littleEndian 8 method.toNat ++ littleEndian 4 argc

@[simp] lemma length_requestHeader (method : UInt64) (argc : ℕ) :
    (requestHeader method argc).length = 17 := by
  simp [requestHeader]

/-- The words of an argument list, one after the other. -/
def argsEncoding (args : List Value) : List UInt8 := (args.map Value.encoding).flatten

@[simp] lemma argsEncoding_nil : argsEncoding [] = [] := rfl

lemma argsEncoding_cons (arg : Value) (args : List Value) :
    argsEncoding (arg :: args) = arg.encoding ++ argsEncoding args := by
  simp [argsEncoding]

namespace Request

/-- The frame of a request. -/
def encoding (r : Request) : List UInt8 :=
  requestHeader r.method r.args.length ++ argsEncoding r.args

/-- The request a decoder can hand out: the same arguments, with owned texts. -/
def owned (r : Request) : Request := ⟨r.method, r.args.map Value.owned⟩

/-- A request whose argument count, texts and frame have sizes the code can represent. -/
structure Encodable (r : Request) : Prop where
  argc : r.args.length < 2 ^ 32
  args : ∀ arg ∈ r.args, arg.Encodable
  size : r.encoding.length < 2 ^ 64

lemma length_encoding (r : Request) : r.encoding.length = 17 + (argsEncoding r.args).length := by
  simp [encoding]

/-- Owning the texts does not change the frame. -/
@[simp] lemma encoding_owned (r : Request) : r.owned.encoding = r.encoding := by
  have hargs : argsEncoding (r.args.map Value.owned) = argsEncoding r.args := by
    rw [argsEncoding, List.map_map]
    exact congrArg List.flatten (List.map_congr_left fun arg _ => Value.encoding_owned arg)
  simp [encoding, owned, hargs]

end Request

/-! ## Encoding -/

/-- The loop and the pack expansion compute the same frame size. -/
lemma foldlM_eq_packFrameSize (start : ℕ) (args : List Value) :
    args.foldlM (fun frameSize arg => do checkedAdd frameSize (← encodedSize arg)) start =
      packFrameSize start args := by
  induction args generalizing start with
  | nil => rfl
  | cons arg args ih =>
    rw [List.foldlM_cons, packFrameSize]
    cases hsize : encodedSize arg with
    | error e => rfl
    | ok size =>
      cases hadd : checkedAdd start size with
      | error e => simp [hadd, bind, Except.bind]
      | ok total =>
        have hrest := ih total
        simpa [hadd, bind, Except.bind] using hrest

/-- The loop and the pack expansion write the same bytes. -/
lemma foldlM_eq_packEncodeValues (out : Writer) (args : List Value) :
    args.foldlM encodeValue out = packEncodeValues out args := by
  induction args generalizing out with
  | nil => rfl
  | cons arg args ih =>
    rw [List.foldlM_cons, packEncodeValues]
    exact congrArg _ (funext ih)

/-- The precomputed frame size is the length of the words, when it can be represented. -/
lemma packFrameSize_eq {start : ℕ} {args : List Value} (hargs : ∀ arg ∈ args, arg.Encodable)
    (hsize : start + (argsEncoding args).length < 2 ^ 64) :
    packFrameSize start args = .ok (start + (argsEncoding args).length) := by
  induction args generalizing start with
  | nil => rfl
  | cons arg args ih =>
    rw [List.forall_mem_cons] at hargs
    rw [argsEncoding_cons, List.length_append] at hsize
    rw [packFrameSize, encodedSize_eq hargs.1]
    have hstep : checkedAdd start arg.encoding.length = .ok (start + arg.encoding.length) :=
      checkedAdd_eq (by omega)
    have hrest : packFrameSize (start + arg.encoding.length) args =
        .ok (start + arg.encoding.length + (argsEncoding args).length) :=
      ih hargs.2 (by omega)
    have htotal : start + arg.encoding.length + (argsEncoding args).length =
        start + (argsEncoding (arg :: args)).length := by
      rw [argsEncoding_cons, List.length_append, Nat.add_assoc]
    simp only [bind, Except.bind, hstep, hrest, htotal]

/-- The frame size of encodable arguments that exceeds `std::size_t` raises. -/
lemma packFrameSize_overflow {start : ℕ} {args : List Value}
    (hargs : ∀ arg ∈ args, arg.Encodable) (hstart : start < 2 ^ 64)
    (hsize : 2 ^ 64 ≤ start + (argsEncoding args).length) :
    packFrameSize start args = .error (.protocolError (ascii "RPC frame size overflow")) := by
  induction args generalizing start with
  | nil =>
    simp only [argsEncoding_nil, List.length_nil] at hsize
    omega
  | cons arg args ih =>
    rw [List.forall_mem_cons] at hargs
    rw [argsEncoding_cons, List.length_append] at hsize
    rw [packFrameSize, encodedSize_eq hargs.1]
    by_cases hstep : start + arg.encoding.length < 2 ^ 64
    · have hrest : packFrameSize (start + arg.encoding.length) args =
          .error (.protocolError (ascii "RPC frame size overflow")) :=
        ih hargs.2 hstep (by omega)
      simp only [bind, Except.bind, checkedAdd_eq hstep, hrest]
    · simp only [bind, Except.bind, checkedAdd_overflow hstart (Nat.le_of_not_lt hstep)]

/-- An argument that cannot be encoded makes the frame size raise. -/
lemma packFrameSize_of_not_encodable {start : ℕ} {args : List Value} (hstart : start < 2 ^ 64)
    (hargs : ¬ ∀ arg ∈ args, arg.Encodable) :
    ∃ what, packFrameSize start args = .error (.protocolError what) := by
  induction args generalizing start with
  | nil => simp at hargs
  | cons arg args ih =>
    rw [packFrameSize]
    by_cases harg : arg.Encodable
    · have hrest : ¬ ∀ arg ∈ args, arg.Encodable := fun h =>
        hargs (List.forall_mem_cons.mpr ⟨harg, h⟩)
      rw [encodedSize_eq harg]
      by_cases hstep : start + arg.encoding.length < 2 ^ 64
      · obtain ⟨what, hwhat⟩ := ih hstep hrest
        exact ⟨what, by simp only [bind, Except.bind, checkedAdd_eq hstep, hwhat]⟩
      · refine ⟨ascii "RPC frame size overflow", ?_⟩
        simp only [bind, Except.bind, checkedAdd_overflow hstart (Nat.le_of_not_lt hstep)]
    · exact ⟨ascii "RPC string is too large", by rw [encodedSize_of_not_encodable harg]; rfl⟩

/-- The argument words are appended one after the other. -/
lemma packEncodeValues_eq (out : Writer) {args : List Value}
    (hargs : ∀ arg ∈ args, arg.Encodable) :
    packEncodeValues out args = .ok { out with data := out.data ++ argsEncoding args } := by
  induction args generalizing out with
  | nil =>
    rw [packEncodeValues, argsEncoding_nil, List.append_nil]
    rfl
  | cons arg args ih =>
    rw [List.forall_mem_cons] at hargs
    rw [packEncodeValues, encodeValue_eq _ hargs.1]
    simp only [bind, Except.bind]
    rw [ih _ hargs.2, argsEncoding_cons, List.append_assoc]

/-- The variadic encoder computes what the encoder of an argument vector computes, on every
argument list it can be instantiated at. -/
theorem encodeRequestValues_eq_encodeRequest (method : UInt64) {args : List Value}
    (hargc : args.length ≤ uint32Max) :
    encodeRequestValues method args = encodeRequest method args := by
  have hguard : ¬ args.length > uint32Max := by omega
  rw [encodeRequest, encodeRequestValues, requestFrameSize, foldlM_eq_packFrameSize,
    if_neg hguard]
  simp only [foldlM_eq_packEncodeValues]

/-- The frame size of an encodable request is the length of its frame. -/
theorem requestFrameSize_eq {r : Request} (h : r.Encodable) :
    requestFrameSize r.args = .ok r.encoding.length := by
  have hsize := h.size
  rw [r.length_encoding] at hsize ⊢
  rw [requestFrameSize, foldlM_eq_packFrameSize, packFrameSize_eq h.args hsize]

/-- The encoder produces the frame of an encodable request. -/
theorem encodeRequest_eq {r : Request} (h : r.Encodable) :
    encodeRequest r.method r.args = .ok r.encoding := by
  have hargc := h.argc
  have hguard : ¬ r.args.length > uint32Max := by
    unfold uint32Max
    omega
  rw [encodeRequest, if_neg hguard, requestFrameSize_eq h]
  simp only [foldlM_eq_packEncodeValues, Writer.integer_eq, packEncodeValues_eq _ h.args,
    Nat.mod_eq_of_lt hargc]
  rfl

/-- A frame that exceeds `std::size_t` raises. -/
lemma encodeRequest_overflow {r : Request} (hargc : r.args.length < 2 ^ 32)
    (hargs : ∀ arg ∈ r.args, arg.Encodable) (hsize : 2 ^ 64 ≤ r.encoding.length) :
    encodeRequest r.method r.args =
      .error (.protocolError (ascii "RPC frame size overflow")) := by
  have hguard : ¬ r.args.length > uint32Max := by
    unfold uint32Max
    omega
  rw [r.length_encoding] at hsize
  rw [encodeRequest, if_neg hguard, requestFrameSize, foldlM_eq_packFrameSize,
    packFrameSize_overflow hargs (by norm_num) hsize]
  rfl

/-- Every request that is not encodable raises. -/
theorem encodeRequest_raises {r : Request} (h : ¬ r.Encodable) :
    ∃ what, encodeRequest r.method r.args = .error (.protocolError what) := by
  by_cases hargc : r.args.length < 2 ^ 32
  · by_cases hargs : ∀ arg ∈ r.args, arg.Encodable
    · have hsize : ¬ r.encoding.length < 2 ^ 64 := fun hs => h ⟨hargc, hargs, hs⟩
      exact ⟨_, encodeRequest_overflow hargc hargs (Nat.le_of_not_lt hsize)⟩
    · have hguard : ¬ r.args.length > uint32Max := by
        unfold uint32Max
        omega
      obtain ⟨what, hwhat⟩ : ∃ what, packFrameSize 17 r.args = .error (.protocolError what) :=
        packFrameSize_of_not_encodable (by norm_num) hargs
      refine ⟨what, ?_⟩
      rw [encodeRequest, if_neg hguard, requestFrameSize, foldlM_eq_packFrameSize, hwhat]
      rfl
  · have hguard : r.args.length > uint32Max := by
      unfold uint32Max
      omega
    exact ⟨_, by rw [encodeRequest, if_pos hguard]; rfl⟩

/-! ## Decoding -/

/-- The frames that denote a request. -/
def requestWords (r : Request) : Language UInt8 :=
  {f | r.args.length < 2 ^ 32 ∧ ∃ body ∈ (r.args.map valueWords).prod,
    f = requestHeader r.method r.args.length ++ body}

/-- The frames of the request format: magic, version, an eight-byte method, a four-byte
count, and that many value encodings. -/
def requestGrammar : Language UInt8 :=
  {f | ∃ method count body : List UInt8, method.length = 8 ∧ count.length = 4 ∧
    body ∈ valueGrammar ^ ofLittleEndian count ∧
    f = littleEndian 4 requestMagic ++ littleEndian 1 protocolVersion ++ method ++ count ++ body}

/-- The argument loop is the repetition of `decode_value`. -/
lemma decodeArguments_run (count : ℕ) (args : List Value) (s : List UInt8) :
    (∃ items rest, (parserOf decodeValue).many count s = some (items, rest) ∧
      (decodeArguments count args).run ⟨s, true⟩ = (some (args ++ items), ⟨rest, true⟩)) ∨
    ((parserOf decodeValue).many count s = none ∧
      ((decodeArguments count args).run ⟨s, true⟩).1 = none) := by
  induction count generalizing args s with
  | zero => exact .inl ⟨[], s, rfl, by rw [List.append_nil]; rfl⟩
  | succ count ih =>
    rcases hitem : decodeValue.run ⟨s, true⟩ with ⟨item, mid, valid⟩
    have hunfold : (decodeArguments (count + 1) args).run ⟨s, true⟩ =
        if valid then (decodeArguments count (args ++ [item])).run ⟨mid, valid⟩
        else (none, ⟨mid, valid⟩) := by
      rw [decodeArguments]
      simp only [StateT.run_bind, hitem]
      cases valid <;> rfl
    have hparse : parserOf decodeValue s = if valid then some (item, mid) else none := by
      rw [parserOf, hitem]
    cases valid with
    | false =>
      refine .inr ⟨?_, by rw [hunfold]; rfl⟩
      simp [Parser.many, Parser.bind, hparse]
    | true =>
      rcases ih (args ++ [item]) mid with ⟨items, rest, hmany, hrun⟩ | ⟨hmany, hrun⟩
      · refine .inl ⟨item :: items, rest, ?_, ?_⟩
        · simp [Parser.many, Parser.bind, Parser.pure, hparse, hmany]
        · rw [hunfold, if_pos rfl, hrun, List.append_assoc, List.singleton_append]
      · refine .inr ⟨?_, by rw [hunfold, if_pos rfl]; exact hrun⟩
        simp [Parser.many, Parser.bind, hparse, hmany]

/-- Every value takes at least one byte, so a list of them is no longer than its words. -/
lemma length_le_of_mem_prod {args : List Value} {body : List UInt8}
    (h : body ∈ (args.map valueWords).prod) : args.length ≤ body.length := by
  induction args generalizing body with
  | nil => simp
  | cons arg args ih =>
    rw [List.map_cons, List.prod_cons, Language.mem_mul] at h
    obtain ⟨_, ⟨kind, payload, -, rfl⟩, rest, hrest, rfl⟩ := h
    have hlen := ih hrest
    simp only [List.length_cons, List.length_append]
    omega

/-- The part of `try_decode_request` after the header. -/
def stageArguments (method : UInt64) (argc : ℕ) : StateM Reader (Option Request) := do
  if !(← get).valid || argc > (← get).remaining then return none
  let some args ← decodeArguments argc [] | return none
  if !(← get).valid || !(← get).empty then return none
  return some ⟨method, args⟩

lemma stageRequest_eq_bind :
    stageRequest = (do
      if (← Reader.integer 4) != requestMagic then return none
      if (← Reader.integer 1) != protocolVersion then return none
      let method := UInt64.ofNat (← Reader.integer 8)
      let argc ← Reader.integer 4
      stageArguments method argc) := rfl

/-- The arguments of a request are the given number of values and nothing after them.  Asking
first whether there are as many bytes as arguments rejects nothing else. -/
lemma stageArguments_run_eq_some_iff {method : UInt64} {argc : ℕ} {s : List UInt8}
    {r : Request} :
    ((stageArguments method argc).run ⟨s, true⟩).1 = some r ↔
      r.method = method ∧ r.args.length = argc ∧ s ∈ (r.args.map valueWords).prod := by
  have hmany := Reads.many reads_decodeValue argc
  have hguard : ((stageArguments method argc).run ⟨s, true⟩).1 =
      if s.length < argc then none
      else (((parserOf decodeValue).many argc).complete s).map fun args => ⟨method, args⟩ := by
    by_cases hlen : s.length < argc
    · simp only [stageArguments, Reader.run_bind, Reader.run_get, Reader.run_pure,
        Reader.remaining, hlen, gt_iff_lt, decide_true, Bool.or_true, if_true]
    · simp only [stageArguments, Reader.run_bind, Reader.run_get, Reader.remaining, hlen,
        gt_iff_lt, decide_false, Bool.not_true, Bool.or_self, Bool.false_eq_true, if_false]
      rcases decodeArguments_run argc [] s with ⟨items, rest, hparse, hrun⟩ | ⟨hparse, hrun⟩
      · rw [hrun, Parser.complete, hparse]
        cases rest with
        | nil => rfl
        | cons b rest => rfl
      · rw [hrun, Parser.complete, hparse]
        rfl
  rw [hguard]
  constructor
  · intro h
    split at h
    · cases h
    · obtain ⟨args, hargs, rfl⟩ := Option.map_eq_some_iff.mp h
      obtain ⟨hlen, hwords⟩ := hmany.complete_eq_some_iff.mp hargs
      exact ⟨rfl, hlen, hwords⟩
  · rintro ⟨hmethod, hlen, hwords⟩
    have hle := length_le_of_mem_prod hwords
    rw [if_neg (by omega), hmany.complete_eq_some_iff.mpr ⟨hlen, hwords⟩, ← hmethod]
    rfl

/-- The decoder accepts exactly the frames that denote a request. -/
theorem stageRequest_eq_some_iff {f : List UInt8} {r : Request} :
    (stageRequest.run (Reader.new f)).1 = some r ↔ f ∈ requestWords r := by
  have hreject : none ≠ some r := Option.some_ne_none r |>.symm
  have hargc : ∀ method n s, ((stageArguments method n).run ⟨s, false⟩).1 ≠ some r :=
    fun _ _ _ => hreject
  have hmethod : ∀ n s, ((do
      let argc ← Reader.integer 4
      stageArguments (UInt64.ofNat n) argc).run ⟨s, false⟩).1 ≠ some r := by
    intro n s
    rw [Reader.run_bind, Reader.integer_run_invalid]
    exact hreject
  rw [stageRequest_eq_bind, Reader.new,
    Reader.run_expect_eq_iff (by decide) (by decide) hreject]
  constructor
  · rintro ⟨f, rfl, hrest⟩
    obtain ⟨f, rfl, hfields⟩ :=
      (Reader.run_expect_eq_iff (by decide) (by decide) hreject).mp hrest
    obtain ⟨method, f, rfl, hm, htail⟩ := (Reader.run_integer_bind_eq_iff hmethod).mp hfields
    obtain ⟨count, body, rfl, hc, hargs⟩ := (Reader.run_integer_bind_eq_iff (hargc _)).mp htail
    obtain ⟨heq, hlen, hbody⟩ := stageArguments_run_eq_some_iff.mp hargs
    have hlt := ofLittleEndian_lt count
    rw [hc, ← hlen] at hlt
    have hword : littleEndian 4 r.args.length = count := by
      rw [hlen, ← hc, littleEndian_ofLittleEndian]
    refine ⟨by norm_num at hlt ⊢; exact hlt, body, hbody, ?_⟩
    rw [requestHeader, heq, littleEndian_ofNat_toNat hm, hword]
    simp only [List.append_assoc]
  · rintro ⟨hlen, body, hbody, rfl⟩
    have hcount : ofLittleEndian (littleEndian 4 r.args.length) = r.args.length :=
      ofLittleEndian_littleEndian (by norm_num; exact hlen)
    simp only [requestHeader, List.append_assoc]
    refine ⟨_, rfl, (Reader.run_expect_eq_iff (by decide) (by decide) hreject).mpr
      ⟨_, rfl, (Reader.run_integer_bind_eq_iff hmethod).mpr
        ⟨_, _, rfl, length_littleEndian _ _, (Reader.run_integer_bind_eq_iff (hargc _)).mpr
          ⟨_, _, rfl, length_littleEndian _ _, ?_⟩⟩⟩⟩
    rw [hcount, ofLittleEndian_littleEndian (toNat_lt_width _), UInt64.ofNat_toNat]
    exact stageArguments_run_eq_some_iff.mpr ⟨rfl, rfl, hbody⟩

/-- Acceptance, in terms of the caller's request. -/
lemma tryDecodeRequest_eq_true_iff {f : List UInt8} {result r : Request} :
    tryDecodeRequest f result = (true, r) ↔ f ∈ requestWords r := by
  rw [← stageRequest_eq_some_iff, tryDecodeRequest]
  split <;> simp_all

/-- A rejected frame leaves the caller's request as it was. -/
lemma tryDecodeRequest_of_rejected {f : List UInt8} {result : Request}
    (h : (tryDecodeRequest f result).1 = false) : (tryDecodeRequest f result).2 = result := by
  unfold tryDecodeRequest at h ⊢
  split at h <;> simp_all

/-! ## The words of an argument list -/

/-- A word of an argument list is one word for each argument. -/
lemma mem_prod_valueWords_iff {args : List Value} {body : List UInt8} :
    body ∈ (args.map valueWords).prod ↔
      ∃ words, List.Forall₂ (fun arg w => w ∈ valueWords arg) args words ∧
        body = words.flatten := by
  induction args generalizing body with
  | nil =>
    rw [List.map_nil, List.prod_nil, Language.mem_one]
    constructor
    · rintro rfl
      exact ⟨[], .nil, rfl⟩
    · rintro ⟨words, hwords, rfl⟩
      cases hwords
      rfl
  | cons arg args ih =>
    rw [List.map_cons, List.prod_cons, Language.mem_mul]
    constructor
    · rintro ⟨w, hw, rest, hrest, rfl⟩
      obtain ⟨words, hwords, rfl⟩ := ih.mp hrest
      exact ⟨w :: words, .cons hw hwords, rfl⟩
    · rintro ⟨_, hwords, rfl⟩
      cases hwords with
      | cons hw hrest => exact ⟨_, hw, _, ih.mpr ⟨_, hrest, rfl⟩, rfl⟩

/-- The canonical words of encodable arguments denote the arguments, with owned texts. -/
lemma argsEncoding_mem {args : List Value} (hargs : ∀ arg ∈ args, arg.Encodable) :
    argsEncoding args ∈ ((args.map Value.owned).map valueWords).prod := by
  induction args with
  | nil => exact Language.nil_mem_one
  | cons arg args ih =>
    rw [List.forall_mem_cons] at hargs
    rw [argsEncoding_cons, List.map_cons, List.map_cons, List.prod_cons]
    exact Language.append_mem_mul (encoding_mem_valueWords hargs.1) (ih hargs.2)

/-- The frame of an encodable request denotes it, with owned texts. -/
theorem encoding_mem_requestWords {r : Request} (h : r.Encodable) :
    r.encoding ∈ requestWords r.owned := by
  have hlen : r.owned.args.length = r.args.length := List.length_map _
  refine ⟨by rw [hlen]; exact h.argc, argsEncoding r.args, argsEncoding_mem h.args, ?_⟩
  rw [hlen]
  rfl

/-- Words that denote arguments are their canonical words up to boolean payloads, and the
arguments are encodable. -/
lemma canonical_of_forall₂ {args : List Value} {words : List (List UInt8)}
    (h : List.Forall₂ (fun arg w => w ∈ valueWords arg) args words) :
    (words.map normaliseBoolean).flatten = argsEncoding args ∧
      ∀ arg ∈ args, arg.Encodable := by
  induction h with
  | nil => exact ⟨rfl, by simp⟩
  | cons hw _ ih =>
    refine ⟨?_, List.forall_mem_cons.mpr ⟨(encodable_of_mem_valueWords hw).1, ih.2⟩⟩
    rw [List.map_cons, List.flatten_cons, ih.1, normaliseBoolean_of_mem_valueWords hw,
      argsEncoding_cons]

/-- Normalising words does not change their total length. -/
lemma length_flatten_normaliseBoolean (words : List (List UInt8)) :
    (words.map normaliseBoolean).flatten.length = words.flatten.length := by
  induction words with
  | nil => rfl
  | cons w words ih => simp [ih]

/-- Lists of value encodings are the words of some argument list. -/
lemma forall_mem_valueGrammar_iff {words : List (List UInt8)} :
    (∀ w ∈ words, w ∈ valueGrammar) ↔
      ∃ args, List.Forall₂ (fun arg w => w ∈ valueWords arg) args words := by
  induction words with
  | nil =>
    constructor
    · intro _
      exact ⟨[], .nil⟩
    · intro _
      simp
  | cons w words ih =>
    rw [List.forall_mem_cons, ih, mem_valueGrammar_iff]
    constructor
    · rintro ⟨⟨v, hv⟩, args, hargs⟩
      exact ⟨v :: args, .cons hv hargs⟩
    · rintro ⟨_, h⟩
      cases h with
      | cons hw hrest => exact ⟨⟨_, hw⟩, _, hrest⟩

/-- The frames of the request format are the frames that denote some request. -/
theorem mem_requestGrammar_iff {f : List UInt8} :
    f ∈ requestGrammar ↔ ∃ r, f ∈ requestWords r := by
  constructor
  · rintro ⟨method, count, body, hmethod, hcount, hbody, rfl⟩
    obtain ⟨words, rfl, hlen, hwords⟩ := Language.mem_pow.mp hbody
    obtain ⟨args, hargs⟩ := forall_mem_valueGrammar_iff.mp hwords
    have hargc : args.length = ofLittleEndian count := hargs.length_eq.trans hlen
    have hlt := ofLittleEndian_lt count
    rw [hcount, ← hargc] at hlt
    refine ⟨⟨UInt64.ofNat (ofLittleEndian method), args⟩, ?_, words.flatten,
      mem_prod_valueWords_iff.mpr ⟨words, hargs, rfl⟩, ?_⟩
    · norm_num at hlt ⊢
      exact hlt
    · have hword : littleEndian 4 args.length = count := by
        rw [hargc, ← hcount, littleEndian_ofLittleEndian]
      rw [requestHeader, littleEndian_ofNat_toNat hmethod, hword]
  · rintro ⟨r, hargc, body, hbody, rfl⟩
    obtain ⟨words, hwords, rfl⟩ := mem_prod_valueWords_iff.mp hbody
    have hcount : ofLittleEndian (littleEndian 4 r.args.length) = r.args.length :=
      ofLittleEndian_littleEndian (by norm_num; exact hargc)
    refine ⟨littleEndian 8 r.method.toNat, littleEndian 4 r.args.length, words.flatten,
      length_littleEndian _ _, length_littleEndian _ _, ?_, rfl⟩
    rw [hcount]
    exact Language.mem_pow.mpr ⟨words, rfl, hwords.length_eq.symm,
      forall_mem_valueGrammar_iff.mpr ⟨_, hwords⟩⟩

/-! ## The request codec as a whole -/

/-- The frame of a request whose arguments are all the same text. -/
lemma length_encoding_replicate (method : UInt64) (argc : ℕ) (text : List UInt8) :
    (⟨method, List.replicate argc (.borrowedString text)⟩ : Request).encoding.length =
      17 + argc * (5 + text.length) := by
  have hword : (Value.borrowedString text).encoding.length = 5 + text.length := by
    simp [Value.encoding, Value.payload]
    omega
  rw [Request.length_encoding, argsEncoding, List.map_replicate, List.length_flatten,
    List.map_replicate, hword, List.sum_replicate, smul_eq_mul]

/-- The decoder accepts exactly the frames of the request format.  Encoding an accepted
request again gives back its frame, with every boolean payload normalised. -/
theorem tryDecodeRequest_accepts_grammar (f : Bytes) :
    (∀ result, (tryDecodeRequest f.val result).1 = true ↔ f.val ∈ requestGrammar) ∧
    ∀ result r, tryDecodeRequest f.val result = (true, r) →
      ∃ (header : List UInt8) (words : List (List UInt8)), header.length = 17 ∧
        words.length = r.args.length ∧ (∀ w ∈ words, w ∈ valueGrammar) ∧
        f.val = header ++ words.flatten ∧
        encodeRequest r.method r.args = .ok (header ++ (words.map normaliseBoolean).flatten) ∧
        (header ++ (words.map normaliseBoolean).flatten).length = f.val.length := by
  constructor
  · intro result
    rw [mem_requestGrammar_iff]
    constructor
    · intro h
      exact ⟨_, tryDecodeRequest_eq_true_iff.mp (Prod.ext h rfl)⟩
    · rintro ⟨r, hr⟩
      rw [tryDecodeRequest_eq_true_iff.mpr hr]
  · intro result r h
    obtain ⟨hargc, body, hbody, hf⟩ := tryDecodeRequest_eq_true_iff.mp h
    obtain ⟨words, hwords, rfl⟩ := mem_prod_valueWords_iff.mp hbody
    obtain ⟨hcanonical, hargs⟩ := canonical_of_forall₂ hwords
    have hlength : (requestHeader r.method r.args.length ++
        (words.map normaliseBoolean).flatten).length = f.val.length := by
      rw [hf, List.length_append, List.length_append, length_flatten_normaliseBoolean]
    have henc : r.Encodable := by
      refine ⟨hargc, hargs, ?_⟩
      have hbound := f.property
      rw [Request.encoding, ← hcanonical, hlength]
      unfold sizeMax at hbound
      omega
    refine ⟨requestHeader r.method r.args.length, words, length_requestHeader _ _,
      hwords.length_eq.symm, forall_mem_valueGrammar_iff.mpr ⟨_, hwords⟩, hf, ?_, hlength⟩
    rw [encodeRequest_eq henc, Request.encoding, hcanonical]

/-! ## Prefix freedom -/

/-- The header determines the argument count it was written with. -/
lemma requestHeader_argc_inj {method method' : UInt64} {argc argc' : ℕ} (hargc : argc < 2 ^ 32)
    (hargc' : argc' < 2 ^ 32) (h : requestHeader method argc = requestHeader method' argc') :
    argc = argc' := by
  have hcount : littleEndian 4 argc = littleEndian 4 argc' := by
    unfold requestHeader at h
    exact List.append_inj_right' h (by rw [length_littleEndian, length_littleEndian])
  have hread : ∀ {n : ℕ}, n < 2 ^ 32 → ofLittleEndian (littleEndian 4 n) = n := fun hn =>
    ofLittleEndian_littleEndian (by norm_num; exact hn)
  calc argc = ofLittleEndian (littleEndian 4 argc) := (hread hargc).symm
    _ = ofLittleEndian (littleEndian 4 argc') := by rw [hcount]
    _ = argc' := hread hargc'

/-- A frame of the format that continues another frame of the format adds nothing to it: the
header fixes the number of values, and the values are read one after the other. -/
theorem requestWords_prefix_free {r s : Request} {f tail : List UInt8} (hf : f ∈ requestWords r)
    (htail : f ++ tail ∈ requestWords s) : tail = [] := by
  obtain ⟨hargc, body, hbody, rfl⟩ := hf
  obtain ⟨hargc', body', hbody', heq⟩ := htail
  rw [List.append_assoc] at heq
  obtain ⟨hheader, hrest⟩ := List.append_inj heq
    (by rw [length_requestHeader, length_requestHeader])
  have hlen : r.args.length = s.args.length := requestHeader_argc_inj hargc hargc' hheader
  have hreads := Reads.many reads_decodeValue s.args.length
  have hend : body ++ tail = body' ++ [] := by rw [hrest, List.append_nil]
  exact (hreads.append_inj ⟨hlen, hbody⟩ ⟨rfl, hbody'⟩ hend).2.2

/-- A decoder call that does not accept is a rejection that leaves the caller's request. -/
lemma tryDecodeRequest_eq_false {f : List UInt8} {result : Request}
    (h : ∀ r, f ∉ requestWords r) : tryDecodeRequest f result = (false, result) := by
  have hrejected : (tryDecodeRequest f result).1 = false := by
    rw [← Bool.not_eq_true]
    intro haccepted
    exact h _ (tryDecodeRequest_eq_true_iff.mp (Prod.ext haccepted rfl))
  exact Prod.ext hrejected (tryDecodeRequest_of_rejected hrejected)

/-- Around an accepted frame every proper prefix and every proper extension is rejected, and
no rejected call touches the caller's request. -/
theorem tryDecodeRequest_prefix_free {f : List UInt8} {result : Request}
    (h : (tryDecodeRequest f result).1 = true) :
    (∀ g caller, g <+: f → g ≠ f → tryDecodeRequest g caller = (false, caller)) ∧
    (∀ tail caller, tail ≠ [] → tryDecodeRequest (f ++ tail) caller = (false, caller)) ∧
    ∀ g caller, (tryDecodeRequest g caller).1 = false →
      (tryDecodeRequest g caller).2 = caller := by
  have hf : f ∈ requestWords (tryDecodeRequest f result).2 :=
    tryDecodeRequest_eq_true_iff.mp (Prod.ext h rfl)
  refine ⟨?_, ?_, fun _ _ => tryDecodeRequest_of_rejected⟩
  · rintro g caller ⟨tail, rfl⟩ hproper
    apply tryDecodeRequest_eq_false
    intro r hg
    have hnil := requestWords_prefix_free hg hf
    rw [hnil, List.append_nil] at hproper
    exact hproper rfl
  · intro tail caller htail
    apply tryDecodeRequest_eq_false
    intro r hr
    exact htail (requestWords_prefix_free hf hr)

/-- A request with one text argument, cut inside the text and followed by a further byte. -/
theorem tryDecodeRequest_prefix_free_text :
    tryDecodeRequest (Request.encoding ⟨7, [.string (ascii "hi")]⟩ |>.take 22) ⟨1, []⟩ =
        (false, ⟨1, []⟩) ∧
      tryDecodeRequest (Request.encoding ⟨7, [.string (ascii "hi")]⟩ ++ [0]) ⟨1, []⟩ =
        (false, ⟨1, []⟩) := by
  have haccepted : (tryDecodeRequest (Request.encoding ⟨7, [.string (ascii "hi")]⟩)
      ⟨1, []⟩).1 = true := by decide
  have hfree := tryDecodeRequest_prefix_free haccepted
  exact ⟨hfree.1 _ _ (List.take_prefix _ _) (by decide), hfree.2.1 _ _ (by decide)⟩

end Dynabridge.Rpc
