import Dynabridge.Rpc.Codec

/-!
# The wire format of values

The words a value can have on the wire, and the agreement of the codec with them.
`valueWords v` are the words that denote `v`; they differ from the canonical word
`Value.encoding` only in the payload byte of a boolean, where every non-zero byte denotes
`true`.  `valueGrammar` is the language of all of them, described without values.

`encodeValue` appends the canonical word (`encodeValue_eq`), `encodedSize` is its length
(`encodedSize_eq`), and `decodeValue` reads exactly `valueWords` (`reads_decodeValue`).
-/

namespace Dynabridge.Rpc

open LittleEndian PrefixParser

/-- The kind byte of an encoded value. -/
def ValueKind.toByte (kind : ValueKind) : UInt8 := UInt8.ofNat kind.toNat

@[simp] lemma ValueKind.ofByte_toNat (kind : ValueKind) : ofByte kind.toNat = some kind := by
  cases kind <;> rfl

/-- A kind byte is cast to the enumerator with that number. -/
lemma ValueKind.ofByte_eq_some_iff {n : ℕ} {kind : ValueKind} :
    ofByte n = some kind ↔ n = kind.toNat := by
  constructor
  · intro h
    unfold ofByte at h
    split at h <;> simp_all only [Option.some.injEq, reduceCtorEq] <;> subst h <;> rfl
  · rintro rfl
    exact ofByte_toNat kind

lemma ValueKind.toNat_lt (kind : ValueKind) : kind.toNat < 256 := by
  cases kind <;> decide

@[simp] lemma ValueKind.toNat_toByte (kind : ValueKind) : kind.toByte.toNat = kind.toNat := by
  cases kind <;> rfl

/-! ## Words of a value -/

/-- The payloads a kind byte can be followed by. -/
def payloadGrammar : ValueKind → Language UInt8
  | .undefined => {w | w = []}
  | .signedInteger | .unsignedInteger | .real => {w | w.length = 8}
  | .boolean => {w | w.length = 1}
  | .string => {w | ∃ text : List UInt8, text.length < 2 ^ 32 ∧
      w = littleEndian 4 text.length ++ text}

/-- The well-formed value encodings: a kind byte and a payload of that kind. -/
def valueGrammar : Language UInt8 :=
  {w | ∃ (kind : ValueKind) (payload : List UInt8), payload ∈ payloadGrammar kind ∧
    w = kind.toByte :: payload}

/-- The payloads that denote a value after a given kind byte. -/
def payloadWords : ValueKind → Value → Language UInt8
  | .undefined, v => {w | w = [] ∧ v = .undefined}
  | .signedInteger, v =>
      {w | w.length = 8 ∧ v = .signedInteger (UInt64.ofNat (ofLittleEndian w)).toInt64}
  | .unsignedInteger, v =>
      {w | w.length = 8 ∧ v = .unsignedInteger (UInt64.ofNat (ofLittleEndian w))}
  | .real, v => {w | w.length = 8 ∧ v = .real (UInt64.ofNat (ofLittleEndian w))}
  | .boolean, v => {w | w.length = 1 ∧ v = .boolean (ofLittleEndian w != 0)}
  | .string, v => {w | ∃ text : List UInt8, text.length < 2 ^ 32 ∧
      w = littleEndian 4 text.length ++ text ∧ v = .string text}

/-- The words that denote a value. -/
def valueWords (v : Value) : Language UInt8 :=
  {w | ∃ (kind : ValueKind) (payload : List UInt8), payload ∈ payloadWords kind v ∧
    w = kind.toByte :: payload}

/-- The payload the encoder writes for a value. -/
def Value.payload : Value → List UInt8
  | undefined => []
  | signedInteger number => littleEndian 8 number.toUInt64.toNat
  | unsignedInteger number => littleEndian 8 number.toNat
  | real bits => littleEndian 8 bits.toNat
  | boolean state => [if state then 1 else 0]
  | string text => littleEndian 4 text.length ++ text
  | borrowedString text => littleEndian 4 text.length ++ text

/-- The word the encoder writes for a value. -/
def Value.encoding (v : Value) : List UInt8 := v.kind.toByte :: v.payload

/-- A value whose text, if any, has a length the four-byte prefix can hold. -/
def Value.Encodable (v : Value) : Prop := v.stringSize < 2 ^ 32

instance (v : Value) : Decidable v.Encodable := inferInstanceAs (Decidable (_ < _))

/-- Replace a non-zero boolean payload byte by one, and keep every other word. -/
def normaliseBoolean : List UInt8 → List UInt8
  | [kind, payload] =>
      if kind = ValueKind.boolean.toByte ∧ payload ≠ 0 then [kind, 1] else [kind, payload]
  | w => w

@[simp] lemma Value.encoding_owned (v : Value) : v.owned.encoding = v.encoding := by
  cases v <;> rfl

@[simp] lemma Value.encodable_owned {v : Value} : v.owned.Encodable ↔ v.Encodable := by
  simp [Value.Encodable]

/-- Replacing a boolean payload byte does not change the length. -/
@[simp] lemma length_normaliseBoolean (w : List UInt8) :
    (normaliseBoolean w).length = w.length := by
  unfold normaliseBoolean
  split
  · split <;> rfl
  · rfl

/-- A 64-bit number fits into eight bytes. -/
lemma toNat_lt_width (n : UInt64) : n.toNat < 256 ^ 8 := by
  have h := n.toNat_lt
  norm_num at h ⊢
  exact h

/-- Eight bytes are the word of the 64-bit number they denote. -/
lemma littleEndian_ofNat_toNat {w : List UInt8} (hlen : w.length = 8) :
    littleEndian 8 (UInt64.ofNat (ofLittleEndian w)).toNat = w := by
  have hlt : ofLittleEndian w < 2 ^ 64 := by
    have hbound := ofLittleEndian_lt w
    rw [hlen] at hbound
    norm_num at hbound ⊢
    exact hbound
  rw [UInt64.toNat_ofNat_of_lt' hlt, ← hlen, littleEndian_ofLittleEndian]

/-- The canonical word of an encodable value denotes the value, with its text owned. -/
theorem encoding_mem_valueWords {v : Value} (h : v.Encodable) :
    v.encoding ∈ valueWords v.owned := by
  refine ⟨v.kind, v.payload, ?_, rfl⟩
  cases v with
  | undefined => exact ⟨rfl, rfl⟩
  | signedInteger n =>
    refine ⟨length_littleEndian _ _, ?_⟩
    rw [Value.payload, ofLittleEndian_littleEndian (toNat_lt_width _), UInt64.ofNat_toNat]
    rfl
  | unsignedInteger n =>
    refine ⟨length_littleEndian _ _, ?_⟩
    rw [Value.payload, ofLittleEndian_littleEndian (toNat_lt_width _), UInt64.ofNat_toNat]
    rfl
  | real n =>
    refine ⟨length_littleEndian _ _, ?_⟩
    rw [Value.payload, ofLittleEndian_littleEndian (toNat_lt_width _), UInt64.ofNat_toNat]
    rfl
  | boolean b => cases b <;> exact ⟨rfl, rfl⟩
  | string text => exact ⟨text, h, rfl, rfl⟩
  | borrowedString text => exact ⟨text, h, rfl, rfl⟩

/-- Two booleans are told apart by their payload byte being zero. -/
lemma normaliseBoolean_boolean (b : UInt8) :
    normaliseBoolean [ValueKind.boolean.toByte, b] =
      (Value.boolean (b != 0)).encoding := by
  by_cases hb : b = 0
  · subst hb
    rfl
  · have hne : (b != 0) = true := by simpa using hb
    rw [hne, normaliseBoolean, if_pos ⟨rfl, hb⟩]
    rfl

/-- A word of another kind than boolean is left alone. -/
lemma normaliseBoolean_of_kind_ne {kind : ValueKind} (h : kind ≠ .boolean)
    (payload : List UInt8) :
    normaliseBoolean (kind.toByte :: payload) = kind.toByte :: payload := by
  have hbyte : kind.toByte ≠ ValueKind.boolean.toByte := by
    cases kind <;> first | exact absurd rfl h | decide
  match payload with
  | [] => rfl
  | [b] => exact if_neg fun hc => hbyte hc.1
  | _ :: _ :: _ => rfl

/-- A word that denotes a value is the canonical word of that value, up to the payload byte
of a boolean. -/
theorem normaliseBoolean_of_mem_valueWords {v : Value} {w : List UInt8}
    (h : w ∈ valueWords v) : normaliseBoolean w = v.encoding := by
  obtain ⟨kind, payload, hp, rfl⟩ := h
  cases kind with
  | undefined =>
    obtain ⟨rfl, rfl⟩ := hp
    rfl
  | signedInteger =>
    obtain ⟨hlen, rfl⟩ := hp
    rw [normaliseBoolean_of_kind_ne (by decide), Value.encoding, Value.payload]
    exact congrArg _ (littleEndian_ofNat_toNat hlen).symm
  | unsignedInteger =>
    obtain ⟨hlen, rfl⟩ := hp
    rw [normaliseBoolean_of_kind_ne (by decide), Value.encoding, Value.payload]
    exact congrArg _ (littleEndian_ofNat_toNat hlen).symm
  | real =>
    obtain ⟨hlen, rfl⟩ := hp
    rw [normaliseBoolean_of_kind_ne (by decide), Value.encoding, Value.payload]
    exact congrArg _ (littleEndian_ofNat_toNat hlen).symm
  | boolean =>
    obtain ⟨hlen, rfl⟩ := hp
    obtain ⟨b, rfl⟩ := List.length_eq_one_iff.mp hlen
    rw [normaliseBoolean_boolean, ofLittleEndian_cons, ofLittleEndian_nil]
    have hzero : (b != 0) = (b.toNat + 256 * 0 != 0) := by
      rw [Bool.eq_iff_iff]
      simp [← UInt8.toNat_inj]
    rw [hzero]
  | string =>
    obtain ⟨text, -, rfl, rfl⟩ := hp
    exact normaliseBoolean_of_kind_ne (by decide) _

/-- The well-formed value encodings are the words that denote some value. -/
theorem mem_valueGrammar_iff {w : List UInt8} :
    w ∈ valueGrammar ↔ ∃ v, w ∈ valueWords v := by
  constructor
  · rintro ⟨kind, payload, hp, rfl⟩
    cases kind with
    | undefined => exact ⟨_, .undefined, payload, ⟨hp, rfl⟩, rfl⟩
    | signedInteger => exact ⟨_, .signedInteger, payload, ⟨hp, rfl⟩, rfl⟩
    | unsignedInteger => exact ⟨_, .unsignedInteger, payload, ⟨hp, rfl⟩, rfl⟩
    | real => exact ⟨_, .real, payload, ⟨hp, rfl⟩, rfl⟩
    | boolean => exact ⟨_, .boolean, payload, ⟨hp, rfl⟩, rfl⟩
    | string =>
      obtain ⟨text, htext, rfl⟩ := hp
      exact ⟨_, .string, _, ⟨text, htext, rfl, rfl⟩, rfl⟩
  · rintro ⟨v, kind, payload, hp, rfl⟩
    refine ⟨kind, payload, ?_, rfl⟩
    cases kind with
    | undefined => exact hp.1
    | signedInteger | unsignedInteger | real | boolean => exact hp.1
    | string =>
      obtain ⟨text, htext, rfl, -⟩ := hp
      exact ⟨text, htext, rfl⟩

/-- What a word denotes has a text the length prefix can hold, and owns it. -/
lemma encodable_of_mem_valueWords {v : Value} {w : List UInt8} (h : w ∈ valueWords v) :
    v.Encodable ∧ v.owned = v := by
  obtain ⟨kind, payload, hp, -⟩ := h
  cases kind with
  | undefined =>
    obtain ⟨-, rfl⟩ := hp
    exact ⟨by decide, rfl⟩
  | signedInteger | unsignedInteger | real | boolean =>
    obtain ⟨-, rfl⟩ := hp
    exact ⟨by simp [Value.Encodable, Value.stringSize, Value.stringData], rfl⟩
  | string =>
    obtain ⟨text, htext, -, rfl⟩ := hp
    exact ⟨htext, rfl⟩

/-! ## The encoder writes the canonical word -/

/-- Writing an integer appends its little-endian bytes. -/
lemma Writer.integer_eq (out : Writer) (width number : ℕ) :
    out.integer width number = { out with data := out.data ++ littleEndian width number } := by
  have hloop : ∀ (l : List ℕ) (data : List UInt8),
      l.foldl (fun data i => data ++ [UInt8.ofNat (number >>> (i * 8))]) data =
        data ++ l.map fun i => UInt8.ofNat (number >>> (i * 8)) := by
    intro l
    induction l with
    | nil => simp
    | cons i l ih =>
      intro data
      rw [List.foldl_cons, ih, List.map_cons, List.append_assoc, List.singleton_append]
  rw [Writer.integer, hloop]
  rfl

/-- Writing a text whose length fits the prefix appends the prefix and the text. -/
lemma Writer.raw_eq (out : Writer) {text : List UInt8} (h : text.length < 2 ^ 32) :
    out.raw text =
      .ok { out with data := out.data ++ (littleEndian 4 text.length ++ text) } := by
  have hle : ¬ text.length > uint32Max := by
    unfold uint32Max
    omega
  rw [Writer.raw, if_neg hle, Writer.integer_eq, Nat.mod_eq_of_lt h]
  by_cases hnil : text = []
  · subst hnil
    rfl
  · rw [if_pos (by simpa using hnil), List.append_assoc]
    rfl

/-- The encoder appends the canonical word of an encodable value. -/
theorem encodeValue_eq (out : Writer) {v : Value} (h : v.Encodable) :
    encodeValue out v = .ok { out with data := out.data ++ v.encoding } := by
  have hkind : littleEndian 1 v.kind.toNat = [v.kind.toByte] := by
    rw [littleEndian_succ, littleEndian_zero]
    rfl
  rw [encodeValue, Writer.integer_eq, hkind]
  cases v with
  | undefined => rfl
  | signedInteger n | unsignedInteger n | real n =>
    simp [Value.kind, Writer.integer_eq, Value.encoding, Value.payload, pure, Except.pure]
  | boolean b =>
    cases b <;>
      simp [Value.kind, Writer.integer_eq, Value.encoding, Value.payload, littleEndian_succ, pure,
        Except.pure]
  | string text | borrowedString text =>
    have hlt : text.length < 2 ^ 32 := h
    simp only [Value.kind, Value.stringData]
    rw [Writer.raw_eq _ hlt, List.append_assoc]
    rfl

/-- A sum of sizes that stays within `std::size_t` is computed exactly. -/
lemma checkedAdd_eq {left right : ℕ} (h : left + right < 2 ^ 64) :
    checkedAdd left right = .ok (left + right) := by
  rw [checkedAdd, if_neg (by unfold sizeMax; omega)]
  rfl

/-- A sum of sizes that exceeds `std::size_t` raises. -/
lemma checkedAdd_overflow {left right : ℕ} (hl : left < 2 ^ 64) (h : 2 ^ 64 ≤ left + right) :
    checkedAdd left right = .error (.protocolError (ascii "RPC frame size overflow")) := by
  rw [checkedAdd, if_pos (by unfold sizeMax; omega)]
  rfl

/-- The precomputed size of an encodable value is the length of its canonical word. -/
theorem encodedSize_eq {v : Value} (h : v.Encodable) :
    encodedSize v = .ok v.encoding.length := by
  cases v with
  | undefined | boolean b => rfl
  | signedInteger n | unsignedInteger n | real n =>
    simp [encodedSize, Value.kind, Value.encoding, Value.payload, pure, Except.pure]
  | string text | borrowedString text =>
    have hlt : text.length < 2 ^ 32 := h
    have hle : ¬ text.length > uint32Max := by
      unfold uint32Max
      omega
    have hlen : (ValueKind.string.toByte :: (littleEndian 4 text.length ++ text)).length =
        5 + text.length := by
      simp
      omega
    change (if text.length > uint32Max then _ else checkedAdd 5 text.length) = _
    rw [if_neg hle, checkedAdd_eq (by omega)]
    exact congrArg _ hlen.symm

/-- A text that is too long for the length prefix raises. -/
theorem encodedSize_of_not_encodable {v : Value} (h : ¬ v.Encodable) :
    encodedSize v = .error (.protocolError (ascii "RPC string is too large")) := by
  have hkind : v.kind = .string := by
    by_contra hne
    apply h
    cases v <;>
      first
      | exact absurd rfl hne
      | simp [Value.Encodable, Value.stringSize, Value.stringData]
  have hlarge : v.stringSize > uint32Max := by
    unfold Value.Encodable at h
    unfold uint32Max
    omega
  simp only [encodedSize, hkind, if_pos hlarge]
  rfl

/-- The canonical word of an encodable value is short. -/
lemma encoding_length_lt {v : Value} (h : v.Encodable) : v.encoding.length < 2 ^ 32 + 9 := by
  cases v with
  | undefined | boolean b | signedInteger n | unsignedInteger n | real n =>
    simp [Value.encoding, Value.payload]
  | string text | borrowedString text =>
    have hlt : text.length < 2 ^ 32 := h
    simp [Value.encoding, Value.payload]
    omega

/-! ## The reader reads the words of a value -/

namespace Reader

/-- An integer read within the input yields the number its bytes denote. -/
lemma integer_run_of_le {width : ℕ} {s : List UInt8} (h : width ≤ s.length) :
    (integer width).run ⟨s, true⟩ = (ofLittleEndian (s.take width), ⟨s.drop width, true⟩) := by
  have hreq : require width ⟨s, true⟩ = (true, ⟨s, true⟩) := by
    simp [require, remaining, h]
  rw [← orLoop_eq_ofLittleEndian h]
  simp [integer, advance, hreq, bind, StateT.bind, StateT.run, get, getThe,
    MonadStateOf.get, StateT.get, pure, StateT.pure]

/-- An integer read past the end yields zero and invalidates the reader. -/
lemma integer_run_of_lt {width : ℕ} {s : List UInt8} (h : s.length < width) :
    (integer width).run ⟨s, true⟩ = (0, ⟨s, false⟩) := by
  have hreq : require width ⟨s, true⟩ = (false, ⟨s, false⟩) := by
    simp [require, remaining, h]
  simp [integer, hreq, bind, StateT.bind, StateT.run, pure, StateT.pure]

/-- Once the reader is invalid, an integer read yields zero and changes nothing. -/
lemma integer_run_invalid (width : ℕ) (s : List UInt8) :
    (integer width).run ⟨s, false⟩ = (0, ⟨s, false⟩) := by
  have hreq : require width ⟨s, false⟩ = (false, ⟨s, false⟩) := rfl
  simp [integer, hreq, bind, StateT.bind, StateT.run, pure, StateT.pure]

/-- An integer read either consumes a word of its width or fails. -/
lemma integer_run_cases (width : ℕ) (s : List UInt8) :
    (∃ w rest, s = w ++ rest ∧ w.length = width ∧
      (integer width).run ⟨s, true⟩ = (ofLittleEndian w, ⟨rest, true⟩)) ∨
    (integer width).run ⟨s, true⟩ = (0, ⟨s, false⟩) := by
  by_cases h : width ≤ s.length
  · exact .inl ⟨s.take width, s.drop width, (List.take_append_drop width s).symm,
      List.length_take_of_le h, integer_run_of_le h⟩
  · exact .inr (integer_run_of_lt (Nat.lt_of_not_le h))

/-- An integer read consumes the word at the front. -/
lemma integer_run_append {width : ℕ} {w : List UInt8} (hw : w.length = width)
    (rest : List UInt8) :
    (integer width).run ⟨w ++ rest, true⟩ = (ofLittleEndian w, ⟨rest, true⟩) := by
  subst hw
  rw [integer_run_of_le (by simp)]
  simp

/-- Reading an integer is sticky. -/
lemma sticky_integer (width : ℕ) : Sticky (integer width) := by
  rintro ⟨s, valid⟩ rfl
  rw [integer_run_invalid]

/-- An integer of `width` bytes is any word of that length. -/
lemma reads_integer (width : ℕ) :
    Reads (parserOf (integer width)) fun n => {w | w.length = width ∧ ofLittleEndian w = n} := by
  intro s n rest
  by_cases h : width ≤ s.length
  · rw [parserOf, integer_run_of_le h]
    simp only [if_true, Option.some.injEq, Prod.mk.injEq]
    constructor
    · rintro ⟨rfl, rfl⟩
      exact ⟨s.take width, ⟨List.length_take_of_le h, rfl⟩, List.take_append_drop width s⟩
    · rintro ⟨w, ⟨rfl, rfl⟩, rfl⟩
      simp
  · rw [parserOf, integer_run_of_lt (Nat.lt_of_not_le h)]
    simp only [Bool.false_eq_true, if_false, reduceCtorEq, false_iff]
    rintro ⟨w, ⟨rfl, -⟩, rfl⟩
    simp at h

/-! ### Running reader actions -/

lemma run_bind {α β : Type} (m : StateM Reader α) (f : α → StateM Reader β) (r : Reader) :
    (m >>= f).run r = (f (m.run r).1).run (m.run r).2 := rfl

lemma run_get (r : Reader) : StateT.run (m := Id) get r = (r, r) := rfl

lemma run_pure {α : Type} (a : α) (r : Reader) : StateT.run (m := Id) (pure a) r = (a, r) := rfl

lemma run_ite {α : Type} (c : Prop) [Decidable c] (m n : StateM Reader α) (r : Reader) :
    (if c then m else n).run r = if c then m.run r else n.run r := by
  split <;> rfl

/-- A field that must have a given non-zero value: what follows it decides, unless the input
does not start with that field. -/
lemma run_expect_eq_iff {α : Type} {width expected : ℕ} {fail a : α} {m : StateM Reader α}
    {s : List UInt8} (hpos : expected ≠ 0) (hlt : expected < 256 ^ width) (ha : fail ≠ a) :
    ((do
      if (← integer width) != expected then return fail
      m : StateM Reader α).run ⟨s, true⟩).1 = a ↔
      ∃ rest, s = littleEndian width expected ++ rest ∧ (m.run ⟨rest, true⟩).1 = a := by
  rw [run_bind, run_ite, run_pure]
  rcases integer_run_cases width s with ⟨w, rest, rfl, hw, hrun⟩ | hrun
  · rw [hrun]
    by_cases hword : w = littleEndian width expected
    · subst hword
      simp [ofLittleEndian_littleEndian hlt]
    · have hne : ofLittleEndian w ≠ expected :=
        fun h => hword ((ofLittleEndian_eq_iff hw hlt).mp h)
      simp only [bne_iff_ne, ne_eq, hne, not_false_eq_true, if_true, ha, false_iff]
      rintro ⟨rest', happ, -⟩
      exact hword (List.append_inj_left happ (by simp [hw]))
  · rw [hrun]
    simp only [bne_iff_ne, ne_eq, hpos.symm, not_false_eq_true, if_true, ha, false_iff]
    rintro ⟨rest, rfl, -⟩
    rw [integer_run_append (length_littleEndian _ _)] at hrun
    exact absurd (congrArg (fun r => r.2.valid) hrun) (by simp)

/-- A field of any value: what follows it decides, provided that an invalid reader is noticed
there. -/
lemma run_integer_bind_eq_iff {α : Type} {width : ℕ} {a : α} {m : ℕ → StateM Reader α}
    {s : List UInt8} (hinvalid : ∀ n s, ((m n).run ⟨s, false⟩).1 ≠ a) :
    ((integer width >>= m).run ⟨s, true⟩).1 = a ↔
      ∃ w rest, s = w ++ rest ∧ w.length = width ∧
        ((m (ofLittleEndian w)).run ⟨rest, true⟩).1 = a := by
  rw [run_bind]
  rcases integer_run_cases width s with ⟨w, rest, rfl, hw, hrun⟩ | hrun
  · rw [hrun]
    constructor
    · intro h
      exact ⟨w, rest, rfl, hw, h⟩
    · rintro ⟨w', rest', happ, hw', h⟩
      obtain ⟨rfl, rfl⟩ := List.append_inj happ (by rw [hw, hw'])
      exact h
  · rw [hrun]
    simp only [hinvalid, false_iff]
    rintro ⟨w, rest, rfl, hw, -⟩
    rw [integer_run_append hw] at hrun
    exact absurd (congrArg (fun r => r.2.valid) hrun) (by simp)

/-! ### Texts -/

/-- The part of `raw` after its length prefix. -/
def rawText (size : ℕ) : StateM Reader (List UInt8) := do
  if !(← require size) then return []
  let result := (← get).input.take size
  advance size
  return result

lemma raw_eq_bind : raw = integer 4 >>= rawText := rfl

/-- Reading a text of a given size is sticky. -/
lemma sticky_rawText (size : ℕ) : Sticky (rawText size) := by
  rintro ⟨s, valid⟩ rfl
  have hreq : require size ⟨s, false⟩ = (false, ⟨s, false⟩) := rfl
  simp [rawText, hreq, bind, StateT.bind, StateT.run, pure, StateT.pure]

/-- A text of a given size is any word of that length. -/
lemma reads_rawText (size : ℕ) :
    Reads (parserOf (rawText size)) fun text => {w | w.length = size ∧ w = text} := by
  intro s text rest
  by_cases h : size ≤ s.length
  · have hreq : require size ⟨s, true⟩ = (true, ⟨s, true⟩) := by
      simp [require, remaining, h]
    have hrun : (rawText size).run ⟨s, true⟩ = (s.take size, ⟨s.drop size, true⟩) := by
      simp [rawText, advance, hreq, bind, StateT.bind, StateT.run, get, getThe,
        MonadStateOf.get, StateT.get, pure, StateT.pure]
    rw [parserOf, hrun]
    simp only [if_true, Option.some.injEq, Prod.mk.injEq]
    constructor
    · rintro ⟨rfl, rfl⟩
      exact ⟨s.take size, ⟨List.length_take_of_le h, rfl⟩, List.take_append_drop size s⟩
    · rintro ⟨w, ⟨rfl, rfl⟩, rfl⟩
      simp
  · have hreq : require size ⟨s, true⟩ = (false, ⟨s, false⟩) := by
      simp [require, remaining, Nat.lt_of_not_le h]
    have hrun : (rawText size).run ⟨s, true⟩ = ([], ⟨s, false⟩) := by
      simp [rawText, hreq, bind, StateT.bind, StateT.run, pure, StateT.pure]
    rw [parserOf, hrun]
    simp only [Bool.false_eq_true, if_false, reduceCtorEq, false_iff]
    rintro ⟨w, ⟨rfl, -⟩, rfl⟩
    simp at h

/-- Reading a length-prefixed text is sticky. -/
lemma sticky_raw : Sticky raw := by
  rw [raw_eq_bind]
  exact sticky_bind (sticky_integer 4) sticky_rawText

/-- A length-prefixed text is its length in four bytes and its bytes. -/
lemma reads_raw :
    Reads (parserOf raw) fun text =>
      {w | text.length < 2 ^ 32 ∧ w = littleEndian 4 text.length ++ text} := by
  rw [raw_eq_bind, parserOf_bind sticky_rawText]
  intro s text rest
  refine (Reads.bind (reads_integer 4) reads_rawText s text rest).trans ?_
  refine exists_congr fun w => and_congr_left fun _ => ?_
  simp only [Language.mem_iSup]
  constructor
  · rintro ⟨_, u, ⟨hlen, rfl⟩, v, ⟨hsize, rfl⟩, rfl⟩
    have hlt := ofLittleEndian_lt u
    rw [hlen, ← hsize] at hlt
    refine ⟨by norm_num at hlt ⊢; exact hlt, ?_⟩
    have hu := littleEndian_ofLittleEndian u
    rw [hlen] at hu
    rw [hsize, hu]
  · rintro ⟨hlt, rfl⟩
    refine ⟨text.length, _, ⟨length_littleEndian 4 text.length, ?_⟩, text, ⟨rfl, rfl⟩, rfl⟩
    exact ofLittleEndian_littleEndian (by norm_num; exact hlt)

end Reader

/-- The part of `decode_value` after the kind byte. -/
def decodePayload : Option ValueKind → StateM Reader Value
  | some .undefined => return .undefined
  | some .signedInteger => return .signedInteger (UInt64.ofNat (← Reader.integer 8)).toInt64
  | some .unsignedInteger => return .unsignedInteger (UInt64.ofNat (← Reader.integer 8))
  | some .real => return .real (UInt64.ofNat (← Reader.integer 8))
  | some .boolean => return .boolean ((← Reader.integer 1) != 0)
  | some .string => return .string (← Reader.raw)
  | none => do
    Reader.invalidate
    return .undefined

lemma decodeValue_eq_bind :
    decodeValue = Reader.integer 1 >>= fun n => decodePayload (ValueKind.ofByte n) := by
  unfold decodeValue
  refine congrArg _ (funext fun n => ?_)
  unfold decodePayload
  split <;> simp_all

/-- Decoding a payload is sticky. -/
lemma sticky_decodePayload (kind : Option ValueKind) : Sticky (decodePayload kind) := by
  match kind with
  | some .undefined => exact sticky_pure _
  | some .signedInteger | some .unsignedInteger | some .real =>
    exact sticky_bind (Reader.sticky_integer 8) fun _ => sticky_pure _
  | some .boolean => exact sticky_bind (Reader.sticky_integer 1) fun _ => sticky_pure _
  | some .string => exact sticky_bind Reader.sticky_raw fun _ => sticky_pure _
  | none =>
    rintro ⟨s, valid⟩ rfl
    rfl

/-- The payload read after a kind byte denotes the value decoded from it. -/
lemma reads_decodePayload (kind : ValueKind) :
    Reads (parserOf (decodePayload (some kind))) (payloadWords kind) := by
  cases kind with
  | undefined => exact Reads.pure Value.undefined
  | signedInteger | unsignedInteger | real =>
    rw [decodePayload, parserOf_bind fun _ => sticky_pure _]
    refine ((Reader.reads_integer 8).map _).congr fun v w => ?_
    constructor
    · rintro ⟨_, ⟨hlen, rfl⟩, rfl⟩
      exact ⟨hlen, rfl⟩
    · rintro ⟨hlen, rfl⟩
      exact ⟨_, ⟨hlen, rfl⟩, rfl⟩
  | boolean =>
    rw [decodePayload, parserOf_bind fun _ => sticky_pure _]
    refine ((Reader.reads_integer 1).map _).congr fun v w => ?_
    constructor
    · rintro ⟨_, ⟨hlen, rfl⟩, rfl⟩
      exact ⟨hlen, rfl⟩
    · rintro ⟨hlen, rfl⟩
      exact ⟨_, ⟨hlen, rfl⟩, rfl⟩
  | string =>
    rw [decodePayload, parserOf_bind fun _ => sticky_pure _]
    refine (Reader.reads_raw.map _).congr fun v w => ?_
    constructor
    · rintro ⟨text, ⟨hlen, rfl⟩, rfl⟩
      exact ⟨text, hlen, rfl, rfl⟩
    · rintro ⟨text, hlen, rfl, rfl⟩
      exact ⟨text, ⟨hlen, rfl⟩, rfl⟩

/-- After a byte that names no kind, decoding fails. -/
lemma parserOf_decodePayload_none : parserOf (decodePayload none) = fun _ => none := rfl

/-- The decoder reads exactly the words that denote the value it returns. -/
theorem reads_decodeValue : Reads (parserOf decodeValue) valueWords := by
  rw [decodeValue_eq_bind, parserOf_bind fun n => sticky_decodePayload (ValueKind.ofByte n)]
  intro s v rest
  rw [bind_eq_some_iff]
  constructor
  · rintro ⟨n, mid, hn, hpayload⟩
    obtain ⟨k, ⟨hlen, rfl⟩, rfl⟩ := (Reader.reads_integer 1 s n mid).mp hn
    obtain ⟨b, rfl⟩ := List.length_eq_one_iff.mp hlen
    cases hkind : ValueKind.ofByte (ofLittleEndian [b]) with
    | none =>
      rw [hkind, parserOf_decodePayload_none] at hpayload
      simp at hpayload
    | some kind =>
      rw [hkind] at hpayload
      obtain ⟨w, hw, rfl⟩ := (reads_decodePayload kind mid v rest).mp hpayload
      have hbyte : b = kind.toByte := by
        have hnum := ValueKind.ofByte_eq_some_iff.mp hkind
        rw [← UInt8.toNat_inj, ValueKind.toNat_toByte, ← hnum, ofLittleEndian_cons]
        simp
      exact ⟨kind.toByte :: w, ⟨kind, w, hw, rfl⟩, by rw [hbyte]; rfl⟩
  · rintro ⟨_, ⟨kind, w, hw, rfl⟩, rfl⟩
    refine ⟨kind.toNat, w ++ rest, ?_, ?_⟩
    · refine (Reader.reads_integer 1 _ _ _).mpr ⟨[kind.toByte], ⟨rfl, ?_⟩, rfl⟩
      simp [ofLittleEndian_cons]
    · rw [ValueKind.ofByte_toNat]
      exact (reads_decodePayload kind _ v rest).mpr ⟨w, hw, rfl⟩

end Dynabridge.Rpc
