import Mathlib

/-!
# Text in code points, in UTF-8 and in UTF-16

A text is a list of characters, that is, of code points that are no surrogates.  Bytes and code
units may be the encoding of a text or of none; each of the decoders finds the text exactly when
there is one.
-/

namespace UnicodeText

/-! ## Code points -/

/-- The text with the given code points, unless one of them is no character. -/
def ofCodePoints : List ℕ → Option (List Char)
  | [] => some []
  | n :: ns => if n.isValidChar then (ofCodePoints ns).map (Char.ofNat n :: ·) else none

theorem ofCodePoints_eq_some_iff {ns : List ℕ} {cs : List Char} :
    ofCodePoints ns = some cs ↔ cs.map Char.toNat = ns := by
  induction ns generalizing cs with
  | nil =>
    rw [ofCodePoints, Option.some_inj, List.map_eq_nil_iff]
    exact eq_comm
  | cons n ns ih =>
    rw [ofCodePoints]
    constructor
    · intro h
      split at h
      case isTrue hvalid =>
        obtain ⟨rest, hrest, rfl⟩ := Option.map_eq_some_iff.mp h
        rw [List.map_cons, ih.mp hrest, Char.toNat_ofNat, if_pos hvalid]
      case isFalse => cases h
    · intro h
      rcases cs with _ | ⟨c, cs⟩
      · cases h
      · obtain ⟨rfl, hrest⟩ := List.cons.inj h
        have hvalid : c.toNat.isValidChar := c.valid
        rw [if_pos hvalid, ih.mpr hrest, Option.map_some, Char.ofNat_toNat]

/-! ## UTF-8 -/

def utf8 (cs : List Char) : List UInt8 := cs.flatMap String.utf8EncodeChar

/-- The text of some bytes, if they are well-formed UTF-8. -/
def ofUtf8 (bytes : List UInt8) : Option (List Char) :=
  bytes.toByteArray.utf8Decode?.map Array.toList

lemma toByteArray_inj {bytes bytes' : List UInt8} (h : bytes.toByteArray = bytes'.toByteArray) :
    bytes = bytes' := by
  rw [← List.toList_data_toByteArray (l := bytes), h, List.toList_data_toByteArray]

theorem ofUtf8_eq_some_iff {bytes : List UInt8} {cs : List Char} :
    ofUtf8 bytes = some cs ↔ utf8 cs = bytes := by
  constructor
  · intro h
    obtain ⟨decoded, hdecoded, rfl⟩ := Option.map_eq_some_iff.mp h
    have hget := ByteArray.utf8Encode_get_utf8Decode? (b := bytes.toByteArray)
      (h := by rw [hdecoded]; rfl)
    simp only [hdecoded, Option.get_some] at hget
    exact toByteArray_inj hget
  · rintro rfl
    have hdecode := List.utf8Decode?_utf8Encode (l := cs)
    rw [List.utf8Encode] at hdecode
    rw [ofUtf8, utf8, hdecode, Option.map_some]

/-! ## UTF-16 -/

/-- The code units of a character: two surrogates beyond the basic plane. -/
def utf16Char (c : Char) : List UInt16 :=
  if c.toNat < 0x10000 then [UInt16.ofNat c.toNat]
  else
    [UInt16.ofNat (0xD800 + (c.toNat - 0x10000) / 0x400),
      UInt16.ofNat (0xDC00 + (c.toNat - 0x10000) % 0x400)]

def utf16 (cs : List Char) : List UInt16 := cs.flatMap utf16Char

/-- A surrogate of the kind that comes first in a pair. -/
def IsHigh (u : UInt16) : Prop := 0xD800 ≤ u.toNat ∧ u.toNat < 0xDC00

/-- A surrogate of the kind that comes second. -/
def IsLow (u : UInt16) : Prop := 0xDC00 ≤ u.toNat ∧ u.toNat < 0xE000

instance (u : UInt16) : Decidable (IsHigh u) := inferInstanceAs (Decidable (_ ∧ _))

instance (u : UInt16) : Decidable (IsLow u) := inferInstanceAs (Decidable (_ ∧ _))

/-- The character of a pair of surrogates. -/
def ofPair (high low : UInt16) : Char :=
  Char.ofNat (0x10000 + (high.toNat - 0xD800) * 0x400 + (low.toNat - 0xDC00))

/-- The text of some code units, unless there is a surrogate outside of a pair. -/
def ofUtf16 : List UInt16 → Option (List Char)
  | [] => some []
  | u :: us =>
    if IsLow u then none
    else if IsHigh u then
      match us with
      | [] => none
      | v :: us => if IsLow v then (ofUtf16 us).map (ofPair u v :: ·) else none
    else (ofUtf16 us).map (Char.ofNat u.toNat :: ·)

lemma ofUtf16_single {u : UInt16} (hhigh : ¬ IsHigh u) (hlow : ¬ IsLow u) (us : List UInt16) :
    ofUtf16 (u :: us) = (ofUtf16 us).map (Char.ofNat u.toNat :: ·) := by
  rw [ofUtf16.eq_def]
  simp only [if_neg hlow, if_neg hhigh]

lemma not_isLow {u : UInt16} (h : IsHigh u) : ¬ IsLow u := fun hlow => by
  unfold IsHigh at h
  unfold IsLow at hlow
  omega

lemma ofUtf16_pair {u v : UInt16} (hhigh : IsHigh u) (hlow : IsLow v) (us : List UInt16) :
    ofUtf16 (u :: v :: us) = (ofUtf16 us).map (ofPair u v :: ·) := by
  rw [ofUtf16.eq_def]
  simp only [if_neg (not_isLow hhigh), if_pos hhigh, if_pos hlow]

/-- A code unit that is no surrogate is a character of its own. -/
lemma utf16Char_single {u : UInt16} (hhigh : ¬ IsHigh u) (hlow : ¬ IsLow u) :
    utf16Char (Char.ofNat u.toNat) = [u] := by
  have hlt := u.toNat_lt
  have hvalid : u.toNat.isValidChar := by
    unfold IsHigh at hhigh
    unfold IsLow at hlow
    unfold Nat.isValidChar
    omega
  rw [utf16Char, Char.toNat_ofNat, if_pos hvalid, if_pos (by omega), UInt16.ofNat_toNat]

/-- A pair of surrogates encodes its character. -/
lemma utf16Char_pair {u v : UInt16} (hhigh : IsHigh u) (hlow : IsLow v) :
    utf16Char (ofPair u v) = [u, v] := by
  obtain ⟨hu, hu'⟩ := hhigh
  obtain ⟨hv, hv'⟩ := hlow
  have hvalid : (0x10000 + (u.toNat - 0xD800) * 0x400 + (v.toNat - 0xDC00)).isValidChar := by
    unfold Nat.isValidChar
    omega
  rw [utf16Char, ofPair, Char.toNat_ofNat, if_pos hvalid, if_neg (by omega)]
  have hfirst : 0xD800 + (0x10000 + (u.toNat - 0xD800) * 0x400 + (v.toNat - 0xDC00) - 0x10000)
      / 0x400 = u.toNat := by omega
  have hsecond : 0xDC00 + (0x10000 + (u.toNat - 0xD800) * 0x400 + (v.toNat - 0xDC00) - 0x10000)
      % 0x400 = v.toNat := by omega
  rw [hfirst, hsecond, UInt16.ofNat_toNat, UInt16.ofNat_toNat]

/-- The first character is decoded from its own code units. -/
lemma ofUtf16_utf16Char_append (c : Char) (us : List UInt16) :
    ofUtf16 (utf16Char c ++ us) = (ofUtf16 us).map (c :: ·) := by
  have hvalid : c.toNat < 0xD800 ∨ 0xDFFF < c.toNat ∧ c.toNat < 0x110000 := c.valid
  by_cases hbasic : c.toNat < 0x10000
  · have hunit : (UInt16.ofNat c.toNat).toNat = c.toNat := UInt16.toNat_ofNat_of_lt' hbasic
    have hlow : ¬ IsLow (UInt16.ofNat c.toNat) := by
      unfold IsLow
      omega
    have hhigh : ¬ IsHigh (UInt16.ofNat c.toNat) := by
      unfold IsHigh
      omega
    rw [utf16Char, if_pos hbasic, List.cons_append, List.nil_append, ofUtf16_single hhigh hlow,
      hunit, Char.ofNat_toNat]
  · have hfirst : (UInt16.ofNat (0xD800 + (c.toNat - 0x10000) / 0x400)).toNat =
        0xD800 + (c.toNat - 0x10000) / 0x400 := UInt16.toNat_ofNat_of_lt' (by
      change _ < 65536
      omega)
    have hsecond : (UInt16.ofNat (0xDC00 + (c.toNat - 0x10000) % 0x400)).toNat =
        0xDC00 + (c.toNat - 0x10000) % 0x400 := UInt16.toNat_ofNat_of_lt' (by
      change _ < 65536
      omega)
    have hhigh : IsHigh (UInt16.ofNat (0xD800 + (c.toNat - 0x10000) / 0x400)) := by
      unfold IsHigh
      omega
    have hlow : IsLow (UInt16.ofNat (0xDC00 + (c.toNat - 0x10000) % 0x400)) := by
      unfold IsLow
      omega
    have hpair : 0x10000 + (0xD800 + (c.toNat - 0x10000) / 0x400 - 0xD800) * 0x400 +
        (0xDC00 + (c.toNat - 0x10000) % 0x400 - 0xDC00) = c.toNat := by omega
    rw [utf16Char, if_neg hbasic, List.cons_append, List.cons_append, List.nil_append,
      ofUtf16_pair hhigh hlow, ofPair, hfirst, hsecond, hpair, Char.ofNat_toNat]

theorem ofUtf16_eq_some_iff {us : List UInt16} {cs : List Char} :
    ofUtf16 us = some cs ↔ utf16 cs = us := by
  constructor
  · intro h
    induction us using ofUtf16.induct generalizing cs with
    | case1 =>
      obtain rfl := Option.some.inj h
      rfl
    | case2 u us hlow =>
      rw [ofUtf16.eq_def] at h
      simp only [if_pos hlow] at h
      cases h
    | case3 u hlow hhigh =>
      rw [ofUtf16.eq_def] at h
      simp only [if_neg hlow, if_pos hhigh] at h
      cases h
    | case4 u hlow hhigh v us hpair ih =>
      rw [ofUtf16_pair hhigh hpair] at h
      obtain ⟨rest, hrest, rfl⟩ := Option.map_eq_some_iff.mp h
      rw [utf16, List.flatMap_cons, utf16Char_pair hhigh hpair]
      exact congrArg (u :: v :: ·) (ih hrest)
    | case5 u hlow hhigh v us hpair =>
      rw [ofUtf16.eq_def] at h
      simp only [if_neg hlow, if_pos hhigh, if_neg hpair] at h
      cases h
    | case6 u us hlow hhigh ih =>
      rw [ofUtf16_single hhigh hlow] at h
      obtain ⟨rest, hrest, rfl⟩ := Option.map_eq_some_iff.mp h
      rw [utf16, List.flatMap_cons, utf16Char_single hhigh hlow]
      exact congrArg (u :: ·) (ih hrest)
  · rintro rfl
    induction cs with
    | nil => rfl
    | cons c cs ih =>
      rw [utf16, List.flatMap_cons, ofUtf16_utf16Char_append]
      rw [utf16] at ih
      rw [ih, Option.map_some]

end UnicodeText
