import Dynabridge.Foundations.Alignment

/-!
# The inline storage of an exported instance

`make_export_class_type` declares the size of an instance, `export_instance_storage` computes the
address of the native proxy in it.  The two formulas agree for every address and every alignment
as long as the declared size fits into the `int` that holds it.
-/

namespace Dynabridge.Python

open Alignment

/-- What `sizeof` and `alignof` say about a native type, in words of `w` bits. -/
structure NativeLayout (w : ℕ) where
  size : BitVec w
  alignment : BitVec w
  isPowerOfTwo : alignment.toNat.isPowerOfTwo

namespace NativeLayout

variable {w : ℕ}

/-- `export_instance_storage`, where `header` is the size of `export_instance_object` -/
def exportInstanceStorage (type : NativeLayout w) (header object : BitVec w) : BitVec w :=
  let start := object + header
  (start + type.alignment - 1) &&& ~~~(type.alignment - 1)

/-- The `basicsize` in the `PyType_Spec` of `make_export_class_type`: a sum in `size_t` that is
cast to `int`. -/
def basicsize (type : NativeLayout w) (header : BitVec w) : ℤ :=
  ((header + type.size + type.alignment - 1).setWidth 32).toInt

/-- The size of an instance before the cast. -/
def instanceSize (type : NativeLayout w) (header : BitVec w) : ℕ :=
  header.toNat + type.size.toNat + (type.alignment.toNat - 1)

/-- The storage of an instance is aligned, lies behind the header, and ends within the declared
size. -/
structure StorageFits (type : NativeLayout w) (header object : BitVec w) : Prop where
  aligned : type.alignment.toNat ∣ (type.exportInstanceStorage header object).toNat
  behind : object.toNat + header.toNat ≤ (type.exportInstanceStorage header object).toNat
  within : ((type.exportInstanceStorage header object).toNat + type.size.toNat : ℤ) ≤
    object.toNat + type.basicsize header

variable {type : NativeLayout w} {header object : BitVec w}

lemma alignment_pos (type : NativeLayout w) : 0 < type.alignment.toNat :=
  Nat.pos_of_isPowerOfTwo type.isPowerOfTwo

/-- The storage is the end of the header, rounded up. -/
lemma toNat_exportInstanceStorage
    (h : object.toNat + type.instanceSize header < 2 ^ w) :
    (type.exportInstanceStorage header object).toNat =
      alignUp type.alignment.toNat (object.toNat + header.toNat) := by
  have hstart : (object + header).toNat = object.toNat + header.toNat := by
    rw [BitVec.toNat_add, Nat.mod_eq_of_lt]
    unfold instanceSize at h
    omega
  have hround : (object + header).toNat + (type.alignment.toNat - 1) < 2 ^ w := by
    unfold instanceSize at h
    omega
  rw [exportInstanceStorage, toNat_roundUp _ _ type.isPowerOfTwo hround, hstart]

/-- The sum in `size_t` does not wrap around where addresses do not. -/
lemma toNat_basicsize_sum (h : type.instanceSize header < 2 ^ w) :
    (header + type.size + type.alignment - 1).toNat = type.instanceSize header := by
  have hassoc : header + type.size + type.alignment - 1 =
      header + type.size + (type.alignment - 1) := add_sub_assoc _ _ _
  have hpad : (type.alignment - 1).toNat = type.alignment.toNat - 1 :=
    toNat_sub_one type.isPowerOfTwo
  unfold instanceSize at h ⊢
  rw [hassoc, BitVec.toNat_add, BitVec.toNat_add, hpad,
    Nat.mod_eq_of_lt (a := header.toNat + type.size.toNat) (by omega), Nat.mod_eq_of_lt h]

/-- The storage of an instance whose addresses do not wrap around fits exactly when its size fits
into an `int`. -/
theorem storageFits_iff (type : NativeLayout w) (header object : BitVec w)
    (h : object.toNat + type.instanceSize header < 2 ^ w) :
    type.StorageFits header object ↔ type.instanceSize header ≤ 2 ^ 31 - 1 := by
  have hstorage := toNat_exportInstanceStorage h
  have hsum := toNat_basicsize_sum (lt_of_le_of_lt (Nat.le_add_left _ _) h)
  have hbehind : object.toNat + header.toNat ≤
      (type.exportInstanceStorage header object).toNat :=
    hstorage ▸ le_alignUp type.alignment_pos _
  constructor
  · intro hfits
    by_contra hlarge
    obtain ⟨k, hk⟩ := type.isPowerOfTwo
    have hnarrow : type.basicsize header < (header.toNat + type.size.toNat : ℕ) := by
      refine toInt_setWidth_lt_of_padding (k := k) (by decide) ?_ ?_
      · rw [hsum, instanceSize, hk]
      · rw [hsum]
        omega
    have hwithin := hfits.within
    push_cast at hnarrow
    omega
  · intro hsmall
    have hbasicsize : type.basicsize header = type.instanceSize header := by
      rw [basicsize, toInt_setWidth_of_lt (by rw [hsum]; omega), hsum]
    have hlt : (type.exportInstanceStorage header object).toNat <
        object.toNat + header.toNat + type.alignment.toNat :=
      hstorage ▸ alignUp_lt type.alignment_pos _
    refine ⟨hstorage ▸ dvd_alignUp _ _, hbehind, ?_⟩
    rw [hbasicsize, instanceSize]
    push_cast
    omega

/-- An over-aligned type at an address that is not a multiple of its alignment. -/
theorem storageFits_overaligned :
    (⟨24, 64, ⟨6, by decide⟩⟩ : NativeLayout 64).StorageFits 40 4112 :=
  (storageFits_iff _ _ _ (by decide)).mpr (by decide)

/-- A type of `2 ^ 32` bytes. -/
def hugeType : NativeLayout 64 := ⟨2 ^ 32, 8, ⟨3, by decide⟩⟩

/-- The declared size of an instance of the huge type leaves no room for it: the addresses of the
instance do not wrap around, but its storage ends far behind the declared size. -/
theorem hugeType_not_storageFits :
    4096 + hugeType.instanceSize 40 < 2 ^ 64 ∧ hugeType.basicsize 40 = 47 ∧
      ¬ hugeType.StorageFits 40 4096 := by
  refine ⟨by decide, by decide, fun hfits => ?_⟩
  have hstorage : (hugeType.exportInstanceStorage 40 4096).toNat = 4136 := by decide
  have hbasicsize : hugeType.basicsize 40 = 47 := by decide
  have hsize : hugeType.size.toNat = 4294967296 := by decide
  have hobject : (4096 : BitVec 64).toNat = 4096 := by decide
  have hwithin := hfits.within
  rw [hstorage, hbasicsize, hsize, hobject] at hwithin
  exact absurd hwithin (by decide)

end NativeLayout

end Dynabridge.Python
