import Mathlib.Data.List.Nodup
import Mathlib.Data.List.ReduceOption
import Mathlib.Order.Basic

/-!
# Composition of interfaces

A class implements a list of interfaces.  The methods of an interface are recovered from its
declaration table by a balanced scan over the indices of its declarations, and
`checked_interface_pack` accepts the class if no interface is listed twice and no two methods
have the same name.
-/

namespace Dynabridge.Interface

/-! ## The scan of a declaration table -/

section Scan

variable {α : Type*}

/-- What `method_name_at` of a descriptor declares at each index. -/
abbrev Descriptor (α : Type*) := UInt64 → Option α

/-- `method_at_index` -/
def methodAtIndex (d : Descriptor α) (index : UInt64) : List α := (d index).toList

lemma toNat_middle {beginIndex endIndex : UInt64} (h : beginIndex < endIndex) :
    (beginIndex + (endIndex - beginIndex) / 2).toNat =
      beginIndex.toNat + (endIndex.toNat - beginIndex.toNat) / 2 := by
  have hlt := UInt64.lt_iff_toNat_lt.mp h
  have hend := endIndex.toNat_lt
  have htwo : (2 : UInt64).toNat = 2 := rfl
  have hle : beginIndex ≤ endIndex := UInt64.le_iff_toNat_le.mpr (Nat.le_of_lt hlt)
  rw [UInt64.toNat_add, UInt64.toNat_div, UInt64.toNat_sub_of_le _ _ hle, htwo,
    Nat.mod_eq_of_lt (by omega)]

lemma toNat_succ_of_lt {beginIndex endIndex : UInt64} (h : beginIndex < endIndex) :
    (beginIndex + 1).toNat = beginIndex.toNat + 1 := by
  have hlt := UInt64.lt_iff_toNat_lt.mp h
  have hend := endIndex.toNat_lt
  have hone : (1 : UInt64).toNat = 1 := rfl
  rw [UInt64.toNat_add, hone, Nat.mod_eq_of_lt (by omega)]

/-- `names_in_range`: the recursion ends because both halves are shorter than the range. -/
def namesInRange (d : Descriptor α) (beginIndex endIndex : UInt64) : List α :=
  if _ : endIndex ≤ beginIndex then []
  else if _ : endIndex ≤ beginIndex + 1 then methodAtIndex d beginIndex
  else
    let middle := beginIndex + (endIndex - beginIndex) / 2
    namesInRange d beginIndex middle ++ namesInRange d middle endIndex
termination_by endIndex.toNat - beginIndex.toNat
decreasing_by
  all_goals
    have hlt : beginIndex < endIndex := UInt64.not_le.mp ‹¬ endIndex ≤ beginIndex›
    have hgap := mt UInt64.le_iff_toNat_le.mpr ‹¬ endIndex ≤ beginIndex + 1›
    rw [toNat_succ_of_lt hlt] at hgap
    rw [toNat_middle hlt]
    omega

/-- `method_names_in_range_t`, which leaves out the index that the range begins with -/
def methodNamesInRange (d : Descriptor α) (beginIndex endIndex : UInt64) : List α :=
  namesInRange d (beginIndex + 1) endIndex

/-- The balanced scan collects what a linear one does. -/
lemma namesInRange_eq_filterMap (d : Descriptor α) (beginIndex endIndex : UInt64) :
    namesInRange d beginIndex endIndex =
      (List.range' beginIndex.toNat (endIndex.toNat - beginIndex.toNat)).filterMap
        fun i => d (UInt64.ofNat i) := by
  induction beginIndex, endIndex using namesInRange.induct with
  | case1 beginIndex endIndex hempty =>
    have hnone : endIndex.toNat - beginIndex.toNat = 0 :=
      Nat.sub_eq_zero_of_le (UInt64.le_iff_toNat_le.mp hempty)
    rw [namesInRange, dif_pos hempty, hnone, List.range'_zero, List.filterMap_nil]
  | case2 beginIndex endIndex hempty hsingle =>
    have hlt : beginIndex < endIndex := UInt64.not_le.mp hempty
    have hone : endIndex.toNat - beginIndex.toNat = 1 := by
      have hlt' := UInt64.lt_iff_toNat_lt.mp hlt
      have hle := UInt64.le_iff_toNat_le.mp hsingle
      rw [toNat_succ_of_lt hlt] at hle
      omega
    rw [namesInRange, dif_neg hempty, dif_pos hsingle, hone, List.range'_one,
      List.filterMap_cons, UInt64.ofNat_toNat, List.filterMap_nil, methodAtIndex]
    cases d beginIndex <;> rfl
  | case3 beginIndex endIndex hempty hsingle middle ihleft ihright =>
    have hlt : beginIndex < endIndex := UInt64.not_le.mp hempty
    have hmiddle : middle.toNat =
        beginIndex.toNat + (endIndex.toNat - beginIndex.toNat) / 2 := toNat_middle hlt
    have hranges : List.range' beginIndex.toNat (endIndex.toNat - beginIndex.toNat) =
        List.range' beginIndex.toNat (middle.toNat - beginIndex.toNat) ++
          List.range' middle.toNat (endIndex.toNat - middle.toNat) := by
      have hsum : endIndex.toNat - beginIndex.toNat =
          (middle.toNat - beginIndex.toNat) + (endIndex.toNat - middle.toNat) := by omega
      have hstart : middle.toNat =
          beginIndex.toNat + (middle.toNat - beginIndex.toNat) := by omega
      conv_rhs => rw [hstart, Nat.add_sub_cancel_left]
      rw [List.range'_append_1]
      congr 1
      omega
    rw [namesInRange, dif_neg hempty, dif_neg hsingle, hranges, List.filterMap_append, ← ihleft,
      ← ihright]

/-- The indices of a range, in increasing order. -/
def indices (beginIndex endIndex : UInt64) : List UInt64 :=
  (List.range' beginIndex.toNat (endIndex.toNat - beginIndex.toNat)).map UInt64.ofNat

lemma mem_indices_iff {beginIndex endIndex i : UInt64} :
    i ∈ indices beginIndex endIndex ↔ beginIndex ≤ i ∧ i < endIndex := by
  have hend := endIndex.toNat_lt
  have hsize : UInt64.size = 2 ^ 64 := rfl
  rw [indices, List.mem_map, UInt64.le_iff_toNat_le, UInt64.lt_iff_toNat_lt]
  constructor
  · rintro ⟨n, hn, rfl⟩
    rw [List.mem_range'_1] at hn
    rw [UInt64.toNat_ofNat_of_lt' (by omega)]
    omega
  · intro hi
    refine ⟨i.toNat, List.mem_range'_1.mpr (by omega), UInt64.ofNat_toNat⟩

lemma pairwise_indices (beginIndex endIndex : UInt64) :
    (indices beginIndex endIndex).Pairwise (· < ·) := by
  have hend := endIndex.toNat_lt
  have hsize : UInt64.size = 2 ^ 64 := rfl
  rw [indices, List.pairwise_map]
  refine List.Pairwise.imp_of_mem ?_ List.pairwise_lt_range'
  intro m n hm hn hlt
  rw [List.mem_range'_1] at hm hn
  rw [UInt64.lt_iff_toNat_lt, UInt64.toNat_ofNat_of_lt' (by omega),
    UInt64.toNat_ofNat_of_lt' (by omega)]
  exact hlt

/-- The names are the declarations at the indices with a property, each once, in increasing order
of the indices. -/
def DeclaredAt (d : Descriptor α) (p : UInt64 → Prop) (names : List α) : Prop :=
  ∃ l : List UInt64, l.Pairwise (· < ·) ∧ (∀ i, i ∈ l ↔ p i ∧ (d i).isSome) ∧
    l.map d = names.map some

lemma map_filter_isSome (d : Descriptor α) (l : List UInt64) :
    (l.filter fun i => (d i).isSome).map d = (l.filterMap d).map some := by
  induction l with
  | nil => rfl
  | cons i l ih => cases hd : d i <;> simp [hd, ih]

/-- The balanced scan yields the declarations of the range. -/
lemma declaredAt_namesInRange (d : Descriptor α) (beginIndex endIndex : UInt64) :
    DeclaredAt d (fun i => beginIndex ≤ i ∧ i < endIndex) (namesInRange d beginIndex endIndex) := by
  refine ⟨(indices beginIndex endIndex).filter fun i => (d i).isSome, ?_, fun i => ?_, ?_⟩
  · exact (pairwise_indices beginIndex endIndex).filter _
  · rw [List.mem_filter, mem_indices_iff]
  · rw [map_filter_isSome, namesInRange_eq_filterMap, indices, List.filterMap_map]
    rfl

/-- A class whose table does not begin with the very last index has the methods that are declared
between the two ends of the table. -/
lemma declaredAt_methodNamesInRange (d : Descriptor α) {beginIndex : UInt64} (endIndex : UInt64)
    (h : beginIndex ≠ -1) :
    DeclaredAt d (fun i => beginIndex < i ∧ i < endIndex)
      (methodNamesInRange d beginIndex endIndex) := by
  have hsucc : (beginIndex + 1).toNat = beginIndex.toNat + 1 := by
    have hlt := beginIndex.toNat_lt
    have hne : beginIndex.toNat ≠ 2 ^ 64 - 1 := fun heq => h (UInt64.toNat_inj.mp heq)
    have hone : (1 : UInt64).toNat = 1 := rfl
    rw [UInt64.toNat_add, hone, Nat.mod_eq_of_lt (by omega)]
  have hbound : ∀ i, beginIndex + 1 ≤ i ↔ beginIndex < i := fun i => by
    rw [UInt64.le_iff_toNat_le, hsucc, UInt64.lt_iff_toNat_lt]
    exact Nat.succ_le_iff
  obtain ⟨l, hsorted, hmem, hmap⟩ := declaredAt_namesInRange d (beginIndex + 1) endIndex
  exact ⟨l, hsorted, fun i => by simpa only [hbound] using hmem i, hmap⟩

end Scan

/-! ## Names -/

/-- A `const char*`: the characters from it to the end of their array, a terminator among them. -/
structure CharPointer where
  bytes : List UInt8
  terminated : 0 ∈ bytes
  deriving DecidableEq

namespace CharPointer

/-- The character that is pointed to. -/
def deref (p : CharPointer) : UInt8 := p.bytes.head (List.ne_nil_of_mem p.terminated)

lemma bytes_eq_cons (p : CharPointer) : p.bytes = p.deref :: p.bytes.tail :=
  (List.cons_head_tail _).symm

/-- The pointer to the next character, which there is unless this one is the terminator. -/
def next (p : CharPointer) (h : p.deref ≠ 0) : CharPointer where
  bytes := p.bytes.tail
  terminated := by
    have hmem := p.terminated
    rw [p.bytes_eq_cons, List.mem_cons] at hmem
    exact hmem.resolve_left (Ne.symm h)

/-- The character string: what stands before the terminator. -/
def chars (p : CharPointer) : List UInt8 := p.bytes.takeWhile (· ≠ 0)

lemma length_next_lt (p : CharPointer) (h : p.deref ≠ 0) :
    (p.next h).bytes.length < p.bytes.length := by
  have hpos : 0 < p.bytes.length := List.length_pos_of_mem p.terminated
  rw [next, List.length_tail]
  omega

lemma chars_of_deref_eq_zero {p : CharPointer} (h : p.deref = 0) : p.chars = [] := by
  rw [chars, p.bytes_eq_cons]
  exact List.takeWhile_cons_of_neg (by simpa using h)

lemma chars_of_deref_ne_zero {p : CharPointer} (h : p.deref ≠ 0) :
    p.chars = p.deref :: (p.next h).chars := by
  rw [chars, p.bytes_eq_cons]
  exact List.takeWhile_cons_of_pos (by simpa using h)

end CharPointer

/-- `equal_name`: it goes on only while neither string has ended. -/
def equalName (left right : CharPointer) : Bool :=
  if hsame : left.deref = right.deref then
    if hend : left.deref = 0 then true
    else equalName (left.next hend) (right.next (hsame ▸ hend))
  else false
termination_by left.bytes.length
decreasing_by exact left.length_next_lt hend

/-- Names are equal if they are so as character strings. -/
lemma equalName_iff (left right : CharPointer) :
    equalName left right = true ↔ left.chars = right.chars := by
  induction left, right using equalName.induct with
  | case1 left right hsame hend =>
    rw [equalName, dif_pos hsame, dif_pos hend, CharPointer.chars_of_deref_eq_zero hend,
      CharPointer.chars_of_deref_eq_zero (hsame ▸ hend)]
    simp
  | case2 left right hsame hend ih =>
    have hend' : right.deref ≠ 0 := hsame ▸ hend
    rw [equalName, dif_pos hsame, dif_neg hend, ih, CharPointer.chars_of_deref_ne_zero hend,
      CharPointer.chars_of_deref_ne_zero hend', hsame, List.cons_inj_right]
  | case3 left right hdiffer =>
    rw [equalName, dif_neg hdiffer]
    by_cases hleft : left.deref = 0
    · have hright : right.deref ≠ 0 := fun h => hdiffer (hleft.trans h.symm)
      rw [CharPointer.chars_of_deref_eq_zero hleft, CharPointer.chars_of_deref_ne_zero hright]
      simp
    · rw [CharPointer.chars_of_deref_ne_zero hleft]
      by_cases hright : right.deref = 0
      · rw [CharPointer.chars_of_deref_eq_zero hright]
        simp
      · rw [CharPointer.chars_of_deref_ne_zero hright]
        simp [hdiffer]

/-! ## Type lists -/

section TypeLists

variable {α ι μ : Type*}

/-- `concat` -/
def concat : List (List α) → List α
  | [] => []
  | [types] => types
  | left :: right :: tail => concat ((left ++ right) :: tail)
termination_by lists => lists.length

/-- Joining the first two lists again and again joins all of them in order. -/
lemma concat_eq_flatten (lists : List (List α)) : concat lists = lists.flatten := by
  induction lists using concat.induct with
  | case1 => simp [concat]
  | case2 types => simp [concat]
  | case3 left right tail ih =>
    rw [concat, ih]
    simp only [List.flatten_cons, List.append_assoc]

/-- `contains_type`, where `none` is `void` -/
def containsType [DecidableEq ι] (type : Option ι) : List (Option ι) → Bool
  | [] => false
  | head :: tail => if type = head then true else containsType type tail

/-- `unique_types`, which skips `void` -/
def uniqueTypes [DecidableEq ι] : List (Option ι) → Bool
  | [] => true
  | none :: tail => uniqueTypes tail
  | some head :: tail => !containsType (some head) tail && uniqueTypes tail

/-- `contains_name`, which skips `void` -/
def containsName (symbolName : μ → CharPointer) (type : μ) : List (Option μ) → Bool
  | [] => false
  | none :: tail => containsName symbolName type tail
  | some head :: tail =>
    equalName (symbolName type) (symbolName head) || containsName symbolName type tail

/-- `unique_names`, which skips `void` -/
def uniqueNames (symbolName : μ → CharPointer) : List (Option μ) → Bool
  | [] => true
  | none :: tail => uniqueNames symbolName tail
  | some head :: tail => !containsName symbolName head tail && uniqueNames symbolName tail

lemma containsType_iff [DecidableEq ι] (type : Option ι) (l : List (Option ι)) :
    containsType type l = true ↔ type ∈ l := by
  induction l with
  | nil => simp [containsType]
  | cons head tail ih =>
    rw [containsType, List.mem_cons]
    split <;> simp_all

/-- The types of a list are unique if no two of them, apart from `void`, are the same. -/
lemma uniqueTypes_iff [DecidableEq ι] (l : List (Option ι)) :
    uniqueTypes l = true ↔ l.reduceOption.Nodup := by
  induction l with
  | nil => simp [uniqueTypes]
  | cons head tail ih =>
    cases head with
    | none => rw [uniqueTypes, ih, List.reduceOption_cons_of_none]
    | some head =>
      rw [uniqueTypes, Bool.and_eq_true, Bool.not_eq_true', ← Bool.not_eq_true, containsType_iff,
        ih, List.reduceOption_cons_of_some, List.nodup_cons, List.reduceOption_mem_iff]

lemma containsName_iff (symbolName : μ → CharPointer) (type : μ) (l : List (Option μ)) :
    containsName symbolName type l = true ↔
      ∃ other ∈ l.reduceOption, (symbolName type).chars = (symbolName other).chars := by
  induction l with
  | nil => simp [containsName]
  | cons head tail ih =>
    cases head with
    | none => rw [containsName, ih, List.reduceOption_cons_of_none]
    | some head =>
      rw [containsName, Bool.or_eq_true, equalName_iff, ih, List.reduceOption_cons_of_some,
        List.exists_mem_cons_iff]

/-- The names of a list are unique if no two of its types, apart from `void`, have names that are
equal as character strings. -/
lemma uniqueNames_iff (symbolName : μ → CharPointer) (l : List (Option μ)) :
    uniqueNames symbolName l = true ↔
      l.reduceOption.Pairwise fun m m' => (symbolName m).chars ≠ (symbolName m').chars := by
  induction l with
  | nil => simp [uniqueNames]
  | cons head tail ih =>
    cases head with
    | none => rw [uniqueNames, ih, List.reduceOption_cons_of_none]
    | some head =>
      rw [uniqueNames, Bool.and_eq_true, Bool.not_eq_true', ← Bool.not_eq_true, containsName_iff,
        ih, List.reduceOption_cons_of_some, List.pairwise_cons]
      simp only [not_exists, not_and, ne_eq]

end TypeLists

/-! ## The check of a class -/

section Check

variable {α ι μ : Type*}

/-- `method_symbols_t` of an interface descriptor, or the metadata of a class -/
structure MethodTable (α : Type*) where
  methodNameAt : Descriptor α
  beginIndex : UInt64
  endIndex : UInt64

/-- The methods of a table. -/
def MethodTable.methodNames (table : MethodTable α) : List α :=
  methodNamesInRange table.methodNameAt table.beginIndex table.endIndex

/-- `interface_method_names` -/
def interfaceMethodNames (symbols : ι → MethodTable (Option μ)) : Option ι → List (Option μ)
  | none => []
  | some descriptor => (symbols descriptor).methodNames

/-- `collect_interface_methods` -/
def collectInterfaceMethods (symbols : ι → MethodTable (Option μ)) (interfaces : List (Option ι)) :
    List (Option μ) :=
  concat (interfaces.map (interfaceMethodNames symbols))

/-- `class_interfaces`: the list ends with `void` -/
def classInterfaces (implemented : List ι) : List (Option ι) := implemented.map some ++ [none]

/-- `checked_interface_pack`, by the static assertions that fail -/
def checkedInterfacePack [DecidableEq ι] (symbols : ι → MethodTable (Option μ))
    (symbolName : μ → CharPointer) (interfaces : List (Option ι))
    (ownMethods : List (Option μ)) : List String :=
  match uniqueTypes interfaces,
    uniqueNames symbolName (concat [collectInterfaceMethods symbols interfaces, ownMethods]) with
  | true, true => []
  | false, true => ["A bridge class cannot IMPLEMENTS the same interface more than once."]
  | true, false => ["Implemented interfaces and bridge class members must have unique names."]
  | false, false =>
    ["A bridge class cannot IMPLEMENTS the same interface more than once.",
      "Implemented interfaces and bridge class members must have unique names."]

lemma reduceOption_classInterfaces (implemented : List ι) :
    (classInterfaces implemented).reduceOption = implemented := by
  have hmap : (implemented.map some).reduceOption = implemented := by
    rw [List.reduceOption, List.filterMap_map]
    exact List.filterMap_some
  rw [classInterfaces, List.reduceOption_append, hmap, List.reduceOption_singleton,
    Option.toList_none, List.append_nil]

/-- The trailing `void` adds no methods. -/
lemma collectInterfaceMethods_classInterfaces (symbols : ι → MethodTable (Option μ))
    (implemented : List ι) :
    collectInterfaceMethods symbols (classInterfaces implemented) =
      implemented.flatMap fun descriptor => (symbols descriptor).methodNames := by
  rw [collectInterfaceMethods, concat_eq_flatten, classInterfaces, List.map_append, List.map_map,
    List.flatten_append, ← List.flatMap_def]
  simp [interfaceMethodNames, Function.comp_def]

lemma checkedInterfacePack_eq_nil_iff [DecidableEq ι] (symbols : ι → MethodTable (Option μ))
    (symbolName : μ → CharPointer) (interfaces : List (Option ι)) (ownMethods : List (Option μ)) :
    checkedInterfacePack symbols symbolName interfaces ownMethods = [] ↔
      uniqueTypes interfaces = true ∧
      uniqueNames symbolName (collectInterfaceMethods symbols interfaces ++ ownMethods) = true := by
  have hconcat : concat [collectInterfaceMethods symbols interfaces, ownMethods] =
      collectInterfaceMethods symbols interfaces ++ ownMethods := by
    rw [concat_eq_flatten]
    simp only [List.flatten_cons, List.flatten_nil, List.append_nil]
  rw [checkedInterfacePack, hconcat]
  split <;> simp_all

/-- The balanced scan of a declaration table that does not begin with the very last index yields
the methods that are declared strictly between its ends, each once, in the order of their
indices.  A class is accepted exactly when it lists no interface twice and no two of the methods
of its interfaces and of its own have names that are equal as character strings. -/
theorem interface_composition_exact [DecidableEq ι] :
    (∀ (d : Descriptor α) (beginIndex endIndex : UInt64), beginIndex ≠ -1 →
      DeclaredAt d (fun i => beginIndex < i ∧ i < endIndex)
        (methodNamesInRange d beginIndex endIndex)) ∧
    ∀ (symbols : ι → MethodTable (Option μ)) (symbolName : μ → CharPointer)
      (implemented : List ι) (ownMethods : List (Option μ)),
      checkedInterfacePack symbols symbolName (classInterfaces implemented) ownMethods = [] ↔
        implemented.Nodup ∧
        ((implemented.flatMap fun descriptor => (symbols descriptor).methodNames) ++
          ownMethods).reduceOption.Pairwise
            fun m m' => (symbolName m).chars ≠ (symbolName m').chars := by
  refine ⟨fun d beginIndex endIndex h => declaredAt_methodNamesInRange d endIndex h,
    fun symbols symbolName implemented ownMethods => ?_⟩
  rw [checkedInterfacePack_eq_nil_iff, uniqueTypes_iff, uniqueNames_iff,
    reduceOption_classInterfaces, collectInterfaceMethods_classInterfaces]

/-- A descriptor with one method, at index one. -/
def firstLine : Descriptor Unit := fun index => if index = 1 then some () else none

/-- The index behind the very last one is zero again: a table that begins with the last index has
methods although no index lies between its ends. -/
theorem firstLine_not_declaredAt :
    methodNamesInRange firstLine (-1) 2 = [()] ∧
      ¬ DeclaredAt firstLine (fun i => -1 < i ∧ i < 2) (methodNamesInRange firstLine (-1) 2) := by
  have hnames : methodNamesInRange firstLine (-1) 2 = [()] := by
    rw [methodNamesInRange, namesInRange_eq_filterMap]
    decide
  refine ⟨hnames, ?_⟩
  rintro ⟨l, -, hmem, hmap⟩
  have hempty : l = [] := by
    refine List.eq_nil_iff_forall_not_mem.mpr fun i hi => ?_
    obtain ⟨⟨hlow, hhigh⟩, -⟩ := (hmem i).mp hi
    have hlow' := UInt64.lt_iff_toNat_lt.mp hlow
    have hhigh' := UInt64.lt_iff_toNat_lt.mp hhigh
    have hlast : (-1 : UInt64).toNat = 2 ^ 64 - 1 := rfl
    have htwo : (2 : UInt64).toNat = 2 := rfl
    omega
  rw [hnames, hempty] at hmap
  exact absurd hmap (by simp)

end Check

end Dynabridge.Interface
