import Dynabridge.Export.OverloadDispatch
import Dynabridge.Rpc.Value

/-!
# The scalar converters of the RPC backend

`rpcBackend` is the instance of the overload dispatcher for `rpc_backend` with its built-in
converters: `int`, `unsigned`, `double`, `bool` and `std::string`.  The converters are lawful
(`rpcBackend_lawful`), so that a dispatch over them never reaches the raise for a rejected
probe; and each native value is read back from the dynamic value it is lowered to, by its own
type only (`fromConst_toRvalue`, `probe_toRvalue_iff`).
-/

namespace Dynabridge.Rpc

open Export

/-- The types with a built-in converter. -/
inductive ScalarType
  | int
  | unsigned
  | double
  | bool
  | string
  deriving DecidableEq, Repr

/-- The values of a scalar type; a `double` is its bit pattern. -/
def ScalarType.Native : ScalarType → Type
  | int => Int32
  | unsigned => UInt32
  | double => UInt64
  | bool => Bool
  | string => List UInt8

/-- `std::numeric_limits<int>::min()` -/
def intMin : ℤ := -2 ^ 31

/-- `std::numeric_limits<int>::max()` -/
def intMax : ℤ := 2 ^ 31 - 1

/-- `std::numeric_limits<unsigned>::max()` -/
def unsignedMax : ℕ := 2 ^ 32 - 1

namespace ScalarType

/-- `converter<T>::probe` -/
def probe : ScalarType → Value → Bool
  | int, v => v.kind == .signedInteger && decide (v.asSigned.toInt ≥ intMin)
      && decide (v.asSigned.toInt ≤ intMax)
  | unsigned, v => v.kind == .unsignedInteger && decide (v.asUnsigned.toNat ≤ unsignedMax)
  | double, v => v.kind == .real
  | bool, v => v.kind == .boolean
  | string, v => v.kind == .string

/-- `converter<T>::from` on a `const` value -/
def fromConst : (ty : ScalarType) → Value → Option ty.Native
  | int, v =>
    if v.kind ≠ .signedInteger ∨ v.asSigned.toInt < intMin ∨ v.asSigned.toInt > intMax then none
    else some (v.asSigned.toInt32 : Int32)
  | unsigned, v =>
    if v.kind ≠ .unsignedInteger ∨ v.asUnsigned.toNat > unsignedMax then none
    else some (v.asUnsigned.toUInt32 : UInt32)
  | double, v => if v.kind ≠ .real then none else some (v.asReal : UInt64)
  | bool, v => if v.kind ≠ .boolean then none else some (v.asBoolean : Bool)
  | string, v => if v.kind ≠ .string then none else some (v.copyString : List UInt8)

/-- `converter<T>::from` on a mutable value or an rvalue, which only a string consumes. -/
def fromMutable : (ty : ScalarType) → Value → Option ty.Native × Value
  | string, v =>
    if v.kind ≠ .string then (none, v) else (some (v.takeString.1 : List UInt8), v.takeString.2)
  | int, v => (fromConst int v, v)
  | unsigned, v => (fromConst unsigned v, v)
  | double, v => (fromConst double v, v)
  | bool, v => (fromConst bool v, v)

/-- `converter<T>::to` on an rvalue -/
def toRvalue : (ty : ScalarType) → ty.Native → Value
  | int, (n : Int32) => .signedInteger n.toInt64
  | unsigned, (n : UInt32) => .unsignedInteger n.toUInt64
  | double, (bits : UInt64) => .real bits
  | bool, (b : Bool) => .boolean b
  | string, (text : List UInt8) => .string text

/-- `converter<T>::to` on an lvalue, which borrows a string. -/
def toConst : (ty : ScalarType) → ty.Native → Value
  | string, (text : List UInt8) => .borrowedString text
  | int, n => toRvalue int n
  | unsigned, n => toRvalue unsigned n
  | double, n => toRvalue double n
  | bool, n => toRvalue bool n

end ScalarType

/-- `rpc_backend` with its built-in converters. -/
abbrev rpcBackend : ProbingBackend Value where
  Ty := ScalarType
  Native := ScalarType.Native
  probe := ScalarType.probe
  fromConst := ScalarType.fromConst
  fromMutable := ScalarType.fromMutable
  toRvalue := ScalarType.toRvalue
  undefined := .undefined
  usesRpcExportProbe := true
  opted := rfl

/-- The value-initialised result of a type. -/
def valueInitialised : (result : Option ScalarType) → rpcBackend.Result result
  | none => ()
  | some .int => (0 : Int32)
  | some .unsigned => (0 : UInt32)
  | some .double => (0 : UInt64)
  | some .bool => false
  | some .string => ([] : List UInt8)

namespace ScalarType

/-- A probe accepts exactly the values that can be converted. -/
lemma probe_eq_isSome (ty : ScalarType) (v : Value) :
    ty.probe v = (ty.fromConst v).isSome := by
  cases ty with
  | int =>
    rw [probe, fromConst]
    split
    · rename_i hreject
      simp only [Option.isSome_none, Bool.and_eq_false_iff, beq_eq_false_iff_ne,
        decide_eq_false_iff_not, ge_iff_le, Int.not_le]
      rcases hreject with hkind | hmin | hmax
      · exact .inl (.inl hkind)
      · exact .inl (.inr hmin)
      · exact .inr hmax
    · rename_i haccept
      push Not at haccept
      simp [haccept.1, haccept.2.1, haccept.2.2]
      rfl
  | unsigned =>
    rw [probe, fromConst]
    split
    · rename_i hreject
      simp only [Option.isSome_none, Bool.and_eq_false_iff, beq_eq_false_iff_ne,
        decide_eq_false_iff_not, Nat.not_le]
      exact hreject
    · rename_i haccept
      push Not at haccept
      simp [haccept.1, haccept.2]
      rfl
  | double | bool | string =>
    rw [probe, fromConst]
    split
    · rename_i hreject
      simpa using hreject
    · rename_i haccept
      rw [not_not.mp haccept]
      rfl

/-- A mutable value is read like a constant one. -/
lemma fromMutable_fst (ty : ScalarType) (v : Value) :
    (ty.fromMutable v).1 = ty.fromConst v := by
  cases ty with
  | int | unsigned | double | bool => rfl
  | string => cases v <;> rfl

/-- An `int` on the wire is read back. -/
lemma fromConst_int (n : Int32) :
    fromConst int (.signedInteger n.toInt64) = some (n : Int32) := by
  have hlow : intMin ≤ n.toInt := n.le_toInt
  have hhigh : n.toInt ≤ intMax := n.toInt_le
  have hguard : ¬ ((Value.signedInteger n.toInt64).kind ≠ .signedInteger ∨
      (Value.signedInteger n.toInt64).asSigned.toInt < intMin ∨
      (Value.signedInteger n.toInt64).asSigned.toInt > intMax) := by
    rw [Value.asSigned_signedInteger, Int32.toInt_toInt64]
    push Not
    exact ⟨rfl, hlow, hhigh⟩
  rw [fromConst, if_neg hguard, Value.asSigned_signedInteger, Int32.toInt32_toInt64]
  rfl

/-- An `unsigned` on the wire is read back. -/
lemma fromConst_unsigned (n : UInt32) :
    fromConst unsigned (.unsignedInteger n.toUInt64) = some (n : UInt32) := by
  have hhigh : n.toNat ≤ unsignedMax := Nat.le_of_lt_succ n.toNat_lt
  have hguard : ¬ ((Value.unsignedInteger n.toUInt64).kind ≠ .unsignedInteger ∨
      (Value.unsignedInteger n.toUInt64).asUnsigned.toNat > unsignedMax) := by
    rw [Value.asUnsigned_unsignedInteger, UInt32.toNat_toUInt64]
    push Not
    exact ⟨rfl, hhigh⟩
  rw [fromConst, if_neg hguard, Value.asUnsigned_unsignedInteger, UInt32.toUInt32_toUInt64]
  rfl

/-- A native value is read back from the value an rvalue is lowered to. -/
lemma fromConst_toRvalue (ty : ScalarType) (n : ty.Native) :
    ty.fromConst (ty.toRvalue n) = some n := by
  cases ty with
  | int => exact fromConst_int n
  | unsigned => exact fromConst_unsigned n
  | double => rfl
  | bool => exact congrArg some (Value.asBoolean_boolean n)
  | string => rfl

/-- Lowering an lvalue differs from lowering an rvalue in the ownership of a text only. -/
lemma owned_toConst (ty : ScalarType) (n : ty.Native) : (ty.toConst n).owned = ty.toRvalue n := by
  cases ty <;> rfl

lemma owned_toRvalue (ty : ScalarType) (n : ty.Native) : (ty.toRvalue n).owned = ty.toRvalue n := by
  cases ty <;> rfl

/-- The values of a type are lowered to a kind of their own. -/
def kind : ScalarType → ValueKind
  | int => .signedInteger
  | unsigned => .unsignedInteger
  | double => .real
  | bool => .boolean
  | string => .string

lemma kind_toRvalue (ty : ScalarType) (n : ty.Native) : (ty.toRvalue n).kind = ty.kind := by
  cases ty <;> rfl

lemma kind_of_probe {ty : ScalarType} {v : Value} (h : ty.probe v = true) :
    v.kind = ty.kind := by
  cases ty <;> simp_all [probe, kind]

/-- The value of one type is accepted at that type and at no other. -/
lemma probe_toRvalue_iff (ty ty' : ScalarType) (n : ty.Native) :
    ty'.probe (ty.toRvalue n) = true ↔ ty' = ty := by
  constructor
  · intro h
    have hkind : ty.kind = ty'.kind := by rw [← kind_toRvalue ty n, kind_of_probe h]
    cases ty <;> cases ty' <;> first | rfl | cases hkind
  · rintro rfl
    rw [probe_eq_isSome, fromConst_toRvalue]
    rfl

end ScalarType

/-- The built-in converters are lawful. -/
theorem rpcBackend_lawful : rpcBackend.Lawful :=
  ⟨ScalarType.probe_eq_isSome, ScalarType.fromMutable_fst⟩

/-- Arguments that the probes accept denote native values, whichever way they are read. -/
lemma rpcBackend_denote {tys : List ScalarType} {args : List Value}
    (haccept : rpcBackend.probesAccept tys args = true) :
    ∃ natives, ∀ accessor, rpcBackend.denote accessor tys args = some natives := by
  have hsome := rpcBackend_lawful.isSome_denote consumingVectorAccessor tys args
  rw [haccept] at hsome
  obtain ⟨natives, hnatives⟩ := Option.isSome_iff_exists.mp hsome
  refine ⟨natives, fun accessor => ?_⟩
  rw [← hnatives]
  exact rpcBackend_lawful.denote_eq accessor consumingVectorAccessor tys args

/-! ## Two-phase selection -/

/-- Two-phase selection on an opted-in backend.  Without a viable candidate the dispatch
returns empty, and the arguments have only been probed.  Otherwise the first viable candidate
is selected: no candidate before it and no argument is touched by more than a probe, each of
its arguments is converted once from its original value, and the callable is invoked once,
with the values the arguments denote.  If an argument denotes nothing although its probe
accepted, the dispatch raises instead; over the built-in converters this does not happen. -/
theorem dispatchOptional_twoPhase :
    (∀ {Dynamic : Type} (B : ProbingBackend Dynamic) (binder : Binder B.toBackend)
        (args : List Dynamic),
      (∀ contract ∈ binder.contracts, B.viable args contract = false) ∧
        (∃ probes : List (Event B.toBackend),
          (∀ e ∈ probes, Event.ProbesOriginal args binder.contracts.length e) ∧
          binder.dispatchOptional args.length consumingVectorAccessor args =
            (.ok none, ⟨args, probes⟩)) ∨
      ∃ k sig, B.FirstViable binder.contracts args k sig ∧
        ∃ (probes : List (Event B.toBackend)) (left : List Dynamic),
          (∀ e ∈ probes, Event.ProbesOriginal args (k + 1) e) ∧
          ((∃ natives, B.denote consumingVectorAccessor sig.types args = some natives ∧
            binder.dispatchOptional args.length consumingVectorAccessor args =
              ((binder.callable sig natives).map fun result =>
                  some (B.toExportResult sig.result result),
                ⟨left, probes ++ conversions B.toBackend k args ++ [.invoke k sig natives]⟩)) ∨
          (B.denote consumingVectorAccessor sig.types args = none ∧
            binder.dispatchOptional args.length consumingVectorAccessor args =
              (.error (.badConversion
                  (ascii "dynabridge export argument rejected an accepted probe")),
                ⟨left, probes ++ conversions B.toBackend k args ++
                  [.rejectedAcceptedProbe k]⟩)))) ∧
    ∀ (binder : Binder rpcBackend.toBackend) (args : List Value),
      (∀ k sig, rpcBackend.FirstViable binder.contracts args k sig →
        ∃ natives, rpcBackend.denote ⟨false, none⟩ sig.types args = some natives ∧
          rpcBackend.denote consumingVectorAccessor sig.types args = some natives) ∧
      ∀ k, Event.rejectedAcceptedProbe k ∉
        (binder.dispatchOptional args.length consumingVectorAccessor args).2.log := by
  refine ⟨fun B binder args => ?_, fun binder args => ⟨fun k sig hfirst => ?_, fun k hmem => ?_⟩⟩
  · rcases Binder.dispatchOptional_cases B binder args with
      hnone | ⟨k, sig, hfirst, probes, left, hprobes, hrun⟩
    · exact .inl hnone
    · refine .inr ⟨k, sig, hfirst, probes, left, hprobes, ?_⟩
      cases hdenote : B.denote consumingVectorAccessor sig.types args with
      | some natives =>
        rw [hdenote] at hrun
        exact .inl ⟨natives, rfl, hrun⟩
      | none =>
        rw [hdenote] at hrun
        exact .inr ⟨rfl, hrun⟩
  · obtain ⟨natives, hdenote⟩ := rpcBackend_denote hfirst.accepts
    exact ⟨natives, hdenote _, hdenote _⟩
  · rcases Binder.dispatchOptional_cases rpcBackend binder args with
      ⟨-, probes, hprobes, hrun⟩ | ⟨j, sig, hfirst, probes, left, hprobes, hrun⟩
    · rw [hrun] at hmem
      obtain ⟨_, _, _, _, _, heq⟩ := hprobes _ hmem
      cases heq
    · obtain ⟨natives, hdenote⟩ := rpcBackend_denote hfirst.accepts
      rw [hrun, hdenote] at hmem
      simp only [List.mem_append, List.mem_singleton] at hmem
      rcases hmem with (hmem | hmem) | hmem
      · obtain ⟨_, _, _, _, _, heq⟩ := hprobes _ hmem
        cases heq
      · obtain ⟨i, hi, heq⟩ := List.mem_mapIdx.mp hmem
        cases heq
      · cases hmem

end Dynabridge.Rpc
