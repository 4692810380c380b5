import Asylo.Util

/-! The comparison of SGX TCBs (`identity/provisioning/sgx/internal/tcb.cc`),
which picks the TCB level, and so the security status, that applies to a
platform.

`CompareTcbs` folds `OrderCombine` over the `CompareTotal` of the sixteen
component bytes, stopping early at `kIncomparable`, and then combines the
comparison of the PCE SVNs. The protobuf messages are records of optional
fields; an accessor of an unset field gives the field's default. -/
namespace Asylo.Provisioning

/-- `PartialOrder`, the result of comparing two TCBs. -/
inductive PartialOrder where
  | kLess
  | kEqual
  | kGreater
  | kIncomparable
  deriving DecidableEq, Repr

/-- `CompareTotal(lhs, rhs)` for a type where exactly one of `<`, `==`, `>`
holds. -/
def compareTotal {α : Type} [LT α] [DecidableRel (α := α) (· < ·)] [DecidableEq α] (lhs rhs : α) : PartialOrder :=
  if lhs < rhs then .kLess
  else if lhs = rhs then .kEqual
  else .kGreater

/-- `OrderCombine(lhs, rhs)`: the order between two pairs in the product
ordering, from the orders between their first and their second elements. -/
def orderCombine : PartialOrder → PartialOrder → PartialOrder
  | .kLess, rhs => if rhs = .kLess ∨ rhs = .kEqual then .kLess else .kIncomparable
  | .kEqual, rhs => rhs
  | .kGreater, rhs => if rhs = .kEqual ∨ rhs = .kGreater then .kGreater else .kIncomparable
  | .kIncomparable, _ => .kIncomparable

/-- The `TcbType` enum. -/
inductive TcbType where
  | tcbTypeUnknown
  | tcbType0
  deriving DecidableEq, Repr

/-- `ProtoEnumValueName` of a `TcbType`. -/
def TcbType.name : TcbType → String
  | .tcbTypeUnknown => "TCB_TYPE_UNKNOWN"
  | .tcbType0 => "TCB_TYPE_0"

/-- The `PceSvn` message. -/
structure PceSvn where
  value : Option UInt32
  deriving DecidableEq, Repr

/-- The `Tcb` message. -/
structure Tcb where
  components : Option (List UInt8)
  pceSvn : Option PceSvn
  deriving DecidableEq, Repr

/-- `Tcb::components()`: the bytes, or empty when unset. -/
def Tcb.componentBytes (tcb : Tcb) : List UInt8 := tcb.components.getD []

/-- `tcb.pce_svn().value()`: zero when either is unset. -/
def Tcb.pceSvnValue (tcb : Tcb) : UInt32 := ((tcb.pceSvn.map PceSvn.value).join).getD 0

/-- `kTcbComponentsSize`. -/
def kTcbComponentsSize : Nat := 16

/-- `kPceSvnMaxValue`, the largest `uint16_t`. -/
def kPceSvnMaxValue : UInt32 := 65535

/-- `ValidatePceSvn`. -/
def validatePceSvn (pceSvn : PceSvn) : StatusOr Unit :=
  match pceSvn.value with
  | none => .error ⟨.invalidArgument, "PceSvn does not have a \"value\" field"⟩
  | some value =>
    if value > kPceSvnMaxValue then
      .error ⟨.invalidArgument, "PceSvn\x27s \"value\" field is too large (must be less than " ++
        toString kPceSvnMaxValue ++ ")"⟩
    else .ok ()

/-- `ValidateTcb`. -/
def validateTcb (tcb : Tcb) : StatusOr Unit :=
  match tcb.components, tcb.pceSvn with
  | none, _ => .error ⟨.invalidArgument, "Tcb does not have a \"components\" field"⟩
  | some _, none => .error ⟨.invalidArgument, "Tcb does not have a \"pce_svn\" field"⟩
  | some components, some pceSvn =>
    if components.length ≠ kTcbComponentsSize then
      .error ⟨.invalidArgument, "Tcb\x27s \"components\" field has an invalid size (must be exactly " ++
        toString kTcbComponentsSize ++ " bytes)"⟩
    else validatePceSvn pceSvn

/-- The loop of `CompareTcbs` over the component indices `indices`, from
`current`: `none` where it returns `kIncomparable` early. -/
def compareComponents (lhs rhs : List UInt8) : PartialOrder → List Nat → Option PartialOrder
  | current, [] => some current
  | current, i :: rest =>
    let current := orderCombine current (compareTotal (lhs.getD i 0) (rhs.getD i 0))
    if current = .kIncomparable then none else compareComponents lhs rhs current rest

/-- `CompareTcbs(tcb_type, lhs, rhs)`. -/
def compareTcbs (tcbType : TcbType) (lhs rhs : Tcb) : StatusOr PartialOrder :=
  match tcbType with
  | .tcbType0 =>
    match compareComponents lhs.componentBytes rhs.componentBytes .kEqual (List.range kTcbComponentsSize) with
    | none => .ok .kIncomparable
    | some current => .ok (orderCombine current (compareTotal lhs.pceSvnValue rhs.pceSvnValue))
  | other => .error ⟨.invalidArgument, "Unknown TCB type: " ++ other.name⟩

end Asylo.Provisioning
