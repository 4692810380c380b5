import Asylo.SgxIdentityUtil
import Asylo.PckCertificateUtil

/-! Matching an SGX identity against an expectation
(`identity/platform/sgx/internal/sgx_identity_util_internal.cc`), with the
checks of identities, match specs and expectations it starts with.

The messages are those of `code_identity.proto`, `machine_configuration.proto`
and `sgx_identity.proto`, all proto2: each optional field is an `Option`, and
an accessor of an unset field reads the field's default, as the C++ one does.
Validity and compatibility are about which fields are set, which the messages
of `SgxIdentityUtil` (the identity of a hardware report, where every field is
set) do not record.

The match itself runs six checks on the code identity and two on the machine
configuration. Each failed check adds an explanation, and the identity matches
exactly when none is added. The explanations' texts follow the source's format
strings; the ATTRIBUTES ones print each field with the names of its set bits,
as `FormatProto` does with the printers `proto_format.cc` registers. -/
namespace Asylo.SgxIdentityUtil

instance : Inhabited SgxType := ⟨.sgxTypeUnknown⟩

instance : Inhabited Attributes := ⟨⟨0, 0⟩⟩

/-- `operator&` of two `Attributes` (`attributes_util.cc`). -/
def Attributes.and (lhs rhs : Attributes) : Attributes := ⟨lhs.flags &&& rhs.flags, lhs.xfrm &&& rhs.xfrm⟩

/-- `ProtoEnumValueName` of an `SgxType`. -/
def SgxType.protoEnumValueName : SgxType → String
  | .sgxTypeUnknown => "SGX_TYPE_UNKNOWN"
  | .standard => "STANDARD"

end Asylo.SgxIdentityUtil

namespace Asylo.SgxIdentityMatch

open SgxIdentityUtil (SgxType Attributes)
open Provisioning (CpuSvn validateCpuSvn)

instance : Inhabited CpuSvn := ⟨⟨none⟩⟩

/-- `Sha256HashProto`; its one field is required. -/
structure Sha256HashProto where
  hash : List UInt8
  deriving DecidableEq, Repr, Inhabited

/-- `SignerAssignedIdentity`. -/
structure SignerAssignedIdentity where
  mrsigner : Option Sha256HashProto
  isvprodid : Option Nat
  isvsvn : Option Nat
  deriving DecidableEq, Repr, Inhabited

/-- `CodeIdentity`. -/
structure CodeIdentity where
  mrenclave : Option Sha256HashProto
  signerAssignedIdentity : Option SignerAssignedIdentity
  miscselect : Option Nat
  attributes : Option Attributes
  deriving DecidableEq, Repr, Inhabited

/-- `MachineConfiguration`. -/
structure MachineConfiguration where
  cpuSvn : Option CpuSvn
  sgxType : Option SgxType
  deriving DecidableEq, Repr, Inhabited

/-- `SgxIdentity`. -/
structure SgxIdentity where
  codeIdentity : Option CodeIdentity
  machineConfiguration : Option MachineConfiguration
  deriving DecidableEq, Repr, Inhabited

/-- `CodeIdentityMatchSpec`. -/
structure CodeIdentityMatchSpec where
  isMrenclaveMatchRequired : Option Bool
  isMrsignerMatchRequired : Option Bool
  miscselectMatchMask : Option Nat
  attributesMatchMask : Option Attributes
  deriving DecidableEq, Repr, Inhabited

/-- `MachineConfigurationMatchSpec`. -/
structure MachineConfigurationMatchSpec where
  isCpuSvnMatchRequired : Option Bool
  isSgxTypeMatchRequired : Option Bool
  deriving DecidableEq, Repr, Inhabited

/-- `SgxIdentityMatchSpec`. -/
structure SgxIdentityMatchSpec where
  codeIdentityMatchSpec : Option CodeIdentityMatchSpec
  machineConfigurationMatchSpec : Option MachineConfigurationMatchSpec
  deriving DecidableEq, Repr, Inhabited

/-- `SgxIdentityExpectation`. -/
structure SgxIdentityExpectation where
  referenceIdentity : Option SgxIdentity
  matchSpec : Option SgxIdentityMatchSpec
  deriving DecidableEq, Repr, Inhabited

/-! ## Formatting the explanations -/

/-- `%#08x` of `absl::StrFormat`: at least eight characters, zero padded,
with the prefix `0x` counted in the width and left out for zero. -/
def formatAlternateHex08 (value : Nat) : String :=
  if value = 0 then "00000000"
  else
    let digits := Nat.toDigits 16 value
    "0x" ++ String.ofList (List.replicate (6 - digits.length) '0' ++ digits)

/-- `AttributeBit` (`architecture_bits.h`). -/
inductive AttributeBit
  | INIT
  | DEBUG
  | MODE64BIT
  | PROVISIONKEY
  | INITTOKENKEY
  | KSS
  | FPU
  | SSE
  | AVX
  | BNDREG
  | BNDCSR
  | OPMASK
  | ZMM_HI256
  | HI16_ZMM
  | PKRU
  deriving DecidableEq, Repr

/-- The bit position of an `AttributeBit`: the flags bits from 0, the XFRM
bits from 64. -/
def AttributeBit.position : AttributeBit → Nat
  | .INIT => 0
  | .DEBUG => 1
  | .MODE64BIT => 2
  | .PROVISIONKEY => 4
  | .INITTOKENKEY => 5
  | .KSS => 7
  | .FPU => 64 + 0
  | .SSE => 64 + 1
  | .AVX => 64 + 2
  | .BNDREG => 64 + 3
  | .BNDCSR => 64 + 4
  | .OPMASK => 64 + 5
  | .ZMM_HI256 => 64 + 6
  | .HI16_ZMM => 64 + 7
  | .PKRU => 64 + 9

/-- `kAllAttributeBits`. -/
def kAllAttributeBits : List AttributeBit :=
  [.INIT, .DEBUG, .MODE64BIT, .PROVISIONKEY, .INITTOKENKEY, .KSS, .FPU, .SSE, .AVX, .BNDREG, .BNDCSR, .OPMASK,
    .ZMM_HI256, .HI16_ZMM, .PKRU]

/-- `GetAttributeName`. -/
def getAttributeName : AttributeBit → String
  | .INIT => "INIT"
  | .DEBUG => "DEBUG"
  | .MODE64BIT => "MODE64BIT"
  | .PROVISIONKEY => "PROVISIONKEY"
  | .INITTOKENKEY => "INITTOKENKEY"
  | .KSS => "KSS"
  | .FPU => "FPU"
  | .SSE => "SSE"
  | .AVX => "AVX"
  | .BNDREG => "BNDREG"
  | .BNDCSR => "BNDCSR"
  | .OPMASK => "OPMASK"
  | .ZMM_HI256 => "ZMM_HI256"
  | .HI16_ZMM => "HI16_ZMM"
  | .PKRU => "PKRU"

/-- `kNumFlagsBits`. -/
def kNumFlagsBits : Nat := 64

/-- `IsAttributeBitSet(bit, attributes)`. Every bit of `kAllAttributeBits`
lies below 128, so `GetAttributeBitMask` never fails on one. -/
def isAttributeBitSet (bit : AttributeBit) (attributes : Attributes) : Bool :=
  let mask := 1 <<< (bit.position % kNumFlagsBits)
  if bit.position < kNumFlagsBits then attributes.flags &&& mask ≠ 0 else attributes.xfrm &&& mask ≠ 0

/-- `GetPrintableAttributeList(attributes)`. -/
def getPrintableAttributeList (attributes : Attributes) : List String :=
  (kAllAttributeBits.filter fun bit => isAttributeBitSet bit attributes).map getAttributeName

/-- `FormatProtoWithoutNewlines(attributes)`: the text format of the message,
each field's bits printed by name, with the newline after each field turned
into a space. -/
def formatProtoWithoutNewlines (attributes : Attributes) : String :=
  "flags: [" ++ ", ".intercalate (getPrintableAttributeList ⟨attributes.flags, 0⟩) ++ "] xfrm: [" ++
    ", ".intercalate (getPrintableAttributeList ⟨0, attributes.xfrm⟩) ++ "] "

/-- `WithAppendedExplanations(current, explanations)`. -/
def withAppendedExplanations (current : String) (explanations : List String) : String :=
  if explanations.isEmpty then current else current ++ " and " ++ " and ".intercalate explanations

/-! ## The match -/

/-- The explanations a list of checks adds: those of the checks that fail,
in order. -/
def explanationsOf (checks : List (Bool × String)) : List String :=
  (checks.filter fun check => check.1).map fun check => check.2

/-- The six checks of `MatchIdentityToExpectation` on code identities, in the
order of the source: whether each fails, and the explanation it adds then. -/
def codeIdentityChecks (identity expected : CodeIdentity) (spec : CodeIdentityMatchSpec) : List (Bool × String) :=
  let givenId := identity.signerAssignedIdentity.getD default
  let expectedId := expected.signerAssignedIdentity.getD default
  let miscselectMask := spec.miscselectMatchMask.getD 0
  let attributesMask := spec.attributesMatchMask.getD default
  [(spec.isMrenclaveMatchRequired.getD false && identity.mrenclave.getD default != expected.mrenclave.getD default,
      "MRENCLAVE value " ++ bytesToHexString (identity.mrenclave.getD default).hash ++
        " does not match expected MRENCLAVE value " ++ bytesToHexString (expected.mrenclave.getD default).hash),
    (spec.isMrsignerMatchRequired.getD false && givenId.mrsigner.getD default != expectedId.mrsigner.getD default,
      "MRSIGNER value " ++ bytesToHexString (givenId.mrsigner.getD default).hash ++
        " does not match expected MRSIGNER value " ++ bytesToHexString (expectedId.mrsigner.getD default).hash),
    (givenId.isvprodid.getD 0 != expectedId.isvprodid.getD 0,
      "ISVPRODID value " ++ toString (givenId.isvprodid.getD 0) ++ " does not match expected ISVPRODID value " ++
        toString (expectedId.isvprodid.getD 0)),
    (decide (givenId.isvsvn.getD 0 < expectedId.isvsvn.getD 0),
      "ISVSVN value " ++ toString (givenId.isvsvn.getD 0) ++ " is lower than expected ISVSVN value " ++
        toString (expectedId.isvsvn.getD 0)),
    ((miscselectMask &&& identity.miscselect.getD 0) != (miscselectMask &&& expected.miscselect.getD 0),
      "MISCSELECT value " ++ formatAlternateHex08 (identity.miscselect.getD 0) ++
        " does not match expected MISCSELECT value " ++ formatAlternateHex08 (expected.miscselect.getD 0) ++
        " masked with " ++ formatAlternateHex08 miscselectMask),
    (attributesMask.and (identity.attributes.getD default) != attributesMask.and (expected.attributes.getD default),
      "ATTRIBUTES value \x7b" ++ formatProtoWithoutNewlines (identity.attributes.getD default) ++
        "\x7d does not match expected ATTRIBUTES value \x7b" ++ formatProtoWithoutNewlines (expected.attributes.getD default) ++
        "\x7d masked with \x7b" ++ formatProtoWithoutNewlines attributesMask ++ "\x7d")]

/-- `MatchIdentityToExpectation` of two `CodeIdentity`s: whether they match,
and the explanation it writes. -/
def matchCodeIdentityToExpectation (identity expected : CodeIdentity) (spec : CodeIdentityMatchSpec) :
    Bool × String :=
  let explanations := explanationsOf (codeIdentityChecks identity expected spec)
  (explanations.isEmpty, " and ".intercalate explanations)

/-- The two checks of `MatchIdentityToExpectation` on machine
configurations. -/
def machineConfigurationChecks (actualConfig expectedConfig : MachineConfiguration)
    (spec : MachineConfigurationMatchSpec) : List (Bool × String) :=
  let actualCpuSvn := (actualConfig.cpuSvn.getD default).value.getD []
  let expectedCpuSvn := (expectedConfig.cpuSvn.getD default).value.getD []
  [(spec.isCpuSvnMatchRequired.getD false && actualCpuSvn != expectedCpuSvn,
      "CPUSVN value " ++ bytesToHexString actualCpuSvn ++ " does not match expected CPUSVN value " ++
        bytesToHexString expectedCpuSvn),
    (spec.isSgxTypeMatchRequired.getD false && actualConfig.sgxType.getD default != expectedConfig.sgxType.getD default,
      "SGX Type " ++ (actualConfig.sgxType.getD default).protoEnumValueName ++ " does not match expected SGX Type " ++
        (expectedConfig.sgxType.getD default).protoEnumValueName)]

/-! ## Validity and compatibility -/

/-- `IsValidMatchSpec` of a `CodeIdentityMatchSpec`. -/
def CodeIdentityMatchSpec.isValidMatchSpec (matchSpec : CodeIdentityMatchSpec) : Bool :=
  matchSpec.isMrenclaveMatchRequired.isSome && matchSpec.isMrsignerMatchRequired.isSome &&
    matchSpec.miscselectMatchMask.isSome && matchSpec.attributesMatchMask.isSome

/-- `IsValidMatchSpec` of an `SgxIdentityMatchSpec`. -/
def SgxIdentityMatchSpec.isValidMatchSpec (matchSpec : SgxIdentityMatchSpec) : Bool :=
  let machineConfigMatchSpec := matchSpec.machineConfigurationMatchSpec.getD default
  if !machineConfigMatchSpec.isCpuSvnMatchRequired.isSome || !machineConfigMatchSpec.isSgxTypeMatchRequired.isSome then
    false
  else (matchSpec.codeIdentityMatchSpec.getD default).isValidMatchSpec

/-- `IsValidSignerAssignedIdentity`. -/
def isValidSignerAssignedIdentity (identity : SignerAssignedIdentity) : Bool :=
  identity.isvprodid.isSome && identity.isvsvn.isSome

/-- `IsValidSgxIdentity`: a CPU SVN, when there is one, passes
`ValidateCpuSvn`; the signer-assigned identity has its ISVPRODID and ISVSVN;
MISCSELECT and ATTRIBUTES are set. -/
def isValidSgxIdentity (identity : SgxIdentity) : Bool :=
  let machineConfig := identity.machineConfiguration.getD default
  if machineConfig.cpuSvn.isSome && !(validateCpuSvn (machineConfig.cpuSvn.getD default)).isOk then false
  else
    let codeIdentity := identity.codeIdentity.getD default
    if !codeIdentity.signerAssignedIdentity.isSome ||
        !isValidSignerAssignedIdentity (codeIdentity.signerAssignedIdentity.getD default) then false
    else codeIdentity.miscselect.isSome && codeIdentity.attributes.isSome

/-- `IsIdentityCompatibleWithMatchSpec` of a `CodeIdentity`: the MRENCLAVE and
MRSIGNER that the spec asks to match are set. -/
def CodeIdentity.isIdentityCompatibleWithMatchSpec (identity : CodeIdentity) (spec : CodeIdentityMatchSpec) : Bool :=
  if spec.isMrenclaveMatchRequired.getD false && !identity.mrenclave.isSome then false
  else if spec.isMrsignerMatchRequired.getD false &&
      !(identity.signerAssignedIdentity.getD default).mrsigner.isSome then false
  else true

/-- `IsIdentityCompatibleWithMatchSpec` of an `SgxIdentity`. -/
def SgxIdentity.isIdentityCompatibleWithMatchSpec (identity : SgxIdentity) (spec : SgxIdentityMatchSpec) : Bool :=
  let machineConfig := identity.machineConfiguration.getD default
  let machineConfigMatchSpec := spec.machineConfigurationMatchSpec.getD default
  if machineConfigMatchSpec.isCpuSvnMatchRequired.getD false && !machineConfig.cpuSvn.isSome then false
  else if machineConfigMatchSpec.isSgxTypeMatchRequired.getD false && !machineConfig.sgxType.isSome then false
  else (identity.codeIdentity.getD default).isIdentityCompatibleWithMatchSpec (spec.codeIdentityMatchSpec.getD default)

/-- `IsValidExpectation`. -/
def isValidExpectation (expectation : SgxIdentityExpectation) : Bool :=
  let spec := expectation.matchSpec.getD default
  if !spec.isValidMatchSpec then false
  else
    let identity := expectation.referenceIdentity.getD default
    if !isValidSgxIdentity identity then false
    else identity.isIdentityCompatibleWithMatchSpec spec

/-- `MatchIdentityToExpectation(identity, expectation, &explanation)`: whether
the identity matches, and the explanation it writes, the code identity's
followed by the machine configuration's. -/
def matchIdentityToExpectation (identity : SgxIdentity) (expectation : SgxIdentityExpectation) :
    StatusOr (Bool × String) :=
  if !isValidExpectation expectation then .error ⟨.invalidArgument, "Expectation parameter is invalid"⟩
  else if !isValidSgxIdentity identity then .error ⟨.invalidArgument, "Identity parameter is invalid"⟩
  else if !identity.isIdentityCompatibleWithMatchSpec (expectation.matchSpec.getD default) then
    .error ⟨.invalidArgument, "Identity is not compatible with specified match spec"⟩
  else
    let spec := expectation.matchSpec.getD default
    let reference := expectation.referenceIdentity.getD default
    let explanations := explanationsOf (machineConfigurationChecks (identity.machineConfiguration.getD default)
      (reference.machineConfiguration.getD default) (spec.machineConfigurationMatchSpec.getD default))
    let codeIdentityMatch := matchCodeIdentityToExpectation (identity.codeIdentity.getD default)
      (reference.codeIdentity.getD default) (spec.codeIdentityMatchSpec.getD default)
    .ok (explanations.isEmpty && codeIdentityMatch.1, withAppendedExplanations codeIdentityMatch.2 explanations)

/-- `SetExpectation(match_spec, identity, &expectation)`. -/
def setExpectation (matchSpec : SgxIdentityMatchSpec) (identity : SgxIdentity) : StatusOr SgxIdentityExpectation :=
  if !matchSpec.isValidMatchSpec then .error ⟨.invalidArgument, "Match spec is invalid"⟩
  else if !isValidSgxIdentity identity then .error ⟨.invalidArgument, "Identity is invalid"⟩
  else .ok ⟨some identity, some matchSpec⟩

end Asylo.SgxIdentityMatch
