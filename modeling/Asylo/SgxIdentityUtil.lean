import Asylo.IntelEcdsaQuote

/-! SGX identities (`identity/platform/sgx/sgx_identity.proto` and
`internal/sgx_identity_util_internal.cc`): the code identity and the machine
configuration of an enclave, and the identity read from a hardware report.

The remote assertion verifiers also call code that works on identities and
that this model does not unfold: `SerializeSgxIdentity`, which validates an
identity and wraps it into a generic `EnclaveIdentity`; `EvaluateIdentityAcl`
with the SGX expectation matcher; and `ExtractMachineConfigurationFromPckCert`,
which reads the SGX extension of a PCK certificate. They are the fields of
`IdentityFunctions`. -/
namespace Asylo.SgxIdentityUtil

open IntelEcdsaQuote

/-- `SgxType`. -/
inductive SgxType
  | sgxTypeUnknown
  | standard
  deriving DecidableEq, Repr

/-- `MachineConfiguration`; both fields are optional in the message. -/
structure MachineConfiguration where
  cpuSvn : Option (List UInt8)
  sgxType : Option SgxType
  deriving DecidableEq, Repr

structure Attributes where
  flags : Nat
  xfrm : Nat
  deriving DecidableEq, Repr

structure SignerAssignedIdentity where
  mrsigner : List UInt8
  isvprodid : Nat
  isvsvn : Nat
  deriving DecidableEq, Repr

structure CodeIdentity where
  mrenclave : List UInt8
  signerAssignedIdentity : SignerAssignedIdentity
  miscselect : Nat
  attributes : Attributes
  deriving DecidableEq, Repr

structure SgxIdentity where
  codeIdentity : CodeIdentity
  machineConfiguration : MachineConfiguration
  deriving DecidableEq, Repr

/-- `ParseCodeIdentityFromHardwareReport(report)`. -/
def parseCodeIdentityFromHardwareReport (report : ReportBody) : CodeIdentity :=
  { mrenclave := report.mrenclave.1
    signerAssignedIdentity := ⟨report.mrsigner.1, report.isvprodid, report.isvsvn⟩
    miscselect := report.miscselect
    attributes := ⟨report.attributesFlags, report.attributesXfrm⟩ }

/-- `ParseSgxIdentityFromHardwareReport(report)`: the code identity, and a
machine configuration with only the CPU SVN. -/
def parseSgxIdentityFromHardwareReport (report : ReportBody) : SgxIdentity :=
  { codeIdentity := parseCodeIdentityFromHardwareReport report
    machineConfiguration := ⟨some report.cpusvn.1, none⟩ }

/-- The identity code the verifiers call, over certificate objects `Cert`,
generic identities `EnclaveIdentity` and ACLs `Acl`. -/
structure IdentityFunctions (Cert EnclaveIdentity Acl : Type) where
  serializeSgxIdentity : SgxIdentity → StatusOr EnclaveIdentity
  /-- `EvaluateIdentityAcl(identities, acl, matcher, &explanation)`: whether
  the identities satisfy the ACL, and the explanation it writes. -/
  evaluateIdentityAcl : List EnclaveIdentity → Acl → StatusOr (Bool × String)
  extractMachineConfigurationFromPckCert : Cert → StatusOr MachineConfiguration

end Asylo.SgxIdentityUtil
