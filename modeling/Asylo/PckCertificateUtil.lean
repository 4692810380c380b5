import Asylo.Asn1
import Asylo.Tcb
import Asylo.LittleEndian

/-! The SGX extensions of a PCK certificate: their reader and writer
(`identity/provisioning/sgx/internal/pck_certificate_util.cc`) and the checks
of their fields (`platform_provisioning.cc`).

The extensions are a SEQUENCE of `(OID, value)` pairs, read and written with
`OidAnySequenceSchema()`; the value of the TCB is itself such a sequence.
`ReadOidAnySequence` dispatches each pair on its OID through a table of read
functions, refuses a repeated, unknown or missing OID, collects the
`INVALID_ARGUMENT` failures of the read functions and returns any other
failure at once. The C++ read functions fill a record they capture by
reference; here each takes the record and returns it filled. A failed read
leaves it unchanged here, where the C++ may have filled part of it, but every
read that fails makes the whole read fail. The `absl::flat_hash_map` of read
functions is iterated in the order of the table as written, which decides only
the order of the "Missing extension" errors. -/
namespace Asylo.Provisioning

/-- `kPpidSize`, `kCpusvnSize` and `kFmspcSize`. -/
def kPpidSize : Nat := 16

def kCpusvnSize : Nat := 16

def kFmspcSize : Nat := 6

/-- `kPceIdMaxValue`, the largest `uint16_t`. -/
def kPceIdMaxValue : UInt32 := 65535

/-- The `Ppid` message. -/
structure Ppid where
  value : Option (List UInt8)
  deriving DecidableEq, Repr

/-- The `CpuSvn` message. -/
structure CpuSvn where
  value : Option (List UInt8)
  deriving DecidableEq, Repr

/-- The `PceId` message. -/
structure PceId where
  value : Option UInt32
  deriving DecidableEq, Repr

/-- The `Fmspc` message. -/
structure Fmspc where
  value : Option (List UInt8)
  deriving DecidableEq, Repr

/-- The `SgxType` enum. -/
inductive SgxType
  | sgxTypeUnknown
  | standard
  deriving DecidableEq, Repr

/-- The number of an `SgxType` in `machine_configuration.proto`. -/
def SgxType.number : SgxType → Nat
  | .sgxTypeUnknown => 0
  | .standard => 1001

/-- `SgxExtensions`. -/
structure SgxExtensions where
  ppid : Ppid
  tcb : Tcb
  cpuSvn : CpuSvn
  pceId : PceId
  fmspc : Fmspc
  sgxType : SgxType
  deriving DecidableEq, Repr

/-- The `SgxExtensions extensions;` that `ReadSgxExtensions` fills: every
message empty. Its `sgx_type` is not initialized in the C++; every successful
read sets it. -/
def emptySgxExtensions : SgxExtensions :=
  ⟨⟨none⟩, ⟨none, none⟩, ⟨none⟩, ⟨none⟩, ⟨none⟩, .sgxTypeUnknown⟩

/-! ## Field checks -/

/-- The check of a `bytes` field that must hold exactly `size` bytes, with the
messages of its two failures. -/
def validateFixedSizeValue (value : Option (List UInt8)) (size : Nat) (missingMessage sizeMessage : String) :
    StatusOr Unit :=
  match value with
  | none => .error ⟨.invalidArgument, missingMessage⟩
  | some bytes => if bytes.length ≠ size then .error ⟨.invalidArgument, sizeMessage⟩ else .ok ()

/-- `ValidatePpid`. -/
def validatePpid (ppid : Ppid) : StatusOr Unit :=
  validateFixedSizeValue ppid.value kPpidSize "Ppid does not have a \"value\" field"
    ("Ppid\x27s \"value\" field has an invalid size (must be exactly " ++ toString kPpidSize ++ " bytes)")

/-- `ValidateCpuSvn`. -/
def validateCpuSvn (cpuSvn : CpuSvn) : StatusOr Unit :=
  validateFixedSizeValue cpuSvn.value kCpusvnSize "CpuSvn does not have a \"value\" field"
    ("CpuSvn\x27s \"value\" field has an invalid size (must be exactly " ++ toString kCpusvnSize ++ " bytes)")

/-- `ValidateFmspc`; its size message, unlike the others, has no "field". -/
def validateFmspc (fmspc : Fmspc) : StatusOr Unit :=
  validateFixedSizeValue fmspc.value kFmspcSize "Fmspc does not have a \"value\" field"
    ("Fmspc\x27s \"value\" has an invalid size (must be exactly " ++ toString kFmspcSize ++ " bytes)")

/-- `ValidatePceId`. -/
def validatePceId (pceId : PceId) : StatusOr Unit :=
  match pceId.value with
  | none => .error ⟨.invalidArgument, "PceId does not have a \"value\" field"⟩
  | some value =>
    if value > kPceIdMaxValue then
      .error ⟨.invalidArgument, "PceId\x27s \"value\" field is too large (must be less than " ++
        toString kPceIdMaxValue ++ ")"⟩
    else .ok ()

/-- `ValidateSgxExtensions`. `SgxType_IsValid` holds of every `SgxType`
here. -/
def validateSgxExtensions (extensions : SgxExtensions) : StatusOr Unit := do
  validatePpid extensions.ppid
  validateTcb extensions.tcb
  validateCpuSvn extensions.cpuSvn
  validatePceId extensions.pceId
  validateFmspc extensions.fmspc
  if extensions.sgxType = .sgxTypeUnknown then
    throw ⟨.invalidArgument, "Invalid SgxType: " ++ toString extensions.sgxType.number⟩

/-- `ToRawSgxType`: `STANDARD` is the ENUMERATED value `kStandard = 0`. -/
def toRawSgxType (sgxType : SgxType) : StatusOr Int :=
  match sgxType with
  | .standard => .ok 0
  | .sgxTypeUnknown => .error ⟨.invalidArgument, "No known ENUMERATED value for SgxType: " ++ toString sgxType.number⟩

/-- `FromRawSgxType`. -/
def fromRawSgxType (raw : Int) : StatusOr SgxType :=
  if raw = 0 then .ok .standard else .error ⟨.invalidArgument, "Unknown SGX Type code: " ++ toString raw⟩

/-! ## The OIDs -/

/-- The arcs of `1.2.840.113741.1.13.1`, the OID of the SGX extensions; every
OID below extends it. -/
def sgxExtensionsArcs : List Nat := [1, 2, 840, 113741, 1, 13, 1]

namespace SgxOids

/-- `1.2.840.113741.1.13.1.1`. -/
def ppid : ObjectId := ⟨sgxExtensionsArcs ++ [1]⟩

/-- `1.2.840.113741.1.13.1.2`. -/
def tcb : ObjectId := ⟨sgxExtensionsArcs ++ [2]⟩

/-- `1.2.840.113741.1.13.1.2.(i + 1)`, the OID of TCB component SVN `i`. -/
def sgxTcbCompSvns (i : Nat) : ObjectId := ⟨sgxExtensionsArcs ++ [2, i + 1]⟩

/-- `1.2.840.113741.1.13.1.2.17`. -/
def pceSvn : ObjectId := ⟨sgxExtensionsArcs ++ [2, 17]⟩

/-- `1.2.840.113741.1.13.1.2.18`. -/
def cpuSvn : ObjectId := ⟨sgxExtensionsArcs ++ [2, 18]⟩

/-- `1.2.840.113741.1.13.1.3`. -/
def pceId : ObjectId := ⟨sgxExtensionsArcs ++ [3]⟩

/-- `1.2.840.113741.1.13.1.4`. -/
def fmspc : ObjectId := ⟨sgxExtensionsArcs ++ [4]⟩

/-- `1.2.840.113741.1.13.1.5`. -/
def sgxType : ObjectId := ⟨sgxExtensionsArcs ++ [5]⟩

end SgxOids

/-! ## `ReadOidAnySequence` -/

/-- `Optionality`. -/
inductive Optionality
  | REQUIRED
  | OPTIONAL
  deriving DecidableEq, Repr

/-- A `ReadInfo`: the read function, on the record it fills, and whether the
OID must occur. -/
structure ReadInfo (σ : Type) where
  readFunction : Asn1Value → σ → StatusOr σ
  optionality : Optionality

/-- The state of the loop of `ReadOidAnySequence`: `found_oids`, `errors`,
and the record the read functions fill. -/
structure ReadState (σ : Type) where
  foundOids : List ObjectId
  errors : List String
  target : σ

variable {σ : Type}

/-- One round of the loop of `ReadOidAnySequence`, on one pair. The OID goes
into `found_oids` before it is looked up, so an unknown OID that occurs twice
is also reported as repeated. -/
def readOidAnySequenceStep (readInfos : List (ObjectId × ReadInfo σ)) (state : ReadState σ) :
    ObjectId × Asn1Value → StatusOr (ReadState σ)
  | (oid, asn1) =>
    if oid ∈ state.foundOids then
      .ok { state with errors := state.errors ++ ["Found repeated OID: " ++ oid.getOidString] }
    else
      let foundOids := state.foundOids ++ [oid]
      match readInfos.lookup oid with
      | none => .ok { state with foundOids, errors := state.errors ++ ["Unexpected OID: " ++ oid.getOidString] }
      | some readInfo =>
        match withContext (readInfo.readFunction asn1 state.target)
            ("Error reading value for OID " ++ oid.getOidString ++ ": ") with
        | .ok target => .ok { state with foundOids, target }
        | .error readStatus =>
          if readStatus.code = .invalidArgument then
            .ok { state with foundOids, errors := state.errors ++ [readStatus.message] }
          else .error readStatus

/-- The loop of `ReadOidAnySequence` over the `REQUIRED` OIDs not found. -/
def missingExtensionErrors (readInfos : List (ObjectId × ReadInfo σ)) (foundOids : List ObjectId) : List String :=
  readInfos.filterMap fun entry =>
    if entry.2.optionality = .REQUIRED ∧ entry.1 ∉ foundOids then
      some ("Missing extension with OID " ++ entry.1.getOidString)
    else none

/-- `ReadOidAnySequence(read_infos, sequence)`, returning the filled record
with its OK status. -/
def readOidAnySequence (readInfos : List (ObjectId × ReadInfo σ)) (sequence : List (ObjectId × Asn1Value))
    (target : σ) : StatusOr σ := do
  let state ← sequence.foldlM (readOidAnySequenceStep readInfos) ⟨[], [], target⟩
  let errors := state.errors ++ missingExtensionErrors readInfos state.foundOids
  if errors.isEmpty then return state.target
  else throw ⟨.invalidArgument, "Encountered the following errors:\n  " ++ "\n  ".intercalate errors⟩

/-! ## Reading and writing the extensions -/

/-- `OidAnySequenceSchema()`: a SEQUENCE of at least one `(OID, ANY)` pair. -/
def oidAnySequenceSchema : Asn1Schema (List (ObjectId × Asn1Value)) :=
  .sequenceOf (.sequence .objectId .any) 1 kSizeMax (by decide)

/-- `ReadOctetStringWithSize(asn1, expected_size)`. -/
def readOctetStringWithSize (asn1 : Asn1Value) (expectedSize : Nat) : StatusOr (List UInt8) := do
  let bytes ← asn1.getOctetString
  if bytes.length ≠ expectedSize then
    throw ⟨.invalidArgument, "Expected a container of size " ++ toString expectedSize ++ ", found size " ++
      toString bytes.length⟩
  return bytes

/-- `std::string::resize(size)`: cut to `size` bytes, or padded with zeros. -/
def resizeBytes (bytes : List UInt8) (size : Nat) : List UInt8 :=
  bytes.take size ++ List.replicate (size - bytes.length) 0

/-- The read function of TCB component SVN `i` in `ReadTcb`: an INTEGER read
as a `uint8_t`, which refuses negative values. -/
def readTcbComponent (i : Nat) (asn1 : Asn1Value) (state : Tcb × CpuSvn) : StatusOr (Tcb × CpuSvn) := do
  let component ← asn1.getIntegerAsInt 0 255
  return ({ state.1 with components := some (state.1.componentBytes.set i component.toNat.toUInt8) }, state.2)

/-- The read function of the PCE SVN in `ReadTcb`: an INTEGER read as a
`uint16_t`. -/
def readTcbPceSvn (asn1 : Asn1Value) (state : Tcb × CpuSvn) : StatusOr (Tcb × CpuSvn) := do
  let pceSvn ← asn1.getIntegerAsInt 0 65535
  return ({ state.1 with pceSvn := some ⟨some pceSvn.toNat.toUInt32⟩ }, state.2)

/-- The read function of the CPU SVN in `ReadTcb`. -/
def readTcbCpuSvn (asn1 : Asn1Value) (state : Tcb × CpuSvn) : StatusOr (Tcb × CpuSvn) := do
  let cpuSvnBytes ← readOctetStringWithSize asn1 kCpusvnSize
  return (state.1, { value := some cpuSvnBytes })

/-- The table of `ReadTcb`: the PCE SVN and the CPU SVN, then the sixteen
component SVNs, all `REQUIRED`. -/
def tcbReadInfos : List (ObjectId × ReadInfo (Tcb × CpuSvn)) :=
  [(SgxOids.pceSvn, ⟨readTcbPceSvn, .REQUIRED⟩), (SgxOids.cpuSvn, ⟨readTcbCpuSvn, .REQUIRED⟩)] ++
    (List.range kTcbComponentsSize).map fun i => (SgxOids.sgxTcbCompSvns i, ⟨readTcbComponent i, .REQUIRED⟩)

/-- `ReadTcb(asn1, &tcb, &cpu_svn)`. -/
def readTcb (asn1 : Asn1Value) (tcb : Tcb) (cpuSvn : CpuSvn) : StatusOr (Tcb × CpuSvn) := do
  let sequence ← oidAnySequenceSchema.read asn1
  -- a slot for each TCB component before any is read
  let tcb := { tcb with components := some (resizeBytes tcb.componentBytes kTcbComponentsSize) }
  readOidAnySequence tcbReadInfos sequence (tcb, cpuSvn)

/-- `WriteTcb(tcb, cpu_svn)`: the sixteen components as `uint8_t` INTEGERs,
then the PCE SVN as a `uint16_t`, then the CPU SVN. -/
def writeTcb (tcb : Tcb) (cpuSvn : CpuSvn) : StatusOr Asn1Value := do
  let components ← (List.range kTcbComponentsSize).mapM fun i => do
    let asn1 ← Asn1Value.createIntegerFromInt (tcb.componentBytes.getD i 0).toNat
    return (SgxOids.sgxTcbCompSvns i, asn1)
  let pceSvn ← Asn1Value.createIntegerFromInt (tcb.pceSvnValue.toNat % 65536)
  let cpuSvnAsn1 ← Asn1Value.createOctetString (cpuSvn.value.getD [])
  oidAnySequenceSchema.write (components ++ [(SgxOids.pceSvn, pceSvn), (SgxOids.cpuSvn, cpuSvnAsn1)])

/-- The read function of the PPID in `ReadSgxExtensions`. -/
def readPpidExtension (asn1 : Asn1Value) (extensions : SgxExtensions) : StatusOr SgxExtensions := do
  let ppidBytes ← readOctetStringWithSize asn1 kPpidSize
  return { extensions with ppid := ⟨some ppidBytes⟩ }

/-- The read function of the TCB in `ReadSgxExtensions`. -/
def readTcbExtension (asn1 : Asn1Value) (extensions : SgxExtensions) : StatusOr SgxExtensions := do
  let (tcb, cpuSvn) ← readTcb asn1 extensions.tcb extensions.cpuSvn
  return { extensions with tcb, cpuSvn }

/-- The read function of the PCE ID in `ReadSgxExtensions`: two bytes, little
endian (`le16toh`). -/
def readPceIdExtension (asn1 : Asn1Value) (extensions : SgxExtensions) : StatusOr SgxExtensions := do
  let pceIdBytes ← readOctetStringWithSize asn1 2
  return { extensions with pceId := ⟨some (LittleEndian.decode pceIdBytes).toUInt32⟩ }

/-- The read function of the FMSPC in `ReadSgxExtensions`. -/
def readFmspcExtension (asn1 : Asn1Value) (extensions : SgxExtensions) : StatusOr SgxExtensions := do
  let fmspcBytes ← readOctetStringWithSize asn1 kFmspcSize
  return { extensions with fmspc := ⟨some fmspcBytes⟩ }

/-- The read function of the SGX type in `ReadSgxExtensions`: an ENUMERATED
read as a `uint8_t`. -/
def readSgxTypeExtension (asn1 : Asn1Value) (extensions : SgxExtensions) : StatusOr SgxExtensions := do
  let raw ← asn1.getEnumeratedAsInt 0 255
  let sgxType ← fromRawSgxType raw
  return { extensions with sgxType }

/-- The table of `ReadSgxExtensions`, all `REQUIRED`. -/
def sgxExtensionsReadInfos : List (ObjectId × ReadInfo SgxExtensions) :=
  [(SgxOids.ppid, ⟨readPpidExtension, .REQUIRED⟩), (SgxOids.tcb, ⟨readTcbExtension, .REQUIRED⟩),
    (SgxOids.pceId, ⟨readPceIdExtension, .REQUIRED⟩), (SgxOids.fmspc, ⟨readFmspcExtension, .REQUIRED⟩),
    (SgxOids.sgxType, ⟨readSgxTypeExtension, .REQUIRED⟩)]

/-- `ReadSgxExtensions(extensions_asn1)`. -/
def readSgxExtensions (extensionsAsn1 : Asn1Value) : StatusOr SgxExtensions := do
  let sequence ← oidAnySequenceSchema.read extensionsAsn1
  readOidAnySequence sgxExtensionsReadInfos sequence emptySgxExtensions

/-- `WriteSgxExtensions(extensions)`. The PCE ID is narrowed to a `uint16_t`
and written little endian (`htole16`). -/
def writeSgxExtensions (extensions : SgxExtensions) : StatusOr Asn1Value := do
  validateSgxExtensions extensions
  let pceIdLittleEndian := LittleEndian.encode 2 (extensions.pceId.value.getD 0).toNat
  let enumeratedValue ← toRawSgxType extensions.sgxType
  let ppid ← Asn1Value.createOctetString (extensions.ppid.value.getD [])
  let tcb ← writeTcb extensions.tcb extensions.cpuSvn
  let pceId ← Asn1Value.createOctetString pceIdLittleEndian
  let fmspc ← Asn1Value.createOctetString (extensions.fmspc.value.getD [])
  let sgxType ← Asn1Value.createEnumeratedFromInt enumeratedValue
  oidAnySequenceSchema.write
    [(SgxOids.ppid, ppid), (SgxOids.tcb, tcb), (SgxOids.pceId, pceId), (SgxOids.fmspc, fmspc),
      (SgxOids.sgxType, sgxType)]

end Asylo.Provisioning
