import Asylo.AssocMap
import Asylo.PckCertificateUtil
import Asylo.TimeConversions

/-! The TCB info messages of `tcb.proto` and their validation in
`identity/provisioning/sgx/internal/tcb.cc`: `ValidateTcbInfo` and what it
calls, for the versions 1 and 2 of Intel's TCB info.

A valid TCB info has its dates, FMSPC and PCE ID, the fields of its version and
none of the other, valid levels, and no two levels with the same TCB and
different statuses. The `flat_hash_map` keyed by `Tcb` that finds the
repeated TCBs is an `AssocMap`: `MessageEqual` is the equality of the
messages, and the hash agrees with it. -/
namespace Asylo.Provisioning

open Asylo.Util (ProtobufTimestamp kTimestampMinSeconds kTimestampMaxSeconds)

/-- `TcbStatus::StatusType`. -/
inductive StatusType
  | invalid
  | upToDate
  | outOfDate
  | configurationNeeded
  | revoked
  deriving DecidableEq, Repr

/-- The `TcbStatus` message, by its `value` oneof. -/
inductive TcbStatus
  | valueNotSet
  | knownStatus (status : StatusType)
  | unknownStatus (status : String)
  deriving DecidableEq, Repr

/-- The `TcbLevel` message. -/
structure TcbLevel where
  tcb : Option Tcb
  tcbDate : Option ProtobufTimestamp
  status : Option TcbStatus
  advisoryIds : List String
  deriving DecidableEq, Repr

/-- The `TcbInfoImpl` message; `version` and `tcb_evaluation_data_number`
are `int32` fields. -/
structure TcbInfoImpl where
  version : Option Int
  issueDate : Option ProtobufTimestamp
  nextUpdate : Option ProtobufTimestamp
  fmspc : Option Fmspc
  pceId : Option PceId
  tcbType : Option TcbType
  tcbEvaluationDataNumber : Option Int
  tcbLevels : List TcbLevel
  deriving DecidableEq, Repr

/-- The `TcbInfo` message, by its `value` oneof, whose one case is `impl`. -/
structure TcbInfo where
  impl : Option TcbInfoImpl
  deriving DecidableEq, Repr

/-- `operator<` on `google::protobuf::Timestamp` (`time_util.h`); `>=` is its
negation. -/
def timestampLt (lhs rhs : ProtobufTimestamp) : Bool :=
  decide (lhs.seconds < rhs.seconds) || (lhs.seconds == rhs.seconds && decide (lhs.nanos < rhs.nanos))

/-- `UnknownTcbInfoVersionError`. -/
def unknownTcbInfoVersionError (tcbInfoVersion : Int) : Status :=
  ⟨.invalidArgument, "Unknown TCB info version: " ++ toString tcbInfoVersion⟩

/-- `WrongTcbInfoVersionError(message_name, tcb_info_version, error_predicate)`. -/
def wrongTcbInfoVersionError (messageName : String) (tcbInfoVersion : Int) (errorPredicate : String) : Status :=
  ⟨.invalidArgument, messageName ++ " is for TCB info version " ++ toString tcbInfoVersion ++ " but " ++ errorPredicate⟩

/-- `ValidateTimestamp`. -/
def validateTimestamp (timestamp : ProtobufTimestamp) : StatusOr Unit := do
  if timestamp.seconds < kTimestampMinSeconds ∨ timestamp.seconds > kTimestampMaxSeconds then
    throw ⟨.invalidArgument, "Timestamp\x27s \"seconds\" field must be between " ++ toString kTimestampMinSeconds ++
      " and " ++ toString kTimestampMaxSeconds ++ " (inclusive)"⟩
  if timestamp.nanos < 0 ∨ timestamp.nanos > 999999999 then
    throw ⟨.invalidArgument, "Timestamp\x27s \"nanos\" field must be between 0 and 999999999 (inclusive)"⟩

/-- `ValidateTcbStatus`. -/
def validateTcbStatus : TcbStatus → StatusOr Unit
  | .valueNotSet => .error ⟨.invalidArgument, "TcbStatus has an empty \"value\" variant"⟩
  | .knownStatus .invalid => .error ⟨.invalidArgument, "TcbStatus has an unknown \"known_status\""⟩
  | _ => .ok ()

/-- `ValidateTcbLevel(tcb_level, tcb_info_version)`. -/
def validateTcbLevel (tcbLevel : TcbLevel) (tcbInfoVersion : Int) : StatusOr Unit := do
  let some tcb := tcbLevel.tcb | throw ⟨.invalidArgument, "TcbLevel does not have a \"tcb\" field"⟩
  let some status := tcbLevel.status | throw ⟨.invalidArgument, "TcbLevel does not have a \"status\" field"⟩
  validateTcb tcb
  validateTcbStatus status
  if tcbInfoVersion = 1 then
    if tcbLevel.tcbDate.isSome then
      throw (wrongTcbInfoVersionError "TcbLevel" tcbInfoVersion "has a \"tcb_date\" field")
    if !tcbLevel.advisoryIds.isEmpty then
      throw (wrongTcbInfoVersionError "TcbLevel" tcbInfoVersion "has a non-empty \"advisory_ids\" field")
  else if tcbInfoVersion = 2 then
    if tcbLevel.tcbDate.isNone then
      throw (wrongTcbInfoVersionError "TcbLevel" tcbInfoVersion "does not have a \"tcb_date\" field")
  else throw (unknownTcbInfoVersionError tcbInfoVersion)

/-- One round of the loop over the levels in `ValidateTcbInfoImplV1andV2`:
the level is valid, and its TCB is new or has the status it had. -/
def validateTcbLevelsStep (version : Int) (tcbToStatusMap : AssocMap Tcb TcbStatus) (tcbLevel : TcbLevel) :
    StatusOr (AssocMap Tcb TcbStatus) := do
  validateTcbLevel tcbLevel version
  let tcb := tcbLevel.tcb.getD ⟨none, none⟩
  let status := tcbLevel.status.getD .valueNotSet
  match tcbToStatusMap.find tcb with
  | some earlier =>
    if status ≠ earlier then
      throw ⟨.invalidArgument, "TcbInfoImpl contains two entries with the same Tcb but different statuses"⟩
    pure tcbToStatusMap
  | none => pure (tcbToStatusMap.emplace tcb status)

/-- `ValidateTcbInfoImplV1andV2`. The `TcbType` here has only the values that
`TcbType_IsValid` accepts. -/
def validateTcbInfoImplV1andV2 (tcbInfoImpl : TcbInfoImpl) : StatusOr Unit := do
  let some issueDate := tcbInfoImpl.issueDate
    | throw ⟨.invalidArgument, "TcbInfoImpl does not have a \"issue_date\" field"⟩
  let some nextUpdate := tcbInfoImpl.nextUpdate
    | throw ⟨.invalidArgument, "TcbInfoImpl does not have a \"next_update\" field"⟩
  let some fmspc := tcbInfoImpl.fmspc | throw ⟨.invalidArgument, "TcbInfoImpl does not have a \"fmspc\" field"⟩
  let some pceId := tcbInfoImpl.pceId | throw ⟨.invalidArgument, "TcbInfoImpl does not have a \"pce_id\" field"⟩
  validateTimestamp issueDate
  validateTimestamp nextUpdate
  if !timestampLt issueDate nextUpdate then
    throw ⟨.invalidArgument, "TcbInfoImpl\x27s \"next_update\" is not after its \"issue_date\""⟩
  validateFmspc fmspc
  validatePceId pceId
  let version := tcbInfoImpl.version.getD 0
  if version = 1 then
    if tcbInfoImpl.tcbType.isSome then
      throw (wrongTcbInfoVersionError "TcbInfoImpl" version "has a \"tcb_type\" field")
    if tcbInfoImpl.tcbEvaluationDataNumber.isSome then
      throw (wrongTcbInfoVersionError "TcbInfoImpl" version "has a \"tcb_evaluation_data_number\" field")
  else if version = 2 then
    match tcbInfoImpl.tcbType with
    | none => throw (wrongTcbInfoVersionError "TcbInfoImpl" version "does not have a \"tcb_type\" field")
    | some tcbType =>
      if tcbType = .tcbTypeUnknown then
        throw ⟨.invalidArgument, "Unknown TCB type: " ++ tcbType.name⟩
    if tcbInfoImpl.tcbEvaluationDataNumber.isNone then
      throw (wrongTcbInfoVersionError "TcbInfoImpl" version "does not have a \"tcb_evaluation_data_number\" field")
  else throw (unknownTcbInfoVersionError version)
  let _ ← tcbInfoImpl.tcbLevels.foldlM (validateTcbLevelsStep version) AssocMap.empty

/-- `ValidateTcbInfoImpl`. -/
def validateTcbInfoImpl (tcbInfoImpl : TcbInfoImpl) : StatusOr Unit :=
  match tcbInfoImpl.version with
  | none => .error ⟨.invalidArgument, "TcbInfoImpl does not have a \"version\" field"⟩
  | some version =>
    if version = 1 ∨ version = 2 then validateTcbInfoImplV1andV2 tcbInfoImpl
    else .error ⟨.invalidArgument, "TcbInfoImpl has an unknown (Intel) version: " ++ toString version⟩

/-- `ValidateTcbInfo`. -/
def validateTcbInfo (tcbInfo : TcbInfo) : StatusOr Unit :=
  match tcbInfo.impl with
  | none => .error ⟨.invalidArgument, "TcbInfo has an unknown \"value\" variant"⟩
  | some impl => validateTcbInfoImpl impl

end Asylo.Provisioning
