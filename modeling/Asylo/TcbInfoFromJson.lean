import Asylo.Json
import Asylo.TcbInfo

/-! The parser of Intel's TCB info JSON
(`identity/provisioning/sgx/internal/tcb_info_from_json.cc`).

The parser starts from the `google::protobuf::Value` that
`JsonStringToMessage` made of the text. It takes `absl::ParseTime` as given:
`parseTime` is that function with the format "%Y-%m-%dT%H:%M:%SZ", and gives an
absl time or the text of absl's error. The unrecognized fields that the parser
counts only make it log a warning, so they have no place here. -/
namespace Asylo.Provisioning

open Asylo.Util (AbslTime AbslDuration ProtobufTimestamp unixEpoch idivDuration toInt64Nanoseconds
  kTicksPerSecond)

/-- The days from 1970-01-01 to the date `year`-`month`-`day` of the
proleptic Gregorian calendar, which absl's civil times count in. A year runs
from March here, so that the leap day is the last day of its year. -/
def daysFromCivil (year month day : Int) : Int :=
  let year := if month ≤ 2 then year - 1 else year
  let era := year / 400
  let yearOfEra := year - era * 400
  let dayOfYear := (153 * (if month > 2 then month - 3 else month + 9) + 2) / 5 + day - 1
  let dayOfEra := yearOfEra * 365 + yearOfEra / 4 - yearOfEra / 100 + dayOfYear
  era * 146097 + dayOfEra - 719468

/-- `absl::FromCivil(absl::CivilSecond(...), absl::UTCTimeZone())`. -/
def fromCivil (year month day hour minute second : Int) : AbslTime :=
  ⟨AbslDuration.seconds (daysFromCivil year month day * 86400 + hour * 3600 + minute * 60 + second)⟩

/-- `CanBeTimestampProto`: between 0001-01-01T00:00:00Z and
9999-12-31T23:59:59Z. -/
def canBeTimestampProto (time : AbslTime) : Bool :=
  let timestampProtoMinimum := fromCivil 1 1 1 0 0 0
  let timestampProtoMaximum := fromCivil 9999 12 31 23 59 59
  timestampProtoMinimum.sinceUnixEpoch.le time.sinceUnixEpoch && time.sinceUnixEpoch.le timestampProtoMaximum.sinceUnixEpoch

/-- `KnownStatusesMap`. -/
def knownStatusesMap : List (String × StatusType) :=
  [("UpToDate", .upToDate), ("OutOfDate", .outOfDate), ("ConfigurationNeeded", .configurationNeeded),
    ("Revoked", .revoked)]

/-- `std::numeric_limits<int32_t>::min()` and `max()`. -/
def kInt32Min : Int := -2147483648

def kInt32Max : Int := 2147483647

/-- `Int32FromJson(int32_json, value_name)`. -/
def int32FromJson (int32Json : JsonValue) (valueName : String) : StatusOr Int := do
  let value ← jsonGetNumber int32Json
  if value < kInt32Min ∨ value > kInt32Max ∨ (cRound value : ℚ) ≠ value then
    throw ⟨.outOfRange, valueName ++ " JSON " ++ formatFixed value ++ " cannot be represented as a 32-bit integer"⟩
  return truncToInt value

/-- `ParseIso8601TimeString`. -/
def parseIso8601TimeString (parseTime : String → Except String AbslTime) (timeString : String) :
    StatusOr AbslTime :=
  match parseTime timeString with
  | .ok time => .ok time
  | .error error => .error ⟨.invalidArgument, "Could not parse time string: " ++ error⟩

/-- `SgxTcbComponentSvnFromJson`: only the range is checked, and returning the
double as an `int` truncates it. -/
def sgxTcbComponentSvnFromJson (componentJson : JsonValue) : StatusOr Int := do
  let component ← jsonGetNumber componentJson
  if component < 0 ∨ component > 255 then
    throw ⟨.invalidArgument, "An SGX TCB component SVN is out of bounds"⟩
  return truncToInt component

/-- `PceSvnFromJson`: only the range is checked, and `set_value` truncates
the double to a `uint32_t`. -/
def pceSvnFromJson (pceSvnJson : JsonValue) : StatusOr PceSvn := do
  let pceSvnRaw ← jsonGetNumber pceSvnJson
  if pceSvnRaw < 0 ∨ pceSvnRaw > (kPceSvnMaxValue.toNat : ℚ) then
    throw ⟨.invalidArgument, "pcesvn is out of bounds"⟩
  return ⟨some (UInt32.ofNat (truncToInt pceSvnRaw).toNat)⟩

/-- `absl::StrFormat("sgxtcbcomp%02dsvn", i + 1)`. -/
def componentFieldName (i : Nat) : String :=
  "sgxtcbcomp" ++ (if i + 1 < 10 then "0" else "") ++ toString (i + 1) ++ "svn"

/-- The component `i` of a TCB JSON object, as the byte it is stored as. -/
def tcbComponentFromJson (tcbObject : List (String × JsonValue)) (i : Nat) : StatusOr UInt8 := do
  let componentJson ← jsonObjectGetField tcbObject (componentFieldName i)
  let component ← sgxTcbComponentSvnFromJson componentJson
  return UInt8.ofNat component.toNat

/-- `TcbFromJsonValue`. The loop writes component `i` into byte `i` of
sixteen zero bytes and stops at an error, so on success the bytes are the
sixteen components in order. -/
def tcbFromJsonValue (jsonValue : JsonValue) : StatusOr Tcb := do
  let tcbObject ← jsonGetObject jsonValue
  let components ← (List.range kTcbComponentsSize).mapM (tcbComponentFromJson tcbObject)
  let pceSvnJson ← jsonObjectGetField tcbObject "pcesvn"
  let pceSvn ← pceSvnFromJson pceSvnJson
  return ⟨some components, some pceSvn⟩

/-- `TcbStatusFromJson`. -/
def tcbStatusFromJson (tcbStatusJson : JsonValue) : StatusOr TcbStatus := do
  let statusString ← jsonGetString tcbStatusJson
  match knownStatusesMap.lookup statusString with
  | some known => return .knownStatus known
  | none => return .unknownStatus statusString

/-- `AdvisoryIdsFromJson`. -/
def advisoryIdsFromJson (advisoryIdsJson : JsonValue) : StatusOr (List String) := do
  let advisoryIdsArray ← jsonGetArray advisoryIdsJson
  if advisoryIdsArray.isEmpty then
    throw ⟨.invalidArgument, "\"advisoryIDs\" array may not be empty"⟩
  advisoryIdsArray.mapM jsonGetString

/-- `FmspcFromJson`. -/
def fmspcFromJson (fmspcJson : JsonValue) : StatusOr Fmspc := do
  let fmspcHexString ← jsonGetString fmspcJson
  if !isHexEncoded fmspcHexString then
    throw ⟨.invalidArgument, "FMSPC JSON is not a hex encoding string"⟩
  let fmspcBytes := hexStringToBytes fmspcHexString
  if fmspcBytes.length ≠ kFmspcSize then
    throw ⟨.invalidArgument, "FMSPC JSON does not represent a " ++ toString kFmspcSize ++ "-byte value"⟩
  return ⟨some fmspcBytes⟩

/-- `kPceIdNumBytes`. -/
def kPceIdNumBytes : Nat := 2

/-- `PceIdFromJson`: `le16toh` of the two bytes. -/
def pceIdFromJson (pceIdJson : JsonValue) : StatusOr PceId := do
  let pceIdHexString ← jsonGetString pceIdJson
  if !isHexEncoded pceIdHexString then
    throw ⟨.invalidArgument, "PCE ID JSON is not a hex encoding string"⟩
  let pceIdBytes := hexStringToBytes pceIdHexString
  if pceIdBytes.length ≠ kPceIdNumBytes then
    throw ⟨.invalidArgument, "PCE ID JSON does not represent a " ++ toString kPceIdNumBytes ++ "-byte value"⟩
  return ⟨some (UInt32.ofNat (LittleEndian.decode pceIdBytes))⟩

section Dates

variable (parseTime : String → Except String AbslTime)

/-- `TimestampFromJson`: the whole seconds since the epoch, toward zero, and
the nanoseconds of what remains. -/
def timestampFromJson (timestampJson : JsonValue) : StatusOr ProtobufTimestamp := do
  let timestampString ← jsonGetString timestampJson
  let time ← parseIso8601TimeString parseTime timestampString
  if !canBeTimestampProto time then
    throw ⟨.outOfRange, "Timestamp " ++ timestampString ++ " cannot be represented as a google.protobuf.Timestamp"⟩
  let (numSeconds, remainder) := idivDuration (time.sub unixEpoch) kTicksPerSecond
  return ⟨numSeconds, toInt64Nanoseconds remainder⟩

/-- `TcbLevelFromJson(tcb_info_version, tcb_level_json)`: version 2 names the
status "tcbStatus" and adds "tcbDate" and the optional "advisoryIDs". -/
def tcbLevelFromJson (tcbInfoVersion : Int) (tcbLevelJson : JsonValue) : StatusOr TcbLevel := do
  let tcbLevelObject ← jsonGetObject tcbLevelJson
  let tcbJson ← jsonObjectGetField tcbLevelObject "tcb"
  let tcb ← tcbFromJsonValue tcbJson
  let statusJson ← jsonObjectGetField tcbLevelObject (if tcbInfoVersion = 2 then "tcbStatus" else "status")
  let status ← tcbStatusFromJson statusJson
  if tcbInfoVersion = 2 then
    let tcbDateJson ← jsonObjectGetField tcbLevelObject "tcbDate"
    let tcbDate ← timestampFromJson parseTime tcbDateJson
    match jsonObjectGetField tcbLevelObject "advisoryIDs" with
    | .ok advisoryIdsJson =>
      let advisoryIds ← advisoryIdsFromJson advisoryIdsJson
      return ⟨some tcb, some tcbDate, some status, advisoryIds⟩
    | .error _ => return ⟨some tcb, some tcbDate, some status, []⟩
  else return ⟨some tcb, none, some status, []⟩

/-- The TCB levels that the loop of `TcbLevelsFromJson` has kept, with the
status it first saw for each TCB. -/
structure TcbLevelsState where
  tcbToStatusMap : AssocMap Tcb TcbStatus
  tcbLevels : List TcbLevel

/-- One round of the loop of `TcbLevelsFromJson`: a level whose TCB came
before with the same status is skipped, whatever its date and advisories. -/
def tcbLevelsFromJsonStep (tcbInfoVersion : Int) (state : TcbLevelsState) (tcbLevelJson : JsonValue) :
    StatusOr TcbLevelsState := do
  let tcbLevel ← tcbLevelFromJson parseTime tcbInfoVersion tcbLevelJson
  let tcb := tcbLevel.tcb.getD ⟨none, none⟩
  let status := tcbLevel.status.getD .valueNotSet
  match state.tcbToStatusMap.find tcb with
  | some earlier =>
    if earlier ≠ status then
      throw ⟨.invalidArgument,
        "TCB info JSON contains the same TCB level multiple times with different statuses"⟩
    pure state
  | none => pure ⟨state.tcbToStatusMap.emplace tcb status, state.tcbLevels ++ [tcbLevel]⟩

/-- `TcbLevelsFromJson(tcb_info_version, tcb_levels_json)`. -/
def tcbLevelsFromJson (tcbInfoVersion : Int) (tcbLevelsJson : JsonValue) : StatusOr (List TcbLevel) := do
  let tcbLevelsArray ← jsonGetArray tcbLevelsJson
  let state ← tcbLevelsArray.foldlM (tcbLevelsFromJsonStep parseTime tcbInfoVersion) ⟨AssocMap.empty, []⟩
  return state.tcbLevels

/-- `TcbInfoFromJsonV1and2(version, tcb_info_object)`. -/
def tcbInfoFromJsonV1and2 (version : Int) (tcbInfoObject : List (String × JsonValue)) : StatusOr TcbInfo := do
  let issueDateJson ← jsonObjectGetField tcbInfoObject "issueDate"
  let issueDate ← timestampFromJson parseTime issueDateJson
  let nextUpdateJson ← jsonObjectGetField tcbInfoObject "nextUpdate"
  let nextUpdate ← timestampFromJson parseTime nextUpdateJson
  if !timestampLt issueDate nextUpdate then
    throw ⟨.invalidArgument, "Issue date does not come before next update"⟩
  let fmspcJson ← jsonObjectGetField tcbInfoObject "fmspc"
  let fmspc ← fmspcFromJson fmspcJson
  let pceIdJson ← jsonObjectGetField tcbInfoObject "pceId"
  let pceId ← pceIdFromJson pceIdJson
  let (tcbType, tcbEvaluationDataNumber) ← if version = 2 then do
      let tcbTypeJson ← jsonObjectGetField tcbInfoObject "tcbType"
      let tcbType ← int32FromJson tcbTypeJson "TCB type"
      if tcbType ≠ 0 then
        throw ⟨.invalidArgument, "Unknown TCB type value: " ++ toString tcbType⟩
      let tcbEvaluationDataNumberJson ← jsonObjectGetField tcbInfoObject "tcbEvaluationDataNumber"
      let tcbEvaluationDataNumber ← int32FromJson tcbEvaluationDataNumberJson "TCB evaluation data number"
      pure (some TcbType.tcbType0, some tcbEvaluationDataNumber)
    else pure (none, none)
  let tcbLevelsJson ← jsonObjectGetField tcbInfoObject "tcbLevels"
  let tcbLevels ← tcbLevelsFromJson parseTime version tcbLevelsJson
  return ⟨some ⟨some version, some issueDate, some nextUpdate, some fmspc, some pceId, tcbType,
    tcbEvaluationDataNumber, tcbLevels⟩⟩

/-- `TcbInfoFromJson`, from the value `JsonStringToMessage` parsed. -/
def tcbInfoFromJson (tcbInfoJson : JsonValue) : StatusOr TcbInfo := do
  let tcbInfoObject ← jsonGetObject tcbInfoJson
  let versionJson ← jsonObjectGetField tcbInfoObject "version"
  let version ← int32FromJson versionJson "TCB info version"
  if version = 1 ∨ version = 2 then tcbInfoFromJsonV1and2 parseTime version tcbInfoObject
  else throw ⟨.invalidArgument, "Unrecognized version of TCB info JSON: " ++ toString version⟩

end Dates

/-- `TcbFromJson`, from the value `JsonStringToMessage` parsed. -/
def tcbFromJson (tcbJson : JsonValue) : StatusOr Tcb := tcbFromJsonValue tcbJson

end Asylo.Provisioning
