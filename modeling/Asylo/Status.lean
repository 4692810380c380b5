import Mathlib

/-! `asylo::Status` (`util/status.h`, `status.cc`) and its conversion to and
from `StatusProto` (`status_helpers.cc`).

A `Status` is an error space, an `int` code, a message and a map of payloads.
Every error space of the project is an `ErrorSpaceImplementationHelper`: a name,
under which the space puts itself in a global map, and a translation of codes
to `GoogleError`. `ErrorSpace::Find` looks a name up in that map; here the map
is the list of the registered spaces. `operator==` compares error spaces by
pointer; the spaces are singletons, so here they are compared as values.

A payload map holds one payload per type URL. The loops that copy every entry
of one map into a cleared one (`SaveTo`, `RestoreFrom`, `WithContext`) are the
copy of the map. The text `String()` gives a code, and so `ToString`, is not
read by any function modelled here. -/
namespace Asylo.Util

/-- `error::GoogleError` (`util/error_codes.h`), the canonical codes. -/
inductive GoogleError
  | OK
  | CANCELLED
  | UNKNOWN
  | INVALID_ARGUMENT
  | DEADLINE_EXCEEDED
  | NOT_FOUND
  | ALREADY_EXISTS
  | PERMISSION_DENIED
  | RESOURCE_EXHAUSTED
  | FAILED_PRECONDITION
  | ABORTED
  | OUT_OF_RANGE
  | UNIMPLEMENTED
  | INTERNAL
  | UNAVAILABLE
  | DATA_LOSS
  | UNAUTHENTICATED
  deriving DecidableEq, Repr

/-- The `int` value of each canonical code. -/
def GoogleError.toInt : GoogleError → Int
  | .OK => 0
  | .CANCELLED => 1
  | .UNKNOWN => 2
  | .INVALID_ARGUMENT => 3
  | .DEADLINE_EXCEEDED => 4
  | .NOT_FOUND => 5
  | .ALREADY_EXISTS => 6
  | .PERMISSION_DENIED => 7
  | .RESOURCE_EXHAUSTED => 8
  | .FAILED_PRECONDITION => 9
  | .ABORTED => 10
  | .OUT_OF_RANGE => 11
  | .UNIMPLEMENTED => 12
  | .INTERNAL => 13
  | .UNAVAILABLE => 14
  | .DATA_LOSS => 15
  | .UNAUTHENTICATED => 16

/-- The canonical codes in the order the `GoogleErrorSpace` constructor adds
them to its translation map. -/
def GoogleError.all : List GoogleError :=
  [.OK, .CANCELLED, .UNKNOWN, .INVALID_ARGUMENT, .DEADLINE_EXCEEDED, .NOT_FOUND, .ALREADY_EXISTS,
    .PERMISSION_DENIED, .RESOURCE_EXHAUSTED, .FAILED_PRECONDITION, .ABORTED, .OUT_OF_RANGE,
    .UNIMPLEMENTED, .INTERNAL, .UNAVAILABLE, .DATA_LOSS, .UNAUTHENTICATED]

/-- An error space as `ErrorSpaceImplementationHelper` builds it: the name it
is registered under and the canonical code of each code it knows. -/
structure ErrorSpace where
  spaceName : String
  codeTranslationMap : List (Int × GoogleError)
  deriving DecidableEq, Repr

/-- `ErrorSpaceImplementationHelper::GoogleErrorCode`: zero is `OK` in every
space, and a code the map does not know is `UNKNOWN`. -/
def ErrorSpace.googleErrorCode (space : ErrorSpace) (code : Int) : GoogleError :=
  if code = 0 then .OK else (space.codeTranslationMap.lookup code).getD .UNKNOWN

/-- `ErrorSpace::Find`: the space registered under a name, if any. -/
def ErrorSpace.find (registry : List ErrorSpace) (name : String) : Option ErrorSpace :=
  registry.find? fun space => space.spaceName == name

/-- `error::kCanonicalErrorSpaceName`. -/
def kCanonicalErrorSpaceName : String := "::asylo::error::GoogleErrorSpace"

/-- `GoogleErrorSpace`, the canonical space, where every canonical code
translates to itself. -/
def googleErrorSpace : ErrorSpace :=
  ⟨kCanonicalErrorSpaceName, GoogleError.all.map fun code => (code.toInt, code)⟩

/-- `error::StatusError` (`util/status_error_space.h`). -/
inductive StatusError
  | OK
  | MOVED
  | RESTORE_ERROR
  deriving DecidableEq, Repr

/-- The `int` value of each `StatusError`. -/
def StatusError.toInt : StatusError → Int
  | .OK => 0
  | .MOVED => 1
  | .RESTORE_ERROR => 2

/-- `StatusErrorSpace`: both its errors are `INTERNAL`. -/
def statusErrorSpace : ErrorSpace :=
  ⟨"::asylo::error::StatusErrorSpace",
    [(StatusError.MOVED.toInt, .INTERNAL), (StatusError.RESTORE_ERROR.toInt, .INTERNAL)]⟩

/-- The messages of `status.cc` in a build without `NDEBUG`. -/
def kMovedByConstructorErrorMsg : String := "Invalidated by move-constructor"

def kMovedByAssignmentErrorMsg : String := "Invalidated by move-assignment"

def kStatusProtoErrorSpaceMsg : String := "ErrorSpace canonical code mismatch"

def kStatusProtoOkMismatchMsg : String :=
  "The ErrorSpace error_code equivalent of GoogleError::OK should be zero"

/-- A payload map: the payload held for each type URL. -/
abbrev Payloads := String → Option String

/-- The map with no payloads. -/
def noPayloads : Payloads := fun _ => none

/-- An `asylo::Status`. Two statuses are `==` when they are equal. -/
structure Status where
  errorSpace : ErrorSpace
  errorCode : Int
  message : String
  payloads : Payloads

/-- `Status::ok`. -/
def Status.ok (status : Status) : Bool := status.errorCode == 0

/-- `Status::CanonicalCode`. -/
def Status.canonicalCode (status : Status) : GoogleError :=
  status.errorSpace.googleErrorCode status.errorCode

/-- `Status::Is(code)`, where `space` is the space of the code's enum. -/
def Status.is (status : Status) (space : ErrorSpace) (code : Int) : Bool :=
  code == status.errorCode && space == status.errorSpace

/-- `Status::Status()` and `OkStatus()`: the OK status of the canonical space. -/
def okStatus : Status := ⟨googleErrorSpace, GoogleError.OK.toInt, "", noPayloads⟩

/-- `Status::Set(code, message)`, where `space` is the space of the code's
enum: an OK code clears the message. The payloads are left as they are. -/
def Status.set (status : Status) (space : ErrorSpace) (code : Int) (message : String) : Status :=
  { status with errorSpace := space, errorCode := code, message := if code ≠ 0 then message else "" }

/-- `Status(const ErrorSpace *space, int code, absl::string_view message)`. -/
def Status.ofSpace (space : ErrorSpace) (code : Int) (message : String) : Status :=
  ⟨space, code, if code ≠ 0 then message else "", noPayloads⟩

/-- `Status(Enum code, absl::string_view message)`, where `space` is the space
bound to the enum: a status with no message nor payloads, given `Set`. -/
def Status.ofEnum (space : ErrorSpace) (code : Int) (message : String) : Status :=
  okStatus.set space code message

/-- An `absl::Status`: its code, message and payloads in the order
`ForEachPayload` visits them. -/
structure AbslStatus where
  code : GoogleError
  message : String
  payloads : List (String × String)

/-- `Status::SetPayload`, which an OK status ignores. -/
def Status.setPayload (status : Status) (typeUrl payload : String) : Status :=
  if status.ok then status
  else { status with payloads := fun url => if url = typeUrl then some payload else status.payloads url }

/-- `Status::ErasePayload`: whether a payload was held for the type URL, and
the status without it. -/
def Status.erasePayload (status : Status) (typeUrl : String) : Bool × Status :=
  ((status.payloads typeUrl).isSome,
    { status with payloads := fun url => if url = typeUrl then none else status.payloads url })

/-- `Status(const absl::Status &other)`: `Set` with the canonical code of
`other`, then `SetPayload` with each of its payloads. -/
def Status.ofAbsl (other : AbslStatus) : Status :=
  other.payloads.foldl (fun status entry => status.setPayload entry.1 entry.2)
    (okStatus.set googleErrorSpace other.code.toInt other.message)

/-- `Status::WithPrependedContext`: the context is prepended to the message,
whatever the code. -/
def Status.withPrependedContext (status : Status) (context : String) : Status :=
  { status with message := context ++ ": " ++ status.message }

/-- `WithContext` (`status_helpers.cc`): an OK status is returned as it is;
an error is rebuilt with the context before its message, and given its
payloads back. -/
def withContext (status : Status) (context : String) : Status :=
  if status.ok then status
  else { Status.ofSpace status.errorSpace status.errorCode (context ++ ": " ++ status.message) with
    payloads := status.payloads }

/-- What a move leaves in the status moved from: its message and payloads
are moved out, then `Set(StatusError::MOVED, message)`. -/
def Status.movedFrom (status : Status) (message : String) : Status :=
  { status with message := "", payloads := noPayloads }.set statusErrorSpace StatusError.MOVED.toInt message

/-- A `StatusProto` (`status.proto`, proto2), by what its getters return: an
absent `code`, `error_message` or `space` reads as `0` or `""`. Only
`canonical_code` is read through `has_canonical_code`. -/
structure StatusProto where
  code : Int
  errorMessage : String
  space : String
  canonicalCode : Option Int
  payloads : Payloads

/-- `Status::SaveTo`, into a cleared proto. -/
def Status.saveTo (status : Status) : StatusProto :=
  { code := status.errorCode
    errorMessage := status.message
    space := status.errorSpace.spaceName
    canonicalCode := some status.canonicalCode.toInt
    payloads := status.payloads }

/-- The end of `Status::RestoreFrom`, once its code is set: an error takes the
message and the payloads of the proto, an OK status clears its message. -/
def Status.restoreMessage (status : Status) (proto : StatusProto) : Status :=
  if status.errorCode ≠ 0 then { status with message := proto.errorMessage, payloads := proto.payloads }
  else { status with message := "" }

/-- `Status::RestoreFrom`. A space that is registered under the proto's name
must give the proto's canonical code to its code; otherwise the canonical
space is used, the proto's code and canonical code must be both OK or both
not, and the code is the canonical code, or `UNKNOWN` when there is none. -/
def Status.restoreFrom (registry : List ErrorSpace) (status : Status) (proto : StatusProto) : Status :=
  let status := { status with payloads := noPayloads }
  match ErrorSpace.find registry proto.space with
  | some space =>
    let status := { status with errorSpace := space }
    if proto.canonicalCode.isSome && (space.googleErrorCode proto.code).toInt != proto.canonicalCode.getD 0 then
      status.set statusErrorSpace StatusError.RESTORE_ERROR.toInt kStatusProtoErrorSpaceMsg
    else { status with errorCode := proto.code }.restoreMessage proto
  | none =>
    let status := { status with errorSpace := googleErrorSpace }
    if proto.canonicalCode.isSome && (proto.code == 0) != (proto.canonicalCode.getD 0 == 0) then
      status.set statusErrorSpace StatusError.RESTORE_ERROR.toInt kStatusProtoOkMismatchMsg
    else
      match proto.canonicalCode with
      | some canonicalCode => { status with errorCode := canonicalCode }.restoreMessage proto
      | none => { status with errorCode := GoogleError.UNKNOWN.toInt }.restoreMessage proto

/-- `StatusToProto`. -/
def statusToProto (status : Status) : StatusProto := status.saveTo

/-- `StatusFromProto`: a default status given `RestoreFrom`. -/
def statusFromProto (registry : List ErrorSpace) (proto : StatusProto) : Status :=
  okStatus.restoreFrom registry proto

/-- The ways the public API builds a status. A copy of a status, and the
status a move goes to, are the status they come from; `movedFrom` is the
status a move leaves behind. -/
inductive StatusExpr
  | okStatus
  | ofSpace (space : ErrorSpace) (code : Int) (message : String)
  | ofEnum (space : ErrorSpace) (code : Int) (message : String)
  | ofAbsl (other : AbslStatus)
  | setPayload (status : StatusExpr) (typeUrl payload : String)
  | erasePayload (status : StatusExpr) (typeUrl : String)
  | withPrependedContext (status : StatusExpr) (context : String)
  | withContext (status : StatusExpr) (context : String)
  | movedByConstructor (status : StatusExpr)
  | movedByAssignment (status : StatusExpr)

/-- The status an expression of the API builds. -/
def StatusExpr.eval : StatusExpr → Status
  | .okStatus => Asylo.Util.okStatus
  | .ofSpace space code message => Status.ofSpace space code message
  | .ofEnum space code message => Status.ofEnum space code message
  | .ofAbsl other => Status.ofAbsl other
  | .setPayload status typeUrl payload => status.eval.setPayload typeUrl payload
  | .erasePayload status typeUrl => (status.eval.erasePayload typeUrl).2
  | .withPrependedContext status context => status.eval.withPrependedContext context
  | .withContext status context => Asylo.Util.withContext status.eval context
  | .movedByConstructor status => status.eval.movedFrom kMovedByConstructorErrorMsg
  | .movedByAssignment status => status.eval.movedFrom kMovedByAssignmentErrorMsg

@[simp] theorem Status.set_errorSpace (status : Status) (space : ErrorSpace) (code : Int) (message : String) :
    (status.set space code message).errorSpace = space := rfl

@[simp] theorem Status.set_errorCode (status : Status) (space : ErrorSpace) (code : Int) (message : String) :
    (status.set space code message).errorCode = code := rfl

@[simp] theorem Status.set_payloads (status : Status) (space : ErrorSpace) (code : Int) (message : String) :
    (status.set space code message).payloads = status.payloads := rfl

@[simp] theorem Status.ok_set (status : Status) (space : ErrorSpace) (code : Int) (message : String) :
    (status.set space code message).ok = (code == 0) := rfl

@[simp] theorem Status.ok_withPrependedContext (status : Status) (context : String) :
    (status.withPrependedContext context).ok = status.ok := rfl

@[simp] theorem Status.ok_erasePayload (status : Status) (typeUrl : String) :
    (status.erasePayload typeUrl).2.ok = status.ok := rfl

@[simp] theorem Status.restoreMessage_errorSpace (status : Status) (proto : StatusProto) :
    (status.restoreMessage proto).errorSpace = status.errorSpace := by
  unfold Status.restoreMessage
  split <;> rfl

@[simp] theorem Status.restoreMessage_errorCode (status : Status) (proto : StatusProto) :
    (status.restoreMessage proto).errorCode = status.errorCode := by
  unfold Status.restoreMessage
  split <;> rfl

@[simp] theorem Status.saveTo_canonicalCode (status : Status) :
    status.saveTo.canonicalCode = some status.canonicalCode.toInt := rfl

end Asylo.Util
