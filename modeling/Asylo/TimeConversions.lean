import Mathlib

/-! The conversions between `absl::Duration`, `absl::Time` and the protobuf
`Duration` and `Timestamp` messages (`util/time_conversions_internal.cc`).

An `absl::Duration` counts quarter nanoseconds, absl's resolution, or is one
of the two infinite durations; an `absl::Time` is its duration from the Unix
epoch. Arithmetic on finite durations is exact here. absl saturates to an
infinite duration only beyond about `2^63` seconds, far outside the protobuf
ranges, which are a few hundred billion seconds. -/
namespace Asylo.Util

/-- Quarter nanoseconds in a nanosecond and in a second. -/
def kTicksPerNanosecond : Int := 4

def kTicksPerSecond : Int := 4000000000

/-- The ranges of `google::protobuf::util::TimeUtil`: ten thousand years
either way for a duration, and 0001-01-01T00:00:00Z to
9999-12-31T23:59:59Z for a timestamp. -/
def kDurationMinSeconds : Int := -315576000000

def kDurationMaxSeconds : Int := 315576000000

def kTimestampMinSeconds : Int := -62135596800

def kTimestampMaxSeconds : Int := 253402300799

/-- The saturated results of absl's integer conversions. -/
def kint64min : Int := -9223372036854775808

def kint64max : Int := 9223372036854775807

/-- An `absl::Duration`. -/
inductive AbslDuration
  | finite (ticks : Int)
  | infinite (negative : Bool)
  deriving DecidableEq, Repr

/-- `absl::Seconds(n)`. -/
def AbslDuration.seconds (n : Int) : AbslDuration := .finite (n * kTicksPerSecond)

/-- `absl::Nanoseconds(n)`. -/
def AbslDuration.nanoseconds (n : Int) : AbslDuration := .finite (n * kTicksPerNanosecond)

/-- `Duration::operator+=`: an infinite left side stays, an infinite right
side wins. -/
def AbslDuration.add : AbslDuration → AbslDuration → AbslDuration
  | .finite a, .finite b => .finite (a + b)
  | .infinite negative, _ => .infinite negative
  | .finite _, .infinite negative => .infinite negative

/-- `Duration::operator-=`: an infinite left side stays, an infinite right
side gives the opposite infinity. -/
def AbslDuration.sub : AbslDuration → AbslDuration → AbslDuration
  | .finite a, .finite b => .finite (a - b)
  | .infinite negative, _ => .infinite negative
  | .finite _, .infinite negative => .infinite (!negative)

/-- `operator<=` on durations, with the infinities at the two ends. -/
def AbslDuration.le : AbslDuration → AbslDuration → Bool
  | .infinite true, _ => true
  | _, .infinite false => true
  | .infinite false, _ => false
  | _, .infinite true => false
  | .finite a, .finite b => decide (a ≤ b)

/-- `absl::IDivDuration(num, den, &rem)` for a finite positive `den` of
`den` ticks: the quotient truncated toward zero and the remainder. An
infinite `num` gives a saturated quotient and an infinite remainder. -/
def idivDuration (num : AbslDuration) (den : Int) : Int × AbslDuration :=
  match num with
  | .finite ticks => (ticks.tdiv den, .finite (ticks.tmod den))
  | .infinite negative => (if negative then kint64min else kint64max, .infinite negative)

/-- `absl::ToInt64Nanoseconds`, truncating toward zero. -/
def toInt64Nanoseconds : AbslDuration → Int
  | .finite ticks => ticks.tdiv kTicksPerNanosecond
  | .infinite negative => if negative then kint64min else kint64max

/-- `IsFiniteDuration`. -/
def isFiniteDuration : AbslDuration → Bool
  | .finite _ => true
  | .infinite _ => false

/-- An `absl::Time`, by its duration from the Unix epoch; the infinite past
and future are the infinite durations. -/
structure AbslTime where
  sinceUnixEpoch : AbslDuration
  deriving DecidableEq, Repr

/-- `absl::UnixEpoch()`. -/
def unixEpoch : AbslTime := ⟨.finite 0⟩

/-- `Time + Duration`. -/
def AbslTime.add (time : AbslTime) (duration : AbslDuration) : AbslTime :=
  ⟨time.sinceUnixEpoch.add duration⟩

/-- `Time - Time`. -/
def AbslTime.sub (time other : AbslTime) : AbslDuration :=
  time.sinceUnixEpoch.sub other.sinceUnixEpoch

/-- `IsFiniteTime`. -/
def isFiniteTime (time : AbslTime) : Bool := isFiniteDuration time.sinceUnixEpoch

/-- `SecondsNanos`: `nanos` has the sign of `seconds`, or any sign when
`seconds` is zero. -/
structure SecondsNanos where
  seconds : Int
  nanos : Int
  deriving DecidableEq, Repr

/-- `ToSecondsNanos`: whole seconds toward zero, and the nanoseconds of what
remains. -/
def toSecondsNanos (duration : AbslDuration) : Option SecondsNanos :=
  let (seconds, nanosDuration) := idivDuration duration kTicksPerSecond
  if nanosDuration.le (AbslDuration.seconds (-1)) || (AbslDuration.seconds 1).le nanosDuration then none
  else some ⟨seconds, toInt64Nanoseconds nanosDuration⟩

/-- A `google::protobuf::Duration`. -/
structure ProtobufDuration where
  seconds : Int
  nanos : Int
  deriving DecidableEq, Repr

/-- A `google::protobuf::Timestamp`. -/
structure ProtobufTimestamp where
  seconds : Int
  nanos : Int
  deriving DecidableEq, Repr

/-- `IsValidDurationProto`: in range, and `nanos` of the sign of `seconds`
unless one of them is zero (`std::signbit` of the two agrees). -/
def isValidDurationProto (seconds nanos : Int) : Bool :=
  decide (kDurationMinSeconds ≤ seconds) && decide (seconds ≤ kDurationMaxSeconds) &&
    decide (-999999999 ≤ nanos) && decide (nanos ≤ 999999999) &&
    (seconds == 0 || nanos == 0 || decide (seconds < 0) == decide (nanos < 0))

/-- `IsValidTimestampProto`. -/
def isValidTimestampProto (seconds nanos : Int) : Bool :=
  decide (kTimestampMinSeconds ≤ seconds) && decide (seconds ≤ kTimestampMaxSeconds) &&
    decide (0 ≤ nanos) && decide (nanos ≤ 999999999)

/-- The errors of the conversions: `InvalidInstanceError` (an
`INVALID_ARGUMENT` naming the type) and `CannotRepresentError` (an
`OUT_OF_RANGE` naming both types). The printed value they also carry is left
out. -/
inductive ConversionError
  | invalidInstance (typeName : String)
  | cannotRepresent (sourceTypeName destTypeName : String)
  deriving DecidableEq, Repr

/-- `ToAbslDuration(const google::protobuf::Duration &, absl::Duration *)`. -/
def toAbslDuration (source : ProtobufDuration) : Except ConversionError AbslDuration :=
  if !isValidDurationProto source.seconds source.nanos then
    .error (.invalidInstance "google::protobuf::Duration")
  else
    let duration := (AbslDuration.seconds source.seconds).add (AbslDuration.nanoseconds source.nanos)
    if !isFiniteDuration duration then
      .error (.cannotRepresent "google::protobuf::Duration" "absl::Duration")
    else .ok duration

/-- `FromAbslDuration(absl::Duration, google::protobuf::Duration *)`. -/
def fromAbslDuration (source : AbslDuration) : Except ConversionError ProtobufDuration :=
  match toSecondsNanos source with
  | some secondsNanos =>
    if isValidDurationProto secondsNanos.seconds secondsNanos.nanos then
      .ok ⟨secondsNanos.seconds, secondsNanos.nanos⟩
    else .error (.cannotRepresent "absl::Duration" "google::protobuf::Duration")
  | none => .error (.cannotRepresent "absl::Duration" "google::protobuf::Duration")

/-- `ToAbslTime(const google::protobuf::Timestamp &, absl::Time *)`. -/
def toAbslTime (source : ProtobufTimestamp) : Except ConversionError AbslTime :=
  if !isValidTimestampProto source.seconds source.nanos then
    .error (.invalidInstance "google::protobuf::Timestamp")
  else
    let time := (unixEpoch.add (AbslDuration.seconds source.seconds)).add (AbslDuration.nanoseconds source.nanos)
    if !isFiniteTime time then
      .error (.cannotRepresent "google::protobuf::Timestamp" "absl::Time")
    else .ok time

/-- `FromAbslTime(absl::Time, google::protobuf::Timestamp *)`: a negative
`nanos` borrows a second, since a timestamp's `nanos` is never negative. -/
def fromAbslTime (source : AbslTime) : Except ConversionError ProtobufTimestamp :=
  match toSecondsNanos (source.sub unixEpoch) with
  | none => .error (.cannotRepresent "absl::Time" "google::protobuf::Timestamp")
  | some secondsNanos =>
    let secondsNanos :=
      if secondsNanos.nanos < 0 then ⟨secondsNanos.seconds - 1, secondsNanos.nanos + 1000000000⟩
      else secondsNanos
    if !isValidTimestampProto secondsNanos.seconds secondsNanos.nanos then
      .error (.cannotRepresent "absl::Time" "google::protobuf::Timestamp")
    else .ok ⟨secondsNanos.seconds, secondsNanos.nanos⟩

end Asylo.Util
