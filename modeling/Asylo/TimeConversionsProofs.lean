import Asylo.TimeConversions

/-! The round trips between the protobuf time messages and absl's time types.

`ToSecondsNanos` splits a duration by truncating division, so its seconds and
nanoseconds have one sign (`toSecondsNanos_finite`). A valid `Duration` has
them of one sign already and comes back as it was. A `Timestamp` keeps its
`nanos` non-negative: before the epoch, truncation rounds the seconds up and
leaves negative nanoseconds, and the borrow of `FromAbslTime` undoes that
(`fromAbslTime_finite`). -/
namespace Asylo.Util

section TruncatedDivision

variable {b q r : Int}

/-- Truncating division takes `q * b + r` apart when `q` and `r` are not
negative and `r < b`. -/
theorem tdiv_tmod_of_nonneg (quotient : 0 ≤ q) (remainder : 0 ≤ r) (below : r < b) :
    (q * b + r).tdiv b = q ∧ (q * b + r).tmod b = r := by
  have positive : 0 < b := by omega
  have whole : 0 ≤ q * b + r := Int.add_nonneg (Int.mul_nonneg quotient positive.le) remainder
  rw [Int.tdiv_eq_ediv_of_nonneg whole, Int.tmod_eq_emod_of_nonneg whole]
  exact (Int.ediv_emod_unique positive).2 ⟨by ring, remainder, below⟩

/-- It does so as well when `q` and `r` are not positive and `-b < r`. -/
theorem tdiv_tmod_of_nonpos (quotient : q ≤ 0) (remainder : r ≤ 0) (above : -b < r) :
    (q * b + r).tdiv b = q ∧ (q * b + r).tmod b = r := by
  obtain ⟨tdiv, tmod⟩ := tdiv_tmod_of_nonneg (b := b) (q := -q) (r := -r) (by omega) (by omega) (by omega)
  have negated : q * b + r = -(-q * b + -r) := by ring
  rw [negated, Int.neg_tdiv, Int.neg_tmod, tdiv, tmod, Int.neg_neg, Int.neg_neg]
  exact ⟨rfl, rfl⟩

end TruncatedDivision

section SecondsNanos

variable {seconds nanos : Int}

/-- `ToSecondsNanos` gives back the seconds and nanoseconds of a duration
when they have one sign. -/
theorem toSecondsNanos_finite (sameSign : (0 ≤ seconds ∧ 0 ≤ nanos) ∨ (seconds ≤ 0 ∧ nanos ≤ 0))
    (below : -1000000000 < nanos ∧ nanos < 1000000000) :
    toSecondsNanos (.finite (seconds * kTicksPerSecond + nanos * kTicksPerNanosecond)) = some ⟨seconds, nanos⟩ := by
  have split : (seconds * kTicksPerSecond + nanos * kTicksPerNanosecond).tdiv kTicksPerSecond = seconds ∧
      (seconds * kTicksPerSecond + nanos * kTicksPerNanosecond).tmod kTicksPerSecond =
        nanos * kTicksPerNanosecond := by
    unfold kTicksPerSecond kTicksPerNanosecond
    rcases sameSign with ⟨positive, nonneg⟩ | ⟨negative, nonpos⟩
    · exact tdiv_tmod_of_nonneg positive (by omega) (by omega)
    · exact tdiv_tmod_of_nonpos negative (by omega) (by omega)
  simp only [toSecondsNanos, idivDuration, split, AbslDuration.seconds, AbslDuration.le, toInt64Nanoseconds]
  -- the remainder is less than a second either way
  simp [kTicksPerNanosecond, kTicksPerSecond]
  omega

end SecondsNanos

section Duration

variable {source : ProtobufDuration}

/-- A valid `Duration` is the absl duration of its seconds and nanoseconds. -/
theorem toAbslDuration_of_valid (valid : isValidDurationProto source.seconds source.nanos = true) :
    toAbslDuration source = .ok (.finite (source.seconds * kTicksPerSecond + source.nanos * kTicksPerNanosecond)) := by
  simp [toAbslDuration, valid, AbslDuration.seconds, AbslDuration.nanoseconds, AbslDuration.add, isFiniteDuration]

/-- The duration of a valid `Duration` converts back to it. -/
theorem fromAbslDuration_finite {seconds nanos : Int} (valid : isValidDurationProto seconds nanos = true) :
    fromAbslDuration (.finite (seconds * kTicksPerSecond + nanos * kTicksPerNanosecond)) = .ok ⟨seconds, nanos⟩ := by
  have facts := valid
  simp only [isValidDurationProto, Bool.and_eq_true, decide_eq_true_eq, Bool.or_eq_true, beq_iff_eq] at facts
  obtain ⟨⟨⟨⟨-, -⟩, low⟩, high⟩, signs⟩ := facts
  have sameSign : (0 ≤ seconds ∧ 0 ≤ nanos) ∨ (seconds ≤ 0 ∧ nanos ≤ 0) := by
    rcases signs with (zero | zero) | agree
    · omega
    · omega
    · by_cases negative : seconds < 0
      · have : nanos < 0 := by simpa [negative] using agree
        omega
      · have : ¬ nanos < 0 := by simpa [negative] using agree
        omega
  simp [fromAbslDuration, toSecondsNanos_finite sameSign ⟨by omega, by omega⟩, valid]

/-- Whatever `FromAbslDuration` produces is a valid `Duration`. -/
theorem fromAbslDuration_valid {duration : AbslDuration} {result : ProtobufDuration}
    (converted : fromAbslDuration duration = .ok result) :
    isValidDurationProto result.seconds result.nanos = true := by
  unfold fromAbslDuration at converted
  split at converted
  · split at converted
    · cases converted
      assumption
    · cases converted
  · cases converted

/-- An infinite duration has no `Duration`. -/
theorem fromAbslDuration_infinite (negative : Bool) :
    fromAbslDuration (.infinite negative) = .error (.cannotRepresent "absl::Duration" "google::protobuf::Duration") := by
  cases negative <;> rfl

end Duration

section Timestamp

variable {source : ProtobufTimestamp}

/-- A valid `Timestamp` is the instant of its seconds and nanoseconds after
the epoch. -/
theorem toAbslTime_of_valid (valid : isValidTimestampProto source.seconds source.nanos = true) :
    toAbslTime source = .ok ⟨.finite (source.seconds * kTicksPerSecond + source.nanos * kTicksPerNanosecond)⟩ := by
  simp [toAbslTime, valid, unixEpoch, AbslTime.add, AbslDuration.seconds, AbslDuration.nanoseconds,
    AbslDuration.add, isFiniteTime, isFiniteDuration]

/-- `ToAbslTime` fails exactly on an invalid `Timestamp`, with an
`INVALID_ARGUMENT` naming the type. -/
theorem toAbslTime_eq_error_iff (error : ConversionError) :
    toAbslTime source = .error error ↔
      isValidTimestampProto source.seconds source.nanos = false ∧
        error = .invalidInstance "google::protobuf::Timestamp" := by
  cases valid : isValidTimestampProto source.seconds source.nanos
  · simp [toAbslTime, valid, eq_comm]
  · simp [toAbslTime_of_valid valid]

/-- The instant of a valid `Timestamp` converts back to it: before the epoch
with nonzero nanoseconds, truncation takes the seconds one up and leaves
negative nanoseconds, which the borrow puts back. -/
theorem fromAbslTime_finite {seconds nanos : Int} (valid : isValidTimestampProto seconds nanos = true) :
    fromAbslTime ⟨.finite (seconds * kTicksPerSecond + nanos * kTicksPerNanosecond)⟩ = .ok ⟨seconds, nanos⟩ := by
  have facts := valid
  simp only [isValidTimestampProto, Bool.and_eq_true, decide_eq_true_eq] at facts
  obtain ⟨⟨⟨-, -⟩, nonneg⟩, high⟩ := facts
  have since : AbslTime.sub ⟨.finite (seconds * kTicksPerSecond + nanos * kTicksPerNanosecond)⟩ unixEpoch =
      .finite (seconds * kTicksPerSecond + nanos * kTicksPerNanosecond) := by
    simp [AbslTime.sub, unixEpoch, AbslDuration.sub]
  by_cases borrow : seconds < 0 ∧ 0 < nanos
  · have shifted : seconds * kTicksPerSecond + nanos * kTicksPerNanosecond =
        (seconds + 1) * kTicksPerSecond + (nanos - 1000000000) * kTicksPerNanosecond := by
      unfold kTicksPerSecond kTicksPerNanosecond
      ring
    rw [fromAbslTime, since, shifted, toSecondsNanos_finite (Or.inr ⟨by omega, by omega⟩) ⟨by omega, by omega⟩]
    have negative : nanos - 1000000000 < 0 := by omega
    simp [negative, valid]
  · have sameSign : (0 ≤ seconds ∧ 0 ≤ nanos) ∨ (seconds ≤ 0 ∧ nanos ≤ 0) := by omega
    rw [fromAbslTime, since, toSecondsNanos_finite sameSign ⟨by omega, by omega⟩]
    have notNegative : ¬ nanos < 0 := by omega
    simp [notNegative, valid]

/-- The range check that ends `FromAbslTime` lets through only a valid
`Timestamp`. -/
theorem valid_of_range_check {seconds nanos : Int} {result : ProtobufTimestamp}
    (checked : (if !isValidTimestampProto seconds nanos then
        .error (ConversionError.cannotRepresent "absl::Time" "google::protobuf::Timestamp")
      else .ok ⟨seconds, nanos⟩) = Except.ok result) :
    isValidTimestampProto result.seconds result.nanos = true := by
  split at checked
  · cases checked
  · next notInvalid =>
    cases checked
    simpa using notInvalid

/-- The infinite past and future have no `Timestamp`. -/
theorem fromAbslTime_infinite (negative : Bool) :
    fromAbslTime ⟨.infinite negative⟩ = .error (.cannotRepresent "absl::Time" "google::protobuf::Timestamp") := by
  cases negative <;> rfl

end Timestamp

/-- The three round trips, with absl's arithmetic exact on finite values:
every valid `Timestamp` and every valid `Duration` come back from absl as they
were, and every finite `absl::Time` that is a whole number of nanoseconds in
the range of `Timestamp` comes back from its `Timestamp`. -/
theorem time_conversions_round_trip :
    (∀ source : ProtobufTimestamp, isValidTimestampProto source.seconds source.nanos = true →
        (toAbslTime source).bind fromAbslTime = .ok source) ∧
      (∀ source : ProtobufDuration, isValidDurationProto source.seconds source.nanos = true →
        (toAbslDuration source).bind fromAbslDuration = .ok source) ∧
      (∀ ticks : Int, kTicksPerNanosecond ∣ ticks → kTimestampMinSeconds * kTicksPerSecond ≤ ticks →
        ticks < (kTimestampMaxSeconds + 1) * kTicksPerSecond →
        (fromAbslTime ⟨.finite ticks⟩).bind toAbslTime = .ok ⟨.finite ticks⟩) := by
  refine ⟨fun source valid => ?_, fun source valid => ?_, fun ticks whole low high => ?_⟩
  · rw [toAbslTime_of_valid valid]
    exact fromAbslTime_finite valid
  · rw [toAbslDuration_of_valid valid]
    exact fromAbslDuration_finite valid
  · -- split the instant into floored seconds and the nanoseconds past them
    obtain ⟨nanos, rfl⟩ := whole
    have parts : kTicksPerNanosecond * nanos =
        nanos / 1000000000 * kTicksPerSecond + nanos % 1000000000 * kTicksPerNanosecond := by
      unfold kTicksPerSecond kTicksPerNanosecond
      omega
    have valid : isValidTimestampProto (nanos / 1000000000) (nanos % 1000000000) = true := by
      simp only [kTimestampMinSeconds, kTimestampMaxSeconds, kTicksPerSecond, kTicksPerNanosecond] at low high
      simp only [isValidTimestampProto, Bool.and_eq_true, decide_eq_true_eq]
      unfold kTimestampMinSeconds kTimestampMaxSeconds
      omega
    rw [parts, fromAbslTime_finite valid]
    exact toAbslTime_of_valid valid

/-- A timestamp before the epoch with nonzero nanoseconds, the case of the
borrow. -/
theorem time_conversions_round_trip_before_epoch :
    isValidTimestampProto (-1) 250000000 = true ∧ (toAbslTime ⟨-1, 250000000⟩).bind fromAbslTime = .ok ⟨-1, 250000000⟩ :=
  ⟨by decide, time_conversions_round_trip.1 ⟨-1, 250000000⟩ (by decide)⟩

end Asylo.Util
