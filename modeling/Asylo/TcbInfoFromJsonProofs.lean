import Asylo.ExceptLemmas
import Asylo.TcbInfoFromJson

/-! What the TCB info parser gives.

Each value the parser reads is read back here into the JSON it came from:
the `int32` fields are exactly their JSON numbers, which are integers in
range; a component SVN or a PCE SVN is the JSON number truncated, since only
its range is checked; a date is the whole second absl parsed, when that second
is one a `google.protobuf.Timestamp` can hold. From these, everything the
parser returns passes `ValidateTcbInfo`, as long as absl's parser gives whole
seconds (`ParsesWholeSeconds`), which its "%S" does. -/
namespace Asylo.Provisioning

open Asylo.Util (AbslTime AbslDuration ProtobufTimestamp kTicksPerSecond kTimestampMinSeconds
  kTimestampMaxSeconds)

/-! ## Numbers -/

@[simp] theorem cRound_intCast (n : Int) : cRound n = n := by
  unfold cRound
  split
  · have floor : ⌊-(n : ℚ) + 1 / 2⌋ = -n := by
      rw [← Int.cast_neg, Int.floor_intCast_add]
      norm_num
    rw [floor, neg_neg]
  · rw [Int.floor_intCast_add]
    norm_num

/-- `Int32FromJson` accepts exactly the numbers that are `int32`s, and gives
the number. -/
theorem int32FromJson_eq_ok {int32Json : JsonValue} {valueName : String} {value : Int} :
    int32FromJson int32Json valueName = .ok value ↔
      int32Json = .numberValue value ∧ kInt32Min ≤ value ∧ value ≤ kInt32Max := by
  simp only [int32FromJson, Except.bind_eq_ok, jsonGetNumber_eq_ok]
  constructor
  · rintro ⟨number, rfl, checked⟩
    by_cases outside : number < kInt32Min ∨ number > kInt32Max ∨ (cRound number : ℚ) ≠ number
    · simp only [if_pos outside, Except.throw_bind, Except.throw_eq_ok] at checked
    · rw [if_neg outside, Except.pure_eq_ok] at checked
      subst checked
      simp only [not_or, not_lt, ne_eq, not_not] at outside
      obtain ⟨low, high, integral⟩ := outside
      have whole := eq_truncToInt_of_cRound_eq integral
      refine ⟨congrArg JsonValue.numberValue whole, ?_, ?_⟩
      · exact_mod_cast whole ▸ low
      · exact_mod_cast whole ▸ high
  · rintro ⟨rfl, low, high⟩
    have inside : ¬((value : ℚ) < kInt32Min ∨ (value : ℚ) > kInt32Max ∨ (cRound value : ℚ) ≠ value) := by
      simp only [cRound_intCast, ne_eq, not_true_eq_false, or_false, not_or, not_lt, gt_iff_lt, Int.cast_le]
      exact ⟨low, high⟩
    refine ⟨value, rfl, ?_⟩
    rw [if_neg inside, Except.pure_eq_ok, truncToInt_intCast]

@[simp] theorem kPceSvnMaxValue_toNat : kPceSvnMaxValue.toNat = 65535 := rfl

/-- `SgxTcbComponentSvnFromJson` accepts any number from 0 to 255, integral or
not, and gives its integer part. -/
theorem sgxTcbComponentSvnFromJson_eq_ok {componentJson : JsonValue} {component : Int} :
    sgxTcbComponentSvnFromJson componentJson = .ok component ↔
      ∃ value, componentJson = .numberValue value ∧ 0 ≤ value ∧ value ≤ 255 ∧ component = ⌊value⌋ := by
  simp only [sgxTcbComponentSvnFromJson, Except.bind_eq_ok, jsonGetNumber_eq_ok, Except.ite_throw_eq_ok,
    Except.pure_eq_ok, not_or, not_lt, gt_iff_lt]
  constructor
  · rintro ⟨value, rfl, ⟨low, high⟩, rfl⟩
    exact ⟨value, rfl, low, high, truncToInt_of_nonneg low⟩
  · rintro ⟨value, rfl, low, high, rfl⟩
    exact ⟨value, rfl, ⟨low, high⟩, truncToInt_of_nonneg low⟩

/-- `PceSvnFromJson` accepts any number from 0 to 65535, integral or not, and
keeps its integer part. -/
theorem pceSvnFromJson_eq_ok {pceSvnJson : JsonValue} {pceSvn : PceSvn} :
    pceSvnFromJson pceSvnJson = .ok pceSvn ↔
      ∃ value, pceSvnJson = .numberValue value ∧ 0 ≤ value ∧ value ≤ 65535 ∧
        pceSvn = ⟨some (UInt32.ofNat ⌊value⌋.toNat)⟩ := by
  simp only [pceSvnFromJson, Except.bind_eq_ok, jsonGetNumber_eq_ok, Except.ite_throw_eq_ok,
    Except.pure_eq_ok, not_or, not_lt, gt_iff_lt, kPceSvnMaxValue_toNat, Nat.cast_ofNat]
  constructor
  · rintro ⟨value, rfl, ⟨low, high⟩, rfl⟩
    exact ⟨value, rfl, low, high, by rw [truncToInt_of_nonneg low]⟩
  · rintro ⟨value, rfl, low, high, rfl⟩
    exact ⟨value, rfl, ⟨low, high⟩, by rw [truncToInt_of_nonneg low]⟩

/-! ## Dates -/

/-- What absl's `ParseTime` gives for a format whose seconds are "%S": a finite
time is a whole number of seconds. -/
def ParsesWholeSeconds (parseTime : String → Except String AbslTime) : Prop :=
  ∀ text ticks, parseTime text = .ok ⟨.finite ticks⟩ → kTicksPerSecond ∣ ticks

/-- The two ends of `CanBeTimestampProto` are those of `ValidateTimestamp`. -/
theorem fromCivil_timestampProtoMinimum : fromCivil 1 1 1 0 0 0 = ⟨.seconds kTimestampMinSeconds⟩ := by
  decide

theorem fromCivil_timestampProtoMaximum : fromCivil 9999 12 31 23 59 59 = ⟨.seconds kTimestampMaxSeconds⟩ := by
  decide

theorem canBeTimestampProto_seconds (seconds : Int) :
    canBeTimestampProto ⟨.seconds seconds⟩ = true ↔
      kTimestampMinSeconds ≤ seconds ∧ seconds ≤ kTimestampMaxSeconds := by
  have positive : (0 : Int) < kTicksPerSecond := by decide
  simp only [canBeTimestampProto, fromCivil_timestampProtoMinimum, fromCivil_timestampProtoMaximum,
    AbslDuration.seconds, AbslDuration.le, Bool.and_eq_true, decide_eq_true_eq]
  constructor
  · rintro ⟨low, high⟩
    exact ⟨le_of_mul_le_mul_right low positive, le_of_mul_le_mul_right high positive⟩
  · rintro ⟨low, high⟩
    exact ⟨mul_le_mul_of_nonneg_right low positive.le, mul_le_mul_of_nonneg_right high positive.le⟩

@[simp] theorem canBeTimestampProto_infinite (negative : Bool) :
    canBeTimestampProto ⟨.infinite negative⟩ = false := by
  cases negative <;> rfl

variable {parseTime : String → Except String AbslTime}

theorem timestampFromJson_eq_ok {timestampJson : JsonValue} {timestamp : ProtobufTimestamp} :
    timestampFromJson parseTime timestampJson = .ok timestamp ↔
      ∃ text time, timestampJson = .stringValue text ∧ parseTime text = .ok time ∧
        canBeTimestampProto time = true ∧
        timestamp = ⟨(Util.idivDuration (time.sub Util.unixEpoch) kTicksPerSecond).1,
          Util.toInt64Nanoseconds (Util.idivDuration (time.sub Util.unixEpoch) kTicksPerSecond).2⟩ := by
  have parsed : ∀ text time, parseIso8601TimeString parseTime text = .ok time ↔ parseTime text = .ok time := by
    intro text time
    unfold parseIso8601TimeString
    split <;> simp_all
  simp only [timestampFromJson, Except.bind_eq_ok, jsonGetString_eq_ok, parsed, Bool.not_eq_true',
    Except.ite_throw_eq_ok, Except.pure_eq_ok, Bool.not_eq_false]
  constructor
  · rintro ⟨text, rfl, time, found, inRange, rfl⟩
    exact ⟨text, time, rfl, found, inRange, rfl⟩
  · rintro ⟨text, time, rfl, found, inRange, rfl⟩
    exact ⟨text, rfl, time, found, inRange, rfl⟩

/-- A date absl parsed to a whole second in the range of a
`google.protobuf.Timestamp` is that second. -/
theorem timestampFromJson_of_seconds {text : String} {seconds : Int}
    (parsed : parseTime text = .ok ⟨.seconds seconds⟩) (low : kTimestampMinSeconds ≤ seconds)
    (high : seconds ≤ kTimestampMaxSeconds) :
    timestampFromJson parseTime (.stringValue text) = .ok ⟨seconds, 0⟩ := by
  have nonzero : kTicksPerSecond ≠ 0 := by decide
  refine timestampFromJson_eq_ok.mpr ⟨text, _, rfl, parsed, (canBeTimestampProto_seconds seconds).mpr ⟨low, high⟩, ?_⟩
  simp [AbslDuration.seconds, Util.AbslTime.sub, Util.unixEpoch, AbslDuration.sub, Util.idivDuration,
    Util.toInt64Nanoseconds, Int.mul_tdiv_cancel _ nonzero, Int.mul_tmod_left]

/-- Under an absl that parses whole seconds, a date the parser gives is the
whole second absl parsed, and it is in range. -/
theorem timestampFromJson_eq_ok_of_whole (whole : ParsesWholeSeconds parseTime) {timestampJson : JsonValue}
    {timestamp : ProtobufTimestamp} (parsed : timestampFromJson parseTime timestampJson = .ok timestamp) :
    ∃ text seconds, timestampJson = .stringValue text ∧ parseTime text = .ok ⟨.seconds seconds⟩ ∧
      kTimestampMinSeconds ≤ seconds ∧ seconds ≤ kTimestampMaxSeconds ∧ timestamp = ⟨seconds, 0⟩ := by
  obtain ⟨text, time, rfl, found, inRange, -⟩ := timestampFromJson_eq_ok.mp parsed
  obtain ⟨duration⟩ := time
  cases duration with
  | infinite negative => simp at inRange
  | finite ticks =>
    obtain ⟨seconds, rfl⟩ := whole text ticks found
    have asSeconds : (⟨.finite (kTicksPerSecond * seconds)⟩ : AbslTime) = ⟨.seconds seconds⟩ := by
      rw [AbslDuration.seconds, mul_comm]
    rw [asSeconds] at found inRange
    obtain ⟨low, high⟩ := (canBeTimestampProto_seconds seconds).mp inRange
    refine ⟨text, seconds, rfl, found, low, high, ?_⟩
    have again := timestampFromJson_of_seconds found low high
    rw [parsed] at again
    exact Except.ok.inj again

theorem validateTimestamp_of_seconds {seconds : Int} (low : kTimestampMinSeconds ≤ seconds)
    (high : seconds ≤ kTimestampMaxSeconds) : validateTimestamp ⟨seconds, 0⟩ = .ok () := by
  have inside : ¬(seconds < kTimestampMinSeconds ∨ seconds > kTimestampMaxSeconds) := by omega
  simp [validateTimestamp, inside]

/-! ## TCBs and levels -/

theorem tcbComponentFromJson_eq_ok {tcbObject : List (String × JsonValue)} {i : Nat} {byte : UInt8} :
    tcbComponentFromJson tcbObject i = .ok byte ↔
      ∃ value, tcbObject.lookup (componentFieldName i) = some (.numberValue value) ∧ 0 ≤ value ∧ value ≤ 255 ∧
        byte = UInt8.ofNat ⌊value⌋.toNat := by
  simp only [tcbComponentFromJson, Except.bind_eq_ok, jsonObjectGetField_eq_ok, sgxTcbComponentSvnFromJson_eq_ok,
    Except.pure_eq_ok]
  constructor
  · rintro ⟨json, found, component, ⟨value, rfl, low, high, rfl⟩, rfl⟩
    exact ⟨value, found, low, high, rfl⟩
  · rintro ⟨value, found, low, high, rfl⟩
    exact ⟨_, found, _, ⟨value, rfl, low, high, rfl⟩, rfl⟩

/-- `TcbFromJsonValue` reads the sixteen components in order and the PCE SVN. -/
theorem tcbFromJsonValue_eq_ok {jsonValue : JsonValue} {tcb : Tcb} :
    tcbFromJsonValue jsonValue = .ok tcb ↔
      ∃ fields components pceSvn, jsonValue = .structValue fields ∧
        List.Forall₂ (fun i byte => tcbComponentFromJson fields i = .ok byte) (List.range kTcbComponentsSize)
          components ∧
        (∃ pceSvnJson, fields.lookup "pcesvn" = some pceSvnJson ∧ pceSvnFromJson pceSvnJson = .ok pceSvn) ∧
        tcb = ⟨some components, some pceSvn⟩ := by
  simp only [tcbFromJsonValue, Except.bind_eq_ok, jsonGetObject_eq_ok, Except.mapM_eq_ok_iff,
    jsonObjectGetField_eq_ok, Except.pure_eq_ok]
  constructor
  · rintro ⟨fields, rfl, components, mapped, pceSvnJson, found, pceSvn, read, rfl⟩
    exact ⟨fields, components, pceSvn, rfl, mapped, ⟨pceSvnJson, found, read⟩, rfl⟩
  · rintro ⟨fields, components, pceSvn, rfl, mapped, ⟨pceSvnJson, found, read⟩, rfl⟩
    exact ⟨fields, rfl, components, mapped, pceSvnJson, found, pceSvn, read, rfl⟩

/-- The integer part of a number from 0 to 65535 is a valid PCE SVN. -/
theorem validatePceSvn_floor {value : ℚ} (low : 0 ≤ value) (high : value ≤ 65535) :
    validatePceSvn ⟨some (UInt32.ofNat ⌊value⌋.toNat)⟩ = .ok () := by
  have floorHigh : ⌊value⌋ ≤ 65535 := by
    have below := Int.floor_le value
    exact_mod_cast below.trans high
  have floorLow : 0 ≤ ⌊value⌋ := Int.floor_nonneg.mpr low
  have small : ⌊value⌋.toNat ≤ 65535 := by omega
  have notAbove : ¬(UInt32.ofNat ⌊value⌋.toNat > kPceSvnMaxValue) := by
    rw [gt_iff_lt, UInt32.lt_iff_toNat_lt, UInt32.toNat_ofNat', kPceSvnMaxValue_toNat, Nat.mod_eq_of_lt (by omega)]
    omega
  simp [validatePceSvn, notAbove]

theorem validateTcb_of_tcbFromJsonValue {jsonValue : JsonValue} {tcb : Tcb}
    (parsed : tcbFromJsonValue jsonValue = .ok tcb) : validateTcb tcb = .ok () := by
  obtain ⟨fields, components, pceSvn, -, mapped, ⟨pceSvnJson, -, read⟩, rfl⟩ := tcbFromJsonValue_eq_ok.mp parsed
  obtain ⟨value, -, low, high, rfl⟩ := pceSvnFromJson_eq_ok.mp read
  have sixteen : components.length = kTcbComponentsSize := by simpa using mapped.length_eq.symm
  simp [validateTcb, sixteen, validatePceSvn_floor low high]

theorem validateTcbStatus_of_tcbStatusFromJson {tcbStatusJson : JsonValue} {status : TcbStatus}
    (parsed : tcbStatusFromJson tcbStatusJson = .ok status) : validateTcbStatus status = .ok () := by
  simp only [tcbStatusFromJson, Except.bind_eq_ok, jsonGetString_eq_ok] at parsed
  obtain ⟨text, -, chosen⟩ := parsed
  split at chosen
  next known found =>
    -- the known statuses map to the four valid ones, never to `INVALID`
    have listed := List.mem_of_lookup_eq_some found
    simp only [knownStatusesMap, List.mem_cons, Prod.mk.injEq, List.not_mem_nil, or_false] at listed
    cases Except.pure_eq_ok.mp chosen
    rcases listed with ⟨-, rfl⟩ | ⟨-, rfl⟩ | ⟨-, rfl⟩ | ⟨-, rfl⟩ <;> rfl
  next =>
    cases Except.pure_eq_ok.mp chosen
    rfl

/-- A level the parser reads has the TCB and the status of its JSON, under
version 2 its date, and otherwise neither a date nor advisories. -/
theorem tcbLevelFromJson_eq_ok {version : Int} {tcbLevelJson : JsonValue} {level : TcbLevel}
    (parsed : tcbLevelFromJson parseTime version tcbLevelJson = .ok level) :
    ∃ fields tcb status, tcbLevelJson = .structValue fields ∧
      (∃ tcbJson, fields.lookup "tcb" = some tcbJson ∧ tcbFromJsonValue tcbJson = .ok tcb) ∧
      (∃ statusJson, fields.lookup (if version = 2 then "tcbStatus" else "status") = some statusJson ∧
        tcbStatusFromJson statusJson = .ok status) ∧
      level.tcb = some tcb ∧ level.status = some status ∧
      (version = 2 → ∃ tcbDateJson tcbDate, fields.lookup "tcbDate" = some tcbDateJson ∧
          timestampFromJson parseTime tcbDateJson = .ok tcbDate ∧ level.tcbDate = some tcbDate) ∧
      (version ≠ 2 → level.tcbDate = none ∧ level.advisoryIds = []) := by
  simp only [tcbLevelFromJson, Except.bind_eq_ok, jsonGetObject_eq_ok, jsonObjectGetField_eq_ok] at parsed
  obtain ⟨fields, rfl, tcbJson, tcbFound, tcb, tcbRead, statusJson, statusFound, status, statusRead, rest⟩ := parsed
  refine ⟨fields, tcb, status, rfl, ⟨tcbJson, tcbFound, tcbRead⟩, ⟨statusJson, statusFound, statusRead⟩, ?_⟩
  by_cases second : version = 2
  · simp only [if_pos second, Except.bind_eq_ok, jsonObjectGetField_eq_ok] at rest ⊢
    obtain ⟨tcbDateJson, dateFound, tcbDate, dateRead, rest⟩ := rest
    -- with or without "advisoryIDs", the level has the TCB, the status and the date
    have built : level.tcb = some tcb ∧ level.status = some status ∧ level.tcbDate = some tcbDate := by
      split at rest
      · obtain ⟨advisoryIds, -, built⟩ := Except.bind_eq_ok.mp rest
        cases Except.pure_eq_ok.mp built
        exact ⟨rfl, rfl, rfl⟩
      · cases Except.pure_eq_ok.mp rest
        exact ⟨rfl, rfl, rfl⟩
    exact ⟨built.1, built.2.1, fun _ => ⟨tcbDateJson, tcbDate, dateFound, dateRead, built.2.2⟩,
      fun notSecond => absurd second notSecond⟩
  · simp only [if_neg second, Except.pure_eq_ok] at rest
    subst rest
    exact ⟨rfl, rfl, fun isSecond => absurd isSecond second, fun _ => ⟨rfl, rfl⟩⟩

/-- Every level the parser reads under version 1 or 2 passes `ValidateTcbLevel`
under that version. -/
theorem validateTcbLevel_of_tcbLevelFromJson {version : Int} (known : version = 1 ∨ version = 2)
    {tcbLevelJson : JsonValue} {level : TcbLevel} (parsed : tcbLevelFromJson parseTime version tcbLevelJson = .ok level) :
    validateTcbLevel level version = .ok () := by
  obtain ⟨fields, tcb, status, -, ⟨tcbJson, -, tcbRead⟩, ⟨statusJson, -, statusRead⟩, hasTcb, hasStatus, second, first⟩ :=
    tcbLevelFromJson_eq_ok parsed
  obtain ⟨tcbField, tcbDate, statusField, advisoryIds⟩ := level
  simp only at hasTcb hasStatus second first
  subst hasTcb hasStatus
  have tcbValid := validateTcb_of_tcbFromJsonValue tcbRead
  have statusValid := validateTcbStatus_of_tcbStatusFromJson statusRead
  rcases known with rfl | rfl
  · obtain ⟨rfl, rfl⟩ := first (by decide)
    simp [validateTcbLevel, tcbValid, statusValid]
  · obtain ⟨-, date, -, -, rfl⟩ := second rfl
    simp [validateTcbLevel, tcbValid, statusValid]

/-! ## The loops over the levels -/

/-- The TCB under which both loops file a level. -/
def TcbLevel.tcbKey (level : TcbLevel) : Tcb := level.tcb.getD ⟨none, none⟩

/-- The status under which both loops file a level. -/
def TcbLevel.statusKey (level : TcbLevel) : TcbStatus := level.status.getD .valueNotSet

/-- What the loop of `TcbLevelsFromJson` keeps of the levels `parsed` it has
read: some of them in order, with distinct TCBs, each filed in the map under
its TCB with its status, nothing else in the map, and for each level read a
kept one with its TCB and its status. -/
structure KeptLevels (parsed : List TcbLevel) (state : TcbLevelsState) : Prop where
  sublist : state.tcbLevels.Sublist parsed
  distinct : (state.tcbLevels.map TcbLevel.tcbKey).Nodup
  filed : ∀ level ∈ state.tcbLevels, state.tcbToStatusMap.find level.tcbKey = some level.statusKey
  unfiled : ∀ tcb, tcb ∉ state.tcbLevels.map TcbLevel.tcbKey → state.tcbToStatusMap.find tcb = none
  covered : ∀ level ∈ parsed, ∃ kept ∈ state.tcbLevels, kept.tcbKey = level.tcbKey ∧ kept.statusKey = level.statusKey

theorem keptLevels_empty : KeptLevels [] ⟨AssocMap.empty, []⟩ where
  sublist := List.Sublist.slnil
  distinct := List.nodup_nil
  filed _ member := nomatch member
  unfiled _ _ := AssocMap.find_empty _
  covered _ member := nomatch member

/-- One round of the loop: the level read is skipped when its TCB is filed
with its status, and kept when its TCB is new. -/
theorem tcbLevelsFromJsonStep_eq_ok {version : Int} {state state' : TcbLevelsState} {tcbLevelJson : JsonValue}
    (stepped : tcbLevelsFromJsonStep parseTime version state tcbLevelJson = .ok state') :
    ∃ level, tcbLevelFromJson parseTime version tcbLevelJson = .ok level ∧
      ((state.tcbToStatusMap.find level.tcbKey = some level.statusKey ∧ state' = state) ∨
        (state.tcbToStatusMap.find level.tcbKey = none ∧
          state' = ⟨state.tcbToStatusMap.emplace level.tcbKey level.statusKey, state.tcbLevels ++ [level]⟩)) := by
  simp only [tcbLevelsFromJsonStep, Except.bind_eq_ok] at stepped
  obtain ⟨level, read, filing⟩ := stepped
  refine ⟨level, read, ?_⟩
  split at filing
  next earlier found =>
    rw [Except.ite_throw_eq_ok, Except.pure_eq_ok, not_not] at filing
    obtain ⟨same, rfl⟩ := filing
    refine .inl ⟨?_, rfl⟩
    rw [TcbLevel.tcbKey, TcbLevel.statusKey, ← same]
    exact found
  next absent =>
    exact .inr ⟨absent, (Except.pure_eq_ok.mp filing).symm⟩

namespace KeptLevels

variable {parsed : List TcbLevel} {state : TcbLevelsState}

theorem mem_keys_of_find {kept : KeptLevels parsed state} {tcb : Tcb} {status : TcbStatus}
    (found : state.tcbToStatusMap.find tcb = some status) : tcb ∈ state.tcbLevels.map TcbLevel.tcbKey := by
  by_contra unkept
  rw [kept.unfiled tcb unkept] at found
  cases found

/-- A level whose TCB is filed with its status: the state stays, and a kept
level stands for it. -/
theorem skip (kept : KeptLevels parsed state) {level : TcbLevel}
    (found : state.tcbToStatusMap.find level.tcbKey = some level.statusKey) :
    KeptLevels (parsed ++ [level]) state where
  sublist := kept.sublist.trans (List.sublist_append_left _ _)
  distinct := kept.distinct
  filed := kept.filed
  unfiled := kept.unfiled
  covered other member := by
    rcases List.mem_append.mp member with earlier | added
    · exact kept.covered other earlier
    · rw [List.mem_singleton.mp added]
      obtain ⟨keptLevel, keptMember, sameKey⟩ := List.mem_map.mp (kept.mem_keys_of_find found)
      have filedWith := kept.filed keptLevel keptMember
      rw [sameKey, found] at filedWith
      exact ⟨keptLevel, keptMember, sameKey, (Option.some.inj filedWith).symm⟩

/-- A level with a new TCB is kept and filed. -/
theorem keep (kept : KeptLevels parsed state) {level : TcbLevel}
    (absent : state.tcbToStatusMap.find level.tcbKey = none) :
    KeptLevels (parsed ++ [level]) ⟨state.tcbToStatusMap.emplace level.tcbKey level.statusKey, state.tcbLevels ++ [level]⟩ := by
  have fresh : level.tcbKey ∉ state.tcbLevels.map TcbLevel.tcbKey := fun present => by
    obtain ⟨other, member, sameKey⟩ := List.mem_map.mp present
    have filedWith := kept.filed other member
    rw [sameKey, absent] at filedWith
    cases filedWith
  constructor
  · exact kept.sublist.append (List.Sublist.refl [level])
  · rw [List.map_append, List.nodup_append]
    refine ⟨kept.distinct, by simp, ?_⟩
    intro key member key' added same
    rw [List.map_singleton, List.mem_singleton] at added
    exact fresh (added ▸ same ▸ member)
  · intro other member
    rw [AssocMap.find_emplace_of_find_eq_none absent]
    rcases List.mem_append.mp member with earlier | added
    · have different : other.tcbKey ≠ level.tcbKey := fun same => fresh (same ▸ List.mem_map_of_mem earlier)
      rw [if_neg different]
      exact kept.filed other earlier
    · rw [List.mem_singleton.mp added, if_pos rfl]
  · intro tcb unkept
    rw [List.map_append, List.mem_append, not_or, List.map_singleton, List.mem_singleton] at unkept
    rw [AssocMap.find_emplace_of_find_eq_none absent, if_neg unkept.2]
    exact kept.unfiled tcb unkept.1
  · intro other member
    rcases List.mem_append.mp member with earlier | added
    · obtain ⟨keptLevel, keptMember, same⟩ := kept.covered other earlier
      exact ⟨keptLevel, List.mem_append_left _ keptMember, same⟩
    · exact ⟨level, List.mem_append_right _ (List.mem_singleton_self level), by rw [List.mem_singleton.mp added], by
        rw [List.mem_singleton.mp added]⟩

theorem step (kept : KeptLevels parsed state) {version : Int} {tcbLevelJson : JsonValue} {state' : TcbLevelsState}
    (stepped : tcbLevelsFromJsonStep parseTime version state tcbLevelJson = .ok state') :
    ∃ level, tcbLevelFromJson parseTime version tcbLevelJson = .ok level ∧ KeptLevels (parsed ++ [level]) state' := by
  obtain ⟨level, read, ⟨found, rfl⟩ | ⟨absent, rfl⟩⟩ := tcbLevelsFromJsonStep_eq_ok stepped
  · exact ⟨level, read, kept.skip found⟩
  · exact ⟨level, read, kept.keep absent⟩

/-- A whole run of the loop reads every level of the array. -/
theorem run {version : Int} : ∀ {tcbLevelJsons : List JsonValue} {parsed : List TcbLevel} {state final : TcbLevelsState},
    KeptLevels parsed state →
    tcbLevelJsons.foldlM (tcbLevelsFromJsonStep parseTime version) state = .ok final →
    ∃ more, List.Forall₂ (fun json level => tcbLevelFromJson parseTime version json = .ok level) tcbLevelJsons more ∧
      KeptLevels (parsed ++ more) final
  | [], parsed, state, final, kept, done => by
    cases Except.pure_eq_ok.mp done
    exact ⟨[], List.Forall₂.nil, by simpa using kept⟩
  | json :: rest, parsed, state, final, kept, done => by
    rw [List.foldlM_cons, Except.bind_eq_ok] at done
    obtain ⟨middle, stepped, done⟩ := done
    obtain ⟨level, read, keptMiddle⟩ := kept.step stepped
    obtain ⟨more, readRest, keptFinal⟩ := run keptMiddle done
    exact ⟨level :: more, List.Forall₂.cons read readRest, by simpa using keptFinal⟩

end KeptLevels

/-- `TcbLevelsFromJson` reads every level of the array, and returns some of
them in order: one for each TCB, with the status every level of that TCB has. -/
theorem tcbLevelsFromJson_eq_ok {version : Int} {tcbLevelsJson : JsonValue} {tcbLevels : List TcbLevel}
    (parsed : tcbLevelsFromJson parseTime version tcbLevelsJson = .ok tcbLevels) :
    ∃ tcbLevelJsons read, tcbLevelsJson = .listValue tcbLevelJsons ∧
      List.Forall₂ (fun json level => tcbLevelFromJson parseTime version json = .ok level) tcbLevelJsons read ∧
      tcbLevels.Sublist read ∧ (tcbLevels.map TcbLevel.tcbKey).Nodup ∧
      ∀ level ∈ read, ∃ kept ∈ tcbLevels, kept.tcbKey = level.tcbKey ∧ kept.statusKey = level.statusKey := by
  simp only [tcbLevelsFromJson, Except.bind_eq_ok, jsonGetArray_eq_ok, Except.pure_eq_ok] at parsed
  obtain ⟨tcbLevelJsons, rfl, final, done, rfl⟩ := parsed
  obtain ⟨read, readAll, kept⟩ := KeptLevels.run keptLevels_empty done
  rw [List.nil_append] at kept
  exact ⟨tcbLevelJsons, read, rfl, readAll, kept.sublist, kept.distinct, kept.covered⟩

/-- The loop of `ValidateTcbInfoImplV1andV2` over valid levels with distinct
TCBs, none of them in the map yet, succeeds. -/
theorem validateTcbLevels_of_distinct {version : Int} :
    ∀ {tcbLevels : List TcbLevel} {tcbToStatusMap : AssocMap Tcb TcbStatus},
      (∀ level ∈ tcbLevels, validateTcbLevel level version = .ok ()) → (tcbLevels.map TcbLevel.tcbKey).Nodup →
      (∀ level ∈ tcbLevels, tcbToStatusMap.find level.tcbKey = none) →
      ∃ final, tcbLevels.foldlM (validateTcbLevelsStep version) tcbToStatusMap = .ok final
  | [], tcbToStatusMap, _, _, _ => ⟨tcbToStatusMap, rfl⟩
  | level :: rest, tcbToStatusMap, valid, distinct, absent => by
    have stepped : validateTcbLevelsStep version tcbToStatusMap level =
        .ok (tcbToStatusMap.emplace level.tcbKey level.statusKey) := by
      have notFiled : tcbToStatusMap.find level.tcbKey = none := absent level List.mem_cons_self
      simp only [validateTcbLevelsStep, valid level List.mem_cons_self, Except.ok_bind]
      rw [show level.tcb.getD ⟨none, none⟩ = level.tcbKey from rfl, notFiled]
      rfl
    rw [List.map_cons, List.nodup_cons] at distinct
    rw [List.foldlM_cons, stepped, Except.ok_bind]
    refine validateTcbLevels_of_distinct (fun other member => valid other (List.mem_cons_of_mem _ member))
      distinct.2 fun other member => ?_
    -- the later levels have other TCBs, so the new entry does not file them
    have different : other.tcbKey ≠ level.tcbKey := fun same => distinct.1 (same ▸ List.mem_map_of_mem member)
    rw [AssocMap.find_emplace_of_find_eq_none (absent level List.mem_cons_self), if_neg different]
    exact absent other (List.mem_cons_of_mem _ member)

/-! ## The TCB info -/

theorem fmspcFromJson_eq_ok {fmspcJson : JsonValue} {fmspc : Fmspc} :
    fmspcFromJson fmspcJson = .ok fmspc ↔
      ∃ text, fmspcJson = .stringValue text ∧ isHexEncoded text = true ∧
        (hexStringToBytes text).length = kFmspcSize ∧ fmspc = ⟨some (hexStringToBytes text)⟩ := by
  simp only [fmspcFromJson, Except.bind_eq_ok, jsonGetString_eq_ok, Except.ite_throw_eq_ok, Except.pure_eq_ok,
    Bool.not_eq_true', Bool.not_eq_false, ne_eq, not_not]
  constructor
  · rintro ⟨text, rfl, hex, size, rfl⟩
    exact ⟨text, rfl, hex, size, rfl⟩
  · rintro ⟨text, rfl, hex, size, rfl⟩
    exact ⟨text, rfl, hex, size, rfl⟩

theorem pceIdFromJson_eq_ok {pceIdJson : JsonValue} {pceId : PceId} :
    pceIdFromJson pceIdJson = .ok pceId ↔
      ∃ text, pceIdJson = .stringValue text ∧ isHexEncoded text = true ∧
        (hexStringToBytes text).length = kPceIdNumBytes ∧
        pceId = ⟨some (UInt32.ofNat (LittleEndian.decode (hexStringToBytes text)))⟩ := by
  simp only [pceIdFromJson, Except.bind_eq_ok, jsonGetString_eq_ok, Except.ite_throw_eq_ok, Except.pure_eq_ok,
    Bool.not_eq_true', Bool.not_eq_false, ne_eq, not_not]
  constructor
  · rintro ⟨text, rfl, hex, size, rfl⟩
    exact ⟨text, rfl, hex, size, rfl⟩
  · rintro ⟨text, rfl, hex, size, rfl⟩
    exact ⟨text, rfl, hex, size, rfl⟩

theorem validateFmspc_of_fmspcFromJson {fmspcJson : JsonValue} {fmspc : Fmspc}
    (parsed : fmspcFromJson fmspcJson = .ok fmspc) : validateFmspc fmspc = .ok () := by
  obtain ⟨text, -, -, size, rfl⟩ := fmspcFromJson_eq_ok.mp parsed
  simp [validateFmspc, validateFixedSizeValue, size]

/-- Two little-endian bytes are a valid PCE ID. -/
theorem validatePceId_of_pceIdFromJson {pceIdJson : JsonValue} {pceId : PceId}
    (parsed : pceIdFromJson pceIdJson = .ok pceId) : validatePceId pceId = .ok () := by
  obtain ⟨text, -, -, size, rfl⟩ := pceIdFromJson_eq_ok.mp parsed
  have small : LittleEndian.decode (hexStringToBytes text) < 65536 := by
    have bound := LittleEndian.decode_lt (hexStringToBytes text)
    rwa [size, kPceIdNumBytes] at bound
  have notAbove : ¬(UInt32.ofNat (LittleEndian.decode (hexStringToBytes text)) > kPceIdMaxValue) := by
    rw [gt_iff_lt, UInt32.lt_iff_toNat_lt, UInt32.toNat_ofNat', Nat.mod_eq_of_lt (by omega)]
    show ¬(65535 < _)
    omega
  simp [validatePceId, notAbove]

/-- `TcbInfoFromJsonV1and2` reads each field of the TCB info from its JSON:
under version 2 the TCB type 0 and the evaluation data number, and otherwise
neither. -/
theorem tcbInfoFromJsonV1and2_eq_ok {version : Int} {tcbInfoObject : List (String × JsonValue)} {tcbInfo : TcbInfo}
    (parsed : tcbInfoFromJsonV1and2 parseTime version tcbInfoObject = .ok tcbInfo) :
    ∃ issueDate nextUpdate fmspc pceId tcbType tcbEvaluationDataNumber tcbLevels,
      (∃ json, tcbInfoObject.lookup "issueDate" = some json ∧ timestampFromJson parseTime json = .ok issueDate) ∧
      (∃ json, tcbInfoObject.lookup "nextUpdate" = some json ∧ timestampFromJson parseTime json = .ok nextUpdate) ∧
      timestampLt issueDate nextUpdate = true ∧
      (∃ json, tcbInfoObject.lookup "fmspc" = some json ∧ fmspcFromJson json = .ok fmspc) ∧
      (∃ json, tcbInfoObject.lookup "pceId" = some json ∧ pceIdFromJson json = .ok pceId) ∧
      (version = 2 → tcbType = some .tcbType0 ∧
        (∃ json, tcbInfoObject.lookup "tcbType" = some json ∧ int32FromJson json "TCB type" = .ok 0) ∧
        ∃ evaluationDataNumber, tcbEvaluationDataNumber = some evaluationDataNumber ∧
          ∃ json, tcbInfoObject.lookup "tcbEvaluationDataNumber" = some json ∧
            int32FromJson json "TCB evaluation data number" = .ok evaluationDataNumber) ∧
      (version ≠ 2 → tcbType = none ∧ tcbEvaluationDataNumber = none) ∧
      (∃ json, tcbInfoObject.lookup "tcbLevels" = some json ∧ tcbLevelsFromJson parseTime version json = .ok tcbLevels) ∧
      tcbInfo = ⟨some ⟨some version, some issueDate, some nextUpdate, some fmspc, some pceId, tcbType,
        tcbEvaluationDataNumber, tcbLevels⟩⟩ := by
  simp only [tcbInfoFromJsonV1and2, Except.bind_eq_ok, jsonObjectGetField_eq_ok, Except.ite_throw_eq_ok,
    Bool.not_eq_true', Bool.not_eq_false] at parsed
  obtain ⟨issueJson, issueFound, issueDate, issueRead, nextJson, nextFound, nextUpdate, nextRead, ordered,
    fmspcJson, fmspcFound, fmspc, fmspcRead, pceIdJson, pceIdFound, pceId, pceIdRead, rest⟩ := parsed
  refine ⟨issueDate, nextUpdate, fmspc, pceId, ?_⟩
  by_cases second : version = 2
  · simp only [if_pos second, Except.bind_eq_ok, jsonObjectGetField_eq_ok, Except.ite_throw_eq_ok, ne_eq,
      not_not, pure_bind] at rest
    obtain ⟨typeJson, typeFound, tcbType, typeRead, isZero, evaluationJson, evaluationFound, evaluationDataNumber,
      evaluationRead, levelsJson, levelsFound, tcbLevels, levelsRead, rest⟩ := rest
    subst isZero
    refine ⟨some .tcbType0, some evaluationDataNumber, tcbLevels, ⟨issueJson, issueFound, issueRead⟩,
      ⟨nextJson, nextFound, nextRead⟩, ordered, ⟨fmspcJson, fmspcFound, fmspcRead⟩, ⟨pceIdJson, pceIdFound, pceIdRead⟩,
      fun _ => ⟨rfl, ⟨typeJson, typeFound, typeRead⟩, evaluationDataNumber, rfl, evaluationJson, evaluationFound,
        evaluationRead⟩, fun notSecond => absurd second notSecond, ⟨levelsJson, levelsFound, levelsRead⟩, ?_⟩
    exact (Except.pure_eq_ok.mp rest).symm
  · simp only [if_neg second, Except.bind_eq_ok, jsonObjectGetField_eq_ok, pure_bind] at rest
    obtain ⟨levelsJson, levelsFound, tcbLevels, levelsRead, rest⟩ := rest
    refine ⟨none, none, tcbLevels, ⟨issueJson, issueFound, issueRead⟩, ⟨nextJson, nextFound, nextRead⟩, ordered,
      ⟨fmspcJson, fmspcFound, fmspcRead⟩, ⟨pceIdJson, pceIdFound, pceIdRead⟩, fun isSecond => absurd isSecond second,
      fun _ => ⟨rfl, rfl⟩, ⟨levelsJson, levelsFound, levelsRead⟩, ?_⟩
    exact (Except.pure_eq_ok.mp rest).symm

theorem tcbInfoFromJson_eq_ok {tcbInfoJson : JsonValue} {tcbInfo : TcbInfo}
    (parsed : tcbInfoFromJson parseTime tcbInfoJson = .ok tcbInfo) :
    ∃ tcbInfoObject version, tcbInfoJson = .structValue tcbInfoObject ∧
      (∃ json, tcbInfoObject.lookup "version" = some json ∧ int32FromJson json "TCB info version" = .ok version) ∧
      (version = 1 ∨ version = 2) ∧ tcbInfoFromJsonV1and2 parseTime version tcbInfoObject = .ok tcbInfo := by
  simp only [tcbInfoFromJson, Except.bind_eq_ok, jsonGetObject_eq_ok, jsonObjectGetField_eq_ok] at parsed
  obtain ⟨tcbInfoObject, rfl, versionJson, found, version, read, rest⟩ := parsed
  split at rest
  next known => exact ⟨tcbInfoObject, version, rfl, ⟨versionJson, found, read⟩, known, rest⟩
  next => simp at rest

theorem exists_of_forall₂_of_mem {α β : Type} {R : α → β → Prop} :
    ∀ {as : List α} {bs : List β}, List.Forall₂ R as bs → ∀ {b}, b ∈ bs → ∃ a ∈ as, R a b
  | _, _, .nil, _, member => nomatch member
  | a :: _, b :: _, .cons related rest, other, member => by
    rcases List.mem_cons.mp member with rfl | later
    · exact ⟨a, List.mem_cons_self, related⟩
    · obtain ⟨a', member', related'⟩ := exists_of_forall₂_of_mem rest later
      exact ⟨a', List.mem_cons_of_mem _ member', related'⟩

/-- Everything `TcbInfoFromJson` returns passes `ValidateTcbInfo`, when absl
parses whole seconds. -/
theorem tcbInfoFromJson_valid (whole : ParsesWholeSeconds parseTime) {tcbInfoJson : JsonValue} {tcbInfo : TcbInfo}
    (parsed : tcbInfoFromJson parseTime tcbInfoJson = .ok tcbInfo) : validateTcbInfo tcbInfo = .ok () := by
  obtain ⟨tcbInfoObject, version, -, -, known, parsed⟩ := tcbInfoFromJson_eq_ok parsed
  obtain ⟨issueDate, nextUpdate, fmspc, pceId, tcbType, evaluationDataNumber, tcbLevels,
    ⟨issueJson, -, issueRead⟩, ⟨nextJson, -, nextRead⟩, ordered, ⟨fmspcJson, -, fmspcRead⟩,
    ⟨pceIdJson, -, pceIdRead⟩, second, notSecond, ⟨levelsJson, -, levelsRead⟩, rfl⟩ :=
    tcbInfoFromJsonV1and2_eq_ok parsed
  -- the dates are whole seconds in range
  obtain ⟨issueText, issueSeconds, -, -, issueLow, issueHigh, rfl⟩ := timestampFromJson_eq_ok_of_whole whole issueRead
  obtain ⟨nextText, nextSeconds, -, -, nextLow, nextHigh, rfl⟩ := timestampFromJson_eq_ok_of_whole whole nextRead
  -- the levels kept are levels read, so valid, and their TCBs are distinct
  obtain ⟨levelJsons, read, -, readAll, kept, distinct, -⟩ := tcbLevelsFromJson_eq_ok levelsRead
  have valid : ∀ level ∈ tcbLevels, validateTcbLevel level version = .ok () := fun level member => by
    obtain ⟨json, -, readLevel⟩ := exists_of_forall₂_of_mem readAll (kept.subset member)
    exact validateTcbLevel_of_tcbLevelFromJson known readLevel
  obtain ⟨final, levelsValid⟩ := validateTcbLevels_of_distinct valid distinct fun _ _ => AssocMap.find_empty _
  have fmspcValid := validateFmspc_of_fmspcFromJson fmspcRead
  have pceIdValid := validatePceId_of_pceIdFromJson pceIdRead
  have issueValid := validateTimestamp_of_seconds issueLow issueHigh
  have nextValid := validateTimestamp_of_seconds nextLow nextHigh
  rcases known with rfl | rfl
  · obtain ⟨rfl, rfl⟩ := notSecond (by decide)
    simp [validateTcbInfo, validateTcbInfoImpl, validateTcbInfoImplV1andV2, issueValid, nextValid, ordered,
      fmspcValid, pceIdValid, levelsValid]
  · obtain ⟨rfl, -, evaluation, rfl, -⟩ := second rfl
    simp [validateTcbInfo, validateTcbInfoImpl, validateTcbInfoImplV1andV2, issueValid, nextValid, ordered,
      fmspcValid, pceIdValid, levelsValid]

/-- Under a version other than 2 the parser reads no date of a level, so
what it reads does not depend on absl's parser. -/
theorem tcbLevelFromJson_of_ne_two {version : Int} (notSecond : version ≠ 2)
    (parseTime parseTime' : String → Except String AbslTime) :
    tcbLevelFromJson parseTime version = tcbLevelFromJson parseTime' version := by
  funext tcbLevelJson
  simp [tcbLevelFromJson, notSecond]

theorem tcbLevelsFromJson_of_ne_two {version : Int} (notSecond : version ≠ 2)
    (parseTime parseTime' : String → Except String AbslTime) :
    tcbLevelsFromJson parseTime version = tcbLevelsFromJson parseTime' version := by
  have sameStep : tcbLevelsFromJsonStep parseTime version = tcbLevelsFromJsonStep parseTime' version := by
    funext state tcbLevelJson
    simp only [tcbLevelsFromJsonStep, tcbLevelFromJson_of_ne_two notSecond parseTime parseTime']
  funext tcbLevelsJson
  rw [tcbLevelsFromJson, tcbLevelsFromJson, sameStep]

/-- A version 1 object whose fields read, with the issue date before the next
update, is the TCB info of those fields. -/
theorem tcbInfoFromJson_of_version_one {tcbInfoObject : List (String × JsonValue)} {issueDate nextUpdate : ProtobufTimestamp}
    {fmspc : Fmspc} {pceId : PceId} {tcbLevels : List TcbLevel}
    (versionFound : tcbInfoObject.lookup "version" = some (.numberValue 1))
    (issue : ∃ json, tcbInfoObject.lookup "issueDate" = some json ∧ timestampFromJson parseTime json = .ok issueDate)
    (next : ∃ json, tcbInfoObject.lookup "nextUpdate" = some json ∧ timestampFromJson parseTime json = .ok nextUpdate)
    (ordered : timestampLt issueDate nextUpdate = true)
    (fmspcRead : ∃ json, tcbInfoObject.lookup "fmspc" = some json ∧ fmspcFromJson json = .ok fmspc)
    (pceIdRead : ∃ json, tcbInfoObject.lookup "pceId" = some json ∧ pceIdFromJson json = .ok pceId)
    (levels : ∃ json, tcbInfoObject.lookup "tcbLevels" = some json ∧ tcbLevelsFromJson parseTime 1 json = .ok tcbLevels) :
    tcbInfoFromJson parseTime (.structValue tcbInfoObject) =
      .ok ⟨some ⟨some 1, some issueDate, some nextUpdate, some fmspc, some pceId, none, none, tcbLevels⟩⟩ := by
  obtain ⟨issueJson, issueFound, issueRead⟩ := issue
  obtain ⟨nextJson, nextFound, nextRead⟩ := next
  obtain ⟨fmspcJson, fmspcFound, fmspcParsed⟩ := fmspcRead
  obtain ⟨pceIdJson, pceIdFound, pceIdParsed⟩ := pceIdRead
  obtain ⟨levelsJson, levelsFound, levelsRead⟩ := levels
  have versionRead : int32FromJson (.numberValue 1) "TCB info version" = .ok 1 :=
    int32FromJson_eq_ok.mpr ⟨rfl, by decide, by decide⟩
  simp [tcbInfoFromJson, tcbInfoFromJsonV1and2, jsonGetObject, jsonObjectGetField, versionFound, versionRead,
    issueFound, issueRead, nextFound, nextRead, ordered, fmspcFound, fmspcParsed, pceIdFound, pceIdParsed,
    levelsFound, levelsRead]

/-- A TCB object of the JSON: component 1 and the PCE SVN as given, the other
fifteen components 2. -/
def tcbJsonOf (first pceSvn : ℚ) : JsonValue :=
  .structValue ((List.range kTcbComponentsSize).map (fun i => (componentFieldName i, .numberValue (if i = 0 then first else 2))) ++
    [("pcesvn", .numberValue pceSvn)])

/-- A version 1 TCB info with two levels, both up to date: one whose component 1
is 1.5 and whose PCE SVN is 7.5, and one whose are 1 and 7. -/
def truncatedSvnsTcbInfoJson : JsonValue :=
  .structValue [("version", .numberValue 1), ("issueDate", .stringValue "2019-05-01T00:00:00Z"),
    ("nextUpdate", .stringValue "2019-06-01T00:00:00Z"), ("fmspc", .stringValue "00906ea10000"),
    ("pceId", .stringValue "0000"),
    ("tcbLevels", .listValue [.structValue [("tcb", tcbJsonOf (3 / 2) (15 / 2)), ("status", .stringValue "UpToDate")],
      .structValue [("tcb", tcbJsonOf 1 7), ("status", .stringValue "UpToDate")]])]

/-- What the parser makes of it: one level, with the component 1 and the PCE
SVN 7. -/
def truncatedSvnsTcbInfo : TcbInfo :=
  ⟨some ⟨some 1, some ⟨1556668800, 0⟩, some ⟨1559347200, 0⟩, some ⟨some [0x00, 0x90, 0x6e, 0xa1, 0x00, 0x00]⟩,
    some ⟨some 0⟩, none, none,
    [⟨some ⟨some (1 :: List.replicate 15 2), some ⟨some 7⟩⟩, none, some (.knownStatus .upToDate), []⟩]⟩⟩

theorem tcb_info_from_json_truncates_svns (parseTime : String → Except String AbslTime)
    (issueParsed : parseTime "2019-05-01T00:00:00Z" = .ok ⟨.seconds 1556668800⟩)
    (nextParsed : parseTime "2019-06-01T00:00:00Z" = .ok ⟨.seconds 1559347200⟩) :
    tcbInfoFromJson parseTime truncatedSvnsTcbInfoJson = .ok truncatedSvnsTcbInfo ∧
      validateTcbInfo truncatedSvnsTcbInfo = .ok () := by
  have levelsRead : tcbLevelsFromJson parseTime 1
      (.listValue [.structValue [("tcb", tcbJsonOf (3 / 2) (15 / 2)), ("status", .stringValue "UpToDate")],
        .structValue [("tcb", tcbJsonOf 1 7), ("status", .stringValue "UpToDate")]]) =
      .ok [⟨some ⟨some (1 :: List.replicate 15 2), some ⟨some 7⟩⟩, none, some (.knownStatus .upToDate), []⟩] := by
    -- version 1 reads no level dates, so any parser reads the levels the same way
    rw [tcbLevelsFromJson_of_ne_two (by decide) parseTime fun _ => .error ""]
    decide +kernel
  refine ⟨tcbInfoFromJson_of_version_one rfl ⟨_, rfl, timestampFromJson_of_seconds issueParsed (by decide) (by decide)⟩
    ⟨_, rfl, timestampFromJson_of_seconds nextParsed (by decide) (by decide)⟩ (by decide) ⟨_, rfl, rfl⟩ ⟨_, rfl, rfl⟩
    ⟨_, rfl, levelsRead⟩, ?_⟩
  decide +kernel

/-- absl's parser on the two dates of `truncatedSvnsTcbInfoJson`. -/
def parseMay2019Dates (text : String) : Except String AbslTime :=
  if text = "2019-05-01T00:00:00Z" then .ok ⟨.seconds 1556668800⟩
  else if text = "2019-06-01T00:00:00Z" then .ok ⟨.seconds 1559347200⟩
  else .error "Failed to parse input"

theorem tcb_info_from_json_truncates_svns_at_may_2019 :
    tcbInfoFromJson parseMay2019Dates truncatedSvnsTcbInfoJson = .ok truncatedSvnsTcbInfo ∧
      validateTcbInfo truncatedSvnsTcbInfo = .ok () :=
  tcb_info_from_json_truncates_svns parseMay2019Dates rfl rfl

end Asylo.Provisioning
