import Asylo.Status

/-! What the `StatusProto` round trip keeps.

`RestoreFrom` never leaves an OK status with a message or payloads, so a
status whose space is registered under its name comes back from its proto
unchanged exactly when it is `Normal`: OK only with no message and no payloads
(`statusFromProto_statusToProto_eq_iff`). Every way the API builds a status
keeps `Normal`, but one: `WithPrependedContext` gives an OK status a message
(`Status.normal_withPrependedContext_iff`), which the round trip drops.

The canonical code of a restored status is the proto's when the proto's space
is registered. Otherwise the code is read in the canonical space, where a
number that is no canonical code reads as `UNKNOWN`
(`canonicalCode_statusFromProto_iff`). -/
namespace Asylo.Util

/-- What a status built by the API keeps, unless `WithPrependedContext` was
applied to an OK status: an OK status has no message and no payloads. -/
def Status.Normal (status : Status) : Prop :=
  status.ok = true → status.message = "" ∧ status.payloads = noPayloads

/-- Whether every `WithPrependedContext` of an expression is given an error. -/
def StatusExpr.prependsOnlyToErrors : StatusExpr → Bool
  | .setPayload status _ _ | .erasePayload status _ | .withContext status _
  | .movedByConstructor status | .movedByAssignment status => status.prependsOnlyToErrors
  | .withPrependedContext status _ => !status.eval.ok && status.prependsOnlyToErrors
  | _ => true

section Normal

variable {status : Status}

theorem Status.normal_of_ok_false (notOk : status.ok = false) : status.Normal := by
  intro ok
  simp [notOk] at ok

theorem normal_okStatus : okStatus.Normal := fun _ => ⟨rfl, rfl⟩

/-- `Set` keeps the invariant of a status with no payloads. -/
theorem Status.normal_set (empty : status.payloads = noPayloads) (space : ErrorSpace) (code : Int)
    (message : String) : (status.set space code message).Normal := by
  intro ok
  have zero : code = 0 := by simpa using ok
  exact ⟨by simp [Status.set, zero], empty⟩

theorem Status.normal_ofSpace (space : ErrorSpace) (code : Int) (message : String) :
    (Status.ofSpace space code message).Normal :=
  @Status.normal_set okStatus rfl space code message

theorem Status.normal_setPayload (normal : status.Normal) (typeUrl payload : String) :
    (status.setPayload typeUrl payload).Normal := by
  unfold Status.setPayload
  split
  · exact normal
  · next notOk => exact Status.normal_of_ok_false (by simpa [Status.ok] using notOk)

theorem Status.normal_erasePayload (normal : status.Normal) (typeUrl : String) :
    (status.erasePayload typeUrl).2.Normal := by
  intro ok
  obtain ⟨message, empty⟩ := normal ok
  refine ⟨message, ?_⟩
  funext url
  simp [Status.erasePayload, empty, noPayloads]

/-- `WithPrependedContext` keeps the invariant exactly on errors: on an OK
status it leaves a message. -/
theorem Status.normal_withPrependedContext_iff (context : String) :
    (status.withPrependedContext context).Normal ↔ status.ok = false := by
  constructor
  · intro normal
    cases ok : status.ok
    · rfl
    · have empty := (normal ok).1
      simp [Status.withPrependedContext] at empty
  · intro notOk
    exact Status.normal_of_ok_false notOk

theorem normal_withContext (normal : status.Normal) (context : String) :
    (withContext status context).Normal := by
  unfold withContext
  split
  · exact normal
  · next notOk => exact Status.normal_of_ok_false (by simpa [Status.ok, Status.ofSpace] using notOk)

theorem Status.normal_movedFrom (message : String) : (status.movedFrom message).Normal :=
  Status.normal_set rfl _ _ _

theorem Status.normal_foldl_setPayload (entries : List (String × String)) (normal : status.Normal) :
    (entries.foldl (fun status entry => status.setPayload entry.1 entry.2) status).Normal := by
  induction entries generalizing status with
  | nil => exact normal
  | cons entry entries ih => exact ih (Status.normal_setPayload normal entry.1 entry.2)

theorem Status.normal_ofAbsl (other : AbslStatus) : (Status.ofAbsl other).Normal :=
  Status.normal_foldl_setPayload other.payloads (Status.normal_set rfl _ _ _)

/-- Every status the API builds keeps the invariant, as long as each
`WithPrependedContext` is given an error. -/
theorem StatusExpr.normal_eval (expr : StatusExpr) (onlyErrors : expr.prependsOnlyToErrors = true) :
    expr.eval.Normal := by
  induction expr with
  | okStatus => exact normal_okStatus
  | ofSpace space code message => exact Status.normal_ofSpace space code message
  | ofEnum space code message => exact Status.normal_set rfl space code message
  | ofAbsl other => exact Status.normal_ofAbsl other
  | setPayload status typeUrl payload ih => exact Status.normal_setPayload (ih onlyErrors) typeUrl payload
  | erasePayload status typeUrl ih => exact Status.normal_erasePayload (ih onlyErrors) typeUrl
  | withPrependedContext status context ih =>
    have notOk : status.eval.ok = false := by
      simpa [prependsOnlyToErrors] using (Bool.and_eq_true_iff.1 onlyErrors).1
    exact (Status.normal_withPrependedContext_iff context).2 notOk
  | withContext status context ih => exact normal_withContext (ih onlyErrors) context
  | movedByConstructor status ih => exact Status.normal_movedFrom _
  | movedByAssignment status ih => exact Status.normal_movedFrom _

end Normal

section RoundTrip

variable {registry : List ErrorSpace}

/-- The end of `RestoreFrom` keeps the invariant, its payloads being cleared. -/
theorem Status.normal_restoreMessage {status : Status} (empty : status.payloads = noPayloads)
    (proto : StatusProto) : (status.restoreMessage proto).Normal := by
  unfold Status.restoreMessage
  split
  · next nonzero => exact Status.normal_of_ok_false (by simpa [Status.ok] using nonzero)
  · exact fun _ => ⟨rfl, empty⟩

/-- Whatever the proto, `RestoreFrom` leaves an OK status with no message and
no payloads. -/
theorem Status.normal_restoreFrom (status : Status) (proto : StatusProto) :
    (status.restoreFrom registry proto).Normal := by
  unfold Status.restoreFrom
  split
  · split
    · exact Status.normal_set rfl _ _ _
    · exact Status.normal_restoreMessage rfl proto
  · split
    · exact Status.normal_set rfl _ _ _
    · split <;> exact Status.normal_restoreMessage rfl proto

/-- A status that keeps the invariant, in the space registered under its
name, comes back from its proto as it was. -/
theorem Status.restoreFrom_saveTo {status : Status}
    (registered : ErrorSpace.find registry status.errorSpace.spaceName = some status.errorSpace)
    (normal : status.Normal) (base : Status) : base.restoreFrom registry status.saveTo = status := by
  obtain ⟨space, code, message, payloads⟩ := status
  simp only [Status.restoreFrom, Status.saveTo, Status.canonicalCode] at registered ⊢
  simp only [registered]
  unfold Status.restoreMessage
  by_cases zero : code = 0
  · obtain ⟨rfl, rfl⟩ : message = "" ∧ payloads = noPayloads := normal (by simp [Status.ok, zero])
    simp [zero]
  · simp [zero]

theorem statusFromProto_statusToProto_eq_iff {status : Status}
    (registered : ErrorSpace.find registry status.errorSpace.spaceName = some status.errorSpace) :
    statusFromProto registry (statusToProto status) = status ↔ status.Normal := by
  constructor
  · intro roundTrip
    rw [← roundTrip]
    exact Status.normal_restoreFrom okStatus _
  · intro normal
    exact Status.restoreFrom_saveTo registered normal okStatus

/-- Every status the API builds in a registered space, with each
`WithPrependedContext` given an error, survives the round trip. -/
theorem statusFromProto_statusToProto_eval (expr : StatusExpr) (onlyErrors : expr.prependsOnlyToErrors = true)
    (registered : ErrorSpace.find registry expr.eval.errorSpace.spaceName = some expr.eval.errorSpace) :
    statusFromProto registry (statusToProto expr.eval) = expr.eval :=
  Status.restoreFrom_saveTo registered (expr.normal_eval onlyErrors) okStatus

end RoundTrip

section CanonicalCode

variable {registry : List ErrorSpace} {proto : StatusProto} {canonicalCode : Int}

/-- The canonical space reads every canonical code as itself. -/
@[simp] theorem googleErrorSpace_googleErrorCode_toInt (code : GoogleError) :
    googleErrorSpace.googleErrorCode code.toInt = code := by
  cases code <;> decide

/-- The canonical space reads a number that is no canonical code as
`UNKNOWN`. -/
theorem googleErrorSpace_googleErrorCode_of_not_mem (notCode : canonicalCode ∉ GoogleError.all.map GoogleError.toInt) :
    googleErrorSpace.googleErrorCode canonicalCode = .UNKNOWN := by
  have nonzero : canonicalCode ≠ 0 := fun zero => notCode (by rw [zero]; decide)
  have missing : googleErrorSpace.codeTranslationMap.lookup canonicalCode = none := by
    rw [List.lookup_eq_none_iff]
    intro entry member
    obtain ⟨code, codeMember, rfl⟩ := List.mem_map.1 member
    have other : canonicalCode ≠ code.toInt := fun same => notCode (same ▸ List.mem_map_of_mem codeMember)
    simpa using other
  simp [ErrorSpace.googleErrorCode, nonzero, missing]

theorem restoreError_is (status : Status) (message : String) :
    (status.set statusErrorSpace StatusError.RESTORE_ERROR.toInt message).is statusErrorSpace
      StatusError.RESTORE_ERROR.toInt = true := by
  simp [Status.is]

/-- When the proto's space is registered, a restored status that is no
`RESTORE_ERROR` has the canonical code the proto carries. -/
theorem canonicalCode_restoreFrom_of_find {space : ErrorSpace} (base : Status)
    (found : ErrorSpace.find registry proto.space = some space) (carries : proto.canonicalCode = some canonicalCode)
    (restored : (base.restoreFrom registry proto).is statusErrorSpace StatusError.RESTORE_ERROR.toInt = false) :
    (base.restoreFrom registry proto).canonicalCode.toInt = canonicalCode := by
  simp only [Status.restoreFrom, found, carries] at restored ⊢
  split at restored
  · simp [restoreError_is] at restored
  · next consistent =>
    rw [if_neg consistent]
    simpa [Status.canonicalCode] using consistent

/-- When the proto's space is not registered, the code of a restored status
that is no `RESTORE_ERROR` is the proto's canonical code, read in the
canonical space. -/
theorem canonicalCode_restoreFrom_of_find_none (base : Status)
    (missing : ErrorSpace.find registry proto.space = none) (carries : proto.canonicalCode = some canonicalCode)
    (restored : (base.restoreFrom registry proto).is statusErrorSpace StatusError.RESTORE_ERROR.toInt = false) :
    (base.restoreFrom registry proto).canonicalCode = googleErrorSpace.googleErrorCode canonicalCode := by
  simp only [Status.restoreFrom, missing, carries] at restored ⊢
  split at restored
  · simp [restoreError_is] at restored
  · next consistent =>
    rw [if_neg consistent]
    simp [Status.canonicalCode]

/-- A restored status that is no `RESTORE_ERROR` has the canonical code its
proto carries exactly when the proto's space is registered or that code is a
canonical code. -/
theorem canonicalCode_statusFromProto_iff (carries : proto.canonicalCode = some canonicalCode)
    (restored : (statusFromProto registry proto).is statusErrorSpace StatusError.RESTORE_ERROR.toInt = false) :
    (statusFromProto registry proto).canonicalCode.toInt = canonicalCode ↔
      (ErrorSpace.find registry proto.space).isSome ∨ canonicalCode ∈ GoogleError.all.map GoogleError.toInt := by
  cases found : ErrorSpace.find registry proto.space with
  | some space =>
    simpa [statusFromProto] using canonicalCode_restoreFrom_of_find okStatus found carries restored
  | none =>
    rw [statusFromProto, canonicalCode_restoreFrom_of_find_none okStatus found carries restored]
    simp only [Option.isSome_none, Bool.false_eq_true, false_or]
    constructor
    · intro readBack
      by_cases isCode : canonicalCode ∈ GoogleError.all.map GoogleError.toInt
      · exact isCode
      · rw [googleErrorSpace_googleErrorCode_of_not_mem isCode] at readBack
        exact absurd (by rw [← readBack]; decide) isCode
    · intro isCode
      obtain ⟨code, -, rfl⟩ := List.mem_map.1 isCode
      simp

/-- The two places where the round trip and the restored canonical code
differ from what the interface promises. An OK status given a context by
`WithPrependedContext` holds a message; its proto restores it without one.
A proto of an unregistered space whose canonical code 999 is no canonical code
restores, with no `RESTORE_ERROR`, to a status whose canonical code is
`UNKNOWN`. -/
theorem ok_context_dropped_and_canonical_code_unknown :
    let registry : List ErrorSpace := [googleErrorSpace, statusErrorSpace]
    let status := (StatusExpr.withPrependedContext .okStatus "context").eval
    let proto : StatusProto := ⟨5, "", "UnregisteredSpace", some 999, noPayloads⟩
    status.ok = true ∧ status.message = "context: " ∧
      (statusFromProto registry (statusToProto status)).message = "" ∧
      (statusFromProto registry proto).is statusErrorSpace StatusError.RESTORE_ERROR.toInt = false ∧
      (statusFromProto registry proto).canonicalCode = .UNKNOWN := by
  decide

end CanonicalCode

end Asylo.Util
