import Asylo.SgxBoundary
import Asylo.CheckedLog
import Asylo.Machine
import Asylo.ExceptLemmas

/-! What the enclave boundary of `trusted_sgx.cc` guarantees, and where it does
not.

Entering the enclave is confined: whatever the host does to untrusted memory
meanwhile, `asylo_enclave_call` reads only ranges it has checked with
`IsOutsideEnclave` (`asyloEnclaveCall_reads_checked`), loads each field of
`SgxParams` once (`asyloEnclaveCall_fetches`), hands the entry handler the
extents of one snapshot of the input (`asyloEnclaveCall_handler_input`), and
runs a handler only below `kEntryPointMax`, registered, in an enclave not marked
aborted (`invokeEntryHandler_ok`). Along any run of calls, an aborted enclave
stays aborted and runs no handler again, and a registered handler is never
replaced.

Calling out is not: `UntrustedCall` reads only checked ranges when it returns
(`untrustedCall_reads_checked`), but it loads `sgx_params->output` again after
checking it, to decide whether to deserialize and to free it, and loads
`input_size` three times while it fills the input buffer, so a host that
rewrites the fields in between gets an unchecked pointer freed, and the input
written past the range it let the enclave check. -/
namespace Asylo.SgxBoundaryProofs

open Message SgxBoundary

/-! ## Reads against checks -/

/-- The range an event asks `IsOutsideEnclave` about. -/
def eventCheck : Event → Option (Nat × Nat)
  | .check address size => some (address, size)
  | _ => none

/-- The range of untrusted memory an event reads. -/
def eventRead : Event → Option (Nat × Nat)
  | .fetch address => some (address, 8)
  | .read address length => some (address, length)
  | _ => none

/-- Every read of untrusted memory in `log` lies in a range that an earlier
`IsOutsideEnclave` call asked about, for at least the length read. -/
def readsChecked (log : List Event) : Bool :=
  CheckedLog.allCoveredFrom eventCheck eventRead [] log

/-- Two logs that each read only what they checked make one. -/
theorem readsChecked_append {first second : List Event} (covered : readsChecked first = true)
    (self : readsChecked second = true) : readsChecked (first ++ second) = true := by
  unfold readsChecked at *
  rw [CheckedLog.allCoveredFrom_append, covered, Bool.true_and]
  exact CheckedLog.allCoveredFrom_mono _ _ second (List.nil_subset _) self

/-- Events that read nothing. -/
theorem readsChecked_of_readFree {log : List Event} (readFree : ∀ event ∈ log, eventRead event = none) :
    readsChecked log = true :=
  CheckedLog.allCoveredFrom_of_readFree _ _ [] log readFree

/-! ## The pieces of a call -/

/-- `CopyFromUntrusted` copies nothing, or stops at a failed check, or checks
a range and copies that range, all of it at one instant. -/
theorem copyFromUntrusted_spec {runtime : Runtime} {memory : HostMemory} {log : List Event}
    {untrustedData size : Nat} {result : Except String (Option (List UInt8))} {after : List Event}
    (copied : copyFromUntrusted runtime memory log untrustedData size = (result, after)) :
    (result = .ok none ∧ after = log) ∨
      (∃ message, result = .error message ∧ after = log ++ [.check untrustedData size]) ∨
      (result = .ok (some (readUntrusted memory (log ++ [.check untrustedData size]) untrustedData size)) ∧
        after = log ++ [.check untrustedData size, .read untrustedData size]) := by
  unfold copyFromUntrusted at copied
  split_ifs at copied with copies outside
  · simp only [Prod.mk.injEq] at copied
    obtain ⟨rfl, rfl⟩ := copied
    simp
  · simp only [Prod.mk.injEq] at copied
    obtain ⟨rfl, rfl⟩ := copied
    simp
  · simp only [Prod.mk.injEq] at copied
    obtain ⟨rfl, rfl⟩ := copied
    simp

/-- `CopyToUntrusted` reads nothing and runs no handler. -/
theorem copyToUntrusted_log (runtime : Runtime) (log : List Event) (pointer : Address) (data : List UInt8) :
    ∃ extra, (copyToUntrusted runtime log pointer data).2 = log ++ extra ∧
      ∀ event ∈ extra, eventRead event = none ∧ ∀ selector input, event ≠ .invoke selector input := by
  unfold copyToUntrusted
  split_ifs with nonEmpty nonNull outside
  · exact ⟨[.check pointer data.length, .write pointer data], by simp, by simp [eventRead]⟩
  · exact ⟨[.check pointer data.length], rfl, by simp [eventRead]⟩
  · exact ⟨[.write 0 data], rfl, by simp [eventRead]⟩
  · exact ⟨[], by simp, by simp⟩

/-- The end of `asylo_enclave_call` reads nothing and runs no handler, and it
leaves the state as it was or marks it aborted. -/
theorem returnOutput_log (runtime : Runtime) (host : Host) (state : EnclaveState) (buffer : Address)
    (log : List Event) (status : PrimitiveStatus) (output : List Extent) :
    ∃ extra, (returnOutput runtime host state buffer log status output).log = log ++ extra ∧
      (∀ event ∈ extra, eventRead event = none ∧ ∀ selector input, event ≠ .invoke selector input) ∧
      ((returnOutput runtime host state buffer log status output).state = state ∨
        (returnOutput runtime host state buffer log status output).state = markEnclaveAborted state) := by
  unfold returnOutput
  dsimp only
  split_ifs with nonEmpty
  · obtain ⟨copy, copyLog, copyQuiet⟩ := copyToUntrusted_log runtime log
      (host.alloc 0 (MessageWriter.mk output).messageSize) (MessageWriter.mk output).serialize
    rcases copying : copyToUntrusted runtime log _ _ with ⟨result, copied⟩
    rw [copying] at copyLog
    cases result with
    | error message => exact ⟨copy, copyLog, copyQuiet, Or.inr rfl⟩
    | ok pointer =>
      simp only at copyLog
      subst copyLog
      refine ⟨copy ++ [.write (buffer + offsetOfOutput) (LittleEndian.encode 8 pointer),
        .write (buffer + offsetOfOutputSize) (LittleEndian.encode 8 (MessageWriter.mk output).messageSize)],
        by simp, ?_, Or.inl rfl⟩
      intro event member
      rcases List.mem_append.mp member with early | late
      · exact copyQuiet event early
      · simp at late
        rcases late with rfl | rfl <;> simp [eventRead]
  · exact ⟨[.write (buffer + offsetOfOutputSize) _], rfl, by simp [eventRead], Or.inl rfl⟩

/-! ## The enclave state -/

private theorem uint64_or_eq_zero (a b : UInt64) : a ||| b = 0 ↔ a = 0 ∧ b = 0 := by
  constructor
  · intro zero
    have bits := congrArg UInt64.toBitVec zero
    simp only [UInt64.toBitVec_or, UInt64.toBitVec_zero, BitVec.or_eq_zero_iff] at bits
    exact ⟨UInt64.toBitVec_inj.mp bits.1, UInt64.toBitVec_inj.mp bits.2⟩
  · rintro ⟨rfl, rfl⟩
    rfl

/-- Setting a flag marks the enclave aborted exactly when the flag has the
aborted bit or it was marked already. -/
theorem isAborted_updateEnclaveState (state : EnclaveState) (flag : UInt64) :
    isAborted (updateEnclaveState state flag) = (isAborted state || flag &&& Flag.kAborted != 0) := by
  have distrib : (state.flags ||| flag) &&& Flag.kAborted =
      (state.flags &&& Flag.kAborted) ||| (flag &&& Flag.kAborted) := by
    apply UInt64.toBitVec_inj.mp
    simp [BitVec.and_or_distrib_right]
  rw [Bool.eq_iff_iff]
  simp only [isAborted, updateEnclaveState, distrib, Bool.or_eq_true, bne_iff_ne, ne_eq,
    uint64_or_eq_zero, not_and_or]

@[simp] theorem isAborted_markEnclaveAborted (state : EnclaveState) :
    isAborted (markEnclaveAborted state) = true := by
  rw [markEnclaveAborted, isAborted_updateEnclaveState]
  simp [Flag.kAborted]

@[simp] theorem isAborted_markEnclaveInitialized (state : EnclaveState) :
    isAborted (markEnclaveInitialized state) = isAborted state := by
  rw [markEnclaveInitialized, isAborted_updateEnclaveState]
  have noBit : Flag.kInitialized &&& Flag.kAborted = 0 := by decide
  simp [noBit]

/-- How the enclave state changes: the aborted mark is never cleared and a
registered handler is never replaced. -/
structure Grows (before after : EnclaveState) : Prop where
  aborted : isAborted before = true → isAborted after = true
  handlers : ∀ selector handler, before.entryTable selector = some handler →
    after.entryTable selector = some handler

theorem Grows.refl (state : EnclaveState) : Grows state state := ⟨id, fun _ _ => id⟩

theorem Grows.trans {first second third : EnclaveState} (early : Grows first second)
    (late : Grows second third) : Grows first third :=
  ⟨late.aborted ∘ early.aborted, fun selector handler held =>
    late.handlers selector handler (early.handlers selector handler held)⟩

theorem grows_markEnclaveAborted (state : EnclaveState) : Grows state (markEnclaveAborted state) :=
  ⟨fun _ => isAborted_markEnclaveAborted state, fun _ _ => id⟩

theorem grows_markEnclaveInitialized (state : EnclaveState) : Grows state (markEnclaveInitialized state) :=
  ⟨fun aborted => (isAborted_markEnclaveInitialized state).trans aborted, fun _ _ => id⟩

/-- A registration fills only an empty slot and leaves the flags alone. -/
theorem grows_registerEntryHandler (state : EnclaveState) (selector : Nat) (handler : EntryHandler) :
    Grows state (registerEntryHandler state selector handler).1 := by
  unfold registerEntryHandler
  split_ifs with refused
  · exact Grows.refl state
  · refine ⟨fun aborted => aborted, fun other held registered => ?_⟩
    have distinct : other ≠ selector := by
      rintro rfl
      exact refused (Or.inr (by simp [registered]))
    simpa [Function.update_of_ne distinct] using registered

theorem grows_registerAll (message : String) :
    ∀ (handlers : List (Nat × EntryHandler)) {state registered : EnclaveState},
      registerAll message state handlers = .ok registered → Grows state registered := by
  intro handlers
  induction handlers with
  | nil =>
    intro state registered done
    cases done
    exact Grows.refl state
  | cons entry rest ih =>
    intro state registered done
    obtain ⟨selector, handler⟩ := entry
    unfold registerAll at done
    split at done
    rename_i next status registering
    split_ifs at done with ok
    have grown := grows_registerEntryHandler state selector handler
    rw [registering] at grown
    exact grown.trans (ih done)

theorem grows_ensureInitialized {runtime : Runtime} {state initialized : EnclaveState}
    (done : ensureInitialized runtime state = .ok initialized) : Grows state initialized := by
  unfold ensureInitialized at done
  split_ifs at done with already
  · cases done
    exact Grows.refl state
  · obtain ⟨reserved, reservedOk, done⟩ := Except.bind_eq_ok.mp done
    obtain ⟨user, userOk, done⟩ := Except.bind_eq_ok.mp done
    obtain ⟨donate, donateOk, done⟩ := Except.bind_eq_ok.mp done
    obtain ⟨fini, finiOk, done⟩ := Except.bind_eq_ok.mp done
    cases done
    exact (grows_registerAll _ _ reservedOk).trans ((grows_registerAll _ _ userOk).trans
      ((grows_registerAll _ _ donateOk).trans ((grows_registerAll _ _ finiOk).trans
        (grows_markEnclaveInitialized fini))))

/-- A handler may run: the selector is below `kEntryPointMax`, and once the
enclave is initialized it has a handler there and is not marked aborted. -/
def HandlerRuns (runtime : Runtime) (state : EnclaveState) (selector : Nat) : Prop :=
  selector < kEntryPointMax ∧ ∃ initialized, ensureInitialized runtime state = .ok initialized ∧
    (initialized.entryTable selector).isSome ∧ isAborted initialized = false

/-- What `InvokeEntryHandler` returns: the initialized state, and the run of a
handler only where one may run. -/
theorem invokeEntryHandler_ok {runtime : Runtime} {state : EnclaveState} {selector : Nat}
    {input : List Extent} {result : EnclaveState × PrimitiveStatus × List Extent × List Event}
    (invoked : invokeEntryHandler runtime state selector input = .ok result) :
    Grows state result.1 ∧
      (result.2.2.2 = [] ∨ (result.2.2.2 = [.invoke selector input] ∧ HandlerRuns runtime state selector)) := by
  unfold invokeEntryHandler at invoked
  obtain ⟨initialized, initOk, invoked⟩ := Except.bind_eq_ok.mp invoked
  have grown := grows_ensureInitialized initOk
  cases aborted : isAborted initialized
  · -- not marked aborted: the selector decides
    simp only [aborted, Bool.false_eq_true, if_false] at invoked
    by_cases beyond : kEntryPointMax ≤ selector
    · simp only [beyond, if_true, pure, Except.pure, Except.ok.injEq] at invoked
      subst invoked
      exact ⟨grown, Or.inl rfl⟩
    cases found : initialized.entryTable selector with
    | none =>
      simp only [beyond, found, if_false, pure, Except.pure, Except.ok.injEq] at invoked
      subst invoked
      exact ⟨grown, Or.inl rfl⟩
    | some handler =>
      simp only [beyond, found, if_false, pure, Except.pure, Except.ok.injEq] at invoked
      subst invoked
      exact ⟨grown, Or.inr ⟨rfl, by omega, initialized, initOk, by simp [found], aborted⟩⟩
  · simp only [aborted, if_true, pure, Except.pure, Except.ok.injEq] at invoked
    subst invoked
    exact ⟨grown, Or.inl rfl⟩

/-- From `InvokeEntryHandler` on, `asylo_enclave_call` adds the run of a
handler where one may run, and then reads nothing more. -/
theorem invokeAndReturn_log (runtime : Runtime) (host : Host) (state : EnclaveState) (selector : Nat)
    (buffer : Address) (log : List Event) (extents : List Extent) :
    Grows state (invokeAndReturn runtime host state selector buffer log extents).state ∧
      ∃ ran out, (invokeAndReturn runtime host state selector buffer log extents).log = log ++ ran ++ out ∧
        (ran = [] ∨ (ran = [.invoke selector extents] ∧ HandlerRuns runtime state selector)) ∧
        ∀ event ∈ out, eventRead event = none ∧ ∀ selector input, event ≠ .invoke selector input := by
  unfold invokeAndReturn
  split
  · exact ⟨grows_markEnclaveAborted state, [], [], by simp, Or.inl rfl, by simp⟩
  · rename_i initialized status output ran invoking
    obtain ⟨grown, ranShape⟩ := invokeEntryHandler_ok invoking
    obtain ⟨out, outLog, outQuiet, outState⟩ :=
      returnOutput_log runtime host initialized buffer (log ++ ran) status output
    refine ⟨?_, ran, out, outLog, ranShape, outQuiet⟩
    rcases outState with same | aborted
    · rw [same]
      exact grown
    · rw [aborted]
      exact grown.trans (grows_markEnclaveAborted initialized)

/-! ## Entering the enclave -/

/-- The check of `SgxParams` and the loads of its input fields, with which
`asylo_enclave_call` begins. -/
def enclaveCallHeader (buffer : Address) : List Event :=
  [.check buffer sizeofSgxParams, .fetch (buffer + offsetOfInput), .fetch (buffer + offsetOfInputSize)]

/-- The input pointer `asylo_enclave_call` loads. -/
def loadedInput (host : Host) (buffer : Address) : Nat :=
  load host.memory [.check buffer sizeofSgxParams] (buffer + offsetOfInput)

/-- The input size `asylo_enclave_call` loads. -/
def loadedInputSize (host : Host) (buffer : Address) : Nat :=
  load host.memory [.check buffer sizeofSgxParams, .fetch (buffer + offsetOfInput)] (buffer + offsetOfInputSize)

/-- The extents a handler may receive: none when nothing was copied, else those
of the copy the log records, taken at one instant. -/
def SnapshotInput (runtime : Runtime) (host : Host) (buffer : Address) (copy : List Event)
    (extents : List Extent) : Prop :=
  (copy = [] ∧ extents = []) ∨
    (copy = [.check (loadedInput host buffer) (loadedInputSize host buffer),
        .read (loadedInput host buffer) (loadedInputSize host buffer)] ∧
      some extents = (deserialize (bufferSource (readUntrusted host.memory
        (enclaveCallHeader buffer ++ [.check (loadedInput host buffer) (loadedInputSize host buffer)])
        (loadedInput host buffer) (loadedInputSize host buffer)) runtime.heapBeyond)
        (loadedInputSize host buffer)).1)

/-- The log of `asylo_enclave_call`: after the check of `SgxParams` and the
loads of the input fields, what `CopyFromUntrusted` adds, the run of a handler
where one may run on the extents of the copy, and an end that reads nothing. The
state only grows. -/
theorem asyloEnclaveCall_log (runtime : Runtime) (host : Host) (state : EnclaveState) (selector : Nat)
    (buffer : Address) :
    Grows state (asyloEnclaveCall runtime host state selector buffer).state ∧
      (((asyloEnclaveCall runtime host state selector buffer).log = [] ∨
          (asyloEnclaveCall runtime host state selector buffer).log = [.check buffer sizeofSgxParams]) ∨
        ∃ copy ran out, (asyloEnclaveCall runtime host state selector buffer).log =
            enclaveCallHeader buffer ++ copy ++ ran ++ out ∧
          (copy = [] ∨ copy = [.check (loadedInput host buffer) (loadedInputSize host buffer)] ∨
            copy = [.check (loadedInput host buffer) (loadedInputSize host buffer),
              .read (loadedInput host buffer) (loadedInputSize host buffer)]) ∧
          (ran = [] ∨ ∃ extents, ran = [.invoke selector extents] ∧ HandlerRuns runtime state selector ∧
            SnapshotInput runtime host buffer copy extents) ∧
          ∀ event ∈ out, eventRead event = none ∧ ∀ selector input, event ≠ .invoke selector input) := by
  unfold asyloEnclaveCall
  by_cases invalid : buffer = 0 ∨ runtime.isOutsideEnclave buffer sizeofSgxParams = false
  · rw [if_pos invalid]
    refine ⟨Grows.refl state, Or.inl ?_⟩
    by_cases null : buffer = 0
    · simp [null]
    · simp [null]
  rw [if_neg invalid]
  have nonNull : buffer ≠ 0 := fun null => invalid (Or.inl null)
  simp only [nonNull, if_false, List.cons_append, List.nil_append]
  split
  · -- CopyFromUntrusted stopped at its check
    rename_i message after copying
    rcases copyFromUntrusted_spec copying with ⟨wrong, _⟩ | ⟨_, _, rfl⟩ | ⟨wrong, _⟩
    · cases wrong
    · exact ⟨grows_markEnclaveAborted state, Or.inr ⟨_, [], [],
        by simp [enclaveCallHeader, loadedInput, loadedInputSize], Or.inr (Or.inl rfl), Or.inl rfl, by simp⟩⟩
    · cases wrong
  rename_i trustedInput after copying
  rcases copyFromUntrusted_spec copying with ⟨same, rfl⟩ | ⟨_, wrong, _⟩ | ⟨same, rfl⟩
  · -- nothing to copy: the handler gets no extents
    simp only [Except.ok.injEq] at same
    subst same
    obtain ⟨grown, ran, out, log, ranShape, outQuiet⟩ :=
      invokeAndReturn_log runtime host state selector buffer (enclaveCallHeader buffer) []
    refine ⟨grown, Or.inr ⟨[], ran, out, by simpa [enclaveCallHeader] using log, Or.inl rfl, ?_, outQuiet⟩⟩
    rcases ranShape with none | ⟨once, runs⟩
    · exact Or.inl none
    · exact Or.inr ⟨[], once, runs, Or.inl ⟨rfl, rfl⟩⟩
  · cases wrong
  · -- the handler gets the extents of the copy, unless they do not parse
    simp only [Except.ok.injEq] at same
    subst same
    split
    · exact ⟨Grows.refl state, Or.inr ⟨_, [], [], by simp [enclaveCallHeader, loadedInput, loadedInputSize],
        Or.inr (Or.inr rfl), Or.inl rfl, by simp⟩⟩
    · rename_i extents parsing
      obtain ⟨grown, ran, out, log, ranShape, outQuiet⟩ := invokeAndReturn_log runtime host state selector buffer
        (enclaveCallHeader buffer ++ [.check (loadedInput host buffer) (loadedInputSize host buffer),
          .read (loadedInput host buffer) (loadedInputSize host buffer)]) extents
      refine ⟨grown, Or.inr ⟨_, ran, out, by simpa [enclaveCallHeader, loadedInput, loadedInputSize] using log,
        Or.inr (Or.inr rfl), ?_,
        outQuiet⟩⟩
      rcases ranShape with none | ⟨once, runs⟩
      · exact Or.inl none
      · exact Or.inr ⟨extents, once, runs, Or.inr ⟨rfl, parsing.symm⟩⟩

/-- What `asylo_enclave_call` reads lies in ranges it checked, whatever the host
does meanwhile. -/
theorem asyloEnclaveCall_reads_checked (runtime : Runtime) (host : Host) (state : EnclaveState)
    (selector : Nat) (buffer : Address) :
    readsChecked (asyloEnclaveCall runtime host state selector buffer).log = true := by
  obtain ⟨_, short | ⟨copy, ran, out, log, copyShape, ranShape, outQuiet⟩⟩ :=
    asyloEnclaveCall_log runtime host state selector buffer
  · rcases short with empty | checked
    · rw [empty]
      rfl
    · rw [checked]
      simp [readsChecked, eventRead, eventCheck]
  rw [log]
  have header : readsChecked (enclaveCallHeader buffer) = true := by
    simp [readsChecked, enclaveCallHeader, eventRead, eventCheck, CheckedLog.covers, sizeofSgxParams,
      offsetOfInput, offsetOfInputSize]
  have copied : readsChecked copy = true := by
    rcases copyShape with rfl | rfl | rfl <;> simp [readsChecked, eventRead, eventCheck, CheckedLog.covers]
  have handled : readsChecked ran = true := by
    rcases ranShape with rfl | ⟨_, rfl, _⟩ <;> simp [readsChecked, eventRead, eventCheck]
  exact readsChecked_append (readsChecked_append (readsChecked_append header copied) handled)
    (readsChecked_of_readFree fun event member => (outQuiet event member).1)

/-- Whether an event loads a field of `SgxParams`. -/
def isFetch : Event → Bool
  | .fetch _ => true
  | _ => false

theorem isFetch_eq_false {event : Event} (quiet : eventRead event = none) : isFetch event = false := by
  cases event <;> simp_all [eventRead, isFetch]

/-- `asylo_enclave_call` loads the input pointer and the input size once each,
and no other field: the values it checks are the values it copies with. -/
theorem asyloEnclaveCall_fetches (runtime : Runtime) (host : Host) (state : EnclaveState)
    (selector : Nat) (buffer : Address) :
    (asyloEnclaveCall runtime host state selector buffer).log.filter isFetch = [] ∨
      (asyloEnclaveCall runtime host state selector buffer).log.filter isFetch =
        [.fetch (buffer + offsetOfInput), .fetch (buffer + offsetOfInputSize)] := by
  obtain ⟨_, short | ⟨copy, ran, out, log, copyShape, ranShape, outQuiet⟩⟩ :=
    asyloEnclaveCall_log runtime host state selector buffer
  · left
    rcases short with empty | checked
    · simp [empty]
    · simp [checked, isFetch]
  right
  have outFree : out.filter isFetch = [] :=
    List.filter_eq_nil_iff.mpr fun event member => by simp [isFetch_eq_false (outQuiet event member).1]
  rw [log, List.filter_append, List.filter_append, List.filter_append, outFree]
  rcases copyShape with rfl | rfl | rfl <;> rcases ranShape with rfl | ⟨_, rfl, _⟩ <;>
    simp [enclaveCallHeader, isFetch]

/-- The handler `asylo_enclave_call` runs is the one at its selector, where a
handler may run, and it receives no extents or those of the input as it was at
one instant, the one at which the enclave copied it. -/
theorem asyloEnclaveCall_handler_input (runtime : Runtime) (host : Host) (state : EnclaveState)
    (selector : Nat) (buffer : Address) {handled : Nat} {extents : List Extent}
    (ran : .invoke handled extents ∈ (asyloEnclaveCall runtime host state selector buffer).log) :
    handled = selector ∧ HandlerRuns runtime state selector ∧
      (extents = [] ∨ some extents = (deserialize (bufferSource (readUntrusted host.memory
        (enclaveCallHeader buffer ++ [.check (loadedInput host buffer) (loadedInputSize host buffer)])
        (loadedInput host buffer) (loadedInputSize host buffer)) runtime.heapBeyond)
        (loadedInputSize host buffer)).1) := by
  obtain ⟨_, short | ⟨copy, handlers, out, log, copyShape, ranShape, outQuiet⟩⟩ :=
    asyloEnclaveCall_log runtime host state selector buffer
  · rcases short with empty | checked
    · simp [empty] at ran
    · simp [checked] at ran
  rw [log] at ran
  simp only [List.mem_append] at ran
  rcases ran with ((inHeader | inCopy) | inRan) | inOut
  · simp [enclaveCallHeader] at inHeader
  · rcases copyShape with rfl | rfl | rfl <;> simp at inCopy
  · rcases ranShape with rfl | ⟨given, rfl, runs, snapshot⟩
    · simp at inRan
    simp only [List.mem_singleton, Event.invoke.injEq] at inRan
    obtain ⟨rfl, rfl⟩ := inRan
    refine ⟨rfl, runs, ?_⟩
    rcases snapshot with ⟨_, none⟩ | ⟨_, parsed⟩
    · exact Or.inl none
    · exact Or.inr parsed
  · exact absurd rfl ((outQuiet _ inOut).2 handled extents)

/-! ## Runs of calls into the enclave -/

/-- A call of the host into the enclave as a step of the enclave: the state
after it and its log. -/
def enclaveStep (runtime : Runtime) (state : EnclaveState) (entry : Host × Nat × Address) :
    EnclaveState × List Event :=
  ((asyloEnclaveCall runtime entry.1 state entry.2.1 entry.2.2).state,
    (asyloEnclaveCall runtime entry.1 state entry.2.1 entry.2.2).log)

/-- Along any run of calls, the aborted mark stays and no registered handler is
replaced. -/
theorem enclave_state_grows (runtime : Runtime) (state : EnclaveState) (entries : List (Host × Nat × Address)) :
    Grows state (Machine.run (enclaveStep runtime) state entries).1 := by
  have preserved : ∀ current entry, Grows state current → Grows state (enclaveStep runtime current entry).1 :=
    fun current entry grown => grown.trans (asyloEnclaveCall_log runtime entry.1 current entry.2.1 entry.2.2).1
  exact Machine.run_invariant (enclaveStep runtime) preserved entries (Grows.refl state)

/-- Once the enclave is marked aborted, no later call runs a handler. -/
theorem aborted_enclave_runs_no_handler (runtime : Runtime) (state : EnclaveState)
    (aborted : isAborted state = true) (entries : List (Host × Nat × Address)) :
    ∀ log ∈ (Machine.run (enclaveStep runtime) state entries).2, ∀ selector input,
      Event.invoke selector input ∉ log := by
  have preserved : ∀ current entry, isAborted current = true →
      isAborted (enclaveStep runtime current entry).1 = true := fun current entry held =>
    (asyloEnclaveCall_log runtime entry.1 current entry.2.1 entry.2.2).1.aborted held
  have quiet : ∀ current entry, isAborted current = true →
      ∀ selector input, Event.invoke selector input ∉ (enclaveStep runtime current entry).2 := by
    intro current entry held selector input ran
    obtain ⟨_, ⟨_, initialized, initOk, _, notAborted⟩, _⟩ :=
      asyloEnclaveCall_handler_input runtime entry.1 current entry.2.1 entry.2.2 ran
    have stillAborted := (grows_ensureInitialized initOk).aborted held
    rw [notAborted] at stillAborted
    cases stillAborted
  exact Machine.run_outputs (enclaveStep runtime) preserved quiet entries aborted

/-- A runtime with no user handlers, for which all memory is outside the enclave. -/
def bareRuntime : Runtime := ⟨fun _ _ => true, [], reservedEntry, reservedEntry, fun _ => 0⟩

/-- A host whose memory is zeros, and whose allocations are all at 4096. -/
def zeroHost : Host := ⟨fun _ _ => 0, fun _ _ => 4096⟩

theorem aborted_enclave_runs_no_handler_of_user_call :
    isAborted (markEnclaveAborted .initial) = true ∧
      ∀ log ∈ (Machine.run (enclaveStep bareRuntime) (markEnclaveAborted .initial) [(zeroHost, kSelectorUser, 0)]).2,
        ∀ selector input, Event.invoke selector input ∉ log :=
  ⟨by decide, aborted_enclave_runs_no_handler bareRuntime _ (by decide) _⟩

/-! ## Calling out of the enclave -/

/-- A log that reads only what it checked, with `SgxParams` at `params` among
the ranges it checked. -/
def ParamsChecked (params : Address) (log : List Event) : Prop :=
  readsChecked log = true ∧ (params, sizeofSgxParams) ∈ CheckedLog.checksAfter eventCheck [] log

/-- Events that read only `SgxParams` or ranges they check first extend such a
log. -/
theorem ParamsChecked.extend {params : Address} {log : List Event} (checked : ParamsChecked params log)
    {extra : List Event}
    (covered : CheckedLog.allCoveredFrom eventCheck eventRead [(params, sizeofSgxParams)] extra = true) :
    ParamsChecked params (log ++ extra) := by
  obtain ⟨reads, inChecks⟩ := checked
  have grown : [(params, sizeofSgxParams)] ⊆ CheckedLog.checksAfter eventCheck [] log :=
    List.cons_subset.mpr ⟨inChecks, List.nil_subset _⟩
  refine ⟨?_, ?_⟩
  · unfold readsChecked at *
    rw [CheckedLog.allCoveredFrom_append, reads, Bool.true_and]
    exact CheckedLog.allCoveredFrom_mono _ _ extra grown covered
  · rw [CheckedLog.checksAfter_append]
    exact CheckedLog.subset_checksAfter _ _ extra inChecks

/-- The reads of `Deserialize` inside a checked range are covered, and leave the
checked ranges as they were. -/
theorem allCoveredFrom_reads {checked : List (Nat × Nat)} {pointer size : Nat}
    (inChecked : (pointer, size) ∈ checked) :
    ∀ (reads : List (Nat × Nat)), (∀ read ∈ reads, read.1 + read.2 ≤ size) → ∀ rest : List Event,
      CheckedLog.allCoveredFrom eventCheck eventRead checked
          ((reads.map fun read => Event.read (pointer + read.1) read.2) ++ rest) =
        CheckedLog.allCoveredFrom eventCheck eventRead checked rest := by
  intro reads
  induction reads with
  | nil => intro _ rest; rfl
  | cons read more ih =>
    intro within rest
    have inside := within read List.mem_cons_self
    have covered : CheckedLog.covers checked (pointer + read.1, read.2) = true :=
      List.any_eq_true.mpr ⟨(pointer, size), inChecked, by simp only [Bool.and_eq_true, decide_eq_true_eq]; omega⟩
    simp only [List.map_cons, List.cons_append, CheckedLog.allCoveredFrom_cons, eventRead, eventCheck,
      Option.all_some, covered, Option.toList_none, List.nil_append, Bool.true_and]
    exact ih (fun r member => within r (List.mem_cons_of_mem _ member)) rest

/-- The input half of `UntrustedCall` loads only fields of `SgxParams` and
writes only where it checked. -/
theorem passInput_checked {runtime : Runtime} {host : Host} {params : Address} {log : List Event}
    {writer : MessageWriter} (checked : ParamsChecked params log) :
    ParamsChecked params (passInput runtime host params log writer).2 := by
  unfold passInput
  dsimp only
  split_ifs <;>
  · simp only [List.append_assoc, List.cons_append, List.nil_append]
    exact checked.extend (by simp [eventCheck, eventRead, CheckedLog.covers, sizeofSgxParams,
      offsetOfInput, offsetOfInputSize])

theorem freeInput_checked {host : Host} {params : Address} {log : List Event}
    (checked : ParamsChecked params log) : ParamsChecked params (freeInput host params log) := by
  unfold freeInput
  dsimp only
  have fetched : ParamsChecked params (log ++ [.fetch (params + offsetOfInput)]) :=
    checked.extend (by simp [eventCheck, eventRead, CheckedLog.covers, sizeofSgxParams, offsetOfInput])
  split_ifs with null
  · exact fetched
  · exact fetched.extend (by simp [eventCheck, eventRead, CheckedLog.covers, sizeofSgxParams, offsetOfInput])

/-- The output half of `UntrustedCall`, unless `Deserialize` aborts, reads only
`SgxParams` and the output range it checked. -/
theorem receiveOutput_checked {runtime : Runtime} {host : Host} {state : EnclaveState} {params : Address}
    {log : List Event} (checked : ParamsChecked params log)
    (returned : (receiveOutput runtime host state params log).1.outcome ≠ .abort) :
    ParamsChecked params (receiveOutput runtime host state params log).1.log := by
  unfold receiveOutput at returned ⊢
  dsimp only at returned ⊢
  set pointer := load host.memory log (params + offsetOfOutput)
  set size := load host.memory (log ++ [.fetch (params + offsetOfOutput)]) (params + offsetOfOutputSize)
  split_ifs at returned ⊢ with outside seen
  · simp only [List.append_assoc, List.cons_append, List.nil_append]
    exact checked.extend (by simp [eventCheck, eventRead, CheckedLog.covers, sizeofSgxParams,
      offsetOfOutput, offsetOfOutputSize])
  · simp only [List.append_assoc, List.cons_append, List.nil_append]
    exact checked.extend (by simp [eventCheck, eventRead, CheckedLog.covers, sizeofSgxParams,
      offsetOfOutput, offsetOfOutputSize])
  · split at returned
    · exact absurd rfl returned
    rename_i extents parsing
    simp only [List.append_assoc, List.cons_append, List.nil_append] at parsing ⊢
    -- the reads of Deserialize lie in the range checked just before
    have within := Message.deserialize_reads_within _ _ (by rw [parsing]; rfl)
    apply checked.extend
    simp only [CheckedLog.allCoveredFrom_cons, eventRead, eventCheck, Option.all_some, Option.all_none,
      Option.toList_some, Option.toList_none, List.nil_append, List.cons_append, Bool.true_and]
    rw [allCoveredFrom_reads (by simp) _ within]
    simp [eventCheck, eventRead, CheckedLog.covers, sizeofSgxParams, offsetOfOutput, offsetOfOutputSize]

/-- Unless `Deserialize` aborts, `UntrustedCall` reads only ranges it checked:
`SgxParams`, and the output range the host named. -/
theorem untrustedCall_reads_checked (runtime : Runtime) (host : Host) (state : EnclaveState)
    (input : Option MessageWriter) (returned : (untrustedCall runtime host state input).1.outcome ≠ .abort) :
    readsChecked (untrustedCall runtime host state input).1.log = true := by
  unfold untrustedCall at returned ⊢
  dsimp only at returned ⊢
  set params := host.alloc 0 sizeofSgxParams
  have start : ParamsChecked params [.check params sizeofSgxParams] :=
    ⟨by simp [readsChecked, eventRead, eventCheck], by simp [eventCheck]⟩
  split_ifs at returned ⊢ with outside
  · exact start.1
  set clearedLog := [Event.check params sizeofSgxParams] ++
    [.write (params + offsetOfInputSize) (LittleEndian.encode 8 0),
      .write (params + offsetOfInput) (LittleEndian.encode 8 0)]
  have cleared : ParamsChecked params clearedLog := start.extend (by simp [eventRead, eventCheck])
  cases input with
  | none =>
    dsimp only at returned ⊢
    exact (receiveOutput_checked (freeInput_checked (cleared.extend (by simp [eventRead, eventCheck])))
      returned).1
  | some writer =>
    dsimp only at returned ⊢
    have sent := @passInput_checked runtime host params _ writer cleared
    generalize passing : passInput runtime host params clearedLog writer = passed at returned sent ⊢
    obtain ⟨result, afterInput⟩ := passed
    cases result with
    | error message => exact sent.1
    | ok _ =>
      exact (receiveOutput_checked (freeInput_checked (sent.extend (by simp [eventRead, eventCheck])))
        returned).1

/-- When the output half of `UntrustedCall` returns, it has loaded
`sgx_params->output` at least twice: once for the check, and again after it. -/
theorem receiveOutput_reloads {runtime : Runtime} {host : Host} {state : EnclaveState} {params : Address}
    {log : List Event} {code : Int} (returned : (receiveOutput runtime host state params log).1.outcome = .returned code) :
    2 ≤ (receiveOutput runtime host state params log).1.log.count (.fetch (params + offsetOfOutput)) := by
  unfold receiveOutput at returned ⊢
  dsimp only at returned ⊢
  -- the branch that stops at the failed check does not return
  split_ifs at returned ⊢ with outside seen
  · simp [List.count_append, offsetOfOutput, offsetOfOutputSize]
  · split at returned
    · cases returned
    · simp [List.count_append, offsetOfOutput, offsetOfOutputSize]
      omega

/-- Whenever `UntrustedCall` returns, it has loaded `sgx_params->output` from
untrusted memory more than once. -/
theorem untrustedCall_reloads_output (runtime : Runtime) (host : Host) (state : EnclaveState)
    (input : Option MessageWriter) {code : Int}
    (returned : (untrustedCall runtime host state input).1.outcome = .returned code) :
    2 ≤ (untrustedCall runtime host state input).1.log.count
      (.fetch (host.alloc 0 sizeofSgxParams + offsetOfOutput)) := by
  unfold untrustedCall at returned ⊢
  dsimp only at returned ⊢
  set params := host.alloc 0 sizeofSgxParams
  -- the branch that stops at the check of SgxParams does not return
  split_ifs at returned ⊢ with outside
  set clearedLog := [Event.check params sizeofSgxParams] ++
    [.write (params + offsetOfInputSize) (LittleEndian.encode 8 0),
      .write (params + offsetOfInput) (LittleEndian.encode 8 0)]
  cases input with
  | none => exact receiveOutput_reloads returned
  | some writer =>
    dsimp only at returned ⊢
    generalize passInput runtime host params clearedLog writer = passed at returned ⊢
    obtain ⟨result, afterInput⟩ := passed
    cases result with
    | error message => cases returned
    | ok _ => exact receiveOutput_reloads returned

/-! ## A host that races with `UntrustedCall` -/

/-- `sgx_is_outside_enclave` of the SGX SDK for an enclave at
`[base, base + size)`: the range, one byte when its length is 0, does not wrap
around and lies below or above the enclave. -/
def sdkIsOutsideEnclave (base size : Nat) (address length : Nat) : Bool :=
  let last := if 0 < length then address + length - 1 else address
  decide (last < 2 ^ 64) && (decide (last < base) || decide (base + size ≤ address))

/-- An enclave of 16 MiB at `0x10000000` that registers no handler of its own. -/
def sampleRuntime : Runtime where
  isOutsideEnclave := sdkIsOutsideEnclave 0x10000000 0x1000000
  userHandlers := []
  donateThread := reservedEntry
  finalizeEnclave := reservedEntry
  heapBeyond _ := 0

/-- Untrusted memory in which the fields of `SgxParams` at `params` hold
`field t offset` at the enclave's `t`-th event, and every other byte is zero. -/
def paramsMemory (params : Address) (field : Nat → Nat → Nat) : HostMemory := fun t address =>
  if params ≤ address ∧ address < params + sizeofSgxParams then
    (LittleEndian.encode 8 (field t ((address - params) / 8 * 8))).getD ((address - params) % 8) 0
  else 0

/-- A host that answers with no output, and writes `0x5000` into
`sgx_params->output` once the enclave has checked the null pointer it found
there. -/
def outputRaceHost : Host where
  memory := paramsMemory 0x1000 fun t offset => if offset = offsetOfOutput ∧ 8 < t then 0x5000 else 0
  alloc _ _ := 0x1000

/-- A host that, while the enclave fills the input buffer, makes the input
pointer and size it loads for the check name the last byte below the enclave. -/
def inputRaceHost : Host where
  memory := paramsMemory 0x1000 fun t offset =>
    if offset = offsetOfInputSize then (if t = 8 then 1 else 16)
    else if offset = offsetOfInput then (if t = 7 then 0x0FFFFFFF else 0x2000)
    else 0
  alloc n _ := if n = 0 then 0x1000 else 0x2000

/-- A message of one extent of eight bytes. -/
def sampleInput : MessageWriter := ⟨[[1, 2, 3, 4, 5, 6, 7, 8]]⟩

theorem untrusted_call_reloads_sgx_params :
    (untrustedCall sampleRuntime outputRaceHost EnclaveState.initial none).1.outcome =
        .returned AbslStatusCode.kOk ∧
      (untrustedCall sampleRuntime outputRaceHost EnclaveState.initial none).1.log =
        [.check 0x1000 sizeofSgxParams,
          .write (0x1000 + offsetOfInputSize) (LittleEndian.encode 8 0),
          .write (0x1000 + offsetOfInput) (LittleEndian.encode 8 0),
          .write (0x1000 + offsetOfOutputSize) (LittleEndian.encode 8 0),
          .write (0x1000 + offsetOfOutput) (LittleEndian.encode 8 0),
          .fetch (0x1000 + offsetOfInput),
          .fetch (0x1000 + offsetOfOutput), .fetch (0x1000 + offsetOfOutputSize), .check 0 0,
          .fetch (0x1000 + offsetOfOutput),
          .fetch (0x1000 + offsetOfOutput), .localFree 0x5000,
          .cacheFree 0x1000] ∧
      (untrustedCall sampleRuntime inputRaceHost EnclaveState.initial (some sampleInput)).1.outcome =
        .returned AbslStatusCode.kOk ∧
      (untrustedCall sampleRuntime inputRaceHost EnclaveState.initial (some sampleInput)).1.log =
        [.check 0x1000 sizeofSgxParams,
          .write (0x1000 + offsetOfInputSize) (LittleEndian.encode 8 0),
          .write (0x1000 + offsetOfInput) (LittleEndian.encode 8 0),
          .write (0x1000 + offsetOfInputSize) (LittleEndian.encode 8 16),
          .fetch (0x1000 + offsetOfInputSize), .fetch (0x1000 + offsetOfInputSize),
          .write (0x1000 + offsetOfInput) (LittleEndian.encode 8 0x2000),
          .fetch (0x1000 + offsetOfInput), .fetch (0x1000 + offsetOfInputSize), .check 0x0FFFFFFF 1,
          .write 0x0FFFFFFF (LittleEndian.encode 8 8 ++ [1, 2, 3, 4, 5, 6, 7, 8]),
          .write (0x1000 + offsetOfOutputSize) (LittleEndian.encode 8 0),
          .write (0x1000 + offsetOfOutput) (LittleEndian.encode 8 0),
          .fetch (0x1000 + offsetOfInput), .fetch (0x1000 + offsetOfInput), .cacheFree 0x2000,
          .fetch (0x1000 + offsetOfOutput), .fetch (0x1000 + offsetOfOutputSize), .check 0 0,
          .fetch (0x1000 + offsetOfOutput),
          .cacheFree 0x1000] := by
  decide +kernel

end Asylo.SgxBoundaryProofs
