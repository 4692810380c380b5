import Asylo.Message

/-! The SGX enclave boundary of the primitives layer: `asylo_enclave_call`, by
which the host enters the enclave, and `TrustedPrimitives::UntrustedCall`, by
which the enclave calls out to the host (`platform/primitives/sgx/trusted_sgx.cc`),
with the entry table, the enclave's flags and the copies across the boundary of
`platform/primitives/util/trusted_runtime_helper.cc`.

Both directions go through an `SgxParams` record in untrusted memory: the input
pointer and size, then the output pointer and size, four 64-bit fields. The host
runs beside the enclave and may rewrite any untrusted byte at any moment, so
untrusted memory is a function of time: the enclave's `t`-th event finds
`memory t`. Every call returns its log of events at the boundary: the ranges it
asked `IsOutsideEnclave` about, the fields of `SgxParams` it loaded, the other
bytes it read and wrote, the pointers it gave back to be freed, and the entry
handler it ran with the extents that handler received.

`sgx_is_outside_enclave` comes from the SGX SDK, and the handlers and
`asylo_enclave_init` from the enclave built on this layer, so they are
parameters (`Runtime`), as is what the host answers when the enclave asks it
for untrusted memory (`Host`). -/
namespace Asylo.SgxBoundary

open Message

abbrev Address := Nat

/-- Untrusted memory through time: `memory t address` is the byte at
`address` as the enclave's `t`-th event finds it. -/
abbrev HostMemory := Nat → Address → UInt8

/-- What the enclave does at the boundary. -/
inductive Event
  /-- `IsOutsideEnclave(address, size)` was asked. -/
  | check (address size : Nat)
  /-- A 64-bit field of `SgxParams` was loaded from untrusted memory. -/
  | fetch (address : Address)
  /-- `length` bytes were copied out of untrusted memory. -/
  | read (address length : Nat)
  /-- `bytes` were written to untrusted memory at `address`. -/
  | write (address : Address) (bytes : List UInt8)
  /-- `UntrustedLocalFree(address)`: the pointer goes back to the host. -/
  | localFree (address : Address)
  /-- `untrusted_cache->Free(address)`. -/
  | cacheFree (address : Address)
  /-- The entry handler at `selector` ran on the extents `input`. -/
  | invoke (selector : Nat) (input : List Extent)
  deriving DecidableEq, Repr

/-- The `length` bytes at `address` of untrusted memory, read as the event
that follows `log`. -/
def readUntrusted (memory : HostMemory) (log : List Event) (address length : Nat) : List UInt8 :=
  (List.range length).map fun j => memory log.length (address + j)

/-- A 64-bit field of untrusted memory, loaded as the event that follows `log`. -/
def load (memory : HostMemory) (log : List Event) (address : Address) : Nat :=
  LittleEndian.decode (readUntrusted memory log address 8)

/-- A buffer of untrusted memory at `pointer` read by `MessageReader::Deserialize`,
whose `i`-th read is the event at position `start + i`. -/
def untrustedSource (memory : HostMemory) (start : Nat) (pointer : Address) : Source :=
  fun i offset length => (List.range length).map fun j => memory (start + i) (pointer + offset + j)

/-! ## `SgxParams` and statuses -/

/-- `sizeof(SgxParams)`. -/
def sizeofSgxParams : Nat := 32

/-- The offsets of `input`, `input_size`, `output` and `output_size`. -/
def offsetOfInput : Nat := 0
def offsetOfInputSize : Nat := 8
def offsetOfOutput : Nat := 16
def offsetOfOutputSize : Nat := 24

namespace AbslStatusCode

def kOk : Int := 0
def kInvalidArgument : Int := 3
def kAborted : Int := 10
def kOutOfRange : Int := 11
def kInternal : Int := 13

end AbslStatusCode

structure PrimitiveStatus where
  errorCode : Int
  message : String
  deriving DecidableEq, Repr

/-- `PrimitiveStatus::OkStatus()`. -/
def PrimitiveStatus.okStatus : PrimitiveStatus := ⟨AbslStatusCode.kOk, ""⟩

/-! ## The entry table -/

/-- An entry handler: from the extents of its input reader, its status and the
extents it pushes on its output writer. -/
structure EntryHandler where
  callback : List Extent → PrimitiveStatus × List Extent

/-- `kEntryPointMax`. -/
def kEntryPointMax : Nat := 4096

def kSelectorAsyloDonateThread : Nat := 2
def kSelectorAsyloFini : Nat := 3
def kSelectorUser : Nat := 128

namespace Flag

def kInitialized : UInt64 := 0x1
def kAborted : UInt64 := 0x2

end Flag

/-- `enclave_state`: the flags and the entry table (`none` where `IsNull`). -/
structure EnclaveState where
  flags : UInt64
  entryTable : Nat → Option EntryHandler

/-- The statically initialized `enclave_state`. -/
def EnclaveState.initial : EnclaveState := ⟨0, fun _ => none⟩

/-- `UpdateEnclaveState(flag)`. -/
def updateEnclaveState (state : EnclaveState) (flag : UInt64) : EnclaveState :=
  { state with flags := state.flags ||| flag }

def markEnclaveInitialized (state : EnclaveState) : EnclaveState :=
  updateEnclaveState state Flag.kInitialized

/-- `MarkEnclaveAborted`, the step of `BestEffortAbort` that outlives it. -/
def markEnclaveAborted (state : EnclaveState) : EnclaveState :=
  updateEnclaveState state Flag.kAborted

def isAborted (state : EnclaveState) : Bool :=
  state.flags &&& Flag.kAborted != 0

/-- `RegisterEntryHandler(trusted_selector, handler)`. -/
def registerEntryHandler (state : EnclaveState) (selector : Nat) (handler : EntryHandler) :
    EnclaveState × PrimitiveStatus :=
  if kEntryPointMax ≤ selector ∨ (state.entryTable selector).isSome then
    (state, ⟨AbslStatusCode.kOutOfRange, "Invalid selector in RegisterEntryHandler."⟩)
  else
    ({ state with entryTable := Function.update state.entryTable selector (some handler) },
      PrimitiveStatus.okStatus)

/-- `ReservedEntry`. -/
def reservedEntry : EntryHandler :=
  ⟨fun _ => (⟨AbslStatusCode.kInternal, "Invalid call to reserved selector."⟩, [])⟩

/-- Registrations one after the other, where a failed one ends in
`BestEffortAbort(message)`. -/
def registerAll (message : String) : EnclaveState → List (Nat × EntryHandler) → Except String EnclaveState
  | state, [] => .ok state
  | state, (selector, handler) :: rest =>
    let (registered, status) := registerEntryHandler state selector handler
    if status.errorCode = AbslStatusCode.kOk then registerAll message registered rest else .error message

/-- What the boundary calls and the enclave built on it defines: the SDK's
`sgx_is_outside_enclave`, the handlers that `asylo_enclave_init` registers (as
in `trusted_application.cc`, a failed registration aborts and the routine
returns OK), the two handlers of `RegisterInternalHandlers`, and the trusted
bytes that lie past the end of a heap buffer. -/
structure Runtime where
  isOutsideEnclave : Address → Nat → Bool
  userHandlers : List (Nat × EntryHandler)
  donateThread : EntryHandler
  finalizeEnclave : EntryHandler
  heapBeyond : Nat → UInt8

/-- `EnsureInitialized`: the state after initialization, or the message of the
`BestEffortAbort` that stopped it. -/
def ensureInitialized (runtime : Runtime) (state : EnclaveState) : Except String EnclaveState :=
  if state.flags &&& Flag.kInitialized != 0 then .ok state
  else do
    -- placeholders for the selectors reserved between kSelectorAsyloFini and kSelectorUser
    let state ← registerAll "Could not register entry handler" state
      ((List.range' (kSelectorAsyloFini + 1) (kSelectorUser - (kSelectorAsyloFini + 1))).map
        fun selector => (selector, reservedEntry))
    let state ← registerAll "Could not register entry handler" state runtime.userHandlers
    let state ← registerAll "Could not register entry handler: DonateThread." state
      [(kSelectorAsyloDonateThread, runtime.donateThread)]
    let state ← registerAll "Could not register entry handler: FinalizeEnclave" state
      [(kSelectorAsyloFini, runtime.finalizeEnclave)]
    pure (markEnclaveInitialized state)

/-- `InvokeEntryHandler(selector, in, out)`: the state, the status, the extents
pushed on `out` and the handler's run as an event, if one ran; or the message
of a `BestEffortAbort` during initialization. -/
def invokeEntryHandler (runtime : Runtime) (state : EnclaveState) (selector : Nat) (input : List Extent) :
    Except String (EnclaveState × PrimitiveStatus × List Extent × List Event) := do
  let state ← ensureInitialized runtime state
  if isAborted state then
    return (state, ⟨AbslStatusCode.kAborted, "Invalid call to aborted enclave."⟩, [], [])
  match (if kEntryPointMax ≤ selector then none else state.entryTable selector) with
  | none =>
    return (state, ⟨AbslStatusCode.kOutOfRange, "Invalid selector passed in call to asylo_enclave_call."⟩,
      [], [])
  | some handler =>
    let (status, output) := handler.callback input
    let status := if status.errorCode = AbslStatusCode.kOk then PrimitiveStatus.okStatus else status
    return (state, status, output, [.invoke selector input])

/-! ## The copies across the boundary -/

/-- `CopyFromUntrusted(untrusted_data, size)` after `log`: the trusted copy,
`none` when there is nothing to copy, or the message of `BestEffortAbort`; and
the log. -/
def copyFromUntrusted (runtime : Runtime) (memory : HostMemory) (log : List Event)
    (untrustedData size : Nat) : Except String (Option (List UInt8)) × List Event :=
  if untrustedData ≠ 0 ∧ 0 < size then
    let log := log ++ [.check untrustedData size]
    if runtime.isOutsideEnclave untrustedData size then
      (.ok (some (readUntrusted memory log untrustedData size)), log ++ [.read untrustedData size])
    else (.error "Input should lie within untrusted memory.", log)
  else (.ok none, log)

/-- `CopyToUntrusted` of a fresh trusted buffer holding `data`, of which
`IsInsideEnclave` holds, when `UntrustedLocalAlloc` got `pointer` from the
host: the untrusted pointer or the message of `BestEffortAbort`, and the log. -/
def copyToUntrusted (runtime : Runtime) (log : List Event) (pointer : Address) (data : List UInt8) :
    Except String Address × List Event :=
  if 0 < data.length then
    if pointer ≠ 0 then
      let log := log ++ [.check pointer data.length]
      if runtime.isOutsideEnclave pointer data.length then (.ok pointer, log ++ [.write pointer data])
      else (.error "Allocated memory not found to be outside the enclave.", log)
    else
      -- the host's malloc failed: errno is ENOMEM and the copy goes to nullptr
      (.ok 0, log ++ [.write 0 data])
  else (.ok 0, log)

/-! ## Entering the enclave -/

/-- What a call at the boundary ends in. -/
inductive Outcome
  | returned (code : Int)
  /-- `TrustedPrimitives::BestEffortAbort(message)`. -/
  | bestEffortAbort (message : String)
  /-- `abort()` in `MessageReader::Deserialize`. -/
  | abort
  deriving DecidableEq, Repr

/-- A call at the boundary: the enclave state after it, how it ended and its
log. -/
structure Call where
  state : EnclaveState
  outcome : Outcome
  log : List Event

/-- The host: untrusted memory through time, and its answer to the `n`-th
request of a call for untrusted memory of a given size
(`ocall_untrusted_local_alloc`, or a buffer of the pool of
`UntrustedCacheMalloc`, which the host allocated). -/
structure Host where
  memory : HostMemory
  alloc : Nat → Nat → Address

/-- The end of `asylo_enclave_call` at `buffer`, after `log`: the extents the
handler pushed are serialized into a trusted buffer, copied to untrusted
memory, and their pointer and size written into `SgxParams`. -/
def returnOutput (runtime : Runtime) (host : Host) (state : EnclaveState) (buffer : Address)
    (log : List Event) (status : PrimitiveStatus) (output : List Extent) : Call :=
  let out : MessageWriter := ⟨output⟩
  if 0 < out.messageSize then
    match copyToUntrusted runtime log (host.alloc 0 out.messageSize) out.serialize with
    | (.error message, log) => ⟨markEnclaveAborted state, .bestEffortAbort message, log⟩
    | (.ok pointer, log) =>
      ⟨state, .returned status.errorCode,
        log ++ [.write (buffer + offsetOfOutput) (LittleEndian.encode 8 pointer),
          .write (buffer + offsetOfOutputSize) (LittleEndian.encode 8 out.messageSize)]⟩
  else
    ⟨state, .returned status.errorCode,
      log ++ [.write (buffer + offsetOfOutputSize) (LittleEndian.encode 8 out.messageSize)]⟩

/-- `asylo_enclave_call` from `InvokeEntryHandler` on, after `log`: the handler
runs on the extents of the input, and what it pushed is returned. -/
def invokeAndReturn (runtime : Runtime) (host : Host) (state : EnclaveState) (selector : Nat)
    (buffer : Address) (log : List Event) (extents : List Extent) : Call :=
  match invokeEntryHandler runtime state selector extents with
  | .error message => ⟨markEnclaveAborted state, .bestEffortAbort message, log⟩
  | .ok (state, status, output, ran) => returnOutput runtime host state buffer (log ++ ran) status output

/-- `asylo_enclave_call(selector, buffer)`. -/
def asyloEnclaveCall (runtime : Runtime) (host : Host) (state : EnclaveState) (selector : Nat)
    (buffer : Address) : Call :=
  -- IsValidUntrustedAddress(sgx_params)
  let log := if buffer = 0 then [] else [Event.check buffer sizeofSgxParams]
  if buffer = 0 ∨ runtime.isOutsideEnclave buffer sizeofSgxParams = false then
    ⟨state, .returned AbslStatusCode.kInvalidArgument, log⟩
  else
  let input := load host.memory log (buffer + offsetOfInput)
  let log := log ++ [.fetch (buffer + offsetOfInput)]
  let inputSize := load host.memory log (buffer + offsetOfInputSize)
  let log := log ++ [.fetch (buffer + offsetOfInputSize)]
  match copyFromUntrusted runtime host.memory log input inputSize with
  | (.error message, log) => ⟨markEnclaveAborted state, .bestEffortAbort message, log⟩
  | (.ok trustedInput, log) =>
  -- in.Deserialize(trusted_input.get(), input_size) reads the trusted copy
  let extents := match trustedInput with
    | none => some []
    | some bytes => (deserialize (bufferSource bytes runtime.heapBeyond) inputSize).1
  match extents with
  | none => ⟨state, .abort, log⟩
  | some extents => invokeAndReturn runtime host state selector buffer log extents

/-! ## Calling out of the enclave -/

/-- The input half of `UntrustedCall` after `log`, for `SgxParams` at `params`:
the enclave writes the message size into `input_size`, and reads the fields back
to allocate, check and fill the input buffer. Unit, or the message of
`BestEffortAbort`; and the log. -/
def passInput (runtime : Runtime) (host : Host) (params : Address) (log : List Event)
    (writer : MessageWriter) : Except String Unit × List Event :=
  let log := log ++ [.write (params + offsetOfInputSize) (LittleEndian.encode 8 writer.messageSize)]
  -- if (sgx_params->input_size > 0)
  let sizeSeen := load host.memory log (params + offsetOfInputSize)
  let log := log ++ [.fetch (params + offsetOfInputSize)]
  if sizeSeen = 0 then (.ok (), log) else
  -- sgx_params->input = untrusted_cache->Malloc(sgx_params->input_size)
  let sizeAsked := load host.memory log (params + offsetOfInputSize)
  let buffer := host.alloc 1 sizeAsked
  let log := log ++ [.fetch (params + offsetOfInputSize),
    .write (params + offsetOfInput) (LittleEndian.encode 8 buffer)]
  let inputPointer := load host.memory log (params + offsetOfInput)
  let log := log ++ [.fetch (params + offsetOfInput)]
  let inputSize := load host.memory log (params + offsetOfInputSize)
  let log := log ++ [.fetch (params + offsetOfInputSize), .check inputPointer inputSize]
  if runtime.isOutsideEnclave inputPointer inputSize then
    -- input->Serialize(input_pointer) writes the whole message
    (.ok (), if writer.extents.isEmpty then log else log ++ [.write inputPointer writer.serialize])
  else (.error "UntrustedCall: sgx_param input should be in untrusted memory", log)

/-- After the host's dispatcher returned, `UntrustedCall` frees the input
buffer: `if (sgx_params->input) untrusted_cache->Free(sgx_params->input)`, which
loads the field twice. -/
def freeInput (host : Host) (params : Address) (log : List Event) : List Event :=
  let inputSeen := load host.memory log (params + offsetOfInput)
  let log := log ++ [.fetch (params + offsetOfInput)]
  if inputSeen = 0 then log else
    log ++ [.fetch (params + offsetOfInput), .cacheFree (load host.memory log (params + offsetOfInput))]

/-- The output half of `UntrustedCall` after `log`: the output pointer and size
are loaded and checked; the pointer is loaded again to decide whether there is
output, which `Deserialize` reads straight from untrusted memory, and a third
time to free it. -/
def receiveOutput (runtime : Runtime) (host : Host) (state : EnclaveState) (params : Address)
    (log : List Event) : Call × List Extent :=
  let outputPointer := load host.memory log (params + offsetOfOutput)
  let log := log ++ [.fetch (params + offsetOfOutput)]
  let outputSize := load host.memory log (params + offsetOfOutputSize)
  let log := log ++ [.fetch (params + offsetOfOutputSize), .check outputPointer outputSize]
  if runtime.isOutsideEnclave outputPointer outputSize = false then
    (⟨markEnclaveAborted state, .bestEffortAbort "UntrustedCall: sgx_param output should be in untrusted memory",
      log⟩, [])
  else
  -- if (sgx_params->output)
  let outputSeen := load host.memory log (params + offsetOfOutput)
  let log := log ++ [.fetch (params + offsetOfOutput)]
  if outputSeen = 0 then (⟨state, .returned AbslStatusCode.kOk, log ++ [.cacheFree params]⟩, []) else
  -- output->Deserialize(output_pointer, output_size)
  let (extents, reads) := deserialize (untrustedSource host.memory log.length outputPointer) outputSize
  let log := log ++ reads.map fun read => Event.read (outputPointer + read.1) read.2
  match extents with
  | none => (⟨state, .abort, log⟩, [])
  | some extents =>
    -- UntrustedLocalFree(sgx_params->output)
    (⟨state, .returned AbslStatusCode.kOk, log ++ [.fetch (params + offsetOfOutput),
      .localFree (load host.memory log (params + offsetOfOutput)), .cacheFree params]⟩, extents)

/-- `TrustedPrimitives::UntrustedCall(selector, input, output)`: the call, and
the extents deserialized into `output`. The host's dispatcher runs between the
writes that clear the output fields and the loads that follow them. -/
def untrustedCall (runtime : Runtime) (host : Host) (state : EnclaveState) (input : Option MessageWriter) :
    Call × List Extent :=
  let params := host.alloc 0 sizeofSgxParams
  let log := [Event.check params sizeofSgxParams]
  if runtime.isOutsideEnclave params sizeofSgxParams = false then
    (⟨markEnclaveAborted state, .bestEffortAbort "UntrustedCall: sgx_param should be in untrusted memory", log⟩,
      [])
  else
  let log := log ++ [.write (params + offsetOfInputSize) (LittleEndian.encode 8 0),
    .write (params + offsetOfInput) (LittleEndian.encode 8 0)]
  let (sent, log) : Except String Unit × List Event := match input with
    | none => (.ok (), log)
    | some writer => passInput runtime host params log writer
  match sent with
  | .error message => (⟨markEnclaveAborted state, .bestEffortAbort message, log⟩, [])
  | .ok () =>
  let log := log ++ [.write (params + offsetOfOutputSize) (LittleEndian.encode 8 0),
    .write (params + offsetOfOutput) (LittleEndian.encode 8 0)]
  receiveOutput runtime host state params (freeInput host params log)

end Asylo.SgxBoundary
