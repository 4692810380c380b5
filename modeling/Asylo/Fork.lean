import Asylo.Util
import Asylo.IdealAead
import Asylo.CertificateUtil
import Asylo.Machine

/-! Secure fork (`platform/primitives/sgx/fork_sgx_hw.cc`, with the ecalls
`TakeSnapshot`, `Restore` and `TransferSecureSnapshotKey` of
`platform/primitives/sgx/fork.cc`) over any number of enclave instances that
the host drives. Each call the host makes is one step of the whole system.

Inside an ordinary entry, user code may call `enc_fork`, which sets
`fork_requested`. `TakeSnapshot` then generates a fresh snapshot key, seals the
memory under it with AES-GCM-SIV and sets `snapshot_key_transfer_requested`;
`TransferSecureSnapshotKey` runs an EKEP handshake, compares the peer's
identity with the instance's own under `STRICT_LOCAL`, and the parent seals the
snapshot key under the record-protocol key with AES-GCM while the child opens
it and saves it; `Restore` opens a snapshot with the saved key and overwrites
the memory with it.

EKEP is an authenticated key exchange: a handshake completes only between a
parent and a child instance, with a record-protocol key both share, and tells
each the other's identity. Both ciphers are ideal AEADs (`IdealAead`): what
opens under a key was sealed under it. What the host decides is an input of the
step: the coins of the seals and of the key, whether the other threads leave
the enclave in time, whether untrusted memory is allocated, what the socket
delivers, how a handshake that does not complete fails, and whether other
entries are active during `Restore`.

An entry on a thread other than the one that blocked entries waits while they
are blocked, but the host can always enter on the blocking thread itself, so
blocking does not restrict which calls the host can make. Besides the
instances, the system records every sealing of both ciphers and a log of what
the instances did: the properties of secure fork are stated over it. -/
namespace Asylo.Fork
open CertificateUtil (asciiBytes)

/-- `kSnapshotKeySize`. -/
def kSnapshotKeySize : Nat := 32

/-- `kSnapshotKeyAssociatedDataBuf`, with the terminating NUL that `sizeof`
counts. -/
def kSnapshotKeyAssociatedDataBuf : List UInt8 := asciiBytes "AES256-GCM-SIV snapshot key" ++ [0]

/-- What AES-GCM-SIV or AES-GCM has sealed so far, under keys that are byte
strings. -/
abbrev Aead := IdealAead.State (List UInt8)

/-- The number the host gives an enclave instance. -/
abbrev InstanceId := Nat

/-- The state of one enclave instance that secure fork reads and writes: its
SGX identity, the `enable_fork` of its `EnclaveConfig` (`none` while no config
is set) and the address of its memory, which do not change; the two flags and
the snapshot key of `fork_sgx_hw.cc`; whether the runtime rejects entries
(`enc_reject_entries`); and the memory a snapshot covers (data, bss, heap, and
the thread and stack of the thread that forked), as bytes. -/
structure Instance (Identity : Type) where
  identity : Identity
  enableFork : Option Bool
  memoryAddress : List UInt8
  forkRequested : Bool
  snapshotKeyTransferRequested : Bool
  globalSnapshotKey : Option (List UInt8)
  entriesRejected : Bool
  memory : List UInt8
  deriving DecidableEq, Repr

namespace Instance

variable {Identity : Type} (inst : Instance Identity)

/-- An instance as the loader leaves it: no flag set and no snapshot key. -/
def load (identity : Identity) (enableFork : Option Bool) (memoryAddress memory : List UInt8) :
    Instance Identity :=
  ⟨identity, enableFork, memoryAddress, false, false, none, false, memory⟩

/-- `ClearForkRequested()`: the flag before it is cleared. -/
def clearForkRequested : Bool × Instance Identity :=
  (inst.forkRequested, { inst with forkRequested := false })

/-- `ClearSnapshotKeyTransferRequested()`: the flag before it is cleared. -/
def clearSnapshotKeyTransferRequested : Bool × Instance Identity :=
  (inst.snapshotKeyTransferRequested, { inst with snapshotKeyTransferRequested := false })

/-- `DeleteSnapshotKey()`. -/
def deleteSnapshotKey : Instance Identity :=
  { inst with globalSnapshotKey := none }

/-- `SetSnapshotKey(key)`: a key of the wrong size is refused, any other
replaces the one saved. -/
def setSnapshotKey (key : List UInt8) : Bool × Instance Identity :=
  if key.length ≠ kSnapshotKeySize then (false, inst)
  else (true, { inst with globalSnapshotKey := some key })

theorem clearForkRequested_of_false (unset : inst.forkRequested = false) : inst.clearForkRequested = (false, inst) := by
  cases inst
  simp only at unset
  simp [clearForkRequested, unset]

theorem clearSnapshotKeyTransferRequested_of_false (unset : inst.snapshotKeyTransferRequested = false) :
    inst.clearSnapshotKeyTransferRequested = (false, inst) := by
  cases inst
  simp only at unset
  simp [clearSnapshotKeyTransferRequested, unset]

theorem deleteSnapshotKey_of_none (absent : inst.globalSnapshotKey = none) : inst.deleteSnapshotKey = inst := by
  cases inst
  simp only at absent
  simp [deleteSnapshotKey, absent]

theorem setSnapshotKey_of_length {key : List UInt8} (sized : key.length = kSnapshotKeySize) :
    inst.setSnapshotKey key = (true, { inst with globalSnapshotKey := some key }) := by
  simp [setSnapshotKey, sized]

theorem setSnapshotKey_eq_true {key : List UInt8} {inst' : Instance Identity}
    (saved : inst.setSnapshotKey key = (true, inst')) : inst' = { inst with globalSnapshotKey := some key } := by
  unfold setSnapshotKey at saved
  split_ifs at saved
  · cases saved
  · exact (Prod.mk.inj saved).2.symm

end Instance

/-- What an instance did, as the system's log records it. -/
inductive ForkEvent
  /-- An ordinary entry ran user code, which called `enc_fork` or not. -/
  | userCode (i : InstanceId) (calledFork : Bool)
  /-- `TakeSnapshotForFork` saved the snapshot key it generated. -/
  | snapshotKeyGenerated (i : InstanceId) (snapshotKey : List UInt8)
  /-- `TakeSnapshotForFork` sealed the memory under the snapshot key. -/
  | snapshotTaken (i : InstanceId) (snapshotKey memory : List UInt8)
  /-- An EKEP handshake completed between a parent and a child. -/
  | handshakeCompleted (parent child : InstanceId) (recordProtocolKey : List UInt8)
  /-- `EncryptAndSendSnapshotKey` sealed a snapshot key under a record-protocol key. -/
  | snapshotKeySent (parent : InstanceId) (recordProtocolKey snapshotKey : List UInt8)
  /-- `ReceiveSnapshotKey` saved the snapshot key it opened. -/
  | snapshotKeyReceived (child : InstanceId) (recordProtocolKey snapshotKey : List UInt8)
  /-- `RestoreForFork` overwrote the memory with what it opened. -/
  | restored (i : InstanceId) (memory : List UInt8)
  deriving DecidableEq, Repr

/-- `ForkHandshakeConfig`, whose fields may be unset. -/
structure ForkHandshakeConfig where
  isParent : Option Bool
  socket : Option Int
  deriving DecidableEq, Repr

/-- `EncryptedSnapshotKey`. -/
structure EncryptedSnapshotKey where
  ciphertext : List UInt8
  nonce : List UInt8
  deriving DecidableEq, Repr

/-- A `SnapshotLayout`, whose entries for the data, bss, heap, thread and stack
are here one sealing of the memory. -/
structure SnapshotLayout where
  ciphertext : List UInt8
  nonce : List UInt8
  deriving DecidableEq, Repr

/-- The enclave instances, every sealing so far of AES-GCM-SIV (the snapshots)
and of AES-GCM (the snapshot keys sent), and the log, oldest first. -/
structure System (Identity : Type) where
  instances : InstanceId → Instance Identity
  gcmSiv : Aead
  gcm : Aead
  log : List ForkEvent

namespace System

variable {Identity : Type} (sys : System Identity)

/-- Instances as the loader leaves them, before anything was sealed. -/
def init (identity : InstanceId → Identity) (enableFork : InstanceId → Option Bool)
    (memoryAddress memory : InstanceId → List UInt8) : System Identity :=
  ⟨fun i => .load (identity i) (enableFork i) (memoryAddress i) (memory i), ⟨[]⟩, ⟨[]⟩, []⟩

/-- The system with instance `i` replaced. -/
def setInstance (i : InstanceId) (inst : Instance Identity) : System Identity :=
  { sys with instances := Function.update sys.instances i inst }

/-- The system with `events` appended to its log. -/
def record (events : List ForkEvent) : System Identity :=
  { sys with log := sys.log ++ events }

variable (i : InstanceId) (inst : Instance Identity) (events : List ForkEvent)

@[simp] theorem setInstance_instances : (sys.setInstance i inst).instances = Function.update sys.instances i inst := rfl
@[simp] theorem setInstance_gcmSiv : (sys.setInstance i inst).gcmSiv = sys.gcmSiv := rfl
@[simp] theorem setInstance_gcm : (sys.setInstance i inst).gcm = sys.gcm := rfl
@[simp] theorem setInstance_log : (sys.setInstance i inst).log = sys.log := rfl
@[simp] theorem record_instances : (sys.record events).instances = sys.instances := rfl
@[simp] theorem record_gcmSiv : (sys.record events).gcmSiv = sys.gcmSiv := rfl
@[simp] theorem record_gcm : (sys.record events).gcm = sys.gcm := rfl
@[simp] theorem record_log : (sys.record events).log = sys.log ++ events := rfl

theorem setInstance_self : sys.setInstance i (sys.instances i) = sys := by
  simp [setInstance]

theorem setInstance_record : (sys.setInstance i inst).record events = (sys.record events).setInstance i inst := rfl

end System

/-- What an ecall gives the host: the trusted runtime refuses it
(`SGX_ERROR_ECALL_NOT_ALLOWED`) once entries are rejected, or it returns a
status. -/
inductive EcallResult
  | notAllowed
  | returned (status : StatusOr Unit)

section Ecalls

variable {Identity : Type}

/-- The check of `GetEnclaveConfig()` and `enable_fork` that `TakeSnapshot`
and `Restore` make first. -/
def checkForkEnabled : Option Bool → StatusOr Unit
  | none => .error ⟨.failedPrecondition, "EnclaveConfig is not set"⟩
  | some false => .error ⟨.failedPrecondition, "Insecure fork not enabled"⟩
  | some true => .ok ()

/-- An ordinary entry into instance `i` whose user code leaves the memory
`memory`, calls `enc_fork` if `callsFork` (which sets `fork_requested`), and
returns `result`. -/
def enter (sys : System Identity) (i : InstanceId) (memory : List UInt8) (callsFork : Bool)
    (result : StatusOr Unit) : StatusOr Unit × System Identity :=
  let inst := sys.instances i
  (result, (sys.setInstance i { inst with memory, forkRequested := inst.forkRequested || callsFork }).record
    [.userCode i callsFork])

/-- `TakeSnapshotForFork(&snapshot_layout)` in instance `i`, with the key that
`RAND_bytes` generates and the coins of the seal. The flag is cleared and the
key saved before anything can fail. -/
def takeSnapshotForFork (sys : System Identity) (i : InstanceId) (snapshotKey : UnsafeBytes kSnapshotKeySize)
    (othersExited untrustedAllocated : Bool) (nonce ciphertext : List UInt8) : StatusOr Unit × System Identity :=
  match (sys.instances i).clearForkRequested with
  | (false, inst) =>
    (.error ⟨.permissionDenied, "Snapshot is not allowed unless fork is requested"⟩, sys.setInstance i inst)
  | (true, inst) =>
    match inst.setSnapshotKey snapshotKey.1 with
    | (false, inst) => (.error ⟨.internal, "Failed to save snapshot key inside enclave"⟩, sys.setInstance i inst)
    | (true, inst) =>
      let sys := (sys.setInstance i inst).record [.snapshotKeyGenerated i snapshotKey.1]
      -- `BlockAndWaitOnEntries(2, 3)`
      if !othersExited then (.error ⟨.internal, "Timeout while waiting for other TCS to exit the enclave"⟩, sys)
      -- `UntrustedLocalAlloc` in `EncryptToUntrustedMemory`
      else if !untrustedAllocated then
        (.error ⟨.internal, "Failed to allocate untrusted memory for snapshot"⟩, sys)
      else
        let sys := { sys with gcmSiv := sys.gcmSiv.encrypt snapshotKey.1 nonce inst.memoryAddress ciphertext inst.memory }
        (.ok (), (sys.setInstance i { inst with snapshotKeyTransferRequested := true }).record
          [.snapshotTaken i snapshotKey.1 inst.memory])

/-- The `TakeSnapshot` ecall. -/
def takeSnapshot (sys : System Identity) (i : InstanceId) (snapshotKey : UnsafeBytes kSnapshotKeySize)
    (othersExited untrustedAllocated : Bool) (nonce ciphertext : List UInt8) : StatusOr Unit × System Identity :=
  match checkForkEnabled (sys.instances i).enableFork with
  | .error status => (.error status, sys)
  | .ok () => takeSnapshotForFork sys i snapshotKey othersExited untrustedAllocated nonce ciphertext

/-- `RestoreForFork(input, input_len)` in instance `i`: the memory it opens
from the snapshot with the saved key, the associated data being the address
the memory is restored to. -/
def restoreForFork (sys : System Identity) (i : InstanceId) (snapshotLayout : Option SnapshotLayout)
    (othersActive : Bool) : StatusOr (List UInt8) :=
  let inst := sys.instances i
  -- `active_entry_count() != 1`
  if othersActive then .error ⟨.failedPrecondition, "There are other enclave entries while restoring the enclave"⟩
  else
    match snapshotLayout with
    | none => .error ⟨.invalidArgument, "Failed to parse SnapshotLayout"⟩
    | some layout =>
      match inst.globalSnapshotKey with
      | none => .error ⟨.internal, "Failed to get the snapshot key"⟩
      | some snapshotKey =>
        match sys.gcmSiv.decrypt snapshotKey layout.nonce inst.memoryAddress layout.ciphertext with
        | none => .error ⟨.internal, "EVP_AEAD_CTX_open failed: "⟩
        | some memory => .ok memory

/-- The `Restore` ecall. `RestoreForFork` deletes the snapshot key on every
path; when it fails, the ecall finalizes the enclave and rejects every later
entry. -/
def restore (sys : System Identity) (i : InstanceId) (snapshotLayout : Option SnapshotLayout)
    (othersActive : Bool) : StatusOr Unit × System Identity :=
  match checkForkEnabled (sys.instances i).enableFork with
  | .error status => (.error status, sys)
  | .ok () =>
    let inst := (sys.instances i).deleteSnapshotKey
    match restoreForFork sys i snapshotLayout othersActive with
    | .error status => (.error status, sys.setInstance i { inst with entriesRejected := true })
    | .ok memory => (.ok (), (sys.setInstance i { inst with memory }).record [.restored i memory])

/-- The checks of `TransferSecureSnapshotKey(config)` before the handshake,
with the parse of the ecall's input: the role the instance takes. A parent
clears `snapshot_key_transfer_requested` and goes on only if it was set. -/
def transferStart (inst : Instance Identity) : Option ForkHandshakeConfig → StatusOr Bool × Instance Identity
  | none => (.error ⟨.invalidArgument, "Failed to parse HandshakeInput"⟩, inst)
  | some ⟨some isParent, some socket⟩ =>
    if socket < 0 then (.error ⟨.invalidArgument, "The socket field for handshake is invalid"⟩, inst)
    else if isParent then
      match inst.clearSnapshotKeyTransferRequested with
      | (false, inst) =>
        (.error ⟨.permissionDenied,
          "Snapshot key transfer is not allowed unless requested by fork inside an enclave"⟩, inst)
      | (true, inst) => (.ok true, inst)
    else (.ok false, inst)
  | some _ => (.error ⟨.invalidArgument, "Both the is_parent and socket field should be set for handshake"⟩, inst)

/-- The `TransferSecureSnapshotKey` ecall in instance `i` when its handshake
does not complete, failing as `handshakeFailure` says. -/
def transferSecureSnapshotKey (sys : System Identity) (i : InstanceId) (config : Option ForkHandshakeConfig)
    (handshakeFailure : Status) : StatusOr Unit × System Identity :=
  match transferStart (sys.instances i) config with
  | (.error status, inst) => (.error status, sys.setInstance i inst)
  | (.ok _, inst) => (.error handshakeFailure, sys.setInstance i inst)

variable (evaluateStrictLocal : Identity → Identity → StatusOr (Bool × String))

/-- `ComparePeerAndSelfIdentity(peer_identity)` in an instance of identity
`self`, where `evaluateStrictLocal self peer` is `EvaluateIdentityAcl` of the
peer against the `STRICT_LOCAL` expectation of `self`, with its explanation. -/
def comparePeerAndSelfIdentity (self peer : Identity) : StatusOr Unit :=
  match evaluateStrictLocal self peer with
  | .error status => .error status
  | .ok (false, explanation) =>
    .error ⟨.internal, "The identity of the peer enclave does not match expectation: " ++ explanation⟩
  | .ok (true, _) => .ok ()

/-- `EncryptAndSendSnapshotKey(cryptor, socket)` in the parent `p`, with the
cryptor of the record-protocol key and the coins of its seal. The cleanup
deletes the snapshot key on every path. -/
def encryptAndSendSnapshotKey (sys : System Identity) (p : InstanceId) (recordProtocolKey nonce ciphertext : List UInt8) :
    StatusOr Unit × System Identity :=
  let inst := sys.instances p
  let sys := sys.setInstance p inst.deleteSnapshotKey
  match inst.globalSnapshotKey with
  | none => (.error ⟨.internal, "Failed to get snapshot key"⟩, sys)
  | some snapshotKey =>
    let sys := { sys with gcm := sys.gcm.encrypt recordProtocolKey nonce kSnapshotKeyAssociatedDataBuf ciphertext snapshotKey }
    (.ok (), sys.record [.snapshotKeySent p recordProtocolKey snapshotKey])

/-- `ReceiveSnapshotKey(cryptor, socket)` in the child `c`, with the cryptor
of the record-protocol key, given what the socket delivered. -/
def receiveSnapshotKey (sys : System Identity) (c : InstanceId) (recordProtocolKey : List UInt8)
    (received : Option EncryptedSnapshotKey) : StatusOr Unit × System Identity :=
  match received with
  | none => (.error ⟨.internal, "Failed to parse EncryptedSnapshotKey"⟩, sys)
  | some message =>
    match sys.gcm.decrypt recordProtocolKey message.nonce kSnapshotKeyAssociatedDataBuf message.ciphertext with
    | none => (.error ⟨.internal, "EVP_AEAD_CTX_open failed: "⟩, sys)
    | some snapshotKey =>
      match (sys.instances c).setSnapshotKey snapshotKey with
      | (false, _) => (.error ⟨.internal, "Failed to save snapshot key inside enclave"⟩, sys)
      | (true, inst) =>
        (.ok (), (sys.setInstance c inst).record [.snapshotKeyReceived c recordProtocolKey snapshotKey])

/-- What the parent `p` does after its handshake with `c` completed. -/
def parentAfterHandshake (sys : System Identity) (p c : InstanceId) (recordProtocolKey nonce ciphertext : List UInt8) :
    StatusOr Unit × System Identity :=
  match comparePeerAndSelfIdentity evaluateStrictLocal (sys.instances p).identity (sys.instances c).identity with
  | .error status => (.error status, sys)
  | .ok () => encryptAndSendSnapshotKey sys p recordProtocolKey nonce ciphertext

/-- What the child `c` does after its handshake with `p` completed. -/
def childAfterHandshake (sys : System Identity) (p c : InstanceId) (recordProtocolKey : List UInt8)
    (received : Option EncryptedSnapshotKey) : StatusOr Unit × System Identity :=
  match comparePeerAndSelfIdentity evaluateStrictLocal (sys.instances c).identity (sys.instances p).identity with
  | .error status => (.error status, sys)
  | .ok () => receiveSnapshotKey sys c recordProtocolKey received

/-- The `TransferSecureSnapshotKey` ecalls of a parent `p` and a child `c`
whose sockets the host connects, with configs that pass the checks. The
handshake completes if the parent goes on to it; otherwise the child's fails
as `handshakeFailure` says. The parent seals before the child opens. -/
def transferBetween (sys : System Identity) (p c : InstanceId) (recordProtocolKey nonce ciphertext : List UInt8)
    (received : Option EncryptedSnapshotKey) (handshakeFailure : Status) : List EcallResult × System Identity :=
  match (sys.instances p).clearSnapshotKeyTransferRequested with
  | (false, inst) =>
    ([.returned (.error ⟨.permissionDenied,
        "Snapshot key transfer is not allowed unless requested by fork inside an enclave"⟩),
      .returned (.error handshakeFailure)], sys.setInstance p inst)
  | (true, inst) =>
    let sys := (sys.setInstance p inst).record [.handshakeCompleted p c recordProtocolKey]
    let parent := parentAfterHandshake evaluateStrictLocal sys p c recordProtocolKey nonce ciphertext
    let child := childAfterHandshake evaluateStrictLocal parent.2 p c recordProtocolKey received
    ([.returned parent.1, .returned child.1], child.2)

end Ecalls

/-- A call the host makes: an ecall into one instance, or the key-transfer
ecalls of two instances whose handshake completes. -/
inductive HostCall
  | enter (i : InstanceId) (memory : List UInt8) (callsFork : Bool) (result : StatusOr Unit)
  | takeSnapshot (i : InstanceId) (snapshotKey : UnsafeBytes kSnapshotKeySize) (othersExited untrustedAllocated : Bool)
      (nonce ciphertext : List UInt8)
  | transferSecureSnapshotKey (i : InstanceId) (config : Option ForkHandshakeConfig) (handshakeFailure : Status)
  | transferBetween (p c : InstanceId) (recordProtocolKey nonce ciphertext : List UInt8)
      (received : Option EncryptedSnapshotKey) (handshakeFailure : Status)
  | restore (i : InstanceId) (snapshotLayout : Option SnapshotLayout) (othersActive : Bool)

section Step

variable {Identity : Type} (evaluateStrictLocal : Identity → Identity → StatusOr (Bool × String))

/-- One ecall into instance `i`, which the runtime refuses once it rejects
entries. -/
def ecall (sys : System Identity) (i : InstanceId) (body : StatusOr Unit × System Identity) :
    System Identity × List EcallResult :=
  if (sys.instances i).entriesRejected then (sys, [.notAllowed]) else (body.2, [.returned body.1])

/-- One call of the host. A handshake needs both ecalls to run: if the
runtime refuses one of them, neither does anything here, and what the other
does alone is a `transferSecureSnapshotKey`. -/
def step (sys : System Identity) : HostCall → System Identity × List EcallResult
  | .enter i memory callsFork result => ecall sys i (enter sys i memory callsFork result)
  | .takeSnapshot i snapshotKey othersExited untrustedAllocated nonce ciphertext =>
    ecall sys i (takeSnapshot sys i snapshotKey othersExited untrustedAllocated nonce ciphertext)
  | .transferSecureSnapshotKey i config handshakeFailure =>
    ecall sys i (transferSecureSnapshotKey sys i config handshakeFailure)
  | .transferBetween p c recordProtocolKey nonce ciphertext received handshakeFailure =>
    if (sys.instances p).entriesRejected || (sys.instances c).entriesRejected then (sys, [.notAllowed, .notAllowed])
    else
      let results := transferBetween evaluateStrictLocal sys p c recordProtocolKey nonce ciphertext received
        handshakeFailure
      (results.2, results.1)
  | .restore i snapshotLayout othersActive => ecall sys i (restore sys i snapshotLayout othersActive)

end Step

end Asylo.Fork
