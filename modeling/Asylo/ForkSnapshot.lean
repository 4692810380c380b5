import Asylo.Fork

/-! The snapshot of one memory region of a forking enclave, chunk by chunk
(`EncryptToUntrustedMemory`, `DecryptFromUntrustedMemory`,
`EncryptToSnapshot` and `DecryptFromSnapshot` of
`platform/primitives/sgx/fork_sgx_hw.cc`).

`EncryptToSnapshot` cuts the region into pieces of at most
`MaxMessageSize()` bytes and seals each into two blocks of untrusted memory,
its nonce and its ciphertext, with the piece's enclave address as associated
data; a `SnapshotLayoutEntry` says where the blocks are. `DecryptFromSnapshot`
walks the entries the host gives back and opens each into the next piece of
the region. The cryptor is the ideal AEAD of `IdealAead` under the snapshot
key. What the host decides is an input: where `UntrustedLocalAlloc` puts a
block (or that it fails), the coins of each seal, and the untrusted memory the
restoring enclave reads. `IsInsideEnclave` and `IsOutsideEnclave` of the
trusted primitives are parameters. -/
namespace Asylo.Fork

/-- Bytes of memory, by address. -/
abbrev Memory := Nat → UInt8

/-- The `size` bytes of `memory` from `base` on. -/
def readBytes (memory : Memory) (base size : Nat) : List UInt8 :=
  (List.range size).map fun offset => memory (base + offset)

/-- `memory` with `bytes` written from `base` on. -/
def writeBytes (memory : Memory) (base : Nat) (bytes : List UInt8) : Memory :=
  fun address => if base ≤ address ∧ address < base + bytes.length then bytes.getD (address - base) 0 else memory address

/-- `ConvertTrivialObjectToBinaryString(pointer)`: the eight bytes of a
pointer, least significant first. -/
def pointerBytes (pointer : Nat) : List UInt8 := LittleEndian.encode 8 pointer

/-- What the loops read of the `AeadCryptor`: its key, `MaxMessageSize()`
(`1 << 25` for AES-GCM-SIV), which is never zero, and `NonceSize()`. -/
structure Cryptor where
  key : List UInt8
  maxMessageSize : Nat
  nonceSize : Nat
  maxMessageSize_pos : 0 < maxMessageSize

/-- `IsInsideEnclave(address, size)` and `IsOutsideEnclave(address, size)` of
the trusted primitives. -/
structure TrustedPrimitives where
  isInsideEnclave : Nat → Nat → Bool
  isOutsideEnclave : Nat → Nat → Bool

/-- A `SnapshotLayoutEntry`: where a piece's ciphertext and nonce lie in
untrusted memory. -/
structure SnapshotLayoutEntry where
  ciphertextBase : Nat
  ciphertextSize : Nat
  nonceBase : Nat
  nonceSize : Nat
  deriving DecidableEq, Repr

/-- What the host and the AEAD decide for one piece: the blocks
`UntrustedLocalAlloc` returns for the ciphertext and for the nonce (`none`
when it fails), and the nonce and ciphertext of the seal. -/
structure SealCoins where
  ciphertextBase : Option Nat
  nonceBase : Option Nat
  nonce : List UInt8
  ciphertext : List UInt8
  deriving DecidableEq, Repr

/-- The state a snapshot changes: every sealing so far, and untrusted memory. -/
structure SealState where
  aead : Aead
  untrusted : Memory

/-- `AeadCryptor::Seal`: a plaintext longer than `MaxMessageSize()` is
refused; otherwise the sealing is recorded with the coins. -/
def Cryptor.seal (cryptor : Cryptor) (aead : Aead) (plaintext associatedData : List UInt8) (coins : SealCoins) :
    StatusOr Aead :=
  if plaintext.length > cryptor.maxMessageSize then
    .error ⟨.invalidArgument, "Plaintext size " ++ toString plaintext.length ++ " exceeds maximum message size (" ++
      toString cryptor.maxMessageSize ++ " bytes)"⟩
  else .ok (aead.encrypt cryptor.key coins.nonce associatedData coins.ciphertext plaintext)

/-- `AeadCryptor::Open` (`AeadKey::Open`): the nonce must have the cryptor's
length, and `EVP_AEAD_CTX_open` fails unless a sealing opens and its plaintext
fits the output span. -/
def Cryptor.openCiphertext (cryptor : Cryptor) (aead : Aead) (ciphertext associatedData nonce : List UInt8)
    (plaintextCapacity : Nat) : StatusOr (List UInt8) :=
  if nonce.length ≠ cryptor.nonceSize then
    .error ⟨.invalidArgument, "Invalid nonce length: " ++ toString nonce.length ++ " (must be " ++
      toString cryptor.nonceSize ++ " bytes)"⟩
  else
    match aead.decrypt cryptor.key nonce associatedData ciphertext with
    | some plaintext =>
      if plaintext.length ≤ plaintextCapacity then .ok plaintext
      else .error ⟨.internal, "EVP_AEAD_CTX_open failed: "⟩
    | none => .error ⟨.internal, "EVP_AEAD_CTX_open failed: "⟩

/-- `EncryptToUntrustedMemory`: seals the `sourceSize` bytes at `sourceBase`
into the two blocks the host allocates, the nonce first. -/
def encryptToUntrustedMemory (cryptor : Cryptor) (memory : Memory) (state : SealState) (coins : SealCoins)
    (sourceBase sourceSize : Nat) : StatusOr SnapshotLayoutEntry × SealState :=
  match coins.ciphertextBase with
  | none => (.error ⟨.internal, "Failed to allocate untrusted memory for snapshot"⟩, state)
  | some destinationBase =>
    match coins.nonceBase with
    | none => (.error ⟨.internal, "Failed to allocate untrusted memory for snapshot nonce"⟩, state)
    | some nonceBase =>
      match cryptor.seal state.aead (readBytes memory sourceBase sourceSize) (pointerBytes sourceBase) coins with
      | .error status => (.error status, state)
      | .ok aead =>
        (.ok ⟨destinationBase, coins.ciphertext.length, nonceBase, cryptor.nonceSize⟩,
          ⟨aead, writeBytes (writeBytes state.untrusted nonceBase coins.nonce) destinationBase coins.ciphertext⟩)

/-- `EncryptToSnapshot`: one entry for each piece of at most
`MaxMessageSize()` bytes, `coins k` deciding the `k`-th. -/
def encryptToSnapshot (cryptor : Cryptor) (memory : Memory) (coins : Nat → SealCoins) (state : SealState)
    (currentPosition bytesLeft : Nat) : StatusOr (List SnapshotLayoutEntry) × SealState :=
  if bytesLeft = 0 then (.ok [], state)
  else
    let plaintextSize := min cryptor.maxMessageSize bytesLeft
    match encryptToUntrustedMemory cryptor memory state (coins 0) currentPosition plaintextSize with
    | (.error status, state) => (.error status, state)
    | (.ok entry, state) =>
      match encryptToSnapshot cryptor memory (fun k => coins (k + 1)) state (currentPosition + plaintextSize)
          (bytesLeft - plaintextSize) with
      | (.ok entries, state) => (.ok (entry :: entries), state)
      | (.error status, state) => (.error status, state)
termination_by bytesLeft
decreasing_by
  have := cryptor.maxMessageSize_pos
  omega

/-- `DecryptFromUntrustedMemory`: both blocks must lie outside the enclave;
the plaintext that opens, with the destination's address as associated data,
is written there, and its size returned. -/
def decryptFromUntrustedMemory (primitives : TrustedPrimitives) (cryptor : Cryptor) (aead : Aead)
    (untrusted memory : Memory) (entry : SnapshotLayoutEntry) (destinationBase destinationSize : Nat) :
    StatusOr (Nat × Memory) :=
  if !primitives.isOutsideEnclave entry.ciphertextBase entry.ciphertextSize then
    .error ⟨.internal, "snapshot is not outside the enclave"⟩
  else if !primitives.isOutsideEnclave entry.nonceBase entry.nonceSize then
    .error ⟨.internal, "snapshot nonce is not outside the enclave"⟩
  else
    let ciphertext := readBytes untrusted entry.ciphertextBase entry.ciphertextSize
    let nonce := readBytes untrusted entry.nonceBase entry.nonceSize
    match cryptor.openCiphertext aead ciphertext (pointerBytes destinationBase) nonce destinationSize with
    | .error status => .error status
    | .ok plaintext => .ok (plaintext.length, writeBytes memory destinationBase plaintext)

/-- `DecryptFromSnapshot`: the loop over the entries while bytes are left;
each must open into exactly the next piece. The memory it leaves is returned
with the status. -/
def decryptFromSnapshot (primitives : TrustedPrimitives) (cryptor : Cryptor) (aead : Aead) (untrusted : Memory) :
    Memory → Nat → Nat → List SnapshotLayoutEntry → StatusOr Memory
  | memory, _, _, [] => .ok memory
  | memory, currentPosition, bytesLeft, entry :: entries =>
    if bytesLeft = 0 then .ok memory
    else
      let expectedPlaintextSize := min cryptor.maxMessageSize bytesLeft
      -- we should not decrypt to any untrusted memory
      if currentPosition = 0 ∨ !primitives.isInsideEnclave currentPosition expectedPlaintextSize then
        .error ⟨.internal, "enclave memory is not found or unexpected"⟩
      else
        match decryptFromUntrustedMemory primitives cryptor aead untrusted memory entry currentPosition
            expectedPlaintextSize with
        | .error status => .error status
        | .ok (actualPlaintextSize, memory) =>
          if actualPlaintextSize ≠ expectedPlaintextSize then
            .error ⟨.internal, "The snapshot size does not match expectation"⟩
          else
            decryptFromSnapshot primitives cryptor aead untrusted memory (currentPosition + actualPlaintextSize)
              (bytesLeft - actualPlaintextSize) entries

end Asylo.Fork
