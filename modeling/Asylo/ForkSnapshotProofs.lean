import Asylo.ForkSnapshot

/-! What `DecryptFromSnapshot` restores.

The region is cut into `chunkCount` pieces. Given the entries of an honest
snapshot, where every block was allocated outside the enclave, every nonce was
fresh, and the untrusted memory the child reads holds what the parent wrote,
the first `count` entries restore exactly the first `count` pieces
(`decryptFromSnapshot_take`). All of them restore the region
(`decryptFromSnapshot_encryptToSnapshot`). So do fewer: the loop ends when the
entries do and returns OK with the rest of the region as it was
(`decryptFromSnapshot_truncated`). Whatever the host gives, what an OK result
writes is sealed plaintext, piece after piece from the start of the region,
each for the address it is written to (`decryptFromSnapshot_sound`). -/
namespace Asylo.Fork

/-- `target` with the `size` bytes from `base` on taken from `source`. -/
def copyRegion (source target : Memory) (base size : Nat) : Memory :=
  fun address => if base ≤ address ∧ address < base + size then source address else target address

/-- `⌈size / maxMessageSize⌉`, the number of pieces `EncryptToSnapshot` cuts a
region of `size` bytes into. -/
def chunkCount (maxMessageSize size : Nat) : Nat := (size + maxMessageSize - 1) / maxMessageSize

section Memory

@[simp] theorem length_readBytes (memory : Memory) (base size : Nat) : (readBytes memory base size).length = size := by
  simp [readBytes]

/-- Writing the bytes read from `source` copies them. -/
theorem writeBytes_readBytes (source target : Memory) (base size : Nat) :
    writeBytes target base (readBytes source base size) = copyRegion source target base size := by
  funext address
  by_cases inside : base ≤ address ∧ address < base + size
  · have offset : address - base < size := by omega
    simp [writeBytes, copyRegion, readBytes, inside, offset, Nat.add_sub_cancel' inside.1]
  · simp [writeBytes, copyRegion, inside]

@[simp] theorem copyRegion_zero (source target : Memory) (base : Nat) : copyRegion source target base 0 = target := by
  funext address
  simp only [copyRegion, Nat.add_zero]
  split
  · omega
  · rfl

/-- Copying two adjacent stretches copies their union. -/
theorem copyRegion_adjacent (source target : Memory) (base size size' : Nat) :
    copyRegion source (copyRegion source target base size) (base + size) size' =
      copyRegion source target base (size + size') := by
  funext address
  simp only [copyRegion]
  split_ifs <;> first | rfl | omega

/-- The bytes of `writeBytes` read back where they were written. -/
theorem readBytes_writeBytes (memory : Memory) (base : Nat) (bytes : List UInt8) :
    readBytes (writeBytes memory base bytes) base bytes.length = bytes := by
  apply List.ext_getElem
  · simp
  · intro offset inRead inBytes
    simp [readBytes, writeBytes, inBytes]

end Memory

section Chunks

variable {maxMessageSize size : Nat}

theorem chunkCount_pos (positive : 0 < maxMessageSize) (nonzero : size ≠ 0) : 0 < chunkCount maxMessageSize size := by
  unfold chunkCount
  exact Nat.div_pos (by omega) positive

/-- A piece less leaves one chunk less. -/
theorem chunkCount_sub_min (positive : 0 < maxMessageSize) (nonzero : size ≠ 0) :
    chunkCount maxMessageSize (size - min maxMessageSize size) = chunkCount maxMessageSize size - 1 := by
  unfold chunkCount
  by_cases small : size ≤ maxMessageSize
  · -- one piece takes the whole region
    have whole : (size + maxMessageSize - 1) / maxMessageSize = 1 :=
      Nat.div_eq_of_lt_le (by omega) (by omega)
    rw [Nat.min_eq_right small, whole, Nat.sub_self, Nat.zero_add, Nat.div_eq_of_lt (by omega)]
  · have shifted : size + maxMessageSize - 1 = size - maxMessageSize + maxMessageSize - 1 + maxMessageSize := by
      omega
    rw [Nat.min_eq_left (by omega), shifted, Nat.add_div_right _ positive, Nat.add_sub_cancel]

/-- The pieces cover the region. -/
theorem le_chunkCount_mul (positive : 0 < maxMessageSize) : size ≤ chunkCount maxMessageSize size * maxMessageSize := by
  unfold chunkCount
  have split := Nat.div_add_mod (size + maxMessageSize - 1) maxMessageSize
  have remainder := Nat.mod_lt (size + maxMessageSize - 1) positive
  rw [Nat.mul_comm] at split
  omega

/-- The first piece and the first `count` pieces after it make the first
`count + 1` pieces. -/
theorem min_add_min_sub (count : Nat) :
    min maxMessageSize size + min (size - min maxMessageSize size) (count * maxMessageSize) =
      min size ((count + 1) * maxMessageSize) := by
  rw [Nat.succ_mul]
  omega

end Chunks

variable {primitives : TrustedPrimitives} {cryptor : Cryptor}

section Encrypt

variable {memory : Memory} {state : SealState}

/-- `EncryptToUntrustedMemory` of a piece that fits, with both blocks
allocated: the entry, the sealing, and the nonce and ciphertext written. -/
theorem encryptToUntrustedMemory_eq {coins : SealCoins} {destinationBase nonceBase sourceBase sourceSize : Nat}
    (ciphertextAllocated : coins.ciphertextBase = some destinationBase) (nonceAllocated : coins.nonceBase = some nonceBase)
    (fits : sourceSize ≤ cryptor.maxMessageSize) :
    encryptToUntrustedMemory cryptor memory state coins sourceBase sourceSize =
      (.ok ⟨destinationBase, coins.ciphertext.length, nonceBase, cryptor.nonceSize⟩,
        ⟨state.aead.encrypt cryptor.key coins.nonce (pointerBytes sourceBase) coins.ciphertext
            (readBytes memory sourceBase sourceSize),
          writeBytes (writeBytes state.untrusted nonceBase coins.nonce) destinationBase coins.ciphertext⟩) := by
  have notTooLong : ¬ cryptor.maxMessageSize < sourceSize := by omega
  simp [encryptToUntrustedMemory, ciphertextAllocated, nonceAllocated, Cryptor.seal, notTooLong]

/-- A piece only adds a sealing. -/
theorem sealings_prefix_of_encryptToUntrustedMemory {coins : SealCoins} {sourceBase sourceSize : Nat}
    {result : StatusOr SnapshotLayoutEntry} {after : SealState}
    (sealed : encryptToUntrustedMemory cryptor memory state coins sourceBase sourceSize = (result, after)) :
    state.aead.sealings <+: after.aead.sealings := by
  unfold encryptToUntrustedMemory at sealed
  split at sealed
  · cases sealed
    exact List.prefix_refl _
  · split at sealed
    · cases sealed
      exact List.prefix_refl _
    · split at sealed
      · cases sealed
        exact List.prefix_refl _
      · next aead sealing =>
        cases sealed
        simp only [Cryptor.seal] at sealing
        split at sealing
        · cases sealing
        · cases sealing
          exact IdealAead.State.sealings_prefix_encrypt

/-- A snapshot only adds sealings. -/
theorem sealings_prefix_encryptToSnapshot (coins : Nat → SealCoins) (currentPosition bytesLeft : Nat) :
    state.aead.sealings <+: (encryptToSnapshot cryptor memory coins state currentPosition bytesLeft).2.aead.sealings := by
  fun_induction encryptToSnapshot cryptor memory coins state currentPosition bytesLeft with
  | case1 => exact List.prefix_refl _
  | case2 coins state currentPosition bytesLeft nonzero plaintextSize status after piece =>
    exact sealings_prefix_of_encryptToUntrustedMemory piece
  | case3 coins state currentPosition bytesLeft nonzero plaintextSize entry middle piece entries after rest ih =>
    rw [rest] at ih
    exact (sealings_prefix_of_encryptToUntrustedMemory piece).trans ih
  | case4 coins state currentPosition bytesLeft nonzero plaintextSize entry middle piece status after rest ih =>
    rw [rest] at ih
    exact (sealings_prefix_of_encryptToUntrustedMemory piece).trans ih

theorem sealings_prefix_of_encryptToSnapshot {coins : Nat → SealCoins} {currentPosition bytesLeft : Nat}
    {result : StatusOr (List SnapshotLayoutEntry)} {after : SealState}
    (encrypted : encryptToSnapshot cryptor memory coins state currentPosition bytesLeft = (result, after)) :
    state.aead.sealings <+: after.aead.sealings := by
  have grown : state.aead.sealings <+:
      (encryptToSnapshot cryptor memory coins state currentPosition bytesLeft).2.aead.sealings :=
    sealings_prefix_encryptToSnapshot coins currentPosition bytesLeft
  rw [encrypted] at grown
  exact grown

/-- `EncryptToSnapshot` makes one entry per piece. -/
theorem length_of_encryptToSnapshot {coins : Nat → SealCoins} {final : SealState} {currentPosition bytesLeft : Nat}
    {entries : List SnapshotLayoutEntry}
    (encrypted : encryptToSnapshot cryptor memory coins state currentPosition bytesLeft = (.ok entries, final)) :
    entries.length = chunkCount cryptor.maxMessageSize bytesLeft := by
  fun_induction encryptToSnapshot cryptor memory coins state currentPosition bytesLeft generalizing entries final with
  | case1 =>
    simp only [Prod.mk.injEq, Except.ok.injEq] at encrypted
    obtain ⟨rfl, rfl⟩ := encrypted
    have := cryptor.maxMessageSize_pos
    simp only [chunkCount, List.length_nil, Nat.zero_add]
    exact (Nat.div_eq_of_lt (by omega)).symm
  | case2 => simp at encrypted
  | case3 coins state currentPosition bytesLeft nonzero plaintextSize entry middle piece rest after restEncrypted =>
    rename_i ih
    simp only [Prod.mk.injEq, Except.ok.injEq] at encrypted
    obtain ⟨rfl, rfl⟩ := encrypted
    have pieces := chunkCount_pos cryptor.maxMessageSize_pos nonzero
    rw [List.length_cons, ih restEncrypted, chunkCount_sub_min cryptor.maxMessageSize_pos nonzero]
    omega
  | case4 => simp at encrypted

/-- With every block allocated, `EncryptToSnapshot` succeeds. -/
theorem encryptToSnapshot_ok {coins : Nat → SealCoins} {currentPosition bytesLeft : Nat}
    (allocated : ∀ k < chunkCount cryptor.maxMessageSize bytesLeft,
      (coins k).ciphertextBase.isSome ∧ (coins k).nonceBase.isSome) :
    ∃ entries final, encryptToSnapshot cryptor memory coins state currentPosition bytesLeft = (.ok entries, final) := by
  fun_induction encryptToSnapshot cryptor memory coins state currentPosition bytesLeft with
  | case1 => exact ⟨[], _, rfl⟩
  | case2 coins state currentPosition bytesLeft nonzero plaintextSize status after piece =>
    -- the first piece's blocks are allocated, so it is sealed
    obtain ⟨ciphertextAllocated, nonceAllocated⟩ := allocated 0 (chunkCount_pos cryptor.maxMessageSize_pos nonzero)
    obtain ⟨base, ciphertextBase⟩ := Option.isSome_iff_exists.1 ciphertextAllocated
    obtain ⟨nonceBase, nonceBaseEq⟩ := Option.isSome_iff_exists.1 nonceAllocated
    rw [encryptToUntrustedMemory_eq ciphertextBase nonceBaseEq (Nat.min_le_left _ _)] at piece
    simp at piece
  | case3 coins state currentPosition bytesLeft nonzero plaintextSize entry middle piece rest after restEncrypted =>
    exact ⟨_, _, rfl⟩
  | case4 coins state currentPosition bytesLeft nonzero plaintextSize entry middle piece status after restEncrypted =>
    rename_i ih
    obtain ⟨entries, final, encrypted⟩ := ih (fun k below => allocated (k + 1) (by
      rw [chunkCount_sub_min cryptor.maxMessageSize_pos nonzero] at below
      omega))
    rw [restEncrypted] at encrypted
    simp at encrypted

end Encrypt

/-- What an honest host and a working allocator give the first `chunks`
pieces of a snapshot sealed after the sealings of `aead`, for a child that
reads the untrusted memory `untrusted`: both blocks of each piece allocated
outside the enclave and holding what the parent wrote there, and nonces that
no earlier sealing used, nor another piece. -/
structure HonestHost (primitives : TrustedPrimitives) (cryptor : Cryptor) (aead : Aead) (coins : Nat → SealCoins)
    (untrusted : Memory) (chunks : Nat) : Prop where
  ciphertextDelivered : ∀ k < chunks, ∃ base, (coins k).ciphertextBase = some base ∧
    primitives.isOutsideEnclave base (coins k).ciphertext.length = true ∧
    readBytes untrusted base (coins k).ciphertext.length = (coins k).ciphertext
  nonceDelivered : ∀ k < chunks, ∃ base, (coins k).nonceBase = some base ∧
    primitives.isOutsideEnclave base cryptor.nonceSize = true ∧
    readBytes untrusted base cryptor.nonceSize = (coins k).nonce
  fresh : ∀ k < chunks, (coins k).nonce ∉ aead.sealings.map (·.nonce)
  distinct : ∀ j < chunks, ∀ k < chunks, j ≠ k → (coins j).nonce ≠ (coins k).nonce

/-- After the first piece is sealed, the host is honest for the others. -/
theorem HonestHost.next {aead : Aead} {coins : Nat → SealCoins} {untrusted : Memory} {chunks : Nat}
    (host : HonestHost primitives cryptor aead coins untrusted chunks) (associatedData ciphertext plaintext : List UInt8) :
    HonestHost primitives cryptor (aead.encrypt cryptor.key (coins 0).nonce associatedData ciphertext plaintext)
      (fun k => coins (k + 1)) untrusted (chunks - 1) where
  ciphertextDelivered k below := host.ciphertextDelivered (k + 1) (by omega)
  nonceDelivered k below := host.nonceDelivered (k + 1) (by omega)
  fresh k below := by
    simp only [IdealAead.State.encrypt, List.map_append, List.map_cons, List.map_nil, List.mem_append,
      List.mem_singleton, not_or]
    exact ⟨host.fresh (k + 1) (by omega), host.distinct (k + 1) (by omega) 0 (by omega) (by omega)⟩
  distinct j jBelow k kBelow differ := host.distinct (j + 1) (by omega) (k + 1) (by omega) (by omega)

theorem HonestHost.allocated {aead : Aead} {coins : Nat → SealCoins} {untrusted : Memory} {chunks : Nat}
    (host : HonestHost primitives cryptor aead coins untrusted chunks) :
    ∀ k < chunks, (coins k).ciphertextBase.isSome ∧ (coins k).nonceBase.isSome := by
  intro k below
  obtain ⟨_, ciphertextAllocated, -, -⟩ := host.ciphertextDelivered k below
  obtain ⟨_, nonceAllocated, -, -⟩ := host.nonceDelivered k below
  simp [ciphertextAllocated, nonceAllocated]

section Decrypt

variable {aead : Aead} {untrusted : Memory}

/-- `DecryptFromUntrustedMemory` of an entry whose blocks lie outside the
enclave and open, for the destination's address, into a plaintext that fits. -/
theorem decryptFromUntrustedMemory_eq {ciphertextBase ciphertextSize nonceBase : Nat}
    {destinationBase destinationSize : Nat} {plaintext : List UInt8} (memory : Memory)
    (ciphertextOutside : primitives.isOutsideEnclave ciphertextBase ciphertextSize = true)
    (nonceOutside : primitives.isOutsideEnclave nonceBase cryptor.nonceSize = true)
    (opens : aead.decrypt cryptor.key (readBytes untrusted nonceBase cryptor.nonceSize) (pointerBytes destinationBase)
      (readBytes untrusted ciphertextBase ciphertextSize) = some plaintext)
    (fits : plaintext.length ≤ destinationSize) :
    decryptFromUntrustedMemory primitives cryptor aead untrusted memory
        ⟨ciphertextBase, ciphertextSize, nonceBase, cryptor.nonceSize⟩ destinationBase destinationSize =
      .ok (plaintext.length, writeBytes memory destinationBase plaintext) := by
  simp [decryptFromUntrustedMemory, Cryptor.openCiphertext, ciphertextOutside, nonceOutside, opens, fits]

/-- The first `count` entries of an honest snapshot restore exactly the first
`count` pieces of the region. The induction follows `EncryptToSnapshot`, whose
every piece `DecryptFromSnapshot` opens in turn. -/
theorem decryptFromSnapshot_take {memory : Memory} {coins : Nat → SealCoins} {state final : SealState}
    {currentPosition bytesLeft : Nat} {entries : List SnapshotLayoutEntry}
    (encrypted : encryptToSnapshot cryptor memory coins state currentPosition bytesLeft = (.ok entries, final))
    (host : HonestHost primitives cryptor state.aead coins untrusted (chunkCount cryptor.maxMessageSize bytesLeft))
    (inside : ∀ address size, currentPosition ≤ address → address + size ≤ currentPosition + bytesLeft → 0 < size →
      primitives.isInsideEnclave address size = true)
    (nonnull : currentPosition ≠ 0) (extended : final.aead.sealings <+: aead.sealings) (child : Memory) (count : Nat) :
    decryptFromSnapshot primitives cryptor aead untrusted child currentPosition bytesLeft (entries.take count) =
      .ok (copyRegion memory child currentPosition (min bytesLeft (count * cryptor.maxMessageSize))) := by
  fun_induction encryptToSnapshot cryptor memory coins state currentPosition bytesLeft
    generalizing entries final child count with
  | case1 coins state currentPosition =>
    simp only [Prod.mk.injEq, Except.ok.injEq] at encrypted
    obtain ⟨rfl, rfl⟩ := encrypted
    simp [decryptFromSnapshot]
  | case2 => simp at encrypted
  | case3 coins state currentPosition bytesLeft nonzero plaintextSize entry middle piece rest after restEncrypted =>
    rename_i ih
    simp only [plaintextSize] at restEncrypted ih ⊢
    simp only [Prod.mk.injEq, Except.ok.injEq] at encrypted
    obtain ⟨rfl, rfl⟩ := encrypted
    have first : 0 < chunkCount cryptor.maxMessageSize bytesLeft := chunkCount_pos cryptor.maxMessageSize_pos nonzero
    have positive : 0 < min cryptor.maxMessageSize bytesLeft := Nat.lt_min.2 ⟨cryptor.maxMessageSize_pos, by omega⟩
    obtain ⟨base, allocated, outside, delivered⟩ := host.ciphertextDelivered 0 first
    obtain ⟨nonceBase, nonceAllocated, nonceOutside, nonceDelivered⟩ := host.nonceDelivered 0 first
    rw [encryptToUntrustedMemory_eq allocated nonceAllocated (Nat.min_le_left _ _)] at piece
    simp only [Prod.mk.injEq, Except.ok.injEq] at piece
    obtain ⟨rfl, rfl⟩ := piece
    cases count with
    | zero => simp [decryptFromSnapshot]
    | succ count =>
      -- the piece opens, under the later sealings too, into the parent's bytes
      have opens := IdealAead.State.decrypt_of_prefix
        ((sealings_prefix_of_encryptToSnapshot restEncrypted).trans extended)
        (IdealAead.State.decrypt_encrypt_self (host.fresh 0 first))
      have checked : ¬ (currentPosition = 0 ∨
          (!primitives.isInsideEnclave currentPosition (min cryptor.maxMessageSize bytesLeft)) = true) := by
        simp [nonnull, inside currentPosition _ (Nat.le_refl _) (by omega) positive]
      rw [← delivered, ← nonceDelivered] at opens
      have head := decryptFromUntrustedMemory_eq child outside nonceOutside opens
        (Nat.le_of_eq (length_readBytes memory currentPosition (min cryptor.maxMessageSize bytesLeft)))
      have later := ih restEncrypted (by rw [chunkCount_sub_min cryptor.maxMessageSize_pos nonzero]; exact host.next _ _ _)
        (fun address size after below positive => inside address size (by omega) (by omega) positive) (by omega)
        extended (copyRegion memory child currentPosition (min cryptor.maxMessageSize bytesLeft)) count
      simp only [List.take_succ_cons, decryptFromSnapshot, if_neg nonzero]
      rw [if_neg checked, head]
      simp only [length_readBytes, ne_eq, not_true_eq_false, if_false, writeBytes_readBytes]
      rw [later, copyRegion_adjacent, min_add_min_sub]
  | case4 => simp at encrypted

section Honest

variable {memory : Memory} {coins : Nat → SealCoins} {state final : SealState} {currentPosition bytesLeft : Nat}
  {entries : List SnapshotLayoutEntry}
  (encrypted : encryptToSnapshot cryptor memory coins state currentPosition bytesLeft = (.ok entries, final))
  (host : HonestHost primitives cryptor state.aead coins untrusted (chunkCount cryptor.maxMessageSize bytesLeft))
  (inside : ∀ address size, currentPosition ≤ address → address + size ≤ currentPosition + bytesLeft → 0 < size →
    primitives.isInsideEnclave address size = true)
  (nonnull : currentPosition ≠ 0) (extended : final.aead.sealings <+: aead.sealings)
include encrypted host inside nonnull extended

/-- The entries of an honest snapshot restore the whole region. -/
theorem decryptFromSnapshot_encryptToSnapshot (child : Memory) :
    decryptFromSnapshot primitives cryptor aead untrusted child currentPosition bytesLeft entries =
      .ok (copyRegion memory child currentPosition bytesLeft) := by
  have whole := decryptFromSnapshot_take encrypted host inside nonnull extended child entries.length
  rw [List.take_length, length_of_encryptToSnapshot encrypted,
    Nat.min_eq_left (le_chunkCount_mul cryptor.maxMessageSize_pos)] at whole
  exact whole

/-- The first entry alone of a snapshot of more than one piece is accepted
too: the loop stops with the entries, and the rest of the region keeps what
it held. -/
theorem decryptFromSnapshot_truncated (child : Memory) (more : cryptor.maxMessageSize < bytesLeft) :
    1 < entries.length ∧
      decryptFromSnapshot primitives cryptor aead untrusted child currentPosition bytesLeft (entries.take 1) =
        .ok (copyRegion memory child currentPosition cryptor.maxMessageSize) := by
  constructor
  · rw [length_of_encryptToSnapshot encrypted, chunkCount]
    show 2 ≤ _
    rw [Nat.le_div_iff_mul_le cryptor.maxMessageSize_pos]
    omega
  · rw [decryptFromSnapshot_take encrypted host inside nonnull extended child 1, Nat.one_mul,
      Nat.min_eq_right (by omega)]

end Honest

end Decrypt

/-- The pieces an OK `DecryptFromSnapshot` wrote from `currentPosition` on:
each one of the size the loop expected, and the plaintext of a sealing under
the key for the address it was written to. -/
def Authenticated (cryptor : Cryptor) (aead : Aead) : Nat → Nat → List (List UInt8) → Prop
  | _, _, [] => True
  | currentPosition, bytesLeft, plaintext :: plaintexts =>
    bytesLeft ≠ 0 ∧ plaintext.length = min cryptor.maxMessageSize bytesLeft ∧
      (∃ sealing ∈ aead.sealings, sealing.key = cryptor.key ∧
        sealing.associatedData = pointerBytes currentPosition ∧ sealing.plaintext = plaintext) ∧
      Authenticated cryptor aead (currentPosition + plaintext.length) (bytesLeft - plaintext.length) plaintexts

/-- The pieces written one after the other from `currentPosition` on. -/
def writePieces : Memory → Nat → List (List UInt8) → Memory
  | memory, _, [] => memory
  | memory, currentPosition, plaintext :: plaintexts =>
    writePieces (writeBytes memory currentPosition plaintext) (currentPosition + plaintext.length) plaintexts

section Sound

variable {aead : Aead} {untrusted : Memory}

/-- What an OK `DecryptFromUntrustedMemory` did: it wrote at the destination
the plaintext of a sealing under the key for the destination's address, and
returned its size. -/
theorem decryptFromUntrustedMemory_eq_ok {entry : SnapshotLayoutEntry} {memory restored : Memory}
    {destinationBase destinationSize size : Nat}
    (decrypted : decryptFromUntrustedMemory primitives cryptor aead untrusted memory entry destinationBase
      destinationSize = .ok (size, restored)) :
    ∃ plaintext, size = plaintext.length ∧ restored = writeBytes memory destinationBase plaintext ∧
      ∃ sealing ∈ aead.sealings, sealing.key = cryptor.key ∧
        sealing.associatedData = pointerBytes destinationBase ∧ sealing.plaintext = plaintext := by
  unfold decryptFromUntrustedMemory at decrypted
  split at decrypted
  · cases decrypted
  · split at decrypted
    · cases decrypted
    · dsimp only at decrypted
      split at decrypted
      · cases decrypted
      · next plaintext opened =>
        simp only [Except.ok.injEq, Prod.mk.injEq] at decrypted
        obtain ⟨rfl, rfl⟩ := decrypted
        refine ⟨plaintext, rfl, rfl, ?_⟩
        -- `Open` returns a plaintext only when a sealing opens
        unfold Cryptor.openCiphertext at opened
        split at opened
        · cases opened
        · split at opened
          · next found =>
            split at opened
            · cases opened
              exact ⟨_, IdealAead.State.mem_of_decrypt found, rfl, rfl, rfl⟩
            · cases opened
          · cases opened

/-- Whatever entries the host gives, an OK result has written authenticated
pieces, no more than there are entries, and nothing else. -/
theorem decryptFromSnapshot_sound {entries : List SnapshotLayoutEntry} {child restored : Memory}
    {currentPosition bytesLeft : Nat}
    (decrypted : decryptFromSnapshot primitives cryptor aead untrusted child currentPosition bytesLeft entries =
      .ok restored) :
    ∃ plaintexts, plaintexts.length ≤ entries.length ∧ Authenticated cryptor aead currentPosition bytesLeft plaintexts ∧
      restored = writePieces child currentPosition plaintexts := by
  induction entries generalizing child currentPosition bytesLeft with
  | nil =>
    simp only [decryptFromSnapshot, Except.ok.injEq] at decrypted
    exact ⟨[], Nat.le_refl _, trivial, decrypted.symm⟩
  | cons entry entries ih =>
    simp only [decryptFromSnapshot] at decrypted
    split at decrypted
    · simp only [Except.ok.injEq] at decrypted
      exact ⟨[], Nat.zero_le _, trivial, decrypted.symm⟩
    · next nonzero =>
      split at decrypted
      · cases decrypted
      · split at decrypted
        · cases decrypted
        · next size written opened =>
          split at decrypted
          · cases decrypted
          · next sized =>
            obtain ⟨plaintext, rfl, rfl, sealing, member, key, data, text⟩ := decryptFromUntrustedMemory_eq_ok opened
            obtain ⟨plaintexts, fewer, authenticated, rfl⟩ := ih decrypted
            refine ⟨plaintext :: plaintexts, by simp [fewer], ?_, rfl⟩
            exact ⟨nonzero, by simpa using sized, ⟨sealing, member, key, data, text⟩, authenticated⟩

/-- Authenticated pieces have at most `MaxMessageSize()` bytes each. -/
theorem Authenticated.sum_length_le {currentPosition bytesLeft : Nat} {plaintexts : List (List UInt8)}
    (authenticated : Authenticated cryptor aead currentPosition bytesLeft plaintexts) :
    (plaintexts.map List.length).sum ≤ plaintexts.length * cryptor.maxMessageSize := by
  induction plaintexts generalizing currentPosition bytesLeft with
  | nil => simp
  | cons plaintext plaintexts ih =>
    obtain ⟨-, sized, -, rest⟩ := authenticated
    have shorter := ih rest
    simp only [List.map_cons, List.sum_cons, List.length_cons, Nat.succ_mul]
    have := Nat.min_le_left cryptor.maxMessageSize bytesLeft
    omega

end Sound

/-- Writing pieces leaves what lies before them and after their total length. -/
theorem writePieces_outside (memory : Memory) (currentPosition : Nat) (plaintexts : List (List UInt8))
    {address : Nat} (outside : address < currentPosition ∨ currentPosition + (plaintexts.map List.length).sum ≤ address) :
    writePieces memory currentPosition plaintexts address = memory address := by
  induction plaintexts generalizing memory currentPosition with
  | nil => rfl
  | cons plaintext plaintexts ih =>
    simp only [List.map_cons, List.sum_cons] at outside
    rw [writePieces, ih _ _ (by omega)]
    simp only [writeBytes]
    split
    · omega
    · rfl

/-- Whatever entries the host gives, an OK result leaves every byte before
the region, and every byte from `entries.length` pieces into it on, as it
was. With fewer entries than pieces, part of the region is not restored. -/
theorem decryptFromSnapshot_unchanged_beyond {aead : Aead} {untrusted : Memory} {entries : List SnapshotLayoutEntry}
    {child restored : Memory} {currentPosition bytesLeft : Nat}
    (decrypted : decryptFromSnapshot primitives cryptor aead untrusted child currentPosition bytesLeft entries =
      .ok restored) {address : Nat}
    (outside : address < currentPosition ∨ currentPosition + entries.length * cryptor.maxMessageSize ≤ address) :
    restored address = child address := by
  obtain ⟨plaintexts, fewer, authenticated, rfl⟩ := decryptFromSnapshot_sound decrypted
  have written := authenticated.sum_length_le
  have bound := Nat.mul_le_mul_right cryptor.maxMessageSize fewer
  exact writePieces_outside child currentPosition plaintexts (by omega)

/-- A cryptor that seals at most two bytes at a time, with one-byte nonces. -/
def twoByteCryptor : Cryptor := ⟨[1], 2, 1, by decide⟩

/-- An enclave that spans `[16, 32)`. -/
def sampleEnclave : TrustedPrimitives :=
  ⟨fun address size => decide (16 ≤ address ∧ address + size ≤ 32),
    fun address size => decide (address + size ≤ 16 ∨ 32 ≤ address)⟩

/-- The blocks the host allocates for piece `k` and the coins of its seal. -/
def sampleCoins (k : Nat) : SealCoins := ⟨some (100 + 10 * k), some (200 + 10 * k), [k.toUInt8], [(50 + k).toUInt8]⟩

/-- The untrusted memory the child reads: each piece's ciphertext and nonce
where the parent wrote them. -/
def sampleUntrusted : Memory := fun address =>
  if address = 100 then 50 else if address = 110 then 51 else if address = 210 then 1 else 0

/-- The parent's memory, each byte the low byte of its address. -/
def sampleParentMemory : Memory := fun address => address.toUInt8

theorem sampleHost :
    HonestHost sampleEnclave twoByteCryptor ⟨[]⟩ sampleCoins sampleUntrusted (chunkCount twoByteCryptor.maxMessageSize 4) where
  ciphertextDelivered k below := by
    have pieces : k = 0 ∨ k = 1 := by
      simp only [chunkCount, twoByteCryptor] at below
      omega
    rcases pieces with rfl | rfl <;> exact ⟨_, rfl, by decide, by decide⟩
  nonceDelivered k below := by
    have pieces : k = 0 ∨ k = 1 := by
      simp only [chunkCount, twoByteCryptor] at below
      omega
    rcases pieces with rfl | rfl <;> exact ⟨_, rfl, by decide, by decide⟩
  fresh k below := by simp
  distinct j jBelow k kBelow differ := by
    simp only [chunkCount, twoByteCryptor] at jBelow kBelow
    have pieces : (j = 0 ∧ k = 1) ∨ (j = 1 ∧ k = 0) := by omega
    rcases pieces with ⟨rfl, rfl⟩ | ⟨rfl, rfl⟩ <;> decide

/-- A host that gives back only the first of the two entries of the snapshot
of `[16, 20)` gets an OK restore that leaves bytes 18 and 19 as the child had
them: byte 18 is 0 where the parent held 18. -/
theorem truncated_snapshot_restores_one_piece :
    ∃ entries final,
      encryptToSnapshot twoByteCryptor sampleParentMemory sampleCoins ⟨⟨[]⟩, fun _ => 0⟩ 16 4 = (.ok entries, final) ∧
        entries.length = 2 ∧
        decryptFromSnapshot sampleEnclave twoByteCryptor final.aead sampleUntrusted (fun _ => 0) 16 4 (entries.take 1) =
          .ok (copyRegion sampleParentMemory (fun _ => 0) 16 2) ∧
        copyRegion sampleParentMemory (fun _ => 0) 16 2 18 = 0 ∧ sampleParentMemory 18 = 18 := by
  obtain ⟨entries, final, encrypted⟩ : ∃ entries final,
      encryptToSnapshot twoByteCryptor sampleParentMemory sampleCoins ⟨⟨[]⟩, fun _ => 0⟩ 16 4 = (.ok entries, final) :=
    encryptToSnapshot_ok sampleHost.allocated
  have inside : ∀ address size, 16 ≤ address → address + size ≤ 16 + 4 → 0 < size →
      sampleEnclave.isInsideEnclave address size = true := by
    intro address size atLeast below _
    simp only [sampleEnclave, decide_eq_true_eq]
    omega
  obtain ⟨twoPieces, truncated⟩ :=
    decryptFromSnapshot_truncated encrypted sampleHost inside (by decide) (List.prefix_refl _) (fun _ => 0) (by decide)
  refine ⟨entries, final, encrypted, ?_, truncated, by decide, by decide⟩
  rw [length_of_encryptToSnapshot encrypted]
  decide

end Asylo.Fork
