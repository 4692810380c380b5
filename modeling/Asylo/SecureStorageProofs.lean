import Asylo.SecureStorage

/-! What secure storage does with ranges that do not cover whole blocks, and
what a write does to the logical size. A range that starts inside a block and
ends before that block's end is cut by `ReduceLogicalRangeToFullLogicalBlocks`
into a first partial count equal to the whole range, from which both the read
and the write path compute a first block offset that is not the block's start:
reads there fail or decrypt the wrong bytes, and writes always fail. A
successful write sets the logical size to the end of the write, also when the
write ends before the old end of the file. -/
namespace Asylo.SecureStorageProofs
open PosixFile AeadHandler

variable (B : Backend)

theorem readFullBlock_misaligned {fc : FileControl} {disk : Bytes} {logicalOffset : Int}
    {block : Bytes} (misaligned : logicalOffset < 0 ∨ logicalOffset % kBlockLength ≠ 0) :
    (readFullBlock B fc disk logicalOffset block).1 = false := by
  unfold readFullBlock
  rw [if_pos misaligned]

/-- A read that starts inside the first block and ends before its end seeks to
`LogicalToPhysical` of a negative offset, which the host refuses. -/
theorem decryptAndVerifyInternal_inside_first_block {fc : FileControl} {disk buf : Bytes}
    {cursor count logicalOffset : Nat} (inside : 0 < logicalOffset)
    (before : logicalOffset < fc.logicalSize) (nonempty : 0 < count)
    (short : logicalOffset + count < kBlockLength) :
    (decryptAndVerifyInternal B fc disk cursor buf count logicalOffset).1 = -1 := by
  have inBlock : logicalOffset % offsetTranslator.payloadLength = logicalOffset :=
    Nat.mod_eq_of_lt (by simp [offsetTranslator]; omega)
  simp only [decryptAndVerifyInternal, if_neg (Nat.pos_iff_ne_zero.mp nonempty),
    if_neg (Nat.not_le.mpr before)]
  generalize clampedDef : (if logicalOffset + count ≥ fc.logicalSize then
    fc.logicalSize - logicalOffset else count) = clamped
  have clampedPos : 0 < clamped := by
    rw [← clampedDef]
    split <;> omega
  have clampedShort : logicalOffset + clamped < kBlockLength := by
    rw [← clampedDef]
    split <;> omega
  rw [offsetTranslator.reduce_inside_block (by rw [inBlock]; exact inside) clampedPos
    (by rw [inBlock]; simpa [offsetTranslator] using clampedShort)]
  have negative : (logicalOffset : Int) + clamped - kBlockLength < 0 := by
    simp only [kBlockLength] at clampedShort ⊢
    omega
  simp only [clampedPos, ↓reduceIte]
  rw [offsetTranslator.logicalToPhysical_neg negative, lseek_seekSet_neg (by decide)]

/-- A write that starts inside a block and ends before that block's end reads
its first bounce block at an offset that is not a block start, so it fails and
changes nothing. -/
theorem encryptAndPersistAt_inside_block {fc : FileControl} {disk buf stale : Bytes}
    {cursor count logicalOffset : Nat} (nonempty : 0 < count)
    (misaligned : 0 < logicalOffset % kBlockLength)
    (short : logicalOffset % kBlockLength + count < kBlockLength) :
    encryptAndPersistAt B fc disk cursor buf count logicalOffset stale = (fc, disk, cursor, -1) := by
  have breakdown : offsetTranslator.reduceLogicalRangeToFullLogicalBlocks logicalOffset count =
      ⟨count, 0, kBlockLength⟩ :=
    offsetTranslator.reduce_inside_block misaligned nonempty short
  have unaligned : (logicalOffset : Int) + count - kBlockLength < 0 ∨
      ((logicalOffset : Int) + count - kBlockLength) % kBlockLength ≠ 0 := by
    simp only [kBlockLength] at misaligned short ⊢
    omega
  have firstFails : (readFullBlock B fc disk ((logicalOffset : Int) + count - kBlockLength)
      stale).1 = false :=
    readFullBlock_misaligned B unaligned
  unfold encryptAndPersistAt
  rw [if_neg (by omega), breakdown]
  simp [boundaryBlocks, nonempty, firstFails]

/-- Every exit of `EncryptAndPersist` but the last returns `-1`; the last one
has replaced the leaves and set the logical size to the end of the write. -/
theorem encryptAndPersistAt_ok {fc fc' : FileControl} {disk disk' buf stale : Bytes}
    {cursor cursor' count logicalOffset : Nat} (nonempty : 0 < count)
    (ran : encryptAndPersistAt B fc disk cursor buf count logicalOffset stale =
      (fc', disk', cursor', (count : Int))) :
    ∃ ad, fc' = { fc with ad := ad, logicalSize := logicalOffset + count } := by
  unfold encryptAndPersistAt at ran
  rw [if_neg (by omega)] at ran
  dsimp only at ran
  repeat' split at ran
  all_goals
    simp only [Prod.mk.injEq] at ran
    first
      | omega
      | exact ⟨_, ran.1.symm⟩

/-- After a successful write the logical size is the end of that write, not
the larger of it and the old size. -/
theorem encryptAndPersistAt_logicalSize {fc fc' : FileControl} {disk disk' buf stale : Bytes}
    {cursor cursor' count logicalOffset : Nat} (nonempty : 0 < count)
    (ran : encryptAndPersistAt B fc disk cursor buf count logicalOffset stale =
      (fc', disk', cursor', (count : Int))) :
    fc'.logicalSize = logicalOffset + count := by
  obtain ⟨ad, rfl⟩ := encryptAndPersistAt_ok B nonempty ran
  rfl

/-- `ReadFullBlock` converts the `-1` of a failed decryption to `true`: a
boundary block that fails verification reads as a good one. -/
theorem readFullBlock_of_decrypt_fails {fc : FileControl} {disk block : Bytes} {logicalOffset : Nat}
    (aligned : logicalOffset % kBlockLength = 0)
    (fails : (decryptAndVerifyInternal B fc disk (offsetTranslator.logicalToPhysical logicalOffset).toNat
      block kBlockLength logicalOffset).1 = -1) :
    (readFullBlock B fc disk logicalOffset block).1 = true := by
  have valid : ¬ ((logicalOffset : Int) < 0 ∨ (logicalOffset : Int) % kBlockLength ≠ 0) := by
    simp only [kBlockLength] at aligned ⊢
    omega
  rw [offsetTranslator.logicalToPhysical_natCast, Int.toNat_natCast] at fails
  unfold readFullBlock
  rw [if_neg valid, offsetTranslator.logicalToPhysical_natCast, lseek_seekSet]
  simp [fails]

/-- An aligned write of whole blocks past the end of a file without a master
key appends a `zero_hash` leaf for every block of the gap, then fails at
`GetGcmCryptor` and returns `-1` with those leaves kept. -/
theorem encryptAndPersistAt_keyless_past_end {fc : FileControl} {disk buf stale : Bytes}
    {cursor count logicalOffset : Nat} (keyless : fc.masterKey = none)
    (aligned : logicalOffset % kBlockLength = 0) (whole : count % kBlockLength = 0)
    (nonempty : 0 < count) (pastEnd : fc.ad.length < logicalOffset / kBlockLength) :
    encryptAndPersistAt B fc disk cursor buf count logicalOffset stale =
      ({ fc with ad := fc.ad ++ List.replicate (logicalOffset / kBlockLength - fc.ad.length) (zeroHash B) },
        disk, cursor, -1) := by
  have breakdown : offsetTranslator.reduceLogicalRangeToFullLogicalBlocks logicalOffset count =
      ⟨0, 0, count⟩ :=
    offsetTranslator.reduce_aligned aligned whole
  have physical : offsetTranslator.logicalToPhysical logicalOffset =
      ((kFileHeaderLength + logicalOffset / kBlockLength * kSecureBlockLength : Nat) : Int) := by
    rw [offsetTranslator.logicalToPhysical_natCast]
    simp only [offsetTranslator, aligned, Nat.add_zero]
  -- both ends are the header plus whole secure blocks, so the gap is a whole
  -- number of blocks
  have gap : (((kFileHeaderLength + logicalOffset / kBlockLength * kSecureBlockLength : Nat) : Int) -
      (physicalSize fc : Int)).toNat / kSecureBlockLength = logicalOffset / kBlockLength - fc.ad.length := by
    have blocks : fc.ad.length * kSecureBlockLength ≤ logicalOffset / kBlockLength * kSecureBlockLength :=
      Nat.mul_le_mul_right _ pastEnd.le
    have difference : (((kFileHeaderLength + logicalOffset / kBlockLength * kSecureBlockLength : Nat) : Int) -
        (physicalSize fc : Int)).toNat = (logicalOffset / kBlockLength - fc.ad.length) * kSecureBlockLength := by
      rw [Nat.sub_mul, physicalSize]
      omega
    rw [difference, Nat.mul_div_cancel _ (by decide)]
  have sparse : extendSparse B fc
      ((kFileHeaderLength + logicalOffset / kBlockLength * kSecureBlockLength : Nat) : Int) =
      (fc.ad ++ List.replicate (logicalOffset / kBlockLength - fc.ad.length) (zeroHash B),
        (fc.ad.length : Int) + (logicalOffset / kBlockLength - fc.ad.length : Nat)) := by
    have beyond : fc.ad.length * kSecureBlockLength < logicalOffset / kBlockLength * kSecureBlockLength :=
      Nat.mul_lt_mul_of_pos_right pastEnd (by decide)
    unfold extendSparse
    rw [if_pos (by simp only [physicalSize]; omega), gap]
  unfold encryptAndPersistAt
  rw [if_neg (by omega), breakdown]
  simp only [boundaryBlocks, Nat.lt_irrefl, ↓reduceIte, physical, sparse, getGcmCryptor, keyless,
    Option.bind_none]

/-- `Deserialize` never touches the master key. -/
theorem deserialize_masterKey (fc : FileControl) (disk : Bytes) :
    (deserialize B fc disk).1.masterKey = fc.masterKey := by
  unfold deserialize
  split
  · rfl
  · split
    · split <;> rfl
    · dsimp only
      split
      · rfl
      · split
        · rfl
        · split
          · rfl
          · split <;> rfl

/-- `SetMasterKey` on a file not yet deserialized installs the key whether or
not `Deserialize` then succeeds. -/
theorem setMasterKey_installs_key {fc : FileControl} {disk key : Bytes}
    (length : key.length = kKeyLength) (notLoaded : fc.isDeserialized = false) :
    (setMasterKey B fc disk key).1.masterKey = some key := by
  have kept := deserialize_masterKey B { fc with masterKey := some key } disk
  rcases deserialized : deserialize B { fc with masterKey := some key } disk with ⟨fc', disk', ok⟩
  rw [deserialized] at kept
  unfold setMasterKey
  rw [if_neg (by rw [length]; exact fun differs => differs rfl), if_neg (by rw [notLoaded]; decide)]
  simp only [deserialized]
  cases ok <;> simpa using kept

/-- Closing one descriptor of a path while another stays open drops the path
from `opened_files_`, so any later open of the path that succeeds gets a new
`FileControl`, apart from the one the other descriptor still uses. -/
theorem reopen_after_close_splits {st : Storage} {closing sibling : Int} {id : Nat} {path : String}
    {fc : FileControl} {create : Bool} (nonneg : 0 ≤ closing)
    (found : st.lookupControl closing = some (id, path, fc)) (shared : st.fmap.lookup sibling = some id)
    (distinct : sibling ≠ closing)
    (reopened : 0 ≤ ((st.secureClose closing).2.secureOpen path create false false).1) :
    ((st.secureClose closing).2.secureOpen path create false false).2.fmap.lookup sibling = some id ∧
      ((st.secureClose closing).2.secureOpen path create false false).2.fmap.lookup
        ((st.secureClose closing).2.secureOpen path create false false).1 = some st.controls.length ∧
      id ≠ st.controls.length := by
  obtain ⟨sameControls, erasedFmap, erasedPaths⟩ := Storage.secureClose_maps nonneg found
  have idValid := Storage.lookupControl_lt found
  generalize (st.secureClose closing).2 = closed at reopened erasedFmap erasedPaths sameControls ⊢
  have pathGone : closed.openedFiles.lookup path = none := by
    rw [erasedPaths]
    exact lookup_eraseKey_self _ _
  have siblingKept : closed.fmap.lookup sibling = some id := by
    rw [erasedFmap, lookup_eraseKey_of_ne distinct]
    exact shared
  obtain ⟨fd, host, -, ok, result⟩ := Storage.secureOpen_ok reopened
  obtain ⟨-, free, registered⟩ := Storage.initializeFile_ok ok
  rw [result]
  rw [registered]
  simp only [pathGone] at free ⊢
  have fresh : fd ≠ sibling := by
    rintro rfl
    rw [siblingKept] at free
    cases free
  refine ⟨?_, ?_, by omega⟩
  · rw [lookup_append_of_ne (Ne.symm fresh)]
    exact siblingKept
  · rw [lookup_append_self free, sameControls]

/-! ## An ideal backend and two runs on it -/

/-- The tag of the sample cryptor: never all zero, so no written block looks
sparse. -/
def sampleTag (block : Bytes) : Bytes := 1 :: block.take (kTagLength - 1)

/-- An ideal AEAD at block level: the ciphertext carries the plaintext and a
tag of it, and decryption checks the tag before returning the plaintext. -/
def sampleCryptor : GcmCryptor where
  encryptBlock plaintext :=
    let block := (plaintext ++ List.replicate kBlockLength 0).take kBlockLength
    some (block ++ sampleTag block, List.replicate kTokenLength 0)
  decryptBlock ciphertext _ :=
    if ciphertext.length = kCipherBlockLength ∧
        ciphertext.drop kBlockLength = sampleTag (ciphertext.take kBlockLength) then
      some (ciphertext.take kBlockLength)
    else none
  getAuthTag data := some ((data ++ List.replicate kFileHashLength 0).take kFileHashLength)
  encrypt_length := by
    intro plaintext ciphertext token sealed
    simp only [Option.some.injEq, Prod.mk.injEq] at sealed
    obtain ⟨rfl, rfl⟩ := sealed
    simp [sampleTag, kCipherBlockLength, kBlockLength, kTagLength, kTokenLength]
  decrypt_length := by
    intro ciphertext token plaintext opened
    split at opened
    · rename_i valid
      cases opened
      simp only [kCipherBlockLength, kBlockLength, kTagLength] at valid ⊢
      simp [valid.1]
    · cases opened
  authTag_length := by
    intro data tag sealed
    cases sealed
    simp [kFileHashLength]

/-- Decryption inverts encryption: the sample cryptor is ideal. -/
theorem sampleCryptor_decrypt_encrypt {plaintext ciphertext token : Bytes}
    (sealed : sampleCryptor.encryptBlock plaintext = some (ciphertext, token)) :
    sampleCryptor.decryptBlock ciphertext token =
      some ((plaintext ++ List.replicate kBlockLength 0).take kBlockLength) := by
  simp only [sampleCryptor, Option.some.injEq, Prod.mk.injEq] at sealed ⊢
  obtain ⟨rfl, rfl⟩ := sealed
  simp [sampleTag, kCipherBlockLength, kBlockLength, kTagLength]

/-- A backend over the sample cryptor whose root records the number of leaves. -/
def sampleBackend : Backend where
  leafHash data := (data ++ List.replicate kRootHashLength 0).take kRootHashLength
  currentRoot leaves :=
    (LittleEndian.encode 1 leaves.length ++ leaves.flatten ++
      List.replicate kRootHashLength 0).take kRootHashLength
  getGcmCryptor _ := some sampleCryptor
  leafHash_length data := by simp [kRootHashLength]

def sampleKey : Bytes := List.replicate kKeyLength 7

/-- The file a new path holds once opened and keyed. -/
def keyedNewFile : SecureFile :=
  (secureSetKey sampleBackend ⟨FileControl.init true, [], kFileHeaderLength⟩ sampleKey).1

theorem secureOpen_new :
    secureOpen none true false false = some ⟨FileControl.init true, [], kFileHeaderLength⟩ := rfl

/-- On a new keyed file a 15-byte write at offset 0 succeeds and a seek to
logical offset 10 succeeds, but reading the 5 bytes at offsets 10 to 14 fails
with `-1`. -/
theorem read_within_first_block_fails :
    (let written := secureWrite sampleBackend keyedNewFile (List.replicate 15 9) 15
      (List.replicate kBlockLength 0)
    let seeked := secureLseek written.1 10 .seekSet
    (secureSetKey sampleBackend ⟨FileControl.init true, [], kFileHeaderLength⟩ sampleKey).2 = 0 ∧
      written.2 = 15 ∧ seeked.2 = 10 ∧ secureFstat seeked.1 = 15 ∧
      (secureRead sampleBackend seeked.1 (List.replicate 5 0) 5).2.1 = -1) := by
  decide +kernel

/-- On a new keyed file, 129 bytes written at offset 0 and then 1 byte written
at offset 0 both succeed; the dictionary keeps 2 leaves while the logical size
drops to 1, and reopening the file with the same key fails. -/
theorem shrinking_overwrite_breaks_reload :
    (let first := secureWrite sampleBackend keyedNewFile (List.replicate 129 9) 129
      (List.replicate kBlockLength 0)
    let rewound := secureLseek first.1 0 .seekSet
    let second := secureWrite sampleBackend rewound.1 [5] 1 (List.replicate kBlockLength 0)
    first.2 = 129 ∧ rewound.2 = 0 ∧ second.2 = 1 ∧
      second.1.control.ad.length = 2 ∧ second.1.control.logicalSize = 1 ∧
      (1 + kBlockLength - 1) / kBlockLength = 1 ∧
      secureOpen (some second.1.disk) false false false =
        some ⟨FileControl.init false, second.1.disk, kFileHeaderLength⟩ ∧
      (secureSetKey sampleBackend ⟨FileControl.init false, second.1.disk, kFileHeaderLength⟩
        sampleKey).2 = -1) := by
  decide +kernel

/-- Two runs where a failed step of `EncryptAndPersist` is not atomic. On a
keyed file holding 256 bytes whose first ciphertext byte the host has changed,
the first block no longer decrypts, yet `ReadFullBlock` reports success, and a
write of 50 bytes at offset 100, whose first bounce block is that block,
returns 50. On a new file without a key, a write of one block at offset 256
returns `-1` after adding two sparse leaves to the dictionary. -/
theorem secure_write_failures_not_atomic :
    (let written := secureWrite sampleBackend keyedNewFile (List.replicate 256 9) 256
      (List.replicate kBlockLength 0)
    let tampered : SecureFile := { written.1 with disk := write written.1.disk kFileHeaderLength [0] }
    let seeked := secureLseek tampered 100 .seekSet
    written.2 = 256 ∧ seeked.2 = 100 ∧
      (decryptAndVerifyInternal sampleBackend tampered.control tampered.disk
        (offsetTranslator.logicalToPhysical (0 : Nat)).toNat (List.replicate kBlockLength 0)
        kBlockLength 0).1 = -1 ∧
      (readFullBlock sampleBackend tampered.control tampered.disk (0 : Nat)
        (List.replicate kBlockLength 0)).1 = true ∧
      (secureWrite sampleBackend seeked.1 (List.replicate 50 5) 50 (List.replicate kBlockLength 0)).2 = 50) ∧
    (let seeked := secureLseek ⟨FileControl.init true, [], kFileHeaderLength⟩ 256 .seekSet
    let failed := secureWrite sampleBackend seeked.1 (List.replicate kBlockLength 5) kBlockLength
      (List.replicate kBlockLength 0)
    seeked.2 = 256 ∧ failed.2 = -1 ∧ (FileControl.init true).ad.length = 0 ∧
      failed.1.control.ad.length = 2) := by
  refine ⟨?tampered, ?keyless⟩
  case tampered =>
    intro written tampered seeked
    have fails : (decryptAndVerifyInternal sampleBackend tampered.control tampered.disk
        (offsetTranslator.logicalToPhysical (0 : Nat)).toNat (List.replicate kBlockLength 0)
        kBlockLength 0).1 = -1 := by
      decide +kernel
    refine ⟨by decide +kernel, by decide +kernel, fails,
      readFullBlock_of_decrypt_fails sampleBackend (by decide) fails, by decide +kernel⟩
  case keyless =>
    intro seeked failed
    have seekedEq : seeked = (⟨FileControl.init true, [], 400⟩, 256) := by decide
    have logical : retrieveLogicalOffset 400 = some 256 := by decide
    have sparse := @encryptAndPersistAt_keyless_past_end sampleBackend (FileControl.init true) []
      (List.replicate kBlockLength 5) (List.replicate kBlockLength 0) 400 kBlockLength 256
      rfl (by decide) (by decide) (by decide) (by decide)
    have failedEq : failed = (⟨{ FileControl.init true with
        ad := List.replicate 2 (zeroHash sampleBackend) }, [], 400⟩, -1) := by
      show secureWrite sampleBackend seeked.1 _ _ _ = _
      rw [seekedEq]
      unfold secureWrite
      rw [logical]
      dsimp only
      rw [sparse]
      rfl
    rw [seekedEq, failedEq]
    exact ⟨rfl, rfl, rfl, rfl⟩

/-- Three runs on the descriptor-level handler. Run 1: `/f` is opened as
descriptors 3 and 4, which share a `FileControl`; 3 is closed and `/f` opened
again, as 3, which gets a second `FileControl`; both are keyed, 128 bytes are
written through 4, and a read through 3 at the same offset returns 0 bytes.
Run 2: on a host file `/g` whose header does not verify, `SetMasterKey` fails
but leaves the key installed, and a write through the descriptor, whose
metadata were never deserialized, returns 128 and changes the file. -/
theorem secure_handles_diverge :
    (let first := Storage.secureOpen Storage.empty "/f" true false false
    let second := Storage.secureOpen first.2 "/f" true false false
    let closed := Storage.secureClose second.2 3
    let third := Storage.secureOpen closed.2 "/f" true false false
    let keyed := Storage.setMasterKeyFd sampleBackend
      (Storage.setMasterKeyFd sampleBackend third.2 4 sampleKey).2 3 sampleKey
    let written := Storage.secureWriteFd sampleBackend keyed.2 4 (List.replicate kBlockLength 9)
      kBlockLength (List.replicate kBlockLength 0)
    first.1 = 3 ∧ second.1 = 4 ∧ (Storage.lookupControl second.2 3).map Prod.fst = some 0 ∧
      (Storage.lookupControl second.2 4).map Prod.fst = some 0 ∧ closed.1 = 0 ∧ third.1 = 3 ∧
      (Storage.lookupControl third.2 4).map Prod.fst = some 0 ∧
      (Storage.lookupControl third.2 3).map Prod.fst = some 1 ∧
      (Storage.setMasterKeyFd sampleBackend third.2 4 sampleKey).1 = 0 ∧ keyed.1 = 0 ∧
      written.1 = kBlockLength ∧
      (Storage.secureReadFd sampleBackend written.2 3 (List.replicate kBlockLength 0) kBlockLength).1 = 0) ∧
    (let corrupt : Storage := ⟨[], [], [], ⟨[("/g", List.replicate kFileHashLength 1 ++ LittleEndian.encode 8 0)], []⟩⟩
    let opened := Storage.secureOpen corrupt "/g" false false false
    let failed := Storage.setMasterKeyFd sampleBackend opened.2 3 sampleKey
    let written := Storage.secureWriteFd sampleBackend failed.2 3 (List.replicate kBlockLength 9)
      kBlockLength (List.replicate kBlockLength 0)
    opened.1 = 3 ∧ failed.1 = -1 ∧
      (Storage.lookupControl failed.2 3).map (fun found => found.2.2.masterKey) = some (some sampleKey) ∧
      (Storage.lookupControl failed.2 3).map (fun found => found.2.2.isDeserialized) = some false ∧
      written.1 = kBlockLength ∧ written.2.host.file "/g" ≠ failed.2.host.file "/g") := by
  decide +kernel

end Asylo.SecureStorageProofs
