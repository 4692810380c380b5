import Asylo.OffsetTranslator
import Asylo.PosixFile
import Asylo.LittleEndian

/-! The AEAD handler of secure storage (`aead_handler.cc`,
`enclave_storage_secure.cc`). A secure file on the untrusted host is a header
holding the logical size and a CMAC over the Merkle root, followed by blocks of
ciphertext, tag and token. The handler keeps the Merkle leaves (one per physical
block) in a `FileControl`, reads and writes through bounce blocks at misaligned
range ends, and marks blocks of a sparse region by a leaf equal to `zero_hash`.

The untrusted host is an honest POSIX file (`PosixFile`), threaded explicitly
together with the descriptor's offset. The GCM cryptor, the CMAC and the Merkle
tree are parameters, bundled in `Backend`; their result sizes are fields, so a
backend that violates them cannot be built. -/
namespace Asylo.AeadHandler
open PosixFile

/-- Bytes as they cross the enclave boundary. -/
abbrev Bytes := List UInt8

def kBlockLength : Nat := 128
def kTagLength : Nat := 16
def kTokenLength : Nat := 44
def kKeyLength : Nat := 32
def kCipherBlockLength : Nat := kBlockLength + kTagLength
def kSecureBlockLength : Nat := kCipherBlockLength + kTokenLength
def kRootHashLength : Nat := 32
def kFileHashLength : Nat := 16

/-- `sizeof(FileHeader)`: the packed file hash and the 8-byte logical size. -/
def kFileHeaderLength : Nat := kFileHashLength + 8

/-- The layout `OffsetTranslator::Create(sizeof(FileHeader), kBlockLength,
kSecureBlockLength)` accepts in the handler's constructor. -/
def offsetTranslator : OffsetTranslator :=
  ⟨kFileHeaderLength, kBlockLength, kSecureBlockLength, by decide, by decide, by decide⟩

/-- `GcmCryptor` at block level: `EncryptBlock` yields the ciphertext with its
tag and the token, `DecryptBlock` opens them, `GetAuthTag` is the CMAC. -/
structure GcmCryptor where
  encryptBlock : Bytes → Option (Bytes × Bytes)
  decryptBlock : Bytes → Bytes → Option Bytes
  getAuthTag : Bytes → Option Bytes
  encrypt_length : ∀ {plaintext ciphertext token}, encryptBlock plaintext = some (ciphertext, token) →
    ciphertext.length = kCipherBlockLength ∧ token.length = kTokenLength
  decrypt_length : ∀ {ciphertext token plaintext}, decryptBlock ciphertext token = some plaintext →
    plaintext.length = kBlockLength
  authTag_length : ∀ {data tag}, getAuthTag data = some tag → tag.length = kFileHashLength

/-- What the handler takes from outside its own source: the Merkle tree's leaf
hash and root, and `GcmCryptorRegistry::GetGcmCryptor` for a master key. -/
structure Backend where
  leafHash : Bytes → Bytes
  currentRoot : List Bytes → Bytes
  getGcmCryptor : Bytes → Option GcmCryptor
  leafHash_length : ∀ data, (leafHash data).length = kRootHashLength

/-- `FileControl`: the in-enclave state of one opened secure file. The
authenticated dictionary is its list of leaf hashes, leaf `i` at index `i - 1`. -/
structure FileControl where
  logicalSize : Nat
  isNew : Bool
  isDeserialized : Bool
  ad : List Bytes
  masterKey : Option Bytes
  deriving DecidableEq

/-- The `FileControl` constructor. -/
def FileControl.init (isNewFile : Bool) : FileControl :=
  ⟨0, isNewFile, false, [], none⟩

variable (B : Backend)

/-- `zero_hash`: the leaf hash of an all-zero tag, marking sparse blocks. -/
def zeroHash : Bytes := B.leafHash (List.replicate kTagLength 0)

/-- `MerkleTree::LeafHash(leaf)`: the empty string outside `1..LeafCount()`. -/
def leafHashAt (ad : List Bytes) (leaf : Nat) : Bytes :=
  if leaf = 0 then [] else (ad[leaf - 1]?).getD []

/-- `UpdateLeaf(leaf, data)`: replaces leaf `leaf` when it exists. -/
def updateLeaf (ad : List Bytes) (leaf : Int) (data : Bytes) : List Bytes :=
  if 1 ≤ leaf then ad.set (leaf.toNat - 1) (B.leafHash data) else ad

/-- `FileControl::physical_size`. -/
def physicalSize (fc : FileControl) : Nat :=
  kFileHeaderLength + fc.ad.length * kSecureBlockLength

/-- `AeadHandler::GetGcmCryptor`. -/
def getGcmCryptor (fc : FileControl) : Option GcmCryptor :=
  fc.masterKey.bind B.getGcmCryptor

/-- The header bytes `UpdateDigest` writes: the CMAC over the root and the
logical size, then the logical size. -/
def digestHeader (cryptor : GcmCryptor) (root : Bytes) (logicalSize : Nat) : Option Bytes :=
  (cryptor.getAuthTag (root.take kRootHashLength ++ LittleEndian.encode 8 logicalSize)).map
    (· ++ LittleEndian.encode 8 logicalSize)

/-- `AeadHandler::UpdateDigest`: the disk after writing a fresh header at offset 0. -/
def updateDigest (fc : FileControl) (cryptor : GcmCryptor) (disk : Bytes) : Option Bytes :=
  let root := B.currentRoot fc.ad
  if root.length ≠ kRootHashLength then none
  else (digestHeader cryptor root fc.logicalSize).map (write disk 0)

/-- `GetPlaintextBuffer`: where full block `blockIndex` of a range starts in the
caller's buffer. -/
def getPlaintextBuffer (firstPartial blockIndex : Nat) : Nat :=
  if firstPartial > 0 then
    (if blockIndex > 0 then firstPartial else 0) +
      (if blockIndex > 1 then (blockIndex - 1) * kBlockLength else 0)
  else blockIndex * kBlockLength

/-- Where `DecryptAndVerifyInternal` leaves the cursor after a short read. -/
def readEndOffset (bd : OffsetTranslator.Breakdown) (logicalOffset count bytesRead
    physicalBytesCount : Nat) : Int :=
  if bytesRead ≠ physicalBytesCount then
    let blocksNotRead : Int := (physicalBytesCount - bytesRead) / kSecureBlockLength
    let (newCur, blocksNotRead) :=
      if bd.lastPartialBlockBytesCount > 0 then
        ((logicalOffset + count : Int) - bd.lastPartialBlockBytesCount, blocksNotRead - 1)
      else ((logicalOffset + count : Int), blocksNotRead)
    newCur - blocksNotRead * kBlockLength
  else logicalOffset + count

/-- One iteration of the block loop of `DecryptAndVerifyInternal`: a sparse
block is zero-filled without decryption, any other block must carry the tag of
its leaf and decrypt, and the range's end blocks go through a bounce block. A
failure carries the buffer as it stood. -/
def decryptBlockAt (fc : FileControl) (cryptor : GcmCryptor) (bd : OffsetTranslator.Breakdown)
    (firstBlockIndex blocksReadMax : Nat) (buffer : Bytes) (acc : Nat × Bytes) (blockIndex : Nat) :
    Except Bytes (Nat × Bytes) :=
  let (readCount, buf) := acc
  let merkleBlockIdx := firstBlockIndex + blockIndex + 1
  let target := getPlaintextBuffer bd.firstPartialBlockBytesCount blockIndex
  if leafHashAt fc.ad merkleBlockIdx = zeroHash B then
    .ok (readCount + kBlockLength, write buf target (List.replicate kBlockLength 0))
  else
    let base := blockIndex * kSecureBlockLength
    let ciphertext := (buffer.drop base).take kCipherBlockLength
    let tag := (buffer.drop (base + kBlockLength)).take kTagLength
    let token := (buffer.drop (base + kCipherBlockLength)).take kTokenLength
    if leafHashAt fc.ad merkleBlockIdx ≠ B.leafHash tag then .error buf
    else
      match cryptor.decryptBlock ciphertext token with
      | none => .error buf
      | some plaintext =>
        if blockIndex = 0 ∧ bd.firstPartialBlockBytesCount > 0 then
          .ok (readCount + bd.firstPartialBlockBytesCount,
            write buf target ((plaintext.drop (kBlockLength - bd.firstPartialBlockBytesCount)).take
              bd.firstPartialBlockBytesCount))
        else if blockIndex = blocksReadMax - 1 ∧ bd.lastPartialBlockBytesCount > 0 then
          .ok (readCount + bd.lastPartialBlockBytesCount,
            write buf target (plaintext.take bd.lastPartialBlockBytesCount))
        else .ok (readCount + kBlockLength, write buf target plaintext)

/-- `AeadHandler::DecryptAndVerifyInternal` on a descriptor at `cursor` whose
logical position is `logicalOffset`: the return value (`-1` on failure), the
descriptor's new offset and the caller's buffer. -/
def decryptAndVerifyInternal (fc : FileControl) (disk : Bytes) (cursor : Nat) (buf : Bytes)
    (count logicalOffset : Nat) : Int × Nat × Bytes :=
  if count = 0 then (0, cursor, buf)
  else if logicalOffset ≥ fc.logicalSize then (0, cursor, buf)
  else
    let count := if logicalOffset + count ≥ fc.logicalSize then fc.logicalSize - logicalOffset
      else count
    let bd := offsetTranslator.reduceLogicalRangeToFullLogicalBlocks logicalOffset count
    let physicalBytesCount :=
      (bd.fullInclusiveBlocksBytesCount / kBlockLength) * kSecureBlockLength
    let firstLogicalBlockOffset : Int :=
      if bd.firstPartialBlockBytesCount > 0 then
        (logicalOffset + bd.firstPartialBlockBytesCount : Int) - kBlockLength
      else logicalOffset
    let firstPhysicalBlockOffset := offsetTranslator.logicalToPhysical firstLogicalBlockOffset
    let seeked :=
      if bd.firstPartialBlockBytesCount > 0 then lseek disk cursor firstPhysicalBlockOffset .seekSet
      else some cursor
    match seeked with
    | none => (-1, cursor, buf)
    | some cursor =>
      let bytes := read disk cursor physicalBytesCount
      let cursor := cursor + bytes.length
      let bytesRead := (bytes.length / kSecureBlockLength) * kSecureBlockLength
      if bytes.length = 0 ∨ bytesRead = 0 then (-1, cursor, buf)
      else
        let newCurPhysical := offsetTranslator.logicalToPhysical
          (readEndOffset bd logicalOffset count bytesRead physicalBytesCount)
        match lseek disk cursor newCurPhysical .seekSet with
        | none => (-1, cursor, buf)
        | some cursor =>
          match getGcmCryptor B fc with
          | none => (-1, cursor, buf)
          | some cryptor =>
            let firstBlockIndex :=
              ((firstPhysicalBlockOffset - kFileHeaderLength) / kSecureBlockLength).toNat
            match (List.range (bytesRead / kSecureBlockLength)).foldlM
                (decryptBlockAt B fc cryptor bd firstBlockIndex
                  (physicalBytesCount / kSecureBlockLength) bytes) (0, buf) with
            | .error buf => (-1, cursor, buf)
            | .ok (readCount, buf) => (readCount, cursor, buf)

/-- `AeadHandler::ReadFullBlock`: decrypts the block at an aligned logical
offset through a fresh descriptor and zero-fills what lies past the logical
end. A failed decryption converts the `-1` it returns to `true`. -/
def readFullBlock (fc : FileControl) (disk : Bytes) (logicalOffset : Int) (block : Bytes) :
    Bool × Bytes :=
  if logicalOffset < 0 ∨ logicalOffset % kBlockLength ≠ 0 then (false, block)
  else
    match lseek disk 0 (offsetTranslator.logicalToPhysical logicalOffset) .seekSet with
    | none => (false, block)
    | some cursor =>
      let (bytesRead, _, block) :=
        decryptAndVerifyInternal B fc disk cursor block kBlockLength logicalOffset.toNat
      if bytesRead = -1 then (true, block)
      else if bytesRead < kBlockLength then
        (true, write block bytesRead.toNat (List.replicate (kBlockLength - bytesRead.toNat) 0))
      else (true, block)

/-- The bounce blocks of `EncryptAndPersist`: the first and last misaligned
blocks read back in full and overlaid with the caller's bytes. `stale` is what
a bounce block holds before it is read into. -/
def boundaryBlocks (fc : FileControl) (disk : Bytes) (buf : Bytes) (count logicalOffset : Nat)
    (bd : OffsetTranslator.Breakdown) (stale : Bytes) : Option (Bytes × Bytes) :=
  let first := bd.firstPartialBlockBytesCount
  let last := bd.lastPartialBlockBytesCount
  let firstBlock :=
    if first > 0 then
      let (ok, block) := readFullBlock B fc disk ((logicalOffset + first : Int) - kBlockLength) stale
      if ok then some (write block (kBlockLength - first) (buf.take first)) else none
    else some stale
  let lastBlock :=
    if last > 0 then
      let (ok, block) := readFullBlock B fc disk ((logicalOffset + count - last : Nat) : Int) stale
      if ok then some (write block 0 ((buf.drop (count - last)).take last)) else none
    else some stale
  match firstBlock, lastBlock with
  | some firstBlock, some lastBlock => some (firstBlock, lastBlock)
  | _, _ => none

/-- The plaintext of full block `blockIndex` of a write: a bounce block at a
misaligned end of the range, the caller's bytes elsewhere. -/
def encryptSource (bd : OffsetTranslator.Breakdown) (blocksToWrite : Nat)
    (buf firstBlock lastBlock : Bytes) (blockIndex : Nat) : Bytes :=
  if blockIndex = 0 ∧ bd.firstPartialBlockBytesCount > 0 then firstBlock.take kBlockLength
  else if blockIndex = blocksToWrite - 1 ∧ bd.lastPartialBlockBytesCount > 0 then
    lastBlock.take kBlockLength
  else (buf.drop (getPlaintextBuffer bd.firstPartialBlockBytesCount blockIndex)).take kBlockLength

/-- The leaves before the write and the index of its first block:
`EncryptAndPersist` appends a `zero_hash` leaf for every block of a sparse gap
between the old end and the write. -/
def extendSparse (fc : FileControl) (firstPhysicalBlockOffset : Int) : List Bytes × Int :=
  let eofBlockIndex : Int := fc.ad.length
  if firstPhysicalBlockOffset > physicalSize fc then
    let sparseBlocksCount := (firstPhysicalBlockOffset - physicalSize fc).toNat / kSecureBlockLength
    (fc.ad ++ List.replicate sparseBlocksCount (zeroHash B), eofBlockIndex + sparseBlocksCount)
  else
    let blocksToEof := (physicalSize fc - firstPhysicalBlockOffset).toNat / kSecureBlockLength
    (fc.ad, eofBlockIndex - blocksToEof)

/-- The leaf updates closing `EncryptAndPersist`: a block before the old end
replaces its leaf, a later one is appended. -/
def recordTags (ad : List Bytes) (eofBlockIndex startBlockToWrite : Int) :
    List Bytes → List Bytes
  | [] => ad
  | tag :: tags =>
    let ad :=
      if startBlockToWrite < eofBlockIndex then updateLeaf B ad (startBlockToWrite + 1) tag
      else ad ++ [B.leafHash tag]
    recordTags ad eofBlockIndex (startBlockToWrite + 1) tags

/-- `AeadHandler::EncryptAndPersist` on a descriptor at `cursor` whose logical
position is `logicalOffset`: the new file control, disk and offset, and the
return value (`-1` on failure). Failures keep the changes made before them. -/
def encryptAndPersistAt (fc : FileControl) (disk : Bytes) (cursor : Nat) (buf : Bytes)
    (count logicalOffset : Nat) (stale : Bytes) : FileControl × Bytes × Nat × Int :=
  if count = 0 then (fc, disk, cursor, 0)
  else
    let bd := offsetTranslator.reduceLogicalRangeToFullLogicalBlocks logicalOffset count
    match boundaryBlocks B fc disk buf count logicalOffset bd stale with
    | none => (fc, disk, cursor, -1)
    | some (firstBlock, lastBlock) =>
      let firstLogicalBlockOffset : Int :=
        if bd.firstPartialBlockBytesCount > 0 then
          (logicalOffset + bd.firstPartialBlockBytesCount : Int) - kBlockLength
        else logicalOffset
      let firstPhysicalBlockOffset := offsetTranslator.logicalToPhysical firstLogicalBlockOffset
      let eofBlockIndex : Int := fc.ad.length
      let (ad, startBlockToWrite) := extendSparse B fc firstPhysicalBlockOffset
      let fc := { fc with ad := ad }
      match getGcmCryptor B fc with
      | none => (fc, disk, cursor, -1)
      | some cryptor =>
        let blocksToWrite := bd.fullInclusiveBlocksBytesCount / kBlockLength
        match (List.range blocksToWrite).mapM (fun blockIndex => cryptor.encryptBlock
            (encryptSource bd blocksToWrite buf firstBlock lastBlock blockIndex)) with
        | none => (fc, disk, cursor, -1)
        | some sealed =>
          let seeked :=
            if bd.firstPartialBlockBytesCount > 0 then
              lseek disk cursor firstPhysicalBlockOffset .seekSet
            else some cursor
          match seeked with
          | none => (fc, disk, cursor, -1)
          | some cursor =>
            let buffer := (sealed.map fun (ciphertext, token) => ciphertext ++ token).flatten
            let disk := write disk cursor buffer
            let cursor := cursor + buffer.length
            let seeked :=
              if bd.lastPartialBlockBytesCount > 0 then
                lseek disk cursor (offsetTranslator.logicalToPhysical (logicalOffset + count : Nat))
                  .seekSet
              else some cursor
            match seeked with
            | none => (fc, disk, cursor, -1)
            | some cursor =>
              let tags := sealed.map fun (ciphertext, _) =>
                (ciphertext.drop kBlockLength).take kTagLength
              let fc := { fc with
                ad := recordTags B fc.ad eofBlockIndex startBlockToWrite tags
                logicalSize := logicalOffset + count }
              match updateDigest B fc cryptor disk with
              | none => (fc, disk, cursor, -1)
              | some disk => (fc, disk, cursor, count)

/-- The tags `Deserialize` collects: one per block the stored size claims,
read past each ciphertext; a short read fails with the leaves added so far. -/
def collectLeaves (disk : Bytes) : Nat → Nat → List Bytes → Bool × List Bytes
  | 0, _, ad => (true, ad)
  | remaining + 1, cursor, ad =>
    let tag := read disk (cursor + kBlockLength) kTagLength
    if tag.length ≠ kTagLength then (false, ad)
    else collectLeaves disk remaining (cursor + kSecureBlockLength) (ad ++ [B.leafHash tag])

/-- `AeadHandler::Deserialize`: a new file gets its first header; an existing
one has its leaves rebuilt from the stored tags and its header's CMAC checked
against the rebuilt root and the stored size. -/
def deserialize (fc : FileControl) (disk : Bytes) : FileControl × Bytes × Bool :=
  match getGcmCryptor B fc with
  | none => (fc, disk, false)
  | some cryptor =>
    if fc.isNew then
      match updateDigest B fc cryptor disk with
      | none => (fc, disk, false)
      | some disk => ({ fc with isNew := false }, disk, true)
    else
      let header := read disk 0 kFileHeaderLength
      if header.length ≠ kFileHeaderLength then (fc, disk, false)
      else
        let fileSize := LittleEndian.decode (header.drop kFileHashLength)
        let blocksCount := (fileSize + kBlockLength - 1) / kBlockLength
        let (ok, ad) := collectLeaves B disk blocksCount kFileHeaderLength fc.ad
        let fc := { fc with ad := ad }
        if !ok then (fc, disk, false)
        else
          match cryptor.getAuthTag
              ((B.currentRoot ad).take kRootHashLength ++ LittleEndian.encode 8 fileSize) with
          | none => (fc, disk, false)
          | some newHash =>
            if newHash ≠ header.take kFileHashLength then (fc, disk, false)
            else ({ fc with logicalSize := fileSize }, disk, true)

/-- `AeadHandler::SetMasterKey`: a deserialized file only accepts its own key;
otherwise the key is installed and the metadata loaded. -/
def setMasterKey (fc : FileControl) (disk : Bytes) (key : Bytes) : FileControl × Bytes × Int :=
  if key.length ≠ kKeyLength then (fc, disk, -1)
  else if fc.isDeserialized then
    if fc.masterKey ≠ some key then (fc, disk, -1) else (fc, disk, 0)
  else
    let (fc, disk, ok) := deserialize B { fc with masterKey := some key } disk
    if !ok then (fc, disk, -1) else ({ fc with isDeserialized := true }, disk, 0)

/-- One secure file opened through one descriptor: the handler's file control,
the untrusted file's bytes and the descriptor's physical offset. -/
structure SecureFile where
  control : FileControl
  disk : Bytes
  cursor : Nat
  deriving DecidableEq

/-- `AeadHandler::RetrieveLogicalOffset`. -/
def retrieveLogicalOffset (cursor : Nat) : Option Nat :=
  let logical := offsetTranslator.physicalToLogical cursor
  if logical = kInvalidOffset then none else some logical.toNat

/-- `secure_open` followed by `AeadHandler::InitializeFile` for a path that has
no open descriptor: the file is new when it does not exist yet, and the cursor
starts at logical offset 0. -/
def secureOpen (existing : Option Bytes) (create append truncate : Bool) : Option SecureFile :=
  if append ∨ truncate then none
  else
    match existing, create with
    | some disk, _ => some ⟨FileControl.init false, disk, kFileHeaderLength⟩
    | none, true => some ⟨FileControl.init true, [], kFileHeaderLength⟩
    | none, false => none

/-- `secure_lseek`. -/
def secureLseek (s : SecureFile) (offset : Int) (whence : Whence) : SecureFile × Int :=
  if offset < 0 then (s, -1)
  else
    let logical : Option Int :=
      match whence with
      | .seekSet => some offset
      | .seekCur =>
        (lseek s.disk s.cursor 0 .seekCur).map
          fun physical => offsetTranslator.physicalToLogical physical + offset
      | .seekEnd => some (s.control.logicalSize + offset)
    match logical with
    | none => (s, -1)
    | some logical =>
      match lseek s.disk s.cursor (offsetTranslator.logicalToPhysical logical) .seekSet with
      | none => (s, -1)
      | some cursor => ({ s with cursor := cursor }, offsetTranslator.physicalToLogical cursor)

/-- `secure_read`, that is `AeadHandler::DecryptAndVerify`. -/
def secureRead (s : SecureFile) (buf : Bytes) (count : Nat) : SecureFile × Int × Bytes :=
  match retrieveLogicalOffset s.cursor with
  | none => (s, -1, buf)
  | some logicalOffset =>
    let (result, cursor, buf) :=
      decryptAndVerifyInternal B s.control s.disk s.cursor buf count logicalOffset
    ({ s with cursor := cursor }, result, buf)

/-- `secure_write`, that is `AeadHandler::EncryptAndPersist`. -/
def secureWrite (s : SecureFile) (buf : Bytes) (count : Nat) (stale : Bytes) : SecureFile × Int :=
  match retrieveLogicalOffset s.cursor with
  | none => (s, -1)
  | some logicalOffset =>
    let (fc, disk, cursor, result) :=
      encryptAndPersistAt B s.control s.disk s.cursor buf count logicalOffset stale
    (⟨fc, disk, cursor⟩, result)

/-- The size `secure_fstat` reports, `AeadHandler::GetLogicalFileSize`. -/
def secureFstat (s : SecureFile) : Nat := s.control.logicalSize

/-- The key ioctl on the opened file. -/
def secureSetKey (s : SecureFile) (key : Bytes) : SecureFile × Int :=
  let (fc, disk, result) := setMasterKey B s.control s.disk key
  ({ s with control := fc, disk := disk }, result)

end Asylo.AeadHandler
