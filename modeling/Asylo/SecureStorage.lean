import Asylo.AeadHandler

/-! Secure storage across descriptors (`enclave_storage_secure.cc` and the maps
of `AeadHandler`): `fmap_` from a descriptor to its `FileControl`,
`opened_files_` from a path to the `FileControl` of its open descriptors, and
the untrusted host's files and descriptors.

A `std::shared_ptr<FileControl>` is an index into the list of the
`FileControl`s created so far, each with the path it was made for; two
descriptors share a `FileControl` exactly when they map to the same index. The
maps are association lists with the `std::map` operations they use. -/
namespace Asylo.AeadHandler
open PosixFile

section Maps

variable {κ ν : Type} [BEq κ]

/-- `std::map::emplace(key, value)`: an entry already there is kept. -/
def emplace (entries : List (κ × ν)) (key : κ) (value : ν) : List (κ × ν) :=
  if (entries.lookup key).isSome then entries else entries ++ [(key, value)]

/-- `std::map::erase(key)`. -/
def eraseKey (entries : List (κ × ν)) (key : κ) : List (κ × ν) :=
  entries.filter fun entry => !(entry.1 == key)

variable [LawfulBEq κ]

@[simp] theorem lookup_eraseKey_self (entries : List (κ × ν)) (key : κ) :
    (eraseKey entries key).lookup key = none := by
  induction entries with
  | nil => rfl
  | cons entry entries ih =>
    by_cases same : entry.1 = key
    · simpa [eraseKey, same] using ih
    · simpa [eraseKey, same, List.lookup_cons, Ne.symm same] using ih

theorem lookup_eraseKey_of_ne {other key : κ} (distinct : other ≠ key) (entries : List (κ × ν)) :
    (eraseKey entries key).lookup other = entries.lookup other := by
  induction entries with
  | nil => rfl
  | cons entry entries ih =>
    obtain ⟨k, v⟩ := entry
    by_cases same : k = key
    · subst same
      have differs : (other == k) = false := beq_eq_false_iff_ne.mpr distinct
      simpa [eraseKey, List.lookup_cons, differs] using ih
    · by_cases found : other = k
      · simp [eraseKey, same, found]
      · have differs : (other == k) = false := beq_eq_false_iff_ne.mpr found
        simpa [eraseKey, same, List.lookup_cons, differs] using ih

omit [LawfulBEq κ] in
theorem emplace_of_lookup_none {entries : List (κ × ν)} {key : κ} (missing : entries.lookup key = none)
    (value : ν) : emplace entries key value = entries ++ [(key, value)] := by
  simp [emplace, missing]

theorem lookup_append_self {entries : List (κ × ν)} {key : κ} (missing : entries.lookup key = none)
    (value : ν) : (entries ++ [(key, value)]).lookup key = some value := by
  simp [List.lookup_append, missing]

theorem lookup_append_of_ne {other key : κ} (distinct : other ≠ key) (entries : List (κ × ν))
    (value : ν) : (entries ++ [(key, value)]).lookup other = entries.lookup other := by
  have differs : (other == key) = false := beq_eq_false_iff_ne.mpr distinct
  simp [List.lookup_append, List.lookup_cons, differs]

omit [LawfulBEq κ] in
theorem emplace_of_isSome {entries : List (κ × ν)} {key : κ} (present : (entries.lookup key).isSome)
    (value : ν) : emplace entries key value = entries := by
  simp [emplace, present]

/-- After an `emplace`, its key and every key there before are in the map. -/
theorem isSome_lookup_emplace {entries : List (κ × ν)} {key other : κ}
    (present : other = key ∨ (entries.lookup other).isSome) (value : ν) :
    ((emplace entries key value).lookup other).isSome := by
  by_cases there : (entries.lookup other).isSome
  · by_cases kept : (entries.lookup key).isSome
    · rwa [emplace_of_isSome kept]
    · obtain ⟨found, lookedUp⟩ := Option.isSome_iff_exists.mp there
      rw [emplace_of_lookup_none (Option.not_isSome_iff_eq_none.mp kept), List.lookup_append, lookedUp]
      rfl
  · have same : other = key := present.resolve_right there
    subst same
    rw [emplace_of_lookup_none (Option.not_isSome_iff_eq_none.mp there),
      lookup_append_self (Option.not_isSome_iff_eq_none.mp there)]
    rfl

omit [LawfulBEq κ] in
/-- `map[key] = value`: the entry is set, whether or not it was there. -/
def assign (entries : List (κ × ν)) (key : κ) (value : ν) : List (κ × ν) :=
  (key, value) :: eraseKey entries key

@[simp] theorem lookup_assign_self (entries : List (κ × ν)) (key : κ) (value : ν) :
    (assign entries key value).lookup key = some value := by
  simp [assign]

theorem lookup_assign_of_ne {other key : κ} (distinct : other ≠ key) (entries : List (κ × ν))
    (value : ν) : (assign entries key value).lookup other = entries.lookup other := by
  have differs : (other == key) = false := beq_eq_false_iff_ne.mpr distinct
  simp [assign, List.lookup_cons, differs, lookup_eraseKey_of_ne distinct]

end Maps

/-- The untrusted host: its files by path, and its open descriptors, each with
the path it was opened on and its offset. -/
structure Host where
  files : List (String × Bytes)
  descriptors : List (Int × String × Nat)
  deriving DecidableEq

namespace Host

variable (host : Host)

/-- The bytes of a file; a missing file reads as empty. -/
def file (path : String) : Bytes := (host.files.lookup path).getD []

def setFile (path : String) (data : Bytes) : Host :=
  { host with files := host.files.map fun entry => if entry.1 = path then (path, data) else entry }

def setCursor (fd : Int) (cursor : Nat) : Host :=
  { host with descriptors := host.descriptors.map fun entry =>
      if entry.1 = fd then (fd, entry.2.1, cursor) else entry }

/-- The lowest descriptor from 3 on that is not open. Of the first
`descriptors.length + 1` candidates one is free. -/
def freshDescriptor : Int :=
  let free : Nat → Bool := fun n => (host.descriptors.lookup ((3 + n : Nat) : Int)).isNone
  ((3 + ((List.range (host.descriptors.length + 1)).find? free).getD host.descriptors.length : Nat) : Int)

/-- `enc_untrusted_open(path, flags, mode)`: an existing file, or with
`O_CREAT` a new empty one, on a fresh descriptor at offset 0. -/
def openFile (path : String) (create : Bool) : Option (Int × Host) :=
  let fd := host.freshDescriptor
  match host.files.lookup path with
  | some _ => some (fd, { host with descriptors := host.descriptors ++ [(fd, path, 0)] })
  | none =>
    if create then
      some (fd, { files := host.files ++ [(path, [])], descriptors := host.descriptors ++ [(fd, path, 0)] })
    else none

/-- `enc_untrusted_close(fd)`. -/
def close (fd : Int) : Option Host :=
  if (host.descriptors.lookup fd).isSome then
    some { host with descriptors := eraseKey host.descriptors fd }
  else none

end Host

/-- `IsPathNameValid`: a non-empty absolute path. -/
def isPathNameValid (path : String) : Bool :=
  match path.toList with
  | '/' :: _ => true
  | _ => false

/-- The handler's state with the host. -/
structure Storage where
  controls : List (String × FileControl)
  fmap : List (Int × Nat)
  openedFiles : List (String × Nat)
  host : Host
  deriving DecidableEq

namespace Storage

variable (B : Backend) (st : Storage)

/-- No file open and none on the host. -/
def empty : Storage := ⟨[], [], [], ⟨[], []⟩⟩

/-- `fmap_.find(fd)`, with the `FileControl` it points to and its path. -/
def lookupControl (fd : Int) : Option (Nat × String × FileControl) :=
  match st.fmap.lookup fd with
  | none => none
  | some id => (st.controls[id]?).map fun (path, fc) => (id, path, fc)

/-- `AeadHandler::InitializeFile(fd, path, is_new_file)`: a path with open
descriptors shares their `FileControl`; any other gets a new one. -/
def initializeFile (fd : Int) (path : String) (isNewFile : Bool) : Bool × Storage :=
  if !isPathNameValid path then (false, st)
  else if (st.fmap.lookup fd).isSome then (false, st)
  else
    let (id, controls) :=
      match st.openedFiles.lookup path with
      | some id => (id, st.controls)
      | none => (st.controls.length, st.controls ++ [(path, FileControl.init isNewFile)])
    (true, { st with controls := controls, fmap := emplace st.fmap fd id,
                     openedFiles := emplace st.openedFiles path id })

/-- `secure_open(path, flags)`: the file is new when the host has no file at
`path`; the descriptor is moved to logical offset 0 and registered, and closed
again when registration fails. -/
def secureOpen (path : String) (create append truncate : Bool) : Int × Storage :=
  if append ∨ truncate then (-1, st)
  else
    let isNewFile := (st.host.files.lookup path).isNone
    match st.host.openFile path create with
    | none => (-1, st)
    | some (fd, host) =>
      let host := host.setCursor fd (offsetTranslator.logicalToPhysical 0).toNat
      match initializeFile { st with host := host } fd path isNewFile with
      | (false, st) => (-1, { st with host := (st.host.close fd).getD st.host })
      | (true, st) => (fd, st)

/-- `AeadHandler::FinalizeFile(fd)`: drops the descriptor and the path of its
`FileControl`. -/
def finalizeFile (fd : Int) : Bool × Storage :=
  if fd < 0 then (false, st)
  else
    match st.lookupControl fd with
    | none => (false, st)
    | some (_, path, _) =>
      (true, { st with openedFiles := eraseKey st.openedFiles path, fmap := eraseKey st.fmap fd })

/-- `secure_close(fd)`: the host descriptor is closed only after a successful
`FinalizeFile`. -/
def secureClose (fd : Int) : Int × Storage :=
  match finalizeFile st fd with
  | (false, st) => (-1, st)
  | (true, st) =>
    match st.host.close fd with
    | none => (-1, st)
    | some host => (0, { st with host := host })

/-- `AeadHandler::SetMasterKey(fd, key, key_length)` on the file of `fd`. -/
def setMasterKeyFd (fd : Int) (key : Bytes) : Int × Storage :=
  if key.length ≠ kKeyLength then (-1, st)
  else
    match st.lookupControl fd with
    | none => (-1, st)
    | some (id, path, fc) =>
      let (fc, disk, result) := setMasterKey B fc (st.host.file path) key
      (result, { st with controls := st.controls.set id (path, fc), host := st.host.setFile path disk })

/-- `AeadHandler::RetrieveLogicalOffset(fd)` with the descriptor's file and
physical offset. -/
def retrieveDescriptor (fd : Int) : Option (String × Nat × Nat) :=
  if fd < 0 then none
  else
    match st.host.descriptors.lookup fd with
    | none => none
    | some (path, cursor) => (retrieveLogicalOffset cursor).map fun logical => (path, cursor, logical)

/-- `secure_read(fd, buf, count)`: the result and the caller's buffer. -/
def secureReadFd (fd : Int) (buf : Bytes) (count : Nat) : Int × Bytes × Storage :=
  match st.retrieveDescriptor fd with
  | none => (-1, buf, st)
  | some (path, cursor, logicalOffset) =>
    match st.lookupControl fd with
    | none => (-1, buf, st)
    | some (_, _, fc) =>
      let (result, cursor, buf) :=
        decryptAndVerifyInternal B fc (st.host.file path) cursor buf count logicalOffset
      (result, buf, { st with host := st.host.setCursor fd cursor })

/-- `secure_write(fd, buf, count)`. -/
def secureWriteFd (fd : Int) (buf : Bytes) (count : Nat) (stale : Bytes) : Int × Storage :=
  match st.retrieveDescriptor fd with
  | none => (-1, st)
  | some (path, cursor, logicalOffset) =>
    match st.lookupControl fd with
    | none => (-1, st)
    | some (id, controlPath, fc) =>
      let (fc, disk, cursor, result) :=
        encryptAndPersistAt B fc (st.host.file path) cursor buf count logicalOffset stale
      (result, { st with controls := st.controls.set id (controlPath, fc),
                         host := (st.host.setFile path disk).setCursor fd cursor })

variable {B st}

/-- A registered descriptor points into the list of `FileControl`s. -/
theorem lookupControl_lt {fd : Int} {id : Nat} {path : String} {fc : FileControl}
    (found : st.lookupControl fd = some (id, path, fc)) : id < st.controls.length := by
  unfold lookupControl at found
  cases entry : st.fmap.lookup fd with
  | none => simp [entry] at found
  | some id' =>
    simp only [entry, Option.map_eq_some_iff] at found
    obtain ⟨⟨path', fc'⟩, present, same⟩ := found
    simp only [Prod.mk.injEq] at same
    rw [← same.1]
    exact (List.getElem?_eq_some_iff.mp present).1

/-- A registration that succeeds had a valid path and a free descriptor, and
maps the descriptor to the path's `FileControl`, a new one when the path had
none. -/
theorem initializeFile_ok {fd : Int} {path : String} {isNewFile : Bool}
    (ok : (st.initializeFile fd path isNewFile).1 = true) :
    isPathNameValid path = true ∧ st.fmap.lookup fd = none ∧
      (st.initializeFile fd path isNewFile).2 =
        match st.openedFiles.lookup path with
        | some id => { st with fmap := st.fmap ++ [(fd, id)] }
        | none => { st with controls := st.controls ++ [(path, FileControl.init isNewFile)],
                            fmap := st.fmap ++ [(fd, st.controls.length)],
                            openedFiles := st.openedFiles ++ [(path, st.controls.length)] } := by
  unfold initializeFile at ok ⊢
  by_cases valid : isPathNameValid path = true
  · by_cases taken : (st.fmap.lookup fd).isSome = true
    · simp [valid, taken] at ok
    · have free : st.fmap.lookup fd = none := Option.not_isSome_iff_eq_none.mp taken
      refine ⟨valid, free, ?_⟩
      cases opened : st.openedFiles.lookup path with
      | none => simp [valid, free, opened, emplace_of_lookup_none]
      | some id => simp [valid, free, opened, emplace]
  · simp [valid] at ok

/-- A `secure_open` that returns a descriptor got it from the host and
registered it. -/
theorem secureOpen_ok {path : String} {create append truncate : Bool}
    (opened : 0 ≤ (st.secureOpen path create append truncate).1) :
    ∃ fd host, st.host.openFile path create = some (fd, host) ∧
      (initializeFile { st with host := host.setCursor fd (offsetTranslator.logicalToPhysical 0).toNat }
        fd path (st.host.files.lookup path).isNone).1 = true ∧
      st.secureOpen path create append truncate =
        (fd, (initializeFile { st with host := host.setCursor fd (offsetTranslator.logicalToPhysical 0).toNat }
          fd path (st.host.files.lookup path).isNone).2) := by
  unfold secureOpen at opened ⊢
  by_cases flags : append = true ∨ truncate = true
  · simp [flags] at opened
  · cases hostOpened : st.host.openFile path create with
    | none => simp [flags, hostOpened] at opened
    | some result =>
      obtain ⟨fd, host⟩ := result
      simp only [flags, hostOpened, if_false] at opened ⊢
      generalize registered : initializeFile _ fd path _ = registration at opened ⊢
      obtain ⟨ok, st'⟩ := registration
      cases ok
      · simp at opened
      · exact ⟨fd, host, rfl, by rw [registered], by rw [registered]⟩

/-- `FinalizeFile` on a registered descriptor drops it and its path. -/
theorem finalizeFile_of_lookupControl {fd : Int} {id : Nat} {path : String} {fc : FileControl}
    (nonneg : 0 ≤ fd) (found : st.lookupControl fd = some (id, path, fc)) :
    st.finalizeFile fd =
      (true, { st with openedFiles := eraseKey st.openedFiles path, fmap := eraseKey st.fmap fd }) := by
  simp [finalizeFile, found, Int.not_lt.mpr nonneg]

/-- `secure_close` of a registered descriptor drops it and its path from the
maps, whatever the host's `close` returns. -/
theorem secureClose_maps {fd : Int} {id : Nat} {path : String} {fc : FileControl}
    (nonneg : 0 ≤ fd) (found : st.lookupControl fd = some (id, path, fc)) :
    (st.secureClose fd).2.controls = st.controls ∧
      (st.secureClose fd).2.fmap = eraseKey st.fmap fd ∧
      (st.secureClose fd).2.openedFiles = eraseKey st.openedFiles path := by
  unfold secureClose
  rw [finalizeFile_of_lookupControl nonneg found]
  dsimp only
  split <;> simp

end Storage

end Asylo.AeadHandler
