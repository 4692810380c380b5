import Asylo.IoManagerPaths
import Asylo.IndexScan

/-! The descriptor table of the `IOManager` (`platform/posix/io/io_manager.cc`,
`IOManager::FileDescriptorTable`) and the calls that change it: the open-like
calls, `Close`, `Dup`, `Dup2`, and `getrlimit`/`setrlimit` of
`RLIMIT_NOFILE`.

The table has `kMaxOpenFiles` slots, each empty or holding a
`shared_ptr<AutoCloseIOContext>`; slots that share one `AutoCloseIOContext`
refer to one open file description, and its destructor closes the context
when the last of them lets go. An `AutoCloseIOContext` is named here by a
number, with the context it wraps. New descriptors are taken below the soft
limit; the validity of a descriptor is checked against `kMaxOpenFiles`. -/
namespace Asylo.Io

/-- `kMaxOpenFiles`. -/
def kMaxOpenFiles : Nat := 1024

/-- A used slot: the `AutoCloseIOContext` it shares, by number, and the
context that object wraps. -/
structure Slot (Context : Type) where
  object : Nat
  context : Context

/-- `IOManager::FileDescriptorTable`. The soft limit stays at most the hard
limit and the hard limit at most `kMaxOpenFiles`; `nextObject` numbers the
next `AutoCloseIOContext`, and every slot holds one made before it. -/
structure FileDescriptorTable (Context : Type) where
  fdTable : Nat → Option (Slot Context)
  maximumFdSoftLimit : Nat
  maximumFdHardLimit : Nat
  nextObject : Nat
  softLeHard : maximumFdSoftLimit ≤ maximumFdHardLimit
  hardLeMax : maximumFdHardLimit ≤ kMaxOpenFiles
  objectsBelow : ∀ fd slot, fdTable fd = some slot → slot.object < nextObject

/-- `struct rlimit`. -/
structure RLimit where
  rlimCur : UInt64
  rlimMax : UInt64
  deriving DecidableEq, Repr

/-- The `resource` of `getrlimit` and `setrlimit`: `RLIMIT_NOFILE` or another. -/
inductive Resource
  | nofile
  | other
  deriving DecidableEq, Repr

/-- The value an `int` takes when it is compared with an `rlim_t`: the usual
arithmetic conversions make it unsigned, so `-1` is `2^64 - 1`. -/
def toRlimT (value : Int) : Nat := (value % 2 ^ 64).toNat

namespace FileDescriptorTable

variable {Context : Type}

/-- `FileDescriptorTable()`: every slot empty, both limits `kMaxOpenFiles`. -/
def init : FileDescriptorTable Context :=
  ⟨fun _ => none, kMaxOpenFiles, kMaxOpenFiles, 0, Nat.le_refl _, Nat.le_refl _, fun _ _ empty => by cases empty⟩

/-- `IsFileDescriptorValid(fd)`. -/
def isFileDescriptorValid (fd : Int) : Bool := decide (0 ≤ fd ∧ fd < kMaxOpenFiles)

/-- `Get(fd)`: the context of a valid, used descriptor. -/
def get (table : FileDescriptorTable Context) (fd : Int) : Option Context :=
  if isFileDescriptorValid fd then (table.fdTable fd.toNat).map Slot.context else none

/-- `IsFileDescriptorUnused(fd)`: false for a descriptor that is not valid. -/
def isFileDescriptorUnused (table : FileDescriptorTable Context) (fd : Int) : Bool :=
  isFileDescriptorValid fd && (table.fdTable fd.toNat).isNone

/-- `GetNextFreeFileDescriptor(startfd)`: the first empty slot from `startfd`
below the soft limit, `-1` when there is none. -/
def getNextFreeFileDescriptor (table : FileDescriptorTable Context) (startfd : Int) : Int :=
  if startfd < 0 then -1
  else
    ((IndexScan.first (fun i => (table.fdTable i).isNone) startfd.toNat
      (table.maximumFdSoftLimit - startfd.toNat)).map Int.ofNat).getD (-1)

/-- `GetHighestFileDescriptorUsed()`: the last used slot, `-1` when there is
none. -/
def getHighestFileDescriptorUsed (table : FileDescriptorTable Context) : Int :=
  ((IndexScan.last (fun i => (table.fdTable i).isSome) kMaxOpenFiles).map Int.ofNat).getD (-1)

/-- `fd_table_[fd] = slot`, for a slot holding an object that was made. -/
def write (table : FileDescriptorTable Context) (fd : Nat) (slot : Option (Slot Context))
    (made : ∀ held ∈ slot, held.object < table.nextObject) : FileDescriptorTable Context :=
  { table with
    fdTable := fun i => if i = fd then slot else table.fdTable i
    objectsBelow := fun i held found => by
      by_cases here : i = fd
      · rw [if_pos here] at found
        exact made held found
      · rw [if_neg here] at found
        exact table.objectsBelow i held found }

/-- `std::make_shared<AutoCloseIOContext>(context)`, stored at `fd`. -/
def writeNew (table : FileDescriptorTable Context) (fd : Nat) (context : Context) : FileDescriptorTable Context :=
  let made : FileDescriptorTable Context :=
    { table with
      nextObject := table.nextObject + 1
      objectsBelow := fun i held found => Nat.lt_succ_of_lt (table.objectsBelow i held found) }
  made.write fd (some ⟨table.nextObject, context⟩) fun held found => by
    cases found
    exact Nat.lt_succ_self _

/-- `Insert(context)`: the new descriptor, or `-1` when no slot below the soft
limit is empty. -/
def insert (table : FileDescriptorTable Context) (context : Context) : Int × FileDescriptorTable Context :=
  let fd := table.getNextFreeFileDescriptor 0
  if fd < 0 then (-1, table) else (fd, table.writeNew fd.toNat context)

/-- `fd_table_[newfd] = fd_table_[oldfd]`. -/
def copySlot (table : FileDescriptorTable Context) (oldfd newfd : Nat) : FileDescriptorTable Context :=
  table.write newfd (table.fdTable oldfd) fun held found => table.objectsBelow oldfd held found

/-- `CopyFileDescriptor(oldfd, startfd)`. -/
def copyFileDescriptor (table : FileDescriptorTable Context) (oldfd startfd : Int) :
    Int × FileDescriptorTable Context :=
  let newfd := table.getNextFreeFileDescriptor startfd
  if !isFileDescriptorValid oldfd || newfd == -1 then (-1, table)
  else (newfd, table.copySlot oldfd.toNat newfd.toNat)

/-- `CopyFileDescriptorToSpecifiedTarget(oldfd, newfd)`: `newfd` must be valid
and empty; the soft limit is not looked at. -/
def copyFileDescriptorToSpecifiedTarget (table : FileDescriptorTable Context) (oldfd newfd : Int) :
    Int × FileDescriptorTable Context :=
  if !isFileDescriptorValid oldfd || !isFileDescriptorValid newfd || (table.fdTable newfd.toNat).isSome then
    (-1, table)
  else (newfd, table.copySlot oldfd.toNat newfd.toNat)

/-- Whether some slot holds the `AutoCloseIOContext` numbered `object`. -/
def holds (table : FileDescriptorTable Context) (object : Nat) : Bool :=
  (IndexScan.first (fun i => (table.fdTable i).any (·.object == object)) 0 kMaxOpenFiles).isSome

/-- What `Delete` leaves: its result, the `AutoCloseIOContext` whose destructor
ran, if any, and the table. -/
structure Deleted (Context : Type) where
  closeResult : Int
  destroyed : Option Nat
  table : FileDescriptorTable Context

/-- `Delete(fd)`, where `close` is what `Close()` of each context returns.
Emptying the slot drops one reference to its `AutoCloseIOContext`; when no
slot holds it any more, its destructor closes the context, and a failure of
that `Close()` is written to `close_result`. -/
def delete (table : FileDescriptorTable Context) (close : Context → Int) (fd : Int) : Deleted Context :=
  if !isFileDescriptorValid fd then ⟨0, none, table⟩
  else
    let emptied := table.write fd.toNat none fun _ held => by cases held
    match table.fdTable fd.toNat with
    | none => ⟨0, none, emptied⟩
    | some slot =>
      if emptied.holds slot.object then ⟨0, none, emptied⟩
      else ⟨if close slot.context = -1 then -1 else 0, some slot.object, emptied⟩

/-- `SetFileDescriptorLimits(rlim)`: whether it succeeded, and the `errno` it
set. The highest descriptor is an `int` compared with an `rlim_t`. -/
def setFileDescriptorLimits (table : FileDescriptorTable Context) (rlim : RLimit) :
    Option Errno × FileDescriptorTable Context :=
  if rlim.rlimMax.toNat ≤ toRlimT table.getHighestFileDescriptorUsed then (some .EINVAL, table)
  else if h : rlim.rlimCur > rlim.rlimMax ∨ rlim.rlimMax.toNat > kMaxOpenFiles ∨
      rlim.rlimMax.toNat > table.maximumFdHardLimit then (some .EPERM, table)
  else
    (none, { table with
      maximumFdSoftLimit := rlim.rlimCur.toNat
      maximumFdHardLimit := rlim.rlimMax.toNat
      softLeHard := by
        have ordered : ¬ rlim.rlimCur > rlim.rlimMax := fun above => h (.inl above)
        rw [gt_iff_lt, UInt64.lt_iff_toNat_lt] at ordered
        omega
      hardLeMax := by omega })

end FileDescriptorTable

/-! ## The calls of the `IOManager` -/

/-- What a call of the `IOManager` returns, the `errno` it sets, the
`AutoCloseIOContext` whose destructor it ran, if any, and the table after it. -/
structure Outcome (Context : Type) where
  result : Int
  errno : Option Errno
  destroyed : Option Nat
  table : FileDescriptorTable Context

variable {Context : Type}

/-- An open-like call (`Open`, `Pipe`, `EventFd`, `EpollCreate`,
`RegisterHostFileDescriptor`) once it has its context: `Insert`, and the
`errno` that the call sets when the table is full. -/
def openLike (table : FileDescriptorTable Context) (context : Context) (whenFull : Option Errno) :
    Outcome Context :=
  let (fd, inserted) := table.insert context
  if fd ≥ 0 then ⟨fd, none, none, inserted⟩ else ⟨-1, whenFull, none, table⟩

/-- `CloseFileDescriptor(fd)`. -/
def closeFileDescriptor (table : FileDescriptorTable Context) (close : Context → Int) (fd : Int) :
    Outcome Context :=
  match table.get fd with
  | some _ =>
    let deleted := table.delete close fd
    ⟨deleted.closeResult, none, deleted.destroyed, deleted.table⟩
  | none => ⟨-1, some .EBADF, none, table⟩

/-- `Dup(oldfd)`. -/
def dup (table : FileDescriptorTable Context) (oldfd : Int) : Outcome Context :=
  if !table.isFileDescriptorUnused oldfd then
    let (ret, copied) := table.copyFileDescriptor oldfd 0
    ⟨ret, if ret < 0 then some .EINVAL else none, none, copied⟩
  else ⟨-1, some .EBADF, none, table⟩

/-- The end of `Dup2(oldfd, newfd)`, once `newfd` is free. -/
def dup2Copy (table : FileDescriptorTable Context) (destroyed : Option Nat) (oldfd newfd : Int) :
    Outcome Context :=
  let (ret, copied) := table.copyFileDescriptorToSpecifiedTarget oldfd newfd
  ⟨ret, if ret < 0 then some .EINVAL else none, destroyed, copied⟩

/-- `Dup2(oldfd, newfd)`: a `newfd` in use is closed first. -/
def dup2 (table : FileDescriptorTable Context) (close : Context → Int) (oldfd newfd : Int) : Outcome Context :=
  if !table.isFileDescriptorUnused oldfd then
    if oldfd = newfd then ⟨newfd, none, none, table⟩
    else if !table.isFileDescriptorUnused newfd then
      let closed := closeFileDescriptor table close newfd
      if closed.result = -1 then ⟨-1, closed.errno, closed.destroyed, closed.table⟩
      else dup2Copy closed.table closed.destroyed oldfd newfd
    else dup2Copy table none oldfd newfd
  else ⟨-1, some .EBADF, none, table⟩

/-- `GetRLimit(resource, rlim)`, with `rlim` absent for a null pointer. -/
def getRLimit (table : FileDescriptorTable Context) (resource : Resource) (rlim : Bool) : Except Errno RLimit :=
  if !rlim then .error .EFAULT
  else
    match resource with
    | .nofile => .ok ⟨table.maximumFdSoftLimit.toUInt64, table.maximumFdHardLimit.toUInt64⟩
    | .other => .error .ENOSYS

/-- `SetRLimit(resource, rlim)`, with `none` for a null pointer. -/
def setRLimit (table : FileDescriptorTable Context) (resource : Resource) (rlim : Option RLimit) :
    Outcome Context :=
  match rlim with
  | none => ⟨-1, some .EFAULT, none, table⟩
  | some rlim =>
    if rlim.rlimCur > rlim.rlimMax then ⟨-1, some .EINVAL, none, table⟩
    else
      match resource with
      | .nofile =>
        match table.setFileDescriptorLimits rlim with
        | (some errno, _) => ⟨-1, some errno, none, table⟩
        | (none, limited) => ⟨0, none, none, limited⟩
      | .other => ⟨-1, some .ENOSYS, none, table⟩

end Asylo.Io
