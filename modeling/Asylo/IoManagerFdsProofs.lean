import Asylo.IoManagerFds

/-! What the descriptor table of the `IOManager` does, call by call.

New descriptors are the lowest free slots below the soft limit
(`openLike_of_lowestFree`, `dup_of_lowestFree`); `Close` empties one slot and runs
the destructor of its `AutoCloseIOContext` exactly when no other slot holds it
(`closeFileDescriptor_of_get`). `setrlimit` compares `rlim_max` with the highest
descriptor as an unsigned number, so on a table with no descriptor it compares
with `2^64 - 1` and refuses every limit (`setRLimit_refused_when_empty`), and
`Dup2` checks its target against `kMaxOpenFiles` only, so it makes descriptors
at and above the soft limit (`dup2_to_empty_slot`). -/
namespace Asylo.Io

namespace FileDescriptorTable

variable {Context : Type} (table : FileDescriptorTable Context)

@[simp] theorem isFileDescriptorValid_iff {fd : Int} :
    isFileDescriptorValid fd = true ↔ 0 ≤ fd ∧ fd < kMaxOpenFiles := by
  simp [isFileDescriptorValid]

@[simp] theorem write_fdTable {fd : Nat} {slot : Option (Slot Context)} {made} (i : Nat) :
    (table.write fd slot made).fdTable i = if i = fd then slot else table.fdTable i := rfl

@[simp] theorem write_maximumFdSoftLimit {fd : Nat} {slot : Option (Slot Context)} {made} :
    (table.write fd slot made).maximumFdSoftLimit = table.maximumFdSoftLimit := rfl

@[simp] theorem write_maximumFdHardLimit {fd : Nat} {slot : Option (Slot Context)} {made} :
    (table.write fd slot made).maximumFdHardLimit = table.maximumFdHardLimit := rfl

@[simp] theorem writeNew_fdTable {fd : Nat} {context : Context} (i : Nat) :
    (table.writeNew fd context).fdTable i = if i = fd then some ⟨table.nextObject, context⟩ else table.fdTable i := rfl

@[simp] theorem copySlot_fdTable {oldfd newfd : Nat} (i : Nat) :
    (table.copySlot oldfd newfd).fdTable i = if i = newfd then table.fdTable oldfd else table.fdTable i := rfl

/-! ## The scans of the table -/

/-- `fd` is the lowest empty slot from `start` below the soft limit. -/
structure LowestFree (start fd : Nat) : Prop where
  from_start : start ≤ fd
  below_soft : fd < table.maximumFdSoftLimit
  empty : table.fdTable fd = none
  before_used : ∀ j, start ≤ j → j < fd → (table.fdTable j).isSome

theorem getNextFreeFileDescriptor_of_lowestFree {start fd : Nat} (lowest : table.LowestFree start fd) :
    table.getNextFreeFileDescriptor start = fd := by
  have found : IndexScan.first (fun i => (table.fdTable i).isNone) start (table.maximumFdSoftLimit - start) = some fd :=
    (IndexScan.first_eq_some_iff _).mpr ⟨lowest.from_start, by have := lowest.below_soft; omega,
      by simp [lowest.empty], fun j above below => by simpa using lowest.before_used j above below⟩
  simp [getNextFreeFileDescriptor, found]

theorem getNextFreeFileDescriptor_of_full {start : Nat}
    (full : ∀ j, start ≤ j → j < table.maximumFdSoftLimit → (table.fdTable j).isSome) :
    table.getNextFreeFileDescriptor start = -1 := by
  have none_found : IndexScan.first (fun i => (table.fdTable i).isNone) start (table.maximumFdSoftLimit - start) = none :=
    (IndexScan.first_eq_none_iff _).mpr fun j above below => by simpa using full j above (by omega)
  simp [getNextFreeFileDescriptor, none_found]

/-- The scan finds a free slot or reports that there is none. -/
theorem getNextFreeFileDescriptor_cases (start : Nat) :
    (∃ fd, table.LowestFree start fd ∧ table.getNextFreeFileDescriptor start = fd) ∨
      ((∀ j, start ≤ j → j < table.maximumFdSoftLimit → (table.fdTable j).isSome) ∧
        table.getNextFreeFileDescriptor start = -1) := by
  cases scan : IndexScan.first (fun i => (table.fdTable i).isNone) start (table.maximumFdSoftLimit - start) with
  | some fd =>
    obtain ⟨above, below, empty, before⟩ := (IndexScan.first_eq_some_iff _).mp scan
    have lowest : table.LowestFree start fd :=
      ⟨above, by omega, by simpa using empty, fun j from_ before_fd => by simpa using before j from_ before_fd⟩
    exact .inl ⟨fd, lowest, table.getNextFreeFileDescriptor_of_lowestFree lowest⟩
  | none =>
    have full : ∀ j, start ≤ j → j < table.maximumFdSoftLimit → (table.fdTable j).isSome :=
      fun j above below => by simpa using (IndexScan.first_eq_none_iff _).mp scan j above (by omega)
    exact .inr ⟨full, table.getNextFreeFileDescriptor_of_full full⟩

/-- With no slot used, the highest descriptor is `-1`. -/
theorem getHighestFileDescriptorUsed_of_empty (empty : ∀ fd, fd < kMaxOpenFiles → table.fdTable fd = none) :
    table.getHighestFileDescriptorUsed = -1 := by
  have none_found : IndexScan.last (fun i => (table.fdTable i).isSome) kMaxOpenFiles = none :=
    (IndexScan.last_eq_none_iff _).mpr fun j below => by simp [empty j below]
  simp [getHighestFileDescriptorUsed, none_found]

/-- With a slot used, the highest descriptor is the last used slot. -/
theorem getHighestFileDescriptorUsed_of_used {fd : Nat} (below : fd < kMaxOpenFiles) (used : (table.fdTable fd).isSome)
    (after : ∀ j, fd < j → j < kMaxOpenFiles → table.fdTable j = none) :
    table.getHighestFileDescriptorUsed = fd := by
  have found : IndexScan.last (fun i => (table.fdTable i).isSome) kMaxOpenFiles = some fd :=
    (IndexScan.last_eq_some_iff _).mpr ⟨below, used, fun j above below' => by simp [after j above below']⟩
  simp [getHighestFileDescriptorUsed, found]

/-- `holds` looks at every slot. -/
theorem holds_iff (object : Nat) :
    table.holds object = true ↔
      ∃ fd, fd < kMaxOpenFiles ∧ ∃ slot, table.fdTable fd = some slot ∧ slot.object = object := by
  rw [holds, Option.isSome_iff_ne_none, Ne, IndexScan.first_eq_none_iff]
  simp only [Nat.zero_le, true_implies, Nat.zero_add, not_forall, Bool.not_eq_false, Option.any_eq_true,
    beq_iff_eq]
  constructor
  · rintro ⟨fd, below, slot, found, same⟩
    exact ⟨fd, below, slot, found, same⟩
  · rintro ⟨fd, below, slot, found, same⟩
    exact ⟨fd, below, slot, found, same⟩

end FileDescriptorTable

/-! ## New descriptors -/

variable {Context : Type} (table : FileDescriptorTable Context)

open FileDescriptorTable

/-- An open-like call takes the lowest free slot below the soft limit, for a
new `AutoCloseIOContext`. -/
theorem openLike_of_lowestFree {fd : Nat} (lowest : table.LowestFree 0 fd) (context : Context)
    (whenFull : Option Errno) :
    openLike table context whenFull = ⟨fd, none, none, table.writeNew fd context⟩ := by
  have free : table.getNextFreeFileDescriptor 0 = fd := by
    simpa using table.getNextFreeFileDescriptor_of_lowestFree lowest
  have nonnegative : ¬ (fd : Int) < 0 := by omega
  simp [openLike, FileDescriptorTable.insert, free, nonnegative]

/-- A table of one slot, used. -/
def oneSlotTable : FileDescriptorTable Unit where
  fdTable fd := if fd = 0 then some ⟨0, ()⟩ else none
  maximumFdSoftLimit := 1
  maximumFdHardLimit := 1
  nextObject := 1
  softLeHard := Nat.le_refl _
  hardLeMax := by decide
  objectsBelow fd slot used := by
    split at used
    · cases used
      decide
    · cases used

/-- `Dup` of an open descriptor copies its slot to the lowest free one. -/
theorem dup_of_lowestFree {oldfd fd : Nat} (valid : oldfd < kMaxOpenFiles) (opened : (table.fdTable oldfd).isSome)
    (lowest : table.LowestFree 0 fd) :
    dup table oldfd = ⟨fd, none, none, table.copySlot oldfd fd⟩ := by
  have used : table.isFileDescriptorUnused oldfd = false := by
    simp [isFileDescriptorUnused, valid, opened]
  have free : table.getNextFreeFileDescriptor 0 = fd := by
    simpa using table.getNextFreeFileDescriptor_of_lowestFree lowest
  have validOld : isFileDescriptorValid oldfd = true := by simpa using valid
  simp [dup, used, copyFileDescriptor, free, validOld]

/-! ## `Close` -/

/-- `Close` of an open descriptor empties its slot and leaves the others; the
destructor of its `AutoCloseIOContext` runs exactly when no other slot holds
that object. -/
theorem closeFileDescriptor_of_get (close : Context → Int) {fd : Nat} (valid : fd < kMaxOpenFiles)
    {slot : Slot Context} (found : table.fdTable fd = some slot) :
    let closed := closeFileDescriptor table close fd
    closed.errno = none ∧ closed.table.fdTable fd = none ∧
      (∀ i, i ≠ fd → closed.table.fdTable i = table.fdTable i) ∧
      (closed.destroyed = some slot.object ↔
        ∀ i, i < kMaxOpenFiles → i ≠ fd → ∀ other, table.fdTable i = some other → other.object ≠ slot.object) ∧
      (closed.destroyed = none ∨ closed.destroyed = some slot.object) := by
  have validFd : isFileDescriptorValid (fd : Int) = true := by simpa using valid
  have got : table.get fd = some slot.context := by simp [FileDescriptorTable.get, validFd, found]
  let emptied := table.write fd none fun _ held => by cases held
  -- whether another slot still holds the object
  have elsewhere := emptied.holds_iff slot.object
  simp only [emptied, write_fdTable] at elsewhere
  have computed : closeFileDescriptor table close fd =
      if emptied.holds slot.object then ⟨0, none, none, emptied⟩
      else ⟨if close slot.context = -1 then -1 else 0, none, some slot.object, emptied⟩ := by
    simp only [closeFileDescriptor, got, delete, validFd, Bool.not_true, Bool.false_eq_true, if_false,
      Int.toNat_natCast, found]
    split <;> rfl
  have emptiedHere : emptied.fdTable fd = none := by simp [emptied]
  have emptiedElsewhere : ∀ i, i ≠ fd → emptied.fdTable i = table.fdTable i := fun i apart => by
    simp [emptied, apart]
  rw [computed]
  split
  · rename_i held
    obtain ⟨i, below, other, atI, same⟩ := elsewhere.mp held
    have apart : i ≠ fd := by
      rintro rfl
      simp at atI
    rw [if_neg apart] at atI
    refine ⟨rfl, emptiedHere, emptiedElsewhere, ?_, .inl rfl⟩
    simp only [reduceCtorEq, false_iff, not_forall, not_not]
    exact ⟨i, below, apart, other, atI, same⟩
  · rename_i notHeld
    refine ⟨rfl, emptiedHere, emptiedElsewhere, ⟨fun _ i below apart other atI same => ?_, fun _ => rfl⟩, .inr rfl⟩
    exact notHeld (elsewhere.mpr ⟨i, below, other, by simp [apart, atI], same⟩)

/-! ## `setrlimit` -/

/-- On a table with no descriptor, `setrlimit(RLIMIT_NOFILE)` refuses every
limit with `EINVAL`: the highest descriptor, `-1`, is compared as the
`rlim_t` `2^64 - 1`. -/
theorem setRLimit_refused_when_empty (empty : ∀ fd, fd < kMaxOpenFiles → table.fdTable fd = none) (rlim : RLimit)
    (ordered : rlim.rlimCur ≤ rlim.rlimMax) :
    setRLimit table .nofile (some rlim) = ⟨-1, some .EINVAL, none, table⟩ := by
  have compared : rlim.rlimMax.toNat ≤ toRlimT table.getHighestFileDescriptorUsed := by
    rw [table.getHighestFileDescriptorUsed_of_empty empty]
    have := UInt64.toNat_lt rlim.rlimMax
    simp only [toRlimT]
    omega
  simp [setRLimit, UInt64.not_lt.mpr ordered, setFileDescriptorLimits, compared]

theorem setRLimit_refused_when_empty_of_init :
    setRLimit (FileDescriptorTable.init : FileDescriptorTable Unit) .nofile (some ⟨10, 10⟩) =
      ⟨-1, some .EINVAL, none, .init⟩ :=
  setRLimit_refused_when_empty .init (fun _ _ => rfl) ⟨10, 10⟩ (by decide)

/-- `SetFileDescriptorLimits` takes a limit exactly when `rlim_max` is above
the highest descriptor as an `rlim_t`, `rlim_cur ≤ rlim_max`, and `rlim_max`
is at most `kMaxOpenFiles` and the hard limit. -/
theorem setFileDescriptorLimits_accepts (rlim : RLimit) :
    (table.setFileDescriptorLimits rlim).1 = none ↔
      toRlimT table.getHighestFileDescriptorUsed < rlim.rlimMax.toNat ∧ rlim.rlimCur ≤ rlim.rlimMax ∧
        rlim.rlimMax.toNat ≤ kMaxOpenFiles ∧ rlim.rlimMax.toNat ≤ table.maximumFdHardLimit := by
  unfold setFileDescriptorLimits
  split
  · rename_i atMost
    simp only [reduceCtorEq, false_iff]
    omega
  · rename_i above
    split
    · rename_i refused
      simp only [reduceCtorEq, false_iff]
      rintro ⟨-, ordered, withinMax, withinHard⟩
      rcases refused with unordered | tooLarge | tooLarge
      · exact UInt64.not_lt.mpr ordered unordered
      · omega
      · omega
    · rename_i accepted
      simp only [true_iff]
      refine ⟨by omega, UInt64.not_lt.mp fun unordered => accepted (.inl unordered), by omega, by omega⟩

/-- `setrlimit(RLIMIT_NOFILE)` succeeds exactly when `rlim_cur ≤ rlim_max` and
`SetFileDescriptorLimits` takes the limit. -/
theorem setRLimit_nofile_accepts (rlim : RLimit) :
    (setRLimit table .nofile (some rlim)).result = 0 ↔
      rlim.rlimCur ≤ rlim.rlimMax ∧ (table.setFileDescriptorLimits rlim).1 = none := by
  simp only [setRLimit]
  split
  · rename_i unordered
    simp only [Int.reduceNeg, reduceCtorEq, false_iff, not_and]
    exact fun ordered => absurd unordered (UInt64.not_lt.mpr ordered)
  · rename_i ordered
    have ordered' := UInt64.not_lt.mp ordered
    cases limits : table.setFileDescriptorLimits rlim with
    | mk errno limited =>
      cases errno with
      | none => simp [ordered']
      | some errno => simp

/-- With a descriptor in use, the highest one `fd`, `setrlimit(RLIMIT_NOFILE)`
takes a limit exactly when `rlim_cur ≤ rlim_max`, `rlim_max` is at most
`kMaxOpenFiles` and the hard limit, and `fd` is below `rlim_max`. -/
theorem setRLimit_of_used {fd : Nat} (below : fd < kMaxOpenFiles) (used : (table.fdTable fd).isSome)
    (after : ∀ j, fd < j → j < kMaxOpenFiles → table.fdTable j = none) (rlim : RLimit) :
    (setRLimit table .nofile (some rlim)).result = 0 ↔
      rlim.rlimCur ≤ rlim.rlimMax ∧ rlim.rlimMax.toNat ≤ kMaxOpenFiles ∧
        rlim.rlimMax.toNat ≤ table.maximumFdHardLimit ∧ fd < rlim.rlimMax.toNat := by
  have asRlim : toRlimT table.getHighestFileDescriptorUsed = fd := by
    rw [table.getHighestFileDescriptorUsed_of_used below used after, toRlimT]
    have : fd < 2 ^ 64 := by unfold kMaxOpenFiles at below; omega
    omega
  rw [setRLimit_nofile_accepts, setFileDescriptorLimits_accepts, asRlim]
  tauto

/-! ## `Dup2` -/

/-- `Dup2` to an empty slot below `kMaxOpenFiles` copies the slot there,
whatever the soft limit. -/
theorem dup2_to_empty_slot (close : Context → Int) {oldfd newfd : Nat} (oldValid : oldfd < kMaxOpenFiles)
    (opened : (table.fdTable oldfd).isSome) (newValid : newfd < kMaxOpenFiles) (empty : table.fdTable newfd = none)
    (apart : oldfd ≠ newfd) :
    dup2 table close oldfd newfd = ⟨newfd, none, none, table.copySlot oldfd newfd⟩ := by
  have used : table.isFileDescriptorUnused oldfd = false := by
    simp [isFileDescriptorUnused, oldValid, opened]
  have unused : table.isFileDescriptorUnused newfd = true := by
    simp [isFileDescriptorUnused, newValid, empty]
  have validOld : isFileDescriptorValid oldfd = true := by simpa using oldValid
  have validNew : isFileDescriptorValid newfd = true := by simpa using newValid
  have notSame : (oldfd : Int) ≠ newfd := by exact_mod_cast apart
  simp [dup2, used, unused, notSame, dup2Copy, copyFileDescriptorToSpecifiedTarget, validOld, validNew, empty]

end Asylo.Io
