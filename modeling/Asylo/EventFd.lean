import Asylo.Machine

/-! The eventfd of the enclave's POSIX layer (`posix/io/io_context_eventfd.cc`).

An `IOContextEventFd` holds a `uint64_t` counter under a mutex. Each call is
one step under that mutex; a call whose `Await` condition is false waits,
which the model returns as `blocked` with nothing changed, so that any
interleaving of the calls of any threads is a run of attempts, a waiting
call being attempted again later.

The counter stays at most `kMaxCounter` along every run
(`counter_le_kMaxCounter_run`), and reads, writes of too large a value and
writes that would pass the bound behave as eventfd says. The bound of
`Write` is tested on `counter_ + add` in `uint64_t`, which wraps: a write
whose sum reaches `2 ^ 64` passes the test, succeeds, and leaves the counter
smaller than it was (`write_wraps_counter`). -/
namespace Asylo.EventFd

def kMaxCounter : UInt64 := 0xfffffffffffffffe

def kCounterBufSize : Nat := 8

def EFD_NONBLOCK : Int32 := 0x02

def EFD_SEMAPHORE : Int32 := 0x04

inductive Errno where
  | einval
  | eagain
  deriving DecidableEq, Repr

/-- What a call gives back: the size it returns with the value it wrote to
the buffer, `-1` with `errno`, or a wait in `Await`. -/
inductive Outcome (α : Type) where
  | returned (size : Nat) (value : α)
  | failed (errno : Errno)
  | blocked
  deriving DecidableEq, Repr

structure IOContextEventFd where
  counter : UInt64
  semaphore : Bool
  nonblock : Bool
  deriving DecidableEq, Repr

namespace IOContextEventFd

/-- The constructor `IOContextEventFd(initval, flags)`. -/
def create (initval : UInt32) (flags : Int32) : IOContextEventFd :=
  ⟨initval.toUInt64, flags &&& EFD_SEMAPHORE != 0, flags &&& EFD_NONBLOCK != 0⟩

variable (fd : IOContextEventFd)

/-- `IOContextEventFd::Read(buf, count)`: the outcome, with the `uint64_t` it
writes to `buf`. -/
def read (count : Nat) : Outcome UInt64 × IOContextEventFd :=
  if count < kCounterBufSize then (.failed .einval, fd)
  else if fd.nonblock && fd.counter == 0 then (.failed .eagain, fd)
  -- `Await(counter_ > 0)`
  else if fd.counter = 0 then (.blocked, fd)
  else if fd.semaphore then (.returned kCounterBufSize 1, { fd with counter := fd.counter - 1 })
  else (.returned kCounterBufSize fd.counter, { fd with counter := 0 })

/-- `IOContextEventFd::Write(buf, count)`, where `add` is the `uint64_t` that
`buf` holds. -/
def write (add : UInt64) (count : Nat) : Outcome Unit × IOContextEventFd :=
  if count < kCounterBufSize then (.failed .einval, fd)
  else if add > kMaxCounter then (.failed .einval, fd)
  else if fd.nonblock && fd.counter + add > kMaxCounter then (.failed .eagain, fd)
  -- `Await((counter_ + add) <= kMaxCounter)`
  else if fd.counter + add ≤ kMaxCounter then (.returned kCounterBufSize (), { fd with counter := fd.counter + add })
  else (.blocked, fd)

end IOContextEventFd

/-- A call on the eventfd by some thread. -/
inductive Call where
  | read (count : Nat)
  | write (add : UInt64) (count : Nat)
  deriving DecidableEq, Repr

/-- One attempt of a call, with the value a read wrote. -/
def step (fd : IOContextEventFd) : Call → IOContextEventFd × Outcome (Option UInt64)
  | .read count =>
    match fd.read count with
    | (.returned size value, fd) => (fd, .returned size (some value))
    | (.failed errno, fd) => (fd, .failed errno)
    | (.blocked, fd) => (fd, .blocked)
  | .write add count =>
    match fd.write add count with
    | (.returned size (), fd) => (fd, .returned size none)
    | (.failed errno, fd) => (fd, .failed errno)
    | (.blocked, fd) => (fd, .blocked)

namespace IOContextEventFd

variable {fd fd' : IOContextEventFd}

/-! ## The bound in `uint64_t` -/

theorem kMaxCounter_toNat : kMaxCounter.toNat = 2 ^ 64 - 2 := rfl

/-- The test `counter_ + add <= kMaxCounter` of a value `add` that passed its
own check holds exactly when the sum is within the bound or wraps. -/
theorem add_le_kMaxCounter_iff (counter add : UInt64) (small : add ≤ kMaxCounter) :
    counter + add ≤ kMaxCounter ↔
      counter.toNat + add.toNat ≤ kMaxCounter.toNat ∨ 2 ^ 64 ≤ counter.toNat + add.toNat := by
  have counterBound := UInt64.toNat_lt counter
  have addBound := UInt64.le_iff_toNat_le.mp small
  rw [UInt64.le_iff_toNat_le, UInt64.toNat_add, kMaxCounter_toNat]
  rw [kMaxCounter_toNat] at addBound
  constructor
  · intro within
    by_cases wraps : 2 ^ 64 ≤ counter.toNat + add.toNat
    · exact .inr wraps
    · rw [Nat.mod_eq_of_lt (by omega)] at within
      exact .inl within
  · rintro (within | wraps)
    · rw [Nat.mod_eq_of_lt (by omega)]
      exact within
    · rw [Nat.mod_eq_sub_mod wraps, Nat.mod_eq_of_lt (by omega)]
      omega

/-! ## What each call does -/

/-- A successful read returns the counter and clears it, or in semaphore mode
returns `1` and takes one off it. -/
theorem read_eq_returned {count size : Nat} {value : UInt64}
    (returned : fd.read count = (.returned size value, fd')) :
    size = kCounterBufSize ∧ fd.counter ≠ 0 ∧ fd'.semaphore = fd.semaphore ∧ fd'.nonblock = fd.nonblock ∧
      (if fd.semaphore then value = 1 ∧ fd'.counter = fd.counter - 1 else value = fd.counter ∧ fd'.counter = 0) := by
  unfold read at returned
  split_ifs at returned with short empty waiting semaphore <;> obtain ⟨⟨⟩, ⟨⟩⟩ := Prod.mk.inj returned
  · exact ⟨rfl, waiting, rfl, rfl, by simp [semaphore]⟩
  · exact ⟨rfl, waiting, rfl, rfl, by simp [semaphore]⟩

/-- A successful write adds `add` to the counter in `uint64_t`, after the test
that the sum is within the bound. -/
theorem write_eq_returned {add : UInt64} {count size : Nat}
    (returned : fd.write add count = (.returned size (), fd')) :
    size = kCounterBufSize ∧ add ≤ kMaxCounter ∧ fd.counter + add ≤ kMaxCounter ∧
      fd' = { fd with counter := fd.counter + add } := by
  unfold write at returned
  split_ifs at returned with short large full within <;> obtain ⟨⟨⟩, ⟨⟩⟩ := Prod.mk.inj returned
  exact ⟨rfl, UInt64.not_lt.mp large, within, rfl⟩

/-- A call that does not return leaves the eventfd as it was. -/
theorem read_unchanged {count : Nat} (notReturned : ∀ size value, (fd.read count).1 ≠ .returned size value) :
    (fd.read count).2 = fd := by
  unfold read at notReturned ⊢
  split_ifs at notReturned ⊢ with short empty waiting semaphore
  · rfl
  · rfl
  · rfl
  · exact absurd rfl (notReturned _ _)
  · exact absurd rfl (notReturned _ _)

theorem write_unchanged {add : UInt64} {count : Nat}
    (notReturned : ∀ size, (fd.write add count).1 ≠ .returned size ()) : (fd.write add count).2 = fd := by
  unfold write at notReturned ⊢
  split_ifs at notReturned ⊢ with short large full within
  · rfl
  · rfl
  · rfl
  · exact absurd rfl (notReturned _)
  · rfl

/-- A write of a value above `kMaxCounter` fails with `EINVAL`. -/
theorem write_of_large {add : UInt64} {count : Nat} (sized : kCounterBufSize ≤ count) (large : kMaxCounter < add) :
    fd.write add count = (.failed .einval, fd) := by
  simp [write, Nat.not_lt.mpr sized, large]

/-- A write whose sum passes `kMaxCounter` without reaching `2 ^ 64` fails with
`EAGAIN` when the eventfd does not block, and waits when it does. -/
theorem write_of_overflow {add : UInt64} {count : Nat} (sized : kCounterBufSize ≤ count) (small : add ≤ kMaxCounter)
    (past : kMaxCounter.toNat < fd.counter.toNat + add.toNat) (below : fd.counter.toNat + add.toNat < 2 ^ 64) :
    fd.write add count = (if fd.nonblock then .failed .eagain else .blocked, fd) := by
  have full : ¬ fd.counter + add ≤ kMaxCounter := by
    rw [add_le_kMaxCounter_iff _ _ small]
    omega
  cases blocking : fd.nonblock <;>
    simp [write, Nat.not_lt.mpr sized, UInt64.not_lt.mpr small, blocking, full, UInt64.not_le.mp full]

/-- A write whose sum stays within `kMaxCounter` adds exactly `add`. -/
theorem write_of_within {add : UInt64} {count : Nat} (sized : kCounterBufSize ≤ count) (small : add ≤ kMaxCounter)
    (within : fd.counter.toNat + add.toNat ≤ kMaxCounter.toNat) :
    fd.write add count = (.returned kCounterBufSize (), { fd with counter := fd.counter + add }) ∧
      (fd.counter + add).toNat = fd.counter.toNat + add.toNat := by
  have fits : fd.counter + add ≤ kMaxCounter := (add_le_kMaxCounter_iff _ _ small).mpr (.inl within)
  refine ⟨by simp [write, Nat.not_lt.mpr sized, UInt64.not_lt.mpr small, UInt64.not_lt.mpr fits, fits], ?_⟩
  rw [UInt64.toNat_add, Nat.mod_eq_of_lt]
  rw [kMaxCounter_toNat] at within
  omega

/-- `counter_ + add` wraps: a write whose sum reaches `2 ^ 64` passes the test
of the bound, returns success, and leaves the counter at the sum less
`2 ^ 64`, below what it was. -/
theorem write_wraps_counter (fd : IOContextEventFd) {add : UInt64} {count : Nat} (sized : kCounterBufSize ≤ count)
    (small : add ≤ kMaxCounter) (wraps : 2 ^ 64 ≤ fd.counter.toNat + add.toNat) :
    fd.write add count = (.returned kCounterBufSize (), { fd with counter := fd.counter + add }) ∧
      (fd.counter + add).toNat = fd.counter.toNat + add.toNat - 2 ^ 64 ∧ fd.counter + add < fd.counter := by
  have fits : fd.counter + add ≤ kMaxCounter := (add_le_kMaxCounter_iff _ _ small).mpr (.inr wraps)
  have sum : (fd.counter + add).toNat = fd.counter.toNat + add.toNat - 2 ^ 64 := by
    have counterBound := UInt64.toNat_lt fd.counter
    have addBound := UInt64.le_iff_toNat_le.mp small
    rw [kMaxCounter_toNat] at addBound
    rw [UInt64.toNat_add, Nat.mod_eq_sub_mod wraps, Nat.mod_eq_of_lt (by omega)]
  refine ⟨by simp [write, Nat.not_lt.mpr sized, UInt64.not_lt.mpr small, UInt64.not_lt.mpr fits, fits], sum, ?_⟩
  rw [UInt64.lt_iff_toNat_lt, sum]
  have addBound := UInt64.le_iff_toNat_le.mp small
  rw [kMaxCounter_toNat] at addBound
  omega

end IOContextEventFd

/-- Two writes of `2 ^ 63` to a fresh eventfd: the second returns success and
brings the counter back to `0`. -/
theorem write_wraps_counter_from_create :
    (Machine.run step (IOContextEventFd.create 0 0) [.write 0x8000000000000000 8]).1 =
        ⟨0x8000000000000000, false, false⟩ ∧
      (IOContextEventFd.write ⟨0x8000000000000000, false, false⟩ 0x8000000000000000 8 =
          (.returned kCounterBufSize (), ⟨0x8000000000000000 + 0x8000000000000000, false, false⟩) ∧
        ((0x8000000000000000 : UInt64) + 0x8000000000000000).toNat =
          (0x8000000000000000 : UInt64).toNat + (0x8000000000000000 : UInt64).toNat - 2 ^ 64 ∧
        (0x8000000000000000 : UInt64) + 0x8000000000000000 < 0x8000000000000000) :=
  ⟨by rfl, IOContextEventFd.write_wraps_counter ⟨0x8000000000000000, false, false⟩ (by decide) (by decide)
    (by decide)⟩

/-! ## Every run -/

namespace IOContextEventFd

variable {fd : IOContextEventFd}

theorem read_counter_le {count : Nat} (bounded : fd.counter ≤ kMaxCounter) :
    (fd.read count).2.counter ≤ kMaxCounter := by
  unfold read
  split_ifs with short empty waiting semaphore
  · exact bounded
  · exact bounded
  · exact bounded
  · have positive : 1 ≤ fd.counter := by
      rw [UInt64.le_iff_toNat_le]
      have nonzero : fd.counter.toNat ≠ 0 := fun zero => waiting (UInt64.toNat_inj.mp zero)
      simp only [UInt64.toNat_one]
      omega
    exact UInt64.le_trans (UInt64.sub_le positive) bounded
  · exact UInt64.zero_le

theorem write_counter_le {add : UInt64} {count : Nat} (bounded : fd.counter ≤ kMaxCounter) :
    (fd.write add count).2.counter ≤ kMaxCounter := by
  unfold write
  split_ifs with short large full within
  · exact bounded
  · exact bounded
  · exact bounded
  · exact within
  · exact bounded

end IOContextEventFd

theorem step_counter_le {fd : IOContextEventFd} (call : Call) (bounded : fd.counter ≤ kMaxCounter) :
    (step fd call).1.counter ≤ kMaxCounter := by
  cases call with
  | read count =>
    have kept : (fd.read count).2.counter ≤ kMaxCounter := IOContextEventFd.read_counter_le bounded
    dsimp only [step]
    split <;> rename_i read <;> rw [read] at kept <;> exact kept
  | write add count =>
    have kept : (fd.write add count).2.counter ≤ kMaxCounter := IOContextEventFd.write_counter_le bounded
    dsimp only [step]
    split <;> rename_i written <;> rw [written] at kept <;> exact kept

/-- Along every interleaving of calls on an eventfd, its counter stays at
most `kMaxCounter`. -/
theorem counter_le_kMaxCounter_run (initval : UInt32) (flags : Int32) (calls : List Call) :
    (Machine.run step (IOContextEventFd.create initval flags) calls).1.counter ≤ kMaxCounter := by
  have initial : (IOContextEventFd.create initval flags).counter ≤ kMaxCounter := by
    rw [UInt64.le_iff_toNat_le, IOContextEventFd.kMaxCounter_toNat]
    have small := UInt32.toNat_lt initval
    simp only [IOContextEventFd.create, UInt32.toNat_toUInt64]
    omega
  exact @Machine.run_invariant IOContextEventFd Call (Outcome (Option UInt64)) step (fun fd => fd.counter ≤ kMaxCounter)
    (fun _ call bounded => step_counter_le call bounded) _ calls initial

end Asylo.EventFd
