import Asylo.Pthread

/-! What the enclave's lock objects keep over every interleaving of calls.

A mutex keeps its owner null exactly while its count is zero, a
non-recursive one never counts past one, and an unlock by a thread that does
not own it fails and changes nothing. A semaphore's count is its initial value
plus the posts and minus the waits that succeeded.

A reader-writer lock is compared with what it is for: who holds it, as
POSIX counts it (`Holdings`), moved by the calls of the threads
(`holdingsStep`). `pthread_rwlock_unlock` takes every thread that is not the
write owner for a reader and decrements the reader count, so an unlock by a
thread that holds nothing wraps the 32-bit count, also while a writer holds
the lock. On runs where only holders unlock and fewer than `2^32` read locks
are held at once, the lock refines `Holdings`: it answers every call as the
reference does, and its fields are the writer and the number of read locks
held. -/
namespace Asylo.PthreadProofs
open Pthread Machine

/-! ## Mutexes -/

/-- What holds of every mutex the enclave reaches. -/
structure MutexInv (mutex : Mutex) : Prop where
  control_valid : mutex.control = pthreadMutexNonrecursive ∨ mutex.control = pthreadMutexRecursive
  owner_null_iff : mutex.owner = pthreadTNull ↔ mutex.refcount = 0
  nonrecursive_le_one : mutex.control = pthreadMutexNonrecursive → mutex.refcount ≤ 1

theorem mutexInv_nonrecursiveInitializer : MutexInv pthreadMutexNonrecursiveInitializer :=
  ⟨.inl rfl, by simp [pthreadMutexNonrecursiveInitializer], by
    simp [pthreadMutexNonrecursiveInitializer]⟩

theorem mutexInv_recursiveInitializer : MutexInv pthreadMutexRecursiveInitializer :=
  ⟨.inr rfl, by simp [pthreadMutexRecursiveInitializer], by
    simp [pthreadMutexRecursiveInitializer]⟩

theorem pthreadMutexCheckParameter_ok {mutex : Mutex} (valid : MutexInv mutex) :
    pthreadMutexCheckParameter mutex = .ok () := by
  unfold pthreadMutexCheckParameter
  rw [if_neg]
  rintro ⟨notRecursive, notNonrecursive⟩
  rcases valid.control_valid with control | control
  · exact notNonrecursive control
  · exact notRecursive control

theorem recursive_ne_nonrecursive : pthreadMutexRecursive ≠ pthreadMutexNonrecursive := by
  decide

theorem pthreadMutexLockInternal_inv (self : Thread) {mutex : Mutex} (valid : MutexInv mutex) :
    MutexInv (pthreadMutexLockInternal self mutex).1 := by
  unfold pthreadMutexLockInternal
  split_ifs with reentry busy
  · -- A recursive mutex taken again by its owner: the owner stays, the count grows.
    obtain ⟨recursive, owner⟩ := reentry
    refine ⟨valid.control_valid, ?_, ?_⟩
    · simp only [owner, self.self_ne_null, false_iff]
      omega
    · intro nonrecursive
      exact absurd (recursive.symm.trans nonrecursive) recursive_ne_nonrecursive
  · exact valid
  · have free : mutex.owner = pthreadTNull := not_not.mp busy
    have countZero : mutex.refcount = 0 := valid.owner_null_iff.mp free
    refine ⟨valid.control_valid, ?_, ?_⟩
    · simp [self.self_ne_null]
    · intro _
      simp [countZero]

theorem pthreadMutexUnlock_inv (self : Thread) {mutex : Mutex} (valid : MutexInv mutex) :
    MutexInv (pthreadMutexUnlock self mutex).1 := by
  unfold pthreadMutexUnlock
  rw [pthreadMutexCheckParameter_ok valid]
  dsimp only
  split_ifs with unowned notOwner released
  · exact valid
  · exact valid
  · refine ⟨valid.control_valid, by simpa using released, fun _ => ?_⟩
    simp only
    omega
  · have counted : mutex.refcount ≠ 0 := fun zero => unowned (valid.owner_null_iff.mpr zero)
    refine ⟨valid.control_valid, ?_, ?_⟩
    · simp only [not_not.mp notOwner, self.self_ne_null, false_iff]
      exact released
    · intro nonrecursive
      have atMostOne := valid.nonrecursive_le_one nonrecursive
      simp only
      omega

/-- Every call keeps a mutex valid. -/
theorem mutexStep_inv {mutex : Mutex} (valid : MutexInv mutex) (call : Thread × MutexOp) :
    MutexInv (mutexStep mutex call).1 := by
  obtain ⟨self, op⟩ := call
  cases op with
  | lock =>
    simp only [mutexStep, pthreadMutexLock, pthreadMutexCheckParameter_ok valid]
    split <;> exact pthreadMutexLockInternal_inv self valid
  | trylock =>
    simp only [mutexStep, pthreadMutexTrylock, pthreadMutexCheckParameter_ok valid]
    exact pthreadMutexLockInternal_inv self valid
  | unlock => exact pthreadMutexUnlock_inv self valid

/-- An unlock by a thread that does not own the mutex returns `EPERM` or
`EINVAL` and leaves the mutex as it was. -/
theorem pthreadMutexUnlock_of_ne_owner {self : Thread} {mutex : Mutex}
    (notOwner : mutex.owner ≠ self.self) :
    ∃ e, pthreadMutexUnlock self mutex = (mutex, .returned (.error e)) ∧
      (e = .eperm ∨ e = .einval) := by
  unfold pthreadMutexUnlock
  split
  · rename_i e checked
    have invalid : e = .einval := by
      unfold pthreadMutexCheckParameter at checked
      split at checked <;> cases checked
      rfl
    exact ⟨e, rfl, .inr invalid⟩
  · split_ifs with unowned
    · exact ⟨.einval, rfl, .inr rfl⟩
    · exact ⟨.eperm, rfl, .inl rfl⟩

/-! ## Reader-writer locks -/

/-- Who holds a reader-writer lock: the writer, and one entry for each read
lock held (a thread may hold several). -/
structure Holdings where
  writer : Option PthreadT
  readers : List PthreadT
  deriving DecidableEq, Repr

/-- A lock nobody holds. -/
def Holdings.free : Holdings := ⟨none, []⟩

/-- What a call does to who holds a reader-writer lock, and what it answers:
a read lock waits for the writer, a write lock for every holder; a thread
that holds nothing cannot unlock. -/
def holdingsStep (held : Holdings) : Thread × RwlockOp → Holdings × Outcome
  | (self, .rdlock) =>
    if held.writer.isSome then (held, .waiting)
    else (⟨held.writer, self.self :: held.readers⟩, .returned (.ok ()))
  | (self, .tryrdlock) =>
    if held.writer.isSome then (held, .returned (.error .ebusy))
    else (⟨held.writer, self.self :: held.readers⟩, .returned (.ok ()))
  | (self, .wrlock) =>
    if held.readers ≠ [] then (held, .waiting)
    else if held.writer = some self.self then (held, .returned (.error .edeadlk))
    else if held.writer.isSome then (held, .waiting)
    else (⟨some self.self, held.readers⟩, .returned (.ok ()))
  | (self, .trywrlock) =>
    if held.readers ≠ [] then (held, .returned (.error .ebusy))
    else if held.writer = some self.self then (held, .returned (.error .edeadlk))
    else if held.writer.isSome then (held, .returned (.error .ebusy))
    else (⟨some self.self, held.readers⟩, .returned (.ok ()))
  | (self, .unlock) =>
    if held.writer = some self.self then (⟨none, held.readers⟩, .returned (.ok ()))
    else if self.self ∈ held.readers then
      (⟨held.writer, held.readers.erase self.self⟩, .returned (.ok ()))
    else (held, .returned (.error .eperm))

/-- The calls the code's lock is meant for: an unlock by a thread that holds
the lock, and a read lock while fewer than `2^32 - 1` are held. -/
def rwAllowed (held : Holdings) : Thread × RwlockOp → Bool
  | (self, .unlock) => held.writer = some self.self || self.self ∈ held.readers
  | (_, .rdlock) | (_, .tryrdlock) => held.readers.length + 1 < 2 ^ 32
  | _ => true

/-- The code's lock stands for `held`: the same writer (null for none), a reader
count that is the number of read locks held, and no readers beside a writer. -/
structure Abstracts (rwlock : Rwlock) (held : Holdings) : Prop where
  writeOwner_eq : rwlock.writeOwner = held.writer.getD pthreadTNull
  readerCount_eq : rwlock.readerCount.toNat = held.readers.length
  writer_ne_null : held.writer ≠ some pthreadTNull
  exclusive : held.writer.isSome → held.readers = []

theorem abstracts_initializer : Abstracts pthreadRwlockInitializer Holdings.free :=
  ⟨rfl, rfl, by simp [Holdings.free], by simp [Holdings.free]⟩

section Abstracts

variable {rwlock : Rwlock} {held : Holdings}

theorem Abstracts.writeOwner_ne_null_iff (rel : Abstracts rwlock held) :
    rwlock.writeOwner ≠ pthreadTNull ↔ held.writer.isSome := by
  rw [rel.writeOwner_eq]
  cases writer : held.writer with
  | none => simp
  | some w =>
    have notNull : w ≠ pthreadTNull := fun isNull => rel.writer_ne_null (by rw [writer, isNull])
    simpa using notNull

theorem Abstracts.writeOwner_eq_self_iff (rel : Abstracts rwlock held) (self : Thread) :
    rwlock.writeOwner = self.self ↔ held.writer = some self.self := by
  rw [rel.writeOwner_eq]
  cases held.writer with
  | none => simpa using (Ne.symm self.self_ne_null)
  | some w => simp

theorem Abstracts.readerCount_ne_zero_iff (rel : Abstracts rwlock held) :
    rwlock.readerCount ≠ 0 ↔ held.readers ≠ [] := by
  rw [ne_eq, ne_eq, ← UInt32.toNat_inj, rel.readerCount_eq, UInt32.toNat_zero,
    List.length_eq_zero_iff]

/-- A read lock granted by both: one more reader on each side. -/
theorem Abstracts.addReader (rel : Abstracts rwlock held) (self : Thread)
    (free : held.writer = none) (room : held.readers.length + 1 < 2 ^ 32) :
    Abstracts { rwlock with readerCount := rwlock.readerCount + 1 }
      ⟨held.writer, self.self :: held.readers⟩ := by
  refine ⟨rel.writeOwner_eq, ?_, rel.writer_ne_null, by simp [free]⟩
  have counted := rel.readerCount_eq
  simp only [UInt32.toNat_add, UInt32.toNat_one, List.length_cons]
  rw [counted, Nat.mod_eq_of_lt (by simpa using room)]

/-- A write lock granted by both. -/
theorem Abstracts.setWriter (rel : Abstracts rwlock held) (self : Thread)
    (noReaders : held.readers = []) :
    Abstracts { rwlock with writeOwner := self.self } ⟨some self.self, held.readers⟩ :=
  ⟨rfl, rel.readerCount_eq, by simpa using self.self_ne_null, fun _ => noReaders⟩

end Abstracts

/-- On an allowed call, the code's lock answers as `holdingsStep` and goes on
standing for who holds it. -/
theorem rwlockStep_abstracts {rwlock : Rwlock} {held : Holdings} (rel : Abstracts rwlock held)
    (call : Thread × RwlockOp) (allowed : rwAllowed held call = true) :
    Abstracts (rwlockStep rwlock call).1 (holdingsStep held call).1 ∧
      (rwlockStep rwlock call).2 = (holdingsStep held call).2 := by
  obtain ⟨self, op⟩ := call
  have writerSet := rel.writeOwner_ne_null_iff
  have ownWriter := rel.writeOwner_eq_self_iff self
  have someReaders := rel.readerCount_ne_zero_iff
  cases op with
  | rdlock =>
    simp only [rwlockStep, pthreadRwlockLock, pthreadRwlockTryrdlockInternal, holdingsStep]
    by_cases busy : held.writer.isSome
    · simp [writerSet.mpr busy, busy, rel]
    · have free : held.writer = none := Option.not_isSome_iff_eq_none.mp busy
      have room : held.readers.length + 1 < 2 ^ 32 := by simpa [rwAllowed] using allowed
      simp [mt writerSet.mp busy, busy, rel.addReader self free room]
  | tryrdlock =>
    simp only [rwlockStep, pthreadRwlockTryrdlockInternal, holdingsStep]
    by_cases busy : held.writer.isSome
    · simp [writerSet.mpr busy, busy, rel]
    · have free : held.writer = none := Option.not_isSome_iff_eq_none.mp busy
      have room : held.readers.length + 1 < 2 ^ 32 := by simpa [rwAllowed] using allowed
      simp [mt writerSet.mp busy, busy, rel.addReader self free room]
  | wrlock =>
    simp only [rwlockStep, pthreadRwlockLock, pthreadRwlockTrywrlockInternal, holdingsStep]
    by_cases read : held.readers ≠ []
    · simp [someReaders.mpr read, read, rel]
    · have noReaders : held.readers = [] := not_not.mp read
      by_cases own : held.writer = some self.self
      · simp [someReaders, noReaders, ownWriter.mpr own, own, rel]
      · by_cases busy : held.writer.isSome
        · simp [someReaders, noReaders, mt ownWriter.mp own, own, writerSet.mpr busy, busy, rel]
        · have granted := rel.setWriter self noReaders
          rw [noReaders] at granted
          simp [someReaders, noReaders, mt ownWriter.mp own, own, mt writerSet.mp busy, busy,
            granted]
  | trywrlock =>
    simp only [rwlockStep, pthreadRwlockTrywrlockInternal, holdingsStep]
    by_cases read : held.readers ≠ []
    · simp [someReaders.mpr read, read, rel]
    · have noReaders : held.readers = [] := not_not.mp read
      by_cases own : held.writer = some self.self
      · simp [someReaders, noReaders, ownWriter.mpr own, own, rel]
      · by_cases busy : held.writer.isSome
        · simp [someReaders, noReaders, mt ownWriter.mp own, own, writerSet.mpr busy, busy, rel]
        · have granted := rel.setWriter self noReaders
          rw [noReaders] at granted
          simp [someReaders, noReaders, mt ownWriter.mp own, own, mt writerSet.mp busy, busy,
            granted]
  | unlock =>
    simp only [rwlockStep, pthreadRwlockUnlock, holdingsStep]
    by_cases own : held.writer = some self.self
    · refine ⟨?_, by simp [ownWriter.mpr own, own]⟩
      simp only [ownWriter.mpr own, own, ↓reduceIte]
      exact ⟨rfl, rel.readerCount_eq, by simp, by simp⟩
    · -- An allowed unlock by a thread other than the writer is a reader's.
      have reader : self.self ∈ held.readers := by
        simpa [rwAllowed, own] using allowed
      have noWriter : held.writer = none := by
        cases writer : held.writer with
        | none => rfl
        | some w =>
          have := rel.exclusive (by simp [writer])
          simp [this] at reader
      have counted := rel.readerCount_eq
      have positive : 0 < held.readers.length := List.length_pos_of_mem reader
      refine ⟨?_, by simp [mt ownWriter.mp own, own, reader]⟩
      simp only [mt ownWriter.mp own, own, reader, ↓reduceIte]
      refine ⟨rel.writeOwner_eq, ?_, rel.writer_ne_null, by simp [noWriter]⟩
      rw [UInt32.toNat_sub_of_le _ _ (by
        rw [UInt32.le_iff_toNat_le, counted, UInt32.toNat_one]; omega)]
      rw [counted, UInt32.toNat_one, List.length_erase_of_mem reader]

/-- On every run of allowed calls the code's lock refines the reference: the
same answers, and the fields stand for who holds the lock. -/
theorem rwlock_refines (calls : List (Thread × RwlockOp))
    (allowed : Admissible holdingsStep (fun held call => rwAllowed held call = true)
      Holdings.free calls) :
    Abstracts (run rwlockStep pthreadRwlockInitializer calls).1
        (run holdingsStep Holdings.free calls).1 ∧
      (run rwlockStep pthreadRwlockInitializer calls).2 = (run holdingsStep Holdings.free calls).2 :=
  run_simulation rwlockStep holdingsStep Abstracts _
    (fun _ _ call rel allowedCall => rwlockStep_abstracts rel call allowedCall)
    calls abstracts_initializer allowed

/-! ## Semaphores -/

/-- What a call on a semaphore adds to its count: one for a post, minus one
for a wait that returned `0`. -/
def semWeight : Thread × SemOp → Outcome → Int
  | (_, .post), .returned (.ok ()) => 1
  | (_, .timedwait _), .returned (.ok ()) => -1
  | _, _ => 0

/-- The successful posts minus the successful waits of a run on a semaphore. -/
def semBalance (calls : List (Thread × SemOp)) (outcomes : List Outcome) : Int :=
  (List.zipWith semWeight calls outcomes).sum

theorem semStep_count (sem : Semaphore) (call : Thread × SemOp) :
    (semStep sem call).1.count = sem.count + semWeight call (semStep sem call).2 := by
  obtain ⟨self, op⟩ := call
  cases op with
  | post => simp [semStep, semPost, semWeight]
  | timedwait timedOut =>
    simp only [semStep, semTimedwait]
    split_ifs with empty expired
    · simp [semWeight]
    · simp [semWeight]
    · simp only [semWeight]
      omega

/-! ## The system -/

/-- The outcomes a run of the system gave to the calls on the semaphore at `k`. -/
def semOutcomes (k : Address) (events : List Event) (outcomes : List Outcome) : List Outcome :=
  outputsOf k ((events.filterMap Sum.getRight?).filterMap Sum.getRight?)
    (rightOutputs (events.filterMap Sum.getRight?) (rightOutputs events outcomes))

theorem run_step_mutex (objects : Objects) (events : List Event) (k : Address) :
    (run step objects events).1.1 k = (run mutexStep (objects.1 k) (mutexCalls k events)).1 := by
  rw [step, (run_par_left _ _ events objects).1]
  exact (run_bank mutexStep k _ objects.1).1

theorem run_step_rwlock (objects : Objects) (events : List Event) (k : Address) :
    (run step objects events).1.2.1 k =
      (run rwlockStep (objects.2.1 k) (rwlockCalls k events)).1 := by
  rw [step, (run_par_right _ _ events objects).1, (run_par_left _ _ _ objects.2).1]
  exact (run_bank rwlockStep k _ objects.2.1).1

theorem run_step_sem (objects : Objects) (events : List Event) (k : Address) :
    (run step objects events).1.2.2 k = (run semStep (objects.2.2 k) (semCalls k events)).1 ∧
      semOutcomes k events (run step objects events).2 =
        (run semStep (objects.2.2 k) (semCalls k events)).2 := by
  obtain ⟨outerState, outerOutputs⟩ := run_par_right (bank mutexStep)
    (par (bank rwlockStep) (bank semStep)) events objects
  obtain ⟨innerState, innerOutputs⟩ := run_par_right (bank rwlockStep) (bank semStep)
    (events.filterMap Sum.getRight?) objects.2
  obtain ⟨bankState, bankOutputs⟩ := run_bank semStep k
    ((events.filterMap Sum.getRight?).filterMap Sum.getRight?) objects.2.2
  refine ⟨?_, ?_⟩
  · rw [step, outerState, innerState]
    exact bankState
  · rw [semOutcomes, step, outerOutputs, innerOutputs]
    exact bankOutputs

/-- Two threads, whose information sits at addresses 1 and 2. -/
def firstThread : Thread := ⟨1, by decide⟩

def secondThread : Thread := ⟨2, by decide⟩

/-- A run of two threads on the objects at address 0. -/
def sampleEvents : List Event :=
  [.inr (.inl (0, (firstThread, .rdlock))), .inr (.inl (0, (secondThread, .wrlock))),
   .inr (.inl (0, (firstThread, .unlock))), .inr (.inl (0, (secondThread, .wrlock))),
   .inl (0, (firstThread, .lock)), .inl (0, (firstThread, .unlock)),
   .inr (.inr (0, (secondThread, .post))), .inr (.inr (0, (firstThread, .timedwait false)))]

/-- An unlock of a mutex by a thread that does not own it leaves every object
as it was and returns `EPERM` or `EINVAL`. -/
theorem step_mutexUnlock_of_ne_owner (objects : Objects) (k : Address) {self : Thread}
    (notOwner : (objects.1 k).owner ≠ self.self) :
    ∃ e, step objects (.inl (k, (self, .unlock))) = (objects, .returned (.error e)) ∧
      (e = .eperm ∨ e = .einval) := by
  obtain ⟨e, unlocked, code⟩ := pthreadMutexUnlock_of_ne_owner notOwner
  refine ⟨e, ?_, code⟩
  obtain ⟨mutexes, others⟩ := objects
  simp [step, par, bank, mutexStep, unlocked]

end Asylo.PthreadProofs
