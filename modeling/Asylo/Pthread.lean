import Asylo.Machine

/-! The enclave's mutexes, reader-writer locks and semaphores
(`platform/posix/pthread.cc`). Each object is guarded by a spinlock, and each
critical section under it is one atomic step of the calling thread: one try
of `pthread_mutex_lock_internal` in the spinning loop of `pthread_mutex_lock`,
the body of `pthread_mutex_unlock`, one try of a `pthread_rwlock_try*lock_internal`
in `pthread_rwlock_lock`, and `sem_post`/`sem_timedwait` under the
semaphore's mutex. A blocking call whose try fails has not returned: its
thread is still waiting and tries again in a later step.

The objects of the enclave sit at addresses; a call names the object it acts
on, and the whole system is a bank of mutexes beside a bank of reader-writer
locks beside a bank of semaphores. -/
namespace Asylo.Pthread

/-- `pthread_t` is `uintptr_t`: the address of the thread's information. -/
abbrev PthreadT := UInt64

/-- `PTHREAD_T_NULL`. -/
def pthreadTNull : PthreadT := 0

/-- A running thread: `pthread_self()` is the address of its information, never null. -/
structure Thread where
  self : PthreadT
  self_ne_null : self ≠ pthreadTNull
  deriving DecidableEq

/-- The error numbers these calls return. -/
inductive Errno where
  | eperm
  | einval
  | ebusy
  | edeadlk
  | etimedout
  deriving DecidableEq, Repr

/-- What one atomic step of a call does for its thread: the call returns `0`
(`.ok ()`) or an error number, or its thread keeps waiting. The `sem_*`
functions return `-1` and set `errno` to the error number. -/
inductive Outcome where
  | returned (status : Except Errno Unit)
  | waiting
  deriving DecidableEq

/-! ## Mutexes -/

def pthreadMutexNonrecursive : UInt32 := 0x01
def pthreadMutexRecursive : UInt32 := 0x02

/-- The fields of `pthread_mutex_t` that the lock operations read and write.
`_refcount` is a `size_t`; it would wrap only after `2^64` nested locks. -/
structure Mutex where
  refcount : Nat
  control : UInt32
  owner : PthreadT
  deriving DecidableEq, Repr

def pthreadMutexNonrecursiveInitializer : Mutex := ⟨0, pthreadMutexNonrecursive, pthreadTNull⟩

def pthreadMutexRecursiveInitializer : Mutex := ⟨0, pthreadMutexRecursive, pthreadTNull⟩

/-- `pthread_mutex_check_parameter`, for a mutex in enclave memory. -/
def pthreadMutexCheckParameter (mutex : Mutex) : Except Errno Unit :=
  if mutex.control ≠ pthreadMutexRecursive ∧ mutex.control ≠ pthreadMutexNonrecursive then
    .error .einval
  else .ok ()

/-- `pthread_mutex_lock_internal`: takes the mutex, or `EBUSY`. -/
def pthreadMutexLockInternal (self : Thread) (mutex : Mutex) : Mutex × Except Errno Unit :=
  if mutex.control = pthreadMutexRecursive ∧ mutex.owner = self.self then
    ({ mutex with refcount := mutex.refcount + 1 }, .ok ())
  else if mutex.owner ≠ pthreadTNull then (mutex, .error .ebusy)
  else ({ mutex with owner := self.self, refcount := mutex.refcount + 1 }, .ok ())

/-- One try of `pthread_mutex_lock`: on `EBUSY` the thread spins or sleeps on
the wait queue and tries again. -/
def pthreadMutexLock (self : Thread) (mutex : Mutex) : Mutex × Outcome :=
  match pthreadMutexCheckParameter mutex with
  | .error e => (mutex, .returned (.error e))
  | .ok () =>
    let attempt := pthreadMutexLockInternal self mutex
    match attempt.2 with
    | .ok () => (attempt.1, .returned (.ok ()))
    | .error _ => (attempt.1, .waiting)

/-- `pthread_mutex_trylock`. -/
def pthreadMutexTrylock (self : Thread) (mutex : Mutex) : Mutex × Outcome :=
  match pthreadMutexCheckParameter mutex with
  | .error e => (mutex, .returned (.error e))
  | .ok () =>
    let attempt := pthreadMutexLockInternal self mutex
    (attempt.1, .returned attempt.2)

/-- `pthread_mutex_unlock`. -/
def pthreadMutexUnlock (self : Thread) (mutex : Mutex) : Mutex × Outcome :=
  match pthreadMutexCheckParameter mutex with
  | .error e => (mutex, .returned (.error e))
  | .ok () =>
    if mutex.owner = pthreadTNull then (mutex, .returned (.error .einval))
    else if mutex.owner ≠ self.self then (mutex, .returned (.error .eperm))
    else
      let released := { mutex with refcount := mutex.refcount - 1 }
      if released.refcount = 0 then ({ released with owner := pthreadTNull }, .returned (.ok ()))
      else (released, .returned (.ok ()))

/-- The mutex calls. -/
inductive MutexOp where
  | lock
  | trylock
  | unlock
  deriving DecidableEq, Repr

/-- One step of a thread's call on one mutex. -/
def mutexStep (mutex : Mutex) : Thread × MutexOp → Mutex × Outcome
  | (self, .lock) => pthreadMutexLock self mutex
  | (self, .trylock) => pthreadMutexTrylock self mutex
  | (self, .unlock) => pthreadMutexUnlock self mutex

/-! ## Reader-writer locks -/

/-- The fields of `pthread_rwlock_t` that the lock operations read and write. -/
structure Rwlock where
  writeOwner : PthreadT
  readerCount : UInt32
  deriving DecidableEq, Repr

/-- `PTHREAD_RWLOCK_INITIALIZER`. -/
def pthreadRwlockInitializer : Rwlock := ⟨pthreadTNull, 0⟩

/-- `pthread_rwlock_tryrdlock_internal`. -/
def pthreadRwlockTryrdlockInternal (rwlock : Rwlock) : Rwlock × Except Errno Unit :=
  if rwlock.writeOwner ≠ pthreadTNull then (rwlock, .error .ebusy)
  else ({ rwlock with readerCount := rwlock.readerCount + 1 }, .ok ())

/-- `pthread_rwlock_trywrlock_internal`. -/
def pthreadRwlockTrywrlockInternal (self : Thread) (rwlock : Rwlock) :
    Rwlock × Except Errno Unit :=
  if rwlock.readerCount ≠ 0 then (rwlock, .error .ebusy)
  else if rwlock.writeOwner = self.self then (rwlock, .error .edeadlk)
  else if rwlock.writeOwner ≠ pthreadTNull then (rwlock, .error .ebusy)
  else ({ rwlock with writeOwner := self.self }, .ok ())

/-- One try of `pthread_rwlock_lock<TryLockFunc>`: it returns unless the try
says `EBUSY`, in which case the thread waits and tries again. -/
def pthreadRwlockLock (tryLock : Rwlock → Rwlock × Except Errno Unit) (rwlock : Rwlock) :
    Rwlock × Outcome :=
  let attempt := tryLock rwlock
  match attempt.2 with
  | .error .ebusy => (attempt.1, .waiting)
  | status => (attempt.1, .returned status)

/-- `pthread_rwlock_unlock`: a thread that is not the write owner is taken to
hold a read lock. -/
def pthreadRwlockUnlock (self : Thread) (rwlock : Rwlock) : Rwlock × Outcome :=
  if rwlock.writeOwner = self.self then
    ({ rwlock with writeOwner := pthreadTNull }, .returned (.ok ()))
  else ({ rwlock with readerCount := rwlock.readerCount - 1 }, .returned (.ok ()))

/-- The reader-writer lock calls. -/
inductive RwlockOp where
  | rdlock
  | tryrdlock
  | wrlock
  | trywrlock
  | unlock
  deriving DecidableEq, Repr

/-- One step of a thread's call on one reader-writer lock. -/
def rwlockStep (rwlock : Rwlock) : Thread × RwlockOp → Rwlock × Outcome
  | (_, .rdlock) => pthreadRwlockLock pthreadRwlockTryrdlockInternal rwlock
  | (_, .tryrdlock) =>
    let attempt := pthreadRwlockTryrdlockInternal rwlock
    (attempt.1, .returned attempt.2)
  | (self, .wrlock) => pthreadRwlockLock (pthreadRwlockTrywrlockInternal self) rwlock
  | (self, .trywrlock) =>
    let attempt := pthreadRwlockTrywrlockInternal self rwlock
    (attempt.1, .returned attempt.2)
  | (self, .unlock) => pthreadRwlockUnlock self rwlock

/-! ## Semaphores -/

/-- `sem_t`: its count. `count_` is an `int`, whose overflow is undefined. -/
structure Semaphore where
  count : Int
  deriving DecidableEq, Repr

/-- `sem_post`. -/
def semPost (sem : Semaphore) : Semaphore × Outcome :=
  ({ sem with count := sem.count + 1 }, .returned (.ok ()))

/-- One step of `sem_timedwait`: while the count is zero the thread waits on
the condition variable, until the deadline passes (`timedOut`). -/
def semTimedwait (timedOut : Bool) (sem : Semaphore) : Semaphore × Outcome :=
  if sem.count = 0 then
    if timedOut then (sem, .returned (.error .etimedout)) else (sem, .waiting)
  else ({ sem with count := sem.count - 1 }, .returned (.ok ()))

/-- The semaphore calls; a wait says whether its deadline has passed. -/
inductive SemOp where
  | post
  | timedwait (timedOut : Bool)
  deriving DecidableEq, Repr

/-- One step of a thread's call on one semaphore. -/
def semStep (sem : Semaphore) : Thread × SemOp → Semaphore × Outcome
  | (_, .post) => semPost sem
  | (_, .timedwait timedOut) => semTimedwait timedOut sem

/-! ## The system -/

/-- The address of a lock object in enclave memory. -/
abbrev Address := Nat

/-- Every mutex, reader-writer lock and semaphore of the enclave, by address. -/
abbrev Objects := (Address → Mutex) × (Address → Rwlock) × (Address → Semaphore)

/-- A thread's call on the object at an address. -/
abbrev Event :=
  (Address × (Thread × MutexOp)) ⊕ (Address × (Thread × RwlockOp)) ⊕
    (Address × (Thread × SemOp))

/-- One atomic step of the system: the object the event names moves. -/
def step : Objects → Event → Objects × Outcome :=
  Machine.par (Machine.bank mutexStep) (Machine.par (Machine.bank rwlockStep) (Machine.bank semStep))

/-- The objects after initialization: each mutex by its static initializer
(recursive or not), each reader-writer lock by `PTHREAD_RWLOCK_INITIALIZER`,
each semaphore by `sem_init` with its value. -/
def initialObjects (recursive : Address → Bool) (semValue : Address → Int) : Objects :=
  (fun k => if recursive k then pthreadMutexRecursiveInitializer
    else pthreadMutexNonrecursiveInitializer,
   fun _ => pthreadRwlockInitializer,
   fun k => ⟨semValue k⟩)

/-- The calls of a run on the mutex at `k`. -/
def mutexCalls (k : Address) (events : List Event) : List (Thread × MutexOp) :=
  Machine.inputsTo k (events.filterMap Sum.getLeft?)

/-- The calls of a run on the reader-writer lock at `k`. -/
def rwlockCalls (k : Address) (events : List Event) : List (Thread × RwlockOp) :=
  Machine.inputsTo k ((events.filterMap Sum.getRight?).filterMap Sum.getLeft?)

/-- The calls of a run on the semaphore at `k`. -/
def semCalls (k : Address) (events : List Event) : List (Thread × SemOp) :=
  Machine.inputsTo k ((events.filterMap Sum.getRight?).filterMap Sum.getRight?)

end Asylo.Pthread
