import Asylo.Pthread

/-! The enclave's condition variables (`platform/posix/pthread.cc`):
`pthread_cond_timedwait`, `pthread_cond_signal` and `pthread_cond_broadcast`
on one condition variable and the mutex its waits name.

A `pthread_cond_t` keeps the threads that wait on it in a linked list,
`_queue`, that `QueueOperations` works on (`enqueue`, `dequeue`, `remove`,
`contains`, `clear`). A wait is several atomic steps of its thread, and other
threads' steps come in between: the enqueue under the condition variable's
lock, the unlock of the mutex, the readings of the clock, the wait itself,
the removal from the list, and the tries to lock the mutex again. Each
thread's place in its wait is a `CondPhase`.

The code has two forms, chosen by `_ASYLO_PTHREAD_COND_TRANSITIONAL_FLAG`
(`transitionalFlag`), which the enclave's `pthread.h` defines. With it, a
waiter sleeps on an untrusted wait queue until the host returns, and a signal
only asks the host to wake sleepers; without it, a waiter polls the list for
its own entry, and a signal takes the first entry off the list. When the host
returns from a wait is the host's choice, so it is a step the scheduler may
take at any time; the value of the untrusted queue and the host's wake-ups
are not modelled. -/
namespace Asylo.Pthread

/-! ## The waiter list -/

/-- `QueueOperations::Enqueue(id)`: a node of `id` after the last. -/
def enqueue (list : List PthreadT) (id : PthreadT) : List PthreadT := list ++ [id]

/-- `QueueOperations::Dequeue()`: the first node freed, if there is one. -/
def dequeue : List PthreadT → List PthreadT
  | [] => []
  | _ :: rest => rest

/-- `QueueOperations::Remove(id)`: the first node of `id` unlinked, if there
is one. -/
def remove : List PthreadT → PthreadT → List PthreadT
  | [], _ => []
  | curr :: rest, id => if curr = id then rest else curr :: remove rest id

/-- `QueueOperations::Contains(id)`. -/
def contains : List PthreadT → PthreadT → Bool
  | [], _ => false
  | curr :: rest, id => curr = id || contains rest id

/-- `QueueOperations::Clear()`: `Dequeue` until the list is empty. -/
def clear (_list : List PthreadT) : List PthreadT := []

/-- `QueueOperations::Empty()`. -/
def empty (list : List PthreadT) : Bool := list.isEmpty

/-! ## Calls and phases -/

/-- What `clock_gettime(CLOCK_REALTIME, &curr_time)` gives a wait with a
deadline: its return value, and by `TimeSpecSubtract(*deadline, curr_time,
&time_left)` either `none`, the deadline is before the time read, or the whole
microseconds left. -/
structure ClockReading where
  ret : Int
  timeLeft : Option Nat
  deriving DecidableEq, Repr

/-- An error `pthread_cond_timedwait` returns: an error number, or the
nonzero value a failed `clock_gettime` returned. -/
inductive WaitError where
  | errno (e : Errno)
  | clock (ret : Int)
  deriving DecidableEq, Repr

/-- Where a thread is in its call on the condition variable. -/
inductive CondPhase where
  /-- In no call: it may make one. -/
  | idle
  /-- Enqueued; `pthread_mutex_unlock(mutex)` comes next. -/
  | enqueued (deadline : Bool)
  /-- With the flag and a deadline: the first reading of the clock. -/
  | checking
  /-- With the flag: in `enc_untrusted_thread_wait_value`. -/
  | sleeping (deadline : Bool)
  /-- With the flag and a deadline: the reading of the clock after the wait. -/
  | rechecking
  /-- Without the flag: in the loop of `enc_untrusted_sched_yield`. -/
  | polling (deadline : Bool)
  /-- Without the flag: out of the loop; `list.Remove(self)` comes next. -/
  | removing (pending : Option WaitError)
  /-- Trying `pthread_mutex_lock(mutex)`; then it returns `pending`, or what
  the lock returned where nothing is pending. -/
  | relocking (pending : Option WaitError)
  deriving DecidableEq, Repr

/-- A call on the condition variable, or on its mutex. -/
inductive CondCall where
  /-- `pthread_cond_timedwait`; without a deadline, `pthread_cond_wait`. -/
  | timedwait (deadline : Bool)
  | signal
  | broadcast
  | mutex (op : MutexOp)
  deriving DecidableEq, Repr

/-- What the scheduler lets a thread do: call, when it is in no call, or take
the next step of its wait, with what the clock reads should that step read
it. -/
inductive CondAction where
  | call (call : CondCall)
  | resume (clock : ClockReading)
  deriving DecidableEq, Repr

/-- The condition variable's list, the mutex, and each thread's place. -/
structure CondSystem where
  queue : List PthreadT
  mutex : Mutex
  phase : PthreadT → CondPhase

/-- A thread moved to another place in its call. -/
def CondSystem.setPhase (s : CondSystem) (self : PthreadT) (phase : CondPhase) : CondSystem :=
  { s with phase := Function.update s.phase self phase }

/-- What a step gives its thread: `none` while the call has not returned. -/
abbrev CondOutput := Option (Except WaitError Unit)

/-! ## The calls -/

def INT_MAX : Int := 2147483647

/-- `pthread_cond_notify_internal(cond, num_threads)`: the list it leaves.
With the flag it only asks the host to wake `num_threads` sleepers. -/
def pthreadCondNotifyInternal (transitionalFlag : Bool) (numThreads : Int) (queue : List PthreadT) :
    List PthreadT :=
  if transitionalFlag then queue
  else if numThreads = 1 ∧ !empty queue then dequeue queue
  else clear queue

/-- The step of `pthread_cond_timedwait` that `self` takes from `phase`. -/
def timedwaitStep (transitionalFlag : Bool) (self : Thread) (clock : ClockReading) (s : CondSystem) :
    CondPhase → CondSystem × CondOutput
  | .idle => (s, none)
  | .enqueued deadline =>
    -- a failed unlock returns at once, with `self` still on the list
    match pthreadMutexUnlock self s.mutex with
    | (mutex, .returned (.error e)) => ({ s with mutex := mutex }.setPhase self.self .idle, some (.error (.errno e)))
    | (mutex, _) =>
      ({ s with mutex := mutex }.setPhase self.self
        (if transitionalFlag then (if deadline then .checking else .sleeping false) else .polling deadline), none)
  | .checking =>
    if clock.ret ≠ 0 then (s.setPhase self.self (.relocking (some (.clock clock.ret))), none)
    else
      match clock.timeLeft with
      -- past the deadline, or less than a microsecond before it
      | none | some 0 => (s.setPhase self.self (.relocking (some (.errno .etimedout))), none)
      | some _ => (s.setPhase self.self (.sleeping true), none)
  | .sleeping deadline =>
    ({ s with queue := remove s.queue self.self }.setPhase self.self (if deadline then .rechecking else .relocking none),
      none)
  | .rechecking =>
    if clock.ret ≠ 0 then (s.setPhase self.self (.relocking (some (.clock clock.ret))), none)
    else
      match clock.timeLeft with
      | none => (s.setPhase self.self (.relocking (some (.errno .etimedout))), none)
      | some _ => (s.setPhase self.self (.relocking none), none)
  | .polling deadline =>
    if deadline ∧ clock.ret ≠ 0 then (s.setPhase self.self (.removing (some (.clock clock.ret))), none)
    else if deadline ∧ clock.timeLeft = none then (s.setPhase self.self (.removing (some (.errno .etimedout))), none)
    else if contains s.queue self.self then (s, none)
    else (s.setPhase self.self (.removing none), none)
  | .removing pending => ({ s with queue := remove s.queue self.self }.setPhase self.self (.relocking pending), none)
  | .relocking pending =>
    match pthreadMutexLock self s.mutex with
    | (mutex, .returned status) =>
      ({ s with mutex := mutex }.setPhase self.self .idle,
        some (match pending with
          | some e => .error e
          | none => status.mapError .errno))
    | (mutex, .waiting) => ({ s with mutex := mutex }, none)

/-- A call by a thread that is in no call: a wait enqueues it, and the other
calls are one step. -/
def condCall (transitionalFlag : Bool) (self : Thread) (s : CondSystem) : CondCall → CondSystem × CondOutput
  | .timedwait deadline => ({ s with queue := enqueue s.queue self.self }.setPhase self.self (.enqueued deadline), none)
  | .signal => ({ s with queue := pthreadCondNotifyInternal transitionalFlag 1 s.queue }, some (.ok ()))
  | .broadcast => ({ s with queue := pthreadCondNotifyInternal transitionalFlag INT_MAX s.queue }, some (.ok ()))
  | .mutex op =>
    match mutexStep s.mutex (self, op) with
    | (mutex, .returned status) => ({ s with mutex := mutex }, some (status.mapError .errno))
    | (mutex, .waiting) => ({ s with mutex := mutex }, none)

/-- The phases in which a thread has enqueued itself and not yet removed
itself. -/
def CondPhase.enlisted : CondPhase → Bool
  | .enqueued _ | .checking | .sleeping _ | .polling _ | .removing _ => true
  | .idle | .rechecking | .relocking _ => false

/-- One step of a thread. A call by a thread that is in a call, or a step of a
thread that is in none, does nothing. -/
def condStep (transitionalFlag : Bool) (s : CondSystem) : Thread × CondAction → CondSystem × CondOutput
  | (self, .call call) => if s.phase self.self = .idle then condCall transitionalFlag self s call else (s, none)
  | (self, .resume clock) => timedwaitStep transitionalFlag self clock s (s.phase self.self)

/-- `PTHREAD_COND_INITIALIZER` beside a mutex, with every thread in no call. -/
def CondSystem.init (mutex : Mutex) : CondSystem := ⟨[], mutex, fun _ => .idle⟩

end Asylo.Pthread
