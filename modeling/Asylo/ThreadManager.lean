import Mathlib

/-! The enclave's `ThreadManager` (`platform/posix/threading/thread_manager.cc`),
which runs the start routines of `pthread_create` on threads the host donates.

`CreateThread` queues a `Thread` and asks the host for a thread, which
enters through `StartThread`, takes the `Thread` at the front of the queue
and runs it. `JoinThread`, `DetachThread` and `Finalize` wait on the state of
a `Thread` or on the queue and the running threads.

The model is an interleaving of calls. Each call is a thread of control with
the point it has reached; one step runs one critical section of the source,
or ends a wait whose predicate holds. The scheduler picks the step, and for
`TrustedPrimitives::CreateThread` whether the host makes a thread. A `Thread`
also counts how often its start routine ran and whether its cleanup routines
did. -/
namespace Asylo.Threading

/-- `ECHILD`, `ESRCH` and `EINVAL`. -/
def ECHILD : Int := 10

def ESRCH : Int := 3

def EINVAL : Int := 22

/-- `Thread::ThreadState`. -/
inductive ThreadState
  | QUEUED
  | RUNNING
  | DONE
  | JOINED
  deriving DecidableEq, Repr

/-- A `ThreadManager::Thread`: its state, `detached_`, `ret_` and what its
start routine returns; `runs` and `cleanedUp` record what has run of it. -/
structure Thread where
  state : ThreadState
  detached : Bool
  routineResult : Nat
  ret : Nat
  runs : Nat
  cleanedUp : Bool
  deriving DecidableEq, Repr

/-- Where a `CreateThread` call is, after `EnqueueThread`. -/
inductive CreateStage
  | enqueued
  | waiting
  | returned (result : Int)
  deriving DecidableEq, Repr

/-- Where a donated thread in `StartThread` is, with the `Thread` it took. -/
inductive StartStage
  | dequeue
  | running (thread : Nat)
  | routine (thread : Nat)
  | cleanup (thread : Nat)
  | finishing (thread : Nat)
  | waitingForJoin (thread : Nat)
  | erasing (skippedJoin : Bool)
  | returned
  | aborted
  deriving DecidableEq, Repr

/-- Where a `JoinThread` call is; it returns its result and, on a join of a
`Thread`, that `Thread` and the value written to `*return_value_out`. -/
inductive JoinStage
  | lookup
  | zombieCheck
  | waiting (thread : Nat)
  | checking (thread : Nat)
  | joining (thread : Nat) (value : Nat)
  | returned (result : Int) (joined : Option (Nat × Nat))
  deriving DecidableEq, Repr

/-- Where a `DetachThread` call is. -/
inductive DetachStage
  | lookup
  | checking (thread : Nat)
  | detaching (thread : Nat)
  | returned (result : Int)
  deriving DecidableEq, Repr

/-- Where a `Finalize` call is. -/
inductive FinalizeStage
  | begin
  | waiting
  | returned
  deriving DecidableEq, Repr

/-- A call in progress or returned: `CreateThread` of a `Thread`, a donated
thread with its `pthread_self()`, `JoinThread` and `DetachThread` of a
`pthread_t`, or `Finalize`. -/
inductive Call
  | createThread (thread : Nat) (stage : CreateStage)
  | startThread (self : Nat) (stage : StartStage)
  | joinThread (target : Nat) (stage : JoinStage)
  | detachThread (target : Nat) (stage : DetachStage)
  | finalize (stage : FinalizeStage)
  deriving DecidableEq, Repr

/-- The `ThreadManager`: every `Thread` made, by index; `queued_threads_`;
`threads_` from `pthread_t` to `Thread`; `zombie_threads_`; `finalizing_`;
the `pthread_self()` of the next donated thread; and the calls. -/
structure ThreadManager where
  threadObjects : List Thread
  queuedThreads : List Nat
  threads : List (Nat × Nat)
  zombieThreads : List Nat
  finalizing : Bool
  nextSelf : Nat
  calls : List Call
  deriving DecidableEq, Repr

/-- What the scheduler does next: start a call, or take one step of call
`call`, where `hostCreates` is whether `TrustedPrimitives::CreateThread`
makes a thread. -/
inductive Action
  | createThread (routineResult : Nat) (detached : Bool)
  | joinThread (target : Nat)
  | detachThread (target : Nat)
  | finalize
  | advance (call : Nat) (hostCreates : Bool)
  deriving DecidableEq, Repr

namespace ThreadManager

/-- No `Thread`, no call, not finalizing. -/
def init : ThreadManager := ⟨[], [], [], [], false, 0, []⟩

variable (m : ThreadManager)

/-- Call `i` moves on to `call`. -/
def setCall (i : Nat) (call : Call) : ThreadManager := { m with calls := m.calls.set i call }

/-- `Thread` `thread` changes by `f`. -/
def modifyThread (thread : Nat) (f : Thread → Thread) : ThreadManager :=
  { m with threadObjects := m.threadObjects.modify thread f }

/-- `GetThread(thread_id)`. -/
def getThread (threadId : Nat) : Option Nat := m.threads.lookup threadId

/-- `CreateThread` from its `EnqueueThread` on. -/
def createThread (i thread : Nat) (hostCreates : Bool) : CreateStage → Option ThreadManager
  | .enqueued =>
    if hostCreates then
      -- the host will donate a thread, which enters through StartThread
      some { m with
        nextSelf := m.nextSelf + 1
        calls := m.calls.set i (.createThread thread .waiting) ++ [.startThread m.nextSelf .dequeue] }
    else some (m.setCall i (.createThread thread (.returned ECHILD)))
  | .waiting =>
    match m.threadObjects[thread]? with
    | some object => if object.state ≠ .QUEUED then some (m.setCall i (.createThread thread (.returned 0))) else none
    | none => none
  | .returned _ => none

/-- `StartThread(tid)`: `DequeueThread`, `Run`, the wait for a join, and
the erasure from `threads_`. -/
def startThread (i self : Nat) : StartStage → Option ThreadManager
  | .dequeue =>
    match m.queuedThreads with
    -- CHECK(!queued_threads_.empty()) fails
    | [] => some (m.setCall i (.startThread self .aborted))
    | thread :: rest =>
      some { m.setCall i (.startThread self (.running thread)) with
        queuedThreads := rest, threads := (self, thread) :: m.threads }
  | .running thread =>
    some ((m.modifyThread thread fun object => { object with state := .RUNNING }).setCall i
      (.startThread self (.routine thread)))
  | .routine thread =>
    -- start_routine_(), which ends with UpdateThreadResult
    some ((m.modifyThread thread fun object => { object with runs := object.runs + 1, ret := object.routineResult }).setCall i
      (.startThread self (.cleanup thread)))
  | .cleanup thread =>
    some ((m.modifyThread thread fun object => { object with cleanedUp := true }).setCall i
      (.startThread self (.finishing thread)))
  | .finishing thread =>
    some ((m.modifyThread thread fun object => { object with state := .DONE }).setCall i
      (.startThread self (.waitingForJoin thread)))
  | .waitingForJoin thread =>
    match m.threadObjects[thread]? with
    | some object =>
      if object.state = .JOINED ∨ object.detached then some (m.setCall i (.startThread self (.erasing false)))
      else if m.finalizing then some (m.setCall i (.startThread self (.erasing true)))
      else none
    | none => none
  | .erasing skippedJoin =>
    some { m.setCall i (.startThread self .returned) with
      zombieThreads := if skippedJoin then self :: m.zombieThreads else m.zombieThreads
      threads := m.threads.filter fun entry => entry.1 ≠ self }
  | .returned | .aborted => none

/-- `JoinThread(thread_id, return_value_out)`. -/
def joinThread (i target : Nat) : JoinStage → Option ThreadManager
  | .lookup =>
    match m.getThread target with
    | some thread => some (m.setCall i (.joinThread target (.waiting thread)))
    | none => some (m.setCall i (.joinThread target .zombieCheck))
  | .zombieCheck =>
    if m.finalizing ∧ target ∈ m.zombieThreads then
      some { m.setCall i (.joinThread target (.returned 0 none)) with zombieThreads := m.zombieThreads.erase target }
    else some (m.setCall i (.joinThread target (.returned ESRCH none)))
  | .waiting thread =>
    match m.threadObjects[thread]? with
    | some object =>
      if object.state = .DONE ∨ object.detached then some (m.setCall i (.joinThread target (.checking thread)))
      else none
    | none => none
  | .checking thread =>
    match m.threadObjects[thread]? with
    | some object =>
      if object.detached then some (m.setCall i (.joinThread target (.returned EINVAL none)))
      else some (m.setCall i (.joinThread target (.joining thread object.ret)))
    | none => none
  | .joining thread value =>
    some ((m.modifyThread thread fun object => { object with state := .JOINED }).setCall i
      (.joinThread target (.returned 0 (some (thread, value)))))
  | .returned _ _ => none

/-- `DetachThread(thread_id)`. -/
def detachThread (i target : Nat) : DetachStage → Option ThreadManager
  | .lookup =>
    match m.getThread target with
    | some thread => some (m.setCall i (.detachThread target (.checking thread)))
    | none => some (m.setCall i (.detachThread target (.returned ESRCH)))
  | .checking thread =>
    match m.threadObjects[thread]? with
    | some object =>
      if object.detached then some (m.setCall i (.detachThread target (.returned EINVAL)))
      else some (m.setCall i (.detachThread target (.detaching thread)))
    | none => none
  | .detaching thread =>
    some ((m.modifyThread thread fun object => { object with detached := true }).setCall i
      (.detachThread target (.returned 0)))
  | .returned _ => none

/-- `Finalize()`. -/
def finalize (i : Nat) : FinalizeStage → Option ThreadManager
  | .begin => some { m.setCall i (.finalize .waiting) with finalizing := true }
  | .waiting =>
    if m.queuedThreads = [] ∧ m.threads = [] then some (m.setCall i (.finalize .returned)) else none
  | .returned => none

/-- One step of call `i`. -/
def advance (i : Nat) (hostCreates : Bool) : Call → Option ThreadManager
  | .createThread thread stage => m.createThread i thread hostCreates stage
  | .startThread self stage => m.startThread i self stage
  | .joinThread target stage => m.joinThread i target stage
  | .detachThread target stage => m.detachThread i target stage
  | .finalize stage => m.finalize i stage

/-- One action of the scheduler; `none` when it cannot be taken. A new
`CreateThread` runs its `EnqueueThread` at once. -/
def step : Action → Option ThreadManager
  | .createThread routineResult detached =>
    some { m with
      threadObjects := m.threadObjects ++ [⟨.QUEUED, detached, routineResult, 0, 0, false⟩]
      queuedThreads := m.queuedThreads ++ [m.threadObjects.length]
      calls := m.calls ++ [.createThread m.threadObjects.length .enqueued] }
  | .joinThread target => some { m with calls := m.calls ++ [.joinThread target .lookup] }
  | .detachThread target => some { m with calls := m.calls ++ [.detachThread target .lookup] }
  | .finalize => some { m with calls := m.calls ++ [.finalize .begin] }
  | .advance i hostCreates =>
    match m.calls[i]? with
    | some call => m.advance i hostCreates call
    | none => none

/-- The actions one after the other, until one cannot be taken. -/
def run : ThreadManager → List Action → Option ThreadManager
  | m, [] => some m
  | m, action :: actions =>
    match m.step action with
    | some next => run next actions
    | none => none

end ThreadManager

end Asylo.Threading
