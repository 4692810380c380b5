import Asylo.ThreadManager

/-! What every interleaving of the `ThreadManager`'s calls keeps, and what
some break.

Each `Thread` carries one token from its `EnqueueThread` on: in the queue,
then with the donated thread that took it until its start routine has run,
then as that run. So a start routine runs at most once (`runs_le_one`), and
only on a donated thread that took its `Thread` off the queue
(`held_le_one`). The donated threads that are still to dequeue never
outnumber the queue, so the `CHECK` of `DequeueThread` never fails
(`not_aborted`). But a `CreateThread` the host refuses leaves its `Thread`
queued, two joins of one thread can both succeed, and a join of a zombie
succeeds without the return value (`thread_lifecycle_broken`). -/
namespace Asylo.Threading

namespace ThreadManager

variable (m : ThreadManager)

@[simp] theorem setCall_calls (i : Nat) (call : Call) : (m.setCall i call).calls = m.calls.set i call := rfl

@[simp] theorem setCall_queuedThreads (i : Nat) (call : Call) :
    (m.setCall i call).queuedThreads = m.queuedThreads := rfl

@[simp] theorem setCall_threadObjects (i : Nat) (call : Call) :
    (m.setCall i call).threadObjects = m.threadObjects := rfl

@[simp] theorem modifyThread_calls (thread : Nat) (f : Thread → Thread) : (m.modifyThread thread f).calls = m.calls :=
  rfl

@[simp] theorem modifyThread_queuedThreads (thread : Nat) (f : Thread → Thread) :
    (m.modifyThread thread f).queuedThreads = m.queuedThreads := rfl

@[simp] theorem modifyThread_threadObjects (thread : Nat) (f : Thread → Thread) :
    (m.modifyThread thread f).threadObjects = m.threadObjects.modify thread f := rfl

/-- How often the start routine of `Thread` `thread` has run. -/
def runsOf (thread : Nat) : Nat := (m.threadObjects[thread]?.map Thread.runs).getD 0

end ThreadManager

/-- A call that will dequeue a `Thread`: a `CreateThread` that has not yet
asked the host, or a donated thread that has not yet dequeued. -/
def Call.pendingDonation : Call → Bool
  | .createThread _ .enqueued => true
  | .startThread _ .dequeue => true
  | _ => false

/-- A donated thread whose `CHECK` in `DequeueThread` failed. -/
def Call.isAborted : Call → Bool
  | .startThread _ .aborted => true
  | _ => false

/-- A donated thread that holds `Thread` `thread` and has not yet run its
start routine. -/
def Call.beforeRoutine (thread : Nat) : Call → Bool
  | .startThread _ (.running held) => held == thread
  | .startThread _ (.routine held) => held == thread
  | _ => false

/-- A call that holds no token: it will not dequeue, has not aborted, and
holds no `Thread` before its start routine. -/
structure Call.Inert (call : Call) : Prop where
  notPending : call.pendingDonation = false
  notAborted : call.isAborted = false
  holdsNone : ∀ thread, call.beforeRoutine thread = false

namespace ThreadManager

variable (m : ThreadManager)

/-- The tokens of `Thread` `thread`: in the queue, held before the start
routine, and runs. -/
def tokens (thread : Nat) : Nat :=
  m.queuedThreads.count thread + m.calls.countP (Call.beforeRoutine thread) + m.runsOf thread

/-- What every interleaving keeps: each `Thread` has one token and a number
past the end none; the calls still to dequeue do not outnumber the queue;
and no donated thread has aborted. -/
structure Good : Prop where
  tokens_eq : ∀ thread, m.tokens thread = if thread < m.threadObjects.length then 1 else 0
  donations : m.calls.countP Call.pendingDonation ≤ m.queuedThreads.length
  noneAborted : m.calls.countP Call.isAborted = 0

theorem init_good : init.Good :=
  ⟨fun thread => by simp [tokens, runsOf, init], by simp [init], by simp [init]⟩

end ThreadManager

namespace ThreadManager

variable {m : ThreadManager}

/-- Replacing call `i` changes a count of the calls by the shares of the old
and the new call. -/
theorem countP_set_call {p : Call → Bool} {i : Nat} {call : Call} (found : m.calls[i]? = some call) (call' : Call) :
    (m.calls.set i call').countP p + (if p call then 1 else 0) = m.calls.countP p + (if p call' then 1 else 0) := by
  obtain ⟨below, rfl⟩ := List.getElem?_eq_some_iff.mp found
  have within := List.boole_getElem_le_countP (p := p) below
  rw [List.countP_set below]
  omega

theorem runsOf_modifyThread (thread : Nat) (f : Thread → Thread) (other : Nat) :
    (m.modifyThread thread f).runsOf other =
      if other = thread then (m.threadObjects[other]?.map fun object => (f object).runs).getD 0 else m.runsOf other := by
  unfold runsOf
  rw [modifyThread_threadObjects, List.getElem?_modify]
  by_cases same : other = thread
  · subst same
    cases m.threadObjects[other]? <;> simp
  · simp [same, Ne.symm same]

/-- A change of a `Thread` that leaves its runs keeps every count of runs. -/
theorem runsOf_modifyThread_of_runs (thread : Nat) {f : Thread → Thread} (keeps : ∀ object, (f object).runs = object.runs)
    (other : Nat) : (m.modifyThread thread f).runsOf other = m.runsOf other := by
  rw [runsOf_modifyThread]
  by_cases same : other = thread
  · subst same
    cases found : m.threadObjects[other]? <;> simp [runsOf, keeps, found]
  · simp [same]

end ThreadManager

namespace ThreadManager

variable {m m' : ThreadManager}

/-- Replacing a call by one that will not dequeue unless it would keeps the
calls still to dequeue within the queue. -/
theorem Good.donations_set (good : m.Good) {i : Nat} {call : Call} (found : m.calls[i]? = some call) (call' : Call)
    (pendingLe : call'.pendingDonation = true → call.pendingDonation = true) :
    (m.calls.set i call').countP Call.pendingDonation ≤ m.queuedThreads.length := by
  have counted := countP_set_call (p := Call.pendingDonation) found call'
  have := good.donations
  cases pending : call'.pendingDonation
  · simp only [pending, Bool.false_eq_true, if_false] at counted
    omega
  · simp only [pending, pendingLe pending, if_true] at counted
    omega

/-- Replacing a call by one that has not aborted leaves no call aborted. -/
theorem Good.noneAborted_set (good : m.Good) {i : Nat} {call : Call} (found : m.calls[i]? = some call) (call' : Call)
    (notAborted : call'.isAborted = false) : (m.calls.set i call').countP Call.isAborted = 0 := by
  have counted := countP_set_call (p := Call.isAborted) found call'
  have := good.noneAborted
  simp only [notAborted, Bool.false_eq_true, if_false] at counted
  omega

/-- A step that moves call `i` to a call with the same tokens, that will not
dequeue unless the old one would and has not aborted, changing no runs,
keeps the invariant. -/
theorem Good.of_shares (good : m.Good) {i : Nat} {call call' : Call} (found : m.calls[i]? = some call)
    (calls : m'.calls = m.calls.set i call') (queue : m'.queuedThreads = m.queuedThreads)
    (length : m'.threadObjects.length = m.threadObjects.length)
    (runs : ∀ thread, m'.runsOf thread = m.runsOf thread)
    (sameHeld : ∀ thread, call'.beforeRoutine thread = call.beforeRoutine thread)
    (pendingLe : call'.pendingDonation = true → call.pendingDonation = true) (notAborted : call'.isAborted = false) :
    m'.Good := by
  refine ⟨fun thread => ?_, ?_, ?_⟩
  · have counted := countP_set_call (p := Call.beforeRoutine thread) found call'
    rw [sameHeld thread] at counted
    have before := good.tokens_eq thread
    unfold tokens at before ⊢
    rw [calls, queue, runs, length]
    omega
  · rw [calls, queue]
    exact good.donations_set found call' pendingLe
  · rw [calls]
    exact good.noneAborted_set found call' notAborted

/-- A call that holds no token added to the calls keeps the invariant. -/
theorem Good.of_added (good : m.Good) {call : Call} (inert : call.Inert) :
    ({ m with calls := m.calls ++ [call] } : ThreadManager).Good := by
  refine ⟨fun thread => ?_, ?_, ?_⟩
  · have before := good.tokens_eq thread
    unfold tokens runsOf at before ⊢
    simpa [inert.holdsNone] using before
  · simpa [inert.notPending] using good.donations
  · simpa [inert.notAborted] using good.noneAborted

end ThreadManager

namespace ThreadManager

variable {m : ThreadManager}

/-- A `Thread` made at the end has its own runs; the others keep theirs. -/
theorem runsOf_append_thread (object : Thread) (thread : Nat) :
    ({ m with threadObjects := m.threadObjects ++ [object] } : ThreadManager).runsOf thread =
      if thread = m.threadObjects.length then object.runs else m.runsOf thread := by
  unfold runsOf
  rcases Nat.lt_trichotomy thread m.threadObjects.length with below | rfl | above
  · simp [List.getElem?_append_left below, Nat.ne_of_lt below]
  · simp
  · have outside : m.threadObjects.length < thread := above
    simp [Nat.ne_of_gt above, List.getElem?_eq_none_iff.mpr (by simp; omega : (m.threadObjects ++ [object]).length ≤ thread),
      List.getElem?_eq_none_iff.mpr (Nat.le_of_lt outside)]

/-- `EnqueueThread` gives the new `Thread` its token, in the queue, and adds
a call still to dequeue. -/
theorem Good.createThread (good : m.Good) (routineResult : Nat) (detached : Bool) :
    ({ m with
      threadObjects := m.threadObjects ++ [⟨.QUEUED, detached, routineResult, 0, 0, false⟩]
      queuedThreads := m.queuedThreads ++ [m.threadObjects.length]
      calls := m.calls ++ [.createThread m.threadObjects.length .enqueued] } : ThreadManager).Good := by
  refine ⟨fun thread => ?_, ?_, ?_⟩
  · have before := good.tokens_eq thread
    have runs := runsOf_append_thread (m := { m with
      queuedThreads := m.queuedThreads ++ [m.threadObjects.length]
      calls := m.calls ++ [.createThread m.threadObjects.length .enqueued] }) ⟨.QUEUED, detached, routineResult, 0, 0, false⟩ thread
    unfold tokens at before ⊢
    simp only [List.count_append, List.countP_append, List.length_append, List.length_singleton,
      List.count_singleton, List.countP_singleton, Call.beforeRoutine, Bool.false_eq_true, if_false,
      Nat.add_zero, beq_iff_eq] at before runs ⊢
    rw [runs]
    unfold runsOf at before ⊢
    -- the new Thread is the one numbered by the old length
    rcases Nat.lt_trichotomy thread m.threadObjects.length with below | rfl | above
    · simp only [Nat.ne_of_gt below, Nat.ne_of_lt below, below, if_false, if_true] at before ⊢
      simp [Nat.lt_succ_of_lt below, before]
    · simp only [Nat.lt_irrefl, if_false, if_true] at before ⊢
      simp only [Nat.lt_succ_self, if_true]
      omega
    · have notBelow : ¬ thread < m.threadObjects.length := by omega
      have notNew : m.threadObjects.length ≠ thread := by omega
      have outside : ¬ thread < m.threadObjects.length + 1 := by omega
      simp only [notBelow, notNew, Ne.symm notNew, outside, if_false] at before ⊢
      omega
  · simp only [List.countP_append, List.length_append]
    have := good.donations
    simp [Call.pendingDonation]
    omega
  · simpa [Call.isAborted] using good.noneAborted

end ThreadManager

/-! ## One step -/

namespace ThreadManager

variable {m m' : ThreadManager}

/-- A step that moves call `i` to another point, with the queue, the
`Thread`s and their runs as they were. -/
structure Frame (m m' : ThreadManager) (i : Nat) (call' : Call) : Prop where
  calls : m'.calls = m.calls.set i call'
  queue : m'.queuedThreads = m.queuedThreads
  length : m'.threadObjects.length = m.threadObjects.length
  runs : ∀ thread, m'.runsOf thread = m.runsOf thread

theorem Frame.setCall (i : Nat) (call' : Call) : Frame m (m.setCall i call') i call' :=
  ⟨rfl, rfl, rfl, fun _ => rfl⟩

theorem Frame.modifyThread (i thread : Nat) {f : Thread → Thread} (keeps : ∀ object, (f object).runs = object.runs)
    (call' : Call) : Frame m ((m.modifyThread thread f).setCall i call') i call' :=
  ⟨rfl, rfl, by simp, fun other => runsOf_modifyThread_of_runs thread keeps other⟩

/-- Every step of `JoinThread` moves only its own call and changes no runs. -/
theorem joinThread_frame {i target : Nat} {stage : JoinStage} (advanced : m.joinThread i target stage = some m') :
    ∃ stage', Frame m m' i (.joinThread target stage') := by
  cases stage with
  | lookup =>
    simp only [joinThread] at advanced
    split at advanced <;> cases advanced <;> exact ⟨_, Frame.setCall i _⟩
  | zombieCheck =>
    simp only [joinThread] at advanced
    split at advanced <;> cases advanced
    · exact ⟨_, ⟨rfl, rfl, rfl, fun _ => rfl⟩⟩
    · exact ⟨_, Frame.setCall i _⟩
  | waiting thread =>
    simp only [joinThread] at advanced
    split at advanced
    · split at advanced
      · cases advanced
        exact ⟨_, Frame.setCall i _⟩
      · cases advanced
    · cases advanced
  | checking thread =>
    simp only [joinThread] at advanced
    split at advanced
    · split at advanced <;> cases advanced <;> exact ⟨_, Frame.setCall i _⟩
    · cases advanced
  | joining thread value =>
    cases advanced
    exact ⟨_, Frame.modifyThread i thread (f := fun object => { object with state := .JOINED }) (fun _ => rfl) _⟩
  | returned _ _ => cases advanced

/-- Every step of `DetachThread` moves only its own call and changes no runs. -/
theorem detachThread_frame {i target : Nat} {stage : DetachStage} (advanced : m.detachThread i target stage = some m') :
    ∃ stage', Frame m m' i (.detachThread target stage') := by
  cases stage with
  | lookup =>
    simp only [detachThread] at advanced
    split at advanced <;> cases advanced <;> exact ⟨_, Frame.setCall i _⟩
  | checking thread =>
    simp only [detachThread] at advanced
    split at advanced
    · split at advanced <;> cases advanced <;> exact ⟨_, Frame.setCall i _⟩
    · cases advanced
  | detaching thread =>
    cases advanced
    exact ⟨_, Frame.modifyThread i thread (f := fun object => { object with detached := true }) (fun _ => rfl) _⟩
  | returned _ => cases advanced

/-- Every step of `Finalize` moves only its own call. -/
theorem finalize_frame {i : Nat} {stage : FinalizeStage} (advanced : m.finalize i stage = some m') :
    ∃ stage', Frame m m' i (.finalize stage') := by
  cases stage with
  | begin =>
    cases advanced
    exact ⟨_, ⟨rfl, rfl, rfl, fun _ => rfl⟩⟩
  | waiting =>
    simp only [finalize] at advanced
    split at advanced
    · cases advanced
      exact ⟨_, Frame.setCall i _⟩
    · cases advanced
  | returned => cases advanced

/-- A framed step between calls that hold no token keeps the invariant. -/
theorem Good.of_frame (good : m.Good) {i : Nat} {call call' : Call} (found : m.calls[i]? = some call)
    (inert : call.Inert) (inert' : call'.Inert) (frame : Frame m m' i call') : m'.Good :=
  good.of_shares found frame.calls frame.queue frame.length frame.runs
    (fun thread => by rw [inert.holdsNone, inert'.holdsNone])
    (fun pending => by rw [inert'.notPending] at pending; cases pending) inert'.notAborted

end ThreadManager

namespace ThreadManager

variable {m : ThreadManager}

/-- A call in the list counts in every count it satisfies. -/
theorem one_le_countP_of_found {p : Call → Bool} {i : Nat} {call : Call} (found : m.calls[i]? = some call)
    (holds : p call = true) : 1 ≤ m.calls.countP p := by
  obtain ⟨below, rfl⟩ := List.getElem?_eq_some_iff.mp found
  have within := List.boole_getElem_le_countP (p := p) below
  simpa [holds] using within

/-- A donated thread still to dequeue finds the queue not empty. -/
theorem Good.queue_ne_nil (good : m.Good) {i self : Nat} (found : m.calls[i]? = some (.startThread self .dequeue)) :
    m.queuedThreads ≠ [] := by
  intro empty
  have pending := one_le_countP_of_found (p := Call.pendingDonation) found rfl
  have := good.donations
  rw [empty, List.length_nil] at this
  omega

/-- The host donates a thread: the `CreateThread` waits and a call that will
dequeue takes its place among the pending ones. -/
theorem Good.donate (good : m.Good) {i thread : Nat} (found : m.calls[i]? = some (.createThread thread .enqueued)) :
    ({ m with
      nextSelf := m.nextSelf + 1
      calls := m.calls.set i (.createThread thread .waiting) ++ [.startThread m.nextSelf .dequeue] } : ThreadManager).Good := by
  refine ⟨fun other => ?_, ?_, ?_⟩
  · have counted := countP_set_call (p := Call.beforeRoutine other) found (.createThread thread .waiting)
    have before := good.tokens_eq other
    simp only [Call.beforeRoutine, Bool.false_eq_true, if_false, Nat.add_zero] at counted
    unfold tokens runsOf at before ⊢
    simp only [List.countP_append, counted, List.countP_singleton, Call.beforeRoutine, Bool.false_eq_true,
      if_false, Nat.add_zero]
    exact before
  · have counted := countP_set_call (p := Call.pendingDonation) found (.createThread thread .waiting)
    have := good.donations
    simp only [Call.pendingDonation, if_true, Bool.false_eq_true, if_false, Nat.add_zero] at counted
    simp only [List.countP_append, List.countP_singleton, Call.pendingDonation, if_true]
    omega
  · simp only [List.countP_append, List.countP_singleton, Call.isAborted, Bool.false_eq_true, if_false, Nat.add_zero]
    exact good.noneAborted_set found _ rfl

/-- `DequeueThread` moves the token of the `Thread` at the front of the queue
to the donated thread. -/
theorem Good.dequeue (good : m.Good) {i self thread : Nat} {rest : List Nat}
    (found : m.calls[i]? = some (.startThread self .dequeue)) (queued : m.queuedThreads = thread :: rest) :
    ({ m.setCall i (.startThread self (.running thread)) with
      queuedThreads := rest, threads := (self, thread) :: m.threads } : ThreadManager).Good := by
  refine ⟨fun other => ?_, ?_, ?_⟩
  · have counted := countP_set_call (p := Call.beforeRoutine other) found (.startThread self (.running thread))
    have before := good.tokens_eq other
    unfold tokens at before ⊢
    rw [queued] at before
    dsimp only
    rw [setCall_calls]
    change _ + _ + m.runsOf other = if other < m.threadObjects.length then 1 else 0
    -- the token leaves the queue exactly for the Thread the call now holds
    by_cases same : thread = other
    · subst same
      simp only [Call.beforeRoutine, beq_self_eq_true, if_true, Bool.false_eq_true, if_false, Nat.add_zero] at counted
      rw [List.count_cons_self] at before
      omega
    · simp only [Call.beforeRoutine, beq_iff_eq, same, Bool.false_eq_true, if_false, Nat.add_zero] at counted
      rw [List.count_cons_of_ne same] at before
      omega
  · have counted := countP_set_call (p := Call.pendingDonation) found (.startThread self (.running thread))
    have := good.donations
    simp only [Call.pendingDonation, if_true, Bool.false_eq_true, if_false, Nat.add_zero] at counted
    rw [queued, List.length_cons] at this
    simp only [setCall_calls]
    omega
  · exact good.noneAborted_set found _ rfl

end ThreadManager

namespace ThreadManager

variable {m : ThreadManager}

/-- A number with a token is that of a `Thread`. -/
theorem Good.lt_length (good : m.Good) {thread : Nat} (held : 1 ≤ m.tokens thread) :
    thread < m.threadObjects.length := by
  have counted := good.tokens_eq thread
  by_contra outside
  rw [if_neg outside] at counted
  omega

/-- The start routine runs: the token of its `Thread` moves from the donated
thread to the runs. -/
theorem Good.routine (good : m.Good) {i self thread : Nat}
    (found : m.calls[i]? = some (.startThread self (.routine thread))) :
    ((m.modifyThread thread fun object => { object with runs := object.runs + 1, ret := object.routineResult }).setCall i
      (.startThread self (.cleanup thread))).Good := by
  have exists' : thread < m.threadObjects.length := by
    have held := one_le_countP_of_found (p := Call.beforeRoutine thread) found (by simp [Call.beforeRoutine])
    exact good.lt_length (by unfold tokens; omega)
  obtain ⟨object, object_found⟩ : ∃ object, m.threadObjects[thread]? = some object :=
    ⟨_, List.getElem?_eq_getElem exists'⟩
  refine ⟨fun other => ?_, ?_, ?_⟩
  · have counted := countP_set_call (p := Call.beforeRoutine other) found (.startThread self (.cleanup thread))
    have before := good.tokens_eq other
    unfold tokens at before ⊢
    simp only [setCall_calls, setCall_queuedThreads, setCall_threadObjects, modifyThread_calls,
      modifyThread_queuedThreads, modifyThread_threadObjects, List.length_modify]
    -- the donated thread gives up exactly the token of the Thread it runs
    by_cases same : other = thread
    · subst same
      have runs : ((m.modifyThread other fun object => { object with runs := object.runs + 1, ret := object.routineResult }).setCall i
          (.startThread self (.cleanup other))).runsOf other = m.runsOf other + 1 := by
        change (m.modifyThread other _).runsOf other = _
        rw [runsOf_modifyThread, if_pos rfl]
        simp [runsOf, object_found]
      simp only [Call.beforeRoutine, beq_self_eq_true, if_true, Bool.false_eq_true, if_false, Nat.add_zero] at counted
      rw [runs]
      omega
    · have runs : ((m.modifyThread thread fun object => { object with runs := object.runs + 1, ret := object.routineResult }).setCall i
          (.startThread self (.cleanup thread))).runsOf other = m.runsOf other := by
        change (m.modifyThread thread _).runsOf other = _
        rw [runsOf_modifyThread, if_neg same]
      simp only [Call.beforeRoutine, beq_iff_eq, Ne.symm same, Bool.false_eq_true, if_false, Nat.add_zero] at counted
      rw [runs]
      omega
  · exact good.donations_set found _ fun pending => by cases pending
  · exact good.noneAborted_set found _ rfl

end ThreadManager

namespace ThreadManager

variable {m m' : ThreadManager}

theorem Good.createThread_step (good : m.Good) {i thread : Nat} {hostCreates : Bool} {stage : CreateStage}
    (found : m.calls[i]? = some (.createThread thread stage))
    (advanced : m.createThread i thread hostCreates stage = some m') : m'.Good := by
  cases stage with
  | enqueued =>
    cases hostCreates with
    | true =>
      cases advanced
      exact good.donate found
    | false =>
      cases advanced
      -- a refused thread leaves the queue as it is: the call no longer counts as pending
      exact good.of_shares found rfl rfl rfl (fun _ => rfl) (fun _ => rfl) (fun _ => rfl) rfl
  | waiting =>
    simp only [ThreadManager.createThread] at advanced
    split at advanced
    · split at advanced
      · cases advanced
        exact good.of_frame found ⟨rfl, rfl, fun _ => rfl⟩ ⟨rfl, rfl, fun _ => rfl⟩ (Frame.setCall i _)
      · cases advanced
    · cases advanced
  | returned _ => cases advanced

theorem Good.startThread_step (good : m.Good) {i self : Nat} {stage : StartStage}
    (found : m.calls[i]? = some (.startThread self stage)) (advanced : m.startThread i self stage = some m') :
    m'.Good := by
  cases stage with
  | dequeue =>
    simp only [ThreadManager.startThread] at advanced
    split at advanced
    · exact absurd ‹m.queuedThreads = []› (good.queue_ne_nil found)
    · cases advanced
      exact good.dequeue found ‹_›
  | running thread =>
    cases advanced
    -- the call keeps its token: it still holds the Thread before its start routine
    exact good.of_shares found rfl rfl (by simp)
      (fun other => runsOf_modifyThread_of_runs thread (f := fun object => { object with state := .RUNNING })
        (fun _ => rfl) other)
      (fun _ => rfl) (fun pending => by cases pending) rfl
  | routine thread =>
    cases advanced
    exact good.routine found
  | cleanup thread =>
    cases advanced
    exact good.of_frame found ⟨rfl, rfl, fun _ => rfl⟩ ⟨rfl, rfl, fun _ => rfl⟩
      (Frame.modifyThread i thread (f := fun object => { object with cleanedUp := true }) (fun _ => rfl) _)
  | finishing thread =>
    cases advanced
    exact good.of_frame found ⟨rfl, rfl, fun _ => rfl⟩ ⟨rfl, rfl, fun _ => rfl⟩
      (Frame.modifyThread i thread (f := fun object => { object with state := .DONE }) (fun _ => rfl) _)
  | waitingForJoin thread =>
    simp only [ThreadManager.startThread] at advanced
    split at advanced
    · split at advanced
      · cases advanced
        exact good.of_frame found ⟨rfl, rfl, fun _ => rfl⟩ ⟨rfl, rfl, fun _ => rfl⟩ (Frame.setCall i _)
      · split at advanced
        · cases advanced
          exact good.of_frame found ⟨rfl, rfl, fun _ => rfl⟩ ⟨rfl, rfl, fun _ => rfl⟩ (Frame.setCall i _)
        · cases advanced
    · cases advanced
  | erasing skippedJoin =>
    cases advanced
    exact good.of_frame found ⟨rfl, rfl, fun _ => rfl⟩ ⟨rfl, rfl, fun _ => rfl⟩ ⟨rfl, rfl, rfl, fun _ => rfl⟩
  | returned => cases advanced
  | aborted => cases advanced

/-- Every step of the scheduler keeps the invariant. -/
theorem Good.step (good : m.Good) {action : Action} (stepped : m.step action = some m') : m'.Good := by
  cases action with
  | createThread routineResult detached =>
    cases stepped
    exact good.createThread routineResult detached
  | joinThread target =>
    cases stepped
    exact good.of_added ⟨rfl, rfl, fun _ => rfl⟩
  | detachThread target =>
    cases stepped
    exact good.of_added ⟨rfl, rfl, fun _ => rfl⟩
  | finalize =>
    cases stepped
    exact good.of_added ⟨rfl, rfl, fun _ => rfl⟩
  | advance i hostCreates =>
    cases found : m.calls[i]? with
    | none => simp [ThreadManager.step, found] at stepped
    | some call =>
      simp only [ThreadManager.step, found] at stepped
      cases call with
      | createThread thread stage => exact good.createThread_step found stepped
      | startThread self stage => exact good.startThread_step found stepped
      | joinThread target stage =>
        obtain ⟨_, frame⟩ := joinThread_frame stepped
        exact good.of_frame found ⟨rfl, rfl, fun _ => rfl⟩ ⟨rfl, rfl, fun _ => rfl⟩ frame
      | detachThread target stage =>
        obtain ⟨_, frame⟩ := detachThread_frame stepped
        exact good.of_frame found ⟨rfl, rfl, fun _ => rfl⟩ ⟨rfl, rfl, fun _ => rfl⟩ frame
      | finalize stage =>
        obtain ⟨_, frame⟩ := finalize_frame stepped
        exact good.of_frame found ⟨rfl, rfl, fun _ => rfl⟩ ⟨rfl, rfl, fun _ => rfl⟩ frame

/-- Every run keeps the invariant. -/
theorem Good.run : ∀ {m m' : ThreadManager} (actions : List Action), m.Good → m.run actions = some m' → m'.Good
  | _, _, [], good, ran => by
    cases ran
    exact good
  | m, _, action :: actions, good, ran => by
    unfold ThreadManager.run at ran
    cases stepped : m.step action with
    | none => simp [stepped] at ran
    | some next =>
      rw [stepped] at ran
      exact Good.run actions (good.step stepped) ran

end ThreadManager

/-! ## Every interleaving -/

namespace ThreadManager

/-- A state some interleaving of calls reaches. -/
def Reachable (m : ThreadManager) : Prop := ∃ actions, init.run actions = some m

variable {m : ThreadManager}

theorem Reachable.good (reachable : m.Reachable) : m.Good :=
  let ⟨actions, ran⟩ := reachable
  Good.run actions init_good ran

/-- In every interleaving, the start routine of each `Thread` runs at most
once. -/
theorem runs_le_one (reachable : m.Reachable) (thread : Nat) : m.runsOf thread ≤ 1 := by
  have counted := reachable.good.tokens_eq thread
  unfold tokens at counted
  split at counted <;> omega

/-- In every interleaving, at most one donated thread holds a `Thread`
before its start routine, and none while it is queued or once it has run. -/
theorem held_le_one (reachable : m.Reachable) (thread : Nat) :
    m.queuedThreads.count thread + m.calls.countP (Call.beforeRoutine thread) + m.runsOf thread ≤ 1 := by
  have counted := reachable.good.tokens_eq thread
  unfold tokens at counted
  split at counted <;> omega

/-- In every interleaving, a donated thread finds a `Thread` in the queue:
the `CHECK` of `DequeueThread` never fails. -/
theorem not_aborted (reachable : m.Reachable) : ∀ call ∈ m.calls, call.isAborted = false := by
  intro call member
  have none := reachable.good.noneAborted
  rw [List.countP_eq_zero] at none
  simpa using none call member

end ThreadManager

/-! ## Interleavings that break the lifecycle -/

/-- Four runs from a fresh `ThreadManager`. A `CreateThread` the host refuses
returns `ECHILD` and leaves its `Thread` queued, so a `Finalize` cannot end
its wait. The next `CreateThread` the host accepts gets a donated thread that
runs the refused `Thread`'s start routine, not its own. Two `JoinThread`s of
one finished thread both return 0. And a `JoinThread` of a thread left
unjoined at `Finalize` returns 0 without its return value. -/
theorem thread_lifecycle_broken :
    (ThreadManager.init.run [.createThread 7 false, .advance 0 false]).map (fun m => (m.calls, m.queuedThreads)) =
        some ([.createThread 0 (.returned ECHILD)], [0]) ∧
      ThreadManager.init.run [.createThread 7 false, .advance 0 false, .finalize, .advance 1 true, .advance 1 true] =
        none ∧
      (ThreadManager.init.run [.createThread 7 false, .advance 0 false, .createThread 8 false, .advance 1 true,
          .advance 2 true, .advance 2 true, .advance 2 true]).map (fun m => (m.calls, m.threadObjects.map Thread.runs)) =
        some ([.createThread 0 (.returned ECHILD), .createThread 1 .waiting, .startThread 0 (.cleanup 0)], [1, 0]) ∧
      (ThreadManager.init.run [.createThread 5 false, .advance 0 true, .advance 1 true, .advance 1 true, .advance 1 true,
          .advance 1 true, .advance 1 true, .joinThread 0, .joinThread 0, .advance 2 true, .advance 3 true,
          .advance 2 true, .advance 3 true, .advance 2 true, .advance 3 true, .advance 2 true,
          .advance 3 true]).map (fun m => m.calls) =
        some [.createThread 0 .waiting, .startThread 0 (.waitingForJoin 0), .joinThread 0 (.returned 0 (some (0, 5))),
          .joinThread 0 (.returned 0 (some (0, 5)))] ∧
      (ThreadManager.init.run [.createThread 5 false, .advance 0 true, .advance 1 true, .advance 1 true, .advance 1 true,
          .advance 1 true, .advance 1 true, .finalize, .advance 2 true, .advance 1 true, .advance 1 true, .joinThread 0,
          .advance 3 true, .advance 3 true]).map (fun m => m.calls.getLast?) =
        some (some (.joinThread 0 (.returned 0 none))) := by
  decide

end Asylo.Threading
