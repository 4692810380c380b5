import Asylo.CondVar
import Asylo.PthreadProofs

/-! What the condition variable's waiter list keeps over every interleaving.

In the form the enclave is built with, every thread that has enqueued itself
and not yet removed itself is on the list, along every run of any threads
(`waitersListed_run`): only a waiter removes its own entry. The converse fails.
A wait that returns an error before it sleeps returns without
`list.Remove(self)`, so the list keeps an entry of a thread that waits no more
(`failed_timedwait_stays_listed`). This happens when the caller does not own
the mutex, when the clock fails, and when the deadline has passed. Without the
flag, such an entry at the front is what the next `pthread_cond_signal` takes
off the list, and a thread that does wait stays on it
(`signal_takes_stale_entry`). -/
namespace Asylo.PthreadProofs
open Pthread Machine

/-! ## The list operations -/

@[simp] theorem enqueue_eq (list : List PthreadT) (id : PthreadT) : enqueue list id = list ++ [id] := rfl

@[simp] theorem remove_eq_erase (list : List PthreadT) (id : PthreadT) : remove list id = list.erase id := by
  induction list with
  | nil => rfl
  | cons curr rest ih =>
    by_cases found : curr = id
    · simp [remove, found]
    · simp [remove, found, ih, beq_iff_eq]

@[simp] theorem contains_iff (list : List PthreadT) (id : PthreadT) : contains list id = true ↔ id ∈ list := by
  induction list with
  | nil => simp [contains]
  | cons curr rest ih =>
    simp only [contains, Bool.or_eq_true, decide_eq_true_eq, ih, List.mem_cons]
    exact or_congr_left eq_comm

/-! ## Moving one thread -/

section SetPhase

variable (s : CondSystem) (self : PthreadT) (phase : CondPhase)

@[simp] theorem setPhase_queue : (s.setPhase self phase).queue = s.queue := rfl

@[simp] theorem setPhase_mutex : (s.setPhase self phase).mutex = s.mutex := rfl

@[simp] theorem setPhase_phase_self : (s.setPhase self phase).phase self = phase := by
  simp [CondSystem.setPhase]

theorem setPhase_phase_of_ne {other : PthreadT} (apart : other ≠ self) :
    (s.setPhase self phase).phase other = s.phase other := by
  simp [CondSystem.setPhase, Function.update_of_ne apart]

end SetPhase

section Frame

variable (f : Bool) (self : Thread) (clock : ClockReading) (s : CondSystem) {other : PthreadT}

theorem timedwaitStep_phase_of_ne (phase : CondPhase) (apart : other ≠ self.self) :
    (timedwaitStep f self clock s phase).1.phase other = s.phase other := by
  -- every branch moves `self` alone, or nothing
  cases phase <;> simp only [timedwaitStep] <;> (repeat' split) <;> simp only [setPhase_phase_of_ne _ _ _ apart]

theorem condCall_phase_of_ne (call : CondCall) (apart : other ≠ self.self) :
    (condCall f self s call).1.phase other = s.phase other := by
  cases call <;> simp only [condCall] <;> (repeat' split) <;> simp only [setPhase_phase_of_ne _ _ _ apart]

/-- A step of `pthread_cond_timedwait` leaves the list as it was, or takes its
own thread's first entry off it. -/
theorem timedwaitStep_queue (phase : CondPhase) :
    (timedwaitStep f self clock s phase).1.queue = s.queue ∨
      (timedwaitStep f self clock s phase).1.queue = s.queue.erase self.self := by
  cases phase with
  | sleeping deadline => exact .inr (remove_eq_erase _ _)
  | removing pending => exact .inr (remove_eq_erase _ _)
  | _ =>
    left
    simp only [timedwaitStep]
    repeat' split
    all_goals rfl

/-- With the flag, a call leaves the list as it was, or enqueues its thread. -/
theorem condCall_queue (call : CondCall) :
    (condCall true self s call).1.queue = s.queue ∨ (condCall true self s call).1.queue = s.queue ++ [self.self] := by
  cases call with
  | timedwait deadline => exact .inr rfl
  | signal => exact .inl rfl
  | broadcast => exact .inl rfl
  | mutex op =>
    left
    simp only [condCall]
    split <;> rfl

/-- A step of a wait that leaves its thread on the list came from a phase on
the list and did not touch the list. -/
theorem timedwaitStep_enlisted {phase : CondPhase} (current : s.phase self.self = phase)
    (enlisted : ((timedwaitStep f self clock s phase).1.phase self.self).enlisted) :
    phase.enlisted ∧ (timedwaitStep f self clock s phase).1.queue = s.queue := by
  cases phase with
  | idle => simp [timedwaitStep, current, CondPhase.enlisted] at enlisted
  | enqueued deadline =>
    refine ⟨rfl, ?_⟩
    simp only [timedwaitStep]
    split <;> rfl
  | checking =>
    refine ⟨rfl, ?_⟩
    simp only [timedwaitStep]
    split_ifs
    · rfl
    · split <;> rfl
  | sleeping deadline =>
    simp only [timedwaitStep, setPhase_phase_self] at enlisted
    cases deadline <;> simp [CondPhase.enlisted] at enlisted
  | rechecking =>
    simp only [timedwaitStep] at enlisted
    split_ifs at enlisted
    · simp [CondPhase.enlisted] at enlisted
    · split at enlisted <;> simp [CondPhase.enlisted] at enlisted
  | polling deadline =>
    refine ⟨rfl, ?_⟩
    simp only [timedwaitStep]
    split_ifs <;> rfl
  | removing pending => simp [timedwaitStep, CondPhase.enlisted] at enlisted
  | relocking pending =>
    simp only [timedwaitStep] at enlisted
    split at enlisted <;> simp [current, CondPhase.enlisted] at enlisted

/-- A call that leaves its thread on the list is a wait, which enqueued it. -/
theorem condCall_enlisted (idle : s.phase self.self = .idle) (call : CondCall)
    (enlisted : ((condCall f self s call).1.phase self.self).enlisted) : self.self ∈ (condCall f self s call).1.queue := by
  cases call with
  | timedwait deadline => simp [condCall]
  | signal => simp [condCall, idle, CondPhase.enlisted] at enlisted
  | broadcast => simp [condCall, idle, CondPhase.enlisted] at enlisted
  | mutex op =>
    simp only [condCall] at enlisted
    split at enlisted <;> simp [idle, CondPhase.enlisted] at enlisted

end Frame

/-! ## Every waiter is on the list -/

section Listed

variable {f : Bool} {s : CondSystem} {self : Thread} {other : PthreadT}

theorem condStep_phase_of_ne (action : CondAction) (apart : other ≠ self.self) :
    (condStep f s (self, action)).1.phase other = s.phase other := by
  cases action with
  | call call =>
    simp only [condStep]
    split
    · exact condCall_phase_of_ne f self s call apart
    · rfl
  | resume clock => exact timedwaitStep_phase_of_ne f self clock s _ apart

/-- With the flag, a step of one thread keeps every other thread's entries. -/
theorem condStep_mem_queue_of_ne (action : CondAction) (apart : other ≠ self.self) (listed : other ∈ s.queue) :
    other ∈ (condStep true s (self, action)).1.queue := by
  cases action with
  | call call =>
    simp only [condStep]
    split
    · rcases condCall_queue self s call with same | added
      · rw [same]
        exact listed
      · rw [added]
        exact List.mem_append_left _ listed
    · exact listed
  | resume clock =>
    simp only [condStep]
    rcases timedwaitStep_queue true self clock s (s.phase self.self) with same | erased
    · rw [same]
      exact listed
    · rw [erased]
      exact (List.mem_erase_of_ne apart).mpr listed

/-- A thread that is on the list after its own step was put there by it, or
was there before. -/
theorem condStep_self_listed (wasListed : (s.phase self.self).enlisted → self.self ∈ s.queue) (action : CondAction)
    (enlisted : ((condStep f s (self, action)).1.phase self.self).enlisted) :
    self.self ∈ (condStep f s (self, action)).1.queue := by
  cases action with
  | call call =>
    by_cases idle : s.phase self.self = .idle
    · simp only [condStep, if_pos idle] at enlisted ⊢
      exact condCall_enlisted f self s idle call enlisted
    · simp only [condStep, if_neg idle] at enlisted ⊢
      exact wasListed enlisted
  | resume clock =>
    obtain ⟨wasEnlisted, same⟩ := timedwaitStep_enlisted f self clock s rfl enlisted
    simp only [condStep]
    rw [same]
    exact wasListed wasEnlisted

/-- Every thread that has enqueued itself and not yet removed itself is on
the list. -/
def WaitersListed (s : CondSystem) : Prop := ∀ t, (s.phase t).enlisted → t ∈ s.queue

theorem waitersListed_init (mutex : Mutex) : WaitersListed (CondSystem.init mutex) := by
  intro t enlisted
  simp [CondSystem.init, CondPhase.enlisted] at enlisted

theorem waitersListed_step (listed : WaitersListed s) (event : Thread × CondAction) :
    WaitersListed (condStep true s event).1 := by
  obtain ⟨self, action⟩ := event
  intro t enlisted
  by_cases own : t = self.self
  · subst own
    exact condStep_self_listed (listed self.self) action enlisted
  · rw [condStep_phase_of_ne action own] at enlisted
    exact condStep_mem_queue_of_ne action own (listed t enlisted)

/-- With the flag, along every run of any threads every thread that has
enqueued itself and not yet removed itself is on the list. -/
theorem waitersListed_run (events : List (Thread × CondAction)) (listed : WaitersListed s) :
    WaitersListed (Machine.run (condStep true) s events).1 :=
  @Machine.run_invariant CondSystem (Thread × CondAction) CondOutput (condStep true) WaitersListed
    (fun _ event listed => waitersListed_step listed event) s events listed

end Listed

/-! ## A wait that fails before it sleeps -/

/-- A mutex its owner unlocks can be locked again by it at once, and then is
as it was. -/
theorem relock_after_unlock {self : Thread} {mutex : Mutex} (valid : MutexInv mutex) (owned : mutex.owner = self.self) :
    ∃ released, pthreadMutexUnlock self mutex = (released, .returned (.ok ())) ∧
      pthreadMutexLock self released = (mutex, .returned (.ok ())) := by
  have counted : mutex.refcount ≠ 0 := fun zero => self.self_ne_null (owned ▸ valid.owner_null_iff.mpr zero)
  have checked := pthreadMutexCheckParameter_ok valid
  by_cases last : mutex.refcount - 1 = 0
  · -- the last unlock frees the mutex, and the lock takes it back
    let released : Mutex := { mutex with refcount := mutex.refcount - 1, owner := pthreadTNull }
    have releasedChecked : pthreadMutexCheckParameter released = .ok () := checked
    refine ⟨released, ?_, ?_⟩
    · simp [released, pthreadMutexUnlock, checked, owned, self.self_ne_null, last]
    · simp only [pthreadMutexLock, releasedChecked, pthreadMutexLockInternal]
      rw [if_neg (by simp [released, self.self_ne_null.symm]), if_neg (by simp [released])]
      simp only [released, Nat.sub_add_cancel (Nat.one_le_iff_ne_zero.mpr counted), ← owned]
  · -- a mutex held more than once is recursive, and stays with its owner
    have recursive : mutex.control = pthreadMutexRecursive := by
      rcases valid.control_valid with nonrecursive | recursive
      · have atMostOne := valid.nonrecursive_le_one nonrecursive
        omega
      · exact recursive
    let released : Mutex := { mutex with refcount := mutex.refcount - 1 }
    have releasedChecked : pthreadMutexCheckParameter released = .ok () := checked
    refine ⟨released, ?_, ?_⟩
    · simp [released, pthreadMutexUnlock, checked, owned, self.self_ne_null, last]
    · simp only [pthreadMutexLock, releasedChecked, pthreadMutexLockInternal]
      rw [if_pos ⟨recursive, owned⟩]
      simp only [released, Nat.sub_add_cancel (Nat.one_le_iff_ne_zero.mpr counted)]

section Failed

variable {f : Bool} {s : CondSystem} {t : Thread}

/-- A wait begins by putting its thread on the list. -/
theorem condStep_timedwait (idle : s.phase t.self = .idle) (deadline : Bool) :
    condStep f s (t, .call (.timedwait deadline)) =
      ({ s with queue := s.queue ++ [t.self] }.setPhase t.self (.enqueued deadline), none) := by
  simp [condStep, idle, condCall]

/-- A wait whose unlock of the mutex fails returns its error with the list
one entry longer, its thread's. -/
theorem timedwait_of_unlock_failure (idle : s.phase t.self = .idle) (notOwner : s.mutex.owner ≠ t.self)
    (deadline : Bool) (clock : ClockReading) :
    ∃ e, (e = .eperm ∨ e = .einval) ∧
      Machine.run (condStep f) s [(t, .call (.timedwait deadline)), (t, .resume clock)] =
        ({ s with queue := s.queue ++ [t.self] }, [none, some (.error (.errno e))]) := by
  obtain ⟨e, unlocked, code⟩ := pthreadMutexUnlock_of_ne_owner notOwner
  refine ⟨e, code, ?_⟩
  simp only [Machine.run_cons, Machine.run_nil, condStep_timedwait idle]
  simp only [condStep, setPhase_phase_self, timedwaitStep, setPhase_mutex, unlocked]
  -- the thread is back in no call, as before its call
  simp only [CondSystem.setPhase, Function.update_idem]
  rw [← idle, Function.update_eq_self]

/-- The first reading of the clock, with the flag, past the deadline or
failed. -/
theorem timedwaitStep_checking_of_expired (self : Thread) {clock : ClockReading}
    (expired : clock.ret ≠ 0 ∨ clock.timeLeft = none ∨ clock.timeLeft = some 0) :
    timedwaitStep f self clock s .checking =
      (s.setPhase self.self (.relocking (some (if clock.ret ≠ 0 then .clock clock.ret else .errno .etimedout))), none) := by
  by_cases failed : clock.ret ≠ 0
  · simp [timedwaitStep, failed]
  · have read : clock.timeLeft = none ∨ clock.timeLeft = some 0 := expired.resolve_left failed
    rcases read with past | atDeadline
    · simp [timedwaitStep, failed, past]
    · simp [timedwaitStep, failed, atDeadline]

/-- With the flag, a wait by the mutex's owner whose first reading of the
clock fails or is past the deadline locks the mutex again and returns its
error with the list one entry longer, its thread's. -/
theorem timedwait_of_expired_deadline (idle : s.phase t.self = .idle) (valid : MutexInv s.mutex)
    (owned : s.mutex.owner = t.self) {clock : ClockReading}
    (expired : clock.ret ≠ 0 ∨ clock.timeLeft = none ∨ clock.timeLeft = some 0) (first last : ClockReading) :
    Machine.run (condStep true) s
        [(t, .call (.timedwait true)), (t, .resume first), (t, .resume clock), (t, .resume last)] =
      ({ s with queue := s.queue ++ [t.self] },
        [none, none, none, some (.error (if clock.ret ≠ 0 then .clock clock.ret else .errno .etimedout))]) := by
  obtain ⟨released, unlocked, relocked⟩ := relock_after_unlock valid owned
  let error : WaitError := if clock.ret ≠ 0 then .clock clock.ret else .errno .etimedout
  let listed : CondSystem := { s with queue := s.queue ++ [t.self] }
  have entered : condStep true s (t, .call (.timedwait true)) = (listed.setPhase t.self (.enqueued true), none) :=
    condStep_timedwait idle true
  -- the owner's unlock succeeds, and the clock is read
  have released' : condStep true (listed.setPhase t.self (.enqueued true)) (t, .resume first) =
      ({ listed.setPhase t.self (.enqueued true) with mutex := released }.setPhase t.self .checking, none) := by
    simp only [condStep, setPhase_phase_self, timedwaitStep, setPhase_mutex, listed, unlocked, if_true]
  have timedOut : condStep true ({ listed.setPhase t.self (.enqueued true) with mutex := released }.setPhase t.self
      .checking) (t, .resume clock) =
      (({ listed.setPhase t.self (.enqueued true) with mutex := released }.setPhase t.self .checking).setPhase
        t.self (.relocking (some error)), none) := by
    simp only [condStep, setPhase_phase_self]
    exact timedwaitStep_checking_of_expired t expired
  -- the mutex is locked again, as it was, and the list keeps the entry
  have relockedStep : condStep true ((({ listed.setPhase t.self (.enqueued true) with mutex := released }.setPhase t.self
      .checking).setPhase t.self (.relocking (some error)))) (t, .resume last) = (listed, some (.error error)) := by
    simp only [condStep, setPhase_phase_self, timedwaitStep, setPhase_mutex, relocked]
    simp only [CondSystem.setPhase, Function.update_idem, listed]
    rw [← idle, Function.update_eq_self]
  simp only [Machine.run_cons, Machine.run_nil, entered, released', timedOut, relockedStep]
  rfl

/-- With the flag, a wait without a deadline that the host wakes takes its
entry off the list and returns once the mutex is locked again. -/
theorem timedwait_of_wakeup (idle : s.phase t.self = .idle) (valid : MutexInv s.mutex) (owned : s.mutex.owner = t.self)
    (first woken last : ClockReading) :
    Machine.run (condStep true) s
        [(t, .call (.timedwait false)), (t, .resume first), (t, .resume woken), (t, .resume last)] =
      ({ s with queue := (s.queue ++ [t.self]).erase t.self }, [none, none, none, some (.ok ())]) := by
  obtain ⟨released, unlocked, relocked⟩ := relock_after_unlock valid owned
  let listed : CondSystem := { s with queue := s.queue ++ [t.self] }
  have entered : condStep true s (t, .call (.timedwait false)) = (listed.setPhase t.self (.enqueued false), none) :=
    condStep_timedwait idle false
  have released' : condStep true (listed.setPhase t.self (.enqueued false)) (t, .resume first) =
      ({ listed.setPhase t.self (.enqueued false) with mutex := released }.setPhase t.self (.sleeping false), none) := by
    simp only [condStep, setPhase_phase_self, timedwaitStep, setPhase_mutex, listed, unlocked, if_true,
      Bool.false_eq_true, if_false]
  -- the host returns, and the waiter takes its entry off the list
  have removed : condStep true ({ listed.setPhase t.self (.enqueued false) with mutex := released }.setPhase t.self
      (.sleeping false)) (t, .resume woken) =
      ({ ({ listed.setPhase t.self (.enqueued false) with mutex := released }.setPhase t.self (.sleeping false)) with
        queue := (s.queue ++ [t.self]).erase t.self }.setPhase t.self (.relocking none), none) := by
    simp only [condStep, setPhase_phase_self, timedwaitStep, setPhase_queue, listed, remove_eq_erase]
    rfl
  have relockedStep : condStep true ({ ({ listed.setPhase t.self (.enqueued false) with mutex := released }.setPhase
      t.self (.sleeping false)) with queue := (s.queue ++ [t.self]).erase t.self }.setPhase t.self (.relocking none))
      (t, .resume last) = ({ s with queue := (s.queue ++ [t.self]).erase t.self }, some (.ok ())) := by
    simp only [condStep, setPhase_phase_self, timedwaitStep, setPhase_mutex, relocked]
    simp only [CondSystem.setPhase, Function.update_idem, listed]
    rw [← idle, Function.update_eq_self]
    rfl
  simp only [Machine.run_cons, Machine.run_nil, entered, released', removed, relockedStep]

/-- Without the flag, a signal takes the list's first entry, be it stale: a
thread behind it that waits without a deadline stays on the list and goes on
polling. -/
theorem signal_takes_stale_entry {rest : List PthreadT} (queued : s.queue = t.self :: rest) {signaller : Thread}
    (calling : s.phase signaller.self = .idle) {waiter : Thread} (polling : s.phase waiter.self = .polling false)
    (behind : waiter.self ∈ rest) (clock : ClockReading) :
    (condStep false s (signaller, .call .signal)).1.queue = rest ∧
      condStep false (condStep false s (signaller, .call .signal)).1 (waiter, .resume clock) =
        ((condStep false s (signaller, .call .signal)).1, none) := by
  have signalled : (condStep false s (signaller, .call .signal)).1 = { s with queue := rest } := by
    simp [condStep, calling, condCall, pthreadCondNotifyInternal, queued, empty, dequeue]
  rw [signalled]
  refine ⟨rfl, ?_⟩
  simp [condStep, timedwaitStep, polling, behind]

end Failed

theorem failed_timedwait_stays_listed (s : CondSystem) (t : Thread) (idle : s.phase t.self = .idle) (deadline : Bool)
    (clock first last : ClockReading) :
    (s.mutex.owner ≠ t.self → ∃ e, (e = .eperm ∨ e = .einval) ∧
        Machine.run (condStep true) s [(t, .call (.timedwait deadline)), (t, .resume clock)] =
          ({ s with queue := s.queue ++ [t.self] }, [none, some (.error (.errno e))])) ∧
      (MutexInv s.mutex → s.mutex.owner = t.self → (clock.ret ≠ 0 ∨ clock.timeLeft = none ∨ clock.timeLeft = some 0) →
        Machine.run (condStep true) s
            [(t, .call (.timedwait true)), (t, .resume first), (t, .resume clock), (t, .resume last)] =
          ({ s with queue := s.queue ++ [t.self] },
            [none, none, none, some (.error (if clock.ret ≠ 0 then .clock clock.ret else .errno .etimedout))])) :=
  ⟨fun notOwner => timedwait_of_unlock_failure idle notOwner deadline clock,
    fun valid owned expired => timedwait_of_expired_deadline idle valid owned expired first last⟩

/-- A thread that owns a free-standing mutex waits with a deadline that has
passed: the wait returns `ETIMEDOUT` and the thread stays on the list. -/
theorem failed_timedwait_stays_listed_past_deadline :
    Machine.run (condStep true) (CondSystem.init ⟨1, pthreadMutexNonrecursive, 1⟩)
        [(firstThread, .call (.timedwait true)), (firstThread, .resume ⟨0, none⟩), (firstThread, .resume ⟨0, none⟩),
          (firstThread, .resume ⟨0, none⟩)] =
      ({ CondSystem.init ⟨1, pthreadMutexNonrecursive, 1⟩ with queue := [1] },
        [none, none, none, some (.error (.errno .etimedout))]) :=
  (failed_timedwait_stays_listed (CondSystem.init ⟨1, pthreadMutexNonrecursive, 1⟩) firstThread rfl true ⟨0, none⟩
    ⟨0, none⟩ ⟨0, none⟩).2 ⟨.inl rfl, by decide, fun _ => Nat.le_refl 1⟩ rfl (.inr (.inl rfl))

end Asylo.PthreadProofs
