import Asylo.IoContextEpoll

/-! What the epoll context keeps from the host and what it gives back.

The maps stay well formed over every run, whatever the host answers: each
registered descriptor has a key with data, and no two share a key
(`epollRun_wellFormed`). The host never learns the user's data: two runs
whose calls differ only in it hand the host the same events
(`epollRun_hides_data`). With a host that accepts every `epoll_ctl`, the maps
refine the registrations, the data of each descriptor's last successful
`EPOLL_CTL_ADD` or `EPOLL_CTL_MOD` (`epollRun_refines`), and `EpollWait`
returns that data (`epollWait_of_refines`). A refused call breaks this, since
the maps are written before the host is asked
(`epollCtl_refused_mod_keeps_data`). -/
namespace Asylo.Io

namespace EpollMaps

variable (maps : EpollMaps)

@[simp] theorem setData_keyToData (key data other : UInt64) :
    (maps.setData key data).keyToData other = if other = key then some data else maps.keyToData other := rfl

@[simp] theorem setData_fdToKey (key data : UInt64) : (maps.setData key data).fdToKey = maps.fdToKey := rfl

@[simp] theorem setKey_keyToData (hostfd : Int) (key : UInt64) : (maps.setKey hostfd key).keyToData = maps.keyToData :=
  rfl

@[simp] theorem setKey_fdToKey (hostfd : Int) (key : UInt64) (other : Int) :
    (maps.setKey hostfd key).fdToKey other = if other = hostfd then some key else maps.fdToKey other := rfl

@[simp] theorem erase_keyToData (hostfd : Int) (key other : UInt64) :
    (maps.erase hostfd key).keyToData other = if other = key then none else maps.keyToData other := rfl

@[simp] theorem erase_fdToKey (hostfd : Int) (key : UInt64) (other : Int) :
    (maps.erase hostfd key).fdToKey other = if other = hostfd then none else maps.fdToKey other := rfl

/-- Every registered descriptor's key has data, and no two descriptors share
a key. -/
structure WellFormed : Prop where
  keyed : ∀ fd key, maps.fdToKey fd = some key → (maps.keyToData key).isSome
  distinct : ∀ fd fd' key, maps.fdToKey fd = some key → maps.fdToKey fd' = some key → fd = fd'

theorem empty_wellFormed : empty.WellFormed :=
  ⟨fun _ _ registered => (by cases registered), fun _ _ _ registered _ => (by cases registered)⟩

variable {maps}

/-- Writing data under a key adds to `key_to_data` only. -/
theorem WellFormed.setData (wellFormed : maps.WellFormed) (key data : UInt64) : (maps.setData key data).WellFormed := by
  refine ⟨fun fd other registered => ?_, wellFormed.distinct⟩
  by_cases same : other = key
  · simp [same]
  · simpa [same] using wellFormed.keyed fd other registered

/-- An `EPOLL_CTL_ADD` under a key not in `key_to_data` keeps the maps well
formed, whether or not the descriptor had a key before. -/
theorem WellFormed.add (wellFormed : maps.WellFormed) {key : UInt64} (fresh : maps.keyToData key = none)
    (hostfd : Int) (data : UInt64) : ((maps.setData key data).setKey hostfd key).WellFormed := by
  -- a fresh key is no descriptor's key yet
  have unused : ∀ fd, maps.fdToKey fd ≠ some key := fun fd registered => by
    simpa [fresh] using wellFormed.keyed fd key registered
  refine ⟨fun fd other registered => ?_, fun fd fd' other registered registered' => ?_⟩
  · by_cases here : fd = hostfd
    · simp only [setKey_fdToKey, here, if_true, Option.some.injEq] at registered
      subst registered
      simp
    · simp only [setKey_fdToKey, here, if_false] at registered
      exact (wellFormed.setData key data).keyed fd other registered
  · by_cases here : fd = hostfd <;> by_cases here' : fd' = hostfd
    · rw [here, here']
    · simp only [setKey_fdToKey, here, here', if_true, if_false, Option.some.injEq] at registered registered'
      subst registered
      exact absurd registered' (unused fd')
    · simp only [setKey_fdToKey, here, here', if_true, if_false, Option.some.injEq] at registered registered'
      subst registered'
      exact absurd registered (unused fd)
    · simp only [setKey_fdToKey, here, here', if_false] at registered registered'
      exact wellFormed.distinct fd fd' other registered registered'

/-- An `EPOLL_CTL_DEL` of a registered descriptor keeps the maps well formed:
its key was no other descriptor's. -/
theorem WellFormed.erase (wellFormed : maps.WellFormed) {hostfd : Int} {key : UInt64}
    (registered : maps.fdToKey hostfd = some key) : (maps.erase hostfd key).WellFormed := by
  refine ⟨fun fd other found => ?_, fun fd fd' other found found' => ?_⟩
  · by_cases here : fd = hostfd
    · simp [here] at found
    · simp only [erase_fdToKey, here, if_false] at found
      have different : other ≠ key := fun same => here (wellFormed.distinct fd hostfd key (same ▸ found) registered)
      simpa [different] using wellFormed.keyed fd other found
  · by_cases here : fd = hostfd
    · simp [here] at found
    · by_cases here' : fd' = hostfd
      · simp [here'] at found'
      · simp only [erase_fdToKey, here, here', if_false] at found found'
        exact wellFormed.distinct fd fd' other found found'

end EpollMaps

/-! ## `EpollCtl` -/

/-- The key loop ends only on a key not in `key_to_data`. -/
theorem drawKey_fresh {keyToData : UInt64 → Option UInt64} :
    ∀ {draws : List (Option UInt64)} {key : UInt64}, drawKey keyToData draws = .fresh key → keyToData key = none
  | [], _, drawn => by simp [drawKey] at drawn
  | none :: _, _, drawn => by simp [drawKey] at drawn
  | some tried :: draws, key, drawn => by
    unfold drawKey at drawn
    by_cases taken : (keyToData tried).isSome
    · rw [if_pos taken] at drawn
      exact drawKey_fresh drawn
    · rw [if_neg taken] at drawn
      cases drawn
      simpa using taken

/-- Every `EpollCtl` that returns leaves the maps well formed, whatever the
host answered. -/
theorem epollCtl_wellFormed {maps : EpollMaps} (wellFormed : maps.WellFormed) {op : EpollCtlOp} {hostfd : Int}
    {event : Option EpollEvent} {draws : List (Option UInt64)} {hostResult : Int} {outcome : CtlOutcome}
    (run : epollCtl maps op hostfd event draws hostResult = .ok outcome) : outcome.maps.WellFormed := by
  unfold epollCtl at run
  cases op with
  | add =>
    simp only at run
    split at run
    · cases run
    · cases run
      exact wellFormed
    · rename_i key fresh
      split at run
      · cases run
      · cases run
        exact wellFormed.add (drawKey_fresh fresh) hostfd _
  | mod =>
    simp only at run
    split at run
    · cases run
      exact wellFormed
    · split at run
      · cases run
      · cases run
        exact wellFormed.setData _ _
  | del =>
    simp only at run
    split at run
    · cases run
      exact wellFormed
    · rename_i key registered
      cases run
      exact wellFormed.erase registered
  | unknown =>
    cases run
    exact wellFormed

/-- An `epoll_ctl` of a run that returns is `EpollCtl` returning, with the
maps it leaves. -/
theorem EpollCall.run_ctl_ok {maps next : EpollMaps} {op : EpollCtlOp} {hostfd : Int} {event : Option EpollEvent}
    {draws : List (Option UInt64)} {hostResult : Int} {returned : EpollReturn}
    (run : (EpollCall.ctl op hostfd event draws hostResult).run maps = .ok (next, returned)) :
    ∃ outcome, epollCtl maps op hostfd event draws hostResult = .ok outcome ∧ next = outcome.maps ∧
      returned = .ctl outcome := by
  cases ctl : epollCtl maps op hostfd event draws hostResult with
  | error fault => simp [EpollCall.run, ctl, Except.map] at run
  | ok outcome =>
    simp only [EpollCall.run, ctl, Except.map, Except.ok.injEq, Prod.mk.injEq] at run
    exact ⟨outcome, rfl, run.1.symm, run.2.symm⟩

/-- An `epoll_wait` of a run that returns is `EpollWait` returning, with the
maps as they were. -/
theorem EpollCall.run_wait_ok {maps next : EpollMaps} {maxevents : Int} {answer : HostWait} {returned : EpollReturn}
    (run : (EpollCall.wait maxevents answer).run maps = .ok (next, returned)) :
    ∃ outcome, epollWait maps maxevents answer = .ok outcome ∧ next = maps ∧ returned = .wait outcome := by
  cases waited : epollWait maps maxevents answer with
  | error fault => simp [EpollCall.run, waited, Except.map] at run
  | ok outcome =>
    simp only [EpollCall.run, waited, Except.map, Except.ok.injEq, Prod.mk.injEq] at run
    exact ⟨outcome, rfl, run.1.symm, run.2.symm⟩

/-- One call of a run keeps the maps well formed. -/
theorem EpollCall.run_wellFormed {maps : EpollMaps} (wellFormed : maps.WellFormed) {call : EpollCall}
    {next : EpollMaps} {returned : EpollReturn} (run : call.run maps = .ok (next, returned)) : next.WellFormed := by
  cases call with
  | ctl op hostfd event draws hostResult =>
    obtain ⟨_, ctl, rfl, -⟩ := EpollCall.run_ctl_ok run
    exact epollCtl_wellFormed wellFormed ctl
  | wait maxevents answer =>
    obtain ⟨_, -, rfl, -⟩ := EpollCall.run_wait_ok run
    exact wellFormed

/-- A run that returns is its first call, which returns, then the rest. -/
theorem epollRun_cons_ok {maps final : EpollMaps} {call : EpollCall} {calls : List EpollCall}
    {returns : List EpollReturn} (run : epollRun maps (call :: calls) = .ok (final, returns)) :
    ∃ next returned rest, call.run maps = .ok (next, returned) ∧ epollRun next calls = .ok (final, rest) ∧
      returns = returned :: rest := by
  unfold epollRun at run
  cases first : call.run maps with
  | error fault => simp [first] at run
  | ok step =>
    obtain ⟨next, returned⟩ := step
    cases rest : epollRun next calls with
    | error fault => simp [first, rest] at run
    | ok tail =>
      obtain ⟨final', rest'⟩ := tail
      simp only [first, rest, Except.ok.injEq, Prod.mk.injEq] at run
      obtain ⟨rfl, rfl⟩ := run
      exact ⟨next, returned, rest', rfl, rest, rfl⟩

/-- The maps stay well formed over every run, whatever the host answers. -/
theorem epollRun_wellFormed :
    ∀ {maps : EpollMaps} (calls : List EpollCall) {final : EpollMaps} {returns : List EpollReturn},
      maps.WellFormed → epollRun maps calls = .ok (final, returns) → final.WellFormed
  | _, [], _, _, wellFormed, run => by
    cases run
    exact wellFormed
  | _, _ :: calls, _, _, wellFormed, run => by
    obtain ⟨_, _, _, first, rest, _⟩ := epollRun_cons_ok run
    exact epollRun_wellFormed calls (EpollCall.run_wellFormed wellFormed first) rest

/-! ## What the host sees

The host is handed events whose data is a key, and the keys depend on which
keys are in use, never on the user's data. So two runs whose calls differ
only in the user's data hand the host the same events. -/

/-- Two states that differ at most in the user's data: the same keys are in
use, and each descriptor has the same key. -/
structure EpollMaps.SameKeys (maps maps' : EpollMaps) : Prop where
  used : ∀ key, (maps.keyToData key).isSome = (maps'.keyToData key).isSome
  keys : maps.fdToKey = maps'.fdToKey

namespace EpollMaps.SameKeys

variable {maps maps' : EpollMaps} (same : maps.SameKeys maps')
include same

theorem setData (key data data' : UInt64) : (maps.setData key data).SameKeys (maps'.setData key data') := by
  refine ⟨fun other => ?_, same.keys⟩
  by_cases here : other = key
  · simp [here]
  · simp [here, same.used other]

theorem setKey (hostfd : Int) (key : UInt64) : (maps.setKey hostfd key).SameKeys (maps'.setKey hostfd key) := by
  refine ⟨same.used, ?_⟩
  funext other
  simp [same.keys]

theorem erase (hostfd : Int) (key : UInt64) : (maps.erase hostfd key).SameKeys (maps'.erase hostfd key) := by
  refine ⟨fun other => ?_, ?_⟩
  · by_cases here : other = key
    · simp [here]
    · simp [here, same.used other]
  · funext other
    simp [same.keys]

end EpollMaps.SameKeys

/-- The key loop sees only which keys are in use. -/
theorem drawKey_of_used {keyToData keyToData' : UInt64 → Option UInt64}
    (used : ∀ key, (keyToData key).isSome = (keyToData' key).isSome) :
    ∀ draws, drawKey keyToData draws = drawKey keyToData' draws
  | [] => rfl
  | none :: _ => rfl
  | some key :: draws => by simp only [drawKey, used key, drawKey_of_used used draws]

/-- `EpollWait` fails to return only when the enclave aborts on a host result
above `maxevents`, whatever the maps. -/
theorem epollWait_error_iff (maps : EpollMaps) (maxevents : Int) (answer : HostWait) (fault : Fault) :
    epollWait maps maxevents answer = .error fault ↔
      ¬ maxevents ≤ 0 ∧ answer.result ≠ -1 ∧ answer.result > maxevents ∧ fault = .aborted := by
  unfold epollWait
  by_cases positive : maxevents ≤ 0
  · simp [positive]
  · by_cases failed : answer.result = -1
    · simp [positive, failed]
    · by_cases tooMany : answer.result > maxevents
      · simp [positive, failed, tooMany, eq_comm]
      · simp only [positive, failed, tooMany, if_false, false_and, and_false, iff_false]
        split <;> simp

/-- Two calls that differ at most in the user's data of their event. -/
def EpollCall.SameButData : EpollCall → EpollCall → Prop
  | .ctl op hostfd event draws hostResult, .ctl op' hostfd' event' draws' hostResult' =>
    op = op' ∧ hostfd = hostfd' ∧ event.map EpollEvent.events = event'.map EpollEvent.events ∧ draws = draws' ∧
      hostResult = hostResult'
  | .wait maxevents answer, .wait maxevents' answer' => maxevents = maxevents' ∧ answer = answer'
  | _, _ => False

/-- Two results of a call that the host cannot tell apart. -/
def Alike : Except Fault (EpollMaps × EpollReturn) → Except Fault (EpollMaps × EpollReturn) → Prop
  | .error fault, .error fault' => fault = fault'
  | .ok (next, returned), .ok (next', returned') => next.SameKeys next' ∧ returned.sent = returned'.sent
  | _, _ => False

/-- A call hands the host the same event, and leaves the same keys, whatever
the user's data. -/
theorem EpollCall.run_alike {maps maps' : EpollMaps} (same : maps.SameKeys maps') :
    ∀ {call call' : EpollCall}, call.SameButData call' → Alike (call.run maps) (call'.run maps')
  | .ctl op hostfd event draws hostResult, .ctl _ _ event' _ _, ⟨rfl, rfl, masks, rfl, rfl⟩ => by
    cases op with
    | add =>
      simp only [EpollCall.run, epollCtl]
      rw [drawKey_of_used same.used draws]
      cases drawKey maps'.keyToData draws with
      | exhausted => rfl
      | failed => exact ⟨same, rfl⟩
      | fresh key =>
        -- both events are null, or both are given with the same mask
        cases event <;> cases event' <;> simp at masks
        · rfl
        · exact ⟨(same.setData key _ _).setKey hostfd key, by simp [EpollReturn.sent, masks]⟩
    | mod =>
      simp only [EpollCall.run, epollCtl]
      rw [same.keys]
      cases maps'.fdToKey hostfd with
      | none => exact ⟨same, rfl⟩
      | some key =>
        cases event <;> cases event' <;> simp at masks
        · rfl
        · exact ⟨same.setData key _ _, by simp [EpollReturn.sent, masks]⟩
    | del =>
      simp only [EpollCall.run, epollCtl]
      rw [same.keys]
      cases maps'.fdToKey hostfd with
      | none => exact ⟨same, rfl⟩
      | some key => exact ⟨same.erase hostfd key, by simp [EpollReturn.sent, masks]⟩
    | unknown => exact ⟨same, rfl⟩
  | .wait maxevents answer, .wait _ _, ⟨rfl, rfl⟩ => by
    simp only [EpollCall.run]
    cases waited : epollWait maps maxevents answer with
    | error fault =>
      rw [(epollWait_error_iff maps' maxevents answer fault).mpr ((epollWait_error_iff maps maxevents answer fault).mp waited)]
      rfl
    | ok outcome =>
      cases waited' : epollWait maps' maxevents answer with
      | error fault =>
        have := (epollWait_error_iff maps maxevents answer fault).mpr ((epollWait_error_iff maps' maxevents answer fault).mp waited')
        simp [waited] at this
      | ok outcome' => exact ⟨same, rfl⟩

/-- Two runs from states with the same keys, whose calls differ at most in
the user's data, end the same way and hand the host the same events. -/
theorem epollRun_hides_data :
    ∀ {maps maps' : EpollMaps} {calls calls' : List EpollCall}, maps.SameKeys maps' →
      List.Forall₂ EpollCall.SameButData calls calls' →
      (epollRun maps calls).map (fun run => run.2.map EpollReturn.sent) =
        (epollRun maps' calls').map (fun run => run.2.map EpollReturn.sent)
  | _, _, [], [], _, .nil => rfl
  | maps, maps', call :: calls, call' :: calls', same, .cons first rest => by
    have alike := EpollCall.run_alike same first
    unfold epollRun
    -- the first calls end alike; then the rest of the runs do, from states with the same keys
    cases step : call.run maps with
    | error fault =>
      cases step' : call'.run maps' with
      | error fault' =>
        simp only [step, step', Alike] at alike
        rw [alike]
      | ok result' => simp [step, step', Alike] at alike
    | ok result =>
      obtain ⟨next, returned⟩ := result
      cases step' : call'.run maps' with
      | error fault' => simp [step, step', Alike] at alike
      | ok result' =>
        obtain ⟨next', returned'⟩ := result'
        simp only [step, step', Alike] at alike
        have tail := epollRun_hides_data alike.1 rest
        cases later : epollRun next calls <;> cases later' : epollRun next' calls' <;>
          simp only [later, later', Except.map, Except.error.injEq, Except.ok.injEq, reduceCtorEq] at tail ⊢
        · exact tail
        · rw [List.map_cons, List.map_cons, alike.2, tail]

/-! ## The registrations

What epoll is for: each descriptor's events carry the user's data of its last
successful `EPOLL_CTL_ADD` or `EPOLL_CTL_MOD`. With a host that accepts every
`epoll_ctl`, the maps hold exactly that (`epollRun_refines`), and `EpollWait`
gives it back (`epollWait_of_refines`). A call the host refuses breaks it,
since the maps were written before the host was asked. -/

/-- For each host descriptor, the user's data of its last successful
`EPOLL_CTL_ADD` or `EPOLL_CTL_MOD`, until a successful `EPOLL_CTL_DEL`. -/
abbrev Registration := Int → Option UInt64

/-- The registrations after a successful `epoll_ctl`. -/
def Registration.apply (registration : Registration) (op : EpollCtlOp) (hostfd : Int) (data : UInt64) :
    Registration :=
  match op with
  | .add | .mod => fun other => if other = hostfd then some data else registration other
  | .del => fun other => if other = hostfd then none else registration other
  | .unknown => registration

/-- A call that returned: an `epoll_ctl` that returned 0 applies. -/
def Registration.record (registration : Registration) : EpollCall → EpollReturn → Registration
  | .ctl op hostfd event _ _, .ctl outcome =>
    if outcome.result = 0 then registration.apply op hostfd ((event.map EpollEvent.data).getD 0) else registration
  | _, _ => registration

/-- The registrations after the calls of a run and what they returned. -/
def Registration.after : Registration → List EpollCall → List EpollReturn → Registration
  | registration, call :: calls, returned :: returns => (registration.record call returned).after calls returns
  | registration, _, _ => registration

/-- The maps give each descriptor the data of its registration, through its
key. -/
def EpollMaps.Refines (maps : EpollMaps) (registration : Registration) : Prop :=
  ∀ fd, (maps.fdToKey fd).bind maps.keyToData = registration fd

/-- A call the host accepts. -/
def EpollCall.HostAccepts : EpollCall → Prop
  | .ctl _ _ _ _ hostResult => hostResult = 0
  | .wait _ _ => True

namespace EpollMaps

variable {maps : EpollMaps}

/-- Writing under a key that is not a descriptor's leaves what it finds. -/
theorem bind_setData_of_ne (fd : Int) {key : UInt64} (data : UInt64)
    (other : ∀ found, maps.fdToKey fd = some found → found ≠ key) :
    (maps.fdToKey fd).bind (maps.setData key data).keyToData = (maps.fdToKey fd).bind maps.keyToData := by
  cases found : maps.fdToKey fd with
  | none => rfl
  | some found' => simp [other found' found]

theorem bind_erase_of_ne (fd hostfd : Int) (here : fd ≠ hostfd) {key : UInt64}
    (other : ∀ found, maps.fdToKey fd = some found → found ≠ key) :
    ((maps.erase hostfd key).fdToKey fd).bind (maps.erase hostfd key).keyToData =
      (maps.fdToKey fd).bind maps.keyToData := by
  cases found : maps.fdToKey fd with
  | none => simp [here, found]
  | some found' => simp [here, found, other found' found]

end EpollMaps

/-- An `EpollCtl` the host accepts keeps the maps a refinement of the
registrations, with the call recorded when it returns 0. -/
theorem epollCtl_refines {maps : EpollMaps} (wellFormed : maps.WellFormed) {registration : Registration}
    (refines : maps.Refines registration) {op : EpollCtlOp} {hostfd : Int} {event : Option EpollEvent}
    {draws : List (Option UInt64)} {outcome : CtlOutcome} (run : epollCtl maps op hostfd event draws 0 = .ok outcome) :
    outcome.maps.Refines
      (if outcome.result = 0 then registration.apply op hostfd ((event.map EpollEvent.data).getD 0) else registration) := by
  unfold epollCtl at run
  cases op with
  | add =>
    simp only at run
    split at run
    · cases run
    · cases run
      exact refines
    · rename_i key fresh
      split at run
      · cases run
      · rename_i event
        cases run
        -- a fresh key is no descriptor's, so the others find what they found
        have unused : ∀ fd found, maps.fdToKey fd = some found → found ≠ key := fun fd found registered same => by
          have keyed := wellFormed.keyed fd found registered
          rw [same, drawKey_fresh fresh] at keyed
          cases keyed
        intro fd
        by_cases here : fd = hostfd
        · simp [Registration.apply, here]
        · simp only [EpollMaps.setKey_fdToKey, here, if_false, EpollMaps.setKey_keyToData, if_true,
            Registration.apply, Option.map_some, Option.getD_some]
          rw [EpollMaps.setData_fdToKey, EpollMaps.bind_setData_of_ne fd _ (unused fd), refines fd]
  | mod =>
    simp only at run
    split at run
    · cases run
      exact refines
    · rename_i key registered
      split at run
      · cases run
      · rename_i event
        cases run
        -- the key is this descriptor's alone
        have unused : ∀ fd, fd ≠ hostfd → ∀ found, maps.fdToKey fd = some found → found ≠ key :=
          fun fd here found found' same => here (wellFormed.distinct fd hostfd key (same ▸ found') registered)
        intro fd
        by_cases here : fd = hostfd
        · simp [Registration.apply, here, registered]
        · simp only [if_true, Registration.apply, Option.map_some, Option.getD_some, here, if_false]
          rw [EpollMaps.setData_fdToKey, EpollMaps.bind_setData_of_ne fd _ (unused fd here), refines fd]
  | del =>
    simp only at run
    split at run
    · cases run
      exact refines
    · rename_i key registered
      cases run
      have unused : ∀ fd, fd ≠ hostfd → ∀ found, maps.fdToKey fd = some found → found ≠ key :=
        fun fd here found found' same => here (wellFormed.distinct fd hostfd key (same ▸ found') registered)
      intro fd
      by_cases here : fd = hostfd
      · simp [Registration.apply, here]
      · simp only [if_true, Registration.apply, here, if_false]
        rw [EpollMaps.bind_erase_of_ne fd hostfd here (unused fd here), refines fd]
  | unknown =>
    cases run
    exact refines

/-- One call the host accepts keeps the refinement, with the call recorded. -/
theorem EpollCall.run_refines {maps : EpollMaps} (wellFormed : maps.WellFormed) {registration : Registration}
    (refines : maps.Refines registration) {call : EpollCall} (accepts : call.HostAccepts) {next : EpollMaps}
    {returned : EpollReturn} (run : call.run maps = .ok (next, returned)) :
    next.Refines (registration.record call returned) := by
  cases call with
  | ctl op hostfd event draws hostResult =>
    cases (accepts : hostResult = 0)
    obtain ⟨_, ctl, rfl, rfl⟩ := EpollCall.run_ctl_ok run
    exact epollCtl_refines wellFormed refines ctl
  | wait maxevents answer =>
    obtain ⟨_, -, rfl, rfl⟩ := EpollCall.run_wait_ok run
    exact refines

/-- With a host that accepts every `epoll_ctl`, the maps after a run give
each descriptor the data of its last successful `EPOLL_CTL_ADD` or
`EPOLL_CTL_MOD`. -/
theorem epollRun_refines :
    ∀ {maps : EpollMaps} {registration : Registration} (calls : List EpollCall) {final : EpollMaps}
      {returns : List EpollReturn}, maps.WellFormed → maps.Refines registration →
      (∀ call ∈ calls, call.HostAccepts) → epollRun maps calls = .ok (final, returns) →
      final.Refines (registration.after calls returns)
  | _, _, [], _, _, _, refines, _, run => by
    cases run
    exact refines
  | _, _, call :: calls, _, _, wellFormed, refines, accepting, run => by
    obtain ⟨_, returned, rest, first, later, rfl⟩ := epollRun_cons_ok run
    exact epollRun_refines calls (EpollCall.run_wellFormed wellFormed first)
      (EpollCall.run_refines wellFormed refines (accepting call List.mem_cons_self) first)
      (fun other member => accepting other (List.mem_cons_of_mem call member)) later

/-- Events that carry the keys of registered descriptors come back with the
descriptors' registered data. -/
theorem keysToData_of_refines {maps : EpollMaps} {registration : Registration} (refines : maps.Refines registration) :
    ∀ ready : List (Int × UInt32), (∀ entry ∈ ready, (registration entry.1).isSome) →
      keysToData maps.keyToData (ready.map fun entry => ⟨entry.2, (maps.fdToKey entry.1).getD 0⟩) =
        some (ready.map fun entry => ⟨entry.2, (registration entry.1).getD 0⟩)
  | [], _ => rfl
  | entry :: ready, registered => by
    obtain ⟨data, hasData⟩ := Option.isSome_iff_exists.mp (registered entry List.mem_cons_self)
    have lookup := refines entry.1
    rw [hasData] at lookup
    obtain ⟨key, keyed, found⟩ := Option.bind_eq_some_iff.mp lookup
    have rest := keysToData_of_refines refines ready fun other member =>
      registered other (List.mem_cons_of_mem entry member)
    simp [keysToData, keyed, found, hasData, rest]

/-- `EpollWait`, on a host that reports registered descriptors by the keys
the enclave gave it, returns their registered data. -/
theorem epollWait_of_refines {maps : EpollMaps} {registration : Registration} (refines : maps.Refines registration)
    (ready : List (Int × UInt32)) (registered : ∀ entry ∈ ready, (registration entry.1).isSome) {maxevents : Int}
    (positive : 0 < maxevents) (fits : (ready.length : Int) ≤ maxevents) :
    epollWait maps maxevents ⟨ready.length, ready.map fun entry => ⟨entry.2, (maps.fdToKey entry.1).getD 0⟩⟩ =
      .ok ⟨ready.length, none, ready.map fun entry => ⟨entry.2, (registration entry.1).getD 0⟩⟩ := by
  have waiting : ¬ maxevents ≤ 0 := by omega
  have counted : ¬ (ready.length : Int) = -1 := by omega
  have within : ¬ (ready.length : Int) > maxevents := by omega
  simp only [epollWait, waiting, counted, within, if_false, Int.toNat_natCast]
  rw [List.take_of_length_le (by simp), keysToData_of_refines refines ready registered]

/-! ## A refused call -/

/-- The host accepts the `EPOLL_CTL_ADD` of descriptor 7 with data 1, under
key 42, and refuses the `EPOLL_CTL_MOD` to data 2. The maps hold data 2 all
the same, and an event of the host for key 42 comes back with it, though the
last successful registration has data 1. An `EPOLL_CTL_ADD` with a null
`event` dereferences it. -/
theorem epollCtl_refused_mod_keeps_data :
    ∃ added modified : EpollMaps,
      epollCtl .empty .add 7 (some ⟨1, 1⟩) [some 42] 0 = .ok ⟨0, none, added, some ⟨1, 42⟩⟩ ∧
      epollCtl added .mod 7 (some ⟨1, 2⟩) [] (-1) = .ok ⟨-1, none, modified, some ⟨1, 42⟩⟩ ∧
      added.keyToData 42 = some 1 ∧ modified.keyToData 42 = some 2 ∧
      epollWait modified 1 ⟨1, [⟨1, 42⟩]⟩ = .ok ⟨1, none, [⟨1, 2⟩]⟩ ∧
      Registration.after (fun _ => none) [.ctl .add 7 (some ⟨1, 1⟩) [some 42] 0, .ctl .mod 7 (some ⟨1, 2⟩) [] (-1)]
        [.ctl ⟨0, none, added, some ⟨1, 42⟩⟩, .ctl ⟨-1, none, modified, some ⟨1, 42⟩⟩] 7 = some 1 ∧
      epollCtl .empty .add 7 none [some 42] 0 = .error .nullEvent :=
  ⟨_, _, rfl, rfl, rfl, rfl, rfl, rfl, rfl⟩

end Asylo.Io
