import Asylo.IoManagerPaths

/-! The epoll context of the `IOManager` (`platform/posix/io/io_context_epoll.cc`),
which keeps the user's `epoll_data` in the enclave and gives the host random
keys in its place.

`key_to_data` maps each key to the user's data and `fd_to_key` each host
descriptor to its key. `EpollCtl` updates them before it calls the host, and
`EpollWait` turns the keys of the host's events back into data. The maps are
functions here; `RAND_bytes` is the list of what its calls in one `EpollCtl`
give, `none` for a failed call. A run that dereferences a null `event`, whose
key loop has not ended within the draws given, or that aborts, is a `Fault`. -/
namespace Asylo.Io

/-- `struct epoll_event`: the event mask and `data.u64`. -/
structure EpollEvent where
  events : UInt32
  data : UInt64
  deriving DecidableEq, Repr

/-- The `op` of `epoll_ctl`. -/
inductive EpollCtlOp
  | add
  | mod
  | del
  | unknown
  deriving DecidableEq, Repr

/-- `key_to_data` and `fd_to_key`. -/
structure EpollMaps where
  keyToData : UInt64 → Option UInt64
  fdToKey : Int → Option UInt64

/-- Both maps empty, as the context is made. -/
def EpollMaps.empty : EpollMaps := ⟨fun _ => none, fun _ => none⟩

/-- `key_to_data[key] = data`. -/
def EpollMaps.setData (maps : EpollMaps) (key data : UInt64) : EpollMaps :=
  { maps with keyToData := fun other => if other = key then some data else maps.keyToData other }

/-- `fd_to_key[hostfd] = key`. -/
def EpollMaps.setKey (maps : EpollMaps) (hostfd : Int) (key : UInt64) : EpollMaps :=
  { maps with fdToKey := fun other => if other = hostfd then some key else maps.fdToKey other }

/-- `fd_to_key.erase(hostfd)` and `key_to_data.erase(key)`. -/
def EpollMaps.erase (maps : EpollMaps) (hostfd : Int) (key : UInt64) : EpollMaps :=
  ⟨fun other => if other = key then none else maps.keyToData other,
    fun other => if other = hostfd then none else maps.fdToKey other⟩

/-- A run that does not return a value: a null `event` dereferenced, a key
loop still drawing, or the enclave aborted. -/
inductive Fault
  | nullEvent
  | keysExhausted
  | aborted
  deriving DecidableEq, Repr

/-- What the `do ... while` loop of an `EPOLL_CTL_ADD` draws. -/
inductive KeyDraw
  | fresh (key : UInt64)
  | failed
  | exhausted
  deriving DecidableEq, Repr

/-- The key loop: draw until a key not in `key_to_data`, or until
`RAND_bytes` fails. -/
def drawKey (keyToData : UInt64 → Option UInt64) : List (Option UInt64) → KeyDraw
  | [] => .exhausted
  | none :: _ => .failed
  | some key :: draws => if (keyToData key).isSome then drawKey keyToData draws else .fresh key

/-- What `EpollCtl` returns, the `errno` it sets itself, the maps it leaves,
and the event it hands `enc_untrusted_epoll_ctl`, if it gets that far. -/
structure CtlOutcome where
  result : Int
  errno : Option Errno
  maps : EpollMaps
  sent : Option EpollEvent

/-- `IOContextEpoll::EpollCtl(op, hostfd, event)`, where `draws` are the
results of `RAND_bytes` and `hostResult` is what `enc_untrusted_epoll_ctl`
returns. -/
def epollCtl (maps : EpollMaps) (op : EpollCtlOp) (hostfd : Int) (event : Option EpollEvent)
    (draws : List (Option UInt64)) (hostResult : Int) : Except Fault CtlOutcome :=
  let eventCopy : EpollEvent := ⟨(event.map EpollEvent.events).getD 0, 0⟩
  match op with
  | .add =>
    match drawKey maps.keyToData draws with
    | .exhausted => .error .keysExhausted
    | .failed => .ok ⟨-1, some .EBADE, maps, none⟩
    | .fresh key =>
      match event with
      | none => .error .nullEvent
      | some event =>
        -- both maps are written before the host is asked
        .ok ⟨hostResult, none, (maps.setData key event.data).setKey hostfd key, some { eventCopy with data := key }⟩
  | .mod =>
    match maps.fdToKey hostfd with
    | none => .ok ⟨-1, some .ENOENT, maps, none⟩
    | some key =>
      match event with
      | none => .error .nullEvent
      | some event => .ok ⟨hostResult, none, maps.setData key event.data, some { eventCopy with data := key }⟩
  | .del =>
    match maps.fdToKey hostfd with
    | none => .ok ⟨-1, some .ENOENT, maps, none⟩
    | some key => .ok ⟨hostResult, none, maps.erase hostfd key, some { eventCopy with data := key }⟩
  | .unknown => .ok ⟨-1, none, maps, none⟩

/-- What the host's `epoll_wait` returns: its result and the events it
wrote. -/
structure HostWait where
  result : Int
  events : List EpollEvent

/-- What `EpollWait` returns, the `errno` it sets itself, and the events it
leaves for the caller. -/
structure WaitOutcome where
  result : Int
  errno : Option Errno
  events : List EpollEvent
  deriving DecidableEq, Repr

/-- The loop of `EpollWait`: each event's key is replaced by its data;
`none` at the first key not in `key_to_data`. -/
def keysToData (keyToData : UInt64 → Option UInt64) : List EpollEvent → Option (List EpollEvent)
  | [] => some []
  | event :: events =>
    match keyToData event.data, keysToData keyToData events with
    | some data, some rest => some ({ event with data := data } :: rest)
    | _, _ => none

/-- `IOContextEpoll::EpollWait(events, maxevents, timeout)`, with
`enc_untrusted_epoll_wait`; a host result above `maxevents` aborts the
enclave. -/
def epollWait (maps : EpollMaps) (maxevents : Int) (answer : HostWait) : Except Fault WaitOutcome :=
  if maxevents ≤ 0 then .ok ⟨-1, some .EINVAL, []⟩
  else if answer.result = -1 then .ok ⟨-1, none, []⟩
  else if answer.result > maxevents then .error .aborted
  else
    match keysToData maps.keyToData (answer.events.take answer.result.toNat) with
    | some events => .ok ⟨answer.result, none, events⟩
    | none => .ok ⟨-1, some .EBADE, []⟩

/-! ## Runs of one epoll context -/

/-- A call on the context, with what `RAND_bytes` and the host give it. -/
inductive EpollCall
  | ctl (op : EpollCtlOp) (hostfd : Int) (event : Option EpollEvent) (draws : List (Option UInt64))
      (hostResult : Int)
  | wait (maxevents : Int) (answer : HostWait)

/-- What a call returns. -/
inductive EpollReturn
  | ctl (outcome : CtlOutcome)
  | wait (outcome : WaitOutcome)

/-- The event a call hands the host, if any: only `epoll_ctl` sends one. -/
def EpollReturn.sent : EpollReturn → Option EpollEvent
  | .ctl outcome => outcome.sent
  | .wait _ => none

/-- One call: `epoll_ctl` may change the maps, `epoll_wait` only reads them. -/
def EpollCall.run (maps : EpollMaps) : EpollCall → Except Fault (EpollMaps × EpollReturn)
  | .ctl op hostfd event draws hostResult =>
    (epollCtl maps op hostfd event draws hostResult).map fun outcome => (outcome.maps, .ctl outcome)
  | .wait maxevents answer => (epollWait maps maxevents answer).map fun outcome => (maps, .wait outcome)

/-- Calls one after the other, until one does not return. -/
def epollRun (maps : EpollMaps) : List EpollCall → Except Fault (EpollMaps × List EpollReturn)
  | [] => .ok (maps, [])
  | call :: calls =>
    match call.run maps with
    | .error fault => .error fault
    | .ok (next, returned) =>
      match epollRun next calls with
      | .error fault => .error fault
      | .ok (final, returns) => .ok (final, returned :: returns)

end Asylo.Io
