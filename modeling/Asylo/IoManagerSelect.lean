import Asylo.IoManagerFds

/-! `select` and `poll` of the `IOManager` (`platform/posix/io/io_manager.cc`),
which hand the host the host descriptors behind the enclave's descriptors and
translate the host's answer back.

`Select` runs three loops over the descriptors below `nfds`. The first puts
the host descriptor of each requested descriptor in the host's sets, through
`GetHostFileDescriptor`, which is `-1` for a context with no host descriptor.
The second collects, for every descriptor in the table below `nfds`, the host
descriptors that the host's answer marks. The third marks every enclave
descriptor whose host descriptor was collected. The three sets are handled by
the same code; here they are one set per `SetKind`. Every index that
`FD_SET` and `FD_ISSET` touch is recorded, in order, so that where they touch
an `fd_set` can be stated. -/
namespace Asylo.Io

/-- `FD_SETSIZE`. -/
def kFdSetSize : Nat := 1024

/-- An `fd_set`: which descriptors it holds. -/
abbrev FdSet := Nat → Bool

/-- `FD_ZERO(set)`: the empty set. -/
def fdZero : FdSet := fun _ => false

/-- `FD_SET(fd, set)`; an `fd` outside the set's range marks nothing. -/
def fdSet (fd : Int) (set : FdSet) : FdSet := fun i => decide ((i : Int) = fd) || set i

/-- The read, write and exception sets of `select`. -/
inductive SetKind
  | read
  | write
  | except
  deriving DecidableEq, Repr

/-- The sets in the order the loops handle them. -/
def setKinds : List SetKind := [.read, .write, .except]

/-- What the host is asked: the host sets, `host_nfds`, and every index given
to `FD_SET` or `FD_ISSET` so far. -/
structure HostRequest where
  hostSets : SetKind → FdSet
  hostNfds : Int
  accessed : List Int

/-- What the host's `select` returns: its result and the three sets it wrote. -/
structure HostSelect where
  result : Int
  hostSets : SetKind → FdSet

variable {Context : Type} (table : FileDescriptorTable Context) (hostFileDescriptor : Context → Int)

/-- The first loop for one set and one descriptor: a requested descriptor
with a context puts its host descriptor in the host's set. -/
def translateRequest (sets : SetKind → Option FdSet) (fd : Nat) (request : HostRequest) (kind : SetKind) :
    HostRequest :=
  match sets kind with
  | none => request
  | some set =>
    let request := { request with accessed := request.accessed ++ [(fd : Int)] }
    if set fd then
      match table.get fd with
      | some context =>
        let hostFd := hostFileDescriptor context
        { hostSets := fun other => if other = kind then fdSet hostFd (request.hostSets other) else request.hostSets other
          hostNfds := max request.hostNfds (hostFd + 1)
          accessed := request.accessed ++ [hostFd] }
      | none => request
    else request

/-- The first loop of `Select`, over the descriptors below `nfds`. -/
def hostRequest (sets : SetKind → Option FdSet) (nfds : Nat) : HostRequest :=
  (List.range nfds).foldl (fun request fd => setKinds.foldl (translateRequest table hostFileDescriptor sets fd) request)
    ⟨fun _ => fdZero, 0, []⟩

/-- The host descriptors the host's answer marks, and the indices read. -/
structure Collected where
  hostFds : SetKind → List Int
  accessed : List Int

/-- The second loop for one set: a host descriptor that the host's answer
marks in the set is collected for it. -/
def collectSet (answer : HostSelect) (hostFd : Int) (collected : Collected) (kind : SetKind) : Collected :=
  { hostFds := fun other =>
      if other = kind ∧ answer.hostSets kind hostFd.toNat then hostFd :: collected.hostFds other
      else collected.hostFds other
    accessed := collected.accessed ++ [hostFd] }

/-- The second loop for one descriptor: the host descriptor of a context, if
it is not negative, is looked up in each of the host's sets. -/
def collectReady (answer : HostSelect) (collected : Collected) (fd : Nat) : Collected :=
  match table.get fd with
  | none => collected
  | some context =>
    let hostFd := hostFileDescriptor context
    if hostFd < 0 then collected
    else setKinds.foldl (collectSet answer hostFd) collected

/-- The third loop for one set: a descriptor goes in a given set when its
host descriptor was collected for that set. -/
def markSet (sets : SetKind → Option FdSet) (collected : Collected) (fd : Nat) (hostFd : Int)
    (marked : (SetKind → Option FdSet) × List Int) (kind : SetKind) : (SetKind → Option FdSet) × List Int :=
  match sets kind with
  | some _ =>
    if hostFd ∈ collected.hostFds kind then
      (fun other => if other = kind then (marked.1 other).map (fdSet fd) else marked.1 other, marked.2 ++ [(fd : Int)])
    else marked
  | none => marked

/-- The third loop for one descriptor, over the three sets. -/
def markReady (sets : SetKind → Option FdSet) (collected : Collected)
    (marked : (SetKind → Option FdSet) × List Int) (fd : Nat) : (SetKind → Option FdSet) × List Int :=
  match table.get fd with
  | none => marked
  | some context => setKinds.foldl (markSet sets collected fd (hostFileDescriptor context)) marked

/-- What `Select` returns, the `errno` it sets, the sets it leaves, what it
asked the host, and every index it gave `FD_SET` and `FD_ISSET`. -/
structure SelectOutcome where
  result : Int
  errno : Option Errno
  sets : SetKind → Option FdSet
  request : Option HostRequest
  accessed : List Int

/-- `Select(nfds, readfds, writefds, exceptfds, timeout)`, where `answer` is
what the host's `select` returns; absent sets are null pointers. -/
def select (nfds : Int) (sets : SetKind → Option FdSet) (answer : HostSelect) : SelectOutcome :=
  if nfds < 0 then ⟨-1, some .EINVAL, sets, none, []⟩
  else
    let request := hostRequest table hostFileDescriptor sets nfds.toNat
    -- on error, errno was set by the host
    if answer.result < 0 then ⟨answer.result, none, sets, some request, request.accessed⟩
    else
      let collected := (List.range nfds.toNat).foldl (collectReady table hostFileDescriptor answer)
        ⟨fun _ => [], request.accessed⟩
      -- FD_ZERO on each set that was given
      let zeroed : SetKind → Option FdSet := fun kind => (sets kind).map fun _ => fdZero
      let marked := (List.range nfds.toNat).foldl (markReady table hostFileDescriptor sets collected)
        (zeroed, collected.accessed)
      ⟨answer.result, none, marked.1, some request, marked.2⟩

/-- A `struct pollfd`: the descriptor, and the events asked and returned. -/
structure PollFd where
  fd : Int
  events : Int
  revents : Int
  deriving DecidableEq, Repr

/-- The first loop of `Poll`: each entry gets the host descriptor of its
context, or `-1` when the descriptor has none. -/
def translatePollFds (fds : List PollFd) : List PollFd :=
  fds.map fun pollFd => { pollFd with fd := ((table.get pollFd.fd).map hostFileDescriptor).getD (-1) }

/-- What the host's `poll` returns: its result and the entries it leaves in
the array. -/
structure HostPoll where
  result : Int
  returned : Nat → PollFd

/-- `Poll(fds, nfds, timeout)`, where `answer` is what the host's `poll` does
with the translated array. -/
def poll (fds : List PollFd) (answer : List PollFd → HostPoll) : Int × List PollFd :=
  let enclaveFd := fds.map PollFd.fd
  let translated := translatePollFds table hostFileDescriptor fds
  let host := answer translated
  -- enc_untrusted_poll copies the host's entries back only when it succeeds
  let written := if host.result < 0 then translated else (List.range fds.length).map host.returned
  (host.result, List.zipWith (fun pollFd fd => { pollFd with fd := fd }) written enclaveFd)

end Asylo.Io
