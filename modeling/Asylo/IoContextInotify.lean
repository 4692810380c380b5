import Asylo.SerializerFunctions

/-! The inotify descriptors of the enclave (`platform/posix/io/io_context_inotify.cc`).
An `IOContextInotify` keeps the events it has read from the host and not yet
handed to a reader in `event_queue_`. `Read(buf, count)` first copies the
queued events that fit into `buf`; if the queue is then empty and room is
left, it asks the host for more with `enc_untrusted_inotify_read`, pushes what
`DeserializeInotifyEvents` makes of the host's message on the queue, and
copies again.

What the host answers is of its choosing, so it is an input of each call
(`HostRead`): -1 with an errno, or any bytes as the serialized events. The
wrapper `enc_untrusted_inotify_read` only copies the extent the host sent into
enclave memory. -/
namespace Asylo.Io

open Message HostCalls SerializerFunctions

/-- An `IOContextInotify`: the events taken from the host and not yet read. -/
structure IOContextInotify where
  eventQueue : List InotifyEvent
  deriving DecidableEq, Repr

/-- `IOContextInotify::TransferFromQueueToBuffer(buf_ptr, count)`: the records
it copies into the buffer, and the queue it leaves. It stops at the first
event whose record does not fit in what is left of `count`. -/
def transferFromQueueToBuffer : List InotifyEvent → Nat → List UInt8 × List InotifyEvent
  | [], _ => ([], [])
  | frontEvent :: rest, count =>
    let frontEventLen := sizeofInotifyEvent + frontEvent.name.length
    if count < frontEventLen then ([], frontEvent :: rest)
    else
      let (written, left) := transferFromQueueToBuffer rest (count - frontEventLen)
      (frontEvent.record ++ written, left)

/-- What `enc_untrusted_inotify_read(host_fd_, count, &serialized_events,
&serialized_events_len)` gives back: -1 with the errno the host sent, or the
bytes of the extent the host sent as the serialized events. -/
inductive HostRead where
  | failed (errno : Int)
  | events (serialized : List UInt8)
  deriving DecidableEq, Repr

/-- Why `Read` returns -1: `EINVAL`, `EBADE`, or the errno of a failed host
read. -/
inductive ReadError where
  | einval
  | ebade
  | host (errno : Int)
  deriving DecidableEq, Repr

/-- How `Read` ends. -/
inductive ReadResult where
  | returned (count : Nat)
  | failed (error : ReadError)
  /-- `MessageReader::Deserialize` called `abort()`. -/
  | aborted
  deriving DecidableEq, Repr

/-- A call of `Read(buf, count)`: the bytes it wrote at the start of `buf`, how
it ended, and the events it took from the host's message. -/
structure ReadOutput where
  written : List UInt8
  result : ReadResult
  taken : List InotifyEvent
  deriving DecidableEq, Repr

/-- What the reads rest on besides the host's answers: the undefined reads of
the reader, the bytes past the end of the host's message, and the generated
`FromkLinuxInotifyEventMask`. -/
structure Context where
  env : Env
  beyond : Nat → UInt8
  fromkLinuxInotifyEventMask : UInt32 → Option UInt32

/-- `IOContextInotify::Read(buf, count)`, where `host` is what the host would
answer should the call ask it. -/
def IOContextInotify.read (context : Context) (self : IOContextInotify) (count : Nat) (host : HostRead) :
    IOContextInotify × ReadOutput :=
  let (written, eventQueue) := transferFromQueueToBuffer self.eventQueue count
  let count := count - written.length
  if eventQueue ≠ [] ∧ written.length = 0 then (⟨eventQueue⟩, ⟨written, .failed .einval, []⟩)
  else if eventQueue ≠ [] ∨ count = 0 then (⟨eventQueue⟩, ⟨written, .returned written.length, []⟩)
  else
    -- the records copied so far are in `buf`, and gone from the queue
    match host with
    | .failed errno => (⟨eventQueue⟩, ⟨written, .failed (.host errno), []⟩)
    | .events serialized =>
      match (deserializeInotifyEvents context.env context.beyond context.fromkLinuxInotifyEventMask serialized).2 with
      | none => (⟨eventQueue⟩, ⟨written, .aborted, []⟩)
      | some (false, _, _) => (⟨eventQueue⟩, ⟨written, .failed .ebade, []⟩)
      | some (true, events, _) =>
        let (more, eventQueue) := transferFromQueueToBuffer (eventQueue ++ events) count
        let written := written ++ more
        if eventQueue ≠ [] ∧ written.length = 0 then (⟨eventQueue⟩, ⟨written, .failed .einval, events⟩)
        else (⟨eventQueue⟩, ⟨written, .returned written.length, events⟩)

/-- A `Read(buf, count)` as a step of the descriptor. -/
def IOContextInotify.step (context : Context) (self : IOContextInotify) (call : Nat × HostRead) :
    IOContextInotify × ReadOutput :=
  self.read context call.1 call.2

/-- A descriptor that `inotify_init` has just made. -/
def IOContextInotify.init : IOContextInotify := ⟨[]⟩

end Asylo.Io
