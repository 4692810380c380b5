import Asylo.IoContextInotify
import Asylo.Machine
import Asylo.SerializerFunctionsProofs

/-! What `IOContextInotify::Read` hands its callers, over any answers of the
host.

`TransferFromQueueToBuffer` copies a prefix of the queue, whole records
only, and no more than `count` bytes (`transferFromQueueToBuffer_sent`,
`length_transferFromQueueToBuffer_le`); it stops only at an event that does
not fit. Every `Read` is one transfer, then a second one of the events it took
from the host (`read_cases`). So a `Read` writes at most `count` bytes of whole
records, fails with `EINVAL` only when the next event does not fit, and along
any run the bytes written into the callers' buffers are the records of the
events taken from the host, in order (`run_conserves`).

What a `Read` writes is not always what it returns: when it has copied the
queued events and then asks the host for more, a failed host read makes it
return -1, with the events copied into `buf` and gone from the queue. -/
namespace Asylo.Io

open Message HostCalls SerializerFunctions

/-- The records of events, one after another. -/
def records (events : List InotifyEvent) : List UInt8 := (events.map InotifyEvent.record).flatten

@[simp] theorem records_nil : records [] = [] := rfl

@[simp] theorem records_cons (event : InotifyEvent) (events : List InotifyEvent) :
    records (event :: events) = event.record ++ records events := rfl

@[simp] theorem records_append (first second : List InotifyEvent) :
    records (first ++ second) = records first ++ records second := by
  simp [records]

@[simp] theorem length_record (event : InotifyEvent) : event.record.length = sizeofInotifyEvent + event.name.length := by
  simp [InotifyEvent.record, pushInt, pushUnsigned, sizeofInotifyEvent]
  omega

/-! ## Copying from the queue -/

theorem transferFromQueueToBuffer_cons_fits {frontEvent : InotifyEvent} {count : Nat} (rest : List InotifyEvent)
    (fits : sizeofInotifyEvent + frontEvent.name.length ≤ count) :
    transferFromQueueToBuffer (frontEvent :: rest) count =
      (frontEvent.record ++ (transferFromQueueToBuffer rest (count - frontEvent.record.length)).1,
        (transferFromQueueToBuffer rest (count - frontEvent.record.length)).2) := by
  rw [transferFromQueueToBuffer, if_neg (by omega), length_record]

theorem transferFromQueueToBuffer_cons_short {frontEvent : InotifyEvent} {count : Nat} (rest : List InotifyEvent)
    (short : count < sizeofInotifyEvent + frontEvent.name.length) :
    transferFromQueueToBuffer (frontEvent :: rest) count = ([], frontEvent :: rest) := by
  rw [transferFromQueueToBuffer, if_pos short]

/-- The records copied are those of a prefix of the queue, and the queue left
is the rest. -/
theorem transferFromQueueToBuffer_sent :
    ∀ (queue : List InotifyEvent) (count : Nat), ∃ sent, queue = sent ++ (transferFromQueueToBuffer queue count).2 ∧
      (transferFromQueueToBuffer queue count).1 = records sent
  | [], _ => ⟨[], rfl, rfl⟩
  | frontEvent :: rest, count => by
    by_cases short : count < sizeofInotifyEvent + frontEvent.name.length
    · exact ⟨[], by rw [transferFromQueueToBuffer_cons_short rest short]; rfl,
        by rw [transferFromQueueToBuffer_cons_short rest short]; rfl⟩
    · obtain ⟨sent, left, copied⟩ := transferFromQueueToBuffer_sent rest (count - frontEvent.record.length)
      rw [transferFromQueueToBuffer_cons_fits rest (by omega)]
      exact ⟨frontEvent :: sent, by rw [List.cons_append, ← left], by rw [copied, records_cons]⟩

theorem length_transferFromQueueToBuffer_le :
    ∀ (queue : List InotifyEvent) (count : Nat), (transferFromQueueToBuffer queue count).1.length ≤ count
  | [], _ => Nat.zero_le _
  | frontEvent :: rest, count => by
    by_cases short : count < sizeofInotifyEvent + frontEvent.name.length
    · rw [transferFromQueueToBuffer_cons_short rest short]
      exact Nat.zero_le _
    · have restWithin := length_transferFromQueueToBuffer_le rest (count - frontEvent.record.length)
      rw [transferFromQueueToBuffer_cons_fits rest (by omega), List.length_append]
      rw [length_record] at restWithin ⊢
      omega

/-- The copy stops only at an event whose record does not fit in what is left
of `count`: copying again from there copies nothing. -/
theorem transferFromQueueToBuffer_again :
    ∀ (queue : List InotifyEvent) (count : Nat),
      transferFromQueueToBuffer (transferFromQueueToBuffer queue count).2
          (count - (transferFromQueueToBuffer queue count).1.length) =
        ([], (transferFromQueueToBuffer queue count).2)
  | [], _ => rfl
  | frontEvent :: rest, count => by
    by_cases short : count < sizeofInotifyEvent + frontEvent.name.length
    · rw [transferFromQueueToBuffer_cons_short rest short, List.length_nil, Nat.sub_zero,
        transferFromQueueToBuffer_cons_short rest short]
    · have again := transferFromQueueToBuffer_again rest (count - frontEvent.record.length)
      rw [transferFromQueueToBuffer_cons_fits rest (by omega), List.length_append]
      rw [show count - (frontEvent.record.length +
          (transferFromQueueToBuffer rest (count - frontEvent.record.length)).1.length) =
          count - frontEvent.record.length - (transferFromQueueToBuffer rest (count - frontEvent.record.length)).1.length
        by omega]
      exact again

/-- A queue whose records all fit is copied whole. -/
theorem transferFromQueueToBuffer_of_fits :
    ∀ (queue : List InotifyEvent) {count : Nat}, (records queue).length ≤ count →
      transferFromQueueToBuffer queue count = (records queue, [])
  | [], _, _ => rfl
  | frontEvent :: rest, count, fits => by
    rw [records_cons, List.length_append, length_record] at fits
    rw [transferFromQueueToBuffer_cons_fits rest (by omega),
      transferFromQueueToBuffer_of_fits rest (by rw [length_record]; omega)]
    rfl

/-- A copy that copies nothing leaves the queue as it is: empty, or with a
first event that does not fit. -/
theorem transferFromQueueToBuffer_nothing {queue : List InotifyEvent} {count : Nat}
    (nothing : (transferFromQueueToBuffer queue count).1 = []) :
    (transferFromQueueToBuffer queue count).2 = queue ∧
      (queue = [] ∨ ∃ front rest, queue = front :: rest ∧ count < sizeofInotifyEvent + front.name.length) := by
  cases queue with
  | nil => exact ⟨rfl, .inl rfl⟩
  | cons front rest =>
    by_cases short : count < sizeofInotifyEvent + front.name.length
    · rw [transferFromQueueToBuffer_cons_short rest short]
      exact ⟨rfl, .inr ⟨front, rest, rfl, short⟩⟩
    · -- a record is never empty
      rw [transferFromQueueToBuffer_cons_fits rest (by omega)] at nothing
      have empty := congrArg List.length nothing
      simp [sizeofInotifyEvent] at empty

/-! ## One `Read` -/

section Read

variable (context : Context) (self : IOContextInotify) (count : Nat) (host : HostRead)

/-- What a `Read` can do: after the first copy from the queue, copy from the
queue with the events taken from the host added, from what is left of `count`;
fail with `EINVAL` only when nothing was copied and events are left; and return
the bytes it copied. -/
theorem read_cases {written : List UInt8} {queue : List InotifyEvent}
    (first : transferFromQueueToBuffer self.eventQueue count = (written, queue)) :
    let s := self.read context count host
    ∃ more, s.2.written = written ++ more ∧
      transferFromQueueToBuffer (queue ++ s.2.taken) (count - written.length) = (more, s.1.eventQueue) ∧
      (s.2.result = .failed .einval → s.2.written = [] ∧ s.1.eventQueue ≠ []) ∧
      (∀ n, s.2.result = .returned n → n = s.2.written.length) := by
  intro s
  have again := transferFromQueueToBuffer_again self.eventQueue count
  rw [first] at again
  -- a call that ends after the first copy copies nothing more
  have stays : transferFromQueueToBuffer (queue ++ []) (count - written.length) = ([], queue) := by
    rw [List.append_nil]
    exact again
  simp only [s, IOContextInotify.read, first]
  split_ifs with stuck ended
  · -- nothing fits: `EINVAL`
    exact ⟨[], by simp, stays, fun _ => ⟨List.length_eq_zero_iff.mp stuck.2, stuck.1⟩,
      (fun _ returned => by cases returned)⟩
  · -- events are left, or no room is: the bytes copied
    exact ⟨[], by simp, stays, (fun einval => by cases einval), (fun _ returned => by cases returned; rfl)⟩
  -- the queue is empty and room is left: the host is asked for more
  have empty : queue = [] := by
    simp only [ne_eq, not_or, Decidable.not_not] at ended
    exact ended.1
  subst empty
  cases host with
  | failed errno =>
    exact ⟨[], by simp, stays, (fun einval => by cases einval), (fun _ returned => by cases returned)⟩
  | events serialized =>
    dsimp only
    split
    · exact ⟨[], by simp, stays, (fun einval => by cases einval), (fun _ returned => by cases returned)⟩
    · exact ⟨[], by simp, stays, (fun einval => by cases einval), (fun _ returned => by cases returned)⟩
    · rename_i events _ _
      split_ifs with stuckAgain
      · exact ⟨_, rfl, rfl, fun _ => ⟨List.length_eq_zero_iff.mp stuckAgain.2, stuckAgain.1⟩,
          (fun _ returned => by cases returned)⟩
      · exact ⟨_, rfl, rfl, (fun einval => by cases einval), (fun _ returned => by cases returned; rfl)⟩

/-- A `Read` copies the records of the events it had queued and took from the
host, in order, and keeps the rest queued. -/
theorem read_conserves :
    ∃ sent, self.eventQueue ++ (self.read context count host).2.taken = sent ++ (self.read context count host).1.eventQueue ∧
      (self.read context count host).2.written = records sent := by
  obtain ⟨firstSent, firstLeft, firstCopied⟩ := transferFromQueueToBuffer_sent self.eventQueue count
  obtain ⟨more, written, second, -, -⟩ := read_cases context self count host rfl
  obtain ⟨secondSent, secondLeft, secondCopied⟩ := transferFromQueueToBuffer_sent
    ((transferFromQueueToBuffer self.eventQueue count).2 ++ (self.read context count host).2.taken)
    (count - (transferFromQueueToBuffer self.eventQueue count).1.length)
  rw [second] at secondLeft secondCopied
  dsimp only at secondLeft secondCopied
  refine ⟨firstSent ++ secondSent, ?_, ?_⟩
  · -- the first copy took a prefix of the queue, the second a prefix of the rest and of what the host gave
    calc self.eventQueue ++ (self.read context count host).2.taken
        = firstSent ++ ((transferFromQueueToBuffer self.eventQueue count).2 ++
            (self.read context count host).2.taken) := by
          conv => lhs; rw [firstLeft]
          rw [List.append_assoc]
      _ = (firstSent ++ secondSent) ++ (self.read context count host).1.eventQueue := by
          rw [secondLeft, List.append_assoc]
  · rw [written, firstCopied, secondCopied, records_append]

/-- A `Read` writes no more than `count` bytes. -/
theorem read_writes_within : (self.read context count host).2.written.length ≤ count := by
  obtain ⟨more, written, second, -, -⟩ := read_cases context self count host rfl
  have firstWithin := length_transferFromQueueToBuffer_le self.eventQueue count
  have secondWithin := length_transferFromQueueToBuffer_le
    ((transferFromQueueToBuffer self.eventQueue count).2 ++ (self.read context count host).2.taken)
    (count - (transferFromQueueToBuffer self.eventQueue count).1.length)
  rw [second] at secondWithin
  dsimp only at secondWithin
  rw [written, List.length_append]
  omega

/-- A `Read` fails with `EINVAL` only when it copied nothing and the next
event does not fit in `count`. -/
theorem read_einval (einval : (self.read context count host).2.result = .failed .einval) :
    (self.read context count host).2.written = [] ∧ ∃ front rest,
      (self.read context count host).1.eventQueue = front :: rest ∧ count < sizeofInotifyEvent + front.name.length := by
  obtain ⟨more, written, second, onEinval, -⟩ := read_cases context self count host rfl
  obtain ⟨nothingWritten, left⟩ := onEinval einval
  rw [written, List.append_eq_nil_iff] at nothingWritten
  rw [nothingWritten.1, nothingWritten.2, List.length_nil, Nat.sub_zero] at second
  -- the second copy copied nothing from a queue that is not empty
  have stopped := transferFromQueueToBuffer_nothing (congrArg Prod.fst second)
  rw [second] at stopped
  obtain ⟨same, empty | ⟨front, rest, queued, short⟩⟩ := stopped
  · exact absurd (same.trans empty) left
  · exact ⟨by rw [written, nothingWritten.1, nothingWritten.2]; rfl, front, rest, same.trans queued, short⟩

end Read

/-! ## Runs of `Read`s -/

/-- Along any run of `Read`s, whatever the host answers, the bytes written
into the callers' buffers are the records of the events first queued and then
taken from the host, in order, up to those still queued. -/
theorem run_conserves (context : Context) :
    ∀ (calls : List (Nat × HostRead)) (self : IOContextInotify),
      ∃ sent, self.eventQueue ++ ((Machine.run (IOContextInotify.step context) self calls).2.map ReadOutput.taken).flatten =
          sent ++ (Machine.run (IOContextInotify.step context) self calls).1.eventQueue ∧
        ((Machine.run (IOContextInotify.step context) self calls).2.map ReadOutput.written).flatten = records sent
  | [], self => ⟨[], by simp, rfl⟩
  | (count, host) :: calls, self => by
    obtain ⟨firstSent, firstConserved, firstWritten⟩ := read_conserves context self count host
    obtain ⟨restSent, restConserved, restWritten⟩ := run_conserves context calls (self.read context count host).1
    refine ⟨firstSent ++ restSent, ?_, ?_⟩
    · simp only [Machine.run_cons, IOContextInotify.step, List.map_cons, List.flatten_cons]
      rw [← List.append_assoc, firstConserved, List.append_assoc, restConserved, List.append_assoc]
    · simp only [Machine.run_cons, IOContextInotify.step, List.map_cons, List.flatten_cons]
      rw [firstWritten, restWritten, records_append]

/-! ## What a failed host read does to the queue -/

theorem records_ne_nil {events : List InotifyEvent} (some : events ≠ []) : records events ≠ [] := by
  cases events with
  | nil => exact absurd rfl some
  | cons event _ =>
    intro empty
    have noBytes := congrArg List.length empty
    simp [sizeofInotifyEvent] at noBytes

theorem read_loses_transferred_events (context : Context) (self : IOContextInotify) {count : Nat} (errno : Int)
    (pending : self.eventQueue ≠ []) (room : (records self.eventQueue).length < count) :
    let s := self.read context count (.failed errno)
    s.2.result = .failed (.host errno) ∧ s.2.written = records self.eventQueue ∧ s.2.written ≠ [] ∧
      s.1.eventQueue = [] := by
  intro s
  have copied := transferFromQueueToBuffer_of_fits self.eventQueue (Nat.le_of_lt room)
  -- the queue is copied whole, and room is left, so the host is asked
  have asked : s = (⟨[]⟩, ⟨records self.eventQueue, .failed (.host errno), []⟩) := by
    simp only [s, IOContextInotify.read, copied]
    rw [if_neg (by simp), if_neg (by simp only [ne_eq, not_true_eq_false, false_or]; omega)]
  rw [asked]
  exact ⟨rfl, rfl, records_ne_nil pending, rfl⟩

/-- Reads that keep every mask and find zeros past the host's message. -/
def keepingContext : Context := ⟨emptyEnv, fun _ => 0, some⟩

/-- Two `IN_CREATE` events of one watch, for the files "a" and "b". -/
def createdA : InotifyEvent := ⟨1, 0x100, 0, [0x61, 0, 0, 0]⟩

def createdB : InotifyEvent := ⟨1, 0x100, 0, [0x62, 0, 0, 0]⟩

/-- The host's message with both events. -/
def twoCreated : List UInt8 :=
  (MessageWriter.mk [pushInt 1, pushUnsigned 0x100, pushUnsigned 0, [0x61, 0, 0, 0],
    pushInt 1, pushUnsigned 0x100, pushUnsigned 0, [0x62, 0, 0, 0]]).serialize

/-- A first `Read` of 20 bytes takes both events from the host and leaves "b"
queued; a second `Read` of 100 bytes copies "b" into its buffer and, the host
read failing, returns -1 with the queue empty. -/
theorem read_loses_transferred_events_after_short_read :
    IOContextInotify.init.read keepingContext 20 (.events twoCreated) =
        (⟨[createdB]⟩, ⟨createdA.record, .returned 20, [createdA, createdB]⟩) ∧
      let s := (IOContextInotify.mk [createdB]).read keepingContext 100 (.failed 11)
      s.2.result = .failed (.host 11) ∧ s.2.written = records [createdB] ∧ s.2.written ≠ [] ∧
        s.1.eventQueue = [] :=
  ⟨by decide, read_loses_transferred_events keepingContext ⟨[createdB]⟩ 11 (by decide) (by decide)⟩

end Asylo.Io
