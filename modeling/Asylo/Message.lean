import Asylo.LittleEndian

/-! The serialized messages that carry arguments and results across the enclave
boundary (`platform/primitives/util/message.h`).

`MessageWriter::Serialize` writes each extent as its size, an 8-byte
little-endian word, followed by its bytes. `MessageReader::Deserialize` walks such
a buffer back into extents. The buffer it walks may lie in untrusted memory that
changes while it reads, or end before its last length word does, so the reader
is modelled over a `Source`: what each of its reads finds, read by read, with no
promise that the bytes are a serialization at all. It returns the offsets and
lengths of the reads it made, so that what it touches can be compared with the
range it was given.

`deserialize_serialize` is the round trip, `deserializeLoop_reads_within` says
that a buffer the reader accepts was only read inside its bounds, and
`deserializeLoop_short_tail` shows what happens when fewer than eight bytes
remain: the length word is read past the end, and the loop then aborts. -/
namespace Asylo.Message

/-- The bytes of an extent. -/
abbrev Extent := List UInt8

/-- A `MessageWriter`: the extents pushed on it, in order. -/
structure MessageWriter where
  extents : List Extent
  deriving DecidableEq, Repr

namespace MessageWriter

/-- `MessageWriter::MessageSize`. -/
def messageSize (writer : MessageWriter) : Nat :=
  8 * writer.extents.length + (writer.extents.map List.length).sum

/-- `MessageWriter::Serialize`. -/
def serialize (writer : MessageWriter) : List UInt8 :=
  writer.extents.flatMap fun extent => LittleEndian.encode 8 extent.length ++ extent

@[simp] theorem length_serialize (writer : MessageWriter) :
    writer.serialize.length = writer.messageSize := by
  obtain ⟨extents⟩ := writer
  induction extents with
  | nil => simp [serialize, messageSize]
  | cons extent rest ih =>
    simp only [serialize, messageSize, List.flatMap_cons, List.length_append,
      LittleEndian.length_encode, List.length_cons, List.map_cons, List.sum_cons] at ih ⊢
    omega

end MessageWriter

/-- What `MessageReader::Deserialize` reads from: `source i offset length` are
the `length` bytes at `offset` of its buffer as its `i`-th read finds them. -/
abbrev Source := Nat → Nat → Nat → List UInt8

/-- A buffer that does not change while it is read. Past its end lie the
bytes `beyond`. -/
def bufferSource (buffer : List UInt8) (beyond : Nat → UInt8) : Source :=
  fun _ offset length => (List.range length).map fun j => buffer.getD (offset + j) (beyond (offset + j))

/-- The loop of `MessageReader::Deserialize` over a buffer of `size` bytes, from
offset `ptr`, when `reads` reads have been made: the extents it reads, or `none`
where it calls `abort()`, and the offset and length of each of its reads. -/
def deserializeLoop (source : Source) (size : Nat) : Nat → Nat → Nat → Option (List Extent) × List (Nat × Nat)
  | 0, _, _ => (some [], [])
  | fuel + 1, reads, ptr =>
    if ptr < size then
      -- the length word is copied before anything checks that eight bytes remain
      let extentLen := LittleEndian.decode (source reads ptr 8)
      if size < ptr + 8 + extentLen then (none, [(ptr, 8)])
      else
        let rest := deserializeLoop source size fuel (reads + 2) (ptr + 8 + extentLen)
        (rest.1.map (source (reads + 1) (ptr + 8) extentLen :: ·),
          (ptr, 8) :: (ptr + 8, extentLen) :: rest.2)
    else (some [], [])

/-- `MessageReader::Deserialize(buffer, size)` into an empty reader. Every round
of the loop moves past at least eight bytes, so `size` rounds are enough
(`deserializeLoop_fuel`). -/
def deserialize (source : Source) (size : Nat) : Option (List Extent) × List (Nat × Nat) :=
  deserializeLoop source size size 0 0

section Loop

variable (source : Source) (size : Nat)

/-- One round more than the bytes left changes nothing: the fuel of
`deserialize` never runs out before the loop ends. -/
theorem deserializeLoop_fuel :
    ∀ (fuel reads ptr : Nat), size - ptr ≤ fuel →
      deserializeLoop source size (fuel + 1) reads ptr = deserializeLoop source size fuel reads ptr := by
  intro fuel
  induction fuel with
  | zero =>
    intro reads ptr spent
    simp [deserializeLoop, show ¬ ptr < size by omega]
  | succ fuel ih =>
    intro reads ptr left
    rw [deserializeLoop, deserializeLoop]
    dsimp only
    split_ifs with inside overrun
    · rfl
    · rw [ih (reads + 2) _ (by omega)]
    · rfl

/-- A buffer the loop accepts was read only inside its `size` bytes. -/
theorem deserializeLoop_reads_within :
    ∀ (fuel reads ptr : Nat), (deserializeLoop source size fuel reads ptr).1.isSome →
      ∀ read ∈ (deserializeLoop source size fuel reads ptr).2, read.1 + read.2 ≤ size := by
  intro fuel
  induction fuel with
  | zero => simp [deserializeLoop]
  | succ fuel ih =>
    intro reads ptr accepted
    rw [deserializeLoop] at accepted ⊢
    dsimp only at accepted ⊢
    split_ifs at accepted ⊢ with inside overrun
    · simp at accepted
    · simp only [Option.isSome_map] at accepted
      intro read member
      rcases List.mem_cons.mp member with rfl | member
      · simp only
        omega
      rcases List.mem_cons.mp member with rfl | member
      · simp only
        omega
      exact ih (reads + 2) _ accepted read member
    · simp

/-- A buffer `deserialize` accepts was read only inside its `size` bytes. -/
theorem deserialize_reads_within (accepted : (deserialize source size).1.isSome) :
    ∀ read ∈ (deserialize source size).2, read.1 + read.2 ≤ size :=
  deserializeLoop_reads_within source size size 0 0 accepted

/-- Fewer than eight bytes left: the loop reads a whole length word, past the
end of the buffer, and then aborts, whatever that word is. -/
theorem deserializeLoop_short_tail (fuel reads ptr : Nat) (inside : ptr < size)
    (short : size < ptr + 8) :
    deserializeLoop source size (fuel + 1) reads ptr = (none, [(ptr, 8)]) := by
  rw [deserializeLoop, if_pos inside, if_pos (by omega)]

end Loop

/-- Reading a stable buffer at the offset where a segment starts, for the
length of the segment, gives the segment. -/
theorem bufferSource_segment (before segment after : List UInt8) (beyond : Nat → UInt8) (reads : Nat) :
    bufferSource (before ++ segment ++ after) beyond reads before.length segment.length = segment := by
  apply List.ext_getElem (by simp [bufferSource])
  intro n inRead inSegment
  simp [bufferSource, List.getD_eq_getElem?_getD, List.getElem?_append_right,
    List.getElem?_append_left inSegment, List.getElem?_eq_getElem inSegment]

/-- Over a serialization, whatever precedes and follows it, the loop reads
back its extents one by one and then goes on from where it ends. -/
theorem deserializeLoop_append_serialize (beyond : Nat → UInt8) :
    ∀ (extents : List Extent) (before after : List UInt8) (fuel reads : Nat),
      (∀ extent ∈ extents, extent.length < 2 ^ 64) →
      ∃ extentReads,
        deserializeLoop (bufferSource (before ++ (MessageWriter.mk extents).serialize ++ after) beyond)
            (before ++ (MessageWriter.mk extents).serialize ++ after).length (fuel + extents.length) reads
            before.length =
          let rest := deserializeLoop (bufferSource (before ++ (MessageWriter.mk extents).serialize ++ after) beyond)
            (before ++ (MessageWriter.mk extents).serialize ++ after).length fuel (reads + 2 * extents.length)
            (before.length + (MessageWriter.mk extents).messageSize)
          (rest.1.map (extents ++ ·), extentReads ++ rest.2) := by
  intro extents
  induction extents with
  | nil =>
    intro before after fuel reads _
    refine ⟨[], ?_⟩
    simp [MessageWriter.serialize, MessageWriter.messageSize]
  | cons extent rest ih =>
    intro before after fuel reads small
    have word := LittleEndian.length_encode 8 extent.length
    have fits : extent.length < 256 ^ 8 := by simpa using small extent (by simp)
    -- the buffer is what precedes, this extent's length word and bytes, the
    -- serialization of the rest, and what follows
    have layout : before ++ (MessageWriter.mk (extent :: rest)).serialize ++ after =
        before ++ LittleEndian.encode 8 extent.length ++ extent ++ (MessageWriter.mk rest).serialize ++ after := by
      simp [MessageWriter.serialize]
    have lengthRead := bufferSource_segment before (LittleEndian.encode 8 extent.length)
      (extent ++ (MessageWriter.mk rest).serialize ++ after) beyond reads
    have dataRead := bufferSource_segment (before ++ LittleEndian.encode 8 extent.length) extent
      ((MessageWriter.mk rest).serialize ++ after) beyond (reads + 1)
    simp only [word, List.length_append, ← List.append_assoc] at lengthRead dataRead
    have restStart : before.length + 8 + extent.length =
        (before ++ LittleEndian.encode 8 extent.length ++ extent).length := by
      simp only [List.length_append, word]
    obtain ⟨restReads, restRun⟩ := ih (before ++ LittleEndian.encode 8 extent.length ++ extent) after fuel (reads + 2)
      fun e member => small e (List.mem_cons_of_mem _ member)
    have restEnd : (before ++ LittleEndian.encode 8 extent.length ++ extent).length +
        (MessageWriter.mk rest).messageSize = before.length + (MessageWriter.mk (extent :: rest)).messageSize := by
      simp only [List.length_append, word, MessageWriter.messageSize, List.length_cons, List.map_cons, List.sum_cons]
      omega
    have restReadsCount : reads + 2 + 2 * rest.length = reads + 2 * (extent :: rest).length := by
      simp only [List.length_cons]
      omega
    refine ⟨(before.length, 8) :: (before.length + 8, extent.length) :: restReads, ?_⟩
    have serialized := MessageWriter.length_serialize (MessageWriter.mk rest)
    rw [layout, show fuel + (extent :: rest).length = (fuel + rest.length) + 1 by simp only [List.length_cons]; omega,
      deserializeLoop, if_pos (by simp only [List.length_append, word]; omega), lengthRead,
      LittleEndian.decode_encode_of_lt fits,
      if_neg (by simp only [List.length_append, word, serialized]; omega)]
    dsimp only
    rw [dataRead, restStart, restRun, restEnd, restReadsCount]
    simp [Function.comp_def]

/-- Deserializing a serialization from where it starts gives its extents back,
whatever precedes it. -/
theorem deserializeLoop_serialize (beyond : Nat → UInt8) :
    ∀ (extents : List Extent) (before : List UInt8) (fuel reads : Nat),
      (∀ extent ∈ extents, extent.length < 2 ^ 64) → extents.length ≤ fuel →
      (deserializeLoop (bufferSource (before ++ (MessageWriter.mk extents).serialize) beyond)
        (before ++ (MessageWriter.mk extents).serialize).length fuel reads before.length).1 = some extents := by
  intro extents before fuel reads small enough
  obtain ⟨extentReads, run⟩ := deserializeLoop_append_serialize beyond extents before [] (fuel - extents.length) reads
    small
  rw [List.append_nil, Nat.sub_add_cancel enough] at run
  -- the loop ends where the serialization does
  rw [run]
  cases fuel - extents.length with
  | zero => simp [deserializeLoop]
  | succ _ => simp [deserializeLoop]

/-- `deserialize_serialize`: the reader gives back what the writer wrote. -/
theorem deserialize_serialize (writer : MessageWriter) (beyond : Nat → UInt8)
    (small : ∀ extent ∈ writer.extents, extent.length < 2 ^ 64) :
    (deserialize (bufferSource writer.serialize beyond) writer.messageSize).1 = some writer.extents := by
  have fuel : writer.extents.length ≤ writer.messageSize := by
    unfold MessageWriter.messageSize
    omega
  have loop := deserializeLoop_serialize beyond writer.extents [] writer.messageSize 0 small fuel
  simpa [deserialize] using loop

/-- A serialization followed by one to seven stray bytes: the loop reads every
extent back, then copies a length word of eight bytes from where the stray
bytes start, reading past the end of the buffer, and aborts. -/
theorem deserialize_reads_past_end (writer : MessageWriter) (tail : List UInt8) (beyond : Nat → UInt8)
    (small : ∀ extent ∈ writer.extents, extent.length < 2 ^ 64) (stray : tail ≠ []) (short : tail.length < 8) :
    let size := writer.messageSize + tail.length
    let result := deserialize (bufferSource (writer.serialize ++ tail) beyond) size
    result.1 = none ∧ (writer.messageSize, 8) ∈ result.2 ∧ size < writer.messageSize + 8 := by
  intro size result
  obtain ⟨extents⟩ := writer
  have strayLength : 0 < tail.length := List.length_pos_iff.mpr stray
  have serialized := MessageWriter.length_serialize ⟨extents⟩
  -- `size` rounds: one for each extent, then at least one more for the tail
  obtain ⟨fuel, spare⟩ : ∃ fuel, size = (fuel + 1) + extents.length := by
    refine ⟨size - extents.length - 1, ?_⟩
    simp only [size, MessageWriter.messageSize]
    omega
  obtain ⟨extentReads, run⟩ := deserializeLoop_append_serialize beyond extents [] tail (fuel + 1) 0 small
  simp only [List.nil_append, List.length_nil, Nat.zero_add, List.length_append, serialized] at run
  have tailRun := deserializeLoop_short_tail (bufferSource ((MessageWriter.mk extents).serialize ++ tail) beyond)
    size fuel (2 * extents.length) (MessageWriter.mk extents).messageSize (by omega) (by omega)
  have whole : result = deserializeLoop (bufferSource ((MessageWriter.mk extents).serialize ++ tail) beyond) size
      ((fuel + 1) + extents.length) 0 0 := by
    simp only [result, deserialize]
    rw [← spare]
  rw [whole, run, tailRun]
  exact ⟨rfl, by simp, by omega⟩

/-- A `MessageWriter` with no extents followed by one stray byte: `Deserialize`
reads eight bytes from a buffer of one. -/
theorem deserialize_reads_past_end_of_one_byte :
    let result := deserialize (bufferSource ((MessageWriter.mk []).serialize ++ [0]) fun _ => 0)
      ((MessageWriter.mk []).messageSize + [0].length)
    result.1 = none ∧ ((MessageWriter.mk []).messageSize, 8) ∈ result.2 ∧
      (MessageWriter.mk []).messageSize + [0].length < (MessageWriter.mk []).messageSize + 8 :=
  deserialize_reads_past_end ⟨[]⟩ [0] (fun _ => 0) (by simp) (by simp) (by simp)

/-- What the reader accepts it has split into extents whose sizes, with eight
bytes for each length word, add up to the bytes it was given, when each read
finds as many bytes as it asks for. -/
theorem deserializeLoop_messageSize (source : Source) (size : Nat)
    (sized : ∀ reads offset length, (source reads offset length).length = length) :
    ∀ (fuel reads ptr : Nat) {extents : List Extent}, size - ptr ≤ fuel →
      (deserializeLoop source size fuel reads ptr).1 = some extents →
      (MessageWriter.mk extents).messageSize = size - ptr := by
  intro fuel
  induction fuel with
  | zero =>
    intro reads ptr extents spent accepted
    simp only [deserializeLoop, Option.some.injEq] at accepted
    subst accepted
    simp only [MessageWriter.messageSize, List.length_nil, List.map_nil, List.sum_nil]
    omega
  | succ fuel ih =>
    intro reads ptr extents left accepted
    rw [deserializeLoop] at accepted
    dsimp only at accepted
    -- an overrun aborts, so the loop went on or ended
    split_ifs at accepted with inside overrun
    · obtain ⟨restExtents, restAccepted, rfl⟩ := Option.map_eq_some_iff.mp accepted
      have restSize := ih (reads + 2) _ (by omega) restAccepted
      simp only [MessageWriter.messageSize, List.length_cons, List.map_cons, List.sum_cons, sized] at restSize ⊢
      omega
    · simp only [Option.some.injEq] at accepted
      subst accepted
      simp only [MessageWriter.messageSize, List.length_nil, List.map_nil, List.sum_nil]
      omega

theorem deserialize_messageSize (source : Source) (size : Nat)
    (sized : ∀ reads offset length, (source reads offset length).length = length) {extents : List Extent}
    (accepted : (deserialize source size).1 = some extents) : (MessageWriter.mk extents).messageSize = size := by
  simpa using deserializeLoop_messageSize source size sized size 0 0 (by omega) accepted

/-! ## Reading the extents -/

/-- A `MessageReader` after `Deserialize`: its extents and the position of the
next one it hands out. -/
structure MessageReader where
  extents : List Extent
  pos : Nat
  deriving DecidableEq, Repr

namespace MessageReader

/-- `MessageReader::size`. -/
def size (reader : MessageReader) : Nat := reader.extents.length

/-- `MessageReader::peek`: `extents_[pos_]`. Past the end of the vector that
read is undefined; the model lets it find `pastEnd pos_`. -/
def peek (reader : MessageReader) (pastEnd : Nat → Extent) : Extent :=
  reader.extents.getD reader.pos (pastEnd reader.pos)

/-- `MessageReader::next`. -/
def next (reader : MessageReader) (pastEnd : Nat → Extent) : Extent × MessageReader :=
  (reader.peek pastEnd, { reader with pos := reader.pos + 1 })

end MessageReader

/-- `Extent::As<T>` for a `T` of `width` bytes: the bytes of the object, or the
null pointer when the extent is shorter than `T`. -/
def extentAs (extent : Extent) (width : Nat) : Option (List UInt8) :=
  if width ≤ extent.length then some (extent.take width) else none

end Asylo.Message
