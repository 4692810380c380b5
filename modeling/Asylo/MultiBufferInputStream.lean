import Mathlib

/-! `MultiBufferInputStream` (`grpc/auth/util/multi_buffer_input_stream.cc`),
the input stream the EKEP handshaker reads frames from: buffers added one at a
time, read through `Next`, `BackUp` and `Skip`, trimmed and rewound by the
handshaker.

The `std::list` of buffers is a list, and the iterator `current_` its index,
with `buffers.length` for `cend()`; the `int` counters are integers. A
`LOG(FATAL)` of `BackUp` is `none`. -/
namespace Asylo

structure MultiBufferInputStream where
  buffers : List (List Char)
  current : Nat
  offset : Int
  trimOffset : Int
  bytesRead : Int
  lastReturnedSize : Int
  size : Int
  deriving DecidableEq, Repr

namespace MultiBufferInputStream

/-- The constructor: an empty stream. -/
def init : MultiBufferInputStream := ⟨[], 0, 0, 0, 0, 0, 0⟩

variable (s : MultiBufferInputStream)

/-- `*current_`; only read while `current_` is not `cend()`. -/
def currentBuffer : List Char := s.buffers.getD s.current []

/-- The tail of `Next`: the rest of the current buffer from `offset_` on is
returned, and `offset_` moves to its end. -/
def returnRest : Option (List Char × Int) × MultiBufferInputStream :=
  let returned := (s.currentBuffer.length : Int) - s.offset
  (some (s.currentBuffer.drop s.offset.toNat, returned),
    { s with lastReturnedSize := returned, bytesRead := s.bytesRead + returned,
             offset := s.currentBuffer.length })

/-- `Next(&data, &size)`: the bytes and size it returns, or `none` for
`false`. Running off the last buffer moves `current_` to `cend()` and leaves
`offset_` at that buffer's size. -/
def next : Option (List Char × Int) × MultiBufferInputStream :=
  if s.current = s.buffers.length then (none, s)
  else if (s.currentBuffer.length : Int) = s.offset then
    if s.current + 1 = s.buffers.length then
      (none, { s with current := s.current + 1, lastReturnedSize := 0 })
    else returnRest { s with current := s.current + 1, offset := 0 }
  else returnRest s

/-- `BackUp(count)`. -/
def backUp (count : Int) : Option MultiBufferInputStream :=
  if s.lastReturnedSize = 0 then none
  else if count < 0 then none
  else if count > s.lastReturnedSize then none
  else some { s with offset := s.offset - count, bytesRead := s.bytesRead - count,
                     lastReturnedSize := 0 }

/-- The loop of `Skip` while `count > 0`. Every round after the first starts
at the end of its buffer and moves to the next one, so the rounds are at most
one more than the buffers from `current_` on. -/
def skipLoop : Nat → Int → MultiBufferInputStream → Bool × MultiBufferInputStream
  | 0, _, s => (false, s)
  | fuel + 1, count, s =>
    if count ≤ 0 then (true, s)
    else
      -- advance to the next buffer, if one exists
      let advanced :=
        if (s.currentBuffer.length : Int) = s.offset then
          if s.current + 1 = s.buffers.length then none
          else some { s with current := s.current + 1, offset := 0 }
        else some s
      match advanced with
      | none => (false, { s with current := s.current + 1 })
      | some s =>
        let bytesRemaining := (s.currentBuffer.length : Int) - s.offset
        let bytesToSkip := if count ≤ bytesRemaining then count else bytesRemaining
        skipLoop fuel (count - bytesToSkip)
          { s with offset := s.offset + bytesToSkip, bytesRead := s.bytesRead + bytesToSkip }

/-- `Skip(count)`. -/
def skip (count : Int) : Bool × MultiBufferInputStream :=
  if s.current = s.buffers.length then (false, s)
  else skipLoop (s.buffers.length - s.current + 1) count { s with lastReturnedSize := 0 }

/-- `ByteCount()`. -/
def byteCount : Int := s.bytesRead

/-- `AddBuffer(data, size)`. A `current_` at `cend()` stays at the end of the
list as it grows, and `current_--` then moves it onto the new buffer, whose
index is the old `cend()`; `offset_` is left as it was. -/
def addBuffer (data : List Char) : MultiBufferInputStream :=
  let atEnd := s.current = s.buffers.length
  let buffers := s.buffers ++ [data]
  { s with buffers := buffers, current := if atEnd then buffers.length - 1 else s.current,
           size := s.size + data.length }

/-- `TrimFront()`: the buffers before `current_` are dropped, and the current
one too when it is used up. -/
def trimFront : MultiBufferInputStream :=
  let buffers := s.buffers.drop s.current
  let trimmed : MultiBufferInputStream :=
    match buffers with
    | [] => { s with buffers := [], current := 0, offset := 0, trimOffset := 0 }
    | buffer :: rest =>
      if (buffer.length : Int) = s.offset then
        { s with buffers := rest, current := 0, offset := 0, trimOffset := 0 }
      else { s with buffers := buffers, current := 0, trimOffset := s.offset }
  { trimmed with size := s.size - s.bytesRead, lastReturnedSize := 0, bytesRead := 0 }

/-- `Rewind()`. -/
def rewind : MultiBufferInputStream :=
  { s with current := 0, offset := s.trimOffset, lastReturnedSize := 0, bytesRead := 0 }

/-- `RemainingBytes()`: the current buffer from `offset_` on, then every later
buffer. -/
def remainingBytes : List Char :=
  if s.current = s.buffers.length then []
  else s.currentBuffer.drop s.offset.toNat ++ (s.buffers.drop (s.current + 1)).flatten

/-- `RemainingByteCount()`. -/
def remainingByteCount : Int := s.size - s.bytesRead

end MultiBufferInputStream

end Asylo
