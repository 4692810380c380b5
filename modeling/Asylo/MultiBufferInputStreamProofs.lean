import Asylo.MultiBufferInputStream

/-! The stream as a byte queue with a read cursor: its bytes are those of all
buffers after the trim point, and its cursor is `ByteCount()`. `Next` must
return the bytes at the cursor. It does not once it has run off the last
buffer: `offset_` keeps that buffer's size, a buffer added afterwards is read
from that offset on, and its first bytes are never returned. -/
namespace Asylo.MultiBufferInputStream

variable (s : MultiBufferInputStream)

/-- The bytes of the stream: every buffer, less the part of the first one
before `trim_offset_`. -/
def contents : List Char := s.buffers.flatten.drop s.trimOffset.toNat

theorem contents_addBuffer (data : List Char) (trimInside : s.trimOffset.toNat ≤ s.buffers.flatten.length) :
    (s.addBuffer data).contents = s.contents ++ data := by
  simp only [contents, addBuffer, List.flatten_append, List.flatten_singleton]
  exact List.drop_append_of_le_length trimInside

variable {s}

/-- `Next` at the end of the last buffer returns `false`, moves `current_` to
`cend()` and keeps `offset_`. -/
theorem next_at_last_end (last : s.current + 1 = s.buffers.length)
    (usedUp : (s.currentBuffer.length : Int) = s.offset) :
    s.next = (none, { s with current := s.current + 1, lastReturnedSize := 0 }) := by
  have notEnd : s.current ≠ s.buffers.length := by omega
  simp [next, notEnd, usedUp, last]

/-- A buffer added once `Next` has run off the end becomes the current one,
read from the old `offset_`. -/
theorem addBuffer_after_end (last : s.current + 1 = s.buffers.length)
    (usedUp : (s.currentBuffer.length : Int) = s.offset) (data : List Char) :
    s.next.2.addBuffer data =
      { s with buffers := s.buffers ++ [data], current := s.buffers.length,
               lastReturnedSize := 0, size := s.size + data.length } := by
  rw [next_at_last_end last usedUp]
  simp [addBuffer, last]

theorem currentBuffer_appended (data : List Char) (t : MultiBufferInputStream)
    (appended : t.buffers = s.buffers ++ [data]) (atNew : t.current = s.buffers.length) :
    t.currentBuffer = data := by
  simp [currentBuffer, appended, atNew]

/-- Once `Next` has run off a last buffer of `n` bytes, a buffer added
afterwards loses its first `n` bytes: `Next` returns only the rest (nothing at
all when the new buffer has exactly `n` bytes), `RemainingBytes()` holds only
the rest, and `RemainingByteCount()` still counts the whole buffer. -/
theorem next_after_end_skips (last : s.current + 1 = s.buffers.length)
    (usedUp : (s.currentBuffer.length : Int) = s.offset) (data : List Char) :
    s.next.1 = none ∧
      (s.next.2.addBuffer data).next.1 =
        (if (data.length : Int) = s.offset then none
         else some (data.drop s.offset.toNat, data.length - s.offset)) ∧
      (s.next.2.addBuffer data).remainingBytes = data.drop s.offset.toNat ∧
      (s.next.2.addBuffer data).remainingByteCount = s.remainingByteCount + data.length := by
  have exhausted := next_at_last_end last usedUp
  have added := addBuffer_after_end last usedUp data
  have current := currentBuffer_appended data (s.next.2.addBuffer data)
    (by rw [added]) (by rw [added])
  refine ⟨by rw [exhausted], ?next, ?remaining, ?count⟩
  case next =>
    by_cases sameLength : (data.length : Int) = s.offset
    · rw [if_pos sameLength, next, current, added]
      simp [sameLength]
    · rw [if_neg sameLength, next, current, added]
      simp [sameLength, returnRest, currentBuffer]
  case remaining =>
    rw [remainingBytes, current, added]
    simp
  case count =>
    rw [added]
    simp only [remainingByteCount]
    omega

/-- The stream of the handshaker after `AddBuffer("ab")`, `Next` (which
returns `"ab"`), `Next` (which returns `false`) and `AddBuffer("cde")`: the
queue holds `"abcde"` with the cursor at 2, but `Next` returns `"e"`, and
`RemainingBytes()` is `"e"` while `RemainingByteCount()` is 3. -/
theorem next_skips_bytes_added_after_end :
    (init.addBuffer "ab".toList).next.1 = some ("ab".toList, 2) ∧
      (init.addBuffer "ab".toList).next.2.next.1 = none ∧
      ((init.addBuffer "ab".toList).next.2.next.2.addBuffer "cde".toList).contents = "abcde".toList ∧
      ((init.addBuffer "ab".toList).next.2.next.2.addBuffer "cde".toList).byteCount = 2 ∧
      ((init.addBuffer "ab".toList).next.2.next.2.addBuffer "cde".toList).next.1 =
        some ("e".toList, 1) ∧
      ((init.addBuffer "ab".toList).next.2.next.2.addBuffer "cde".toList).remainingBytes = "e".toList ∧
      ((init.addBuffer "ab".toList).next.2.next.2.addBuffer "cde".toList).remainingByteCount = 3 := by
  have read : (init.addBuffer "ab".toList).next =
      (some ("ab".toList, 2),
        { init.addBuffer "ab".toList with lastReturnedSize := 2, bytesRead := 2, offset := 2 }) := by
    decide
  have skipped := next_after_end_skips (s := (init.addBuffer "ab".toList).next.2)
    (by rw [read]; rfl) (by rw [read]; rfl) "cde".toList
  refine ⟨by rw [read], skipped.1, by decide, by decide, ?_, ?_, ?_⟩
  · rw [skipped.2.1, read]
    decide
  · rw [skipped.2.2.1, read]
    decide
  · rw [skipped.2.2.2, read]
    decide

end Asylo.MultiBufferInputStream
