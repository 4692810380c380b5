import Mathlib

/-! The offset translator of secure storage (`offset_translator.cc`). A secure
file is a header followed by fixed-length blocks, each holding a payload and
trailing integrity metadata; logical offsets count payload bytes only. The
translator maps between the two and cuts a logical range into a misaligned
head, whole payload blocks and a misaligned tail. -/
namespace Asylo

/-- `OffsetTranslator::kInvalidOffset`. -/
def kInvalidOffset : Int := -1

theorem natCast_ne_kInvalidOffset (offset : Nat) : (offset : Int) ≠ kInvalidOffset := by
  unfold kInvalidOffset
  omega

/-- A translator for a layout `Create` accepts: header, payload and metadata
are all non-empty, so the payload is strictly shorter than its block. -/
structure OffsetTranslator where
  headerLength : Nat
  payloadLength : Nat
  blockLength : Nat
  header_pos : 0 < headerLength
  payload_pos : 0 < payloadLength
  payload_lt_block : payloadLength < blockLength

/-- `OffsetTranslator::Create`: refuses degenerate layouts. -/
def create (headerLen payloadLen blockLen : Nat) : Option OffsetTranslator :=
  if valid : 0 < headerLen ∧ 0 < payloadLen ∧ 0 < blockLen ∧ payloadLen < blockLen then
    some ⟨headerLen, payloadLen, blockLen, valid.1, valid.2.1, valid.2.2.2⟩
  else none

namespace OffsetTranslator

variable (t : OffsetTranslator)

/-- `OffsetTranslator::PhysicalToLogical`: offsets inside the header or inside
a block's metadata have no logical image. -/
def physicalToLogical (offset : Int) : Int :=
  if offset < t.headerLength then kInvalidOffset
  else
    let inBlocks := (offset - t.headerLength).toNat
    if inBlocks % t.blockLength ≥ t.payloadLength then kInvalidOffset
    else ((inBlocks / t.blockLength) * t.payloadLength + inBlocks % t.blockLength : Nat)

/-- `OffsetTranslator::LogicalToPhysical`. -/
def logicalToPhysical (offset : Int) : Int :=
  if offset < 0 then kInvalidOffset
  else (t.headerLength + (offset.toNat / t.payloadLength) * t.blockLength +
    offset.toNat % t.payloadLength : Nat)

/-- `OffsetTranslator::PhysicalToLogical` over the source's 64-bit words: the
offsets are `off_t`, the lengths `size_t`. Only the header comparison is signed;
`offset - header_length_` converts the offset to `size_t`, so the subtraction,
the division, the remainder and the comparison of `tail` are all unsigned. -/
def physicalToLogicalWord (offset : BitVec 64) : BitVec 64 :=
  let headerLengthOffset := BitVec.ofNat 64 t.headerLength
  if offset.slt headerLengthOffset then -1
  else
    let tail := (offset - BitVec.ofNat 64 t.headerLength) % BitVec.ofNat 64 t.blockLength
    if (BitVec.ofNat 64 t.payloadLength).ule tail then -1
    else ((offset - BitVec.ofNat 64 t.headerLength) / BitVec.ofNat 64 t.blockLength) *
      BitVec.ofNat 64 t.payloadLength + tail

/-- `OffsetTranslator::LogicalToPhysical` over the source's 64-bit words; past
the sign test the arithmetic is unsigned and wraps. -/
def logicalToPhysicalWord (offset : BitVec 64) : BitVec 64 :=
  if offset.slt 0 then -1
  else BitVec.ofNat 64 t.headerLength +
    (offset / BitVec.ofNat 64 t.payloadLength) * BitVec.ofNat 64 t.blockLength +
    offset % BitVec.ofNat 64 t.payloadLength

/-- The three outputs of `ReduceLogicalRangeToFullLogicalBlocks`. -/
structure Breakdown where
  firstPartialBlockBytesCount : Nat
  lastPartialBlockBytesCount : Nat
  fullInclusiveBlocksBytesCount : Nat
  deriving DecidableEq, Repr

/-- `OffsetTranslator::ReduceLogicalRangeToFullLogicalBlocks`. The first
partial count is clamped to `count` when the range ends before the end of its
first block; the full count then covers that one block. -/
def reduceLogicalRangeToFullLogicalBlocks (logicalOffset count : Nat) : Breakdown :=
  let inBlockOffset := logicalOffset % t.payloadLength
  let first := if inBlockOffset > 0 then t.payloadLength - inBlockOffset else 0
  let (first, last, full) :=
    if first ≥ count then (count, 0, 0)
    else
      let last := (count - first) % t.payloadLength
      (first, last, count - first - last)
  { firstPartialBlockBytesCount := first
    lastPartialBlockBytesCount := last
    fullInclusiveBlocksBytesCount :=
      full + (if first > 0 then t.payloadLength else 0) +
        (if last > 0 then t.payloadLength else 0) }

/-- The three outputs of `ReduceLogicalRangeToFullLogicalBlocks` as the
source's `size_t` words. -/
structure BreakdownWord where
  firstPartialBlockBytesCount : BitVec 64
  lastPartialBlockBytesCount : BitVec 64
  fullInclusiveBlocksBytesCount : BitVec 64
  deriving DecidableEq, Repr

/-- `ReduceLogicalRangeToFullLogicalBlocks` over the source's words: the
offset is an `off_t`, the counts and `payload_length_` are `size_t`. The
remainder is unsigned, the offset converting to `size_t`, and lands in the
`off_t` `in_block_offset`, whose test `> 0` is signed; the sums wrap. -/
def reduceLogicalRangeToFullLogicalBlocksWord (logicalOffset count : BitVec 64) : BreakdownWord :=
  let payloadLength := BitVec.ofNat 64 t.payloadLength
  let inBlockOffset := logicalOffset % payloadLength
  let first := if (0 : BitVec 64).slt inBlockOffset then payloadLength - inBlockOffset else 0
  let (first, last, full) :=
    if count ≤ first then (count, 0, 0)
    else
      let last := (count - first) % payloadLength
      (first, last, count - first - last)
  { firstPartialBlockBytesCount := first
    lastPartialBlockBytesCount := last
    fullInclusiveBlocksBytesCount :=
      full + (if first > 0 then payloadLength else 0) +
        (if last > 0 then payloadLength else 0) }

@[simp] theorem logicalToPhysical_natCast (offset : Nat) :
    t.logicalToPhysical offset =
      ((t.headerLength + (offset / t.payloadLength) * t.blockLength +
        offset % t.payloadLength : Nat) : Int) := by
  simp [logicalToPhysical]

theorem logicalToPhysical_neg {offset : Int} (negative : offset < 0) :
    t.logicalToPhysical offset = kInvalidOffset := by
  simp [logicalToPhysical, negative]

theorem header_le_logicalToPhysical (offset : Nat) :
    (t.headerLength : Int) ≤ t.logicalToPhysical offset := by
  rw [logicalToPhysical_natCast]
  omega

theorem physicalToLogical_nonneg {offset : Int}
    (valid : t.physicalToLogical offset ≠ kInvalidOffset) : 0 ≤ t.physicalToLogical offset := by
  simp only [physicalToLogical] at valid ⊢
  split_ifs at valid ⊢
  · exact absurd rfl valid
  · exact absurd rfl valid
  · exact Int.natCast_nonneg _

/-- Translating a logical offset out and back is the identity. -/
theorem toLogical_toPhysical (offset : Nat) :
    t.physicalToLogical (t.logicalToPhysical offset) = offset := by
  have payloadPos := t.payload_pos
  have below := t.payload_lt_block
  have split := Nat.div_add_mod offset t.payloadLength
  have tailBound := Nat.mod_lt offset payloadPos
  have inBlocks : (((t.headerLength + (offset / t.payloadLength) * t.blockLength +
      offset % t.payloadLength : Nat) : Int) - t.headerLength).toNat =
      offset % t.payloadLength + (offset / t.payloadLength) * t.blockLength := by
    omega
  have tail : (offset % t.payloadLength + (offset / t.payloadLength) * t.blockLength) %
      t.blockLength = offset % t.payloadLength := by
    rw [Nat.add_mul_mod_self_right, Nat.mod_eq_of_lt (by omega)]
  have blocks : (offset % t.payloadLength + (offset / t.payloadLength) * t.blockLength) /
      t.blockLength = offset / t.payloadLength := by
    rw [Nat.add_mul_div_right _ _ (by omega), Nat.div_eq_of_lt (by omega), Nat.zero_add]
  simp only [logicalToPhysical_natCast, physicalToLogical, inBlocks, tail, blocks]
  rw [if_neg (by omega), if_neg (by omega)]
  exact congrArg Nat.cast (by rw [Nat.mul_comm]; exact split)

/-- A physical offset has no logical image exactly when it lies in the header
or in the metadata at the end of a block. -/
theorem physicalToLogical_eq_invalid_iff (offset : Int) :
    t.physicalToLogical offset = kInvalidOffset ↔
      offset < t.headerLength ∨ t.payloadLength ≤ (offset - t.headerLength) % t.blockLength := by
  by_cases before : offset < t.headerLength
  · simp [physicalToLogical, before]
  · have tail : (((offset - t.headerLength).toNat % t.blockLength : Nat) : Int) =
        (offset - t.headerLength) % t.blockLength := by
      rw [Int.natCast_mod, Int.toNat_of_nonneg (by omega)]
    simp only [physicalToLogical, before, if_false, false_or, ← tail, Nat.cast_le]
    split_ifs with gap
    · exact iff_of_true rfl gap
    · exact iff_of_false (natCast_ne_kInvalidOffset _) gap

/-- Translating a physical offset of the payload in and back out is the
identity. -/
theorem toPhysical_toLogical {offset : Int}
    (valid : t.physicalToLogical offset ≠ kInvalidOffset) :
    t.logicalToPhysical (t.physicalToLogical offset) = offset := by
  have payloadPos := t.payload_pos
  have below := t.payload_lt_block
  simp only [physicalToLogical] at valid ⊢
  split_ifs at valid ⊢ with before gap
  · exact absurd rfl valid
  · exact absurd rfl valid
  -- the offset is `header + inBlocks`, and `inBlocks` splits into whole blocks
  -- and a tail inside the payload
  have tailLt : (offset - t.headerLength).toNat % t.blockLength < t.payloadLength := by omega
  have inBlocks : (((offset - t.headerLength).toNat : Nat) : Int) = offset - t.headerLength :=
    Int.toNat_of_nonneg (by omega)
  have tail : ((offset - t.headerLength).toNat / t.blockLength * t.payloadLength +
      (offset - t.headerLength).toNat % t.blockLength) % t.payloadLength =
      (offset - t.headerLength).toNat % t.blockLength := by
    rw [Nat.add_comm, Nat.add_mul_mod_self_right, Nat.mod_eq_of_lt tailLt]
  have blocks : ((offset - t.headerLength).toNat / t.blockLength * t.payloadLength +
      (offset - t.headerLength).toNat % t.blockLength) / t.payloadLength =
      (offset - t.headerLength).toNat / t.blockLength := by
    rw [Nat.add_comm, Nat.add_mul_div_right _ _ payloadPos, Nat.div_eq_of_lt tailLt, Nat.zero_add]
  rw [logicalToPhysical_natCast, tail, blocks, Nat.add_assoc, Nat.div_add_mod', Nat.cast_add,
    inBlocks]
  omega

/-- `LogicalToPhysical` is strictly increasing on logical offsets: a later
offset is either later in the same block or in a later block, which starts
past the whole earlier one. -/
theorem logicalToPhysical_lt_logicalToPhysical {offset offset' : Nat} (lt : offset < offset') :
    t.logicalToPhysical offset < t.logicalToPhysical offset' := by
  have payloadPos := t.payload_pos
  have below := t.payload_lt_block
  have blocks : offset / t.payloadLength ≤ offset' / t.payloadLength :=
    Nat.div_le_div_right lt.le
  have tailBound := Nat.mod_lt offset payloadPos
  have split := Nat.div_add_mod offset t.payloadLength
  have split' := Nat.div_add_mod offset' t.payloadLength
  rw [logicalToPhysical_natCast, logicalToPhysical_natCast, Nat.cast_lt]
  rcases Nat.eq_or_lt_of_le blocks with same | later
  · rw [same] at split ⊢
    omega
  · have nextBlock : offset / t.payloadLength * t.blockLength + t.blockLength ≤
        offset' / t.payloadLength * t.blockLength :=
      calc offset / t.payloadLength * t.blockLength + t.blockLength
          = (offset / t.payloadLength + 1) * t.blockLength := (Nat.succ_mul _ _).symm
        _ ≤ offset' / t.payloadLength * t.blockLength := Nat.mul_le_mul_right _ later
    omega

/-- A nonempty range that starts inside a block and ends before that block's
end is reported whole as the first partial count, with one inclusive block. -/
theorem reduce_inside_block {logicalOffset count : Nat}
    (misaligned : 0 < logicalOffset % t.payloadLength) (nonempty : 0 < count)
    (short : logicalOffset % t.payloadLength + count < t.payloadLength) :
    t.reduceLogicalRangeToFullLogicalBlocks logicalOffset count = ⟨count, 0, t.payloadLength⟩ := by
  simp only [reduceLogicalRangeToFullLogicalBlocks, misaligned, ↓reduceIte]
  rw [if_pos (by omega)]
  simp [nonempty]

/-- A range of whole blocks from a block start has no partial blocks. -/
theorem reduce_aligned {logicalOffset count : Nat}
    (aligned : logicalOffset % t.payloadLength = 0) (whole : count % t.payloadLength = 0) :
    t.reduceLogicalRangeToFullLogicalBlocks logicalOffset count = ⟨0, 0, count⟩ := by
  simp only [reduceLogicalRangeToFullLogicalBlocks, aligned, Nat.lt_irrefl, ↓reduceIte]
  by_cases empty : count = 0
  · simp [empty]
  · simp [empty, whole]

end OffsetTranslator

end Asylo
