import Asylo.OffsetTranslator

/-! The translator over the source's 64-bit words refines the unbounded one on
every input where the source's arithmetic does not wrap: all physical offsets,
once the header length fits in `off_t`, and the logical offsets whose physical
image fits in `off_t`. The facts about the layout are then read off the
unbounded model. -/
namespace Asylo.OffsetTranslator

private theorem toInt_of_toNat_lt {x : BitVec 64} (small : x.toNat < 2 ^ 63) :
    x.toInt = x.toNat :=
  BitVec.toInt_eq_toNat_of_lt (by omega)

private theorem toNat_of_toInt_nonneg {x : BitVec 64} (nonneg : 0 ≤ x.toInt) :
    x.toNat < 2 ^ 63 ∧ x.toInt = x.toNat := by
  have range := x.isLt
  rw [BitVec.toInt_eq_toNat_cond] at nonneg ⊢
  split at nonneg
  · exact ⟨by omega, if_pos ‹_›⟩
  · omega

private theorem toNat_ofNat_of_lt {n : Nat} (size : n < 2 ^ 64) : (BitVec.ofNat 64 n).toNat = n := by
  rw [BitVec.toNat_ofNat, Nat.mod_eq_of_lt size]

private theorem invalid_toInt : (-1 : BitVec 64).toInt = kInvalidOffset := by
  decide

/-- The offsets of whole blocks and the tail, recounted in payload bytes, are
no more than the offset itself. -/
private theorem blocks_payload_le (inBlocks : Nat) {payload block : Nat} (shorter : payload ≤ block) :
    inBlocks / block * payload + inBlocks % block ≤ inBlocks := by
  have blocks : inBlocks / block * payload ≤ inBlocks / block * block :=
    Nat.mul_le_mul_left _ shorter
  have split := Nat.div_add_mod' inBlocks block
  omega

section Refinement

variable (t : OffsetTranslator) (blockSize : t.blockLength < 2 ^ 64)
include blockSize

/-- Below `2^63` the source's `LogicalToPhysical` computes the unbounded
translation. -/
theorem logicalToPhysicalWord_toInt {offset : BitVec 64} (nonneg : 0 ≤ offset.toInt)
    (fits : t.logicalToPhysical offset.toInt < 2 ^ 63) :
    (t.logicalToPhysicalWord offset).toInt = t.logicalToPhysical offset.toInt := by
  have payloadSize : t.payloadLength < 2 ^ 64 := by have := t.payload_lt_block; omega
  obtain ⟨small, toIntEq⟩ := toNat_of_toInt_nonneg nonneg
  rw [toIntEq, logicalToPhysical_natCast] at fits ⊢
  have fitsNat : t.headerLength + offset.toNat / t.payloadLength * t.blockLength +
      offset.toNat % t.payloadLength < 2 ^ 63 := by exact_mod_cast fits
  have notNegative : offset.slt 0 = false := by
    have zero : (0 : BitVec 64).toInt = 0 := rfl
    rw [Bool.eq_false_iff, ne_eq, BitVec.slt_iff_toInt_lt, zero]
    omega
  -- every partial sum stays below the image, so no step wraps
  have word : (t.logicalToPhysicalWord offset).toNat = t.headerLength +
      offset.toNat / t.payloadLength * t.blockLength + offset.toNat % t.payloadLength := by
    simp only [logicalToPhysicalWord, notNegative, Bool.false_eq_true, if_false,
      BitVec.toNat_add, BitVec.toNat_mul, BitVec.toNat_udiv, BitVec.toNat_umod,
      toNat_ofNat_of_lt blockSize, toNat_ofNat_of_lt payloadSize,
      toNat_ofNat_of_lt (show t.headerLength < 2 ^ 64 by omega)]
    simp (disch := omega) only [Nat.mod_eq_of_lt]
  rw [toInt_of_toNat_lt (by omega), word]

/-- Once the header length fits in `off_t`, the source's `PhysicalToLogical`
computes the unbounded translation at every physical offset. -/
theorem physicalToLogicalWord_toInt (headerFits : t.headerLength < 2 ^ 63) (offset : BitVec 64) :
    (t.physicalToLogicalWord offset).toInt = t.physicalToLogical offset.toInt := by
  have payloadSize : t.payloadLength < 2 ^ 64 := by have := t.payload_lt_block; omega
  have headerNat := toNat_ofNat_of_lt (show t.headerLength < 2 ^ 64 by omega)
  have headerInt : (BitVec.ofNat 64 t.headerLength).toInt = t.headerLength := by
    rw [toInt_of_toNat_lt (by omega), headerNat]
  -- the header test is the one signed comparison
  have signed : offset.slt (BitVec.ofNat 64 t.headerLength) = decide (offset.toInt < t.headerLength) := by
    rw [Bool.eq_iff_iff, BitVec.slt_iff_toInt_lt, headerInt, decide_eq_true_iff]
  by_cases before : offset.toInt < t.headerLength
  · simp only [physicalToLogicalWord, physicalToLogical, signed, before, decide_true, if_true,
      invalid_toInt]
  -- past the header the offset is nonnegative, so its unsigned value is its value
  obtain ⟨small, toIntEq⟩ := toNat_of_toInt_nonneg (show 0 ≤ offset.toInt by omega)
  have inBlocks : (offset - BitVec.ofNat 64 t.headerLength).toNat = offset.toNat - t.headerLength := by
    rw [BitVec.toNat_sub_of_le (BitVec.le_def.mpr (by omega)), headerNat]
  have inBlocksInt : (offset.toInt - t.headerLength).toNat = offset.toNat - t.headerLength := by
    omega
  have tail : ((offset - BitVec.ofNat 64 t.headerLength) % BitVec.ofNat 64 t.blockLength).toNat =
      (offset.toNat - t.headerLength) % t.blockLength := by
    rw [BitVec.toNat_umod, inBlocks, toNat_ofNat_of_lt blockSize]
  have unsigned : (BitVec.ofNat 64 t.payloadLength).ule
      ((offset - BitVec.ofNat 64 t.headerLength) % BitVec.ofNat 64 t.blockLength) =
      decide (t.payloadLength ≤ (offset.toNat - t.headerLength) % t.blockLength) := by
    rw [Bool.eq_iff_iff, BitVec.ule_iff_toNat_le, tail, toNat_ofNat_of_lt payloadSize,
      decide_eq_true_iff]
  simp only [physicalToLogicalWord, physicalToLogical, signed, before, decide_false,
    Bool.false_eq_true, if_false, inBlocksInt, unsigned]
  by_cases gap : t.payloadLength ≤ (offset.toNat - t.headerLength) % t.blockLength
  · simp only [gap, decide_true, if_true, invalid_toInt]
  · -- the logical offset is at most the distance past the header, so it fits
    have bound := blocks_payload_le (offset.toNat - t.headerLength) t.payload_lt_block.le
    have word : (((offset - BitVec.ofNat 64 t.headerLength) / BitVec.ofNat 64 t.blockLength) *
        BitVec.ofNat 64 t.payloadLength +
          (offset - BitVec.ofNat 64 t.headerLength) % BitVec.ofNat 64 t.blockLength).toNat =
        (offset.toNat - t.headerLength) / t.blockLength * t.payloadLength +
          (offset.toNat - t.headerLength) % t.blockLength := by
      simp only [BitVec.toNat_add, BitVec.toNat_mul, BitVec.toNat_udiv, tail, inBlocks,
        toNat_ofNat_of_lt blockSize, toNat_ofNat_of_lt payloadSize]
      simp (disch := omega) only [Nat.mod_eq_of_lt]
    simp only [gap, decide_false, Bool.false_eq_true, if_false]
    rw [toInt_of_toNat_lt (by omega), word]

/-- `OffsetTranslator` over `off_t` and `size_t`: translating a logical offset
out and back is the identity while its physical image fits in `off_t`; once the
header length fits in `off_t`, a physical offset has no logical image exactly
when it lies in the header or in a block's metadata, and otherwise translating
it in and back out is the identity; and `LogicalToPhysical` is strictly
increasing on the logical offsets whose image fits in `off_t`. -/
theorem word_offsets_bijective :
    (∀ l : BitVec 64, 0 ≤ l.toInt → t.logicalToPhysical l.toInt < 2 ^ 63 →
        t.physicalToLogicalWord (t.logicalToPhysicalWord l) = l) ∧
      (t.headerLength < 2 ^ 63 → ∀ p : BitVec 64,
        (t.physicalToLogicalWord p = -1 ↔
          p.toInt < t.headerLength ∨ t.payloadLength ≤ (p.toInt - t.headerLength) % t.blockLength) ∧
        (t.physicalToLogicalWord p ≠ -1 → t.logicalToPhysicalWord (t.physicalToLogicalWord p) = p)) ∧
      (∀ l l' : BitVec 64, 0 ≤ l.toInt → l.toInt < l'.toInt → t.logicalToPhysical l'.toInt < 2 ^ 63 →
        (t.logicalToPhysicalWord l).toInt < (t.logicalToPhysicalWord l').toInt) := by
  refine ⟨?roundTrip, ?physical, ?increasing⟩
  case roundTrip =>
    intro l nonneg fits
    obtain ⟨-, toIntEq⟩ := toNat_of_toInt_nonneg nonneg
    have headerFits : t.headerLength < 2 ^ 63 := by
      have := t.header_le_logicalToPhysical l.toNat
      rw [toIntEq] at fits
      omega
    apply BitVec.toInt_inj.mp
    rw [physicalToLogicalWord_toInt t blockSize headerFits, logicalToPhysicalWord_toInt t blockSize nonneg fits,
      toIntEq, toLogical_toPhysical]
  case physical =>
    intro headerFits p
    have logical := physicalToLogicalWord_toInt t blockSize headerFits p
    constructor
    · rw [← BitVec.toInt_inj, logical, invalid_toInt, physicalToLogical_eq_invalid_iff]
    · intro valid
      have validInt : t.physicalToLogical p.toInt ≠ kInvalidOffset := by
        rw [← logical, ← invalid_toInt, ne_eq, BitVec.toInt_inj]
        exact valid
      -- the logical image translates back to `p`, which fits in `off_t`
      have back := t.toPhysical_toLogical validInt
      have nonneg : 0 ≤ (t.physicalToLogicalWord p).toInt := by
        rw [logical]
        exact t.physicalToLogical_nonneg validInt
      have fits : t.logicalToPhysical (t.physicalToLogicalWord p).toInt < 2 ^ 63 := by
        rw [logical, back]
        exact BitVec.toInt_lt
      apply BitVec.toInt_inj.mp
      rw [logicalToPhysicalWord_toInt t blockSize nonneg fits, logical, back]
  case increasing =>
    intro l l' nonneg lt fits'
    obtain ⟨-, toIntEq⟩ := toNat_of_toInt_nonneg nonneg
    obtain ⟨-, toIntEq'⟩ := toNat_of_toInt_nonneg (show 0 ≤ l'.toInt by omega)
    have increasing := t.logicalToPhysical_lt_logicalToPhysical (show l.toNat < l'.toNat by omega)
    have fits : t.logicalToPhysical l.toInt < 2 ^ 63 := by
      rw [toIntEq]
      rw [toIntEq'] at fits'
      omega
    rw [logicalToPhysicalWord_toInt t blockSize nonneg fits,
      logicalToPhysicalWord_toInt t blockSize (by omega) fits', toIntEq, toIntEq']
    exact increasing

end Refinement

theorem word_offsets_bijective_test_layout :
    let layout : OffsetTranslator := ⟨10, 40, 80, by decide, by decide, by decide⟩
    layout.physicalToLogicalWord (layout.logicalToPhysicalWord 100) = 100 ∧
      layout.logicalToPhysicalWord (layout.physicalToLogicalWord 200) = 200 := by
  intro layout
  have bijective := word_offsets_bijective layout (by decide)
  exact ⟨bijective.1 100 (by decide) (by decide), (bijective.2.1 (by decide) 200).2 (by decide)⟩

/-- Past `2^63` the source's arithmetic wraps: with one-byte payloads in
two-byte blocks the image of `2^62` is negative, below that of `2^62 - 1`, and
a header of `2^63` bytes reads as a negative `off_t`, so offset 0, inside the
header, gets a logical image. -/
theorem word_offsets_wrap :
    let narrow : OffsetTranslator := ⟨1, 1, 2, by decide, by decide, by decide⟩
    let wide : OffsetTranslator := ⟨2 ^ 63, 1, 2, by decide, by decide, by decide⟩
    0 ≤ (BitVec.ofNat 64 (2 ^ 62 - 1)).toInt ∧
      (narrow.logicalToPhysicalWord (BitVec.ofNat 64 (2 ^ 62))).toInt <
        (narrow.logicalToPhysicalWord (BitVec.ofNat 64 (2 ^ 62 - 1))).toInt ∧
      (0 : BitVec 64).toInt < wide.headerLength ∧ wide.physicalToLogicalWord 0 ≠ -1 := by
  intro narrow wide
  decide

/-! ## Cutting a range into blocks -/

section Reduce

variable (t : OffsetTranslator)

/-- What `ReduceLogicalRangeToFullLogicalBlocks` reports: the head, the tail
and the whole blocks between them add up to the count, head and tail are each
shorter than a block, and the full count runs from the start of the offset's
block to the first block boundary at or past the range's end. -/
theorem reduce_bounds (logicalOffset count : Nat) :
    let b := t.reduceLogicalRangeToFullLogicalBlocks logicalOffset count
    let p := t.payloadLength
    b.firstPartialBlockBytesCount + b.lastPartialBlockBytesCount +
        (b.fullInclusiveBlocksBytesCount - (if 0 < b.firstPartialBlockBytesCount then p else 0) -
          (if 0 < b.lastPartialBlockBytesCount then p else 0)) = count ∧
      b.firstPartialBlockBytesCount < p ∧ b.lastPartialBlockBytesCount < p ∧
      (count = 0 → b.fullInclusiveBlocksBytesCount = 0) ∧
      (0 < count → logicalOffset + count ≤ logicalOffset / p * p + b.fullInclusiveBlocksBytesCount) ∧
      (0 < count → logicalOffset / p * p + b.fullInclusiveBlocksBytesCount < logicalOffset + count + p) := by
  have positive := t.payload_pos
  have split := Nat.div_add_mod' logicalOffset t.payloadLength
  have inside := Nat.mod_lt logicalOffset positive
  unfold reduceLogicalRangeToFullLogicalBlocks
  dsimp only
  generalize logicalOffset / t.payloadLength * t.payloadLength = start at split ⊢
  generalize logicalOffset % t.payloadLength = inBlock at split inside ⊢
  -- the head is the rest of the offset's block, or nothing at a block start
  by_cases misaligned : 0 < inBlock
  · simp only [misaligned, if_true]
    by_cases clamped : t.payloadLength - inBlock ≥ count
    · simp only [clamped, if_true]
      by_cases empty : count = 0
      · subst empty
        simp [positive]
      · have nonempty : 0 < count := Nat.pos_of_ne_zero empty
        simp only [nonempty, if_true, Nat.lt_irrefl, if_false]
        omega
    · simp only [clamped, if_false]
      have tail := Nat.mod_lt (count - (t.payloadLength - inBlock)) positive
      have tailLe := Nat.mod_le (count - (t.payloadLength - inBlock)) t.payloadLength
      have headPos : 0 < t.payloadLength - inBlock := by omega
      simp only [headPos, if_true, gt_iff_lt]
      split_ifs <;> omega
  · have aligned : inBlock = 0 := by omega
    subst aligned
    simp only [Nat.lt_irrefl, if_false]
    by_cases empty : count = 0
    · subst empty
      simp [positive]
    · have nonempty : 0 < count := Nat.pos_of_ne_zero empty
      have notClamped : ¬ 0 ≥ count := by omega
      have tail := Nat.mod_lt count positive
      have tailLe := Nat.mod_le count t.payloadLength
      simp only [notClamped, if_false, Nat.sub_zero, gt_iff_lt]
      split_ifs <;> omega

/-- The full count is a number of whole blocks. -/
theorem reduce_dvd (logicalOffset count : Nat) :
    t.payloadLength ∣ (t.reduceLogicalRangeToFullLogicalBlocks logicalOffset count).fullInclusiveBlocksBytesCount := by
  have block : ∀ (c : Prop) [Decidable c], t.payloadLength ∣ if c then t.payloadLength else 0 := by
    intro c _
    split <;> simp
  unfold reduceLogicalRangeToFullLogicalBlocks
  dsimp only
  -- split on the head, then on the clamp; a clamped range has no whole blocks,
  -- and otherwise they are what is left of the rest once its tail is taken off
  split <;> split <;> dsimp only
  all_goals first
    | exact Nat.dvd_add (Nat.dvd_add (Nat.dvd_zero _) (block _)) (block _)
    | exact Nat.dvd_add (Nat.dvd_add (Nat.dvd_sub_mod _) (block _)) (block _)

/-- The whole payload blocks `[start, stop)` hold every byte of the logical
range `[offset, offset + count)`. -/
def BlocksCover (payloadLength offset count start stop : Nat) : Prop :=
  ∀ x, offset ≤ x → x < offset + count → start * payloadLength ≤ x ∧ x < stop * payloadLength

/-- `length` is the length of the shortest range of whole payload blocks that
holds `[offset, offset + count)`. -/
def IsShortestCover (payloadLength offset count length : Nat) : Prop :=
  (∃ start stop, BlocksCover payloadLength offset count start stop ∧ (stop - start) * payloadLength = length) ∧
    ∀ start stop, BlocksCover payloadLength offset count start stop → length ≤ (stop - start) * payloadLength

theorem IsShortestCover.unique {p offset count length length' : Nat}
    (shortest : IsShortestCover p offset count length) (shortest' : IsShortestCover p offset count length') :
    length = length' := by
  obtain ⟨⟨start, stop, covers, rfl⟩, least⟩ := shortest
  obtain ⟨⟨start', stop', covers', rfl⟩, least'⟩ := shortest'
  exact Nat.le_antisymm (least start' stop' covers') (least' start stop covers)

/-- A number of whole blocks that reaches from the start of the offset's
block past the range's end, by less than a block, is the shortest cover. -/
theorem isShortestCover_of_bounds {p offset count length : Nat} (positive : 0 < p) (multiple : p ∣ length)
    (empty : count = 0 → length = 0)
    (reaches : 0 < count → offset + count ≤ offset / p * p + length)
    (tight : 0 < count → offset / p * p + length < offset + count + p) :
    IsShortestCover p offset count length := by
  obtain ⟨blocks, rfl⟩ := multiple
  have split := Nat.div_add_mod' offset p
  have commuted := Nat.mul_comm p blocks
  by_cases nonempty : 0 < count
  · have reached := reaches nonempty
    have tightened := tight nonempty
    refine ⟨⟨offset / p, offset / p + blocks, fun x atLeast below => ?_, ?_⟩, fun start stop covers => ?_⟩
    · rw [Nat.add_mul]
      omega
    · rw [Nat.add_sub_cancel_left, commuted]
    · -- a cover holds the first byte and the last byte of the range
      obtain ⟨first, -⟩ := covers offset (Nat.le_refl _) (by omega)
      obtain ⟨-, last⟩ := covers (offset + count - 1) (by omega) (by omega)
      have startLe : start ≤ offset / p := (Nat.le_div_iff_mul_le positive).mpr first
      have stopGe : offset / p + blocks < stop + 1 := by
        apply Nat.lt_of_mul_lt_mul_right (a := p)
        rw [Nat.add_mul, Nat.add_mul, Nat.one_mul]
        omega
      rw [commuted]
      exact Nat.mul_le_mul_right p (by omega)
  · have none : count = 0 := by omega
    rw [empty none]
    refine ⟨⟨0, 0, fun x atLeast below => by omega, by simp⟩, fun _ _ _ => Nat.zero_le _⟩

/-- The full count is the length of the shortest range of whole blocks that
holds the range. -/
theorem reduce_shortestCover (logicalOffset count : Nat) :
    IsShortestCover t.payloadLength logicalOffset count
      (t.reduceLogicalRangeToFullLogicalBlocks logicalOffset count).fullInclusiveBlocksBytesCount := by
  obtain ⟨-, -, -, empty, reaches, tight⟩ := t.reduce_bounds logicalOffset count
  exact isShortestCover_of_bounds t.payload_pos (t.reduce_dvd logicalOffset count) empty reaches tight

/-- The full count over words is the unbounded sum of its parts, wrapped. -/
private theorem toNat_blocksAdded {p : Nat} (payload : (BitVec.ofNat 64 p).toNat = p) (full first last : BitVec 64) :
    (full + (if 0 < first then BitVec.ofNat 64 p else 0) + (if 0 < last then BitVec.ofNat 64 p else 0)).toNat =
      (full.toNat + (if 0 < first.toNat then p else 0) + (if 0 < last.toNat then p else 0)) % 2 ^ 64 := by
  have zero : (0 : BitVec 64).toNat = 0 := rfl
  simp only [BitVec.toNat_add, apply_ite BitVec.toNat, payload, zero, BitVec.lt_def]
  split_ifs <;> omega

/-- On a non-negative offset the source's words compute the unbounded head
and tail, and the full count wrapped at `2^64`. -/
theorem reduceLogicalRangeToFullLogicalBlocksWord_toNat (payloadSize : t.payloadLength < 2 ^ 64)
    {logicalOffset : BitVec 64} (nonneg : 0 ≤ logicalOffset.toInt) (count : BitVec 64) :
    (t.reduceLogicalRangeToFullLogicalBlocksWord logicalOffset count).firstPartialBlockBytesCount.toNat =
        (t.reduceLogicalRangeToFullLogicalBlocks logicalOffset.toNat count.toNat).firstPartialBlockBytesCount ∧
      (t.reduceLogicalRangeToFullLogicalBlocksWord logicalOffset count).lastPartialBlockBytesCount.toNat =
        (t.reduceLogicalRangeToFullLogicalBlocks logicalOffset.toNat count.toNat).lastPartialBlockBytesCount ∧
      (t.reduceLogicalRangeToFullLogicalBlocksWord logicalOffset count).fullInclusiveBlocksBytesCount.toNat =
        (t.reduceLogicalRangeToFullLogicalBlocks logicalOffset.toNat count.toNat).fullInclusiveBlocksBytesCount %
          2 ^ 64 := by
  have payload : (BitVec.ofNat 64 t.payloadLength).toNat = t.payloadLength := by
    rw [BitVec.toNat_ofNat, Nat.mod_eq_of_lt payloadSize]
  have positive := t.payload_pos
  obtain ⟨small, -⟩ := toNat_of_toInt_nonneg nonneg
  have inBlock : (logicalOffset % BitVec.ofNat 64 t.payloadLength).toNat = logicalOffset.toNat % t.payloadLength := by
    rw [BitVec.toNat_umod, payload]
  have inside := Nat.mod_lt logicalOffset.toNat positive
  -- the remainder is below the offset, so the signed test reads it as it is
  have signed : (0 : BitVec 64).slt (logicalOffset % BitVec.ofNat 64 t.payloadLength) =
      decide (0 < logicalOffset.toNat % t.payloadLength) := by
    have below : logicalOffset.toNat % t.payloadLength < 2 ^ 63 := Nat.lt_of_le_of_lt (Nat.mod_le _ _) small
    have remainderInt : (logicalOffset % BitVec.ofNat 64 t.payloadLength).toInt =
        (logicalOffset.toNat % t.payloadLength : Nat) := by
      rw [BitVec.toInt_eq_toNat_of_lt (x := logicalOffset % BitVec.ofNat 64 t.payloadLength) (by omega), inBlock]
    have zero : (0 : BitVec 64).toInt = 0 := rfl
    rw [Bool.eq_iff_iff, BitVec.slt_iff_toInt_lt, remainderInt, decide_eq_true_iff, zero, Int.natCast_pos]
  unfold reduceLogicalRangeToFullLogicalBlocksWord reduceLogicalRangeToFullLogicalBlocks
  dsimp only
  rw [signed]
  generalize logicalOffset % BitVec.ofNat 64 t.payloadLength = inBlockWord at inBlock
  generalize logicalOffset.toNat % t.payloadLength = r at inBlock inside
  -- the head, the bytes to the end of the offset's block, is the same number
  have headEq : (if decide (0 < r) = true then BitVec.ofNat 64 t.payloadLength - inBlockWord else 0).toNat =
      if r > 0 then t.payloadLength - r else 0 := by
    by_cases misaligned : 0 < r
    · simp only [misaligned, decide_true, if_true]
      rw [BitVec.toNat_sub, payload, inBlock]
      omega
    · simp [misaligned]
  have headLe : (if r > 0 then t.payloadLength - r else 0) ≤ t.payloadLength := by split <;> omega
  generalize (if decide (0 < r) = true then BitVec.ofNat 64 t.payloadLength - inBlockWord else 0) = headWord
    at headEq ⊢
  generalize (if r > 0 then t.payloadLength - r else 0) = head at headEq headLe ⊢
  have countSize := count.isLt
  simp only [gt_iff_lt, ge_iff_le]
  by_cases clamped : count.toNat ≤ head
  · have clampedWord : count ≤ headWord := by rw [BitVec.le_def, headEq]; exact clamped
    simp only [clampedWord, clamped, if_true]
    have zero : (0 : BitVec 64).toNat = 0 := rfl
    refine ⟨trivial, zero, ?_⟩
    rw [toNat_blocksAdded payload, zero]
  · have past : ¬ count ≤ headWord := by rw [BitVec.le_def, headEq]; exact clamped
    simp only [past, clamped, if_false]
    -- the rest after the head, its tail and its whole blocks do not wrap
    have rest : (count - headWord).toNat = count.toNat - head := by
      rw [BitVec.toNat_sub, headEq]
      omega
    have tail : ((count - headWord) % BitVec.ofNat 64 t.payloadLength).toNat = (count.toNat - head) % t.payloadLength := by
      rw [BitVec.toNat_umod, rest, payload]
    have tailLe := Nat.mod_le (count.toNat - head) t.payloadLength
    have blocks : (count - headWord - (count - headWord) % BitVec.ofNat 64 t.payloadLength).toNat =
        count.toNat - head - (count.toNat - head) % t.payloadLength := by
      rw [BitVec.toNat_sub, rest, tail]
      omega
    refine ⟨headEq, tail, ?_⟩
    rw [toNat_blocksAdded payload, blocks, headEq, tail]

end Reduce

end Asylo.OffsetTranslator
