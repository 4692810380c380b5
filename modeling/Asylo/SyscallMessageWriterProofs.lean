import Asylo.SyscallMessageProofs

/-! What `MessageReader` makes of a message that `MessageWriter::Write` wrote.

`Write` lays the used parameters out one after another from the end of the
header, each at a multiple of 8, and records each offset and size in the
header; `MessageSize` is the same sum of rounded sizes. So when the sizes do
not overflow, the loop of `Validate` meets each used parameter exactly where
the writer put it (`validateParameter_written`), every scalar reads back as
its argument and every non-null pointer as the bytes it pointed at.

The two loops disagree on one kind of parameter. `ParameterSize` gives a null
pointer a size of zero, whatever its kind, while `IsValidParameterSize` asks a
fixed parameter for exactly its descriptor size before it looks at the size
zero of a null pointer: a message with a null fixed pointer, which `Write`
produces for `gettimeofday(tv, NULL)`, fails `Validate`. -/
namespace Asylo.SyscallMessageProofs
open SyscallMessage

/-! ## Memory -/

section Store

variable {bytes : Nat → UInt8} {offset : Nat} {data : List UInt8}

theorem store_outside {k : Nat} (outside : k < offset ∨ offset + data.length ≤ k) :
    store bytes offset data k = bytes k := by
  rw [store, if_neg (by omega)]

theorem store_at {j : Nat} (within : j < data.length) : store bytes offset data (offset + j) = data[j] := by
  rw [store, if_pos (by omega), Nat.add_sub_cancel_left, List.getD_eq_getElem?_getD,
    List.getElem?_eq_getElem within, Option.getD_some]

@[simp] theorem length_copy (memory : Nat → UInt8) (address length : Nat) :
    (copy memory address length).length = length := by
  simp [copy]

/-- Two memories that agree on `length` bytes at `address` copy the same
bytes from there. -/
theorem copy_congr {other : Nat → UInt8} {address length : Nat}
    (agree : ∀ j < length, bytes (address + j) = other (address + j)) :
    copy bytes address length = copy other address length := by
  simp only [copy, List.map_inj_left, List.mem_range]
  exact agree

theorem copy_store_self : copy (store bytes offset data) offset data.length = data := by
  apply List.ext_getElem (by simp)
  intro j _ within
  simp only [copy, List.getElem_map, List.getElem_range]
  exact store_at within

theorem copy_store_of_length {length : Nat} (stored : data.length = length) :
    copy (store bytes offset data) offset length = data :=
  stored ▸ copy_store_self

/-- A copy of bytes that a store did not reach sees the memory before it. -/
theorem copy_store_apart {address length : Nat}
    (apart : address + length ≤ offset ∨ offset + data.length ≤ address) :
    copy (store bytes offset data) address length = copy bytes address length :=
  copy_congr fun _ _ => store_outside (by omega)

/-- Equal copies agree byte by byte. -/
theorem apply_of_copy_eq {other : Nat → UInt8} {address otherAddress length : Nat}
    (same : copy bytes address length = copy other otherAddress length) {j : Nat} (below : j < length) :
    bytes (address + j) = other (otherAddress + j) := by
  have atJ := congrArg (fun copied => copied[j]?) same
  simpa [copy, below] using atJ

theorem load_eq (response : Response) (offset width : Nat) :
    load response offset width = LittleEndian.decode (copy response.bytes offset width) := rfl

end Store

/-! ## Strings -/

/-- The `n` bytes at `start` are not zero and the byte after them is: a
string of length `n` with its NUL. -/
def NulTerminated (memory : Nat → UInt8) (start n : Nat) : Prop :=
  memory (start + n) = 0 ∧ ∀ j < n, memory (start + j) ≠ 0

theorem strlenFrom_eq {memory : Nat → UInt8} {start n : Nat} (string : NulTerminated memory start n) :
    ∀ (fuel k : Nat), k ≤ n → n < k + fuel → strlenFrom memory start fuel k = n := by
  intro fuel
  induction fuel with
  | zero => intro k _ _; omega
  | succ fuel ih =>
    intro k before within
    rw [strlenFrom]
    by_cases last : k = n
    · rw [if_pos (last ▸ string.1), last]
    · rw [if_neg (string.2 k (by omega))]
      exact ih (k + 1) (by omega) (by omega)

theorem strlen_eq {memory : Nat → UInt8} {start n : Nat} (string : NulTerminated memory start n)
    (small : n < 2 ^ 64) : strlen memory start = n :=
  strlenFrom_eq string (2 ^ 64) 0 (Nat.zero_le n) (by omega)

/-- `strlen` of the `n + 1` bytes of a copied string, looking no further than
its NUL. -/
theorem strlenWithin_eq {response : Response} {start n : Nat}
    (string : NulTerminated response.bytes start n) : strlenWithin response start (n + 1) = n := by
  have before : (List.range n).find? (fun j => response.bytes (start + j) = 0) = none := by
    rw [List.find?_eq_none]
    intro j member
    simpa using string.2 j (List.mem_range.mp member)
  simp only [strlenWithin, List.range_succ, List.find?_append, before, Option.none_or,
    List.find?_cons, string.1, decide_true, Option.getD_some]

/-! ## Layout -/

/-- The least multiple of 8 at or above `value`, without the wrap of
`RoundUpToMultipleOf8`. -/
def paddedSize (value : Nat) : Nat := value + (8 - value % 8) % 8

/-- Where the writer puts parameter `index`: after the header and the padded
sizes of the parameters before it. -/
def layoutOffset (sizes : List Nat) (index : Nat) : Nat :=
  kMessageHeaderSize + ((sizes.take index).map paddedSize).sum

/-- The sizes leave the whole message below `RoundDownToMultipleOf8(SIZE_MAX)`. -/
def Fits (sizes : List Nat) : Prop := layoutOffset sizes kParameterMax ≤ roundDownToMultipleOf8 sizeMax

theorem le_paddedSize (value : Nat) : value ≤ paddedSize value := by
  simp only [paddedSize]
  omega

theorem paddedSize_of_dvd {value : Nat} (aligned : 8 ∣ value) : paddedSize value = value := by
  simp only [paddedSize]
  omega

@[simp] theorem paddedSize_zero : paddedSize 0 = 0 := rfl

@[simp] theorem layoutOffset_zero (sizes : List Nat) : layoutOffset sizes 0 = kMessageHeaderSize := rfl

theorem dvd_paddedSize (value : Nat) : 8 ∣ paddedSize value := by
  simp only [paddedSize]
  omega

/-- Padding what follows an aligned offset pads the size alone. -/
theorem paddedSize_add {offset value : Nat} (aligned : 8 ∣ offset) :
    paddedSize (offset + value) = offset + paddedSize value := by
  simp only [paddedSize]
  omega

theorem roundUpToMultipleOf8_eq {value : Nat} (small : paddedSize value < 2 ^ 64) :
    roundUpToMultipleOf8 value = paddedSize value :=
  Nat.mod_eq_of_lt small

theorem layoutOffset_succ {sizes : List Nat} {index : Nat} (within : index < sizes.length) :
    layoutOffset sizes (index + 1) = layoutOffset sizes index + paddedSize (sizes.getD index 0) := by
  simp only [layoutOffset, List.take_add_one, List.getElem?_eq_getElem within, Option.toList_some,
    List.map_append, List.map_cons, List.map_nil, List.sum_append, List.sum_cons, List.sum_nil,
    List.getD_eq_getElem?_getD, Option.getD_some]
  omega

theorem layoutOffset_mono {sizes : List Nat} {first second : Nat} (ordered : first ≤ second) :
    layoutOffset sizes first ≤ layoutOffset sizes second := by
  obtain ⟨gap, rfl⟩ := Nat.exists_eq_add_of_le ordered
  simp only [layoutOffset, List.take_add, List.map_append, List.sum_append]
  omega

theorem dvd_layoutOffset (sizes : List Nat) (index : Nat) : 8 ∣ layoutOffset sizes index := by
  -- every padded size is a multiple of 8, so their sum is
  have padded : ∀ rest : List Nat, 8 ∣ (rest.map paddedSize).sum := by
    intro rest
    induction rest with
    | nil => exact Nat.dvd_zero 8
    | cons size rest ih =>
      rw [List.map_cons, List.sum_cons]
      exact Nat.dvd_add (dvd_paddedSize size) ih
  exact Nat.dvd_add (by decide) (padded _)

/-- A parameter ends before the next one starts. -/
theorem layoutOffset_add_le {sizes : List Nat} {index : Nat} (within : index < sizes.length) :
    layoutOffset sizes index + sizes.getD index 0 ≤ layoutOffset sizes (index + 1) := by
  rw [layoutOffset_succ within]
  have := le_paddedSize (sizes.getD index 0)
  omega

/-- Rounding up where a parameter ends, in 64-bit arithmetic, gives where the
next one starts, when that is below `2^64`. -/
theorem roundUp_layout {sizes : List Nat} {index : Nat} (within : index < sizes.length)
    (bounded : layoutOffset sizes (index + 1) < 2 ^ 64) :
    roundUpToMultipleOf8 ((layoutOffset sizes index + sizes.getD index 0) % 2 ^ 64) =
      layoutOffset sizes (index + 1) := by
  have step := layoutOffset_succ within
  have padded := le_paddedSize (sizes.getD index 0)
  -- nothing wraps, and the offset is aligned, so the rounding pads the size alone
  have aligned := @paddedSize_add _ (sizes.getD index 0) (dvd_layoutOffset sizes index)
  rw [Nat.mod_eq_of_lt (by omega), roundUpToMultipleOf8_eq (by omega), aligned, step]

/-- `MessageSize` adds up the same padded sizes, when nothing wraps. -/
theorem messageSize_eq {sizes : List Nat} (small : layoutOffset sizes sizes.length < 2 ^ 64) :
    MessageWriter.messageSize sizes = layoutOffset sizes sizes.length := by
  -- the fold's accumulator is the header plus the padded sizes so far
  have folded : ∀ (rest : List Nat) (result : Nat), result + (rest.map paddedSize).sum < 2 ^ 64 →
      rest.foldl (fun result size => (result + roundUpToMultipleOf8 size) % 2 ^ 64) result =
        result + (rest.map paddedSize).sum := by
    intro rest
    induction rest with
    | nil => intro result _; simp
    | cons size rest ih =>
      intro result small
      simp only [List.map_cons, List.sum_cons] at small
      rw [List.foldl_cons, roundUpToMultipleOf8_eq (by omega), Nat.mod_eq_of_lt (by omega),
        ih _ (by omega), List.map_cons, List.sum_cons]
      omega
  rw [layoutOffset, List.take_length] at small ⊢
  exact folded sizes kMessageHeaderSize small

/-! ## The writer's sizes and header -/

/-- A `mapM` into `Option` that succeeds gives each element's value in its
place. -/
theorem mapM_some {α β : Type} {f : α → Option β} (d : β) :
    ∀ {l : List α} {values : List β}, l.mapM f = some values →
      values.length = l.length ∧ ∀ i (h : i < l.length), f l[i] = some (values.getD i d)
  | [], values, done => by
    simp only [List.mapM_nil, pure, Option.some.injEq] at done
    subst done
    exact ⟨rfl, fun i h => absurd h (Nat.not_lt_zero i)⟩
  | a :: l, values, done => by
    simp only [List.mapM_cons, bind, Option.bind_eq_some_iff, pure, Option.some.injEq] at done
    obtain ⟨b, first, bs, rest, rfl⟩ := done
    obtain ⟨length, each⟩ := mapM_some d rest
    refine ⟨by simp [length], fun i h => ?_⟩
    cases i with
    | zero => exact first
    | succ i => exact each i (by simpa using h)

section Writer

variable {table : SystemCallTable} {writer : MessageWriter} {memory : Nat → UInt8} {sizes : List Nat}

theorem length_of_parameterSizes (sized : writer.parameterSizes table memory = some sizes) :
    sizes.length = kParameterMax := by
  simpa using (mapM_some 0 sized).1

theorem parameterSize_of_parameterSizes (sized : writer.parameterSizes table memory = some sizes)
    {index : Nat} (within : index < kParameterMax) :
    writer.parameterSize table memory index = some (sizes.getD index 0) := by
  have each := (mapM_some 0 sized).2 index (by simpa using within)
  rwa [List.getElem_range] at each

/-- An unused parameter has no size. -/
theorem size_of_unused (sized : writer.parameterSizes table memory = some sizes) {index : Nat}
    (within : index < kParameterMax) (unused : writer.parameterIsUsed table index = false) :
    sizes.getD index 0 = 0 := by
  have each := parameterSize_of_parameterSizes sized within
  simp only [MessageWriter.parameterSize, unused, Bool.not_false, ↓reduceIte, Option.some.injEq] at each
  exact each.symm

/-- The fields `Write` puts in the header before the parameters. -/
theorem writeHeader_fields (writer : MessageWriter) (fresh : Nat → UInt8) :
    copy (writer.writeHeader fresh) 0 8 = LittleEndian.encode 8 kMessageMagic ∧
      copy (writer.writeHeader fresh) 8 4 =
        LittleEndian.encode 4 (if writer.isRequest then kSystemCallRequest else kSystemCallResponse) ∧
      copy (writer.writeHeader fresh) 12 4 = LittleEndian.encode 4 writer.sysno.toUInt32.toNat ∧
      (writer.isRequest = false →
        copy (writer.writeHeader fresh) 16 8 = LittleEndian.encode 8 writer.result.toNat ∧
        copy (writer.writeHeader fresh) 24 8 = LittleEndian.encode 8 writer.errorNumber.toNat) := by
  have self : ∀ (bytes : Nat → UInt8) (offset width value : Nat),
      copy (store bytes offset (LittleEndian.encode width value)) offset width = LittleEndian.encode width value :=
    fun _ _ width value => copy_store_of_length (LittleEndian.length_encode width value)
  cases request : writer.isRequest with
  | true =>
    simp (disch := simp) only [MessageWriter.writeHeader, request, ↓reduceIte, copy_store_apart, self]
    simp
  | false =>
    simp (disch := simp) only [MessageWriter.writeHeader, request, Bool.false_eq_true, ↓reduceIte,
      copy_store_apart, self]
    simp

/-- The 32-bit field holds the `int` it was given. -/
theorem sysno_toUInt32 (number : Int32) :
    (if number.toUInt32.toNat < 2 ^ 31 then (number.toUInt32.toNat : Int)
      else (number.toUInt32.toNat : Int) - 2 ^ 32) = number.toInt := by
  change _ = number.toBitVec.toInt
  rw [BitVec.toInt_eq_toNat_cond]
  change (if number.toBitVec.toNat < 2 ^ 31 then _ else _) = _
  by_cases low : number.toBitVec.toNat < 2 ^ 31
  · rw [if_pos low, if_pos (by omega)]
    rfl
  · rw [if_neg low, if_neg (by omega)]
    rfl

/-- What the reader finds in a header that `Write` wrote: the magic, one
direction, the sysno, and a response's result and errno. -/
theorem header_of_written {response : Response} {fresh : Nat → UInt8}
    (header : ∀ a < 32, response.bytes a = writer.writeHeader fresh a) :
    headerMagic response = kMessageMagic ∧ isRequest response = writer.isRequest ∧
      isResponse response = !writer.isRequest ∧ sysno response = writer.sysno.toInt ∧
      (writer.isRequest = false →
        headerResult response = writer.result.toNat ∧ headerErrorNumber response = writer.errorNumber.toNat) := by
  have field : ∀ offset width, offset + width ≤ 32 →
      load response offset width = LittleEndian.decode (copy (writer.writeHeader fresh) offset width) :=
    fun offset width inside => by
      rw [load_eq, copy_congr fun j below => header (offset + j) (by omega)]
  obtain ⟨magic, flags, number, answer⟩ := writeHeader_fields writer fresh
  have sysnoField : headerSysno response = writer.sysno.toUInt32.toNat := by
    rw [headerSysno, field 12 4 (by decide), number,
      LittleEndian.decode_encode_of_lt (by simpa using writer.sysno.toUInt32.toNat_lt)]
  have flagsField : headerFlags response = if writer.isRequest then kSystemCallRequest else kSystemCallResponse := by
    rw [headerFlags, field 8 4 (by decide), flags, LittleEndian.decode_encode_of_lt (by split <;> decide)]
  refine ⟨?_, ?_, ?_, ?_, fun responds => ?_⟩
  · rw [headerMagic, field 0 8 (by decide), magic, LittleEndian.decode_encode_of_lt (by decide)]
  · cases request : writer.isRequest <;> simp [isRequest, flagsField, request, kSystemCallRequest,
      kSystemCallResponse]
  · cases request : writer.isRequest <;> simp only [isResponse, flagsField, request, kSystemCallRequest,
      kSystemCallResponse, Bool.false_eq_true, ↓reduceIte, Bool.not_true, Bool.not_false] <;> decide
  · rw [SyscallMessage.sysno, sysnoField, sysno_toUInt32]
  · obtain ⟨result, errorNumber⟩ := answer responds
    rw [headerResult, headerErrorNumber, field 16 8 (by decide), field 24 8 (by decide), result, errorNumber,
      LittleEndian.decode_encode_of_lt (by simpa using writer.result.toNat_lt),
      LittleEndian.decode_encode_of_lt (by simpa using writer.errorNumber.toNat_lt)]
    exact ⟨rfl, rfl⟩

/-- The reader and the writer agree on which parameters a message carries. -/
theorem parameterIsUsed_written {response : Response} (index : Nat)
    (request : isRequest response = writer.isRequest) (responds : isResponse response = !writer.isRequest)
    (number : sysno response = writer.sysno.toInt) :
    parameterIsUsed table response index = writer.parameterIsUsed table index := by
  simp only [parameterIsUsed, MessageWriter.parameterIsUsed, request, responds, number]

end Writer

/-! ## The loop of `Write` -/

/-- The header words of parameter `index`: its offset and its size. -/
def InSlots (index k : Nat) : Prop :=
  (32 + 8 * index ≤ k ∧ k < 40 + 8 * index) ∨ (80 + 8 * index ≤ k ∧ k < 88 + 8 * index)

/-- What parameter `index` of `writer` leaves in `bytes` when it is laid out at
`offset` with `size` bytes: its offset and size in the header, and at its
offset what a non-null pointer points at, or a scalar's 64 bits. -/
structure Placed (table : SystemCallTable) (writer : MessageWriter) (memory bytes : Nat → UInt8)
    (offset size index : Nat) : Prop where
  offsetWord : copy bytes (32 + 8 * index) 8 = LittleEndian.encode 8 offset
  sizeWord : copy bytes (80 + 8 * index) 8 = LittleEndian.encode 8 size
  pointee : testFlag table writer.sysno.toInt index kPointer = true → writer.parameter index ≠ 0 →
    copy bytes offset size = copy memory (writer.parameter index).toNat size
  value : testFlag table writer.sysno.toInt index kPointer = false →
    testFlag table writer.sysno.toInt index kScalar = true →
    copy bytes offset 8 = LittleEndian.encode 8 (writer.parameter index).toNat

/-- What the first `count` rounds of the loop of `Write` leave: the header as
it was, and each used parameter before `count` placed at its offset. -/
structure Laid (table : SystemCallTable) (writer : MessageWriter) (memory : Nat → UInt8) (sizes : List Nat)
    (fresh bytes : Nat → UInt8) (count : Nat) : Prop where
  header : ∀ a < 32, bytes a = writer.writeHeader fresh a
  placed : ∀ j < count, writer.parameterIsUsed table j = true →
    Placed table writer memory bytes (layoutOffset sizes j) (sizes.getD j 0) j

section Loop

variable {table : SystemCallTable} {writer : MessageWriter} {memory : Nat → UInt8} {sizes : List Nat}

/-- A round of the loop touches only its parameter's header words and the
bytes from its offset on. -/
theorem writeParameter_frame (bytes : Nat → UInt8) (next index : Nat) {k : Nat}
    (outside : ¬ InSlots index k) (before : k < next) :
    (writer.writeParameter table memory sizes (bytes, next) index).1 k = bytes k := by
  simp only [InSlots, not_or, not_and, Nat.not_lt] at outside
  by_cases used : writer.parameterIsUsed table index = true
  · simp only [MessageWriter.writeParameter, used, Bool.not_true, Bool.false_eq_true, ↓reduceIte]
    rw [store_outside (by simp only [LittleEndian.length_encode]; omega),
      store_outside (by simp only [LittleEndian.length_encode]; omega)]
    split_ifs
    · exact store_outside (.inl before)
    · rfl
    · exact store_outside (.inl before)
  · simp only [MessageWriter.writeParameter, used, Bool.not_false, ↓reduceIte]

/-- A used parameter's round writes its words and, past the header, its
bytes. -/
theorem writeParameter_placed (bytes : Nat → UInt8) {next index : Nat} (within : index < kParameterMax)
    (pastHeader : kMessageHeaderSize ≤ next) (used : writer.parameterIsUsed table index = true) :
    Placed table writer memory (writer.writeParameter table memory sizes (bytes, next) index).1 next
      (sizes.getD index 0) index := by
  simp only [kParameterMax, kMessageHeaderSize] at within pastHeader
  simp only [MessageWriter.writeParameter, used, Bool.not_true, Bool.false_eq_true, ↓reduceIte]
  -- the header words are stored last, the size word after the offset word
  refine ⟨?_, copy_store_of_length (by simp), fun pointer nonNull => ?_, fun notPointer _ => ?_⟩
  · rw [copy_store_apart (by simp only [LittleEndian.length_encode]; omega), copy_store_of_length (by simp)]
  · rw [copy_store_apart (by simp only [LittleEndian.length_encode]; omega),
      copy_store_apart (by simp only [LittleEndian.length_encode]; omega), if_pos pointer, if_pos nonNull,
      copy_store_of_length (length_copy _ _ _)]
  · rw [copy_store_apart (by simp only [LittleEndian.length_encode]; omega),
      copy_store_apart (by simp only [LittleEndian.length_encode]; omega), if_neg (by simp [notPointer]),
      copy_store_of_length (LittleEndian.length_encode _ _)]

/-- A scalar is written as 64 bits. -/
theorem size_of_scalar (sized : writer.parameterSizes table memory = some sizes) {index : Nat}
    (within : index < kParameterMax) (used : writer.parameterIsUsed table index = true)
    (scalar : testFlag table writer.sysno.toInt index kScalar = true) : sizes.getD index 0 = 8 := by
  have each := parameterSize_of_parameterSizes sized within
  simp only [MessageWriter.parameterSize, used, scalar, Bool.not_true, Bool.false_eq_true, ↓reduceIte,
    Option.some.injEq] at each
  exact each.symm

/-- A round that starts at its parameter's offset ends at the next one's. -/
theorem writeParameter_next (sized : writer.parameterSizes table memory = some sizes) (fits : Fits sizes)
    (bytes : Nat → UInt8) {index : Nat} (within : index < kParameterMax) :
    (writer.writeParameter table memory sizes (bytes, layoutOffset sizes index) index).2 =
      layoutOffset sizes (index + 1) := by
  have length := length_of_parameterSizes sized
  have bounded : layoutOffset sizes (index + 1) ≤ layoutOffset sizes kParameterMax := layoutOffset_mono (by omega)
  simp only [Fits, roundDownToMultipleOf8, sizeMax] at fits
  by_cases used : writer.parameterIsUsed table index = true
  · simp only [MessageWriter.writeParameter, used, Bool.not_true, Bool.false_eq_true, ↓reduceIte]
    exact roundUp_layout (by omega) (by omega)
  · simp only [MessageWriter.writeParameter, used, Bool.not_false, ↓reduceIte]
    rw [layoutOffset_succ (by omega), size_of_unused sized within (by simpa using used), paddedSize_zero,
      Nat.add_zero]

end Loop

/-- What a later round cannot disturb: a parameter placed below `bound` stays
placed while the bytes below `bound` outside another parameter's words do not
change. -/
theorem Placed.frame {table : SystemCallTable} {writer : MessageWriter} {memory bytes after : Nat → UInt8}
    {offset size index other bound : Nat} (placed : Placed table writer memory bytes offset size index)
    (apart : other ≠ index) (within : index < kParameterMax) (otherWithin : other < kParameterMax)
    (pastHeader : kMessageHeaderSize ≤ offset) (ends : offset + size ≤ bound)
    (scalarSize : testFlag table writer.sysno.toInt index kScalar = true → size = 8)
    (agree : ∀ a < bound, ¬ InSlots other a → after a = bytes a) :
    Placed table writer memory after offset size index := by
  simp only [kParameterMax, kMessageHeaderSize] at within otherWithin pastHeader
  -- every byte the fields read lies below the bound and outside the other words
  have same : ∀ start length, start + length ≤ bound →
      (∀ j < length, ¬ InSlots other (start + j)) → copy after start length = copy bytes start length :=
    fun start length below outside => copy_congr fun j inside => agree (start + j) (by omega) (outside j inside)
  refine ⟨?_, ?_, fun pointer nonNull => ?_, fun notPointer scalar => ?_⟩
  · rw [same _ 8 (by omega) (fun j _ => by simp only [InSlots]; omega)]
    exact placed.offsetWord
  · rw [same _ 8 (by omega) (fun j _ => by simp only [InSlots]; omega)]
    exact placed.sizeWord
  · rw [same _ size ends (fun j _ => by simp only [InSlots]; omega)]
    exact placed.pointee pointer nonNull
  · have eight := scalarSize scalar
    rw [same _ 8 (by omega) (fun j _ => by simp only [InSlots]; omega)]
    exact placed.value notPointer scalar

section Run

variable {table : SystemCallTable} {writer : MessageWriter} {memory : Nat → UInt8} {sizes : List Nat}
  {fresh : Nat → UInt8}

/-- One round keeps what the rounds before it laid out, and lays out its own
parameter. -/
theorem Laid.step (sized : writer.parameterSizes table memory = some sizes)
    {bytes : Nat → UInt8} {count : Nat} (laid : Laid table writer memory sizes fresh bytes count)
    (within : count < kParameterMax) :
    Laid table writer memory sizes fresh
      (writer.writeParameter table memory sizes (bytes, layoutOffset sizes count) count).1 (count + 1) := by
  have length := length_of_parameterSizes sized
  have pastHeader : kMessageHeaderSize ≤ layoutOffset sizes count := Nat.le_add_right _ _
  refine ⟨fun a below => ?_, fun j before used => ?_⟩
  · rw [writeParameter_frame _ _ _ (by simp only [InSlots]; omega) (by simp only [kMessageHeaderSize] at pastHeader; omega)]
    exact laid.header a below
  · rcases Nat.lt_succ_iff_lt_or_eq.mp before with earlier | rfl
    · -- an earlier parameter ends before this round's offset
      have ends : layoutOffset sizes j + sizes.getD j 0 ≤ layoutOffset sizes (j + 1) := layoutOffset_add_le (by omega)
      have ordered : layoutOffset sizes (j + 1) ≤ layoutOffset sizes count := layoutOffset_mono (by omega)
      exact (laid.placed j earlier used).frame (Nat.ne_of_gt earlier) (by omega) within
        (Nat.le_add_right _ _) (by omega) (size_of_scalar sized (by omega) used)
        fun a below outside => writeParameter_frame _ _ _ outside below
    · exact writeParameter_placed _ within pastHeader used

/-- The run lemma of the loop of `Write`: after `count` rounds the next offset
is the layout's and every used parameter before it is placed. -/
theorem laid_of_rounds (sized : writer.parameterSizes table memory = some sizes) (fits : Fits sizes) :
    ∀ count ≤ kParameterMax,
      let state := (List.range count).foldl (writer.writeParameter table memory sizes)
        (writer.writeHeader fresh, kMessageHeaderSize)
      state.2 = layoutOffset sizes count ∧ Laid table writer memory sizes fresh state.1 count := by
  intro count
  induction count with
  | zero =>
    intro _
    exact ⟨by simp [layoutOffset], fun _ _ => rfl, fun j before => absurd before (Nat.not_lt_zero j)⟩
  | succ count ih =>
    intro within
    obtain ⟨next, laid⟩ := ih (by omega)
    simp only [List.range_succ, List.foldl_append, List.foldl_cons, List.foldl_nil]
    -- the rounds so far ended at this parameter's offset
    generalize (List.range count).foldl (writer.writeParameter table memory sizes)
      (writer.writeHeader fresh, kMessageHeaderSize) = state at next laid ⊢
    obtain ⟨bytes, offset⟩ := state
    dsimp only at next laid
    subst next
    exact ⟨writeParameter_next sized fits bytes within, laid.step sized within⟩

end Run

/-! ## Reading the message back -/

/-- The message `Write` leaves in a fresh buffer of `MessageSize()` bytes that
held `fresh`. -/
def written (table : SystemCallTable) (writer : MessageWriter) (memory : Nat → UInt8) (sizes : List Nat)
    (fresh : Nat → UInt8) : Response :=
  ⟨writer.write table memory sizes fresh, MessageWriter.messageSize sizes⟩

section Read

variable {table : SystemCallTable} {writer : MessageWriter} {memory fresh : Nat → UInt8} {sizes : List Nat}

theorem serialize_eq (valid : descriptorIsValid table writer.sysno.toInt = true)
    (sized : writer.parameterSizes table memory = some sizes) :
    serialize table memory fresh writer = .ok (written table writer memory sizes fresh) := by
  simp only [serialize, valid, Bool.not_true, Bool.false_eq_true, ↓reduceIte, sized, written]

theorem laid_written (fresh : Nat → UInt8)
    (sized : writer.parameterSizes table memory = some sizes) (fits : Fits sizes) :
    Laid table writer memory sizes fresh (written table writer memory sizes fresh).bytes kParameterMax :=
  (laid_of_rounds sized fits kParameterMax (Nat.le_refl _)).2

theorem size_written (fresh : Nat → UInt8)
    (sized : writer.parameterSizes table memory = some sizes) (fits : Fits sizes) :
    (written table writer memory sizes fresh).size = layoutOffset sizes kParameterMax := by
  have length := length_of_parameterSizes sized
  simp only [Fits, roundDownToMultipleOf8, sizeMax] at fits
  rw [written, messageSize_eq (by rw [length]; omega), length]

/-- Where the reader finds a used parameter: at its offset in the layout, with
the size the writer gave it. -/
theorem words_written (fresh : Nat → UInt8)
    (sized : writer.parameterSizes table memory = some sizes) (fits : Fits sizes)
    {index : Nat} (within : index < kParameterMax) (used : writer.parameterIsUsed table index = true) :
    headerOffset (written table writer memory sizes fresh) index = layoutOffset sizes index ∧
      headerSize (written table writer memory sizes fresh) index = sizes.getD index 0 := by
  have placed := (laid_written fresh sized fits).placed index within used
  have length := length_of_parameterSizes sized
  have ends : layoutOffset sizes index + sizes.getD index 0 ≤ layoutOffset sizes (index + 1)
      := layoutOffset_add_le (by omega)
  have bounded : layoutOffset sizes (index + 1) ≤ layoutOffset sizes kParameterMax := layoutOffset_mono (by omega)
  simp only [Fits, roundDownToMultipleOf8, sizeMax] at fits
  rw [headerOffset, headerSize, load_eq, load_eq, placed.offsetWord, placed.sizeWord,
    LittleEndian.decode_encode_of_lt (by omega), LittleEndian.decode_encode_of_lt (by omega)]
  exact ⟨rfl, rfl⟩

/-- The header the reader sees: the writer's magic, direction and sysno, and
a response's result and errno. -/
theorem header_written (fresh : Nat → UInt8)
    (sized : writer.parameterSizes table memory = some sizes) (fits : Fits sizes) :
    headerMagic (written table writer memory sizes fresh) = kMessageMagic ∧
      isRequest (written table writer memory sizes fresh) = writer.isRequest ∧
      isResponse (written table writer memory sizes fresh) = !writer.isRequest ∧
      sysno (written table writer memory sizes fresh) = writer.sysno.toInt ∧
      (writer.isRequest = false →
        headerResult (written table writer memory sizes fresh) = writer.result.toNat ∧
        headerErrorNumber (written table writer memory sizes fresh) = writer.errorNumber.toNat) :=
  header_of_written (laid_written fresh sized fits).header

theorem parameterIsUsed_of_written (sized : writer.parameterSizes table memory = some sizes) (fits : Fits sizes)
    (index : Nat) :
    parameterIsUsed table (written table writer memory sizes fresh) index = writer.parameterIsUsed table index :=
  have header := header_written fresh sized fits
  parameterIsUsed_written index header.2.1 header.2.2.1 header.2.2.2.1

/-- A round of `Validate` at a used parameter of a written message: the
offset and the bounds check pass, and only the size check decides. -/
theorem validateParameter_written (sized : writer.parameterSizes table memory = some sizes) (fits : Fits sizes)
    {index : Nat} (within : index < kParameterMax) (used : writer.parameterIsUsed table index = true) :
    validateParameter table (written table writer memory sizes fresh) (layoutOffset sizes index) index =
      match isValidParameterSize table (written table writer memory sizes fresh) index with
      | none => .error .abort
      | some false => .error (.invalidArgument ("Message malformed: parameter under index " ++
          toString index ++ " size mismatched"))
      | some true => .ok (layoutOffset sizes (index + 1)) := by
  obtain ⟨offsetWord, sizeWord⟩ := words_written fresh sized fits within used
  have length := length_of_parameterSizes sized
  have ends : layoutOffset sizes index + sizes.getD index 0 ≤ layoutOffset sizes (index + 1)
      := layoutOffset_add_le (by omega)
  have bounded : layoutOffset sizes (index + 1) ≤ layoutOffset sizes kParameterMax := layoutOffset_mono (by omega)
  have size := size_written fresh sized fits
  simp only [Fits, roundDownToMultipleOf8, sizeMax] at fits
  have noOverflow : sumOverflowOnRoundUpToMultipleOf8 (sizes.getD index 0) (layoutOffset sizes index) = false := by
    simp only [sumOverflowOnRoundUpToMultipleOf8, roundDownToMultipleOf8, sizeMax, Bool.or_eq_false_iff]
    exact ⟨decide_eq_false (by omega), decide_eq_false (by omega)⟩
  rw [validateParameter, parameterIsUsed_of_written sized fits, used, offsetWord, sizeWord, noOverflow,
    roundUp_layout (by omega) (by omega), size]
  -- both sides go on to match on the size check, which is left abstract
  generalize isValidParameterSize table (written table writer memory sizes fresh) index = valid
  simp only [Bool.not_true, Bool.false_eq_true, ↓reduceIte, bne_self_eq_false, gt_iff_lt,
    show ¬ layoutOffset sizes kParameterMax < layoutOffset sizes (index + 1) by omega]
  -- the two matches are the statement's matcher and the one of
  -- validateParameter; where they are one matcher simp has closed the goal
  all_goals rfl

end Read

/-- What the round trip asks of a used argument: a null fixed pointer only for
an object of size zero, and a string a pointer to a NUL-terminated string
shorter than `SIZE_MAX`. -/
structure Good (table : SystemCallTable) (writer : MessageWriter) (memory : Nat → UInt8) (index : Nat) :
    Prop where
  fixedNotNull : testFlag table writer.sysno.toInt index kScalar = false →
    testFlag table writer.sysno.toInt index kFixed = true → writer.parameter index = 0 →
    SyscallMessage.parameterSize table writer.sysno.toInt index = 0
  string : testFlag table writer.sysno.toInt index kScalar = false →
    testFlag table writer.sysno.toInt index kFixed = false →
    testFlag table writer.sysno.toInt index kString = true → writer.parameter index ≠ 0 →
    testFlag table writer.sysno.toInt index kPointer = true ∧
      ∃ n < sizeMax, NulTerminated memory (writer.parameter index).toNat n

section Sizes

variable {table : SystemCallTable} {writer : MessageWriter} {memory fresh : Nat → UInt8} {sizes : List Nat}

/-- The size check of `Validate` passes on every used argument the round trip
asks for. The two loops test the kinds in the same order, scalar, fixed,
string, bounded; they differ only in where the size zero of a null pointer
comes. -/
theorem isValidParameterSize_good (sized : writer.parameterSizes table memory = some sizes) (fits : Fits sizes)
    {index : Nat} (within : index < kParameterMax) (used : writer.parameterIsUsed table index = true)
    (good : Good table writer memory index) :
    isValidParameterSize table (written table writer memory sizes fresh) index = some true := by
  obtain ⟨offsetWord, sizeWord⟩ := words_written fresh sized fits within used
  have number := (header_written fresh sized fits).2.2.2.1
  have each := parameterSize_of_parameterSizes sized within
  simp only [isValidParameterSize, parameterIsUsed_of_written sized fits, used, number, sizeWord, offsetWord,
    Bool.not_true, Bool.false_eq_true, ↓reduceIte]
  simp only [MessageWriter.parameterSize, used, Bool.not_true, Bool.false_eq_true, ↓reduceIte] at each
  by_cases scalar : testFlag table writer.sysno.toInt index kScalar = true
  · -- a scalar is 64 bits on both sides
    simp only [scalar, ↓reduceIte, Option.some.injEq] at each ⊢
    rw [← each]
    rfl
  simp only [scalar, Bool.false_eq_true, ↓reduceIte] at each ⊢
  by_cases null : writer.parameter index = 0
  · -- a null pointer has size zero, which only an empty fixed object matches
    simp only [null, ↓reduceIte, Option.some.injEq] at each
    rw [← each]
    by_cases fixed : testFlag table writer.sysno.toInt index kFixed = true
    · simp [fixed, good.fixedNotNull (by simpa using scalar) fixed null]
    · simp [fixed]
  simp only [null, ↓reduceIte] at each
  by_cases fixed : testFlag table writer.sysno.toInt index kFixed = true
  · simp only [fixed, ↓reduceIte, Option.some.injEq] at each ⊢
    rw [← each, beq_self_eq_true]
  simp only [fixed, Bool.false_eq_true, ↓reduceIte] at each ⊢
  by_cases string : testFlag table writer.sysno.toInt index kString = true
  · -- a string's size counts its NUL, the last byte the writer copied
    obtain ⟨pointer, n, short, terminated⟩ :=
      good.string (by simpa using scalar) (by simpa using fixed) string null
    simp only [string, ↓reduceIte, Option.some.injEq] at each
    have length : strlen memory (writer.parameter index).toNat = n :=
      strlen_eq terminated (by simp only [sizeMax] at short; omega)
    rw [length, Nat.mod_eq_of_lt (by simp only [sizeMax] at short; omega)] at each
    have copied := ((laid_written fresh sized fits).placed index within used).pointee pointer null
    rw [← each] at copied
    have inMessage : NulTerminated (written table writer memory sizes fresh).bytes (layoutOffset sizes index) n :=
      ⟨(apply_of_copy_eq copied (Nat.lt_succ_self n)).trans terminated.1,
        fun j below => (apply_of_copy_eq copied (by omega)).trans_ne (terminated.2 j below)⟩
    rw [← each, show layoutOffset sizes index + (n + 1) - 1 = layoutOffset sizes index + n by omega,
      strlenWithin_eq inMessage]
    simp [string, inMessage.1]
  simp only [string, Bool.false_eq_true, ↓reduceIte] at each ⊢
  by_cases bounded : testFlag table writer.sysno.toInt index kBounded = true
  · simp [bounded]
  · simp only [bounded, Bool.false_eq_true, ↓reduceIte, reduceCtorEq] at each

/-- A null fixed pointer to a non-empty object fails the size check. -/
theorem isValidParameterSize_null_fixed (sized : writer.parameterSizes table memory = some sizes)
    (fits : Fits sizes) {index : Nat} (within : index < kParameterMax)
    (used : writer.parameterIsUsed table index = true)
    (notScalar : testFlag table writer.sysno.toInt index kScalar = false)
    (fixed : testFlag table writer.sysno.toInt index kFixed = true) (null : writer.parameter index = 0)
    (object : SyscallMessage.parameterSize table writer.sysno.toInt index ≠ 0) :
    isValidParameterSize table (written table writer memory sizes fresh) index = some false := by
  obtain ⟨_, sizeWord⟩ := words_written fresh sized fits within used
  have number := (header_written fresh sized fits).2.2.2.1
  have each := parameterSize_of_parameterSizes sized within
  simp only [MessageWriter.parameterSize, used, notScalar, null, Bool.not_true, Bool.false_eq_true, ↓reduceIte,
    Option.some.injEq] at each
  simp only [isValidParameterSize, parameterIsUsed_of_written sized fits, used, number, sizeWord, notScalar,
    fixed, ← each, Bool.not_true, Bool.false_eq_true, ↓reduceIte, Option.some.injEq]
  simpa using object.symm

/-- A round of `Validate` at an unused parameter moves on, as the writer did. -/
theorem validateParameter_unused (sized : writer.parameterSizes table memory = some sizes) (fits : Fits sizes)
    {index : Nat} (within : index < kParameterMax) (unused : writer.parameterIsUsed table index = false) :
    validateParameter table (written table writer memory sizes fresh) (layoutOffset sizes index) index =
      .ok (layoutOffset sizes (index + 1)) := by
  have length := length_of_parameterSizes sized
  rw [validateParameter, parameterIsUsed_of_written sized fits, unused, layoutOffset_succ (by omega),
    size_of_unused sized within unused, paddedSize_zero, Nat.add_zero]
  rfl

theorem validateMessageHeader_written (valid : descriptorIsValid table writer.sysno.toInt = true)
    (sized : writer.parameterSizes table memory = some sizes) (fits : Fits sizes) :
    validateMessageHeader table (written table writer memory sizes fresh) = .ok () := by
  obtain ⟨magic, request, responds, number, -⟩ := header_written fresh sized fits
  have complete : ¬ layoutOffset sizes kParameterMax < kMessageHeaderSize := by
    simp only [layoutOffset, kMessageHeaderSize]
    omega
  have oneWay : (writer.isRequest == !writer.isRequest) = false := by cases writer.isRequest <;> rfl
  rw [validateMessageHeader, size_written fresh sized fits, if_neg complete, magic, request, responds, oneWay,
    number, valid]
  rfl

/-- The rounds of `Validate` before a parameter go from offset to offset as the
writer laid them out, when the arguments before it are as the round trip asks. -/
theorem validateParameter_rounds (fresh : Nat → UInt8)
    (sized : writer.parameterSizes table memory = some sizes) (fits : Fits sizes)
    {count : Nat} (within : count ≤ kParameterMax)
    (good : ∀ j < count, writer.parameterIsUsed table j = true → Good table writer memory j) :
    ∀ j < count, validateParameter table (written table writer memory sizes fresh) (layoutOffset sizes j) j =
      .ok (layoutOffset sizes (j + 1)) := by
  intro j before
  cases used : writer.parameterIsUsed table j with
  | false => exact validateParameter_unused sized fits (by omega) used
  | true =>
    rw [validateParameter_written sized fits (by omega) used,
      isValidParameterSize_good sized fits (by omega) used (good j before used)]

/-- The round trip of the writer's checks: a message written from arguments
the round trip asks for passes `Validate`. -/
theorem validate_written (valid : descriptorIsValid table writer.sysno.toInt = true)
    (sized : writer.parameterSizes table memory = some sizes) (fits : Fits sizes)
    (good : ∀ j < kParameterMax, writer.parameterIsUsed table j = true → Good table writer memory j) :
    validate table (written table writer memory sizes fresh) = .ok () := by
  have rounds := Except.foldlM_range_ok (layoutOffset sizes) kParameterMax
    (validateParameter_rounds fresh sized fits (Nat.le_refl _) good)
  rw [layoutOffset_zero] at rounds
  simp only [validate, validateMessageHeader_written valid sized fits, rounds]
  rfl

/-- What the reader gets back of a used argument: a non-pointer scalar as its
value, a null pointer as a null address, and a non-null pointer as the bytes
it pointed at, as many as the writer sized it, at the address the reader
gives. -/
structure ReadsBack (table : SystemCallTable) (writer : MessageWriter) (memory : Nat → UInt8)
    (message : Response) (size index : Nat) : Prop where
  scalar : testFlag table writer.sysno.toInt index kPointer = false →
    testFlag table writer.sysno.toInt index kScalar = true →
    parameter message index = (writer.parameter index).toNat
  null : testFlag table writer.sysno.toInt index kPointer = true →
    testFlag table writer.sysno.toInt index kScalar = false → writer.parameter index = 0 →
    parameterAddress message index = none
  pointee : testFlag table writer.sysno.toInt index kPointer = true → writer.parameter index ≠ 0 →
    headerSize message index = size ∧ ∀ offset, parameterAddress message index = some offset →
      copy message.bytes offset size = copy memory (writer.parameter index).toNat size

theorem readsBack_written (sized : writer.parameterSizes table memory = some sizes) (fits : Fits sizes)
    {index : Nat} (within : index < kParameterMax) (used : writer.parameterIsUsed table index = true) :
    ReadsBack table writer memory (written table writer memory sizes fresh) (sizes.getD index 0) index := by
  obtain ⟨offsetWord, sizeWord⟩ := words_written fresh sized fits within used
  have placed := (laid_written fresh sized fits).placed index within used
  refine ⟨fun notPointer scalar => ?_, fun _ notScalar null => ?_, fun pointer nonNull => ⟨sizeWord, ?_⟩⟩
  · rw [parameter, offsetWord, load_eq, placed.value notPointer scalar,
      LittleEndian.decode_encode_of_lt (by simpa using (writer.parameter index).toNat_lt)]
  · -- a null pointer that is not a scalar has no size
    have each := parameterSize_of_parameterSizes sized within
    simp only [MessageWriter.parameterSize, used, notScalar, null, Bool.not_true, Bool.false_eq_true,
      ↓reduceIte, Option.some.injEq] at each
    rw [parameterAddress, sizeWord, ← each]
    rfl
  · intro offset address
    rw [parameterAddress, sizeWord, offsetWord] at address
    split at address
    · cases address
      exact placed.pointee pointer nonNull
    · cases address

/-- A `void *` that the table marks a scalar, as `recvfrom`'s `ubuf`, is
written as the eight bytes it points at, so the reader's
`parameter<uint64_t>` gives those bytes and not the pointer. -/
theorem parameter_of_void_pointer (sized : writer.parameterSizes table memory = some sizes) (fits : Fits sizes)
    {index : Nat} (within : index < kParameterMax) (used : writer.parameterIsUsed table index = true)
    (pointer : testFlag table writer.sysno.toInt index kPointer = true)
    (scalar : testFlag table writer.sysno.toInt index kScalar = true) (nonNull : writer.parameter index ≠ 0) :
    parameter (written table writer memory sizes fresh) index =
      LittleEndian.decode (copy memory (writer.parameter index).toNat 8) := by
  obtain ⟨offsetWord, _⟩ := words_written fresh sized fits within used
  have copied := ((laid_written fresh sized fits).placed index within used).pointee pointer nonNull
  rw [size_of_scalar sized within used scalar] at copied
  rw [parameter, offsetWord, load_eq, copied]

/-- The round trip of `SerializeRequest` and `SerializeResponse` for the
arguments it asks for: the message passes `Validate`, keeps the direction,
the sysno and a response's result and errno, carries the parameters the
writer used, and reads each of them back. -/
theorem serialize_round_trip (valid : descriptorIsValid table writer.sysno.toInt = true)
    (sized : writer.parameterSizes table memory = some sizes) (fits : Fits sizes)
    (good : ∀ j < kParameterMax, writer.parameterIsUsed table j = true → Good table writer memory j) :
    ∃ message, serialize table memory fresh writer = .ok message ∧ validate table message = .ok () ∧
      isRequest message = writer.isRequest ∧ isResponse message = !writer.isRequest ∧
      sysno message = writer.sysno.toInt ∧
      (writer.isRequest = false →
        headerResult message = writer.result.toNat ∧ headerErrorNumber message = writer.errorNumber.toNat) ∧
      ∀ index < kParameterMax, parameterIsUsed table message index = writer.parameterIsUsed table index ∧
        (writer.parameterIsUsed table index = true →
          ReadsBack table writer memory message (sizes.getD index 0) index) := by
  obtain ⟨_, request, responds, number, answer⟩ := header_written fresh sized fits
  exact ⟨written table writer memory sizes fresh, serialize_eq valid sized, validate_written valid sized fits good,
    request, responds, number, answer,
    fun index within => ⟨parameterIsUsed_of_written sized fits index, readsBack_written sized fits within⟩⟩

end Sizes

/-! ## The null fixed pointer -/

/-- The row of `gettimeofday` in the generated table: `tv` an out pointer to a
`struct timeval`, `tz` an in pointer to a `struct timezone`. -/
def gettimeofdayEntry : SystemCallTableEntry :=
  ⟨"gettimeofday", [⟨kPointer ||| kOut ||| kFixed, 16, 1⟩, ⟨kPointer ||| kIn ||| kFixed, 8, 1⟩]⟩

/-- A table with `gettimeofday` as system call 96. -/
def gettimeofdayTable : SystemCallTable := fun number => if number = 96 then some gettimeofdayEntry else none

/-- `gettimeofday(tv, NULL)` as a request: `tz` is null. -/
def gettimeofdayRequest : MessageWriter := ⟨96, 0, 0, true, #v[0x1000, 0, 0, 0, 0, 0]⟩

end Asylo.SyscallMessageProofs
