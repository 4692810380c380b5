import Asylo.LittleEndian

/-! The status values and byte containers that the identity and crypto code is
written with: `Status` and `StatusOr` with `WithContext`
(`util/status_helpers.cc`), the fixed-size arrays `UnsafeBytes<Size>` with
`replace` (`crypto/util/bytes.h`), the `ByteContainerReader` that parses packed
structures (`crypto/util/byte_container_reader.h`), and the hex rendering of
bytes that error messages use.

`UnsafeBytes size` carries its length, so a field of a packed structure cannot
be built with the wrong number of bytes. -/
namespace Asylo

/-- The `absl::StatusCode`s this code returns. -/
inductive StatusCode
  | invalidArgument
  | failedPrecondition
  | unauthenticated
  | unimplemented
  | internal
  | permissionDenied
  | notFound
  | outOfRange
  | alreadyExists
  deriving DecidableEq, Repr

structure Status where
  code : StatusCode
  message : String
  deriving DecidableEq, Repr

/-- `StatusOr<T>`: a value, or the status it failed with. -/
abbrev StatusOr (α : Type) := Except Status α

/-- `WithContext(status_or, context)`: a failure's message gets `context` in
front. -/
def withContext {α : Type} (result : StatusOr α) (context : String) : StatusOr α :=
  match result with
  | .ok value => .ok value
  | .error status => .error { status with message := context ++ ": " ++ status.message }

@[simp] theorem withContext_eq_ok {α : Type} {result : StatusOr α} {context : String} {value : α} :
    withContext result context = .ok value ↔ result = .ok value := by
  cases result <;> simp [withContext]

/-- `SerializeToString` and `ParseFromArray` of one message type, with what
protobuf guarantees of them: parsing the bytes a message serialized to gives
that message back. -/
structure ProtoCodec (Message : Type) where
  serializeToString : Message → Option (List UInt8)
  parseFromArray : List UInt8 → Option Message
  parse_serialize : ∀ message bytes, serializeToString message = some bytes → parseFromArray bytes = some message

/-! ## `UnsafeBytes` -/

/-- `UnsafeBytes<Size>`: exactly `size` bytes. -/
abbrev UnsafeBytes (size : Nat) := {bytes : List UInt8 // bytes.length = size}

/-- `UnsafeBytes<Size>::replace(pos, view)`: writes the first
`min(view.size(), Size - pos)` bytes of `view` from `pos` on, nothing when
`pos ≥ Size`, and returns how many it wrote. -/
def UnsafeBytes.replace {size : Nat} (bytes : UnsafeBytes size) (pos : Nat) (view : List UInt8) :
    UnsafeBytes size × Nat :=
  if size ≤ pos then (bytes, 0)
  else
    let replaceSize := min (size - pos) view.length
    (⟨bytes.1.take pos ++ view.take replaceSize ++ bytes.1.drop (pos + replaceSize), by
      simp only [List.length_append, List.length_take, List.length_drop, bytes.2]
      omega⟩, replaceSize)

/-- Writing a view that fits from `pos` on replaces exactly those bytes. -/
theorem UnsafeBytes.replace_of_le {size : Nat} (bytes : UnsafeBytes size) {pos : Nat}
    {view : List UInt8} (fits : pos + view.length ≤ size) (inside : pos < size) :
    bytes.replace pos view =
      (⟨bytes.1.take pos ++ view ++ bytes.1.drop (pos + view.length), by
        simp only [List.length_append, List.length_take, List.length_drop, bytes.2]
        omega⟩, view.length) := by
  have whole : min (size - pos) view.length = view.length := by omega
  simp only [replace, if_neg (Nat.not_le.mpr inside), whole, List.take_length]

/-- The `length` bytes at `offset`: a field of a packed structure. -/
def UnsafeBytes.slice {size : Nat} (bytes : UnsafeBytes size) (offset length : Nat)
    (inside : offset + length ≤ size) : UnsafeBytes length :=
  ⟨(bytes.1.drop offset).take length, by
    simp only [List.length_take, List.length_drop, bytes.2]
    omega⟩

/-! ## `ByteContainerReader` -/

/-- A `ByteContainerReader` over `source`, `offset` bytes in. -/
structure ByteContainerReader where
  source : List UInt8
  offset : Nat
  deriving DecidableEq, Repr

namespace ByteContainerReader

def bytesRemaining (reader : ByteContainerReader) : Nat := reader.source.length - reader.offset

def createReadTooLargeStatus (reader : ByteContainerReader) (size : Nat) : Status :=
  let available := reader.bytesRemaining
  ⟨.invalidArgument, s!"Attempted to read {size} bytes, but only {available} are available"⟩

/-- `ReadRaw(size, output)`: the `size` bytes at the offset, and the reader
past them. `ReadSingle` of a packed structure is this read. -/
def readRaw (reader : ByteContainerReader) (size : Nat) : StatusOr (UnsafeBytes size × ByteContainerReader) :=
  if h : reader.bytesRemaining < size then .error (reader.createReadTooLargeStatus size)
  else
    .ok (⟨(reader.source.drop reader.offset).take size, by
      simp only [bytesRemaining] at h
      simp only [List.length_take, List.length_drop]
      omega⟩, { reader with offset := reader.offset + size })

/-- `ReadSingle` of an unsigned integer of `width` bytes, laid out
little-endian. -/
def readInteger (reader : ByteContainerReader) (width : Nat) : StatusOr (Nat × ByteContainerReader) :=
  match reader.readRaw width with
  | .ok (bytes, reader) => .ok (LittleEndian.decode bytes.1, reader)
  | .error status => .error status

/-- `ReadMultiple(count, &bytes)` into an empty byte vector: the same size check
as `ReadRaw`, then `count` single-byte reads. -/
def readMultiple (reader : ByteContainerReader) (count : Nat) : StatusOr (List UInt8 × ByteContainerReader) :=
  match reader.readRaw count with
  | .ok (bytes, reader) => .ok (bytes.1, reader)
  | .error status => .error status

/-- Reading where a segment of the source starts gives the segment. -/
theorem readRaw_of_drop {source : List UInt8} {offset : Nat} {segment after : List UInt8}
    (layout : source.drop offset = segment ++ after) {size : Nat} (whole : segment.length = size) :
    (ByteContainerReader.mk source offset).readRaw size =
      .ok (⟨segment, whole⟩, ⟨source, offset + size⟩) := by
  have fits : ¬ (ByteContainerReader.mk source offset).bytesRemaining < size := by
    have remaining := congrArg List.length layout
    simp only [List.length_drop, List.length_append] at remaining
    simp only [bytesRemaining]
    omega
  unfold readRaw
  rw [dif_neg fits]
  simp only [layout, ← whole, List.take_left]

/-- What is left to read after the segment. -/
theorem drop_past {source : List UInt8} {offset : Nat} {segment after : List UInt8}
    (layout : source.drop offset = segment ++ after) : source.drop (offset + segment.length) = after := by
  rw [← List.drop_drop, layout, List.drop_left]

theorem readInteger_of_drop {source : List UInt8} {offset : Nat} {after : List UInt8} {width value : Nat}
    (layout : source.drop offset = LittleEndian.encode width value ++ after) :
    (ByteContainerReader.mk source offset).readInteger width =
      .ok (value % 256 ^ width, ⟨source, offset + width⟩) := by
  simp only [readInteger, readRaw_of_drop layout (LittleEndian.length_encode width value),
    LittleEndian.decode_encode]

theorem readMultiple_of_drop {source : List UInt8} {offset : Nat} {segment after : List UInt8}
    (layout : source.drop offset = segment ++ after) :
    (ByteContainerReader.mk source offset).readMultiple segment.length =
      .ok (segment, ⟨source, offset + segment.length⟩) := by
  simp only [readMultiple, readRaw_of_drop layout rfl]

/-! What a read that succeeds tells: the bytes it returned stand at the
offset, and the reader moved past them. -/

theorem readRaw_eq_ok {source : List UInt8} {offset size : Nat} {bytes : UnsafeBytes size}
    {next : ByteContainerReader} (read : (ByteContainerReader.mk source offset).readRaw size = .ok (bytes, next)) :
    source.drop offset = bytes.1 ++ source.drop (offset + size) ∧ next = ⟨source, offset + size⟩ := by
  by_cases short : (ByteContainerReader.mk source offset).bytesRemaining < size
  · simp [readRaw, short] at read
  · rw [readRaw, dif_neg short] at read
    obtain ⟨rfl, rfl⟩ := Prod.mk.inj (Except.ok.inj read)
    refine ⟨?_, rfl⟩
    rw [← List.drop_drop]
    exact (List.take_append_drop size _).symm

theorem readInteger_eq_ok {source : List UInt8} {offset width value : Nat} {next : ByteContainerReader}
    (read : (ByteContainerReader.mk source offset).readInteger width = .ok (value, next)) :
    source.drop offset = LittleEndian.encode width value ++ source.drop (offset + width) ∧
      next = ⟨source, offset + width⟩ ∧ value < 256 ^ width := by
  cases raw : (ByteContainerReader.mk source offset).readRaw width with
  | error status => simp [readInteger, raw] at read
  | ok result =>
    obtain ⟨bytes, after⟩ := result
    simp only [readInteger, raw, Except.ok.injEq, Prod.mk.injEq] at read
    obtain ⟨rfl, rfl⟩ := read
    obtain ⟨layout, rfl⟩ := readRaw_eq_ok raw
    -- the bytes read are the encoding of their value, at the width they have
    have encoded := LittleEndian.encode_decode bytes.1
    have bound := LittleEndian.decode_lt bytes.1
    rw [bytes.2] at encoded bound
    exact ⟨by rw [encoded, layout], rfl, bound⟩

theorem readMultiple_eq_ok {source : List UInt8} {offset count : Nat} {bytes : List UInt8}
    {next : ByteContainerReader}
    (read : (ByteContainerReader.mk source offset).readMultiple count = .ok (bytes, next)) :
    source.drop offset = bytes ++ source.drop (offset + count) ∧ bytes.length = count ∧
      next = ⟨source, offset + count⟩ := by
  cases raw : (ByteContainerReader.mk source offset).readRaw count with
  | error status => simp [readMultiple, raw] at read
  | ok result =>
    obtain ⟨read', after⟩ := result
    simp only [readMultiple, raw, Except.ok.injEq, Prod.mk.injEq] at read
    obtain ⟨rfl, rfl⟩ := read
    obtain ⟨layout, rfl⟩ := readRaw_eq_ok raw
    exact ⟨layout, read'.2, rfl⟩

/-- Nothing is left past a reader with no bytes remaining. -/
theorem drop_eq_nil_of_bytesRemaining {source : List UInt8} {offset : Nat}
    (empty : (ByteContainerReader.mk source offset).bytesRemaining = 0) : source.drop offset = [] :=
  List.drop_eq_nil_of_le (by simp only [bytesRemaining] at empty; omega)

end ByteContainerReader

/-! ## `SerializeByteContainers` -/

/-- `SerializeByteContainers(&serialized, views...)`: each view as its size in
32 little-endian bits and then its bytes. A view of more than `UINT32_MAX`
bytes fails the call, and what the views before it wrote stays. -/
def serializeByteContainers : List (List UInt8) → StatusOr Unit × List UInt8
  | [] => (.ok (), [])
  | view :: views =>
    if view.length > 2 ^ 32 - 1 then (.error ⟨.invalidArgument, "Container size exceeds max size"⟩, [])
    else
      let rest := serializeByteContainers views
      (rest.1, LittleEndian.encode 4 view.length ++ view ++ rest.2)

theorem serializeByteContainers_cons_of_lt {view : List UInt8} (views : List (List UInt8))
    (fits : view.length < 2 ^ 32) :
    serializeByteContainers (view :: views) =
      ((serializeByteContainers views).1,
        LittleEndian.encode 4 view.length ++ view ++ (serializeByteContainers views).2) := by
  have notLarge : ¬ view.length > 2 ^ 32 - 1 := by omega
  simp only [serializeByteContainers, if_neg notLarge]

theorem serializeByteContainers_cons_of_le {view : List UInt8} (views : List (List UInt8))
    (large : 2 ^ 32 ≤ view.length) :
    serializeByteContainers (view :: views) = (.error ⟨.invalidArgument, "Container size exceeds max size"⟩, []) := by
  have tooLarge : view.length > 2 ^ 32 - 1 := by omega
  simp only [serializeByteContainers, if_pos tooLarge]

/-- A second view too large to serialize leaves only the first: which large
view it was does not show. -/
theorem serializeByteContainers_pair_of_le (first : List UInt8) {second second' : List UInt8}
    (large : 2 ^ 32 ≤ second.length) (large' : 2 ^ 32 ≤ second'.length) :
    (serializeByteContainers [first, second]).2 = (serializeByteContainers [first, second']).2 := by
  by_cases fits : first.length < 2 ^ 32
  · rw [serializeByteContainers_cons_of_lt _ fits, serializeByteContainers_cons_of_lt _ fits,
      serializeByteContainers_cons_of_le [] large, serializeByteContainers_cons_of_le [] large']
  · have tooLarge : 2 ^ 32 ≤ first.length := by omega
    rw [serializeByteContainers_cons_of_le _ tooLarge, serializeByteContainers_cons_of_le _ tooLarge]

/-- Views that fit are told apart by their serialization: the size in front of
each says where it ends. -/
theorem serializeByteContainers_injective :
    ∀ {views others : List (List UInt8)}, (∀ view ∈ views, view.length < 2 ^ 32) →
      (∀ other ∈ others, other.length < 2 ^ 32) →
      (serializeByteContainers views).2 = (serializeByteContainers others).2 → views = others
  | [], [], _, _, _ => rfl
  | [], other :: others, _, fit, same => by
    -- a view serializes to at least its four bytes of size
    rw [serializeByteContainers_cons_of_lt others (fit other (List.mem_cons_self ..))] at same
    have lengths := congrArg List.length same
    simp only [serializeByteContainers, List.length_nil, List.length_append, LittleEndian.length_encode] at lengths
    omega
  | view :: views, [], fits, _, same => by
    rw [serializeByteContainers_cons_of_lt views (fits view (List.mem_cons_self ..))] at same
    have lengths := congrArg List.length same
    simp only [serializeByteContainers, List.length_nil, List.length_append, LittleEndian.length_encode] at lengths
    omega
  | view :: views, other :: others, fits, fit, same => by
    have viewFits := fits view (List.mem_cons_self ..)
    have otherFits := fit other (List.mem_cons_self ..)
    rw [serializeByteContainers_cons_of_lt views viewFits, serializeByteContainers_cons_of_lt others otherFits]
      at same
    simp only [List.append_assoc] at same
    -- the sizes in front agree, so do the views, and then the rest
    obtain ⟨sizes, rest⟩ := List.append_inj same (by simp)
    have sameLength : view.length = other.length := by
      have decoded := congrArg LittleEndian.decode sizes
      rwa [LittleEndian.decode_encode_of_lt (by simpa using viewFits),
        LittleEndian.decode_encode_of_lt (by simpa using otherFits)] at decoded
    obtain ⟨rfl, restSame⟩ := List.append_inj rest sameLength
    rw [serializeByteContainers_injective (fun v member => fits v (List.mem_cons_of_mem _ member))
      (fun w member => fit w (List.mem_cons_of_mem _ member)) restSame]

/-! ## Hex -/

def hexDigit (nibble : Nat) : Char :=
  if nibble < 10 then Char.ofNat (48 + nibble) else Char.ofNat (87 + nibble)

/-- `absl::BytesToHexString`: two lowercase hex digits a byte. -/
def bytesToHexString (bytes : List UInt8) : String :=
  String.ofList (bytes.flatMap fun byte => [hexDigit (byte.toNat / 16), hexDigit (byte.toNat % 16)])

/-- `absl::ascii_isxdigit`. -/
def isAsciiHexDigit (c : Char) : Bool :=
  ('0' ≤ c && c ≤ '9') || ('a' ≤ c && c ≤ 'f') || ('A' ≤ c && c ≤ 'F')

/-- `IsHexEncoded` (`util/hex_util.cc`): hex digits only, and an even number of
them. A character that is not ASCII is no hex digit, and neither is any of
its bytes, so counting characters here is counting the bytes. -/
def isHexEncoded (text : String) : Bool :=
  text.toList.all isAsciiHexDigit && text.length % 2 == 0

/-- `kHexValueLenient`: the value of a hex digit, and 0 for any other
character. -/
def hexValueLenient (c : Char) : Nat :=
  if '0' ≤ c ∧ c ≤ '9' then c.toNat - 48
  else if 'a' ≤ c ∧ c ≤ 'f' then c.toNat - 87
  else if 'A' ≤ c ∧ c ≤ 'F' then c.toNat - 55
  else 0

/-- The loop of `absl::HexStringToBytes`: each two characters make one byte,
and a last odd character is dropped. -/
def hexPairsToBytes : List Char → List UInt8
  | high :: low :: rest => UInt8.ofNat (hexValueLenient high * 16 + hexValueLenient low) :: hexPairsToBytes rest
  | _ => []

/-- `absl::HexStringToBytes`. -/
def hexStringToBytes (text : String) : List UInt8 := hexPairsToBytes text.toList

end Asylo
