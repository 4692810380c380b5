import Asylo.LittleEndian

/-! The system call messages that cross the enclave boundary
(`platform/system_call/message.{h,cc}`) and what `enc_untrusted_syscall`
(`system_call.cc`) does with the response the untrusted dispatcher returns.

A message is a 128-byte `MessageHeader` (magic, flags, sysno, result, errno,
then six parameter offsets and six parameter sizes, little-endian) followed by
the parameters, each at an offset that is a multiple of 8. The parameter
descriptors come from the table generated out of `syscalls.txt`; here it is a
parameter of the model.

The response lies in untrusted memory: `response_buffer` points at bytes that
the host chose, `response_size` is what the host says. The model reads the
bytes through a total function, so a read past `response_size` gives whatever
lies there, and it logs every read that `enc_untrusted_syscall` makes of the
response outside `Validate`: the header fields it reads and the source of each
copy-out. -/
namespace Asylo.SyscallMessage

/-- The number of parameter slots of a message. -/
def kParameterMax : Nat := 6

def kMessageMagic : Nat := 0x1006c6163737973

def kSystemCallRequest : Nat := 0x1
def kSystemCallResponse : Nat := 0x2

/-- `sizeof(MessageHeader)`. -/
def kMessageHeaderSize : Nat := 128

/-- `SIZE_MAX` of the 64-bit enclave. -/
def sizeMax : Nat := 2 ^ 64 - 1

/-! ## The generated descriptor tables -/

def kIn : UInt16 := 1
def kOut : UInt16 := 2
def kUnsigned : UInt16 := 4
def kSigned : UInt16 := 8
def kPointer : UInt16 := 16
def kVoidPtr : UInt16 := 32
def kConst : UInt16 := 64
def kScalar : UInt16 := 128
def kString : UInt16 := 256
def kFixed : UInt16 := 512
def kBounded : UInt16 := 1024

/-- A parameter's row of `kParameterTable`: its flags, its size (for a
bounded parameter, the index of the bounding parameter) and element size. -/
structure ParameterTableEntry where
  flags : UInt16
  size : Nat
  elementSize : Nat
  deriving DecidableEq, Repr

/-- A row of `kSystemCallTable`: the name and the parameters. -/
structure SystemCallTableEntry where
  name : String
  parameters : List ParameterTableEntry
  deriving DecidableEq, Repr

/-- The generated `kSystemCallTable`, by system call number: `none` for a
number without a name. -/
abbrev SystemCallTable := Nat → Option SystemCallTableEntry

section Descriptors

variable (table : SystemCallTable)

/-- `SystemCallDescriptor::is_valid`. -/
def descriptorIsValid (sysno : Int) : Bool :=
  0 ≤ sysno && (table sysno.toNat).isSome

/-- The row of `ParameterDescriptor(sysno, index)`, when it `is_valid`. -/
def parameterEntry (sysno : Int) (index : Nat) : Option ParameterTableEntry :=
  if 0 ≤ sysno then (table sysno.toNat).bind fun entry => entry.parameters[index]? else none

/-- `ParameterDescriptor::test_flag`. -/
def testFlag (sysno : Int) (index : Nat) (flag : UInt16) : Bool :=
  match parameterEntry table sysno index with
  | some entry => (entry.flags &&& flag) != 0
  | none => false

/-- `ParameterDescriptor::size`. -/
def parameterSize (sysno : Int) (index : Nat) : Nat :=
  ((parameterEntry table sysno index).map (·.size)).getD 0

/-- `ParameterDescriptor::element_size`. -/
def parameterElementSize (sysno : Int) (index : Nat) : Nat :=
  ((parameterEntry table sysno index).map (·.elementSize)).getD 0

end Descriptors

/-! ## Reading a message -/

/-- Bytes in memory: `bytes k` is the byte `k` places after `response_buffer`
(past `size` it is whatever memory holds there), and `size` is `response_size`. -/
structure Response where
  bytes : Nat → UInt8
  size : Nat

/-- The little-endian value of `width` bytes at `offset`. -/
def load (response : Response) (offset width : Nat) : Nat :=
  LittleEndian.decode ((List.range width).map fun j => response.bytes (offset + j))

section Reader

variable (table : SystemCallTable) (response : Response)

def headerMagic : Nat := load response 0 8
def headerFlags : Nat := load response 8 4
def headerSysno : Nat := load response 12 4
def headerResult : Nat := load response 16 8
def headerErrorNumber : Nat := load response 24 8
def headerOffset (index : Nat) : Nat := load response (32 + 8 * index) 8
def headerSize (index : Nat) : Nat := load response (80 + 8 * index) 8

/-- `MessageReader::is_request`. -/
def isRequest : Bool := (headerFlags response).testBit 0

/-- `MessageReader::is_response`. -/
def isResponse : Bool := (headerFlags response).testBit 1

/-- `MessageReader::sysno`: the 32-bit field as an `int`. -/
def sysno : Int :=
  if headerSysno response < 2 ^ 31 then headerSysno response
  else (headerSysno response : Int) - 2 ^ 32

/-- `MessageReader::parameter_is_used`: requests carry the in parameters,
responses the out parameters. -/
def parameterIsUsed (index : Nat) : Bool :=
  let number := sysno response
  if (parameterEntry table number index).isNone then false
  else if isRequest response && !testFlag table number index kIn then false
  else if isResponse response && !testFlag table number index kOut then false
  else true

/-- `MessageReader::parameter_address`: the parameter's offset, or null for an
empty parameter. -/
def parameterAddress (index : Nat) : Option Nat :=
  if headerSize response index > 0 then some (headerOffset response index) else none

/-- `strlen` of the bytes at `start`, looking at no more than `limit` bytes
(`IsValidParameterSize` has checked that byte `limit - 1` is zero). -/
def strlenWithin (start limit : Nat) : Nat :=
  ((List.range limit).find? fun j => response.bytes (start + j) = 0).getD limit

/-- `MessageReader::IsValidParameterSize`; `none` is the `abort()` the source
expects to be unreachable. -/
def isValidParameterSize (index : Nat) : Option Bool :=
  let number := sysno response
  let size := headerSize response index
  if !parameterIsUsed table response index then some true
  else if testFlag table number index kScalar then some (size == 8)
  else if testFlag table number index kFixed then some (size == parameterSize table number index)
  else if size == 0 then some true
  else if testFlag table number index kString then
    let value := headerOffset response index
    if response.bytes (value + size - 1) != 0 then some false
    else some (size == strlenWithin response value size + 1)
  -- The source cannot check a bounded parameter's size against its bound.
  else if testFlag table number index kBounded then some true
  else none

end Reader

/-- `RoundUpToMultipleOf8`, in 64-bit arithmetic. -/
def roundUpToMultipleOf8 (value : Nat) : Nat := (value + (8 - value % 8) % 8) % 2 ^ 64

/-- `RoundDownToMultipleOf8`. -/
def roundDownToMultipleOf8 (value : Nat) : Nat := value / 8 * 8

/-- `SumOverflowOnRoundUpToMultipleOf8`. -/
def sumOverflowOnRoundUpToMultipleOf8 (v1 v2 : Nat) : Bool :=
  v2 > roundDownToMultipleOf8 sizeMax || v1 > roundDownToMultipleOf8 sizeMax - v2

/-- Why `MessageReader::Validate` refuses a message: an invalid-argument status
with its reason, or the `abort()` of `IsValidParameterSize`. -/
inductive Failure where
  | invalidArgument (reason : String)
  | abort
  deriving DecidableEq, Repr

section Validate

variable (table : SystemCallTable) (response : Response)

/-- `MessageReader::ValidateMessageHeader`. -/
def validateMessageHeader : Except Failure Unit :=
  if response.size < kMessageHeaderSize then
    .error (.invalidArgument "Message malformed: no completed header present")
  else if headerMagic response != kMessageMagic then
    .error (.invalidArgument "Message malformed: magic number mismatched")
  else if isRequest response == isResponse response then
    .error (.invalidArgument "Message malformed: should be either a request or a response")
  else if !descriptorIsValid table (sysno response) then
    .error (.invalidArgument
      ("Message malformed: sysno " ++ toString (sysno response) ++ " is invalid"))
  else .ok ()

/-- One round of the loop of `MessageReader::Validate`: parameter `index` must
start where the last one ended and end inside the message. -/
def validateParameter (nextOffset index : Nat) : Except Failure Nat :=
  if !parameterIsUsed table response index then .ok nextOffset
  else if headerOffset response index != nextOffset then
    .error (.invalidArgument ("Message malformed: parameter under index " ++ toString index ++
      " has drifted offset"))
  else if sumOverflowOnRoundUpToMultipleOf8 (headerSize response index) nextOffset then
    .error (.invalidArgument ("Message malformed: parameter under index " ++ toString index ++
      " resides above max offset"))
  else
    let next := roundUpToMultipleOf8 ((nextOffset + headerSize response index) % 2 ^ 64)
    if next > response.size then
      .error (.invalidArgument ("Message malformed: parameter under index " ++
        toString index ++ " overflowed from buffer memory"))
    else
      match isValidParameterSize table response index with
      | none => .error .abort
      | some false =>
        .error (.invalidArgument ("Message malformed: parameter under index " ++
          toString index ++ " size mismatched"))
      | some true => .ok next

/-- `MessageReader::Validate`. -/
def validate : Except Failure Unit := do
  validateMessageHeader table response
  let _ ← (List.range kParameterMax).foldlM (validateParameter table response) kMessageHeaderSize
  pure ()

end Validate

/-- `MessageReader::parameter<uint64_t>`: the eight bytes at the parameter's
offset. -/
def parameter (response : Response) (index : Nat) : Nat :=
  load response (headerOffset response index) 8

/-! ## Writing a message

`SerializeRequest` and `SerializeResponse` build a `MessageWriter`, whose
constructor sizes every parameter, `malloc` a buffer of `MessageSize()` bytes
and `Write` the message into it. The pointer arguments point into the
enclave's memory, a total function here; the fresh buffer's bytes are
whatever `malloc` gave. -/

/-- `strlen` of the bytes at `start`, from offset `k`, looking at no more than
`fuel` more bytes. -/
def strlenFrom (memory : Nat → UInt8) (start : Nat) : Nat → Nat → Nat
  | 0, k => k
  | fuel + 1, k => if memory (start + k) = 0 then k else strlenFrom memory start fuel (k + 1)

/-- `strlen(reinterpret_cast<const char *>(start))`: the offset of the first
zero byte, searched for over the 64-bit address space. -/
def strlen (memory : Nat → UInt8) (start : Nat) : Nat := strlenFrom memory start (2 ^ 64) 0

/-- The `length` bytes at `address`, as `memcpy` reads them. -/
def copy (memory : Nat → UInt8) (address length : Nat) : List UInt8 :=
  (List.range length).map fun j => memory (address + j)

/-- Memory with `data` stored at `offset`. -/
def store (bytes : Nat → UInt8) (offset : Nat) (data : List UInt8) : Nat → UInt8 :=
  fun k => if offset ≤ k ∧ k < offset + data.length then data.getD (k - offset) 0 else bytes k

/-- A `MessageWriter` as `RequestWriter` (with a result and errno of zero) or
`ResponseWriter` makes it. -/
structure MessageWriter where
  sysno : Int32
  result : UInt64
  errorNumber : UInt64
  isRequest : Bool
  parameters : Vector UInt64 kParameterMax
  deriving DecidableEq, Repr

namespace MessageWriter

variable (table : SystemCallTable) (writer : MessageWriter) (memory : Nat → UInt8)

/-- `parameters_[index]`; a bounding index past the array reads zero. -/
def parameter (index : Nat) : UInt64 := writer.parameters[index]?.getD 0

/-- `MessageWriter::parameter_is_used`: the writer's own direction decides,
not the flags it writes. -/
def parameterIsUsed (index : Nat) : Bool :=
  let number := writer.sysno.toInt
  if (parameterEntry table number index).isNone then false
  else if writer.isRequest && !testFlag table number index kIn then false
  else if !writer.isRequest && !testFlag table number index kOut then false
  else true

/-- `MessageWriter::ParameterSize`, in 64-bit arithmetic; `none` is the
`abort()` the source expects to be unreachable. -/
def parameterSize (index : Nat) : Option Nat :=
  let number := writer.sysno.toInt
  if !writer.parameterIsUsed table index then some 0
  else if testFlag table number index kScalar then some 8
  else
    let value := writer.parameter index
    -- Null pointer parameters are encoded as zero size fields.
    if value = 0 then some 0
    else if testFlag table number index kFixed then some (SyscallMessage.parameterSize table number index)
    else if testFlag table number index kString then some ((strlen memory value.toNat + 1) % 2 ^ 64)
    else if testFlag table number index kBounded then
      -- the bounding parameter's index is the descriptor's size
      some ((writer.parameter (SyscallMessage.parameterSize table number index)).toNat *
        parameterElementSize table number index % 2 ^ 64)
    else none

/-- The constructor's `parameter_size_`, or `none` where it aborts. -/
def parameterSizes : Option (List Nat) :=
  (List.range kParameterMax).mapM (writer.parameterSize table memory)

/-- `MessageWriter::MessageSize`, in 64-bit arithmetic. -/
def messageSize (sizes : List Nat) : Nat :=
  sizes.foldl (fun result size => (result + roundUpToMultipleOf8 size) % 2 ^ 64) kMessageHeaderSize

/-- One round of the loop of `MessageWriter::Write` with `parameter_size_` as
`sizes`: a used parameter's bytes at `next_offset` (what a non-null pointer
points at, or a non-pointer as 64 bits), then its offset and size in the
header. -/
def writeParameter (sizes : List Nat) (state : (Nat → UInt8) × Nat) (index : Nat) :
    (Nat → UInt8) × Nat :=
  let (bytes, nextOffset) := state
  if !writer.parameterIsUsed table index then (bytes, nextOffset)
  else
    let size := sizes.getD index 0
    let value := writer.parameter index
    let bytes :=
      if testFlag table writer.sysno.toInt index kPointer then
        if value ≠ 0 then store bytes nextOffset (copy memory value.toNat size) else bytes
      else store bytes nextOffset (LittleEndian.encode 8 value.toNat)
    let bytes := store bytes (32 + 8 * index) (LittleEndian.encode 8 nextOffset)
    let bytes := store bytes (80 + 8 * index) (LittleEndian.encode 8 size)
    (bytes, roundUpToMultipleOf8 ((nextOffset + size) % 2 ^ 64))

/-- The header fields `MessageWriter::Write` sets before the parameters: a
request's result and errno are left as the buffer held them. -/
def writeHeader (bytes : Nat → UInt8) : Nat → UInt8 :=
  let bytes := store bytes 0 (LittleEndian.encode 8 kMessageMagic)
  let bytes := store bytes 8
    (LittleEndian.encode 4 (if writer.isRequest then kSystemCallRequest else kSystemCallResponse))
  let bytes := store bytes 12 (LittleEndian.encode 4 writer.sysno.toUInt32.toNat)
  if writer.isRequest then bytes
  else store (store bytes 16 (LittleEndian.encode 8 writer.result.toNat)) 24
    (LittleEndian.encode 8 writer.errorNumber.toNat)

/-- `MessageWriter::Write` into a buffer that held `bytes`. -/
def write (sizes : List Nat) (bytes : Nat → UInt8) : Nat → UInt8 :=
  ((List.range kParameterMax).foldl (writer.writeParameter table memory sizes)
    (writer.writeHeader bytes, kMessageHeaderSize)).1

end MessageWriter

/-- `SerializeRequest` and `SerializeResponse` once the writer is made: the
message written into a fresh buffer of `MessageSize()` bytes that held
`fresh`, or why there is none. -/
def serialize (table : SystemCallTable) (memory fresh : Nat → UInt8) (writer : MessageWriter) :
    Except Failure Response :=
  if !descriptorIsValid table writer.sysno.toInt then
    .error (.invalidArgument ("Could not infer system call descriptor from the sysno (" ++
      toString writer.sysno.toInt ++ ") provided."))
  else
    match writer.parameterSizes table memory with
    | none => .error .abort
    | some sizes => .ok ⟨writer.write table memory sizes fresh, MessageWriter.messageSize sizes⟩

/-- `SerializeRequest(sysno, parameters, request)`. -/
def serializeRequest (table : SystemCallTable) (memory fresh : Nat → UInt8) (sysno : Int32)
    (parameters : Vector UInt64 kParameterMax) : Except Failure Response :=
  serialize table memory fresh ⟨sysno, 0, 0, true, parameters⟩

/-- `SerializeResponse(sysno, result, error_number, parameters, response)`. -/
def serializeResponse (table : SystemCallTable) (memory fresh : Nat → UInt8) (sysno : Int32)
    (result errorNumber : UInt64) (parameters : Vector UInt64 kParameterMax) : Except Failure Response :=
  serialize table memory fresh ⟨sysno, result, errorNumber, false, parameters⟩

/-! ## `enc_untrusted_syscall` on the response -/

/-- A read of response memory: `length` bytes at `offset` from
`response_buffer`, or `length` bytes from the null pointer. -/
inductive Access where
  | bytes (offset length : Nat)
  | null (length : Nat)
  deriving DecidableEq, Repr

/-- How `enc_untrusted_syscall` ends: in the error handler (by default
`abort()`), in the `abort()` of `IsValidParameterSize`, or returning the
system call's result. -/
inductive Outcome where
  | errorHandler (message : String)
  | aborted
  | returned (result : Int)
  deriving DecidableEq, Repr

/-- A `uint64_t` read as an `int64_t`. -/
def toInt64 (value : Nat) : Int := if value < 2 ^ 63 then value else (value : Int) - 2 ^ 64

section Syscall

variable (table : SystemCallTable)

/-- The copy-out of out parameter `index`: the reads it makes (the
parameter's size and, when non-zero, its offset, then the `memcpy` source when
the destination is not null). The copy length is the descriptor size of a
fixed parameter, and the bounding argument times the element size of a bounded
one. -/
def copyOut (number : Int) (parameters : List Nat) (response : Response) (index : Nat) :
    List Access :=
  if !testFlag table number index kOut then []
  else
    let size :=
      if testFlag table number index kFixed then parameterSize table number index
      else parameters.getD (parameterSize table number index) 0 *
        parameterElementSize table number index % 2 ^ 64
    let addressReads :=
      Access.bytes (80 + 8 * index) 8 ::
        (if headerSize response index > 0 then [Access.bytes (32 + 8 * index) 8] else [])
    let source :=
      match parameterAddress response index with
      | some offset => Access.bytes offset size
      | none => Access.null size
    addressReads ++ (if parameters.getD index 0 != 0 then [source] else [])

/-- `enc_untrusted_syscall` once the dispatcher has answered `sysno` with
`parameters` by `response` (`none` for a null `response_buffer`): how it ends,
and the reads of the response it made on the way, outside `Validate`. -/
def encUntrustedSyscall (number : Int) (parameters : List Nat) (response : Option Response) :
    Outcome × List Access :=
  if !descriptorIsValid table number then
    (.errorHandler "system_call.cc: Invalid SystemCallDescriptor encountered.", [])
  else
    match response with
    | none => (.errorHandler "system_call.cc: null response buffer received for the syscall.", [])
    | some response =>
      let sysnoRead := [Access.bytes 12 4]
      if sysno response != number then
        (.errorHandler "system_call.cc: Unexpected sysno in response", sysnoRead)
      else
        match validate table response with
        | .error .abort => (.aborted, sysnoRead)
        | .error (.invalidArgument _) =>
          (.errorHandler
            "system_call.cc: Error deserializing response buffer into response reader.",
            sysnoRead)
        | .ok () =>
          let copies := (List.range kParameterMax).flatMap (copyOut table number parameters response)
          let result := toInt64 (headerResult response)
          let resultReads :=
            Access.bytes 16 8 :: (if result = -1 then [Access.bytes 24 8] else [])
          (.returned result, sysnoRead ++ copies ++ resultReads)

end Syscall

end Asylo.SyscallMessage
