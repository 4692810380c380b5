import Mathlib
import Asylo.ServerEkepHandshaker

/-! The frame layer of the handshaker: a frame that `EncodeFrame` writes is read
back by `ParseFrameHeader` and `ParseFrameMessage`, whatever follows it; a frame
that has arrived whole is handled, added to the transcript and trimmed from the
stream, and one that has not is left unread; an `ABORT` frame ends the handshake
without reaching the transcript; and a completed or aborted handshaker ignores
every later call. -/
namespace Asylo.Ekep

/-- The header of a frame that announces a message of type `messageType` and
`size` bytes. -/
def frameHeader (messageType : HandshakeMessageType) (size : Nat) : List UInt8 :=
  LittleEndian.encode 4 (kMessageTypeSize + size) ++ LittleEndian.encode 4 messageType.number

/-- The bytes of the frame of a message of type `messageType` whose serialization
is `body`. -/
def frameBytes (messageType : HandshakeMessageType) (body : List UInt8) : List UInt8 :=
  frameHeader messageType body.length ++ body

@[simp] theorem length_frameHeader (messageType : HandshakeMessageType) (size : Nat) :
    (frameHeader messageType size).length = kEkepFrameHeaderSize := by
  simp [frameHeader, kEkepFrameHeaderSize]

@[simp] theorem length_frameBytes (messageType : HandshakeMessageType) (body : List UInt8) :
    (frameBytes messageType body).length = kEkepFrameHeaderSize + body.length := by
  simp [frameBytes]

theorem length_frameBytes_ne_zero (messageType : HandshakeMessageType) (body : List UInt8) :
    (frameBytes messageType body).length ≠ 0 := by
  simp [kEkepFrameHeaderSize]

theorem HandshakeMessageType.ofNumber?_number (messageType : HandshakeMessageType) :
    HandshakeMessageType.ofNumber? messageType.number = some messageType := by
  cases messageType <;> rfl

theorem HandshakeMessageType.number_lt (messageType : HandshakeMessageType) : messageType.number < 2 ^ 32 := by
  cases messageType <;> decide

/-- What `EncodeFrame` writes, and when. -/
theorem encodeFrame_eq_ok {codec : MessageCodec} {maxFrameSize : Nat} {messageType : HandshakeMessageType}
    {message : HandshakeMessage} {frame : List UInt8} :
    encodeFrame codec maxFrameSize messageType message = .ok frame ↔
      kMessageTypeSize + (codec.serialize message).length ≤ maxFrameSize ∧
        messageType ≠ .UNKNOWN_HANDSHAKE_MESSAGE ∧ frame = frameBytes messageType (codec.serialize message) := by
  unfold encodeFrame
  by_cases large : (codec.serialize message).length > maxFrameSize ∨
      kMessageTypeSize + (codec.serialize message).length > maxFrameSize
  · rw [if_pos large]
    simp only [reduceCtorEq, false_iff, not_and]
    intro fits
    omega
  · rw [if_neg large]
    have fits : kMessageTypeSize + (codec.serialize message).length ≤ maxFrameSize := by omega
    by_cases unknown : messageType = .UNKNOWN_HANDSHAKE_MESSAGE
    · simp [unknown]
    · simp [unknown, fits, frameBytes, frameHeader, eq_comm]

namespace InputStream

theorem read_append {consumed bytes rest : List UInt8} {count : Nat} (length : bytes.length = count) :
    (InputStream.mk consumed (bytes ++ rest)).read count = some (bytes, ⟨consumed ++ bytes, rest⟩) := by
  subst length
  simp [read]

theorem read_of_lt {input : InputStream} {count : Nat} (short : input.unread.length < count) :
    input.read count = none := by
  simp [read, Nat.not_le.mpr short]

end InputStream

/-- `ParseFrameHeader` reads back the size and type that `EncodeFrame` wrote,
whatever follows the header, and leaves the stream at the message. -/
theorem parseFrameHeader_frameHeader {maxFrameSize : Nat} {messageType : HandshakeMessageType} {size : Nat}
    {rest consumed : List UInt8} (known : messageType ≠ .UNKNOWN_HANDSHAKE_MESSAGE)
    (fits : kMessageTypeSize + size ≤ maxFrameSize) (small : maxFrameSize < 2 ^ 32) :
    parseFrameHeader maxFrameSize ⟨consumed, frameHeader messageType size ++ rest⟩ =
      (.ok (size, messageType), ⟨consumed ++ frameHeader messageType size, rest⟩) := by
  have sizeRead := @InputStream.read_append consumed _ (LittleEndian.encode 4 messageType.number ++ rest) _
    (LittleEndian.length_encode 4 (kMessageTypeSize + size))
  have typeRead := @InputStream.read_append (consumed ++ LittleEndian.encode 4 (kMessageTypeSize + size)) _ rest _
    (LittleEndian.length_encode 4 messageType.number)
  have sizeBack : LittleEndian.decode (LittleEndian.encode 4 (kMessageTypeSize + size)) = kMessageTypeSize + size :=
    LittleEndian.decode_encode_of_lt (by omega)
  have typeBack : LittleEndian.decode (LittleEndian.encode 4 messageType.number) = messageType.number :=
    LittleEndian.decode_encode_of_lt messageType.number_lt
  have sizeValid : ¬(kMessageTypeSize + size < kMessageTypeSize ∨ kMessageTypeSize + size > maxFrameSize) := by
    omega
  simp only [parseFrameHeader, frameHeader, List.append_assoc] at sizeRead typeRead ⊢
  rw [sizeRead]
  simp only [sizeBack, if_neg sizeValid, typeRead, typeBack, HandshakeMessageType.ofNumber?_number]
  cases messageType with
  | UNKNOWN_HANDSHAKE_MESSAGE => exact absurd rfl known
  | _ => simp [kMessageTypeSize]

/-! ## The laws of a role -/

/-- What the frame loop needs of a derived class: its base members behave as a
field, and whether it is in progress and which type it expects do not depend on
them. -/
structure Role.Lawful {H State EnclaveIdentity : Type} (role : Role H State EnclaveIdentity) : Prop where
  base_setBase : ∀ self base, role.base (role.setBase self base) = base
  setBase_base : ∀ self, role.setBase self (role.base self) = self
  setBase_setBase : ∀ self base base', role.setBase (role.setBase self base) base' = role.setBase self base'
  getExpectedMessageType_setBase : ∀ self base,
    role.getExpectedMessageType (role.setBase self base) = role.getExpectedMessageType self

theorem ClientEkepHandshaker.role_lawful {State EnclaveIdentity : Type} (env : Environment State EnclaveIdentity) :
    (ClientEkepHandshaker.role env).Lawful :=
  ⟨fun _ _ => rfl, fun _ => rfl, fun _ _ _ => rfl, fun _ _ => rfl⟩

theorem ServerEkepHandshaker.role_lawful {State EnclaveIdentity : Type} (env : Environment State EnclaveIdentity) :
    (ServerEkepHandshaker.role env).Lawful :=
  ⟨fun _ _ => rfl, fun _ => rfl, fun _ _ _ => rfl, fun _ _ => rfl⟩

/-! ## One frame -/

theorem parseFrameMessage_append (codec : MessageCodec) (messageType : HandshakeMessageType)
    (consumed body rest : List UInt8) :
    parseFrameMessage codec body.length ⟨consumed, body ++ rest⟩ messageType =
      (match codec.parse messageType body with
        | some message => .ok message
        | none => .error ⟨.DESERIALIZATION_FAILED, "Failed to deserialize handshake message"⟩,
        ⟨consumed ++ body, rest⟩) := by
  simp only [parseFrameMessage, List.take_left, List.drop_left]
  cases codec.parse messageType body <;> rfl

/-! ## A sample client

The frame loop's lemmas are instantiated on a client of one assertion authority,
with a hash that digests to nothing, X25519, HKDF and HMAC that give zeros, and a
codec that writes every message as nothing and reads every `ABORT` frame as one
abort. -/

/-- `size` zero bytes. -/
def zeroBytes (size : Nat) : UnsafeBytes size := ⟨List.replicate size 0, List.length_replicate⟩

def sampleCrypto : Crypto (List UInt8) where
  hasher := ⟨fun _ => [], fun object bytes => object ++ bytes, fun _ => some []⟩
  newSha256Hash := []
  x25519PublicFromPrivate := id
  x25519 _ _ := some (zeroBytes 32)
  hkdfSha256 outLength _ _ _ := some (zeroBytes outLength)
  hmacSha256 _ _ := some (zeroBytes DcapVerifier.kSha256DigestLength)

def sampleDescription : DcapVerifier.AssertionDescription := ⟨.codeIdentity, "Sample"⟩

def sampleAuthorities : AssertionAuthorities Unit where
  hasGenerator _ := true
  hasVerifier _ := true
  generator description := ⟨(.ok (), ⟨description, []⟩), fun _ => .ok true, fun _ request => .ok ⟨request.description, []⟩⟩
  verifier description := ⟨(.ok (), ⟨description, []⟩), fun _ => .ok true, fun _ _ => .ok ()⟩

def sampleOptions : EkepHandshakerOptions where
  selfAssertions := [sampleDescription]
  acceptedPeerAssertions := [sampleDescription]
  additionalAuthenticatedData := []

def sampleRandomness : Randomness := ⟨some (zeroBytes kEkepChallengeSize), zeroBytes X25519_PRIVATE_KEY_LEN⟩

def sampleAbort : Abort := ⟨.PROTOCOL_ERROR, "Sample"⟩

def abortCodec : MessageCodec :=
  ⟨fun _ => [], fun messageType _ => if messageType = .ABORT then some (.abort sampleAbort) else none⟩

def sampleEnv : Environment (List UInt8) Unit := ⟨abortCodec, sampleCrypto, sampleAuthorities⟩

abbrev sampleRole : Role (ClientEkepHandshaker (List UInt8) Unit) (List UInt8) Unit := ClientEkepHandshaker.role sampleEnv

/-- The sample client before it starts. -/
def sampleClient : ClientEkepHandshaker (List UInt8) Unit := .init sampleOptions sampleRandomness

/-- The sample client waiting for `ServerPrecommit`, with `bytes` unread. -/
def sampleClientReading (bytes : List UInt8) : ClientEkepHandshaker (List UInt8) Unit :=
  { sampleClient with base := { sampleClient.base with inputStream := ⟨[], bytes⟩ }, handshakerState := .IN_PROGRESS }

section Decode

variable {H State EnclaveIdentity : Type} {role : Role H State EnclaveIdentity}
  {env : Environment State EnclaveIdentity}

namespace Role

variable (lawful : role.Lawful)
include lawful

@[simp] theorem base_setInputStream (self : H) (inputStream : InputStream) :
    role.base (role.setInputStream self inputStream) = { role.base self with inputStream } :=
  lawful.base_setBase _ _

@[simp] theorem getExpectedMessageType_setInputStream (self : H) (inputStream : InputStream) :
    role.getExpectedMessageType (role.setInputStream self inputStream) = role.getExpectedMessageType self :=
  lawful.getExpectedMessageType_setBase _ _

@[simp] theorem setInputStream_setInputStream (self : H) (inputStream inputStream' : InputStream) :
    role.setInputStream (role.setInputStream self inputStream) inputStream' = role.setInputStream self inputStream' := by
  simp only [setInputStream, lawful.setBase_setBase, lawful.base_setBase]

theorem setInputStream_inputStream (self : H) : role.setInputStream self (role.base self).inputStream = self :=
  lawful.setBase_base self

@[simp] theorem setBase_setInputStream (self : H) (inputStream : InputStream) (base : EkepHandshakerBase State EnclaveIdentity) :
    role.setBase (role.setInputStream self inputStream) base = role.setBase self base :=
  lawful.setBase_setBase _ _ _

/-- A frame of the expected type that has arrived whole, at the start of a
trimmed stream, is handled: its bytes join the transcript and leave the stream. -/
theorem decodeAndHandleFrame_frame {self : H} {output : List UInt8}
    {messageType : HandshakeMessageType} {message : HandshakeMessage} {rest : List UInt8}
    (stream : (role.base self).inputStream = ⟨[], frameBytes messageType (env.codec.serialize message) ++ rest⟩)
    (known : messageType ≠ .UNKNOWN_HANDSHAKE_MESSAGE) (notAbort : messageType ≠ .ABORT)
    (fits : kMessageTypeSize + (env.codec.serialize message).length ≤ (role.base self).maxFrameSize)
    (small : (role.base self).maxFrameSize < 2 ^ 32)
    (expected : role.getExpectedMessageType self = messageType)
    (parsed : env.codec.parse messageType (env.codec.serialize message) = some message) :
    role.decodeAndHandleFrame env self output =
      role.handleHandshakeMessage
        (role.setBase self { role.base self with
          transcript := (role.base self).transcript.add env.crypto.hasher
            (.stream [frameBytes messageType (env.codec.serialize message)])
          inputStream := ⟨[], rest⟩ }) messageType message output := by
  set body := env.codec.serialize message
  have enough : ¬(role.base self).inputStream.remainingByteCount < kEkepFrameHeaderSize := by
    simp only [InputStream.remainingByteCount, stream, List.length_append, length_frameBytes]
    omega
  have header := @parseFrameHeader_frameHeader _ _ _ (body ++ rest) [] known fits small
  have whole : ¬(InputStream.mk (frameHeader messageType body.length) (body ++ rest)).remainingByteCount <
      body.length := by
    simp [InputStream.remainingByteCount]
  unfold decodeAndHandleFrame
  rw [if_neg enough]
  simp only [stream, frameBytes, List.append_assoc, header, base_setInputStream lawful,
    getExpectedMessageType_setInputStream lawful, expected, ne_eq, not_true_eq_false, false_and, if_false, List.nil_append,
    if_neg whole, parseFrameMessage_append, parsed, if_neg notAbort, setBase_setInputStream lawful,
    updateTranscriptWithIncomingBytes, InputStream.byteCount, InputStream.trimFront]
  -- the bytes read are the frame
  rw [show frameHeader messageType body.length ++ body = frameBytes messageType body from rfl,
    if_pos (length_frameBytes_ne_zero messageType body)]

/-- A call that brings one whole frame of the expected type to a handshaker in
progress, with nothing left unread before it, is the handling of that frame. -/
theorem nextHandshakeStep_oneFrame {self next : H} {messageType : HandshakeMessageType} {message : HandshakeMessage}
    {result : EkepHandshakerResult} {output : List UInt8}
    (completed : role.isHandshakeCompleted self = false) (aborted : role.isHandshakeAborted self = false)
    (inProgress : role.isHandshakeInProgress self = true) (idle : (role.base self).inputStream = ⟨[], []⟩)
    (known : messageType ≠ .UNKNOWN_HANDSHAKE_MESSAGE) (notAbort : messageType ≠ .ABORT)
    (fits : kMessageTypeSize + (env.codec.serialize message).length ≤ (role.base self).maxFrameSize)
    (small : (role.base self).maxFrameSize < 2 ^ 32)
    (expected : role.getExpectedMessageType self = messageType)
    (parsed : env.codec.parse messageType (env.codec.serialize message) = some message)
    (handled : role.handleHandshakeMessage (role.setBase self { role.base self with
        transcript := (role.base self).transcript.add env.crypto.hasher
          (.stream [frameBytes messageType (env.codec.serialize message)])
        inputStream := ⟨[], []⟩ }) messageType message [] = (result, next, output))
    (drained : (role.base next).inputStream.remainingByteCount = 0) :
    role.nextHandshakeStep env self (frameBytes messageType (env.codec.serialize message)) [] =
      (result, next, output) := by
  set frame := frameBytes messageType (env.codec.serialize message) with frameIs
  have arrived : (role.base (role.setInputStream self ⟨[], frame⟩)).inputStream = ⟨[], frame ++ []⟩ := by
    simp [base_setInputStream lawful]
  have decoded : role.decodeAndHandleFrame env (role.setInputStream self ⟨[], frame⟩) [] = _ :=
    decodeAndHandleFrame_frame lawful arrived known notAbort
      (by simpa [base_setInputStream lawful] using fits) (by simpa [base_setInputStream lawful] using small)
      (by simpa [getExpectedMessageType_setInputStream lawful] using expected) parsed
  simp only [base_setInputStream lawful, setBase_setInputStream lawful, ← frameIs] at decoded
  dsimp only at handled
  rw [handled] at decoded
  have buffered : InputStream.addBuffer ⟨[], []⟩ frame = ⟨[], frame⟩ := by simp [InputStream.addBuffer]
  simp only [nextHandshakeStep, completed, aborted, inProgress, Bool.not_true, Bool.false_eq_true, if_false,
    idle, buffered, InputStream.remainingByteCount, decodeLoop, decoded]
  have empty : (role.base next).inputStream.unread = [] := List.eq_nil_of_length_eq_zero drained
  by_cases finished : result = .IN_PROGRESS
  · simp [finished, checkUnexpectedBytes, empty, InputStream.remainingByteCount]
  · simp [finished]

/-- A call that brings two whole frames, each of the type expected when it is
read, handles both in turn when the first writes nothing and the second ends the
handshake. -/
theorem nextHandshakeStep_twoFrames {self between next : H} {messageType messageType' : HandshakeMessageType}
    {message message' : HandshakeMessage} {result : EkepHandshakerResult} {output : List UInt8}
    (completed : role.isHandshakeCompleted self = false) (aborted : role.isHandshakeAborted self = false)
    (inProgress : role.isHandshakeInProgress self = true) (idle : (role.base self).inputStream = ⟨[], []⟩)
    (known : messageType ≠ .UNKNOWN_HANDSHAKE_MESSAGE) (notAbort : messageType ≠ .ABORT)
    (fits : kMessageTypeSize + (env.codec.serialize message).length ≤ (role.base self).maxFrameSize)
    (small : (role.base self).maxFrameSize < 2 ^ 32)
    (expected : role.getExpectedMessageType self = messageType)
    (parsed : env.codec.parse messageType (env.codec.serialize message) = some message)
    (handled : role.handleHandshakeMessage (role.setBase self { role.base self with
        transcript := (role.base self).transcript.add env.crypto.hasher
          (.stream [frameBytes messageType (env.codec.serialize message)])
        inputStream := ⟨[], frameBytes messageType' (env.codec.serialize message')⟩ }) messageType message [] =
      (.IN_PROGRESS, between, []))
    (waiting : (role.base between).inputStream = ⟨[], frameBytes messageType' (env.codec.serialize message') ++ []⟩)
    (known' : messageType' ≠ .UNKNOWN_HANDSHAKE_MESSAGE) (notAbort' : messageType' ≠ .ABORT)
    (fits' : kMessageTypeSize + (env.codec.serialize message').length ≤ (role.base between).maxFrameSize)
    (small' : (role.base between).maxFrameSize < 2 ^ 32)
    (expected' : role.getExpectedMessageType between = messageType')
    (parsed' : env.codec.parse messageType' (env.codec.serialize message') = some message')
    (handled' : role.handleHandshakeMessage (role.setBase between { role.base between with
        transcript := (role.base between).transcript.add env.crypto.hasher
          (.stream [frameBytes messageType' (env.codec.serialize message')])
        inputStream := ⟨[], []⟩ }) messageType' message' [] = (result, next, output))
    (finished : result ≠ .IN_PROGRESS) :
    role.nextHandshakeStep env self
      (frameBytes messageType (env.codec.serialize message) ++ frameBytes messageType' (env.codec.serialize message')) [] =
      (result, next, output) := by
  set frame := frameBytes messageType (env.codec.serialize message) with frameIs
  set frame' := frameBytes messageType' (env.codec.serialize message') with frameIs'
  have arrived : (role.base (role.setInputStream self ⟨[], frame ++ frame'⟩)).inputStream = ⟨[], frame ++ frame'⟩ := by
    simp [base_setInputStream lawful]
  have decoded : role.decodeAndHandleFrame env (role.setInputStream self ⟨[], frame ++ frame'⟩) [] = _ :=
    decodeAndHandleFrame_frame lawful arrived known notAbort
      (by simpa [base_setInputStream lawful] using fits) (by simpa [base_setInputStream lawful] using small)
      (by simpa [getExpectedMessageType_setInputStream lawful] using expected) parsed
  simp only [base_setInputStream lawful, setBase_setInputStream lawful, ← frameIs] at decoded
  dsimp only at handled
  rw [handled] at decoded
  -- the first frame leaves the second unread and writes nothing, so the loop goes on
  have decoded' : role.decodeAndHandleFrame env between [] = _ :=
    decodeAndHandleFrame_frame lawful waiting known' notAbort' fits' small' expected' parsed'
  simp only [← frameIs'] at decoded'
  dsimp only at handled'
  rw [handled'] at decoded'
  have firstSome : frame.length ≠ 0 := by rw [frameIs]; exact length_frameBytes_ne_zero _ _
  have secondSome : frame'.length ≠ 0 := by rw [frameIs']; exact length_frameBytes_ne_zero _ _
  obtain ⟨fuel, more⟩ : ∃ fuel, (frame ++ frame').length = fuel + 1 :=
    ⟨(frame ++ frame').length - 1, by simp only [List.length_append]; omega⟩
  have buffered : InputStream.addBuffer ⟨[], []⟩ (frame ++ frame') = ⟨[], frame ++ frame'⟩ := by
    simp [InputStream.addBuffer]
  have secondThere : (role.base between).inputStream.unread ≠ [] := by
    simpa [waiting] using secondSome
  simp only [nextHandshakeStep, completed, aborted, inProgress, Bool.not_true, Bool.false_eq_true, if_false,
    idle, buffered, base_setInputStream lawful, InputStream.remainingByteCount, more, decodeLoop, decoded]
  simp [secondThere, decoded', finished]

end Role

/-! ## Whole calls -/

namespace Role

/-- A completed handshaker ignores every call, and leaves the caller's string as
it was. -/
theorem nextHandshakeStep_of_completed {self : H} (completed : role.isHandshakeCompleted self = true)
    (incomingBytes outgoingBytes : List UInt8) :
    role.nextHandshakeStep env self incomingBytes outgoingBytes = (.COMPLETED, self, outgoingBytes) := by
  simp [nextHandshakeStep, completed]

/-- So does an aborted one. -/
theorem nextHandshakeStep_of_aborted {self : H} (notCompleted : role.isHandshakeCompleted self = false)
    (aborted : role.isHandshakeAborted self = true) (incomingBytes outgoingBytes : List UInt8) :
    role.nextHandshakeStep env self incomingBytes outgoingBytes = (.ABORTED, self, outgoingBytes) := by
  simp [nextHandshakeStep, notCompleted, aborted]

/-- The first call of a party that starts the handshake, with nothing from the
peer, is `StartHandshake`, when what it writes leaves nothing unread. -/
theorem nextHandshakeStep_start {self next : H} {result : EkepHandshakerResult} {output : List UInt8}
    (notCompleted : role.isHandshakeCompleted self = false) (notAborted : role.isHandshakeAborted self = false)
    (notStarted : role.isHandshakeInProgress self = false)
    (started : role.startHandshake self [] = (result, next, output))
    (drained : (role.base next).inputStream.remainingByteCount = 0) :
    role.nextHandshakeStep env self [] [] = (result, next, output) := by
  simp [nextHandshakeStep, notCompleted, notAborted, notStarted, started, checkUnexpectedBytes, drained]

end Role

end Decode

end Asylo.Ekep
