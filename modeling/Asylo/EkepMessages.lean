import Asylo.DcapVerifier
import Asylo.EnclaveAuthContext
import Asylo.Transcript

/-! The messages of the Enclave Key Exchange Protocol (`grpc/auth/core/handshake.proto`),
their frames (`EkepHandshaker::EncodeFrame`, `ParseFrameHeader` and
`ParseFrameMessage` of `grpc/auth/core/ekep_handshaker.cc`), the errors of
`ekep_errors.cc`, the options and helpers of `ekep_handshaker_util.cc` and the key
schedule of `ekep_crypto.cc`.

What the handshaker takes from libraries is a parameter with no property assumed of
it: protobuf's serialization of the messages (`MessageCodec`), BoringSSL's X25519,
HKDF and HMAC with the SHA-256 object of the transcript (`Crypto`), and the
assertion generators and verifiers of the authority registries
(`AssertionAuthorities`). A proto2 field that the code reads without asking for its
presence is its value, or the default when it is unset. -/
namespace Asylo

/-- `ProtoEnumValueName` of a `RecordProtocol`. -/
def RecordProtocol.name : RecordProtocol → String
  | .UNKNOWN_RECORD_PROTOCOL => "UNKNOWN_RECORD_PROTOCOL"
  | .ALTSRP_AES128_GCM => "ALTSRP_AES128_GCM"

namespace Ekep

open DcapVerifier (AssertionDescription Assertion EnclaveIdentityType kSha256DigestLength)

/-! ## Enumerations -/

/-- `HandshakeMessageType`. -/
inductive HandshakeMessageType
  | UNKNOWN_HANDSHAKE_MESSAGE
  | ABORT
  | CLIENT_PRECOMMIT
  | SERVER_PRECOMMIT
  | CLIENT_ID
  | SERVER_ID
  | SERVER_FINISH
  | CLIENT_FINISH
  deriving DecidableEq, Repr

namespace HandshakeMessageType

/-- The enumerator's value. -/
def number : HandshakeMessageType → Nat
  | UNKNOWN_HANDSHAKE_MESSAGE => 0
  | ABORT => 100
  | CLIENT_PRECOMMIT => 101
  | SERVER_PRECOMMIT => 102
  | CLIENT_ID => 103
  | SERVER_ID => 104
  | SERVER_FINISH => 105
  | CLIENT_FINISH => 106

/-- The enumerators, in the order of the `.proto` file. -/
def all : List HandshakeMessageType :=
  [UNKNOWN_HANDSHAKE_MESSAGE, ABORT, CLIENT_PRECOMMIT, SERVER_PRECOMMIT, CLIENT_ID, SERVER_ID, SERVER_FINISH,
    CLIENT_FINISH]

/-- `HandshakeMessageType_IsValid(value)` and the cast that follows it: the
enumerator whose value is `value`, if there is one. -/
def ofNumber? (value : Nat) : Option HandshakeMessageType :=
  all.find? fun messageType => messageType.number == value

end HandshakeMessageType

/-- `HandshakeCipher`. -/
inductive HandshakeCipher
  | UNKNOWN_HANDSHAKE_CIPHER
  | CURVE25519_SHA256
  deriving DecidableEq, Repr

/-- `ProtoEnumValueName` of a `HandshakeCipher`. -/
def HandshakeCipher.name : HandshakeCipher → String
  | .UNKNOWN_HANDSHAKE_CIPHER => "UNKNOWN_HANDSHAKE_CIPHER"
  | .CURVE25519_SHA256 => "CURVE25519_SHA256"

/-- `Abort::ErrorCode`. -/
inductive AbortErrorCode
  | UNKNOWN_ERROR_CODE
  | BAD_MESSAGE
  | DESERIALIZATION_FAILED
  | BAD_PROTOCOL_VERSION
  | BAD_HANDSHAKE_CIPHER
  | BAD_RECORD_PROTOCOL
  | BAD_AUTHENTICATOR
  | BAD_ASSERTION_TYPE
  | BAD_ASSERTION
  | PROTOCOL_ERROR
  | INTERNAL_ERROR
  deriving DecidableEq, Repr

/-- `EnclaveIdentityType_Name`. -/
def identityTypeName : EnclaveIdentityType → String
  | .unknownIdentity => "UNKNOWN_IDENTITY"
  | .nullIdentity => "NULL_IDENTITY"
  | .codeIdentity => "CODE_IDENTITY"
  | .certIdentity => "CERT_IDENTITY"

/-! ## Messages -/

/-- `AssertionOffer` (`identity/identity.proto`). -/
structure AssertionOffer where
  description : AssertionDescription
  additionalInformation : List UInt8
  deriving DecidableEq, Repr

/-- `AssertionRequest`. -/
structure AssertionRequest where
  description : AssertionDescription
  additionalInformation : List UInt8
  deriving DecidableEq, Repr

/-- `Abort`. -/
structure Abort where
  code : AbortErrorCode
  message : String
  deriving DecidableEq, Repr

/-- `ClientPrecommit`; `options` is the `data` of its `AdditionalAuthenticatedData`
when that field is set, and each `EkepVersion` is its name. -/
structure ClientPrecommit where
  availableEkepVersions : List String
  availableCipherSuites : List HandshakeCipher
  availableRecordProtocols : List RecordProtocol
  options : Option (List UInt8)
  clientOffers : List AssertionOffer
  clientRequests : List AssertionRequest
  challenge : List UInt8
  deriving DecidableEq, Repr

/-- `ServerPrecommit`. -/
structure ServerPrecommit where
  selectedEkepVersion : String
  selectedCipherSuite : HandshakeCipher
  selectedRecordProtocol : RecordProtocol
  options : Option (List UInt8)
  serverOffers : List AssertionOffer
  serverRequests : List AssertionRequest
  challenge : List UInt8
  deriving DecidableEq, Repr

/-- `ClientId`. -/
structure ClientId where
  dhPublicKey : List UInt8
  assertions : List Assertion
  deriving DecidableEq, Repr

/-- `ServerId`. -/
structure ServerId where
  dhPublicKey : List UInt8
  assertions : List Assertion
  deriving DecidableEq, Repr

/-- `ServerFinish`. -/
structure ServerFinish where
  handshakeAuthenticator : List UInt8
  deriving DecidableEq, Repr

/-- `ClientFinish`. -/
structure ClientFinish where
  handshakeAuthenticator : List UInt8
  deriving DecidableEq, Repr

/-- A handshake message, of the class `CreateHandshakeMessage` makes for its type. -/
inductive HandshakeMessage
  | abort (message : Abort)
  | clientPrecommit (message : ClientPrecommit)
  | serverPrecommit (message : ServerPrecommit)
  | clientId (message : ClientId)
  | serverId (message : ServerId)
  | serverFinish (message : ServerFinish)
  | clientFinish (message : ClientFinish)
  deriving DecidableEq, Repr

/-- The type of a message, as its frame announces it. -/
def HandshakeMessage.messageType : HandshakeMessage → HandshakeMessageType
  | .abort _ => .ABORT
  | .clientPrecommit _ => .CLIENT_PRECOMMIT
  | .serverPrecommit _ => .SERVER_PRECOMMIT
  | .clientId _ => .CLIENT_ID
  | .serverId _ => .SERVER_ID
  | .serverFinish _ => .SERVER_FINISH
  | .clientFinish _ => .CLIENT_FINISH

/-- Protocol-buffer serialization of the handshake messages. `ByteSizeLong` and
`SerializeWithCachedSizes` write `serialize`; `ParseFromBoundedZeroCopyStream`, on
the message `CreateHandshakeMessage` made for a type, reads one from exactly the
bytes it is bounded to, or fails. -/
structure MessageCodec where
  serialize : HandshakeMessage → List UInt8
  parse : HandshakeMessageType → List UInt8 → Option HandshakeMessage

/-! ## Errors and frames -/

/-- The status `EkepError(code, message)`: an internal error whose `Abort`
payload has the code `code`, which `GetEkepErrorCode` reads back. -/
structure EkepError where
  code : AbortErrorCode
  message : String
  deriving DecidableEq, Repr

def kEkepFrameHeaderSize : Nat := 8
def kEkepChallengeSize : Nat := 32
/-- `EkepHandshaker::kFrameSizeLimit`. -/
def kFrameSizeLimit : Nat := 2 ^ 30
/-- `sizeof(HandshakeMessageType)`: the width of the type field of a frame. -/
def kMessageTypeSize : Nat := 4

/-- `EncodeFrame(message_type, handshake_message, output)`: the frame it appends to
`output`, its size and type in 32 little-endian bits each and then the message. A
frame larger than `maxFrameSize`, or of type `UNKNOWN_HANDSHAKE_MESSAGE`, writes
nothing. -/
def encodeFrame (codec : MessageCodec) (maxFrameSize : Nat) (messageType : HandshakeMessageType)
    (handshakeMessage : HandshakeMessage) : Except EkepError (List UInt8) :=
  let messageSize := (codec.serialize handshakeMessage).length
  if messageSize > maxFrameSize ∨ kMessageTypeSize + messageSize > maxFrameSize then
    .error ⟨.INTERNAL_ERROR, "Attempting to create frame that exceeds max frame size of " ++ toString maxFrameSize⟩
  else if messageType = .UNKNOWN_HANDSHAKE_MESSAGE then
    .error ⟨.INTERNAL_ERROR, "Cannot create a frame with message type UNKNOWN_HANDSHAKE_MESSAGE"⟩
  else
    .ok (LittleEndian.encode 4 (kMessageTypeSize + messageSize) ++ LittleEndian.encode 4 messageType.number ++
      codec.serialize handshakeMessage)

/-- `input_stream_` as the handshaker reads it through protobuf's streams: the bytes
added since the last `TrimFront()`, split at the read position. -/
structure InputStream where
  consumed : List UInt8
  unread : List UInt8
  deriving DecidableEq, Repr

namespace InputStream

variable (input : InputStream)

def empty : InputStream := ⟨[], []⟩

/-- `AddBuffer(data, size)`. -/
def addBuffer (data : List UInt8) : InputStream := { input with unread := input.unread ++ data }

/-- `RemainingByteCount()`. -/
def remainingByteCount : Nat := input.unread.length

/-- `ByteCount()`: the bytes read since the last `TrimFront()`. -/
def byteCount : Nat := input.consumed.length

/-- `Rewind()`. -/
def rewind : InputStream := ⟨[], input.consumed ++ input.unread⟩

/-- `TrimFront()`. -/
def trimFront : InputStream := ⟨[], input.unread⟩

/-- `RemainingBytes()`. -/
def remainingBytes : List UInt8 := input.unread

/-- `count` bytes read from the position on, as a `CodedInputStream` over the
stream reads them; `none` when fewer remain. -/
def read (count : Nat) : Option (List UInt8 × InputStream) :=
  if count ≤ input.unread.length then
    some (input.unread.take count, ⟨input.consumed ++ input.unread.take count, input.unread.drop count⟩)
  else none

end InputStream

/-- `ParseFrameHeader(input, &message_size, &message_type)`: the size of the
message and its type, with the stream after the bytes it read. -/
def parseFrameHeader (maxFrameSize : Nat) (input : InputStream) :
    Except EkepError (Nat × HandshakeMessageType) × InputStream :=
  match input.read 4 with
  | none => (.error ⟨.BAD_MESSAGE, "Failed to read frame size"⟩, input)
  | some (sizeBytes, input) =>
    let frameSize := LittleEndian.decode sizeBytes
    if frameSize < kMessageTypeSize ∨ frameSize > maxFrameSize then
      (.error ⟨.BAD_MESSAGE, "Invalid frame size: " ++ toString frameSize⟩, input)
    else
      match input.read 4 with
      | none => (.error ⟨.BAD_MESSAGE, "Failed to read frame message type"⟩, input)
      | some (typeBytes, input) =>
        let messageTypeEncoded := LittleEndian.decode typeBytes
        match HandshakeMessageType.ofNumber? messageTypeEncoded with
        | none => (.error ⟨.BAD_MESSAGE, "Invalid frame message type: " ++ toString messageTypeEncoded⟩, input)
        | some .UNKNOWN_HANDSHAKE_MESSAGE =>
          (.error ⟨.BAD_MESSAGE, "Received frame with UNKNOWN_HANDSHAKE_MESSAGE type"⟩, input)
        | some messageType => (.ok (frameSize - kMessageTypeSize, messageType), input)

/-- `ParseFrameMessage(message_size, input, message)`, on the message that
`CreateHandshakeMessage(message_type)` made; the caller has checked that
`messageSize` bytes remain. -/
def parseFrameMessage (codec : MessageCodec) (messageSize : Nat) (input : InputStream)
    (messageType : HandshakeMessageType) : Except EkepError HandshakeMessage × InputStream :=
  let body := input.unread.take messageSize
  let input : InputStream := ⟨input.consumed ++ body, input.unread.drop messageSize⟩
  match codec.parse messageType body with
  | some message => (.ok message, input)
  | none => (.error ⟨.DESERIALIZATION_FAILED, "Failed to deserialize handshake message"⟩, input)

/-! ## Options and assertion authorities -/

/-- An `EnclaveAssertionGenerator`: the offer `CreateAssertionOffer` writes with the
status it returns, `CanGenerate`, and `Generate(user_data, request, &assertion)`. -/
structure AssertionGenerator where
  createAssertionOffer : StatusOr Unit × AssertionOffer
  canGenerate : AssertionRequest → StatusOr Bool
  generate : List UInt8 → AssertionRequest → StatusOr Assertion

/-- An `EnclaveAssertionVerifier`: the request `CreateAssertionRequest` writes with
its status, `CanVerify`, and `Verify(user_data, assertion, &identity)`. -/
structure AssertionVerifier (EnclaveIdentity : Type) where
  createAssertionRequest : StatusOr Unit × AssertionRequest
  canVerify : AssertionOffer → StatusOr Bool
  verify : List UInt8 → Assertion → StatusOr EnclaveIdentity

/-- `AssertionGeneratorMap` and `AssertionVerifierMap`, keyed by the authority id of
a description, which `GenerateAuthorityId` serializes from the description and so
determines it: which descriptions have an authority, and the authority
`GetEnclaveAssertionGenerator` and `GetEnclaveAssertionVerifier` return. The
handshaker only asks for those of descriptions its options name, which
`Validate()` has found in the maps. -/
structure AssertionAuthorities (EnclaveIdentity : Type) where
  hasGenerator : AssertionDescription → Bool
  hasVerifier : AssertionDescription → Bool
  generator : AssertionDescription → AssertionGenerator
  verifier : AssertionDescription → AssertionVerifier EnclaveIdentity

/-- `EkepHandshakerOptions`. -/
structure EkepHandshakerOptions where
  maxFrameSize : Nat := 2 ^ 20
  selfAssertions : List AssertionDescription
  acceptedPeerAssertions : List AssertionDescription
  additionalAuthenticatedData : List UInt8

/-- The bytes of a string. -/
def stringBytes (text : String) : List UInt8 := text.toUTF8.toList

/-- `EnclaveAssertionAuthority::GenerateAuthorityId(identity_type, authority_type)`. -/
def generateAuthorityId (description : AssertionDescription) : StatusOr (List UInt8) :=
  match serializeByteContainers [stringBytes (identityTypeName description.identityType),
      stringBytes description.authorityType] with
  | (.ok (), serialized) => .ok serialized
  | (.error status, _) => .error status

/-- `ShortDebugString()` of a description, for an authority type of printable
characters other than a quote and a backslash, which the text format escapes. -/
def shortDebugString (description : AssertionDescription) : String :=
  "identity_type: " ++ identityTypeName description.identityType ++ " authority_type: \"" ++
    description.authorityType ++ "\""

/-- The check of `Validate()` that each description has an authority of its
kind in the registry. -/
def validateAuthorities (registered : AssertionDescription → Bool) (library : String) :
    List AssertionDescription → StatusOr Unit
  | [] => .ok ()
  | description :: rest =>
    match generateAuthorityId description with
    | .error _ => .error ⟨.internal, "Failed to generate authority id"⟩
    | .ok _ =>
      if registered description then validateAuthorities registered library rest
      else .error ⟨.invalidArgument, "Could not find " ++ library ++ " library for: \x7b" ++
        shortDebugString description ++ "\x7d"⟩

/-- `EkepHandshakerOptions::Validate()`. -/
def EkepHandshakerOptions.validate {EnclaveIdentity : Type} (authorities : AssertionAuthorities EnclaveIdentity)
    (options : EkepHandshakerOptions) : StatusOr Unit := do
  if options.maxFrameSize > kFrameSizeLimit then
    throw ⟨.invalidArgument, "max_frame_size cannot exceed " ++ toString kFrameSizeLimit⟩
  if options.additionalAuthenticatedData.length > options.maxFrameSize then
    throw ⟨.invalidArgument, "additional_authenticated_data size cannot be more than max_frame_size"⟩
  if options.selfAssertions.isEmpty then
    throw ⟨.invalidArgument, "Must supply at least one self assertion"⟩
  if options.acceptedPeerAssertions.isEmpty then
    throw ⟨.invalidArgument, "Must supply at least one accepted peer assertion"⟩
  validateAuthorities authorities.hasGenerator "EnclaveAssertionGenerator" options.selfAssertions
  validateAuthorities authorities.hasVerifier "EnclaveAssertionVerifier" options.acceptedPeerAssertions

/-- `FindAssertionDescription(list, description) != list.cend()`:
`MessageDifferencer::Equals` is the equality of descriptions. -/
def findAssertionDescription (list : List AssertionDescription) (description : AssertionDescription) : Bool :=
  list.contains description

/-- `MakeEkepContextBlob(public_key, transcript_hash, &ekep_context)`: the
serialization of the two, or `none` where it returns false. -/
def makeEkepContextBlob (publicKey transcriptHash : List UInt8) : Option (List UInt8) :=
  match serializeByteContainers [publicKey, transcriptHash] with
  | (.ok (), serialized) => some serialized
  | (.error _, _) => none

/-! ## The key schedule -/

/-- What the key exchange takes from BoringSSL: the public half of
`X25519_keypair` for a private key, `X25519`, `HKDF` and `HMAC` with SHA-256, and
the object of a new `Sha256Hash` with the `HashInterface` it implements. A `none`
is a call that returns failure. -/
structure Crypto (State : Type) where
  hasher : HashInterface State
  newSha256Hash : State
  x25519PublicFromPrivate : UnsafeBytes 32 → UnsafeBytes 32
  x25519 : List UInt8 → List UInt8 → Option (UnsafeBytes 32)
  hkdfSha256 : (outLength : Nat) → List UInt8 → List UInt8 → List UInt8 → Option (UnsafeBytes outLength)
  hmacSha256 : List UInt8 → List UInt8 → Option (UnsafeBytes kSha256DigestLength)

def X25519_PUBLIC_VALUE_LEN : Nat := 32
def X25519_PRIVATE_KEY_LEN : Nat := 32
def kEkepPrimarySecretSize : Nat := 64
def kEkepAuthenticatorSecretSize : Nat := 64
def kEkepSecretSize : Nat := kEkepPrimarySecretSize + kEkepAuthenticatorSecretSize
def kAltsRecordProtocolAes128GcmKeySize : Nat := 16
def kEkepHkdfSalt : String := "EKEP Handshake v1"
def kEkepHkdfSaltRecordProtocol : String := "EKEP Record Protocol v1"
def kServerAuthenticatedText : String := "EKEP Handshake v1: Server Finish"
def kClientAuthenticatedText : String := "EKEP Handshake v1: Client Finish"

section KeySchedule

variable {State : Type} (crypto : Crypto State)

/-- The error of a cipher suite that the key schedule does not support. -/
def unsupportedCiphersuite (ciphersuite : HandshakeCipher) : EkepError :=
  ⟨.BAD_HANDSHAKE_CIPHER, "Ciphersuite not supported: " ++ ciphersuite.name⟩

/-- `Hmac(ciphersuite, key, authenticated_text, &mac)`. -/
def hmac (ciphersuite : HandshakeCipher) (key authenticatedText : List UInt8) : Except EkepError (List UInt8) :=
  match ciphersuite with
  | .CURVE25519_SHA256 =>
    match crypto.hmacSha256 key authenticatedText with
    | some mac => .ok mac.1
    | none => .error ⟨.INTERNAL_ERROR, "Internal error"⟩
  | ciphersuite => .error (unsupportedCiphersuite ciphersuite)

/-- `DeriveSecrets(ciphersuite, transcript_hash, peer_dh_public_key,
self_dh_private_key, &primary_secret, &authenticator_secret)`: the two secrets it
appends to its outputs. -/
def deriveSecrets (ciphersuite : HandshakeCipher) (transcriptHash peerDhPublicKey selfDhPrivateKey : List UInt8) :
    Except EkepError (List UInt8 × List UInt8) :=
  match ciphersuite with
  | .CURVE25519_SHA256 =>
    if peerDhPublicKey.length ≠ X25519_PUBLIC_VALUE_LEN then
      .error ⟨.PROTOCOL_ERROR, "Public parameter has incorrect size: " ++ toString peerDhPublicKey.length⟩
    else if selfDhPrivateKey.length ≠ X25519_PRIVATE_KEY_LEN then
      .error ⟨.INTERNAL_ERROR, "Private parameter has incorrect size: " ++ toString selfDhPrivateKey.length⟩
    else
      match crypto.x25519 selfDhPrivateKey peerDhPublicKey with
      | none => .error ⟨.INTERNAL_ERROR, "Internal error"⟩
      | some sharedSecret =>
        match crypto.hkdfSha256 kEkepSecretSize sharedSecret.1 (stringBytes kEkepHkdfSalt) transcriptHash with
        | none => .error ⟨.INTERNAL_ERROR, "Internal error"⟩
        | some outputKey =>
          .ok (outputKey.1.take kEkepPrimarySecretSize, outputKey.1.drop kEkepPrimarySecretSize)
  | ciphersuite => .error (unsupportedCiphersuite ciphersuite)

/-- `DeriveRecordProtocolKey(ciphersuite, record_protocol, transcript_hash,
primary_secret, &record_protocol_key)`: the key, on success. Where it fails, the
key holds bytes that nothing reads, as the handshaker is then aborted. -/
def deriveRecordProtocolKey (ciphersuite : HandshakeCipher) (recordProtocol : RecordProtocol)
    (transcriptHash primarySecret : List UInt8) : Except EkepError (List UInt8) :=
  match ciphersuite with
  | .CURVE25519_SHA256 =>
    match recordProtocol with
    | .ALTSRP_AES128_GCM =>
      match crypto.hkdfSha256 kAltsRecordProtocolAes128GcmKeySize primarySecret
          (stringBytes kEkepHkdfSaltRecordProtocol) transcriptHash with
      | none => .error ⟨.INTERNAL_ERROR, "Internal error"⟩
      | some key => .ok key.1
    | recordProtocol => .error ⟨.BAD_RECORD_PROTOCOL, "Record protocol not supported " ++ recordProtocol.name⟩
  | ciphersuite => .error (unsupportedCiphersuite ciphersuite)

/-- `ComputeClientHandshakeAuthenticator`. -/
def computeClientHandshakeAuthenticator (ciphersuite : HandshakeCipher) (authenticatorSecret : List UInt8) :
    Except EkepError (List UInt8) :=
  hmac crypto ciphersuite authenticatorSecret (stringBytes kClientAuthenticatedText)

/-- `ComputeServerHandshakeAuthenticator`. -/
def computeServerHandshakeAuthenticator (ciphersuite : HandshakeCipher) (authenticatorSecret : List UInt8) :
    Except EkepError (List UInt8) :=
  hmac crypto ciphersuite authenticatorSecret (stringBytes kServerAuthenticatedText)

end KeySchedule

/-- `CheckMacEquality(mac1, mac2)`: the sizes, then `CRYPTO_memcmp`. -/
def checkMacEquality (mac1 mac2 : List UInt8) : Bool :=
  if mac1.length ≠ mac2.length then false else mac1 == mac2

end Ekep

end Asylo
