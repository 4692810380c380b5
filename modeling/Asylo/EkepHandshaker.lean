import Asylo.EkepMessages

/-! The base class `EkepHandshaker` of `grpc/auth/core/ekep_handshaker.cc`: its members,
the methods the two parties share, and `NextHandshakeStep` with the frame loop of
`DecodeAndHandleFrame`, over the virtual methods a `ClientEkepHandshaker` or a
`ServerEkepHandshaker` implements.

A party is a value of its own type `H`. Its virtual methods form a `Role`, whose
`base` and `setBase` reach the members of the base class. The string
`outgoing_bytes` that a call writes to travels with the handshaker: the methods
that write frames take it and give it back longer. The derived classes write
their handlers in `EStateM EkepError (H × List UInt8)`, where a failed
`Status` keeps what the handler changed before it failed, as the members do. -/
namespace Asylo.Ekep

open DcapVerifier (AssertionDescription Assertion)

/-- `EkepHandshaker::HandshakeState`. -/
inductive HandshakeState
  | NOT_STARTED
  | IN_PROGRESS
  | COMPLETED
  | ABORTED
  deriving DecidableEq, Repr

/-- The result `HandleHandshakeMessage` returns for the state it leaves. -/
def HandshakeState.result : HandshakeState → EkepHandshakerResult
  | .COMPLETED => .COMPLETED
  | .IN_PROGRESS => .IN_PROGRESS
  | _ => .ABORTED

/-- The members of the base class. `record_protocol_` is not initialized before
`SetRecordProtocol`, and read only once the handshake is complete. -/
structure EkepHandshakerBase (State EnclaveIdentity : Type) where
  maxFrameSize : Nat
  inputStream : InputStream
  transcript : Transcript State
  peerIdentities : List EnclaveIdentity
  recordProtocol : RecordProtocol
  recordProtocolKey : List UInt8

/-- What `EkepHandshaker(max_frame_size)` builds. -/
def EkepHandshakerBase.init {State EnclaveIdentity : Type} (maxFrameSize : Nat) :
    EkepHandshakerBase State EnclaveIdentity :=
  ⟨maxFrameSize, .empty, .empty, [], .UNKNOWN_RECORD_PROTOCOL, []⟩

/-- How a handshaker of type `H` holds the members of the base class. -/
structure BaseLens (H State EnclaveIdentity : Type) where
  base : H → EkepHandshakerBase State EnclaveIdentity
  setBase : H → EkepHandshakerBase State EnclaveIdentity → H

/-- The protocol's parts a handshaker takes from libraries and registries. -/
structure Environment (State EnclaveIdentity : Type) where
  codec : MessageCodec
  crypto : Crypto State
  authorities : AssertionAuthorities EnclaveIdentity

/-! ## The shared methods -/

section Shared

variable {H State EnclaveIdentity : Type} (lens : BaseLens H State EnclaveIdentity)
  (env : Environment State EnclaveIdentity)

/-- A handler of a derived class: it changes the handshaker and the outgoing bytes,
and fails with an `EkepError`. -/
abbrev HandlerM (H : Type) := EStateM EkepError (H × List UInt8)

/-- The handshaker a handler is running on. -/
def getSelf : HandlerM H H := do
  return (← get).1

def modifySelf (f : H → H) : HandlerM H Unit :=
  modify fun state => (f state.1, state.2)

/-- A failing `Status` of a call, returned by `ASYLO_RETURN_IF_ERROR`. -/
def liftStatus {α : Type} : Except EkepError α → HandlerM H α
  | .ok value => pure value
  | .error status => throw status

/-- `WriteFrameAndUpdateTranscript(message_type, handshake_message, output)`: the
frame goes to the outgoing bytes and to the transcript. -/
def writeFrameAndUpdateTranscript (messageType : HandshakeMessageType) (handshakeMessage : HandshakeMessage) :
    HandlerM H Unit := do
  let (self, output) ← get
  let frame ← liftStatus (encodeFrame env.codec (lens.base self).maxFrameSize messageType handshakeMessage)
  let base := lens.base self
  -- `UpdateTranscriptWithOutgoingBytes` adds a nonempty frame, as one block
  let transcript := if frame.length > 0 then base.transcript.add env.crypto.hasher (.stream [frame])
    else base.transcript
  set (lens.setBase self { base with transcript }, output ++ frame)

/-- `SetTranscriptHashFunction(new Sha256Hash())`; its result is not looked at. -/
def setTranscriptHashFunction : HandlerM H Unit :=
  modifySelf fun self =>
    let base := lens.base self
    lens.setBase self { base with transcript := (base.transcript.setHasher env.crypto.hasher env.crypto.newSha256Hash).2 }

/-- `GetTranscriptHash(&transcript_hash)`. -/
def getTranscriptHash : HandlerM H (List UInt8) := do
  match (lens.base (← getSelf)).transcript.hash env.crypto.hasher with
  | some transcriptHash => pure transcriptHash
  | none => throw ⟨.INTERNAL_ERROR, "Unable to retrieve transcript hash"⟩

/-- `AddPeerIdentity(identity)`. -/
def addPeerIdentity (identity : EnclaveIdentity) : HandlerM H Unit :=
  modifySelf fun self =>
    let base := lens.base self
    lens.setBase self { base with peerIdentities := base.peerIdentities ++ [identity] }

/-- `SetRecordProtocol(record_protocol)`. -/
def setRecordProtocol (recordProtocol : RecordProtocol) : HandlerM H Unit :=
  modifySelf fun self => lens.setBase self { lens.base self with recordProtocol }

/-- `DeriveAndSetRecordProtocolKey(cipher_suite, record_protocol, primary_secret)`,
from the hash of the transcript as it stands. -/
def deriveAndSetRecordProtocolKey (cipherSuite : HandshakeCipher) (recordProtocol : RecordProtocol)
    (primarySecret : List UInt8) : HandlerM H Unit := do
  let finalTranscriptHash ← getTranscriptHash lens env
  let recordProtocolKey ← liftStatus
    (deriveRecordProtocolKey env.crypto cipherSuite recordProtocol finalTranscriptHash primarySecret)
  modifySelf fun self => lens.setBase self { lens.base self with recordProtocolKey }

/-- The loop over the peer's assertions of `HandleServerId` and `HandleClientId`:
each must be one the handshaker still expects and must verify against the context
blob; its identity joins the peer identities, and its description leaves those
expected. `expected` and `setExpected` reach `expected_peer_assertions_`. -/
def verifyPeerAssertions (expected : H → List AssertionDescription)
    (setExpected : H → List AssertionDescription → H) (notExpected : String) (ekepContext : List UInt8) :
    List Assertion → HandlerM H Unit
  | [] => pure ()
  | assertion :: rest => do
    if !findAssertionDescription (expected (← getSelf)) assertion.description then
      throw ⟨.BAD_ASSERTION, notExpected⟩
    match (env.authorities.verifier assertion.description).verify ekepContext assertion with
    | .error _ => throw ⟨.BAD_ASSERTION, "Assertion could not be verified"⟩
    | .ok identity =>
      addPeerIdentity lens identity
      modifySelf fun self => setExpected self ((expected self).erase assertion.description)
      verifyPeerAssertions expected setExpected notExpected ekepContext rest

/-- The assertions a party generates for the requests, each bound to the context
blob; a generator that fails fails them all. -/
def generateAssertions (ekepContext : List UInt8) (requests : List AssertionRequest) :
    Except EkepError (List Assertion) :=
  requests.mapM fun request =>
    match (env.authorities.generator request.description).generate ekepContext request with
    | .ok assertion => .ok assertion
    | .error _ => .error ⟨.INTERNAL_ERROR, "Assertion generation failed"⟩

/-- The frame an `AbortHandshake(abort_status, output)` appends: an `Abort` with
the status's code and message. A frame that cannot be encoded is left out. -/
def abortFrame (maxFrameSize : Nat) (abortStatus : EkepError) (output : List UInt8) : List UInt8 :=
  match encodeFrame env.codec maxFrameSize .ABORT (.abort ⟨abortStatus.code, abortStatus.message⟩) with
  | .ok frame => output ++ frame
  | .error _ => output

/-- `UpdateTranscriptWithIncomingBytes()`: the bytes read since the last trim are
read again, from a rewound stream through a `LimitingInputStream`, into the
transcript, which leaves the read position where it was. -/
def updateTranscriptWithIncomingBytes (base : EkepHandshakerBase State EnclaveIdentity) :
    EkepHandshakerBase State EnclaveIdentity :=
  if base.inputStream.byteCount ≠ 0 then
    { base with transcript := base.transcript.add env.crypto.hasher (.stream [base.inputStream.consumed]) }
  else base

end Shared

/-- A status and the state a handler left, whether it failed or not. -/
def runStatus {H : Type} (handler : HandlerM H Unit) (self : H) (output : List UInt8) :
    Except EkepError Unit × H × List UInt8 :=
  match handler.run (self, output) with
  | .ok () (self, output) => (.ok (), self, output)
  | .error status (self, output) => (.error status, self, output)

/-- The `Abort` behind the `dynamic_cast` of a parsed `ABORT` message. -/
def HandshakeMessage.abortOf : HandshakeMessage → Option Abort
  | .abort message => some message
  | _ => none

/-! ## Stepping a handshaker -/

/-- The virtual methods of a derived class, with the base members of its
handshakers. -/
structure Role (H State EnclaveIdentity : Type) extends BaseLens H State EnclaveIdentity where
  isHandshakeInProgress : H → Bool
  isHandshakeCompleted : H → Bool
  isHandshakeAborted : H → Bool
  getExpectedMessageType : H → HandshakeMessageType
  startHandshake : H → List UInt8 → EkepHandshakerResult × H × List UInt8
  abortHandshake : H → EkepError → List UInt8 → H × List UInt8
  handleHandshakeMessage : H → HandshakeMessageType → HandshakeMessage → List UInt8 →
    EkepHandshakerResult × H × List UInt8
  handleAbortMessage : H → Option Abort → H

namespace Role

variable {H State EnclaveIdentity : Type} (role : Role H State EnclaveIdentity)
  (env : Environment State EnclaveIdentity)

/-- The handshaker with its input stream replaced. -/
def setInputStream (self : H) (inputStream : InputStream) : H :=
  role.setBase self { role.base self with inputStream }

/-- `AbortHandshake` and a result of `ABORTED`. -/
def aborted (self : H) (abortStatus : EkepError) (output : List UInt8) : EkepHandshakerResult × H × List UInt8 :=
  let (self, output) := role.abortHandshake self abortStatus output
  (.ABORTED, self, output)

/-- `DecodeAndHandleFrame(output)`: one frame of the input stream, when all of it
is there. -/
def decodeAndHandleFrame (self : H) (output : List UInt8) : EkepHandshakerResult × H × List UInt8 :=
  let base := role.base self
  if base.inputStream.remainingByteCount < kEkepFrameHeaderSize then (.NOT_ENOUGH_DATA, self, output)
  else
    -- from here on a header that does not parse is fatal
    let (header, inputStream) := parseFrameHeader base.maxFrameSize base.inputStream
    let self := role.setInputStream self inputStream
    match header with
    | .error status => role.aborted self status output
    | .ok (messageSize, messageType) =>
      if messageType ≠ role.getExpectedMessageType self ∧ messageType ≠ .ABORT then
        role.aborted self ⟨.PROTOCOL_ERROR, "Unexpected message"⟩ output
      else if inputStream.remainingByteCount < messageSize then
        -- the frame is not consumed: the stream goes back to its start
        (.NOT_ENOUGH_DATA, role.setInputStream self inputStream.rewind, output)
      else
        let (parsed, inputStream) := parseFrameMessage env.codec messageSize inputStream messageType
        let self := role.setInputStream self inputStream
        match parsed with
        | .error status =>
          if messageType = .ABORT then (.ABORTED, role.handleAbortMessage self none, output)
          else role.aborted self status output
        | .ok message =>
          if messageType = .ABORT then (.ABORTED, role.handleAbortMessage self message.abortOf, output)
          else
            -- the consumed frame goes to the transcript and leaves the stream
            let base := updateTranscriptWithIncomingBytes env (role.base self)
            let self := role.setBase self { base with inputStream := base.inputStream.trimFront }
            role.handleHandshakeMessage self messageType message output

/-- The `do ... while` loop of `NextHandshakeStep`: frames are handled while bytes
remain and no response has been written. A round that goes on has consumed a frame
of at least `kEkepFrameHeaderSize` bytes, so `fuel` rounds, one more than the bytes
there are, never run out. -/
def decodeLoop : Nat → H → List UInt8 → EkepHandshakerResult × H × List UInt8
  | 0, self, output => (.IN_PROGRESS, self, output)
  | fuel + 1, self, output =>
    let (result, self, output) := role.decodeAndHandleFrame env self output
    if result ≠ .IN_PROGRESS then (result, self, output)
    else if (role.base self).inputStream.remainingByteCount ≠ 0 ∧ output.isEmpty then
      decodeLoop fuel self output
    else (result, self, output)

/-- The end of `NextHandshakeStep`: a response written while bytes remain is not
allowed at any step. -/
def checkUnexpectedBytes (result : EkepHandshakerResult) (self : H) (output : List UInt8) :
    EkepHandshakerResult × H × List UInt8 :=
  if !output.isEmpty ∧ (role.base self).inputStream.remainingByteCount ≠ 0 then
    role.aborted self ⟨.BAD_MESSAGE, "Received unexpected bytes"⟩ []
  else (result, self, output)

/-- `NextHandshakeStep(incoming_bytes, incoming_bytes_size, outgoing_bytes)`, with
the `outgoing_bytes` the caller passes in. -/
def nextHandshakeStep (self : H) (incomingBytes outgoingBytes : List UInt8) :
    EkepHandshakerResult × H × List UInt8 :=
  if role.isHandshakeCompleted self then (.COMPLETED, self, outgoingBytes)
  else if role.isHandshakeAborted self then (.ABORTED, self, outgoingBytes)
  else
    if !role.isHandshakeInProgress self then
      if incomingBytes.length ≠ 0 then
        -- the peer sent bytes before the handshake started
        role.aborted self ⟨.BAD_MESSAGE, "Received bytes from peer before handshake was started"⟩ []
      else
        let (result, self, output) := role.startHandshake self []
        role.checkUnexpectedBytes result self output
    else
      let self := role.setInputStream self ((role.base self).inputStream.addBuffer incomingBytes)
      let (result, self, output) :=
        role.decodeLoop env ((role.base self).inputStream.remainingByteCount + 1) self []
      if result ≠ .IN_PROGRESS then (result, self, output)
      else role.checkUnexpectedBytes result self output

/-- The handshaker as its getters see it: `GetUnusedBytes`, `GetPeerIdentities`,
`GetRecordProtocol` and `GetRecordProtocolKey` are those of this view. -/
def view (self : H) : EkepHandshaker EnclaveIdentity :=
  let base := role.base self
  ⟨role.isHandshakeCompleted self, base.inputStream.remainingBytes, base.recordProtocol, base.recordProtocolKey,
    base.peerIdentities⟩

end Role

end Asylo.Ekep
