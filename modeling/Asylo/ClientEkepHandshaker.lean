import Asylo.EkepHandshaker

/-! `ClientEkepHandshaker` (`grpc/auth/core/client_ekep_handshaker.cc`): the party
that starts the handshake. It sends `ClientPrecommit`, takes the server's
selections and assertion negotiation from `ServerPrecommit` and answers with
`ClientId`, checks the server's assertions in `ServerId`, and checks the server's
authenticator in `ServerFinish` before it sends `ClientFinish` and completes.

The random bytes a handshaker draws, its challenge and the private key of its
X25519 pair, are given to it when it is built (`Randomness`); it draws each once. -/
namespace Asylo.Ekep

open DcapVerifier (AssertionDescription Assertion)

/-- What `RAND_bytes` and `X25519_keypair` give a handshaker: the challenge, or
`none` where `RAND_bytes` fails, and the private key of its ephemeral pair. -/
structure Randomness where
  challenge : Option (UnsafeBytes kEkepChallengeSize)
  dhPrivateKey : UnsafeBytes X25519_PRIVATE_KEY_LEN

/-- The members of a `ClientEkepHandshaker`. -/
structure ClientEkepHandshaker (State EnclaveIdentity : Type) where
  base : EkepHandshakerBase State EnclaveIdentity
  selfAssertions : List AssertionDescription
  acceptedPeerAssertions : List AssertionDescription
  availableCipherSuites : List HandshakeCipher
  availableRecordProtocols : List RecordProtocol
  availableEkepVersions : List String
  additionalAuthenticatedData : List UInt8
  expectedPeerAssertions : List AssertionDescription
  selectedCipherSuite : HandshakeCipher
  selectedRecordProtocol : RecordProtocol
  selectedEkepVersion : String
  dhPublicKey : List UInt8
  dhPrivateKey : List UInt8
  authenticatorSecret : List UInt8
  primarySecret : List UInt8
  serverAssertionTranscript : List UInt8
  expectedMessageType : HandshakeMessageType
  handshakerState : HandshakeState
  randomness : Randomness

namespace ClientEkepHandshaker

variable {State EnclaveIdentity : Type} (env : Environment State EnclaveIdentity)

/-- The constructor `ClientEkepHandshaker(options)`. -/
def init (options : EkepHandshakerOptions) (randomness : Randomness) : ClientEkepHandshaker State EnclaveIdentity where
  base := .init options.maxFrameSize
  selfAssertions := options.selfAssertions
  acceptedPeerAssertions := options.acceptedPeerAssertions
  availableCipherSuites := [.CURVE25519_SHA256]
  availableRecordProtocols := [.ALTSRP_AES128_GCM]
  availableEkepVersions := ["EKEP v1"]
  additionalAuthenticatedData := options.additionalAuthenticatedData
  expectedPeerAssertions := []
  selectedCipherSuite := .UNKNOWN_HANDSHAKE_CIPHER
  selectedRecordProtocol := .UNKNOWN_RECORD_PROTOCOL
  selectedEkepVersion := ""
  dhPublicKey := []
  dhPrivateKey := []
  authenticatorSecret := []
  primarySecret := []
  serverAssertionTranscript := []
  expectedMessageType := .SERVER_PRECOMMIT
  handshakerState := .NOT_STARTED
  randomness := randomness

/-- `ClientEkepHandshaker::Create(options)`: `none` for `nullptr`. -/
def create (options : EkepHandshakerOptions) (randomness : Randomness) :
    Option (ClientEkepHandshaker State EnclaveIdentity) :=
  match options.validate env.authorities with
  | .ok () => some (init options randomness)
  | .error _ => none

/-- Where a client keeps the members of the base class. -/
def lens : BaseLens (ClientEkepHandshaker State EnclaveIdentity) State EnclaveIdentity :=
  ⟨base, fun self base => { self with base }⟩

/-- A client's handlers. -/
abbrev ClientM (State EnclaveIdentity : Type) := HandlerM (ClientEkepHandshaker State EnclaveIdentity)

def isHandshakeInProgress (self : ClientEkepHandshaker State EnclaveIdentity) : Bool :=
  self.handshakerState = .IN_PROGRESS

def isHandshakeCompleted (self : ClientEkepHandshaker State EnclaveIdentity) : Bool :=
  self.handshakerState = .COMPLETED

def isHandshakeAborted (self : ClientEkepHandshaker State EnclaveIdentity) : Bool :=
  self.handshakerState = .ABORTED

/-- `GetExpectedMessageType()`. -/
def getExpectedMessageType (self : ClientEkepHandshaker State EnclaveIdentity) : HandshakeMessageType :=
  if !isHandshakeInProgress self then .UNKNOWN_HANDSHAKE_MESSAGE else self.expectedMessageType

/-- `AbortHandshake(abort_status, output)`. -/
def abortHandshake (self : ClientEkepHandshaker State EnclaveIdentity) (abortStatus : EkepError)
    (output : List UInt8) : ClientEkepHandshaker State EnclaveIdentity × List UInt8 :=
  ({ self with handshakerState := .ABORTED }, abortFrame env self.base.maxFrameSize abortStatus output)

/-- `HandleAbortMessage(abort_message)`. -/
def handleAbortMessage (self : ClientEkepHandshaker State EnclaveIdentity) (_abortMessage : Option Abort) :
    ClientEkepHandshaker State EnclaveIdentity :=
  { self with handshakerState := .ABORTED }

/-- `SetSelectedEkepVersion(ekep_version)`: a version the client offered. -/
def setSelectedEkepVersion (ekepVersion : String) : ClientM State EnclaveIdentity Bool := do
  if ekepVersion ∈ (← getSelf).availableEkepVersions then
    modifySelf fun self => { self with selectedEkepVersion := ekepVersion }
    pure true
  else pure false

/-- `SetSelectedCipherSuite(cipher_suite)`. -/
def setSelectedCipherSuite (cipherSuite : HandshakeCipher) : ClientM State EnclaveIdentity Bool := do
  if cipherSuite ∈ (← getSelf).availableCipherSuites then
    modifySelf fun self => { self with selectedCipherSuite := cipherSuite }
    pure true
  else pure false

/-- `SetSelectedRecordProtocol(record_protocol)`, which also sets the base class's. -/
def setSelectedRecordProtocol (recordProtocol : RecordProtocol) : ClientM State EnclaveIdentity Bool := do
  if recordProtocol ∈ (← getSelf).availableRecordProtocols then
    modifySelf fun self => { self with selectedRecordProtocol := recordProtocol }
    setRecordProtocol lens recordProtocol
    pure true
  else pure false

/-- The offers of a `ClientPrecommit`: one from each self assertion's generator. -/
def createAssertionOffers (descriptions : List AssertionDescription) : Except EkepError (List AssertionOffer) :=
  descriptions.mapM fun description =>
    match (env.authorities.generator description).createAssertionOffer with
    | (.ok (), offer) => .ok offer
    | (.error _, _) => .error ⟨.INTERNAL_ERROR, "Failed to create assertion offer"⟩

/-- The requests of a `ClientPrecommit`: one from each accepted peer assertion's
verifier. -/
def createAssertionRequests (descriptions : List AssertionDescription) : Except EkepError (List AssertionRequest) :=
  descriptions.mapM fun description =>
    match (env.authorities.verifier description).createAssertionRequest with
    | (.ok (), request) => .ok request
    | (.error _, _) => .error ⟨.INTERNAL_ERROR, "Failed to create assertion request"⟩

/-- `WriteClientPrecommit(output)`. -/
def writeClientPrecommit : ClientM State EnclaveIdentity Unit := do
  let self ← getSelf
  let some challenge := self.randomness.challenge | throw ⟨.INTERNAL_ERROR, "Internal error"⟩
  let clientOffers ← liftStatus (createAssertionOffers env self.selfAssertions)
  let clientRequests ← liftStatus (createAssertionRequests env self.acceptedPeerAssertions)
  let clientPrecommit : ClientPrecommit :=
    { availableEkepVersions := self.availableEkepVersions
      availableCipherSuites := self.availableCipherSuites
      availableRecordProtocols := self.availableRecordProtocols
      options := if self.additionalAuthenticatedData.isEmpty then none else some self.additionalAuthenticatedData
      clientOffers
      clientRequests
      challenge := challenge.1 }
  writeFrameAndUpdateTranscript lens env .CLIENT_PRECOMMIT (.clientPrecommit clientPrecommit)

/-- `StartHandshake(output)`. -/
def startHandshake (self : ClientEkepHandshaker State EnclaveIdentity) (output : List UInt8) :
    EkepHandshakerResult × ClientEkepHandshaker State EnclaveIdentity × List UInt8 :=
  match runStatus (writeClientPrecommit env) self output with
  | (.error status, self, output) =>
    let (self, output) := abortHandshake env self status output
    (.ABORTED, self, output)
  | (.ok (), self, output) => (.IN_PROGRESS, { self with handshakerState := .IN_PROGRESS }, output)

/-- `WriteClientId(requests_first, requests_last, output)`: a fresh X25519 pair,
and an assertion for each of the server's requests bound to the public key and
the transcript so far. The transcript after `ClientId` is kept for the server's
assertions. -/
def writeClientId (requests : List AssertionRequest) : ClientM State EnclaveIdentity Unit := do
  match (← getSelf).selectedCipherSuite with
  | .CURVE25519_SHA256 =>
    modifySelf fun self =>
      { self with dhPublicKey := (env.crypto.x25519PublicFromPrivate self.randomness.dhPrivateKey).1
                  dhPrivateKey := self.randomness.dhPrivateKey.1 }
  | _ => throw ⟨.INTERNAL_ERROR, "Unable to use selected cipher suite"⟩
  let publicKey := (← getSelf).dhPublicKey
  let transcriptHash ← getTranscriptHash lens env
  let some ekepContext := makeEkepContextBlob publicKey transcriptHash
    | throw ⟨.INTERNAL_ERROR, "Assertion generation failed"⟩
  let assertions ← liftStatus (generateAssertions env ekepContext requests)
  writeFrameAndUpdateTranscript lens env .CLIENT_ID (.clientId ⟨publicKey, assertions⟩)
  let serverAssertionTranscript ← getTranscriptHash lens env
  modifySelf fun self => { self with serverAssertionTranscript }

/-- `HandleServerPrecommit(message, output)`. -/
def handleServerPrecommit (message : HandshakeMessage) : ClientM State EnclaveIdentity Unit := do
  let .serverPrecommit serverPrecommit := message | throw ⟨.INTERNAL_ERROR, "Internal error"⟩
  let ekepVersion := serverPrecommit.selectedEkepVersion
  unless ← setSelectedEkepVersion ekepVersion do
    throw ⟨.PROTOCOL_ERROR, "Selected EKEP version is invalid: " ++ ekepVersion⟩
  let cipherSuite := serverPrecommit.selectedCipherSuite
  unless ← setSelectedCipherSuite cipherSuite do
    throw ⟨.PROTOCOL_ERROR, "Selected cipher suite is invalid: " ++ cipherSuite.name⟩
  match (← getSelf).selectedCipherSuite with
  | .CURVE25519_SHA256 => setTranscriptHashFunction lens env
  | _ => throw ⟨.INTERNAL_ERROR, "Error using selected cipher suite"⟩
  let recordProtocol := serverPrecommit.selectedRecordProtocol
  unless ← setSelectedRecordProtocol recordProtocol do
    throw ⟨.PROTOCOL_ERROR, "Selected record protocol is invalid: " ++ recordProtocol.name⟩
  if serverPrecommit.challenge.length ≠ kEkepChallengeSize then
    throw ⟨.PROTOCOL_ERROR, "Challenge has incorrect size: " ++ toString serverPrecommit.challenge.length⟩
  let self ← getSelf
  -- the server asks for a non-empty subset of what the client offered
  if serverPrecommit.serverRequests.isEmpty then
    throw ⟨.PROTOCOL_ERROR, "Server did not request any assertions"⟩
  if !serverPrecommit.serverRequests.all (findAssertionDescription self.selfAssertions ·.description) then
    throw ⟨.PROTOCOL_ERROR, "Server requested an assertion that was not offered by the client"⟩
  -- and offers a non-empty subset of what the client requested
  if serverPrecommit.serverOffers.isEmpty then
    throw ⟨.PROTOCOL_ERROR, "Server did not offer any assertions"⟩
  if !serverPrecommit.serverOffers.all (findAssertionDescription self.acceptedPeerAssertions ·.description) then
    throw ⟨.PROTOCOL_ERROR, "Server offered an assertion that was not requested by the client"⟩
  modifySelf fun self =>
    { self with expectedPeerAssertions :=
        self.expectedPeerAssertions ++ serverPrecommit.serverOffers.map AssertionOffer.description }
  writeClientId env serverPrecommit.serverRequests

/-- `HandleServerId(message)`: the server's assertions are bound to its public key
and the transcript after `ClientId`, and must be exactly those it offered. -/
def handleServerId (message : HandshakeMessage) : ClientM State EnclaveIdentity Unit := do
  let .serverId serverId := message | throw ⟨.INTERNAL_ERROR, "Internal error"⟩
  let some ekepContext := makeEkepContextBlob serverId.dhPublicKey (← getSelf).serverAssertionTranscript
    | throw ⟨.INTERNAL_ERROR, "Failed to generate context"⟩
  verifyPeerAssertions lens env expectedPeerAssertions (fun self expected => { self with expectedPeerAssertions := expected })
    "Server provided an assertion that was not previously offered" ekepContext serverId.assertions
  if !(← getSelf).expectedPeerAssertions.isEmpty then
    throw ⟨.BAD_ASSERTION, "Server did not provide all expected assertions"⟩
  let transcriptHash ← getTranscriptHash lens env
  let self ← getSelf
  let (primarySecret, authenticatorSecret) ← liftStatus
    (deriveSecrets env.crypto self.selectedCipherSuite transcriptHash serverId.dhPublicKey self.dhPrivateKey)
  modifySelf fun self =>
    { self with primarySecret := self.primarySecret ++ primarySecret
                authenticatorSecret := self.authenticatorSecret ++ authenticatorSecret }

/-- `WriteClientFinish(output)`. -/
def writeClientFinish : ClientM State EnclaveIdentity Unit := do
  let self ← getSelf
  let handshakeAuthenticator ← liftStatus
    (computeClientHandshakeAuthenticator env.crypto self.selectedCipherSuite self.authenticatorSecret)
  writeFrameAndUpdateTranscript lens env .CLIENT_FINISH (.clientFinish ⟨handshakeAuthenticator⟩)

/-- `HandleServerFinish(message, output)`. -/
def handleServerFinish (message : HandshakeMessage) : ClientM State EnclaveIdentity Unit := do
  let .serverFinish serverFinish := message | throw ⟨.INTERNAL_ERROR, "Internal error"⟩
  let self ← getSelf
  let expectedServerHandshakeAuthenticator ← liftStatus
    (computeServerHandshakeAuthenticator env.crypto self.selectedCipherSuite self.authenticatorSecret)
  if !checkMacEquality expectedServerHandshakeAuthenticator serverFinish.handshakeAuthenticator then
    throw ⟨.BAD_AUTHENTICATOR, "Server handshake authenticator value is incorrect"⟩
  writeClientFinish env

/-- The record protocol key of a completed handshake; an error there aborts it
without a word to the peer. -/
def deriveKeyIfCompleted (self : ClientEkepHandshaker State EnclaveIdentity) (output : List UInt8) :
    ClientEkepHandshaker State EnclaveIdentity :=
  if isHandshakeCompleted self then
    match runStatus (deriveAndSetRecordProtocolKey lens env self.selectedCipherSuite self.selectedRecordProtocol
        self.primarySecret) self output with
    | (.ok (), self, _) => self
    | (.error _, self, _) => { self with handshakerState := .ABORTED }
  else self

/-- `HandleHandshakeMessage(message_type, handshake_message, output)`: the expected
type moves on before the handler runs. -/
def handleHandshakeMessage (self : ClientEkepHandshaker State EnclaveIdentity) (messageType : HandshakeMessageType)
    (handshakeMessage : HandshakeMessage) (output : List UInt8) :
    EkepHandshakerResult × ClientEkepHandshaker State EnclaveIdentity × List UInt8 :=
  let (status, self, output) :=
    match messageType with
    | .SERVER_PRECOMMIT =>
      runStatus (handleServerPrecommit env handshakeMessage) { self with expectedMessageType := .SERVER_ID } output
    | .SERVER_ID =>
      runStatus (handleServerId env handshakeMessage) { self with expectedMessageType := .SERVER_FINISH } output
    | .SERVER_FINISH =>
      match runStatus (handleServerFinish env handshakeMessage)
          { self with expectedMessageType := .UNKNOWN_HANDSHAKE_MESSAGE } output with
      | (.ok (), self, output) => (.ok (), { self with handshakerState := .COMPLETED }, output)
      | failed => failed
    | _ => (.error ⟨.BAD_MESSAGE, "Unrecognized handshake message type"⟩, self, output)
  let (self, output) :=
    match status with
    | .error status => abortHandshake env self status output
    | .ok () => (self, output)
  let self := deriveKeyIfCompleted env self output
  (self.handshakerState.result, self, output)

/-- The client's virtual methods. -/
def role : Role (ClientEkepHandshaker State EnclaveIdentity) State EnclaveIdentity where
  toBaseLens := lens
  isHandshakeInProgress := isHandshakeInProgress
  isHandshakeCompleted := isHandshakeCompleted
  isHandshakeAborted := isHandshakeAborted
  getExpectedMessageType := getExpectedMessageType
  startHandshake := startHandshake env
  abortHandshake := abortHandshake env
  handleHandshakeMessage := handleHandshakeMessage env
  handleAbortMessage := handleAbortMessage

end ClientEkepHandshaker

end Asylo.Ekep
