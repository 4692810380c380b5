import Asylo.ClientEkepHandshaker

/-! `ServerEkepHandshaker` (`grpc/auth/core/server_ekep_handshaker.cc`): the party
that answers. It is in progress from the start and waits for `ClientPrecommit`,
chooses the first of the client's versions, cipher suites and record protocols it
supports, and requests and promises assertions; it answers with
`ServerPrecommit`, checks the client's assertions in `ClientId` and answers with
`ServerId` and `ServerFinish` at once, and completes on a `ClientFinish` whose
authenticator matches. -/
namespace Asylo.Ekep

open DcapVerifier (AssertionDescription Assertion)

/-- The members of a `ServerEkepHandshaker`. -/
structure ServerEkepHandshaker (State EnclaveIdentity : Type) where
  base : EkepHandshakerBase State EnclaveIdentity
  selfAssertions : List AssertionDescription
  acceptedPeerAssertions : List AssertionDescription
  availableCipherSuites : List HandshakeCipher
  availableRecordProtocols : List RecordProtocol
  availableEkepVersions : List String
  additionalAuthenticatedData : List UInt8
  promisedAssertions : List AssertionRequest
  expectedPeerAssertions : List AssertionDescription
  selectedCipherSuite : HandshakeCipher
  selectedRecordProtocol : RecordProtocol
  selectedEkepVersion : String
  dhPublicKey : List UInt8
  dhPrivateKey : List UInt8
  clientPublicKey : List UInt8
  primarySecret : List UInt8
  authenticatorSecret : List UInt8
  clientAssertionTranscript : List UInt8
  expectedMessageType : HandshakeMessageType
  handshakerState : HandshakeState
  randomness : Randomness

namespace ServerEkepHandshaker

variable {State EnclaveIdentity : Type} (env : Environment State EnclaveIdentity)

/-- The constructor `ServerEkepHandshaker(options)`: the handshake is in progress
for the server, which relies on the client to act first. -/
def init (options : EkepHandshakerOptions) (randomness : Randomness) : ServerEkepHandshaker State EnclaveIdentity where
  base := .init options.maxFrameSize
  selfAssertions := options.selfAssertions
  acceptedPeerAssertions := options.acceptedPeerAssertions
  availableCipherSuites := [.CURVE25519_SHA256]
  availableRecordProtocols := [.ALTSRP_AES128_GCM]
  availableEkepVersions := ["EKEP v1"]
  additionalAuthenticatedData := options.additionalAuthenticatedData
  promisedAssertions := []
  expectedPeerAssertions := []
  selectedCipherSuite := .UNKNOWN_HANDSHAKE_CIPHER
  selectedRecordProtocol := .UNKNOWN_RECORD_PROTOCOL
  selectedEkepVersion := ""
  dhPublicKey := []
  dhPrivateKey := []
  clientPublicKey := []
  primarySecret := []
  authenticatorSecret := []
  clientAssertionTranscript := []
  expectedMessageType := .CLIENT_PRECOMMIT
  handshakerState := .IN_PROGRESS
  randomness := randomness

/-- `ServerEkepHandshaker::Create(options)`. -/
def create (options : EkepHandshakerOptions) (randomness : Randomness) :
    Option (ServerEkepHandshaker State EnclaveIdentity) :=
  match options.validate env.authorities with
  | .ok () => some (init options randomness)
  | .error _ => none

def lens : BaseLens (ServerEkepHandshaker State EnclaveIdentity) State EnclaveIdentity :=
  ⟨base, fun self base => { self with base }⟩

/-- A server's handlers. -/
abbrev ServerM (State EnclaveIdentity : Type) := HandlerM (ServerEkepHandshaker State EnclaveIdentity)

def isHandshakeInProgress (self : ServerEkepHandshaker State EnclaveIdentity) : Bool :=
  self.handshakerState = .IN_PROGRESS

def isHandshakeCompleted (self : ServerEkepHandshaker State EnclaveIdentity) : Bool :=
  self.handshakerState = .COMPLETED

def isHandshakeAborted (self : ServerEkepHandshaker State EnclaveIdentity) : Bool :=
  self.handshakerState = .ABORTED

/-- `GetExpectedMessageType()`. -/
def getExpectedMessageType (self : ServerEkepHandshaker State EnclaveIdentity) : HandshakeMessageType :=
  if !isHandshakeInProgress self then .UNKNOWN_HANDSHAKE_MESSAGE else self.expectedMessageType

/-- `AbortHandshake(abort_status, output)`. -/
def abortHandshake (self : ServerEkepHandshaker State EnclaveIdentity) (abortStatus : EkepError)
    (output : List UInt8) : ServerEkepHandshaker State EnclaveIdentity × List UInt8 :=
  ({ self with handshakerState := .ABORTED }, abortFrame env self.base.maxFrameSize abortStatus output)

/-- `StartHandshake(output)`: a server never starts a handshake. -/
def startHandshake (self : ServerEkepHandshaker State EnclaveIdentity) (output : List UInt8) :
    EkepHandshakerResult × ServerEkepHandshaker State EnclaveIdentity × List UInt8 :=
  let (self, output) := abortHandshake env self ⟨.PROTOCOL_ERROR, "Server cannot start an EKEP handshaker"⟩ output
  (.ABORTED, self, output)

/-- `HandleAbortMessage(abort_message)`. -/
def handleAbortMessage (self : ServerEkepHandshaker State EnclaveIdentity) (_abortMessage : Option Abort) :
    ServerEkepHandshaker State EnclaveIdentity :=
  { self with handshakerState := .ABORTED }

/-- `std::find_first_of(offered, available)`: the first thing the client offered
that the server supports. -/
def findFirstOf {α : Type} [DecidableEq α] (offered available : List α) : Option α :=
  offered.find? (· ∈ available)

/-- `SetSelectedEkepVersion(ekep_versions)`. -/
def setSelectedEkepVersion (ekepVersions : List String) : ServerM State EnclaveIdentity Bool := do
  match findFirstOf ekepVersions (← getSelf).availableEkepVersions with
  | some ekepVersion =>
    modifySelf fun self => { self with selectedEkepVersion := ekepVersion }
    pure true
  | none => pure false

/-- `SetSelectedCipherSuite(cipher_suites)`. -/
def setSelectedCipherSuite (cipherSuites : List HandshakeCipher) : ServerM State EnclaveIdentity Bool := do
  match findFirstOf cipherSuites (← getSelf).availableCipherSuites with
  | some cipherSuite =>
    modifySelf fun self => { self with selectedCipherSuite := cipherSuite }
    pure true
  | none => pure false

/-- `SetSelectedRecordProtocol(record_protocols)`. -/
def setSelectedRecordProtocol (recordProtocols : List RecordProtocol) : ServerM State EnclaveIdentity Bool := do
  match findFirstOf recordProtocols (← getSelf).availableRecordProtocols with
  | some recordProtocol =>
    modifySelf fun self => { self with selectedRecordProtocol := recordProtocol }
    setRecordProtocol lens recordProtocol
    pure true
  | none => pure false

/-- The client's offers the server can verify: those of an accepted description
whose verifier's `CanVerify` says yes. -/
def verifiableOffers (self : ServerEkepHandshaker State EnclaveIdentity) (offers : List AssertionOffer) :
    List AssertionOffer :=
  offers.filter fun offer =>
    findAssertionDescription self.acceptedPeerAssertions offer.description &&
      match (env.authorities.verifier offer.description).canVerify offer with
      | .ok canVerify => canVerify
      | .error _ => false

/-- The client's requests the server can satisfy: those of a self description
whose generator's `CanGenerate` says yes. -/
def generatableRequests (self : ServerEkepHandshaker State EnclaveIdentity) (requests : List AssertionRequest) :
    List AssertionRequest :=
  requests.filter fun request =>
    findAssertionDescription self.selfAssertions request.description &&
      match (env.authorities.generator request.description).canGenerate request with
      | .ok canGenerate => canGenerate
      | .error _ => false

/-- `WriteServerPrecommit(output)`. The statuses of `CreateAssertionOffer` and
`CreateAssertionRequest` are not looked at: the message takes what they wrote. -/
def writeServerPrecommit : ServerM State EnclaveIdentity Unit := do
  let self ← getSelf
  let some challenge := self.randomness.challenge | throw ⟨.INTERNAL_ERROR, "Internal error"⟩
  let serverPrecommit : ServerPrecommit :=
    { selectedEkepVersion := self.selectedEkepVersion
      selectedCipherSuite := self.selectedCipherSuite
      selectedRecordProtocol := self.selectedRecordProtocol
      options := if self.additionalAuthenticatedData.isEmpty then none else some self.additionalAuthenticatedData
      serverOffers := self.promisedAssertions.map fun request =>
        (env.authorities.generator request.description).createAssertionOffer.2
      serverRequests := self.expectedPeerAssertions.map fun description =>
        (env.authorities.verifier description).createAssertionRequest.2
      challenge := challenge.1 }
  writeFrameAndUpdateTranscript lens env .SERVER_PRECOMMIT (.serverPrecommit serverPrecommit)
  -- the client binds its assertions to the transcript after ServerPrecommit
  let clientAssertionTranscript ← getTranscriptHash lens env
  modifySelf fun self => { self with clientAssertionTranscript }

/-- `HandleClientPrecommit(message, output)`. -/
def handleClientPrecommit (message : HandshakeMessage) : ServerM State EnclaveIdentity Unit := do
  let .clientPrecommit clientPrecommit := message | throw ⟨.INTERNAL_ERROR, "Internal error"⟩
  unless ← setSelectedEkepVersion clientPrecommit.availableEkepVersions do
    throw ⟨.BAD_PROTOCOL_VERSION, "No compatible EKEP protocol version"⟩
  unless ← setSelectedCipherSuite clientPrecommit.availableCipherSuites do
    throw ⟨.BAD_HANDSHAKE_CIPHER, "No compatible cipher suite"⟩
  match (← getSelf).selectedCipherSuite with
  | .CURVE25519_SHA256 => setTranscriptHashFunction lens env
  | _ => throw ⟨.INTERNAL_ERROR, "Error using selected cipher suite"⟩
  unless ← setSelectedRecordProtocol clientPrecommit.availableRecordProtocols do
    throw ⟨.BAD_RECORD_PROTOCOL, "No compatible record_protocol"⟩
  if clientPrecommit.challenge.length ≠ kEkepChallengeSize then
    throw ⟨.PROTOCOL_ERROR, "Received a challenge with incorrect size"⟩
  modifySelf fun self =>
    { self with expectedPeerAssertions := self.expectedPeerAssertions ++
        (verifiableOffers env self clientPrecommit.clientOffers).map AssertionOffer.description }
  if (← getSelf).expectedPeerAssertions.isEmpty then
    throw ⟨.BAD_ASSERTION_TYPE, "No acceptable client assertion offers"⟩
  modifySelf fun self =>
    { self with promisedAssertions := self.promisedAssertions ++
        generatableRequests env self clientPrecommit.clientRequests }
  if (← getSelf).promisedAssertions.isEmpty then
    throw ⟨.BAD_ASSERTION_TYPE, "No acceptable client assertion requests"⟩
  writeServerPrecommit env

/-- `WriteServerFinish(output)`: the secrets from the transcript through
`ServerId` and the client's public key, and the server's authenticator. -/
def writeServerFinish : ServerM State EnclaveIdentity Unit := do
  let transcriptHash ← getTranscriptHash lens env
  let self ← getSelf
  let (primarySecret, authenticatorSecret) ← liftStatus
    (deriveSecrets env.crypto self.selectedCipherSuite transcriptHash self.clientPublicKey self.dhPrivateKey)
  modifySelf fun self =>
    { self with primarySecret := self.primarySecret ++ primarySecret
                authenticatorSecret := self.authenticatorSecret ++ authenticatorSecret }
  let self ← getSelf
  let authenticator ← liftStatus
    (computeServerHandshakeAuthenticator env.crypto self.selectedCipherSuite self.authenticatorSecret)
  writeFrameAndUpdateTranscript lens env .SERVER_FINISH (.serverFinish ⟨authenticator⟩)

/-- `WriteServerId(output)`: a fresh X25519 pair and the promised assertions,
bound to the public key and the transcript through `ClientId`. -/
def writeServerId : ServerM State EnclaveIdentity Unit := do
  match (← getSelf).selectedCipherSuite with
  | .CURVE25519_SHA256 =>
    modifySelf fun self =>
      { self with dhPublicKey := (env.crypto.x25519PublicFromPrivate self.randomness.dhPrivateKey).1
                  dhPrivateKey := self.randomness.dhPrivateKey.1 }
  | _ => throw ⟨.INTERNAL_ERROR, "Error using selected cipher suite"⟩
  let publicKey := (← getSelf).dhPublicKey
  let transcriptHash ← getTranscriptHash lens env
  let some ekepContext := makeEkepContextBlob publicKey transcriptHash
    | throw ⟨.INTERNAL_ERROR, "Assertion generation failed"⟩
  let assertions ← liftStatus (generateAssertions env ekepContext (← getSelf).promisedAssertions)
  writeFrameAndUpdateTranscript lens env .SERVER_ID (.serverId ⟨publicKey, assertions⟩)
  writeServerFinish env

/-- `HandleClientId(message, output)`. -/
def handleClientId (message : HandshakeMessage) : ServerM State EnclaveIdentity Unit := do
  let .clientId clientId := message | throw ⟨.INTERNAL_ERROR, "Internal error"⟩
  let some ekepContext := makeEkepContextBlob clientId.dhPublicKey (← getSelf).clientAssertionTranscript
    | throw ⟨.INTERNAL_ERROR, "Failed to generate context"⟩
  verifyPeerAssertions lens env expectedPeerAssertions (fun self expected => { self with expectedPeerAssertions := expected })
    "Client provided an assertion that was not previously requested" ekepContext clientId.assertions
  if !(← getSelf).expectedPeerAssertions.isEmpty then
    throw ⟨.BAD_ASSERTION, "Client did not provide all expected assertions"⟩
  modifySelf fun self => { self with clientPublicKey := self.clientPublicKey ++ clientId.dhPublicKey }
  writeServerId env

/-- `HandleClientFinish(message)`. -/
def handleClientFinish (message : HandshakeMessage) : ServerM State EnclaveIdentity Unit := do
  let .clientFinish clientFinish := message | throw ⟨.INTERNAL_ERROR, "Internal error"⟩
  let self ← getSelf
  let expectedClientHandshakeAuthenticator ← liftStatus
    (computeClientHandshakeAuthenticator env.crypto self.selectedCipherSuite self.authenticatorSecret)
  if !checkMacEquality expectedClientHandshakeAuthenticator clientFinish.handshakeAuthenticator then
    throw ⟨.BAD_AUTHENTICATOR, "Client handshake authenticator value is incorrect"⟩

/-- The record protocol key of a completed handshake; an error there aborts it
without a word to the peer. -/
def deriveKeyIfCompleted (self : ServerEkepHandshaker State EnclaveIdentity) (output : List UInt8) :
    ServerEkepHandshaker State EnclaveIdentity :=
  if isHandshakeCompleted self then
    match runStatus (deriveAndSetRecordProtocolKey lens env self.selectedCipherSuite self.selectedRecordProtocol
        self.primarySecret) self output with
    | (.ok (), self, _) => self
    | (.error _, self, _) => { self with handshakerState := .ABORTED }
  else self

/-- `HandleHandshakeMessage(message_type, handshake_message, output)`. A failure
after `ClientFinish` sends nothing, as no message may follow it. -/
def handleHandshakeMessage (self : ServerEkepHandshaker State EnclaveIdentity) (messageType : HandshakeMessageType)
    (handshakeMessage : HandshakeMessage) (output : List UInt8) :
    EkepHandshakerResult × ServerEkepHandshaker State EnclaveIdentity × List UInt8 :=
  let (status, self, output) :=
    match messageType with
    | .CLIENT_PRECOMMIT =>
      runStatus (handleClientPrecommit env handshakeMessage) { self with expectedMessageType := .CLIENT_ID } output
    | .CLIENT_ID =>
      runStatus (handleClientId env handshakeMessage) { self with expectedMessageType := .CLIENT_FINISH } output
    | .CLIENT_FINISH =>
      match runStatus (handleClientFinish env handshakeMessage)
          { self with expectedMessageType := .UNKNOWN_HANDSHAKE_MESSAGE } output with
      | (.ok (), self, output) => (.ok (), { self with handshakerState := .COMPLETED }, output)
      | failed => failed
    | _ => (.error ⟨.BAD_MESSAGE, "Unrecognized handshake message type"⟩, self, output)
  let (self, output) :=
    match status with
    | .error status =>
      let (self, output) := if messageType ≠ .CLIENT_FINISH then abortHandshake env self status output
        else (self, output)
      ({ self with handshakerState := .ABORTED }, output)
    | .ok () => (self, output)
  let self := deriveKeyIfCompleted env self output
  (self.handshakerState.result, self, output)

/-- The server's virtual methods. -/
def role : Role (ServerEkepHandshaker State EnclaveIdentity) State EnclaveIdentity where
  toBaseLens := lens
  isHandshakeInProgress := isHandshakeInProgress
  isHandshakeCompleted := isHandshakeCompleted
  isHandshakeAborted := isHandshakeAborted
  getExpectedMessageType := getExpectedMessageType
  startHandshake := startHandshake env
  abortHandshake := abortHandshake env
  handleHandshakeMessage := handleHandshakeMessage env
  handleAbortMessage := handleAbortMessage

end ServerEkepHandshaker

end Asylo.Ekep
