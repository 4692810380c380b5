import Asylo.ClientEkepHandshakerProofs

/-! The server's handlers when they succeed: for each, the handshaker and the
outgoing bytes it leaves, from the checks it passes. -/
namespace Asylo.Ekep

open DcapVerifier (AssertionDescription Assertion)

namespace ServerEkepHandshaker

variable {State EnclaveIdentity : Type} {env : Environment State EnclaveIdentity}

theorem expectedField : ExpectedField (lens : BaseLens (ServerEkepHandshaker State EnclaveIdentity) State EnclaveIdentity)
    expectedPeerAssertions (fun self expected => { self with expectedPeerAssertions := expected }) :=
  ⟨fun _ _ => rfl, fun _ _ => rfl, fun _ _ => rfl, fun _ _ => rfl, fun _ _ _ => rfl, fun _ _ _ => rfl,
    fun _ _ _ => rfl, fun _ => rfl, fun _ => rfl⟩

/-- `HandleClientPrecommit` chooses the first version, cipher suite and record
protocol of the client's that it supports, installs the transcript's hash, expects
the client's offers it can verify and promises the requests it can satisfy; what
is left is `WriteServerPrecommit`. -/
theorem run_handleClientPrecommit {self : ServerEkepHandshaker State EnclaveIdentity} {output : List UInt8}
    {clientPrecommit : ClientPrecommit} {ekepVersion : String} {recordProtocol : RecordProtocol}
    (version : findFirstOf clientPrecommit.availableEkepVersions self.availableEkepVersions = some ekepVersion)
    (cipherSuite : findFirstOf clientPrecommit.availableCipherSuites self.availableCipherSuites =
      some .CURVE25519_SHA256)
    (protocol : findFirstOf clientPrecommit.availableRecordProtocols self.availableRecordProtocols =
      some recordProtocol)
    (challenge : clientPrecommit.challenge.length = kEkepChallengeSize)
    (expects : self.expectedPeerAssertions ++
      (verifiableOffers env self clientPrecommit.clientOffers).map AssertionOffer.description ≠ [])
    (promises : self.promisedAssertions ++ generatableRequests env self clientPrecommit.clientRequests ≠ []) :
    (handleClientPrecommit env (.clientPrecommit clientPrecommit)).run (self, output) =
      (writeServerPrecommit env).run ({ self with
        selectedEkepVersion := ekepVersion
        selectedCipherSuite := .CURVE25519_SHA256
        selectedRecordProtocol := recordProtocol
        base := { self.base with
          transcript := (self.base.transcript.setHasher env.crypto.hasher env.crypto.newSha256Hash).2
          recordProtocol }
        expectedPeerAssertions := self.expectedPeerAssertions ++
          (verifiableOffers env self clientPrecommit.clientOffers).map AssertionOffer.description
        promisedAssertions := self.promisedAssertions ++
          generatableRequests env self clientPrecommit.clientRequests }, output) := by
  simp only [verifiableOffers, generatableRequests] at expects promises ⊢
  simp [handleClientPrecommit, setSelectedEkepVersion, setSelectedCipherSuite, setSelectedRecordProtocol,
    EStateM.run_bind, version, cipherSuite, protocol, challenge, setTranscriptHashFunction, setRecordProtocol, lens,
    verifiableOffers, generatableRequests]
  -- the two checks of what was negotiated, each refuted by a hypothesis
  split_ifs with noOffers
  · exact absurd noOffers (by simpa [List.filter_eq_nil_iff] using expects)
  simp only [EStateM.run_bind, run_modifySelf, run_getSelf]
  split_ifs with noRequests
  · exact absurd noRequests (by simpa [List.filter_eq_nil_iff] using promises)
  rfl

/-- `WriteServerPrecommit` sends the server's selections, offers for what it
promised and requests for what it expects, and its challenge, and keeps the
transcript through `ServerPrecommit` for the client's assertions. -/
theorem run_writeServerPrecommit {self : ServerEkepHandshaker State EnclaveIdentity} {output : List UInt8}
    {challenge : UnsafeBytes kEkepChallengeSize} {serverPrecommit : ServerPrecommit} {afterServerPrecommit : List UInt8}
    (drawn : self.randomness.challenge = some challenge)
    (built : { selectedEkepVersion := self.selectedEkepVersion
               selectedCipherSuite := self.selectedCipherSuite
               selectedRecordProtocol := self.selectedRecordProtocol
               options := if self.additionalAuthenticatedData.isEmpty then none
                 else some self.additionalAuthenticatedData
               serverOffers := self.promisedAssertions.map fun request =>
                 (env.authorities.generator request.description).createAssertionOffer.2
               serverRequests := self.expectedPeerAssertions.map fun description =>
                 (env.authorities.verifier description).createAssertionRequest.2
               challenge := challenge.1 } = serverPrecommit)
    (fits : kMessageTypeSize + (env.codec.serialize (.serverPrecommit serverPrecommit)).length ≤
      self.base.maxFrameSize)
    (hashedAfter : (self.base.transcript.add env.crypto.hasher (.stream [frameBytes .SERVER_PRECOMMIT
      (env.codec.serialize (.serverPrecommit serverPrecommit))])).hash env.crypto.hasher = some afterServerPrecommit) :
    (writeServerPrecommit env).run (self, output) =
      let frame := frameBytes .SERVER_PRECOMMIT (env.codec.serialize (.serverPrecommit serverPrecommit))
      .ok () ({ self with
        base := { self.base with transcript := self.base.transcript.add env.crypto.hasher (.stream [frame]) }
        clientAssertionTranscript := afterServerPrecommit }, output ++ frame) := by
  simp only [writeServerPrecommit, EStateM.run_bind, run_getSelf, drawn, built]
  simp [run_writeFrameAndUpdateTranscript, fits, getTranscriptHash, hashedAfter, lens]

/-- `HandleClientId` takes the client's assertions, bound to its public key and
the transcript through `ServerPrecommit`, when they are those it expected, in
order, and keeps the client's public key; what is left is `WriteServerId`. -/
theorem run_handleClientId {self : ServerEkepHandshaker State EnclaveIdentity} {output : List UInt8}
    {clientId : ClientId} {ekepContext : List UInt8} {identities : List EnclaveIdentity}
    (context : makeEkepContextBlob clientId.dhPublicKey self.clientAssertionTranscript = some ekepContext)
    (verified : clientId.assertions.mapM (fun assertion =>
      (env.authorities.verifier assertion.description).verify ekepContext assertion) = .ok identities)
    (expected : self.expectedPeerAssertions = clientId.assertions.map Assertion.description) :
    (handleClientId env (.clientId clientId)).run (self, output) =
      (writeServerId env).run ({ self with
        base := { self.base with peerIdentities := self.base.peerIdentities ++ identities }
        expectedPeerAssertions := []
        clientPublicKey := self.clientPublicKey ++ clientId.dhPublicKey }, output) := by
  have loop := run_verifyPeerAssertions expectedField "Client provided an assertion that was not previously requested"
    ekepContext clientId.assertions self output verified (expected.trans (List.append_nil _).symm)
  simp only [handleClientId, EStateM.run_bind, run_getSelf, context]
  rw [loop]
  simp [lens]

/-- `WriteServerId` takes the server's X25519 pair and sends an assertion for
each promised request, bound to its public key and the transcript through
`ClientId`; what is left is `WriteServerFinish`. -/
theorem run_writeServerId {self : ServerEkepHandshaker State EnclaveIdentity} {output : List UInt8}
    {transcriptHash ekepContext : List UInt8} {assertions : List Assertion}
    (cipherSuite : self.selectedCipherSuite = .CURVE25519_SHA256)
    (hashed : self.base.transcript.hash env.crypto.hasher = some transcriptHash)
    (context : makeEkepContextBlob (env.crypto.x25519PublicFromPrivate self.randomness.dhPrivateKey).1 transcriptHash =
      some ekepContext)
    (generated : generateAssertions env ekepContext self.promisedAssertions = .ok assertions)
    (fits : kMessageTypeSize + (env.codec.serialize
      (.serverId ⟨(env.crypto.x25519PublicFromPrivate self.randomness.dhPrivateKey).1, assertions⟩)).length ≤
        self.base.maxFrameSize) :
    (writeServerId env).run (self, output) =
      let publicKey := (env.crypto.x25519PublicFromPrivate self.randomness.dhPrivateKey).1
      let frame := frameBytes .SERVER_ID (env.codec.serialize (.serverId ⟨publicKey, assertions⟩))
      (writeServerFinish env).run ({ self with
        dhPublicKey := publicKey
        dhPrivateKey := self.randomness.dhPrivateKey.1
        base := { self.base with transcript := self.base.transcript.add env.crypto.hasher (.stream [frame]) } },
        output ++ frame) := by
  simp [writeServerId, EStateM.run_bind, cipherSuite, getTranscriptHash, hashed, context, generated,
    run_writeFrameAndUpdateTranscript, fits, lens]

/-- `WriteServerFinish` derives the secrets from the transcript through
`ServerId` and the client's public key, and sends the server's authenticator. -/
theorem run_writeServerFinish {self : ServerEkepHandshaker State EnclaveIdentity} {output : List UInt8}
    {transcriptHash primarySecret authenticatorSecret serverAuthenticator : List UInt8}
    (hashed : self.base.transcript.hash env.crypto.hasher = some transcriptHash)
    (derived : deriveSecrets env.crypto self.selectedCipherSuite transcriptHash self.clientPublicKey self.dhPrivateKey =
      .ok (primarySecret, authenticatorSecret))
    (computed : computeServerHandshakeAuthenticator env.crypto self.selectedCipherSuite
      (self.authenticatorSecret ++ authenticatorSecret) = .ok serverAuthenticator)
    (fits : kMessageTypeSize + (env.codec.serialize (.serverFinish ⟨serverAuthenticator⟩)).length ≤
      self.base.maxFrameSize) :
    (writeServerFinish env).run (self, output) =
      let frame := frameBytes .SERVER_FINISH (env.codec.serialize (.serverFinish ⟨serverAuthenticator⟩))
      .ok () ({ self with
        primarySecret := self.primarySecret ++ primarySecret
        authenticatorSecret := self.authenticatorSecret ++ authenticatorSecret
        base := { self.base with transcript := self.base.transcript.add env.crypto.hasher (.stream [frame]) } },
        output ++ frame) := by
  simp [writeServerFinish, EStateM.run_bind, getTranscriptHash, hashed, derived, computed,
    run_writeFrameAndUpdateTranscript, fits, lens]

/-- `HandleClientFinish` checks the client's authenticator against the one the
server computes, and changes nothing. -/
theorem run_handleClientFinish {self : ServerEkepHandshaker State EnclaveIdentity} {output : List UInt8}
    {clientFinish : ClientFinish}
    (clientAuthentic : computeClientHandshakeAuthenticator env.crypto self.selectedCipherSuite self.authenticatorSecret =
      .ok clientFinish.handshakeAuthenticator) :
    (handleClientFinish env (.clientFinish clientFinish)).run (self, output) = .ok () (self, output) := by
  simp [handleClientFinish, EStateM.run_bind, clientAuthentic]

/-! ## Handling a message -/

theorem deriveKeyIfCompleted_of_inProgress {self : ServerEkepHandshaker State EnclaveIdentity} {output : List UInt8}
    (inProgress : self.handshakerState = .IN_PROGRESS) : deriveKeyIfCompleted env self output = self := by
  simp [deriveKeyIfCompleted, isHandshakeCompleted, inProgress]

/-- A completed handshake takes the record protocol key from the primary secret
and the transcript as it stands. -/
theorem deriveKeyIfCompleted_of_completed {self : ServerEkepHandshaker State EnclaveIdentity} {output : List UInt8}
    {finalTranscriptHash recordProtocolKey : List UInt8} (completed : self.handshakerState = .COMPLETED)
    (hashed : self.base.transcript.hash env.crypto.hasher = some finalTranscriptHash)
    (keyed : deriveRecordProtocolKey env.crypto self.selectedCipherSuite self.selectedRecordProtocol finalTranscriptHash
      self.primarySecret = .ok recordProtocolKey) :
    deriveKeyIfCompleted env self output = { self with base := { self.base with recordProtocolKey } } := by
  simp [deriveKeyIfCompleted, isHandshakeCompleted, completed, runStatus, deriveAndSetRecordProtocolKey,
    EStateM.run_bind, getTranscriptHash, lens, hashed, keyed]

/-- On `ClientPrecommit` the server expects `ClientId` next. -/
theorem handleHandshakeMessage_clientPrecommit {self next : ServerEkepHandshaker State EnclaveIdentity}
    {message : HandshakeMessage} {output output' : List UInt8}
    (handled : (handleClientPrecommit env message).run ({ self with expectedMessageType := .CLIENT_ID }, output) =
      .ok () (next, output'))
    (inProgress : next.handshakerState = .IN_PROGRESS) :
    handleHandshakeMessage env self .CLIENT_PRECOMMIT message output = (.IN_PROGRESS, next, output') := by
  simp [handleHandshakeMessage, runStatus, handled, deriveKeyIfCompleted_of_inProgress inProgress, inProgress,
    HandshakeState.result]

/-- On `ClientId` the server expects `ClientFinish` next. -/
theorem handleHandshakeMessage_clientId {self next : ServerEkepHandshaker State EnclaveIdentity}
    {message : HandshakeMessage} {output output' : List UInt8}
    (handled : (handleClientId env message).run ({ self with expectedMessageType := .CLIENT_FINISH }, output) =
      .ok () (next, output'))
    (inProgress : next.handshakerState = .IN_PROGRESS) :
    handleHandshakeMessage env self .CLIENT_ID message output = (.IN_PROGRESS, next, output') := by
  simp [handleHandshakeMessage, runStatus, handled, deriveKeyIfCompleted_of_inProgress inProgress, inProgress,
    HandshakeState.result]

/-- On `ClientFinish` the handshake completes, with its record protocol key. -/
theorem handleHandshakeMessage_clientFinish {self next : ServerEkepHandshaker State EnclaveIdentity}
    {message : HandshakeMessage} {output output' finalTranscriptHash recordProtocolKey : List UInt8}
    (handled : (handleClientFinish env message).run
      ({ self with expectedMessageType := .UNKNOWN_HANDSHAKE_MESSAGE }, output) = .ok () (next, output'))
    (hashed : next.base.transcript.hash env.crypto.hasher = some finalTranscriptHash)
    (keyed : deriveRecordProtocolKey env.crypto next.selectedCipherSuite next.selectedRecordProtocol finalTranscriptHash
      next.primarySecret = .ok recordProtocolKey) :
    handleHandshakeMessage env self .CLIENT_FINISH message output =
      (.COMPLETED, { next with handshakerState := .COMPLETED, base := { next.base with recordProtocolKey } }, output') := by
  have derived := @deriveKeyIfCompleted_of_completed State EnclaveIdentity env
    { next with handshakerState := .COMPLETED } output' _ _ rfl hashed keyed
  simp only [handleHandshakeMessage, runStatus, handled, derived, HandshakeState.result]

end ServerEkepHandshaker

end Asylo.Ekep
