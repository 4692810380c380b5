import Asylo.EkepHandlerProofs

/-! The client's handlers when they succeed: for each, the handshaker and the
outgoing bytes it leaves, from the checks it passes. -/
namespace Asylo.Ekep

open DcapVerifier (AssertionDescription Assertion)

namespace ClientEkepHandshaker

variable {State EnclaveIdentity : Type} {env : Environment State EnclaveIdentity}

theorem expectedField : ExpectedField (lens : BaseLens (ClientEkepHandshaker State EnclaveIdentity) State EnclaveIdentity)
    expectedPeerAssertions (fun self expected => { self with expectedPeerAssertions := expected }) :=
  ⟨fun _ _ => rfl, fun _ _ => rfl, fun _ _ => rfl, fun _ _ => rfl, fun _ _ _ => rfl, fun _ _ _ => rfl,
    fun _ _ _ => rfl, fun _ => rfl, fun _ => rfl⟩

/-- `WriteClientPrecommit` sends the client's versions, cipher suites and record
protocols, its offers and requests and its challenge. -/
theorem run_writeClientPrecommit {self : ClientEkepHandshaker State EnclaveIdentity} {output : List UInt8}
    {challenge : UnsafeBytes kEkepChallengeSize} {offers : List AssertionOffer} {requests : List AssertionRequest}
    {clientPrecommit : ClientPrecommit}
    (drawn : self.randomness.challenge = some challenge)
    (offered : createAssertionOffers env self.selfAssertions = .ok offers)
    (requested : createAssertionRequests env self.acceptedPeerAssertions = .ok requests)
    (built : { availableEkepVersions := self.availableEkepVersions
               availableCipherSuites := self.availableCipherSuites
               availableRecordProtocols := self.availableRecordProtocols
               options := if self.additionalAuthenticatedData.isEmpty then none
                 else some self.additionalAuthenticatedData
               clientOffers := offers
               clientRequests := requests
               challenge := challenge.1 } = clientPrecommit)
    (fits : kMessageTypeSize + (env.codec.serialize (.clientPrecommit clientPrecommit)).length ≤
      self.base.maxFrameSize) :
    (writeClientPrecommit env).run (self, output) =
      let frame := frameBytes .CLIENT_PRECOMMIT (env.codec.serialize (.clientPrecommit clientPrecommit))
      .ok () ({ self with base := { self.base with
        transcript := self.base.transcript.add env.crypto.hasher (.stream [frame]) } }, output ++ frame) := by
  simp only [writeClientPrecommit, EStateM.run_bind, run_getSelf, drawn, offered, requested, liftStatus_ok,
    EStateM.run_pure, built]
  exact run_writeFrameAndUpdateTranscript lens env (by decide) fits

/-- A `ClientPrecommit` written puts the handshake in progress. -/
theorem startHandshake_of_run {self next : ClientEkepHandshaker State EnclaveIdentity} {output output' : List UInt8}
    (written : (writeClientPrecommit env).run (self, output) = .ok () (next, output')) :
    startHandshake env self output = (.IN_PROGRESS, { next with handshakerState := .IN_PROGRESS }, output') := by
  simp [startHandshake, runStatus, written]

/-- `HandleServerPrecommit` takes selections the client offered, installs the
transcript's hash, and expects the assertions the server offers; what is left is
`WriteClientId` for the server's requests. -/
theorem run_handleServerPrecommit {self : ClientEkepHandshaker State EnclaveIdentity} {output : List UInt8}
    {serverPrecommit : ServerPrecommit}
    (version : serverPrecommit.selectedEkepVersion ∈ self.availableEkepVersions)
    (cipherSuite : serverPrecommit.selectedCipherSuite = .CURVE25519_SHA256)
    (cipherSuiteOffered : HandshakeCipher.CURVE25519_SHA256 ∈ self.availableCipherSuites)
    (recordProtocol : serverPrecommit.selectedRecordProtocol ∈ self.availableRecordProtocols)
    (challenge : serverPrecommit.challenge.length = kEkepChallengeSize)
    (requested : serverPrecommit.serverRequests ≠ [])
    (requestsOffered : ∀ request ∈ serverPrecommit.serverRequests, request.description ∈ self.selfAssertions)
    (offered : serverPrecommit.serverOffers ≠ [])
    (offersRequested : ∀ offer ∈ serverPrecommit.serverOffers, offer.description ∈ self.acceptedPeerAssertions) :
    (handleServerPrecommit env (.serverPrecommit serverPrecommit)).run (self, output) =
      (writeClientId env serverPrecommit.serverRequests).run ({ self with
        selectedEkepVersion := serverPrecommit.selectedEkepVersion
        selectedCipherSuite := .CURVE25519_SHA256
        selectedRecordProtocol := serverPrecommit.selectedRecordProtocol
        base := { self.base with
          transcript := (self.base.transcript.setHasher env.crypto.hasher env.crypto.newSha256Hash).2
          recordProtocol := serverPrecommit.selectedRecordProtocol }
        expectedPeerAssertions :=
          self.expectedPeerAssertions ++ serverPrecommit.serverOffers.map AssertionOffer.description }, output) := by
  have allOffered : ¬∃ request ∈ serverPrecommit.serverRequests, request.description ∉ self.selfAssertions :=
    fun ⟨request, member, missing⟩ => missing (requestsOffered request member)
  have allRequested : ¬∃ offer ∈ serverPrecommit.serverOffers, offer.description ∉ self.acceptedPeerAssertions :=
    fun ⟨offer, member, missing⟩ => missing (offersRequested offer member)
  simp [allOffered, allRequested, handleServerPrecommit, setSelectedEkepVersion, setSelectedCipherSuite, setSelectedRecordProtocol,
    EStateM.run_bind, version, cipherSuite, cipherSuiteOffered, recordProtocol, challenge, requested, offered,
    setTranscriptHashFunction, setRecordProtocol, lens, findAssertionDescription]

/-- `WriteClientId` takes the client's X25519 pair, binds an assertion for each
request to its public key and the transcript so far, sends them, and keeps the
transcript through `ClientId` for the server's assertions. -/
theorem run_writeClientId {self : ClientEkepHandshaker State EnclaveIdentity} {output : List UInt8}
    {requests : List AssertionRequest} {transcriptHash ekepContext afterClientId : List UInt8}
    {assertions : List Assertion}
    (cipherSuite : self.selectedCipherSuite = .CURVE25519_SHA256)
    (hashed : self.base.transcript.hash env.crypto.hasher = some transcriptHash)
    (context : makeEkepContextBlob (env.crypto.x25519PublicFromPrivate self.randomness.dhPrivateKey).1 transcriptHash =
      some ekepContext)
    (generated : generateAssertions env ekepContext requests = .ok assertions)
    (fits : kMessageTypeSize + (env.codec.serialize
      (.clientId ⟨(env.crypto.x25519PublicFromPrivate self.randomness.dhPrivateKey).1, assertions⟩)).length ≤
        self.base.maxFrameSize)
    (hashedAfter : (self.base.transcript.add env.crypto.hasher (.stream [frameBytes .CLIENT_ID (env.codec.serialize
      (.clientId ⟨(env.crypto.x25519PublicFromPrivate self.randomness.dhPrivateKey).1, assertions⟩))])).hash
        env.crypto.hasher = some afterClientId) :
    (writeClientId env requests).run (self, output) =
      let publicKey := (env.crypto.x25519PublicFromPrivate self.randomness.dhPrivateKey).1
      let frame := frameBytes .CLIENT_ID (env.codec.serialize (.clientId ⟨publicKey, assertions⟩))
      .ok () ({ self with
        dhPublicKey := publicKey
        dhPrivateKey := self.randomness.dhPrivateKey.1
        base := { self.base with transcript := self.base.transcript.add env.crypto.hasher (.stream [frame]) }
        serverAssertionTranscript := afterClientId }, output ++ frame) := by
  simp [writeClientId, EStateM.run_bind, cipherSuite, getTranscriptHash, hashed, context, generated,
    run_writeFrameAndUpdateTranscript, fits, hashedAfter, lens]

/-- `HandleServerId` takes the server's assertions, bound to its public key and
the transcript through `ClientId`, when they are those it offered, in order; it
derives the secrets from the transcript through `ServerId`. -/
theorem run_handleServerId {self : ClientEkepHandshaker State EnclaveIdentity} {output : List UInt8}
    {serverId : ServerId} {ekepContext transcriptHash primarySecret authenticatorSecret : List UInt8}
    {identities : List EnclaveIdentity}
    (context : makeEkepContextBlob serverId.dhPublicKey self.serverAssertionTranscript = some ekepContext)
    (verified : serverId.assertions.mapM (fun assertion =>
      (env.authorities.verifier assertion.description).verify ekepContext assertion) = .ok identities)
    (expected : self.expectedPeerAssertions = serverId.assertions.map Assertion.description)
    (hashed : self.base.transcript.hash env.crypto.hasher = some transcriptHash)
    (derived : deriveSecrets env.crypto self.selectedCipherSuite transcriptHash serverId.dhPublicKey self.dhPrivateKey =
      .ok (primarySecret, authenticatorSecret)) :
    (handleServerId env (.serverId serverId)).run (self, output) =
      .ok () ({ self with
        base := { self.base with peerIdentities := self.base.peerIdentities ++ identities }
        expectedPeerAssertions := []
        primarySecret := self.primarySecret ++ primarySecret
        authenticatorSecret := self.authenticatorSecret ++ authenticatorSecret }, output) := by
  have loop := run_verifyPeerAssertions expectedField "Server provided an assertion that was not previously offered"
    ekepContext serverId.assertions self output verified (expected.trans (List.append_nil _).symm)
  simp only [handleServerId, EStateM.run_bind, run_getSelf, context]
  rw [loop]
  simp [getTranscriptHash, lens, hashed, derived]

/-- `HandleServerFinish` checks the server's authenticator against the one the
client computes, and answers with its own in `ClientFinish`. -/
theorem run_handleServerFinish {self : ClientEkepHandshaker State EnclaveIdentity} {output : List UInt8}
    {serverFinish : ServerFinish} {clientAuthenticator : List UInt8}
    (serverAuthentic : computeServerHandshakeAuthenticator env.crypto self.selectedCipherSuite self.authenticatorSecret =
      .ok serverFinish.handshakeAuthenticator)
    (clientComputed : computeClientHandshakeAuthenticator env.crypto self.selectedCipherSuite self.authenticatorSecret =
      .ok clientAuthenticator)
    (fits : kMessageTypeSize + (env.codec.serialize (.clientFinish ⟨clientAuthenticator⟩)).length ≤
      self.base.maxFrameSize) :
    (handleServerFinish env (.serverFinish serverFinish)).run (self, output) =
      let frame := frameBytes .CLIENT_FINISH (env.codec.serialize (.clientFinish ⟨clientAuthenticator⟩))
      .ok () ({ self with base := { self.base with
        transcript := self.base.transcript.add env.crypto.hasher (.stream [frame]) } }, output ++ frame) := by
  simp [handleServerFinish, writeClientFinish, EStateM.run_bind, serverAuthentic, clientComputed,
    run_writeFrameAndUpdateTranscript, fits, lens]

/-! ## Handling a message -/

theorem deriveKeyIfCompleted_of_inProgress {self : ClientEkepHandshaker State EnclaveIdentity} {output : List UInt8}
    (inProgress : self.handshakerState = .IN_PROGRESS) : deriveKeyIfCompleted env self output = self := by
  simp [deriveKeyIfCompleted, isHandshakeCompleted, inProgress]

/-- A completed handshake takes the record protocol key from the primary secret
and the transcript as it stands. -/
theorem deriveKeyIfCompleted_of_completed {self : ClientEkepHandshaker State EnclaveIdentity} {output : List UInt8}
    {finalTranscriptHash recordProtocolKey : List UInt8} (completed : self.handshakerState = .COMPLETED)
    (hashed : self.base.transcript.hash env.crypto.hasher = some finalTranscriptHash)
    (keyed : deriveRecordProtocolKey env.crypto self.selectedCipherSuite self.selectedRecordProtocol finalTranscriptHash
      self.primarySecret = .ok recordProtocolKey) :
    deriveKeyIfCompleted env self output = { self with base := { self.base with recordProtocolKey } } := by
  simp [deriveKeyIfCompleted, isHandshakeCompleted, completed, runStatus, deriveAndSetRecordProtocolKey,
    EStateM.run_bind, getTranscriptHash, lens, hashed, keyed]

/-- On `ServerPrecommit` the client expects `ServerId` next. -/
theorem handleHandshakeMessage_serverPrecommit {self next : ClientEkepHandshaker State EnclaveIdentity}
    {message : HandshakeMessage} {output output' : List UInt8}
    (handled : (handleServerPrecommit env message).run ({ self with expectedMessageType := .SERVER_ID }, output) =
      .ok () (next, output'))
    (inProgress : next.handshakerState = .IN_PROGRESS) :
    handleHandshakeMessage env self .SERVER_PRECOMMIT message output = (.IN_PROGRESS, next, output') := by
  simp [handleHandshakeMessage, runStatus, handled, deriveKeyIfCompleted_of_inProgress inProgress, inProgress,
    HandshakeState.result]

/-- On `ServerId` the client expects `ServerFinish` next. -/
theorem handleHandshakeMessage_serverId {self next : ClientEkepHandshaker State EnclaveIdentity}
    {message : HandshakeMessage} {output output' : List UInt8}
    (handled : (handleServerId env message).run ({ self with expectedMessageType := .SERVER_FINISH }, output) =
      .ok () (next, output'))
    (inProgress : next.handshakerState = .IN_PROGRESS) :
    handleHandshakeMessage env self .SERVER_ID message output = (.IN_PROGRESS, next, output') := by
  simp [handleHandshakeMessage, runStatus, handled, deriveKeyIfCompleted_of_inProgress inProgress, inProgress,
    HandshakeState.result]

/-- On `ServerFinish` the handshake completes, with its record protocol key. -/
theorem handleHandshakeMessage_serverFinish {self next : ClientEkepHandshaker State EnclaveIdentity}
    {message : HandshakeMessage} {output output' finalTranscriptHash recordProtocolKey : List UInt8}
    (handled : (handleServerFinish env message).run
      ({ self with expectedMessageType := .UNKNOWN_HANDSHAKE_MESSAGE }, output) = .ok () (next, output'))
    (hashed : next.base.transcript.hash env.crypto.hasher = some finalTranscriptHash)
    (keyed : deriveRecordProtocolKey env.crypto next.selectedCipherSuite next.selectedRecordProtocol finalTranscriptHash
      next.primarySecret = .ok recordProtocolKey) :
    handleHandshakeMessage env self .SERVER_FINISH message output =
      (.COMPLETED, { next with handshakerState := .COMPLETED, base := { next.base with recordProtocolKey } }, output') := by
  have derived := @deriveKeyIfCompleted_of_completed State EnclaveIdentity env
    { next with handshakerState := .COMPLETED } output' _ _ rfl hashed keyed
  simp only [handleHandshakeMessage, runStatus, handled, derived, HandshakeState.result]

end ClientEkepHandshaker

end Asylo.Ekep
