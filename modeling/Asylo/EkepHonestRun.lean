import Asylo.EkepSession

/-! Two honest handshakers relayed to each other complete the handshake of
`EkepSession`: three rounds of the relay take the client through
`ClientPrecommit`, `ClientId` and `ClientFinish` and the server through
`ServerPrecommit`, `ServerId` with `ServerFinish`, and the handling of
`ClientFinish`. Both end completed, with the session's record protocol and key,
and each holds the identities its verifiers found in the other's assertions;
later rounds change nothing.

The proof follows the run call by call. Each call is the handling of the frames
it brings (`Role.nextHandshakeStep_oneFrame`, `Role.nextHandshakeStep_twoFrames`),
and each handling is the chain of the handlers' runs. What the handlers check is
discharged from `Honest` by the lemmas of the first section: the transcripts hold
the frames sent so far (`Transcript.Holds`), so every transcript hash is the
digest of those frames, and the two parties derive the same secrets. -/
namespace Asylo.Ekep

open DcapVerifier (AssertionDescription Assertion)

namespace Session

variable {State EnclaveIdentity : Type} (codec : MessageCodec) (crypto : Crypto State)
  (client server : Party EnclaveIdentity)

/-! ## The states of the run -/

def client0 : ClientEkepHandshaker State EnclaveIdentity := ClientEkepHandshaker.init client.options client.randomness

def server0 : ServerEkepHandshaker State EnclaveIdentity := ServerEkepHandshaker.init server.options server.randomness

/-- The client after sending `ClientPrecommit`. -/
def client1 : ClientEkepHandshaker State EnclaveIdentity :=
  { (client0 client : ClientEkepHandshaker State EnclaveIdentity) with
    base := { (client0 client : ClientEkepHandshaker State EnclaveIdentity).base with
      transcript := Transcript.empty.add crypto.hasher (.stream [frame codec (.clientPrecommit (clientPrecommit client))]) }
    handshakerState := .IN_PROGRESS }

/-- The server after answering with `ServerPrecommit`. -/
def server1 : ServerEkepHandshaker State EnclaveIdentity :=
  { (server0 server : ServerEkepHandshaker State EnclaveIdentity) with
    base := { (server0 server : ServerEkepHandshaker State EnclaveIdentity).base with
      transcript := ((Transcript.empty.add crypto.hasher (.stream [frame codec (.clientPrecommit (clientPrecommit client))])).setHasher
        crypto.hasher crypto.newSha256Hash).2.add crypto.hasher
          (.stream [frame codec (.serverPrecommit (serverPrecommit codec crypto client server))])
      recordProtocol := .ALTSRP_AES128_GCM }
    expectedMessageType := .CLIENT_ID
    selectedEkepVersion := "EKEP v1"
    selectedCipherSuite := .CURVE25519_SHA256
    selectedRecordProtocol := .ALTSRP_AES128_GCM
    expectedPeerAssertions := expectedClientAssertions codec crypto client server
    promisedAssertions := promisedAssertions codec crypto client server
    clientAssertionTranscript := digest crypto (precommitFrames codec crypto client server) }

/-- The client after answering with `ClientId`. -/
def client2 : ClientEkepHandshaker State EnclaveIdentity :=
  { client1 codec crypto client with
    base := { (client1 codec crypto client).base with
      transcript := (((client1 codec crypto client).base.transcript.add crypto.hasher
        (.stream [frame codec (.serverPrecommit (serverPrecommit codec crypto client server))])).setHasher
          crypto.hasher crypto.newSha256Hash).2.add crypto.hasher
            (.stream [frame codec (.clientId (clientId codec crypto client server))])
      recordProtocol := .ALTSRP_AES128_GCM }
    expectedMessageType := .SERVER_ID
    selectedEkepVersion := "EKEP v1"
    selectedCipherSuite := .CURVE25519_SHA256
    selectedRecordProtocol := .ALTSRP_AES128_GCM
    expectedPeerAssertions := (serverPrecommit codec crypto client server).serverOffers.map AssertionOffer.description
    dhPublicKey := client.publicKey crypto
    dhPrivateKey := client.randomness.dhPrivateKey.1
    serverAssertionTranscript := digest crypto (clientIdFrames codec crypto client server) }

/-- The server after answering with `ServerId` and `ServerFinish`. -/
def server2 : ServerEkepHandshaker State EnclaveIdentity :=
  { server1 codec crypto client server with
    base := { (server1 codec crypto client server).base with
      transcript := (((server1 codec crypto client server).base.transcript.add crypto.hasher
        (.stream [frame codec (.clientId (clientId codec crypto client server))])).add crypto.hasher
          (.stream [frame codec (.serverId (serverId codec crypto client server))])).add crypto.hasher
            (.stream [frame codec (.serverFinish (serverFinish codec crypto client server))])
      peerIdentities := (clientIdentities codec crypto client server).toOption.getD [] }
    expectedMessageType := .CLIENT_FINISH
    expectedPeerAssertions := []
    clientPublicKey := client.publicKey crypto
    dhPublicKey := server.publicKey crypto
    dhPrivateKey := server.randomness.dhPrivateKey.1
    primarySecret := (secrets codec crypto client server).1
    authenticatorSecret := (secrets codec crypto client server).2 }

/-- The client between `ServerId` and `ServerFinish`, which came in one call. -/
def clientBetween : ClientEkepHandshaker State EnclaveIdentity :=
  { client2 codec crypto client server with
    base := { (client2 codec crypto client server).base with
      transcript := (client2 codec crypto client server).base.transcript.add crypto.hasher
        (.stream [frame codec (.serverId (serverId codec crypto client server))])
      inputStream := ⟨[], frame codec (.serverFinish (serverFinish codec crypto client server))⟩
      peerIdentities := (serverIdentities codec crypto client server).toOption.getD [] }
    expectedMessageType := .SERVER_FINISH
    expectedPeerAssertions := []
    primarySecret := (secrets codec crypto client server).1
    authenticatorSecret := (secrets codec crypto client server).2 }

/-- The client at the end: `ClientFinish` sent and the handshake complete. -/
def client3 : ClientEkepHandshaker State EnclaveIdentity :=
  { clientBetween codec crypto client server with
    base := { (clientBetween codec crypto client server).base with
      transcript := ((clientBetween codec crypto client server).base.transcript.add crypto.hasher
        (.stream [frame codec (.serverFinish (serverFinish codec crypto client server))])).add crypto.hasher
          (.stream [frame codec (.clientFinish (clientFinish codec crypto client server))])
      inputStream := ⟨[], []⟩
      recordProtocolKey := recordProtocolKey codec crypto client server }
    expectedMessageType := .UNKNOWN_HANDSHAKE_MESSAGE
    handshakerState := .COMPLETED }

/-- The server at the end: `ClientFinish` checked and the handshake complete. -/
def server3 : ServerEkepHandshaker State EnclaveIdentity :=
  { server2 codec crypto client server with
    base := { (server2 codec crypto client server).base with
      transcript := (server2 codec crypto client server).base.transcript.add crypto.hasher
        (.stream [frame codec (.clientFinish (clientFinish codec crypto client server))])
      recordProtocolKey := recordProtocolKey codec crypto client server }
    expectedMessageType := .UNKNOWN_HANDSHAKE_MESSAGE
    handshakerState := .COMPLETED }

/-! ## What `Honest` gives each handler -/

section Facts

variable {State EnclaveIdentity : Type} {codec : MessageCodec} {crypto : Crypto State}
  {client server : Party EnclaveIdentity} (honest : Honest codec crypto client server)

theorem createAssertionOffers_client (honest : Honest codec crypto client server) :
    ClientEkepHandshaker.createAssertionOffers (clientEnv codec crypto client) client.options.selfAssertions =
      .ok (clientPrecommit client).clientOffers :=
  Except.mapM_eq_ok_map fun description member => by
    have created := honest.offersCreated description member
    simp only [clientEnv]
    generalize (client.authorities.generator description).createAssertionOffer = made at created ⊢
    obtain ⟨status, offer⟩ := made
    subst created
    rfl

theorem createAssertionRequests_client (honest : Honest codec crypto client server) :
    ClientEkepHandshaker.createAssertionRequests (clientEnv codec crypto client) client.options.acceptedPeerAssertions =
      .ok (clientPrecommit client).clientRequests :=
  Except.mapM_eq_ok_map fun description member => by
    have created := honest.requestsCreated description member
    simp only [clientEnv]
    generalize (client.authorities.verifier description).createAssertionRequest = made at created ⊢
    obtain ⟨status, request⟩ := made
    subst created
    rfl

theorem honest_message (honest : Honest codec crypto client server) (message : HandshakeMessage)
    (member : message ∈ messages codec crypto client server) :
    codec.parse message.messageType (codec.serialize message) = some message ∧
      kMessageTypeSize + (codec.serialize message).length ≤ client.options.maxFrameSize ∧
      kMessageTypeSize + (codec.serialize message).length ≤ server.options.maxFrameSize :=
  ⟨honest.parses message member, honest.clientFits message member, honest.serverFits message member⟩

/-- A transcript that holds `bytes` behind the SHA-256 object hashes to their
digest. -/
theorem hash_eq_digest (lawful : CryptoLawful crypto) {transcript : Transcript State} {bytes : List UInt8}
    (holds : transcript.Holds crypto.hasher (some crypto.newSha256Hash) bytes) :
    transcript.hash crypto.hasher = some (digest crypto bytes) := by
  obtain ⟨value, computed, -⟩ := lawful.digests (crypto.hasher.update (crypto.hasher.init crypto.newSha256Hash) bytes)
  rw [holds.hash, computed]
  simp [digest, computed]

variable (codec) in
/-- A frame added to a transcript that holds `bytes` is held after them, -/
theorem holds_add_frame (lawful : CryptoLawful crypto) {transcript : Transcript State} {bytes : List UInt8}
    (holds : transcript.Holds crypto.hasher (some crypto.newSha256Hash) bytes) (message : HandshakeMessage) :
    (transcript.add crypto.hasher (.stream [frame codec message])).Holds crypto.hasher (some crypto.newSha256Hash)
      (bytes ++ frame codec message) := by
  simpa [Input.contents] using holds.add lawful.incremental (.stream [frame codec message])

variable (codec) in
/-- and hashed after them. -/
theorem hash_add_frame (lawful : CryptoLawful crypto) {transcript : Transcript State} {bytes : List UInt8}
    (holds : transcript.Holds crypto.hasher (some crypto.newSha256Hash) bytes) (message : HandshakeMessage) :
    (transcript.add crypto.hasher (.stream [frame codec message])).hash crypto.hasher =
      some (digest crypto (bytes ++ frame codec message)) :=
  hash_eq_digest lawful (holds_add_frame codec lawful holds message)

/-- The client adds both precommits before it sets the SHA-256 object; its
transcript then holds their frames. -/
theorem holds_precommitFrames_client (lawful : CryptoLawful crypto) :
    (((Transcript.empty.add crypto.hasher (.stream [frame codec (.clientPrecommit (clientPrecommit client))])).add
      crypto.hasher (.stream [frame codec (.serverPrecommit (serverPrecommit codec crypto client server))])).setHasher
        crypto.hasher crypto.newSha256Hash).2.Holds crypto.hasher (some crypto.newSha256Hash)
          (precommitFrames codec crypto client server) := by
  have holds := (Transcript.holds_empty.add lawful.incremental
    (.stream [frame codec (.clientPrecommit (clientPrecommit client))])).add lawful.incremental
      (.stream [frame codec (.serverPrecommit (serverPrecommit codec crypto client server))])
  simpa [precommitFrames, Input.contents] using (holds.setHasher crypto.newSha256Hash).2

/-- The server sets it between the two. -/
theorem holds_precommitFrames_server (lawful : CryptoLawful crypto) :
    ((Transcript.empty.add crypto.hasher (.stream [frame codec (.clientPrecommit (clientPrecommit client))])).setHasher
      crypto.hasher crypto.newSha256Hash).2.add crypto.hasher
        (.stream [frame codec (.serverPrecommit (serverPrecommit codec crypto client server))]) |>.Holds crypto.hasher
          (some crypto.newSha256Hash) (precommitFrames codec crypto client server) := by
  have holds := ((Transcript.holds_empty.add lawful.incremental
    (.stream [frame codec (.clientPrecommit (clientPrecommit client))])).setHasher crypto.newSha256Hash).2.add
      lawful.incremental (.stream [frame codec (.serverPrecommit (serverPrecommit codec crypto client server))])
  simpa [precommitFrames, Input.contents] using holds

/-! Each party's transcript holds the frames of the handshake so far. -/

theorem server1_holds (lawful : CryptoLawful crypto) :
    (server1 codec crypto client server).base.transcript.Holds crypto.hasher (some crypto.newSha256Hash)
      (precommitFrames codec crypto client server) :=
  holds_precommitFrames_server lawful

theorem client2_holds (lawful : CryptoLawful crypto) :
    (client2 codec crypto client server).base.transcript.Holds crypto.hasher (some crypto.newSha256Hash)
      (clientIdFrames codec crypto client server) :=
  holds_add_frame codec lawful (holds_precommitFrames_client lawful) _

theorem server2_holds (lawful : CryptoLawful crypto) :
    (server2 codec crypto client server).base.transcript.Holds crypto.hasher (some crypto.newSha256Hash)
      (serverIdFrames codec crypto client server ++ frame codec (.serverFinish (serverFinish codec crypto client server))) :=
  holds_add_frame codec lawful (holds_add_frame codec lawful (holds_add_frame codec lawful (server1_holds lawful) _) _) _

theorem clientBetween_holds (lawful : CryptoLawful crypto) :
    (clientBetween codec crypto client server).base.transcript.Holds crypto.hasher (some crypto.newSha256Hash)
      (serverIdFrames codec crypto client server) :=
  holds_add_frame codec lawful (client2_holds lawful) _

theorem client3_holds (lawful : CryptoLawful crypto) :
    (client3 codec crypto client server).base.transcript.Holds crypto.hasher (some crypto.newSha256Hash)
      (allFrames codec crypto client server) :=
  holds_add_frame codec lawful (holds_add_frame codec lawful (clientBetween_holds lawful) _) _

theorem server3_holds (lawful : CryptoLawful crypto) :
    (server3 codec crypto client server).base.transcript.Holds crypto.hasher (some crypto.newSha256Hash)
      (allFrames codec crypto client server) :=
  holds_add_frame codec lawful (server2_holds lawful) _

theorem length_digest_lt (lawful : CryptoLawful crypto) (bytes : List UInt8) : (digest crypto bytes).length < 2 ^ 32 := by
  obtain ⟨value, computed, fits⟩ := lawful.digests (crypto.hasher.update (crypto.hasher.init crypto.newSha256Hash) bytes)
  simpa [digest, computed] using fits

theorem length_challenge {party : Party EnclaveIdentity} (drawn : party.randomness.challenge.isSome) :
    party.challenge.length = kEkepChallengeSize := by
  obtain ⟨challenge, drawnIs⟩ := Option.isSome_iff_exists.mp drawn
  simp [Party.challenge, drawnIs, challenge.2]

/-- The server asks for the assertions it expects, -/
theorem serverRequests_descriptions (honest : Honest codec crypto client server) :
    (serverPrecommit codec crypto client server).serverRequests.map AssertionRequest.description =
      expectedClientAssertions codec crypto client server := by
  simp [serverPrecommit, Function.comp_def, honest.serverAuthorities.requestDescribes]

/-- and offers those it promised. -/
theorem serverOffers_descriptions (honest : Honest codec crypto client server) :
    (serverPrecommit codec crypto client server).serverOffers.map AssertionOffer.description =
      (promisedAssertions codec crypto client server).map AssertionRequest.description := by
  simp [serverPrecommit, Function.comp_def, honest.serverAuthorities.offerDescribes]

/-- What the server expects of the client, the client offered. -/
theorem mem_selfAssertions_of_expected (honest : Honest codec crypto client server) {description : AssertionDescription}
    (expected : description ∈ expectedClientAssertions codec crypto client server) :
    description ∈ client.options.selfAssertions := by
  simp only [expectedClientAssertions, ServerEkepHandshaker.verifiableOffers, List.mem_map, List.mem_filter] at expected
  obtain ⟨offer, ⟨offered, -⟩, rfl⟩ := expected
  simp only [clientPrecommit, List.mem_map] at offered
  obtain ⟨own, member, rfl⟩ := offered
  simpa [honest.clientAuthorities.offerDescribes] using member

/-- What the server promised the client, the client requested. -/
theorem mem_acceptedPeerAssertions_of_promised (honest : Honest codec crypto client server) {request : AssertionRequest}
    (promised : request ∈ promisedAssertions codec crypto client server) :
    request.description ∈ client.options.acceptedPeerAssertions := by
  simp only [promisedAssertions, ServerEkepHandshaker.generatableRequests, List.mem_filter] at promised
  obtain ⟨requested, -⟩ := promised
  simp only [clientPrecommit, List.mem_map] at requested
  obtain ⟨accepted, member, rfl⟩ := requested
  simpa [honest.clientAuthorities.requestDescribes] using member

/-- The context blob of a party's public key and a digest. -/
theorem makeEkepContextBlob_digest (lawful : CryptoLawful crypto) (party : Party EnclaveIdentity) (bytes : List UInt8) :
    makeEkepContextBlob (party.publicKey crypto) (digest crypto bytes) =
      some ((makeEkepContextBlob (party.publicKey crypto) (digest crypto bytes)).getD []) := by
  have keyFits : (party.publicKey crypto).length < 2 ^ 32 := by
    simp [Party.publicKey, (crypto.x25519PublicFromPrivate party.randomness.dhPrivateKey).2]
  obtain ⟨blob, made⟩ := Option.isSome_iff_exists.mp (makeEkepContextBlob_isSome keyFits (length_digest_lt lawful bytes))
  simp [made]

/-- The client's assertions, one for each of the server's requests. -/
theorem clientAssertions_generated (honest : Honest codec crypto client server) :
    generateAssertions (clientEnv codec crypto client) (clientContext codec crypto client server)
        (serverPrecommit codec crypto client server).serverRequests = .ok (clientAssertions codec crypto client server) ∧
      (clientAssertions codec crypto client server).map Assertion.description =
        expectedClientAssertions codec crypto client server := by
  obtain ⟨assertions, generated, described⟩ := generateAssertions_eq_ok (clientEnv codec crypto client)
    (clientContext codec crypto client server) _ fun request _ => honest.clientAuthorities.generates _ request
  have same : clientAssertions codec crypto client server = assertions := Except.toOption_getD_of_eq_ok [] generated
  rw [same]
  exact ⟨generated, described.trans (serverRequests_descriptions honest)⟩

/-- The server's assertions, one for each request it promised. -/
theorem serverAssertions_generated (honest : Honest codec crypto client server) :
    generateAssertions (serverEnv codec crypto server) (serverContext codec crypto client server)
        (promisedAssertions codec crypto client server) = .ok (serverAssertions codec crypto client server) ∧
      (serverAssertions codec crypto client server).map Assertion.description =
        (promisedAssertions codec crypto client server).map AssertionRequest.description := by
  obtain ⟨assertions, generated, described⟩ := generateAssertions_eq_ok (serverEnv codec crypto server)
    (serverContext codec crypto client server) _ fun request _ => honest.serverAuthorities.generates _ request
  have same : serverAssertions codec crypto client server = assertions := Except.toOption_getD_of_eq_ok [] generated
  rw [same]
  exact ⟨generated, described⟩

/-- The client's verifiers accept every assertion of the server's. -/
theorem serverIdentities_verified (honest : Honest codec crypto client server) :
    serverIdentities codec crypto client server = .ok ((serverIdentities codec crypto client server).toOption.getD []) := by
  obtain ⟨identities, verified⟩ := Except.exists_mapM_eq_ok fun assertion member => by
    obtain ⟨request, -, generated⟩ := generated_of_mem _ (serverAssertions_generated honest).1 member
    exact honest.clientVerifies _ request assertion generated
  unfold serverIdentities
  rw [verified]
  rfl

/-- The server's verifiers accept every assertion of the client's. -/
theorem clientIdentities_verified (honest : Honest codec crypto client server) :
    clientIdentities codec crypto client server = .ok ((clientIdentities codec crypto client server).toOption.getD []) := by
  obtain ⟨identities, verified⟩ := Except.exists_mapM_eq_ok fun assertion member => by
    obtain ⟨request, -, generated⟩ := generated_of_mem _ (clientAssertions_generated honest).1 member
    exact honest.serverVerifies _ request assertion generated
  unfold clientIdentities
  rw [verified]
  rfl

/-- The server derives the secrets from its private key and the client's public
key, -/
theorem secrets_derived (honest : Honest codec crypto client server) :
    deriveSecrets crypto .CURVE25519_SHA256 (digest crypto (serverIdFrames codec crypto client server))
      (client.publicKey crypto) server.randomness.dhPrivateKey.1 = .ok (secrets codec crypto client server) := by
  obtain ⟨derived, done⟩ := deriveSecrets_isOk crypto (digest crypto (serverIdFrames codec crypto client server))
    server.randomness.dhPrivateKey client.randomness.dhPrivateKey (honest.cryptoLawful.exchanges _ _)
    fun _ => honest.cryptoLawful.expands _ _ _ _
  rw [secrets, Party.publicKey, done]
  rfl

/-- and the client the same ones from its private key and the server's public key. -/
theorem secrets_derived_by_client (honest : Honest codec crypto client server) :
    deriveSecrets crypto .CURVE25519_SHA256 (digest crypto (serverIdFrames codec crypto client server))
      (server.publicKey crypto) client.randomness.dhPrivateKey.1 = .ok (secrets codec crypto client server) := by
  rw [Party.publicKey, deriveSecrets_agree crypto _ client.randomness.dhPrivateKey server.randomness.dhPrivateKey
    (honest.cryptoLawful.agreement _ _)]
  exact secrets_derived honest

theorem serverAuthenticator_computed (honest : Honest codec crypto client server) :
    computeServerHandshakeAuthenticator crypto .CURVE25519_SHA256 (secrets codec crypto client server).2 =
      .ok (serverFinish codec crypto client server).handshakeAuthenticator := by
  obtain ⟨mac, computed⟩ := hmac_isOk crypto (secrets codec crypto client server).2
    (stringBytes kServerAuthenticatedText) (honest.cryptoLawful.authenticates _ _)
  simp only [computeServerHandshakeAuthenticator, serverFinish, computeServerHandshakeAuthenticator, computed]
  rfl

theorem clientAuthenticator_computed (honest : Honest codec crypto client server) :
    computeClientHandshakeAuthenticator crypto .CURVE25519_SHA256 (secrets codec crypto client server).2 =
      .ok (clientFinish codec crypto client server).handshakeAuthenticator := by
  obtain ⟨mac, computed⟩ := hmac_isOk crypto (secrets codec crypto client server).2
    (stringBytes kClientAuthenticatedText) (honest.cryptoLawful.authenticates _ _)
  simp only [computeClientHandshakeAuthenticator, clientFinish, computeClientHandshakeAuthenticator, computed]
  rfl

theorem recordProtocolKey_derived (honest : Honest codec crypto client server) :
    deriveRecordProtocolKey crypto .CURVE25519_SHA256 .ALTSRP_AES128_GCM (digest crypto (allFrames codec crypto client server))
      (secrets codec crypto client server).1 = .ok (recordProtocolKey codec crypto client server) := by
  obtain ⟨key, expanded⟩ := Option.isSome_iff_exists.mp (honest.cryptoLawful.expands kAltsRecordProtocolAes128GcmKeySize
    (secrets codec crypto client server).1 (stringBytes kEkepHkdfSaltRecordProtocol)
      (digest crypto (allFrames codec crypto client server)))
  simp only [recordProtocolKey, deriveRecordProtocolKey, expanded]
  rfl

/-- What the client's `HandleServerPrecommit` checks of the server's requests and
offers: there are some, and they are among what the client offered and
requested. -/
theorem serverPrecommit_checked (honest : Honest codec crypto client server) :
    (serverPrecommit codec crypto client server).serverRequests ≠ [] ∧
      (∀ request ∈ (serverPrecommit codec crypto client server).serverRequests,
        request.description ∈ client.options.selfAssertions) ∧
      (serverPrecommit codec crypto client server).serverOffers ≠ [] ∧
      (∀ offer ∈ (serverPrecommit codec crypto client server).serverOffers,
        offer.description ∈ client.options.acceptedPeerAssertions) := by
  have requests := serverRequests_descriptions honest
  have offers := serverOffers_descriptions honest
  refine ⟨?_, ?_, ?_, ?_⟩
  · intro empty
    exact honest.expectsSome (by rw [← requests, empty]; rfl)
  · intro request member
    exact mem_selfAssertions_of_expected honest (requests ▸ List.mem_map_of_mem member)
  · intro empty
    have none : (promisedAssertions codec crypto client server).map AssertionRequest.description = [] := by
      rw [← offers, empty]; rfl
    exact honest.promisesSome (List.map_eq_nil_iff.mp none)
  · intro offer member
    obtain ⟨request, promised, same⟩ := List.mem_map.mp (offers ▸ List.mem_map_of_mem member)
    exact same ▸ mem_acceptedPeerAssertions_of_promised honest promised

end Facts

/-! ## The calls -/

section Calls

variable {State EnclaveIdentity : Type} {codec : MessageCodec} {crypto : Crypto State}
  {client server : Party EnclaveIdentity}

/-- The client's first call sends `ClientPrecommit`. -/
theorem client_call1 (honest : Honest codec crypto client server) :
    (ClientEkepHandshaker.role (clientEnv codec crypto client)).nextHandshakeStep (clientEnv codec crypto client)
      (client0 client) [] [] =
      (.IN_PROGRESS, client1 codec crypto client, frame codec (.clientPrecommit (clientPrecommit client))) := by
  obtain ⟨challenge, drawn⟩ := Option.isSome_iff_exists.mp honest.clientChallenge
  have sent := honest_message honest (.clientPrecommit (clientPrecommit client)) (by simp [messages])
  have written : (ClientEkepHandshaker.writeClientPrecommit (clientEnv codec crypto client)).run (client0 client, []) = _ :=
    ClientEkepHandshaker.run_writeClientPrecommit drawn (createAssertionOffers_client honest)
      (createAssertionRequests_client honest)
      (by simp [clientPrecommit, client0, ClientEkepHandshaker.init, Party.challenge, Party.precommitOptions, drawn])
      sent.2.1
  have started := ClientEkepHandshaker.startHandshake_of_run written
  refine (Role.nextHandshakeStep_start rfl rfl rfl started rfl).trans ?_
  simp [client1, client0, ClientEkepHandshaker.init, EkepHandshakerBase.init, clientEnv, frame,
    HandshakeMessage.messageType]

/-- The server's first call answers `ClientPrecommit` with `ServerPrecommit`. -/
theorem server_call1 (honest : Honest codec crypto client server) :
    (ServerEkepHandshaker.role (serverEnv codec crypto server)).nextHandshakeStep (serverEnv codec crypto server)
      (server0 server) (frame codec (.clientPrecommit (clientPrecommit client))) [] =
      (.IN_PROGRESS, server1 codec crypto client server,
        frame codec (.serverPrecommit (serverPrecommit codec crypto client server))) := by
  obtain ⟨challenge, drawn⟩ := Option.isSome_iff_exists.mp honest.serverChallenge
  have received := honest_message honest (.clientPrecommit (clientPrecommit client)) (by simp [messages])
  have sent := honest_message honest (.serverPrecommit (serverPrecommit codec crypto client server)) (by simp [messages])
  simp only [frame, HandshakeMessage.messageType] at received sent ⊢
  refine Role.nextHandshakeStep_oneFrame (ServerEkepHandshaker.role_lawful _) rfl rfl rfl rfl (by decide) (by decide)
    received.2.2 honest.serverSmall rfl received.1 ?_ rfl
  refine ServerEkepHandshaker.handleHandshakeMessage_clientPrecommit ?_ rfl
  refine (@ServerEkepHandshaker.run_handleClientPrecommit _ _ _ _ _ _ "EKEP v1" .ALTSRP_AES128_GCM rfl rfl rfl
    (length_challenge honest.clientChallenge) (by exact honest.expectsSome) (by exact honest.promisesSome)).trans ?_
  refine (@ServerEkepHandshaker.run_writeServerPrecommit _ _ _ _ _ _ _ (digest crypto (precommitFrames codec crypto client server))
    drawn ?_ sent.2.2 ?_).trans ?_
  · simp [serverPrecommit, promisedAssertions, expectedClientAssertions, ServerEkepHandshaker.verifiableOffers,
      ServerEkepHandshaker.generatableRequests, server0, ServerEkepHandshaker.init, ServerEkepHandshaker.role,
      ServerEkepHandshaker.lens, serverEnv, Party.challenge, Party.precommitOptions, drawn]
  · have holds := ((Transcript.holds_empty.add honest.cryptoLawful.incremental
      (.stream [frameBytes .CLIENT_PRECOMMIT (codec.serialize (.clientPrecommit (clientPrecommit client)))])).setHasher
        crypto.newSha256Hash).2.add honest.cryptoLawful.incremental
          (.stream [frameBytes .SERVER_PRECOMMIT (codec.serialize (.serverPrecommit (serverPrecommit codec crypto client server)))])
    exact (hash_eq_digest honest.cryptoLawful holds).trans (by simp [precommitFrames, frame, Input.contents,
      HandshakeMessage.messageType])
  · simp [server1, server0, ServerEkepHandshaker.init, EkepHandshakerBase.init, ServerEkepHandshaker.role,
      ServerEkepHandshaker.lens, serverEnv, expectedClientAssertions, promisedAssertions,
      ServerEkepHandshaker.verifiableOffers, ServerEkepHandshaker.generatableRequests, frame,
      HandshakeMessage.messageType, InputStream.empty]

/-- The client's second call answers `ServerPrecommit` with `ClientId`. -/
theorem client_call2 (honest : Honest codec crypto client server) :
    (ClientEkepHandshaker.role (clientEnv codec crypto client)).nextHandshakeStep (clientEnv codec crypto client)
      (client1 codec crypto client) (frame codec (.serverPrecommit (serverPrecommit codec crypto client server))) [] =
      (.IN_PROGRESS, client2 codec crypto client server, frame codec (.clientId (clientId codec crypto client server))) := by
  have received := honest_message honest (.serverPrecommit (serverPrecommit codec crypto client server))
    (by simp [messages])
  have sent := honest_message honest (.clientId (clientId codec crypto client server)) (by simp [messages])
  simp only [frame, HandshakeMessage.messageType] at received sent ⊢
  refine Role.nextHandshakeStep_oneFrame (ClientEkepHandshaker.role_lawful _) rfl rfl rfl rfl (by decide) (by decide)
    received.2.1 honest.clientSmall rfl received.1 ?_ rfl
  refine ClientEkepHandshaker.handleHandshakeMessage_serverPrecommit ?_ rfl
  obtain ⟨requested, requestsOffered, offered, offersRequested⟩ := serverPrecommit_checked honest
  refine (ClientEkepHandshaker.run_handleServerPrecommit (List.mem_singleton_self _) rfl (List.mem_singleton_self _)
    (List.mem_singleton_self _) (length_challenge honest.serverChallenge) requested requestsOffered offered
    offersRequested).trans ?_
  refine (@ClientEkepHandshaker.run_writeClientId _ _ _ _ _ _ (digest crypto (precommitFrames codec crypto client server))
    (clientContext codec crypto client server) (digest crypto (clientIdFrames codec crypto client server))
    (clientAssertions codec crypto client server) rfl
    (hash_eq_digest honest.cryptoLawful (holds_precommitFrames_client honest.cryptoLawful)) (makeEkepContextBlob_digest honest.cryptoLawful client _)
    (clientAssertions_generated honest).1 (by exact sent.2.1)
    (by exact hash_add_frame codec honest.cryptoLawful (holds_precommitFrames_client honest.cryptoLawful) _)).trans ?_
  simp [client2, client1, client0, ClientEkepHandshaker.init, EkepHandshakerBase.init, ClientEkepHandshaker.role,
    ClientEkepHandshaker.lens, clientEnv, frame, HandshakeMessage.messageType, clientId, Party.publicKey,
    InputStream.empty, serverPrecommit]

/-- The server's second call answers `ClientId` with `ServerId` and `ServerFinish`. -/
theorem server_call2 (honest : Honest codec crypto client server) :
    (ServerEkepHandshaker.role (serverEnv codec crypto server)).nextHandshakeStep (serverEnv codec crypto server)
      (server1 codec crypto client server) (frame codec (.clientId (clientId codec crypto client server))) [] =
      (.IN_PROGRESS, server2 codec crypto client server,
        frame codec (.serverId (serverId codec crypto client server)) ++
          frame codec (.serverFinish (serverFinish codec crypto client server))) := by
  have received := honest_message honest (.clientId (clientId codec crypto client server)) (by simp [messages])
  have sentId := honest_message honest (.serverId (serverId codec crypto client server)) (by simp [messages])
  have sentFinish := honest_message honest (.serverFinish (serverFinish codec crypto client server)) (by simp [messages])
  have lawful := honest.cryptoLawful
  have throughClientId := holds_add_frame codec lawful (@server1_holds _ _ codec crypto client server lawful)
    (.clientId (clientId codec crypto client server))
  simp only [frame, HandshakeMessage.messageType] at received sentId sentFinish ⊢
  refine Role.nextHandshakeStep_oneFrame (ServerEkepHandshaker.role_lawful _) rfl rfl rfl rfl (by decide) (by decide)
    received.2.2 honest.serverSmall rfl received.1 ?_ rfl
  refine ServerEkepHandshaker.handleHandshakeMessage_clientId ?_ rfl
  refine (ServerEkepHandshaker.run_handleClientId (by exact makeEkepContextBlob_digest lawful client _)
    (by exact clientIdentities_verified honest) (by exact (clientAssertions_generated honest).2.symm)).trans ?_
  refine (@ServerEkepHandshaker.run_writeServerId _ _ _ _ _ (digest crypto (clientIdFrames codec crypto client server))
    (serverContext codec crypto client server) (serverAssertions codec crypto client server) rfl
    (by exact hash_eq_digest lawful throughClientId) (makeEkepContextBlob_digest lawful server _)
    (by exact (serverAssertions_generated honest).1) (by exact sentId.2.2)).trans ?_
  refine (ServerEkepHandshaker.run_writeServerFinish (by exact hash_add_frame codec lawful throughClientId _)
    (by exact secrets_derived honest) (by exact serverAuthenticator_computed honest) (by exact sentFinish.2.2)).trans ?_
  simp [server2, server1, server0, ServerEkepHandshaker.init, EkepHandshakerBase.init, ServerEkepHandshaker.role,
    ServerEkepHandshaker.lens, serverEnv, frame, HandshakeMessage.messageType, clientId, serverId, Party.publicKey,
    InputStream.empty]
  exact ⟨rfl, rfl⟩

/-- The client takes `ServerId`, with `ServerFinish` still unread behind it. -/
theorem clientBetween_handled (honest : Honest codec crypto client server) :
    ClientEkepHandshaker.handleHandshakeMessage (clientEnv codec crypto client)
      { client2 codec crypto client server with base := { (client2 codec crypto client server).base with
        transcript := (client2 codec crypto client server).base.transcript.add crypto.hasher
          (.stream [frame codec (.serverId (serverId codec crypto client server))])
        inputStream := ⟨[], frame codec (.serverFinish (serverFinish codec crypto client server))⟩ } }
      .SERVER_ID (.serverId (serverId codec crypto client server)) [] =
      (.IN_PROGRESS, clientBetween codec crypto client server, []) := by
  have lawful := honest.cryptoLawful
  refine ClientEkepHandshaker.handleHandshakeMessage_serverId ?_ rfl
  have expected : (client2 codec crypto client server).expectedPeerAssertions =
      (serverAssertions codec crypto client server).map Assertion.description :=
    (serverOffers_descriptions honest).trans (serverAssertions_generated honest).2.symm
  refine (ClientEkepHandshaker.run_handleServerId (by exact makeEkepContextBlob_digest lawful server _)
    (by exact serverIdentities_verified honest) expected (by exact hash_add_frame codec lawful (client2_holds lawful) _)
    (by exact secrets_derived_by_client honest)).trans ?_
  simp [clientBetween, client2, client1, client0, ClientEkepHandshaker.init, EkepHandshakerBase.init, serverId]
  exact ⟨rfl, rfl⟩

/-- and then `ServerFinish`, which completes its handshake. -/
theorem client3_handled (honest : Honest codec crypto client server) :
    ClientEkepHandshaker.handleHandshakeMessage (clientEnv codec crypto client)
      { clientBetween codec crypto client server with base := { (clientBetween codec crypto client server).base with
        transcript := (clientBetween codec crypto client server).base.transcript.add crypto.hasher
          (.stream [frame codec (.serverFinish (serverFinish codec crypto client server))])
        inputStream := ⟨[], []⟩ } }
      .SERVER_FINISH (.serverFinish (serverFinish codec crypto client server)) [] =
      (.COMPLETED, client3 codec crypto client server, frame codec (.clientFinish (clientFinish codec crypto client server))) := by
  have lawful := honest.cryptoLawful
  have sent := honest_message honest (.clientFinish (clientFinish codec crypto client server)) (by simp [messages])
  refine (ClientEkepHandshaker.handleHandshakeMessage_serverFinish
    (ClientEkepHandshaker.run_handleServerFinish (by exact serverAuthenticator_computed honest)
      (by exact clientAuthenticator_computed honest) (by exact sent.2.1))
    (by exact hash_eq_digest lawful (client3_holds lawful)) (by exact recordProtocolKey_derived honest)).trans ?_
  simp [client3, clientBetween, clientFinish, clientEnv, frame, HandshakeMessage.messageType]

/-- The client's third call takes `ServerId` and `ServerFinish`, which came
together, and completes its handshake with `ClientFinish`. -/
theorem client_call3 (honest : Honest codec crypto client server) :
    (ClientEkepHandshaker.role (clientEnv codec crypto client)).nextHandshakeStep (clientEnv codec crypto client)
      (client2 codec crypto client server)
      (frame codec (.serverId (serverId codec crypto client server)) ++
        frame codec (.serverFinish (serverFinish codec crypto client server))) [] =
      (.COMPLETED, client3 codec crypto client server, frame codec (.clientFinish (clientFinish codec crypto client server))) := by
  have receivedId := honest_message honest (.serverId (serverId codec crypto client server)) (by simp [messages])
  have receivedFinish := honest_message honest (.serverFinish (serverFinish codec crypto client server))
    (by simp [messages])
  have handled := clientBetween_handled honest
  have handled' := client3_handled honest
  have waiting : (clientBetween codec crypto client server).base.inputStream =
      ⟨[], frame codec (.serverFinish (serverFinish codec crypto client server)) ++ []⟩ := by
    simp [clientBetween]
  simp only [frame, HandshakeMessage.messageType] at receivedId receivedFinish handled handled' waiting ⊢
  exact Role.nextHandshakeStep_twoFrames (ClientEkepHandshaker.role_lawful _) rfl rfl rfl rfl (by decide) (by decide)
    receivedId.2.1 honest.clientSmall rfl receivedId.1 handled waiting (by decide) (by decide) receivedFinish.2.1
    honest.clientSmall rfl receivedFinish.1 handled' (by decide)

/-- The server's third call checks `ClientFinish` and completes its handshake,
writing nothing. -/
theorem server_call3 (honest : Honest codec crypto client server) :
    (ServerEkepHandshaker.role (serverEnv codec crypto server)).nextHandshakeStep (serverEnv codec crypto server)
      (server2 codec crypto client server) (frame codec (.clientFinish (clientFinish codec crypto client server))) [] =
      (.COMPLETED, server3 codec crypto client server, []) := by
  have received := honest_message honest (.clientFinish (clientFinish codec crypto client server)) (by simp [messages])
  have lawful := honest.cryptoLawful
  simp only [frame, HandshakeMessage.messageType] at received ⊢
  refine Role.nextHandshakeStep_oneFrame (ServerEkepHandshaker.role_lawful _) rfl rfl rfl rfl (by decide) (by decide)
    received.2.2 honest.serverSmall rfl received.1 ?_ rfl
  refine (ServerEkepHandshaker.handleHandshakeMessage_clientFinish
    (ServerEkepHandshaker.run_handleClientFinish (by exact clientAuthenticator_computed honest))
    (by exact hash_eq_digest lawful (server3_holds lawful)) (by exact recordProtocolKey_derived honest)).trans ?_
  simp [server3, server2, server1, server0, ServerEkepHandshaker.init, EkepHandshakerBase.init, InputStream.empty,
    ServerEkepHandshaker.role, ServerEkepHandshaker.lens, serverEnv, frame, HandshakeMessage.messageType]

end Calls

/-! ## The whole run -/

section Run

variable {State EnclaveIdentity : Type} {codec : MessageCodec} {crypto : Crypto State}
  {client server : Party EnclaveIdentity}

/-- Two completed parties stay as they are, whatever the relay brings them. -/
theorem relay_of_completed {clientEnv serverEnv : Environment State EnclaveIdentity}
    {clientDone : ClientEkepHandshaker State EnclaveIdentity} {serverDone : ServerEkepHandshaker State EnclaveIdentity}
    (clientCompleted : clientDone.isHandshakeCompleted = true) (serverCompleted : serverDone.isHandshakeCompleted = true)
    (rounds : Nat) (toClient : List UInt8) :
    relay clientEnv serverEnv rounds clientDone serverDone toClient = (clientDone, serverDone) := by
  induction rounds generalizing toClient with
  | zero => rfl
  | succ rounds ih =>
    have clientStays : (ClientEkepHandshaker.role clientEnv).nextHandshakeStep clientEnv clientDone toClient [] = _ :=
      Role.nextHandshakeStep_of_completed clientCompleted toClient []
    have serverStays : (ServerEkepHandshaker.role serverEnv).nextHandshakeStep serverEnv serverDone [] [] = _ :=
      Role.nextHandshakeStep_of_completed serverCompleted [] []
    simp only [relay, clientStays, serverStays, ih]

/-- Three rounds of the relay take the honest parties from their initial states
to the end of the handshake, where they stay. -/
theorem relay_honest (honest : Honest codec crypto client server) (rounds : Nat) :
    relay (clientEnv codec crypto client) (serverEnv codec crypto server) (rounds + 3) (client0 client) (server0 server) [] =
      (client3 codec crypto client server, server3 codec crypto client server) := by
  simp only [relay, client_call1 honest, server_call1 honest, client_call2 honest, server_call2 honest,
    client_call3 honest, server_call3 honest]
  exact relay_of_completed rfl rfl rounds []

/-! ## A configuration that is honest

`Honest` can be met: by two parties with the options, randomness and
authorities of the sample client of `EkepFrameProofs`, whose verifier accepts
everything, and a codec that writes each message as nothing and reads back the
session's message of its type. -/

def sampleParty : Party Unit := ⟨sampleOptions, sampleRandomness, sampleAuthorities⟩

/-- The codec's writing half, on which the session's messages depend. -/
def sampleWriter : MessageCodec := ⟨fun _ => [], fun _ _ => none⟩

def sampleCodec : MessageCodec where
  serialize := sampleWriter.serialize
  parse messageType _ :=
    (messages sampleWriter sampleCrypto sampleParty sampleParty).find? (·.messageType == messageType)

theorem honest_sample : Honest sampleCodec sampleCrypto sampleParty sampleParty where
  cryptoLawful :=
    { incremental := fun _ _ _ => List.append_assoc _ _ _
      digests := fun _ => ⟨[], rfl, by decide⟩
      agreement := fun _ _ => rfl
      exchanges := fun _ _ => rfl
      expands := fun _ _ _ _ => rfl
      authenticates := fun _ _ => rfl }
  clientAuthorities := ⟨fun _ => rfl, fun _ => rfl, fun _ _ => ⟨_, rfl, rfl⟩⟩
  serverAuthorities := ⟨fun _ => rfl, fun _ => rfl, fun _ _ => ⟨_, rfl, rfl⟩⟩
  parses := by
    -- the messages depend on the codec only through its writing half
    have written : messages sampleCodec sampleCrypto sampleParty sampleParty =
        messages sampleWriter sampleCrypto sampleParty sampleParty := rfl
    rw [written]
    intro message member
    simp only [messages, List.mem_cons, List.not_mem_nil, or_false] at member
    rcases member with rfl | rfl | rfl | rfl | rfl | rfl <;> rfl
  clientFits _ _ := show kMessageTypeSize + 0 ≤ 2 ^ 20 by decide
  serverFits _ _ := show kMessageTypeSize + 0 ≤ 2 ^ 20 by decide
  clientSmall := by decide
  serverSmall := by decide
  clientChallenge := rfl
  serverChallenge := rfl
  offersCreated _ _ := rfl
  requestsCreated _ _ := rfl
  clientVerifies _ _ _ _ := ⟨(), rfl⟩
  serverVerifies _ _ _ _ := ⟨(), rfl⟩
  expectsSome := by decide
  promisesSome := by decide

/-- Three rounds of the relay between two sample parties. -/
def sampleRun : ClientEkepHandshaker (List UInt8) Unit × ServerEkepHandshaker (List UInt8) Unit :=
  relay (clientEnv sampleCodec sampleCrypto sampleParty) (serverEnv sampleCodec sampleCrypto sampleParty) 3
    (client0 sampleParty) (server0 sampleParty) []

/-- After an honest handshake, however many rounds the relay runs beyond the
third, both parties' getters succeed: they give the record protocol the server
selected and one and the same key, and no unused bytes. -/
theorem honest_handshake_agrees (honest : Honest codec crypto client server) (rounds : Nat)
    {clientEnd : ClientEkepHandshaker State EnclaveIdentity} {serverEnd : ServerEkepHandshaker State EnclaveIdentity}
    (ran : relay (clientEnv codec crypto client) (serverEnv codec crypto server) (rounds + 3) (client0 client)
      (server0 server) [] = (clientEnd, serverEnd)) :
    ((ClientEkepHandshaker.role (clientEnv codec crypto client)).view clientEnd).getRecordProtocol =
        .ok .ALTSRP_AES128_GCM ∧
      ((ServerEkepHandshaker.role (serverEnv codec crypto server)).view serverEnd).getRecordProtocol =
        .ok .ALTSRP_AES128_GCM ∧
      ((ClientEkepHandshaker.role (clientEnv codec crypto client)).view clientEnd).getRecordProtocolKey =
        .ok (recordProtocolKey codec crypto client server) ∧
      ((ServerEkepHandshaker.role (serverEnv codec crypto server)).view serverEnd).getRecordProtocolKey =
        .ok (recordProtocolKey codec crypto client server) ∧
      ((ClientEkepHandshaker.role (clientEnv codec crypto client)).view clientEnd).getUnusedBytes = .ok [] ∧
      ((ServerEkepHandshaker.role (serverEnv codec crypto server)).view serverEnd).getUnusedBytes = .ok [] := by
  obtain ⟨rfl, rfl⟩ := Prod.mk.inj ((relay_honest honest rounds).symm.trans ran)
  exact ⟨rfl, rfl, rfl, rfl, rfl, rfl⟩

theorem honest_handshake_agrees_sample :
    Honest sampleCodec sampleCrypto sampleParty sampleParty ∧
      ((ClientEkepHandshaker.role (clientEnv sampleCodec sampleCrypto sampleParty)).view sampleRun.1).getRecordProtocol =
        .ok .ALTSRP_AES128_GCM ∧
      ((ServerEkepHandshaker.role (serverEnv sampleCodec sampleCrypto sampleParty)).view sampleRun.2).getRecordProtocol =
        .ok .ALTSRP_AES128_GCM ∧
      ((ClientEkepHandshaker.role (clientEnv sampleCodec sampleCrypto sampleParty)).view sampleRun.1).getRecordProtocolKey =
        .ok (recordProtocolKey sampleCodec sampleCrypto sampleParty sampleParty) ∧
      ((ServerEkepHandshaker.role (serverEnv sampleCodec sampleCrypto sampleParty)).view sampleRun.2).getRecordProtocolKey =
        .ok (recordProtocolKey sampleCodec sampleCrypto sampleParty sampleParty) ∧
      ((ClientEkepHandshaker.role (clientEnv sampleCodec sampleCrypto sampleParty)).view sampleRun.1).getUnusedBytes =
        .ok [] ∧
      ((ServerEkepHandshaker.role (serverEnv sampleCodec sampleCrypto sampleParty)).view sampleRun.2).getUnusedBytes =
        .ok [] :=
  ⟨honest_sample, honest_handshake_agrees honest_sample 0 (Prod.eta sampleRun).symm⟩

/-- and each party's peer identities are those its own verifiers find in the
other's assertions, all of which they accept. -/
theorem honest_handshake_identifies (honest : Honest codec crypto client server) (rounds : Nat)
    {clientEnd : ClientEkepHandshaker State EnclaveIdentity} {serverEnd : ServerEkepHandshaker State EnclaveIdentity}
    (ran : relay (clientEnv codec crypto client) (serverEnv codec crypto server) (rounds + 3) (client0 client)
      (server0 server) [] = (clientEnd, serverEnd)) :
    ((ClientEkepHandshaker.role (clientEnv codec crypto client)).view clientEnd).getPeerIdentities =
        serverIdentities codec crypto client server ∧
      ((ServerEkepHandshaker.role (serverEnv codec crypto server)).view serverEnd).getPeerIdentities =
        clientIdentities codec crypto client server := by
  obtain ⟨rfl, rfl⟩ := Prod.mk.inj ((relay_honest honest rounds).symm.trans ran)
  exact ⟨(serverIdentities_verified honest).symm, (clientIdentities_verified honest).symm⟩

theorem honest_handshake_identifies_sample :
    Honest sampleCodec sampleCrypto sampleParty sampleParty ∧
      ((ClientEkepHandshaker.role (clientEnv sampleCodec sampleCrypto sampleParty)).view sampleRun.1).getPeerIdentities =
        serverIdentities sampleCodec sampleCrypto sampleParty sampleParty ∧
      ((ServerEkepHandshaker.role (serverEnv sampleCodec sampleCrypto sampleParty)).view sampleRun.2).getPeerIdentities =
        clientIdentities sampleCodec sampleCrypto sampleParty sampleParty :=
  ⟨honest_sample, honest_handshake_identifies honest_sample 0 (Prod.eta sampleRun).symm⟩

end Run

end Session

end Asylo.Ekep
