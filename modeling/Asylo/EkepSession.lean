import Asylo.ServerEkepHandshakerProofs

/-! The handshake two honest parties run, stated on its own: the six messages of
EKEP (`ClientPrecommit`; `ServerPrecommit`; `ClientId`; `ServerId` and
`ServerFinish` at once; `ClientFinish`), each computed from the parties'
configurations and the frames before it, with the secrets and the record
protocol key they lead to. This is the protocol as a specification states it,
message by message, not as the handshakers compute it; `EkepHonestRun` proves that
the handshakers, relayed to each other, follow it.

`Honest` collects what the run assumes of what the handshakers take from
libraries and registries: a codec that reads the six messages back and frames
that fit, a hash whose two `Update`s are one, X25519 whose two parties agree, and
authorities whose offers, requests and assertions describe what they are for and
whose verifiers accept what the other party's generators make. -/
namespace Asylo.Ekep

open DcapVerifier (AssertionDescription Assertion)

/-- What one party of a handshake is given: its options, the random bytes it
draws and the assertion authorities of its registries. -/
structure Party (EnclaveIdentity : Type) where
  options : EkepHandshakerOptions
  randomness : Randomness
  authorities : AssertionAuthorities EnclaveIdentity

namespace Party

variable {EnclaveIdentity : Type} (party : Party EnclaveIdentity)

/-- The challenge the party sends. -/
def challenge : List UInt8 := (party.randomness.challenge.map Subtype.val).getD []

/-- The `options` field of the party's precommit. -/
def precommitOptions : Option (List UInt8) :=
  if party.options.additionalAuthenticatedData.isEmpty then none else some party.options.additionalAuthenticatedData

/-- The public half of the party's X25519 pair. -/
def publicKey {State : Type} (crypto : Crypto State) : List UInt8 :=
  (crypto.x25519PublicFromPrivate party.randomness.dhPrivateKey).1

end Party

/-- What the handshake takes of BoringSSL: an incremental SHA-256 whose digests
fit a 32-bit length, X25519 whose two parties compute the same secret, and HKDF
and HMAC that succeed. -/
structure CryptoLawful {State : Type} (crypto : Crypto State) : Prop where
  incremental : crypto.hasher.Incremental
  digests : ∀ object, ∃ digest, crypto.hasher.cumulativeHash object = some digest ∧ digest.length < 2 ^ 32
  agreement : ∀ own peer : UnsafeBytes 32, crypto.x25519 own.1 (crypto.x25519PublicFromPrivate peer).1 =
    crypto.x25519 peer.1 (crypto.x25519PublicFromPrivate own).1
  exchanges : ∀ own peer : UnsafeBytes 32, (crypto.x25519 own.1 (crypto.x25519PublicFromPrivate peer).1).isSome
  expands : ∀ outLength secret salt info, (crypto.hkdfSha256 outLength secret salt info).isSome
  authenticates : ∀ key text, (crypto.hmacSha256 key text).isSome

/-- What the handshake takes of a party's authorities: an offer and a request
describe the assertion they are for, and a generator makes an assertion of the
description it is asked for. -/
structure AuthoritiesLawful {EnclaveIdentity : Type} (authorities : AssertionAuthorities EnclaveIdentity) : Prop where
  offerDescribes : ∀ description, (authorities.generator description).createAssertionOffer.2.description = description
  requestDescribes : ∀ description,
    (authorities.verifier description).createAssertionRequest.2.description = description
  generates : ∀ context request, ∃ assertion,
    (authorities.generator request.description).generate context request = .ok assertion ∧
      assertion.description = request.description

namespace Session

variable {State EnclaveIdentity : Type} (codec : MessageCodec) (crypto : Crypto State)
  (client server : Party EnclaveIdentity)

def clientEnv : Environment State EnclaveIdentity := ⟨codec, crypto, client.authorities⟩
def serverEnv : Environment State EnclaveIdentity := ⟨codec, crypto, server.authorities⟩

/-- The digest of `bytes` by a fresh SHA-256 object. -/
def digest (bytes : List UInt8) : List UInt8 :=
  (crypto.hasher.cumulativeHash (crypto.hasher.update (crypto.hasher.init crypto.newSha256Hash) bytes)).getD []

/-- The frame of a message. -/
def frame (message : HandshakeMessage) : List UInt8 := frameBytes message.messageType (codec.serialize message)

/-- The client's offers and requests, one for each of its self and accepted
peer assertions, its version, cipher suite and record protocol. -/
def clientPrecommit : ClientPrecommit where
  availableEkepVersions := ["EKEP v1"]
  availableCipherSuites := [.CURVE25519_SHA256]
  availableRecordProtocols := [.ALTSRP_AES128_GCM]
  options := client.precommitOptions
  clientOffers := client.options.selfAssertions.map fun description =>
    (client.authorities.generator description).createAssertionOffer.2
  clientRequests := client.options.acceptedPeerAssertions.map fun description =>
    (client.authorities.verifier description).createAssertionRequest.2
  challenge := client.challenge

/-- The descriptions of the client's assertions the server will check: those of
the offers it accepts and can verify. -/
def expectedClientAssertions : List AssertionDescription :=
  (ServerEkepHandshaker.verifiableOffers (serverEnv codec crypto server)
    (ServerEkepHandshaker.init server.options server.randomness : ServerEkepHandshaker State EnclaveIdentity)
    (clientPrecommit client).clientOffers).map AssertionOffer.description

/-- The client's requests the server will satisfy. -/
def promisedAssertions : List AssertionRequest :=
  ServerEkepHandshaker.generatableRequests (serverEnv codec crypto server)
    (ServerEkepHandshaker.init server.options server.randomness : ServerEkepHandshaker State EnclaveIdentity)
    (clientPrecommit client).clientRequests

def serverPrecommit : ServerPrecommit where
  selectedEkepVersion := "EKEP v1"
  selectedCipherSuite := .CURVE25519_SHA256
  selectedRecordProtocol := .ALTSRP_AES128_GCM
  options := server.precommitOptions
  serverOffers := (promisedAssertions codec crypto client server).map fun request =>
    (server.authorities.generator request.description).createAssertionOffer.2
  serverRequests := (expectedClientAssertions codec crypto client server).map fun description =>
    (server.authorities.verifier description).createAssertionRequest.2
  challenge := server.challenge

/-- The frames of the two precommits. -/
def precommitFrames : List UInt8 :=
  frame codec (.clientPrecommit (clientPrecommit client)) ++
    frame codec (.serverPrecommit (serverPrecommit codec crypto client server))

/-- What the client binds its assertions to: its public key and the transcript
through `ServerPrecommit`. -/
def clientContext : List UInt8 :=
  (makeEkepContextBlob (client.publicKey crypto) (digest crypto (precommitFrames codec crypto client server))).getD []

def clientAssertions : List Assertion :=
  (generateAssertions (clientEnv codec crypto client) (clientContext codec crypto client server)
    (serverPrecommit codec crypto client server).serverRequests).toOption.getD []

def clientId : ClientId := ⟨client.publicKey crypto, clientAssertions codec crypto client server⟩

/-- The frames through `ClientId`. -/
def clientIdFrames : List UInt8 :=
  precommitFrames codec crypto client server ++ frame codec (.clientId (clientId codec crypto client server))

/-- What the server binds its assertions to: its public key and the transcript
through `ClientId`. -/
def serverContext : List UInt8 :=
  (makeEkepContextBlob (server.publicKey crypto) (digest crypto (clientIdFrames codec crypto client server))).getD []

def serverAssertions : List Assertion :=
  (generateAssertions (serverEnv codec crypto server) (serverContext codec crypto client server)
    (promisedAssertions codec crypto client server)).toOption.getD []

def serverId : ServerId := ⟨server.publicKey crypto, serverAssertions codec crypto client server⟩

/-- The frames through `ServerId`, from which the secrets are derived. -/
def serverIdFrames : List UInt8 :=
  clientIdFrames codec crypto client server ++ frame codec (.serverId (serverId codec crypto client server))

/-- The primary and the authenticator secret, from the server's private key and
the client's public key. -/
def secrets : List UInt8 × List UInt8 :=
  (deriveSecrets crypto .CURVE25519_SHA256 (digest crypto (serverIdFrames codec crypto client server))
    (client.publicKey crypto) server.randomness.dhPrivateKey.1).toOption.getD ([], [])

def serverFinish : ServerFinish :=
  ⟨(computeServerHandshakeAuthenticator crypto .CURVE25519_SHA256
    (secrets codec crypto client server).2).toOption.getD []⟩

def clientFinish : ClientFinish :=
  ⟨(computeClientHandshakeAuthenticator crypto .CURVE25519_SHA256
    (secrets codec crypto client server).2).toOption.getD []⟩

/-- All the frames of the handshake. -/
def allFrames : List UInt8 :=
  serverIdFrames codec crypto client server ++ frame codec (.serverFinish (serverFinish codec crypto client server)) ++
    frame codec (.clientFinish (clientFinish codec crypto client server))

/-- The key of the record protocol, from the primary secret and the whole
transcript. -/
def recordProtocolKey : List UInt8 :=
  (deriveRecordProtocolKey crypto .CURVE25519_SHA256 .ALTSRP_AES128_GCM (digest crypto (allFrames codec crypto client server))
    (secrets codec crypto client server).1).toOption.getD []

/-- The identities the client's verifiers find in the server's assertions. -/
def serverIdentities : StatusOr (List EnclaveIdentity) :=
  (serverAssertions codec crypto client server).mapM fun assertion =>
    (client.authorities.verifier assertion.description).verify (serverContext codec crypto client server) assertion

/-- The identities the server's verifiers find in the client's assertions. -/
def clientIdentities : StatusOr (List EnclaveIdentity) :=
  (clientAssertions codec crypto client server).mapM fun assertion =>
    (server.authorities.verifier assertion.description).verify (clientContext codec crypto client server) assertion

/-- The six messages, in the order they are sent. -/
def messages : List HandshakeMessage :=
  [.clientPrecommit (clientPrecommit client), .serverPrecommit (serverPrecommit codec crypto client server),
    .clientId (clientId codec crypto client server), .serverId (serverId codec crypto client server),
    .serverFinish (serverFinish codec crypto client server), .clientFinish (clientFinish codec crypto client server)]

end Session

open Session in
/-- What an honest handshake of `client` and `server` assumes. -/
structure Honest {State EnclaveIdentity : Type} (codec : MessageCodec) (crypto : Crypto State)
    (client server : Party EnclaveIdentity) : Prop where
  cryptoLawful : CryptoLawful crypto
  clientAuthorities : AuthoritiesLawful client.authorities
  serverAuthorities : AuthoritiesLawful server.authorities
  /-- Each message of the handshake is read back from its serialization. -/
  parses : ∀ message ∈ messages codec crypto client server,
    codec.parse message.messageType (codec.serialize message) = some message
  /-- and its frame fits both parties' limits, -/
  clientFits : ∀ message ∈ messages codec crypto client server,
    kMessageTypeSize + (codec.serialize message).length ≤ client.options.maxFrameSize
  serverFits : ∀ message ∈ messages codec crypto client server,
    kMessageTypeSize + (codec.serialize message).length ≤ server.options.maxFrameSize
  /-- which fit 32 bits. -/
  clientSmall : client.options.maxFrameSize < 2 ^ 32
  serverSmall : server.options.maxFrameSize < 2 ^ 32
  clientChallenge : client.randomness.challenge.isSome
  serverChallenge : server.randomness.challenge.isSome
  offersCreated : ∀ description ∈ client.options.selfAssertions,
    (client.authorities.generator description).createAssertionOffer.1 = .ok ()
  requestsCreated : ∀ description ∈ client.options.acceptedPeerAssertions,
    (client.authorities.verifier description).createAssertionRequest.1 = .ok ()
  /-- Each party's verifiers accept what the other's generators make. -/
  clientVerifies : ∀ context request assertion,
    (server.authorities.generator request.description).generate context request = .ok assertion →
      ∃ identity, (client.authorities.verifier assertion.description).verify context assertion = .ok identity
  serverVerifies : ∀ context request assertion,
    (client.authorities.generator request.description).generate context request = .ok assertion →
      ∃ identity, (server.authorities.verifier assertion.description).verify context assertion = .ok identity
  /-- The server can verify one of the client's offers and satisfy one of its
  requests. -/
  expectsSome : expectedClientAssertions codec crypto client server ≠ []
  promisesSome : promisedAssertions codec crypto client server ≠ []

/-- A transport that passes each party the bytes the other wrote: in a round the
client is called with what the server last wrote, then the server with what the
client wrote. -/
def relay {State EnclaveIdentity : Type} (clientEnv serverEnv : Environment State EnclaveIdentity) :
    Nat → ClientEkepHandshaker State EnclaveIdentity → ServerEkepHandshaker State EnclaveIdentity → List UInt8 →
      ClientEkepHandshaker State EnclaveIdentity × ServerEkepHandshaker State EnclaveIdentity
  | 0, client, server, _ => (client, server)
  | rounds + 1, client, server, toClient =>
    let (_, client, toServer) := (ClientEkepHandshaker.role clientEnv).nextHandshakeStep clientEnv client toClient []
    let (_, server, toClient) := (ServerEkepHandshaker.role serverEnv).nextHandshakeStep serverEnv server toServer []
    relay clientEnv serverEnv rounds client server toClient

end Asylo.Ekep
