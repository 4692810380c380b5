import Asylo.EkepFrameProofs
import Asylo.ExceptLemmas

/-! What the methods the two parties share do when they succeed: each one's run
from a handshaker and the outgoing bytes, so that a handler's run is the chain of
these. The loop over the peer's assertions takes, in the order they were expected,
assertions its verifiers accept, and leaves their identities in the base members;
the two parties' secrets agree when each uses its own private key and the other's
public key; and a MAC always equals itself. -/
namespace Asylo.Ekep

open DcapVerifier (AssertionDescription Assertion)

section Run

variable {H State EnclaveIdentity : Type} (lens : BaseLens H State EnclaveIdentity)
  (env : Environment State EnclaveIdentity) {α : Type}

@[simp] theorem run_getSelf (self : H) (output : List UInt8) :
    (getSelf : HandlerM H H).run (self, output) = .ok self (self, output) := rfl

@[simp] theorem run_modifySelf (f : H → H) (self : H) (output : List UInt8) :
    (modifySelf f).run (self, output) = .ok () (f self, output) := rfl

@[simp] theorem liftStatus_ok (a : α) : (liftStatus (.ok a) : HandlerM H α) = pure a := rfl

@[simp] theorem liftStatus_error (status : EkepError) : (liftStatus (.error status) : HandlerM H α) = throw status :=
  rfl

/-- A message whose frame fits is written out and added to the transcript. -/
theorem run_writeFrameAndUpdateTranscript {self : H} {output : List UInt8} {messageType : HandshakeMessageType}
    {message : HandshakeMessage} (known : messageType ≠ .UNKNOWN_HANDSHAKE_MESSAGE)
    (fits : kMessageTypeSize + (env.codec.serialize message).length ≤ (lens.base self).maxFrameSize) :
    (writeFrameAndUpdateTranscript lens env messageType message).run (self, output) =
      .ok () (lens.setBase self { lens.base self with
        transcript := (lens.base self).transcript.add env.crypto.hasher
          (.stream [frameBytes messageType (env.codec.serialize message)]) },
        output ++ frameBytes messageType (env.codec.serialize message)) := by
  have encoded : encodeFrame env.codec (lens.base self).maxFrameSize messageType message =
      .ok (frameBytes messageType (env.codec.serialize message)) :=
    encodeFrame_eq_ok.mpr ⟨fits, known, rfl⟩
  simp [writeFrameAndUpdateTranscript, encoded, EStateM.run_bind, kEkepFrameHeaderSize]

theorem run_getTranscriptHash {self : H} {output : List UInt8} {transcriptHash : List UInt8}
    (hashed : (lens.base self).transcript.hash env.crypto.hasher = some transcriptHash) :
    (getTranscriptHash lens env).run (self, output) = .ok transcriptHash (self, output) := by
  simp [getTranscriptHash, EStateM.run_bind, hashed]

end Run

/-! ## The loop over the peer's assertions -/

/-- How `expected_peer_assertions_` of a derived class sits beside the base
members: a field of its own, which `setBase` leaves alone. -/
structure ExpectedField {H State EnclaveIdentity : Type} (lens : BaseLens H State EnclaveIdentity)
    (expected : H → List AssertionDescription) (setExpected : H → List AssertionDescription → H) : Prop where
  expected_setExpected : ∀ self descriptions, expected (setExpected self descriptions) = descriptions
  base_setExpected : ∀ self descriptions, lens.base (setExpected self descriptions) = lens.base self
  expected_setBase : ∀ self base, expected (lens.setBase self base) = expected self
  base_setBase : ∀ self base, lens.base (lens.setBase self base) = base
  setExpected_setBase : ∀ self base descriptions,
    setExpected (lens.setBase self base) descriptions = lens.setBase (setExpected self descriptions) base
  setExpected_setExpected : ∀ self descriptions descriptions',
    setExpected (setExpected self descriptions) descriptions' = setExpected self descriptions'
  setBase_setBase : ∀ self base base', lens.setBase (lens.setBase self base) base' = lens.setBase self base'
  setExpected_expected : ∀ self, setExpected self (expected self) = self
  setBase_base : ∀ self, lens.setBase self (lens.base self) = self

section Verify

variable {H State EnclaveIdentity : Type} {lens : BaseLens H State EnclaveIdentity}
  {env : Environment State EnclaveIdentity} {expected : H → List AssertionDescription}
  {setExpected : H → List AssertionDescription → H} (field : ExpectedField lens expected setExpected)
  (notExpected : String) (ekepContext : List UInt8)

include field in
/-- Assertions that come in the order their descriptions were expected, each of
which its verifier accepts, are all taken: their identities join the peer
identities, and their descriptions leave those expected. The induction is on the
assertions, with the identities verified so far in the base members. -/
theorem run_verifyPeerAssertions :
    ∀ (assertions : List Assertion) {identities : List EnclaveIdentity} {rest : List AssertionDescription}
      (self : H) (output : List UInt8),
      assertions.mapM (fun assertion =>
        (env.authorities.verifier assertion.description).verify ekepContext assertion) = .ok identities →
      expected self = assertions.map Assertion.description ++ rest →
      (verifyPeerAssertions lens env expected setExpected notExpected ekepContext assertions).run (self, output) =
        .ok () (setExpected (lens.setBase self { lens.base self with
          peerIdentities := (lens.base self).peerIdentities ++ identities }) rest, output)
  | [], identities, rest, self, output, verified, expectedNow => by
    obtain rfl : identities = [] := (Except.pure_eq_ok.mp verified).symm
    have unchanged : setExpected (lens.setBase self { lens.base self with
        peerIdentities := (lens.base self).peerIdentities ++ [] }) rest = self := by
      simp only [List.map_nil, List.nil_append] at expectedNow
      simp [← expectedNow, field.setExpected_expected, field.setBase_base]
    rw [unchanged]
    rfl
  | assertion :: more, identities, rest, self, output, verified, expectedNow => by
    rw [Except.mapM_eq_ok_iff] at verified
    obtain ⟨identity, identitiesRest, accepted, verifiedRest, rfl⟩ := List.forall₂_cons_left_iff.mp verified
    replace verifiedRest := Except.mapM_eq_ok_iff.mpr verifiedRest
    -- the first assertion is the first one expected
    have found : findAssertionDescription (expected self) assertion.description = true := by
      simp [findAssertionDescription, expectedNow]
    have erased : (expected self).erase assertion.description = more.map Assertion.description ++ rest := by
      simp [expectedNow]
    -- after the first, the rest are expected in order
    set next := setExpected (lens.setBase self { lens.base self with
      peerIdentities := (lens.base self).peerIdentities ++ [identity] }) (more.map Assertion.description ++ rest)
    have nextExpected : expected next = more.map Assertion.description ++ rest := field.expected_setExpected _ _
    have loop := run_verifyPeerAssertions more next output verifiedRest nextExpected
    simp only [verifyPeerAssertions, EStateM.run_bind, run_getSelf, found, Bool.not_true, Bool.false_eq_true,
      if_false, accepted, addPeerIdentity]
    simp only [run_modifySelf, field.expected_setBase, erased]
    rw [loop]
    simp [next, field.base_setBase, field.setExpected_setBase, field.setExpected_setExpected, field.setBase_setBase]

end Verify

/-! ## Assertions and the key schedule -/

section Generate

variable {State EnclaveIdentity : Type} (env : Environment State EnclaveIdentity)

/-- Generators that each make an assertion of the description asked for make
one for every request, in the order of the requests. -/
theorem generateAssertions_eq_ok (ekepContext : List UInt8) (requests : List AssertionRequest)
    (generates : ∀ request ∈ requests, ∃ assertion,
      (env.authorities.generator request.description).generate ekepContext request = .ok assertion ∧
        assertion.description = request.description) :
    ∃ assertions, generateAssertions env ekepContext requests = .ok assertions ∧
      assertions.map Assertion.description = requests.map AssertionRequest.description := by
  induction requests with
  | nil => exact ⟨[], rfl, rfl⟩
  | cons request more ih =>
    obtain ⟨assertion, generated, described⟩ := generates request List.mem_cons_self
    obtain ⟨assertions, rest, describedRest⟩ := ih fun other member => generates other (List.mem_cons_of_mem _ member)
    refine ⟨assertion :: assertions, ?_, by simp [described, describedRest]⟩
    simp only [generateAssertions, List.mapM_cons, generated] at rest ⊢
    simp [rest]

/-- Each assertion generated is one a generator made for one of the requests. -/
theorem generated_of_mem {ekepContext : List UInt8} {requests : List AssertionRequest} {assertions : List Assertion}
    (done : generateAssertions env ekepContext requests = .ok assertions) {assertion : Assertion}
    (member : assertion ∈ assertions) :
    ∃ request ∈ requests,
      (env.authorities.generator request.description).generate ekepContext request = .ok assertion := by
  obtain ⟨request, requested, made⟩ := Except.mem_of_mapM_eq_ok done member
  refine ⟨request, requested, ?_⟩
  revert made
  cases (env.authorities.generator request.description).generate ekepContext request <;> simp

end Generate

section KeySchedule

variable {State : Type} (crypto : Crypto State)

/-- Each party derives the secrets from its own private key and the other's
public key; where X25519 agrees on the two, so do the secrets. -/
theorem deriveSecrets_agree (transcriptHash : List UInt8) (own peer : UnsafeBytes 32)
    (agreement : crypto.x25519 own.1 (crypto.x25519PublicFromPrivate peer).1 =
      crypto.x25519 peer.1 (crypto.x25519PublicFromPrivate own).1) :
    deriveSecrets crypto .CURVE25519_SHA256 transcriptHash (crypto.x25519PublicFromPrivate peer).1 own.1 =
      deriveSecrets crypto .CURVE25519_SHA256 transcriptHash (crypto.x25519PublicFromPrivate own).1 peer.1 := by
  simp [deriveSecrets, agreement, X25519_PUBLIC_VALUE_LEN, X25519_PRIVATE_KEY_LEN, own.2, peer.2,
    (crypto.x25519PublicFromPrivate own).2, (crypto.x25519PublicFromPrivate peer).2]

/-- With X25519 and HKDF that succeed, the secrets are derived. -/
theorem deriveSecrets_isOk (transcriptHash : List UInt8) (own peer : UnsafeBytes 32)
    (exchanged : (crypto.x25519 own.1 (crypto.x25519PublicFromPrivate peer).1).isSome)
    (expanded : ∀ sharedSecret : UnsafeBytes 32,
      (crypto.hkdfSha256 kEkepSecretSize sharedSecret.1 (stringBytes kEkepHkdfSalt) transcriptHash).isSome) :
    ∃ secrets, deriveSecrets crypto .CURVE25519_SHA256 transcriptHash (crypto.x25519PublicFromPrivate peer).1 own.1 =
      .ok secrets := by
  obtain ⟨sharedSecret, shared⟩ := Option.isSome_iff_exists.mp exchanged
  obtain ⟨outputKey, output⟩ := Option.isSome_iff_exists.mp (expanded sharedSecret)
  simp [deriveSecrets, shared, output, X25519_PUBLIC_VALUE_LEN, X25519_PRIVATE_KEY_LEN, own.2,
    (crypto.x25519PublicFromPrivate peer).2]

/-- With an HMAC that succeeds, an authenticator is computed. -/
theorem hmac_isOk (key authenticatedText : List UInt8) (computed : (crypto.hmacSha256 key authenticatedText).isSome) :
    ∃ mac, hmac crypto .CURVE25519_SHA256 key authenticatedText = .ok mac := by
  obtain ⟨mac, done⟩ := Option.isSome_iff_exists.mp computed
  exact ⟨mac.1, by simp [hmac, done]⟩

end KeySchedule

@[simp] theorem checkMacEquality_self (mac : List UInt8) : checkMacEquality mac mac = true := by
  simp [checkMacEquality]

/-- The context blob of a key and a hash that fit their 32-bit lengths. -/
theorem makeEkepContextBlob_isSome {publicKey transcriptHash : List UInt8} (keyFits : publicKey.length < 2 ^ 32)
    (hashFits : transcriptHash.length < 2 ^ 32) : (makeEkepContextBlob publicKey transcriptHash).isSome := by
  have keySmall : ¬4294967295 < publicKey.length := by omega
  have hashSmall : ¬4294967295 < transcriptHash.length := by omega
  simp [makeEkepContextBlob, serializeByteContainers, keySmall, hashSmall]

end Asylo.Ekep
