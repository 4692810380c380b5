import Asylo.EnclaveAuthContext

/-! What the application learns of an EKEP peer. A completed handshake whose
peer the ACL accepts yields a handshaker result, and the three encodings after
it (the `tsi_peer` properties, the auth-context properties, and the parse of
`CreateFromAuthContext`) hand the application exactly the handshake's peer
identities and record protocol.

`CreateFromAuthContext` checks only the properties an auth context has: a
security level or transport security type that is absent is not refused, and a
transport security type property that is the peer identity property is parsed
as identities and never compared. `PropertyChecked` states what it does
require of each property. -/
namespace Asylo
open CertificateUtil (asciiBytes)

variable {EnclaveIdentity EnclaveIdentityExpectation : Type}

/-! ## The handshake result -/

namespace EkepHandshaker

variable {h : EkepHandshaker EnclaveIdentity}

theorem ifCompleted_eq_ok {α : Type} {message : String} {value result : α} :
    h.ifCompleted message value = .ok result ↔ h.completed = true ∧ value = result := by
  unfold ifCompleted
  cases h.completed <;> simp

/-- Each getter gives its field once the handshake is complete. -/
theorem getters_of_completed (completed : h.completed = true) :
    h.getUnusedBytes = .ok h.remainingBytes ∧ h.getRecordProtocol = .ok h.recordProtocol ∧
      h.getRecordProtocolKey = .ok h.recordProtocolKey ∧ h.getPeerIdentities = .ok h.peerIdentities := by
  simp [getUnusedBytes, getRecordProtocol, getRecordProtocolKey, getPeerIdentities, ifCompleted, completed]

end EkepHandshaker

namespace TsiEnclaveHandshaker

variable (self : TsiEnclaveHandshaker EnclaveIdentity EnclaveIdentityExpectation)
  (matcher : IdentityAclEvaluator.IdentityExpectationMatcher EnclaveIdentity EnclaveIdentityExpectation)

/-- The result a completed handshake creates. -/
def completedResult : TsiEnclaveHandshakerResult EnclaveIdentity :=
  ⟨self.isClient, self.handshaker.recordProtocol, self.handshaker.recordProtocolKey,
    self.handshaker.peerIdentities, self.handshaker.remainingBytes⟩

/-- A completed handshake whose peer the ACL accepts creates its result. -/
theorem enclaveHandshakerNext_completed (completed : self.handshaker.completed = true)
    (accepted : self.evaluateAcl matcher self.handshaker.peerIdentities = .TSI_OK) :
    self.enclaveHandshakerNext matcher .COMPLETED = (.TSI_OK, some self.completedResult) := by
  obtain ⟨unused, protocol, key, identities⟩ := EkepHandshaker.getters_of_completed completed
  simp only [enclaveHandshakerNext, unused, protocol, key, identities, accepted, completedResult]

/-- A handshaker result is created only by a completed handshake whose peer
identities the ACL accepts, and it holds them. -/
theorem enclaveHandshakerNext_created {handshakeStepResult : EkepHandshakerResult}
    {result : TsiEnclaveHandshakerResult EnclaveIdentity}
    (created : (self.enclaveHandshakerNext matcher handshakeStepResult).2 = some result) :
    handshakeStepResult = .COMPLETED ∧ self.handshaker.completed = true ∧
      self.evaluateAcl matcher self.handshaker.peerIdentities = .TSI_OK ∧ result = self.completedResult := by
  cases handshakeStepResult with
  | IN_PROGRESS | NOT_ENOUGH_DATA | ABORTED => cases created
  | COMPLETED =>
    -- an incomplete handshake fails at its first getter
    cases completed : self.handshaker.completed with
    | false =>
      simp [enclaveHandshakerNext, EkepHandshaker.getUnusedBytes, EkepHandshaker.ifCompleted, completed] at created
    | true =>
      obtain ⟨unused, protocol, key, identities⟩ := EkepHandshaker.getters_of_completed completed
      simp only [enclaveHandshakerNext, unused, protocol, key, identities] at created
      cases acl : self.evaluateAcl matcher self.handshaker.peerIdentities <;> simp only [acl, reduceCtorEq] at created
      exact ⟨rfl, rfl, rfl, (Option.some.inj created).symm⟩

end TsiEnclaveHandshaker

/-! ## From the handshaker result to the auth context -/

/-- The record protocol survives its 32-bit little-endian encoding. -/
theorem readLittleEndian32FromArray_encode (value : UInt32) :
    readLittleEndian32FromArray (LittleEndian.encode 4 value.toNat) = value := by
  have fits : value.toNat < 256 ^ 4 := value.toNat_lt
  unfold readLittleEndian32FromArray
  rw [List.take_of_length_le (by simp), LittleEndian.decode_encode_of_lt fits]
  exact UInt32.ofNat_toNat

/-- The auth-context properties that a handshaker result becomes, with its
identities serialized to `serialized`. -/
def enclaveAuthProperties (result : TsiEnclaveHandshakerResult EnclaveIdentity) (serialized : List UInt8) :
    List AuthProperty :=
  [⟨GRPC_TRANSPORT_SECURITY_TYPE_PROPERTY_NAME, asciiBytes GRPC_ENCLAVE_TRANSPORT_SECURITY_TYPE⟩,
    ⟨GRPC_ENCLAVE_IDENTITIES_PROTO_PROPERTY_NAME, serialized⟩,
    ⟨GRPC_ENCLAVE_RECORD_PROTOCOL_PROPERTY_NAME, LittleEndian.encode 4 result.recordProtocol.number.toNat⟩,
    ⟨GRPC_TRANSPORT_SECURITY_LEVEL_PROPERTY_NAME,
      asciiBytes (tsiSecurityLevelToString .TSI_PRIVACY_AND_INTEGRITY)⟩]

/-- The peer that `ExtractPeer` builds passes every check of
`grpc_enclave_auth_context_from_tsi_peer`, which copies its properties under
the auth-context names and makes the identities the peer identity. -/
theorem grpcEnclaveAuthContextFromTsiPeer_extractPeer (codec : ProtoCodec (List EnclaveIdentity))
    (result : TsiEnclaveHandshakerResult EnclaveIdentity) {serialized : List UInt8}
    (serializes : codec.serializeToString result.peerIdentities = some serialized) :
    ∃ peer authContext, result.extractPeer codec = .ok peer ∧
      grpcEnclaveAuthContextFromTsiPeer peer = (.GRPC_SECURITY_OK, some authContext) ∧
      authContext.properties = enclaveAuthProperties result serialized ∧
      authContext.peerIdentityPropertyName = some GRPC_ENCLAVE_IDENTITIES_PROTO_PROPERTY_NAME := by
  unfold TsiEnclaveHandshakerResult.extractPeer
  rw [serializes]
  exact ⟨_, _, rfl, rfl, rfl, rfl⟩

/-- `CreateFromAuthContext` reads the identities and the record protocol back
from those properties. -/
theorem createFromAuthContextLoop_enclaveAuthProperties (codec : ProtoCodec (List EnclaveIdentity))
    (result : TsiEnclaveHandshakerResult EnclaveIdentity) {serialized : List UInt8}
    (serializes : codec.serializeToString result.peerIdentities = some serialized) :
    EnclaveAuthContext.createFromAuthContextLoop codec GRPC_ENCLAVE_IDENTITIES_PROTO_PROPERTY_NAME
        (enclaveAuthProperties result serialized) [] 0 =
      .ok ⟨result.peerIdentities, result.recordProtocol.number⟩ := by
  have parsed := codec.parse_serialize _ _ serializes
  simp [EnclaveAuthContext.createFromAuthContextLoop, enclaveAuthProperties, parsed,
    readLittleEndian32FromArray_encode, GRPC_TRANSPORT_SECURITY_TYPE_PROPERTY_NAME,
    GRPC_TRANSPORT_SECURITY_LEVEL_PROPERTY_NAME, GRPC_ENCLAVE_IDENTITIES_PROTO_PROPERTY_NAME,
    GRPC_ENCLAVE_RECORD_PROTOCOL_PROPERTY_NAME]

/-! ## What `CreateFromAuthContext` requires -/

/-- What `CreateFromAuthContext` requires of a property of an auth context
whose peer identity property is `peerName`: a security level holds
privacy and integrity; a transport security type that is not the peer identity
holds the enclave type; the peer identity parses unless its name is taken by an
earlier branch; and the name is one of these four. -/
structure PropertyChecked (codec : ProtoCodec (List EnclaveIdentity)) (peerName : String)
    (property : AuthProperty) : Prop where
  securityLevel : property.name = GRPC_TRANSPORT_SECURITY_LEVEL_PROPERTY_NAME →
    property.value = asciiBytes (tsiSecurityLevelToString .TSI_PRIVACY_AND_INTEGRITY)
  securityType : property.name = GRPC_TRANSPORT_SECURITY_TYPE_PROPERTY_NAME → property.name ≠ peerName →
    property.value = asciiBytes GRPC_ENCLAVE_TRANSPORT_SECURITY_TYPE
  parses : property.name = peerName → property.name ≠ GRPC_TRANSPORT_SECURITY_LEVEL_PROPERTY_NAME →
    property.name ≠ GRPC_ENCLAVE_RECORD_PROTOCOL_PROPERTY_NAME → (codec.parseFromArray property.value).isSome
  recognized : property.name = GRPC_TRANSPORT_SECURITY_LEVEL_PROPERTY_NAME ∨
    property.name = GRPC_ENCLAVE_RECORD_PROTOCOL_PROPERTY_NAME ∨
    property.name = GRPC_TRANSPORT_SECURITY_TYPE_PROPERTY_NAME ∨ property.name = peerName

namespace EnclaveAuthContext

variable (codec : ProtoCodec (List EnclaveIdentity)) (peerName : String)

/-- One round of the loop: a property that it passes is checked, and the loop
goes on from some identities and record protocol. -/
theorem createFromAuthContextLoop_cons {property : AuthProperty} {rest : List AuthProperty}
    {identities : List EnclaveIdentity} {recordProtocol : UInt32} {result : EnclaveAuthContext EnclaveIdentity}
    (ok : createFromAuthContextLoop codec peerName (property :: rest) identities recordProtocol = .ok result) :
    PropertyChecked codec peerName property ∧
      ∃ identities' recordProtocol', createFromAuthContextLoop codec peerName rest identities' recordProtocol' = .ok result := by
  unfold createFromAuthContextLoop at ok
  by_cases level : property.name = GRPC_TRANSPORT_SECURITY_LEVEL_PROPERTY_NAME
  · -- the security level is compared
    rw [if_pos level] at ok
    by_cases privacy : property.value = asciiBytes (tsiSecurityLevelToString .TSI_PRIVACY_AND_INTEGRITY)
    · rw [if_neg (not_not.mpr privacy)] at ok
      refine ⟨⟨fun _ => privacy, fun typed => absurd (typed.symm.trans level) (by decide), fun _ named => absurd level named,
        .inl level⟩, _, _, ok⟩
    · rw [if_pos privacy] at ok
      cases ok
  rw [if_neg level] at ok
  by_cases record : property.name = GRPC_ENCLAVE_RECORD_PROTOCOL_PROPERTY_NAME
  · rw [if_pos record] at ok
    refine ⟨⟨fun named => absurd named level, fun typed => absurd (typed.symm.trans record) (by decide),
      fun _ _ named => absurd record named, .inr (.inl record)⟩, _, _, ok⟩
  rw [if_neg record] at ok
  by_cases peer : property.name = peerName
  · -- the peer identity is parsed, whatever else its name is
    rw [if_pos peer] at ok
    cases parsed : codec.parseFromArray property.value with
    | none => rw [parsed] at ok; cases ok
    | some identities' =>
      rw [parsed] at ok
      refine ⟨⟨fun named => absurd named level, fun _ notPeer => absurd peer notPeer,
        fun _ _ _ => by simp [parsed], .inr (.inr (.inr peer))⟩, _, _, ok⟩
  rw [if_neg peer] at ok
  by_cases typed : property.name = GRPC_TRANSPORT_SECURITY_TYPE_PROPERTY_NAME
  · rw [if_pos typed] at ok
    by_cases enclave : property.value = asciiBytes GRPC_ENCLAVE_TRANSPORT_SECURITY_TYPE
    · rw [if_neg (not_not.mpr enclave)] at ok
      refine ⟨⟨fun named => absurd named level, fun _ _ => enclave, fun named => absurd named peer,
        .inr (.inr (.inl typed))⟩, _, _, ok⟩
    · rw [if_pos enclave] at ok
      cases ok
  · rw [if_neg typed] at ok
    cases ok

/-- Every property of a loop that succeeds is checked. -/
theorem createFromAuthContextLoop_checked :
    ∀ (properties : List AuthProperty) {identities : List EnclaveIdentity} {recordProtocol : UInt32}
      {result : EnclaveAuthContext EnclaveIdentity},
      createFromAuthContextLoop codec peerName properties identities recordProtocol = .ok result →
      ∀ property ∈ properties, PropertyChecked codec peerName property
  | [], _, _, _, _ => fun _ member => by cases member
  | _ :: rest, _, _, _, ok => by
    obtain ⟨checked, _, _, restOk⟩ := createFromAuthContextLoop_cons codec peerName ok
    intro property member
    rcases List.mem_cons.mp member with rfl | later
    · exact checked
    · exact createFromAuthContextLoop_checked rest restOk property later

/-- An auth context that `CreateFromAuthContext` accepts is peer-authenticated
and each of its properties is checked. -/
theorem createFromAuthContext_checked {authContext : AuthContext} {result : EnclaveAuthContext EnclaveIdentity}
    (ok : createFromAuthContext codec authContext = .ok result) :
    authContext.isPeerAuthenticated = true ∧
      ∀ property ∈ authContext.properties, PropertyChecked codec authContext.getPeerIdentityPropertyName property := by
  unfold createFromAuthContext at ok
  cases authenticated : authContext.isPeerAuthenticated with
  | false => rw [authenticated] at ok; cases ok
  | true =>
    rw [authenticated] at ok
    exact ⟨rfl, createFromAuthContextLoop_checked codec _ _ ok⟩

end EnclaveAuthContext

/-! ## What reaches the application -/

/-- A completed EKEP handshake whose peer identities the ACL accepts hands the
application, through the `tsi_peer` and the auth context, exactly those
identities and the record protocol; and an auth context that
`CreateFromAuthContext` accepts is peer-authenticated, with each of its
properties checked. -/
theorem enclave_auth_context_holds_handshake_identities (codec : ProtoCodec (List EnclaveIdentity))
    (matcher : IdentityAclEvaluator.IdentityExpectationMatcher EnclaveIdentity EnclaveIdentityExpectation) :
    (∀ (self : TsiEnclaveHandshaker EnclaveIdentity EnclaveIdentityExpectation) (ids : List EnclaveIdentity)
        (rp : RecordProtocol) (serialized : List UInt8),
        self.handshaker.getPeerIdentities = .ok ids → self.handshaker.getRecordProtocol = .ok rp →
        self.evaluateAcl matcher ids = .TSI_OK → codec.serializeToString ids = some serialized →
        ∃ result peer authContext,
          self.enclaveHandshakerNext matcher .COMPLETED = (.TSI_OK, some result) ∧
          result.extractPeer codec = .ok peer ∧
          grpcEnclaveAuthContextFromTsiPeer peer = (.GRPC_SECURITY_OK, some authContext) ∧
          EnclaveAuthContext.createFromAuthContext codec authContext = .ok ⟨ids, rp.number⟩) ∧
    ∀ (authContext : AuthContext) (enclaveAuthContext : EnclaveAuthContext EnclaveIdentity),
      EnclaveAuthContext.createFromAuthContext codec authContext = .ok enclaveAuthContext →
      authContext.isPeerAuthenticated = true ∧
        ∀ property ∈ authContext.properties, PropertyChecked codec authContext.getPeerIdentityPropertyName property := by
  refine ⟨fun self ids rp serialized identities protocol accepted serializes => ?_,
    fun _ _ ok => EnclaveAuthContext.createFromAuthContext_checked codec ok⟩
  -- the getters succeed only once the handshake is complete, with its fields
  obtain ⟨completed, rfl⟩ := EkepHandshaker.ifCompleted_eq_ok.mp identities
  obtain ⟨-, rfl⟩ := EkepHandshaker.ifCompleted_eq_ok.mp protocol
  obtain ⟨peer, authContext, extracted, converted, properties, peerName⟩ :=
    grpcEnclaveAuthContextFromTsiPeer_extractPeer codec self.completedResult serializes
  refine ⟨_, peer, authContext, self.enclaveHandshakerNext_completed matcher completed accepted, extracted,
    converted, ?_⟩
  have authenticated : authContext.isPeerAuthenticated = true := by
    simp [AuthContext.isPeerAuthenticated, peerName]
  rw [EnclaveAuthContext.createFromAuthContext, if_neg (by simp [authenticated]), properties,
    AuthContext.getPeerIdentityPropertyName, peerName]
  exact createFromAuthContextLoop_enclaveAuthProperties codec self.completedResult serializes

/-- Identities that are bytes, serialized as themselves. -/
def bytesCodec : ProtoCodec (List UInt8) :=
  ⟨some, some, fun _ _ serialized => serialized.symm⟩

theorem enclave_auth_context_holds_handshake_identities_altsrp :
    let self : TsiEnclaveHandshaker UInt8 Unit := ⟨true, none, ⟨true, [], .ALTSRP_AES128_GCM, [7], [1, 2]⟩⟩
    self.handshaker.getPeerIdentities = .ok [1, 2] ∧ self.handshaker.getRecordProtocol = .ok .ALTSRP_AES128_GCM ∧
      self.evaluateAcl (fun _ _ => (.ok true, "")) [1, 2] = .TSI_OK ∧ bytesCodec.serializeToString [1, 2] = some [1, 2] ∧
      ∃ result peer authContext,
        self.enclaveHandshakerNext (fun _ _ => (.ok true, "")) .COMPLETED = (.TSI_OK, some result) ∧
        result.extractPeer bytesCodec = .ok peer ∧
        grpcEnclaveAuthContextFromTsiPeer peer = (.GRPC_SECURITY_OK, some authContext) ∧
        EnclaveAuthContext.createFromAuthContext bytesCodec authContext = .ok ⟨[1, 2], 1⟩ :=
  ⟨rfl, rfl, rfl, rfl,
    (enclave_auth_context_holds_handshake_identities bytesCodec _).1 _ [1, 2] .ALTSRP_AES128_GCM [1, 2] rfl rfl rfl rfl⟩

/-- An auth context whose one property is a transport security type with no
bytes, made its peer identity property, is accepted: it has no security level,
and its transport security type is not the enclave type. -/
theorem auth_context_without_enclave_type_accepted :
    ∃ authContext : AuthContext,
      (AuthContext.empty.addProperty GRPC_TRANSPORT_SECURITY_TYPE_PROPERTY_NAME []).setPeerIdentityPropertyName
          GRPC_TRANSPORT_SECURITY_TYPE_PROPERTY_NAME = some authContext ∧
        authContext.isPeerAuthenticated = true ∧
        authContext.properties = [⟨GRPC_TRANSPORT_SECURITY_TYPE_PROPERTY_NAME, []⟩] ∧
        [] ≠ asciiBytes GRPC_ENCLAVE_TRANSPORT_SECURITY_TYPE ∧
        EnclaveAuthContext.createFromAuthContext bytesCodec authContext = .ok ⟨[], 0⟩ :=
  ⟨_, rfl, rfl, rfl, by decide, rfl⟩

end Asylo
