import Asylo.Util
import Asylo.LittleEndian
import Asylo.CertificateUtil
import Asylo.IdentityAclEvaluator

/-! The path of an EKEP peer's identities to the application: when the
handshake completes, `enclave_handshaker_next`
(`grpc/auth/core/enclave_transport_security.cc`) checks them against the peer
ACL and keeps them with the record protocol in a `TsiEnclaveHandshakerResult`;
its `ExtractPeer` writes them into the properties of a `tsi_peer`,
`grpc_enclave_auth_context_from_tsi_peer`
(`grpc/auth/core/enclave_security_connector.cc`) copies those into a gRPC auth
context, and `EnclaveAuthContext::CreateFromAuthContext`
(`grpc/auth/enclave_auth_context.cc`) reads them back for the application.

What the EKEP handshaker does before it reports a result is not modelled: the
result of `NextHandshakeStep` and the handshaker it leaves are inputs.
`SerializeToString` and `ParseFromArray` of `EnclaveIdentities` are protobuf's:
a `ProtoCodec`, whose parse gives back what it serialized. A gRPC auth context
keeps its properties in the order they were added, and its peer identity
property name, once set, names one of them, since
`grpc_auth_context_set_peer_identity_property_name` refuses any other. The
names and values that the source takes from gRPC's headers have gRPC's
values. -/
namespace Asylo
open CertificateUtil (asciiBytes)
open IdentityAclEvaluator (IdentityAclPredicate IdentityExpectationMatcher evaluateIdentityAcl)

/-! ## Names and values -/

/-- gRPC's `TSI_CERTIFICATE_TYPE_PEER_PROPERTY`. -/
def TSI_CERTIFICATE_TYPE_PEER_PROPERTY : String := "certificate_type"

/-- gRPC's `TSI_SECURITY_LEVEL_PEER_PROPERTY`. -/
def TSI_SECURITY_LEVEL_PEER_PROPERTY : String := "security_level"

def TSI_ENCLAVE_CERTIFICATE_TYPE : String := "enclave_security"

def TSI_ENCLAVE_IDENTITIES_PROTO_PEER_PROPERTY : String := "enclave_security_identity_proto"

def TSI_ENCLAVE_RECORD_PROTOCOL_PEER_PROPERTY : String := "enclave_security_record_protocol"

/-- gRPC's `GRPC_TRANSPORT_SECURITY_TYPE_PROPERTY_NAME`. -/
def GRPC_TRANSPORT_SECURITY_TYPE_PROPERTY_NAME : String := "transport_security_type"

/-- gRPC's `GRPC_TRANSPORT_SECURITY_LEVEL_PROPERTY_NAME`. -/
def GRPC_TRANSPORT_SECURITY_LEVEL_PROPERTY_NAME : String := "security_level"

def GRPC_ENCLAVE_IDENTITIES_PROTO_PROPERTY_NAME : String := "enclave_security.identity_proto"

def GRPC_ENCLAVE_RECORD_PROTOCOL_PROPERTY_NAME : String := "enclave_security.record_protocol"

def GRPC_ENCLAVE_TRANSPORT_SECURITY_TYPE : String := "enclave_security"

/-- gRPC's `tsi_security_level`. -/
inductive TsiSecurityLevel
  | TSI_SECURITY_NONE
  | TSI_INTEGRITY_ONLY
  | TSI_PRIVACY_AND_INTEGRITY
  deriving DecidableEq, Repr

/-- gRPC's `tsi_security_level_to_string`. -/
def tsiSecurityLevelToString : TsiSecurityLevel → String
  | .TSI_SECURITY_NONE => "TSI_SECURITY_NONE"
  | .TSI_INTEGRITY_ONLY => "TSI_INTEGRITY_ONLY"
  | .TSI_PRIVACY_AND_INTEGRITY => "TSI_PRIVACY_AND_INTEGRITY"

/-- The `tsi_result`s of the paths modelled here. -/
inductive TsiResult
  | TSI_OK
  | TSI_INCOMPLETE_DATA
  | TSI_INTERNAL_ERROR
  | TSI_PERMISSION_DENIED
  | TSI_PROTOCOL_FAILURE
  deriving DecidableEq, Repr

/-- `RecordProtocol` (`grpc/auth/core/handshake.proto`). -/
inductive RecordProtocol
  | UNKNOWN_RECORD_PROTOCOL
  | ALTSRP_AES128_GCM
  deriving DecidableEq, Repr

/-- The enumerator's value. -/
def RecordProtocol.number : RecordProtocol → UInt32
  | .UNKNOWN_RECORD_PROTOCOL => 0
  | .ALTSRP_AES128_GCM => 1

/-- `strncmp(s1, s2, n)` on strings that hold `s1` and `s2` and then NUL: the
difference of the first bytes among the first `n` that differ, and 0 when the
two agree up to a NUL or for all `n` bytes. -/
def strncmp (s1 s2 : List UInt8) : Nat → Int
  | 0 => 0
  | n + 1 =>
    let c1 := s1.headD 0
    let c2 := s2.headD 0
    if c1 ≠ c2 then (c1.toNat : Int) - c2.toNat
    else if c1 = 0 then 0
    else strncmp s1.tail s2.tail n

/-- `std::string(data, size)` in an error message: each byte is the
character with its code. -/
def bytesString (bytes : List UInt8) : String :=
  String.ofList (bytes.map fun byte => Char.ofNat byte.toNat)

/-! ## The handshake -/

/-- `EkepHandshaker::Result`. -/
inductive EkepHandshakerResult
  | IN_PROGRESS
  | NOT_ENOUGH_DATA
  | COMPLETED
  | ABORTED
  deriving DecidableEq, Repr

/-- What an `EkepHandshaker` holds for its getters once a step has returned:
whether the handshake is complete, the bytes left in its input stream, and
what it negotiated and learned of its peer. -/
structure EkepHandshaker (EnclaveIdentity : Type) where
  completed : Bool
  remainingBytes : List UInt8
  recordProtocol : RecordProtocol
  recordProtocolKey : List UInt8
  peerIdentities : List EnclaveIdentity

namespace EkepHandshaker

variable {EnclaveIdentity : Type} (h : EkepHandshaker EnclaveIdentity)

/-- The guard of every getter: `if (!IsHandshakeCompleted())` the getter fails
with `message`. -/
def ifCompleted {α : Type} (message : String) (value : α) : StatusOr α :=
  if h.completed then .ok value else .error ⟨.failedPrecondition, message⟩

/-- `GetUnusedBytes()`. -/
def getUnusedBytes : StatusOr (List UInt8) :=
  h.ifCompleted "Cannot retrieve unused bytes before handshake is complete" h.remainingBytes

/-- `GetPeerIdentities()`. -/
def getPeerIdentities : StatusOr (List EnclaveIdentity) :=
  h.ifCompleted "Cannot retrieve peer identity before handshake is complete" h.peerIdentities

/-- `GetRecordProtocol()`. -/
def getRecordProtocol : StatusOr RecordProtocol :=
  h.ifCompleted "Cannot retrieve record protocol before handshake is complete" h.recordProtocol

/-- `GetRecordProtocolKey()`. -/
def getRecordProtocolKey : StatusOr (List UInt8) :=
  h.ifCompleted "Cannot retrieve record protocol key before handshake is complete" h.recordProtocolKey

end EkepHandshaker

/-- A `TsiEnclaveHandshakerResult`. -/
structure TsiEnclaveHandshakerResult (EnclaveIdentity : Type) where
  isClient : Bool
  recordProtocol : RecordProtocol
  recordProtocolKey : List UInt8
  peerIdentities : List EnclaveIdentity
  unusedBytes : List UInt8

/-- A `tsi_enclave_handshaker`, with the `EkepHandshaker` it drives. -/
structure TsiEnclaveHandshaker (EnclaveIdentity EnclaveIdentityExpectation : Type) where
  isClient : Bool
  peerAcl : Option (IdentityAclPredicate EnclaveIdentityExpectation)
  handshaker : EkepHandshaker EnclaveIdentity

namespace TsiEnclaveHandshaker

variable {EnclaveIdentity EnclaveIdentityExpectation : Type}
  (self : TsiEnclaveHandshaker EnclaveIdentity EnclaveIdentityExpectation)
  (matcher : IdentityExpectationMatcher EnclaveIdentity EnclaveIdentityExpectation)

/-- `tsi_enclave_handshaker::evaluate_acl(identities)`, with the
`DelegatingIdentityExpectationMatcher` as `matcher`. -/
def evaluateAcl (identities : List EnclaveIdentity) : TsiResult :=
  match self.peerAcl with
  | none => .TSI_OK
  | some peerAcl =>
    match (evaluateIdentityAcl identities peerAcl matcher (some "")).1 with
    | .error _ => .TSI_INTERNAL_ERROR
    | .ok false => .TSI_PERMISSION_DENIED
    | .ok true => .TSI_OK

/-- `enclave_handshaker_next` once `NextHandshakeStep` has returned
`handshakeStepResult`: what it returns, and the handshaker result it creates.
A getter that fails gives `TSI_INTERNAL_ERROR` whichever it is. -/
def enclaveHandshakerNext (handshakeStepResult : EkepHandshakerResult) :
    TsiResult × Option (TsiEnclaveHandshakerResult EnclaveIdentity) :=
  match handshakeStepResult with
  | .IN_PROGRESS => (.TSI_OK, none)
  | .NOT_ENOUGH_DATA => (.TSI_INCOMPLETE_DATA, none)
  | .COMPLETED =>
    match self.handshaker.getUnusedBytes, self.handshaker.getRecordProtocol,
      self.handshaker.getRecordProtocolKey, self.handshaker.getPeerIdentities with
    | .ok unusedBytes, .ok recordProtocol, .ok key, .ok identities =>
      match self.evaluateAcl matcher identities with
      | .TSI_OK => (.TSI_OK, some ⟨self.isClient, recordProtocol, key, identities, unusedBytes⟩)
      | aclEvalResult => (aclEvalResult, none)
    | _, _, _, _ => (.TSI_INTERNAL_ERROR, none)
  | .ABORTED => (.TSI_PROTOCOL_FAILURE, none)

end TsiEnclaveHandshaker

/-! ## The peer and the auth context -/

/-- A `tsi_peer_property`. -/
structure TsiPeerProperty where
  name : String
  value : List UInt8
  deriving DecidableEq, Repr

/-- A `tsi_peer`: its properties in index order. -/
structure TsiPeer where
  properties : List TsiPeerProperty
  deriving DecidableEq, Repr

/-- `tsi_peer_get_property_by_name(peer, name)`: the first property with that
name. -/
def TsiPeer.getPropertyByName (peer : TsiPeer) (name : String) : Option TsiPeerProperty :=
  peer.properties.find? (·.name == name)

/-- `TsiEnclaveHandshakerResult::ExtractPeer`: the certificate type, the
serialized identities, the record protocol as a 32-bit little-endian number
(`sizeof(record_protocol_)` is that of the enum, four bytes) and the security
level. -/
def TsiEnclaveHandshakerResult.extractPeer {EnclaveIdentity : Type}
    (codec : ProtoCodec (List EnclaveIdentity)) (result : TsiEnclaveHandshakerResult EnclaveIdentity) :
    Except TsiResult TsiPeer :=
  match codec.serializeToString result.peerIdentities with
  | none => .error .TSI_INTERNAL_ERROR
  | some serializedIdentity =>
    .ok ⟨[⟨TSI_CERTIFICATE_TYPE_PEER_PROPERTY, asciiBytes TSI_ENCLAVE_CERTIFICATE_TYPE⟩,
      ⟨TSI_ENCLAVE_IDENTITIES_PROTO_PEER_PROPERTY, serializedIdentity⟩,
      ⟨TSI_ENCLAVE_RECORD_PROTOCOL_PEER_PROPERTY, LittleEndian.encode 4 result.recordProtocol.number.toNat⟩,
      ⟨TSI_SECURITY_LEVEL_PEER_PROPERTY, asciiBytes (tsiSecurityLevelToString .TSI_PRIVACY_AND_INTEGRITY)⟩]⟩

/-- A `grpc_auth_property`. -/
structure AuthProperty where
  name : String
  value : List UInt8
  deriving DecidableEq, Repr

/-- A `grpc_auth_context` with no chained context: its properties in the order
they were added, and its peer identity property name, which names one of them
once it is set. -/
structure AuthContext where
  properties : List AuthProperty
  peerIdentityPropertyName : Option String
  peerIdentityPresent : ∀ name ∈ peerIdentityPropertyName, ∃ property ∈ properties, property.name = name

namespace AuthContext

/-- `grpc_auth_context(/*chained=*/nullptr)`. -/
def empty : AuthContext := ⟨[], none, fun _ named => by cases named⟩

variable (ctx : AuthContext)

/-- `grpc_auth_context_add_property(ctx, name, value, length)`, and
`grpc_auth_context_add_cstring_property` with the bytes of its string. -/
def addProperty (name : String) (value : List UInt8) : AuthContext :=
  ⟨ctx.properties ++ [⟨name, value⟩], ctx.peerIdentityPropertyName, fun named isName => by
    obtain ⟨property, member, same⟩ := ctx.peerIdentityPresent named isName
    exact ⟨property, List.mem_append_left _ member, same⟩⟩

/-- `grpc_auth_context_set_peer_identity_property_name(ctx, name)`, which fails
when no property has that name. -/
def setPeerIdentityPropertyName (name : String) : Option AuthContext :=
  if present : ∃ property ∈ ctx.properties, property.name = name then
    some ⟨ctx.properties, some name, fun named isName => by
      cases isName
      exact present⟩
  else none

/-- `AuthContext::IsPeerAuthenticated()`. -/
def isPeerAuthenticated : Bool :=
  ctx.peerIdentityPropertyName.isSome

/-- `AuthContext::GetPeerIdentityPropertyName()`: empty when none is set. -/
def getPeerIdentityPropertyName : String :=
  ctx.peerIdentityPropertyName.getD ""

end AuthContext

/-- `grpc_security_status`. -/
inductive GrpcSecurityStatus
  | GRPC_SECURITY_OK
  | GRPC_SECURITY_ERROR
  deriving DecidableEq, Repr

/-- `grpc_enclave_auth_context_from_tsi_peer(peer, &auth_context)`: the status,
and the auth context it stored, `none` when it stored nothing. -/
def grpcEnclaveAuthContextFromTsiPeer (peer : TsiPeer) : GrpcSecurityStatus × Option AuthContext :=
  match peer.getPropertyByName TSI_CERTIFICATE_TYPE_PEER_PROPERTY with
  | none => (.GRPC_SECURITY_ERROR, none)
  | some certificateTypeProperty =>
    if strncmp (asciiBytes TSI_ENCLAVE_CERTIFICATE_TYPE) certificateTypeProperty.value
        certificateTypeProperty.value.length ≠ 0 then
      (.GRPC_SECURITY_ERROR, none)
    else
      match peer.getPropertyByName TSI_SECURITY_LEVEL_PEER_PROPERTY,
        peer.getPropertyByName TSI_ENCLAVE_IDENTITIES_PROTO_PEER_PROPERTY,
        peer.getPropertyByName TSI_ENCLAVE_RECORD_PROTOCOL_PEER_PROPERTY with
      | some securityLevelProperty, some identityProperty, some recordProtocolProperty =>
        let authContext := AuthContext.empty
          |>.addProperty GRPC_TRANSPORT_SECURITY_TYPE_PROPERTY_NAME (asciiBytes GRPC_ENCLAVE_TRANSPORT_SECURITY_TYPE)
          |>.addProperty GRPC_ENCLAVE_IDENTITIES_PROTO_PROPERTY_NAME identityProperty.value
          |>.addProperty GRPC_ENCLAVE_RECORD_PROTOCOL_PROPERTY_NAME recordProtocolProperty.value
          |>.addProperty GRPC_TRANSPORT_SECURITY_LEVEL_PROPERTY_NAME securityLevelProperty.value
        match authContext.setPeerIdentityPropertyName GRPC_ENCLAVE_IDENTITIES_PROTO_PROPERTY_NAME with
        | some authContext => (.GRPC_SECURITY_OK, some authContext)
        | none => (.GRPC_SECURITY_ERROR, some authContext)
      | _, _, _ => (.GRPC_SECURITY_ERROR, none)

/-! ## `EnclaveAuthContext` -/

/-- An `EnclaveAuthContext`: the peer's identities, and the value its
`record_protocol_` holds, a cast of a 32-bit number that need not be one of
the enum's. -/
structure EnclaveAuthContext (EnclaveIdentity : Type) where
  identities : List EnclaveIdentity
  recordProtocol : UInt32
  deriving DecidableEq, Repr

/-- `ReadLittleEndian32FromArray(data, &value)`. The source reads four bytes
whatever the length of the value; the model reads those there are and zeros
after them. -/
def readLittleEndian32FromArray (bytes : List UInt8) : UInt32 :=
  (LittleEndian.decode (bytes.take 4)).toUInt32

namespace EnclaveAuthContext

variable {EnclaveIdentity : Type} (codec : ProtoCodec (List EnclaveIdentity))

/-- The loop of `CreateFromAuthContext` over the properties, with the
identities and the record protocol read so far. -/
def createFromAuthContextLoop (peerIdentityPropertyName : String) :
    List AuthProperty → List EnclaveIdentity → UInt32 → StatusOr (EnclaveAuthContext EnclaveIdentity)
  | [], identities, recordProtocol => .ok ⟨identities, recordProtocol⟩
  | authProperty :: rest, identities, recordProtocol =>
    if authProperty.name = GRPC_TRANSPORT_SECURITY_LEVEL_PROPERTY_NAME then
      if authProperty.value ≠ asciiBytes (tsiSecurityLevelToString .TSI_PRIVACY_AND_INTEGRITY) then
        .error ⟨.invalidArgument, "Invalid transport security level: " ++ bytesString authProperty.value ++
          "; expected " ++ tsiSecurityLevelToString .TSI_PRIVACY_AND_INTEGRITY⟩
      else createFromAuthContextLoop peerIdentityPropertyName rest identities recordProtocol
    else if authProperty.name = GRPC_ENCLAVE_RECORD_PROTOCOL_PROPERTY_NAME then
      createFromAuthContextLoop peerIdentityPropertyName rest identities
        (readLittleEndian32FromArray authProperty.value)
    else if authProperty.name = peerIdentityPropertyName then
      match codec.parseFromArray authProperty.value with
      | none => .error ⟨.invalidArgument, "Ill-formed peer identity in auth context"⟩
      | some identities => createFromAuthContextLoop peerIdentityPropertyName rest identities recordProtocol
    else if authProperty.name = GRPC_TRANSPORT_SECURITY_TYPE_PROPERTY_NAME then
      if authProperty.value ≠ asciiBytes GRPC_ENCLAVE_TRANSPORT_SECURITY_TYPE then
        .error ⟨.invalidArgument, "Invalid transport security type: " ++ bytesString authProperty.value ++
          "; expected " ++ GRPC_ENCLAVE_TRANSPORT_SECURITY_TYPE⟩
      else createFromAuthContextLoop peerIdentityPropertyName rest identities recordProtocol
    else .error ⟨.invalidArgument, "Unrecognized AuthProperty: " ++ authProperty.name⟩

/-- `EnclaveAuthContext::CreateFromAuthContext(auth_context)`. -/
def createFromAuthContext (authContext : AuthContext) : StatusOr (EnclaveAuthContext EnclaveIdentity) :=
  if !authContext.isPeerAuthenticated then .error ⟨.invalidArgument, "Peer is not authenticated"⟩
  else createFromAuthContextLoop codec authContext.getPeerIdentityPropertyName authContext.properties [] 0

end EnclaveAuthContext

end Asylo
