import Asylo.Util
import Asylo.IdealAead
import Asylo.CertificateUtil
import Asylo.SgxIdentityUtil
import Asylo.IdentityAclEvaluator

/-! Local sealing (`identity/sealing/sgx/sgx_local_secret_sealer.cc` and
`identity/sealing/sgx/internal/local_secret_sealer_helpers.cc`). `Seal` checks
that a header names the local SGX sealing root, AES-256-GCM-SIV and a client
ACL that the enclave itself satisfies, derives a 32-byte key from hardware seal
keys, and seals the secret under the serialized header and the additional
authenticated data; `Unseal` parses the header back and does the same to open
the secret.

What the sealer calls outside this code is a `SealerPlatform`: protobuf's
codec for headers, `ParseSgxExpectation`, the match of the enclave's own
identity against an expectation, `EGETKEY` as a function of the KEYREQUEST, and
SHA-256. The AES-GCM-SIV key that an `AeadCryptor` wraps is the ideal
functionality of `IdealAead`: the random nonce and the ciphertext of a seal are
its coins.

`GenerateCryptorKey` builds the CPUSVN of its KEYREQUEST in a temporary
`UnsafeBytes<kCpusvnSize>`, whose constructor does not initialize the storage
before it copies the expectation's CPUSVN over it: what that storage held is
an input, `uninitialized`. -/
namespace Asylo.Sealing
open CertificateUtil (asciiBytes)
open SgxIdentityUtil (SgxIdentity Attributes)
open IdentityAclEvaluator (IdentityAclPredicate)

/-! ## Messages -/

/-- `AeadScheme` (`crypto/algorithms.proto`). -/
inductive AeadScheme
  | UNKNOWN_AEAD_SCHEME
  | AES128_GCM
  | AES256_GCM
  | AES128_GCM_SIV
  | AES256_GCM_SIV
  deriving DecidableEq, Repr

/-- `AeadScheme_Name`, which `ProtoEnumValueName` also gives. -/
def AeadScheme.name : AeadScheme → String
  | .UNKNOWN_AEAD_SCHEME => "UNKNOWN_AEAD_SCHEME"
  | .AES128_GCM => "AES128_GCM"
  | .AES256_GCM => "AES256_GCM"
  | .AES128_GCM_SIV => "AES128_GCM_SIV"
  | .AES256_GCM_SIV => "AES256_GCM_SIV"

/-- `SealingRootType` (`identity/sealing/sealed_secret.proto`). The enum has no
zero value, so an unset field reads as its first one, `LOCAL`. -/
inductive SealingRootType
  | LOCAL
  | REMOTE
  deriving DecidableEq, Repr

/-- `SealingRootType_Name`. -/
def SealingRootType.name : SealingRootType → String
  | .LOCAL => "LOCAL"
  | .REMOTE => "REMOTE"

/-- `SealingRootInformation`, with the fields this code reads. -/
structure SealingRootInformation where
  sealingRootType : SealingRootType
  sealingRootName : String
  aeadScheme : AeadScheme
  deriving DecidableEq, Repr

/-- `SealedSecretHeader`, with the fields this code reads. -/
structure SealedSecretHeader (EnclaveIdentityExpectation : Type) where
  rootInfo : SealingRootInformation
  clientAcl : IdentityAclPredicate EnclaveIdentityExpectation

/-- `SealedSecret`, with the fields this code writes and reads. -/
structure SealedSecret where
  iv : List UInt8
  sealedSecretHeader : List UInt8
  additionalAuthenticatedData : List UInt8
  secretCiphertext : List UInt8
  deriving DecidableEq, Repr

/-- `CodeIdentityMatchSpec` (`identity/platform/sgx/code_identity.proto`). -/
structure CodeIdentityMatchSpec where
  isMrenclaveMatchRequired : Bool
  isMrsignerMatchRequired : Bool
  attributesMatchMask : Attributes
  miscselectMatchMask : Nat
  deriving DecidableEq, Repr

/-- `SgxIdentityMatchSpec`, with the part the key derivation reads. -/
structure SgxIdentityMatchSpec where
  codeIdentityMatchSpec : CodeIdentityMatchSpec
  deriving DecidableEq, Repr

/-- `SgxIdentityExpectation`. -/
structure SgxIdentityExpectation where
  referenceIdentity : SgxIdentity
  matchSpec : SgxIdentityMatchSpec
  deriving DecidableEq, Repr

/-! ## The KEYREQUEST -/

def kCpusvnSize : Nat := 16

def kKeyrequestKeyidSize : Nat := 32

/-- `kHardwareKeySize`, `AES_BLOCK_SIZE`. -/
def kHardwareKeySize : Nat := 16

def kKeypolicyMrenclaveBitMask : Nat := 0x1

def kKeypolicyMrsignerBitMask : Nat := 0x2

/-- `KeyrequestKeyname`. -/
inductive KeyrequestKeyname
  | EINITTOKEN_KEY
  | PROVISION_KEY
  | PROVISION_SEAL_KEY
  | REPORT_KEY
  | SEAL_KEY
  deriving DecidableEq, Repr

/-- `Keyrequest`, with the fields this code sets; the others stay zero. -/
structure Keyrequest where
  keyname : KeyrequestKeyname
  keypolicy : Nat
  isvsvn : Nat
  cpusvn : UnsafeBytes kCpusvnSize
  attributemask : Attributes
  keyid : UnsafeBytes kKeyrequestKeyidSize
  miscmask : Nat
  deriving DecidableEq, Repr

/-- What the sealer calls outside this code. -/
structure SealerPlatform (EnclaveIdentityExpectation : Type) where
  /-- `SerializeToString` and `ParseFromString` of `SealedSecretHeader`. -/
  headerCodec : ProtoCodec (SealedSecretHeader EnclaveIdentityExpectation)
  /-- `ParseSgxExpectation(expectation, &sgx_expectation)`. -/
  parseSgxExpectation : EnclaveIdentityExpectation → StatusOr SgxIdentityExpectation
  /-- `MatchIdentityToExpectation(GetSelfIdentity()->sgx_identity, expectation,
  &explanation)`: the result, and the explanation it wrote. -/
  matchSelfIdentity : SgxIdentityExpectation → StatusOr Bool × String
  /-- `HardwareInterface::CreateDefault()->GetKey(request)`, `EGETKEY`. -/
  getKey : Keyrequest → StatusOr (UnsafeBytes kHardwareKeySize)
  /-- The digest of `Sha256Hash` over its input. -/
  sha256 : List UInt8 → UnsafeBytes kKeyrequestKeyidSize

/-! ## The cryptor -/

def kAes256GcmSivKeySize : Nat := 32

def kAesGcmSivMaxMessageSize : Nat := 2 ^ 25

/-- `kAesGcmNonceSize`, the nonce size of the random nonce generator. -/
def kAesGcmNonceSize : Nat := 12

/-- What AES-GCM-SIV has sealed so far, under keys that are byte strings. -/
abbrev Aead := IdealAead.State (List UInt8)

/-- An `AeadCryptor` for AES-GCM-SIV as `CreateAesGcmSivCryptor` makes it: its
key. Its count of sealed messages starts at 0, below the limit of `2^48`, and
each cryptor here seals once. -/
structure AeadCryptor where
  key : List UInt8
  deriving DecidableEq, Repr

/-- `MakeCryptor(aead_scheme, key)`, with the key-length check of
`AeadKey::CreateAesGcmSivKey`. -/
def makeCryptor (aeadScheme : AeadScheme) (key : List UInt8) : StatusOr AeadCryptor :=
  match aeadScheme with
  | .AES256_GCM_SIV =>
    if key.length = 16 ∨ key.length = 32 then .ok ⟨key⟩
    else .error ⟨.invalidArgument, "Invalid AES-GCM-SIV key length: " ++ toString key.length ++
      " (must be 16 or 32 bytes)"⟩
  | _ => .error ⟨.invalidArgument, "Unsupported cipher suite"⟩

/-- `AeadCryptor::Seal(plaintext, associated_data, nonce, ciphertext, &size)`:
the size check, then the key's seal with the nonce of the random nonce
generator; the nonce and the ciphertext it returns are the coins. -/
def AeadCryptor.seal (cryptor : AeadCryptor) (aead : Aead) (plaintext associatedData : List UInt8)
    (nonce : UnsafeBytes kAesGcmNonceSize) (ciphertext : List UInt8) : StatusOr (List UInt8 × List UInt8) × Aead :=
  if plaintext.length > kAesGcmSivMaxMessageSize then
    (.error ⟨.invalidArgument, "Plaintext size " ++ toString plaintext.length ++
      " exceeds maximum message size (" ++ toString kAesGcmSivMaxMessageSize ++ " bytes)"⟩, aead)
  else (.ok (nonce.1, ciphertext), aead.encrypt cryptor.key nonce.1 associatedData ciphertext plaintext)

/-- `AeadCryptor::Open(ciphertext, associated_data, nonce, plaintext, &size)`:
the nonce-length check of `AeadKey::Open`, then the key's open. -/
def AeadCryptor.open (cryptor : AeadCryptor) (aead : Aead) (ciphertext associatedData nonce : List UInt8) :
    StatusOr (List UInt8) :=
  if nonce.length ≠ kAesGcmNonceSize then
    .error ⟨.invalidArgument, "Invalid nonce length: " ++ toString nonce.length ++ " (must be " ++
      toString kAesGcmNonceSize ++ " bytes)"⟩
  else
    match aead.decrypt cryptor.key nonce associatedData ciphertext with
    | some plaintext => .ok plaintext
    | none => .error ⟨.internal, "EVP_AEAD_CTX_open failed: "⟩

/-! ## The helpers -/

section Helpers

variable {EnclaveIdentityExpectation : Type} (platform : SealerPlatform EnclaveIdentityExpectation)

/-- `kSgxLocalSecretSealerRootName`. -/
def kSgxLocalSecretSealerRootName : String := "SGX"

/-- `GetAeadSchemeFromSealedSecretHeader(header)`. -/
def getAeadSchemeFromSealedSecretHeader (header : SealedSecretHeader EnclaveIdentityExpectation) :
    StatusOr AeadScheme :=
  let aeadScheme := header.rootInfo.aeadScheme
  if aeadScheme ≠ .AES256_GCM_SIV then .error ⟨.invalidArgument, "Unsupported AeadScheme " ++ aeadScheme.name⟩
  else .ok aeadScheme

/-- `ParseKeyGenerationParamsFromSealedSecretHeader(header, &aead_scheme,
&sgx_expectation)`. -/
def parseKeyGenerationParamsFromSealedSecretHeader (header : SealedSecretHeader EnclaveIdentityExpectation) :
    StatusOr (AeadScheme × SgxIdentityExpectation) :=
  if header.rootInfo.sealingRootType ≠ .LOCAL then .error ⟨.invalidArgument, "Incorrect sealing_root_type"⟩
  else if header.rootInfo.sealingRootName ≠ kSgxLocalSecretSealerRootName then
    .error ⟨.invalidArgument, "Incorrect sealing_root_name"⟩
  else
    match header.clientAcl with
    | .expectation expectation => do
      let sgxExpectation ← platform.parseSgxExpectation expectation
      let aeadScheme ← getAeadSchemeFromSealedSecretHeader header
      match platform.matchSelfIdentity sgxExpectation with
      | (.error status, _) => .error status
      | (.ok false, explanation) =>
        .error ⟨.permissionDenied, "Identity of the current enclave does not match the ACL: " ++ explanation⟩
      | (.ok true, _) => .ok (aeadScheme, sgxExpectation)
    | _ => .error ⟨.invalidArgument, "Malformed client_acl"⟩

/-- `ConvertMatchSpecToKeypolicy(spec)`. -/
def convertMatchSpecToKeypolicy (spec : SgxIdentityMatchSpec) : Nat :=
  (if spec.codeIdentityMatchSpec.isMrenclaveMatchRequired then kKeypolicyMrenclaveBitMask else 0) |||
    (if spec.codeIdentityMatchSpec.isMrsignerMatchRequired then kKeypolicyMrsignerBitMask else 0)

/-- The KEYREQUEST of `GenerateCryptorKey` before its KEYID is set: zeroed,
then the fields of a seal key under `sgxExpectation`. The ISVSVN goes into a
`uint16_t`; the CPUSVN is `UnsafeBytes<kCpusvnSize>(cpu_svn().value())`, the
storage `uninitialized` with the expectation's CPUSVN copied over it. -/
def sealKeyrequest (sgxExpectation : SgxIdentityExpectation) (uninitialized : UnsafeBytes kCpusvnSize) :
    Keyrequest where
  keyname := .SEAL_KEY
  keypolicy := convertMatchSpecToKeypolicy sgxExpectation.matchSpec
  isvsvn := sgxExpectation.referenceIdentity.codeIdentity.signerAssignedIdentity.isvsvn % 2 ^ 16
  cpusvn := (uninitialized.replace 0 (sgxExpectation.referenceIdentity.machineConfiguration.cpuSvn.getD [])).1
  attributemask := sgxExpectation.matchSpec.codeIdentityMatchSpec.attributesMatchMask
  keyid := ⟨List.replicate kKeyrequestKeyidSize 0, List.length_replicate⟩
  miscmask := sgxExpectation.matchSpec.codeIdentityMatchSpec.miscselectMatchMask

/-- The loop of `GenerateCryptorKey` with `remaining` bytes of the key to make
and the subscript of the next subkey. Each round makes at least one byte, so
`fuel = remaining` rounds are enough. -/
def generateCryptorKeyLoop (aeadScheme : AeadScheme) (keyId : String) (keySize : Nat) (request : Keyrequest) :
    Nat → Nat → Nat → StatusOr (List UInt8)
  | 0, _, _ => .ok []
  | fuel + 1, remaining, keySubscript =>
    if remaining = 0 then .ok []
    else
      match serializeByteContainers [asciiBytes SealingRootType.LOCAL.name, asciiBytes kSgxLocalSecretSealerRootName,
          asciiBytes aeadScheme.name, asciiBytes keyId, asciiBytes (toString keySize),
          asciiBytes (toString keySubscript)] with
      | (.error status, _) => .error status
      | (.ok (), keyInfo) =>
        match platform.getKey { request with keyid := platform.sha256 keyInfo } with
        | .error status => .error status
        | .ok hardwareKey =>
          let copySize := min kHardwareKeySize remaining
          (hardwareKey.1.take copySize ++ ·) <$>
            generateCryptorKeyLoop aeadScheme keyId keySize request fuel (remaining - copySize) (keySubscript + 1)

/-- `GenerateCryptorKey(aead_scheme, key_id, sgx_expectation, key_size, &key)`. -/
def generateCryptorKey (aeadScheme : AeadScheme) (keyId : String) (sgxExpectation : SgxIdentityExpectation)
    (keySize : Nat) (uninitialized : UnsafeBytes kCpusvnSize) : StatusOr (List UInt8) :=
  generateCryptorKeyLoop platform aeadScheme keyId keySize (sealKeyrequest sgxExpectation uninitialized) keySize
    keySize 0

/-- `internal::Seal(cryptor, secret, additional_data, &sealed_secret)`: the
ciphertext and the IV it sets. -/
def internalSeal (cryptor : AeadCryptor) (aead : Aead) (secret additionalData : List UInt8)
    (sealedSecret : SealedSecret) (nonce : UnsafeBytes kAesGcmNonceSize) (ciphertext : List UInt8) :
    StatusOr SealedSecret × Aead :=
  match cryptor.seal aead secret additionalData nonce ciphertext with
  | (.error status, aead) => (.error status, aead)
  | (.ok (iv, secretCiphertext), aead) => (.ok { sealedSecret with secretCiphertext, iv }, aead)

/-- `internal::Open(cryptor, sealed_secret, additional_data, &secret)`. -/
def internalOpen (cryptor : AeadCryptor) (aead : Aead) (sealedSecret : SealedSecret) (additionalData : List UInt8) :
    StatusOr (List UInt8) :=
  cryptor.open aead sealedSecret.secretCiphertext additionalData sealedSecret.iv

end Helpers

/-! ## `Seal` and `Unseal` -/

section Sealer

variable {EnclaveIdentityExpectation : Type} (platform : SealerPlatform EnclaveIdentityExpectation)

/-- `SgxLocalSecretSealer::Seal(header, additional_authenticated_data, secret,
&sealed_secret)`. The status that `SerializeByteContainers` returns is not
checked. -/
def SgxLocalSecretSealer.seal (header : SealedSecretHeader EnclaveIdentityExpectation)
    (additionalAuthenticatedData secret : List UInt8) (uninitialized : UnsafeBytes kCpusvnSize) (aead : Aead)
    (nonce : UnsafeBytes kAesGcmNonceSize) (ciphertext : List UInt8) : StatusOr SealedSecret × Aead :=
  match parseKeyGenerationParamsFromSealedSecretHeader platform header with
  | .error status => (.error status, aead)
  | .ok (aeadScheme, sgxExpectation) =>
    match platform.headerCodec.serializeToString header with
    | none => (.error ⟨.internal, "Header serialization to string failed"⟩, aead)
    | some sealedSecretHeader =>
      let finalAdditionalData := (serializeByteContainers [sealedSecretHeader, additionalAuthenticatedData]).2
      match generateCryptorKey platform aeadScheme "default_key_id" sgxExpectation kAes256GcmSivKeySize
          uninitialized with
      | .error status => (.error status, aead)
      | .ok key =>
        match makeCryptor aeadScheme key with
        | .error status => (.error status, aead)
        | .ok cryptor =>
          internalSeal cryptor aead secret finalAdditionalData ⟨[], sealedSecretHeader, additionalAuthenticatedData, []⟩
            nonce ciphertext

/-- `SgxLocalSecretSealer::Unseal(sealed_secret, &secret)`. The status that
`SerializeByteContainers` returns is not checked. -/
def SgxLocalSecretSealer.unseal (sealedSecret : SealedSecret) (uninitialized : UnsafeBytes kCpusvnSize)
    (aead : Aead) : StatusOr (List UInt8) :=
  match platform.headerCodec.parseFromArray sealedSecret.sealedSecretHeader with
  | none => .error ⟨.invalidArgument, "Could not parse the sealed secret header"⟩
  | some header => do
    let (aeadScheme, sgxExpectation) ← parseKeyGenerationParamsFromSealedSecretHeader platform header
    let finalAdditionalData :=
      (serializeByteContainers [sealedSecret.sealedSecretHeader, sealedSecret.additionalAuthenticatedData]).2
    let key ← generateCryptorKey platform aeadScheme "default_key_id" sgxExpectation kAes256GcmSivKeySize uninitialized
    let cryptor ← makeCryptor aeadScheme key
    internalOpen cryptor aead sealedSecret finalAdditionalData

end Sealer

end Asylo.Sealing
