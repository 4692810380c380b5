import Asylo.CertificateUtil
import Asylo.SgxIdentityUtil

/-! The verifier of Intel ECDSA (DCAP) quotes
(`identity/attestation/sgx/sgx_intel_ecdsa_qe_remote_assertion_verifier.cc`),
with the generator of the additional authenticated data the quote must carry
(`identity/additional_authenticated_data_generator.cc`) and the conversion of a
PCK signature (`identity/attestation/sgx/internal/pce_util.cc`).

`Verify` parses the quote, then checks, in this order: the header; that the
report data of the quote's body is the AAD of the user data and that the header
and body are signed by the quote's attestation key; that the QE report certifies
that key; that the QE report is signed by the PCK certificate at the head of the
chain in the certification data; that the chain verifies and ends at a trusted
root; and that the QE's identity satisfies the configured ACL. The peer's
identity is then read from the body, with the machine configuration of the PCK
certificate.

ECDSA keys and SHA-256 are BoringSSL's: they are the fields of
`EcdsaP256Sha256VerifyingKey Key` and a function to 32 bytes. The time that
`VerificationConfig(true)` reads is the argument `now`. -/
namespace Asylo.DcapVerifier

open CertificateUtil IntelEcdsaQuote SgxIdentityUtil

/-! ## `AdditionalAuthenticatedDataGenerator` -/

def kAdditionalAuthenticatedDataUuidSize : Nat := 16
def kAdditionalAuthenticatedDataPurposeSize : Nat := 16
def kAdditionalAuthenticatedDataSize : Nat := 64
/-- `Sha256Hash::DigestSize()`. -/
def kSha256DigestLength : Nat := 32

structure AdditionalAuthenticatedDataGenerator where
  uuid : UnsafeBytes kAdditionalAuthenticatedDataUuidSize
  purpose : UnsafeBytes kAdditionalAuthenticatedDataPurposeSize
  deriving DecidableEq

def kEkepUuid : UnsafeBytes kAdditionalAuthenticatedDataUuidSize :=
  ⟨[0x41, 0x53, 0x59, 0x4c, 0x4f, 0x20, 0x45, 0x4b, 0x45, 0x50, 0x00, 0x00, 0x00, 0x00, 0x00, 0x00], rfl⟩

def kEkepPurpose : UnsafeBytes kAdditionalAuthenticatedDataPurposeSize :=
  ⟨List.replicate 16 0x00, rfl⟩

/-- `AdditionalAuthenticatedDataGenerator::CreateEkepAadGenerator()`. -/
def createEkepAadGenerator : AdditionalAuthenticatedDataGenerator := ⟨kEkepUuid, kEkepPurpose⟩

/-- `Generate(data)`: the SHA-256 digest of `data`, the purpose and the UUID,
each written with `replace`, whose count of written bytes is checked. -/
def AdditionalAuthenticatedDataGenerator.generate (sha256 : List UInt8 → UnsafeBytes kSha256DigestLength)
    (generator : AdditionalAuthenticatedDataGenerator) (data : List UInt8) :
    StatusOr (UnsafeBytes kAdditionalAuthenticatedDataSize) := do
  let hash := (sha256 data).1
  -- the array starts uninitialized; the three writes cover all of it
  let aad : UnsafeBytes kAdditionalAuthenticatedDataSize := ⟨List.replicate 64 0, rfl⟩
  let (aad, written) := aad.replace 0 hash
  if written ≠ kSha256DigestLength then
    throw ⟨.internal, "Setting hash data failed"⟩
  let (aad, written) := aad.replace kSha256DigestLength generator.purpose.1
  if written ≠ kAdditionalAuthenticatedDataPurposeSize then
    throw ⟨.internal, "Setting purpose data failed"⟩
  let (aad, written) :=
    aad.replace (kSha256DigestLength + kAdditionalAuthenticatedDataPurposeSize) generator.uuid.1
  if written ≠ kAdditionalAuthenticatedDataUuidSize then
    throw ⟨.internal, "Setting UUID data failed"⟩
  return aad

/-! ## Signatures and keys -/

/-- `SignatureScheme`. -/
inductive SignatureScheme
  | unknownSignatureScheme
  | ecdsaP256Sha256
  | ecdsaP384Sha384
  deriving DecidableEq, Repr

structure EcdsaSignature where
  r : List UInt8
  s : List UInt8
  deriving DecidableEq, Repr

/-- A `Signature` message with an ECDSA signature. -/
structure Signature where
  signatureScheme : SignatureScheme
  ecdsaSignature : EcdsaSignature
  deriving DecidableEq, Repr

def kEcdsaP256SignatureSize : Nat := 64

/-- `CreateSignatureFromPckEcdsaP256Sha256Signature(pck_signature)`: the 64
bytes split into `r` and `s`. -/
def createSignatureFromPckEcdsaP256Sha256Signature (pckSignature : List UInt8) : StatusOr Signature :=
  if pckSignature.length ≠ kEcdsaP256SignatureSize then
    let size := pckSignature.length
    .error ⟨.invalidArgument,
      s!"Signature is the wrong size for ECDSA-P256-SHA256: {size} (expected {kEcdsaP256SignatureSize})"⟩
  else
    .ok ⟨.ecdsaP256Sha256, ⟨pckSignature.take 32, (pckSignature.drop 32).take 32⟩⟩

/-- `EcdsaP256Sha256VerifyingKey`: a key from a curve point (its 64 big-endian
bytes) or from DER, and verification of a message against a signature. -/
structure EcdsaP256Sha256VerifyingKey (Key : Type) where
  create : UnsafeBytes 64 → StatusOr Key
  createFromDer : List UInt8 → StatusOr Key
  verify : Key → List UInt8 → Signature → StatusOr Unit

/-! ## The verifier -/

/-- What `Verify` calls outside this file. -/
structure Environment (Cert Key EnclaveIdentity Acl : Type) where
  x509 : X509Certificate Cert
  iface : CertificateInterface Cert
  keys : EcdsaP256Sha256VerifyingKey Key
  sha256 : List UInt8 → UnsafeBytes kSha256DigestLength
  identity : IdentityFunctions Cert EnclaveIdentity Acl

/-- `EnclaveIdentityType`. -/
inductive EnclaveIdentityType
  | unknownIdentity
  | nullIdentity
  | codeIdentity
  | certIdentity
  deriving DecidableEq, Repr

structure AssertionDescription where
  identityType : EnclaveIdentityType
  authorityType : String
  deriving DecidableEq, Repr

structure Assertion where
  description : AssertionDescription
  assertion : List UInt8
  deriving DecidableEq, Repr

/-- The verifier's state after `Initialize`. -/
structure Members (Cert Acl : Type) where
  isInitialized : Bool
  aadGenerator : AdditionalAuthenticatedDataGenerator
  rootCertificates : List Cert
  qeIdentityExpectation : Acl

def kSgxIntelEcdsaQeRemoteAssertionAuthority : String := "SGX Intel ECDSA QE"

/-- `intel::sgx::qvl::constants`. -/
def QUOTE_VERSION : Nat := 3
def ECDSA_256_WITH_P256_CURVE : Nat := 2
def INTEL_QE_VENDOR_ID : List UInt8 :=
  [0x93, 0x9A, 0x72, 0x33, 0xF7, 0x9C, 0x4C, 0xA9, 0x94, 0x0A, 0x0D, 0xB3, 0x95, 0x7F, 0x06, 0x07]
/-- The QE certification data type of a PCK certificate chain. -/
def PCK_CERT_CHAIN : Nat := 5
def kReportdataSize : Nat := 64

variable {Cert Key EnclaveIdentity Acl : Type} (env : Environment Cert Key EnclaveIdentity Acl)

def checkDescription (description : AssertionDescription) : StatusOr Unit :=
  if description.identityType ≠ .codeIdentity ∨
      description.authorityType ≠ kSgxIntelEcdsaQeRemoteAssertionAuthority then
    .error ⟨.invalidArgument, "Assertion description does not match"⟩
  else .ok ()

def getPckCertificateChainFromCertData (certData : List UInt8) :
    StatusOr {certChain : List Certificate // certChain ≠ []} :=
  getCertificateChainFromPem env.x509 certData

def verifyQuoteHeader (quote : IntelQeQuote) : StatusOr Unit := do
  let version := quote.header.version
  if version ≠ QUOTE_VERSION then
    throw ⟨.invalidArgument, s!"Invalid quote version \x27{version}\x27. Expected \x27{QUOTE_VERSION}\x27"⟩
  let algorithm := quote.header.algorithm
  if algorithm ≠ ECDSA_256_WITH_P256_CURVE then
    throw ⟨.invalidArgument,
      s!"Invalid quote algorithm \x27{algorithm}\x27. Expected \x27{ECDSA_256_WITH_P256_CURVE}\x27"⟩
  if quote.header.qeVendorId.1 ≠ INTEL_QE_VENDOR_ID then
    let found := bytesToHexString quote.header.qeVendorId.1
    let expected := bytesToHexString INTEL_QE_VENDOR_ID
    throw ⟨.invalidArgument, s!"Invalid vendor ID \x27{found}\x27. Expected \x27{expected}\x27"⟩

def verifyQuoteBodySignature (aadGenerator : AdditionalAuthenticatedDataGenerator) (userData : List UInt8)
    (quote : IntelQeQuote) : StatusOr Unit := do
  let expectedAuthData ← aadGenerator.generate env.sha256 userData
  if expectedAuthData.1 ≠ quote.body.reportdata.1 then
    throw ⟨.invalidArgument, "Authenticated quote data does not match expected user data"⟩
  -- `ToEcdsaP256Sha256VerifyingKey`: the 64 bytes as a curve point
  let verifyingKey ← env.keys.create quote.signature.publicKey
  let signature ← createSignatureFromPckEcdsaP256Sha256Signature quote.signature.bodySignature.1
  -- the header and the body, which lie next to each other in the quote
  env.keys.verify verifyingKey (quote.header.1 ++ quote.body.1) signature

def verifyQeReportDataMatchesQuoteSigningKey (quote : IntelQeQuote) : StatusOr Unit := do
  let hash := (env.sha256 (quote.signature.publicKey.1 ++ quote.qeAuthnData)).1
  -- `resize(kReportdataSize, 0)`: the digest, then zeros
  let reportData := hash.take kReportdataSize ++ List.replicate (kReportdataSize - hash.length) 0
  if quote.signature.qeReport.reportdata.1 ≠ reportData then
    throw ⟨.invalidArgument,
      "Quoting enclave report data does not match quote signing key and authenticated data"⟩

/-- The PCK certificate: the first certificate of the chain in `certData`, as
an X.509 object. -/
def pckCertificate (certData : List UInt8) : StatusOr Cert := do
  let pckCertChain ← getPckCertificateChainFromCertData env certData
  env.x509.create (pckCertChain.1.head pckCertChain.2)

def verifyPckSignatureFromPckCertChain (certData : List UInt8) (signature : IntelEcdsaP256QuoteSignature) :
    StatusOr Unit := do
  let pckCert ← pckCertificate env certData
  let pckDer ← env.iface.subjectKeyDer pckCert
  let pckPub ← env.keys.createFromDer pckDer
  let qeReportSignature ← createSignatureFromPckEcdsaP256Sha256Signature signature.qeReportSignature.1
  env.keys.verify pckPub signature.qeReport.1 qeReportSignature

def verifyPckSignatureOverQuotingEnclave (quote : IntelQeQuote) : StatusOr Unit :=
  let qeCertDataType := quote.certData.qeCertDataType.toNat
  if qeCertDataType = PCK_CERT_CHAIN then
    verifyPckSignatureFromPckCertChain env quote.certData.qeCertData quote.signature
  else
    .error ⟨.unimplemented, s!"Verification not supported for QE cert data type {qeCertDataType}"⟩

/-- The factory map `{{Certificate::X509_PEM, X509Certificate::Create}}`. -/
def x509PemFactory : CertificateFactoryMap Cert := fun format =>
  if format = .x509Pem then some env.x509.create else none

def verifyPckCertificateChain (quote : IntelQeQuote) (trustedRootCertificates : List Cert) (now : Nat) :
    StatusOr Unit := do
  let pckCertChain ← getPckCertificateChainFromCertData env quote.certData.qeCertData
  let certificateChain ← createCertificateChain (x509PemFactory env) pckCertChain.1
  let verificationConfig := VerificationConfig.ofAllFields true now
  verifyCertificateChain env.iface certificateChain verificationConfig
  match certificateChain.getLast? with
  | some rootCertificate =>
    if !trustedRootCertificates.any (env.iface.equal rootCertificate) then
      let name := (env.iface.subjectName rootCertificate).getD "Unknown CA"
      throw ⟨.unauthenticated, "Unrecognized root certificate: " ++ name⟩
  -- `VerifyCertificateChain` has rejected an empty chain
  | none => pure ()

def parseAndAppendPeerMachineConfigurationFromPckCertChain (certData : IntelCertData)
    (identity : SgxIdentity) : StatusOr SgxIdentity := do
  let pckCert ← pckCertificate env certData.qeCertData
  let machineConfiguration ← env.identity.extractMachineConfigurationFromPckCert pckCert
  return { identity with machineConfiguration }

def parseEnclaveIdentityFromQuote (reportBody : ReportBody) (certData : IntelCertData) :
    StatusOr EnclaveIdentity := do
  let identity := parseSgxIdentityFromHardwareReport reportBody
  let qeCertDataType := certData.qeCertDataType.toNat
  if qeCertDataType = PCK_CERT_CHAIN then
    let identity ← parseAndAppendPeerMachineConfigurationFromPckCertChain env certData identity
    env.identity.serializeSgxIdentity identity
  else
    throw ⟨.unimplemented,
      s!"Extracting peer machine identity not supported for QE cert data type {qeCertDataType}"⟩

def verifyQeIdentityMatchesExpectation (quote : IntelQeQuote) (qeExpectation : Acl) : StatusOr Unit := do
  let qeIdentity ← parseEnclaveIdentityFromQuote env quote.signature.qeReport quote.certData
  let (qeMatchResult, explanation) ← env.identity.evaluateIdentityAcl [qeIdentity] qeExpectation
  if !qeMatchResult then
    throw ⟨.unauthenticated, "QE identity did not match expectation: " ++ explanation⟩

def checkInitialization (members : Members Cert Acl) (caller : String) : StatusOr Unit :=
  if members.isInitialized then .ok ()
  else .error ⟨.failedPrecondition,
    "SgxIntelEcdsaQeRemoteAssertionVerifier must be initialized before calling " ++ caller⟩

/-- `SgxIntelEcdsaQeRemoteAssertionVerifier::Verify(user_data, assertion,
&peer_identity)`: the peer's identity, or the first check that failed. -/
def verify (members : Members Cert Acl) (now : Nat) (userData : List UInt8) (assertion : Assertion) :
    StatusOr EnclaveIdentity := do
  checkInitialization members "Verify"
  checkDescription assertion.description
  let quote ← parseDcapPackedQuote assertion.assertion
  verifyQuoteHeader quote
  verifyQuoteBodySignature env members.aadGenerator userData quote
  verifyQeReportDataMatchesQuoteSigningKey env quote
  verifyPckSignatureOverQuotingEnclave env quote
  verifyPckCertificateChain env quote members.rootCertificates now
  verifyQeIdentityMatchesExpectation env quote members.qeIdentityExpectation
  parseEnclaveIdentityFromQuote env quote.body quote.certData

end Asylo.DcapVerifier
