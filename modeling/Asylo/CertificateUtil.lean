import Asylo.Util

/-! Certificate chains (`crypto/certificate_util.cc`): splitting a PEM string
into certificates (`GetCertificateChainFromPem`), building a chain of
certificate objects through a map from formats to factories
(`CreateCertificateChain`), and checking a chain (`VerifyCertificateChain`).

What a certificate object can do, verify itself under an issuer, say whether it
is a CA and how long a path below it may be, give its subject key and name,
compare itself with another, is the interface `CertificateInterface`; the X.509
objects behind it are BoringSSL's, so the operations are the fields of
`CertificateInterface Cert` over certificate objects of any type, and the
parsers of `X509Certificate` are the fields of `X509Certificate Cert`. What this
code does with them, in which order and over which certificates, is modelled as
written. -/
namespace Asylo.CertificateUtil

/-- `Certificate::CertificateFormat`. -/
inductive CertificateFormat
  | unknown
  | x509Der
  | x509Pem
  | sgxAttestationKeyCertificate
  deriving DecidableEq, Repr

/-- `ProtoEnumValueName` of a format. -/
def CertificateFormat.name : CertificateFormat → String
  | .unknown => "UNKNOWN"
  | .x509Der => "X509_DER"
  | .x509Pem => "X509_PEM"
  | .sgxAttestationKeyCertificate => "SGX_ATTESTATION_KEY_CERTIFICATE"

/-- A `Certificate` message: a format and the encoded certificate. -/
structure Certificate where
  format : CertificateFormat
  data : List UInt8
  deriving DecidableEq, Repr

/-- `VerificationConfig`; the validity period is checked at a time, given here
as a number. -/
structure VerificationConfig where
  issuerCa : Bool
  maxPathlen : Bool
  issuerKeyUsage : Bool
  subjectValidityPeriod : Option Nat
  deriving DecidableEq, Repr

/-- `VerificationConfig(all_fields)`, built at the time `now` (`absl::Now()`). -/
def VerificationConfig.ofAllFields (allFields : Bool) (now : Nat) : VerificationConfig :=
  ⟨allFields, allFields, allFields, if allFields then some now else none⟩

/-- The operations of `CertificateInterface` that this code calls. -/
structure CertificateInterface (Cert : Type) where
  /-- `operator==`. -/
  equal : Cert → Cert → Bool
  /-- `subject.Verify(issuer, config)`. -/
  verify : Cert → Cert → VerificationConfig → StatusOr Unit
  subjectKeyDer : Cert → StatusOr (List UInt8)
  subjectName : Cert → Option String
  isCa : Cert → Option Bool
  certPathLength : Cert → Option Int

/-- The parsers of `X509Certificate` and its re-encoding in PEM. -/
structure X509Certificate (Cert : Type) where
  createFromPem : List UInt8 → StatusOr Cert
  createFromDer : List UInt8 → StatusOr Cert
  /-- The data of `ToCertificateProto(Certificate::X509_PEM)`. -/
  toPemEncoding : Cert → StatusOr (List UInt8)

/-- `CertificateFactoryMap`: the factory of each format that has one. -/
abbrev CertificateFactoryMap (Cert : Type) := CertificateFormat → Option (Certificate → StatusOr Cert)

variable {Cert : Type}

/-- `X509Certificate::Create(certificate)`. -/
def X509Certificate.create (x509 : X509Certificate Cert) (certificate : Certificate) : StatusOr Cert :=
  match certificate.format with
  | .x509Pem => x509.createFromPem certificate.data
  | .x509Der => x509.createFromDer certificate.data
  | format =>
    let name := format.name
    .error ⟨.invalidArgument, s!"Transformation to X509 is not supported for: {name}"⟩

/-! ## `GetCertificateChainFromPem` -/

/-- The bytes of an ASCII string. -/
def asciiBytes (text : String) : List UInt8 := text.toList.map fun c => c.toNat.toUInt8

def kBeginCertLabel : List UInt8 := asciiBytes "-----BEGIN CERTIFICATE-----"
def kEndCertLabel : List UInt8 := asciiBytes "-----END CERTIFICATE-----"

/-- The search of `find` from position `i`, with `fuel` positions left. -/
def findFrom (text pattern : List UInt8) : Nat → Nat → Option Nat
  | 0, _ => none
  | fuel + 1, i => if pattern.isPrefixOf (text.drop i) then some i else findFrom text pattern fuel (i + 1)

/-- `string_view::find(pattern, pos)`: the first position from `pos` on where
`pattern` starts, or `npos` (`none`). The positions up to the end of the text are
all the candidates. -/
def find (text pattern : List UInt8) (pos : Nat) : Option Nat :=
  findFrom text pattern (text.length + 1 - pos) pos

/-- `GetCertificateFromPem(pem_cert)`: the certificate parsed, and put back into
a `Certificate` message in PEM. -/
def getCertificateFromPem (x509 : X509Certificate Cert) (pemCert : List UInt8) : StatusOr Certificate := do
  let cert ← x509.createFromPem pemCert
  let data ← x509.toPemEncoding cert
  return ⟨.x509Pem, data⟩

/-- The loop of `GetCertificateChainFromPem` over `pemCertChain`, with the
positions of the next labels, the certificates found so far, and `fuel` rounds
left. Each round moves the END position forward, so the rounds a text allows
are fewer than its length plus one (`getCertificateChainLoop_fuel`). -/
def getCertificateChainLoop (x509 : X509Certificate Cert) (pemCertChain : List UInt8) :
    Nat → Option Nat → Option Nat → List Certificate → StatusOr (List Certificate)
  | fuel + 1, some certStart, some certEnd, certChain => do
    let pemCert := (pemCertChain.drop certStart).take (certEnd + kEndCertLabel.length - certStart)
    let certificate ← getCertificateFromPem x509 pemCert
    let certStart := find pemCertChain kBeginCertLabel certEnd
    -- `find` from `npos` finds nothing
    let certEnd := certStart.bind (find pemCertChain kEndCertLabel)
    getCertificateChainLoop x509 pemCertChain fuel certStart certEnd (certChain ++ [certificate])
  | _, _, _, certChain => .ok certChain

/-- No BEGIN label left: the loop ends. -/
@[simp] theorem getCertificateChainLoop_start_none (x509 : X509Certificate Cert) (pemCertChain : List UInt8)
    (fuel : Nat) (certEnd : Option Nat) (certChain : List Certificate) :
    getCertificateChainLoop x509 pemCertChain fuel none certEnd certChain = .ok certChain := by
  cases fuel <;> rfl

/-- No END label left: the loop ends. -/
@[simp] theorem getCertificateChainLoop_end_none (x509 : X509Certificate Cert) (pemCertChain : List UInt8)
    (fuel : Nat) (certStart : Option Nat) (certChain : List Certificate) :
    getCertificateChainLoop x509 pemCertChain fuel certStart none certChain = .ok certChain := by
  cases fuel <;> cases certStart <;> rfl

/-- `GetCertificateChainFromPem(pem_cert_chain)`. The chain it returns is not
empty, which is what lets its callers take its first certificate. -/
def getCertificateChainFromPem (x509 : X509Certificate Cert) (pemCertChain : List UInt8) :
    StatusOr {certChain : List Certificate // certChain ≠ []} := do
  let certStart := find pemCertChain kBeginCertLabel 0
  let certEnd := certStart.bind (find pemCertChain kEndCertLabel)
  let certChain ← getCertificateChainLoop x509 pemCertChain (pemCertChain.length + 1) certStart certEnd []
  if found : certChain.length = 0 then
    throw ⟨.invalidArgument,
      "The certificate chain string does not contain any pair of \x27-----BEGIN CERTIFICATE-----\x27 and \x27-----END CERTIFICATE-----\x27"⟩
  else
    return ⟨certChain, fun empty => found (by rw [empty, List.length_nil])⟩

/-! ## `CreateCertificateChain` -/

/-- `CreateCertificateChain(factory_map, chain)` from the certificate at `index`
on. -/
def createCertificateChainFrom (factoryMap : CertificateFactoryMap Cert) :
    Nat → List Certificate → StatusOr (List Cert)
  | _, [] => .ok []
  | index, cert :: rest =>
    match factoryMap cert.format with
    | none =>
      let name := cert.format.name
      .error ⟨.invalidArgument, s!"At index {index} no mapping from format to factory for format {name}"⟩
    | some factory => do
      let certificate ← withContext (factory cert) s!"Failed to create certificate at index {index}"
      let certificates ← createCertificateChainFrom factoryMap (index + 1) rest
      return certificate :: certificates

def createCertificateChain (factoryMap : CertificateFactoryMap Cert) (chain : List Certificate) :
    StatusOr (List Cert) :=
  createCertificateChainFrom factoryMap 0 chain

/-! ## `VerifyCertificateChain` -/

/-- The loop of `VerifyCertificateChain` from the certificate at `index`, with
`caCount` CAs counted so far: each certificate is verified by the next. -/
def verifyIssuers (iface : CertificateInterface Cert) (config : VerificationConfig) :
    Nat → Int → List Cert → StatusOr Unit
  | index, caCount, subject :: issuer :: rest => do
    if config.maxPathlen then
      if let some maxPathlength := iface.certPathLength issuer then
        if maxPathlength < caCount then
          throw ⟨.unauthenticated, s!"Maximum pathlength of certificate at index {index} exceeded. Maximum pathlength: {maxPathlength}, current pathlength: {caCount}"⟩
    -- an issuer that does not say whether it is a CA counts as one
    let caCount := if (iface.isCa issuer).getD true then caCount + 1 else caCount
    withContext (iface.verify subject issuer config) s!"Failed to verify certificate at index {index}"
    verifyIssuers iface config (index + 1) caCount (issuer :: rest)
  | _, _, _ => pure ()

/-- `VerifyCertificateChain(certificate_chain, verification_config)`. -/
def verifyCertificateChain (iface : CertificateInterface Cert) (certificateChain : List Cert)
    (config : VerificationConfig) : StatusOr Unit :=
  match certificateChain.getLast? with
  | none => .error ⟨.invalidArgument, "Certificate chain must include at least one certificate"⟩
  | some root => do
    verifyIssuers iface config 0 0 certificateChain
    -- the root certificate should be self-signed
    withContext (iface.verify root root config) "Failed to verify root certificate"

end Asylo.CertificateUtil
