import Asylo.DcapVerifier
import Asylo.CertificateUtilProofs

/-! What `SgxIntelEcdsaQeRemoteAssertionVerifier::Verify` establishes when it
accepts an assertion.

Each check of `Verify` gets a lemma that says what its success means; the
soundness theorem `verify_sound` then puts them together. The checks read the
untrusted bytes several times: the quote is parsed once, but the PEM chain in
its certification data is split and parsed anew by three of them. Because the
model's functions are functions, those parses agree, and `QuoteVerified` speaks
of one chain and one PCK certificate: the certificate that signed the QE
report, the head of the chain that verifies up to a trusted root, and the
certificate whose SGX extension gives the peer's machine configuration. -/
namespace Asylo.DcapVerifier

open CertificateUtil IntelEcdsaQuote SgxIdentityUtil

/-! ## The additional authenticated data -/

/-- `Generate` never fails for a 32-byte digest: its three writes fit, and the
data is the digest, the purpose and the UUID. -/
theorem generate_eq (sha256 : List UInt8 → UnsafeBytes kSha256DigestLength)
    (generator : AdditionalAuthenticatedDataGenerator) (data : List UInt8) :
    ∃ aad, generator.generate sha256 data = .ok aad ∧
      aad.1 = (sha256 data).1 ++ generator.purpose.1 ++ generator.uuid.1 := by
  have hashLength := (sha256 data).2
  have purposeLength := generator.purpose.2
  have uuidLength := generator.uuid.2
  simp only [kSha256DigestLength, kAdditionalAuthenticatedDataPurposeSize,
    kAdditionalAuthenticatedDataUuidSize] at hashLength purposeLength uuidLength
  unfold AdditionalAuthenticatedDataGenerator.generate
  dsimp only
  -- each `replace` writes its whole view, so each count check passes
  rw [UnsafeBytes.replace_of_le _ (by simp [hashLength, kAdditionalAuthenticatedDataSize]) (by decide)]
  dsimp only
  rw [if_neg (by simp [hashLength, kSha256DigestLength])]
  rw [UnsafeBytes.replace_of_le _
    (by simp [purposeLength, kAdditionalAuthenticatedDataSize, kSha256DigestLength]) (by decide)]
  dsimp only
  rw [if_neg (by simp [purposeLength, kAdditionalAuthenticatedDataPurposeSize])]
  rw [UnsafeBytes.replace_of_le _ (by simp [uuidLength, kAdditionalAuthenticatedDataSize,
    kSha256DigestLength, kAdditionalAuthenticatedDataPurposeSize]) (by decide)]
  dsimp only
  rw [if_neg (by simp [uuidLength, kAdditionalAuthenticatedDataUuidSize])]
  refine ⟨_, rfl, ?_⟩
  have pastHash : ∀ n, 32 ≤ n → (sha256 data).1.drop n = [] :=
    fun n far => List.drop_eq_nil_of_le (by omega)
  have pastPurpose : ∀ n, 16 ≤ n → generator.purpose.1.drop n = [] :=
    fun n far => List.drop_eq_nil_of_le (by omega)
  simp [hashLength, purposeLength, uuidLength, kSha256DigestLength, kAdditionalAuthenticatedDataPurposeSize,
    List.take_append, List.drop_append, List.take_of_length_le, pastHash, pastPurpose]

theorem generate_val {sha256 : List UInt8 → UnsafeBytes kSha256DigestLength}
    {generator : AdditionalAuthenticatedDataGenerator} {data : List UInt8}
    {aad : UnsafeBytes kAdditionalAuthenticatedDataSize} (generated : generator.generate sha256 data = .ok aad) :
    aad.1 = (sha256 data).1 ++ generator.purpose.1 ++ generator.uuid.1 := by
  obtain ⟨aad', generated', val⟩ := generate_eq sha256 generator data
  obtain rfl : aad = aad' := Except.ok.inj (generated.symm.trans generated')
  exact val

/-! ## What each check establishes -/

section Checks

variable {Cert Key EnclaveIdentity Acl : Type} (env : Environment Cert Key EnclaveIdentity Acl)

/-- `message` is signed: the key parses, the 64 signature bytes convert, and
the signature verifies over `message`. -/
def Signed (key : StatusOr Key) (message : List UInt8) (signature : UnsafeBytes 64) : Prop :=
  ∃ verifyingKey parsed, key = .ok verifyingKey ∧
    createSignatureFromPckEcdsaP256Sha256Signature signature.1 = .ok parsed ∧
    env.keys.verify verifyingKey message parsed = .ok ()

/-- The header fields `VerifyQuoteHeader` checks. -/
structure HeaderValid (quote : IntelQeQuote) : Prop where
  version : quote.header.version = QUOTE_VERSION
  algorithm : quote.header.algorithm = ECDSA_256_WITH_P256_CURVE
  vendor : quote.header.qeVendorId.1 = INTEL_QE_VENDOR_ID

theorem checkInitialization_ok {members : Members Cert Acl} {caller : String}
    (checked : checkInitialization members caller = .ok ()) : members.isInitialized = true := by
  unfold checkInitialization at checked
  split at checked
  · assumption
  · cases checked

theorem checkDescription_ok {description : AssertionDescription} (checked : checkDescription description = .ok ()) :
    description.identityType = .codeIdentity ∧
      description.authorityType = kSgxIntelEcdsaQeRemoteAssertionAuthority := by
  unfold checkDescription at checked
  split_ifs at checked with mismatch
  simpa [not_or] using mismatch

theorem verifyQuoteHeader_ok {quote : IntelQeQuote} (checked : verifyQuoteHeader quote = .ok ()) :
    HeaderValid quote := by
  unfold verifyQuoteHeader at checked
  by_cases version : quote.header.version = QUOTE_VERSION
  · by_cases algorithm : quote.header.algorithm = ECDSA_256_WITH_P256_CURVE
    · by_cases vendor : quote.header.qeVendorId.1 = INTEL_QE_VENDOR_ID
      · exact ⟨version, algorithm, vendor⟩
      · simp [version, algorithm, vendor] at checked
    · simp [version, algorithm] at checked
  · simp [version] at checked

theorem verifyQuoteBodySignature_ok {aadGenerator : AdditionalAuthenticatedDataGenerator}
    {userData : List UInt8} {quote : IntelQeQuote}
    (checked : verifyQuoteBodySignature env aadGenerator userData quote = .ok ()) :
    quote.body.reportdata.1 = (env.sha256 userData).1 ++ aadGenerator.purpose.1 ++ aadGenerator.uuid.1 ∧
      Signed env (env.keys.create quote.signature.publicKey) (quote.header.1 ++ quote.body.1)
        quote.signature.bodySignature := by
  unfold verifyQuoteBodySignature at checked
  obtain ⟨expectedAuthData, generated, checked⟩ := Except.bind_eq_ok.mp checked
  dsimp only at checked
  split_ifs at checked with mismatch
  · simp at checked
  · obtain ⟨verifyingKey, keyParsed, checked⟩ := Except.bind_eq_ok.mp checked
    obtain ⟨signature, signatureParsed, verified⟩ := Except.bind_eq_ok.mp checked
    refine ⟨?_, verifyingKey, signature, keyParsed, signatureParsed, verified⟩
    rw [← not_not.mp mismatch, generate_val generated]

theorem verifyQeReportDataMatchesQuoteSigningKey_ok {quote : IntelQeQuote}
    (checked : verifyQeReportDataMatchesQuoteSigningKey env quote = .ok ()) :
    quote.signature.qeReport.reportdata.1 =
      (env.sha256 (quote.signature.publicKey.1 ++ quote.qeAuthnData)).1 ++ List.replicate 32 0 := by
  unfold verifyQeReportDataMatchesQuoteSigningKey at checked
  dsimp only at checked
  split_ifs at checked with mismatch
  -- the digest has 32 bytes, so the resize keeps it and adds 32 zeros
  have hashLength := (env.sha256 (quote.signature.publicKey.1 ++ quote.qeAuthnData)).2
  rw [not_not.mp mismatch, List.take_of_length_le (by simp [hashLength, kSha256DigestLength, kReportdataSize]),
    hashLength]
  rfl

theorem pckCertificate_ok {certData : List UInt8} {pckCert : Cert} :
    pckCertificate env certData = .ok pckCert ↔
      ∃ pckCertChain, getCertificateChainFromPem env.x509 certData = .ok pckCertChain ∧
        env.x509.create (pckCertChain.1.head pckCertChain.2) = .ok pckCert :=
  Except.bind_eq_ok

theorem verifyPckSignatureFromPckCertChain_ok {certData : List UInt8} {signature : IntelEcdsaP256QuoteSignature}
    (checked : verifyPckSignatureFromPckCertChain env certData signature = .ok ()) :
    ∃ pckCert, pckCertificate env certData = .ok pckCert ∧
      Signed env (env.iface.subjectKeyDer pckCert >>= env.keys.createFromDer) signature.qeReport.1
        signature.qeReportSignature := by
  unfold verifyPckSignatureFromPckCertChain at checked
  obtain ⟨pckCert, pckCertParsed, checked⟩ := Except.bind_eq_ok.mp checked
  obtain ⟨pckDer, derRead, checked⟩ := Except.bind_eq_ok.mp checked
  obtain ⟨pckPub, keyParsed, checked⟩ := Except.bind_eq_ok.mp checked
  obtain ⟨qeReportSignature, signatureParsed, verified⟩ := Except.bind_eq_ok.mp checked
  exact ⟨pckCert, pckCertParsed, pckPub, qeReportSignature,
    Except.bind_eq_ok.mpr ⟨pckDer, derRead, keyParsed⟩, signatureParsed, verified⟩

theorem verifyPckSignatureOverQuotingEnclave_ok {quote : IntelQeQuote}
    (checked : verifyPckSignatureOverQuotingEnclave env quote = .ok ()) :
    quote.certData.qeCertDataType.toNat = PCK_CERT_CHAIN ∧
      ∃ pckCert, pckCertificate env quote.certData.qeCertData = .ok pckCert ∧
        Signed env (env.iface.subjectKeyDer pckCert >>= env.keys.createFromDer) quote.signature.qeReport.1
          quote.signature.qeReportSignature := by
  unfold verifyPckSignatureOverQuotingEnclave at checked
  dsimp only at checked
  split_ifs at checked with pckChain
  exact ⟨pckChain, verifyPckSignatureFromPckCertChain_ok env checked⟩

theorem verifyPckCertificateChain_ok {quote : IntelQeQuote} {trustedRootCertificates : List Cert} {now : Nat}
    (checked : verifyPckCertificateChain env quote trustedRootCertificates now = .ok ()) :
    ∃ pckCertChain certificateChain,
      getCertificateChainFromPem env.x509 quote.certData.qeCertData = .ok pckCertChain ∧
      createCertificateChain (x509PemFactory env) pckCertChain.1 = .ok certificateChain ∧
      ChainVerified env.iface (VerificationConfig.ofAllFields true now) certificateChain ∧
      ∃ root, certificateChain.getLast? = some root ∧
        ∃ trusted ∈ trustedRootCertificates, env.iface.equal root trusted = true := by
  unfold verifyPckCertificateChain at checked
  obtain ⟨pckCertChain, chainParsed, checked⟩ := Except.bind_eq_ok.mp checked
  obtain ⟨certificateChain, created, checked⟩ := Except.bind_eq_ok.mp checked
  obtain ⟨verified, checked⟩ := Except.bind_unit_eq_ok.mp checked
  have chainVerified := (verifyCertificateChain_eq_ok env.iface _).mp verified
  -- a verified chain has a last certificate, so `back()` is the root
  obtain ⟨root, last, -⟩ := chainVerified.selfSigned
  rw [last] at checked
  dsimp only at checked
  split_ifs at checked with untrusted
  obtain ⟨trusted, member, equal⟩ := List.any_eq_true.mp (by simpa using untrusted)
  exact ⟨pckCertChain, certificateChain, chainParsed, created, chainVerified, root, last, trusted, member, equal⟩

theorem parseEnclaveIdentityFromQuote_ok {reportBody : ReportBody} {certData : IntelCertData}
    {identity : EnclaveIdentity} (parsed : parseEnclaveIdentityFromQuote env reportBody certData = .ok identity) :
    certData.qeCertDataType.toNat = PCK_CERT_CHAIN ∧
      ∃ pckCert machineConfiguration, pckCertificate env certData.qeCertData = .ok pckCert ∧
        env.identity.extractMachineConfigurationFromPckCert pckCert = .ok machineConfiguration ∧
        env.identity.serializeSgxIdentity
          { parseSgxIdentityFromHardwareReport reportBody with machineConfiguration } = .ok identity := by
  unfold parseEnclaveIdentityFromQuote at parsed
  dsimp only at parsed
  split_ifs at parsed with pckChain
  · obtain ⟨appended, appendedOk, serialized⟩ := Except.bind_eq_ok.mp parsed
    unfold parseAndAppendPeerMachineConfigurationFromPckCertChain at appendedOk
    obtain ⟨pckCert, pckCertParsed, appendedOk⟩ := Except.bind_eq_ok.mp appendedOk
    obtain ⟨machineConfiguration, extracted, appendedOk⟩ := Except.bind_eq_ok.mp appendedOk
    obtain rfl := Except.ok.inj appendedOk
    exact ⟨pckChain, pckCert, machineConfiguration, pckCertParsed, extracted, serialized⟩

theorem verifyQeIdentityMatchesExpectation_ok {quote : IntelQeQuote} {qeExpectation : Acl}
    (checked : verifyQeIdentityMatchesExpectation env quote qeExpectation = .ok ()) :
    ∃ qeIdentity explanation,
      parseEnclaveIdentityFromQuote env quote.signature.qeReport quote.certData = .ok qeIdentity ∧
        env.identity.evaluateIdentityAcl [qeIdentity] qeExpectation = .ok (true, explanation) := by
  unfold verifyQeIdentityMatchesExpectation at checked
  obtain ⟨qeIdentity, qeParsed, checked⟩ := Except.bind_eq_ok.mp checked
  obtain ⟨⟨qeMatchResult, explanation⟩, evaluated, checked⟩ := Except.bind_eq_ok.mp checked
  cases qeMatchResult with
  | false => simp at checked
  | true => exact ⟨qeIdentity, explanation, qeParsed, evaluated⟩

/-- The chain built for verification starts with the PCK certificate: the one
factory of the map is `X509Certificate::Create`, the function that made it. -/
theorem head_of_created {pckCertChain : {certChain : List Certificate // certChain ≠ []}}
    {certificateChain : List Cert} {pckCert : Cert}
    (created : createCertificateChain (x509PemFactory env) pckCertChain.1 = .ok certificateChain)
    (pckCertParsed : env.x509.create (pckCertChain.1.head pckCertChain.2) = .ok pckCert) :
    certificateChain.head? = some pckCert := by
  obtain ⟨certChain, nonEmpty⟩ := pckCertChain
  cases certChain with
  | nil => exact absurd rfl nonEmpty
  | cons first rest =>
    cases (createCertificateChain_eq_ok _).mp created with
    | cons firstCreated restCreated =>
      obtain ⟨factory, mapped, made⟩ := firstCreated
      unfold x509PemFactory at mapped
      split_ifs at mapped
      obtain rfl := Option.some.inj mapped
      rw [List.head_cons] at pckCertParsed
      rw [List.head?_cons, Except.ok.inj (made.symm.trans pckCertParsed)]

end Checks

/-! ## Soundness of `Verify` -/

section Soundness

variable {Cert Key EnclaveIdentity Acl : Type} (env : Environment Cert Key EnclaveIdentity Acl)

/-- What an accepted assertion establishes about its quote `quote`, the PEM
chain `pckCertChain` of its certification data, the PCK certificate `pckCert`
at the head of that chain, the chain `certificateChain` of certificate objects
that was verified, the machine configuration `machineConfiguration` read from
`pckCert`, and the peer identity `peer` returned. -/
structure QuoteVerified (members : Members Cert Acl) (now : Nat) (userData : List UInt8)
    (quote : IntelQeQuote) (pckCertChain : {certChain : List Certificate // certChain ≠ []}) (pckCert : Cert)
    (certificateChain : List Cert) (machineConfiguration : MachineConfiguration) (peer : EnclaveIdentity) :
    Prop where
  header : HeaderValid quote
  /-- The report data binds the quote to the user data: the EKEP AAD of it. -/
  userDataBound : quote.body.reportdata.1 = (env.sha256 userData).1 ++ kEkepPurpose.1 ++ kEkepUuid.1
  bodySigned : Signed env (env.keys.create quote.signature.publicKey) (quote.header.1 ++ quote.body.1)
    quote.signature.bodySignature
  /-- The QE report certifies the attestation key and the QE's authentication data. -/
  keyCertified : quote.signature.qeReport.reportdata.1 =
    (env.sha256 (quote.signature.publicKey.1 ++ quote.qeAuthnData)).1 ++ List.replicate 32 0
  pckCertChainType : quote.certData.qeCertDataType.toNat = PCK_CERT_CHAIN
  pckCertChainParsed : getCertificateChainFromPem env.x509 quote.certData.qeCertData = .ok pckCertChain
  pckCertParsed : env.x509.create (pckCertChain.1.head pckCertChain.2) = .ok pckCert
  qeReportSigned : Signed env (env.iface.subjectKeyDer pckCert >>= env.keys.createFromDer)
    quote.signature.qeReport.1 quote.signature.qeReportSignature
  chainBuilt : createCertificateChain (x509PemFactory env) pckCertChain.1 = .ok certificateChain
  chainStartsAtPck : certificateChain.head? = some pckCert
  chainVerified : ChainVerified env.iface (VerificationConfig.ofAllFields true now) certificateChain
  rootTrusted : ∃ root, certificateChain.getLast? = some root ∧
    ∃ trusted ∈ members.rootCertificates, env.iface.equal root trusted = true
  machineConfigurationRead : env.identity.extractMachineConfigurationFromPckCert pckCert = .ok machineConfiguration
  qeIdentityMatches : ∃ qeIdentity explanation,
    env.identity.serializeSgxIdentity
        { parseSgxIdentityFromHardwareReport quote.signature.qeReport with machineConfiguration } =
      .ok qeIdentity ∧
    env.identity.evaluateIdentityAcl [qeIdentity] members.qeIdentityExpectation = .ok (true, explanation)
  peerIdentity : env.identity.serializeSgxIdentity
    { parseSgxIdentityFromHardwareReport quote.body with machineConfiguration } = .ok peer

/-- `Verify`, with the EKEP AAD generator of the default constructor, accepts
an assertion only if it is a quote with every property of `QuoteVerified`,
over one PCK certificate and one chain. -/
theorem verify_sound {members : Members Cert Acl} {now : Nat} {userData : List UInt8} {assertion : Assertion}
    {peer : EnclaveIdentity} (ekep : members.aadGenerator = createEkepAadGenerator)
    (verified : verify env members now userData assertion = .ok peer) :
    ∃ quote pckCertChain pckCert certificateChain machineConfiguration,
      parseDcapPackedQuote assertion.assertion = .ok quote ∧
      QuoteVerified env members now userData quote pckCertChain pckCert certificateChain machineConfiguration
        peer := by
  unfold verify at verified
  obtain ⟨-, verified⟩ := Except.bind_unit_eq_ok.mp verified
  obtain ⟨-, verified⟩ := Except.bind_unit_eq_ok.mp verified
  obtain ⟨quote, parsed, verified⟩ := Except.bind_eq_ok.mp verified
  obtain ⟨headerOk, verified⟩ := Except.bind_unit_eq_ok.mp verified
  obtain ⟨bodyOk, verified⟩ := Except.bind_unit_eq_ok.mp verified
  obtain ⟨qeReportOk, verified⟩ := Except.bind_unit_eq_ok.mp verified
  obtain ⟨pckSignatureOk, verified⟩ := Except.bind_unit_eq_ok.mp verified
  obtain ⟨chainOk, verified⟩ := Except.bind_unit_eq_ok.mp verified
  obtain ⟨qeIdentityOk, peerOk⟩ := Except.bind_unit_eq_ok.mp verified
  obtain ⟨userDataBound, bodySigned⟩ := verifyQuoteBodySignature_ok env bodyOk
  obtain ⟨pckCertChainType, pckCert, pckOk, qeReportSigned⟩ := verifyPckSignatureOverQuotingEnclave_ok env pckSignatureOk
  obtain ⟨pckCertChain, pckCertChainParsed, pckCertParsed⟩ := (pckCertificate_ok env).mp pckOk
  obtain ⟨pckCertChain', certificateChain, pckCertChainParsed', chainBuilt, chainVerified, rootTrusted⟩ :=
    verifyPckCertificateChain_ok env chainOk
  obtain ⟨qeIdentity, explanation, qeParsed, qeAcl⟩ := verifyQeIdentityMatchesExpectation_ok env qeIdentityOk
  obtain ⟨-, qePck, qeMachineConfiguration, qePckOk, qeExtracted, qeSerialized⟩ :=
    parseEnclaveIdentityFromQuote_ok env qeParsed
  obtain ⟨-, peerPck, machineConfiguration, peerPckOk, extracted, serialized⟩ :=
    parseEnclaveIdentityFromQuote_ok env peerOk
  -- the three parses of the certification data give one chain and one certificate
  obtain rfl : pckCertChain = pckCertChain' := Except.ok.inj (pckCertChainParsed.symm.trans pckCertChainParsed')
  obtain rfl : pckCert = qePck := Except.ok.inj (pckOk.symm.trans qePckOk)
  obtain rfl : pckCert = peerPck := Except.ok.inj (pckOk.symm.trans peerPckOk)
  obtain rfl : machineConfiguration = qeMachineConfiguration := Except.ok.inj (extracted.symm.trans qeExtracted)
  rw [ekep] at userDataBound
  exact ⟨quote, pckCertChain, pckCert, certificateChain, machineConfiguration, parsed,
    { header := verifyQuoteHeader_ok headerOk
      userDataBound
      bodySigned
      keyCertified := verifyQeReportDataMatchesQuoteSigningKey_ok env qeReportOk
      pckCertChainType
      pckCertChainParsed
      pckCertParsed
      qeReportSigned
      chainBuilt
      chainStartsAtPck := head_of_created env chainBuilt pckCertParsed
      chainVerified
      rootTrusted
      machineConfigurationRead := extracted
      qeIdentityMatches := ⟨qeIdentity, explanation, qeSerialized, qeAcl⟩
      peerIdentity := serialized }⟩

/-! A quote that passes every check, in an environment whose cryptography
accepts everything: the header has the version, algorithm and vendor id, the
report data of the body is the EKEP AAD of empty user data under a digest of
zeros, the QE report data is that digest and 32 zeros, and the certification
data is one (empty) PEM certificate. -/

def sampleEnv : Environment Unit Unit SgxIdentity Unit where
  x509 := ⟨fun _ => .ok (), fun _ => .ok (), fun _ => .ok []⟩
  iface := ⟨fun _ _ => true, fun _ _ _ => .ok (), fun _ => .ok [], fun _ => none, fun _ => none, fun _ => none⟩
  keys := ⟨fun _ => .ok (), fun _ => .ok (), fun _ _ _ => .ok ()⟩
  sha256 := fun _ => ⟨List.replicate 32 0, List.length_replicate⟩
  identity := ⟨.ok, fun _ _ => .ok (true, ""), fun _ => .ok ⟨none, some .standard⟩⟩

def sampleMembers : Members Unit Unit := ⟨true, createEkepAadGenerator, [()], ()⟩

theorem length_zeroSignatureBytes : (List.replicate 64 (0 : UInt8)).length = 64 := List.length_replicate

theorem length_zeroReportBody : (List.replicate 384 (0 : UInt8)).length = sizeofReportBody := List.length_replicate

def sampleQuote : IntelQeQuote where
  header := ⟨[3, 0, 2, 0] ++ List.replicate 8 0 ++ INTEL_QE_VENDOR_ID ++ List.replicate 20 0, by
    simp only [List.length_append, List.length_replicate, List.length_cons, List.length_nil, INTEL_QE_VENDOR_ID,
      sizeofIntelQeQuoteHeader]⟩
  body := ⟨List.replicate 368 0 ++ kEkepUuid.1, by
    simp only [List.length_append, List.length_replicate, kEkepUuid.2, kAdditionalAuthenticatedDataUuidSize,
      sizeofReportBody]⟩
  signature := ⟨⟨List.replicate 64 0, length_zeroSignatureBytes⟩, ⟨List.replicate 64 0, length_zeroSignatureBytes⟩,
    ⟨List.replicate 384 0, length_zeroReportBody⟩, ⟨List.replicate 64 0, length_zeroSignatureBytes⟩⟩
  qeAuthnData := []
  certData := ⟨5, kBeginCertLabel ++ kEndCertLabel⟩

def sampleAssertion : Assertion :=
  ⟨⟨.codeIdentity, kSgxIntelEcdsaQeRemoteAssertionAuthority⟩, packDcapQuote sampleQuote⟩

set_option maxRecDepth 10000 in
theorem verify_sound_sample_quote :
    sampleMembers.aadGenerator = createEkepAadGenerator ∧
      verify sampleEnv sampleMembers 0 [] sampleAssertion =
        .ok { parseSgxIdentityFromHardwareReport sampleQuote.body with machineConfiguration := ⟨none, some .standard⟩ } ∧
      ∃ quote pckCertChain pckCert certificateChain machineConfiguration,
        parseDcapPackedQuote sampleAssertion.assertion = .ok quote ∧
        QuoteVerified sampleEnv sampleMembers 0 [] quote pckCertChain pckCert certificateChain machineConfiguration
          { parseSgxIdentityFromHardwareReport sampleQuote.body with machineConfiguration := ⟨none, some .standard⟩ } := by
  have verified : verify sampleEnv sampleMembers 0 [] sampleAssertion =
      .ok { parseSgxIdentityFromHardwareReport sampleQuote.body with machineConfiguration := ⟨none, some .standard⟩ } :=
    rfl
  exact ⟨rfl, verified, verify_sound sampleEnv rfl verified⟩

end Soundness

end Asylo.DcapVerifier
