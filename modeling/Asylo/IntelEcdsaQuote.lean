import Asylo.Util
import Asylo.ExceptLemmas

/-! The Intel ECDSA quote of DCAP attestation
(`identity/attestation/sgx/internal/intel_ecdsa_quote.{h,cc}`): its packed
layout, `ParseDcapPackedQuote` and `PackDcapQuote`, and the fields of the quote
header and of the SGX report body (`identity_key_management_structs.h`) that
verification reads.

The fixed-size parts are `UnsafeBytes` of their `sizeof`. The two variable
parts, the QE authentication data and the certification data, carry their
lengths in the packed form as 16- and 32-bit words, and the whole signature
section its length as a 32-bit word. The parser checks that word against what is
left and that nothing is left at the end. `parseDcapPackedQuote_packDcapQuote`
is the round trip, for quotes whose variable parts fit their length words;
`packDcapQuote_of_parse` the other way round: the parser accepts nothing but
such packings, so a packed quote has one parse. -/
namespace Asylo.IntelEcdsaQuote

def sizeofIntelQeQuoteHeader : Nat := 48
def sizeofReportBody : Nat := 384
def sizeofIntelEcdsaP256QuoteSignature : Nat := 576

/-- `ReportBody`: an SGX report body. -/
abbrev ReportBody := UnsafeBytes sizeofReportBody

namespace ReportBody

/-! The fields at their offsets in the packed structure; the integers are
little-endian. -/

def cpusvn (body : ReportBody) : UnsafeBytes 16 := body.slice 0 16 (by decide)

def miscselect (body : ReportBody) : Nat := LittleEndian.decode (body.slice 16 4 (by decide)).1

/-- The `flags` word of `attributes` (`SecsAttributeSet`). -/
def attributesFlags (body : ReportBody) : Nat := LittleEndian.decode (body.slice 48 8 (by decide)).1

/-- The `xfrm` word of `attributes`. -/
def attributesXfrm (body : ReportBody) : Nat := LittleEndian.decode (body.slice 56 8 (by decide)).1

def mrenclave (body : ReportBody) : UnsafeBytes 32 := body.slice 64 32 (by decide)

def mrsigner (body : ReportBody) : UnsafeBytes 32 := body.slice 128 32 (by decide)

def isvprodid (body : ReportBody) : Nat := LittleEndian.decode (body.slice 256 2 (by decide)).1

def isvsvn (body : ReportBody) : Nat := LittleEndian.decode (body.slice 258 2 (by decide)).1

def reportdata (body : ReportBody) : UnsafeBytes 64 := body.slice 320 64 (by decide)

end ReportBody

/-- `IntelQeQuoteHeader`: version, algorithm, reserved bytes, QE and PCE SVNs,
QE vendor id and user data. -/
abbrev IntelQeQuoteHeader := UnsafeBytes sizeofIntelQeQuoteHeader

namespace IntelQeQuoteHeader

def version (header : IntelQeQuoteHeader) : Nat := LittleEndian.decode (header.slice 0 2 (by decide)).1

def algorithm (header : IntelQeQuoteHeader) : Nat := LittleEndian.decode (header.slice 2 2 (by decide)).1

def qeVendorId (header : IntelQeQuoteHeader) : UnsafeBytes 16 := header.slice 12 16 (by decide)

end IntelQeQuoteHeader

/-- `IntelEcdsaP256QuoteSignature`. -/
structure IntelEcdsaP256QuoteSignature where
  /-- The signature over the header and the report body. -/
  bodySignature : UnsafeBytes 64
  /-- The attestation key that made `bodySignature`. -/
  publicKey : UnsafeBytes 64
  /-- The report of the QE, which certifies `publicKey` in its report data. -/
  qeReport : ReportBody
  /-- The signature over `qeReport` by the PCK. -/
  qeReportSignature : UnsafeBytes 64
  deriving DecidableEq

namespace IntelEcdsaP256QuoteSignature

/-- The signature as `ReadSingle` copies its 576 bytes into the fields. -/
def ofBytes (bytes : UnsafeBytes sizeofIntelEcdsaP256QuoteSignature) : IntelEcdsaP256QuoteSignature :=
  ⟨bytes.slice 0 64 (by decide), bytes.slice 64 64 (by decide), bytes.slice 128 384 (by decide),
    bytes.slice 512 64 (by decide)⟩

/-- The bytes of the packed structure. -/
def toBytes (signature : IntelEcdsaP256QuoteSignature) : List UInt8 :=
  signature.bodySignature.1 ++ signature.publicKey.1 ++ signature.qeReport.1 ++
    signature.qeReportSignature.1

end IntelEcdsaP256QuoteSignature

/-- `IntelCertData`: the type of the certification data and its bytes. -/
structure IntelCertData where
  qeCertDataType : UInt16
  qeCertData : List UInt8
  deriving DecidableEq, Repr

/-- `IntelQeQuote`. -/
structure IntelQeQuote where
  header : IntelQeQuoteHeader
  body : ReportBody
  signature : IntelEcdsaP256QuoteSignature
  qeAuthnData : List UInt8
  certData : IntelCertData
  deriving DecidableEq

/-- `ParseDcapPackedQuote(packed_quote)`. -/
def parseDcapPackedQuote (packedQuote : List UInt8) : StatusOr IntelQeQuote := do
  let reader : ByteContainerReader := ⟨packedQuote, 0⟩
  let (header, reader) ← reader.readRaw sizeofIntelQeQuoteHeader
  let (body, reader) ← reader.readRaw sizeofReportBody
  -- "Quote Signature Data Len": the length of everything that follows
  let (signatureSize, reader) ← reader.readInteger 4
  let remaining := reader.bytesRemaining
  if signatureSize ≠ remaining then
    throw ⟨.invalidArgument,
      s!"Expected signature data size of {remaining}, actual value was {signatureSize}"⟩
  let (signature, reader) ← reader.readRaw sizeofIntelEcdsaP256QuoteSignature
  let (authnDataSize, reader) ← reader.readInteger 2
  let (qeAuthnData, reader) ← reader.readMultiple authnDataSize
  let (qeCertDataType, reader) ← reader.readInteger 2
  let (certDataSize, reader) ← reader.readInteger 4
  let (qeCertData, reader) ← reader.readMultiple certDataSize
  let left := reader.bytesRemaining
  if left ≠ 0 then
    throw ⟨.invalidArgument, s!"Expected no bytes left, but {left} bytes are remaining"⟩
  return ⟨header, body, .ofBytes signature, qeAuthnData, ⟨qeCertDataType.toUInt16, qeCertData⟩⟩

/-- `PackDcapQuote(quote)`. The lengths are truncated to the width of their
words, as the `uint16_t` and `uint32_t` locals of the source truncate them. -/
def packDcapQuote (quote : IntelQeQuote) : List UInt8 :=
  let kSizeOfQeAuthData := quote.qeAuthnData.length % 2 ^ 16
  let kSizeOfQeCertData := quote.certData.qeCertData.length % 2 ^ 32
  let kSizeOfSignatureData :=
    (sizeofIntelEcdsaP256QuoteSignature + 2 + kSizeOfQeAuthData + 2 + 4 + kSizeOfQeCertData) % 2 ^ 32
  quote.header.1 ++ quote.body.1 ++ LittleEndian.encode 4 kSizeOfSignatureData ++
    quote.signature.toBytes ++ LittleEndian.encode 2 kSizeOfQeAuthData ++ quote.qeAuthnData ++
    LittleEndian.encode 2 quote.certData.qeCertDataType.toNat ++ LittleEndian.encode 4 kSizeOfQeCertData ++
    quote.certData.qeCertData

/-! ## The round trip -/

section RoundTrip

open ByteContainerReader

theorem IntelEcdsaP256QuoteSignature.length_toBytes (signature : IntelEcdsaP256QuoteSignature) :
    signature.toBytes.length = sizeofIntelEcdsaP256QuoteSignature := by
  simp [IntelEcdsaP256QuoteSignature.toBytes, signature.bodySignature.2, signature.publicKey.2,
    signature.qeReport.2, signature.qeReportSignature.2, sizeofReportBody, sizeofIntelEcdsaP256QuoteSignature]

theorem IntelEcdsaP256QuoteSignature.ofBytes_toBytes (signature : IntelEcdsaP256QuoteSignature) :
    IntelEcdsaP256QuoteSignature.ofBytes
      ⟨signature.toBytes, IntelEcdsaP256QuoteSignature.length_toBytes signature⟩ = signature := by
  obtain ⟨⟨bodySignature, bodyLength⟩, ⟨publicKey, keyLength⟩, ⟨qeReport, reportLength⟩,
    ⟨qeReportSignature, reportSignatureLength⟩⟩ := signature
  have reportBytes : qeReport.length = 384 := reportLength
  have pastBody : ∀ n, 64 ≤ n → bodySignature.drop n = [] :=
    fun n far => List.drop_eq_nil_of_le (by omega)
  have pastKey : ∀ n, 64 ≤ n → publicKey.drop n = [] :=
    fun n far => List.drop_eq_nil_of_le (by omega)
  simp [IntelEcdsaP256QuoteSignature.ofBytes, IntelEcdsaP256QuoteSignature.toBytes, UnsafeBytes.slice,
    List.drop_append, bodyLength, keyLength, reportBytes, pastBody, pastKey, List.take_of_length_le,
    reportSignatureLength]
  rfl

theorem IntelEcdsaP256QuoteSignature.toBytes_ofBytes (bytes : UnsafeBytes sizeofIntelEcdsaP256QuoteSignature) :
    (IntelEcdsaP256QuoteSignature.ofBytes bytes).toBytes = bytes.1 := by
  obtain ⟨bytes, length⟩ := bytes
  have last : (bytes.drop 512).take 64 = bytes.drop 512 :=
    List.take_of_length_le (by simp [length, sizeofIntelEcdsaP256QuoteSignature])
  simp only [IntelEcdsaP256QuoteSignature.ofBytes, IntelEcdsaP256QuoteSignature.toBytes, UnsafeBytes.slice,
    List.drop_zero, last, List.append_assoc]
  -- each field and what follows it make up the rest of the bytes
  rw [show bytes.drop 512 = (bytes.drop 128).drop 384 by rw [List.drop_drop], List.take_append_drop,
    show bytes.drop 128 = (bytes.drop 64).drop 64 by rw [List.drop_drop], List.take_append_drop,
    List.take_append_drop]

/-- A quote whose authentication data fits its 16-bit length and whose
signature section fits its 32-bit length. -/
def IntelQeQuote.Packable (quote : IntelQeQuote) : Prop :=
  quote.qeAuthnData.length < 2 ^ 16 ∧
    sizeofIntelEcdsaP256QuoteSignature + 2 + quote.qeAuthnData.length + 2 + 4 +
      quote.certData.qeCertData.length < 2 ^ 32

/-- `ParseDcapPackedQuote` reads back what `PackDcapQuote` wrote. -/
theorem parseDcapPackedQuote_packDcapQuote (quote : IntelQeQuote) (packable : quote.Packable) :
    parseDcapPackedQuote (packDcapQuote quote) = .ok quote := by
  obtain ⟨authnFits, sectionFits⟩ := packable
  have certFits : quote.certData.qeCertData.length < 2 ^ 32 := by omega
  set packed := packDcapQuote quote with packedDef
  -- the packed quote, field after field
  have layout : packed.drop 0 = quote.header.1 ++ (quote.body.1 ++ (LittleEndian.encode 4
      (sizeofIntelEcdsaP256QuoteSignature + 2 + quote.qeAuthnData.length + 2 + 4 +
        quote.certData.qeCertData.length) ++
      (quote.signature.toBytes ++ (LittleEndian.encode 2 quote.qeAuthnData.length ++ (quote.qeAuthnData ++
      (LittleEndian.encode 2 quote.certData.qeCertDataType.toNat ++
      (LittleEndian.encode 4 quote.certData.qeCertData.length ++ quote.certData.qeCertData))))))) := by
    simp only [packedDef, packDcapQuote, Nat.mod_eq_of_lt authnFits, Nat.mod_eq_of_lt certFits,
      Nat.mod_eq_of_lt sectionFits, List.drop_zero, List.append_assoc]
  have total := congrArg List.length layout
  simp only [List.drop_zero, List.length_append, LittleEndian.length_encode, IntelEcdsaP256QuoteSignature.length_toBytes,
    quote.header.2, quote.body.2] at total
  have afterHeader := drop_past layout
  rw [quote.header.2] at afterHeader
  have afterBody := drop_past afterHeader
  rw [quote.body.2] at afterBody
  have afterSize := drop_past afterBody
  rw [LittleEndian.length_encode] at afterSize
  have afterSignature := drop_past afterSize
  rw [IntelEcdsaP256QuoteSignature.length_toBytes] at afterSignature
  have afterAuthnSize := drop_past afterSignature
  rw [LittleEndian.length_encode] at afterAuthnSize
  have afterAuthn := drop_past afterAuthnSize
  have afterType := drop_past afterAuthn
  rw [LittleEndian.length_encode] at afterType
  have afterCertSize := drop_past afterType
  rw [LittleEndian.length_encode] at afterCertSize
  have sizeMatches : (sizeofIntelEcdsaP256QuoteSignature + 2 + quote.qeAuthnData.length + 2 + 4 +
      quote.certData.qeCertData.length) % 256 ^ 4 =
      (ByteContainerReader.mk packed (0 + sizeofIntelQeQuoteHeader + sizeofReportBody + 4)).bytesRemaining := by
    simp only [bytesRemaining, total]
    rw [Nat.mod_eq_of_lt (by simpa using sectionFits)]
    simp only [sizeofIntelQeQuoteHeader, sizeofReportBody, sizeofIntelEcdsaP256QuoteSignature]
    omega
  unfold parseDcapPackedQuote
  dsimp only
  rw [readRaw_of_drop layout quote.header.2]
  simp only [bind, Except.bind]
  rw [readRaw_of_drop afterHeader quote.body.2]
  dsimp only
  rw [readInteger_of_drop afterBody]
  dsimp only
  rw [if_neg (not_not.mpr sizeMatches)]
  rw [readRaw_of_drop afterSize (IntelEcdsaP256QuoteSignature.length_toBytes quote.signature)]
  dsimp only
  rw [readInteger_of_drop afterSignature, Nat.mod_eq_of_lt (by simpa using authnFits)]
  dsimp only
  rw [readMultiple_of_drop afterAuthnSize]
  dsimp only
  rw [readInteger_of_drop afterAuthn]
  dsimp only
  rw [readInteger_of_drop afterType, Nat.mod_eq_of_lt (by simpa using certFits)]
  dsimp only
  have lastField : packed.drop (0 + sizeofIntelQeQuoteHeader + sizeofReportBody + 4 +
      sizeofIntelEcdsaP256QuoteSignature + 2 + quote.qeAuthnData.length + 2 + 4) =
      quote.certData.qeCertData ++ [] := by
    rw [afterCertSize, List.append_nil]
  have nothingLeft : (ByteContainerReader.mk packed (0 + sizeofIntelQeQuoteHeader + sizeofReportBody + 4 +
      sizeofIntelEcdsaP256QuoteSignature + 2 + quote.qeAuthnData.length + 2 + 4 +
      quote.certData.qeCertData.length)).bytesRemaining = 0 := by
    simp only [bytesRemaining, total]
    omega
  rw [readMultiple_of_drop lastField]
  dsimp only
  rw [if_neg (not_not.mpr nothingLeft),
    Nat.mod_eq_of_lt (by simpa using quote.certData.qeCertDataType.toNat_lt)]
  simp [IntelEcdsaP256QuoteSignature.ofBytes_toBytes, pure, Except.pure]

/-- What `ParseDcapPackedQuote` accepts is the packing of the quote it
returns, and that quote fits its length words. -/
theorem packDcapQuote_of_parse {packedQuote : List UInt8} {quote : IntelQeQuote}
    (parsed : parseDcapPackedQuote packedQuote = .ok quote) :
    quote.Packable ∧ packDcapQuote quote = packedQuote := by
  unfold parseDcapPackedQuote at parsed
  dsimp only at parsed
  -- one read after another, each leaving the reader past what it read
  obtain ⟨⟨header, r1⟩, read, parsed⟩ := Except.bind_eq_ok.mp parsed
  obtain ⟨atHeader, rfl⟩ := readRaw_eq_ok read
  dsimp only at parsed
  obtain ⟨⟨body, r2⟩, read, parsed⟩ := Except.bind_eq_ok.mp parsed
  obtain ⟨atBody, rfl⟩ := readRaw_eq_ok read
  dsimp only at parsed
  obtain ⟨⟨signatureSize, r3⟩, read, parsed⟩ := Except.bind_eq_ok.mp parsed
  obtain ⟨atSize, rfl, sizeBound⟩ := readInteger_eq_ok read
  dsimp only at parsed
  split_ifs at parsed with sizeMatches
  · exact nomatch parsed
  obtain ⟨⟨signature, r4⟩, read, parsed⟩ := Except.bind_eq_ok.mp parsed
  obtain ⟨atSignature, rfl⟩ := readRaw_eq_ok read
  dsimp only at parsed
  obtain ⟨⟨authnDataSize, r5⟩, read, parsed⟩ := Except.bind_eq_ok.mp parsed
  obtain ⟨atAuthnSize, rfl, authnBound⟩ := readInteger_eq_ok read
  dsimp only at parsed
  obtain ⟨⟨qeAuthnData, r6⟩, read, parsed⟩ := Except.bind_eq_ok.mp parsed
  obtain ⟨atAuthn, authnLength, rfl⟩ := readMultiple_eq_ok read
  dsimp only at parsed
  obtain ⟨⟨qeCertDataType, r7⟩, read, parsed⟩ := Except.bind_eq_ok.mp parsed
  obtain ⟨atType, rfl, typeBound⟩ := readInteger_eq_ok read
  dsimp only at parsed
  obtain ⟨⟨certDataSize, r8⟩, read, parsed⟩ := Except.bind_eq_ok.mp parsed
  obtain ⟨atCertSize, rfl, certBound⟩ := readInteger_eq_ok read
  dsimp only at parsed
  obtain ⟨⟨qeCertData, r9⟩, read, parsed⟩ := Except.bind_eq_ok.mp parsed
  obtain ⟨atCert, certLength, rfl⟩ := readMultiple_eq_ok read
  dsimp only at parsed
  split_ifs at parsed with nothingLeft
  · exact nomatch parsed
  obtain rfl := (Except.ok.inj parsed).symm
  -- the packed quote is its fields, one after another, and nothing more
  have layout : packedQuote = header.1 ++ body.1 ++ LittleEndian.encode 4 signatureSize ++ signature.1 ++
      LittleEndian.encode 2 authnDataSize ++ qeAuthnData ++ LittleEndian.encode 2 qeCertDataType ++
      LittleEndian.encode 4 certDataSize ++ qeCertData := by
    show packedQuote.drop 0 = _
    rw [atHeader, atBody, atSize, atSignature, atAuthnSize, atAuthn, atType,
      atCertSize, atCert, drop_eq_nil_of_bytesRemaining (not_not.mp nothingLeft)]
    simp only [List.append_assoc, List.append_nil]
  have total := congrArg List.length layout
  simp only [List.length_append, LittleEndian.length_encode, header.2, body.2, signature.2, authnLength,
    certLength] at total
  have sizeIs : signatureSize = sizeofIntelEcdsaP256QuoteSignature + 2 + authnDataSize + 2 + 4 + certDataSize := by
    simp only [not_not, bytesRemaining] at sizeMatches
    simp only [sizeofIntelQeQuoteHeader, sizeofReportBody, sizeofIntelEcdsaP256QuoteSignature] at total sizeMatches ⊢
    omega
  have typeBytes : (qeCertDataType.toUInt16).toNat = qeCertDataType := by
    rw [Nat.toUInt16_eq]
    exact UInt16.toNat_ofNat_of_lt' typeBound
  refine ⟨⟨by simpa [authnLength] using authnBound, by simpa [authnLength, certLength, ← sizeIs] using sizeBound⟩, ?_⟩
  simp only [packDcapQuote, authnLength, certLength, Nat.mod_eq_of_lt (show authnDataSize < 2 ^ 16 by simpa using authnBound),
    Nat.mod_eq_of_lt (show certDataSize < 2 ^ 32 by simpa using certBound), ← sizeIs,
    Nat.mod_eq_of_lt (show signatureSize < 2 ^ 32 by simpa using sizeBound),
    IntelEcdsaP256QuoteSignature.toBytes_ofBytes, typeBytes]
  exact layout.symm
/-- `PackDcapQuote` and `ParseDcapPackedQuote` are inverse: a quote that fits
its length words reads back from its packing, and a byte string that parses
is the packing of what it parses to. -/
theorem dcap_packing_round_trip :
    (∀ quote : IntelQeQuote, quote.Packable → parseDcapPackedQuote (packDcapQuote quote) = .ok quote) ∧
      ∀ (packedQuote : List UInt8) (quote : IntelQeQuote),
        parseDcapPackedQuote packedQuote = .ok quote → packDcapQuote quote = packedQuote :=
  ⟨parseDcapPackedQuote_packDcapQuote, fun _ _ parsed => (packDcapQuote_of_parse parsed).2⟩

/-- A quote of zero bytes but for two bytes of authentication data and one of
certification data. -/
def smallQuote : IntelQeQuote :=
  ⟨⟨List.replicate 48 0, List.length_replicate⟩, ⟨List.replicate 384 0, List.length_replicate⟩,
    ⟨⟨List.replicate 64 0, List.length_replicate⟩, ⟨List.replicate 64 0, List.length_replicate⟩,
      ⟨List.replicate 384 0, List.length_replicate⟩, ⟨List.replicate 64 0, List.length_replicate⟩⟩,
    [1, 2], ⟨5, [3]⟩⟩

theorem dcap_packing_round_trip_of_small :
    smallQuote.Packable ∧ parseDcapPackedQuote (packDcapQuote smallQuote) = .ok smallQuote := by
  have packable : smallQuote.Packable := by
    unfold IntelQeQuote.Packable
    decide
  exact ⟨packable, dcap_packing_round_trip.1 smallQuote packable⟩

end RoundTrip

end Asylo.IntelEcdsaQuote
