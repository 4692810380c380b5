import Asylo.LocalSecretSealer
import Asylo.ExceptLemmas

/-! What local sealing guarantees. `Unseal` gives back what `Seal` sealed:
both parse the same parameters from the header, derive the same key, and bind
the same associated data, the serialized header and the additional
authenticated data as `SerializeByteContainers` lays them out. A sealed secret
changed in its header, its additional authenticated data, its IV or its
ciphertext, but not in both of the last two, no longer opens, as long as every
view fits the 32-bit sizes of that layout.

Neither `Seal` nor `Unseal` checks the status of `SerializeByteContainers`: an
additional authenticated data of `2^32` bytes or more fails the call after the
header is written, so none of it is bound, and any other such data opens the
secret as well. -/
namespace Asylo.Sealing

variable {EnclaveIdentityExpectation : Type} (platform : SealerPlatform EnclaveIdentityExpectation)

/-! ## The key -/

/-- A key that the loop makes has the `remaining` bytes it was asked for. -/
theorem generateCryptorKeyLoop_length {aeadScheme : AeadScheme} {keyId : String} {keySize : Nat}
    {request : Keyrequest} :
    ∀ (fuel remaining keySubscript : Nat) {key : List UInt8}, remaining ≤ fuel →
      generateCryptorKeyLoop platform aeadScheme keyId keySize request fuel remaining keySubscript = .ok key →
      key.length = remaining
  | 0, remaining, _, key, bound, made => by
    have none : remaining = 0 := by omega
    subst none
    simp only [generateCryptorKeyLoop, Except.ok.injEq] at made
    rw [← made]
    rfl
  | fuel + 1, remaining, keySubscript, key, bound, made => by
    unfold generateCryptorKeyLoop at made
    by_cases done : remaining = 0
    · rw [if_pos done, Except.ok.injEq] at made
      rw [← made, done]
      rfl
    rw [if_neg done] at made
    -- one round: the serialized key info, a hardware key, and the rest of the key
    split at made
    · cases made
    split at made
    · cases made
    rename_i hardwareKey _
    obtain ⟨rest, restMade, rfl⟩ := Except.map_eq_ok.mp made
    have restLength := generateCryptorKeyLoop_length fuel _ _ (by simp only [kHardwareKeySize]; omega) restMade
    have hardwareLength := hardwareKey.2
    simp only [kHardwareKeySize] at hardwareLength restLength ⊢
    simp only [List.length_append, List.length_take, hardwareLength, restLength]
    omega

theorem generateCryptorKey_length {aeadScheme : AeadScheme} {keyId : String} {sgxExpectation : SgxIdentityExpectation}
    {keySize : Nat} {uninitialized : UnsafeBytes kCpusvnSize} {key : List UInt8}
    (made : generateCryptorKey platform aeadScheme keyId sgxExpectation keySize uninitialized = .ok key) :
    key.length = keySize :=
  generateCryptorKeyLoop_length platform keySize keySize 0 (Nat.le_refl _) made

/-- The CPUSVN of the expectation, which `GenerateCryptorKey` copies into the
KEYREQUEST. -/
def expectedCpusvn (sgxExpectation : SgxIdentityExpectation) : List UInt8 :=
  sgxExpectation.referenceIdentity.machineConfiguration.cpuSvn.getD []

/-- A CPUSVN of `kCpusvnSize` bytes or more covers the uninitialized storage:
the KEYREQUEST does not depend on it. -/
theorem sealKeyrequest_of_covered {sgxExpectation : SgxIdentityExpectation}
    (covered : kCpusvnSize ≤ (expectedCpusvn sgxExpectation).length) (uninitialized uninitialized' : UnsafeBytes kCpusvnSize) :
    sealKeyrequest sgxExpectation uninitialized = sealKeyrequest sgxExpectation uninitialized' := by
  have whole : ∀ storage : UnsafeBytes kCpusvnSize,
      (storage.replace 0 (expectedCpusvn sgxExpectation)).1.1 = (expectedCpusvn sgxExpectation).take kCpusvnSize := by
    intro storage
    have length := storage.2
    unfold UnsafeBytes.replace
    rw [if_neg (by simp [kCpusvnSize])]
    simp only [List.take_zero, List.nil_append, Nat.sub_zero, Nat.zero_add, Nat.min_eq_left covered]
    rw [List.drop_of_length_le (by omega), List.append_nil]
  simp only [sealKeyrequest, Keyrequest.mk.injEq, true_and, and_true]
  exact Subtype.ext ((whole uninitialized).trans (whole uninitialized').symm)

/-- Without a CPUSVN in the expectation, the KEYREQUEST carries the
uninitialized storage as its CPUSVN. -/
theorem sealKeyrequest_cpusvn_of_none {sgxExpectation : SgxIdentityExpectation}
    (absent : sgxExpectation.referenceIdentity.machineConfiguration.cpuSvn = none)
    (uninitialized : UnsafeBytes kCpusvnSize) :
    (sealKeyrequest sgxExpectation uninitialized).cpusvn = uninitialized := by
  apply Subtype.ext
  simp [sealKeyrequest, absent, UnsafeBytes.replace, kCpusvnSize]

/-! ## The helpers -/

theorem getAeadSchemeFromSealedSecretHeader_eq_ok {header : SealedSecretHeader EnclaveIdentityExpectation}
    {aeadScheme : AeadScheme} (got : getAeadSchemeFromSealedSecretHeader header = .ok aeadScheme) :
    aeadScheme = .AES256_GCM_SIV := by
  unfold getAeadSchemeFromSealedSecretHeader at got
  by_cases supported : header.rootInfo.aeadScheme = .AES256_GCM_SIV
  · rw [if_neg (not_not.mpr supported), Except.ok.injEq] at got
    rw [← got, supported]
  · rw [if_pos supported] at got
    cases got

/-- Parameters that a header passes name AES-256-GCM-SIV. -/
theorem parseKeyGenerationParams_scheme {header : SealedSecretHeader EnclaveIdentityExpectation}
    {aeadScheme : AeadScheme} {sgxExpectation : SgxIdentityExpectation}
    (parsed : parseKeyGenerationParamsFromSealedSecretHeader platform header = .ok (aeadScheme, sgxExpectation)) :
    aeadScheme = .AES256_GCM_SIV := by
  unfold parseKeyGenerationParamsFromSealedSecretHeader at parsed
  split_ifs at parsed
  split at parsed
  · obtain ⟨_, -, rest⟩ := Except.bind_eq_ok.mp parsed
    obtain ⟨scheme, got, matched⟩ := Except.bind_eq_ok.mp rest
    -- only a successful match of the enclave's own identity returns the scheme
    split at matched
    · cases matched
    · cases matched
    · cases matched
      exact getAeadSchemeFromSealedSecretHeader_eq_ok got
  · cases parsed

theorem makeCryptor_of_length {key : List UInt8} (sized : key.length = kAes256GcmSivKeySize) :
    makeCryptor .AES256_GCM_SIV key = .ok ⟨key⟩ := by
  have accepted : key.length = 16 ∨ key.length = 32 := .inr sized
  simp only [makeCryptor, if_pos accepted]

theorem AeadCryptor.seal_of_le (cryptor : AeadCryptor) (aead : Aead) {plaintext : List UInt8}
    (associatedData : List UInt8) (nonce : UnsafeBytes kAesGcmNonceSize) (ciphertext : List UInt8)
    (small : plaintext.length ≤ kAesGcmSivMaxMessageSize) :
    cryptor.seal aead plaintext associatedData nonce ciphertext =
      (.ok (nonce.1, ciphertext), aead.encrypt cryptor.key nonce.1 associatedData ciphertext plaintext) := by
  simp only [AeadCryptor.seal, if_neg (Nat.not_lt.mpr small)]

/-- What opens under a cryptor was sealed under its key. -/
theorem AeadCryptor.decrypt_of_open {cryptor : AeadCryptor} {aead : Aead}
    {ciphertext associatedData nonce opened : List UInt8}
    (opens : cryptor.open aead ciphertext associatedData nonce = .ok opened) :
    aead.decrypt cryptor.key nonce associatedData ciphertext = some opened := by
  unfold AeadCryptor.open at opens
  split_ifs at opens
  split at opens
  · rename_i found
    cases opens
    exact found
  · cases opens

/-! ## `Seal` and `Unseal` -/

section Sealer

variable {header : SealedSecretHeader EnclaveIdentityExpectation} {additionalAuthenticatedData secret : List UInt8}
  {uninitialized : UnsafeBytes kCpusvnSize} {aead : Aead} {nonce : UnsafeBytes kAesGcmNonceSize}
  {ciphertext : List UInt8}

/-- `Seal` once its parameters, the serialized header and the key are made. -/
theorem seal_of_params {aeadScheme : AeadScheme} {sgxExpectation : SgxIdentityExpectation}
    {headerBytes key : List UInt8}
    (parsed : parseKeyGenerationParamsFromSealedSecretHeader platform header = .ok (aeadScheme, sgxExpectation))
    (serialized : platform.headerCodec.serializeToString header = some headerBytes)
    (keyed : generateCryptorKey platform aeadScheme "default_key_id" sgxExpectation kAes256GcmSivKeySize
      uninitialized = .ok key)
    (small : secret.length ≤ kAesGcmSivMaxMessageSize) :
    SgxLocalSecretSealer.seal platform header additionalAuthenticatedData secret uninitialized aead nonce ciphertext =
      (.ok ⟨nonce.1, headerBytes, additionalAuthenticatedData, ciphertext⟩,
        aead.encrypt key nonce.1 (serializeByteContainers [headerBytes, additionalAuthenticatedData]).2 ciphertext
          secret) := by
  have scheme := parseKeyGenerationParams_scheme platform parsed
  subst scheme
  simp only [SgxLocalSecretSealer.seal, parsed, serialized, keyed,
    makeCryptor_of_length (generateCryptorKey_length platform keyed), internalSeal,
    AeadCryptor.seal_of_le _ _ _ _ _ small]

/-- A `Seal` that succeeds made its parameters, the serialized header and the
key, and sealed a secret within the size limit. -/
theorem seal_eq_ok {sealedSecret : SealedSecret} {aead' : Aead}
    (sealed : SgxLocalSecretSealer.seal platform header additionalAuthenticatedData secret uninitialized aead nonce
      ciphertext = (.ok sealedSecret, aead')) :
    ∃ aeadScheme sgxExpectation headerBytes key,
      parseKeyGenerationParamsFromSealedSecretHeader platform header = .ok (aeadScheme, sgxExpectation) ∧
      platform.headerCodec.serializeToString header = some headerBytes ∧
      generateCryptorKey platform aeadScheme "default_key_id" sgxExpectation kAes256GcmSivKeySize uninitialized =
        .ok key ∧
      sealedSecret = ⟨nonce.1, headerBytes, additionalAuthenticatedData, ciphertext⟩ ∧
      aead' = aead.encrypt key nonce.1 (serializeByteContainers [headerBytes, additionalAuthenticatedData]).2
        ciphertext secret := by
  -- each step that fails makes `Seal` fail
  cases parsed : parseKeyGenerationParamsFromSealedSecretHeader platform header with
  | error status => simp [SgxLocalSecretSealer.seal, parsed] at sealed
  | ok params =>
    obtain ⟨aeadScheme, sgxExpectation⟩ := params
    cases serialized : platform.headerCodec.serializeToString header with
    | none => simp [SgxLocalSecretSealer.seal, parsed, serialized] at sealed
    | some headerBytes =>
      cases keyed : generateCryptorKey platform aeadScheme "default_key_id" sgxExpectation kAes256GcmSivKeySize
          uninitialized with
      | error status => simp [SgxLocalSecretSealer.seal, parsed, serialized, keyed] at sealed
      | ok key =>
        by_cases small : secret.length ≤ kAesGcmSivMaxMessageSize
        · rw [seal_of_params platform parsed serialized keyed small, Prod.mk.injEq, Except.ok.injEq] at sealed
          exact ⟨aeadScheme, sgxExpectation, headerBytes, key, rfl, rfl, keyed, sealed.1.symm, sealed.2.symm⟩
        · have scheme := parseKeyGenerationParams_scheme platform parsed
          subst scheme
          simp [SgxLocalSecretSealer.seal, parsed, serialized, keyed,
            makeCryptor_of_length (generateCryptorKey_length platform keyed), internalSeal, AeadCryptor.seal,
            Nat.lt_of_not_le small] at sealed

/-- `Unseal` once the header parses, its parameters are made and the key is
made: the open under the key and the sealed secret's associated data. -/
theorem unseal_of_params {sealedSecret : SealedSecret} {aeadScheme : AeadScheme}
    {sgxExpectation : SgxIdentityExpectation} {key : List UInt8}
    (parsedHeader : platform.headerCodec.parseFromArray sealedSecret.sealedSecretHeader = some header)
    (parsed : parseKeyGenerationParamsFromSealedSecretHeader platform header = .ok (aeadScheme, sgxExpectation))
    (keyed : generateCryptorKey platform aeadScheme "default_key_id" sgxExpectation kAes256GcmSivKeySize
      uninitialized = .ok key) :
    SgxLocalSecretSealer.unseal platform sealedSecret uninitialized aead =
      (⟨key⟩ : AeadCryptor).open aead sealedSecret.secretCiphertext
        (serializeByteContainers [sealedSecret.sealedSecretHeader, sealedSecret.additionalAuthenticatedData]).2
        sealedSecret.iv := by
  have scheme := parseKeyGenerationParams_scheme platform parsed
  subst scheme
  simp only [SgxLocalSecretSealer.unseal, parsedHeader, parsed, keyed, bind, Except.bind,
    makeCryptor_of_length (generateCryptorKey_length platform keyed), internalOpen]

/-- An `Unseal` that succeeds opened a sealing under the key its header
derives, with the associated data its header and additional authenticated data
serialize to. -/
theorem unseal_eq_ok {sealedSecret : SealedSecret} {opened : List UInt8}
    (unsealed : SgxLocalSecretSealer.unseal platform sealedSecret uninitialized aead = .ok opened) :
    ∃ key, aead.decrypt key sealedSecret.iv
      (serializeByteContainers [sealedSecret.sealedSecretHeader, sealedSecret.additionalAuthenticatedData]).2
      sealedSecret.secretCiphertext = some opened := by
  cases parsedHeader : platform.headerCodec.parseFromArray sealedSecret.sealedSecretHeader with
  | none => simp [SgxLocalSecretSealer.unseal, parsedHeader] at unsealed
  | some header =>
    cases parsed : parseKeyGenerationParamsFromSealedSecretHeader platform header with
    | error status => simp [SgxLocalSecretSealer.unseal, parsedHeader, parsed, bind, Except.bind] at unsealed
    | ok params =>
      obtain ⟨aeadScheme, sgxExpectation⟩ := params
      cases keyed : generateCryptorKey platform aeadScheme "default_key_id" sgxExpectation kAes256GcmSivKeySize
          uninitialized with
      | error status =>
        simp [SgxLocalSecretSealer.unseal, parsedHeader, parsed, keyed, bind, Except.bind] at unsealed
      | ok key =>
        rw [unseal_of_params platform parsedHeader parsed keyed] at unsealed
        exact ⟨key, AeadCryptor.decrypt_of_open unsealed⟩

/-- A sealed secret with the header, IV and ciphertext that `Seal` wrote, whose
header and additional authenticated data serialize as the sealed ones do,
unseals to the secret. -/
theorem unseal_of_same_binding (fresh : nonce.1 ∉ aead.sealings.map (·.nonce)) {sealedSecret : SealedSecret}
    {aead' : Aead}
    (sealed : SgxLocalSecretSealer.seal platform header additionalAuthenticatedData secret uninitialized aead nonce
      ciphertext = (.ok sealedSecret, aead'))
    {other : SealedSecret} (sameHeader : other.sealedSecretHeader = sealedSecret.sealedSecretHeader)
    (sameIv : other.iv = sealedSecret.iv) (sameCiphertext : other.secretCiphertext = sealedSecret.secretCiphertext)
    (bound : (serializeByteContainers [other.sealedSecretHeader, other.additionalAuthenticatedData]).2 =
      (serializeByteContainers [sealedSecret.sealedSecretHeader, sealedSecret.additionalAuthenticatedData]).2) :
    SgxLocalSecretSealer.unseal platform other uninitialized aead' = .ok secret := by
  obtain ⟨aeadScheme, sgxExpectation, headerBytes, key, parsed, serialized, keyed, rfl, rfl⟩ :=
    seal_eq_ok platform sealed
  have parsedHeader : platform.headerCodec.parseFromArray other.sealedSecretHeader = some header := by
    rw [sameHeader]
    exact platform.headerCodec.parse_serialize _ _ serialized
  have nonceLength : other.iv.length = kAesGcmNonceSize := by
    rw [sameIv]
    exact nonce.2
  rw [unseal_of_params platform parsedHeader parsed keyed, AeadCryptor.open, if_neg (not_not.mpr nonceLength),
    bound, sameIv, sameCiphertext, IdealAead.State.decrypt_encrypt_self fresh]

/-- `Unseal` gives back what `Seal` sealed. -/
theorem unseal_seal (fresh : nonce.1 ∉ aead.sealings.map (·.nonce)) {sealedSecret : SealedSecret} {aead' : Aead}
    (sealed : SgxLocalSecretSealer.seal platform header additionalAuthenticatedData secret uninitialized aead nonce
      ciphertext = (.ok sealedSecret, aead')) :
    SgxLocalSecretSealer.unseal platform sealedSecret uninitialized aead' = .ok secret :=
  unseal_of_same_binding platform fresh sealed rfl rfl rfl rfl

/-- A sealed secret changed in its header, its additional authenticated data,
its IV or its ciphertext, but keeping its IV or its ciphertext, does not
unseal, whatever the uninitialized storage of `Unseal` holds, when both
sealed secrets' headers and additional authenticated data fit 32-bit sizes. -/
theorem unseal_tampered (fresh : aead.Fresh nonce.1 ciphertext) {sealedSecret : SealedSecret} {aead' : Aead}
    (sealed : SgxLocalSecretSealer.seal platform header additionalAuthenticatedData secret uninitialized aead nonce
      ciphertext = (.ok sealedSecret, aead'))
    {tampered : SealedSecret}
    (fits : sealedSecret.sealedSecretHeader.length < 2 ^ 32 ∧ sealedSecret.additionalAuthenticatedData.length < 2 ^ 32)
    (fits' : tampered.sealedSecretHeader.length < 2 ^ 32 ∧ tampered.additionalAuthenticatedData.length < 2 ^ 32)
    (changed : tampered ≠ sealedSecret)
    (shared : tampered.iv = sealedSecret.iv ∨ tampered.secretCiphertext = sealedSecret.secretCiphertext)
    (uninitialized' : UnsafeBytes kCpusvnSize) (opened : List UInt8) :
    SgxLocalSecretSealer.unseal platform tampered uninitialized' aead' ≠ .ok opened := by
  intro unsealed
  obtain ⟨key', decrypted⟩ := unseal_eq_ok platform unsealed
  obtain ⟨_, _, headerBytes, key, -, -, -, rfl, rfl⟩ := seal_eq_ok platform sealed
  -- the tampered secret opens with something other than the one sealing made
  have differs : (key', tampered.iv,
      (serializeByteContainers [tampered.sealedSecretHeader, tampered.additionalAuthenticatedData]).2,
      tampered.secretCiphertext) ≠
      (key, nonce.1, (serializeByteContainers [headerBytes, additionalAuthenticatedData]).2, ciphertext) := by
    intro same
    simp only [Prod.mk.injEq] at same
    obtain ⟨-, sameIv, bound, sameCiphertext⟩ := same
    have views := serializeByteContainers_injective (by simpa using fits') (by simpa using fits) bound
    simp only [List.cons.injEq, and_true] at views
    exact changed (by cases tampered; simp_all)
  rw [IdealAead.State.decrypt_encrypt_of_shared fresh differs shared] at decrypted
  cases decrypted

/-- Neither `Seal` nor `Unseal` checks the status of `SerializeByteContainers`,
which writes nothing for additional authenticated data of `2^32` bytes or
more: such data is not bound to the sealed secret, and any other data that
large unseals it too. -/
theorem unseal_accepts_any_large_aad (fresh : nonce.1 ∉ aead.sealings.map (·.nonce)) {sealedSecret : SealedSecret}
    {aead' : Aead}
    (sealed : SgxLocalSecretSealer.seal platform header additionalAuthenticatedData secret uninitialized aead nonce
      ciphertext = (.ok sealedSecret, aead'))
    (large : 2 ^ 32 ≤ additionalAuthenticatedData.length) {other : List UInt8} (large' : 2 ^ 32 ≤ other.length) :
    SgxLocalSecretSealer.unseal platform { sealedSecret with additionalAuthenticatedData := other } uninitialized
      aead' = .ok secret := by
  obtain ⟨_, _, headerBytes, _, -, -, -, rfl, -⟩ := seal_eq_ok platform sealed
  exact unseal_of_same_binding platform fresh sealed rfl rfl rfl
    (serializeByteContainers_pair_of_le headerBytes large' large)

end Sealer

/-- A header for the local SGX root with an ACL of one expectation. -/
def localHeader : SealedSecretHeader Unit :=
  ⟨⟨.LOCAL, kSgxLocalSecretSealerRootName, .AES256_GCM_SIV⟩, .expectation ()⟩

/-- A codec that serializes `localHeader`, and only it, to no bytes. -/
def localHeaderCodec : ProtoCodec (SealedSecretHeader Unit) where
  serializeToString header :=
    match header.clientAcl with
    | .expectation () => if header.rootInfo = localHeader.rootInfo then some [] else none
    | _ => none
  parseFromArray _ := some localHeader
  parse_serialize := by
    rintro ⟨rootInfo, _ | _ | _⟩ bytes serialized
    · cases serialized
    · simp only at serialized
      split_ifs at serialized with same
      rw [same]
      rfl
    · cases serialized

/-- An expectation of an enclave with a full CPUSVN. -/
def localExpectation : SgxIdentityExpectation :=
  ⟨⟨⟨[], ⟨[], 0, 0⟩, 0, ⟨0, 0⟩⟩, ⟨some (List.replicate kCpusvnSize 0), none⟩⟩, ⟨⟨true, true, ⟨0, 0⟩, 0⟩⟩⟩

theorem length_zeroKeyid : (List.replicate kKeyrequestKeyidSize (0 : UInt8)).length = kKeyrequestKeyidSize :=
  List.length_replicate

/-- A platform whose enclave matches `localExpectation` and whose hardware key
is the KEYREQUEST's CPUSVN. -/
def localPlatform : SealerPlatform Unit where
  headerCodec := localHeaderCodec
  parseSgxExpectation _ := .ok localExpectation
  matchSelfIdentity _ := (.ok true, "")
  getKey request := .ok request.cpusvn
  sha256 _ := ⟨List.replicate kKeyrequestKeyidSize 0, length_zeroKeyid⟩

def zeroCpusvn : UnsafeBytes kCpusvnSize := ⟨List.replicate kCpusvnSize 0, List.length_replicate⟩

def zeroNonce : UnsafeBytes kAesGcmNonceSize := ⟨List.replicate kAesGcmNonceSize 0, List.length_replicate⟩

theorem unseal_accepts_any_large_aad_at_local_header :
    SgxLocalSecretSealer.seal localPlatform localHeader (List.replicate (2 ^ 32) 0) [42] zeroCpusvn .empty zeroNonce
        [] =
      (.ok ⟨zeroNonce.1, [], List.replicate (2 ^ 32) 0, []⟩,
        IdealAead.State.empty.encrypt (List.replicate 32 0) zeroNonce.1
          (serializeByteContainers [[], List.replicate (2 ^ 32) 0]).2 [] [42]) ∧
    List.replicate (2 ^ 32) (1 : UInt8) ≠ List.replicate (2 ^ 32) 0 ∧
    SgxLocalSecretSealer.unseal localPlatform ⟨zeroNonce.1, [], List.replicate (2 ^ 32) 1, []⟩ zeroCpusvn
      (IdealAead.State.empty.encrypt (List.replicate 32 0) zeroNonce.1
        (serializeByteContainers [[], List.replicate (2 ^ 32) 0]).2 [] [42]) = .ok [42] := by
  have parsed : parseKeyGenerationParamsFromSealedSecretHeader localPlatform localHeader =
      .ok (.AES256_GCM_SIV, localExpectation) := rfl
  have keyed : generateCryptorKey localPlatform .AES256_GCM_SIV "default_key_id" localExpectation
      kAes256GcmSivKeySize zeroCpusvn = .ok (List.replicate 32 0) := rfl
  have sealed : SgxLocalSecretSealer.seal localPlatform localHeader (List.replicate (2 ^ 32) 0) [42] zeroCpusvn
      .empty zeroNonce [] =
      (.ok ⟨zeroNonce.1, [], List.replicate (2 ^ 32) 0, []⟩,
        IdealAead.State.empty.encrypt (List.replicate 32 0) zeroNonce.1
          (serializeByteContainers [[], List.replicate (2 ^ 32) 0]).2 [] [42]) :=
    seal_of_params localPlatform parsed rfl keyed (by decide)
  have fresh : zeroNonce.1 ∉ (IdealAead.State.empty : Aead).sealings.map (·.nonce) := by
    simp only [IdealAead.State.empty, List.map_nil, List.not_mem_nil, not_false_eq_true]
  -- the data differ in their first byte; nothing here may evaluate the lists
  have differs : List.replicate (2 ^ 32) (1 : UInt8) ≠ List.replicate (2 ^ 32) 0 := by
    intro same
    have heads := congrArg List.head? same
    rw [List.head?_replicate, List.head?_replicate] at heads
    simp at heads
  exact ⟨sealed, differs, unseal_accepts_any_large_aad localPlatform fresh sealed
    (Nat.le_of_eq List.length_replicate.symm) (Nat.le_of_eq List.length_replicate.symm)⟩

end Asylo.Sealing
