import Asylo.SgxIdentityMatch

/-! What `MatchIdentityToExpectation` decides, and three laws of it.

`CodeIdentityMatches` and `MachineConfigurationMatches` say what a match is:
each field the spec asks for equal, the ISVPRODID equal, the ISVSVN at least
the expected one, and MISCSELECT and ATTRIBUTES equal under the masks. The
match returns true, with an empty explanation, exactly when the expectation,
the identity and their compatibility are valid and both relations hold
(`matchIdentityToExpectation_eq_ok_true_iff`).

Over these relations the laws are short: an identity matches itself; raising
the ISVSVN keeps a match; and a weaker spec (`SgxIdentityMatchSpec.Weakens`:
fewer requirements, masks with fewer bits) keeps one. -/
namespace Asylo.SgxIdentityMatch

open SgxIdentityUtil (SgxType Attributes)
open Provisioning (validateCpuSvn)

/-! ## Masks -/

/-- A mask with fewer bits keeps an equality under a mask with more. -/
theorem land_eq_of_submask {weaker mask a b : Nat} (submask : weaker &&& mask = weaker)
    (equal : mask &&& a = mask &&& b) : weaker &&& a = weaker &&& b :=
  calc weaker &&& a = weaker &&& (mask &&& a) := by rw [← Nat.and_assoc, submask]
    _ = weaker &&& (mask &&& b) := by rw [equal]
    _ = weaker &&& b := by rw [← Nat.and_assoc, submask]

theorem Attributes.and_eq_of_submask {weaker mask a b : Attributes} (submask : weaker.and mask = weaker)
    (equal : mask.and a = mask.and b) : weaker.and a = weaker.and b := by
  obtain ⟨weakerFlags, weakerXfrm⟩ := weaker
  obtain ⟨maskFlags, maskXfrm⟩ := mask
  simp only [SgxIdentityUtil.Attributes.and, SgxIdentityUtil.Attributes.mk.injEq] at submask equal ⊢
  exact ⟨land_eq_of_submask submask.1 equal.1, land_eq_of_submask submask.2 equal.2⟩

/-! ## What the checks decide -/

theorem explanationsOf_eq_nil {checks : List (Bool × String)} :
    explanationsOf checks = [] ↔ ∀ check ∈ checks, check.1 = false := by
  simp [explanationsOf, List.filter_eq_nil_iff]

/-- A code identity matches an expected one under a spec. -/
structure CodeIdentityMatches (identity expected : CodeIdentity) (spec : CodeIdentityMatchSpec) : Prop where
  mrenclave : spec.isMrenclaveMatchRequired.getD false = true →
    identity.mrenclave.getD default = expected.mrenclave.getD default
  mrsigner : spec.isMrsignerMatchRequired.getD false = true →
    (identity.signerAssignedIdentity.getD default).mrsigner.getD default =
      (expected.signerAssignedIdentity.getD default).mrsigner.getD default
  isvprodid : (identity.signerAssignedIdentity.getD default).isvprodid.getD 0 =
    (expected.signerAssignedIdentity.getD default).isvprodid.getD 0
  isvsvn : (expected.signerAssignedIdentity.getD default).isvsvn.getD 0 ≤
    (identity.signerAssignedIdentity.getD default).isvsvn.getD 0
  miscselect : spec.miscselectMatchMask.getD 0 &&& identity.miscselect.getD 0 =
    spec.miscselectMatchMask.getD 0 &&& expected.miscselect.getD 0
  attributes : (spec.attributesMatchMask.getD default).and (identity.attributes.getD default) =
    (spec.attributesMatchMask.getD default).and (expected.attributes.getD default)

/-- A machine configuration matches an expected one under a spec. -/
structure MachineConfigurationMatches (actualConfig expectedConfig : MachineConfiguration)
    (spec : MachineConfigurationMatchSpec) : Prop where
  cpuSvn : spec.isCpuSvnMatchRequired.getD false = true →
    (actualConfig.cpuSvn.getD default).value.getD [] = (expectedConfig.cpuSvn.getD default).value.getD []
  sgxType : spec.isSgxTypeMatchRequired.getD false = true →
    actualConfig.sgxType.getD default = expectedConfig.sgxType.getD default

theorem codeIdentityChecks_pass_iff {identity expected : CodeIdentity} {spec : CodeIdentityMatchSpec} :
    (∀ check ∈ codeIdentityChecks identity expected spec, check.1 = false) ↔
      CodeIdentityMatches identity expected spec := by
  -- a check that asks for a field passes when it is not asked for or the field matches
  simp only [codeIdentityChecks, List.forall_mem_cons, List.not_mem_nil, IsEmpty.forall_iff, implies_true,
    and_true, Bool.and_eq_false_iff, bne_eq_false_iff_eq, decide_eq_false_iff_not, Nat.not_lt,
    or_iff_not_imp_left, Bool.not_eq_false]
  constructor
  · rintro ⟨mrenclave, mrsigner, isvprodid, isvsvn, miscselect, attributes⟩
    exact ⟨mrenclave, mrsigner, isvprodid, isvsvn, miscselect, attributes⟩
  · rintro ⟨mrenclave, mrsigner, isvprodid, isvsvn, miscselect, attributes⟩
    exact ⟨mrenclave, mrsigner, isvprodid, isvsvn, miscselect, attributes⟩

theorem machineConfigurationChecks_pass_iff {actualConfig expectedConfig : MachineConfiguration}
    {spec : MachineConfigurationMatchSpec} :
    (∀ check ∈ machineConfigurationChecks actualConfig expectedConfig spec, check.1 = false) ↔
      MachineConfigurationMatches actualConfig expectedConfig spec := by
  simp only [machineConfigurationChecks, List.forall_mem_cons, List.not_mem_nil, IsEmpty.forall_iff,
    implies_true, and_true, Bool.and_eq_false_iff, bne_eq_false_iff_eq, or_iff_not_imp_left, Bool.not_eq_false]
  constructor
  · rintro ⟨cpuSvn, sgxType⟩
    exact ⟨cpuSvn, sgxType⟩
  · rintro ⟨cpuSvn, sgxType⟩
    exact ⟨cpuSvn, sgxType⟩

theorem matchCodeIdentityToExpectation_fst {identity expected : CodeIdentity} {spec : CodeIdentityMatchSpec} :
    (matchCodeIdentityToExpectation identity expected spec).1 = true ↔ CodeIdentityMatches identity expected spec := by
  simp only [matchCodeIdentityToExpectation, List.isEmpty_iff, explanationsOf_eq_nil, codeIdentityChecks_pass_iff]

theorem matchCodeIdentityToExpectation_of_matches {identity expected : CodeIdentity} {spec : CodeIdentityMatchSpec}
    (matched : CodeIdentityMatches identity expected spec) :
    matchCodeIdentityToExpectation identity expected spec = (true, "") := by
  have explained : explanationsOf (codeIdentityChecks identity expected spec) = [] :=
    explanationsOf_eq_nil.mpr (codeIdentityChecks_pass_iff.mpr matched)
  simp [matchCodeIdentityToExpectation, explained]

/-- What `IsValidSgxIdentity` accepts. -/
theorem isValidSgxIdentity_eq_true {identity : SgxIdentity} :
    isValidSgxIdentity identity = true ↔
      (∀ cpuSvn, (identity.machineConfiguration.getD default).cpuSvn = some cpuSvn →
        (validateCpuSvn cpuSvn).isOk = true) ∧
      (∃ signerId, (identity.codeIdentity.getD default).signerAssignedIdentity = some signerId ∧
        isValidSignerAssignedIdentity signerId = true) ∧
      (identity.codeIdentity.getD default).miscselect.isSome = true ∧
      (identity.codeIdentity.getD default).attributes.isSome = true := by
  simp only [isValidSgxIdentity]
  cases (identity.machineConfiguration.getD default).cpuSvn <;>
    cases (identity.codeIdentity.getD default).signerAssignedIdentity <;> simp

/-! ## The whole match -/

theorem isValidExpectation_mk {reference : SgxIdentity} {spec : SgxIdentityMatchSpec} :
    isValidExpectation ⟨some reference, some spec⟩ = true ↔
      spec.isValidMatchSpec = true ∧ isValidSgxIdentity reference = true ∧
        reference.isIdentityCompatibleWithMatchSpec spec = true := by
  simp [isValidExpectation]

/-- A valid, compatible identity whose two parts match returns true with an
empty explanation. -/
theorem matchIdentityToExpectation_of_matches {identity : SgxIdentity} {expectation : SgxIdentityExpectation}
    (valid : isValidExpectation expectation = true) (identityValid : isValidSgxIdentity identity = true)
    (compatible : identity.isIdentityCompatibleWithMatchSpec (expectation.matchSpec.getD default) = true)
    (machineMatched : MachineConfigurationMatches (identity.machineConfiguration.getD default)
      ((expectation.referenceIdentity.getD default).machineConfiguration.getD default)
      ((expectation.matchSpec.getD default).machineConfigurationMatchSpec.getD default))
    (codeMatched : CodeIdentityMatches (identity.codeIdentity.getD default)
      ((expectation.referenceIdentity.getD default).codeIdentity.getD default)
      ((expectation.matchSpec.getD default).codeIdentityMatchSpec.getD default)) :
    matchIdentityToExpectation identity expectation = .ok (true, "") := by
  have explained := explanationsOf_eq_nil.mpr (machineConfigurationChecks_pass_iff.mpr machineMatched)
  simp [matchIdentityToExpectation, valid, identityValid, compatible, explained,
    matchCodeIdentityToExpectation_of_matches codeMatched, withAppendedExplanations]

/-- `MatchIdentityToExpectation` returns true exactly when the expectation and
the identity are valid, the identity is compatible with the spec, and both
parts of the identity match. -/
theorem matchIdentityToExpectation_eq_ok_true_iff {identity : SgxIdentity} {expectation : SgxIdentityExpectation} :
    (∃ explanation, matchIdentityToExpectation identity expectation = .ok (true, explanation)) ↔
      isValidExpectation expectation = true ∧ isValidSgxIdentity identity = true ∧
        identity.isIdentityCompatibleWithMatchSpec (expectation.matchSpec.getD default) = true ∧
        MachineConfigurationMatches (identity.machineConfiguration.getD default)
          ((expectation.referenceIdentity.getD default).machineConfiguration.getD default)
          ((expectation.matchSpec.getD default).machineConfigurationMatchSpec.getD default) ∧
        CodeIdentityMatches (identity.codeIdentity.getD default)
          ((expectation.referenceIdentity.getD default).codeIdentity.getD default)
          ((expectation.matchSpec.getD default).codeIdentityMatchSpec.getD default) := by
  constructor
  · rintro ⟨explanation, matched⟩
    unfold matchIdentityToExpectation at matched
    -- each of the three checks that fail the call returns an error, not a result
    split at matched
    · cases matched
    split at matched
    · cases matched
    split at matched
    · cases matched
    rename_i valid identityValid compatible
    simp only [Except.ok.injEq, Prod.mk.injEq, Bool.and_eq_true, List.isEmpty_iff, explanationsOf_eq_nil,
      machineConfigurationChecks_pass_iff, matchCodeIdentityToExpectation_fst] at matched
    simp only [Bool.not_eq_true', Bool.not_eq_false] at valid identityValid compatible
    exact ⟨valid, identityValid, compatible, matched.1.1, matched.1.2⟩
  · rintro ⟨valid, identityValid, compatible, machineMatched, codeMatched⟩
    exact ⟨"", matchIdentityToExpectation_of_matches valid identityValid compatible machineMatched codeMatched⟩

/-! ## An identity matches itself -/

theorem CodeIdentityMatches.refl (identity : CodeIdentity) (spec : CodeIdentityMatchSpec) :
    CodeIdentityMatches identity identity spec where
  mrenclave _ := rfl
  mrsigner _ := rfl
  isvprodid := rfl
  isvsvn := Nat.le_refl _
  miscselect := rfl
  attributes := rfl

theorem MachineConfigurationMatches.refl (config : MachineConfiguration) (spec : MachineConfigurationMatchSpec) :
    MachineConfigurationMatches config config spec where
  cpuSvn _ := rfl
  sgxType _ := rfl

/-- A valid identity compatible with a valid spec matches the expectation of
itself under that spec. -/
theorem matchIdentityToExpectation_self {reference : SgxIdentity} {spec : SgxIdentityMatchSpec}
    (specValid : spec.isValidMatchSpec = true) (referenceValid : isValidSgxIdentity reference = true)
    (compatible : reference.isIdentityCompatibleWithMatchSpec spec = true) :
    matchIdentityToExpectation reference ⟨some reference, some spec⟩ = .ok (true, "") :=
  matchIdentityToExpectation_of_matches (isValidExpectation_mk.mpr ⟨specValid, referenceValid, compatible⟩)
    referenceValid compatible (MachineConfigurationMatches.refl _ _) (CodeIdentityMatches.refl _ _)

/-! ## Raising the ISVSVN -/

/-- The code identity with its ISVSVN set, as
`mutable_signer_assigned_identity()->set_isvsvn(isvsvn)` sets it. -/
def CodeIdentity.setIsvsvn (identity : CodeIdentity) (isvsvn : Nat) : CodeIdentity :=
  { identity with signerAssignedIdentity := some { identity.signerAssignedIdentity.getD default with isvsvn } }

/-- The identity with its ISVSVN set, as
`mutable_code_identity()->mutable_signer_assigned_identity()->set_isvsvn(isvsvn)`
sets it. -/
def SgxIdentity.setIsvsvn (identity : SgxIdentity) (isvsvn : Nat) : SgxIdentity :=
  { identity with codeIdentity := some ((identity.codeIdentity.getD default).setIsvsvn isvsvn) }

theorem CodeIdentityMatches.setIsvsvn {identity expected : CodeIdentity} {spec : CodeIdentityMatchSpec}
    (matched : CodeIdentityMatches identity expected spec) {isvsvn : Nat}
    (raised : (identity.signerAssignedIdentity.getD default).isvsvn.getD 0 ≤ isvsvn) :
    CodeIdentityMatches (identity.setIsvsvn isvsvn) expected spec where
  mrenclave := matched.mrenclave
  mrsigner := matched.mrsigner
  isvprodid := matched.isvprodid
  isvsvn := Nat.le_trans matched.isvsvn raised
  miscselect := matched.miscselect
  attributes := matched.attributes

theorem isValidSgxIdentity_setIsvsvn {identity : SgxIdentity} (valid : isValidSgxIdentity identity = true)
    (isvsvn : Nat) : isValidSgxIdentity (identity.setIsvsvn isvsvn) = true := by
  obtain ⟨cpuSvnValid, ⟨signerId, signerSome, signerValid⟩, miscselect, attributes⟩ :=
    isValidSgxIdentity_eq_true.mp valid
  refine isValidSgxIdentity_eq_true.mpr
    ⟨cpuSvnValid, ⟨{ signerId with isvsvn := some isvsvn }, ?_, ?_⟩, miscselect, attributes⟩
  · simp [SgxIdentity.setIsvsvn, CodeIdentity.setIsvsvn, signerSome]
  · simp only [isValidSignerAssignedIdentity, Bool.and_eq_true] at signerValid ⊢
    exact ⟨signerValid.1, rfl⟩

theorem isIdentityCompatibleWithMatchSpec_setIsvsvn (identity : SgxIdentity) (isvsvn : Nat)
    (spec : SgxIdentityMatchSpec) :
    (identity.setIsvsvn isvsvn).isIdentityCompatibleWithMatchSpec spec = identity.isIdentityCompatibleWithMatchSpec spec := by
  simp [SgxIdentity.isIdentityCompatibleWithMatchSpec, CodeIdentity.isIdentityCompatibleWithMatchSpec,
    SgxIdentity.setIsvsvn, CodeIdentity.setIsvsvn]

/-- Raising the ISVSVN of an identity that matches keeps the match. -/
theorem matchIdentityToExpectation_setIsvsvn {identity : SgxIdentity} {expectation : SgxIdentityExpectation}
    {explanation : String} (matched : matchIdentityToExpectation identity expectation = .ok (true, explanation))
    {isvsvn : Nat}
    (raised : (((identity.codeIdentity.getD default).signerAssignedIdentity.getD default).isvsvn.getD 0) ≤ isvsvn) :
    ∃ explanation', matchIdentityToExpectation (identity.setIsvsvn isvsvn) expectation = .ok (true, explanation') := by
  obtain ⟨valid, identityValid, compatible, machineMatched, codeMatched⟩ :=
    matchIdentityToExpectation_eq_ok_true_iff.mp ⟨explanation, matched⟩
  refine matchIdentityToExpectation_eq_ok_true_iff.mpr ⟨valid, isValidSgxIdentity_setIsvsvn identityValid isvsvn,
    ?_, machineMatched, codeMatched.setIsvsvn raised⟩
  rw [isIdentityCompatibleWithMatchSpec_setIsvsvn]
  exact compatible

/-! ## Weakening the spec -/

/-- `weaker` asks no more of a code identity than `spec`: it requires a match
only where `spec` does, and its masks keep only bits of `spec`'s. -/
structure CodeIdentityMatchSpec.Weakens (weaker spec : CodeIdentityMatchSpec) : Prop where
  mrenclave : weaker.isMrenclaveMatchRequired.getD false = true → spec.isMrenclaveMatchRequired.getD false = true
  mrsigner : weaker.isMrsignerMatchRequired.getD false = true → spec.isMrsignerMatchRequired.getD false = true
  miscselect : weaker.miscselectMatchMask.getD 0 &&& spec.miscselectMatchMask.getD 0 = weaker.miscselectMatchMask.getD 0
  attributes : (weaker.attributesMatchMask.getD default).and (spec.attributesMatchMask.getD default) =
    weaker.attributesMatchMask.getD default

/-- `weaker` asks no more of a machine configuration than `spec`. -/
structure MachineConfigurationMatchSpec.Weakens (weaker spec : MachineConfigurationMatchSpec) : Prop where
  cpuSvn : weaker.isCpuSvnMatchRequired.getD false = true → spec.isCpuSvnMatchRequired.getD false = true
  sgxType : weaker.isSgxTypeMatchRequired.getD false = true → spec.isSgxTypeMatchRequired.getD false = true

/-- `weaker` is a valid spec that asks no more than `spec`: what clearing bits
of the MISCSELECT or ATTRIBUTES mask of a valid `spec`, and turning off any of
its MRENCLAVE, MRSIGNER, CPUSVN and SGX-type requirements, give. -/
structure SgxIdentityMatchSpec.Weakens (weaker spec : SgxIdentityMatchSpec) : Prop where
  valid : weaker.isValidMatchSpec = true
  codeIdentityMatchSpec : (weaker.codeIdentityMatchSpec.getD default).Weakens (spec.codeIdentityMatchSpec.getD default)
  machineConfigurationMatchSpec :
    (weaker.machineConfigurationMatchSpec.getD default).Weakens (spec.machineConfigurationMatchSpec.getD default)

theorem CodeIdentityMatches.weaken {identity expected : CodeIdentity} {spec weaker : CodeIdentityMatchSpec}
    (matched : CodeIdentityMatches identity expected spec) (weakens : weaker.Weakens spec) :
    CodeIdentityMatches identity expected weaker where
  mrenclave required := matched.mrenclave (weakens.mrenclave required)
  mrsigner required := matched.mrsigner (weakens.mrsigner required)
  isvprodid := matched.isvprodid
  isvsvn := matched.isvsvn
  miscselect := land_eq_of_submask weakens.miscselect matched.miscselect
  attributes := Attributes.and_eq_of_submask weakens.attributes matched.attributes

theorem MachineConfigurationMatches.weaken {actualConfig expectedConfig : MachineConfiguration}
    {spec weaker : MachineConfigurationMatchSpec} (matched : MachineConfigurationMatches actualConfig expectedConfig spec)
    (weakens : weaker.Weakens spec) : MachineConfigurationMatches actualConfig expectedConfig weaker where
  cpuSvn required := matched.cpuSvn (weakens.cpuSvn required)
  sgxType required := matched.sgxType (weakens.sgxType required)

/-- What `IsIdentityCompatibleWithMatchSpec` of a code identity accepts. -/
theorem CodeIdentity.isIdentityCompatibleWithMatchSpec_eq_true {identity : CodeIdentity}
    {spec : CodeIdentityMatchSpec} :
    identity.isIdentityCompatibleWithMatchSpec spec = true ↔
      (spec.isMrenclaveMatchRequired.getD false = true → identity.mrenclave.isSome = true) ∧
      (spec.isMrsignerMatchRequired.getD false = true →
        (identity.signerAssignedIdentity.getD default).mrsigner.isSome = true) := by
  simp only [CodeIdentity.isIdentityCompatibleWithMatchSpec]
  cases spec.isMrenclaveMatchRequired.getD false <;> cases identity.mrenclave.isSome <;>
    cases spec.isMrsignerMatchRequired.getD false <;>
    cases (identity.signerAssignedIdentity.getD default).mrsigner.isSome <;> simp

/-- What `IsIdentityCompatibleWithMatchSpec` of an SGX identity accepts. -/
theorem SgxIdentity.isIdentityCompatibleWithMatchSpec_eq_true {identity : SgxIdentity}
    {spec : SgxIdentityMatchSpec} :
    identity.isIdentityCompatibleWithMatchSpec spec = true ↔
      ((spec.machineConfigurationMatchSpec.getD default).isCpuSvnMatchRequired.getD false = true →
        (identity.machineConfiguration.getD default).cpuSvn.isSome = true) ∧
      ((spec.machineConfigurationMatchSpec.getD default).isSgxTypeMatchRequired.getD false = true →
        (identity.machineConfiguration.getD default).sgxType.isSome = true) ∧
      (identity.codeIdentity.getD default).isIdentityCompatibleWithMatchSpec (spec.codeIdentityMatchSpec.getD default) =
        true := by
  simp only [SgxIdentity.isIdentityCompatibleWithMatchSpec]
  cases (spec.machineConfigurationMatchSpec.getD default).isCpuSvnMatchRequired.getD false <;>
    cases (identity.machineConfiguration.getD default).cpuSvn.isSome <;>
    cases (spec.machineConfigurationMatchSpec.getD default).isSgxTypeMatchRequired.getD false <;>
    cases (identity.machineConfiguration.getD default).sgxType.isSome <;> simp

/-- An identity compatible with a spec is compatible with a weaker one. -/
theorem SgxIdentity.isIdentityCompatibleWithMatchSpec_weaken {identity : SgxIdentity}
    {spec weaker : SgxIdentityMatchSpec} (compatible : identity.isIdentityCompatibleWithMatchSpec spec = true)
    (weakens : weaker.Weakens spec) : identity.isIdentityCompatibleWithMatchSpec weaker = true := by
  obtain ⟨cpuSvn, sgxType, code⟩ := SgxIdentity.isIdentityCompatibleWithMatchSpec_eq_true.mp compatible
  obtain ⟨mrenclave, mrsigner⟩ := CodeIdentity.isIdentityCompatibleWithMatchSpec_eq_true.mp code
  refine SgxIdentity.isIdentityCompatibleWithMatchSpec_eq_true.mpr
    ⟨fun required => cpuSvn (weakens.machineConfigurationMatchSpec.cpuSvn required),
      fun required => sgxType (weakens.machineConfigurationMatchSpec.sgxType required),
      CodeIdentity.isIdentityCompatibleWithMatchSpec_eq_true.mpr ⟨fun required => mrenclave ?_, fun required => mrsigner ?_⟩⟩
  · exact weakens.codeIdentityMatchSpec.mrenclave required
  · exact weakens.codeIdentityMatchSpec.mrsigner required

/-- An identity that matches the expectation of a reference under a spec
matches it under any weaker spec. -/
theorem matchIdentityToExpectation_weaken {identity reference : SgxIdentity} {spec weaker : SgxIdentityMatchSpec}
    {explanation : String}
    (matched : matchIdentityToExpectation identity ⟨some reference, some spec⟩ = .ok (true, explanation))
    (weakens : weaker.Weakens spec) :
    ∃ explanation', matchIdentityToExpectation identity ⟨some reference, some weaker⟩ = .ok (true, explanation') := by
  obtain ⟨valid, identityValid, compatible, machineMatched, codeMatched⟩ :=
    matchIdentityToExpectation_eq_ok_true_iff.mp ⟨explanation, matched⟩
  obtain ⟨-, referenceValid, referenceCompatible⟩ := isValidExpectation_mk.mp valid
  exact matchIdentityToExpectation_eq_ok_true_iff.mpr
    ⟨isValidExpectation_mk.mpr ⟨weakens.valid, referenceValid,
        SgxIdentity.isIdentityCompatibleWithMatchSpec_weaken referenceCompatible weakens⟩,
      identityValid, SgxIdentity.isIdentityCompatibleWithMatchSpec_weaken compatible weakens,
      machineMatched.weaken weakens.machineConfigurationMatchSpec, codeMatched.weaken weakens.codeIdentityMatchSpec⟩

/-- Matching SGX identities is reflexive and monotone. Take a valid spec and
a valid reference identity compatible with it. The reference matches the
expectation of itself under the spec. An identity that matches that
expectation still matches with its ISVSVN raised, and still matches under any
weakening of the spec. -/
theorem match_identity_reflexive_monotone (spec : SgxIdentityMatchSpec) (reference : SgxIdentity)
    (specValid : spec.isValidMatchSpec = true) (referenceValid : isValidSgxIdentity reference = true)
    (compatible : reference.isIdentityCompatibleWithMatchSpec spec = true) :
    matchIdentityToExpectation reference ⟨some reference, some spec⟩ = .ok (true, "") ∧
    (∀ (identity : SgxIdentity) (explanation : String) (isvsvn : Nat),
      matchIdentityToExpectation identity ⟨some reference, some spec⟩ = .ok (true, explanation) →
      ((identity.codeIdentity.getD default).signerAssignedIdentity.getD default).isvsvn.getD 0 ≤ isvsvn →
      ∃ explanation', matchIdentityToExpectation (identity.setIsvsvn isvsvn) ⟨some reference, some spec⟩ =
        .ok (true, explanation')) ∧
    (∀ (identity : SgxIdentity) (explanation : String) (weaker : SgxIdentityMatchSpec),
      matchIdentityToExpectation identity ⟨some reference, some spec⟩ = .ok (true, explanation) →
      weaker.Weakens spec →
      ∃ explanation', matchIdentityToExpectation identity ⟨some reference, some weaker⟩ = .ok (true, explanation')) :=
  ⟨matchIdentityToExpectation_self specValid referenceValid compatible,
    fun _ _ _ matched raised => matchIdentityToExpectation_setIsvsvn matched raised,
    fun _ _ _ matched weakens => matchIdentityToExpectation_weaken matched weakens⟩

/-- The strict spec, which asks for every field and every bit, over an
identity with every field set. -/
theorem match_identity_reflexive_monotone_strict :
    matchIdentityToExpectation
        ⟨some ⟨some ⟨[1]⟩, some ⟨some ⟨[2]⟩, some 1, some 3⟩, some 0, some ⟨3, 3⟩⟩,
          some ⟨some ⟨some (List.replicate 16 0)⟩, some .standard⟩⟩
        ⟨some ⟨some ⟨some ⟨[1]⟩, some ⟨some ⟨[2]⟩, some 1, some 3⟩, some 0, some ⟨3, 3⟩⟩,
            some ⟨some ⟨some (List.replicate 16 0)⟩, some .standard⟩⟩,
          some ⟨some ⟨some true, some true, some 0xffffffff, some ⟨0xffffffffffffffff, 0xffffffffffffffff⟩⟩,
            some ⟨some true, some true⟩⟩⟩ = .ok (true, "") :=
  (match_identity_reflexive_monotone ⟨some ⟨some true, some true, some 0xffffffff,
      some ⟨0xffffffffffffffff, 0xffffffffffffffff⟩⟩, some ⟨some true, some true⟩⟩
    ⟨some ⟨some ⟨[1]⟩, some ⟨some ⟨[2]⟩, some 1, some 3⟩, some 0, some ⟨3, 3⟩⟩,
      some ⟨some ⟨some (List.replicate 16 0)⟩, some .standard⟩⟩ rfl rfl rfl).1

end Asylo.SgxIdentityMatch
