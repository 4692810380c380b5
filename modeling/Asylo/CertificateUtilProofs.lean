import Asylo.CertificateUtil
import Asylo.ExceptLemmas

/-! What the chain functions of `certificate_util.cc` guarantee.

`getCertificateChainLoop_fuel`: the loop of `GetCertificateChainFromPem` ends
before its fuel does, because every round moves the END position forward; the
model's result is the `while` loop's.

`createCertificateChain_eq_ok`: a chain is built exactly when each certificate
has a factory for its format and that factory accepts it, position by position.

`verifyCertificateChain_eq_ok`: `VerifyCertificateChain` accepts exactly the
chains of `ChainVerified`: each certificate verified by the next, the last one
self-signed, and, when the path length is checked, every issuer's path length
at least the number of CAs between it and the first certificate. -/
namespace Asylo.CertificateUtil

variable {Cert : Type}

/-! ## The labels -/

theorem findFrom_some {text pattern : List UInt8} :
    ∀ {fuel i j : Nat}, findFrom text pattern fuel i = some j →
      i ≤ j ∧ j < i + fuel ∧ pattern <+: text.drop j
  | 0, _, _, found => by simp [findFrom] at found
  | fuel + 1, i, j, found => by
    unfold findFrom at found
    split at found
    · rename_i starts
      cases found
      exact ⟨Nat.le_refl _, by omega, List.isPrefixOf_iff_prefix.mp starts⟩
    · obtain ⟨later, bound, starts⟩ := findFrom_some found
      exact ⟨by omega, by omega, starts⟩

/-- What `find` finds starts at or after `pos`, within the text, with the
pattern. -/
theorem find_some {text pattern : List UInt8} {pos j : Nat} (found : find text pattern pos = some j) :
    pos ≤ j ∧ j ≤ text.length ∧ pattern <+: text.drop j := by
  obtain ⟨after, bound, starts⟩ := findFrom_some found
  exact ⟨after, by omega, starts⟩

/-- A BEGIN label and an END label never start at one place. -/
theorem labels_apart {rest : List UInt8} (begins : kBeginCertLabel <+: rest)
    (ends : kEndCertLabel <+: rest) : False := by
  have endInBegin : kEndCertLabel <+: kBeginCertLabel :=
    List.prefix_of_prefix_length_le ends begins (by decide)
  exact absurd endInBegin (by decide)

/-- A round of the loop finds its next END label past the one before. -/
theorem end_advances {text : List UInt8} {certEnd certStart nextEnd : Nat}
    (ends : kEndCertLabel <+: text.drop certEnd)
    (begins : find text kBeginCertLabel certEnd = some certStart)
    (nextEnds : find text kEndCertLabel certStart = some nextEnd) : certEnd < nextEnd := by
  obtain ⟨startAfter, -, startLabel⟩ := find_some begins
  obtain ⟨endAfter, -, -⟩ := find_some nextEnds
  have apart : certEnd ≠ certStart := by
    rintro rfl
    exact labels_apart startLabel ends
  omega

/-! ## The fuel of `getCertificateChainLoop` -/

section Loop

variable (x509 : X509Certificate Cert) (text : List UInt8)

/-- The loop from an END label at `certEnd` needs fewer rounds than the text has
bytes past it, plus one: more fuel changes nothing. -/
theorem getCertificateChainLoop_fuel :
    ∀ (fuel extra : Nat) (certStart : Option Nat) (certEnd : Nat) (certChain : List Certificate),
      kEndCertLabel <+: text.drop certEnd → text.length < certEnd + fuel →
      getCertificateChainLoop x509 text (fuel + extra) certStart (some certEnd) certChain =
        getCertificateChainLoop x509 text fuel certStart (some certEnd) certChain := by
  intro fuel
  induction fuel with
  | zero =>
    intro extra certStart certEnd certChain ends short
    -- an END label fits in what is left after its position
    have fits := ends.length_le
    simp only [List.length_drop] at fits
    have labelLength : kEndCertLabel.length = 25 := by decide
    omega
  | succ fuel ih =>
    intro extra certStart certEnd certChain ends short
    rw [show fuel + 1 + extra = fuel + extra + 1 by omega]
    cases certStart with
    | none => simp only [getCertificateChainLoop_start_none]
    | some certStart =>
      simp only [getCertificateChainLoop]
      cases getCertificateFromPem x509 ((text.drop certStart).take (certEnd + kEndCertLabel.length - certStart)) with
      | error status => rfl
      | ok certificate =>
        show getCertificateChainLoop x509 text (fuel + extra) _ _ _ = getCertificateChainLoop x509 text fuel _ _ _
        cases begins : find text kBeginCertLabel certEnd with
        | none => simp only [Option.bind_none, getCertificateChainLoop_end_none]
        | some nextStart =>
          cases nextEnds : find text kEndCertLabel nextStart with
          | none => simp only [Option.bind_some, nextEnds, getCertificateChainLoop_end_none]
          | some nextEnd =>
            have advanced := end_advances ends begins nextEnds
            simp only [Option.bind_some, nextEnds]
            exact ih extra (some nextStart) nextEnd _ (find_some nextEnds).2.2 (by omega)

/-- The fuel `getCertificateChainFromPem` gives its loop is enough: any more
gives the same result. -/
theorem getCertificateChainFromPem_fuel (certStart : Option Nat) (extra : Nat) :
    getCertificateChainLoop x509 text (text.length + 1 + extra) certStart
        (certStart.bind (find text kEndCertLabel)) [] =
      getCertificateChainLoop x509 text (text.length + 1) certStart
        (certStart.bind (find text kEndCertLabel)) [] := by
  cases certEnds : certStart.bind (find text kEndCertLabel) with
  | none => simp only [getCertificateChainLoop_end_none]
  | some certEnd =>
    obtain ⟨start, -, certEndFound⟩ := Option.bind_eq_some_iff.mp certEnds
    obtain ⟨-, within, ends⟩ := find_some certEndFound
    exact getCertificateChainLoop_fuel x509 text _ extra certStart certEnd [] ends (by omega)

end Loop

/-! ## `CreateCertificateChain` -/

/-- `cert` is what the factory of `certificate`'s format made of it. -/
def Created (factoryMap : CertificateFactoryMap Cert) (certificate : Certificate) (cert : Cert) : Prop :=
  ∃ factory, factoryMap certificate.format = some factory ∧ factory certificate = .ok cert

theorem createCertificateChainFrom_eq_ok (factoryMap : CertificateFactoryMap Cert) :
    ∀ {index : Nat} {chain : List Certificate} {certs : List Cert},
      createCertificateChainFrom factoryMap index chain = .ok certs ↔
        List.Forall₂ (Created factoryMap) chain certs
  | _, [], certs => by
    cases certs with
    | nil => simp [createCertificateChainFrom]
    | cons cert rest => simp [createCertificateChainFrom, List.forall₂_nil_left_iff]
  | index, certificate :: chain, certs => by
    rw [createCertificateChainFrom]
    cases mapped : factoryMap certificate.format with
    | none =>
      cases certs with
      | nil => simp [List.forall₂_nil_right_iff]
      | cons cert rest => simp [Created, mapped]
    | some factory =>
      simp only [Except.bind_eq_ok, withContext_eq_ok, createCertificateChainFrom_eq_ok factoryMap]
      cases certs with
      | nil => simp [pure, Except.pure, List.forall₂_nil_right_iff]
      | cons cert rest =>
        simp [Created, mapped, pure, Except.pure]

theorem createCertificateChain_eq_ok (factoryMap : CertificateFactoryMap Cert)
    {chain : List Certificate} {certs : List Cert} :
    createCertificateChain factoryMap chain = .ok certs ↔ List.Forall₂ (Created factoryMap) chain certs :=
  createCertificateChainFrom_eq_ok factoryMap

/-! ## `VerifyCertificateChain` -/

section Verify

variable (iface : CertificateInterface Cert) (config : VerificationConfig)

/-- The CAs among `certs`: those that say they are one, and those that do not
say. -/
def caCount (certs : List Cert) : Nat :=
  certs.countP fun cert => (iface.isCa cert).getD true

/-- Each issuer of `certs` allows the CAs between it and the first certificate,
counting from `start`: its path length, where it has one, is at least their
number. -/
def PathLengthsFrom (start : Int) (certs : List Cert) : Prop :=
  ∀ i (issuerAt : i + 1 < certs.length) maxPathlength,
    iface.certPathLength certs[i + 1] = some maxPathlength →
      start + caCount iface ((certs.drop 1).take i) ≤ maxPathlength

/-- The chains `VerifyCertificateChain` accepts. -/
structure ChainVerified (certs : List Cert) : Prop where
  issued : certs.IsChain fun subject issuer => iface.verify subject issuer config = .ok ()
  selfSigned : ∃ root, certs.getLast? = some root ∧ iface.verify root root config = .ok ()
  pathLengths : config.maxPathlen = true → PathLengthsFrom iface 0 certs

theorem pathLengthsFrom_short {start : Int} {certs : List Cert} (short : certs.length ≤ 1) :
    PathLengthsFrom iface start certs := by
  intro i issuerAt
  omega

/-- The first issuer's path length is checked against the count so far; the
rest against the count with that issuer in it. -/
theorem pathLengthsFrom_cons_cons {start : Int} {subject issuer : Cert} {rest : List Cert} :
    PathLengthsFrom iface start (subject :: issuer :: rest) ↔
      (∀ maxPathlength, iface.certPathLength issuer = some maxPathlength → start ≤ maxPathlength) ∧
        PathLengthsFrom iface (if (iface.isCa issuer).getD true then start + 1 else start) (issuer :: rest) := by
  -- the CAs below the issuer at `i + 2` are the first issuer and those below it in the rest
  have counted : ∀ i, (start + caCount iface (((subject :: issuer :: rest).drop 1).take (i + 1)) : Int) =
      (if (iface.isCa issuer).getD true then start + 1 else start) +
        caCount iface (((issuer :: rest).drop 1).take i) := by
    intro i
    simp only [caCount, List.drop_succ_cons, List.drop_zero, List.take_succ_cons, List.countP_cons]
    split <;> push_cast <;> omega
  constructor
  · intro lengths
    refine ⟨fun maxPathlength bound => ?_, fun i issuerAt maxPathlength bound => ?_⟩
    · simpa [caCount] using lengths 0 (by simp) maxPathlength bound
    · rw [← counted]
      exact lengths (i + 1) (by simp at issuerAt ⊢; omega) maxPathlength bound
  · rintro ⟨first, later⟩ i issuerAt maxPathlength bound
    cases i with
    | zero => simpa [caCount] using first maxPathlength bound
    | succ i =>
      rw [counted]
      exact later i (by simp at issuerAt ⊢; omega) maxPathlength bound

/-- One round of the loop: the path length check, the verification, the rest. -/
theorem verifyIssuers_cons_cons {index : Nat} {caCount : Int} {subject issuer : Cert} {rest : List Cert} :
    verifyIssuers iface config index caCount (subject :: issuer :: rest) = .ok () ↔
      (config.maxPathlen = true → ∀ maxPathlength, iface.certPathLength issuer = some maxPathlength →
          caCount ≤ maxPathlength) ∧
        iface.verify subject issuer config = .ok () ∧
        verifyIssuers iface config (index + 1)
          (if (iface.isCa issuer).getD true then caCount + 1 else caCount) (issuer :: rest) = .ok () := by
  rw [verifyIssuers]
  cases config.maxPathlen with
  | false => simp [Except.bind_unit_eq_ok]
  | true =>
    cases iface.certPathLength issuer with
    | none => simp [Except.bind_unit_eq_ok]
    | some maxPathlength =>
      by_cases exceeded : maxPathlength < caCount
      · simp [exceeded, Int.not_le.mpr exceeded, throw, throwThe, MonadExceptOf.throw, Except.bind_unit_eq_ok]
      · simp [exceeded, Int.not_lt.mp exceeded, Except.bind_unit_eq_ok]

/-- The loop accepts exactly the chains whose links verify and whose issuers
allow the path below them. -/
theorem verifyIssuers_eq_ok :
    ∀ {index : Nat} {start : Int} (certs : List Cert),
      verifyIssuers iface config index start certs = .ok () ↔
        certs.IsChain (fun subject issuer => iface.verify subject issuer config = .ok ()) ∧
          (config.maxPathlen = true → PathLengthsFrom iface start certs)
  | _, _, [] => by simp [verifyIssuers, pure, Except.pure, pathLengthsFrom_short]
  | _, _, [_] => by simp [verifyIssuers, pure, Except.pure, pathLengthsFrom_short]
  | index, start, subject :: issuer :: rest => by
    rw [verifyIssuers_cons_cons, verifyIssuers_eq_ok (issuer :: rest), List.isChain_cons_cons,
      pathLengthsFrom_cons_cons]
    constructor
    · rintro ⟨first, verified, later, lengths⟩
      exact ⟨⟨verified, later⟩, fun checked => ⟨first checked, lengths checked⟩⟩
    · rintro ⟨⟨verified, later⟩, lengths⟩
      exact ⟨fun checked => (lengths checked).1, verified, later, fun checked => (lengths checked).2⟩

/-- `VerifyCertificateChain` accepts exactly the chains of `ChainVerified`. -/
theorem verifyCertificateChain_eq_ok {certs : List Cert} :
    verifyCertificateChain iface certs config = .ok () ↔ ChainVerified iface config certs := by
  unfold verifyCertificateChain
  cases last : certs.getLast? with
  | none =>
    simp only [reduceCtorEq, false_iff]
    rintro ⟨-, ⟨root, found, -⟩, -⟩
    simp [last] at found
  | some root =>
    simp only [Except.bind_unit_eq_ok, withContext_eq_ok, verifyIssuers_eq_ok]
    constructor
    · rintro ⟨⟨issued, lengths⟩, selfSigned⟩
      exact ⟨issued, ⟨root, last, selfSigned⟩, lengths⟩
    · rintro ⟨issued, ⟨root', found, selfSigned⟩, lengths⟩
      obtain rfl : root' = root := Option.some.inj (found.symm.trans last)
      exact ⟨⟨issued, lengths⟩, selfSigned⟩

/-- `VerifyCertificateChain` of a chain `c₀ … cₙ`, leaf first, succeeds exactly
when each certificate is verified by the next, the root by itself, and, when
path lengths are checked, each issuer `cᵢ₊₁` with a path length allows the CAs
among `c₁ … cᵢ`. -/
theorem verifyCertificateChain_path_rules {certs : List Cert} (nonempty : certs ≠ []) :
    verifyCertificateChain iface certs config = .ok () ↔
      (∀ i (issuerAt : i + 1 < certs.length), iface.verify certs[i] certs[i + 1] config = .ok ()) ∧
        iface.verify (certs.getLast nonempty) (certs.getLast nonempty) config = .ok () ∧
        (config.maxPathlen = true → ∀ i (issuerAt : i + 1 < certs.length) maxPathlength,
          iface.certPathLength certs[i + 1] = some maxPathlength →
            (caCount iface ((certs.drop 1).take i) : Int) ≤ maxPathlength) := by
  have last := List.getLast?_eq_some_getLast nonempty
  rw [verifyCertificateChain_eq_ok]
  constructor
  · rintro ⟨issued, ⟨root, found, selfSigned⟩, lengths⟩
    obtain rfl : root = certs.getLast nonempty := Option.some.inj (found.symm.trans last)
    refine ⟨List.isChain_iff_getElem.mp issued, selfSigned, fun checked i issuerAt maxPathlength bound => ?_⟩
    simpa using lengths checked i issuerAt maxPathlength bound
  · rintro ⟨issued, selfSigned, lengths⟩
    refine ⟨List.isChain_iff_getElem.mpr issued, ⟨_, last, selfSigned⟩, fun checked i issuerAt maxPathlength bound => ?_⟩
    simpa using lengths checked i issuerAt maxPathlength bound

end Verify

/-- Certificates numbered by their path length, every link and root verified,
none saying whether it is a CA. -/
def numberedInterface : CertificateInterface Nat :=
  ⟨fun cert other => cert == other, fun _ _ _ => .ok (), fun _ => .ok [], fun _ => none, fun _ => none,
    fun cert => some cert⟩

/-- The chain `0, 1, 2`: the issuer at index 2 allows the one CA below it. -/
theorem verifyCertificateChain_path_rules_of_numbered :
    verifyCertificateChain numberedInterface [0, 1, 2] (.ofAllFields true 0) = .ok () := by
  refine (verifyCertificateChain_path_rules numberedInterface _ (by decide)).mpr
    ⟨fun _ _ => rfl, rfl, fun _ i issuerAt maxPathlength bound => ?_⟩
  -- the issuers at indices 1 and 2 allow 1 and 2 CAs
  have below : i + 1 < 3 := issuerAt
  obtain _ | _ | i := i
  · simp only [numberedInterface, Option.some.injEq] at bound
    simp [← bound, caCount]
  · simp only [numberedInterface, Option.some.injEq] at bound
    simp [← bound, caCount, numberedInterface]
  · omega

end Asylo.CertificateUtil
