import Asylo.ReadOidAnySequenceProofs
import Asylo.Asn1Proofs
import Asylo.TcbProofs

/-! The SGX extension codec of a PCK certificate. `ReadSgxExtensions`
succeeds exactly on the sequences in which each extension occurs once with a
value of its form, the TCB being such a sequence itself
(`SgxExtensionValueValid`). A successful read does not depend on the order of
the pairs, in the extensions or in the TCB, since the read functions of
different OIDs write different fields of the record. A failed one can: the
errors are listed in the order of the pairs. `WriteSgxExtensions` of a record
`ValidateSgxExtensions` accepts succeeds, and reads back as that record. -/
namespace Asylo.Provisioning

/-! ## Sequences of `(OID, value)` pairs -/

/-- The SEQUENCE that `OidAnySequenceSchema()` writes for a list of pairs. -/
def oidAnySequenceValue (pairs : List (ObjectId × Asn1Value)) : Asn1Value :=
  .sequence (pairs.map fun pair => .sequence [.objectId pair.1, pair.2])

theorem oidAnySequenceValue_injective {pairs pairs' : List (ObjectId × Asn1Value)}
    (same : oidAnySequenceValue pairs = oidAnySequenceValue pairs') : pairs = pairs' := by
  have pairInjective : Function.Injective fun pair : ObjectId × Asn1Value =>
      Asn1Value.sequence [.objectId pair.1, pair.2] := by
    rintro ⟨oid, value⟩ ⟨oid', value'⟩ equal
    simp only [Asn1Value.sequence.injEq, List.cons.injEq, Asn1Value.objectId.injEq, and_true] at equal
    rw [equal.1, equal.2]
  exact (List.map_injective_iff.mpr pairInjective) (Asn1Value.sequence.inj same)

theorem oidAnySequenceSchema_write_of_length {pairs : List (ObjectId × Asn1Value)} (nonempty : 1 ≤ pairs.length)
    (small : pairs.length ≤ kSizeMax) : oidAnySequenceSchema.write pairs = .ok (oidAnySequenceValue pairs) := by
  have sized : verifySize 1 kSizeMax pairs.length = .ok () := verifySize_eq_ok.mpr ⟨nonempty, small⟩
  have mapped : pairs.mapM (Asn1Schema.sequence .objectId .any).write =
      .ok (pairs.map fun pair => Asn1Value.sequence [.objectId pair.1, pair.2]) :=
    Except.mapM_eq_ok_map fun _ _ => rfl
  show (do
      verifySize 1 kSizeMax pairs.length
      let elements ← pairs.mapM (Asn1Schema.sequence .objectId .any).write
      Asn1Value.createSequence elements) = _
  rw [sized, mapped]
  rfl

/-- What `OidAnySequenceSchema().Read` accepts: the SEQUENCE of a non-empty
list of pairs. -/
theorem oidAnySequenceSchema_read_eq_ok {asn1 : Asn1Value} {pairs : List (ObjectId × Asn1Value)} :
    oidAnySequenceSchema.read asn1 = .ok pairs ↔
      asn1 = oidAnySequenceValue pairs ∧ 1 ≤ pairs.length ∧ pairs.length ≤ kSizeMax := by
  constructor
  · intro readOk
    have written := oidAnySequenceSchema.write_read readOk
    simp only [oidAnySequenceSchema, Asn1Schema.write] at written
    obtain ⟨⟨⟩, sized, -⟩ := Except.bind_eq_ok.mp written
    obtain ⟨nonempty, small⟩ := verifySize_eq_ok.mp sized
    have writtenValue := oidAnySequenceSchema_write_of_length nonempty small
    simp only [oidAnySequenceSchema, Asn1Schema.write] at writtenValue
    rw [writtenValue] at written
    exact ⟨(Except.ok.inj written).symm, nonempty, small⟩
  · rintro ⟨rfl, nonempty, small⟩
    exact oidAnySequenceSchema.read_write (oidAnySequenceSchema_write_of_length nonempty small)

/-! ## What each value must be -/

/-- An OCTET STRING of `size` bytes. -/
def IsOctetStringOfSize (size : Nat) : Asn1Value → Prop
  | .octetString bytes => bytes.length = size
  | _ => False

/-- An INTEGER from `low` to `high`. -/
def IsIntegerIn (low high : Int) : Asn1Value → Prop
  | .integer value => low ≤ value ∧ value ≤ high
  | _ => False

/-- The OIDs of the TCB: its PCE SVN, its CPU SVN and its sixteen component
SVNs. -/
def tcbOids : List ObjectId :=
  [SgxOids.pceSvn, SgxOids.cpuSvn] ++ (List.range kTcbComponentsSize).map SgxOids.sgxTcbCompSvns

/-- The value of each OID of the TCB: a PCE SVN that fits a `uint16_t`, a
CPU SVN of `kCpusvnSize` bytes, and component SVNs that fit a `uint8_t`. -/
def TcbEntryValid (oid : ObjectId) (value : Asn1Value) : Prop :=
  if oid = SgxOids.pceSvn then IsIntegerIn 0 65535 value
  else if oid = SgxOids.cpuSvn then IsOctetStringOfSize kCpusvnSize value
  else IsIntegerIn 0 255 value

/-- A TCB: a sequence with each OID of the TCB once and its value of the
right form. -/
def TcbValueValid (value : Asn1Value) : Prop :=
  ∃ pairs, value = oidAnySequenceValue pairs ∧ PairsMatch tcbOids TcbEntryValid pairs

/-- The OIDs of the SGX extensions. -/
def sgxExtensionsOids : List ObjectId := [SgxOids.ppid, SgxOids.tcb, SgxOids.pceId, SgxOids.fmspc, SgxOids.sgxType]

/-- The value of each SGX extension: a PPID of `kPpidSize` bytes, a TCB, a
PCE ID of two bytes, an FMSPC of `kFmspcSize` bytes, and the SGX type
`kStandard`, the only one `FromRawSgxType` knows. -/
def SgxExtensionValueValid (oid : ObjectId) (value : Asn1Value) : Prop :=
  if oid = SgxOids.ppid then IsOctetStringOfSize kPpidSize value
  else if oid = SgxOids.tcb then TcbValueValid value
  else if oid = SgxOids.pceId then IsOctetStringOfSize 2 value
  else if oid = SgxOids.fmspc then IsOctetStringOfSize kFmspcSize value
  else value = .enumerated 0

/-! ## The getters -/

theorem readOctetStringWithSize_eq_ok {asn1 : Asn1Value} {size : Nat} {bytes : List UInt8} :
    readOctetStringWithSize asn1 size = .ok bytes ↔ asn1 = .octetString bytes ∧ bytes.length = size := by
  cases asn1 with
  | octetString value =>
    by_cases sized : value.length = size
    · simp only [readOctetStringWithSize, Asn1Value.getOctetString, sized, ne_eq, not_true_eq_false, ↓reduceIte,
        bind, Except.bind, pure, Except.pure, Except.ok.injEq, Asn1Value.octetString.injEq]
      constructor
      · rintro rfl
        exact ⟨rfl, sized⟩
      · rintro ⟨rfl, -⟩
        rfl
    · simp [readOctetStringWithSize, Asn1Value.getOctetString, sized, bind, Except.bind, throw, throwThe,
        MonadExceptOf.throw]
      rintro rfl
      exact sized
  | _ => simp [readOctetStringWithSize, Asn1Value.getOctetString, bind, Except.bind]

theorem readOctetStringWithSize_ok_iff {asn1 : Asn1Value} {size : Nat} :
    (∃ bytes, readOctetStringWithSize asn1 size = .ok bytes) ↔ IsOctetStringOfSize size asn1 := by
  cases asn1 <;> simp [readOctetStringWithSize_eq_ok, IsOctetStringOfSize]

theorem integerFromBignum_eq_ok {low high bignum value : Int} :
    Asn1Value.integerFromBignum low high bignum = .ok value ↔ bignum = value ∧ low ≤ value ∧ value ≤ high := by
  unfold Asn1Value.integerFromBignum
  split
  · simp only [reduceCtorEq, false_iff]
    omega
  · simp only [Except.ok.injEq]
    constructor
    · rintro rfl
      omega
    · rintro ⟨rfl, -⟩
      rfl

theorem getIntegerAsInt_eq_ok {low high value : Int} {asn1 : Asn1Value} :
    asn1.getIntegerAsInt low high = .ok value ↔ asn1 = .integer value ∧ low ≤ value ∧ value ≤ high := by
  cases asn1 with
  | integer bignum => simp [Asn1Value.getIntegerAsInt, Asn1Value.getInteger, bind, Except.bind, integerFromBignum_eq_ok]
  | _ => simp [Asn1Value.getIntegerAsInt, Asn1Value.getInteger, bind, Except.bind]

theorem getIntegerAsInt_ok_iff {low high : Int} {asn1 : Asn1Value} :
    (∃ value, asn1.getIntegerAsInt low high = .ok value) ↔ IsIntegerIn low high asn1 := by
  cases asn1 <;> simp [getIntegerAsInt_eq_ok, IsIntegerIn]

/-- The SGX type reads only from the ENUMERATED 0. -/
theorem getEnumeratedAsInt_fromRawSgxType_ok_iff {asn1 : Asn1Value} :
    (∃ sgxType, (asn1.getEnumeratedAsInt 0 255 >>= fromRawSgxType) = .ok sgxType) ↔ asn1 = .enumerated 0 := by
  cases asn1 with
  | enumerated raw =>
    by_cases zero : raw = 0
    · subst zero
      simp [Asn1Value.getEnumeratedAsInt, Asn1Value.getEnumerated, Asn1Value.integerFromBignum, fromRawSgxType,
        bind, Except.bind]
    · simp only [Asn1Value.enumerated.injEq, zero, iff_false, not_exists]
      intro sgxType done
      obtain ⟨raw', read, known⟩ := Except.bind_eq_ok.mp done
      obtain ⟨bignum, gotten, fits⟩ := Except.bind_eq_ok.mp read
      cases gotten
      obtain ⟨rfl, -⟩ := integerFromBignum_eq_ok.mp fits
      simp [fromRawSgxType, zero] at known
  | _ => simp [Asn1Value.getEnumeratedAsInt, Asn1Value.getEnumerated, bind, Except.bind]

/-! ## The read functions

Each reads its value without looking at the record, but for the TCB's, which
reads the TCB and CPU SVN it fills, and writes fields of its own. -/

theorem readTcbComponent_eq (i : Nat) (asn1 : Asn1Value) :
    readTcbComponent i asn1 = fun state =>
      (fun component : Int => (({ state.1 with
        components := some (state.1.componentBytes.set i component.toNat.toUInt8) } : Tcb), state.2)) <$>
        asn1.getIntegerAsInt 0 255 := rfl

theorem readTcbPceSvn_eq (asn1 : Asn1Value) :
    readTcbPceSvn asn1 = fun state =>
      (fun pceSvn : Int => (({ state.1 with pceSvn := some ⟨some pceSvn.toNat.toUInt32⟩ } : Tcb), state.2)) <$>
        asn1.getIntegerAsInt 0 65535 := rfl

theorem readTcbCpuSvn_eq (asn1 : Asn1Value) :
    readTcbCpuSvn asn1 = fun state =>
      (fun cpuSvnBytes => (state.1, ({ value := some cpuSvnBytes } : CpuSvn))) <$>
        readOctetStringWithSize asn1 kCpusvnSize := rfl

theorem readPpidExtension_eq (asn1 : Asn1Value) :
    readPpidExtension asn1 = fun extensions =>
      (fun ppidBytes => { extensions with ppid := ⟨some ppidBytes⟩ }) <$> readOctetStringWithSize asn1 kPpidSize := rfl

theorem readTcbExtension_eq (asn1 : Asn1Value) :
    readTcbExtension asn1 = fun extensions =>
      (fun read : Tcb × CpuSvn => { extensions with tcb := read.1, cpuSvn := read.2 }) <$>
        readTcb asn1 extensions.tcb extensions.cpuSvn := rfl

theorem readPceIdExtension_eq (asn1 : Asn1Value) :
    readPceIdExtension asn1 = fun extensions =>
      (fun pceIdBytes => { extensions with pceId := ⟨some (LittleEndian.decode pceIdBytes).toUInt32⟩ }) <$>
        readOctetStringWithSize asn1 2 := rfl

theorem readFmspcExtension_eq (asn1 : Asn1Value) :
    readFmspcExtension asn1 = fun extensions =>
      (fun fmspcBytes => { extensions with fmspc := ⟨some fmspcBytes⟩ }) <$>
        readOctetStringWithSize asn1 kFmspcSize := rfl

theorem readSgxTypeExtension_eq (asn1 : Asn1Value) :
    readSgxTypeExtension asn1 = fun extensions =>
      (fun sgxType => { extensions with sgxType }) <$> (asn1.getEnumeratedAsInt 0 255 >>= fromRawSgxType) := by
  funext extensions
  simp [readSgxTypeExtension, bind_pure_comp]

/-! ## The two tables -/

theorem sgxTcbCompSvns_injective {i j : Nat} (same : SgxOids.sgxTcbCompSvns i = SgxOids.sgxTcbCompSvns j) : i = j := by
  simpa [SgxOids.sgxTcbCompSvns] using same

theorem sgxTcbCompSvns_ne_pceSvn {i : Nat} (within : i < kTcbComponentsSize) :
    SgxOids.sgxTcbCompSvns i ≠ SgxOids.pceSvn := by
  simp only [SgxOids.sgxTcbCompSvns, SgxOids.pceSvn, ne_eq, ObjectId.mk.injEq, List.append_cancel_left_eq,
    List.cons.injEq, true_and, and_true]
  simp only [kTcbComponentsSize] at within
  omega

theorem sgxTcbCompSvns_ne_cpuSvn {i : Nat} (within : i < kTcbComponentsSize) :
    SgxOids.sgxTcbCompSvns i ≠ SgxOids.cpuSvn := by
  simp only [SgxOids.sgxTcbCompSvns, SgxOids.cpuSvn, ne_eq, ObjectId.mk.injEq, List.append_cancel_left_eq,
    List.cons.injEq, true_and, and_true]
  simp only [kTcbComponentsSize] at within
  omega

theorem mem_tcbReadInfos {entry : ObjectId × ReadInfo (Tcb × CpuSvn)} :
    entry ∈ tcbReadInfos ↔ entry = (SgxOids.pceSvn, ⟨readTcbPceSvn, .REQUIRED⟩) ∨
      entry = (SgxOids.cpuSvn, ⟨readTcbCpuSvn, .REQUIRED⟩) ∨
      ∃ i < kTcbComponentsSize, entry = (SgxOids.sgxTcbCompSvns i, ⟨readTcbComponent i, .REQUIRED⟩) := by
  simp only [tcbReadInfos, List.mem_append, List.mem_cons, List.mem_nil_iff, or_false, List.mem_map, List.mem_range,
    or_assoc]
  constructor
  · rintro (first | second | ⟨i, within, rfl⟩)
    · exact Or.inl first
    · exact Or.inr (Or.inl second)
    · exact Or.inr (Or.inr ⟨i, within, rfl⟩)
  · rintro (first | second | ⟨i, within, rfl⟩)
    · exact Or.inl first
    · exact Or.inr (Or.inl second)
    · exact Or.inr (Or.inr ⟨i, within, rfl⟩)

theorem tcbReadInfos_oids : tcbReadInfos.map Prod.fst = tcbOids := by
  simp [tcbReadInfos, tcbOids, Function.comp_def]

theorem tcbReadInfos_required : ∀ entry ∈ tcbReadInfos, entry.2.optionality = .REQUIRED := by
  intro entry member
  rcases mem_tcbReadInfos.mp member with rfl | rfl | ⟨i, -, rfl⟩ <;> rfl

/-- Each read function of `ReadTcb` succeeds exactly on the values of its
form. -/
theorem tcbReadInfos_reads : ∀ entry ∈ tcbReadInfos, ∀ asn1 state,
    (∃ state', entry.2.readFunction asn1 state = .ok state') ↔ TcbEntryValid entry.1 asn1 := by
  intro entry member asn1 state
  rcases mem_tcbReadInfos.mp member with rfl | rfl | ⟨i, within, rfl⟩
  · simp [readTcbPceSvn_eq, Except.exists_map_eq_ok, getIntegerAsInt_ok_iff, TcbEntryValid]
  · have different : SgxOids.cpuSvn ≠ SgxOids.pceSvn := by decide
    simp [readTcbCpuSvn_eq, Except.exists_map_eq_ok, readOctetStringWithSize_ok_iff, TcbEntryValid, different]
  · simp [readTcbComponent_eq, Except.exists_map_eq_ok, getIntegerAsInt_ok_iff, TcbEntryValid,
      sgxTcbCompSvns_ne_pceSvn within, sgxTcbCompSvns_ne_cpuSvn within]

theorem sgxExtensionsReadInfos_required : ∀ entry ∈ sgxExtensionsReadInfos, entry.2.optionality = .REQUIRED := by
  intro entry member
  simp only [sgxExtensionsReadInfos, List.mem_cons, List.mem_nil_iff, or_false] at member
  rcases member with rfl | rfl | rfl | rfl | rfl <;> rfl

section Table

variable {σ : Type} {readInfos : List (ObjectId × ReadInfo σ)} {valid : ObjectId → Asn1Value → Prop}
  (required : ∀ entry ∈ readInfos, entry.2.optionality = .REQUIRED)
  (reads : ∀ entry ∈ readInfos, ∀ asn1 target,
    (∃ target', entry.2.readFunction asn1 target = .ok target') ↔ valid entry.1 asn1)
  (listed : readInfos ≠ []) (few : readInfos.length ≤ kSizeMax)
include required reads listed few

/-- Reading a SEQUENCE of pairs, and then the pairs with a table of required
OIDs, succeeds exactly on the sequences of pairs that match the table. -/
theorem readOidAnySequence_of_schema_ok_iff {asn1 : Asn1Value} {target : σ} :
    (∃ target', (oidAnySequenceSchema.read asn1 >>= fun sequence => readOidAnySequence readInfos sequence target) =
      .ok target') ↔ ∃ pairs, asn1 = oidAnySequenceValue pairs ∧ PairsMatch (readInfos.map Prod.fst) valid pairs := by
  constructor
  · rintro ⟨target', done⟩
    obtain ⟨pairs, schemaRead, rest⟩ := Except.bind_eq_ok.mp done
    exact ⟨pairs, (oidAnySequenceSchema_read_eq_ok.mp schemaRead).1,
      (readOidAnySequence_ok_iff required reads).mp ⟨target', rest⟩⟩
  · rintro ⟨pairs, rfl, matched⟩
    obtain ⟨first, others, split⟩ := List.exists_cons_of_ne_nil listed
    have nonempty : 1 ≤ pairs.length := matched.pos_length (show first.1 ∈ readInfos.map Prod.fst by simp [split])
    have small : pairs.length ≤ kSizeMax := by
      have bounded := matched.length_le
      simp only [List.length_map] at bounded
      omega
    obtain ⟨target', rest⟩ : ∃ target', readOidAnySequence readInfos pairs target = .ok target' :=
      (readOidAnySequence_ok_iff required reads).mpr matched
    refine ⟨target', ?_⟩
    rw [oidAnySequenceSchema_read_eq_ok.mpr ⟨rfl, nonempty, small⟩]
    exact rest

end Table

/-- `ReadTcb` succeeds exactly on a TCB of the right form, whatever the TCB
and CPU SVN it starts from. -/
theorem readTcb_ok_iff {asn1 : Asn1Value} {tcb : Tcb} {cpuSvn : CpuSvn} :
    (∃ read, readTcb asn1 tcb cpuSvn = .ok read) ↔ TcbValueValid asn1 := by
  rw [TcbValueValid, ← tcbReadInfos_oids]
  exact readOidAnySequence_of_schema_ok_iff tcbReadInfos_required tcbReadInfos_reads
    (by simp [tcbReadInfos]) (by simp [tcbReadInfos, kTcbComponentsSize, kSizeMax])

/-- Each read function of `ReadSgxExtensions` succeeds exactly on the values
of its form. -/
theorem sgxExtensionsReadInfos_reads : ∀ entry ∈ sgxExtensionsReadInfos, ∀ asn1 extensions,
    (∃ extensions', entry.2.readFunction asn1 extensions = .ok extensions') ↔ SgxExtensionValueValid entry.1 asn1 := by
  intro entry member asn1 extensions
  simp only [sgxExtensionsReadInfos, List.mem_cons, List.mem_nil_iff, or_false] at member
  rcases member with rfl | rfl | rfl | rfl | rfl
  · simp only [readPpidExtension_eq, Except.exists_map_eq_ok, readOctetStringWithSize_ok_iff]
    simp [SgxExtensionValueValid]
  · simp only [readTcbExtension_eq, Except.exists_map_eq_ok, readTcb_ok_iff]
    simp [SgxExtensionValueValid, SgxOids.tcb, SgxOids.ppid]
  · simp only [readPceIdExtension_eq, Except.exists_map_eq_ok, readOctetStringWithSize_ok_iff]
    simp [SgxExtensionValueValid, SgxOids.pceId, SgxOids.tcb, SgxOids.ppid]
  · simp only [readFmspcExtension_eq, Except.exists_map_eq_ok, readOctetStringWithSize_ok_iff]
    simp [SgxExtensionValueValid, SgxOids.fmspc, SgxOids.pceId, SgxOids.tcb, SgxOids.ppid]
  · simp only [readSgxTypeExtension_eq, Except.exists_map_eq_ok, getEnumeratedAsInt_fromRawSgxType_ok_iff]
    simp [SgxExtensionValueValid, SgxOids.sgxType, SgxOids.fmspc, SgxOids.pceId, SgxOids.tcb, SgxOids.ppid]

/-- `ReadSgxExtensions` of a sequence of pairs succeeds exactly when each
extension occurs once, no other OID occurs, and each value has its form. -/
theorem readSgxExtensions_ok_iff (pairs : List (ObjectId × Asn1Value)) :
    (∃ extensions, readSgxExtensions (oidAnySequenceValue pairs) = .ok extensions) ↔
      PairsMatch sgxExtensionsOids SgxExtensionValueValid pairs := by
  have valid : (∃ extensions, readSgxExtensions (oidAnySequenceValue pairs) = .ok extensions) ↔
      ∃ pairs', oidAnySequenceValue pairs = oidAnySequenceValue pairs' ∧
        PairsMatch sgxExtensionsOids SgxExtensionValueValid pairs' :=
    readOidAnySequence_of_schema_ok_iff sgxExtensionsReadInfos_required sgxExtensionsReadInfos_reads
      (by simp [sgxExtensionsReadInfos]) (by simp [sgxExtensionsReadInfos, kSizeMax])
  refine valid.trans ⟨?_, fun matched => ⟨pairs, rfl, matched⟩⟩
  rintro ⟨pairs', same, matched⟩
  rwa [oidAnySequenceValue_injective same]

/-! ## The order of the pairs -/

/-- The read functions of `ReadTcb` write different parts of the TCB and CPU
SVN: the component SVNs different bytes of the components. -/
theorem tcbReadInfos_commute : ReadFunctionsCommute tcbReadInfos := by
  intro first firstMember second secondMember different asn1 asn1'
  rcases mem_tcbReadInfos.mp firstMember with rfl | rfl | ⟨i, -, rfl⟩ <;>
    rcases mem_tcbReadInfos.mp secondMember with rfl | rfl | ⟨j, -, rfl⟩
  all_goals dsimp only at different ⊢
  all_goals simp only [readTcbPceSvn_eq, readTcbCpuSvn_eq, readTcbComponent_eq]
  · exact absurd rfl different
  · exact Except.successCommute_of_independent (fun _ _ => rfl) (fun _ _ => rfl) (fun _ _ _ => rfl)
  · exact Except.successCommute_of_independent (fun _ _ => rfl) (fun _ _ => rfl) (fun _ _ _ => rfl)
  · exact Except.successCommute_of_independent (fun _ _ => rfl) (fun _ _ => rfl) (fun _ _ _ => rfl)
  · exact absurd rfl different
  · exact Except.successCommute_of_independent (fun _ _ => rfl) (fun _ _ => rfl) (fun _ _ _ => rfl)
  · exact Except.successCommute_of_independent (fun _ _ => rfl) (fun _ _ => rfl) (fun _ _ _ => rfl)
  · exact Except.successCommute_of_independent (fun _ _ => rfl) (fun _ _ => rfl) (fun _ _ _ => rfl)
  · -- two component SVNs: the indices differ, so the two writes commute
    have indices : i ≠ j := fun same => different (same ▸ rfl)
    refine Except.successCommute_of_independent (fun _ _ => rfl) (fun _ _ => rfl) ?_
    intro x y state
    simp [Tcb.componentBytes, List.set_comm _ _ indices]

/-- The read functions of `ReadSgxExtensions` write different fields of the
record, and the TCB's reads only fields it writes itself. -/
theorem sgxExtensionsReadInfos_commute : ReadFunctionsCommute sgxExtensionsReadInfos := by
  intro first firstMember second secondMember different asn1 asn1'
  simp only [sgxExtensionsReadInfos, List.mem_cons, List.mem_nil_iff, or_false] at firstMember secondMember
  rcases firstMember with rfl | rfl | rfl | rfl | rfl <;> rcases secondMember with rfl | rfl | rfl | rfl | rfl <;>
    first
    | exact absurd rfl different
    | (simp only [readPpidExtension_eq, readTcbExtension_eq, readPceIdExtension_eq, readFmspcExtension_eq,
        readSgxTypeExtension_eq]
       exact Except.successCommute_of_independent (fun _ _ => rfl) (fun _ _ => rfl) (fun _ _ _ => rfl))

/-- A successful `ReadTcb` gives the same TCB and CPU SVN for every order of
the pairs. -/
theorem readTcb_perm {pairs pairs' : List (ObjectId × Asn1Value)} (perm : pairs.Perm pairs') {tcb : Tcb}
    {cpuSvn : CpuSvn} {read : Tcb × CpuSvn} (done : readTcb (oidAnySequenceValue pairs) tcb cpuSvn = .ok read) :
    readTcb (oidAnySequenceValue pairs') tcb cpuSvn = .ok read := by
  obtain ⟨sequence, schemaRead, rest⟩ := Except.bind_eq_ok.mp done
  obtain ⟨same, nonempty, small⟩ := oidAnySequenceSchema_read_eq_ok.mp schemaRead
  obtain rfl := oidAnySequenceValue_injective same
  have schemaRead' : oidAnySequenceSchema.read (oidAnySequenceValue pairs') = .ok pairs' :=
    oidAnySequenceSchema_read_eq_ok.mpr ⟨rfl, perm.length_eq ▸ nonempty, perm.length_eq ▸ small⟩
  show (oidAnySequenceSchema.read (oidAnySequenceValue pairs') >>= _) = _
  rw [schemaRead']
  exact readOidAnySequence_perm tcbReadInfos_commute perm rest

/-- A successful `ReadSgxExtensions` gives the same record for every order of
the extensions. -/
theorem readSgxExtensions_perm {pairs pairs' : List (ObjectId × Asn1Value)} (perm : pairs.Perm pairs')
    {extensions : SgxExtensions} (done : readSgxExtensions (oidAnySequenceValue pairs) = .ok extensions) :
    readSgxExtensions (oidAnySequenceValue pairs') = .ok extensions := by
  obtain ⟨sequence, schemaRead, rest⟩ := Except.bind_eq_ok.mp done
  obtain ⟨same, nonempty, small⟩ := oidAnySequenceSchema_read_eq_ok.mp schemaRead
  obtain rfl := oidAnySequenceValue_injective same
  have schemaRead' : oidAnySequenceSchema.read (oidAnySequenceValue pairs') = .ok pairs' :=
    oidAnySequenceSchema_read_eq_ok.mpr ⟨rfl, perm.length_eq ▸ nonempty, perm.length_eq ▸ small⟩
  show (oidAnySequenceSchema.read (oidAnySequenceValue pairs') >>= _) = _
  rw [schemaRead']
  exact readOidAnySequence_perm sgxExtensionsReadInfos_commute perm rest

/-- A successful `ReadSgxExtensions` gives the same record for every order of
the pairs of the TCB. -/
theorem readSgxExtensions_tcb_perm {before after : List (ObjectId × Asn1Value)} {tcbPairs tcbPairs' : List (ObjectId × Asn1Value)}
    (perm : tcbPairs.Perm tcbPairs') {extensions : SgxExtensions}
    (done : readSgxExtensions (oidAnySequenceValue (before ++ (SgxOids.tcb, oidAnySequenceValue tcbPairs) :: after)) =
      .ok extensions) :
    readSgxExtensions (oidAnySequenceValue (before ++ (SgxOids.tcb, oidAnySequenceValue tcbPairs') :: after)) =
      .ok extensions := by
  obtain ⟨sequence, schemaRead, rest⟩ := Except.bind_eq_ok.mp done
  obtain ⟨same, nonempty, small⟩ := oidAnySequenceSchema_read_eq_ok.mp schemaRead
  obtain rfl := oidAnySequenceValue_injective same
  have schemaRead' : oidAnySequenceSchema.read
      (oidAnySequenceValue (before ++ (SgxOids.tcb, oidAnySequenceValue tcbPairs') :: after)) =
        .ok (before ++ (SgxOids.tcb, oidAnySequenceValue tcbPairs') :: after) :=
    oidAnySequenceSchema_read_eq_ok.mpr ⟨rfl, by simpa using nonempty, by simpa using small⟩
  show (oidAnySequenceSchema.read _ >>= _) = _
  rw [schemaRead']
  refine readOidAnySequence_replace ?_ rest
  intro record record' step
  have found : sgxExtensionsReadInfos.lookup SgxOids.tcb = some ⟨readTcbExtension, .REQUIRED⟩ := rfl
  simp only [applyReadFunction, found, readTcbExtension_eq] at step ⊢
  obtain ⟨read, tcbRead, rfl⟩ := Except.map_eq_ok.mp step
  rw [readTcb_perm perm tcbRead]
  rfl

/-! ## Writing and reading back -/

theorem validateFixedSizeValue_eq_ok {value : Option (List UInt8)} {size : Nat} {missingMessage sizeMessage : String} :
    validateFixedSizeValue value size missingMessage sizeMessage = .ok () ↔
      ∃ bytes, value = some bytes ∧ bytes.length = size := by
  cases value with
  | none => simp [validateFixedSizeValue]
  | some bytes => by_cases sized : bytes.length = size <;> simp [validateFixedSizeValue, sized]

theorem validatePceId_eq_ok {pceId : PceId} :
    validatePceId pceId = .ok () ↔ ∃ value, pceId.value = some value ∧ value ≤ kPceIdMaxValue := by
  obtain ⟨value⟩ := pceId
  cases value with
  | none => simp [validatePceId]
  | some value =>
    by_cases large : value > kPceIdMaxValue
    · simp [validatePceId, large]
    · simp [validatePceId, large, UInt32.not_lt.mp large]

/-- What `ValidateSgxExtensions` accepts: every message set, the PPID, CPU
SVN, FMSPC and components of their sizes, the PCE ID and PCE SVN within 16
bits, and the SGX type `STANDARD`. -/
theorem validateSgxExtensions_ok {extensions : SgxExtensions} (valid : validateSgxExtensions extensions = .ok ()) :
    ∃ ppid components pceSvn cpuSvn pceId fmspc,
      extensions = ⟨⟨some ppid⟩, ⟨some components, some ⟨some pceSvn⟩⟩, ⟨some cpuSvn⟩, ⟨some pceId⟩, ⟨some fmspc⟩,
        .standard⟩ ∧
      ppid.length = kPpidSize ∧ components.length = kTcbComponentsSize ∧ pceSvn ≤ kPceSvnMaxValue ∧
      cpuSvn.length = kCpusvnSize ∧ pceId ≤ kPceIdMaxValue ∧ fmspc.length = kFmspcSize := by
  obtain ⟨ppidValid, valid⟩ := Except.bind_unit_eq_ok.mp valid
  obtain ⟨tcbValid, valid⟩ := Except.bind_unit_eq_ok.mp valid
  obtain ⟨cpuSvnValid, valid⟩ := Except.bind_unit_eq_ok.mp valid
  obtain ⟨pceIdValid, valid⟩ := Except.bind_unit_eq_ok.mp valid
  obtain ⟨fmspcValid, typeValid⟩ := Except.bind_unit_eq_ok.mp valid
  obtain ⟨ppid, ppidSome, ppidSized⟩ := validateFixedSizeValue_eq_ok.mp ppidValid
  obtain ⟨components, pceSvn, tcbSome, componentsSized, small⟩ := validateTcb_ok tcbValid
  obtain ⟨cpuSvn, cpuSvnSome, cpuSvnSized⟩ := validateFixedSizeValue_eq_ok.mp cpuSvnValid
  obtain ⟨pceId, pceIdSome, pceIdSmall⟩ := validatePceId_eq_ok.mp pceIdValid
  obtain ⟨fmspc, fmspcSome, fmspcSized⟩ := validateFixedSizeValue_eq_ok.mp fmspcValid
  refine ⟨ppid, components, pceSvn, cpuSvn, pceId, fmspc, ?_, ppidSized, componentsSized, small, cpuSvnSized,
    pceIdSmall, fmspcSized⟩
  obtain ⟨⟨ppidValue⟩, tcb, ⟨cpuSvnValue⟩, ⟨pceIdValue⟩, ⟨fmspcValue⟩, sgxType⟩ := extensions
  -- the unknown SGX type is the one `ValidateSgxExtensions` refuses last
  cases sgxType with
  | sgxTypeUnknown => cases typeValid
  | standard =>
    dsimp only at ppidSome tcbSome cpuSvnSome pceIdSome fmspcSome
    subst ppidSome tcbSome cpuSvnSome pceIdSome fmspcSome
    rfl

/-- The pairs `WriteTcb` writes: the component SVNs, the PCE SVN and the CPU
SVN. -/
def writtenTcbPairs (tcb : Tcb) (cpuSvn : CpuSvn) : List (ObjectId × Asn1Value) :=
  (List.range kTcbComponentsSize).map (fun i => (SgxOids.sgxTcbCompSvns i, .integer (tcb.componentBytes.getD i 0).toNat)) ++
    [(SgxOids.pceSvn, .integer (tcb.pceSvnValue.toNat % 65536)), (SgxOids.cpuSvn, .octetString (cpuSvn.value.getD []))]

theorem writeTcb_eq (tcb : Tcb) (cpuSvn : CpuSvn) :
    writeTcb tcb cpuSvn = .ok (oidAnySequenceValue (writtenTcbPairs tcb cpuSvn)) := by
  have components : (List.range kTcbComponentsSize).mapM (fun i => do
      let asn1 ← Asn1Value.createIntegerFromInt (tcb.componentBytes.getD i 0).toNat
      return (SgxOids.sgxTcbCompSvns i, asn1)) =
        .ok ((List.range kTcbComponentsSize).map fun i =>
          (SgxOids.sgxTcbCompSvns i, .integer (tcb.componentBytes.getD i 0).toNat)) :=
    Except.mapM_eq_ok_map fun _ _ => rfl
  have written : oidAnySequenceSchema.write (writtenTcbPairs tcb cpuSvn) =
      .ok (oidAnySequenceValue (writtenTcbPairs tcb cpuSvn)) :=
    oidAnySequenceSchema_write_of_length (by simp [writtenTcbPairs])
      (by simp [writtenTcbPairs, kTcbComponentsSize, kSizeMax])
  unfold writeTcb
  rw [components]
  exact written

theorem writtenTcbPairs_keys (tcb : Tcb) (cpuSvn : CpuSvn) :
    (writtenTcbPairs tcb cpuSvn).map Prod.fst =
      (List.range kTcbComponentsSize).map SgxOids.sgxTcbCompSvns ++ [SgxOids.pceSvn, SgxOids.cpuSvn] := by
  simp [writtenTcbPairs, Function.comp_def]

theorem tcbOids_nodup : tcbOids.Nodup := by decide

theorem lookup_sgxTcbCompSvns {i : Nat} (within : i < kTcbComponentsSize) :
    tcbReadInfos.lookup (SgxOids.sgxTcbCompSvns i) = some ⟨readTcbComponent i, .REQUIRED⟩ := by
  apply List.lookup_eq_some_of_mem
  · rw [tcbReadInfos_oids]
    exact tcbOids_nodup
  · exact mem_tcbReadInfos.mpr (Or.inr (Or.inr ⟨i, within, rfl⟩))

/-- Writing byte `n` of `written` over a list that has the first `n` bytes
of `written` and then the bytes of `slots` from `n` on. -/
theorem set_take_append_drop {written slots : List UInt8} {n : Nat} (inWritten : n < written.length)
    (inSlots : n < slots.length) :
    (written.take n ++ slots.drop n).set n written[n] = written.take (n + 1) ++ slots.drop (n + 1) := by
  have prefixLength : (written.take n).length = n := by simp only [List.length_take]; omega
  rw [List.set_append_right _ _ (by omega), prefixLength, Nat.sub_self, List.drop_eq_getElem_cons inSlots,
    List.set_cons_zero, List.take_succ_eq_append_getElem inWritten, List.append_assoc]
  rfl

/-- Reading the component SVNs `0` to `n - 1` that `WriteTcb` wrote puts the
written bytes in front of the slots the read started from; the induction is
on `n`, one component at a time. -/
theorem applyReadFunctions_components {components slots : List UInt8}
    (componentsSized : components.length = kTcbComponentsSize) (slotsSized : slots.length = kTcbComponentsSize)
    (pceSvn : Option PceSvn) (cpuSvn : CpuSvn) (n : Nat) (within : n ≤ kTcbComponentsSize) :
    applyReadFunctions tcbReadInfos (⟨some slots, pceSvn⟩, cpuSvn)
        ((List.range n).map fun i => (SgxOids.sgxTcbCompSvns i, .integer (components.getD i 0).toNat)) =
      .ok (⟨some (components.take n ++ slots.drop n), pceSvn⟩, cpuSvn) := by
  induction n with
  | zero => simp [applyReadFunctions, pure, Except.pure]
  | succ n ih =>
    have inComponents : n < components.length := by omega
    have inSlots : n < slots.length := by omega
    have fits : ((components.getD n 0).toNat : Int) ≤ 255 := by
      have byteBound := (components.getD n 0).toNat_lt
      omega
    have gotten : (Asn1Value.integer ((components.getD n 0).toNat : Int)).getIntegerAsInt 0 255 =
        .ok ((components.getD n 0).toNat : Int) := getIntegerAsInt_eq_ok.mpr ⟨rfl, by omega, fits⟩
    have getD : components.getD n 0 = components[n] := by
      simp [List.getD_eq_getElem?_getD, inComponents]
    have byte : (((components.getD n 0).toNat : Int).toNat).toUInt8 = components[n] := by
      rw [Int.toNat_natCast, getD]
      exact UInt8.ofNat_toNat
    have step : applyReadFunction tcbReadInfos (⟨some (components.take n ++ slots.drop n), pceSvn⟩, cpuSvn)
        (SgxOids.sgxTcbCompSvns n, .integer (components.getD n 0).toNat) =
          .ok (⟨some (components.take (n + 1) ++ slots.drop (n + 1)), pceSvn⟩, cpuSvn) := by
      simp only [applyReadFunction, lookup_sgxTcbCompSvns (show n < kTcbComponentsSize by omega), readTcbComponent_eq,
        gotten]
      show Except.ok _ = _
      simp only [Tcb.componentBytes, Option.getD_some, byte, set_take_append_drop inComponents inSlots]
    rw [List.range_succ, List.map_append, applyReadFunctions, List.foldlM_append, ← applyReadFunctions,
      ih (by omega)]
    show List.foldlM (applyReadFunction tcbReadInfos) (⟨some (components.take n ++ slots.drop n), pceSvn⟩, cpuSvn)
      [(SgxOids.sgxTcbCompSvns n, .integer (components.getD n 0).toNat)] = _
    rw [List.foldlM_cons, step]
    rfl

@[simp] theorem Tcb.componentBytes_some (components : List UInt8) (pceSvn : Option PceSvn) :
    (⟨some components, pceSvn⟩ : Tcb).componentBytes = components := rfl

@[simp] theorem Tcb.pceSvnValue_some (components : Option (List UInt8)) (pceSvn : UInt32) :
    (⟨components, some ⟨some pceSvn⟩⟩ : Tcb).pceSvnValue = pceSvn := rfl

/-- `ReadTcb` reads back the TCB and CPU SVN that `WriteTcb` wrote, whatever
TCB and CPU SVN it starts from: the sixteen components fill the sixteen slots
it makes. -/
theorem readTcb_writtenTcbPairs {components : List UInt8} {pceSvn : UInt32} {cpuSvn : List UInt8}
    (componentsSized : components.length = kTcbComponentsSize) (small : pceSvn ≤ kPceSvnMaxValue)
    (cpuSvnSized : cpuSvn.length = kCpusvnSize) (tcb : Tcb) (cpuSvn₀ : CpuSvn) :
    readTcb (oidAnySequenceValue (writtenTcbPairs ⟨some components, some ⟨some pceSvn⟩⟩ ⟨some cpuSvn⟩)) tcb cpuSvn₀ =
      .ok (⟨some components, some ⟨some pceSvn⟩⟩, ⟨some cpuSvn⟩) := by
  have schemaRead : oidAnySequenceSchema.read
      (oidAnySequenceValue (writtenTcbPairs ⟨some components, some ⟨some pceSvn⟩⟩ ⟨some cpuSvn⟩)) =
        .ok (writtenTcbPairs ⟨some components, some ⟨some pceSvn⟩⟩ ⟨some cpuSvn⟩) :=
    oidAnySequenceSchema_read_eq_ok.mpr ⟨rfl, by simp [writtenTcbPairs],
      by simp [writtenTcbPairs, kTcbComponentsSize, kSizeMax]⟩
  -- the component SVNs come first, then the two OIDs the table lists first
  have keysPerm : ((writtenTcbPairs ⟨some components, some ⟨some pceSvn⟩⟩ ⟨some cpuSvn⟩).map Prod.fst).Perm
      (tcbReadInfos.map Prod.fst) := by
    rw [writtenTcbPairs_keys, tcbReadInfos_oids, tcbOids]
    exact List.perm_append_comm
  have slotsSized : (resizeBytes tcb.componentBytes kTcbComponentsSize).length = kTcbComponentsSize := by
    simp only [resizeBytes, List.length_append, List.length_take, List.length_replicate]
    omega
  have componentsRead := applyReadFunctions_components componentsSized slotsSized tcb.pceSvn cpuSvn₀
    kTcbComponentsSize (Nat.le_refl _)
  have filled : components.take kTcbComponentsSize ++
      (resizeBytes tcb.componentBytes kTcbComponentsSize).drop kTcbComponentsSize = components := by
    rw [List.drop_eq_nil_of_le (by omega), List.append_nil, List.take_of_length_le (by omega)]
  have bound : pceSvn.toNat ≤ 65535 := UInt32.le_iff_toNat_le.mp small
  have pceGotten : (Asn1Value.integer ((pceSvn.toNat : Int) % 65536)).getIntegerAsInt 0 65535 =
      .ok ((pceSvn.toNat : Int) % 65536) := getIntegerAsInt_eq_ok.mpr ⟨rfl, by omega, by omega⟩
  have pceValue : (((pceSvn.toNat : Int) % 65536).toNat).toUInt32 = pceSvn := by
    rw [show ((pceSvn.toNat : Int) % 65536) = pceSvn.toNat by omega, Int.toNat_natCast]
    exact UInt32.ofNat_toNat
  have cpuSvnGotten : readOctetStringWithSize (.octetString cpuSvn) kCpusvnSize = .ok cpuSvn :=
    readOctetStringWithSize_eq_ok.mpr ⟨rfl, cpuSvnSized⟩
  have pceLookup : tcbReadInfos.lookup SgxOids.pceSvn = some ⟨readTcbPceSvn, .REQUIRED⟩ := rfl
  have cpuSvnLookup : tcbReadInfos.lookup SgxOids.cpuSvn = some ⟨readTcbCpuSvn, .REQUIRED⟩ := rfl
  show (oidAnySequenceSchema.read _ >>= _) = _
  rw [schemaRead, Except.ok_bind]
  refine readOidAnySequence_eq_ok_of_keys (keysPerm.nodup_iff.mpr (tcbReadInfos_oids ▸ tcbOids_nodup))
    (fun oid => keysPerm.mem_iff) ?_
  rw [writtenTcbPairs, applyReadFunctions, List.foldlM_append, ← applyReadFunctions]
  simp only [Tcb.componentBytes_some, Tcb.pceSvnValue_some]
  rw [componentsRead, Except.ok_bind, filled]
  simp only [List.foldlM_cons, List.foldlM_nil, applyReadFunction, pceLookup, cpuSvnLookup, readTcbPceSvn_eq,
    readTcbCpuSvn_eq, pceGotten, cpuSvnGotten, Except.map_ok, Except.ok_bind, pceValue, Option.getD_some]
  rfl

/-- The pairs `WriteSgxExtensions` writes for extensions of the SGX type
`STANDARD`. -/
def writtenSgxExtensionsPairs (extensions : SgxExtensions) : List (ObjectId × Asn1Value) :=
  [(SgxOids.ppid, .octetString (extensions.ppid.value.getD [])),
    (SgxOids.tcb, oidAnySequenceValue (writtenTcbPairs extensions.tcb extensions.cpuSvn)),
    (SgxOids.pceId, .octetString (LittleEndian.encode 2 (extensions.pceId.value.getD 0).toNat)),
    (SgxOids.fmspc, .octetString (extensions.fmspc.value.getD [])),
    (SgxOids.sgxType, .enumerated 0)]

theorem writeSgxExtensions_eq {extensions : SgxExtensions} (valid : validateSgxExtensions extensions = .ok ())
    (standard : extensions.sgxType = .standard) :
    writeSgxExtensions extensions = .ok (oidAnySequenceValue (writtenSgxExtensionsPairs extensions)) := by
  have written : oidAnySequenceSchema.write (writtenSgxExtensionsPairs extensions) =
      .ok (oidAnySequenceValue (writtenSgxExtensionsPairs extensions)) :=
    oidAnySequenceSchema_write_of_length (by simp [writtenSgxExtensionsPairs])
      (by simp [writtenSgxExtensionsPairs, kSizeMax])
  unfold writeSgxExtensions
  rw [valid, Except.ok_bind, standard]
  simp only [toRawSgxType, Except.ok_bind, writeTcb_eq, Asn1Value.createOctetString,
    Asn1Value.createEnumeratedFromInt]
  exact written

/-- `ReadSgxExtensions` reads back the extensions `WriteSgxExtensions` wrote:
each read function gets the value its field was written as. -/
theorem readSgxExtensions_writtenSgxExtensionsPairs {ppid components : List UInt8} {pceSvn : UInt32}
    {cpuSvn : List UInt8} {pceId : UInt32} {fmspc : List UInt8} (ppidSized : ppid.length = kPpidSize)
    (componentsSized : components.length = kTcbComponentsSize) (small : pceSvn ≤ kPceSvnMaxValue)
    (cpuSvnSized : cpuSvn.length = kCpusvnSize) (pceIdSmall : pceId ≤ kPceIdMaxValue)
    (fmspcSized : fmspc.length = kFmspcSize) :
    readSgxExtensions (oidAnySequenceValue (writtenSgxExtensionsPairs
        ⟨⟨some ppid⟩, ⟨some components, some ⟨some pceSvn⟩⟩, ⟨some cpuSvn⟩, ⟨some pceId⟩, ⟨some fmspc⟩, .standard⟩)) =
      .ok ⟨⟨some ppid⟩, ⟨some components, some ⟨some pceSvn⟩⟩, ⟨some cpuSvn⟩, ⟨some pceId⟩, ⟨some fmspc⟩, .standard⟩ := by
  have schemaRead : oidAnySequenceSchema.read (oidAnySequenceValue (writtenSgxExtensionsPairs
      ⟨⟨some ppid⟩, ⟨some components, some ⟨some pceSvn⟩⟩, ⟨some cpuSvn⟩, ⟨some pceId⟩, ⟨some fmspc⟩, .standard⟩)) =
        .ok (writtenSgxExtensionsPairs
          ⟨⟨some ppid⟩, ⟨some components, some ⟨some pceSvn⟩⟩, ⟨some cpuSvn⟩, ⟨some pceId⟩, ⟨some fmspc⟩, .standard⟩) :=
    oidAnySequenceSchema_read_eq_ok.mpr ⟨rfl, by simp [writtenSgxExtensionsPairs],
      by simp [writtenSgxExtensionsPairs, kSizeMax]⟩
  -- the pairs are written in the order of the table
  have keys : (writtenSgxExtensionsPairs
      ⟨⟨some ppid⟩, ⟨some components, some ⟨some pceSvn⟩⟩, ⟨some cpuSvn⟩, ⟨some pceId⟩, ⟨some fmspc⟩, .standard⟩).map
        Prod.fst = sgxExtensionsReadInfos.map Prod.fst := rfl
  have distinct : (sgxExtensionsReadInfos.map Prod.fst).Nodup := by decide
  have pceIdBound : pceId.toNat < 256 ^ 2 := by
    have bounded := UInt32.le_iff_toNat_le.mp pceIdSmall
    simp only [kPceIdMaxValue, UInt32.reduceToNat] at bounded
    omega
  have pceIdValue : (LittleEndian.decode (LittleEndian.encode 2 pceId.toNat)).toUInt32 = pceId := by
    rw [LittleEndian.decode_encode_of_lt pceIdBound]
    exact UInt32.ofNat_toNat
  have ppidGotten : readOctetStringWithSize (.octetString ppid) kPpidSize = .ok ppid :=
    readOctetStringWithSize_eq_ok.mpr ⟨rfl, ppidSized⟩
  have pceIdGotten : readOctetStringWithSize (.octetString (LittleEndian.encode 2 pceId.toNat)) 2 =
      .ok (LittleEndian.encode 2 pceId.toNat) :=
    readOctetStringWithSize_eq_ok.mpr ⟨rfl, LittleEndian.length_encode 2 _⟩
  have fmspcGotten : readOctetStringWithSize (.octetString fmspc) kFmspcSize = .ok fmspc :=
    readOctetStringWithSize_eq_ok.mpr ⟨rfl, fmspcSized⟩
  have sgxTypeGotten : ((Asn1Value.enumerated 0).getEnumeratedAsInt 0 255 >>= fromRawSgxType) = .ok .standard := rfl
  have ppidLookup : sgxExtensionsReadInfos.lookup SgxOids.ppid = some ⟨readPpidExtension, .REQUIRED⟩ := rfl
  have tcbLookup : sgxExtensionsReadInfos.lookup SgxOids.tcb = some ⟨readTcbExtension, .REQUIRED⟩ := rfl
  have pceIdLookup : sgxExtensionsReadInfos.lookup SgxOids.pceId = some ⟨readPceIdExtension, .REQUIRED⟩ := rfl
  have fmspcLookup : sgxExtensionsReadInfos.lookup SgxOids.fmspc = some ⟨readFmspcExtension, .REQUIRED⟩ := rfl
  have sgxTypeLookup : sgxExtensionsReadInfos.lookup SgxOids.sgxType = some ⟨readSgxTypeExtension, .REQUIRED⟩ := rfl
  show (oidAnySequenceSchema.read _ >>= _) = _
  rw [schemaRead, Except.ok_bind]
  refine readOidAnySequence_eq_ok_of_keys (keys ▸ distinct) (fun oid => by rw [keys]) ?_
  simp only [writtenSgxExtensionsPairs, applyReadFunctions, List.foldlM_cons, List.foldlM_nil, applyReadFunction,
    ppidLookup, tcbLookup, pceIdLookup, fmspcLookup, sgxTypeLookup, readPpidExtension_eq, readTcbExtension_eq,
    readPceIdExtension_eq, readFmspcExtension_eq, readSgxTypeExtension_eq, Option.getD_some, ppidGotten,
    readTcb_writtenTcbPairs componentsSized small cpuSvnSized, pceIdGotten, fmspcGotten, sgxTypeGotten,
    Except.map_ok, Except.ok_bind, pceIdValue]
  rfl

/-- Every record that `ValidateSgxExtensions` accepts is written, and reads
back as itself. -/
theorem readSgxExtensions_writeSgxExtensions {extensions : SgxExtensions}
    (valid : validateSgxExtensions extensions = .ok ()) :
    ∃ asn1, writeSgxExtensions extensions = .ok asn1 ∧ readSgxExtensions asn1 = .ok extensions := by
  obtain ⟨ppid, components, pceSvn, cpuSvn, pceId, fmspc, rfl, ppidSized, componentsSized, small, cpuSvnSized,
    pceIdSmall, fmspcSized⟩ := validateSgxExtensions_ok valid
  exact ⟨_, writeSgxExtensions_eq valid rfl,
    readSgxExtensions_writtenSgxExtensionsPairs ppidSized componentsSized small cpuSvnSized pceIdSmall fmspcSized⟩

/-- The codec of the SGX extensions. `ReadSgxExtensions` gives back every
record `ValidateSgxExtensions` accepts from what `WriteSgxExtensions` writes
for it. On a SEQUENCE of pairs it succeeds exactly when each extension occurs
once, no other OID occurs and each value has its form, the TCB's being a
sequence that matches the TCB's table in the same way. What it returns then
does not depend on the order of the pairs, at the top level or in the TCB. -/
theorem sgx_extensions_codec :
    (∀ extensions : SgxExtensions, validateSgxExtensions extensions = .ok () →
      ∃ asn1, writeSgxExtensions extensions = .ok asn1 ∧ readSgxExtensions asn1 = .ok extensions) ∧
    (∀ pairs : List (ObjectId × Asn1Value),
      (∃ extensions, readSgxExtensions (oidAnySequenceValue pairs) = .ok extensions) ↔
        PairsMatch sgxExtensionsOids SgxExtensionValueValid pairs) ∧
    (∀ (pairs pairs' : List (ObjectId × Asn1Value)) (extensions : SgxExtensions), pairs.Perm pairs' →
      readSgxExtensions (oidAnySequenceValue pairs) = .ok extensions →
        readSgxExtensions (oidAnySequenceValue pairs') = .ok extensions) ∧
    (∀ (before after tcbPairs tcbPairs' : List (ObjectId × Asn1Value)) (extensions : SgxExtensions),
      tcbPairs.Perm tcbPairs' →
      readSgxExtensions (oidAnySequenceValue (before ++ (SgxOids.tcb, oidAnySequenceValue tcbPairs) :: after)) =
          .ok extensions →
        readSgxExtensions (oidAnySequenceValue (before ++ (SgxOids.tcb, oidAnySequenceValue tcbPairs') :: after)) =
          .ok extensions) :=
  ⟨fun _ valid => readSgxExtensions_writeSgxExtensions valid, readSgxExtensions_ok_iff,
    fun _ _ _ perm done => readSgxExtensions_perm perm done,
    fun _ _ _ _ _ perm done => readSgxExtensions_tcb_perm perm done⟩

/-- A record with every field set and of its size. -/
theorem sgx_extensions_codec_sample :
    validateSgxExtensions ⟨⟨some (List.replicate 16 1)⟩, ⟨some (List.replicate 16 2), some ⟨some 7⟩⟩,
        ⟨some (List.replicate 16 3)⟩, ⟨some 5⟩, ⟨some (List.replicate 6 4)⟩, .standard⟩ = .ok () ∧
      ∃ asn1, writeSgxExtensions ⟨⟨some (List.replicate 16 1)⟩, ⟨some (List.replicate 16 2), some ⟨some 7⟩⟩,
          ⟨some (List.replicate 16 3)⟩, ⟨some 5⟩, ⟨some (List.replicate 6 4)⟩, .standard⟩ = .ok asn1 ∧
        readSgxExtensions asn1 = .ok ⟨⟨some (List.replicate 16 1)⟩, ⟨some (List.replicate 16 2), some ⟨some 7⟩⟩,
          ⟨some (List.replicate 16 3)⟩, ⟨some 5⟩, ⟨some (List.replicate 6 4)⟩, .standard⟩ :=
  ⟨rfl, sgx_extensions_codec.1 _ rfl⟩

/-- The failure of a read lists its errors in the order of the pairs: a PPID
and an FMSPC of one byte each fail with different messages in the two
orders. -/
theorem sgx_extensions_error_depends_on_order :
    readSgxExtensions (oidAnySequenceValue [(SgxOids.ppid, .octetString [0]), (SgxOids.fmspc, .octetString [0])]) ≠
      readSgxExtensions (oidAnySequenceValue [(SgxOids.fmspc, .octetString [0]), (SgxOids.ppid, .octetString [0])]) := by
  decide

end Asylo.Provisioning
