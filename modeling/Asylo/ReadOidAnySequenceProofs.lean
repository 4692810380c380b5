import Asylo.PckCertificateUtil
import Asylo.ExceptLemmas
import Asylo.ListLookup

/-! What `ReadOidAnySequence` accepts, for any table of read functions. It
succeeds exactly when the OIDs of the pairs are distinct and in the table,
every required OID occurs, and the read functions of the pairs, one after the
other, succeed; the record is then what they made of it. The loop only ever
adds errors, so a run that ends with none took the succeeding branch in every
round. When the read functions of any two OIDs succeed in either order to the
same record, a successful read does not depend on the order of the pairs. -/
namespace Asylo.Provisioning

variable {σ : Type} {readInfos : List (ObjectId × ReadInfo σ)}

/-- The read function of a pair on the record; a pair of an OID not in the
table leaves the record. -/
def applyReadFunction (readInfos : List (ObjectId × ReadInfo σ)) (target : σ) (pair : ObjectId × Asn1Value) :
    StatusOr σ :=
  match readInfos.lookup pair.1 with
  | some readInfo => readInfo.readFunction pair.2 target
  | none => .ok target

/-- The read functions of the pairs, one after the other. -/
def applyReadFunctions (readInfos : List (ObjectId × ReadInfo σ)) (target : σ)
    (sequence : List (ObjectId × Asn1Value)) : StatusOr σ :=
  sequence.foldlM (applyReadFunction readInfos) target

/-! ## One round -/

theorem readOidAnySequenceStep_errors {state state' : ReadState σ} {pair : ObjectId × Asn1Value}
    (step : readOidAnySequenceStep readInfos state pair = .ok state') : state.errors <+: state'.errors := by
  obtain ⟨oid, asn1⟩ := pair
  simp only [readOidAnySequenceStep] at step
  split at step
  · cases step
    exact List.prefix_append _ _
  · split at step
    · cases step
      exact List.prefix_append _ _
    · split at step
      · cases step
        exact List.prefix_refl _
      · split at step
        · cases step
          exact List.prefix_append _ _
        · cases step

/-- A round that adds no error met a new OID of the table whose read function
succeeded. -/
theorem readOidAnySequenceStep_clean {state state' : ReadState σ} {oid : ObjectId} {asn1 : Asn1Value}
    (step : readOidAnySequenceStep readInfos state (oid, asn1) = .ok state') (clean : state'.errors = state.errors) :
    oid ∉ state.foundOids ∧ (∃ readInfo, readInfos.lookup oid = some readInfo) ∧
      applyReadFunction readInfos state.target (oid, asn1) = .ok state'.target ∧
      state'.foundOids = state.foundOids ++ [oid] := by
  simp only [readOidAnySequenceStep] at step
  split at step
  · cases step
    simp at clean
  · rename_i fresh
    split at step
    · cases step
      simp at clean
    · rename_i readInfo found
      split at step
      · rename_i target read
        cases step
        refine ⟨fresh, ⟨readInfo, found⟩, ?_, rfl⟩
        simpa [applyReadFunction, found] using read
      · split at step
        · cases step
          simp at clean
        · cases step

theorem readOidAnySequenceStep_of_read {state : ReadState σ} {oid : ObjectId} {asn1 : Asn1Value}
    {readInfo : ReadInfo σ} {target' : σ} (fresh : oid ∉ state.foundOids) (found : readInfos.lookup oid = some readInfo)
    (read : readInfo.readFunction asn1 state.target = .ok target') :
    readOidAnySequenceStep readInfos state (oid, asn1) = .ok ⟨state.foundOids ++ [oid], state.errors, target'⟩ := by
  simp [readOidAnySequenceStep, fresh, found, read, withContext]

/-! ## The whole loop -/

theorem foldlM_readOidAnySequenceStep_errors (sequence : List (ObjectId × Asn1Value)) {state state' : ReadState σ}
    (done : sequence.foldlM (readOidAnySequenceStep readInfos) state = .ok state') : state.errors <+: state'.errors :=
  Except.foldlM_invariant (fun later : ReadState σ => state.errors <+: later.errors)
    (fun _ _ _ before step => before.trans (readOidAnySequenceStep_errors step)) sequence (List.prefix_refl _) done

/-- A run of the loop that adds no error. -/
theorem foldlM_readOidAnySequenceStep_clean :
    ∀ {sequence : List (ObjectId × Asn1Value)} {state state' : ReadState σ},
      sequence.foldlM (readOidAnySequenceStep readInfos) state = .ok state' → state'.errors = state.errors →
        (sequence.map Prod.fst).Nodup ∧ (∀ oid ∈ sequence.map Prod.fst, oid ∉ state.foundOids) ∧
          (∀ pair ∈ sequence, pair.1 ∈ readInfos.map Prod.fst) ∧
          applyReadFunctions readInfos state.target sequence = .ok state'.target ∧
          state'.foundOids = state.foundOids ++ sequence.map Prod.fst := by
  intro sequence
  induction sequence with
  | nil =>
    intro state state' done _
    cases done
    simp [applyReadFunctions, pure, Except.pure]
  | cons pair rest ih =>
    intro state state' done clean
    obtain ⟨oid, asn1⟩ := pair
    rw [List.foldlM_cons] at done
    obtain ⟨middle, step, done⟩ := Except.bind_eq_ok.mp done
    -- errors only grow, so this round added none either
    have grown := readOidAnySequenceStep_errors step
    have laterGrown := (foldlM_readOidAnySequenceStep_errors rest done).length_le
    rw [clean] at laterGrown
    have middleClean : middle.errors = state.errors :=
      (grown.eq_of_length (Nat.le_antisymm grown.length_le laterGrown)).symm
    obtain ⟨fresh, ⟨readInfo, found⟩, read, middleFound⟩ := readOidAnySequenceStep_clean step middleClean
    obtain ⟨distinct, restFresh, known, reads, finalFound⟩ := ih done (clean.trans middleClean.symm)
    refine ⟨?_, ?_, ?_, ?_, ?_⟩
    · exact List.nodup_cons.mpr ⟨fun later => restFresh oid later (by simp [middleFound]), distinct⟩
    · intro other member
      rcases List.mem_cons.mp member with rfl | later
      · exact fresh
      · exact fun old => restFresh other later (by simp [middleFound, old])
    · intro other member
      rcases List.mem_cons.mp member with rfl | later
      · exact List.mem_keys_of_lookup_eq_some found
      · exact known other later
    · simp only [applyReadFunctions, List.foldlM_cons]
      rw [read]
      exact reads
    · simp [finalFound, middleFound]

/-- A run of the loop over new, distinct OIDs of the table whose read
functions succeed one after the other adds no error. -/
theorem foldlM_readOidAnySequenceStep_of_reads :
    ∀ {sequence : List (ObjectId × Asn1Value)} {state : ReadState σ} {target' : σ},
      (sequence.map Prod.fst).Nodup → (∀ oid ∈ sequence.map Prod.fst, oid ∉ state.foundOids) →
      (∀ pair ∈ sequence, pair.1 ∈ readInfos.map Prod.fst) →
      applyReadFunctions readInfos state.target sequence = .ok target' →
        sequence.foldlM (readOidAnySequenceStep readInfos) state =
          .ok ⟨state.foundOids ++ sequence.map Prod.fst, state.errors, target'⟩ := by
  intro sequence
  induction sequence with
  | nil =>
    intro state target' _ _ _ reads
    cases reads
    simp [pure, Except.pure]
  | cons pair rest ih =>
    intro state target' distinct fresh known reads
    obtain ⟨oid, asn1⟩ := pair
    obtain ⟨readInfo, found⟩ := List.exists_lookup_eq_some_of_mem (known _ List.mem_cons_self)
    simp only [applyReadFunctions, List.foldlM_cons] at reads
    obtain ⟨middle, read, reads⟩ := Except.bind_eq_ok.mp reads
    have read : readInfo.readFunction asn1 state.target = .ok middle := by
      simpa [applyReadFunction, found] using read
    simp only [List.map_cons, List.nodup_cons] at distinct
    have restFresh : ∀ other ∈ rest.map Prod.fst, other ∉ state.foundOids ++ [oid] := by
      intro other member
      simp only [List.mem_append, List.mem_singleton, not_or]
      exact ⟨fresh other (List.mem_cons_of_mem _ member), fun same => distinct.1 (same ▸ member)⟩
    have restRun := @ih ⟨state.foundOids ++ [oid], state.errors, middle⟩ target' distinct.2 restFresh
      (fun other member => known other (List.mem_cons_of_mem _ member)) reads
    rw [List.foldlM_cons, readOidAnySequenceStep_of_read (fresh oid List.mem_cons_self) found read]
    show List.foldlM _ (⟨state.foundOids ++ [oid], state.errors, middle⟩ : ReadState σ) rest = _
    simpa using restRun

theorem missingExtensionErrors_eq_nil {foundOids : List ObjectId} :
    missingExtensionErrors readInfos foundOids = [] ↔
      ∀ entry ∈ readInfos, entry.2.optionality = .REQUIRED → entry.1 ∈ foundOids := by
  simp [missingExtensionErrors, List.filterMap_eq_nil_iff]

/-- `ReadOidAnySequence` succeeds exactly when the OIDs are distinct and in
the table, every required one occurs, and the read functions succeed; the
record is then what they made of it. -/
theorem readOidAnySequence_eq_ok {sequence : List (ObjectId × Asn1Value)} {target target' : σ} :
    readOidAnySequence readInfos sequence target = .ok target' ↔
      (sequence.map Prod.fst).Nodup ∧ (∀ pair ∈ sequence, pair.1 ∈ readInfos.map Prod.fst) ∧
        (∀ entry ∈ readInfos, entry.2.optionality = .REQUIRED → entry.1 ∈ sequence.map Prod.fst) ∧
        applyReadFunctions readInfos target sequence = .ok target' := by
  constructor
  · intro done
    obtain ⟨state, folded, finished⟩ := Except.bind_eq_ok.mp done
    dsimp only at finished
    -- only an empty list of errors returns the record
    split at finished
    · rename_i noErrors
      obtain ⟨stateClean, noneMissing⟩ :
          state.errors = [] ∧ missingExtensionErrors readInfos state.foundOids = [] := by
        simpa using noErrors
      obtain ⟨distinct, -, known, reads, found⟩ := foldlM_readOidAnySequenceStep_clean folded stateClean
      cases finished
      refine ⟨distinct, known, ?_, reads⟩
      simpa [found] using missingExtensionErrors_eq_nil.mp noneMissing
    · cases finished
  · rintro ⟨distinct, known, complete, reads⟩
    have folded : sequence.foldlM (readOidAnySequenceStep readInfos) ⟨[], [], target⟩ =
        .ok ⟨[] ++ sequence.map Prod.fst, [], target'⟩ :=
      foldlM_readOidAnySequenceStep_of_reads distinct (by simp) known reads
    have noneMissing : missingExtensionErrors readInfos (sequence.map Prod.fst) = [] :=
      missingExtensionErrors_eq_nil.mpr complete
    simp [readOidAnySequence, folded, noneMissing, bind, Except.bind, pure, Except.pure]

/-- A sequence that lists each OID of the table once, in any order, reads as
its read functions make of it. -/
theorem readOidAnySequence_eq_ok_of_keys {sequence : List (ObjectId × Asn1Value)} {target target' : σ}
    (distinct : (sequence.map Prod.fst).Nodup)
    (sameOids : ∀ oid, oid ∈ sequence.map Prod.fst ↔ oid ∈ readInfos.map Prod.fst)
    (applied : applyReadFunctions readInfos target sequence = .ok target') :
    readOidAnySequence readInfos sequence target = .ok target' :=
  readOidAnySequence_eq_ok.mpr ⟨distinct, fun pair member => (sameOids pair.1).mp (List.mem_map_of_mem member),
    fun entry member _ => (sameOids entry.1).mpr (List.mem_map_of_mem member), applied⟩

/-! ## The read functions -/

/-- When each read function of the table succeeds exactly on the values that
meet `valid` for its OID, whatever the record, the read functions of pairs of
OIDs in the table succeed exactly when every value meets `valid`. -/
theorem applyReadFunctions_ok_iff {valid : ObjectId → Asn1Value → Prop}
    (reads : ∀ entry ∈ readInfos, ∀ asn1 target,
      (∃ target', entry.2.readFunction asn1 target = .ok target') ↔ valid entry.1 asn1) :
    ∀ {sequence : List (ObjectId × Asn1Value)}, (∀ pair ∈ sequence, pair.1 ∈ readInfos.map Prod.fst) →
      ∀ {target : σ}, (∃ target', applyReadFunctions readInfos target sequence = .ok target') ↔
        ∀ pair ∈ sequence, valid pair.1 pair.2 := by
  intro sequence
  induction sequence with
  | nil => simp [applyReadFunctions, pure, Except.pure]
  | cons pair rest ih =>
    intro known target
    obtain ⟨oid, asn1⟩ := pair
    obtain ⟨readInfo, found⟩ := List.exists_lookup_eq_some_of_mem (known _ List.mem_cons_self)
    have entryReads := reads (oid, readInfo) (List.mem_of_lookup_eq_some found) asn1
    have restKnown : ∀ other ∈ rest, other.1 ∈ readInfos.map Prod.fst :=
      fun other member => known other (List.mem_cons_of_mem _ member)
    simp only [applyReadFunctions, List.foldlM_cons, applyReadFunction, found, List.forall_mem_cons]
    constructor
    · rintro ⟨target', done⟩
      obtain ⟨middle, read, rest⟩ := Except.bind_eq_ok.mp done
      exact ⟨(entryReads target).mp ⟨middle, read⟩, (ih restKnown).mp ⟨target', rest⟩⟩
    · rintro ⟨first, others⟩
      obtain ⟨middle, read⟩ := (entryReads target).mpr first
      obtain ⟨target', rest⟩ := (@ih restKnown middle).mpr others
      exact ⟨target', by rw [read]; exact rest⟩

/-- The read functions of any two different OIDs of the table succeed in
either order to the same record. -/
def ReadFunctionsCommute (readInfos : List (ObjectId × ReadInfo σ)) : Prop :=
  ∀ first ∈ readInfos, ∀ second ∈ readInfos, first.1 ≠ second.1 → ∀ asn1 asn1',
    Except.SuccessCommute (first.2.readFunction asn1) (second.2.readFunction asn1')

/-- Over such a table, a successful `ReadOidAnySequence` gives the same record
for every order of the pairs. -/
theorem readOidAnySequence_perm (commute : ReadFunctionsCommute readInfos) {sequence sequence' : List (ObjectId × Asn1Value)}
    (perm : sequence.Perm sequence') {target target' : σ} (done : readOidAnySequence readInfos sequence target = .ok target') :
    readOidAnySequence readInfos sequence' target = .ok target' := by
  obtain ⟨distinct, known, complete, reads⟩ := readOidAnySequence_eq_ok.mp done
  have keysPerm := perm.map Prod.fst
  refine readOidAnySequence_eq_ok.mpr ⟨keysPerm.nodup_iff.mp distinct,
    fun pair member => known pair (perm.symm.subset member),
    fun entry member required => keysPerm.subset (complete entry member required), ?_⟩
  refine Except.foldlM_perm_of_ok perm ?_ reads
  intro first firstMember second secondMember different
  -- two different pairs of a sequence of distinct OIDs have different OIDs
  have differentOids : first.1 ≠ second.1 := by
    intro same
    have firstFound := List.lookup_eq_some_of_mem distinct firstMember
    have secondFound := List.lookup_eq_some_of_mem distinct secondMember
    rw [same, secondFound, Option.some.injEq] at firstFound
    exact different (Prod.ext same firstFound.symm)
  obtain ⟨firstInfo, firstFound⟩ := List.exists_lookup_eq_some_of_mem (known first firstMember)
  obtain ⟨secondInfo, secondFound⟩ := List.exists_lookup_eq_some_of_mem (known second secondMember)
  intro record afterFirst afterBoth firstStep secondStep
  beta_reduce at firstStep secondStep ⊢
  simp only [applyReadFunction, firstFound, secondFound] at firstStep secondStep ⊢
  exact commute _ (List.mem_of_lookup_eq_some firstFound) _ (List.mem_of_lookup_eq_some secondFound) differentOids
    first.2 second.2 record afterFirst afterBoth firstStep secondStep

/-- A successful read still gives the same record when one pair is replaced
by a pair of the same OID whose read function gives, wherever the first one's
succeeds, the same result. -/
theorem readOidAnySequence_replace {before after : List (ObjectId × Asn1Value)} {oid : ObjectId}
    {asn1 asn1' : Asn1Value}
    (same : ∀ target target', applyReadFunction readInfos target (oid, asn1) = .ok target' →
      applyReadFunction readInfos target (oid, asn1') = .ok target')
    {target target' : σ} (done : readOidAnySequence readInfos (before ++ (oid, asn1) :: after) target = .ok target') :
    readOidAnySequence readInfos (before ++ (oid, asn1') :: after) target = .ok target' := by
  obtain ⟨distinct, known, complete, applied⟩ := readOidAnySequence_eq_ok.mp done
  have sameOids : (before ++ (oid, asn1') :: after).map Prod.fst = (before ++ (oid, asn1) :: after).map Prod.fst := by
    simp
  refine readOidAnySequence_eq_ok.mpr ⟨sameOids ▸ distinct, ?_, fun entry member required =>
    sameOids ▸ complete entry member required, ?_⟩
  · intro pair member
    obtain ⟨original, originalMember, sameOid⟩ :=
      List.mem_map.mp (sameOids ▸ List.mem_map.mpr ⟨pair, member, rfl⟩ : pair.1 ∈ _)
    exact sameOid ▸ known original originalMember
  · unfold applyReadFunctions at applied ⊢
    rw [List.foldlM_append] at applied ⊢
    obtain ⟨middle, first, rest⟩ := Except.bind_eq_ok.mp applied
    rw [first]
    show List.foldlM (applyReadFunction readInfos) middle ((oid, asn1') :: after) = _
    rw [List.foldlM_cons] at rest ⊢
    obtain ⟨next, step, rest⟩ := Except.bind_eq_ok.mp rest
    rw [same middle next step]
    exact rest

/-! ## Tables of required OIDs -/

/-- `pairs` has each OID of `oids` exactly once and no other OID, and each
value meets `valid` for its OID. -/
def PairsMatch (oids : List ObjectId) (valid : ObjectId → Asn1Value → Prop) (pairs : List (ObjectId × Asn1Value)) :
    Prop :=
  (pairs.map Prod.fst).Nodup ∧ (∀ oid, oid ∈ pairs.map Prod.fst ↔ oid ∈ oids) ∧ ∀ pair ∈ pairs, valid pair.1 pair.2

theorem PairsMatch.length_le {oids : List ObjectId} {valid : ObjectId → Asn1Value → Prop}
    {pairs : List (ObjectId × Asn1Value)} (matched : PairsMatch oids valid pairs) : pairs.length ≤ oids.length := by
  have bounded := matched.1.length_le_of_subset fun oid member => (matched.2.1 oid).mp member
  simpa using bounded

/-- A sequence matching a table that lists some OID is not empty. -/
theorem PairsMatch.pos_length {oids : List ObjectId} {valid : ObjectId → Asn1Value → Prop}
    {pairs : List (ObjectId × Asn1Value)} (matched : PairsMatch oids valid pairs) {oid : ObjectId} (listed : oid ∈ oids) :
    0 < pairs.length := by
  obtain ⟨pair, member, -⟩ := List.mem_map.mp ((matched.2.1 oid).mpr listed)
  exact List.length_pos_of_mem member

section Required

variable {valid : ObjectId → Asn1Value → Prop}
  (required : ∀ entry ∈ readInfos, entry.2.optionality = .REQUIRED)
  (reads : ∀ entry ∈ readInfos, ∀ asn1 target,
    (∃ target', entry.2.readFunction asn1 target = .ok target') ↔ valid entry.1 asn1)
include required reads

/-- Over a table of required OIDs whose read functions succeed exactly on the
values `valid` accepts, `ReadOidAnySequence` succeeds exactly on the pairs
that match the table. -/
theorem readOidAnySequence_ok_iff {sequence : List (ObjectId × Asn1Value)} {target : σ} :
    (∃ target', readOidAnySequence readInfos sequence target = .ok target') ↔
      PairsMatch (readInfos.map Prod.fst) valid sequence := by
  constructor
  · rintro ⟨target', done⟩
    obtain ⟨distinct, known, complete, applied⟩ := readOidAnySequence_eq_ok.mp done
    refine ⟨distinct, fun oid => ⟨fun member => ?_, fun member => ?_⟩,
      (applyReadFunctions_ok_iff reads known).mp ⟨target', applied⟩⟩
    · obtain ⟨pair, pairMember, rfl⟩ := List.mem_map.mp member
      exact known pair pairMember
    · obtain ⟨entry, entryMember, rfl⟩ := List.mem_map.mp member
      exact complete entry entryMember (required entry entryMember)
  · rintro ⟨distinct, sameOids, matched⟩
    have known : ∀ pair ∈ sequence, pair.1 ∈ readInfos.map Prod.fst :=
      fun pair member => (sameOids pair.1).mp (List.mem_map.mpr ⟨pair, member, rfl⟩)
    obtain ⟨target', applied⟩ : ∃ target', applyReadFunctions readInfos target sequence = .ok target' :=
      (applyReadFunctions_ok_iff reads known).mpr matched
    exact ⟨target', readOidAnySequence_eq_ok_of_keys distinct sameOids applied⟩

end Required

end Asylo.Provisioning
