import Asylo.IoManagerSelect
import Asylo.IoManagerFdsProofs
import Asylo.ListFold

/-! What `Select` and `Poll` do, for every descriptor table, request and host
answer.

Each loop of `Select` is a fold that only adds: to the indices touched, to
the host's sets, to the collected host descriptors, to the output sets. So
each is specified one step at a time (`List.mem_foldl_iff`).

The host is asked with the host descriptors of the requested descriptors and
a `host_nfds` above all of them (`hostRequest_hostSets_iff`,
`hostRequest_covers`). Every index `Select` touches is a descriptor below
`nfds` or the host descriptor of one (`select_accessed_subset`), so it stays
in range when those do (`select_accessed_in_range`); but the host descriptor
of a requested descriptor is written whatever it is, -1 for an enclave-only
context (`select_accesses_hostFd`). On success an output set holds the
descriptors below `nfds` whose host descriptor the host marked, requested or
not (`select_sets_of_some`), and the count is the host's (`select_result`).
`Poll` gives every entry back its descriptor (`poll_restores`). -/
namespace Asylo.Io

theorem mem_setKinds (kind : SetKind) : kind ∈ setKinds := by
  cases kind <;> simp [setKinds]

variable {Context : Type} (table : FileDescriptorTable Context) (hostFileDescriptor : Context → Int)

/-! ## The request to the host -/

/-- One step of the first loop reads the descriptor's bit in a given set,
then writes the host descriptor of a requested descriptor with a context. -/
theorem translateRequest_accessed (sets : SetKind → Option FdSet) (fd : Nat) (request : HostRequest)
    (kind : SetKind) (x : Int) :
    x ∈ (translateRequest table hostFileDescriptor sets fd request kind).accessed ↔
      x ∈ request.accessed ∨ ∃ set, sets kind = some set ∧
        (x = fd ∨ set fd = true ∧ ∃ context, table.get fd = some context ∧ x = hostFileDescriptor context) := by
  unfold translateRequest
  cases given : sets kind with
  | none => simp
  | some set =>
    by_cases requested : set fd = true
    · cases found : table.get fd with
      | none => simp [requested]
      | some context => simp [requested]
    · simp [requested]

/-- The first loop reads, for every set given, the bit of every descriptor
below `nfds`, and writes the host descriptor of every requested descriptor
with a context. -/
theorem hostRequest_accessed_iff (sets : SetKind → Option FdSet) (nfds : Nat) (x : Int) :
    x ∈ (hostRequest table hostFileDescriptor sets nfds).accessed ↔
      ∃ fd < nfds, ∃ kind set, sets kind = some set ∧
        (x = fd ∨ set fd = true ∧ ∃ context, table.get fd = some context ∧ x = hostFileDescriptor context) := by
  refine (List.mem_foldl_foldl_iff (translateRequest table hostFileDescriptor sets)
    (fun x (request : HostRequest) => x ∈ request.accessed) _
    (fun x request fd kind => translateRequest_accessed table hostFileDescriptor sets fd request kind x)
    (List.range nfds) setKinds _ x).trans ?_
  simp [mem_setKinds]

/-- One step of the first loop adds to the host's set of its kind the host
descriptor of a requested descriptor with a context. -/
theorem translateRequest_hostSets (sets : SetKind → Option FdSet) (fd : Nat) (request : HostRequest)
    (kind other : SetKind) (i : Nat) :
    (translateRequest table hostFileDescriptor sets fd request kind).hostSets other i = true ↔
      request.hostSets other i = true ∨ kind = other ∧ ∃ set, sets kind = some set ∧ set fd = true ∧
        ∃ context, table.get fd = some context ∧ (i : Int) = hostFileDescriptor context := by
  unfold translateRequest
  cases given : sets kind with
  | none => simp
  | some set =>
    by_cases requested : set fd = true
    · cases found : table.get fd with
      | none => simp [requested]
      | some context =>
        by_cases same : other = kind
        · subst same
          simp [requested, fdSet, or_comm]
        · simp [requested, same, Ne.symm same]
    · simp [requested]

/-- The host's set of each kind holds exactly the host descriptors of the
requested descriptors below `nfds` that have a context. -/
theorem hostRequest_hostSets_iff (sets : SetKind → Option FdSet) (nfds : Nat) (kind : SetKind) (i : Nat) :
    (hostRequest table hostFileDescriptor sets nfds).hostSets kind i = true ↔
      ∃ fd < nfds, ∃ set, sets kind = some set ∧ set fd = true ∧
        ∃ context, table.get fd = some context ∧ (i : Int) = hostFileDescriptor context := by
  refine (List.mem_foldl_foldl_iff (translateRequest table hostFileDescriptor sets)
    (fun i (request : HostRequest) => request.hostSets kind i = true) _
    (fun i request fd other => translateRequest_hostSets table hostFileDescriptor sets fd request other kind i)
    (List.range nfds) setKinds _ i).trans ?_
  simp [mem_setKinds, fdZero]

/-- One step of the first loop never lowers `host_nfds`, and raises it above
the host descriptor it writes. -/
theorem translateRequest_hostNfds (sets : SetKind → Option FdSet) (fd : Nat) (request : HostRequest)
    (kind : SetKind) :
    request.hostNfds ≤ (translateRequest table hostFileDescriptor sets fd request kind).hostNfds ∧
      ∀ set context, sets kind = some set → set fd = true → table.get fd = some context →
        hostFileDescriptor context < (translateRequest table hostFileDescriptor sets fd request kind).hostNfds := by
  unfold translateRequest
  cases given : sets kind with
  | none => simp
  | some set =>
    by_cases requested : set fd = true
    · cases found : table.get fd with
      | none => simp [requested]
      | some context =>
        simp only [requested, if_true]
        refine ⟨Int.le_max_left _ _, fun _ other _ _ same => ?_⟩
        cases same
        omega
    · simp only [requested, Bool.false_eq_true, if_false]
      refine ⟨Int.le_refl _, ?_⟩
      rintro _ _ ⟨⟩ bit
      exact absurd bit requested

/-- Every bit of the host's sets lies below `host_nfds`. -/
def HostNfdsCovers (request : HostRequest) : Prop :=
  ∀ kind i, request.hostSets kind i = true → (i : Int) < request.hostNfds

theorem translateRequest_covers (sets : SetKind → Option FdSet) (fd : Nat) (request : HostRequest)
    (kind : SetKind) (covers : HostNfdsCovers request) :
    HostNfdsCovers (translateRequest table hostFileDescriptor sets fd request kind) := by
  obtain ⟨raised, above⟩ := translateRequest_hostNfds table hostFileDescriptor sets fd request kind
  intro other i member
  rcases (translateRequest_hostSets table hostFileDescriptor sets fd request kind other i).mp member with
    old | ⟨_, set, given, requested, context, found, same⟩
  · exact Int.lt_of_lt_of_le (covers other i old) raised
  · rw [same]
    exact above set context given requested found

/-- `Select` asks the host with a `host_nfds` above every descriptor it puts
in the host's sets. -/
theorem hostRequest_covers (sets : SetKind → Option FdSet) (nfds : Nat) :
    HostNfdsCovers (hostRequest table hostFileDescriptor sets nfds) := by
  unfold hostRequest
  -- the invariant holds of the empty sets and is kept by every step of both loops
  refine List.foldlRecOn (List.range nfds) _ (fun _ i member => by simp [fdZero] at member) fun request covers fd _ => ?_
  exact List.foldlRecOn setKinds _ covers fun request covers kind _ =>
    translateRequest_covers table hostFileDescriptor sets fd request kind covers

/-! ## The host descriptors the answer marks -/

theorem collectSet_hostFds (answer : HostSelect) (hostFd : Int) (collected : Collected) (other kind : SetKind)
    (y : Int) :
    y ∈ (collectSet answer hostFd collected other).hostFds kind ↔
      y ∈ collected.hostFds kind ∨ other = kind ∧ answer.hostSets kind hostFd.toNat = true ∧ y = hostFd := by
  by_cases same : other = kind
  · subst same
    by_cases ready : answer.hostSets other hostFd.toNat = true
    · simp [collectSet, ready, or_comm]
    · simp [collectSet, ready]
  · simp [collectSet, same, Ne.symm same]

/-- The second loop for one descriptor adds what its steps over the three
sets add, for a context whose host descriptor is not negative, and nothing
otherwise. -/
theorem mem_collectReady (answer : HostSelect) (mem : Int → Collected → Prop) (new : Int → Int → SetKind → Prop)
    (step : ∀ y collected hostFd kind, mem y (collectSet answer hostFd collected kind) ↔ mem y collected ∨ new y hostFd kind)
    (collected : Collected) (fd : Nat) (y : Int) :
    mem y (collectReady table hostFileDescriptor answer collected fd) ↔
      mem y collected ∨ ∃ context, table.get fd = some context ∧ 0 ≤ hostFileDescriptor context ∧
        ∃ kind, new y (hostFileDescriptor context) kind := by
  unfold collectReady
  cases found : table.get fd with
  | none => simp
  | some context =>
    by_cases negative : hostFileDescriptor context < 0
    · have skipped : ¬ 0 ≤ hostFileDescriptor context := by omega
      simp [negative, skipped]
    · have looked : 0 ≤ hostFileDescriptor context := by omega
      simp only [negative, if_false]
      refine (List.mem_foldl_iff _ mem _ (fun y collected kind => step y collected _ kind) setKinds collected y).trans ?_
      simp [mem_setKinds, looked]

/-- The second loop collects, for one descriptor with a context, its host
descriptor in each set where the answer marks it, unless it is negative. -/
theorem collectReady_hostFds (answer : HostSelect) (collected : Collected) (fd : Nat) (kind : SetKind) (y : Int) :
    y ∈ (collectReady table hostFileDescriptor answer collected fd).hostFds kind ↔
      y ∈ collected.hostFds kind ∨ ∃ context, table.get fd = some context ∧ 0 ≤ hostFileDescriptor context ∧
        answer.hostSets kind (hostFileDescriptor context).toNat = true ∧ y = hostFileDescriptor context := by
  refine (mem_collectReady table hostFileDescriptor answer (fun y collected => y ∈ collected.hostFds kind) _
    (fun y collected hostFd other => collectSet_hostFds answer hostFd collected other kind y) collected fd y).trans ?_
  simp

/-- The second loop reads, for one descriptor with a context, its host
descriptor in each of the host's sets, unless it is negative. -/
theorem collectReady_accessed (answer : HostSelect) (collected : Collected) (fd : Nat) (y : Int) :
    y ∈ (collectReady table hostFileDescriptor answer collected fd).accessed ↔
      y ∈ collected.accessed ∨ ∃ context, table.get fd = some context ∧ 0 ≤ hostFileDescriptor context ∧
        y = hostFileDescriptor context := by
  refine (mem_collectReady table hostFileDescriptor answer (fun y collected => y ∈ collected.accessed)
    (fun y hostFd _ => y = hostFd) (fun y collected hostFd kind => by simp [collectSet]) collected fd y).trans ?_
  -- each of the three steps reads the same index
  have : Nonempty SetKind := ⟨.read⟩
  simp

theorem collected_hostFds_iff (answer : HostSelect) (initial : Collected) (nfds : Nat) (kind : SetKind) (y : Int) :
    y ∈ ((List.range nfds).foldl (collectReady table hostFileDescriptor answer) initial).hostFds kind ↔
      y ∈ initial.hostFds kind ∨ ∃ fd < nfds, ∃ context, table.get fd = some context ∧
        0 ≤ hostFileDescriptor context ∧ answer.hostSets kind (hostFileDescriptor context).toNat = true ∧
        y = hostFileDescriptor context :=
  (List.mem_foldl_iff _ (fun y (collected : Collected) => y ∈ collected.hostFds kind) _
    (fun y collected fd => collectReady_hostFds table hostFileDescriptor answer collected fd kind y) _ _ y).trans
    (by simp)

theorem collected_accessed_iff (answer : HostSelect) (initial : Collected) (nfds : Nat) (y : Int) :
    y ∈ ((List.range nfds).foldl (collectReady table hostFileDescriptor answer) initial).accessed ↔
      y ∈ initial.accessed ∨ ∃ fd < nfds, ∃ context, table.get fd = some context ∧
        0 ≤ hostFileDescriptor context ∧ y = hostFileDescriptor context :=
  (List.mem_foldl_iff _ (fun y (collected : Collected) => y ∈ collected.accessed) _
    (fun y collected fd => collectReady_accessed table hostFileDescriptor answer collected fd y) _ _ y).trans
    (by simp)

/-! ## The output sets -/

section Marks

variable (sets : SetKind → Option FdSet) (collected : Collected)

/-- Whether the output set of `kind` holds `i`. -/
def Marks (kind : SetKind) (i : Nat) (marked : (SetKind → Option FdSet) × List Int) : Prop :=
  ∃ out, marked.1 kind = some out ∧ out i = true

theorem markSet_accessed (fd : Nat) (hostFd : Int) (marked : (SetKind → Option FdSet) × List Int)
    (other : SetKind) (x : Int) :
    x ∈ (markSet sets collected fd hostFd marked other).2 ↔
      x ∈ marked.2 ∨ (sets other).isSome ∧ hostFd ∈ collected.hostFds other ∧ x = fd := by
  unfold markSet
  cases sets other with
  | none => simp
  | some _ =>
    by_cases ready : hostFd ∈ collected.hostFds other
    · simp [ready]
    · simp [ready]

/-- Only a given set has an output set, and each step keeps it. -/
theorem markSet_isSome (fd : Nat) (hostFd : Int) (marked : (SetKind → Option FdSet) × List Int)
    (other kind : SetKind) :
    ((markSet sets collected fd hostFd marked other).1 kind).isSome = (marked.1 kind).isSome := by
  unfold markSet
  cases sets other with
  | none => rfl
  | some _ =>
    by_cases ready : hostFd ∈ collected.hostFds other
    · by_cases same : kind = other
      · simp [ready, same]
      · simp [ready, same]
    · simp [ready]

theorem markSet_marks (fd : Nat) (hostFd : Int) (marked : (SetKind → Option FdSet) × List Int)
    (other kind : SetKind) (i : Nat) (present : (marked.1 kind).isSome) :
    Marks kind i (markSet sets collected fd hostFd marked other) ↔
      Marks kind i marked ∨ other = kind ∧ (sets kind).isSome ∧ hostFd ∈ collected.hostFds kind ∧ i = fd := by
  obtain ⟨out, current⟩ := Option.isSome_iff_exists.mp present
  unfold Marks markSet
  by_cases same : other = kind
  · subst same
    cases given : sets other with
    | none => simp
    | some _ =>
      by_cases ready : hostFd ∈ collected.hostFds other
      · simp [ready, current, fdSet, Int.natCast_inj, or_comm]
      · simp [ready]
  · cases sets other with
    | none => simp [same]
    | some _ =>
      by_cases ready : hostFd ∈ collected.hostFds other
      · simp [ready, same, Ne.symm same]
      · simp [ready, same]

/-- The third loop writes, for one descriptor with a context, its bit in each
given set for which its host descriptor was collected. -/
theorem markReady_accessed (marked : (SetKind → Option FdSet) × List Int) (fd : Nat) (x : Int) :
    x ∈ (markReady table hostFileDescriptor sets collected marked fd).2 ↔
      x ∈ marked.2 ∨ ∃ context, table.get fd = some context ∧
        ∃ kind, (sets kind).isSome ∧ hostFileDescriptor context ∈ collected.hostFds kind ∧ x = fd := by
  unfold markReady
  cases found : table.get fd with
  | none => simp
  | some context =>
    refine (List.mem_foldl_iff _ (fun x (marked : (SetKind → Option FdSet) × List Int) => x ∈ marked.2) _
      (fun x marked other => markSet_accessed sets collected fd _ marked other x) setKinds marked x).trans ?_
    simp [mem_setKinds]

theorem markReady_isSome (marked : (SetKind → Option FdSet) × List Int) (fd : Nat) (kind : SetKind) :
    ((markReady table hostFileDescriptor sets collected marked fd).1 kind).isSome = (marked.1 kind).isSome := by
  unfold markReady
  cases table.get fd with
  | none => rfl
  | some context =>
    exact List.foldlRecOn (motive := fun current => (current.1 kind).isSome = (marked.1 kind).isSome) setKinds _ rfl
      fun current same other _ => (markSet_isSome sets collected fd _ current other kind).trans same

/-- The third loop puts one descriptor with a context in the output set of
each given set for which its host descriptor was collected. -/
theorem markReady_marks (marked : (SetKind → Option FdSet) × List Int) (fd : Nat) (kind : SetKind) (i : Nat)
    (present : (marked.1 kind).isSome) :
    Marks kind i (markReady table hostFileDescriptor sets collected marked fd) ↔
      Marks kind i marked ∨ ∃ context, table.get fd = some context ∧ (sets kind).isSome ∧
        hostFileDescriptor context ∈ collected.hostFds kind ∧ i = fd := by
  unfold markReady
  cases found : table.get fd with
  | none => simp
  | some context =>
    refine (List.mem_foldl_iff_of_invariant _ (fun current => (current.1 kind).isSome) (Marks kind) _
      (fun current other present => (markSet_isSome sets collected fd _ current other kind).trans present)
      (fun i current other present => markSet_marks sets collected fd _ current other kind i present)
      setKinds marked present i).trans ?_
    simp [mem_setKinds]

theorem marked_accessed_iff (initial : (SetKind → Option FdSet) × List Int) (nfds : Nat) (x : Int) :
    x ∈ ((List.range nfds).foldl (markReady table hostFileDescriptor sets collected) initial).2 ↔
      x ∈ initial.2 ∨ ∃ fd < nfds, ∃ context, table.get fd = some context ∧
        ∃ kind, (sets kind).isSome ∧ hostFileDescriptor context ∈ collected.hostFds kind ∧ x = fd :=
  (List.mem_foldl_iff _ (fun x (marked : (SetKind → Option FdSet) × List Int) => x ∈ marked.2) _
    (fun x marked fd => markReady_accessed table hostFileDescriptor sets collected marked fd x) _ _ x).trans
    (by simp)

theorem marked_isSome (initial : (SetKind → Option FdSet) × List Int) (nfds : Nat) (kind : SetKind) :
    (((List.range nfds).foldl (markReady table hostFileDescriptor sets collected) initial).1 kind).isSome =
      (initial.1 kind).isSome :=
  List.foldlRecOn (motive := fun current => (current.1 kind).isSome = (initial.1 kind).isSome) _ _ rfl
    fun current same fd _ => (markReady_isSome table hostFileDescriptor sets collected current fd kind).trans same

theorem marked_marks_iff (initial : (SetKind → Option FdSet) × List Int) (nfds : Nat) (kind : SetKind) (i : Nat)
    (present : (initial.1 kind).isSome) :
    Marks kind i ((List.range nfds).foldl (markReady table hostFileDescriptor sets collected) initial) ↔
      Marks kind i initial ∨ i < nfds ∧ ∃ context, table.get i = some context ∧ (sets kind).isSome ∧
        hostFileDescriptor context ∈ collected.hostFds kind := by
  refine (List.mem_foldl_iff_of_invariant _ (fun current => (current.1 kind).isSome) (Marks kind) _
    (fun current fd present => (markReady_isSome table hostFileDescriptor sets collected current fd kind).trans present)
    (fun i current fd present => markReady_marks table hostFileDescriptor sets collected current fd kind i present)
    _ initial present i).trans ?_
  simp only [List.mem_range]
  constructor
  · rintro (earlier | ⟨fd, below, context, found, given, collectedHere, rfl⟩)
    · exact Or.inl earlier
    · exact Or.inr ⟨below, context, found, given, collectedHere⟩
  · rintro (earlier | ⟨below, context, found, given, collectedHere⟩)
    · exact Or.inl earlier
    · exact Or.inr ⟨i, below, context, found, given, collectedHere, rfl⟩

end Marks

/-! ## `Select` -/

section Select

variable (nfds : Int) (sets : SetKind → Option FdSet) (answer : HostSelect)

/-- The host descriptors collected by the second loop. -/
abbrev collectedOf : Collected :=
  (List.range nfds.toNat).foldl (collectReady table hostFileDescriptor answer)
    ⟨fun _ => [], (hostRequest table hostFileDescriptor sets nfds.toNat).accessed⟩

/-- The output sets and the indices touched after the third loop. -/
abbrev markedOf : (SetKind → Option FdSet) × List Int :=
  (List.range nfds.toNat).foldl
    (markReady table hostFileDescriptor sets (collectedOf table hostFileDescriptor nfds sets answer))
    (fun kind => (sets kind).map fun _ => fdZero, (collectedOf table hostFileDescriptor nfds sets answer).accessed)

theorem select_of_succeeded (valid : 0 ≤ nfds) (succeeded : 0 ≤ answer.result) :
    select table hostFileDescriptor nfds sets answer =
      ⟨answer.result, none, (markedOf table hostFileDescriptor nfds sets answer).1,
        some (hostRequest table hostFileDescriptor sets nfds.toNat), (markedOf table hostFileDescriptor nfds sets answer).2⟩ := by
  have notNegative : ¬ nfds < 0 := by omega
  have notFailed : ¬ answer.result < 0 := by omega
  simp only [select, notNegative, notFailed, if_false]

/-- With `nfds` not negative, `Select` returns what the host's `select`
returned, whatever it did to the sets, and sets no `errno` of its own. -/
theorem select_result (valid : 0 ≤ nfds) :
    (select table hostFileDescriptor nfds sets answer).result = answer.result ∧
      (select table hostFileDescriptor nfds sets answer).errno = none := by
  have notNegative : ¬ nfds < 0 := by omega
  by_cases failed : answer.result < 0
  · simp [select, notNegative, failed]
  · simp [select, notNegative, failed]

/-- A `Select` that fails leaves the caller's sets as they were. -/
theorem select_sets_of_failed (failed : nfds < 0 ∨ answer.result < 0) :
    (select table hostFileDescriptor nfds sets answer).sets = sets := by
  by_cases negative : nfds < 0
  · simp [select, negative]
  · simp [select, negative, failed.resolve_left negative]

/-- A set not given stays absent. -/
theorem select_sets_of_none {kind : SetKind} (absent : sets kind = none) :
    (select table hostFileDescriptor nfds sets answer).sets kind = none := by
  by_cases failed : nfds < 0 ∨ answer.result < 0
  · rw [select_sets_of_failed table hostFileDescriptor nfds sets answer failed, absent]
  · rw [not_or, Int.not_lt, Int.not_lt] at failed
    rw [select_of_succeeded table hostFileDescriptor nfds sets answer failed.1 failed.2]
    have unchanged := marked_isSome table hostFileDescriptor sets (collectedOf table hostFileDescriptor nfds sets answer)
      (fun kind => (sets kind).map fun _ => fdZero, (collectedOf table hostFileDescriptor nfds sets answer).accessed)
      nfds.toNat kind
    simpa [absent] using unchanged

/-- For a descriptor below `nfds` with a context, its host descriptor is
collected for a set exactly when it is not negative and the host marked it
there. -/
theorem hostFd_collected_iff {fd : Nat} (below : fd < nfds.toNat) {context : Context}
    (found : table.get fd = some context) (kind : SetKind) :
    hostFileDescriptor context ∈ (collectedOf table hostFileDescriptor nfds sets answer).hostFds kind ↔
      0 ≤ hostFileDescriptor context ∧ answer.hostSets kind (hostFileDescriptor context).toNat = true := by
  rw [collected_hostFds_iff]
  constructor
  · rintro (nothing | ⟨_, _, other, _, looked, ready, same⟩)
    · simp at nothing
    · rw [same]
      exact ⟨looked, ready⟩
  · rintro ⟨looked, ready⟩
    exact Or.inr ⟨fd, below, context, found, looked, ready, rfl⟩

/-- On success, each set that was given holds exactly the descriptors below
`nfds` whose host descriptor the host marked in that set, whether or not the
caller asked for them. -/
theorem select_sets_of_some (valid : 0 ≤ nfds) (succeeded : 0 ≤ answer.result) {kind : SetKind} {set : FdSet}
    (given : sets kind = some set) :
    ∃ out, (select table hostFileDescriptor nfds sets answer).sets kind = some out ∧
      ∀ fd, out fd = true ↔ fd < nfds.toNat ∧ ∃ context, table.get fd = some context ∧
        0 ≤ hostFileDescriptor context ∧ answer.hostSets kind (hostFileDescriptor context).toNat = true := by
  rw [select_of_succeeded table hostFileDescriptor nfds sets answer valid succeeded]
  let collected := collectedOf table hostFileDescriptor nfds sets answer
  let zeroed : (SetKind → Option FdSet) × List Int := (fun kind => (sets kind).map fun _ => fdZero, collected.accessed)
  have present : (zeroed.1 kind).isSome := by simp [zeroed, given]
  obtain ⟨out, final⟩ := Option.isSome_iff_exists.mp
    ((marked_isSome table hostFileDescriptor sets collected zeroed nfds.toNat kind).trans present)
  refine ⟨out, final, fun fd => ?_⟩
  have marks := marked_marks_iff table hostFileDescriptor sets collected zeroed nfds.toNat kind fd present
  simp only [Marks, final, Option.some.injEq, exists_eq_left'] at marks
  rw [marks]
  -- the zeroed set holds nothing, and a collected host descriptor is a marked one
  constructor
  · rintro (zeroedHere | ⟨below, context, found, _, collectedHere⟩)
    · simp [zeroed, given, fdZero] at zeroedHere
    · exact ⟨below, context, found,
        (hostFd_collected_iff table hostFileDescriptor nfds sets answer below found kind).mp collectedHere⟩
  · rintro ⟨below, context, found, ready⟩
    exact Or.inr ⟨below, context, found, by simp [given],
      (hostFd_collected_iff table hostFileDescriptor nfds sets answer below found kind).mpr ready⟩

/-- Every index `Select` gives `FD_SET` or `FD_ISSET` is a descriptor below
`nfds`, or the host descriptor of the context of one. -/
theorem select_accessed_subset (x : Int) (touched : x ∈ (select table hostFileDescriptor nfds sets answer).accessed) :
    (∃ fd < nfds.toNat, x = fd) ∨
      ∃ fd < nfds.toNat, ∃ context, table.get fd = some context ∧ x = hostFileDescriptor context := by
  have ofRequest : ∀ x ∈ (hostRequest table hostFileDescriptor sets nfds.toNat).accessed,
      (∃ fd < nfds.toNat, x = fd) ∨
        ∃ fd < nfds.toNat, ∃ context, table.get fd = some context ∧ x = hostFileDescriptor context := by
    intro x member
    obtain ⟨fd, below, _, _, _, read | ⟨_, context, found, written⟩⟩ :=
      (hostRequest_accessed_iff table hostFileDescriptor sets nfds.toNat x).mp member
    · exact Or.inl ⟨fd, below, read⟩
    · exact Or.inr ⟨fd, below, context, found, written⟩
  by_cases negative : nfds < 0
  · simp [select, negative] at touched
  by_cases failed : answer.result < 0
  · simp only [select, negative, failed, if_true, if_false] at touched
    exact ofRequest x touched
  rw [select_of_succeeded table hostFileDescriptor nfds sets answer (by omega) (by omega)] at touched
  -- an index of the third loop is a descriptor, one of the second a host descriptor
  rcases (marked_accessed_iff table hostFileDescriptor sets _ _ nfds.toNat x).mp touched with
    collectedHere | ⟨fd, below, _, _, _, _, _, rfl⟩
  · rcases (collected_accessed_iff table hostFileDescriptor answer _ nfds.toNat x).mp collectedHere with
      requested | ⟨fd, below, context, found, _, rfl⟩
    · exact ofRequest x requested
    · exact Or.inr ⟨fd, below, context, found, rfl⟩
  · exact Or.inl ⟨fd, below, rfl⟩

/-- When `nfds` is at most `FD_SETSIZE` and every descriptor below it with a
context has a host descriptor in `[0, FD_SETSIZE)`, `Select` touches the
`fd_set`s only inside their range. -/
theorem select_accessed_in_range (fits : nfds ≤ kFdSetSize)
    (hostFdsFit : ∀ fd < nfds.toNat, ∀ context, table.get fd = some context →
      0 ≤ hostFileDescriptor context ∧ hostFileDescriptor context < kFdSetSize) :
    ∀ x ∈ (select table hostFileDescriptor nfds sets answer).accessed, 0 ≤ x ∧ x < kFdSetSize := by
  intro x touched
  rcases select_accessed_subset table hostFileDescriptor nfds sets answer x touched with
    ⟨fd, below, rfl⟩ | ⟨fd, below, context, found, rfl⟩
  · unfold kFdSetSize at fits ⊢
    omega
  · exact hostFdsFit fd below context found

/-- `Select` writes into the host's set the host descriptor of every
requested descriptor below `nfds` with a context, whatever that host
descriptor is. -/
theorem select_accesses_hostFd (valid : 0 ≤ nfds) {kind : SetKind} {set : FdSet} {fd : Nat} {context : Context}
    (given : sets kind = some set) (requested : set fd = true) (below : fd < nfds.toNat)
    (found : table.get fd = some context) :
    hostFileDescriptor context ∈ (select table hostFileDescriptor nfds sets answer).accessed := by
  have requestedHere : hostFileDescriptor context ∈ (hostRequest table hostFileDescriptor sets nfds.toNat).accessed :=
    (hostRequest_accessed_iff table hostFileDescriptor sets nfds.toNat _).mpr
      ⟨fd, below, kind, set, given, Or.inr ⟨requested, context, found, rfl⟩⟩
  have notNegative : ¬ nfds < 0 := by omega
  by_cases failed : answer.result < 0
  · simpa [select, notNegative, failed] using requestedHere
  · rw [select_of_succeeded table hostFileDescriptor nfds sets answer valid (by omega)]
    exact (marked_accessed_iff table hostFileDescriptor sets _ _ nfds.toNat _).mpr
      (Or.inl ((collected_accessed_iff table hostFileDescriptor answer _ nfds.toNat _).mpr (Or.inl requestedHere)))

end Select

/-! ## `Poll` -/

section Poll

/-- Putting the descriptors back, entry by entry, gives each entry its
descriptor, as long as there is an entry for each. -/
theorem fd_restored : ∀ (written : List PollFd) (fds : List Int), fds.length ≤ written.length →
    (List.zipWith (fun pollFd fd => { pollFd with fd := fd }) written fds).map PollFd.fd = fds
  | _, [], _ => by simp
  | [], _ :: _, long => absurd long (by simp)
  | _ :: written, fd :: fds, long => by
    rw [List.length_cons, List.length_cons] at long
    simp [fd_restored written fds (by omega)]

/-- Putting the descriptors back into the translated array gives the
caller's array. -/
theorem restored_translatePollFds :
    ∀ fds : List PollFd, List.zipWith (fun pollFd fd => { pollFd with fd := fd })
      (translatePollFds table hostFileDescriptor fds) (fds.map PollFd.fd) = fds
  | [] => rfl
  | _ :: fds => by
    simp only [translatePollFds, List.map_cons, List.zipWith_cons_cons]
    exact congrArg _ (restored_translatePollFds fds)

variable (fds : List PollFd) (answer : List PollFd → HostPoll)

/-- `Poll` returns every entry with the caller's descriptor, whatever the
host wrote into the array. -/
theorem poll_restores : (poll table hostFileDescriptor fds answer).2.map PollFd.fd = fds.map PollFd.fd := by
  unfold poll
  apply fd_restored
  split <;> simp [translatePollFds]

/-- A `Poll` that fails at the host leaves the array as it was. -/
theorem poll_of_failed (failed : (answer (translatePollFds table hostFileDescriptor fds)).result < 0) :
    poll table hostFileDescriptor fds answer = ((answer (translatePollFds table hostFileDescriptor fds)).result, fds) := by
  simp only [poll, failed, if_true]
  rw [restored_translatePollFds]

end Poll

/-! ## Descriptors the translation gets wrong

Contexts are their host descriptors here. -/

/-- A request of the read set only. -/
def readOnly (set : FdSet) : SetKind → Option FdSet := fun kind => if kind = .read then some set else none

/-- Descriptor 0 open on a context with no host descriptor, as an eventfd. -/
def enclaveOnlyTable : FileDescriptorTable Int := (openLike .init (-1) none).table

/-- Descriptors 0 and 1 on host descriptor 5: an open, then a `Dup`. -/
def sharedTable : FileDescriptorTable Int := (dup (openLike .init 5 none).table 0).table

theorem lowestFree_init : (FileDescriptorTable.init : FileDescriptorTable Int).LowestFree 0 0 :=
  ⟨Nat.le_refl _, by decide, rfl, fun j _ below => absurd below (Nat.not_lt_zero j)⟩

theorem enclaveOnlyTable_get : enclaveOnlyTable.get 0 = some (-1) := by
  simp [enclaveOnlyTable, openLike_of_lowestFree _ lowestFree_init, FileDescriptorTable.get, kMaxOpenFiles]

theorem sharedTable_get : sharedTable.get 0 = some 5 ∧ sharedTable.get 1 = some 5 := by
  let opened := (FileDescriptorTable.init : FileDescriptorTable Int).writeNew 0 5
  have opening : openLike .init (5 : Int) none = ⟨0, none, none, opened⟩ :=
    openLike_of_lowestFree _ lowestFree_init 5 none
  have lowest : opened.LowestFree 0 1 := by
    refine ⟨Nat.zero_le _, by decide, by simp [opened, FileDescriptorTable.init], fun j _ below => ?_⟩
    obtain rfl : j = 0 := by omega
    simp [opened]
  have duplicated : dup opened 0 = ⟨1, none, none, opened.copySlot 0 1⟩ :=
    @dup_of_lowestFree Int opened 0 1 (by decide) (by simp [opened]) lowest
  simp [sharedTable, opening, duplicated, FileDescriptorTable.get, opened, kMaxOpenFiles]

/-- `Select` on descriptor 0 of an enclave-only context gives `FD_SET` the
index -1, whatever the host answers. On two descriptors sharing host
descriptor 5, a request for descriptor 0 alone, answered by the host with
descriptor 5 ready and a count of 1, comes back with descriptors 0 and 1 set
and a count of 1. -/
theorem select_outside_fd_set_and_unrequested :
    (∀ answer, (-1 : Int) ∈ (select enclaveOnlyTable id 1 (readOnly (fdSet 0 fdZero)) answer).accessed) ∧
      (select sharedTable id 2 (readOnly (fdSet 0 fdZero)) ⟨1, fun _ => fdSet 5 fdZero⟩).result = 1 ∧
      ∃ out, (select sharedTable id 2 (readOnly (fdSet 0 fdZero)) ⟨1, fun _ => fdSet 5 fdZero⟩).sets .read = some out ∧
        out 0 = true ∧ out 1 = true ∧ fdSet 0 fdZero 1 = false := by
  refine ⟨fun answer => ?_, (select_result sharedTable id 2 _ _ (by decide)).1, ?_⟩
  · exact select_accesses_hostFd enclaveOnlyTable id 1 _ answer (by decide)
      (rfl : readOnly (fdSet 0 fdZero) .read = some _) (by decide) (by decide) enclaveOnlyTable_get
  · obtain ⟨out, final, holds⟩ := select_sets_of_some sharedTable id 2 (readOnly (fdSet 0 fdZero))
      ⟨1, fun _ => fdSet 5 fdZero⟩ (by decide) (by decide) (rfl : readOnly (fdSet 0 fdZero) .read = some _)
    refine ⟨out, final, (holds 0).mpr ⟨by decide, 5, sharedTable_get.1, by decide, by decide⟩,
      (holds 1).mpr ⟨by decide, 5, sharedTable_get.2, by decide, by decide⟩, by decide⟩

end Asylo.Io
