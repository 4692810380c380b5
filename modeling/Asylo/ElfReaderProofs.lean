import Asylo.ElfReader
import Asylo.ExceptLemmas

/-! Which bytes of the file `ElfReader::GetSectionData` hands out.

A span that `GetSubspan` returns lies inside its buffer, and it is as long as
asked exactly when `offset + size` does not wrap in `size_t`
(`getSubspan_size_iff`). The reader records for each section with data the
span `GetSubspan` gave for its header (`Recorded`), so the data of a section
lies inside the file, starts at `sh_offset`, and is `sh_size` bytes long
exactly when `sh_offset + sh_size < 2 ^ 64`. Past that, the span is cut at
the end of the file, and `CreateFromSpan` accepts the file
(`getSectionData_of_created`). -/
namespace Asylo.Elf

/-! ## Subspans -/

section Subspan

variable {buffer view : Span} {offset size : UInt64}

theorem subspan_eq_ok {pos len : Nat} :
    buffer.subspan pos len = .ok view ↔ pos ≤ buffer.size ∧ view = ⟨buffer.start + pos, min len (buffer.size - pos)⟩ := by
  unfold Span.subspan
  split_ifs with inside
  · simp [inside, eq_comm]
  · simp [inside]

theorem getSubspan_eq_some :
    getSubspan buffer offset size = .ok (some view) ↔
      (offset + size).toNat ≤ buffer.size ∧ offset.toNat ≤ buffer.size ∧
        view = ⟨buffer.start + offset.toNat, min size.toNat (buffer.size - offset.toNat)⟩ := by
  unfold getSubspan
  split_ifs with beyond
  · simp only [Except.ok.injEq, reduceCtorEq, false_iff, not_and]
    intro within
    omega
  · have within : (offset + size).toNat ≤ buffer.size := Nat.le_of_not_lt beyond
    rw [Except.map_eq_ok]
    simp only [Option.some.injEq, exists_eq_right, subspan_eq_ok, within, true_and]

/-- A span `GetSubspan` gives lies inside the buffer. -/
theorem getSubspan_within (got : getSubspan buffer offset size = .ok (some view)) :
    buffer.start ≤ view.start ∧ view.start + view.size ≤ buffer.start + buffer.size := by
  obtain ⟨-, inside, rfl⟩ := getSubspan_eq_some.mp got
  simp only
  omega

/-- It is as long as asked exactly when `offset + size` does not wrap. -/
theorem getSubspan_size_iff (got : getSubspan buffer offset size = .ok (some view)) (fits : buffer.size < 2 ^ 64) :
    view.size = size.toNat ↔ offset.toNat + size.toNat < 2 ^ 64 := by
  obtain ⟨sum, inside, rfl⟩ := getSubspan_eq_some.mp got
  rw [UInt64.toNat_add] at sum
  have offsetBound := UInt64.toNat_lt offset
  have sizeBound := UInt64.toNat_lt size
  simp only
  constructor
  · intro whole
    omega
  · intro noWrap
    rw [Nat.mod_eq_of_lt noWrap] at sum
    omega

end Subspan

/-! ## The sections the reader records -/

@[simp] theorem invalidArgument_ne_ok {α : Type} {message : String} {value : α} :
    invalidArgument message ≠ .ok value := by
  simp [invalidArgument]

theorem addSection_eq_ok {memory : Memory} {table names : Span} {entrySize i : UInt16} {maps maps' : ElfReader}
    (added : addSection memory table names entrySize i maps = .ok maps') :
    let header := memory.sectionHeader (table.start + intProduct i entrySize)
    ∃ name, getStringAtOffset memory names header.name.toNat = some name ∧ maps.sectionHeaders.lookup name = none ∧
      maps'.sectionHeaders = maps.sectionHeaders ++ [(name, header)] ∧
      (header.type = SHT_NOBITS ∧ maps'.sectionData = maps.sectionData ∨
        ∃ view, getSubspan memory.elfFile header.offset header.size = .ok (some view) ∧
          maps.sectionData.lookup name = none ∧ maps'.sectionData = maps.sectionData ++ [(name, view)]) := by
  intro header
  unfold addSection at added
  dsimp only at added
  split at added
  · rename_i name named
    refine ⟨name, named, ?_⟩
    split_ifs at added with duplicate hasData duplicateData
    · exact absurd added invalidArgument_ne_ok
    · -- data already recorded under the name: an internal error
      obtain ⟨found, -, recorded⟩ := Except.bind_eq_ok.mp added
      cases found <;> simp [invalidArgument] at recorded
    · -- a section with data: its span is looked up before it is recorded
      obtain ⟨found, got, recorded⟩ := Except.bind_eq_ok.mp added
      cases found with
      | none => exact absurd recorded invalidArgument_ne_ok
      | some view =>
        simp only [pure, Except.pure, Except.ok.injEq] at recorded
        subst recorded
        exact ⟨Option.not_isSome_iff_eq_none.mp duplicate, rfl, .inr ⟨view, got,
          Option.not_isSome_iff_eq_none.mp duplicateData, rfl⟩⟩
    · simp only [pure, Except.pure, Except.ok.injEq] at added
      subst added
      exact ⟨Option.not_isSome_iff_eq_none.mp duplicate, rfl, .inl ⟨not_not.mp hasData, rfl⟩⟩
  · cases added
/-- What the reader records of each section with data: the span `GetSubspan`
gave for the section's header. -/
def Recorded (memory : Memory) (reader : ElfReader) : Prop :=
  ∀ name view, reader.sectionData.lookup name = some view →
    ∃ header, reader.sectionHeaders.lookup name = some header ∧
      getSubspan memory.elfFile header.offset header.size = .ok (some view)

theorem Recorded.addSection {memory : Memory} {table names : Span} {entrySize i : UInt16} {maps maps' : ElfReader}
    (recorded : Recorded memory maps) (added : addSection memory table names entrySize i maps = .ok maps') :
    Recorded memory maps' := by
  obtain ⟨name, -, fresh, headers, data⟩ := addSection_eq_ok added
  intro other view found
  rw [headers]
  rcases data with ⟨-, same⟩ | ⟨newView, got, freshData, appended⟩
  · -- no data recorded: `other`'s span was there before
    rw [same] at found
    obtain ⟨header, old, sub⟩ := recorded other view found
    exact ⟨header, by simp [List.lookup_append, old], sub⟩
  · rw [appended, List.lookup_append] at found
    cases old : maps.sectionData.lookup other with
    | some oldView =>
      rw [old, Option.some_or] at found
      obtain ⟨header, oldHeader, sub⟩ := recorded other oldView old
      exact ⟨header, by simp [List.lookup_append, oldHeader], found ▸ sub⟩
    | none =>
      -- the span just recorded, under the name just given a header
      rw [old, Option.none_or] at found
      by_cases named : other = name
      · subst named
        simp only [List.lookup_cons, beq_self_eq_true, Option.some.injEq] at found
        subst found
        exact ⟨_, by simp [List.lookup_append, fresh], got⟩
      · have differs : (other == name) = false := beq_eq_false_iff_ne.mpr named
        simp [List.lookup_cons, differs] at found

theorem addSections_recorded {memory : Memory} {table names : Span} {entrySize : UInt16} :
    ∀ (count : Nat) {maps reader : ElfReader}, Recorded memory maps →
      addSections memory table names entrySize count maps = .ok reader → Recorded memory reader := by
  intro count
  induction count with
  | zero =>
    intro maps reader recorded done
    simp only [addSections, pure, Except.pure, Except.ok.injEq] at done
    exact done ▸ recorded
  | succ count ih =>
    intro maps reader recorded done
    obtain ⟨middle, first, last⟩ := Except.bind_eq_ok.mp done
    exact (ih recorded first).addSection last

theorem createFromSpan_recorded {memory : Memory} {reader : ElfReader} (created : createFromSpan memory = .ok reader) :
    Recorded memory reader := by
  simp only [createFromSpan, Except.bind_eq_ok] at created
  obtain ⟨_, -, _, -, _, -, _, -, _, -, _, -, _, -, _, -, added⟩ := created
  exact addSections_recorded _ (fun _ _ none => by simp at none) added

theorem getSectionData_eq_ok {reader : ElfReader} {name : List UInt8} {view : Span}
    (got : reader.getSectionData name = .ok view) :
    ∃ header, reader.sectionHeaders.lookup name = some header ∧ header.type ≠ SHT_NOBITS ∧
      reader.sectionData.lookup name = some view := by
  unfold ElfReader.getSectionData at got
  split at got
  · cases got
  · rename_i header found
    split_ifs at got with noData
    split at got
    · cases got
    · rename_i data stored
      cases got
      exact ⟨header, found, noData, stored⟩

/-- The data `GetSectionData` gives of a section of a file `CreateFromSpan`
accepted: the bytes of the file from `sh_offset`, `sh_size` of them or up to
the end of the file, which is `sh_size` exactly when `sh_offset + sh_size`
does not wrap. -/
theorem getSectionData_of_created {memory : Memory} {reader : ElfReader} (created : createFromSpan memory = .ok reader)
    (fits : memory.file.length < 2 ^ 64) {name : List UInt8} {view : Span} (got : reader.getSectionData name = .ok view) :
    ∃ header, reader.sectionHeaders.lookup name = some header ∧ header.type ≠ SHT_NOBITS ∧
      view = ⟨header.offset.toNat, min header.size.toNat (memory.file.length - header.offset.toNat)⟩ ∧
      view.start + view.size ≤ memory.file.length ∧
      (view.size = header.size.toNat ↔ header.offset.toNat + header.size.toNat < 2 ^ 64) := by
  obtain ⟨header, found, hasData, stored⟩ := getSectionData_eq_ok got
  obtain ⟨recordedHeader, recordedFound, sub⟩ := createFromSpan_recorded created name view stored
  have same : recordedHeader = header := Option.some.inj (recordedFound.symm.trans found)
  subst same
  obtain ⟨-, -, shape⟩ := getSubspan_eq_some.mp sub
  have within := (getSubspan_within sub).2
  refine ⟨recordedHeader, found, hasData, by simpa [Memory.elfFile] using shape, ?_, getSubspan_size_iff sub fits⟩
  simpa [Memory.elfFile] using within

/-- A section header of `Elf64_Shdr`'s layout, with no flags, address, link,
information, alignment or entry size. -/
def sectionHeaderBytes (name type offset size : Nat) : List UInt8 :=
  LittleEndian.encode 4 name ++ LittleEndian.encode 4 type ++ LittleEndian.encode 8 0 ++ LittleEndian.encode 8 0 ++
    LittleEndian.encode 8 offset ++ LittleEndian.encode 8 size ++ LittleEndian.encode 4 0 ++ LittleEndian.encode 4 0 ++
    LittleEndian.encode 8 0 ++ LittleEndian.encode 8 0

/-- A file of two sections after its header: `a`, whose `sh_offset` 8 and
`sh_size` `2 ^ 64 - 8` add up to 0 in `size_t`, and the name table `s`. -/
def wrappedElf : Memory where
  file :=
    [0x7f, 0x45, 0x4c, 0x46, 2, 1, 1] ++ List.replicate 9 0 ++ LittleEndian.encode 2 0 ++ LittleEndian.encode 2 0 ++
      LittleEndian.encode 4 1 ++ LittleEndian.encode 8 0 ++ LittleEndian.encode 8 0 ++ LittleEndian.encode 8 64 ++
      LittleEndian.encode 4 0 ++ LittleEndian.encode 2 64 ++ LittleEndian.encode 2 0 ++ LittleEndian.encode 2 0 ++
      LittleEndian.encode 2 64 ++ LittleEndian.encode 2 2 ++ LittleEndian.encode 2 1 ++
      sectionHeaderBytes 1 1 8 (2 ^ 64 - 8) ++ sectionHeaderBytes 3 3 192 5 ++ [0, 0x61, 0, 0x73, 0]
  around := fun _ => 0

set_option maxRecDepth 20000 in
theorem getSectionData_of_created_wrapped :
    let reader : ElfReader :=
      ⟨[([0x61], ⟨1, 1, 8, 0xfffffffffffffff8⟩), ([0x73], ⟨3, 3, 192, 5⟩)], [([0x61], ⟨8, 189⟩), ([0x73], ⟨192, 5⟩)]⟩
    createFromSpan wrappedElf = .ok reader ∧ reader.getSectionData [0x61] = .ok ⟨8, 189⟩ ∧
      ((⟨8, 189⟩ : Span).size = (0xfffffffffffffff8 : UInt64).toNat ↔ 8 + (0xfffffffffffffff8 : UInt64).toNat < 2 ^ 64) := by
  intro reader
  have created : createFromSpan wrappedElf = .ok reader := by rfl
  have got : reader.getSectionData [0x61] = .ok ⟨8, 189⟩ := by rfl
  obtain ⟨header, found, -, -, -, sized⟩ := getSectionData_of_created created (by decide) got
  have named : header = ⟨1, 1, 8, 0xfffffffffffffff8⟩ := by
    simpa [reader] using found.symm
  subst named
  exact ⟨created, got, sized⟩

end Asylo.Elf
