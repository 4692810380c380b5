import Asylo.Util

/-! `ElfReader` (`util/elf_reader.cc`), which finds the sections of a 64-bit
little-endian ELF file held in memory.

The reader reads the file through pointers: the file header at offset 0, the
section header table at `e_shoff`, the section name string table, and each
section header. What a pointer reads is the file's bytes where it points into
the file, and whatever else memory holds where it does not (`Memory`). The
views the reader keeps are `absl::Span`s of the file (`Span`).

The arithmetic is the code's: `GetSubspan` tests `offset + size` in
`size_t`, which wraps, and `absl::Span::subspan` then gives the bytes from
`offset` to the end of the buffer at most, or aborts when `offset` is past the
end. The products `num_sections * entry_size`, `name_table_index * entry_size`
and `i * entry_size` of two `uint16_t`s are computed in `int`, taken to wrap
in 32 bits, and converted to `size_t` where they are passed as offsets or
sizes. Section names are byte strings, and the maps from names to headers and
to data are association lists in the order the sections are inserted. -/
namespace Asylo.Elf

/-! ## Memory and spans -/

/-- The file's bytes, and what memory holds around them, by offset from the
file's first byte. -/
structure Memory where
  file : List UInt8
  around : Int → UInt8

/-- The byte at `position`. -/
def Memory.byte (memory : Memory) (position : Int) : UInt8 :=
  if 0 ≤ position ∧ position < memory.file.length then memory.file.getD position.toNat 0 else memory.around position

/-- The little-endian integer of `width` bytes at `position`. -/
def Memory.load (memory : Memory) (position : Int) (width : Nat) : Nat :=
  LittleEndian.decode ((List.range width).map fun j => memory.byte (position + j))

/-- An `absl::Span<const uint8_t>` of the file: where it starts, and its
size. -/
structure Span where
  start : Nat
  size : Nat
  deriving DecidableEq, Repr

/-- How a call ends when it does not return: with a status, or by the abort
of `absl::Span::subspan` past the end of a span. -/
inductive Failure where
  | failed (status : Status)
  | aborted
  deriving DecidableEq, Repr

abbrev Result (α : Type) := Except Failure α

def invalidArgument {α : Type} (message : String) : Result α := .error (.failed ⟨.invalidArgument, message⟩)

/-- `absl::Span::subspan(pos, len)`. -/
def Span.subspan (span : Span) (pos len : Nat) : Result Span :=
  if pos ≤ span.size then .ok ⟨span.start + pos, min len (span.size - pos)⟩ else .error .aborted

/-- `GetSubspan(buffer, offset, size)`, or `nullopt` (`none`). -/
def getSubspan (buffer : Span) (offset size : UInt64) : Result (Option Span) :=
  if (offset + size).toNat > buffer.size then .ok none
  else some <$> buffer.subspan offset.toNat size.toNat

/-- The C `int` product of two `uint16_t`s. -/
def intProduct (a b : UInt16) : Int := (Int32.ofNat a.toNat * Int32.ofNat b.toNat).toInt

/-- `strnlen` at `position`, reading at most `maxLength` bytes. -/
def strnlen (memory : Memory) (position : Nat) : Nat → Nat
  | 0 => 0
  | maxLength + 1 => if memory.byte position = 0 then 0 else strnlen memory (position + 1) maxLength + 1

/-- `GetStringAtOffset(buffer, offset)`: the bytes of the string. -/
def getStringAtOffset (memory : Memory) (buffer : Span) (offset : Nat) : Option (List UInt8) :=
  if offset > buffer.size then none
  else
    let length := strnlen memory (buffer.start + offset) (buffer.size - offset)
    some ((List.range length).map fun j => memory.byte (buffer.start + offset + j))

/-! ## The headers -/

def sizeofElf64Ehdr : UInt64 := 64
def sizeofElf64Shdr : UInt64 := 64

def EI_MAG0 : Nat := 0
def EI_MAG1 : Nat := 1
def EI_MAG2 : Nat := 2
def EI_MAG3 : Nat := 3
def EI_CLASS : Nat := 4
def EI_DATA : Nat := 5
def EI_VERSION : Nat := 6
def ELFMAG0 : Nat := 0x7f
def ELFMAG1 : Nat := 0x45
def ELFMAG2 : Nat := 0x4c
def ELFMAG3 : Nat := 0x46
def ELFCLASS64 : Nat := 2
def ELFDATA2LSB : Nat := 1
def EV_CURRENT : Nat := 1
def SHN_UNDEF : UInt16 := 0
def SHT_STRTAB : UInt32 := 3
def SHT_NOBITS : UInt32 := 8

/-- The fields of `Elf64_Ehdr` that the reader uses, read at `position`. -/
structure ElfHeader where
  shoff : UInt64
  shentsize : UInt16
  shnum : UInt16
  shstrndx : UInt16
  deriving DecidableEq, Repr

/-- The fields of `Elf64_Shdr` that the reader uses. -/
structure SectionHeader where
  name : UInt32
  type : UInt32
  offset : UInt64
  size : UInt64
  deriving DecidableEq, Repr

/-- The `Elf64_Shdr` at `position`. -/
def Memory.sectionHeader (memory : Memory) (position : Int) : SectionHeader :=
  ⟨(memory.load position 4).toUInt32, (memory.load (position + 4) 4).toUInt32,
    (memory.load (position + 24) 8).toUInt64, (memory.load (position + 32) 8).toUInt64⟩

/-- The file, as the span `elf_file_`. -/
def Memory.elfFile (memory : Memory) : Span := ⟨0, memory.file.length⟩

/-- `ElfReaderCreator::ElfHeader()`. -/
def elfHeader (memory : Memory) : Result ElfHeader := do
  let some header ← getSubspan memory.elfFile 0 sizeofElf64Ehdr
    | invalidArgument "Unsupported file format: not a 64-bit ELF file"
  let ident (index : Nat) : Nat := memory.load (header.start + index) 1
  if ident EI_MAG0 ≠ ELFMAG0 ∨ ident EI_MAG1 ≠ ELFMAG1 ∨ ident EI_MAG2 ≠ ELFMAG2 ∨ ident EI_MAG3 ≠ ELFMAG3 then
    invalidArgument "Unsupported file format: file does not begin with ELF magic number"
  else if ident EI_CLASS ≠ ELFCLASS64 then invalidArgument "Unsupported file format: only 64-bit ELF is supported"
  else if ident EI_DATA ≠ ELFDATA2LSB then
    invalidArgument "Unsupported file format: only little-endian ELF is supported"
  else if ident EI_VERSION ≠ EV_CURRENT ∨ memory.load (header.start + 20) 4 ≠ EV_CURRENT then
    invalidArgument "Unsupported file format: unknown ELF version"
  else
    pure ⟨(memory.load (header.start + 40) 8).toUInt64, (memory.load (header.start + 58) 2).toUInt16,
      (memory.load (header.start + 60) 2).toUInt16, (memory.load (header.start + 62) 2).toUInt16⟩

/-- `ElfReaderCreator::SectionTableStart`. -/
def sectionTableStart (header : ElfHeader) : Result UInt64 :=
  if header.shoff = 0 then invalidArgument "ELF file contains no section header table" else pure header.shoff

/-- `ElfReaderCreator::NumSections`. -/
def numSections (header : ElfHeader) : Result UInt16 :=
  if header.shnum = 0 then invalidArgument "ELF file contains no section header table or has too many sections"
  else pure header.shnum

/-- `ElfReaderCreator::EntrySize`. -/
def entrySize (header : ElfHeader) : Result UInt16 :=
  if header.shentsize.toUInt64 < sizeofElf64Shdr then invalidArgument "Malformed ELF file: malformed section header size"
  else pure header.shentsize

/-- `ElfReaderCreator::NameTableIndex`. -/
def nameTableIndex (header : ElfHeader) : Result UInt16 :=
  if header.shstrndx = SHN_UNDEF then invalidArgument "ELF file contains no section name string table section"
  else pure header.shstrndx

/-- `ElfReaderCreator::SectionHeaderTable`. -/
def sectionHeaderTable (memory : Memory) (sectionTableStart : UInt64) (numSections entrySize : UInt16) :
    Result Span := do
  let some table ← getSubspan memory.elfFile sectionTableStart (UInt64.ofInt (intProduct numSections entrySize))
    | invalidArgument "Malformed ELF file: section header table exceeds boundary of file"
  pure table

/-- `ElfReaderCreator::NameTableHeader`. -/
def nameTableHeader (memory : Memory) (sectionHeaderTable : Span) (entrySize nameTableIndex : UInt16) :
    Result SectionHeader := do
  let some header ← getSubspan sectionHeaderTable (UInt64.ofInt (intProduct nameTableIndex entrySize)) sizeofElf64Shdr
    | invalidArgument "Malformed ELF file: section name string table header lies outside section header table"
  let nameTableHeader := memory.sectionHeader header.start
  if nameTableHeader.type ≠ SHT_STRTAB then
    invalidArgument "Malformed ELF file: section name string table section is not of type SHT_STRTAB"
  else pure nameTableHeader

/-- `ElfReaderCreator::NameTable`. -/
def nameTable (memory : Memory) (nameTableHeader : SectionHeader) : Result Span := do
  let some table ← getSubspan memory.elfFile nameTableHeader.offset nameTableHeader.size
    | invalidArgument "Malformed ELF file: section name string table exceeds boundary of file"
  pure table

/-! ## The sections -/

/-- The maps of an `ElfReader`: each section's header and the data of each
section that has some, by name. -/
structure ElfReader where
  sectionHeaders : List (List UInt8 × SectionHeader)
  sectionData : List (List UInt8 × Span)
  deriving DecidableEq, Repr

/-- A section name in a message. -/
def nameText (name : List UInt8) : String := String.ofList (name.map fun byte => Char.ofNat byte.toNat)

/-- The body of the loop of `InitializeSectionMaps` for section `i`. -/
def addSection (memory : Memory) (sectionHeaderTable nameTable : Span) (entrySize : UInt16) (i : UInt16)
    (maps : ElfReader) : Result ElfReader := do
  let sectionHeader := memory.sectionHeader (sectionHeaderTable.start + intProduct i entrySize)
  let some sectionName := getStringAtOffset memory nameTable sectionHeader.name.toNat
    | invalidArgument s!"Malformed ELF file: section {i} has invalid sh_name"
  if (maps.sectionHeaders.lookup sectionName).isSome then
    invalidArgument s!"Malformed ELF file: duplicated section name: {nameText sectionName}"
  else
    let maps := { maps with sectionHeaders := maps.sectionHeaders ++ [(sectionName, sectionHeader)] }
    if sectionHeader.type ≠ SHT_NOBITS then
      let some dataView ← getSubspan memory.elfFile sectionHeader.offset sectionHeader.size
        | invalidArgument s!"Malformed ELF file: section {nameText sectionName} exceeds boundary of file"
      if (maps.sectionData.lookup sectionName).isSome then
        .error (.failed ⟨.internal, s!"Failed to record data of section {nameText sectionName} in section data table"⟩)
      else pure { maps with sectionData := maps.sectionData ++ [(sectionName, dataView)] }
    else pure maps

/-- The loop of `InitializeSectionMaps` over sections `0, …, count - 1`. -/
def addSections (memory : Memory) (sectionHeaderTable nameTable : Span) (entrySize : UInt16) :
    Nat → ElfReader → Result ElfReader
  | 0, maps => pure maps
  | count + 1, maps => do
    let maps ← addSections memory sectionHeaderTable nameTable entrySize count maps
    addSection memory sectionHeaderTable nameTable entrySize count.toUInt16 maps

/-- `ElfReaderCreator::InitializeSectionMaps()`, then `Create()`: the reader,
as `ElfReader::CreateFromSpan(elf_file)` returns it. -/
def createFromSpan (memory : Memory) : Result ElfReader := do
  let elfHeader ← elfHeader memory
  let sectionTableStart ← sectionTableStart elfHeader
  let numSections ← numSections elfHeader
  let entrySize ← entrySize elfHeader
  let nameTableIndex ← nameTableIndex elfHeader
  let sectionHeaderTable ← sectionHeaderTable memory sectionTableStart numSections entrySize
  let nameTableHeader ← nameTableHeader memory sectionHeaderTable entrySize nameTableIndex
  let nameTable ← nameTable memory nameTableHeader
  addSections memory sectionHeaderTable nameTable entrySize numSections.toNat ⟨[], []⟩

/-- `ElfReader::GetSectionData(section_name)`. -/
def ElfReader.getSectionData (reader : ElfReader) (sectionName : List UInt8) : StatusOr Span :=
  match reader.sectionHeaders.lookup sectionName with
  | none => .error ⟨.notFound, s!"File does not contain a section called {nameText sectionName}"⟩
  | some header =>
    if header.type = SHT_NOBITS then .error ⟨.invalidArgument, s!"Section {nameText sectionName} has no data"⟩
    else
      match reader.sectionData.lookup sectionName with
      | none => .error ⟨.internal, s!"Could not locate data associated with section {nameText sectionName}"⟩
      | some data => .ok data

end Asylo.Elf
