import Mathlib

/-! A regular file as POSIX presents it through one descriptor: its bytes and
the descriptor's offset. `lseek` refuses a negative target and may move past
the end, `read` stops at the end of the file, and `write` past the end first
fills the gap with zero bytes. Everything here is stated element by element,
so that callers reason about one position at a time. -/
namespace PosixFile

variable {α : Type*}

/-- The reference point of `lseek`. -/
inductive Whence where
  | seekSet
  | seekCur
  | seekEnd
  deriving DecidableEq, Repr

/-- `lseek`: the new offset, or `none` (`EINVAL`) for a negative target. -/
def lseek (data : List α) (cursor : Nat) (offset : Int) (whence : Whence) : Option Nat :=
  let base : Int :=
    match whence with
    | .seekSet => 0
    | .seekCur => cursor
    | .seekEnd => data.length
  if base + offset < 0 then none else some (base + offset).toNat

/-- `read`: at most `count` bytes from the offset, fewer at the end of file. -/
def read (data : List α) (cursor count : Nat) : List α :=
  (data.drop cursor).take count

/-- `write`: the file after writing `bytes` at the offset. -/
def write [Zero α] (data : List α) (cursor : Nat) (bytes : List α) : List α :=
  data.take cursor ++ List.replicate (cursor - data.length) 0 ++ bytes ++
    data.drop (cursor + bytes.length)

theorem lseek_seekSet {data : List α} {cursor : Nat} (offset : Nat) :
    lseek data cursor offset .seekSet = some offset := by
  simp [lseek]

theorem lseek_seekSet_neg {data : List α} {cursor : Nat} {offset : Int} (negative : offset < 0) :
    lseek data cursor offset .seekSet = none := by
  simp [lseek, negative]

theorem lseek_seekCur (data : List α) (cursor : Nat) (offset : Nat) :
    lseek data cursor offset .seekCur = some (cursor + offset) := by
  simp only [lseek]
  rw [if_neg (by omega)]
  exact congrArg some (by omega)

@[simp] theorem length_read (data : List α) (cursor count : Nat) :
    (read data cursor count).length = min count (data.length - cursor) := by
  simp [read]

theorem getElem?_read (data : List α) (cursor count index : Nat) :
    (read data cursor count)[index]? = if index < count then data[cursor + index]? else none := by
  simp [read, List.getElem?_take]

@[simp] theorem length_write [Zero α] (data : List α) (cursor : Nat) (bytes : List α) :
    (write data cursor bytes).length = max data.length (cursor + bytes.length) := by
  simp only [write, List.length_append, List.length_take, List.length_replicate, List.length_drop]
  omega

/-- One position of the file after a write: the written byte inside the
written range, the old byte before the old end, a zero byte in the gap. -/
theorem getElem?_write [Zero α] (data : List α) (cursor : Nat) (bytes : List α) (index : Nat) :
    (write data cursor bytes)[index]? =
      if cursor ≤ index ∧ index < cursor + bytes.length then bytes[index - cursor]?
      else if index < data.length then data[index]?
      else if index < cursor then some 0 else none := by
  have prefixLength : (data.take cursor ++ List.replicate (cursor - data.length) 0).length =
      cursor := by
    simp only [List.length_append, List.length_take, List.length_replicate]
    omega
  simp only [write, List.append_assoc] at prefixLength ⊢
  rw [← List.append_assoc, List.getElem?_append, prefixLength]
  by_cases before : index < cursor
  · simp only [before, ↓reduceIte, List.getElem?_append, List.length_take, List.getElem?_take,
      List.getElem?_replicate]
    by_cases old : index < data.length
    · simp [old, show ¬ cursor ≤ index by omega, show index < min cursor data.length by omega]
    · simp [old, show ¬ cursor ≤ index by omega, show ¬ index < min cursor data.length by omega]
      omega
  · rw [if_neg before, List.getElem?_append]
    by_cases inside : index - cursor < bytes.length
    · simp [inside, show cursor ≤ index by omega, show index < cursor + bytes.length by omega]
    · simp only [inside, ↓reduceIte, List.getElem?_drop]
      rw [if_neg (by omega)]
      have shifted : cursor + bytes.length + (index - cursor - bytes.length) = index := by omega
      rw [shifted]
      by_cases old : index < data.length
      · simp [old]
      · simp [old, before]

/-- Reading back the range just written returns the written bytes. -/
theorem read_write_self [Zero α] (data : List α) (cursor : Nat) (bytes : List α) :
    read (write data cursor bytes) cursor bytes.length = bytes := by
  apply List.ext_getElem?
  intro index
  rw [getElem?_read, getElem?_write]
  by_cases inside : index < bytes.length
  · simp [inside]
  · simp [inside]

end PosixFile
