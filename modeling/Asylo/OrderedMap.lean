import Mathlib

/-! An ordered map as `std::map` keeps it: its entries in a list sorted by key,
each key at most once. `lowerBound` is the position of the first entry whose
key is not below a given key, as `lower_bound` returns it; `emplace` inserts
an entry unless its key is already there, and `erase` removes the entry of a
key. The structure carries the order of its keys, so every map the operations
build is sorted, and `lower_bound` finds a key that is present. -/

/-- A map with keys in increasing order. -/
structure OrderedMap (κ α : Type) [LinearOrder κ] where
  entries : List (κ × α)
  sorted : (entries.map Prod.fst).Pairwise (· < ·)

namespace OrderedMap

variable {κ α : Type} [LinearOrder κ]

def empty : OrderedMap κ α := ⟨[], List.Pairwise.nil⟩

/-- `map.lower_bound(key)`: the first entry whose key is not below `key`. -/
def lowerBound (map : OrderedMap κ α) (key : κ) : Nat :=
  map.entries.findIdx fun entry => !decide (entry.1 < key)

/-- The entries after inserting `(key, value)` where it belongs, or as they
were when `key` is there. -/
def insertEntry (key : κ) (value : α) : List (κ × α) → List (κ × α)
  | [] => [(key, value)]
  | entry :: rest =>
    if key < entry.1 then (key, value) :: entry :: rest
    else if key = entry.1 then entry :: rest
    else entry :: insertEntry key value rest

theorem key_of_mem_insertEntry {key other : κ} {value : α} :
    ∀ {entries : List (κ × α)}, other ∈ (insertEntry key value entries).map Prod.fst →
      other = key ∨ other ∈ entries.map Prod.fst
  | [], member => by simpa [insertEntry] using member
  | entry :: rest, member => by
    unfold insertEntry at member
    split at member
    · simpa using member
    · split at member
      · exact .inr member
      · rcases List.mem_cons.mp member with first | later
        · exact .inr (first ▸ List.mem_cons_self ..)
        · exact (key_of_mem_insertEntry later).imp_right (List.mem_cons_of_mem _)

theorem insertEntry_sorted (key : κ) (value : α) :
    ∀ {entries : List (κ × α)}, (entries.map Prod.fst).Pairwise (· < ·) →
      ((insertEntry key value entries).map Prod.fst).Pairwise (· < ·)
  | [], _ => by simp [insertEntry]
  | entry :: rest, sorted => by
    have ⟨first, restSorted⟩ := List.pairwise_cons.mp sorted
    unfold insertEntry
    split
    -- the key goes first: it is below the first key, and so below the rest
    · rename_i below
      refine List.pairwise_cons.mpr ⟨fun other member => ?_, sorted⟩
      rcases List.mem_cons.mp member with rfl | later
      · exact below
      · exact lt_trans below (first other later)
    · split
      · exact sorted
      -- the key goes further in: the first key is below it
      · rename_i notBelow notEqual
        have above : entry.1 < key := lt_of_le_of_ne (not_lt.mp notBelow) (Ne.symm notEqual)
        refine List.pairwise_cons.mpr ⟨fun other member => ?_, insertEntry_sorted key value restSorted⟩
        rcases key_of_mem_insertEntry member with rfl | later
        · exact above
        · exact first other later

/-- `map.emplace(key, value)`. -/
def emplace (map : OrderedMap κ α) (key : κ) (value : α) : OrderedMap κ α :=
  ⟨insertEntry key value map.entries, insertEntry_sorted key value map.sorted⟩

/-- `map.erase(key)`. -/
def erase (map : OrderedMap κ α) (key : κ) : OrderedMap κ α :=
  ⟨map.entries.filter fun entry => entry.1 ≠ key,
    map.sorted.sublist ((List.filter_sublist ..).map Prod.fst)⟩

/-! ## `lower_bound` -/

theorem lowerBound_le_length (map : OrderedMap κ α) (key : κ) : map.lowerBound key ≤ map.entries.length :=
  List.findIdx_le_length

/-- Every entry before the lower bound has a smaller key. -/
theorem lt_of_lt_lowerBound {map : OrderedMap κ α} {key : κ} {i : Nat} (before : i < map.lowerBound key) :
    (map.entries.get ⟨i, Nat.lt_of_lt_of_le before (lowerBound_le_length map key)⟩).1 < key := by
  have notFound := List.not_of_lt_findIdx before
  simpa using notFound

/-- The entry at the lower bound has a key at least `key`. -/
theorem le_at_lowerBound {map : OrderedMap κ α} {key : κ} (inside : map.lowerBound key < map.entries.length) :
    key ≤ (map.entries.get ⟨map.lowerBound key, inside⟩).1 := by
  unfold lowerBound at inside ⊢
  have found := @List.findIdx_getElem _ _ map.entries inside
  simpa using found

/-- A key that is present is at its lower bound. -/
theorem lowerBound_of_mem {map : OrderedMap κ α} {key : κ} {value : α} (member : (key, value) ∈ map.entries) :
    ∃ inside : map.lowerBound key < map.entries.length, map.entries[map.lowerBound key] = (key, value) := by
  obtain ⟨i, inside, at_i⟩ := List.getElem_of_mem member
  -- the keys before position i are below the key at i
  have before : ∀ j (below : j < i), (map.entries.get ⟨j, Nat.lt_trans below inside⟩).1 < key := by
    intro j below
    have ordered := List.pairwise_iff_getElem.mp map.sorted j i (by simpa using Nat.lt_trans below inside)
      (by simpa using inside) below
    simpa [at_i] using ordered
  have atBound : map.lowerBound key = i := by
    rw [lowerBound, List.findIdx_eq inside]
    exact ⟨by simp [at_i], fun j below => by simpa using before j below⟩
  exact ⟨atBound ▸ inside, by simp only [atBound, at_i]⟩

/-! ## Entries of `emplace` and `erase` -/

theorem mem_insertEntry {key : κ} {value : α} {entry : κ × α} :
    ∀ {entries : List (κ × α)}, entry ∈ insertEntry key value entries →
      entry ∈ entries ∨ entry = (key, value)
  | [], member => .inr (List.mem_singleton.mp member)
  | first :: rest, member => by
    unfold insertEntry at member
    split at member
    · rcases List.mem_cons.mp member with here | later
      · exact .inr here
      · exact .inl later
    · split at member
      · exact .inl member
      · rcases List.mem_cons.mp member with here | later
        · exact .inl (here ▸ List.mem_cons_self ..)
        · exact (mem_insertEntry later).imp_left (List.mem_cons_of_mem _)

/-- `emplace` adds no entry but the one it was given. -/
theorem mem_emplace {map : OrderedMap κ α} {key : κ} {value : α} {entry : κ × α}
    (member : entry ∈ (map.emplace key value).entries) : entry ∈ map.entries ∨ entry = (key, value) :=
  mem_insertEntry member

theorem mem_erase {map : OrderedMap κ α} {key : κ} {entry : κ × α}
    (member : entry ∈ (map.erase key).entries) : entry ∈ map.entries ∧ entry.1 ≠ key := by
  simpa [erase] using member

end OrderedMap
