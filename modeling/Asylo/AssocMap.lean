import Asylo.ListLookup

/-! A map as a hash map keeps it, up to the order of its entries: a list of
entries in which each key occurs once. `find` looks a key up, `emplace` adds
an entry unless its key is already there, and `erase` removes the entry of a
key. Nothing here observes the order of the entries, so a hash map's order of
iteration is not a choice this model makes. -/

/-- A map whose entries have distinct keys. -/
structure AssocMap (κ α : Type) [DecidableEq κ] where
  entries : List (κ × α)
  nodup : (entries.map Prod.fst).Nodup

namespace AssocMap

variable {κ α : Type} [DecidableEq κ]

def empty : AssocMap κ α := ⟨[], List.nodup_nil⟩

/-- `map.find(key)`. -/
def find (map : AssocMap κ α) (key : κ) : Option α := map.entries.lookup key

/-- `map.emplace(key, value)`: nothing changes when `key` is there. -/
def emplace (map : AssocMap κ α) (key : κ) (value : α) : AssocMap κ α :=
  if present : key ∈ map.entries.map Prod.fst then map
  else ⟨(key, value) :: map.entries, List.nodup_cons.mpr ⟨present, map.nodup⟩⟩

/-- `map.erase(key)`. -/
def erase (map : AssocMap κ α) (key : κ) : AssocMap κ α :=
  ⟨map.entries.filter fun entry => entry.1 ≠ key, map.nodup.sublist ((List.filter_sublist ..).map Prod.fst)⟩

@[simp] theorem find_empty (key : κ) : (empty : AssocMap κ α).find key = none := rfl

theorem lookup_cons_self (key : κ) (value : α) (rest : List (κ × α)) :
    ((key, value) :: rest).lookup key = some value := by
  simp

theorem lookup_cons_of_ne {key other : κ} (value : α) (rest : List (κ × α)) (different : other ≠ key) :
    ((key, value) :: rest).lookup other = rest.lookup other := by
  simp only [List.lookup_cons, beq_eq_false_iff_ne.mpr different]

theorem find_eq_none {map : AssocMap κ α} {key : κ} : map.find key = none ↔ key ∉ map.entries.map Prod.fst := by
  constructor
  · intro absent present
    obtain ⟨value, found⟩ := List.exists_lookup_eq_some_of_mem present
    rw [find, found] at absent
    cases absent
  · intro notPresent
    cases found : map.find key with
    | none => rfl
    | some value => exact absurd (List.mem_keys_of_lookup_eq_some found) notPresent

theorem find_emplace_of_find {map : AssocMap κ α} {key : κ} {old : α} (found : map.find key = some old)
    (value : α) : map.emplace key value = map := by
  rw [emplace, dif_pos (List.mem_keys_of_lookup_eq_some found)]

theorem find_emplace_of_find_eq_none {map : AssocMap κ α} {key : κ} (absent : map.find key = none)
    (value : α) (other : κ) :
    (map.emplace key value).find other = if other = key then some value else map.find other := by
  rw [emplace, dif_neg (find_eq_none.mp absent)]
  by_cases same : other = key
  · subst same
    simp only [find, lookup_cons_self, if_true]
  · simp only [find, lookup_cons_of_ne value map.entries same, if_neg same]

/-- `emplace` gives the key the old value if there was one, and `value`
otherwise; the other keys keep theirs. -/
theorem find_emplace (map : AssocMap κ α) (key : κ) (value : α) (other : κ) :
    (map.emplace key value).find other =
      if other = key then some ((map.find key).getD value) else map.find other := by
  cases found : map.find key with
  | some old =>
    rw [find_emplace_of_find found]
    by_cases same : other = key
    · simp [same, found]
    · simp [same]
  | none => simp [find_emplace_of_find_eq_none found]

theorem lookup_filter_ne (entries : List (κ × α)) (key other : κ) :
    (entries.filter fun entry => entry.1 ≠ key).lookup other = if other = key then none else entries.lookup other := by
  induction entries with
  | nil => simp
  | cons entry rest ih =>
    obtain ⟨entryKey, entryValue⟩ := entry
    by_cases erased : entryKey = key
    -- the entry of `key` is dropped; the others are kept in order
    · subst erased
      rw [List.filter_cons_of_neg (by simp), ih]
      by_cases same : other = entryKey
      · simp [same]
      · rw [if_neg same, if_neg same, lookup_cons_of_ne entryValue rest same]
    · rw [List.filter_cons_of_pos (by simpa using erased)]
      by_cases atEntry : other = entryKey
      · subst atEntry
        rw [lookup_cons_self, if_neg erased, lookup_cons_self]
      · rw [lookup_cons_of_ne entryValue _ atEntry, ih, lookup_cons_of_ne entryValue rest atEntry]

/-- `erase` takes the key out and leaves the others. -/
@[simp] theorem find_erase (map : AssocMap κ α) (key other : κ) :
    (map.erase key).find other = if other = key then none else map.find other :=
  lookup_filter_ne map.entries key other

theorem find_erase_eq_some {map : AssocMap κ α} {key other : κ} {value : α} :
    (map.erase key).find other = some value ↔ other ≠ key ∧ map.find other = some value := by
  rw [find_erase]
  by_cases same : other = key <;> simp [same]

end AssocMap
