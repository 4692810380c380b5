import Mathlib

/-! `List.lookup` in an association list with decidable keys: what it finds
is a member of the list, a key of the list is found, and in a list built from
distinct keys each key finds its own entry. -/
namespace List

variable {α β : Type} [DecidableEq α]

theorem mem_of_lookup_eq_some {l : List (α × β)} {k : α} {v : β} (found : l.lookup k = some v) : (k, v) ∈ l := by
  induction l with
  | nil => cases found
  | cons head tail ih =>
    obtain ⟨key, value⟩ := head
    by_cases same : k = key
    · subst same
      simp only [lookup_cons, beq_self_eq_true, Option.some.injEq] at found
      simp [found]
    · have notFirst : (k == key) = false := by simpa using same
      simp only [lookup_cons, notFirst] at found
      exact mem_cons_of_mem _ (ih found)

theorem exists_lookup_eq_some_of_mem {l : List (α × β)} {k : α} (member : k ∈ l.map Prod.fst) :
    ∃ v, l.lookup k = some v := by
  induction l with
  | nil => cases member
  | cons head tail ih =>
    obtain ⟨key, value⟩ := head
    by_cases same : k = key
    · subst same
      exact ⟨value, by simp⟩
    · have notFirst : (k == key) = false := by simpa using same
      have later : k ∈ tail.map Prod.fst := by simpa [same] using member
      simpa only [lookup_cons, notFirst] using ih later

theorem mem_keys_of_lookup_eq_some {l : List (α × β)} {k : α} {v : β} (found : l.lookup k = some v) :
    k ∈ l.map Prod.fst :=
  mem_map.mpr ⟨(k, v), mem_of_lookup_eq_some found, rfl⟩

/-- In a list whose keys are distinct, a member's key finds that member's
value. -/
theorem lookup_eq_some_of_mem {l : List (α × β)} (distinct : (l.map Prod.fst).Nodup) {k : α} {v : β}
    (member : (k, v) ∈ l) : l.lookup k = some v := by
  induction l with
  | nil => cases member
  | cons head tail ih =>
    obtain ⟨key, value⟩ := head
    simp only [map_cons, nodup_cons] at distinct
    rcases mem_cons.mp member with first | later
    · cases first
      simp
    · have different : k ≠ key := by
        rintro rfl
        exact distinct.1 (mem_map.mpr ⟨(k, v), later, rfl⟩)
      have notFirst : (k == key) = false := by simpa using different
      simp only [lookup_cons, notFirst]
      exact ih distinct.2 later

end List
