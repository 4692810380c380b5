import Mathlib

/-! Splitting a list at a separator: the first occurrence of the separator
cuts a list into the part before it and the rest, `idxOf?` finds it there,
and no part that `splitOn` returns holds the separator. A scanner that looks
for the next separator and takes what lies before it walks through exactly
the parts of `splitOn`. -/
namespace List

variable {α : Type}

/-- A list that holds `a` is the part before its first `a`, then `a`, then
the rest. -/
theorem exists_append_cons_of_mem_first (a : α) :
    ∀ {xs : List α}, a ∈ xs → ∃ before after, xs = before ++ a :: after ∧ a ∉ before
  | x :: xs, member => by
    by_cases here : x = a
    · exact ⟨[], xs, by rw [here]; rfl, not_mem_nil⟩
    · have later : a ∈ xs := (mem_cons.mp member).resolve_left (Ne.symm here)
      obtain ⟨before, after, split, absent⟩ := exists_append_cons_of_mem_first a later
      refine ⟨x :: before, after, by rw [split]; rfl, ?_⟩
      rintro (_ | ⟨_, inBefore⟩)
      · exact here rfl
      · exact absent inBefore

variable [BEq α] [LawfulBEq α]

/-- The first `a` of a list stands right after the part before it. -/
theorem idxOf?_append_cons_of_not_mem {a : α} :
    ∀ {before : List α} (after : List α), a ∉ before → (before ++ a :: after).idxOf? a = some before.length
  | [], after, _ => by simp [idxOf?_cons]
  | x :: before, after, absent => by
    have differs : (x == a) = false := beq_eq_false_iff_ne.mpr fun same => absent (same ▸ mem_cons_self ..)
    rw [cons_append, idxOf?_cons, differs, if_neg Bool.false_ne_true,
      idxOf?_append_cons_of_not_mem after fun inBefore => absent (mem_cons_of_mem _ inBefore)]
    rfl

/-- No part of a split holds the separator. -/
theorem not_mem_of_mem_splitOn (a : α) :
    ∀ {xs part : List α}, part ∈ xs.splitOn a → a ∉ part
  | [], part, member => by
    rw [splitOn_nil, mem_singleton] at member
    rw [member]
    exact not_mem_nil
  | x :: xs, part, member => by
    rw [splitOn_cons_eq_if_modifyHead] at member
    split at member
    -- a separator starts a new, empty part
    · rcases mem_cons.mp member with rfl | later
      · exact not_mem_nil
      · exact not_mem_of_mem_splitOn a later
    -- any other element joins the first part
    · rename_i differs
      obtain ⟨first, rest, parts⟩ := exists_cons_of_ne_nil (splitOn_ne_nil a xs)
      rw [parts, modifyHead_cons] at member
      rcases mem_cons.mp member with rfl | later
      · rintro (_ | ⟨_, inFirst⟩)
        · exact differs (beq_self_eq_true a)
        · exact not_mem_of_mem_splitOn a (parts ▸ mem_cons_self ..) inFirst
      · exact not_mem_of_mem_splitOn a (parts ▸ mem_cons_of_mem _ later)

end List
