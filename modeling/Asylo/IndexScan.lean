import Mathlib

/-! Scans over an interval of indices, as `for` loops that `break` at the
first index with a property, upwards or downwards: `first` finds the least
index from `start` on, within `count` steps, `last` the greatest index below
a bound. Each comes with the statement of what it returns, so a loop modelled
by them is specified by a least or greatest element. -/
namespace IndexScan

variable (p : Nat → Bool)

/-- The least index in `[start, start + count)` where `p` holds. -/
def first (start : Nat) : Nat → Option Nat
  | 0 => none
  | count + 1 => if p start then some start else first (start + 1) count

/-- The greatest index below `bound` where `p` holds. -/
def last : Nat → Option Nat
  | 0 => none
  | bound + 1 => if p bound then some bound else last bound

theorem first_eq_some_iff {index : Nat} :
    ∀ {start count : Nat}, first p start count = some index ↔
      start ≤ index ∧ index < start + count ∧ p index ∧ ∀ j, start ≤ j → j < index → p j = false
  | start, 0 => by simp [first]; omega
  | start, count + 1 => by
    unfold first
    split
    · rename_i here
      constructor
      · rintro ⟨⟩
        exact ⟨(Nat.le_refl _), by omega, here, fun j above below => by omega⟩
      · rintro ⟨above, -, holds, before⟩
        -- an index past `start` would have `p start` false
        rcases Nat.lt_or_eq_of_le above with later | rfl
        · simp [before start (Nat.le_refl _) later] at here
        · rfl
    · rename_i notHere
      rw [first_eq_some_iff]
      constructor
      · rintro ⟨above, below, holds, before⟩
        refine ⟨by omega, by omega, holds, fun j from_ before_index => ?_⟩
        rcases Nat.lt_or_eq_of_le from_ with later | rfl
        · exact before j later before_index
        · simpa using notHere
      · rintro ⟨above, below, holds, before⟩
        have past : start ≠ index := by
          rintro rfl
          exact notHere holds
        exact ⟨by omega, by omega, holds, fun j from_ before_index => before j (by omega) before_index⟩

theorem first_eq_none_iff :
    ∀ {start count : Nat}, first p start count = none ↔ ∀ j, start ≤ j → j < start + count → p j = false
  | start, 0 => by simp [first]; omega
  | start, count + 1 => by
    unfold first
    split
    · rename_i here
      simp only [reduceCtorEq, false_iff, not_forall]
      exact ⟨start, (Nat.le_refl _), by omega, by simp [here]⟩
    · rename_i notHere
      rw [first_eq_none_iff]
      constructor
      · intro none_after j from_ below
        rcases Nat.lt_or_eq_of_le from_ with later | rfl
        · exact none_after j later (by omega)
        · simpa using notHere
      · intro none_in j from_ below
        exact none_in j (by omega) (by omega)

theorem last_eq_some_iff {index : Nat} :
    ∀ {bound : Nat}, last p bound = some index ↔ index < bound ∧ p index ∧ ∀ j, index < j → j < bound → p j = false
  | 0 => by simp [last]
  | bound + 1 => by
    unfold last
    split
    · rename_i here
      constructor
      · rintro ⟨⟩
        exact ⟨by omega, here, fun j above below => by omega⟩
      · rintro ⟨below, holds, after⟩
        rcases Nat.lt_or_eq_of_le (Nat.le_of_lt_succ below) with earlier | rfl
        · simp [after bound earlier (by omega)] at here
        · rfl
    · rename_i notHere
      rw [last_eq_some_iff]
      constructor
      · rintro ⟨below, holds, after⟩
        refine ⟨by omega, holds, fun j above below' => ?_⟩
        rcases Nat.lt_or_eq_of_le (Nat.le_of_lt_succ below') with earlier | rfl
        · exact after j above earlier
        · simpa using notHere
      · rintro ⟨below, holds, after⟩
        have notBound : index ≠ bound := by
          rintro rfl
          exact notHere holds
        exact ⟨by omega, holds, fun j above below' => after j above (by omega)⟩

theorem last_eq_none_iff : ∀ {bound : Nat}, last p bound = none ↔ ∀ j, j < bound → p j = false
  | 0 => by simp [last]
  | bound + 1 => by
    unfold last
    split
    · rename_i here
      simp only [reduceCtorEq, false_iff, not_forall]
      exact ⟨bound, by omega, by simp [here]⟩
    · rename_i notHere
      rw [last_eq_none_iff]
      constructor
      · intro none_below j below
        rcases Nat.lt_or_eq_of_le (Nat.le_of_lt_succ below) with earlier | rfl
        · exact none_below j earlier
        · simpa using notHere
      · intro none_below j below
        exact none_below j (by omega)

end IndexScan
