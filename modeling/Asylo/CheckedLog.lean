import Mathlib

/-! Logs of range checks and reads. Code that reads memory it does not own first
asks whether a range may be read and then reads; the log of one run holds both
kinds of event, in order. A log is *covered* when every range it reads lies
inside a range checked before the read, for at least the length read.

Events are of any type, with two views: the range an event checks, and the range
it reads. `allCoveredFrom` folds over a log with the ranges checked so far; the
lemmas split a log at an append, carry coverage to a larger set of checked
ranges, and let read-free events and reads of checked ranges extend a covered
log. -/
namespace CheckedLog

variable {α : Type*} (checkOf readOf : α → Option (Nat × Nat))

/-- Whether one of the `checked` ranges (start, length) holds `range`. -/
def covers (checked : List (Nat × Nat)) (range : Nat × Nat) : Bool :=
  checked.any fun c => c.1 ≤ range.1 && range.1 + range.2 ≤ c.1 + c.2

/-- The ranges checked after `log`, most recent first, over those of `checked`. -/
def checksAfter (checked : List (Nat × Nat)) : List α → List (Nat × Nat)
  | [] => checked
  | event :: rest => checksAfter ((checkOf event).toList ++ checked) rest

/-- Whether every read of `log` lies in a range of `checked` or checked by an
earlier event of `log`. -/
def allCoveredFrom (checked : List (Nat × Nat)) : List α → Bool
  | [] => true
  | event :: rest => (readOf event).all (covers checked) &&
      allCoveredFrom ((checkOf event).toList ++ checked) rest

@[simp] theorem checksAfter_nil (checked : List (Nat × Nat)) :
    checksAfter checkOf checked [] = checked := rfl

@[simp] theorem checksAfter_cons (checked : List (Nat × Nat)) (event : α) (rest : List α) :
    checksAfter checkOf checked (event :: rest) =
      checksAfter checkOf ((checkOf event).toList ++ checked) rest := rfl

@[simp] theorem allCoveredFrom_nil (checked : List (Nat × Nat)) :
    allCoveredFrom checkOf readOf checked [] = true := rfl

@[simp] theorem allCoveredFrom_cons (checked : List (Nat × Nat)) (event : α) (rest : List α) :
    allCoveredFrom checkOf readOf checked (event :: rest) =
      ((readOf event).all (covers checked) &&
        allCoveredFrom checkOf readOf ((checkOf event).toList ++ checked) rest) := rfl

theorem checksAfter_append (checked : List (Nat × Nat)) (first second : List α) :
    checksAfter checkOf checked (first ++ second) =
      checksAfter checkOf (checksAfter checkOf checked first) second := by
  induction first generalizing checked with
  | nil => rfl
  | cons event rest ih => exact ih _

/-- A log splits at an append: its second part starts from the checks of the
first. -/
theorem allCoveredFrom_append (checked : List (Nat × Nat)) (first second : List α) :
    allCoveredFrom checkOf readOf checked (first ++ second) =
      (allCoveredFrom checkOf readOf checked first &&
        allCoveredFrom checkOf readOf (checksAfter checkOf checked first) second) := by
  induction first generalizing checked with
  | nil => rfl
  | cons event rest ih => simp [ih, Bool.and_assoc]

/-- Checks are never forgotten. -/
theorem subset_checksAfter (checked : List (Nat × Nat)) (log : List α) :
    checked ⊆ checksAfter checkOf checked log := by
  induction log generalizing checked with
  | nil => exact List.Subset.refl _
  | cons event rest ih =>
    exact List.Subset.trans (List.subset_append_right _ _) (ih _)

theorem covers_mono {checked more : List (Nat × Nat)} (grown : checked ⊆ more) {range : Nat × Nat}
    (covered : covers checked range = true) : covers more range = true := by
  obtain ⟨c, member, holds⟩ := List.any_eq_true.mp covered
  exact List.any_eq_true.mpr ⟨c, grown member, holds⟩

/-- More checked ranges cover at least as much. -/
theorem allCoveredFrom_mono :
    ∀ (log : List α) {checked more : List (Nat × Nat)}, checked ⊆ more →
      allCoveredFrom checkOf readOf checked log = true → allCoveredFrom checkOf readOf more log = true := by
  intro log
  induction log with
  | nil => intro _ _ _ _; rfl
  | cons event rest ih =>
    intro checked more grown covered
    simp only [allCoveredFrom_cons, Bool.and_eq_true] at covered ⊢
    obtain ⟨first, later⟩ := covered
    have keeps : (checkOf event).toList ++ checked ⊆ (checkOf event).toList ++ more :=
      List.append_subset.mpr
        ⟨List.subset_append_left _ _, List.Subset.trans grown (List.subset_append_right _ _)⟩
    refine ⟨?_, ih keeps later⟩
    cases reading : readOf event with
    | none => rfl
    | some range =>
      rw [reading] at first
      exact covers_mono grown first

/-- Events that read nothing keep a log covered. -/
theorem allCoveredFrom_of_readFree (checked : List (Nat × Nat)) :
    ∀ (log : List α), (∀ event ∈ log, readOf event = none) →
      allCoveredFrom checkOf readOf checked log = true := by
  intro log
  induction log generalizing checked with
  | nil => intro _; rfl
  | cons event rest ih =>
    intro readFree
    simp only [allCoveredFrom_cons, readFree event List.mem_cons_self, Option.all_none,
      Bool.true_and]
    exact ih _ fun e member => readFree e (List.mem_cons_of_mem _ member)

/-- A covered log stays covered when a read of a range it has checked follows. -/
theorem allCoveredFrom_append_read {checked : List (Nat × Nat)} {log : List α} {event : α}
    {range : Nat × Nat} (covered : allCoveredFrom checkOf readOf checked log = true)
    (reading : readOf event = some range)
    (inChecked : covers (checksAfter checkOf checked log) range = true) :
    allCoveredFrom checkOf readOf checked (log ++ [event]) = true := by
  simp [allCoveredFrom_append, covered, reading, inChecked]

end CheckedLog
