import Mathlib

/-! Left folds whose state only gains members: when each step adds to what
the state holds exactly the members that the element brings, the fold holds
what it started with and the members of every element. A loop that records
what it touches, or collects into a set, is specified this way one step at a
time. The invariant form allows steps whose effect depends on a property of
the state that every step keeps. -/
namespace List

variable {α β γ : Type} (f : β → α → β)

/-- What a fold holds, for steps that each add the members of their element
while an invariant of the state holds. -/
theorem mem_foldl_iff_of_invariant (inv : β → Prop) (mem : γ → β → Prop) (new : γ → α → Prop)
    (keeps : ∀ b a, inv b → inv (f b a)) (step : ∀ x b a, inv b → (mem x (f b a) ↔ mem x b ∨ new x a)) :
    ∀ (l : List α) (b : β), inv b → ∀ x, mem x (l.foldl f b) ↔ mem x b ∨ ∃ a ∈ l, new x a := by
  intro l
  induction l with
  | nil => simp
  | cons a l ih =>
    intro b holds x
    rw [foldl_cons, ih (f b a) (keeps b a holds) x, step x b a holds]
    simp only [mem_cons, exists_eq_or_imp]
    tauto

/-- What a fold holds, for steps that each add the members of their element. -/
theorem mem_foldl_iff (mem : γ → β → Prop) (new : γ → α → Prop) (step : ∀ x b a, mem x (f b a) ↔ mem x b ∨ new x a)
    (l : List α) (b : β) (x : γ) : mem x (l.foldl f b) ↔ mem x b ∨ ∃ a ∈ l, new x a :=
  mem_foldl_iff_of_invariant f (fun _ => True) mem new (fun _ _ _ => trivial) (fun x b a _ => step x b a) l b trivial x

/-- What a nested fold holds: the inner fold over `inner` runs for each
element of `outer`, and each of its steps adds what the pair of elements
brings. -/
theorem mem_foldl_foldl_iff {δ : Type} (g : δ → β → α → β) (mem : γ → β → Prop) (new : γ → δ → α → Prop)
    (step : ∀ x b d a, mem x (g d b a) ↔ mem x b ∨ new x d a) (outer : List δ) (inner : List α) (b : β) (x : γ) :
    mem x (outer.foldl (fun b d => inner.foldl (g d) b) b) ↔ mem x b ∨ ∃ d ∈ outer, ∃ a ∈ inner, new x d a :=
  mem_foldl_iff _ mem (fun x d => ∃ a ∈ inner, new x d a)
    (fun x b d => mem_foldl_iff (g d) mem (new · d) (fun x b a => step x b d a) inner b x) outer b x

end List
