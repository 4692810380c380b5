import Mathlib

/-! Inversion rules for computations in `Except`: a bind that succeeds came
from a first step that succeeded, and a fold that succeeds went through states
that each successful step of the fold leads to. They turn a validation loop
written as a fold into facts about each round. -/
namespace Except

universe u v

variable {ε : Type u} {α β : Type v}

theorem bind_eq_ok {x : Except ε α} {f : α → Except ε β} {b : β} :
    x >>= f = .ok b ↔ ∃ a, x = .ok a ∧ f a = .ok b := by
  cases x with
  | error e => simp [bind, Except.bind]
  | ok a => simp [bind, Except.bind]

theorem map_eq_ok {x : Except ε α} {f : α → β} {b : β} :
    f <$> x = .ok b ↔ ∃ a, x = .ok a ∧ f a = b := by
  cases x with
  | error e => simp [Functor.map, Except.map]
  | ok a => simp [Functor.map, Except.map]

theorem exists_map_eq_ok {x : Except ε α} {f : α → β} : (∃ b, f <$> x = .ok b) ↔ ∃ a, x = .ok a := by
  cases x with
  | error e => simp [Functor.map, Except.map]
  | ok a => simp [Functor.map, Except.map]

/-- A failure ends the computation. -/
@[simp] theorem throw_bind {e : ε} {f : α → Except ε β} : (throw e : Except ε α) >>= f = throw e := rfl

/-- A failure is no success. -/
@[simp] theorem throw_eq_ok {e : ε} {a : α} : (throw e : Except ε α) = .ok a ↔ False := by
  constructor
  · intro failed
    cases failed
  · exact False.elim

@[simp] theorem pure_eq_ok {a b : α} : (pure a : Except ε α) = .ok b ↔ a = b :=
  ⟨fun same => Except.ok.inj same, fun same => same ▸ rfl⟩

/-- A check that throws when `c` holds, then the rest. -/
theorem ite_throw_eq_ok {c : Prop} [Decidable c] {e : ε} {f : PUnit → Except ε α} {g : Except ε α} {b : α} :
    (if c then throw e >>= f else g) = .ok b ↔ ¬c ∧ g = .ok b := by
  by_cases holds : c
  · simp [holds]
  · simp [holds]

/-- The value of a success, read through `toOption`. -/
theorem toOption_getD_of_eq_ok {x : Except ε α} {a : α} (fallback : α) (succeeded : x = .ok a) :
    x.toOption.getD fallback = a := by
  subst succeeded
  rfl

/-- A success passes its value on. -/
@[simp] theorem ok_bind {a : α} {f : α → Except ε β} : (Except.ok a : Except ε α) >>= f = f a := rfl

/-- A check that returns nothing and succeeds, then the rest. -/
theorem bind_unit_eq_ok {x : Except ε PUnit} {f : PUnit → Except ε β} {b : β} :
    x >>= f = .ok b ↔ x = .ok PUnit.unit ∧ f PUnit.unit = .ok b := by
  rw [bind_eq_ok]
  constructor
  · rintro ⟨⟨⟩, first, rest⟩
    exact ⟨first, rest⟩
  · rintro ⟨first, rest⟩
    exact ⟨PUnit.unit, first, rest⟩

section Fold

variable {f : β → α → Except ε β} (inv : β → Prop)
  (preserved : ∀ b a b', inv b → f b a = .ok b' → inv b')
include preserved

/-- An invariant of the successful steps holds after a successful fold. -/
theorem foldlM_invariant :
    ∀ (l : List α) {init final : β}, inv init → l.foldlM f init = .ok final → inv final := by
  intro l
  induction l with
  | nil =>
    intro init final holds done
    simp only [List.foldlM_nil, pure, Except.pure, Except.ok.injEq] at done
    exact done ▸ holds
  | cons a l ih =>
    intro init final holds done
    obtain ⟨next, first, rest⟩ := Except.bind_eq_ok.mp done
    exact ih (preserved init a next holds first) rest

/-- Every element of a successful fold was met in a state of the invariant,
and its step succeeded there. -/
theorem foldlM_mem_step :
    ∀ (l : List α) {init final : β}, inv init → l.foldlM f init = .ok final →
      ∀ a ∈ l, ∃ b b', inv b ∧ f b a = .ok b' := by
  intro l
  induction l with
  | nil => intro _ _ _ _ a member; cases member
  | cons a l ih =>
    intro init final holds done x member
    obtain ⟨next, first, rest⟩ := Except.bind_eq_ok.mp done
    rcases List.mem_cons.mp member with here | later
    · exact here ▸ ⟨init, next, holds, first⟩
    · exact ih (preserved init a next holds first) rest x later

end Fold

section Range

variable {f : β → Nat → Except ε β} (g : Nat → β)

/-- A fold over `0, …, n - 1` whose round `j` goes from `g j` to `g (j + 1)`
ends at `g n`. -/
theorem foldlM_range_ok :
    ∀ n, (∀ j < n, f (g j) j = .ok (g (j + 1))) → (List.range n).foldlM f (g 0) = .ok (g n) := by
  intro n
  induction n with
  | zero => intro _; rfl
  | succ n ih =>
    intro rounds
    rw [List.range_succ, List.foldlM_append, ih fun j before => rounds j (by omega)]
    show List.foldlM f (g n) [n] = _
    simp only [List.foldlM_cons, List.foldlM_nil, bind_pure]
    exact rounds n (by omega)

/-- Such a fold fails with the error of the first round that fails. -/
theorem foldlM_range_error {i : Nat} {e : ε} (before : ∀ j < i, f (g j) j = .ok (g (j + 1)))
    (fails : f (g i) i = .error e) : ∀ n, i < n → (List.range n).foldlM f (g 0) = .error e := by
  intro n
  induction n with
  | zero => intro within; omega
  | succ n ih =>
    intro within
    rw [List.range_succ, List.foldlM_append]
    rcases Nat.lt_succ_iff_lt_or_eq.mp within with earlier | rfl
    · rw [ih earlier]
      rfl
    · rw [foldlM_range_ok g i before]
      show List.foldlM f (g i) [i] = _
      simp only [List.foldlM_cons, List.foldlM_nil, bind_pure]
      exact fails

end Range

section MapM

variable {f : α → Except ε β}

/-- A successful `mapM` has one result for each input. -/
theorem length_of_mapM_eq_ok : ∀ {as : List α} {bs : List β}, as.mapM f = .ok bs → bs.length = as.length := by
  intro as
  induction as with
  | nil =>
    intro bs done
    cases done
    rfl
  | cons a as ih =>
    intro bs done
    simp only [List.mapM_cons] at done
    obtain ⟨b, _, done⟩ := Except.bind_eq_ok.mp done
    obtain ⟨rest, mapped, done⟩ := Except.bind_eq_ok.mp done
    cases done
    simp [ih mapped]

/-- A map that `g` undoes on each of its successes is undone by `g` over a
whole list. -/
theorem mapM_inverse {g : β → Except ε α} (inverse : ∀ a b, f a = .ok b → g b = .ok a) :
    ∀ {as : List α} {bs : List β}, as.mapM f = .ok bs → bs.mapM g = .ok as := by
  intro as
  induction as with
  | nil =>
    intro bs done
    cases done
    rfl
  | cons a as ih =>
    intro bs done
    simp only [List.mapM_cons] at done
    obtain ⟨b, first, done⟩ := Except.bind_eq_ok.mp done
    obtain ⟨rest, mapped, done⟩ := Except.bind_eq_ok.mp done
    cases done
    rw [List.mapM_cons, inverse a b first, ih mapped]
    rfl

/-- A `mapM` succeeds exactly when each input's step succeeds, with the
results in order. -/
theorem mapM_eq_ok_iff : ∀ {as : List α} {bs : List β}, as.mapM f = .ok bs ↔ List.Forall₂ (fun a b => f a = .ok b) as bs
  | [], bs => by
    cases bs with
    | nil => simp [pure, Except.pure]
    | cons b bs =>
      simp only [List.mapM_nil, pure_eq_ok, reduceCtorEq, false_iff]
      intro related
      cases related
  | a :: as, bs => by
    simp only [List.mapM_cons, Except.bind_eq_ok, pure_eq_ok]
    cases bs with
    | nil =>
      simp only [reduceCtorEq, and_false, exists_const, exists_false, false_iff]
      intro related
      cases related
    | cons b bs =>
      rw [List.forall₂_cons, ← mapM_eq_ok_iff]
      constructor
      · rintro ⟨first, stepped, rest, mapped, same⟩
        obtain ⟨rfl, rfl⟩ := List.cons_eq_cons.mp same
        exact ⟨stepped, mapped⟩
      · rintro ⟨stepped, mapped⟩
        exact ⟨b, stepped, bs, mapped, rfl⟩

/-- A map each of whose steps succeeds with `g` of its input. -/
theorem mapM_eq_ok_map {g : α → β} : ∀ {as : List α}, (∀ a ∈ as, f a = .ok (g a)) → as.mapM f = .ok (as.map g)
  | [], _ => rfl
  | a :: as, each => by
    rw [List.mapM_cons, each a List.mem_cons_self, mapM_eq_ok_map fun b member => each b (List.mem_cons_of_mem _ member)]
    rfl

/-- A map each of whose steps succeeds succeeds. -/
theorem exists_mapM_eq_ok : ∀ {as : List α}, (∀ a ∈ as, ∃ b, f a = .ok b) → ∃ bs, as.mapM f = .ok bs
  | [], _ => ⟨[], rfl⟩
  | a :: as, each => by
    obtain ⟨b, first⟩ := each a List.mem_cons_self
    obtain ⟨bs, rest⟩ := exists_mapM_eq_ok fun other member => each other (List.mem_cons_of_mem _ member)
    exact ⟨b :: bs, by rw [List.mapM_cons, first, rest]; rfl⟩

/-- Each result of a successful map is the result of one of its inputs. -/
theorem mem_of_mapM_eq_ok {as : List α} {bs : List β} (done : as.mapM f = .ok bs) {b : β} (member : b ∈ bs) :
    ∃ a ∈ as, f a = .ok b := by
  have related := mapM_eq_ok_iff.mp done
  clear done
  -- the induction is on the pairing of inputs and results
  induction related with
  | nil => cases member
  | @cons a b' as bs stepped _ ih =>
    rcases List.mem_cons.mp member with rfl | later
    · exact ⟨a, List.mem_cons_self, stepped⟩
    · obtain ⟨a', member', stepped'⟩ := ih later
      exact ⟨a', List.mem_cons_of_mem _ member', stepped'⟩

end MapM

section Perm

/-- `f` then `g`, both succeeding, can be run as `g` then `f` to the same
end. -/
def SuccessCommute (f g : β → Except ε β) : Prop :=
  ∀ b b₁ b₂, f b = .ok b₁ → g b₁ = .ok b₂ → ∃ b₁', g b = .ok b₁' ∧ f b₁' = .ok b₂

variable {f : β → α → Except ε β}

/-- A fold that succeeds ends in the same state over any reordering of its
list, when any two different steps of the list succeed in either order. The
induction is on the permutation; only a swap uses the commutation. -/
theorem foldlM_perm_of_ok {l₁ l₂ : List α} (perm : l₁.Perm l₂) :
    (∀ x ∈ l₁, ∀ y ∈ l₁, x ≠ y → SuccessCommute (f · x) (f · y)) →
      ∀ {init final : β}, l₁.foldlM f init = .ok final → l₂.foldlM f init = .ok final := by
  induction perm with
  | nil =>
    intro _ _ _ done
    exact done
  | cons x _ ih =>
    intro commute init final done
    rw [List.foldlM_cons] at done ⊢
    obtain ⟨next, first, rest⟩ := Except.bind_eq_ok.mp done
    rw [first]
    exact ih (fun a ha b hb => commute a (List.mem_cons_of_mem _ ha) b (List.mem_cons_of_mem _ hb)) rest
  | swap x y l =>
    intro commute init final done
    by_cases same : y = x
    · subst same
      exact done
    · simp only [List.foldlM_cons] at done ⊢
      obtain ⟨afterY, firstY, done⟩ := Except.bind_eq_ok.mp done
      obtain ⟨afterBoth, thenX, rest⟩ := Except.bind_eq_ok.mp done
      obtain ⟨afterX, firstX, thenY⟩ :=
        commute y List.mem_cons_self x (List.mem_cons_of_mem _ List.mem_cons_self) same init afterY afterBoth
          firstY thenX
      beta_reduce at firstX thenY
      rw [firstX]
      show (f afterX y >>= fun b => l.foldlM f b) = _
      rw [thenY]
      exact rest
  | trans first second ih₁ ih₂ =>
    intro commute init final done
    exact ih₂ (fun a ha b hb => commute a (first.symm.subset ha) b (first.symm.subset hb)) (ih₁ commute done)

/-- Two steps, each of which reads a part of the state the other does not
write, and whose writes do not interfere, succeed in either order to the same
state. -/
theorem successCommute_of_independent {γ δ : Type v} {read₁ : β → Except ε γ} {read₂ : β → Except ε δ}
    {write₁ : γ → β → β} {write₂ : δ → β → β}
    (reads₁ : ∀ y b, read₁ (write₂ y b) = read₁ b) (reads₂ : ∀ x b, read₂ (write₁ x b) = read₂ b)
    (writes : ∀ x y b, write₂ y (write₁ x b) = write₁ x (write₂ y b)) :
    SuccessCommute (fun b => (write₁ · b) <$> read₁ b) (fun b => (write₂ · b) <$> read₂ b) := by
  intro b b₁ b₂ first second
  obtain ⟨x, readX, rfl⟩ := Except.map_eq_ok.mp first
  obtain ⟨y, readY, rfl⟩ := Except.map_eq_ok.mp second
  rw [reads₂] at readY
  refine ⟨write₂ y b, by beta_reduce; rw [readY]; rfl, ?_⟩
  beta_reduce
  rw [reads₁, readX, writes]
  rfl

end Perm

end Except
