import Mathlib

/-! Deterministic machines that answer each input with an output, and what
their runs preserve. A run feeds a list of inputs one after the other. The
rules below carry an invariant along a run, also one that holds only while
each input is admissible in the state it meets; relate two machines run on
the same inputs by a simulation; and add up what a run does to a counter.

Two ways of putting machines together keep these rules usable: a bank of
machines indexed by a key, where each input names the one machine it goes to,
and two machines side by side, where an input is for the one or the other. In
both, a component's state after a run is its own run on the inputs that went
to it. -/
namespace Machine

variable {σ τ α β γ : Type*}

/-- Feeds the inputs to `step` one after another: the final state and the
outputs, in order. -/
def run (step : σ → α → σ × β) : σ → List α → σ × List β
  | s, [] => (s, [])
  | s, a :: as =>
    let rest := run step (step s a).1 as
    (rest.1, (step s a).2 :: rest.2)

section Run

variable (step : σ → α → σ × β)

@[simp] theorem run_nil (s : σ) : run step s [] = (s, []) := rfl

@[simp] theorem run_cons (s : σ) (a : α) (as : List α) :
    run step s (a :: as) =
      ((run step (step s a).1 as).1, (step s a).2 :: (run step (step s a).1 as).2) := rfl

@[simp] theorem length_run_outputs (s : σ) (as : List α) :
    (run step s as).2.length = as.length := by
  induction as generalizing s with
  | nil => rfl
  | cons a as ih => simp [ih]

/-- Every input is admissible in the state the run has reached when it comes. -/
def Admissible (admissible : σ → α → Prop) : σ → List α → Prop
  | _, [] => True
  | s, a :: as => admissible s a ∧ Admissible admissible (step s a).1 as

@[simp] theorem admissible_nil (admissible : σ → α → Prop) (s : σ) :
    Admissible step admissible s [] := trivial

@[simp] theorem admissible_cons (admissible : σ → α → Prop) (s : σ) (a : α) (as : List α) :
    Admissible step admissible s (a :: as) ↔
      admissible s a ∧ Admissible step admissible (step s a).1 as := Iff.rfl

instance decidableAdmissible {admissible : σ → α → Prop} [∀ s a, Decidable (admissible s a)] :
    ∀ (s : σ) (as : List α), Decidable (Admissible step admissible s as)
  | _, [] => isTrue trivial
  | s, a :: as => @instDecidableAnd _ _ _ (decidableAdmissible (step s a).1 as)

/-- An invariant that every step keeps holds after every run. -/
theorem run_invariant {inv : σ → Prop} (preserved : ∀ s a, inv s → inv (step s a).1) :
    ∀ {s : σ} (as : List α), inv s → inv (run step s as).1 := by
  intro s as holds
  induction as generalizing s with
  | nil => exact holds
  | cons a as ih => exact ih (preserved s a holds)

/-- An invariant that every admissible step keeps holds after every admissible run. -/
theorem run_invariant_of_admissible {inv : σ → Prop} {admissible : σ → α → Prop}
    (preserved : ∀ s a, inv s → admissible s a → inv (step s a).1) :
    ∀ {s : σ} (as : List α), inv s → Admissible step admissible s as → inv (run step s as).1 := by
  intro s as holds allowed
  induction as generalizing s with
  | nil => exact holds
  | cons a as ih =>
    obtain ⟨first, rest⟩ := allowed
    exact ih (preserved s a holds first) rest

/-- An invariant that every allowed input keeps holds after every run of
allowed inputs. -/
theorem run_invariant_of_forall {inv : σ → Prop} {allowed : α → Prop}
    (preserved : ∀ s a, inv s → allowed a → inv (step s a).1) :
    ∀ {s : σ} (as : List α), inv s → (∀ a ∈ as, allowed a) → inv (run step s as).1 := by
  intro s as holds every
  induction as generalizing s with
  | nil => exact holds
  | cons a as ih =>
    exact ih (preserved s a holds (every a List.mem_cons_self)) fun b later => every b (List.mem_cons_of_mem a later)

/-- A run of two lists of inputs is the run of the second from where the
first left off. -/
theorem run_append (s : σ) (as bs : List α) :
    run step s (as ++ bs) = ((run step (run step s as).1 bs).1, (run step s as).2 ++ (run step (run step s as).1 bs).2) := by
  induction as generalizing s with
  | nil => rfl
  | cons a as ih => simp only [List.cons_append, run_cons, ih, List.cons_append]

/-- What every step from a state of the invariant outputs holds of every
output of a run from such a state. -/
theorem run_outputs {inv : σ → Prop} {good : β → Prop} (preserved : ∀ s a, inv s → inv (step s a).1)
    (output : ∀ s a, inv s → good (step s a).2) :
    ∀ {s : σ} (as : List α), inv s → ∀ b ∈ (run step s as).2, good b := by
  intro s as holds
  induction as generalizing s with
  | nil => simp
  | cons a as ih =>
    intro b member
    rcases List.mem_cons.mp member with here | later
    · exact here ▸ output s a holds
    · exact ih (preserved s a holds) b later

/-- A quantity that each step moves by a weight of its input and output has,
after a run, moved by the sum of the weights along the run. -/
theorem run_counter (count : σ → Int) (weight : α → β → Int)
    (moves : ∀ s a, count (step s a).1 = count s + weight a (step s a).2) :
    ∀ (s : σ) (as : List α),
      count (run step s as).1 = count s + (List.zipWith weight as (run step s as).2).sum := by
  intro s as
  induction as generalizing s with
  | nil => simp
  | cons a as ih =>
    simp only [run_cons, List.zipWith_cons_cons, List.sum_cons]
    rw [ih, moves]
    omega

end Run

/-- A machine `abstract` simulates `concrete` under `related` on admissible
inputs: related states stay related and give the same outputs. -/
theorem run_simulation (concrete : σ → α → σ × β) (abstract : τ → α → τ × β)
    (related : σ → τ → Prop) (admissible : τ → α → Prop)
    (step_related : ∀ s t a, related s t → admissible t a →
      related (concrete s a).1 (abstract t a).1 ∧ (concrete s a).2 = (abstract t a).2) :
    ∀ (as : List α) {s : σ} {t : τ}, related s t → Admissible abstract admissible t as →
      related (run concrete s as).1 (run abstract t as).1 ∧
        (run concrete s as).2 = (run abstract t as).2 := by
  intro as
  induction as with
  | nil => exact fun holds _ => ⟨holds, rfl⟩
  | cons a as ih =>
    intro s t holds allowed
    obtain ⟨first, rest⟩ := allowed
    obtain ⟨nextRelated, sameOutput⟩ := step_related s t a holds first
    obtain ⟨finalRelated, sameOutputs⟩ := ih nextRelated rest
    exact ⟨finalRelated, by simp [sameOutput, sameOutputs]⟩

/-- `spec` allows the outputs `bs` for the inputs `as` along a run from `t`
to `t'`, where `spec t a b t'` says that in `t` it may answer `a` with `b` and
move to `t'`. -/
inductive Accepts (spec : τ → α → β → τ → Prop) : τ → List α → List β → τ → Prop
  | nil (t : τ) : Accepts spec t [] [] t
  | cons {t t' t'' : τ} {a : α} {as : List α} {b : β} {bs : List β} :
      spec t a b t' → Accepts spec t' as bs t'' → Accepts spec t (a :: as) (b :: bs) t''

/-- A machine refines a specification when each step from a state related to
`t` gives an output that the specification allows in `t`, towards a state
related to the machine's next one: then the specification allows each of the
machine's runs. -/
theorem run_accepts (step : σ → α → σ × β) (spec : τ → α → β → τ → Prop) (related : σ → τ → Prop)
    (step_refines : ∀ s t a, related s t → ∃ t', spec t a (step s a).2 t' ∧ related (step s a).1 t') :
    ∀ (as : List α) {s : σ} {t : τ}, related s t →
      ∃ t', Accepts spec t as (run step s as).2 t' ∧ related (run step s as).1 t' := by
  intro as
  induction as with
  | nil => exact fun {_ t} holds => ⟨t, .nil t, holds⟩
  | cons a as ih =>
    intro s t holds
    obtain ⟨next, allowed, nextRelated⟩ := step_refines s t a holds
    obtain ⟨last, rest, lastRelated⟩ := ih nextRelated
    exact ⟨last, .cons allowed rest, lastRelated⟩

/-! ## Banks of machines -/

section Bank

variable {ι : Type*} [DecidableEq ι]

/-- A bank of machines indexed by `ι`: an input names the machine that takes
it, and only that machine moves. -/
def bank (step : σ → α → σ × β) (machines : ι → σ) (input : ι × α) : (ι → σ) × β :=
  (Function.update machines input.1 (step (machines input.1) input.2).1,
    (step (machines input.1) input.2).2)

/-- The inputs of a run of a bank that go to machine `k`. -/
def inputsTo (k : ι) (inputs : List (ι × α)) : List α :=
  inputs.filterMap fun input => if input.1 = k then some input.2 else none

/-- The outputs of a run of a bank that machine `k` gave. -/
def outputsOf (k : ι) (inputs : List (ι × α)) (outputs : List β) : List β :=
  (List.zip inputs outputs).filterMap fun pair => if pair.1.1 = k then some pair.2 else none

@[simp] theorem inputsTo_nil (k : ι) : inputsTo k ([] : List (ι × α)) = [] := rfl

theorem inputsTo_cons_self (k : ι) (a : α) (inputs : List (ι × α)) :
    inputsTo k ((k, a) :: inputs) = a :: inputsTo k inputs := by
  simp [inputsTo]

theorem inputsTo_cons_other {k j : ι} (other : j ≠ k) (a : α) (inputs : List (ι × α)) :
    inputsTo k ((j, a) :: inputs) = inputsTo k inputs := by
  simp [inputsTo, other]

theorem bank_self (step : σ → α → σ × β) (machines : ι → σ) (k : ι) (a : α) :
    (bank step machines (k, a)).1 k = (step (machines k) a).1 := by
  simp [bank]

theorem bank_other (step : σ → α → σ × β) (machines : ι → σ) {k j : ι} (other : j ≠ k) (a : α) :
    (bank step machines (j, a)).1 k = machines k := by
  simp [bank, Ne.symm other]

/-- After a run of a bank, machine `k` is where its own run on the inputs that
went to it leads, and it gave exactly that run's outputs. -/
theorem run_bank (step : σ → α → σ × β) (k : ι) :
    ∀ (inputs : List (ι × α)) (machines : ι → σ),
      (run (bank step) machines inputs).1 k = (run step (machines k) (inputsTo k inputs)).1 ∧
      outputsOf k inputs (run (bank step) machines inputs).2 =
        (run step (machines k) (inputsTo k inputs)).2 := by
  intro inputs
  induction inputs with
  | nil => exact fun _ => ⟨rfl, rfl⟩
  | cons input inputs ih =>
    intro machines
    obtain ⟨j, a⟩ := input
    obtain ⟨finalState, finalOutputs⟩ := ih (bank step machines (j, a)).1
    by_cases target : j = k
    · subst target
      rw [inputsTo_cons_self, bank_self] at *
      refine ⟨finalState, ?_⟩
      simp [outputsOf, finalOutputs.symm, bank]
    · rw [inputsTo_cons_other target, bank_other step machines target] at *
      refine ⟨finalState, ?_⟩
      simpa [outputsOf, target] using finalOutputs

end Bank

/-! ## Two machines side by side -/

section Par

variable {σ₁ σ₂ α₁ α₂ : Type*}

/-- Two machines side by side: an input is for the first or for the second,
and only that one moves. -/
def par (step₁ : σ₁ → α₁ → σ₁ × β) (step₂ : σ₂ → α₂ → σ₂ × β) :
    σ₁ × σ₂ → α₁ ⊕ α₂ → (σ₁ × σ₂) × β
  | (s₁, s₂), .inl a => (((step₁ s₁ a).1, s₂), (step₁ s₁ a).2)
  | (s₁, s₂), .inr a => ((s₁, (step₂ s₂ a).1), (step₂ s₂ a).2)

/-- The outputs a run of two machines side by side got from the first one. -/
def leftOutputs (inputs : List (α₁ ⊕ α₂)) (outputs : List β) : List β :=
  (List.zip inputs outputs).filterMap fun pair => if pair.1.isLeft then some pair.2 else none

/-- The outputs a run of two machines side by side got from the second one. -/
def rightOutputs (inputs : List (α₁ ⊕ α₂)) (outputs : List β) : List β :=
  (List.zip inputs outputs).filterMap fun pair => if pair.1.isRight then some pair.2 else none

/-- The first machine runs on the inputs that are for it, and gives the
outputs the run got from it. -/
theorem run_par_left (step₁ : σ₁ → α₁ → σ₁ × β) (step₂ : σ₂ → α₂ → σ₂ × β) :
    ∀ (inputs : List (α₁ ⊕ α₂)) (s : σ₁ × σ₂),
      (run (par step₁ step₂) s inputs).1.1 = (run step₁ s.1 (inputs.filterMap Sum.getLeft?)).1 ∧
      leftOutputs inputs (run (par step₁ step₂) s inputs).2 =
        (run step₁ s.1 (inputs.filterMap Sum.getLeft?)).2 := by
  intro inputs
  induction inputs with
  | nil => exact fun _ => ⟨rfl, rfl⟩
  | cons input inputs ih =>
    rintro ⟨s₁, s₂⟩
    cases input with
    | inl a =>
      obtain ⟨finalState, finalOutputs⟩ := ih ((step₁ s₁ a).1, s₂)
      exact ⟨by simpa [par, List.filterMap_cons] using finalState,
        by simpa [leftOutputs, par, List.filterMap_cons] using finalOutputs⟩
    | inr a =>
      obtain ⟨finalState, finalOutputs⟩ := ih (s₁, (step₂ s₂ a).1)
      exact ⟨by simpa [par, List.filterMap_cons] using finalState,
        by simpa [leftOutputs, par, List.filterMap_cons] using finalOutputs⟩

/-- The second machine runs on the inputs that are for it, and gives the
outputs the run got from it. -/
theorem run_par_right (step₁ : σ₁ → α₁ → σ₁ × β) (step₂ : σ₂ → α₂ → σ₂ × β) :
    ∀ (inputs : List (α₁ ⊕ α₂)) (s : σ₁ × σ₂),
      (run (par step₁ step₂) s inputs).1.2 = (run step₂ s.2 (inputs.filterMap Sum.getRight?)).1 ∧
      rightOutputs inputs (run (par step₁ step₂) s inputs).2 =
        (run step₂ s.2 (inputs.filterMap Sum.getRight?)).2 := by
  intro inputs
  induction inputs with
  | nil => exact fun _ => ⟨rfl, rfl⟩
  | cons input inputs ih =>
    rintro ⟨s₁, s₂⟩
    cases input with
    | inl a =>
      obtain ⟨finalState, finalOutputs⟩ := ih ((step₁ s₁ a).1, s₂)
      exact ⟨by simpa [par, List.filterMap_cons] using finalState,
        by simpa [rightOutputs, par, List.filterMap_cons] using finalOutputs⟩
    | inr a =>
      obtain ⟨finalState, finalOutputs⟩ := ih (s₁, (step₂ s₂ a).1)
      exact ⟨by simpa [par, List.filterMap_cons] using finalState,
        by simpa [rightOutputs, par, List.filterMap_cons] using finalOutputs⟩

end Par

end Machine
