import Asylo.IdentityAclEvaluator

/-! The Boolean meaning of an identity ACL, and that the evaluator computes it.

`denote isMatch identities acl` reads an expectation as "some identity matches
it" and a group as the disjunction, conjunction or negation of its predicates.
On a well-formed tree (groups non-empty, `NOT` groups with one predicate, no
unset item) and with a matcher that never fails, `EvaluateIdentityAcl` returns
that meaning, and it leaves the explanation as it found it whenever the ACL
holds. -/
namespace Asylo.IdentityAclEvaluator

variable {EnclaveIdentity EnclaveIdentityExpectation : Type}

section Semantics

variable (isMatch : EnclaveIdentity → EnclaveIdentityExpectation → Bool)
  (identities : List EnclaveIdentity)

mutual

/-- The meaning of an ACL predicate for `identities`. -/
def denote : IdentityAclPredicate EnclaveIdentityExpectation → Bool
  | .aclGroup .OR predicates => denoteAny predicates
  | .aclGroup .AND predicates => denoteAll predicates
  | .aclGroup .NOT [predicate] => !denote predicate
  | .aclGroup .NOT _ => false
  | .expectation expectation => identities.any (isMatch · expectation)
  | .itemNotSet => false

/-- Some predicate holds. -/
def denoteAny : List (IdentityAclPredicate EnclaveIdentityExpectation) → Bool
  | [] => false
  | predicate :: predicates => denote predicate || denoteAny predicates

/-- Every predicate holds. -/
def denoteAll : List (IdentityAclPredicate EnclaveIdentityExpectation) → Bool
  | [] => true
  | predicate :: predicates => denote predicate && denoteAll predicates

end

theorem denoteAny_eq_true {predicates : List (IdentityAclPredicate EnclaveIdentityExpectation)} :
    denoteAny isMatch identities predicates = true ↔
      ∃ predicate ∈ predicates, denote isMatch identities predicate = true := by
  induction predicates with
  | nil => simp [denoteAny]
  | cons predicate predicates ih => simp [denoteAny, ih]

theorem denoteAll_eq_true {predicates : List (IdentityAclPredicate EnclaveIdentityExpectation)} :
    denoteAll isMatch identities predicates = true ↔
      ∀ predicate ∈ predicates, denote isMatch identities predicate = true := by
  induction predicates with
  | nil => simp [denoteAll]
  | cons predicate predicates ih => simp [denoteAll, ih]

end Semantics

/-- The trees the evaluator accepts: every group is non-empty, and a `NOT`
group has exactly one predicate. -/
inductive WellFormed : IdentityAclPredicate EnclaveIdentityExpectation → Prop
  | expectation (expectation : EnclaveIdentityExpectation) : WellFormed (.expectation expectation)
  | orGroup {predicates : List (IdentityAclPredicate EnclaveIdentityExpectation)}
      (nonempty : predicates ≠ []) (children : ∀ predicate ∈ predicates, WellFormed predicate) :
      WellFormed (.aclGroup .OR predicates)
  | andGroup {predicates : List (IdentityAclPredicate EnclaveIdentityExpectation)}
      (nonempty : predicates ≠ []) (children : ∀ predicate ∈ predicates, WellFormed predicate) :
      WellFormed (.aclGroup .AND predicates)
  | notGroup {predicate : IdentityAclPredicate EnclaveIdentityExpectation}
      (child : WellFormed predicate) : WellFormed (.aclGroup .NOT [predicate])

section Evaluation

variable {matcher : IdentityExpectationMatcher EnclaveIdentity EnclaveIdentityExpectation}
  {isMatch : EnclaveIdentity → EnclaveIdentityExpectation → Bool}
  (identities : List EnclaveIdentity)

/-- The evaluator computes the meaning of `acl` from every explanation, and
leaves the explanation alone when `acl` holds. -/
def Decides (matcher : IdentityExpectationMatcher EnclaveIdentity EnclaveIdentityExpectation)
    (isMatch : EnclaveIdentity → EnclaveIdentityExpectation → Bool)
    (acl : IdentityAclPredicate EnclaveIdentityExpectation) : Prop :=
  ∀ explanation,
    (evaluateIdentityAclImpl identities acl matcher explanation).1 = .ok (denote isMatch identities acl) ∧
      (denote isMatch identities acl = true →
        (evaluateIdentityAclImpl identities acl matcher explanation).2 = explanation)

variable (total : ∀ identity expectation, (matcher identity expectation).1 = .ok (isMatch identity expectation))
include total

/-- The loop over the identities stops at the first that matches. -/
theorem evaluateAclExpectationLoop_spec (expectation : EnclaveIdentityExpectation)
    (explanation : Option String) (explanations : List String) :
    (evaluateAclExpectationLoop expectation matcher explanation explanations identities).1 =
        .ok (identities.any (isMatch · expectation)) ∧
      (identities.any (isMatch · expectation) = true →
        (evaluateAclExpectationLoop expectation matcher explanation explanations identities).2 =
          explanation) := by
  induction identities generalizing explanations with
  | nil => simp [evaluateAclExpectationLoop]
  | cons identity identities ih =>
    rcases matched : matcher identity expectation with ⟨result, localExplanation⟩
    have result_eq : result = .ok (isMatch identity expectation) := by
      simpa [matched] using total identity expectation
    subst result_eq
    cases holds : isMatch identity expectation
    · simpa [evaluateAclExpectationLoop, matched, holds] using ih (collect explanations localExplanation)
    · simp [evaluateAclExpectationLoop, matched, holds]

omit total in
/-- A child that decides its meaning returns it from the fresh string of its
group, with some explanation. -/
private theorem child_result {predicate : IdentityAclPredicate EnclaveIdentityExpectation}
    (decides : Decides identities matcher isMatch predicate) (explanation : Option String) :
    ∃ localExplanation, evaluateIdentityAclImpl identities predicate matcher explanation =
      (.ok (denote isMatch identities predicate), localExplanation) := by
  obtain ⟨result, -⟩ := decides explanation
  exact ⟨_, Prod.ext result rfl⟩

omit total in
/-- An `OR` group whose predicates each decide their meaning decides the
disjunction. -/
theorem evaluateAclOrPredicateGroup_spec {predicates : List (IdentityAclPredicate EnclaveIdentityExpectation)}
    (children : ∀ predicate ∈ predicates, Decides identities matcher isMatch predicate)
    (explanation : Option String) (explanations : List String) :
    (evaluateAclOrPredicateGroup identities predicates matcher explanation explanations).1 =
        .ok (denoteAny isMatch identities predicates) ∧
      (denoteAny isMatch identities predicates = true →
        (evaluateAclOrPredicateGroup identities predicates matcher explanation explanations).2 =
          explanation) := by
  induction predicates generalizing explanations with
  | nil => simp [evaluateAclOrPredicateGroup, denoteAny]
  | cons predicate predicates ih =>
    obtain ⟨localExplanation, evaluated⟩ :=
      child_result identities (children predicate List.mem_cons_self) (some "")
    have rest := ih (fun other member => children other (List.mem_cons_of_mem _ member))
    cases holds : denote isMatch identities predicate
    · simpa [evaluateAclOrPredicateGroup, evaluated, holds, denoteAny] using rest _
    · simp [evaluateAclOrPredicateGroup, evaluated, holds, denoteAny]

omit total in
/-- An `AND` group whose predicates each decide their meaning decides the
conjunction with the `match_result` so far. -/
theorem evaluateAclAndPredicateGroup_spec {predicates : List (IdentityAclPredicate EnclaveIdentityExpectation)}
    (children : ∀ predicate ∈ predicates, Decides identities matcher isMatch predicate)
    (explanation : Option String) (explanations : List String) (matchResult : Bool) :
    (evaluateAclAndPredicateGroup identities predicates matcher explanation explanations matchResult).1 =
        .ok (matchResult && denoteAll isMatch identities predicates) ∧
      ((matchResult && denoteAll isMatch identities predicates) = true →
        (evaluateAclAndPredicateGroup identities predicates matcher explanation explanations
          matchResult).2 = explanation) := by
  induction predicates generalizing explanations matchResult with
  | nil => cases matchResult <;> simp [evaluateAclAndPredicateGroup, denoteAll]
  | cons predicate predicates ih =>
    obtain ⟨localExplanation, evaluated⟩ :=
      child_result identities (children predicate List.mem_cons_self) (some "")
    have rest := ih (fun other member => children other (List.mem_cons_of_mem _ member))
      (collect explanations (localExplanation.getD ""))
      (matchResult && denote isMatch identities predicate)
    simp only [evaluateAclAndPredicateGroup, evaluated, denoteAll, ← Bool.and_assoc]
    exact rest

omit total in
/-- A `NOT` group over a predicate that decides its meaning decides the
negation; it writes its explanation only when the predicate holds. -/
theorem evaluateAclNotPredicateGroup_spec {predicate : IdentityAclPredicate EnclaveIdentityExpectation}
    (child : Decides identities matcher isMatch predicate) (explanation : Option String) :
    (evaluateAclNotPredicateGroup identities [predicate] matcher explanation).1 =
        .ok (!denote isMatch identities predicate) ∧
      (!denote isMatch identities predicate = true →
        (evaluateAclNotPredicateGroup identities [predicate] matcher explanation).2 = explanation) := by
  obtain ⟨localExplanation, evaluated⟩ := child_result identities child none
  cases holds : denote isMatch identities predicate <;>
    simp [evaluateAclNotPredicateGroup, evaluated, holds]

/-- Every well-formed tree decides its meaning, by induction on the tree. -/
theorem decides_of_wellFormed {acl : IdentityAclPredicate EnclaveIdentityExpectation}
    (wellFormed : WellFormed acl) : Decides identities matcher isMatch acl := by
  induction wellFormed with
  | expectation expectation =>
    intro explanation
    simpa [evaluateIdentityAclImpl, evaluateAclExpectation, denote] using
      evaluateAclExpectationLoop_spec identities total expectation explanation []
  | orGroup nonempty _ ih =>
    intro explanation
    simpa [evaluateIdentityAclImpl, nonempty, denote] using
      evaluateAclOrPredicateGroup_spec identities ih explanation []
  | andGroup nonempty _ ih =>
    intro explanation
    simpa [evaluateIdentityAclImpl, nonempty, denote] using
      evaluateAclAndPredicateGroup_spec identities ih explanation [] true
  | notGroup _ ih =>
    intro explanation
    simpa [evaluateIdentityAclImpl, denote] using
      evaluateAclNotPredicateGroup_spec identities ih explanation

end Evaluation

/-- The prefix of `EvaluateIdentityAcl` touches only the explanation. -/
theorem evaluateIdentityAcl_fst (identities : List EnclaveIdentity)
    (acl : IdentityAclPredicate EnclaveIdentityExpectation)
    (matcher : IdentityExpectationMatcher EnclaveIdentity EnclaveIdentityExpectation)
    (explanation : Option String) :
    (evaluateIdentityAcl identities acl matcher explanation).1 =
      (evaluateIdentityAclImpl identities acl matcher explanation).1 := by
  unfold evaluateIdentityAcl
  split <;> simp_all

/-- An empty explanation gets no prefix. -/
theorem evaluateIdentityAcl_snd_empty {identities : List EnclaveIdentity}
    {acl : IdentityAclPredicate EnclaveIdentityExpectation}
    {matcher : IdentityExpectationMatcher EnclaveIdentity EnclaveIdentityExpectation}
    {explanation : Option String}
    (empty : (evaluateIdentityAclImpl identities acl matcher explanation).2 = some "") :
    (evaluateIdentityAcl identities acl matcher explanation).2 = some "" := by
  unfold evaluateIdentityAcl
  split <;> simp_all

/-- `EvaluateIdentityAcl` implements the Boolean meaning of a well-formed ACL
for a matcher that never fails, from every explanation pointer; from an empty
explanation, it returns an empty one whenever the ACL holds. -/
theorem evaluateIdentityAcl_boolean (identities : List EnclaveIdentity)
    (acl : IdentityAclPredicate EnclaveIdentityExpectation) (wellFormed : WellFormed acl)
    (matcher : IdentityExpectationMatcher EnclaveIdentity EnclaveIdentityExpectation)
    (isMatch : EnclaveIdentity → EnclaveIdentityExpectation → Bool)
    (total : ∀ identity expectation, (matcher identity expectation).1 = .ok (isMatch identity expectation)) :
    (∀ explanation, (evaluateIdentityAcl identities acl matcher explanation).1 =
        .ok (denote isMatch identities acl)) ∧
      (denote isMatch identities acl = true →
        (evaluateIdentityAcl identities acl matcher (some "")).2 = some "") := by
  have decides := decides_of_wellFormed identities total wellFormed
  constructor
  · intro explanation
    rw [evaluateIdentityAcl_fst]
    exact (decides explanation).1
  · intro holds
    exact evaluateIdentityAcl_snd_empty ((decides (some "")).2 holds)

theorem evaluateIdentityAcl_boolean_nested_acl :
    let acl : IdentityAclPredicate Nat :=
      .aclGroup .OR [.aclGroup .AND [.expectation 1, .aclGroup .NOT [.expectation 2]], .expectation 3]
    let matcher : IdentityExpectationMatcher Nat Nat := fun identity expectation =>
      (.ok (identity == expectation), if identity == expectation then "" else "identity differs")
    (evaluateIdentityAcl [1] acl matcher none).1 = .ok true ∧
      (evaluateIdentityAcl [1] acl matcher (some "")).2 = some "" := by
  intro acl matcher
  have andGroup : WellFormed (.aclGroup .AND [.expectation 1, .aclGroup .NOT [.expectation (2 : Nat)]]) := by
    apply WellFormed.andGroup (List.cons_ne_nil _ _)
    intro predicate member
    rcases List.mem_pair.mp member with rfl | rfl
    · exact .expectation 1
    · exact .notGroup (.expectation 2)
  have wellFormed : WellFormed acl := by
    apply WellFormed.orGroup (List.cons_ne_nil _ _)
    intro predicate member
    rcases List.mem_pair.mp member with rfl | rfl
    · exact andGroup
    · exact .expectation 3
  have boolean := evaluateIdentityAcl_boolean [1] acl wellFormed matcher (· == ·) (fun _ _ => rfl)
  exact ⟨boolean.1 none, boolean.2 rfl⟩

/-- A failed match is reported under the prefix. -/
example : evaluateIdentityAcl [1] (.expectation 2)
      (fun identity expectation => (.ok (identity == expectation),
        if identity == expectation then "" else "identity differs")) (some "") =
    (.ok false, some "ACL failed to match:\n  identity differs") := by
  decide

end Asylo.IdentityAclEvaluator
