import Asylo.Util

/-! The identity ACL evaluator (`identity/identity_acl_evaluator.cc`): an ACL is
a tree of `OR`, `AND` and `NOT` groups over identity expectations, evaluated
against the identities of a peer with an `IdentityExpectationMatcher`.

Every function takes the `std::string *explanation` of the source as an
`Option String`: `none` is `nullptr`, `some text` a string holding `text`; it
returns the result with what the string holds afterwards. The children of a
group are evaluated into a fresh local string (`some ""`), except the child of
a `NOT` group, which gets `nullptr`. -/
namespace Asylo.IdentityAclEvaluator

/-- `IdentityAclGroup::GroupType`. A proto2 enum field only ever holds one of
its values, so the source's `default` case is not reachable. -/
inductive GroupType
  | OR
  | AND
  | NOT
  deriving DecidableEq, Repr

/-- `IdentityAclPredicate`, the `item` oneof: a group (`IdentityAclGroup`, with
its type and predicates), an expectation, or nothing. -/
inductive IdentityAclPredicate (EnclaveIdentityExpectation : Type) where
  | aclGroup (type : GroupType) (predicates : List (IdentityAclPredicate EnclaveIdentityExpectation))
  | expectation (expectation : EnclaveIdentityExpectation)
  | itemNotSet

/-- `IdentityExpectationMatcher::MatchAndExplain(identity, expectation,
&local_explanation)` on a fresh string: the result, and what it wrote. -/
abbrev IdentityExpectationMatcher (EnclaveIdentity EnclaveIdentityExpectation : Type) :=
  EnclaveIdentity → EnclaveIdentityExpectation → StatusOr Bool × String

/-- `kSeparator`. -/
def kSeparator : String := "\n  "

/-- `if (explanation != nullptr) *explanation = text;` -/
def setExplanation (explanation : Option String) (text : String) : Option String :=
  explanation.map fun _ => text

/-- `if (!local_explanation.empty()) explanations.push_back(local_explanation);` -/
def collect (explanations : List String) (localExplanation : String) : List String :=
  if localExplanation.isEmpty then explanations else explanations ++ [localExplanation]

variable {EnclaveIdentity EnclaveIdentityExpectation : Type}

/-- The loop of `EvaluateAclExpectation` over `identities`, with the
explanations collected so far: the first identity that matches ends it. -/
def evaluateAclExpectationLoop (expectation : EnclaveIdentityExpectation)
    (matcher : IdentityExpectationMatcher EnclaveIdentity EnclaveIdentityExpectation)
    (explanation : Option String) (explanations : List String) :
    List EnclaveIdentity → StatusOr Bool × Option String
  | [] => (.ok false, setExplanation explanation (kSeparator.intercalate explanations))
  | identity :: identities =>
    match matcher identity expectation with
    | (.error status, _) => (.error status, explanation)
    | (.ok true, _) => (.ok true, explanation)
    | (.ok false, localExplanation) =>
      evaluateAclExpectationLoop expectation matcher explanation
        (collect explanations localExplanation) identities

/-- `EvaluateAclExpectation(identities, expectation, matcher, explanation)`. -/
def evaluateAclExpectation (identities : List EnclaveIdentity)
    (expectation : EnclaveIdentityExpectation)
    (matcher : IdentityExpectationMatcher EnclaveIdentity EnclaveIdentityExpectation)
    (explanation : Option String) : StatusOr Bool × Option String :=
  evaluateAclExpectationLoop expectation matcher explanation [] identities

mutual

/-- `EvaluateIdentityAclImpl(identities, acl, matcher, explanation)`. The group
case is `EvaluateAclPredicateGroup`, which refuses an empty group and
dispatches on the group's type. -/
def evaluateIdentityAclImpl (identities : List EnclaveIdentity) :
    IdentityAclPredicate EnclaveIdentityExpectation →
      IdentityExpectationMatcher EnclaveIdentity EnclaveIdentityExpectation →
      Option String → StatusOr Bool × Option String
  | .aclGroup type predicates, matcher, explanation =>
    if predicates.isEmpty then
      (.error ⟨.invalidArgument, "ACL predicate groups cannot be empty"⟩, explanation)
    else
      match type with
      | .OR => evaluateAclOrPredicateGroup identities predicates matcher explanation []
      | .AND => evaluateAclAndPredicateGroup identities predicates matcher explanation [] true
      | .NOT => evaluateAclNotPredicateGroup identities predicates matcher explanation
  | .expectation expectation, matcher, explanation =>
    evaluateAclExpectation identities expectation matcher explanation
  | .itemNotSet, _, explanation =>
    (.error ⟨.invalidArgument, "Invalid ACL predicate: must be either a group or an expectation."⟩,
      explanation)

/-- `EvaluateAclOrPredicateGroup`, with the explanations collected so far: the
first predicate that holds ends the loop and leaves `explanation` alone. -/
def evaluateAclOrPredicateGroup (identities : List EnclaveIdentity) :
    List (IdentityAclPredicate EnclaveIdentityExpectation) →
      IdentityExpectationMatcher EnclaveIdentity EnclaveIdentityExpectation →
      Option String → List String → StatusOr Bool × Option String
  | [], _, explanation, explanations =>
    (.ok false, setExplanation explanation (kSeparator.intercalate explanations))
  | predicate :: predicates, matcher, explanation, explanations =>
    match evaluateIdentityAclImpl identities predicate matcher (some "") with
    | (.error status, _) => (.error status, explanation)
    | (.ok true, _) => (.ok true, explanation)
    | (.ok false, localExplanation) =>
      evaluateAclOrPredicateGroup identities predicates matcher explanation
        (collect explanations (localExplanation.getD ""))

/-- `EvaluateAclAndPredicateGroup`, with the explanations and `match_result`
so far: every predicate is evaluated, and `explanation` is set only when one
of them failed. -/
def evaluateAclAndPredicateGroup (identities : List EnclaveIdentity) :
    List (IdentityAclPredicate EnclaveIdentityExpectation) →
      IdentityExpectationMatcher EnclaveIdentity EnclaveIdentityExpectation →
      Option String → List String → Bool → StatusOr Bool × Option String
  | [], _, explanation, explanations, matchResult =>
    if matchResult then (.ok true, explanation)
    else (.ok false, setExplanation explanation (kSeparator.intercalate explanations))
  | predicate :: predicates, matcher, explanation, explanations, matchResult =>
    match evaluateIdentityAclImpl identities predicate matcher (some "") with
    | (.error status, _) => (.error status, explanation)
    | (.ok result, localExplanation) =>
      evaluateAclAndPredicateGroup identities predicates matcher explanation
        (collect explanations (localExplanation.getD "")) (matchResult && result)

/-- `EvaluateAclNotPredicateGroup`: the one predicate is evaluated without an
explanation. -/
def evaluateAclNotPredicateGroup (identities : List EnclaveIdentity) :
    List (IdentityAclPredicate EnclaveIdentityExpectation) →
      IdentityExpectationMatcher EnclaveIdentity EnclaveIdentityExpectation →
      Option String → StatusOr Bool × Option String
  | [predicate], matcher, explanation =>
    match evaluateIdentityAclImpl identities predicate matcher none with
    | (.error status, _) => (.error status, explanation)
    | (.ok result, _) =>
      (.ok !result, if result then
        setExplanation explanation "NOT predicate was satisfied when it should not have been"
      else explanation)
  | _, _, explanation =>
    (.error ⟨.invalidArgument, "NOT predicate groups must have exactly one element"⟩, explanation)

end

/-- `EvaluateIdentityAcl(identities, acl, matcher, explanation)`: a successful
evaluation that left an explanation gets it prefixed. -/
def evaluateIdentityAcl (identities : List EnclaveIdentity)
    (acl : IdentityAclPredicate EnclaveIdentityExpectation)
    (matcher : IdentityExpectationMatcher EnclaveIdentity EnclaveIdentityExpectation)
    (explanation : Option String) : StatusOr Bool × Option String :=
  match evaluateIdentityAclImpl identities acl matcher explanation with
  | (.ok result, some text) =>
    (.ok result, some (if text.isEmpty then text else "ACL failed to match:" ++ kSeparator ++ text))
  | evaluated => evaluated

end Asylo.IdentityAclEvaluator
