import Unification.Unifiable

/-! The reasons for which unification, or a question about a term, fails, and their
wording.
-/

namespace Unification

/-- The written form of a head names its tag and its count of fields. -/
def Head.display (head : Head) : String :=
  "C" ++ toString head.tag.toNat ++ "/" ++ toString head.arity

/-- Why there is no answer. -/
inductive Failure
  /-- Two compounds differ in their heads, or one lacks a field that its head claims. -/
  | headsDiffer (left right : Head)
  /-- Two atoms that are compared as objects are different objects. -/
  | objectsDiffer
  /-- Two atoms have different values, or an atom met a compound. -/
  | valuesDiffer
  /-- A variable was asked for where there is none. -/
  | notAVariable
  /-- Unification would have descended below the deepest permitted level. -/
  | tooDeep (limit : Nat)
  deriving DecidableEq

namespace Failure

/-- The wording of a failure. -/
def message : Failure → String
  | headsDiffer left right =>
      "compound shape mismatch: " ++ left.display ++ " against " ++ right.display
  | objectsDiffer => "function values are not physically equal"
  | valuesDiffer => "values are not structurally equal"
  | notAVariable => "term is not a variable"
  | tooDeep limit => "unification exceeded the depth limit of " ++ toString limit

/-- The same failure seen with the two sides exchanged. -/
def swap : Failure → Failure
  | headsDiffer left right => headsDiffer right left
  | other => other

end Failure

end Unification
