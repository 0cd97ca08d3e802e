import Unification.Failure

/-! What a run of unification reports while it goes on: every binding it makes, every pair
of compounds whose fields it visits, and at the end how it came out.
-/

namespace Unification

/-- A report of a run. The outermost pair of a run has depth zero. -/
inductive Event
  /-- A variable is bound at a depth. -/
  | bound (name : Var) (depth : Nat)
  /-- The fields of two compounds with the same head are about to be unified. -/
  | descended (head : Head) (depth : Nat)
  /-- The run succeeded with a substitution of some size. -/
  | succeeded (size : Nat)
  /-- The run failed. -/
  | failed (failure : Failure)
  deriving DecidableEq

namespace Event

/-- The line that is written for a report. -/
def display : Event → String
  | bound name depth =>
      "TRACE binding variable var=" ++ toString name.id.toNat ++ " depth=" ++ toString depth
  | descended head depth =>
      "TRACE unifying fields tag=" ++ toString head.tag.toNat
        ++ " arity=" ++ toString head.arity ++ " depth=" ++ toString depth
  | succeeded size => "DEBUG unification succeeded bindings=" ++ toString size
  | failed failure => "DEBUG unification failed error=" ++ failure.message

end Event

end Unification
