import Unification.Failure
import Unification.Term.Basic

/-! Calls of function values. A function is known only as an object, so what it does is
given apart from it, by an interpretation of all functions.
-/

namespace Unification

/-- What every function does with its arguments. -/
abbrev Interpretation :=
  FunctionRef → List Term → Term

/-- The interpretation under which every function packs its arguments into a tuple. -/
def Interpretation.packing : Interpretation :=
  fun _ arguments => Term.tuple arguments

namespace Term

/-- The result of calling a function value. No other term can be called. -/
def call? (meaning : Interpretation) (arguments : List Term) : Term → Option Term
  | atom (.function reference) => some (meaning reference arguments)
  | _ => none

/-- The variable that a term has to be. -/
def expectVar (term : Term) : Except Failure Var :=
  match term.var? with
  | some name => .ok name
  | none => .error .notAVariable

end Term

end Unification
