import Unification.Substitution.Basic
import Unification.Term.Equality

/-! Resolution: a term with all bindings applied throughout. A variable that is reached
again while its own binding is being expanded stays in place, so the result is finite even
when a binding leads back to its own variable.
-/

namespace Unification

namespace Term

mutual

/-- A term with each variable in reach replaced by the term assigned to it. -/
def replace (assigned : Var → Term) : Term → Term
  | var name => assigned name
  | atom value => atom value
  | lazy contents => lazy contents
  | compound tag fields => compound tag (replaceAll assigned fields)

/-- Several terms with each variable in reach replaced. -/
def replaceAll (assigned : Var → Term) : List Term → List Term
  | [] => []
  | field :: rest => replace assigned field :: replaceAll assigned rest

end

/-- Replacement in several terms is replacement in each. -/
theorem replaceAll_eq_map (assigned : Var → Term) (terms : List Term)
    : replaceAll assigned terms = terms.map (replace assigned) := by
  induction terms with
  | nil => rfl
  | cons term rest ih => simp [replaceAll, ih]

end Term

namespace Substitution

/-- The full expansion of a variable while the listed ones are being expanded. Each nested
expansion is that of a further variable of the domain, so no more of them than there are
bindings can be nested, and a variable met at that depth is one of the listed ones or has
no binding.
-/
def expand (substitution : Substitution Term) : Nat → List Var → Var → Term
  | 0, _, name => .var name
  | depth + 1, expanding, name =>
      if name ∈ expanding then
        .var name
      else
        match substitution.lookup? name with
        | none => .var name
        | some bound => bound.replace (expand substitution depth (name :: expanding))

/-- The term with every variable fully expanded. -/
def resolve (substitution : Substitution Term) (term : Term) : Term :=
  term.replace (substitution.expand substitution.size [])

/-- Two lists of the same bindings in the same order, with terms of the same syntax. -/
def sameSyntax (first second : Substitution Term) : Bool :=
  first.bindings.isEqv second.bindings
    (fun left right => left.1 == right.1 && left.2.sameSyntax right.2)

end Substitution

end Unification
