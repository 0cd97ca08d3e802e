import Unification.Term.Basic

/-! Comparisons of terms. Equality by value looks at representations, equality of syntax
also at the kinds of the atoms, and both look inside suspended values.
-/

namespace Unification

namespace Term

/-- Two functions that are the same object. -/
def sameObject : Term → Term → Bool
  | atom first, atom second => first.sameObject second
  | _, _ => false

mutual

/-- Equality by representation: variables by identity, atoms by value, suspended values by
their contents, and compounds by tag and by the fields in order.
-/
def sameValue : Term → Term → Bool
  | var first, var second => first == second
  | atom first, atom second => first.sameValue second
  | lazy first, lazy second => sameValue first second
  | compound first left, compound second right => first == second && sameValues left right
  | _, _ => false

/-- Equality by representation of equally many terms in order. -/
def sameValues : List Term → List Term → Bool
  | [], [] => true
  | first :: left, second :: right => sameValue first second && sameValues left right
  | _, _ => false

end

mutual

/-- Equality of syntax: as by representation, but with the same kind of atom throughout.
-/
def sameSyntax : Term → Term → Bool
  | var first, var second => first == second
  | atom first, atom second => first.sameSyntax second
  | lazy first, lazy second => sameSyntax first second
  | compound first left, compound second right => first == second && sameSyntaxes left right
  | _, _ => false

/-- Equality of syntax of equally many terms in order. -/
def sameSyntaxes : List Term → List Term → Bool
  | [], [] => true
  | first :: left, second :: right => sameSyntax first second && sameSyntaxes left right
  | _, _ => false

end

end Term

end Unification
