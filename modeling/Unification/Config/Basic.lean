/-! Settings of unification. -/

namespace Unification

/-- Settings of unification: the deepest level it may descend to, if there is one. -/
structure Config where
  maxDepth : Option Nat
  deriving DecidableEq, Inhabited

namespace Config

/-- Without a setting there is no deepest level. -/
def unlimited : Config :=
  ⟨none⟩

/-- The outermost pair is at level zero. -/
def limited (maxDepth : Nat) : Config :=
  ⟨some maxDepth⟩

end Config

end Unification
