/-! Logic variables. A variable is nothing but its 64-bit identifier: two variables are
the same exactly when their identifiers are, and the order of variables is the order of
the identifiers as natural numbers.
-/

namespace Unification

/-- A logic variable, known by its identifier alone. -/
structure Var where
  id : UInt64
  deriving DecidableEq, Inhabited

namespace Var

/-- Variables are ordered by the natural number their identifier stands for. -/
instance : LT Var where
  lt first second := first.id < second.id

instance (first second : Var) : Decidable (first < second) :=
  inferInstanceAs (Decidable (first.id < second.id))

/-- The order of variables, on the natural numbers of their identifiers. -/
theorem lt_iff (first second : Var)
    : first < second ↔ first.id.toNat < second.id.toNat :=
  Iff.rfl

/-- Variables with the same number as identifier are the same. -/
theorem eq_iff (first second : Var)
    : first = second ↔ first.id.toNat = second.id.toNat := by
  cases first
  cases second
  simp [UInt64.toNat_inj]

/-- The written form names the identifier in decimal between angle brackets. -/
def display (var : Var) : String :=
  "<v" ++ toString var.id.toNat ++ ">"

/-- How far the first identifier lies ahead of the second, read as a signed 64-bit word.
The difference wraps, so it is exact for identifiers issued less than half the word range
apart, even across the wrap-around of the numbering.
-/
def lead (first second : Var) : Int64 :=
  first.id.toInt64 - second.id.toInt64

end Var

end Unification
