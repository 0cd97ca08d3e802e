/-! Sets of code points as lists of closed ranges, the form in which properties of letters
are tabulated. The tables of this library are those of Unicode 17.0, and they are ascending.
-/

namespace Unification.Text

/-- The code points from the first to the last, both included. -/
structure CodeRange where
  first : Nat
  last : Nat

namespace CodeRange

/-- Whether a code point lies in one of ascending ranges. Only the first range that does
not end below the code point can hold it.
-/
def covers (ranges : List CodeRange) (code : Nat) : Bool :=
  (ranges.find? (fun range => code ≤ range.last)).any (fun range => range.first ≤ code)

end CodeRange

end Unification.Text
