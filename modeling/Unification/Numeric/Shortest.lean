import Unification.Numeric.General

/-! Shortest notation of floating-point numbers: the fewest significant digits that still
read back as the same number, and among those the nearest to it. The search tries one
digit, two digits, and so on; on each decimal grid only the two neighbours of the number
can be nearest.
-/

namespace Unification.Numeric

namespace Binary64

/-- Half the distance from the magnitude down to the next smaller one, in quarters of a
unit. It is half as long as upwards when the significand is the least of its exponent.
-/
def quartersBelow (number : Binary64) : Nat :=
  if number.fractionField = 0 ∧ 1 < number.exponentField then
    number.lastPlace
  else
    2 * number.lastPlace

/-- Whether a decimal magnitude, given as a quotient, is rounded to this number. It has to
lie between the midpoints towards the neighbours, and a midpoint itself belongs to the
even significand.
-/
def readsFrom (number : Binary64) (numerator denominator : Nat) : Bool :=
  let candidate := 4 * numerator * unitsPerOne
  let least := (4 * number.units - number.quartersBelow) * denominator
  let greatest := (4 * number.units + 2 * number.lastPlace) * denominator
  if number.significand % 2 = 0 then
    least ≤ candidate ∧ candidate ≤ greatest
  else
    least < candidate ∧ candidate < greatest

/-- The neighbours of the magnitude among the numbers with a given count of digits: the
nearer one that reads back, the upper one in a tie, or nothing when neither does.
-/
def nearestReadingBack (number : Binary64) (places : Nat) : Option Scientific :=
  let leading := leadingExponent number.units unitsPerOne
  let power := (places : Int) - 1 - leading
  let (scaled, divisor) := scaleByTen power number.units unitsPerOne
  let below := scaled / divisor
  let readsBack (digits : Nat) : Bool :=
    let (numerator, denominator) := scaleByTen (-power) digits 1
    number.readsFrom numerator denominator
  let belowIsNearer : Bool := 2 * (scaled % divisor) < divisor
  if readsBack below ∧ (belowIsNearer ∨ ¬ readsBack (below + 1)) then
    some ⟨below, leading⟩
  else if readsBack (below + 1) then
    if below + 1 = Nat.pow 10 places then
      some ⟨Nat.pow 10 (places - 1), leading + 1⟩
    else
      some ⟨below + 1, leading⟩
  else
    none

/-- The fewest digits that read back. Rounding to seventeen significant digits always
does, so the search ends there.
-/
def shortest (number : Binary64) : Scientific :=
  ((List.range' 1 17).findSome? number.nearestReadingBack).getD
    (roundSignificant 17 number.units unitsPerOne)

end Binary64

/-- The digits behind the point, with the point, or nothing when all of them are zero. -/
def fractionText (digits : List Char) : List Char :=
  match trimZeros digits with
  | [] => []
  | kept => '.' :: kept

/-- Digits at their place values. A negative exponent puts zeros between the point and the
first significant digit.
-/
def Scientific.positionalText (number : Scientific) : List Char :=
  let digits := Nat.toDigits 10 number.digits
  if number.exponent < 0 then
    '0' :: fractionText (List.replicate (number.exponent.natAbs - 1) '0' ++ digits)
  else
    let whole := number.exponent.natAbs + 1
    digits.take whole ++ fractionText (digits.drop whole)

/-- Digits at their place values, with at least one digit on either side of the point. -/
def Scientific.pointedText (number : Scientific) : List Char :=
  let whole := (Nat.toDigits 10 number.digits).length
  let text := number.positionalText
  if number.exponent < 0 ∨ text.contains '.' then
    text
  else
    text ++ List.replicate (number.exponent.natAbs + 1 - whole) '0' ++ ['.', '0']

/-- One digit before the point, and an exponent without a positive sign or padding. -/
def Scientific.plainScientificText (number : Scientific) : List Char :=
  let digits := Nat.toDigits 10 number.digits
  digits.take 1 ++ fractionText (digits.drop 1)
    ++ 'e' :: (if number.exponent < 0 then ['-'] else [])
    ++ Nat.toDigits 10 number.exponent.natAbs

/-- Shortest notation is positional from 10⁻⁴ up to but not including 10¹⁶, and scientific
elsewhere.
-/
def Binary64.shortestText (number : Binary64) : List Char :=
  if number.isNaN then
    ['N', 'a', 'N']
  else
    number.signText
      ++ if number.isInfinite then
          ['i', 'n', 'f']
        else if number.isZero then
          ['0', '.', '0']
        else if number.shortest.exponent < -4 ∨ 16 ≤ number.shortest.exponent then
          number.shortest.plainScientificText
        else
          number.shortest.pointedText

end Unification.Numeric
