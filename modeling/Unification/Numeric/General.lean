import Unification.Numeric.Binary64
import Unification.Numeric.Rounding

/-! General notation of floating-point numbers: a fixed count of significant digits,
without trailing zeros in the fraction, in positional form for moderate exponents and in
scientific form for all others. The exponent is that of the number rounded to the
significant digits; the positional form then rounds the exact number once more, to as many
decimals as leave it that count of digits.
-/

namespace Unification.Numeric

/-- A text up to its last letter that is not a zero. -/
def trimZeros (text : List Char) : List Char :=
  (text.reverse.dropWhile (· = '0')).reverse

/-- A text without the zeros at its end, and without the point when it then ends in one.
Zeros are dropped behind a point only: a text without a point stays as it is.
-/
def trimFraction (text : List Char) : List Char :=
  if text.contains '.' then
    ((trimZeros text).reverse.dropWhile (· = '.')).reverse
  else
    text

/-- A whole number of units of the last decimal, written with the given count of decimals
and with at least one digit before the point. Without decimals there is no point.
-/
def fixedText (decimals units : Nat) : List Char :=
  let digits := Nat.toDigits 10 units
  let padded := List.replicate (decimals + 1 - digits.length) '0' ++ digits
  let whole := padded.length - decimals
  if decimals = 0 then
    padded
  else
    padded.take whole ++ '.' :: padded.drop whole

/-- A decimal exponent has a sign and at least two digits. -/
def exponentText (exponent : Int) : List Char :=
  let sign := if exponent < 0 then '-' else '+'
  let digits := Nat.toDigits 10 exponent.natAbs
  'e' :: sign :: (List.replicate (2 - digits.length) '0' ++ digits)

/-- A positive quotient in general notation. Positional form serves the exponents from −4
to one below the count of significant digits, scientific form all others.
-/
def generalText (significant numerator denominator : Nat) : List Char :=
  let rounded := roundSignificant significant numerator denominator
  if rounded.exponent < -4 ∨ (significant : Int) ≤ rounded.exponent then
    trimFraction (fixedText (significant - 1) rounded.digits) ++ exponentText rounded.exponent
  else
    let decimals := ((significant : Int) - 1 - rounded.exponent).toNat
    trimFraction (fixedText decimals (roundDecimals decimals numerator denominator))

/-- The sign of a negative number, the negative zero and infinity included. -/
def Binary64.signText (number : Binary64) : List Char :=
  if number.negative then ['-'] else []

/-- General notation with the given count of significant digits. -/
def Binary64.generalText (significant : Nat) (number : Binary64) : List Char :=
  if number.isNaN then
    ['n', 'a', 'n']
  else
    number.signText
      ++ if number.isInfinite then
          ['i', 'n', 'f']
        else if number.isZero then
          ['0']
        else
          Numeric.generalText significant number.units unitsPerOne

end Unification.Numeric
