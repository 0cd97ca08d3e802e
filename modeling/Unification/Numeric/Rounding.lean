/-! Exact decimal rounding of quotients of natural numbers. A positive quotient is brought
to a given count of decimals or of significant decimal digits, to the nearest and in a tie
to the even neighbour.
-/

namespace Unification.Numeric

/-- The whole number nearest to a quotient, and of two nearest ones the even one. -/
def roundHalfEven (numerator denominator : Nat) : Nat :=
  let whole := numerator / denominator
  let twiceRest := 2 * (numerator % denominator)
  if twiceRest < denominator then
    whole
  else if denominator < twiceRest then
    whole + 1
  else
    whole + whole % 2

/-- A quotient rounded to a count of decimals, in units of the last one. -/
def roundDecimals (decimals numerator denominator : Nat) : Nat :=
  roundHalfEven (numerator * Nat.pow 10 decimals) denominator

/-- How many decimal digits a natural number is written with. -/
def digitCount (number : Nat) : Nat :=
  (Nat.toDigits 10 number).length

/-- The power of ten at the leading digit of a quotient of at least 10⁻³⁴⁰. The quotient
is counted in units of 10⁻³⁴⁰, so that its whole part has a digit for each power from
there up to the leading one.
-/
def leadingExponent (numerator denominator : Nat) : Int :=
  (digitCount (numerator * Nat.pow 10 340 / denominator) : Int) - 341

/-- A decimal number in scientific form: the exponent is the power of ten at the first of
the significant digits, which are written together as one natural number.
-/
structure Scientific where
  digits : Nat
  exponent : Int
  deriving DecidableEq

/-- The quotient after multiplication by a power of ten with any exponent. -/
def scaleByTen (power : Int) (numerator denominator : Nat) : Nat × Nat :=
  (numerator * Nat.pow 10 power.toNat, denominator * Nat.pow 10 (-power).toNat)

/-- A positive quotient rounded to a given count of significant digits. When rounding
carries into a new power of ten, the digits are a one followed by zeros at the next
exponent.
-/
def roundSignificant (places numerator denominator : Nat) : Scientific :=
  let leading := leadingExponent numerator denominator
  let (scaled, divisor) := scaleByTen ((places : Int) - 1 - leading) numerator denominator
  let digits := roundHalfEven scaled divisor
  if digits = Nat.pow 10 places then
    ⟨Nat.pow 10 (places - 1), leading + 1⟩
  else
    ⟨digits, leading⟩

end Unification.Numeric
