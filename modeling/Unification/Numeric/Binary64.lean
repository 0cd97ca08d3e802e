/-! Double-precision floating-point numbers as their 64-bit interchange words. The sign,
the exponent field and the fraction field are read off the word as natural numbers, and a
finite magnitude is an exact whole number of units of 2⁻¹⁰⁷⁴, the least positive number of
the format.
-/

namespace Unification.Numeric

/-- A binary floating-point number, held as its interchange word. -/
structure Binary64 where
  bits : UInt64
  deriving DecidableEq, Inhabited

namespace Binary64

/-- The topmost bit is the sign. -/
def negative (number : Binary64) : Bool :=
  Nat.pow 2 63 ≤ number.bits.toNat

/-- The eleven bits below the sign. -/
def exponentField (number : Binary64) : Nat :=
  number.bits.toNat / Nat.pow 2 52 % Nat.pow 2 11

/-- The lowest 52 bits. -/
def fractionField (number : Binary64) : Nat :=
  number.bits.toNat % Nat.pow 2 52

/-- The greatest exponent field with a fraction marks the words that are not numbers. -/
def isNaN (number : Binary64) : Bool :=
  number.exponentField = Nat.pow 2 11 - 1 ∧ number.fractionField ≠ 0

/-- The greatest exponent field without a fraction marks the two infinities. -/
def isInfinite (number : Binary64) : Bool :=
  number.exponentField = Nat.pow 2 11 - 1 ∧ number.fractionField = 0

/-- The two zeros are the words without exponent and fraction. -/
def isZero (number : Binary64) : Bool :=
  number.exponentField = 0 ∧ number.fractionField = 0

/-- The fraction with its leading bit, which is implicit unless the number is subnormal.
-/
def significand (number : Binary64) : Nat :=
  if number.exponentField = 0 then
    number.fractionField
  else
    Nat.pow 2 52 + number.fractionField

/-- The size of the significand's last place, in units of 2⁻¹⁰⁷⁴. -/
def lastPlace (number : Binary64) : Nat :=
  Nat.pow 2 (number.exponentField - 1)

/-- How many units of 2⁻¹⁰⁷⁴ make up the magnitude of a finite number. -/
def units (number : Binary64) : Nat :=
  number.significand * number.lastPlace

/-- How many units make up the number one. -/
def unitsPerOne : Nat :=
  Nat.pow 2 1074

/-- Numeric equality. A word that is not a number equals nothing, itself included, and the
two zeros equal each other; every other number has a single word.
-/
def equal (first second : Binary64) : Bool :=
  !first.isNaN && !second.isNaN
    && (first.bits == second.bits || (first.isZero && second.isZero))

end Binary64

end Unification.Numeric
