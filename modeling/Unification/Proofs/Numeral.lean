import Mathlib.Algebra.Order.Field.Rat
import Mathlib.Data.List.TakeWhile
import Unification.Proofs.DecimalDigits

/-! Decimal numerals as texts and as rational numbers. A numeral has a sign, digits with an
optional fraction behind a point, and an optional signed power of ten behind an `e`. Reading
takes each part off the front of the text and leaves nothing; every numeral is read back from
its text, so the text stands for one number only.
-/

namespace Unification.Numeric

variable {rest : List Char}

/-- A run of decimal digits, of any length. -/
@[ext]
structure Digits where
  letters : List Char
  all : AllDigits letters
  deriving DecidableEq

def Digits.nil : Digits :=
  ⟨[], nofun⟩

/-- The digits at the front of a text. -/
def Digits.leading (text : List Char) : Digits :=
  ⟨text.takeWhile Char.isDigit, fun _ member => List.mem_takeWhile_imp member⟩

theorem Digits.leading_append (digits : Digits) (ends : EndsDigits rest)
    : leading (digits.letters ++ rest) = digits :=
  Digits.ext (digits.all.takeWhile_append ends)

theorem Digits.leading_letters (digits : Digits) : leading digits.letters = digits := by
  simpa using digits.leading_append endsDigits_nil

-----------------------------------------------------------------------------------------
-- Digits with a fraction
-----------------------------------------------------------------------------------------

/-- At least one digit, and then perhaps a point with further digits or none behind it. -/
structure Mantissa where
  whole : Digits
  nonempty : whole.letters ≠ []
  fraction? : Option Digits
  deriving DecidableEq

namespace Mantissa

/-- The digits behind the point; none where there is no point. -/
def fraction (mantissa : Mantissa) : Digits :=
  mantissa.fraction?.getD .nil

def text (mantissa : Mantissa) : List Char :=
  mantissa.whole.letters
    ++ mantissa.fraction?.elim [] (fun digits => '.' :: digits.letters)

/-- The number that the digits stand for: all together, in units of the last decimal. -/
def value (mantissa : Mantissa) : ℚ :=
  Nat.ofDigitChars 10 (mantissa.whole.letters ++ mantissa.fraction.letters) 0
    / 10 ^ mantissa.fraction.letters.length

/-- Reads as many digits as there are, over a point if there is one, and returns them with
what is left of the text.
-/
def read? (text : List Char) : Option (Mantissa × List Char) :=
  let whole := Digits.leading text
  if nonempty : whole.letters ≠ [] then
    match text.dropWhile Char.isDigit with
    | '.' :: rest => some (⟨whole, nonempty, some (.leading rest)⟩, rest.dropWhile Char.isDigit)
    | rest => some (⟨whole, nonempty, none⟩, rest)
  else
    none

/-- What follows the digits is left when it cannot be taken for a part of them. -/
theorem read?_text_append (mantissa : Mantissa) (ends : EndsDigits rest)
    (noPoint : rest.head? ≠ some '.')
    : read? (mantissa.text ++ rest) = some (mantissa, rest) := by
  obtain ⟨whole, nonempty, none | fraction⟩ := mantissa
  · simp only [read?, text, Option.elim_none, List.append_nil, whole.leading_append ends,
      whole.all.dropWhile_append ends, dif_pos nonempty]
    cases rest with
    | nil => rfl
    | cons letter rest =>
        split
        case h_1 same => exact absurd (congrArg List.head? same) noPoint
        case h_2 => rfl
  · have point : EndsDigits ('.' :: (fraction.letters ++ rest)) := endsDigits_cons (by decide)
    simp only [read?, text, Option.elim_some, List.append_assoc, List.cons_append,
      whole.leading_append point, whole.all.dropWhile_append point, dif_pos nonempty,
      fraction.leading_append ends, fraction.all.dropWhile_append ends]

end Mantissa

-----------------------------------------------------------------------------------------
-- Powers of ten
-----------------------------------------------------------------------------------------

/-- The exponent of a numeral: a sign, which is always written, and at least one digit. -/
structure Power where
  negative : Bool
  digits : Digits
  nonempty : digits.letters ≠ []
  deriving DecidableEq

namespace Power

def text (power : Power) : List Char :=
  'e' :: (if power.negative then '-' else '+') :: power.digits.letters

def value (power : Power) : ℤ :=
  if power.negative then
    -(Nat.ofDigitChars 10 power.digits.letters 0 : ℤ)
  else
    Nat.ofDigitChars 10 power.digits.letters 0

/-- Reads a power of ten that takes up the rest of a text. -/
def read? : List Char → Option Power
  | 'e' :: sign :: text =>
      let digits := Digits.leading text
      if valid : (sign = '+' ∨ sign = '-') ∧ digits.letters ≠ [] ∧ digits.letters = text then
        some ⟨sign = '-', digits, valid.2.1⟩
      else
        none
  | _ => none

theorem read?_text (power : Power) : read? power.text = some power := by
  obtain ⟨negative, digits, nonempty⟩ := power
  cases negative <;> simp [read?, text, digits.leading_letters, nonempty]

/-- Reads what is behind the digits of a numeral: nothing, or a power of ten. -/
def readRest? : List Char → Option (Option Power)
  | [] => some none
  | text => (read? text).map some

theorem readRest?_text (power? : Option Power)
    : readRest? (power?.elim [] text) = some power? := by
  cases power? with
  | none => rfl
  | some power => simpa [readRest?, text] using power.read?_text

end Power

-----------------------------------------------------------------------------------------
-- Numerals
-----------------------------------------------------------------------------------------

/-- A number in decimal, perhaps with a minus sign and perhaps with a power of ten. -/
structure Numeral where
  negative : Bool
  mantissa : Mantissa
  power? : Option Power
  deriving DecidableEq

namespace Numeral

def text (numeral : Numeral) : List Char :=
  (if numeral.negative then ['-'] else [])
    ++ (numeral.mantissa.text ++ numeral.power?.elim [] Power.text)

def value (numeral : Numeral) : ℚ :=
  (if numeral.negative then -1 else 1)
    * (numeral.mantissa.value * 10 ^ numeral.power?.elim 0 Power.value)

/-- Reads a numeral behind its sign. -/
def readUnsigned? (negative : Bool) (text : List Char) : Option Numeral := do
  let (mantissa, rest) ← Mantissa.read? text
  let power? ← Power.readRest? rest
  return ⟨negative, mantissa, power?⟩

/-- Reads a text that is a numeral from end to end. -/
def read? : List Char → Option Numeral
  | '-' :: text => readUnsigned? true text
  | text => readUnsigned? false text

theorem readUnsigned?_text (numeral : Numeral)
    : readUnsigned? numeral.negative
          (numeral.mantissa.text ++ numeral.power?.elim [] Power.text)
        = some numeral := by
  have ends : EndsDigits (numeral.power?.elim [] Power.text) := by
    cases numeral.power? with
    | none => exact endsDigits_nil
    | some power => exact endsDigits_cons (by decide)
  have noPoint : (numeral.power?.elim [] Power.text).head? ≠ some '.' := by
    cases numeral.power? <;> simp [Power.text]
  rw [readUnsigned?, numeral.mantissa.read?_text_append ends noPoint]
  simp [Power.readRest?_text]

/-- Every numeral is read back from its text. -/
theorem read?_text (numeral : Numeral) : read? numeral.text = some numeral := by
  have unsigned := numeral.readUnsigned?_text
  rw [text]
  cases negative : numeral.negative with
  | true => simpa [read?, negative] using unsigned
  | false =>
      rw [negative] at unsigned
      -- The first letter is a digit, so it is not taken for a sign.
      rw [if_neg (by decide), List.nil_append, read?]
      · exact unsigned
      · intro text same
        rw [Mantissa.text, List.append_assoc] at same
        exact numeral.mantissa.whole.all.append_ne_cons numeral.mantissa.nonempty
          (by decide) same

end Numeral

end Unification.Numeric
