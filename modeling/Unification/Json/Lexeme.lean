/-! The lexical elements of JSON texts, read from the front of a list of letters: blanks,
fixed words, numbers, and strings as sequences of code units. Every reader gives back what
remains behind the element it has read. These readers take the place of a JSON library, as
far as settings that are given as texts ask for one; unification itself reads no JSON.
-/

namespace Unification.Json

/-- The four letters that may stand between elements. -/
def isBlank (letter : Char) : Bool :=
  letter == ' ' || letter == '\n' || letter == '\t' || letter == '\r'

/-- A text from its first letter that is not blank. -/
def dropBlanks (text : List Char) : List Char :=
  text.dropWhile isBlank

/-- What remains of a text behind a word that it starts with. -/
def afterWord? : List Char → List Char → Option (List Char)
  | [], text => some text
  | _ :: _, [] => none
  | expected :: word, letter :: text =>
      if expected = letter then afterWord? word text else none

/-- What remains of a text behind a letter, where blanks may stand before the letter. -/
def afterMark? (mark : Char) (text : List Char) : Option (List Char) :=
  afterWord? [mark] (dropBlanks text)

/-- The digits at the front of a text, of which there has to be one at least. -/
def readDigits? (text : List Char) : Option (List Char × List Char) :=
  match text.span Char.isDigit with
  | ([], _) => none
  | digits => some digits

/-- A whole number without sign has no leading zero, so a zero is complete by itself. -/
def readWhole? : List Char → Option (List Char × List Char)
  | '0' :: rest => some (['0'], rest)
  | text => readDigits? text

/-- What remains behind the fraction of a number, if it has one. -/
def afterFraction? : List Char → Option (List Char)
  | '.' :: rest => (readDigits? rest).map Prod.snd
  | text => some text

/-- A text without the sign of an exponent at its front. -/
def dropSign : List Char → List Char
  | '+' :: rest => rest
  | '-' :: rest => rest
  | text => text

/-- What remains behind the exponent of a number, if it has one. -/
def afterExponent? : List Char → Option (List Char)
  | 'e' :: rest => (readDigits? (dropSign rest)).map Prod.snd
  | 'E' :: rest => (readDigits? (dropSign rest)).map Prod.snd
  | text => some text

/-- A text without the sign of a number at its front. -/
def dropMinus : List Char → List Char
  | '-' :: rest => rest
  | text => text

/-- What remains of a text behind a number of any size. -/
def afterNumber? (text : List Char) : Option (List Char) := do
  let (_, behindWhole) ← readWhole? (dropMinus text)
  let behindFraction ← afterFraction? behindWhole
  afterExponent? behindFraction

/-- The value of a hexadecimal digit in either case. -/
def hexValue? (letter : Char) : Option Nat :=
  if '0' ≤ letter ∧ letter ≤ '9' then
    some (letter.toNat - '0'.toNat)
  else if 'a' ≤ letter ∧ letter ≤ 'f' then
    some (letter.toNat - 'a'.toNat + 10)
  else if 'A' ≤ letter ∧ letter ≤ 'F' then
    some (letter.toNat - 'A'.toNat + 10)
  else
    none

/-- The code unit that four hexadecimal digits stand for. -/
def unitOfHex? (first second third fourth : Char) : Option Nat := do
  let high ← hexValue? first
  let upper ← hexValue? second
  let lower ← hexValue? third
  let low ← hexValue? fourth
  return ((high * 16 + upper) * 16 + lower) * 16 + low

/-- The code unit that a single letter behind a backslash stands for. -/
def unitOfEscape? : Char → Option Nat
  | '\x22' => some 0x22
  | '\\' => some 0x5c
  | '/' => some 0x2f
  | 'b' => some 0x08
  | 'f' => some 0x0c
  | 'n' => some 0x0a
  | 'r' => some 0x0d
  | 't' => some 0x09
  | _ => none

/-- The code units of a string, from behind its opening mark through its closing one. A
letter that stands for itself is a unit; only escapes can give units that are half of a
pair. The control characters have to be escaped.
-/
def readUnits? : List Char → Option (List Nat × List Char)
  | [] => none
  | '\x22' :: rest => some ([], rest)
  | '\\' :: 'u' :: first :: second :: third :: fourth :: rest => do
      let unit ← unitOfHex? first second third fourth
      let (units, remaining) ← readUnits? rest
      return (unit :: units, remaining)
  | '\\' :: letter :: rest => do
      let unit ← unitOfEscape? letter
      let (units, remaining) ← readUnits? rest
      return (unit :: units, remaining)
  | letter :: rest =>
      if letter.toNat < 0x20 ∨ letter = '\\' then
        none
      else do
        let (units, remaining) ← readUnits? rest
        return (letter.toNat :: units, remaining)

/-- The first halves of pairs of code units. -/
def isHighHalf (unit : Nat) : Bool :=
  0xd800 ≤ unit && unit ≤ 0xdbff

/-- The second halves of pairs of code units. -/
def isLowHalf (unit : Nat) : Bool :=
  0xdc00 ≤ unit && unit ≤ 0xdfff

/-- The letters that code units stand for; a half without its other half stands for none.
-/
def lettersOfUnits? : List Nat → Option (List Char)
  | [] => some []
  | [unit] => if isHighHalf unit || isLowHalf unit then none else some [Char.ofNat unit]
  | first :: second :: rest =>
      if isHighHalf first then
        if isLowHalf second then
          (lettersOfUnits? rest).map
            (Char.ofNat (0x10000 + (first - 0xd800) * 0x400 + (second - 0xdc00)) :: ·)
        else
          none
      else if isLowHalf first then
        none
      else
        (lettersOfUnits? (second :: rest)).map (Char.ofNat first :: ·)

end Unification.Json
