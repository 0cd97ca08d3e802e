import Mathlib.Data.Nat.Basic

/-! Digits at the front of a text. Where nothing but digits stands in front and something
else follows, the digits can be cut off again; so a number in decimal at the front of a text
is determined by the text, together with what follows it.
-/

namespace Unification.Numeric

/-- All letters are decimal digits. -/
def AllDigits (text : List Char) : Prop :=
  ∀ letter ∈ text, letter.isDigit = true

/-- A text whose first letter, if there is one, is no digit. -/
def EndsDigits (text : List Char) : Prop :=
  ∀ letter ∈ text.head?, letter.isDigit = false

variable {digits rest : List Char}

theorem endsDigits_nil : EndsDigits [] :=
  nofun

theorem endsDigits_cons {letter : Char} (other : letter.isDigit = false)
    : EndsDigits (letter :: rest) := by
  rintro _ ⟨⟩
  exact other

theorem allDigits_toDigits (number : Nat) : AllDigits (Nat.toDigits 10 number) :=
  fun _ member => Nat.isDigit_of_mem_toDigits (by decide) (by decide) member

theorem AllDigits.append {more : List Char} (front : AllDigits digits) (back : AllDigits more)
    : AllDigits (digits ++ more) := by
  intro letter member
  exact (List.mem_append.mp member).elim (front letter) (back letter)

theorem EndsDigits.takeWhile_eq_nil (ends : EndsDigits rest)
    : rest.takeWhile Char.isDigit = [] := by
  cases rest with
  | nil => rfl
  | cons letter rest => simp [ends letter rfl]

theorem EndsDigits.dropWhile_eq_self (ends : EndsDigits rest)
    : rest.dropWhile Char.isDigit = rest := by
  cases rest with
  | nil => rfl
  | cons letter rest => simp [ends letter rfl]

/-- A letter that is no digit does not occur among digits. -/
theorem AllDigits.not_mem {letter : Char} (all : AllDigits digits)
    (noDigit : letter.isDigit = false)
    : letter ∉ digits :=
  fun member => Bool.false_ne_true (noDigit.symm.trans (all letter member))

/-- Digits in front are what is taken off a text while it starts with digits. -/
theorem AllDigits.takeWhile_append (all : AllDigits digits) (ends : EndsDigits rest)
    : (digits ++ rest).takeWhile Char.isDigit = digits := by
  rw [List.takeWhile_append_of_pos all, ends.takeWhile_eq_nil, List.append_nil]

/-- What follows the digits in front is left of the text. -/
theorem AllDigits.dropWhile_append (all : AllDigits digits) (ends : EndsDigits rest)
    : (digits ++ rest).dropWhile Char.isDigit = rest := by
  rw [List.dropWhile_append_of_pos all, ends.dropWhile_eq_self]

/-- A text that starts with digits does not start with another letter. -/
theorem AllDigits.append_ne_cons {letter : Char} {other : List Char} (all : AllDigits digits)
    (nonempty : digits ≠ []) (noDigit : letter.isDigit = false)
    : digits ++ rest ≠ letter :: other := by
  intro same
  cases digits with
  | nil => exact nonempty rfl
  | cons first digits =>
      have digit := all first List.mem_cons_self
      rw [(List.cons.inj same).1, noDigit] at digit
      exact Bool.false_ne_true digit

/-- A text that starts with a number starts with a digit. -/
theorem toDigits_append_ne_cons {number : Nat} {letter : Char} {other : List Char}
    (noDigit : letter.isDigit = false)
    : Nat.toDigits 10 number ++ rest ≠ letter :: other :=
  (allDigits_toDigits number).append_ne_cons Nat.toDigits_ne_nil noDigit

/-- A number is written without leading zero, unless it is zero. -/
theorem head?_toDigits_ne_zero (number : Nat) (positive : 0 < number)
    : (Nat.toDigits 10 number).head? ≠ some '0' := by
  rw [Nat.toDigits_eq_if (by decide)]
  split
  next small =>
    have digits : ∀ digit < 10, 0 < digit → Nat.digitChar digit ≠ '0' := by decide
    rw [List.head?_cons]
    exact fun same => digits number small positive (Option.some.inj same)
  next large =>
    have shorter : number / 10 < number := by omega
    rw [List.head?_append, Option.or_of_isSome (by simp [Nat.toDigits_ne_nil])]
    exact head?_toDigits_ne_zero (number / 10) (by omega)
termination_by number

/-- A number in front of a text is determined by the text, and so is what follows it. -/
theorem toDigits_append_inj {first second : Nat} {other : List Char} (ends : EndsDigits rest)
    (otherEnds : EndsDigits other)
    (same : Nat.toDigits 10 first ++ rest = Nat.toDigits 10 second ++ other)
    : first = second ∧ rest = other := by
  have front := congrArg (List.takeWhile Char.isDigit) same
  have back := congrArg (List.dropWhile Char.isDigit) same
  rw [(allDigits_toDigits first).takeWhile_append ends,
    (allDigits_toDigits second).takeWhile_append otherEnds] at front
  rw [(allDigits_toDigits first).dropWhile_append ends,
    (allDigits_toDigits second).dropWhile_append otherEnds] at back
  have value := congrArg (Nat.ofDigitChars 10 · 0) front
  simp only [Nat.ofDigitChars_ten_toDigits] at value
  exact ⟨value, back⟩

end Unification.Numeric
