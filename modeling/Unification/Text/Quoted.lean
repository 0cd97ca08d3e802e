import Unification.Text.GraphemeExtend
import Unification.Text.Printable

/-! Quoted text: letters between two quotation marks. The mark itself, the backslash, and
the letters that are not printable or that would join the letter before them are written
as escape sequences, so a quoted text stays on one line and ends at the first mark that is
not escaped.
-/

namespace Unification.Text

/-- The escape sequence of a letter inside quotation marks, or the letter itself. -/
def escape (mark letter : Char) : List Char :=
  if letter = mark ∨ letter = '\\' then
    ['\\', letter]
  else if letter = '\t' then
    ['\\', 't']
  else if letter = '\r' then
    ['\\', 'r']
  else if letter = '\n' then
    ['\\', 'n']
  else if letter.toNat = 0 then
    ['\\', '0']
  else if isCombining letter ∨ ¬ isPrintable letter then
    ['\\', 'u', '\x7b'] ++ Nat.toDigits 16 letter.toNat ++ ['\x7d']
  else
    [letter]

/-- Letters between a pair of marks. -/
def quote (mark : Char) (letters : List Char) : List Char :=
  mark :: letters.flatMap (escape mark) ++ [mark]

theorem isPrintable_digitChar
    : ∀ digit < 16, isPrintable (Nat.digitChar digit) = true := by
  decide +kernel

/-- The digits of a number show, from the last one forward. -/
theorem isPrintable_of_mem_toDigits (number : Nat) {letter : Char}
    (member : letter ∈ Nat.toDigits 16 number)
    : isPrintable letter = true := by
  rw [Nat.toDigits_eq_if (by decide)] at member
  split at member
  next small =>
    rw [List.mem_singleton.mp member]
    exact isPrintable_digitChar number small
  next =>
    rcases List.mem_append.mp member with front | last
    · have shorter : number / 16 < number := by omega
      exact isPrintable_of_mem_toDigits (number / 16) front
    · rw [List.mem_singleton.mp last]
      exact isPrintable_digitChar (number % 16) (Nat.mod_lt number (by decide))
termination_by number

/-- The letters that escape sequences are made of, apart from digits and marks. -/
def escapeLetters : List Char :=
  ['\\', 't', 'r', 'n', '0', 'u', '\x7b', '\x7d']

theorem isPrintable_of_mem_escapeLetters {letter : Char} (member : letter ∈ escapeLetters)
    : isPrintable letter = true := by
  have all : escapeLetters.all isPrintable = true := by decide +kernel
  exact List.all_eq_true.mp all letter member

theorem isPrintable_of_mem_escape {mark letter written : Char}
    (markShows : isPrintable mark = true) (member : written ∈ escape mark letter)
    : isPrintable written = true := by
  have known (sequence : List Char) (fixed : sequence ⊆ escapeLetters)
      (member : written ∈ sequence)
      : isPrintable written = true :=
    isPrintable_of_mem_escapeLetters (fixed member)
  unfold escape at member
  split at member
  next itself =>
    rcases List.mem_cons.mp member with rfl | second
    · exact isPrintable_of_mem_escapeLetters (by simp [escapeLetters])
    · rw [List.mem_singleton.mp second]
      rcases itself with rfl | rfl
      · exact markShows
      · exact isPrintable_of_mem_escapeLetters (by simp [escapeLetters])
  split at member
  next => exact known _ (by simp [escapeLetters]) member
  split at member
  next => exact known _ (by simp [escapeLetters]) member
  split at member
  next => exact known _ (by simp [escapeLetters]) member
  split at member
  next => exact known _ (by simp [escapeLetters]) member
  split at member
  next =>
    rcases List.mem_append.mp member with front | last
    · rcases List.mem_append.mp front with opening | digit
      · exact known _ (by simp [escapeLetters]) opening
      · exact isPrintable_of_mem_toDigits letter.toNat digit
    · exact known _ (by simp [escapeLetters]) last
  next shows =>
    rw [List.mem_singleton.mp member]
    exact Decidable.not_not.mp (not_or.mp shows).2

/-- A quoted text shows on one line from mark to mark, whatever the letters are. -/
theorem isPrintable_of_mem_quote {mark written : Char} {letters : List Char}
    (markShows : isPrintable mark = true) (member : written ∈ quote mark letters)
    : isPrintable written = true := by
  rcases List.mem_append.mp member with front | last
  · rcases List.mem_cons.mp front with rfl | inside
    · exact markShows
    · obtain ⟨letter, _, inEscape⟩ := List.mem_flatMap.mp inside
      exact isPrintable_of_mem_escape markShows inEscape
  · exact List.mem_singleton.mp last ▸ markShows

end Unification.Text
