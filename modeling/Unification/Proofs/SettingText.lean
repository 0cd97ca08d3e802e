import Mathlib.Data.List.TakeDrop
import Unification.Config.Text
import Unification.Proofs.DecimalDigits

/-! Settings as texts. Every setting that is read from a text has a level of 64 bits, and a
setting with such a level is read back from the text that it is written as.
-/

namespace Unification

open Numeric

-----------------------------------------------------------------------------------------
-- Reading a number
-----------------------------------------------------------------------------------------

namespace Json

theorem dropBlanks_of_not_blank {letter : Char} (shows : isBlank letter = false)
    (rest : List Char)
    : dropBlanks (letter :: rest) = letter :: rest := by
  simp [dropBlanks, shows]

theorem isBlank_of_isDigit {letter : Char} (digit : letter.isDigit = true)
    : isBlank letter = false := by
  simp only [isBlank, Bool.or_eq_false_iff, beq_eq_false_iff_ne]
  refine ⟨⟨⟨?_, ?_⟩, ?_⟩, ?_⟩ <;> (rintro rfl; exact absurd digit (by decide))

variable {rest : List Char}

/-- A number in front of a text that does not go on with a digit is read as a whole. -/
theorem readWhole?_toDigits (number : Nat) (ends : EndsDigits rest)
    : readWhole? (Nat.toDigits 10 number ++ rest) = some (Nat.toDigits 10 number, rest) := by
  rcases Nat.eq_zero_or_pos number with rfl | positive
  · rfl
  · have all := allDigits_toDigits number
    have first := head?_toDigits_ne_zero number positive
    have nonempty : Nat.toDigits 10 number ≠ [] := Nat.toDigits_ne_nil
    generalize Nat.toDigits 10 number = digits at all first nonempty ⊢
    have split : (digits ++ rest).span Char.isDigit = (digits, rest) := by
      rw [List.span_eq_takeWhile_dropWhile, all.takeWhile_append ends,
        all.dropWhile_append ends]
    cases digits with
    | nil => exact (nonempty rfl).elim
    | cons letter digits =>
        have other : letter ≠ '0' := fun same => first (congrArg some same)
        rw [readWhole?, readDigits?, split]
        rintro more ⟨⟩
        exact other rfl

end Json

namespace Config

open Json

variable {text rest remaining : List Char} {depth : Option Nat}

-----------------------------------------------------------------------------------------
-- Levels that are read
-----------------------------------------------------------------------------------------

/-- A level that fits into a word, or none. -/
def Fits (depth : Option Nat) : Prop :=
  ∀ level ∈ depth, level < UInt64.size

theorem fits_none : Fits none :=
  nofun

/-- A level that is read fits, since larger numbers are refused. -/
theorem fits_of_readDepth? (read : readDepth? text = some (depth, remaining))
    : Fits depth := by
  unfold readDepth? at read
  split at read
  next =>
    obtain ⟨_, _, same⟩ := Option.map_eq_some_iff.mp read
    cases same
    exact fits_none
  next =>
    obtain ⟨⟨digits, behind⟩, _, found⟩ := Option.bind_eq_some_iff.mp read
    obtain ⟨small, same⟩ := Option.ite_none_right_eq_some.mp found
    cases same
    rintro _ ⟨⟩
    exact small

theorem fits_of_readValue? {known found : Option (Option Nat)} {key : List Char}
    (fits : ∀ level ∈ known, Fits level)
    (read : readValue? known key text = some (found, remaining))
    : ∀ level ∈ found, Fits level := by
  unfold readValue? at read
  split at read
  next =>
    cases known with
    | some _ => cases read
    | none =>
        obtain ⟨⟨level, _⟩, levelRead, same⟩ := Option.map_eq_some_iff.mp read
        cases same
        rintro _ ⟨⟩
        exact fits_of_readDepth? levelRead
  next =>
    obtain ⟨_, _, same⟩ := Option.map_eq_some_iff.mp read
    cases same
    exact fits

/-- A level among the members of an object fits, by induction on the members. -/
theorem fits_of_readMembers? (members : Nat) {known : Option (Option Nat)}
    (fits : ∀ level ∈ known, Fits level)
    (read : readMembers? members known text = some (depth, remaining))
    : Fits depth := by
  induction members generalizing known text with
  | zero => cases read
  | succ members ih =>
      simp only [readMembers?, Option.bind_eq_bind, Option.bind_eq_some_iff] at read
      obtain ⟨_, _, _, _, _, _, _, _, ⟨found, _⟩, value, more⟩ := read
      have foundFits := fits_of_readValue? fits value
      split at more
      next => exact ih foundFits more
      next =>
        obtain ⟨_, _, same⟩ := Option.map_eq_some_iff.mp more
        cases same
        cases found with
        | none => exact fits_none
        | some level => exact foundFits level rfl

theorem fits_of_readObject? (read : readObject? text = some (depth, remaining))
    : Fits depth := by
  unfold readObject? at read
  split at read
  next =>
    cases read
    exact fits_none
  next =>
    have unknown : ∀ level ∈ (none : Option (Option Nat)), Fits level := nofun
    exact fits_of_readMembers? text.length unknown read

theorem fits_of_readArray? (read : readArray? text = some (depth, remaining))
    : Fits depth := by
  unfold readArray? at read
  split at read
  next =>
    cases read
    exact fits_none
  next =>
    simp only [Option.bind_eq_bind, Option.bind_eq_some_iff] at read
    obtain ⟨⟨level, _⟩, levelRead, _, _, same⟩ := read
    cases same
    exact fits_of_readDepth? levelRead

theorem fits_of_readForm? (read : readForm? text = some (depth, remaining))
    : Fits depth := by
  unfold readForm? at read
  split at read
  next => exact fits_of_readObject? read
  next => exact fits_of_readArray? read
  next => cases read

/-- Every setting that is read from a text, in either form, has a level that fits. -/
theorem fits_of_ofJson? {text : String} {config : Config}
    (read : ofJson? text = some config)
    : Fits config.maxDepth := by
  obtain ⟨⟨level, behind⟩, levelRead, found⟩ := Option.bind_eq_some_iff.mp read
  obtain ⟨_, same⟩ := Option.ite_none_right_eq_some.mp found
  cases same
  exact fits_of_readForm? levelRead

-----------------------------------------------------------------------------------------
-- Levels that are written
-----------------------------------------------------------------------------------------

/-- How a level is written in a setting. -/
def writtenDepth : Option Nat → List Char
  | some level => Nat.toDigits 10 level
  | none => ['n', 'u', 'l', 'l']

theorem toList_toJson (config : Config)
    : config.toJson.toList
      = '\x7b' :: '\x22'
        :: (depthKey ++ '\x22' :: ':' :: (writtenDepth config.maxDepth ++ ['\x7d'])) := by
  obtain ⟨depth⟩ := config
  cases depth with
  | none => rfl
  | some level => simp [toJson, writtenDepth, depthKey]

/-- A level that fits is read back from the front of a text. -/
theorem readDepth?_written (fits : Fits depth) (ends : EndsDigits rest)
    : readDepth? (writtenDepth depth ++ rest) = some (depth, rest) := by
  cases depth with
  | none => rfl
  | some level =>
      have whole := readWhole?_toDigits level ends
      have all := allDigits_toDigits level
      have value := Nat.ofDigitChars_ten_toDigits (n := level)
      have nonempty : Nat.toDigits 10 level ≠ [] := Nat.toDigits_ne_nil
      rw [writtenDepth]
      generalize Nat.toDigits 10 level = digits at whole all value nonempty ⊢
      cases digits with
      | nil => exact (nonempty rfl).elim
      | cons letter digits =>
          have digit := all letter List.mem_cons_self
          have other : letter ≠ 'n' := by
            rintro rfl
            exact absurd digit (by decide)
          rw [readDepth?, List.cons_append,
            dropBlanks_of_not_blank (isBlank_of_isDigit digit)]
          split
          next same => exact (other (List.cons.inj same).1).elim
          next =>
            rw [← List.cons_append, whole, Option.bind_eq_bind, Option.bind_some]
            show (if Nat.ofDigitChars 10 (letter :: digits) 0 < UInt64.size then _ else _) = _
            rw [value, if_pos (fits level rfl)]

/-- An object with the deepest level as its only member. -/
theorem readObject?_of_readDepth? (read : readDepth? text = some (depth, '\x7d' :: rest))
    : readObject? ('\x22' :: (depthKey ++ '\x22' :: ':' :: text)) = some (depth, rest) := by
  have units (behind : List Char)
      : readUnits? (depthKey ++ '\x22' :: behind) = some (depthKey.map Char.toNat, behind) :=
    rfl
  have letters : lettersOfUnits? (depthKey.map Char.toNat) = some depthKey := rfl
  have value : readValue? none depthKey text = some (some depth, '\x7d' :: rest) := by
    simp [readValue?, read]
  have noMark (behind : List Char) : afterMark? '\x7d' ('\x22' :: behind) = none := rfl
  have mark (letter : Char) (behind : List Char) (shows : isBlank letter = false)
      : afterMark? letter (letter :: behind) = some behind := by
    rw [afterMark?, dropBlanks_of_not_blank shows]
    simp [afterWord?]
  rw [readObject?, noMark, List.length_cons]
  simp only [readMembers?, Option.bind_eq_bind]
  rw [mark _ _ (by decide), Option.bind_some, units]
  simp only [Option.bind_some, letters, mark ':' _ (by decide), value]
  rw [dropBlanks_of_not_blank (by decide)]
  simp [mark '\x7d' _ (by decide)]

/-- A setting is read back from the text that it is written as exactly if its level fits. -/
theorem ofJson?_toJson_iff (config : Config)
    : ofJson? config.toJson = some config ↔ Fits config.maxDepth := by
  constructor
  · exact fits_of_ofJson?
  · intro fits
    have ends : EndsDigits ['\x7d'] := endsDigits_cons (by decide)
    have read := readObject?_of_readDepth? (readDepth?_written fits ends)
    have form : readForm? config.toJson.toList = some (config.maxDepth, []) := by
      rw [toList_toJson, readForm?, dropBlanks_of_not_blank (by decide)]
      exact read
    rw [ofJson?, form]
    rfl

end Config

end Unification
