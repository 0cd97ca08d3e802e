import Mathlib.Data.List.DropRight
import Unification.Proofs.DecimalRounding
import Unification.Proofs.Numeral
import Unification.Term.Display

/-! What general notation writes down. The digits and the power of ten form a numeral for
exactly the number that rounding to significant digits comes to, whichever form is chosen and
though the positional form rounds the number anew. Trimming takes zeros off the fraction only,
so it keeps the value; the display of floating-point numbers adds at most a point at the end.
-/

namespace Unification

namespace Numeric

-----------------------------------------------------------------------------------------
-- Zeros in front of and behind digits
-----------------------------------------------------------------------------------------

/-- The digits of a number, over zeros in front where they are fewer than the width. -/
def Digits.padded (width number : ℕ) : Digits where
  letters :=
    List.replicate (width - (Nat.toDigits 10 number).length) '0' ++ Nat.toDigits 10 number
  all := by
    refine AllDigits.append (fun letter member => ?_) (allDigits_toDigits number)
    rw [List.eq_of_mem_replicate member]
    rfl

theorem Digits.le_length_padded (width number : ℕ)
    : width ≤ (padded width number).letters.length := by
  rw [padded, List.length_append, List.length_replicate]
  omega

/-- Zeros in front do not change the number. -/
theorem Digits.ofDigitChars_padded (width number : ℕ)
    : Nat.ofDigitChars 10 (padded width number).letters 0 = number := by
  rw [padded, Nat.ofDigitChars_append, Nat.ofDigitChars_replicate_zero, Nat.mul_zero,
    Nat.ofDigitChars_ten_toDigits]

/-- What is trimmed is a run of zeros. -/
theorem exists_trimZeros (text : List Char)
    : ∃ zeros, text = trimZeros text ++ List.replicate zeros '0' := by
  have zeros : ∀ letter ∈ text.rtakeWhile (· = '0'), letter = '0' := by
    intro letter member
    simpa using List.mem_rtakeWhile_imp member
  refine ⟨(text.rtakeWhile (· = '0')).length, ?_⟩
  rw [← List.eq_replicate_length.mpr zeros]
  exact List.rdropWhile_append_rtakeWhile.symm

/-- All of the run is trimmed. -/
theorem getLast?_trimZeros (text : List Char) : (trimZeros text).getLast? ≠ some '0' := by
  intro zero
  have nonempty : text.rdropWhile (· = '0') ≠ [] := by
    rintro empty
    rw [trimZeros, ← List.rdropWhile, empty] at zero
    exact Option.some_ne_none _ zero.symm
  have last := List.rdropWhile_last_not _ _ nonempty
  rw [trimZeros, ← List.rdropWhile, List.getLast?_eq_some_getLast nonempty] at zero
  exact last (decide_eq_true (Option.some.inj zero))

theorem AllDigits.trimZeros {text : List Char} (all : AllDigits text)
    : AllDigits (trimZeros text) :=
  fun letter member => all letter ((List.rdropWhile_prefix _ _).subset member)

/-- Zeros behind a point are trimmed up to the point. -/
theorem trimZeros_append_point (whole fraction : List Char)
    : trimZeros (whole ++ '.' :: fraction) = whole ++ '.' :: trimZeros fraction := by
  rw [trimZeros, List.reverse_append, List.reverse_cons, List.append_assoc,
    List.dropWhile_append]
  split
  case isTrue empty =>
    rw [trimZeros, List.isEmpty_iff.mp empty]
    simp
  case isFalse => simp [trimZeros]

/-- Digits at the end of a text are not taken for a point. -/
theorem AllDigits.rdropWhile_point {digits : List Char} (all : AllDigits digits)
    (nonempty : digits ≠ []) (text : List Char)
    : (text ++ digits).rdropWhile (· = '.') = text ++ digits := by
  refine List.rdropWhile_eq_self_iff.mpr fun _ point => ?_
  have last := all _ (List.getLast_mem nonempty)
  rw [List.getLast_append_of_ne_nil _ nonempty] at point
  rw [of_decide_eq_true point] at last
  exact absurd last (by decide)

-----------------------------------------------------------------------------------------
-- Digits as they are written and trimmed
-----------------------------------------------------------------------------------------

/-- The digits without the zeros at their end. -/
def Digits.trim (digits : Digits) : Digits :=
  ⟨trimZeros digits.letters, digits.all.trimZeros⟩

@[simp]
theorem Digits.trim_letters (digits : Digits)
    : digits.trim.letters = trimZeros digits.letters :=
  rfl

namespace Mantissa

/-- The digits without zeros at the end of the fraction, and without the point when nothing is
left behind it.
-/
def trim (mantissa : Mantissa) : Mantissa :=
  let kept := mantissa.fraction.trim
  { mantissa with fraction? := if kept.letters = [] then none else some kept }

@[simp]
theorem trim_whole (mantissa : Mantissa) : mantissa.trim.whole = mantissa.whole :=
  rfl

@[simp]
theorem trim_fraction (mantissa : Mantissa)
    : mantissa.trim.fraction = mantissa.fraction.trim := by
  rw [trim]
  split
  case isTrue empty => exact Digits.ext empty.symm
  case isFalse => rfl

/-- Zeros at the end of the fraction do not count. -/
theorem trim_value (mantissa : Mantissa) : mantissa.trim.value = mantissa.value := by
  obtain ⟨zeros, split⟩ := exists_trimZeros mantissa.fraction.letters
  simp only [value, trim_whole, trim_fraction, Digits.trim_letters]
  generalize trimZeros mantissa.fraction.letters = kept at split ⊢
  have counted
      : Nat.ofDigitChars 10 (mantissa.whole.letters ++ mantissa.fraction.letters) 0
        = 10 ^ zeros * Nat.ofDigitChars 10 (mantissa.whole.letters ++ kept) 0 := by
    rw [split, ← List.append_assoc, Nat.ofDigitChars_append, Nat.ofDigitChars_replicate_zero]
  have length : mantissa.fraction.letters.length = zeros + kept.length := by
    rw [split, List.length_append, List.length_replicate, Nat.add_comm]
  rw [counted, length, Nat.cast_mul, Nat.cast_pow, Nat.cast_ofNat, pow_add]
  exact (mul_div_mul_left _ _ (by positivity)).symm

theorem trim_text_of_zeros (mantissa : Mantissa)
    (zeros : trimZeros mantissa.fraction.letters = [])
    : mantissa.trim.text = mantissa.whole.letters := by
  have none : mantissa.trim.fraction? = none := if_pos zeros
  rw [text, none, trim_whole, Option.elim_none, List.append_nil]

theorem trim_text_of_digits (mantissa : Mantissa)
    (digits : trimZeros mantissa.fraction.letters ≠ [])
    : mantissa.trim.text
      = mantissa.whole.letters ++ '.' :: trimZeros mantissa.fraction.letters := by
  have kept : mantissa.trim.fraction? = some mantissa.fraction.trim := if_neg digits
  rw [text, kept, trim_whole, Option.elim_some, Digits.trim_letters]

/-- Trimming the text trims the fraction: digits in front of the point stay, and so do all
where there is no point.
-/
theorem trimFraction_text (mantissa : Mantissa)
    : trimFraction mantissa.text = mantissa.trim.text := by
  obtain ⟨whole, nonempty, none | fraction⟩ := mantissa
  · have noPoint : '.' ∉ whole.letters := whole.all.not_mem (by decide)
    rw [trim_text_of_zeros _ rfl, text, Option.elim_none, List.append_nil, trimFraction,
      if_neg (by simpa using noPoint)]
  · have point : (whole.letters ++ '.' :: fraction.letters).contains '.' := by simp
    rw [text, Option.elim_some, trimFraction, if_pos point, trimZeros_append_point,
      ← List.rdropWhile]
    by_cases zeros : trimZeros fraction.letters = []
    · rw [trim_text_of_zeros ⟨whole, nonempty, some fraction⟩ zeros, zeros,
        List.rdropWhile_concat_pos _ _ _ (by decide)]
      exact whole.all.rdropWhile_point nonempty []
    · rw [trim_text_of_digits ⟨whole, nonempty, some fraction⟩ zeros, List.append_cons,
        fraction.all.trimZeros.rdropWhile_point zeros _, ← List.append_cons]
      rfl

/-- The units are written with their decimals, over zeros in front where their digits are too
few.
-/
theorem exists_text_eq_fixedText (decimals units : ℕ)
    : ∃ mantissa : Mantissa,
        mantissa.text = fixedText decimals units
        ∧ mantissa.value = units / 10 ^ decimals := by
  have length := Digits.le_length_padded (decimals + 1) units
  have counted := Digits.ofDigitChars_padded (decimals + 1) units
  have written
      : fixedText decimals units
        = let padded := (Digits.padded (decimals + 1) units).letters
          if decimals = 0 then
            padded
          else
            padded.take (padded.length - decimals)
              ++ '.' :: padded.drop (padded.length - decimals) :=
    rfl
  rw [written]
  generalize Digits.padded (decimals + 1) units = padded at length counted
  obtain ⟨padded, all⟩ := padded
  dsimp only at length counted ⊢
  split
  case isTrue noDecimals =>
    subst noDecimals
    refine ⟨⟨⟨padded, all⟩, List.ne_nil_of_length_pos length, none⟩, ?_, ?_⟩
    · simp [text]
    · simp [value, fraction, Digits.nil, counted]
  case isFalse =>
    let whole : Digits :=
      ⟨padded.take (padded.length - decimals),
        fun _ front => all _ (List.mem_of_mem_take front)⟩
    let fraction : Digits :=
      ⟨padded.drop (padded.length - decimals),
        fun _ back => all _ (List.mem_of_mem_drop back)⟩
    have nonempty : whole.letters ≠ [] := by
      apply List.ne_nil_of_length_pos
      rw [List.length_take]
      omega
    have rest : fraction.letters.length = decimals := by
      rw [List.length_drop]
      omega
    refine ⟨⟨whole, nonempty, some fraction⟩, rfl, ?_⟩
    rw [value, Mantissa.fraction, Option.getD_some, rest, List.take_append_drop, counted]

/-- Trimmed digits keep the number, and their fraction does not end in a zero. -/
theorem exists_text_eq_trimFraction (decimals units : ℕ)
    : ∃ mantissa : Mantissa,
        mantissa.text = trimFraction (fixedText decimals units)
        ∧ mantissa.value = units / 10 ^ decimals
        ∧ mantissa.fraction.letters.getLast? ≠ some '0' := by
  obtain ⟨mantissa, written, number⟩ := exists_text_eq_fixedText decimals units
  refine ⟨mantissa.trim, ?_, ?_, ?_⟩
  · rw [← written, trimFraction_text]
  · rw [trim_value, number]
  · rw [trim_fraction, Digits.trim_letters]
    exact getLast?_trimZeros _

end Mantissa

/-- An exponent is written as a power of ten with at least two digits. -/
theorem exists_text_eq_exponentText (exponent : ℤ)
    : ∃ power : Power,
        power.text = exponentText exponent
        ∧ power.value = exponent
        ∧ 2 ≤ power.digits.letters.length := by
  have length := Digits.le_length_padded 2 exponent.natAbs
  have nonempty := List.ne_nil_of_length_pos (Nat.zero_lt_two.trans_le length)
  refine ⟨⟨exponent < 0, .padded 2 exponent.natAbs, nonempty⟩, ?_, ?_, length⟩
  · simp [Power.text, exponentText, Digits.padded]
  · rw [Power.value, Digits.ofDigitChars_padded]
    simp only [decide_eq_true_eq]
    split <;> omega

-----------------------------------------------------------------------------------------
-- General notation of quotients
-----------------------------------------------------------------------------------------

/-- What general notation with a count of significant digits promises of the numeral that it
writes for a number.
-/
structure Numeral.General (places : ℕ) (value : ℚ) (numeral : Numeral) : Prop where
  exact : numeral.value = roundedTo places value
  sign : numeral.negative = true ↔ value < 0
  scientific : numeral.power?.isSome
    ↔ decimalExponent (roundedTo places value) < -4
      ∨ places ≤ decimalExponent (roundedTo places value)
  twoDigits : ∀ power ∈ numeral.power?, 2 ≤ power.digits.letters.length
  trimmed : numeral.mantissa.fraction.letters.getLast? ≠ some '0'

/-- A number's numeral with a sign in front is the numeral of the number with the sign. -/
theorem Numeral.General.withSign {places : ℕ} {value : ℚ} {numeral : Numeral}
    (general : numeral.General places value) (positive : 0 < value)
    (unsigned : numeral.negative = false) (negative : Bool)
    : { numeral with negative := negative }.General places
        ((if negative then -1 else 1) * value) := by
  obtain ⟨_, mantissa, power?⟩ := numeral
  cases unsigned
  cases negative with
  | false => simpa using general
  | true =>
      obtain ⟨exact, -, scientific, twoDigits, trimmed⟩ := general
      refine ⟨?_, ?_, ?_, twoDigits, trimmed⟩
      · simpa [Numeral.value, roundedTo_neg] using exact
      · simpa using positive
      · simpa [roundedTo_neg, decimalExponent_neg] using scientific

variable {places numerator denominator : ℕ}

/-- The digits have the rounded number's value when their last one is at its last place. -/
theorem Scientific.Rounds.value_eq {value : ℚ} {number : Scientific} {decimals : ℕ} {power : ℤ}
    (rounds : number.Rounds places value)
    (place : power - decimals = number.exponent + 1 - places)
    : (number.digits : ℚ) / 10 ^ decimals * 10 ^ power = roundedTo places value := by
  rw [rounds.rounded, ← place, zpow_sub₀ (by norm_num), zpow_natCast, div_mul_eq_mul_div,
    mul_div_assoc]

/-- The scientific form has one digit in front of the point, the positional form as many as
the exponent says; both count their digits in units of the same place.
-/
theorem exists_text_eq_generalText (somePlaces : 0 < places) (divisor : 0 < denominator)
    (enough : 10 ^ (-340 : ℤ) ≤ (numerator : ℚ) / denominator)
    : ∃ numeral : Numeral,
        numeral.text = generalText places numerator denominator
        ∧ numeral.General places (numerator / denominator)
        ∧ numeral.negative = false := by
  have rounds := roundSignificant_rounds somePlaces divisor enough
  have exponentEq := rounds.exponent_eq somePlaces
  have positive : ¬ (numerator : ℚ) / denominator < 0 := not_lt.mpr (by positivity)
  rw [generalText]
  generalize roundSignificant places numerator denominator = number at rounds exponentEq ⊢
  split
  case isTrue outside =>
    obtain ⟨mantissa, written, digits, trimmed⟩ :=
      Mantissa.exists_text_eq_trimFraction (places - 1) number.digits
    obtain ⟨power, powerWritten, powerValue, twoDigits⟩ :=
      exists_text_eq_exponentText number.exponent
    refine ⟨⟨false, mantissa, some power⟩, ?_, ⟨?_, ?_, ?_, ?_, trimmed⟩, rfl⟩
    · simp [Numeral.text, written, powerWritten]
    · have place
          : number.exponent - ((places - 1 : ℕ) : ℤ) = number.exponent + 1 - places := by
        omega
      simpa [Numeral.value, digits, powerValue] using rounds.value_eq place
    · simpa using positive
    · simpa [exponentEq] using outside
    · simpa using twoDigits
  case isFalse inside =>
    have left
        : (((places : ℤ) - 1 - number.exponent).toNat : ℤ) = places - 1 - number.exponent :=
      Int.toNat_of_nonneg (by omega)
    simp only [rounds.roundDecimals_eq divisor left]
    obtain ⟨mantissa, written, digits, trimmed⟩ :=
      Mantissa.exists_text_eq_trimFraction ((places : ℤ) - 1 - number.exponent).toNat
        number.digits
    refine ⟨⟨false, mantissa, none⟩, ?_, ⟨?_, ?_, ?_, ?_, trimmed⟩, rfl⟩
    · simp [Numeral.text, written]
    · have place
          : 0 - (((places : ℤ) - 1 - number.exponent).toNat : ℤ)
            = number.exponent + 1 - places := by
        omega
      simpa [Numeral.value, digits] using rounds.value_eq place
    · simpa using positive
    · simpa [exponentEq] using inside
    · exact fun power member => absurd member (Option.not_mem_none power)

-----------------------------------------------------------------------------------------
-- Floating-point numbers
-----------------------------------------------------------------------------------------

/-- The number that a finite word stands for. -/
def Binary64.value (number : Binary64) : ℚ :=
  (if number.negative then -1 else 1) * (number.units / unitsPerOne)

theorem Binary64.units_pos {number : Binary64} (nonzero : number.isZero = false)
    : 0 < number.units := by
  have significand : 0 < number.significand := by
    rw [significand]
    split
    case isTrue subnormal =>
      rw [isZero, decide_eq_false_iff_not] at nonzero
      exact Nat.pos_of_ne_zero fun none => nonzero ⟨subnormal, none⟩
    case isFalse => exact Nat.add_pos_left (Nat.pow_pos (by decide)) _
  exact Nat.mul_pos significand (Nat.pow_pos (by decide))

theorem Binary64.unitsPerOne_pos : 0 < unitsPerOne := by
  unfold unitsPerOne
  generalize 1074 = exponent
  exact Nat.pow_pos (by decide)

/-- Thirteen binary digits hold less than four decimal ones. -/
theorem two_pow_le {exponent count : ℕ} (few : exponent ≤ 13 * count)
    : (Nat.pow 2 exponent : ℚ) ≤ 10 ^ (4 * count) := by
  rw [Nat.pow_eq, Nat.cast_pow, Nat.cast_ofNat]
  calc (2 : ℚ) ^ exponent
      ≤ 2 ^ (13 * count) := pow_le_pow_right₀ (by norm_num) few
    _ = (2 ^ 13) ^ count := pow_mul _ _ _
    _ ≤ (10 ^ 4) ^ count := by gcongr; norm_num
    _ = 10 ^ (4 * count) := (pow_mul _ _ _).symm

theorem Binary64.unitsPerOne_le : (unitsPerOne : ℚ) ≤ 10 ^ (4 * 85) := by
  have few : 1074 ≤ 13 * 85 := by decide
  unfold unitsPerOne
  generalize 1074 = exponent at few ⊢
  exact two_pow_le few

/-- The least positive number is not below the power of ten that rounding counts in. -/
theorem Binary64.le_units_div {number : Binary64} (nonzero : number.isZero = false)
    : 10 ^ (-340 : ℤ) ≤ (number.units : ℚ) / unitsPerOne := by
  have units : (1 : ℚ) ≤ number.units := by exact_mod_cast units_pos nonzero
  have divisor : (0 : ℚ) < unitsPerOne := by exact_mod_cast unitsPerOne_pos
  have bound := unitsPerOne_le
  generalize unitsPerOne = perOne at *
  calc (10 : ℚ) ^ (-340 : ℤ)
      = 1 / 10 ^ (4 * 85) := by rw [zpow_neg, one_div]; rfl
    _ ≤ 1 / perOne := one_div_le_one_div_of_le divisor bound
    _ ≤ number.units / perOne := div_le_div_of_nonneg_right units divisor.le

theorem Binary64.units_div_pos {number : Binary64} (nonzero : number.isZero = false)
    : (0 : ℚ) < number.units / unitsPerOne :=
  (zpow_pos (by norm_num) _).trans_le (le_units_div nonzero)

theorem Binary64.value_ne_zero {number : Binary64} (nonzero : number.isZero = false)
    : number.value ≠ 0 := by
  refine mul_ne_zero ?_ (units_div_pos nonzero).ne'
  split <;> norm_num

/-- General notation of a number other than zero is the sign and then the general notation of
its magnitude.
-/
theorem Binary64.exists_text_eq_generalText {number : Binary64} (somePlaces : 0 < places)
    (isNumber : number.isNaN = false) (finite : number.isInfinite = false)
    (nonzero : number.isZero = false)
    : ∃ numeral : Numeral,
        numeral.text = number.generalText places ∧ numeral.General places number.value := by
  obtain ⟨numeral, written, general, unsigned⟩ :=
    Numeric.exists_text_eq_generalText somePlaces unitsPerOne_pos (le_units_div nonzero)
  refine ⟨{ numeral with negative := number.negative }, ?_,
    general.withSign (units_div_pos nonzero) unsigned number.negative⟩
  simp [generalText, isNumber, finite, nonzero, signText, ← written, Numeral.text, unsigned]

-----------------------------------------------------------------------------------------
-- The display of floating-point numbers
-----------------------------------------------------------------------------------------

namespace Numeral

variable {numeral : Numeral}

theorem point_mem_text {digits : Digits} (fraction : numeral.mantissa.fraction? = some digits)
    : '.' ∈ numeral.text := by
  simp [text, Mantissa.text, fraction]

theorem letter_mem_text {power : Power} (scientific : numeral.power? = some power)
    : 'e' ∈ numeral.text := by
  simp [text, Power.text, scientific]

/-- The first letter is a digit unless it is the sign. -/
theorem head?_text_eq_minus_iff : numeral.text.head? = some '-' ↔ numeral.negative = true := by
  cases negative : numeral.negative with
  | true => simp [text, negative]
  | false =>
      obtain ⟨rest, split⟩ : ∃ rest, numeral.text = numeral.mantissa.whole.letters ++ rest :=
        ⟨_, by rw [text, negative, Mantissa.text, List.append_assoc]; rfl⟩
      refine iff_of_false (fun minus => ?_) Bool.false_ne_true
      obtain ⟨rest, same⟩ := List.head?_eq_some_iff.mp minus
      exact numeral.mantissa.whole.all.append_ne_cons numeral.mantissa.nonempty (by decide)
        (split.symm.trans same)

/-- The numeral with a point behind its digits, where it has neither that nor a power of ten.
-/
def pointed : Numeral → Numeral
  | ⟨negative, mantissa, none⟩ =>
      ⟨negative, { mantissa with fraction? := some mantissa.fraction }, none⟩
  | numeral => numeral

theorem integer_text (noFraction : numeral.mantissa.fraction? = none)
    (noPower : numeral.power? = none)
    : numeral.text.all (fun letter => letter.isDigit || letter == '-') = true := by
  rw [text, Mantissa.text, noFraction, noPower, Option.elim_none, Option.elim_none,
    List.append_nil, List.append_nil, List.all_append, Bool.and_eq_true]
  constructor
  · split <;> rfl
  · refine List.all_eq_true.mpr fun letter member => ?_
    rw [numeral.mantissa.whole.all letter member, Bool.true_or]

theorem pointed_text (noFraction : numeral.mantissa.fraction? = none)
    (noPower : numeral.power? = none)
    : numeral.pointed.text = numeral.text ++ ['.'] := by
  obtain ⟨negative, ⟨whole, nonempty, fraction?⟩, power?⟩ := numeral
  subst noFraction noPower
  cases negative <;> simp [pointed, text, Mantissa.text, Mantissa.fraction, Digits.nil]

theorem pointed_not_integer (numeral : Numeral)
    : '.' ∈ numeral.pointed.text ∨ 'e' ∈ numeral.pointed.text := by
  obtain ⟨negative, mantissa, none | power⟩ := numeral
  · exact .inl (point_mem_text rfl)
  · exact .inr (letter_mem_text rfl)

theorem General.pointed {value : ℚ} (general : numeral.General places value)
    : numeral.pointed.General places value := by
  obtain ⟨negative, mantissa, none | power⟩ := numeral
  · exact ⟨general.exact, general.sign, general.scientific, general.twoDigits, general.trimmed⟩
  · exact general

end Numeral

end Numeric

open Numeric

variable {number : Binary64} {numeral : Numeral}

/-- A letter other than digits and sign keeps the text from reading as an integer. -/
theorem floatText_eq_of_mem {letter : Char} (written : numeral.text = number.generalText 12)
    (member : letter ∈ numeral.text) (other : (letter.isDigit || letter == '-') = false)
    : floatText number = numeral.text := by
  rw [floatText, ← written]
  refine if_neg fun all => ?_
  have digit := List.all_eq_true.mp all letter member
  exact Bool.false_ne_true (other.symm.trans digit)

/-- The display of a number is its general notation, with a point at the end where that would
read as an integer.
-/
theorem floatText_eq_text_pointed (written : numeral.text = number.generalText 12)
    : floatText number = numeral.pointed.text := by
  obtain ⟨negative, ⟨whole, nonempty, fraction?⟩, power?⟩ := numeral
  cases power? with
  | some power => exact floatText_eq_of_mem written (Numeral.letter_mem_text rfl) (by decide)
  | none =>
      cases fraction? with
      | some fraction =>
          exact floatText_eq_of_mem written (Numeral.point_mem_text rfl) (by decide)
      | none =>
          rw [floatText, ← written, if_pos (Numeral.integer_text rfl rfl),
            Numeral.pointed_text rfl rfl]

/-- The display of a number other than zero is a numeral in general notation for exactly the
number rounded to twelve significant digits, to which no number with as many digits is nearer.
It starts with a minus sign exactly for negative numbers, and it never reads as an integer.
-/
theorem floatText_denotes_rounded (number : Binary64) (isNumber : number.isNaN = false)
    (finite : number.isInfinite = false) (nonzero : number.isZero = false)
    : ∃ numeral : Numeral,
        Numeral.read? (floatText number) = some numeral
        ∧ numeral.General 12 number.value
        ∧ (∀ digits exponent : ℤ, |digits| < 10 ^ 12 →
            |number.value - numeral.value| ≤ |number.value - digits * 10 ^ exponent|)
        ∧ ((floatText number).head? = some '-' ↔ number.value < 0)
        ∧ ('.' ∈ floatText number ∨ 'e' ∈ floatText number) := by
  obtain ⟨numeral, written, general⟩ :=
    Binary64.exists_text_eq_generalText (by decide : 0 < 12) isNumber finite nonzero
  rw [floatText_eq_text_pointed written]
  refine ⟨numeral.pointed, numeral.pointed.read?_text, general.pointed, ?_,
    Numeral.head?_text_eq_minus_iff.trans general.pointed.sign, numeral.pointed_not_integer⟩
  intro digits exponent few
  rw [general.pointed.exact]
  exact roundedTo_near (by decide) (Binary64.value_ne_zero nonzero) few exponent

/-- Rounding carries the greatest number below 10¹² into the next power of ten, which then
needs scientific form.
-/
theorem floatText_denotes_rounded_of_carry
    : ∃ numeral : Numeral,
        Numeral.read? ['1', 'e', '+', '1', '2'] = some numeral
        ∧ numeral.value = roundedTo 12 (Binary64.value ⟨0x426D1A94A1FFFFFF⟩) := by
  have display : floatText ⟨0x426D1A94A1FFFFFF⟩ = ['1', 'e', '+', '1', '2'] := by
    decide +kernel
  obtain ⟨numeral, read, general, -⟩ :=
    floatText_denotes_rounded ⟨0x426D1A94A1FFFFFF⟩ (by decide) (by decide) (by decide)
  exact ⟨numeral, display ▸ read, general.exact⟩

/-- The number just below 10⁻⁴ is carried there, so that it is written in positional form. -/
example : floatText ⟨0x3F1A36E2EB1C42E3⟩ = ['0', '.', '0', '0', '0', '1'] := by
  decide +kernel

end Unification
