import Mathlib.Algebra.Order.Field.Power
import Mathlib.Algebra.Order.Field.Rat
import Mathlib.Algebra.Order.Floor.Semifield
import Mathlib.Data.Int.Log
import Mathlib.Data.Rat.Floor
import Mathlib.Tactic.Linarith
import Mathlib.Tactic.Positivity
import Mathlib.Tactic.Ring
import Unification.Numeric.Rounding

/-! Rounding of rational numbers to significant decimal digits, and the rounding of quotients
in whole numbers that computes it. A number is counted in units of the last of its significant
digits, and the count goes to the nearest whole number, in a tie to the even one. When that
carries into a new power of ten, counting in units of the next place gives the digits of the
carried number; so rounding once for the exponent and once more at the place which that
exponent gives never disagree.
-/

namespace Unification.Numeric

-----------------------------------------------------------------------------------------
-- The nearest whole number
-----------------------------------------------------------------------------------------

/-- A whole number that no other is nearer to the value than, and an even one in a tie. -/
structure NearestEven (value : ℚ) (whole : ℤ) : Prop where
  near : |value - whole| ≤ 1 / 2
  even : |value - whole| = 1 / 2 → Even whole

/-- The whole number nearest to a rational number, and of two nearest ones the even one. -/
def nearestEven (value : ℚ) : ℤ :=
  if value - ⌊value⌋ < 1 / 2 ∨ (value - ⌊value⌋ = 1 / 2 ∧ Even ⌊value⌋) then
    ⌊value⌋
  else
    ⌊value⌋ + 1

/-- The whole number below is nearest when the rest is less than a half, or a half and the
number is even.
-/
theorem NearestEven.lower {value : ℚ} {below : ℤ} (least : below ≤ value)
    (rest : value - below < 1 / 2 ∨ (value - below = 1 / 2 ∧ Even below))
    : NearestEven value below := by
  have distance : |value - below| = value - below := abs_of_nonneg (by linarith)
  rcases rest with less | ⟨half, even⟩
  · exact ⟨by linarith, fun tie => by linarith⟩
  · exact ⟨by linarith, fun _ => even⟩

/-- The whole number above is nearest in all other cases. -/
theorem NearestEven.upper {value : ℚ} {below : ℤ} (greatest : value ≤ below + 1)
    (rest : 1 / 2 < value - below ∨ (value - below = 1 / 2 ∧ Odd below))
    : NearestEven value (below + 1) := by
  have distance : |value - (below + 1 : ℤ)| = below + 1 - value := by
    push_cast
    rw [abs_sub_comm, abs_of_nonneg (by linarith)]
  rcases rest with more | ⟨half, odd⟩
  · exact ⟨by linarith, fun tie => by linarith⟩
  · exact ⟨by linarith, fun _ => odd.add_one⟩

theorem nearestEven_spec (value : ℚ) : NearestEven value (nearestEven value) := by
  rw [nearestEven]
  split
  case isTrue rest => exact .lower (Int.floor_le value) rest
  case isFalse rest =>
    rw [not_or, not_lt, not_and, Int.not_even_iff_odd] at rest
    refine .upper (Int.lt_floor_add_one value).le ?_
    exact rest.1.lt_or_eq.imp id (fun half => ⟨half.symm, rest.2 half.symm⟩)

/-- A value is not near two different whole numbers at once. -/
theorem one_le_abs_sub_add_abs_sub (value : ℚ) {whole other : ℤ} (different : whole ≠ other)
    : 1 ≤ |value - whole| + |value - other| := by
  have apart : (1 : ℚ) ≤ |(whole : ℚ) - other| := by
    exact_mod_cast Int.one_le_abs (sub_ne_zero.mpr different)
  have between := abs_sub_le (whole : ℚ) value other
  rw [abs_sub_comm (whole : ℚ) value] at between
  exact apart.trans between

/-- Two whole numbers as near as any other are neighbours, and of these only one is even. -/
theorem NearestEven.unique {value : ℚ} {whole other : ℤ} (left : NearestEven value whole)
    (right : NearestEven value other)
    : whole = other := by
  by_contra different
  have apart := one_le_abs_sub_add_abs_sub value different
  have nearLeft := left.near
  have nearRight := right.near
  have evenLeft := left.even (by linarith)
  have evenRight := right.even (by linarith)
  have neighbours : |(whole : ℚ) - other| < 2 := by
    have between := abs_sub_le (whole : ℚ) value other
    rw [abs_sub_comm (whole : ℚ) value] at between
    linarith
  have close : |whole - other| < 2 := by exact_mod_cast neighbours
  obtain ⟨half, distance⟩ := evenLeft.sub evenRight
  rw [abs_lt] at close
  omega

theorem NearestEven.eq {value : ℚ} {whole : ℤ} (nearest : NearestEven value whole)
    : nearestEven value = whole :=
  (nearestEven_spec value).unique nearest

theorem nearestEven_neg (value : ℚ) : nearestEven (-value) = -nearestEven value := by
  obtain ⟨near, even⟩ := nearestEven_spec value
  have mirrored : |(-value) - (-nearestEven value : ℤ)| = |value - nearestEven value| := by
    rw [abs_sub_comm]
    push_cast
    ring_nf
  exact NearestEven.eq ⟨mirrored ▸ near, fun tie => (even (mirrored ▸ tie)).neg⟩

/-- Rounding does not pass a whole number below the value. -/
theorem NearestEven.le_of_le {value : ℚ} {whole bound : ℤ} (nearest : NearestEven value whole)
    (least : bound ≤ value)
    : bound ≤ whole := by
  by_contra passed
  have next : (whole : ℚ) + 1 ≤ bound := by exact_mod_cast not_le.mp passed
  have near := (abs_le.mp nearest.near).2
  linarith

/-- Rounding does not pass a whole number above the value. -/
theorem NearestEven.le_of_ge {value : ℚ} {whole bound : ℤ} (nearest : NearestEven value whole)
    (greatest : value ≤ bound)
    : whole ≤ bound := by
  by_contra passed
  have next : (bound : ℚ) + 1 ≤ whole := by exact_mod_cast not_le.mp passed
  have near := (abs_le.mp nearest.near).1
  linarith

/-- No other whole number is nearer to the value. -/
theorem NearestEven.near_le {value : ℚ} {whole : ℤ} (nearest : NearestEven value whole)
    (other : ℤ)
    : |value - whole| ≤ |value - other| := by
  rcases eq_or_ne whole other with rfl | different
  · exact le_rfl
  · have apart := one_le_abs_sub_add_abs_sub value different
    have near := nearest.near
    linarith

/-- Ten times a whole number being nearest, the number itself is all the nearer to a tenth of
the value. A tenth of a half is less than a half, so there is no tie to settle.
-/
theorem NearestEven.tenth {value : ℚ} {whole : ℤ} (nearest : NearestEven value (10 * whole))
    : NearestEven (value / 10) whole := by
  have near := nearest.near
  have scaled : value / 10 - whole = (value - (10 * whole : ℤ)) / 10 := by
    push_cast
    ring
  have closer : |value / 10 - whole| < 1 / 2 := by
    rw [scaled, abs_div, abs_of_pos (by norm_num : (0 : ℚ) < 10)]
    linarith
  exact ⟨closer.le, fun tie => absurd tie closer.ne⟩

/-- Rounding a quotient in whole numbers compares twice the remainder with the divisor. -/
theorem roundHalfEven_nearest (numerator : ℕ) {denominator : ℕ} (positive : 0 < denominator)
    : NearestEven (numerator / denominator) (roundHalfEven numerator denominator) := by
  have divisor : (0 : ℚ) < denominator := by exact_mod_cast positive
  have rest
      : (numerator : ℚ) / denominator - ((numerator / denominator : ℕ) : ℤ)
        = (numerator % denominator : ℕ) / denominator := by
    rw [Int.cast_natCast, sub_eq_iff_eq_add, div_eq_iff divisor.ne', add_mul,
      div_mul_cancel₀ _ divisor.ne']
    exact_mod_cast (Nat.mod_add_div' numerator denominator).symm
  have remainder := Nat.mod_lt numerator positive
  rw [roundHalfEven]
  generalize numerator / denominator = below at rest ⊢
  generalize numerator % denominator = excess at rest remainder ⊢
  have least : (0 : ℚ) ≤ excess / denominator := by positivity
  have greatest : (excess : ℚ) / denominator ≤ 1 := by
    rw [div_le_one divisor]
    exact_mod_cast remainder.le
  have less : 2 * excess < denominator ↔ (excess : ℚ) / denominator < 1 / 2 := by
    rw [div_lt_div_iff₀ divisor two_pos, one_mul, mul_comm]
    norm_cast
  have more : denominator < 2 * excess ↔ 1 / 2 < (excess : ℚ) / denominator := by
    rw [div_lt_div_iff₀ two_pos divisor, one_mul, mul_comm (excess : ℚ)]
    norm_cast
  rw [← rest] at less more
  simp only [less, more]
  split
  case isTrue lower => exact .lower (by linarith) (.inl lower)
  case isFalse notLower =>
    split
    case isTrue upper => exact .upper (by linarith) (.inl upper)
    case isFalse notUpper =>
      have tie := le_antisymm (not_lt.mp notUpper) (not_lt.mp notLower)
      rcases Nat.even_or_odd below with even | odd
      · rw [Nat.even_iff.mp even, Nat.add_zero]
        exact .lower (by linarith) (.inr ⟨tie, by exact_mod_cast even⟩)
      · rw [Nat.odd_iff.mp odd]
        exact .upper (by linarith) (.inr ⟨tie, by exact_mod_cast odd⟩)

-----------------------------------------------------------------------------------------
-- Significant digits
-----------------------------------------------------------------------------------------

/-- The power of ten at the leading digit of a number. -/
def decimalExponent (value : ℚ) : ℤ :=
  Int.log 10 |value|

/-- The power of ten at the last of a number's significant digits, of which there are `places`.
-/
def lastPlace (places : ℕ) (value : ℚ) : ℚ :=
  10 ^ (decimalExponent value + 1 - places)

/-- A number rounded to a count of significant decimal digits: the nearest multiple of the last
place, in a tie the even one.
-/
def roundedTo (places : ℕ) (value : ℚ) : ℚ :=
  nearestEven (value / lastPlace places value) * lastPlace places value

theorem lastPlace_pos (places : ℕ) (value : ℚ) : 0 < lastPlace places value :=
  zpow_pos (by norm_num) _

theorem decimalExponent_neg (value : ℚ) : decimalExponent (-value) = decimalExponent value := by
  rw [decimalExponent, abs_neg, decimalExponent]

theorem roundedTo_neg (places : ℕ) (value : ℚ)
    : roundedTo places (-value) = -roundedTo places value := by
  simp only [roundedTo, lastPlace, decimalExponent_neg, neg_div, nearestEven_neg, Int.cast_neg,
    neg_mul]

/-- The exponent is the one whose decade holds the magnitude. -/
theorem decimalExponent_eq {value : ℚ} {exponent : ℤ} (least : 10 ^ exponent ≤ |value|)
    (below : |value| < 10 ^ (exponent + 1))
    : decimalExponent value = exponent := by
  have positive : 0 < |value| := (zpow_pos (by norm_num) exponent).trans_le least
  have notBelow := (Int.zpow_le_iff_le_log (b := 10) (by decide) positive).mp least
  have notAbove := (Int.lt_zpow_iff_log_lt (b := 10) (by decide) positive).mp below
  rw [decimalExponent]
  omega

/-- A number other than zero lies in the decade of its decimal exponent. -/
theorem decimalExponent_bounds {value : ℚ} (nonzero : value ≠ 0)
    : 10 ^ decimalExponent value ≤ |value| ∧ |value| < 10 ^ (decimalExponent value + 1) :=
  ⟨Int.zpow_log_le_self (by decide) (abs_pos.mpr nonzero),
    Int.lt_zpow_succ_log_self (by decide) |value|⟩

/-- No multiple of the last place is nearer than the rounded number. -/
theorem roundedTo_near_multiple (places : ℕ) (value : ℚ) (whole : ℤ)
    : |value - roundedTo places value| ≤ |value - whole * lastPlace places value| := by
  have unit := lastPlace_pos places value
  have counted (count : ℤ)
      : |value - count * lastPlace places value|
        = |value / lastPlace places value - count| * lastPlace places value := by
    rw [← abs_of_pos unit, ← abs_mul, abs_of_pos unit, sub_mul, div_mul_cancel₀ _ unit.ne']
  rw [roundedTo, counted, counted]
  exact mul_le_mul_of_nonneg_right ((nearestEven_spec _).near_le whole) unit.le

/-- A number whose last digit lies behind the last of as many places does not reach the power of
ten in front of them.
-/
theorem abs_digits_le {places : ℕ} {digits leading exponent : ℤ} (few : |digits| < 10 ^ places)
    (fine : exponent < leading + 1 - places)
    : |(digits : ℚ) * 10 ^ exponent| ≤ 10 ^ leading := by
  have unit : (0 : ℚ) < 10 ^ exponent := zpow_pos (by norm_num) _
  have fewer : |(digits : ℚ)| ≤ 10 ^ (places : ℤ) := by
    rw [zpow_natCast]
    exact_mod_cast few.le
  have finer : (10 : ℚ) ^ exponent ≤ 10 ^ (leading - places) :=
    zpow_le_zpow_right₀ (by norm_num) (by omega)
  calc |(digits : ℚ) * 10 ^ exponent|
      = |(digits : ℚ)| * 10 ^ exponent := by rw [abs_mul, abs_of_pos unit]
    _ ≤ 10 ^ (places : ℤ) * 10 ^ (leading - places) := by gcongr
    _ = 10 ^ leading := by rw [← zpow_add₀ (by norm_num), add_sub_cancel]

/-- The leading power of ten is a multiple of the last place. -/
theorem leading_eq_mul_lastPlace {places : ℕ} (some : 0 < places) (value : ℚ)
    : (10 : ℚ) ^ decimalExponent value = (10 ^ (places - 1) : ℤ) * lastPlace places value := by
  rw [lastPlace, Int.cast_pow, Int.cast_ofNat, ← zpow_natCast, ← zpow_add₀ (by norm_num),
    Nat.cast_pred some]
  congr 1
  ring

/-- No number of as many significant digits is nearer than the rounded number. One whose last
digit is at the last place or in front of it is a multiple of the last place. Any other lies
below the leading power of ten, which is such a multiple and nearer.
-/
theorem roundedTo_near {places : ℕ} (some : 0 < places) {value : ℚ} (nonzero : value ≠ 0)
    {digits : ℤ} (few : |digits| < 10 ^ places) (exponent : ℤ)
    : |value - roundedTo places value| ≤ |value - digits * 10 ^ exponent| := by
  rcases le_or_gt (decimalExponent value + 1 - places) exponent with coarse | fine
  · obtain ⟨more, rfl⟩ := Int.le.dest coarse
    have multiple
        : (digits : ℚ) * 10 ^ (decimalExponent value + 1 - places + more)
          = (digits * 10 ^ more : ℤ) * lastPlace places value := by
      rw [lastPlace, zpow_add₀ (by norm_num), zpow_natCast]
      push_cast
      ring
    rw [multiple]
    exact roundedTo_near_multiple places value _
  · obtain ⟨decade, -⟩ := decimalExponent_bounds nonzero
    have small := abs_digits_le few fine
    have apart := abs_sub_abs_le_abs_sub value (digits * 10 ^ exponent)
    rcases le_total 0 value with positive | negative
    · refine (roundedTo_near_multiple places value (10 ^ (places - 1))).trans ?_
      rw [abs_of_nonneg positive] at decade apart
      rw [← leading_eq_mul_lastPlace some, abs_of_nonneg (by linarith)]
      linarith
    · refine (roundedTo_near_multiple places value (-10 ^ (places - 1))).trans ?_
      rw [abs_of_nonpos negative] at decade apart
      rw [Int.cast_neg, neg_mul, ← leading_eq_mul_lastPlace some, abs_of_nonpos (by linarith)]
      linarith

-----------------------------------------------------------------------------------------
-- Rounding of quotients to significant digits
-----------------------------------------------------------------------------------------

variable {places numerator denominator : ℕ}

/-- A natural number with a count of digits lies in the decade of that count. -/
theorem digitCount_bounds {number : ℕ} (positive : 0 < number)
    : 10 ^ (digitCount number - 1) ≤ number ∧ number < 10 ^ digitCount number := by
  have digits : 0 < digitCount number := Nat.length_toDigits_pos
  refine ⟨?_, (Nat.length_toDigits_le_iff (by decide) digits).mp le_rfl⟩
  by_contra less
  rw [not_le] at less
  rcases Nat.eq_zero_or_pos (digitCount number - 1) with one | more
  · rw [one] at less
    omega
  · have fewer := (Nat.length_toDigits_le_iff (by decide) more).mpr less
    rw [← digitCount] at fewer
    omega

/-- Scaling a quotient multiplies it by the power of ten, whatever the sign of the exponent. -/
theorem scaleByTen_div (power : ℤ) (numerator denominator : ℕ)
    : ((scaleByTen power numerator denominator).1 : ℚ)
          / (scaleByTen power numerator denominator).2
        = numerator / denominator * 10 ^ power := by
  have parts : (10 : ℚ) ^ power = 10 ^ power.toNat / 10 ^ (-power).toNat := by
    rw [← zpow_natCast, ← zpow_natCast, ← zpow_sub₀ (by norm_num)]
    congr 1
    omega
  simp only [scaleByTen, Nat.pow_eq, Nat.cast_mul, Nat.cast_pow, Nat.cast_ofNat]
  rw [mul_div_mul_comm, parts]

/-- The decimal exponent of a quotient can be read off its whole part in units of a power of
ten that makes it at least one: the whole part lies in the same decade as the quotient.
-/
theorem digitCount_scaled (shift : ℕ) (divisor : 0 < denominator)
    (enough : 10 ^ (-shift : ℤ) ≤ (numerator : ℚ) / denominator)
    : (digitCount (numerator * Nat.pow 10 shift / denominator) : ℤ)
      = decimalExponent ((numerator : ℚ) / denominator) + (shift + 1) := by
  rw [Nat.pow_eq]
  have some : denominator ≤ numerator * 10 ^ shift := by
    rw [zpow_neg, zpow_natCast, le_div_iff₀ (by positivity), inv_mul_le_iff₀ (by positivity),
      mul_comm] at enough
    exact_mod_cast enough
  have scaled
      : ((numerator * 10 ^ shift : ℕ) : ℚ) / denominator
        = numerator / denominator * 10 ^ (shift : ℤ) := by
    rw [Nat.cast_mul, Nat.cast_pow, Nat.cast_ofNat, mul_div_right_comm, zpow_natCast]
  have positive : (0 : ℚ) < 10 ^ (shift : ℤ) := zpow_pos (by norm_num) _
  have magnitude : |(numerator : ℚ) / denominator| = numerator / denominator :=
    abs_of_nonneg (by positivity)
  have least :=
    Nat.floor_le (a := ((numerator * 10 ^ shift : ℕ) : ℚ) / denominator) (by positivity)
  have below := Nat.lt_floor_add_one (((numerator * 10 ^ shift : ℕ) : ℚ) / denominator)
  rw [Nat.floor_div_eq_div, scaled] at least below
  obtain ⟨decade, nextDecade⟩ := digitCount_bounds (Nat.div_pos some divisor)
  generalize numerator * 10 ^ shift / denominator = whole at *
  have digits : 0 < digitCount whole := Nat.length_toDigits_pos
  rw [← sub_eq_iff_eq_add]
  symm
  apply decimalExponent_eq <;> rw [magnitude]
  · have lower : (10 : ℚ) ^ ((digitCount whole : ℤ) - 1) ≤ whole := by
      rw [← Nat.cast_pred digits, zpow_natCast]
      exact_mod_cast decade
    rw [← mul_le_mul_iff_left₀ positive, ← zpow_add₀ (by norm_num)]
    rw [show (digitCount whole : ℤ) - (shift + 1) + shift = digitCount whole - 1 by ring]
    exact lower.trans least
  · have upper : (whole : ℚ) + 1 ≤ 10 ^ (digitCount whole : ℤ) := by
      rw [zpow_natCast]
      exact_mod_cast nextDecade
    rw [← mul_lt_mul_iff_left₀ positive, ← zpow_add₀ (by norm_num)]
    rw [show (digitCount whole : ℤ) - (shift + 1) + 1 + shift = digitCount whole by ring]
    exact below.trans_le upper

/-- What rounding a positive number to significant digits comes to: as many digits as wanted,
which with their exponent make up the rounded number, and which the number itself, counted in
units of the last of them, is nearest to.
-/
structure Scientific.Rounds (places : ℕ) (value : ℚ) (number : Scientific) : Prop where
  least : 10 ^ (places - 1) ≤ number.digits
  below : number.digits < 10 ^ places
  rounded : roundedTo places value = number.digits * 10 ^ (number.exponent + 1 - places)
  again : NearestEven (value * 10 ^ ((places : ℤ) - 1 - number.exponent)) number.digits

/-- A positive number, counted in units of its last place, has as many digits as there are
places.
-/
theorem lastPlace_count_bounds {value : ℚ} (positive : 0 < value) (some : 0 < places)
    : ((10 ^ (places - 1) : ℤ) : ℚ)
        ≤ value * 10 ^ ((places : ℤ) - 1 - decimalExponent value)
      ∧ value * 10 ^ ((places : ℤ) - 1 - decimalExponent value) ≤ ((10 ^ places : ℤ) : ℚ) := by
  obtain ⟨decade, nextDecade⟩ := decimalExponent_bounds positive.ne'
  rw [abs_of_pos positive] at decade nextDecade
  have scale : (0 : ℚ) < 10 ^ ((places : ℤ) - 1 - decimalExponent value) :=
    zpow_pos (by norm_num) _
  constructor
  · calc ((10 ^ (places - 1) : ℤ) : ℚ)
        = 10 ^ decimalExponent value * 10 ^ ((places : ℤ) - 1 - decimalExponent value) := by
          rw [← zpow_add₀ (by norm_num), add_sub_cancel, Int.cast_pow, Int.cast_ofNat,
            ← zpow_natCast, Nat.cast_pred some]
      _ ≤ value * 10 ^ ((places : ℤ) - 1 - decimalExponent value) := by gcongr
  · calc value * 10 ^ ((places : ℤ) - 1 - decimalExponent value)
        ≤ 10 ^ (decimalExponent value + 1)
            * 10 ^ ((places : ℤ) - 1 - decimalExponent value) := by gcongr
      _ = ((10 ^ places : ℤ) : ℚ) := by
          rw [← zpow_add₀ (by norm_num), Int.cast_pow, Int.cast_ofNat, ← zpow_natCast]
          congr 1
          ring

/-- A number rounds to what its count of last places is nearest to. -/
theorem roundedTo_of_nearest {value : ℚ} {digits : ℤ}
    (nearest : NearestEven (value * 10 ^ ((places : ℤ) - 1 - decimalExponent value)) digits)
    : roundedTo places value = digits * 10 ^ (decimalExponent value + 1 - places) := by
  have counted
      : value / lastPlace places value
        = value * 10 ^ ((places : ℤ) - 1 - decimalExponent value) := by
    rw [lastPlace, div_eq_mul_inv, ← zpow_neg]
    congr 2
    ring
  rw [roundedTo, counted, nearest.eq, lastPlace]

/-- When rounding a positive number does not carry, the nearest count gives the digits, and when
it carries into the next power of ten, a tenth of it at the next place.
-/
theorem rounds_of_nearest {value : ℚ} (positive : 0 < value) (some : 0 < places) {digits : ℕ}
    (nearest : NearestEven (value * 10 ^ ((places : ℤ) - 1 - decimalExponent value)) digits)
    : Scientific.Rounds places value
        (if digits = 10 ^ places then
          ⟨10 ^ (places - 1), decimalExponent value + 1⟩
        else
          ⟨digits, decimalExponent value⟩) := by
  have rounded := roundedTo_of_nearest nearest
  obtain ⟨lower, upper⟩ := lastPlace_count_bounds positive some
  have least : 10 ^ (places - 1) ≤ digits := by exact_mod_cast nearest.le_of_le lower
  have greatest : digits ≤ 10 ^ places := by exact_mod_cast nearest.le_of_ge upper
  split
  case isFalse noCarry => exact ⟨least, lt_of_le_of_ne greatest noCarry, rounded, nearest⟩
  case isTrue carry =>
    have tenfold : 10 ^ places = 10 * 10 ^ (places - 1) := by
      rw [← pow_succ', Nat.sub_add_cancel some]
    rw [carry, tenfold] at rounded nearest
    refine ⟨le_rfl, Nat.pow_lt_pow_right (by decide) (by omega), ?_, ?_⟩
    · have next
          : (10 : ℚ) ^ (decimalExponent value + 1 + 1 - places)
            = 10 ^ (decimalExponent value + 1 - places) * 10 := by
        rw [← zpow_add_one₀ (by norm_num)]
        congr 1
        ring
      rw [rounded, next]
      push_cast
      ring
    · have next
          : value * 10 ^ ((places : ℤ) - 1 - (decimalExponent value + 1))
            = value * 10 ^ ((places : ℤ) - 1 - decimalExponent value) / 10 := by
        rw [← sub_sub, zpow_sub₀ (by norm_num), zpow_one, mul_div_assoc]
      rw [next]
      exact NearestEven.tenth (by exact_mod_cast nearest)

/-- Rounding to significant digits in whole numbers comes to the rounded number. -/
theorem roundSignificant_rounds (some : 0 < places) (divisor : 0 < denominator)
    (enough : 10 ^ (-340 : ℤ) ≤ (numerator : ℚ) / denominator)
    : (roundSignificant places numerator denominator).Rounds places
        (numerator / denominator) := by
  have positive : (0 : ℚ) < numerator / denominator :=
    (zpow_pos (by norm_num) _).trans_le enough
  have leading
      : leadingExponent numerator denominator
        = decimalExponent ((numerator : ℚ) / denominator) := by
    rw [leadingExponent]
    generalize shiftEq : (340 : ℕ) = shift
    rw [digitCount_scaled shift divisor (shiftEq ▸ enough), ← shiftEq, Nat.cast_ofNat]
    ring
  rw [roundSignificant, leading]
  generalize exponentEq : decimalExponent ((numerator : ℚ) / denominator) = exponent
  have scaledDivisor
      : 0 < (scaleByTen ((places : ℤ) - 1 - exponent) numerator denominator).2 :=
    Nat.mul_pos divisor (Nat.pow_pos (by decide))
  have nearest := roundHalfEven_nearest
    (scaleByTen ((places : ℤ) - 1 - exponent) numerator denominator).1 scaledDivisor
  rw [scaleByTen_div, ← exponentEq] at nearest
  have rounds := rounds_of_nearest positive some nearest
  rw [exponentEq] at rounds
  exact rounds

/-- The decimal exponent of the rounded number is that of its digits. -/
theorem Scientific.Rounds.exponent_eq {value : ℚ} {number : Scientific}
    (rounds : number.Rounds places value) (some : 0 < places)
    : decimalExponent (roundedTo places value) = number.exponent := by
  have unit : (0 : ℚ) < 10 ^ (number.exponent + 1 - places) := zpow_pos (by norm_num) _
  have magnitude : |roundedTo places value| = roundedTo places value := by
    rw [rounds.rounded]
    exact abs_of_nonneg (by positivity)
  apply decimalExponent_eq <;> rw [magnitude, rounds.rounded]
  · have least : (10 : ℚ) ^ ((places : ℤ) - 1) ≤ number.digits := by
      rw [← Nat.cast_pred some, zpow_natCast]
      exact_mod_cast rounds.least
    calc (10 : ℚ) ^ number.exponent
        = 10 ^ ((places : ℤ) - 1) * 10 ^ (number.exponent + 1 - places) := by
          rw [← zpow_add₀ (by norm_num)]
          congr 1
          ring
      _ ≤ number.digits * 10 ^ (number.exponent + 1 - places) := by gcongr
  · have below : (number.digits : ℚ) < 10 ^ (places : ℤ) := by
      rw [zpow_natCast]
      exact_mod_cast rounds.below
    calc number.digits * 10 ^ (number.exponent + 1 - places)
        < (10 : ℚ) ^ (places : ℤ) * 10 ^ (number.exponent + 1 - places) := by gcongr
      _ = 10 ^ (number.exponent + 1) := by
          rw [← zpow_add₀ (by norm_num)]
          congr 1
          ring

/-- Rounding the number once more, to the decimals that its exponent leaves of the significant
digits, gives the same digits.
-/
theorem Scientific.Rounds.roundDecimals_eq {number : Scientific} {decimals : ℕ}
    (rounds : number.Rounds places (numerator / denominator)) (divisor : 0 < denominator)
    (left : (decimals : ℤ) = places - 1 - number.exponent)
    : roundDecimals decimals numerator denominator = number.digits := by
  have nearest := roundHalfEven_nearest (numerator * 10 ^ decimals) divisor
  have again := rounds.again
  rw [← left, zpow_natCast] at again
  rw [Nat.cast_mul, Nat.cast_pow, Nat.cast_ofNat, mul_div_right_comm] at nearest
  exact_mod_cast nearest.unique again

end Unification.Numeric
