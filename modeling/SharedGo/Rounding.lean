/-
This file is a library for floating-point arithmetic, with numbers as the rationals
they denote. The exact result of an operation is rounded to a number of binary digits,
to the nearest such number and to the even one of two. The exponent is not bounded
here: that is the arithmetic of a format as long as its results stay in range.

A rounding is off by half of the last place at most, so numbers that are further apart
stay apart, and what is a little below the next integer keeps its integer part.
-/

import Mathlib.Data.Int.Log
import Mathlib.Data.Rat.Floor
import Mathlib.Tactic.Linarith
import Mathlib.Tactic.FieldSimp

namespace SharedGo.Rounding

/-- The nearest integer, and the even one of two. -/
def nearest (value : ℚ) : ℤ :=
  if value - ⌊value⌋ < 1 / 2 then ⌊value⌋
  else if 1 / 2 < value - ⌊value⌋ then ⌊value⌋ + 1
  else if ⌊value⌋ % 2 = 0 then ⌊value⌋
  else ⌊value⌋ + 1

/-- What the last of some binary digits of a value is worth. -/
def lastPlace (precision : ℕ) (value : ℚ) : ℚ := 2 ^ (Int.log 2 |value| + 1 - precision)

/-- The nearest number of some binary digits. -/
def round (precision : ℕ) (value : ℚ) : ℚ :=
  nearest (value / lastPlace precision value) * lastPlace precision value

/-- The integer part. -/
def truncate (value : ℚ) : ℤ := value.num.tdiv value.den

/-! ### Integers -/

theorem nearest_cases (value : ℚ) :
    (nearest value = ⌊value⌋ ∧ value ≤ ⌊value⌋ + 1 / 2) ∨
      (nearest value = ⌊value⌋ + 1 ∧ (⌊value⌋ : ℚ) + 1 / 2 ≤ value) := by
  unfold nearest
  split_ifs with below above even
  · exact Or.inl ⟨rfl, by linarith⟩
  · exact Or.inr ⟨rfl, by linarith⟩
  · exact Or.inl ⟨rfl, by linarith⟩
  · exact Or.inr ⟨rfl, by linarith⟩

theorem abs_nearest_sub_le (value : ℚ) : |nearest value - value| ≤ 1 / 2 := by
  have floorLe := Int.floor_le value
  have ltFloor := Int.lt_floor_add_one value
  rw [abs_le]
  rcases nearest_cases value with ⟨same, near⟩ | ⟨same, near⟩
  · rw [same]
    constructor <;> linarith
  · rw [same]
    push_cast
    constructor <;> linarith

theorem le_nearest (value : ℚ) (bound : ℤ) (below : (bound : ℚ) ≤ value) :
    bound ≤ nearest value := by
  have floors : bound ≤ ⌊value⌋ := Int.le_floor.mpr below
  rcases nearest_cases value with ⟨same, _⟩ | ⟨same, _⟩
  · rwa [same]
  · rw [same]
    omega

/-! ### The last place -/

variable (precision : ℕ) (value : ℚ)

theorem lastPlace_pos : 0 < lastPlace precision value := zpow_pos (by norm_num) _

/-- Below a power of two the last place is worth that many digits less. -/
theorem lastPlace_le (exponent : ℤ) (positive : 0 < value) (below : value < 2 ^ exponent) :
    lastPlace precision value ≤ 2 ^ (exponent - precision) := by
  have log : Int.log 2 |value| < exponent := by
    rw [abs_of_pos positive]
    exact (Int.lt_zpow_iff_log_lt (by decide) positive).mp (by exact_mod_cast below)
  exact zpow_le_zpow_right₀ (by norm_num) (by omega)

/-- The last place is a small part of the value. -/
theorem lastPlace_le_mul (positive : 0 < value) :
    lastPlace precision value ≤ value * 2 ^ (1 - precision : ℤ) := by
  have log : (2 : ℚ) ^ Int.log 2 |value| ≤ value := by
    rw [abs_of_pos positive]
    exact_mod_cast Int.zpow_log_le_self (b := 2) (by decide) positive
  rw [lastPlace, add_sub_assoc, zpow_add₀ (by norm_num)]
  exact mul_le_mul_of_nonneg_right log (zpow_nonneg (by norm_num) _)

theorem abs_round_sub_le : |round precision value - value| ≤ lastPlace precision value / 2 := by
  have positive := lastPlace_pos precision value
  have scaled : round precision value - value =
      (nearest (value / lastPlace precision value) - value / lastPlace precision value) *
        lastPlace precision value := by
    rw [round, sub_mul, div_mul_cancel₀ _ positive.ne']
  rw [scaled, abs_mul, abs_of_pos positive]
  calc _ ≤ 1 / 2 * lastPlace precision value :=
        mul_le_mul_of_nonneg_right (abs_nearest_sub_le _) positive.le
    _ = lastPlace precision value / 2 := by ring

/-- Numbers that are further apart than their last places stay apart. -/
theorem round_lt_round (first second : ℚ)
    (gap : lastPlace precision first / 2 + lastPlace precision second / 2 < second - first) :
    round precision first < round precision second := by
  have nearFirst := (abs_le.mp (abs_round_sub_le precision first)).2
  have nearSecond := (abs_le.mp (abs_round_sub_le precision second)).1
  linarith

theorem round_lt_round_of_ratio (first second : ℚ) (firstPos : 0 < first) (secondPos : 0 < second)
    (gap : (first + second) / 2 ^ precision < second - first) :
    round precision first < round precision second := by
  have half : (2 : ℚ) ^ (1 - precision : ℤ) / 2 = 1 / 2 ^ precision := by
    rw [zpow_sub₀ (by norm_num), zpow_one, zpow_natCast]
    field_simp
  have places (value : ℚ) (positive : 0 < value) :
      lastPlace precision value / 2 ≤ value / 2 ^ precision := by
    calc lastPlace precision value / 2 ≤ value * 2 ^ (1 - precision : ℤ) / 2 :=
          div_le_div_of_nonneg_right (lastPlace_le_mul precision value positive) (by norm_num)
      _ = value / 2 ^ precision := by rw [mul_div_assoc, half, mul_one_div]
  refine round_lt_round precision first second ?_
  rw [add_div] at gap
  exact (add_le_add (places first firstPos) (places second secondPos)).trans_lt gap

/-- Fractions of one denominator stay apart when their numerators have few enough digits. -/
theorem round_div_lt (first second scale : ℕ) (positive : 0 < first) (less : first < second)
    (few : first + second < 2 ^ precision) (scalePos : 0 < scale) :
    round precision (first / scale) < round precision (second / scale) := by
  have scalePos : (0 : ℚ) < scale := by exact_mod_cast scalePos
  have firstPos : (0 : ℚ) < first := by exact_mod_cast positive
  have secondPos : (0 : ℚ) < second := by exact_mod_cast positive.trans less
  have few : (first + second : ℚ) < 2 ^ precision := by exact_mod_cast few
  have enough : (1 : ℚ) ≤ second - first := by
    rw [le_sub_iff_add_le']
    exact_mod_cast less
  refine round_lt_round_of_ratio precision _ _ (div_pos firstPos scalePos)
    (div_pos secondPos scalePos) ?_
  rw [← add_div, ← sub_div, div_right_comm]
  refine div_lt_div_of_pos_right ?_ scalePos
  rw [div_lt_iff₀ (by positivity)]
  calc (first + second : ℚ) < 1 * 2 ^ precision := by rwa [one_mul]
    _ ≤ (second - first) * 2 ^ precision := mul_le_mul_of_nonneg_right enough (by positivity)

/-- When the last place is a fraction the integers are multiples of it. -/
theorem exists_multiple (fraction : lastPlace precision value ≤ 1) (whole : ℤ) :
    ∃ multiple : ℤ, (whole : ℚ) = multiple * lastPlace precision value := by
  have exponent : Int.log 2 |value| + 1 - precision ≤ 0 := by
    rw [lastPlace] at fraction
    by_contra large
    exact absurd fraction (not_le.mpr (one_lt_zpow₀ (by norm_num) (by omega)))
  obtain ⟨places, isExponent⟩ := Int.eq_ofNat_of_zero_le (Int.neg_nonneg_of_nonpos exponent)
  have isPlace : lastPlace precision value = (2 ^ places)⁻¹ := by
    rw [lastPlace, ← neg_neg (_ - _), isExponent, zpow_neg, zpow_natCast]
  refine ⟨whole * 2 ^ places, ?_⟩
  rw [isPlace]
  push_cast
  field_simp

/-- A value is not rounded below an integer when its last place is a fraction. -/
theorem le_round (bound : ℤ) (below : (bound : ℚ) ≤ value)
    (fraction : lastPlace precision value ≤ 1) : (bound : ℚ) ≤ round precision value := by
  have positive := lastPlace_pos precision value
  obtain ⟨multiple, isMultiple⟩ := exists_multiple precision value fraction bound
  have scaled : (multiple : ℚ) ≤ value / lastPlace precision value := by
    rwa [le_div_iff₀ positive, ← isMultiple]
  rw [isMultiple, round]
  exact mul_le_mul_of_nonneg_right (by exact_mod_cast le_nearest _ _ scaled) positive.le

theorem round_zero : round precision 0 = 0 := by
  have none : nearest 0 = 0 := by simp [nearest]
  rw [round, zero_div, none, Int.cast_zero, zero_mul]

/-- A natural number of few enough digits is not changed. -/
theorem round_natCast (number : ℕ) (short : number < 2 ^ precision) :
    round precision number = number := by
  rcases Nat.eq_zero_or_pos number with rfl | positive
  · exact_mod_cast round_zero precision
  have positive : (0 : ℚ) < number := by exact_mod_cast positive
  have below : (number : ℚ) < 2 ^ (precision : ℤ) := by exact_mod_cast short
  have fraction : lastPlace precision (number : ℚ) ≤ 1 := by
    simpa using lastPlace_le precision number precision positive below
  obtain ⟨multiple, isMultiple⟩ := exists_multiple precision number fraction number
  have exact : (number : ℚ) / lastPlace precision number = multiple :=
    (div_eq_iff (lastPlace_pos precision number).ne').mpr isMultiple
  have whole : nearest (multiple : ℚ) = multiple := by simp [nearest]
  rw [round, exact, whole]
  exact isMultiple.symm

/-! ### Integer parts -/

theorem truncate_eq_floor (nonneg : 0 ≤ value) : truncate value = ⌊value⌋ := by
  rw [truncate, Rat.floor_def', Int.tdiv_eq_ediv_of_nonneg (Rat.num_nonneg.mpr nonneg)]

/-- A value that is further from the next integer than half of its last place keeps its integer
part. -/
theorem truncate_round (whole exponent : ℕ) (least : (whole : ℚ) ≤ value)
    (below : value < 2 ^ (exponent : ℤ)) (fits : exponent ≤ precision)
    (room : value + 2 ^ (exponent - precision : ℤ) / 2 < whole + 1) :
    truncate (round precision value) = whole := by
  have nonneg : 0 ≤ value := le_trans (Nat.cast_nonneg whole) least
  rcases nonneg.eq_or_lt with zero | positive
  · subst zero
    have isZero : whole = 0 := by exact_mod_cast le_antisymm least (Nat.cast_nonneg whole)
    rw [round_zero, isZero]
    rfl
  · have place := lastPlace_le precision value exponent positive below
    have fraction : lastPlace precision value ≤ 1 :=
      place.trans (zpow_le_one_of_nonpos₀ (by norm_num) (by omega))
    have above : (whole : ℚ) ≤ round precision value := by
      exact_mod_cast le_round precision value whole (by exact_mod_cast least) fraction
    have under := (abs_le.mp (abs_round_sub_le precision value)).2
    rw [truncate_eq_floor _ (le_trans (Nat.cast_nonneg whole) above), Int.floor_eq_iff]
    refine ⟨by exact_mod_cast above, ?_⟩
    push_cast
    linarith

end SharedGo.Rounding
