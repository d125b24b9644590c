import Mathlib.Algebra.Order.Floor.Semiring
import Mathlib.Algebra.Order.Ring.Rat
import Mathlib.Data.Rat.Floor

/-!
# Truncation

The conversion of a fraction to an integer that drops what is behind the point.
-/

/-- The integer part of a fraction, rounded towards zero. -/
def truncate (x : ℚ) : ℤ := if 0 ≤ x then ⌊x⌋ else ⌈x⌉

theorem lt_truncate_add_one (x : ℚ) : x < truncate x + 1 := by
  unfold truncate
  split
  case isTrue => exact Int.lt_floor_add_one _
  case isFalse => exact (Int.le_ceil _).trans_lt (lt_add_one _)
