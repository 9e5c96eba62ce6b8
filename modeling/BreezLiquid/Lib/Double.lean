/-
# BreezLiquid.Lib.Double — rounding to double precision.

An operation on numbers of type `f64` has the value of the exact operation, rounded to the nearest number with a
significand of 53 binary digits; of two that are equally near, to the one whose last digit is even. A number of the
type is a rational number here. What is rounded is assumed to be neither too large nor too small for the exponents of
the type: infinities, subnormal numbers and the sign of zero are left to those who use it.
-/
import Mathlib.Algebra.Order.Field.Rat
import Mathlib.Data.Rat.Floor

namespace BreezLiquid.Double

/-- The exponent of the leading binary digit of a positive number. -/
def exponent (q : ℚ) : ℤ :=
  -- the quotient of two numbers has the difference of their exponents, or one less
  let e : ℤ := q.num.natAbs.log2 - q.den.log2
  if q < 2 ^ e then e - 1 else e

/-- The nearest integer; halfway between two, the even one. -/
def roundHalfEven (q : ℚ) : ℤ :=
  let rest := 2 * (q - ⌊q⌋)
  if rest < 1 then ⌊q⌋
  else if 1 < rest then ⌊q⌋ + 1
  else if ⌊q⌋ % 2 = 0 then ⌊q⌋
  else ⌊q⌋ + 1

/-- The nearest number of double precision. -/
def nearest (q : ℚ) : ℚ :=
  let unit : ℚ := 2 ^ (exponent |q| - 52)
  roundHalfEven (q / unit) * unit

example : nearest (1 / 10) = 3602879701896397 / 2 ^ 55 := by decide +kernel

example : nearest (2 ^ 53 + 1) = 2 ^ 53 := by decide +kernel

end BreezLiquid.Double
