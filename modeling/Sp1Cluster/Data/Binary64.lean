import Mathlib.Data.Nat.Size
import Mathlib.Tactic.NormNum

/-!
# Rounding to a binary floating-point format

A natural number is rounded to a number of significant bits, to the nearest
number with that many bits and, in the middle, to the one whose last bit is
zero. This is the conversion of an integer to a binary format without a bound on
the exponent; scaling by a power of two commutes with it, so that it also
describes products of numbers that are not integers.
-/

set_option autoImplicit false

namespace Sp1Cluster.Binary64

/-- Round to `precision` significant bits, ties to even. -/
def roundBits (precision number : ℕ) : ℕ :=
  let unit := 2 ^ (number.size - precision)
  let quotient := number / unit
  let remainder := number % unit
  if unit < 2 * remainder ∨ (unit = 2 * remainder ∧ quotient % 2 = 1) then (quotient + 1) * unit
  else quotient * unit

/-- Rounding adds less than a unit in the last place. -/
theorem roundBits_le (precision number : ℕ) :
    roundBits precision number ≤ number + 2 ^ (number.size - precision) := by
  have division := Nat.div_mul_le_self number (2 ^ (number.size - precision))
  unfold roundBits
  dsimp only
  split
  · rw [Nat.succ_mul]
    omega
  · omega

/-- The unit in the last place of a number below a power of two. -/
theorem roundBits_le_of_lt {number bits : ℕ} (precision : ℕ) (below : number < 2 ^ bits) :
    roundBits precision number ≤ number + 2 ^ (bits - precision) := by
  have size : number.size ≤ bits := Nat.size_le.mpr below
  have unit : 2 ^ (number.size - precision) ≤ 2 ^ (bits - precision) :=
    Nat.pow_le_pow_right (by norm_num) (by omega)
  exact (roundBits_le precision number).trans (Nat.add_le_add_left unit number)

def ofWord (word : ℕ) : ℕ := roundBits 53 word

/-- The integer part of the binary64 product of an integer and the fraction
`significand / 2 ^ scale`, as a 64-bit word; larger products saturate. -/
def scaleWord (significand scale number : ℕ) : ℕ :=
  min (roundBits 53 (number * significand) / 2 ^ scale) (2 ^ 64 - 1)

end Sp1Cluster.Binary64
