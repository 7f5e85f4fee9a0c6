import Mathlib.Algebra.Order.Field.Basic
import Mathlib.Data.Rat.Cast.Order
import RemainderService.Binary64

/-!
# The number that a double denotes

A finite pattern denotes a dyadic rational: `toRat` reads it off the sign, the exponent and the
fraction. The running code counts units of the least subnormal instead; both agree (`toRat_eq`), and
distances from integers are distances between numbers of units (`abs_sub_le_abs_sub_iff`), so the
arguments about rounding never leave the integers.

**The patterns are a grid** (`grid`): those that reach the hidden bit at some power of two are
multiples of it. **Negation is exact** (`toRat_negate`).

Nothing is said here about patterns that are not finite: `toRat` gives them a value that means
nothing.
-/

set_option autoImplicit false

namespace RemainderService.Binary64

/-- The exponents of two powers of two add up in their product. -/
theorem twoTo_add (j k : Nat) : twoTo (j + k) = twoTo j * twoTo k :=
  Nat.pow_add 2 j k

/-! ## Significands -/

/-- The significand of a finite pattern, with the hidden bit where there is one. -/
def significand (x : Binary64) : Nat :=
  if x.exponentField = 0 then x.fraction else 0x10000000000000 + x.fraction

/-- A significand has at most fifty-three bits. -/
theorem significand_lt (x : Binary64) : x.significand < 0x20000000000000 := by
  have fraction : x.fraction < 0x10000000000000 := Nat.mod_lt _ (by decide)
  rw [significand]
  split <;> omega

/-- **A magnitude** is a significand times a power of two. -/
theorem magnitude_eq (x : Binary64) :
    x.magnitude = x.significand * twoTo (x.exponentField - 1) := by
  rw [magnitude, significand]
  split
  · next subnormal => rw [subnormal, show twoTo (0 - 1) = 1 from rfl, Nat.mul_one]
  · rfl

/-- **The grid.** A magnitude is a multiple of a power of two, by its significand and another power
of two, or it lies below the least number whose significand reaches the hidden bit there. -/
theorem grid (x : Binary64) (k : Nat) :
    (∃ j, x.magnitude = x.significand * twoTo j * twoTo k) ∨
      x.magnitude < 0x10000000000000 * twoTo k := by
  rw [magnitude_eq]
  rcases Nat.lt_or_ge (x.exponentField - 1) k with below | reaches
  · right
    obtain ⟨j, rfl⟩ := Nat.exists_eq_add_of_lt below
    calc x.significand * twoTo (x.exponentField - 1)
        < 0x20000000000000 * twoTo (x.exponentField - 1) :=
          Nat.mul_lt_mul_of_pos_right x.significand_lt (twoTo_pos _)
      _ = 0x10000000000000 * twoTo (x.exponentField - 1 + 1) := by rw [twoTo_succ]; omega
      _ ≤ 0x10000000000000 * twoTo (x.exponentField - 1 + 1) * twoTo j :=
          Nat.le_mul_of_pos_right _ (twoTo_pos j)
      _ = 0x10000000000000 * twoTo (x.exponentField - 1 + j + 1) := by
          rw [Nat.mul_assoc, ← twoTo_add, Nat.add_right_comm]
  · left
    refine ⟨x.exponentField - 1 - k, ?_⟩
    rw [Nat.mul_assoc, ← twoTo_add, Nat.sub_add_cancel reaches]

/-! ## Values -/

/-- The number of units of `2^-1074` in 1. -/
def unitsInOne : Nat := twoTo 1074

/-- There are units in 1. -/
theorem unitsInOne_pos : 0 < unitsInOne := twoTo_pos 1074

/-- The rational number that a finite pattern denotes, read off its three fields. The exponent has a
bias of 1023, the significand has fifty-two binary places, and a subnormal has the exponent of the
least normal pattern. -/
def toRat (x : Binary64) : ℚ :=
  (if x.negative then -1 else 1) * x.significand * 2 ^ ((max x.exponentField 1 : ℤ) - (1023 + 52))

/-- A value is its number of units, as the running code counts them. -/
theorem toRat_eq (x : Binary64) : x.toRat = x.scaled / unitsInOne := by
  have exponent : (max x.exponentField 1 : ℤ) - (1023 + 52) =
      ((x.exponentField - 1 : Nat) : ℤ) - (1074 : Nat) := by
    omega
  have power (k : Nat) : (twoTo k : ℚ) = 2 ^ k := Nat.cast_pow 2 k
  rw [toRat, exponent, zpow_sub₀ two_ne_zero, zpow_natCast, zpow_natCast, ← power, ← power,
    ← unitsInOne, scaled, magnitude_eq]
  split
  · rw [Int.cast_neg, Int.cast_natCast, Nat.cast_mul, neg_one_mul, neg_mul, neg_div, mul_div_assoc]
  · rw [Int.cast_natCast, Nat.cast_mul, one_mul, mul_div_assoc]

/-- The units of a value, apart from its sign. -/
theorem natAbs_scaled (x : Binary64) : x.scaled.natAbs = x.magnitude := by
  rw [scaled]
  split
  · rw [Int.natAbs_neg, Int.natAbs_natCast]
  · rw [Int.natAbs_natCast]

/-- A pattern denotes a number just if its units are as many. -/
theorem toRat_eq_iff {x : Binary64} {z : Int} :
    x.toRat = z ↔ x.scaled = z * (unitsInOne : Int) := by
  have positive : (unitsInOne : ℚ) ≠ 0 := Nat.cast_ne_zero.mpr unitsInOne_pos.ne'
  rw [toRat_eq, div_eq_iff positive, ← Int.cast_natCast unitsInOne, ← Int.cast_mul, Int.cast_inj]

/-- Patterns denote the same number just if they have the same units. -/
theorem toRat_inj {x y : Binary64} : x.toRat = y.toRat ↔ x.scaled = y.scaled := by
  have positive : (unitsInOne : ℚ) ≠ 0 := Nat.cast_ne_zero.mpr unitsInOne_pos.ne'
  rw [toRat_eq, toRat_eq, div_left_inj' positive, Int.cast_inj]

/-- The distance of a value from an integer, counted in units. -/
theorem abs_toRat_sub_intCast (x : Binary64) (z : Int) :
    |x.toRat - z| = ((x.scaled - z * (unitsInOne : Int)).natAbs : ℚ) / unitsInOne := by
  have positive : (0 : ℚ) < unitsInOne := Nat.cast_pos.mpr unitsInOne_pos
  have whole : x.toRat - z =
      ((x.scaled - z * (unitsInOne : Int) : Int) : ℚ) / unitsInOne := by
    rw [toRat_eq, Int.cast_sub, Int.cast_mul, Int.cast_natCast, sub_div,
      mul_div_cancel_right₀ _ positive.ne']
  rw [whole, abs_div, abs_of_pos positive, Nat.cast_natAbs, Int.cast_abs]

/-- Of two values, the one that is nearer to an integer is fewer units away. -/
theorem abs_sub_le_abs_sub_iff (x y : Binary64) (z : Int) :
    |x.toRat - z| ≤ |y.toRat - z| ↔
      (x.scaled - z * (unitsInOne : Int)).natAbs ≤ (y.scaled - z * (unitsInOne : Int)).natAbs := by
  have positive : (0 : ℚ) < unitsInOne := Nat.cast_pos.mpr unitsInOne_pos
  rw [abs_toRat_sub_intCast, abs_toRat_sub_intCast, div_le_div_iff_of_pos_right positive,
    Nat.cast_le]

/-! ## Negation -/

/-- The pattern with the other sign bit. -/
def negate (x : Binary64) : Binary64 := ⟨x.bits ^^^ 0x8000000000000000⟩

/-- Flipping the highest of sixty-four bits takes its weight away or adds it. -/
theorem toNat_bits_negate (x : Binary64) :
    x.negate.bits.toNat =
      if 0x8000000000000000 ≤ x.bits.toNat then x.bits.toNat - 0x8000000000000000
      else x.bits.toNat + 0x8000000000000000 := by
  have short := x.bits.toNat_lt
  have low : x.negate.bits.toNat % 2 ^ 63 = x.bits.toNat % 2 ^ 63 := by
    rw [negate, UInt64.toNat_xor, Nat.xor_mod_two_pow]
    exact Nat.xor_zero _
  have high : x.negate.bits.toNat / 2 ^ 63 = x.bits.toNat / 2 ^ 63 ^^^ 1 := by
    rw [negate, UInt64.toNat_xor, Nat.xor_div_two_pow]
    rfl
  split
  · next set =>
    rw [show x.bits.toNat / 2 ^ 63 = 1 by omega, Nat.xor_self] at high
    omega
  · next clear =>
    rw [show x.bits.toNat / 2 ^ 63 = 0 by omega, Nat.zero_xor] at high
    omega

/-- Negation changes the sign bit. -/
theorem negative_negate (x : Binary64) : x.negate.negative = !x.negative := by
  have short := x.bits.toNat_lt
  rw [negative, negative, ← decide_not, decide_eq_decide, toNat_bits_negate]
  split <;> omega

/-- Negation leaves the exponent alone. -/
theorem exponentField_negate (x : Binary64) : x.negate.exponentField = x.exponentField := by
  rw [exponentField, exponentField, toNat_bits_negate]
  split <;> omega

/-- Negation leaves the fraction alone. -/
theorem fraction_negate (x : Binary64) : x.negate.fraction = x.fraction := by
  rw [fraction, fraction, toNat_bits_negate]
  split <;> omega

/-- A negated finite pattern is finite. -/
theorem isFinite_negate (x : Binary64) : x.negate.isFinite = x.isFinite := by
  rw [isFinite, isFinite, exponentField_negate]

/-- A negated pattern is no number just if the pattern is none. -/
theorem isNaN_negate (x : Binary64) : x.negate.isNaN = x.isNaN := by
  rw [isNaN, isNaN, exponentField_negate, fraction_negate]

/-- A negated infinity is infinite. -/
theorem isInfinite_negate (x : Binary64) : x.negate.isInfinite = x.isInfinite := by
  rw [isInfinite, isInfinite, exponentField_negate, fraction_negate]

/-- Negation changes the sign of the units and not their number. -/
theorem scaled_negate (x : Binary64) : x.negate.scaled = -x.scaled := by
  have magnitude : x.negate.magnitude = x.magnitude := by
    rw [Binary64.magnitude, Binary64.magnitude, exponentField_negate, fraction_negate]
  rw [scaled, scaled, negative_negate, magnitude]
  cases x.negative <;> simp

/-- **Negation is exact.** -/
theorem toRat_negate (x : Binary64) : x.negate.toRat = -x.toRat := by
  rw [toRat_eq, toRat_eq, scaled_negate, Int.cast_neg, neg_div]

end RemainderService.Binary64
