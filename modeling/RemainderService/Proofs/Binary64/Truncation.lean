import RemainderService.Proofs.Binary64.Rounding

/-!
# Doubles as integers

A pattern is not a number, infinite, or finite, and truncation has an answer for each: 0, a bound,
or the whole part, which may in turn lie beyond a bound.

**What truncation yields is a double again** (`short_toInt64`): a whole part has no more binary
places than the significand it comes from, and of the two bounds the lower one is a power of two.
The one exception is the upper bound. It needs sixty-three places, and it is what becomes of every
number that is not below `2^63`.
-/

set_option autoImplicit false

namespace RemainderService.Binary64

/-! ## The three kinds of patterns -/

/-- A pattern is not a number, or infinite, or finite. -/
theorem nan_or_infinite_or_finite (x : Binary64) :
    x.isNaN = true ∨ x.isInfinite = true ∨ x.isFinite = true := by
  simp only [isNaN, isInfinite, isFinite, Bool.and_eq_true, beq_iff_eq, bne_iff_ne]
  omega

/-- A finite pattern is a number and is not infinite. -/
theorem not_nan_nor_infinite {x : Binary64} (finite : x.isFinite = true) :
    ¬ x.isNaN = true ∧ ¬ x.isInfinite = true := by
  simp only [isNaN, isInfinite, isFinite, Bool.and_eq_true, beq_iff_eq, bne_iff_ne] at *
  omega

/-- An infinite pattern is a number. -/
theorem not_nan_of_infinite {x : Binary64} (infinite : x.isInfinite = true) :
    ¬ x.isNaN = true := by
  simp only [isNaN, isInfinite, Bool.and_eq_true, beq_iff_eq, bne_iff_ne] at *
  omega

/-- The pattern denotes a number less than a bound. Negative infinity is less than every bound. -/
inductive Below (x : Binary64) (bound : ℚ) : Prop
  | number (finite : x.isFinite = true) (less : x.toRat < bound)
  | infinity (infinite : x.isInfinite = true) (negative : x.negative = true)

/-- A finite pattern that is below a number has a value below it. -/
theorem Below.toRat_lt {x : Binary64} {bound : ℚ} (below : x.Below bound)
    (finite : x.isFinite = true) : x.toRat < bound := by
  rcases below with ⟨-, less⟩ | ⟨infinite, -⟩
  · exact less
  · exact absurd infinite (not_nan_nor_infinite finite).2

/-! ## Whole parts -/

/-- A whole part has as many units as go completely into the magnitude. -/
theorem natAbs_wholePart (x : Binary64) : x.wholePart.natAbs = x.magnitude / unitsInOne := by
  rw [wholePart, Int.natAbs_tdiv, natAbs_scaled, Int.natAbs_natCast]
  rfl

/-- The whole part of a finite pattern has at most fifty-three binary places. -/
theorem short_wholePart (x : Binary64) : Short x.wholePart.natAbs := by
  rw [natAbs_wholePart, unitsInOne, magnitude_eq]
  have places := x.significand_lt
  -- The power of two of the value is a factor of the units in 1, or the other way round.
  rcases Nat.le_total 1074 (x.exponentField - 1) with large | small
  · obtain ⟨j, exponent⟩ := Nat.exists_eq_add_of_le' large
    refine ⟨x.significand, j, places, ?_⟩
    rw [exponent, twoTo_add, ← Nat.mul_assoc, Nat.mul_div_cancel _ (twoTo_pos 1074)]
  · obtain ⟨j, exponent⟩ := Nat.exists_eq_add_of_le' small
    refine ⟨x.significand / twoTo j, 0, (Nat.div_le_self _ _).trans_lt places, ?_⟩
    rw [exponent, twoTo_add, Nat.mul_div_mul_right _ _ (twoTo_pos _)]
    exact (Nat.mul_one _).symm

/-- A whole part is less than a positive integer if the value is. -/
theorem wholePart_lt {x : Binary64} {bound : Int} (positive : 0 < bound)
    (less : x.toRat < bound) : x.wholePart < bound := by
  have units : (0 : ℚ) < unitsInOne := Nat.cast_pos.mpr unitsInOne_pos
  rw [toRat_eq, div_lt_iff₀ units, ← Int.cast_natCast unitsInOne, ← Int.cast_mul,
    Int.cast_lt] at less
  show x.scaled.tdiv (unitsInOne : Int) < bound
  rcases le_total 0 x.scaled with up | down
  · rw [Int.tdiv_eq_ediv_of_nonneg up]
    exact Int.ediv_lt_of_lt_mul (Int.natCast_pos.mpr unitsInOne_pos) less
  · have opposite := Int.tdiv_nonneg (Int.neg_nonneg.mpr down) (Int.natCast_nonneg unitsInOne)
    rw [Int.neg_tdiv] at opposite
    omega

/-! ## Truncation -/

/-- What is no number becomes 0. -/
theorem toInt64_of_nan {x : Binary64} (nan : x.isNaN = true) : x.toInt64 = 0 := by
  rw [toInt64, if_pos nan]

/-- What is infinite becomes the bound on its side. -/
theorem toInt64_of_infinite {x : Binary64} (infinite : x.isInfinite = true) :
    x.toInt64 = if x.negative then Int64.minValue else Int64.maxValue := by
  rw [toInt64, if_neg (not_nan_of_infinite infinite), if_pos infinite]

/-- A finite pattern becomes its whole part, unless that is beyond a bound. -/
theorem toInt64_cases {x : Binary64} (finite : x.isFinite = true) :
    x.toInt64.toInt = x.wholePart ∨
      x.wholePart < -0x8000000000000000 ∧ x.toInt64 = Int64.minValue ∨
      0x7fffffffffffffff < x.wholePart ∧ x.toInt64 = Int64.maxValue := by
  obtain ⟨number, bounded⟩ := not_nan_nor_infinite finite
  rw [toInt64, if_neg number, if_neg bounded, Int64.ofIntClamp]
  have least : Int64.minValue.toInt = -0x8000000000000000 := by decide
  have greatest : Int64.maxValue.toInt = 0x7fffffffffffffff := by decide
  split
  · next above =>
    split
    · next below => exact .inl Int64.toInt_ofIntLE
    · next beyond => exact .inr (.inr ⟨by omega, rfl⟩)
  · next beneath => exact .inr (.inl ⟨by omega, rfl⟩)

/-- **What truncation yields** has at most fifty-three binary places, or it is the upper bound, and
then the pattern is a number that is not below `2^63`. -/
theorem short_toInt64 (x : Binary64) :
    Short x.toInt64.toInt.natAbs ∨
      x.toInt64 = Int64.maxValue ∧ ¬ x.isNaN = true ∧ ¬ x.Below (2 ^ 63) := by
  have least : Short Int64.minValue.toInt.natAbs := ⟨1, 63, by decide, by decide⟩
  rcases x.nan_or_infinite_or_finite with nan | infinite | finite
  · rw [toInt64_of_nan nan]
    exact .inl ⟨0, 0, by decide, by decide⟩
  · rw [toInt64_of_infinite infinite]
    split
    · exact .inl least
    · next positive =>
      refine .inr ⟨rfl, not_nan_of_infinite infinite, ?_⟩
      rintro (⟨finite, -⟩ | ⟨-, negative⟩)
      · exact (not_nan_nor_infinite finite).2 infinite
      · exact positive negative
  · rcases toInt64_cases finite with whole | ⟨-, bound⟩ | ⟨beyond, bound⟩
    · rw [whole]
      exact .inl x.short_wholePart
    · rw [bound]
      exact .inl least
    · refine .inr ⟨bound, (not_nan_nor_infinite finite).1, fun below => ?_⟩
      have part : x.wholePart < 2 ^ 63 :=
        wholePart_lt (by decide) (by exact_mod_cast below.toRat_lt finite)
      omega

/-- A pattern that denotes an integer of 64 bits is truncated to that integer. -/
theorem toInt64_of_toRat {x : Binary64} {v : Int64} (finite : x.isFinite = true)
    (value : x.toRat = v.toInt) : x.toInt64 = v := by
  have least := v.le_toInt
  have greatest := v.toInt_lt
  have whole : x.wholePart = v.toInt := by
    rw [wholePart, toRat_eq_iff.mp value]
    exact Int.mul_tdiv_cancel _ (Int.natCast_ne_zero.mpr unitsInOne_pos.ne')
  apply Int64.toInt_inj.mp
  rcases toInt64_cases finite with same | ⟨beyond, -⟩ | ⟨beyond, -⟩ <;> omega

end RemainderService.Binary64
