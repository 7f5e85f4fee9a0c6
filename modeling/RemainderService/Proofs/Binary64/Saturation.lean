import Mathlib.Order.WithBot
import RemainderService.Proofs.Binary64.Truncation

/-!
# Exact truncation

Which integer a double is truncated to is said here without a word about bits: the whole part of
the rational number that the pattern denotes (`IsWholePart`), moved to the nearer bound if it is not
among the integers of 64 bits (`clamp`). What is no number becomes 0, and an infinity becomes the
bound on its side.

**The law** (`truncation_is_exact_with_saturation`). Truncation yields that integer and no other, in
either place of an operand pair. So it keeps the order of the numbers and both infinities, and it
commutes with negation as long as neither the pattern nor its negation is moved to a bound. The
bounds are not each other's negation: `-2^63` is an integer of 64 bits, and `2^63` is none.
-/

set_option autoImplicit false

namespace RemainderService.Binary64

/-! ## Whole parts of rational numbers -/

/-- **The whole part** of a number: of the integers that do not exceed it in magnitude one of
greatest magnitude, and not of the other sign. -/
structure IsWholePart (q : ℚ) (w : Int) : Prop where
  greatest : IsGreatest {m : ℕ | (m : ℚ) ≤ |q|} w.natAbs
  sign : 0 ≤ q * w

/-- A number has one whole part. -/
theorem IsWholePart.unique {q : ℚ} {v w : Int} (left : IsWholePart q v) (right : IsWholePart q w) :
    v = w := by
  have same : v.natAbs = w.natAbs := left.greatest.unique right.greatest
  rcases Int.natAbs_eq_natAbs_iff.mp same with equal | opposite
  · exact equal
  -- Of two opposite whole parts, neither has the other sign. So the number is 0, and so are they.
  have leftSign := left.sign
  rw [opposite, Int.cast_neg, mul_neg] at leftSign
  have product : q * w = 0 := le_antisymm (neg_nonneg.mp leftSign) right.sign
  have zero : w = 0 := by
    rcases mul_eq_zero.mp product with number | whole
    · have reached : (w.natAbs : ℚ) ≤ |q| := right.greatest.1
      rw [number, abs_zero] at reached
      exact Int.natAbs_eq_zero.mp (Nat.cast_eq_zero.mp (le_antisymm reached (Nat.cast_nonneg _)))
    · exact Int.cast_eq_zero.mp whole
  rw [opposite, zero, neg_zero]

/-- The magnitude of a value, counted in units. -/
theorem abs_toRat (x : Binary64) : |x.toRat| = x.magnitude / unitsInOne := by
  rw [toRat_eq, abs_div, Nat.abs_cast, ← Int.cast_abs, Int.abs_eq_natAbs, natAbs_scaled,
    Int.cast_natCast]

/-- **The whole part of a pattern is the whole part of its value.** -/
theorem isWholePart_wholePart (x : Binary64) : IsWholePart x.toRat x.wholePart where
  greatest := by
    have reaches (m : ℕ) : (m : ℚ) ≤ |x.toRat| ↔ m ≤ x.magnitude / unitsInOne := by
      rw [abs_toRat, le_div_iff₀ (Nat.cast_pos.mpr unitsInOne_pos), ← Nat.cast_mul, Nat.cast_le,
        Nat.le_div_iff_mul_le unitsInOne_pos]
    rw [natAbs_wholePart]
    exact ⟨(reaches _).mpr le_rfl, fun m within => (reaches m).mp within⟩
  sign := by
    have units : (0 : ℚ) ≤ unitsInOne := Nat.cast_nonneg _
    rw [toRat_eq, div_mul_eq_mul_div, ← Int.cast_mul]
    refine div_nonneg (Int.cast_nonneg ?_) units
    show 0 ≤ x.scaled * x.scaled.tdiv (unitsInOne : Int)
    rcases le_total 0 x.scaled with up | down
    · exact mul_nonneg up (Int.tdiv_nonneg up (Int.natCast_nonneg _))
    · have opposite := Int.tdiv_nonneg (Int.neg_nonneg.mpr down) (Int.natCast_nonneg unitsInOne)
      rw [Int.neg_tdiv] at opposite
      exact mul_nonneg_of_nonpos_of_nonpos down (Int.neg_nonneg.mp opposite)

/-- A whole part is no greater than that of a greater value. -/
theorem wholePart_mono {x y : Binary64} (le : x.toRat ≤ y.toRat) : x.wholePart ≤ y.wholePart := by
  have units : (0 : ℚ) < unitsInOne := Nat.cast_pos.mpr unitsInOne_pos
  rw [toRat_eq, toRat_eq, div_le_div_iff_of_pos_right units, Int.cast_le] at le
  exact Int.tdiv_le_tdiv (Int.natCast_pos.mpr unitsInOne_pos) le

/-- The whole part of a negated pattern is the negated whole part. -/
theorem wholePart_negate (x : Binary64) : x.negate.wholePart = -x.wholePart := by
  rw [wholePart, wholePart, scaled_negate, Int.neg_tdiv]

/-! ## Bounds -/

/-- The integer of 64 bits that is nearest to an integer. -/
def clamp (z : Int) : Int := max (-2 ^ 63) (min z (2 ^ 63 - 1))

/-- A finite pattern becomes its whole part, moved to the nearer bound if it is beyond. -/
theorem toInt_toInt64_of_finite {x : Binary64} (finite : x.isFinite = true) :
    x.toInt64.toInt = clamp x.wholePart := by
  have least := x.toInt64.le_toInt
  have greatest := x.toInt64.toInt_lt
  rw [clamp]
  rcases toInt64_cases finite with whole | ⟨beyond, bound⟩ | ⟨beyond, bound⟩
  · omega
  · rw [bound, Int64.toInt_minValue]
    omega
  · rw [bound, Int64.toInt_maxValue]
    omega

/-- An infinite pattern becomes the bound on its side. -/
theorem toInt_toInt64_of_infinite {x : Binary64} (infinite : x.isInfinite = true) :
    x.toInt64.toInt = if x.negative then -2 ^ 63 else 2 ^ 63 - 1 := by
  rw [toInt64_of_infinite infinite]
  split
  · exact Int64.toInt_minValue
  · exact Int64.toInt_maxValue

/-! ## What truncation is -/

/-- **Truncation**, by the number that a pattern denotes. -/
inductive Truncates (x : Binary64) : Int → Prop
  | notNumber (nan : x.isNaN = true) : Truncates x 0
  | infinite (infinite : x.isInfinite = true) :
    Truncates x (if x.negative then -2 ^ 63 else 2 ^ 63 - 1)
  | finite {w : Int} (finite : x.isFinite = true) (whole : IsWholePart x.toRat w) :
    Truncates x (clamp w)

/-- The number that a pattern denotes is moved to a bound. An infinity always is. -/
inductive Saturates (x : Binary64) : Prop
  | infinite (infinite : x.isInfinite = true)
  | finite {w : Int} (finite : x.isFinite = true) (whole : IsWholePart x.toRat w)
    (moved : clamp w ≠ w)

/-- The place of a pattern among the rational numbers and both infinities. -/
def extended (x : Binary64) : WithBot (WithTop ℚ) :=
  if x.isInfinite then if x.negative then ⊥ else ((⊤ : WithTop ℚ) : WithBot (WithTop ℚ))
  else ((x.toRat : WithTop ℚ) : WithBot (WithTop ℚ))

/-- **Truncation yields the truncated number** and no other. -/
theorem truncates_iff (x : Binary64) (z : Int) : x.Truncates z ↔ x.toInt64.toInt = z := by
  constructor
  · rintro (nan | infinite | ⟨finite, whole⟩)
    · rw [toInt64_of_nan nan]
      rfl
    · exact toInt_toInt64_of_infinite infinite
    · rw [toInt_toInt64_of_finite finite, x.isWholePart_wholePart.unique whole]
  · rintro rfl
    rcases x.nan_or_infinite_or_finite with nan | infinite | finite
    · rw [toInt64_of_nan nan]
      exact .notNumber nan
    · rw [toInt_toInt64_of_infinite infinite]
      exact .infinite infinite
    · rw [toInt_toInt64_of_finite finite]
      exact .finite finite x.isWholePart_wholePart

/-- A finite pattern is moved to a bound just if its whole part is. -/
theorem saturates_iff_of_finite {x : Binary64} (finite : x.isFinite = true) :
    x.Saturates ↔ clamp x.wholePart ≠ x.wholePart := by
  constructor
  · rintro (infinite | ⟨-, whole, moved⟩)
    · exact absurd infinite (not_nan_nor_infinite finite).2
    · rwa [x.isWholePart_wholePart.unique whole]
  · exact .finite finite x.isWholePart_wholePart

/-- What is no number is not moved to a bound. -/
theorem not_saturates_of_nan {x : Binary64} (nan : x.isNaN = true) : ¬ x.Saturates := by
  rintro (infinite | ⟨finite, -, -⟩)
  · exact not_nan_of_infinite infinite nan
  · exact (not_nan_nor_infinite finite).1 nan

/-! ## Order and negation -/

/-- A pattern that is a number stands below all rational numbers, at one of them, or above all. What
stands below or above becomes the bound on its side. -/
theorem extended_cases {x : Binary64} (number : ¬ x.isNaN = true) :
    (x.extended = ⊥ ∧ x.toInt64.toInt = -2 ^ 63) ∨
      (x.extended = ((x.toRat : WithTop ℚ) : WithBot (WithTop ℚ)) ∧ x.isFinite = true) ∨
      (x.extended = ⊤ ∧ x.toInt64.toInt = 2 ^ 63 - 1) := by
  rcases x.nan_or_infinite_or_finite with nan | infinite | finite
  · exact absurd nan number
  · rw [extended, if_pos infinite, toInt_toInt64_of_infinite infinite]
    cases x.negative with
    | true => exact .inl ⟨rfl, rfl⟩
    | false => exact .inr (.inr ⟨rfl, rfl⟩)
  · rw [extended, if_neg (not_nan_nor_infinite finite).2]
    exact .inr (.inl ⟨rfl, finite⟩)

/-- **Truncation keeps the order** of the numbers and both infinities. -/
theorem toInt64_mono {x y : Binary64} (left : ¬ x.isNaN = true) (right : ¬ y.isNaN = true)
    (le : x.extended ≤ y.extended) : x.toInt64 ≤ y.toInt64 := by
  have least := y.toInt64.le_toInt
  have greatest := x.toInt64.toInt_lt
  rw [Int64.le_iff_toInt_le]
  rcases extended_cases left with ⟨-, bound⟩ | ⟨place, finite⟩ | ⟨place, -⟩
  · omega
  · rcases extended_cases right with ⟨below, -⟩ | ⟨other, finiteOther⟩ | ⟨-, bound⟩
    · rw [place, below, le_bot_iff] at le
      exact absurd le (WithBot.coe_ne_bot)
    · rw [place, other, WithBot.coe_le_coe, WithTop.coe_le_coe] at le
      have whole := wholePart_mono le
      rw [toInt_toInt64_of_finite finite, toInt_toInt64_of_finite finiteOther, clamp, clamp]
      omega
    · omega
  · rw [place, top_le_iff] at le
    rcases extended_cases right with ⟨below, -⟩ | ⟨other, -⟩ | ⟨-, bound⟩
    · rw [below] at le
      exact absurd le bot_ne_top
    · rw [other] at le
      exact absurd (WithBot.coe_injective le) WithTop.coe_ne_top
    · omega

/-- **Truncation commutes with negation** just if neither pattern is moved to a bound. -/
theorem toInt64_negate_iff (x : Binary64) :
    x.negate.toInt64.toInt = -x.toInt64.toInt ↔ ¬ x.Saturates ∧ ¬ x.negate.Saturates := by
  rcases x.nan_or_infinite_or_finite with nan | infinite | finite
  · have negated : x.negate.isNaN = true := x.isNaN_negate.trans nan
    rw [toInt64_of_nan nan, toInt64_of_nan negated]
    exact ⟨fun _ => ⟨not_saturates_of_nan nan, not_saturates_of_nan negated⟩, fun _ => by decide⟩
  · have negated : x.negate.isInfinite = true := x.isInfinite_negate.trans infinite
    rw [toInt_toInt64_of_infinite infinite, toInt_toInt64_of_infinite negated, negative_negate]
    constructor
    · intro equal
      cases sign : x.negative <;> simp [sign] at equal
    · rintro ⟨bounded, -⟩
      exact absurd (.infinite infinite) bounded
  · have negated : x.negate.isFinite = true := x.isFinite_negate.trans finite
    rw [toInt_toInt64_of_finite finite, toInt_toInt64_of_finite negated,
      saturates_iff_of_finite finite, saturates_iff_of_finite negated, wholePart_negate, not_not,
      not_not, clamp, clamp]
    omega

/-! ## The law -/

/-- **Truncation is exact, with saturation.** The integer that becomes of a pattern does not depend
on its place in an operand pair, nor on the other operand.

1. It is 0 for what is no number, the bound on its side for an infinity, and otherwise the whole
   part of the number that the pattern denotes, moved to the nearer bound if it is beyond.
2. The order of the numbers and both infinities is kept.
3. A pattern and its negation become integers that are each other's negation just if neither is
   moved to a bound. -/
theorem truncation_is_exact_with_saturation (x : Binary64) :
    (∀ other : Binary64, (Operands.truncated ⟨x, other⟩).1 = x.toInt64 ∧
      (Operands.truncated ⟨other, x⟩).2 = x.toInt64) ∧
    (∀ z : Int, x.Truncates z ↔ x.toInt64.toInt = z) ∧
    (∀ y : Binary64, ¬ x.isNaN = true → ¬ y.isNaN = true → x.extended ≤ y.extended →
      x.toInt64 ≤ y.toInt64) ∧
    (x.negate.toInt64.toInt = -x.toInt64.toInt ↔ ¬ x.Saturates ∧ ¬ x.negate.Saturates) :=
  ⟨fun _ => ⟨rfl, rfl⟩, x.truncates_iff, fun _ => toInt64_mono, x.toInt64_negate_iff⟩

/-- The least integer is a double that is not moved, although its negation is: that one is beyond
the upper bound. Infinity is above it, and stays so. -/
theorem least_integer_is_kept :
    let x : Binary64 := ⟨0xc3e0000000000000⟩
    let y : Binary64 := ⟨0x7ff0000000000000⟩
    ¬ x.isNaN = true ∧ ¬ y.isNaN = true ∧ x.extended ≤ y.extended ∧ x.toInt64 ≤ y.toInt64 ∧
      x.Truncates (-2 ^ 63) ∧ y.Truncates (2 ^ 63 - 1) ∧ ¬ x.Saturates ∧ x.negate.Saturates := by
  intro x y
  have left : ¬ x.isNaN = true := by decide
  have right : ¬ y.isNaN = true := by decide
  have top : y.extended = ⊤ := by
    rw [extended, if_pos (by decide), if_neg (by decide)]
    rfl
  have above : x.extended ≤ y.extended := by
    rw [top]
    exact le_top
  have least : x.toInt64 = Int64.minValue := by decide +kernel
  have negated : x.negate.toInt64 = Int64.maxValue := by decide +kernel
  obtain ⟨-, truncates, ordered, negation⟩ := truncation_is_exact_with_saturation x
  obtain ⟨-, truncatesInfinity, -, -⟩ := truncation_is_exact_with_saturation y
  have kept : ¬ x.Saturates := by
    rw [saturates_iff_of_finite (by decide)]
    decide +kernel
  refine ⟨left, right, above, ordered y left right above, ?_, ?_, kept, ?_⟩
  · rw [truncates, least, Int64.toInt_minValue]
  · rw [truncatesInfinity]
    decide +kernel
  · by_contra moved
    have opposite := negation.mpr ⟨kept, moved⟩
    rw [least, negated, Int64.toInt_minValue, Int64.toInt_maxValue] at opposite
    exact absurd opposite (by decide)

end RemainderService.Binary64
