import RemainderService.Proofs.Binary64.Truncation

/-!
# The answered remainder

An answer is an integer that was made a double, and doing so rounds in general. A remainder of two
doubles is not rounded: its significant places are among those of the operands (`short_mod`). The
one operand that can have more places is one that was cut down to the upper bound of the integers.
As a divisor it does no harm (`short_remainder`), for no other dividend reaches as far.

**The law** (`answers_exact_remainder`). Unless the dividend was cut down, the answer is the
remainder of the integers, exactly, and dividing it once more changes nothing. In any case it is an
integer, has the sign of the dividend, and is no larger than the divisor.
-/

set_option autoImplicit false

namespace RemainderService

namespace Binary64

/-! ## Places of a remainder -/

/-- **A remainder is as short** as the numbers it comes from: the lower of their two powers of two
is a factor of it, and the rest is less than the significand at that power. -/
theorem short_mod {m n : Nat} (left : Short m) (right : Short n) : Short (m % n) := by
  rcases Nat.eq_zero_or_pos n with rfl | positive
  · rwa [Nat.mod_zero]
  obtain ⟨p, j, small, rfl⟩ := left
  obtain ⟨q, k, short, rfl⟩ := right
  have nonzero : 0 < q := Nat.pos_of_mul_pos_right positive
  rcases Nat.le_total j k with below | above
  · obtain ⟨d, rfl⟩ := Nat.exists_eq_add_of_le' below
    refine ⟨p % (q * twoTo d), j, (Nat.mod_le _ _).trans_lt small, ?_⟩
    rw [twoTo_add, ← Nat.mul_assoc, Nat.mul_mod_mul_right]
  · obtain ⟨d, rfl⟩ := Nat.exists_eq_add_of_le' above
    refine ⟨p * twoTo d % q, k, (Nat.mod_lt _ nonzero).trans short, ?_⟩
    rw [twoTo_add, ← Nat.mul_assoc, Nat.mul_mod_mul_right]

/-- A remainder by the upper bound of the integers is as short as the dividend: the bound divides
itself, and of the other magnitudes one alone is greater. -/
theorem short_mod_greatest {m : Nat} (short : Short m) (bound : m ≤ 0x8000000000000000) :
    Short (m % 0x7fffffffffffffff) := by
  have cases : m % 0x7fffffffffffffff = m ∨ m % 0x7fffffffffffffff = 0 ∨
      m % 0x7fffffffffffffff = 1 := by
    omega
  rcases cases with same | zero | one
  · rwa [same]
  · rw [zero]
    exact ⟨0, 0, by decide, by decide⟩
  · rw [one]
    exact ⟨1, 0, by decide, by decide⟩

/-! ## What an integer becomes -/

/-- The pattern of an integer denotes an integer. -/
theorem exists_toRat_ofInt64 (v : Int64) : ∃ z : Int, (ofInt64 v).toRat = z := by
  by_cases negative : v.toInt < 0
  · refine ⟨-(rounded v.toInt.natAbs : Int), toRat_eq_iff.mpr ?_⟩
    rw [scaled_ofInt64, if_pos negative, Nat.cast_mul, neg_mul]
  · refine ⟨rounded v.toInt.natAbs, toRat_eq_iff.mpr ?_⟩
    rw [scaled_ofInt64, if_neg negative, Nat.cast_mul]

/-- **The sign of an integer** is kept: 0 is exact, and what is at least 1 away from it stays so. -/
theorem toRat_ofInt64_sign (v : Int64) :
    v.toInt = 0 ∧ (ofInt64 v).toRat = 0 ∨ 0 < v.toInt ∧ 0 < (ofInt64 v).toRat ∨
      v.toInt < 0 ∧ (ofInt64 v).toRat < 0 := by
  have exact (w : Int64) (short : w.toInt.natAbs ≤ 1) : (ofInt64 w).toRat = w.toInt :=
    (toRat_ofInt64_eq_iff w).mpr ⟨w.toInt.natAbs, 0, by omega, (Nat.mul_one _).symm⟩
  rcases lt_trichotomy v.toInt 0 with negative | zero | positive
  · have le := (ofInt64_rounds v).mono (ofInt64_rounds (-1)) (Int.cast_le.mpr (by
      rw [show (-1 : Int64).toInt = -1 by decide]
      omega))
    rw [exact (-1) (by decide), show (-1 : Int64).toInt = -1 by decide] at le
    exact .inr (.inr ⟨negative, le.trans_lt (by norm_num)⟩)
  · exact .inl ⟨zero, by rw [exact v (by omega), zero, Int.cast_zero]⟩
  · have le := (ofInt64_rounds 1).mono (ofInt64_rounds v) (Int.cast_le.mpr (by
      rw [show (1 : Int64).toInt = 1 by decide]
      omega))
    rw [exact 1 (by decide), show (1 : Int64).toInt = 1 by decide] at le
    exact .inr (.inl ⟨positive, lt_of_lt_of_le (by norm_num) le⟩)

end Binary64

open Binary64

/-! ## The remainder of integers -/

/-- The remainder by 0 is 0, and any other is that of division toward zero. -/
theorem toInt_remainder_eq (dividend divisor : Int64) :
    (remainder dividend divisor).toInt =
      if divisor.toInt = 0 then 0 else dividend.toInt.tmod divisor.toInt := by
  by_cases zero : divisor = 0
  · rw [remainder, if_pos zero, zero]
    rfl
  · have nonzero : divisor.toInt ≠ 0 := fun whole => zero (Int64.toInt_inj.mp whole)
    rw [toInt_remainder zero, if_neg nonzero]

/-- **Dividing a remainder once more** changes nothing. -/
theorem remainder_remainder (dividend divisor : Int64) :
    remainder (remainder dividend divisor) divisor = remainder dividend divisor := by
  apply Int64.toInt_inj.mp
  rw [toInt_remainder_eq, toInt_remainder_eq]
  split
  · rfl
  · exact Int.tmod_tmod _ _

/-- A remainder is 0 or has the sign of the dividend. -/
theorem remainder_sign (dividend divisor : Int64) :
    (0 < (remainder dividend divisor).toInt → 0 < dividend.toInt) ∧
      ((remainder dividend divisor).toInt < 0 → dividend.toInt < 0) := by
  rw [toInt_remainder_eq]
  split
  · omega
  · constructor
    · intro positive
      by_contra sign
      have opposite := Int.tmod_nonneg divisor.toInt (Int.neg_nonneg.mpr (Int.not_lt.mp sign))
      rw [Int.neg_tmod] at opposite
      omega
    · intro negative
      by_contra sign
      have opposite := Int.tmod_nonneg divisor.toInt (Int.not_lt.mp sign)
      omega

/-- A remainder is smaller than the divisor. -/
theorem natAbs_remainder_lt (dividend : Int64) {divisor : Int64} (nonzero : divisor.toInt ≠ 0) :
    (remainder dividend divisor).toInt.natAbs < divisor.toInt.natAbs := by
  rw [toInt_remainder_eq, if_neg nonzero, Int.natAbs_tmod]
  exact Nat.mod_lt _ (Int.natAbs_pos.mpr nonzero)

/-- **A remainder of two doubles is a double.** The divisor may have been cut down. -/
theorem short_remainder {dividend : Int64} (short : Short dividend.toInt.natAbs) (x : Binary64) :
    Short (remainder dividend x.toInt64).toInt.natAbs := by
  rw [toInt_remainder_eq]
  split
  · exact ⟨0, 0, by decide, by decide⟩
  · rw [Int.natAbs_tmod]
    rcases x.short_toInt64 with divisor | ⟨greatest, -⟩
    · exact short_mod short divisor
    · rw [greatest]
      exact short_mod_greatest short (natAbs_toInt_le dividend)

/-- The answer to a dividend with few places is the remainder, exactly. -/
theorem toRat_ofInt64_remainder {dividend : Int64} (short : Short dividend.toInt.natAbs)
    (x : Binary64) :
    (ofInt64 (remainder dividend x.toInt64)).toRat = (remainder dividend x.toInt64).toInt :=
  (toRat_ofInt64_eq_iff _).mpr (short_remainder short x)

/-- **The answer is no larger than the divisor.** If it is not exact, the dividend is the upper
bound. Then the divisor is a double and stands in the way, or it is the upper bound, too, and
divides the dividend. -/
theorem abs_toRat_remainder_le (x y : Binary64) (nonzero : y.toInt64.toInt ≠ 0) :
    |(ofInt64 (remainder x.toInt64 y.toInt64)).toRat| ≤ |(y.toInt64.toInt : ℚ)| := by
  have less := natAbs_remainder_lt x.toInt64 nonzero
  have within : |((remainder x.toInt64 y.toInt64).toInt : ℚ)| ≤ |(y.toInt64.toInt : ℚ)| := by
    rw [← Int.cast_abs, ← Int.cast_abs, Int.cast_le, Int.abs_eq_natAbs, Int.abs_eq_natAbs]
    omega
  rcases x.short_toInt64 with dividend | ⟨greatest, -⟩
  · rw [toRat_ofInt64_remainder dividend]
    exact within
  · rcases y.short_toInt64 with divisor | ⟨bound, -⟩
    · have denoted := (toRat_ofInt64_eq_iff _).mpr divisor
      rw [← denoted] at within ⊢
      exact (ofInt64_rounds _).abs_toRat_le (ofInt64_rounds _).finite within
    · rw [greatest, bound, show remainder Int64.maxValue Int64.maxValue = 0 by decide]
      rcases toRat_ofInt64_sign 0 with ⟨-, zero⟩ | ⟨positive, -⟩ | ⟨negative, -⟩
      · rw [zero, abs_zero]
        exact abs_nonneg _
      · exact absurd positive (by decide)
      · exact absurd negative (by decide)

/-! ## The law -/

namespace OperationSet

/-- The service answers with the remainder of the truncated operands. -/
theorem apply_modulus (o : Operands) :
    (modulus.apply .modulus o).value = .ok (ofInt64 (remainder o.a.toInt64 o.b.toInt64)) :=
  rfl

/-- **The answered remainder is exact unless the dividend is cut down.** Every operand pair has an
answer. With `A` and `B` for the truncated operands:

1. If the dividend is no number, or is less than `2^63`, the answer denotes the remainder of `A` by
   `B`, or 0 if `B` is 0. So it is smaller than `B`, and dividing it by the same divisor once more
   gives the same answer.
2. Any answer is finite, denotes an integer, and is not the negative zero. It is 0 or has the sign
   of `A`, and it is not larger than `B` unless `B` is 0. -/
theorem answers_exact_remainder (o : Operands) :
    let A : Int := o.truncated.1.toInt
    let B : Int := o.truncated.2.toInt
    ∃ answer : Binary64, (modulus.apply .modulus o).value = .ok answer ∧
      (o.a.isNaN = true ∨ o.a.Below (2 ^ 63) →
        answer.toRat = ((if B = 0 then 0 else A.tmod B : Int) : ℚ) ∧
        (B ≠ 0 → |answer.toRat| < |(B : ℚ)|) ∧
        (modulus.apply .modulus ⟨answer, o.b⟩).value = .ok answer) ∧
      answer.isFinite = true ∧
      (∃ z : Int, answer.toRat = z) ∧
      answer ≠ negativeZero ∧
      (answer.toRat = 0 ∨ 0 < answer.toRat ∧ 0 < A ∨ answer.toRat < 0 ∧ A < 0) ∧
      (B ≠ 0 → |answer.toRat| ≤ |(B : ℚ)|) := by
  obtain ⟨x, y⟩ := o
  have rounds := ofInt64_rounds (remainder x.toInt64 y.toInt64)
  refine ⟨_, apply_modulus ⟨x, y⟩, ?_, rounds.finite, exists_toRat_ofInt64 _, ?_, ?_,
    abs_toRat_remainder_le x y⟩
  · intro below
    have short : Short x.toInt64.toInt.natAbs :=
      x.short_toInt64.resolve_right fun ⟨_, number, beyond⟩ => below.elim number beyond
    have value := toRat_ofInt64_remainder short y
    refine ⟨?_, ?_, ?_⟩
    · rw [value, toInt_remainder_eq]
      rfl
    · intro nonzero
      rw [value, ← Int.cast_abs, ← Int.cast_abs, Int.cast_lt, Int.abs_eq_natAbs, Int.abs_eq_natAbs,
        Int.ofNat_lt]
      exact natAbs_remainder_lt _ nonzero
    · rw [apply_modulus, toInt64_of_toRat rounds.finite value, remainder_remainder]
  · intro negative
    have zero := (isZero_ofInt64_iff _).mp (isZero_iff.mpr (.inr negative))
    rw [zero] at negative
    exact absurd negative (by decide)
  · obtain ⟨up, down⟩ := remainder_sign x.toInt64 y.toInt64
    rcases toRat_ofInt64_sign (remainder x.toInt64 y.toInt64) with ⟨-, zero⟩ | ⟨positive, sign⟩ |
      ⟨negative, sign⟩
    · exact .inl zero
    · exact .inr (.inl ⟨sign, up positive⟩)
    · exact .inr (.inr ⟨sign, down negative⟩)

/-- Negative infinity by infinity: both operands are cut down, the dividend to `-2^63`, which is a
double, and the divisor to `2^63 - 1`, which is none. The remainder is -1. -/
theorem answers_negative_infinity_by_infinity :
    let o : Operands := ⟨⟨0xfff0000000000000⟩, ⟨0x7ff0000000000000⟩⟩
    let answer : Binary64 := ⟨0xbff0000000000000⟩
    o.a.Below (2 ^ 63) ∧ o.truncated.2.toInt ≠ 0 ∧
      (modulus.apply .modulus o).value = .ok answer ∧ answer.toRat = -1 ∧
      |answer.toRat| < |(o.truncated.2.toInt : ℚ)| ∧ answer.toRat < 0 ∧
      (modulus.apply .modulus ⟨answer, o.b⟩).value = .ok answer := by
  intro o answer
  have below : o.a.Below (2 ^ 63) := .infinity (by decide) (by decide)
  have dividend : o.a.toInt64 = Int64.minValue := toInt64_of_infinite (by decide)
  have divisor : o.b.toInt64 = Int64.maxValue := toInt64_of_infinite (by decide)
  have nonzero : o.truncated.2.toInt ≠ 0 := by
    rw [Operands.truncated, divisor]
    decide
  obtain ⟨found, answered, exact, -, -, -, -, -⟩ := answers_exact_remainder o
  obtain ⟨value, smaller, again⟩ := exact (.inr below)
  have same : found = answer := by
    rw [apply_modulus, dividend, divisor] at answered
    exact (Except.ok.inj answered).symm.trans (by decide)
  rw [same] at answered value smaller again
  have denoted : answer.toRat = -1 := by
    rw [value, if_neg nonzero, Operands.truncated, dividend, divisor,
      show Int64.minValue.toInt.tmod Int64.maxValue.toInt = -1 by decide, Int.cast_neg,
      Int.cast_one]
  exact ⟨below, nonzero, answered, denoted, smaller nonzero, by rw [denoted]; norm_num, again⟩

end OperationSet

end RemainderService
