import RemainderService.Proofs.Remainder

/-!
# Division of 64-bit integers

The remainder is defined by a division of 64-bit integers, and such a division can fail: there is no
quotient by 0, and the quotient of the least integer by -1 has no 64 bits. Here the remainder is set
beside two accounts that know nothing of words.

**Over unbounded integers** the remainder is the one number that is left of the dividend when
multiples of the divisor are taken away, is smaller than the divisor, and has no other sign than the
dividend (`IsRemainder`). The absolute values are those of unbounded integers: that of the least
integer has no 64 bits either.

**Step by step** (`remainderSteps`), every division checks that its quotient and its remainder are
integers of 64 bits. No check fails: a divisor of 0 and one of -1 are answered without a division,
and any other quotient is at most as large as the dividend, and not larger than half of it unless
the divisor is 1 (`divide_eq_ok`).
-/

set_option autoImplicit false

namespace RemainderService

/-! ## Over unbounded integers -/

/-- **A remainder of a division toward zero.** -/
structure IsRemainder (a b r : Int) : Prop where
  quotient : ∃ q : Int, a = q * b + r
  smaller : |r| < |b|
  sign : r = 0 ∨ 0 < r ∧ 0 < a ∨ r < 0 ∧ a < 0

/-- A division has one remainder: two of them have no different signs, so they are less than the
divisor apart, and their distance is a multiple of it. -/
theorem IsRemainder.unique {a b r s : Int} (left : IsRemainder a b r) (right : IsRemainder a b s) :
    r = s := by
  obtain ⟨p, first⟩ := left.quotient
  obtain ⟨q, second⟩ := right.quotient
  have leftSmaller := left.smaller
  have rightSmaller := right.smaller
  have near : |r - s| < |b| := by
    have leftSign := left.sign
    have rightSign := right.sign
    rw [Int.abs_eq_natAbs, Int.abs_eq_natAbs] at *
    omega
  have multiple : |b| ∣ r - s := by
    rw [abs_dvd]
    refine ⟨q - p, ?_⟩
    rw [Int.mul_sub, Int.mul_comm b q, Int.mul_comm b p]
    omega
  exact Int.sub_eq_zero.mp (Int.eq_zero_of_abs_lt_dvd multiple near)

/-- **The remainder of the service is a remainder of a division toward zero.** -/
theorem isRemainder_remainder (dividend : Int64) {divisor : Int64} (nonzero : divisor.toInt ≠ 0) :
    IsRemainder dividend.toInt divisor.toInt (remainder dividend divisor).toInt where
  quotient := by
    refine ⟨dividend.toInt.tdiv divisor.toInt, ?_⟩
    rw [toInt_remainder_eq, if_neg nonzero, Int.mul_comm]
    exact (Int.mul_tdiv_add_tmod _ _).symm
  smaller := by
    have less := natAbs_remainder_lt dividend nonzero
    rw [Int.abs_eq_natAbs, Int.abs_eq_natAbs]
    omega
  sign := by
    obtain ⟨up, down⟩ := remainder_sign dividend divisor
    rcases lt_trichotomy (remainder dividend divisor).toInt 0 with negative | zero | positive
    · exact .inr (.inr ⟨negative, down negative⟩)
    · exact .inl zero
    · exact .inr (.inl ⟨positive, up positive⟩)

/-- **The sign of the divisor does not matter.** -/
theorem remainder_congr (dividend : Int64) {divisor other : Int64}
    (same : |other.toInt| = |divisor.toInt|) :
    remainder dividend other = remainder dividend divisor := by
  apply Int64.toInt_inj.mp
  rw [toInt_remainder_eq, toInt_remainder_eq]
  rcases abs_eq_abs.mp same with equal | opposite
  · rw [equal]
  · simp only [opposite, Int.tmod_neg, Int.neg_eq_zero]

/-! ## Step by step -/

/-- Why a division has no answer. -/
inductive DivisionFault
  | zeroDivisor
  | outOfRange
deriving DecidableEq, Repr

/-- The integer of 64 bits with this value, if there is one. -/
def exactly (z : Int) : Except DivisionFault Int64 :=
  if h : Int64.minValue.toInt ≤ z ∧ z ≤ Int64.maxValue.toInt then .ok (.ofIntLE z h.1 h.2)
  else .error .outOfRange

/-- One division, for its quotient and its remainder. It fails if there is no quotient, or if one of
the two is no integer of 64 bits. -/
def divide (a b : Int64) : Except DivisionFault (Int64 × Int64) :=
  if b = 0 then .error .zeroDivisor
  else do
    let quotient ← exactly (a.toInt.tdiv b.toInt)
    let rest ← exactly (a.toInt.tmod b.toInt)
    return (quotient, rest)

/-- The steps to a remainder: the divisors 0 and -1 are answered at once, for any other there is a
division. -/
def remainderSteps (dividend divisor : Int64) : Except DivisionFault Int64 :=
  if divisor = 0 then .ok 0
  else if divisor = -1 then .ok 0
  else (divide dividend divisor).map Prod.snd

/-- The value of an integer of 64 bits passes the check. -/
theorem exactly_toInt (v : Int64) : exactly v.toInt = .ok v := by
  rw [exactly, dif_pos ⟨v.minValue_le_toInt, v.toInt_le⟩, Int64.ofIntLE_toInt]

/-- **A division does not fail** unless its divisor is 0 or -1. -/
theorem divide_eq_ok (a : Int64) {b : Int64} (nonzero : b ≠ 0) (other : b ≠ -1) :
    divide a b = .ok (a / b, a % b) := by
  rw [divide, if_neg nonzero, ← Int64.toInt_div_of_ne_right a b other, ← Int64.toInt_mod,
    exactly_toInt, exactly_toInt]
  rfl

/-- A divisor of -1 leaves nothing. -/
theorem remainder_neg_one (dividend : Int64) : remainder dividend (-1) = 0 := by
  apply Int64.toInt_inj.mp
  rw [toInt_remainder_eq, if_neg (by decide), show (-1 : Int64).toInt = -1 by decide, Int.tmod_neg,
    Int.tmod_one]
  rfl

/-- **No step to a remainder fails**, and the steps lead to it. -/
theorem remainderSteps_eq_ok (dividend divisor : Int64) :
    remainderSteps dividend divisor = .ok (remainder dividend divisor) := by
  rw [remainderSteps]
  split
  · next zero => rw [remainder, if_pos zero]
  · next nonzero =>
    split
    · next least => rw [least, remainder_neg_one]
    · next other =>
      rw [divide_eq_ok dividend nonzero other, remainder, if_neg nonzero]
      rfl

/-! ## The law -/

/-- **The remainder is that of division toward zero, and no step to it fails.**

1. If the divisor is not 0, the remainder is the one number that is a remainder over unbounded
   integers.
2. Divisors of one absolute value have the same remainder.
3. The remainder by 0 is 0.
4. With every division checked, the steps lead to the remainder: none divides by 0, and no quotient
   and no remainder leaves the 64-bit integers. -/
theorem remainder_truncates_without_overflow (dividend divisor : Int64) :
    (divisor ≠ 0 → ∀ r : Int, IsRemainder dividend.toInt divisor.toInt r ↔
      r = (remainder dividend divisor).toInt) ∧
    (∀ other : Int64, |other.toInt| = |divisor.toInt| →
      remainder dividend other = remainder dividend divisor) ∧
    remainder dividend 0 = 0 ∧
    remainderSteps dividend divisor = .ok (remainder dividend divisor) := by
  refine ⟨fun nonzero r => ?_, fun _ => remainder_congr dividend, rfl,
    remainderSteps_eq_ok dividend divisor⟩
  have law : IsRemainder dividend.toInt divisor.toInt (remainder dividend divisor).toInt :=
    isRemainder_remainder dividend fun whole => nonzero (Int64.toInt_inj.mp whole)
  constructor
  · intro other
    exact other.unique law
  · rintro rfl
    exact law

/-- The quotient of the least integer by -1 has no 64 bits, and its remainder is found without it:
it is 0, as by 1. -/
theorem least_by_minus_one_leaves_nothing :
    let least := Int64.minValue
    (-1 : Int64) ≠ 0 ∧ |(1 : Int64).toInt| = |(-1 : Int64).toInt| ∧
      divide least (-1) = .error .outOfRange ∧ remainderSteps least (-1) = .ok 0 ∧
      IsRemainder least.toInt (-1) 0 ∧ remainder least 1 = 0 := by
  intro least
  have nonzero : (-1 : Int64) ≠ 0 := by decide
  have same : |(1 : Int64).toInt| = |(-1 : Int64).toInt| := by decide
  have zero : remainder least (-1) = 0 := by decide
  obtain ⟨unique, congruent, -, steps⟩ := remainder_truncates_without_overflow least (-1)
  rw [zero] at unique congruent steps
  exact ⟨nonzero, same, by decide, steps, (unique nonzero 0).mpr rfl, congruent 1 same⟩

end RemainderService
