import Mathlib.Algebra.Order.Ring.Nat
import RemainderService.OperationSet

/-!
# The two zeros

Two patterns compare equal to zero (`Binary64.isZero_iff`), and a message keeps only one of them:
whichever zero is sent, the positive one comes back (`Binary64.readBack`). So doubles come back as
the same pattern just if they agree up to the sign of a zero (`Binary64.agrees_iff_readBack`).

**No harm is done to a remainder.** Truncation does not tell the zeros apart
(`Binary64.toInt64_readBack`), so an operand pair that was sent has the remainder, and the log, of
the pair that comes back (`OperationSet.evaluateModulus_readBack`). And an integer becomes a zero
only if it is 0, and then the positive one (`Binary64.readBack_ofInt64`), so no remainder is changed
on its way back.
-/

set_option autoImplicit false

namespace RemainderService

namespace Binary64

/-- A double as it comes back from the wire: either zero comes back as the positive one. -/
def readBack (x : Binary64) : Binary64 :=
  if x.isZero then .zero else x

/-! ## Which patterns come back changed -/

/-- The pattern of negative zero. -/
def negativeZero : Binary64 := ⟨0x8000000000000000⟩

/-- The two zeros are the only patterns that compare equal to zero. -/
theorem isZero_iff {x : Binary64} : x.isZero = true ↔ x = .zero ∨ x = negativeZero := by
  constructor
  · intro zero
    have low : x.bits.toNat % 0x8000000000000000 = 0 := by
      simpa only [isZero, beq_iff_eq] using zero
    have high := x.bits.toNat_lt
    have either : x.bits.toNat = 0 ∨ x.bits.toNat = 0x8000000000000000 := by omega
    exact either.imp (fun h => congrArg mk (UInt64.toNat_inj.mp h))
      fun h => congrArg mk (UInt64.toNat_inj.mp h)
  · rintro (rfl | rfl) <;> rfl

/-- Only the negative zero comes back changed. -/
theorem readBack_of_ne {x : Binary64} (other : x ≠ negativeZero) : x.readBack = x := by
  rw [readBack]
  split
  · next zero => exact ((isZero_iff.mp zero).resolve_right other).symm
  · rfl

/-- A double that comes back comes back unchanged from then on. -/
theorem readBack_readBack (x : Binary64) : x.readBack.readBack = x.readBack := by
  by_cases negative : x = negativeZero
  · rw [negative]
    rfl
  · rw [readBack_of_ne negative, readBack_of_ne negative]

/-- The same pattern, or both are zeros: equal up to the sign of a zero. -/
inductive Agrees : Binary64 → Binary64 → Prop
  | same (x : Binary64) : Agrees x x
  | zeros {x y : Binary64} (left : x.isZero = true) (right : y.isZero = true) : Agrees x y

/-- Doubles that agree are those that come back as the same pattern. -/
theorem agrees_iff_readBack {x y : Binary64} : Agrees x y ↔ x.readBack = y.readBack := by
  constructor
  · rintro (_ | ⟨left, right⟩)
    · rfl
    · rw [readBack, readBack, if_pos left, if_pos right]
  · intro same
    by_cases left : x.isZero = true <;> by_cases right : y.isZero = true
    · exact .zeros left right
    · rw [readBack, readBack, if_pos left, if_neg right] at same
      exact absurd (same ▸ rfl) right
    · rw [readBack, readBack, if_neg left, if_pos right] at same
      exact absurd (same ▸ rfl) left
    · rw [readBack, readBack, if_neg left, if_neg right] at same
      exact same ▸ .same x

/-- What comes back agrees with what was sent. -/
theorem agrees_readBack (x : Binary64) : Agrees x.readBack x :=
  agrees_iff_readBack.mpr (readBack_readBack x)

/-! ## Truncation -/

/-- A zero has no exponent bit and no fraction bit. -/
theorem fields_of_isZero {x : Binary64} (zero : x.isZero = true) :
    x.exponentField = 0 ∧ x.fraction = 0 := by
  have low : x.bits.toNat % 0x8000000000000000 = 0 := by simpa only [isZero, beq_iff_eq] using zero
  constructor
  · rw [exponentField]
    omega
  · rw [fraction]
    omega

/-- Either zero is truncated to 0. -/
theorem toInt64_of_isZero {x : Binary64} (zero : x.isZero = true) : x.toInt64 = 0 := by
  obtain ⟨exponent, fraction⟩ := fields_of_isZero zero
  have scaled : x.scaled = 0 := by
    rw [scaled, magnitude, if_pos exponent, fraction]
    split <;> rfl
  have whole : x.wholePart = 0 := by rw [wholePart, scaled, Int.zero_tdiv]
  have number : ¬ x.isNaN = true := by
    simp only [isNaN, exponent, Nat.reduceBEq, Bool.false_and, Bool.false_eq_true, not_false_eq_true]
  have finite : ¬ x.isInfinite = true := by
    simp only [isInfinite, exponent, Nat.reduceBEq, Bool.false_and, Bool.false_eq_true,
      not_false_eq_true]
  rw [toInt64, if_neg number, if_neg finite, whole]
  decide

/-- **Truncation does not tell the zeros apart.** -/
theorem toInt64_readBack (x : Binary64) : x.readBack.toInt64 = x.toInt64 := by
  rw [readBack]
  split
  · next zero => rw [toInt64_of_isZero zero, toInt64_of_isZero (by decide)]
  · rfl

/-! ## Rounding -/

/-- Rounding adds at most 1 to a quotient. -/
theorem roundHalfEven_le (n k : Nat) : roundHalfEven n k ≤ n / twoTo k + 1 := by
  have even : n / twoTo k % 2 < 2 := Nat.mod_lt _ (by decide)
  rw [roundHalfEven]
  split
  · omega
  · split <;> omega

/-- A significand, hidden bit included, has at most one bit more than the fraction field holds, and
is at most twice as large as the hidden bit. -/
theorem significand_le (n : Nat) :
    (if n.log2 ≤ 52 then n * twoTo (52 - n.log2) else roundHalfEven n (n.log2 - 52)) ≤
      0x20000000000000 := by
  have below : n < 2 ^ (n.log2 + 1) := Nat.lt_log2_self
  split
  · next small =>
    have scale : 2 ^ (n.log2 + 1) * 2 ^ (52 - n.log2) = 0x20000000000000 := by
      rw [← Nat.pow_add, show n.log2 + 1 + (52 - n.log2) = 53 by omega]
    calc n * twoTo (52 - n.log2)
        ≤ 2 ^ (n.log2 + 1) * 2 ^ (52 - n.log2) := Nat.mul_le_mul_right _ below.le
      _ = 0x20000000000000 := scale
  · next large =>
    have scale : 2 ^ (n.log2 + 1) = 0x20000000000000 * twoTo (n.log2 - 52) := by
      show 2 ^ (n.log2 + 1) = 2 ^ 53 * 2 ^ (n.log2 - 52)
      rw [← Nat.pow_add, show 53 + (n.log2 - 52) = n.log2 + 1 by omega]
    rw [scale] at below
    have quotient : n / twoTo (n.log2 - 52) < 0x20000000000000 :=
      (Nat.div_lt_iff_lt_mul (twoTo_pos _)).mpr below
    have rounded := roundHalfEven_le n (n.log2 - 52)
    omega

/-- The pattern of a positive integer is neither zero nor long enough to reach the sign. -/
theorem magnitudeBits_bounds {n : Nat} (positive : 0 < n) (bound : n ≤ 0x8000000000000000) :
    0 < magnitudeBits n ∧ magnitudeBits n < 0x8000000000000000 := by
  have nonzero : n ≠ 0 := Nat.ne_of_gt positive
  have exponent : n.log2 < 64 := (Nat.log2_lt nonzero).mpr (Nat.lt_of_le_of_lt bound (by decide))
  have significand := significand_le n
  rw [magnitudeBits, if_neg nonzero]
  constructor <;> omega

/-- Only 0 becomes a zero. -/
theorem isZero_ofInt64_iff (v : Int64) : (ofInt64 v).isZero = true ↔ v = 0 := by
  constructor
  · intro zero
    by_contra nonzero
    have whole : v.toInt ≠ 0 := fun h => nonzero (Int64.toInt_inj.mp h)
    have least := v.le_toInt
    have greatest := v.toInt_lt
    obtain ⟨positive, short⟩ : 0 < magnitudeBits v.toInt.natAbs ∧
        magnitudeBits v.toInt.natAbs < 0x8000000000000000 :=
      magnitudeBits_bounds (by omega) (by omega)
    have low : (ofInt64 v).bits.toNat % 0x8000000000000000 = 0 := by
      simpa only [isZero, beq_iff_eq] using zero
    rw [ofInt64, UInt64.toNat_ofNat'] at low
    split at low <;> omega
  · rintro rfl
    decide

/-- **An integer comes back as it was sent**: the only zero among them is positive. -/
theorem readBack_ofInt64 (v : Int64) : (ofInt64 v).readBack = ofInt64 v := by
  rw [readBack]
  split
  · next zero =>
    rw [(isZero_ofInt64_iff v).mp zero]
    decide
  · rfl

end Binary64

/-! ## The remainder -/

namespace OperationSet

/-- **The remainder of the operands that come back** is the one of those that were sent, and so is
its log. -/
theorem evaluateModulus_readBack (o : Operands) :
    evaluateModulus ⟨o.a.readBack, o.b.readBack⟩ = evaluateModulus o := by
  have same : Operands.truncated ⟨o.a.readBack, o.b.readBack⟩ = o.truncated := by
    rw [Operands.truncated, Operands.truncated, Binary64.toInt64_readBack,
      Binary64.toInt64_readBack]
  rw [evaluateModulus, evaluateModulus, same]

/-- A remainder comes back as it was sent. -/
theorem readBack_evaluateModulus (o : Operands) :
    (evaluateModulus o).value.readBack = (evaluateModulus o).value :=
  Binary64.readBack_ofInt64 _

end OperationSet

end RemainderService
