import RemainderService.Binary64

/-!
The arithmetic of the service: operand pairs, their truncation, and the remainder.

The remainder is the truncating one, its sign that of the dividend. A zero divisor has the
remainder 0 by definition and is no error. The division of the least integer by -1 has a quotient
out of range, but its remainder is 0, so no case leaves the 64-bit integers.
-/

set_option autoImplicit false

namespace RemainderService

/-- An operand pair as received. -/
structure Operands where
  a : Binary64
  b : Binary64
deriving DecidableEq, Repr

/-- Both operands truncated toward zero, each on its own. -/
def Operands.truncated (o : Operands) : Int64 × Int64 :=
  (o.a.toInt64, o.b.toInt64)

/-- The truncating remainder, with 0 for a zero divisor. -/
def remainder (dividend divisor : Int64) : Int64 :=
  if divisor = 0 then 0 else dividend % divisor

/-- Over unbounded integers the remainder is that of division toward zero. -/
theorem toInt_remainder {dividend divisor : Int64} (h : divisor ≠ 0) :
    (remainder dividend divisor).toInt = dividend.toInt.tmod divisor.toInt := by
  rw [remainder, if_neg h, Int64.toInt_mod]

end RemainderService
