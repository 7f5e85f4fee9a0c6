/-!
Doubles as bit patterns, read exactly.

A pattern has a sign bit, eleven exponent bits and fifty-two fraction bits. Every finite pattern is
a whole number of units of `2^-1074`, so the integer `scaled` is its exact value and no rounding
enters a reading. Truncation divides that integer; `ofInt64` goes the other way and rounds to the
nearest pattern, a tie to the even significand. Arithmetic on doubles is not part of this module.
-/

set_option autoImplicit false

namespace RemainderService

/-- A double, kept as its 64 bits, so that payloads and the sign of zero belong to the value. -/
structure Binary64 where
  bits : UInt64
deriving DecidableEq, Repr

namespace Binary64

/-- The power of two with this exponent. -/
def twoTo (exponent : Nat) : Nat := Nat.pow 2 exponent

/-- The next power of two is twice as large. -/
theorem twoTo_succ (k : Nat) : twoTo (k + 1) = 2 * twoTo k :=
  Nat.mul_comm (twoTo k) 2

/-- A power of two is not 0. -/
theorem twoTo_pos (k : Nat) : 0 < twoTo k := by
  induction k with
  | zero => decide
  | succ k ih => rw [twoTo_succ]; omega

/-! ## Fields of a pattern -/

/-- The pattern of positive zero. -/
def zero : Binary64 := ⟨0⟩

/-- The sign bit is set. -/
def negative (x : Binary64) : Bool :=
  decide (0x8000000000000000 ≤ x.bits.toNat)

/-- The eleven exponent bits, with their bias. -/
def exponentField (x : Binary64) : Nat :=
  x.bits.toNat / 0x10000000000000 % 0x800

/-- The fifty-two fraction bits. -/
def fraction (x : Binary64) : Nat :=
  x.bits.toNat % 0x10000000000000

/-- All exponent bits and some fraction bit are set: not a number, whatever the payload. -/
def isNaN (x : Binary64) : Bool :=
  x.exponentField == 2047 && x.fraction != 0

/-- All exponent bits and no fraction bit are set. -/
def isInfinite (x : Binary64) : Bool :=
  x.exponentField == 2047 && x.fraction == 0

/-- Some exponent bit is clear: the pattern denotes a rational number. -/
def isFinite (x : Binary64) : Bool :=
  x.exponentField != 2047

/-- Compares equal to zero: either zero, and no other pattern. -/
def isZero (x : Binary64) : Bool :=
  x.bits.toNat % 0x8000000000000000 == 0

/-! ## Exact values -/

/-- The magnitude of a finite pattern in units of `2^-1074`: a subnormal is its fraction, and any
other pattern has the hidden bit and is scaled by its exponent. -/
def magnitude (x : Binary64) : Nat :=
  if x.exponentField = 0 then x.fraction
  else (0x10000000000000 + x.fraction) * twoTo (x.exponentField - 1)

/-- The value of a finite pattern in units of `2^-1074`. -/
def scaled (x : Binary64) : Int :=
  if x.negative then -(x.magnitude : Int) else x.magnitude

/-- The whole part of a finite pattern: its value with the fraction dropped, toward zero. -/
def wholePart (x : Binary64) : Int :=
  x.scaled.tdiv (twoTo 1074)

/-- Truncation to a 64-bit integer: what is no number becomes 0, and what lies beyond a bound of
the integers becomes that bound. -/
def toInt64 (x : Binary64) : Int64 :=
  if x.isNaN then 0
  else if x.isInfinite then if x.negative then Int64.minValue else Int64.maxValue
  else Int64.ofIntClamp x.wholePart

/-! ## Rounding -/

/-- The quotient of `n` by `2 ^ k` rounded to the nearest natural number, a tie to the even one. -/
def roundHalfEven (n k : Nat) : Nat :=
  if 2 * (n % twoTo k) < twoTo k then n / twoTo k
  else if twoTo k < 2 * (n % twoTo k) then n / twoTo k + 1
  else n / twoTo k + n / twoTo k % 2

/-- The low 63 bits of the pattern nearest to `n`. The significand, hidden bit included, is added to
an exponent one too small: the hidden bit corrects it, and a carry out of the significand moves on
to the next exponent as it should. -/
def magnitudeBits (n : Nat) : Nat :=
  if n = 0 then 0
  else (1022 + n.log2) * 0x10000000000000 +
    if n.log2 ≤ 52 then n * twoTo (52 - n.log2) else roundHalfEven n (n.log2 - 52)

/-- The pattern nearest to an integer, a tie to the even significand. Zero is always positive. -/
def ofInt64 (v : Int64) : Binary64 :=
  ⟨UInt64.ofNat (magnitudeBits v.toInt.natAbs + if v < 0 then 0x8000000000000000 else 0)⟩

end Binary64

end RemainderService
