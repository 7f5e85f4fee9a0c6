import Mathlib.Algebra.Ring.Parity
import Mathlib.Data.Nat.Dist
import Mathlib.Tactic.Linarith
import Mathlib.Tactic.Ring
import RemainderService.Proofs.Binary64.Value
import RemainderService.Proofs.Zeros

/-!
# Integers as doubles

An integer of 64 bits need not be a double: a significand holds fifty-three binary places. `ofInt64`
keeps the first fifty-three and rounds.

**The law** (`integers_become_nearest_doubles`). The pattern of an integer is its rounding
(`Rounds`): no finite pattern is nearer, and a tie goes to the even significand. What follows from
that alone is stated of any rounding: it is unique by value, it keeps the order, and it does not
leap over a pattern.

The argument is about natural numbers. A quotient by a power of two is rounded to the nearest
(`dist_roundHalfEven_le`, `roundHalfEven_tie`); patterns that are not multiples of that power lie
below all numbers that need it (`grid_lastPlace`), so they are farther away.
-/

set_option autoImplicit false

namespace RemainderService.Binary64

/-! ## Quotients -/

/-- The multiple below a number is as far away as the remainder. -/
theorem dist_multiple_below (n d : Nat) : Nat.dist (n / d * d) n = n % d := by
  have whole := Nat.div_add_mod' n d
  unfold Nat.dist
  omega

/-- The multiple above a number is as far away as the remainder falls short of the step. -/
theorem dist_multiple_above (n : Nat) {d : Nat} (positive : 0 < d) :
    Nat.dist ((n / d + 1) * d) n = d - n % d := by
  have whole := Nat.div_add_mod' n d
  have part := Nat.mod_lt n positive
  rw [Nat.add_one_mul]
  unfold Nat.dist
  omega

/-- Every other multiple is at least a whole step away. -/
theorem le_dist_multiple {n d t : Nat} (positive : 0 < d) (notBelow : t ≠ n / d)
    (notAbove : t ≠ n / d + 1) : d ≤ Nat.dist (t * d) n := by
  have whole := Nat.div_add_mod' n d
  have part := Nat.mod_lt n positive
  unfold Nat.dist
  rcases Nat.lt_or_ge t (n / d) with less | more
  · have lower := Nat.mul_le_mul_right d less
    rw [Nat.succ_mul] at lower
    omega
  · have greater : n / d + 1 + 1 ≤ t := by omega
    have upper := Nat.mul_le_mul_right d greater
    rw [Nat.succ_mul, Nat.succ_mul] at upper
    omega

/-- A quotient is rounded down from at most a half and up from at least a half; at the half, to the
even one of the two. -/
theorem roundHalfEven_cases (n k : Nat) :
    (roundHalfEven n k = n / twoTo k ∧ 2 * (n % twoTo k) ≤ twoTo k ∨
      roundHalfEven n k = n / twoTo k + 1 ∧ twoTo k ≤ 2 * (n % twoTo k)) ∧
    (2 * (n % twoTo k) = twoTo k → roundHalfEven n k % 2 = 0) := by
  rw [roundHalfEven]
  split
  · omega
  · split <;> omega

/-- A rounded quotient, times the step, is as far away as the nearer of the two neighbours. -/
theorem dist_roundHalfEven (n k : Nat) :
    Nat.dist (roundHalfEven n k * twoTo k) n = min (n % twoTo k) (twoTo k - n % twoTo k) := by
  obtain ⟨⟨down, half⟩ | ⟨up, half⟩, -⟩ := roundHalfEven_cases n k
  · rw [down, dist_multiple_below]
    omega
  · rw [up, dist_multiple_above n (twoTo_pos k)]
    omega

/-- **No multiple is nearer** than the rounded quotient, times the step. -/
theorem dist_roundHalfEven_le (n k t : Nat) :
    Nat.dist (roundHalfEven n k * twoTo k) n ≤ Nat.dist (t * twoTo k) n := by
  rw [dist_roundHalfEven]
  by_cases below : t = n / twoTo k
  · rw [below, dist_multiple_below]
    exact min_le_left _ _
  by_cases above : t = n / twoTo k + 1
  · rw [above, dist_multiple_above n (twoTo_pos k)]
    exact min_le_right _ _
  have far := le_dist_multiple (twoTo_pos k) below above
  omega

/-- **A tie goes to the even quotient**, and the other one is odd. -/
theorem roundHalfEven_tie {n k t : Nat} (other : t ≠ roundHalfEven n k)
    (tie : Nat.dist (t * twoTo k) n = Nat.dist (roundHalfEven n k * twoTo k) n) :
    Even (roundHalfEven n k) ∧ Odd t := by
  obtain ⟨rounded, even⟩ := roundHalfEven_cases n k
  have positive := twoTo_pos k
  rw [dist_roundHalfEven] at tie
  rw [Nat.even_iff, Nat.odd_iff]
  by_cases below : t = n / twoTo k
  · rw [below, dist_multiple_below] at tie
    omega
  by_cases above : t = n / twoTo k + 1
  · rw [above, dist_multiple_above n positive] at tie
    omega
  have far := le_dist_multiple positive below above
  omega

/-! ## Fifty-three significant bits -/

/-- The exponent of the last of fifty-three binary places, counted from the first that is not 0. A
number with fewer places needs no exponent. -/
def lastPlace (n : Nat) : Nat := n.log2 - 52

/-- A number rounded to fifty-three binary places. -/
def rounded (n : Nat) : Nat :=
  roundHalfEven n (lastPlace n) * twoTo (lastPlace n)

/-- A number with at most fifty-three binary places in front of its last zeros. -/
def Short (n : Nat) : Prop :=
  ∃ m k, m < 0x20000000000000 ∧ n = m * twoTo k

/-- Fifty-three places are enough to reach the last one. -/
theorem lt_lastPlace (n : Nat) : n < 0x20000000000000 * twoTo (lastPlace n) := by
  rw [show 0x20000000000000 = twoTo 53 from rfl, ← twoTo_add]
  calc n < 2 ^ (n.log2 + 1) := Nat.lt_log2_self
    _ ≤ 2 ^ (53 + lastPlace n) := Nat.pow_le_pow_right (by decide) (by rw [lastPlace]; omega)
    _ = twoTo (53 + lastPlace n) := rfl

/-- Fifty-three places are needed if the last one has an exponent. -/
theorem le_of_lastPlace {n : Nat} (positive : 0 < lastPlace n) :
    0x10000000000000 * twoTo (lastPlace n) ≤ n := by
  rw [lastPlace] at positive
  have nonzero : n ≠ 0 := by
    rintro rfl
    exact absurd positive (by decide)
  rw [show 0x10000000000000 = twoTo 52 from rfl, ← twoTo_add, lastPlace,
    show 52 + (n.log2 - 52) = n.log2 by omega]
  exact Nat.log2_self_le nonzero

/-- A multiple of the last place is not changed by rounding. -/
theorem rounded_multiple {n t : Nat} (multiple : n = t * twoTo (lastPlace n)) : rounded n = n := by
  have nearest := dist_roundHalfEven_le n (lastPlace n) t
  rw [← multiple, Nat.dist_self] at nearest
  exact Nat.eq_of_dist_eq_zero (Nat.le_zero.mp nearest)

/-- **A number is its own rounding** just if it has at most fifty-three places. -/
theorem rounded_eq_self_iff {n : Nat} : rounded n = n ↔ Short n := by
  constructor
  · intro same
    have below : roundHalfEven n (lastPlace n) * twoTo (lastPlace n) <
        0x20000000000000 * twoTo (lastPlace n) :=
      calc rounded n = n := same
        _ < 0x20000000000000 * twoTo (lastPlace n) := lt_lastPlace n
    exact ⟨_, lastPlace n, Nat.lt_of_mul_lt_mul_right below, same.symm⟩
  · rintro ⟨m, k, short, product⟩
    rcases Nat.lt_or_ge k (lastPlace n) with beyond | within
    · obtain ⟨j, place⟩ := Nat.exists_eq_add_of_lt beyond
      have long : n < n :=
        calc n = m * twoTo k := product
          _ < 0x20000000000000 * twoTo k := Nat.mul_lt_mul_of_pos_right short (twoTo_pos k)
          _ = 0x10000000000000 * twoTo (k + 1) := by rw [twoTo_succ]; omega
          _ ≤ 0x10000000000000 * twoTo (lastPlace n) := by
            rw [place, Nat.add_right_comm k j 1, twoTo_add (k + 1), ← Nat.mul_assoc]
            exact Nat.le_mul_of_pos_right _ (twoTo_pos j)
          _ ≤ n := le_of_lastPlace (Nat.zero_lt_of_lt beyond)
      exact absurd long (Nat.lt_irrefl n)
    · apply rounded_multiple (t := m * twoTo (k - lastPlace n))
      rw [Nat.mul_assoc, ← twoTo_add, Nat.sub_add_cancel within]
      exact product

/-- A number that is changed by rounding has more than fifty-three places. -/
theorem lastPlace_pos_of_ne {n : Nat} (changed : rounded n ≠ n) : 0 < lastPlace n := by
  by_contra zero
  have place : lastPlace n = 0 := Nat.eq_zero_of_not_pos zero
  exact changed (rounded_multiple (t := n) (by rw [place, show twoTo 0 = 1 from rfl, Nat.mul_one]))

/-! ## The nearest magnitude -/

/-- A magnitude is a multiple of the last place of a number, or lies below its binary magnitude. -/
theorem grid_lastPlace (n : Nat) (y : Binary64) :
    (∃ j, y.magnitude = y.significand * twoTo j * twoTo (lastPlace n) * unitsInOne) ∨
      y.magnitude < 0x10000000000000 * twoTo (lastPlace n) * unitsInOne := by
  have grid := y.grid (lastPlace n + 1074)
  rw [twoTo_add, ← Nat.mul_assoc 0x10000000000000] at grid
  exact grid.imp (fun ⟨j, multiple⟩ => ⟨j, by rw [multiple, ← Nat.mul_assoc, unitsInOne]⟩) id

/-- What lies below the binary magnitude of a number is farther from it than its rounding. -/
theorem dist_rounded_lt {n : Nat} {units : Nat} (long : 0 < lastPlace n)
    (below : units < 0x10000000000000 * twoTo (lastPlace n) * unitsInOne) :
    Nat.dist (rounded n * unitsInOne) (n * unitsInOne) < Nat.dist units (n * unitsInOne) := by
  have least := le_of_lastPlace long
  have reach : 0x10000000000000 * twoTo (lastPlace n) * unitsInOne ≤ n * unitsInOne :=
    Nat.mul_le_mul_right _ least
  calc Nat.dist (rounded n * unitsInOne) (n * unitsInOne)
      = Nat.dist (rounded n) n * unitsInOne := Nat.dist_mul_right _ _ _
    _ ≤ Nat.dist (0x10000000000000 * twoTo (lastPlace n)) n * unitsInOne :=
        Nat.mul_le_mul_right _ (dist_roundHalfEven_le n _ _)
    _ = Nat.dist (0x10000000000000 * twoTo (lastPlace n) * unitsInOne) (n * unitsInOne) :=
        (Nat.dist_mul_right _ _ _).symm
    _ < Nat.dist units (n * unitsInOne) := by
        unfold Nat.dist
        omega

/-- **No magnitude is nearer** to a number than the rounding of that number. -/
theorem dist_rounded_le (n : Nat) (y : Binary64) :
    Nat.dist (rounded n * unitsInOne) (n * unitsInOne) ≤
      Nat.dist y.magnitude (n * unitsInOne) := by
  by_cases exactly : rounded n = n
  · rw [exactly, Nat.dist_self]
    exact Nat.zero_le _
  rcases grid_lastPlace n y with ⟨j, multiple⟩ | below
  · rw [multiple, Nat.dist_mul_right, Nat.dist_mul_right]
    exact Nat.mul_le_mul_right _ (dist_roundHalfEven_le n _ _)
  · exact (dist_rounded_lt (lastPlace_pos_of_ne exactly) below).le

/-- **A magnitude that is as near** as the rounding has an odd significand, and the rounding is
by an even quotient. -/
theorem rounded_tie {n : Nat} {y : Binary64} (other : y.magnitude ≠ rounded n * unitsInOne)
    (tie : Nat.dist y.magnitude (n * unitsInOne) =
      Nat.dist (rounded n * unitsInOne) (n * unitsInOne)) :
    0 < lastPlace n ∧ Even (roundHalfEven n (lastPlace n)) ∧ Odd y.significand := by
  by_cases exactly : rounded n = n
  · rw [exactly, Nat.dist_self] at tie
    exact absurd (exactly.symm ▸ Nat.eq_of_dist_eq_zero tie) other
  have long := lastPlace_pos_of_ne exactly
  rcases grid_lastPlace n y with ⟨j, multiple⟩ | below
  · rw [multiple, rounded, Nat.dist_mul_right, Nat.dist_mul_right] at tie
    rw [multiple, rounded] at other
    obtain ⟨even, odd⟩ := roundHalfEven_tie (fun same => other (by rw [same]))
      (Nat.eq_of_mul_eq_mul_right unitsInOne_pos tie)
    exact ⟨long, even, (Nat.odd_mul.mp odd).1⟩
  · exact absurd tie (dist_rounded_lt long below).ne'

/-! ## The pattern of an integer -/

/-- The significand that is given to a positive number: its places moved up, or its rounded
quotient. -/
def integerSignificand (n : Nat) : Nat :=
  if n.log2 ≤ 52 then n * twoTo (52 - n.log2) else roundHalfEven n (n.log2 - 52)

/-- The significand of a positive number reaches the hidden bit. -/
theorem le_integerSignificand {n : Nat} (positive : 0 < n) :
    0x10000000000000 ≤ integerSignificand n := by
  have least := Nat.log2_self_le positive.ne'
  rw [integerSignificand]
  split
  · next small =>
    calc 0x10000000000000 = 2 ^ n.log2 * 2 ^ (52 - n.log2) := by
          rw [← Nat.pow_add, Nat.add_sub_cancel' small]
      _ ≤ n * twoTo (52 - n.log2) := Nat.mul_le_mul_right _ least
  · next large =>
    have quotient : 0x10000000000000 ≤ n / twoTo (n.log2 - 52) := by
      rw [Nat.le_div_iff_mul_le (twoTo_pos _)]
      exact le_of_lastPlace (by rw [lastPlace]; omega)
    obtain ⟨⟨down, -⟩ | ⟨up, -⟩, -⟩ := roundHalfEven_cases n (n.log2 - 52) <;> omega

/-- The low bits of the pattern of a positive number. -/
theorem magnitudeBits_eq {n : Nat} (positive : 0 < n) :
    magnitudeBits n = (1022 + n.log2) * 0x10000000000000 + integerSignificand n := by
  rw [magnitudeBits, if_neg positive.ne', integerSignificand]

/-- With its power of two, the significand of a number is its rounding. -/
theorem integerSignificand_mul (n : Nat) :
    integerSignificand n * twoTo (1022 + n.log2) = rounded n * unitsInOne := by
  rw [integerSignificand]
  split
  · next small =>
    have same : rounded n = n :=
      rounded_multiple (t := n) (by
        rw [lastPlace, Nat.sub_eq_zero_of_le small, show twoTo 0 = 1 from rfl, Nat.mul_one])
    rw [same, Nat.mul_assoc, ← twoTo_add, unitsInOne,
      show 52 - n.log2 + (1022 + n.log2) = 1074 by omega]
  · next large =>
    rw [rounded, lastPlace, Nat.mul_assoc, unitsInOne, ← twoTo_add,
      show 1022 + n.log2 = n.log2 - 52 + 1074 by omega]

/-- A pattern whose low bits are a significand added to an exponent one too small: a significand
that is too long by one place moves on to the next exponent, and denotes the same. -/
theorem magnitude_of_low {x : Binary64} {exponent s : Nat}
    (low : x.bits.toNat % 0x8000000000000000 = exponent * 0x10000000000000 + s)
    (least : 0x10000000000000 ≤ s) (most : s ≤ 0x20000000000000) (bound : exponent < 2045) :
    x.magnitude = s * twoTo exponent ∧ x.isFinite = true ∧ (Even s → Even x.significand) := by
  rcases Nat.lt_or_eq_of_le most with fits | rfl
  · have field : x.exponentField = exponent + 1 := by
      rw [exponentField]
      omega
    have fraction : 0x10000000000000 + x.fraction = s := by
      rw [Binary64.fraction]
      omega
    have significand : x.significand = s := by
      rw [Binary64.significand, if_neg (by omega), fraction]
    refine ⟨?_, ?_, ?_⟩
    · rw [magnitude_eq, significand, field, Nat.add_sub_cancel]
    · rw [isFinite, field, bne_iff_ne]
      omega
    · rw [significand]
      exact id
  · have field : x.exponentField = exponent + 2 := by
      rw [exponentField]
      omega
    have fraction : x.fraction = 0 := by
      rw [Binary64.fraction]
      omega
    have significand : x.significand = 0x10000000000000 := by
      rw [Binary64.significand, if_neg (by omega), fraction]
    refine ⟨?_, ?_, ?_⟩
    · rw [magnitude_eq, significand, field, show exponent + 2 - 1 = exponent + 1 by omega,
        twoTo_succ]
      omega
    · rw [isFinite, field, bne_iff_ne]
      omega
    · rw [significand]
      exact fun _ => by decide

/-- A 64-bit integer is at most as large as its least value. -/
theorem natAbs_toInt_le (v : Int64) : v.toInt.natAbs ≤ 0x8000000000000000 := by
  have least := v.le_toInt
  have greatest := v.toInt_lt
  omega

/-- The bits of the pattern of an integer: the sign bit, and those of its magnitude below it. -/
theorem toNat_bits_ofInt64 (v : Int64) :
    magnitudeBits v.toInt.natAbs < 0x8000000000000000 ∧
      (ofInt64 v).bits.toNat =
        magnitudeBits v.toInt.natAbs + if v.toInt < 0 then 0x8000000000000000 else 0 := by
  have short : magnitudeBits v.toInt.natAbs < 0x8000000000000000 := by
    rcases Nat.eq_zero_or_pos v.toInt.natAbs with zero | positive
    · rw [zero]
      decide
    · exact (magnitudeBits_bounds positive (natAbs_toInt_le v)).2
  have sign : v < 0 ↔ v.toInt < 0 := Int64.lt_iff_toInt_lt
  refine ⟨short, ?_⟩
  rw [ofInt64, UInt64.toNat_ofNat']
  simp only [sign]
  split <;> omega

/-- The sign bit of the pattern of an integer is the sign of the integer. -/
theorem negative_ofInt64 (v : Int64) : (ofInt64 v).negative = decide (v.toInt < 0) := by
  obtain ⟨short, bits⟩ := toNat_bits_ofInt64 v
  rw [negative, decide_eq_decide, bits]
  split <;> omega

/-- **What an integer becomes**: a finite pattern with the magnitude of its rounding, whose
significand is even if the quotient is. -/
theorem ofInt64_reads (v : Int64) :
    (ofInt64 v).isFinite = true ∧
      (ofInt64 v).magnitude = rounded v.toInt.natAbs * unitsInOne ∧
      (0 < lastPlace v.toInt.natAbs →
        Even (roundHalfEven v.toInt.natAbs (lastPlace v.toInt.natAbs)) →
          Even (ofInt64 v).significand) := by
  rcases Nat.eq_zero_or_pos v.toInt.natAbs with zero | positive
  · have zero : v = 0 := Int64.toInt_inj.mp (Int.natAbs_eq_zero.mp zero)
    rw [zero]
    refine ⟨by decide, ?_, fun long => absurd long (by decide)⟩
    rw [show rounded (0 : Int64).toInt.natAbs = 0 by decide, Nat.zero_mul]
    decide
  have bound : v.toInt.natAbs.log2 < 64 :=
    (Nat.log2_lt positive.ne').mpr (Nat.lt_of_le_of_lt (natAbs_toInt_le v) (by decide))
  obtain ⟨short, bits⟩ := toNat_bits_ofInt64 v
  have low : (ofInt64 v).bits.toNat % 0x8000000000000000 =
      (1022 + v.toInt.natAbs.log2) * 0x10000000000000 + integerSignificand v.toInt.natAbs := by
    rw [bits, ← magnitudeBits_eq positive]
    split <;> omega
  obtain ⟨magnitude, finite, even⟩ := magnitude_of_low low (le_integerSignificand positive)
    (significand_le _) (by omega)
  refine ⟨finite, ?_, ?_⟩
  · rw [magnitude, integerSignificand_mul]
  · intro long quotient
    apply even
    rw [lastPlace] at long
    rw [integerSignificand, if_neg (by omega)]
    exact quotient

/-- The value of the pattern of an integer, in units. -/
theorem scaled_ofInt64 (v : Int64) :
    (ofInt64 v).scaled =
      if v.toInt < 0 then -((rounded v.toInt.natAbs * unitsInOne : Nat) : Int)
      else (rounded v.toInt.natAbs * unitsInOne : Nat) := by
  obtain ⟨-, magnitude, -⟩ := ofInt64_reads v
  rw [scaled, negative_ofInt64, magnitude]
  simp only [decide_eq_true_eq]

/-- An integer, in units. -/
theorem mul_unitsInOne (z : Int) :
    z * (unitsInOne : Int) =
      if z < 0 then -((z.natAbs * unitsInOne : Nat) : Int) else (z.natAbs * unitsInOne : Nat) := by
  rw [Nat.cast_mul]
  split
  · next negative => rw [Int.ofNat_natAbs_of_nonpos negative.le, Int.neg_mul, Int.neg_neg]
  · next positive => rw [Int.natAbs_of_nonneg (Int.not_lt.mp positive)]

/-- The units between an integer and its pattern. -/
theorem natAbs_scaled_ofInt64_sub (v : Int64) :
    ((ofInt64 v).scaled - v.toInt * (unitsInOne : Int)).natAbs =
      Nat.dist (rounded v.toInt.natAbs * unitsInOne) (v.toInt.natAbs * unitsInOne) := by
  rw [scaled_ofInt64, mul_unitsInOne, Nat.dist]
  split <;> omega

/-- The units between an integer and any pattern are at least those between their magnitudes. -/
theorem dist_magnitude_le (y : Binary64) (z : Int) :
    Nat.dist y.magnitude (z.natAbs * unitsInOne) ≤
      (y.scaled - z * (unitsInOne : Int)).natAbs := by
  rw [scaled, mul_unitsInOne, Nat.dist]
  split <;> split <;> omega

/-- Two numbers with the same magnitude have the same sign if both are as near to a third as its
magnitude is: the signs could differ only at 0, and 0 is no nearer. -/
theorem signed_eq_of_near {m n : Nat} {left right : Prop} [Decidable left] [Decidable right]
    (origin : Nat.dist m n ≤ n)
    (near : ((if left then -(m : Int) else m) - if right then -(n : Int) else n).natAbs =
      Nat.dist m n) :
    (if left then -(m : Int) else m) = if right then -(m : Int) else m := by
  rw [Nat.dist] at origin near
  by_cases l : left <;> by_cases r : right <;>
    simp only [l, r, if_true, if_false] at near ⊢ <;> omega

/-! ## Correct rounding -/

/-- **A pattern is the rounding of a number**: it is finite, no finite pattern is nearer, and where
another number is denoted that is as near, its significand is even and the other one is odd. -/
structure Rounds (x : Binary64) (q : ℚ) : Prop where
  finite : x.isFinite = true
  nearest : ∀ y : Binary64, y.isFinite = true → |x.toRat - q| ≤ |y.toRat - q|
  tie : ∀ y : Binary64, y.isFinite = true → y.toRat ≠ x.toRat → |y.toRat - q| = |x.toRat - q| →
    Even x.significand ∧ Odd y.significand

/-- **An integer becomes its rounding.** -/
theorem ofInt64_rounds (v : Int64) : Rounds (ofInt64 v) v.toInt where
  finite := (ofInt64_reads v).1
  nearest := by
    intro y _
    rw [abs_sub_le_abs_sub_iff, natAbs_scaled_ofInt64_sub]
    exact (dist_rounded_le _ y).trans (dist_magnitude_le y _)
  tie := by
    intro y _ other near
    obtain ⟨-, magnitude, even⟩ := ofInt64_reads v
    have units := Nat.le_antisymm ((abs_sub_le_abs_sub_iff ..).mp near.le)
      ((abs_sub_le_abs_sub_iff ..).mp near.ge)
    rw [natAbs_scaled_ofInt64_sub] at units
    have least := dist_rounded_le v.toInt.natAbs y
    have most := dist_magnitude_le y v.toInt
    have tie : Nat.dist y.magnitude (v.toInt.natAbs * unitsInOne) =
        Nat.dist (rounded v.toInt.natAbs * unitsInOne) (v.toInt.natAbs * unitsInOne) :=
      Nat.le_antisymm (most.trans units.le) least
    have differs : y.magnitude ≠ rounded v.toInt.natAbs * unitsInOne := by
      intro same
      have origin := dist_rounded_le v.toInt.natAbs .zero
      rw [show zero.magnitude = 0 by decide, Nat.dist_zero_left] at origin
      rw [scaled, same, mul_unitsInOne] at units
      rw [ne_eq, toRat_inj, scaled, same, scaled_ofInt64] at other
      exact other (signed_eq_of_near origin units)
    obtain ⟨long, quotient, odd⟩ := rounded_tie differs tie
    exact ⟨even long quotient, odd⟩

/-- A number has one rounding, by value. -/
theorem Rounds.unique {x y : Binary64} {q : ℚ} (left : Rounds x q) (right : Rounds y q) :
    x.toRat = y.toRat := by
  by_contra other
  have tie := le_antisymm (left.nearest y right.finite) (right.nearest x left.finite)
  obtain ⟨even, -⟩ := left.tie y right.finite (Ne.symm other) tie.symm
  obtain ⟨-, odd⟩ := right.tie x left.finite other tie
  exact Nat.not_even_iff_odd.mpr odd even

/-- **Rounding keeps the order.** If two roundings were in the other order, each would be at least
as near to its own number as to the other one, and so would be the numbers. -/
theorem Rounds.mono {x y : Binary64} {p q : ℚ} (left : Rounds x p) (right : Rounds y q)
    (le : p ≤ q) : x.toRat ≤ y.toRat := by
  rcases eq_or_lt_of_le le with rfl | less
  · exact (left.unique right).le
  by_contra crossed
  have first := sq_le_sq.mpr (left.nearest y right.finite)
  have second := sq_le_sq.mpr (right.nearest x left.finite)
  have product : 0 < (x.toRat - y.toRat) * (q - p) :=
    mul_pos (sub_pos.mpr (not_le.mp crossed)) (sub_pos.mpr less)
  linarith

/-- **Rounding does not leap** over a finite pattern. -/
theorem Rounds.abs_toRat_le {x y : Binary64} {q : ℚ} (rounds : Rounds x q)
    (finite : y.isFinite = true) (within : |q| ≤ |y.toRat|) : |x.toRat| ≤ |y.toRat| := by
  -- The pattern or its negation lies on the side of the number.
  have beside : ∃ z : Binary64, z.isFinite = true ∧ |z.toRat - q| = |y.toRat| - |q| := by
    have negated : y.negate.isFinite = true := y.isFinite_negate.trans finite
    rcases le_total 0 q with q_sign | q_sign <;> rcases le_total 0 y.toRat with sign | sign <;>
      simp only [abs_of_nonneg, abs_of_nonpos, q_sign, sign] at within ⊢
    · exact ⟨y, finite, abs_of_nonneg (by linarith)⟩
    · exact ⟨y.negate, negated, by rw [toRat_negate, abs_of_nonneg (by linarith)]⟩
    · exact ⟨y.negate, negated, by rw [toRat_negate, abs_of_nonpos (by linarith)]; ring⟩
    · exact ⟨y, finite, by rw [abs_of_nonpos (by linarith)]; ring⟩
  obtain ⟨z, finite, distance⟩ := beside
  have near := rounds.nearest z finite
  calc |x.toRat| = |x.toRat - q + q| := by rw [sub_add_cancel]
    _ ≤ |x.toRat - q| + |q| := abs_add_le _ _
    _ ≤ |y.toRat| := by linarith

/-- **An integer is denoted exactly** just if it has at most fifty-three binary places. -/
theorem toRat_ofInt64_eq_iff (v : Int64) :
    (ofInt64 v).toRat = v.toInt ↔ Short v.toInt.natAbs := by
  rw [toRat_eq_iff, ← rounded_eq_self_iff, ← Int.sub_eq_zero, ← Int.natAbs_eq_zero,
    natAbs_scaled_ofInt64_sub, Nat.dist_mul_right]
  constructor
  · intro same
    exact Nat.eq_of_dist_eq_zero ((Nat.mul_eq_zero.mp same).resolve_right unitsInOne_pos.ne')
  · intro same
    rw [same, Nat.dist_self, Nat.zero_mul]

/-- The integers with at most fifty-three binary places. -/
theorem short_natAbs_iff (z : Int) :
    Short z.natAbs ↔ ∃ (m : Int) (k : Nat), |m| < 2 ^ 53 ∧ z = m * 2 ^ k := by
  constructor
  · rintro ⟨m, k, short, product⟩
    have value : (z.natAbs : Int) = m * 2 ^ k := by
      rw [product, Nat.cast_mul]
      exact congrArg _ (Nat.cast_pow 2 k)
    rcases Int.natAbs_eq z with sign | sign
    · refine ⟨m, k, ?_, sign.trans value⟩
      rw [Nat.abs_cast]
      omega
    · refine ⟨-m, k, ?_, ?_⟩
      · rw [abs_neg, Nat.abs_cast]
        omega
      · rw [neg_mul, ← value]
        exact sign
  · rintro ⟨m, k, short, rfl⟩
    refine ⟨m.natAbs, k, ?_, ?_⟩
    · rw [Int.abs_eq_natAbs] at short
      omega
    · rw [Int.natAbs_mul, Int.natAbs_pow]
      rfl

/-- A negated integer is the negated value, unless it is the least one. -/
theorem toInt_neg_of_ne {v : Int64} (negatable : v ≠ Int64.minValue) : (-v).toInt = -v.toInt := by
  have least := v.le_toInt
  have greatest := v.toInt_lt
  have other : v.toInt ≠ -2 ^ 63 := fun h => negatable (Int64.toInt_inj.mp h)
  rw [Int64.toInt_neg, Int.bmod_eq_of_le (by omega) (by omega)]

/-- **Negation.** The pattern of a negated integer is the negated pattern. -/
theorem ofInt64_neg {v : Int64} (nonzero : v ≠ 0) (negatable : v ≠ Int64.minValue) :
    ofInt64 (-v) = (ofInt64 v).negate := by
  have whole : v.toInt ≠ 0 := fun zero => nonzero (Int64.toInt_inj.mp zero)
  obtain ⟨short, bits⟩ := toNat_bits_ofInt64 v
  obtain ⟨-, negated⟩ := toNat_bits_ofInt64 (-v)
  rw [toInt_neg_of_ne negatable, Int.natAbs_neg] at negated
  have same : (ofInt64 (-v)).bits.toNat = (ofInt64 v).negate.bits.toNat := by
    rw [toNat_bits_negate, negated, bits]
    split <;> split <;> split <;> omega
  exact congrArg mk (UInt64.toNat_inj.mp same)

/-! ## The law -/

/-- **An integer becomes the nearest double.**

1. No finite pattern is nearer to an integer than its own pattern; where another number is denoted
   that is as near, the significand of the integer's pattern is even, and the other one is odd.
2. The integer is denoted exactly just if it is an integer of less than fifty-four binary places
   times a power of two.
3. The order is kept.
4. The pattern of a negated integer is the pattern with the other sign bit. The integer 0 and the
   least one are left out: the former has a positive zero only, the latter cannot be negated.
5. The integer 0 becomes the positive zero. -/
theorem integers_become_nearest_doubles (v : Int64) :
    Rounds (ofInt64 v) v.toInt ∧
      ((ofInt64 v).toRat = v.toInt ↔
        ∃ (m : Int) (k : Nat), |m| < 2 ^ 53 ∧ v.toInt = m * 2 ^ k) ∧
      (∀ w : Int64, v ≤ w → (ofInt64 v).toRat ≤ (ofInt64 w).toRat) ∧
      (v ≠ 0 → v ≠ Int64.minValue → ofInt64 (-v) = (ofInt64 v).negate) ∧
      ofInt64 0 = zero := by
  refine ⟨ofInt64_rounds v, ?_, ?_, ofInt64_neg, by decide⟩
  · rw [toRat_ofInt64_eq_iff, short_natAbs_iff]
  · intro w le
    exact (ofInt64_rounds v).mono (ofInt64_rounds w)
      (Int.cast_le.mpr (Int64.le_iff_toInt_le.mp le))

/-- The first integer that is no double lies in the middle between two doubles, and becomes the
lower one, whose significand is even. The greatest integer is carried up to a power of two. -/
theorem odd_integer_becomes_even_neighbour :
    let v : Int64 := 9007199254740993
    v ≠ 0 ∧ v ≠ Int64.minValue ∧ v ≤ Int64.maxValue ∧ ofInt64 v = ⟨0x4340000000000000⟩ ∧
      Rounds ⟨0x4340000000000000⟩ v.toInt ∧
      (Binary64.mk 0x4340000000000000).toRat ≤ (Binary64.mk 0x43e0000000000000).toRat ∧
      ofInt64 (-v) = ⟨0xc340000000000000⟩ := by
  intro v
  have pattern : ofInt64 v = ⟨0x4340000000000000⟩ := by decide
  have greatest : ofInt64 Int64.maxValue = ⟨0x43e0000000000000⟩ := by decide
  have nonzero : v ≠ 0 := by decide
  have negatable : v ≠ Int64.minValue := by decide
  have below : v ≤ Int64.maxValue := by decide
  obtain ⟨rounds, -, ordered, negated, -⟩ := integers_become_nearest_doubles v
  have order := ordered _ below
  rw [pattern] at rounds
  rw [pattern, greatest] at order
  refine ⟨nonzero, negatable, below, pattern, rounds, order, ?_⟩
  rw [negated nonzero negatable, pattern]
  decide

end RemainderService.Binary64
