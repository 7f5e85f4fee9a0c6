/-!
Spans of time in whole nanoseconds, with a greatest one.

A span holds at most `2^64 - 1` seconds and 999999999 nanoseconds. Multiplication is exact or
refused: there is no wrapping and no saturation, so a caller that scales a span has to say what it
does when the product does not fit. Reports count whole milliseconds, rounded down and capped at
the largest 64-bit number; timers count them rounded up, and no timer runs for more than thirty
years of 365 days.
-/

set_option autoImplicit false

namespace RemainderService

/-- A span of time. -/
structure Duration where
  nanos : Nat
  nanos_le : nanos ≤ 18446744073709551615999999999 := by decide
deriving DecidableEq, Repr

namespace Duration

/-- The greatest span, in nanoseconds. -/
def maxNanos : Nat := 18446744073709551615999999999

/-- The span of no time. -/
def zero : Duration := ⟨0, by decide⟩

/-- The span of this many nanoseconds, if there is one. -/
def ofNanos? (n : Nat) : Option Duration :=
  if h : n ≤ 18446744073709551615999999999 then some ⟨n, h⟩ else none

/-- The span of this many milliseconds. -/
def ofMillis (count : UInt32) : Duration :=
  ⟨count.toNat * 1000000, by have := count.toNat_lt; omega⟩

/-- The product with a count, if it is a span. -/
def scale? (d : Duration) (count : Nat) : Option Duration :=
  ofNanos? (d.nanos * count)

/-- The shorter of two spans. -/
def min (d e : Duration) : Duration :=
  if d.nanos ≤ e.nanos then d else e

/-- Whole milliseconds, rounded down and capped at the largest 64-bit number. -/
def wholeMillis (d : Duration) : Nat :=
  Nat.min (d.nanos / 1000000) 18446744073709551615

/-- The longest time that a timer lets pass, in nanoseconds: thirty years of 365 days. -/
def timerLimit : Nat := 946080000000000000

/-- The time a timer lets pass: whole milliseconds, rounded up, and no more than the longest, in
nanoseconds. -/
def timerNanos (d : Duration) : Nat :=
  Nat.min ((d.nanos + 999999) / 1000000 * 1000000) timerLimit

/-- Two spans of equal length are equal. -/
theorem ext_nanos {d e : Duration} (h : d.nanos = e.nanos) : d = e := by
  cases d; cases e; cases h; rfl

/-- The shorter of two spans has the smaller number of nanoseconds. -/
theorem nanos_min (d e : Duration) : (d.min e).nanos = Nat.min d.nanos e.nanos := by
  unfold min
  split
  · next h => exact (Nat.min_eq_left h).symm
  · next h => exact (Nat.min_eq_right (Nat.le_of_not_le h)).symm

/-- A product is a span exactly if it does not exceed the greatest one. -/
theorem scale?_eq_some_iff {d e : Duration} {count : Nat} :
    d.scale? count = some e ↔ d.nanos * count = e.nanos := by
  unfold scale? ofNanos?
  constructor
  · intro h
    split at h
    · cases h; rfl
    · cases h
  · intro h
    have hle : d.nanos * count ≤ 18446744073709551615999999999 := h ▸ e.nanos_le
    rw [dif_pos hle]
    exact congrArg some (ext_nanos h)

end Duration

end RemainderService
