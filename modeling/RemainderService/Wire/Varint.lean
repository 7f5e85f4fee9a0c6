import RemainderService.Wire.Fault

/-!
# Varints

A number in groups of seven bits, lowest first; every byte but the last has its high bit set. A
varint has at most ten bytes and the tenth holds a single bit, so the value is below `2^64`. A
number has many spellings: the shortest one is written and all are read. **The law** that later
modules use is `length_lt_of_read`: a reader that succeeds leaves a shorter rest.
-/

set_option autoImplicit false

namespace RemainderService.Wire.Varint

/-- The shortest spelling of a number. -/
def write (n : Nat) : List UInt8 :=
  if n < 128 then [UInt8.ofNat n] else UInt8.ofNat (n % 128 + 128) :: write (n / 128)
termination_by n
decreasing_by omega

/-- Read a number of at most this many bytes. The last byte that there is room for is the tenth of
the number, and it may only hold 0 or 1. -/
def readWithin : Nat → List UInt8 → Except WireFault (Nat × List UInt8)
  | 0, _ => .error .invalidVarint
  | _ + 1, [] => .error .invalidVarint
  | room + 1, b :: rest =>
    if b.toNat < 128 then
      if room = 0 ∧ 1 < b.toNat then .error .invalidVarint else .ok (b.toNat, rest)
    else
      match readWithin room rest with
      | .ok (high, tail) => .ok (b.toNat - 128 + 128 * high, tail)
      | .error fault => .error fault

/-- Read a number, and hand back what follows it. -/
def read (bytes : List UInt8) : Except WireFault (Nat × List UInt8) :=
  readWithin 10 bytes

/-- What follows a number is shorter than what was read. -/
theorem length_lt_of_readWithin {room : Nat} {bytes rest : List UInt8} {n : Nat}
    (h : readWithin room bytes = .ok (n, rest)) : rest.length < bytes.length := by
  induction room generalizing bytes n with
  | zero => cases h
  | succ room ih =>
    cases bytes with
    | nil => cases h
    | cons b tail =>
      simp only [readWithin] at h
      split at h
      · split at h
        · cases h
        · cases h; simp
      · split at h
        · next hr =>
          cases h
          have := ih hr
          simp only [List.length_cons]
          omega
        · cases h

/-- What follows a number is shorter than what was read. -/
theorem length_lt_of_read {bytes rest : List UInt8} {n : Nat} (h : read bytes = .ok (n, rest)) :
    rest.length < bytes.length :=
  length_lt_of_readWithin h

end RemainderService.Wire.Varint
