import RemainderService.Wire.Varint

/-!
# Keys

A field starts with a key: its number and its layout in one varint. A key is at most `2^32 - 1`,
its layout is one of six, and its number is not 0. **A key with several faults** is reported by the
first of these three that it violates.
-/

set_option autoImplicit false

namespace RemainderService.Wire

/-- The number and the layout of a field. -/
structure Key where
  number : Nat
  wireType : WireType
deriving DecidableEq, Repr

namespace Key

/-- The largest value of a key. -/
def maxValue : Nat := 0xffffffff

/-- The value of a key. -/
def value (key : Key) : Nat :=
  8 * key.number + key.wireType.number

/-- The key with this value. -/
def ofValue (value : Nat) : Except WireFault Key :=
  if maxValue < value then .error (.invalidKey value)
  else
    match WireType.ofNumber? (value % 8) with
    | none => .error (.invalidWireType (value % 8))
    | some wireType =>
      if value / 8 = 0 then .error .invalidFieldNumber else .ok ⟨value / 8, wireType⟩

/-- The bytes of a key. -/
def write (key : Key) : List UInt8 :=
  Varint.write key.value

/-- Read a key, and hand back what follows it. -/
def read (bytes : List UInt8) : Except WireFault (Key × List UInt8) :=
  match Varint.read bytes with
  | .error fault => .error fault
  | .ok (value, rest) =>
    match ofValue value with
    | .error fault => .error fault
    | .ok key => .ok (key, rest)

/-- What follows a key is shorter than what was read. -/
theorem length_lt_of_read {bytes rest : List UInt8} {key : Key} (h : read bytes = .ok (key, rest)) :
    rest.length < bytes.length := by
  unfold read at h
  split at h
  · cases h
  · next hv =>
    split at h
    · cases h
    · cases h
      exact Varint.length_lt_of_read hv

end Key

end RemainderService.Wire
