import RemainderService.Remainder
import RemainderService.Wire.Scan

/-!
# The two messages of the calculator

A request carries two doubles and a reply carries one. **Writing** leaves out every field that
compares equal to zero, the negative zero included, so a sign can get lost; a field that is not a
number is written. **Reading** takes the last value of each declared field and positive zero where
there is none.
-/

set_option autoImplicit false

namespace RemainderService

open Wire

/-- The value of a field: its last occurrence, or positive zero. -/
def Wire.lastValue (number : Nat) (occurrences : List Occurrence) : Binary64 :=
  match (occurrences.filter (·.number == number)).getLast? with
  | some occurrence => occurrence.value
  | none => .zero

/-- A field as it is written: nothing for a zero, else the key and the eight bytes. -/
def Wire.writeField (number : Nat) (value : Binary64) : List UInt8 :=
  if value.isZero then [] else (Key.mk number .fixed64).write ++ doubleBytes value

namespace Operands

/-- The declared fields of an operand pair. -/
def schema : Schema := ⟨"TwoNumbers", ["a", "b"]⟩

/-- The bytes of an operand pair. -/
def encode (o : Operands) : List UInt8 :=
  writeField 1 o.a ++ writeField 2 o.b

/-- Read an operand pair. -/
def decode (bytes : List UInt8) : Except DecodeError Operands :=
  (scan schema [] bytes).map fun found => ⟨lastValue 1 found, lastValue 2 found⟩

end Operands

/-- The reply to a call. -/
structure Number where
  result : Binary64
deriving DecidableEq, Repr

namespace Number

/-- The declared field of a reply. -/
def schema : Schema := ⟨"Number", ["result"]⟩

/-- The bytes of a reply. -/
def encode (n : Number) : List UInt8 :=
  writeField 1 n.result

/-- Read a reply. -/
def decode (bytes : List UInt8) : Except DecodeError Number :=
  (scan schema [] bytes).map fun found => ⟨lastValue 1 found⟩

end Number

end RemainderService
