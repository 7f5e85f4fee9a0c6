/-!
# Why bytes are no message

Every way in which the reader of a message can fail, with its wording. A fault that arises in the
value of a declared field is reported with the place, any other one without.
-/

set_option autoImplicit false

namespace RemainderService.Wire

/-- How the content of a field is laid out. -/
inductive WireType
  | varint
  | fixed64
  | lengthDelimited
  | startGroup
  | endGroup
  | fixed32
deriving DecidableEq, Repr

namespace WireType

/-- The number of a layout in a key. -/
def number : WireType → Nat
  | .varint => 0
  | .fixed64 => 1
  | .lengthDelimited => 2
  | .startGroup => 3
  | .endGroup => 4
  | .fixed32 => 5

/-- The layout with this number. -/
def ofNumber? : Nat → Option WireType
  | 0 => some .varint
  | 1 => some .fixed64
  | 2 => some .lengthDelimited
  | 3 => some .startGroup
  | 4 => some .endGroup
  | 5 => some .fixed32
  | _ => none

/-- The name of a layout in messages. -/
def name : WireType → String
  | .varint => "Varint"
  | .fixed64 => "SixtyFourBit"
  | .lengthDelimited => "LengthDelimited"
  | .startGroup => "StartGroup"
  | .endGroup => "EndGroup"
  | .fixed32 => "ThirtyTwoBit"

/-- The number of a layout finds that layout again. -/
theorem ofNumber?_number (w : WireType) : ofNumber? w.number = some w := by
  cases w <;> rfl

/-- Only its own number finds a layout. -/
theorem number_of_ofNumber? {n : Nat} {w : WireType} (h : ofNumber? n = some w) :
    w.number = n := by
  unfold ofNumber? at h
  split at h <;> cases h <;> rfl

end WireType

/-- What is wrong with the bytes. -/
inductive WireFault
  | invalidVarint
  | invalidKey (value : Nat)
  | invalidWireType (value : Nat)
  | invalidFieldNumber
  | unexpectedWireType (found : WireType)
  | bufferUnderflow
  | unexpectedEndGroup
  | recursionLimit
deriving DecidableEq, Repr

/-- The wording of a fault. Every declared field is a double, so there is one expected layout. -/
def WireFault.message : WireFault → String
  | .invalidVarint => "invalid varint"
  | .invalidKey value => "invalid key value: " ++ toString value
  | .invalidWireType value => "invalid wire type value: " ++ toString value
  | .invalidFieldNumber => "invalid tag value: 0"
  | .unexpectedWireType found =>
    "invalid wire type: " ++ found.name ++ " (expected " ++ WireType.fixed64.name ++ ")"
  | .bufferUnderflow => "buffer underflow"
  | .unexpectedEndGroup => "unexpected end group tag"
  | .recursionLimit => "recursion limit reached"

/-- A fault, and the message and declared field whose value it arose in. -/
structure DecodeError where
  place : Option (String × String)
  fault : WireFault
deriving DecidableEq, Repr

/-- The wording of an error, its place first. -/
def DecodeError.message (e : DecodeError) : String :=
  "failed to decode Protobuf message: " ++
    (match e.place with
      | some (message, field) => message ++ "." ++ field ++ ": "
      | none => "") ++
    e.fault.message

end RemainderService.Wire
