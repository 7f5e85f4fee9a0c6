import RemainderService.Wire.Frame
import RemainderService.Wire.Message

/-!
# The body of a request

A body carries one operand pair. It is read to its end before the pair is used: every further
message has to be readable too, although nothing is done with it. **The first fault in the order of
the bytes** is the answer, so an unreadable message is reported before a broken header behind it.
-/

set_option autoImplicit false

namespace RemainderService.RequestBody

/-- The status for a body in which no message was found. -/
def missing : Status := ⟨.internal, "Missing request message."⟩

/-- The status for a payload that is no operand pair. -/
def unreadable (error : Wire.DecodeError) : Status := ⟨.internal, error.message⟩

/-- Read every payload, in order, up to the first that is no operand pair. -/
def decodeAll : List (List UInt8) → Except Status (List Operands)
  | [] => .ok []
  | payload :: later =>
    match Operands.decode payload with
    | .error error => .error (unreadable error)
    | .ok operands =>
      match decodeAll later with
      | .error status => .error status
      | .ok others => .ok (operands :: others)

/-- What a reader at the end of a body amounts to: the first operand pair, or the status of the
first fault. -/
def conclude (reader : Wire.FrameReader) : Except Status Operands :=
  match decodeAll reader.payloads with
  | .error status => .error status
  | .ok messages =>
    match reader.finish with
    | some fault => .error fault.status
    | none =>
      match messages with
      | [] => .error missing
      | operands :: _ => .ok operands

/-- Read a body that arrives in pieces. -/
def read (chunks : List (List UInt8)) : Except Status Operands :=
  conclude (Wire.FrameReader.start.feedAll chunks)

end RemainderService.RequestBody
