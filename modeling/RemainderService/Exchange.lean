import RemainderService.Route

/-!
# The client's side of an exchange

A client sends one frame with its operands and reads a response back into a value or a status. What
a server wrote comes back unchanged, with one exception: a response whose status is a success but
which carries no message is a failure for the client.
-/

set_option autoImplicit false

namespace RemainderService

/-- The request to a path with a pair of operands. -/
def Request.ofOperands (path : String) (operands : Operands) : Request where
  target := path
  verb := "POST"
  headers := [Response.contentType]
  chunks := [Wire.Frame.write operands.encode]

namespace Response

/-- The entry of this name, among the headers or behind the body. -/
def entry? (response : Response) (name : String) : Option String :=
  (response.headers ++ response.trailers).lookup name

/-- The code of the call. A response without one, or with a number that stands for none, is of an
unknown code. -/
def code (response : Response) : Code :=
  match response.entry? "grpc-status" with
  | some text => (Code.all.find? fun c => toString c.number == text).getD .unknown
  | none => .unknown

/-- The text of the status. -/
def message (response : Response) : String :=
  match response.entry? "grpc-message" with
  | some value =>
    match Percent.unescape? value with
    | some bytes => (String.fromUTF8? ⟨bytes.toArray⟩).getD value
    | none => value
  | none => ""

/-- The status for a success without a message. -/
def missing : Status := ⟨.internal, "Missing response message."⟩

/-- What a response means to the client. -/
def outcome (response : Response) : Except Status Number :=
  if response.code ≠ .ok then .error ⟨response.code, response.message⟩
  else
    match (Wire.FrameReader.start.feed response.body).payloads with
    | [] => .error missing
    | payload :: _ =>
      match Number.decode payload with
      | .ok number => .ok number
      | .error error => .error ⟨.internal, error.message⟩

end Response

end RemainderService
