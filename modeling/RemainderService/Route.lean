import RemainderService.OperationSet
import RemainderService.Percent
import RemainderService.RequestBody

/-!
# Requests and responses

A request names a method by its path, and a response carries one frame or one status.

**What a request is judged by** is its path, the first header that names an encoding, and its body.
The path is the target without an address in front and without the query and fragment behind; the
other headers have no influence, and neither has the method of the request, except that no length
is announced to one that asks for a tunnel. **What a response always has** is the transport status
200, and exactly one entry with the status of the call: behind the body if the call succeeded,
among the headers and with an empty body if it did not.
-/

set_option autoImplicit false

namespace RemainderService

/-- A request as it arrives: the pieces of the body are in order. -/
structure Request where
  target : String
  verb : String
  headers : List (String × String)
  chunks : List (List UInt8)
deriving DecidableEq, Repr

/-- A response. The headers, and the trailers behind the body, are sorted by name. -/
structure Response where
  transportStatus : Nat
  headers : List (String × String)
  trailers : List (String × String)
  body : List UInt8
deriving DecidableEq, Repr

/-! ## Where a request goes -/

namespace Request

/-- The text behind the first `://`, if there is one. -/
def behindScheme? : List Char → Option (List Char)
  | [] => none
  | ':' :: '/' :: '/' :: rest => some rest
  | _ :: rest => behindScheme? rest

/-- The target without a scheme and a host in front. -/
def localTarget (target : List Char) : List Char :=
  if target.head? = some '/' then target
  else
    match behindScheme? target with
    | some rest => rest.dropWhile fun c => !(['/', '?', '#'].contains c)
    | none => target

/-- The path of a request: its target without the address, the query and the fragment. -/
def path (request : Request) : String :=
  String.ofList ((localTarget request.target.toList).takeWhile fun c => !(['?', '#'].contains c))

/-- The value of the first header of this name; names are compared without regard to case. -/
def header? (request : Request) (name : String) : Option String :=
  (request.headers.find? fun entry => entry.1.toLower == name).map (·.2)

end Request

/-- What a path leads to. -/
inductive Destination
  | method (method : Method)
  | unknownMethod
  | nowhere
deriving DecidableEq, Repr

/-- The destination of a path: only the exact path of a method leads to it. -/
def Destination.ofPath (path : String) : Destination :=
  match Method.all.find? fun m => m.path == path with
  | some m => .method m
  | none =>
    if servicePath.toList.isPrefixOf path.toList && path != servicePath then .unknownMethod
    else .nowhere

/-! ## Responses -/

namespace Response

/-- The header that every response starts with. -/
def contentType : String × String := ("content-type", "application/grpc")

/-- The status of a call as an entry. -/
def statusEntry (code : Code) : String × String := ("grpc-status", toString code.number)

/-- The response that carries a value. -/
def ofNumber (number : Number) : Response where
  transportStatus := 200
  headers := [contentType]
  trailers := [statusEntry .ok]
  body := Wire.Frame.write number.encode

/-- The text of a status as an entry; an empty text has none. -/
def messageEntry (message : String) : List (String × String) :=
  if message = "" then [] else [("grpc-message", Percent.escape message)]

/-- The response that carries a status, with further headers between the type and the text. -/
def ofStatus (status : Status) (further : List (String × String)) : Response where
  transportStatus := 200
  headers := contentType :: further ++ messageEntry status.message ++ [statusEntry status.code]
  trailers := []
  body := []

/-- The response to a path that has the service in front of an unknown name. -/
def unknownMethod : Response :=
  ofStatus ⟨.unimplemented, ""⟩ []

/-- The response to any other path. It announces its length, unless the method asks for a tunnel:
then everything behind the headers would belong to the tunnel. -/
def nowhere (verb : String) : Response where
  transportStatus := 200
  headers :=
    (if verb = "CONNECT" then [] else [("content-length", "0")]) ++
      [contentType, statusEntry .unimplemented]
  trailers := []
  body := []

end Response

/-! ## Answering -/

/-- The status for a body in an encoding that is not understood. -/
def unsupportedEncoding (encoding : String) : Status :=
  ⟨.unimplemented, "Content is compressed with `" ++ encoding ++ "` which isn't supported"⟩

/-- The encoding that stands in the way of reading a body: the one that the first such header
names, unless it leaves bytes as they are. -/
def Request.foreignEncoding? (request : Request) : Option String :=
  match request.header? "grpc-encoding" with
  | some encoding => if encoding = "identity" then none else some encoding
  | none => none

/-- A call that a request asks for. -/
structure Invocation where
  operation : Operation
  operands : Operands
deriving DecidableEq, Repr

/-- The call that a request asks for, or the response that turns it away. A path that leads to no
method is turned away without a look at the rest of the request; the encoding is checked before
the body is looked at, and the body is read to its end. -/
def Request.invocation (request : Request) : Except Response Invocation :=
  match Destination.ofPath request.path with
  | .nowhere => .error (.nowhere request.verb)
  | .unknownMethod => .error .unknownMethod
  | .method method =>
    match request.foreignEncoding? with
    | some encoding =>
      .error (.ofStatus (unsupportedEncoding encoding) [("grpc-accept-encoding", "identity")])
    | none =>
      match RequestBody.read request.chunks with
      | .error status => .error (.ofStatus status [])
      | .ok operands => .ok ⟨method.operation, operands⟩

/-- The response to a call that was made. -/
def Response.ofOutcome : Except Status Binary64 → Response
  | .ok result => .ofNumber ⟨result⟩
  | .error status => .ofStatus status []

/-- Answer a request. The call is made once, and a request that asks for none leaves no trace in the
log. -/
def OperationSet.respond (set : OperationSet) (request : Request) : Logged Response :=
  match request.invocation with
  | .error response => ⟨response, []⟩
  | .ok ⟨operation, operands⟩ =>
    let reply := set.call operation operands
    ⟨.ofOutcome reply.value, reply.log⟩

end RemainderService
