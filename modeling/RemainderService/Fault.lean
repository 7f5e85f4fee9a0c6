import RemainderService.Address
import RemainderService.Status
import RemainderService.Uri

/-!
# What can go wrong outside the arithmetic

Three families of failures: a connection that does not come about, a call that a client reports to
its user, and a server that cannot start or goes down. Each is a cause; its wording, and the chain
of causes behind it, are derived here and nowhere else.
-/

set_option autoImplicit false

namespace RemainderService

/-! ## The system -/

/-- The refusals of the system that the service can meet. -/
inductive SystemFault
  | notFound
  | permissionDenied
  | noDevice
  | notDirectory
  | invalidArgument
  | addressInUse
  | addressNotAvailable
  | networkUnreachable
  | connectionRefused
deriving DecidableEq, Repr

/-- The wording of a refusal, with its number. -/
def SystemFault.message : SystemFault → String
  | .notFound => "No such file or directory (os error 2)"
  | .permissionDenied => "Permission denied (os error 13)"
  | .noDevice => "No such device (os error 19)"
  | .notDirectory => "Not a directory (os error 20)"
  | .invalidArgument => "Invalid argument (os error 22)"
  | .addressInUse => "Address already in use (os error 98)"
  | .addressNotAvailable => "Cannot assign requested address (os error 99)"
  | .networkUnreachable => "Network is unreachable (os error 101)"
  | .connectionRefused => "Connection refused (os error 111)"

/-! ## Connections -/

/-- Why a path cannot name a socket. -/
inductive SocketPathFault
  | interiorZero
  | tooLong
  | abstractTooLong
deriving DecidableEq, Repr

/-- The wording of each fault. -/
def SocketPathFault.message : SocketPathFault → String
  | .interiorZero => "paths must not contain interior null bytes"
  | .tooLong => "path must be shorter than SUN_LEN"
  | .abstractTooLong => "abstract socket name must be shorter than SUN_LEN"

/-- Why one attempt to connect failed: the address is no URI, it names no protocol, its path can
name no socket, or the system refused the connection to a host or to a socket of its own. Whatever
else a transport may run into, such as a peer that does not answer in time, is any other fault, with
its text and the causes behind it. -/
inductive ConnectFault
  | invalidUri (fault : UriFault)
  | schemeMissing
  | socketPath (fault : SocketPathFault)
  | localSocket (fault : SystemFault)
  | system (fault : SystemFault)
  | other (text : String) (causes : List String)
deriving DecidableEq, Repr

namespace ConnectFault

/-- The outermost entry of the chain, which is the one that the log shows. -/
def headline : ConnectFault → String
  | .invalidUri _ => "invalid URI"
  | .other text _ => text
  | _ => "transport error"

/-- The fault and the causes behind it, outermost first. A refusal passes through two layers that
repeat its text; for a host they say that it concerned the network. -/
def chain (fault : ConnectFault) : List String :=
  fault.headline ::
    match fault with
    | .invalidUri why => [why.message]
    | .schemeMissing => ["invalid URL, scheme is missing", "invalid URL, scheme is missing"]
    | .socketPath why => [why.message, why.message, why.message]
    | .localSocket why => [why.message, why.message, why.message]
    | .system why => ["tcp connect error", "tcp connect error", why.message]
    | .other _ causes => causes

end ConnectFault

/-- A connection that was given up: the last fault, with a context if the attempts were counted. -/
inductive ConnectError
  | single (fault : ConnectFault)
  | exhausted (service uri : String) (attempts : Nat) (last : ConnectFault)
deriving DecidableEq, Repr

/-- The causes of an error, outermost first. Counting the attempts adds one entry in front. -/
def ConnectError.chain : ConnectError → List String
  | .single fault => fault.chain
  | .exhausted service uri attempts last =>
    ("failed to connect to " ++ service ++ " at " ++ uri ++ " after " ++ toString attempts ++
      " attempts") :: last.chain

/-! ## Calls -/

/-- What a client tells its user about a failed call. -/
inductive ClientError
  | transport (text : String)
  | unimplemented (text : String)
  | internal (text : String)
deriving DecidableEq, Repr

namespace ClientError

/-- The error for a status: what is transient failed in transport, an unimplemented method says so,
and all else is internal. -/
def ofStatus (status : Status) : ClientError :=
  match status.code with
  | .unimplemented => .unimplemented status.message
  | .unavailable => .transport status.message
  | .deadlineExceeded => .transport status.message
  | _ => .internal status.message

/-- The text of the status behind an error. -/
def text : ClientError → String
  | .transport text => text
  | .unimplemented text => text
  | .internal text => text

/-- The wording of an error. -/
def message : ClientError → String
  | .transport text => "gRPC transport error: " ++ text
  | .unimplemented text => "not implemented: " ++ text
  | .internal text => "internal error: " ++ text

end ClientError

/-! ## Servers -/

/-- Why a server cannot start, or stopped on its own. -/
inductive ServerError
  | bind (address : SocketAddress) (cause : String)
  | localAddress (cause : String)
  | serve (cause : ConnectFault)
deriving DecidableEq

namespace ServerError

/-- The wording of an error, without its causes. -/
def message : ServerError → String
  | .bind address _ => "failed to listen on " ++ address.text
  | .localAddress _ => "failed to resolve bound address"
  | .serve _ => "failed to serve gRPC"

/-- The causes behind an error, outermost first. -/
def causes : ServerError → List String
  | .bind _ cause => [cause]
  | .localAddress cause => [cause]
  | .serve cause => cause.chain

end ServerError

end RemainderService
