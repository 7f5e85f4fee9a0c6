import RemainderService.Duration
import RemainderService.Fault
import RemainderService.Method
import RemainderService.Signal

/-!
# The log

Everything that the service reports about itself is a value of `Event`. An event carries what
happened; its severity, its target, its wording and its fields are read off by the functions below,
so a statement about the log never has to compare texts. Opening a span is an entry of the log like
any other, with a name in place of a message.
-/

set_option autoImplicit false

namespace RemainderService

/-- How much an event matters, the most severe first. -/
inductive Severity
  | error
  | warn
  | info
  | debug
  | trace
deriving DecidableEq, Repr

namespace Severity

/-- The name of a severity. -/
def name : Severity → String
  | .error => "ERROR"
  | .warn => "WARN"
  | .info => "INFO"
  | .debug => "DEBUG"
  | .trace => "TRACE"

/-- The place of a severity: a greater rank is reported by fewer filters. -/
def rank : Severity → Nat
  | .error => 1
  | .warn => 2
  | .info => 3
  | .debug => 4
  | .trace => 5

end Severity

/-- The value of a field. A number is shown as a number and a plain text as it is; a quoted text is
shown between quotes where fields stand beside other text. -/
inductive FieldValue
  | number (value : Int)
  | plain (text : String)
  | quoted (text : String)
deriving DecidableEq, Repr

/-- A field as a bare text. -/
def FieldValue.text : FieldValue → String
  | .number value => toString value
  | .plain text => text
  | .quoted text => text

/-- What stands at the head of an entry. -/
inductive Heading
  | message (text : String)
  | span (name : String)
deriving DecidableEq, Repr

/-- The name under which a client reports its calls. -/
def modulusCall : String := "calculator.modulus"

/-- An entry of the log. -/
inductive Event
  /-- The truncated divisor was 0; the dividend is given. -/
  | zeroDivisor (a : Int64)
  /-- A remainder was computed. -/
  | computed (a b remainder : Int64)
  /-- A call of an operation was turned away with an error. -/
  | rejected (operation : Operation) (error : OperationError)
  /-- The routes of the service were built. -/
  | registered
  /-- An attempt of a call begins. -/
  | callOpened (op : String) (attempt : Nat)
  /-- An attempt failed and another one follows after the backoff. -/
  | callRetrying (op : String) (attempt : Nat) (code : Code) (backoff : Duration)
  /-- The call is given up. -/
  | callFailed (op : String) (attempt : Nat) (status : Status)
  /-- An attempt after the first one succeeded. -/
  | callRecovered (op : String) (attempt : Nat)
  /-- An attempt to connect begins. -/
  | connectOpened (service uri : String)
  /-- A connection was made. -/
  | connected (service : String) (connectTimeout rpcTimeout : Duration)
  /-- An attempt to connect failed and another one follows after the backoff. -/
  | connectRetrying (service : String) (attempt : Nat) (maxRetries : UInt32) (fault : ConnectFault)
      (backoff : Duration)
  /-- Connecting is given up. -/
  | connectFailed (service : String) (attempt : Nat) (fault : ConnectFault)
  /-- An attempt to connect after the first one succeeded. -/
  | connectRecovered (service : String) (attempt : Nat)
  /-- A client reports a failed call to its user. -/
  | clientFailed (error : ClientError)
  /-- A listener was bound. -/
  | bound (address requested : SocketAddress)
  /-- The server starts on an endpoint. -/
  | starting (endpoint : String)
  /-- The serve loop starts. -/
  | listening (address : SocketAddress)
  /-- The serve loop takes no further connection. -/
  | closing
  /-- The serve loop waits until the connections that it took are closed. -/
  | awaiting (connections : Nat)
  /-- The serve loop has ended. -/
  | stopped (address : SocketAddress)
  /-- The server gave up; the causes are given, outermost first. -/
  | terminated (causes : List String)
  /-- A stop was requested. -/
  | stopRequested (signal : Signal)
  /-- Logging was set up a second time, to no effect. -/
  | alreadyInstalled
  /-- A message of the surrounding program. -/
  | note (target : String) (severity : Severity) (text : String)
deriving DecidableEq

namespace Event

/-- The severity of an event. -/
def severity : Event → Severity
  | .callFailed .. => .warn
  | .callRecovered .. => .info
  | .connectRetrying .. => .warn
  | .connectFailed .. => .error
  | .connectRecovered .. => .info
  | .starting _ => .info
  | .listening _ => .info
  | .closing => .trace
  | .awaiting _ => .trace
  | .stopped _ => .info
  | .terminated _ => .error
  | .stopRequested _ => .info
  | .note _ severity _ => severity
  | _ => .debug

/-- The part of the program that an event comes from; filters select by it. -/
def target : Event → String
  | .zeroDivisor _ => "modulus::domain::service"
  | .computed .. => "modulus::domain::service"
  | .rejected .. => "modulus::api::grpc::server"
  | .registered => "modulus::module"
  | .callOpened .. => "calc_transport_grpc::rpc_retry"
  | .callRetrying .. => "calc_transport_grpc::rpc_retry"
  | .callFailed .. => "calc_transport_grpc::rpc_retry"
  | .callRecovered .. => "calc_transport_grpc::rpc_retry"
  | .connectOpened .. => "calc_transport_grpc::client"
  | .connected .. => "calc_transport_grpc::client"
  | .connectRetrying .. => "calc_transport_grpc::client"
  | .connectFailed .. => "calc_transport_grpc::client"
  | .connectRecovered .. => "calc_transport_grpc::client"
  | .clientFailed _ => "calculator_sdk::client"
  | .bound .. => "calc_transport_grpc::server"
  | .starting _ => "modulus_server"
  | .listening _ => "calc_transport_grpc::server"
  | .closing => "tonic::transport::server"
  | .awaiting _ => "tonic::transport::server"
  | .stopped _ => "calc_transport_grpc::server"
  | .terminated _ => "modulus_server"
  | .stopRequested _ => "calc_bootstrap::signals"
  | .alreadyInstalled => "calc_bootstrap::logging"
  | .note target _ _ => target

/-- The message of an event, or the name of the span that it opens. -/
def heading : Event → Heading
  | .zeroDivisor _ => .message "zero divisor, answering 0"
  | .computed .. => .message "performing modulus"
  | .rejected .. => .message "rejecting calculator call"
  | .registered => .message "registered gRPC service"
  | .callOpened .. => .span "grpc_call"
  | .callRetrying .. => .message "retrying gRPC call after backoff"
  | .callFailed .. => .message "gRPC call failed"
  | .callRecovered .. => .message "gRPC call succeeded after retries"
  | .connectOpened .. => .span "grpc_connect"
  | .connected .. => .message "gRPC client connected"
  | .connectRetrying .. => .message "gRPC connection failed, retrying"
  | .connectFailed .. => .message "gRPC connection failed after all retries"
  | .connectRecovered .. => .message "gRPC connection established after retries"
  | .clientFailed _ => .message "calculator call failed"
  | .bound .. => .message "gRPC listener bound"
  | .starting _ => .message "modulus server starting"
  | .listening _ => .message "gRPC server listening"
  | .closing => .message "signal received, shutting down"
  | .awaiting connections =>
    .message ("waiting for " ++ toString connections ++ " connections to close")
  | .stopped _ => .message "gRPC server stopped"
  | .terminated _ => .message "modulus server terminated"
  | .stopRequested _ => .message "stop requested, draining"
  | .alreadyInstalled => .message "global tracing subscriber already installed"
  | .note _ _ text => .message text

/-- The fields of an event, in the order in which they are shown. -/
def fields : Event → List (String × FieldValue)
  | .zeroDivisor a => [("a", .number a.toInt)]
  | .computed a b remainder =>
    [("a", .number a.toInt), ("b", .number b.toInt), ("remainder", .number remainder.toInt)]
  | .rejected operation error =>
    [("operation", .plain operation.name), ("error", .plain error.message)]
  | .registered => [("service", .quoted serviceName)]
  | .callOpened op attempt => [("op", .quoted op), ("attempt", .number attempt)]
  | .callRetrying op attempt code backoff =>
    [("op", .quoted op), ("attempt", .number attempt), ("code", .plain code.name),
      ("backoff_ms", .number backoff.wholeMillis)]
  | .callFailed op attempt status =>
    [("op", .quoted op), ("attempt", .number attempt), ("code", .plain status.code.name),
      ("message", .plain status.message)]
  | .callRecovered op attempt => [("op", .quoted op), ("attempt", .number attempt)]
  | .connectOpened service uri => [("service", .quoted service), ("uri", .plain uri)]
  | .connected service connectTimeout rpcTimeout =>
    [("service", .quoted service), ("connect_timeout_ms", .number connectTimeout.wholeMillis),
      ("rpc_timeout_ms", .number rpcTimeout.wholeMillis)]
  | .connectRetrying service attempt maxRetries fault backoff =>
    [("service", .quoted service), ("attempt", .number attempt),
      ("max_retries", .number maxRetries.toNat), ("error", .plain fault.headline),
      ("backoff_ms", .number backoff.wholeMillis)]
  | .connectFailed service attempt fault =>
    [("service", .quoted service), ("attempt", .number attempt), ("error", .plain fault.headline)]
  | .connectRecovered service attempt =>
    [("service", .quoted service), ("attempt", .number attempt)]
  | .clientFailed error => [("op", .quoted modulusCall), ("error", .plain error.message)]
  | .bound address requested =>
    [("local_addr", .plain address.text), ("requested", .plain requested.text)]
  | .starting endpoint => [("endpoint", .plain endpoint)]
  | .listening address => [("bound_addr", .plain address.text), ("transport", .quoted "tcp")]
  | .closing => []
  | .awaiting _ => []
  | .stopped address => [("bound_addr", .plain address.text)]
  | .terminated causes => [("error", .plain (String.intercalate ": " causes))]
  | .stopRequested signal => [("signal", .plain signal.name)]
  | .alreadyInstalled =>
    [("error", .plain "a global default trace dispatcher has already been set")]
  | .note .. => []

end Event

/-- A value together with what was logged while it was computed. -/
structure Logged (α : Type) where
  value : α
  log : List Event

end RemainderService
