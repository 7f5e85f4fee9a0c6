import RemainderService.Client
import RemainderService.Exchange
import RemainderService.Script

/-!
# Sessions

A session connects a client to a server, makes calls one after the other, and keeps what each side
saw. **The server** answers from an operation set, knows no service at all, or follows a script; a
scripted server takes one reply for each request that arrives, retries included, so the number of
arrivals is the only thing that a session has to remember about it.
-/

set_option autoImplicit false

namespace RemainderService

/-- What stands behind an address. -/
inductive Backend
  | service (set : OperationSet)
  | empty
  | scripted (replies : List (Reply Binary64))

namespace Backend

/-- The reply to a request, by the number of requests that arrived before it. -/
def reply (backend : Backend) (arrived : Nat) (request : Request) : Reply Response :=
  match backend with
  | .service set => ⟨.ok (set.respond request).value, .zero⟩
  | .empty => ⟨.ok (.nowhere request.verb), .zero⟩
  | .scripted replies =>
    let next := Reply.nth replies .zero (arrived + 1)
    match next.outcome with
    | .ok result => ⟨.ok (.ofNumber ⟨result⟩), next.delay⟩
    | .error status => ⟨.ok (.ofStatus status []), next.delay⟩

/-- The status of a call that took longer than the client waits. -/
def expired : Status := ⟨.cancelled, "Timeout expired"⟩

/-- What the client sees of a reply. -/
def outcome (config : ClientConfig) (reply : Reply Response) : Except Status Number :=
  if config.rpcTimeout.timerNanos < reply.delay.timerNanos then .error expired
  else
    match reply.outcome with
    | .ok response => response.outcome
    | .error status => .error status

/-- The outcome of each attempt of a call, when this many requests have arrived before it. -/
def respond (backend : Backend) (config : ClientConfig) (arrived : Nat) (attempt : Nat)
    (operands : Operands) : Except Status Number :=
  outcome config (backend.reply (arrived + attempt - 1) (.ofOperands Method.modulus.path operands))

/-- The replies of a script that were not used by the requests that arrived; a backend that answers
by itself uses none. -/
def unused (backend : Backend) (script : List (Reply Binary64)) (arrived : Nat) :
    List (Reply Binary64) :=
  match backend with
  | .scripted _ => script.drop arrived
  | _ => script

end Backend

/-- The calls of a session and the number of requests that arrived in all. -/
structure SessionCalls where
  calls : List ClientCall
  arrived : Nat

/-- Make calls in order. -/
def ClientConfig.callAll (config : ClientConfig) (backend : Backend) (arrived : Nat) :
    List Operands → SessionCalls
  | [] => ⟨[], arrived⟩
  | operands :: later =>
    let call := config.modulus operands (backend.respond config arrived)
    let rest := config.callAll backend (arrived + call.run.attempts) later
    ⟨call :: rest.calls, rest.arrived⟩

/-- What a session did: how it connected, and its calls if it did. -/
structure Session where
  connection : ConnectRun
  calls : List ClientCall
  arrived : Nat

namespace Session

/-- Connect and make calls in order. -/
def run (network : Network) (config : ClientConfig) (uri : String) (backend : Backend)
    (calls : List Operands) : Session :=
  let connection := config.connect uri (network.connect uri)
  match connection.ending with
  | .answered () =>
    let made := config.callAll backend 0 calls
    ⟨connection, made.calls, made.arrived⟩
  | _ => ⟨connection, [], 0⟩

/-- The log of both sides of the client, in order. -/
def log (session : Session) : List Event :=
  session.connection.log ++ session.calls.flatMap (·.log)

/-- The operand pairs that reached the server, as it read them. -/
def seen (session : Session) : List Operands :=
  session.calls.flatMap fun call =>
    call.run.sent.filterMap fun operands => (Operands.decode operands.encode).toOption

end Session

end RemainderService
