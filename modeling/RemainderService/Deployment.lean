import RemainderService.Listener
import RemainderService.Session

/-!
# One server and one client over time

A deployment is an address, perhaps a server that runs there, and perhaps a client. Starting a
server puts it in the place of the one that ran, on its own address; connecting puts a client in the
place of the one that was there, and a failure leaves none. **A client outlives its server**: it
keeps its settings, and its calls fail as unavailable until a server runs again. **A crash** of a
client ends the history, and no result is left of it.
-/

set_option autoImplicit false

namespace RemainderService

/-- What is there at a moment: a running server, and the settings of a connected client. -/
structure Deployment where
  address : SocketAddress
  network : Network
  server : Option Backend
  client : Option ClientConfig

/-- A thing to do with a deployment. -/
inductive DeploymentStep
  | start (backend : Backend) (address : SocketAddress)
  | connect (config : ClientConfig)
  | modulus (operands : Operands)
  | raw (operation : Operation) (operands : Operands)
  | bindAgain
  | dropClient
  | stop

/-- What a step comes to. -/
inductive DeploymentResult
  | started
  | connected
  | notConnected (error : ConnectError)
  | answered (outcome : Except ClientError Binary64)
  | noClient
  | rawAnswered (outcome : Except Status Number)
  | rawNotConnected
  | bound (address : SocketAddress)
  | bindFailed (error : ServerError)
  | dropped
  | stopped
  | noServer

namespace Deployment

/-- A deployment in which nothing runs. -/
def empty (address : SocketAddress) (network : Network) : Deployment :=
  ⟨address, network, none, none⟩

/-- What the network does with attempts to connect to the address: where nothing listens, an
attempt that would get through is refused. -/
def reach (d : Deployment) : Network := fun peer attempt =>
  match d.network peer attempt with
  | some fault => some fault
  | none => if d.server.isSome then none else some .connectionRefused

/-- The status of a call whose connection cannot be renewed. -/
def unavailable : Status := ⟨.unavailable, "tcp connect error"⟩

/-- The outcome of each attempt of a call by the client. -/
def respond (d : Deployment) (config : ClientConfig) (attempt : Nat) (operands : Operands) :
    Except Status Number :=
  match d.server with
  | some backend => backend.respond config 0 attempt operands
  | none => .error unavailable

/-- Do one thing. -/
def step (d : Deployment) : DeploymentStep → Except Crash (DeploymentResult × Deployment)
  | .start backend address => .ok (.started, { d with address := address, server := some backend })
  | .connect config =>
    let uri := d.address.endpoint
    match (config.connect uri (d.reach.connect uri)).ending with
    | .answered () => .ok (.connected, { d with client := some config })
    | .failed error => .ok (.notConnected error, { d with client := none })
    | .crashed crash => .error crash
  | .modulus operands =>
    match d.client with
    | none => .ok (.noClient, d)
    | some config =>
      match (config.modulus operands (d.respond config)).outcome with
      | .answered value => .ok (.answered (.ok value), d)
      | .failed error => .ok (.answered (.error error), d)
      | .crashed crash => .error crash
  | .raw operation operands =>
    match d.server, d.reach.connect d.address.endpoint 1 with
    | some backend, .ok () =>
      let reply := backend.reply 0 (.ofOperands operation.path operands)
      .ok (.rawAnswered (Backend.outcome .standard reply), d)
    | _, _ => .ok (.rawNotConnected, d)
  | .bindAgain =>
    let host : Host := ⟨if d.server.isSome then [d.address] else []⟩
    match ((host.outcome d.address).report d.address).value with
    | .ok address => .ok (.bound address, d)
    | .error error => .ok (.bindFailed error, d)
  | .dropClient => .ok (.dropped, { d with client := none })
  | .stop =>
    .ok (if d.server.isSome then (.stopped, { d with server := none }) else (.noServer, d))

/-- Do several things in order. -/
def run (d : Deployment) : List DeploymentStep → Except Crash (List DeploymentResult)
  | [] => .ok []
  | step :: later => do
    let (result, next) ← d.step step
    let rest ← next.run later
    .ok (result :: rest)

end Deployment

end RemainderService
