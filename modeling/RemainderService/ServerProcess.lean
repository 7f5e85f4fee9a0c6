import RemainderService.Endpoint
import RemainderService.ExitStatus
import RemainderService.Listener
import RemainderService.OperationSet
import RemainderService.Shutdown

/-!
# The server process

The process asks the system for a listener, starts its serve loop, serves, and stops once it is
asked to. Its history is a list of inputs: the steps of its start, signals that arrive, the moments
at which the watcher turns to one of them, calls, notes of the transport, and the moment at which the
serve loop returns. What the transport does is not computed here: the inputs say when it has served
the calls that it took, what it notes about that, and when it is done. An input that cannot take
effect changes nothing, so every list of inputs is a history.

**Failure is early**: it comes from asking for the listener and from nothing else. That the handlers
of the signals are in place from then on, and that the serve loop does not fail by itself, is
assumed. **Stopping is caused**: the token of the serve loop is called off by the watcher, the
watcher acts on the first signal that it turns to, and the loop returns only after that. Until it
returns it answers calls, also while it drains.
-/

set_option autoImplicit false

namespace RemainderService

/-- A call that the process answered. -/
structure AnsweredCall where
  operation : Operation
  operands : Operands
  outcome : Except Status Binary64

/-- How far the start of a process has come: it has a listener, it has said that it starts, it has
the routes of the service, its serve loop runs. -/
inductive Stage
  | bound
  | starting
  | registered
  | listening
deriving DecidableEq, Repr

/-- A process at a moment: its address, the stage of its start, the signals that arrived and were
not turned to, the wait of the watcher, the tokens that were called off, the exit status once there
is one, the calls that were answered, and the log. -/
structure ServerProcess where
  address : SocketAddress
  stage : Stage
  pending : List Signal
  watcher : Wait
  cancellations : Cancellations
  exit : Option ExitStatus
  answered : List AnsweredCall
  log : List Event

/-- What the transport notes while it drains: that it takes no further connection, and for how many
it waits. -/
inductive TransportNote
  | closing
  | awaiting (connections : Nat)
deriving DecidableEq, Repr

/-- The entry of the log for a note. -/
def TransportNote.event : TransportNote → Event
  | .closing => .closing
  | .awaiting connections => .awaiting connections

/-- Something that happens to a process. A call happens when the transport hands it to the service,
not when a client sends it. -/
inductive ServerInput
  | proceed
  | deliver (signal : Signal)
  | turnTo (signal : Signal)
  | call (operation : Operation) (operands : Operands)
  | transport (note : TransportNote)
  | drained
deriving DecidableEq, Repr

namespace ServerProcess

/-- The token that ends the serve loop. -/
def token : Token := ⟨[]⟩

/-- The causes that the log names when there is no listener. -/
def startFailure (error : ServerError) : List String :=
  "modulus server cannot start" :: error.message :: error.causes

/-- A process that has asked for a listener: it has one, or it has ended. -/
def launch (outcome : BindOutcome) (requested : SocketAddress) : ServerProcess :=
  let attempt := outcome.report requested
  match attempt.value with
  | .ok address =>
    { address := address
      stage := .bound
      pending := []
      watcher := .open
      cancellations := .none
      exit := none
      answered := []
      log := attempt.log }
  | .error error =>
    { address := requested
      stage := .bound
      pending := []
      watcher := .open
      cancellations := .none
      exit := some .failure
      answered := []
      log := attempt.log ++ [.terminated (startFailure error)] }

/-- The serve loop has been started. -/
def listens (p : ServerProcess) : Bool := p.stage = .listening

/-- The serve loop has been told to end. -/
def stopping (p : ServerProcess) : Bool := p.cancellations.holds token

/-! ## What can happen -/

/-- The next step of the start. -/
def proceed (p : ServerProcess) : ServerProcess :=
  match p.stage with
  | .bound => { p with stage := .starting, log := p.log ++ [.starting p.address.endpoint] }
  | .starting => { p with stage := .registered, log := p.log ++ [.registered] }
  | .registered => { p with stage := .listening, log := p.log ++ [.listening p.address] }
  | .listening => p

/-- The watcher turns to a signal. -/
def handle (p : ServerProcess) (signal : Signal) : ServerProcess :=
  let ended := p.watcher.deliver signal
  { p with
    pending := p.pending.erase signal
    watcher := ended.value
    cancellations := p.cancellations.cancel token
    log := p.log ++ ended.log }

/-- The service answers a call. -/
def answer (p : ServerProcess) (operation : Operation) (operands : Operands) : ServerProcess :=
  let reply := OperationSet.modulus.call operation operands
  { p with
    answered := p.answered ++ [⟨operation, operands, reply.value⟩]
    log := p.log ++ reply.log }

/-- The serve loop returns. -/
def finish (p : ServerProcess) : ServerProcess :=
  { p with exit := some .success, log := p.log ++ [.stopped p.address] }

/-- What a running process does with an input. -/
def act (p : ServerProcess) : ServerInput → ServerProcess
  | .proceed => p.proceed
  | .deliver signal => { p with pending := p.pending ++ [signal] }
  | .turnTo signal =>
    if p.pending.contains signal && p.watcher.received?.isNone then p.handle signal else p
  | .call operation operands => if p.listens then p.answer operation operands else p
  | .transport note =>
    if p.listens && p.stopping then { p with log := p.log ++ [note.event] } else p
  | .drained => if p.listens && p.stopping then p.finish else p

/-- Let one thing happen. Nothing happens to a process that has ended. -/
def step (p : ServerProcess) (input : ServerInput) : ServerProcess :=
  if p.exit.isSome then p else p.act input

/-- Let several things happen in order. -/
def run (p : ServerProcess) (inputs : List ServerInput) : ServerProcess :=
  inputs.foldl step p

/-! ## Histories of the program -/

/-- The start of a process up to its serve loop, with nothing in between. -/
def startUp : List ServerInput := [.proceed, .proceed, .proceed]

/-- Start a process on a host. -/
def start (host : Host) (requested : SocketAddress) : ServerProcess :=
  (launch (host.outcome requested) requested).run startUp

/-- The history in which one signal arrives and the process stops in good order, with no connection
left to wait for. -/
def stopBy (signal : Signal) : List ServerInput :=
  [.deliver signal, .turnTo signal, .transport .closing, .transport (.awaiting 0), .drained]

end ServerProcess

end RemainderService
