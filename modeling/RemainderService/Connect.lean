import RemainderService.Peer
import RemainderService.Retry

/-!
# Connecting

A connection is attempted under the same settings as a call, but any fault may pass: an address that
cannot be used is tried again too. The loop is written apart from that of a call, and so is the pause
(`ClientConfig.backoff?`); a call takes its policy from the settings of the client
(`RetryPolicy.ofClient`). As in a call, overflow of the attempt number is checked.

**One attempt** reads the address, and only then meets the
network. **A run** counts the attempts and keeps the pauses, the log and the ending; if it gives up,
the last fault gets one entry in front that names the service, the address as it was given, and the
number of attempts.
-/

set_option autoImplicit false

namespace RemainderService

/-- The settings of a client. -/
structure ClientConfig where
  name : String
  connectTimeout : Duration
  rpcTimeout : Duration
  policy : RetryPolicy
deriving DecidableEq, Repr

namespace ClientConfig

/-- The settings of a client under a name: five seconds to connect, two for a call, and the
standard policy. -/
def named (name : String) : ClientConfig :=
  ⟨name, .ofMillis 5000, .ofMillis 2000, .standard⟩

/-- The settings of a client that was given no name. -/
def standard : ClientConfig := .named "grpc_client"

end ClientConfig

/-- The policy for the calls of a client, setting by setting. -/
def RetryPolicy.ofClient (config : ClientConfig) : RetryPolicy where
  maxRetries := config.policy.maxRetries
  base := config.policy.base
  cap := config.policy.cap

/-- It is the policy under which the client connects. -/
theorem RetryPolicy.ofClient_eq (config : ClientConfig) : .ofClient config = config.policy := rfl

/-- Everything that connecting did. -/
structure ConnectRun where
  attempts : Nat
  backoffs : List Duration
  log : List Event
  ending : Ending ConnectError Unit

namespace ConnectRun

/-- A run that ends with its first attempt. -/
def only (log : List Event) (ending : Ending ConnectError Unit) : ConnectRun :=
  ⟨1, [], log, ending⟩

/-- The run that goes on after an attempt and a pause. -/
def after (pause : Duration) (log : List Event) (later : ConnectRun) : ConnectRun :=
  ⟨later.attempts + 1, pause :: later.backoffs, log ++ later.log, later.ending⟩

end ConnectRun

namespace ClientConfig

/-- The pause that follows an attempt to connect, if the product with the base is a span of time. -/
def backoff? (config : ClientConfig) (attempt : Nat) : Option Duration :=
  (config.policy.base.scale? attempt).map fun product => product.min config.policy.cap

/-- It is the pause that follows an attempt of a call. -/
theorem backoff?_eq (config : ClientConfig) (attempt : Nat) :
    config.backoff? attempt = config.policy.backoff? attempt := rfl

/-- The entry of the log for a connection that was made. -/
def connectedEvent (config : ClientConfig) : Event :=
  .connected config.name config.connectTimeout config.rpcTimeout

/-- Connect with a single attempt. -/
def connectOnce (config : ClientConfig) (uri : String) (outcome : Except ConnectFault Unit) :
    ConnectRun :=
  match outcome with
  | .ok () => .only [.connectOpened config.name uri, config.connectedEvent] (.answered ())
  | .error fault => .only [.connectOpened config.name uri] (.failed (.single fault))

/-- The attempts to connect from this number on, while there are numbers left. Without numbers, the
checked addition that would make the next one crashes. -/
def connectFrom (config : ClientConfig) (uri : String)
    (outcome : Nat → Except ConnectFault Unit) (attempt : Nat) : Nat → ConnectRun
  | 0 => ⟨0, [], [], .crashed .attemptOverflow⟩
  | numbers + 1 =>
    let opened := Event.connectOpened config.name uri
    match outcome attempt with
    | .ok () =>
      .only
        ([opened, config.connectedEvent] ++
          if 1 < attempt then [.connectRecovered config.name attempt] else [])
        (.answered ())
    | .error fault =>
      if attempt ≤ config.policy.maxRetries.toNat then
        match config.backoff? attempt with
        | none => .only [opened] (.crashed .backoffOverflow)
        | some pause =>
          .after pause
            [opened, .connectRetrying config.name attempt config.policy.maxRetries fault pause]
            (config.connectFrom uri outcome (attempt + 1) numbers)
      else
        .only [opened, .connectFailed config.name attempt fault]
          (.failed (.exhausted config.name uri attempt fault))

/-- Connect with as many attempts as the policy allows. -/
def connect (config : ClientConfig) (uri : String) (outcome : Nat → Except ConnectFault Unit) :
    ConnectRun :=
  config.connectFrom uri outcome 1 RetryPolicy.attemptNumbers

end ClientConfig

end RemainderService
