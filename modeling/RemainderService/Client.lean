import RemainderService.Connect
import RemainderService.Wire.Message

/-!
# The client

A client is a connection with the settings that it was made from. Its one operation is a call under
the policy of those settings. **A failed call** is reported as one of three errors, and the log says
so once, behind everything that the call itself logged.
-/

set_option autoImplicit false

namespace RemainderService

/-- The settings of a client that was given none. -/
def ClientConfig.calculator : ClientConfig := .named "calculator"

/-- What a client did for one call: the run of the call, what the user gets, and the whole log. -/
structure ClientCall where
  run : CallRun Operands Number
  outcome : Ending ClientError Binary64
  log : List Event

/-- Report a run to the user. -/
def ClientCall.ofRun (run : CallRun Operands Number) : ClientCall :=
  match run.ending with
  | .answered number => ⟨run, .answered number.result, run.log⟩
  | .failed status =>
    let error := ClientError.ofStatus status
    ⟨run, .failed error, run.log ++ [.clientFailed error]⟩
  | .crashed crash => ⟨run, .crashed crash, run.log⟩

/-- Ask for the remainder of a pair of operands. The server is given by its outcome for each
attempt. -/
def ClientConfig.modulus (config : ClientConfig) (operands : Operands)
    (respond : Nat → Operands → Except Status Number) : ClientCall :=
  .ofRun ((RetryPolicy.ofClient config).call modulusCall operands respond)

end RemainderService
