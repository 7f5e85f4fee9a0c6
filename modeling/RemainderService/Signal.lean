/-!
The two signals that stop a server process.
-/

set_option autoImplicit false

namespace RemainderService

/-- A request to stop, from the terminal or from the system. -/
inductive Signal
  | interrupt
  | terminate
deriving DecidableEq, Repr

/-- The name of a signal. -/
def Signal.name : Signal → String
  | .interrupt => "SIGINT"
  | .terminate => "SIGTERM"

end RemainderService
