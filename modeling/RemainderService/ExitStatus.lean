/-!
# Exit statuses

A process ends in good order, with a failure that it reports, or by a crash.
-/

set_option autoImplicit false

namespace RemainderService

/-- How a process ended. -/
inductive ExitStatus
  | success
  | failure
  | crashed
deriving DecidableEq, Repr

/-- The number of an exit status. -/
def ExitStatus.number : ExitStatus → Nat
  | .success => 0
  | .failure => 1
  | .crashed => 101

end RemainderService
