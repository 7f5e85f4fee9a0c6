import RemainderService.Duration

/-!
# When attempts happen

A clock that starts at zero and moves only while something waits: for an answer that is delayed,
or for a pause to pass. Every wait is counted in whole milliseconds, rounded up, and ends after
thirty years at the latest; a wait of no time moves nothing.
-/

set_option autoImplicit false

namespace RemainderService

/-- The times of the attempts and the time at the end, in nanoseconds. -/
structure Timeline where
  starts : List Nat
  finish : Nat
deriving DecidableEq, Repr

/-- Lay out attempts from a time on: the delays of their answers, and the pauses between them. A
pause that no further attempt follows is not waited for. -/
def Timeline.layOut (now : Nat) : List Duration → List Duration → Timeline
  | [], _ => ⟨[], now⟩
  | [delay], _ => ⟨[now], now + delay.timerNanos⟩
  | delay :: next :: delays, pauses =>
    let pause := (pauses.head?.map Duration.timerNanos).getD 0
    let later := Timeline.layOut (now + delay.timerNanos + pause) (next :: delays) pauses.tail
    ⟨now :: later.starts, later.finish⟩

/-- Lay out the attempts of a call. -/
def Timeline.ofWaits (delays pauses : List Duration) : Timeline :=
  Timeline.layOut 0 delays pauses

end RemainderService
