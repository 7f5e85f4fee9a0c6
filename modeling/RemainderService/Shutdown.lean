import RemainderService.Event

/-!
# Stopping on a signal

A token stands for work that can be called off; calling it off reaches every token below it and no
other. A watcher waits for one signal, logs it, and then calls off its token. **Only what arrives
while it waits counts**: a signal that nobody waits for is lost, and one that arrives after the
first changes nothing.
-/

set_option autoImplicit false

namespace RemainderService

/-! ## Tokens -/

/-- A token, named by its place: a child has the place of its parent and one step more. -/
structure Token where
  place : List Nat
deriving DecidableEq, Repr

/-- The child of a token with this number. -/
def Token.child (token : Token) (number : Nat) : Token :=
  ⟨token.place ++ [number]⟩

/-- The token is the other one or stands above it. -/
def Token.above (token other : Token) : Bool :=
  token.place.isPrefixOf other.place

/-- The tokens that were called off by themselves. -/
structure Cancellations where
  tokens : List Token
deriving DecidableEq, Repr

namespace Cancellations

/-- Nothing is called off. -/
def none : Cancellations := ⟨[]⟩

/-- Call off a token. -/
def cancel (c : Cancellations) (token : Token) : Cancellations :=
  ⟨token :: c.tokens⟩

/-- The token was called off, by itself or by one above it. -/
def holds (c : Cancellations) (token : Token) : Bool :=
  c.tokens.any fun cancelled => cancelled.above token

end Cancellations

/-! ## Waiting -/

/-- The state of one wait: still waiting, or ended by a signal. -/
inductive Wait
  | open
  | ended (signal : Signal)
deriving DecidableEq, Repr

namespace Wait

/-- The signal that ended the wait. -/
def received? : Wait → Option Signal
  | .open => .none
  | .ended signal => some signal

/-- A signal arrives. The first one ends the wait and is logged. -/
def deliver (wait : Wait) (signal : Signal) : Logged Wait :=
  match wait with
  | .open => ⟨.ended signal, [.stopRequested signal]⟩
  | .ended first => ⟨.ended first, []⟩

end Wait

/-! ## A process that only waits -/

/-- A thing that is tried with a signal: wait for it, watch for it with a token, or let it arrive
while nobody waits. -/
inductive ShutdownStep
  | wait (signal : Signal)
  | watch (signal : Signal)
  | stray (signal : Signal)
deriving DecidableEq, Repr

/-- What was seen: the signals that a wait had received before and after the arrival, or which
tokens were called off before and after it, among them a child and one that has no part in it. -/
inductive ShutdownResult
  | waited (early received : Option Signal)
  | watched (before after child unrelated : Bool)
  | ignored
deriving DecidableEq, Repr

namespace ShutdownStep

/-- The token of a watcher. -/
def token : Token := ⟨[0]⟩

/-- A token beside it. -/
def unrelated : Token := ⟨[1]⟩

/-- Do one step. -/
def run : ShutdownStep → Logged ShutdownResult
  | .wait signal =>
    let begun := Wait.open
    let ended := begun.deliver signal
    ⟨.waited begun.received? ended.value.received?, ended.log⟩
  | .watch signal =>
    let before := Cancellations.none
    let ended := Wait.open.deliver signal
    let after := if ended.value.received?.isSome then before.cancel token else before
    ⟨.watched (before.holds token) (after.holds token) (after.holds (token.child 0))
      (after.holds unrelated), ended.log⟩
  | .stray _ => ⟨.ignored, []⟩

end ShutdownStep

end RemainderService
