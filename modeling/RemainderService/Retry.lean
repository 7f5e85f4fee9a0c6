import RemainderService.Event

/-!
# Calls that are tried again

A call is repeated while it fails with a transient status and the policy allows a further attempt.
Attempts are numbered from 1. Attempt `n` is followed by a pause of `n` times the base, capped; the
product is taken before the cap, and a product that is no span of time ends the call with a crash.
The attempt number has 32 bits, and running out of numbers is the other crash.

**Overflow is checked.** The number is counted up in a build with overflow checks, where one more
than the greatest number is a crash. A build without them would go on from 0; that one is not
described here. The product for a pause is checked in every build.

**A run is data.** It holds the request of each attempt, the pauses between them, the log and the
ending, so what a call did can be compared with any other account of it. The server is a function
of the attempt number and the request: nothing is assumed about how its answers are related.
-/

set_option autoImplicit false

namespace RemainderService

/-- The pause before a further attempt, and how many attempts may follow the first. -/
structure RetryPolicy where
  maxRetries : UInt32
  base : Duration
  cap : Duration
deriving DecidableEq, Repr

namespace RetryPolicy

/-- Three further attempts, with pauses that grow by 100 milliseconds up to two seconds. -/
def standard : RetryPolicy := ⟨3, .ofMillis 100, .ofMillis 2000⟩

/-- The pause that follows an attempt, if the product with the base is a span of time. -/
def backoff? (policy : RetryPolicy) (attempt : Nat) : Option Duration :=
  (policy.base.scale? attempt).map fun product => product.min policy.cap

/-- The policy allows no attempt after this one. -/
def exhausted (policy : RetryPolicy) (attempt : Nat) : Bool :=
  decide (policy.maxRetries.toNat < attempt)

end RetryPolicy

/-- What ends a run without an outcome. The attempt number overflows into a crash where overflow is
checked. -/
inductive Crash
  | backoffOverflow
  | attemptOverflow
deriving DecidableEq, Repr

/-- The wording of a crash. -/
def Crash.message : Crash → String
  | .backoffOverflow => "overflow when multiplying duration by scalar"
  | .attemptOverflow => "attempt to add with overflow"

/-- How a run of attempts ends. -/
inductive Ending (ε α : Type)
  | answered (value : α)
  | failed (error : ε)
  | crashed (crash : Crash)
deriving DecidableEq, Repr

/-- Everything that a call did. -/
structure CallRun (ρ α : Type) where
  sent : List ρ
  backoffs : List Duration
  log : List Event
  ending : Ending Status α

namespace CallRun

variable {ρ α : Type}

/-- The number of attempts. -/
def attempts (run : CallRun ρ α) : Nat := run.sent.length

/-- A run that ends with its first attempt. -/
def only (request : ρ) (log : List Event) (ending : Ending Status α) : CallRun ρ α :=
  ⟨[request], [], log, ending⟩

/-- The run that goes on after an attempt and a pause. -/
def after (request : ρ) (pause : Duration) (log : List Event) (later : CallRun ρ α) :
    CallRun ρ α :=
  ⟨request :: later.sent, pause :: later.backoffs, log ++ later.log, later.ending⟩

end CallRun

namespace RetryPolicy

variable {ρ α : Type}

/-- The attempts of a call from this number on, while there are numbers left. Without numbers, the
checked addition that would make the next one crashes. -/
def callFrom (policy : RetryPolicy) (op : String) (request : ρ)
    (respond : Nat → ρ → Except Status α) (attempt : Nat) : Nat → CallRun ρ α
  | 0 => ⟨[], [], [], .crashed .attemptOverflow⟩
  | numbers + 1 =>
    match respond attempt request with
    | .ok value =>
      .only request
        (.callOpened op attempt :: if 1 < attempt then [.callRecovered op attempt] else [])
        (.answered value)
    | .error status =>
      if !status.code.retryable || policy.exhausted attempt then
        .only request [.callOpened op attempt, .callFailed op attempt status] (.failed status)
      else
        match policy.backoff? attempt with
        | none => .only request [.callOpened op attempt] (.crashed .backoffOverflow)
        | some pause =>
          .after request pause
            [.callOpened op attempt, .callRetrying op attempt status.code pause]
            (policy.callFrom op request respond (attempt + 1) numbers)

/-- Numbers for attempts: those from 1 that fit into 32 bits. -/
def attemptNumbers : Nat := 4294967295

/-- Make a call, under a name for the log. Every attempt sends the same request. -/
def call (policy : RetryPolicy) (op : String) (request : ρ)
    (respond : Nat → ρ → Except Status α) : CallRun ρ α :=
  policy.callFrom op request respond 1 attemptNumbers

end RetryPolicy

end RemainderService
