import RemainderService.Retry
import RemainderService.Timeline

/-!
# Replies laid out in advance

A script is the list of the replies that a server will give, one per attempt, each after a delay.
Calls made one after the other share a script: every call starts where the one before it stopped,
so no reply is skipped and none is used twice. Where the script has ended, the server answers at
once with a value fixed beforehand.
-/

set_option autoImplicit false

namespace RemainderService

/-- What a server answers to one attempt, and how long it takes. -/
structure Reply (α : Type) where
  outcome : Except Status α
  delay : Duration

/-- The reply to an attempt: the one whose turn it is, or the value that is kept for afterwards. -/
def Reply.nth {α : Type} (script : List (Reply α)) (beyond : α) (attempt : Nat) : Reply α :=
  (script[attempt - 1]?).getD ⟨.ok beyond, .zero⟩

/-- A call and the times of its attempts. -/
structure TimedCall (ρ α : Type) where
  run : CallRun ρ α
  timeline : Timeline

/-- Make a call that a script answers. -/
def RetryPolicy.callScripted {ρ α : Type} (policy : RetryPolicy) (op : String) (request : ρ)
    (script : List (Reply α)) (beyond : α) : TimedCall ρ α :=
  let run := policy.call op request fun attempt _ => (Reply.nth script beyond attempt).outcome
  let delays := (List.range run.attempts).map fun i => (Reply.nth script beyond (i + 1)).delay
  ⟨run, .ofWaits delays run.backoffs⟩

/-- Several calls in order, and the replies that none of them used. -/
structure ScriptedCalls (ρ α : Type) where
  calls : List (TimedCall ρ α)
  unused : List (Reply α)

/-- Make several calls, each under its name, fed from one script. -/
def RetryPolicy.callAll {ρ α : Type} (policy : RetryPolicy) (script : List (Reply α))
    (beyond : α) : List (String × ρ) → ScriptedCalls ρ α
  | [] => ⟨[], script⟩
  | (op, request) :: later =>
    let call := policy.callScripted op request script beyond
    let rest := policy.callAll (script.drop call.run.attempts) beyond later
    ⟨call :: rest.calls, rest.unused⟩

end RemainderService
