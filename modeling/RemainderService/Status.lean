/-!
Outcomes of a call as status codes with a text.

There are seventeen codes, numbered from 0. A number outside that range stands for `unknown`, so
reading a number is total. Two codes are transient: the call that ended with them may be tried
again, all others are final.
-/

set_option autoImplicit false

namespace RemainderService

/-- The status codes, in the order of their numbers. -/
inductive Code
  | ok
  | cancelled
  | unknown
  | invalidArgument
  | deadlineExceeded
  | notFound
  | alreadyExists
  | permissionDenied
  | resourceExhausted
  | failedPrecondition
  | aborted
  | outOfRange
  | unimplemented
  | internal
  | unavailable
  | dataLoss
  | unauthenticated
deriving DecidableEq, Repr

namespace Code

/-- Every code, in the order of the numbers. -/
def all : List Code :=
  [.ok, .cancelled, .unknown, .invalidArgument, .deadlineExceeded, .notFound, .alreadyExists,
    .permissionDenied, .resourceExhausted, .failedPrecondition, .aborted, .outOfRange,
    .unimplemented, .internal, .unavailable, .dataLoss, .unauthenticated]

/-- The number of a code on the wire. -/
def number : Code → Nat
  | .ok => 0
  | .cancelled => 1
  | .unknown => 2
  | .invalidArgument => 3
  | .deadlineExceeded => 4
  | .notFound => 5
  | .alreadyExists => 6
  | .permissionDenied => 7
  | .resourceExhausted => 8
  | .failedPrecondition => 9
  | .aborted => 10
  | .outOfRange => 11
  | .unimplemented => 12
  | .internal => 13
  | .unavailable => 14
  | .dataLoss => 15
  | .unauthenticated => 16

/-- The code with this number; any other number is `unknown`. -/
def ofNumber (n : Int) : Code :=
  (all.find? (fun c => (c.number : Int) == n)).getD .unknown

/-- The name of a code as the log shows it. -/
def name : Code → String
  | .ok => "Ok"
  | .cancelled => "Cancelled"
  | .unknown => "Unknown"
  | .invalidArgument => "InvalidArgument"
  | .deadlineExceeded => "DeadlineExceeded"
  | .notFound => "NotFound"
  | .alreadyExists => "AlreadyExists"
  | .permissionDenied => "PermissionDenied"
  | .resourceExhausted => "ResourceExhausted"
  | .failedPrecondition => "FailedPrecondition"
  | .aborted => "Aborted"
  | .outOfRange => "OutOfRange"
  | .unimplemented => "Unimplemented"
  | .internal => "Internal"
  | .unavailable => "Unavailable"
  | .dataLoss => "DataLoss"
  | .unauthenticated => "Unauthenticated"

/-- A failure with this code is transient: the same call may be tried again. -/
def retryable : Code → Bool
  | .unavailable => true
  | .deadlineExceeded => true
  | _ => false

/-- The number of a code names that code again. -/
theorem ofNumber_number (c : Code) : ofNumber c.number = c := by
  cases c <;> decide

end Code

/-- How a call ended when it did not produce a value. -/
structure Status where
  code : Code
  message : String
deriving DecidableEq, Repr

end RemainderService
