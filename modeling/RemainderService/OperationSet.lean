import RemainderService.Event
import RemainderService.Remainder

/-!
# Operation sets

A backend has an evaluation for each operation. One that it does not give is filled in with the
error that names the operation it stands for, and `apply` finds the evaluation of an operation: that
the two agree on who stands for what is said by nothing else. The set that answers `Modulus` alone
is the service; a set that implements nothing and one that only adds stand beside it. `call` is what
a request meets: an error becomes a status and is logged, an answer passes unchanged.
-/

set_option autoImplicit false

namespace RemainderService

/-- The status for an error. -/
def OperationError.status : OperationError → Status
  | .unimplemented operation => ⟨.unimplemented, (unimplemented operation).message⟩

/-- What a backend does with the operands of an operation. -/
abbrev Evaluation := Operands → Logged (Except OperationError Binary64)

/-- The evaluation of an operation that a backend does not implement. It leaves no trace in the
log. -/
def Evaluation.missing (operation : Operation) : Evaluation :=
  fun _ => ⟨.error (.unimplemented operation), []⟩

/-- A backend: an evaluation for each operation. Where none is given, the operation is missing. -/
structure OperationSet where
  onAdd : Evaluation := .missing .add
  onSubtract : Evaluation := .missing .subtract
  onMultiply : Evaluation := .missing .multiply
  onDivide : Evaluation := .missing .divide
  onModulus : Evaluation := .missing .modulus
  onExponentiate : Evaluation := .missing .exponentiate

namespace OperationSet

/-- Evaluate an operation. -/
def apply (set : OperationSet) : Operation → Evaluation
  | .add => set.onAdd
  | .subtract => set.onSubtract
  | .multiply => set.onMultiply
  | .divide => set.onDivide
  | .modulus => set.onModulus
  | .exponentiate => set.onExponentiate

/-- Evaluate an operation for a remote caller: an error is logged and answered with its status. -/
def call (set : OperationSet) (operation : Operation) (operands : Operands) :
    Logged (Except Status Binary64) :=
  let answer := set.apply operation operands
  match answer.value with
  | .ok result => ⟨.ok result, answer.log⟩
  | .error error => ⟨.error error.status, answer.log ++ [.rejected operation error]⟩

/-! ## The sets -/

/-- The remainder of the truncated operands, as a double. A zero divisor is noted first. -/
def evaluateModulus (operands : Operands) : Logged Binary64 :=
  let a := operands.truncated.1
  let b := operands.truncated.2
  let r := remainder a b
  ⟨.ofInt64 r, (if b = 0 then [.zeroDivisor a] else []) ++ [.computed a b r]⟩

/-- The service: it implements the remainder and nothing else. -/
def modulus : OperationSet where
  onModulus operands :=
    let answer := evaluateModulus operands
    ⟨.ok answer.value, answer.log⟩

/-- The set that implements nothing. -/
def refusing : OperationSet where

/-- The set that only adds, in double arithmetic and without a trace in the log. -/
def adding : OperationSet where
  onAdd operands :=
    ⟨.ok ⟨(Float.ofBits operands.a.bits + Float.ofBits operands.b.bits).toBits⟩, []⟩

end OperationSet

end RemainderService
