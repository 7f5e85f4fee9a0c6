/-!
The six operations of the calculator, their names, and the error of an operation that is not
implemented.

An operation is named in the text of its error and in the log, and both read its name from
`Operation.name`. The path of a request has the name of a method in it, which is written down apart.
-/

set_option autoImplicit false

namespace RemainderService

/-- The operations of the calculator. -/
inductive Operation
  | add
  | subtract
  | multiply
  | divide
  | modulus
  | exponentiate
deriving DecidableEq, Repr

namespace Operation

/-- Every operation, in the order of the schema. -/
def all : List Operation :=
  [.add, .subtract, .multiply, .divide, .modulus, .exponentiate]

/-- The name of an operation. -/
def name : Operation → String
  | .add => "Add"
  | .subtract => "Subtract"
  | .multiply => "Multiply"
  | .divide => "Divide"
  | .modulus => "Modulus"
  | .exponentiate => "Exponentiate"

/-- The operation with this exact name. -/
def ofName? (text : String) : Option Operation :=
  all.find? (fun o => o.name == text)

end Operation

/-- Why an operation was not evaluated. -/
inductive OperationError
  | unimplemented (operation : Operation)
deriving DecidableEq, Repr

/-- The wording of an error. -/
def OperationError.message : OperationError → String
  | .unimplemented operation => "method " ++ operation.name ++ " not implemented"

end RemainderService
