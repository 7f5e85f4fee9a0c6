import RemainderService.Operation

/-!
# The methods of the service

The schema declares a service with six methods, and each has a path of its own. Behind every method
stands an operation. Which one it is, is said method by method and not by the names, so that the two
go by the same name is a fact about these tables and has to be proved.
-/

set_option autoImplicit false

namespace RemainderService

/-- The full name of the service on the wire. -/
def serviceName : String := "calculator.Calculator"

/-- What stands in front of the name in a path. -/
def servicePath : String := "/" ++ serviceName ++ "/"

/-- The methods that the schema declares. -/
inductive Method
  | add
  | subtract
  | multiply
  | divide
  | modulus
  | exponentiate
deriving DecidableEq, Repr

namespace Method

/-- Every method, in the order of the schema. -/
def all : List Method :=
  [.add, .subtract, .multiply, .divide, .modulus, .exponentiate]

/-- The name of a method in the schema. -/
def name : Method → String
  | .add => "Add"
  | .subtract => "Subtract"
  | .multiply => "Multiply"
  | .divide => "Divide"
  | .modulus => "Modulus"
  | .exponentiate => "Exponentiate"

/-- The path of a method. -/
def path (method : Method) : String :=
  servicePath ++ method.name

/-- The operation that stands behind a method. -/
def operation : Method → Operation
  | .add => .add
  | .subtract => .subtract
  | .multiply => .multiply
  | .divide => .divide
  | .modulus => .modulus
  | .exponentiate => .exponentiate

end Method

/-- The path that the name of an operation makes. -/
def Operation.path (operation : Operation) : String :=
  servicePath ++ operation.name

end RemainderService
