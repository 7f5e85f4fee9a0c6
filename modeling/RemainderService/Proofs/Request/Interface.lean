import Mathlib.Logic.ExistsUnique
import RemainderService.Route

/-!
# The tables of the interface

Between the path of a request and the text of a refusal stand five tables: the methods of the schema
with their names, the operation behind each method, the name of each operation, the evaluation that
a backend has for it, and the error with which a missing evaluation is filled in. Each is written by
hand, and none is computed from another.

**They agree** (`Method.Aligned`). The route, the text and the error of a method are those of its
operation, and every operation stands behind one method (`Method.existsUnique_operation`). Whatever
is said later about names and operations rests on these lemmas, which look into the tables so that
nothing else has to.
-/

set_option autoImplicit false

namespace RemainderService

/-! ## Names and routes -/

namespace Method

/-- A method and its operation have one name. -/
theorem name_operation (method : Method) : method.operation.name = method.name := by
  cases method <;> rfl

/-- So the name of the operation makes the path of the method. -/
theorem path_operation (method : Method) : method.operation.path = method.path := by
  rw [Operation.path, name_operation, path]

/-- Different methods have different operations. -/
theorem operation_injective {method other : Method}
    (same : method.operation = other.operation) : method = other := by
  cases method <;> cases other <;> first | rfl | cases same

/-- **Every operation stands behind one method.** -/
theorem existsUnique_operation (operation : Operation) :
    ∃! method : Method, method.operation = operation := by
  have behind : ∃ method : Method, method.operation = operation := by
    cases operation with
    | add => exact ⟨.add, rfl⟩
    | subtract => exact ⟨.subtract, rfl⟩
    | multiply => exact ⟨.multiply, rfl⟩
    | divide => exact ⟨.divide, rfl⟩
    | modulus => exact ⟨.modulus, rfl⟩
    | exponentiate => exact ⟨.exponentiate, rfl⟩
  obtain ⟨method, rfl⟩ := behind
  exact ⟨method, rfl, fun other same => operation_injective same⟩

end Method

namespace Destination

/-- **A path leads to a method** just if it is the path of that method. -/
theorem ofPath_eq_method_iff (path : String) (method : Method) :
    ofPath path = .method method ↔ path = method.path := by
  constructor
  · intro leads
    rw [ofPath] at leads
    cases search : Method.all.find? fun m => m.path == path with
    | none =>
      rw [search] at leads
      dsimp only at leads
      split at leads <;> cases leads
    | some found =>
      rw [search] at leads
      cases leads
      have named := List.find?_some search
      exact (beq_iff_eq.mp named).symm
  · rintro rfl
    cases method <;> rfl

/-- The path of an operation leads to the method that it stands behind. -/
theorem exists_method (operation : Operation) :
    ∃ method : Method, ofPath operation.path = .method method ∧ method.operation = operation := by
  obtain ⟨method, rfl, -⟩ := Method.existsUnique_operation operation
  exact ⟨method, (ofPath_eq_method_iff _ method).mpr method.path_operation, rfl⟩

/-- A path that no operation makes leads to no method. -/
theorem ofPath_of_other {path : String} (other : ∀ o : Operation, path ≠ o.path) :
    ofPath path = .unknownMethod ∨ ofPath path = .nowhere := by
  cases leads : ofPath path with
  | method method =>
    have named := (ofPath_eq_method_iff path method).mp leads
    exact absurd (named.trans method.path_operation.symm) (other method.operation)
  | unknownMethod => exact .inl rfl
  | nowhere => exact .inr rfl

end Destination

/-! ## Evaluations -/

/-- The status of an error says that the operation is unimplemented, in the wording of the error. -/
theorem OperationError.status_eq (error : OperationError) :
    error.status = ⟨.unimplemented, error.message⟩ := by
  cases error
  rfl

namespace OperationSet

/-- Where nothing is implemented, every operation is missing under its own name. -/
theorem apply_refusing (operation : Operation) :
    refusing.apply operation = .missing operation := by
  cases operation <;> rfl

/-- The service implements no operation but the remainder. -/
theorem apply_of_ne_modulus {operation : Operation} (other : operation ≠ .modulus) :
    modulus.apply operation = .missing operation := by
  cases operation with
  | modulus => exact absurd rfl other
  | _ => rfl

variable {set : OperationSet} {operation : Operation} {operands : Operands}

/-- An evaluation with a result answers the call. -/
theorem call_of_ok {result : Binary64}
    (answered : (set.apply operation operands).value = .ok result) :
    (set.call operation operands).value = .ok result := by
  simp only [call, answered]

/-- An evaluation with an error ends the call as unimplemented, with the wording of the error. -/
theorem call_of_error {error : OperationError}
    (refused : (set.apply operation operands).value = .error error) :
    (set.call operation operands).value = .error ⟨.unimplemented, error.message⟩ := by
  simp only [call, refused, error.status_eq]

/-- A call of a missing operation is refused, and the log has the refusal. -/
theorem call_of_missing (missing : set.apply operation = .missing operation) :
    set.call operation operands =
      ⟨.error ⟨.unimplemented, (OperationError.unimplemented operation).message⟩,
        [.rejected operation (.unimplemented operation)]⟩ := by
  unfold call
  rw [missing]
  rfl

end OperationSet

/-! ## The tables agree -/

/-- **The tables agree on a method.** -/
structure Method.Aligned (method : Method) : Prop where
  /-- The one path that leads to it is made by the name of the operation behind it. -/
  route : ∀ path : String, Destination.ofPath path = .method method ↔
    path = "/calculator.Calculator/" ++ method.operation.name
  /-- It goes by the name of that operation. -/
  named : method.name = method.operation.name
  /-- Where the operation is missing, the error is that of this operation. -/
  missing : ∀ operands : Operands, OperationSet.refusing.apply method.operation operands =
    ⟨.error (.unimplemented method.operation), []⟩
  /-- The error has the name in it. -/
  worded : (OperationError.unimplemented method.operation).message =
    "method " ++ method.name ++ " not implemented"

/-- The tables agree on every method. -/
theorem Method.aligned (method : Method) : method.Aligned where
  route path := by
    rw [Destination.ofPath_eq_method_iff, ← method.path_operation]
    rfl
  named := method.name_operation.symm
  missing operands := by rw [OperationSet.apply_refusing, Evaluation.missing]
  worded := by rw [OperationError.message, method.name_operation]

end RemainderService
