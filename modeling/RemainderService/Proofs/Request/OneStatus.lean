import RemainderService.Exchange
import RemainderService.Proofs.Entry
import RemainderService.Proofs.Percent
import RemainderService.Proofs.Request.Answer

/-!
# One name and one status

One name stands in three places: in the path of a request, in the text of a refusal, and in the log.
The tables that lead from one to the next agree on it (`Method.Aligned`). The status of a call
stands in one place.

**One status** (`Response.Ends`). Every response ends the call with one code, whatever the request
and whatever the operation set: behind a body of one frame if the call succeeded, and in front of an
empty body if it did not. The responses are written in three ways (`ends_ofNumber`, `ends_ofStatus`,
`ends_nowhere`), and no fault of a request has the code of a success (`code_ne_ok_of_firstFault`).
The text of a status travels escaped, and the client reads the status as it was written
(`outcome_ofStatus`).

**One name** (`requests_meet_operation_of_their_path`). The operation that is called is the one
whose name is the last part of the path, and if the service refuses it, the text and the log have
that name.
-/

set_option autoImplicit false

namespace RemainderService

/-! ## One status -/

namespace Response

/-- The value of an entry, if it is a status. -/
def status? (entry : String × String) : Option String :=
  if "grpc-status" == entry.1 then some entry.2 else none

/-- The values of all statuses, among the headers and behind the body. -/
def statuses (response : Response) : List String :=
  (response.headers ++ response.trailers).filterMap status?

/-- **The response ends the call with this code.** The transport has succeeded, and there is one
status. It stands behind a body of one frame if it is a success, and among the headers otherwise:
then there is nothing behind them. -/
structure Ends (response : Response) (code : Code) : Prop where
  transport : response.transportStatus = 200
  once : response.statuses = [toString code.number]
  success : code = .ok → response.trailers = [statusEntry .ok] ∧
    ∃ payload, response.body = Wire.Frame.write payload ∧
      Wire.FrameReader.start.feed response.body = ⟨[], none, [payload], none⟩
  failure : code ≠ .ok → statusEntry code ∈ response.headers ∧ response.trailers = [] ∧
    response.body = []

/-- The client reads the first status. -/
theorem first_status (response : Response) :
    response.entry? "grpc-status" = response.statuses.head? := by
  unfold entry?
  rw [statuses, List.head?_filterMap, List.lookup_eq_findSome?]
  rfl

/-- **The client reads the code that ends the call**, so there is one such code at most. -/
theorem Ends.code_eq {response : Response} {code : Code} (ends : response.Ends code) :
    response.code = code := by
  rw [Response.code, first_status, ends.once, List.head?_cons]
  cases code <;> decide

/-- A value ends the call with a success. -/
theorem ends_ofNumber (number : Number) : (ofNumber number).Ends .ok where
  transport := rfl
  once := rfl
  success _ := ⟨rfl, _, rfl, (body_ofNumber number).1⟩
  failure failed := absurd rfl failed

/-- A status ends the call with its code, if it is no success and no further header is a status. -/
theorem ends_ofStatus {status : Status} {further : List (String × String)}
    (failed : status.code ≠ .ok) (others : further.filterMap status? = []) :
    (ofStatus status further).Ends status.code where
  transport := rfl
  once := by
    have text : (messageEntry status.message).filterMap status? = [] := by
      rw [messageEntry]
      split <;> rfl
    simp only [statuses, ofStatus, List.append_nil, List.cons_append, List.filterMap_cons,
      List.filterMap_append, others, text, List.nil_append, List.filterMap_nil]
    rfl
  success succeeded := absurd succeeded failed
  failure _ := ⟨List.mem_append_right _ (List.mem_singleton_self _), rfl, rfl⟩

/-- The response to a path without the service in front ends the call, too. -/
theorem ends_nowhere (verb : String) : (nowhere verb).Ends .unimplemented where
  transport := rfl
  once := by
    rw [statuses, nowhere]
    split <;> decide
  success succeeded := absurd succeeded (by decide)
  failure _ := ⟨List.mem_append_right _ (.tail _ (.head _)), rfl, rfl⟩

/-! ## The text of a status -/

/-- Headers that are neither a status nor a text. -/
def Neutral (further : List (String × String)) : Prop :=
  further.filterMap status? = [] ∧ ∀ value, ("grpc-message", value) ∉ further

/-- Where there are no further headers, they are neutral. -/
theorem neutral_nil : Neutral [] :=
  ⟨rfl, fun _ => List.not_mem_nil⟩

/-- The header that names the encodings is neutral. -/
theorem neutral_encodings : Neutral [("grpc-accept-encoding", "identity")] := by
  refine ⟨rfl, ?_⟩
  intro value mem
  simp at mem

variable {status : Status} {further : List (String × String)}

/-- **The one text** of a response with a status is that of the status. -/
theorem mem_ofStatus_iff (neutral : Neutral further) (value : String) :
    let response := ofStatus status further
    ("grpc-message", value) ∈ response.headers ++ response.trailers ↔
      status.message ≠ "" ∧ value = Percent.escape status.message := by
  have others := neutral.2 value
  by_cases empty : status.message = ""
  · simp [ofStatus, messageEntry, contentType, statusEntry, others, empty]
  · simp [ofStatus, messageEntry, contentType, statusEntry, others, empty]

/-- The client finds the text of a status. -/
theorem entry_ofStatus (neutral : Neutral further) (text : status.message ≠ "") :
    Response.entry? (ofStatus status further) "grpc-message" =
      some (Percent.escape status.message) := by
  have others : further.lookup "grpc-message" = none := by
    rw [List.lookup_eq_none_iff]
    rintro ⟨name, value⟩ mem
    refine bne_iff_ne.mpr ?_
    rintro rfl
    exact neutral.2 value mem
  unfold entry?
  simp [ofStatus, messageEntry, text, contentType, statusEntry, List.lookup_append,
    List.lookup_cons, others]

/-- **The client reads a status** as it was written. -/
theorem outcome_ofStatus (neutral : Neutral further) (failed : status.code ≠ .ok)
    (text : status.message ≠ "") : (ofStatus status further).outcome = .error status := by
  have code : (ofStatus status further).code = status.code :=
    (ends_ofStatus failed neutral.1).code_eq
  have message : (ofStatus status further).message = status.message := by
    rw [Response.message, entry_ofStatus neutral text]
    simp only [Percent.unescape?_escape, Percent.fromUTF8?_textBytes, Option.getD_some]
  rw [outcome, if_pos (by rwa [code]), code, message]

end Response

/-- No fault of a body has the code of a success. -/
theorem RequestBody.code_ne_ok_of_firstFault {bytes : List UInt8} {status : Status}
    (fault : FirstFault bytes status) : status.code ≠ .ok := by
  rcases fault with ⟨-, fault⟩ | _
  · cases fault <;> exact Code.noConfusion
  · decide

/-- A call has a result, or it ends as unimplemented. -/
theorem OperationSet.call_cases (set : OperationSet) (operation : Operation)
    (operands : Operands) :
    (∃ result, (set.call operation operands).value = .ok result) ∨
      ∃ message, (set.call operation operands).value = .error ⟨.unimplemented, message⟩ := by
  cases answer : (set.apply operation operands).value with
  | ok result => exact .inl ⟨_, call_of_ok answer⟩
  | error error => exact .inr ⟨_, call_of_error answer⟩

/-! ## One name -/

/-- The part of a path behind its last slash. -/
def lastSegment (path : String) : String :=
  String.ofList (path.toList.reverse.takeWhile (· != '/')).reverse

/-- The last part of an operation's path is its name. -/
theorem Operation.lastSegment_path (operation : Operation) :
    lastSegment operation.path = operation.name := by
  cases operation <;> decide

/-- No error is without a text. -/
theorem OperationError.message_ne_empty (error : OperationError) : error.message ≠ "" := by
  cases error
  simp [message]

/-- The client reads a refusal as it was written. -/
theorem Response.outcome_refusal (error : OperationError) :
    (ofStatus ⟨.unimplemented, error.message⟩ []).outcome =
      .error ⟨.unimplemented, error.message⟩ :=
  outcome_ofStatus neutral_nil Code.noConfusion error.message_ne_empty

namespace Request

variable {request : Request} {operation : Operation}

/-- What turns a request away ends the call. -/
theorem TurnedAway.ends {response : Response} (away : request.TurnedAway response) :
    ∃ code, response.Ends code := by
  rcases away with ⟨-, -⟩ | ⟨-, fault⟩
  · exact ⟨.unimplemented, Response.ends_ofStatus Code.noConfusion rfl⟩
  · exact ⟨_, Response.ends_ofStatus (RequestBody.code_ne_ok_of_firstFault fault) rfl⟩

/-- A path that is no operation's leads to no call. -/
theorem invocation_elsewhere (other : ∀ o : Operation, request.path ≠ o.path) :
    request.invocation = .error .unknownMethod ∨
      request.invocation = .error (.nowhere request.verb) := by
  rcases Destination.ofPath_of_other other with leads | leads
  · refine .inl ?_
    simp only [invocation, leads]
  · refine .inr ?_
    simp only [invocation, leads]

/-- The response to a path that is no operation's ends as unimplemented. -/
theorem invocation_of_other_path (other : ∀ o : Operation, request.path ≠ o.path) :
    ∃ response, request.invocation = .error response ∧ response.Ends .unimplemented := by
  rcases invocation_elsewhere other with away | away
  · exact ⟨_, away, Response.ends_ofStatus Code.noConfusion rfl⟩
  · exact ⟨_, away, Response.ends_nowhere _⟩

/-- **The operation that is called** is read off the path, and its operands off the body. -/
theorem evaluates_iff (operands : Operands) :
    request.Evaluates operation operands ↔
      request.path = operation.path ∧ request.PlainlyEncoded ∧
        RequestBody.Clean request.chunks.flatten operands := by
  rw [evaluates_iff_invocation]
  constructor
  · intro asked
    by_cases other : ∀ o : Operation, request.path ≠ o.path
    · obtain ⟨response, away, -⟩ := invocation_of_other_path other
      rw [away] at asked
      cases asked
    · obtain ⟨o, leads⟩ := not_forall_not.mp other
      rcases clean_or_turnedAway request with ⟨plain, found, clean⟩ | ⟨response, away⟩
      · rw [invocation_of_clean leads plain clean] at asked
        cases asked
        exact ⟨leads, plain, clean⟩
      · rw [invocation_of_turnedAway leads away] at asked
        cases asked
  · rintro ⟨leads, plain, clean⟩
    exact invocation_of_clean leads plain clean

/-- **Every response ends its call**, whatever the operation set. -/
theorem exists_ends (request : Request) (set : OperationSet) :
    ∃ code, (set.respond request).value.Ends code := by
  by_cases other : ∀ o : Operation, request.path ≠ o.path
  · obtain ⟨response, away, ends⟩ := invocation_of_other_path other
    rw [respond_of_invocation_error away]
    exact ⟨_, ends⟩
  · obtain ⟨o, leads⟩ := not_forall_not.mp other
    rcases clean_or_turnedAway request with ⟨plain, operands, clean⟩ | ⟨response, away⟩
    · have asked := invocation_of_clean leads plain clean
      rw [(evaluates_iff_invocation operands).mpr asked set]
      rcases set.call_cases o operands with ⟨result, value⟩ | ⟨message, value⟩
      · rw [value]
        exact ⟨_, Response.ends_ofNumber _⟩
      · rw [value]
        exact ⟨_, Response.ends_ofStatus Code.noConfusion rfl⟩
    · rw [respond_of_invocation_error (invocation_of_turnedAway leads away)]
      exact away.ends

/-! ## The law -/

/-- **A request meets the operation that its path names, and gets one status.**

1. The tables of the interface agree: every operation stands behind one method, and the route, the
   name and the error of a method are those of its operation.
2. An operation is called on some operands just if the path is the service and the operation's name,
   the first header that names an encoding does not forbid to read the body, and the body is clean
   and begins with these operands.
3. Any other path ends the call as unimplemented and leaves no entry in the log.
4. If an operation is called, the last part of the path is its name. The service ends the call with
   a success just if it is the remainder. Otherwise it ends it as unimplemented, with a text that
   has the last part of the path in it, which the client reads as it was written; the log has one
   entry, which names the same operation and has the same text.
5. Whatever the operation set, there is one code with which the response ends the call. -/
theorem requests_meet_operation_of_their_path (request : Request) :
    ((∀ o : Operation, ∃! method : Method, method.operation = o) ∧
      ∀ method : Method, method.Aligned) ∧
    (∀ (o : Operation) (operands : Operands), request.Evaluates o operands ↔
      request.path = "/calculator.Calculator/" ++ o.name ∧ request.PlainlyEncoded ∧
        RequestBody.Clean request.chunks.flatten operands) ∧
    ((∀ o : Operation, request.path ≠ "/calculator.Calculator/" ++ o.name) →
      ∃ response : Response, response.Ends .unimplemented ∧
        ∀ set : OperationSet, set.respond request = ⟨response, []⟩) ∧
    (∀ (o : Operation) (operands : Operands), request.Evaluates o operands →
      lastSegment request.path = o.name ∧
      ((OperationSet.modulus.respond request).value.Ends .ok ↔ o = .modulus) ∧
      (o ≠ .modulus →
        let text := "method " ++ lastSegment request.path ++ " not implemented"
        let response := Response.ofStatus ⟨.unimplemented, text⟩ []
        let entry := Event.rejected o (.unimplemented o)
        OperationSet.modulus.respond request = ⟨response, [entry]⟩ ∧
        response.Ends .unimplemented ∧
        response.outcome = .error ⟨.unimplemented, text⟩ ∧
        entry.shown = ⟨.debug, .message "rejecting calculator call",
          [("operation", .plain (lastSegment request.path)), ("error", .plain text)]⟩)) ∧
    (∀ set : OperationSet, ∃! code : Code, (set.respond request).value.Ends code) := by
  refine ⟨⟨Method.existsUnique_operation, Method.aligned⟩,
    fun o operands => evaluates_iff operands, ?_, ?_, ?_⟩
  · intro other
    obtain ⟨response, away, ends⟩ := invocation_of_other_path other
    exact ⟨response, ends, respond_of_invocation_error away⟩
  · intro o operands evaluates
    have answered := evaluates .modulus
    obtain ⟨leads, -⟩ := (evaluates_iff operands).mp evaluates
    have segment : lastSegment request.path = o.name := by rw [leads, o.lastSegment_path]
    let error := OperationError.unimplemented o
    have refused : (Response.ofStatus ⟨.unimplemented, error.message⟩ []).Ends .unimplemented :=
      Response.ends_ofStatus Code.noConfusion rfl
    refine ⟨segment, ?_, ?_⟩
    · rw [answered]
      constructor
      · intro success
        by_contra other
        rw [OperationSet.call_of_missing (OperationSet.apply_of_ne_modulus other)] at success
        exact Code.noConfusion (success.code_eq.symm.trans refused.code_eq)
      · rintro rfl
        exact Response.ends_ofNumber _
    · intro other
      rw [OperationSet.call_of_missing (OperationSet.apply_of_ne_modulus other)] at answered
      rw [segment]
      exact ⟨answered, refused, Response.outcome_refusal error, rfl⟩
  · intro set
    obtain ⟨code, ends⟩ := request.exists_ends set
    exact ⟨code, ends, fun other same => same.code_eq.symm.trans ends.code_eq⟩

/-- A lower-case letter leads nowhere, and the name of a division to its refusal, with the empty
message as a pair of zeros. -/
theorem refuses_division_by_name :
    let near : Request := ⟨"/calculator.Calculator/divide", "POST", [], [[0, 0, 0, 0, 0]]⟩
    let request : Request := ⟨"/calculator.Calculator/Divide?now", "GET", [], [[0, 0], [0, 0, 0]]⟩
    (∀ o : Operation, near.path ≠ "/calculator.Calculator/" ++ o.name) ∧
      (∃ response : Response, response.Ends .unimplemented ∧
        OperationSet.modulus.respond near = ⟨response, []⟩) ∧
      request.Evaluates .divide ⟨.zero, .zero⟩ ∧
      ¬ (OperationSet.modulus.respond request).value.Ends .ok ∧
      OperationSet.modulus.respond request =
        ⟨.ofStatus ⟨.unimplemented, "method Divide not implemented"⟩ [],
          [.rejected .divide (.unimplemented .divide)]⟩ := by
  intro near request
  have other : ∀ o : Operation, near.path ≠ "/calculator.Calculator/" ++ o.name := by
    intro o
    cases o <;> decide
  have decoded : Operands.decode [] = .ok ⟨.zero, .zero⟩ :=
    Operands.decode_encode ⟨.zero, .zero⟩
  have readable : ∀ payload ∈ [[]], RequestBody.Readable payload := by
    intro payload mem
    rw [List.mem_singleton.mp mem]
    exact ⟨by decide, _, decoded⟩
  have clean := RequestBody.Clean.intro readable .nothing decoded
  obtain ⟨-, -, turned, -⟩ := requests_meet_operation_of_their_path near
  obtain ⟨-, called, -, met, -⟩ := requests_meet_operation_of_their_path request
  have evaluates := (called .divide ⟨.zero, .zero⟩).mpr ⟨by decide, .inl rfl, clean⟩
  obtain ⟨segment, success, refused⟩ := met _ _ evaluates
  obtain ⟨response, ends, responds⟩ := turned other
  obtain ⟨answered, -⟩ := refused (by decide)
  rw [segment] at answered
  have failed : ¬ (OperationSet.modulus.respond request).value.Ends .ok :=
    fun ends => absurd (success.mp ends) (by decide)
  exact ⟨other, ⟨response, ends, responds _⟩, evaluates, failed, answered⟩

end Request

end RemainderService
