import RemainderService.Proofs.Request.OneStatus

/-!
# The text of a refusal

A request to an operation is refused with a status, and the status has a text. The text travels in a
header, where it has to be escaped: it may quote the encoding that a client has named, and so any
text at all.

**Which statuses there are** (`OperationSet.Refuses`) is said in terms of what the client sent. None
is a success and none is without a text, so every one of them is answered with a header that has its
text (`value_of_refuses`), and no other response has such a header (`refuses_or_no_text`).

**The law** (`texts_survive_headers`). Header values carry texts, whatever the texts are; the values
in the responses are the escaped texts of the statuses, and the client reads the statuses back.
-/

set_option autoImplicit false

namespace RemainderService

/-! ## Responses without a text -/

namespace Response

/-- A response with a value has no text. -/
theorem not_mem_ofNumber (number : Number) (value : String) :
    ("grpc-message", value) ∉ (ofNumber number).headers ++ (ofNumber number).trailers := by
  simp [ofNumber, contentType, statusEntry]

/-- A response to a path that leads nowhere has no text. -/
theorem not_mem_nowhere (verb value : String) :
    ("grpc-message", value) ∉ (nowhere verb).headers ++ (nowhere verb).trailers := by
  by_cases tunnel : verb = "CONNECT"
  · simp [nowhere, contentType, statusEntry, tunnel]
  · simp [nowhere, contentType, statusEntry, tunnel]

end Response

/-! ## Refusals -/

/-- No decoding error is without a text. -/
theorem Wire.DecodeError.message_ne_empty (error : DecodeError) : error.message ≠ "" := by
  unfold message
  intro empty
  rw [String.append_assoc, String.append_eq_empty_iff] at empty
  exact absurd empty.1 (by decide)

/-- No fault of a frame is without a text. -/
theorem Wire.FrameFault.message_ne_empty (fault : FrameFault) : fault.status.message ≠ "" := by
  cases fault <;> simp [status]

/-- No fault of a body is without a text. -/
theorem RequestBody.message_ne_empty_of_firstFault {bytes : List UInt8} {status : Status}
    (fault : FirstFault bytes status) : status.message ≠ "" := by
  rcases fault with ⟨-, fault⟩ | _
  · cases fault with
    | unreadable => exact Wire.DecodeError.message_ne_empty _
    | compressed | invalidFlag | tooLong | shortHeader | shortPayload =>
      exact Wire.FrameFault.message_ne_empty _
  · decide

namespace OperationSet

/-- **A request to an operation is refused with this status**: the encoding of its body is not
understood, the body has a first fault, or the set answers the operation with an error. -/
inductive Refuses (set : OperationSet) (request : Request) : Status → Prop
  | encoding {operation : Operation} {encoding : String} (leads : request.path = operation.path)
      (named : request.header? "grpc-encoding" = some encoding) (foreign : encoding ≠ "identity") :
      Refuses set request (unsupportedEncoding encoding)
  | body {operation : Operation} {status : Status} (leads : request.path = operation.path)
      (plain : request.PlainlyEncoded)
      (fault : RequestBody.FirstFault request.chunks.flatten status) : Refuses set request status
  | operation {operation : Operation} {operands : Operands} {error : OperationError}
      (leads : request.path = operation.path) (plain : request.PlainlyEncoded)
      (clean : RequestBody.Clean request.chunks.flatten operands)
      (refused : (set.apply operation operands).value = .error error) :
      Refuses set request ⟨.unimplemented, error.message⟩

variable {set : OperationSet} {request : Request} {status : Status}

/-- No refusal is a success, and none is without a text. -/
theorem Refuses.failed (refused : set.Refuses request status) :
    status.code ≠ .ok ∧ status.message ≠ "" := by
  cases refused with
  | encoding leads named foreign => exact ⟨Code.noConfusion, by simp [unsupportedEncoding]⟩
  | body leads plain fault =>
    exact ⟨RequestBody.code_ne_ok_of_firstFault fault,
      RequestBody.message_ne_empty_of_firstFault fault⟩
  | operation leads plain clean refused =>
    exact ⟨Code.noConfusion, OperationError.message_ne_empty _⟩

/-- **A refusal is answered with its status**, and with no other status or text. -/
theorem value_of_refuses (refused : set.Refuses request status) :
    ∃ further, Response.Neutral further ∧
      (set.respond request).value = .ofStatus status further := by
  cases refused with
  | encoding leads named foreign =>
    have away := Request.invocation_of_turnedAway leads (.encoding named foreign)
    exact ⟨_, Response.neutral_encodings,
      congrArg Logged.value (Request.respond_of_invocation_error away set)⟩
  | body leads plain fault =>
    have away := Request.invocation_of_turnedAway leads (.body plain fault)
    exact ⟨_, Response.neutral_nil,
      congrArg Logged.value (Request.respond_of_invocation_error away set)⟩
  | operation leads plain clean refused =>
    have asked := Request.invocation_of_clean leads plain clean
    have answered := (Request.evaluates_iff_invocation _).mpr asked set
    rw [call_of_error refused] at answered
    exact ⟨_, Response.neutral_nil, congrArg Logged.value answered⟩

/-- **A request is refused, or there is no text** in its response. -/
theorem refuses_or_no_text (set : OperationSet) (request : Request) :
    (∃ status, set.Refuses request status) ∨
      ∀ value, ("grpc-message", value) ∉
        (set.respond request).value.headers ++ (set.respond request).value.trailers := by
  by_cases other : ∀ o : Operation, request.path ≠ o.path
  · refine .inr ?_
    intro value
    rcases Request.invocation_elsewhere other with away | away
    · rw [Request.respond_of_invocation_error away]
      intro mem
      exact ((Response.mem_ofStatus_iff Response.neutral_nil value).mp mem).1 rfl
    · rw [Request.respond_of_invocation_error away]
      exact Response.not_mem_nowhere _ value
  · obtain ⟨o, leads⟩ := not_forall_not.mp other
    rcases Request.plainlyEncoded_or_foreign request with plain | ⟨encoding, named, foreign⟩
    · rcases RequestBody.clean_or_firstFault request.chunks.flatten with
        ⟨operands, clean⟩ | ⟨status, fault⟩
      · cases answer : (set.apply o operands).value with
        | error error => exact .inl ⟨_, .operation leads plain clean answer⟩
        | ok result =>
          have asked := Request.invocation_of_clean leads plain clean
          rw [(Request.evaluates_iff_invocation operands).mpr asked set, call_of_ok answer]
          exact .inr (Response.not_mem_ofNumber _)
      · exact .inl ⟨status, .body leads plain fault⟩
    · exact .inl ⟨_, .encoding leads named foreign⟩

/-- A text in a response is the escaped text of a refusal, and the text of every refusal is there. -/
theorem mem_respond_iff (set : OperationSet) (request : Request) (value : String) :
    let response := (set.respond request).value
    ("grpc-message", value) ∈ response.headers ++ response.trailers ↔
      ∃ status, set.Refuses request status ∧ value = Percent.escape status.message := by
  constructor
  · intro mem
    rcases set.refuses_or_no_text request with ⟨status, refused⟩ | nothing
    · obtain ⟨further, neutral, answered⟩ := value_of_refuses refused
      rw [answered] at mem
      exact ⟨status, refused, ((Response.mem_ofStatus_iff neutral value).mp mem).2⟩
    · exact absurd mem (nothing value)
  · rintro ⟨status, refused, same⟩
    obtain ⟨further, neutral, answered⟩ := value_of_refuses refused
    rw [answered]
    exact (Response.mem_ofStatus_iff neutral value).mpr ⟨refused.failed.2, same⟩

/-- The client reads the status of a refusal. -/
theorem outcome_of_refuses (refused : set.Refuses request status) :
    (set.respond request).value.outcome = .error status := by
  obtain ⟨further, neutral, answered⟩ := value_of_refuses refused
  obtain ⟨failed, text⟩ := refused.failed
  rw [answered]
  exact Response.outcome_ofStatus neutral failed text

/-! ## The law -/

/-- **Texts survive the headers.**

1. The escaped form of any text carries it: it consists of visible letters, behind every percent
   sign stand two digits, and it is read as the bytes of the text.
2. Different texts have different escaped forms.
3. The texts among the headers and trailers of a response are the escaped texts of the statuses with
   which the request is refused.
4. The client reads a status with which a request is refused as it was. -/
theorem texts_survive_headers :
    (∀ text : String, Percent.Carries (Percent.escape text) text) ∧
    (∀ text other : String, Percent.escape text = Percent.escape other → text = other) ∧
    (∀ (set : OperationSet) (request : Request) (value : String),
      let response := (set.respond request).value
      ("grpc-message", value) ∈ response.headers ++ response.trailers ↔
        ∃ status, set.Refuses request status ∧ value = Percent.escape status.message) ∧
    (∀ (set : OperationSet) (request : Request) (status : Status),
      set.Refuses request status → (set.respond request).value.outcome = .error status) := by
  refine ⟨Percent.carries_escape, ?_, mem_respond_iff, ?_⟩
  · intro text other same
    exact Percent.escape_injective same
  · intro set request status refused
    exact outcome_of_refuses refused

/-- The encoding that a client names looks escaped, and it is quoted as it is: its percent sign is
escaped, and so are its blank and its letter of two bytes. Without the percent sign escaped it would
be taken for another text. -/
theorem quotes_encoding_that_looks_escaped :
    let request : Request :=
      ⟨"/calculator.Calculator/Add", "POST", [("Grpc-Encoding", "%41 ü")], [[1]]⟩
    let text := "Content is compressed with `%41 ü` which isn't supported"
    let value :=
      "Content%20is%20compressed%20with%20%60%2541%20%C3%BC%60%20which%20isn't%20supported"
    Percent.Carries value text ∧
      value ≠ Percent.escape "Content is compressed with `A ü` which isn't supported" ∧
      ("grpc-message", value) ∈
        (modulus.respond request).value.headers ++ (modulus.respond request).value.trailers ∧
      modulus.Refuses request ⟨.unimplemented, text⟩ ∧
      (modulus.respond request).value.outcome = .error ⟨.unimplemented, text⟩ := by
  intro request text value
  obtain ⟨carries, apart, texts, outcomes⟩ := texts_survive_headers
  have escaped : Percent.escape text = value := by decide +kernel
  have leads : request.path = Operation.add.path := by decide
  have named : request.header? "grpc-encoding" = some "%41 ü" := by
    decide +kernel
  have refused : modulus.Refuses request ⟨.unimplemented, text⟩ :=
    .encoding leads named (by decide)
  have present := (texts modulus request value).mpr ⟨_, refused, escaped.symm⟩
  refine ⟨?_, ?_, present, refused, outcomes modulus request _ refused⟩
  · rw [← escaped]
    exact carries text
  · rw [← escaped]
    intro same
    exact absurd (apart _ _ same) (by decide)

end OperationSet

end RemainderService
