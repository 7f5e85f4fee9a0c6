import RemainderService.Proofs.Request.Body
import RemainderService.Proofs.Request.Interface
import RemainderService.Proofs.Wire.ReadBack

/-!
# What is evaluated

A request that leads to an operation is either turned away or makes one call. Which of the two it
is, and on which operands the call is made, is said here in terms of what the client sent: its first
header that names an encoding, and the bytes of its body.

**A call that is made** (`Request.Evaluates`) is a statement about all operation sets: whatever the
set does for the operation, and whatever it logs, the response and the log are those of one call. So
a set that records its calls (`OperationSet.recording`) tells how often it was called, for what, and
on what.

**The law** (`evaluates_clean_streams_only`). The call is made just if the whole stream is clean,
and then on the first message. Otherwise no operation set leaves a trace in the log, and the response
is the status of the first fault. Nothing else in the request has a say.
-/

set_option autoImplicit false

namespace RemainderService

/-- The evaluation that notes which operation it stands for and on what it was called. -/
def Evaluation.recorded (operation : Operation) : Evaluation := fun operands =>
  ⟨.ok .zero, [.rejected operation (.unimplemented operation),
    .computed operands.a.bits.toInt64 operands.b.bits.toInt64 0]⟩

/-- The set that records every call. -/
def OperationSet.recording : OperationSet where
  onAdd := .recorded .add
  onSubtract := .recorded .subtract
  onMultiply := .recorded .multiply
  onDivide := .recorded .divide
  onModulus := .recorded .modulus
  onExponentiate := .recorded .exponentiate

/-- It records each call under the operation that was called. -/
theorem OperationSet.call_recording (operation : Operation) (operands : Operands) :
    (recording.call operation operands).log = (Evaluation.recorded operation operands).log := by
  cases operation <;> rfl

/-- Different calls leave different records. -/
theorem OperationSet.recording_injective {first second : Operation} {operands others : Operands}
    (same : (recording.call first operands).log = (recording.call second others).log) :
    first = second ∧ operands = others := by
  obtain ⟨⟨a⟩, ⟨b⟩⟩ := operands
  obtain ⟨⟨a'⟩, ⟨b'⟩⟩ := others
  rw [call_recording, call_recording] at same
  injection same with entry entries
  injection entry with operation
  injection entries with entry
  injection entry with left right
  have left : a = a' := congrArg Int64.toUInt64 left
  have right : b = b' := congrArg Int64.toUInt64 right
  rw [left, right]
  exact ⟨operation, rfl⟩

namespace Request

/-! ## The header -/

/-- The first header that names an encoding is missing or names the one that leaves bytes as they
are. -/
def PlainlyEncoded (request : Request) : Prop :=
  request.header? "grpc-encoding" = none ∨ request.header? "grpc-encoding" = some "identity"

/-- A request is plainly encoded, or the header names an encoding that is not understood. -/
theorem plainlyEncoded_or_foreign (request : Request) :
    request.PlainlyEncoded ∨ ∃ encoding, request.header? "grpc-encoding" = some encoding ∧
      encoding ≠ "identity" := by
  cases found : request.header? "grpc-encoding" with
  | none => exact .inl (.inl found)
  | some encoding =>
    by_cases identity : encoding = "identity"
    · rw [identity] at found
      exact .inl (.inr found)
    · exact .inr ⟨encoding, rfl, identity⟩

/-- No encoding stands in the way of a request that is plainly encoded. -/
theorem foreignEncoding?_of_plain {request : Request} (plain : request.PlainlyEncoded) :
    request.foreignEncoding? = none := by
  rw [foreignEncoding?]
  rcases plain with missing | identity
  · rw [missing]
  · rw [identity]
    exact if_pos rfl

/-- An encoding that is not understood stands in the way. -/
theorem foreignEncoding?_of_foreign {request : Request} {encoding : String}
    (named : request.header? "grpc-encoding" = some encoding) (foreign : encoding ≠ "identity") :
    request.foreignEncoding? = some encoding := by
  rw [foreignEncoding?, named]
  exact if_neg foreign

/-! ## The two ends of a request -/

/-- The responses that turn away a request whose path leads to an operation. The header is looked at
before the body, and the first fault of the body counts. -/
inductive TurnedAway (request : Request) : Response → Prop
  | encoding {encoding : String} (named : request.header? "grpc-encoding" = some encoding)
      (foreign : encoding ≠ "identity") :
      request.TurnedAway
        (.ofStatus (unsupportedEncoding encoding) [("grpc-accept-encoding", "identity")])
  | body {status : Status} (plain : request.PlainlyEncoded)
      (fault : RequestBody.FirstFault request.chunks.flatten status) :
      request.TurnedAway (.ofStatus status [])

/-- The request makes one call of this operation on these operands, whatever the operation set: its
response is that of the call, and its log is the log of the call and nothing else. -/
def Evaluates (request : Request) (operation : Operation) (operands : Operands) : Prop :=
  ∀ set : OperationSet, set.respond request =
    ⟨.ofOutcome (set.call operation operands).value, (set.call operation operands).log⟩

variable {request : Request} {operation : Operation}

/-- A plainly encoded request with a clean body asks for a call on its first operands. -/
theorem invocation_of_clean (leads : request.path = operation.path)
    (plain : request.PlainlyEncoded) {operands : Operands}
    (clean : RequestBody.Clean request.chunks.flatten operands) :
    request.invocation = .ok ⟨operation, operands⟩ := by
  obtain ⟨method, found, rfl⟩ := Destination.exists_method operation
  simp only [invocation, leads, found, foreignEncoding?_of_plain plain,
    RequestBody.read_of_clean clean]

/-- A request that is turned away asks for no call. -/
theorem invocation_of_turnedAway (leads : request.path = operation.path) {response : Response}
    (away : request.TurnedAway response) : request.invocation = .error response := by
  obtain ⟨method, found, -⟩ := Destination.exists_method operation
  cases away with
  | encoding named foreign =>
    simp only [invocation, leads, found, foreignEncoding?_of_foreign named foreign]
  | body plain fault =>
    simp only [invocation, leads, found, foreignEncoding?_of_plain plain,
      RequestBody.read_of_firstFault fault]

/-- **There is no third way**: a request is plainly encoded and has a clean body, or it is turned
away. -/
theorem clean_or_turnedAway (request : Request) :
    (request.PlainlyEncoded ∧ ∃ operands, RequestBody.Clean request.chunks.flatten operands) ∨
      ∃ response, request.TurnedAway response := by
  rcases plainlyEncoded_or_foreign request with plain | ⟨encoding, named, foreign⟩
  · rcases RequestBody.clean_or_firstFault request.chunks.flatten with clean | ⟨status, fault⟩
    · exact .inl ⟨plain, clean⟩
    · exact .inr ⟨_, .body plain fault⟩
  · exact .inr ⟨_, .encoding named foreign⟩

/-! ## Calls that can be observed -/

/-- A request that asks for no call leaves no trace. -/
theorem respond_of_invocation_error {response : Response}
    (away : request.invocation = .error response) (set : OperationSet) :
    set.respond request = ⟨response, []⟩ := by
  rw [OperationSet.respond, away]

/-- **A call is made just if the request asks for it.** One set is enough to tell: the one that
records its calls. -/
theorem evaluates_iff_invocation (operands : Operands) :
    request.Evaluates operation operands ↔ request.invocation = .ok ⟨operation, operands⟩ := by
  constructor
  · intro evaluates
    have recorded := congrArg Logged.log (evaluates .recording)
    cases asked : request.invocation with
    | error response =>
      rw [respond_of_invocation_error asked, OperationSet.call_recording] at recorded
      cases recorded
    | ok invocation =>
      obtain ⟨other, others⟩ := invocation
      rw [OperationSet.respond, asked] at recorded
      obtain ⟨rfl, rfl⟩ := OperationSet.recording_injective recorded
      rfl
  · intro asked set
    rw [OperationSet.respond, asked]

/-! ## The law -/

/-- **One call, on the first message of a clean stream, or none.** For a request whose path leads to
an operation:

1. At most one call is made: the operation and the operands of a call are determined.
2. The operation is called just if the first header that names an encoding is missing or names the
   identity, and the body is one or more readable frames in front of an end that is allowed; the
   operands are those of the first frame.
3. If it is not called, no operation set leaves an entry in the log, and the response is the status
   of the first fault: the encoding in front of the body, and the body in the order of its bytes.
4. Any request with the same path, the same first header that names an encoding and the same bytes
   in its body, however they are cut, has the same response and the same log. -/
theorem evaluates_clean_streams_only (leads : request.path = operation.path) :
    (∀ (first second : Operation) (operands others : Operands),
      request.Evaluates first operands → request.Evaluates second others →
        first = second ∧ operands = others) ∧
    (∀ operands : Operands, request.Evaluates operation operands ↔
      request.PlainlyEncoded ∧ RequestBody.Clean request.chunks.flatten operands) ∧
    ((∀ operands : Operands, ¬ request.Evaluates operation operands) →
      ∃ response, request.TurnedAway response ∧
        ∀ set : OperationSet, set.respond request = ⟨response, []⟩) ∧
    (∀ other : Request, other.path = request.path →
      other.header? "grpc-encoding" = request.header? "grpc-encoding" →
      other.chunks.flatten = request.chunks.flatten →
        ∀ set : OperationSet, set.respond other = set.respond request) := by
  refine ⟨?_, ?_, ?_, ?_⟩
  · intro first second operands others one two
    rw [evaluates_iff_invocation] at one two
    rw [one] at two
    cases two
    exact ⟨rfl, rfl⟩
  · intro operands
    rw [evaluates_iff_invocation]
    constructor
    · intro asked
      rcases clean_or_turnedAway request with ⟨plain, found, clean⟩ | ⟨response, away⟩
      · rw [invocation_of_clean leads plain clean] at asked
        cases asked
        exact ⟨plain, clean⟩
      · rw [invocation_of_turnedAway leads away] at asked
        cases asked
    · rintro ⟨plain, clean⟩
      exact invocation_of_clean leads plain clean
  · intro never
    rcases clean_or_turnedAway request with ⟨plain, found, clean⟩ | ⟨response, away⟩
    · have asked := invocation_of_clean leads plain clean
      exact absurd ((evaluates_iff_invocation found).mpr asked) (never found)
    · exact ⟨response, away, respond_of_invocation_error (invocation_of_turnedAway leads away)⟩
  · intro other path header bytes set
    have reads : RequestBody.read other.chunks = RequestBody.read request.chunks := by
      rw [RequestBody.read, RequestBody.read, Wire.FrameReader.feedAll_start,
        Wire.FrameReader.feedAll_start, bytes]
    obtain ⟨method, found, -⟩ := Destination.exists_method operation
    have asks : other.invocation = request.invocation := by
      simp only [invocation, path, leads, found, foreignEncoding?, header, reads]
    rw [OperationSet.respond, OperationSet.respond, asks]

/-- Two empty messages and a lone header, cut inside the headers, under a target with an address and
a query: the first message is a pair of zeros, and it is evaluated. -/
theorem evaluates_in_front_of_lone_header :
    let request : Request := ⟨"http://localhost:50051/calculator.Calculator/Modulus?retry", "PUT",
      [("Grpc-Encoding", "identity"), ("grpc-encoding", "gzip")],
      [[0, 0], [], [0, 0, 0, 0, 0], [0, 0, 0, 0, 0, 0, 0, 1]]⟩
    request.path = Operation.modulus.path ∧ request.Evaluates .modulus ⟨.zero, .zero⟩ := by
  intro request
  have leads : request.path = Operation.modulus.path := by decide
  have lower : "Grpc-Encoding".toLower = "grpc-encoding" := by
    apply String.toList_inj.mp
    show (String.map Char.toLower "Grpc-Encoding").toList = _
    rw [String.toList_map]
    decide
  have first : request.headers.find? (fun entry => entry.1.toLower == "grpc-encoding") =
      some ("Grpc-Encoding", "identity") :=
    List.find?_cons_of_pos (beq_iff_eq.mpr lower)
  have named : request.header? "grpc-encoding" = some "identity" := by
    rw [header?, first, Option.map_some]
  have decoded : Operands.decode [] = .ok ⟨.zero, .zero⟩ :=
    Operands.decode_encode ⟨.zero, .zero⟩
  have readable : ∀ payload ∈ [[], []], RequestBody.Readable payload := by
    intro payload mem
    have empty : payload = [] := by simpa using mem
    rw [empty]
    exact ⟨by decide, _, decoded⟩
  have clean := RequestBody.Clean.intro readable
    (.loneHeader (by decide : 0 < 1) (by decide)) decoded
  obtain ⟨-, evaluated, -⟩ := evaluates_clean_streams_only leads
  exact ⟨leads, (evaluated _).mpr ⟨.inr named, clean⟩⟩

end Request

end RemainderService
