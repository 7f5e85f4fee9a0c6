import RemainderService.Proofs.Wire.Acceptance

/-!
# Messages one behind the other

The pass carries nothing from one field at top level to the next, so bytes behind a message are read
as if they stood alone. Of the values of a field the later one counts, and an error behind a message
is the error of the bytes behind it.

**Errors are stable.** An error that is neither a number nor a content that is broken off is found
before the bytes behind it are looked at, so it stays the same whatever is put there
(`scan_append_of_error`).

**Places.** A fault is reported with the name of a field just if it arises in the value of a
declared field at top level: behind a message stands the key of the field, and its layout is none of
a double or there are too few bytes for one (`scan_eq_error_at_iff`). The wording of an error alone
tells its place (`DecodeError.message_eq_at_iff`).

**Any message that is read off the pass** composes in this way (`composes_of_scan`), so the law is
the same for the two messages (`readers_compose`).
-/

set_option autoImplicit false

namespace RemainderService

namespace Wire

variable {schema : Schema} {opened : List Nat} {bytes : List UInt8} {error : DecodeError}

/-! ## Errors are stable -/

/-- **A final error stays the same**, whatever stands behind the bytes. -/
theorem scan_append_of_error (failed : scan schema opened bytes = .error error)
    (final : error.fault.Final) (more : List UInt8) :
    scan schema opened (bytes ++ more) = .error error := by
  induction opened, bytes using Schema.turn_induction schema with
  | first opened bytes ih =>
    have bytesLeft := Schema.not_done_of_scan_error failed
    have moreLeft : ¬ (bytes ++ more = [] ∧ opened = []) :=
      fun none => bytesLeft ⟨(List.append_eq_nil_iff.mp none.1).1, none.2⟩
    rw [Schema.scan_eq_turn bytesLeft] at failed
    cases taken : schema.turn opened bytes with
    | error other =>
      rw [taken] at failed
      cases failed
      rw [Schema.scan_eq_turn moreLeft, Schema.turn_append_of_error taken final]
    | ok turn =>
      obtain ⟨found, still, rest⟩ := turn
      rw [taken] at failed
      have behind := ih found still rest taken (map_eq_error_iff.mp failed)
      -- A turn is taken by its own bytes, so it is the same turn in front of more of them.
      obtain ⟨used, rfl, passes⟩ := Schema.passes_of_turn taken
      rw [List.append_assoc, Schema.scan_of_passes passes, behind]
      rfl

/-- A fault is final if its wording is that of neither kind of break. -/
theorem WireFault.final_of_message {fault : WireFault}
    (number : fault.message ≠ "invalid varint") (content : fault.message ≠ "buffer underflow") :
    fault.Final :=
  ⟨fun same => number (same ▸ rfl), fun same => content (same ▸ rfl)⟩

/-! ## Places -/

/-- The bytes begin with the key of a declared field whose value cannot be read. -/
inductive BadValue (schema : Schema) : List UInt8 → String → WireFault → Prop
  | layout {number : Nat} {field : String} {layout : WireType} {key rest : List UInt8}
    (known : schema.fieldName? number = some field) (opens : SpellsKey key ⟨number, layout⟩)
    (wrong : layout ≠ .fixed64) :
    BadValue schema (key ++ rest) field (.unexpectedWireType layout)
  | short {number : Nat} {field : String} {key rest : List UInt8}
    (known : schema.fieldName? number = some field) (opens : SpellsKey key ⟨number, .fixed64⟩)
    (tooFew : rest.length < 8) : BadValue schema (key ++ rest) field .bufferUnderflow

/-- Behind a message, the bytes go on with the key of a declared field whose value cannot be
read. -/
def ValueFault (schema : Schema) (bytes : List UInt8) (field : String) (fault : WireFault) : Prop :=
  ∃ front rest occurrences, bytes = front ++ rest ∧ Body schema front occurrences ∧
    BadValue schema rest field fault

variable {field : String} {fault : WireFault} {rest : List UInt8}

/-- A value that cannot be read stops the turn of its key. -/
theorem turn_of_badValue (bad : BadValue schema rest field fault) :
    schema.turn [] rest = .error ⟨some (schema.name, field), fault⟩ := by
  apply Schema.turn_of_stops
  cases bad with
  | layout known opens wrong =>
    refine .value opens (Schema.declared?_eq_some_iff.mpr ⟨rfl, known⟩) ?_
    exact readDeclared_eq_error_iff.mpr (.inl ⟨wrong, rfl⟩)
  | short known opens tooFew =>
    refine .value opens (Schema.declared?_eq_some_iff.mpr ⟨rfl, known⟩) ?_
    exact readDeclared_eq_error_iff.mpr (.inr ⟨rfl, tooFew, rfl⟩)

/-- **A turn that reports a place** is at top level and stands in front of a value that cannot be
read. -/
theorem badValue_of_turn {place : String × String}
    (failed : schema.turn opened rest = .error ⟨some place, fault⟩) :
    opened = [] ∧ place.1 = schema.name ∧ BadValue schema rest place.2 fault := by
  cases Schema.stops_of_turn failed with
  | @value key _ _ _ _ opens known faulty =>
    obtain ⟨number, layout⟩ := key
    obtain ⟨outermost, found⟩ := Schema.declared?_eq_some_iff.mp known
    refine ⟨outermost, rfl, ?_⟩
    rcases readDeclared_eq_error_iff.mp faulty with ⟨wrong, rfl⟩ | ⟨double, tooFew, rfl⟩
    · exact .layout found opens wrong
    · obtain rfl : layout = .fixed64 := double
      exact .short found opens tooFew

/-- Where the pass reports a place, a part of the bytes in front is accepted, and behind it stands a
value that cannot be read. -/
theorem exists_badValue_of_scan {place : String × String}
    (failed : scan schema opened bytes = .error ⟨some place, fault⟩) :
    place.1 = schema.name ∧ ∃ front rest occurrences, bytes = front ++ rest ∧
      Unclosed schema opened front occurrences ∧ BadValue schema rest place.2 fault := by
  induction opened, bytes using Schema.turn_induction schema with
  | first opened bytes ih =>
    rw [Schema.scan_eq_turn (Schema.not_done_of_scan_error failed)] at failed
    cases taken : schema.turn opened bytes with
    | error other =>
      rw [taken] at failed
      cases failed
      obtain ⟨rfl, name, bad⟩ := badValue_of_turn taken
      exact ⟨name, [], bytes, [], rfl, .top .none, bad⟩
    | ok turn =>
      obtain ⟨found, still, rest⟩ := turn
      rw [taken] at failed
      obtain ⟨name, front, behind, occurrences, rfl, unclosed, bad⟩ :=
        ih found still rest taken (map_eq_error_iff.mp failed)
      obtain ⟨used, rfl, passes⟩ := Schema.passes_of_turn taken
      exact ⟨name, used ++ front, behind, found ++ occurrences, (List.append_assoc ..).symm,
        .turn passes unclosed, bad⟩

/-- **A fault is reported with a place** just if it arises in the value of a declared field at top
level. -/
theorem scan_eq_error_at_iff {place : String × String} :
    scan schema [] bytes = .error ⟨some place, fault⟩ ↔
      place.1 = schema.name ∧ ValueFault schema bytes place.2 fault := by
  constructor
  · intro failed
    obtain ⟨name, front, rest, occurrences, same, unclosed, bad⟩ := exists_badValue_of_scan failed
    cases unclosed with
    | top body => exact ⟨name, front, rest, occurrences, same, body, bad⟩
  · rintro ⟨name, front, rest, occurrences, rfl, body, bad⟩
    -- Behind a message the pass stands at top level again, in front of the value.
    have stopped := turn_of_badValue bad
    have left : ¬ (rest = [] ∧ ([] : List Nat) = []) := by
      rintro ⟨rfl, -⟩
      cases stopped
    rw [scan_body body, Schema.scan_eq_turn left, stopped]
    obtain ⟨message, field⟩ := place
    cases name
    rfl

/-! ## Wordings -/

/-- The part of a wording that tells the place. -/
def placeText : Option (String × String) → String
  | some (message, field) => message ++ "." ++ field ++ ": "
  | none => ""

/-- The wording of an error, for a given fault, is that of its place. -/
theorem DecodeError.message_eq_iff {place : Option (String × String)} {text : String} :
    (⟨place, fault⟩ : DecodeError).message =
        "failed to decode Protobuf message: " ++ text ++ fault.message ↔
      placeText place = text := by
  have wording : (⟨place, fault⟩ : DecodeError).message =
      "failed to decode Protobuf message: " ++ placeText place ++ fault.message := by
    cases place <;> rfl
  rw [wording]
  constructor
  · intro same
    have chars := congrArg String.toList same
    simp only [String.toList_append] at chars
    exact String.toList_inj.mp (List.append_cancel_left (List.append_cancel_right chars))
  · rintro rfl
    rfl

/-- A place is never worded by nothing. -/
theorem placeText_ne_empty {message : String} : placeText (some (message, field)) ≠ "" := by
  intro empty
  have chars := congrArg (List.length ∘ String.toList) empty
  simp [placeText, String.toList_append] at chars

/-- A wording without a place means that there is none. -/
theorem DecodeError.message_eq_plain_iff {place : Option (String × String)} :
    (⟨place, fault⟩ : DecodeError).message =
      "failed to decode Protobuf message: " ++ fault.message ↔ place = none := by
  have unplaced : "failed to decode Protobuf message: " ++ "" =
      "failed to decode Protobuf message: " := String.append_empty
  rw [← unplaced, message_eq_iff]
  cases place with
  | none => exact ⟨fun _ => rfl, fun _ => rfl⟩
  | some place => exact ⟨fun empty => absurd empty placeText_ne_empty, fun none => by cases none⟩

/-- A wording with a place in this message means a fault in that field. -/
theorem DecodeError.message_eq_at_iff {place : Option (String × String)} {message : String}
    (inside : ∀ found, place = some found → found.1 = message) :
    (⟨place, fault⟩ : DecodeError).message =
        "failed to decode Protobuf message: " ++ (message ++ "." ++ field ++ ": ") ++
          fault.message ↔
      place = some (message, field) := by
  rw [message_eq_iff]
  change placeText place = placeText (some (message, field)) ↔ _
  cases place with
  | none => exact ⟨fun empty => absurd empty.symm placeText_ne_empty, fun none => by cases none⟩
  | some found =>
    obtain ⟨name, other⟩ := found
    obtain rfl : name = message := inside _ rfl
    constructor
    · intro same
      have chars := congrArg String.toList same
      simp only [placeText, String.toList_append] at chars
      obtain rfl : other = field :=
        String.toList_inj.mp (List.append_cancel_left (List.append_cancel_right chars))
      rfl
    · intro same
      rw [same]

/-- A fault in the value of a field stops the pass with that field and that fault. -/
theorem scan_of_valueFault (faulty : ValueFault schema bytes field fault) :
    scan schema [] bytes = .error ⟨some (schema.name, field), fault⟩ :=
  scan_eq_error_at_iff.mpr ⟨rfl, faulty⟩

/-- **The wording names a field** just if the pass stops in the value of that field at top level. -/
theorem message_eq_at_iff_of_scan (stopped : scan schema [] bytes = .error error) (field : String) :
    error.message =
        "failed to decode Protobuf message: " ++ (schema.name ++ "." ++ field ++ ": ") ++
          error.fault.message ↔
      ValueFault schema bytes field error.fault := by
  obtain ⟨place, fault⟩ := error
  have inside : ∀ found, place = some found → found.1 = schema.name := by
    rintro found rfl
    exact (scan_eq_error_at_iff.mp stopped).1
  rw [DecodeError.message_eq_at_iff inside]
  constructor
  · rintro rfl
    exact (scan_eq_error_at_iff.mp stopped).2
  · intro faulty
    cases stopped.symm.trans (scan_of_valueFault faulty)
    rfl

/-- **The wording names no field** just if the pass stops in no value of a declared field. -/
theorem message_eq_plain_iff_of_scan (stopped : scan schema [] bytes = .error error) :
    error.message = "failed to decode Protobuf message: " ++ error.fault.message ↔
      ¬ ∃ field fault, ValueFault schema bytes field fault := by
  obtain ⟨place, fault⟩ := error
  rw [DecodeError.message_eq_plain_iff]
  constructor
  · rintro rfl ⟨field, other, faulty⟩
    cases stopped.symm.trans (scan_of_valueFault faulty)
  · intro unplaced
    cases place with
    | none => rfl
    | some place =>
      exact absurd ⟨place.2, fault, (scan_eq_error_at_iff.mp stopped).2⟩ unplaced

/-! ## Composition -/

/-- The bytes are a message in which this field has a value at top level. -/
def Holds (schema : Schema) (bytes : List UInt8) (number : Nat) : Prop :=
  ∃ occurrences, Body schema bytes occurrences ∧
    ∃ occurrence ∈ occurrences, occurrence.number = number

/-- What is read off bytes is put together from what is read off their parts. The fields come with
their numbers. -/
structure Composes {α : Type} (schema : Schema) (decode : List UInt8 → Except DecodeError α)
    (fields : List (Nat × (α → Binary64))) : Prop where
  /-- Bytes can be read behind a message just if they can be read alone. -/
  readable_iff : ∀ front back first, decode front = .ok first →
    ((∃ both, decode (front ++ back) = .ok both) ↔ ∃ second, decode back = .ok second)
  /-- A field that has a value behind a message has that value. -/
  later_value : ∀ front back first second both, decode front = .ok first →
    decode back = .ok second → decode (front ++ back) = .ok both →
      ∀ number value, (number, value) ∈ fields → Holds schema back number →
        value both = value second
  /-- Any other field keeps the value of the message in front. -/
  earlier_value : ∀ front back first second both, decode front = .ok first →
    decode back = .ok second → decode (front ++ back) = .ok both →
      ∀ number value, (number, value) ∈ fields → ¬ Holds schema back number →
        value both = value first
  /-- An error behind a message is reported as if it stood alone. -/
  error_behind : ∀ front back first error, decode front = .ok first → decode back = .error error →
    decode (front ++ back) = .error error
  /-- An error that is not about bytes that end too soon stays, whatever follows. -/
  error_stays : ∀ front error, decode front = .error error →
    error.fault.message ≠ "invalid varint" → error.fault.message ≠ "buffer underflow" →
      ∀ back, decode (front ++ back) = .error error
  /-- An error is worded with a field just if it arises in the value of that field at top level. -/
  placed_iff : ∀ bytes error, decode bytes = .error error → ∀ field,
    (error.message = "failed to decode Protobuf message: " ++
        (schema.name ++ "." ++ field ++ ": ") ++ error.fault.message ↔
      ValueFault schema bytes field error.fault)
  /-- It is worded without one just if it arises in no value of a declared field. -/
  plain_iff : ∀ bytes error, decode bytes = .error error →
    (error.message = "failed to decode Protobuf message: " ++ error.fault.message ↔
      ¬ ∃ field fault, ValueFault schema bytes field fault)

section

variable {α : Type} {decode : List UInt8 → Except DecodeError α} {build : List Occurrence → α}
  {front back : List UInt8} {first second both : α}

/-- Behind a message, the pass goes on as if it began there. -/
theorem decode_append_of_body (reads : ∀ bytes, decode bytes = (scan schema [] bytes).map build)
    {earlier : List Occurrence} (body : Body schema front earlier) (back : List UInt8) :
    decode (front ++ back) = (scan schema [] back).map fun later => build (earlier ++ later) := by
  rw [reads, scan_body body]
  cases scan schema [] back <;> rfl

/-- Three messages that are read are built from the occurrences in front, from those behind, and
from both. -/
theorem exists_builds_of_append (reads : ∀ bytes, decode bytes = (scan schema [] bytes).map build)
    (read : decode front = .ok first) (readBehind : decode back = .ok second)
    (readBoth : decode (front ++ back) = .ok both) :
    ∃ earlier later, Body schema back later ∧ build earlier = first ∧ build later = second ∧
      build (earlier ++ later) = both := by
  rw [reads, map_eq_ok_iff] at read readBehind
  obtain ⟨earlier, accepted, built⟩ := read
  obtain ⟨later, acceptedBehind, builtBehind⟩ := readBehind
  have body := scan_eq_ok_iff.mp accepted
  rw [decode_append_of_body reads body, acceptedBehind] at readBoth
  exact ⟨earlier, later, scan_eq_ok_iff.mp acceptedBehind, built, builtBehind,
    Except.ok.inj readBoth⟩

/-- **What is read off the pass composes.** -/
theorem composes_of_scan {fields : List (Nat × (α → Binary64))}
    (reads : ∀ bytes, decode bytes = (scan schema [] bytes).map build)
    (builds : ∀ number value, (number, value) ∈ fields → ∀ occurrences,
      value (build occurrences) = lastValue number occurrences) :
    Composes schema decode fields := by
  have stops {bytes : List UInt8} {error : DecodeError} :
      decode bytes = .error error ↔ scan schema [] bytes = .error error := by
    rw [reads, map_eq_error_iff]
  have behind {front : List UInt8} {first : α} (read : decode front = .ok first)
      (back : List UInt8) : ∃ earlier, decode (front ++ back) =
        (scan schema [] back).map fun later => build (earlier ++ later) := by
    rw [reads, map_eq_ok_iff] at read
    obtain ⟨earlier, accepted, -⟩ := read
    exact ⟨earlier, decode_append_of_body reads (scan_eq_ok_iff.mp accepted) back⟩
  constructor
  case readable_iff =>
    intro front back first read
    obtain ⟨earlier, passed⟩ := behind read back
    rw [passed, reads]
    cases scan schema [] back <;> simp [Except.map]
  case later_value =>
    rintro front back first second both read readBehind readBoth number value mem
      ⟨found, body, present⟩
    obtain ⟨earlier, later, same, -, rfl, rfl⟩ :=
      exists_builds_of_append reads read readBehind readBoth
    obtain rfl := Body.unique same body
    rw [builds number value mem, builds number value mem, lastValue_append_of_present present]
  case earlier_value =>
    intro front back first second both read readBehind readBoth number value mem missing
    obtain ⟨earlier, later, body, rfl, -, rfl⟩ :=
      exists_builds_of_append reads read readBehind readBoth
    have absent : ∀ occurrence ∈ later, occurrence.number ≠ number :=
      fun occurrence found same => missing ⟨later, body, occurrence, found, same⟩
    rw [builds number value mem, builds number value mem, lastValue_append_of_absent absent]
  case error_behind =>
    intro front back first error read failed
    obtain ⟨earlier, passed⟩ := behind read back
    rw [passed, stops.mp failed]
    rfl
  case error_stays =>
    intro front error failed number content back
    have final := WireFault.final_of_message number content
    exact stops.mpr (scan_append_of_error (stops.mp failed) final back)
  case placed_iff =>
    intro bytes error failed field
    exact message_eq_at_iff_of_scan (stops.mp failed) field
  case plain_iff =>
    intro bytes error failed
    exact message_eq_plain_iff_of_scan (stops.mp failed)

end

end Wire

/-! ## The two messages -/

open Wire

/-- **Reading composes, and its errors are stable**, for both messages: bytes behind a message are
read as if they stood alone, the later value of a field counts, an error that is not about bytes
that end too soon stays whatever follows, and an error names a field just if it arises in the value
of that field at top level. -/
theorem readers_compose :
    Composes Operands.schema Operands.decode [(1, Operands.a), (2, Operands.b)] ∧
      Composes Number.schema Number.decode [(1, Number.result)] := by
  constructor
  · refine composes_of_scan (fun _ => rfl) fun number value mem occurrences => ?_
    simp only [List.mem_cons, Prod.mk.injEq, List.not_mem_nil, or_false] at mem
    obtain ⟨rfl, rfl⟩ | ⟨rfl, rfl⟩ := mem <;> rfl
  · refine composes_of_scan (fun _ => rfl) fun number value mem occurrences => ?_
    simp only [List.mem_singleton, Prod.mk.injEq] at mem
    obtain ⟨rfl, rfl⟩ := mem
    rfl

/-- Behind two operands, the first one again replaces it and keeps the second; the first one again
with the layout of an integer is an error that names it, whatever follows. So it is behind a result.
-/
theorem replaces_first_operand_or_names_it :
    let one : Binary64 := ⟨0x3ff0000000000000⟩
    let two : Binary64 := ⟨0x4000000000000000⟩
    let front := [0x09] ++ (doubleBytes one ++ ([0x11] ++ (doubleBytes one ++ [])))
    let result := [0x09] ++ (doubleBytes one ++ [])
    let again := [0x09] ++ (doubleBytes two ++ [])
    let integer := [0x08] ++ []
    (Operands.decode (front ++ again) = .ok ⟨two, one⟩ ∧
      ∃ error, (∀ more, Operands.decode (front ++ integer ++ more) = .error error) ∧
        error.message =
          "failed to decode Protobuf message: " ++ ("TwoNumbers" ++ "." ++ "a" ++ ": ") ++
            "invalid wire type: Varint (expected SixtyFourBit)") ∧
      Number.decode (result ++ again) = .ok ⟨two⟩ ∧
      ∃ error, (∀ more, Number.decode (result ++ integer ++ more) = .error error) ∧
        error.message =
          "failed to decode Protobuf message: " ++ ("Number" ++ "." ++ "result" ++ ": ") ++
            "invalid wire type: Varint (expected SixtyFourBit)" := by
  intro one two front result again integer
  obtain ⟨pairs, numbers⟩ := readers_compose
  have first : SpellsKey [0x09] ⟨1, .fixed64⟩ :=
    ⟨.last (by decide) (by decide), by decide, by decide⟩
  have second : SpellsKey [0x11] ⟨2, .fixed64⟩ :=
    ⟨.last (by decide) (by decide), by decide, by decide⟩
  have other : SpellsKey [0x08] ⟨1, .varint⟩ :=
    ⟨.last (by decide) (by decide), by decide, by decide⟩
  have bodyFront : Body Operands.schema front [⟨1, one⟩, ⟨2, one⟩] :=
    .declared rfl first (.declared rfl second .none)
  have readFront : Operands.decode front = .ok ⟨one, one⟩ :=
    Operands.decode_eq_ok_iff.mpr
      ⟨_, bodyFront, gives_iff_lastValue.mpr rfl, gives_iff_lastValue.mpr rfl⟩
  have bodyResult : Body Number.schema result [⟨1, one⟩] := .declared rfl first .none
  have readResult : Number.decode result = .ok ⟨one⟩ :=
    Number.decode_eq_ok_iff.mpr ⟨_, bodyResult, gives_iff_lastValue.mpr rfl⟩
  refine ⟨⟨?_, ?_⟩, ?_, ?_⟩
  · have bodyBack : Body Operands.schema again [⟨1, two⟩] := .declared rfl first .none
    have readBack : Operands.decode again = .ok ⟨two, .zero⟩ :=
      Operands.decode_eq_ok_iff.mpr
        ⟨_, bodyBack, gives_iff_lastValue.mpr rfl, gives_iff_lastValue.mpr rfl⟩
    obtain ⟨⟨a, b⟩, readBoth⟩ := (pairs.readable_iff front _ _ readFront).mpr ⟨_, readBack⟩
    have replaced : a = two :=
      pairs.later_value _ _ _ _ _ readFront readBack readBoth 1 Operands.a List.mem_cons_self
        ⟨_, bodyBack, _, List.mem_cons_self, rfl⟩
    have onlyFirst : ¬ Holds Operands.schema again 2 := by
      rintro ⟨found, body, occurrence, mem, number⟩
      obtain rfl := Body.unique bodyBack body
      cases List.mem_singleton.mp mem
      cases number
    have kept : b = one :=
      pairs.earlier_value _ _ _ _ _ readFront readBack readBoth 2 Operands.b
        (List.mem_cons_of_mem _ List.mem_cons_self) onlyFirst
    rw [readBoth, replaced, kept]
  · have faulty : ValueFault Operands.schema integer "a" (.unexpectedWireType .varint) :=
      ⟨[], _, [], rfl, .none, .layout rfl other (by decide)⟩
    have failed : Operands.decode integer =
        .error ⟨some ("TwoNumbers", "a"), .unexpectedWireType .varint⟩ :=
      Operands.decode_eq_error_iff.mpr (scan_of_valueFault faulty)
    have behind := pairs.error_behind _ _ _ _ readFront failed
    refine ⟨_, pairs.error_stays _ _ behind (by decide) (by decide), ?_⟩
    exact (pairs.placed_iff _ _ failed "a").mpr faulty
  · have bodyBack : Body Number.schema again [⟨1, two⟩] := .declared rfl first .none
    have readBack : Number.decode again = .ok ⟨two⟩ :=
      Number.decode_eq_ok_iff.mpr ⟨_, bodyBack, gives_iff_lastValue.mpr rfl⟩
    obtain ⟨⟨value⟩, readBoth⟩ := (numbers.readable_iff result _ _ readResult).mpr ⟨_, readBack⟩
    have replaced : value = two :=
      numbers.later_value _ _ _ _ _ readResult readBack readBoth 1 Number.result
        List.mem_cons_self ⟨_, bodyBack, _, List.mem_cons_self, rfl⟩
    rw [readBoth, replaced]
  · have faulty : ValueFault Number.schema integer "result" (.unexpectedWireType .varint) :=
      ⟨[], _, [], rfl, .none, .layout rfl other (by decide)⟩
    have failed : Number.decode integer =
        .error ⟨some ("Number", "result"), .unexpectedWireType .varint⟩ :=
      Number.decode_eq_error_iff.mpr (scan_of_valueFault faulty)
    have behind := numbers.error_behind _ _ _ _ readResult failed
    refine ⟨_, numbers.error_stays _ _ behind (by decide) (by decide), ?_⟩
    exact (numbers.placed_iff _ _ failed "result").mpr faulty

end RemainderService
