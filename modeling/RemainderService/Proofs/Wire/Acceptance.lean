import RemainderService.Wire.Message
import RemainderService.Proofs.Wire.Turns

/-!
# Which bytes are messages

The pass over the bytes keeps the numbers of the groups that are open; the grammar knows no such
list, it nests. What a list of open groups still demands of the bytes is `Unclosed`: a run of fields
and the key that closes the innermost group, then the same for the group around it, and behind the
outermost one the rest of a message.

**Both directions.** Every turn of the pass puts one thing in front of what is unclosed
(`Unclosed.turn`), so bytes that the pass accepts have a derivation (`unclosed_of_scan`). In the
other direction a run of fields is passed inside a group without a trace (`scan_fields`), and a
message is passed at top level with exactly its occurrences (`scan_body`), whatever stands behind
it. So the pass may be cut behind every field at top level.

**The law** (`reads_grammar_with_last_values`). The bytes that are read as one of the two messages
are those of its grammar, and the value of a field is the one that occurs last at top level, or
positive zero. Fields that are not declared, groups with anything in them included, make no
difference wherever they stand between two fields at top level.
-/

set_option autoImplicit false

namespace RemainderService

namespace Wire

/-! ## Last values -/

/-- The value that occurrences give to a field: the last one, or positive zero if there is none. -/
inductive Gives (number : Nat) : List Occurrence → Binary64 → Prop
  | last {earlier later : List Occurrence} {value : Binary64}
    (none_later : ∀ occurrence ∈ later, occurrence.number ≠ number) :
    Gives number (earlier ++ ⟨number, value⟩ :: later) value
  | absent {occurrences : List Occurrence}
    (none : ∀ occurrence ∈ occurrences, occurrence.number ≠ number) :
    Gives number occurrences .zero

variable {number : Nat} {earlier later occurrences : List Occurrence} {value : Binary64}

/-- No occurrence of a field is left where none has its number. -/
theorem filter_number_eq_nil (none : ∀ occurrence ∈ occurrences, occurrence.number ≠ number) :
    occurrences.filter (·.number == number) = [] :=
  List.filter_eq_nil_iff.mpr fun occurrence mem => by simpa using none occurrence mem

/-- A field that does not occur later has the value that it had before. -/
theorem lastValue_append_of_absent
    (none : ∀ occurrence ∈ later, occurrence.number ≠ number) :
    lastValue number (earlier ++ later) = lastValue number earlier := by
  rw [lastValue, List.filter_append, filter_number_eq_nil none, List.append_nil, lastValue]

/-- A field that occurs later has the value that it has there. -/
theorem lastValue_append_of_present
    (some : ∃ occurrence ∈ later, occurrence.number = number) :
    lastValue number (earlier ++ later) = lastValue number later := by
  obtain ⟨occurrence, mem, same⟩ := some
  have kept : occurrence ∈ later.filter (·.number == number) :=
    List.mem_filter.mpr ⟨mem, by simpa using same⟩
  obtain ⟨last, found⟩ := Option.ne_none_iff_exists'.mp
    (mt List.getLast?_eq_none_iff.mp (List.ne_nil_of_mem kept))
  rw [lastValue, lastValue, List.filter_append, List.getLast?_append, found,
    Option.some_or]

/-- **The value of a field** is the one that its occurrences give to it. -/
theorem gives_iff_lastValue :
    Gives number occurrences value ↔ lastValue number occurrences = value := by
  constructor
  · intro gives
    cases gives with
    | @last earlier later _ none =>
      have present : ∃ occurrence ∈ (⟨number, value⟩ :: later : List Occurrence),
          occurrence.number = number := ⟨_, List.mem_cons_self, rfl⟩
      have single : lastValue number [⟨number, value⟩] = value := by
        simp only [lastValue, List.filter_cons, beq_self_eq_true, if_true, List.filter_nil,
          List.getLast?_singleton]
      calc lastValue number (earlier ++ ⟨number, value⟩ :: later)
          = lastValue number ([⟨number, value⟩] ++ later) := lastValue_append_of_present present
        _ = lastValue number [⟨number, value⟩] := lastValue_append_of_absent none
        _ = value := single
    | absent none => rw [lastValue, filter_number_eq_nil none, List.getLast?_nil]
  · rintro rfl
    rw [lastValue]
    split
    · next last found =>
      obtain ⟨_, before⟩ := List.getLast?_eq_some_iff.mp found
      obtain ⟨front, back, rfl, -, kept⟩ := List.filter_eq_append_iff.mp before
      obtain ⟨skipped, later, rfl, -, same, none⟩ := List.filter_eq_cons_iff.mp kept
      have number_eq : last.number = number := by simpa using same
      rw [← List.append_assoc, ← number_eq]
      refine .last fun occurrence mem => ?_
      simpa [number_eq] using List.filter_eq_nil_iff.mp none occurrence mem
    · next found =>
      refine .absent fun occurrence mem => ?_
      have none := List.getLast?_eq_none_iff.mp found
      simpa using List.filter_eq_nil_iff.mp none occurrence mem

/-! ## What open groups demand -/

/-- What is left of a message inside these groups, the innermost first, and the values of declared
fields behind them. -/
inductive Unclosed (schema : Schema) : List Nat → List UInt8 → List Occurrence → Prop
  | top {bytes : List UInt8} {occurrences : List Occurrence}
    (body : Body schema bytes occurrences) : Unclosed schema [] bytes occurrences
  | inside {number : Nat} {outer : List Nat} {inner last rest : List UInt8}
    {occurrences : List Occurrence} (holds : Fields (outer.length + 1) inner)
    (closes : SpellsKey last ⟨number, .endGroup⟩) (later : Unclosed schema outer rest occurrences) :
    Unclosed schema (number :: outer) (inner ++ (last ++ rest)) occurrences

variable {schema : Schema} {opened still : List Nat} {bytes used rest : List UInt8}
  {found : List Occurrence}

/-- **A turn goes in front of what is unclosed behind it.** -/
theorem Unclosed.turn (passes : schema.Passes opened used found still)
    (later : Unclosed schema still rest occurrences) :
    Unclosed schema opened (used ++ rest) (found ++ occurrences) := by
  cases passes with
  | declared known opens =>
    cases later with
    | top body =>
      rw [List.append_assoc]
      exact .top (.declared known opens body)
  | content unknown shallow opens holds =>
    rw [List.append_assoc]
    cases later with
    | top body =>
      rw [Schema.declared?_top] at unknown
      exact .top (.content unknown opens holds body)
    | inside inner closes later =>
      have longer := Unclosed.inside (.content shallow opens holds inner) closes later
      simpa only [List.append_assoc, List.nil_append] using longer
  | opens unknown shallow opens =>
    cases later with
    | inside inner closes later =>
      cases later with
      | top body =>
        rw [Schema.declared?_top] at unknown
        exact .top (.group unknown opens inner closes body)
      | inside around closesAround later =>
        have longer :=
          Unclosed.inside (.group shallow opens inner closes around) closesAround later
        simpa only [List.append_assoc, List.nil_append] using longer
  | closes closes => exact .inside .none closes later

/-- **What the pass accepts has a derivation.** -/
theorem unclosed_of_scan (accepted : scan schema opened bytes = .ok found) :
    Unclosed schema opened bytes found := by
  induction opened, bytes using Schema.turn_induction schema generalizing found with
  | first opened bytes ih =>
    by_cases done : bytes = [] ∧ opened = []
    · obtain ⟨rfl, rfl⟩ := done
      rw [Schema.scan_nil] at accepted
      cases accepted
      exact .top .none
    · rw [Schema.scan_eq_turn done] at accepted
      cases taken : schema.turn opened bytes with
      | error error => rw [taken] at accepted; cases accepted
      | ok turn =>
        obtain ⟨here, still, rest⟩ := turn
        rw [taken] at accepted
        simp only at accepted
        cases behind : scan schema still rest with
        | error error => rw [behind] at accepted; cases accepted
        | ok later =>
          rw [behind] at accepted
          cases accepted
          obtain ⟨used, rfl, passes⟩ := Schema.passes_of_turn taken
          exact .turn passes (ih _ _ _ taken behind)

/-! ## What has a derivation is accepted -/

/-- **Fields inside a group leave no trace**, whatever their numbers and whatever stands behind
them. -/
theorem scan_fields {depth : Nat} {inner : List UInt8} (fields : Fields depth inner) (number : Nat)
    (outer : List Nat) (deep : depth = outer.length + 1) (rest : List UInt8) :
    scan schema (number :: outer) (inner ++ rest) = scan schema (number :: outer) rest := by
  induction fields generalizing number outer rest with
  | none => rw [List.nil_append]
  | @content _ field layout key bytes behind shallow opens holds later ih =>
    subst deep
    have unknown := Schema.declared?_inside schema number outer ⟨field, layout⟩
    have passes := Schema.Passes.content unknown shallow opens holds
    rw [← List.append_assoc, List.append_assoc, Schema.scan_of_silent passes, ih number outer rfl]
  | @group _ field first inner last behind shallow opens holds closes later ihInner ih =>
    subst deep
    have unknown := Schema.declared?_inside schema number outer ⟨field, .startGroup⟩
    have enters := Schema.Passes.opens unknown shallow opens
    have leaves : schema.Passes (field :: number :: outer) last [] (number :: outer) :=
      .closes closes
    rw [List.append_assoc, Schema.scan_of_silent enters, List.append_assoc,
      ihInner field (number :: outer) rfl, List.append_assoc,
      Schema.scan_of_silent leaves, ih number outer rfl]

/-- **A message is passed with exactly its occurrences**, and the pass goes on behind it as if it
began there. -/
theorem scan_body (body : Body schema bytes found) (rest : List UInt8) :
    scan schema [] (bytes ++ rest) = (scan schema [] rest).map (found ++ ·) := by
  induction body with
  | none =>
    rw [List.nil_append]
    cases scan schema [] rest <;> rfl
  | @declared number field key behind value occurrences known opens later ih =>
    have passes : schema.Passes [] (key ++ doubleBytes value) [⟨number, value⟩] [] :=
      .declared known opens
    rw [← List.append_assoc, List.append_assoc, Schema.scan_of_passes passes, ih]
    cases scan schema [] rest <;> rfl
  | @content number layout key bytes behind occurrences unknown opens holds later ih =>
    have undeclared := (schema.declared?_top ⟨number, layout⟩).trans unknown
    have passes := Schema.Passes.content undeclared (by decide) opens holds
    rw [← List.append_assoc, List.append_assoc, Schema.scan_of_silent passes, ih]
  | @group number first inner last behind occurrences unknown opens holds closes later ih =>
    have undeclared := (schema.declared?_top ⟨number, .startGroup⟩).trans unknown
    have enters := Schema.Passes.opens undeclared (by decide) opens
    have leaves : schema.Passes [number] last [] [] := .closes closes
    rw [List.append_assoc, Schema.scan_of_silent enters, List.append_assoc,
      scan_fields holds number [] rfl, List.append_assoc, Schema.scan_of_silent leaves, ih]

/-- **The pass accepts exactly the grammar**, with the occurrences of the derivation. -/
theorem scan_eq_ok_iff : scan schema [] bytes = .ok found ↔ Body schema bytes found := by
  constructor
  · intro accepted
    cases unclosed_of_scan accepted with
    | top body => exact body
  · intro body
    have passed := scan_body body []
    rw [List.append_nil, Schema.scan_nil] at passed
    simpa [Except.map] using passed

/-- Bytes are a message in one way only. -/
theorem Body.unique (body : Body schema bytes found) (other : Body schema bytes occurrences) :
    found = occurrences :=
  Except.ok.inj ((scan_eq_ok_iff.mpr body).symm.trans (scan_eq_ok_iff.mpr other))

/-- Two messages, one behind the other, are a message with the occurrences of both. -/
theorem Body.append {front back : List UInt8} (first : Body schema front earlier)
    (second : Body schema back later) : Body schema (front ++ back) (earlier ++ later) := by
  rw [← scan_eq_ok_iff, scan_body first, scan_eq_ok_iff.mpr second]
  rfl

/-- Fields that are not declared make no difference to the pass where they stand between two fields
at top level. -/
theorem scan_insert {front between : List UInt8} (body : Body schema front found)
    (undeclared : Body schema between []) (rest : List UInt8) :
    scan schema [] (front ++ (between ++ rest)) = scan schema [] (front ++ rest) := by
  rw [scan_body body, scan_body body, scan_body undeclared]
  cases scan schema [] rest <;> rfl

/-- A group of an undeclared number is a field that is not declared, whatever fields it holds. -/
theorem body_group {first inner last : List UInt8} (unknown : schema.fieldName? number = none)
    (opens : SpellsKey first ⟨number, .startGroup⟩) (holds : Fields 1 inner)
    (closes : SpellsKey last ⟨number, .endGroup⟩) :
    Body schema (first ++ (inner ++ last)) [] := by
  have group := Body.group unknown opens holds closes .none
  rwa [List.append_nil] at group

/-! ## Reading values off a pass -/

/-- A pass whose values are put into a message succeeds where the pass does. -/
theorem map_eq_ok_iff {α : Type} {build : List Occurrence → α}
    {pass : Except DecodeError (List Occurrence)} {message : α} :
    pass.map build = .ok message ↔
      ∃ occurrences, pass = .ok occurrences ∧ build occurrences = message := by
  cases pass <;> simp [Except.map]

/-- It fails where the pass does, with the error of the pass. -/
theorem map_eq_error_iff {α : Type} {build : List Occurrence → α}
    {pass : Except DecodeError (List Occurrence)} {error : DecodeError} :
    pass.map build = .error error ↔ pass = .error error := by
  cases pass <;> simp [Except.map]

/-- The pass fails exactly where the grammar has no derivation. -/
theorem exists_error_iff :
    (∃ error, scan schema [] bytes = .error error) ↔
      ¬ ∃ occurrences, Body schema bytes occurrences := by
  simp only [← scan_eq_ok_iff]
  cases scan schema [] bytes <;> simp

end Wire

/-! ## The two messages -/

open Wire

variable {bytes : List UInt8} {error : DecodeError}

/-- An operand pair is read where its grammar has a derivation, with the last values. -/
theorem Operands.decode_eq_ok_iff {operands : Operands} :
    decode bytes = .ok operands ↔
      ∃ occurrences, Body schema bytes occurrences ∧
        Gives 1 occurrences operands.a ∧ Gives 2 occurrences operands.b := by
  rw [decode, map_eq_ok_iff]
  simp only [scan_eq_ok_iff, gives_iff_lastValue]
  constructor
  · rintro ⟨occurrences, body, rfl⟩
    exact ⟨occurrences, body, rfl, rfl⟩
  · rintro ⟨occurrences, body, first, second⟩
    exact ⟨occurrences, body, by rw [first, second]⟩

/-- A reply is read where its grammar has a derivation, with the last value. -/
theorem Number.decode_eq_ok_iff {reply : Number} :
    decode bytes = .ok reply ↔
      ∃ occurrences, Body schema bytes occurrences ∧ Gives 1 occurrences reply.result := by
  rw [decode, map_eq_ok_iff]
  simp only [scan_eq_ok_iff, gives_iff_lastValue]
  constructor
  · rintro ⟨occurrences, body, rfl⟩
    exact ⟨occurrences, body, rfl⟩
  · rintro ⟨occurrences, body, value⟩
    exact ⟨occurrences, body, by rw [value]⟩

/-- The errors of an operand pair are those of the pass. -/
theorem Operands.decode_eq_error_iff :
    decode bytes = .error error ↔ scan schema [] bytes = .error error :=
  map_eq_error_iff

/-- The errors of a reply are those of the pass. -/
theorem Number.decode_eq_error_iff :
    decode bytes = .error error ↔ scan schema [] bytes = .error error :=
  map_eq_error_iff

/-- **The two messages are read exactly by their grammar, with the last value of each field.**

1. Bytes are read as a message just if they are a message of the grammar, and the value of each
   field is the one that its top-level occurrences give to it.
2. All other bytes are refused.
3. Fields that are not declared may be put in or taken out between two fields at top level: whatever
   stands behind, the answer is the same.
4. In particular a group of an undeclared number may be, whatever fields it holds. -/
theorem reads_grammar_with_last_values :
    (∀ bytes operands, Operands.decode bytes = .ok operands ↔
      ∃ occurrences, Body Operands.schema bytes occurrences ∧
        Gives 1 occurrences operands.a ∧ Gives 2 occurrences operands.b) ∧
    (∀ bytes reply, Number.decode bytes = .ok reply ↔
      ∃ occurrences, Body Number.schema bytes occurrences ∧ Gives 1 occurrences reply.result) ∧
    (∀ bytes, (∃ error, Operands.decode bytes = .error error) ↔
      ¬ ∃ occurrences, Body Operands.schema bytes occurrences) ∧
    (∀ bytes, (∃ error, Number.decode bytes = .error error) ↔
      ¬ ∃ occurrences, Body Number.schema bytes occurrences) ∧
    (∀ front between rest occurrences, Body Operands.schema front occurrences →
      Body Operands.schema between [] →
        Operands.decode (front ++ (between ++ rest)) = Operands.decode (front ++ rest)) ∧
    (∀ front between rest occurrences, Body Number.schema front occurrences →
      Body Number.schema between [] →
        Number.decode (front ++ (between ++ rest)) = Number.decode (front ++ rest)) ∧
    (∀ front first inner last rest occurrences number, Body Operands.schema front occurrences →
      Operands.schema.fieldName? number = none → SpellsKey first ⟨number, .startGroup⟩ →
        Fields 1 inner → SpellsKey last ⟨number, .endGroup⟩ →
          Operands.decode (front ++ (first ++ (inner ++ last) ++ rest)) =
            Operands.decode (front ++ rest)) ∧
    (∀ front first inner last rest occurrences number, Body Number.schema front occurrences →
      Number.schema.fieldName? number = none → SpellsKey first ⟨number, .startGroup⟩ →
        Fields 1 inner → SpellsKey last ⟨number, .endGroup⟩ →
          Number.decode (front ++ (first ++ (inner ++ last) ++ rest)) =
            Number.decode (front ++ rest)) := by
  have insertOperands : ∀ front between rest occurrences, Body Operands.schema front occurrences →
      Body Operands.schema between [] →
        Operands.decode (front ++ (between ++ rest)) = Operands.decode (front ++ rest) := by
    intro front between rest occurrences body undeclared
    rw [Operands.decode, Operands.decode, scan_insert body undeclared]
  have insertNumber : ∀ front between rest occurrences, Body Number.schema front occurrences →
      Body Number.schema between [] →
        Number.decode (front ++ (between ++ rest)) = Number.decode (front ++ rest) := by
    intro front between rest occurrences body undeclared
    rw [Number.decode, Number.decode, scan_insert body undeclared]
  refine ⟨fun _ _ => Operands.decode_eq_ok_iff, fun _ _ => Number.decode_eq_ok_iff, ?_, ?_,
    insertOperands, insertNumber, ?_, ?_⟩
  · intro bytes
    simp only [Operands.decode_eq_error_iff]
    exact exists_error_iff
  · intro bytes
    simp only [Number.decode_eq_error_iff]
    exact exists_error_iff
  · intro front first inner last rest occurrences number body unknown opens holds closes
    exact insertOperands _ _ _ _ body (body_group unknown opens holds closes)
  · intro front first inner last rest occurrences number body unknown opens holds closes
    exact insertNumber _ _ _ _ body (body_group unknown opens holds closes)

/-- A group with a field numbered 1, its first key spelled with a byte too many, between the two
operands: the operands are read as if it were not there. -/
theorem reads_operands_around_group :
    let one : Binary64 := ⟨0x3ff0000000000000⟩
    let two : Binary64 := ⟨0x4000000000000000⟩
    SpellsKey [0xbb, 0x00] ⟨7, .startGroup⟩ ∧ Fields 1 ([0x09] ++ (doubleBytes two ++ [])) ∧
      Operands.decode ([0x09] ++ (doubleBytes one ++ []) ++
        ([0xbb, 0x00] ++ ([0x09] ++ (doubleBytes two ++ []) ++ [0x3c]) ++
          ([0x91, 0x80, 0x00] ++ (doubleBytes two ++ [])))) = .ok ⟨one, two⟩ := by
  intro one two
  have opens : SpellsKey [0xbb, 0x00] ⟨7, .startGroup⟩ :=
    ⟨.more (by decide) (.last (by decide) (by decide)), by decide, by decide⟩
  have closes : SpellsKey [0x3c] ⟨7, .endGroup⟩ :=
    ⟨.last (by decide) (by decide), by decide, by decide⟩
  have first : SpellsKey [0x09] ⟨1, .fixed64⟩ :=
    ⟨.last (by decide) (by decide), by decide, by decide⟩
  have second : SpellsKey [0x91, 0x80, 0x00] ⟨2, .fixed64⟩ :=
    ⟨.more (by decide) (.more (by decide) (.last (by decide) (by decide))), by decide, by decide⟩
  have holds : Fields 1 ([0x09] ++ (doubleBytes two ++ [])) :=
    .content (by decide) first (.fixed64 rfl) .none
  have front : Body Operands.schema ([0x09] ++ (doubleBytes one ++ [])) [⟨1, one⟩] :=
    .declared rfl first .none
  have back : Body Operands.schema ([0x91, 0x80, 0x00] ++ (doubleBytes two ++ [])) [⟨2, two⟩] :=
    .declared rfl second .none
  obtain ⟨accepted, -, -, -, -, -, group, -⟩ := reads_grammar_with_last_values
  refine ⟨opens, holds, ?_⟩
  rw [group _ _ _ _ _ _ 7 front rfl opens holds closes]
  have firstValue : Gives 1 [⟨1, one⟩, ⟨2, two⟩] one := gives_iff_lastValue.mpr rfl
  have secondValue : Gives 2 [⟨1, one⟩, ⟨2, two⟩] two := gives_iff_lastValue.mpr rfl
  exact (accepted _ _).mpr ⟨_, front.append back, firstValue, secondValue⟩

end RemainderService
