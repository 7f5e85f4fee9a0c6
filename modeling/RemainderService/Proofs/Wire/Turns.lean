import RemainderService.Proofs.Wire.Spelling

/-!
# Turns of the pass

The pass over a message is a sequence of turns. A turn takes one field off the front, or a key that
opens or closes a group, and it needs to know nothing but the groups that are open. Everything that a
turn can take is listed once (`Schema.Passes`), without a reader, and **a turn takes exactly that**
(`Schema.turn_of_passes`, `Schema.passes_of_turn`). So is everything that it can fail at
(`Schema.Stops`). Every law about the pass is an induction over turns (`Schema.turn_induction`).

**Faults that are final.** A turn fails for one of two reasons that more bytes may mend, a number or
a content that is broken off, or for one that no bytes can mend. In the latter case it fails in the
same way whatever stands behind (`Schema.turn_append_of_error`): such a fault is found before anything
behind the offending bytes is looked at.
-/

set_option autoImplicit false

namespace RemainderService.Wire

/-! ## Contents -/

/-- So many bytes are dropped from the front. -/
theorem dropBytes_append {front : List UInt8} {count : Nat} (length : front.length = count)
    (rest : List UInt8) : dropBytes count (front ++ rest) = .ok rest := by
  have enough : ¬ (front ++ rest).length < count := by rw [List.length_append]; omega
  rw [dropBytes, if_neg enough, List.drop_left' length]

/-- Bytes that are dropped are so many and stand in front of the rest. -/
theorem append_of_dropBytes {count : Nat} {bytes rest : List UInt8}
    (dropped : dropBytes count bytes = .ok rest) :
    ∃ used, bytes = used ++ rest ∧ used.length = count := by
  rw [dropBytes] at dropped
  split at dropped
  · cases dropped
  · next enough =>
    cases dropped
    exact ⟨bytes.take count, (List.take_append_drop count bytes).symm,
      List.length_take_of_le (Nat.not_lt.mp enough)⟩

/-- There are too few bytes if they cannot be dropped. -/
theorem fault_of_dropBytes {count : Nat} {bytes : List UInt8} {fault : WireFault}
    (failed : dropBytes count bytes = .error fault) : fault = .bufferUnderflow := by
  rw [dropBytes] at failed
  split at failed
  · cases failed; rfl
  · cases failed

/-- **A content is skipped**, whatever stands behind it. -/
theorem skipContent_of_content {layout : WireType} {bytes : List UInt8}
    (holds : Content layout bytes) (rest : List UInt8) :
    skipContent layout (bytes ++ rest) = .ok rest := by
  cases holds with
  | varint spells => rw [skipContent, Varint.read_of_spells spells, Except.map]
  | fixed64 length => exact dropBytes_append length rest
  | fixed32 length => exact dropBytes_append length rest
  | lengthDelimited spells =>
    simp only [skipContent, List.append_assoc, Varint.read_of_spells spells]
    exact dropBytes_append rfl rest

/-- **What is skipped is a content**, unless it belongs to a group. -/
theorem content_of_skipContent {layout : WireType} {bytes rest : List UInt8}
    (opensNone : layout ≠ .startGroup) (closesNone : layout ≠ .endGroup)
    (skipped : skipContent layout bytes = .ok rest) :
    ∃ used, bytes = used ++ rest ∧ Content layout used := by
  cases layout with
  | varint =>
    rw [skipContent] at skipped
    cases number : Varint.read bytes with
    | error fault => rw [number] at skipped; cases skipped
    | ok result =>
      rw [number] at skipped
      cases skipped
      obtain ⟨used, same, spells⟩ := Varint.read_eq_ok_iff.mp number
      exact ⟨used, same, .varint spells⟩
  | fixed64 =>
    obtain ⟨used, same, length⟩ := append_of_dropBytes skipped
    exact ⟨used, same, .fixed64 length⟩
  | fixed32 =>
    obtain ⟨used, same, length⟩ := append_of_dropBytes skipped
    exact ⟨used, same, .fixed32 length⟩
  | lengthDelimited =>
    rw [skipContent] at skipped
    split at skipped
    · cases skipped
    · next size behind number =>
      obtain ⟨front, rfl, spells⟩ := Varint.read_eq_ok_iff.mp number
      obtain ⟨block, rfl, rfl⟩ := append_of_dropBytes skipped
      exact ⟨front ++ block, (List.append_assoc ..).symm, .lengthDelimited spells⟩
  | startGroup => exact absurd rfl opensNone
  | endGroup => exact absurd rfl closesNone

/-- A fault that more bytes cannot mend: neither a number nor a content is broken off. -/
def WireFault.Final (fault : WireFault) : Prop :=
  fault ≠ .invalidVarint ∧ fault ≠ .bufferUnderflow

/-- A content that cannot be skipped is broken off, or its length is. -/
theorem not_final_of_skipContent {layout : WireType} {bytes : List UInt8} {fault : WireFault}
    (failed : skipContent layout bytes = .error fault) : ¬ fault.Final := by
  rintro ⟨whole, enough⟩
  cases layout with
  | varint =>
    rw [skipContent] at failed
    cases number : Varint.read bytes with
    | error broken =>
      rw [number] at failed
      cases failed
      exact whole (Varint.fault_of_readWithin number)
    | ok result => rw [number] at failed; cases failed
  | fixed64 => exact enough (fault_of_dropBytes failed)
  | fixed32 => exact enough (fault_of_dropBytes failed)
  | lengthDelimited =>
    rw [skipContent] at failed
    split at failed
    · next broken => cases failed; exact whole (Varint.fault_of_readWithin broken)
    · exact enough (fault_of_dropBytes failed)
  | startGroup => cases failed
  | endGroup => cases failed

/-- What follows the key of an undeclared field and cannot be passed for good stays so, whatever
stands behind it. -/
theorem passUndeclared_append_of_error {opened : List Nat} {key : Key} {bytes : List UInt8}
    {fault : WireFault} (failed : passUndeclared opened key bytes = .error fault)
    (final : fault.Final) (more : List UInt8) :
    passUndeclared opened key (bytes ++ more) = .error fault := by
  unfold passUndeclared at failed ⊢
  split
  · next ends =>
    rw [if_pos ends] at failed
    cases opened with
    | nil => exact failed
    | cons innermost outer =>
      simp only at failed ⊢
      split
      · next same => rw [if_pos same] at failed; cases failed
      · next other => rwa [if_neg other] at failed
  · next closesNone =>
    rw [if_neg closesNone] at failed
    split
    · next deep => rwa [if_pos deep] at failed
    · next shallow =>
      rw [if_neg shallow] at failed
      split at failed
      · cases failed
      · split at failed
        · next broken => cases failed; exact absurd final (not_final_of_skipContent broken)
        · cases failed

/-! ## Values of declared fields -/

/-- **A value is read** exactly where the layout is that of a double and its bytes stand. -/
theorem readDeclared_eq_ok_iff {key : Key} {bytes rest : List UInt8} {value : Binary64} :
    readDeclared key bytes = .ok (value, rest) ↔
      key.wireType = .fixed64 ∧ bytes = doubleBytes value ++ rest := by
  rw [readDeclared, ← readDouble_eq_ok_iff]
  split
  · next double => exact ⟨fun held => ⟨double, held⟩, And.right⟩
  · next other => exact ⟨nofun, fun held => absurd held.1 other⟩

/-- **A value cannot be read** if its layout is another one, or if there are too few bytes. -/
theorem readDeclared_eq_error_iff {key : Key} {bytes : List UInt8} {fault : WireFault} :
    readDeclared key bytes = .error fault ↔
      (key.wireType ≠ .fixed64 ∧ fault = .unexpectedWireType key.wireType) ∨
      (key.wireType = .fixed64 ∧ bytes.length < 8 ∧ fault = .bufferUnderflow) := by
  rw [readDeclared, readDouble]
  split
  · next double =>
    split
    · next short => simp [double, short, eq_comm]
    · next enough => simp [double, enough]
  · next other => simp [other, eq_comm]

/-- A value that cannot be read for good stays so, whatever stands behind it. -/
theorem readDeclared_append_of_error {key : Key} {bytes : List UInt8} {fault : WireFault}
    (failed : readDeclared key bytes = .error fault) (final : fault.Final) (more : List UInt8) :
    readDeclared key (bytes ++ more) = .error fault := by
  rcases readDeclared_eq_error_iff.mp failed with layout | ⟨-, -, short⟩
  · exact readDeclared_eq_error_iff.mpr (.inl layout)
  · exact absurd short final.2

/-! ## Turns -/

/-- What a turn finds and leaves: values of declared fields, the groups that are open behind it, and
the rest of the bytes. -/
structure Turn where
  found : List Occurrence
  still : List Nat
  rest : List UInt8

namespace Schema

variable (schema : Schema)

/-- One turn of the pass: a field, or a key that opens or closes a group. -/
def turn (opened : List Nat) (bytes : List UInt8) : Except DecodeError Turn :=
  match Key.read bytes with
  | .error fault => .error ⟨none, fault⟩
  | .ok (key, content) =>
    match schema.declared? opened key with
    | some field =>
      match readDeclared key content with
      | .error fault => .error ⟨some (schema.name, field), fault⟩
      | .ok (value, rest) => .ok ⟨[⟨key.number, value⟩], opened, rest⟩
    | none =>
      match passUndeclared opened key content with
      | .error fault => .error ⟨none, fault⟩
      | .ok (still, rest) => .ok ⟨[], still, rest⟩

/-- The bytes that a turn takes off the front, and what it finds and leaves there. -/
inductive Passes : List Nat → List UInt8 → List Occurrence → List Nat → Prop
  | declared {number : Nat} {field : String} {key : List UInt8} {value : Binary64}
    (found : schema.fieldName? number = some field) (opens : SpellsKey key ⟨number, .fixed64⟩) :
    Passes [] (key ++ doubleBytes value) [⟨number, value⟩] []
  | content {opened : List Nat} {number : Nat} {layout : WireType} {key bytes : List UInt8}
    (unknown : schema.declared? opened ⟨number, layout⟩ = none)
    (shallow : opened.length < groupLimit) (opens : SpellsKey key ⟨number, layout⟩)
    (holds : Content layout bytes) : Passes opened (key ++ bytes) [] opened
  | opens {opened : List Nat} {number : Nat} {key : List UInt8}
    (unknown : schema.declared? opened ⟨number, .startGroup⟩ = none)
    (shallow : opened.length < groupLimit) (opens : SpellsKey key ⟨number, .startGroup⟩) :
    Passes opened key [] (number :: opened)
  | closes {outer : List Nat} {number : Nat} {key : List UInt8}
    (closes : SpellsKey key ⟨number, .endGroup⟩) : Passes (number :: outer) key [] outer

/-- The bytes that no turn can take, and the error that they are refused with. -/
inductive Stops (opened : List Nat) : List UInt8 → DecodeError → Prop
  | key {bytes : List UInt8} {fault : WireFault} (faulty : Key.read bytes = .error fault) :
    Stops opened bytes ⟨none, fault⟩
  | value {key : Key} {front content : List UInt8} {field : String} {fault : WireFault}
    (opens : SpellsKey front key) (known : schema.declared? opened key = some field)
    (faulty : readDeclared key content = .error fault) :
    Stops opened (front ++ content) ⟨some (schema.name, field), fault⟩
  | content {key : Key} {front content : List UInt8} {fault : WireFault}
    (opens : SpellsKey front key) (unknown : schema.declared? opened key = none)
    (faulty : passUndeclared opened key content = .error fault) :
    Stops opened (front ++ content) ⟨none, fault⟩

variable {schema} {opened still : List Nat} {used bytes rest : List UInt8}
  {found : List Occurrence} {error : DecodeError}

/-- Inside a group no field is declared. -/
theorem declared?_inside (schema : Schema) (number : Nat) (outer : List Nat) (key : Key) :
    schema.declared? (number :: outer) key = none := by
  rw [declared?, if_neg (List.cons_ne_nil _ _)]

/-- At top level a number is looked up in the schema. -/
theorem declared?_top (schema : Schema) (key : Key) :
    schema.declared? [] key = schema.fieldName? key.number := by
  rw [declared?, if_pos rfl]

/-- A declared field stands at top level and has a number of the schema. -/
theorem declared?_eq_some_iff {key : Key} {field : String} :
    schema.declared? opened key = some field ↔
      opened = [] ∧ schema.fieldName? key.number = some field := by
  rw [declared?]
  split
  · next outermost => exact ⟨fun known => ⟨outermost, known⟩, And.right⟩
  · next inside => exact ⟨nofun, fun known => absurd known.1 inside⟩

/-- A turn takes some bytes. -/
theorem Passes.ne_nil (passes : schema.Passes opened used found still) : used ≠ [] := by
  cases passes with
  | declared _ opens => exact List.append_ne_nil_of_left_ne_nil opens.spells.ne_nil _
  | content _ _ opens _ => exact List.append_ne_nil_of_left_ne_nil opens.spells.ne_nil _
  | opens _ _ opens => exact opens.spells.ne_nil
  | closes closes => exact closes.spells.ne_nil

/-- **What can stand in front is taken**, whatever stands behind it. -/
theorem turn_of_passes (passes : schema.Passes opened used found still) (rest : List UInt8) :
    schema.turn opened (used ++ rest) = .ok ⟨found, still, rest⟩ := by
  cases passes with
  | declared known opens =>
    simp only [turn, List.append_assoc, Key.read_of_spellsKey opens, declared?, if_true, known,
      readDeclared, readDouble_doubleBytes]
  | content unknown shallow opens holds =>
    have deep : ¬ groupLimit ≤ opened.length := Nat.not_le.mpr shallow
    have skipped := skipContent_of_content holds rest
    simp only [turn, List.append_assoc, Key.read_of_spellsKey opens, unknown, passUndeclared,
      if_neg deep, skipped]
    cases holds <;> simp
  | opens unknown shallow opens =>
    have deep : ¬ groupLimit ≤ opened.length := Nat.not_le.mpr shallow
    simp [turn, Key.read_of_spellsKey opens, unknown, passUndeclared, deep]
  | closes closes =>
    simp [turn, Key.read_of_spellsKey closes, declared?_inside, passUndeclared]

/-- What stands behind the key of an undeclared field and is passed makes a turn with that key. -/
theorem passes_of_passUndeclared {key : Key} {front : List UInt8}
    (unknown : schema.declared? opened key = none) (opens : SpellsKey front key)
    (passed : passUndeclared opened key bytes = .ok (still, rest)) :
    ∃ used, bytes = used ++ rest ∧ schema.Passes opened (front ++ used) [] still := by
  obtain ⟨number, layout⟩ := key
  unfold passUndeclared at passed
  split at passed
  · next ends =>
    replace ends : layout = .endGroup := ends
    subst ends
    cases opened with
    | nil => cases passed
    | cons innermost outer =>
      simp only at passed
      split at passed
      · next same =>
        cases passed
        replace same : innermost = number := same
        subst same
        exact ⟨[], rfl, by rw [List.append_nil]; exact .closes opens⟩
      · cases passed
  · next closesNone =>
    split at passed
    · cases passed
    · next deep =>
      have shallow : opened.length < groupLimit := Nat.not_le.mp deep
      split at passed
      · next starts =>
        replace starts : layout = .startGroup := starts
        subst starts
        cases passed
        exact ⟨[], rfl, by rw [List.append_nil]; exact .opens unknown shallow opens⟩
      · next opensNone =>
        split at passed
        · cases passed
        · next skipped =>
          cases passed
          obtain ⟨used, same, holds⟩ := content_of_skipContent opensNone closesNone skipped
          exact ⟨used, same, .content unknown shallow opens holds⟩

/-- **What a turn takes** is something that can stand in front. -/
theorem passes_of_turn (taken : schema.turn opened bytes = .ok ⟨found, still, rest⟩) :
    ∃ used, bytes = used ++ rest ∧ schema.Passes opened used found still := by
  rw [turn] at taken
  split at taken
  · cases taken
  · next key content read =>
    obtain ⟨front, rfl, opens⟩ := Key.read_eq_ok_iff.mp read
    split at taken
    · next field known =>
      split at taken
      · cases taken
      · next value behind held =>
        cases taken
        obtain ⟨number, layout⟩ := key
        obtain ⟨rfl, found⟩ := declared?_eq_some_iff.mp known
        obtain ⟨double, rfl⟩ := readDeclared_eq_ok_iff.mp held
        replace double : layout = .fixed64 := double
        subst double
        exact ⟨front ++ doubleBytes value, (List.append_assoc ..).symm, .declared found opens⟩
    · next unknown =>
      split at taken
      · cases taken
      · next passed =>
        cases taken
        obtain ⟨used, rfl, passes⟩ := passes_of_passUndeclared unknown opens passed
        exact ⟨front ++ used, (List.append_assoc ..).symm, passes⟩

/-- **Why a turn fails**: its key cannot be read, or the value of a declared field, or what follows
the key of any other field cannot be passed. -/
theorem stops_of_turn (failed : schema.turn opened bytes = .error error) :
    schema.Stops opened bytes error := by
  rw [turn] at failed
  split at failed
  · next faulty => cases failed; exact .key faulty
  · next key content read =>
    obtain ⟨front, rfl, opens⟩ := Key.read_eq_ok_iff.mp read
    split at failed
    · next known =>
      split at failed
      · next faulty => cases failed; exact .value opens known faulty
      · cases failed
    · next unknown =>
      split at failed
      · next faulty => cases failed; exact .content opens unknown faulty
      · cases failed

/-- What stops a turn makes it fail with that error. -/
theorem turn_of_stops (stops : schema.Stops opened bytes error) :
    schema.turn opened bytes = .error error := by
  cases stops with
  | key faulty => simp only [turn, faulty]
  | value opens known faulty => simp only [turn, Key.read_of_spellsKey opens, known, faulty]
  | content opens unknown faulty => simp only [turn, Key.read_of_spellsKey opens, unknown, faulty]

/-- **A turn that fails for good** fails in the same way whatever stands behind its bytes. -/
theorem turn_append_of_error (failed : schema.turn opened bytes = .error error)
    (final : error.fault.Final) (more : List UInt8) :
    schema.turn opened (bytes ++ more) = .error error := by
  apply turn_of_stops
  cases stops_of_turn failed with
  | key faulty => exact .key (Key.read_append_of_error faulty final.1 more)
  | value opens known faulty =>
    rw [List.append_assoc]
    exact .value opens known (readDeclared_append_of_error faulty final more)
  | content opens unknown faulty =>
    rw [List.append_assoc]
    exact .content opens unknown (passUndeclared_append_of_error faulty final more)

/-! ## The pass takes turns -/

/-- Behind the last field, the pass is done. -/
theorem scan_nil (schema : Schema) : scan schema [] [] = .ok [] := by
  rw [scan, if_pos ⟨rfl, rfl⟩]

/-- **The pass is its turns**: while bytes are left or a group is open, one turn is taken and the
pass goes on behind it. -/
theorem scan_eq_turn (more : ¬ (bytes = [] ∧ opened = [])) :
    scan schema opened bytes =
      match schema.turn opened bytes with
      | .error error => .error error
      | .ok turn => (scan schema turn.still turn.rest).map (turn.found ++ ·) := by
  rw [scan, if_neg more]
  split
  · next faulty => simp only [turn, faulty]
  · next key content read =>
    simp only
    split
    · next field known =>
      split
      · next faulty => simp only [turn, read, known, faulty]
      · next value rest held =>
        simp only [turn, read, known, held]
        cases scan schema opened rest <;> rfl
    · next unknown =>
      split
      · next faulty => simp only [turn, read, unknown, faulty]
      · next still rest passed =>
        simp only [turn, read, unknown, passed]
        cases scan schema still rest <;> rfl

/-- A pass that fails is not done: bytes are left or a group is open. -/
theorem not_done_of_scan_error (failed : scan schema opened bytes = .error error) :
    ¬ (bytes = [] ∧ opened = []) := by
  rintro ⟨rfl, rfl⟩
  rw [scan_nil] at failed
  cases failed

/-- The bytes behind a turn are fewer than those in front of it. -/
theorem length_lt_of_turn (taken : schema.turn opened bytes = .ok ⟨found, still, rest⟩) :
    rest.length < bytes.length := by
  obtain ⟨used, rfl, passes⟩ := passes_of_turn taken
  have := List.length_pos_iff.mpr passes.ne_nil
  rw [List.length_append]
  omega

/-- **Induction on turns**: what holds of bytes if it holds of the rest behind their first turn
holds of all bytes. -/
theorem turn_induction (schema : Schema) {motive : List Nat → List UInt8 → Prop}
    (first : ∀ opened bytes,
      (∀ found still rest, schema.turn opened bytes = .ok ⟨found, still, rest⟩ →
        motive still rest) → motive opened bytes)
    (opened : List Nat) (bytes : List UInt8) : motive opened bytes := by
  induction size : bytes.length using Nat.strong_induction_on generalizing opened bytes with
  | _ size ih =>
    refine first opened bytes fun found still rest taken => ?_
    exact ih rest.length (size ▸ length_lt_of_turn taken) still rest rfl

/-- Bytes that can stand in front are one turn of the pass. -/
theorem scan_of_passes (passes : schema.Passes opened used found still) (rest : List UInt8) :
    scan schema opened (used ++ rest) = (scan schema still rest).map (found ++ ·) := by
  have more : ¬ (used ++ rest = [] ∧ opened = []) := by
    rintro ⟨none, -⟩
    exact passes.ne_nil (List.append_eq_nil_iff.mp none).1
  rw [scan_eq_turn more, turn_of_passes passes]

/-- Bytes that can stand in front and hold no declared field are passed without a trace. -/
theorem scan_of_silent (passes : schema.Passes opened used [] still) (rest : List UInt8) :
    scan schema opened (used ++ rest) = scan schema still rest := by
  rw [scan_of_passes passes]
  cases scan schema still rest <;> rfl

end Schema

end RemainderService.Wire
