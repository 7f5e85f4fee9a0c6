import RemainderService.Wire.Scan

/-!
# The grammar of messages

What bytes are a message is said here without a reader: by the spellings of numbers, the layouts of
contents, runs of fields in groups, and runs of fields at top level. The grammar says nothing about
the order in which faults are found; it only knows what is well formed.

**Spellings are not unique**: a number may be written with more bytes than it needs. **A group** is
closed by a key with its own number and may hold fields of any number, declared or not; how many
groups may be open around a field is bounded.
-/

set_option autoImplicit false

namespace RemainderService.Wire

/-- The bytes spell this number, in at most this many bytes. All bytes but the last have their high
bit set; if there is room for one byte only, that byte holds 0 or 1. -/
inductive Spelling : Nat → List UInt8 → Nat → Prop
  | last {room : Nat} {b : UInt8} (low : b.toNat < 128) (fits : room = 0 → b.toNat ≤ 1) :
    Spelling (room + 1) [b] b.toNat
  | more {room : Nat} {b : UInt8} {rest : List UInt8} {high : Nat} (continues : 128 ≤ b.toNat)
    (later : Spelling room rest high) :
    Spelling (room + 1) (b :: rest) (b.toNat - 128 + 128 * high)

/-- The bytes spell a number as it stands in a message. -/
abbrev Spells (bytes : List UInt8) (n : Nat) : Prop := Spelling 10 bytes n

/-- The bytes spell a key: its value is not too large and its number is not 0. -/
structure SpellsKey (bytes : List UInt8) (key : Key) : Prop where
  spells : Spells bytes key.value
  value_le : key.value ≤ Key.maxValue
  number_pos : 0 < key.number

/-- The bytes are a content of this layout; groups are not contents. -/
inductive Content : WireType → List UInt8 → Prop
  | varint {bytes : List UInt8} {n : Nat} (spells : Spells bytes n) : Content .varint bytes
  | fixed64 {bytes : List UInt8} (length_eq : bytes.length = 8) : Content .fixed64 bytes
  | fixed32 {bytes : List UInt8} (length_eq : bytes.length = 4) : Content .fixed32 bytes
  | lengthDelimited {size block : List UInt8} (spells : Spells size block.length) :
    Content .lengthDelimited (size ++ block)

/-- The bytes are a run of fields of any numbers, inside this many groups. -/
inductive Fields : Nat → List UInt8 → Prop
  | none {depth : Nat} : Fields depth []
  | content {depth number : Nat} {layout : WireType} {key bytes rest : List UInt8}
    (shallow : depth < groupLimit) (opens : SpellsKey key ⟨number, layout⟩)
    (holds : Content layout bytes) (later : Fields depth rest) :
    Fields depth (key ++ (bytes ++ rest))
  | group {depth number : Nat} {first inner last rest : List UInt8} (shallow : depth < groupLimit)
    (opens : SpellsKey first ⟨number, .startGroup⟩) (holds : Fields (depth + 1) inner)
    (closes : SpellsKey last ⟨number, .endGroup⟩) (later : Fields depth rest) :
    Fields depth (first ++ (inner ++ (last ++ rest)))

/-- The bytes are a message with these values of declared fields, in this order. A declared field
is a double; any other field is passed over. -/
inductive Body (schema : Schema) : List UInt8 → List Occurrence → Prop
  | none : Body schema [] []
  | declared {number : Nat} {field : String} {key rest : List UInt8} {value : Binary64}
    {occurrences : List Occurrence} (found : schema.fieldName? number = some field)
    (opens : SpellsKey key ⟨number, .fixed64⟩) (later : Body schema rest occurrences) :
    Body schema (key ++ (doubleBytes value ++ rest)) (⟨number, value⟩ :: occurrences)
  | content {number : Nat} {layout : WireType} {key bytes rest : List UInt8}
    {occurrences : List Occurrence} (unknown : schema.fieldName? number = Option.none)
    (opens : SpellsKey key ⟨number, layout⟩) (holds : Content layout bytes)
    (later : Body schema rest occurrences) :
    Body schema (key ++ (bytes ++ rest)) occurrences
  | group {number : Nat} {first inner last rest : List UInt8} {occurrences : List Occurrence}
    (unknown : schema.fieldName? number = Option.none)
    (opens : SpellsKey first ⟨number, .startGroup⟩) (holds : Fields 1 inner)
    (closes : SpellsKey last ⟨number, .endGroup⟩) (later : Body schema rest occurrences) :
    Body schema (first ++ (inner ++ (last ++ rest))) occurrences

end RemainderService.Wire
