import RemainderService.Binary64
import RemainderService.Wire.Key

/-!
# Scanning a message

One pass over the bytes finds the values of the declared fields and skips all others. The pass
carries the numbers of the groups that are open: at top level the list is empty, and only there a
field number is looked up in the schema. A field inside a group is skipped whatever its number.

**Nesting** is bounded: a field is not skipped inside a hundred groups or more. The bound is checked
before the content is read, and the key that closes a group is not a field. **The pass carries
nothing else** from one field to the next, so at top level it may be cut at any field boundary.
-/

set_option autoImplicit false

namespace RemainderService.Wire

/-- The declared fields of a message: all doubles, numbered from 1 in this order. -/
structure Schema where
  name : String
  fields : List String
deriving DecidableEq, Repr

/-- The name of a declared field. -/
def Schema.fieldName? (schema : Schema) : Nat → Option String
  | 0 => none
  | number + 1 => schema.fields[number]?

/-- A value of a declared field, as it occurs in the bytes. -/
structure Occurrence where
  number : Nat
  value : Binary64
deriving DecidableEq, Repr

/-- The most groups that may be open around a skipped field, plus one. -/
def groupLimit : Nat := 100

/-- The number with these bytes, lowest first. -/
def littleEndian : List UInt8 → Nat
  | [] => 0
  | b :: rest => b.toNat + 256 * littleEndian rest

/-- This many bytes of a number, lowest first. -/
def lowBytes : Nat → Nat → List UInt8
  | 0, _ => []
  | count + 1, n => UInt8.ofNat (n % 256) :: lowBytes count (n / 256)

/-- The eight bytes of a pattern, lowest first. -/
def doubleBytes (x : Binary64) : List UInt8 :=
  lowBytes 8 x.bits.toNat

/-- Drop this many bytes. -/
def dropBytes (count : Nat) (bytes : List UInt8) : Except WireFault (List UInt8) :=
  if bytes.length < count then .error .bufferUnderflow else .ok (bytes.drop count)

/-- Read the eight bytes of a pattern. -/
def readDouble (bytes : List UInt8) : Except WireFault (Binary64 × List UInt8) :=
  if bytes.length < 8 then .error .bufferUnderflow
  else .ok (⟨UInt64.ofNat (littleEndian (bytes.take 8))⟩, bytes.drop 8)

/-- The value of a declared field: it has to be laid out as a double. -/
def readDeclared (key : Key) (bytes : List UInt8) : Except WireFault (Binary64 × List UInt8) :=
  if key.wireType = .fixed64 then readDouble bytes
  else .error (.unexpectedWireType key.wireType)

/-- Pass the content of an undeclared field of this layout that is no group. -/
def skipContent (wireType : WireType) (bytes : List UInt8) : Except WireFault (List UInt8) :=
  match wireType with
  | .varint => (Varint.read bytes).map (·.2)
  | .fixed64 => dropBytes 8 bytes
  | .fixed32 => dropBytes 4 bytes
  | .lengthDelimited =>
    match Varint.read bytes with
    | .error fault => .error fault
    | .ok (length, rest) => dropBytes length rest
  | .startGroup => .ok bytes
  | .endGroup => .ok bytes

/-- Pass what follows the key of an undeclared field: close a group, open one, or skip a content.
The groups that are open afterwards come with the rest. -/
def passUndeclared (opened : List Nat) (key : Key) (bytes : List UInt8) :
    Except WireFault (List Nat × List UInt8) :=
  if key.wireType = .endGroup then
    match opened with
    | [] => .error .unexpectedEndGroup
    | number :: outer =>
      if number = key.number then .ok (outer, bytes) else .error .unexpectedEndGroup
  else if groupLimit ≤ opened.length then .error .recursionLimit
  else if key.wireType = .startGroup then .ok (key.number :: opened, bytes)
  else
    match skipContent key.wireType bytes with
    | .error fault => .error fault
    | .ok rest => .ok (opened, rest)

/-- The name of the declared field that a key stands for here: none inside a group. -/
def Schema.declared? (schema : Schema) (opened : List Nat) (key : Key) : Option String :=
  if opened = [] then schema.fieldName? key.number else none

/-! ## Rests are shorter -/

/-- Dropping bytes leaves no more of them. -/
theorem length_le_of_dropBytes {count : Nat} {bytes rest : List UInt8}
    (h : dropBytes count bytes = .ok rest) : rest.length ≤ bytes.length := by
  unfold dropBytes at h
  split at h
  · cases h
  · cases h
    simp

/-- Reading a declared value leaves no more bytes. -/
theorem length_le_of_readDeclared {key : Key} {bytes rest : List UInt8} {x : Binary64}
    (h : readDeclared key bytes = .ok (x, rest)) : rest.length ≤ bytes.length := by
  unfold readDeclared readDouble at h
  split at h
  · split at h
    · cases h
    · cases h
      simp
  · cases h

/-- Skipping content leaves no more bytes. -/
theorem length_le_of_skipContent {wireType : WireType} {bytes rest : List UInt8}
    (h : skipContent wireType bytes = .ok rest) : rest.length ≤ bytes.length := by
  unfold skipContent at h
  split at h
  · cases hv : Varint.read bytes with
    | error fault => rw [hv] at h; cases h
    | ok r =>
      rw [hv] at h
      cases h
      exact Nat.le_of_lt (Varint.length_lt_of_read hv)
  · exact length_le_of_dropBytes h
  · exact length_le_of_dropBytes h
  · split at h
    · cases h
    · next hv =>
      exact Nat.le_trans (length_le_of_dropBytes h) (Nat.le_of_lt (Varint.length_lt_of_read hv))
  · cases h; exact Nat.le_refl _
  · cases h; exact Nat.le_refl _

/-- Passing an undeclared field leaves no more bytes. -/
theorem length_le_of_passUndeclared {opened still : List Nat} {key : Key}
    {bytes rest : List UInt8} (h : passUndeclared opened key bytes = .ok (still, rest)) :
    rest.length ≤ bytes.length := by
  unfold passUndeclared at h
  split at h
  · split at h
    · cases h
    · split at h
      · cases h; exact Nat.le_refl _
      · cases h
  · split at h
    · cases h
    · split at h
      · cases h; exact Nat.le_refl _
      · split at h
        · cases h
        · next hs =>
          cases h
          exact length_le_of_skipContent hs

/-! ## The pass -/

/-- The values of the declared fields in the order of their occurrence. The bytes may end where no
group is open; inside a group they end before the key that closes it. -/
def scan (schema : Schema) (opened : List Nat) (bytes : List UInt8) :
    Except DecodeError (List Occurrence) :=
  if bytes = [] ∧ opened = [] then .ok []
  else
    match hk : Key.read bytes with
    | .error fault => .error ⟨none, fault⟩
    | .ok (key, content) =>
      have := Key.length_lt_of_read hk
      match schema.declared? opened key with
      | some field =>
        match hd : readDeclared key content with
        | .error fault => .error ⟨some (schema.name, field), fault⟩
        | .ok (value, rest) =>
          have := length_le_of_readDeclared hd
          match scan schema opened rest with
          | .error error => .error error
          | .ok later => .ok (⟨key.number, value⟩ :: later)
      | none =>
        match hp : passUndeclared opened key content with
        | .error fault => .error ⟨none, fault⟩
        | .ok (still, rest) =>
          have := length_le_of_passUndeclared hp
          scan schema still rest
termination_by bytes.length
decreasing_by all_goals omega

end RemainderService.Wire
