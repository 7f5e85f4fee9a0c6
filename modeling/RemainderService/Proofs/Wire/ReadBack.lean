import RemainderService.Wire.Message
import RemainderService.Proofs.Wire.Turns
import RemainderService.Proofs.Zeros

/-!
# Messages are read back

What is written for a message is read as that message, with one exception: a field that compares
equal to zero is not written, so it comes back as positive zero (`Binary64.readBack`).

The pass over the bytes meets the declared fields one after the other. One turn of it
(`scan_declared`) takes a key and eight bytes and leaves the pass where it was, at top level in
front of the rest; a written field is either such a turn or no bytes at all (`scan_writeField`).
-/

set_option autoImplicit false

namespace RemainderService

namespace Wire

/-! ## One field -/

/-- A declared field is one turn of the pass at top level. -/
theorem scan_declared {schema : Schema} {number : Nat} {field : String} {key : List UInt8}
    (found : schema.fieldName? number = some field) (opens : SpellsKey key ⟨number, .fixed64⟩)
    (value : Binary64) (rest : List UInt8) :
    scan schema [] (key ++ (doubleBytes value ++ rest)) =
      (scan schema [] rest).map (⟨number, value⟩ :: ·) := by
  have passes : schema.Passes [] (key ++ doubleBytes value) [⟨number, value⟩] [] :=
    .declared found opens
  rw [← List.append_assoc, Schema.scan_of_passes passes]
  rfl

/-- A written field is read as its value if it is not zero, and leaves no trace if it is. -/
theorem scan_writeField {schema : Schema} {number : Nat} {field : String}
    (found : schema.fieldName? number = some field) (positive : 0 < number)
    (small : number < 536870912) (value : Binary64) (rest : List UInt8) :
    scan schema [] (writeField number value ++ rest) =
      (scan schema [] rest).map
        ((if value.isZero then [] else [⟨number, value⟩] : List Occurrence) ++ ·) := by
  rw [writeField]
  cases zero : value.isZero with
  | true =>
    rw [if_pos rfl, if_pos rfl, List.nil_append]
    cases scan schema [] rest with
    | error error => rfl
    | ok later => rfl
  | false =>
    have value_le : (Key.mk number .fixed64).value ≤ Key.maxValue := by
      show 8 * number + 1 ≤ 4294967295
      omega
    rw [if_neg Bool.false_ne_true, if_neg Bool.false_ne_true, List.append_assoc,
      scan_declared found (Key.spellsKey_write value_le positive)]
    rfl

end Wire

/-! ## The two messages -/

/-- **An operand pair is read back**, each operand on its own. -/
theorem Operands.decode_encode (o : Operands) :
    Operands.decode o.encode = .ok ⟨o.a.readBack, o.b.readBack⟩ := by
  have first : schema.fieldName? 1 = some "a" := rfl
  have second : schema.fieldName? 2 = some "b" := rfl
  have written : o.encode = Wire.writeField 1 o.a ++ (Wire.writeField 2 o.b ++ []) := by
    rw [List.append_nil, encode]
  rw [decode, written, Wire.scan_writeField first (by decide) (by decide),
    Wire.scan_writeField second (by decide) (by decide), Wire.Schema.scan_nil]
  unfold Binary64.readBack
  cases o.a.isZero <;> cases o.b.isZero <;> rfl

/-- **A reply is read back.** -/
theorem Number.decode_encode (n : Number) :
    Number.decode n.encode = .ok ⟨n.result.readBack⟩ := by
  have found : schema.fieldName? 1 = some "result" := rfl
  have written : n.encode = Wire.writeField 1 n.result ++ [] := by rw [List.append_nil, encode]
  rw [decode, written, Wire.scan_writeField found (by decide) (by decide), Wire.Schema.scan_nil]
  unfold Binary64.readBack
  cases n.result.isZero <;> rfl

/-! ## Lengths -/

/-- A written field with a short key has at most nine bytes. -/
theorem Wire.length_writeField_le {number : Nat} (small : number < 16) (value : Binary64) :
    (writeField number value).length ≤ 9 := by
  rw [writeField]
  split
  · decide
  · have short : Key.value ⟨number, .fixed64⟩ < 128 := by
      show 8 * number + 1 < 128
      omega
    rw [List.length_append, length_doubleBytes, Key.write, Varint.write, if_pos short,
      List.length_singleton]

/-- An operand pair has at most eighteen bytes. -/
theorem Operands.length_encode_le (o : Operands) : o.encode.length ≤ 18 := by
  have first := Wire.length_writeField_le (by decide : 1 < 16) o.a
  have second := Wire.length_writeField_le (by decide : 2 < 16) o.b
  rw [encode, List.length_append]
  omega

/-- A reply has at most nine bytes. -/
theorem Number.length_encode_le (n : Number) : n.encode.length ≤ 9 :=
  Wire.length_writeField_le (by decide) n.result

end RemainderService
