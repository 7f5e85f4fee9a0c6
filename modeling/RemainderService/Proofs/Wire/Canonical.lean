import RemainderService.Proofs.Wire.Acceptance
import RemainderService.Proofs.Wire.ReadBack

/-!
# Canonical bytes

Many byte strings are read as one message, and writing it picks one of them. **What is written**
depends on a field only as far as it comes back (`Wire.writeField_readBack`), so two messages have
the same bytes just if their fields come back as the same patterns: if they agree up to the sign of
a zero (`Operands.encode_eq_iff`, `Number.encode_eq_iff`).

**The law** (`decoding_undoes_encoding`): every message comes back from its bytes with no field
changed but a negative zero, and the bytes that are written for a message that was read, from
whatever bytes, are read as a message that agrees with it and written for that one again.
-/

set_option autoImplicit false

namespace RemainderService

open Binary64

/-- A double that is written does not depend on the sign of a zero. -/
theorem Wire.writeField_readBack (number : Nat) (value : Binary64) :
    writeField number value.readBack = writeField number value := by
  by_cases zero : value.isZero = true
  · have back : value.readBack.isZero = true := by
      rw [readBack, if_pos zero]
      rfl
    rw [writeField, writeField, if_pos back, if_pos zero]
  · rw [readBack, if_neg zero]

/-! ## Messages as they come back -/

namespace Operands

/-- An operand pair as it comes back. -/
def readBack (o : Operands) : Operands := ⟨o.a.readBack, o.b.readBack⟩

/-- An operand pair is written as it comes back. -/
theorem encode_readBack (o : Operands) : o.readBack.encode = o.encode := by
  rw [encode, readBack, Wire.writeField_readBack, Wire.writeField_readBack, encode]

/-- **Two operand pairs have the same bytes** just if their operands agree. -/
theorem encode_eq_iff {o p : Operands} : o.encode = p.encode ↔ Agrees o.a p.a ∧ Agrees o.b p.b := by
  rw [agrees_iff_readBack, agrees_iff_readBack]
  constructor
  · intro same
    -- The same bytes are read as one message, and that is what both come back as.
    have back : Operands.mk o.a.readBack o.b.readBack = ⟨p.a.readBack, p.b.readBack⟩ :=
      Except.ok.inj ((decode_encode o).symm.trans ((congrArg decode same).trans (decode_encode p)))
    exact ⟨congrArg Operands.a back, congrArg Operands.b back⟩
  · rintro ⟨first, second⟩
    have back : o.readBack = p.readBack := by rw [readBack, readBack, first, second]
    rw [← encode_readBack o, back, encode_readBack]

end Operands

namespace Number

/-- A reply as it comes back. -/
def readBack (n : Number) : Number := ⟨n.result.readBack⟩

/-- A reply is written as it comes back. -/
theorem encode_readBack (n : Number) : n.readBack.encode = n.encode :=
  Wire.writeField_readBack 1 n.result

/-- **Two replies have the same bytes** just if their values agree. -/
theorem encode_eq_iff {n m : Number} : n.encode = m.encode ↔ Agrees n.result m.result := by
  rw [agrees_iff_readBack]
  constructor
  · intro same
    have back : Number.mk n.result.readBack = ⟨m.result.readBack⟩ :=
      Except.ok.inj ((decode_encode n).symm.trans ((congrArg decode same).trans (decode_encode m)))
    exact congrArg Number.result back
  · intro value
    have back : n.readBack = m.readBack := by rw [readBack, readBack, value]
    rw [← encode_readBack n, back, encode_readBack]

end Number

/-! ## The law -/

/-- How a field comes back: a negative zero as a positive one, any other pattern bit for bit. -/
inductive ComesBack : Binary64 → Binary64 → Prop
  | unchanged {x : Binary64} (other : x ≠ negativeZero) : ComesBack x x
  | negativeZero : ComesBack negativeZero .zero

/-- What comes back is the double as it is read back. -/
theorem comesBack_readBack (x : Binary64) : ComesBack x x.readBack := by
  by_cases negative : x = Binary64.negativeZero
  · rw [negative]
    exact .negativeZero
  · rw [readBack_of_ne negative]
    exact .unchanged negative

/-- **Reading undoes writing**, for both messages.

1. The bytes of a message are read, and every field comes back.
2. Two messages have the same bytes just if their fields agree up to the sign of a zero.
3. Whatever bytes a message was read from, the bytes that are written for it are canonical: they are
   read as a message that agrees with it, and that message has the same bytes. -/
theorem decoding_undoes_encoding :
    (∀ o : Operands, ∃ back, Operands.decode o.encode = .ok back ∧
      ComesBack o.a back.a ∧ ComesBack o.b back.b) ∧
    (∀ n : Number, ∃ back, Number.decode n.encode = .ok back ∧ ComesBack n.result back.result) ∧
    (∀ o p : Operands, o.encode = p.encode ↔ Agrees o.a p.a ∧ Agrees o.b p.b) ∧
    (∀ n m : Number, n.encode = m.encode ↔ Agrees n.result m.result) ∧
    (∀ bytes o, Operands.decode bytes = .ok o → ∃ back, Operands.decode o.encode = .ok back ∧
      Agrees back.a o.a ∧ Agrees back.b o.b ∧ back.encode = o.encode) ∧
    (∀ bytes n, Number.decode bytes = .ok n → ∃ back, Number.decode n.encode = .ok back ∧
      Agrees back.result n.result ∧ back.encode = n.encode) := by
  refine ⟨fun o => ?_, fun n => ?_, fun _ _ => Operands.encode_eq_iff,
    fun _ _ => Number.encode_eq_iff, fun bytes o read => ?_, fun bytes n read => ?_⟩
  · exact ⟨_, Operands.decode_encode o, comesBack_readBack o.a, comesBack_readBack o.b⟩
  · exact ⟨_, Number.decode_encode n, comesBack_readBack n.result⟩
  · exact ⟨o.readBack, Operands.decode_encode o, agrees_readBack o.a, agrees_readBack o.b,
      o.encode_readBack⟩
  · exact ⟨n.readBack, Number.decode_encode n, agrees_readBack n.result, n.encode_readBack⟩

/-- The first operand twice, once with a key that is a byte too long, an unknown field between, and
a negative zero: the pair that is read is written without the zero, and that is read and written
again without a change. -/
theorem rewrites_repeated_operand :
    let one : Binary64 := ⟨0x3ff0000000000000⟩
    let two : Binary64 := ⟨0x4000000000000000⟩
    let bytes := [0x89, 0x00] ++ (Wire.doubleBytes one ++ ([0x18] ++ ([0x05] ++
      ([0x09] ++ (Wire.doubleBytes two ++
        ([0x11] ++ (Wire.doubleBytes Binary64.negativeZero ++ [])))))))
    Operands.decode bytes = .ok ⟨two, Binary64.negativeZero⟩ ∧
      ∃ back, Operands.decode (Operands.encode ⟨two, Binary64.negativeZero⟩) = .ok back ∧
        Agrees back.a two ∧ Agrees back.b Binary64.negativeZero ∧
          back.encode = Operands.encode ⟨two, Binary64.negativeZero⟩ := by
  intro one two bytes
  have longKey : Wire.SpellsKey [0x89, 0x00] ⟨1, .fixed64⟩ :=
    ⟨.more (by decide) (.last (by decide) (by decide)), by decide, by decide⟩
  have unknown : Wire.SpellsKey [0x18] ⟨3, .varint⟩ :=
    ⟨.last (by decide) (by decide), by decide, by decide⟩
  have first : Wire.SpellsKey [0x09] ⟨1, .fixed64⟩ :=
    ⟨.last (by decide) (by decide), by decide, by decide⟩
  have second : Wire.SpellsKey [0x11] ⟨2, .fixed64⟩ :=
    ⟨.last (by decide) (by decide), by decide, by decide⟩
  have five : Wire.Content .varint [0x05] := .varint (.last (by decide) (by decide))
  have body : Wire.Body Operands.schema bytes
      [⟨1, one⟩, ⟨1, two⟩, ⟨2, Binary64.negativeZero⟩] :=
    .declared rfl longKey
      (.content rfl unknown five (.declared rfl first (.declared rfl second .none)))
  have read : Operands.decode bytes = .ok ⟨two, Binary64.negativeZero⟩ :=
    Operands.decode_eq_ok_iff.mpr
      ⟨_, body, Wire.gives_iff_lastValue.mpr rfl, Wire.gives_iff_lastValue.mpr rfl⟩
  obtain ⟨-, -, -, -, rereads, -⟩ := decoding_undoes_encoding
  exact ⟨read, rereads _ _ read⟩

end RemainderService
