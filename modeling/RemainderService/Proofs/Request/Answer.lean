import RemainderService.Proofs.Request.Evaluation

/-!
# The wire answer

A remainder over the wire is the remainder itself. The message loses the sign of a zero operand on
the way to the service, and would lose the sign of a zero result on the way back; neither is seen,
because truncation does not tell the zeros apart and no remainder is the negative one.

**The law** (`answers_with_remainder`). A request that carries one operand pair is answered with the
transport status 200, the code 0 behind the body, and one frame with the remainder of the operands
that were sent, for every pair of patterns and every cut of the body. The log is the one of the
computation.
-/

set_option autoImplicit false

namespace RemainderService

/-- A body that is the frame of an operand pair is clean, with the pair as it is read back. -/
theorem RequestBody.clean_write_encode (operands : Operands) :
    Clean (Wire.Frame.write operands.encode) ⟨operands.a.readBack, operands.b.readBack⟩ := by
  have decoded := Operands.decode_encode operands
  have fits : operands.encode.length ≤ Wire.Frame.maxLength :=
    operands.length_encode_le.trans (by decide)
  have readable : ∀ payload ∈ [operands.encode], Readable payload := by
    intro payload mem
    rw [List.mem_singleton.mp mem]
    exact ⟨fits, _, decoded⟩
  have clean := Clean.intro readable .nothing decoded
  rw [List.flatMap_singleton, List.append_nil] at clean
  exact clean

/-- The service answers a call for a remainder without an error. -/
theorem OperationSet.call_modulus (operands : Operands) :
    modulus.call .modulus operands =
      ⟨.ok (evaluateModulus operands).value, (evaluateModulus operands).log⟩ :=
  rfl

/-- The frame with a value is read back as one message with that value, unless it is the negative
zero. -/
theorem Response.body_ofNumber (number : Number) :
    Wire.FrameReader.start.feed (ofNumber number).body = ⟨[], none, [number.encode], none⟩ ∧
      Number.decode number.encode = .ok ⟨number.result.readBack⟩ := by
  have fits : number.encode.length ≤ Wire.Frame.maxLength :=
    number.length_encode_le.trans (by decide)
  exact ⟨Wire.FrameReader.feed_write fits, number.decode_encode⟩

/-- **The wire answer is the answer.** A request for a remainder whose body is the frame of an
operand pair, cut anywhere, is answered with a success: the transport status 200, the code 0 behind
the body, and one frame. Its payload is the remainder of the operands that were sent, bit for bit,
and the log is what their computation leaves. -/
theorem OperationSet.answers_with_remainder {operands : Operands} {request : Request}
    (leads : request.path = Operation.modulus.path) (plain : request.PlainlyEncoded)
    (carries : request.chunks.flatten = Wire.Frame.write operands.encode) :
    ∃ (response : Response) (payload : List UInt8),
      modulus.respond request = ⟨response, (evaluateModulus operands).log⟩ ∧
      response.transportStatus = 200 ∧
      response.headers = [Response.contentType] ∧
      response.trailers = [("grpc-status", "0")] ∧
      response.body = Wire.Frame.write payload ∧
      Wire.FrameReader.start.feed response.body = ⟨[], none, [payload], none⟩ ∧
      Number.decode payload = .ok ⟨(evaluateModulus operands).value⟩ := by
  have clean := RequestBody.clean_write_encode operands
  rw [← carries] at clean
  have asked := Request.invocation_of_clean leads plain clean
  have answered := (Request.evaluates_iff_invocation _).mpr asked modulus
  rw [call_modulus, evaluateModulus_readBack] at answered
  obtain ⟨framed, decoded⟩ := Response.body_ofNumber ⟨(evaluateModulus operands).value⟩
  rw [readBack_evaluateModulus] at decoded
  exact ⟨.ofNumber ⟨(evaluateModulus operands).value⟩, _, answered, rfl, rfl, rfl, rfl, framed,
    decoded⟩

/-- The negative zero and a pattern that is no number, cut inside the header and inside a double: the
remainder is 0, and the divisor is noted as a zero. -/
theorem OperationSet.answers_negative_zero_by_nan :
    let operands : Operands := ⟨⟨0x8000000000000000⟩, ⟨0x7ff8000000000123⟩⟩
    let request : Request := ⟨"/calculator.Calculator/Modulus", "POST", [],
      [[0, 0, 0], [0, 9, 0x11, 0x23], [], [1, 0, 0, 0, 0, 0xf8, 0x7f]]⟩
    request.chunks.flatten = Wire.Frame.write operands.encode ∧
      ∃ (response : Response) (payload : List UInt8),
        modulus.respond request = ⟨response, [.zeroDivisor 0, .computed 0 0 0]⟩ ∧
        response.transportStatus = 200 ∧
        response.body = Wire.Frame.write payload ∧
        Number.decode payload = .ok ⟨.zero⟩ := by
  intro operands request
  have written : operands.encode = [0x11, 0x23, 1, 0, 0, 0, 0, 0xf8, 0x7f] := by
    rw [Operands.encode, Wire.writeField, if_pos (by decide), List.nil_append, Wire.writeField,
      if_neg (by decide), Wire.Key.write, Wire.Varint.write, if_pos (by decide)]
    decide
  have carries : request.chunks.flatten = Wire.Frame.write operands.encode := by
    rw [written]
    decide
  have leads : request.path = Operation.modulus.path := by decide
  have truncated : operands.truncated = (0, 0) := by
    rw [Operands.truncated, Binary64.toInt64_of_isZero (by decide), Binary64.toInt64,
      if_pos (by decide)]
  have evaluated : evaluateModulus operands = ⟨.zero, [.zeroDivisor 0, .computed 0 0 0]⟩ := by
    rw [evaluateModulus, truncated]
    rfl
  obtain ⟨response, payload, answered, success, -, -, framed, -, decoded⟩ :=
    answers_with_remainder leads (.inl rfl) carries
  rw [evaluated] at answered decoded
  exact ⟨carries, response, payload, answered, success, framed, decoded⟩

end RemainderService
