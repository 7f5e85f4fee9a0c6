import RemainderService.Wire.Frame

/-!
# Frames are read back

What the reader of frames does with each thing that can stand in front of it: a header, a payload, a
whole frame, a run of frames, a header that is refused, and less than any of these. A frame that was
written is taken off the front and its payload handed out (`drain_write`); the rest of the bytes
meets the reader as it was before, but for that payload.

The payloads that have been handed out are never taken back (`payloads_prefix_drain`), so whatever
is found behind a payload leaves it in its place.
-/

set_option autoImplicit false

namespace RemainderService.Wire

namespace Frame

/-- A header has five bytes. -/
theorem length_header (length : Nat) : (header length).length = headerSize := rfl

/-- The four bytes behind the flag are the length, as long as it fits into them. -/
theorem bigEndian_tail_header {length : Nat} (small : length < 4294967296) :
    bigEndian (header length).tail = length := by
  simp only [header, List.tail_cons, bigEndian, List.foldl_cons, List.foldl_nil,
    UInt8.toNat_ofNat']
  omega

/-- A header announces the length that it was written for. -/
theorem readHeader_header {length : Nat} (fits : length ≤ maxLength) :
    readHeader (header length) = .ok length := by
  have small : length < 4294967296 := by
    rw [maxLength] at fits
    omega
  have announced := bigEndian_tail_header small
  rw [header, List.tail_cons] at announced
  rw [header, readHeader, if_neg (by decide), if_neg (by decide), announced,
    if_neg (Nat.not_lt.mpr fits)]

/-- **The headers that announce a length** are those that are written for it. -/
theorem eq_header_of_readHeader {bytes : List UInt8} {length : Nat}
    (five : bytes.length = headerSize) (announced : readHeader bytes = .ok length) :
    bytes = header length ∧ length ≤ maxLength := by
  obtain ⟨flag, b₁, b₂, b₃, b₄, rfl⟩ : ∃ flag b₁ b₂ b₃ b₄, bytes = [flag, b₁, b₂, b₃, b₄] := by
    match bytes, five with
    | [flag, b₁, b₂, b₃, b₄], _ => exact ⟨flag, b₁, b₂, b₃, b₄, rfl⟩
  rw [readHeader] at announced
  split at announced
  · cases announced
  · split at announced
    · cases announced
    · next zero =>
      split at announced
      · cases announced
      · next fits =>
        cases announced
        refine ⟨?_, Nat.not_lt.mp fits⟩
        have flag_eq : flag = 0 := Decidable.not_not.mp zero
        have h₁ := b₁.toNat_lt
        have h₂ := b₂.toNat_lt
        have h₃ := b₃.toNat_lt
        have h₄ := b₄.toNat_lt
        simp only [bigEndian, List.foldl_cons, List.foldl_nil]
        rw [header, flag_eq]
        congr
        all_goals
          apply UInt8.toNat_inj.mp
          rw [UInt8.toNat_ofNat']
          omega

/-- A frame is longer than its payload by the header. -/
theorem length_write (payload : List UInt8) :
    (write payload).length = headerSize + payload.length := by
  rw [write, List.length_append, length_header]

end Frame

namespace FrameReader

open Wire.Frame

variable {payloads : List (List UInt8)} {length : Nat}

/-! ## What can stand in front of the reader -/

/-- Less than a header is kept. -/
theorem drain_short {pending : List UInt8} (short : pending.length < headerSize) :
    drain pending payloads none = ⟨pending, none, payloads, none⟩ := by
  rw [drain, if_pos short]

/-- A header is taken off the front. -/
theorem drain_header (fits : length ≤ maxLength) (rest : List UInt8) :
    drain (header length ++ rest) payloads none = drain rest payloads (some length) := by
  have enough : ¬ (header length ++ rest).length < headerSize := by
    rw [List.length_append, length_header]
    omega
  rw [drain, if_neg enough, List.take_left' (length_header length), readHeader_header fits,
    List.drop_left' (length_header length)]

/-- A header that is refused stops the reader. -/
theorem drain_refused {bytes : List UInt8} {fault : FrameFault} (five : bytes.length = headerSize)
    (refused : readHeader bytes = .error fault) (rest : List UInt8) :
    drain (bytes ++ rest) payloads none = ⟨[], none, payloads, some fault⟩ := by
  have enough : ¬ (bytes ++ rest).length < headerSize := by
    rw [List.length_append]
    omega
  rw [drain, if_neg enough, List.take_left' five, refused]

/-- Less than a payload is kept. -/
theorem drain_partial {pending : List UInt8} (short : pending.length < length) :
    drain pending payloads (some length) = ⟨pending, some length, payloads, none⟩ := by
  rw [drain, if_pos short]

/-- A payload is handed out. -/
theorem drain_payload (payload rest : List UInt8) :
    drain (payload ++ rest) payloads (some payload.length) =
      drain rest (payloads ++ [payload]) none := by
  have enough : ¬ (payload ++ rest).length < payload.length := by
    rw [List.length_append]
    omega
  rw [drain.eq_2 (payload ++ rest), if_neg enough, List.take_left, List.drop_left]

/-- **A written frame is read back**: its payload is handed out, and the reader stands in front of
the rest as before. -/
theorem drain_write {payload : List UInt8} (fits : payload.length ≤ maxLength)
    (rest : List UInt8) :
    drain (write payload ++ rest) payloads none = drain rest (payloads ++ [payload]) none := by
  rw [write, List.append_assoc, drain_header fits, drain_payload]

/-- A run of frames is read back. -/
theorem drain_writes (frames : List (List UInt8)) (fits : ∀ payload ∈ frames,
    payload.length ≤ maxLength) (rest : List UInt8) :
    drain (frames.flatMap write ++ rest) payloads none = drain rest (payloads ++ frames) none := by
  induction frames generalizing payloads with
  | nil => rw [List.flatMap_nil, List.nil_append, List.append_nil]
  | cons payload later ih =>
    have here := fits payload List.mem_cons_self
    have others := fun payload mem => fits payload (List.mem_cons_of_mem _ mem)
    rw [List.flatMap_cons, List.append_assoc, drain_write here, ih others, List.append_assoc,
      List.singleton_append]

/-- A single frame leaves the reader between two frames, with one payload. -/
theorem feed_write {payload : List UInt8} (fits : payload.length ≤ maxLength) :
    start.feed (write payload) = ⟨[], none, [payload], none⟩ := by
  rw [feed, start, if_neg (by decide), List.nil_append, ← List.append_nil (write payload),
    drain_write fits, drain_short (by decide), List.nil_append]

/-- Payloads that have been handed out stay in front of all later ones. -/
theorem payloads_prefix_drain (pending : List UInt8) (payloads : List (List UInt8))
    (awaited : Option Nat) : payloads <+: (drain pending payloads awaited).payloads := by
  fun_induction drain pending payloads awaited with
  | case1 => exact List.prefix_refl _
  | case2 => exact List.prefix_refl _
  | case3 pending payloads complete length announced ih => exact ih
  | case4 => exact List.prefix_refl _
  | case5 pending payloads length complete ih =>
    exact (List.prefix_append payloads [pending.take length]).trans ih

end FrameReader

end RemainderService.Wire
