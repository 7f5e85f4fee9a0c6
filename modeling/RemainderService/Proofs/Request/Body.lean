import Mathlib.Algebra.Order.Ring.Nat
import RemainderService.RequestBody
import RemainderService.Proofs.Wire.Frames

/-!
# Which bodies are read

The reader of a body is a state machine over pieces. This module says what it decides about the
bytes, as a grammar without states: a body is a run of readable frames, and behind it there is
either an end that is allowed (`CleanEnd`) or a fault (`FaultInFront`).

**The law** (`read_eq_ok_iff`, `read_eq_error_iff`). A body is read as an operand pair just if it is
`Clean`, and the pair is the one in the first frame; it is turned away with a status just if that is
the status of its `FirstFault`.

Both directions rest on one fact about the grammar, that it leaves no bytes out
(`exists_readable_frames`), and on one fact for each thing that can stand behind the readable frames.
-/

set_option autoImplicit false

namespace RemainderService.RequestBody

open Wire

/-! ## The grammar -/

/-- A payload that is accepted: it is not too long, and it is an operand pair. -/
def Readable (payload : List UInt8) : Prop :=
  payload.length ≤ Frame.maxLength ∧ ∃ operands, Operands.decode payload = .ok operands

/-- What may stand behind the last frame: nothing, or a header whose payload never begins. -/
inductive CleanEnd : List UInt8 → Prop
  | nothing : CleanEnd []
  | loneHeader {length : Nat} (positive : 0 < length) (fits : length ≤ Frame.maxLength) :
      CleanEnd (Frame.header length)

/-- A body that is read: one or more readable frames in front of an end that is allowed. The
operands are those in the first frame. -/
inductive Clean : List UInt8 → Operands → Prop
  | intro {first : List UInt8} {later : List (List UInt8)} {rest : List UInt8} {operands : Operands}
      (readable : ∀ payload ∈ first :: later, Readable payload) (clean : CleanEnd rest)
      (decoded : Operands.decode first = .ok operands) :
      Clean ((first :: later).flatMap Frame.write ++ rest) operands

/-- A fault that bytes begin with, and its status: a whole frame whose payload is no operand pair, a
whole header that is refused, or less than a header or a payload in front of the end. -/
inductive FaultInFront : List UInt8 → Status → Prop
  | unreadable {payload rest : List UInt8} {error : DecodeError}
      (fits : payload.length ≤ Frame.maxLength) (refused : Operands.decode payload = .error error) :
      FaultInFront (Frame.write payload ++ rest) (unreadable error)
  | compressed {size rest : List UInt8} (four : size.length = 4) :
      FaultInFront (1 :: size ++ rest) FrameFault.compressed.status
  | invalidFlag {flag : UInt8} {size rest : List UInt8} (four : size.length = 4) (nonzero : flag ≠ 0)
      (notOne : flag ≠ 1) : FaultInFront (flag :: size ++ rest) (FrameFault.invalidFlag flag).status
  | tooLong {size rest : List UInt8} (four : size.length = 4)
      (long : Frame.maxLength < Frame.bigEndian size) :
      FaultInFront (0 :: size ++ rest) (FrameFault.tooLong (Frame.bigEndian size)).status
  | shortHeader {part : List UInt8} (begun : part ≠ []) (short : part.length < Frame.headerSize) :
      FaultInFront part FrameFault.unfinished.status
  | shortPayload {length : Nat} {part : List UInt8} (fits : length ≤ Frame.maxLength)
      (begun : part ≠ []) (short : part.length < length) :
      FaultInFront (Frame.header length ++ part) FrameFault.unfinished.status

/-- The first fault of a body, in the order of the bytes, and its status. A body without a frame in
front of an end that is allowed lacks its message. -/
inductive FirstFault : List UInt8 → Status → Prop
  | behind {payloads : List (List UInt8)} {rest : List UInt8} {status : Status}
      (readable : ∀ payload ∈ payloads, Readable payload) (fault : FaultInFront rest status) :
      FirstFault (payloads.flatMap Frame.write ++ rest) status
  | missing {rest : List UInt8} (clean : CleanEnd rest) : FirstFault rest missing

/-! ## The grammar leaves no bytes out -/

/-- A header that is refused is a fault, whatever stands behind it. -/
theorem faultInFront_of_refused {bytes : List UInt8} {fault : FrameFault}
    (five : bytes.length = Frame.headerSize) (refused : Frame.readHeader bytes = .error fault)
    (rest : List UInt8) : FaultInFront (bytes ++ rest) fault.status := by
  obtain ⟨flag, size, rfl⟩ : ∃ flag size, bytes = flag :: size := by
    cases bytes with
    | nil => cases five
    | cons flag size => exact ⟨flag, size, rfl⟩
  have four : size.length = 4 := Nat.succ.inj five
  rw [Frame.readHeader] at refused
  split at refused
  · next one =>
    cases refused
    rw [one]
    exact .compressed four
  · next notOne =>
    split at refused
    · next nonzero =>
      cases refused
      exact .invalidFlag four nonzero notOne
    · next zero =>
      split at refused
      · next long =>
        cases refused
        rw [Decidable.not_not.mp zero]
        exact .tooLong four long
      · cases refused

/-- What bytes begin with is the end, a fault, or a readable frame. -/
theorem end_or_fault_or_frame (bytes : List UInt8) :
    CleanEnd bytes ∨ (∃ status, FaultInFront bytes status) ∨
      ∃ payload rest, Readable payload ∧ bytes = Frame.write payload ++ rest := by
  by_cases short : bytes.length < Frame.headerSize
  · by_cases empty : bytes = []
    · subst empty
      exact .inl .nothing
    · exact .inr (.inl ⟨_, .shortHeader empty short⟩)
  have five : (bytes.take Frame.headerSize).length = Frame.headerSize :=
    List.length_take_of_le (Nat.not_lt.mp short)
  have whole := List.take_append_drop Frame.headerSize bytes
  generalize bytes.take Frame.headerSize = header at five whole
  generalize bytes.drop Frame.headerSize = behind at whole
  subst whole
  cases announced : Frame.readHeader header with
  | error fault => exact .inr (.inl ⟨_, faultInFront_of_refused five announced behind⟩)
  | ok length =>
    obtain ⟨rfl, fits⟩ := Frame.eq_header_of_readHeader five announced
    by_cases partly : behind.length < length
    · by_cases empty : behind = []
      · subst empty
        rw [List.append_nil]
        exact .inl (.loneHeader partly fits)
      · exact .inr (.inl ⟨_, .shortPayload fits empty partly⟩)
    have complete : (behind.take length).length = length :=
      List.length_take_of_le (Nat.not_lt.mp partly)
    have parts := List.take_append_drop length behind
    generalize behind.take length = payload at complete parts
    generalize behind.drop length = rest at parts
    subst complete parts
    rw [← List.append_assoc, ← Frame.write]
    cases decoded : Operands.decode payload with
    | error error => exact .inr (.inl ⟨_, .unreadable fits decoded⟩)
    | ok operands => exact .inr (.inr ⟨payload, rest, ⟨fits, operands, decoded⟩, rfl⟩)

/-- **Every body** is a run of readable frames, and behind it stands an end that is allowed or a
fault. -/
theorem exists_readable_frames (bytes : List UInt8) :
    ∃ (payloads : List (List UInt8)) (rest : List UInt8),
      bytes = payloads.flatMap Frame.write ++ rest ∧ (∀ payload ∈ payloads, Readable payload) ∧
        (CleanEnd rest ∨ ∃ status, FaultInFront rest status) := by
  -- The frames are taken off the front one by one, so the induction is on the length.
  induction h : bytes.length using Nat.strong_induction_on generalizing bytes with
  | _ size ih =>
    have none_mem : ∀ payload ∈ ([] : List (List UInt8)), Readable payload :=
      fun _ mem => absurd mem List.not_mem_nil
    rcases end_or_fault_or_frame bytes with clean | fault | ⟨payload, rest, readable, rfl⟩
    · exact ⟨[], bytes, rfl, none_mem, .inl clean⟩
    · exact ⟨[], bytes, rfl, none_mem, .inr fault⟩
    · have less : rest.length < size := by
        rw [List.length_append, Frame.length_write, Frame.headerSize] at h
        omega
      obtain ⟨payloads, ending, rfl, others, last⟩ := ih rest.length less rest rfl
      refine ⟨payload :: payloads, ending, ?_, ?_, last⟩
      · rw [List.flatMap_cons, List.append_assoc]
      · exact List.forall_mem_cons.mpr ⟨readable, others⟩

/-! ## What the reader makes of each part -/

/-- Readable payloads are operand pairs all the way, the first one in front. -/
theorem decodeAll_of_readable {payloads : List (List UInt8)}
    (readable : ∀ payload ∈ payloads, Readable payload) :
    ∃ messages, decodeAll payloads = .ok messages := by
  induction payloads with
  | nil => exact ⟨[], rfl⟩
  | cons payload later ih =>
    obtain ⟨⟨-, operands, decoded⟩, others⟩ := List.forall_mem_cons.mp readable
    obtain ⟨messages, rest⟩ := ih others
    exact ⟨operands :: messages, by rw [decodeAll, decoded, rest]⟩

/-- The first payload among readable ones that is no operand pair is reported. -/
theorem decodeAll_of_unreadable {payloads : List (List UInt8)} {bad : List UInt8}
    {error : DecodeError} (readable : ∀ payload ∈ payloads, Readable payload)
    (refused : Operands.decode bad = .error error) (more : List (List UInt8)) :
    decodeAll (payloads ++ bad :: more) = .error (unreadable error) := by
  induction payloads with
  | nil => rw [List.nil_append, decodeAll, refused]
  | cons payload later ih =>
    obtain ⟨⟨-, operands, decoded⟩, others⟩ := List.forall_mem_cons.mp readable
    rw [List.cons_append, decodeAll, decoded, ih others]

/-- A fault that the reader ends with is reported if all payloads are readable. -/
theorem conclude_of_fault {reader : FrameReader} {fault : FrameFault}
    (readable : ∀ payload ∈ reader.payloads, Readable payload)
    (ended : reader.finish = some fault) : conclude reader = .error fault.status := by
  obtain ⟨messages, decoded⟩ := decodeAll_of_readable readable
  rw [conclude, decoded, ended]

/-- At an end that is allowed, the reader keeps its payloads and has nothing to complain about. -/
theorem drain_cleanEnd {rest : List UInt8} (clean : CleanEnd rest)
    (payloads : List (List UInt8)) :
    (FrameReader.drain rest payloads none).payloads = payloads ∧
      (FrameReader.drain rest payloads none).finish = none := by
  cases clean with
  | nothing =>
    rw [FrameReader.drain_short (by decide)]
    exact ⟨rfl, rfl⟩
  | @loneHeader length positive fits =>
    rw [← List.append_nil (Frame.header length), FrameReader.drain_header fits,
      FrameReader.drain_partial positive]
    exact ⟨rfl, rfl⟩

/-- A refused header ends the reader with its fault, whatever stands behind it. -/
theorem conclude_of_refused {payloads : List (List UInt8)} {flag : UInt8} {size : List UInt8}
    {fault : FrameFault} (readable : ∀ payload ∈ payloads, Readable payload)
    (four : size.length = 4) (refused : Frame.readHeader (flag :: size) = .error fault)
    (rest : List UInt8) :
    conclude (FrameReader.drain (flag :: size ++ rest) payloads none) = .error fault.status := by
  have five : (flag :: size).length = Frame.headerSize := congrArg Nat.succ four
  rw [FrameReader.drain_refused five refused]
  exact conclude_of_fault readable rfl

/-- Bytes that are left over at the end are a fault. -/
theorem conclude_of_leftover {payloads : List (List UInt8)} {pending : List UInt8}
    {awaited : Option Nat} (readable : ∀ payload ∈ payloads, Readable payload)
    (begun : pending ≠ []) :
    conclude ⟨pending, awaited, payloads, none⟩ = .error FrameFault.unfinished.status := by
  refine conclude_of_fault readable ?_
  rw [FrameReader.finish]
  exact if_neg begun

/-- **A fault in front is what the reader reports**, if it has met readable frames only. -/
theorem conclude_faultInFront {rest : List UInt8} {status : Status}
    (fault : FaultInFront rest status) {payloads : List (List UInt8)}
    (readable : ∀ payload ∈ payloads, Readable payload) :
    conclude (FrameReader.drain rest payloads none) = .error status := by
  cases fault with
  | @unreadable payload rest error fits refused =>
    rw [FrameReader.drain_write fits]
    obtain ⟨more, found⟩ :=
      FrameReader.payloads_prefix_drain rest (payloads ++ [payload]) none
    rw [List.append_assoc, List.singleton_append] at found
    rw [conclude, ← found, decodeAll_of_unreadable readable refused]
  | compressed four =>
    refine conclude_of_refused readable four ?_ _
    rw [Frame.readHeader, if_pos rfl]
  | invalidFlag four nonzero notOne =>
    refine conclude_of_refused readable four ?_ _
    rw [Frame.readHeader, if_neg notOne, if_pos nonzero]
  | tooLong four long =>
    refine conclude_of_refused readable four ?_ _
    rw [Frame.readHeader, if_neg (by decide), if_neg (by decide), if_pos long]
  | shortHeader begun short =>
    rw [FrameReader.drain_short short]
    exact conclude_of_leftover readable begun
  | shortPayload fits begun short =>
    rw [FrameReader.drain_header fits, FrameReader.drain_partial short]
    exact conclude_of_leftover readable begun

/-! ## The law -/

/-- Draining a run of readable frames hands out their payloads. -/
theorem drain_readable {payloads : List (List UInt8)}
    (readable : ∀ payload ∈ payloads, Readable payload) (rest : List UInt8) :
    FrameReader.drain (payloads.flatMap Frame.write ++ rest) [] none =
      FrameReader.drain rest payloads none := by
  rw [FrameReader.drain_writes payloads (fun payload mem => (readable payload mem).1),
    List.nil_append]

/-- A clean body is read, as the operands in its first frame. -/
theorem read_of_clean {chunks : List (List UInt8)} {operands : Operands}
    (clean : Clean chunks.flatten operands) : read chunks = .ok operands := by
  rw [read, FrameReader.feedAll_start]
  generalize chunks.flatten = bytes at clean
  cases clean with
  | @intro first later rest _ readable ending decoded =>
    obtain ⟨-, others⟩ := List.forall_mem_cons.mp readable
    obtain ⟨messages, all⟩ := decodeAll_of_readable others
    obtain ⟨payloads_eq, finish_eq⟩ := drain_cleanEnd ending (first :: later)
    rw [drain_readable readable, conclude, payloads_eq, finish_eq, decodeAll, decoded, all]

/-- A body with a fault is turned away with the status of the first one. -/
theorem read_of_firstFault {chunks : List (List UInt8)} {status : Status}
    (fault : FirstFault chunks.flatten status) : read chunks = .error status := by
  rw [read, FrameReader.feedAll_start]
  generalize chunks.flatten = bytes at fault
  cases fault with
  | behind readable fault =>
    rw [drain_readable readable]
    exact conclude_faultInFront fault readable
  | missing clean =>
    obtain ⟨payloads_eq, finish_eq⟩ := drain_cleanEnd clean []
    rw [conclude, payloads_eq, finish_eq, decodeAll]

/-- **A body is clean or has a first fault.** -/
theorem clean_or_firstFault (bytes : List UInt8) :
    (∃ operands, Clean bytes operands) ∨ ∃ status, FirstFault bytes status := by
  obtain ⟨payloads, rest, rfl, readable, ending | ⟨status, fault⟩⟩ := exists_readable_frames bytes
  · cases payloads with
    | nil => exact .inr ⟨_, .missing ending⟩
    | cons first later =>
      obtain ⟨⟨-, operands, decoded⟩, -⟩ := List.forall_mem_cons.mp readable
      exact .inl ⟨operands, .intro readable ending decoded⟩
  · exact .inr ⟨status, .behind readable fault⟩

/-- **The bodies that are read** are the clean ones, however they are cut into pieces. -/
theorem read_eq_ok_iff (chunks : List (List UInt8)) (operands : Operands) :
    read chunks = .ok operands ↔ Clean chunks.flatten operands := by
  constructor
  · intro done
    rcases clean_or_firstFault chunks.flatten with ⟨found, clean⟩ | ⟨status, fault⟩
    · rw [read_of_clean clean] at done
      cases done
      exact clean
    · rw [read_of_firstFault fault] at done
      cases done
  · exact read_of_clean

/-- **The bodies that are turned away** are those with a fault, and the first one is the reason. -/
theorem read_eq_error_iff (chunks : List (List UInt8)) (status : Status) :
    read chunks = .error status ↔ FirstFault chunks.flatten status := by
  constructor
  · intro failed
    rcases clean_or_firstFault chunks.flatten with ⟨operands, clean⟩ | ⟨found, fault⟩
    · rw [read_of_clean clean] at failed
      cases failed
    · rw [read_of_firstFault fault] at failed
      cases failed
      exact fault
  · exact read_of_firstFault

end RemainderService.RequestBody
