import RemainderService.Status

/-!
# Frames

A message travels in a frame: a flag byte, a length of four bytes with the highest first, and the
payload. `write` makes a frame. The reader takes a body in pieces, cut anywhere: it keeps the bytes
that it cannot use yet and the length that it waits for, and hands out payloads as they complete.

**Cuts do not matter** (`feedAll_start`): the state depends on the bytes alone. **What is refused**
is found at the header, before the payload arrives: a flag other than 0 and a length above the
limit. **Where a body may end** is between two frames, and also right behind a header whose payload
never begins; anything less than a whole header or a whole payload that is left over at the end is
a fault too.
-/

set_option autoImplicit false

namespace RemainderService.Wire

/-- Why a body is no sequence of frames. -/
inductive FrameFault
  | compressed
  | invalidFlag (flag : UInt8)
  | tooLong (length : Nat)
  | unfinished
deriving DecidableEq, Repr

namespace Frame

/-- The bytes of a header. -/
def headerSize : Nat := 5

/-- The longest payload that is accepted. -/
def maxLength : Nat := 4194304

/-- The number with these bytes, highest first. -/
def bigEndian (bytes : List UInt8) : Nat :=
  bytes.foldl (fun n b => 256 * n + b.toNat) 0

/-- The header of a frame with a payload of this length. -/
def header (length : Nat) : List UInt8 :=
  [0, UInt8.ofNat (length / 0x1000000), UInt8.ofNat (length / 0x10000),
    UInt8.ofNat (length / 0x100), UInt8.ofNat length]

/-- The frame around a payload. -/
def write (payload : List UInt8) : List UInt8 :=
  header payload.length ++ payload

/-- The length that a header announces. The flag is looked at first. -/
def readHeader (bytes : List UInt8) : Except FrameFault Nat :=
  match bytes with
  | [] => .error .unfinished
  | flag :: size =>
    if flag = 1 then .error .compressed
    else if flag ≠ 0 then .error (.invalidFlag flag)
    else if maxLength < bigEndian size then .error (.tooLong (bigEndian size))
    else .ok (bigEndian size)

end Frame

/-- The wording of a fault, as the status that answers it. -/
def FrameFault.status : FrameFault → Status
  | .compressed =>
    ⟨.internal,
      "protocol error: received message with compressed-flag but no grpc-encoding was specified"⟩
  | .invalidFlag flag =>
    ⟨.internal,
      "protocol error: received message with invalid compression flag: " ++
        toString flag.toNat ++ " (valid flags are 0 and 1), while sending request"⟩
  | .tooLong length =>
    ⟨.outOfRange,
      "Error, decoded message length too large: found " ++ toString length ++
        " bytes, the limit is: " ++ toString Frame.maxLength ++ " bytes"⟩
  | .unfinished => ⟨.internal, "Unexpected EOF decoding stream."⟩

/-- A reader in the middle of a body: the bytes that it has not used, the length of the payload if
the header has been read, the payloads so far, and the fault that stopped it. -/
structure FrameReader where
  pending : List UInt8
  awaited : Option Nat
  payloads : List (List UInt8)
  fault : Option FrameFault
deriving DecidableEq, Repr

namespace FrameReader

/-- The reader in front of a body. -/
def start : FrameReader := ⟨[], none, [], none⟩

/-- Use the pending bytes as far as they go: a header when one is complete, a payload when one is
complete, and so on. A faulty header stops the reader, and what is pending is dropped. -/
def drain (pending : List UInt8) (payloads : List (List UInt8)) : Option Nat → FrameReader
  | none =>
    if pending.length < Frame.headerSize then ⟨pending, none, payloads, none⟩
    else
      match Frame.readHeader (pending.take Frame.headerSize) with
      | .error fault => ⟨[], none, payloads, some fault⟩
      | .ok length => drain (pending.drop Frame.headerSize) payloads (some length)
  | some length =>
    if pending.length < length then ⟨pending, some length, payloads, none⟩
    else drain (pending.drop length) (payloads ++ [pending.take length]) none
termination_by awaited => 2 * pending.length + awaited.elim 0 fun _ => 1
decreasing_by
  · simp only [Frame.headerSize, List.length_drop, Option.elim] at *
    omega
  · simp only [List.length_drop, Option.elim]
    omega

/-- Take the next piece of the body; a reader that has stopped takes nothing more. -/
def feed (r : FrameReader) (chunk : List UInt8) : FrameReader :=
  if r.fault.isSome then r else drain (r.pending ++ chunk) r.payloads r.awaited

/-- Take the pieces of a body in order. -/
def feedAll (r : FrameReader) (chunks : List (List UInt8)) : FrameReader :=
  chunks.foldl feed r

/-- What the end of the body leaves: the fault that stopped the reader, or the bytes of a header or
payload that was never completed. -/
def finish (r : FrameReader) : Option FrameFault :=
  match r.fault with
  | some fault => some fault
  | none => if r.pending = [] then none else some .unfinished

/-! ## Cuts do not matter -/

/-- Feeding a piece to a reader that has drained some bytes is draining both at once. -/
theorem feed_drain (pending chunk : List UInt8) (payloads : List (List UInt8))
    (awaited : Option Nat) :
    (drain pending payloads awaited).feed chunk = drain (pending ++ chunk) payloads awaited := by
  fun_induction drain pending payloads awaited with
  | case1 => rfl
  | case2 pending payloads complete fault refused =>
    have hlen : Frame.headerSize ≤ pending.length := by omega
    rw [drain, if_neg (by simp only [List.length_append]; omega),
      List.take_append_of_le_length hlen, refused]
    rfl
  | case3 pending payloads complete length announced ih =>
    have hlen : Frame.headerSize ≤ pending.length := by omega
    rw [ih, drain.eq_1 (pending ++ chunk), if_neg (by simp only [List.length_append]; omega),
      List.take_append_of_le_length hlen, announced, List.drop_append_of_le_length hlen]
  | case4 => rfl
  | case5 pending payloads length complete ih =>
    have hlen : length ≤ pending.length := by omega
    rw [ih, drain.eq_2 (pending ++ chunk), if_neg (by simp only [List.length_append]; omega),
      List.take_append_of_le_length hlen, List.drop_append_of_le_length hlen]

/-- Feeding pieces to a reader that has drained some bytes is draining all of them at once. -/
theorem feedAll_drain (pending : List UInt8) (payloads : List (List UInt8)) (awaited : Option Nat)
    (chunks : List (List UInt8)) :
    (drain pending payloads awaited).feedAll chunks =
      drain (pending ++ chunks.flatten) payloads awaited := by
  induction chunks generalizing pending with
  | nil => simp [feedAll]
  | cons chunk later ih =>
    have := ih (pending ++ chunk)
    rw [feedAll, List.foldl_cons, feed_drain]
    rw [feedAll] at this
    rw [this]
    simp

/-- A reader that is fed a body in pieces comes to the same state as one that drains it whole. -/
theorem feedAll_start (chunks : List (List UInt8)) :
    start.feedAll chunks = drain chunks.flatten [] none := by
  have empty : start = drain [] [] none := by simp [drain, start, Frame.headerSize]
  rw [empty, feedAll_drain, List.nil_append]

end FrameReader

end RemainderService.Wire
