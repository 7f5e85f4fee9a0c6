/-!
# Socket addresses and their canonical text

An address is four bytes or eight 16-bit segments, with a port. **The canonical text** of eight
segments drops leading zeros, writes the longest run of at least two zero segments as `::` (the
first of equally long ones), and shows an address that wraps four bytes with those four bytes in
decimal. Reading accepts any spelling of an address and forgets which one it was.
-/

set_option autoImplicit false

namespace RemainderService

/-- A numeric host address. -/
inductive IpAddress
  | v4 (bytes : Vector UInt8 4)
  | v6 (segments : Vector UInt16 8) (scope : UInt32)
deriving DecidableEq

/-- A host address and a port. -/
structure SocketAddress where
  ip : IpAddress
  port : UInt16
deriving DecidableEq

namespace IpAddress

/-! ## Canonical text -/

/-- The length of the run of zeros at the head of a list. -/
def zeroRun (segments : List UInt16) : Nat :=
  (segments.takeWhile (· == 0)).length

/-- Position and length of the longest run of zeros, the first of equally long ones. -/
def longestZeroRun : Nat → List UInt16 → Nat × Nat
  | _, [] => (0, 0)
  | position, s :: rest =>
    let here := zeroRun (s :: rest)
    let later := longestZeroRun (position + 1) rest
    if later.2 ≤ here then (position, here) else later

/-- One segment in lowercase hexadecimal. -/
def segmentText (s : UInt16) : String :=
  String.ofList (Nat.toDigits 16 s.toNat)

/-- Segments with colons between them. -/
def segmentsText (segments : List UInt16) : String :=
  String.intercalate ":" (segments.map segmentText)

/-- Four bytes in decimal with points between them. -/
def bytesText (bytes : List UInt8) : String :=
  String.intercalate "." (bytes.map (fun b => toString b.toNat))

/-- The two bytes of a segment, high byte first. -/
def segmentBytes (s : UInt16) : List UInt8 :=
  [UInt8.ofNat (s.toNat / 256), UInt8.ofNat (s.toNat % 256)]

/-- The text of eight segments. -/
def v6Text (segments : List UInt16) : String :=
  match segments with
  | [0, 0, 0, 0, 0, 0xffff, high, low] =>
    "::ffff:" ++ bytesText (segmentBytes high ++ segmentBytes low)
  | _ =>
    let (position, length) := longestZeroRun 0 segments
    if 2 ≤ length then
      segmentsText (segments.take position) ++ "::" ++
        segmentsText (segments.drop (position + length))
    else segmentsText segments

/-! ## Kinds of addresses -/

/-- The four bytes that eight segments wrap, if they do. -/
def wrapped? (segments : List UInt16) : Option (Vector UInt8 4) :=
  match segments with
  | [0, 0, 0, 0, 0, 0xffff, high, low] =>
    some #v[UInt8.ofNat (high.toNat / 256), UInt8.ofNat (high.toNat % 256),
      UInt8.ofNat (low.toNat / 256), UInt8.ofNat (low.toNat % 256)]
  | _ => none

/-- The address without a wrapping: wrapped bytes stand for themselves. -/
def unwrapped : IpAddress → IpAddress
  | .v4 bytes => .v4 bytes
  | .v6 segments scope =>
    match wrapped? segments.toList with
    | some bytes => .v4 bytes
    | none => .v6 segments scope

/-- The address stands for every address of a host. -/
def isUnspecified (ip : IpAddress) : Bool :=
  match ip.unwrapped with
  | .v4 bytes => bytes.toList.all (· == 0)
  | .v6 segments _ => segments.toList.all (· == 0)

/-- The segments are those of a group of hosts. -/
def isMulticast (segments : Vector UInt16 8) : Bool :=
  decide (0xff00 ≤ segments[0].toNat)

/-- The segments have a meaning only on one link. -/
def isLinkLocal (segments : Vector UInt16 8) : Bool :=
  decide (0xfe80 ≤ segments[0].toNat ∧ segments[0].toNat ≤ 0xfebf)

end IpAddress

namespace SocketAddress

/-- The canonical text of a socket address. A scope of 0 is not shown. -/
def text (a : SocketAddress) : String :=
  match a.ip with
  | .v4 bytes => IpAddress.bytesText bytes.toList ++ ":" ++ toString a.port.toNat
  | .v6 segments scope =>
    "[" ++ IpAddress.v6Text segments.toList ++
      (if scope = 0 then "" else "%" ++ toString scope.toNat) ++ "]:" ++ toString a.port.toNat

/-- The address of a server on this address, as clients write it. -/
def endpoint (a : SocketAddress) : String :=
  "http://" ++ a.text

end SocketAddress

/-! ## Reading -/

namespace IpAddress

/-- The value of a digit in this base. -/
def digitValue? (base : Nat) (c : Char) : Option Nat :=
  let value :=
    if '0' ≤ c ∧ c ≤ '9' then c.toNat - '0'.toNat
    else if 'a' ≤ c ∧ c ≤ 'f' then c.toNat - 'a'.toNat + 10
    else if 'A' ≤ c ∧ c ≤ 'F' then c.toNat - 'A'.toNat + 10
    else base
  if value < base then some value else none

/-- A number in this base that is at most `limit`. -/
def number? (base limit : Nat) (cs : List Char) : Option Nat :=
  if cs = [] then none
  else do
    let digits ← cs.mapM (digitValue? base)
    let n := digits.foldl (fun n d => n * base + d) 0
    if n ≤ limit then some n else none

/-- Four decimal bytes without leading zeros. -/
def bytes? (cs : List Char) : Option (Vector UInt8 4) := do
  let parts ← (cs.splitOn '.').mapM fun part =>
    if 3 < part.length ∨ (1 < part.length ∧ part.head? = some '0') then none
    else number? 10 255 part
  match parts with
  | [a, b, c, d] => some #v[UInt8.ofNat a, UInt8.ofNat b, UInt8.ofNat c, UInt8.ofNat d]
  | _ => none

/-- Segments with colons between them; the last one may be four decimal bytes, which are two. -/
def segments? : List (List Char) → Option (List UInt16)
  | [] => some []
  | part :: rest =>
    if rest = [] ∧ part.contains '.' then do
      let bytes ← bytes? part
      some [UInt16.ofNat (bytes[0].toNat * 256 + bytes[1].toNat),
        UInt16.ofNat (bytes[2].toNat * 256 + bytes[3].toNat)]
    else if 4 < part.length then none
    else do
      let n ← number? 16 0xffff part
      let others ← segments? rest
      some (UInt16.ofNat n :: others)

/-- Segments of a text, none for the empty one. -/
def segmentsOfText? (cs : List Char) : Option (List UInt16) :=
  if cs = [] then some [] else segments? (cs.splitOn ':')

/-- Split a text at its first `::`. -/
def splitAtGap : List Char → List Char × Option (List Char)
  | ':' :: ':' :: rest => ([], some rest)
  | [] => ([], none)
  | c :: rest =>
    let (before, after) := splitAtGap rest
    (c :: before, after)

/-- Eight segments, a gap standing for one or more zero segments. Decimal bytes come last, so none
stand in front of a gap. -/
def v6Segments? (cs : List Char) : Option (Vector UInt16 8) := do
  let (before, after) := splitAtGap cs
  let head ← segmentsOfText? before
  let all ← match after with
    | none => some head
    | some tail => do
      let tail ← segmentsOfText? tail
      if head.length + tail.length < 8 ∧ !before.contains '.' then
        some (head ++ List.replicate (8 - head.length - tail.length) 0 ++ tail)
      else none
  if h : all.length = 8 then some ⟨all.toArray, by simpa using h⟩ else none

/-- The address that the host of a URI spells out. -/
def ofHost? (host : String) : Option IpAddress :=
  match host.toList with
  | '[' :: rest => (v6Segments? (rest.takeWhile (· != ']'))).map (.v6 · 0)
  | cs => (bytes? cs).map .v4

end IpAddress

namespace SocketAddress

/-- Read a socket address in any of its spellings. -/
def ofText? (text : String) : Option SocketAddress := do
  match text.toList with
  | '[' :: rest =>
    let inner := rest.takeWhile (· != ']')
    let segments ← IpAddress.v6Segments? (inner.takeWhile (· != '%'))
    let scope ← match inner.dropWhile (· != '%') with
      | [] => some 0
      | _ :: digits => IpAddress.number? 10 0xffffffff digits
    match rest.dropWhile (· != ']') with
    | ']' :: ':' :: digits =>
      let port ← IpAddress.number? 10 0xffff digits
      some ⟨.v6 segments (UInt32.ofNat scope), UInt16.ofNat port⟩
    | _ => none
  | cs =>
    let bytes ← IpAddress.bytes? (cs.takeWhile (· != ':'))
    match cs.dropWhile (· != ':') with
    | ':' :: digits =>
      let port ← IpAddress.number? 10 0xffff digits
      some ⟨.v4 bytes, UInt16.ofNat port⟩
    | _ => none

end SocketAddress

end RemainderService
