/-!
# Percent escapes

A text travels in a header as its bytes, in which printable letters stand for themselves and every
other byte is written as a percent sign and two uppercase hexadecimal digits. **The percent sign
escapes itself**, so a text that looks escaped already comes back as it was. `escape` writes and
`unescape?` reads.
-/

set_option autoImplicit false

namespace RemainderService.Percent

/-- The digit that stands for a number below sixteen. -/
def digit (n : Nat) : UInt8 :=
  if n < 10 then UInt8.ofNat (48 + n) else UInt8.ofNat (55 + n)

/-- The number that an uppercase hexadecimal digit stands for. -/
def digitValue? (b : UInt8) : Option Nat :=
  if 48 ≤ b.toNat ∧ b.toNat ≤ 57 then some (b.toNat - 48)
  else if 65 ≤ b.toNat ∧ b.toNat ≤ 70 then some (b.toNat - 55)
  else none

/-- A byte that stands for itself: printable, and none of the space, the double quote, the number
and percent signs, the angle brackets, the question mark, the grave accent and the braces. -/
def isPlain (b : UInt8) : Bool :=
  decide (0x20 < b.toNat) && decide (b.toNat < 0x7f) &&
    !([0x22, 0x23, 0x25, 0x3c, 0x3e, 0x3f, 0x60, 0x7b, 0x7d].contains b.toNat)

/-- A byte as it is written. -/
def escapeByte (b : UInt8) : List UInt8 :=
  if isPlain b then [b] else [0x25, digit (b.toNat / 16), digit (b.toNat % 16)]

/-- Bytes as they are written. -/
def escapeBytes (bytes : List UInt8) : List UInt8 :=
  bytes.flatMap escapeByte

/-- Read what `escapeBytes` writes; a percent sign has to be followed by two digits. -/
def unescapeBytes? : List UInt8 → Option (List UInt8)
  | [] => some []
  | b :: rest =>
    if b = 0x25 then
      match rest with
      | high :: low :: tail => do
        let h ← digitValue? high
        let l ← digitValue? low
        let decoded ← unescapeBytes? tail
        return UInt8.ofNat (16 * h + l) :: decoded
      | _ => none
    else (unescapeBytes? rest).map (b :: ·)

/-- The bytes of a text. -/
def textBytes (text : String) : List UInt8 :=
  text.toUTF8.data.toList

/-- A text in a header: every byte that is written is an ASCII character. -/
def escape (text : String) : String :=
  String.ofList ((escapeBytes (textBytes text)).map fun b => Char.ofNat b.toNat)

/-- The bytes behind a header value. -/
def unescape? (value : String) : Option (List UInt8) :=
  unescapeBytes? (textBytes value)

end RemainderService.Percent
