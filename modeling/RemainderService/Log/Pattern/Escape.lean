import RemainderService.Address
import RemainderService.Log.Pattern.Mode

/-!
# Escapes

What stands behind a backslash: a character that would otherwise have a meaning, a control, a
number in hexadecimal digits, a class of ASCII, or the edge of a word or of the text. A letter or a
digit that stands for none of these is refused.

A pattern speaks of all of Unicode, and no tables stand behind it. So the classes of digits, blanks
and word characters, the edges of words, and letters without regard to case are refused unless the
pattern turns Unicode off, and so is whatever could then match half a character.
-/

set_option autoImplicit false

namespace RemainderService.Log.Pattern

/-- What stands behind a backslash: a code point, perhaps given as a byte; a class of ASCII; the
edge of a word; or the edge of the text. -/
inductive Escape
  | literal (code : Nat) (byte : Bool)
  | shorthand
  | wordEdge
  | textEdge
deriving DecidableEq, Repr

namespace Escape

/-- This many hexadecimal digits, with what follows them. -/
def digits? (mode : Mode) : Nat → List Char → Option (List Nat × List Char)
  | 0, cs => some ([], cs)
  | count + 1, cs =>
    match mode.skip cs with
    | [] => none
    | c :: rest => do
      let digit ← IpAddress.digitValue? 16 c
      let (digits, behind) ← digits? mode count rest
      return (digit :: digits, behind)

/-- The code point that this many hexadecimal digits give, with what follows them. -/
def hexadecimal? (mode : Mode) (count : Nat) (cs : List Char) : Option (Nat × List Char) := do
  let (digits, behind) ← digits? mode count cs
  let code := digits.foldl (fun n d => 16 * n + d) 0
  if code < 0xd800 ∨ (0xdfff < code ∧ code < 0x110000) then some (code, behind) else none

/-- The control that a letter stands for. -/
def control? : Char → Option Nat
  | 'a' => some 0x7
  | 't' => some 0x9
  | 'n' => some 0xa
  | 'v' => some 0xb
  | 'f' => some 0xc
  | 'r' => some 0xd
  | _ => none

/-- What a single character stands for. -/
def ofChar? (c : Char) : Option Escape :=
  match control? c with
  | some code => some (.literal code false)
  | none =>
    if ['d', 's', 'w'].contains c then some .shorthand
    else if ['b', 'B', '<', '>'].contains c then some .wordEdge
    else if ['A', 'z'].contains c then some .textEdge
    else if c.toNat < 0x80 && !c.isAlphanum then some (.literal c.toNat false)
    else none

/-- Read an escape behind its backslash, with what follows it. -/
def read? (mode : Mode) : List Char → Option (Escape × List Char)
  | [] => none
  | 'x' :: rest => (hexadecimal? mode 2 rest).map fun (code, rest) => (.literal code true, rest)
  | 'u' :: rest => (hexadecimal? mode 4 rest).map fun (code, rest) => (.literal code false, rest)
  | 'U' :: rest => (hexadecimal? mode 8 rest).map fun (code, rest) => (.literal code false, rest)
  | c :: rest => (ofChar? c).map (·, rest)

end Escape

namespace Mode

/-- A code point may stand for itself outside a class. -/
def admitsCode (mode : Mode) (code : Nat) (byte : Bool) : Bool :=
  !mode.folds && (mode.unicode || !byte || decide (code < 0x80))

/-- A code point may be an item of a class; a class of bytes has room for ASCII alone. -/
def admitsInClass (mode : Mode) (code : Nat) : Bool :=
  !mode.folds && (mode.unicode || decide (code < 0x80))

/-- The escape may stand outside a class. -/
def admits (mode : Mode) : Escape → Bool
  | .literal code byte => mode.admitsCode code byte
  | .shorthand | .wordEdge => !mode.unicode
  | .textEdge => true

end Mode

end RemainderService.Log.Pattern
