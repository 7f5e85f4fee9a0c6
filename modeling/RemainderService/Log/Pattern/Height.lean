/-!
# How deep a pattern goes

The parts of a pattern stand side by side or inside each other. A pattern is refused if it goes too
deep, and it goes as deep as its height says: **a group, a repetition and a class are one higher
than what is in them**, and so are several parts in a row and several rows to choose from. One part
alone is as high as it is, and a character has no height.
-/

set_option autoImplicit false

namespace RemainderService.Log.Pattern

/-- The greatest height of a pattern. -/
def heightLimit : Nat := 250

/-- Parts that stand in a row: their number and the height of the highest. -/
structure Row where
  size : Nat
  tallest : Nat
deriving DecidableEq, Repr

namespace Row

/-- The row without parts. -/
def empty : Row := ⟨0, 0⟩

/-- The row with one more part of this height. -/
def push (row : Row) (height : Nat) : Row := ⟨row.size + 1, Nat.max row.tallest height⟩

/-- The row in which a part has grown to this height. -/
def grow (row : Row) (height : Nat) : Row := ⟨row.size, Nat.max row.tallest height⟩

/-- The height of a row. -/
def height (row : Row) : Nat := if row.size ≤ 1 then row.tallest else row.tallest + 1

/-- The height of a row that stands beside others, given the height of the highest of those. -/
def heightBeside (row : Row) : Option Nat → Nat
  | none => row.height
  | some other => Nat.max other row.height + 1

end Row

end RemainderService.Log.Pattern
