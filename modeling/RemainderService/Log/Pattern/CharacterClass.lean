import RemainderService.Log.Pattern.Escape
import RemainderService.Log.Pattern.Height

/-!
# Classes of characters

A class lists characters, ranges and further classes between brackets, and operators may stand
between its items. **At the beginning of a class** hyphens stand for themselves, and so does a
closing bracket that nothing but a caret precedes; no class is empty for want of items. Elsewhere a
hyphen makes a range of the items beside it, unless a bracket or another hyphen follows it.
-/

set_option autoImplicit false

namespace RemainderService.Log.Pattern

/-- The classes that have a name between colons. -/
def classNames : List String :=
  ["alnum", "alpha", "ascii", "blank", "cntrl", "digit", "graph", "lower", "print", "punct",
    "space", "upper", "word", "xdigit"]

/-- A class with a name, read behind its bracket: whether a caret takes all but its characters,
and what follows it. -/
def namedClass? : List Char → Option (Bool × List Char)
  | ':' :: rest =>
    let negated := rest.head? == some '^'
    let body := if negated then rest.drop 1 else rest
    let name := body.takeWhile (· != ':')
    match body.drop name.length with
    | ':' :: ']' :: behind =>
      if classNames.contains (String.ofList name) then some (negated, behind) else none
    | _ => none
  | _ => none

namespace Mode

/-- A class with a name may be an item. All but its characters are no class of ASCII. -/
def admitsNamed (mode : Mode) (negated : Bool) : Bool :=
  !mode.folds && (mode.unicode || !negated)

/-- Behind the bracket of a class and the caret that may follow it. A class of bytes has none. -/
def openClass? (mode : Mode) (cs : List Char) : Option (List Char) :=
  match mode.skip cs with
  | '^' :: rest => if mode.unicode then some rest else none
  | rest => some rest

/-- An item of a class: the code point if it is one, and what follows. -/
def classItem? (mode : Mode) : List Char → Option (Option Nat × List Char)
  | [] => none
  | '\\' :: rest =>
    match Escape.read? mode rest with
    | some (.literal code _, rest) =>
      if mode.admitsInClass code then some (some code, rest) else none
    | some (.shorthand, rest) => if mode.unicode then none else some (none, rest)
    | _ => none
  | c :: rest => if mode.admitsInClass c.toNat then some (some c.toNat, rest) else none

/-- What follows an item or a range of items. The ends of a range are in order. -/
def classRange? (mode : Mode) (cs : List Char) : Option (List Char) := do
  let (low, rest) ← mode.classItem? cs
  match mode.skip rest with
  | '-' :: next =>
    if mode.ahead? next = some ']' ∨ mode.ahead? next = some '-' then some ('-' :: next)
    else do
      let (high, behind) ← mode.classItem? (mode.skip next)
      match low, high with
      | some low, some high => if low ≤ high then some behind else none
      | _, _ => none
  | rest => some rest

end Mode

/-- A class that is being read: the height of what stands before its last operator, the items since
then, and whether it has only begun. -/
structure ClassLevel where
  before : Option Nat
  items : Row
  opening : Bool
deriving DecidableEq, Repr

namespace ClassLevel

/-- The beginning of a class. -/
def start : ClassLevel := ⟨none, .empty, true⟩

/-- The height of the class without its brackets. -/
def height (level : ClassLevel) : Nat := level.items.heightBeside level.before

/-- Behind a further item of this height. -/
def push (level : ClassLevel) (height : Nat) : ClassLevel :=
  ⟨level.before, level.items.push height, false⟩

/-- Behind a further operator; operators group to the left. -/
def operator (level : ClassLevel) : ClassLevel := ⟨some level.height, .empty, false⟩

end ClassLevel

/-- The height of a class and what follows it, read in the class that is given and inside the
classes listed. The number bounds the items. -/
def classRest? (mode : Mode) :
    Nat → List ClassLevel → ClassLevel → List Char → Option (Nat × List Char)
  | 0, _, _, _ => none
  | bound + 1, outer, here, cs =>
    match mode.skip cs with
    | [] => none
    | ']' :: rest =>
      if here.opening && here.items.size == 0 then
        if mode.admitsInClass ']'.toNat then classRest? mode bound outer (here.push 0) rest
        else none
      else
        match outer with
        | [] => some (here.height + 1, rest)
        | level :: outer => classRest? mode bound outer (level.push (here.height + 1)) rest
    | '[' :: rest =>
      match namedClass? rest with
      | some (negated, behind) =>
        if mode.admitsNamed negated then classRest? mode bound outer (here.push 0) behind else none
      | none => (mode.openClass? rest).bind (classRest? mode bound (here :: outer) .start)
    | c :: rest =>
      if here.opening && c == '-' then
        if mode.admitsInClass '-'.toNat then
          classRest? mode bound outer { here.push 0 with opening := true } rest
        else none
      else if ['&', '-', '~'].contains c && rest.head? == some c then
        classRest? mode bound outer here.operator (rest.drop 1)
      else (mode.classRange? (c :: rest)).bind (classRest? mode bound outer (here.push 0))

/-- The height of a class and what follows it, read behind its bracket. -/
def class? (mode : Mode) (cs : List Char) : Option (Nat × List Char) :=
  (mode.openClass? cs).bind (classRest? mode (cs.length + 1) [] .start)

end RemainderService.Log.Pattern
