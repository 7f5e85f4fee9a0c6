import RemainderService.Log.Pattern.CharacterClass
import RemainderService.Text.Alphanumeric

/-!
# Patterns for the values of fields

A directive may ask for a field that has a value: a number, or a text that a pattern describes by
literals, classes, groups, alternatives and repetitions. No value is ever compared here. **What
counts is which texts are patterns**, because a directive with a malformed one is malformed.

A number of repetitions in braces is no part of a pattern: a closing brace ends the field before it
ends the number.
-/

set_option autoImplicit false

namespace RemainderService.Log.Pattern

/-! ## Groups -/

/-- A group that is being read, or the whole pattern: the rules here, the height of the highest
branch before this one, the parts of this branch, and the height of the last part if it can be
repeated. -/
structure Level where
  mode : Mode
  branches : Option Nat
  parts : Row
  last : Option Nat
deriving DecidableEq, Repr

namespace Level

/-- The beginning of a group in which these rules hold. -/
def start (mode : Mode) : Level := ⟨mode, none, .empty, none⟩

/-- The height of what the group holds. -/
def height (level : Level) : Nat := level.parts.heightBeside level.branches

/-- Behind a further part of this height. -/
def push (level : Level) (height : Nat) : Level :=
  { level with parts := level.parts.push height, last := some height }

/-- Behind flags, which are a part that cannot be repeated. -/
def flag (level : Level) (mode : Mode) : Level :=
  { level with mode := mode, parts := level.parts.push 0, last := none }

/-- Behind the sign for a repetition of the last part. -/
def repeat? (level : Level) : Option Level :=
  level.last.map fun height =>
    { level with parts := level.parts.grow (height + 1), last := some (height + 1) }

/-- Behind the bar that ends a branch. -/
def branch (level : Level) : Level :=
  let tallest := Nat.max (level.branches.getD 0) level.parts.height
  ⟨level.mode, some tallest, .empty, none⟩

end Level

/-- Where a reader of a pattern is: the groups around the one that is being read, that group, and
the names of groups so far. -/
structure Place where
  outer : List Level
  here : Level
  names : List (List Char)

namespace Place

/-- The beginning of a pattern. -/
def start : Place := ⟨[], .start .initial, []⟩

/-- Behind a further part of this height. -/
def push (place : Place) (height : Nat) : Place := { place with here := place.here.push height }

/-- Inside a new group, in which these rules hold. -/
def enter (place : Place) (mode : Mode) : Place :=
  { place with outer := place.here :: place.outer, here := .start mode }

/-- Behind the closing of a group, if one is open. The rules are those before it again. -/
def leave? (place : Place) : Option Place :=
  match place.outer with
  | [] => none
  | level :: outer =>
    some { place with outer := outer, here := level.push (place.here.height + 1) }

/-- Behind the name of a group, read behind its bracket. A name is used once. -/
def name? (place : Place) (cs : List Char) : Option (Place × List Char) :=
  let name := cs.takeWhile (· != '>')
  let opens := (name.head?.map fun c => c == '_' || Text.isAlphabetic c).getD false
  let goesOn := name.all fun c => ['_', '.', '[', ']'].contains c || Text.isAlphanumeric c
  match cs.drop name.length with
  | [] => none
  | _ :: rest =>
    if opens && goesOn && !(place.names.contains name) then
      some ({ place.enter place.here.mode with names := name :: place.names }, rest)
    else none

/-- Behind the flags that follow a question mark: in a group of their own, or where they are. -/
def flags? (place : Place) (cs : List Char) : Option (Place × List Char) :=
  let flags := cs.takeWhile fun c => c != ':' && c != ')'
  if Mode.areFlags flags then
    let mode := place.here.mode.flagged true flags
    match cs.drop flags.length with
    | [] => none
    | ':' :: rest => some (place.enter mode, rest)
    | _ :: rest =>
      if flags = [] then none else some ({ place with here := place.here.flag mode }, rest)
  else none

/-- Behind the opening of a group, read behind its parenthesis. -/
def group? (place : Place) (cs : List Char) : Option (Place × List Char) :=
  match place.here.mode.skip cs with
  | '?' :: 'P' :: '<' :: rest => place.name? rest
  | '?' :: '<' :: rest => place.name? rest
  | '?' :: rest => place.flags? rest
  | rest => some (place.enter place.here.mode, rest)

/-- Behind the sign for a repetition and the question mark that may follow it at once. -/
def repeat? (place : Place) (cs : List Char) : Option (Place × List Char) :=
  place.here.repeat?.map fun level =>
    ({ place with here := level }, if cs.head? = some '?' then cs.drop 1 else cs)

/-- Behind the next part of a pattern, which begins with this character. -/
def next? (place : Place) (c : Char) (rest : List Char) : Option (Place × List Char) :=
  if c = '(' then place.group? rest
  else if c = ')' then place.leave?.map (·, rest)
  else if c = '|' then some ({ place with here := place.here.branch }, rest)
  else if c = '[' then
    (class? place.here.mode rest).map fun (height, rest) => (place.push height, rest)
  else if c = '\\' then
    match Escape.read? place.here.mode rest with
    | some (escape, rest) =>
      if place.here.mode.admits escape then some (place.push 0, rest) else none
    | none => none
  else if ['*', '+', '?'].contains c then place.repeat? rest
  else if c = '\x7b' then none
  else if c = '^' ∨ c = '$' then some (place.push 0, rest)
  else if c = '.' then if place.here.mode.unicode then some (place.push 0, rest) else none
  else if place.here.mode.admitsCode c.toNat false then some (place.push 0, rest)
  else none

/-- The rest of a text completes a pattern. The number bounds the parts. -/
def completes (place : Place) : Nat → List Char → Bool
  | 0, _ => false
  | bound + 1, cs =>
    match place.here.mode.skip cs with
    | [] => place.outer.isEmpty && decide (place.here.height ≤ heightLimit)
    | c :: rest =>
      match place.next? c rest with
      | some (place, rest) => place.completes bound rest
      | none => false

end Place

/-- The text is a pattern. -/
def isPattern (cs : List Char) : Bool := Place.start.completes (cs.length + 1) cs

/-! ## Values -/

/-- Digits, perhaps with a point among them, and an exponent or not. -/
def isUnsigned (cs : List Char) : Bool :=
  let exponent := cs.dropWhile fun c => c.isDigit || c == '.'
  let mantissa := cs.take (cs.length - exponent.length)
  let digits := match exponent with
    | _ :: c :: rest => if c = '+' ∨ c = '-' then rest else c :: rest
    | _ => []
  mantissa.any Char.isDigit && decide (mantissa.count '.' ≤ 1) &&
    (exponent.isEmpty ||
      ((exponent.head? == some 'e' || exponent.head? == some 'E') && !digits.isEmpty &&
        digits.all Char.isDigit))

/-- The text is a number, or the name of something that counts as one. -/
def isNumber (cs : List Char) : Bool :=
  let body := if cs.head? = some '+' ∨ cs.head? = some '-' then cs.drop 1 else cs
  ["inf", "infinity", "nan"].contains (String.ofList body).toLower || isUnsigned body

/-- The text can stand for the value of a field. -/
def isValue (cs : List Char) : Bool := isNumber cs || isPattern cs

end RemainderService.Log.Pattern
