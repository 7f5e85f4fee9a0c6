import RemainderService.Text.Blank

/-!
# How the characters of a pattern are taken

A pattern may change the rules by which the rest of it is read: whether the case of a letter
counts, whether a character is one of Unicode or a byte, and whether blanks and comments stand for
themselves. **In a spaced pattern** blanks are left out, and so is everything from a number sign to
the end of its line. They can stand between the parts of the pattern, between the items of a class
and between the digits of a number, but not inside a name and not between the flags.
-/

set_option autoImplicit false

namespace RemainderService.Log.Pattern

/-- The rules at a place in a pattern. -/
structure Mode where
  ignoresCase : Bool
  unicode : Bool
  spaced : Bool
deriving DecidableEq, Repr

/-- What follows blanks and comments, read inside a comment or outside of one. -/
def behindBlanks : Bool → List Char → List Char
  | _, [] => []
  | true, c :: rest => behindBlanks (c != '\n') rest
  | false, c :: rest =>
    if Text.isBlank c then behindBlanks false rest
    else if c = '#' then behindBlanks true rest
    else c :: rest

namespace Mode

/-- The rules at the beginning of a pattern. -/
def initial : Mode := ⟨false, true, false⟩

/-- Letters would need a table of cases. -/
def folds (mode : Mode) : Bool := mode.ignoresCase && mode.unicode

/-- What follows the blanks and comments here, if they can be left out. -/
def skip (mode : Mode) (cs : List Char) : List Char :=
  if mode.spaced then behindBlanks false cs else cs

/-- The character that decides what the hyphen before it means: the next one, or in a spaced
pattern the next one behind blanks and behind the number sign of a comment. -/
def ahead? (mode : Mode) (cs : List Char) : Option Char :=
  if mode.spaced then
    let rest := cs.dropWhile Text.isBlank
    if rest.head? = some '#' then ((rest.drop 1).dropWhile Text.isBlank).head? else rest.head?
  else cs.head?

/-- The flags that a pattern may set and take back. -/
def flagNames : List Char := ['i', 'm', 's', 'U', 'u', 'R', 'x']

/-- The text sets flags: each at most once, and those behind a hyphen are taken back. -/
def areFlags (cs : List Char) : Bool :=
  cs.all (fun c => c == '-' || flagNames.contains c) && decide cs.Nodup && cs.getLast? != some '-'

/-- The rules after some flags, which are set or, behind a hyphen, taken back. -/
def flagged (mode : Mode) : Bool → List Char → Mode
  | _, [] => mode
  | on, c :: rest =>
    if c = '-' then flagged mode false rest
    else if c = 'i' then flagged { mode with ignoresCase := on } on rest
    else if c = 'u' then flagged { mode with unicode := on } on rest
    else if c = 'x' then flagged { mode with spaced := on } on rest
    else flagged mode on rest

end Mode

end RemainderService.Log.Pattern
