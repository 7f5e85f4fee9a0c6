import RemainderService.Event
import RemainderService.Log.Pattern
import RemainderService.Text.Blank

/-!
# Directives

A directive sets the least severe level that is reported. It may be limited to the targets that
begin with a text, to what happens inside a span, and to the events that have a field:
`target[span{field=value}]=level`. A level alone holds for every event; without a level everything
is reported. A directive that names a span, or asks for a value, selects only what happens inside a
span, and as nothing is logged inside one, it selects nothing.

**Where a directive is cut.** The ends of its parts are found in the text without the blanks around
it, and the parts are cut at the same distances, in bytes, out of the text with them. So a blank
behind belongs to the last part, a blank in front shifts every part, and a shifted part may begin or
end inside a character. Then there is no directive, and the reader cannot go on.
-/

set_option autoImplicit false

namespace RemainderService.Log

/-- What a target has to begin with, the field that an event has to have, if any, and the greatest
rank that is reported: 0 reports nothing. -/
structure Directive where
  target : String
  field : Option String
  limit : Nat
deriving DecidableEq, Repr

/-- Why there is no directive: the text is none, or a part of it ends inside a character. -/
inductive DirectiveFault
  | malformed
  | torn
deriving DecidableEq, Repr

/-! ## Levels -/

/-- Every severity is within this limit. -/
def everything : Nat := 5

/-- The number in a list of digits; there has to be one, and a plus sign may stand in front. -/
def number? (cs : List Char) : Option Nat :=
  let digits := if cs.head? = some '+' then cs.tail else cs
  if digits.isEmpty || !digits.all Char.isDigit then none
  else some (digits.foldl (fun n c => 10 * n + (c.toNat - 48)) 0)

/-- The limit that a word or a number from 0 to 5 stands for; case does not matter. -/
def limit? (cs : List Char) : Option Nat :=
  match number? cs with
  | some n => if n ≤ everything then some n else none
  | none =>
    ["off", "error", "warn", "info", "debug", "trace"].findIdx?
      fun word => word == (String.ofList cs).toLower

/-! ## Cuts -/

/-- The text behind this many bytes, unless they end inside a character. -/
def dropBytes? : Nat → List Char → Option (List Char)
  | 0, cs => some cs
  | _, [] => none
  | n, c :: cs => if c.utf8Size ≤ n then dropBytes? (n - c.utf8Size) cs else none

/-- This many bytes of a text, unless they end inside a character. -/
def takeBytes? : Nat → List Char → Option (List Char)
  | 0, _ => some []
  | _, [] => none
  | n, c :: cs =>
    if c.utf8Size ≤ n then (takeBytes? (n - c.utf8Size) cs).map (c :: ·) else none

/-- The part of a text behind this many bytes. -/
def cutFrom (text : List Char) (first : Nat) : Except DirectiveFault (List Char) :=
  match dropBytes? first text with
  | some part => .ok part
  | none => .error .torn

/-- The part of a text between two distances. -/
def cut (text : List Char) (first last : Nat) : Except DirectiveFault (List Char) := do
  let rest ← cutFrom text first
  match takeBytes? (last - first) rest with
  | some part => .ok part
  | none => .error .torn

/-- The characters of a text with their distances from its beginning, in bytes. -/
def placed : Nat → List Char → List (Nat × Char)
  | _, [] => []
  | distance, c :: cs => (distance, c) :: placed (distance + c.utf8Size) cs

/-! ## Reading -/

/-- The part of a directive that a reader is in, with the distance at which that part began. -/
inductive Stage
  | start
  | word (first : Nat)
  | span (first : Nat)
  | field (first : Nat)
  | behindField
  | behindSpan
  | level (first : Nat)
deriving DecidableEq, Repr

/-- What has been read of a directive: its target, whether it selects by what happens inside a span,
and its field. -/
structure Draft where
  stage : Stage
  target : List Char
  inSpan : Bool
  field : Option (List Char)
deriving DecidableEq, Repr

namespace Draft

/-- Nothing has been read. -/
def start : Draft := ⟨.start, [], false, none⟩

/-- A character that a target or a level may begin with. -/
def isFirst (c : Char) : Bool :=
  ['-', ':', '_'].contains c || Text.isAlphanumeric c

/-- Take in a field. It has a name, and a value if an equals sign stands behind the name; a second
one ends the value. -/
def withField (draft : Draft) (text : List Char) : Except DirectiveFault Draft :=
  match text.splitOn '=' with
  | [[]] => .error .malformed
  | name :: value :: _ =>
    if Pattern.isValue value then
      .ok { draft with stage := .behindField, inSpan := true, field := some name }
    else .error .malformed
  | _ => .ok { draft with stage := .behindField, field := some text }

/-- Read the character at a distance. -/
def step (text : List Char) (draft : Draft) (place : Nat × Char) : Except DirectiveFault Draft :=
  let (here, c) := place
  match draft.stage with
  | .start =>
    if c = '[' then .ok { draft with stage := .span (here + 1) }
    else if isFirst c then .ok { draft with stage := .word here }
    else .error .malformed
  | .word first =>
    if c = '=' then do
      let target ← cut text first here
      .ok { draft with stage := .level (here + 1), target := target }
    else if c = '[' then do
      let target ← cut text first here
      .ok { draft with stage := .span (here + 1), target := target }
    else .ok draft
  | .span first =>
    if c = ']' then do
      let _ ← cut text first here
      .ok { draft with stage := .behindSpan, inSpan := true }
    else if c = '\x7b' then do
      let name ← cut text first here
      .ok { draft with stage := .field (here + 1), inSpan := !name.isEmpty }
    else .ok draft
  | .field first => if c = '\x7d' then (cut text first here).bind draft.withField else .ok draft
  | .behindField =>
    if c = ']' then .ok { draft with stage := .behindSpan } else .error .malformed
  | .behindSpan =>
    if c = '=' then .ok { draft with stage := .level (here + 1) } else .error .malformed
  | .level _ => .ok draft

/-- The directive with this limit, if it selects anything. -/
def directive? (draft : Draft) (limit : Nat) : Option Directive :=
  if draft.inSpan then none
  else some ⟨String.ofList draft.target, draft.field.map String.ofList, limit⟩

/-- Come to the end. A word alone is a level if it can be one, and else a target. -/
def finish (text : List Char) (draft : Draft) : Except DirectiveFault (Option Directive) :=
  match draft.stage with
  | .word first => do
    let word ← cutFrom text first
    match limit? word with
    | some limit => .ok (draft.directive? limit)
    | none => .ok ({ draft with target := word }.directive? everything)
  | .behindSpan => .ok (draft.directive? everything)
  | .level first => do
    let word ← cutFrom text first
    if word.isEmpty then .ok (draft.directive? everything)
    else
      match limit? word with
      | some limit => .ok (draft.directive? limit)
      | none => .error .malformed
  | _ => .error .malformed

end Draft

namespace Directive

/-- Read a directive: none for one that selects nothing. -/
def ofText (text : String) : Except DirectiveFault (Option Directive) := do
  let cs := text.toList
  let draft ← (placed 0 (Text.trim cs)).foldlM (Draft.step cs) Draft.start
  draft.finish cs

/-! ## What a directive speaks of -/

/-- The names of the fields of an event; its message is one of them. -/
def fieldNames (e : Event) : List String :=
  "message" :: e.fields.map (·.1)

/-- The directive speaks of this event. -/
def covers (d : Directive) (e : Event) : Bool :=
  d.target.toList.isPrefixOf e.target.toList &&
    match d.field with
    | none => true
    | some name => (fieldNames e).contains name

/-- The directive is more specific than another one that covers the same event: its target is
longer, or for the same target it alone asks for a field, or its field is later in the order of
texts. -/
def outranks (d other : Directive) : Bool :=
  if d.target.length = other.target.length then
    match d.field, other.field with
    | none, _ => false
    | some _, none => true
    | some name, some name' => decide (name' < name)
  else decide (other.target.length < d.target.length)

end Directive

end RemainderService.Log
