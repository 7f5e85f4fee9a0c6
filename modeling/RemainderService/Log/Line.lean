import RemainderService.Event
import RemainderService.Text.Shapeless

/-!
# Log lines

An event is printed on a line of its own, as text or as JSON. **A text line** has the level, the
target if that is wanted, the message and the fields. A field that is itself called a message shows
its value without a name, and a quoted field is escaped. **A JSON line** keeps numbers as numbers
and has one message only: a field of that name takes the place of the event's own. The opening of a
span is not printed.
-/

set_option autoImplicit false

namespace RemainderService.Log

/-- How events are printed. -/
structure Style where
  json : Bool
  withTarget : Bool
deriving DecidableEq, Repr

/-! ## Escapes -/

/-- A number in lowercase hexadecimal. -/
def hex (n : Nat) : String := String.ofList (Nat.toDigits 16 n)

/-- A code point as an escape. -/
def codeEscape (c : Char) : String := "\\u\x7b" ++ hex c.toNat ++ "\x7d"

/-- A character between quotes. -/
def quotedChar (c : Char) : String :=
  if c = '\x22' then "\\\""
  else if c = '\\' then "\\\\"
  else if c = '\n' then "\\n"
  else if c = '\r' then "\\r"
  else if c = '\t' then "\\t"
  else if c = '\x00' then "\\0"
  else if Text.isShapeless c then codeEscape c
  else String.ofList [c]

/-- A text between quotes. -/
def quoted (text : String) : String :=
  "\"" ++ String.join (text.toList.map quotedChar) ++ "\""

/-- A character of a message: those that can steer a terminal are escaped. -/
def messageChar (c : Char) : String :=
  let n := c.toNat
  if n = 0x07 ∨ n = 0x08 ∨ n = 0x0c ∨ n = 0x1b ∨ n = 0x7f then
    "\\x" ++ (if n < 16 then "0" else "") ++ hex n
  else if 0x80 ≤ n ∧ n ≤ 0x9f then codeEscape c
  else String.ofList [c]

/-- A message as it is printed. -/
def messageText (text : String) : String :=
  String.join (text.toList.map messageChar)

/-! ## Text -/

/-- A field on a text line. -/
def fieldText (name : String) (value : FieldValue) : String :=
  if name = "message" then messageText value.text
  else
    name ++ "=" ++
      match value with
      | .number n => toString n
      | .plain text => text
      | .quoted text => quoted text

/-- The line of an event with this message. -/
def textLine (style : Style) (e : Event) (message : String) : String :=
  e.severity.name ++ " " ++ (if style.withTarget then e.target ++ ": " else "") ++
    String.intercalate " " (messageText message :: e.fields.map fun (name, value) =>
      fieldText name value)

/-! ## JSON -/

/-- A character inside a JSON string. -/
def stringChar (c : Char) : String :=
  if c = '\x22' then "\\\""
  else if c = '\\' then "\\\\"
  else if c.toNat < 0x20 then
    "\\u00" ++ (if c.toNat < 16 then "0" else "") ++ hex c.toNat
  else String.ofList [c]

/-- A JSON string. -/
def stringText (text : String) : String :=
  "\"" ++ String.join (text.toList.map stringChar) ++ "\""

/-- A value as JSON. -/
def valueText : FieldValue → String
  | .number n => toString n
  | .plain text => stringText text
  | .quoted text => stringText text

/-- A JSON object with these entries, whose values are written already. -/
def jsonObject (entries : List (String × String)) : String :=
  "\x7b" ++ String.intercalate "," (entries.map fun (name, value) =>
    stringText name ++ ":" ++ value) ++ "\x7d"

/-- The fields of an event with its message in front, unless a field takes that place. -/
def fieldsWithMessage (e : Event) (message : String) : List (String × FieldValue) :=
  if e.fields.any fun (name, _) => name == "message" then e.fields
  else ("message", .plain message) :: e.fields

/-- The JSON line of an event with this message. -/
def jsonLine (style : Style) (e : Event) (message : String) : String :=
  jsonObject <|
    [("level", stringText e.severity.name),
      ("fields", jsonObject ((fieldsWithMessage e message).map fun (name, value) =>
        (name, valueText value)))] ++
    if style.withTarget then [("target", stringText e.target)] else []

/-- The line of an event, if it is printed at all. -/
def line? (style : Style) (e : Event) : Option String :=
  match e.heading with
  | .span _ => none
  | .message message =>
    some (if style.json then jsonLine style e message else textLine style e message)

end RemainderService.Log
