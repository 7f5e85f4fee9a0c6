import RemainderService.Event

/-!
# What a log shows

A reader of the log does not see events but what they show: a severity, a heading, and fields. In
the statements about logs the entries are written out in these words, apart from the functions that
read them off an event.
-/

set_option autoImplicit false

namespace RemainderService

/-- What an entry of the log shows. -/
structure Entry where
  severity : Severity
  heading : Heading
  fields : List (String × FieldValue)
deriving DecidableEq, Repr

/-- What an event shows. -/
def Event.shown (event : Event) : Entry :=
  ⟨event.severity, event.heading, event.fields⟩

end RemainderService
