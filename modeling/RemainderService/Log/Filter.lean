import RemainderService.Log.Directive

/-!
# Log filters

A filter is a list of directives. **The most specific directive that covers an event decides**
whether it is reported; of two that are equally specific, the later one. Where no directive covers
an event, it is not reported.

A filter is read from a text with commas between the directives. The text that a process was given
counts only if every directive in it is readable; the text of its settings is read as far as it
goes.
-/

set_option autoImplicit false

namespace RemainderService.Log

/-- A list of directives; the places of the directives matter only for equally specific ones. -/
structure Filter where
  directives : List Directive
deriving DecidableEq, Repr

namespace Filter

/-- The more specific of two directives that cover an event, the second one if they are equally
specific. -/
def sharper (chosen : Option Directive) (d : Directive) : Option Directive :=
  match chosen with
  | none => some d
  | some c => if c.outranks d then some c else some d

/-- The directive that decides about an event. -/
def deciding? (filter : Filter) (e : Event) : Option Directive :=
  (filter.directives.filter (·.covers e)).foldl sharper none

/-- The event is reported. -/
def reports (filter : Filter) (e : Event) : Bool :=
  match filter.deciding? e with
  | some d => decide (e.severity.rank ≤ d.limit)
  | none => false

/-! ## Reading -/

/-- The pieces of a list of directives; empty ones are passed over. -/
def pieces (text : String) : List String :=
  (text.splitOn ",").filter (· != "")

/-- The filter of a text in which every directive is readable. -/
def strict (text : String) : Except DirectiveFault Filter := do
  let found ← (pieces text).mapM Directive.ofText
  .ok ⟨found.filterMap id⟩

/-- The directives of the pieces that are readable; none at all if a piece is torn. -/
def readable? : List String → Option (List (Option Directive))
  | [] => some []
  | piece :: later =>
    match Directive.ofText piece with
    | .ok directive => (readable? later).map (directive :: ·)
    | .error .malformed => readable? later
    | .error .torn => none

/-- The filter of the readable directives of a text; if there are none, errors are reported. -/
def lenient? (text : String) : Option Filter :=
  (readable? (pieces text)).map fun
    | [] => ⟨[⟨"", none, Severity.error.rank⟩]⟩
    | found => ⟨found.filterMap id⟩

/-- The filter for a process: the text that it was given if that is readable as a whole, and
otherwise the text that its settings hold. There is none if the reader meets a torn directive. -/
def choose? (given : Option String) (fallback : String) : Option Filter :=
  match given.map strict with
  | some (.ok filter) => some filter
  | some (.error .torn) => none
  | _ => lenient? fallback

end Filter

end RemainderService.Log
