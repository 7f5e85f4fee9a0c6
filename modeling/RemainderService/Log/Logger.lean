import RemainderService.ExitStatus
import RemainderService.Log.Filter
import RemainderService.Log.Line

/-!
# The logger of a process

A process prints nothing until its logger is set up. **Setting up happens once**: the filter and
the style of the first time stay, and every later attempt only leaves an event in the log. Each
attempt reads a filter first, and a process that meets a torn directive there has crashed.
-/

set_option autoImplicit false

namespace RemainderService.Log

/-- The settings of a logger. -/
structure Config where
  defaultLevel : String
  json : Bool
  withTarget : Bool
deriving DecidableEq, Repr

/-- Text lines without targets, for all but debugging events. -/
def Config.standard : Config := ⟨"info", false, false⟩

/-- What is printed, and how. -/
structure Output where
  filter : Filter
  style : Style
deriving DecidableEq, Repr

/-- The output that settings ask for, and the filter text that the process was given, if any. There
is none if a directive is torn. -/
def Config.output? (config : Config) (given : Option String) : Option Output :=
  (Filter.choose? given config.defaultLevel).map (⟨·, ⟨config.json, config.withTarget⟩⟩)

/-- The line of an event under an output, if it is reported. -/
def Output.line? (output : Output) (e : Event) : Option String :=
  if output.filter.reports e then Log.line? output.style e else none

/-- The logger of a process: nothing before it is set up. -/
structure Logger where
  output : Option Output
deriving DecidableEq, Repr

namespace Logger

/-- The logger of a process that has just started. -/
def silent : Logger := ⟨none⟩

/-- The lines of a log. -/
def lines (logger : Logger) (log : List Event) : List String :=
  match logger.output with
  | none => []
  | some output => log.filterMap output.line?

/-- Set the logger up. If that was done before, the logger stays as it is and an event says so.
There is no logger if a directive is torn. -/
def install? (logger : Logger) (config : Config) (given : Option String) :
    Option (Logged Logger) :=
  (config.output? given).map fun output =>
    match logger.output with
    | none => ⟨⟨some output⟩, []⟩
    | some _ => ⟨logger, [.alreadyInstalled]⟩

end Logger

/-- Something that a process does with its logger. -/
inductive Action
  | install (config : Config)
  | report (log : List Event)

/-- The lines that a process printed, and how it ended. -/
structure Printed where
  lines : List String
  exit : ExitStatus
deriving DecidableEq, Repr

/-- What a process prints, action by action. -/
def Logger.run (logger : Logger) (given : Option String) : List Action → Printed
  | [] => ⟨[], .success⟩
  | .install config :: later =>
    match logger.install? config given with
    | none => ⟨[], .crashed⟩
    | some installed =>
      let rest := installed.value.run given later
      ⟨installed.value.lines installed.log ++ rest.lines, rest.exit⟩
  | .report log :: later =>
    let rest := logger.run given later
    ⟨logger.lines log ++ rest.lines, rest.exit⟩

end RemainderService.Log
