import RemainderService.Log.Logger
import RemainderService.ServerProcess

/-!
# A server process on a console

What happens to a server process is typed in, a line at a time: the name of a signal, or the name of
an operation and the bit patterns of its operands in hexadecimal. Everything the process logs is
printed through its logger, and an answered call is followed by a line with its outcome.
-/

set_option autoImplicit false

namespace RemainderService.Console

/-! ## Lines that are typed in -/

/-- The pattern with these sixteen hexadecimal digits. -/
def pattern? (text : String) : Option Binary64 :=
  let digits := text.toList.map (IpAddress.digitValue? 16)
  if digits.length = 16 ∧ digits.all Option.isSome then
    some ⟨UInt64.ofNat ((digits.filterMap id).foldl (fun n d => 16 * n + d) 0)⟩
  else none

/-- The signal with this name. -/
def signal? (text : String) : Option Signal :=
  [Signal.interrupt, Signal.terminate].find? fun signal => signal.name == text

/-- What a line makes happen: a signal arrives, is turned to, and the serve loop drains; or a call
is made. A line that is neither makes nothing happen. -/
def inputs (line : String) : List ServerInput :=
  match signal? line with
  | some signal => ServerProcess.stopBy signal
  | none =>
    match line.splitOn " " with
    | [name, a, b] =>
      match Operation.ofName? name, pattern? a, pattern? b with
      | some operation, some a, some b => [.call operation ⟨a, b⟩]
      | _, _, _ => []
    | _ => []

/-! ## Lines that are printed -/

/-- A pattern as sixteen hexadecimal digits. -/
def patternText (x : Binary64) : String :=
  let digits := Nat.toDigits 16 x.bits.toNat
  String.ofList (List.replicate (16 - digits.length) '0' ++ digits)

/-- The outcome of a call. -/
def outcomeText (call : AnsweredCall) : String :=
  match call.outcome with
  | .ok result => patternText result
  | .error status => status.code.name ++ ": " ++ status.message

/-- The lines for what is new in a process since an earlier moment. -/
def news (logger : Log.Logger) (before after : ServerProcess) : List String :=
  logger.lines (after.log.drop before.log.length) ++
    (after.answered.drop before.answered.length).map outcomeText

/-- The logger of a server process, by the filter text that it was given, if any. -/
def logger? (given : Option String) : Option Log.Logger :=
  (Log.Logger.silent.install? .standard given).map (·.value)

end RemainderService.Console
