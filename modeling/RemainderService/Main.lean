import RemainderService.Console

/-!
# The program

Runs a server process on the console. The first argument, if there is one, is the filter of the log.
The program ends with the exit status of the process, or in good order when its input ends.
-/

namespace RemainderService.Console

/-- Print some lines. -/
def printLines (lines : List String) : IO Unit :=
  lines.forM fun line => IO.println line

/-- Let the lines of the input happen until the process has ended. -/
partial def serve (logger : Log.Logger) (input : IO.FS.Stream) (process : ServerProcess) :
    IO UInt32 := do
  match process.exit with
  | some status => return UInt32.ofNat status.number
  | none =>
    let line ← input.getLine
    if line.isEmpty then return UInt32.ofNat ExitStatus.success.number
    let next := process.run (inputs line.trimAscii.toString)
    printLines (news logger process next)
    serve logger input next

end RemainderService.Console

open RemainderService in
/-- Start a server process on the address of the service, and run it on the console. -/
def main (arguments : List String) : IO UInt32 := do
  match Console.logger? arguments.head? with
  | none => return UInt32.ofNat ExitStatus.crashed.number
  | some logger =>
    let process := ServerProcess.start .idle listenAddress
    Console.printLines (logger.lines process.log)
    Console.serve logger (← IO.getStdin) process
