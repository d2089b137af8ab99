import HealthWatch.Client
import HealthWatch.Program

/-!
# The command line

The program is started with the name of its configuration and runs until its
input ends.  Lines of the log go to the output, and what made the program fail
to the error output.  Its peers are those of a `Network` without sockets.
-/

namespace HealthWatch

/-- How long the program had been running, as the log shows it. -/
def sinceStart (time : Instant) : String := (Duration.ofMillis time).text

/-- What a file holds, if it can be read. -/
def contents? (path : String) : IO (Option ByteArray) := do
  try return some (← IO.FS.readBinFile path) catch _ => return none

/-- Reads until the input ends. -/
partial def untilClosed (input : IO.FS.Stream) : IO Unit := do
  let line ← input.getLine
  unless line.isEmpty do untilClosed input

/-- Prints lines of the log. -/
def printLines (lines : List Line) : IO Unit := do
  for line in lines do IO.println line.write
  (← IO.getStdout).flush

end HealthWatch

open HealthWatch in
/-- Runs the program; it ends with 0, or with 1 if it failed. -/
def main (arguments : List String) : IO UInt32 := do
  let path := arguments.headD Program.configPath
  let bytes ← contents? path
  let around : Surroundings Client Client.Network Client.SetupFailure :=
    { file := fun p => if p = path then bytes else none
      logSetting := ← IO.getEnv "RUST_LOG"
      ports := ⟨[]⟩
      env := .ofSockets .empty
      build := Client.ofKind .plain Client.connectTimeout 0 }
  let program := Program.start around sinceStart arguments
  let begun := program.lines sinceStart
  printLines begun
  if program.isWaiting then untilClosed (← IO.getStdin)
  let ended := program.stop around.env
  printLines ((ended.lines sinceStart).drop begun.length)
  match ended.errorLine? with
  | some line => IO.eprintln line
  | none => pure ()
  return ended.exitCode.toUInt32
