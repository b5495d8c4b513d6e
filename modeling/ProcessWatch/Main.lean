/-
Module: ProcessWatch.Main
Purpose: The console as a program: settings from the environment, lines from standard input, replies
  on standard output and complaints on standard error.
Trusted boundary: the environment, the input and the outputs are what the runtime takes them to be
Main exports: main
-/
import ProcessWatch.Console.Session

namespace ProcessWatch

/-- Read the variables that settings are made of. -/
def readEnvironment : IO (String → Option String) := do
  let names := [Settings.Variable.capacity.name, Settings.Variable.listLimit.name,
    Settings.traceVariable]
  let found ← names.mapM fun name => do return (name, ← IO.getEnv name)
  return fun name => (found.lookup name).join

/-- Write an error with its hint to standard error. -/
def complain (diagnostic : Diagnostic) : IO Unit := do
  IO.eprintln ("Error: " ++ diagnostic.message)
  if let some help := diagnostic.help then
    IO.eprintln ("  help: " ++ help)

/-- Take lines from the input, from one to the next, until the session ends. -/
partial def converse (input output : IO.FS.Stream) (origin : Nat) (session : Session) :
    IO UInt32 := do
  let bytes ← try pure (some (← input.getLine).toUTF8.toList) catch _ => pure none
  match bytes.map Session.linesOfBytes with
  | some [] => return 0
  | some [some line] =>
      let now := (← IO.monoNanosNow) - origin
      let (next, session) := session.step now line
      match next with
      | .stop => return 0
      | .print text =>
          output.putStr text
          output.flush
          converse input output origin session
      | .complain error =>
          complain error.diagnostic
          converse input output origin session
      | .pass => converse input output origin session
  | _ =>
      IO.eprintln "Error: stream did not contain valid UTF-8"
      return 1

end ProcessWatch

/-- Run the console. -/
def main : IO UInt32 := do
  match ProcessWatch.Settings.ofEnvironment (← ProcessWatch.readEnvironment) with
  | .error fault =>
      ProcessWatch.complain fault.error.diagnostic
      return 1
  | .ok settings =>
      let origin ← IO.monoNanosNow
      ProcessWatch.converse (← IO.getStdin) (← IO.getStdout) origin
        (ProcessWatch.Session.create settings 0)
