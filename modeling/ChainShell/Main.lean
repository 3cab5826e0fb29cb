import ChainShell.Machine
import ChainShell.Shell

open ChainShell

partial def readToEnd (stream : IO.FS.Stream) (read : ByteArray) : IO ByteArray := do
  let chunk ← stream.read 65536
  if chunk.isEmpty then return read else readToEnd stream (read ++ chunk)

def readEnvironment : IO (List (Text × Text)) := do
  let names := [Settings.Field.prompt, .lineEditor, .commandTimeout, .reportErrors, .logLevel,
    .logProfile].map fun field => String.ofList (Text.upperCase field.variable)
  let found ← (names ++ ["COLUMNS"]).mapM fun name => do
    return (← IO.getEnv name).map fun value => (name.toList, value.toList)
  return Machine.environment ++ found.filterMap id

/-- The width of the terminal where none is known. -/
def defaultColumns : Nat := 80

/-- Runs a shell over a fresh machine in memory and gives the last eight bits of its exit code. Standard
input is taken whole before the first line is run. -/
def runShell : IO UInt32 := do
  let environment ← readEnvironment
  let input ← readToEnd (← IO.getStdin) ByteArray.empty
  let columns := (environment.lookup "COLUMNS".toList).bind Machine.readNat
  let start : Shell.Start :=
    ⟨["root".toList], environment, input.toList, [], columns.getD defaultColumns⟩
  let done := Shell.run (Machine.host environment) Machine.tree start
  (← IO.getStdout).write ⟨done.output.toArray⟩
  (← IO.getStderr).putStr (String.ofList done.errors)
  return UInt32.ofNat (done.exitCode % 256).toNat

def main (args : List String) : IO UInt32 := do
  match CommandLine.ofArgs (args.map (·.toList)) with
  | .shell => runShell
  | .help =>
    IO.println "Usage: pipesh [--help]"
    return 0
  | .misuse =>
    IO.eprintln "Usage: pipesh [--help]"
    return UInt32.ofNat Shell.misuseCode.toNat
