import SchemaDesk.CommandLine.Outcome
import SchemaDesk.Http.Application
import SchemaDesk.Json.Writer

/-!
# The program

The outer layer of the program: it reads the environment and the command line, and does what the
outcome of the command says. A server takes its requests from standard input, one a line: the
method, the path and the body, each after a space, where the body may be left out. It writes the
status and the body of every answer as a line.
-/

namespace SchemaDesk.Program

/-- A random token of 32 hexadecimal digits. -/
def randomToken : IO Text := do
  let bytes ← IO.getRandomBytes 16
  return bytes.toList.flatMap fun byte => Text.hexDigits 2 byte.toNat

/-- The variables of the environment that the settings are read from. -/
def environment : IO Environment :=
  Settings.names.filterMapM fun name => do
    return (← IO.getEnv name).map fun value => (Text.ofString name, Text.ofString value)

/-- A request from a line. -/
def requestOfLine (line : Text) : Request :=
  let (method, rest) := (line.cutFirst ' ').getD (line, [])
  let (path, body) := (rest.cutFirst ' ').getD (rest, [])
  ⟨method, path, .bytes body.shown.toUTF8.toList⟩

/-- Answers the requests of standard input until it ends. Every request has tokens of its own to
draw. -/
partial def serve (settings : Settings) (store : Store Model) : IO Unit := do
  let line ← (← IO.getStdin).getLine
  unless line.isEmpty do
    let tokens ← (List.range 64).mapM fun _ => randomToken
    let request := requestOfLine (Text.ofString line |>.filter (· ≠ .char '\n'))
    let (response, store) :=
      Application.handle settings request { store with draws := ⟨tokens, 0⟩ }
    IO.println (toString response.status ++ " " ++ response.body.write)
    serve settings store

/-- Writes the file of an outcome, with the folder it lies in. -/
def writeFile (file : CommandLine.OutputFile.File) : IO Unit := do
  let folder := CommandLine.OutputFile.folder file.path
  unless folder = [] do
    IO.FS.createDirAll folder.shown
  IO.FS.writeFile file.path.shown file.content.shown

/-- Does what an outcome says. -/
def perform (settings : Settings) (outcome : CommandLine.Outcome) : IO Unit := do
  if let some file := outcome.file? then
    writeFile file
  match outcome with
  | .unwritable fault => IO.eprintln fault.message
  | .unencodable _ => IO.eprintln "A text holds a half of a surrogate pair."
  | _ => pure ()
  IO.print outcome.printout.shown
  if let .launched _ := outcome then
    serve settings { limit := settings.maxSessions, draws := ⟨[], 0⟩ }

/-- Runs the program on the arguments of its command line. -/
def run (arguments : List String) : IO UInt32 := do
  match Settings.load (← environment) with
  | .error _ =>
    IO.eprintln "The environment holds no valid settings."
    return 1
  | .ok settings =>
    match CommandLine.Command.parse settings (arguments.map Text.ofString) with
    | .error error =>
      IO.eprintln error.message.shown
      return CommandLine.UsageError.exitCode.toUInt32
    | .ok command =>
      let outcome := command.run settings ⟨[], 0⟩
      perform settings outcome
      return outcome.exitCode.toUInt32

end SchemaDesk.Program

/-- The program. -/
def main (arguments : List String) : IO UInt32 := SchemaDesk.Program.run arguments
