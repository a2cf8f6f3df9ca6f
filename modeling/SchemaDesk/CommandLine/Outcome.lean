import SchemaDesk.CommandLine.Command
import SchemaDesk.CommandLine.OutputFile

/-!
# Outcomes of commands

What a command ends with: a text that is printed, a file that is written, a message about what is
wrong with the model, or a server that is started. A file holds the block and a line end, and is
only written when there is a block. What is printed or written is encoded, and a text with a half of
a surrogate pair has no encoding: a command that comes to such a text fails without a message, and
the file that it has opened stays, empty where the text was to stand in it.
-/

namespace SchemaDesk.CommandLine

/-- How a server is started. -/
structure Launch where
  /-- The address, the port and whether the server starts anew. -/
  arguments : ServeArguments
  /-- The name of the application. -/
  title : Text
  /-- The name of the log level, in small letters. -/
  logLevel : Text
deriving DecidableEq, Repr

/-- What a command ends with. -/
inductive Outcome where
  /-- A text is printed. -/
  | printed (text : Text)
  /-- A file is written. -/
  | written (file : OutputFile.File)
  /-- A file cannot be written. -/
  | unwritable (fault : OutputFault)
  /-- The draft of a model has no block. -/
  | failed (message : Text)
  /-- A server is started. -/
  | launched (launch : Launch)
  /-- A text that is to be printed or written has no encoding; a file may be left. -/
  | unencodable (left : Option OutputFile.File)
deriving DecidableEq, Repr

namespace Outcome

/-- The exit code. -/
def exitCode : Outcome → Nat
  | printed _ | written .. | launched _ => 0
  | failed _ | unwritable _ | unencodable _ => 1

/-- What is printed. -/
def printout : Outcome → Text
  | printed text => text ++ "\n"
  | written file => "✅ Created: " ++ file.path ++ "\n"
  | unwritable _ | unencodable _ => []
  | failed message => "❌ " ++ message ++ "\n"
  | launched launch =>
    "🚀 Serving " ++ launch.title ++ " on " ++ launch.arguments.host ++ ":" ++
      toString launch.arguments.port ++ "\n"

/-- The file that is there in the end. -/
def file? : Outcome → Option OutputFile.File
  | written file => some file
  | unencodable left => left
  | _ => none

/-- Whether all that an outcome prints and writes has an encoding. -/
def isEncodable (outcome : Outcome) : Bool :=
  outcome.printout.isWhole && outcome.file?.all (·.content.isWhole)

/-- What becomes of an outcome when its texts are encoded. A file is written before it is told of.
-/
def encoded (outcome : Outcome) : Outcome :=
  if outcome.isEncodable then outcome else unencodable (outcome.file?.map OutputFile.File.encoded)

end Outcome

/-- The exit code for a command line that is not understood. -/
def UsageError.exitCode : Nat := 2

namespace Outcome

/-- A block is printed, or written to a file when the path of one is given. -/
def ofBlock (output : Option Text) (block : Text) : Outcome :=
  match output with
  | none | some [] => printed block
  | some path =>
    match OutputFile.locate path with
    | .ok place => written ⟨path, place, block ++ "\n"⟩
    | .error fault => unwritable fault

/-- What the command for the block of a model ends with. -/
def ofRender (arguments : RenderArguments) (draws : Draws) : Outcome :=
  match arguments.draft.block (.valid arguments.name) draws with
  | .ok block => (ofBlock arguments.output block).encoded
  | .error error => (failed error.message).encoded

end Outcome

namespace Command

/-- The list of scalar types. -/
def typesText : String :=
  "\n".intercalate ("📁 Scalar types:" :: ScalarType.all.map fun type => "  🏷️  " ++ type.name)

/-- How to use the program. -/
def helpText : String :=
  "\n".intercalate ["Usage: render NAME [--field DEFINITION] [--output FILE] [--no-defaults]",
    "       types", "       serve [--host HOST] [--port PORT] [--reload]"]

/-- What a command ends with. -/
def run (settings : Settings) (draws : Draws) : Command → Outcome
  | help => .printed helpText
  | render arguments => .ofRender arguments draws
  | types => .printed typesText
  | serve arguments =>
    (Outcome.launched ⟨arguments, settings.projectName, settings.logLevel.lower⟩).encoded

end Command

end SchemaDesk.CommandLine
