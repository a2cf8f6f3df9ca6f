import SchemaDesk.CommandLine.Options
import SchemaDesk.Draft
import SchemaDesk.Settings

/-!
# Commands

What a command line can ask for: the block of a model, the list of scalar types, or the server.
Every command can be asked for help instead, which counts as soon as the options can be read.
-/

namespace SchemaDesk.CommandLine

/-- The arguments for the block of a model. -/
structure RenderArguments where
  /-- The name of the model. -/
  name : Text := []
  /-- The draft of its fields. -/
  draft : Draft := {}
  /-- The path of the file to write. -/
  output : Option Text := none
deriving DecidableEq, Repr

/-- The arguments for the server. -/
structure ServeArguments where
  /-- The address to bind to. -/
  host : Text
  /-- The port to bind to. -/
  port : Int
  /-- Whether the server starts anew when the program changes. -/
  reload : Bool := false
deriving DecidableEq, Repr

/-- What a command line asks for. -/
inductive Command where
  /-- How to use the program. -/
  | help
  /-- The block of a model. -/
  | render (arguments : RenderArguments)
  /-- The list of scalar types. -/
  | types
  /-- The server. -/
  | serve (arguments : ServeArguments)
deriving DecidableEq, Repr

/-- What the options of a command give, and whether help is among it. -/
structure Asked (α : Type) where
  /-- What the options give. -/
  value : α
  /-- Whether help is asked for. -/
  help : Bool := false

namespace Asked

variable {α : Type}

/-- The option for help. -/
def helpOption : Text × Effect (Asked α) :=
  ("help", .mark fun asked => { asked with help := true })

/-- An option that takes no value. -/
def mark (apply : α → α) : Effect (Asked α) :=
  .mark fun asked => { asked with value := apply asked.value }

/-- An option that takes a value. -/
def take (apply : Text → α → α) : Effect (Asked α) :=
  .take fun value asked => { asked with value := apply value asked.value }

end Asked

namespace Command

/-- The options before the name of a command. -/
def commonOptions : Options (Asked Unit) := ⟨[Asked.helpOption], [], false⟩

/-- The option for one more definition. -/
def definitionOption : Effect (Asked RenderArguments) :=
  Asked.take fun definition arguments =>
    { arguments with draft.definitions := arguments.draft.definitions ++ [definition] }

/-- The option for the file to write. -/
def outputOption : Effect (Asked RenderArguments) :=
  Asked.take fun path arguments => { arguments with output := some path }

/-- The options for the block of a model. -/
def renderOptions : Options (Asked RenderArguments) where
  long := [("field", definitionOption), ("output", outputOption),
    ("defaults", Asked.mark fun arguments => { arguments with draft.defaults := true }),
    ("no-defaults", Asked.mark fun arguments => { arguments with draft.defaults := false }),
    Asked.helpOption]
  short := [('f', definitionOption), ('o', outputOption)]
  mixed := true

/-- The options for the list of scalar types. -/
def typesOptions : Options (Asked Unit) := ⟨[Asked.helpOption], [], true⟩

/-- What the options for the server give: the address, the text of the port, and whether the server
starts anew. -/
structure ServeTexts where
  /-- The address. -/
  host : Text
  /-- The text of the port, if it is given. -/
  port : Option Text := none
  /-- Whether the server starts anew. -/
  reload : Bool := false

/-- The options for the server. -/
def serveOptions : Options (Asked ServeTexts) where
  long := [("host", Asked.take fun host texts => { texts with host := host }),
    ("port", Asked.take fun port texts => { texts with port := some port }),
    ("reload", Asked.mark fun texts => { texts with reload := true }),
    ("no-reload", Asked.mark fun texts => { texts with reload := false }),
    Asked.helpOption]
  mixed := true

/-- Refuses words where none are wanted. -/
def noWords : List Text → Except UsageError Unit
  | [] => .ok ()
  | word :: _ => .error (.unexpectedWord word)

/-- The arguments for the block of a model. -/
def parseRender (arguments : List Text) : Except UsageError Command := do
  let reading ← renderOptions.read ⟨{}, false⟩ arguments
  if reading.given.help then return .help
  match reading.words with
  | [] => .error (.missingWord "model name")
  | name :: rest =>
    noWords rest
    return .render { reading.given.value with name := name }

/-- The arguments for the list of scalar types. -/
def parseTypes (arguments : List Text) : Except UsageError Command := do
  let reading ← typesOptions.read ⟨(), false⟩ arguments
  if reading.given.help then return .help
  noWords reading.words
  return .types

/-- The port that a text names, or the one of the settings. -/
def readPort (settings : Settings) : Option Text → Except UsageError Int
  | none => .ok settings.port
  | some text =>
    match Text.Numeral.lenientInt text with
    | .ok port => .ok port
    | .error _ => .error (.notInteger text)

/-- The arguments for the server; those that are not given are in the settings. -/
def parseServe (settings : Settings) (arguments : List Text) : Except UsageError Command := do
  let reading ← serveOptions.read ⟨{ host := settings.host }, false⟩ arguments
  if reading.given.help then return .help
  let port ← readPort settings reading.given.value.port
  noWords reading.words
  return .serve ⟨reading.given.value.host, port, reading.given.value.reload⟩

/-- The command that a command line asks for. -/
def parse (settings : Settings) (arguments : List Text) : Except UsageError Command := do
  let reading ← commonOptions.read ⟨(), false⟩ arguments
  if reading.given.help then return .help
  match reading.words with
  | [] => .error .missingCommand
  | name :: rest =>
    if name = "render" then parseRender rest
    else if name = "types" then parseTypes rest
    else if name = "serve" then parseServe settings rest
    else .error (.unknownCommand name)

end Command

end SchemaDesk.CommandLine
