import SchemaDesk.Shape.Checked
import SchemaDesk.Text.LetterCase
import SchemaDesk.Text.Numeral

/-!
# Settings

The settings are read from the environment twice. The first reading takes the variable with the
exact name of a setting, and its default when the variable is not set or empty; it has to give an
integer where one is needed. The second reading takes the last variable with the name in any letter
case, empty or not, and counts wherever there is one.
-/

namespace SchemaDesk

/-- The variables of an environment in order. -/
abbrev Environment : Type := List (Text × Text)

namespace Environment

/-- The value of the variable with an exact name, or a default when it is not set or empty. -/
def read (environment : Environment) (name : Text) (default : Option Text) : Option Text :=
  match environment.lookup name with
  | some value => if value = [] then default else some value
  | none => default

/-- The value of the last variable with a name in any letter case. -/
def readAnyCase? (environment : Environment) (name : Text) : Option Text :=
  (environment.reverse.find? fun entry =>
    entry.1.lower == name.lower).map Prod.snd

end Environment

/-- The settings. -/
structure Settings where
  /-- The name of the application. -/
  projectName : Text := "Prisma Model Builder"
  /-- What the application does. -/
  projectInfo : Text := "Describe a model and render its Prisma schema block"
  /-- The version of the application. -/
  projectVersion : Text := "1.0.0"
  /-- What the paths of the application begin with. -/
  apiPrefix : Text := "/api/v1"
  /-- The name of the log level. -/
  logLevel : Text := "INFO"
  /-- The address the server is bound to. -/
  host : Text := "0.0.0.0"
  /-- The port the server is bound to. -/
  port : Int := 8000
  /-- The file that a schema is written to, as an example. -/
  defaultOutputFile : Text := "schema.prisma"
  /-- The most sessions that are kept; zero for no limit. -/
  maxSessions : Int := 1000
deriving DecidableEq, Repr

/-- The names of the settings in the environment. -/
def Settings.names : List String :=
  ["PROJECT_NAME", "PROJECT_INFO", "PROJECT_VERSION", "API_PREFIX", "LOG_LEVEL", "HOST", "PORT",
    "DEFAULT_OUTPUT_FILE", "MAX_SESSIONS"]

/-- Why there are no settings. -/
inductive SettingsError where
  /-- The first reading found no integer where one is needed. -/
  | notInteger
  /-- Values found by the second reading have faults. -/
  | refused (details : List Detail)
deriving Repr

namespace Settings

/-- The text of a setting by the first reading. -/
def firstText (environment : Environment) (name default : Text) : Text :=
  (environment.read name (some default)).getD default

/-- The integer of a setting by the first reading. -/
def firstInt (environment : Environment) (name : Text) (default : Int) :
    Except SettingsError Int :=
  match environment.read name none with
  | none => .ok default
  | some text =>
    match Text.Numeral.int? text with
    | some value => .ok value
    | none => .error .notInteger

/-- The text of a setting by the second reading, after the first. -/
def secondText (environment : Environment) (name first : Text) : Text :=
  (environment.readAnyCase? name).getD first

/-- The integer of a setting by the second reading, after the first. -/
def secondInt (environment : Environment) (name : Text) (first : Int) : Checked Int :=
  match environment.readAnyCase? name with
  | none => .valid first
  | some text =>
    match Text.Numeral.lenientInt text with
    | .ok value => .valid value
    | .error .malformed => .invalid [⟨.ofText text .notInteger, [.key name], .string text⟩]
    | .error .oversized => .invalid [⟨.ofText text .oversizedInteger, [.key name], .string text⟩]

/-- The settings by the first reading. -/
def first (environment : Environment) : Except SettingsError Settings := do
  let defaults : Settings := {}
  let port ← firstInt environment "PORT" defaults.port
  let maxSessions ← firstInt environment "MAX_SESSIONS" defaults.maxSessions
  return {
    projectName := firstText environment "PROJECT_NAME" defaults.projectName
    projectInfo := firstText environment "PROJECT_INFO" defaults.projectInfo
    projectVersion := firstText environment "PROJECT_VERSION" defaults.projectVersion
    apiPrefix := firstText environment "API_PREFIX" defaults.apiPrefix
    logLevel := firstText environment "LOG_LEVEL" defaults.logLevel
    host := firstText environment "HOST" defaults.host
    port := port
    defaultOutputFile :=
      firstText environment "DEFAULT_OUTPUT_FILE" defaults.defaultOutputFile
    maxSessions := maxSessions }

/-- The settings by the second reading, after the first. -/
def second (environment : Environment) (first : Settings) : Checked Settings :=
  (Checked.both (secondInt environment "PORT" first.port)
    (secondInt environment "MAX_SESSIONS" first.maxSessions)).map fun numbers => {
      projectName := secondText environment "PROJECT_NAME" first.projectName
      projectInfo := secondText environment "PROJECT_INFO" first.projectInfo
      projectVersion := secondText environment "PROJECT_VERSION" first.projectVersion
      apiPrefix := secondText environment "API_PREFIX" first.apiPrefix
      logLevel := secondText environment "LOG_LEVEL" first.logLevel
      host := secondText environment "HOST" first.host
      port := numbers.1
      defaultOutputFile :=
        secondText environment "DEFAULT_OUTPUT_FILE" first.defaultOutputFile
      maxSessions := numbers.2 }

/-- The settings that an environment gives. -/
def load (environment : Environment) : Except SettingsError Settings := do
  let read ← first environment
  (second environment read).toExcept.mapError .refused

end Settings

end SchemaDesk
