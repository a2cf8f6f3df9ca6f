import SchemaDesk.Settings
import SchemaDesk.Text.Quoted

/-!
# Logging

The root logger has a level and handlers. Setting it up adds a handler and then sets the level, so a
level without a name it knows leaves the handler behind. A logger with a handler is left as it is.
-/

namespace SchemaDesk

/-- The level of a logger. -/
inductive LogLevel where
  /-- Critical messages only. -/
  | critical
  /-- Errors and above. -/
  | error
  /-- Warnings and above. -/
  | warning
  /-- Information and above. -/
  | info
  /-- All messages meant for finding errors, and above. -/
  | debug
  /-- No level. -/
  | notSet
deriving DecidableEq, Repr

namespace LogLevel

/-- The name of a level. -/
def name : LogLevel → String
  | critical => "CRITICAL"
  | error => "ERROR"
  | warning => "WARNING"
  | info => "INFO"
  | debug => "DEBUG"
  | notSet => "NOTSET"

/-- The words that name levels. -/
def words : List (Text × LogLevel) :=
  [("CRITICAL", critical), ("FATAL", critical), ("ERROR", error), ("WARN", warning),
    ("WARNING", warning), ("INFO", info), ("DEBUG", debug), ("NOTSET", notSet)]

/-- The level that a word names. -/
def ofWord? (word : Text) : Option LogLevel := words.lookup word

end LogLevel

/-- The root logger. -/
structure Logger where
  /-- The level. -/
  level : LogLevel := .warning
  /-- The number of handlers. -/
  handlers : Nat := 0
deriving DecidableEq, Repr

/-- Why a logger has no level that was asked for: no level is named so. -/
structure UnknownLevel where
  /-- The word in capitals. -/
  word : Text
deriving DecidableEq, Repr

/-- The message of an error. -/
def UnknownLevel.message (error : UnknownLevel) : Text :=
  "Unknown level: " ++ Text.Quoted.quote error.word

namespace Logger

/-- The word for the level: a word that is given and not empty, or else the one of the settings, in
capitals. -/
def levelWord (settings : Settings) (given : Option Text) : Text :=
  Text.upper (match given with
    | some word => if word = [] then settings.logLevel else word
    | none => settings.logLevel)

/-- Sets the logger up, and tells whether the level has no name that is known. -/
def setUp (logger : Logger) (settings : Settings) (given : Option Text) :
    Option UnknownLevel × Logger :=
  if logger.handlers ≠ 0 then (none, logger)
  else
    let handled := { logger with handlers := 1 }
    match LogLevel.ofWord? (levelWord settings given) with
    | some level => (none, { handled with level := level })
    | none => (some ⟨levelWord settings given⟩, handled)

end Logger

end SchemaDesk
