import SchemaDesk.Text.Pieces

/-!
# Options of a command line

An argument that begins with a dash and is longer than it is an option or a cluster of options; the
others are words. A long option begins with two dashes and may have a value after an equals sign. A
cluster holds short options, each of one character. An option that takes a value takes the rest of
its argument, or the next argument whatever that is. Two dashes alone end the options: all that
follows are words. `Options.read` puts the options over a value of what is given so far, one after
another, so of an option with a single value the last one counts.
-/

namespace SchemaDesk.CommandLine

/-- What an option does to what is given so far. -/
inductive Effect (σ : Type) where
  /-- The option takes no value. -/
  | mark (apply : σ → σ)
  /-- The option takes a value. -/
  | take (apply : Text → σ → σ)

/-- The options of a command. -/
structure Options (σ : Type) where
  /-- The long options, by their names after the dashes. -/
  long : List (Text × Effect σ)
  /-- The short options, by their characters. -/
  short : List (CodePoint × Effect σ) := []
  /-- Whether options may also stand after words. -/
  mixed : Bool

/-- Why a command line is not understood. -/
inductive UsageError where
  /-- There is no option with a name. -/
  | unknownOption (name : Text)
  /-- An option that takes a value is the last argument. -/
  | missingValue (argument : Text)
  /-- An option that takes no value has one. -/
  | unwantedValue (name : Text)
  /-- No command is named. -/
  | missingCommand
  /-- There is no command with a name. -/
  | unknownCommand (name : Text)
  /-- A word is missing. -/
  | missingWord (meaning : Text)
  /-- There is a word too many. -/
  | unexpectedWord (word : Text)
  /-- A value is no integer. -/
  | notInteger (value : Text)
deriving DecidableEq, Repr

/-- The message of an error. -/
def UsageError.message : UsageError → Text
  | unknownOption name => "There is no option " ++ name
  | missingValue argument => "There is no value after " ++ argument
  | unwantedValue name => "The option " ++ name ++ " takes no value"
  | missingCommand => "There is no command"
  | unknownCommand name => "There is no command " ++ name
  | missingWord meaning => "There is no " ++ meaning
  | unexpectedWord word => "There is nothing for " ++ word ++ " to mean"
  | notInteger value => value ++ " is no integer"

namespace Options

variable {σ : Type}

/-- What an argument leads to. -/
inductive Begun (σ : Type) where
  /-- The options are at their end. -/
  | ended
  /-- The argument is a word. -/
  | word
  /-- All options of the argument are read. -/
  | complete (given : σ)
  /-- The last option of the argument takes its value from the next one. -/
  | awaiting (finish : Text → σ)

/-- Reads a long option from the text after its dashes. -/
def beginLong (options : Options σ) (given : σ) (text : Text) :
    Except UsageError (Begun σ) :=
  let (name, value) := match text.cutFirst '=' with
    | some (name, value) => (name, some value)
    | none => (text, none)
  match options.long.lookup name, value with
  | none, _ => .error (.unknownOption name)
  | some (.mark apply), none => .ok (.complete (apply given))
  | some (.mark _), some _ => .error (.unwantedValue name)
  | some (.take apply), none => .ok (.awaiting fun value => apply value given)
  | some (.take apply), some value => .ok (.complete (apply value given))

/-- Reads a cluster of short options. -/
def beginCluster (options : Options σ) (given : σ) : Text → Except UsageError (Begun σ)
  | [] => .ok (.complete given)
  | character :: rest =>
    match options.short.lookup character with
    | none => .error (.unknownOption [character])
    | some (.mark apply) => options.beginCluster (apply given) rest
    | some (.take apply) =>
      if rest = [] then .ok (.awaiting fun value => apply value given)
      else .ok (.complete (apply rest given))

/-- Begins to read an argument. -/
def begin (options : Options σ) (given : σ) : Text → Except UsageError (Begun σ)
  | [.char '-', .char '-'] => .ok .ended
  | .char '-' :: .char '-' :: text => options.beginLong given text
  | [.char '-'] => .ok .word
  | .char '-' :: text => options.beginCluster given text
  | _ => .ok .word

/-- What arguments give: the value that the options lead to, and the words in order. -/
structure Reading (σ : Type) where
  /-- What the options give. -/
  given : σ
  /-- The words. -/
  words : List Text

/-- Reads arguments. Where options may not stand after words, all arguments from the first word on
are words. -/
def read (options : Options σ) : σ → List Text → Except UsageError (Reading σ)
  | given, [] => .ok ⟨given, []⟩
  | given, argument :: rest =>
    match options.begin given argument with
    | .error error => .error error
    | .ok .ended => .ok ⟨given, rest⟩
    | .ok .word =>
      if options.mixed then
        (options.read given rest).map fun reading => ⟨reading.given, argument :: reading.words⟩
      else .ok ⟨given, argument :: rest⟩
    | .ok (.complete given) => options.read given rest
    | .ok (.awaiting finish) =>
      match rest with
      | [] => .error (.missingValue argument)
      | value :: rest => options.read (finish value) rest

end Options

end SchemaDesk.CommandLine
