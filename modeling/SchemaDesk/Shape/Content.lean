import SchemaDesk.Shape.Checked

/-!
# Contents of JSON values

A content reads values of one type from JSON values and writes them as JSON values. A flag is read
leniently: numbers equal to zero or one and a few words stand for truth values too. A string that is
looked up among words has to be whole; one that is only kept may hold halves of surrogate pairs.
What is written is read back as the value it was written from.
-/

namespace SchemaDesk

/-- Where a value that is checked comes from. -/
inductive Origin where
  /-- A caller hands it over. -/
  | caller
  /-- It is, or lies in, the body of a request. -/
  | body
deriving DecidableEq, Repr

/-- How the names of the members of an object are spelled. -/
inductive Spelling where
  /-- Words in lower case with underscores between them. -/
  | snake
  /-- Words without anything between them, from the second on with a capital. -/
  | camel
deriving DecidableEq, Repr

/-- A reader and a writer of the values of one type. -/
structure Content (α : Type) where
  /-- Checks a JSON value and reads the value it stands for. -/
  read : Origin → Json → Checked α
  /-- Writes a value, the members of objects in one spelling. -/
  write : Spelling → α → Json

namespace Content

variable {α : Type}

/-- Texts. -/
def text : Content Text where
  read _ value := match value with
    | .string text => .valid text
    | value => .refuse .notText value
  write _ text := .string text

/-- The lower-case words that stand for truth values. -/
def flagWords : List (Text × Bool) :=
  [("0", false), ("off", false), ("f", false), ("false", false), ("n", false), ("no", false),
    ("1", true), ("on", true), ("t", true), ("true", true), ("y", true), ("yes", true)]

/-- A code point in lower case, if it is an ASCII capital. -/
def asciiLower : CodePoint → CodePoint
  | .char c => c.toLower
  | .half offset => .half offset

/-- The bound of the integers of 64 bits with a sign: two to the 63rd power. -/
def wordBound : Int := 9223372036854775808

/-- Whether an integer that a number equals is one of 64 bits with a sign. The least of them counts
only when it is written as an integer. -/
def isWord (number : Number) (value : Int) : Bool :=
  match number with
  | .integer _ => -wordBound ≤ value && value < wordBound
  | _ => -wordBound < value && value < wordBound

/-- The truth value that a value stands for, or the fault that it stands for none. -/
def readFlag : Json → Except Fault Bool
  | .bool flag => .ok flag
  | .string text =>
    match flagWords.lookup (text.map asciiLower) with
    | some flag => .ok flag
    | none => .error (.ofText text .unclearFlag)
  | .number number =>
    match number.integral? with
    | some 0 => .ok false
    | some 1 => .ok true
    | some value => .error (if isWord number value then .unclearFlag else .notFlag)
    | none => .error .notFlag
  | _ => .error .notFlag

/-- Truth values. -/
def flag : Content Bool where
  read _ value := match readFlag value with
    | .ok flag => .valid flag
    | .error fault => .refuse fault value
  write _ flag := .bool flag

/-- Scalar types, by their names. -/
def scalarType : Content ScalarType where
  read _ value := match value with
    | .string name =>
      match ScalarType.ofName? name with
      | some type => .valid type
      | none => .refuse (.ofText name .notScalarType) value
    | value => .refuse .notScalarType value
  write _ type := .string type.name

/-- The values of one kind of attribute. -/
def ofKind : (kind : Attribute.Kind) → Content kind.Value
  | .text => text
  | .flag => flag
  | .scalar => scalarType

/-- Values that may be `null`. -/
def nullable (content : Content α) : Content (Option α) where
  read origin value := match value with
    | .null => .valid none
    | value => (content.read origin value).map some
  write spelling value := Json.orNull (content.write spelling) value

/-- The outcomes of the items of an array, each seen from the array. -/
def readItems (content : Content α) (origin : Origin) (items : List Json) : List (Checked α) :=
  items.mapIdx fun index item => (content.read origin item).under (.index index)

/-- Lists of values. -/
def list (content : Content α) : Content (List α) where
  read origin value := match value with
    | .array items => Checked.all (readItems content origin items)
    | value => .refuse .notList value
  write spelling values := .array (values.map (content.write spelling))

end Content

end SchemaDesk
