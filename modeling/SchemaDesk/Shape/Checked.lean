import SchemaDesk.Field
import SchemaDesk.Json.Value

/-!
# Checked values

The outcome of checking a JSON value: the value of the domain it stands for, or the details of every
fault found in it. Outcomes of parts are put together so that no detail is lost and their order is
the order of the parts. A detail tells the fault, the place and the value found there.
-/

namespace SchemaDesk

/-- What is wrong with a value. -/
inductive Fault where
  /-- A required member is not there. -/
  | missing
  /-- The value is no string. -/
  | notText
  /-- The value is a string with a half of a surrogate pair. -/
  | notEncodable
  /-- The value can be no truth value. -/
  | notFlag
  /-- The value names no truth value. -/
  | unclearFlag
  /-- The value names no scalar type. -/
  | notScalarType
  /-- The value is no array. -/
  | notList
  /-- The value, given by a caller, is no object of the shape with a title. -/
  | notObject (title : String)
  /-- The value, found in a request body, is no object. -/
  | notBodyObject
  /-- The text names no integer. -/
  | notInteger
  /-- The text names an integer with too many digits. -/
  | oversizedInteger
  /-- The text is not JSON. -/
  | notJson
deriving DecidableEq, Repr

namespace Fault

/-- The code of a fault. -/
def code : Fault → String
  | missing => "missing"
  | notText => "string_type"
  | notEncodable => "string_unicode"
  | notFlag => "bool_type"
  | unclearFlag => "bool_parsing"
  | notScalarType => "enum"
  | notList => "list_type"
  | notObject _ => "model_type"
  | notBodyObject => "model_attributes_type"
  | notInteger => "int_parsing"
  | oversizedInteger => "int_parsing_size"
  | notJson => "json_invalid"

/-- The names of all scalar types, each between apostrophes. -/
def quotedTypes : List String := ScalarType.all.map fun type => "'" ++ type.name ++ "'"

/-- The message of a fault. -/
def message : Fault → String
  | missing => "Field required"
  | notText => "Input should be a valid string"
  | notEncodable => "Input should be a valid string, unable to parse raw data as a unicode string"
  | notFlag => "Input should be a valid boolean"
  | unclearFlag => "Input should be a valid boolean, unable to interpret input"
  | notScalarType =>
    "Input should be " ++ ", ".intercalate quotedTypes.dropLast ++ " or " ++
      quotedTypes.getLastD ""
  | notList => "Input should be a valid list"
  | notObject title => "Input should be a valid dictionary or instance of " ++ title
  | notBodyObject => "Input should be a valid dictionary or object to extract fields from"
  | notInteger => "Input should be a valid integer, unable to parse string as an integer"
  | oversizedInteger =>
    "Unable to parse input string as an integer, exceeded maximum size"
  | notJson => "JSON decode error"

/-- The fault of a text that has one, if it is whole. -/
def ofText (text : Text) (fault : Fault) : Fault := if text.isWhole then fault else notEncodable

end Fault

/-- A step into a value. -/
inductive Step where
  /-- To the member of an object with a key. -/
  | key (key : Text)
  /-- To the item of an array with an index. -/
  | index (index : Nat)
deriving DecidableEq, Repr

/-- A fault, its place and the value found there. -/
structure Detail where
  /-- What is wrong. -/
  fault : Fault
  /-- The steps from the whole value to the place. -/
  place : List Step
  /-- The value found at the place; for a missing member, the object that lacks it. -/
  input : Json
deriving Repr

/-- The detail seen from a value that has its value one step below. -/
def Detail.under (step : Step) (detail : Detail) : Detail :=
  { detail with place := step :: detail.place }

/-- The outcome of checking a value. -/
inductive Checked (α : Type) where
  /-- The value stands for a value of the domain. -/
  | valid (value : α)
  /-- The value has faults. -/
  | invalid (details : List Detail)

namespace Checked

variable {α β γ : Type}

/-- The details of the faults found. -/
def details : Checked α → List Detail
  | valid _ => []
  | invalid details => details

/-- The value, if it is valid. -/
def value? : Checked α → Option α
  | valid value => some value
  | invalid _ => none

/-- A refusal of one fault of a value. -/
def refuse (fault : Fault) (input : Json) : Checked α := invalid [⟨fault, [], input⟩]

/-- The outcome with a function applied to the value. -/
def map (f : α → β) : Checked α → Checked β
  | valid value => valid (f value)
  | invalid details => invalid details

/-- The outcome seen from a value that has the value one step below. -/
def under (step : Step) : Checked α → Checked α
  | valid value => valid value
  | invalid details => invalid (details.map (Detail.under step))

/-- The outcome of two parts: both values, or the details of both parts in order. -/
def both : Checked α → Checked β → Checked (α × β)
  | valid left, valid right => valid (left, right)
  | left, right => invalid (left.details ++ right.details)

/-- The outcome of the items of an array: all values, or the details of all items in order. -/
def all : List (Checked α) → Checked (List α)
  | [] => valid []
  | item :: rest => (both item (all rest)).map fun values => values.1 :: values.2

/-- The values of a family of outcomes, one for every attribute of a list, as far as they are
valid. -/
def family {F : Attribute → Type} (outcome : (attr : Attribute) → Checked (F attr)) :
    Checked ((attr : Attribute) → F attr) :=
  if valid : ∀ attr ∈ Attribute.all, ((outcome attr).value?).isSome then
    .valid fun attr => ((outcome attr).value?).get (valid attr (Attribute.mem_all attr))
  else invalid (Attribute.all.flatMap fun attr => (outcome attr).details)

/-- The value or the details. -/
def toExcept : Checked α → Except (List Detail) α
  | valid value => .ok value
  | invalid details => .error details

end Checked

end SchemaDesk
