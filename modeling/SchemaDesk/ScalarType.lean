import SchemaDesk.Text.Basic

/-!
# Scalar types

The types a field can have, their names in a schema, and the words that name them in a field
definition.
-/

namespace SchemaDesk

/-- The type of a field. -/
inductive ScalarType where
  /-- Text. -/
  | string
  /-- Integers. -/
  | int
  /-- Large integers. -/
  | bigInt
  /-- Floating-point numbers. -/
  | float
  /-- Decimal numbers. -/
  | decimal
  /-- Truth values. -/
  | boolean
  /-- Points in time. -/
  | dateTime
  /-- JSON documents. -/
  | json
  /-- Byte strings. -/
  | bytes
deriving DecidableEq, Repr

namespace ScalarType

/-- All scalar types, in the order they are listed in. -/
def all : List ScalarType :=
  [string, int, bigInt, float, decimal, boolean, dateTime, json, bytes]

/-- The name of a scalar type in a schema. -/
def name : ScalarType → String
  | string => "String"
  | int => "Int"
  | bigInt => "BigInt"
  | float => "Float"
  | decimal => "Decimal"
  | boolean => "Boolean"
  | dateTime => "DateTime"
  | json => "Json"
  | bytes => "Bytes"

/-- The scalar type with a name, letter case included. -/
def ofName? (text : Text) : Option ScalarType := all.find? fun type => type.name == text

/-- The lower-case words that name a scalar type in a definition. -/
def words : List (Text × ScalarType) :=
  [("string", string), ("str", string), ("int", int), ("integer", int), ("bigint", bigInt),
    ("float", float), ("decimal", decimal), ("boolean", boolean), ("bool", boolean),
    ("datetime", dateTime), ("json", json), ("dict", json), ("bytes", bytes)]

/-- The scalar type that a lower-case word names. -/
def ofWord? (word : Text) : Option ScalarType := words.lookup word

/-- Every scalar type is listed. -/
theorem mem_all (type : ScalarType) : type ∈ all := by cases type <;> decide

/-- A scalar type is found by its name. -/
theorem ofName?_name (type : ScalarType) : ofName? type.name = some type := by
  cases type <;> decide

/-- Only its own name finds a scalar type. -/
theorem name_of_ofName? {text : Text} {type : ScalarType} (found : ofName? text = some type) :
    type.name = text := by
  simpa using List.find?_some found

end ScalarType

end SchemaDesk
