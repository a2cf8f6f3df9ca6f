import SchemaDesk.Definition.Parser

/-!
# Writing field definitions

The definition of a field with given attributes: the head, then one segment for every attribute
that is given besides those of the head. Flags that are off and an attribute of the head that is
not given have no segment of their own.
-/

namespace SchemaDesk.Definition

/-- The attributes that a segment can set, in the order they are written in. -/
def segmentAttributes : List Attribute :=
  [.isId, .isUnique, .isUpdatedAt, .defaultValue, .mapName, .relationFields, .relationReferences]

/-- The head of a definition. -/
def writeHead (changes : Changes) : Text :=
  changes.name.getD [] ++ ":" ++ (changes.type.getD .string).name ++
    (if changes.isArray = some true then Text.ofString "[]" else []) ++
    (if changes.isOptional = some true then Text.ofString "?" else [])

/-- The segment that sets a flag by its word, when the flag is on. -/
def writeFlag (word : Text) (given : Option Bool) : List Text :=
  if given = some true then [word] else []

/-- The segment that sets a text by its key, when the text is given. -/
def writeText (key : Text) (given : Option Text) : List Text :=
  match given with
  | some value => [key ++ "=" ++ value]
  | none => []

/-- The segment of an attribute, when it is given. -/
def writeSegment (changes : Changes) : Attribute → List Text
  | .isId => writeFlag "id" changes.isId
  | .isUnique => writeFlag "unique" changes.isUnique
  | .isUpdatedAt => writeFlag "updatedAt" changes.isUpdatedAt
  | .defaultValue => writeText "default" changes.defaultValue
  | .mapName => writeText "map" changes.mapName
  | .relationFields => writeText "fields" changes.relationFields
  | .relationReferences => writeText "references" changes.relationReferences
  | .name | .type | .isArray | .isOptional => []

/-- A definition with its segments in a given order. -/
def printIn (order : List Attribute) (changes : Changes) : Text :=
  List.intercalate (Text.ofString ";") (writeHead changes :: order.flatMap (writeSegment changes))

/-- The definition of given attributes. -/
def print (changes : Changes) : Text := printIn segmentAttributes changes

end SchemaDesk.Definition
