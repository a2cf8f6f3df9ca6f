import SchemaDesk.Model
import SchemaDesk.Text.CommaList

/-!
# Schema blocks

A model is written as a block: a line with its name, one line for every field with a name that is
not blank, and a closing brace. A field line holds the name, the type and the attribute tokens in a
fixed order. Texts are written as they are, without escapes. A model without a name, and a model
without a named field, have no block.
-/

namespace SchemaDesk

/-- Why a model has no block. -/
inductive BlockError where
  /-- The name of the model is blank. -/
  | missingModelName
  /-- No field has a name that is not blank. -/
  | noNamedField
deriving DecidableEq, Repr

namespace Block

/-- The identifier token. Only an integer identifier keeps its default. -/
def idTokens (field : Field) : List Text :=
  if field.isId then
    "@id" ::
      (if field.defaultValue ≠ [] ∧ field.type = .int then
        ["@default(" ++ field.defaultValue ++ ")"]
      else [])
  else []

/-- The default of a field that is no identifier. The default of a text is quoted. -/
def defaultTokens (field : Field) : List Text :=
  if field.isId ∨ field.defaultValue = [] then []
  else if field.type = .string then ["@default(\"" ++ field.defaultValue ++ "\")"]
  else ["@default(" ++ field.defaultValue ++ ")"]

/-- The token of unique values. -/
def uniqueTokens (field : Field) : List Text := if field.isUnique then ["@unique"] else []

/-- The token of the time of the last update. -/
def updatedAtTokens (field : Field) : List Text :=
  if field.isUpdatedAt then ["@updatedAt"] else []

/-- The token of the name in the database. -/
def mapTokens (field : Field) : List Text :=
  if field.mapName = [] then [] else ["@map(\"" ++ field.mapName ++ "\")"]

/-- A comma list written anew between square brackets. -/
def bracketed (list : Text) : Text :=
  "[" ++ Text.CommaList.joined (Text.CommaList.tokens list) ++ "]"

/-- The token of a relation, for which both comma lists have to be given. -/
def relationTokens (field : Field) : List Text :=
  if field.relationFields = [] ∨ field.relationReferences = [] then []
  else
    ["@relation(fields: " ++ bracketed field.relationFields ++ ", references: " ++
      bracketed field.relationReferences ++ ")"]

/-- The tokens of a field in the order they are written in. -/
def tokens (field : Field) : List Text :=
  idTokens field ++ defaultTokens field ++ uniqueTokens field ++ updatedAtTokens field ++
    mapTokens field ++ relationTokens field

/-- The type of a field with its marks for lists and for values that may be left out. -/
def typeText (field : Field) : Text :=
  Text.ofString field.type.name ++ (if field.isArray then Text.ofString "[]" else []) ++
    (if field.isOptional then Text.ofString "?" else [])

/-- The line of a field, without the line end. -/
def line (field : Field) : Text :=
  "  " ++ field.name ++ " " ++ typeText field ++ (tokens field).flatMap (.char ' ' :: ·)

/-- The fields of a model that have a line: those with a name that is not blank. -/
def namedFields (model : Model) : List Field := model.fields.filter fun field => !field.name.isBlank

/-- The first line of a block, with its line end. -/
def header (name : Text) : Text := "model " ++ name.trim ++ " \x7b\n"

/-- The lines of fields, and the closing brace. -/
def body (fields : List Field) : Text :=
  fields.flatMap (fun field => line field ++ [.char '\n']) ++ [.char '\x7d']

/-- The block of a model. The name is looked at before the fields. -/
def render (model : Model) : Except BlockError Text :=
  if model.name.isBlank then .error .missingModelName
  else if namedFields model = [] then .error .noNamedField
  else .ok (header model.name ++ body (namedFields model))

end Block

end SchemaDesk
