import SchemaDesk.Model
import SchemaDesk.Shape.Part

/-!
# The shapes of the domain

The shapes of fields, changes and models, of the requests that carry them and of the replies. A
field has to give its identifier, and every other attribute has a default. Changes may leave out
every attribute, and `null` counts as left out.
-/

namespace SchemaDesk

/-- The name of an attribute as a member. -/
def Attribute.member : Attribute → Member
  | name => .plain "name"
  | type => .plain "type"
  | isArray => ⟨"is_array", "isArray"⟩
  | isOptional => ⟨"is_optional", "isOptional"⟩
  | isId => ⟨"is_id", "isId"⟩
  | isUnique => ⟨"is_unique", "isUnique"⟩
  | isUpdatedAt => ⟨"is_updated_at", "isUpdatedAt"⟩
  | defaultValue => ⟨"default_value", "defaultValue"⟩
  | mapName => ⟨"map_name", "mapName"⟩
  | relationFields => ⟨"relation_fields", "relationFields"⟩
  | relationReferences => ⟨"relation_references", "relationReferences"⟩

/-- The content of an attribute. -/
def Attribute.content (attr : Attribute) : Content attr.Value := .ofKind attr.kind

namespace Shape

/-- The attributes of a field, each with the default of its kind. -/
def values : Part Values :=
  .family fun attr => .withDefault attr.member attr.kind.default attr.content

/-- Fields. -/
def field : Shape Field where
  title := "PrismaField"
  part := (Part.both (.required (.plain "id") .text) values).iso
    (fun pair => Field.ofValues pair.1 pair.2) (fun field => (field.id, field.value))

/-- Changes: attributes that may be left out or `null`. -/
def changesPart : Part Changes :=
  (Part.family fun attr => .withDefault attr.member none attr.content.nullable).iso
    Changes.ofValues? Changes.value?

/-- Changes to a field. -/
def fieldUpdate : Shape Changes := ⟨"FieldUpdate", changesPart⟩

/-- The attributes of a new field. -/
def fieldCreate : Shape Changes := ⟨"FieldCreate", changesPart⟩

/-- Models. -/
def model : Shape Model where
  title := "PrismaModel"
  part := (Part.both (.withDefault (.plain "name") [] .text)
    (.withDefault (.plain "fields") [] field.content.list)).iso
    (fun pair => ⟨pair.1, pair.2⟩) (fun model => (model.name, model.fields))

end Shape

/-- A request for a model: a name and, if they are given, the attributes of its fields. -/
structure ModelCreate where
  /-- The name. -/
  name : Text := []
  /-- The attributes of the fields; the default fields are meant when they are left out. -/
  fields : Option (List Changes) := none
deriving DecidableEq, Repr

/-- A request for another name. -/
structure ModelRename where
  /-- The name. -/
  name : Text
deriving DecidableEq, Repr

/-- A request for the block of a model that no session holds. -/
structure RenderRequest where
  /-- The name. -/
  name : Text := []
  /-- The attributes of the fields. -/
  fields : List Changes := []
deriving DecidableEq, Repr

/-- A reply with the block of a model. -/
structure SchemaText where
  /-- The trimmed name of the model. -/
  name : Text
  /-- The block. -/
  text : Text
deriving DecidableEq, Repr

/-- A reply with a new session. -/
structure SessionModel where
  /-- The identifier of the session. -/
  session : Text
  /-- The model it holds. -/
  model : Model
deriving DecidableEq, Repr

namespace Shape

/-- Requests for a model. -/
def modelCreate : Shape ModelCreate where
  title := "ModelCreate"
  part := (Part.both (.withDefault (.plain "name") [] .text)
    (.withDefault (.plain "fields") none fieldCreate.content.list.nullable)).iso
    (fun pair => ⟨pair.1, pair.2⟩) (fun request => (request.name, request.fields))

/-- Requests for another name. -/
def modelRename : Shape ModelRename where
  title := "ModelRename"
  part := (Part.required (.plain "name") .text).iso ModelRename.mk ModelRename.name

/-- Requests for the block of a model. -/
def renderRequest : Shape RenderRequest where
  title := "RenderRequest"
  part := (Part.both (.withDefault (.plain "name") [] .text)
    (.withDefault (.plain "fields") [] fieldCreate.content.list)).iso
    (fun pair => ⟨pair.1, pair.2⟩) (fun request => (request.name, request.fields))

/-- Replies with a block. -/
def schemaText : Shape SchemaText where
  title := "SchemaResponse"
  part := (Part.both (.required (.plain "name") .text)
    (.required ⟨"schema_text", "schemaText"⟩ .text)).iso
    (fun pair => ⟨pair.1, pair.2⟩) (fun reply => (reply.name, reply.text))

/-- Replies with a session. -/
def session : Shape SessionModel where
  title := "SessionResponse"
  part := (Part.both (.required ⟨"session_id", "sessionId"⟩ .text)
    (.required (.plain "model") model.content)).iso
    (fun pair => ⟨pair.1, pair.2⟩) (fun reply => (reply.session, reply.model))

/-- The members of the attributes that changes give, in one spelling. -/
def writeGiven (spelling : Spelling) (changes : Changes) : Json :=
  .object (Attribute.all.flatMap fun attr =>
    match changes.value? attr with
    | some value => [(attr.member.name spelling, attr.content.write spelling value)]
    | none => [])

end Shape

end SchemaDesk
