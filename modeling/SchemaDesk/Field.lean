import SchemaDesk.ScalarType

/-!
# Fields of a model

A field has an identifier and eleven attributes. Each attribute is a text, a flag or a scalar type,
and has a default of its kind. `Field.value` and `Field.ofValues` pass between a field and the
family of its attribute values, so that what holds for every attribute is said once. `Changes` gives
some of the attributes; `Changes.applyTo` puts them over a family of values.
-/

namespace SchemaDesk

/-- What an attribute holds. -/
inductive Attribute.Kind where
  /-- A text. -/
  | text
  /-- A flag. -/
  | flag
  /-- A scalar type. -/
  | scalar
deriving DecidableEq, Repr

/-- The values of a kind of attribute. -/
@[reducible] def Attribute.Kind.Value : Attribute.Kind → Type
  | text => Text
  | flag => Bool
  | scalar => ScalarType

/-- The value of an attribute that is not given: the empty text, a flag that is off, the type of
texts. -/
def Attribute.Kind.default : (kind : Attribute.Kind) → kind.Value
  | text => []
  | flag => false
  | scalar => .string

/-- An attribute of a field. -/
inductive Attribute where
  /-- The name of the field. -/
  | name
  /-- Its scalar type. -/
  | type
  /-- Whether it holds a list. -/
  | isArray
  /-- Whether it may be left out. -/
  | isOptional
  /-- Whether it identifies a record. -/
  | isId
  /-- Whether its values are unique. -/
  | isUnique
  /-- Whether it holds the time of the last update. -/
  | isUpdatedAt
  /-- Its default value, as it is written in a schema. -/
  | defaultValue
  /-- Its name in the database. -/
  | mapName
  /-- The fields of a relation, as a comma list. -/
  | relationFields
  /-- The fields that a relation refers to, as a comma list. -/
  | relationReferences
deriving DecidableEq, Repr

namespace Attribute

/-- All attributes, in the order they are checked and written in. -/
def all : List Attribute :=
  [name, type, isArray, isOptional, isId, isUnique, isUpdatedAt, defaultValue, mapName,
    relationFields, relationReferences]

/-- The kind of an attribute. -/
@[reducible] def kind : Attribute → Kind
  | name | defaultValue | mapName | relationFields | relationReferences => .text
  | type => .scalar
  | isArray | isOptional | isId | isUnique | isUpdatedAt => .flag

/-- The values of an attribute. -/
abbrev Value (attr : Attribute) : Type := attr.kind.Value

/-- Every attribute is listed. -/
theorem mem_all (attr : Attribute) : attr ∈ all := by cases attr <;> decide

end Attribute

/-- A value for every attribute. -/
abbrev Values : Type := (attr : Attribute) → attr.Value

/-- The values of a field of which nothing is given. -/
def Values.default : Values := fun attr => attr.kind.default

/-- A field of a model. -/
structure Field where
  /-- The identifier, which no schema shows. -/
  id : Text
  /-- The name. -/
  name : Text := []
  /-- The scalar type. -/
  type : ScalarType := .string
  /-- Whether the field holds a list. -/
  isArray : Bool := false
  /-- Whether the field may be left out. -/
  isOptional : Bool := false
  /-- Whether the field identifies a record. -/
  isId : Bool := false
  /-- Whether the values of the field are unique. -/
  isUnique : Bool := false
  /-- Whether the field holds the time of the last update. -/
  isUpdatedAt : Bool := false
  /-- The default value, as it is written in a schema; empty for none. -/
  defaultValue : Text := []
  /-- The name in the database; empty for none. -/
  mapName : Text := []
  /-- The fields of a relation, as a comma list; empty for none. -/
  relationFields : Text := []
  /-- The fields that a relation refers to, as a comma list; empty for none. -/
  relationReferences : Text := []
deriving DecidableEq, Repr

namespace Field

/-- The value of an attribute of a field. -/
def value (field : Field) : Values
  | .name => field.name
  | .type => field.type
  | .isArray => field.isArray
  | .isOptional => field.isOptional
  | .isId => field.isId
  | .isUnique => field.isUnique
  | .isUpdatedAt => field.isUpdatedAt
  | .defaultValue => field.defaultValue
  | .mapName => field.mapName
  | .relationFields => field.relationFields
  | .relationReferences => field.relationReferences

/-- The field with an identifier and given attribute values. -/
def ofValues (id : Text) (values : Values) : Field where
  id := id
  name := values .name
  type := values .type
  isArray := values .isArray
  isOptional := values .isOptional
  isId := values .isId
  isUnique := values .isUnique
  isUpdatedAt := values .isUpdatedAt
  defaultValue := values .defaultValue
  mapName := values .mapName
  relationFields := values .relationFields
  relationReferences := values .relationReferences

/-- A field that is made has the identifier it is given. -/
@[simp]
theorem id_ofValues (id : Text) (values : Values) : (ofValues id values).id = id := rfl

/-- A field has the values it is made of. -/
@[simp]
theorem value_ofValues (id : Text) (values : Values) : (ofValues id values).value = values := by
  funext attr
  cases attr <;> rfl

/-- A field is made of its values. -/
@[simp]
theorem ofValues_value (field : Field) : ofValues field.id field.value = field := rfl

/-- Two fields with one identifier and the same values are equal. -/
theorem ext_value {left right : Field} (id : left.id = right.id)
    (value : left.value = right.value) : left = right := by
  rw [← ofValues_value left, ← ofValues_value right, id, value]

end Field

/-- Values for some of the attributes. -/
structure Changes where
  /-- The name. -/
  name : Option Text := none
  /-- The scalar type. -/
  type : Option ScalarType := none
  /-- Whether the field holds a list. -/
  isArray : Option Bool := none
  /-- Whether the field may be left out. -/
  isOptional : Option Bool := none
  /-- Whether the field identifies a record. -/
  isId : Option Bool := none
  /-- Whether the values of the field are unique. -/
  isUnique : Option Bool := none
  /-- Whether the field holds the time of the last update. -/
  isUpdatedAt : Option Bool := none
  /-- The default value. -/
  defaultValue : Option Text := none
  /-- The name in the database. -/
  mapName : Option Text := none
  /-- The fields of a relation. -/
  relationFields : Option Text := none
  /-- The fields that a relation refers to. -/
  relationReferences : Option Text := none
deriving DecidableEq, Repr

namespace Changes

/-- The value given for an attribute, if one is given. -/
def value? (changes : Changes) : (attr : Attribute) → Option attr.Value
  | .name => changes.name
  | .type => changes.type
  | .isArray => changes.isArray
  | .isOptional => changes.isOptional
  | .isId => changes.isId
  | .isUnique => changes.isUnique
  | .isUpdatedAt => changes.isUpdatedAt
  | .defaultValue => changes.defaultValue
  | .mapName => changes.mapName
  | .relationFields => changes.relationFields
  | .relationReferences => changes.relationReferences

/-- The changes with the given values. -/
def ofValues? (values : (attr : Attribute) → Option attr.Value) : Changes where
  name := values .name
  type := values .type
  isArray := values .isArray
  isOptional := values .isOptional
  isId := values .isId
  isUnique := values .isUnique
  isUpdatedAt := values .isUpdatedAt
  defaultValue := values .defaultValue
  mapName := values .mapName
  relationFields := values .relationFields
  relationReferences := values .relationReferences

/-- Changes give the values they are made of. -/
@[simp]
theorem value?_ofValues? (values : (attr : Attribute) → Option attr.Value) :
    (ofValues? values).value? = values := by
  funext attr
  cases attr <;> rfl

/-- Changes are made of the values they give. -/
@[simp]
theorem ofValues?_value? (changes : Changes) : ofValues? changes.value? = changes := rfl

/-- The changes with the value of one attribute given anew. -/
def set (changes : Changes) (attr : Attribute) (value : attr.Value) : Changes :=
  ofValues? fun other =>
    if same : attr = other then some (same ▸ value) else changes.value? other

/-- The values that changes give, and the values of a family where they give none. -/
def applyTo (changes : Changes) (values : Values) : Values :=
  fun attr => (changes.value? attr).getD (values attr)

/-- The changes that give the later value where there is one, and else the earlier. -/
def andThen (earlier later : Changes) : Changes :=
  ofValues? fun attr => (later.value? attr).or (earlier.value? attr)

/-- The changes that give every value of a family. -/
def ofValues (values : Values) : Changes := ofValues? fun attr => some (values attr)

end Changes

end SchemaDesk
