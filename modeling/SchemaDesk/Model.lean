import SchemaDesk.Draws
import SchemaDesk.Field

/-!
# Models and their edits

A model is a name and a list of fields. Every edit takes a model and returns the next one. Making a
field draws an identifier that no field before it has; the identifier is drawn before the values of
the field are looked at, so that a refused field has used up its draw. Edits that make fields are
therefore written over `Drawing`, in which a refusal keeps the draws made so far.
-/

namespace SchemaDesk

/-- What a new field is made from. -/
inductive Blueprint (ε : Type) where
  /-- The values of the field. -/
  | of (values : Values)
  /-- Values that are refused when the field is made, after its identifier is drawn. -/
  | faulty (reason : ε)
  /-- Values that cannot be handed over at all, so that no identifier is drawn. -/
  | unusable (reason : ε)

/-- A field with a fresh identifier. -/
def Field.make {ε : Type} (taken : List Text) : Blueprint ε → Drawing ε Field
  | .of values => do return Field.ofValues (← Drawing.freshId taken) values
  | .faulty reason => do
    let _ ← Drawing.freshId taken
    throw reason
  | .unusable reason => throw reason

/-- New fields after fields already made, each with an identifier that the fields before it do not
have. The first refusal ends the making. -/
def Field.makeAll {ε : Type} (made : List Field) : List (Blueprint ε) → Drawing ε (List Field)
  | [] => return made
  | blueprint :: rest => do
    let field ← Field.make (made.map (·.id)) blueprint
    Field.makeAll (made ++ [field]) rest

/-- A model: a name and a list of fields. -/
structure Model where
  /-- The name. -/
  name : Text := []
  /-- The fields in order. -/
  fields : List Field := []
deriving DecidableEq, Repr

namespace Model

/-- The values of the field that identifies a record. -/
def idField : Changes :=
  { name := some "id", type := some .int, isId := some true,
    defaultValue := some "autoincrement()" }

/-- The values of the three fields that a model has when no fields are given. -/
def defaultFields : List Changes :=
  [idField,
    { name := some "createdAt", type := some .dateTime, defaultValue := some "now()" },
    { name := some "updatedAt", type := some .dateTime, isUpdatedAt := some true }]

/-- A new field of which some values are given and the others are the defaults. -/
def blueprint {ε : Type} (changes : Changes) : Blueprint ε := .of (changes.applyTo Values.default)

/-- The fields of a model for which none are given. -/
def makeDefaultFields {ε : Type} : Drawing ε (List Field) :=
  Field.makeAll [] (defaultFields.map blueprint)

/-- A model with a name and fields; the fields are made first. Without fields it has the default
ones. -/
def create {ε : Type} (name : Except ε Text) (fields : Option (List (Blueprint ε))) :
    Drawing ε Model := do
  let made ← match fields with
    | none => makeDefaultFields
    | some blueprints => Field.makeAll [] blueprints
  return { name := ← name, fields := made }

/-- A model without a name whose only field identifies a record. -/
def reset {ε : Type} : Drawing ε Model := create (.ok []) (some [blueprint idField])

/-- The identifiers of the fields. -/
def ids (model : Model) : List Text := model.fields.map (·.id)

/-- Whether a field has an identifier. -/
def hasField (model : Model) (id : Text) : Bool := model.fields.any (·.id == id)

/-- The first field with an identifier. -/
def getField? (model : Model) (id : Text) : Option Field := model.fields.find? (·.id == id)

/-- The model with a new field at its end. -/
def addField {ε : Type} (model : Model) (blueprint : Blueprint ε) : Drawing ε Model := do
  let field ← Field.make model.ids blueprint
  return { model with fields := model.fields ++ [field] }

/-- The model without the fields that have an identifier. -/
def removeField (model : Model) (id : Text) : Model :=
  if model.hasField id then { model with fields := model.fields.filter (·.id != id) } else model

/-- The model with changes put over the values of the fields that have an identifier. -/
def mergeField (model : Model) (id : Text) (changes : Changes) : Model :=
  { model with
    fields := model.fields.map fun field =>
      if field.id = id then Field.ofValues field.id (changes.applyTo field.value) else field }

/-- The model with given changes made to the fields that have an identifier. Changes to an
identifier that no field has are not looked at, refused or not. -/
def updateField {ε : Type} (model : Model) (id : Text) (given : Except ε Changes) :
    Except ε Model :=
  if model.hasField id then given.map (model.mergeField id) else .ok model

/-- The model with another name. -/
def rename (model : Model) (name : Text) : Model := { model with name := name }

/-- A field is found under an identifier exactly when the model has one with it. -/
theorem isSome_getField? (model : Model) (id : Text) :
    (model.getField? id).isSome = model.hasField id := by
  simp [getField?, hasField, List.isSome_find?]

/-- No field of a model has an identifier whose fields are removed. -/
theorem hasField_removeField (model : Model) (id : Text) :
    (model.removeField id).hasField id = false := by
  unfold removeField
  split
  · simp [hasField]
  · next absent => simpa using absent

/-- Removing an identifier keeps exactly the fields without it, in order. -/
theorem fields_removeField (model : Model) (id : Text) :
    (model.removeField id).fields = model.fields.filter (·.id != id) := by
  unfold removeField
  split
  · rfl
  · next absent =>
    have all : ∀ field ∈ model.fields, (field.id != id) = true := by
      simpa [hasField] using absent
    exact (List.filter_eq_self.mpr all).symm

/-- Removing fields keeps the name. -/
@[simp]
theorem name_removeField (model : Model) (id : Text) :
    (model.removeField id).name = model.name := by
  unfold removeField
  split <;> rfl

end Model

end SchemaDesk
