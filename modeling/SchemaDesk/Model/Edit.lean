import SchemaDesk.Shape.Domain

/-!
# Edits with loosely typed attributes

Edits as they are asked for from outside: attributes and names are JSON values that are checked
here. An object with the attributes of a new field may not have members that the making of a field
uses itself. Changes to a field may also be given as a list of pairs of a key and a value.
`Edit.apply` makes an edit on a model, and a history keeps every model an edit has led to, so that
an edit can start from any of them.
-/

namespace SchemaDesk

/-- Why an edit is not made. -/
inductive EditError where
  /-- A value has faults. -/
  | refused (details : List Detail)
  /-- What is handed over cannot be taken at all: attributes with a reserved name, or changes that
  give no members. -/
  | unusable
  /-- Changes are given as a list of members, and one of them is no pair. -/
  | unpaired
deriving Repr

namespace EditError

/-- A checked value, or the refusal of its faults. -/
def ofChecked {α : Type} (outcome : Checked α) : Except EditError α :=
  outcome.toExcept.mapError refused

end EditError

namespace Edit

/-- Whether an object has a member with one of some names. -/
def hasAny (names : List Text) (attributes : Members) : Bool :=
  attributes.any fun member => names.contains member.1

/-- A new field from an object of attributes, where some names cannot be handed over. The identifier
of a field is drawn and not given. -/
def blueprint (reserved : List Text) (attributes : Members) : Blueprint EditError :=
  if hasAny reserved attributes then .unusable .unusable
  else if hasAny ["id"] attributes then .faulty .unusable
  else match Shape.values.read .caller attributes with
    | .valid values => .of values
    | .invalid details => .faulty (.refused details)

/-- The names that cannot be handed over to a new field. -/
def reservedForField : List Text := ["cls", "taken"]

/-- The names that cannot be handed over to a field added to a model. -/
def reservedForAdding : List Text := "model" :: reservedForField

/-- An object of attributes without an identifier. -/
def withoutId (attributes : Members) : Members := attributes.filter fun member => member.1 != "id"

/-- A new field with attributes from an object. -/
def newField (taken : List Text) (attributes : Members) : Drawing EditError Field :=
  Field.make taken (blueprint reservedForField attributes)

/-- A model with a name and fields with attributes from objects, whose identifiers do not count. -/
def createModel (name : Json) (fields : Option (List Members)) : Drawing EditError Model :=
  Model.create ((EditError.ofChecked (Content.text.read .caller name)).mapError (under "name"))
    (fields.map fun objects => objects.map fun attributes =>
      blueprint reservedForField (withoutId attributes))
where
  under (key : Text) : EditError → EditError
    | .refused details => .refused (details.map (Detail.under (.key key)))
    | error => error

/-- A model with a field added that has attributes from an object. -/
def addField (model : Model) (attributes : Members) : Drawing EditError Model :=
  model.addField (blueprint reservedForAdding attributes)

/-- The values that a value is made of one after another: the items of an array, the keys of an
object, the code points of a text. -/
def partsOf? : Json → Option (List Json)
  | .array items => some items
  | .object members => some (members.map fun member => .string member.1)
  | .string text => some (text.map fun point => .string [point])
  | _ => none

/-- The member that a pair of a key and a value gives; none when the key is no text. -/
def memberOf (pair : Json) : Except EditError (Option (Text × Json)) :=
  match partsOf? pair with
  | none | some [.array _, _] | some [.object _, _] => .error .unusable
  | some [.string key, value] => .ok (some (key, value))
  | some [_, _] => .ok none
  | some _ => .error .unpaired

/-- The members that a value gives: those of an object, or those of a list of pairs, of which the
later of two with one key counts. -/
def membersOf : Json → Except EditError Members
  | .object members => .ok members
  | value =>
    match partsOf? value with
    | none => .error .unusable
    | some pairs => do
      let given ← pairs.mapM memberOf
      return given.foldl (fun members member =>
        match member with
        | some (key, value) => Json.put key value members
        | none => members) []

/-- A model with changes from a JSON value made to the fields that have an identifier. The value is
only looked at when there is such a field. -/
def updateField (model : Model) (id : Text) (changes : Json) : Except EditError Model :=
  model.updateField id do
    EditError.ofChecked (Shape.fieldUpdate.read .caller (.object (← membersOf changes)))

end Edit

/-- An edit of a model. -/
inductive Edit where
  /-- Takes a model that is given. -/
  | load (model : Json)
  /-- Creates a model. -/
  | create (name : Json) (fields : Option (List Members))
  /-- Starts over. -/
  | reset
  /-- Adds a field. -/
  | add (attributes : Members)
  /-- Removes the fields with an identifier. -/
  | remove (id : Text)
  /-- Changes the fields with an identifier. -/
  | update (id : Text) (changes : Json)
  /-- Changes the fields with an identifier; the changes are checked first. -/
  | updateChecked (id : Text) (changes : Json)
  /-- Gives another name. -/
  | rename (name : Text)

namespace Edit

/-- The model that an edit makes of a model. -/
def apply (edit : Edit) (model : Model) : Drawing EditError Model :=
  match edit with
  | load given => ExceptT.mk (pure (EditError.ofChecked (Shape.model.read .caller given)))
  | create name fields => createModel name fields
  | reset => Model.reset
  | add attributes => addField model attributes
  | remove id => return model.removeField id
  | update id changes => ExceptT.mk (pure (updateField model id changes))
  | updateChecked id changes => ExceptT.mk (pure
      ((EditError.ofChecked (Shape.fieldUpdate.read .caller changes)).bind fun checked =>
        model.updateField id (.ok checked)))
  | rename name => return model.rename name

end Edit

/-- The models that edits have led to, the oldest first, beginning with an empty model. -/
structure History where
  /-- The models. -/
  models : List Model := [{}]

namespace History

/-- The model that an edit starts from: a chosen one, or the latest. -/
def base (history : History) (chosen : Option Nat) : Model :=
  (chosen.bind (history.models[·]?)).getD (history.models.getLastD {})

/-- The history after an edit, with the model made and whether it differs from the one the edit
started from. A refused edit leads to no model. -/
def edit (history : History) (chosen : Option Nat) (edit : Edit) :
    Drawing EditError (History × Model × Bool) := do
  let base := history.base chosen
  let made ← edit.apply base
  return ({ models := history.models ++ [made] }, made, made != base)

end History

end SchemaDesk
