import SchemaDesk.Definition.Parser
import SchemaDesk.Problem
import SchemaDesk.Shape.Checked

/-!
# Drafts

A draft describes the fields of a model in texts: a definition for every field, which come after the
default fields or stand alone. The block of a draft under a name is found by reading the
definitions, making the model and writing it. What is wrong with a definition counts before what is
wrong with the name, and both count before what is wrong with the model.
-/

namespace SchemaDesk

/-- The fields of a model described in texts. -/
structure Draft where
  /-- The definitions of fields in order. -/
  definitions : List Text := []
  /-- Whether the model starts with the default fields. -/
  defaults : Bool := true
deriving DecidableEq, Repr

/-- Why a draft has no block. -/
inductive DraftError where
  /-- A definition is not understood. -/
  | definition (error : DefinitionError)
  /-- The name of the model has faults. -/
  | name (details : List Detail)
  /-- The model has no block. -/
  | block (error : BlockError)
deriving Repr

/-- The message of an error. -/
def DraftError.message : DraftError → Text
  | definition error => error.message
  | name details => ", ".intercalate (details.map (·.fault.message))
  | block error => error.message

namespace Draft

/-- The model with a name and given fields, after the default fields or alone. -/
def model (draft : Draft) (name : Checked Text) (fields : List Changes) :
    Drawing DraftError Model :=
  let name := name.toExcept.mapError DraftError.name
  if draft.defaults then do
    let start ← Model.create name none
    fields.foldlM (fun model changes => model.addField (Model.blueprint changes)) start
  else Model.create name (some (fields.map Model.blueprint))

/-- The block of a draft under a name. -/
def block (draft : Draft) (name : Checked Text) (draws : Draws) : Except DraftError Text := do
  let fields ← (Definition.parseAll draft.definitions).mapError .definition
  let model ← ((draft.model name fields).run.run draws).1
  (Block.render model).mapError .block

end Draft

end SchemaDesk
