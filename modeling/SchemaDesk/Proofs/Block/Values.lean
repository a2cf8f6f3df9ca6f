import SchemaDesk.Block
import SchemaDesk.Model
import SchemaDesk.Proofs.Draws.Fresh
/-!
# Blocks show values only

The block of a model is made of its name and of the attribute values of its fields; no identifier is
in it (`Block.render_eq_of_values`). A model that is made anew of the values of another one is never
refused, whatever is drawn, and has the same block.
-/

namespace SchemaDesk

/-! ## Making fields of values -/

/-- Changes that give every value leave none of the values they are put over. -/
theorem Changes.applyTo_ofValues (values others : Values) :
    (Changes.ofValues values).applyTo others = values := by
  funext attr
  rw [applyTo, ofValues, value?_ofValues?]
  rfl

namespace Field

/-- Fields that are made of values have these values. -/
theorem run_makeAll_of (ε : Type) (made : List Field) (values : List Values) (draws : Draws) :
    ∃ fields after, (makeAll made (values.map .of) : Drawing ε (List Field)).run.run draws =
        (.ok (made ++ fields), after) ∧ fields.map (·.value) = values := by
  induction values generalizing made draws with
  | nil => exact ⟨[], draws, by rw [List.append_nil]; rfl, rfl⟩
  | cons first rest ih =>
    let drawn := draws.fresh (made.map (·.id))
    let field := ofValues drawn.1 first
    have one : (make (made.map (·.id)) (.of first) : Drawing ε Field).run.run draws =
        (.ok field, drawn.2) := rfl
    obtain ⟨fields, after, ran, same⟩ := ih (made ++ [field]) drawn.2
    refine ⟨field :: fields, after, ?_, ?_⟩
    · rw [List.map_cons, makeAll, Drawing.run_bind, one]
      rw [List.append_assoc] at ran
      exact ran
    · rw [List.map_cons, same, value_ofValues]

end Field

/-- Fields that are added one after another are made after the fields of the model. -/
theorem Model.foldlM_addField {ε : Type} (blueprints : List (Blueprint ε)) (model : Model) :
    blueprints.foldlM addField model =
      (Field.makeAll model.fields blueprints >>= fun fields =>
        pure { model with fields := fields } : Drawing ε Model) := by
  induction blueprints generalizing model with
  | nil => rfl
  | cons blueprint rest ih =>
    have added : model.addField blueprint = (Field.make model.ids blueprint >>= fun field =>
        pure { model with fields := model.fields ++ [field] } : Drawing ε Model) := rfl
    have made : Field.makeAll model.fields (blueprint :: rest) =
        (Field.make model.ids blueprint >>= fun field =>
          Field.makeAll (model.fields ++ [field]) rest) := rfl
    rw [List.foldlM_cons, added, made, bind_assoc, bind_assoc]
    refine bind_congr fun field => ?_
    rw [pure_bind, ih]

/-- A model that is created of values has these values, whatever is drawn. -/
theorem Model.run_create_of (ε : Type) (name : Text) (values : List Values) (draws : Draws) :
    ∃ made after, (create (.ok name) (some (values.map .of)) : Drawing ε Model).run.run draws =
        (.ok made, after) ∧ made.name = name ∧ made.fields.map (·.value) = values := by
  obtain ⟨fields, after, ran, same⟩ := Field.run_makeAll_of ε [] values draws
  refine ⟨⟨name, fields⟩, after, ?_, rfl, same⟩
  rw [create, Drawing.run_bind, ran]
  rfl

namespace Block

/-- The line of a field depends on its values only. -/
theorem line_ofValues (id : Text) (field : Field) : line (.ofValues id field.value) = line field :=
  rfl

/-- The values of the named fields are those with a name that is not blank. -/
theorem map_value_namedFields (model : Model) :
    (namedFields model).map (·.value) =
      (model.fields.map (·.value)).filter fun values => !(values .name).isBlank := by
  rw [List.filter_map]
  rfl

/-- The body of a block is made from the values of its fields. -/
theorem body_eq (fields : List Field) :
    body fields = (fields.map (·.value)).flatMap
      (fun values => line (.ofValues [] values) ++ [.char '\n']) ++ [.char '\x7d'] := by
  rw [body, List.flatMap_map]
  simp only [line_ofValues]

/-- Two models with the same name and the same values have the same block, or are refused for the
same reason. -/
theorem render_eq_of_values {left right : Model} (name : left.name = right.name)
    (values : left.fields.map (·.value) = right.fields.map (·.value)) :
    render left = render right := by
  have named : (namedFields left).map (·.value) = (namedFields right).map (·.value) := by
    rw [map_value_namedFields, map_value_namedFields, values]
  have unnamed : namedFields left = [] ↔ namedFields right = [] := by
    rw [← List.map_eq_nil_iff, named, List.map_eq_nil_iff]
  simp only [render, name, body_eq, named, unnamed]

end Block

end SchemaDesk
