import SchemaDesk.Model.Edit
import SchemaDesk.Proofs.Draws.Fresh
/-!
# Fields with distinct identifiers

The fields of a model are told apart by their identifiers. A field that is made has an identifier
that no field before it has, whatever is drawn; changing a field keeps its identifier, and removing
fields brings none. So every edit of a model whose fields have distinct identifiers gives such a
model again (`Edit.gives_distinct`), and so does every edit that starts from nothing.
-/

namespace SchemaDesk

namespace Field

variable {ε : Type}

/-- A field that is made has an identifier that is not taken. -/
theorem gives_make (taken : List Text) (blueprint : Blueprint ε) :
    (make taken blueprint).Gives (·.id ∉ taken) := by
  have drawn : (Drawing.freshId taken : Drawing ε Text).Gives (· ∉ taken) :=
    Drawing.gives_freshId taken
  cases blueprint with
  | of values => exact drawn.bind fun id new => Drawing.gives_pure new
  | faulty reason => exact drawn.bind fun _ _ => Drawing.gives_throw reason _
  | unusable reason => exact Drawing.gives_throw reason _

/-- Fields with a field at their end have distinct identifiers when the last one is new. -/
theorem nodup_concat {fields : List Field} {last : Field} (distinct : (fields.map (·.id)).Nodup)
    (new : last.id ∉ fields.map (·.id)) : ((fields ++ [last]).map (·.id)).Nodup := by
  rw [List.map_append, List.map_singleton]
  exact List.nodup_append.mpr ⟨distinct, List.nodup_singleton _, fun id mem other here => by
    obtain rfl := List.mem_singleton.mp here
    exact fun same => new (same ▸ mem)⟩

/-- Fields that are made after fields with distinct identifiers have distinct ones together with
them. -/
theorem gives_makeAll {made : List Field} (distinct : (made.map (·.id)).Nodup)
    (blueprints : List (Blueprint ε)) :
    (makeAll made blueprints).Gives fun fields => (fields.map (·.id)).Nodup := by
  induction blueprints generalizing made with
  | nil => exact Drawing.gives_pure distinct
  | cons blueprint rest ih =>
    rw [makeAll]
    refine Drawing.Gives.bind (gives_make _ blueprint) fun field new => ?_
    exact ih (nodup_concat distinct new)

end Field

namespace Model

variable {ε : Type} {model : Model}

/-- A model whose fields have distinct identifiers. -/
def Distinct (model : Model) : Prop := model.ids.Nodup

/-- A model that is created from nothing has distinct identifiers, whichever fields it is given. -/
theorem gives_create (name : Except ε Text) (fields : Option (List (Blueprint ε))) :
    (create name fields).Gives Distinct := by
  have named : ∀ made : List Field, (made.map (·.id)).Nodup →
      (do return { name := ← name, fields := made } : Drawing ε Model).Gives Distinct := by
    intro made distinct
    cases name with
    | ok name => exact Drawing.gives_pure distinct
    | error reason => exact Drawing.gives_throw reason _
  have empty : (([] : List Field).map (·.id)).Nodup := List.nodup_nil
  cases fields with
  | none => exact Drawing.Gives.bind (Field.gives_makeAll empty _) named
  | some blueprints => exact Drawing.Gives.bind (Field.gives_makeAll empty blueprints) named

/-- A model that is started over has distinct identifiers. -/
theorem gives_reset : (reset : Drawing ε Model).Gives Distinct := gives_create _ _

/-- Adding a field keeps the identifiers distinct. -/
theorem gives_addField (distinct : model.Distinct) (blueprint : Blueprint ε) :
    (model.addField blueprint).Gives Distinct :=
  (Field.gives_make model.ids blueprint).bind fun _ new =>
    Drawing.gives_pure (Field.nodup_concat distinct new)

/-- Removing fields keeps the identifiers distinct. -/
theorem distinct_removeField (distinct : model.Distinct) (id : Text) :
    (model.removeField id).Distinct := by
  rw [Distinct, ids, fields_removeField]
  exact distinct.sublist (List.filter_sublist.map _)

/-- Changes to fields leave the identifiers as they are, whatever is changed. -/
theorem ids_mergeField (model : Model) (id : Text) (changes : Changes) :
    (model.mergeField id changes).ids = model.ids := by
  rw [ids, mergeField, List.map_map, ids]
  refine List.map_congr_left fun field _ => ?_
  rw [Function.comp_apply]
  split
  · rw [Field.id_ofValues]
  · rfl

/-- Changing fields keeps the identifiers distinct. -/
theorem distinct_updateField (distinct : model.Distinct) {id : Text} {given : Except ε Changes}
    {updated : Model} (outcome : model.updateField id given = .ok updated) : updated.Distinct := by
  rw [updateField] at outcome
  split at outcome
  · cases given with
    | ok changes =>
      obtain rfl := Except.ok.inj outcome
      rw [Distinct, ids_mergeField]
      exact distinct
    | error reason => cases outcome
  · exact Except.ok.inj outcome ▸ distinct

end Model

namespace Edit

/-- Whether an edit is made to a model; the others start from nothing. -/
def takesModel : Edit → Bool
  | add _ | remove _ | update _ _ | updateChecked _ _ | rename _ => true
  | load _ | create _ _ | reset => false

/-- An edit gives a model with distinct identifiers, if the model it is made to has them. Only a
model that is loaded has the identifiers that it comes with. -/
theorem gives_distinct (edit : Edit) (own : ∀ given, edit ≠ load given) (model : Model)
    (distinct : edit.takesModel = true → model.Distinct) :
    (edit.apply model).Gives Model.Distinct := by
  cases edit with
  | load given => exact absurd rfl (own given)
  | create name fields => exact Model.gives_create _ _
  | reset => exact Model.gives_reset
  | add attributes => exact Model.gives_addField (distinct rfl) _
  | remove id => exact Drawing.gives_pure (Model.distinct_removeField (distinct rfl) id)
  | update id changes =>
    exact Drawing.gives_mk fun updated => Model.distinct_updateField (distinct rfl)
  | updateChecked id changes =>
    refine Drawing.gives_mk fun updated outcome => ?_
    cases checked : EditError.ofChecked (Shape.fieldUpdate.read .caller changes) with
    | ok valid =>
      rw [checked] at outcome
      exact Model.distinct_updateField (distinct rfl) outcome
    | error reason =>
      rw [checked] at outcome
      cases outcome
  | rename name => exact Drawing.gives_pure (distinct rfl)

end Edit

end SchemaDesk
