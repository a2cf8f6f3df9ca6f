import SchemaDesk.Proofs.Draws.Fresh
import SchemaDesk.Proofs.Model.Attributes
import SchemaDesk.Proofs.Model.Merged
/-!
# Adding, finding and removing fields

A field that is added comes after those of the model, under an identifier that none of them has. So
it is what is found under its identifier, everything else is found as before, and removing its
identifier takes away this field alone, whatever identifiers the others share
(`Model.removeField_concat`). The values of the field are the defaults with those put over them that
the members give (`Attribute.Chosen`). `Edit.addition_undone` puts this together with what lookups
and removals do to any model.
-/

namespace SchemaDesk

/-! ## Fields at the end -/

namespace Model

variable {model : Model} {field : Field}

/-- The model with a field after its own. -/
def concat (model : Model) (field : Field) : Model :=
  { model with fields := model.fields ++ [field] }

/-- A model has a field with an identifier exactly when it is one of its identifiers. -/
theorem hasField_iff {id : Text} : model.hasField id = true ↔ id ∈ model.ids := by
  simp [hasField, ids]

/-- A model has a field with an identifier exactly when it is found. -/
theorem hasField_iff_getField? {id : Text} :
    model.hasField id = true ↔ model.getField? id ≠ none := by
  rw [← isSome_getField?, Option.isSome_iff_ne_none]

/-- A last field whose identifier is new is found under it. -/
theorem getField?_concat_self (new : field.id ∉ model.ids) :
    (model.concat field).getField? field.id = some field := by
  have absent : model.getField? field.id = none := by
    by_contra found
    exact new (hasField_iff.mp (hasField_iff_getField?.mpr found))
  have last : [field].find? (·.id == field.id) = some field :=
    List.find?_cons_of_pos (beq_self_eq_true field.id)
  have parts : (model.concat field).getField? field.id =
      (model.getField? field.id).or ([field].find? (·.id == field.id)) := List.find?_append
  rw [parts, absent, last, Option.none_or]

/-- Under every other identifier the same field is found as before. -/
theorem getField?_concat_of_ne {id : Text} (other : id ≠ field.id) :
    (model.concat field).getField? id = model.getField? id := by
  have last : [field].find? (·.id == id) = none :=
    List.find?_cons_of_neg (by simpa using Ne.symm other)
  have parts : (model.concat field).getField? id =
      (model.getField? id).or ([field].find? (·.id == id)) := List.find?_append
  rw [parts, last, Option.or_none]

/-- A field that is added does not matter to other identifiers. -/
theorem hasField_concat_of_ne {id : Text} (other : id ≠ field.id) :
    (model.concat field).hasField id = model.hasField id := by
  rw [← isSome_getField?, getField?_concat_of_ne other, isSome_getField?]

/-- Removing the identifier of a last field that is new gives the model back. -/
theorem removeField_concat (new : field.id ∉ model.ids) :
    (model.concat field).removeField field.id = model := by
  have others : ∀ old ∈ model.fields, (old.id != field.id) = true := by
    intro old mem
    refine bne_iff_ne.mpr fun same => new ?_
    rw [← same]
    exact List.mem_map_of_mem mem
  have gone : [field].filter (·.id != field.id) = [] := by simp
  have fields : ((model.concat field).removeField field.id).fields = model.fields := by
    rw [fields_removeField, concat, List.filter_append, gone, List.append_nil]
    exact List.filter_eq_self.mpr others
  have name : ((model.concat field).removeField field.id).name = model.name :=
    name_removeField _ _
  calc
    (model.concat field).removeField field.id =
        ⟨((model.concat field).removeField field.id).name,
          ((model.concat field).removeField field.id).fields⟩ := rfl
    _ = model := by rw [name, fields]

end Model

/-! ## The values of a new field -/

namespace Attribute

/-- An attribute of a new field has its default when members give nothing for it, and has the value
that is read from what they give otherwise. -/
structure Chosen (attr : Attribute) (members : Members) (value : attr.Value) : Prop where
  unset : attr.given? members = none → value = attr.kind.default
  read : ∀ json, attr.given? members = some json → attr.content.read .caller json = .valid value

/-- The values of a new field that are read from members are the defaults with those put over them
that the members give. -/
theorem chosen_of_read {members : Members} {values : Values}
    (read : Shape.values.read .caller members = .valid values) (attr : Attribute) :
    attr.Chosen members (values attr) := by
  have own : (Part.withDefault attr.member attr.kind.default attr.content).read .caller members =
      .valid (values attr) := Checked.of_family_eq_valid read attr
  simp only [Part.withDefault] at own
  cases found : attr.member.find? members with
  | none =>
    have absent : attr.given? members = none := by rw [given?_eq, found, Option.map_none]
    rw [found] at own
    refine ⟨fun _ => (Checked.valid.inj own).symm, fun json given => ?_⟩
    rw [absent] at given
    cases given
  | some entry =>
    obtain ⟨key, json⟩ := entry
    have present : attr.given? members = some json := by rw [given?_eq, found, Option.map_some]
    rw [found] at own
    refine ⟨fun absent => ?_, fun other given => ?_⟩
    · rw [present] at absent
      cases absent
    · rw [present] at given
      rw [← Option.some.inj given]
      exact Checked.under_eq_valid own

end Attribute

/-! ## Adding and removing -/

namespace Edit

/-- Removing undoes adding, and lookups agree with edits. An object whose values are those of a
field makes, whatever is drawn, a field after those of the model: its identifier is the first one
drawn that no field of the model has, and its values are the defaults with those of the object put
over them. The field is found under its identifier, everything else is found as before, and when its
identifier is removed the model is as it was. Of every model, an identifier is that of some field
exactly when a field is found under it; removing it leaves the fields with other identifiers, in
order and under the same name of the model, and none with this one. -/
theorem addition_undone :
    (∀ (model : Model) (attributes : Members) (values : Values) (draws : Draws),
      (∀ member ∈ attributes, member.1 ∉ Text.ofString "id" :: reservedForAdding) →
      Shape.values.read .caller attributes = .valid values →
      ∃ added field, (addField model attributes).run.run draws =
          (.ok added, (draws.fresh model.ids).2) ∧
        added.name = model.name ∧ added.fields = model.fields ++ [field] ∧
        field.id = (draws.fresh model.ids).1 ∧ field.id ∉ model.ids ∧
        (∀ attr : Attribute, attr.Chosen attributes (field.value attr)) ∧
        added.getField? field.id = some field ∧ added.hasField field.id = true ∧
        (∀ id, id ≠ field.id →
          added.getField? id = model.getField? id ∧ added.hasField id = model.hasField id) ∧
        added.removeField field.id = model) ∧
    ∀ (model : Model) (id : Text),
      (model.hasField id = true ↔ model.getField? id ≠ none) ∧
      (model.removeField id).hasField id = false ∧
      (model.removeField id).fields = model.fields.filter (·.id ≠ id) ∧
      (model.removeField id).name = model.name := by
  constructor
  · intro model attributes values draws free read
    let field := Field.ofValues (draws.fresh model.ids).1 values
    have new : field.id ∉ model.ids := Draws.fresh_notMem model.ids draws
    have ran : (addField model attributes).run.run draws =
        (.ok (model.concat field), (draws.fresh model.ids).2) := by
      rw [run_addField free, read]
      rfl
    have chosen : ∀ attr : Attribute, attr.Chosen attributes (field.value attr) := by
      intro attr
      rw [Field.value_ofValues]
      exact attr.chosen_of_read read
    have found : (model.concat field).getField? field.id = some field :=
      Model.getField?_concat_self new
    have has : (model.concat field).hasField field.id = true :=
      Model.hasField_iff_getField?.mpr (by rw [found]; exact Option.some_ne_none field)
    exact ⟨model.concat field, field, ran, rfl, rfl, rfl, new, chosen, found, has,
      fun id other => ⟨Model.getField?_concat_of_ne other, Model.hasField_concat_of_ne other⟩,
      Model.removeField_concat new⟩
  · intro model id
    have kept : (model.removeField id).fields = model.fields.filter (·.id ≠ id) := by
      rw [Model.fields_removeField]
      exact List.filter_congr fun field _ => by rw [bne, decide_not, beq_eq_decide]
    exact ⟨Model.hasField_iff_getField?, Model.hasField_removeField model id, kept,
      Model.name_removeField model id⟩

/-- Attributes of a new field in both spellings, with a member that is no attribute. -/
def priceMembers : Members :=
  [("name", .string "price"), ("is_optional", .string "perhaps"), ("isOptional", .string "Yes"),
    ("size", .null), ("type", .string "Decimal")]

/-- A field is added to a model in which two fields share an identifier, after this identifier and
that of the third field are drawn, and is removed again. -/
theorem addition_undone_doubled :
    (∀ member ∈ priceMembers, member.1 ∉ Text.ofString "id" :: reservedForAdding) ∧
    (∃ values, Shape.values.read .caller priceMembers = .valid values) ∧
    ∃ added field, (addField doubledModel priceMembers).run.run ⟨["a", "b", "c"], 0⟩ =
        (.ok added, ⟨[], 3⟩) ∧
      field.id = Text.ofString "c" ∧ added.getField? field.id = some field ∧
      added.getField? "a" = doubledModel.getField? "a" ∧
      added.removeField field.id = doubledModel := by
  have free : ∀ member ∈ priceMembers, member.1 ∉ Text.ofString "id" :: reservedForAdding := by
    decide
  obtain ⟨values, read⟩ : ∃ values, Shape.values.read .caller priceMembers = .valid values :=
    ⟨_, rfl⟩
  obtain ⟨added, field, ran, -, -, id, -, -, found, -, others, removed⟩ :=
    addition_undone.1 doubledModel priceMembers values ⟨["a", "b", "c"], 0⟩ free read
  have drawn : (Draws.mk ["a", "b", "c"] 0).fresh doubledModel.ids =
      (Text.ofString "c", ⟨[], 3⟩) := by decide
  rw [drawn] at ran id
  have other : Text.ofString "a" ≠ field.id := by
    rw [id]
    decide
  exact ⟨free, ⟨values, read⟩, added, field, ran, id, found, (others _ other).1, removed⟩

end Edit

end SchemaDesk
