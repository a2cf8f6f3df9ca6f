import SchemaDesk.Proofs.Model.Merged
/-!
# The algebra of edits

Updates, removals and new names of a model combine by a few laws. Updates to one identifier combine
to one update in which the later value counts, so an update made twice is made once. Edits of
different identifiers can be made in either order, and a new name can be given before or after any
of them. A removal undoes what an update of its identifier did before, and is made once however
often it is asked for. The laws hold of every model, also where an identifier is that of several
fields or of none (`Model.edits_lawful`): an update goes through all fields and changes each on its
own (`Field.changed`), and a removal keeps the others.
-/

namespace SchemaDesk

/-! ## Changes -/

namespace Changes

/-- Changes are equal when they give the same values. -/
theorem ext_value? {left right : Changes} (same : left.value? = right.value?) : left = right := by
  rw [← ofValues?_value? left, ← ofValues?_value? right, same]

/-- Changes after others are put over the values that the others make. -/
theorem applyTo_andThen (earlier later : Changes) (values : Values) :
    (earlier.andThen later).applyTo values = later.applyTo (earlier.applyTo values) := by
  funext attr
  rw [applyTo, andThen, value?_ofValues?, applyTo, applyTo]
  cases later.value? attr with
  | none => rfl
  | some value => rfl

/-- Changes made twice are the changes. -/
theorem andThen_self (changes : Changes) : changes.andThen changes = changes := by
  refine ext_value? ?_
  rw [andThen, value?_ofValues?]
  funext attr
  exact Option.or_self

/-- Changes that give nothing leave all values as they are. -/
theorem applyTo_of_none {changes : Changes} (unset : ∀ attr, changes.value? attr = none)
    (values : Values) : changes.applyTo values = values := by
  funext attr
  rw [applyTo, unset attr, Option.getD_none]

end Changes

/-! ## Fields -/

namespace Field

/-- What changes to an identifier make of a field. -/
def changed (id : Text) (changes : Changes) (field : Field) : Field :=
  if field.id = id then ofValues field.id (changes.applyTo field.value) else field

/-- A field keeps its identifier. -/
@[simp]
theorem id_changed (id : Text) (changes : Changes) (field : Field) :
    (changed id changes field).id = field.id := by
  rw [changed]
  split
  · exact id_ofValues _ _
  · rfl

/-- A field with another identifier stays as it is. -/
theorem changed_of_ne {id : Text} {field : Field} (other : field.id ≠ id) (changes : Changes) :
    changed id changes field = field := if_neg other

/-- Two updates to one identifier make of a field what their combination makes of it. -/
theorem changed_changed (id : Text) (earlier later : Changes) (field : Field) :
    changed id later (changed id earlier field) = changed id (earlier.andThen later) field := by
  by_cases same : field.id = id
  · simp only [changed, same, if_true, id_ofValues, value_ofValues, Changes.applyTo_andThen]
  · rw [changed_of_ne same, changed_of_ne same, changed_of_ne same]

/-- Updates to two identifiers make the same of a field in either order, because at most one of them
changes it. -/
theorem changed_comm {id other : Text} (different : id ≠ other) (changes more : Changes)
    (field : Field) :
    changed other more (changed id changes field) =
      changed id changes (changed other more field) := by
  by_cases same : field.id = id
  · have apart : field.id ≠ other := same ▸ different
    have apartLater : (changed id changes field).id ≠ other := by rwa [id_changed]
    rw [changed_of_ne apart, changed_of_ne apartLater]
  · have apartLater : (changed other more field).id ≠ id := by rwa [id_changed]
    rw [changed_of_ne same, changed_of_ne apartLater]

/-- Changes that give nothing leave a field as it is. -/
theorem changed_of_none {changes : Changes} (unset : ∀ attr, changes.value? attr = none)
    (id : Text) (field : Field) : changed id changes field = field := by
  rw [changed, Changes.applyTo_of_none unset]
  split
  · exact ofValues_value field
  · rfl

end Field

/-! ## Models -/

namespace Model

variable {ε : Type} (model : Model)

/-- An update goes through all fields. -/
theorem mergeField_eq (id : Text) (changes : Changes) :
    model.mergeField id changes = ⟨model.name, model.fields.map (Field.changed id changes)⟩ := rfl

/-- A removal keeps the fields with another identifier. -/
theorem removeField_eq (id : Text) :
    model.removeField id = ⟨model.name, model.fields.filter (·.id != id)⟩ := by
  rw [← fields_removeField, ← name_removeField model id]

/-- An update with changes that are checked is never refused; where no field has the identifier, it
goes through the fields without changing one. -/
theorem updateField_ok (id : Text) (changes : Changes) :
    model.updateField id (.ok changes : Except ε Changes) = .ok (model.mergeField id changes) := by
  rw [updateField]
  split
  · rfl
  · next absent =>
    have others : ∀ field ∈ model.fields, field.id ≠ id := by
      simpa [hasField] using absent
    have kept : model.fields.map (Field.changed id changes) = model.fields :=
      (List.map_congr_left fun field mem => Field.changed_of_ne (others field mem) changes).trans
        (List.map_id model.fields)
    rw [mergeField_eq, kept]

/-- Changes of one field are put together. -/
theorem mergeField_mergeField (id : Text) (earlier later : Changes) :
    (model.mergeField id earlier).mergeField id later =
      model.mergeField id (earlier.andThen later) := by
  simp only [mergeField_eq, List.map_map]
  congr 2
  funext field
  exact Field.changed_changed id earlier later field

/-- Changes of different fields can be made in either order. -/
theorem mergeField_comm {id other : Text} (different : id ≠ other) (changes more : Changes) :
    (model.mergeField id changes).mergeField other more =
      (model.mergeField other more).mergeField id changes := by
  simp only [mergeField_eq, List.map_map]
  congr 2
  funext field
  exact Field.changed_comm different changes more field

/-- Changes that give nothing leave a model as it is. -/
theorem mergeField_of_none {changes : Changes} (unset : ∀ attr, changes.value? attr = none)
    (id : Text) : model.mergeField id changes = model := by
  have same : Field.changed id changes = fun field => field :=
    funext (Field.changed_of_none unset id)
  rw [mergeField_eq, same, List.map_id']

/-- A field is removed once. -/
theorem removeField_removeField (id : Text) :
    (model.removeField id).removeField id = model.removeField id := by
  simp only [removeField_eq, List.filter_filter, Bool.and_self]

/-- Fields can be removed in either order. -/
theorem removeField_comm (id other : Text) :
    (model.removeField id).removeField other = (model.removeField other).removeField id := by
  simp only [removeField_eq, List.filter_filter]
  congr 2
  funext field
  exact Bool.and_comm _ _

/-- A removal looks at identifiers only, which an update leaves as they are. -/
theorem filter_map_changed (fields : List Field) (id other : Text) (changes : Changes) :
    (fields.map (Field.changed id changes)).filter (·.id != other) =
      (fields.filter (·.id != other)).map (Field.changed id changes) := by
  rw [List.filter_map]
  congr 2
  funext field
  exact congrArg (· != other) (Field.id_changed id changes field)

/-- No field is left that the update changed. -/
theorem removeField_mergeField (id : Text) (changes : Changes) :
    (model.mergeField id changes).removeField id = model.removeField id := by
  have kept : ∀ field ∈ model.fields.filter (·.id != id), Field.changed id changes field = field :=
    fun field mem => Field.changed_of_ne (bne_iff_ne.mp (List.mem_filter.mp mem).2) changes
  rw [removeField_eq, mergeField_eq, filter_map_changed, removeField_eq]
  congr 1
  exact (List.map_congr_left kept).trans (List.map_id' _)

/-- A field can be changed before or after one with another identifier, or it, is removed. -/
theorem mergeField_removeField (id other : Text) (changes : Changes) :
    (model.removeField other).mergeField id changes =
      (model.mergeField id changes).removeField other := by
  simp only [removeField_eq, mergeField_eq, filter_map_changed]

/-! ## The laws -/

/-- Members that give no attribute a value, or `null` only, are changes that give nothing. -/
theorem read_of_unset {members : Members}
    (unset : ∀ attr : Attribute, attr.given? members = none ∨ attr.given? members = some .null) :
    Shape.fieldUpdate.read .caller (.object members) = .valid {} := by
  have each : ∀ attr : Attribute,
      (Part.withDefault attr.member none attr.content.nullable).read .caller members =
        .valid none := by
    intro attr
    have given := unset attr
    rw [Attribute.given?_eq] at given
    simp only [Part.withDefault]
    cases found : attr.member.find? members with
    | none => rfl
    | some entry =>
      obtain ⟨key, json⟩ := entry
      rw [found, Option.map_some] at given
      rcases given with absent | null
      · cases absent
      · obtain rfl : json = .null := Option.some.inj null
        rfl
  exact congrArg (Checked.map Changes.ofValues?) (Checked.family_valid each)

/-- An update with changes that were checked before. -/
def update (id : Text) (changes : Changes) (model : Model) : Except EditError Model :=
  model.updateField id (.ok changes)

/-- An update with changes merges them. -/
theorem update_eq (id : Text) (changes : Changes) :
    update id changes model = .ok (model.mergeField id changes) := updateField_ok model id changes

/-- The laws of edits. Two updates to one identifier are one update with the values of the second
before those of the first; an update made again changes nothing, and neither does one that gives
nothing or `null` only. A removal after an update of its identifier is the removal alone, and so is
a removal after the same removal. Updates, and an update and a removal, of different identifiers can
be made in either order, and so can two removals, and a new name with any of them. No update is
refused. -/
theorem edits_lawful (id other name : Text) (changes more : Changes) :
    (∃ updated, update id changes model = .ok updated) ∧
    (update id changes model >>= update id more) = update id (changes.andThen more) model ∧
    (update id changes model >>= update id changes) = update id changes model ∧
    ((∀ attr, changes.value? attr = none) → update id changes model = .ok model) ∧
    (∀ members : Members, (∀ attr : Attribute,
        attr.given? members = none ∨ attr.given? members = some .null) →
      Edit.updateField model id (.object members) = .ok model) ∧
    (update id changes model).map (·.removeField id) = .ok (model.removeField id) ∧
    (model.removeField id).removeField id = model.removeField id ∧
    (id ≠ other →
      (update id changes model >>= update other more) =
        (update other more model >>= update id changes) ∧
      (update id changes model).map (·.removeField other) =
        update id changes (model.removeField other) ∧
      (model.removeField id).removeField other = (model.removeField other).removeField id) ∧
    (update id changes model).map (·.rename name) = update id changes (model.rename name) ∧
    (model.removeField id).rename name = (model.rename name).removeField id := by
  refine ⟨⟨_, update_eq model id changes⟩, ?_, ?_, ?_, ?_, ?_, removeField_removeField model id,
    fun different => ⟨?_, ?_, removeField_comm model id other⟩, ?_, ?_⟩
  · rw [update_eq, update_eq, ← mergeField_mergeField]
    exact update_eq _ id more
  · rw [update_eq]
    refine (update_eq _ id changes).trans ?_
    rw [mergeField_mergeField, Changes.andThen_self]
  · intro unset
    rw [update_eq, mergeField_of_none model unset]
  · intro members unset
    have nothing : ∀ attr, ({} : Changes).value? attr = none := by
      intro attr
      cases attr <;> rfl
    rw [Edit.updateField_object, read_of_unset unset]
    refine (updateField_ok model id {}).trans ?_
    rw [mergeField_of_none model nothing]
  · rw [update_eq, Except.map, removeField_mergeField]
  · rw [update_eq, update_eq]
    refine (update_eq _ other more).trans ((update_eq _ id changes).trans ?_).symm
    rw [mergeField_comm model different]
  · rw [update_eq, update_eq, Except.map, mergeField_removeField]
  · rw [update_eq, update_eq]
    rfl
  · rw [removeField_eq, removeField_eq]
    rfl

/-- The laws of updates of different identifiers, and of changes that give nothing, hold where one
identifier is that of two fields. -/
theorem edits_lawful_doubled :
    (∀ attr, ({} : Changes).value? attr = none) ∧
    update "a" {} Edit.doubledModel = .ok Edit.doubledModel ∧
    (∀ attr : Attribute, attr.given? [("isArray", .null), ("size", .int 3)] = none ∨
      attr.given? [("isArray", .null), ("size", .int 3)] = some .null) ∧
    Edit.updateField Edit.doubledModel "a" (.object [("isArray", .null), ("size", .int 3)]) =
      .ok Edit.doubledModel ∧
    Text.ofString "a" ≠ Text.ofString "b" ∧
    (update "a" { isArray := some true } Edit.doubledModel >>= update "b" { name := some "n" }) =
      (update "b" { name := some "n" } Edit.doubledModel >>=
        update "a" { isArray := some true }) := by
  have nothing : ∀ attr, ({} : Changes).value? attr = none := by
    intro attr
    cases attr <;> rfl
  have unset : ∀ attr : Attribute,
      attr.given? [("isArray", .null), ("size", .int 3)] = none ∨
        attr.given? [("isArray", .null), ("size", .int 3)] = some .null := by
    intro attr
    cases attr <;> first | exact .inl rfl | exact .inr rfl
  have different : Text.ofString "a" ≠ Text.ofString "b" := by decide
  obtain ⟨-, -, -, unchanged, idle, -⟩ :=
    edits_lawful Edit.doubledModel "a" "b" "Post" {} {}
  obtain ⟨-, -, -, -, -, -, -, apart, -⟩ := edits_lawful Edit.doubledModel "a" "b" "Post"
    { isArray := some true } { name := some "n" }
  exact ⟨nothing, unchanged nothing, unset, idle _ unset, different, (apart different).1⟩

end Model

end SchemaDesk
