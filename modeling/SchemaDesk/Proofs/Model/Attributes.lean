import SchemaDesk.Model.Edit
import SchemaDesk.Proofs.Shape.Slots
/-!
# Objects of attributes

A new field is made from an object whose members are named as attributes, in one spelling or the
other. None of these names is an identifier or reserved, so nothing is left out of such an object,
and it is refused for its values only, by the same check in every place where a field is made
(`Edit.blueprint_of_names`). What changes give is such an object, and its values are never refused.
-/

namespace SchemaDesk

namespace Edit

/-- Objects whose members are named as attributes, in one spelling or the other. -/
def NamesAttributes (attributes : Members) : Prop :=
  ∀ member ∈ attributes, ∃ attr : Attribute, attr.member.Spells member.1

variable {attributes : Members}

/-- An object has none of some names exactly when no member has one of them. -/
theorem hasAny_eq_false_iff {names : List Text} :
    hasAny names attributes = false ↔ ∀ member ∈ attributes, member.1 ∉ names := by
  simp [hasAny]

/-- No attribute has a name that cannot be handed over. -/
theorem notMem_reserved_of_spells {attr : Attribute} {key : Text}
    (spelled : attr.member.Spells key) : key ∉ Text.ofString "id" :: reservedForAdding := by
  have names : ∀ attr : Attribute,
      Text.ofString attr.member.camel ∉ Text.ofString "id" :: reservedForAdding ∧
      Text.ofString attr.member.snake ∉ Text.ofString "id" :: reservedForAdding := by
    intro attr
    cases attr <;> decide
  rcases spelled with rfl | rfl
  · exact (names attr).1
  · exact (names attr).2

/-- A blueprint of an object without an identifier and reserved names is only refused for its
values. -/
theorem blueprint_of_free
    (free : ∀ member ∈ attributes, member.1 ∉ Text.ofString "id" :: reservedForAdding)
    {reserved : List Text} (fewer : reserved ⊆ reservedForAdding) :
    blueprint reserved attributes =
      match Shape.values.read .caller attributes with
      | .valid values => .of values
      | .invalid details => .faulty (.refused details) := by
  have unreserved : hasAny reserved attributes = false :=
    hasAny_eq_false_iff.mpr fun member mem here =>
      free member mem (List.mem_cons_of_mem _ (fewer here))
  have unnumbered : hasAny ["id"] attributes = false :=
    hasAny_eq_false_iff.mpr fun member mem here =>
      free member mem (List.mem_cons.mpr (.inl (List.mem_singleton.mp here)))
  rw [blueprint, unreserved, unnumbered]
  rfl

/-- Members that are named as attributes bring no identifier and no reserved name. -/
theorem NamesAttributes.free (named : NamesAttributes attributes) :
    ∀ member ∈ attributes, member.1 ∉ Text.ofString "id" :: reservedForAdding := by
  intro member mem
  obtain ⟨attr, spelled⟩ := named member mem
  exact notMem_reserved_of_spells spelled

/-- A blueprint of attributes is refused for their values only. -/
theorem blueprint_of_names (named : NamesAttributes attributes) {reserved : List Text}
    (fewer : reserved ⊆ reservedForAdding) :
    blueprint reserved attributes =
      match Shape.values.read .caller attributes with
      | .valid values => .of values
      | .invalid details => .faulty (.refused details) := blueprint_of_free named.free fewer

/-- What an object without an identifier and reserved names comes to. An identifier is drawn in any
case; then the values of the object are those of a new field at the end, or are refused. -/
theorem run_addField
    (free : ∀ member ∈ attributes, member.1 ∉ Text.ofString "id" :: reservedForAdding)
    (model : Model) (draws : Draws) :
    (addField model attributes).run.run draws =
      (match Shape.values.read .caller attributes with
        | .valid values => .ok { model with
            fields := model.fields ++ [Field.ofValues (draws.fresh model.ids).1 values] }
        | .invalid details => .error (.refused details),
      (draws.fresh model.ids).2) := by
  rw [addField, blueprint_of_free free (List.Subset.refl _)]
  cases Shape.values.read .caller attributes with
  | valid values => rfl
  | invalid details => rfl

/-- Attributes have no identifier that could be left out. -/
theorem withoutId_of_names (named : NamesAttributes attributes) :
    withoutId attributes = attributes := by
  refine List.filter_eq_self.mpr fun member mem => bne_iff_ne.mpr fun same => ?_
  exact named.free member mem (List.mem_cons.mpr (.inl same))

/-- Attributes are the same blueprint in the list of a new model and for a model there is. -/
theorem blueprint_withoutId (named : NamesAttributes attributes) :
    blueprint reservedForField (withoutId attributes) = blueprint reservedForAdding attributes := by
  rw [withoutId_of_names named, blueprint_of_names named (List.subset_cons_self _ _),
    blueprint_of_names named (List.Subset.refl _)]

end Edit

namespace Shape

variable (spelling : Spelling) (changes : Changes)

/-- The members of changes are named as attributes. -/
theorem namesAttributes_given :
    Edit.NamesAttributes (Member.spelled spelling (givenEntries spelling changes)) := by
  intro member mem
  obtain ⟨entry, entryMem, rfl⟩ := List.mem_map.mp mem
  obtain ⟨attr, value, -, rfl⟩ := mem_givenEntries_iff.mp entryMem
  refine ⟨attr, ?_⟩
  cases spelling with
  | snake => exact .inr rfl
  | camel => exact .inl rfl

/-- The attributes that changes give are read as the values of a new field, with the defaults of the
others. -/
theorem read_values_given (origin : Origin) :
    values.read origin (Member.spelled spelling (givenEntries spelling changes)) =
      .valid (changes.applyTo Values.default) := by
  refine Checked.family_valid fun attr => ?_
  have found := find?_givenEntries spelling changes attr
  cases given : changes.value? attr with
  | none =>
    rw [given] at found
    simp only [Part.withDefault, found, Option.map_none, Changes.applyTo, given]
    rfl
  | some value =>
    rw [given] at found
    rw [Changes.applyTo, given]
    exact Part.read_withDefault found (Content.faithful_attribute attr origin spelling value)

end Shape

end SchemaDesk
