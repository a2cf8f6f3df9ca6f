import Mathlib.Logic.Function.Basic
import SchemaDesk.Model.Edit
import SchemaDesk.Proofs.Shape.Faithful
/-!
# Changes put over fields

A field is changed by its members: what changes give is put over what is written of the field, and
the object that comes out is checked as a field again. Members put over the written ones are those
of the changed field (`Shape.putAll_given`), so the second check cannot fail and gives the field
whose values are the given ones and else the old ones (`Edit.updateMembers_eq`). Together with what
is read from members this says what becomes of every field of a model, and that the check of the
members is the only one that an update can fail (`Edit.updateField_merges`).
-/

namespace SchemaDesk

/-! ## Members put over members -/

namespace Json

/-- Members with others put over them one after another. -/
def putAll (members others : Members) : Members :=
  others.foldl (fun members member => put member.1 member.2 members) members

/-- Where no key stands twice, a value put under one of the keys replaces what stands there. -/
theorem put_eq_map {key : Text} {value : Json} {members : Members}
    (distinct : (members.map Prod.fst).Nodup) (mem : key ∈ members.map Prod.fst) :
    put key value members =
      members.map fun member => if member.1 = key then (key, value) else member := by
  induction members with
  | nil => cases mem
  | cons member rest ih =>
    rw [List.map_cons, List.nodup_cons] at distinct
    by_cases here : member.1 = key
    · have others : ∀ other ∈ rest, other.1 ≠ key := by
        intro other otherMem same
        refine distinct.1 (List.mem_map.mpr ⟨other, otherMem, ?_⟩)
        rw [same, here]
      have kept : rest.map (fun member => if member.1 = key then (key, value) else member) =
          rest := by
        refine (List.map_congr_left fun other otherMem => ?_).trans (List.map_id rest)
        exact if_neg (others other otherMem)
      rw [put, if_pos here, List.map_cons, if_pos here, kept]
    · have later : key ∈ rest.map Prod.fst := by
        rw [List.map_cons] at mem
        exact (List.mem_cons.mp mem).resolve_left (Ne.symm here)
      rw [put, if_neg here, List.map_cons, if_neg here, ih distinct.2 later]

end Json

/-- Members that cannot be taken for each other are written under different keys. -/
theorem Member.nodup_spelled {entries : List (Member × Json)} (spelling : Spelling)
    (apart : (entries.map Prod.fst).Pairwise Member.Apart) :
    ((Member.spelled spelling entries).map Prod.fst).Nodup := by
  rw [Member.spelled, List.map_map, List.Nodup, List.pairwise_map]
  rw [List.pairwise_map] at apart
  refine apart.imp fun {left right} other same => ?_
  have names : left.1.name spelling = right.1.name spelling := Text.ofString_inj.mp same
  cases spelling with
  | snake => exact other.1 names
  | camel => exact other.2.2.2 names

namespace Field

/-- The members that are written of a field with an identifier and given values. -/
def written (id : Text) (values : Values) : Members :=
  Member.spelled .snake ((ofValues id values).entries .snake)

/-- A value put under the name of an attribute is written of the field that has this value. -/
theorem put_written (id : Text) (values : Values) (attr : Attribute) (value : attr.Value) :
    Json.put (Text.ofString attr.member.snake) (attr.content.write .snake value)
        (written id values) =
      written id (Function.update values attr value) := by
  have distinct : ((written id values).map Prod.fst).Nodup :=
    Member.nodup_spelled .snake ((ofValues id values).apart_entries .snake)
  have mem : Text.ofString attr.member.snake ∈ (written id values).map Prod.fst := by
    rw [written, Member.spelled, List.map_map, entries, List.map_cons, List.map_map]
    exact List.mem_cons_of_mem _ (List.mem_map_of_mem attr.mem_all)
  have numbered : Text.ofString "id" ≠ Text.ofString attr.member.snake := by
    intro same
    have names : ∀ attr : Attribute, "id" ≠ attr.member.snake := by
      intro attr
      cases attr <;> decide
    exact names attr (Text.ofString_inj.mp same)
  rw [Json.put_eq_map distinct mem]
  simp only [written, Member.spelled, entries, List.map_map, List.map_cons, value_ofValues]
  congr 1
  · exact if_neg numbered
  · refine List.map_congr_left fun other _ => ?_
    by_cases same : other = attr
    · subst same
      simp [Function.comp, Member.name]
    · have names : Text.ofString other.member.snake ≠ Text.ofString attr.member.snake :=
        fun equal => (Attribute.apart_member same).1 (Text.ofString_inj.mp equal)
      simp [Function.comp, Member.name, names, Function.update_of_ne same]

end Field

namespace Changes

/-- The member of an attribute with the value that changes give for it, if they give one. -/
def entry (changes : Changes) (attr : Attribute) : List (Member × Json) :=
  match changes.value? attr with
  | some value => [(attr.member, attr.content.write .snake value)]
  | none => []

/-- What changes give for some attributes, put over what is written of a field, is written of the
field with the given values of these attributes. -/
theorem putAll_entries (changes : Changes) (attrs : List Attribute) (id : Text) (values : Values) :
    Json.putAll (Field.written id values)
        (Member.spelled .snake (attrs.flatMap changes.entry)) =
      Field.written id fun attr =>
        if attr ∈ attrs then changes.applyTo values attr else values attr := by
  induction attrs generalizing values with
  | nil => rfl
  | cons first rest ih =>
    rw [List.flatMap_cons]
    cases given : changes.value? first with
    | none =>
      have unwritten : changes.entry first = [] := by rw [entry, given]
      rw [unwritten, List.nil_append, ih]
      congr 1
      funext attr
      by_cases same : attr = first
      · subst same
        simp [applyTo, given]
      · simp [same]
    | some value =>
      have one : changes.entry first = [(first.member, first.content.write .snake value)] := by
        rw [entry, given]
      have step : Json.putAll (Field.written id values) (Member.spelled .snake
          ([(first.member, first.content.write .snake value)] ++ rest.flatMap changes.entry)) =
          Json.putAll (Json.put (Text.ofString first.member.snake)
            (first.content.write .snake value) (Field.written id values))
            (Member.spelled .snake (rest.flatMap changes.entry)) := rfl
      rw [one, step, Field.put_written, ih]
      congr 1
      funext attr
      by_cases same : attr = first
      · subst same
        simp [applyTo, given]
      · simp [same, applyTo]

end Changes

namespace Shape

/-- What changes give, put over what is written of a field, is written of the field that they make
of it. -/
theorem putAll_given (field : Field) (changes : Changes) :
    Json.putAll (Shape.field.part.write .snake field)
        (Member.spelled .snake (givenEntries .snake changes)) =
      Shape.field.part.write .snake (Field.ofValues field.id (changes.applyTo field.value)) := by
  have every : (fun attr => if attr ∈ Attribute.all then changes.applyTo field.value attr
      else field.value attr) = changes.applyTo field.value := by
    funext attr
    exact if_pos attr.mem_all
  have put := changes.putAll_entries Attribute.all field.id field.value
  rw [every] at put
  exact put

/-- A field with changes put over it as members, checked as a field again. -/
def recheck (field : Field) (changes : Changes) : Checked Field :=
  Shape.field.read .caller (.object (Json.putAll (Shape.field.part.write .snake field)
    (Member.spelled .snake (givenEntries .snake changes))))

/-- The second check of a field never fails. -/
theorem recheck_eq (field : Field) (changes : Changes) :
    recheck field changes = .valid (Field.ofValues field.id (changes.applyTo field.value)) := by
  rw [recheck, putAll_given]
  exact faithful_field .caller .snake (Field.ofValues field.id (changes.applyTo field.value))

end Shape

/-! ## Updates member by member -/

namespace Edit

/-- The model with changes made to the members of the fields that have an identifier, each of which
is checked again. -/
def updateMembers (model : Model) (id : Text) (given : Except EditError Changes) :
    Except EditError Model :=
  if model.hasField id then do
    let changes ← given
    let fields ← model.fields.mapM fun field =>
      if field.id = id then EditError.ofChecked (Shape.recheck field changes) else .ok field
    return { model with fields := fields }
  else .ok model

/-- No second check fails, so the fields are those that changes make of them. -/
theorem mapM_recheck (fields : List Field) (id : Text) (changes : Changes) :
    (fields.mapM fun field =>
        if field.id = id then EditError.ofChecked (Shape.recheck field changes) else .ok field) =
      .ok (fields.map fun field =>
        if field.id = id then Field.ofValues field.id (changes.applyTo field.value)
        else field) := by
  have each : (fun field : Field =>
      if field.id = id then EditError.ofChecked (Shape.recheck field changes) else .ok field) =
      fun field => pure (if field.id = id then
        Field.ofValues field.id (changes.applyTo field.value) else field) := by
    funext field
    rw [Shape.recheck_eq]
    split <;> rfl
  rw [each]
  exact List.mapM_pure

/-- An update member by member is the update that the given changes make at once. -/
theorem updateMembers_eq (model : Model) (id : Text) (given : Except EditError Changes) :
    updateMembers model id given = model.updateField id given := by
  rw [updateMembers, Model.updateField]
  split
  · cases given with
    | error reason => rfl
    | ok changes =>
      have checked : (do
          let fields ← model.fields.mapM fun field =>
            if field.id = id then EditError.ofChecked (Shape.recheck field changes) else .ok field
          return { model with fields := fields } : Except EditError Model) =
          .ok (model.mergeField id changes) := by
        rw [mapM_recheck]
        rfl
      exact checked
  · rfl

end Edit

/-! ## What becomes of a field -/

namespace Attribute

/-- What members give for an attribute: what stands under its name in camel case, or else what
stands under the one in snake case. -/
def given? (attr : Attribute) (members : Members) : Option Json :=
  (members.lookup (Text.ofString attr.member.camel)).or
    (members.lookup (Text.ofString attr.member.snake))

/-- An attribute keeps its value when members give none or `null` for it, and has the value that is
read from what they give otherwise. -/
structure Merged (attr : Attribute) (members : Members) (old new : attr.Value) : Prop where
  kept : attr.given? members = none ∨ attr.given? members = some .null → new = old
  read : ∀ json, attr.given? members = some json → json ≠ .null →
    attr.content.read .caller json = .valid new

/-- A member is looked up as the first one with its name. -/
theorem lookup_eq_find? (key : Text) (members : Members) :
    members.lookup key = (members.find? (·.1 = key)).map Prod.snd := by
  induction members with
  | nil => rfl
  | cons member rest ih =>
    obtain ⟨name, json⟩ := member
    rw [List.lookup_cons, List.find?_cons]
    by_cases here : key = name
    · simp [here]
    · have apart : (key == name) = false := beq_eq_false_iff_ne.mpr here
      simp [apart, Ne.symm here, ih]

/-- What members give for an attribute is what is found for its member. -/
theorem given?_eq (attr : Attribute) (members : Members) :
    attr.given? members = (attr.member.find? members).map Prod.snd := by
  rw [given?, lookup_eq_find?, lookup_eq_find?, Member.find?]
  cases members.find? (·.1 = Text.ofString attr.member.camel) <;> rfl

/-- Changes that are read from members give an attribute the value that the members give it. -/
theorem merged_of_read {members : Members} {changes : Changes}
    (read : Shape.fieldUpdate.read .caller (.object members) = .valid changes) (attr : Attribute)
    (values : Values) : attr.Merged members (values attr) (changes.applyTo values attr) := by
  obtain ⟨family, valid, rfl⟩ := Checked.map_eq_valid read
  have own : (Part.withDefault attr.member none attr.content.nullable).read .caller members =
      .valid (family attr) := Checked.of_family_eq_valid valid attr
  have applied : (Changes.ofValues? family).applyTo values attr =
      (family attr).getD (values attr) := by
    rw [Changes.applyTo, Changes.value?_ofValues?]
  simp only [Part.withDefault] at own
  rw [applied]
  cases found : attr.member.find? members with
  | none =>
    have absent : attr.given? members = none := by rw [given?_eq, found, Option.map_none]
    rw [found] at own
    have unset : none = family attr := Checked.valid.inj own
    refine ⟨fun _ => by rw [← unset, Option.getD_none], fun json given _ => ?_⟩
    rw [absent] at given
    cases given
  | some entry =>
    obtain ⟨key, json⟩ := entry
    have present : attr.given? members = some json := by rw [given?_eq, found, Option.map_some]
    rw [found] at own
    have content : attr.content.nullable.read .caller json = .valid (family attr) :=
      Checked.under_eq_valid own
    by_cases null : json = .null
    · subst null
      have unset : none = family attr := Checked.valid.inj content
      refine ⟨fun _ => by rw [← unset, Option.getD_none], fun other given shown => ?_⟩
      rw [present] at given
      exact absurd (Option.some.inj given).symm shown
    · rw [Content.read_nullable null] at content
      obtain ⟨value, valid, set⟩ := Checked.map_eq_valid content
      refine ⟨fun kept => ?_, fun other given _ => ?_⟩
      · rw [present] at kept
        rcases kept with absent | given
        · cases absent
        · exact absurd (Option.some.inj given) null
      · rw [present] at given
        rw [← Option.some.inj given, valid, ← set, Option.getD_some]

end Attribute

namespace Edit

/-- What an update from members comes to. -/
theorem updateField_object (model : Model) (id : Text) (members : Members) :
    updateField model id (.object members) =
      model.updateField id
        (EditError.ofChecked (Shape.fieldUpdate.read .caller (.object members))) := rfl

/-- Changes that are read from members leave the fields with another identifier as they are. The
others keep their identifier, and their attributes have the values that the members give. -/
theorem forall₂_mergeField {members : Members} {changes : Changes}
    (read : Shape.fieldUpdate.read .caller (.object members) = .valid changes) (model : Model)
    (id : Text) :
    List.Forall₂ (fun old new : Field =>
      (old.id ≠ id → new = old) ∧
      (old.id = id → new.id = id ∧
        ∀ attr : Attribute, attr.Merged members (old.value attr) (new.value attr)))
      model.fields (model.mergeField id changes).fields := by
  rw [Model.mergeField, List.forall₂_map_right_iff]
  refine List.forall₂_same.mpr fun field _ => ⟨fun other => if_neg other, fun same => ?_⟩
  rw [if_pos same, Field.id_ofValues, Field.value_ofValues]
  exact ⟨same, fun attr => attr.merged_of_read read field.value⟩

/-- Changes are merged exactly. When no field has the identifier, the model stays as it is, whatever
the changes are. Otherwise an update from members is refused exactly when they are no changes to a
field, with the details of that check. Else it gives a model with the same name and as many fields:
those with another identifier are the same, and those with this one keep it and have the values that
the members give, or else their old ones. Changes that were checked before are made in the same way.
An update that puts the changes over the members of a field and checks them again gives the same in
every case, so the second check refuses nothing. -/
theorem updateField_merges (model : Model) (id : Text) :
    (model.hasField id = false → ∀ changes, updateField model id changes = .ok model) ∧
    (model.hasField id = true → ∀ members,
      (∀ error, updateField model id (.object members) = .error error ↔
        ∃ details, Shape.fieldUpdate.read .caller (.object members) = .invalid details ∧
          error = .refused details) ∧
      ∀ changes, Shape.fieldUpdate.read .caller (.object members) = .valid changes →
        ∃ updated, updateField model id (.object members) = .ok updated ∧
          updated.name = model.name ∧
          List.Forall₂ (fun old new : Field =>
            (old.id ≠ id → new = old) ∧
            (old.id = id → new.id = id ∧
              ∀ attr : Attribute, attr.Merged members (old.value attr) (new.value attr)))
            model.fields updated.fields) ∧
    (∀ members changes, Shape.fieldUpdate.read .caller (.object members) = .valid changes →
      model.updateField id (.ok changes) = updateField model id (.object members) ∧
      (updateChecked id (.object members)).apply model =
        (update id (.object members)).apply model) ∧
    ∀ given, updateMembers model id given = model.updateField id given := by
  refine ⟨fun absent changes => ?_, fun present members => ⟨fun error => ?_, ?_⟩, ?_,
    updateMembers_eq model id⟩
  · rw [updateField, Model.updateField, absent]
    rfl
  · rw [updateField_object, Model.updateField, if_pos present]
    cases read : Shape.fieldUpdate.read .caller (.object members) with
    | valid changes =>
      constructor
      · intro refused
        cases refused
      · rintro ⟨details, same, -⟩
        cases same
    | invalid details =>
      constructor
      · intro refused
        exact ⟨details, rfl, (Except.error.inj refused).symm⟩
      · rintro ⟨others, same, rfl⟩
        rw [Checked.invalid.inj same]
        rfl
  · intro changes read
    refine ⟨model.mergeField id changes, ?_, rfl, forall₂_mergeField read model id⟩
    rw [updateField_object, read]
    exact if_pos present
  · intro members changes read
    have direct : model.updateField id (.ok changes) = updateField model id (.object members) := by
      rw [updateField_object, read]
      rfl
    refine ⟨direct, ?_⟩
    rw [apply, apply, read, ← direct]
    rfl

/-- A model in which two fields have one identifier. -/
def doubledModel : Model where
  name := "Post"
  fields := [{ id := "a", name := "title" }, { id := "b", name := "size", type := .int },
    { id := "a", name := "body", mapName := "text" }]

/-- Changes as a client may write them: an identifier, a flag as a word, a member under both names
and one that is `null`. -/
def looseMembers : Members :=
  [("id", .string "c"), ("isArray", .string "Yes"), ("is_array", .string "perhaps"),
    ("mapName", .null), ("type", .string "Json")]

/-- Both fields with the identifier are changed and keep it; the identifier that the members bring
is the one of no field, so an update to it changes nothing. -/
theorem updateField_merges_doubled :
    (doubledModel.hasField "c" = false ∧
      updateField doubledModel "c" (.array [.null]) = .ok doubledModel) ∧
    doubledModel.hasField "a" = true ∧
    Shape.fieldUpdate.read .caller (.object looseMembers) =
      .valid { isArray := some true, type := some .json } ∧
    ∃ updated, updateField doubledModel "a" (.object looseMembers) = .ok updated ∧
      updated.name = doubledModel.name ∧
      List.Forall₂ (fun old new : Field =>
        (old.id ≠ "a" → new = old) ∧
        (old.id = "a" → new.id = "a" ∧
          ∀ attr : Attribute, attr.Merged looseMembers (old.value attr) (new.value attr)))
        doubledModel.fields updated.fields := by
  have absent : doubledModel.hasField "c" = false := by decide
  have present : doubledModel.hasField "a" = true := by decide
  have read : Shape.fieldUpdate.read .caller (.object looseMembers) =
      .valid { isArray := some true, type := some .json } := by rfl
  exact ⟨⟨absent, (updateField_merges doubledModel "c").1 absent _⟩, present, read,
    ((updateField_merges doubledModel "a").2.1 present looseMembers).2 _ read⟩

end Edit

end SchemaDesk
