import SchemaDesk.Shape.Domain
/-!
# Reading what is written

A content reads back what it writes. The members of an object are found by either spelling, so a
part finds the members that another part has written, as long as no member of the object can be
taken for another one (`Member.find?_spelled`). In particular a model that is written is read as the
request for its block, with every value of every field and without the identifiers
(`Shape.read_renderRequest`).
-/

namespace SchemaDesk

namespace Checked

variable {α : Type}

/-- Values that are all valid are valid together. -/
theorem all_valid (values : List α) : all (values.map valid) = valid values := by
  induction values with
  | nil => rfl
  | cons value rest ih =>
    rw [List.map_cons, all, ih]
    rfl

/-- A family of values that are all valid is valid. -/
theorem family_valid {F : Attribute → Type} {outcome : (attr : Attribute) → Checked (F attr)}
    {values : (attr : Attribute) → F attr} (each : ∀ attr, outcome attr = .valid (values attr)) :
    family outcome = .valid values := by
  obtain rfl : outcome = fun attr => .valid (values attr) := funext each
  exact dif_pos fun _ _ => rfl

end Checked

/-! ## Contents -/

namespace Content

variable {α β : Type}

/-- A content reads what it writes as the value it was written from. -/
def Faithful (content : Content α) : Prop :=
  ∀ origin spelling value, content.read origin (content.write spelling value) = .valid value

/-- A content never writes `null`. -/
def NeverNull (content : Content α) : Prop := ∀ spelling value, content.write spelling value ≠ .null

/-- A text is read back. -/
theorem faithful_text : text.Faithful := fun _ _ _ => rfl

/-- A flag is read back. -/
theorem faithful_flag : flag.Faithful := fun _ _ _ => rfl

/-- A type is read back. -/
theorem faithful_scalarType : scalarType.Faithful := by
  intro origin spelling type
  simp only [scalarType, ScalarType.ofName?_name]

/-- A value of any kind is read back. -/
theorem faithful_ofKind (kind : Attribute.Kind) : (ofKind kind).Faithful := by
  cases kind with
  | text => exact faithful_text
  | flag => exact faithful_flag
  | scalar => exact faithful_scalarType

/-- The value of an attribute is read back. -/
theorem faithful_attribute (attr : Attribute) : attr.content.Faithful := faithful_ofKind attr.kind

/-- The value of an attribute is never null. -/
theorem neverNull_attribute (attr : Attribute) : attr.content.NeverNull := by
  cases attr <;> exact fun _ _ => nofun

/-- A content that may be `null` reads any other value as the content does. -/
theorem read_nullable {content : Content α} {origin : Origin} {json : Json} (shown : json ≠ .null) :
    content.nullable.read origin json = (content.read origin json).map some := by
  cases json with
  | null => exact absurd rfl shown
  | _ => rfl

/-- The items of an array are read one by one. -/
theorem read_list {content : Content β} {origin : Origin} {write : α → Json} {stand : α → β}
    (read : ∀ value, content.read origin (write value) = .valid (stand value)) (values : List α) :
    content.list.read origin (.array (values.map write)) = .valid (values.map stand) := by
  have items : readItems content origin (values.map write) = (values.map stand).map .valid := by
    refine List.ext_getElem (by simp [readItems]) fun index _ _ => ?_
    simp only [readItems, List.getElem_mapIdx, List.getElem_map, read]
    rfl
  exact (congrArg Checked.all items).trans (Checked.all_valid _)

end Content

/-! ## Members -/

namespace Member

/-- Two members of which neither can be taken for the other. -/
def Apart (left right : Member) : Prop :=
  left.snake ≠ right.snake ∧ left.snake ≠ right.camel ∧ left.camel ≠ right.snake ∧
    left.camel ≠ right.camel

/-- Members are compared in all spellings. -/
instance : DecidableRel Apart := fun left right =>
  inferInstanceAs (Decidable (left.snake ≠ right.snake ∧ left.snake ≠ right.camel ∧
    left.camel ≠ right.snake ∧ left.camel ≠ right.camel))

/-- Members with their values, their names in one spelling. -/
def spelled (spelling : Spelling) (entries : List (Member × Json)) : Members :=
  entries.map fun entry => (Text.ofString (entry.1.name spelling), entry.2)

variable {spelling : Spelling} {member : Member} {value : Json} {entries : List (Member × Json)}

/-- A member is not looked for under the name of another one. -/
theorem find?_spelled_cons {entry : Member × Json} (apart : entry.1.Apart member) :
    member.find? (spelled spelling (entry :: entries)) =
      member.find? (spelled spelling entries) := by
  obtain ⟨snakes, snakeCamel, camelSnake, camels⟩ := apart
  have camel : entry.1.name spelling ≠ member.camel := by
    cases spelling with
    | snake => exact snakeCamel
    | camel => exact camels
  have snake : entry.1.name spelling ≠ member.snake := by
    cases spelling with
    | snake => exact snakes
    | camel => exact camelSnake
  rw [find?, spelled, List.map_cons, List.find?_cons_of_neg, List.find?_cons_of_neg]
  · rfl
  · simpa [Text.ofString_inj] using snake
  · simpa [Text.ofString_inj] using camel

/-- A member is not found among others. -/
theorem find?_spelled_of_apart (apart : ∀ entry ∈ entries, entry.1.Apart member) :
    member.find? (spelled spelling entries) = none := by
  induction entries with
  | nil => rfl
  | cons entry rest ih =>
    rw [find?_spelled_cons (apart entry List.mem_cons_self)]
    exact ih fun other mem => apart other (List.mem_cons_of_mem entry mem)

/-- The first member is found, when it is not among the others. -/
theorem find?_spelled_head (apart : ∀ entry ∈ entries, entry.1.Apart member) :
    member.find? (spelled spelling ((member, value) :: entries)) =
      some (Text.ofString (member.name spelling), value) := by
  -- The name in camel case is looked for first, also when the members are written in snake case.
  have rest : member.find? (spelled spelling entries) = none := find?_spelled_of_apart apart
  have camel : (spelled spelling entries).find? (·.1 = Text.ofString member.camel) = none :=
    (Option.or_eq_none_iff.mp rest).1
  rw [find?, spelled, List.map_cons, ← spelled, List.find?_cons, List.find?_cons, camel]
  cases spelling with
  | camel => simp [name]
  | snake =>
    by_cases same : member.snake = member.camel
    · simp [name, same]
    · simp [name, Text.ofString_inj, same]

/-- Every member of an object is found under its name, when no two can be taken for each other. -/
theorem find?_spelled (apart : (entries.map Prod.fst).Pairwise Apart)
    (mem : (member, value) ∈ entries) :
    member.find? (spelled spelling entries) =
      some (Text.ofString (member.name spelling), value) := by
  induction entries with
  | nil => cases mem
  | cons entry rest ih =>
    rw [List.map_cons, List.pairwise_cons] at apart
    obtain ⟨first, others⟩ := apart
    have first : ∀ other ∈ rest, entry.1.Apart other.1 := fun other mem =>
      first other.1 (List.mem_map_of_mem mem)
    rcases List.mem_cons.mp mem with rfl | later
    · refine find?_spelled_head fun other mem => ?_
      obtain ⟨snakes, snakeCamel, camelSnake, camels⟩ := first other mem
      exact ⟨snakes.symm, camelSnake.symm, snakeCamel.symm, camels.symm⟩
    · rw [find?_spelled_cons (first _ later), ih others later]

end Member

/-! ## Parts -/

namespace Part

variable {α : Type} {content : Content α} {origin : Origin} {members : Members} {member : Member}
  {key : Text} {json : Json} {value : α}

/-- A member that an object has is read by its content. -/
theorem read_withDefault {default : α} (found : member.find? members = some (key, json))
    (read : content.read origin json = .valid value) :
    (withDefault member default content).read origin members = .valid value := by
  simp only [withDefault, found, read]
  rfl

end Part

/-! ## Fields and models -/

/-- The members of a field that is written. -/
def Field.entries (spelling : Spelling) (field : Field) : List (Member × Json) :=
  (.plain "id", .string field.id) :: Attribute.all.map fun attr =>
    (attr.member, attr.content.write spelling (field.value attr))

/-- The members of a field are apart. -/
theorem Field.apart_entries (spelling : Spelling) (field : Field) :
    ((field.entries spelling).map Prod.fst).Pairwise Member.Apart := by
  have members : (field.entries spelling).map Prod.fst =
      .plain "id" :: Attribute.all.map Attribute.member := rfl
  rw [members]
  decide +kernel

/-- The members of a model that is written. -/
def Model.entries (spelling : Spelling) (model : Model) : List (Member × Json) :=
  [(.plain "name", .string model.name),
    (.plain "fields", .array (model.fields.map (Shape.field.write spelling)))]

/-- The members of a model are apart. -/
theorem Model.apart_entries (spelling : Spelling) (model : Model) :
    ((model.entries spelling).map Prod.fst).Pairwise Member.Apart := by
  have members : (model.entries spelling).map Prod.fst = [.plain "name", .plain "fields"] := rfl
  rw [members]
  decide +kernel

namespace Shape

/-- A field is written as an object of its members. -/
theorem write_field (spelling : Spelling) (field : Field) :
    Shape.field.write spelling field = .object (Member.spelled spelling (field.entries spelling)) :=
  rfl

/-- A field that is written is read as a new field with all its values. -/
theorem read_fieldCreate (origin : Origin) (spelling : Spelling) (field : Field) :
    fieldCreate.read origin (Shape.field.write spelling field) =
      .valid (Changes.ofValues field.value) := by
  rw [write_field]
  have each : ∀ attr : Attribute,
      (Part.withDefault attr.member none attr.content.nullable).read origin
        (Member.spelled spelling (field.entries spelling)) = .valid (some (field.value attr)) := by
    intro attr
    have mem : (attr.member, attr.content.write spelling (field.value attr)) ∈
        field.entries spelling :=
      List.mem_cons_of_mem _ (List.mem_map_of_mem attr.mem_all)
    refine Part.read_withDefault (Member.find?_spelled (field.apart_entries spelling) mem) ?_
    rw [Content.read_nullable (Content.neverNull_attribute attr spelling _),
      Content.faithful_attribute]
    rfl
  exact congrArg (Checked.map Changes.ofValues?) (Checked.family_valid each)

/-- A model is written as an object of its members. -/
theorem write_model (spelling : Spelling) (model : Model) :
    Shape.model.write spelling model = .object (Member.spelled spelling (model.entries spelling)) :=
  rfl

/-- A model that is written is read as the request for its block. -/
theorem read_renderRequest (origin : Origin) (spelling : Spelling) (model : Model) :
    renderRequest.read origin (Shape.model.write spelling model) =
      .valid ⟨model.name, model.fields.map fun field => Changes.ofValues field.value⟩ := by
  have apart := model.apart_entries spelling
  have name : (Part.withDefault (.plain "name") [] .text).read origin
      (Member.spelled spelling (model.entries spelling)) = .valid model.name :=
    Part.read_withDefault (Member.find?_spelled apart List.mem_cons_self)
      (Content.faithful_text origin spelling model.name)
  have fields : (Part.withDefault (.plain "fields") [] fieldCreate.content.list).read origin
      (Member.spelled spelling (model.entries spelling)) =
        .valid (model.fields.map fun field => Changes.ofValues field.value) :=
    Part.read_withDefault
      (Member.find?_spelled apart (List.mem_cons_of_mem _ List.mem_cons_self))
      (Content.read_list (read_fieldCreate origin spelling) model.fields)
  rw [write_model]
  change (Checked.both (Part.read _ origin _) (Part.read _ origin _)).map _ = _
  rw [name, fields]
  rfl

end Shape

/-! ## Models that can be written -/

namespace Json

/-- A list is plain when every item is. -/
theorem allPlain_eq (items : List Json) : allPlain items = items.all isPlain := by
  induction items with
  | nil => rfl
  | cons item rest ih => rw [allPlain, ih, List.all_cons]

/-- The names of members are whole, so only the values decide whether an object can be written. -/
theorem isPlain_spelled (spelling : Spelling) (entries : List (Member × Json)) :
    isPlain (.object (Member.spelled spelling entries)) = entries.all (·.2.isPlain) := by
  rw [isPlain]
  induction entries with
  | nil => rfl
  | cons entry rest ih =>
    rw [Member.spelled, List.map_cons, ← Member.spelled, allMembersPlain, Text.isWhole_ofString, ih,
      List.all_cons, Bool.true_and]

end Json

/-- Whether a value has no half of a character; only a text can have one. -/
def Attribute.Kind.isWhole : (kind : Attribute.Kind) → kind.Value → Bool
  | .text, value => Text.isWhole value
  | .flag, _ | .scalar, _ => true

/-- Whether all texts of a field are whole. -/
def Field.isWhole (field : Field) : Bool :=
  field.id.isWhole && Attribute.all.all fun attr => attr.kind.isWhole (field.value attr)

/-- Whether all texts of a model are whole. -/
def Model.isWhole (model : Model) : Bool := model.name.isWhole && model.fields.all Field.isWhole

/-- The value of an attribute is written plain when it is whole. -/
theorem Attribute.isPlain_write (attr : Attribute) (spelling : Spelling) (value : attr.Value) :
    (attr.content.write spelling value).isPlain = attr.kind.isWhole value := by
  have kind : ∀ (kind : Attribute.Kind) (value : kind.Value),
      ((Content.ofKind kind).write spelling value).isPlain = kind.isWhole value := by
    intro kind value
    cases kind with
    | text => rfl
    | flag => rfl
    | scalar => exact Text.isWhole_ofString _
  exact kind attr.kind value

/-- A field is written plain when it is whole. -/
theorem Field.isPlain_write (spelling : Spelling) (field : Field) :
    (Shape.field.write spelling field).isPlain = field.isWhole := by
  have values : ((·.2.isPlain) ∘ fun attr : Attribute =>
      (attr.member, attr.content.write spelling (field.value attr))) =
        fun attr => attr.kind.isWhole (field.value attr) :=
    funext fun attr => attr.isPlain_write spelling (field.value attr)
  rw [Shape.write_field, Json.isPlain_spelled, Field.entries, List.all_cons, List.all_map, values]
  rfl

/-- A model can be written exactly when all its texts are whole. -/
theorem Model.isPlain_write (spelling : Spelling) (model : Model) :
    (Shape.model.write spelling model).isPlain = model.isWhole := by
  have fields : (model.fields.map (Shape.field.write spelling)).all Json.isPlain =
      model.fields.all Field.isWhole := by
    rw [List.all_map]
    exact congrArg model.fields.all (funext (Field.isPlain_write spelling))
  rw [Shape.write_model, Json.isPlain_spelled, Model.entries]
  simp only [List.all_cons, List.all_nil, Bool.and_true, Json.isPlain, Json.allPlain_eq, fields]
  rfl

end SchemaDesk
