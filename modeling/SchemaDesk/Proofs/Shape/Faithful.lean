import SchemaDesk.Proofs.Shape.Whole
import SchemaDesk.Proofs.Shape.Written
/-!
# Values survive being written

A part is faithful when it reads what it writes, also among the members of other parts, as long as
no two members of the object can be taken for each other (`Part.Faithful`). Each way to put parts
together keeps this law, so every shape of the domain reads both written forms of a value as that
value. Changes survive a third form, in which only the values given have a member. What changes ask
for does not depend on which members they were read from (`Shape.asked_eq_of_read`), so all three
forms ask for the same (`Shape.survives_writing`).
-/

namespace SchemaDesk

/-! ## Contents -/

namespace Content

variable {α : Type} {content : Content α}

/-- A content that is never null is read back where null is allowed. -/
theorem Faithful.nullable (faithful : content.Faithful) (shown : content.NeverNull) :
    content.nullable.Faithful := by
  intro origin spelling value
  cases value with
  | none => rfl
  | some value =>
    have written : content.nullable.write spelling (some value) =
        content.write spelling value := rfl
    rw [written, read_nullable (shown spelling value), faithful origin spelling value]
    rfl

/-- A list is read back when its items are. -/
theorem Faithful.list (faithful : content.Faithful) : content.list.Faithful := by
  intro origin spelling values
  have each : ∀ value, content.read origin (content.write spelling value) = .valid (id value) :=
    fun value => faithful origin spelling value
  have read := read_list each values
  rw [List.map_id] at read
  exact read

/-- A list is never null. -/
theorem neverNull_list (content : Content α) : content.list.NeverNull := fun _ _ => nofun

end Content

/-! ## Parts -/

namespace Part

variable {α β : Type} {content : Content α}

/-- A part that reads what it writes, whatever members stand beside its own, as long as no two of
them can be taken for each other. -/
def Faithful (part : Part α) : Prop :=
  ∀ spelling value, ∃ entries : List (Member × Json),
    part.write spelling value = Member.spelled spelling entries ∧
      entries.map Prod.fst = part.members ∧
      ∀ origin (whole : List (Member × Json)), (whole.map Prod.fst).Pairwise Member.Apart →
        entries ⊆ whole → part.read origin (Member.spelled spelling whole) = .valid value

/-- A required member that an object has is read by its content. -/
theorem read_required {origin : Origin} {members : Members} {member : Member} {key : Text}
    {json : Json} {value : α} (found : member.find? members = some (key, json))
    (read : content.read origin json = .valid value) :
    (required member content).read origin members = .valid value := by
  simp only [required, found, read]
  rfl

/-- A required part is read back when its content is. -/
theorem faithful_required (faithful : content.Faithful) (member : Member) :
    (required member content).Faithful := by
  intro spelling value
  refine ⟨[(member, content.write spelling value)], rfl, rfl, fun origin whole apart within => ?_⟩
  have found : member.find? (Member.spelled spelling whole) =
      some (Text.ofString (member.name spelling), content.write spelling value) :=
    Member.find?_spelled apart (within List.mem_cons_self)
  exact read_required found (faithful origin spelling value)

/-- A part with a default is read back when its content is. -/
theorem faithful_withDefault (faithful : content.Faithful) (member : Member) (default : α) :
    (withDefault member default content).Faithful := by
  intro spelling value
  refine ⟨[(member, content.write spelling value)], rfl, rfl, fun origin whole apart within => ?_⟩
  have found : member.find? (Member.spelled spelling whole) =
      some (Text.ofString (member.name spelling), content.write spelling value) :=
    Member.find?_spelled apart (within List.mem_cons_self)
  exact read_withDefault found (faithful origin spelling value)

/-- Two parts are read back when each is. -/
theorem Faithful.both {left : Part α} {right : Part β} (first : left.Faithful)
    (second : right.Faithful) : (left.both right).Faithful := by
  intro spelling value
  obtain ⟨entries, written, names, read⟩ := first spelling value.1
  obtain ⟨others, otherWritten, otherNames, otherRead⟩ := second spelling value.2
  refine ⟨entries ++ others, ?_, ?_, fun origin whole apart within => ?_⟩
  · simp only [Part.both, written, otherWritten, Member.spelled, List.map_append]
  · rw [List.map_append, names, otherNames]
    rfl
  · obtain ⟨here, there⟩ := List.append_subset.mp within
    simp only [Part.both, read origin whole apart here, otherRead origin whole apart there]
    rfl

/-- A family of parts is read back when each is. -/
theorem faithful_family {F : Attribute → Type} {part : (attr : Attribute) → Part (F attr)}
    (each : ∀ attr, (part attr).Faithful) : (family part).Faithful := by
  intro spelling values
  choose entries written names read using fun attr => each attr spelling (values attr)
  refine ⟨Attribute.all.flatMap entries, ?_, ?_, fun origin whole apart within => ?_⟩
  · simp only [family, Member.spelled, List.map_flatMap, written]
  · simp only [family, List.map_flatMap, names]
  · refine Checked.family_valid fun attr => read attr origin whole apart fun entry mem => ?_
    exact within (List.mem_flatMap.mpr ⟨attr, attr.mem_all, mem⟩)

/-- A part that is packed is read back when unpacking can be undone. -/
theorem Faithful.iso {part : Part α} (faithful : part.Faithful) {pack : α → β} {unpack : β → α}
    (inverse : ∀ value, pack (unpack value) = value) : (part.iso pack unpack).Faithful := by
  intro spelling value
  obtain ⟨entries, written, names, read⟩ := faithful spelling (unpack value)
  refine ⟨entries, written, names, fun origin whole apart within => ?_⟩
  have packed : (part.iso pack unpack).read origin (Member.spelled spelling whole) =
      (Checked.valid (unpack value)).map pack :=
    congrArg (Checked.map pack) (read origin whole apart within)
  rw [packed, Checked.map, inverse]

/-- A shape whose members cannot be taken for each other reads back the objects it writes. -/
theorem Faithful.shape {shape : Shape α} (faithful : shape.part.Faithful)
    (apart : shape.part.members.Pairwise Member.Apart) : shape.content.Faithful := by
  intro origin spelling value
  obtain ⟨entries, written, names, read⟩ := faithful spelling value
  have object : shape.content.read origin (shape.content.write spelling value) =
      shape.part.read origin (Member.spelled spelling entries) :=
    congrArg (shape.part.read origin) written
  rw [object]
  exact read origin entries (names ▸ apart) (List.Subset.refl entries)

end Part

/-! ## The shapes of the domain -/

namespace Attribute

/-- No attribute can be taken for another one. -/
theorem pairwise_apart : (all.map member).Pairwise Member.Apart := by decide

/-- Different attributes have members that are apart. -/
theorem apart_member {left right : Attribute} (other : left ≠ right) :
    left.member.Apart right.member := by
  have each : ∀ left ∈ all, ∀ right ∈ all, left ≠ right → left.member.Apart right.member := by
    decide
  exact each left left.mem_all right right.mem_all other

end Attribute

namespace Shape

/-- The shapes of the domain by name. -/
inductive Name where
  /-- Fields. -/
  | field
  /-- Models. -/
  | model
  /-- Changes to a field. -/
  | fieldUpdate
  /-- The attributes of a new field. -/
  | fieldCreate
  /-- Requests for a model. -/
  | modelCreate
  /-- Requests for another name. -/
  | modelRename
  /-- Requests for the block of a model. -/
  | renderRequest
  /-- Replies with a block. -/
  | schemaText
  /-- Replies with a session. -/
  | session
deriving DecidableEq, Repr

/-- The values of the shape with a name. -/
@[reducible] def Name.Value : Name → Type
  | field => Field
  | model => Model
  | fieldUpdate | fieldCreate => Changes
  | modelCreate => ModelCreate
  | modelRename => ModelRename
  | renderRequest => RenderRequest
  | schemaText => SchemaText
  | session => SessionModel

/-- The shape with a name. -/
def Name.shape : (name : Name) → Shape name.Value
  | field => Shape.field
  | model => Shape.model
  | fieldUpdate => Shape.fieldUpdate
  | fieldCreate => Shape.fieldCreate
  | modelCreate => Shape.modelCreate
  | modelRename => Shape.modelRename
  | renderRequest => Shape.renderRequest
  | schemaText => Shape.schemaText
  | session => Shape.session

/-- No two members of a shape can be taken for each other. -/
theorem Name.apart (name : Name) : name.shape.part.members.Pairwise Member.Apart := by
  cases name <;> decide

/-- A field is read back. -/
theorem faithful_field : field.content.Faithful := by
  have values : Part.Faithful values := Part.faithful_family fun attr =>
    Part.faithful_withDefault (Content.faithful_attribute attr) attr.member attr.kind.default
  have pair := (Part.faithful_required Content.faithful_text (.plain "id")).both values
  exact (pair.iso Field.ofValues_value).shape (Name.apart .field)

/-- Changes are read back. -/
theorem faithful_changes : changesPart.Faithful := by
  have values := Part.faithful_family fun attr => Part.faithful_withDefault
    ((Content.faithful_attribute attr).nullable (Content.neverNull_attribute attr)) attr.member none
  exact values.iso Changes.ofValues?_value?

/-- A request to change a field is read back. -/
theorem faithful_fieldUpdate : fieldUpdate.content.Faithful :=
  faithful_changes.shape (Name.apart .fieldUpdate)

/-- A request to add a field is read back. -/
theorem faithful_fieldCreate : fieldCreate.content.Faithful :=
  faithful_changes.shape (Name.apart .fieldCreate)

/-- A model is read back. -/
theorem faithful_model : model.content.Faithful := by
  have name := Part.faithful_withDefault Content.faithful_text (.plain "name") []
  have fields := Part.faithful_withDefault faithful_field.list (.plain "fields") []
  exact ((name.both fields).iso fun _ => rfl).shape (Name.apart .model)

/-- A request for a new model is read back. -/
theorem faithful_modelCreate : modelCreate.content.Faithful := by
  have name := Part.faithful_withDefault Content.faithful_text (.plain "name") []
  have fields := Part.faithful_withDefault
    (faithful_fieldCreate.list.nullable (Content.neverNull_list _)) (.plain "fields") none
  exact ((name.both fields).iso fun _ => rfl).shape (Name.apart .modelCreate)

/-- A request to rename a model is read back. -/
theorem faithful_modelRename : modelRename.content.Faithful := by
  have name := Part.faithful_required Content.faithful_text (.plain "name")
  exact (name.iso fun _ => rfl).shape (Name.apart .modelRename)

/-- A request for a block is read back. -/
theorem faithful_renderRequest : renderRequest.content.Faithful := by
  have name := Part.faithful_withDefault Content.faithful_text (.plain "name") []
  have fields := Part.faithful_withDefault faithful_fieldCreate.list (.plain "fields") []
  exact ((name.both fields).iso fun _ => rfl).shape (Name.apart .renderRequest)

/-- The text of a block is read back. -/
theorem faithful_schemaText : schemaText.content.Faithful := by
  have name := Part.faithful_required Content.faithful_text (.plain "name")
  have text := Part.faithful_required Content.faithful_text ⟨"schema_text", "schemaText"⟩
  exact ((name.both text).iso fun _ => rfl).shape (Name.apart .schemaText)

/-- A session with its model is read back. -/
theorem faithful_session : session.content.Faithful := by
  have id := Part.faithful_required Content.faithful_text ⟨"session_id", "sessionId"⟩
  have model := Part.faithful_required faithful_model (.plain "model")
  exact ((id.both model).iso fun _ => rfl).shape (Name.apart .session)

/-- Every shape of the domain reads back what it writes. -/
theorem Name.faithful (name : Name) : name.shape.content.Faithful := by
  cases name with
  | field => exact faithful_field
  | model => exact faithful_model
  | fieldUpdate => exact faithful_fieldUpdate
  | fieldCreate => exact faithful_fieldCreate
  | modelCreate => exact faithful_modelCreate
  | modelRename => exact faithful_modelRename
  | renderRequest => exact faithful_renderRequest
  | schemaText => exact faithful_schemaText
  | session => exact faithful_session

/-! ## What changes ask for -/

/-- The members of the attributes that changes give, with their values. -/
def givenEntries (spelling : Spelling) (changes : Changes) : List (Member × Json) :=
  Attribute.all.flatMap fun attr =>
    match changes.value? attr with
    | some value => [(attr.member, attr.content.write spelling value)]
    | none => []

/-- Changes are written as an object of what they give. -/
theorem writeGiven_eq (spelling : Spelling) (changes : Changes) :
    writeGiven spelling changes =
      .object (Member.spelled spelling (givenEntries spelling changes)) := by
  rw [writeGiven, givenEntries, Member.spelled, List.map_flatMap]
  congr 2
  funext attr
  cases changes.value? attr with
  | none => rfl
  | some value => rfl

/-- The members written are those of attributes that are given. -/
theorem mem_givenEntries_iff {spelling : Spelling} {changes : Changes} {entry : Member × Json} :
    entry ∈ givenEntries spelling changes ↔ ∃ attr value, changes.value? attr = some value ∧
      entry = (attr.member, attr.content.write spelling value) := by
  rw [givenEntries, List.mem_flatMap]
  constructor
  · rintro ⟨attr, -, mem⟩
    cases given : changes.value? attr with
    | none =>
      rw [given] at mem
      cases mem
    | some value =>
      rw [given] at mem
      exact ⟨attr, value, given, List.mem_singleton.mp mem⟩
  · rintro ⟨attr, value, given, rfl⟩
    refine ⟨attr, attr.mem_all, ?_⟩
    rw [given]
    exact List.mem_cons_self

/-- The members written cannot be taken for each other. -/
theorem apart_givenEntries (spelling : Spelling) (changes : Changes) :
    ((givenEntries spelling changes).map Prod.fst).Pairwise Member.Apart := by
  refine Attribute.pairwise_apart.sublist ?_
  rw [givenEntries, List.map_flatMap, List.map_eq_flatMap]
  generalize Attribute.all = attrs
  induction attrs with
  | nil => exact List.Sublist.refl _
  | cons attr rest ih =>
    rw [List.flatMap_cons, List.flatMap_cons]
    refine List.Sublist.append ?_ ih
    cases changes.value? attr with
    | none => exact List.nil_sublist _
    | some value => exact List.Sublist.refl _

/-- The member of an attribute is found when the attribute is given, and not otherwise. -/
theorem find?_givenEntries (spelling : Spelling) (changes : Changes) (attr : Attribute) :
    attr.member.find? (Member.spelled spelling (givenEntries spelling changes)) =
      (changes.value? attr).map fun value =>
        (Text.ofString (attr.member.name spelling), attr.content.write spelling value) := by
  cases given : changes.value? attr with
  | some value =>
    exact Member.find?_spelled (apart_givenEntries spelling changes)
      (mem_givenEntries_iff.mpr ⟨attr, value, given, rfl⟩)
  | none =>
    refine Member.find?_spelled_of_apart fun entry mem => ?_
    obtain ⟨other, value, otherGiven, rfl⟩ := mem_givenEntries_iff.mp mem
    refine Attribute.apart_member fun same => ?_
    subst same
    rw [given] at otherGiven
    cases otherGiven

/-- Changes are read from the members of the attributes that they give. -/
theorem read_writeGiven {shape : Shape Changes} (part : shape.part = changesPart) (origin : Origin)
    (spelling : Spelling) (changes : Changes) :
    shape.read origin (writeGiven spelling changes) = .valid changes := by
  have each : ∀ attr : Attribute,
      (Part.withDefault attr.member none attr.content.nullable).read origin
        (Member.spelled spelling (givenEntries spelling changes)) =
          .valid (changes.value? attr) := by
    intro attr
    have found := find?_givenEntries spelling changes attr
    cases given : changes.value? attr with
    | none =>
      rw [given] at found
      simp only [Part.withDefault, found, Option.map_none]
    | some value =>
      rw [given] at found
      refine Part.read_withDefault found ?_
      rw [Content.read_nullable (Content.neverNull_attribute attr spelling value),
        Content.faithful_attribute attr origin spelling value]
      rfl
  have object : shape.read origin (writeGiven spelling changes) =
      changesPart.read origin (Member.spelled spelling (givenEntries spelling changes)) := by
    rw [writeGiven_eq, ← part]
    rfl
  rw [object]
  exact congrArg (Checked.map Changes.ofValues?) (Checked.family_valid each)

/-- What changes that are read from a value ask for: the attributes that the value has members for,
as far as they are not `null`. -/
def asked (shape : Shape Changes) (json : Json) (changes : Changes) : Changes :=
  Changes.ofValues? fun attr =>
    if attr.member.snake ∈ shape.namesGiven json then changes.value? attr else none

/-- An attribute without a member is read as not given, so changes ask for all that they give. -/
theorem asked_eq_of_read {shape : Shape Changes} (part : shape.part = changesPart) {origin : Origin}
    {json : Json} {changes : Changes} (read : shape.read origin json = .valid changes) :
    shape.asked json changes = changes := by
  cases json with
  | object members =>
    have object : changesPart.read origin members = .valid changes := by
      rw [← part]
      exact read
    obtain ⟨values, valid, rfl⟩ := Checked.map_eq_valid object
    rw [asked, Changes.value?_ofValues?]
    congr 1
    funext attr
    by_cases named : attr.member.snake ∈ shape.namesGiven (.object members)
    · rw [if_pos named]
    · rw [if_neg named]
      have absent : attr.member.find? members = none := by
        by_contra found
        refine named (List.mem_map.mpr ⟨attr.member, List.mem_filter.mpr ⟨?_, ?_⟩, rfl⟩)
        · rw [part]
          exact List.mem_flatMap.mpr ⟨attr, attr.mem_all, List.mem_cons_self⟩
        · exact Option.isSome_iff_ne_none.mpr found
      have default : (Part.withDefault attr.member none attr.content.nullable).read origin members =
          .valid (values attr) := Checked.of_family_eq_valid valid attr
      simp only [Part.withDefault, absent] at default
      exact Checked.valid.inj default
  | _ => cases read

/-- The members that changes read from a value ask for. -/
def askedMembers (shape : Shape Changes) (json : Json) (changes : Changes) : Json :=
  writeGiven .snake (shape.asked json changes)

/-- Every shape reads both written forms of a value as the value. Of changes that are read from some
value, both written forms and the members they ask for are read as changes that ask for the same. -/
theorem survives_writing :
    (∀ (name : Name) origin spelling (value : name.Value),
      name.shape.read origin (name.shape.write spelling value) = .valid value) ∧
    ∀ shape ∈ [fieldUpdate, fieldCreate], ∀ origin json changes,
      shape.read origin json = .valid changes →
        ∀ other ∈ [shape.write .snake changes, shape.write .camel changes,
            shape.askedMembers json changes],
          (shape.read origin other).map (shape.askedMembers other) =
            .valid (shape.askedMembers json changes) := by
  refine ⟨fun name => name.faithful, fun shape mem origin json changes read other form => ?_⟩
  obtain ⟨part, faithful⟩ : shape.part = changesPart ∧ shape.content.Faithful := by
    simp only [List.mem_cons, List.not_mem_nil, or_false] at mem
    rcases mem with rfl | rfl
    · exact ⟨rfl, faithful_fieldUpdate⟩
    · exact ⟨rfl, faithful_fieldCreate⟩
  have asked : shape.askedMembers json changes = writeGiven .snake changes :=
    congrArg (writeGiven .snake) (asked_eq_of_read part read)
  have reread : shape.read origin other = .valid changes := by
    simp only [List.mem_cons, List.not_mem_nil, or_false] at form
    rcases form with rfl | rfl | rfl
    · exact faithful origin .snake changes
    · exact faithful origin .camel changes
    · rw [asked]
      exact read_writeGiven part origin .snake changes
  have again : shape.askedMembers other changes = writeGiven .snake changes :=
    congrArg (writeGiven .snake) (asked_eq_of_read part reread)
  rw [reread, asked, Checked.map, again]

/-- An object of changes as a client may write it: a flag as a word, a member under both names, one
that is `null`, and one that no attribute has. -/
def looseUpdate : Json :=
  .object [("isArray", .string "Yes"), ("is_array", .string "perhaps"), ("map_name", .null),
    ("type", .string "Json"), ("size", .int 3)]

/-- The changes of the object come back from both written forms and from the two members that they
ask for. -/
theorem survives_writing_loose :
    fieldUpdate.read .body looseUpdate = .valid { isArray := some true, type := some .json } ∧
    ∀ other ∈ [fieldUpdate.write .snake { isArray := some true, type := some .json },
        fieldUpdate.write .camel { isArray := some true, type := some .json },
        fieldUpdate.askedMembers looseUpdate { isArray := some true, type := some .json }],
      (fieldUpdate.read .body other).map (fieldUpdate.askedMembers other) =
        .valid (fieldUpdate.askedMembers looseUpdate
          { isArray := some true, type := some .json }) := by
  have read : fieldUpdate.read .body looseUpdate =
      .valid { isArray := some true, type := some .json } := by rfl
  exact ⟨read, survives_writing.2 fieldUpdate List.mem_cons_self .body looseUpdate _ read⟩

end Shape

end SchemaDesk
