import SchemaDesk.Proofs.Model.Whole
/-!
# Whole values from whole bodies

A JSON value is whole when its strings have no halves of characters; unlike a plain value it may
hold numbers that are not finite. What is read from a whole value has whole texts
(`Content.ReadsWhole`), whichever parts of the value are looked at.
-/

namespace SchemaDesk

namespace Json

mutual

/-- Whether every string of a value is whole, the names of members included. -/
def isWhole : Json → Bool
  | .string text => text.isWhole
  | .array items => allWhole items
  | .object members => allMembersWhole members
  | _ => true

/-- Whether all values of a list are whole. -/
def allWhole : List Json → Bool
  | [] => true
  | item :: rest => isWhole item && allWhole rest

/-- Whether the names of all members are whole and their values too. -/
def allMembersWhole : Members → Bool
  | [] => true
  | (key, value) :: rest => key.isWhole && isWhole value && allMembersWhole rest

end

/-- The items of a whole list are whole. -/
theorem isWhole_of_allWhole {items : List Json} (whole : allWhole items = true) :
    ∀ item ∈ items, item.isWhole = true := by
  induction items with
  | nil => exact nofun
  | cons item rest ih =>
    rw [allWhole, Bool.and_eq_true] at whole
    exact List.forall_mem_cons.mpr ⟨whole.1, ih whole.2⟩

/-- The members of a whole object are whole. -/
theorem isWhole_of_allMembersWhole {members : Members} (whole : allMembersWhole members = true) :
    ∀ member ∈ members, member.2.isWhole = true := by
  induction members with
  | nil => exact nofun
  | cons member rest ih =>
    rw [allMembersWhole, Bool.and_eq_true, Bool.and_eq_true] at whole
    exact List.forall_mem_cons.mpr ⟨whole.1.2, ih whole.2⟩

end Json

/-! ## Valid outcomes -/

namespace Checked

variable {α β : Type}

/-- An outcome that is valid under a step is valid. -/
theorem under_eq_valid {outcome : Checked α} {step : Step} {value : α}
    (valid : outcome.under step = .valid value) : outcome = .valid value := by
  cases outcome with
  | valid other => exact valid
  | invalid details => cases valid

/-- An outcome that is valid when mapped is valid. -/
theorem map_eq_valid {outcome : Checked α} {f : α → β} {value : β}
    (valid : outcome.map f = .valid value) : ∃ inner, outcome = .valid inner ∧ f inner = value := by
  cases outcome with
  | valid inner => exact ⟨inner, rfl, Checked.valid.inj valid⟩
  | invalid details => cases valid

/-- Two outcomes that are valid together are valid. -/
theorem both_eq_valid {left : Checked α} {right : Checked β} {value : α × β}
    (valid : both left right = .valid value) : left = .valid value.1 ∧ right = .valid value.2 := by
  cases left with
  | invalid details => cases valid
  | valid first =>
    cases right with
    | invalid details => cases valid
    | valid second =>
      obtain rfl := Checked.valid.inj valid
      exact ⟨rfl, rfl⟩

/-- A list is valid when each of its items is. -/
theorem mem_of_all_eq_valid {items : List (Checked α)} {values : List α}
    (valid : all items = .valid values) : ∀ value ∈ values, .valid value ∈ items := by
  induction items generalizing values with
  | nil =>
    obtain rfl := Checked.valid.inj valid
    exact nofun
  | cons item rest ih =>
    obtain ⟨pair, parts, rfl⟩ := map_eq_valid valid
    obtain ⟨first, others⟩ := both_eq_valid parts
    rw [List.forall_mem_cons]
    exact ⟨first ▸ List.mem_cons_self, fun value mem =>
      List.mem_cons_of_mem _ (ih others value mem)⟩

/-- A family is valid when the outcome of each attribute is. -/
theorem of_family_eq_valid {F : Attribute → Type} {outcome : (attr : Attribute) → Checked (F attr)}
    {values : (attr : Attribute) → F attr} (valid : family outcome = .valid values)
    (attr : Attribute) : outcome attr = .valid (values attr) := by
  rw [family] at valid
  split at valid
  next each =>
    obtain rfl := Checked.valid.inj valid
    cases given : outcome attr with
    | valid value => simp [given, value?]
    | invalid details =>
      have filled := each attr attr.mem_all
      rw [given] at filled
      cases filled
  next => cases valid

end Checked

/-! ## Contents -/

namespace Content

variable {α : Type} {content : Content α} {property : α → Prop}

/-- A content that reads whole JSON values as values with a property. -/
def ReadsWhole (content : Content α) (property : α → Prop) : Prop :=
  ∀ origin json value,
    json.isWhole = true → content.read origin json = .valid value → property value

/-- A text that is read from a whole value is whole. -/
theorem readsWhole_text : text.ReadsWhole fun text => text.isWhole = true := by
  intro origin json value whole read
  cases json with
  | string text =>
    obtain rfl := Checked.valid.inj read
    exact whole
  | _ => cases read

/-- Only texts can have halves of characters. -/
theorem readsWhole_attribute (attr : Attribute) :
    attr.content.ReadsWhole fun value => attr.kind.isWhole value = true := by
  have kind : ∀ kind : Attribute.Kind,
      (ofKind kind).ReadsWhole fun value => kind.isWhole value = true := by
    intro kind
    cases kind with
    | text => exact readsWhole_text
    | flag | scalar => exact fun _ _ _ _ _ => rfl
  exact kind attr.kind

/-- Where null is allowed, what is read has the property. -/
theorem ReadsWhole.nullable (reads : content.ReadsWhole property) :
    content.nullable.ReadsWhole fun given => ∀ value ∈ given, property value := by
  intro origin json given whole read value mem
  by_cases null : json = .null
  · subst null
    obtain rfl := Checked.valid.inj read
    cases mem
  · rw [read_nullable null] at read
    obtain ⟨inner, valid, rfl⟩ := Checked.map_eq_valid read
    obtain rfl := Option.some.inj mem
    exact reads origin json inner whole valid

/-- Of a list, every item that is read has the property. -/
theorem ReadsWhole.list (reads : content.ReadsWhole property) :
    content.list.ReadsWhole fun values => ∀ value ∈ values, property value := by
  intro origin json values whole read value mem
  cases json with
  | array items =>
    obtain ⟨index, bound, item⟩ := List.getElem_of_mem (Checked.mem_of_all_eq_valid read value mem)
    simp only [readItems, List.getElem_mapIdx] at item
    have within : index < items.length := by simpa [readItems] using bound
    have itemWhole := Json.isWhole_of_allWhole whole _ (List.getElem_mem within)
    exact reads origin _ value itemWhole (Checked.under_eq_valid item)
  | _ => cases read

end Content

/-! ## Parts and shapes -/

namespace Part

variable {α β : Type} {property : α → Prop}

/-- A part that reads members with whole values as values with a property. -/
def ReadsWhole (part : Part α) (property : α → Prop) : Prop :=
  ∀ origin members value, (∀ member ∈ members, member.2.isWhole = true) →
    part.read origin members = .valid value → property value

/-- What an object has for a member is one of its members. -/
theorem mem_of_find? {member : Member} {members : Members} {entry : Text × Json}
    (found : member.find? members = some entry) : entry ∈ members := by
  rcases Option.or_eq_some_iff.mp found with camel | ⟨-, snake⟩
  · exact List.mem_of_find?_eq_some camel
  · exact List.mem_of_find?_eq_some snake

/-- What a required part reads has the property of its content. -/
theorem readsWhole_required {content : Content α} (reads : content.ReadsWhole property)
    (member : Member) : (required member content).ReadsWhole property := by
  intro origin members value whole read
  simp only [required] at read
  split at read
  next key json found =>
    exact reads origin json value (whole _ (mem_of_find? found)) (Checked.under_eq_valid read)
  next => cases read

/-- What a part with a default reads has the property of its content when the default does. -/
theorem readsWhole_withDefault {content : Content α} (reads : content.ReadsWhole property)
    (member : Member) {default : α} (holds : property default) :
    (withDefault member default content).ReadsWhole property := by
  intro origin members value whole read
  simp only [withDefault] at read
  split at read
  next key json found =>
    exact reads origin json value (whole _ (mem_of_find? found)) (Checked.under_eq_valid read)
  next => exact Checked.valid.inj read ▸ holds

/-- What two parts read has the properties of both. -/
theorem ReadsWhole.both {left : Part α} {right : Part β} {other : β → Prop}
    (leftReads : left.ReadsWhole property) (rightReads : right.ReadsWhole other) :
    (left.both right).ReadsWhole fun pair => property pair.1 ∧ other pair.2 := by
  intro origin members pair whole read
  obtain ⟨first, second⟩ := Checked.both_eq_valid read
  exact ⟨leftReads origin members _ whole first, rightReads origin members _ whole second⟩

/-- What is packed has a property when packing gives it. -/
theorem ReadsWhole.iso {part : Part α} (reads : part.ReadsWhole property) {pack : α → β}
    {unpack : β → α} {packed : β → Prop} (keeps : ∀ value, property value → packed (pack value)) :
    (part.iso pack unpack).ReadsWhole packed := by
  intro origin members value whole read
  obtain ⟨inner, valid, rfl⟩ := Checked.map_eq_valid read
  exact keeps inner (reads origin members inner whole valid)

/-- A whole object is read by the part of a shape. -/
theorem ReadsWhole.shape {shape : Shape α} (reads : shape.part.ReadsWhole property) :
    shape.content.ReadsWhole property := by
  intro origin json value whole read
  cases json with
  | object members =>
    exact reads origin members value (Json.isWhole_of_allMembersWhole whole) read
  | _ => cases read

end Part

namespace Shape

/-- Changes that are read from whole members are whole. -/
theorem readsWhole_changes : changesPart.ReadsWhole Changes.IsWhole := by
  intro origin members changes whole read
  obtain ⟨values, valid, rfl⟩ := Checked.map_eq_valid read
  intro attr value given
  rw [Changes.value?_ofValues?] at given
  have reads : (Part.withDefault attr.member none attr.content.nullable).ReadsWhole _ :=
    Part.readsWhole_withDefault (Content.readsWhole_attribute attr).nullable _ nofun
  exact reads origin members (values attr) whole (Checked.of_family_eq_valid valid attr) value given

/-- A whole request to add a field gives whole changes. -/
theorem readsWhole_fieldCreate : fieldCreate.content.ReadsWhole Changes.IsWhole :=
  readsWhole_changes.shape

/-- A whole request to change a field gives whole changes. -/
theorem readsWhole_fieldUpdate : fieldUpdate.content.ReadsWhole Changes.IsWhole :=
  readsWhole_changes.shape

/-- A whole request to rename a model gives a whole name. -/
theorem readsWhole_modelRename :
    modelRename.content.ReadsWhole fun request => request.name.isWhole = true :=
  ((Part.readsWhole_required Content.readsWhole_text _).iso fun _ whole => whole).shape

/-- A whole request for a new model gives a whole name and whole fields. -/
theorem readsWhole_modelCreate : modelCreate.content.ReadsWhole fun request =>
    request.name.isWhole = true ∧
      ∀ list ∈ request.fields, ∀ changes ∈ list, changes.IsWhole :=
  (((Part.readsWhole_withDefault Content.readsWhole_text _ rfl).both
    (Part.readsWhole_withDefault readsWhole_fieldCreate.list.nullable _
      fun _ mem => absurd mem (Option.not_mem_none _))).iso
      fun _ whole => whole).shape

/-- A whole request for a block gives a whole name and whole fields. -/
theorem readsWhole_renderRequest : renderRequest.content.ReadsWhole fun request =>
    request.name.isWhole = true ∧ ∀ changes ∈ request.fields, changes.IsWhole :=
  (((Part.readsWhole_withDefault Content.readsWhole_text _ rfl).both
    (Part.readsWhole_withDefault readsWhole_fieldCreate.list _
      fun _ mem => absurd mem List.not_mem_nil)).iso
      fun _ whole => whole).shape

end Shape

end SchemaDesk
