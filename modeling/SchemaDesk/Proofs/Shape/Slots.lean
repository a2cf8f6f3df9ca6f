import Mathlib.Data.List.Pairwise
import SchemaDesk.Proofs.Shape.Faithful
/-!
# The slots of a shape

A value is checked as a leaf, as an object with a shape, as either of them or `null`, or as a list
(`Form`). An object with a shape has slots: a slot is filled by the member that counts for it, and
the value of this member is checked on its own (`Slot.outcome`). A part is slotted when what it
tells about an object is put together from the outcomes of slots, and from nothing else
(`Part.Slotted`). Each way to put parts together keeps this law, so every shape of the domain has
its slots (`Shape.Name.slotted`).
-/

namespace SchemaDesk

/-! ## What an outcome tells -/

/-- What a detail tells without the value found: the fault and its place. -/
def Detail.report (detail : Detail) : Fault × List Step := (detail.fault, detail.place)

/-- What details of a value tell, seen from a value that has the value at a place. -/
def Detail.placed (place : List Step) (reports : List (Fault × List Step)) :
    List (Fault × List Step) :=
  reports.map fun report => (report.1, place ++ report.2)

/-- Reports at no place stay. -/
theorem Detail.placed_nil (reports : List (Fault × List Step)) : placed [] reports = reports :=
  List.map_id reports

/-- Reports are placed one by one. -/
theorem Detail.placed_append (place : List Step) (early late : List (Fault × List Step)) :
    placed place (early ++ late) = placed place early ++ placed place late :=
  List.map_append

/-- Reports are placed step by step. -/
theorem Detail.placed_placed (step : Step) (place : List Step)
    (reports : List (Fault × List Step)) :
    placed [step] (placed place reports) = placed (step :: place) reports := by
  rw [placed, placed, List.map_map]
  rfl

/-- What is told of parts beside the one at a step: every place begins with another step. -/
def Detail.Beside (step : Step) (reports : List (Fault × List Step)) : Prop :=
  ∀ report ∈ reports, ∃ other place, report.2 = other :: place ∧ other ≠ step

namespace Checked

variable {α β : Type}

/-- What the details of an outcome tell without the values found. -/
def told (outcome : Checked α) : List (Fault × List Step) := outcome.details.map Detail.report

/-- What an outcome tells: the value, if it is valid, and what the details tell. -/
def report (outcome : Checked α) : Option α × List (Fault × List Step) :=
  (outcome.value?, outcome.told)

/-- An outcome has a value when it is valid. -/
theorem isSome_value?_iff {outcome : Checked α} :
    outcome.value?.isSome = true ↔ ∃ value, outcome = .valid value := by
  cases outcome with
  | valid value => exact iff_of_true rfl ⟨value, rfl⟩
  | invalid details => exact iff_of_false Bool.noConfusion nofun

/-- A valid outcome has no details. -/
theorem details_eq_nil_of_isSome {outcome : Checked α} (valid : outcome.value?.isSome = true) :
    outcome.details = [] := by
  obtain ⟨value, rfl⟩ := isSome_value?_iff.mp valid
  rfl

/-- The value of an outcome is mapped. -/
@[simp]
theorem value?_map (outcome : Checked α) (f : α → β) :
    (outcome.map f).value? = outcome.value?.map f := by
  cases outcome <;> rfl

/-- Mapping does not change the details. -/
@[simp]
theorem details_map (outcome : Checked α) (f : α → β) :
    (outcome.map f).details = outcome.details := by
  cases outcome <;> rfl

/-- A step does not change the value. -/
@[simp]
theorem value?_under (outcome : Checked α) (step : Step) :
    (outcome.under step).value? = outcome.value? := by
  cases outcome <;> rfl

/-- Every detail is put under a step. -/
@[simp]
theorem details_under (outcome : Checked α) (step : Step) :
    (outcome.under step).details = outcome.details.map (Detail.under step) := by
  cases outcome <;> rfl

/-- What is told is placed under a step. -/
theorem told_under (outcome : Checked α) (step : Step) :
    (outcome.under step).told = Detail.placed [step] outcome.told := by
  rw [told, details_under, told, Detail.placed, List.map_map, List.map_map]
  rfl

/-- Mapping does not change what is told. -/
theorem told_map (outcome : Checked α) (f : α → β) : (outcome.map f).told = outcome.told := by
  rw [told, details_map, told]

/-- Two outcomes have a value when both have one. -/
theorem value?_both (left : Checked α) (right : Checked β) :
    (both left right).value? =
      left.value?.bind fun first => right.value?.map fun second => (first, second) := by
  cases left <;> cases right <;> rfl

/-- Two outcomes are valid when both are. -/
theorem isSome_value?_both {left : Checked α} {right : Checked β} :
    (both left right).value?.isSome = true ↔
      left.value?.isSome = true ∧ right.value?.isSome = true := by
  cases left <;> cases right <;> simp [both, value?]

/-- Two outcomes have the details of both. -/
@[simp]
theorem details_both (left : Checked α) (right : Checked β) :
    (both left right).details = left.details ++ right.details := by
  cases left with
  | valid first =>
    cases right with
    | valid second => rfl
    | invalid details => rfl
  | invalid details => cases right <;> rfl

/-- A list is valid exactly when all its items are. -/
theorem isSome_value?_all {items : List (Checked α)} :
    (all items).value?.isSome = true ↔ ∀ item ∈ items, item.value?.isSome = true := by
  induction items with
  | nil => exact iff_of_true rfl nofun
  | cons item rest ih =>
    rw [all, value?_map, Option.isSome_map, isSome_value?_both, ih, List.forall_mem_cons]

/-- Several outcomes have the details of all. -/
theorem details_all (items : List (Checked α)) : (all items).details = items.flatMap details := by
  induction items with
  | nil => rfl
  | cons item rest ih => rw [all, details_map, details_both, ih, List.flatMap_cons]

/-- The values of a list are those of its items. -/
theorem value?_all_congr {items others : List (Checked α)}
    (same : items.map value? = others.map value?) : (all items).value? = (all others).value? := by
  induction items generalizing others with
  | nil =>
    obtain rfl : others = [] := List.map_eq_nil_iff.mp same.symm
    rfl
  | cons item rest ih =>
    cases others with
    | nil => cases same
    | cons other more =>
      obtain ⟨first, later⟩ := List.cons_eq_cons.mp same
      rw [all, all, value?_map, value?_map, value?_both, value?_both, ih later]
      rw [first]

/-- A family is valid exactly when the outcome for every attribute is. -/
theorem isSome_value?_family {F : Attribute → Type}
    {outcome : (attr : Attribute) → Checked (F attr)} :
    (family outcome).value?.isSome = true ↔ ∀ attr, (outcome attr).value?.isSome = true := by
  rw [family]
  split
  · next valid => exact iff_of_true rfl fun attr => valid attr attr.mem_all
  · next invalid =>
    exact iff_of_false Bool.noConfusion fun valid => invalid fun attr _ => valid attr

/-- A family of outcomes has the details of all. -/
theorem details_family {F : Attribute → Type} (outcome : (attr : Attribute) → Checked (F attr)) :
    (family outcome).details = Attribute.all.flatMap fun attr => (outcome attr).details := by
  rw [family]
  split
  · next valid =>
    have silent : Attribute.all.flatMap (fun attr => (outcome attr).details) = [] :=
      List.flatMap_eq_nil_iff.mpr fun attr mem => details_eq_nil_of_isSome (valid attr mem)
    exact silent.symm
  · rfl

/-- The values of a family are those of its outcomes. -/
theorem value?_family_congr {F : Attribute → Type}
    {outcome other : (attr : Attribute) → Checked (F attr)}
    (same : ∀ attr, (outcome attr).value? = (other attr).value?) :
    (family outcome).value? = (family other).value? := by
  by_cases valid : ∀ attr, (outcome attr).value?.isSome = true
  · have values (attr : Attribute) : ∃ value, outcome attr = .valid value ∧
        other attr = .valid value := by
      obtain ⟨value, here⟩ := isSome_value?_iff.mp (valid attr)
      have there : (other attr).value?.isSome = true := same attr ▸ valid attr
      obtain ⟨found, there⟩ := isSome_value?_iff.mp there
      have equal := same attr
      rw [here, there] at equal
      obtain rfl : value = found := Option.some.inj equal
      exact ⟨value, here, there⟩
    choose value here there using values
    rw [family_valid here, family_valid there]
  · have refused {F : Attribute → Type} {outcome : (attr : Attribute) → Checked (F attr)}
        (invalid : ¬ ∀ attr, (outcome attr).value?.isSome = true) :
        (family outcome).value? = none := by
      rw [← isSome_value?_family] at invalid
      exact Option.not_isSome_iff_eq_none.mp invalid
    have invalid : ¬ ∀ attr, (other attr).value?.isSome = true := by
      intro all
      exact valid fun attr => same attr ▸ all attr
    rw [refused valid, refused invalid]

end Checked

/-! ## Forms and slots -/

namespace Shape

/-- What a value is checked as. -/
inductive Form where
  /-- A value of an attribute. -/
  | leaf (kind : Attribute.Kind)
  /-- An object with a shape. -/
  | object (name : Name)
  /-- A value of another form, or `null`. -/
  | nullable (form : Form)
  /-- A list of values of another form. -/
  | list (form : Form)
deriving DecidableEq, Repr

namespace Form

/-- The values of a form. -/
@[reducible] def Value : Form → Type
  | leaf kind => kind.Value
  | object name => name.Value
  | nullable form => Option form.Value
  | list form => List form.Value

/-- The content of a form. -/
def content : (form : Form) → Content form.Value
  | leaf kind => .ofKind kind
  | object name => name.shape.content
  | nullable form => form.content.nullable
  | list form => form.content.list

/-- The outcome of checking a value as a form, on its own. -/
def read (form : Form) (origin : Origin) (json : Json) : Checked form.Value :=
  form.content.read origin json

end Form

/-- A slot of an object: the member that fills it, whether an object has to have the member, and
what the value of the member is checked as. -/
structure Slot where
  /-- The member. -/
  member : Member
  /-- Whether the member has to be there. -/
  required : Bool
  /-- The form of its value. -/
  form : Form
deriving DecidableEq, Repr

/-- The outcome of a slot on its own: the value of the member that fills it, checked alone and seen
from the object, or none. Only a required slot has to be filled. -/
def Slot.outcome (slot : Slot) (origin : Origin) (members : Members) :
    Checked (Option slot.form.Value) :=
  match slot.member.find? members with
  | some (key, json) => ((slot.form.read origin json).map some).under (.key key)
  | none =>
    if slot.required then .invalid [⟨.missing, [.key slot.member.camel], .object members⟩]
    else .valid none

/-- The slots of a shape in order. -/
def Name.slots : Name → List Slot
  | field => ⟨.plain "id", true, .leaf .text⟩ ::
      Attribute.all.map fun attr => ⟨attr.member, false, .leaf attr.kind⟩
  | model => [⟨.plain "name", false, .leaf .text⟩, ⟨.plain "fields", false, .list (.object field)⟩]
  | fieldUpdate | fieldCreate =>
      Attribute.all.map fun attr => ⟨attr.member, false, .nullable (.leaf attr.kind)⟩
  | modelCreate => [⟨.plain "name", false, .leaf .text⟩,
      ⟨.plain "fields", false, .nullable (.list (.object fieldCreate))⟩]
  | modelRename => [⟨.plain "name", true, .leaf .text⟩]
  | renderRequest => [⟨.plain "name", false, .leaf .text⟩,
      ⟨.plain "fields", false, .list (.object fieldCreate)⟩]
  | schemaText => [⟨.plain "name", true, .leaf .text⟩,
      ⟨⟨"schema_text", "schemaText"⟩, true, .leaf .text⟩]
  | session => [⟨⟨"session_id", "sessionId"⟩, true, .leaf .text⟩,
      ⟨.plain "model", true, .object model⟩]

namespace Slot

variable {slot : Slot} {origin : Origin} {members others : Members} {key : Text} {json : Json}

/-- The outcome of a slot that is filled is that of what fills it. -/
theorem outcome_of_filled (filled : slot.member.find? members = some (key, json)) :
    slot.outcome origin members =
      ((slot.form.read origin json).map some).under (.key key) := by
  rw [outcome, filled]

/-- What a slot tells is what the value of its member tells, seen from the object. -/
theorem told_of_filled (filled : slot.member.find? members = some (key, json)) :
    (slot.outcome origin members).told =
      Detail.placed [.key key] (slot.form.read origin json).told := by
  rw [outcome_of_filled filled, Checked.told_under, Checked.told_map]

/-- A slot that is empty is only refused when it is required. -/
theorem outcome_of_empty (empty : slot.member.find? members = none) :
    slot.outcome origin members =
      if slot.required then .invalid [⟨.missing, [.key slot.member.camel], .object members⟩]
      else .valid none := by
  rw [outcome, empty]

/-- A slot is met when the value of its member is valid, or when it is not required and empty. -/
theorem isSome_outcome_iff : (slot.outcome origin members).value?.isSome = true ↔
    (∀ key json, slot.member.find? members = some (key, json) →
      ∃ value, slot.form.read origin json = .valid value) ∧
    (slot.member.find? members = none → slot.required = false) := by
  cases found : slot.member.find? members with
  | none =>
    rw [outcome_of_empty found]
    cases required : slot.required <;> simp [Checked.value?]
  | some entry =>
    obtain ⟨key, json⟩ := entry
    rw [outcome_of_filled found, Checked.value?_under, Checked.value?_map, Option.isSome_map,
      Checked.isSome_value?_iff]
    simp

/-- The outcome of a slot tells the same of two objects that have the same for its member. -/
theorem report_outcome_congr (same : slot.member.find? members = slot.member.find? others) :
    (slot.outcome origin members).report = (slot.outcome origin others).report := by
  cases found : slot.member.find? others with
  | none =>
    rw [outcome_of_empty found, outcome_of_empty (same.trans found)]
    cases slot.required <;> rfl
  | some entry => rw [outcome_of_filled found, outcome_of_filled (same.trans found)]

end Slot

end Shape

/-! ## Slotted parts -/

namespace Part

open Shape (Form Slot)

variable {α β : Type}

/-- A part that asks for the members of slots, and whose outcome is put together from the outcomes
of these slots. -/
structure Slotted (part : Part α) (slots : List Slot) : Prop where
  members : part.members = slots.map (·.member)
  isSome : ∀ origin members, (part.read origin members).value?.isSome = true ↔
    ∀ slot ∈ slots, (slot.outcome origin members).value?.isSome = true
  details : ∀ origin members, (part.read origin members).details =
    slots.flatMap fun slot => (slot.outcome origin members).details
  value? : ∀ origin members others,
    (∀ slot ∈ slots, (slot.outcome origin members).value? = (slot.outcome origin others).value?) →
      (part.read origin members).value? = (part.read origin others).value?

/-- The value of a required member is the one that fills its slot. -/
theorem value?_required (member : Member) (form : Form) (origin : Origin) (members : Members) :
    ((required member form.content).read origin members).value? =
      ((⟨member, true, form⟩ : Slot).outcome origin members).value?.join := by
  simp only [required, Slot.outcome]
  cases member.find? members with
  | none => rfl
  | some entry =>
    simp only [Checked.value?_under, Checked.value?_map, Form.read]
    cases (form.content.read origin entry.2).value? <;> rfl

/-- A required part has one slot that has to be filled. -/
theorem slotted_required (member : Member) (form : Form) :
    (required member form.content).Slotted [⟨member, true, form⟩] where
  members := rfl
  isSome origin members := by
    rw [List.forall_mem_singleton]
    simp only [required, Slot.outcome]
    cases member.find? members with
    | none => rfl
    | some entry =>
      rw [Checked.value?_under, Checked.value?_under, Checked.value?_map, Option.isSome_map]
      rfl
  details origin members := by
    rw [List.flatMap_singleton]
    simp only [required, Slot.outcome]
    cases member.find? members with
    | none => rfl
    | some entry =>
      rw [Checked.details_under, Checked.details_under, Checked.details_map]
      rfl
  value? origin members others same := by
    rw [value?_required, value?_required, same _ List.mem_cons_self]

/-- The value of a member with a default is the one that fills its slot, or the default. -/
theorem value?_withDefault (member : Member) (form : Form) (default : form.Value) (origin : Origin)
    (members : Members) :
    ((withDefault member default form.content).read origin members).value? =
      ((⟨member, false, form⟩ : Slot).outcome origin members).value?.map (·.getD default) := by
  simp only [withDefault, Slot.outcome]
  cases member.find? members with
  | none => rfl
  | some entry =>
    simp only [Checked.value?_under, Checked.value?_map, Form.read]
    cases (form.content.read origin entry.2).value? <;> rfl

/-- A part with a default has one slot that may be empty. -/
theorem slotted_withDefault (member : Member) (form : Form) (default : form.Value) :
    (withDefault member default form.content).Slotted [⟨member, false, form⟩] where
  members := rfl
  isSome origin members := by
    rw [List.forall_mem_singleton, value?_withDefault, Option.isSome_map]
  details origin members := by
    rw [List.flatMap_singleton]
    simp only [withDefault, Slot.outcome]
    cases member.find? members with
    | none => rfl
    | some entry =>
      rw [Checked.details_under, Checked.details_under, Checked.details_map]
      rfl
  value? origin members others same := by
    rw [value?_withDefault, value?_withDefault, same _ List.mem_cons_self]

/-- Two parts have the slots of both. -/
theorem Slotted.both {left : Part α} {right : Part β} {slots more : List Slot}
    (first : left.Slotted slots) (second : right.Slotted more) :
    (left.both right).Slotted (slots ++ more) where
  members := by
    rw [List.map_append, ← first.members, ← second.members]
    rfl
  isSome origin members := by
    rw [List.forall_mem_append, ← first.isSome, ← second.isSome, ← Checked.isSome_value?_both]
    rfl
  details origin members := by
    rw [List.flatMap_append, ← first.details, ← second.details, ← Checked.details_both]
    rfl
  value? origin members others same := by
    obtain ⟨here, there⟩ := List.forall_mem_append.mp same
    have left := first.value? origin members others here
    have right := second.value? origin members others there
    simp only [Part.both, Checked.value?_both, left, right]

/-- A family of parts has a slot for every attribute. -/
theorem slotted_family {F : Attribute → Type} {part : (attr : Attribute) → Part (F attr)}
    {slot : Attribute → Slot} (each : ∀ attr, (part attr).Slotted [slot attr]) :
    (family part).Slotted (Attribute.all.map slot) where
  members := by
    have names (attr : Attribute) : (part attr).members = [(slot attr).member] :=
      (each attr).members
    simp only [family, names, List.map_eq_flatMap]
    rfl
  isSome origin members := by
    have one (attr : Attribute) : ((part attr).read origin members).value?.isSome = true ↔
        ((slot attr).outcome origin members).value?.isSome = true := by
      rw [(each attr).isSome, List.forall_mem_singleton]
    rw [List.forall_mem_map]
    simp only [family, Checked.isSome_value?_family, one]
    exact ⟨fun all attr _ => all attr, fun all attr => all attr attr.mem_all⟩
  details origin members := by
    have one (attr : Attribute) : ((part attr).read origin members).details =
        ((slot attr).outcome origin members).details := by
      rw [(each attr).details, List.flatMap_singleton]
    simp only [family, Checked.details_family, one, List.flatMap_map]
  value? origin members others same := by
    rw [List.forall_mem_map] at same
    refine Checked.value?_family_congr fun attr => ?_
    refine (each attr).value? origin members others ?_
    rw [List.forall_mem_singleton]
    exact same attr attr.mem_all

/-- A part that is packed has the same slots. -/
theorem Slotted.iso {part : Part α} {slots : List Slot} (slotted : part.Slotted slots)
    (pack : α → β) (unpack : β → α) : (part.iso pack unpack).Slotted slots where
  members := slotted.members
  isSome origin members := by
    rw [← slotted.isSome, Part.iso, Checked.value?_map, Option.isSome_map]
  details origin members := by
    rw [← slotted.details, Part.iso, Checked.details_map]
  value? origin members others same := by
    have inner := slotted.value? origin members others same
    simp only [Part.iso, Checked.value?_map, inner]

end Part

namespace Shape

open SchemaDesk.Part

/-- Every shape of the domain has its slots. -/
theorem Name.slotted (name : Name) : name.shape.part.Slotted name.slots := by
  have id := slotted_required (.plain "id") (.leaf .text)
  have name? := slotted_withDefault (.plain "name") (.leaf .text) []
  have named := slotted_required (.plain "name") (.leaf .text)
  have changes : changesPart.Slotted (Name.slots .fieldUpdate) :=
    (slotted_family fun attr =>
      slotted_withDefault attr.member (.nullable (.leaf attr.kind)) none).iso _ _
  cases name with
  | field =>
    exact (id.both (slotted_family fun attr =>
      slotted_withDefault attr.member (.leaf attr.kind) attr.kind.default)).iso _ _
  | model =>
    exact (name?.both (slotted_withDefault (.plain "fields") (.list (.object .field)) [])).iso _ _
  | fieldUpdate => exact changes
  | fieldCreate => exact changes
  | modelCreate =>
    exact (name?.both (slotted_withDefault (.plain "fields")
      (.nullable (.list (.object .fieldCreate))) none)).iso _ _
  | modelRename => exact named.iso _ _
  | renderRequest =>
    exact (name?.both
      (slotted_withDefault (.plain "fields") (.list (.object .fieldCreate)) [])).iso _ _
  | schemaText =>
    exact (named.both (slotted_required ⟨"schema_text", "schemaText"⟩ (.leaf .text))).iso _ _
  | session =>
    exact ((slotted_required ⟨"session_id", "sessionId"⟩ (.leaf .text)).both
      (slotted_required (.plain "model") (.object .model))).iso _ _

/-! ## Keys and places -/

end Shape

namespace Member

variable {member other : Member} {key : Text} {json : Json} {members : Members}

/-- A key is the name of a member in one of its spellings. -/
def Spells (member : Member) (key : Text) : Prop :=
  key = Text.ofString member.camel ∨ key = Text.ofString member.snake

/-- A key is compared with both spellings. -/
instance (member : Member) (key : Text) : Decidable (member.Spells key) :=
  inferInstanceAs (Decidable (_ ∨ _))

/-- What an object has for a member stands under a key that spells the member. -/
theorem spells_of_find? (found : member.find? members = some (key, json)) : member.Spells key := by
  rcases Option.or_eq_some_iff.mp found with camel | ⟨-, snake⟩
  · have same := List.find?_some camel
    exact .inl (of_decide_eq_true same)
  · have same := List.find?_some snake
    exact .inr (of_decide_eq_true same)

/-- Members are apart from each other. -/
theorem Apart.symm (apart : member.Apart other) : other.Apart member := by
  obtain ⟨snakes, snakeCamel, camelSnake, camels⟩ := apart
  exact ⟨snakes.symm, camelSnake.symm, snakeCamel.symm, camels.symm⟩

/-- No key spells two members that cannot be taken for each other. -/
theorem Apart.not_spells (apart : member.Apart other) (spells : member.Spells key) :
    ¬ other.Spells key := by
  obtain ⟨snakes, snakeCamel, camelSnake, camels⟩ := apart
  rcases spells with rfl | rfl
  · rintro (same | same)
    · exact camels (Text.ofString_inj.mp same)
    · exact camelSnake (Text.ofString_inj.mp same)
  · rintro (same | same)
    · exact snakeCamel (Text.ofString_inj.mp same)
    · exact snakes (Text.ofString_inj.mp same)

end Member

namespace Shape

/-- No two slots of a shape can be taken for each other. -/
theorem Name.pairwise_slots (name : Name) :
    name.slots.Pairwise fun left right => left.member.Apart right.member := by
  have apart := name.apart
  rw [name.slotted.members] at apart
  exact List.pairwise_map.mp apart

/-- Different slots of a shape have members that are apart. -/
theorem Name.apart_slots (name : Name) {slot other : Slot} (mem : slot ∈ name.slots)
    (otherMem : other ∈ name.slots) (different : slot ≠ other) :
    slot.member.Apart other.member := by
  have symmetric : Std.Symm fun left right : Slot => left.member.Apart right.member :=
    ⟨fun _ _ apart => apart.symm⟩
  exact name.pairwise_slots.forall mem otherMem different

/-- At a place of a value that is checked as a form, a value is checked as a part of this form.
Where `null` is taken too, the whole value is one part; its own parts are those of the form without
`null`. -/
inductive Within : Form → Json → List Step → Form → Json → Prop
  /-- The whole value. -/
  | whole {form : Form} {json : Json} : Within form json [] form json
  /-- A part of a value that might have been `null`. -/
  | given {form part : Form} {json value : Json} {step : Step} {place : List Step}
      (within : Within form json (step :: place) part value) :
      Within (.nullable form) json (step :: place) part value
  /-- A part of an item of a list. -/
  | item {form part : Form} {items : List Json} {index : Nat} {item value : Json}
      {place : List Step} (found : items[index]? = some item)
      (within : Within form item place part value) :
      Within (.list form) (.array items) (.index index :: place) part value
  /-- A part of the value that fills a slot of an object. -/
  | member {name : Name} {slot : Slot} {part : Form} {members : Members} {key : Text}
      {json value : Json} {place : List Step} (mem : slot ∈ name.slots)
      (filled : slot.member.find? members = some (key, json))
      (within : Within slot.form json place part value) :
      Within (.object name) (.object members) (.key key :: place) part value

end Shape

end SchemaDesk
