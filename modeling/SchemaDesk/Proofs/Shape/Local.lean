import SchemaDesk.Proofs.Shape.Slots
/-!
# Checks are local

The outcome of an object is put together from the outcomes of its slots, and the outcome of a list
from those of its items: the whole is valid exactly when all parts are, and else its details are
those of the parts one after another, each with its place seen from the whole. So another value at
the place of a part changes the details of this part only (`Shape.Within.told_replaceAt`). All of
this holds at every depth of every shape of the domain (`Shape.checks_are_local`).
-/

namespace SchemaDesk

/-! ## Other values at a place -/

namespace Json

/-- The members with a function applied to what stands under a key. -/
def amend (key : Text) (change : Json → Json) (members : Members) : Members :=
  members.map fun member => if member.1 = key then (key, change member.2) else member

/-- A value with another value at a place. A place that the value does not have changes nothing. -/
def replaceAt : Json → List Step → Json → Json
  | _, [], new => new
  | .object members, .key key :: place, new =>
    .object (amend key (fun json => json.replaceAt place new) members)
  | .array items, .index index :: place, new =>
    .array (items.modify index fun json => json.replaceAt place new)
  | json, _ :: _, _ => json

/-- Another value inside a value does not make it `null`. -/
theorem replaceAt_ne_null {json : Json} (shown : json ≠ .null) (step : Step) (place : List Step)
    (new : Json) : json.replaceAt (step :: place) new ≠ .null := by
  cases json with
  | null => exact absurd rfl shown
  | bool | number | string | array | object => cases step <;> exact nofun

end Json

namespace Member

variable {member : Member} {key : Text} {json : Json} {change : Json → Json} {members : Members}

/-- Changing what stands under a key changes what is found under it, and nothing else. -/
theorem find?_amend (member : Member) (key : Text) (change : Json → Json) (members : Members) :
    member.find? (Json.amend key change members) =
      (member.find? members).map fun entry =>
        if entry.1 = key then (key, change entry.2) else entry := by
  have kept (name : Text) : (fun entry : Text × Json => decide (entry.1 = name)) ∘
      (fun entry => if entry.1 = key then (key, change entry.2) else entry) =
        fun entry => decide (entry.1 = name) := by
    funext entry
    by_cases same : entry.1 = key <;> simp [same]
  simp only [find?, Json.amend, List.find?_map, kept, Option.map_or]

/-- A change of the member that is read is read. -/
theorem find?_amend_of_filled (filled : member.find? members = some (key, json)) :
    member.find? (Json.amend key change members) = some (key, change json) := by
  rw [find?_amend, filled, Option.map_some, if_pos rfl]

/-- A change of another member does not matter. -/
theorem find?_amend_of_not_spells (unspelled : ¬ member.Spells key) :
    member.find? (Json.amend key change members) = member.find? members := by
  rw [find?_amend]
  cases found : member.find? members with
  | none => rfl
  | some entry =>
    have other : entry.1 ≠ key := fun same => unspelled (same ▸ spells_of_find? found)
    rw [Option.map_some, if_neg other]

end Member

namespace Shape

open Detail (placed)

/-! ## Objects -/

/-- The details of a slot: those that the value of its member has alone, seen from the object under
the key that is used, or that a required member is missing. -/
def Slot.details (slot : Slot) (origin : Origin) (members : Members) : List Detail :=
  match slot.member.find? members with
  | some (key, json) => (slot.form.read origin json).details.map (Detail.under (.key key))
  | none =>
    if slot.required then [⟨.missing, [.key slot.member.camel], .object members⟩] else []

/-- The details of a slot are those of its outcome. -/
theorem details_outcome (slot : Slot) (origin : Origin) (members : Members) :
    (slot.outcome origin members).details = slot.details origin members := by
  rw [Slot.details]
  cases found : slot.member.find? members with
  | none =>
    rw [Slot.outcome_of_empty found]
    cases slot.required <;> rfl
  | some entry =>
    rw [Slot.outcome_of_filled found, Checked.details_under, Checked.details_map]

/-- An object is valid exactly when every value that fills a slot is valid alone and no required
member is missing. -/
theorem valid_object_iff {name : Name} {origin : Origin} {members : Members} :
    (∃ value, name.shape.read origin (.object members) = .valid value) ↔
      ∀ slot ∈ name.slots,
        (∀ key json, slot.member.find? members = some (key, json) →
          ∃ value, slot.form.read origin json = .valid value) ∧
        (slot.member.find? members = none → slot.required = false) := by
  have read : name.shape.read origin (.object members) =
      name.shape.part.read origin members := rfl
  rw [read, ← Checked.isSome_value?_iff, name.slotted.isSome]
  exact forall₂_congr fun slot _ => Slot.isSome_outcome_iff

/-- The details of an object are those of its slots, one after another. -/
theorem details_object (name : Name) (origin : Origin) (members : Members) :
    (name.shape.read origin (.object members)).details =
      name.slots.flatMap fun slot => slot.details origin members := by
  have details := name.slotted.details origin members
  simp only [details_outcome] at details
  exact details

/-- What an object tells is what its slots tell, one after another. -/
theorem told_object (name : Name) (origin : Origin) (members : Members) :
    ((Form.object name).read origin (.object members)).told =
      name.slots.flatMap fun slot => (slot.outcome origin members).told := by
  have details : ((Form.object name).read origin (.object members)).details =
      name.slots.flatMap fun slot => slot.details origin members :=
    details_object name origin members
  rw [Checked.told, details, List.map_flatMap]
  simp only [← details_outcome]
  rfl

/-- What a slot tells stands under a key that spells its member. -/
theorem Slot.key_of_told {slot : Slot} {origin : Origin} {members : Members}
    {report : Fault × List Step} (told : report ∈ (slot.outcome origin members).told) :
    ∃ key place, report.2 = .key key :: place ∧ slot.member.Spells key := by
  cases found : slot.member.find? members with
  | none =>
    rw [outcome_of_empty found] at told
    cases required : slot.required with
    | false =>
      rw [required] at told
      cases told
    | true =>
      rw [required] at told
      obtain rfl := List.mem_singleton.mp told
      exact ⟨slot.member.camel, [], rfl, .inl rfl⟩
  | some entry =>
    obtain ⟨key, json⟩ := entry
    rw [told_of_filled found] at told
    obtain ⟨inner, -, rfl⟩ := List.mem_map.mp told
    exact ⟨key, inner.2, rfl, Member.spells_of_find? found⟩

/-- What objects tell that have the same for all members but one differs in what the slot of this
member tells. -/
theorem told_object_split {name : Name} {slot : Slot} (mem : slot ∈ name.slots) (origin : Origin)
    (members : Members) : ∃ before after,
      (∀ key, slot.member.Spells key → Detail.Beside (.key key) (before ++ after)) ∧
      ∀ others, (∀ other : Slot, slot.member.Apart other.member →
        other.member.find? others = other.member.find? members) →
      ((Form.object name).read origin (.object others)).told =
        before ++ (slot.outcome origin others).told ++ after := by
  obtain ⟨left, right, split⟩ := List.append_of_mem mem
  have apart := name.pairwise_slots
  rw [split, List.pairwise_append, List.pairwise_cons] at apart
  obtain ⟨-, ⟨later, -⟩, earlier⟩ := apart
  have distinct : ∀ other ∈ left ++ right, slot.member.Apart other.member := by
    intro other otherMem
    rcases List.mem_append.mp otherMem with otherMem | otherMem
    · exact (earlier other otherMem slot List.mem_cons_self).symm
    · exact later other otherMem
  let told (slots : List Slot) : List (Fault × List Step) :=
    slots.flatMap fun slot => (slot.outcome origin members).told
  refine ⟨told left, told right, fun key spells report mem => ?_, fun others same => ?_⟩
  · obtain ⟨other, otherMem, here⟩ := List.mem_flatMap.mp (List.flatMap_append ▸ mem)
    obtain ⟨used, place, shown, otherSpells⟩ := Slot.key_of_told here
    refine ⟨.key used, place, shown, fun equal => ?_⟩
    obtain rfl := Step.key.inj equal
    exact (distinct other otherMem).not_spells spells otherSpells
  · have unchanged (slots : List Slot) (within : ∀ other ∈ slots, other ∈ left ++ right) :
        slots.flatMap (fun slot => (slot.outcome origin others).told) = told slots :=
      List.flatMap_congr fun other otherMem => congrArg Prod.snd
        (Slot.report_outcome_congr (same other (distinct other (within other otherMem))))
    rw [told_object, split, List.flatMap_append, List.flatMap_cons,
      unchanged left fun _ => List.mem_append_left right,
      unchanged right fun _ => List.mem_append_right left, List.append_assoc]

/-! ## Lists -/

/-- A list is checked item by item. -/
theorem read_array (form : Form) (origin : Origin) (items : List Json) :
    (Form.list form).read origin (.array items) =
      Checked.all (items.mapIdx fun index item =>
        (form.read origin item).under (.index index)) := rfl

/-- A list is valid exactly when each of its items is valid alone. -/
theorem valid_list_iff {form : Form} {origin : Origin} {items : List Json} :
    (∃ values, (Form.list form).read origin (.array items) = .valid values) ↔
      ∀ item ∈ items, ∃ value, form.read origin item = .valid value := by
  simp only [← Checked.isSome_value?_iff]
  rw [read_array, Checked.isSome_value?_all]
  constructor
  · intro valid item mem
    obtain ⟨index, bound, rfl⟩ := List.getElem_of_mem mem
    have outcome := valid _ (List.mem_mapIdx.mpr ⟨index, bound, rfl⟩)
    rwa [Checked.value?_under] at outcome
  · intro valid outcome mem
    obtain ⟨index, bound, rfl⟩ := List.mem_mapIdx.mp mem
    rw [Checked.value?_under]
    exact valid _ (List.getElem_mem bound)

/-- The details of a list are those of its items, one after another. -/
theorem details_list (form : Form) (origin : Origin) (items : List Json) :
    ((Form.list form).read origin (.array items)).details =
      (items.mapIdx fun index item =>
        (form.read origin item).details.map (Detail.under (.index index))).flatten := by
  rw [read_array, Checked.details_all, List.flatMap_def, List.mapIdx_eq_zipIdx_map,
    List.mapIdx_eq_zipIdx_map, List.map_map]
  exact congrArg List.flatten (List.map_congr_left fun pair _ => Checked.details_under ..)

/-- An item of a list stands between the items before it and those after it, whatever it is changed
to. -/
theorem exists_split_of_getElem? {items : List Json} {index : Nat} {item : Json}
    (found : items[index]? = some item) : ∃ left right,
      items = left ++ item :: right ∧ left.length = index ∧
        ∀ change, items.modify index change = left ++ change item :: right := by
  obtain ⟨bound, here⟩ := List.getElem?_eq_some_iff.mp found
  refine ⟨items.take index, items.drop (index + 1), ?_, ?_, fun change => ?_⟩
  · rw [← here, ← List.drop_eq_getElem_cons bound, List.take_append_drop]
  · exact List.length_take_of_le (Nat.le_of_lt bound)
  · rw [List.modify_eq_take_cons_drop bound, here]

/-- What lists tell that differ in one item differs in what this item tells. -/
theorem told_list_split (form : Form) (origin : Origin) (left right : List Json) :
    ∃ before after, Detail.Beside (.index left.length) (before ++ after) ∧ ∀ item,
      ((Form.list form).read origin (.array (left ++ item :: right))).told =
        before ++ placed [.index left.length] (form.read origin item).told ++ after := by
  let told (offset : Nat) (items : List Json) : List (Fault × List Step) := (items.mapIdx
    fun index item => placed [.index (index + offset)] (form.read origin item).told).flatten
  have beside {offset : Nat} {items : List Json} {report : Fault × List Step}
      (mem : report ∈ told offset items) :
      ∃ index place, report.2 = .index (index + offset) :: place ∧ index < items.length := by
    obtain ⟨reports, here, inner⟩ := List.mem_flatten.mp mem
    obtain ⟨index, bound, rfl⟩ := List.mem_mapIdx.mp here
    obtain ⟨report, -, rfl⟩ := List.mem_map.mp inner
    exact ⟨index, report.2, rfl, bound⟩
  refine ⟨told 0 left, told (left.length + 1) right, fun report mem => ?_, fun item => ?_⟩
  · rcases List.mem_append.mp mem with mem | mem
    · obtain ⟨index, place, shown, bound⟩ := beside mem
      exact ⟨_, place, shown, fun same => absurd (Step.index.inj same) (by omega)⟩
    · obtain ⟨index, place, shown, -⟩ := beside mem
      exact ⟨_, place, shown, fun same => absurd (Step.index.inj same) (by omega)⟩
  · have whole (items : List Json) :
        ((Form.list form).read origin (.array items)).told = told 0 items := by
      rw [Checked.told, details_list, List.map_flatten, List.mapIdx_eq_zipIdx_map, List.map_map]
      simp only [told, List.mapIdx_eq_zipIdx_map]
      refine congrArg List.flatten (List.map_congr_left fun pair _ => ?_)
      rw [Function.comp, ← Checked.details_under, ← Checked.told, Checked.told_under]
      rfl
    have rest : right.mapIdx (fun index item => placed [.index (index + (left.length + 1))]
        (form.read origin item).told) = right.mapIdx fun index item =>
          placed [.index (index + 1 + left.length + 0)] (form.read origin item).told := by
      simp only [Nat.add_zero, Nat.add_assoc, Nat.add_comm 1]
    simp only [whole, told]
    rw [List.mapIdx_append, List.mapIdx_cons, rest, List.flatten_append, List.flatten_cons,
      List.append_assoc]
    simp only [Nat.add_zero, Nat.zero_add]

/-! ## Parts at any depth -/

/-- Where `null` is taken too, any other value is checked as without that. -/
theorem read_nullable (form : Form) (origin : Origin) :
    (Form.nullable form).read origin .null = .valid none ∧
      ∀ json, json ≠ .null →
        (Form.nullable form).read origin json = (form.read origin json).map some :=
  ⟨rfl, fun _ => Content.read_nullable⟩

/-- What a value tells that is checked for `null` too is what it tells without that. -/
theorem told_nullable {form : Form} {origin : Origin} {json : Json} (shown : json ≠ .null) :
    ((Form.nullable form).read origin json).told = (form.read origin json).told := by
  rw [(read_nullable form origin).2 json shown, Checked.told_map]

/-- Only an object and an array have parts. -/
theorem Within.ne_null {form part : Form} {json value : Json} {step : Step} {place : List Step}
    (within : Within form json (step :: place) part value) : json ≠ .null := by
  generalize whole : step :: place = steps at within
  induction within with
  | whole => cases whole
  | given _ ih => exact ih whole
  | item => exact Json.noConfusion
  | member => exact Json.noConfusion

/-- What a value tells is what a part of it tells, seen from the place of the part, between what the
other parts tell. Another value at the place changes the former only. -/
theorem Within.told_replaceAt {form part : Form} {json value : Json} {place : List Step}
    (within : Within form json place part value) (origin : Origin) : ∃ before after,
      (form.read origin json).told =
        before ++ placed place (part.read origin value).told ++ after ∧
      ∀ new, (form.read origin (json.replaceAt place new)).told =
        before ++ placed place (part.read origin new).told ++ after := by
  induction within with
  | whole =>
    refine ⟨[], [], ?_, fun new => ?_⟩
    · rw [Detail.placed_nil, List.nil_append, List.append_nil]
    · rw [Detail.placed_nil, List.nil_append, List.append_nil, Json.replaceAt]
  | given within ih =>
    obtain ⟨before, after, now, later⟩ := ih
    have shown := within.ne_null
    refine ⟨before, after, ?_, fun new => ?_⟩
    · rw [told_nullable shown, now]
    · rw [told_nullable (Json.replaceAt_ne_null shown _ _ new), later]
  | @item form part items index item value place found within ih =>
    obtain ⟨before, after, now, later⟩ := ih
    obtain ⟨left, right, rfl, rfl, modified⟩ := exists_split_of_getElem? found
    obtain ⟨others, more, -, split⟩ := told_list_split form origin left right
    refine ⟨others ++ placed [.index left.length] before,
      placed [.index left.length] after ++ more, ?_, fun new => ?_⟩
    · rw [split, now]
      simp only [Detail.placed_append, Detail.placed_placed, List.append_assoc]
    · rw [Json.replaceAt, modified, split, later]
      simp only [Detail.placed_append, Detail.placed_placed, List.append_assoc]
  | @member name slot part members key json value place mem filled within ih =>
    obtain ⟨before, after, now, later⟩ := ih
    obtain ⟨left, right, -, split⟩ := told_object_split mem origin members
    refine ⟨left ++ placed [.key key] before, placed [.key key] after ++ right, ?_, fun new => ?_⟩
    · rw [split members fun _ _ => rfl, Slot.told_of_filled filled, now]
      simp only [Detail.placed_append, Detail.placed_placed, List.append_assoc]
    · have spells := Member.spells_of_find? filled
      rw [Json.replaceAt, split, Slot.told_of_filled (Member.find?_amend_of_filled filled), later]
      · simp only [Detail.placed_append, Detail.placed_placed, List.append_assoc]
      · intro other apart
        exact Member.find?_amend_of_not_spells (apart.not_spells spells)

/-- Checks are local, for every shape of the domain and at every depth. An object is valid exactly
when every member that a slot asks for is valid alone and no required one is missing, and its
details are those of its slots in order; a list is valid exactly when its items are, and its details
are theirs in order; `null` aside, a value that may be `null` is checked as without that. What the
details tell of a part stands together between what they tell of all other parts, and putting
another value at the place of the part changes nothing else; a valid one leaves only the others. -/
theorem checks_are_local :
    (∀ (name : Name) (origin : Origin) (members : Members),
      ((∃ value, name.shape.read origin (.object members) = .valid value) ↔
        ∀ slot ∈ name.slots,
          (∀ key json, slot.member.find? members = some (key, json) →
            ∃ value, slot.form.read origin json = .valid value) ∧
          (slot.member.find? members = none → slot.required = false)) ∧
      (name.shape.read origin (.object members)).details =
        name.slots.flatMap fun slot => slot.details origin members) ∧
    (∀ (form : Form) (origin : Origin) (items : List Json),
      ((∃ values, (Form.list form).read origin (.array items) = .valid values) ↔
        ∀ item ∈ items, ∃ value, form.read origin item = .valid value) ∧
      ((Form.list form).read origin (.array items)).details =
        (items.mapIdx fun index item =>
          (form.read origin item).details.map (Detail.under (.index index))).flatten) ∧
    (∀ (form : Form) (origin : Origin),
      (Form.nullable form).read origin .null = .valid none ∧
      ∀ json, json ≠ .null →
        (Form.nullable form).read origin json = (form.read origin json).map some) ∧
    ∀ (form part : Form) (json value : Json) (place : List Step),
      Within form json place part value → ∀ origin, ∃ before after,
        (form.read origin json).told =
          before ++ placed place (part.read origin value).told ++ after ∧
        (∀ new, (form.read origin (json.replaceAt place new)).told =
          before ++ placed place (part.read origin new).told ++ after) ∧
        ∀ new accepted, part.read origin new = .valid accepted →
          (form.read origin (json.replaceAt place new)).told = before ++ after := by
  refine ⟨fun name origin members => ⟨valid_object_iff, details_object name origin members⟩,
    fun form origin items => ⟨valid_list_iff, details_list form origin items⟩, read_nullable, ?_⟩
  intro form part json value place within origin
  obtain ⟨before, after, now, later⟩ := within.told_replaceAt origin
  refine ⟨before, after, now, later, fun new accepted valid => ?_⟩
  have nothing : placed place (part.read origin new).told = [] := by
    rw [valid]
    rfl
  rw [later, nothing, List.append_nil]

/-- A model as a client may send it, with four faults. -/
def faultyModel : Json :=
  .object [("fields", .array [.object [("id", .string "a"), ("is_id", .string "perhaps")],
      .object [("mapName", .bool true), ("map_name", .string "b")]]),
    ("name", .int 3)]

/-- Where the unclear flag stands in the model. -/
def faultyPlace : List Step := [.key "fields", .index 0, .key "is_id"]

/-- The unclear flag is one of the faults of the model, and a clear one in its place leaves exactly
the faults before it and after it. -/
theorem checks_are_local_faulty :
    Within (.object .model) faultyModel faultyPlace (.leaf .flag) (.string "perhaps") ∧
    ∃ before after,
      (Name.model.shape.read .body faultyModel).told =
        before ++ [(.unclearFlag, faultyPlace)] ++ after ∧
      (Name.model.shape.read .body (faultyModel.replaceAt faultyPlace (.string "YES"))).told =
        before ++ after := by
  have fields : ⟨.plain "fields", false, .list (.object .field)⟩ ∈ Name.slots .model := by decide
  have flag : ⟨⟨"is_id", "isId"⟩, false, .leaf .flag⟩ ∈ Name.slots .field := by decide
  have within : Within (.object .model) faultyModel faultyPlace (.leaf .flag)
      (.string "perhaps") :=
    .member fields rfl (.item rfl (.member flag rfl .whole))
  have unclear : placed faultyPlace ((Form.leaf .flag).read .body (.string "perhaps")).told =
      [(.unclearFlag, faultyPlace)] := by rfl
  have clear : (Form.leaf .flag).read .body (.string "YES") = .valid true := by rfl
  obtain ⟨before, after, now, -, later⟩ := checks_are_local.2.2.2 _ _ _ _ _ within .body
  rw [unclear] at now
  exact ⟨within, before, after, now, later (.string "YES") true clear⟩

end Shape

end SchemaDesk
