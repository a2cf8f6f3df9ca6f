import SchemaDesk.Proofs.Block.Values
import SchemaDesk.Proofs.Shape.Written
import SchemaDesk.Proofs.Text.Separated
/-!
# Whole models

A text without halves of characters is whole, and only whole texts can be written in an answer. The
texts of a model are given or drawn, and a block is put together from them and from words of its
own. So whole changes made to a whole model, with a source of whole identifiers, give a whole model
again, without a refusal (`Drawing.MakesWhole`), and a whole model has a whole block
(`Block.isWhole_render`).
-/

namespace SchemaDesk

/-! ## Texts -/

namespace Text

variable {text : Text}

/-- Two texts are whole together exactly when both are. -/
@[simp]
theorem isWhole_append (left right : Text) :
    isWhole (left ++ right) = (isWhole left && isWhole right) := List.all_append

/-- A text with a code point in front is whole when the code point is a character and the rest is
whole. -/
@[simp]
theorem isWhole_cons (point : CodePoint) (rest : Text) :
    isWhole (point :: rest) = (point.isChar && isWhole rest) := List.all_cons

/-- Texts are whole together exactly when each is. -/
theorem isWhole_flatMap {α : Type} (list : List α) (write : α → Text) :
    isWhole (list.flatMap write) = list.all fun value => isWhole (write value) := List.all_flatMap

/-- A text is whole when its code points are in a whole text, or are characters. -/
theorem isWhole_of_mem {part : Text} (whole : isWhole text = true)
    (given : ∀ point ∈ part, point.isChar = true ∨ point ∈ text) : isWhole part = true := by
  rw [isWhole, List.all_eq_true] at whole ⊢
  intro point mem
  rcases given point mem with char | mem
  · exact char
  · exact whole point mem

/-- A whole text stays whole without the blanks around it. -/
theorem isWhole_trim (whole : isWhole text = true) : isWhole (trim text) = true :=
  isWhole_of_mem whole fun _ mem => .inr (mem_of_mem_trim mem)

/-- A comma list written anew is whole when the list is. -/
theorem isWhole_joined_tokens (whole : isWhole text = true) :
    isWhole (CommaList.joined (CommaList.tokens text)) = true := by
  refine isWhole_of_mem whole fun point mem => ?_
  rcases CommaList.mem_of_mem_joined_tokens mem with rfl | rfl | mem
  · exact .inl rfl
  · exact .inl rfl
  · exact .inr mem

/-- Digits are whole. -/
theorem isWhole_hexDigits (width number : Nat) : isWhole (hexDigits width number) = true := by
  rw [isWhole, hexDigits, List.all_map]
  exact List.all_eq_true.mpr fun _ _ => rfl

end Text

/-! ## Draws -/

namespace Draws

variable {draws : Draws}

/-- Whether every token of a source is whole. The numbered ones always are. -/
def IsWhole (draws : Draws) : Prop := ∀ token ∈ draws.queued, token.isWhole = true

/-- The tokens of a source are gone through. -/
instance (draws : Draws) : Decidable draws.IsWhole :=
  inferInstanceAs (Decidable (∀ token ∈ draws.queued, token.isWhole = true))

/-- The next token is whole, and so are those after it. -/
theorem IsWhole.next (whole : draws.IsWhole) :
    draws.next.1.isWhole = true ∧ draws.next.2.IsWhole := by
  rw [Draws.next]
  split
  next token rest queued =>
    rw [IsWhole, queued, List.forall_mem_cons] at whole
    exact whole
  next => exact ⟨Text.isWhole_hexDigits 32 _, fun _ mem => absurd mem List.not_mem_nil⟩

/-- A fresh identifier is whole, and so are the tokens after it. -/
theorem IsWhole.fresh (whole : draws.IsWhole) (taken : List Text) :
    (draws.fresh taken).1.isWhole = true ∧ (draws.fresh taken).2.IsWhole := by
  rw [Draws.fresh]
  generalize draws.queued.length + taken.length = tries
  induction tries generalizing draws with
  | zero => exact whole.next
  | succ tries ih =>
    rw [freshWithin_succ]
    split
    · exact ih whole.next.2
    · exact whole.next

end Draws

/-- A computation that is never refused, and gives a value with a property and leaves a whole source
when it draws from one. -/
def Drawing.MakesWhole {ε α : Type} (computation : Drawing ε α) (property : α → Prop) : Prop :=
  ∀ draws : Draws, draws.IsWhole → ∃ value after,
    computation.run.run draws = (.ok value, after) ∧ after.IsWhole ∧ property value

namespace Drawing

variable {ε α β : Type} {property : α → Prop}

/-- A computation that draws nothing makes its value. -/
theorem makesWhole_pure {value : α} (holds : property value) :
    (pure value : Drawing ε α).MakesWhole property := fun draws whole =>
  ⟨value, draws, rfl, whole, holds⟩

/-- A computation that only hands on an outcome makes the value of the outcome. -/
theorem makesWhole_mk {outcome : Except ε α} {value : α} (given : outcome = .ok value)
    (holds : property value) : Drawing.MakesWhole (ExceptT.mk (pure outcome)) property := by
  subst given
  exact makesWhole_pure holds

/-- One computation after another makes what the second one makes. -/
theorem MakesWhole.bind {first : Drawing ε α} {next : α → Drawing ε β} {later : β → Prop}
    (early : first.MakesWhole property)
    (late : ∀ value, property value → (next value).MakesWhole later) :
    (first >>= next).MakesWhole later := by
  intro draws whole
  obtain ⟨value, between, ran, betweenWhole, holds⟩ := early draws whole
  obtain ⟨last, after, ranLater, afterWhole, holdsLater⟩ := late value holds between betweenWhole
  exact ⟨last, after, by rw [run_bind, ran]; exact ranLater, afterWhole, holdsLater⟩

/-- A fresh identifier is whole when the tokens are. -/
theorem makesWhole_freshId (taken : List Text) :
    (freshId taken : Drawing ε Text).MakesWhole fun id => id.isWhole = true := by
  intro draws whole
  obtain ⟨drawn, left⟩ := whole.fresh taken
  exact ⟨(draws.fresh taken).1, (draws.fresh taken).2, rfl, left, drawn⟩

end Drawing

/-! ## Fields -/

/-- Whether every text among the values of a family is whole. -/
def Values.IsWhole (values : Values) : Prop :=
  ∀ attr : Attribute, attr.kind.isWhole (values attr) = true

/-- Whether every text that changes give is whole. -/
def Changes.IsWhole (changes : Changes) : Prop :=
  ∀ (attr : Attribute) (value : attr.Value),
    changes.value? attr = some value → attr.kind.isWhole value = true

/-- The default values are whole. -/
theorem Values.isWhole_default : Values.default.IsWhole := by
  intro attr
  cases attr <;> rfl

/-- Changes that give nothing are whole. -/
theorem Changes.isWhole_none : ({} : Changes).IsWhole := by
  intro attr value given
  cases attr <;> cases given

/-- Whole changes put over whole values leave them whole. -/
theorem Changes.IsWhole.applyTo {changes : Changes} {values : Values} (whole : changes.IsWhole)
    (valuesWhole : values.IsWhole) : (changes.applyTo values).IsWhole := by
  intro attr
  rw [Changes.applyTo]
  cases given : changes.value? attr with
  | none => exact valuesWhole attr
  | some value => exact whole attr value given

namespace Field

variable {ε : Type}

/-- A field is whole when its identifier and its values are. -/
theorem isWhole_iff {field : Field} :
    field.isWhole = true ↔ field.id.isWhole = true ∧ Values.IsWhole field.value := by
  rw [isWhole, Bool.and_eq_true, List.all_eq_true]
  exact and_congr_right fun _ => ⟨fun all attr => all attr attr.mem_all, fun all attr _ => all attr⟩

/-- A field that is made of a whole identifier and whole values is whole. -/
theorem isWhole_ofValues {id : Text} {values : Values} (whole : id.isWhole = true)
    (valuesWhole : values.IsWhole) : (ofValues id values).isWhole = true := by
  rw [isWhole_iff, value_ofValues]
  exact ⟨whole, valuesWhole⟩

/-- A new field of which whole values are given is made, and is whole. -/
theorem makesWhole_make (taken : List Text) {changes : Changes} (whole : changes.IsWhole) :
    (make taken (Model.blueprint changes) : Drawing ε Field).MakesWhole
      fun field => field.isWhole = true :=
  (Drawing.makesWhole_freshId taken).bind fun _ drawn =>
    Drawing.makesWhole_pure (isWhole_ofValues drawn (whole.applyTo Values.isWhole_default))

/-- New fields after whole ones are made, and all of them are whole. -/
theorem makesWhole_makeAll {made : List Field} (madeWhole : ∀ field ∈ made, field.isWhole = true)
    {given : List Changes} (whole : ∀ changes ∈ given, changes.IsWhole) :
    (makeAll made (given.map Model.blueprint) : Drawing ε (List Field)).MakesWhole
      fun fields => ∀ field ∈ fields, field.isWhole = true := by
  induction given generalizing made with
  | nil => exact Drawing.makesWhole_pure madeWhole
  | cons changes rest ih =>
    rw [List.forall_mem_cons] at whole
    rw [List.map_cons, makeAll]
    refine (makesWhole_make _ whole.1).bind fun field fieldWhole => ih ?_ whole.2
    rw [List.forall_mem_append]
    exact ⟨madeWhole, List.forall_mem_singleton.mpr fieldWhole⟩

end Field

/-! ## Models -/

namespace Model

variable {ε : Type} {model : Model}

/-- A model is whole when its name and its fields are. -/
theorem isWhole_iff : model.isWhole = true ↔
    model.name.isWhole = true ∧ ∀ field ∈ model.fields, field.isWhole = true := by
  rw [isWhole, Bool.and_eq_true, List.all_eq_true]

/-- The default fields are given by whole values. -/
theorem isWhole_defaultFields : ∀ changes ∈ defaultFields, changes.IsWhole := by
  have listed : ∀ changes ∈ defaultFields, ∀ attr ∈ Attribute.all,
      ∀ value ∈ changes.value? attr, attr.kind.isWhole value = true := by
    decide +kernel
  exact fun changes mem attr value given => listed changes mem attr attr.mem_all value given

/-- A model is created from a whole name and whole values of its fields. -/
theorem makesWhole_create {name : Text} (named : name.isWhole = true)
    {given : Option (List Changes)} (whole : ∀ list ∈ given, ∀ changes ∈ list, changes.IsWhole) :
    (create (.ok name) (given.map (·.map blueprint)) : Drawing ε Model).MakesWhole
      fun model => model.isWhole = true := by
  have fields : ∀ list : List Changes, (∀ changes ∈ list, changes.IsWhole) →
      (Field.makeAll [] (list.map blueprint) : Drawing ε (List Field)).MakesWhole
        fun fields => ∀ field ∈ fields, field.isWhole = true := fun list =>
    Field.makesWhole_makeAll fun field mem => absurd mem List.not_mem_nil
  have model : ∀ made : List Field, (∀ field ∈ made, field.isWhole = true) →
      (do return { name := ← (.ok name : Except ε Text), fields := made } :
        Drawing ε Model).MakesWhole fun model => model.isWhole = true := fun made madeWhole =>
    Drawing.makesWhole_pure (isWhole_iff.mpr ⟨named, madeWhole⟩)
  cases given with
  | none => exact (fields defaultFields isWhole_defaultFields).bind model
  | some list => exact (fields list (whole list rfl)).bind model

/-- A model that is started over is whole. -/
theorem makesWhole_reset :
    (reset : Drawing ε Model).MakesWhole fun model => model.isWhole = true := by
  have idField : ∀ list ∈ some [idField], ∀ changes ∈ list, changes.IsWhole := by
    intro list same changes mem
    obtain rfl := Option.some.inj same
    obtain rfl := List.mem_singleton.mp mem
    exact isWhole_defaultFields _ List.mem_cons_self
  exact makesWhole_create rfl idField

/-- A field is added to a model. -/
theorem makesWhole_addField (whole : model.isWhole = true) {changes : Changes}
    (given : changes.IsWhole) :
    (model.addField (blueprint changes) : Drawing ε Model).MakesWhole
      fun model => model.isWhole = true := by
  rw [isWhole_iff] at whole
  refine (Field.makesWhole_make model.ids given).bind fun field fieldWhole => ?_
  refine Drawing.makesWhole_pure (isWhole_iff.mpr ⟨whole.1, ?_⟩)
  rw [List.forall_mem_append]
  exact ⟨whole.2, List.forall_mem_singleton.mpr fieldWhole⟩

/-- Fields are removed from a model. -/
theorem isWhole_removeField (whole : model.isWhole = true) (id : Text) :
    (model.removeField id).isWhole = true := by
  rw [isWhole_iff] at whole ⊢
  rw [name_removeField, fields_removeField]
  exact ⟨whole.1, fun field mem => whole.2 field (List.mem_of_mem_filter mem)⟩

/-- Fields of a model are changed; whole changes are never refused. -/
theorem isWhole_updateField (whole : model.isWhole = true) (id : Text) {changes : Changes}
    (given : changes.IsWhole) : ∃ updated,
      model.updateField id (.ok changes : Except ε Changes) = .ok updated ∧
        updated.isWhole = true := by
  rw [updateField]
  split
  · refine ⟨_, rfl, ?_⟩
    rw [isWhole_iff] at whole ⊢
    refine ⟨whole.1, fun field mem => ?_⟩
    obtain ⟨old, old_mem, rfl⟩ := List.mem_map.mp mem
    have oldWhole := Field.isWhole_iff.mp (whole.2 old old_mem)
    split
    · exact Field.isWhole_ofValues oldWhole.1 (given.applyTo oldWhole.2)
    · exact whole.2 old old_mem
  · exact ⟨model, rfl, whole⟩

end Model

/-! ## Blocks -/

namespace Block

variable {field : Field}

/-- A comma list between square brackets is whole when the list is. -/
theorem isWhole_bracketed {list : Text} (whole : list.isWhole = true) :
    (bracketed list).isWhole = true := by
  simp only [bracketed, Text.isWhole_append, Text.isWhole_ofString,
    Text.isWhole_joined_tokens whole, Bool.and_self]

/-- The tokens of a whole field are whole. -/
theorem isWhole_tokens (whole : field.isWhole = true) :
    ∀ token ∈ tokens field, token.isWhole = true := by
  have values := (Field.isWhole_iff.mp whole).2
  have default : field.defaultValue.isWhole = true := values .defaultValue
  have map : field.mapName.isWhole = true := values .mapName
  have fields := isWhole_bracketed (values .relationFields)
  have references := isWhole_bracketed (values .relationReferences)
  simp only [tokens, List.forall_mem_append]
  refine ⟨⟨⟨⟨⟨?_, ?_⟩, ?_⟩, ?_⟩, ?_⟩, ?_⟩
  · rw [idTokens]
    split
    · split <;> simp [default]
    · exact nofun
  · rw [defaultTokens]
    split
    · exact nofun
    · split <;> simp [default]
  · rw [uniqueTokens]
    split <;> simp
  · rw [updatedAtTokens]
    split <;> simp
  · rw [mapTokens]
    split <;> simp [map]
  · rw [relationTokens]
    split
    · exact nofun
    · simp only [List.forall_mem_singleton, Text.isWhole_append, Text.isWhole_ofString,
        Bool.true_and, Bool.and_true, Bool.and_eq_true]
      exact ⟨fields, references⟩

/-- The line of a whole field is whole. -/
theorem isWhole_line (whole : field.isWhole = true) : (line field).isWhole = true := by
  have name : field.name.isWhole = true := (Field.isWhole_iff.mp whole).2 .name
  have type : (typeText field).isWhole = true := by
    rw [typeText]
    split <;> split <;> simp
  have shown : Text.isWhole ((tokens field).flatMap (.char ' ' :: ·)) = true := by
    rw [Text.isWhole_flatMap, List.all_eq_true]
    intro token mem
    rw [Text.isWhole_cons, isWhole_tokens whole token mem]
    rfl
  simp only [line, Text.isWhole_append, Text.isWhole_ofString, name, type, shown, Bool.and_self]

/-- The block of a whole model is whole. -/
theorem isWhole_render {model : Model} (whole : model.isWhole = true) {text : Text}
    (rendered : render model = .ok text) : text.isWhole = true := by
  obtain ⟨named, fieldsWhole⟩ := Model.isWhole_iff.mp whole
  have head : (header model.name).isWhole = true := by
    simp only [header, Text.isWhole_append, Text.isWhole_ofString, Text.isWhole_trim named,
      Bool.and_self]
  have lines : (body (namedFields model)).isWhole = true := by
    rw [body, Text.isWhole_append, Text.isWhole_flatMap, Bool.and_eq_true, List.all_eq_true]
    refine ⟨fun field mem => ?_, rfl⟩
    rw [Text.isWhole_append, isWhole_line (fieldsWhole field (List.mem_of_mem_filter mem))]
    rfl
  rw [render] at rendered
  split at rendered
  · cases rendered
  · split at rendered
    · cases rendered
    · rw [← Except.ok.inj rendered, Text.isWhole_append, head, lines]
      rfl

end Block

end SchemaDesk
