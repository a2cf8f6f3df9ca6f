import SchemaDesk.Proofs.Definition.Drafted
import SchemaDesk.Proofs.Model.Whole
/-!
# Whole definitions

What a definition gives, and what an error quotes of it, are parts of its text. So a whole
definition gives whole values or is refused with a whole message (`Definition.givesWhole_parse`),
and the block of whole definitions under a whole name is whole (`Definition.isWhole_blockText`).
-/

namespace SchemaDesk

namespace Text

variable {separator : CodePoint} {text : Text}

/-- A text that is cut has whole parts when it is whole. -/
theorem isWhole_of_cutFirst {before after : Text}
    (cut : text.cutFirst separator = some (before, after)) (whole : text.isWhole = true) :
    before.isWhole = true ∧ after.isWhole = true := by
  rw [(cutFirst_eq_some_iff.mp cut).2, isWhole_append, isWhole_cons, Bool.and_eq_true,
    Bool.and_eq_true] at whole
  exact ⟨whole.1, whole.2.2⟩

/-- The pieces of a whole text are whole. -/
theorem isWhole_of_mem_cutAll (whole : text.isWhole = true) {piece : Text}
    (mem : piece ∈ text.cutAll separator) : piece.isWhole = true :=
  isWhole_of_mem whole fun _ here => .inr (mem_of_mem_cutAll mem here)

end Text

namespace Definition

/-! ## Readings -/

/-- A reading that gives a value with a property, or is refused with a whole message. -/
def GivesWhole {α : Type} (property : α → Prop) : Except DefinitionError α → Prop
  | .ok value => property value
  | .error error => error.message.isWhole = true

/-- One reading after another gives what the second one gives. -/
theorem GivesWhole.bind {α β : Type} {property : α → Prop} {later : β → Prop}
    {first : Except DefinitionError α} {next : α → Except DefinitionError β}
    (early : GivesWhole property first)
    (late : ∀ value, property value → GivesWhole later (next value)) :
    GivesWhole later (first >>= next) := by
  cases first with
  | error error => exact early
  | ok value => exact late value early

/-- Whether the value that an attribute is set to is whole. -/
def Setting.IsWhole (setting : Setting) : Prop := setting.attr.kind.isWhole setting.value = true

/-- The settings of a whole type are whole. -/
theorem givesWhole_readType {text : Text} (whole : text.isWhole = true) :
    GivesWhole (∀ setting ∈ ·, setting.IsWhole) (readType text) := by
  have typed : ∀ type : ScalarType, Setting.IsWhole ⟨.type, type⟩ := fun _ => rfl
  have array : ∀ flag : Bool, Setting.IsWhole ⟨.isArray, flag⟩ := fun _ => rfl
  have optional : ∀ flag : Bool, Setting.IsWhole ⟨.isOptional, flag⟩ := fun _ => rfl
  rw [readType]
  split
  · simp only [GivesWhole, List.forall_mem_cons]
    exact ⟨typed _, array _, optional _, List.forall_mem_nil _⟩
  · simp [GivesWhole, DefinitionError.message, Text.isWhole_trim whole]

/-- The settings of a whole head are whole. -/
theorem givesWhole_readHead {definition head : Text} (definitionWhole : definition.isWhole = true)
    (whole : head.isWhole = true) :
    GivesWhole (∀ setting ∈ ·, setting.IsWhole) (readHead definition head) := by
  have parts : ∀ name type : Text, name.isWhole = true → type.isWhole = true →
      GivesWhole (∀ setting ∈ ·, setting.IsWhole)
        (if name.trim = [] then .error (.missingName definition)
          else (readType type).map (⟨.name, name.trim⟩ :: ·)) := by
    intro name type nameWhole typeWhole
    have named : Setting.IsWhole ⟨.name, name.trim⟩ := Text.isWhole_trim nameWhole
    split
    · simp [GivesWhole, DefinitionError.message, definitionWhole]
    · have typed := givesWhole_readType typeWhole
      cases read : readType type with
      | error error =>
        rw [read] at typed
        exact typed
      | ok settings =>
        rw [read] at typed
        exact List.forall_mem_cons.mpr ⟨named, typed⟩
  rw [readHead]
  cases cut : head.cutFirst ':' with
  | none => exact parts head "String" whole (Text.isWhole_ofString _)
  | some found =>
    have cutWhole := Text.isWhole_of_cutFirst cut whole
    exact parts found.1 found.2 cutWhole.1 cutWhole.2

/-- The setting of a whole segment is whole. -/
theorem givesWhole_readSegment {segment : Text} (whole : segment.isWhole = true) :
    GivesWhole Setting.IsWhole (readSegment segment) := by
  have trimmed : segment.trim.isWhole = true := Text.isWhole_trim whole
  have refused : ∀ part : Text, part.isWhole = true →
      GivesWhole Setting.IsWhole (.error (.unknownAttribute part)) := by
    intro part partWhole
    simp [GivesWhole, DefinitionError.message, partWhole]
  have valued : ∀ entry ∈ valueKeys, ∀ value : Text, value.isWhole = true →
      (entry.2 value).IsWhole := by
    simp only [valueKeys, List.forall_mem_cons]
    exact ⟨fun _ same => same, fun _ same => same, fun _ same => same, fun _ same => same,
      List.forall_mem_nil _⟩
  have flagged : ∀ entry ∈ flagWords, entry.2.IsWhole := by
    simp only [flagWords, List.forall_mem_cons]
    exact ⟨rfl, rfl, rfl, List.forall_mem_nil _⟩
  rw [readSegment]
  cases cut : segment.trim.cutFirst '=' with
  | none =>
    cases found : flagWords.lookup (word segment.trim) with
    | none => simpa only [cut, found] using refused _ trimmed
    | some setting => simpa only [cut, found, GivesWhole] using flagged _ (mem_of_lookup found)
  | some parts =>
    obtain ⟨keyWhole, valueWhole⟩ := Text.isWhole_of_cutFirst cut trimmed
    cases found : valueKeys.lookup (word parts.1) with
    | none => simpa only [cut, found] using refused _ (Text.isWhole_trim keyWhole)
    | some make =>
      simpa only [cut, found, GivesWhole] using
        valued _ (mem_of_lookup found) _ (Text.isWhole_trim valueWhole)

/-- The settings of whole segments are whole. -/
theorem givesWhole_readSegments {segments : List Text}
    (whole : ∀ segment ∈ segments, segment.isWhole = true) :
    GivesWhole (∀ setting ∈ ·, setting.IsWhole) (readSegments segments) := by
  induction segments with
  | nil => exact fun setting mem => absurd mem List.not_mem_nil
  | cons segment rest ih =>
    rw [List.forall_mem_cons] at whole
    have later := ih whole.2
    rw [readSegments]
    split
    · exact later
    · refine (givesWhole_readSegment whole.1).bind fun setting settingWhole =>
        later.bind fun settings settingsWhole => ?_
      exact List.forall_mem_cons.mpr ⟨settingWhole, settingsWhole⟩

/-- Whole settings set attributes to whole values. -/
theorem isWhole_changesOf {settings : List Setting}
    (whole : ∀ setting ∈ settings, setting.IsWhole) : (changesOf settings).IsWhole :=
  fun _ _ given => whole _ (mem_of_value?_changesOf given)

/-- The attributes of a whole definition are whole. -/
theorem givesWhole_parse {text : Text} (whole : text.isWhole = true) :
    GivesWhole Changes.IsWhole (parse text) := by
  have trimmed : text.trim.isWhole = true := Text.isWhole_trim whole
  have pieces : ∀ piece ∈ text.trim.cutAll ';', piece.isWhole = true := fun piece mem =>
    Text.isWhole_of_mem_cutAll trimmed mem
  rw [Text.cutAll, List.forall_mem_cons] at pieces
  rw [parse]
  split
  · exact Text.isWhole_ofString _
  · refine (givesWhole_readHead trimmed pieces.1).bind fun head headWhole =>
      (givesWhole_readSegments pieces.2).bind fun segments segmentsWhole => ?_
    exact isWhole_changesOf (List.forall_mem_append.mpr ⟨headWhole, segmentsWhole⟩)

/-- The attributes of several whole definitions are whole. -/
theorem isWhole_of_parsed {texts : List Text} {fields : List Changes}
    (each : List.Forall₂ (fun text changes => parse text = .ok changes) texts fields)
    (whole : ∀ text ∈ texts, text.isWhole = true) : ∀ changes ∈ fields, changes.IsWhole := by
  induction each with
  | nil => exact fun changes mem => absurd mem List.not_mem_nil
  | @cons text changes _ _ first _ ih =>
    rw [List.forall_mem_cons] at whole ⊢
    have read : parse text = .ok changes := first
    have given := givesWhole_parse whole.1
    rw [read] at given
    exact ⟨given, ih whole.2⟩

/-! ## Blocks -/

/-- The field of whole attributes is whole. -/
theorem isWhole_field {changes : Changes} (whole : changes.IsWhole) :
    (field changes).isWhole = true :=
  Field.isWhole_ofValues rfl (whole.applyTo Values.isWhole_default)

/-- The block of whole definitions under a whole name is whole. -/
theorem isWhole_blockText {name : Text} (named : name.isWhole = true) {fields : List Changes}
    (whole : ∀ changes ∈ fields, changes.IsWhole) : (blockText name fields).isWhole = true := by
  have lines : Text.isWhole (fields.flatMap fun changes =>
      Block.line (field changes) ++ [CodePoint.char '\n']) = true := by
    rw [Text.isWhole_flatMap, List.all_eq_true]
    intro changes mem
    rw [Text.isWhole_append, Block.isWhole_line (isWhole_field (whole changes mem))]
    rfl
  simp only [blockText, Text.isWhole_append, Text.isWhole_ofString, Text.isWhole_trim named, lines,
    Bool.and_self]

end Definition

end SchemaDesk
