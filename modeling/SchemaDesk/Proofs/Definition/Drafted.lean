import Mathlib.Data.List.Forall2
import SchemaDesk.Draft
import SchemaDesk.Proofs.Block.Values
import SchemaDesk.Proofs.Definition.RoundTrip
import SchemaDesk.Proofs.Model.Attributes
/-!
# Blocks of definitions

A draft without the default fields is a list of definitions. Its block is refused for the first
definition that is not understood, then for a blank name, and then for want of definitions; nothing
else can go wrong. The attributes that a definition gives pass the check of a new field and bring no
identifier (`Edit.createModel_attributes`), and the name among them is never blank, so every
definition has its line (`Draft.block_of_definitions`).
-/

namespace SchemaDesk

/-! ## Reading several definitions -/

namespace Definition

/-- Several definitions are refused with the error of the first one that is, or each of them gives
its attributes. -/
theorem parseAll_cases (texts : List Text) :
    (∃ before refused after error, texts = before ++ refused :: after ∧
      (∀ text ∈ before, ∃ changes, parse text = .ok changes) ∧ parse refused = .error error ∧
      parseAll texts = .error error) ∨
    ∃ fields, List.Forall₂ (fun text changes => parse text = .ok changes) texts fields ∧
      parseAll texts = .ok fields := by
  induction texts with
  | nil => exact .inr ⟨[], .nil, rfl⟩
  | cons text rest ih =>
    have step : parseAll (text :: rest) =
        (parse text).bind fun changes =>
          (parseAll rest).bind fun fields => .ok (changes :: fields) :=
      List.mapM_cons
    cases first : parse text with
    | error error =>
      refine .inl ⟨[], text, rest, error, rfl, nofun, first, ?_⟩
      rw [step, first]
      rfl
    | ok changes =>
      rw [first] at step
      rcases ih with
        ⟨before, refused, after, error, rfl, understood, failed, all⟩ | ⟨fields, each, all⟩
      · refine .inl ⟨text :: before, refused, after, error, rfl, ?_, failed, ?_⟩
        · rw [List.forall_mem_cons]
          exact ⟨⟨changes, first⟩, understood⟩
        · rw [step, all]
          rfl
      · refine .inr ⟨changes :: fields, .cons first each, ?_⟩
        rw [step, all]
        rfl

/-- The object of the attributes that a definition gives. -/
def attributes (changes : Changes) : Members :=
  Member.spelled .snake (Shape.givenEntries .snake changes)

/-- The field of a definition, whose identifier no line shows. -/
def field (changes : Changes) : Field := .ofValues [] (changes.applyTo Values.default)

/-- The block under a name with a line for what each of several definitions gives. -/
def blockText (name : Text) (fields : List Changes) : Text :=
  Text.ofString "model " ++ name.trim ++ Text.ofString " \x7b\n" ++
    fields.flatMap (fun changes => Block.line (field changes) ++ [CodePoint.char '\n']) ++
      Text.ofString "\x7d"

/-- The name that a definition gives is not blank. -/
theorem isBlank_name_of_parse {text : Text} {changes : Changes} (read : parse text = .ok changes) :
    (field changes).name.isBlank = false := by
  have record := isRecord_of_parse read
  obtain ⟨name, given⟩ := Option.isSome_iff_exists.mp (record.headed .name (by decide))
  have written : Writable .name name := record.writable .name name given
  have named : (field changes).name = (changes.value? .name).getD [] := rfl
  rw [named, given]
  exact written.2.1

/-- No definition that is understood gives a blank name. -/
theorem isBlank_name_of_parsed {texts : List Text} {fields : List Changes}
    (each : List.Forall₂ (fun text changes => parse text = .ok changes) texts fields) :
    ∀ changes ∈ fields, (field changes).name.isBlank = false := by
  induction each with
  | nil => exact fun changes mem => absurd mem List.not_mem_nil
  | @cons text changes _ _ first _ ih =>
    have read : parse text = .ok changes := first
    rw [List.forall_mem_cons]
    exact ⟨isBlank_name_of_parse read, ih⟩

end Definition

/-! ## Making the fields -/

namespace Edit

/-- The attributes of a definition make a field: they bring no identifier and no reserved name, and
every value is one of its attribute. -/
theorem blueprint_attributes (changes : Changes) :
    blueprint reservedForField (withoutId (Definition.attributes changes)) =
      Model.blueprint changes := by
  have named : NamesAttributes (Definition.attributes changes) :=
    Shape.namesAttributes_given .snake changes
  have read : Shape.values.read .caller (Definition.attributes changes) =
      .valid (changes.applyTo Values.default) := Shape.read_values_given .snake changes .caller
  rw [withoutId_of_names named, blueprint_of_names named (List.subset_cons_self _ _), read]
  rfl

/-- A model is created from the objects of definitions as from what they give, without a check that
could fail. -/
theorem createModel_attributes (name : Text) (fields : List Changes) :
    createModel (.string name) (some (fields.map Definition.attributes)) =
      Model.create (.ok name) (some (fields.map Model.blueprint)) := by
  have blueprints : (fields.map Definition.attributes).map
      (fun attributes => blueprint reservedForField (withoutId attributes)) =
        fields.map Model.blueprint := by
    rw [List.map_map]
    exact List.map_congr_left fun changes _ => blueprint_attributes changes
  exact congrArg (fun blueprints => Model.create (.ok name) (some blueprints)) blueprints

end Edit

/-! ## Writing the block -/

namespace Block

/-- A model whose fields have the values of definitions is written with a line for each. -/
theorem render_of_values {model : Model} {fields : List Changes}
    (values : model.fields.map (·.value) =
      fields.map fun changes => changes.applyTo Values.default)
    (named : ∀ changes ∈ fields, (Definition.field changes).name.isBlank = false) :
    render model =
      if model.name.isBlank then .error .missingModelName
      else if fields = [] then .error .noNamedField
      else .ok (Definition.blockText model.name fields) := by
  -- The block of the fields of the definitions is the same, and none of them is left out.
  let written : Model := ⟨model.name, fields.map Definition.field⟩
  have same : render model = render written := by
    refine render_eq_of_values rfl ?_
    rw [values, List.map_map]
    refine List.map_congr_left fun changes _ => ?_
    exact (Field.value_ofValues [] (changes.applyTo Values.default)).symm
  have all : namedFields written = fields.map Definition.field := by
    refine List.filter_eq_self.mpr fun field mem => ?_
    obtain ⟨changes, given, rfl⟩ := List.mem_map.mp mem
    rw [named changes given]
    rfl
  have text : header model.name ++ body (fields.map Definition.field) =
      Definition.blockText model.name fields := by
    rw [header, body, List.flatMap_map, Definition.blockText, ← List.append_assoc]
    rfl
  rw [same, render, all, text]
  simp only [List.map_eq_nil_iff, written]

end Block

namespace Draft

/-- The outcome of definitions alone. Either one of them is not understood, and the first such
tells the error; or all are, their attributes make a model, and its block is refused for a blank
name and for want of definitions only, and else has one line for every definition, whatever is
drawn. -/
theorem block_of_definitions (name : Text) (definitions : List Text) (draws : Draws) :
    (∃ before refused after error, definitions = before ++ refused :: after ∧
      (∀ text ∈ before, ∃ changes, Definition.parse text = .ok changes) ∧
      Definition.parse refused = .error error ∧
      block ⟨definitions, false⟩ (.valid name) draws = .error (.definition error)) ∨
    ∃ fields model left,
      List.Forall₂ (fun text changes => Definition.parse text = .ok changes) definitions fields ∧
      (Edit.createModel (.string name) (some (fields.map Definition.attributes))).run.run draws =
        (.ok model, left) ∧
      block ⟨definitions, false⟩ (.valid name) draws = (Block.render model).mapError .block ∧
      Block.render model =
        if name.isBlank then .error .missingModelName
        else if definitions = [] then .error .noNamedField
        else .ok (Definition.blockText name fields) := by
  rcases Definition.parseAll_cases definitions with
    ⟨before, refused, after, error, cut, understood, failed, all⟩ | ⟨fields, each, all⟩
  · refine .inl ⟨before, refused, after, error, cut, understood, failed, ?_⟩
    rw [block, all]
    rfl
  · have named := Definition.isBlank_name_of_parsed each
    have empty : definitions = [] ↔ fields = [] := by
      rw [← List.length_eq_zero_iff, each.length_eq, List.length_eq_zero_iff]
    let values := fields.map fun changes => changes.applyTo Values.default
    have blueprints (ε : Type) : fields.map (Model.blueprint (ε := ε)) = values.map .of := by
      rw [List.map_map]
      rfl
    obtain ⟨drafted, used, draftRan, draftName, draftValues⟩ :=
      Model.run_create_of DraftError name values draws
    obtain ⟨model, left, ran, modelName, modelValues⟩ :=
      Model.run_create_of EditError name values draws
    have same : Block.render drafted = Block.render model :=
      Block.render_eq_of_values (draftName.trans modelName.symm)
        (draftValues.trans modelValues.symm)
    refine .inr ⟨fields, model, left, each, ?_, ?_, ?_⟩
    · rw [Edit.createModel_attributes, blueprints]
      exact ran
    · have made : ((⟨definitions, false⟩ : Draft).model (.valid name) fields).run.run draws =
          (.ok drafted, used) := by
        rw [← draftRan, ← blueprints]
        rfl
      rw [block, all, ← same]
      change ((((⟨definitions, false⟩ : Draft).model (.valid name) fields).run.run draws).1 >>=
        fun model => (Block.render model).mapError DraftError.block) = _
      rw [made]
      rfl
    · rw [Block.render_of_values modelValues named, modelName]
      simp only [empty]

end Draft

end SchemaDesk
