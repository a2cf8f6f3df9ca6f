import SchemaDesk.CommandLine.Outcome
import SchemaDesk.Proofs.CommandLine.Places
import SchemaDesk.Proofs.Definition.Whole
/-!
# Drafts with and without the default fields

A draft with the default fields adds the fields of its definitions to a model one by one, and a
draft without them makes a model of all of them at once. Both draw other identifiers, but a block
shows values only: the model of a draft has the values of its start and then those of its
definitions (`Draft.run_model`). So when there are definitions, both drafts have a block or neither
has one, and the lines of the default fields between the header and the rest are the only difference
(`CommandLine.Outcome.ofRender_agrees`). What a command ends with is encoded, so a half of a
surrogate pair in the name or in a definition may stop it where it prints or writes. A name with one
leaves an empty file (`CommandLine.Outcome.not_writesOrRefuses_half`).
-/

namespace SchemaDesk

/-! ## Models of drafts -/

namespace Model

variable (ε : Type)

/-- Fields that are added one by one come after those of the model, in their order. -/
theorem run_foldlM_addField (fields : List Changes) (model : Model) (draws : Draws) :
    ∃ made after,
      (fields.foldlM (fun model changes => model.addField (blueprint changes)) model :
        Drawing ε Model).run.run draws = (.ok made, after) ∧ made.name = model.name ∧
      made.fields.map (·.value) =
        model.fields.map (·.value) ++ fields.map fun changes => changes.applyTo Values.default := by
  let values := fields.map fun changes => changes.applyTo Values.default
  have blueprints : (fields.foldlM (fun model changes => model.addField (blueprint changes)) model :
      Drawing ε Model) = (values.map .of).foldlM addField model := by
    rw [List.foldlM_map, List.foldlM_map]
    rfl
  obtain ⟨added, after, ran, same⟩ := Field.run_makeAll_of ε model.fields values draws
  refine ⟨{ model with fields := model.fields ++ added }, after, ?_, rfl, ?_⟩
  · rw [blueprints, foldlM_addField, Drawing.run_bind, ran]
    rfl
  · rw [List.map_append, same]

end Model

namespace Draft

/-- What a draft starts with: the default fields or nothing. -/
def start (draft : Draft) : List Changes := if draft.defaults then Model.defaultFields else []

/-- The model of a draft has the values of its start and then the given ones, whatever is drawn. -/
theorem run_model (draft : Draft) (name : Text) (fields : List Changes) (draws : Draws) :
    ∃ made after, (draft.model (.valid name) fields).run.run draws = (.ok made, after) ∧
      made.name = name ∧
      made.fields.map (·.value) =
        (draft.start ++ fields).map fun changes => changes.applyTo Values.default := by
  have created (fields : List Changes) (draws : Draws) :
      ∃ made after, (Model.create (.ok name) (some (fields.map Model.blueprint)) :
          Drawing DraftError Model).run.run draws = (.ok made, after) ∧ made.name = name ∧
        made.fields.map (·.value) = fields.map fun changes => changes.applyTo Values.default := by
    have blueprints : fields.map (Model.blueprint (ε := DraftError)) =
        (fields.map fun changes => changes.applyTo Values.default).map .of := by
      rw [List.map_map]
      rfl
    rw [blueprints]
    exact Model.run_create_of DraftError name _ draws
  obtain ⟨definitions, defaults⟩ := draft
  cases defaults with
  | false => exact created fields draws
  | true =>
    obtain ⟨begun, drawn, began, begunName, begunValues⟩ := created Model.defaultFields draws
    obtain ⟨made, after, ran, madeName, values⟩ :=
      Model.run_foldlM_addField DraftError fields begun drawn
    refine ⟨made, after, ?_, madeName.trans begunName, ?_⟩
    · have first : (Model.create (.ok name) none : Drawing DraftError Model).run.run draws =
          (.ok begun, drawn) := began
      have whole : ((⟨definitions, true⟩ : Draft).model (.valid name) fields).run.run draws =
          ((Model.create (.ok name) none : Drawing DraftError Model) >>= fun model =>
            fields.foldlM (fun model changes => model.addField (Model.blueprint changes))
              model).run.run draws := rfl
      rw [whole, Drawing.run_bind, first]
      exact ran
    · rw [values, begunValues, ← List.map_append]
      rfl

/-- No default field has a blank name. -/
theorem isBlank_name_start (draft : Draft) :
    ∀ changes ∈ draft.start, (Definition.field changes).name.isBlank = false := by
  intro changes mem
  have default : changes ∈ Model.defaultFields := by
    rw [start] at mem
    split at mem
    · exact mem
    · cases mem
  have each : ∀ changes ∈ Model.defaultFields,
      (Definition.field changes).name.isBlank = false := by decide
  exact each changes default

/-- The block of a draft whose definitions are understood has a line for each field of its start
and then one for each definition. Only a blank name, and a draft of nothing at all, have none. -/
theorem block_of_parsed (draft : Draft) {fields : List Changes}
    (each : List.Forall₂ (fun text changes => Definition.parse text = .ok changes)
      draft.definitions fields)
    (parsed : Definition.parseAll draft.definitions = .ok fields) (name : Text) (draws : Draws) :
    draft.block (.valid name) draws =
      if name.isBlank then .error (.block .missingModelName)
      else if draft.start ++ fields = [] then .error (.block .noNamedField)
      else .ok (Definition.blockText name (draft.start ++ fields)) := by
  obtain ⟨made, after, ran, madeName, values⟩ := draft.run_model name fields draws
  have named : ∀ changes ∈ draft.start ++ fields,
      (Definition.field changes).name.isBlank = false := fun changes mem =>
    (List.mem_append.mp mem).elim (draft.isBlank_name_start changes)
      (Definition.isBlank_name_of_parsed each changes)
  have written : draft.block (.valid name) draws = (Block.render made).mapError .block := by
    rw [block, parsed]
    change (((draft.model (.valid name) fields).run.run draws).1 >>=
      fun model => (Block.render model).mapError DraftError.block) = _
    rw [ran]
    rfl
  rw [written, Block.render_of_values values named, madeName]
  split
  · rfl
  · split
    · rfl
    · rfl

end Draft

/-! ## Blocks with the default fields -/

/-- The lines of the default fields. -/
def Block.defaultLines : Text :=
  "  id Int @id @default(autoincrement())\n" ++ ("  createdAt DateTime @default(now())\n" ++
    "  updatedAt DateTime @updatedAt\n" : Text)

namespace Definition

/-- What a block has after its header: a line for each of several definitions, and the closing
brace. -/
def bodyText (fields : List Changes) : Text :=
  fields.flatMap (fun changes => Block.line (field changes) ++ [CodePoint.char '\n']) ++
    Text.ofString "\x7d"

/-- Definitions that are read one by one are all understood. -/
theorem understood_of_parsed {texts : List Text} {fields : List Changes}
    (each : List.Forall₂ (fun text changes => parse text = .ok changes) texts fields) :
    ∀ text ∈ texts, ∃ changes, parse text = .ok changes := by
  induction each with
  | nil => exact fun text mem => absurd mem List.not_mem_nil
  | cons first _ ih =>
    rw [List.forall_mem_cons]
    exact ⟨⟨_, first⟩, ih⟩

/-- A block is its header and what comes after that. -/
theorem blockText_eq (name : Text) (fields : List Changes) :
    blockText name fields = Block.header name ++ bodyText fields := by
  rw [blockText, bodyText, ← List.append_assoc]
  rfl

/-- The lines of the default fields come first. -/
theorem bodyText_defaults (fields : List Changes) :
    bodyText (Model.defaultFields ++ fields) = Block.defaultLines ++ bodyText fields := by
  have lines : Model.defaultFields.flatMap
      (fun changes => Block.line (field changes) ++ [CodePoint.char '\n']) =
        Block.defaultLines := by decide +kernel
  rw [bodyText, List.flatMap_append, lines, List.append_assoc]
  rfl

end Definition

namespace Draft

/-- Where there are definitions, the drafts with and without the default fields are refused for the
same reason, or their blocks differ in the lines of the default fields only. Whole texts give whole
blocks, and are refused with a whole message. -/
theorem blocks_cases (name : Text) {definitions : List Text} (given : definitions ≠ []) :
    (((∃ text ∈ definitions, ∃ error, Definition.parse text = .error error) ∨
        name.isBlank = true) ∧
      ∃ error : DraftError,
        ((∀ text ∈ name :: definitions, text.isWhole = true) → error.message.isWhole = true) ∧
        ∀ defaults draws, block ⟨definitions, defaults⟩ (.valid name) draws = .error error) ∨
    (((∀ text ∈ definitions, ∃ changes, Definition.parse text = .ok changes) ∧
        name.isBlank = false) ∧
      ∃ rest,
        ((∀ text ∈ name :: definitions, text.isWhole = true) →
          (Block.header name ++ rest).isWhole = true) ∧
        ∀ draws,
          block ⟨definitions, false⟩ (.valid name) draws = .ok (Block.header name ++ rest) ∧
          block ⟨definitions, true⟩ (.valid name) draws =
            .ok (Block.header name ++ Block.defaultLines ++ rest)) := by
  rcases Definition.parseAll_cases definitions with
    ⟨before, refused, after, error, cut, -, failed, all⟩ | ⟨fields, each, all⟩
  · have mem : refused ∈ definitions := by
      rw [cut]
      exact List.mem_append_right before List.mem_cons_self
    refine .inl ⟨.inl ⟨refused, mem, error, failed⟩, .definition error, fun whole => ?_,
      fun defaults draws => ?_⟩
    · have message := Definition.givesWhole_parse (whole refused (List.mem_cons_of_mem name mem))
      rw [failed] at message
      exact message
    · rw [block, all]
      rfl
  · have drafted (defaults : Bool) (draws : Draws) :=
      block_of_parsed ⟨definitions, defaults⟩ each all name draws
    cases blank : name.isBlank with
    | true =>
      refine .inl ⟨.inr rfl, .block .missingModelName, fun _ => Text.isWhole_ofString _,
        fun defaults draws => ?_⟩
      rw [drafted, if_pos blank]
    | false =>
      have left : fields ≠ [] := by
        rintro rfl
        exact given (List.forall₂_nil_right_iff.mp each)
      have understood := Definition.understood_of_parsed each
      refine .inr ⟨⟨understood, rfl⟩, Definition.bodyText fields, fun whole => ?_,
        fun draws => ⟨?_, ?_⟩⟩
      · rw [List.forall_mem_cons] at whole
        rw [← Definition.blockText_eq]
        exact Definition.isWhole_blockText whole.1 (Definition.isWhole_of_parsed each whole.2)
      · have start : (⟨definitions, false⟩ : Draft).start ++ fields = fields := rfl
        rw [drafted, start, blank, if_neg Bool.false_ne_true, if_neg left, Definition.blockText_eq]
      · have start : (⟨definitions, true⟩ : Draft).start ++ fields =
            Model.defaultFields ++ fields := rfl
        have left : Model.defaultFields ++ fields ≠ [] := List.cons_ne_nil _ _
        rw [drafted, start, blank, if_neg Bool.false_ne_true, if_neg left,
          Definition.blockText_eq, Definition.bodyText_defaults, List.append_assoc]

end Draft

/-! ## Outcomes of the command -/

namespace CommandLine.Outcome

/-- A refusal with a message: it is printed, nothing is written, and the exit code is one. -/
structure Refuses (message : Text) (outcome : Outcome) : Prop where
  /-- The exit code is one. -/
  exitCode : outcome.exitCode = 1
  /-- The message is printed. -/
  printout : outcome.printout = "❌ " ++ message ++ "\n"
  /-- No file is written. -/
  file : outcome.file? = none

/-- The delivery of a block. -/
structure Delivers (output : Option Text) (block : Text) (outcome : Outcome) : Prop where
  /-- Without the path of a file the block is printed and nothing is written. -/
  prints : output = none ∨ output = some [] →
    outcome.exitCode = 0 ∧ outcome.printout = block ++ "\n" ∧ outcome.file? = none
  /-- The file with a path that leads to a place holds the block and one line end. -/
  writes : ∀ path place, output = some path → path ≠ [] → OutputFile.locate path = .ok place →
    outcome.exitCode = 0 ∧ outcome.printout = "✅ Created: " ++ path ++ "\n" ∧
      outcome.file? = some ⟨path, place, block ++ "\n"⟩

/-- A stop at a text that has no encoding: nothing is printed, the exit code is one, and of the file
only what was written before is left. -/
structure Stops (left : Option OutputFile.File) (outcome : Outcome) : Prop where
  /-- The exit code is one. -/
  exitCode : outcome.exitCode = 1
  /-- Nothing is printed. -/
  printout : outcome.printout = []
  /-- The file that is left. -/
  file : outcome.file? = left

/-- A stop where a block is printed or written. -/
structure Halts (output : Option Text) (content : Text) (outcome : Outcome) : Prop where
  /-- Without the path of a file none is written. -/
  prints : output = none ∨ output = some [] → outcome.Stops none
  /-- The file with a path that leads to a place is left with a content. -/
  writes : ∀ path place, output = some path → path ≠ [] → OutputFile.locate path = .ok place →
    outcome.Stops (some ⟨path, place, content⟩)

/-- What a command with a block ends with. -/
structure Ends (output : Option Text) (block : Text) (outcome : Outcome) : Prop where
  /-- A whole block is delivered when the path is whole. -/
  delivers : block.isWhole = true → (∀ path ∈ output, path.isWhole = true) →
    outcome.Delivers output block
  /-- A block with a half is not printed, and the file that was to hold it is left empty. -/
  halts : block.isWhole = false → outcome.Halts output []
  /-- A whole block is written to the file of a path with a half, but the path is not printed. -/
  untold : block.isWhole = true → (∃ path ∈ output, path.isWhole = false) →
    outcome.Halts output (block ++ "\n")

variable {output : Option Text} {block message path : Text} {place : OutputFile.Place}
  {outcome : Outcome}

/-- A block that is printed has an encoding when it is whole. -/
theorem isEncodable_printed (block : Text) : (printed block).isEncodable = block.isWhole := by
  simp [isEncodable, printout, file?]

/-- A message that is printed has an encoding when it is whole. -/
theorem isEncodable_failed (message : Text) : (failed message).isEncodable = message.isWhole := by
  simp [isEncodable, printout, file?]

/-- A block that is written has an encoding when it is whole, and so has what is printed about it
when the path is whole. -/
theorem isEncodable_written (path : Text) (place : OutputFile.Place) (block : Text) :
    (written ⟨path, place, block ++ "\n"⟩).isEncodable = (path.isWhole && block.isWhole) := by
  simp [isEncodable, printout, file?]

/-- An outcome stays when its texts have encodings. -/
theorem encoded_of_isEncodable (fits : outcome.isEncodable = true) : outcome.encoded = outcome :=
  if_pos fits

/-- An outcome with a text that has no encoding is a stop that leaves its file. -/
theorem stops_of_not_isEncodable (unfit : outcome.isEncodable = false) :
    outcome.encoded.Stops (outcome.file?.map OutputFile.File.encoded) := by
  rw [encoded, unfit, if_neg Bool.false_ne_true]
  exact ⟨rfl, rfl, rfl⟩

/-- The exit code stays or becomes one. -/
theorem exitCode_encoded (outcome : Outcome) :
    outcome.encoded.exitCode = if outcome.isEncodable then outcome.exitCode else 1 := by
  rw [encoded]
  split
  · rfl
  · rfl

/-- Without the path of a file a block is printed. -/
theorem ofBlock_of_unnamed (unnamed : output = none ∨ output = some []) (block : Text) :
    ofBlock output block = printed block := by
  rcases unnamed with rfl | rfl
  · rfl
  · rfl

/-- A block is written to the file with a path that leads to a place. -/
theorem ofBlock_of_located (named : path ≠ []) (located : OutputFile.locate path = .ok place)
    (block : Text) : ofBlock (some path) block = written ⟨path, place, block ++ "\n"⟩ := by
  cases path with
  | nil => exact absurd rfl named
  | cons point rest => simp only [ofBlock, located]

/-- Whether the exit code is zero depends on the path, and on whether the block is whole. -/
theorem exitCode_ofBlock (output : Option Text) {left right : Text}
    (same : left.isWhole = right.isWhole) :
    (ofBlock output left).encoded.exitCode = (ofBlock output right).encoded.exitCode := by
  have prints : (printed left).encoded.exitCode = (printed right).encoded.exitCode := by
    rw [exitCode_encoded, exitCode_encoded, isEncodable_printed, isEncodable_printed, same]
    rfl
  unfold ofBlock
  split
  · exact prints
  · exact prints
  · split
    · rw [exitCode_encoded, exitCode_encoded, isEncodable_written, isEncodable_written, same]
      rfl
    · rfl

/-- A whole message is printed. -/
theorem refuses_failed (whole : message.isWhole = true) :
    (failed message).encoded.Refuses message := by
  rw [encoded_of_isEncodable ((isEncodable_failed message).trans whole)]
  exact ⟨rfl, rfl, rfl⟩

/-- A message with a half is not printed. -/
theorem stops_failed (halved : message.isWhole = false) :
    (failed message).encoded.Stops none :=
  stops_of_not_isEncodable ((isEncodable_failed message).trans halved)

/-- A whole block is printed, or written and told of when the path is whole. -/
theorem delivers_ofBlock (whole : block.isWhole = true)
    (paths : ∀ path ∈ output, path.isWhole = true) :
    (ofBlock output block).encoded.Delivers output block where
  prints unnamed := by
    rw [ofBlock_of_unnamed unnamed, encoded_of_isEncodable ((isEncodable_printed _).trans whole)]
    exact ⟨rfl, rfl, rfl⟩
  writes path place given named located := by
    have fits : (written ⟨path, place, block ++ "\n"⟩).isEncodable = true := by
      rw [isEncodable_written, paths path given, whole]
      rfl
    rw [given, ofBlock_of_located named located, encoded_of_isEncodable fits]
    exact ⟨rfl, rfl, rfl⟩

/-- A block with a half is neither printed nor written. -/
theorem halts_ofBlock (halved : block.isWhole = false) :
    (ofBlock output block).encoded.Halts output [] where
  prints unnamed := by
    rw [ofBlock_of_unnamed unnamed]
    exact stops_of_not_isEncodable ((isEncodable_printed _).trans halved)
  writes path place given named located := by
    have unfit : (written ⟨path, place, block ++ "\n"⟩).isEncodable = false := by
      rw [isEncodable_written, halved, Bool.and_false]
    have emptied : OutputFile.File.encoded ⟨path, place, block ++ "\n"⟩ = ⟨path, place, []⟩ := by
      simp [OutputFile.File.encoded, halved]
    rw [given, ofBlock_of_located named located, ← emptied]
    exact stops_of_not_isEncodable unfit

/-- A whole block is written to the file of a path with a half, but not told of. -/
theorem halts_ofBlock_untold (whole : block.isWhole = true)
    (halved : ∃ path ∈ output, path.isWhole = false) :
    (ofBlock output block).encoded.Halts output (block ++ "\n") where
  prints unnamed := by
    obtain ⟨path, given, pathHalved⟩ := halved
    rcases unnamed with rfl | rfl
    · cases given
    · obtain rfl := Option.some.inj given
      cases pathHalved
  writes path place given named located := by
    obtain ⟨other, same, pathHalved⟩ := halved
    obtain rfl : path = other := Option.some.inj (given.symm.trans same)
    have unfit : (written ⟨path, place, block ++ "\n"⟩).isEncodable = false := by
      rw [isEncodable_written, pathHalved, Bool.false_and]
    have kept : OutputFile.File.encoded ⟨path, place, block ++ "\n"⟩ =
        ⟨path, place, block ++ "\n"⟩ := by
      simp [OutputFile.File.encoded, whole]
    have stopped := stops_of_not_isEncodable unfit
    rw [file?, Option.map_some, kept] at stopped
    rw [given, ofBlock_of_located named located]
    exact stopped

/-- The three ways to end, by the texts that have an encoding. -/
theorem ends_ofBlock (output : Option Text) (block : Text) :
    (ofBlock output block).encoded.Ends output block :=
  ⟨delivers_ofBlock, halts_ofBlock, halts_ofBlock_untold⟩

/-- The outcome for a draft that has a block. -/
theorem ofRender_of_block {arguments : RenderArguments} {draws : Draws} {block : Text}
    (drafted : arguments.draft.block (.valid arguments.name) draws = .ok block) :
    ofRender arguments draws = (ofBlock arguments.output block).encoded := by
  rw [ofRender, drafted]

/-- The outcome for a draft that has none. -/
theorem ofRender_of_error {arguments : RenderArguments} {draws : Draws} {error : DraftError}
    (refused : arguments.draft.block (.valid arguments.name) draws = .error error) :
    ofRender arguments draws = (failed error.message).encoded := by
  rw [ofRender, refused]

/-- The command for the block of a model with and without the default fields, where there are
definitions. Both end with the same exit code. Where a definition is not understood or the name is
blank, both refuse with one message and write no file. Else both have a block, which has the same
header and the same rest, and between them the lines of the default fields in the one case and
nothing in the other; whatever is drawn for either. A whole message is printed, and a whole block is
delivered. With a half in it neither is, and the command ends without a message; the file that was
to hold the block is left empty. Whole texts give whole messages and whole blocks. -/
theorem ofRender_agrees (name : Text) {definitions : List Text} (given : definitions ≠ []) :
    (∀ output draws others,
      (ofRender ⟨name, ⟨definitions, true⟩, output⟩ draws).exitCode =
        (ofRender ⟨name, ⟨definitions, false⟩, output⟩ others).exitCode) ∧
    ((((∃ text ∈ definitions, ∃ error, Definition.parse text = .error error) ∨
          name.isBlank = true) ∧
        ∃ message,
          ((∀ text ∈ name :: definitions, text.isWhole = true) → message.isWhole = true) ∧
          ∀ defaults output draws,
            let outcome := ofRender ⟨name, ⟨definitions, defaults⟩, output⟩ draws
            (message.isWhole = true → outcome.Refuses message) ∧
              (message.isWhole = false → outcome.Stops none)) ∨
      (((∀ text ∈ definitions, ∃ changes, Definition.parse text = .ok changes) ∧
          name.isBlank = false) ∧
        ∃ rest,
          ((∀ text ∈ name :: definitions, text.isWhole = true) →
            (Block.header name ++ Block.defaultLines ++ rest).isWhole = true) ∧
          (Block.header name ++ Block.defaultLines ++ rest).isWhole =
            (Block.header name ++ rest).isWhole ∧
          ∀ output draws,
            (ofRender ⟨name, ⟨definitions, false⟩, output⟩ draws).Ends output
              (Block.header name ++ rest) ∧
            (ofRender ⟨name, ⟨definitions, true⟩, output⟩ draws).Ends output
              (Block.header name ++ Block.defaultLines ++ rest))) := by
  rcases Draft.blocks_cases name given with
    ⟨why, error, texts, refused⟩ | ⟨why, rest, texts, drafted⟩
  · have failed (defaults : Bool) (output : Option Text) (draws : Draws) :
        ofRender ⟨name, ⟨definitions, defaults⟩, output⟩ draws =
          (failed error.message).encoded := ofRender_of_error (refused defaults draws)
    refine ⟨fun output draws others => ?_, .inl ⟨why, error.message, texts, ?_⟩⟩
    · rw [failed, failed]
    · intro defaults output draws
      rw [failed]
      exact ⟨refuses_failed, stops_failed⟩
  · have bare (output : Option Text) (draws : Draws) :
        ofRender ⟨name, ⟨definitions, false⟩, output⟩ draws =
          (ofBlock output (Block.header name ++ rest)).encoded :=
      ofRender_of_block (drafted draws).1
    have full (output : Option Text) (draws : Draws) :
        ofRender ⟨name, ⟨definitions, true⟩, output⟩ draws =
          (ofBlock output (Block.header name ++ Block.defaultLines ++ rest)).encoded :=
      ofRender_of_block (drafted draws).2
    have lines : Block.defaultLines.isWhole = true := by decide +kernel
    have same : (Block.header name ++ Block.defaultLines ++ rest).isWhole =
        (Block.header name ++ rest).isWhole := by
      rw [Text.isWhole_append, Text.isWhole_append, Text.isWhole_append, lines, Bool.and_true]
    refine ⟨fun output draws others => ?_,
      .inr ⟨why, rest, fun whole => same.trans (texts whole), same, fun output draws => ⟨?_, ?_⟩⟩⟩
    · rw [bare, full]
      exact exitCode_ofBlock output same
    · rw [bare]
      exact ends_ofBlock output _
    · rw [full]
      exact ends_ofBlock output _

/-- Two definitions as they may be typed. -/
def typed : List Text := ["title:String;default=untitled", " tags : json[]? ; ;unique"]

/-- Two definitions of which the second names no type. -/
def mistyped : List Text := ["title", "size:Number"]

/-- The path of a file in a folder that is not there yet. -/
def typedPath : Text := "schemas/post.prisma"

/-- The file with this path, and a content. -/
def typedFile (content : Text) : OutputFile.File :=
  ⟨typedPath, ⟨.above 0, ["post.prisma", "schemas"]⟩, content⟩

/-- Two definitions give blocks that are printed, and that are written to a file in a new folder,
with and without the default fields. The definition without a type is refused in every way. -/
theorem ofRender_agrees_typed :
    (∃ rest, ∀ draws,
      (ofRender ⟨" Post ", ⟨typed, false⟩, none⟩ draws).printout =
          "model Post \x7b\n" ++ rest ++ "\n" ∧
        (ofRender ⟨" Post ", ⟨typed, true⟩, none⟩ draws).printout =
          "model Post \x7b\n" ++ Block.defaultLines ++ rest ++ "\n" ∧
        (ofRender ⟨" Post ", ⟨typed, false⟩, some typedPath⟩ draws).file? =
          some (typedFile ("model Post \x7b\n" ++ rest ++ "\n")) ∧
        (ofRender ⟨" Post ", ⟨typed, true⟩, some typedPath⟩ draws).file? =
          some (typedFile ("model Post \x7b\n" ++ Block.defaultLines ++ rest ++ "\n"))) ∧
    ∃ message, ∀ defaults output draws,
      (ofRender ⟨" Post ", ⟨mistyped, defaults⟩, output⟩ draws).Refuses message := by
  have understood : ∀ text ∈ typed, ∀ error, Definition.parse text ≠ .error error := by
    have each : ∀ text ∈ typed, (Definition.parse text).isOk = true := by decide +kernel
    intro text mem error failed
    have met := each text mem
    rw [failed] at met
    cases met
  have wrong : Definition.parse "size:Number" = .error (.unknownType "Number") := by rfl
  have plain : ∀ name ∈ [("schemas" : Text), "post.prisma"], OutputFile.Plain name := by decide
  have located : OutputFile.locate typedPath =
      .ok ⟨.above 0, ["post.prisma", "schemas"]⟩ :=
    OutputFile.locate_of_plain (List.cons_ne_nil _ _) plain (by decide) (by decide)
  constructor
  · rcases (ofRender_agrees " Post " (show typed ≠ [] from List.cons_ne_nil _ _)).2 with
      ⟨⟨text, mem, error, failed⟩ | blank, -⟩ | ⟨-, rest, texts, same, ends⟩
    · exact absurd failed (understood text mem error)
    · cases blank
    · have whole := texts (by decide)
      have bare (output : Option Text) (draws : Draws) :=
        (ends output draws).1.delivers (same.symm.trans whole)
      have full (output : Option Text) (draws : Draws) := (ends output draws).2.delivers whole
      have wholePath : ∀ path ∈ some typedPath, path.isWhole = true := by decide
      refine ⟨rest, fun draws => ⟨?_, ?_, ?_, ?_⟩⟩
      · exact ((bare none draws nofun).prints (.inl rfl)).2.1
      · exact ((full none draws nofun).prints (.inl rfl)).2.1
      · exact ((bare _ draws wholePath).writes _ _ rfl (List.cons_ne_nil _ _) located).2.2
      · exact ((full _ draws wholePath).writes _ _ rfl (List.cons_ne_nil _ _) located).2.2
  · rcases (ofRender_agrees " Post " (show mistyped ≠ [] from List.cons_ne_nil _ _)).2 with
      ⟨-, message, texts, refused⟩ | ⟨⟨understood, -⟩, -⟩
    · exact ⟨message, fun defaults output draws =>
        (refused defaults output draws).1 (texts (by decide))⟩
    · obtain ⟨changes, read⟩ := understood "size:Number"
        (List.mem_cons_of_mem _ List.mem_cons_self)
      cases wrong.symm.trans read

/-- A command that writes the file with the path that it is given, or is refused with a message. -/
def WritesOrRefuses (path : Text) (outcome : Outcome) : Prop :=
  (outcome.exitCode = 0 ∧ ∃ file, outcome.file? = some file ∧ file.path = path) ∨
    ∃ message, outcome.Refuses message

/-- A name that holds a half of a surrogate pair, as a byte that is no UTF-8 is given. -/
def halfName : Text := "Post" ++ [CodePoint.half 0x4FF]

/-- A name with a half has no block that can be written: with and without the default fields the
command leaves an empty file and prints nothing. With an empty path the block of a name is printed
and no file is written. -/
theorem not_writesOrRefuses_half :
    (¬ (ofRender ⟨halfName, ⟨["title"], true⟩, some typedPath⟩ ⟨[], 0⟩).WritesOrRefuses typedPath ∧
      ¬ (ofRender ⟨halfName, ⟨["title"], false⟩, some typedPath⟩ ⟨[], 0⟩).WritesOrRefuses
        typedPath) ∧
    ¬ (ofRender ⟨"Post", ⟨["title"], false⟩, some []⟩ ⟨[], 0⟩).WritesOrRefuses [] := by
  have halved (defaults : Bool) :
      ofRender ⟨halfName, ⟨["title"], defaults⟩, some typedPath⟩ ⟨[], 0⟩ =
        unencodable (some (typedFile [])) := by
    cases defaults
    · decide +kernel
    · decide +kernel
  have printed : (ofRender ⟨"Post", ⟨["title"], false⟩, some []⟩ ⟨[], 0⟩).exitCode = 0 ∧
      (ofRender ⟨"Post", ⟨["title"], false⟩, some []⟩ ⟨[], 0⟩).file? = none := by
    decide +kernel
  have unfit : ¬ (unencodable (some (typedFile []))).WritesOrRefuses typedPath := by
    rintro (⟨code, -⟩ | ⟨message, refused⟩)
    · cases code
    · cases refused.file
  refine ⟨⟨?_, ?_⟩, ?_⟩
  · rw [halved]
    exact unfit
  · rw [halved]
    exact unfit
  · rintro (⟨-, file, written, -⟩ | ⟨message, refused⟩)
    · cases printed.2.symm.trans written
    · cases printed.1.symm.trans refused.exitCode

end CommandLine.Outcome

end SchemaDesk
