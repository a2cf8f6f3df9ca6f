import Mathlib.Logic.Function.Basic
import Mathlib.Logic.Relation
import SchemaDesk.Proofs.Block.Faithful
import SchemaDesk.Proofs.Text.Padded
/-!
# Changes that no block shows

Two models have one block, or are refused for the same reason, when their trimmed names are equal
and their named fields show the same one by one (`Block.render_eq_of_shown`). So every change that
leaves the trimmed name and what the named fields show leaves the outcome as it is: another
identifier, a nameless field more or less, blanks around the name, a default that an identifier
does not keep, half a relation, and a comma list written anew. `render_eq_of_alike` is about any
number of these changes, made and taken back in any order.
-/

namespace SchemaDesk

/-! ## Blocks show nothing else -/

namespace Block

/-- What a rule writes for a field depends on what the field shows. -/
theorem rest?_eq_of_shown {left right : Field} (same : shown left = shown right) (rule : Rule) :
    rule.rest? left = rule.rest? right := by
  have type : left.type = right.type := congrArg Shown.type same
  have isId : left.isId = right.isId := congrArg Shown.isId same
  have isUnique : left.isUnique = right.isUnique := congrArg Shown.isUnique same
  have isUpdatedAt : left.isUpdatedAt = right.isUpdatedAt := congrArg Shown.isUpdatedAt same
  have value : shownDefault left = shownDefault right := congrArg Shown.defaultValue same
  have mapName : left.mapName = right.mapName := congrArg Shown.mapName same
  have relation : shownRelation left = shownRelation right := congrArg Shown.relation same
  cases rule with
  | id => rw [Rule.rest?, Rule.rest?, isId]
  | default => rw [Rule.rest?, Rule.rest?, value, isId, type]
  | unique => rw [Rule.rest?, Rule.rest?, isUnique]
  | updatedAt => rw [Rule.rest?, Rule.rest?, isUpdatedAt]
  | map => rw [Rule.rest?, Rule.rest?, mapName]
  | relation => rw [Rule.rest?, Rule.rest?, relation]

/-- Fields that show the same have the same line. -/
theorem line_eq_of_shown {left right : Field} (same : shown left = shown right) :
    line left = line right := by
  have name : left.name = right.name := congrArg Shown.name same
  have type : left.type = right.type := congrArg Shown.type same
  have isArray : left.isArray = right.isArray := congrArg Shown.isArray same
  have isOptional : left.isOptional = right.isOptional := congrArg Shown.isOptional same
  have written : Rule.token? left = Rule.token? right := by
    funext rule
    rw [Rule.token?, Rule.token?, rest?_eq_of_shown same]
  have tokens : tokens left = tokens right := by
    rw [← Rule.filterMap_token?, ← Rule.filterMap_token?, written]
  rw [line, line, typeText, typeText, name, type, isArray, isOptional, tokens]

/-- Fields that show the same one by one have the same lines. -/
theorem body_eq_of_shown {left right : List Field} (same : left.map shown = right.map shown) :
    body left = body right := by
  obtain ⟨write, written⟩ := (Function.factorsThrough_iff line).mp
    fun _ _ : Field => line_eq_of_shown
  have lines : left.map line = right.map line := by
    rw [written, ← List.map_map, same, List.map_map]
  have parted : ∀ fields : List Field,
      body fields = (fields.map line).flatMap (· ++ [.char '\n']) ++ [.char '\x7d'] := by
    intro fields
    rw [body, List.flatMap_map]
  rw [parted, parted, lines]

/-- Models with one trimmed name whose named fields show the same have the same block, or are
refused for the same reason. -/
theorem render_eq_of_shown {left right : Model} (name : left.name.trim = right.name.trim)
    (fields : (namedFields left).map shown = (namedFields right).map shown) :
    render left = render right := by
  have blank : left.name.isBlank = right.name.isBlank := Text.isBlank_eq_of_trim name
  have header : header left.name = header right.name := by rw [header, header, name]
  have unnamed : namedFields left = [] ↔ namedFields right = [] := by
    rw [← List.map_eq_nil_iff, fields, List.map_eq_nil_iff]
  simp only [render, blank, unnamed, header, body_eq_of_shown fields]

end Block

/-! ## The changes -/

open Text.CommaList in
/-- A field and the same field with a change that its line does not show. -/
inductive Field.Retouched : Field → Field → Prop where
  /-- Another identifier. -/
  | id (field : Field) (id : Text) : Retouched field { field with id := id }
  /-- Another default value of an identifier that is no integer. -/
  | defaultValue (field : Field) (value : Text) (isId : field.isId = true)
      (type : field.type ≠ .int) : Retouched field { field with defaultValue := value }
  /-- Other fields of a relation that refers to none. -/
  | fields (field : Field) (list : Text) (half : field.relationReferences = []) :
      Retouched field { field with relationFields := list }
  /-- Other fields to refer to of a relation without fields of its own. -/
  | references (field : Field) (list : Text) (half : field.relationFields = []) :
      Retouched field { field with relationReferences := list }
  /-- The fields of a relation written anew. -/
  | joinedFields (field : Field) (given : field.relationFields ≠ [])
      (left : joined (tokens field.relationFields) ≠ []) :
      Retouched field { field with relationFields := joined (tokens field.relationFields) }
  /-- The fields that a relation refers to written anew. -/
  | joinedReferences (field : Field) (given : field.relationReferences ≠ [])
      (left : joined (tokens field.relationReferences) ≠ []) :
      Retouched field { field with relationReferences := joined (tokens field.relationReferences) }

/-- A model and the same model with one change that its block does not show. -/
inductive Model.Retouched : Model → Model → Prop where
  /-- Blanks around the name. -/
  | name (model : Model) (before after : Text) (blankBefore : before.isBlank = true)
      (blankAfter : after.isBlank = true) :
      Retouched model { model with name := before ++ model.name ++ after }
  /-- A change of a field. -/
  | field (name : Text) (before after : List Field) {old new : Field}
      (retouched : old.Retouched new) :
      Retouched ⟨name, before ++ old :: after⟩ ⟨name, before ++ new :: after⟩
  /-- A field more, whose name is blank. -/
  | nameless (name : Text) (before after : List Field) (extra : Field)
      (blank : extra.name.isBlank = true) :
      Retouched ⟨name, before ++ after⟩ ⟨name, before ++ extra :: after⟩

/-- Two models of which one becomes the other by changes that blocks do not show, each made or taken
back. -/
def Model.Alike : Model → Model → Prop := Relation.EqvGen Model.Retouched

namespace Block

/-- Half a relation is not shown. -/
theorem shownRelation_of_half {field : Field}
    (half : field.relationFields = [] ∨ field.relationReferences = []) :
    shownRelation field = none := if_pos half

/-- A relation shows the same when its lists have the same tokens and it is half as before. -/
theorem shownRelation_eq_of_tokens {old new : Field}
    (half : (old.relationFields = [] ∨ old.relationReferences = []) ↔
      (new.relationFields = [] ∨ new.relationReferences = []))
    (fields : Text.CommaList.tokens old.relationFields =
      Text.CommaList.tokens new.relationFields)
    (references : Text.CommaList.tokens old.relationReferences =
      Text.CommaList.tokens new.relationReferences) :
    shownRelation old = shownRelation new := by
  simp only [shownRelation, half, fields, references]

/-- A field shows the same with other lists that make the same relation. -/
theorem shown_eq_of_relation {field : Field} {fields references : Text}
    (same : shownRelation field =
      shownRelation { field with relationFields := fields, relationReferences := references }) :
    shown field =
      shown { field with relationFields := fields, relationReferences := references } := by
  rw [shown, same]
  rfl

/-- A retouched field shows the same. -/
theorem shown_eq_of_retouched {old new : Field} (retouched : old.Retouched new) :
    shown old = shown new := by
  cases retouched with
  | id id => rfl
  | defaultValue value isId type =>
    have dropped : ∀ value : Text, shownDefault { old with defaultValue := value } = [] :=
      fun value => if_pos ⟨isId, type⟩
    have same : shownDefault old = shownDefault { old with defaultValue := value } :=
      (dropped old.defaultValue).trans (dropped value).symm
    rw [shown, same]
    rfl
  | fields list half =>
    have before := shownRelation_of_half (.inr half)
    have after := @shownRelation_of_half { old with relationFields := list } (.inr half)
    exact shown_eq_of_relation (before.trans after.symm)
  | references list half =>
    have before := shownRelation_of_half (.inl half)
    have after := @shownRelation_of_half { old with relationReferences := list } (.inl half)
    exact shown_eq_of_relation (before.trans after.symm)
  | joinedFields given left =>
    have half : (old.relationFields = [] ∨ old.relationReferences = []) ↔
        (Text.CommaList.joined (Text.CommaList.tokens old.relationFields) = [] ∨
          old.relationReferences = []) := by
      rw [or_iff_right given, or_iff_right left]
    exact shown_eq_of_relation (shownRelation_eq_of_tokens half
      (Text.CommaList.tokens_joined_tokens old.relationFields).symm rfl)
  | joinedReferences given left =>
    have half : (old.relationFields = [] ∨ old.relationReferences = []) ↔
        (old.relationFields = [] ∨
          Text.CommaList.joined (Text.CommaList.tokens old.relationReferences) = []) := by
      rw [or_iff_left given, or_iff_left left]
    exact shown_eq_of_relation (shownRelation_eq_of_tokens half rfl
      (Text.CommaList.tokens_joined_tokens old.relationReferences).symm)

/-- The named fields of a model are those among the first fields and those among the others. -/
theorem namedFields_append (name : Text) (before after : List Field) :
    namedFields ⟨name, before ++ after⟩ = namedFields ⟨name, before⟩ ++ namedFields ⟨name, after⟩ :=
  List.filter_append before after

/-- A field in front shows itself when its name is not blank. -/
theorem map_shown_namedFields_cons (name : Text) (first : Field) (rest : List Field) :
    (namedFields ⟨name, first :: rest⟩).map shown =
      (if first.name.isBlank then [] else [shown first]) ++
        (namedFields ⟨name, rest⟩).map shown := by
  by_cases blank : first.name.isBlank = true
  · rw [namedFields, List.filter_cons_of_neg (by simp [blank]), if_pos blank]
    rfl
  · rw [namedFields, List.filter_cons_of_pos (by simp [blank]), if_neg blank]
    rfl

/-- A retouched model has the same trimmed name, and its named fields show the same. -/
theorem shown_eq_of_retouched_model {old new : Model} (retouched : old.Retouched new) :
    old.name.trim = new.name.trim ∧
      (namedFields old).map shown = (namedFields new).map shown := by
  cases retouched with
  | name _ before after blankBefore blankAfter =>
    have trimmed : (before ++ old.name ++ after).trim = old.name.trim := by
      rw [Text.trim_append_right blankAfter, Text.trim_append_left blankBefore]
    exact ⟨trimmed.symm, rfl⟩
  | @field name before after first other retouched =>
    have shows : shown first = shown other := shown_eq_of_retouched retouched
    have named : first.name = other.name := congrArg Shown.name shows
    refine ⟨rfl, ?_⟩
    rw [namedFields_append, namedFields_append, List.map_append, List.map_append,
      map_shown_namedFields_cons, map_shown_namedFields_cons, shows, named]
  | nameless name before after extra blank =>
    refine ⟨rfl, ?_⟩
    rw [namedFields_append, namedFields_append, List.map_append, List.map_append,
      map_shown_namedFields_cons, if_pos blank, List.nil_append]

/-- Models that are alike have the same block, or are refused for the same reason. -/
theorem render_eq_of_alike {left right : Model} (alike : left.Alike right) :
    render left = render right := by
  induction alike with
  | rel old new retouched =>
    obtain ⟨name, fields⟩ := shown_eq_of_retouched_model retouched
    exact render_eq_of_shown name fields
  | refl model => rfl
  | symm old new _ same => exact same.symm
  | trans first second third _ _ early late => exact early.trans late

/-- A model of a log, as it is written at first. -/
def logged : Model where
  name := "Log\t"
  fields := [{ id := "a" },
    { id := "b", name := "key", isId := true, defaultValue := "uuid()" },
    { id := "c", name := "author", type := .json, relationFields := "a",
      relationReferences := "id,key" }]

/-- The same model without what no block shows. -/
def loggedAnew : Model where
  name := "Log"
  fields := [{ id := "b", name := "key", isId := true },
    { id := "d", name := "author", type := .json, relationFields := "a",
      relationReferences := "id, key" }]

/-- A tab after the name, a nameless field, the default of a text identifier, an identifier and the
blanks of a comma list may all change at once. -/
theorem render_eq_of_alike_logged :
    logged.Alike loggedAnew ∧ render logged = render loggedAnew := by
  let key : Field := { id := "b", name := "key", isId := true, defaultValue := "uuid()" }
  let author : Field :=
    { id := "c", name := "author", type := .json, relationFields := "a",
      relationReferences := "id,key" }
  let joined : Field := { author with relationReferences := "id, key" }
  have name : Model.Alike ⟨"Log", [{ id := "a" }, key, author]⟩ logged :=
    .rel _ _ (.name ⟨"Log", [{ id := "a" }, key, author]⟩ [] "\t" (by decide) (by decide))
  have nameless : Model.Alike ⟨"Log", [key, author]⟩ ⟨"Log", [{ id := "a" }, key, author]⟩ :=
    .rel _ _ (.nameless "Log" [] [key, author] { id := "a" } (by decide))
  have value : Model.Alike ⟨"Log", [key, author]⟩
      ⟨"Log", [{ key with defaultValue := [] }, author]⟩ :=
    .rel _ _ (.field "Log" [] [author] (.defaultValue key [] rfl (by decide)))
  have list : Model.Alike ⟨"Log", [{ key with defaultValue := [] }, author]⟩
      ⟨"Log", [{ key with defaultValue := [] }, joined]⟩ :=
    .rel _ _ (.field "Log" [{ key with defaultValue := [] }] []
      (.joinedReferences author (by decide) (by decide)))
  have id : Model.Alike ⟨"Log", [{ key with defaultValue := [] }, joined]⟩ loggedAnew :=
    .rel _ _ (.field "Log" [{ key with defaultValue := [] }] [] (.id joined "d"))
  have alike : logged.Alike loggedAnew :=
    .trans _ _ _ (.symm _ _ name) (.trans _ _ _ (.symm _ _ nameless)
      (.trans _ _ _ value (.trans _ _ _ list id)))
  exact ⟨alike, render_eq_of_alike alike⟩

end Block

end SchemaDesk
