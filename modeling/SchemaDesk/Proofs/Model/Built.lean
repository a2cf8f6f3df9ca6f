import SchemaDesk.Proofs.Definition.Drafted
import SchemaDesk.Proofs.Shape.Effective
/-!
# Models built at once and field by field

A model is created from objects of attributes at once, or it is created without fields and one field
after another is added to it. Both make the same computation, since adding fields is making them
after those of the model (`Model.foldlM_addField`), and an object whose members are named as
attributes is the same blueprint either way. What one object comes to (`Edit.run_addField`) gives by
induction what a list comes to: all objects are fields, or the first one that is refused ends the
building, after the draw of its identifier (`Edit.run_foldlM_addField`). An identifier in an object
is left out before anything is made, and the default fields are those of three objects
(`Edit.builds_agree`).
-/

namespace SchemaDesk

namespace Edit

/-- The objects of the default fields. -/
def defaultObjects : List Members :=
  [[("name", .string "id"), ("type", .string "Int"), ("is_id", .bool true),
      ("default_value", .string "autoincrement()")],
    [("name", .string "createdAt"), ("type", .string "DateTime"),
      ("default_value", .string "now()")],
    [("name", .string "updatedAt"), ("type", .string "DateTime"), ("is_updated_at", .bool true)]]

/-- A model that is created without fields, with a field added for one object after another. -/
def buildUp (name : Text) (objects : List Members) : Drawing EditError Model :=
  createModel (.string name) (some []) >>= fun model => objects.foldlM addField model

variable {objects : List Members}

/-! ## Lists of objects -/

/-- What objects of attributes come to that are added one after another. Either each of them has the
values of a field, and the fields come after those of the model; or there is a first one that has
not, and the building ends with its details, after those before it are added and one more identifier
is drawn. -/
theorem run_foldlM_addField (named : ∀ attributes ∈ objects, NamesAttributes attributes)
    (model : Model) (draws : Draws) :
    (∃ fields after, (objects.foldlM addField model).run.run draws =
        (.ok { model with fields := model.fields ++ fields }, after) ∧
      List.Forall₂ (fun attributes field =>
        Shape.values.read .caller attributes = .valid field.value) objects fields) ∨
    ∃ before failed rest details made between, objects = before ++ failed :: rest ∧
      Shape.values.read .caller failed = .invalid details ∧
      (before.foldlM addField model).run.run draws = (.ok made, between) ∧
      (objects.foldlM addField model).run.run draws =
        (.error (.refused details), (between.fresh made.ids).2) := by
  induction objects generalizing model draws with
  | nil =>
    refine .inl ⟨[], draws, ?_, .nil⟩
    rw [List.append_nil]
    rfl
  | cons first others ih =>
    have firstNamed := named first List.mem_cons_self
    have step := run_addField firstNamed.free model draws
    cases read : Shape.values.read .caller first with
    | invalid details =>
      rw [read] at step
      refine .inr ⟨[], first, others, details, model, draws, rfl, read, rfl, ?_⟩
      rw [List.foldlM_cons, Drawing.run_bind, step]
    | valid values =>
      rw [read] at step
      let field := Field.ofValues (draws.fresh model.ids).1 values
      let next : Model := { model with fields := model.fields ++ [field] }
      have later := ih (fun attributes mem => named attributes (List.mem_cons_of_mem _ mem)) next
        (draws.fresh model.ids).2
      have goesOn (objects : List Members) :
          ((first :: objects).foldlM addField model).run.run draws =
            (objects.foldlM addField next).run.run (draws.fresh model.ids).2 := by
        rw [List.foldlM_cons, Drawing.run_bind, step]
      rcases later with ⟨fields, after, ran, each⟩ |
        ⟨before, failed, rest, details, made, between, cut, refused, begun, ran⟩
      · refine .inl ⟨field :: fields, after, ?_, .cons ?_ each⟩
        · rw [goesOn, ran, List.append_assoc]
          rfl
        · rw [read, Field.value_ofValues]
      · refine .inr ⟨first :: before, failed, rest, details, made, between, ?_, refused, ?_, ?_⟩
        · rw [cut, List.cons_append]
        · rw [goesOn, begun]
        · rw [goesOn, ran]

/-- A model that is created from objects is the one that is built up of them. -/
theorem createModel_eq_buildUp (named : ∀ attributes ∈ objects, NamesAttributes attributes)
    (name : Text) : createModel (.string name) (some objects) = buildUp name objects := by
  have blueprints :
      objects.map (fun attributes => blueprint reservedForField (withoutId attributes)) =
        objects.map (blueprint reservedForAdding) :=
    List.map_congr_left fun attributes mem => blueprint_withoutId (named attributes mem)
  have created : createModel (.string name) (some objects) =
      (Field.makeAll [] (objects.map fun attributes =>
          blueprint reservedForField (withoutId attributes)) >>= fun fields =>
        pure { name := name, fields := fields } : Drawing EditError Model) := rfl
  have added : objects.foldlM addField { name := name } =
      (objects.map (blueprint reservedForAdding)).foldlM Model.addField { name := name } := by
    rw [List.foldlM_map]
    rfl
  have begun : buildUp name objects = objects.foldlM addField { name := name } := rfl
  rw [created, blueprints, begun, added, Model.foldlM_addField]

/-- Objects that are the same apart from an identifier make the same model. -/
theorem createModel_of_sameApart {others : List Members}
    (same : List.Forall₂ (Json.SameApart "id") objects others) (name : Json) :
    createModel name (some objects) = createModel name (some others) := by
  have stripped (attributes : Members) :
      withoutId attributes = attributes.filter (·.1 ≠ Text.ofString "id") :=
    List.filter_congr fun member _ => by rw [bne, decide_not, beq_eq_decide]
  have blueprints :
      objects.map (fun attributes => blueprint reservedForField (withoutId attributes)) =
        others.map (fun attributes => blueprint reservedForField (withoutId attributes)) := by
    induction same with
    | nil => rfl
    | @cons left right _ _ first _ ih =>
      have kept : withoutId left = withoutId right := by
        rw [stripped, stripped]
        exact first
      rw [List.map_cons, List.map_cons, kept, ih]
  rw [createModel, createModel, Option.map_some, Option.map_some, blueprints]

/-- A model without given fields has those of the default objects. -/
theorem createModel_none (name : Text) :
    createModel (.string name) none = createModel (.string name) (some defaultObjects) := by
  have objects : defaultObjects = Model.defaultFields.map Definition.attributes := by rfl
  rw [objects, createModel_attributes]
  rfl

/-- All ways to build a model agree. From objects whose members are named as attributes, a model is
created at once just as it is built up: either both ways give the model whose fields have the values
of the objects, with the same identifiers and after the same draws; or there is a first object that
is refused, both ways build those before it to the same model, and both end with the details of this
object after one more identifier is drawn. An identifier in the objects changes nothing about the
model created of them. A model for which no fields are given is created like one of the objects of
the default fields. -/
theorem builds_agree :
    (∀ (name : Text) (objects : List Members),
      (∀ attributes ∈ objects, NamesAttributes attributes) → ∀ draws : Draws,
      (∃ fields after,
        List.Forall₂ (fun attributes field =>
          Shape.values.read .caller attributes = .valid field.value) objects fields ∧
        (createModel (.string name) (some objects)).run.run draws = (.ok ⟨name, fields⟩, after) ∧
        (buildUp name objects).run.run draws = (.ok ⟨name, fields⟩, after)) ∨
      ∃ before failed rest details made between, objects = before ++ failed :: rest ∧
        Shape.values.read .caller failed = .invalid details ∧
        (createModel (.string name) (some before)).run.run draws = (.ok made, between) ∧
        (buildUp name before).run.run draws = (.ok made, between) ∧
        (createModel (.string name) (some objects)).run.run draws =
          (.error (.refused details), (between.fresh made.ids).2) ∧
        (buildUp name objects).run.run draws =
          (.error (.refused details), (between.fresh made.ids).2)) ∧
    (∀ (name : Json) (objects others : List Members),
      List.Forall₂ (Json.SameApart "id") objects others →
        createModel name (some objects) = createModel name (some others)) ∧
    ∀ name : Text,
      createModel (.string name) none = createModel (.string name) (some defaultObjects) := by
  refine ⟨fun name objects named draws => ?_,
    fun name objects others same => createModel_of_sameApart same name, createModel_none⟩
  rcases run_foldlM_addField named { name := name } draws with ⟨fields, after, ran, each⟩ |
    ⟨before, failed, rest, details, made, between, cut, refused, early, ran⟩
  · refine .inl ⟨fields, after, each, ?_, ran⟩
    rw [createModel_eq_buildUp named]
    exact ran
  · have earlier : ∀ attributes ∈ before, NamesAttributes attributes := by
      intro attributes mem
      refine named attributes ?_
      rw [cut]
      exact List.mem_append_left _ mem
    refine .inr ⟨before, failed, rest, details, made, between, cut, refused, ?_, early, ?_, ran⟩
    · rw [createModel_eq_buildUp earlier]
      exact early
    · rw [createModel_eq_buildUp named]
      exact ran

/-- Objects in both spellings, the second of which has a type that is none. -/
def mixedObjects : List Members :=
  [[("name", .string "title"), ("mapName", .string "t"), ("map_name", .null)],
    [("name", .string "size"), ("type", .string "Text")], [("isOptional", .bool true)]]

/-- Identifiers of which one is drawn twice in a row. -/
def repeatedDraws : Draws := ⟨["a", "a", "b", "c"], 0⟩

/-- Both ways end at the second object, after three draws, and so they do when each object has an
identifier. -/
theorem builds_agree_mixed :
    (∀ attributes ∈ mixedObjects, NamesAttributes attributes) ∧
    (∃ before failed rest details made between, mixedObjects = before ++ failed :: rest ∧
      Shape.values.read .caller failed = .invalid details ∧
      (createModel (.string "Post") (some before)).run.run repeatedDraws = (.ok made, between) ∧
      (buildUp "Post" before).run.run repeatedDraws = (.ok made, between) ∧
      (createModel (.string "Post") (some mixedObjects)).run.run repeatedDraws =
        (.error (.refused details), (between.fresh made.ids).2) ∧
      (buildUp "Post" mixedObjects).run.run repeatedDraws =
        (.error (.refused details), (between.fresh made.ids).2)) ∧
    ((createModel (.string "Post") (some mixedObjects)).run.run repeatedDraws).2 = ⟨["c"], 3⟩ ∧
    List.Forall₂ (Json.SameApart "id") mixedObjects
      (mixedObjects.map (("id", .string "a") :: ·)) ∧
    createModel (.string "Post") (some mixedObjects) =
      createModel (.string "Post") (some (mixedObjects.map (("id", .string "a") :: ·))) := by
  have spelled : ∀ attributes ∈ mixedObjects, ∀ member ∈ attributes,
      ∃ attr ∈ Attribute.all, attr.member.Spells member.1 := by decide
  have named : ∀ attributes ∈ mixedObjects, NamesAttributes attributes := by
    intro attributes mem member here
    obtain ⟨attr, -, spells⟩ := spelled attributes mem member here
    exact ⟨attr, spells⟩
  have same : List.Forall₂ (Json.SameApart "id") mixedObjects
      (mixedObjects.map (("id", .string "a") :: ·)) := by
    rw [List.forall₂_map_right_iff]
    exact List.forall₂_same.mpr fun attributes _ => by simp [Json.SameApart]
  refine ⟨named, ?_, by decide, same, builds_agree.2.1 _ _ _ same⟩
  rcases builds_agree.1 "Post" mixedObjects named repeatedDraws with
    ⟨fields, after, each, -, -⟩ | refused
  · obtain - | ⟨-, - | ⟨second, -⟩⟩ := each
    cases second
  · exact refused

end Edit

end SchemaDesk
