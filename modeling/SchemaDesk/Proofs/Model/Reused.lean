import Mathlib.Order.Monotone.Basic
import SchemaDesk.Proofs.Model.Distinct
/-!
# Identifiers given again

A field that is made is told apart from the fields of its time, and no record is kept of those
removed before. So a source that draws a token twice can give a field the identifier of a removed
one (`Life.not_neverReuses_repeating`). Nothing but the source can: whatever edits are made, every
identifier of a new field is a token drawn for it (`Edit.spends`), and so an identifier is given
again only when its token is drawn again for the later field (`Life.drawn_again`).
-/

namespace SchemaDesk

/-! ## The tokens that a computation draws -/

namespace Draws

/-- The next tokens of a source, as many as are asked for. -/
def upcoming (draws : Draws) (count : Nat) : List Text := (List.range count).map draws.token

/-- The upcoming tokens are those before a count. -/
theorem mem_upcoming_iff {draws : Draws} {count : Nat} {id : Text} :
    id ∈ draws.upcoming count ↔ ∃ index < count, draws.token index = id := by
  simp [upcoming]

/-- The next tokens are some of them, and then those of the source after them. -/
theorem upcoming_add (draws : Draws) (count more : Nat) :
    draws.upcoming (count + more) = draws.upcoming count ++ (draws.after count).upcoming more := by
  have later : (fun index => draws.token (count + index)) = (draws.after count).token := by
    funext index
    rw [token_after]
  rw [upcoming, List.range_add, List.map_append, List.map_map]
  exact congrArg (fun token => draws.upcoming count ++ (List.range more).map token) later

end Draws

/-- A computation that draws some of the next tokens, refused or not, and gives values that stand in
a relation to the tokens drawn. -/
def Drawing.Spends {ε α : Type} (computation : Drawing ε α) (relation : List Text → α → Prop) :
    Prop :=
  ∀ draws, ∃ count, (computation.run.run draws).2 = draws.after count ∧
    ∀ value, (computation.run.run draws).1 = .ok value → relation (draws.upcoming count) value

namespace Drawing

variable {ε α β : Type} {relation : List Text → α → Prop}

/-- A computation that draws nothing spends nothing. -/
theorem spends_pure {value : α} (holds : relation [] value) :
    (pure value : Drawing ε α).Spends relation := by
  intro draws
  refine ⟨0, rfl, fun other same => ?_⟩
  obtain rfl : value = other := Except.ok.inj same
  exact holds

/-- A computation that fails has no value to relate to what it spends. -/
theorem spends_throw (reason : ε) (relation : List Text → α → Prop) :
    (throw reason : Drawing ε α).Spends relation :=
  fun _ => ⟨0, rfl, nofun⟩

/-- A computation that only hands on an outcome spends nothing. -/
theorem spends_mk {outcome : Except ε α}
    (holds : ∀ value, outcome = .ok value → relation [] value) :
    Drawing.Spends (ExceptT.mk (pure outcome)) relation :=
  fun _ => ⟨0, rfl, holds⟩

/-- What holds of tokens and value can be weakened. -/
theorem Spends.imp {computation : Drawing ε α} {other : List Text → α → Prop}
    (spends : computation.Spends relation)
    (weaker : ∀ spent value, relation spent value → other spent value) :
    computation.Spends other := by
  intro draws
  obtain ⟨count, left, given⟩ := spends draws
  exact ⟨count, left, fun value ran => weaker _ value (given value ran)⟩

/-- A computation after another draws the tokens that follow. -/
theorem Spends.bind {first : Drawing ε α} {next : α → Drawing ε β}
    {later : α → List Text → β → Prop} {whole : List Text → β → Prop}
    (early : first.Spends relation) (late : ∀ value, (next value).Spends (later value))
    (join : ∀ spent value more last, relation spent value → later value more last →
      whole (spent ++ more) last) : (first >>= next).Spends whole := by
  intro draws
  obtain ⟨count, left, given⟩ := early draws
  rw [run_bind]
  match ran : first.run.run draws with
  | (.error reason, after) =>
    rw [ran] at left
    exact ⟨count, left, nofun⟩
  | (.ok value, after) =>
    rw [ran] at left given
    obtain rfl : after = draws.after count := left
    obtain ⟨more, leftLater, givenLater⟩ := late value (draws.after count)
    refine ⟨count + more, leftLater.trans (draws.after_after count more), fun last gives => ?_⟩
    rw [Draws.upcoming_add]
    exact join _ value _ last (given value rfl) (givenLater last gives)

/-- A fresh identifier is a token drawn. -/
theorem spends_freshId (taken : List Text) :
    (freshId taken : Drawing ε Text).Spends fun spent id => id ∈ spent := by
  intro draws
  obtain ⟨index, -, -, -, found⟩ := draws.fresh_eq taken
  refine ⟨index + 1, congrArg Prod.snd found, fun id same => ?_⟩
  have drawn : (draws.fresh taken).1 = id := Except.ok.inj same
  rw [found] at drawn
  exact Draws.mem_upcoming_iff.mpr ⟨index, Nat.lt_succ_self index, drawn⟩

end Drawing

/-! ## The identifiers that edits bring -/

namespace Field

variable {ε : Type}

/-- The identifier of a field that is made is one of the tokens spent for it. -/
theorem spends_make (taken : List Text) (blueprint : Blueprint ε) :
    (make taken blueprint).Spends fun spent field => field.id ∈ spent := by
  have drawn : (Drawing.freshId taken : Drawing ε Text).Spends fun spent id => id ∈ spent :=
    Drawing.spends_freshId taken
  cases blueprint with
  | of values =>
    have made : ∀ id, (pure (ofValues id values) : Drawing ε Field).Spends
        fun _ field => field.id = id := fun id => Drawing.spends_pure rfl
    refine drawn.bind made ?_
    rintro spent id more field mem rfl
    exact List.mem_append_left _ mem
  | faulty reason =>
    exact drawn.bind (fun _ => Drawing.spends_throw reason fun _ _ => False)
      fun _ _ _ _ _ absurd => absurd.elim
  | unusable reason => exact Drawing.spends_throw reason _

/-- The fields that are made have tokens drawn for them as identifiers. -/
theorem spends_makeAll (made : List Field) (blueprints : List (Blueprint ε)) :
    (makeAll made blueprints).Spends fun spent fields =>
      ∃ new, fields = made ++ new ∧ ∀ field ∈ new, field.id ∈ spent := by
  induction blueprints generalizing made with
  | nil => exact Drawing.spends_pure ⟨[], (List.append_nil made).symm, nofun⟩
  | cons blueprint rest ih =>
    rw [makeAll]
    refine (spends_make _ blueprint).bind (fun field => ih (made ++ [field])) ?_
    rintro spent field more fields mem ⟨new, rfl, drawn⟩
    refine ⟨field :: new, by rw [List.append_assoc]; rfl, ?_⟩
    rw [List.forall_mem_cons]
    refine ⟨List.mem_append_left _ mem, fun other later => ?_⟩
    exact List.mem_append_right _ (drawn other later)

end Field

namespace Model

variable {ε : Type}

/-- All identifiers of a model made from nothing are drawn for it. -/
theorem spends_create (name : Except ε Text) (fields : Option (List (Blueprint ε))) :
    (create name fields).Spends fun spent model => ∀ id ∈ model.ids, id ∈ spent := by
  have named : ∀ made : List Field,
      (do return { name := ← name, fields := made } : Drawing ε Model).Spends
        fun _ model => model.fields = made := by
    intro made
    cases name with
    | ok name => exact Drawing.spends_pure rfl
    | error reason => exact Drawing.spends_throw reason _
  have join : ∀ (spent : List Text) (made : List Field) (more : List Text) (model : Model),
      (∃ new, made = [] ++ new ∧ ∀ field ∈ new, field.id ∈ spent) → model.fields = made →
        ∀ id ∈ model.ids, id ∈ spent ++ more := by
    rintro spent made more model ⟨new, rfl, drawn⟩ same id mem
    rw [ids, same] at mem
    obtain ⟨field, fieldMem, rfl⟩ := List.mem_map.mp mem
    exact List.mem_append_left _ (drawn field fieldMem)
  cases fields with
  | none => exact (Field.spends_makeAll [] _).bind named join
  | some blueprints => exact (Field.spends_makeAll [] blueprints).bind named join

/-- A field that is added has a token drawn for it as identifier; the others keep theirs. -/
theorem spends_addField (model : Model) (blueprint : Blueprint ε) :
    (model.addField blueprint).Spends fun spent made =>
      ∃ id ∈ spent, made.ids = model.ids ++ [id] := by
  have added : ∀ field : Field,
      (pure { model with fields := model.fields ++ [field] } : Drawing ε Model).Spends
        fun _ made => made.ids = model.ids ++ [field.id] :=
    fun field => Drawing.spends_pure (List.map_append ..)
  refine (Field.spends_make model.ids blueprint).bind added ?_
  intro spent field more made mem same
  exact ⟨field.id, List.mem_append_left _ mem, same⟩

/-- Changing fields brings no identifier. -/
theorem ids_updateField {model updated : Model} {id : Text} {given : Except ε Changes}
    (outcome : model.updateField id given = .ok updated) : updated.ids = model.ids := by
  rw [updateField] at outcome
  split at outcome
  · cases given with
    | ok changes =>
      obtain rfl := Except.ok.inj outcome
      exact ids_mergeField model id changes
    | error reason => cases outcome
  · obtain rfl := Except.ok.inj outcome
    rfl

end Model

namespace Edit

/-- The identifiers of the fields that an edit makes: all those of a model made from nothing, and
those behind the fields that there were when a field is added. -/
def newIds (edit : Edit) (model made : Model) : List Text :=
  match edit with
  | create _ _ | reset => made.ids
  | add _ => made.ids.drop model.ids.length
  | load _ | remove _ | update _ _ | updateChecked _ _ | rename _ => []

/-- Every identifier of a field that an edit makes is a token drawn for it, and every other one was
there before. Only a model that is loaded has the identifiers that it comes with. -/
theorem spends (edit : Edit) (own : ∀ given, edit ≠ load given) (model : Model) :
    (edit.apply model).Spends fun spent made =>
      (∀ id ∈ edit.newIds model made, id ∈ spent) ∧
        ∀ id ∈ made.ids, id ∈ model.ids ∨ id ∈ spent := by
  -- An edit that makes no field draws nothing and brings no identifier.
  have kept : ∀ made : Model, (∀ id ∈ made.ids, id ∈ model.ids) →
      (∀ id ∈ ([] : List Text), id ∈ ([] : List Text)) ∧
        ∀ id ∈ made.ids, id ∈ model.ids ∨ id ∈ ([] : List Text) :=
    fun made within => ⟨nofun, fun id mem => .inl (within id mem)⟩
  have anew : ∀ (spent : List Text) (made : Model), (∀ id ∈ made.ids, id ∈ spent) →
      (∀ id ∈ made.ids, id ∈ spent) ∧ ∀ id ∈ made.ids, id ∈ model.ids ∨ id ∈ spent :=
    fun spent made drawn => ⟨drawn, fun id mem => .inr (drawn id mem)⟩
  cases edit with
  | load given => exact absurd rfl (own given)
  | create name fields => exact (Model.spends_create _ _).imp anew
  | reset => exact (Model.spends_create _ _).imp anew
  | add attributes =>
    refine (Model.spends_addField model _).imp ?_
    rintro spent made ⟨id, drawn, same⟩
    rw [newIds, same, List.drop_left]
    refine ⟨List.forall_mem_singleton.mpr drawn, fun other mem => ?_⟩
    rcases List.mem_append.mp mem with before | last
    · exact .inl before
    · exact .inr (List.mem_singleton.mp last ▸ drawn)
  | remove id =>
    refine Drawing.spends_pure (kept _ fun other mem => ?_)
    rw [Model.ids, Model.fields_removeField] at mem
    exact (List.filter_sublist.map _).mem mem
  | update id changes =>
    exact Drawing.spends_mk fun made outcome => kept made fun other mem =>
      Model.ids_updateField outcome ▸ mem
  | updateChecked id changes =>
    refine Drawing.spends_mk fun made outcome => kept made fun other mem => ?_
    cases checked : EditError.ofChecked (Shape.fieldUpdate.read .caller changes) with
    | ok valid =>
      rw [checked] at outcome
      exact Model.ids_updateField outcome ▸ mem
    | error reason =>
      rw [checked] at outcome
      cases outcome
  | rename name => exact Drawing.spends_pure (kept _ fun _ mem => mem)

end Edit

/-! ## Lives of models -/

/-- The edits that are made to one model after another, each to what the one before it left, and the
source that the identifiers are drawn from. -/
structure Life where
  /-- The source before the first edit. -/
  draws : Draws
  /-- The edits in order. -/
  edits : List Edit

/-- The model and the source after an edit. A refused edit leaves the model as it is, but the tokens
that it has drawn are used up. -/
def Edit.follow (state : Model × Draws) (edit : Edit) : Model × Draws :=
  match (edit.apply state.1).run.run state.2 with
  | (.ok made, left) => (made, left)
  | (.error _, left) => (state.1, left)

namespace Life

/-- The model and the source after the first edits of a life, which begins with an empty model. -/
def after (life : Life) (count : Nat) : Model × Draws :=
  (life.edits.take count).foldl Edit.follow ({}, life.draws)

/-- The number of tokens that the first edits have drawn. -/
def drawn (life : Life) (count : Nat) : Nat := (life.after count).2.drawn - life.draws.drawn

/-- The identifiers of the fields that an edit makes, none when it is refused. -/
def newIds (life : Life) (index : Nat) : List Text :=
  match life.edits[index]? with
  | none => []
  | some edit =>
    match ((edit.apply (life.after index).1).run.run (life.after index).2).1 with
    | .ok made => edit.newIds (life.after index).1 made
    | .error _ => []

/-- An identifier that a field has before some edit, which removes the field or starts over, and
that a field has which is made by then or later. -/
structure Reuses (life : Life) (id : Text) (removal making : Nat) : Prop where
  /-- A field has the identifier before it is removed. -/
  had : id ∈ (life.after removal).1.ids
  /-- The field is removed. -/
  removed : life.edits[removal]? = some (.remove id) ∨ life.edits[removal]? = some .reset
  /-- The other field is made later. -/
  later : removal ≤ making
  /-- The other field is made with the identifier. -/
  made : id ∈ life.newIds making

/-- No identifier of a removed field is given to a field made later. -/
def NeverReuses (life : Life) : Prop := ∀ id removal making, ¬ life.Reuses id removal making

/-- One more edit follows those before it. -/
theorem after_succ (life : Life) (count : Nat) :
    life.after (count + 1) = (life.edits[count]?).toList.foldl Edit.follow (life.after count) := by
  rw [after, List.take_add_one, List.foldl_append, ← after]

variable {life : Life}

/-- The tokens drawn are counted by what is left of the source. -/
theorem drawn_eq {count tokens : Nat} (left : (life.after count).2 = life.draws.after tokens) :
    life.drawn count = tokens := by
  have counted : (life.after count).2.drawn = life.draws.drawn + tokens :=
    congrArg Draws.drawn left
  rw [drawn, counted]
  omega

/-- An edit of a life draws some of the tokens that follow, and the identifiers that it brings are
among them. -/
theorem step (own : ∀ edit ∈ life.edits, ∀ given, edit ≠ .load given) (index : Nat) :
    ∃ more, (life.after (index + 1)).2 = (life.after index).2.after more ∧
      (∀ id ∈ life.newIds index, id ∈ (life.after index).2.upcoming more) ∧
      ∀ id ∈ (life.after (index + 1)).1.ids,
        id ∈ (life.after index).1.ids ∨ id ∈ (life.after index).2.upcoming more := by
  rw [after_succ, newIds]
  cases found : life.edits[index]? with
  | none => exact ⟨0, rfl, nofun, fun id mem => .inl mem⟩
  | some edit =>
    have loads : ∀ given, edit ≠ .load given := own edit (List.mem_of_getElem? found)
    obtain ⟨more, left, given⟩ := edit.spends loads (life.after index).1 (life.after index).2
    refine ⟨more, ?_⟩
    simp only [Option.toList_some, List.foldl_cons, List.foldl_nil, Edit.follow]
    match ran : (edit.apply (life.after index).1).run.run (life.after index).2 with
    | (.ok made, after) =>
      rw [ran] at left given
      exact ⟨left, given made rfl⟩
    | (.error reason, after) =>
      rw [ran] at left
      exact ⟨left, nofun, fun id mem => .inl mem⟩

/-- After any number of edits the source has drawn the tokens counted. -/
theorem source_eq (own : ∀ edit ∈ life.edits, ∀ given, edit ≠ .load given) (count : Nat) :
    (life.after count).2 = life.draws.after (life.drawn count) := by
  induction count with
  | zero =>
    have undrawn : life.drawn 0 = 0 := Nat.sub_self life.draws.drawn
    rw [undrawn]
    rfl
  | succ count ih =>
    obtain ⟨more, left, -, -⟩ := step own count
    rw [ih] at left
    have total : (life.after (count + 1)).2 = life.draws.after (life.drawn count + more) :=
      left.trans (life.draws.after_after _ more)
    rw [drawn_eq total]
    exact total

/-- The step of an edit, with its tokens counted from the start of the life. -/
theorem step_counted (own : ∀ edit ∈ life.edits, ∀ given, edit ≠ .load given) (index : Nat) :
    ∃ more, life.drawn (index + 1) = life.drawn index + more ∧
      (∀ id ∈ life.newIds index, id ∈ (life.draws.after (life.drawn index)).upcoming more) ∧
      ∀ id ∈ (life.after (index + 1)).1.ids, id ∈ (life.after index).1.ids ∨
        id ∈ (life.draws.after (life.drawn index)).upcoming more := by
  obtain ⟨more, left, new, brought⟩ := step own index
  rw [source_eq own index] at left new brought
  exact ⟨more, drawn_eq (left.trans (life.draws.after_after _ more)), new, brought⟩

/-- Every identifier of the model after some edits is a token that they have drawn. -/
theorem ids_drawn (own : ∀ edit ∈ life.edits, ∀ given, edit ≠ .load given) (count : Nat) :
    ∀ id ∈ (life.after count).1.ids, id ∈ life.draws.upcoming (life.drawn count) := by
  induction count with
  | zero => exact nofun
  | succ count ih =>
    intro id mem
    obtain ⟨more, total, -, brought⟩ := step_counted own count
    rw [total, Draws.upcoming_add]
    rcases brought id mem with before | new
    · exact List.mem_append_left _ (ih id before)
    · exact List.mem_append_right _ new

/-- The identifiers of the fields that an edit makes are tokens that it draws. -/
theorem exists_token_of_mem_newIds (own : ∀ edit ∈ life.edits, ∀ given, edit ≠ .load given)
    {index : Nat} {id : Text} (mem : id ∈ life.newIds index) :
    ∃ later, life.drawn index ≤ later ∧ later < life.drawn (index + 1) ∧
      life.draws.token later = id := by
  obtain ⟨more, total, new, -⟩ := step_counted own index
  obtain ⟨place, bound, same⟩ := Draws.mem_upcoming_iff.mp (new id mem)
  rw [Draws.token_after] at same
  exact ⟨life.drawn index + place, by omega, by omega, same⟩

/-- No edit gives back a token. -/
theorem drawn_mono (own : ∀ edit ∈ life.edits, ∀ given, edit ≠ .load given) :
    Monotone life.drawn := by
  refine monotone_nat_of_le_succ fun index => ?_
  obtain ⟨more, total, -, -⟩ := step_counted own index
  rw [total]
  exact Nat.le_add_right _ more

/-- The identifier of a removed field is given to a later field only when its token, which was drawn
before the field was removed, is drawn again for the later one. -/
theorem drawn_again (own : ∀ edit ∈ life.edits, ∀ given, edit ≠ .load given) {id : Text}
    {removal making : Nat} (reuses : life.Reuses id removal making) :
    ∃ earlier later, earlier < life.drawn removal ∧ life.drawn making ≤ later ∧
      later < life.drawn (making + 1) ∧ earlier < later ∧
      life.draws.token earlier = id ∧ life.draws.token later = id := by
  obtain ⟨had, -, order, made⟩ := reuses
  obtain ⟨earlier, early, first⟩ := Draws.mem_upcoming_iff.mp (ids_drawn own removal id had)
  obtain ⟨later, after, late, again⟩ := exists_token_of_mem_newIds own made
  have between : life.drawn removal ≤ life.drawn making := drawn_mono own order
  exact ⟨earlier, later, early, after, late, by omega, first, again⟩

/-- A life whose source draws one token for two fields, of which the first is removed before the
other is made. -/
def repeating : Life where
  draws := ⟨["a", "a"], 0⟩
  edits := [.create (.string "M") (some [[("name", .string "x")]]), .remove "a",
    .add [("name", .string "y")]]

/-- The identifier of the removed field is given to the later one. -/
theorem not_neverReuses_repeating : ¬ repeating.NeverReuses := by
  intro never
  have had : Text.ofString "a" ∈ (repeating.after 1).1.ids := by decide
  have made : Text.ofString "a" ∈ repeating.newIds 2 := by decide
  exact never "a" 1 2 ⟨had, .inl rfl, by decide, made⟩

/-- A life that starts over, and whose source then draws the token of the first field once more. -/
def startedOver : Life where
  draws := ⟨["a", "b", "a"], 0⟩
  edits := [.create (.string "M") (some [[("name", .string "x")]]), .add [], .reset]

/-- The field that the life starts over with has the identifier of the first field, whose token is
drawn twice. -/
theorem drawn_again_startedOver :
    (∀ edit ∈ startedOver.edits, ∀ given, edit ≠ .load given) ∧ startedOver.Reuses "a" 2 2 ∧
      ∃ earlier later, earlier < startedOver.drawn 2 ∧ startedOver.drawn 2 ≤ later ∧
        later < startedOver.drawn (2 + 1) ∧ earlier < later ∧
        startedOver.draws.token earlier = "a" ∧ startedOver.draws.token later = "a" := by
  have own : ∀ edit ∈ startedOver.edits, ∀ given, edit ≠ .load given := by
    simp [startedOver]
  have had : Text.ofString "a" ∈ (startedOver.after 2).1.ids := by decide
  have made : Text.ofString "a" ∈ startedOver.newIds 2 := by decide
  have reuses : startedOver.Reuses "a" 2 2 := ⟨had, .inr rfl, Nat.le_refl 2, made⟩
  exact ⟨own, reuses, drawn_again own reuses⟩

end Life

end SchemaDesk
