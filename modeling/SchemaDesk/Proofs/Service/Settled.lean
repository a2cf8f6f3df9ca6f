import SchemaDesk.Proofs.Model.Whole
import SchemaDesk.Proofs.Service.Records
import SchemaDesk.Proofs.Session.Eviction
/-!
# How requests are settled

A request with whole texts, to a service whose limit leaves room, is settled in one of three ways
(`Service.Settled`): its session is not there, a model has no block, or the request is met. Only a
request that is met changes a session, and what it is answered can be written. Whatever the way, the
store stays fit for the next request (`Store.Serving`).
-/

namespace SchemaDesk

namespace Table

variable {α : Type}

/-- Erasing a key that is not there changes nothing. -/
theorem erase_of_notMem {table : Table α} {key : Text} (absent : key ∉ table.keys) :
    table.erase key = table := by
  have entries : table.entries.filter (·.1 != key) = table.entries := by
    rw [List.filter_eq_self]
    intro entry mem
    have other : entry.1 ≠ key := fun same => absent (same ▸ List.mem_map_of_mem mem)
    exact bne_iff_ne.mpr other
  cases table
  simp only [erase, mk.injEq]
  exact entries

end Table

namespace Store

variable {α : Type} {store : Store α}

/-- Dropping a session that is not there changes nothing. -/
theorem drop_of_not_exists (sound : store.Sound) {session : Text}
    (gone : store.exists? session = false) : store.drop session = store := by
  have absent : session ∉ store.items.keys := fun mem => by
    rw [mem_sessions.mp mem] at gone
    cases gone
  have unlocked : session ∉ store.locks.keys := by rwa [sound.paired]
  rw [drop, Table.erase_of_notMem absent, Table.erase_of_notMem unlocked]

/-- Creating a session draws a fresh identifier, and no more. -/
theorem create_draws (item : α) (store : Store α) :
    (create item store).2.draws = (store.draws.fresh store.sessions).2 ∧
      ∀ session, (create item store).1 = some session →
        session = (store.draws.fresh store.sessions).1 := by
  let draws := (store.draws.fresh store.sessions).2
  have drawn : (store.roomFor draws).draws = draws :=
    makeRoom_induction (motive := fun room => room.draws = draws) (fun _ _ kept => kept) _ rfl
  cases made : ({ store with draws := draws } : Store α).makeRoom.1 with
  | true =>
    have both : makeRoom { store with draws := (store.draws.fresh store.sessions).2 } =
        (true, store.roomFor draws) := Prod.ext made rfl
    simp only [create, both]
    exact ⟨drawn, fun session same => (Option.some.inj same).symm⟩
  | false =>
    have both : makeRoom { store with draws := (store.draws.fresh store.sessions).2 } =
        (false, store.roomFor draws) := Prod.ext made rfl
    simp only [create, both]
    exact ⟨drawn, fun session same => by cases same⟩

/-- A store that is fit for requests: it is sound, its limit leaves room, and the texts that it
holds and draws are whole. -/
structure Serving (store : Store Model) : Prop where
  /-- The store is sound. -/
  sound : store.Sound
  /-- There can be room for a session. -/
  limited : 0 ≤ store.limit
  /-- The tokens to draw are whole. -/
  drawn : store.draws.IsWhole
  /-- The identifiers of sessions and their models are whole. -/
  whole : ∀ {session model}, store.get? session = some model →
    session.isWhole = true ∧ model.isWhole = true

variable {store : Store Model}

/-- An empty store is fit for requests when its tokens are whole. -/
theorem serving_empty (limit : Nat) {draws : Draws} (drawn : draws.IsWhole) :
    Serving ⟨limit, .empty, .empty, 0, draws⟩ where
  sound := sound_empty _ draws
  limited := Int.natCast_nonneg limit
  drawn := drawn
  whole found := by simp [get?, Table.find?, Table.empty] at found

/-- A store that is fit for requests stays so with another source of whole tokens. -/
theorem Serving.withDraws (serving : store.Serving) {draws : Draws} (drawn : draws.IsWhole) :
    Serving { store with draws := draws } :=
  ⟨⟨serving.sound.paired, serving.sound.issued, serving.sound.apart⟩, serving.limited, drawn,
    serving.whole⟩

/-- A store that is fit for requests stays so when a session is dropped. -/
theorem Serving.drop (serving : store.Serving) (session : Text) : (store.drop session).Serving where
  sound := sound_drop serving.sound session
  limited := serving.limited
  drawn := serving.drawn
  whole found := by
    rw [get?_drop, Option.ite_none_left_eq_some] at found
    exact serving.whole found.2

/-- There is room for a session with a whole model, and its identifier is whole. -/
theorem Serving.create (serving : store.Serving) {model : Model} (whole : model.isWhole = true) :
    (Store.create model store).2.Serving ∧ ∃ session,
      (Store.create model store).1 = some session ∧ session.isWhole = true := by
  obtain ⟨limit, limited⟩ := Int.eq_ofNat_of_zero_le serving.limited
  obtain ⟨id, -, created, kept, -⟩ := create_eq model limited
  obtain ⟨draws, drawnId⟩ := create_draws model store
  obtain ⟨idWhole, left⟩ := serving.drawn.fresh store.sessions
  rw [← drawnId id created] at idWhole
  have sound := (keeps_create model store serving.sound).1
  refine ⟨⟨sound, ?_, draws ▸ left, fun {session stored} found => ?_⟩, id, created, idWhole⟩
  · rw [kept]
    exact Int.natCast_nonneg limit
  · rw [get?_create (exists?_of_get? found), created] at found
    split at found
    next same =>
      obtain rfl := Option.some.inj same
      exact ⟨idWhole, Option.some.inj found ▸ whole⟩
    next => exact serving.whole found

end Store

/-! ## Requests with whole texts -/

namespace ServiceRequest

/-- The session that a request is about. -/
def session? : ServiceRequest → Option Text
  | .get session | .delete session | .schema session | .rename session _ | .add session _
  | .update session _ _ | .remove session _ | .reset session => some session
  | _ => none

/-- Whether a request asks for a block. -/
def asksBlock : ServiceRequest → Bool
  | .schema _ | .render _ => true
  | _ => false

/-- Whether a request has no faults and brings no model as it is, and every text that it gives to a
model is whole. -/
def IsWhole : ServiceRequest → Prop
  | .create name fields => (∃ text, name = .valid text ∧ text.isWhole = true) ∧
      ∀ list ∈ fields, ∀ changes ∈ list, changes.IsWhole
  | .rename _ name => name.isWhole = true
  | .add _ changes | .update _ _ changes => changes.IsWhole
  | .render asked => asked.name.isWhole = true ∧ ∀ changes ∈ asked.fields, changes.IsWhole
  | .get _ | .delete _ | .schema _ | .remove _ _ | .reset _ => True
  | .createFor _ | .save _ _ | .refused _ => False

/-- The session that a request edits is the one that it is about. -/
theorem session?_of_edits {request : ServiceRequest} {session : Text}
    (edits : request.edits = some session) : request.session? = some session := by
  cases request with
  | rename | add | update | remove | reset => exact edits
  | _ => cases edits

/-- An edit with whole texts makes a whole model of a whole model. -/
theorem makesWhole_edit {request : ServiceRequest} (whole : request.IsWhole) {model : Model}
    (modelWhole : model.isWhole = true) :
    (request.edit model).MakesWhole fun made => made.isWhole = true := by
  cases request with
  | rename session name =>
    have fields := (Model.isWhole_iff.mp modelWhole).2
    exact Drawing.makesWhole_pure (Model.isWhole_iff.mpr ⟨whole, fields⟩)
  | add session changes => exact Model.makesWhole_addField modelWhole whole
  | update session field changes =>
    obtain ⟨updated, given, updatedWhole⟩ := Model.isWhole_updateField modelWhole field whole
    exact Drawing.makesWhole_mk given updatedWhole
  | remove session field =>
    exact Drawing.makesWhole_pure (Model.isWhole_removeField modelWhole field)
  | reset session => exact Model.makesWhole_reset
  | _ => exact Drawing.makesWhole_pure modelWhole

end ServiceRequest

/-- Whether every text of what an answer carries is whole. -/
def Payload.IsWhole : Payload → Prop
  | .nothing => True
  | .model held => held.isWhole = true
  | .session created => created.session.isWhole = true ∧ created.model.isWhole = true
  | .schema shown => shown.name.isWhole = true ∧ shown.text.isWhole = true

namespace Service

variable {service : Service} {store : Store Model} {request : ServiceRequest}

/-- The ways in which a request is settled, with its answer and the store afterwards. -/
inductive Settled (service : Service) (request : ServiceRequest) (store : Store Model) :
    Outcome × Store Model → Prop where
  /-- The session that it is about is not there. Nothing is drawn. -/
  | absent {session : Text} (about : request.session? = some session)
    (gone : store.exists? session = false) :
    Settled service request store (.error (service.notFound session), store)
  /-- The model that it asks the block of has none. No session is changed. -/
  | unwritable {error : BlockError} {draws : Draws} (asks : request.asksBlock = true)
    (drawn : draws.IsWhole) :
    Settled service request store (.error (.problem error.problem), { store with draws := draws })
  /-- The block that it asks for is told. No session is changed. -/
  | rendered {payload : Payload} {message : String} {draws : Draws}
    (asks : request.asksBlock = true) (whole : payload.IsWhole) (drawn : draws.IsWhole) :
    Settled service request store (.ok (.told payload message), { store with draws := draws })
  /-- It is met. -/
  | met {payload : Payload} {message : Text} {after : Store Model}
    (whole : payload.IsWhole) (worded : message.isWhole = true) (serving : after.Serving) :
    Settled service request store (.ok (.told payload message), after)

/-- The answer to a request for the block of a whole model. -/
theorem settled_rendered (asks : request.asksBlock = true) {model : Model}
    (whole : model.isWhole = true) {draws : Draws} (drawn : draws.IsWhole) :
    Settled service request store (Service.rendered model, { store with draws := draws }) := by
  rw [Service.rendered]
  cases block : Block.render model with
  | error error => exact .unwritable asks drawn
  | ok text =>
    have named := Text.isWhole_trim (Model.isWhole_iff.mp whole).1
    exact .rendered asks ⟨named, Block.isWhole_render whole block⟩ drawn

/-- A request that edits a model is settled. -/
theorem settled_edit (serving : store.Serving) (whole : request.IsWhole) {session : Text}
    (edits : request.edits = some session) :
    Settled service request store (service.answer request store) := by
  have kept := ((service.keeps_work request).alone store serving.sound).1
  rcases service.answer_edit serving.sound edits with
    ⟨gone, answer⟩ | ⟨model, made, after, message, found, ran, answer⟩
  · rw [answer]
    exact .absent (ServiceRequest.session?_of_edits edits) (Store.get?_eq_none_iff.mp gone)
  · have answered : (service.work request).alone store = _ := answer
    rw [answered] at kept
    rw [answer]
    obtain ⟨sessionWhole, modelWhole⟩ := serving.whole found
    obtain ⟨same, left, makes, leftWhole, madeWhole⟩ :=
      ServiceRequest.makesWhole_edit whole modelWhole store.draws serving.drawn
    obtain ⟨rfl, rfl⟩ : same = made ∧ left = after := by
      rw [makes, Prod.mk.injEq, Except.ok.injEq] at ran
      exact ran
    refine .met madeWhole (Text.isWhole_ofString message)
      ⟨kept, serving.limited, leftWhole, fun {other stored} put => ?_⟩
    have found : (store.items.put session same).find? other = some stored := put
    rw [Table.find?_put] at found
    split at found
    next here => exact ⟨here ▸ sessionWhole, Option.some.inj found ▸ madeWhole⟩
    next => exact serving.whole found

/-- A model with a valid name is created from what is given of its fields. -/
theorem newModel_valid (name : Text) (fields : Option (List Changes)) :
    newModel (.valid name) fields = Model.create (.ok name) (fields.map (·.map Model.blueprint)) :=
  rfl

/-- Every request with whole texts is settled in one of the ways. -/
theorem settled_answer (named : service.entity.isWhole = true) (serving : store.Serving)
    (whole : request.IsWhole) :
    Settled service request store (service.answer request store) := by
  have worded : ∀ message : String, (service.entity ++ message).isWhole = true := by
    intro message
    rw [Text.isWhole_append, named, Text.isWhole_ofString]
    rfl
  cases request with
  | rename | add | update | remove | reset => exact settled_edit serving whole rfl
  | get session =>
    rw [answer_get]
    cases found : store.get? session with
    | some model => exact .met (serving.whole found).2 (worded _) serving
    | none => exact .absent rfl (Store.get?_eq_none_iff.mp found)
  | schema session =>
    rw [answer_schema]
    cases found : store.get? session with
    | some model => exact settled_rendered rfl (serving.whole found).2 serving.drawn
    | none => exact .absent rfl (Store.get?_eq_none_iff.mp found)
  | delete session =>
    rw [answer_delete]
    cases live : store.exists? session with
    | true => exact .met trivial (worded _) (serving.drop session)
    | false =>
      rw [Store.drop_of_not_exists serving.sound live]
      exact .absent rfl live
  | render asked =>
    obtain ⟨model, after, ran, afterWhole, modelWhole⟩ := Model.makesWhole_create whole.1
      (fun list given => Option.some.inj given ▸ whole.2) store.draws serving.drawn
    rw [answer_render, newModel_valid, ran]
    exact settled_rendered rfl modelWhole afterWhole
  | create name fields =>
    obtain ⟨⟨text, rfl, textWhole⟩, fieldsWhole⟩ := whole
    obtain ⟨model, after, ran, afterWhole, modelWhole⟩ :=
      Model.makesWhole_create textWhole fieldsWhole store.draws serving.drawn
    obtain ⟨kept, session, created, sessionWhole⟩ :=
      (serving.withDraws afterWhole).create modelWhole
    rw [answer_create, newModel_valid, ran]
    dsimp only
    rw [createSession_eq, created]
    exact .met ⟨sessionWhole, modelWhole⟩ (worded _) kept
  | createFor | save | refused => cases whole

end Service

end SchemaDesk
