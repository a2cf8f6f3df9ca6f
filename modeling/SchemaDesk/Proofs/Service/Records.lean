import SchemaDesk.Proofs.Service.Discarded
/-!
# Records of answered requests

A request takes effect in one piece at the moment it is answered: the store and the answer are then
those of the same request made while nothing else goes on (`Sound.step_cases`), whether it was
answered as it was made or had to wait for the lock of its session. So what has gone on at a service
is told by the answered requests in order, each with its answer and the source that was drawn from.
`Conducted` are the runs in which nobody but the service puts models into the store.
-/

namespace SchemaDesk

/-- The edit that a request makes to a model; a request that edits none leaves it as it is. -/
def ServiceRequest.edit (request : ServiceRequest) (model : Model) : Drawing ServiceError Model :=
  match request with
  | .rename _ name => return model.rename name
  | .add _ attributes => model.addField (Model.blueprint attributes)
  | .update _ field changes => ExceptT.mk (pure (model.updateField field (.ok changes)))
  | .remove _ field => return model.removeField field
  | .reset _ => Model.reset
  | _ => return model

namespace Service

variable {service : Service} {floor : Floor ServiceRequest Model Outcome} {store : Store Model}
  {request : ServiceRequest} {session : Text}

/-! ## The effect of a request -/

/-- A request that edits a session has the work of its edit. -/
theorem work_of_edits (service : Service) (edits : request.edits = some session) :
    ∃ message : String,
      service.work request = service.editing session message request.edit := by
  cases request with
  | rename | add | update | remove | reset =>
    obtain rfl := Option.some.inj edits
    exact ⟨_, rfl⟩
  | _ => cases edits

/-- A request whose work takes the lock of a session edits it. -/
theorem edits_of_work {act : Option Model → StateM (Store Model) Outcome}
    (work : service.work request = .locked session act) : request.edits = some session := by
  rcases service.work_cases request with ⟨act, plain, -⟩ | ⟨_, _, _, editing, edits, -⟩
  · cases plain.symm.trans work
  · obtain ⟨rfl, -⟩ := Work.locked.inj (editing.symm.trans work)
    exact edits

/-- No request edits a model in a way that is refused. -/
theorem neverRefused_edit (request : ServiceRequest) : NeverRefused request.edit := by
  intro model draws
  cases request with
  | update session field changes =>
    change ∃ edited, model.updateField field (.ok changes) = .ok edited
    rw [Model.updateField]
    split
    · exact ⟨_, rfl⟩
    · exact ⟨_, rfl⟩
  | _ => exact ⟨_, rfl⟩

/-- A request that edits a model is answered that its session is not there, or with the model
edited, which is then the one of its session, and a message of fixed words. -/
theorem answer_edit (sound : store.Sound) (edits : request.edits = some session) :
    (store.get? session = none ∧
        service.answer request store = (.error (service.notFound session), store)) ∨
      ∃ model made after, ∃ message : String, store.get? session = some model ∧
        (request.edit model).run.run store.draws = (.ok made, after) ∧
        service.answer request store =
          (.ok (.told (.model made) message),
            { store with draws := after, items := store.items.put session made }) := by
  obtain ⟨message, work⟩ := service.work_of_edits edits
  rw [answer_of_editing sound work]
  rcases service.editSeen_cases (neverRefused_edit request) session message store with
    gone | ⟨model, made, after, found, ran, answer⟩
  · exact .inl gone
  · exact .inr ⟨model, made, after, message, found, ran, answer⟩

/-- A request for a model is answered with it, or not found. -/
theorem answer_get (service : Service) (session : Text) (store : Store Model) :
    service.answer (.get session) store =
      (match store.get? session with
        | some model => .ok (.told (.model model) (service.entity ++ " retrieved successfully"))
        | none => .error (service.notFound session), store) := rfl

/-- A request for a block is answered with that of the model, or not found. -/
theorem answer_schema (service : Service) (session : Text) (store : Store Model) :
    service.answer (.schema session) store =
      (match store.get? session with
        | some model => rendered model
        | none => .error (service.notFound session), store) := rfl

/-- A request to delete a session is answered by whether it was there. -/
theorem answer_delete (service : Service) (session : Text) (store : Store Model) :
    service.answer (.delete session) store =
      (if store.exists? session then
        .ok (.told .nothing (service.entity ++ " session deleted successfully"))
      else .error (service.notFound session), store.drop session) := by
  simp only [Service.answer, work, Work.alone, bind, StateT.bind, Store.delete]
  cases store.exists? session <;> rfl

/-- The model that an answer carries. -/
def carried : Outcome → Option Model
  | .ok (.told (.model model) _) => some model
  | .ok (.told (.session created) _) => some created.model
  | .ok (.saved model) => some model
  | _ => none

/-- What a request that saves no model can do to a store, with its answer. -/
inductive Effect (service : Service) (request : ServiceRequest) (store : Store Model) :
    Outcome × Store Model → Prop where
  /-- It edits the model of a session that is not there, or asks for it. -/
  | absent {session : Text} (about : request.edits = some session ∨ request = .get session)
    (gone : store.get? session = none) :
    Effect service request store (.error (service.notFound session), store)
  /-- It edits the model of a session. -/
  | edited {session message : Text} {model made : Model} {after : Draws}
    (edits : request.edits = some session) (found : store.get? session = some model)
    (ran : (request.edit model).run.run store.draws = (.ok made, after)) :
    Effect service request store (.ok (.told (.model made) message),
      { store with draws := after, items := store.items.put session made })
  /-- It creates a session for a model that is given or made. -/
  | created {session message : Text} {model : Model} {draws : Draws}
    (edits : request.edits = none)
    (origin : request = .createFor model ∨ ∃ name fields, request = .create name fields ∧
      (newModel name fields).run.run store.draws = (.ok model, draws))
    (new : (Store.create model { store with draws := draws }).1 = some session) :
    Effect service request store (.ok (.told (.session ⟨session, model⟩) message),
      (Store.create model { store with draws := draws }).2)
  /-- It asks for the model of a session. -/
  | asked {session message : Text} {model : Model} (asks : request = .get session)
    (found : store.get? session = some model) :
    Effect service request store (.ok (.told (.model model) message), store)
  /-- It is answered without a model, and changes no model. -/
  | other {outcome : Outcome} {after : Store Model} (edits : request.edits = none)
    (asks : ∀ session, request ≠ .get session) (bare : carried outcome = none)
    (alone : ∀ session, after.exists? session = true →
      after.get? session = store.get? session) :
    Effect service request store (outcome, after)

/-- A block carries no model. -/
theorem carried_rendered (model : Model) : carried (rendered model) = none := by
  rw [rendered]
  cases Block.render model <;> rfl

/-- A request for a session has one of the effects of creating it, or finds no room. -/
theorem effect_createSession {model : Model} {draws : Draws} (edits : request.edits = none)
    (origin : request = .createFor model ∨ ∃ name fields, request = .create name fields ∧
      (newModel name fields).run.run store.draws = (.ok model, draws)) :
    Effect service request store (service.createSession model { store with draws := draws }) := by
  rw [createSession_eq]
  cases created : (Store.create model { store with draws := draws }).1 with
  | some session => exact .created edits origin created
  | none =>
    have asks : ∀ session, request ≠ .get session := by
      rintro session rfl
      rcases origin with given | ⟨_, _, made, -⟩
      · cases given
      · cases made
    refine .other edits asks rfl fun session live => ?_
    rw [Store.get?_create live, created, if_neg nofun]
    rfl

/-- Every request that saves no model has one of the effects. -/
theorem effect_answer (sound : store.Sound) (own : ∀ session model, request ≠ .save session model) :
    Effect service request store (service.answer request store) := by
  cases edits : request.edits with
  | some session =>
    rcases service.answer_edit sound edits with
      ⟨gone, answer⟩ | ⟨model, made, after, message, found, ran, answer⟩
    · rw [answer]
      exact .absent (.inl edits) gone
    · rw [answer]
      exact .edited edits found ran
  | none =>
    by_cases asks : ∃ session, request = .get session
    · obtain ⟨session, rfl⟩ := asks
      rw [answer_get]
      cases found : store.get? session with
      | some model => exact .asked rfl found
      | none => exact .absent (.inr rfl) found
    · have other : ∀ session, request ≠ .get session := fun session same => asks ⟨session, same⟩
      cases request with
      | rename | add | update | remove | reset => cases edits
      | get session => exact absurd rfl (other session)
      | save session model => exact absurd rfl (own session model)
      | create name fields =>
        rw [answer_create]
        cases made : (newModel name fields).run.run store.draws with
        | mk outcome after =>
          cases outcome with
          | ok model => exact effect_createSession edits (.inr ⟨name, fields, rfl, made⟩)
          | error error => exact .other edits other rfl fun _ _ => rfl
      | createFor model => exact effect_createSession edits (.inl rfl)
      | schema session =>
        rw [answer_schema]
        refine .other edits other ?_ fun _ _ => rfl
        cases store.get? session with
        | some model => exact carried_rendered model
        | none => rfl
      | delete session =>
        rw [answer_delete]
        refine .other edits other ?_ fun kept live =>
          (Store.leavesAlone_drop store kept session live).1
        split <;> rfl
      | render asked =>
        rw [answer_render]
        cases (newModel (.valid asked.name) (some asked.fields)).run.run store.draws with
        | mk outcome after =>
          cases outcome with
          | ok model => exact .other edits other (carried_rendered model) fun _ _ => rfl
          | error error => exact .other edits other rfl fun _ _ => rfl
      | refused details => exact .other edits other rfl fun _ _ => rfl

/-! ## Records -/

/-- An answered request: the source that was drawn from, and the answer. -/
structure Record where
  /-- The request. -/
  request : ServiceRequest
  /-- The source before the request took effect. -/
  draws : Draws
  /-- The answer. -/
  outcome : Outcome

/-- The record of a request that is made while nothing else goes on. -/
def record (service : Service) (request : ServiceRequest) (store : Store Model) : Record :=
  ⟨request, store.draws, (service.answer request store).1⟩

/-- The records of the requests that a move answers. -/
def recorded (service : Service) (floor : Floor ServiceRequest Model Outcome) (move : Move) :
    List Record :=
  ((service.step floor move).answers.drop floor.answers.length).map fun entry =>
    ⟨entry.1, floor.desk.store.draws, entry.2⟩

/-- A move in which nobody puts a model into the store except by a request for a session, or for an
edit of the model of a session. -/
def Move.isOwn : Move → Prop
  | .ask (.save _ _) | .desk (.create _) | .desk (.replace _ _) | .desk (.save _ _) => False
  | _ => True

/-- The floors that such moves lead to from a store without sessions, with the records of all
requests that have been answered. -/
inductive Conducted (service : Service) :
    List Record → Floor ServiceRequest Model Outcome → Prop where
  | start (limit : Int) (draws : Draws) :
    Conducted service [] ⟨⟨⟨limit, .empty, .empty, 0, draws⟩, [], 0⟩, [], []⟩
  | move {records : List Record} {floor : Floor ServiceRequest Model Outcome}
    (run : Conducted service records floor) {move : Move} (allowed : Allows floor move)
    (own : move.isOwn) :
    Conducted service (records ++ service.recorded floor move) (service.step floor move)

namespace Conducted

variable {records : List Record} (run : service.Conducted records floor)

include run

/-- A request leads on, with its record. -/
theorem ask (request : ServiceRequest) (own : (Move.ask request).isOwn) :
    service.Conducted (records ++ service.recorded floor (.ask request))
      (service.step floor (.ask request)) :=
  run.move trivial own

/-- A job that goes on leads on, with its record. -/
theorem proceed {job : Job ServiceRequest Model Outcome} (mem : job ∈ floor.jobs) :
    service.Conducted (records ++ service.recorded floor (.proceed job))
      (service.step floor (.proceed job)) :=
  run.move mem trivial

/-- What happens at the desk apart from the jobs leads on, with its record. -/
theorem desk (event : Desk.Event Model) (apart : ∀ job ∈ floor.jobs, event.task? ≠ some job.task)
    (own : (Move.desk event).isOwn) :
    service.Conducted (records ++ service.recorded floor (.desk event))
      (service.step floor (.desk event)) :=
  run.move apart own

end Conducted

/-- A run that is recorded leads to a reachable floor. -/
theorem Conducted.reachable {records : List Record} (run : service.Conducted records floor) :
    service.Reachable floor := by
  induction run with
  | start limit draws => exact .start limit draws
  | move _ allowed _ ih => exact ih.move allowed

/-- A request that waited for its lock takes effect as if it were made when it is let in. -/
theorem Sound.act_eq_answer (sound : service.Sound floor)
    {job : Job ServiceRequest Model Outcome} (mem : job ∈ floor.jobs) {seen : Option Model}
    (found : (floor.desk.resume job.task).seen? job.task = some seen) :
    job.act seen floor.desk.store = service.answer job.label floor.desk.store := by
  obtain ⟨task, -, -, -, work⟩ := sound.jobs job mem
  obtain ⟨session, -, -, edits, -, -, rfl⟩ := sound.edits_of_seen mem found
  obtain rfl := Option.some.inj ((edits_of_work work).symm.trans edits)
  rw [Service.answer, work, ← Work.seenAtOnce_eq sound.desk.store]
  rfl

/-- A move answers one request, which takes effect as if nothing else went on; or it answers none
and at most drops a session. -/
theorem Sound.step_cases (sound : service.Sound floor) {move : Move} (allowed : Allows floor move)
    (own : move.isOwn) :
    (∃ request, (∀ session model, request ≠ .save session model) ∧
        service.recorded floor move = [service.record request floor.desk.store] ∧
        (service.step floor move).desk.store = (service.answer request floor.desk.store).2) ∨
      (service.recorded floor move = [] ∧
        ((service.step floor move).desk.store = floor.desk.store ∨
          ∃ session, (service.step floor move).desk.store = floor.desk.store.drop session)) := by
  have one : ∀ {after : Floor ServiceRequest Model Outcome} {entry : ServiceRequest × Outcome},
      after.answers = floor.answers ++ [entry] →
        (after.answers.drop floor.answers.length) = [entry] := by
    intro after entry answers
    rw [answers, List.drop_left]
  have silent : ∀ {after : Floor ServiceRequest Model Outcome}, after.answers = floor.answers →
      (after.answers.drop floor.answers.length) = [] := by
    intro after answers
    rw [answers, List.drop_length]
  cases move with
  | ask request =>
    have kept : ∀ session model, request ≠ .save session model := by
      rintro session model rfl
      exact own
    rcases ask_cases sound request with ⟨arrivals, -, asked⟩ | ⟨waited, act, -, -, asked⟩
    · left
      refine ⟨request, kept, ?_, ?_⟩
      · rw [recorded, Service.step, one (by rw [asked])]
        rfl
      · rw [Service.step, asked]
    · right
      rw [recorded, Service.step, silent (by rw [asked]), asked]
      exact ⟨rfl, .inl rfl⟩
  | proceed job =>
    cases found : (floor.desk.resume job.task).seen? job.task with
    | none =>
      right
      rw [recorded, Service.step, Floor.proceed_of_unseen found, List.drop_length]
      exact ⟨rfl, .inl rfl⟩
    | some seen =>
      left
      have effect := sound.act_eq_answer allowed found
      have proceeded := Floor.proceed_of_seen found
      refine ⟨job.label, ?_, ?_, ?_⟩
      · intro session model same
        obtain ⟨_, -, -, edits, -⟩ := sound.edits_of_seen allowed found
        rw [same] at edits
        cases edits
      · rw [recorded, Service.step, one (by rw [proceeded]), effect]
        rfl
      · rw [Service.step, proceeded, ← effect]
        rfl
  | desk event =>
    right
    refine ⟨by rw [recorded, Service.step, List.drop_length]; rfl, ?_⟩
    cases event with
    | create item => exact own.elim
    | replace session item => exact own.elim
    | save number edit => exact own.elim
    | delete session => exact .inr ⟨session, rfl⟩
    | enter | resume | leave | get | «exists» => exact .inl rfl

/-- The answers are those of the records. -/
theorem Conducted.answers_eq (run : service.Conducted records floor) :
    floor.answers = records.map fun record => (record.request, record.outcome) := by
  induction run with
  | start limit draws => rfl
  | @move records floor run move allowed own ih =>
    obtain ⟨new, more, -⟩ := answers_step run.reachable.sound allowed
    have recorded : (service.recorded floor move).map
        (fun record => (record.request, record.outcome)) = new := by
      rw [recorded, more, List.drop_left, List.map_map]
      exact List.map_id new
    rw [more, ih, List.map_append, recorded]

end Service

end SchemaDesk
