import SchemaDesk.Proofs.Service.Records
/-!
# Sessions are replayed from their records

What the sessions of a service hold follows from the records of the answered requests, session by
session: the model of a session is the one it was created with, with the edits of the requests about
this session made to it that have been met since, in order (`recalled`). Requests about other
sessions, requests that were not met and requests that edit nothing leave no trace in it, however
the requests were interleaved and whatever was dropped in between (`Conducted.replayed`).
-/

namespace SchemaDesk.Service

variable {service : Service} {floor : Floor ServiceRequest Model Outcome} {store : Store Model}
  {request : ServiceRequest} {session : Text} {records : List Record}

namespace Record

/-- The session that a record tells to be created. -/
def born? (record : Record) : Option SessionModel :=
  match record.outcome with
  | .ok (.told (.session born) _) => some born
  | _ => none

/-- Whether a record tells that the model of a session was edited. -/
def hasEdited (record : Record) (session : Text) : Bool :=
  record.request.edits == some session && record.outcome.isOk

/-- The edit of a record made to a model, with the draws that it was made with. -/
def redo (record : Record) (model : Model) : Model :=
  match ((record.request.edit model).run.run record.draws).1 with
  | .ok made => made
  | .error _ => model

/-- What is known of the model of a session after a record: it starts with the creation of the
session, and every edit that has been made to it is made again. -/
def learn (session : Text) (known : Option Model) (record : Record) : Option Model :=
  match record.born? with
  | some born => if born.session = session then some born.model else known
  | none => if record.hasEdited session then known.map record.redo else known

end Record

/-- The model of a session by the records. -/
def recalled (session : Text) (records : List Record) : Option Model :=
  records.foldl (Record.learn session) none

/-- The last record adds to what the others tell. -/
theorem recalled_concat (session : Text) (records : List Record) (record : Record) :
    recalled session (records ++ [record]) = record.learn session (recalled session records) := by
  rw [recalled, List.foldl_append]
  rfl

namespace Record

variable {record : Record} {known : Option Model}

/-- A record of a new session tells its model. -/
theorem learn_of_born {born : SessionModel} (told : record.born? = some born) :
    record.learn session known = if born.session = session then some born.model else known := by
  rw [learn, told]

/-- A record of an edit tells to do it again. -/
theorem learn_of_edit (unborn : record.born? = none) (edited : record.hasEdited session = true) :
    record.learn session known = known.map record.redo := by
  rw [learn, unborn]
  exact if_pos edited

/-- Any other record tells nothing. -/
theorem learn_of_rest (unborn : record.born? = none) (rest : record.hasEdited session = false) :
    record.learn session known = known := by
  rw [learn, unborn]
  exact if_neg (by simp [rest])

/-- A record tells that a session was created exactly by the answer with the session. -/
theorem born?_eq_some {born : SessionModel} :
    record.born? = some born ↔ ∃ message, record.outcome = .ok (.told (.session born) message) := by
  rw [born?]
  constructor
  · intro told
    split at told
    · next message outcome =>
      obtain rfl := Option.some.inj told
      exact ⟨message, outcome⟩
    · cases told
  · rintro ⟨message, outcome⟩
    rw [outcome]

/-- An answer without a model tells of no session. -/
theorem born?_of_bare (bare : carried record.outcome = none) : record.born? = none := by
  cases told : record.born? with
  | none => rfl
  | some born =>
    obtain ⟨message, outcome⟩ := born?_eq_some.mp told
    rw [outcome] at bare
    cases bare

/-- A request that edits no model has edited none. -/
theorem hasEdited_of_idle (idle : record.request.edits = none) :
    record.hasEdited session = false := by
  rw [hasEdited, idle]
  rfl

/-- A request that edits the model of a session and is met has edited the model of this session
only. -/
theorem hasEdited_of_met {edited : Text} {reply : Reply}
    (edits : record.request.edits = some edited) (met : record.outcome = .ok reply) :
    record.hasEdited session = (edited == session) := by
  rw [hasEdited, edits, met]
  exact Bool.and_true _

/-- A request that is not met has edited no model. -/
theorem hasEdited_of_unmet {error : ServiceError} (unmet : record.outcome = .error error) :
    record.hasEdited session = false := by
  rw [hasEdited, unmet]
  exact Bool.and_false _

/-- What is recalled of a session of which nothing was known is recalled whatever was known. -/
theorem learn_of_unknown {model : Model} (recalls : record.learn session none = some model)
    (known : Option Model) : record.learn session known = some model := by
  cases told : record.born? with
  | some born =>
    rw [learn_of_born told] at recalls ⊢
    split at recalls
    · next same => rw [if_pos same, recalls]
    · cases recalls
  | none =>
    cases edited : record.hasEdited session with
    | true =>
      rw [learn_of_edit told edited] at recalls
      cases recalls
    | false =>
      rw [learn_of_rest told edited] at recalls
      cases recalls

end Record

/-! ## One request -/

/-- A session that is there after a request has the model that is recalled from the record of the
request and the model before it. -/
theorem get?_answer (sound : store.Sound) (own : ∀ session model, request ≠ .save session model)
    (live : (service.answer request store).2.exists? session = true) :
    (service.answer request store).2.get? session =
      (service.record request store).learn session (store.get? session) := by
  have effect : Effect service request store (service.answer request store) :=
    effect_answer sound own
  rw [record]
  generalize service.answer request store = answer at effect live
  cases effect with
  | absent about gone => exact (Record.learn_of_rest rfl (Record.hasEdited_of_unmet rfl)).symm
  | @edited edited message model made after edits found ran =>
    let entry : Record := ⟨request, store.draws, .ok (.told (.model made) message)⟩
    have has : entry.hasEdited session = (edited == session) :=
      Record.hasEdited_of_met edits rfl
    have put : (store.items.put edited made).find? session =
        if session = edited then some made else store.get? session := Table.find?_put ..
    change (store.items.put edited made).find? session = entry.learn session _
    by_cases same : edited = session
    · rw [beq_iff_eq.mpr same] at has
      have redone : entry.redo model = made := by
        rw [Record.redo, ran]
      rw [put, if_pos same.symm, Record.learn_of_edit rfl has, ← same, found, Option.map_some,
        redone]
    · rw [beq_eq_false_iff_ne.mpr same] at has
      rw [put, if_neg fun eq => same eq.symm, Record.learn_of_rest rfl has]
  | @created created message model draws edits origin new =>
    rw [Record.learn_of_born rfl, Store.get?_create live, new]
    by_cases same : created = session
    · rw [if_pos (congrArg some same), if_pos same]
    · rw [if_neg fun eq => same (Option.some.inj eq), if_neg same]
      rfl
  | asked asks found =>
    have idle : request.edits = none := asks ▸ rfl
    exact (Record.learn_of_rest rfl (Record.hasEdited_of_idle idle)).symm
  | other edits asks bare alone =>
    rw [Record.learn_of_rest (Record.born?_of_bare bare) (Record.hasEdited_of_idle edits)]
    exact alone session live

/-- A request that is met with an edit of a model, or with the model of a session, is answered with
the model that the session has then. -/
theorem answer_told (sound : store.Sound)
    (about : request.edits = some session ∨ request = .get session) {reply : Reply}
    (met : (service.answer request store).1 = .ok reply) :
    ∃ model message, reply = .told (.model model) message ∧
      (service.answer request store).2.get? session = some model := by
  have own : ∀ session model, request ≠ .save session model := by
    rintro _ _ rfl
    rcases about with edits | asks
    · cases edits
    · cases asks
  have effect : Effect service request store (service.answer request store) :=
    effect_answer sound own
  generalize service.answer request store = answer at effect met
  cases effect with
  | absent about gone => cases met
  | @edited edited message model made after edits found ran =>
    obtain rfl : edited = session := by
      rcases about with edits' | asks
      · exact Option.some.inj (edits.symm.trans edits')
      · rw [asks] at edits
        cases edits
    have put : (store.items.put edited made).find? edited = some made := by
      rw [Table.find?_put, if_pos rfl]
    exact ⟨made, message, (Except.ok.inj met).symm, put⟩
  | @created created message model draws edits origin new =>
    rcases about with edits' | asks
    · cases edits.symm.trans edits'
    · rw [asks] at origin
      rcases origin with given | ⟨_, _, made, -⟩
      · cases given
      · cases made
  | @asked asked message model asks found =>
    obtain rfl : asked = session := by
      rcases about with edits | asks'
      · rw [asks] at edits
        cases edits
      · exact ServiceRequest.get.inj (asks.symm.trans asks')
    exact ⟨model, message, (Except.ok.inj met).symm, found⟩
  | other edits asks bare alone =>
    rcases about with edits' | asked
    · cases edits.symm.trans edits'
    · exact absurd asked (asks session)

/-- A session that a request creates was not there before, and has the model that is given or made
of the request. -/
theorem answer_born (sound : store.Sound) (own : ∀ session model, request ≠ .save session model)
    {born : SessionModel} (told : (service.record request store).born? = some born) :
    store.exists? born.session = false ∧
      (service.answer request store).2.get? born.session = some born.model ∧
      (request = .createFor born.model ∨ ∃ name fields, request = .create name fields ∧
        ((newModel name fields).run.run store.draws).1 = .ok born.model) := by
  have effect : Effect service request store (service.answer request store) :=
    effect_answer sound own
  rw [record] at told
  generalize service.answer request store = answer at effect told
  cases effect with
  | absent about gone => cases told
  | edited edits found ran => cases told
  | created edits origin new =>
    obtain rfl := Option.some.inj told
    obtain ⟨before, found⟩ := Store.get?_of_created new
    refine ⟨before, found, ?_⟩
    rcases origin with given | ⟨name, fields, asked, made⟩
    · exact .inl given
    · exact .inr ⟨name, fields, asked, congrArg Prod.fst made⟩
  | asked asks found => cases told
  | other edits asks bare alone => cases (Record.born?_of_bare bare).symm.trans told

/-- A session that stays keeps its model when the request edits none of it. -/
theorem get?_of_unedited (sound : store.Sound)
    (own : ∀ session model, request ≠ .save session model) (live : store.exists? session = true)
    (stays : (service.answer request store).2.exists? session = true)
    (unedited : (service.record request store).hasEdited session = false) :
    (service.answer request store).2.get? session = store.get? session := by
  rw [get?_answer sound own stays]
  cases told : (service.record request store).born? with
  | some born =>
    have other : born.session ≠ session := by
      rintro rfl
      rw [(answer_born sound own told).1] at live
      cases live
    rw [Record.learn_of_born told, if_neg other]
  | none => exact Record.learn_of_rest told unedited

/-! ## All requests -/

/-- The model of a session that is there is the one recalled from the records. -/
theorem Conducted.get?_eq (run : service.Conducted records floor)
    (live : floor.desk.store.exists? session = true) :
    floor.desk.store.get? session = recalled session records := by
  induction run with
  | start limit draws => cases live
  | @move records floor run move allowed own ih =>
    have sound := run.reachable.sound
    rcases sound.step_cases allowed own with
      ⟨request, own, recorded, store⟩ | ⟨recorded, same | ⟨dropped, store⟩⟩
    · rw [store] at live ⊢
      rw [recorded, recalled_concat]
      have after := get?_answer sound.desk.store own live
      -- The records may tell of an earlier session with the identifier of one that is created now.
      cases before : floor.desk.store.get? session with
      | some model =>
        rw [after, ih (Store.exists?_of_get? before)]
      | none =>
        rw [before] at after
        obtain ⟨model, found⟩ := Option.isSome_iff_exists.mp (Store.exists?_iff_get?.mp live)
        rw [found, Record.learn_of_unknown (after.symm.trans found)]
    · rw [same] at live ⊢
      rw [recorded, List.append_nil]
      exact ih live
    · rw [store] at live ⊢
      rw [recorded, List.append_nil, (Store.leavesAlone_drop _ _ _ live).1]
      rw [Store.exists?_drop, Bool.and_eq_true] at live
      exact ih live.2

/-- In every run in which nobody but the service puts models into the store, whatever was created,
dropped and made to wait:

* the records are the answers that were given;
* the model of every session that is there is the one recalled from the records: the model that the
  session was created with, with the edits made to it of the requests about this session that have
  been met since, in their order;
* when a move creates a session, its model is the one that is given or made of the request;
* when a move meets a request that edits the model of a session or asks for it, the answer carries
  the model that is recalled of this session then;
* when a move meets no request that edits the model of a session, and the session stays, its model
  stays as it is. -/
theorem Conducted.replayed (run : service.Conducted records floor) :
    floor.answers = records.map (fun record => (record.request, record.outcome)) ∧
    (∀ session, floor.desk.store.exists? session = true →
      floor.desk.store.get? session = recalled session records) ∧
    ∀ move, Allows floor move → move.isOwn →
      let new := service.recorded floor move
      let after := (service.step floor move).desk.store
      (∀ record ∈ new, ∀ born, record.born? = some born →
        after.get? born.session = some born.model ∧
          (record.request = .createFor born.model ∨
            ∃ name fields, record.request = .create name fields ∧
              ((newModel name fields).run.run record.draws).1 = .ok born.model)) ∧
      (∀ record ∈ new, ∀ session,
        (record.request.edits = some session ∨ record.request = .get session) →
        ∀ reply, record.outcome = .ok reply →
          ∃ model message, reply = .told (.model model) message ∧
            recalled session (records ++ new) = some model) ∧
      ∀ session, floor.desk.store.exists? session = true → after.exists? session = true →
        (∀ record ∈ new, record.hasEdited session = false) →
          after.get? session = floor.desk.store.get? session := by
  refine ⟨run.answers_eq, fun session live => run.get?_eq live, fun move allowed own => ?_⟩
  intro new after
  have sound := run.reachable.sound
  have moved : service.Conducted (records ++ new) (service.step floor move) :=
    run.move allowed own
  rcases sound.step_cases allowed own with
    ⟨request, own, recorded, store⟩ | ⟨recorded, kept⟩
  · have one : ∀ record ∈ new, record = service.record request floor.desk.store := by
      intro record mem
      rw [show new = _ from recorded] at mem
      exact List.mem_singleton.mp mem
    refine ⟨fun record mem born told => ?_, fun record mem session about reply met => ?_,
      fun session live stays unedited => ?_⟩
    · obtain rfl := one record mem
      obtain ⟨-, found, origin⟩ := answer_born sound.desk.store own told
      exact ⟨(congrArg (·.get? born.session) store).trans found, origin⟩
    · obtain rfl := one record mem
      obtain ⟨model, message, told, found⟩ := answer_told sound.desk.store about met
      have found : after.get? session = some model := (congrArg (·.get? session) store).trans found
      have live := Store.exists?_of_get? found
      exact ⟨model, message, told, (moved.get?_eq live).symm.trans found⟩
    · have stays : (service.answer request floor.desk.store).2.exists? session = true := by
        rw [← store]
        exact stays
      have idle : (service.record request floor.desk.store).hasEdited session = false :=
        unedited _ (by rw [show new = _ from recorded]; exact List.mem_singleton_self _)
      exact (congrArg (·.get? session) store).trans
        (get?_of_unedited sound.desk.store own live stays idle)
  · have nothingNew : ∀ record, record ∉ new := by
      intro record mem
      rw [show new = [] from recorded] at mem
      cases mem
    refine ⟨fun record mem => absurd mem (nothingNew record),
      fun record mem => absurd mem (nothingNew record), fun session live stays _ => ?_⟩
    rcases kept with same | ⟨dropped, store⟩
    · exact congrArg (·.get? session) same
    · have alone := Store.leavesAlone_drop floor.desk.store session dropped
      rw [← store] at alone
      exact (alone stays).1

/-- A service without sessions that keeps two of them and draws an identifier twice. -/
def fresh : Floor ServiceRequest Model Outcome :=
  ⟨⟨⟨2, .empty, .empty, 0, ⟨["a", "b", "b", "c"], 0⟩⟩, [], 0⟩, [], []⟩

/-- Two sessions are created and one of them is edited. The other is dropped while a request waits
for its lock, and is created again under its identifier. -/
def remade : Floor ServiceRequest Model Outcome :=
  [.ask (.createFor { name := "Post" }), .ask (.rename "a" "Note"),
    .ask (.createFor { name := "User" }), .desk (.enter "b"), .ask (.rename "b" "Late"),
    .ask (.delete "b"), .ask (.createFor { name := "Tag" }), .desk (.leave 1)].foldl
    models.step fresh

/-- The request that waited for its lock is still to go on. -/
theorem jobs_remade : remade.jobs ≠ [] :=
  List.isEmpty_eq_false_iff.mp (by decide +kernel)

/-- The request that waits goes on, and one more session is created than can be kept. -/
def crowded : Floor ServiceRequest Model Outcome :=
  models.step (models.step remade (.proceed (remade.jobs.head jobs_remade)))
    (.ask (.createFor { name := "Page" }))

/-- The session that was created again has the model of its second creation, renamed by the request
that waited, after the older session has been dropped. -/
theorem replayed_crowded :
    ∃ records, crowded.answers = records.map (fun record => (record.request, record.outcome)) ∧
      crowded.answers.length = 7 ∧
      crowded.desk.store.sessions = [Text.ofString "b", Text.ofString "c"] ∧
      recalled "b" records = some { name := "Late" } ∧
      recalled "c" records = some { name := "Page" } := by
  have start : models.Conducted [] fresh := .start 2 ⟨["a", "b", "b", "c"], 0⟩
  have posted := start.ask (.createFor { name := "Post" }) trivial
  have noted := posted.ask (.rename "a" "Note") trivial
  have both := noted.ask (.createFor { name := "User" }) trivial
  have entered := both.desk (.enter "b") (by decide +kernel) trivial
  have waiting := entered.ask (.rename "b" "Late") trivial
  have dropped := waiting.ask (.delete "b") trivial
  have again := dropped.ask (.createFor { name := "Tag" }) trivial
  have left : models.Conducted _ remade := again.desk (.leave 1) (by decide +kernel) trivial
  have renamed := left.proceed (List.head_mem jobs_remade)
  have run : models.Conducted _ crowded := renamed.ask (.createFor { name := "Page" }) trivial
  obtain ⟨answers, replays, -⟩ := run.replayed
  have late : crowded.desk.store.get? "b" = some { name := "Late" } := by decide +kernel
  have page : crowded.desk.store.get? "c" = some { name := "Page" } := by decide +kernel
  exact ⟨_, answers, by decide +kernel, by decide +kernel,
    (replays "b" (by decide +kernel)).symm.trans late,
    (replays "c" (by decide +kernel)).symm.trans page⟩

end SchemaDesk.Service
