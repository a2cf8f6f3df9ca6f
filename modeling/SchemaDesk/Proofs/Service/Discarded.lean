import SchemaDesk.Proofs.Service.Moves
/-!
# Sessions that are gone

Dropping a session asks for no lock and takes the lock of the session away, also while tasks hold or
await it. Even so no task brings the session back: a task that goes on after the drop sees no item,
and saving an item that was read before finds no session to save it for. Only creating a session
that draws the same identifier would bring one back. So in every run without such a draw the session
stays away, and whoever asks for it is told so (`Reachable.stays_discarded`).
-/

namespace SchemaDesk

namespace Store

variable {α : Type}

/-- An operation that brings back no session. -/
def BringsNone {ρ : Type} (session : Text) (operation : StateM (Store α) ρ) : Prop :=
  ∀ store : Store α, store.exists? session = false → (operation store).2.exists? session = false

/-- An action that does nothing brings no session. -/
theorem bringsNone_pure {ρ : Type} (session : Text) (answer : ρ) :
    BringsNone (α := α) session (pure answer) := fun _ gone => gone

/-- One action after another brings no session when neither does. -/
theorem BringsNone.bind {ρ σ : Type} {session : Text} {first : StateM (Store α) ρ}
    {next : ρ → StateM (Store α) σ} (early : BringsNone session first)
    (late : ∀ answer, BringsNone session (next answer)) : BringsNone session (first >>= next) :=
  fun store gone => late (first store).1 (first store).2 (early store gone)

/-- Saving brings no session. -/
theorem bringsNone_save (session saved : Text) (item : α) :
    BringsNone session (save saved item) := fun store gone => by
  rw [exists?_save]
  exact gone

/-- Deleting brings no session. -/
theorem bringsNone_delete (session dropped : Text) :
    BringsNone (α := α) session (delete dropped) := fun store gone => by
  change (store.drop dropped).exists? session = false
  rw [exists?_drop, gone, Bool.and_false]

/-- Drawing brings no session. -/
theorem bringsNone_drawing {ε β : Type} (session : Text) (computation : Drawing ε β) :
    BringsNone (α := α) session (drawing computation) := fun _ gone => gone

/-- Creating a session brings no other session. -/
theorem exists?_create_of_ne {store : Store α} {session : Text} {item : α}
    (gone : store.exists? session = false) (other : (create item store).1 ≠ some session) :
    (create item store).2.exists? session = false := by
  rw [← Bool.not_eq_true] at gone ⊢
  intro live
  rcases exists?_of_create live with before | created
  · exact gone before
  · exact other created

end Store

namespace Service

variable {service : Service} {floor later : Floor ServiceRequest Model Outcome} {session : Text}

/-- The session that an outcome tells to be created. -/
def createdBy : Outcome → Option Text
  | .ok (.told (.session created) _) => some created.session
  | _ => none

/-- The session that a move creates. -/
def creates (service : Service) (floor : Floor ServiceRequest Model Outcome) : Move → Option Text
  | .ask request => createdBy (service.answer request floor.desk.store).1
  | .desk (.create item) => (Store.create item floor.desk.store).1
  | _ => none

/-- Moves lead from one floor to a later one, and none of them creates a session with a certain
identifier. -/
inductive LeadsTo (service : Service) (session : Text)
    (floor : Floor ServiceRequest Model Outcome) : Floor ServiceRequest Model Outcome → Prop where
  | here : LeadsTo service session floor floor
  | move {later : Floor ServiceRequest Model Outcome} (run : LeadsTo service session floor later)
    {move : Move} (allowed : Allows later move)
    (other : service.creates later move ≠ some session) :
    LeadsTo service session floor (service.step later move)

/-- What a reachable floor leads to is reachable. -/
theorem LeadsTo.reachable (run : service.LeadsTo session floor later)
    (reachable : service.Reachable floor) : service.Reachable later := by
  induction run with
  | here => exact reachable
  | move _ allowed _ ih => exact ih.move allowed

/-- An edit brings no session. -/
theorem bringsNone_editSeen (service : Service) (session edited message : Text)
    (edit : Model → Drawing ServiceError Model) (seen : Option Model) :
    Store.BringsNone session (service.editSeen edited message edit seen) := by
  cases seen with
  | none => exact Store.bringsNone_pure session _
  | some model =>
    refine (Store.bringsNone_drawing session (edit model)).bind fun outcome => ?_
    cases outcome with
    | error error => exact Store.bringsNone_pure session _
    | ok new =>
      refine (Store.bringsNone_save session edited new).bind fun saved => ?_
      cases saved with
      | true => exact Store.bringsNone_pure session _
      | false => exact Store.bringsNone_pure session _

/-- Creating a session for a model brings no other session. -/
theorem exists?_createSession {store : Store Model} {model : Model}
    (gone : store.exists? session = false)
    (other : createdBy (service.createSession model store).1 ≠ some session) :
    (service.createSession model store).2.exists? session = false := by
  rw [createSession_eq] at other ⊢
  refine Store.exists?_create_of_ne gone fun same => other ?_
  simp only [same, createdBy]

/-- A request that is answered while nothing else goes on brings no session but the one that it
creates. -/
theorem exists?_answer {store : Store Model} (gone : store.exists? session = false)
    (request : ServiceRequest)
    (other : createdBy (service.answer request store).1 ≠ some session) :
    (service.answer request store).2.exists? session = false := by
  cases request with
  | rename | add | update | remove | reset =>
    exact service.bringsNone_editSeen session _ _ _ _ store gone
  | create name fields =>
    rw [answer_create] at other ⊢
    cases made : (newModel name fields).run.run store.draws with
    | mk outcome after =>
      rw [made] at other
      have drawn : Store.exists? { store with draws := after } session = false := gone
      cases outcome with
      | ok model => exact exists?_createSession drawn other
      | error error => exact drawn
  | createFor model => exact exists?_createSession gone other
  | get | schema => exact gone
  | delete dropped =>
    refine ((Store.bringsNone_delete session dropped).bind fun known => ?_) store gone
    cases known with
    | true => exact Store.bringsNone_pure session _
    | false => exact Store.bringsNone_pure session _
  | render request =>
    refine ((Store.bringsNone_drawing session (newModel _ _)).bind fun outcome => ?_) store gone
    cases outcome with
    | error error => exact Store.bringsNone_pure session _
    | ok model => exact Store.bringsNone_pure session _
  | save saved model =>
    refine ((Store.bringsNone_save session saved model).bind fun known => ?_) store gone
    cases known with
    | true => exact Store.bringsNone_pure session _
    | false => exact Store.bringsNone_pure session _
  | refused details => exact gone

/-- A job that goes on and is done edits a model, and sees the one that its session has then. -/
theorem Sound.edits_of_seen (sound : service.Sound floor)
    {job : Job ServiceRequest Model Outcome} (mem : job ∈ floor.jobs) {seen : Option Model}
    (found : (floor.desk.resume job.task).seen? job.task = some seen) :
    ∃ session message edit, job.label.edits = some session ∧ NeverRefused edit ∧
      job.act = service.editSeen session message edit ∧ seen = floor.desk.store.get? session := by
  obtain ⟨task, taskMem, number, waits, work⟩ := sound.jobs job mem
  obtain ⟨_, goneOn, same, phase⟩ := Desk.exists_of_seen? found
  obtain ⟨old, oldMem, rfl⟩ := List.mem_map.mp goneOn
  rw [Desk.number_resumed] at same
  obtain rfl := sound.desk.eq_of_number oldMem taskMem (same.trans number.symm)
  have seenEq : seen = floor.desk.store.get? old.session := by
    rcases Desk.resumed_cases floor.desk job.task old with still | entered
    · rw [still] at phase
      rw [Desk.isWaiting_eq_false_iff.mpr ⟨seen, phase⟩] at waits
      cases waits
    · exact Task.Phase.inside.inj (phase.symm.trans entered)
  rcases service.work_cases job.label with
    ⟨act, plain, -⟩ | ⟨session, message, edit, editing, edits, never⟩
  · cases work.symm.trans plain
  · obtain ⟨rfl, act⟩ := Work.locked.inj (work.symm.trans editing)
    exact ⟨_, message, edit, edits, never, act, seenEq⟩

/-- A session that is gone stays so when a job goes on. -/
theorem exists?_proceed (sound : service.Sound floor) {job : Job ServiceRequest Model Outcome}
    (mem : job ∈ floor.jobs) (gone : floor.desk.store.exists? session = false) :
    (floor.proceed job).desk.store.exists? session = false := by
  cases found : (floor.desk.resume job.task).seen? job.task with
  | none =>
    rw [Floor.proceed_of_unseen found]
    exact gone
  | some seen =>
    obtain ⟨edited, message, edit, -, -, act, -⟩ := sound.edits_of_seen mem found
    rw [Floor.proceed_of_seen found, act]
    exact service.bringsNone_editSeen session edited message edit seen floor.desk.store gone

/-- A move that does not create a session does not bring it back. -/
theorem exists?_step (sound : service.Sound floor) {move : Move} (allowed : Allows floor move)
    (gone : floor.desk.store.exists? session = false)
    (other : service.creates floor move ≠ some session) :
    (service.step floor move).desk.store.exists? session = false := by
  cases move with
  | ask request =>
    change (service.ask floor request).desk.store.exists? session = false
    rcases ask_cases sound request with ⟨arrivals, -, asked⟩ | ⟨waited, act, -, -, asked⟩
    · rw [asked]
      exact exists?_answer gone request other
    · rw [asked]
      exact gone
  | proceed job => exact exists?_proceed sound allowed gone
  | desk event =>
    cases event with
    | enter | resume | leave | get | «exists» => exact gone
    | save number edit =>
      change (floor.desk.saveBy number edit).store.exists? session = false
      rcases floor.desk.saveBy_cases number edit with idle | ⟨task, -, item, -, -, saved⟩
      · rw [idle]
        exact gone
      · rw [saved]
        exact Store.bringsNone_save session task.session _ _ gone
    | create item => exact Store.exists?_create_of_ne gone other
    | replace saved item => exact Store.bringsNone_save session saved item _ gone
    | delete dropped => exact Store.bringsNone_delete session dropped _ gone

/-- A session that is gone stays away. -/
theorem LeadsTo.gone (run : service.LeadsTo session floor later)
    (reachable : service.Reachable floor) (gone : floor.desk.store.exists? session = false) :
    later.desk.store.exists? session = false := by
  induction run with
  | here => exact gone
  | move run allowed other ih => exact exists?_step (run.reachable reachable).sound allowed ih other

/-! ## Answers to requests that edit a model -/

/-- A request that edits a model is answered for a session that is there with the model edited, and
else with the message that there is no such session. -/
def Answered (service : Service) (store : Store Model) (entry : ServiceRequest × Outcome) : Prop :=
  ∀ session, entry.1.edits = some session →
    (store.get? session = none ∧ entry.2 = .error (service.notFound session)) ∨
      (store.exists? session = true ∧
        ∃ edited message, entry.2 = .ok (.told (.model edited) message))

/-- An edit of the model that a session has is answered that the session is not there, or with the
model edited, which is then the one of the session. -/
theorem editSeen_cases {edit : Model → Drawing ServiceError Model} (never : NeverRefused edit)
    (session message : Text) (store : Store Model) :
    (store.get? session = none ∧
        service.editSeen session message edit (store.get? session) store =
          (.error (service.notFound session), store)) ∨
      ∃ model made after, store.get? session = some model ∧
        (edit model).run.run store.draws = (.ok made, after) ∧
        service.editSeen session message edit (store.get? session) store =
          (.ok (.told (.model made) message),
            { store with draws := after, items := store.items.put session made }) := by
  cases found : store.get? session with
  | none => exact .inl ⟨rfl, rfl⟩
  | some model =>
    have live := Store.exists?_of_get? found
    obtain ⟨made, ok⟩ := never model store.draws
    let drawn : Store Model := { store with draws := ((edit model).run.run store.draws).2 }
    have drawing : Store.drawing (edit model) store = (.ok made, drawn) := by
      rw [← ok]
      rfl
    have drawnLive : drawn.exists? session = true := live
    refine .inr ⟨model, made, drawn.draws, rfl, Prod.ext ok rfl, ?_⟩
    simp only [editSeen, bind, StateT.bind, drawing, Store.save_of_exists drawnLive made]
    rfl

/-- An edit of a session is answered with the model as edited, or not found when it is gone. -/
theorem answered_editSeen {edit : Model → Drawing ServiceError Model} (never : NeverRefused edit)
    (session message : Text) (store : Store Model) :
    (store.get? session = none ∧
        (service.editSeen session message edit (store.get? session) store).1 =
          .error (service.notFound session)) ∨
      (store.exists? session = true ∧ ∃ edited message',
        (service.editSeen session message edit (store.get? session) store).1 =
          .ok (.told (.model edited) message')) := by
  rcases service.editSeen_cases never session message store with
    ⟨gone, answer⟩ | ⟨model, made, after, found, -, answer⟩
  · exact .inl ⟨gone, congrArg Prod.fst answer⟩
  · exact .inr ⟨Store.exists?_of_get? found, made, message, congrArg Prod.fst answer⟩

/-- A request that edits a model while nothing else goes on sees the model of its session. -/
theorem answer_of_editing {store : Store Model} (sound : store.Sound) {request : ServiceRequest}
    {session message : Text} {edit : Model → Drawing ServiceError Model}
    (work : service.work request = service.editing session message edit) :
    service.answer request store =
      service.editSeen session message edit (store.get? session) store := by
  rw [Service.answer, work, ← Work.seenAtOnce_eq sound]
  rfl

/-- A request that edits a model while nothing else goes on is so answered. -/
theorem answered_answer {store : Store Model} (sound : store.Sound) (request : ServiceRequest) :
    service.Answered store (request, (service.answer request store).1) := by
  intro session edits
  rcases service.work_cases request with ⟨act, -, idle⟩ | ⟨_, message, edit, work, edited, never⟩
  · cases edits.symm.trans idle
  · obtain rfl := Option.some.inj (edits.symm.trans edited)
    rw [answer_of_editing sound work]
    exact answered_editSeen never session message store

/-- A request that waited for its lock and is done is so answered. -/
theorem Sound.answered_act (sound : service.Sound floor) {job : Job ServiceRequest Model Outcome}
    (mem : job ∈ floor.jobs) {seen : Option Model}
    (found : (floor.desk.resume job.task).seen? job.task = some seen) :
    service.Answered floor.desk.store (job.label, (job.act seen floor.desk.store).1) := by
  intro session edits
  obtain ⟨_, message, edit, edited, never, act, rfl⟩ := sound.edits_of_seen mem found
  obtain rfl := Option.some.inj (edits.symm.trans edited)
  rw [act]
  exact answered_editSeen never session message floor.desk.store

/-- The answers that a move gives to requests that edit a model. -/
theorem answers_step (sound : service.Sound floor) {move : Move} (allowed : Allows floor move) :
    ∃ new, (service.step floor move).answers = floor.answers ++ new ∧
      ∀ entry ∈ new, service.Answered floor.desk.store entry := by
  have nothing : ∃ new, floor.answers = floor.answers ++ new ∧
      ∀ entry ∈ new, service.Answered floor.desk.store entry :=
    ⟨[], (List.append_nil _).symm, fun _ mem => absurd mem List.not_mem_nil⟩
  cases move with
  | ask request =>
    change ∃ new, (service.ask floor request).answers = floor.answers ++ new ∧ _
    rcases ask_cases sound request with ⟨arrivals, -, asked⟩ | ⟨waited, act, -, -, asked⟩
    · rw [asked]
      refine ⟨_, rfl, fun entry mem => ?_⟩
      obtain rfl := List.mem_singleton.mp mem
      exact answered_answer sound.desk.store request
    · rw [asked]
      exact nothing
  | proceed job =>
    change ∃ new, (floor.proceed job).answers = floor.answers ++ new ∧ _
    cases found : (floor.desk.resume job.task).seen? job.task with
    | none =>
      rw [Floor.proceed_of_unseen found]
      exact nothing
    | some seen =>
      rw [Floor.proceed_of_seen found]
      refine ⟨_, rfl, fun entry mem => ?_⟩
      obtain rfl := List.mem_singleton.mp mem
      exact sound.answered_act allowed found
  | desk event => exact nothing

/-- Requests that edit a model of a session that is gone are answered that it is not there. -/
theorem LeadsTo.answers (run : service.LeadsTo session floor later)
    (reachable : service.Reachable floor) (gone : floor.desk.store.exists? session = false) :
    ∃ new, later.answers = floor.answers ++ new ∧
      ∀ entry ∈ new, entry.1.edits = some session →
        entry.2 = .error (service.notFound session) := by
  induction run with
  | here => exact ⟨[], (List.append_nil _).symm, fun _ mem => absurd mem List.not_mem_nil⟩
  | move run allowed other ih =>
    obtain ⟨old, split, told⟩ := ih
    obtain ⟨new, more, answered⟩ := answers_step (run.reachable reachable).sound allowed
    refine ⟨old ++ new, by rw [more, split, List.append_assoc], fun entry mem edits => ?_⟩
    rcases List.mem_append.mp mem with early | late
    · exact told entry early edits
    · rcases answered entry late session edits with ⟨-, answer⟩ | ⟨live, -⟩
      · exact answer
      · rw [run.gone reachable gone] at live
        cases live

/-- The service never fails on a request that edits a model. -/
theorem Reachable.not_failed (reachable : service.Reachable floor) :
    ∀ entry ∈ floor.answers, entry.1.edits ≠ none →
      ∀ problem, entry.2 = .error (.problem problem) → problem.kind ≠ .service := by
  induction reachable with
  | start limit draws => exact fun _ mem => absurd mem List.not_mem_nil
  | move reachable allowed ih =>
    obtain ⟨new, more, answered⟩ := answers_step reachable.sound allowed
    intro entry mem edits problem failed
    rw [more] at mem
    rcases List.mem_append.mp mem with early | late
    · exact ih entry early edits problem failed
    · obtain ⟨session, edited⟩ := Option.ne_none_iff_exists'.mp edits
      rcases answered entry late session edited with ⟨-, answer⟩ | ⟨-, model, message, answer⟩
      · cases answer.symm.trans failed
        exact Problem.Kind.noConfusion
      · cases answer.symm.trans failed

/-- A session that is gone stays away, whatever else goes on, as long as no session is created with
its identifier:

* it is never there again;
* requests that edit its model are answered that it is not there, and a request that waits for its
  lock is so answered as soon as its turn has come;
* a task that has read its item before saves nothing;
* no request that edits a model ever makes the service fail. -/
theorem Reachable.stays_discarded (reachable : service.Reachable floor)
    (gone : floor.desk.store.exists? session = false)
    (run : service.LeadsTo session floor later) :
    later.desk.store.exists? session = false ∧ later.desk.store.get? session = none ∧
    (∃ new, later.answers = floor.answers ++ new ∧
      ∀ entry ∈ new, entry.1.edits = some session →
        entry.2 = .error (service.notFound session)) ∧
    (∀ job ∈ later.jobs, job.label.edits = some session →
      ∀ task ∈ later.desk.tasks, task.number = job.task → later.desk.isNext task = true →
        (later.proceed job).answers =
          later.answers ++ [(job.label, .error (service.notFound session))]) ∧
    (∀ item, Store.save session item later.desk.store = (false, later.desk.store)) ∧
    (∀ task ∈ later.desk.tasks, task.session = session → ∀ item, task.phase = .inside (some item) →
      ∀ edit, (later.desk.step (.save task.number edit)).store =
        { later.desk.store with draws := (edit item later.desk.store.draws).2 }) ∧
    ∀ entry ∈ later.answers, entry.1.edits ≠ none →
      ∀ problem, entry.2 = .error (.problem problem) → problem.kind ≠ .service := by
  have sound := (run.reachable reachable).sound
  have away := run.gone reachable gone
  have missing := Store.get?_eq_none_iff.mpr away
  refine ⟨away, missing, run.answers reachable gone,
    fun job mem edits task taskMem number next => ?_,
    Store.save_of_not_exists away, fun task mem here item phase edit => ?_,
    (run.reachable reachable).not_failed⟩
  · obtain ⟨twin, twinMem, twinNumber, waits, work⟩ := sound.jobs job mem
    obtain rfl := sound.desk.eq_of_number twinMem taskMem (twinNumber.trans number.symm)
    have seen := sound.desk.seen?_resume twinMem waits next
    rw [number] at seen
    obtain ⟨_, message, edit, edited, never, act, seenEq⟩ := sound.edits_of_seen mem seen
    obtain rfl := Option.some.inj (edits.symm.trans edited)
    rw [Floor.proceed_of_seen seen, act, seenEq, missing]
    rfl
  · let drawn : Store Model :=
      { later.desk.store with draws := (edit item later.desk.store.draws).2 }
    have drawnAway : drawn.exists? session = false := away
    have refused := Store.save_of_not_exists drawnAway (edit item later.desk.store.draws).1
    rw [Desk.step, sound.desk.saveBy_eq mem phase, here]
    exact congrArg Prod.snd refused

/-- A service with one session. -/
def posted : Floor ServiceRequest Model Outcome :=
  ⟨⟨⟨0, Table.empty.put "a" { name := "Post" }, Table.empty.put "a" 0, 1, ⟨[], 1⟩⟩, [], 0⟩, [], []⟩

/-- The service with one session is reachable. -/
theorem reachable_posted : models.Reachable posted := by
  have created : models.step ⟨⟨⟨0, .empty, .empty, 0, ⟨["a"], 0⟩⟩, [], 0⟩, [], []⟩
      (.desk (.create { name := "Post" })) = posted := by
    simp [step, Desk.step, Desk.act, Store.create, Store.makeRoom, Store.hasRoom]
    rfl
  rw [← created]
  exact .move (.start 0 ⟨["a"], 0⟩) fun _ mem => absurd mem List.not_mem_nil

/-- The session is dropped while a task has its lock and a request waits for it. -/
def abandoned : Floor ServiceRequest Model Outcome :=
  models.step (models.step (models.step posted (.desk (.enter "a"))) (.ask (.rename "a" "Late")))
    (.desk (.delete "a"))

/-- The request that waits. -/
def lateRename : Job ServiceRequest Model Outcome :=
  ⟨.rename "a" "Late", 1, models.editSeen "a" "Model renamed successfully" fun model =>
    return model.rename "Late"⟩

/-- The task saves what it has read and leaves, and the request goes on. -/
def aftermath : Floor ServiceRequest Model Outcome :=
  models.step (models.step (models.step abandoned (.desk (.save 0 pure))) (.desk (.leave 0)))
    (.proceed lateRename)

/-- Neither the task that has read the model nor the request that waited brings the session back. -/
theorem stays_discarded_abandoned :
    aftermath.desk.store.exists? "a" = false ∧ aftermath.answers.length = 1 ∧
      ∀ entry ∈ aftermath.answers, entry.2 = .error (models.notFound "a") := by
  have entered : models.Reachable (models.step posted (.desk (.enter "a"))) :=
    reachable_posted.move fun _ mem => absurd mem List.not_mem_nil
  have asked : models.Reachable (models.step _ (.ask (.rename "a" "Late"))) := entered.move trivial
  have reachable : models.Reachable abandoned := asked.move fun _ _ => nofun
  have apart : ∀ job ∈ abandoned.jobs, some 0 ≠ some job.task := by decide +kernel
  have saved : models.LeadsTo "a" abandoned (models.step abandoned (.desk (.save 0 pure))) :=
    .move .here apart nofun
  have left : models.LeadsTo "a" abandoned (models.step _ (.desk (.leave 0))) :=
    saved.move apart nofun
  have run : models.LeadsTo "a" abandoned aftermath := left.move (.head _) nofun
  obtain ⟨gone, -, ⟨new, answers, told⟩, -⟩ := reachable.stays_discarded rfl run
  have edits : ∀ entry ∈ aftermath.answers, entry.1.edits = some "a" := by decide +kernel
  refine ⟨gone, rfl, fun entry mem => told entry ?_ (edits entry mem)⟩
  rw [answers] at mem
  exact mem

end Service

end SchemaDesk
