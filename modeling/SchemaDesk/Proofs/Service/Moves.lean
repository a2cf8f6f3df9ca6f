import SchemaDesk.Proofs.Session.Hold
import SchemaDesk.Service
/-!
# What goes on at a service

Requests to a service are made in any order and go on in any order, while others use the same store
and its locks. A request is answered as it is made, unless it has to wait for the lock of its
session; then it goes on some time later. What is let in is done in one piece: a request that edits
a model is never interrupted between reading and saving. At every reachable floor the desk is sound,
and a request that is not answered waits for its lock (`Reachable.sound`).
-/

namespace SchemaDesk

open Store (Keeps)

/-- The session whose model a request edits with the lock taken. -/
def ServiceRequest.edits : ServiceRequest → Option Text
  | .rename session _ | .add session _ | .update session _ _ | .remove session _
  | .reset session => some session
  | _ => none

namespace Service

variable {service : Service}

/-! ## Works of requests -/

/-- An edit that is never refused. -/
def NeverRefused (edit : Model → Drawing ServiceError Model) : Prop :=
  ∀ model draws, ∃ edited, ((edit model).run.run draws).1 = .ok edited

/-- The work of a request is done at once, or edits a model with the lock taken; such an edit is
never refused. -/
theorem work_cases (service : Service) (request : ServiceRequest) :
    (∃ act, service.work request = .plain act ∧ request.edits = none) ∨
      ∃ session message edit, service.work request = service.editing session message edit ∧
        request.edits = some session ∧ NeverRefused edit := by
  cases request with
  | rename session name => exact .inr ⟨_, _, _, rfl, rfl, fun _ _ => ⟨_, rfl⟩⟩
  | add session attributes => exact .inr ⟨_, _, _, rfl, rfl, fun _ _ => ⟨_, rfl⟩⟩
  | update session field changes =>
    refine .inr ⟨_, _, _, rfl, rfl, fun model draws => ?_⟩
    change ∃ edited, model.updateField field (.ok changes) = .ok edited
    rw [Model.updateField]
    split
    · exact ⟨_, rfl⟩
    · exact ⟨_, rfl⟩
  | remove session field => exact .inr ⟨_, _, _, rfl, rfl, fun _ _ => ⟨_, rfl⟩⟩
  | reset session => exact .inr ⟨_, _, _, rfl, rfl, fun _ _ => ⟨_, rfl⟩⟩
  | create name fields => exact .inl ⟨_, rfl, rfl⟩
  | createFor model => exact .inl ⟨_, rfl, rfl⟩
  | get session => exact .inl ⟨_, rfl, rfl⟩
  | delete session => exact .inl ⟨_, rfl, rfl⟩
  | schema session => exact .inl ⟨_, rfl, rfl⟩
  | render request => exact .inl ⟨_, rfl, rfl⟩
  | save session model => exact .inl ⟨_, rfl, rfl⟩
  | refused details => exact .inl ⟨_, rfl, rfl⟩

/-- A request to create a session for a model is answered with the session created, or that there is
no room. -/
theorem createSession_eq (service : Service) (model : Model) (store : Store Model) :
    service.createSession model store =
      (match (Store.create model store).1 with
        | some session => .ok (.told (.session ⟨session, model⟩)
            (service.entity ++ " session created successfully"))
        | none => .error .noRoom, (Store.create model store).2) := by
  simp only [createSession, bind, StateT.bind]
  cases Store.create model store with
  | mk session after => cases session <;> rfl

/-- A request that draws a model first ends with the refusal of the model, or goes on with the model
and what is left of the source. -/
theorem drawing_then (computation : Drawing ServiceError Model)
    (next : Model → StateM (Store Model) Outcome) (store : Store Model) :
    (do
      match ← Store.drawing computation with
      | .ok model => next model
      | .error error => return .error error : StateM (Store Model) Outcome) store =
      match computation.run.run store.draws with
      | (.ok model, after) => next model { store with draws := after }
      | (.error error, after) => (.error error, { store with draws := after }) := by
  have drawing : Store.drawing computation store =
      ((computation.run.run store.draws).1,
        { store with draws := (computation.run.run store.draws).2 }) := rfl
  simp only [bind, StateT.bind, drawing]
  generalize computation.run.run store.draws = drawn
  obtain ⟨outcome, after⟩ := drawn
  cases outcome <;> rfl

/-- A request to create a model and a session for it is refused, or answered like a request to
create a session for the model made. -/
theorem answer_create (service : Service) (name : Checked Text) (fields : Option (List Changes))
    (store : Store Model) :
    service.answer (.create name fields) store =
      match (newModel name fields).run.run store.draws with
      | (.ok model, after) => service.createSession model { store with draws := after }
      | (.error error, after) => (.error error, { store with draws := after }) :=
  drawing_then (newModel name fields) service.createSession store

/-- A request for the block of a model that no session holds makes the model first. -/
theorem answer_render (service : Service) (asked : RenderRequest) (store : Store Model) :
    service.answer (.render asked) store =
      match (newModel (.valid asked.name) (some asked.fields)).run.run store.draws with
      | (.ok model, after) => (rendered model, { store with draws := after })
      | (.error error, after) => (.error error, { store with draws := after }) :=
  drawing_then (newModel (.valid asked.name) (some asked.fields))
    (fun model => return rendered model) store

/-- Creating a session keeps the store sound. -/
theorem keeps_createSession (service : Service) (model : Model) :
    Keeps (service.createSession model) := by
  refine (Store.keeps_create model).bind fun created => ?_
  cases created with
  | some session => exact Store.keeps_pure _
  | none => exact Store.keeps_pure _

/-- An edit keeps the store sound. -/
theorem keeps_editSeen (service : Service) (session message : Text)
    (edit : Model → Drawing ServiceError Model) (seen : Option Model) :
    Keeps (service.editSeen session message edit seen) := by
  cases seen with
  | none => exact Store.keeps_pure _
  | some model =>
    refine (Store.keeps_drawing (edit model)).bind fun outcome => ?_
    cases outcome with
    | error error => exact Store.keeps_pure _
    | ok edited =>
      refine (Store.keeps_save session edited).bind fun saved => ?_
      cases saved with
      | true => exact Store.keeps_pure _
      | false => exact Store.keeps_pure _

/-- Every request keeps the store sound. -/
theorem keeps_work (service : Service) (request : ServiceRequest) :
    (service.work request).Keeps := by
  have looks : ∀ act : Store Model → Outcome,
      Keeps (fun store => (act store, store) : StateM (Store Model) Outcome) := fun _ store sound =>
    ⟨sound, .refl store⟩
  cases request with
  | rename | add | update | remove | reset => exact service.keeps_editSeen _ _ _
  | create name fields =>
    refine (Store.keeps_drawing (newModel name fields)).bind fun outcome => ?_
    cases outcome with
    | error error => exact Store.keeps_pure _
    | ok model => exact service.keeps_createSession model
  | createFor model => exact service.keeps_createSession model
  | get session => exact looks _
  | delete session =>
    refine (Store.keeps_delete session).bind fun known => ?_
    cases known with
    | true => exact Store.keeps_pure _
    | false => exact Store.keeps_pure _
  | schema session => exact looks _
  | render request =>
    refine (Store.keeps_drawing (newModel _ _)).bind fun outcome => ?_
    cases outcome with
    | error error => exact Store.keeps_pure _
    | ok model => exact Store.keeps_pure _
  | save session model =>
    refine (Store.keeps_save session model).bind fun saved => ?_
    cases saved with
    | true => exact Store.keeps_pure _
    | false => exact Store.keeps_pure _
  | refused details => exact Store.keeps_pure _

/-! ## Moves -/

/-- A request is made: its work starts, and is done at once if it does not have to wait. -/
def ask (service : Service) (floor : Floor ServiceRequest Model Outcome)
    (request : ServiceRequest) : Floor ServiceRequest Model Outcome :=
  let started := floor.start request (service.work request)
  match service.work request with
  | .plain _ => started
  | .locked _ act => started.proceed ⟨request, floor.desk.arrivals, act⟩

/-- Something that happens at a service. -/
inductive Move where
  /-- A request is made. -/
  | ask (request : ServiceRequest)
  /-- A request that waits goes on. -/
  | proceed (job : Job ServiceRequest Model Outcome)
  /-- Someone uses the store, or a task of someone else makes a step. -/
  | desk (event : Desk.Event Model)

/-- The floor after a move. -/
def step (service : Service) (floor : Floor ServiceRequest Model Outcome) :
    Move → Floor ServiceRequest Model Outcome
  | .ask request => service.ask floor request
  | .proceed job => floor.proceed job
  | .desk event => { floor with desk := floor.desk.step event }

/-- A move that a floor allows: only a request that waits goes on, and nobody else makes the steps
of its task. -/
def Allows (floor : Floor ServiceRequest Model Outcome) : Move → Prop
  | .ask _ => True
  | .proceed job => job ∈ floor.jobs
  | .desk event => ∀ job ∈ floor.jobs, event.task? ≠ some job.task

/-- The floors that moves lead to from a store without sessions. -/
inductive Reachable (service : Service) : Floor ServiceRequest Model Outcome → Prop where
  | start (limit : Int) (draws : Draws) :
    Reachable service ⟨⟨⟨limit, .empty, .empty, 0, draws⟩, [], 0⟩, [], []⟩
  | move {floor : Floor ServiceRequest Model Outcome} (reachable : Reachable service floor)
    {move : Move} (allowed : Allows floor move) : Reachable service (service.step floor move)

/-- A floor with a sound desk where every request that is not answered waits for the lock of the
session whose model it edits. -/
structure Sound (service : Service) (floor : Floor ServiceRequest Model Outcome) : Prop where
  desk : floor.desk.Sound
  jobs : ∀ job ∈ floor.jobs, ∃ task ∈ floor.desk.tasks, task.number = job.task ∧
    task.isWaiting = true ∧ service.work job.label = .locked task.session job.act

variable {floor : Floor ServiceRequest Model Outcome}

/-- Requests that are not answered have arrived. -/
theorem Sound.older (sound : service.Sound floor) :
    ∀ job ∈ floor.jobs, job.task < floor.desk.arrivals := by
  intro job mem
  obtain ⟨task, taskMem, number, -⟩ := sound.jobs job mem
  exact number ▸ sound.desk.arrived task taskMem

/-- A request that is made is answered at once, as if nothing else went on, or waits for its lock.
-/
theorem ask_cases (sound : service.Sound floor) (request : ServiceRequest) :
    (∃ arrivals, floor.desk.arrivals ≤ arrivals ∧
      service.ask floor request =
        ⟨⟨(service.answer request floor.desk.store).2, floor.desk.tasks, arrivals⟩, floor.jobs,
          floor.answers ++ [(request, (service.answer request floor.desk.store).1)]⟩) ∨
      ∃ session act, service.work request = .locked session act ∧
        (floor.desk.arrival session).isWaiting = true ∧
        service.ask floor request =
          ⟨(floor.desk.enter session).2, floor.jobs ++ [⟨request, floor.desk.arrivals, act⟩],
            floor.answers⟩ := by
  rw [ask, answer]
  cases work : service.work request with
  | plain act => exact .inl ⟨_, Nat.le_refl _, rfl⟩
  | locked session act =>
    cases wait : (floor.desk.arrival session).isWaiting with
    | false =>
      exact .inl ⟨_, Nat.le_succ _, Floor.proceed_arrival sound.desk sound.older wait request act⟩
    | true =>
      obtain ⟨lock, found, taken⟩ := Desk.isWaiting_arrival.mp wait
      obtain ⟨other, otherMem, otherLock⟩ := Desk.isTaken_iff.mp taken
      refine .inr ⟨session, act, rfl, wait, ?_⟩
      have entered : (floor.start request (.locked session act)).desk.Sound :=
        sound.desk.enter session
      have mem : floor.desk.arrival session ∈
          (floor.start request (.locked session act)).desk.tasks :=
        List.mem_append_right _ (List.mem_singleton_self _)
      exact Floor.proceed_of_behind entered mem rfl wait (List.mem_append_left _ otherMem)
        (otherLock.trans found.symm) (sound.desk.arrived other otherMem)

/-- A request keeps a floor sound. -/
theorem Sound.ask (sound : service.Sound floor) (request : ServiceRequest) :
    service.Sound (service.ask floor request) := by
  rcases ask_cases sound request with ⟨arrivals, later, asked⟩ | ⟨session, act, work, wait, asked⟩
  · rw [asked]
    refine ⟨?_, sound.jobs⟩
    have keeps : Keeps (service.answer request) := (service.keeps_work request).alone
    exact Desk.Sound.withArrivals (sound.desk.act keeps) later
  · rw [asked]
    refine ⟨sound.desk.enter session, fun job mem => ?_⟩
    rcases List.mem_append.mp mem with old | new
    · obtain ⟨task, taskMem, rest⟩ := sound.jobs job old
      exact ⟨task, List.mem_append_left _ taskMem, rest⟩
    · obtain rfl := List.mem_singleton.mp new
      exact ⟨floor.desk.arrival session, List.mem_append_right _ (List.mem_singleton_self _), rfl,
        wait, work⟩

/-- A job that goes on keeps a floor sound. -/
theorem Sound.proceed (sound : service.Sound floor) {job : Job ServiceRequest Model Outcome}
    (mem : job ∈ floor.jobs) : service.Sound (floor.proceed job) := by
  have keeps : ∀ seen, Keeps (job.act seen) := by
    obtain ⟨task, -, -, -, work⟩ := sound.jobs job mem
    have keepsWork := service.keeps_work job.label
    rwa [work] at keepsWork
  refine ⟨Floor.sound_proceed sound.desk keeps, ?_⟩
  cases found : (floor.desk.resume job.task).seen? job.task with
  | none =>
    rw [Floor.proceed_of_unseen found]
    exact sound.jobs
  | some seen =>
    have tasks := Floor.tasks_leave_resume sound.desk found
    rw [Floor.proceed_of_seen found]
    intro other otherMem
    obtain ⟨old, apart⟩ := List.mem_filter.mp otherMem
    obtain ⟨task, taskMem, number, rest⟩ := sound.jobs other old
    refine ⟨task, ?_, number, rest⟩
    change task ∈ ((floor.desk.resume job.task).leave job.task).tasks
    rw [tasks]
    exact List.mem_filter.mpr ⟨taskMem, number ▸ apart⟩

/-- A move that a floor allows keeps it sound. -/
theorem Sound.step (sound : service.Sound floor) {move : Move} (allowed : Allows floor move) :
    service.Sound (service.step floor move) := by
  cases move with
  | ask request => exact sound.ask request
  | proceed job => exact sound.proceed allowed
  | desk event =>
    refine ⟨sound.desk.step event, fun job mem => ?_⟩
    obtain ⟨task, taskMem, number, rest⟩ := sound.jobs job mem
    exact ⟨task, Desk.mem_step taskMem (number ▸ allowed job mem), number, rest⟩

/-- Every reachable floor is sound. -/
theorem Reachable.sound (reachable : service.Reachable floor) : service.Sound floor := by
  induction reachable with
  | start limit draws =>
    exact ⟨Desk.sound_of_store (Store.sound_empty limit draws) 0, fun _ mem =>
      absurd mem List.not_mem_nil⟩
  | move _ allowed ih => exact ih.step allowed

end Service

end SchemaDesk
