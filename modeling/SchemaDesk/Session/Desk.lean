import SchemaDesk.Session.Store

/-!
# Tasks at the locks of a store

A desk is a store together with the tasks that hold or await locks of it. A task that arrives looks
up the lock of its session. Without a lock it is let in at once and sees no item. Else it is let in
when no task holds or awaits the lock, and waits when one does; tasks are let in first come, first
served. A task that waits goes on at some time after the tasks before it have left, and much can
happen until then. A task sees the item that its session has at the moment it is let in, so a task
whose session is gone by then sees none. Nothing else is guarded: every operation of the store can
be called by anyone at any time.
-/

namespace SchemaDesk

/-- Whether a task is let in. -/
inductive Task.Phase (α : Type) where
  /-- The task waits for its lock. -/
  | waiting
  /-- The task is let in and has seen the item of its session, if there was one. -/
  | inside (seen : Option α)

/-- A task at a desk. -/
structure Task (α : Type) where
  /-- The number of the task; a later task has a greater number. -/
  number : Nat
  /-- The session whose lock the task takes. -/
  session : Text
  /-- The lock that the session had when the task arrived. -/
  lock : Option Nat
  /-- Whether the task is let in. -/
  phase : Task.Phase α

/-- A store and the tasks that hold or await its locks, in the order in which they arrived. -/
structure Desk (α : Type) where
  /-- The store. -/
  store : Store α
  /-- The tasks. -/
  tasks : List (Task α) := []
  /-- The number of the next task. -/
  arrivals : Nat := 0

/-- Whether a task waits. -/
def Task.isWaiting {α : Type} (task : Task α) : Bool :=
  match task.phase with
  | .waiting => true
  | .inside _ => false

namespace Desk

variable {α ρ : Type}

/-- Whether a task holds or awaits a lock. -/
def isTaken (desk : Desk α) (lock : Nat) : Bool := desk.tasks.any (·.lock == some lock)

/-- The phase in which a task arrives. -/
def arrivalPhase (desk : Desk α) (session : Text) : Task.Phase α :=
  match desk.store.locks.find? session with
  | none => .inside none
  | some lock => if desk.isTaken lock then .waiting else .inside (desk.store.get? session)

/-- A task arrives for a session; its number and the desk with it. -/
def enter (desk : Desk α) (session : Text) : Nat × Desk α :=
  let task : Task α :=
    ⟨desk.arrivals, session, desk.store.locks.find? session, desk.arrivalPhase session⟩
  (task.number, { desk with tasks := desk.tasks ++ [task], arrivals := desk.arrivals + 1 })

/-- What a task that is let in has seen; none for a task that waits or is not there. -/
def seen? (desk : Desk α) (number : Nat) : Option (Option α) :=
  desk.tasks.findSome? fun task =>
    match task.phase with
    | .inside seen => if task.number = number then some seen else none
    | .waiting => none

/-- Whether no task before it holds or awaits the lock of a task. -/
def isNext (desk : Desk α) (task : Task α) : Bool :=
  desk.tasks.all fun other => other.lock != task.lock || task.number ≤ other.number

/-- A task after the task with a number goes on: a task that waits is let in when its turn has come,
and sees the item that its session has now. -/
def resumed (desk : Desk α) (number : Nat) (task : Task α) : Task α :=
  if task.number = number ∧ task.isWaiting ∧ desk.isNext task then
    { task with phase := .inside (desk.store.get? task.session) }
  else task

/-- The task with a number goes on. -/
def resume (desk : Desk α) (number : Nat) : Desk α :=
  { desk with tasks := desk.tasks.map (desk.resumed number) }

/-- A task that is let in leaves; a task that waits stays. -/
def leave (desk : Desk α) (number : Nat) : Desk α :=
  { desk with tasks := desk.tasks.filter fun task => task.number != number || task.isWaiting }

/-- An operation on the store, by whomever. -/
def act (desk : Desk α) (operation : StateM (Store α) ρ) : ρ × Desk α :=
  let (answer, store) := operation desk.store
  (answer, { desk with store := store })

/-- Something that happens at a desk. -/
inductive Event (α : Type) where
  /-- A task arrives for a session. -/
  | enter (session : Text)
  /-- A task that waits goes on. -/
  | resume (number : Nat)
  /-- A task that is let in and has seen an item saves the item with an edit made to it. -/
  | save (number : Nat) (edit : α → StateM Draws α)
  /-- A task that is let in leaves. -/
  | leave (number : Nat)
  /-- Someone creates a session. -/
  | create (item : α)
  /-- Someone replaces the item of a session. -/
  | replace (session : Text) (item : α)
  /-- Someone drops a session. -/
  | delete (session : Text)
  /-- Someone asks for the item of a session. -/
  | get (session : Text)
  /-- Someone asks whether there is a session. -/
  | exists (session : Text)

/-- The edit of an item, saved for a session. -/
def saveEdited (session : Text) (item : α) (edit : α → StateM Draws α) :
    StateM (Store α) Bool := fun store =>
  let (edited, draws) := edit item store.draws
  Store.save session edited { store with draws := draws }

/-- A task that is let in and has seen an item saves it with an edit made to it; other tasks save
nothing. -/
def saveBy (desk : Desk α) (number : Nat) (edit : α → StateM Draws α) : Desk α :=
  match desk.tasks.find? (·.number == number) with
  | some ⟨_, session, _, .inside (some item)⟩ => (desk.act (saveEdited session item edit)).2
  | _ => desk

/-- The desk after an event. -/
def step (desk : Desk α) : Event α → Desk α
  | .enter session => (desk.enter session).2
  | .resume number => desk.resume number
  | .save number edit => desk.saveBy number edit
  | .leave number => desk.leave number
  | .create item => (desk.act (Store.create item)).2
  | .replace session item => (desk.act (Store.save session item)).2
  | .delete session => (desk.act (Store.delete session)).2
  | .get _ | .exists _ => desk

/-- The desk after events in order. -/
def run (desk : Desk α) (events : List (Event α)) : Desk α := events.foldl step desk

/-- The desks that events lead to from a store without sessions. -/
def Reachable (desk : Desk α) : Prop :=
  ∃ limit draws events, desk = run ⟨⟨limit, .empty, .empty, 0, draws⟩, [], 0⟩ events

end Desk

end SchemaDesk
