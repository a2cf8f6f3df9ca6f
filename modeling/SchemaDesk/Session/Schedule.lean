import SchemaDesk.Session.Desk

/-!
# Schedules of works

A work is done at once, or by a task that first takes the lock of a session. Works that start
together all arrive at their locks before the first of them is done; then every work whose task is
let in is done, in the order of arrival, until only works that wait are left. `whileLocked` is the
schedule in which a task holds a lock while other works start: works that await the lock are done
after it is given back, in the order in which they arrived. Of the works that start when the lock is
taken, the single ones come before those that a group spreads over several tasks.
-/

namespace SchemaDesk

/-- Something to be done at a store. -/
inductive Work (α ρ : Type) where
  /-- It is done at once. -/
  | plain (act : StateM (Store α) ρ)
  /-- A task does it with the lock of a session, given the item that it sees. -/
  | locked (session : Text) (act : Option α → StateM (Store α) ρ)

namespace Work

variable {α ρ : Type}

/-- The item that a task sees which is let in at once. -/
def seenAtOnce (store : Store α) (session : Text) : Option α :=
  (store.locks.find? session).bind fun _ => store.get? session

/-- Does a work while nothing else goes on. -/
def alone : Work α ρ → StateM (Store α) ρ
  | plain act => act
  | locked session act => fun store => act (seenAtOnce store session) store

end Work

/-- Works that are answered together. -/
inductive Group (α ρ : Type) where
  /-- One work. -/
  | single (work : Work α ρ)
  /-- Several works, each done by a task of its own. -/
  | spread (works : List (Work α ρ))

namespace Group

variable {α ρ : Type}

/-- The works of a group that start at once: a single work. -/
def early : Group α ρ → List (Work α ρ)
  | single work => [work]
  | spread _ => []

/-- The works of a group that start after the single ones: works of tasks of their own. -/
def late : Group α ρ → List (Work α ρ)
  | single _ => []
  | spread works => works

/-- The works of a group. -/
def works (group : Group α ρ) : List (Work α ρ) := group.early ++ group.late

end Group

/-- A work that has started and is not done: what it is answered under, its task and what it
does. -/
structure Job (κ α ρ : Type) where
  /-- The label of its answer. -/
  label : κ
  /-- The number of its task. -/
  task : Nat
  /-- What it does, given the item that its task sees. -/
  act : Option α → StateM (Store α) ρ

/-- A desk with the works started at it. -/
structure Floor (κ α ρ : Type) where
  /-- The desk. -/
  desk : Desk α
  /-- The works that are not done, in the order of arrival. -/
  jobs : List (Job κ α ρ) := []
  /-- The answers of the works done, each with its label, in the order in which they were given. -/
  answers : List (κ × ρ) := []

namespace Floor

variable {κ α ρ : Type}

/-- A work starts: it is done at once, or its task arrives. -/
def start (floor : Floor κ α ρ) (label : κ) : Work α ρ → Floor κ α ρ
  | .plain act =>
    let (answer, desk) := floor.desk.act act
    { floor with desk := desk, answers := floor.answers ++ [(label, answer)] }
  | .locked session act =>
    let (task, desk) := floor.desk.enter session
    { floor with desk := desk, jobs := floor.jobs ++ [⟨label, task, act⟩] }

/-- The task of a job goes on; if it is let in, the job is done and the task leaves. -/
def proceed (floor : Floor κ α ρ) (job : Job κ α ρ) : Floor κ α ρ :=
  let desk := floor.desk.resume job.task
  match desk.seen? job.task with
  | none => floor
  | some seen =>
    let (answer, desk) := desk.act (job.act seen)
    { desk := desk.leave job.task
      jobs := floor.jobs.filter (·.task != job.task)
      answers := floor.answers ++ [(job.label, answer)] }

/-- Every job goes on, in the order of arrival. -/
def settle (floor : Floor κ α ρ) : Floor κ α ρ := floor.jobs.foldl proceed floor

end Floor

namespace Floor

variable {α ρ : Type}

/-- The works of a group start together, and are done as far as they do not wait. -/
def startGroup (floor : Floor Nat α ρ) (group : Nat) (works : List (Work α ρ)) : Floor Nat α ρ :=
  (works.foldl (fun floor work => floor.start group work) floor).settle

/-- The works of groups start one group after another, numbered from a first number. -/
def startAll (floor : Floor Nat α ρ) : Nat → List (List (Work α ρ)) → Floor Nat α ρ
  | _, [] => floor
  | group, works :: rest => (floor.startGroup group works).startAll (group + 1) rest

/-- The answers of a group. -/
def answersOf (floor : Floor Nat α ρ) (group : Nat) : List ρ :=
  (floor.answers.filter (·.1 == group)).map Prod.snd

end Floor

namespace Schedule

variable {α ρ : Type}

/-- Works that start together while nothing else goes on; their answers in order. -/
def together (works : List (Work α ρ)) : StateM (Store α) (List ρ) := fun store =>
  let floor := Floor.startGroup ⟨⟨store, [], 0⟩, [], []⟩ 0 works
  (floor.answersOf 0, floor.desk.store)

/-- What is answered while a task holds a lock. -/
structure Held (α ρ : Type) where
  /-- The item that the task sees. -/
  held : Option α
  /-- The answers of the groups of works that start when the lock is taken. -/
  pending : List (List ρ)
  /-- The answers of the groups of works that start after these. -/
  during : List (List ρ)

/-- A task takes the lock of a session; groups of works start, first the pending ones, of them the
single works first, and then those that run during the hold; the task leaves, and the works that
waited are done. -/
def whileLocked (session : Text) (pending during : List (Group α ρ)) :
    StateM (Store α) (Held α ρ) := fun store =>
  let (holder, desk) := Desk.enter ⟨store, [], 0⟩ session
  let begun := (Floor.mk desk [] []).startAll 0 (pending.map Group.early)
  let spread := begun.startAll 0 (pending.map Group.late)
  let started := spread.startAll pending.length (during.map Group.works)
  let floor := { started with desk := started.desk.leave holder }.settle
  (⟨(desk.seen? holder).join, (List.range pending.length).map floor.answersOf,
    (List.range during.length).map fun index => floor.answersOf (pending.length + index)⟩,
    floor.desk.store)

end Schedule

end SchemaDesk
