import SchemaDesk.Session.Schedule

/-!
# Requests to a store

What can be asked of a store, and how it answers. A request takes a lock only if its name says so;
`editAll` starts one task for each of several edits, and each of them edits what the task before it
has saved.
-/

namespace SchemaDesk

/-- A request to a store. -/
inductive StoreRequest (α : Type) where
  /-- Creates a session for an item. -/
  | create (item : α)
  /-- Asks for the item of a session. -/
  | get (session : Text)
  /-- Replaces the item of a session. -/
  | save (session : Text) (item : α)
  /-- Drops a session. -/
  | delete (session : Text)
  /-- Asks whether there is a session. -/
  | exists (session : Text)
  /-- Asks for the item of a session with its lock taken. -/
  | locked (session : Text)
  /-- Edits the item of a session several times, each edit by a task that takes the lock. -/
  | editAll (session : Text) (edits : List (α → α))

/-- The answer to a request. -/
inductive StoreAnswer (α : Type) where
  /-- A session is created under an identifier. -/
  | created (session : Text)
  /-- No room could be made for a session. -/
  | noRoom
  /-- The item of a session, none for a session that is not there. -/
  | item (item : Option α)
  /-- There is no session with an identifier to save an item for. -/
  | unknownSession (session : Text)
  /-- Whether there is, or was, a session. -/
  | known (known : Bool)

namespace StoreRequest

variable {α : Type}

/-- The answer after an item was to be saved for a session. -/
def answerSave (session : Text) (item : α) (saved : Bool) : StoreAnswer α :=
  if saved then .item (some item) else .unknownSession session

/-- Saves an item for a session. -/
def saveItem (session : Text) (item : α) : StateM (Store α) (StoreAnswer α) := do
  return answerSave session item (← Store.save session item)

/-- What a task does that edits the item it sees. -/
def editSeen (session : Text) (edit : α → α) : Option α → StateM (Store α) (StoreAnswer α)
  | none => return .item none
  | some item => saveItem session (edit item)

/-- The works of a request: a single one, or one for every edit. -/
def group : StoreRequest α → Group α (StoreAnswer α)
  | create item => .single <| .plain do
      match ← Store.create item with
      | some session => return .created session
      | none => return .noRoom
  | get session => .single <| .plain fun store => (.item (store.get? session), store)
  | save session item => .single <| .plain (saveItem session item)
  | delete session => .single <| .plain do return .known (← Store.delete session)
  | .exists session => .single <| .plain fun store => (.known (store.exists? session), store)
  | locked session => .single <| .locked session fun seen => return .item seen
  | editAll session edits =>
    .spread (edits.map fun edit => .locked session (editSeen session edit))

end StoreRequest

end SchemaDesk
