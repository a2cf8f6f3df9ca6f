import SchemaDesk.Draws
import SchemaDesk.Session.Table

/-!
# The session store

A store holds one item for every session, in memory and in the order in which the sessions were
created, and a lock for every session. Items and locks are kept in tables of their own, because a
lock can be awaited by tasks whose session is gone. A store has a limit of sessions, where zero
means none: creating a session at the limit drops the oldest sessions until there is room. Under a
negative limit there is never room, and the attempt drops every session.
-/

namespace SchemaDesk

/-- A store of one item for every session. -/
structure Store (α : Type) where
  /-- The most sessions that are kept; zero for no limit. -/
  limit : Int
  /-- The items of the sessions, the oldest session first. -/
  items : Table α := .empty
  /-- The locks of the sessions, each by its number. -/
  locks : Table Nat := .empty
  /-- The number of the next lock. -/
  nextLock : Nat := 0
  /-- The source of identifiers. -/
  draws : Draws

namespace Store

variable {α : Type}

/-- The identifiers of the sessions, the oldest first. -/
def sessions (store : Store α) : List Text := store.items.keys

/-- The item of a session. -/
def get? (store : Store α) (session : Text) : Option α := store.items.find? session

/-- Whether there is a session with an identifier. -/
def exists? (store : Store α) (session : Text) : Bool := store.items.contains session

/-- The store without a session and its lock. -/
def drop (store : Store α) (session : Text) : Store α :=
  { store with items := store.items.erase session, locks := store.locks.erase session }

/-- Whether one more session can be kept. -/
def hasRoom (store : Store α) : Bool := store.limit = 0 || store.items.size < store.limit

/-- Drops the oldest sessions until there is room for one more, and tells whether there is. -/
def makeRoom (store : Store α) : Bool × Store α :=
  if store.hasRoom then (true, store)
  else match _oldest : store.items.oldest? with
    | none => (false, store)
    | some session => (store.drop session).makeRoom
termination_by store.items.size
decreasing_by
  obtain ⟨entry, mem, rfl⟩ : ∃ entry ∈ store.items.entries, entry.1 = session := by
    have := List.mem_of_head? _oldest
    simpa [Table.keys] using this
  simp only [drop, Table.erase, Table.size]
  exact List.length_filter_lt_length_iff_exists.mpr ⟨entry, mem, by simp⟩

/-- The store with a new session, which has a lock of its own. -/
def add (store : Store α) (session : Text) (item : α) : Store α :=
  { store with
    items := store.items.put session item
    locks := store.locks.put session store.nextLock
    nextLock := store.nextLock + 1 }

/-- Creates a session for an item and tells its identifier, which no session has; none when no room
can be made. -/
def create (item : α) : StateM (Store α) (Option Text) := fun store =>
  let (id, draws) := store.draws.fresh store.sessions
  match { store with draws := draws }.makeRoom with
  | (false, store) => (none, store)
  | (true, store) => (some id, store.add id item)

/-- Replaces the item of a session, and tells whether there is the session. -/
def save (session : Text) (item : α) : StateM (Store α) Bool := fun store =>
  if store.exists? session then (true, { store with items := store.items.put session item })
  else (false, store)

/-- Drops a session, and tells whether there was the session. -/
def delete (session : Text) : StateM (Store α) Bool := fun store =>
  (store.exists? session, store.drop session)

/-- Runs a computation that draws identifiers on the source of the store. -/
def drawing {ε β : Type} (computation : Drawing ε β) : StateM (Store α) (Except ε β) := fun store =>
  let (outcome, draws) := computation.run.run store.draws
  (outcome, { store with draws := draws })

end Store

end SchemaDesk
