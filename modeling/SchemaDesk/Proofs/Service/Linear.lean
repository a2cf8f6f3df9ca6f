import SchemaDesk.Proofs.Service.Moves
import SchemaDesk.Proofs.Session.Linear
/-!
# An order for concurrent requests

Requests that are made while a task holds the lock of a session are answered as if they were made
one by one, whichever sessions they create, edit and drop. A request that waits for the held lock
comes last: it reads only after the lock is given back, and so it sees what there is by then under
the identifier of its session, be it the old session, a new one that drew the identifier again, or
none.
-/

namespace SchemaDesk.Service

variable {service : Service} {floor : Floor ServiceRequest Model Outcome}

/-- Answers requests one after another while nothing else goes on. -/
def answerAll (service : Service) (requests : List ServiceRequest) :
    StateM (Store Model) (List Outcome) :=
  requests.mapM service.answer

/-- The works of requests, one after another, answer the requests. -/
theorem inTurn_works (service : Service) (requests : List ServiceRequest) :
    Work.inTurn (requests.map service.work) = service.answerAll requests := by
  rw [Work.inTurn, answerAll, List.mapM_map]
  rfl

open Schedule in
/-- Requests that are made while a task holds the lock of a session have the same answers, and leave
the same store with the same draws, as the same requests made one by one in this order: the pending
ones that do not find the held lock, those made after the pending ones, and the pending ones that
wait for it. None of those made after the pending ones may find the held lock. -/
theorem Reachable.whileLocked_in_order (reachable : service.Reachable floor) (session : Text)
    (pending during : List ServiceRequest)
    (free : ∀ mark ∈ duringMarks session (pending.map service.work) (during.map service.work)
      floor.desk.store, mark = false) :
    let marks := pendingMarks session (pending.map service.work) floor.desk.store
    let concurrent := service.whileLocked session pending during floor.desk.store
    let inTurn := service.answerAll (inOrder marks pending during) floor.desk.store
    concurrent.2 = inTurn.2 ∧
      inOrder marks concurrent.1.pending concurrent.1.during = inTurn.1.map ([·]) ∧
      concurrent.1.pending.length = pending.length ∧
      concurrent.1.during.length = during.length ∧
      concurrent.1.held = floor.desk.store.get? session := by
  intro marks concurrent inTurn
  have keeps : ∀ requests : List ServiceRequest, ∀ work ∈ requests.map service.work,
      work.Keeps := by
    intro requests
    rw [List.forall_mem_map]
    exact fun request _ => service.keeps_work request
  have same := whileLocked_eq reachable.sound.desk.store (keeps pending) (keeps during) free
  simp only [List.map_map, List.length_map, inOrder_map, inTurn_works] at same
  exact same

/-- A service with one session, whose identifier is drawn again. -/
def opened : Floor ServiceRequest Model Outcome :=
  models.step ⟨⟨⟨0, .empty, .empty, 0, ⟨["a", "a"], 0⟩⟩, [], 0⟩, [], []⟩
    (.ask (.createFor { name := "Post" }))

/-- Requests that drop a session while one waits for its lock, and create another with the same
identifier. -/
def recreating : List ServiceRequest :=
  [.rename "a" "Stale", .delete "a", .createFor { name := "New" }, .rename "a" "Newer"]

/-- A request that waits for the lock of a session that is dropped renames the session that is
created again under its identifier, as if it were made last. -/
theorem whileLocked_in_order_recreating :
    (models.whileLocked "a" recreating [.get "a"] opened.desk.store).2 =
        (models.answerAll [.delete "a", .createFor { name := "New" }, .rename "a" "Newer", .get "a",
          .rename "a" "Stale"] opened.desk.store).2 ∧
      ((models.whileLocked "a" recreating [.get "a"] opened.desk.store).2.get? "a").map (·.name) =
        some ("Stale" : Text) := by
  have reachable : models.Reachable opened :=
    .move (.start 0 ⟨["a", "a"], 0⟩) (trivial : Allows _ (.ask _))
  have marks : Schedule.pendingMarks "a" (recreating.map models.work) opened.desk.store =
      [true, false, false, false] := by decide +kernel
  have order := (reachable.whileLocked_in_order "a" recreating [.get "a"] (by decide +kernel)).1
  rw [marks] at order
  exact ⟨order, by decide +kernel⟩

end SchemaDesk.Service
