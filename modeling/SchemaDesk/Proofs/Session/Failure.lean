import SchemaDesk.Proofs.Session.Eviction
import SchemaDesk.Session.Request
/-!
# Requests that fail

A request to a store fails when it saves an item for a session that is not there, or when no room
can be made for a session that it creates. Room is made before the session comes in, so a failure
comes after sessions have been dropped. Even so no session is ever lost by it: room is lacking under
a negative limit only, and under such a limit no session has ever come in
(`Store.VacantBelowZero`). Every event keeps this, so a request that fails at a reachable desk
changes neither sessions nor locks, whatever the limit is
(`Desk.Reachable.failure_changes_nothing`).
-/

namespace SchemaDesk

/-- Whether an answer tells that a request has failed. -/
def StoreAnswer.isFailure {α : Type} : StoreAnswer α → Bool
  | noRoom | unknownSession _ => true
  | created _ | item _ | known _ => false

/-- What a work does when it is let in, given the item that its task has seen. A work that is done
at once has no task and sees nothing. -/
def Work.admitted {α ρ : Type} : Work α ρ → Option α → StateM (Store α) ρ
  | plain act, _ => act
  | locked _ act, seen => act seen

namespace Store

variable {α : Type} {store : Store α}

/-- Under a negative limit there are no sessions. -/
def VacantBelowZero (store : Store α) : Prop := store.limit < 0 → store.sessions = []

/-- Room is lacking under a negative limit only. -/
theorem limit_neg_of_create_eq_none {item : α} (refused : (create item store).1 = none) :
    store.limit < 0 := by
  by_contra notNegative
  obtain ⟨limit, limited⟩ := Int.eq_ofNat_of_zero_le (Int.not_lt.mp notNegative)
  obtain ⟨id, -, created, -⟩ := create_eq item limited
  cases refused.symm.trans created

/-- Where a negative limit leaves no room, creating a session drops none, because there is none. -/
theorem create_of_vacant (negative : store.limit < 0) (vacant : store.sessions = []) (item : α) :
    create item store =
      (none, { store with draws := (store.draws.fresh store.sessions).2 }) := by
  have full : hasRoom { store with draws := (store.draws.fresh store.sessions).2 } = false := by
    have size : (0 : Int) ≤ store.items.size := Int.natCast_nonneg _
    simp only [hasRoom, Bool.or_eq_false_iff, decide_eq_false_iff_not]
    omega
  have noOldest : store.items.oldest? = none := by
    rw [Table.oldest?, show store.items.keys = [] from vacant]
    rfl
  have noRoom : makeRoom { store with draws := (store.draws.fresh store.sessions).2 } =
      (false, { store with draws := (store.draws.fresh store.sessions).2 }) := by
    rw [makeRoom, full, if_neg Bool.false_ne_true]
    split
    · rfl
    · next session oldest => cases noOldest.symm.trans oldest
  simp only [create, noRoom]

/-- Creating a session keeps the limit. -/
theorem limit_create (item : α) (store : Store α) :
    (create item store).2.limit = store.limit := by
  have room : ∀ draws, (store.roomFor draws).limit = store.limit := fun draws =>
    makeRoom_induction (motive := fun room => room.limit = store.limit)
      (fun _ _ kept => kept) { store with draws := draws } rfl
  obtain ⟨id, draws, -, created | created⟩ := create_cases item store
  · rw [created]
    exact room draws
  · rw [created]
    exact room draws

/-- Under a negative limit no session comes in. -/
theorem VacantBelowZero.create (vacant : store.VacantBelowZero) (item : α) :
    (create item store).2.VacantBelowZero := by
  intro negative
  rw [limit_create] at negative
  have empty := vacant negative
  rw [create_of_vacant negative empty]
  exact empty

/-- Saving brings no session in. -/
theorem VacantBelowZero.save (vacant : store.VacantBelowZero) (session : Text) (item : α) :
    (save session item store).2.VacantBelowZero := by
  intro negative
  rw [limit_save] at negative
  rw [sessions_save]
  exact vacant negative

/-- Dropping brings no session in. -/
theorem VacantBelowZero.drop (vacant : store.VacantBelowZero) (session : Text) :
    (store.drop session).VacantBelowZero := by
  intro negative
  have empty : store.items.keys = [] := vacant negative
  rw [sessions, Store.drop, Table.keys_erase, empty]
  rfl

end Store

namespace StoreRequest

variable {α : Type} {store : Store α}

/-- An item is saved, or its session is not there and nothing changes. -/
theorem saveItem_cases (session : Text) (item : α) (store : Store α) :
    (saveItem session item store).1 = .item (some item) ∨
      (saveItem session item store = (.unknownSession session, store) ∧
        store.exists? session = false) := by
  have saved : saveItem session item store =
      (answerSave session item (Store.save session item store).1,
        (Store.save session item store).2) := rfl
  cases live : store.exists? session with
  | true =>
    rw [saved, Store.save_of_exists live]
    exact .inl rfl
  | false =>
    rw [saved, Store.save_of_not_exists live]
    exact .inr ⟨rfl, rfl⟩

/-- A request that fails has found no room for the session it creates, or no session to save an item
for; the latter changes nothing. -/
theorem admitted_cases (request : StoreRequest α) {work : Work α (StoreAnswer α)}
    (mem : work ∈ request.group.works) (seen : Option α) (store : Store α) :
    (work.admitted seen store).1.isFailure = false ∨
      (∃ item, work.admitted seen store = (.noRoom, (Store.create item store).2) ∧
        (Store.create item store).1 = none) ∨
      ∃ session, work.admitted seen store = (.unknownSession session, store) ∧
        store.exists? session = false := by
  have saves : ∀ session item, (saveItem session item store).1.isFailure = false ∨
      ∃ other, saveItem session item store = (.unknownSession other, store) ∧
        store.exists? other = false := by
    intro session item
    rcases saveItem_cases session item store with saved | gone
    · exact .inl (by rw [saved]; rfl)
    · exact .inr ⟨session, gone⟩
  cases request with
  | create item =>
    obtain rfl := List.mem_singleton.mp mem
    simp only [Work.admitted, bind, StateT.bind]
    cases ran : Store.create item store with
    | mk created after =>
      cases created with
      | some session => exact .inl rfl
      | none => exact .inr (.inl ⟨item, by rw [ran]; rfl, by rw [ran]⟩)
  | save session item =>
    obtain rfl := List.mem_singleton.mp mem
    exact (saves session item).imp_right .inr
  | get | delete | «exists» | locked =>
    obtain rfl := List.mem_singleton.mp mem
    exact .inl rfl
  | editAll session edits =>
    obtain ⟨edit, -, rfl⟩ := List.mem_map.mp mem
    cases seen with
    | none => exact .inl rfl
    | some item => exact (saves session (edit item)).imp_right .inr

end StoreRequest

namespace Desk

open Store (VacantBelowZero)

variable {α : Type} {desk : Desk α}

/-- An event lets no session in under a negative limit. -/
theorem vacantBelowZero_step (vacant : desk.store.VacantBelowZero) (event : Event α) :
    (desk.step event).store.VacantBelowZero := by
  cases event with
  | create item => exact vacant.create item
  | replace session item => exact vacant.save session item
  | delete session => exact vacant.drop session
  | save number edit =>
    obtain ⟨limit, sessions⟩ := desk.sessions_saveBy number edit
    intro negative
    rw [step, limit] at negative
    rw [step, sessions]
    exact vacant negative
  | enter | resume | leave | get | «exists» => exact vacant

/-- Under a negative limit a run brings no session in. -/
theorem vacantBelowZero_run (vacant : desk.store.VacantBelowZero) (events : List (Event α)) :
    (desk.run events).store.VacantBelowZero := by
  induction events generalizing desk with
  | nil => exact vacant
  | cons event rest ih => exact ih (vacantBelowZero_step vacant event)

/-- Under a negative limit a reachable desk has no sessions. -/
theorem Reachable.vacantBelowZero (reachable : desk.Reachable) : desk.store.VacantBelowZero := by
  obtain ⟨limit, draws, events, rfl⟩ := reachable
  exact vacantBelowZero_run (fun _ => rfl) events

/-- At every desk that events lead to from a store without sessions, whatever its limit is and
whichever tasks hold or await locks: a request that fails when it is let in, whatever its task has
seen, leaves the sessions with their items and locks as they are. There is no room for a session
only under a negative limit, and then there are no sessions; an item is refused only for a session
that is not there. -/
theorem Reachable.failure_changes_nothing (reachable : desk.Reachable) (request : StoreRequest α)
    {work : Work α (StoreAnswer α)} (mem : work ∈ request.group.works) (seen : Option α)
    {answer : StoreAnswer α} {after : Store α}
    (answered : work.admitted seen desk.store = (answer, after)) :
    (answer.isFailure = true →
      after.items = desk.store.items ∧ after.locks = desk.store.locks) ∧
    (answer = .noRoom → desk.store.limit < 0 ∧ desk.store.sessions = []) ∧
    ∀ session, answer = .unknownSession session → desk.store.exists? session = false := by
  rcases request.admitted_cases mem seen desk.store with
    met | ⟨item, refused, unmade⟩ | ⟨session, refused, gone⟩
  · rw [answered] at met
    refine ⟨fun failed => ?_, ?_, ?_⟩
    · cases met.symm.trans failed
    · rintro rfl
      cases met
    · rintro session rfl
      cases met
  · have negative := Store.limit_neg_of_create_eq_none unmade
    have vacant := reachable.vacantBelowZero negative
    rw [answered, Store.create_of_vacant negative vacant] at refused
    obtain ⟨rfl, rfl⟩ := Prod.mk.inj refused
    exact ⟨fun _ => ⟨rfl, rfl⟩, fun _ => ⟨negative, vacant⟩, nofun⟩
  · obtain ⟨rfl, rfl⟩ := Prod.mk.inj (answered.symm.trans refused)
    refine ⟨fun _ => ⟨rfl, rfl⟩, nofun, fun other same => ?_⟩
    obtain rfl := StoreAnswer.unknownSession.inj same
    exact gone

/-- A desk with a negative limit, at which a session was to be created and a task asks for it. -/
def lacking : Desk Nat :=
  run ⟨⟨-1, .empty, .empty, 0, ⟨["a", "a"], 0⟩⟩, [], 0⟩ [.create 1, .enter "a"]

/-- A desk with a limit of one session, at which a task has read the item of a session that was
dropped for a later one. -/
def outdated : Desk Nat :=
  run ⟨⟨1, .empty, .empty, 0, ⟨["a", "b"], 0⟩⟩, [], 0⟩ [.create 1, .enter "a", .create 2]

/-- Creating a session fails at the first desk, and at the second the task fails to save what it has
made of the item, where another session stays as it is. -/
theorem failure_changes_nothing_outdated :
    (∃ work ∈ (StoreRequest.create 2).group.works,
      (work.admitted none lacking.store).1.isFailure = true ∧
        (work.admitted none lacking.store).2.items = lacking.store.items) ∧
    ∃ work ∈ (StoreRequest.editAll "a" [(· + 1)]).group.works,
      (work.admitted (some 1) outdated.store).1.isFailure = true ∧
        (work.admitted (some 1) outdated.store).2.items = outdated.store.items ∧
        outdated.store.sessions = [Text.ofString "b"] := by
  have lackingReachable : lacking.Reachable := ⟨_, _, _, rfl⟩
  have outdatedReachable : outdated.Reachable := ⟨_, _, _, rfl⟩
  constructor
  · refine ⟨_, List.mem_singleton_self _, by decide +kernel, ?_⟩
    have unchanged := lackingReachable.failure_changes_nothing (.create 2)
      (List.mem_singleton_self _) none rfl
    exact (unchanged.1 (by decide +kernel)).1
  · refine ⟨_, List.mem_singleton_self _, by decide +kernel, ?_, by decide +kernel⟩
    have unchanged := outdatedReachable.failure_changes_nothing (.editAll "a" [(· + 1)])
      (List.mem_singleton_self _) (some 1) rfl
    exact (unchanged.1 (by decide +kernel)).1

end Desk

end SchemaDesk
