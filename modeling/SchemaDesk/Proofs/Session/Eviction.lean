import Mathlib.Data.List.Dedup
import Mathlib.Data.List.DropRight
import SchemaDesk.Proofs.Session.Queue
/-!
# Which sessions are dropped

Creating a session at the limit drops the oldest sessions. Which sessions there are is the state of
a plain queue: a created session comes in at its end, a deleted one goes, and what goes out at its
front to make room is never more than one session (`Turnover.apply`). Saving an item and taking a
lock do not show in the queue, so nothing that is done with a session moves it or keeps it.
`Desk.run_evicts_oldest` says this of every run from a store without sessions.
-/

namespace SchemaDesk

/-- The youngest entries, the oldest of them first, that leave room for one more under a limit; all
entries when the limit is zero. -/
def youngest {β : Type} (limit : Nat) (entries : List β) : List β :=
  if limit = 0 then entries else entries.rtake (limit - 1)

section Youngest

variable {β γ : Type}

/-- The youngest entries are those behind the first ones. -/
theorem youngest_eq_drop (limit : Nat) (entries : List β) :
    youngest limit entries =
      entries.drop (if limit = 0 then 0 else entries.length - (limit - 1)) := by
  rw [youngest]
  split
  · rfl
  · rfl

/-- There is room for one more among the youngest entries. -/
theorem length_youngest (limit : Nat) (entries : List β) :
    (youngest limit entries).length =
      if limit = 0 then entries.length else min entries.length (limit - 1) := by
  rw [youngest_eq_drop, List.length_drop]
  split
  · rfl
  · omega

/-- The youngest entries of a list stay the youngest when all are changed. -/
theorem map_youngest (f : β → γ) (limit : Nat) (entries : List β) :
    (youngest limit entries).map f = youngest limit (entries.map f) := by
  rw [youngest_eq_drop, youngest_eq_drop, List.map_drop, List.length_map]

/-- Under the limit every entry stays. -/
theorem youngest_of_room {limit : Nat} {entries : List β}
    (room : limit = 0 ∨ entries.length < limit) : youngest limit entries = entries := by
  have kept : (if limit = 0 then 0 else entries.length - (limit - 1)) = 0 := by
    split <;> omega
  rw [youngest_eq_drop, kept, List.drop_zero]

/-- At the limit the oldest entry goes. -/
theorem youngest_cons {limit : Nat} {first : β} {rest : List β} (full : limit ≠ 0)
    (reached : limit ≤ rest.length + 1) : youngest limit (first :: rest) = youngest limit rest := by
  have one : (first :: rest).length - (limit - 1) = rest.length - (limit - 1) + 1 := by
    have count : (first :: rest).length = rest.length + 1 := List.length_cons
    omega
  rw [youngest_eq_drop, youngest_eq_drop, if_neg full, if_neg full, one, List.drop_succ_cons]

end Youngest

namespace Table

variable {α : Type}

/-- A new entry comes last. -/
theorem entries_put_of_notMem {table : Table α} {key : Text} (new : key ∉ table.keys) (value : α) :
    (table.put key value).entries = table.entries ++ [(key, value)] := by
  rw [put, dif_neg new]

/-- Erasing the oldest key leaves the later entries as they are. -/
theorem entries_erase_oldest {table : Table α} {key : Text} (oldest : table.oldest? = some key) :
    ∃ value, table.entries = (key, value) :: (table.erase key).entries := by
  obtain ⟨entries, distinct⟩ := table
  cases entries with
  | nil => cases oldest
  | cons entry rest =>
    obtain ⟨first, value⟩ := entry
    obtain rfl : first = key := Option.some.inj oldest
    have others : ∀ other ∈ rest, (other.1 != first) = true := by
      intro other mem
      have apart : first ∉ rest.map Prod.fst := (List.nodup_cons.mp distinct).1
      exact bne_iff_ne.mpr fun same => apart (same ▸ List.mem_map_of_mem mem)
    have kept : ((first, value) :: rest).filter (·.1 != first) = rest := by
      rw [List.filter_cons_of_neg (by simp)]
      exact List.filter_eq_self.mpr others
    exact ⟨value, congrArg _ kept.symm⟩

end Table

namespace Store

variable {α : Type} {store : Store α} {limit : Nat}

/-- There is room for one more session when there is no limit or it is not reached. -/
theorem hasRoom_iff (limited : store.limit = limit) :
    store.hasRoom = true ↔ limit = 0 ∨ store.items.entries.length < limit := by
  simp only [hasRoom, limited, Table.size, Bool.or_eq_true, decide_eq_true_eq]
  omega

/-- Saving an item keeps the limit. -/
theorem limit_save (session : Text) (item : α) (store : Store α) :
    (save session item store).2.limit = store.limit := by
  rw [save]
  split <;> rfl

/-- Under a limit that is not negative room can be made, and the youngest sessions stay with their
items. -/
theorem makeRoom_eq (store : Store α) (limited : store.limit = limit) :
    store.makeRoom.1 = true ∧ store.makeRoom.2.limit = limit ∧
      store.makeRoom.2.items.entries = youngest limit store.items.entries := by
  induction store using makeRoom.induct with
  | case1 store room =>
    rw [makeRoom, if_pos room]
    exact ⟨rfl, limited, (youngest_of_room ((hasRoom_iff limited).mp room)).symm⟩
  | case2 store full none =>
    have empty : store.items.entries = [] := by
      simpa [Table.oldest?, Table.keys] using none
    rw [hasRoom_iff limited, empty] at full
    have impossible : ¬ (limit = 0 ∨ 0 < limit) := full
    omega
  | case3 store full session oldest ih =>
    obtain ⟨item, entries⟩ := Table.entries_erase_oldest oldest
    have reached : ¬ (limit = 0 ∨ store.items.entries.length < limit) := by
      rwa [← hasRoom_iff limited]
    rw [entries, List.length_cons] at reached
    have rest : youngest limit store.items.entries =
        youngest limit (store.drop session).items.entries := by
      rw [entries]
      exact youngest_cons (by omega) (by omega)
    rw [makeRoom, if_neg full, rest]
    split
    · next empty => cases oldest.symm.trans empty
    · next other first =>
      obtain rfl : session = other := Option.some.inj (oldest.symm.trans first)
      exact ih limited

/-- Creating a session under a limit that is not negative always succeeds with an identifier that no
session has. The youngest sessions stay with their items, and the new one comes after them. -/
theorem create_eq (item : α) (limited : store.limit = limit) :
    ∃ id, id ∉ store.sessions ∧ (create item store).1 = some id ∧
      (create item store).2.limit = limit ∧
      (create item store).2.items.entries = youngest limit store.items.entries ++ [(id, item)] := by
  let id := (store.draws.fresh store.sessions).1
  let room := store.roomFor (store.draws.fresh store.sessions).2
  have new : id ∉ store.sessions := Draws.fresh_notMem store.sessions store.draws
  obtain ⟨made, kept, entries⟩ := makeRoom_eq
    { store with draws := (store.draws.fresh store.sessions).2 } limited
  have created : create item store = (some id, room.add id item) := by
    have both : makeRoom { store with draws := (store.draws.fresh store.sessions).2 } =
        (true, room) := Prod.ext made rfl
    simp only [create, both, id]
  have unused : id ∉ room.items.keys := fun mem =>
    new (mem_sessions.mpr (exists?_of_roomFor (mem_sessions.mp mem)))
  have added : (room.add id item).items.entries = room.items.entries ++ [(id, item)] :=
    Table.entries_put_of_notMem unused item
  refine ⟨id, new, by rw [created], by rw [created]; exact kept, ?_⟩
  rw [created, added]
  exact congrArg (· ++ [(id, item)]) entries

end Store

/-- A change of which sessions there are. -/
inductive Turnover where
  /-- A session is created. -/
  | created (session : Text)
  /-- A session is deleted. -/
  | deleted (session : Text)

namespace Turnover

/-- The session that is created. -/
def created? : Turnover → Option Text
  | created session => some session
  | deleted _ => none

/-- The sessions after a change, the oldest first: a created session makes room for itself and comes
last. -/
def apply (limit : Nat) (sessions : List Text) : Turnover → List Text
  | created session => youngest limit sessions ++ [session]
  | deleted session => sessions.filter (· != session)

variable {limit : Nat} {sessions : List Text}

/-- The limit is kept. -/
theorem length_apply_le (positive : limit ≠ 0) (bound : sessions.length ≤ limit)
    (turnover : Turnover) : (turnover.apply limit sessions).length ≤ limit := by
  cases turnover with
  | created session =>
    have spared := length_youngest limit sessions
    rw [if_neg positive] at spared
    rw [apply, List.length_append, spared, List.length_singleton]
    omega
  | deleted session => exact (List.length_filter_le _ _).trans bound

/-- Without a limit only a deleted session goes. -/
theorem mem_apply {session : Text} (mem : session ∈ sessions) {turnover : Turnover}
    (other : turnover ≠ .deleted session) : session ∈ turnover.apply 0 sessions := by
  cases turnover with
  | created new => exact List.mem_append_left _ mem
  | deleted gone =>
    have apart : session ≠ gone := fun same => other (congrArg deleted same.symm)
    exact List.mem_filter.mpr ⟨mem, bne_iff_ne.mpr apart⟩

/-- A list in the order of the last occurrences stays so when an element comes last in both. -/
theorem concat_sublist_dedup {β : Type} [DecidableEq β] {list all : List β} {last : β}
    (ordered : list.Sublist all.dedup) (new : last ∉ list) :
    (list ++ [last]).Sublist (all ++ [last]).dedup := by
  induction all generalizing list with
  | nil =>
    obtain rfl : list = [] := List.sublist_nil.mp ordered
    exact List.Sublist.refl [last]
  | cons first rest ih =>
    by_cases again : first ∈ rest
    · rw [List.dedup_cons_of_mem again] at ordered
      rw [List.cons_append, List.dedup_cons_of_mem (List.mem_append_left _ again)]
      exact ih ordered new
    · rw [List.dedup_cons_of_notMem again] at ordered
      by_cases same : first = last
      · have within : list.Sublist rest.dedup := by
          cases ordered with
          | cons _ within => exact within
          | cons_cons _ _ => exact absurd (same ▸ List.mem_cons_self) new
        rw [List.cons_append, List.dedup_cons_of_mem (by simp [same])]
        exact ih within new
      · rw [List.cons_append, List.dedup_cons_of_notMem (by simp [again, same])]
        cases ordered with
        | cons _ within => exact (ih within new).cons first
        | cons_cons _ within =>
          exact (ih within fun mem => new (List.mem_cons_of_mem first mem)).cons_cons first

/-- The sessions stay in the order of their creation. -/
theorem apply_sublist (limit : Nat) {born : List Text} (ordered : sessions.Sublist born.dedup)
    (turnover : Turnover) (new : ∀ session, turnover.created? = some session → session ∉ sessions) :
    (turnover.apply limit sessions).Sublist (born ++ turnover.created?.toList).dedup := by
  cases turnover with
  | created session =>
    have kept : (youngest limit sessions).Sublist sessions := by
      rw [youngest_eq_drop]
      exact List.drop_sublist _ _
    have unused : session ∉ youngest limit sessions := fun mem => new session rfl (kept.mem mem)
    exact concat_sublist_dedup (kept.trans ordered) unused
  | deleted session =>
    have same : born ++ (deleted session).created?.toList = born := List.append_nil born
    rw [same]
    exact List.filter_sublist.trans ordered

end Turnover

namespace Desk

variable {α : Type} {desk : Desk α} {limit : Nat}

/-- A desk without tasks and a store without sessions. -/
def unused (limit : Nat) (draws : Draws) : Desk α := ⟨⟨limit, .empty, .empty, 0, draws⟩, [], 0⟩

/-- How an event changes which sessions there are. -/
def turnover (desk : Desk α) : Event α → List Turnover
  | .create item => (Store.create item desk.store).1.toList.map .created
  | .delete session => [.deleted session]
  | _ => []

/-- How events in order change which sessions there are. -/
def turnovers : Desk α → List (Event α) → List Turnover
  | _, [] => []
  | desk, event :: rest => desk.turnover event ++ (desk.step event).turnovers rest

/-- The limit and the sessions after an operation that only changes items, locks and draws. -/
theorem sessions_saveBy (desk : Desk α) (number : Nat) (edit : α → StateM Draws α) :
    (desk.saveBy number edit).store.limit = desk.store.limit ∧
      (desk.saveBy number edit).store.sessions = desk.store.sessions := by
  rcases desk.saveBy_cases number edit with idle | ⟨task, -, item, -, -, saved⟩
  · rw [idle]
    exact ⟨rfl, rfl⟩
  · rw [saved]
    exact ⟨Store.limit_save .., Store.sessions_save ..⟩

/-- The sessions after an event are those that its turnover leaves. -/
theorem sessions_step (limited : desk.store.limit = limit) (event : Event α) :
    (desk.step event).store.limit = limit ∧
      (desk.step event).store.sessions =
        (desk.turnover event).foldl (Turnover.apply limit) desk.store.sessions := by
  cases event with
  | create item =>
    obtain ⟨id, -, created, kept, entries⟩ := Store.create_eq item limited
    refine ⟨kept, ?_⟩
    have after : (Store.create item desk.store).2.sessions =
        youngest limit desk.store.sessions ++ [id] := by
      rw [Store.sessions, Table.keys, entries, List.map_append, map_youngest]
      rfl
    rw [turnover, created]
    exact after
  | delete session => exact ⟨limited, Table.keys_erase desk.store.items session⟩
  | save number edit =>
    obtain ⟨kept, same⟩ := desk.sessions_saveBy number edit
    exact ⟨kept.trans limited, same⟩
  | replace session item =>
    exact ⟨(Store.limit_save ..).trans limited, Store.sessions_save session item desk.store⟩
  | enter | resume | leave | get | «exists» => exact ⟨limited, rfl⟩

/-- The sessions after events are those that their turnovers leave. -/
theorem sessions_run (limited : desk.store.limit = limit) (events : List (Event α)) :
    (desk.run events).store.limit = limit ∧
      (desk.run events).store.sessions =
        (desk.turnovers events).foldl (Turnover.apply limit) desk.store.sessions := by
  induction events generalizing desk with
  | nil => exact ⟨limited, rfl⟩
  | cons event rest ih =>
    obtain ⟨kept, after⟩ := sessions_step limited event
    rw [turnovers, List.foldl_append, ← after]
    exact ih kept

/-- An event brings at most one change, and creates no session that is there. -/
theorem turnover_cases (limited : desk.store.limit = limit) (event : Event α) :
    desk.turnover event = [] ∨ ∃ turnover, desk.turnover event = [turnover] ∧
      ∀ session, turnover.created? = some session → session ∉ desk.store.sessions := by
  cases event with
  | create item =>
    obtain ⟨id, new, created, -⟩ := Store.create_eq item limited
    refine .inr ⟨.created id, by rw [turnover, created]; rfl, fun session same => ?_⟩
    exact Option.some.inj same ▸ new
  | delete session => exact .inr ⟨.deleted session, rfl, nofun⟩
  | enter | resume | save | leave | replace | get | «exists» => exact .inl rfl

/-- The sessions are listed in the order of their creation throughout a run. -/
theorem ordered_run {born : List Text} (limited : desk.store.limit = limit)
    (ordered : desk.store.sessions.Sublist born.dedup) (events : List (Event α)) :
    (desk.run events).store.sessions.Sublist
      (born ++ (desk.turnovers events).filterMap Turnover.created?).dedup := by
  induction events generalizing desk born with
  | nil => rwa [turnovers, List.filterMap_nil, List.append_nil]
  | cons event rest ih =>
    obtain ⟨kept, after⟩ := sessions_step limited event
    have step : (desk.step event).store.sessions.Sublist
        (born ++ (desk.turnover event).filterMap Turnover.created?).dedup := by
      rw [after]
      rcases turnover_cases limited event with same | ⟨turnover, one, new⟩
      · rw [same, List.filterMap_nil, List.append_nil]
        exact ordered
      · rw [one, List.filterMap_cons, List.filterMap_nil]
        have next := turnover.apply_sublist limit ordered new
        cases created : turnover.created? <;> simpa [created] using next
    rw [turnovers, List.filterMap_append, ← List.append_assoc]
    exact ih kept step

/-- A limit that is kept at first is kept throughout a run. -/
theorem length_run_le (limited : desk.store.limit = limit) (positive : limit ≠ 0)
    (bound : desk.store.sessions.length ≤ limit) (events : List (Event α)) :
    (desk.run events).store.sessions.length ≤ limit := by
  rw [(sessions_run limited events).2]
  generalize desk.store.sessions = sessions at bound
  induction desk.turnovers events generalizing sessions with
  | nil => exact bound
  | cons turnover rest ih => exact ih _ (turnover.length_apply_le positive bound)

/-- A session is deleted in a run only by an event that deletes it. -/
theorem deleted_mem_turnovers {session : Text} {events : List (Event α)}
    (mem : .deleted session ∈ desk.turnovers events) : .delete session ∈ events := by
  induction events generalizing desk with
  | nil => exact absurd mem List.not_mem_nil
  | cons event rest ih =>
    rcases List.mem_append.mp mem with now | later
    · have here : event = .delete session := by
        cases event with
        | create item =>
          obtain ⟨id, -, created⟩ := List.mem_map.mp now
          cases created
        | delete gone =>
          cases List.mem_singleton.mp now
          rfl
        | _ => exact absurd now List.not_mem_nil
      exact here ▸ List.mem_cons_self
    · exact List.mem_cons_of_mem event (ih later)

/-- Without a limit a session stays until it is deleted. -/
theorem mem_sessions_run (unlimited : desk.store.limit = 0) {session : Text}
    (mem : session ∈ desk.store.sessions) {events : List (Event α)}
    (spared : .delete session ∉ events) : session ∈ (desk.run events).store.sessions := by
  have undeleted : .deleted session ∉ desk.turnovers events := fun deleted =>
    spared (deleted_mem_turnovers deleted)
  have limited : desk.store.limit = (0 : Nat) := unlimited
  rw [(sessions_run limited events).2]
  generalize desk.store.sessions = sessions at mem
  generalize desk.turnovers events = turnovers at undeleted
  induction turnovers generalizing sessions with
  | nil => exact mem
  | cons turnover rest ih =>
    have other : turnover ≠ .deleted session := fun same => undeleted (same ▸ List.mem_cons_self)
    exact ih _ (Turnover.mem_apply mem other) fun later =>
      undeleted (List.mem_cons_of_mem turnover later)

/-- At every desk that events lead to from an unused one with a limit of sessions, zero for none:

* the sessions follow from the creations and deletions alone, whatever else has gone on;
* they are listed in the order of their creation, where of two creations with one identifier the
  later counts;
* there are never more sessions than the limit;
* every event but a creation or deletion leaves the list of sessions as it is;
* creating a session succeeds with an identifier that no session has, keeps the youngest sessions
  that leave room for it, with their items and in their order, and adds the new one at the end; it
  drops at most one session, and only when the limit is reached;
* without a limit a session stays until it is deleted. -/
theorem run_evicts_oldest (limit : Nat) (draws : Draws) (events : List (Event α)) :
    let desk := (unused limit draws).run events
    let turnovers := (unused limit draws : Desk α).turnovers events
    let sessions := desk.store.sessions
    sessions = turnovers.foldl (Turnover.apply limit) [] ∧
    sessions.Sublist (turnovers.filterMap Turnover.created?).dedup ∧
    (limit ≠ 0 → sessions.length ≤ limit) ∧
    (∀ event, (∀ item, event ≠ .create item) → (∀ session, event ≠ .delete session) →
      (desk.step event).store.sessions = sessions) ∧
    (∀ item, ∃ id dropped kept, id ∉ sessions ∧
      (Store.create item desk.store).1 = some id ∧
      desk.store.items.entries = dropped ++ kept ∧
      (desk.step (.create item)).store.items.entries = kept ++ [(id, item)] ∧
      kept.length = (if limit = 0 then sessions.length else min sessions.length (limit - 1)) ∧
      dropped.length ≤ 1 ∧ (dropped ≠ [] → limit ≠ 0 ∧ sessions.length = limit)) ∧
    (limit = 0 → ∀ session ∈ sessions, ∀ later, .delete session ∉ later →
      session ∈ (desk.run later).store.sessions) := by
  intro desk turnovers sessions
  have begun : (unused limit draws : Desk α).store.limit = limit := rfl
  have ordered : (unused limit draws : Desk α).store.sessions.Sublist ([] : List Text).dedup :=
    List.Sublist.refl _
  obtain ⟨limited, replayed⟩ := sessions_run begun events
  have bound : limit ≠ 0 → sessions.length ≤ limit := fun positive =>
    length_run_le begun positive (Nat.zero_le _) events
  refine ⟨replayed, ordered_run begun ordered events, bound,
    fun event notCreate notDelete => ?_, fun item => ?_, fun zero session mem later spared => ?_⟩
  · have idle : desk.turnover event = [] := by
      cases event with
      | create item => exact absurd rfl (notCreate item)
      | delete session => exact absurd rfl (notDelete session)
      | _ => rfl
    rw [(sessions_step limited event).2, idle]
    rfl
  · obtain ⟨id, new, created, -, entries⟩ := Store.create_eq item limited
    have count : desk.store.items.entries.length = sessions.length := (List.length_map _).symm
    let excess := if limit = 0 then 0 else sessions.length - (limit - 1)
    have kept : youngest limit desk.store.items.entries = desk.store.items.entries.drop excess := by
      rw [youngest_eq_drop, count]
    refine ⟨id, desk.store.items.entries.take excess, youngest limit desk.store.items.entries, new,
      created, ?_, entries, ?_, ?_, fun gone => ?_⟩
    · rw [kept, List.take_append_drop]
    · rw [length_youngest, count]
    · have few : excess ≤ 1 := by
        by_cases zero : limit = 0
        · simp [excess, zero]
        · have most := bound zero
          simp only [excess, if_neg zero]
          omega
      exact (List.length_take_le _ _).trans few
    · have positive : limit ≠ 0 := fun zero => gone (by simp [excess, zero])
      have most := bound positive
      have dropped : excess ≠ 0 := fun zero => gone (by rw [zero, List.take_zero])
      simp only [excess, if_neg positive] at dropped
      exact ⟨positive, by omega⟩
  · exact mem_sessions_run (by rw [limited, zero]; rfl) mem spared

/-- A desk with as many sessions as its limit allows. The lock of the oldest is taken, and its item
has just been saved. -/
def busy : Desk Nat :=
  (unused 2 ⟨["a", "a", "b", "b", "c"], 0⟩).run
    [.create 1, .enter "a", .create 2, .save 0 fun item => return item + 10, .replace "a" 20]

/-- The session that is in use is the oldest, and so it is dropped when one more is created. -/
theorem run_evicts_oldest_busy :
    ∃ id dropped kept, busy.store.items.entries = dropped ++ kept ∧
      (busy.step (.create 3)).store.items.entries = kept ++ [(id, 3)] ∧
      kept.length = 1 ∧ dropped = [(Text.ofString "a", 20)] := by
  obtain ⟨-, -, -, -, creates, -⟩ := run_evicts_oldest 2 ⟨["a", "a", "b", "b", "c"], 0⟩
    [.create 1, .enter "a", .create 2, .save 0 fun item => return item + 10, .replace "a" 20]
  obtain ⟨id, dropped, kept, -, -, before, after, count, -⟩ := creates 3
  have one : kept.length = 1 := count.trans (by decide +kernel)
  have entries : [(Text.ofString "a", 20)] ++ [(Text.ofString "b", 2)] = dropped ++ kept := by
    rw [← before]
    decide +kernel
  exact ⟨id, dropped, kept, before, after, one, (List.append_inj_left' entries one.symm).symm⟩

end Desk

end SchemaDesk
