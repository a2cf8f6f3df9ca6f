import SchemaDesk.Proofs.Draws.Fresh
import SchemaDesk.Session.Store
/-!
# The upkeep of a store

Items and locks of a store lie in two tables that every operation changes one after the other. A
sound store has a lock for every session and for nothing else, and no two sessions share one. Every
operation keeps a store sound and gives no lock a second time (`Keeps`), whatever it draws and
however many sessions it drops. A session that is there before and after an operation on others has
kept its item and its lock (`LeavesAlone`).
-/

namespace SchemaDesk.Store

variable {α ρ σ : Type}

/-- A store that has a lock of its own for every session, and no other locks. -/
structure Sound (store : Store α) : Prop where
  paired : store.locks.keys = store.items.keys
  issued : ∀ {session lock}, store.locks.find? session = some lock → lock < store.nextLock
  apart : ∀ {left right lock}, store.locks.find? left = some lock →
    store.locks.find? right = some lock → left = right

/-- A later store has no lock that was given before, except where it was given. -/
structure Evolves (before after : Store α) : Prop where
  nextLock : before.nextLock ≤ after.nextLock
  lock : ∀ {session lock}, after.locks.find? session = some lock →
    before.locks.find? session = some lock ∨ before.nextLock ≤ lock

/-- An operation that keeps a store sound and gives no lock a second time. -/
def Keeps (operation : StateM (Store α) ρ) : Prop :=
  ∀ store, store.Sound → (operation store).2.Sound ∧ Evolves store (operation store).2

/-- A session that is there afterwards has the item and the lock that it had before. -/
def LeavesAlone (session : Text) (before after : Store α) : Prop :=
  after.exists? session = true →
    after.get? session = before.get? session ∧
      after.locks.find? session = before.locks.find? session

/-! ## Sessions and their locks -/

/-- There is a session exactly when it has an item. -/
theorem exists?_iff_get? {store : Store α} {session : Text} :
    store.exists? session = true ↔ (store.get? session).isSome = true := by
  rw [exists?, get?, Table.isSome_find?, Table.contains, List.contains_iff_mem]

/-- A session with an item is there. -/
theorem exists?_of_get? {store : Store α} {session : Text} {item : α}
    (found : store.get? session = some item) : store.exists? session = true := by
  rw [exists?_iff_get?, found]
  rfl

/-- There is no session exactly when it has no item. -/
theorem get?_eq_none_iff {store : Store α} {session : Text} :
    store.get? session = none ↔ store.exists? session = false := by
  rw [← Bool.not_eq_true, exists?_iff_get?, Option.not_isSome_iff_eq_none]

/-- In a sound store a session has a lock exactly when there is the session. -/
theorem Sound.isSome_lock {store : Store α} (sound : store.Sound) {session : Text} :
    (store.locks.find? session).isSome = true ↔ store.exists? session = true := by
  rw [Table.isSome_find?, sound.paired, exists?, Table.contains, List.contains_iff_mem]

/-- In a sound store there is no lock exactly when there is no session. -/
theorem Sound.lock_eq_none {store : Store α} (sound : store.Sound) {session : Text} :
    store.locks.find? session = none ↔ store.exists? session = false := by
  rw [← Bool.not_eq_true, ← sound.isSome_lock, Option.not_isSome_iff_eq_none]

/-- A store without sessions is sound. -/
theorem sound_empty (limit : Int) (draws : Draws) :
    (⟨limit, .empty, .empty, 0, draws⟩ : Store α).Sound where
  paired := rfl
  issued found := by simp [Table.find?, Table.empty] at found
  apart found := by simp [Table.find?, Table.empty] at found

/-- A store evolves into itself. -/
theorem Evolves.refl (store : Store α) : Evolves store store := ⟨Nat.le_refl _, .inl⟩

/-- What evolves on evolves from the first store. -/
theorem Evolves.trans {first second third : Store α} (early : Evolves first second)
    (late : Evolves second third) : Evolves first third where
  nextLock := by
    have := early.nextLock
    have := late.nextLock
    omega
  lock found := by
    rcases late.lock found with old | new
    · exact early.lock old
    · have := early.nextLock
      right
      omega

/-- A store that stays leaves every session alone. -/
theorem LeavesAlone.refl (session : Text) (store : Store α) : LeavesAlone session store store :=
  fun _ => ⟨rfl, rfl⟩

/-- A session that is left alone twice is left alone. -/
theorem LeavesAlone.trans {session : Text} {first second third : Store α}
    (early : LeavesAlone session first second) (late : LeavesAlone session second third) :
    LeavesAlone session first third := by
  intro live
  obtain ⟨lateItem, lateLock⟩ := late live
  have between : second.exists? session = true := by
    rw [exists?_iff_get?, ← lateItem]
    exact exists?_iff_get?.mp live
  obtain ⟨earlyItem, earlyLock⟩ := early between
  exact ⟨lateItem.trans earlyItem, lateLock.trans earlyLock⟩

/-! ## Dropping sessions -/

/-- Dropping a session takes its lock away and no other. -/
theorem lock_drop (store : Store α) (dropped session : Text) :
    (store.drop dropped).locks.find? session =
      if session = dropped then none else store.locks.find? session :=
  Table.find?_erase ..

/-- Dropping a session takes its item away and no other. -/
theorem get?_drop (store : Store α) (dropped session : Text) :
    (store.drop dropped).get? session =
      if session = dropped then none else store.get? session :=
  Table.find?_erase ..

/-- Dropping a session takes it away and no other. -/
theorem exists?_drop (store : Store α) (dropped session : Text) :
    (store.drop dropped).exists? session =
      (session != dropped && store.exists? session) := by
  rw [Bool.eq_iff_iff, exists?_iff_get?, get?_drop]
  by_cases same : session = dropped <;> simp [same, exists?_iff_get?]

/-- Dropping a session keeps a store sound. -/
theorem sound_drop {store : Store α} (sound : store.Sound) (session : Text) :
    (store.drop session).Sound where
  paired := by simp only [drop, Table.keys_erase, sound.paired]
  issued found := by
    rw [lock_drop, Option.ite_none_left_eq_some] at found
    exact sound.issued found.2
  apart leftFound rightFound := by
    rw [lock_drop, Option.ite_none_left_eq_some] at leftFound rightFound
    exact sound.apart leftFound.2 rightFound.2

/-- A store evolves by dropping a session. -/
theorem evolves_drop (store : Store α) (session : Text) : Evolves store (store.drop session) where
  nextLock := Nat.le_refl _
  lock found := by
    rw [lock_drop, Option.ite_none_left_eq_some] at found
    exact .inl found.2

/-- Dropping a session leaves every session alone that stays. -/
theorem leavesAlone_drop (store : Store α) (session dropped : Text) :
    LeavesAlone session store (store.drop dropped) := by
  intro live
  rw [exists?_drop, Bool.and_eq_true, bne_iff_ne] at live
  rw [get?_drop, lock_drop, if_neg live.1, if_neg live.1]
  exact ⟨rfl, rfl⟩

/-- What dropping a session keeps holds after room has been made, however many sessions go. -/
theorem makeRoom_induction {motive : Store α → Prop}
    (drop : ∀ store session, motive store → motive (store.drop session)) (store : Store α)
    (start : motive store) : motive store.makeRoom.2 := by
  induction store using makeRoom.induct with
  | case1 store room =>
    rw [makeRoom, if_pos room]
    exact start
  | case2 store full empty =>
    rw [makeRoom, if_neg full]
    split
    · exact start
    · next found => rw [empty] at found; cases found
  | case3 store full session oldest ih =>
    rw [makeRoom, if_neg full]
    split
    · next empty => rw [oldest] at empty; cases empty
    · next other first =>
      obtain rfl : session = other := Option.some.inj (oldest.symm.trans first)
      exact ih (drop store session start)

/-! ## Creating sessions -/

/-- A session that is added gets the next lock, and the others keep theirs. -/
theorem lock_add (store : Store α) (created session : Text) (item : α) :
    (store.add created item).locks.find? session =
      if session = created then some store.nextLock else store.locks.find? session :=
  Table.find?_put ..

/-- A session that is added gets its item, and the others keep theirs. -/
theorem get?_add (store : Store α) (created session : Text) (item : α) :
    (store.add created item).get? session =
      if session = created then some item else store.get? session :=
  Table.find?_put ..

/-- Adding a session that is not there keeps a store sound: its lock is a new one. -/
theorem sound_add {store : Store α} (sound : store.Sound) {session : Text}
    (new : session ∉ store.sessions) (item : α) : (store.add session item).Sound where
  paired := by
    have unlocked : session ∉ store.locks.keys := by rwa [sound.paired]
    rw [add, Table.keys_put_of_notMem unlocked, Table.keys_put_of_notMem new, sound.paired]
  issued found := by
    rw [lock_add] at found
    split at found
    · obtain rfl := Option.some.inj found
      exact Nat.lt_succ_self _
    · exact Nat.lt_succ_of_lt (sound.issued found)
  apart leftFound rightFound := by
    rw [lock_add] at leftFound rightFound
    split at leftFound <;> split at rightFound
    · next left right => rw [left, right]
    · have := sound.issued rightFound
      have := Option.some.inj leftFound
      omega
    · have := sound.issued leftFound
      have := Option.some.inj rightFound
      omega
    · exact sound.apart leftFound rightFound

/-- A store evolves by adding a session. -/
theorem evolves_add (store : Store α) (session : Text) (item : α) :
    Evolves store (store.add session item) where
  nextLock := Nat.le_succ _
  lock found := by
    rw [lock_add] at found
    split at found
    · exact .inr (Nat.le_of_eq (Option.some.inj found))
    · exact .inl found

/-- A store after room has been made for a session with a drawn identifier. -/
def roomFor (store : Store α) (draws : Draws) : Store α :=
  ({ store with draws := draws } : Store α).makeRoom.2

/-- Creating a session draws an identifier that no session has, and makes room. It ends there when
no room can be made, and else adds the session. -/
theorem create_cases (item : α) (store : Store α) :
    ∃ id draws, id ∉ store.sessions ∧
      (create item store = (none, store.roomFor draws) ∨
        create item store = (some id, (store.roomFor draws).add id item)) := by
  refine ⟨(store.draws.fresh store.sessions).1, (store.draws.fresh store.sessions).2,
    Draws.fresh_notMem _ _, ?_⟩
  rw [create]
  match made :
      ({ store with draws := (store.draws.fresh store.sessions).2 } : Store α).makeRoom with
  | (false, room) => exact .inl (by simp [roomFor, made])
  | (true, room) => exact .inr (by simp [roomFor, made])

/-- Making room keeps a store sound. -/
theorem sound_roomFor {store : Store α} (sound : store.Sound) (draws : Draws) :
    (store.roomFor draws).Sound :=
  makeRoom_induction (motive := Sound) (fun _ session sound => sound_drop sound session) _
    ⟨sound.paired, sound.issued, sound.apart⟩

/-- A store evolves by making room. -/
theorem evolves_roomFor (store : Store α) (draws : Draws) : Evolves store (store.roomFor draws) :=
  makeRoom_induction (motive := Evolves store)
    (fun room session evolves => evolves.trans (evolves_drop room session)) _ ⟨Nat.le_refl _, .inl⟩

/-- Making room leaves every session alone that stays. -/
theorem leavesAlone_roomFor (store : Store α) (session : Text) (draws : Draws) :
    LeavesAlone session store (store.roomFor draws) :=
  makeRoom_induction (motive := LeavesAlone session store)
    (fun room dropped alone => alone.trans (leavesAlone_drop room session dropped)) _
    fun _ => ⟨rfl, rfl⟩

/-- Making room brings no session. -/
theorem exists?_of_roomFor {store : Store α} {session : Text} {draws : Draws}
    (live : (store.roomFor draws).exists? session = true) : store.exists? session = true := by
  rw [exists?_iff_get?, ← (leavesAlone_roomFor store session draws live).1]
  exact exists?_iff_get?.mp live

/-- The sessions are those that are there. -/
theorem mem_sessions {store : Store α} {session : Text} :
    session ∈ store.sessions ↔ store.exists? session = true := by
  rw [sessions, exists?, Table.contains, List.contains_iff_mem]

/-- Creating a session keeps the store sound. -/
theorem keeps_create (item : α) : Keeps (create item) := by
  intro store sound
  have soundRoom := sound_roomFor sound
  have evolvesRoom := evolves_roomFor store
  obtain ⟨id, draws, new, created | created⟩ := create_cases item store
  · rw [created]
    exact ⟨soundRoom draws, evolvesRoom draws⟩
  · have unused : id ∉ (store.roomFor draws).sessions := fun mem =>
      new (mem_sessions.mpr (exists?_of_roomFor (mem_sessions.mp mem)))
    rw [created]
    have evolves := (evolvesRoom draws).trans (evolves_add _ id item)
    exact ⟨sound_add (soundRoom draws) unused item, evolves⟩

/-- Creating a session leaves the other sessions alone that it does not drop. -/
theorem leavesAlone_create {store : Store α} {session : Text} (live : store.exists? session = true)
    (item : α) : LeavesAlone session store (create item store).2 := by
  obtain ⟨id, draws, new, created | created⟩ := create_cases item store
  · rw [created]
    exact leavesAlone_roomFor store session draws
  · have other : session ≠ id := fun same => new (mem_sessions.mpr (same ▸ live))
    rw [created]
    refine (leavesAlone_roomFor store session draws).trans fun _ => ?_
    rw [get?_add, lock_add, if_neg other, if_neg other]
    exact ⟨rfl, rfl⟩

/-- A session that is there after one has been created was there before, or is the one created. -/
theorem exists?_of_create {item : α} {store : Store α} {session : Text}
    (live : (create item store).2.exists? session = true) :
    store.exists? session = true ∨ (create item store).1 = some session := by
  obtain ⟨id, draws, -, created | created⟩ := create_cases item store
  · rw [created] at live
    exact .inl (exists?_of_roomFor live)
  · rw [created] at live ⊢
    rw [exists?_iff_get?, get?_add] at live
    split at live
    · next same => exact .inr (congrArg some same.symm)
    · exact .inl (exists?_of_roomFor (exists?_iff_get?.mpr live))

/-- A session that is created was not there before, and has its item. -/
theorem get?_of_created {item : α} {store : Store α} {session : Text}
    (created : (create item store).1 = some session) :
    store.exists? session = false ∧ (create item store).2.get? session = some item := by
  obtain ⟨id, draws, new, outcome | outcome⟩ := create_cases item store
  · rw [outcome] at created
    cases created
  · rw [outcome] at created ⊢
    obtain rfl := Option.some.inj created
    rw [get?_add, if_pos rfl, ← Bool.not_eq_true, ← mem_sessions]
    exact ⟨new, rfl⟩

/-- After a session has been created, the sessions that are there have the items that they had
before, and the new one has its own. -/
theorem get?_create {item : α} {store : Store α} {session : Text}
    (live : (create item store).2.exists? session = true) :
    (create item store).2.get? session =
      if (create item store).1 = some session then some item else store.get? session := by
  have alone : ∀ draws, (store.roomFor draws).exists? session = true →
      (store.roomFor draws).get? session = store.get? session := fun draws stays =>
    (leavesAlone_roomFor store session draws stays).1
  obtain ⟨id, draws, -, created | created⟩ := create_cases item store
  · rw [created] at live ⊢
    rw [if_neg nofun]
    exact alone draws live
  · rw [created] at live ⊢
    rw [exists?_iff_get?] at live
    rw [get?_add] at live ⊢
    by_cases same : session = id
    · rw [if_pos same, if_pos (congrArg some same.symm)]
    · rw [if_neg same] at live ⊢
      rw [if_neg fun eq => same (Option.some.inj eq).symm]
      exact alone draws (exists?_iff_get?.mpr live)

/-! ## Saving, deleting and drawing -/

/-- An item is saved under a session that is there. -/
theorem save_of_exists {store : Store α} {session : Text} (live : store.exists? session = true)
    (item : α) :
    save session item store = (true, { store with items := store.items.put session item }) := by
  rw [save, if_pos live]

/-- No item is saved under a session that is not there. -/
theorem save_of_not_exists {store : Store α} {session : Text}
    (gone : store.exists? session = false) (item : α) :
    save session item store = (false, store) := by
  rw [save, if_neg (by simp [gone])]

/-- A saved item is found under its session, and the others as before. -/
theorem get?_save {store : Store α} {session : Text} (live : store.exists? session = true)
    (item : α) (other : Text) :
    (save session item store).2.get? other =
      if other = session then some item else store.get? other := by
  rw [save_of_exists live]
  exact Table.find?_put ..

/-- Saving an item changes no lock. -/
@[simp]
theorem locks_save (session : Text) (item : α) (store : Store α) :
    (save session item store).2.locks = store.locks := by
  rw [save]
  split <;> rfl

/-- Saving an item brings and drops no session. -/
@[simp]
theorem sessions_save (session : Text) (item : α) (store : Store α) :
    (save session item store).2.sessions = store.sessions := by
  rw [save]
  split
  · next live => exact Table.keys_put_of_mem (mem_sessions.mpr live) item
  · rfl

/-- Saving does not change which sessions are there. -/
theorem exists?_save (session other : Text) (item : α) (store : Store α) :
    (save session item store).2.exists? other = store.exists? other := by
  rw [Bool.eq_iff_iff, ← mem_sessions, ← mem_sessions, sessions_save]

/-- Saving keeps the store sound. -/
theorem keeps_save (session : Text) (item : α) : Keeps (save session item) := by
  intro store sound
  have same := locks_save session item store
  have next : (save session item store).2.nextLock = store.nextLock := by
    rw [save]
    split <;> rfl
  refine ⟨⟨?_, ?_, ?_⟩, ⟨Nat.le_of_eq next.symm, ?_⟩⟩
  · rw [same, sound.paired]
    exact (sessions_save session item store).symm
  · rw [same, next]
    exact sound.issued
  · rw [same]
    exact sound.apart
  · rw [same]
    exact .inl

/-- Saving leaves the other sessions alone. -/
theorem leavesAlone_save {session saved : Text} (other : session ≠ saved) (item : α)
    (store : Store α) : LeavesAlone session store (save saved item store).2 := by
  intro _
  rw [locks_save]
  by_cases live : store.exists? saved = true
  · rw [get?_save live, if_neg other]
    exact ⟨rfl, rfl⟩
  · rw [save_of_not_exists (by simpa using live)]
    exact ⟨rfl, rfl⟩

/-- Deleting keeps the store sound. -/
theorem keeps_delete (session : Text) : Keeps (delete (α := α) session) := fun store sound =>
  ⟨sound_drop sound session, evolves_drop store session⟩

/-- Drawing keeps the store sound. -/
theorem keeps_drawing {ε β : Type} (computation : Drawing ε β) :
    Keeps (drawing (α := α) computation) := fun _ sound =>
  ⟨⟨sound.paired, sound.issued, sound.apart⟩, ⟨Nat.le_refl _, .inl⟩⟩

/-! ## Operations one after another -/

/-- Doing nothing keeps the store sound. -/
theorem keeps_pure (answer : ρ) : Keeps (α := α) (pure answer) := fun store sound =>
  ⟨sound, Evolves.refl store⟩

/-- One action after another keeps the store sound when both do. -/
theorem Keeps.bind {first : StateM (Store α) ρ} {next : ρ → StateM (Store α) σ}
    (early : Keeps first) (late : ∀ answer, Keeps (next answer)) : Keeps (first >>= next) := by
  intro store sound
  obtain ⟨between, evolves⟩ := early store sound
  obtain ⟨soundAfter, evolvesAfter⟩ := late (first store).1 (first store).2 between
  exact ⟨soundAfter, evolves.trans evolvesAfter⟩

end SchemaDesk.Store
