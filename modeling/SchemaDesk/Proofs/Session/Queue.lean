import SchemaDesk.Proofs.Session.Upkeep
import SchemaDesk.Session.Desk
/-!
# The queues of a desk

The tasks of a desk that share a lock form a queue in the order of their numbers. At a sound desk
only the first of a queue may be let in, and a lock of the store queues tasks of its own session
only, even when sessions were dropped and created again while tasks held or awaited their locks.
Every event keeps a desk sound, so every reachable desk is. Hence a lock is never held twice, and a
session has a lock of its own exactly while it has an item (`Desk.Reachable.locked_while_live`).
-/

namespace SchemaDesk.Desk

open Store (Keeps Evolves)

variable {α ρ : Type}

/-- A desk whose tasks are numbered in the order of arrival and let in one by one at every lock. -/
structure Sound (desk : Desk α) : Prop where
  store : desk.store.Sound
  /-- Tasks are numbered in the order of arrival. -/
  ordered : desk.tasks.Pairwise fun left right => left.number < right.number
  arrived : ∀ task ∈ desk.tasks, task.number < desk.arrivals
  issued : ∀ task ∈ desk.tasks, ∀ lock, task.lock = some lock → lock < desk.store.nextLock
  /-- The lock of a session that is there is awaited for this session only. -/
  owner : ∀ task ∈ desk.tasks, ∀ lock, task.lock = some lock →
    ∀ session, desk.store.locks.find? session = some lock → session = task.session
  /-- A task that is let in with a lock is the first of its queue. -/
  first : ∀ task ∈ desk.tasks, task.isWaiting = false → task.lock ≠ none →
    ∀ other ∈ desk.tasks, other.lock = task.lock → task.number ≤ other.number

/-- A desk without tasks is sound when its store is. -/
theorem sound_of_store {store : Store α} (sound : store.Sound) (arrivals : Nat) :
    (⟨store, [], arrivals⟩ : Desk α).Sound where
  store := sound
  ordered := List.Pairwise.nil
  arrived _ mem := absurd mem List.not_mem_nil
  issued _ mem := absurd mem List.not_mem_nil
  owner _ mem := absurd mem List.not_mem_nil
  first _ mem := absurd mem List.not_mem_nil

namespace Sound

variable {desk : Desk α}

/-- Tasks with one number are the same. -/
theorem eq_of_number (sound : desk.Sound) {left right : Task α} (leftMem : left ∈ desk.tasks)
    (rightMem : right ∈ desk.tasks) (same : left.number = right.number) : left = right := by
  have different : (desk.tasks.map (·.number)).Nodup :=
    (List.pairwise_map.mpr sound.ordered).imp Nat.ne_of_lt
  exact List.inj_on_of_nodup_map different leftMem rightMem same

/-- A task is the one found under its number. -/
theorem find?_number (sound : desk.Sound) {task : Task α} (mem : task ∈ desk.tasks) :
    desk.tasks.find? (·.number == task.number) = some task := by
  cases found : desk.tasks.find? (·.number == task.number) with
  | none => exact absurd (beq_self_eq_true task.number) (List.find?_eq_none.mp found task mem)
  | some other =>
    have same : other.number = task.number := by simpa using List.find?_some found
    rw [sound.eq_of_number (List.mem_of_find?_eq_some found) mem same]

/-- Two tasks let in with one lock are the same. -/
theorem exclusive (sound : desk.Sound) {left right : Task α} (leftMem : left ∈ desk.tasks)
    (rightMem : right ∈ desk.tasks) (leftIn : left.isWaiting = false)
    (rightIn : right.isWaiting = false) (lock : left.lock = right.lock)
    (locked : left.lock ≠ none) : left = right := by
  have early := sound.first left leftMem leftIn locked right rightMem lock.symm
  have late := sound.first right rightMem rightIn (lock ▸ locked) left leftMem lock
  exact sound.eq_of_number leftMem rightMem (Nat.le_antisymm early late)

/-- A sound desk stays sound when its store evolves. -/
theorem withStore (sound : desk.Sound) {store : Store α} (soundStore : store.Sound)
    (evolves : Evolves desk.store store) : ({ desk with store := store } : Desk α).Sound where
  store := soundStore
  ordered := sound.ordered
  arrived := sound.arrived
  issued task mem lock locked := by
    have before := sound.issued task mem lock locked
    have more := evolves.nextLock
    show lock < store.nextLock
    omega
  owner task mem lock locked session found := by
    rcases evolves.lock found with old | new
    · exact sound.owner task mem lock locked session old
    · -- A lock given later is none that a task can hold or await already.
      have before := sound.issued task mem lock locked
      omega
  first := sound.first

/-- A sound desk stays sound when numbers of tasks are left out. -/
theorem withArrivals (sound : desk.Sound) {arrivals : Nat} (later : desk.arrivals ≤ arrivals) :
    ({ desk with arrivals := arrivals } : Desk α).Sound where
  store := sound.store
  ordered := sound.ordered
  arrived task mem := by
    have before := sound.arrived task mem
    show task.number < arrivals
    omega
  issued := sound.issued
  owner := sound.owner
  first := sound.first

/-- An operation that keeps stores sound keeps the desk sound. -/
theorem act (sound : desk.Sound) {operation : StateM (Store α) ρ} (keeps : Keeps operation) :
    (desk.act operation).2.Sound := by
  obtain ⟨soundStore, evolves⟩ := keeps desk.store sound.store
  exact sound.withStore soundStore evolves

end Sound

/-! ## Tasks that are let in -/

/-- A task that does not wait is inside. -/
theorem isWaiting_eq_false_iff {task : Task α} :
    task.isWaiting = false ↔ ∃ seen, task.phase = .inside seen := by
  rw [Task.isWaiting]
  cases task.phase <;> simp

/-- What a task has seen is what some task of its number was let in with. -/
theorem exists_of_seen? {desk : Desk α} {number : Nat} {seen : Option α}
    (found : desk.seen? number = some seen) :
    ∃ task ∈ desk.tasks, task.number = number ∧ task.phase = .inside seen := by
  obtain ⟨task, mem, hit⟩ := List.exists_of_findSome?_eq_some found
  refine ⟨task, mem, ?_⟩
  cases phase : task.phase with
  | waiting => simp [phase] at hit
  | inside other =>
    simp only [phase, Option.ite_none_right_eq_some, Option.some.injEq] at hit
    exact ⟨hit.1, by rw [hit.2]⟩

/-- A task that is let in has seen what it was let in with. -/
theorem Sound.seen?_eq {desk : Desk α} (sound : desk.Sound) {task : Task α} {seen : Option α}
    (mem : task ∈ desk.tasks) (phase : task.phase = .inside seen) :
    desk.seen? task.number = some seen := by
  cases found : desk.seen? task.number with
  | none =>
    have hit := List.findSome?_eq_none_iff.mp found task mem
    simp [phase] at hit
  | some other =>
    obtain ⟨twin, twinMem, same, twinPhase⟩ := exists_of_seen? found
    rw [sound.eq_of_number twinMem mem same, phase] at twinPhase
    rw [Task.Phase.inside.inj twinPhase]

/-- A task that is let in and has seen an item saves it for its own session. -/
theorem Sound.saveBy_eq {desk : Desk α} (sound : desk.Sound) {task : Task α} {item : α}
    (mem : task ∈ desk.tasks) (phase : task.phase = .inside (some item))
    (edit : α → StateM Draws α) :
    desk.saveBy task.number edit = (desk.act (saveEdited task.session item edit)).2 := by
  rw [saveBy, sound.find?_number mem]
  obtain ⟨number, session, lock, _⟩ := task
  subst phase
  rfl

/-- Only a task that is let in and has seen an item saves anything. -/
theorem saveBy_cases (desk : Desk α) (number : Nat) (edit : α → StateM Draws α) :
    desk.saveBy number edit = desk ∨
      ∃ task ∈ desk.tasks, ∃ item, task.number = number ∧ task.phase = .inside (some item) ∧
        desk.saveBy number edit = (desk.act (saveEdited task.session item edit)).2 := by
  rw [saveBy]
  split
  · next number' session lock item found =>
    have same : number' = number := by simpa using List.find?_some found
    exact .inr ⟨_, List.mem_of_find?_eq_some found, item, same, rfl, rfl⟩
  · exact .inl rfl

/-- Saving an edited item keeps the store sound. -/
theorem keeps_saveEdited (session : Text) (item : α) (edit : α → StateM Draws α) :
    Keeps (saveEdited session item edit) := by
  intro store sound
  obtain ⟨soundAfter, evolves⟩ := Store.keeps_save session (edit item store.draws).1
    { store with draws := (edit item store.draws).2 } ⟨sound.paired, sound.issued, sound.apart⟩
  exact ⟨soundAfter, evolves.nextLock, evolves.lock⟩

/-! ## The events of a desk -/

/-- A lock is taken exactly when a task holds or awaits it. -/
theorem isTaken_iff {desk : Desk α} {lock : Nat} :
    desk.isTaken lock = true ↔ ∃ task ∈ desk.tasks, task.lock = some lock := by
  simp [isTaken]

/-- The task that arrives for a session. -/
def arrival (desk : Desk α) (session : Text) : Task α :=
  ⟨desk.arrivals, session, desk.store.locks.find? session, desk.arrivalPhase session⟩

/-- A task that arrives comes last. -/
theorem tasks_enter (desk : Desk α) (session : Text) :
    (desk.enter session).2.tasks = desk.tasks ++ [desk.arrival session] := rfl

/-- A task waits as it arrives exactly when the lock of its session is taken. -/
theorem isWaiting_arrival {desk : Desk α} {session : Text} :
    (desk.arrival session).isWaiting = true ↔
      ∃ lock, desk.store.locks.find? session = some lock ∧ desk.isTaken lock = true := by
  simp only [arrival, Task.isWaiting, arrivalPhase]
  cases desk.store.locks.find? session with
  | none => simp
  | some lock => cases taken : desk.isTaken lock <;> simp [taken]

/-- A task that is let in as it arrives finds no other task at its lock. -/
theorem not_isTaken_of_arrival {desk : Desk α} {session : Text} {lock : Nat}
    (locked : desk.store.locks.find? session = some lock)
    (inside : (desk.arrival session).isWaiting = false) : desk.isTaken lock = false := by
  rw [← Bool.not_eq_true]
  intro taken
  rw [isWaiting_arrival.mpr ⟨lock, locked, taken⟩] at inside
  cases inside

/-- A task that arrives keeps a desk sound. -/
theorem Sound.enter {desk : Desk α} (sound : desk.Sound) (session : Text) :
    (desk.enter session).2.Sound where
  store := sound.store
  ordered := by
    rw [tasks_enter]
    refine List.pairwise_append.mpr ⟨sound.ordered, List.pairwise_singleton .., ?_⟩
    intro task mem other new
    rw [List.mem_singleton.mp new]
    exact sound.arrived task mem
  arrived task mem := by
    rw [tasks_enter, List.mem_append, List.mem_singleton] at mem
    rcases mem with old | rfl
    · exact Nat.lt_succ_of_lt (sound.arrived task old)
    · exact Nat.lt_succ_self _
  issued task mem lock locked := by
    rw [tasks_enter, List.mem_append, List.mem_singleton] at mem
    rcases mem with old | rfl
    · exact sound.issued task old lock locked
    · exact sound.store.issued locked
  owner task mem lock locked other found := by
    rw [tasks_enter, List.mem_append, List.mem_singleton] at mem
    rcases mem with old | rfl
    · exact sound.owner task old lock locked other found
    · exact sound.store.apart found locked
  first task mem inside locked other otherMem same := by
    rw [tasks_enter, List.mem_append, List.mem_singleton] at mem otherMem
    rcases mem with old | rfl
    · rcases otherMem with otherOld | rfl
      · exact sound.first task old inside locked other otherOld same
      · exact Nat.le_of_lt (sound.arrived task old)
    · rcases otherMem with otherOld | rfl
      · obtain ⟨lock, found⟩ := Option.ne_none_iff_exists'.mp locked
        have free := not_isTaken_of_arrival found inside
        have taken := isTaken_iff.mpr ⟨other, otherOld, same.trans found⟩
        rw [free] at taken
        cases taken
      · exact Nat.le_refl _

/-- A task that is let in keeps its number. -/
@[simp]
theorem number_resumed (desk : Desk α) (number : Nat) (task : Task α) :
    (desk.resumed number task).number = task.number := by
  unfold resumed
  split <;> rfl

/-- A task that is let in keeps its session. -/
@[simp]
theorem session_resumed (desk : Desk α) (number : Nat) (task : Task α) :
    (desk.resumed number task).session = task.session := by
  unfold resumed
  split <;> rfl

/-- A task that is let in keeps its lock. -/
@[simp]
theorem lock_resumed (desk : Desk α) (number : Nat) (task : Task α) :
    (desk.resumed number task).lock = task.lock := by
  unfold resumed
  split <;> rfl

/-- Tasks of other numbers do not go on. -/
theorem resumed_of_ne {desk : Desk α} {number : Nat} {task : Task α}
    (other : task.number ≠ number) : desk.resumed number task = task := by
  rw [resumed, if_neg fun holds => other holds.1]

/-- A task that is let in does not change when it goes on. -/
theorem resumed_of_inside {desk : Desk α} {number : Nat} {task : Task α}
    (inside : task.isWaiting = false) : desk.resumed number task = task := by
  rw [resumed, if_neg fun holds => by simp [inside] at holds]

/-- A task that goes on changes only if it is let in, at the head of its queue and with the item
that its session has then. -/
theorem resumed_cases (desk : Desk α) (number : Nat) (task : Task α) :
    desk.resumed number task = task ∨
      (desk.resumed number task).phase = .inside (desk.store.get? task.session) := by
  unfold resumed
  split
  · exact .inr rfl
  · exact .inl rfl

/-- A task that is let in after it went on was let in before, or was the head of its queue. -/
theorem resumed_inside {desk : Desk α} {number : Nat} {task : Task α}
    (inside : (desk.resumed number task).isWaiting = false) :
    task.isWaiting = false ∨ desk.isNext task = true := by
  unfold resumed at inside
  split at inside
  · next holds => exact .inr holds.2.2
  · exact .inl inside

/-- A task is next when no task with its lock has a smaller number. -/
theorem isNext_iff {desk : Desk α} {task : Task α} :
    desk.isNext task = true ↔
      ∀ other ∈ desk.tasks, other.lock = task.lock → task.number ≤ other.number := by
  simp only [isNext, List.all_eq_true, Bool.or_eq_true, bne_iff_ne, decide_eq_true_eq,
    imp_iff_not_or]

/-- Letting a task in keeps a desk sound. -/
theorem Sound.resume {desk : Desk α} (sound : desk.Sound) (number : Nat) :
    (desk.resume number).Sound where
  store := sound.store
  ordered := by
    refine List.pairwise_map.mpr (sound.ordered.imp fun less => ?_)
    simpa using less
  arrived := by simpa [Desk.resume] using sound.arrived
  issued := by simpa [Desk.resume] using sound.issued
  owner := by simpa [Desk.resume] using sound.owner
  first := by
    simp only [Desk.resume, List.mem_map]
    rintro _ ⟨task, mem, rfl⟩ inside locked _ ⟨other, otherMem, rfl⟩ same
    simp only [number_resumed, lock_resumed] at locked same ⊢
    rcases resumed_inside inside with before | next
    · exact sound.first task mem before locked other otherMem same
    · exact isNext_iff.mp next other otherMem same

/-- A task that waits is let in as it goes on when its turn has come, with the item of its session.
-/
theorem Sound.seen?_resume {desk : Desk α} (sound : desk.Sound) {task : Task α}
    (mem : task ∈ desk.tasks) (waits : task.isWaiting = true) (next : desk.isNext task = true) :
    (desk.resume task.number).seen? task.number = some (desk.store.get? task.session) := by
  let entered : Task α := { task with phase := .inside (desk.store.get? task.session) }
  have goneOn : desk.resumed task.number task = entered := by
    rw [resumed, if_pos ⟨rfl, waits, next⟩]
  have enteredMem : entered ∈ (desk.resume task.number).tasks :=
    List.mem_map.mpr ⟨task, mem, goneOn⟩
  have seen : (desk.resume task.number).seen? entered.number = _ :=
    (sound.resume task.number).seen?_eq enteredMem rfl
  exact seen

/-- A task that leaves keeps a desk sound. -/
theorem Sound.leave {desk : Desk α} (sound : desk.Sound) (number : Nat) :
    (desk.leave number).Sound where
  store := sound.store
  ordered := sound.ordered.sublist List.filter_sublist
  arrived task mem := sound.arrived task (List.mem_of_mem_filter mem)
  issued task mem := sound.issued task (List.mem_of_mem_filter mem)
  owner task mem := sound.owner task (List.mem_of_mem_filter mem)
  first task mem inside locked other otherMem :=
    sound.first task (List.mem_of_mem_filter mem) inside locked other
      (List.mem_of_mem_filter otherMem)

/-- Every event keeps a desk sound. -/
theorem Sound.step {desk : Desk α} (sound : desk.Sound) (event : Event α) :
    (desk.step event).Sound := by
  cases event with
  | enter session => exact sound.enter session
  | resume number => exact sound.resume number
  | save number edit =>
    rcases desk.saveBy_cases number edit with idle | ⟨task, -, item, -, -, saved⟩
    · rwa [Desk.step, idle]
    · rw [Desk.step, saved]
      exact sound.act (keeps_saveEdited task.session item edit)
  | leave number => exact sound.leave number
  | create item => exact sound.act (Store.keeps_create item)
  | replace session item => exact sound.act (Store.keeps_save session item)
  | delete session => exact sound.act (Store.keeps_delete session)
  | get session => exact sound
  | «exists» session => exact sound

/-- The number of the task that makes a step in an event. -/
def Event.task? : Event α → Option Nat
  | .resume number | .save number _ | .leave number => some number
  | _ => none

/-- A task stays as it is while other tasks make their steps. -/
theorem mem_step {desk : Desk α} {task : Task α} (mem : task ∈ desk.tasks) {event : Event α}
    (other : event.task? ≠ some task.number) : task ∈ (desk.step event).tasks := by
  cases event with
  | enter session => exact List.mem_append_left _ mem
  | resume number =>
    have apart : task.number ≠ number := fun same => other (congrArg some same.symm)
    exact List.mem_map.mpr ⟨task, mem, resumed_of_ne apart⟩
  | save number edit =>
    rcases desk.saveBy_cases number edit with idle | ⟨_, -, _, -, -, saved⟩
    · rwa [Desk.step, idle]
    · rw [Desk.step, saved]
      exact mem
  | leave number =>
    have apart : task.number ≠ number := fun same => other (congrArg some same.symm)
    exact List.mem_filter.mpr ⟨mem, by rw [bne_iff_ne.mpr apart, Bool.true_or]⟩
  | create | replace | delete | get | «exists» => exact mem

/-- A run keeps a desk sound. -/
theorem Sound.run {desk : Desk α} (sound : desk.Sound) (events : List (Event α)) :
    (desk.run events).Sound := by
  induction events generalizing desk with
  | nil => exact sound
  | cons event events ih => exact ih (sound.step event)

/-- Every reachable desk is sound. -/
theorem Reachable.sound {desk : Desk α} (reachable : desk.Reachable) : desk.Sound := by
  obtain ⟨limit, draws, events, rfl⟩ := reachable
  exact (sound_of_store (Store.sound_empty limit draws) 0).run events

/-! ## Sessions and their locks -/

/-- What a task that arrives has seen is what it is let in with; a task that waits has seen
nothing. -/
theorem Sound.seen?_enter {desk : Desk α} (sound : desk.Sound) (session : Text) {seen : Option α} :
    (desk.enter session).2.seen? (desk.enter session).1 = some seen ↔
      desk.arrivalPhase session = .inside seen := by
  have soundAfter := sound.enter session
  have mem : desk.arrival session ∈ (desk.enter session).2.tasks := by
    rw [tasks_enter]
    exact List.mem_append_right desk.tasks List.mem_cons_self
  constructor
  · intro found
    obtain ⟨task, taskMem, number, phase⟩ := exists_of_seen? found
    have same : task = desk.arrival session := soundAfter.eq_of_number taskMem mem number
    rw [same] at phase
    exact phase
  · intro phase
    exact soundAfter.seen?_eq mem phase

/-- At a sound desk a task is let in without an item as it arrives exactly when its session is not
there. -/
theorem Sound.arrivalPhase_eq_inside_none {desk : Desk α} (sound : desk.Sound) (session : Text) :
    desk.arrivalPhase session = .inside none ↔ desk.store.exists? session = false := by
  rw [arrivalPhase]
  cases locked : desk.store.locks.find? session with
  | none => exact iff_of_true rfl (sound.store.lock_eq_none.mp locked)
  | some lock =>
    have live : desk.store.exists? session = true := by
      rw [← sound.store.isSome_lock, locked]
      rfl
    have item : desk.store.get? session ≠ none := by
      rw [Ne, Store.get?_eq_none_iff, live]
      exact Bool.noConfusion
    cases taken : desk.isTaken lock with
    | true => simp [taken, live]
    | false => simp [taken, live, item]

/-- At every desk that events lead to from a store without sessions, whatever its limit is,
whichever operations have failed and whichever tasks hold or await locks: the sessions that have a
lock are those that have an item. So a task that arrives is let in at once and sees no item exactly
when its session is not there at this moment. And no two sessions that are there share a lock. -/
theorem Reachable.locked_while_live {desk : Desk α} (reachable : desk.Reachable) :
    desk.store.locks.keys = desk.store.items.keys ∧
    (∀ session, (desk.enter session).2.seen? (desk.enter session).1 = some none ↔
      desk.store.exists? session = false) ∧
    ∀ left ∈ desk.store.sessions, ∀ right ∈ desk.store.sessions,
      desk.store.locks.find? left = desk.store.locks.find? right → left = right := by
  have sound := reachable.sound
  refine ⟨sound.store.paired, fun session => ?_, fun left leftLive right _ same => ?_⟩
  · rw [sound.seen?_enter, sound.arrivalPhase_eq_inside_none]
  · have locked : (desk.store.locks.find? left).isSome = true :=
      sound.store.isSome_lock.mpr (Store.mem_sessions.mp leftLive)
    obtain ⟨lock, found⟩ := Option.isSome_iff_exists.mp locked
    exact sound.store.apart found (same.symm.trans found)

/-- A desk with a limit of one session, at which a task holds and another awaits the lock of a
session that was dropped for a later one, after an item could not be saved for a third. -/
def succeeded : Desk Nat :=
  run ⟨⟨1, .empty, .empty, 0, ⟨["a", "b"], 0⟩⟩, [], 0⟩
    [.create 1, .enter "a", .enter "a", .replace "c" 3, .create 2]

/-- Only the later session has a lock at the desk. A task that arrives for the earlier one sees no
item at once, although the lock of this session is still held, and a task that arrives for the later
one is not left without an item. -/
theorem locked_while_live_succeeded :
    succeeded.store.locks.keys = [Text.ofString "b"] ∧
    (succeeded.enter "a").2.seen? (succeeded.enter "a").1 = some none ∧
    (succeeded.enter "b").2.seen? (succeeded.enter "b").1 ≠ some none := by
  have reachable : succeeded.Reachable := ⟨_, _, _, rfl⟩
  obtain ⟨keys, entered, -⟩ := reachable.locked_while_live
  refine ⟨?_, ?_, ?_⟩
  · rw [keys]
    decide +kernel
  · rw [entered]
    decide +kernel
  · rw [Ne, entered]
    decide +kernel

end SchemaDesk.Desk
