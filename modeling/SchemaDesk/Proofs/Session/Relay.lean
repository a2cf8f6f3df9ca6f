import SchemaDesk.Proofs.Session.Queue
/-!
# Tasks that hand an item on

In a relay the tasks at one session each take its lock, receive the item, save it with an edit of
their own and leave, and everything that goes on elsewhere comes in between. The moves of a relay
are the steps of its tasks, in any order that a scheduler chooses, and the events that are not about
the session. `Run.no_lost_update` says that no edit is lost while the session stays: what a task
receives is what the task before it wrote, and the tasks come in the order of their arrival. The
invariant behind it ties the queue of the lock, the list of turns and the stored item together: the
item is the one of the last turn, and whoever is let in without having saved has received it. Nor
does a task wait forever because of the others: from every moment on all tasks can finish
(`Run.can_finish`).
-/

namespace SchemaDesk

variable {α : Type}

/-- A task of a relay: its number and the edit that it makes. -/
structure Runner (α : Type) where
  number : Nat
  edit : α → StateM Draws α

/-- The turn of a task that has saved: what it received, and the source it drew from. -/
structure Turn (α : Type) extends Runner α where
  received : α
  draws : Draws

/-- The item that a task wrote in its turn. -/
def Turn.written (turn : Turn α) : α := (turn.edit turn.received turn.draws).1

/-- The item that the last turn wrote; an initial one before every turn. -/
def Turn.latest (initial : α) (turns : List (Turn α)) : α :=
  turns.foldl (fun _ turn => turn.written) initial

/-- Every turn received what the turn before it wrote, the first one an initial item. -/
def Turn.Handed (item : α) : List (Turn α) → Prop
  | [] => True
  | turn :: rest => turn.received = item ∧ Handed turn.written rest

/-- A desk with the tasks of a relay at one of its sessions. -/
structure Relay (α : Type) where
  desk : Desk α
  /-- The tasks that have arrived, in order. -/
  arrived : List (Runner α) := []
  /-- The turns of the tasks that have saved, in order. -/
  turns : List (Turn α) := []
  /-- The numbers of the tasks that have left, in order. -/
  left : List Nat := []

/-- A move of a relay. -/
inductive Relay.Move (α : Type) where
  /-- Another task arrives. -/
  | arrive (edit : α → StateM Draws α)
  /-- A task makes its next step. -/
  | advance (runner : Runner α)
  /-- Something else happens at the desk. -/
  | other (event : Desk.Event α)

namespace Relay

/-- The next step of a task that has arrived: it is let in once its turn has come, then it saves
what it received with its edit, then it leaves. -/
def advance (relay : Relay α) (runner : Runner α) : Relay α :=
  if runner.number ∈ relay.left then relay
  else if runner.number ∈ relay.turns.map (·.number) then
    { relay with
      desk := relay.desk.step (.leave runner.number)
      left := relay.left ++ [runner.number] }
  else match relay.desk.seen? runner.number with
    | none => { relay with desk := relay.desk.step (.resume runner.number) }
    | some none =>
      { relay with
        desk := relay.desk.step (.leave runner.number)
        left := relay.left ++ [runner.number] }
    | some (some item) =>
      { relay with
        desk := relay.desk.step (.save runner.number runner.edit)
        turns := relay.turns ++ [⟨runner, item, relay.desk.store.draws⟩] }

/-- The relay at a session after a move. -/
def step (session : Text) (relay : Relay α) : Move α → Relay α
  | .arrive edit =>
    { relay with
      desk := relay.desk.step (.enter session)
      arrived := relay.arrived ++ [⟨relay.desk.arrivals, edit⟩] }
  | .advance runner => relay.advance runner
  | .other event => { relay with desk := relay.desk.step event }

/-- A move that a relay at a session allows: a task that has arrived makes a step, or something
happens that is about other sessions and other tasks. -/
def Allows (session : Text) (relay : Relay α) : Move α → Prop
  | .arrive _ => True
  | .advance runner => runner ∈ relay.arrived
  | .other (.enter other) | .other (.replace other _) | .other (.delete other) => other ≠ session
  | .other (.resume number) | .other (.save number _) | .other (.leave number) =>
    number ∉ relay.arrived.map (·.number)
  | .other (.create _) | .other (.get _) | .other (.exists _) => True

/-- The relays at a session with an initial item, as long as the session stays. They begin at a
reachable desk none of whose tasks is there for the session. -/
inductive Run (session : Text) (initial : α) : Relay α → Prop where
  | start {desk : Desk α} (reachable : desk.Reachable)
    (item : desk.store.get? session = some initial)
    (apart : ∀ task ∈ desk.tasks, task.session ≠ session) : Run session initial { desk := desk }
  | move {relay : Relay α} (run : Run session initial relay) {move : Move α}
    (allowed : relay.Allows session move)
    (stays : (relay.step session move).desk.store.exists? session = true) :
    Run session initial (relay.step session move)

/-- The numbers of the tasks that have arrived and not left. -/
def present (relay : Relay α) : List Nat :=
  (relay.arrived.map (·.number)).drop relay.left.length

/-- What holds of a relay at all times. -/
structure Sound (session : Text) (initial : α) (relay : Relay α) : Prop where
  desk : relay.desk.Sound
  item : relay.desk.store.get? session = some (Turn.latest initial relay.turns)
  locked : ∀ task ∈ relay.desk.tasks, task.session = session →
    task.lock = relay.desk.store.locks.find? session
  sorted : (relay.arrived.map (·.number)).Pairwise (· < ·)
  bounded : ∀ runner ∈ relay.arrived, runner.number < relay.desk.arrivals
  present : ∀ number, number ∈ relay.present ↔
    ∃ task ∈ relay.desk.tasks, task.session = session ∧ task.number = number
  turns : relay.turns.map (·.toRunner) <+: relay.arrived
  left : relay.left <+: relay.turns.map (·.number)
  /-- At most one task has saved and not left, and it is let in. -/
  single : relay.turns.length ≤ relay.left.length + 1
  inside : ∀ turn ∈ relay.turns, turn.number ∉ relay.left →
    ∃ task ∈ relay.desk.tasks, task.session = session ∧ task.number = turn.number ∧
      task.isWaiting = false
  handed : Turn.Handed initial relay.turns
  /-- A task that is let in and has not saved has received the latest item. -/
  received : ∀ task ∈ relay.desk.tasks, task.session = session →
    task.number ∉ relay.turns.map (·.number) → ∀ seen, task.phase = .inside seen →
      seen = some (Turn.latest initial relay.turns)

namespace Sound

variable {session : Text} {initial : α} {relay : Relay α}

/-- The session is there. -/
theorem live (sound : relay.Sound session initial) :
    relay.desk.store.exists? session = true := by
  rw [Store.exists?_iff_get?, sound.item]
  rfl

/-- A task at the session holds or awaits a lock. -/
theorem lock_ne_none (sound : relay.Sound session initial) {task : Task α}
    (mem : task ∈ relay.desk.tasks) (here : task.session = session) : task.lock ≠ none := by
  rw [sound.locked task mem here, ← Option.isSome_iff_ne_none, sound.desk.store.isSome_lock]
  exact sound.live

/-- Tasks at the session share one lock. -/
theorem lock_eq (sound : relay.Sound session initial) {left right : Task α}
    (leftMem : left ∈ relay.desk.tasks) (leftHere : left.session = session)
    (rightMem : right ∈ relay.desk.tasks) (rightHere : right.session = session) :
    left.lock = right.lock :=
  (sound.locked left leftMem leftHere).trans (sound.locked right rightMem rightHere).symm

/-- No two tasks that arrived have one number. -/
theorem nodup (sound : relay.Sound session initial) : (relay.arrived.map (·.number)).Nodup :=
  sound.sorted.imp Nat.ne_of_lt

/-- The turns are taken in the order of the arrivals. -/
theorem numbers_prefix (sound : relay.Sound session initial) :
    relay.turns.map (·.number) <+: relay.arrived.map (·.number) := by
  have mapped := sound.turns.map (·.number)
  rwa [List.map_map] at mapped

/-- At most one task at the session is let in. -/
theorem exclusive (sound : relay.Sound session initial) {left right : Task α}
    (leftMem : left ∈ relay.desk.tasks) (rightMem : right ∈ relay.desk.tasks)
    (leftHere : left.session = session) (rightHere : right.session = session)
    (leftIn : left.isWaiting = false) (rightIn : right.isWaiting = false) : left = right :=
  sound.desk.exclusive leftMem rightMem leftIn rightIn
    (sound.lock_eq leftMem leftHere rightMem rightHere) (sound.lock_ne_none leftMem leftHere)

/-- The task that is let in is the first of those that have not left. -/
theorem present_of_inside (sound : relay.Sound session initial) {task : Task α}
    (mem : task ∈ relay.desk.tasks) (here : task.session = session)
    (inside : task.isWaiting = false) : ∃ rest, relay.present = task.number :: rest := by
  have among : task.number ∈ relay.present := (sound.present _).mpr ⟨task, mem, here, rfl⟩
  cases order : relay.present with
  | nil => simp [order] at among
  | cons first rest =>
    have firstPresent : first ∈ relay.present := by simp [order]
    obtain ⟨other, otherMem, otherHere, rfl⟩ := (sound.present first).mp firstPresent
    have early := sound.desk.first task mem inside (sound.lock_ne_none mem here) other otherMem
      (sound.lock_eq otherMem otherHere mem here)
    have increasing : relay.present.Pairwise (· < ·) := sound.sorted.sublist (List.drop_sublist ..)
    rw [order, List.pairwise_cons] at increasing
    rw [order, List.mem_cons] at among
    rcases among with same | later
    · exact ⟨rest, by rw [same]⟩
    · have less := increasing.1 _ later
      omega

/-- A task that is let in and has not saved finds that every task that saved has left. -/
theorem left_eq (sound : relay.Sound session initial) {task : Task α}
    (mem : task ∈ relay.desk.tasks) (here : task.session = session)
    (inside : task.isWaiting = false) (unsaved : task.number ∉ relay.turns.map (·.number)) :
    relay.left = relay.turns.map (·.number) := by
  obtain ⟨rest, split⟩ := sound.left
  cases rest with
  | nil => simpa using split
  | cons number rest =>
    -- A task that saved and has not left would be let in beside this one.
    have distinct : (relay.left ++ number :: rest).Nodup :=
      split ▸ sound.nodup.sublist sound.numbers_prefix.sublist
    have saved : number ∈ relay.turns.map (·.number) := by simp [← split]
    obtain ⟨turn, turnMem, rfl⟩ := List.mem_map.mp saved
    have notLeft : turn.number ∉ relay.left := fun held =>
      (List.nodup_append.mp distinct).2.2 _ held _ List.mem_cons_self rfl
    obtain ⟨other, otherMem, otherHere, same, otherIn⟩ := sound.inside turn turnMem notLeft
    rw [sound.exclusive mem otherMem here otherHere inside otherIn, same] at unsaved
    exact absurd saved unsaved

/-- What changes neither the tasks at the session nor its item leaves a relay sound. -/
theorem frame (sound : relay.Sound session initial) {desk : Desk α} (soundDesk : desk.Sound)
    (tasks : ∀ task, task.session = session → (task ∈ desk.tasks ↔ task ∈ relay.desk.tasks))
    (alone : Store.LeavesAlone session relay.desk.store desk.store)
    (stays : desk.store.exists? session = true)
    (arrivals : relay.desk.arrivals ≤ desk.arrivals) :
    ({ relay with desk := desk } : Relay α).Sound session initial where
  desk := soundDesk
  item := (alone stays).1.trans sound.item
  locked task mem here := by
    rw [(alone stays).2]
    exact sound.locked task ((tasks task here).mp mem) here
  sorted := sound.sorted
  bounded runner mem := by
    have before := sound.bounded runner mem
    show runner.number < desk.arrivals
    omega
  present number := by
    refine (sound.present number).trans ⟨?_, ?_⟩
    · rintro ⟨task, mem, here, same⟩
      exact ⟨task, (tasks task here).mpr mem, here, same⟩
    · rintro ⟨task, mem, here, same⟩
      exact ⟨task, (tasks task here).mp mem, here, same⟩
  turns := sound.turns
  left := sound.left
  single := sound.single
  inside turn mem notLeft := by
    obtain ⟨task, taskMem, here, rest⟩ := sound.inside turn mem notLeft
    exact ⟨task, (tasks task here).mpr taskMem, here, rest⟩
  handed := sound.handed
  received task mem here := sound.received task ((tasks task here).mp mem) here

/-- A task of a number that has not arrived is not at the session. -/
theorem session_ne (sound : relay.Sound session initial) {task : Task α}
    (mem : task ∈ relay.desk.tasks) (strange : task.number ∉ relay.arrived.map (·.number)) :
    task.session ≠ session := fun here =>
  strange (List.mem_of_mem_drop ((sound.present _).mpr ⟨task, mem, here, rfl⟩))

/-- An event that is not about the session leaves a relay sound. -/
theorem other (sound : relay.Sound session initial) {event : Desk.Event α}
    (allowed : relay.Allows session (.other event))
    (stays : (relay.desk.step event).store.exists? session = true) :
    ({ relay with desk := relay.desk.step event } : Relay α).Sound session initial := by
  have soundDesk := sound.desk.step event
  cases event with
  | enter elsewhere =>
    refine sound.frame soundDesk (fun task here => ?_) (.refl session _) stays (Nat.le_succ _)
    have new : task ≠ relay.desk.arrival elsewhere := fun same =>
      allowed ((congrArg Task.session same).symm.trans here)
    simp only [Desk.step, Desk.tasks_enter, List.mem_append, List.mem_singleton, new, or_false]
  | resume number =>
    refine sound.frame soundDesk (fun task here => ?_) (.refl session _) stays (Nat.le_refl _)
    simp only [Desk.step, Desk.resume, List.mem_map]
    constructor
    · rintro ⟨old, mem, rfl⟩
      have other : old.number ≠ number := by
        rintro rfl
        exact sound.session_ne mem allowed (by simpa using here)
      rwa [Desk.resumed_of_ne other]
    · intro mem
      have other : task.number ≠ number := by
        rintro rfl
        exact sound.session_ne mem allowed here
      exact ⟨task, mem, Desk.resumed_of_ne other⟩
  | save number edit =>
    rcases relay.desk.saveBy_cases number edit with idle | ⟨task, mem, item, rfl, -, saved⟩
    · simp only [Desk.step, idle]
      exact sound
    · have elsewhere := sound.session_ne mem allowed
      simp only [Desk.step, saved] at soundDesk stays ⊢
      refine sound.frame soundDesk (fun task here => Iff.rfl) ?_ stays (Nat.le_refl _)
      exact Store.leavesAlone_save elsewhere.symm _ _
  | leave number =>
    refine sound.frame soundDesk (fun task here => ?_) (.refl session _) stays (Nat.le_refl _)
    simp only [Desk.step, Desk.leave, List.mem_filter, and_iff_left_iff_imp]
    intro mem
    have other : task.number ≠ number := by
      rintro rfl
      exact sound.session_ne mem allowed here
    simp [other]
  | create item =>
    exact sound.frame soundDesk (fun task here => Iff.rfl)
      (Store.leavesAlone_create sound.live item) stays (Nat.le_refl _)
  | replace elsewhere item =>
    exact sound.frame soundDesk (fun task here => Iff.rfl)
      (Store.leavesAlone_save (Ne.symm allowed) item _) stays (Nat.le_refl _)
  | delete elsewhere =>
    exact sound.frame soundDesk (fun task here => Iff.rfl)
      (Store.leavesAlone_drop _ session elsewhere) stays (Nat.le_refl _)
  | get elsewhere => exact sound
  | «exists» elsewhere => exact sound

/-- Another task arrives at the end of the queue, or is let in with the item when nobody is there.
-/
theorem arrive (sound : relay.Sound session initial) (edit : α → StateM Draws α) :
    (relay.step session (.arrive edit)).Sound session initial where
  desk := sound.desk.step (.enter session)
  item := sound.item
  locked task mem here := by
    simp only [step, Desk.step, Desk.tasks_enter, List.mem_append, List.mem_singleton] at mem
    rcases mem with old | rfl
    · exact sound.locked task old here
    · rfl
  sorted := by
    simp only [step, List.map_append, List.map_singleton]
    refine List.pairwise_append.mpr ⟨sound.sorted, List.pairwise_singleton .., ?_⟩
    intro number mem new newMem
    obtain ⟨runner, runnerMem, rfl⟩ := List.mem_map.mp mem
    rw [List.mem_singleton.mp newMem]
    exact sound.bounded runner runnerMem
  bounded runner mem := by
    simp only [step, List.mem_append, List.mem_singleton] at mem
    rcases mem with old | rfl
    · exact Nat.lt_succ_of_lt (sound.bounded runner old)
    · exact Nat.lt_succ_self _
  present number := by
    have short : relay.left.length ≤ (relay.arrived.map (·.number)).length :=
      (sound.left.trans sound.numbers_prefix).length_le
    have old := sound.present number
    simp only [Relay.present] at old
    simp only [Relay.present, step, List.map_append, List.map_singleton,
      List.drop_append_of_le_length short, List.mem_append, List.mem_singleton, old, Desk.step,
      Desk.tasks_enter]
    constructor
    · rintro (⟨task, mem, rest⟩ | rfl)
      · exact ⟨task, .inl mem, rest⟩
      · exact ⟨_, .inr rfl, rfl, rfl⟩
    · rintro ⟨task, mem | rfl, here, same⟩
      · exact .inl ⟨task, mem, here, same⟩
      · exact .inr same.symm
  turns := sound.turns.trans (List.prefix_append ..)
  left := sound.left
  single := sound.single
  inside turn mem notLeft := by
    obtain ⟨task, taskMem, rest⟩ := sound.inside turn mem notLeft
    exact ⟨task, List.mem_append_left _ taskMem, rest⟩
  handed := sound.handed
  received task mem here unsaved seen phase := by
    simp only [step, Desk.step, Desk.tasks_enter, List.mem_append, List.mem_singleton] at mem
    rcases mem with old | rfl
    · exact sound.received task old here unsaved seen phase
    · obtain ⟨lock, locked⟩ := Option.isSome_iff_exists.mp
        (sound.desk.store.isSome_lock.mpr sound.live)
      have inside := Desk.isWaiting_eq_false_iff.mpr ⟨seen, phase⟩
      have free := Desk.not_isTaken_of_arrival locked inside
      simp only [Desk.arrival, Desk.arrivalPhase, locked, free, Bool.false_eq_true, if_false,
        sound.item, Task.Phase.inside.injEq] at phase
      exact phase.symm

/-- The tasks that have arrived are those that have left and those that have not, in this order. -/
theorem numbers_eq (sound : relay.Sound session initial) :
    relay.arrived.map (·.number) = relay.left ++ relay.present := by
  obtain ⟨rest, split⟩ := sound.left.trans sound.numbers_prefix
  rw [Relay.present, ← split, List.drop_left]

/-- A task that has arrived and not left is at the session. -/
theorem exists_task (sound : relay.Sound session initial) {runner : Runner α}
    (arrived : runner ∈ relay.arrived) (notLeft : runner.number ∉ relay.left) :
    ∃ task ∈ relay.desk.tasks, task.session = session ∧ task.number = runner.number := by
  have number : runner.number ∈ relay.left ++ relay.present :=
    sound.numbers_eq ▸ List.mem_map_of_mem arrived
  exact (sound.present _).mp ((List.mem_append.mp number).resolve_left notLeft)

/-- A task that has saved leaves, and the next of the queue may be let in. -/
theorem leave (sound : relay.Sound session initial) {number : Nat}
    (saved : number ∈ relay.turns.map (·.number)) (notLeft : number ∉ relay.left) :
    ({ relay with
        desk := relay.desk.step (.leave number)
        left := relay.left ++ [number] } : Relay α).Sound session initial := by
  -- Only the last task that saved can be there still.
  have last : relay.turns.map (·.number) = relay.left ++ [number] := by
    obtain ⟨rest, split⟩ := sound.left
    have count := congrArg List.length split
    have single := sound.single
    simp only [List.length_append, List.length_map] at count
    have here : number ∈ rest := (List.mem_append.mp (split ▸ saved)).resolve_left notLeft
    obtain ⟨only, rfl⟩ : ∃ only, rest = [only] := by
      refine List.length_eq_one_iff.mp ?_
      have := List.length_pos_of_mem here
      omega
    rw [← split, List.mem_singleton.mp here]
  obtain ⟨turn, turnMem, rfl⟩ := List.mem_map.mp saved
  obtain ⟨leaver, mem, here, same, inside⟩ := sound.inside turn turnMem notLeft
  obtain ⟨rest, present⟩ := sound.present_of_inside mem here inside
  have among : ∀ task, task ∈ (relay.desk.step (.leave turn.number)).tasks ↔
      task ∈ relay.desk.tasks ∧ task.number ≠ turn.number := by
    intro task
    simp only [Desk.step, Desk.leave, List.mem_filter, Bool.or_eq_true, bne_iff_ne]
    refine and_congr_right fun taskMem => ⟨?_, .inl⟩
    rintro (other | waits) twin
    · exact other twin
    · rw [sound.desk.eq_of_number taskMem mem (twin.trans same.symm), inside] at waits
      cases waits
  refine
    { desk := sound.desk.step (.leave turn.number)
      item := sound.item
      locked := fun task taskMem => sound.locked task ((among task).mp taskMem).1
      sorted := sound.sorted
      bounded := sound.bounded
      present := fun number => ?_
      turns := sound.turns
      left := last ▸ List.prefix_rfl
      single := by simpa using Nat.le_succ_of_le sound.single
      inside := fun other otherMem gone =>
        absurd (last ▸ List.mem_map_of_mem otherMem) gone
      handed := sound.handed
      received := fun task taskMem => sound.received task ((among task).mp taskMem).1 }
  have later : ({ relay with
      desk := relay.desk.step (.leave turn.number)
      left := relay.left ++ [turn.number] } : Relay α).present = rest := by
    simp only [Relay.present, List.length_append, List.length_singleton] at present ⊢
    rw [← List.drop_drop, present]
    rfl
  have distinct : relay.present.Nodup := sound.nodup.sublist (List.drop_sublist ..)
  rw [present, same, List.nodup_cons] at distinct
  have old := sound.present number
  rw [present, same, List.mem_cons] at old
  rw [later]
  constructor
  · intro mem
    obtain ⟨task, taskMem, taskHere, rfl⟩ := old.mp (.inr mem)
    exact ⟨task, (among task).mpr ⟨taskMem, fun twin => distinct.1 (twin ▸ mem)⟩, taskHere, rfl⟩
  · rintro ⟨task, taskMem, taskHere, rfl⟩
    obtain ⟨taskMem, other⟩ := (among task).mp taskMem
    exact (old.mpr ⟨task, taskMem, taskHere, rfl⟩).resolve_left other

/-- A task that waits goes on, and is let in with the latest item when its turn has come. -/
theorem resume (sound : relay.Sound session initial) (number : Nat) :
    ({ relay with desk := relay.desk.step (.resume number) } : Relay α).Sound session initial where
  desk := sound.desk.step (.resume number)
  item := sound.item
  locked task mem here := by
    obtain ⟨old, oldMem, rfl⟩ := List.mem_map.mp mem
    rw [Desk.lock_resumed]
    exact sound.locked old oldMem (by simpa using here)
  sorted := sound.sorted
  bounded := sound.bounded
  present other := by
    refine (sound.present other).trans ⟨?_, ?_⟩
    · rintro ⟨task, mem, here, same⟩
      exact ⟨_, List.mem_map_of_mem mem, by simpa using here, by simpa using same⟩
    · rintro ⟨_, mem, here, same⟩
      obtain ⟨old, oldMem, rfl⟩ := List.mem_map.mp mem
      exact ⟨old, oldMem, by simpa using here, by simpa using same⟩
  turns := sound.turns
  left := sound.left
  single := sound.single
  inside turn mem notLeft := by
    obtain ⟨task, taskMem, here, same, inside⟩ := sound.inside turn mem notLeft
    refine ⟨_, List.mem_map_of_mem taskMem, by simpa using here, by simpa using same, ?_⟩
    rwa [Desk.resumed_of_inside inside]
  handed := sound.handed
  received task mem here unsaved seen phase := by
    obtain ⟨old, oldMem, rfl⟩ := List.mem_map.mp mem
    have oldHere : old.session = session := by simpa using here
    rcases Desk.resumed_cases relay.desk number old with same | entered
    · rw [same] at unsaved phase
      exact sound.received old oldMem oldHere unsaved seen phase
    · rw [entered, oldHere, sound.item] at phase
      exact (Task.Phase.inside.inj phase).symm

/-- The latest item is what the last turn wrote. -/
theorem latest_append (initial : α) (turns : List (Turn α)) (turn : Turn α) :
    Turn.latest initial (turns ++ [turn]) = turn.written := by
  simp [Turn.latest]

/-- Turns that are handed on stay so with one more that received the latest item. -/
theorem handed_append {item : α} {turns : List (Turn α)} {turn : Turn α}
    (handed : Turn.Handed item turns) (received : turn.received = Turn.latest item turns) :
    Turn.Handed item (turns ++ [turn]) := by
  induction turns generalizing item with
  | nil => exact ⟨received, trivial⟩
  | cons first turns ih => exact ⟨handed.1, ih handed.2 received⟩

/-- A task that has received an item and not saved is the next to save, and the item is the
latest. -/
theorem seen?_cases (sound : relay.Sound session initial) {runner : Runner α}
    (arrived : runner ∈ relay.arrived) (notLeft : runner.number ∉ relay.left)
    (unsaved : runner.number ∉ relay.turns.map (·.number)) {seen : Option α}
    (found : relay.desk.seen? runner.number = some seen) :
    seen = some (Turn.latest initial relay.turns) ∧
      ∃ task ∈ relay.desk.tasks, task.session = session ∧ task.number = runner.number ∧
        task.phase = .inside seen := by
  obtain ⟨task, mem, same, phase⟩ := Desk.exists_of_seen? found
  obtain ⟨twin, twinMem, here, twinSame⟩ := sound.exists_task arrived notLeft
  obtain rfl := sound.desk.eq_of_number mem twinMem (same.trans twinSame.symm)
  exact ⟨sound.received task mem here (same ▸ unsaved) seen phase, task, mem, here, same, phase⟩

/-- The task that is let in and has not saved is the one that arrived after those that saved. -/
theorem turns_append (sound : relay.Sound session initial) {runner : Runner α}
    (arrived : runner ∈ relay.arrived) {task : Task α} (mem : task ∈ relay.desk.tasks)
    (here : task.session = session) (same : task.number = runner.number)
    (inside : task.isWaiting = false) (left : relay.left = relay.turns.map (·.number)) :
    relay.turns.map (·.toRunner) ++ [runner] <+: relay.arrived := by
  obtain ⟨rest, present⟩ := sound.present_of_inside mem here inside
  obtain ⟨later, split⟩ := sound.turns
  have numbers := sound.numbers_eq
  rw [← split, List.map_append, List.map_map, left, present, same] at numbers
  have tail : later.map (·.number) = runner.number :: rest :=
    List.append_cancel_left numbers
  cases later with
  | nil => cases tail
  | cons next later =>
    have number : next.number = runner.number := (List.cons.inj tail).1
    have nextMem : next ∈ relay.arrived := split ▸ List.mem_append_right _ List.mem_cons_self
    obtain rfl := List.inj_on_of_nodup_map sound.nodup nextMem arrived number
    exact ⟨later, by rw [← split, List.append_assoc, List.singleton_append]⟩

/-- A task that has received the latest item saves it with its edit. -/
theorem save (sound : relay.Sound session initial) {runner : Runner α}
    (arrived : runner ∈ relay.arrived) (notLeft : runner.number ∉ relay.left)
    (unsaved : runner.number ∉ relay.turns.map (·.number)) {item : α}
    (found : relay.desk.seen? runner.number = some (some item)) :
    ({ relay with
        desk := relay.desk.step (.save runner.number runner.edit)
        turns := relay.turns ++ [⟨runner, item, relay.desk.store.draws⟩] } :
      Relay α).Sound session initial := by
  obtain ⟨latest, task, mem, here, same, phase⟩ := sound.seen?_cases arrived notLeft unsaved found
  have inside : task.isWaiting = false := Desk.isWaiting_eq_false_iff.mpr ⟨_, phase⟩
  have left := sound.left_eq mem here inside (same ▸ unsaved)
  have saved : relay.desk.step (.save runner.number runner.edit) =
      (relay.desk.act (Desk.saveEdited session item runner.edit)).2 := by
    rw [Desk.step, ← same, sound.desk.saveBy_eq mem phase, here]
  have live : ({ relay.desk.store with draws := (runner.edit item relay.desk.store.draws).2 } :
      Store α).exists? session = true := sound.live
  have written := Store.get?_save live (runner.edit item relay.desk.store.draws).1 session
  have locks : (relay.desk.step (.save runner.number runner.edit)).store.locks =
      relay.desk.store.locks := by
    rw [saved]
    exact Store.locks_save ..
  have tasks : (relay.desk.step (.save runner.number runner.edit)).tasks = relay.desk.tasks := by
    rw [saved]
    rfl
  refine
    { desk := sound.desk.step (.save runner.number runner.edit)
      item := ?_
      locked := fun task taskMem taskHere => ?_
      sorted := sound.sorted
      bounded := ?_
      present := fun number => ?_
      turns := ?_
      left := ?_
      single := ?_
      inside := fun turn turnMem gone => ?_
      handed := handed_append sound.handed (Option.some.inj latest)
      received := fun other otherMem otherHere otherUnsaved seen otherPhase => ?_ }
  · rw [latest_append, saved]
    rwa [if_pos rfl] at written
  · rw [locks]
    exact sound.locked task (tasks ▸ taskMem) taskHere
  · rw [saved]
    exact sound.bounded
  · rw [tasks]
    exact sound.present number
  · rw [List.map_append]
    exact sound.turns_append arrived mem here same inside left
  · rw [List.map_append]
    exact left ▸ List.prefix_append ..
  · simp [left]
  · rw [tasks]
    rcases List.mem_append.mp turnMem with old | new
    · exact absurd (left ▸ List.mem_map_of_mem old) gone
    · obtain rfl := List.mem_singleton.mp new
      exact ⟨task, mem, here, same, inside⟩
  · rw [tasks] at otherMem
    have otherIn : other.isWaiting = false := Desk.isWaiting_eq_false_iff.mpr ⟨_, otherPhase⟩
    obtain rfl := sound.exclusive mem otherMem here otherHere inside otherIn
    simp [same] at otherUnsaved

/-- The next step of a task keeps a relay sound. -/
theorem advance (sound : relay.Sound session initial) {runner : Runner α}
    (arrived : runner ∈ relay.arrived) : (relay.advance runner).Sound session initial := by
  rw [Relay.advance]
  split
  · exact sound
  · next notLeft =>
    split
    · next saved => exact sound.leave saved notLeft
    · next unsaved =>
      split
      · exact sound.resume runner.number
      · next found =>
        cases (sound.seen?_cases arrived notLeft unsaved found).1
      · next found => exact sound.save arrived notLeft unsaved found

/-- A move that a relay allows keeps it sound while the session stays. -/
theorem step (sound : relay.Sound session initial) {move : Move α}
    (allowed : relay.Allows session move)
    (stays : (relay.step session move).desk.store.exists? session = true) :
    (relay.step session move).Sound session initial := by
  cases move with
  | arrive edit => exact sound.arrive edit
  | advance runner => exact sound.advance allowed
  | other event => exact sound.other allowed stays

end Sound

variable {session : Text} {initial : α}

/-- A relay is sound when it begins. -/
theorem sound_start {desk : Desk α} (sound : desk.Sound)
    (item : desk.store.get? session = some initial)
    (apart : ∀ task ∈ desk.tasks, task.session ≠ session) :
    ({ desk := desk } : Relay α).Sound session initial where
  desk := sound
  item := item
  locked task mem here := absurd here (apart task mem)
  sorted := List.Pairwise.nil
  bounded _ mem := absurd mem List.not_mem_nil
  present number := by
    simp only [present, List.map_nil, List.drop_nil, List.not_mem_nil, false_iff]
    rintro ⟨task, mem, here, -⟩
    exact apart task mem here
  turns := List.prefix_rfl
  left := List.prefix_rfl
  single := Nat.zero_le _
  inside _ mem := absurd mem List.not_mem_nil
  handed := trivial
  received task mem here := absurd here (apart task mem)

/-- Every run of a relay keeps it sound. -/
theorem Run.sound {relay : Relay α} (run : Run session initial relay) :
    relay.Sound session initial := by
  induction run with
  | start reachable item apart => exact sound_start reachable.sound item apart
  | move _ allowed stays ih => exact ih.step allowed stays

/-- When every turn received what the one before it wrote, the last one wrote the initial item with
all edits made to it in order. -/
theorem latest_of_handed {item : α} {turns : List (Turn α)} (handed : Turn.Handed item turns) :
    Turn.latest item turns = turns.foldl (fun item turn => (turn.edit item turn.draws).1) item := by
  induction turns generalizing item with
  | nil => rfl
  | cons turn turns ih =>
    obtain ⟨rfl, rest⟩ := handed
    exact ih rest

/-- No update of a session is lost. However the moves of its tasks are ordered and whatever happens
elsewhere, as long as the session stays:

* at most one of the tasks is let in at a time;
* every task that saved received the item that the task before it wrote, the first one the initial
  item;
* a task that is let in and has not saved has received what was written last, and is the next in the
  order of arrival;
* the tasks save and leave in the order of arrival, and at most one that saved is still there;
* when all that arrived have left, the session has the initial item with all their edits made to it
  in this order. -/
theorem Run.no_lost_update {relay : Relay α} (run : Run session initial relay) :
    (∀ left ∈ relay.desk.tasks, ∀ right ∈ relay.desk.tasks, left.session = session →
      right.session = session → left.isWaiting = false → right.isWaiting = false → left = right) ∧
    Turn.Handed initial relay.turns ∧
    (∀ runner ∈ relay.arrived, runner.number ∉ relay.left →
      runner.number ∉ relay.turns.map (·.number) → ∀ seen,
        relay.desk.seen? runner.number = some seen →
          seen = some (Turn.latest initial relay.turns) ∧
            relay.turns.map (·.toRunner) ++ [runner] <+: relay.arrived) ∧
    relay.turns.map (·.toRunner) <+: relay.arrived ∧
    relay.left <+: relay.turns.map (·.number) ∧
    relay.turns.length ≤ relay.left.length + 1 ∧
    ((∀ runner ∈ relay.arrived, runner.number ∈ relay.left) →
      relay.turns.map (·.toRunner) = relay.arrived ∧
      relay.desk.store.get? session =
        some (relay.turns.foldl (fun item turn => (turn.edit item turn.draws).1) initial)) := by
  have sound := run.sound
  have exclusive : ∀ left ∈ relay.desk.tasks, ∀ right ∈ relay.desk.tasks, left.session = session →
      right.session = session → left.isWaiting = false → right.isWaiting = false → left = right :=
    fun left leftMem right rightMem leftHere rightHere leftIn rightIn =>
      sound.exclusive leftMem rightMem leftHere rightHere leftIn rightIn
  refine ⟨exclusive, sound.handed, fun runner arrived notLeft unsaved seen found => ?_,
    sound.turns, sound.left, sound.single, fun finished => ⟨?_, ?_⟩⟩
  · obtain ⟨latest, task, mem, here, same, phase⟩ := sound.seen?_cases arrived notLeft unsaved found
    have inside : task.isWaiting = false := Desk.isWaiting_eq_false_iff.mpr ⟨_, phase⟩
    exact ⟨latest, sound.turns_append arrived mem here same inside
      (sound.left_eq mem here inside (same ▸ unsaved))⟩
  · obtain ⟨later, split⟩ := sound.turns
    cases later with
    | nil => simpa using split
    | cons next later =>
      have distinct :
          (relay.turns.map (·.number) ++ next.number :: later.map (·.number)).Nodup := by
        have numbers := sound.nodup
        rwa [← split, List.map_append, List.map_map] at numbers
      have gone : next.number ∈ relay.left :=
        finished next (split ▸ List.mem_append_right _ List.mem_cons_self)
      exact absurd rfl ((List.nodup_append.mp distinct).2.2 _ (sound.left.subset gone) _
        List.mem_cons_self)
  · rw [sound.item, latest_of_handed sound.handed]

/-! ## Every task can finish -/

/-- A task that has arrived may always make its next step. -/
theorem Run.advance {relay : Relay α} (run : Run session initial relay) {runner : Runner α}
    (arrived : runner ∈ relay.arrived) : Run session initial (relay.advance runner) := by
  have allowed : relay.Allows session (.advance runner) := arrived
  exact run.move allowed (run.sound.advance arrived).live

/-- The first of the tasks that have not left is at the head of its queue. -/
theorem Sound.isNext {relay : Relay α} (sound : relay.Sound session initial) {number : Nat}
    {rest : List Nat} (order : relay.present = number :: rest) {task : Task α}
    (mem : task ∈ relay.desk.tasks) (here : task.session = session)
    (same : task.number = number) : relay.desk.isNext task = true := by
  rw [Desk.isNext_iff]
  intro other otherMem lock
  obtain ⟨held, locked⟩ := Option.ne_none_iff_exists'.mp (sound.lock_ne_none mem here)
  have found : relay.desk.store.locks.find? session = some held :=
    (sound.locked task mem here).symm.trans locked
  have otherHere : other.session = session :=
    (sound.desk.owner other otherMem held (lock.trans locked) session found).symm
  have among : other.number ∈ relay.present :=
    (sound.present _).mpr ⟨other, otherMem, otherHere, rfl⟩
  have increasing : relay.present.Pairwise (· < ·) := sound.sorted.sublist (List.drop_sublist ..)
  rw [order, List.pairwise_cons] at increasing
  rw [order, List.mem_cons] at among
  rcases among with first | later
  · omega
  · have less := increasing.1 _ later
    omega

/-- The first of the tasks that have not left has not left. -/
theorem Sound.notLeft {relay : Relay α} (sound : relay.Sound session initial) {number : Nat}
    {rest : List Nat} (order : relay.present = number :: rest) : number ∉ relay.left := by
  intro mem
  have distinct := sound.nodup
  rw [sound.numbers_eq, order] at distinct
  exact (List.nodup_append.mp distinct).2.2 _ mem _ List.mem_cons_self rfl

section

variable {relay : Relay α} {runner : Runner α} {rest : List Nat}

/-- The first of the tasks that have not left can leave once it has saved. -/
theorem Run.leave_saved (run : Run session initial relay) (arrived : runner ∈ relay.arrived)
    (order : relay.present = runner.number :: rest)
    (saved : runner.number ∈ relay.turns.map (·.number)) :
    ∃ later, Run session initial later ∧ later.arrived = relay.arrived ∧
      later.left = relay.left ++ [runner.number] := by
  have advanced : relay.advance runner = { relay with
      desk := relay.desk.step (.leave runner.number)
      left := relay.left ++ [runner.number] } := by
    rw [Relay.advance, if_neg (run.sound.notLeft order), if_pos saved]
  have next := run.advance arrived
  rw [advanced] at next
  exact ⟨_, next, rfl, rfl⟩

/-- The first of the tasks that have not left can save and leave once it is let in. -/
theorem Run.leave_seen (run : Run session initial relay) (arrived : runner ∈ relay.arrived)
    (order : relay.present = runner.number :: rest)
    (unsaved : runner.number ∉ relay.turns.map (·.number)) {seen : Option α}
    (found : relay.desk.seen? runner.number = some seen) :
    ∃ later, Run session initial later ∧ later.arrived = relay.arrived ∧
      later.left = relay.left ++ [runner.number] := by
  have notLeft := run.sound.notLeft order
  obtain ⟨rfl, -⟩ := run.sound.seen?_cases arrived notLeft unsaved found
  have advanced : relay.advance runner = { relay with
      desk := relay.desk.step (.save runner.number runner.edit)
      turns := relay.turns ++
        [⟨runner, Turn.latest initial relay.turns, relay.desk.store.draws⟩] } := by
    rw [Relay.advance, if_neg notLeft, if_neg unsaved]
    simp only [found]
  have next := run.advance arrived
  rw [advanced] at next
  obtain ⟨later, laterRun, same, left⟩ := next.leave_saved arrived order (by simp)
  exact ⟨later, laterRun, same, left⟩

/-- The first of the tasks that have not left can be let in, save and leave. -/
theorem Run.leave_first (run : Run session initial relay) (arrived : runner ∈ relay.arrived)
    (order : relay.present = runner.number :: rest) :
    ∃ later, Run session initial later ∧ later.arrived = relay.arrived ∧
      later.left = relay.left ++ [runner.number] := by
  by_cases saved : runner.number ∈ relay.turns.map (·.number)
  · exact run.leave_saved arrived order saved
  · cases found : relay.desk.seen? runner.number with
    | some seen => exact run.leave_seen arrived order saved found
    | none =>
      have notLeft := run.sound.notLeft order
      have advanced : relay.advance runner =
          { relay with desk := relay.desk.step (.resume runner.number) } := by
        rw [Relay.advance, if_neg notLeft, if_neg saved]
        simp only [found]
      obtain ⟨task, mem, here, same⟩ := run.sound.exists_task arrived notLeft
      have waits : task.isWaiting = true := by
        rw [← Bool.not_eq_false, Desk.isWaiting_eq_false_iff]
        rintro ⟨seen, phase⟩
        have seenNow := run.sound.desk.seen?_eq mem phase
        rw [same, found] at seenNow
        cases seenNow
      have entered := run.sound.desk.seen?_resume mem waits
        (run.sound.isNext order mem here same)
      rw [same] at entered
      have next := run.advance arrived
      rw [advanced] at next
      obtain ⟨later, laterRun, same, left⟩ := next.leave_seen arrived order saved entered
      exact ⟨later, laterRun, same, left⟩

end

/-- Whatever has happened so far, all tasks that have arrived can finish. -/
theorem Run.can_finish {relay : Relay α} (run : Run session initial relay) :
    ∃ later, Run session initial later ∧ later.arrived = relay.arrived ∧
      ∀ runner ∈ later.arrived, runner.number ∈ later.left := by
  induction order : relay.present generalizing relay with
  | nil =>
    refine ⟨relay, run, rfl, fun runner mem => ?_⟩
    have numbers := run.sound.numbers_eq
    rw [order, List.append_nil] at numbers
    exact numbers ▸ List.mem_map_of_mem mem
  | cons number rest ih =>
    have among : number ∈ relay.arrived.map (·.number) := by
      rw [run.sound.numbers_eq, order]
      exact List.mem_append_right _ List.mem_cons_self
    obtain ⟨runner, arrived, rfl⟩ := List.mem_map.mp among
    obtain ⟨later, laterRun, same, left⟩ := run.leave_first arrived order
    have laterOrder : later.present = rest := by
      have numbers := laterRun.sound.numbers_eq
      rw [same, run.sound.numbers_eq, order, left, List.append_assoc] at numbers
      exact (List.cons.inj (List.append_cancel_left numbers)).2.symm
    obtain ⟨final, finalRun, finalSame, finished⟩ := ih laterRun laterOrder
    exact ⟨final, finalRun, finalSame.trans same, finished⟩

/-- Moves that a relay allows one after another, and with which the session stays. -/
def Follows (session : Text) (relay : Relay α) : List (Move α) → Prop
  | [] => True
  | move :: rest =>
    relay.Allows session move ∧ (relay.step session move).desk.store.exists? session = true ∧
      (relay.step session move).Follows session rest

/-- A run goes on with moves that follow it. -/
theorem Run.moves {relay : Relay α} (run : Run session initial relay) {moves : List (Move α)}
    (follows : relay.Follows session moves) :
    Run session initial (moves.foldl (step session) relay) := by
  induction moves generalizing relay with
  | nil => exact run
  | cons move moves ih =>
    obtain ⟨allowed, stays, rest⟩ := follows
    exact ih (run.move allowed stays) rest

/-- A desk with a number for one session. -/
def counter : Desk Nat :=
  ⟨⟨0, Table.empty.put "a" 5, Table.empty.put "a" 0, 1, ⟨[], 1⟩⟩, [], 0⟩

/-- The example desk is reachable. -/
theorem reachable_counter : counter.Reachable := by
  refine ⟨0, ⟨["a"], 0⟩, [.create 5], ?_⟩
  simp [Desk.run, Desk.step, Desk.act, Store.create, Store.makeRoom, Store.hasRoom]
  rfl

/-- A task that adds to the number. -/
def adder : Runner Nat := ⟨0, fun count => pure (count + 2)⟩

/-- A task that doubles the number. -/
def doubler : Runner Nat := ⟨1, fun count => pure (2 * count)⟩

/-- The second task arrives while the first is let in, and goes on before and after the first has
left; meanwhile a task arrives for another session. -/
def overlap : List (Move Nat) :=
  [.arrive adder.edit, .arrive doubler.edit, .advance doubler, .advance adder,
    .other (.enter "b"), .advance adder, .advance doubler, .advance doubler, .advance doubler]

/-- Nothing is lost when the second task arrives before the first has saved. -/
theorem Run.no_lost_update_overlap :
    (overlap.foldl (step "a") { desk := counter }).turns.map (·.received) = [5, 7] ∧
      (overlap.foldl (step "a") { desk := counter }).desk.store.get? "a" = some 14 := by
  have start : Run "a" 5 { desk := counter } := .start reachable_counter rfl (by simp [counter])
  have follows : Relay.Follows "a" { desk := counter } overlap :=
    ⟨trivial, rfl, trivial, rfl, .tail _ (.head _), rfl, .head _, rfl,
      (by decide : ("b" : Text) ≠ "a"), rfl, .head _, rfl,
      .tail _ (.head _), rfl, .tail _ (.head _), rfl, .tail _ (.head _), rfl, trivial⟩
  obtain ⟨-, -, -, -, -, -, finished⟩ := (start.moves follows).no_lost_update
  exact ⟨rfl, (finished (by decide)).2⟩

end Relay

end SchemaDesk
