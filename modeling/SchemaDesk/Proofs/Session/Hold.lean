import SchemaDesk.Proofs.Session.Queue
import SchemaDesk.Session.Schedule
/-!
# Works that start while a lock is held

A work that starts while a task holds a lock is either done at once, or finds the held lock and
waits behind the holder. So a floor with a held lock is described by the holder and the works that
wait for it (`Floor.HeldBy`): a step either does a work as if nothing else went on, or adds it to
those that wait (`HeldBy.free`, `HeldBy.waits`). When the holder leaves, the works that wait are
done one after the other, each with the item that its session has by then (`settle_waiters`).
Together this is the order in which works done one by one have the same answers
(`Schedule.whileLocked_eq`).
-/

namespace SchemaDesk

open Store (Keeps)

variable {κ α ρ : Type}

/-- A work that keeps stores sound. -/
def Work.Keeps : Work α ρ → Prop
  | .plain act => Store.Keeps act
  | .locked _ act => ∀ seen, Store.Keeps (act seen)

/-- Work that keeps the store sound does so alone. -/
theorem Work.Keeps.alone {work : Work α ρ} (keeps : work.Keeps) : Store.Keeps work.alone := by
  cases work with
  | plain act => exact keeps
  | locked session act => exact fun store sound => keeps _ store sound

/-- In a sound store a task that is let in at once sees the item of its session. -/
theorem Work.seenAtOnce_eq {store : Store α} (sound : store.Sound) (session : Text) :
    Work.seenAtOnce store session = store.get? session := by
  cases found : store.locks.find? session with
  | some lock => rw [Work.seenAtOnce, found, Option.bind_some]
  | none =>
    rw [Work.seenAtOnce, found, Option.bind_none, eq_comm, Store.get?_eq_none_iff]
    exact sound.lock_eq_none.mp found

/-- A work that waits for a lock: its job and its session. -/
structure Waiter (κ α ρ : Type) extends Job κ α ρ where
  session : Text

namespace Waiter

/-- The task of a work that waits for a lock. -/
def asTask (lock : Option Nat) (waiter : Waiter κ α ρ) : Task α :=
  ⟨waiter.task, waiter.session, lock, .waiting⟩

/-- The work itself. -/
def work (waiter : Waiter κ α ρ) : Work α ρ := .locked waiter.session waiter.act

end Waiter

namespace Floor

variable {floor : Floor κ α ρ}

/-! ## Jobs that go on -/

/-- A job whose task is not let in as it goes on changes nothing. -/
theorem proceed_of_unseen {job : Job κ α ρ}
    (unseen : (floor.desk.resume job.task).seen? job.task = none) : floor.proceed job = floor := by
  rw [proceed]
  simp only [unseen]

/-- A job whose task waits behind another does not go on. -/
theorem proceed_of_behind (sound : floor.desk.Sound) {job : Job κ α ρ} {task other : Task α}
    (mem : task ∈ floor.desk.tasks) (number : task.number = job.task)
    (waits : task.isWaiting = true) (otherMem : other ∈ floor.desk.tasks)
    (lock : other.lock = task.lock) (before : other.number < task.number) :
    floor.proceed job = floor := by
  have behind : floor.desk.isNext task = false := by
    rw [← Bool.not_eq_true, Desk.isNext_iff]
    intro next
    have first : task.number ≤ other.number := next other otherMem lock
    omega
  have unseen : (floor.desk.resume job.task).seen? job.task = none := by
    cases found : (floor.desk.resume job.task).seen? job.task with
    | none => rfl
    | some seen =>
      obtain ⟨_, goneOn, same, phase⟩ := Desk.exists_of_seen? found
      obtain ⟨old, oldMem, rfl⟩ := List.mem_map.mp goneOn
      rw [Desk.number_resumed] at same
      obtain rfl := sound.eq_of_number oldMem mem (same.trans number.symm)
      rw [Desk.resumed, if_neg (by simp [behind])] at phase
      rw [Desk.isWaiting_eq_false_iff.mpr ⟨seen, phase⟩] at waits
      cases waits
  exact proceed_of_unseen unseen

/-- A task that is let in as it goes on and then leaves is gone, and no other task has changed. -/
theorem tasks_leave_resume {desk : Desk α} (sound : desk.Sound) {number : Nat} {seen : Option α}
    (found : (desk.resume number).seen? number = some seen) :
    ((desk.resume number).leave number).tasks =
      desk.tasks.filter fun task => task.number != number := by
  obtain ⟨_, goneOn, same, phase⟩ := Desk.exists_of_seen? found
  have inside := Desk.isWaiting_eq_false_iff.mpr ⟨seen, phase⟩
  obtain ⟨task, mem, rfl⟩ := List.mem_map.mp goneOn
  rw [Desk.number_resumed] at same
  have kept : ∀ other ∈ desk.tasks,
      ((fun task : Task α => task.number != number || task.isWaiting) ∘ desk.resumed number) other =
        (other.number != number) := by
    intro other otherMem
    rw [Function.comp_apply, Desk.number_resumed]
    by_cases twin : other.number = number
    · obtain rfl := sound.eq_of_number otherMem mem (twin.trans same.symm)
      rw [inside, Bool.or_false]
    · rw [bne_iff_ne.mpr twin, Bool.true_or]
  rw [Desk.leave, Desk.resume, List.filter_map, List.filter_congr kept]
  refine (List.map_congr_left fun other otherMem => ?_).trans (List.map_id _)
  exact Desk.resumed_of_ne (bne_iff_ne.mp (List.mem_filter.mp otherMem).2)

/-- A job whose task is let in as it goes on is done, and its task leaves. -/
theorem proceed_of_seen {job : Job κ α ρ} {seen : Option α}
    (found : (floor.desk.resume job.task).seen? job.task = some seen) :
    floor.proceed job =
      { desk := (((floor.desk.resume job.task).act (job.act seen)).2).leave job.task
        jobs := floor.jobs.filter fun other => other.task != job.task
        answers := floor.answers ++ [(job.label, (job.act seen floor.desk.store).1)] } := by
  rw [proceed]
  simp only [found]
  rfl

/-- The desk stays sound when a job goes on. -/
theorem sound_proceed (sound : floor.desk.Sound) {job : Job κ α ρ}
    (keeps : ∀ seen, Keeps (job.act seen)) : (floor.proceed job).desk.Sound := by
  rw [proceed]
  split
  · exact sound
  · next seen _ => exact ((sound.resume job.task).act (keeps seen)).leave job.task

/-- Jobs that do nothing change nothing one after another. -/
theorem foldl_proceed_of_idle {jobs : List (Job κ α ρ)}
    (idle : ∀ job ∈ jobs, floor.proceed job = floor) : jobs.foldl proceed floor = floor := by
  induction jobs with
  | nil => rfl
  | cons job jobs ih =>
    rw [List.foldl_cons, idle job List.mem_cons_self]
    exact ih fun other mem => idle other (List.mem_cons_of_mem _ mem)

/-- A task that is let in as it arrives sees what a work sees that is done at once. -/
theorem seen_of_arrival {desk : Desk α} {session : Text} {seen : Option α}
    (phase : (desk.arrival session).phase = .inside seen) :
    seen = Work.seenAtOnce desk.store session := by
  simp only [Desk.arrival, Desk.arrivalPhase] at phase
  rw [Work.seenAtOnce]
  split at phase
  · next unlocked => rw [unlocked, ← Task.Phase.inside.inj phase, Option.bind_none]
  · next lock found =>
    rw [found, Option.bind_some]
    split at phase
    · cases phase
    · exact (Task.Phase.inside.inj phase).symm

/-- A work whose task is let in as it arrives is done at once, as if nothing else went on. -/
theorem proceed_arrival (sound : floor.desk.Sound)
    (older : ∀ job ∈ floor.jobs, job.task < floor.desk.arrivals) {session : Text}
    (inside : (floor.desk.arrival session).isWaiting = false) (label : κ)
    (act : Option α → StateM (Store α) ρ) :
    (floor.start label (.locked session act)).proceed ⟨label, floor.desk.arrivals, act⟩ =
      { desk :=
          { store := ((Work.locked session act).alone floor.desk.store).2
            tasks := floor.desk.tasks
            arrivals := floor.desk.arrivals + 1 }
        jobs := floor.jobs
        answers :=
          floor.answers ++ [(label, ((Work.locked session act).alone floor.desk.store).1)] } := by
  obtain ⟨seen, phase⟩ := Desk.isWaiting_eq_false_iff.mp inside
  have seenEq := seen_of_arrival phase
  have entered : (floor.desk.enter session).2.Sound := sound.enter session
  have mem : floor.desk.arrival session ∈ (floor.desk.enter session).2.tasks := by
    rw [Desk.tasks_enter]
    exact List.mem_append_right _ (List.mem_singleton_self _)
  have seenNow : ((floor.desk.enter session).2.resume floor.desk.arrivals).seen?
      floor.desk.arrivals = some seen :=
    (entered.resume floor.desk.arrivals).seen?_eq
      (List.mem_map.mpr ⟨_, mem, Desk.resumed_of_inside inside⟩) phase
  -- The new task and the new job have the number of the arrival, and nothing older has it.
  have tasks : ((floor.desk.enter session).2.tasks.filter fun task =>
      task.number != floor.desk.arrivals) = floor.desk.tasks := by
    have old : ∀ task ∈ floor.desk.tasks, (task.number != floor.desk.arrivals) = true := by
      intro task mem
      have arrived := sound.arrived task mem
      rw [bne_iff_ne]
      omega
    rw [Desk.tasks_enter, List.filter_append, List.filter_eq_self.mpr old]
    simp [Desk.arrival]
  have jobs : ((floor.jobs ++ [(⟨label, floor.desk.arrivals, act⟩ : Job κ α ρ)]).filter fun job =>
      job.task != floor.desk.arrivals) = floor.jobs := by
    have old : ∀ job ∈ floor.jobs, (job.task != floor.desk.arrivals) = true := by
      intro job mem
      have arrived := older job mem
      rw [bne_iff_ne]
      omega
    rw [List.filter_append, List.filter_eq_self.mpr old]
    simp
  have left := tasks_leave_resume entered seenNow
  rw [tasks] at left
  rw [proceed_of_seen seenNow, seenEq]
  change Floor.mk ⟨_, (Desk.leave (Desk.resume (floor.desk.enter session).2 _) _).tasks, _⟩ _ _ = _
  rw [left]
  simp only [start]
  exact congrArg (Floor.mk _ · _) jobs

/-! ## Works that start while a lock is held -/

/-- Whether a work finds a lock that is held or awaited when it starts. -/
def mustWait (floor : Floor κ α ρ) : Work α ρ → Bool
  | .plain _ => false
  | .locked session _ => (floor.desk.arrival session).isWaiting

/-- A floor on which one task holds a lock and all other tasks wait for it. -/
structure HeldBy (floor : Floor κ α ρ) (holder : Task α) (waiters : List (Waiter κ α ρ)) :
    Prop where
  sound : floor.desk.Sound
  inside : holder.isWaiting = false
  tasks : floor.desk.tasks = holder :: waiters.map (Waiter.asTask holder.lock)
  jobs : floor.jobs = waiters.map (·.toJob)

namespace HeldBy

variable {holder : Task α} {waiters : List (Waiter κ α ρ)}

/-- The works that wait for the held lock do not go on, whatever else starts. -/
theorem idle (held : floor.HeldBy holder waiters) {later : Floor κ α ρ} (sound : later.desk.Sound)
    (more : ∀ task ∈ floor.desk.tasks, task ∈ later.desk.tasks) :
    ∀ job ∈ floor.jobs, later.proceed job = later := by
  rw [held.jobs, List.forall_mem_map]
  intro waiter mem
  have taskMem : waiter.asTask holder.lock ∈ waiters.map (Waiter.asTask holder.lock) :=
    List.mem_map_of_mem mem
  have ordered := held.sound.ordered
  rw [held.tasks, List.pairwise_cons] at ordered
  rw [held.tasks, List.forall_mem_cons] at more
  exact proceed_of_behind sound (more.2 _ taskMem) rfl rfl more.1 rfl (ordered.1 _ taskMem)

/-- The tasks of works that wait have arrived. -/
theorem older (held : floor.HeldBy holder waiters) :
    ∀ job ∈ floor.jobs, job.task < floor.desk.arrivals := by
  rw [held.jobs, List.forall_mem_map]
  intro waiter mem
  refine held.sound.arrived (waiter.asTask holder.lock) ?_
  exact held.tasks ▸ List.mem_cons_of_mem _ (List.mem_map_of_mem mem)

/-- Nothing happens while nothing starts. -/
theorem settle_eq (held : floor.HeldBy holder waiters) : floor.settle = floor :=
  foldl_proceed_of_idle (held.idle held.sound fun _ mem => mem)

/-- A work that finds the held lock waits for it. -/
theorem waits (held : floor.HeldBy holder waiters) {work : Work α ρ}
    (wait : floor.mustWait work = true) (label : κ) :
    ∃ waiter : Waiter κ α ρ, waiter.label = label ∧ waiter.work = work ∧
      (floor.start label work).settle.HeldBy holder (waiters ++ [waiter]) ∧
      (floor.start label work).settle.desk.store = floor.desk.store ∧
      (floor.start label work).settle.answers = floor.answers := by
  cases work with
  | plain act => cases wait
  | locked session act =>
    obtain ⟨lock, found, taken⟩ := Desk.isWaiting_arrival.mp wait
    have lockEq : holder.lock = floor.desk.store.locks.find? session := by
      obtain ⟨task, mem, taskLock⟩ := Desk.isTaken_iff.mp taken
      rw [held.tasks, List.mem_cons] at mem
      rw [found]
      rcases mem with rfl | mem
      · exact taskLock
      · obtain ⟨waiter, -, rfl⟩ := List.mem_map.mp mem
        exact taskLock
    let waiter : Waiter κ α ρ := ⟨⟨label, floor.desk.arrivals, act⟩, session⟩
    have arrived : floor.desk.arrival session = waiter.asTask holder.lock := by
      have waiting : floor.desk.arrivalPhase session = .waiting := by
        rw [Desk.arrivalPhase]
        simp only [found, taken, if_true]
      rw [Desk.arrival, waiting, lockEq]
      rfl
    have started : (floor.start label (.locked session act)).HeldBy holder (waiters ++ [waiter]) :=
      { sound := held.sound.enter session
        inside := held.inside
        tasks := by
          rw [List.map_append, ← List.cons_append, ← held.tasks]
          exact (Desk.tasks_enter ..).trans (by rw [arrived]; rfl)
        jobs := by
          rw [List.map_append, ← held.jobs]
          rfl }
    rw [started.settle_eq]
    exact ⟨waiter, rfl, rfl, started, rfl, rfl⟩

/-- A work that does not find the held lock is done at once, as if nothing else went on. -/
theorem free (held : floor.HeldBy holder waiters) {work : Work α ρ} (keeps : work.Keeps)
    (noWait : floor.mustWait work = false) (label : κ) :
    (floor.start label work).settle.HeldBy holder waiters ∧
      (floor.start label work).settle.desk.store = (work.alone floor.desk.store).2 ∧
      (floor.start label work).settle.answers =
        floor.answers ++ [(label, (work.alone floor.desk.store).1)] := by
  cases work with
  | plain act =>
    have started : (floor.start label (.plain act)).HeldBy holder waiters :=
      { sound := held.sound.act keeps
        inside := held.inside
        tasks := held.tasks
        jobs := held.jobs }
    rw [started.settle_eq]
    exact ⟨started, rfl, rfl⟩
  | locked session act =>
    let job : Job κ α ρ := ⟨label, floor.desk.arrivals, act⟩
    have entered : (floor.start label (.locked session act)).desk.Sound :=
      held.sound.enter session
    have others : ∀ task ∈ floor.desk.tasks,
        task ∈ (floor.start label (.locked session act)).desk.tasks := fun task mem =>
      List.mem_append_left _ mem
    have settled : (floor.start label (.locked session act)).settle =
        (floor.start label (.locked session act)).proceed job := by
      have jobs : (floor.start label (.locked session act)).jobs = floor.jobs ++ [job] := rfl
      rw [settle, jobs, List.foldl_append, foldl_proceed_of_idle (held.idle entered others)]
      rfl
    have sound : ((floor.start label (.locked session act)).proceed job).desk.Sound :=
      sound_proceed entered keeps
    rw [settled]
    rw [proceed_arrival held.sound held.older noWait] at sound ⊢
    exact ⟨⟨sound, held.inside, held.tasks, held.jobs⟩, rfl, rfl⟩

end HeldBy

end Floor

end SchemaDesk
