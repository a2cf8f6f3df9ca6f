import SchemaDesk.Proofs.Session.Hold
/-!
# An order for concurrent works

Works that start while a lock is held have the answers and the effects of the same works done one by
one. The order is this: the works that do not find the held lock as they start, in the order in
which they start, and then those that wait for it. A work that waited may hold a lock that its
session lost in the meantime; but it reads late, and so it sees what a work sees that starts only
then.
-/

namespace SchemaDesk

variable {α β γ ρ : Type}

/-- Does works one after another while nothing else goes on; their answers in order. -/
def Work.inTurn (works : List (Work α ρ)) : StateM (Store α) (List ρ) := works.mapM Work.alone

/-- The elements of a list at the places that carry a mark. -/
def marked (mark : Bool) : List Bool → List β → List β
  | first :: marks, element :: rest =>
    if first = mark then element :: marked mark marks rest else marked mark marks rest
  | _, _ => []

/-- Elements keep their marks when all are changed. -/
theorem marked_map (mark : Bool) (f : β → γ) (marks : List Bool) (list : List β) :
    marked mark marks (list.map f) = (marked mark marks list).map f := by
  induction marks generalizing list with
  | nil => rfl
  | cons first marks ih =>
    cases list with
    | nil => rfl
    | cons element rest =>
      simp only [List.map_cons, marked, ih]
      split <;> rfl

/-- Where every mark is the one looked for, every element is marked. -/
theorem marked_of_all {mark : Bool} {marks : List Bool} (all : ∀ other ∈ marks, other = mark)
    {list : List β} (length : marks.length = list.length) : marked mark marks list = list := by
  induction marks generalizing list with
  | nil => exact (List.length_eq_zero_iff.mp length.symm).symm
  | cons first marks ih =>
    cases list with
    | nil => cases length
    | cons element rest =>
      rw [List.forall_mem_cons] at all
      rw [marked, if_pos all.1, ih all.2 (Nat.succ.inj length)]

/-- Where no mark is the one looked for, no element is marked. -/
theorem marked_of_none {mark : Bool} {marks : List Bool} (unmarked : ∀ other ∈ marks, other ≠ mark)
    (list : List β) : marked mark marks list = [] := by
  induction marks generalizing list with
  | nil => rfl
  | cons first marks ih =>
    cases list with
    | nil => rfl
    | cons element rest =>
      rw [List.forall_mem_cons] at unmarked
      rw [marked, if_neg unmarked.1, ih unmarked.2]

/-- The marked elements are elements of the list. -/
theorem mem_of_mem_marked {mark : Bool} {marks : List Bool} {list : List β} {element : β}
    (mem : element ∈ marked mark marks list) : element ∈ list := by
  induction marks generalizing list with
  | nil => cases mem
  | cons first marks ih =>
    cases list with
    | nil => cases mem
    | cons next rest =>
      rw [marked] at mem
      split at mem
      · rcases List.mem_cons.mp mem with rfl | later
        · exact List.mem_cons_self
        · exact List.mem_cons_of_mem _ (ih later)
      · exact List.mem_cons_of_mem _ (ih mem)

/-- How many elements are marked depends on the marks and the length only. -/
theorem length_marked {mark : Bool} {marks : List Bool} {list : List β} {other : List γ}
    (same : list.length = other.length) :
    (marked mark marks list).length = (marked mark marks other).length := by
  induction marks generalizing list other with
  | nil => rfl
  | cons first marks ih =>
    cases list with
    | nil => rw [List.length_eq_zero_iff.mp same.symm]; rfl
    | cons element rest =>
      cases other with
      | nil => cases same
      | cons element' rest' =>
        have later := ih (Nat.succ.inj same)
        rw [marked, marked]
        split
        · rw [List.length_cons, List.length_cons, later]
        · exact later

/-- The elements with and without a mark are all elements. -/
theorem marked_perm {marks : List Bool} {list : List β} (length : marks.length = list.length) :
    (marked false marks list ++ marked true marks list).Perm list := by
  induction marks generalizing list with
  | nil => rw [List.length_eq_zero_iff.mp length.symm]; exact .refl _
  | cons first marks ih =>
    cases list with
    | nil => cases length
    | cons element rest =>
      have later := (ih (Nat.succ.inj length)).cons element
      cases first with
      | false =>
        rw [marked, marked, if_pos rfl, if_neg Bool.noConfusion]
        exact later
      | true =>
        rw [marked, marked, if_pos rfl, if_neg Bool.noConfusion]
        exact List.perm_middle.trans later

namespace Work

/-- The first of several works comes before the others. -/
theorem inTurn_cons (work : Work α ρ) (works : List (Work α ρ)) (store : Store α) :
    inTurn (work :: works) store =
      ((work.alone store).1 :: (inTurn works (work.alone store).2).1,
        (inTurn works (work.alone store).2).2) := by
  rw [inTurn, List.mapM_cons]
  rfl

/-- Works are done in two parts as in one. -/
theorem inTurn_append (early late : List (Work α ρ)) (store : Store α) :
    inTurn (early ++ late) store =
      ((inTurn early store).1 ++ (inTurn late (inTurn early store).2).1,
        (inTurn late (inTurn early store).2).2) := by
  induction early generalizing store with
  | nil => rfl
  | cons work early ih => simp only [List.cons_append, inTurn_cons, ih]

/-- Every work has an answer. -/
theorem length_inTurn (works : List (Work α ρ)) (store : Store α) :
    (inTurn works store).1.length = works.length := by
  induction works generalizing store with
  | nil => rfl
  | cons work works ih => simp only [inTurn_cons, List.length_cons, ih]

end Work

namespace Floor

/-- Which of some works find a held lock when they start one after another. -/
def waitMarks (floor : Floor Nat α ρ) (first : Nat) : List (Work α ρ) → List Bool
  | [] => []
  | work :: rest =>
    floor.mustWait work :: (floor.startGroup first [work]).waitMarks (first + 1) rest

/-- Every work has a mark. -/
theorem length_waitMarks (floor : Floor Nat α ρ) (first : Nat) (works : List (Work α ρ)) :
    (floor.waitMarks first works).length = works.length := by
  induction works generalizing floor first with
  | nil => rfl
  | cons work works ih => rw [waitMarks, List.length_cons, List.length_cons, ih]

/-- Works start one after another while a lock is held: those that do not find it are done in turn,
and the others join those that wait for it. -/
theorem HeldBy.startAll {floor : Floor Nat α ρ} {holder : Task α} {waiters : List (Waiter Nat α ρ)}
    (held : floor.HeldBy holder waiters) (first : Nat) {works : List (Work α ρ)}
    (keeps : ∀ work ∈ works, work.Keeps) :
    ∃ more : List (Waiter Nat α ρ),
      (floor.startAll first (works.map ([·]))).HeldBy holder (waiters ++ more) ∧
      more.map (·.work) = marked true (floor.waitMarks first works) works ∧
      more.map (·.label) =
        marked true (floor.waitMarks first works) (List.range' first works.length) ∧
      (floor.startAll first (works.map ([·]))).desk.store =
        (Work.inTurn (marked false (floor.waitMarks first works) works) floor.desk.store).2 ∧
      (floor.startAll first (works.map ([·]))).answers = floor.answers ++
        (marked false (floor.waitMarks first works) (List.range' first works.length)).zip
          (Work.inTurn (marked false (floor.waitMarks first works) works) floor.desk.store).1 := by
  induction works generalizing floor waiters first with
  | nil =>
    refine ⟨[], ?_, rfl, rfl, rfl, (List.append_nil _).symm⟩
    rw [List.append_nil]
    exact held
  | cons work works ih =>
    rw [List.forall_mem_cons] at keeps
    have next : floor.startAll first ((work :: works).map ([·])) =
        (floor.start first work).settle.startAll (first + 1) (works.map ([·])) := rfl
    have marks : floor.waitMarks first (work :: works) = floor.mustWait work ::
        (floor.start first work).settle.waitMarks (first + 1) works := rfl
    rw [next, marks, List.length_cons, List.range'_succ]
    cases wait : floor.mustWait work with
    | true =>
      obtain ⟨waiter, label, same, heldNow, store, answers⟩ := held.waits wait first
      obtain ⟨more, later, mores, labels, laterStore, laterAnswers⟩ :=
        ih heldNow (first + 1) keeps.2
      refine ⟨waiter :: more, ?_, ?_, ?_, ?_, ?_⟩
      · rw [List.append_cons]
        exact later
      · rw [List.map_cons, same, mores, marked, if_pos rfl]
      · rw [List.map_cons, label, labels, marked, if_pos rfl]
      · rw [marked, if_neg Bool.noConfusion, ← store]
        exact laterStore
      · rw [marked, marked, if_neg Bool.noConfusion, if_neg Bool.noConfusion, ← store, ← answers]
        exact laterAnswers
    | false =>
      obtain ⟨heldNow, store, answers⟩ := held.free keeps.1 wait first
      obtain ⟨more, later, mores, labels, laterStore, laterAnswers⟩ :=
        ih heldNow (first + 1) keeps.2
      refine ⟨more, later, ?_, ?_, ?_, ?_⟩
      · rw [marked, if_neg Bool.noConfusion]
        exact mores
      · rw [marked, if_neg Bool.noConfusion]
        exact labels
      · rw [marked, if_pos rfl, Work.inTurn_cons, ← store]
        exact laterStore
      · rw [marked, marked, if_pos rfl, if_pos rfl, Work.inTurn_cons, List.zip_cons_cons,
          List.append_cons, ← answers, ← store]
        exact laterAnswers

/-- Works of which none finds the held lock are done in turn. -/
theorem HeldBy.startAll_free {floor : Floor Nat α ρ} {holder : Task α}
    {waiters : List (Waiter Nat α ρ)} (held : floor.HeldBy holder waiters) (first : Nat)
    {works : List (Work α ρ)} (keeps : ∀ work ∈ works, work.Keeps)
    (free : ∀ mark ∈ floor.waitMarks first works, mark = false) :
    (floor.startAll first (works.map ([·]))).HeldBy holder waiters ∧
      (floor.startAll first (works.map ([·]))).desk.store =
        (Work.inTurn works floor.desk.store).2 ∧
      (floor.startAll first (works.map ([·]))).answers = floor.answers ++
        (List.range' first works.length).zip (Work.inTurn works floor.desk.store).1 := by
  obtain ⟨more, started, noWorks, -, store, answers⟩ := held.startAll first keeps
  have noMark : ∀ mark ∈ floor.waitMarks first works, mark ≠ true := fun mark mem =>
    Bool.eq_false_iff.mp (free mark mem)
  obtain rfl : more = [] := List.map_eq_nil_iff.mp (noWorks.trans (marked_of_none noMark works))
  rw [marked_of_all free (length_waitMarks ..)] at store answers
  rw [marked_of_all free ((length_waitMarks ..).trans (List.length_range' ..).symm)] at answers
  rw [List.append_nil] at started
  exact ⟨started, store, answers⟩

/-- The first of the works that wait for a lock that nobody holds any more is done as if nothing
else went on. -/
theorem proceed_waiter {floor : Floor Nat α ρ} (sound : floor.desk.Sound) {lock : Option Nat}
    {waiter : Waiter Nat α ρ} {waiters : List (Waiter Nat α ρ)}
    (tasks : floor.desk.tasks = (waiter :: waiters).map (Waiter.asTask lock))
    (jobs : floor.jobs = (waiter :: waiters).map (·.toJob)) :
    (floor.proceed waiter.toJob).desk.tasks = waiters.map (Waiter.asTask lock) ∧
      (floor.proceed waiter.toJob).jobs = waiters.map (·.toJob) ∧
      (floor.proceed waiter.toJob).desk.store = (waiter.work.alone floor.desk.store).2 ∧
      (floor.proceed waiter.toJob).answers =
        floor.answers ++ [(waiter.label, (waiter.work.alone floor.desk.store).1)] := by
  rw [List.map_cons] at tasks jobs
  have mem : waiter.asTask lock ∈ floor.desk.tasks := tasks ▸ List.mem_cons_self
  have ordered := sound.ordered
  rw [tasks, List.pairwise_cons] at ordered
  have next : floor.desk.isNext (waiter.asTask lock) = true := by
    rw [Desk.isNext_iff, tasks, List.forall_mem_cons]
    refine ⟨fun _ => Nat.le_refl _, fun other otherMem _ => ?_⟩
    have later := ordered.1 other otherMem
    omega
  have seen : (floor.desk.resume waiter.task).seen? waiter.task =
      some (floor.desk.store.get? waiter.session) := sound.seen?_resume mem rfl next
  -- What is read late is what a work reads that starts only now.
  have alone : waiter.work.alone floor.desk.store =
      waiter.act (floor.desk.store.get? waiter.session) floor.desk.store := by
    rw [← Work.seenAtOnce_eq sound.store]
    rfl
  have done : floor.proceed waiter.toJob = _ := proceed_of_seen seen
  rw [done, alone]
  refine ⟨?_, ?_, rfl, rfl⟩
  · refine (tasks_leave_resume sound seen).trans ?_
    rw [tasks, List.filter_cons_of_neg (by simp [Waiter.asTask]), List.filter_eq_self]
    intro task taskMem
    have later : waiter.task < task.number := ordered.1 task taskMem
    rw [bne_iff_ne]
    omega
  · change floor.jobs.filter (fun other => other.task != waiter.task) = _
    rw [jobs, List.filter_cons_of_neg (by simp), List.filter_eq_self, List.forall_mem_map]
    intro other otherMem
    have later : waiter.task < other.task :=
      ordered.1 (other.asTask lock) (List.mem_map_of_mem otherMem)
    rw [bne_iff_ne]
    omega

/-- Works that wait for a lock that nobody holds any more are done one after the other. -/
theorem settle_waiters {floor : Floor Nat α ρ} (sound : floor.desk.Sound) {lock : Option Nat}
    {waiters : List (Waiter Nat α ρ)} (tasks : floor.desk.tasks = waiters.map (Waiter.asTask lock))
    (jobs : floor.jobs = waiters.map (·.toJob)) (keeps : ∀ waiter ∈ waiters, waiter.work.Keeps) :
    floor.settle.desk.store = (Work.inTurn (waiters.map (·.work)) floor.desk.store).2 ∧
      floor.settle.answers = floor.answers ++
        (waiters.map (·.label)).zip
          (Work.inTurn (waiters.map (·.work)) floor.desk.store).1 := by
  induction waiters generalizing floor with
  | nil =>
    rw [settle, jobs]
    exact ⟨rfl, (List.append_nil _).symm⟩
  | cons waiter waiters ih =>
    rw [List.forall_mem_cons] at keeps
    obtain ⟨tasksNow, jobsNow, storeNow, answersNow⟩ := proceed_waiter sound tasks jobs
    have soundNow : (floor.proceed waiter.toJob).desk.Sound := sound_proceed sound keeps.1
    have rest : floor.settle = (floor.proceed waiter.toJob).settle := by
      rw [settle, settle, jobs, jobsNow]
      rfl
    obtain ⟨store, answers⟩ := ih soundNow tasksNow jobsNow keeps.2
    rw [rest, store, answers, storeNow, answersNow, List.map_cons, List.map_cons, Work.inTurn_cons,
      List.zip_cons_cons, List.append_assoc]
    exact ⟨rfl, rfl⟩

/-- When the holder leaves, the works that wait for its lock are done one after the other. -/
theorem HeldBy.release {floor : Floor Nat α ρ} {holder : Task α} {waiters : List (Waiter Nat α ρ)}
    (held : floor.HeldBy holder waiters) (keeps : ∀ waiter ∈ waiters, waiter.work.Keeps) :
    let released : Floor Nat α ρ := { floor with desk := floor.desk.leave holder.number }
    released.settle.desk.store = (Work.inTurn (waiters.map (·.work)) floor.desk.store).2 ∧
      released.settle.answers = floor.answers ++
        (waiters.map (·.label)).zip
          (Work.inTurn (waiters.map (·.work)) floor.desk.store).1 := by
  intro released
  have tasks : released.desk.tasks = waiters.map (Waiter.asTask holder.lock) := by
    change floor.desk.tasks.filter _ = _
    have waiting : ∀ task ∈ waiters.map (Waiter.asTask (α := α) holder.lock),
        (task.number != holder.number || task.isWaiting) = true := by
      rw [List.forall_mem_map]
      exact fun waiter _ => Bool.or_true _
    rw [held.tasks, List.filter_cons, if_neg (by simp [held.inside]),
      List.filter_eq_self.mpr waiting]
  exact settle_waiters (held.sound.leave holder.number) tasks held.jobs keeps

/-- Groups without work change nothing. -/
theorem HeldBy.startAll_nil {floor : Floor Nat α ρ} {holder : Task α}
    {waiters : List (Waiter Nat α ρ)} (held : floor.HeldBy holder waiters) (first : Nat)
    (list : List β) : floor.startAll first (list.map fun _ => []) = floor := by
  induction list generalizing first with
  | nil => rfl
  | cons _ list ih =>
    have nothing : floor.startGroup first [] = floor := held.settle_eq
    rw [List.map_cons, Floor.startAll, nothing, ih]

/-- The answers of groups of one work each, by their labels. -/
theorem map_answersOf {floor : Floor Nat α ρ} {labels : List Nat} {answers : List ρ}
    (nodup : labels.Nodup) (length : answers.length = labels.length)
    (given : floor.answers = labels.zip answers) :
    labels.map floor.answersOf = answers.map ([·]) := by
  have answersOf : floor.answersOf = fun label =>
      ((labels.zip answers).filter (·.1 == label)).map Prod.snd := by
    funext label
    rw [Floor.answersOf, given]
  rw [answersOf]
  clear given answersOf
  induction labels generalizing answers with
  | nil => rw [List.length_eq_zero_iff.mp length]; rfl
  | cons label labels ih =>
    cases answers with
    | nil => cases length
    | cons answer answers =>
      rw [List.nodup_cons] at nodup
      have first : ((label, answer).1 == label) = true := beq_self_eq_true label
      have others : ∀ other ∈ labels, ¬ ((label, answer).1 == other) = true := fun other mem hit =>
        nodup.1 ((eq_of_beq hit : label = other) ▸ mem)
      have unanswered : (labels.zip answers).filter (·.1 == label) = [] := by
        refine List.filter_eq_nil_iff.mpr fun pair mem hit => nodup.1 ?_
        rw [← eq_of_beq hit]
        exact (List.of_mem_zip mem).1
      rw [List.zip_cons_cons, List.map_cons, List.map_cons, List.filter_cons, if_pos first,
        unanswered]
      refine congrArg _ ((List.map_congr_left fun other mem => ?_).trans
        (ih nodup.2 (Nat.succ.inj length)))
      rw [List.filter_cons, if_neg (others other mem)]

end Floor

namespace Schedule

/-- The floor on which a task has taken the lock of a session and nothing else goes on. -/
def taken (session : Text) (store : Store α) : Floor Nat α ρ :=
  ⟨(Desk.enter ⟨store, [], 0⟩ session).2, [], []⟩

/-- Which of the pending works find the held lock as they start. -/
def pendingMarks (session : Text) (pending : List (Work α ρ)) (store : Store α) : List Bool :=
  (taken session store).waitMarks 0 pending

/-- Which of the works after the pending ones find the held lock as they start. -/
def duringMarks (session : Text) (pending during : List (Work α ρ)) (store : Store α) : List Bool :=
  ((taken session store).startAll 0 (pending.map ([·]))).waitMarks pending.length during

/-- The order of works that start while a lock is held: the pending ones that do not find it, those
that start after the pending ones, and the pending ones that wait. -/
def inOrder (marks : List Bool) (pending during : List β) : List β :=
  marked false marks pending ++ during ++ marked true marks pending

/-- The order does not depend on the elements. -/
theorem inOrder_map (f : β → γ) (marks : List Bool) (pending during : List β) :
    inOrder marks (pending.map f) (during.map f) = (inOrder marks pending during).map f := by
  simp only [inOrder, marked_map, List.map_append]

/-- The order only rearranges the elements. -/
theorem inOrder_perm {marks : List Bool} {pending : List β} (length : marks.length = pending.length)
    (during : List β) : (inOrder marks pending during).Perm (pending ++ during) := by
  rw [inOrder, List.append_assoc]
  refine (List.perm_append_comm.append_left _).trans ?_
  rw [← List.append_assoc]
  exact (marked_perm length).append_right _

/-- The floor after works have started while a task held the lock of a session, the task has left,
and the works that waited are done. -/
def finished (session : Text) (pending during : List (Work α ρ)) (store : Store α) :
    Floor Nat α ρ :=
  let started := ((taken session store).startAll 0 (pending.map ([·]))).startAll pending.length
    (during.map ([·]))
  { started with desk := started.desk.leave 0 }.settle

/-- A lock that is just taken is held by the task that took it, and nobody waits. -/
theorem heldBy_taken {store : Store α} (sound : store.Sound) (session : Text) :
    (taken session store : Floor Nat α ρ).HeldBy
      ((⟨store, [], 0⟩ : Desk α).arrival session) [] where
  sound := (Desk.sound_of_store sound 0).enter session
  inside := by
    rw [← Bool.not_eq_true, Desk.isWaiting_arrival]
    rintro ⟨lock, -, taken⟩
    cases taken
  tasks := rfl
  jobs := rfl

variable {session : Text} {pending during : List (Work α ρ)} {store : Store α}

/-- Works that start while a lock is held end as if they were done in turn. -/
theorem finished_eq (sound : store.Sound) (keepsPending : ∀ work ∈ pending, work.Keeps)
    (keepsDuring : ∀ work ∈ during, work.Keeps)
    (free : ∀ mark ∈ duringMarks session pending during store, mark = false) :
    (finished session pending during store).desk.store =
        (Work.inTurn (inOrder (pendingMarks session pending store) pending during) store).2 ∧
      (finished session pending during store).answers =
        (inOrder (pendingMarks session pending store) (List.range' 0 pending.length)
          (List.range' pending.length during.length)).zip
          (Work.inTurn (inOrder (pendingMarks session pending store) pending during) store).1 := by
  obtain ⟨waiters, begun, works, labels, begunStore, begunAnswers⟩ :=
    (heldBy_taken sound session).startAll 0 keepsPending
  obtain ⟨started, startedStore, startedAnswers⟩ :=
    begun.startAll_free pending.length keepsDuring free
  have keepsWaiters : ∀ waiter ∈ waiters, waiter.work.Keeps := fun waiter mem =>
    keepsPending _ (mem_of_mem_marked (works ▸ List.mem_map_of_mem mem))
  obtain ⟨finalStore, finalAnswers⟩ := started.release keepsWaiters
  have freeLength : ∀ mark, (marked mark (pendingMarks session pending store)
      (List.range' 0 pending.length)).length =
        (marked mark (pendingMarks session pending store) pending).length := fun mark =>
    length_marked (List.length_range' ..)
  rw [inOrder, inOrder, Work.inTurn_append, Work.inTurn_append, List.zip_append, List.zip_append]
  · refine ⟨finalStore.trans ?_, finalAnswers.trans ?_⟩
    · rw [List.nil_append, works, startedStore, begunStore]
      rfl
    · rw [List.nil_append, works, labels, startedAnswers, startedStore, begunAnswers, begunStore]
      rfl
  · rw [Work.length_inTurn]
    exact freeLength false
  · rw [List.length_append, List.length_append, Work.length_inTurn, Work.length_inTurn,
      List.length_range']
    exact congrArg (· + _) (freeLength false)

/-- Holding a lock while works start, in terms of the floor that is left in the end. -/
theorem whileLocked_singles (sound : store.Sound) (keepsPending : ∀ work ∈ pending, work.Keeps) :
    whileLocked session (pending.map .single) (during.map .single) store =
      (⟨store.get? session,
        (List.range' 0 pending.length).map (finished session pending during store).answersOf,
        (List.range' pending.length during.length).map
          (finished session pending during store).answersOf⟩,
        (finished session pending during store).desk.store) := by
  obtain ⟨waiters, begun, -⟩ := (heldBy_taken sound session).startAll 0 keepsPending
  have early : (pending.map (Group.single (α := α))).map Group.early = pending.map ([·]) := by
    rw [List.map_map]
    rfl
  have late : (pending.map (Group.single (α := α))).map Group.late = pending.map fun _ => [] := by
    rw [List.map_map]
    rfl
  have works : (during.map (Group.single (α := α))).map Group.works = during.map ([·]) := by
    rw [List.map_map]
    rfl
  have spread : (Floor.startAll ⟨(Desk.enter ⟨store, [], 0⟩ session).2, [], []⟩ 0
      (pending.map ([·]))).startAll 0 (pending.map fun _ => []) =
        (taken session store).startAll 0 (pending.map ([·])) := begun.startAll_nil 0 pending
  have held := heldBy_taken (ρ := ρ) sound session
  obtain ⟨item, phase⟩ := Desk.isWaiting_eq_false_iff.mp held.inside
  have seen : (Desk.enter ⟨store, [], 0⟩ session).2.seen? (Desk.enter ⟨store, [], 0⟩ session).1 =
      some (store.get? session) := by
    rw [← Work.seenAtOnce_eq sound, ← Floor.seen_of_arrival phase]
    exact held.sound.seen?_eq (held.tasks ▸ List.mem_cons_self) phase
  rw [whileLocked]
  simp only [early, late, works, List.length_map, spread, seen]
  rw [List.range'_eq_map_range, List.range'_eq_map_range, List.map_map, List.map_map]
  simp only [Nat.zero_add]
  rfl

/-- Works that start while a task holds a lock have the same answers and leave the same store as the
same works done one by one, if no work that starts after the pending ones finds the held lock. -/
theorem whileLocked_eq (sound : store.Sound) (keepsPending : ∀ work ∈ pending, work.Keeps)
    (keepsDuring : ∀ work ∈ during, work.Keeps)
    (free : ∀ mark ∈ duringMarks session pending during store, mark = false) :
    let marks := pendingMarks session pending store
    let run := whileLocked session (pending.map .single) (during.map .single) store
    let plain := Work.inTurn (inOrder marks pending during) store
    run.2 = plain.2 ∧ inOrder marks run.1.pending run.1.during = plain.1.map ([·]) ∧
      run.1.pending.length = pending.length ∧ run.1.during.length = during.length ∧
      run.1.held = store.get? session := by
  intro marks run plain
  have marksLength : marks.length = pending.length := Floor.length_waitMarks ..
  obtain ⟨finalStore, finalAnswers⟩ := finished_eq sound keepsPending keepsDuring free
  have ran : run = _ := whileLocked_singles sound keepsPending
  have labelsLength : marks.length = (List.range' 0 pending.length).length :=
    marksLength.trans (List.length_range' ..).symm
  have nodup : (inOrder marks (List.range' 0 pending.length)
      (List.range' pending.length during.length)).Nodup := by
    have apart : (List.range' 0 pending.length ++ List.range' (0 + pending.length)
        during.length).Nodup := by
      rw [List.range'_append_1]
      exact List.nodup_range'
    rw [Nat.zero_add] at apart
    exact (inOrder_perm labelsLength _).nodup_iff.mpr apart
  have length : plain.1.length = (inOrder marks (List.range' 0 pending.length)
      (List.range' pending.length during.length)).length := by
    have works := (inOrder_perm marksLength during).length_eq
    have labels := (inOrder_perm labelsLength (List.range' pending.length during.length)).length_eq
    rw [List.length_append] at works labels
    rw [Work.length_inTurn, works, labels, List.length_range', List.length_range']
  rw [ran]
  refine ⟨finalStore, ?_, ?_, ?_, rfl⟩
  · rw [inOrder_map]
    exact Floor.map_answersOf nodup length finalAnswers
  · simp
  · simp

end Schedule

end SchemaDesk
