import Zenith.Reaches

/-!
# Interleaved tasks

The startup of `ServiceReconciler.run` awaits `asyncio.gather` over its try-operations: the
coroutines interleave at their requests, in an order the event loop picks.  A task here is a
program with the answers its requests will get; a schedule names, step by step, the task that
moves.  Any interleaving of the coroutines is a schedule.

If every request of each task changes only objects of that task's footprint, and answers and
acts there only according to what the footprint holds, and the footprints are pairwise disjoint,
then each task behaves as it would alone, and the cluster after a complete schedule is the same
for every schedule (`gather_complete_eq`).  The proof projects the gather onto each task: at every
point, each task is where it would be alone after as many steps as the schedule gave it, and the
cluster holds on its footprint what that lone run left there (`Projects`).
-/

namespace Zenith

/-- Under `inv`, the request changes only objects in `foot`, what it answers and does there
depends only on the objects in `foot`, and it keeps `inv`. -/
structure Request.Local (P : Platform) (inv : Cluster → Prop) (foot : Key → Prop) (r : Request) :
    Prop where
  frame : ∀ answer c, inv c → ∀ k, ¬ foot k → (r.perform P answer c).1.get k = c.get k
  agree : ∀ answer c d, inv c → inv d → (∀ k, foot k → c.get k = d.get k) →
    (r.perform P answer c).2 = (r.perform P answer d).2 ∧
      ∀ k, foot k → (r.perform P answer c).1.get k = (r.perform P answer d).1.get k
  keep : ∀ answer c, inv c → inv (r.perform P answer c).1

/-- A request local to a footprint is local to any larger one. -/
theorem Request.Local.widen {P : Platform} {inv : Cluster → Prop} {foot foot' : Key → Prop}
    {r : Request} (isLocal : r.Local P inv foot) (wider : ∀ k, foot k → foot' k) :
    r.Local P inv foot' where
  frame answer c start k outside := isLocal.frame answer c start k fun inFoot =>
    outside (wider k inFoot)
  agree answer c d startC startD same := by
    obtain ⟨answered, after⟩ :=
      isLocal.agree answer c d startC startD fun k inFoot => same k (wider k inFoot)
    refine ⟨answered, fun k inWider => ?_⟩
    by_cases inFoot : foot k
    · exact after k inFoot
    · rw [isLocal.frame answer c startC k inFoot, isLocal.frame answer d startD k inFoot]
      exact same k inWider
  keep := isLocal.keep

/-- Along any run of a program whose requests are local, the invariant is kept. -/
theorem Prog.Always.reaches_keep {α : Type} {P : Platform} {inv : Cluster → Prop}
    {foot : Key → Prop} {p q : Prog α} {c c' : Cluster} {t : List Event}
    (always : p.Always (Request.Local P inv foot)) (h : Prog.Reaches P p c t q c')
    (start : inv c) : inv c' := by
  induction h with
  | refl => exact start
  | call answer _ ih => exact ih (always.2 _) (always.1.keep answer _ start)
  | log _ ih => exact ih always start

/-- Along any run of a program whose requests are local, an object outside the footprint is left
as it was. -/
theorem Prog.Always.reaches_frame {α : Type} {P : Platform} {inv : Cluster → Prop}
    {foot : Key → Prop} {p q : Prog α} {c c' : Cluster} {t : List Event}
    (always : p.Always (Request.Local P inv foot)) (h : Prog.Reaches P p c t q c')
    (start : inv c) {k : Key} (outside : ¬ foot k) : c'.get k = c.get k := by
  induction h with
  | refl => rfl
  | call answer _ ih =>
    rw [ih (always.2 _) (always.1.keep answer _ start), always.1.frame answer _ start k outside]
  | log _ ih => exact ih always start

section Run

variable {α : Type} {P : Platform} {inv : Cluster → Prop} {foot : Key → Prop} {p : Prog α}
  (always : p.Always (Request.Local P inv foot)) (env : Env)
include always

theorem Prog.Always.run_keep {c : Cluster} (start : inv c) : inv (p.run P env c).cluster :=
  always.reaches_keep (Prog.reaches_run p env c) start

theorem Prog.Always.run_frame {c : Cluster} (start : inv c) {k : Key} (outside : ¬ foot k) :
    (p.run P env c).cluster.get k = c.get k :=
  always.reaches_frame (Prog.reaches_run p env c) start outside

/-- From clusters that agree on the footprint, a program whose requests are local has the same
result, and leaves clusters that agree on the footprint. -/
theorem Prog.Always.run_agree {c d : Cluster} (startC : inv c) (startD : inv d)
    (same : ∀ k, foot k → c.get k = d.get k) :
    (p.run P env c).result = (p.run P env d).result ∧
      ∀ k, foot k → (p.run P env c).cluster.get k = (p.run P env d).cluster.get k := by
  induction p generalizing env c d with
  | pure a => exact ⟨rfl, same⟩
  | raise e => exact ⟨rfl, same⟩
  | call r next ih =>
    obtain ⟨answered, after⟩ := always.1.agree env.head c d startC startD same
    simp only [Prog.run_call]
    rw [answered]
    exact ih _ (always.2 _) env.tail (always.1.keep _ _ startC) (always.1.keep _ _ startD) after
  | log entry next ih => exact ih always env startC startD same

end Run

/-- A coroutine of the gather: what is left of its program, and the answers still to come. -/
structure Task where
  prog : Prog Unit
  env : Env

namespace Task

variable {P : Platform} {inv : Cluster → Prop} {foot : Key → Prop} {task : Task} {c d : Cluster}

/-- The task's next step: its request, answered by its next answer, or its log line.  A task
that has returned or raised stays as it is. -/
def step (P : Platform) (task : Task) (c : Cluster) : Task × Cluster :=
  match task.prog with
  | .call r next =>
    (⟨next (r.perform P task.env.head c).2, task.env.tail⟩, (r.perform P task.env.head c).1)
  | .log _ next => (⟨next, task.env⟩, c)
  | .pure _ | .raise _ => (task, c)

/-- Whether the task has returned or raised. -/
def finished (task : Task) : Bool :=
  match task.prog with
  | .pure _ | .raise _ => true
  | .call .. | .log .. => false

/-- The task alone, after `n` of its steps. -/
def solo (P : Platform) (task : Task) (c : Cluster) : Nat → Task × Cluster
  | 0 => (task, c)
  | n + 1 => (solo P task c n).1.step P (solo P task c n).2

theorem step_of_finished (done : task.finished = true) : task.step P c = (task, c) := by
  unfold finished at done
  unfold step
  split <;> simp_all

theorem always_step {ok : Request → Prop} (always : task.prog.Always ok) :
    (task.step P c).1.prog.Always ok := by
  unfold step
  split
  · next r next same => rw [same] at always; exact always.2 _
  · next entry next same => rw [same] at always; exact always
  · exact always
  · exact always

section Local

variable (isLocal : task.prog.Always (Request.Local P inv foot))
include isLocal

theorem step_keep (start : inv c) : inv (task.step P c).2 := by
  unfold step
  split
  · next r next same => rw [same] at isLocal; exact isLocal.1.keep _ _ start
  all_goals exact start

theorem step_frame (start : inv c) {k : Key} (outside : ¬ foot k) :
    (task.step P c).2.get k = c.get k := by
  unfold step
  split
  · next r next same => rw [same] at isLocal; exact isLocal.1.frame _ _ start k outside
  all_goals rfl

/-- Two clusters that agree on the footprint take the task to the same point, and agree on the
footprint after the step. -/
theorem step_agree (startC : inv c) (startD : inv d) (same : ∀ k, foot k → c.get k = d.get k) :
    (task.step P c).1 = (task.step P d).1 ∧
      ∀ k, foot k → (task.step P c).2.get k = (task.step P d).2.get k := by
  unfold step
  split
  · next r next prog =>
    rw [prog] at isLocal
    obtain ⟨answered, after⟩ := isLocal.1.agree task.env.head c d startC startD same
    exact ⟨by rw [answered], after⟩
  all_goals exact ⟨rfl, same⟩

end Local

theorem always_solo {ok : Request → Prop} (always : task.prog.Always ok) (n : Nat) :
    (solo P task c n).1.prog.Always ok := by
  induction n with
  | zero => exact always
  | succ n ih => exact always_step ih

section Local

variable (isLocal : task.prog.Always (Request.Local P inv foot)) (start : inv c)
include isLocal start

theorem solo_keep (n : Nat) : inv (solo P task c n).2 := by
  induction n with
  | zero => exact start
  | succ n ih => exact step_keep (always_solo isLocal n) ih

end Local

theorem solo_succ' (n : Nat) :
    solo P task c (n + 1) = solo P (task.step P c).1 (task.step P c).2 n := by
  induction n with
  | zero => rfl
  | succ n ih =>
    show (solo P task c (n + 1)).1.step P (solo P task c (n + 1)).2 = _
    rw [ih]
    rfl

theorem finished_ofExcept (result : Except Error Unit) (env : Env) :
    (⟨Prog.ofExcept result, env⟩ : Task).finished = true := by
  cases result <;> rfl

/-- Alone, a task ends where the run of its program with its answers ends. -/
theorem solo_run (P : Platform) (p : Prog Unit) (env : Env) (c : Cluster) :
    ∃ n, solo P ⟨p, env⟩ c n =
      (⟨Prog.ofExcept (p.run P env c).result, (p.run P env c).env⟩, (p.run P env c).cluster) := by
  induction p generalizing env c with
  | pure a => exact ⟨0, rfl⟩
  | raise e => exact ⟨0, rfl⟩
  | call r next ih =>
    obtain ⟨n, solo⟩ := ih (r.perform P env.head c).2 env.tail (r.perform P env.head c).1
    exact ⟨n + 1, by rw [solo_succ']; exact solo⟩
  | log entry next ih =>
    obtain ⟨n, solo⟩ := ih env c
    exact ⟨n + 1, by rw [solo_succ']; exact solo⟩

/-- Once finished, a task alone stays where it is. -/
theorem solo_add_of_finished {n : Nat} (done : (solo P task c n).1.finished = true) (k : Nat) :
    solo P task c (n + k) = solo P task c n := by
  induction k with
  | zero => rfl
  | succ k ih =>
    show (solo P task c (n + k)).1.step P (solo P task c (n + k)).2 = _
    rw [ih]
    exact step_of_finished done

/-- A task alone finishes at one point only. -/
theorem solo_eq_of_finished {n n' : Nat} (done : (solo P task c n).1.finished = true)
    (done' : (solo P task c n').1.finished = true) : solo P task c n = solo P task c n' := by
  rcases Nat.le_total n n' with le | le
  · obtain ⟨k, rfl⟩ := Nat.exists_eq_add_of_le le
    exact (solo_add_of_finished done k).symm
  · obtain ⟨k, rfl⟩ := Nat.exists_eq_add_of_le le
    exact solo_add_of_finished done' k

end Task

/-- The task at `i` takes a step, if there is one. -/
def gatherStep (P : Platform) (state : List Task × Cluster) (i : Nat) : List Task × Cluster :=
  match state.1[i]? with
  | some task => (state.1.set i (task.step P state.2).1, (task.step P state.2).2)
  | none => state

/-- The tasks and the cluster after the steps of a schedule. -/
def gather (P : Platform) (schedule : List Nat) (tasks : List Task) (c : Cluster) :
    List Task × Cluster :=
  schedule.foldl (gatherStep P) (tasks, c)

/-- The tasks awaited one after another, each run alone to its end from where the one before it
left the cluster. -/
def sequential (P : Platform) : List Task → Cluster → Cluster
  | [], c => c
  | task :: tasks, c => sequential P tasks (task.prog.run P task.env c).cluster

section Sequential

variable {P : Platform} {inv : Cluster → Prop}

/-- Awaited in turn, tasks whose requests are local keep the invariant and leave every object
outside all their footprints as it was. -/
theorem sequential_frame {foot : Nat → Key → Prop} {tasks : List Task} {c : Cluster}
    (isLocal : ∀ i (task : Task), tasks[i]? = some task →
      task.prog.Always (Request.Local P inv (foot i)))
    (start : inv c) :
    inv (sequential P tasks c) ∧ ∀ k, (∀ i (task : Task), tasks[i]? = some task → ¬ foot i k) →
      (sequential P tasks c).get k = c.get k := by
  induction tasks generalizing foot c with
  | nil => exact ⟨start, fun _ _ => rfl⟩
  | cons task tasks ih =>
    have first := isLocal 0 task List.getElem?_cons_zero
    obtain ⟨keep, frame⟩ := ih
      (fun i task found => isLocal (i + 1) task (by rwa [List.getElem?_cons_succ]))
      (first.run_keep task.env start)
    exact ⟨keep, fun k outside =>
      (frame k fun i task found => outside (i + 1) task (by rwa [List.getElem?_cons_succ])).trans
        (first.run_frame task.env start (outside 0 task List.getElem?_cons_zero))⟩

/-- Awaited in turn, tasks with pairwise disjoint footprints leave on each task's footprint what
that task leaves there alone. -/
theorem sequential_get {foot : Nat → Key → Prop} {tasks : List Task} {c : Cluster}
    (isLocal : ∀ i (task : Task), tasks[i]? = some task →
      task.prog.Always (Request.Local P inv (foot i)))
    (apart : ∀ i j, i ≠ j → ∀ k, foot i k → ¬ foot j k) (start : inv c) {i : Nat} {task : Task}
    (present : tasks[i]? = some task) {k : Key} (inFoot : foot i k) :
    (sequential P tasks c).get k = (task.prog.run P task.env c).cluster.get k := by
  induction tasks generalizing foot c i with
  | nil => cases present
  | cons first tasks ih =>
    have firstLocal := isLocal 0 first List.getElem?_cons_zero
    have rest : ∀ i (task : Task), tasks[i]? = some task →
        task.prog.Always (Request.Local P inv (foot (i + 1))) :=
      fun i task found => isLocal (i + 1) task (by rwa [List.getElem?_cons_succ])
    have moved := firstLocal.run_keep first.env start
    cases i with
    | zero =>
      obtain rfl : first = task := Option.some.inj (List.getElem?_cons_zero.symm.trans present)
      exact (sequential_frame rest moved).2 k fun j _ _ => apart 0 (j + 1) (by omega) k inFoot
    | succ i =>
      -- the first task leaves the footprint of this one as it was
      have untouched : ∀ k, foot (i + 1) k →
          (first.prog.run P first.env c).cluster.get k = c.get k :=
        fun k inFoot => firstLocal.run_frame first.env start (apart (i + 1) 0 (by omega) k inFoot)
      calc (sequential P tasks (first.prog.run P first.env c).cluster).get k
          = (task.prog.run P task.env (first.prog.run P first.env c).cluster).cluster.get k :=
            ih rest (fun a b ne => apart (a + 1) (b + 1) (by omega)) moved
              (by rwa [List.getElem?_cons_succ] at present) inFoot
        _ = (task.prog.run P task.env c).cluster.get k :=
            ((isLocal (i + 1) task present).run_agree task.env moved start untouched).2 k inFoot

end Sequential

/-- A gather state in which every task's requests are local to that task's footprint, under an
invariant the cluster satisfies. -/
structure LocalTasks (P : Platform) (inv : Cluster → Prop) (foot : Nat → Key → Prop)
    (state : List Task × Cluster) : Prop where
  isLocal : ∀ i (task : Task), state.1[i]? = some task →
    task.prog.Always (Request.Local P inv (foot i))
  keep : inv state.2

section LocalTasks

variable {P : Platform} {inv : Cluster → Prop} {foot : Nat → Key → Prop}
  {state : List Task × Cluster}

/-- A step of any task keeps the tasks local, and changes only that task's footprint. -/
theorem LocalTasks.next (tasks : LocalTasks P inv foot state) (j : Nat) :
    LocalTasks P inv foot (gatherStep P state j) ∧
      ∀ k, ¬ foot j k → (gatherStep P state j).2.get k = state.2.get k := by
  unfold gatherStep
  split
  · next task found =>
    have moving := tasks.isLocal j task found
    refine ⟨⟨fun i task' found' => ?_, Task.step_keep moving tasks.keep⟩,
      fun k outside => Task.step_frame moving tasks.keep outside⟩
    by_cases same : i = j
    · subst same
      rw [List.getElem?_set_self (List.getElem?_eq_some_iff.mp found).1, Option.some_inj] at found'
      exact found' ▸ Task.always_step moving
    · rw [List.getElem?_set_ne (Ne.symm same)] at found'
      exact tasks.isLocal i task' found'
  · exact ⟨tasks, fun _ _ => rfl⟩

/-- Along any schedule, finished or not and whatever the footprints, the tasks keep the invariant
and change nothing outside all their footprints. -/
theorem LocalTasks.foldl (tasks : LocalTasks P inv foot state) (schedule : List Nat) :
    LocalTasks P inv foot (schedule.foldl (gatherStep P) state) ∧
      ∀ k, (∀ i, ¬ foot i k) → (schedule.foldl (gatherStep P) state).2.get k = state.2.get k := by
  induction schedule generalizing state with
  | nil => exact ⟨tasks, fun _ _ => rfl⟩
  | cons j schedule ih =>
    obtain ⟨next, moved⟩ := tasks.next j
    obtain ⟨final, frame⟩ := ih next
    exact ⟨final, fun k outside => (frame k outside).trans (moved k (outside j))⟩

end LocalTasks

/-- Whatever the footprints, a gather of tasks whose requests are local keeps the invariant along
any schedule and leaves every object outside all footprints as it was. -/
theorem gather_frame {P : Platform} {inv : Cluster → Prop} {foot : Nat → Key → Prop}
    {tasks : List Task} {c : Cluster}
    (isLocal : ∀ i (task : Task), tasks[i]? = some task →
      task.prog.Always (Request.Local P inv (foot i)))
    (start : inv c) (schedule : List Nat) :
    inv (gather P schedule tasks c).2 ∧
      ∀ k, (∀ i, ¬ foot i k) → (gather P schedule tasks c).2.get k = c.get k :=
  let ⟨final, frame⟩ :=
    (LocalTasks.mk isLocal start : LocalTasks P inv foot (tasks, c)).foldl schedule
  ⟨final.keep, frame⟩

/-- A gather state, seen task by task: each task is where it would be alone after the steps the
schedule gave it, the cluster holds on each task's footprint what that lone run left there, and
outside all footprints what the gather started from. -/
structure Projects (P : Platform) (inv : Cluster → Prop) (foot : Nat → Key → Prop)
    (tasks : List Task) (c : Cluster) (steps : Nat → Nat) (state : List Task × Cluster) :
    Prop where
  length : state.1.length = tasks.length
  task : ∀ i (task : Task), tasks[i]? = some task → state.1[i]? = some (task.solo P c (steps i)).1
  inside : ∀ i (task : Task), tasks[i]? = some task → ∀ k, foot i k →
    state.2.get k = (task.solo P c (steps i)).2.get k
  outside : ∀ k, (∀ i (task : Task), tasks[i]? = some task → ¬ foot i k) → state.2.get k = c.get k
  keep : inv state.2

/-- Before any step, the gather is its tasks alone. -/
theorem Projects.initial {P : Platform} {inv : Cluster → Prop} {foot : Nat → Key → Prop}
    {tasks : List Task} {c : Cluster} (start : inv c) :
    Projects P inv foot tasks c (fun _ => 0) (tasks, c) :=
  ⟨rfl, fun _ _ present => present, fun _ _ _ _ _ => rfl, fun _ _ => rfl, start⟩

section Projection

variable {P : Platform} {inv : Cluster → Prop} {foot : Nat → Key → Prop} {tasks : List Task}
  {c : Cluster}
  (isLocal : ∀ i (task : Task), tasks[i]? = some task →
    task.prog.Always (Request.Local P inv (foot i)))
  (apart : ∀ i j, i ≠ j → ∀ k, foot i k → ¬ foot j k) (start : inv c)
include isLocal apart start

/-- One step of the schedule keeps the projection, with one more step for the task that moved. -/
theorem Projects.next {steps : Nat → Nat} {state : List Task × Cluster}
    (projects : Projects P inv foot tasks c steps state) (j : Nat) :
    Projects P inv foot tasks c (Function.update steps j (steps j + 1)) (gatherStep P state j) := by
  cases found : tasks[j]? with
  | none =>
    have absent : state.1[j]? = none := by
      rw [List.getElem?_eq_none_iff, projects.length]
      exact List.getElem?_eq_none_iff.mp found
    have other : ∀ i (task : Task), tasks[i]? = some task → i ≠ j := by
      rintro i task present rfl
      rw [found] at present
      cases present
    have unchanged : gatherStep P state j = state := by
      unfold gatherStep
      rw [absent]
    rw [unchanged]
    refine ⟨projects.length, fun i task present => ?_, fun i task present => ?_,
      projects.outside, projects.keep⟩ <;> rw [Function.update_noteq (other i task present)]
    · exact projects.task i task present
    · exact projects.inside i task present
  | some tj =>
    have moving := projects.task j tj found
    have tjLocal : (tj.solo P c (steps j)).1.prog.Always (Request.Local P inv (foot j)) :=
      Task.always_solo (isLocal j tj found) (steps j)
    obtain ⟨sameTask, sameFoot⟩ := Task.step_agree tjLocal projects.keep
      (Task.solo_keep (isLocal j tj found) start (steps j)) (projects.inside j tj found)
    have stepped : gatherStep P state j =
        (state.1.set j ((tj.solo P c (steps j)).1.step P state.2).1,
          ((tj.solo P c (steps j)).1.step P state.2).2) := by
      unfold gatherStep
      rw [moving]
    rw [stepped]
    refine ⟨by simp [projects.length], fun i task present => ?_, fun i task present k inFoot => ?_,
      fun k outside => ?_, Task.step_keep tjLocal projects.keep⟩
    · by_cases same : i = j
      · subst same
        rw [found, Option.some_inj] at present
        subst present
        have bound : i < state.1.length := by
          rw [projects.length]
          exact (List.getElem?_eq_some_iff.mp found).1
        rw [List.getElem?_set_self bound, Function.update_same, sameTask]
        rfl
      · rw [List.getElem?_set_ne (Ne.symm same), Function.update_noteq same]
        exact projects.task i task present
    · by_cases same : i = j
      · subst same
        rw [found, Option.some_inj] at present
        subst present
        rw [Function.update_same, sameFoot k inFoot]
        rfl
      · rw [Function.update_noteq same,
          Task.step_frame tjLocal projects.keep (apart i j same k inFoot)]
        exact projects.inside i task present k inFoot
    · rw [Task.step_frame tjLocal projects.keep (outside j tj found)]
      exact projects.outside k outside

/-- Along a schedule, the gather stays the projection of the lone runs, each task having taken
as many steps as the schedule names it. -/
theorem Projects.foldl {steps : Nat → Nat} {state : List Task × Cluster}
    (projects : Projects P inv foot tasks c steps state) (schedule : List Nat) :
    Projects P inv foot tasks c (fun i => steps i + schedule.count i)
      (schedule.foldl (gatherStep P) state) := by
  induction schedule generalizing steps state with
  | nil => exact projects
  | cons j schedule ih =>
    have counts : (fun i => Function.update steps j (steps j + 1) i + schedule.count i) =
        fun i => steps i + (j :: schedule).count i := by
      funext i
      by_cases same : i = j
      · subst same
        simp [List.count_cons]
        omega
      · simp [Function.update_noteq same, List.count_cons, Ne.symm same]
    rw [List.foldl_cons, ← counts]
    exact ih (projects.next isLocal apart start j)

theorem gather_projects (schedule : List Nat) :
    Projects P inv foot tasks c (fun i => 0 + schedule.count i) (gather P schedule tasks c) :=
  (Projects.initial start).foldl isLocal apart start schedule

theorem gather_keep (schedule : List Nat) : inv (gather P schedule tasks c).2 :=
  (gather_projects isLocal apart start schedule).keep

/-- After a schedule in which every task has finished, the cluster holds on each task's footprint
what the run of that task alone leaves there. -/
theorem gather_complete_get {schedule : List Nat}
    (done : (gather P schedule tasks c).1.all Task.finished = true) {i : Nat} {task : Task}
    (present : tasks[i]? = some task) {k : Key} (inFoot : foot i k) :
    (gather P schedule tasks c).2.get k = (task.prog.run P task.env c).cluster.get k := by
  have projects := gather_projects isLocal apart start schedule
  have moved := projects.task i task present
  rw [Nat.zero_add] at moved
  have finished := List.all_eq_true.mp done _ (List.getElem?_mem moved)
  obtain ⟨n, alone⟩ := Task.solo_run P task.prog task.env c
  have ended : (task.solo P c n).1.finished = true := by
    rw [alone]
    exact Task.finished_ofExcept _ _
  rw [projects.inside i task present k inFoot, Nat.zero_add,
    Task.solo_eq_of_finished finished ended, alone]

/-- **The gather is serialisable.**  After a schedule in which every task has finished, the
cluster is the one the tasks leave awaited one after another. -/
theorem gather_complete_sequential {schedule : List Nat}
    (done : (gather P schedule tasks c).1.all Task.finished = true) :
    (gather P schedule tasks c).2 = sequential P tasks c := by
  refine Store.ext fun k => ?_
  by_cases owned : ∃ i task, tasks[i]? = some task ∧ foot i k
  · obtain ⟨i, task, present, inFoot⟩ := owned
    rw [gather_complete_get isLocal apart start done present inFoot,
      sequential_get isLocal apart start present inFoot]
  · have outside : ∀ i (task : Task), tasks[i]? = some task → ¬ foot i k :=
      fun i task present inFoot => owned ⟨i, task, present, inFoot⟩
    rw [(gather_projects isLocal apart start schedule).outside k outside,
      (sequential_frame isLocal start).2 k outside]

/-- **Interleavings do not matter.**  Two schedules after which every task has finished leave
the cluster the same. -/
theorem gather_complete_eq {schedule schedule' : List Nat}
    (done : (gather P schedule tasks c).1.all Task.finished = true)
    (done' : (gather P schedule' tasks c).1.all Task.finished = true) :
    (gather P schedule tasks c).2 = (gather P schedule' tasks c).2 :=
  (gather_complete_sequential isLocal apart start done).trans
    (gather_complete_sequential isLocal apart start done').symm

end Projection

end Zenith
