import LintBridge.Proofs.Lists
import LintBridge.Proofs.Loop.Batches
import Mathlib.Algebra.GroupWithZero.Nat
import Mathlib.Algebra.Order.BigOperators.Group.List

/-! How much is left to do. Every turn that is asked for, every task and everyone who waits for an
attempt is given a number of turns that is enough for all that can follow from it. The sum is what
is left to do, and it is never more than what the session reckons with. -/

namespace LintBridge

/-- How many turns can follow from a turn of an attempt, with the turn itself: two if it is the
attempt's first. -/
def Resolver.turnsLeft (r : Resolver) (id : Nat) : Nat :=
  match r.phase? id with
  | some .begun => 3
  | _ => 1

/-- How many turns can follow from a turn before a task goes on, with the turn itself. -/
def Turn.worth (r : Resolver) : Turn → Nat
  | .attempt id => r.turnsLeft id
  | .rest id => r.turnsLeft id + 1
  | .relay _ => 2
  | _ => 1

/-- How many turns can follow from beginning a job while so many documents are open. A validation
asks for an attempt of three turns, is told of its outcome in two more, and tells the editor and
who waits for it in one each; a document of a batch takes one turn more to begin, and may be told of
in one more. -/
def Job.worth (size : Nat) : Job → Nat
  | .question _ => 0
  | .validateMany (some documents) => 9 * documents.length + 2
  | .validateMany none | .filesChanged | .watchedFilesChanged _ | .retry | .updateSettings _ =>
    9 * size + 2
  | _ => 7

/-- How many turns can follow from where a task stands. -/
def Stage.worth (size : Nat) (job : Job) : Stage → Nat
  | .ready => job.worth size
  | .resolving _ _ => 2
  | .gathering children _ => children.length + 2
  | .gathered children _ => children.length + 1
  | .answered _ => 9 * size + 2
  | _ => 0

/-- How many turns can follow from a task. -/
def Task.worth (size : Nat) (task : Task) : Nat :=
  task.stage.worth size task.job

/-- The validations that a task waits for, or has waited for. -/
def Stage.children : Stage → List Nat
  | .gathering children _ | .gathered children _ => children
  | _ => []

theorem Resolver.turnsLeft_congr {r r' : Resolver} (h : r'.phase? = r.phase?) :
    r'.turnsLeft = r.turnsLeft := by
  funext id
  simp only [turnsLeft, h]

theorem Turn.worth_congr {r r' : Resolver} (h : r'.phase? = r.phase?) :
    Turn.worth r' = Turn.worth r := by
  funext turn
  cases turn <;> simp [worth, Resolver.turnsLeft_congr h]

/-- A turn is worth no more once attempts have moved on. -/
theorem Turn.worth_mono {r r' : Resolver} (h : ∀ id, r'.turnsLeft id ≤ r.turnsLeft id)
    (turn : Turn) : turn.worth r' ≤ turn.worth r := by
  cases turn with
  | attempt id => exact h id
  | rest id => exact Nat.succ_le_succ (h id)
  | _ => exact Nat.le_refl _

namespace DocumentSource

/-- All open documents are as many as there are. -/
theorem length_all {source : DocumentSource} {fs : FileSystem} {ds : List Document}
    (h : source.all fs = .ok ds) : ds.length = source.size := by
  cases source with
  | nowhere =>
    obtain rfl := Except.ok.inj h
    rfl
  | given documents =>
    obtain rfl := Except.ok.inj h
    rfl
  | editor documents => exact (mapM_eq_ok_iff.mp h).length_eq.symm
  | detached => simp [all] at h

end DocumentSource

namespace Loop

/-- What is left to do: how many turns can follow from all that is asked for and awaited. -/
def work (l : Loop) : Nat :=
  (l.queue.map (Turn.worth l.session.resolver)).sum + 2 * l.waiting.length +
    (l.tasks.map (Task.worth l.documents.size)).sum

variable {l l' : Loop} {t : Nat} {task : Task}

/-- What is added to the turns and to the tasks adds to what is left to do. -/
theorem work_append (l l' : Loop) (turns : List Turn) (tasks : List Task)
    (phases : l'.session.resolver.phase? = l.session.resolver.phase?)
    (queue : l'.queue = l.queue ++ turns) (waiting : l'.waiting.length = l.waiting.length)
    (added : l'.tasks = l.tasks ++ tasks) (documents : l'.documents = l.documents) :
    l'.work = l.work + (turns.map (Turn.worth l.session.resolver)).sum +
      (tasks.map (Task.worth l.documents.size)).sum := by
  simp only [work, queue, waiting, added, documents, Turn.worth_congr phases, List.map_append,
    List.sum_append]
  omega

theorem work_of_eq (phases : l'.session.resolver.phase? = l.session.resolver.phase?)
    (queue : l'.queue = l.queue) (waiting : l'.waiting.length = l.waiting.length)
    (tasks : l'.tasks = l.tasks) (documents : l'.documents = l.documents) : l'.work = l.work := by
  simp only [work, queue, waiting, tasks, documents, Turn.worth_congr phases]

/-- The order of the turns does not matter. -/
theorem work_perm {queue : List Turn} {turn : Turn} (h : queue.Perm (turn :: l.queue)) :
    ({ l with queue := queue } : Loop).work = l.work + turn.worth l.session.resolver := by
  have hsum := (h.map (Turn.worth l.session.resolver)).sum_eq
  rw [List.map_cons, List.sum_cons] at hsum
  simp only [work, hsum]
  omega

theorem sum_map_modify {α : Type} (f : α → Nat) (g : α → α) {as : List α} {i : Nat} {a : α}
    (h : as[i]? = some a) :
    ((as.modify i g).map f).sum + f a = (as.map f).sum + f (g a) := by
  induction as generalizing i with
  | nil => simp at h
  | cons b as ih =>
    cases i with
    | zero =>
      obtain rfl : b = a := by simpa using h
      simp only [List.modify_zero_cons, List.map_cons, List.sum_cons]
      omega
    | succ i =>
      have hrest := ih (i := i) (by simpa using h)
      simp only [List.modify_succ_cons, List.map_cons, List.sum_cons]
      omega

/-- A task that goes on is worth what its new place is worth. -/
theorem work_setStage (ht : l.tasks[t]? = some task) (s : Stage) :
    (l.setStage t s).work + task.worth l.documents.size =
      l.work + s.worth l.documents.size task.job := by
  have hsum := sum_map_modify (Task.worth l.documents.size)
    (fun task => { task with stage := s }) ht
  have hnew : Task.worth l.documents.size { task with stage := s } =
      s.worth l.documents.size task.job := rfl
  rw [hnew] at hsum
  simp only [work, setStage]
  omega

/-! ### What a session reckons with -/

theorem foldl_size (tasks : List Task) (n : Nat) :
    tasks.foldl (fun n task => n + Job.size task.job) n =
      n + (tasks.map fun task => Job.size task.job).sum := by
  induction tasks generalizing n with
  | nil => rfl
  | cons task tasks ih =>
    rw [List.foldl_cons, ih, List.map_cons, List.sum_cons]
    omega

theorem one_le_size (job : Job) : 1 ≤ Job.size job := by
  cases job with
  | validateMany documents =>
    cases documents with
    | none => exact Nat.le_refl 1
    | some documents => exact Nat.succ_le_succ (Nat.zero_le _)
  | _ => exact Nat.le_refl 1

theorem length_le_sizes (tasks : List Task) :
    tasks.length ≤ (tasks.map fun task => Job.size task.job).sum := by
  induction tasks with
  | nil => exact Nat.le_refl 0
  | cons task tasks ih =>
    have hone := one_le_size task.job
    rw [List.length_cons, List.map_cons, List.sum_cons]
    omega

end Loop

end LintBridge
