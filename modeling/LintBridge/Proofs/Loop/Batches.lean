import Mathlib.Data.List.Perm.Basic
import LintBridge.Proofs.Loop.Closing

/-! Batches wait for all they have started. A batch counts down the reports that it takes in; what
it has still to count is at least the number of its validations that are not done and of the
reports that are on their way. So when the last report is taken in, all its validations are done,
and none has ended with a fault. -/

namespace LintBridge

/-! ### Where tasks can stand -/

/-- Does a job start validations of many documents? -/
def Job.IsBatch : Job → Prop
  | .validateMany _ | .filesChanged | .watchedFilesChanged _ | .retry | .updateSettings _
  | .question _ => True
  | _ => False

/-- Does a job validate one document? -/
def Job.IsValidation : Job → Prop
  | .validate _ | .validateSingle _ | .validateOpen _ => True
  | _ => False

/-- Is a job one that tells the user of failures, its own or those of what it starts? -/
def Job.IsOperation : Job → Prop
  | .resolve _ | .validate _ => False
  | _ => True

/-- Does a job tell the user of the error with which its validation ends? -/
def Job.Tells : Job → Prop
  | .validateSingle _ | .validateOpen _ => True
  | _ => False

/-- Does a job go on like this once its workspace is resolved? -/
def Continuation.Fits (job : Job) : Continuation → Prop
  | .answer => ∃ root, job = .resolve root
  | .warmUp => job = .warmUp
  | .conclude _ told => job.IsValidation ∧ (told = true ↔ job.Tells)

/-- Can a job come to this result? -/
def TaskResult.Fits (job : Job) : TaskResult → Prop
  | .raised _ => True
  | .outcome _ => ∃ root, job = .resolve root
  | .nothing => job = .warmUp ∨ ∃ message, job = .question message
  | .validation _ => job.IsValidation
  | .validations _ => job.IsBatch

/-- Can a task with this job stand there? -/
def Stage.Fits (job : Job) : Stage → Prop
  | .ready | .leaving | .cancelled => True
  | .resolving _ k => k.Fits job
  | .gathering _ _ | .gathered _ _ => job.IsBatch
  | .asking _ | .answered _ => ∃ message, job = .question message
  | .done r => r.Fits job

/-- Can a task that stands there have started validations? -/
def Stage.IsParent : Stage → Prop
  | .ready | .resolving _ _ | .asking _ | .answered _ => False
  | .done (.validations _) | .done (.raised _) => True
  | .done _ => False
  | _ => True

/-- Has a task come to a result? -/
def Stage.isDone : Stage → Bool
  | .done _ => true
  | _ => false

/-- Is a turn one in which a task takes in a report? -/
def Turn.isReport : Turn → Bool
  | .report _ _ => true
  | _ => false

/-- Is a turn one in which this task takes in a report? -/
def Turn.reportsTo (p : Nat) : Turn → Bool
  | .report p' _ => p' == p
  | _ => false

namespace Loop

/-- How many validations that a task has started are not done or have a report on its way. -/
def pending (l : Loop) (p : Nat) : Nat :=
  l.tasks.countP (fun task => task.listener == .task p && !task.stage.isDone) +
    l.queue.countP (Turn.reportsTo p)

/-- Every task stands where its job can stand, and batches count what they wait for; of the task in
hand it is not said how it stands to the validations that it has started. -/
structure Gathers (hand : Option Nat) (l : Loop) : Prop where
  fits : ∀ (t : Nat) (task : Task), l.tasks[t]? = some task → task.stage.Fits task.job
  child : ∀ (c : Nat) (task : Task) (p : Nat), l.tasks[c]? = some task → task.listener = .task p →
    (∃ d, task.job = .validate d) ∧ (hand ≠ some p → ∃ s, l.stage? p = some s ∧ s.IsParent)
  reports : ∀ p c, .report p c ∈ l.queue → l.listener? c = some (.task p)
  gathering : ∀ p children missing, hand ≠ some p →
    l.stage? p = some (.gathering children missing) → l.pending p ≤ missing ∧
      ∀ c, l.listener? c = some (.task p) → c ∈ children ∧
        ∀ e, l.result? c = some (.raised e) → .report p c ∈ l.queue
  gathered : ∀ p children, l.stage? p = some (.gathered children none) →
    ∀ c, l.listener? c = some (.task p) → c ∈ children ∧
      ∃ r, l.result? c = some (.validation r)
  ended : ∀ p rs, l.result? p = some (.validations rs) →
    ∀ c, l.listener? c = some (.task p) → ∃ r, l.result? c = some (.validation r)

variable {hand : Option Nat} {l l' : Loop} {t p : Nat} {task : Task}

theorem gathers_fresh (host : Host) (session : Session) (documents : DocumentSource)
    (asks : Bool) : Gathers none (fresh host session documents asks) where
  fits t task ht := by simp [fresh] at ht
  child c task p ht := by simp [fresh] at ht
  reports p c hr := by simp [fresh] at hr
  gathering p children missing _ hs := by simp [stage?, fresh] at hs
  gathered p children hs := by simp [stage?, fresh] at hs
  ended p rs hr := by simp [result?, stage?, fresh] at hr

theorem listener?_of_task (h : l.tasks[t]? = some task) : l.listener? t = some task.listener := by
  rw [listener?, h]
  rfl

/-! ### Changes that leave tasks where they stand -/

/-- A change that adds no task but for itself, and asks for no turn in which a report is taken in.
-/
structure Idle (l l' : Loop) : Prop where
  tasks : ∃ new, l'.tasks = l.tasks ++ new ∧
    ∀ t ∈ new, t.stage = .ready ∧ ∀ p, t.listener ≠ .task p
  reports : (l'.queue.filter Turn.isReport).Perm (l.queue.filter Turn.isReport)

theorem Idle.of_eq (tasks : l'.tasks = l.tasks) (queue : l'.queue = l.queue) : Idle l l' :=
  ⟨⟨[], by simp [tasks]⟩, .of_eq (by rw [queue])⟩

theorem Idle.refl (l : Loop) : Idle l l := .of_eq rfl rfl

theorem Idle.trans {l'' : Loop} (h : Idle l l') (h' : Idle l' l'') : Idle l l'' := by
  obtain ⟨new, ht, hn⟩ := h.tasks
  obtain ⟨new', ht', hn'⟩ := h'.tasks
  refine ⟨⟨new ++ new', by rw [ht', ht, List.append_assoc], fun t hm => ?_⟩,
    h'.reports.trans h.reports⟩
  exact (List.mem_append.mp hm).elim (hn t) (hn' t)

theorem Idle.task? (h : Idle l l') (ht : l.tasks[t]? = some task) : l'.tasks[t]? = some task := by
  obtain ⟨new, hnew, -⟩ := h.tasks
  rw [hnew, List.getElem?_append_left (List.getElem?_eq_some_iff.mp ht).1, ht]

/-- A task that is there was there, or has not begun and reports to nobody. -/
theorem Idle.task?_cases (h : Idle l l') (ht : l'.tasks[t]? = some task) :
    l.tasks[t]? = some task ∨ l.tasks.length ≤ t ∧ task.stage = .ready ∧
      ∀ p, task.listener ≠ .task p := by
  obtain ⟨new, hnew, hready⟩ := h.tasks
  rw [hnew, List.getElem?_append] at ht
  split at ht
  · exact .inl ht
  · rename_i hge
    exact .inr ⟨Nat.le_of_not_lt hge, hready task (List.mem_of_getElem? ht)⟩

theorem Idle.stage?_cases (h : Idle l l') {s : Stage} (hs : l'.stage? t = some s) :
    l.stage? t = some s ∨ s = .ready := by
  obtain ⟨task, ht, rfl⟩ := Option.map_eq_some_iff.mp hs
  obtain hold | ⟨-, hready, -⟩ := h.task?_cases ht
  · exact .inl (stage?_of_task hold)
  · exact .inr hready

theorem Idle.stage? (h : Idle l l') {s : Stage} (hs : l.stage? t = some s) :
    l'.stage? t = some s := by
  obtain ⟨task, ht, rfl⟩ := Option.map_eq_some_iff.mp hs
  exact stage?_of_task (h.task? ht)

theorem Idle.listener? (h : Idle l l') (hl : l'.listener? t = some (.task p)) :
    l.listener? t = some (.task p) := by
  obtain ⟨task, ht, htask⟩ := Option.map_eq_some_iff.mp hl
  obtain hold | ⟨-, -, hnone⟩ := h.task?_cases ht
  · rw [listener?_of_task hold, htask]
  · exact absurd htask (hnone p)

theorem Idle.listener?_old (h : Idle l l') (hl : l.listener? t = some (.task p)) :
    l'.listener? t = some (.task p) := by
  obtain ⟨task, ht, htask⟩ := Option.map_eq_some_iff.mp hl
  rw [listener?_of_task (h.task? ht), htask]

theorem Idle.result? (h : Idle l l') {r : TaskResult} :
    l'.result? t = some r ↔ l.result? t = some r := by
  simp only [result?_eq_some]
  constructor
  · intro hs
    obtain hold | hready := h.stage?_cases hs
    · exact hold
    · simp at hready
  · exact h.stage?

theorem Idle.mem_queue (h : Idle l l') {c : Nat} :
    .report p c ∈ l'.queue ↔ .report p c ∈ l.queue := by
  have hmem : ∀ q : List Turn, .report p c ∈ q ↔ .report p c ∈ q.filter Turn.isReport := by
    simp [Turn.isReport]
  rw [hmem l'.queue, hmem l.queue, h.reports.mem_iff]

theorem Idle.pending (h : Idle l l') (p : Nat) : l'.pending p = l.pending p := by
  obtain ⟨new, hnew, hready⟩ := h.tasks
  have hnone : new.countP (fun task => task.listener == .task p && !task.stage.isDone) = 0 := by
    rw [List.countP_eq_zero]
    intro task hm
    simp [(hready task hm).2 p]
  have hcount : ∀ q : List Turn, q.countP (Turn.reportsTo p) =
      (q.filter Turn.isReport).countP (Turn.reportsTo p) := by
    intro q
    rw [List.countP_filter]
    congr 1
    funext turn
    cases turn <;> simp [Turn.reportsTo, Turn.isReport]
  rw [Loop.pending, Loop.pending, hnew, List.countP_append, hnone, Nat.add_zero,
    hcount l'.queue, hcount l.queue, h.reports.countP_eq]

theorem Gathers.idle (hg : Gathers hand l) (h : Idle l l') : Gathers hand l' where
  fits t task ht := by
    obtain hold | ⟨-, hready, -⟩ := h.task?_cases ht
    · exact hg.fits t task hold
    · rw [hready]
      trivial
  child c task p ht hp := by
    obtain hold | ⟨-, -, hnone⟩ := h.task?_cases ht
    · obtain ⟨hjob, hparent⟩ := hg.child c task p hold hp
      refine ⟨hjob, fun hhand => ?_⟩
      obtain ⟨s, hs, hparent⟩ := hparent hhand
      exact ⟨s, h.stage? hs, hparent⟩
    · exact absurd hp (hnone p)
  reports p c hr := h.listener?_old (hg.reports p c (h.mem_queue.mp hr))
  gathering p children missing hhand hs := by
    obtain hold | hready := h.stage?_cases hs
    · obtain ⟨hle, hall⟩ := hg.gathering p children missing hhand hold
      refine ⟨(h.pending p).symm ▸ hle, fun c hc => ?_⟩
      obtain ⟨hin, hraised⟩ := hall c (h.listener? hc)
      exact ⟨hin, fun e he => h.mem_queue.mpr (hraised e (h.result?.mp he))⟩
    · simp at hready
  gathered p children hs := by
    obtain hold | hready := h.stage?_cases hs
    · intro c hc
      obtain ⟨hin, r, hr⟩ := hg.gathered p children hold c (h.listener? hc)
      exact ⟨hin, r, h.result?.mpr hr⟩
    · simp at hready
  ended p rs hr c hc := by
    obtain ⟨r, hr⟩ := hg.ended p rs (h.result?.mp hr) c (h.listener? hc)
    exact ⟨r, h.result?.mpr hr⟩

/-! ### Putting a task into another place -/

theorem countP_modify {α : Type} (q : α → Bool) (f : α → α) {as : List α} {i : Nat} {a : α}
    (h : as[i]? = some a) : (as.modify i f).countP q + (if q a then 1 else 0) =
      as.countP q + (if q (f a) then 1 else 0) := by
  induction as generalizing i with
  | nil => simp at h
  | cons b as ih =>
    cases i with
    | zero =>
      obtain rfl : b = a := by simpa using h
      simp only [List.modify_zero_cons, List.countP_cons]
      omega
    | succ i =>
      have hrest := ih (i := i) (by simpa using h)
      simp only [List.modify_succ_cons, List.countP_cons]
      omega

theorem task?_setStage_self (ht : l.tasks[t]? = some task) (s : Stage) :
    (l.setStage t s).tasks[t]? = some { task with stage := s } := by
  simp [setStage, ht]

theorem listener?_setStage (t t' : Nat) (s : Stage) :
    (l.setStage t s).listener? t' = l.listener? t' := by
  by_cases hne : t = t'
  · subst hne
    cases ht : l.tasks[t]? with
    | none => simp [listener?, setStage, ht]
    | some task => rw [listener?, task?_setStage_self ht, listener?, ht]; rfl
  · rw [listener?, task?_setStage_of_ne hne, listener?]

/-- A task that goes on from one place to another, neither of which is an end, keeps the count. -/
theorem pending_setStage (ht : l.tasks[t]? = some task) {s : Stage}
    (hs : s.isDone = task.stage.isDone) (p : Nat) : (l.setStage t s).pending p = l.pending p := by
  have hcount := countP_modify (fun task => task.listener == .task p && !task.stage.isDone)
    (fun task => { task with stage := s }) ht
  simp only [hs] at hcount
  simp only [pending, setStage]
  omega

theorem isDone_of_isOver {s : Stage} (h : s.isOver = false) : s.isDone = false := by
  cases s <;> simp_all [Stage.isOver, Stage.isDone]

theorem hand_ne (hhand : hand = none ∨ hand = some t) (hne : t ≠ p) : hand ≠ some p := by
  rintro rfl
  obtain hn | hn := hhand <;> simp_all

/-- A task that is put where its job can stand leaves every task so. -/
theorem Gathers.fits_put (hg : Gathers hand l) (ht : l.tasks[t]? = some task) {s : Stage}
    (hs : s.Fits task.job) (t' : Nat) (task' : Task)
    (ht' : (l.setStage t s).tasks[t']? = some task') : task'.stage.Fits task'.job := by
  by_cases hne : t = t'
  · subst hne
    obtain rfl := Option.some.inj ((task?_setStage_self ht s).symm.trans ht')
    exact hs
  · exact hg.fits t' task' ((task?_setStage_of_ne hne s).symm.trans ht')

/-- A task that is put where it can have started validations, or has started none, leaves every
validation with who waits for it. -/
theorem Gathers.child_put (hg : Gathers hand l) (hhand : hand = none ∨ hand = some t)
    (ht : l.tasks[t]? = some task) {s : Stage}
    (hparent : s.IsParent ∨ ∀ c, l.listener? c ≠ some (.task t)) (c : Nat) (task' : Task) (p : Nat)
    (hc : (l.setStage t s).tasks[c]? = some task') (hp : task'.listener = .task p) :
    (∃ d, task'.job = .validate d) ∧
      ∃ s', (l.setStage t s).stage? p = some s' ∧ s'.IsParent := by
  obtain ⟨task₀, hc₀, hjob, hlistener⟩ : ∃ task₀, l.tasks[c]? = some task₀ ∧
      task₀.job = task'.job ∧ task₀.listener = task'.listener := by
    by_cases hne : t = c
    · subst hne
      obtain rfl := Option.some.inj ((task?_setStage_self ht s).symm.trans hc)
      exact ⟨task, ht, rfl, rfl⟩
    · exact ⟨task', (task?_setStage_of_ne hne s).symm.trans hc, rfl, rfl⟩
  obtain ⟨hvalidates, hstands⟩ := hg.child c task₀ p hc₀ (hlistener.trans hp)
  refine ⟨hjob ▸ hvalidates, ?_⟩
  by_cases hne : t = p
  · subst hne
    refine ⟨s, stage?_setStage_self (List.getElem?_eq_some_iff.mp ht).1 s,
      hparent.resolve_right fun hnone => ?_⟩
    exact hnone c (by rw [listener?_of_task hc₀, hlistener, hp])
  · rw [stage?_setStage_of_ne hne]
    exact hstands (hand_ne hhand hne)

theorem Gathers.put (hg : Gathers hand l) (hhand : hand = none ∨ hand = some t)
    (ht : l.tasks[t]? = some task) (hopen : task.stage.isOver = false) {s : Stage}
    (hs : s.isDone = false) (hfits : s.Fits task.job)
    (hparent : s.IsParent ∨ ∀ c, l.listener? c ≠ some (.task t))
    (hgathering : ∀ children missing, s = .gathering children missing → l.pending t ≤ missing ∧
      ∀ c, l.listener? c = some (.task t) → c ∈ children ∧
        ∀ e, l.result? c = some (.raised e) → .report t c ∈ l.queue)
    (hgathered : ∀ children, s = .gathered children none →
      ∀ c, l.listener? c = some (.task t) → c ∈ children ∧
        ∃ r, l.result? c = some (.validation r)) : Gathers none (l.setStage t s) := by
  have hdone := isDone_of_isOver hopen
  have hself := stage?_setStage_self (List.getElem?_eq_some_iff.mp ht).1 s
  have hother : ∀ p, t ≠ p → (l.setStage t s).stage? p = l.stage? p :=
    fun p hne => stage?_setStage_of_ne hne s
  have hresult : ∀ c r, (l.setStage t s).result? c = some r ↔ l.result? c = some r := by
    intro c r
    simp only [result?_eq_some]
    by_cases hne : t = c
    · subst hne
      rw [hself, stage?_of_task ht]
      constructor
      · intro h
        rw [Option.some.inj h] at hs
        simp [Stage.isDone] at hs
      · intro h
        rw [Option.some.inj h] at hdone
        simp [Stage.isDone] at hdone
    · rw [hother c hne]
  refine ⟨hg.fits_put ht hfits, fun c task' p hc hp => ?_, fun p c hr => ?_,
    fun p children missing _ hstage => ?_, fun p children hstage c hc => ?_,
    fun p rs hr c hc => ?_⟩
  · exact (hg.child_put hhand ht hparent c task' p hc hp).imp_right fun h _ => h
  · rw [listener?_setStage]
    exact hg.reports p c hr
  · rw [pending_setStage ht (hs.trans hdone.symm)]
    simp only [listener?_setStage, hresult]
    by_cases hne : t = p
    · subst hne
      exact hgathering children missing (Option.some.inj (hself.symm.trans hstage))
    · rw [hother p hne] at hstage
      exact hg.gathering p children missing (hand_ne hhand hne) hstage
  · rw [listener?_setStage] at hc
    simp only [hresult]
    by_cases hne : t = p
    · subst hne
      exact hgathered children (Option.some.inj (hself.symm.trans hstage)) c hc
    · rw [hother p hne] at hstage
      exact hg.gathered p children hstage c hc
  · rw [listener?_setStage] at hc
    simp only [hresult] at hr ⊢
    exact hg.ended p rs hr c hc

/-! ### Coming to an end -/

/-- The report that a task makes when it comes to its end. -/
def reportOf (t : Nat) : Listener → List Turn
  | .task p => [.report p t]
  | _ => []

theorem mem_reportOf {a : Listener} {c : Nat} :
    .report p c ∈ reportOf t a ↔ a = .task p ∧ c = t := by
  cases a <;> simp [reportOf, eq_comm]

/-- A validation that is done is counted by its report. -/
theorem pending_done (ht : l.tasks[t]? = some task) (hdone : task.stage.isDone = false)
    (r : TaskResult) (p : Nat) :
    ({ l.setStage t (.done r) with
      queue := l.queue ++ reportOf t task.listener } : Loop).pending p = l.pending p := by
  have hcount := countP_modify (fun task => task.listener == .task p && !task.stage.isDone)
    (fun task => { task with stage := .done r }) ht
  have hone : (reportOf t task.listener).countP (Turn.reportsTo p) =
      if task.listener = .task p then 1 else 0 := by
    cases hl : task.listener <;> simp [reportOf, Turn.reportsTo, List.countP_cons]
  have hend : (Stage.done r).isDone = true := rfl
  simp only [hdone, hend, Bool.not_true, Bool.and_false, Bool.not_false, Bool.and_true,
    Bool.false_eq_true, if_false, Nat.add_zero, beq_iff_eq] at hcount
  simp only [pending, List.countP_append, hone, setStage]
  omega

/-- A task comes to its end and has its report on its way. -/
theorem Gathers.done (hg : Gathers hand l) (hhand : hand = none ∨ hand = some t)
    (ht : l.tasks[t]? = some task) (hopen : task.stage.isOver = false) {r : TaskResult}
    (hfits : r.Fits task.job)
    (hparent : (Stage.done r).IsParent ∨ ∀ c, l.listener? c ≠ some (.task t))
    (hbatch : ∀ rs, r = .validations rs → ∀ c, l.listener? c = some (.task t) →
      ∃ r, l.result? c = some (.validation r)) :
    Gathers none { l.setStage t (.done r) with queue := l.queue ++ reportOf t task.listener } := by
  have hdone := isDone_of_isOver hopen
  have hpending := pending_done ht hdone r
  generalize hl' : ({ l.setStage t (.done r) with
    queue := l.queue ++ reportOf t task.listener } : Loop) = l' at hpending ⊢
  have htasks : l'.tasks = (l.setStage t (.done r)).tasks := by
    rw [← hl']
  have hself : l'.stage? t = some (.done r) := by
    rw [stage?, htasks]
    exact stage?_setStage_self (List.getElem?_eq_some_iff.mp ht).1 _
  have hstage : ∀ t', t ≠ t' → l'.stage? t' = l.stage? t' := by
    intro t' hne
    rw [stage?, htasks, task?_setStage_of_ne hne, stage?]
  have hlistener : ∀ t', l'.listener? t' = l.listener? t' := by
    intro t'
    rw [listener?, htasks, ← listener?, listener?_setStage]
  have hresult : ∀ c, t ≠ c → l'.result? c = l.result? c := by
    intro c hne
    simp only [result?, hstage c hne]
  have hmine : l'.result? t = some r := result?_eq_some.mpr hself
  have hunfinished : l.result? t = none := by
    simp only [result?, stage?_of_task ht]
    cases hs : task.stage <;> simp_all [Stage.isDone]
  have hqueue : ∀ turn, turn ∈ l'.queue ↔ turn ∈ l.queue ∨ turn ∈ reportOf t task.listener := by
    intro turn
    rw [← hl']
    exact List.mem_append
  refine ⟨fun t' task' ht' => ?_, fun c task' p hc hp => ?_, fun p c hr => ?_,
    fun p children missing _ hp => ?_, fun p children hp c hc => ?_, fun p rs hr c hc => ?_⟩
  · have hplace : (Stage.done r).Fits task.job := hfits
    exact hg.fits_put ht hplace t' task' (htasks ▸ ht')
  · obtain ⟨hvalidates, hstands⟩ := hg.child_put hhand ht hparent c task' p (htasks ▸ hc) hp
    refine ⟨hvalidates, fun _ => ?_⟩
    rwa [stage?, htasks]
  · rw [hlistener]
    obtain hr | hr := (hqueue _).mp hr
    · exact hg.reports p c hr
    · obtain ⟨hl, rfl⟩ := mem_reportOf.mp hr
      rw [listener?_of_task ht, hl]
  · have hne : t ≠ p := by
      rintro rfl
      simp [hself] at hp
    rw [hstage p hne] at hp
    obtain ⟨hle, hall⟩ := hg.gathering p children missing (hand_ne hhand hne) hp
    refine ⟨(hpending p).symm ▸ hle, fun c hc => ?_⟩
    rw [hlistener] at hc
    obtain ⟨hin, hraised⟩ := hall c hc
    refine ⟨hin, fun e he => (hqueue _).mpr ?_⟩
    by_cases hne : t = c
    · subst hne
      exact .inr (mem_reportOf.mpr ⟨Option.some.inj ((listener?_of_task ht).symm.trans hc), rfl⟩)
    · exact .inl (hraised e ((hresult c hne).symm.trans he))
  · have hne : t ≠ p := by
      rintro rfl
      simp [hself] at hp
    rw [hstage p hne] at hp
    rw [hlistener] at hc
    obtain ⟨hin, r', hr'⟩ := hg.gathered p children hp c hc
    have hnc : t ≠ c := by
      rintro rfl
      simp [hunfinished] at hr'
    exact ⟨hin, r', (hresult c hnc).trans hr'⟩
  · rw [hlistener] at hc
    obtain ⟨r', hr'⟩ : ∃ r', l.result? c = some (.validation r') := by
      by_cases hne : t = p
      · subst hne
        exact hbatch rs (Option.some.inj (hmine.symm.trans hr)) c hc
      · exact hg.ended p rs ((hresult p hne).symm.trans hr) c hc
    have hnc : t ≠ c := by
      rintro rfl
      simp [hunfinished] at hr'
    exact ⟨r', (hresult c hnc).trans hr'⟩

theorem Gathers.finish (hg : Gathers hand l) (hhand : hand = none ∨ hand = some t)
    (ht : l.tasks[t]? = some task) (hopen : task.stage.isOver = false) {r : TaskResult}
    (hfits : r.Fits task.job)
    (hparent : (Stage.done r).IsParent ∨ ∀ c, l.listener? c ≠ some (.task t))
    (hbatch : ∀ rs, r = .validations rs → ∀ c, l.listener? c = some (.task t) →
      ∃ r, l.result? c = some (.validation r)) : Gathers none (l.finish t r) := by
  have hdone := hg.done hhand ht hopen hfits hparent hbatch
  simp only [Loop.finish, task?_setStage_self ht, Option.map_some]
  cases hl : task.listener with
  | task p =>
    rw [hl] at hdone
    exact hdone
  | nobody =>
    rw [hl] at hdone
    exact hdone.idle (.of_eq rfl (List.append_nil _).symm)
  | editor =>
    rw [hl] at hdone
    have hplain : Gathers none (l.setStage t (.done r)) :=
      hdone.idle (.of_eq rfl (List.append_nil _).symm)
    cases r with
    | raised e =>
      refine hplain.idle ⟨⟨[], by simp [enqueue], by simp⟩, ?_⟩
      simp [enqueue, Turn.isReport]
    | _ => exact hplain

/-! ### Starting validations -/

theorem spawnAll_eq (l : Loop) (listener : Listener) (jobs : List Job) :
    l.spawnAll listener jobs = ({ l with
        tasks := l.tasks ++ jobs.map fun job => ⟨job, listener, .ready⟩
        queue := l.queue ++ (List.range' l.tasks.length jobs.length).map .start },
      List.range' l.tasks.length jobs.length) := by
  induction jobs generalizing l with
  | nil => simp [spawnAll]
  | cons job jobs ih =>
    rw [spawnAll, ih]
    simp [spawn, addTask, enqueue, List.range'_succ]

theorem filter_isReport_starts (ts : List Nat) :
    (ts.map Turn.start).filter Turn.isReport = [] := by
  simp [List.filter_eq_nil_iff, Turn.isReport]

/-- The loop in which a task has started validations. -/
def started (l : Loop) (t : Nat) (documents : List Document) (starts : List Turn) : Loop :=
  { l with
    tasks := l.tasks ++ documents.map fun d => ⟨.validate d, .task t, .ready⟩
    queue := l.queue ++ starts }

theorem spawnAll_validate (l : Loop) (t : Nat) (documents : List Document) :
    l.spawnAll (.task t) (documents.map .validate) =
      (l.started t documents ((List.range' l.tasks.length documents.length).map .start),
        List.range' l.tasks.length documents.length) := by
  rw [spawnAll_eq, started, List.map_map, List.length_map]
  rfl

theorem started_old {documents : List Document} {starts : List Turn} {c : Nat}
    (hc : c < l.tasks.length) : (l.started t documents starts).tasks[c]? = l.tasks[c]? :=
  List.getElem?_append_left hc

theorem started_new {documents : List Document} {starts : List Turn} {c : Nat}
    (hc : l.tasks.length ≤ c) (h : (l.started t documents starts).tasks[c]? = some task) :
    c < l.tasks.length + documents.length ∧ ∃ d, task = ⟨.validate d, .task t, .ready⟩ := by
  rw [started, List.getElem?_append_right hc] at h
  have hbound := (List.getElem?_eq_some_iff.mp h).1
  obtain ⟨d, -, rfl⟩ := List.mem_map.mp (List.mem_of_getElem? h)
  rw [List.length_map] at hbound
  exact ⟨by omega, d, rfl⟩

theorem started_stage? {documents : List Document} {starts : List Turn} {s : Stage}
    (h : (l.started t documents starts).stage? p = some s) :
    l.stage? p = some s ∨ s = .ready := by
  obtain ⟨task, htask, rfl⟩ := Option.map_eq_some_iff.mp h
  by_cases hp : p < l.tasks.length
  · rw [started_old hp] at htask
    exact .inl (stage?_of_task htask)
  · obtain ⟨-, d, rfl⟩ := started_new (Nat.le_of_not_lt hp) htask
    exact .inr rfl

/-- Those who report to another task were there. -/
theorem started_listener? {documents : List Document} {starts : List Turn} {c : Nat}
    (h : (l.started t documents starts).listener? c = some (.task p)) :
    l.listener? c = some (.task p) ∨
      p = t ∧ l.tasks.length ≤ c ∧ c < l.tasks.length + documents.length := by
  obtain ⟨task, htask, hp⟩ := Option.map_eq_some_iff.mp h
  by_cases hc : c < l.tasks.length
  · rw [started_old hc] at htask
    exact .inl (by rw [listener?_of_task htask, hp])
  · obtain ⟨hlt, d, rfl⟩ := started_new (Nat.le_of_not_lt hc) htask
    exact .inr ⟨(Listener.task.inj hp).symm, Nat.le_of_not_lt hc, hlt⟩

theorem started_result? {documents : List Document} {starts : List Turn} {c : Nat}
    {r : TaskResult} : (l.started t documents starts).result? c = some r ↔
      l.result? c = some r := by
  simp only [result?_eq_some]
  constructor
  · intro h
    obtain hold | hready := started_stage? h
    · exact hold
    · simp at hready
  · intro h
    rw [stage?, started_old (stage?_lt h), ← stage?, h]

/-- With each validation that it has started a task waits for one more. -/
theorem started_pending {documents : List Document} {starts : List Turn}
    (hstarts : starts.filter Turn.isReport = []) (p : Nat) :
    (l.started t documents starts).pending p =
      l.pending p + if p = t then documents.length else 0 := by
  have hnone : starts.countP (Turn.reportsTo p) = 0 := by
    rw [List.countP_eq_zero]
    intro turn hm hcount
    have hreport : turn ∈ starts.filter Turn.isReport :=
      List.mem_filter.mpr ⟨hm, by cases turn <;> simp_all [Turn.reportsTo, Turn.isReport]⟩
    rw [hstarts] at hreport
    simp at hreport
  have hnew : (documents.map fun d => (⟨.validate d, .task t, .ready⟩ : Task)).countP
      (fun task => task.listener == .task p && !task.stage.isDone) =
        if p = t then documents.length else 0 := by
    rw [List.countP_map]
    by_cases hp : p = t
    · subst hp
      simp [Function.comp_def, Stage.isDone]
    · have hne : ¬ t = p := fun h => hp h.symm
      simp [Function.comp_def, hp, hne]
  simp only [pending, started, List.countP_append, hnone, hnew]
  omega

theorem Gathers.started (hg : Gathers none l) (ht : l.tasks[t]? = some task)
    (hparent : ¬ task.stage.IsParent)
    {documents : List Document} {starts : List Turn}
    (hstarts : starts.filter Turn.isReport = []) :
    Gathers (some t) (l.started t documents starts) := by
  have hqueue : ∀ p c, .report p c ∈ (l.started t documents starts).queue ↔
      .report p c ∈ l.queue := by
    intro p c
    refine List.mem_append.trans ⟨fun h => h.resolve_right fun hr => ?_, .inl⟩
    have hreport : .report p c ∈ starts.filter Turn.isReport :=
      List.mem_filter.mpr ⟨hr, rfl⟩
    rw [hstarts] at hreport
    simp at hreport
  have hstays : ∀ p s, l.stage? p = some s →
      (l.started t documents starts).stage? p = some s := by
    intro p s hs
    rw [stage?, started_old (stage?_lt hs), ← stage?, hs]
  have hkeeps : ∀ p c, l.listener? c = some (.task p) →
      (l.started t documents starts).listener? c = some (.task p) := by
    intro p c hc
    rw [listener?, started_old (listener?_lt hc), ← listener?, hc]
  have hother : ∀ {p s}, l.stage? p = some s → s.IsParent → p ≠ t := by
    rintro p s hs hp rfl
    rw [stage?_of_task ht] at hs
    exact hparent (Option.some.inj hs ▸ hp)
  have hlistener : ∀ {p c}, p ≠ t → (l.started t documents starts).listener? c = some (.task p) →
      l.listener? c = some (.task p) :=
    fun hne hc => (started_listener? hc).resolve_right fun h => hne h.1
  refine ⟨fun t' task' ht' => ?_, fun c task' p hc hp => ?_, fun p c hr => ?_,
    fun p children missing hhand hs => ?_, fun p children hs c hc => ?_, fun p rs hr c hc => ?_⟩
  · by_cases hlt : t' < l.tasks.length
    · rw [started_old hlt] at ht'
      exact hg.fits t' task' ht'
    · obtain ⟨-, d, rfl⟩ := started_new (Nat.le_of_not_lt hlt) ht'
      trivial
  · by_cases hlt : c < l.tasks.length
    · rw [started_old hlt] at hc
      obtain ⟨hjob, hstands⟩ := hg.child c task' p hc hp
      refine ⟨hjob, fun _ => ?_⟩
      obtain ⟨s, hs, hsp⟩ := hstands (by simp)
      exact ⟨s, hstays p s hs, hsp⟩
    · obtain ⟨-, d, rfl⟩ := started_new (Nat.le_of_not_lt hlt) hc
      exact ⟨⟨d, rfl⟩, fun hhand => absurd (congrArg some (Listener.task.inj hp)) hhand⟩
  · exact hkeeps p c (hg.reports p c ((hqueue p c).mp hr))
  · have hne : p ≠ t := fun he => hhand (congrArg some he.symm)
    obtain hold | hready := started_stage? hs
    · obtain ⟨hle, hall⟩ := hg.gathering p children missing (by simp) hold
      rw [started_pending hstarts, if_neg hne]
      refine ⟨hle, fun c hc => ?_⟩
      obtain ⟨hin, hraised⟩ := hall c (hlistener hne hc)
      exact ⟨hin, fun e he => (hqueue p c).mpr (hraised e (started_result?.mp he))⟩
    · simp at hready
  · obtain hold | hready := started_stage? hs
    · obtain ⟨hin, r, hr⟩ := hg.gathered p children hold c (hlistener (hother hold trivial) hc)
      exact ⟨hin, r, started_result?.mpr hr⟩
    · simp at hready
  · have hold := started_result?.mp hr
    have hne : p ≠ t := hother (result?_eq_some.mp hold) trivial
    obtain ⟨r, hr⟩ := hg.ended p rs hold c (hlistener hne hc)
    exact ⟨r, started_result?.mpr hr⟩

/-- Nobody reports to a task that cannot have started anything, and it waits for nothing. -/
theorem Gathers.childless (hg : Gathers none l) (ht : l.tasks[t]? = some task)
    (hparent : ¬ task.stage.IsParent) : ∀ c, l.listener? c ≠ some (.task t) := by
  intro c hc
  obtain ⟨task', htask', hl⟩ := Option.map_eq_some_iff.mp hc
  obtain ⟨-, hstands⟩ := hg.child c task' t htask' hl
  obtain ⟨s, hs, hp⟩ := hstands (by simp)
  rw [stage?_of_task ht] at hs
  exact hparent (Option.some.inj hs ▸ hp)

theorem Gathers.pending_eq_zero (hg : Gathers none l)
    (hchildren : ∀ c, l.listener? c ≠ some (.task t)) : l.pending t = 0 := by
  have htasks : l.tasks.countP
      (fun task => task.listener == .task t && !task.stage.isDone) = 0 := by
    rw [List.countP_eq_zero]
    intro task' hm hcount
    obtain ⟨c, hc⟩ := List.mem_iff_getElem?.mp hm
    simp only [Bool.and_eq_true, beq_iff_eq] at hcount
    exact hchildren c (by rw [listener?_of_task hc, hcount.1])
  have hqueue : l.queue.countP (Turn.reportsTo t) = 0 := by
    rw [List.countP_eq_zero]
    intro turn hm hcount
    cases turn with
    | report p c =>
      obtain rfl : p = t := by simpa [Turn.reportsTo] using hcount
      exact hchildren c (hg.reports p c hm)
    | _ => simp [Turn.reportsTo] at hcount
  rw [pending, htasks, hqueue]

/-- A task that has started nothing starts validations and waits for all of them. -/
theorem Gathers.beginMany (hg : Gathers none l) (ht : l.tasks[t]? = some task)
    (hopen : task.stage.isOver = false) (hparent : ¬ task.stage.IsParent)
    (hjob : task.job.IsBatch) (documents : List Document) :
    Gathers none (l.beginMany t documents) := by
  have hlt := (List.getElem?_eq_some_iff.mp ht).1
  have hchildren := hg.childless ht hparent
  have hspawn := l.spawnAll_validate t documents
  have hstarts := filter_isReport_starts (List.range' l.tasks.length documents.length)
  generalize (List.range' l.tasks.length documents.length).map Turn.start = starts at hspawn hstarts
  have hg' : Gathers (some t) (l.started t documents starts) :=
    hg.started ht hparent hstarts
  have ht' : (l.started t documents starts).tasks[t]? = some task := (started_old hlt).trans ht
  have hmine : ∀ c, (l.started t documents starts).listener? c = some (.task t) →
      l.tasks.length ≤ c ∧ c < l.tasks.length + documents.length := by
    intro c hc
    obtain hold | ⟨-, hin⟩ := started_listener? hc
    · exact absurd hold (hchildren c)
    · exact hin
  simp only [Loop.beginMany, hspawn, List.isEmpty_iff, List.range'_eq_nil_iff, List.length_range']
  split
  · rename_i hnone
    refine hg'.finish (.inr rfl) ht' hopen hjob (.inl trivial) fun rs _ c hc => ?_
    have := hmine c hc
    omega
  · refine hg'.put (.inr rfl) ht' hopen rfl hjob (.inl trivial) ?_ (by simp)
    intro children missing hs
    obtain ⟨rfl, rfl⟩ := Stage.gathering.inj hs
    rw [started_pending hstarts, if_pos rfl, hg.pending_eq_zero hchildren]
    refine ⟨by omega, fun c hc => ⟨?_, fun e he => ?_⟩⟩
    · have := hmine c hc
      rw [List.mem_range'_1]
      omega
    · have hresult := result?_eq_some.mp (started_result?.mp he)
      have := stage?_lt hresult
      have := hmine c hc
      omega

/-! ### Taking in reports -/

/-- The turn in which a report is taken in is no longer asked for. -/
theorem Gathers.without {queue : List Turn} {p c : Nat}
    (hg : Gathers none { l with queue := queue }) (hqueue : queue.Perm (.report p c :: l.queue)) :
    Gathers (some p) l ∧ ∀ children missing, l.stage? p = some (.gathering children missing) →
      l.pending p + 1 ≤ missing ∧ ∀ c', l.listener? c' = some (.task p) → c' ∈ children ∧
        ∀ e, l.result? c' = some (.raised e) → c' = c ∨ .report p c' ∈ l.queue := by
  have hmem : ∀ p' c', .report p' c' ∈ queue ↔ (p' = p ∧ c' = c) ∨ .report p' c' ∈ l.queue := by
    intro p' c'
    rw [hqueue.mem_iff, List.mem_cons, Turn.report.injEq]
  have hpending : ∀ p', ({ l with queue := queue } : Loop).pending p' =
      l.pending p' + if p' = p then 1 else 0 := by
    intro p'
    have hone : (Turn.report p c).reportsTo p' = decide (p' = p) := by
      show (p == p') = decide (p' = p)
      rw [Bool.eq_iff_iff, beq_iff_eq, decide_eq_true_iff]
      exact eq_comm
    simp only [pending, hqueue.countP_eq, List.countP_cons, hone, decide_eq_true_eq]
    omega
  constructor
  · refine ⟨hg.fits, fun c' task' p' hc hp => ?_, fun p' c' hr => ?_,
      fun p' children missing hhand hs => ?_, hg.gathered, hg.ended⟩
    · obtain ⟨hjob, hstands⟩ := hg.child c' task' p' hc hp
      exact ⟨hjob, fun _ => hstands (by simp)⟩
    · exact hg.reports p' c' ((hmem p' c').mpr (.inr hr))
    · have hne : p' ≠ p := fun he => hhand (congrArg some he.symm)
      obtain ⟨hle, hall⟩ := hg.gathering p' children missing (by simp) hs
      rw [hpending, if_neg hne] at hle
      refine ⟨hle, fun c' hc => ⟨(hall c' hc).1, fun e he => ?_⟩⟩
      exact ((hmem p' c').mp ((hall c' hc).2 e he)).resolve_left fun h => hne h.1
  · intro children missing hs
    obtain ⟨hle, hall⟩ := hg.gathering p children missing (by simp) hs
    rw [hpending, if_pos rfl] at hle
    refine ⟨hle, fun c' hc => ⟨(hall c' hc).1, fun e he => ?_⟩⟩
    exact ((hmem p c').mp ((hall c' hc).2 e he)).imp_left And.right

/-- A task for which nothing is pending has only validations that are done. -/
theorem Gathers.result_of_pending (hg : Gathers hand l) {p c : Nat} (hp : l.pending p = 0)
    (hc : l.listener? c = some (.task p)) :
    ∃ r, l.result? c = some r ∧ ((∃ v, r = .validation v) ∨ ∃ e, r = .raised e) := by
  obtain ⟨task, htask, hl⟩ := Option.map_eq_some_iff.mp hc
  have hzero := (Nat.add_eq_zero_iff.mp hp).1
  rw [List.countP_eq_zero] at hzero
  have hdone := hzero task (List.mem_of_getElem? htask)
  simp only [hl, beq_self_eq_true, Bool.true_and, Bool.not_eq_true, Bool.not_eq_false'] at hdone
  obtain ⟨⟨d, hjob⟩, -⟩ := hg.child c task p htask hl
  have hfits := hg.fits c task htask
  cases hs : task.stage with
  | done r =>
    refine ⟨r, by rw [result?_eq_some, stage?_of_task htask, hs], ?_⟩
    rw [hs, hjob] at hfits
    cases r with
    | validation v => exact .inl ⟨v, rfl⟩
    | raised e => exact .inr ⟨e, rfl⟩
    | _ => simp [Stage.Fits, TaskResult.Fits, Job.IsBatch] at hfits
  | _ => simp [hs, Stage.isDone] at hdone

theorem Gathers.takeReport {queue : List Turn} {p c : Nat}
    (hg : Gathers none { l with queue := queue }) (hqueue : queue.Perm (.report p c :: l.queue)) :
    Gathers none (l.takeReport p c) := by
  obtain ⟨hwithout, hcount⟩ := hg.without hqueue
  have hwake : ∀ l' : Loop, Idle l' (l'.enqueue (.wake p)) := fun l' =>
    ⟨⟨[], by simp [enqueue], by simp⟩, by simp [enqueue, Turn.isReport]⟩
  simp only [Loop.takeReport]
  split
  · rename_i children missing hs
    obtain ⟨hle, hall⟩ := hcount children missing hs
    obtain ⟨task, htask, hstage⟩ := Option.map_eq_some_iff.mp hs
    have hopen : task.stage.isOver = false := by
      rw [hstage]
      rfl
    have hjob : task.job.IsBatch := by
      have hfits := hwithout.fits p task htask
      rw [hstage] at hfits
      exact hfits
    split
    · rename_i e he
      have hput := hwithout.put (.inr rfl) htask hopen (s := .gathered children (some e)) rfl hjob
        (.inl trivial) (by simp) (by simp)
      exact hput.idle (hwake _)
    · rename_i hnotRaised
      split
      · rename_i hlast
        have hzero : l.pending p = 0 := by omega
        refine (hwithout.put (.inr rfl) htask hopen (s := .gathered children none) rfl hjob
          (.inl trivial) (by simp) ?_).idle (hwake _)
        intro children' hs' c' hc'
        obtain ⟨rfl, -⟩ := Stage.gathered.inj hs'
        refine ⟨(hall c' hc').1, ?_⟩
        obtain ⟨r, hr, ⟨v, rfl⟩ | ⟨e, rfl⟩⟩ := hwithout.result_of_pending hzero hc'
        · exact ⟨v, hr⟩
        · exfalso
          obtain rfl | hreport := (hall c' hc').2 e hr
          · exact hnotRaised e hr
          · have hnone := (Nat.add_eq_zero_iff.mp hzero).2
            rw [List.countP_eq_zero] at hnone
            exact hnone _ hreport (by simp [Turn.reportsTo])
      · refine hwithout.put (.inr rfl) htask hopen rfl hjob (.inl trivial) ?_ (by simp)
        intro children' missing' hs'
        obtain ⟨rfl, rfl⟩ := Stage.gathering.inj hs'
        refine ⟨by omega, fun c' hc' => ⟨(hall c' hc').1, fun e he => ?_⟩⟩
        refine ((hall c' hc').2 e he).resolve_left ?_
        rintro rfl
        exact hnotRaised e he
  · rename_i hs
    -- a task that no longer waits does not count
    refine ⟨hwithout.fits, fun c' task' p' hc hp => ?_, hwithout.reports,
      fun p' children missing _ hs' => ?_, hwithout.gathered, hwithout.ended⟩
    · obtain ⟨hjob, hstands⟩ := hg.child c' task' p' hc hp
      exact ⟨hjob, fun _ => hstands (by simp)⟩
    · refine hwithout.gathering p' children missing ?_ hs'
      intro he
      obtain rfl := Option.some.inj he
      exact hs children missing hs'

/-! ### Turns -/

theorem idle_enqueue (l : Loop) {turn : Turn} (h : turn.isReport = false) :
    Idle l (l.enqueue turn) :=
  ⟨⟨[], by simp [enqueue], by simp⟩, by simp [enqueue, h]⟩

theorem idle_tell (l : Loop) (message : String) (retry : Bool) :
    Idle l (l.tell message retry) := by
  unfold tell
  split
  · refine ⟨⟨[⟨.question message, .nobody, .ready⟩], rfl, by simp⟩, ?_⟩
    simp [spawn, addTask, enqueue, Turn.isReport]
  · exact .of_eq rfl rfl

theorem idle_foldl {α : Type} {f : Loop → α → Loop} (h : ∀ l a, Idle l (f l a)) (l : Loop)
    (as : List α) : Idle l (as.foldl f l) := by
  induction as generalizing l with
  | nil => exact .refl l
  | cons a as ih => exact (h l a).trans (ih (f l a))

theorem idle_notify (l : Loop) (notice : Option (Nat × String × Bool)) :
    Idle l (l.notify notice) := by
  cases notice with
  | none => exact .refl l
  | some n =>
    have hmarked : Idle l { l with session := l.session.markTold n.1 } := .of_eq rfl rfl
    exact hmarked.trans (idle_tell _ _ _)

theorem idle_addTask (l : Loop) (job : Job) (listener : Listener)
    (h : ∀ p, listener ≠ .task p) : Idle l (l.addTask job listener).1 :=
  ⟨⟨[⟨job, listener, .ready⟩], rfl, by simpa using h⟩, .rfl⟩

theorem idle_release (l : Loop) (id : Nat) : Idle l (l.release id) := by
  unfold release
  split
  · exact .refl l
  · have hw : Idle l { l with waiting := l.waiting.filter fun p => p.1 != id } := .of_eq rfl rfl
    exact hw.trans (idle_foldl (fun l (p : Nat × Nat) => idle_enqueue l rfl) _ _)

theorem idle_stepAttempt (l : Loop) (id : Nat) : Idle l (l.stepAttempt id) :=
  .of_eq rfl rfl

theorem idle_runAttempt (l : Loop) (id : Nat) : Idle l (l.runAttempt id) := by
  have hstep := idle_stepAttempt l id
  simp only [runAttempt]
  split
  · split
    · exact hstep.trans ((idle_stepAttempt _ id).trans (idle_enqueue _ rfl))
    · exact hstep.trans (idle_release _ id)
  · exact hstep.trans (idle_release _ id)

/-- A task that has started nothing comes to its end. -/
theorem Gathers.finishAlone (hg : Gathers none l) (ht : l.tasks[t]? = some task)
    (hopen : task.stage.isOver = false) (hparent : ¬ task.stage.IsParent) (hi : Idle l l')
    {r : TaskResult} (hfits : r.Fits task.job) (hr : ∀ rs, r ≠ .validations rs) :
    Gathers none (l'.finish t r) :=
  (hg.idle hi).finish (.inl rfl) (hi.task? ht) hopen hfits
    (.inr ((hg.idle hi).childless (hi.task? ht) hparent)) fun rs h => absurd h (hr rs)

theorem Gathers.proceed (hg : Gathers none l) (ht : l.tasks[t]? = some task)
    (hopen : task.stage.isOver = false) (hparent : ¬ task.stage.IsParent) {k : Continuation}
    (hk : k.Fits task.job) (o : Outcome) : Gathers none (l.proceed t k o) := by
  cases k with
  | answer => exact hg.finishAlone ht hopen hparent (.refl l) hk (by simp)
  | warmUp =>
    simp only [Loop.proceed]
    split
    · have hmarked : Idle l { l with session := l.session.markOutcome o } := .of_eq rfl rfl
      exact hg.finishAlone ht hopen hparent hmarked trivial (by simp)
    · exact hg.finishAlone ht hopen hparent (idle_notify l _) (.inl hk) (by simp)
  | conclude v told =>
    have hi : Idle l (l.concluded v o) := .of_eq rfl rfl
    have hcases := l.proceed_conclude_cases t v o told
    generalize l.proceed t (.conclude v told) o = l' at hcases ⊢
    cases hcases with
    | untold e result => exact hg.finishAlone ht hopen hparent hi trivial (by simp)
    | silent r result isTold => exact hg.finishAlone ht hopen hparent hi hk.1 (by simp)
    | unnoticed r result isTold e notice =>
      have hmarked : Idle l { l.concluded v o with
          session := (l.concluded v o).session.markOutcome o } := .of_eq rfl rfl
      exact hg.finishAlone ht hopen hparent hmarked trivial (by simp)
    | noticed r result isTold n notice =>
      exact hg.finishAlone ht hopen hparent (hi.trans (idle_notify _ n)) hk.1 (by simp)

theorem Gathers.await (hg : Gathers none l) (ht : l.tasks[t]? = some task)
    (hopen : task.stage.isOver = false) (hparent : ¬ task.stage.IsParent) (root : String)
    {k : Continuation} (hk : k.Fits task.job) : Gathers none (l.await t root k) := by
  simp only [Loop.await]
  split
  · rename_i refusal _
    have hi : Idle l { l with
        session.resolver := (refuse l.session.resolver refusal).1 } := .of_eq rfl rfl
    exact (hg.idle hi).proceed ht hopen hparent hk _
  · generalize hasked : l.session.resolver.attemptFor l.host root = asked
    obtain ⟨⟨id, isNew⟩, resolver, host⟩ := asked
    have hasks : Idle l { l with session.resolver := resolver, host := host } := .of_eq rfl rfl
    have hi : Idle l (if isNew then
        ({ l with session.resolver := resolver, host := host } : Loop).enqueue (.attempt id)
        else { l with session.resolver := resolver, host := host }) := by
      split
      · exact hasks.trans (idle_enqueue _ rfl)
      · exact hasks
    dsimp only
    split
    · exact (hg.idle hi).proceed (hi.task? ht) hopen hparent hk _
    · refine ((hg.idle hi).put (.inl rfl) (hi.task? ht) hopen (s := .resolving id k) rfl hk
        (.inr ?_) (by simp) (by simp)).idle (.of_eq rfl rfl)
      exact (hg.idle hi).childless (hi.task? ht) hparent

theorem Gathers.beginValidation (hg : Gathers none l) (ht : l.tasks[t]? = some task)
    (hopen : task.stage.isOver = false) (hparent : ¬ task.stage.IsParent) (d : Document)
    {told : Bool} (hjob : task.job.IsValidation) (htold : told = true ↔ task.job.Tells) :
    Gathers none (l.beginValidation t d told) := by
  simp only [Loop.beginValidation]
  generalize hbegun : l.session.begin l.host d = begun
  obtain ⟨result, session, host⟩ := begun
  have hi : Idle l { l with session := session, host := host } := .of_eq rfl rfl
  dsimp only
  split
  · exact hg.finishAlone ht hopen hparent hi trivial (by simp)
  · exact hg.finishAlone ht hopen hparent hi hjob (by simp)
  · rename_i v
    exact (hg.idle hi).await ht hopen hparent v.root (k := .conclude v told) ⟨hjob, htold⟩

theorem Gathers.beginAll (hg : Gathers none l) (ht : l.tasks[t]? = some task)
    (hopen : task.stage.isOver = false) (hparent : ¬ task.stage.IsParent)
    (hjob : task.job.IsBatch) : Gathers none (l.beginAll t) := by
  simp only [Loop.beginAll]
  split
  · exact hg.finishAlone ht hopen hparent (.refl l) trivial (by simp)
  · exact hg.beginMany ht hopen hparent hjob _

theorem Gathers.beginAnew (hg : Gathers none l) (ht : l.tasks[t]? = some task)
    (hopen : task.stage.isOver = false) (hparent : ¬ task.stage.IsParent)
    (hjob : task.job.IsBatch) : Gathers none (l.beginAnew t) := by
  have hi : Idle l { l with session := l.session.forgetAttempts l.host } := .of_eq rfl rfl
  exact (hg.idle hi).beginAll ht hopen hparent hjob

theorem Gathers.beginRetry (hg : Gathers none l) (ht : l.tasks[t]? = some task)
    (hopen : task.stage.isOver = false) (hparent : ¬ task.stage.IsParent)
    (hjob : task.job.IsBatch) : Gathers none (l.beginRetry t) := by
  have hi : Idle l { l with host := l.host.note .info "Retrying module resolution" } :=
    .of_eq rfl rfl
  exact (hg.idle hi).beginAnew ht hopen hparent hjob

theorem Gathers.begin (hg : Gathers none l) {job : Job} {a : Listener}
    (ht : l.tasks[t]? = some ⟨job, a, .ready⟩) : Gathers none (l.begin t job) := by
  cases job with
  | resolve root => exact hg.await ht rfl id root ⟨root, rfl⟩
  | warmUp =>
    simp only [Loop.begin]
    split
    · exact hg.finishAlone ht rfl id (.refl l) (.inl rfl) (by simp)
    · exact hg.await ht rfl id _ rfl
  | validate d => exact hg.beginValidation ht rfl id d trivial (by simp [Job.Tells])
  | validateSingle d => exact hg.beginValidation ht rfl id d trivial (by simp [Job.Tells])
  | validateOpen uri =>
    simp only [Loop.begin]
    split
    · exact hg.finishAlone ht rfl id (.refl l) trivial (by simp)
    · exact hg.beginValidation ht rfl id _ trivial (by simp [Job.Tells])
  | validateMany documents =>
    cases documents with
    | none => exact hg.beginAll ht rfl id trivial
    | some documents => exact hg.beginMany ht rfl id trivial documents
  | filesChanged => exact hg.beginAnew ht rfl id trivial
  | watchedFilesChanged count =>
    have hi : Idle l { l with
        host := l.host.note .debug s!"{count} watched file(s) changed" } := .of_eq rfl rfl
    exact (hg.idle hi).beginAnew ht rfl id trivial
  | retry => exact hg.beginRetry ht rfl id trivial
  | updateSettings payload =>
    simp only [Loop.begin]
    split
    · rename_i e host _
      have hi : Idle l { l with host := host } := .of_eq rfl rfl
      exact hg.finishAlone ht rfl id hi trivial (by simp)
    · rename_i session host _
      have hi : Idle l { l with session := session, host := host } := .of_eq rfl rfl
      exact (hg.idle hi).beginAll ht rfl id trivial
  | question message =>
    have hi : Idle l ({ l with requests := l.requests + 1 }.emit [.ask l.requests message]) :=
      .of_eq rfl rfl
    exact (hg.idle hi).put (.inl rfl) ht rfl (s := .asking l.requests) rfl ⟨message, rfl⟩
      (.inr (hg.childless ht id)) (by simp) (by simp)

theorem Gathers.concludeBatch (hg : Gathers none l) (ht : l.tasks[t]? = some task)
    {children : List Nat} (hs : task.stage = .gathered children none) :
    Gathers none (l.concludeBatch t children) := by
  have hopen : task.stage.isOver = false := by
    rw [hs]
    rfl
  have hjob : task.job.IsBatch := by
    have hfits := hg.fits t task ht
    rwa [hs] at hfits
  have hall := hg.gathered t children (by rw [stage?_of_task ht, hs])
  simp only [Loop.concludeBatch]
  split
  · exact hg.finish (.inl rfl) ht hopen trivial (.inl trivial) (by simp)
  · rename_i told _
    have hmarked : Idle l { l with session := told.foldl Session.markNotice l.session } :=
      .of_eq rfl rfl
    have hi := hmarked.trans
      (idle_foldl (fun l (p : String × Json) => idle_tell l p.1 p.2.truthy) _ (told.foldl
        (fun b n => b.add n.2.1 (.bool n.2.2)) ErrorBatch.empty).announcements)
    refine (hg.idle hi).finish (.inl rfl) (hi.task? ht) hopen hjob (.inl trivial) ?_
    intro rs _ c hc
    obtain ⟨-, r, hr⟩ := hall c (hi.listener? hc)
    exact ⟨r, hi.result?.mpr hr⟩

theorem Gathers.resume (hg : Gathers none l) (t : Nat) : Gathers none (l.resume t) := by
  simp only [Loop.resume]
  cases hs : l.stage? t with
  | none => exact hg
  | some s =>
    obtain ⟨task, ht, rfl⟩ := Option.map_eq_some_iff.mp hs
    have hfits := hg.fits t task ht
    have hparent := fun hp => hg.childless ht hp
    cases hstage : task.stage with
    | resolving id k =>
      rw [hstage] at hfits
      dsimp only
      split
      · exact hg.proceed ht (by rw [hstage]; rfl) (by simp [hstage, Stage.IsParent]) hfits _
      · exact hg
    | gathered children fault? =>
      cases fault? with
      | none => exact hg.concludeBatch ht hstage
      | some e =>
        exact hg.finish (.inl rfl) ht (by rw [hstage]; rfl) trivial (.inl trivial) (by simp)
    | answered again =>
      rw [hstage] at hfits
      obtain ⟨message, hjob⟩ := hfits
      dsimp only
      split
      · exact hg.beginRetry ht (by rw [hstage]; rfl) (by simp [hstage, Stage.IsParent])
          (by rw [hjob]; trivial)
      · exact hg.finishAlone ht (by rw [hstage]; rfl) (by simp [hstage, Stage.IsParent]) (.refl l)
          (.inr ⟨message, hjob⟩) (by simp)
    | leaving =>
      exact hg.put (.inl rfl) ht (by rw [hstage]; rfl) rfl trivial (.inl trivial) (by simp)
        (by simp)
    | _ => exact hg

/-- A turn in which no report is taken in is no longer asked for. -/
theorem Gathers.drop {queue : List Turn} {turn : Turn}
    (hg : Gathers none { l with queue := queue }) (hqueue : queue.Perm (turn :: l.queue))
    (hturn : turn.isReport = false) : Gathers none l := by
  have hfilter := hqueue.filter Turn.isReport
  rw [List.filter_cons_of_neg (by simp [hturn])] at hfilter
  exact hg.idle ⟨⟨[], (List.append_nil _).symm, by simp⟩, hfilter.symm⟩

theorem Gathers.take {queue : List Turn} {turn : Turn}
    (hg : Gathers none { l with queue := queue }) (hqueue : queue.Perm (turn :: l.queue)) :
    Gathers none (l.take turn) := by
  have hrest := hg.drop hqueue
  cases turn with
  | start t =>
    simp only [Loop.take]
    split
    · rename_i ht
      exact (hrest rfl).begin ht
    · exact hrest rfl
  | attempt id => exact (hrest rfl).idle (idle_runAttempt l id)
  | rest id => exact (hrest rfl).idle (idle_enqueue l rfl)
  | relay t => exact (hrest rfl).idle (idle_enqueue l rfl)
  | wake t => exact (hrest rfl).resume t
  | report p c => exact hg.takeReport hqueue
  | complain t =>
    simp only [Loop.take]
    split
    · exact (hrest rfl).idle (.of_eq rfl rfl)
    · exact hrest rfl
  | pause => exact hrest rfl

theorem Gathers.answer (hg : Gathers none l) (request : Nat) (again : Bool) :
    Gathers none (l.answer request again) := by
  obtain hnobody | ⟨t, task, ht, hstage, hanswer⟩ := l.answer_cases request again
  · rwa [hnobody]
  · have hfits := hg.fits t task ht
    rw [hstage] at hfits
    have hput := hg.put (.inl rfl) ht (by rw [hstage]; rfl) (s := .answered again) rfl hfits
      (.inr (hg.childless ht (by simp [hstage, Stage.IsParent]))) (by simp) (by simp)
    rw [hanswer]
    exact hput.idle (idle_enqueue _ rfl)

theorem Gathers.cancel (hg : Gathers none l) (t : Nat) : Gathers none (l.cancel t) := by
  obtain hover | ⟨task, ht, hopen, hcancel⟩ := l.cancel_cases t
  · rwa [hover]
  · have hput := hg.put (.inl rfl) ht hopen (s := .leaving) rfl trivial (.inl trivial) (by simp)
      (by simp)
    have hi : Idle (l.setStage t .leaving) { l.setStage t .leaving with
      waiting := l.waiting.filter fun p => p.2 != t } := .of_eq rfl rfl
    rw [hcancel]
    exact hput.idle (hi.trans (idle_enqueue _ rfl))

theorem Gathers.act (hg : Gathers none l) (a : Act) : Gathers none (l.act a) := by
  cases a with
  | turn i =>
    simp only [Loop.act]
    split
    · rename_i turn hturn
      obtain ⟨hlt, rfl⟩ := List.getElem?_eq_some_iff.mp hturn
      exact Gathers.take (l := { l with queue := l.queue.eraseIdx i }) hg
        (List.getElem_cons_eraseIdx_perm hlt).symm
    · exact hg
  | spawn job told =>
    have hi := idle_addTask l job (if told then .editor else .nobody)
      (by split <;> simp)
    exact hg.idle (hi.trans (idle_enqueue _ rfl))
  | begin job =>
    refine (hg.idle (idle_addTask l job .nobody (by simp))).begin (a := .nobody) ?_
    simp [addTask]
  | close uri => exact hg.idle (.of_eq rfl rfl)
  | answer request again => exact hg.answer request again
  | cancel t => exact hg.cancel t
  | attach root settings => exact hg.idle (.of_eq rfl rfl)
  | elsewhere documents resolver host => exact hg.idle (.of_eq rfl rfl)

end Loop

end LintBridge
