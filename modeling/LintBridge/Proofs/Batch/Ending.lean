import LintBridge.Proofs.Batch.Turns

/-! A batch from its beginning to its end. As long as it has not ended some turn is asked for, and
every turn takes from the effort that is left, so it ends whatever turns are taken first. At its end
there is one verdict on each document, and the user has been told of the outcome of the attempt if
it is news and some document awaited it; or else the batch raises the fault that a validation of it
has raised. -/

namespace LintBridge

/-- Results that are about one failure at most have as many notices as there are results about it.
-/
theorem Session.notices_of_one {s : Session} {n : Option (Nat × String × Bool)}
    {results : List ValidationResult}
    (h : ∀ r ∈ results, s.notice r = .ok none ∨ s.notice r = .ok n) :
    ∃ k, Loop.notices s results = .ok (List.replicate k n.toList).flatten ∧
      (0 < k ↔ ∃ r ∈ results, s.notice r = .ok n) := by
  induction results with
  | nil => exact ⟨0, rfl, by simp⟩
  | cons r results ih =>
    obtain ⟨hr, hresults⟩ := List.forall_mem_cons.mp h
    obtain ⟨k, hk, hpos⟩ := ih hresults
    by_cases hmine : s.notice r = .ok n
    · exact ⟨k + 1, notices_cons hmine hk, by simp [hmine]⟩
    · refine ⟨k, notices_cons (hr.resolve_right hmine) hk, hpos.trans ?_⟩
      simp [hmine]

/-- To mark a failure again changes nothing. -/
theorem Session.markNotice_replicate (s : Session) (n : Nat × String × Bool) (k : Nat) :
    (List.replicate (k + 1) n).foldl markNotice s = s.markNotice n := by
  have htwice : (s.markNotice n).markNotice n = s.markNotice n := by
    simp [markNotice, markTold, Resolver.markSurfaced, List.modify_modify_eq, Function.comp_def]
  induction k with
  | zero => rfl
  | succ k ih => rw [List.replicate_succ', List.foldl_append, ih, List.foldl_cons, htwice]; rfl

/-- A message that is added again is told once. -/
theorem ErrorBatch.announcements_replicate (message : String) (retry : Bool) (k : Nat) (id : Nat) :
    ((List.replicate (k + 1) (id, message, retry)).foldl (fun b n => b.add n.2.1 (.bool n.2.2))
      ErrorBatch.empty).announcements = [(message, .bool retry)] := by
  induction k with
  | zero => rfl
  | succ k ih =>
    rw [List.replicate_succ', List.foldl_append]
    show insert message (.bool retry) ((List.replicate (k + 1) (id, message, retry)).foldl
      (fun b n => b.add n.2.1 (.bool n.2.2)) ErrorBatch.empty).announcements = _
    rw [ih]
    cases retry <;> simp [insert, Json.orElse]

namespace Loop

variable {l : Loop} {p t : Nat}

/-- Something is pending as long as a task has not reported. -/
theorem pending_pos : 0 < l.pending p ↔
    (∃ (t : Nat) (task : Task), l.tasks[t]? = some task ∧ task.listener = .task p ∧
      task.stage.isDone = false) ∨ ∃ c, .report p c ∈ l.queue := by
  have htasks : 0 < l.tasks.countP (fun task => task.listener == .task p && !task.stage.isDone) ↔
      ∃ (t : Nat) (task : Task), l.tasks[t]? = some task ∧ task.listener = .task p ∧
        task.stage.isDone = false := by
    simp only [List.countP_pos_iff, List.mem_iff_getElem?, Bool.and_eq_true, beq_iff_eq,
      Bool.not_eq_true', ← exists_and_right]
    exact exists_comm
  have hqueue : 0 < l.queue.countP (Turn.reportsTo p) ↔ ∃ c, .report p c ∈ l.queue := by
    rw [List.countP_pos_iff]
    constructor
    · rintro ⟨turn, hm, hturn⟩
      cases turn with
      | report p' c =>
        obtain rfl : p' = p := by simpa [Turn.reportsTo] using hturn
        exact ⟨c, hm⟩
      | _ => simp [Turn.reportsTo] at hturn
    · rintro ⟨c, hm⟩
      exact ⟨_, hm, by simp [Turn.reportsTo]⟩
  rw [← htasks, ← hqueue, pending]
  omega

/-! ### Notices -/

/-- How a notice is shown: not among the events if it is put as a question. -/
def shown (asks : Bool) (n : Nat × String × Bool) : List Event :=
  if asks && n.2.2 then [] else [.showError n.2.1 n.2.2]

theorem events_notify (l : Loop) (notice : Option (Nat × String × Bool)) :
    (l.notify notice).events = l.events ++ notice.toList.flatMap (shown l.asksQuestions) := by
  cases notice with
  | none => simp [notify]
  | some n =>
    simp only [notify, tell, shown, Option.toList_some, List.flatMap_singleton]
    split <;> simp [spawn, addTask, enqueue, emit]

theorem session_notify (l : Loop) (notice : Option (Nat × String × Bool)) :
    (l.notify notice).session = notice.toList.foldl Session.markNotice l.session := by
  cases notice with
  | none => rfl
  | some n => exact tell_session _ _ _

theorem adds_notify (l : Loop) (notice : Option (Nat × String × Bool)) :
    Adds l (l.notify notice) (notice.toList.map Prod.snd) := by
  cases notice with
  | none => exact .of_eq rfl rfl
  | some n =>
    have hmarked : Adds l { l with session := l.session.markNotice n } [] := .of_eq rfl rfl
    exact hmarked.trans (adds_tell _ _ _)

theorem host_notify (l : Loop) (notice : Option (Nat × String × Bool)) :
    (l.notify notice).host = l.host := by
  cases notice with
  | none => rfl
  | some n =>
    simp only [notify, tell]
    split <;> rfl

/-- A task that has told the user of a notice, if there is one, comes to its end. -/
theorem result?_notify_finish {task : Task} (ht : l.tasks[t]? = some task)
    (notice : Option (Nat × String × Bool)) (r : TaskResult) :
    ((l.notify notice).finish t r).result? t = some r := by
  have hthere : (l.notify notice).tasks[t]? = some task :=
    (calm_notify l notice).quiet.extends.task? ht
  exact result?_finish (List.getElem?_eq_some_iff.mp hthere).1 r

/-! ### Turns in some order -/

/-- Takes turns until tasks are over. Which of the turns that are asked for is taken next is said by
the numbers. -/
def drainInOrder (tasks : List Nat) : List Nat → Loop → Loop
  | [], l => l
  | i :: order, l =>
    if l.areOver tasks then l
    else drainInOrder tasks order (l.act (.turn (i % l.queue.length)))

variable {tasks : List Nat}

theorem drainToEnd_of_areOver (h : l.areOver tasks = true) (fuel : Nat) :
    drainToEnd tasks fuel l = l := by
  cases fuel with
  | zero => rfl
  | succ fuel => rw [drainToEnd, if_pos h]

theorem drainInOrder_of_areOver (h : l.areOver tasks = true) (order : List Nat) :
    drainInOrder tasks order l = l := by
  cases order with
  | nil => rfl
  | cons i order => rw [drainInOrder, if_pos h]

theorem drainInOrder_of_nil (h : l.queue = []) (order : List Nat) :
    drainInOrder tasks order l = l := by
  induction order with
  | nil => rfl
  | cons i order ih =>
    have hact : l.act (.turn (i % l.queue.length)) = l := by simp [act, h]
    rw [drainInOrder, hact, ih]
    exact ite_self l

/-- To take turns in the order in which they were asked for is one such order. -/
theorem drainInOrder_replicate (l : Loop) (fuel : Nat) :
    drainInOrder tasks (List.replicate fuel 0) l = drainToEnd tasks fuel l := by
  induction fuel generalizing l with
  | zero => rfl
  | succ fuel ih =>
    rw [List.replicate_succ, drainInOrder, drainToEnd]
    split
    · rfl
    · cases hq : l.queue with
      | nil =>
        have hact : l.act (.turn (0 % 0)) = l := by simp [act, hq]
        simp only [List.length_nil, hact]
        exact drainInOrder_of_nil hq _
      | cons turn queue =>
        have hact : l.act (.turn (0 % (turn :: queue).length)) =
            Loop.take { l with queue := queue } turn := by
          simp [act, hq]
        rw [hact]
        exact ih _

end Loop

namespace Batch

open Loop

variable {b : Batch} {hand : Option Turn} {judged : List Document} {l : Loop} {turn : Turn}
  {t i : Nat} {d : Document}

/-! ### The beginning -/

/-- The loop in which a job has started the validations. -/
def begun (b : Batch) (job : Job) : Loop :=
  (b.start.addTask job .nobody).1.beginMany b.parent b.documents

theorem begun_eq (b : Batch) (hsome : b.documents ≠ []) (job : Job) : b.begun job =
    ((b.start.addTask job .nobody).1.started b.parent b.documents (b.children.map .start)).setStage
      b.parent (.gathering b.children b.documents.length) := by
  have hlength : (b.start.addTask job .nobody).1.tasks.length = b.parent + 1 := by
    simp [addTask, parent]
  have hchildren : b.children.isEmpty = false := by
    simpa [children, List.range'_eq_nil_iff] using hsome
  simp only [begun, beginMany, spawnAll_validate, hlength]
  rw [← children, hchildren]
  simp [children]

/-- Without documents a batch ends at once. -/
theorem begun_of_nil (b : Batch) (hnone : b.documents = []) (job : Job) : b.begun job =
    (b.start.addTask job .nobody).1.finish b.parent (.validations []) := by
  simp [begun, beginMany, hnone, spawnAll]

/-- The tasks of a batch that has begun: its own and those of its documents. -/
theorem task?_begun (b : Batch) (job : Job) (starts : List Turn) (hd : b.documents[i]? = some d) :
    ((b.start.addTask job .nobody).1.started b.parent b.documents starts).tasks[b.child i]? =
      some ⟨.validate d, .task b.parent, .ready⟩ := by
  have hplace : b.child i = (b.start.addTask job .nobody).1.tasks.length + i := by
    simp [addTask, parent, child]
  simp [started, hplace, List.getElem?_append_right, hd]

theorem parent_begun (b : Batch) (job : Job) (starts : List Turn) :
    ((b.start.addTask job .nobody).1.started b.parent b.documents starts).tasks[b.parent]? =
      some ⟨job, .nobody, .ready⟩ := by
  have hlt : b.parent < (b.start.addTask job .nobody).1.tasks.length := by
    simp [addTask, parent]
  rw [started_old hlt]
  simp [addTask, parent]

/-- Nobody reports to a batch that has not started its validations. -/
theorem listener_added (b : Batch) (job : Job) {task : Task}
    (ht : (b.start.addTask job .nobody).1.tasks[t]? = some task) :
    task.listener ≠ .task b.parent := by
  intro hl
  simp only [addTask, List.getElem?_append] at ht
  split at ht
  · exact absurd ((listener?_of_task ht).trans (congrArg some hl)) (b.childless t)
  · rw [List.mem_singleton.mp (List.mem_of_getElem? ht)] at hl
    simp at hl

/-- Only the tasks of its documents report to a batch. -/
theorem listener_begun (b : Batch) (job : Job) (starts : List Turn) {task : Task}
    (ht : ((b.start.addTask job .nobody).1.started b.parent b.documents starts).tasks[t]? =
      some task) (hl : task.listener = .task b.parent) : t ∈ b.children := by
  have hlistener := listener?_of_task ht
  rw [hl] at hlistener
  obtain hold | ⟨-, hle, hlt⟩ := started_listener? hlistener
  · obtain ⟨task', htask', hl'⟩ := Option.map_eq_some_iff.mp hold
    exact absurd hl' (b.listener_added job htask')
  · rw [children, List.mem_range'_1]
    simp only [addTask, List.length_append, List.length_singleton] at hle hlt
    exact ⟨hle, by rw [parent]; omega⟩

/-- A batch that has begun waits for a report on each of its documents. -/
theorem pending_begun (b : Batch) (hsome : b.documents ≠ []) (job : Job) :
    (b.begun job).pending b.parent = b.documents.length := by
  have hnone : (b.start.addTask job .nobody).1.pending b.parent = 0 := by
    refine Nat.eq_zero_of_not_pos fun hpos => ?_
    obtain ⟨t, task, ht, hl, -⟩ | ⟨c, hc⟩ := pending_pos.mp hpos
    · exact b.listener_added job ht hl
    · rw [addTask, b.resting.queue] at hc
      simp at hc
  have hcount : ((b.start.addTask job .nobody).1.started b.parent b.documents
      (b.children.map .start)).pending b.parent = _ :=
    started_pending (filter_isReport_starts b.children) b.parent
  have hset := pending_setStage (b.parent_begun job (b.children.map .start))
    (s := .gathering b.children b.documents.length) rfl b.parent
  rw [b.begun_eq hsome, hset, hcount, hnone]
  simp

/-- When a batch begins, its attempt has settled, or there is none. -/
theorem resolved_or_new (b : Batch) : b.start.resolution = b.resolved ∨
    b.start.session.resolver.memo.lookup (Resolver.key b.start.host b.root) = none ∧
      b.attempt = b.start.session.resolver.attempts.length := by
  obtain ⟨hsame, o, ho⟩ | ⟨hnew, hid, -⟩ := b.remembered_or_new
  · left
    have hcourse : b.course 0 = b.start.resolution := hsame
    rw [← b.course_of_settled (n := 0) (o := o) (by rw [hcourse]; exact ho), hcourse]
  · exact .inr ⟨hnew, hid⟩

theorem attempted_begun (b : Batch) (resolution : l.resolution = b.start.resolution)
    (nobody : l.waiting = []) : b.Attempted hand [] l ∧
      attemptEffort (l.session.resolver.phase? b.attempt) ≤ 13 := by
  have hresolver : l.session.resolver = b.start.session.resolver :=
    congrArg Resolution.resolver resolution
  have hhost : l.host = b.start.host := congrArg Resolution.host resolution
  obtain hresolved | ⟨hnew, hid⟩ := b.resolved_or_new
  · refine ⟨.settled ?_ ?_, ?_⟩
    · rw [hresolver]
      exact congrArg Resolution.resolver hresolved
    · rw [hhost, show b.start.host = b.resolved.host from congrArg Resolution.host hresolved]
      exact .refl _
    · have houtcome : l.session.resolver.outcome? b.attempt = some b.outcome := by
        rw [hresolver, ← b.settles]
        exact congrArg (fun c => c.resolver.outcome? b.attempt) hresolved
      rw [(Resolver.outcome?_eq_some _ _).mp houtcome]
      simp [attemptEffort, Phase.remaining]
  · have hnone : l.session.resolver.phase? b.attempt = none := by
      rw [hresolver, hid]
      simp [Resolver.phase?]
    have hsame : b.start.resolution.Alike l.resolution := by
      rw [resolution]
      exact ⟨rfl, .refl _⟩
    exact ⟨.unasked hnew hsame nobody (by simp), by simp [hnone, attemptEffort]⟩

/-- All validations have a turn to begin, and none is judged. -/
theorem Round.begins (b : Batch) (hsome : b.documents ≠ []) {job : Job} (hjob : job.error? = none) :
    b.Round none [] (b.begun job) ∧ b.effort (b.begun job) ≤ 9 * b.documents.length + 13 := by
  have hcalls : Adds b.start (b.begun job) [] := by
    have hadded : Adds b.start (b.start.addTask job .nobody).1 [] :=
      ⟨[], [job], by simp [addTask], by simp [addTask], by simp [hjob]⟩
    exact hadded.trans (silent_beginMany _ _ _).calls
  have hstarts : ∀ y ∈ b.children.map Turn.start, ∃ t ∈ b.children, y = .start t := by
    intro y hy
    obtain ⟨t, ht, rfl⟩ := List.mem_map.mp hy
    exact ⟨t, ht, rfl⟩
  have hparent := b.parent_begun job (b.children.map .start)
  have hpending := b.pending_begun hsome job
  rw [b.begun_eq hsome] at hcalls hpending ⊢
  have hattempt : b.Attempted none [] (((b.start.addTask job .nobody).1.started b.parent
        b.documents (b.children.map .start)).setStage b.parent
          (.gathering b.children b.documents.length)) ∧ _ :=
    attempted_begun b rfl b.resting.waiting
  refine ⟨?_, ?_⟩
  · exact {
      due := by
        rintro y (hy | hy)
        · obtain hy | hy := List.mem_append.mp hy
          · rw [addTask, b.resting.queue] at hy
            simp at hy
          · obtain ⟨t, ht, rfl⟩ := hstarts y hy
            exact ht
        · simp at hy
      waiting := by simp [started, addTask, setStage, b.resting.waiting]
      listeners := by
        intro t task ht hl
        have hold := listener?_setStage (l := (b.start.addTask job .nobody).1.started b.parent
          b.documents (b.children.map .start)) b.parent t
          (.gathering b.children b.documents.length)
        rw [listener?_of_task ht, hl] at hold
        obtain ⟨task₀, ht₀, hl₀⟩ := Option.map_eq_some_iff.mp hold.symm
        exact b.listener_begun job _ ht₀ hl₀
      workspace := b.workspace
      settings := rfl
      events := by simp [started, addTask, setStage, Batch.tally, Session.tally]
      fixes := rfl
      calls := hcalls
      asks := rfl
      once := List.nodup_nil
      known := by simp
      attempt := hattempt.1
      stands := by
        intro j d' hj
        refine .ready ?_ (.inl ?_) (by simp)
        · rw [task?_setStage_of_ne (b.child_ne_parent j).symm]
          exact b.task?_begun job _ hj
        · exact List.mem_append_right _ (List.mem_map_of_mem (child_mem hj))
      gathering := by
        refine .counts job _ (task?_setStage_self hparent _) ?_
          (List.length_pos_iff.mpr hsome) fun t ht e he => ?_
        · simpa [outstanding] using hpending
        · obtain ⟨i, d, rfl, hd⟩ := exists_child ht
          have hold := raised_of_setStage rfl he
          simp [result?, stage?_of_task (b.task?_begun job _ hd)] at hold }
  · have hqueue : (b.start.addTask job .nobody).1.queue = [] := b.resting.queue
    have hwaiting : (b.start.addTask job .nobody).1.waiting = [] := b.resting.waiting
    have hsum := b.sum_turnEffort (f := Turn.start) fun _ => rfl
    have hleft := hattempt.2
    simp only [effort, setStage, started, hqueue, hwaiting, List.nil_append, hsum,
      List.length_nil, Nat.mul_zero, Nat.add_zero] at hleft ⊢
    rw [show b.children.length = b.documents.length by simp [children]]
    omega

/-! ### Until the end -/

/-- As long as a batch is on its way some turn is asked for. -/
theorem Round.queue_ne (h : b.Round none judged l) : l.queue ≠ [] := by
  have hturn : ∀ turn, l.Expects none turn → l.queue ≠ [] := by
    rintro turn (hm | hn)
    · exact List.ne_nil_of_mem hm
    · simp at hn
  cases h.gathering with
  | complete job task count turn => exact hturn _ turn
  | failed job e task turn => exact hturn _ turn
  | counts job missing task count positive =>
    have hpos : 0 < l.pending b.parent := by
      simp only [outstanding, Option.toList_none, List.countP_nil, Nat.add_zero] at count
      omega
    obtain ⟨t, task', ht, hl, hopen⟩ | ⟨c, hc⟩ := pending_pos.mp hpos
    · obtain ⟨i, d, rfl, hd⟩ := exists_child (h.listeners t task' ht hl)
      cases h.stands i d hd with
      | ready _ turn _ => exact hturn _ turn
      | goesOn v _ _ _ turn _ => exact turn.elim (hturn _) (hturn _)
      | done x _ _ hdone _ =>
        obtain rfl := Option.some.inj (ht.symm.trans hdone)
        simp [Stage.isDone] at hopen
      | waits v _ _ unsettled waiting _ =>
        -- Whoever waits waits for an attempt that has a turn.
        cases h.attempt with
        | unasked _ _ nobody _ => simp [nobody] at waiting
        | begun n _ _ turn _ => exact turn.elim (hturn _) (hturn _)
        | settled resolver _ => simp [resolver, b.settles] at unsettled
    · exact List.ne_nil_of_mem hc

/-! ### What the user is told -/

/-- What the user is told of the outcome: nothing unless it is a failure that is news. -/
def notice (b : Batch) : Option (Nat × String × Bool) :=
  match b.judge.warmUpNotice b.outcome with
  | .ok n => n
  | .error _ => none

/-- What the user is told once these documents are judged: nothing if none of them is that of a
file. -/
def told (b : Batch) (judged : List Document) : Option (Nat × String × Bool) :=
  if ∃ d ∈ judged, d.IsFile then b.notice else none

theorem told_congr (b : Batch) {judged judged' : List Document}
    (h : ∀ d, d ∈ judged ↔ d ∈ judged') : b.told judged = b.told judged' := by
  simp only [told, h]

/-- The resolver once the user has been told. -/
def marked (b : Batch) (judged : List Document) : Resolver :=
  (b.told judged).toList.foldl (fun r n => r.markSurfaced n.1) b.resolved.resolver

/-- Whatever the document, the user is told of the same failure. -/
theorem notice_of_file (b : Batch) (hd : d.IsFile) {s : Session}
    (hs : s.resolver = b.resolved.resolver) {h : Host} {r : ValidationResult}
    (hr : (b.judge.verdict b.root b.outcome h d).1.result = .ok r) :
    s.notice r = .ok b.notice := by
  obtain ⟨path, hpath⟩ := hd
  simp only [Session.verdict, hpath] at hr
  rw [notice]
  cases ho : b.outcome with
  | absent =>
    rw [ho] at hr
    obtain rfl := Except.ok.inj hr
    rfl
  | present m =>
    rw [ho] at hr
    obtain ⟨diagnostics, rfl⟩ | ⟨e, rfl⟩ := Session.result_of_present hr <;> rfl
  | failed f =>
    rw [ho] at hr
    obtain rfl := Except.ok.inj hr
    have hrecords := b.records_course 3
    have hlt : f < b.resolved.resolver.failures.length := hrecords.failed _ f (ho ▸ b.settles)
    have hx : b.resolved.resolver.failure? f = some b.resolved.resolver.failures[f] :=
      List.getElem?_eq_getElem hlt
    have hfailure := hrecords.failures _ (List.getElem_mem hlt)
    generalize b.resolved.resolver.failures[f] = x at hx hfailure
    have htype : x.errorType.getD .manifestReadError ≠ .lintCallError := by
      have hne := hfailure.errorType
      cases htype : x.errorType <;> simp_all
    have htold : Session.isTold x (some (x.errorType.getD .manifestReadError)) =
        Session.isTold x none := by
      have hother : (some (x.errorType.getD .manifestReadError) != some .lintCallError) = true := by
        simpa [bne_iff_ne] using htype
      simp [Session.isTold, hother]
    simp only [Session.notice, Session.warmUpNotice, ValidationResult.failed,
      judge, hs, hx, Option.bind_some, htold, hfailure.shown,
      noticeFor_of_ne hfailure.message_ne]
    split <;> rfl

theorem notice_of_skipped (b : Batch) (hd : ¬ d.IsFile) (s : Session) {h : Host}
    {r : ValidationResult} (hr : (b.judge.verdict b.root b.outcome h d).1.result = .ok r) :
    s.notice r = .ok none := by
  rw [Session.verdict_of_skipped hd] at hr
  obtain rfl := Except.ok.inj hr
  rfl

/-- A validation that raises a fault has a module to call, so the outcome is no news. -/
theorem notice_of_raised (b : Batch) {h : Host} {e : Fault}
    (he : (b.judge.verdict b.root b.outcome h d).1.result = .error e) : b.notice = none := by
  obtain ⟨⟨m, hm⟩, -⟩ := Session.raised_of_verdict he
  rw [notice, hm]
  rfl

/-! ### The end -/

/-- The results of a batch, of which these documents were judged in this order. -/
def results (b : Batch) (judged : List Document) : List ValidationResult :=
  b.documents.filterMap fun d =>
    (Verdict.on? (b.tally judged).1 d.uri).bind fun x => x.result.toOption

/-- A batch that has ended with results. -/
structure Ended (b : Batch) (judged : List Document) (l : Loop) : Prop where
  all : judged.Perm b.documents
  sound : ∀ x ∈ (b.tally judged).1, ∃ r, x.result = .ok r
  result : l.result? b.parent = some (.validations (b.results judged))
  events : l.events = b.start.events ++ (b.tally judged).1.flatMap Verdict.events ++
    (b.told judged).toList.flatMap (shown b.start.asksQuestions)
  fixes : l.session.fixes =
    ((b.tally judged).1.foldl (fun s x => x.store s) b.start.session).fixes
  calls : Adds b.start l ((b.told judged).toList.map Prod.snd)
  resolver : (∃ d ∈ judged, d.IsFile) → l.session.resolver = b.marked judged

/-- A batch that has ended with a fault. -/
structure Failed (b : Batch) (judged : List Document) (e : Fault) (l : Loop) : Prop where
  known : ∀ d ∈ judged, d ∈ b.documents
  raised : ∃ x ∈ (b.tally judged).1, x.result = .error e
  result : l.result? b.parent = some (.raised e)
  events : l.events = b.start.events ++ (b.tally judged).1.flatMap Verdict.events
  calls : Adds b.start l []

/-- A batch that is over. -/
def IsOver (b : Batch) (judged : List Document) (l : Loop) : Prop :=
  b.Ended judged l ∨ ∃ e, b.Failed judged e l

theorem nodup_of_uris {ds : List Document} (h : (ds.map Document.uri).Nodup) : ds.Nodup :=
  List.Pairwise.of_map Document.uri (fun _ _ hne he => hne (congrArg Document.uri he)) h

theorem uris_tally (b : Batch) (judged : List Document) :
    (b.tally judged).1.map Verdict.uri = judged.map Document.uri :=
  Session.tally_uris _ _ _ _ _

/-- What stands in a row is looked up place by place. -/
theorem filterMap_range' {α β : Type} {f : Nat → Option β} {g : α → Option β} {n : Nat}
    {as : List α} (h : ∀ i a, as[i]? = some a → f (n + i) = g a) :
    (List.range' n as.length).filterMap f = as.filterMap g := by
  induction as generalizing n with
  | nil => rfl
  | cons a as ih =>
    have hrest := ih (n := n + 1) fun i a' ha' => by
      rw [Nat.add_assoc, Nat.add_comm 1]
      exact h (i + 1) a' ha'
    have hfirst : f n = g a := h 0 a rfl
    rw [List.length_cons, List.range'_succ, List.filterMap_cons, List.filterMap_cons, hfirst, hrest]

/-- Results of which some are news of one failure tell the user of it once. -/
theorem concludeBatch_of_one {n : Option (Nat × String × Bool)} {children : List Nat}
    (hone : ∀ r ∈ children.filterMap l.validation?,
      l.session.notice r = .ok none ∨ l.session.notice r = .ok n)
    (hsome : n ≠ none → ∃ r ∈ children.filterMap l.validation?, l.session.notice r = .ok n) :
    l.concludeBatch t children =
      (l.notify n).finish t (.validations (children.filterMap l.validation?)) := by
  obtain ⟨k, hk, hpos⟩ := Session.notices_of_one hone
  simp only [concludeBatch, hk]
  cases n with
  | none => simp [ErrorBatch.empty, ErrorBatch.announcements, notify]
  | some n =>
    obtain ⟨id, message, retry⟩ := n
    obtain ⟨k, rfl⟩ := Nat.exists_eq_add_of_lt (hpos.mpr (hsome (by simp)))
    simp only [Nat.zero_add, Option.toList_some, List.flatten_replicate_singleton,
      Session.markNotice_replicate, ErrorBatch.announcements_replicate]
    rfl

/-- The verdict on a document is found by its URI. -/
theorem Round.on?_of_mem (h : b.Round hand judged l) {x : Verdict}
    (hx : x ∈ (b.tally judged).1) : Verdict.on? (b.tally judged).1 x.uri = some x := by
  refine Verdict.on?_of_mem ?_ hx
  rw [uris_tally]
  exact h.once

/-- Once all have reported, no validation has raised a fault. -/
theorem not_raised (count : l.outstanding hand b.parent = 0) (unheard : b.Unheard hand l)
    (ht : t ∈ b.children) (e : Fault) : l.result? t ≠ some (.raised e) := by
  intro he
  obtain hqueue | rfl := unheard t ht e he
  · have hpos : 0 < l.pending b.parent := pending_pos.mpr (.inr ⟨t, hqueue⟩)
    rw [outstanding] at count
    omega
  · simp [outstanding, Turn.reportsTo] at count

/-- Once all have reported, all documents have been judged and have results. -/
theorem Round.allDone (h : b.Round hand judged l) (count : l.outstanding hand b.parent = 0)
    (unheard : b.Unheard hand l) (hd : b.documents[i]? = some d) :
    ∃ x ∈ (b.tally judged).1, x.uri = d.uri ∧ d ∈ judged ∧
      ∃ r, x.result = .ok r ∧ l.result? (b.child i) = some (.validation r) := by
  obtain ⟨hnone, -⟩ | ⟨x, hx, huri, hjudged, hr⟩ := (h.stands i d hd).result_cases
  · have hpos : ∀ s : Stage, s.isDone = false →
        l.tasks[b.child i]? = some ⟨.validate d, .task b.parent, s⟩ → 0 < l.pending b.parent :=
      fun s hs ht => pending_pos.mpr (.inl ⟨_, _, ht, rfl, hs⟩)
    have hzero : l.pending b.parent = 0 := by
      rw [outstanding] at count
      omega
    cases h.stands i d hd with
    | ready task turn unjudged => exact absurd (hpos _ rfl task) (by omega)
    | waits v task => exact absurd (hpos _ rfl task) (by omega)
    | goesOn v task => exact absurd (hpos _ rfl task) (by omega)
    | done x mem uri task hjudged => simp [result?, stage?_of_task task] at hnone
  · refine ⟨x, hx, huri, hjudged, ?_⟩
    rw [Verdict.ended] at hr
    cases hres : x.result with
    | ok r =>
      rw [hres] at hr
      exact ⟨r, rfl, hr⟩
    | error e =>
      rw [hres] at hr
      exact absurd hr (not_raised count unheard (child_mem hd) e)

/-- Once the document of a file is judged, the attempt has settled. -/
theorem Round.resolver_of_file (h : b.Round hand judged l) (hfile : ∃ d ∈ judged, d.IsFile) :
    l.session.resolver = b.resolved.resolver := by
  obtain ⟨d, hd, hisFile⟩ := hfile
  cases h.attempt with
  | unasked _ _ _ skipped => exact absurd hisFile (skipped d hd)
  | begun _ _ _ _ skipped => exact absurd hisFile (skipped d hd)
  | settled resolver _ => exact resolver

/-- A batch whose validations have all reported ends at its turn: it returns one result for each
document, in their order, and tells the user of the outcome once. -/
theorem Round.concludesBatch (h : b.Round hand judged l)
    (count : l.outstanding hand b.parent = 0) (unheard : b.Unheard hand l) :
    judged.Perm b.documents ∧ (∀ x ∈ (b.tally judged).1, ∃ r, x.result = .ok r) ∧
      l.concludeBatch b.parent b.children =
        (l.notify (b.told judged)).finish b.parent (.validations (b.results judged)) := by
  have hmem : ∀ d, d ∈ judged ↔ d ∈ b.documents := by
    refine fun d => ⟨h.known d, fun hd => ?_⟩
    obtain ⟨i, hi⟩ := List.mem_iff_getElem?.mp hd
    obtain ⟨-, -, -, hjudged, -⟩ := h.allDone count unheard hi
    exact hjudged
  have hsound : ∀ x ∈ (b.tally judged).1, ∃ r, x.result = .ok r := by
    intro x hx
    obtain ⟨d, hd, host, rfl⟩ := Session.mem_tally _ _ _ hx
    obtain ⟨i, hi⟩ := List.mem_iff_getElem?.mp ((hmem d).mp hd)
    obtain ⟨x', hx', huri, -, r, hr, -⟩ := h.allDone count unheard hi
    have hsame := h.on?_of_mem hx
    rw [Session.verdict_uri, ← huri, h.on?_of_mem hx'] at hsame
    exact ⟨r, Option.some.inj hsame ▸ hr⟩
  have hresults : b.children.filterMap l.validation? = b.results judged := by
    refine filterMap_range' fun i d hd => ?_
    obtain ⟨x, hx, huri, -, r, hr, hresult⟩ := h.allDone count unheard hd
    have hon : Verdict.on? (b.tally judged).1 d.uri = some x := huri ▸ h.on?_of_mem hx
    rw [hon, validation?, show b.parent + 1 + i = b.child i from rfl, hresult, Option.bind_some, hr]
    rfl
  have hverdict : ∀ r ∈ b.results judged, ∃ d ∈ b.documents, ∃ host,
      (b.judge.verdict b.root b.outcome host d).1.result = .ok r := by
    intro r hr
    obtain ⟨d, hd, hr⟩ := List.mem_filterMap.mp hr
    obtain ⟨x, hx, hr⟩ := Option.bind_eq_some_iff.mp hr
    obtain ⟨d', hd', host, rfl⟩ := Session.mem_tally _ _ _ (Verdict.mem_of_on? hx).1
    refine ⟨d', (hmem d').mp hd', host, ?_⟩
    cases hx : (b.judge.verdict b.root b.outcome host d').1.result with
    | ok r' =>
      rw [hx] at hr
      exact congrArg Except.ok (Option.some.inj hr)
    | error e => simp [hx, Except.toOption] at hr
  refine ⟨(List.perm_ext_iff_of_nodup (nodup_of_uris h.once)
    (nodup_of_uris b.distinct)).mpr hmem, hsound, ?_⟩
  rw [← hresults] at hverdict ⊢
  refine concludeBatch_of_one (fun r hr => ?_) fun htold => ?_
  · obtain ⟨d, hd, host, hr⟩ := hverdict r hr
    by_cases hisFile : d.IsFile
    · have hfile : ∃ d ∈ judged, d.IsFile := ⟨d, (hmem d).mpr hd, hisFile⟩
      rw [told, if_pos hfile]
      exact .inr (b.notice_of_file hisFile (h.resolver_of_file hfile) hr)
    · exact .inl (b.notice_of_skipped hisFile l.session hr)
  · have hfile : ∃ d ∈ judged, d.IsFile := by
      refine Classical.byContradiction fun hnone => htold ?_
      rw [told, if_neg hnone]
    rw [told, if_pos hfile, hresults]
    have hresolver := h.resolver_of_file hfile
    obtain ⟨d, hjudged, hisFile⟩ := hfile
    have hd := (hmem d).mp hjudged
    obtain ⟨i, hi⟩ := List.mem_iff_getElem?.mp hd
    obtain ⟨x, hx, huri, -, r, hr, -⟩ := h.allDone count unheard hi
    have hon : Verdict.on? (b.tally judged).1 d.uri = some x := huri ▸ h.on?_of_mem hx
    refine ⟨r, List.mem_filterMap.mpr ⟨d, hd, by rw [hon, Option.bind_some, hr]; rfl⟩, ?_⟩
    obtain ⟨d', hd', host, rfl⟩ := Session.mem_tally _ _ _ hx
    rw [Session.verdict_uri] at huri
    obtain rfl := uri_inj hd ((hmem d').mp hd') huri
    exact b.notice_of_file hisFile hresolver hr

theorem resolver_markNotices (s : Session) (told : List (Nat × String × Bool)) :
    (told.foldl Session.markNotice s).resolver =
      told.foldl (fun r n => r.markSurfaced n.1) s.resolver := by
  induction told generalizing s with
  | nil => rfl
  | cons n told ih => exact ih _

theorem fixes_markNotices (s : Session) (told : List (Nat × String × Bool)) :
    (told.foldl Session.markNotice s).fixes = s.fixes := by
  rw [s.foldl_markNotice told]

theorem Round.ends (h : b.Round hand judged l) {job : Job} {s : Stage}
    (ht : l.tasks[b.parent]? = some ⟨job, .nobody, s⟩)
    (count : l.outstanding hand b.parent = 0) (unheard : b.Unheard hand l) :
    b.Ended judged (l.concludeBatch b.parent b.children) := by
  obtain ⟨hperm, hsound, hl⟩ := h.concludesBatch count unheard
  rw [hl]
  refine ⟨hperm, hsound, result?_notify_finish ht _ _, ?_, ?_, ?_, fun hfile => ?_⟩
  · rw [events_finish, events_notify, h.events, h.asks]
  · rw [session_finish, session_notify, fixes_markNotices, h.fixes]
  · simpa using h.calls.trans ((adds_notify l _).trans (silent_finish _ _ _).calls)
  · rw [session_finish, session_notify, resolver_markNotices, h.resolver_of_file hfile]
    rfl

/-- A batch that has been told of a fault raises it. -/
theorem Round.fails (h : b.Round hand judged l) {job : Job} {s : Stage} {e : Fault}
    (ht : l.tasks[b.parent]? = some ⟨job, .nobody, s⟩)
    (raised : ∃ x ∈ (b.tally judged).1, x.result = .error e) :
    b.Failed judged e (l.finish b.parent (.raised e)) where
  known := h.known
  raised := raised
  result := result?_finish (List.getElem?_eq_some_iff.mp ht).1 _
  events := (events_finish _ _ _).trans h.events
  calls := h.calls.trans (silent_finish _ _ _).calls

/-- A turn that a batch has asked for takes it further, and leaves less to do; the last one ends
it. -/
theorem Round.take (h : b.Round (some turn) judged l) :
    (∃ judged', b.Round none judged' (l.take turn) ∧
      b.Moves turn judged judged' l (l.take turn) ∧
      b.effort (l.take turn) < b.effort l + b.turnEffort turn) ∨
    b.Ended judged (l.take turn) ∨
    ∃ e, l.stage? b.parent = some (.gathered b.children (some e)) ∧
      b.Failed judged e (l.take turn) := by
  have hdue := h.due turn (.inr rfl)
  cases turn with
  | start t => exact .inl h.start
  | relay t => exact .inl ⟨judged, h.relay⟩
  | attempt id =>
    obtain rfl : id = b.attempt := hdue
    exact .inl ⟨judged, h.attempts⟩
  | rest id =>
    obtain rfl : id = b.attempt := hdue
    exact .inl ⟨judged, h.rest⟩
  | report p c =>
    obtain ⟨rfl, -⟩ : p = b.parent ∧ c ∈ b.children := hdue
    exact .inl ⟨judged, h.reports⟩
  | complain t => exact hdue.elim
  | pause => exact hdue.elim
  | wake t =>
    by_cases hchild : t ∈ b.children
    · have hne : t ≠ b.parent := by
        obtain ⟨i, -, rfl⟩ := b.mem_children.mp hchild
        exact b.child_ne_parent i
      obtain ⟨judged', hround, hmoves, hless⟩ := h.wake hchild
      exact .inl ⟨judged', hround, hmoves, by simpa only [turnEffort, if_neg hne] using hless⟩
    · obtain rfl : t = b.parent := hdue.resolve_left hchild
      cases h.gathering with
      | counts job missing task count positive unheard =>
        have hsame : l.take (.wake b.parent) = l := by
          simp only [Loop.take, resume, stage?_of_task task]
        rw [hsame]
        refine .inl ⟨judged, h.drop (h.attempt.drop rfl) ?_ ?_,
          .works (.inr rfl) rfl [] (List.append_nil _).symm (by simp) rfl rfl fun _ => rfl, ?_⟩
        · intro i d hd hmine
          exact absurd (Option.some.inj hmine).symm (b.child_ne_parent i)
        · refine fun _ => .counts job missing task ?_ positive fun t ht e he => ?_
          · simpa [outstanding, Turn.reportsTo] using count
          · exact .inl ((unheard t ht e he).queue (by simp))
        · simp [turnEffort]
      | complete job task count turn unheard =>
        have htake : l.take (.wake b.parent) = l.concludeBatch b.parent b.children := by
          simp only [Loop.take, resume, stage?_of_task task]
        rw [htake]
        exact .inr (.inl (h.ends task count unheard))
      | failed job e task turn raised =>
        have htake : l.take (.wake b.parent) = l.finish b.parent (.raised e) := by
          simp only [Loop.take, resume, stage?_of_task task]
        rw [htake]
        exact .inr (.inr ⟨e, stage?_of_task task, h.fails task raised⟩)

/-- A step of a batch that is on its way, whichever turn is taken. -/
theorem Round.act (h : b.Round none judged l) (hi : i < l.queue.length) :
    (∃ judged', b.Round none judged' (l.act (.turn i)) ∧ b.effort (l.act (.turn i)) < b.effort l) ∨
    ∃ judged', b.IsOver judged' (l.act (.turn i)) := by
  have hperm : l.queue.Perm (l.queue[i] :: l.queue.eraseIdx i) :=
    (List.getElem_cons_eraseIdx_perm hi).symm
  have hsum := (hperm.map b.turnEffort).sum_nat
  have hhand : b.Round (some l.queue[i]) judged { l with queue := l.queue.eraseIdx i } :=
    Round.inHand (l := { l with queue := l.queue.eraseIdx i }) h hperm
  have hact : l.act (.turn i) = Loop.take { l with queue := l.queue.eraseIdx i } l.queue[i] := by
    simp only [Loop.act, List.getElem?_eq_getElem hi]
  rw [hact]
  obtain ⟨judged', hround, -, hless⟩ | hended | ⟨e, -, hfailed⟩ := hhand.take
  · refine .inl ⟨judged', hround, Nat.lt_of_lt_of_eq hless ?_⟩
    simp only [effort, hsum, List.map_cons, List.sum_cons]
    omega
  · exact .inr ⟨judged, .inl hended⟩
  · exact .inr ⟨judged, .inr ⟨e, hfailed⟩⟩

theorem Round.not_areOver (h : b.Round none judged l) : l.areOver [b.parent] = false := by
  cases h.gathering with
  | counts job missing task => simp [areOver, stage?_of_task task, Stage.isOver]
  | complete job task => simp [areOver, stage?_of_task task, Stage.isOver]
  | failed job e task => simp [areOver, stage?_of_task task, Stage.isOver]

theorem IsOver.areOver (h : b.IsOver judged l) : l.areOver [b.parent] = true := by
  obtain hended | ⟨e, hfailed⟩ := h
  · simp [Loop.areOver, result?_eq_some.mp hended.result, Stage.isOver]
  · simp [Loop.areOver, result?_eq_some.mp hfailed.result, Stage.isOver]

/-- As long as a batch is on its way something is left to do. -/
theorem Round.effort_pos (h : b.Round none judged l) : 0 < b.effort l := by
  obtain ⟨turn, queue, hq⟩ := List.exists_cons_of_ne_nil h.queue_ne
  have hpos : 0 < b.turnEffort turn := by
    cases turn with
    | wake t =>
      simp only [turnEffort]
      split <;> omega
    | _ => simp [turnEffort]
  simp only [effort, hq, List.map_cons, List.sum_cons]
  omega

/-- A batch ends whichever of its turns are taken first, if only enough of them are taken. -/
theorem Round.ends_inOrder (h : b.Round none judged l) {order : List Nat}
    (enough : b.effort l ≤ order.length) :
    ∃ judged', b.IsOver judged' (drainInOrder [b.parent] order l) := by
  induction order generalizing judged l with
  | nil => exact absurd (Nat.le_zero.mp enough) (Nat.ne_of_gt h.effort_pos)
  | cons i order ih =>
    have hi : i % l.queue.length < l.queue.length :=
      Nat.mod_lt _ (List.length_pos_iff.mpr h.queue_ne)
    rw [drainInOrder, h.not_areOver]
    obtain ⟨judged', hround, hless⟩ | ⟨judged', hover⟩ := h.act hi
    · refine ih hround ?_
      simp only [List.length_cons] at enough
      omega
    · rw [if_neg (by simp), drainInOrder_of_areOver hover.areOver]
      exact ⟨judged', hover⟩

/-- A batch that begins is over after so many turns. -/
theorem comes_to_end (b : Batch) {job : Job} (hjob : job.error? = none) {order : List Nat}
    (enough : 9 * b.documents.length + 13 ≤ order.length) :
    ∃ judged, b.IsOver judged (drainInOrder [b.parent] order (b.begun job)) := by
  by_cases hsome : b.documents = []
  · have hadded : Adds b.start (b.start.addTask job .nobody).1 [] :=
      ⟨[], [job], by simp [addTask], by simp [addTask], by simp [hjob]⟩
    have hparent : (b.start.addTask job .nobody).1.tasks[b.parent]? =
        some ⟨job, .nobody, .ready⟩ := by
      simp [addTask, parent]
    have htold : b.told [] = none := by simp [told]
    have hended : b.Ended [] (b.begun job) := by
      rw [b.begun_of_nil hsome]
      refine ⟨by simp [hsome], by simp [tally, Session.tally], ?_, ?_, ?_, ?_, by simp⟩
      · have hresult := result?_notify_finish hparent none (.validations [])
        simpa [notify, results, hsome] using hresult
      · simp [events_finish, addTask, htold, tally, Session.tally]
      · simp [session_finish, addTask, tally, Session.tally]
      · simpa [htold] using hadded.trans (silent_finish _ _ _).calls
    have hover : b.IsOver [] (b.begun job) := .inl hended
    rw [drainInOrder_of_areOver hover.areOver]
    exact ⟨[], hover⟩
  · obtain ⟨hround, heffort⟩ := Round.begins b hsome hjob
    exact hround.ends_inOrder (by omega)

end Batch

end LintBridge
