import LintBridge.Loop
import LintBridge.Proofs.Session.Basic

/-! What the parts of a turn change. Most of them are quiet: they leave all tasks where they
stand, publish no list, and change nothing of the session but its resolver. A turn puts one task
into another place, and what it does besides is quiet, or begins or concludes that task's
validation. What only tells the editor or asks for turns is even calm: it leaves the resolver's
attempts alone. -/

namespace LintBridge

/-- Noting what was told changes nothing but the failures. -/
theorem Session.foldl_markNotice (s : Session) (told : List (Nat × String × Bool)) :
    told.foldl markNotice s = { s with
      resolver := { s.resolver with
        failures := (told.foldl markNotice s).resolver.failures } } := by
  induction told generalizing s with
  | nil => rfl
  | cons n told ih =>
    rw [List.foldl_cons, ih]
    rfl

/-- Is an event the list of a document? -/
def Event.isList : Event → Bool
  | publish .. => true
  | _ => false

namespace Loop

variable {l l' l'' : Loop}

/-- The lists that were published, in order. -/
def lists (l : Loop) : List Event :=
  l.events.filter Event.isList

theorem lists_of_events {l l' : Loop} {es : List Event} (h : l'.events = l.events ++ es) :
    l'.lists = l.lists ++ es.filter Event.isList := by
  rw [Loop.lists, h, List.filter_append]
  rfl

/-! ### Where tasks stand -/

/-- The task that a turn is about, which is due that turn. -/
def turnTask? : Turn → Option Nat
  | .start t | .relay t | .wake t | .report t _ => some t
  | _ => none

/-- Has a task begun, or been cancelled before it could? -/
def hasBegun (l : Loop) (t : Nat) : Bool :=
  match l.stage? t with
  | none | some .ready => false
  | _ => true

/-- Is a task there and not over? -/
def IsOpen (l : Loop) (t : Nat) : Prop :=
  ∃ s, l.stage? t = some s ∧ s.isOver = false

theorem stage?_lt {t : Nat} {s : Stage} (h : l.stage? t = some s) : t < l.tasks.length := by
  obtain ⟨a, ha, -⟩ := Option.map_eq_some_iff.mp h
  exact (List.getElem?_eq_some_iff.mp ha).1

theorem stage?_of_task {t : Nat} {task : Task} (h : l.tasks[t]? = some task) :
    l.stage? t = some task.stage := by
  rw [stage?, h]
  rfl

theorem isOpen_of_task {t : Nat} {task : Task} (h : l.tasks[t]? = some task)
    (hopen : task.stage.isOver = false) : l.IsOpen t :=
  ⟨task.stage, stage?_of_task h, hopen⟩

theorem IsOpen.lt {t : Nat} (h : l.IsOpen t) : t < l.tasks.length := by
  obtain ⟨s, hs, -⟩ := h
  exact stage?_lt hs

theorem stage?_setStage_self {t : Nat} (h : t < l.tasks.length) (s : Stage) :
    (l.setStage t s).stage? t = some s := by
  simp [stage?, setStage, h]

theorem stage?_setStage_of_ne {t t' : Nat} (h : t ≠ t') (s : Stage) :
    (l.setStage t s).stage? t' = l.stage? t' := by
  simp [stage?, setStage, h]

theorem task?_setStage_of_ne {t t' : Nat} (h : t ≠ t') (s : Stage) :
    (l.setStage t s).tasks[t']? = l.tasks[t']? := by
  simp [setStage, h]

theorem hasBegun_eq_true {t : Nat} :
    l.hasBegun t = true ↔ ∃ s, l.stage? t = some s ∧ s ≠ .ready := by
  simp only [hasBegun]
  cases l.stage? t with
  | none => simp
  | some s => cases s <;> simp

theorem hasBegun_setStage_self {t : Nat} (h : t < l.tasks.length) {s : Stage}
    (hs : s ≠ .ready) : (l.setStage t s).hasBegun t = true :=
  hasBegun_eq_true.mpr ⟨s, stage?_setStage_self h s, hs⟩

theorem hasBegun_setStage_of_ne {t t' : Nat} (h : t ≠ t') (s : Stage) :
    (l.setStage t s).hasBegun t' = l.hasBegun t' := by
  simp only [hasBegun, stage?_setStage_of_ne h]

/-- A task came to a result exactly if it stands there. -/
theorem result?_eq_some {t : Nat} {r : TaskResult} :
    l.result? t = some r ↔ l.stage? t = some (.done r) := by
  simp only [result?]
  split <;> simp_all

/-- A task that is not over has not come to a result. -/
theorem IsOpen.result? {t : Nat} (h : l.IsOpen t) : l.result? t = none := by
  obtain ⟨s, hs, ho⟩ := h
  simp only [Loop.result?, hs]
  cases s <;> simp_all [Stage.isOver]

/-! ### Tasks that are added -/

/-- Tasks that have not begun may be added; those that there are stay where they stand. -/
def Extends (l l' : Loop) : Prop :=
  ∃ new, l'.tasks = l.tasks ++ new ∧ ∀ t ∈ new, t.stage = .ready

theorem Extends.refl (l : Loop) : Extends l l :=
  ⟨[], by simp⟩

theorem Extends.trans (h : Extends l l') (h' : Extends l' l'') : Extends l l'' := by
  obtain ⟨new, ht, hn⟩ := h
  obtain ⟨new', ht', hn'⟩ := h'
  refine ⟨new ++ new', by rw [ht', ht, List.append_assoc], fun t hm => ?_⟩
  exact (List.mem_append.mp hm).elim (hn t) (hn' t)

theorem Extends.length_le (h : Extends l l') : l.tasks.length ≤ l'.tasks.length := by
  obtain ⟨new, ht, -⟩ := h
  simp [ht]

theorem Extends.task?_lt (h : Extends l l') {t : Nat} (ht : t < l.tasks.length) :
    l'.tasks[t]? = l.tasks[t]? := by
  obtain ⟨new, hnew, -⟩ := h
  rw [hnew, List.getElem?_append_left ht]

theorem Extends.task? (h : Extends l l') {t : Nat} {task : Task} (ht : l.tasks[t]? = some task) :
    l'.tasks[t]? = some task :=
  (h.task?_lt (List.getElem?_eq_some_iff.mp ht).1).trans ht

theorem Extends.stage? (h : Extends l l') {t : Nat} (ht : t < l.tasks.length) :
    l'.stage? t = l.stage? t := by
  rw [Loop.stage?, h.task?_lt ht, Loop.stage?]

/-- A task that was added has not begun. -/
theorem Extends.stage?_new (h : Extends l l') {t : Nat} {s : Stage} (ht : l.tasks.length ≤ t)
    (hs : l'.stage? t = some s) : s = .ready := by
  obtain ⟨new, hnew, hready⟩ := h
  rw [Loop.stage?, hnew, List.getElem?_append_right ht] at hs
  obtain ⟨a, ha, rfl⟩ := Option.map_eq_some_iff.mp hs
  exact hready a (List.mem_of_getElem? ha)

/-- What has begun is what had begun, and stands where it stood. -/
theorem Extends.stage?_iff (h : Extends l l') {t : Nat} {s : Stage} (hs : s ≠ .ready) :
    l'.stage? t = some s ↔ l.stage? t = some s := by
  by_cases ht : t < l.tasks.length
  · rw [h.stage? ht]
  · refine ⟨fun hnew => absurd (h.stage?_new (Nat.le_of_not_lt ht) hnew) hs, fun hold => ?_⟩
    exact absurd (stage?_lt hold) ht

theorem Extends.hasBegun (h : Extends l l') (t : Nat) : l'.hasBegun t = l.hasBegun t := by
  rw [Bool.eq_iff_iff, hasBegun_eq_true, hasBegun_eq_true]
  exact exists_congr fun s => and_congr_left h.stage?_iff

theorem Extends.result? (h : Extends l l') (t : Nat) : l'.result? t = l.result? t := by
  refine Option.ext fun r => ?_
  rw [result?_eq_some, result?_eq_some]
  exact h.stage?_iff (by simp)

/-- To put a task into another place and to add tasks can be done in either order. -/
theorem Extends.setStage (h : Extends l l') {t : Nat} (ht : t < l.tasks.length) (s : Stage) :
    Extends (l.setStage t s) (l'.setStage t s) := by
  obtain ⟨new, hnew, hready⟩ := h
  refine ⟨new, List.ext_getElem? fun i => ?_, hready⟩
  simp only [Loop.setStage, hnew, List.getElem?_modify, List.getElem?_append, List.length_modify]
  by_cases hi : i < l.tasks.length
  · simp [hi]
  · have hne : t ≠ i := by omega
    simp [hi, hne]

/-! ### Quiet changes -/

/-- A quiet change may add tasks that have not begun. It leaves the tasks there are, publishes no
list and changes nothing of the session but its resolver. -/
structure Quiet (l l' : Loop) : Prop where
  tasks : ∃ new, l'.tasks = l.tasks ++ new ∧ ∀ t ∈ new, t.stage = .ready
  session : l'.session = { l.session with resolver := l'.session.resolver }
  lists : l'.lists = l.lists

/-- A change of anything but tasks, numbers and events. -/
theorem Quiet.of_tasks (tasks : l'.tasks = l.tasks)
    (session : l'.session = { l.session with resolver := l'.session.resolver })
    (events : l'.events = l.events) : Quiet l l' :=
  ⟨⟨[], by simp [tasks]⟩, session, congrArg (List.filter Event.isList) events⟩

theorem Quiet.refl (l : Loop) : Quiet l l :=
  .of_tasks rfl rfl rfl

theorem Quiet.trans (h : Quiet l l') (h' : Quiet l' l'') : Quiet l l'' := by
  refine ⟨Extends.trans h.tasks h'.tasks, ?_, ?_⟩
  · rw [h'.session, h.session]
  · rw [h'.lists, h.lists]

theorem Quiet.extends (h : Quiet l l') : Extends l l' :=
  h.tasks

theorem Quiet.stage? (h : Quiet l l') {t : Nat} (ht : t < l.tasks.length) :
    l'.stage? t = l.stage? t :=
  h.extends.stage? ht

theorem Quiet.stage?_new (h : Quiet l l') {t : Nat} {s : Stage} (ht : l.tasks.length ≤ t)
    (hs : l'.stage? t = some s) : s = .ready :=
  h.extends.stage?_new ht hs

theorem Quiet.stage?_iff (h : Quiet l l') {t : Nat} {s : Stage} (hs : s ≠ .ready) :
    l'.stage? t = some s ↔ l.stage? t = some s :=
  h.extends.stage?_iff hs

theorem Quiet.hasBegun (h : Quiet l l') (t : Nat) : l'.hasBegun t = l.hasBegun t :=
  h.extends.hasBegun t

theorem Quiet.result? (h : Quiet l l') (t : Nat) : l'.result? t = l.result? t :=
  h.extends.result? t

theorem Quiet.isOpen (h : Quiet l l') {t : Nat} (ht : l.IsOpen t) : l'.IsOpen t := by
  obtain ⟨s, hs, ho⟩ := ht
  exact ⟨s, (h.stage? (stage?_lt hs)).trans hs, ho⟩

/-! ### Calm changes -/

/-- A calm change is quiet, asks for more turns, adds nothing but questions, and changes nothing of
the resolver but its failures. -/
structure Calm (l l' : Loop) : Prop where
  documents : l'.documents = l.documents
  session : l'.session = { l.session with
    resolver := { l.session.resolver with failures := l'.session.resolver.failures } }
  host : l.host.Grows l'.host
  tasks : ∃ new, l'.tasks = l.tasks ++ new ∧
    ∀ t ∈ new, t.stage = .ready ∧ ∃ message, t.job = .question message
  starts : ∀ t, l.tasks.length ≤ t → t < l'.tasks.length → .start t ∈ l'.queue
  queue : ∀ turn ∈ l.queue, turn ∈ l'.queue
  waiting : l'.waiting = l.waiting
  lists : l'.lists = l.lists

theorem Calm.quiet (h : Calm l l') : Quiet l l' := by
  obtain ⟨new, ht, hn⟩ := h.tasks
  refine ⟨⟨new, ht, fun t hm => (hn t hm).1⟩, ?_, h.lists⟩
  rw [h.session]

/-- A change of anything but tasks that publishes no list. -/
theorem Calm.of_tasks (tasks : l'.tasks = l.tasks) (documents : l'.documents = l.documents)
    (session : l'.session = { l.session with
      resolver := { l.session.resolver with failures := l'.session.resolver.failures } })
    (host : l.host.Grows l'.host) (queue : ∀ turn ∈ l.queue, turn ∈ l'.queue)
    (waiting : l'.waiting = l.waiting) (lists : l'.lists = l.lists) : Calm l l' where
  documents := documents
  session := session
  host := host
  tasks := ⟨[], by simp [tasks]⟩
  starts t hle hlt := by
    rw [tasks] at hlt
    omega
  queue := queue
  waiting := waiting
  lists := lists

theorem Calm.refl (l : Loop) : Calm l l :=
  .of_tasks rfl rfl rfl (.refl _) (fun _ h => h) rfl rfl

theorem Calm.trans (h : Calm l l') (h' : Calm l' l'') : Calm l l'' := by
  obtain ⟨new, ht, hn⟩ := h.tasks
  obtain ⟨new', ht', hn'⟩ := h'.tasks
  refine ⟨h'.documents.trans h.documents, ?_, h.host.trans h'.host, ?_, ?_,
    fun turn hm => h'.queue turn (h.queue turn hm), h'.waiting.trans h.waiting,
    h'.lists.trans h.lists⟩
  · rw [h'.session, h.session]
  · refine ⟨new ++ new', by rw [ht', ht, List.append_assoc], fun t hm => ?_⟩
    exact (List.mem_append.mp hm).elim (hn t) (hn' t)
  · intro t hle hlt
    by_cases hmid : t < l'.tasks.length
    · exact h'.queue _ (h.starts t hle hmid)
    · exact h'.starts t (Nat.le_of_not_lt hmid) hlt

/-! ### What is calm -/

theorem calm_enqueue (l : Loop) (t : Turn) : Calm l (l.enqueue t) :=
  .of_tasks rfl rfl rfl (.refl _) (fun _ h => List.mem_append_left _ h) rfl rfl

theorem calm_host (l : Loop) {h : Host} (hg : l.host.Grows h) : Calm l { l with host := h } :=
  .of_tasks rfl rfl rfl hg (fun _ h => h) rfl rfl

theorem calm_note (l : Loop) (level : LogLevel) (message : String) :
    Calm l { l with host := l.host.note level message } :=
  calm_host l ((Host.Agrees.refl _).note _ _).grows

/-- Failures are recorded, or noted as told. -/
theorem calm_failures (l : Loop) (fs : List Failure) :
    Calm l { l with session.resolver.failures := fs } :=
  .of_tasks rfl rfl rfl (.refl _) (fun _ h => h) rfl rfl

/-- A failure that an outcome is counts as told. -/
theorem calm_markOutcome (l : Loop) (o : Outcome) :
    Calm l { l with session := l.session.markOutcome o } := by
  cases o with
  | absent => exact .refl l
  | present m => exact .refl l
  | failed id => exact calm_failures l _

theorem calm_question (l : Loop) (message : String) :
    Calm l (l.spawn (.question message) .nobody).1 where
  documents := rfl
  session := rfl
  host := .refl _
  tasks := ⟨[⟨.question message, .nobody, .ready⟩], rfl, by simp⟩
  starts t hle hlt := by
    have ht : t = l.tasks.length := by
      have hlen : t < l.tasks.length + 1 := by simpa [spawn, addTask, enqueue] using hlt
      omega
    subst ht
    exact List.mem_append_right _ List.mem_cons_self
  queue turn h := List.mem_append_left _ h
  waiting := rfl
  lists := rfl

theorem calm_emit (l : Loop) {es : List Event} (h : es.filter Event.isList = []) :
    Calm l (l.emit es) :=
  .of_tasks rfl rfl rfl (.refl _) (fun _ h => h) rfl
    (by rw [lists_of_events rfl, h, List.append_nil])

/-- The editor is asked a question. -/
theorem calm_ask (l : Loop) (message : String) :
    Calm l ({ l with requests := l.requests + 1 }.emit [.ask l.requests message]) :=
  .of_tasks rfl rfl rfl (.refl _) (fun _ h => h) rfl
    (by rw [lists_of_events rfl]; exact List.append_nil _)

theorem calm_tell (l : Loop) (message : String) (retry : Bool) :
    Calm l (l.tell message retry) := by
  unfold tell
  split
  · exact calm_question l message
  · exact calm_emit l rfl

theorem calm_notify (l : Loop) (notice : Option (Nat × String × Bool)) :
    Calm l (l.notify notice) := by
  cases notice with
  | none => exact .refl l
  | some n => exact (calm_failures l _).trans (calm_tell _ _ _)

/-- Ending a task puts it at its end, and asks for turns. -/
theorem calm_finish (l : Loop) (t : Nat) (r : TaskResult) :
    Calm (l.setStage t (.done r)) (l.finish t r) := by
  simp only [finish]
  split
  · exact calm_enqueue _ _
  · exact calm_enqueue _ _
  · exact .refl _

@[simp] theorem session_finish (l : Loop) (t : Nat) (r : TaskResult) :
    (l.finish t r).session = l.session := by
  simp only [finish]
  split <;> rfl

@[simp] theorem host_finish (l : Loop) (t : Nat) (r : TaskResult) :
    (l.finish t r).host = l.host := by
  simp only [finish]
  split <;> rfl

@[simp] theorem events_finish (l : Loop) (t : Nat) (r : TaskResult) :
    (l.finish t r).events = l.events := by
  simp only [finish]
  split <;> rfl

theorem result?_finish {t : Nat} (ht : t < l.tasks.length) (r : TaskResult) :
    (l.finish t r).result? t = some r := by
  rw [(calm_finish l t r).quiet.result?, result?_eq_some]
  exact stage?_setStage_self ht _

theorem calm_foldl {α : Type} {f : Loop → α → Loop} (h : ∀ l a, Calm l (f l a)) (l : Loop)
    (as : List α) : Calm l (as.foldl f l) := by
  induction as generalizing l with
  | nil => exact .refl l
  | cons a as ih => exact (h l a).trans (ih (f l a))

/-- What a batch has to tell is told, and noted as told. -/
theorem calm_announce (l : Loop) (told : List (Nat × String × Bool))
    (announcements : List (String × Json)) :
    Calm l (announcements.foldl (fun l p => l.tell p.1 p.2.truthy)
      { l with session := told.foldl Session.markNotice l.session }) := by
  have hmarked : Calm l { l with session := told.foldl Session.markNotice l.session } :=
    .of_tasks rfl rfl (Session.foldl_markNotice _ _) (.refl _) (fun _ h => h) rfl rfl
  exact hmarked.trans (calm_foldl (fun l p => calm_tell l p.1 p.2.truthy) _ announcements)

/-! ### Going on with a validation -/

/-- The loop in which a validation has been concluded. -/
def concluded (l : Loop) (v : Validation) (o : Outcome) : Loop :=
  { l with
    session := (l.session.conclude l.host v o).2.2.1
    host := (l.session.conclude l.host v o).2.2.2 }.emit (l.session.conclude l.host v o).2.1

/-- How a task that goes on with its validation comes to its end: there is no result, or there is
one that the user need not be told of, or the notice of it cannot be made, or it is told. -/
inductive Concluding (l : Loop) (t : Nat) (v : Validation) (o : Outcome) (told : Bool) :
    Loop → Prop where
  | untold (e : Fault) (result : (l.session.conclude l.host v o).1 = .error e) :
      Concluding l t v o told ((l.concluded v o).finish t (.raised e))
  | silent (r : ValidationResult) (result : (l.session.conclude l.host v o).1 = .ok r)
      (isTold : told = false) :
      Concluding l t v o told ((l.concluded v o).finish t (.validation r))
  | unnoticed (r : ValidationResult) (result : (l.session.conclude l.host v o).1 = .ok r)
      (isTold : told = true) (e : Fault) (notice : (l.concluded v o).session.notice r = .error e) :
      Concluding l t v o told ({ l.concluded v o with
        session := (l.concluded v o).session.markOutcome o }.finish t (.raised e))
  | noticed (r : ValidationResult) (result : (l.session.conclude l.host v o).1 = .ok r)
      (isTold : told = true) (n : Option (Nat × String × Bool))
      (notice : (l.concluded v o).session.notice r = .ok n) :
      Concluding l t v o told (((l.concluded v o).notify n).finish t (.validation r))

theorem proceed_conclude_cases (l : Loop) (t : Nat) (v : Validation) (o : Outcome) (told : Bool) :
    Concluding l t v o told (l.proceed t (.conclude v told) o) := by
  simp only [proceed]
  split
  · rename_i e he
    exact .untold e he
  · rename_i r hr
    split
    · rename_i htold
      split
      · rename_i e he
        exact .unnoticed r hr htold e he
      · rename_i n hn
        exact .noticed r hr htold n hn
    · rename_i htold
      exact .silent r hr (by simpa using htold)

@[simp] theorem concluded_resolver (l : Loop) (v : Validation) (o : Outcome) :
    (l.concluded v o).session.resolver = l.session.resolver := by
  have hcases := l.session.conclude_cases l.host v o
  simp only [concluded, emit]
  generalize l.session.conclude l.host v o = x at hcases ⊢
  cases hcases <;> rfl

/-! ### What is quiet -/

theorem quiet_resolver (l : Loop) (r : Resolver) (h : Host) :
    Quiet l { l with session := { l.session with resolver := r }, host := h } :=
  .of_tasks rfl rfl rfl

theorem quiet_host (l : Loop) (h : Host) : Quiet l { l with host := h } :=
  .of_tasks rfl rfl rfl

theorem quiet_addTask (l : Loop) (job : Job) (listener : Listener) :
    Quiet l (l.addTask job listener).1 :=
  ⟨⟨[⟨job, listener, .ready⟩], rfl, by simp⟩, rfl, rfl⟩

theorem quiet_spawn (l : Loop) (job : Job) (listener : Listener) :
    Quiet l (l.spawn job listener).1 :=
  (quiet_addTask l job listener).trans (calm_enqueue _ _).quiet

theorem quiet_release (l : Loop) (id : Nat) : Quiet l (l.release id) := by
  unfold release
  split
  · exact .refl l
  · have hw : Quiet l { l with waiting := l.waiting.filter fun p => p.1 != id } :=
      .of_tasks rfl rfl rfl
    exact hw.trans
      (calm_foldl (fun l (p : Nat × Nat) => calm_enqueue l (.relay p.2)) _ _).quiet

theorem quiet_stepAttempt (l : Loop) (id : Nat) : Quiet l (l.stepAttempt id) :=
  quiet_resolver l _ _

theorem quiet_runAttempt (l : Loop) (id : Nat) : Quiet l (l.runAttempt id) := by
  have hstep := quiet_stepAttempt l id
  simp only [runAttempt]
  split
  · split
    · exact hstep.trans ((quiet_stepAttempt _ id).trans (calm_enqueue _ _).quiet)
    · exact hstep.trans (quiet_release _ id)
  · exact hstep.trans (quiet_release _ id)

theorem quiet_spawnAll (l : Loop) (listener : Listener) (jobs : List Job) :
    Quiet l (l.spawnAll listener jobs).1 := by
  induction jobs generalizing l with
  | nil => exact .refl l
  | cons job jobs ih => exact (quiet_spawn l job listener).trans (ih _)

/-! ### What an attempt's waiters are told -/

theorem foldl_relay (l : Loop) (ps : List (Nat × Nat)) :
    ps.foldl (fun l p => l.enqueue (.relay p.2)) l =
      { l with queue := l.queue ++ ps.map fun p => .relay p.2 } := by
  induction ps generalizing l with
  | nil => simp
  | cons p ps ih =>
    rw [List.foldl_cons, ih]
    simp [enqueue]

/-- Who waits for an attempt that has settled has a turn. -/
theorem release_of_settled {id : Nat} {o : Outcome}
    (ho : l.session.resolver.outcome? id = some o) : l.release id = { l with
      waiting := l.waiting.filter fun p => p.1 != id
      queue := l.queue ++ (l.waiting.filter fun p => p.1 == id).map fun p => .relay p.2 } := by
  simp only [release, ho, foldl_relay]

/-! ### Answers and cancellations -/

/-- An answer reaches a task that asked for it, which has a turn to go on, or nobody. -/
theorem answer_cases (l : Loop) (request : Nat) (again : Bool) :
    l.answer request again = l ∨ ∃ t task, l.tasks[t]? = some task ∧
      task.stage = .asking request ∧
      l.answer request again = (l.setStage t (.answered again)).enqueue (.relay t) := by
  unfold answer
  split
  · rename_i t hfound
    obtain ⟨hlt, hasking, -⟩ := List.findIdx?_eq_some_iff_getElem.mp hfound
    refine .inr ⟨t, _, List.getElem?_eq_getElem hlt, ?_, rfl⟩
    split at hasking
    · rename_i n hstage
      rw [hstage, beq_iff_eq.mp hasking]
    · simp at hasking
  · exact .inl rfl

/-- A task that is not over is cancelled: it no longer waits, and has a turn to notice. -/
theorem cancel_cases (l : Loop) (t : Nat) :
    l.cancel t = l ∨ ∃ task, l.tasks[t]? = some task ∧ task.stage.isOver = false ∧
      l.cancel t = enqueue { l.setStage t .leaving with
        waiting := l.waiting.filter fun p => p.2 != t } (.wake t) := by
  unfold cancel
  split
  · exact .inl rfl
  · rename_i hover
    simp only [areOver, List.all_cons, List.all_nil, Bool.and_true, Bool.not_eq_true] at hover
    cases ht : l.tasks[t]? with
    | none => simp [stage?, ht] at hover
    | some task =>
      rw [stage?_of_task ht] at hover
      exact .inr ⟨task, rfl, hover, rfl⟩

end Loop

end LintBridge
