import LintBridge.Documents
import LintBridge.ErrorBatch
import LintBridge.Session.CodeAction

/-!
Many activities of one session, taking turns. A turn runs until its task has to wait; turns are
taken in the order in which they were asked for. A task waits for the attempt that resolves its
workspace, for the validations it started, or for the editor's answer. An attempt that has settled
is told to those who wait for it in the order in which they began to wait, each in a turn of its
own, and each of them goes on one turn later. Turns are taken only while something is awaited; what
is left of the queue waits for the next occasion.
-/
namespace LintBridge

inductive Job where
  | resolve (root : String)
  | warmUp
  | validate (d : Document)
  | validateSingle (d : Document)
  /-- Validates the document that the editor has under a URI when the task begins. -/
  | validateOpen (uri : String)
  /-- Validates the given documents, or all open ones. -/
  | validateMany (documents : Option (List Document))
  | filesChanged
  /-- Files that the editor watches have changed, so many at once. -/
  | watchedFilesChanged (count : Nat)
  | retry
  | updateSettings (payload : Json)
  /-- Asks whether to try again. -/
  | question (message : String)
  deriving Repr

inductive TaskResult where
  | outcome (o : Outcome)
  | nothing
  | validation (r : ValidationResult)
  | validations (rs : List ValidationResult)
  | raised (e : Fault)
  deriving Repr

/-- How a task goes on once its workspace is resolved. -/
inductive Continuation where
  | answer
  | warmUp
  | conclude (v : Validation) (told : Bool)
  deriving Repr

inductive Stage where
  | ready
  | resolving (attempt : Nat) (k : Continuation)
  /-- Waits for validations, of which so many have not reported yet. -/
  | gathering (children : List Nat) (missing : Nat)
  /-- All validations have reported, or one has raised a fault. -/
  | gathered (children : List Nat) (fault? : Option Fault)
  | asking (request : Nat)
  | answered (again : Bool)
  | done (r : TaskResult)
  /-- Has been cancelled, which it notices at its next turn. -/
  | leaving
  | cancelled
  deriving Repr

def Stage.isOver : Stage → Bool
  | done _ | cancelled => true
  | _ => false

/-- Who is told how a task ended: nobody, the task that waits for it, or the editor if it ended
with a fault. -/
inductive Listener where
  | nobody
  | task (t : Nat)
  | editor
  deriving DecidableEq, Repr

structure Task where
  job : Job
  listener : Listener
  stage : Stage
  deriving Repr

inductive Turn where
  | start (task : Nat)
  | attempt (id : Nat)
  /-- An attempt that has executed its module comes back later than others. -/
  | rest (id : Nat)
  | relay (task : Nat)
  | wake (task : Nat)
  | report (parent child : Nat)
  /-- The editor is told of the fault with which a task ended. -/
  | complain (task : Nat)
  | pause
  deriving DecidableEq, Repr

/-- A session with all that goes on in it. -/
structure Loop where
  host : Host
  session : Session
  documents : DocumentSource
  tasks : List Task
  queue : List Turn
  /-- Who waits for which attempt, in the order in which they began to wait. -/
  waiting : List (Nat × Nat)
  events : List Event
  /-- Is an error that can be tried again put as a question? -/
  asksQuestions : Bool
  requests : Nat
  deriving Repr

namespace Loop

def fresh (host : Host) (session : Session) (documents : DocumentSource) (asksQuestions : Bool) :
    Loop :=
  ⟨host, session, documents, [], [], [], [], asksQuestions, 0⟩

def enqueue (l : Loop) (t : Turn) : Loop :=
  { l with queue := l.queue ++ [t] }

/-- Adds a task that is not yet to begin. -/
def addTask (l : Loop) (job : Job) (listener : Listener) : Loop × Nat :=
  ({ l with tasks := l.tasks ++ [⟨job, listener, .ready⟩] }, l.tasks.length)

def spawn (l : Loop) (job : Job) (listener : Listener) : Loop × Nat :=
  let (l, t) := l.addTask job listener
  (l.enqueue (.start t), t)

def spawnAll (l : Loop) (listener : Listener) : List Job → Loop × List Nat
  | [] => (l, [])
  | job :: jobs =>
    let first := l.spawn job listener
    let rest := spawnAll first.1 listener jobs
    (rest.1, first.2 :: rest.2)

def stage? (l : Loop) (t : Nat) : Option Stage :=
  (l.tasks[t]?).map Task.stage

def setStage (l : Loop) (t : Nat) (s : Stage) : Loop :=
  { l with tasks := l.tasks.modify t fun task => { task with stage := s } }

def result? (l : Loop) (t : Nat) : Option TaskResult :=
  match l.stage? t with
  | some (.done r) => some r
  | _ => none

def fault? (l : Loop) (t : Nat) : Option Fault :=
  match l.result? t with
  | some (.raised e) => some e
  | _ => none

/-- Ends a task, and asks for a turn in which its listener is told. -/
def finish (l : Loop) (t : Nat) (r : TaskResult) : Loop :=
  let l := l.setStage t (.done r)
  match (l.tasks[t]?).map Task.listener, r with
  | some (.task p), _ => l.enqueue (.report p t)
  | some .editor, .raised _ => l.enqueue (.complain t)
  | _, _ => l

def emit (l : Loop) (es : List Event) : Loop :=
  { l with events := l.events ++ es }

def tell (l : Loop) (message : String) (retry : Bool) : Loop :=
  if l.asksQuestions && retry then (l.spawn (.question message) .nobody).1
  else l.emit [.showError message retry]

/-- What the editor is told when its message cannot be handled. -/
def complaint (e : Fault) : String :=
  "Error in server: " ++ (if e.message.isEmpty then e.kind else s!"{e.kind}: {e.message}")

def complainOf (l : Loop) (e : Fault) : Loop :=
  l.emit [.showError (complaint e) false]

/-- Tells the editor of a failure if there is a notice of it. -/
def notify (l : Loop) (notice : Option (Nat × String × Bool)) : Loop :=
  match notice with
  | none => l
  | some (id, message, retry) =>
    { l with session := l.session.markTold id }.tell message retry

/-! ### Going on with an outcome -/

/-- Goes on with a task whose workspace is resolved. A failure counts as told even if what is to be
told of it cannot be made. -/
def proceed (l : Loop) (t : Nat) (k : Continuation) (o : Outcome) : Loop :=
  match k with
  | .answer => l.finish t (.outcome o)
  | .warmUp =>
    match l.session.warmUpNotice o with
    | .error e => { l with session := l.session.markOutcome o }.finish t (.raised e)
    | .ok notice => (l.notify notice).finish t .nothing
  | .conclude v told =>
    let (result, events, session, host) := l.session.conclude l.host v o
    let l := { l with session := session, host := host }.emit events
    match result with
    | .error e => l.finish t (.raised e)
    | .ok r =>
      if told then
        match l.session.notice r with
        | .error e => { l with session := l.session.markOutcome o }.finish t (.raised e)
        | .ok notice => (l.notify notice).finish t (.validation r)
      else l.finish t (.validation r)

/-- The failure of a resolver that refuses everything. -/
def refuse (r : Resolver) (refusal : Refusal) : Resolver × Nat :=
  if refusal.shared && !r.failures.isEmpty then (r, 0) else r.fail refusal.failure

/-- Waits with a task for the module of a workspace. There is no waiting for an attempt that has
settled; a new attempt begins at its turn. -/
def await (l : Loop) (t : Nat) (root : String) (k : Continuation) : Loop :=
  match l.session.resolver.refusal with
  | some refusal =>
    let (resolver, f) := refuse l.session.resolver refusal
    { l with session := { l.session with resolver := resolver } }.proceed t k (.failed f)
  | none =>
    let ((id, isNew), resolver, host) := l.session.resolver.attemptFor l.host root
    let l := { l with session := { l.session with resolver := resolver }, host := host }
    let l := if isNew then l.enqueue (.attempt id) else l
    match l.session.resolver.outcome? id with
    | some o => l.proceed t k o
    | none => { l.setStage t (.resolving id k) with waiting := l.waiting ++ [(id, t)] }

/-! ### Beginning a task -/

/-- Begins to validate a document; `told` says whether the user is told of an error. -/
def beginValidation (l : Loop) (t : Nat) (d : Document) (told : Bool) : Loop :=
  let (begun, session, host) := l.session.begin l.host d
  let l := { l with session := session, host := host }
  match begun with
  | .error e => l.finish t (.raised e)
  | .ok none => l.finish t (.validation (.plain d.uri .skipped))
  | .ok (some v) => l.await t v.root (.conclude v told)

/-- Begins to validate documents together, each in a task of its own. -/
def beginMany (l : Loop) (t : Nat) (documents : List Document) : Loop :=
  let (l, children) := l.spawnAll (.task t) (documents.map .validate)
  if children.isEmpty then l.finish t (.validations [])
  else l.setStage t (.gathering children children.length)

def beginAll (l : Loop) (t : Nat) : Loop :=
  match l.documents.all l.host.files with
  | .error e => l.finish t (.raised e)
  | .ok documents => l.beginMany t documents

/-- Forgets what was resolved and begins to validate all open documents. -/
def beginAnew (l : Loop) (t : Nat) : Loop :=
  { l with session := l.session.forgetAttempts l.host }.beginAll t

def beginRetry (l : Loop) (t : Nat) : Loop :=
  { l with host := l.host.note .info "Retrying module resolution" }.beginAnew t

def begin (l : Loop) (t : Nat) : Job → Loop
  | .resolve root => l.await t root .answer
  | .warmUp =>
    match l.session.workspace? with
    | none => l.finish t .nothing
    | some root => l.await t root .warmUp
  | .validate d => l.beginValidation t d false
  | .validateSingle d => l.beginValidation t d true
  | .validateOpen uri =>
    match l.documents.fetch l.host.files uri with
    | .error e => l.finish t (.raised e)
    | .ok d => l.beginValidation t d true
  | .validateMany (some documents) => l.beginMany t documents
  | .validateMany none => l.beginAll t
  | .filesChanged => l.beginAnew t
  | .watchedFilesChanged count =>
    { l with host := l.host.note .debug s!"{count} watched file(s) changed" }.beginAnew t
  | .retry => l.beginRetry t
  | .updateSettings payload =>
    match l.session.applySettings l.host payload with
    | (.error e, host) => { l with host := host }.finish t (.raised e)
    | (.ok session, host) => { l with session := session, host := host }.beginAll t
  | .question message =>
    let n := l.requests
    ({ l with requests := n + 1 }.emit [.ask n message]).setStage t (.asking n)

/-! ### Ending a batch -/

def validation? (l : Loop) (t : Nat) : Option ValidationResult :=
  match l.result? t with
  | some (.validation r) => some r
  | _ => none

def notices (s : Session) (results : List ValidationResult) :
    Except Fault (List (Nat × String × Bool)) :=
  (results.mapM s.notice).map fun notices => notices.filterMap id

/-- Ends a batch: every message is told once, and all failures it is about count as told. -/
def concludeBatch (l : Loop) (t : Nat) (children : List Nat) : Loop :=
  let results := children.filterMap l.validation?
  match notices l.session results with
  | .error e => l.finish t (.raised e)
  | .ok told =>
    let batch := told.foldl (fun b (_, message, retry) => b.add message (.bool retry))
      ErrorBatch.empty
    let l := { l with session := told.foldl Session.markNotice l.session }
    let l := batch.announcements.foldl (fun l (message, retry) => l.tell message retry.truthy) l
    l.finish t (.validations results)

/-- Takes in the report of a validation. The first fault ends the waiting, and so does the last
report. -/
def takeReport (l : Loop) (parent child : Nat) : Loop :=
  match l.stage? parent with
  | some (.gathering children missing) =>
    match l.result? child with
    | some (.raised e) =>
      (l.setStage parent (.gathered children (some e))).enqueue (.wake parent)
    | _ =>
      if missing ≤ 1 then (l.setStage parent (.gathered children none)).enqueue (.wake parent)
      else l.setStage parent (.gathering children (missing - 1))
  | _ => l

/-! ### Turns -/

/-- Asks for the turns of those who wait for an attempt, if it has settled. -/
def release (l : Loop) (id : Nat) : Loop :=
  match l.session.resolver.outcome? id with
  | none => l
  | some _ =>
    let mine := l.waiting.filter fun p => p.1 == id
    let l := { l with waiting := l.waiting.filter fun p => p.1 != id }
    mine.foldl (fun l p => l.enqueue (.relay p.2)) l

def stepAttempt (l : Loop) (id : Nat) : Loop :=
  let (resolver, host) := l.session.resolver.step l.host id
  { l with session := { l.session with resolver := resolver }, host := host }

/-- Has an attempt found a file that it has to execute? -/
def hasFound (l : Loop) (id : Nat) : Bool :=
  match l.session.resolver.phase? id with
  | some (.found _ _) => true
  | _ => false

/-- The first turn of an attempt: a file that was found is executed at once, but the attempt then
rests for a turn before it settles. -/
def runAttempt (l : Loop) (id : Nat) : Loop :=
  match l.session.resolver.phase? id with
  | some .begun =>
    let l := l.stepAttempt id
    if l.hasFound id then (l.stepAttempt id).enqueue (.rest id) else l.release id
  | _ => (l.stepAttempt id).release id

def resume (l : Loop) (t : Nat) : Loop :=
  match l.stage? t with
  | some (.resolving id k) =>
    match l.session.resolver.outcome? id with
    | some o => l.proceed t k o
    | none => l
  | some (.gathered children none) => l.concludeBatch t children
  | some (.gathered _ (some e)) => l.finish t (.raised e)
  | some (.answered again) => if again then l.beginRetry t else l.finish t .nothing
  | some .leaving => l.setStage t .cancelled
  | _ => l

/-- Takes one turn. A task that has begun does not begin again. -/
def take (l : Loop) : Turn → Loop
  | .start t =>
    match l.tasks[t]? with
    | some ⟨job, _, .ready⟩ => l.begin t job
    | _ => l
  | .attempt id => l.runAttempt id
  | .rest id => l.enqueue (.attempt id)
  | .relay t => l.enqueue (.wake t)
  | .wake t => l.resume t
  | .report parent child => l.takeReport parent child
  | .complain t =>
    match l.fault? t with
    | some e => l.complainOf e
    | none => l
  | .pause => l

def Job.size : Job → Nat
  | .validateMany (some documents) => documents.length + 1
  | _ => 1

/-- A number of turns that is enough for all that can follow from the turns asked for: every task
needs only a few, and a batch has one more task for each of its documents. -/
def budget (l : Loop) : Nat :=
  let size := l.queue.length + l.documents.size + l.waiting.length
    + l.tasks.foldl (fun n t => n + Job.size t.job) 1
  64 * size * size

def drain : Nat → Loop → Loop
  | 0, l => l
  | fuel + 1, l =>
    match l.queue with
    | [] => l
    | turn :: rest => drain fuel ({ l with queue := rest }.take turn)

def drainToPause : Nat → Loop → Loop
  | 0, l => l
  | fuel + 1, l =>
    match l.queue with
    | [] => l
    | .pause :: rest => { l with queue := rest }
    | turn :: rest => drainToPause fuel ({ l with queue := rest }.take turn)

def areOver (l : Loop) (tasks : List Nat) : Bool :=
  tasks.all fun t => ((l.stage? t).map Stage.isOver).getD true

/-- Takes turns until these tasks are over. -/
def drainToEnd (tasks : List Nat) : Nat → Loop → Loop
  | 0, l => l
  | fuel + 1, l =>
    if l.areOver tasks then l
    else match l.queue with
      | [] => l
      | turn :: rest => drainToEnd tasks fuel ({ l with queue := rest }.take turn)

def settle (l : Loop) : Loop :=
  drain l.budget l

/-- Takes all turns that were asked for before this one. -/
def catchUp (l : Loop) : Loop :=
  let l := l.enqueue .pause
  drainToPause l.budget l

/-- Begins a task at once and takes turns until it is over; the task's number comes along. -/
def run (l : Loop) (job : Job) : Loop × Nat :=
  let (l, t) := l.addTask job .nobody
  let l := l.begin t job
  (drainToEnd [t] l.budget l, t)

/-- Begins tasks in order and takes one round of turns: every task has begun, but no attempt that
they asked for. -/
def startAll (l : Loop) (jobs : List Job) : Loop × List Nat :=
  let (l, tasks) := l.spawnAll .nobody jobs
  (l.catchUp, tasks)

/-- Takes turns until tasks that were begun together are over, and the two rounds until that is
known. -/
def awaitAll (l : Loop) (tasks : List Nat) : Loop :=
  if tasks.isEmpty then l else (drainToEnd tasks l.budget l).catchUp.catchUp

/-- Cancels a task that is not over; what it waits for goes on. -/
def cancel (l : Loop) (t : Nat) : Loop :=
  if l.areOver [t] then l
  else { l.setStage t .leaving with waiting := l.waiting.filter fun p => p.2 != t }.enqueue
    (.wake t)

def answer (l : Loop) (request : Nat) (again : Bool) : Loop :=
  match l.tasks.findIdx? fun task => match task.stage with
    | .asking n => n == request
    | _ => false with
  | some t => (l.setStage t (.answered again)).enqueue (.relay t)
  | none => l

end Loop

end LintBridge
