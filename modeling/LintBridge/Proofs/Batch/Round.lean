import LintBridge.Proofs.Loop.Awaiting
import LintBridge.Proofs.Session.Verdict

/-! A batch of validations on its way to its end, whichever of its turns is taken next. All its
documents are judged by the one attempt of their workspace, in the order in which they come to be
judged, so where the batch stands is said by the documents that have been judged so far: what is
shown, which quick fixes are stored and how often the module was called follow from them. Every
validation that has not ended has a turn of its own, waits for the attempt, or has one coming; the
attempt has a turn as long as it has not settled; and the batch itself counts what has not reported
until all have, or until it is told that a validation has raised a fault.
-/

namespace LintBridge

/-- What the task of a document comes to. -/
def Verdict.ended (x : Verdict) : TaskResult :=
  match x.result with
  | .ok r => .validation r
  | .error e => .raised e

theorem Verdict.ended_eq_raised {x : Verdict} {e : Fault} :
    x.ended = .raised e ↔ x.result = .error e := by
  simp only [ended]
  cases x.result <;> simp

/-- Where no validation raises a fault, the tasks come to the results of their documents. -/
theorem Verdict.map_ended {xs : List Verdict} (sound : ∀ x ∈ xs, ∃ r, x.result = .ok r) :
    xs.map Verdict.ended = (xs.filterMap fun x => x.result.toOption).map .validation := by
  induction xs with
  | nil => rfl
  | cons x xs ih =>
    obtain ⟨⟨r, hr⟩, hxs⟩ := List.forall_mem_cons.mp sound
    simp [ended, hr, ih hxs, Except.toOption]

/-! ### Sessions at rest -/

/-- Nothing goes on in a session: no turn is asked for, nobody waits, and every attempt that is
remembered has settled. -/
structure Loop.IsResting (l : Loop) : Prop where
  queue : l.queue = []
  waiting : l.waiting = []
  settled : ∀ p ∈ l.session.resolver.memo, ∃ o, l.session.resolver.outcome? p.2 = some o

/-- The resolver of a session and the machine on which it works. -/
def Loop.resolution (l : Loop) : Resolution :=
  ⟨l.session.resolver, l.host⟩

/-- Documents that are validated together, in a session at rest that has a workspace. -/
structure Batch where
  start : Loop
  root : String
  documents : List Document
  workspace : start.session.workspace? = some root
  resting : start.IsResting
  records : start.session.resolver.Records
  childless : ∀ c, start.listener? c ≠ some (.task start.tasks.length)
  accepted : ∀ d ∈ documents, ∃ path, Uri.toPath? d.uri = .ok path
  distinct : (documents.map Document.uri).Nodup

namespace Batch

variable (b : Batch)

/-- The task of the batch. -/
def parent : Nat := b.start.tasks.length

/-- The task of the document in this place. -/
def child (i : Nat) : Nat := b.parent + 1 + i

/-- The tasks of all documents, in order. -/
def children : List Nat := List.range' (b.parent + 1) b.documents.length

/-- The attempt that judges. -/
def attempt : Nat := b.start.resolution.asked b.root

/-- The attempt, so many steps after it was asked for. -/
def course (n : Nat) : Resolution :=
  (b.start.resolution.act (.resolve b.root)).after (List.replicate n (.step b.attempt))

/-- The attempt once it has settled. -/
def resolved : Resolution := b.course 3

/-- What the attempt comes to. -/
def outcome : Outcome := (b.resolved.resolver.outcome? b.attempt).getD .absent

/-- A session that judges as this one does once the attempt has settled. -/
def judge : Session := { b.start.session with resolver := b.resolved.resolver }

/-- The verdicts on documents that are judged in this order. -/
def tally (judged : List Document) : List Verdict × Host :=
  b.judge.tally b.root b.outcome b.resolved.host judged

/-- The verdict on a document that is judged next. -/
def verdict (judged : List Document) (d : Document) : Verdict × Host :=
  b.judge.verdict b.root b.outcome (b.tally judged).2 d

theorem tally_append (judged : List Document) (d : Document) : b.tally (judged ++ [d]) =
    ((b.tally judged).1 ++ [(b.verdict judged d).1], (b.verdict judged d).2) :=
  Session.tally_append _ _ _ _ _ _

/-- What is skipped leaves the machine as it is. -/
theorem tally_of_skipped {judged : List Document} (h : ∀ d ∈ judged, ¬ d.IsFile) :
    (b.tally judged).2 = b.resolved.host := by
  have hskipped : ∀ (judged : List Document) (host : Host), (∀ d ∈ judged, ¬ d.IsFile) →
      (b.judge.tally b.root b.outcome host judged).2 = host := by
    intro judged
    induction judged with
    | nil => exact fun _ _ => rfl
    | cons d judged ih =>
      intro host h
      obtain ⟨hd, hrest⟩ := List.forall_mem_cons.mp h
      simp only [Session.tally, Session.verdict_of_skipped hd, ih host hrest]
  exact hskipped judged _ h

theorem mem_children {c : Nat} : c ∈ b.children ↔ ∃ i, i < b.documents.length ∧ c = b.child i := by
  rw [children, List.mem_range'_1]
  constructor
  · rintro ⟨hle, hlt⟩
    exact ⟨c - (b.parent + 1), by omega, by rw [child]; omega⟩
  · rintro ⟨i, hi, rfl⟩
    rw [child]
    omega

theorem child_ne_parent (i : Nat) : b.child i ≠ b.parent := by
  rw [child]
  omega

theorem child_inj {i j : Nat} : b.child i = b.child j ↔ i = j := by
  rw [child, child]
  omega

/-! ### The attempt -/

/-- The workspace has an attempt that is remembered and has settled, or a new one begins. -/
theorem remembered_or_new :
    (b.start.resolution.act (.resolve b.root) = b.start.resolution ∧
      ∃ o, b.start.session.resolver.outcome? b.attempt = some o) ∨
    (b.start.session.resolver.memo.lookup (Resolver.key b.start.host b.root) = none ∧
      b.attempt = b.start.session.resolver.attempts.length ∧
      (b.course 0).resolver =
        (b.start.session.resolver.begin (Resolver.key b.start.host b.root)).1) := by
  obtain ⟨id, hid, hasked, hsame⟩ | ⟨hnew, hasked, hr⟩ := b.start.resolution.act_resolve b.root
  · refine .inl ⟨hsame, ?_⟩
    rw [Batch.attempt, hasked]
    exact b.resting.settled _ (Table.mem_of_lookup hid)
  · exact .inr ⟨hnew, hasked, hr⟩

theorem course_add (n k : Nat) :
    b.course (n + k) = (b.course n).after (List.replicate k (.step b.attempt)) := by
  simp only [course, Resolution.after, List.replicate_add, List.foldl_append]

theorem course_succ (n : Nat) : b.course (n + 1) = (b.course n).act (.step b.attempt) :=
  b.course_add n 1

/-- In three steps the attempt settles. -/
theorem settles : b.resolved.resolver.outcome? b.attempt = some b.outcome := by
  have hsettled : ∃ o, b.resolved.resolver.outcome? b.attempt = some o := by
    obtain ⟨hsame, o, ho⟩ | ⟨-, hid, hr⟩ := b.remembered_or_new
    · refine ⟨o, ?_⟩
      rw [resolved, course, hsame]
      exact Resolution.outcome?_after ho _
    · have hlt : b.attempt < (b.course 0).resolver.attempts.length := by
        rw [hr, hid]
        simp [Resolver.begin]
      have hthree : 3 ≤ (List.replicate 3 (.step b.attempt)).countP
          (Resolution.Act.isStepOf b.attempt) := by
        simp [List.replicate, Resolution.Act.isStepOf]
      have hsettled := Resolution.outcome?_of_three_steps hlt hthree
      rwa [← b.course_add 0 3] at hsettled
  obtain ⟨o, ho⟩ := hsettled
  rw [outcome, ho]
  rfl

/-- Once it has settled, the attempt is where it ends. -/
theorem course_of_settled {n : Nat} {o : Outcome}
    (ho : (b.course n).resolver.outcome? b.attempt = some o) : b.course n = b.resolved := by
  have hthere : b.course (n + 3) = b.course n := by
    rw [course_add, Resolution.after_of_settled ho]
  have hback : b.course (3 + n) = b.resolved := by
    rw [course_add]
    exact Resolution.after_of_settled b.settles n
  rw [← hthere, Nat.add_comm, hback]

end Batch

/-! ### Turns that are asked for -/

/-- The task that a turn takes on its way: it begins, or goes on. -/
def Turn.task? : Turn → Option Nat
  | .start t | .relay t | .wake t => some t
  | _ => none

namespace Loop

/-- A turn is asked for, or in hand. -/
def Expects (l : Loop) (hand : Option Turn) (turn : Turn) : Prop :=
  turn ∈ l.queue ∨ hand = some turn

/-- How many validations that a task has started are not done or have a report on its way, which may
be in hand. -/
def outstanding (l : Loop) (hand : Option Turn) (p : Nat) : Nat :=
  l.pending p + hand.toList.countP (Turn.reportsTo p)

theorem Expects.queue {l : Loop} {turn turn' : Turn} (h : l.Expects (some turn) turn')
    (hne : turn ≠ turn') : turn' ∈ l.queue :=
  h.resolve_right fun he => hne (Option.some.inj he)

end Loop

namespace Batch

variable (b : Batch) (hand : Option Turn) (judged : List Document) (l : Loop)

/-- The turns that a batch can ask for. -/
def Due : Turn → Prop
  | .start t | .relay t => t ∈ b.children
  | .wake t => t ∈ b.children ∨ t = b.parent
  | .attempt id | .rest id => id = b.attempt
  | .report p t => p = b.parent ∧ t ∈ b.children
  | .complain _ | .pause => False

/-- A validation of a document under the current number. -/
structure Validates (d : Document) (v : Validation) : Prop where
  document : v.document = d
  path : ∃ path, Uri.toPath? d.uri = .ok (some path) ∧ v.path = path.toString
  root : v.root = b.root
  current : l.session.isCurrent d.uri v.number = true

/-- Where the task `t` of a document stands. -/
inductive Stands (t : Nat) (d : Document) : Prop where
  | ready (task : l.tasks[t]? = some ⟨.validate d, .task b.parent, .ready⟩)
      (turn : l.Expects hand (.start t)) (unjudged : d ∉ judged)
  | waits (v : Validation)
      (task : l.tasks[t]? =
        some ⟨.validate d, .task b.parent, .resolving b.attempt (.conclude v false)⟩)
      (validates : b.Validates l d v)
      (unsettled : l.session.resolver.outcome? b.attempt = none) (waiting : (b.attempt, t) ∈ l.waiting)
      (unjudged : d ∉ judged)
  | goesOn (v : Validation)
      (task : l.tasks[t]? =
        some ⟨.validate d, .task b.parent, .resolving b.attempt (.conclude v false)⟩)
      (validates : b.Validates l d v)
      (settled : l.session.resolver.outcome? b.attempt ≠ none)
      (turn : l.Expects hand (.relay t) ∨ l.Expects hand (.wake t)) (unjudged : d ∉ judged)
  | done (x : Verdict) (mem : x ∈ (b.tally judged).1) (uri : x.uri = d.uri)
      (task : l.tasks[t]? = some ⟨.validate d, .task b.parent, .done x.ended⟩)
      (judged : d ∈ judged)

/-- Where the attempt stands: nobody has asked for it, it has a turn, or it has settled. -/
inductive Attempted : Prop where
  | unasked
      (new : b.start.session.resolver.memo.lookup (Resolver.key b.start.host b.root) = none)
      (same : b.start.resolution.Alike l.resolution) (nobody : l.waiting = [])
      (skipped : ∀ d ∈ judged, ¬ d.IsFile)
  | begun (n : Nat) (same : (b.course n).Alike l.resolution)
      (phase : l.session.resolver.phase? b.attempt = some .begun ∨
        ∃ origin result, l.session.resolver.phase? b.attempt = some (.executed origin result))
      (turn : l.Expects hand (.attempt b.attempt) ∨ l.Expects hand (.rest b.attempt))
      (skipped : ∀ d ∈ judged, ¬ d.IsFile)
  | settled (resolver : l.session.resolver = b.resolved.resolver)
      (host : (b.tally judged).2.Alike l.host)

/-- The report on a validation that has raised a fault is still to come. -/
def Unheard : Prop :=
  ∀ t ∈ b.children, ∀ e, l.result? t = some (.raised e) → l.Expects hand (.report b.parent t)

/-- Where the batch itself stands: it counts what has not reported, all have reported, or it has
been told of a fault. -/
inductive Gathering : Prop where
  | counts (job : Job) (missing : Nat)
      (task : l.tasks[b.parent]? = some ⟨job, .nobody, .gathering b.children missing⟩)
      (count : l.outstanding hand b.parent = missing) (positive : 0 < missing)
      (unheard : b.Unheard hand l)
  | complete (job : Job)
      (task : l.tasks[b.parent]? = some ⟨job, .nobody, .gathered b.children none⟩)
      (count : l.outstanding hand b.parent = 0) (turn : l.Expects hand (.wake b.parent))
      (unheard : b.Unheard hand l)
  | failed (job : Job) (e : Fault)
      (task : l.tasks[b.parent]? = some ⟨job, .nobody, .gathered b.children (some e)⟩)
      (turn : l.Expects hand (.wake b.parent))
      (raised : ∃ x ∈ (b.tally judged).1, x.result = .error e)

/-- A batch on its way, of which these documents have been judged in this order; a turn may be in
hand. -/
structure Round : Prop where
  due : ∀ turn, l.Expects hand turn → b.Due turn
  waiting : ∀ p ∈ l.waiting, p.1 = b.attempt ∧ p.2 ∈ b.children
  listeners : ∀ t task, l.tasks[t]? = some task → task.listener = .task b.parent → t ∈ b.children
  workspace : l.session.workspace? = some b.root
  settings : l.session.settings = b.start.session.settings
  events : l.events = b.start.events ++ (b.tally judged).1.flatMap Verdict.events
  fixes : l.session.fixes =
    ((b.tally judged).1.foldl (fun s x => x.store s) b.start.session).fixes
  calls : Loop.Adds b.start l []
  asks : l.asksQuestions = b.start.asksQuestions
  once : (judged.map Document.uri).Nodup
  known : ∀ d ∈ judged, d ∈ b.documents
  attempt : b.Attempted hand judged l
  stands : ∀ i d, b.documents[i]? = some d → b.Stands hand judged l (b.child i) d
  gathering : b.Gathering hand judged l

/-! ### What a turn brings about -/

/-- The document of a task. -/
def document? (t : Nat) : Option Document :=
  if b.parent < t then b.documents[t - (b.parent + 1)]? else none

theorem document?_child (i : Nat) : b.document? (b.child i) = b.documents[i]? := by
  have hlt : b.parent < b.child i := by
    rw [child]
    omega
  rw [document?, if_pos hlt, child, Nat.add_sub_cancel_left]

theorem document?_parent : b.document? b.parent = none :=
  if_neg (Nat.lt_irrefl _)

/-- What a turn of a validation brings about: its document is judged next and it reports, it waits
for the attempt, or it has no use for the turn. -/
inductive Goes (t : Nat) (d : Document) (judged judged' : List Document) (l l' : Loop) : Prop where
  | judges (next : judged' = judged ++ [d])
      (queue : l'.queue = l.queue ++ [.report b.parent t]) (waiting : l'.waiting = l.waiting)
      (outcome : l'.session.resolver.outcome? b.attempt = l.session.resolver.outcome? b.attempt)
      (settled : d.IsFile → l.session.resolver.outcome? b.attempt ≠ none)
      (parent : l'.stage? b.parent = l.stage? b.parent)
  | waits (same : judged' = judged)
      (queue : ∃ turns, l'.queue = l.queue ++ turns ∧ ∀ y ∈ turns, y = .attempt b.attempt)
      (waiting : l'.waiting = l.waiting ++ [(b.attempt, t)])
      (outcome : l.session.resolver.outcome? b.attempt = none)
      (unsettled : l'.session.resolver.outcome? b.attempt = none)
      (parent : l'.stage? b.parent = l.stage? b.parent)
  | stays (same : judged' = judged) (queue : l'.queue = l.queue)
      (waiting : l'.waiting = l.waiting)
      (outcome : l'.session.resolver.outcome? b.attempt = l.session.resolver.outcome? b.attempt)
      (elsewhere : d ∈ judged ∨ (b.attempt, t) ∈ l.waiting ∨ ∃ y ∈ l.queue, y.task? = some t)
      (parent : l'.stage? b.parent = l.stage? b.parent)

/-- What a turn brings about for those who wait or have a turn. -/
inductive Moves (turn : Turn) (judged judged' : List Document) (l l' : Loop) : Prop where
  | goes (t : Nat) (d : Document) (mine : turn = .start t ∨ turn = .wake t)
      (document : b.document? t = some d) (goes : b.Goes t d judged judged' l l')
      (awake : turn = .wake t → l'.waiting = l.waiting)
  | relays (t : Nat) (mine : turn = .relay t) (same : judged' = judged)
      (queue : l'.queue = l.queue ++ [.wake t]) (waiting : l'.waiting = l.waiting)
      (outcome : l'.session.resolver.outcome? b.attempt = l.session.resolver.outcome? b.attempt)
      (parent : l'.stage? b.parent = l.stage? b.parent)
  | releases (none : turn.task? = none) (same : judged' = judged)
      (queue : l'.queue = l.queue ++ l.waiting.map fun p => .relay p.2) (waiting : l'.waiting = [])
      (settled : l'.session.resolver.outcome? b.attempt ≠ .none)
      (parent : l'.stage? b.parent = l.stage? b.parent)
  | works (none : turn.task? = none ∨ turn = .wake b.parent) (same : judged' = judged)
      (turns : List Turn) (queue : l'.queue = l.queue ++ turns)
      (plain : ∀ y ∈ turns, y.task? = .none ∧ y.isReport = false ∨ y = .wake b.parent)
      (waiting : l'.waiting = l.waiting)
      (outcome : l'.session.resolver.outcome? b.attempt = l.session.resolver.outcome? b.attempt)
      (parent : turn.isReport = false → l'.stage? b.parent = l.stage? b.parent)

end Batch

end LintBridge
