import LintBridge.Proofs.Batch.Round
import Mathlib.Algebra.GroupWithZero.Nat

/-! The turns of a batch. Each of them takes the batch from one place of its way to another: a
validation begins, is told of the outcome or ends, the attempt takes a step, or a report is taken
in. -/

namespace LintBridge

namespace Session

variable (s : Session)

theorem isCurrent_bump_self (uri : String) :
    (s.bump uri).1.isCurrent uri (s.number uri + 1) = true := by
  simp only [bump, isCurrent, Table.lookup_put_self, beq_self_eq_true]

theorem isCurrent_bump_of_ne {uri uri' : String} (hne : uri' ≠ uri) (n : Nat) :
    (s.bump uri).1.isCurrent uri' n = s.isCurrent uri' n := by
  simp only [bump, isCurrent, Table.lookup_put_of_ne _ _ hne]

end Session

theorem Resolver.key_of_files {h h' : Host} (files : h'.files = h.files) (root : String) :
    key h' root = key h root := by
  rw [key, Host.here, files]
  rfl

namespace Verdict

theorem error?_events (x : Verdict) : x.events.filterMap Event.error? = [] := by
  simp only [events]
  cases x.shown <;> rfl

theorem store_fixes_congr (x : Verdict) {s s' : Session} (h : s'.fixes = s.fixes) :
    (x.store s').fixes = (x.store s).fixes := by
  simp only [store, Session.storeFixes, h]
  split <;> simp [h]

end Verdict

namespace Loop

variable {hand : Option Turn} {l : Loop} {t : Nat}

/-- Who asks for the attempt asks for a turn of it, if it is new. -/
theorem asking_of_new {root : String}
    (new : l.session.resolver.memo.lookup (Resolver.key l.host root) = none) :
    ∃ host, l.host.Alike host ∧ l.asking root = { l with
      session.resolver := (l.session.resolver.begin (Resolver.key l.host root)).1
      host := host
      queue := l.queue ++ [.attempt l.session.resolver.attempts.length] } := by
  refine ⟨_, l.host.alike_note .debug
    s!"Resolving {l.session.resolver.moduleName} for workspace {Resolver.key l.host root}", ?_⟩
  simp only [asking, Resolver.attemptFor, new]
  rfl

theorem asking_resolution (l : Loop) (root : String) :
    (l.asking root).resolution = l.resolution.act (.resolve root) := by
  simp only [asking]
  split <;> rfl

/-- To ask for the attempt changes neither tasks nor numbers. -/
theorem asking_frame (l : Loop) (root : String) : (l.asking root).tasks = l.tasks ∧
    (l.asking root).waiting = l.waiting ∧
    (l.asking root).session.numbers = l.session.numbers := by
  simp only [Loop.asking]
  split <;> exact ⟨rfl, rfl, rfl⟩

/-- A validation that ends reports to the batch. -/
theorem finish_child {job : Job} {p : Nat} {s : Stage}
    (ht : l.tasks[t]? = some ⟨job, .task p, s⟩) (r : TaskResult) :
    l.finish t r =
      { l.setStage t (.done r) with queue := l.queue ++ reportOf t (.task p) } := by
  simp only [finish, task?_setStage_self ht]
  rfl

theorem expects_append {turns : List Turn} {y : Turn} (h : l.Expects hand y) :
    Expects { l with queue := l.queue ++ turns } hand y :=
  h.imp_left fun hy => List.mem_append_left _ hy

/-- Turns in which no report is taken in do not change what is outstanding. -/
theorem outstanding_append (l : Loop) (hand : Option Turn) (p : Nat) {turns : List Turn}
    (h : turns.countP (Turn.reportsTo p) = 0) :
    ({ l with queue := l.queue ++ turns } : Loop).outstanding hand p = l.outstanding hand p := by
  simp [outstanding, pending, h]

/-- A task that has raised a fault has done so before another one is changed. -/
theorem raised_of_setStage {t' : Nat} {s : Stage} {e : Fault} (hs : s.isDone = false)
    (h : (l.setStage t' s).result? t = some (.raised e)) : l.result? t = some (.raised e) := by
  by_cases hne : t' = t
  · subst hne
    have hstage := result?_eq_some.mp h
    rw [stage?_setStage_self (by simpa [setStage] using stage?_lt hstage)] at hstage
    obtain rfl := Option.some.inj hstage
    simp [Stage.isDone] at hs
  · rwa [result?_setStage_of_ne hne] at h

/-- A report of a task that has not raised a fault is counted. -/
theorem takeReport_eq {p c missing : Nat} {children : List Nat}
    (hs : l.stage? p = some (.gathering children missing))
    (hr : ∀ e, l.result? c ≠ some (.raised e)) : l.takeReport p c =
      if missing ≤ 1 then (l.setStage p (.gathered children none)).enqueue (.wake p)
      else l.setStage p (.gathering children (missing - 1)) := by
  simp only [takeReport, hs]

end Loop

namespace Batch

open Loop

variable {b : Batch} {hand hand' : Option Turn} {judged judged' : List Document} {l l' : Loop}
  {turn : Turn} {t i j : Nat} {d d' : Document}

theorem uri_ne (hi : b.documents[i]? = some d) (hj : b.documents[j]? = some d') (hne : i ≠ j) :
    d'.uri ≠ d.uri := by
  intro he
  have hlt : i < (b.documents.map Document.uri).length := by
    rw [List.length_map]
    exact (List.getElem?_eq_some_iff.mp hi).1
  refine hne ((List.getElem?_inj hlt b.distinct).mp ?_)
  rw [List.getElem?_map, List.getElem?_map, hi, hj, Option.map_some, Option.map_some, he]

/-- A document stands in one place. -/
theorem uri_inj (hd : d ∈ b.documents) (hd' : d' ∈ b.documents) (he : d'.uri = d.uri) : d' = d := by
  obtain ⟨i, hi⟩ := List.mem_iff_getElem?.mp hd
  obtain ⟨j, hj⟩ := List.mem_iff_getElem?.mp hd'
  by_cases hne : i = j
  · subst hne
    exact Option.some.inj (hj.symm.trans hi)
  · exact absurd he (uri_ne hi hj hne)

theorem child_mem (hi : b.documents[i]? = some d) : b.child i ∈ b.children :=
  b.mem_children.mpr ⟨i, (List.getElem?_eq_some_iff.mp hi).1, rfl⟩

/-! ### What the attempt is judged by -/

/-- Judging leaves the machine as it is, but for the calls. -/
theorem tally_recalls (b : Batch) (judged : List Document) :
    b.resolved.host.Recalls (b.tally judged).2 := by
  have hlater : ∀ (judged : List Document) (h : Host),
      h.Recalls (b.judge.tally b.root b.outcome h judged).2 := by
    intro judged
    induction judged with
    | nil => exact fun h => (Host.Alike.refl h).recalls
    | cons d judged ih => exact fun h => (b.judge.verdict_recalls _ _ h d).trans (ih _)
  exact hlater judged _

theorem key_course (b : Batch) (n : Nat) :
    Resolver.key (b.course n).host b.root = Resolver.key b.start.host b.root := by
  rw [course, Resolution.key_after, Resolution.key_act]
  rfl

/-- The attempt stays remembered. -/
theorem memo_course (b : Batch) (n : Nat) : (b.course n).resolver.memo.lookup
    (Resolver.key b.start.host b.root) = some b.attempt := by
  refine Resolution.lookup_memo_after ?_ (b.start.resolution.lookup_memo_resolve b.root)
  intro a ha
  rw [List.eq_of_mem_replicate ha]
  exact not_false

/-- Whoever asks again is told of the same attempt. -/
theorem asking_of_course {n : Nat}
    (memo : l.session.resolver.memo = (b.course n).resolver.memo)
    (files : l.host.files = (b.course n).host.files) :
    l.asking b.root = l ∧ l.attemptAsked b.root = b.attempt := by
  have hmemo : l.session.resolver.memo.lookup (Resolver.key l.host b.root) = some b.attempt := by
    rw [memo, Resolver.key_of_files files, key_course, memo_course]
  simp only [asking, attemptAsked, Resolver.attemptFor, hmemo]
  exact ⟨rfl, trivial⟩

/-! ### How much is left to do -/

/-- What a turn can still bring about. -/
def turnEffort (b : Batch) : Turn → Nat
  | .start _ => 9
  | .relay _ => 7
  | .wake t => if t = b.parent then 1 else 6
  | .report _ _ => 5
  | .rest _ => 2
  | _ => 1

/-- What an attempt can still bring about, which may not have begun. -/
def attemptEffort (p : Option Phase) : Nat :=
  match p with
  | none => 13
  | some p => 4 * p.remaining

/-- How many turns a batch can still take at most. -/
def effort (b : Batch) (l : Loop) : Nat :=
  (l.queue.map b.turnEffort).sum + 8 * l.waiting.length +
    attemptEffort (l.session.resolver.phase? b.attempt)

theorem effort_enqueue (b : Batch) (l : Loop) (turn : Turn) :
    b.effort (l.enqueue turn) = b.effort l + b.turnEffort turn := by
  simp only [effort, Loop.enqueue, List.map_append, List.sum_append, List.map_cons, List.map_nil,
    List.sum_cons, List.sum_nil]
  omega

/-- Turns that bring about the same each. -/
theorem sum_turnEffort (b : Batch) {α : Type} {k : Nat} {f : α → Turn}
    (hk : ∀ a, b.turnEffort (f a) = k) (as : List α) :
    ((as.map f).map b.turnEffort).sum = k * as.length := by
  simp only [List.map_map, Function.comp_def, hk, List.map_const', List.sum_replicate_nat,
    Nat.mul_comm]

/-! ### What leaves a batch where it stands -/

/-- A task stands where it stood if none of its turns is lost, and it goes on waiting. -/
theorem Stands.keep (h : b.Stands hand judged l t d) (task : l'.tasks[t]? = l.tasks[t]?)
    (turns : ∀ turn, turn.task? = some t → l.Expects hand turn → l'.Expects hand' turn)
    (waiting : (b.attempt, t) ∈ l.waiting → (b.attempt, t) ∈ l'.waiting)
    (outcome : l'.session.resolver.outcome? b.attempt = l.session.resolver.outcome? b.attempt)
    (numbers : ∀ n, l.session.isCurrent d.uri n = true → l'.session.isCurrent d.uri n = true)
    (verdicts : ∀ x ∈ (b.tally judged).1, x ∈ (b.tally judged').1)
    (same : d ∈ judged' ↔ d ∈ judged) : b.Stands hand' judged' l' t d := by
  cases h with
  | ready htask turn unjudged =>
    exact .ready (task.trans htask) (turns _ rfl turn) (mt same.mp unjudged)
  | waits v htask validates unsettled hwaiting unjudged =>
    exact .waits v (task.trans htask)
      ⟨validates.document, validates.path, validates.root, numbers _ validates.current⟩
      (outcome.trans unsettled) (waiting hwaiting) (mt same.mp unjudged)
  | goesOn v htask validates settled turn unjudged =>
    exact .goesOn v (task.trans htask)
      ⟨validates.document, validates.path, validates.root, numbers _ validates.current⟩
      (outcome ▸ settled) (turn.imp (turns _ rfl) (turns _ rfl)) (mt same.mp unjudged)
  | done x mem uri htask hjudged =>
    exact .done x (verdicts x mem) uri (task.trans htask) (same.mpr hjudged)

/-- The batch counts on if its own task and what it counts stay, and no fault is lost. -/
theorem Gathering.keep (h : b.Gathering hand judged l)
    (task : l'.tasks[b.parent]? = l.tasks[b.parent]?)
    (count : l'.outstanding hand' b.parent = l.outstanding hand b.parent)
    (turns : ∀ y, y = .wake b.parent ∨ y.isReport = true → l.Expects hand y → l'.Expects hand' y)
    (results : ∀ t e, l'.result? t = some (.raised e) →
      l.result? t = some (.raised e) ∨ l'.Expects hand' (.report b.parent t))
    (verdicts : ∀ x ∈ (b.tally judged).1, x ∈ (b.tally judged').1) :
    b.Gathering hand' judged' l' := by
  have hunheard : b.Unheard hand l → b.Unheard hand' l' := fun unheard t ht e he =>
    (results t e he).elim (fun hold => turns _ (.inr rfl) (unheard t ht e hold)) id
  cases h with
  | counts job missing htask hcount positive unheard =>
    exact .counts job missing (task.trans htask) (count.trans hcount) positive (hunheard unheard)
  | complete job htask hcount turn unheard =>
    exact .complete job (task.trans htask) (count.trans hcount) (turns _ (.inl rfl) turn)
      (hunheard unheard)
  | failed job e htask turn raised =>
    obtain ⟨x, hx, he⟩ := raised
    exact .failed job e (task.trans htask) (turns _ (.inl rfl) turn) ⟨x, verdicts x hx, he⟩

/-- More turns of the batch may be asked for. -/
theorem Round.due_append (h : b.Round hand judged l) {turns : List Turn}
    (hturns : ∀ y ∈ turns, b.Due y) (hhand : ∀ y, hand' = some y → hand = some y)
    (queue : l'.queue = l.queue ++ turns) (y : Turn) (hy : l'.Expects hand' y) : b.Due y := by
  obtain hy | hy := hy
  · rw [queue, List.mem_append] at hy
    exact hy.elim (fun hold => h.due y (.inl hold)) (hturns y)
  · exact h.due y (.inr (hhand y hy))

/-- A turn is asked for. -/
theorem Round.enqueue (h : b.Round hand judged l) (hdue : b.Due turn)
    (hreport : turn.isReport = false) : b.Round hand judged (l.enqueue turn) where
  due := h.due_append (List.forall_mem_singleton.mpr hdue) (fun _ hy => hy) rfl
  waiting := h.waiting
  listeners := h.listeners
  workspace := h.workspace
  settings := h.settings
  events := h.events
  fixes := h.fixes
  calls := h.calls
  asks := h.asks
  once := h.once
  known := h.known
  attempt := by
    cases h.attempt with
    | unasked new same nobody skipped => exact .unasked new same nobody skipped
    | begun n same phase turn skipped =>
      exact .begun n same phase (turn.imp expects_append expects_append) skipped
    | settled resolver host => exact .settled resolver host
  stands j d hj := (h.stands j d hj).keep rfl (fun _ _ => expects_append) (fun hw => hw) rfl
    (fun _ hn => hn) (fun _ hx => hx) .rfl
  gathering := by
    refine h.gathering.keep rfl (outstanding_append l hand _ ?_) (fun _ _ => expects_append)
      (fun _ _ => .inl) fun _ hx => hx
    cases turn <;> simp_all [Turn.isReport, Turn.reportsTo]

/-- A turn that is taken is in hand. -/
theorem Round.inHand {queue : List Turn} (h : b.Round none judged { l with queue := queue })
    (hqueue : queue.Perm (turn :: l.queue)) : b.Round (some turn) judged l := by
  have hexpects : ∀ y, l.Expects (some turn) y ↔ Expects { l with queue := queue } none y := by
    intro y
    simp only [Expects, hqueue.mem_iff, List.mem_cons, Option.some.injEq, reduceCtorEq, or_false,
      eq_comm (b := y)]
    exact or_comm
  have houtstanding : ∀ p, l.outstanding (some turn) p =
      ({ l with queue := queue } : Loop).outstanding none p := by
    intro p
    simp only [outstanding, pending, hqueue.countP_eq, List.countP_cons, Option.toList_some,
      Option.toList_none, List.countP_nil]
    omega
  exact {
    due := fun y hy => h.due y ((hexpects y).mp hy)
    waiting := h.waiting
    listeners := h.listeners
    workspace := h.workspace
    settings := h.settings
    events := h.events
    fixes := h.fixes
    calls := h.calls
    asks := h.asks
    once := h.once
    known := h.known
    attempt := by
      cases h.attempt with
      | unasked new same nobody skipped => exact .unasked new same nobody skipped
      | begun n same phase turn skipped =>
        exact .begun n same phase (turn.imp (hexpects _).mpr (hexpects _).mpr) skipped
      | settled resolver host => exact .settled resolver host
    stands := fun j d hj => (h.stands j d hj).keep rfl (fun y _ => (hexpects y).mpr)
      (fun hw => hw) rfl (fun _ hn => hn) (fun _ hx => hx) .rfl
    gathering := h.gathering.keep rfl (houtstanding _) (fun y _ => (hexpects y).mpr)
      (fun _ _ => .inl) fun _ hx => hx }

/-- A turn is done with once nobody needs it any more. -/
theorem Round.drop (h : b.Round (some turn) judged l)
    (attempt : b.Attempted none judged l)
    (stands : ∀ i d, b.documents[i]? = some d → turn.task? = some (b.child i) →
      b.Stands none judged l (b.child i) d)
    (gathering : turn = .wake b.parent ∨ turn.isReport = true → b.Gathering none judged l) :
    b.Round none judged l where
  due y hy := h.due y (hy.imp_right fun hn => by simp at hn)
  waiting := h.waiting
  listeners := h.listeners
  workspace := h.workspace
  settings := h.settings
  events := h.events
  fixes := h.fixes
  calls := h.calls
  asks := h.asks
  once := h.once
  known := h.known
  attempt := attempt
  stands j d hj := by
    by_cases hmine : turn.task? = some (b.child j)
    · exact stands j d hj hmine
    · refine (h.stands j d hj).keep rfl (fun y hy hexpects => .inl (hexpects.queue ?_))
        (fun hw => hw) rfl (fun _ hn => hn) (fun _ hx => hx) .rfl
      rintro rfl
      exact hmine hy
  gathering := by
    by_cases hmine : turn = .wake b.parent ∨ turn.isReport = true
    · exact gathering hmine
    · refine h.gathering.keep rfl ?_ (fun y hy hexpects => .inl (hexpects.queue ?_))
        (fun _ _ => .inl) fun _ hx => hx
      · have hnone : Turn.reportsTo b.parent turn = false := by
          cases turn <;> simp_all [Turn.isReport, Turn.reportsTo]
        simp [outstanding, hnone]
      · rintro rfl
        exact hmine hy

/-- Whether a turn is one of the attempt. -/
def ofAttempt : Turn → Bool
  | .attempt _ | .rest _ => true
  | _ => false

/-- The attempt has its turn as long as others are taken. -/
theorem Attempted.drop (h : b.Attempted (some turn) judged l) (hturn : ofAttempt turn = false) :
    b.Attempted none judged l := by
  cases h with
  | unasked new same nobody skipped => exact .unasked new same nobody skipped
  | begun n same phase hexpects skipped =>
    refine .begun n same phase (hexpects.imp ?_ ?_) skipped <;> refine fun he => .inl (he.queue ?_)
    · rintro rfl
      simp [ofAttempt] at hturn
    · rintro rfl
      simp [ofAttempt] at hturn
  | settled resolver host => exact .settled resolver host

/-! ### A validation begins -/

/-- A validation that begins takes the next number of its document. -/
theorem Round.bump (h : b.Round hand judged l) (hd : b.documents[i]? = some d)
    (ready : l.tasks[b.child i]? = some ⟨.validate d, .task b.parent, .ready⟩) {host : Host}
    (hosts : l.host.Alike host) :
    b.Round hand judged { l with session := (l.session.bump d.uri).1, host := host } where
  due := h.due
  waiting := h.waiting
  listeners := h.listeners
  workspace := h.workspace
  settings := h.settings
  events := h.events
  fixes := h.fixes
  calls := h.calls
  asks := h.asks
  once := h.once
  known := h.known
  attempt := by
    cases h.attempt with
    | unasked new same nobody skipped =>
      exact .unasked new ⟨same.resolver, same.host.trans hosts⟩ nobody skipped
    | begun n same phase turn skipped =>
      exact .begun n ⟨same.resolver, same.host.trans hosts⟩ phase turn skipped
    | settled resolver machine => exact .settled resolver (machine.trans hosts)
  stands j d' hj := by
    by_cases hne : i = j
    · subst hne
      obtain rfl := Option.some.inj (hd.symm.trans hj)
      cases h.stands i d hd with
      | ready task turn unjudged => exact .ready task turn unjudged
      | waits v task => simp [ready] at task
      | goesOn v task => simp [ready] at task
      | done x mem uri task => simp [ready] at task
    · refine (h.stands j d' hj).keep rfl (fun _ _ hturn => hturn) (fun hw => hw) rfl
        (fun n hn => ?_) (fun _ hx => hx) .rfl
      rwa [Session.isCurrent_bump_of_ne _ (uri_ne hd hj hne)]
  gathering := by
    exact h.gathering.keep rfl rfl (fun _ _ hturn => hturn) (fun _ _ => .inl) fun _ hx => hx

/-- As long as nobody has asked for the attempt, there is none. -/
theorem phase?_of_unasked
    (new : b.start.session.resolver.memo.lookup (Resolver.key b.start.host b.root) = none)
    (same : b.start.resolution.Alike l.resolution) :
    l.session.resolver.phase? b.attempt = none := by
  have hresolver : l.session.resolver = b.start.session.resolver := same.resolver
  obtain ⟨hsame, o, ho⟩ | ⟨-, hid, -⟩ := b.remembered_or_new
  · have hmemo := b.start.resolution.lookup_memo_resolve b.root
    rw [hsame] at hmemo
    simp [resolution, new] at hmemo
  · rw [hresolver, hid]
    simp [Resolver.phase?]

/-- Who is the first to ask for the attempt makes it begin. -/
theorem asking_of_unasked
    (new : b.start.session.resolver.memo.lookup (Resolver.key b.start.host b.root) = none)
    (same : b.start.resolution.Alike l.resolution) :
    ∃ host, l.asking b.root = { l with
        session.resolver := (l.session.resolver.begin (Resolver.key l.host b.root)).1
        host := host
        queue := l.queue ++ [.attempt b.attempt] } ∧
      l.attemptAsked b.root = b.attempt ∧
      (b.course 0).Alike (l.asking b.root).resolution ∧
      (l.asking b.root).session.resolver.phase? b.attempt = some .begun := by
  have hresolver : l.session.resolver = b.start.session.resolver := same.resolver
  have hkey : Resolver.key l.host b.root = Resolver.key b.start.host b.root :=
    Resolver.key_of_files same.host.stays.files _
  obtain ⟨-, hfirst⟩ := same.resolve b.root
  obtain ⟨hsame, -⟩ | ⟨-, hid, hr⟩ := b.remembered_or_new
  · have hmemo := b.start.resolution.lookup_memo_resolve b.root
    rw [hsame] at hmemo
    simp [resolution, new] at hmemo
  have hnew : l.session.resolver.memo.lookup (Resolver.key l.host b.root) = none := by
    rw [hkey, hresolver, new]
  obtain ⟨host, -, hasking⟩ := asking_of_new hnew
  have hattempt : l.session.resolver.attempts.length = b.attempt := by
    rw [hresolver, hid]
  have hasked : l.attemptAsked b.root = b.attempt := by
    simp only [attemptAsked, Resolver.attemptFor, hnew]
    exact hattempt
  have hcourse : (b.course 0).Alike (l.asking b.root).resolution := by
    rw [asking_resolution]
    exact hfirst
  rw [hattempt] at hasking
  refine ⟨host, hasking, hasked, hcourse, ?_⟩
  rw [show (l.asking b.root).session.resolver = (b.course 0).resolver from hcourse.resolver, hr,
    hid]
  exact Resolver.phase?_begin_self _ _

variable (b hand judged l) in
/-- The attempt has been asked for. -/
structure Asked : Prop where
  round : b.Round hand judged (l.asking b.root)
  asked : l.attemptAsked b.root = b.attempt
  memo : (l.asking b.root).session.resolver.memo.lookup (Resolver.key b.start.host b.root) =
    some b.attempt
  outcome : (l.asking b.root).session.resolver.outcome? b.attempt =
    l.session.resolver.outcome? b.attempt
  queue : ∃ turns, (l.asking b.root).queue = l.queue ++ turns ∧ ∀ y ∈ turns, y = .attempt b.attempt
  effort : b.effort (l.asking b.root) ≤ b.effort l

/-- If the attempt is remembered, to ask for it changes nothing. -/
theorem Round.asked_of_same (h : b.Round hand judged l) {n : Nat}
    (memo : l.session.resolver.memo = (b.course n).resolver.memo)
    (files : l.host.files = (b.course n).host.files) : b.Asked hand judged l := by
  obtain ⟨hsame, hasked⟩ := asking_of_course memo files
  have hmemo : l.session.resolver.memo.lookup (Resolver.key b.start.host b.root) =
      some b.attempt := by
    rw [memo, memo_course]
  have hqueue : (l.asking b.root).queue = l.queue ++ [] := by
    rw [hsame]
    exact (List.append_nil _).symm
  refine ⟨?_, hasked, ?_, ?_, ⟨[], hqueue, by simp⟩, Nat.le_of_eq (congrArg b.effort hsame)⟩
  · rwa [hsame]
  · rwa [hsame]
  · rw [hsame]

/-- The attempt is asked for; a new one begins. -/
theorem Round.asked (h : b.Round hand judged l) : b.Asked hand judged l := by
  cases h.attempt with
  | unasked new same nobody skipped =>
    obtain ⟨host, hasking, hasked, hcourse, hphase⟩ := asking_of_unasked new same
    have hmemo : (l.asking b.root).session.resolver.memo.lookup
        (Resolver.key b.start.host b.root) = some b.attempt := by
      rw [show (l.asking b.root).session.resolver = (b.course 0).resolver from hcourse.resolver,
        memo_course]
    have hnone := phase?_of_unasked new same
    have houtcome : (l.asking b.root).session.resolver.outcome? b.attempt =
        l.session.resolver.outcome? b.attempt := by
      simp only [Resolver.outcome?, hnone, hphase]
    have hqueue : (l.asking b.root).queue = l.queue ++ [.attempt b.attempt] := by rw [hasking]
    refine ⟨?_, hasked, hmemo, houtcome, ⟨_, hqueue, by simp⟩, ?_⟩
    rotate_left
    · rw [hasking] at hphase ⊢
      simp only [effort, hphase, hnone, attemptEffort, Phase.remaining, List.map_append,
        List.sum_append, List.map_cons, List.map_nil, turnEffort, List.sum_cons, List.sum_nil]
      omega
    rw [hasking] at hcourse hphase houtcome ⊢
    have hown : ∀ y ∈ [Turn.attempt b.attempt], b.Due y := List.forall_mem_singleton.mpr rfl
    exact {
      due := h.due_append hown (fun _ hy => hy) rfl
      waiting := h.waiting
      listeners := h.listeners
      workspace := h.workspace
      settings := h.settings
      events := h.events
      fixes := h.fixes
      calls := h.calls
      asks := h.asks
      once := h.once
      known := h.known
      attempt := .begun 0 hcourse (.inl hphase) (.inl (.inl (by simp))) skipped
      stands := fun j d hj => (h.stands j d hj).keep rfl (fun _ _ => expects_append)
        (fun hw => hw) houtcome (fun _ hn => hn) (fun _ hx => hx) .rfl
      gathering := h.gathering.keep rfl (outstanding_append l hand _ rfl)
        (fun _ _ => expects_append) (fun _ _ => .inl) fun _ hx => hx }
  | begun n same phase turn skipped =>
    exact h.asked_of_same (congrArg Resolver.memo same.resolver) same.host.stays.files
  | settled resolver host =>
    exact h.asked_of_same (n := 3) (congrArg Resolver.memo resolver)
      (host.stays.files.trans (b.tally_recalls judged).stays.files)

/-- Who listens to a task does so wherever it stands. -/
theorem Round.listens (h : b.Round hand judged l) {t' : Nat} {s : Stage} {task : Task}
    (ht : (l.setStage t' s).tasks[t]? = some task) (hl : task.listener = .task b.parent) :
    t ∈ b.children := by
  have hold := listener?_setStage (l := l) t' t s
  rw [listener?_of_task ht, hl] at hold
  obtain ⟨task₀, ht₀, hl₀⟩ := Option.map_eq_some_iff.mp hold.symm
  exact h.listeners t task₀ ht₀ hl₀

/-- Whoever asks for an attempt that has not settled waits for it. -/
theorem Round.waits (h : b.Round hand judged l) (hd : b.documents[i]? = some d)
    (ready : l.tasks[b.child i]? = some ⟨.validate d, .task b.parent, .ready⟩) {v : Validation}
    (validates : b.Validates l d v)
    (asked : l.session.resolver.memo.lookup (Resolver.key b.start.host b.root) = some b.attempt)
    (unsettled : l.session.resolver.outcome? b.attempt = none) :
    b.Round hand judged { l.setStage (b.child i) (.resolving b.attempt (.conclude v false)) with
      waiting := l.waiting ++ [(b.attempt, b.child i)] } where
  due := h.due
  waiting p hp := by
    obtain hp | hp := List.mem_append.mp hp
    · exact h.waiting p hp
    · rw [List.mem_singleton.mp hp]
      exact ⟨rfl, child_mem hd⟩
  listeners t task ht hl := h.listens ht hl
  workspace := h.workspace
  settings := h.settings
  events := h.events
  fixes := h.fixes
  calls := h.calls.trans (silent_setStage l _ _).calls
  asks := h.asks
  once := h.once
  known := h.known
  attempt := by
    cases h.attempt with
    | unasked new same nobody skipped =>
      rw [show l.session.resolver = b.start.session.resolver from same.resolver, new] at asked
      simp at asked
    | begun n same phase turn skipped => exact .begun n same phase turn skipped
    | settled resolver host => exact .settled resolver host
  stands j d' hj := by
    by_cases hne : i = j
    · subst hne
      obtain rfl := Option.some.inj (hd.symm.trans hj)
      have hself := task?_setStage_self ready (.resolving b.attempt (.conclude v false))
      cases h.stands i d hd with
      | ready task turn unjudged =>
        exact .waits v hself
          ⟨validates.document, validates.path, validates.root, validates.current⟩ unsettled
          (by simp) unjudged
      | waits v task => simp [ready] at task
      | goesOn v task => simp [ready] at task
      | done x mem uri task => simp [ready] at task
    · refine (h.stands j d' hj).keep ?_ (fun _ _ hturn => hturn)
        (fun hw => List.mem_append_left _ hw) rfl (fun _ hn => hn) (fun _ hx => hx) .rfl
      exact task?_setStage_of_ne (fun he => hne (b.child_inj.mp he)) _
  gathering := by
    refine h.gathering.keep (task?_setStage_of_ne (b.child_ne_parent i) _) ?_
      (fun _ _ hturn => hturn) (fun t e he => .inl (raised_of_setStage rfl he)) fun _ hx => hx
    have hpending := pending_setStage ready (s := .resolving b.attempt (.conclude v false)) rfl
      b.parent
    simp only [outstanding]
    exact congrArg (· + _) hpending

/-! ### A validation ends -/

/-- Once a document has been judged the attempt stands where it stood: the outcome was known, or the
document was skipped. -/
theorem Attempted.judges (a : b.Attempted hand judged l)
    (resolver : l'.session.resolver = l.session.resolver) (waiting : l'.waiting = l.waiting)
    (turns : ∀ y, l.Expects hand y → l'.Expects hand y)
    (settled : l.session.resolver = b.resolved.resolver ∧ (b.verdict judged d).2.Alike l'.host ∨
      ¬ d.IsFile ∧ l'.host = l.host) : b.Attempted hand (judged ++ [d]) l' := by
  have htally : (b.tally (judged ++ [d])).2 = (b.verdict judged d).2 := by rw [b.tally_append]
  obtain ⟨hsettled, hhost⟩ | ⟨hfile, hhost⟩ := settled
  · exact .settled (resolver.trans hsettled) (by rwa [htally])
  · have hskipped : (∀ d ∈ judged, ¬ d.IsFile) → ∀ d' ∈ judged ++ [d], ¬ d'.IsFile := fun hall =>
      List.forall_mem_append.mpr ⟨hall, List.forall_mem_singleton.mpr hfile⟩
    have hsame : ∀ {c : Resolution}, c.Alike l.resolution → c.Alike l'.resolution := by
      intro c same
      refine ⟨resolver.trans same.resolver, ?_⟩
      show c.host.Alike l'.host
      rw [hhost]
      exact same.host
    cases a with
    | unasked new same nobody skipped =>
      exact .unasked new (hsame same) (waiting.trans nobody) (hskipped skipped)
    | begun n same phase turn skipped =>
      refine .begun n (hsame same) ?_ (turn.imp (turns _) (turns _)) (hskipped skipped)
      rwa [resolver]
    | settled same machine =>
      refine .settled (resolver.trans same) ?_
      rw [htally, Batch.verdict, Session.verdict_of_skipped hfile, hhost]
      exact machine

/-- No document is judged twice. -/
theorem Round.once_append (h : b.Round hand judged l) (hd : d ∈ b.documents)
    (unjudged : d ∉ judged) : ((judged ++ [d]).map Document.uri).Nodup := by
  rw [List.map_append, List.nodup_append]
  refine ⟨h.once, by simp, ?_⟩
  intro uri huri uri' huri' he
  obtain ⟨d', hd', rfl⟩ := List.mem_map.mp huri
  obtain rfl : uri' = d.uri := by simpa using huri'
  exact unjudged (uri_inj hd (h.known d' hd') he ▸ hd')

/-- A validation that is concluded, or skipped, is judged next. -/
theorem Round.concludes (h : b.Round hand judged l) (hd : b.documents[i]? = some d) {s : Stage}
    (ht : l.tasks[b.child i]? = some ⟨.validate d, .task b.parent, s⟩) (hs : s.isDone = false)
    (unjudged : d ∉ judged) {host : Host}
    (settled : l.session.resolver = b.resolved.resolver ∧ (b.verdict judged d).2.Alike host ∨
      ¬ d.IsFile ∧ host = l.host) :
    b.Round hand (judged ++ [d]) (({ l with
      session := (b.verdict judged d).1.store l.session
      host := host }.emit (b.verdict judged d).1.events).finish (b.child i)
        (b.verdict judged d).1.ended) := by
  have hmember : d ∈ b.documents := List.mem_of_getElem? hd
  have htally := b.tally_append judged d
  have hresolver := (b.verdict judged d).1.store_resolver l.session
  have hcalls : Adds b.start (({ l with
      session := (b.verdict judged d).1.store l.session
      host := host }.emit (b.verdict judged d).1.events).finish (b.child i)
        (b.verdict judged d).1.ended) [] := by
    have hconcluded : Adds l { l with
        session := (b.verdict judged d).1.store l.session
        host := host } [] := .of_eq rfl rfl
    exact h.calls.trans (hconcluded.trans ((silent_emit _ _ (Verdict.error?_events _)).calls.trans
      (silent_finish _ _ _).calls))
  have hpending := pending_done ht hs (b.verdict judged d).1.ended b.parent
  rw [finish_child (l := Loop.emit { l with
      session := (b.verdict judged d).1.store l.session
      host := host } (b.verdict judged d).1.events) ht] at hcalls ⊢
  have hreport : ∀ y ∈ [Turn.report b.parent (b.child i)], b.Due y :=
    List.forall_mem_singleton.mpr ⟨rfl, child_mem hd⟩
  exact {
    due := h.due_append hreport (fun _ hy => hy) rfl
    waiting := h.waiting
    listeners := fun t task ht hl => h.listens ht hl
    workspace := by
      have hroot := (b.verdict judged d).1.store_root l.session
      simp only [emit, setStage, Session.workspace?, hroot]
      exact h.workspace
    settings := ((b.verdict judged d).1.store_settings l.session).trans h.settings
    events := by
      simp only [emit, setStage, htally, List.flatMap_append, List.flatMap_singleton]
      rw [← List.append_assoc, ← h.events]
    fixes := by
      simp only [emit, setStage, htally, List.foldl_append, List.foldl_cons, List.foldl_nil]
      exact Verdict.store_fixes_congr _ h.fixes
    calls := hcalls
    asks := h.asks
    once := h.once_append hmember unjudged
    known := List.forall_mem_append.mpr ⟨h.known, List.forall_mem_singleton.mpr hmember⟩
    attempt := h.attempt.judges hresolver rfl (fun _ => expects_append) settled
    stands := by
      intro j d' hj
      by_cases hne : i = j
      · subst hne
        obtain rfl := Option.some.inj (hd.symm.trans hj)
        exact .done (b.verdict judged d).1 (by simp [htally]) (by simp [Batch.verdict])
          (task?_setStage_self ht _) (by simp)
      · refine (h.stands j d' hj).keep ?_ (fun _ _ => expects_append) (fun hw => hw) ?_ ?_ ?_ ?_
        · exact task?_setStage_of_ne (fun he => hne (b.child_inj.mp he)) _
        · simp only [emit, setStage, Verdict.store_resolver]
        · intro n hn
          simpa only [emit, setStage, Session.isCurrent, Verdict.store_numbers] using hn
        · intro x hx
          rw [htally]
          exact List.mem_append_left _ hx
        · have hother : d' ≠ d := fun he => uri_ne hd hj hne (he ▸ rfl)
          simp [hother]
    gathering := by
      refine h.gathering.keep (task?_setStage_of_ne (b.child_ne_parent i) _) ?_
        (fun _ _ => expects_append) (fun t e he => ?_) fun x hx => ?_
      · simp only [outstanding]
        exact congrArg (· + _) hpending
      · by_cases hmine : t = b.child i
        · exact .inr (.inl (by simp [hmine, reportOf]))
        · refine .inl (Eq.trans ?_ he)
          exact (result?_setStage_of_ne (l := l) (Ne.symm hmine) _).symm
      · rw [htally]
        exact List.mem_append_left _ hx }

/-- The effort that is left when a validation ends: that of its report. -/
theorem effort_concludes {job : Job} {p : Nat} {s : Stage} {x : Verdict} {host : Host}
    (ht : l.tasks[t]? = some ⟨job, .task p, s⟩) (r : TaskResult) :
    b.effort (({ l with session := x.store l.session, host := host }.emit x.events).finish t r) =
      b.effort l + 5 := by
  rw [finish_child (l := Loop.emit { l with session := x.store l.session, host := host } x.events) ht]
  simp only [effort, emit, setStage, reportOf, Verdict.store_resolver, List.map_append,
    List.sum_append, List.map_cons, List.map_nil, turnEffort, List.sum_cons, List.sum_nil]
  omega

/-- Where a validation goes from does not matter but for who waits or has a turn, and the attempts.
-/
theorem Goes.congr {l₀ : Loop} (h : b.Goes t d judged judged' l₀ l') (queue : l₀.queue = l.queue)
    (waiting : l₀.waiting = l.waiting) (resolver : l₀.session.resolver = l.session.resolver)
    (tasks : l₀.tasks = l.tasks) : b.Goes t d judged judged' l l' := by
  have hparent : l₀.stage? b.parent = l.stage? b.parent := by rw [stage?, tasks, stage?]
  cases h with
  | judges next hqueue hwaiting outcome settled parent =>
    rw [queue] at hqueue
    rw [resolver] at outcome settled
    exact .judges next hqueue (hwaiting.trans waiting) outcome settled (parent.trans hparent)
  | waits same hqueue hwaiting outcome unsettled parent =>
    rw [queue] at hqueue
    rw [waiting] at hwaiting
    rw [resolver] at outcome
    exact .waits same hqueue hwaiting outcome unsettled (parent.trans hparent)
  | stays same hqueue hwaiting outcome elsewhere parent =>
    rw [queue, waiting] at elsewhere
    rw [resolver] at outcome
    exact .stays same (hqueue.trans queue) (hwaiting.trans waiting) outcome elsewhere
      (parent.trans hparent)

/-- A validation that ends reports, and changes nothing for those who wait. -/
theorem goes_concludes {job : Job} {s : Stage} {x : Verdict} {host : Host}
    (ht : l.tasks[t]? = some ⟨job, .task b.parent, s⟩) (hne : t ≠ b.parent) (r : TaskResult)
    (settled : d.IsFile → l.session.resolver.outcome? b.attempt ≠ none) :
    b.Goes t d judged (judged ++ [d]) l
      (({ l with session := x.store l.session, host := host }.emit x.events).finish t r) := by
  rw [finish_child (l := Loop.emit { l with session := x.store l.session, host := host } x.events) ht]
  refine .judges rfl rfl rfl ?_ settled (stage?_setStage_of_ne (l := l) hne _)
  simp only [emit, setStage, Verdict.store_resolver]

/-- A validation that goes on with the outcome is concluded as judged. -/
theorem Round.judges (h : b.Round hand judged l) (resolver : l.session.resolver =
    b.resolved.resolver) (host : (b.tally judged).2.Alike l.host) {v : Validation}
    (validates : b.Validates l d v) :
    (l.session.concluded l.host v b.outcome).1 = (b.verdict judged d).1 ∧
      (b.verdict judged d).2.Alike (l.session.concluded l.host v b.outcome).2 := by
  obtain ⟨path, hpath, hv⟩ := validates.path
  have hsessions : b.judge.Alike l.session := .of_eq h.settings resolver
  simp only [Batch.verdict, Session.verdict, hpath]
  exact Session.concluded_congr hsessions host validates.document hv validates.root _

/-- Once the attempt has settled, a validation goes on to its end. -/
theorem Round.proceeds (h : b.Round hand judged l) (hd : b.documents[i]? = some d) {s : Stage}
    (ht : l.tasks[b.child i]? = some ⟨.validate d, .task b.parent, s⟩) (hs : s.isDone = false)
    (unjudged : d ∉ judged) {v : Validation} (validates : b.Validates l d v)
    (resolver : l.session.resolver = b.resolved.resolver)
    (host : (b.tally judged).2.Alike l.host) :
    b.Round hand (judged ++ [d]) (l.proceed (b.child i) (.conclude v false) b.outcome) ∧
      b.Goes (b.child i) d judged (judged ++ [d]) l
        (l.proceed (b.child i) (.conclude v false) b.outcome) ∧
      (l.proceed (b.child i) (.conclude v false) b.outcome).waiting = l.waiting ∧
      b.effort (l.proceed (b.child i) (.conclude v false) b.outcome) = b.effort l + 5 := by
  obtain ⟨hverdict, hhost⟩ := h.judges resolver host validates
  have hsettled : l.session.resolver.outcome? b.attempt ≠ none := by
    rw [resolver, b.settles]
    simp
  have hcurrent : l.session.isCurrent v.document.uri v.number = true := by
    rw [validates.document]
    exact validates.current
  have hconcluded := h.concludes hd ht hs unjudged (.inl ⟨resolver, hhost⟩)
  have hproceed : l.proceed (b.child i) (.conclude v false) b.outcome = (Loop.emit { l with
      session := (b.verdict judged d).1.store l.session
      host := (l.session.concluded l.host v b.outcome).2 }
        (b.verdict judged d).1.events).finish (b.child i) (b.verdict judged d).1.ended := by
    simp only [proceed, Session.conclude_of_current hcurrent, hverdict, Verdict.ended]
    cases (b.verdict judged d).1.result <;> rfl
  rw [hproceed]
  have hwaiting : ∀ (x : Verdict) host r, (({ l with
      session := x.store l.session
      host := host }.emit x.events).finish (b.child i) r).waiting = l.waiting := by
    intro x host r
    rw [finish_child (l := Loop.emit { l with session := x.store l.session, host := host } x.events)
      ht]
    rfl
  exact ⟨hconcluded, goes_concludes ht (b.child_ne_parent i) _ fun _ => hsettled,
    hwaiting _ _ _, effort_concludes ht _⟩

/-! ### Where the attempt stands -/

theorem records_course (b : Batch) (n : Nat) : (b.course n).resolver.Records := by
  have hfirst : (b.start.resolution.act (.resolve b.root)).resolver.Records :=
    (Resolver.hushes_act b.start.resolution (a := .resolve b.root) (by simp)).records b.records
  induction n with
  | zero => exact hfirst
  | succ n ih =>
    rw [course_succ]
    exact (Resolver.hushes_act (b.course n) (a := .step b.attempt) (by simp)).records ih

theorem Attempted.records (h : b.Attempted hand judged l) : l.session.resolver.Records := by
  cases h with
  | unasked new same =>
    rw [show l.session.resolver = b.start.session.resolver from same.resolver]
    exact b.records
  | begun n same =>
    rw [show l.session.resolver = (b.course n).resolver from same.resolver]
    exact b.records_course n
  | settled resolver =>
    rw [resolver]
    exact b.records_course 3

/-- Either the attempt has not settled, or it has come to its outcome. -/
theorem Attempted.cases_outcome (h : b.Attempted hand judged l) :
    l.session.resolver.outcome? b.attempt = none ∨
      l.session.resolver.outcome? b.attempt = some b.outcome ∧
        l.session.resolver = b.resolved.resolver ∧ (b.tally judged).2.Alike l.host := by
  cases h with
  | unasked new same =>
    left
    simp only [Resolver.outcome?, phase?_of_unasked new same]
  | begun n same phase =>
    left
    simp only [Resolver.outcome?]
    obtain hphase | ⟨origin, result, hphase⟩ := phase <;> rw [hphase]
  | settled resolver host =>
    right
    exact ⟨resolver ▸ b.settles, resolver, host⟩

/-! ### Turns of a validation -/

/-- A turn to begin is of no use to a task that has begun. -/
theorem Stands.drop_start (h : b.Stands (some (.start t)) judged l t d)
    (begun : ∀ task, l.tasks[t]? = some task → task.stage ≠ .ready) :
    b.Stands none judged l t d := by
  cases h with
  | ready task turn unjudged => exact absurd rfl (begun _ task)
  | waits v task validates unsettled waiting unjudged =>
    exact .waits v task validates unsettled waiting unjudged
  | goesOn v task validates settled turn unjudged =>
    exact .goesOn v task validates settled
      (turn.imp (fun he => .inl (he.queue (by simp))) fun he => .inl (he.queue (by simp))) unjudged
  | done x mem uri task hjudged => exact .done x mem uri task hjudged

/-- A turn to go on is of no use to a task that has nothing to go on with. -/
theorem Stands.drop_wake (h : b.Stands (some (.wake t)) judged l t d)
    (idle : l.session.resolver.outcome? b.attempt = none ∨
      ∀ task, l.tasks[t]? = some task → ∀ k, task.stage ≠ .resolving b.attempt k) :
    b.Stands none judged l t d := by
  cases h with
  | ready task turn unjudged => exact .ready task (.inl (turn.queue (by simp))) unjudged
  | waits v task validates unsettled waiting unjudged =>
    exact .waits v task validates unsettled waiting unjudged
  | goesOn v task validates settled turn unjudged =>
    obtain hnone | hidle := idle
    · exact absurd hnone settled
    · exact absurd rfl (hidle _ task _)
  | done x mem uri task hjudged => exact .done x mem uri task hjudged

/-- The task of a child that stands somewhere. -/
theorem exists_child (ht : t ∈ b.children) : ∃ i d, t = b.child i ∧ b.documents[i]? = some d := by
  obtain ⟨i, hi, rfl⟩ := b.mem_children.mp ht
  exact ⟨i, _, rfl, List.getElem?_eq_getElem hi⟩

/-- A task that has ended needs no more turns. -/
theorem Stands.drop_judged (h : b.Stands (some turn) judged l t d) (hd : d ∈ judged) :
    b.Stands none judged l t d := by
  cases h with
  | ready task turn unjudged => exact absurd hd unjudged
  | waits v task validates unsettled waiting unjudged => exact absurd hd unjudged
  | goesOn v task validates settled turn unjudged => exact absurd hd unjudged
  | done x mem uri task hjudged => exact .done x mem uri task hjudged

/-- A turn of a validation is done with once its task does not need it any more. -/
theorem Round.drop_mine (h : b.Round (some turn) judged l) (hturn : turn.task? = some (b.child i))
    (hd : b.documents[i]? = some d) (stands : b.Stands none judged l (b.child i) d) :
    b.Round none judged l := by
  refine h.drop (h.attempt.drop ?_) (fun j d' hj hj' => ?_) ?_
  · cases turn <;> simp_all [Turn.task?, ofAttempt]
  · obtain rfl := b.child_inj.mp (Option.some.inj (hturn.symm.trans hj'))
    obtain rfl := Option.some.inj (hd.symm.trans hj)
    exact stands
  · rintro (rfl | hreport)
    · exact absurd (Option.some.inj hturn).symm (b.child_ne_parent i)
    · cases turn <;> simp_all [Turn.task?, Turn.isReport]

variable (b hand judged l i d l' judged') in
/-- What it comes to that a validation begins. -/
structure Begins : Prop where
  round : b.Round hand judged' l'
  goes : b.Goes (b.child i) d judged judged' l l'
  begun : ∀ task, l'.tasks[b.child i]? = some task → task.stage ≠ .ready
  effort : b.effort l' ≤ b.effort l + 8

/-- The validation of a document that has been judged has ended. -/
theorem Round.begun_of_judged (h : b.Round hand judged l) (hd : b.documents[i]? = some d)
    (hjudged : d ∈ judged) {task : Task} (ht : l.tasks[b.child i]? = some task) :
    task.stage ≠ .ready := by
  cases h.stands i d hd with
  | ready _ _ unjudged => exact absurd hjudged unjudged
  | waits _ _ _ _ _ unjudged => exact absurd hjudged unjudged
  | goesOn _ _ _ _ _ unjudged => exact absurd hjudged unjudged
  | done x mem uri hdone _ =>
    obtain rfl := Option.some.inj (hdone.symm.trans ht)
    simp

/-- A document that is not that of a file is skipped at once. -/
theorem Round.startSkipped (h : b.Round hand judged l) (hd : b.documents[i]? = some d)
    (ready : l.tasks[b.child i]? = some ⟨.validate d, .task b.parent, .ready⟩)
    (unjudged : d ∉ judged) (hpath : Uri.toPath? d.uri = .ok none) :
    b.Begins hand judged (judged ++ [d]) l (l.beginValidation (b.child i) d false) i d := by
  have hfile : ¬ d.IsFile := by
    rintro ⟨path, hfile⟩
    simp [hpath] at hfile
  have hverdict : (b.verdict judged d).1 = .skipped d.uri := by
    simp only [Batch.verdict, Session.verdict, hpath]
  obtain ⟨l₀, hround, hready, ⟨hqueue, hwaiting, hresolver, htasks⟩, hbegin⟩ : ∃ l₀,
      b.Round hand judged l₀ ∧
      l₀.tasks[b.child i]? = some ⟨.validate d, .task b.parent, .ready⟩ ∧
      (l₀.queue = l.queue ∧ l₀.waiting = l.waiting ∧
        l₀.session.resolver = l.session.resolver ∧ l₀.tasks = l.tasks) ∧
      l.beginValidation (b.child i) d false = (Loop.emit { l₀ with
        session := Verdict.store (.skipped d.uri) l₀.session
        host := l₀.host } (Verdict.skipped d.uri).events).finish (b.child i)
          (Verdict.skipped d.uri).ended := by
    have hhost := l.host.alike_note .debug s!"Skipping non-file document {d.uri}"
    refine ⟨_, h.bump hd ready hhost, ready, ⟨rfl, rfl, rfl, rfl⟩, ?_⟩
    simp only [beginValidation, Session.begin, hpath, emit, Verdict.events, Verdict.skipped,
      Option.map_none, Option.toList_none, List.append_nil]
    rfl
  have hlast := hround.concludes hd hready rfl unjudged (.inr ⟨hfile, rfl⟩)
  have hleft : b.effort l₀ = b.effort l := by simp only [effort, hqueue, hwaiting, hresolver]
  rw [hverdict] at hlast
  rw [hbegin]
  refine ⟨hlast, ?_, fun task ht => hlast.begun_of_judged hd (by simp) ht, ?_⟩
  · exact (goes_concludes hready (b.child_ne_parent i) _ fun hisFile =>
      absurd hisFile hfile).congr hqueue hwaiting hresolver htasks
  · rw [effort_concludes hready, hleft]
    omega

/-- Whoever awaits the attempt is judged at once if it has settled, and else waits for it. -/
theorem Round.awaits (h : b.Round hand judged l) (hd : b.documents[i]? = some d)
    (ready : l.tasks[b.child i]? = some ⟨.validate d, .task b.parent, .ready⟩)
    (unjudged : d ∉ judged) {v : Validation} (validates : b.Validates l d v) {l' : Loop}
    (hl' : l.await (b.child i) b.root (.conclude v false) = l') :
    ∃ judged', b.Begins hand judged judged' l l' i d := by
  have hrefusal := h.attempt.records.refusal
  obtain hnone | ⟨hsome, hresolver, hhost⟩ := h.attempt.cases_outcome
  · obtain ⟨hasking, hasked, hmemo, houtcome, ⟨turns, hqueue, hturns⟩, heffort⟩ := h.asked
    obtain ⟨htasks, hwaiting, hnumbers⟩ := asking_frame l b.root
    have ready' : (l.asking b.root).tasks[b.child i]? =
        some ⟨.validate d, .task b.parent, .ready⟩ := by
      rw [htasks]
      exact ready
    have validates' : b.Validates (l.asking b.root) d v := by
      refine ⟨validates.document, validates.path, validates.root, ?_⟩
      rw [Session.isCurrent, hnumbers]
      exact validates.current
    have hunsettled := houtcome.trans hnone
    have hwaits := await_of_unsettled hrefusal (hasked ▸ hunsettled) (b.child i) (.conclude v false)
    rw [hasked, ← hwaiting] at hwaits
    have hgoes : b.Goes (b.child i) d judged judged l
        { (l.asking b.root).setStage (b.child i) (.resolving b.attempt (.conclude v false)) with
          waiting := (l.asking b.root).waiting ++ [(b.attempt, b.child i)] } := by
      refine .waits rfl ⟨turns, hqueue, hturns⟩ (by rw [hwaiting]) hnone hunsettled ?_
      refine (stage?_setStage_of_ne (b.child_ne_parent i) _).trans ?_
      rw [stage?, htasks, stage?]
    have hlength : b.effort { (l.asking b.root).setStage (b.child i)
        (.resolving b.attempt (.conclude v false)) with
          waiting := (l.asking b.root).waiting ++ [(b.attempt, b.child i)] } =
        b.effort (l.asking b.root) + 8 := by
      simp only [effort, setStage, List.length_append, List.length_singleton]
      omega
    rw [← hl', hwaits]
    refine ⟨_, hasking.waits hd ready' validates' hmemo hunsettled, hgoes, fun task htask => ?_,
      by omega⟩
    obtain rfl := Option.some.inj ((task?_setStage_self ready' _).symm.trans htask)
    simp
  · have hfiles : l.host.files = (b.course 3).host.files :=
      hhost.stays.files.trans (b.tally_recalls judged).stays.files
    obtain ⟨hsame, hasked⟩ := asking_of_course (n := 3) (congrArg Resolver.memo hresolver) hfiles
    have hended : (l.asking b.root).session.resolver.outcome? (l.attemptAsked b.root) =
        some b.outcome := by
      rw [hsame, hasked]
      exact hsome
    have hproceeds := await_of_settled hrefusal hended (b.child i) (.conclude v false)
    obtain ⟨hround, hgoes, -, hleft⟩ := h.proceeds hd ready rfl unjudged validates hresolver hhost
    rw [← hl', hproceeds, hsame]
    exact ⟨_, hround, hgoes, fun task ht => hround.begun_of_judged hd (by simp) ht, by omega⟩

/-- The document of a file is judged at once if the attempt has settled, and else waits for it. -/
theorem Round.startFile (h : b.Round hand judged l) (hd : b.documents[i]? = some d)
    (ready : l.tasks[b.child i]? = some ⟨.validate d, .task b.parent, .ready⟩)
    (unjudged : d ∉ judged) {path : Path} (hpath : Uri.toPath? d.uri = .ok (some path)) :
    ∃ judged', b.Begins hand judged judged' l (l.beginValidation (b.child i) d false) i d := by
  have hroot : ((l.session.bump d.uri).1.workspace?.getD path.parent.toString) = b.root := by
    rw [show (l.session.bump d.uri).1.workspace? = l.session.workspace? from rfl, h.workspace]
    rfl
  have hbegin : l.beginValidation (b.child i) d false =
      Loop.await { l with session := (l.session.bump d.uri).1, host := l.host } (b.child i) b.root
        (.conclude ⟨d, l.session.number d.uri + 1, path.toString, b.root⟩ false) := by
    simp only [beginValidation, Session.begin, hpath, hroot]
    rfl
  obtain ⟨judged', hbegins⟩ := (h.bump hd ready (.refl l.host)).awaits hd ready unjudged
    ⟨rfl, ⟨path, hpath, rfl⟩, rfl, l.session.isCurrent_bump_self d.uri⟩ hbegin.symm
  exact ⟨judged', hbegins.round, hbegins.goes.congr rfl rfl rfl rfl, hbegins.begun,
    hbegins.effort⟩

/-- A validation begins at its turn. -/
theorem Round.start (h : b.Round (some (.start t)) judged l) :
    ∃ judged', b.Round none judged' (l.take (.start t)) ∧
      b.Moves (.start t) judged judged' l (l.take (.start t)) ∧
      b.effort (l.take (.start t)) < b.effort l + 9 := by
  obtain ⟨i, d, rfl, hd⟩ := exists_child (h.due _ (.inr rfl))
  have hdocument := (b.document?_child i).trans hd
  have hnothing : (∀ task, l.tasks[b.child i]? = some task → task.stage ≠ .ready) →
      (d ∈ judged ∨ (b.attempt, b.child i) ∈ l.waiting ∨
        ∃ y ∈ l.queue, y.task? = some (b.child i)) →
      ∃ judged', b.Round none judged' (l.take (.start (b.child i))) ∧
        b.Moves (.start (b.child i)) judged judged' l (l.take (.start (b.child i))) ∧
        b.effort (l.take (.start (b.child i))) < b.effort l + 9 := by
    intro hbegun helsewhere
    have hsame : l.take (.start (b.child i)) = l := by
      simp only [take]
      split
      · rename_i job a hready
        exact absurd rfl (hbegun _ hready)
      · rfl
    rw [hsame]
    exact ⟨judged, h.drop_mine rfl hd ((h.stands i d hd).drop_start hbegun),
      .goes _ d (.inl rfl) hdocument (.stays rfl rfl rfl rfl helsewhere rfl) fun _ => rfl, by omega⟩
  cases h.stands i d hd with
  | waits v task _ _ waiting => exact hnothing (by simp [task]) (.inr (.inl waiting))
  | goesOn v task _ _ turn =>
    refine hnothing (by simp [task]) (.inr (.inr ?_))
    exact turn.elim (fun he => ⟨_, he.queue (by simp), rfl⟩) fun he => ⟨_, he.queue (by simp), rfl⟩
  | done x mem uri task hjudged => exact hnothing (by simp [task]) (.inl hjudged)
  | ready ready turn unjudged =>
    have htake : l.take (.start (b.child i)) = l.beginValidation (b.child i) d false := by
      simp only [take, ready]
      rfl
    obtain ⟨judged', hround, hgoes, hbegun, hleft⟩ : ∃ judged', b.Begins _ judged judged' l
        (l.beginValidation (b.child i) d false) i d := by
      obtain ⟨path, hpath⟩ := b.accepted d (List.mem_of_getElem? hd)
      cases path with
      | none => exact ⟨_, h.startSkipped hd ready unjudged hpath⟩
      | some path => exact h.startFile hd ready unjudged hpath
    rw [htake]
    exact ⟨judged', hround.drop_mine rfl hd ((hround.stands i d hd).drop_start hbegun),
      .goes _ d (.inl rfl) hdocument hgoes (by simp), by omega⟩

/-- A validation that is told of the outcome goes on to its end. -/
theorem Round.wake (h : b.Round (some (.wake t)) judged l) (hchild : t ∈ b.children) :
    ∃ judged', b.Round none judged' (l.take (.wake t)) ∧
      b.Moves (.wake t) judged judged' l (l.take (.wake t)) ∧
      b.effort (l.take (.wake t)) < b.effort l + 6 := by
  obtain ⟨i, d, rfl, hd⟩ := exists_child hchild
  have hdocument := (b.document?_child i).trans hd
  have hnothing : l.take (.wake (b.child i)) = l → b.Stands none judged l (b.child i) d →
      (d ∈ judged ∨ (b.attempt, b.child i) ∈ l.waiting ∨
        ∃ y ∈ l.queue, y.task? = some (b.child i)) →
      ∃ judged', b.Round none judged' (l.take (.wake (b.child i))) ∧
        b.Moves (.wake (b.child i)) judged judged' l (l.take (.wake (b.child i))) ∧
        b.effort (l.take (.wake (b.child i))) < b.effort l + 6 := by
    intro hsame hstands helsewhere
    rw [hsame]
    exact ⟨judged, h.drop_mine rfl hd hstands,
      .goes _ d (.inr rfl) hdocument (.stays rfl rfl rfl rfl helsewhere rfl) fun _ => rfl, by omega⟩
  cases h.stands i d hd with
  | ready task turn unjudged =>
    refine hnothing ?_ ((h.stands i d hd).drop_wake (.inr (by simp [task])))
      (.inr (.inr ⟨_, turn.queue (by simp), rfl⟩))
    simp only [take, resume, stage?_of_task task]
  | waits v task validates unsettled waiting unjudged =>
    refine hnothing ?_ ((h.stands i d hd).drop_wake (.inl unsettled)) (.inr (.inl waiting))
    simp only [take, resume, stage?_of_task task, unsettled]
  | goesOn v task validates settled turn unjudged =>
    obtain hnone | ⟨hsome, hresolver, hhost⟩ := h.attempt.cases_outcome
    · exact absurd hnone settled
    · obtain ⟨hround, hgoes, hwaiting, heffort⟩ :=
        h.proceeds hd task rfl unjudged validates hresolver hhost
      have htake : l.take (.wake (b.child i)) =
          l.proceed (b.child i) (.conclude v false) b.outcome := by
        simp only [take, resume, stage?_of_task task, hsome]
      rw [htake]
      exact ⟨_, hround.drop_mine rfl hd ((hround.stands i d hd).drop_judged (by simp)),
        .goes _ d (.inr rfl) hdocument hgoes fun _ => hwaiting, by omega⟩
  | done x mem uri task hjudged =>
    refine hnothing ?_ ((h.stands i d hd).drop_judged hjudged) (.inl hjudged)
    simp only [take, resume, stage?_of_task task]

/-- A validation is told of the outcome in a turn of its own. -/
theorem Round.relay (h : b.Round (some (.relay t)) judged l) :
    b.Round none judged (l.take (.relay t)) ∧
      b.Moves (.relay t) judged judged l (l.take (.relay t)) ∧
      b.effort (l.take (.relay t)) < b.effort l + 7 := by
  obtain ⟨i, d, rfl, hd⟩ := exists_child (h.due _ (.inr rfl))
  have hdue : b.Due (.wake (b.child i)) := .inl (child_mem hd)
  have hwakes := h.enqueue hdue rfl
  refine ⟨hwakes.drop_mine rfl hd ?_, .relays _ rfl rfl rfl rfl rfl rfl, ?_⟩
  · cases hwakes.stands i d hd with
    | ready task turn unjudged => exact .ready task (.inl (turn.queue (by simp))) unjudged
    | waits v task validates unsettled waiting unjudged =>
      exact .waits v task validates unsettled waiting unjudged
    | goesOn v task validates settled turn unjudged =>
      refine .goesOn v task validates settled (.inr (.inl ?_)) unjudged
      simp [Loop.enqueue]
    | done x mem uri task hjudged => exact .done x mem uri task hjudged
  · rw [show l.take (.relay (b.child i)) = l.enqueue (.wake (b.child i)) from rfl, effort_enqueue]
    simp [turnEffort, b.child_ne_parent i]

/-! ### Turns of the attempt -/

/-- An attempt that has executed its module comes back. -/
theorem Round.rest (h : b.Round (some (.rest b.attempt)) judged l) :
    b.Round none judged (l.take (.rest b.attempt)) ∧
      b.Moves (.rest b.attempt) judged judged l (l.take (.rest b.attempt)) ∧
      b.effort (l.take (.rest b.attempt)) < b.effort l + 2 := by
  have hdue : b.Due (.attempt b.attempt) := rfl
  have hcomes := h.enqueue hdue rfl
  refine ⟨hcomes.drop ?_ (by simp [Turn.task?]) (by simp [Turn.isReport]),
    .works (.inl rfl) rfl [.attempt b.attempt] rfl (by simp [Turn.task?, Turn.isReport]) rfl rfl
      fun _ => rfl, ?_⟩
  · cases hcomes.attempt with
    | unasked new same nobody skipped => exact .unasked new same nobody skipped
    | begun n same phase turn skipped =>
      refine .begun n same phase (.inl (.inl ?_)) skipped
      simp [Loop.enqueue]
    | settled resolver host => exact .settled resolver host
  · rw [show l.take (.rest b.attempt) = l.enqueue (.attempt b.attempt) from rfl, effort_enqueue]
    simp [turnEffort]

/-- The attempt settles, and who waits for it is told. -/
theorem Round.settle (h : b.Round hand judged l) {r : Resolver} {host : Host}
    (resolver : r = b.resolved.resolver) (machine : (b.tally judged).2.Alike host) :
    b.Round hand judged
      (({ l with session.resolver := r, host := host } : Loop).release b.attempt) := by
  have ho : r.outcome? b.attempt = some b.outcome := resolver ▸ b.settles
  rw [release_of_settled (l := { l with session.resolver := r, host := host }) ho]
  have hrelays : ∀ y ∈ (l.waiting.filter fun p => p.1 == b.attempt).map fun p => Turn.relay p.2,
      b.Due y := by
    intro y hy
    obtain ⟨p, hp, rfl⟩ := List.mem_map.mp hy
    exact (h.waiting p (List.mem_filter.mp hp).1).2
  exact {
    due := h.due_append hrelays (fun _ hy => hy) rfl
    waiting := fun p hp => h.waiting p (List.mem_filter.mp hp).1
    listeners := h.listeners
    workspace := h.workspace
    settings := h.settings
    events := h.events
    fixes := h.fixes
    calls := h.calls
    asks := h.asks
    once := h.once
    known := h.known
    attempt := .settled resolver machine
    stands := by
      intro j d hj
      cases h.stands j d hj with
      | ready task turn unjudged => exact .ready task (expects_append turn) unjudged
      | waits v task validates unsettled waiting unjudged =>
        refine .goesOn v task
          ⟨validates.document, validates.path, validates.root, validates.current⟩ (by simp [ho])
          (.inl (.inl ?_)) unjudged
        refine List.mem_append_right _ (List.mem_map.mpr ⟨_, List.mem_filter.mpr ⟨waiting, ?_⟩, rfl⟩)
        simp
      | goesOn v task validates settled turn unjudged =>
        exact .goesOn v task
          ⟨validates.document, validates.path, validates.root, validates.current⟩ (by simp [ho])
          (turn.imp expects_append expects_append) unjudged
      | done x mem uri task hjudged => exact .done x mem uri task hjudged
    gathering := by
      refine h.gathering.keep rfl (outstanding_append l hand _ ?_) (fun _ _ => expects_append)
        (fun _ _ => .inl) fun _ hx => hx
      rw [List.countP_eq_zero]
      intro y hy
      obtain ⟨p, -, rfl⟩ := List.mem_map.mp hy
      simp [Turn.reportsTo] }

/-- When the attempt has settled all that wait for it are told. -/
theorem Round.releases (h : b.Round hand judged l) {r : Resolver} {host : Host} {o : Outcome}
    (ho : r.outcome? b.attempt = some o) : b.Moves (.attempt b.attempt) judged judged l
      (({ l with session.resolver := r, host := host } : Loop).release b.attempt) := by
  have hall : l.waiting.filter (fun p => p.1 == b.attempt) = l.waiting :=
    List.filter_eq_self.mpr fun p hp => by simp [(h.waiting p hp).1]
  have hnone : l.waiting.filter (fun p => p.1 != b.attempt) = [] :=
    List.filter_eq_nil_iff.mpr fun p hp => by simp [(h.waiting p hp).1]
  rw [release_of_settled (l := { l with session.resolver := r, host := host }) ho]
  refine .releases rfl rfl ?_ ?_ (by simp [ho]) rfl
  · simp only [hall]
  · simp only [hnone]

/-- Whoever is told of the outcome no longer waits. -/
theorem effort_release {k : Nat} {o : Outcome} (ho : l.session.resolver.outcome? k = some o) :
    b.effort (l.release k) ≤ b.effort l := by
  have hsum := b.sum_turnEffort (f := fun p : Nat × Nat => Turn.relay p.2) fun _ => rfl
  have hmoved : l.waiting.length = (l.waiting.filter fun p => p.1 == k).length +
      (l.waiting.filter fun p => p.1 != k).length := List.length_eq_length_filter_add _
  rw [release_of_settled ho]
  simp only [effort, List.map_append, List.sum_append, hsum]
  omega

/-- The attempt executes its module. -/
theorem Round.executes (h : b.Round hand judged l) {n : Nat} {r : Resolver} {host : Host}
    (same : (b.course n).Alike ⟨r, host⟩) {origin : String} {result : Except Fault Nat}
    (phase : r.phase? b.attempt = some (.executed origin result))
    (unsettled : l.session.resolver.outcome? b.attempt = none)
    (turn : l.Expects hand (.attempt b.attempt)) (skipped : ∀ d ∈ judged, ¬ d.IsFile) :
    b.Round hand judged { l with session.resolver := r, host := host } where
  due := h.due
  waiting := h.waiting
  listeners := h.listeners
  workspace := h.workspace
  settings := h.settings
  events := h.events
  fixes := h.fixes
  calls := h.calls.trans (.of_eq rfl rfl)
  asks := h.asks
  once := h.once
  known := h.known
  attempt := .begun n same (.inr ⟨origin, result, phase⟩) (.inl turn) skipped
  stands j d hj := by
    have hnone : r.outcome? b.attempt = none := by simp only [Resolver.outcome?, phase]
    exact (h.stands j d hj).keep rfl (fun _ _ hexpects => hexpects) (fun hw => hw)
      (hnone.trans unsettled.symm) (fun _ hn => hn) (fun _ hx => hx) .rfl
  gathering := h.gathering.keep rfl rfl (fun _ _ hexpects => hexpects) (fun _ _ => .inl)
    fun _ hx => hx

/-- A turn of the attempt is done with once the attempt has settled. -/
theorem Round.drop_settled (h : b.Round (some (.attempt b.attempt)) judged l)
    (settled : l.session.resolver.outcome? b.attempt ≠ none) : b.Round none judged l := by
  refine h.drop ?_ (by simp [Turn.task?]) (by simp [Turn.isReport])
  obtain hnone | ⟨-, hresolver, hhost⟩ := h.attempt.cases_outcome
  · exact absurd hnone settled
  · exact .settled hresolver hhost

/-- In the step in which the attempt settles, who waits for it is told. -/
theorem Round.settles (h : b.Round (some (.attempt b.attempt)) judged l) {n : Nat} {r : Resolver}
    {host : Host} (same : (b.course n).Alike ⟨r, host⟩) {o : Outcome}
    (ho : r.outcome? b.attempt = some o) (skipped : ∀ d ∈ judged, ¬ d.IsFile) {l' : Loop}
    (hl' : ({ l with session.resolver := r, host := host } : Loop).release b.attempt = l') :
    b.Round none judged l' ∧ b.Moves (.attempt b.attempt) judged judged l l' ∧
      b.effort l' < b.effort l + 1 := by
  have hresolver : r = (b.course n).resolver := same.resolver
  have hend : b.course n = b.resolved := b.course_of_settled (hresolver ▸ ho)
  have hresolved : r = b.resolved.resolver := by rw [hresolver, hend]
  have hhost : (b.tally judged).2.Alike host := by
    rw [b.tally_of_skipped skipped, ← hend]
    exact same.host
  have hround := h.settle hresolved hhost
  have hmoves : b.Moves (.attempt b.attempt) judged judged l (Loop.release
      { l with session.resolver := r, host := host } b.attempt) := h.releases ho
  have hsettled : l'.session.resolver.outcome? b.attempt ≠ none := by
    rw [← hl', release_of_settled (l := { l with session.resolver := r, host := host }) ho]
    simp [ho]
  have hreleased := effort_release (b := b)
    (l := { l with session.resolver := r, host := host }) ho
  have hphase := (Resolver.outcome?_eq_some _ _).mp ho
  have hless : b.effort { l with session.resolver := r, host := host } ≤ b.effort l := by
    simp only [effort, hphase, attemptEffort, Phase.remaining]
    omega
  rw [hl'] at hround hreleased hmoves
  exact ⟨hround.drop_settled hsettled, hmoves, by omega⟩

/-- A file that the attempt finds is executed in the same turn, and the attempt has another one. -/
theorem Round.findsAndExecutes (h : b.Round (some (.attempt b.attempt)) judged l) {n : Nat}
    (same : (b.course n).Alike (l.stepAttempt b.attempt).resolution)
    (begun : l.session.resolver.phase? b.attempt = some .begun) {f : LintModule.Found}
    {origin : String}
    (found : (l.stepAttempt b.attempt).session.resolver.phase? b.attempt = some (.found f origin))
    (skipped : ∀ d ∈ judged, ¬ d.IsFile) :
    b.Round none judged (l.take (.attempt b.attempt)) ∧
      b.Moves (.attempt b.attempt) judged judged l (l.take (.attempt b.attempt)) ∧
      b.effort (l.take (.attempt b.attempt)) < b.effort l + 1 := by
  have hsecond : (b.course (n + 1)).Alike
      ((l.stepAttempt b.attempt).stepAttempt b.attempt).resolution := by
    rw [course_succ]
    exact same.step b.attempt
  obtain ⟨p, hp, hnext⟩ := (l.stepAttempt b.attempt).session.resolver.step_next
    (l.stepAttempt b.attempt).host b.attempt found
  cases hnext with
  | executes _ _ result =>
    have htake : l.take (.attempt b.attempt) =
        ((l.stepAttempt b.attempt).stepAttempt b.attempt).enqueue (.rest b.attempt) := by
      have hfound : (l.stepAttempt b.attempt).hasFound b.attempt = true := by
        simp only [hasFound, found]
      simp only [take, runAttempt, begun, hfound, if_true]
    have hunsettled : l.session.resolver.outcome? b.attempt = none := by
      simp only [Resolver.outcome?, begun]
    have hdue : b.Due (.rest b.attempt) := rfl
    have hround := (h.executes hsecond hp hunsettled (.inr rfl) skipped).enqueue hdue rfl
    rw [htake]
    refine ⟨hround.drop ?_ (by simp [Turn.task?]) (by simp [Turn.isReport]),
      .works (.inl rfl) rfl [.rest b.attempt] rfl (by simp [Turn.task?, Turn.isReport]) rfl ?_
        fun _ => rfl, ?_⟩
    · exact .begun (n + 1) hsecond (.inr ⟨_, _, hp⟩) (.inr (.inl (by simp [Loop.enqueue]))) skipped
    · refine Eq.trans ?_ hunsettled.symm
      simp only [Resolver.outcome?]
      rw [show ((l.stepAttempt b.attempt).stepAttempt b.attempt |>.enqueue
        (.rest b.attempt)).session.resolver.phase? b.attempt = _ from hp]
    · rw [effort_enqueue]
      simp only [effort, stepAttempt] at hp ⊢
      simp only [hp, begun, attemptEffort, Phase.remaining, turnEffort]
      omega

/-- The attempt takes its steps. -/
theorem Round.attempts (h : b.Round (some (.attempt b.attempt)) judged l) :
    b.Round none judged (l.take (.attempt b.attempt)) ∧
      b.Moves (.attempt b.attempt) judged judged l (l.take (.attempt b.attempt)) ∧
      b.effort (l.take (.attempt b.attempt)) < b.effort l + 1 := by
  cases h.attempt with
  | unasked new same nobody skipped =>
    have hnone := phase?_of_unasked new same
    have hattempt : l.session.resolver.attempts[b.attempt]? = none := Option.map_eq_none_iff.mp hnone
    have htake : l.take (.attempt b.attempt) = l := by
      simp only [take, runAttempt, hnone, stepAttempt, Resolver.step, hattempt, release,
        Resolver.outcome?]
    rw [htake]
    exact ⟨h.drop (.unasked new same nobody skipped) (by simp [Turn.task?])
        (by simp [Turn.isReport]),
      .works (.inl rfl) rfl [] (List.append_nil _).symm (by simp) rfl rfl fun _ => rfl, by omega⟩
  | begun n same phase turn skipped =>
    have hfirst : (b.course (n + 1)).Alike (l.stepAttempt b.attempt).resolution := by
      rw [course_succ]
      exact same.step b.attempt
    obtain hphase | ⟨origin, result, hphase⟩ := phase
    · obtain ⟨p, hp, hnext⟩ := l.session.resolver.step_next l.host b.attempt hphase
      cases hnext with
      | finds f origin => exact h.findsAndExecutes hfirst hphase hp skipped
      | gives o =>
        refine h.settles hfirst ((Resolver.outcome?_eq_some _ _).mpr hp) skipped ?_
        have hfound : (l.stepAttempt b.attempt).hasFound b.attempt = false := by
          simp only [hasFound, stepAttempt, hp]
        simp only [take, runAttempt, hphase, hfound]
        rfl
    · obtain ⟨p, hp, hnext⟩ := l.session.resolver.step_next l.host b.attempt hphase
      cases hnext with
      | settles _ _ o =>
        refine h.settles hfirst ((Resolver.outcome?_eq_some _ _).mpr hp) skipped ?_
        simp only [take, runAttempt, hphase]
        rfl
  | settled resolver host =>
    have ho : l.session.resolver.outcome? b.attempt = some b.outcome := resolver ▸ b.settles
    have hphase := (Resolver.outcome?_eq_some _ _).mp ho
    obtain ⟨a, ha, hp⟩ := Option.map_eq_some_iff.mp hphase
    have htake : l.take (.attempt b.attempt) = l.release b.attempt := by
      simp only [take, runAttempt, hphase, stepAttempt, Resolver.step, ha, hp]
    have hround : b.Round (some (.attempt b.attempt)) judged (l.release b.attempt) :=
      h.settle resolver host
    have hreleased := effort_release (b := b) ho
    have hmoves : b.Moves (.attempt b.attempt) judged judged l (l.release b.attempt) :=
      h.releases ho
    rw [htake]
    refine ⟨hround.drop_settled ?_, hmoves, by omega⟩
    rw [release_of_settled ho]
    simp [ho]

/-! ### Reports -/

/-- A task has come to the verdict on its document, or to no result yet. -/
theorem Stands.result_cases (h : b.Stands hand judged l t d) :
    l.result? t = none ∧ d ∉ judged ∨ ∃ x ∈ (b.tally judged).1, x.uri = d.uri ∧
      d ∈ judged ∧ l.result? t = some x.ended := by
  cases h with
  | ready task turn unjudged => exact .inl ⟨by simp only [result?, stage?_of_task task], unjudged⟩
  | waits v task validates unsettled waiting unjudged =>
    exact .inl ⟨by simp only [result?, stage?_of_task task], unjudged⟩
  | goesOn v task validates settled turn unjudged =>
    exact .inl ⟨by simp only [result?, stage?_of_task task], unjudged⟩
  | done x mem uri task hjudged =>
    exact .inr ⟨x, mem, uri, hjudged, by simp only [result?, stage?_of_task task]⟩

/-- The batch takes in a report, after which it may have a turn of its own. -/
theorem Round.gathers (h : b.Round (some (.report b.parent t)) judged l) {s' : Stage}
    {turns : List Turn}
    (hturns : ∀ y ∈ turns, y = .wake b.parent)
    (gathering : b.Gathering none judged
      { l.setStage b.parent s' with queue := l.queue ++ turns }) :
    b.Round none judged { l.setStage b.parent s' with queue := l.queue ++ turns } where
  due := h.due_append (fun y hy => hturns y hy ▸ .inr rfl) (by simp) rfl
  waiting := h.waiting
  listeners t task ht hl := h.listens ht hl
  workspace := h.workspace
  settings := h.settings
  events := h.events
  fixes := h.fixes
  calls := h.calls.trans (silent_setStage l _ _).calls
  asks := h.asks
  once := h.once
  known := h.known
  attempt := by
    cases h.attempt.drop rfl with
    | unasked new same nobody skipped => exact .unasked new same nobody skipped
    | begun n same phase turn skipped =>
      exact .begun n same phase (turn.imp expects_append expects_append) skipped
    | settled resolver host => exact .settled resolver host
  stands j d hj := by
    refine (h.stands j d hj).keep (task?_setStage_of_ne (b.child_ne_parent j).symm _) ?_
      (fun hw => hw) rfl (fun _ hn => hn) (fun _ hx => hx) .rfl
    intro y hy he
    refine .inl (List.mem_append_left _ (he.queue ?_))
    rintro rfl
    simp [Turn.task?] at hy
  gathering := gathering

/-- A report on a fault ends the waiting. -/
theorem Round.hears (h : b.Round (some (.report b.parent t)) judged l) {e : Fault}
    (raised : ∃ x ∈ (b.tally judged).1, x.result = .error e) {job : Job} {s : Stage}
    (task : l.tasks[b.parent]? = some ⟨job, .nobody, s⟩) :
    b.Round none judged { l.setStage b.parent (.gathered b.children (some e)) with
      queue := l.queue ++ [.wake b.parent] } :=
  h.gathers (by simp) (.failed job e (task?_setStage_self task _) (.inl (by simp)) raised)

/-- A report on a result is counted. -/
theorem Round.counts (h : b.Round (some (.report b.parent t)) judged l) {job : Job} {missing : Nat}
    (task : l.tasks[b.parent]? = some ⟨job, .nobody, .gathering b.children missing⟩)
    (count : l.pending b.parent + 1 = missing) (unheard : b.Unheard (some (.report b.parent t)) l)
    (hresult : ∀ e, l.result? t ≠ some (.raised e)) :
    b.Round none judged (l.take (.report b.parent t)) ∧
      b.Moves (.report b.parent t) judged judged l (l.take (.report b.parent t)) ∧
      b.effort (l.take (.report b.parent t)) < b.effort l + 5 := by
  have htake : l.take (.report b.parent t) =
      if missing ≤ 1 then
        { l.setStage b.parent (.gathered b.children none) with
          queue := l.queue ++ [.wake b.parent] }
      else { l.setStage b.parent (.gathering b.children (missing - 1)) with
          queue := l.queue ++ [] } := by
    rw [List.append_nil]
    exact takeReport_eq (stage?_of_task task) hresult
  have hpending : ∀ s : Stage, s.isDone = false → ∀ turns : List Turn,
      turns.countP (Turn.reportsTo b.parent) = 0 →
      outstanding { l.setStage b.parent s with queue := l.queue ++ turns } none b.parent =
        l.pending b.parent := by
    intro s hs turns hturns
    rw [← pending_setStage task hs b.parent]
    simp [outstanding, pending, setStage, hturns]
  have hunheard : ∀ s : Stage, s.isDone = false → ∀ turns : List Turn,
      b.Unheard none { l.setStage b.parent s with queue := l.queue ++ turns } := by
    intro s hs turns c hc e he
    have hraised := raised_of_setStage hs he
    refine .inl (List.mem_append_left _ ((unheard c hc e hraised).queue ?_))
    rintro ⟨⟩
    exact hresult e hraised
  rw [htake]
  split
  · refine ⟨h.gathers (by simp) ?_,
      .works (.inl rfl) rfl _ rfl (by simp) rfl rfl (by simp [Turn.isReport]), ?_⟩
    · refine .complete job (task?_setStage_self task _) ?_ (.inl (by simp)) (hunheard _ rfl _)
      rw [hpending _ rfl _ rfl]
      omega
    · simp only [effort, setStage, List.map_append, List.sum_append, List.map_cons, List.map_nil,
        turnEffort, if_true, List.sum_cons, List.sum_nil]
      omega
  · refine ⟨h.gathers (by simp) ?_,
      .works (.inl rfl) rfl _ rfl (by simp) rfl rfl (by simp [Turn.isReport]), ?_⟩
    · refine .counts job (missing - 1) (task?_setStage_self task _) ?_ (by omega) (hunheard _ rfl _)
      rw [hpending _ rfl _ rfl]
      omega
    · simp only [effort, setStage, List.append_nil]
      omega

/-- The batch takes in a report. -/
theorem Round.reports (h : b.Round (some (.report b.parent t)) judged l) :
    b.Round none judged (l.take (.report b.parent t)) ∧
      b.Moves (.report b.parent t) judged judged l (l.take (.report b.parent t)) ∧
      b.effort (l.take (.report b.parent t)) < b.effort l + 5 := by
  cases h.gathering with
  | complete job task count turn unheard => simp [outstanding, Turn.reportsTo] at count
  | failed job e task turn raised =>
    have htake : l.take (.report b.parent t) = l := by
      simp only [take, takeReport, stage?_of_task task]
    rw [htake]
    refine ⟨h.drop (h.attempt.drop rfl) (by simp [Turn.task?]) fun _ => ?_,
      .works (.inl rfl) rfl [] (List.append_nil _).symm (by simp) rfl rfl fun _ => rfl, by omega⟩
    exact .failed job e task (.inl (turn.queue (by simp))) raised
  | counts job missing task count positive unheard =>
    have hcount : l.pending b.parent + 1 = missing := by
      simpa [outstanding, Turn.reportsTo] using count
    by_cases hresult : ∀ e, l.result? t ≠ some (.raised e)
    · exact h.counts task hcount unheard hresult
    · obtain ⟨e, he⟩ : ∃ e, l.result? t = some (.raised e) := by simpa using hresult
      obtain ⟨i, d, rfl, hd⟩ := exists_child (h.due _ (.inr rfl)).2
      obtain ⟨hnone, -⟩ | ⟨x, hx, -, -, hr⟩ := (h.stands i d hd).result_cases
      · simp [hnone] at he
      · have hx' : x.result = .error e :=
          Verdict.ended_eq_raised.mp (Option.some.inj (hr.symm.trans he))
        have htake : l.take (.report b.parent (b.child i)) =
            { l.setStage b.parent (.gathered b.children (some e)) with
              queue := l.queue ++ [.wake b.parent] } := by
          simp only [take, takeReport, stage?_of_task task, he]
          rfl
        rw [htake]
        refine ⟨h.hears ⟨x, hx, hx'⟩ task,
          .works (.inl rfl) rfl _ rfl (by simp) rfl rfl (by simp [Turn.isReport]), ?_⟩
        simp only [effort, setStage, List.map_append, List.sum_append, List.map_cons,
          List.map_nil, turnEffort, if_true, List.sum_cons, List.sum_nil]
        omega

end Batch

end LintBridge
