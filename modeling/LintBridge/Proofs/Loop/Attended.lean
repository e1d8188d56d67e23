import LintBridge.Proofs.Loop.Telling
import LintBridge.Proofs.Loop.Work

/-! Nothing waits in vain. An attempt that has not settled has a turn, a task has a turn or waits
for an attempt or for validations that have not all reported, and what a validation or a batch has
come to fits the documents. With this goes a number of turns that is enough for all that is left to
do: whoever begins, waits or ends pays for the turns that it asks for out of what its old place was
worth. -/

namespace LintBridge

/-- Is the URI of a document accepted, whether or not it is that of a file? -/
def Document.IsAccepted (d : Document) : Prop :=
  ∃ path, Uri.toPath? d.uri = .ok path

/-- Can the validation of a document end with this fault? Its URI is refused with it, or what went
wrong while linting has no text. -/
def Document.Raises (d : Document) (e : Fault) : Prop :=
  Uri.toPath? d.uri = .error e ∨ d.IsAccepted ∧ ∃ flaw, e = .unshown flaw

namespace Loop

/-! ### Notices -/

/-- If a batch cannot put its notices into words, then that is so for one of its results. -/
theorem notices_error {s : Session} {rs : List ValidationResult} {e : Fault}
    (h : notices s rs = .error e) : ∃ r ∈ rs, s.notice r = .error e := by
  induction rs with
  | nil => cases h
  | cons r rs ih =>
    cases hr : s.notice r with
    | error e' =>
      have he : notices s (r :: rs) = .error e' := by
        simp [notices, hr, bind, Except.bind, Except.map]
      obtain rfl := Except.error.inj (he.symm.trans h)
      exact ⟨r, List.mem_cons_self, hr⟩
    | ok n =>
      have hrest : notices s rs = .error e := by
        simp only [notices, List.mapM_cons, hr, bind, Except.bind, pure, Except.pure] at h ⊢
        cases hns : rs.mapM s.notice with
        | error e' => simpa [hns, Except.map] using h
        | ok ns => simp [hns, Except.map] at h
      obtain ⟨r', hr', he⟩ := ih hrest
      exact ⟨r', List.mem_cons_of_mem _ hr', he⟩

/-- A batch has one notice for a result at most. -/
theorem length_le_of_notices {s : Session} {rs : List ValidationResult}
    {told : List (Nat × String × Bool)} (h : notices s rs = .ok told) :
    told.length ≤ rs.length := by
  cases hrs : rs.mapM s.notice with
  | error e => simp [notices, hrs, Except.map] at h
  | ok ns =>
    simp only [notices, hrs, Except.map, Except.ok.injEq] at h
    rw [← h, (mapM_eq_ok_iff.mp hrs).length_eq]
    exact List.length_filterMap_le _ _

theorem length_insert_le (message : String) (retry : Json) (ms : List (String × Json)) :
    (ErrorBatch.insert message retry ms).length ≤ ms.length + 1 := by
  induction ms with
  | nil => exact Nat.le_refl 1
  | cons m ms ih =>
    simp only [ErrorBatch.insert]
    split <;> simp only [List.length_cons] <;> omega

/-- A batch tells no more than it has notices of. -/
theorem length_announcements_le (told : List (Nat × String × Bool)) (b : ErrorBatch) :
    (told.foldl (fun b n => b.add n.2.1 (.bool n.2.2)) b).announcements.length ≤
      b.announcements.length + told.length := by
  induction told generalizing b with
  | nil => exact Nat.le_refl _
  | cons n told ih =>
    have hrest := ih (b.add n.2.1 (.bool n.2.2))
    have hone := length_insert_le n.2.1 (.bool n.2.2) b.messages
    simp only [List.foldl_cons, List.length_cons, ErrorBatch.announcements, ErrorBatch.add]
      at hrest ⊢
    omega

/-! ### What a task waits for, and what it has come to -/

/-- These tasks, which were added after the task `t`, validate these documents for it, in order. -/
def Validates (l : Loop) (t : Nat) (children : List Nat) (documents : List Document) : Prop :=
  List.Forall₂ (fun c d => t < c ∧ ∃ s, l.tasks[c]? = some ⟨.validate d, .task t, s⟩) children
    documents

/-- What a task needs to go on from where it stands is there: a turn, or an attempt that it waits
for, or validations that have not reported. Only the tasks `cs` may have been cancelled; who asks a
question waits for the user. -/
def Due (cs : Nat → Prop) (l : Loop) (t : Nat) : Stage → Prop
  | .ready => .start t ∈ l.queue
  | .resolving id _ => (id, t) ∈ l.waiting ∨
      l.session.resolver.outcome? id ≠ none ∧ (.relay t ∈ l.queue ∨ .wake t ∈ l.queue)
  | .gathering _ missing => 0 < missing ∧ missing ≤ l.pending t
  | .gathered _ _ => .wake t ∈ l.queue
  | .answered _ => .relay t ∈ l.queue ∨ .wake t ∈ l.queue
  | .leaving => cs t ∧ .wake t ∈ l.queue
  | .cancelled => cs t
  | .asking _ | .done _ => True

/-- Where a task stands fits the documents of its job: a validation waits with its own document and
ends with a result about it, if the URI is accepted, or with one of the two faults that there can
be; a batch waits for the validations of its documents and ends with a result about each, or with a
fault of one. -/
def Faithful (l : Loop) (t : Nat) : Job → Stage → Prop
  | .validate d, .resolving _ k => d.IsAccepted ∧ ∃ v, k = .conclude v false ∧ v.document = d
  | .validate d, .done (.validation r) => d.IsAccepted ∧ r.uri = d.uri
  | .validate d, .done (.raised e) => d.Raises e
  | .validateMany (some ds), .gathering children _ => l.Validates t children ds
  | .validateMany (some ds), .gathered children fault? => l.Validates t children ds ∧
      ∀ e, fault? = some e → ∃ c ∈ children, l.result? c = some (.raised e)
  | .validateMany (some ds), .done (.validations rs) => (∀ d ∈ ds, d.IsAccepted) ∧
      rs.map ValidationResult.uri = ds.map Document.uri
  | .validateMany (some ds), .done (.raised e) => ∃ d ∈ ds, d.Raises e
  | _, _ => True

/-- Everything that waits is attended to, but for the task in hand, of which nothing is said; what
tasks have come to fits their documents; and `n` turns are enough for all that is left to do. -/
structure Attended (cs : Nat → Prop) (hand : Option Nat) (n : Nat) (l : Loop) : Prop where
  unsettled : ∀ id p, l.session.resolver.phase? id = some p → (∃ o, p = .settled o) ∨
    (∀ f origin, p ≠ .found f origin) ∧ (.attempt id ∈ l.queue ∨ .rest id ∈ l.queue)
  known : ∀ id, .attempt id ∈ l.queue ∨ .rest id ∈ l.queue ∨
    (∃ key, (key, id) ∈ l.session.resolver.memo) → l.session.resolver.phase? id ≠ none
  waiting : ∀ id t, (id, t) ∈ l.waiting →
    l.session.resolver.phase? id ≠ none ∧ l.session.resolver.outcome? id = none
  children : ∀ task ∈ l.tasks, task.stage.children.length ≤ l.tasks.length
  due : ∀ t s, hand ≠ some t → l.stage? t = some s → l.Due cs t s
  faithful : ∀ (t : Nat) (task : Task), l.tasks[t]? = some task →
    l.Faithful t task.job task.stage
  work : l.work ≤ n

variable {cs : Nat → Prop} {hand : Option Nat} {l l' l'' : Loop} {t j k n n' : Nat} {task : Task}
  {s : Stage}

theorem Attended.le (h : Attended cs hand n l) (hn : n ≤ n') : Attended cs hand n' l :=
  { h with work := Nat.le_trans h.work hn }

/-- Nothing needs to be said of a task for which all is there. -/
theorem Attended.settleHand (h : Attended cs (some t) n l)
    (hdue : ∀ s, l.stage? t = some s → l.Due cs t s) : Attended cs hand n l where
  unsettled := h.unsettled
  known := h.known
  waiting := h.waiting
  children := h.children
  due t' s _ hs := by
    by_cases ht : t = t'
    · subst ht
      exact hdue s hs
    · exact h.due t' s (fun he => ht (Option.some.inj he)) hs
  faithful := h.faithful
  work := h.work

theorem validates_mono {children : List Nat} {ds : List Document}
    (h : l.Validates t children ds)
    (hkeep : ∀ (c : Nat) (d : Document) (s : Stage), l.tasks[c]? = some ⟨.validate d, .task t, s⟩ →
      ∃ s', l'.tasks[c]? = some ⟨.validate d, .task t, s'⟩) : l'.Validates t children ds :=
  List.Forall₂.imp (fun c d hcd => ⟨hcd.1, hcd.2.elim fun s hs => hkeep c d s hs⟩) h

theorem faithful_mono {job : Job} (h : l.Faithful t job s)
    (hkeep : ∀ (c : Nat) (d : Document) (s : Stage), l.tasks[c]? = some ⟨.validate d, .task t, s⟩ →
      ∃ s', l'.tasks[c]? = some ⟨.validate d, .task t, s'⟩)
    (hresult : ∀ c e, l.result? c = some (.raised e) → l'.result? c = some (.raised e)) :
    l'.Faithful t job s := by
  cases job with
  | validate d =>
    cases s with
    | done r => cases r <;> exact h
    | _ => exact h
  | validateMany documents =>
    cases documents with
    | none => cases s <;> trivial
    | some ds =>
      cases s with
      | gathering children missing => exact validates_mono h hkeep
      | gathered children fault? =>
        refine ⟨validates_mono h.1 hkeep, fun e he => ?_⟩
        obtain ⟨c, hc, hr⟩ := h.2 e he
        exact ⟨c, hc, hresult c e hr⟩
      | done r => cases r <;> exact h
      | _ => trivial
  | _ => cases s <;> trivial

/-- What a task needs to go on is there after a change that leaves it, or passes it on: who waits
may get a turn, and who has a turn to be told of an outcome may get the turn to go on. -/
theorem due_mono (hstart : s = .ready → .start t ∈ l.queue → .start t ∈ l'.queue)
    (hrelay : .relay t ∈ l.queue → .relay t ∈ l'.queue ∨ .wake t ∈ l'.queue)
    (hwake : .wake t ∈ l.queue → .wake t ∈ l'.queue)
    (hwaiting : ∀ id, (id, t) ∈ l.waiting → (id, t) ∈ l'.waiting ∨
      l'.session.resolver.outcome? id ≠ none ∧ .relay t ∈ l'.queue)
    (houtcome : ∀ id, l.session.resolver.outcome? id ≠ none →
      l'.session.resolver.outcome? id ≠ none)
    (hpending : ∀ children missing, s = .gathering children missing → l.pending t ≤ l'.pending t)
    (hd : l.Due cs t s) : l'.Due cs t s := by
  have hturn : .relay t ∈ l.queue ∨ .wake t ∈ l.queue → .relay t ∈ l'.queue ∨ .wake t ∈ l'.queue :=
    fun h => h.elim hrelay fun hm => .inr (hwake hm)
  cases s with
  | ready => exact hstart rfl hd
  | resolving id k =>
    obtain hw | ⟨ho, hm⟩ := hd
    · exact (hwaiting id hw).imp_right fun h => ⟨h.1, .inl h.2⟩
    · exact .inr ⟨houtcome id ho, hturn hm⟩
  | gathering children missing => exact ⟨hd.1, Nat.le_trans hd.2 (hpending _ _ rfl)⟩
  | gathered children fault? => exact hwake hd
  | answered again => exact hturn hd
  | leaving => exact ⟨hd.1, hwake hd.2⟩
  | cancelled => exact hd
  | asking request => trivial
  | done r => trivial

/-! ### Steady changes -/

/-- A change that asks for `k` turns' worth at most, none of an attempt, adds no tasks but such as
wait to begin, and leaves alone where tasks and attempts stand. -/
structure Steady (k : Nat) (l l' : Loop) : Prop where
  idle : Idle l l'
  starts : ∀ t, l.tasks.length ≤ t → t < l'.tasks.length → .start t ∈ l'.queue
  queue : ∃ new, l'.queue = l.queue ++ new ∧ ∀ turn ∈ new, ∀ id,
    turn ≠ .attempt id ∧ turn ≠ .rest id
  waiting : l'.waiting = l.waiting
  documents : l'.documents = l.documents
  phases : l'.session.resolver.phase? = l.session.resolver.phase?
  memo : ∀ p ∈ l'.session.resolver.memo, p ∈ l.session.resolver.memo
  work : l'.work ≤ l.work + k

/-- Tasks and turns stay. -/
theorem Steady.of_eq (tasks : l'.tasks = l.tasks) (queue : l'.queue = l.queue)
    (waiting : l'.waiting = l.waiting) (documents : l'.documents = l.documents)
    (phases : l'.session.resolver.phase? = l.session.resolver.phase?)
    (memo : ∀ p ∈ l'.session.resolver.memo, p ∈ l.session.resolver.memo) : Steady 0 l l' where
  idle := .of_eq tasks queue
  starts t hge hlt := absurd (tasks ▸ hlt) (Nat.not_lt.mpr hge)
  queue := ⟨[], by rw [queue, List.append_nil], by simp⟩
  waiting := waiting
  documents := documents
  phases := phases
  memo := memo
  work := Nat.le_of_eq (work_of_eq phases queue (congrArg _ waiting) tasks documents)

theorem Steady.refl (l : Loop) : Steady 0 l l :=
  .of_eq rfl rfl rfl rfl rfl fun _ hp => hp

theorem Steady.mem_queue (h : Steady k l l') {turn : Turn} (hm : turn ∈ l.queue) :
    turn ∈ l'.queue := by
  obtain ⟨new, hnew, -⟩ := h.queue
  exact hnew ▸ List.mem_append_left _ hm

/-- Turns of attempts are those that were asked for before. -/
theorem Steady.mem_attempt (h : Steady k l l') {id : Nat} :
    (.attempt id ∈ l'.queue ∨ .rest id ∈ l'.queue) ↔
      .attempt id ∈ l.queue ∨ .rest id ∈ l.queue := by
  obtain ⟨new, hnew, hno⟩ := h.queue
  have hattempt : .attempt id ∉ new := fun hm => (hno _ hm id).1 rfl
  have hrest : .rest id ∉ new := fun hm => (hno _ hm id).2 rfl
  simp only [hnew, List.mem_append, hattempt, hrest, or_false]

theorem Steady.trans (h : Steady k l l') (h' : Steady j l' l'') : Steady (k + j) l l'' where
  idle := h.idle.trans h'.idle
  starts t hge hlt := by
    by_cases ht : t < l'.tasks.length
    · exact h'.mem_queue (h.starts t hge ht)
    · exact h'.starts t (Nat.le_of_not_lt ht) hlt
  queue := by
    obtain ⟨new, hnew, hno⟩ := h.queue
    obtain ⟨new', hnew', hno'⟩ := h'.queue
    refine ⟨new ++ new', by rw [hnew', hnew, List.append_assoc], fun turn hm => ?_⟩
    exact (List.mem_append.mp hm).elim (hno turn) (hno' turn)
  waiting := h'.waiting.trans h.waiting
  documents := h'.documents.trans h.documents
  phases := h'.phases.trans h.phases
  memo p hp := h.memo p (h'.memo p hp)
  work := by
    have := h.work
    have := h'.work
    omega

theorem outcome?_congr {r r' : Resolver} (h : r'.phase? = r.phase?) :
    r'.outcome? = r.outcome? := by
  funext id
  simp only [Resolver.outcome?, h]

theorem due_steady (h : Steady k l l') (hd : l.Due cs t s) : l'.Due cs t s :=
  due_mono (fun _ => h.mem_queue) (fun hm => .inl (h.mem_queue hm)) h.mem_queue
    (fun _ hw => .inl (h.waiting.symm ▸ hw))
    (fun _ ho => (outcome?_congr h.phases).symm ▸ ho)
    (fun _ _ _ => Nat.le_of_eq (h.idle.pending t).symm) hd

theorem Attended.steady (ha : Attended cs hand n l) (h : Steady k l l') :
    Attended cs hand (n + k) l' where
  unsettled id p hp := by
    rw [h.phases] at hp
    exact (ha.unsettled id p hp).imp_right fun ⟨hno, hturn⟩ => ⟨hno, h.mem_attempt.mpr hturn⟩
  known id hk := by
    rw [h.phases]
    refine ha.known id (or_assoc.mp ?_)
    exact (or_assoc.mpr hk).imp h.mem_attempt.mp fun ⟨key, hm⟩ => ⟨key, h.memo _ hm⟩
  waiting id t hw := by
    rw [h.phases, outcome?_congr h.phases]
    exact ha.waiting id t (h.waiting ▸ hw)
  children task hm := by
    obtain ⟨new, hnew, hready⟩ := h.idle.tasks
    rw [hnew] at hm ⊢
    rw [List.length_append]
    obtain hm | hm := List.mem_append.mp hm
    · exact Nat.le_add_right_of_le (ha.children task hm)
    · rw [(hready task hm).1]
      exact Nat.zero_le _
  due t s hhand hs := by
    obtain hold | rfl := h.idle.stage?_cases hs
    · exact due_steady h (ha.due t s hhand hold)
    · by_cases ht : t < l.tasks.length
      · have hold : l.stage? t = some .ready := by
          obtain ⟨task, htask, hstage⟩ := Option.map_eq_some_iff.mp hs
          obtain hold | ⟨hge, -⟩ := h.idle.task?_cases htask
          · rw [stage?_of_task hold, hstage]
          · omega
        exact due_steady h (ha.due t .ready hhand hold)
      · exact h.starts t (Nat.le_of_not_lt ht) (stage?_lt hs)
  faithful t task ht := by
    obtain hold | ⟨-, hready, -⟩ := h.idle.task?_cases ht
    · exact faithful_mono (ha.faithful t task hold) (fun c d s hc => ⟨s, h.idle.task? hc⟩)
        fun c e he => h.idle.result?.mpr he
    · rw [hready]
      cases task.job with
      | validateMany documents => cases documents <;> trivial
      | _ => trivial
  work := Nat.le_trans h.work (Nat.add_le_add_right ha.work k)

theorem pending_enqueue (l : Loop) (turn : Turn) (h : turn.isReport = false) (t : Nat) :
    (l.enqueue turn).pending t = l.pending t :=
  (idle_enqueue l h).pending t

theorem steady_enqueue (l : Loop) (turn : Turn) (hreport : turn.isReport = false)
    (hattempt : ∀ id, turn ≠ .attempt id ∧ turn ≠ .rest id) :
    Steady (turn.worth l.session.resolver) l (l.enqueue turn) where
  idle := idle_enqueue l hreport
  starts t hge hlt := absurd hlt (Nat.not_lt.mpr hge)
  queue := ⟨[turn], rfl, by simpa using hattempt⟩
  waiting := rfl
  documents := rfl
  phases := rfl
  memo _ hp := hp
  work := by
    have hwork := work_append l (l.enqueue turn) [turn] [] rfl rfl rfl (List.append_nil _).symm rfl
    simp only [List.map_cons, List.map_nil, List.sum_cons, List.sum_nil] at hwork
    omega

/-- Telling the editor may take the turn in which a question is asked. -/
theorem steady_tell (l : Loop) (message : String) (retry : Bool) :
    Steady 1 l (l.tell message retry) := by
  have hidle := idle_tell l message retry
  simp only [tell] at hidle ⊢
  split
  · rename_i hask
    rw [if_pos hask] at hidle
    refine ⟨hidle, fun t hge hlt => ?_, ⟨[.start l.tasks.length], rfl, by simp⟩, rfl, rfl, rfl,
      fun _ hp => hp, ?_⟩
    · simp only [spawn, addTask, enqueue, List.length_append, List.length_singleton] at hlt ⊢
      obtain rfl : t = l.tasks.length := by omega
      exact List.mem_append_right _ List.mem_cons_self
    · exact Nat.le_of_eq (work_append l _ [.start l.tasks.length]
        [⟨.question message, .nobody, .ready⟩] rfl rfl rfl rfl rfl)
  · have hemit : Steady 0 l (l.emit [.showError message retry]) :=
      .of_eq rfl rfl rfl rfl rfl fun _ hp => hp
    exact { hemit with work := Nat.le_succ_of_le hemit.work }

theorem steady_announce (l : Loop) (announcements : List (String × Json)) :
    Steady announcements.length l
      (announcements.foldl (fun l p => l.tell p.1 p.2.truthy) l) := by
  induction announcements generalizing l with
  | nil => exact .refl l
  | cons p announcements ih =>
    rw [List.length_cons, Nat.add_comm]
    exact (steady_tell l p.1 p.2.truthy).trans (ih _)

theorem steady_markOutcome (l : Loop) (o : Outcome) :
    Steady 0 l { l with session := l.session.markOutcome o } := by
  cases o <;> exact .of_eq rfl rfl rfl rfl rfl fun _ hp => hp

theorem steady_notify (l : Loop) (notice : Option (Nat × String × Bool)) :
    Steady 1 l (l.notify notice) := by
  cases notice with
  | none => exact { Steady.refl l with work := Nat.le_succ _ }
  | some p =>
    have hmark : Steady 0 l { l with session := l.session.markTold p.1 } :=
      .of_eq rfl rfl rfl rfl rfl fun _ hp => hp
    have htell := hmark.trans (steady_tell _ p.2.1 p.2.2)
    rwa [Nat.zero_add] at htell

end Loop

end LintBridge
