import LintBridge.Proofs.Batch.Ending

/-! Documents that are validated one after the other, each on its own. The first that is that of a
file waits for the attempt, if it is new, and tells the user of the outcome if it is news; all later
ones find the attempt settled and the user told. So what is shown and told is what a batch of the
same documents shows and tells. -/

namespace LintBridge

namespace Loop

variable {l : Loop} {t id : Nat} {k : Continuation} {tasks : List Nat}

/-! ### A task that waits alone -/

theorem drainToEnd_step (h : l.areOver tasks = false) {turn : Turn} {queue : List Turn}
    (hq : l.queue = turn :: queue) (fuel : Nat) : drainToEnd tasks (fuel + 1) l =
      drainToEnd tasks fuel (take { l with queue := queue } turn) := by
  simp [drainToEnd, h, hq]

theorem not_areOver_of_resolving (ht : l.stage? t = some (.resolving id k)) :
    l.areOver [t] = false := by
  simp [areOver, ht, Stage.isOver]

/-- The loop once the attempt has been worked on, and what goes on in it. -/
def worked (l : Loop) (r : Resolution) (queue : List Turn) (waiting : List (Nat × Nat)) : Loop :=
  { l with session.resolver := r.resolver, host := r.host, queue := queue, waiting := waiting }

/-- Nobody but this task has anything to do, and it is told of the outcome. -/
theorem drainToEnd_told (r : Resolution) {o : Outcome} (ht : l.stage? t = some (.resolving id k))
    (ho : r.resolver.outcome? id = some o) (fuel : Nat) :
    drainToEnd [t] (fuel + 2) (l.worked r [.relay t] []) =
      drainToEnd [t] fuel ((l.worked r [] []).proceed t k o) := by
  have hstage : ∀ queue, (l.worked r queue []).stage? t = some (.resolving id k) := fun _ => ht
  have hopen : ∀ queue, (l.worked r queue []).areOver [t] = false :=
    fun queue => not_areOver_of_resolving (hstage queue)
  have houtcome : (l.worked r [] []).session.resolver.outcome? id = some o := ho
  have hresume : take (l.worked r [] []) (.wake t) = (l.worked r [] []).proceed t k o := by
    simp only [take, resume, hstage, houtcome]
  rw [drainToEnd_step (hopen _) rfl]
  exact (drainToEnd_step (hopen [.wake t]) rfl _).trans (congrArg _ hresume)

theorem release_alone {o : Outcome} (ho : l.session.resolver.outcome? id = some o)
    (hw : l.waiting = [(id, t)]) (hq : l.queue = []) :
    l.release id = { l with waiting := [], queue := [.relay t] } := by
  rw [release_of_settled ho, hw, hq]
  simp

/-- In the step in which the attempt settles the one that waits for it is told. -/
theorem stepAttempt_alone (r : Resolution) {o : Outcome}
    (ho : (r.act (.step id)).resolver.outcome? id = some o) :
    ((l.worked r [] [(id, t)]).stepAttempt id).release id =
      l.worked (r.act (.step id)) [.relay t] [] :=
  release_alone (l := (l.worked r [] [(id, t)]).stepAttempt id) ho rfl rfl

/-- A task that waits alone for a new attempt goes on once the attempt has settled. -/
theorem drainToEnd_alone (r : Resolution) (ht : l.stage? t = some (.resolving id k))
    (hphase : r.resolver.phase? id = some .begun) (fuel : Nat) :
    ∃ n o, (r.after (List.replicate n (.step id))).resolver.outcome? id = some o ∧
      ∃ fuel', drainToEnd [t] (fuel + 5) (l.worked r [.attempt id] [(id, t)]) =
        drainToEnd [t] fuel'
          ((l.worked (r.after (List.replicate n (.step id))) [] []).proceed t k o) := by
  have hstage : ∀ r queue waiting,
      (l.worked r queue waiting).stage? t = some (.resolving id k) := fun _ _ _ => ht
  have hopen : ∀ r queue waiting, (l.worked r queue waiting).areOver [t] = false :=
    fun r queue waiting => not_areOver_of_resolving (hstage r queue waiting)
  have hbegun : (l.worked r [] [(id, t)]).session.resolver.phase? id = some .begun := hphase
  obtain ⟨p, hp, hnext⟩ := r.resolver.step_next r.host id hphase
  rw [drainToEnd_step (hopen _ _ _) rfl]
  cases hnext with
  | gives o =>
    have ho : (r.act (.step id)).resolver.outcome? id = some o :=
      (Resolver.outcome?_eq_some _ _).mpr hp
    have htake : take (l.worked r [] [(id, t)]) (.attempt id) =
        l.worked (r.act (.step id)) [.relay t] [] := by
      have hfound : ((l.worked r [] [(id, t)]).stepAttempt id).hasFound id = false := by
        simp only [hasFound, stepAttempt, worked, hp]
      simp only [take, runAttempt, hbegun, hfound, Bool.false_eq_true, if_false]
      exact stepAttempt_alone r ho
    refine ⟨1, o, ho, fuel + 2, ?_⟩
    exact (congrArg _ htake).trans (drainToEnd_told _ ht ho _)
  | finds f origin =>
    have hp₁ : (r.act (.step id)).resolver.phase? id = some (.found f origin) := hp
    obtain ⟨p', hp', hnext'⟩ :=
      (r.act (.step id)).resolver.step_next (r.act (.step id)).host id hp₁
    cases hnext' with
    | executes _ _ result =>
      have hp₂ : ((r.act (.step id)).act (.step id)).resolver.phase? id =
          some (.executed origin result) := hp'
      obtain ⟨p'', hp'', hnext''⟩ := ((r.act (.step id)).act (.step id)).resolver.step_next
        ((r.act (.step id)).act (.step id)).host id hp₂
      cases hnext'' with
      | settles _ _ o =>
        have ho : (((r.act (.step id)).act (.step id)).act (.step id)).resolver.outcome? id =
            some o := (Resolver.outcome?_eq_some _ _).mpr hp''
        have hexecutes : take (l.worked r [] [(id, t)]) (.attempt id) =
            l.worked ((r.act (.step id)).act (.step id)) [.rest id] [(id, t)] := by
          have hfound : ((l.worked r [] [(id, t)]).stepAttempt id).hasFound id = true := by
            simp only [hasFound, stepAttempt, worked, hp]
          simp only [take, runAttempt, hbegun, hfound, if_true]
          rfl
        have hsettles : take (l.worked ((r.act (.step id)).act (.step id)) [] [(id, t)])
            (.attempt id) =
              l.worked (((r.act (.step id)).act (.step id)).act (.step id)) [.relay t] [] := by
          have hexecuted : (l.worked ((r.act (.step id)).act (.step id)) []
              [(id, t)]).session.resolver.phase? id = some (.executed origin result) := hp₂
          simp only [take, runAttempt, hexecuted]
          exact stepAttempt_alone _ ho
        refine ⟨3, o, ho, fuel, ?_⟩
        refine (congrArg _ hexecutes).trans ?_
        rw [show fuel + 4 = fuel + 2 + 1 + 1 from rfl, drainToEnd_step (hopen _ _ _) rfl]
        refine (drainToEnd_step (hopen _ [.attempt id] _) rfl _).trans ?_
        exact (congrArg _ hsettles).trans (drainToEnd_told _ ht ho _)

/-- A task that is over at once takes no turn. -/
theorem run_of_areOver {job : Job} {l' : Loop}
    (hl' : (l.addTask job .nobody).1.begin l.tasks.length job = l')
    (h : l'.areOver [l.tasks.length] = true) : l.run job = (l', l.tasks.length) := by
  simp only [run, addTask] at hl' ⊢
  rw [hl', drainToEnd_of_areOver h]

theorem areOver_of_result? {r : TaskResult} (h : l.result? t = some r) :
    l.areOver [t] = true := by
  simp [areOver, result?_eq_some.mp h, Stage.isOver]

/-- The budget is never so small. -/
theorem five_le_budget (l : Loop) : 5 ≤ l.budget := by
  have hone : ∀ (tasks : List Task) (n : Nat),
      n ≤ tasks.foldl (fun n t => n + Job.size t.job) n := by
    intro tasks
    induction tasks with
    | nil => exact fun n => Nat.le_refl n
    | cons t tasks ih => exact fun n => Nat.le_trans (Nat.le_add_right _ _) (ih _)
  have hsize := hone l.tasks 1
  simp only [budget]
  generalize l.queue.length + l.documents.size + l.waiting.length = n
  generalize l.tasks.foldl (fun n t => n + Job.size t.job) 1 = m at hsize
  have hpos : 1 ≤ n + m := by omega
  have hsquare : 64 * 1 * 1 ≤ 64 * (n + m) * (n + m) :=
    Nat.mul_le_mul (Nat.mul_le_mul_left 64 hpos) hpos
  omega

end Loop

namespace Batch

open Loop

variable {b : Batch} {judged : List Document} {l : Loop} {d : Document} {t : Nat}

/-! ### Once the user has been told -/

theorem marked_eq (b : Batch) (judged : List Document) : b.marked judged =
    { b.resolved.resolver with failures := (b.marked judged).failures } := by
  simp only [marked]
  cases b.told judged <;> rfl

theorem marked_memo (b : Batch) (judged : List Document) :
    (b.marked judged).memo = b.resolved.resolver.memo := by
  rw [marked_eq]

theorem marked_outcome? (b : Batch) (judged : List Document) (id : Nat) :
    (b.marked judged).outcome? id = b.resolved.resolver.outcome? id := by
  rw [marked_eq]
  rfl

theorem marked_refusal (b : Batch) (judged : List Document) :
    (b.marked judged).refusal = none := by
  rw [marked_eq]
  exact (b.records_course 3).refusal

theorem told_append_file (b : Batch) (judged : List Document) (hd : d.IsFile) :
    b.told (judged ++ [d]) = b.notice := by
  simp [told, hd]

theorem told_append_skipped (b : Batch) (judged : List Document) (hd : ¬ d.IsFile) :
    b.told (judged ++ [d]) = b.told judged := by
  have hsame : (∃ d' ∈ judged ++ [d], d'.IsFile) ↔ ∃ d' ∈ judged, d'.IsFile := by
    simp [or_and_right, exists_or, hd]
  simp only [told, hsame]

/-- That the user is told of a failure changes nothing else of it. -/
theorem failure?_marked (b : Batch) (judged : List Document) {α : Type} {g : Failure → α}
    (hg : ∀ x : Failure, g { x with surfaced := true } = g x) (f : Nat) :
    ((b.marked judged).failure? f).map g = (b.resolved.resolver.failure? f).map g := by
  rw [marked]
  cases b.told judged with
  | none => rfl
  | some n =>
    simp only [Option.toList_some, List.foldl_cons, List.foldl_nil, Resolver.markSurfaced,
      Resolver.failure?, List.getElem?_modify]
    split
    · cases b.resolved.resolver.failures[f]? with
      | none => rfl
      | some x => exact congrArg some (hg x)
    · simp

/-- Whether a failure is told changes nothing of how documents are judged. -/
theorem alike_marked (b : Batch) (judged : List Document) {s : Session}
    (settings : s.settings = b.start.session.settings) (resolver : s.resolver = b.marked judged) :
    b.judge.Alike s where
  settings := settings
  entryPoint := by
    rw [resolver, marked_eq]
    rfl
  errorTypes f := by
    have hmarked := b.failure?_marked judged (g := Failure.errorType) (fun _ => rfl) f
    have hjoined := congrArg (fun x => Option.bind x id) hmarked
    rw [Option.bind_map, Option.bind_map] at hjoined
    rw [resolver]
    exact hjoined

/-- A notice is about the failure that the attempt came to. -/
theorem outcome_of_notice (b : Batch) {n : Nat × String × Bool} (hn : b.notice = some n) :
    b.outcome = .failed n.1 := by
  simp only [notice] at hn
  cases ho : b.outcome with
  | absent => simp [ho, Session.warmUpNotice] at hn
  | present m => simp [ho, Session.warmUpNotice] at hn
  | failed f =>
    have hlt := (b.records_course 3).failed _ f (ho ▸ b.settles)
    obtain ⟨x, hx, htext, ⟨-, hnot⟩ | ⟨-, his⟩⟩ := Session.notice_of_failure (s := b.judge)
      (b.records_course 3) hlt none (by simp) none
    · simp [ho, Session.warmUpNotice, hx, hnot] at hn
    · simp only [ho, Session.warmUpNotice, hx, his, if_true, htext, bind, Except.bind, pure,
        Except.pure, Option.some.injEq] at hn
      rw [← hn]

/-- What is told about the document of a file once these documents have been judged. -/
theorem notice_marked (b : Batch) (judged : List Document) (hd : d.IsFile) {s : Session}
    (hs : s.resolver = b.marked judged) {h : Host} {r : ValidationResult}
    (hr : (b.judge.verdict b.root b.outcome h d).1.result = .ok r) :
    s.notice r = .ok (if ∃ d ∈ judged, d.IsFile then none else b.notice) := by
  by_cases hfile : ∃ d ∈ judged, d.IsFile
  · rw [if_pos hfile]
    have hmarked : s.resolver =
        b.notice.toList.foldl (fun r n => r.markSurfaced n.1) b.resolved.resolver := by
      rw [hs, marked, told, if_pos hfile]
    cases hn : b.notice with
    | none =>
      rw [hn] at hmarked
      rw [← hn]
      exact b.notice_of_file hd hmarked hr
    | some n =>
      have ho := b.outcome_of_notice hn
      obtain ⟨path, hpath⟩ := hd
      have hsurfaced : ∀ x, s.resolver.failure? n.1 = some x → x.surfaced = true := by
        intro x hx
        rw [hmarked, hn] at hx
        simp only [Option.toList_some, List.foldl_cons, List.foldl_nil, Resolver.markSurfaced,
          Resolver.failure?, List.getElem?_modify, if_true] at hx
        obtain ⟨x', -, rfl⟩ := Option.map_eq_some_iff.mp hx
        rfl
      simp only [Session.verdict, hpath, ho, Session.concluded] at hr
      obtain rfl := Except.ok.inj hr
      simp only [Session.notice, ValidationResult.failed]
      cases hx : s.resolver.failure? n.1 with
      | none => rfl
      | some x => simp [Session.isTold, hsurfaced x hx]
  · have hresolver : s.resolver = b.resolved.resolver := by
      rw [hs, marked, told, if_neg hfile]
      rfl
    rw [if_neg hfile]
    exact b.notice_of_file hd hresolver hr

/-! ### Between two validations -/

variable (b judged l) in
/-- Between two validations the attempt rests: nobody has asked for it, or it has settled. -/
inductive Rests : Prop where
  | unasked
      (new : b.start.session.resolver.memo.lookup (Resolver.key b.start.host b.root) = none)
      (same : b.start.resolution.Alike l.resolution) (queue : l.queue = []) (waiting : l.waiting = [])
      (skipped : ∀ d ∈ judged, ¬ d.IsFile)
  | settled (resolver : l.session.resolver = b.marked judged)
      (host : (b.tally judged).2.Alike l.host)

variable (b judged l) in
/-- A session in which these documents have been validated one after the other. -/
structure InTurn : Prop where
  workspace : l.session.workspace? = some b.root
  settings : l.session.settings = b.start.session.settings
  lists : l.lists = b.start.lists ++ (b.tally judged).1.flatMap Verdict.events
  fixes : l.session.fixes =
    ((b.tally judged).1.foldl (fun s x => x.store s) b.start.session).fixes
  calls : Adds b.start l ((b.told judged).toList.map Prod.snd)
  rests : b.Rests judged l

theorem InTurn.starts (b : Batch) : b.InTurn [] b.start where
  workspace := b.workspace
  settings := rfl
  lists := by simp [tally, Session.tally]
  fixes := rfl
  calls := .of_eq rfl rfl
  rests := by
    obtain hresolved | ⟨hnew, -⟩ := b.resolved_or_new
    · have htold : b.marked [] = b.resolved.resolver := by simp [marked, told]
      refine .settled ?_ ?_
      · rw [htold]
        exact congrArg Resolution.resolver hresolved
      · rw [show b.start.host = b.resolved.host from congrArg Resolution.host hresolved]
        exact .refl _
    · exact .unasked hnew (.refl _) b.resting.queue b.resting.waiting (by simp)

theorem isList_events (x : Verdict) : x.events.filter Event.isList = x.events := by
  simp only [Verdict.events]
  cases x.shown <;> rfl

/-- A validation that goes on with the outcome is judged next, and the user is told of the outcome
if that is still news. -/
theorem InTurn.judges (h : b.InTurn judged l) (hd : d.IsFile) {task : Task}
    (ht : l.tasks[t]? = some task) (resolver : l.session.resolver = b.marked judged)
    (host : (b.tally judged).2.Alike l.host) {v : Validation} (validates : b.Validates l d v) :
    b.InTurn (judged ++ [d]) (l.proceed t (.conclude v true) b.outcome) ∧
      (l.proceed t (.conclude v true) b.outcome).result? t =
        some (b.verdict judged d).1.ended := by
  obtain ⟨path, hpath, hv⟩ := validates.path
  have hsessions := b.alike_marked judged h.settings resolver
  have hverdict : (l.session.concluded l.host v b.outcome).1 = (b.verdict judged d).1 ∧
      (b.verdict judged d).2.Alike (l.session.concluded l.host v b.outcome).2 := by
    simp only [Batch.verdict, Session.verdict, hpath]
    exact Session.concluded_congr hsessions host validates.document hv validates.root _
  obtain ⟨hverdict, hhost⟩ := hverdict
  have hcurrent : l.session.isCurrent v.document.uri v.number = true := by
    rw [validates.document]
    exact validates.current
  generalize hn : (if ∃ d ∈ judged, d.IsFile then none else b.notice) = n
  have hproceed : l.proceed t (.conclude v true) b.outcome = ((Loop.emit { l with
      session := (b.verdict judged d).1.store l.session
      host := (l.session.concluded l.host v b.outcome).2 }
        (b.verdict judged d).1.events).notify n).finish t
          (b.verdict judged d).1.ended := by
    simp only [proceed, Session.conclude_of_current hcurrent, hverdict, Verdict.ended]
    cases hr : (b.verdict judged d).1.result with
    | error e =>
      have hnone : n = none := by
        rw [← hn, b.notice_of_raised hr, ite_self]
      simp only [hnone, notify]
    | ok r =>
      have hnotice : ((b.verdict judged d).1.store l.session).notice r = .ok n := by
        rw [← hn]
        exact b.notice_marked judged hd ((Verdict.store_resolver _ _).trans resolver) hr
      simp only [if_true, emit, hnotice]
  have htold : (b.told judged).toList ++ n.toList = (b.told (judged ++ [d])).toList := by
    rw [told_append_file b judged hd, ← hn, told]
    split <;> simp
  have htally := b.tally_append judged d
  have hcalls : Adds l (Loop.emit { l with
      session := (b.verdict judged d).1.store l.session
      host := (l.session.concluded l.host v b.outcome).2 } (b.verdict judged d).1.events) [] := by
    have hconcluded : Adds l { l with
        session := (b.verdict judged d).1.store l.session
        host := (l.session.concluded l.host v b.outcome).2 } [] := .of_eq rfl rfl
    exact hconcluded.trans (silent_emit _ _ (Verdict.error?_events _)).calls
  generalize hl' : Loop.emit { l with
      session := (b.verdict judged d).1.store l.session
      host := (l.session.concluded l.host v b.outcome).2 } (b.verdict judged d).1.events = l'
    at hproceed hcalls
  have hsession : l'.session = (b.verdict judged d).1.store l.session := by rw [← hl']; rfl
  have hlists : l'.lists = l.lists ++ (b.verdict judged d).1.events := by
    rw [← hl', lists_of_events (l := l) rfl, isList_events]
  have ht' : l'.tasks[t]? = some task := by rw [← hl']; exact ht
  rw [hproceed]
  refine ⟨?_, result?_notify_finish ht' _ _⟩
  have hnotified : ∀ r, ((l'.notify n).finish t r).session =
      n.toList.foldl Session.markNotice l'.session :=
    fun r => (session_finish _ _ _).trans (session_notify _ _)
  exact {
    workspace := by
      rw [hnotified, Session.foldl_markNotice, hsession]
      have hroot := (b.verdict judged d).1.store_root l.session
      simp only [Session.workspace?, hroot]
      exact h.workspace
    settings := by
      rw [hnotified, Session.foldl_markNotice, hsession]
      exact ((b.verdict judged d).1.store_settings l.session).trans h.settings
    lists := by
      have hfinished := (calm_finish (l'.notify n) t
        (b.verdict judged d).1.ended).lists
      refine hfinished.trans ((calm_notify l' n).lists.trans ?_)
      rw [hlists, h.lists, htally, List.flatMap_append, List.flatMap_singleton, List.append_assoc]
    fixes := by
      rw [hnotified, fixes_markNotices, hsession, htally]
      simp only [List.foldl_append, List.foldl_cons, List.foldl_nil]
      exact Verdict.store_fixes_congr _ h.fixes
    calls := by
      rw [← htold, List.map_append]
      refine h.calls.trans ?_
      simpa using hcalls.trans ((adds_notify l' n).trans (silent_finish _ _ _).calls)
    rests := by
      refine .settled ?_ ?_
      · rw [hnotified, resolver_markNotices, hsession, Verdict.store_resolver, resolver, marked,
          marked, ← htold, List.foldl_append]
      · rw [host_finish, host_notify, ← hl', htally]
        exact hhost }

/-- The loop in which the validation of a document has taken its number. -/
def numbered (l : Loop) (d : Document) (host : Host) : Loop :=
  { (l.addTask (.validateSingle d) .nobody).1 with
    session := (l.session.bump d.uri).1
    host := host }

theorem task?_numbered (l : Loop) (d : Document) (host : Host) :
    (numbered l d host).tasks[l.tasks.length]? = some ⟨.validateSingle d, .nobody, .ready⟩ := by
  simp [numbered, addTask]

theorem InTurn.numbers (h : b.InTurn judged l) (d : Document) {host : Host}
    (hosts : l.host.Alike host) : b.InTurn judged (numbered l d host) where
  workspace := h.workspace
  settings := h.settings
  lists := h.lists
  fixes := h.fixes
  calls := by
    have hadded : Adds l (numbered l d host) [] :=
      ⟨[], [.validateSingle d], by simp [numbered, addTask], by simp [numbered, addTask],
        by simp [Job.error?]⟩
    simpa using h.calls.trans hadded
  rests := by
    cases h.rests with
    | unasked new same queue waiting skipped =>
      exact .unasked new ⟨same.resolver, same.host.trans hosts⟩ queue waiting skipped
    | settled resolver machine => exact .settled resolver (machine.trans hosts)

/-- A document that is not that of a file is skipped. -/
theorem InTurn.skips (h : b.InTurn judged l) (hpath : Uri.toPath? d.uri = .ok none) :
    b.InTurn (judged ++ [d]) (l.run (.validateSingle d)).1 ∧
      (l.run (.validateSingle d)).1.result? (l.run (.validateSingle d)).2 =
        some (b.verdict judged d).1.ended := by
  have hfile : ¬ d.IsFile := by
    rintro ⟨path, hfile⟩
    simp [hpath] at hfile
  have hverdict : b.verdict judged d = (.skipped d.uri, (b.tally judged).2) := by
    simp only [Batch.verdict, Session.verdict, hpath]
  have htally := b.tally_append judged d
  rw [hverdict] at htally
  obtain ⟨host, hhost, hbegin⟩ : ∃ host, l.host.Alike host ∧
      (l.addTask (.validateSingle d) .nobody).1.begin l.tasks.length (.validateSingle d) =
        (numbered l d host).setStage l.tasks.length
          (.done (.validation (.plain d.uri .skipped))) := by
    refine ⟨_, l.host.alike_note .debug s!"Skipping non-file document {d.uri}", ?_⟩
    have hfinish : ∀ host r, (numbered l d host).finish l.tasks.length (.validation r) =
        (numbered l d host).setStage l.tasks.length (.done (.validation r)) := by
      intro host r
      simp only [finish, task?_setStage_self (task?_numbered l d host)]
      rfl
    rw [← hfinish]
    simp only [begin, beginValidation, Session.begin, hpath]
    rfl
  have hthere := task?_setStage_self (task?_numbered l d host)
    (.done (.validation (.plain d.uri .skipped)))
  have hresult : ((numbered l d host).setStage l.tasks.length
      (.done (.validation (.plain d.uri .skipped)))).result? l.tasks.length =
        some (.validation (.plain d.uri .skipped)) := by
    simp only [result?, stage?_of_task hthere]
  have hnumbers := h.numbers d hhost
  have hset := silent_setStage (numbered l d host) l.tasks.length
    (.done (.validation (.plain d.uri .skipped)))
  rw [run_of_areOver hbegin (areOver_of_result? hresult), hverdict]
  refine ⟨?_, hresult⟩
  exact {
    workspace := hnumbers.workspace
    settings := hnumbers.settings
    lists := by
      refine Eq.trans (b := (numbered l d host).lists) rfl ?_
      rw [htally, List.flatMap_append, List.flatMap_singleton]
      simpa [Verdict.skipped, Verdict.events] using hnumbers.lists
    fixes := by
      rw [htally, List.foldl_append]
      exact hnumbers.fixes
    calls := by
      rw [told_append_skipped b judged hfile]
      simpa using hnumbers.calls.trans hset.calls
    rests := by
      cases hnumbers.rests with
      | unasked new same queue waiting skipped =>
        exact .unasked new same queue waiting
          (List.forall_mem_append.mpr ⟨skipped, List.forall_mem_singleton.mpr hfile⟩)
      | settled resolver machine =>
        refine .settled ?_ ?_
        · rw [marked, told_append_skipped b judged hfile]
          exact resolver
        · rw [htally]
          exact machine }

/-- The validation of the document of a file asks for the attempt. -/
theorem InTurn.asks (h : b.InTurn judged l) {path : Path}
    (hpath : Uri.toPath? d.uri = .ok (some path)) :
    ∃ v, b.Validates (numbered l d l.host) d v ∧
      (l.addTask (.validateSingle d) .nobody).1.begin l.tasks.length (.validateSingle d) =
        (numbered l d l.host).await l.tasks.length b.root (.conclude v true) := by
  have hroot : ((l.session.bump d.uri).1.workspace?.getD path.parent.toString) = b.root := by
    rw [show (l.session.bump d.uri).1.workspace? = l.session.workspace? from rfl, h.workspace]
    rfl
  refine ⟨⟨d, l.session.number d.uri + 1, path.toString, b.root⟩,
    ⟨rfl, ⟨path, hpath, rfl⟩, rfl, l.session.isCurrent_bump_self d.uri⟩, ?_⟩
  simp only [begin, beginValidation, Session.begin, addTask, hpath, hroot]
  rfl

/-- A task that asks for the settled attempt goes on at once. -/
theorem await_of_marked (resolver : l.session.resolver = b.marked judged)
    (host : (b.tally judged).2.Alike l.host) (t : Nat) (k : Continuation) :
    l.await t b.root k = l.proceed t k b.outcome := by
  have hrefusal : l.session.resolver.refusal = none := by
    rw [resolver]
    exact b.marked_refusal judged
  have hfiles : l.host.files = b.resolved.host.files :=
    host.stays.files.trans (b.tally_recalls judged).stays.files
  have hmemo : l.session.resolver.memo = (b.course 3).resolver.memo := by
    rw [resolver, marked_memo]
    rfl
  obtain ⟨hsame, hasked⟩ := asking_of_course hmemo hfiles
  have hended : (l.asking b.root).session.resolver.outcome? (l.attemptAsked b.root) =
      some b.outcome := by
    rw [hsame, hasked, resolver, marked_outcome?, b.settles]
  have hawait := await_of_settled hrefusal hended t k
  rwa [hsame] at hawait

/-- A new attempt, worked on until it settles, comes to what the batch's attempt comes to. -/
theorem after_of_new (b : Batch) {r : Resolution} (hcourse : (b.course 0).Alike r) {n : Nat}
    {o : Outcome}
    (ho : (r.after (List.replicate n (.step b.attempt))).resolver.outcome? b.attempt = some o) :
    o = b.outcome ∧ b.resolved.Alike (r.after (List.replicate n (.step b.attempt))) := by
  have hsteps := hcourse.steps b.attempt n
  rw [← course_add, Nat.zero_add] at hsteps
  have hresolver : (r.after (List.replicate n (.step b.attempt))).resolver =
      (b.course n).resolver := hsteps.resolver
  have hend : b.course n = b.resolved := b.course_of_settled (hresolver ▸ ho)
  rw [hresolver, hend, b.settles] at ho
  exact ⟨(Option.some.inj ho).symm, hend ▸ hsteps⟩

/-- The task that waits alone for a new attempt goes on with the batch's outcome, and nothing else
happens meanwhile. -/
theorem drainToEnd_new (b : Batch) {r : Resolution} (hcourse : (b.course 0).Alike r)
    (hphase : r.resolver.phase? b.attempt = some .begun) {k : Continuation}
    (ht : l.stage? t = some (.resolving b.attempt k)) (fuel : Nat) :
    ∃ r' fuel', b.resolved.Alike r' ∧
      drainToEnd [t] (fuel + 5) (l.worked r [.attempt b.attempt] [(b.attempt, t)]) =
        drainToEnd [t] fuel' ((l.worked r' [] []).proceed t k b.outcome) := by
  obtain ⟨n, o, ho, fuel', hdrain⟩ := drainToEnd_alone r ht hphase fuel
  obtain ⟨rfl, halike⟩ := b.after_of_new hcourse ho
  exact ⟨_, fuel', halike, hdrain⟩

/-- That a task waits while the attempt settles changes nothing but the attempt. -/
theorem InTurn.works (h : b.InTurn judged l) (skipped : ∀ d ∈ judged, ¬ d.IsFile)
    {r : Resolution} (halike : b.resolved.Alike r) (t : Nat) (stage : Stage) :
    b.InTurn judged ((l.setStage t stage).worked r [] []) ∧ r.resolver = b.marked judged ∧
      (b.tally judged).2.Alike r.host := by
  have htold : b.told judged = none := by
    refine if_neg ?_
    rintro ⟨d, hd, hfile⟩
    exact skipped d hd hfile
  have hmarked : r.resolver = b.marked judged := by
    rw [marked, htold]
    exact halike.resolver
  have hhost : (b.tally judged).2.Alike r.host := by
    rw [b.tally_of_skipped skipped]
    exact halike.host
  have hworked : Adds (l.setStage t stage) ((l.setStage t stage).worked r [] []) [] :=
    .of_eq rfl rfl
  refine ⟨?_, hmarked, hhost⟩
  exact {
    workspace := h.workspace
    settings := h.settings
    lists := h.lists
    fixes := h.fixes
    calls := by simpa using h.calls.trans ((silent_setStage l t stage).calls.trans hworked)
    rests := .settled hmarked hhost }

/-- The document of a file is judged next; if the attempt is new, it is waited for. -/
theorem InTurn.awaits (h : b.InTurn judged l) {path : Path}
    (hpath : Uri.toPath? d.uri = .ok (some path)) :
    b.InTurn (judged ++ [d]) (l.run (.validateSingle d)).1 ∧
      (l.run (.validateSingle d)).1.result? (l.run (.validateSingle d)).2 =
        some (b.verdict judged d).1.ended := by
  have hfile : d.IsFile := ⟨path, hpath⟩
  have hnumbers := h.numbers d (.refl l.host)
  have ht := task?_numbered l d l.host
  obtain ⟨v, hvalidates, hbegin⟩ := h.asks hpath
  cases hnumbers.rests with
  | settled resolver host =>
    obtain ⟨hjudged, hresult⟩ := hnumbers.judges hfile ht resolver host hvalidates
    have hawait := hbegin.trans (await_of_marked resolver host _ _)
    rw [run_of_areOver hawait (areOver_of_result? hresult)]
    exact ⟨hjudged, hresult⟩
  | unasked new same queue waiting skipped =>
    obtain ⟨host, hasking, hasked, hcourse, hphase⟩ := asking_of_unasked new same
    have hrefusal : (numbered l d l.host).session.resolver.refusal = none := by
      rw [show (numbered l d l.host).session.resolver = b.start.session.resolver from same.resolver]
      exact b.records.refusal
    have hpending : ((numbered l d l.host).asking b.root).session.resolver.outcome?
        ((numbered l d l.host).attemptAsked b.root) = none := by
      simp only [hasked, Resolver.outcome?, hphase]
    have hwaits : (numbered l d l.host).await l.tasks.length b.root (.conclude v true) =
        ((numbered l d l.host).setStage l.tasks.length
          (.resolving b.attempt (.conclude v true))).worked
            ((numbered l d l.host).asking b.root).resolution [.attempt b.attempt]
              [(b.attempt, l.tasks.length)] := by
      rw [await_of_unsettled hrefusal hpending, hasking, hasked, queue, waiting]
      rfl
    generalize hw : (numbered l d l.host).setStage l.tasks.length
      (.resolving b.attempt (.conclude v true)) = w at hwaits
    have htw := task?_setStage_self ht (.resolving b.attempt (.conclude v true))
    rw [hw] at htw
    obtain ⟨k, hk⟩ : ∃ k, (w.worked ((numbered l d l.host).asking b.root).resolution
        [.attempt b.attempt] [(b.attempt, l.tasks.length)]).budget = k + 5 :=
      ⟨_, (Nat.sub_add_cancel (five_le_budget _)).symm⟩
    obtain ⟨r, fuel, halike, hdrain⟩ := b.drainToEnd_new hcourse hphase (stage?_of_task htw) k
    obtain ⟨hworks, hmarked, hhost⟩ := hnumbers.works skipped halike l.tasks.length
      (.resolving b.attempt (.conclude v true))
    rw [hw] at hworks
    have hcurrent : b.Validates (w.worked r [] []) d v := by
      refine ⟨hvalidates.document, hvalidates.path, hvalidates.root, ?_⟩
      rw [← hw]
      exact hvalidates.current
    obtain ⟨hjudged, hresult⟩ := hworks.judges hfile htw hmarked hhost hcurrent
    have hrun : l.run (.validateSingle d) =
        ((w.worked r [] []).proceed l.tasks.length (.conclude v true) b.outcome,
          l.tasks.length) := by
      have hbegins := hbegin.trans hwaits
      simp only [run, addTask] at hbegins ⊢
      rw [hbegins, hk, hdrain, drainToEnd_of_areOver (areOver_of_result? hresult)]
    rw [hrun]
    exact ⟨hjudged, hresult⟩

/-! ### One after the other -/

/-- Each document is validated in turn. -/
theorem InTurn.validates (h : b.InTurn judged l) (hd : ∃ path, Uri.toPath? d.uri = .ok path) :
    b.InTurn (judged ++ [d]) (l.run (.validateSingle d)).1 ∧
      (l.run (.validateSingle d)).1.result? (l.run (.validateSingle d)).2 =
        some (b.verdict judged d).1.ended := by
  obtain ⟨path, hpath⟩ := hd
  cases path with
  | none => exact h.skips hpath
  | some path => exact h.awaits hpath

end Batch

namespace Loop

/-- Validates documents one after the other, and tells what each validation came to. -/
def validateInTurn (l : Loop) : List Document → Loop × List (Option TaskResult)
  | [] => (l, [])
  | d :: ds =>
    let ran := l.run (.validateSingle d)
    let rest := validateInTurn ran.1 ds
    (rest.1, ran.1.result? ran.2 :: rest.2)

theorem validateInTurn_cons (l : Loop) (d : Document) (ds : List Document) :
    l.validateInTurn (d :: ds) = (((l.run (.validateSingle d)).1.validateInTurn ds).1,
      (l.run (.validateSingle d)).1.result? (l.run (.validateSingle d)).2 ::
        ((l.run (.validateSingle d)).1.validateInTurn ds).2) := rfl

end Loop

namespace Batch

open Loop

variable {b : Batch} {judged : List Document} {l : Loop}

theorem InTurn.validatesAll (h : b.InTurn judged l) {ds : List Document}
    (hds : ∀ d ∈ ds, ∃ path, Uri.toPath? d.uri = .ok path) :
    b.InTurn (judged ++ ds) (l.validateInTurn ds).1 ∧ (l.validateInTurn ds).2 =
      (b.judge.tally b.root b.outcome (b.tally judged).2 ds).1.map fun x =>
        some x.ended := by
  induction ds generalizing judged l with
  | nil =>
    rw [List.append_nil]
    exact ⟨h, rfl⟩
  | cons d ds ih =>
    obtain ⟨hd, hds⟩ := List.forall_mem_cons.mp hds
    obtain ⟨hnext, hresult⟩ := h.validates hd
    obtain ⟨hall, hresults⟩ := ih hnext hds
    rw [List.append_assoc, List.singleton_append] at hall
    rw [validateInTurn_cons, hresult, hresults, b.tally_append]
    exact ⟨hall, rfl⟩

/-- All documents of a batch, validated one after the other in the session in which it would begin.
-/
theorem inTurn (b : Batch) : b.InTurn b.documents (b.start.validateInTurn b.documents).1 ∧
    (b.start.validateInTurn b.documents).2 =
      (b.tally b.documents).1.map fun x => some x.ended :=
  (InTurn.starts b).validatesAll b.accepted

end Batch

end LintBridge
