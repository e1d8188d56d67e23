import LintBridge.Proofs.Loop.Batches
import LintBridge.Proofs.Loop.Telling

/-! Who awaits a failure is told of it. A task that asked for an attempt waits for it, or has ended
with its outcome; if it tells the user itself, it has done so by then, and if it is one of a batch,
its result says which failure is to be told. A batch ends only after all its validations, so it
tells whatever they say. -/

namespace LintBridge.Loop

/-! ### What is awaited -/

/-- The workspace for whose module the validation of a document asks. -/
def validationRoot? (l : Loop) (d : Document) : Option String :=
  match (l.session.begin l.host d).1 with
  | .ok (some v) => some v.root
  | _ => none

/-- The workspace for whose module a job asks when it begins. -/
def rootFor? (l : Loop) : Job → Option String
  | .resolve root => some root
  | .warmUp => l.session.workspace?
  | .validate d | .validateSingle d => l.validationRoot? d
  | .validateOpen uri =>
    match l.documents.fetch l.host.files uri with
    | .ok d => l.validationRoot? d
    | .error _ => none
  | _ => none

/-- The task that begins in a turn, and its job. -/
def startedBy? (l : Loop) : Turn → Option (Nat × Job)
  | .start t =>
    match l.tasks[t]? with
    | some ⟨job, _, .ready⟩ => some (t, job)
    | _ => none
  | _ => none

/-- The task that begins in a step, and its job. -/
def begins? (l : Loop) : Act → Option (Nat × Job)
  | .turn i => (l.queue[i]?).bind l.startedBy?
  | .begin job => some (l.tasks.length, job)
  | _ => none

/-- The attempt whose outcome a task awaits when it begins. -/
def awaitedBy? (l : Loop) (p : Nat × Job) : Option (Nat × Nat) :=
  (l.rootFor? p.2).map fun root => (p.1, l.attemptAsked root)

/-- The task that asks for a module in a step, and the attempt whose outcome it awaits. -/
def awaits? (l : Loop) (a : Act) : Option (Nat × Nat) :=
  (l.begins? a).bind l.awaitedBy?

/-- Who has awaited which attempt in a run. -/
def awaited (l : Loop) : List Act → List (Nat × Nat)
  | [] => []
  | a :: acts => (l.awaits? a).toList ++ awaited (l.ownAct a) acts

variable {l l' l'' : Loop} {t id : Nat} {job : Job} {task : Task} {s : Stage}

/-- What a task awaits when it begins depends on neither the tasks nor the turns. -/
theorem awaitedBy?_congr (session : l'.session = l.session) (host : l'.host = l.host)
    (documents : l'.documents = l.documents) : l'.awaitedBy? = l.awaitedBy? := by
  have hroot : ∀ job, l'.rootFor? job = l.rootFor? job := by
    intro job
    cases job <;> simp only [rootFor?, validationRoot?, session, host, documents]
  funext p
  simp only [awaitedBy?, hroot, attemptAsked, session, host]

/-! ### What is owed -/

/-- What a task that awaited an attempt owes where it stands: it waits, or it has ended after the
attempt has settled, and has told of its failure or says it in its result. -/
def Owes (l : Loop) (job : Job) (id : Nat) : Stage → Prop
  | .resolving id' _ => id' = id
  | .done .nothing => ∃ o, l.session.resolver.outcome? id = some o ∧
      ∀ f, o = .failed f → l.session.resolver.HasTold f
  | .done (.validation r) => ∃ o, l.session.resolver.outcome? id = some o ∧
      ∀ f, o = .failed f → r.cause = some (.resolution f) ∧
        (job.Tells → l.session.resolver.HasTold f)
  | .done (.outcome _) | .done (.raised _) | .leaving | .cancelled => True
  | _ => False

theorem Owes.mono (hc : l.session.resolver.Carries l'.session.resolver)
    (h : l.Owes job id s) : l'.Owes job id s := by
  cases s with
  | done r =>
    cases r with
    | nothing =>
      obtain ⟨o, ho, hf⟩ := h
      exact ⟨o, hc.outcome id o ho, fun f hof => hc.hasTold (hf f hof)⟩
    | validation r =>
      obtain ⟨o, ho, hf⟩ := h
      refine ⟨o, hc.outcome id o ho, fun f hof => ⟨(hf f hof).1, fun hj => ?_⟩⟩
      exact hc.hasTold ((hf f hof).2 hj)
    | _ => exact h
  | _ => exact h

/-- All that awaited an attempt owe what they owe, and batches that have ended have told of what
their validations say. -/
structure Keeps (ws : List (Nat × Nat)) (l : Loop) : Prop where
  gathers : Gathers none l
  records : l.session.resolver.Records
  awaited : ∀ t id, (t, id) ∈ ws → ∃ task, l.tasks[t]? = some task ∧
    l.Owes task.job id task.stage
  causes : ∀ t r f, l.result? t = some (.validation r) → r.cause = some (.resolution f) →
    f < l.session.resolver.failures.length ∧ r.errorType ≠ some .lintCallError
  batches : ∀ p rs c r f, l.result? p = some (.validations rs) →
    l.listener? c = some (.task p) → l.result? c = some (.validation r) →
    r.cause = some (.resolution f) → l.session.resolver.HasTold f

/-- A task is put into another place, where it owes what it owes to the attempts `ids`. -/
structure PutTo (ids : Nat → Prop) (t : Nat) (job : Job) (l l' : Loop) (s : Stage) : Prop where
  tasks : Extends (l.setStage t s) l'
  owes : ∀ id, ids id → l'.Owes job id s
  causes : ∀ r f, s = .done (.validation r) → r.cause = some (.resolution f) →
    f < l'.session.resolver.failures.length ∧ r.errorType ≠ some .lintCallError
  batches : ∀ rs c r f, s = .done (.validations rs) → l.listener? c = some (.task t) →
    l.result? c = some (.validation r) → r.cause = some (.resolution f) →
    l'.session.resolver.HasTold f

variable {ws : List (Nat × Nat)} {ids : Nat → Prop}

theorem Extends.listener? (h : Extends l l') (ht : t < l.tasks.length) :
    l'.listener? t = l.listener? t := by
  rw [Loop.listener?, h.task?_lt ht, Loop.listener?]

theorem result?_lt {r : TaskResult} (h : l.result? t = some r) : t < l.tasks.length :=
  stage?_lt (result?_eq_some.mp h)

theorem result?_setStage_of_ne {t' : Nat} (h : t ≠ t') (s : Stage) :
    (l.setStage t s).result? t' = l.result? t' := by
  simp only [result?, stage?_setStage_of_ne h]

theorem Keeps.extends (h : Keeps ws l) (he : Extends l l') (hg : Gathers none l')
    (hc : l.session.resolver.Carries l'.session.resolver) : Keeps ws l' where
  gathers := hg
  records := hc.records h.records
  awaited t id hw := by
    obtain ⟨task, ht, ho⟩ := h.awaited t id hw
    exact ⟨task, he.task? ht, ho.mono hc⟩
  causes t r f hr hf := by
    obtain ⟨hlt, htype⟩ := h.causes t r f (he.result? t ▸ hr) hf
    exact ⟨Nat.lt_of_lt_of_le hlt hc.length_le, htype⟩
  batches p rs c r f hp hcp hr hf := by
    rw [he.result?] at hp hr
    rw [he.listener? (result?_lt hr)] at hcp
    exact hc.hasTold (h.batches p rs c r f hp hcp hr hf)

/-- What a task that is put into another place owed, it owes there. -/
theorem Keeps.putTo (h : Keeps ws l) (ht : l.tasks[t]? = some task)
    (hopen : task.stage.isOver = false) (hput : PutTo ids t task.job l l' s)
    (hids : ∀ id, l.Owes task.job id task.stage → ids id) (hg : Gathers none l')
    (hc : l.session.resolver.Carries l'.session.resolver) : Keeps ws l' := by
  have hlt := (List.getElem?_eq_some_iff.mp ht).1
  have hself : l'.tasks[t]? = some { task with stage := s } :=
    hput.tasks.task? (task?_setStage_self ht s)
  have hother : ∀ {t' task'}, t ≠ t' → l.tasks[t']? = some task' → l'.tasks[t']? = some task' :=
    fun hne ht' => hput.tasks.task? ((task?_setStage_of_ne hne s).trans ht')
  have hresult : ∀ {t'}, t ≠ t' → l'.result? t' = l.result? t' :=
    fun hne => (hput.tasks.result? _).trans (result?_setStage_of_ne hne s)
  have hmine : ∀ {r}, l'.result? t = some r → s = .done r := by
    intro r hr
    rw [result?_eq_some, stage?_of_task hself] at hr
    exact Option.some.inj hr
  have hnone : l.result? t = none :=
    IsOpen.result? ⟨task.stage, stage?_of_task ht, hopen⟩
  refine ⟨hg, hc.records h.records, fun t' id hw => ?_, fun t' r f hr hf => ?_,
    fun p rs c r f hp hcp hr hf => ?_⟩
  · obtain ⟨task', ht', ho⟩ := h.awaited t' id hw
    by_cases hne : t = t'
    · subst hne
      obtain rfl := Option.some.inj (ht.symm.trans ht')
      exact ⟨_, hself, hput.owes id (hids id ho)⟩
    · exact ⟨task', hother hne ht', ho.mono hc⟩
  · by_cases hne : t = t'
    · subst hne
      exact hput.causes r f (hmine hr) hf
    · obtain ⟨hlt, htype⟩ := h.causes t' r f ((hresult hne).symm.trans hr) hf
      exact ⟨Nat.lt_of_lt_of_le hlt hc.length_le, htype⟩
  · have hcp' : l.listener? c = some (.task p) := by
      have hc' : c < (l.setStage t s).tasks.length :=
        result?_lt ((hput.tasks.result? c).symm.trans hr)
      rw [← hcp, hput.tasks.listener? hc', listener?_setStage]
    -- a validation that ends now is not one of a batch that has ended
    by_cases hne : t = c
    · subst hne
      by_cases hpt : t = p
      · subst hpt
        obtain h₁ := hmine hp
        rw [h₁] at hmine
        simpa using hmine hr
      · obtain ⟨r', hr'⟩ := h.gathers.ended p rs ((hresult hpt).symm.trans hp) t hcp'
        simp [hnone] at hr'
    · have hr' := (hresult hne).symm.trans hr
      by_cases hpt : t = p
      · subst hpt
        exact hput.batches rs c r f (hmine hp) hcp' hr' hf
      · exact hc.hasTold (h.batches p rs c r f ((hresult hpt).symm.trans hp) hcp' hr' hf)

theorem Keeps.mono {ws' : List (Nat × Nat)} (h : Keeps ws l) (hws : ∀ w ∈ ws', w ∈ ws) :
    Keeps ws' l :=
  { h with awaited := fun t id hw => h.awaited t id (hws _ hw) }

theorem Keeps.add (h : Keeps ws l) {w : Option (Nat × Nat)}
    (hw : ∀ t id, w = some (t, id) → ∃ task, l.tasks[t]? = some task ∧
      l.Owes task.job id task.stage) : Keeps (ws ++ w.toList) l :=
  { h with awaited := fun t id hm =>
      (List.mem_append.mp hm).elim (h.awaited t id) fun hm => hw t id (Option.mem_toList.mp hm) }

/-! ### Where a turn puts a task -/

theorem PutTo.weaken {ids' : Nat → Prop} (h : PutTo ids t job l l' s)
    (hids : ∀ id, ids' id → ids id) : PutTo ids' t job l l' s :=
  { h with owes := fun id hid => h.owes id (hids id hid) }

/-- What is added before a task is put into another place makes no difference. -/
theorem PutTo.of_extends (h : PutTo ids t job l' l'' s) (he : Extends l l')
    (ht : t < l.tasks.length) : PutTo ids t job l l'' s where
  tasks := (he.setStage ht s).trans h.tasks
  owes := h.owes
  causes := h.causes
  batches rs c r f hs hcp hr hf :=
    h.batches rs c r f hs ((he.listener? (listener?_lt hcp)).trans hcp)
      ((he.result? c).trans hr) hf

/-- A task ends with something else than validations. -/
theorem putTo_finish {r : TaskResult}
    (howes : ∀ id, ids id → (l.finish t r).Owes job id (.done r))
    (hcauses : ∀ v f, r = .validation v → v.cause = some (.resolution f) →
      f < l.session.resolver.failures.length ∧ v.errorType ≠ some .lintCallError)
    (hr : ∀ rs, r ≠ .validations rs) : PutTo ids t job l (l.finish t r) (.done r) where
  tasks := (calm_finish l t r).quiet.extends
  owes := howes
  causes v f hs hf := by
    rw [session_finish]
    exact hcauses v f (Stage.done.inj hs) hf
  batches rs c v f hs := absurd (Stage.done.inj hs) (hr rs)

theorem putTo_raise (l : Loop) (t : Nat) (job : Job) (ids : Nat → Prop) (e : Fault) :
    PutTo ids t job l (l.finish t (.raised e)) (.done (.raised e)) :=
  putTo_finish (fun _ _ => trivial) (by simp) (by simp)

theorem hasTold_notify {notice : Option (Nat × String × Bool)}
    (hnews : ∀ n, notice = some n → l.session.resolver.IsNews n) {f : Nat}
    (hf : l.session.resolver.HasTold f ∨ ∃ n, notice = some n ∧ n.1 = f) :
    (l.notify notice).session.resolver.HasTold f := by
  cases notice with
  | none => exact hf.resolve_right (by simp)
  | some n =>
    have hsession : (l.notify (some n)).session = [n].foldl Session.markNotice l.session :=
      tell_session _ _ _
    rw [hsession]
    exact Session.hasTold_markNotices (by simpa using hnews n rfl) (by simpa using hf)

/-- A validation that could not be resolved says which failure it is about. -/
theorem conclude_failed (hr : l.session.resolver.Records) (v : Validation) {o : Outcome}
    {r : ValidationResult} (h : (l.session.conclude l.host v o).1 = .ok r) {f : Nat}
    (hc : r.cause = some (.resolution f)) : o = .failed f ∧ r.errorType ≠ some .lintCallError := by
  cases o with
  | absent =>
    obtain rfl := Except.ok.inj h
    simp [ValidationResult.plain] at hc
  | present m =>
    simp only [Session.conclude, Session.concludePresent] at h
    split at h
    · obtain rfl := Except.ok.inj h
      simp [ValidationResult.plain] at hc
    · split at h
      · split at h
        · cases h
        · obtain rfl := Except.ok.inj h
          simp [ValidationResult.failed] at hc
      · obtain rfl := Except.ok.inj h
        simp [ValidationResult.published] at hc
  | failed f' =>
    obtain rfl := Except.ok.inj h
    obtain rfl : f' = f := by simpa [ValidationResult.failed] using hc
    refine ⟨rfl, ?_⟩
    simp only [ValidationResult.failed, ne_eq, Option.some.injEq]
    cases hx : l.session.resolver.failure? f' with
    | none => simp
    | some x =>
      have htype := (hr.failures x (List.mem_of_getElem? hx)).errorType
      cases ht : x.errorType with
      | none => simp [ht]
      | some e => simpa [ht] using htype

/-- A task goes on with the outcome of an attempt. -/
theorem proceed_putTo (hr : l.session.resolver.Records) (ht : t < l.tasks.length)
    {k : Continuation} (hk : k.Fits job) {o : Outcome}
    (hf : ∀ f, o = .failed f → f < l.session.resolver.failures.length) :
    ∃ s, PutTo (fun id => l.session.resolver.outcome? id = some o) t job l (l.proceed t k o) s := by
  have hcarries := (tells_proceed hr t k o).resolver
  cases k with
  | answer => exact ⟨_, putTo_finish (fun _ _ => trivial) (by simp) (by simp)⟩
  | warmUp =>
    obtain ⟨n, hn, hnews, hall⟩ := Session.warmUpNotice_spec hr o
    simp only [proceed, hn] at hcarries ⊢
    refine ⟨.done .nothing, PutTo.of_extends ?_ (calm_notify l n).quiet.extends ht⟩
    refine putTo_finish (fun id hid => ⟨o, hcarries.outcome id o hid, fun f hof => ?_⟩) (by simp)
      (by simp)
    rw [session_finish]
    exact hasTold_notify hnews (hall f hof (hf f hof))
  | conclude v told =>
    have hresolver := l.concluded_resolver v o
    have hconcluded : ∀ r, (l.session.conclude l.host v o).1 = .ok r → ∀ f,
        r.cause = some (.resolution f) →
          f < l.session.resolver.failures.length ∧ r.errorType ≠ some .lintCallError :=
      fun r hresult f hc =>
        ⟨hf f (conclude_failed hr v hresult hc).1, (conclude_failed hr v hresult hc).2⟩
    have hcause : ∀ r, (l.session.conclude l.host v o).1 = .ok r → ∀ f, o = .failed f →
        r.cause = some (.resolution f) := by
      rintro r hresult f rfl
      obtain rfl := Except.ok.inj hresult
      rfl
    have hbegun : Extends l (l.concluded v o) := .refl l
    have hcases := l.proceed_conclude_cases t v o told
    generalize l.proceed t (.conclude v told) o = l' at hcases hcarries ⊢
    cases hcases with
    | untold e result => exact ⟨_, (putTo_raise _ t job _ e).of_extends hbegun ht⟩
    | silent r result isTold =>
      refine ⟨.done (.validation r), PutTo.of_extends ?_ hbegun ht⟩
      refine putTo_finish (fun id hid => ⟨o, hcarries.outcome id o hid, fun f hof =>
        ⟨hcause r result f hof, fun hj => ?_⟩⟩) (fun v' f hv hc => ?_) (by simp)
      · rw [hk.2.mpr hj] at isTold
        cases isTold
      · obtain rfl := TaskResult.validation.inj hv
        rw [hresolver]
        exact hconcluded r result f hc
    | unnoticed r result isTold e notice =>
      obtain ⟨n, hn, -⟩ := Session.notice_spec (s := (l.concluded v o).session) (hresolver ▸ hr) r
      cases notice.symm.trans hn
    | noticed r result isTold n notice =>
      obtain ⟨n', hn, hnews, hall⟩ :=
        Session.notice_spec (s := (l.concluded v o).session) (hresolver ▸ hr) r
      obtain rfl := Except.ok.inj (notice.symm.trans hn)
      rw [hresolver] at hall
      refine ⟨.done (.validation r), PutTo.of_extends ?_
        (hbegun.trans (calm_notify _ n).quiet.extends) ht⟩
      have hlength := (tells_notify hnews).resolver.length_le
      rw [hresolver] at hlength
      refine putTo_finish (fun id hid => ⟨o, hcarries.outcome id o hid, fun f hof =>
        ⟨hcause r result f hof, fun _ => ?_⟩⟩) (fun v' f hv hc => ?_) (by simp)
      · obtain ⟨hlt, htype⟩ := hconcluded r result f (hcause r result f hof)
        rw [session_finish]
        refine hasTold_notify hnews ?_
        rw [hresolver]
        exact hall f (hcause r result f hof) hlt htype
      · obtain rfl := TaskResult.validation.inj hv
        obtain ⟨hlt, htype⟩ := hconcluded r result f hc
        exact ⟨Nat.lt_of_lt_of_le hlt hlength, htype⟩

theorem extends_asking (l : Loop) (root : String) : Extends l (l.asking root) := by
  simp only [asking]
  split <;> exact .refl l

/-- A task that asks for the module of a workspace owes the attempt whose outcome it awaits. -/
theorem await_putTo (hr : l.session.resolver.Records) (ht : t < l.tasks.length) (root : String)
    {k : Continuation} (hk : k.Fits job) :
    ∃ s, PutTo (· = l.attemptAsked root) t job l (l.await t root k) s := by
  have hasks := extends_asking l root
  have hrecords := (silent_asking l root).resolver.records hr
  obtain ⟨o, ho, hawait⟩ | hawait := await_cases hr.refusal t root k
  · obtain ⟨s, hs⟩ := proceed_putTo hrecords (t := t) (Nat.lt_of_lt_of_le ht hasks.length_le) hk
      (o := o) fun f hof => hrecords.failed (l.attemptAsked root) f (hof ▸ ho)
    rw [hawait]
    exact ⟨s, (hs.weaken fun id hid => by rw [hid, ho]).of_extends hasks ht⟩
  · rw [hawait]
    have hput : PutTo (· = l.attemptAsked root) t job (l.asking root)
        { (l.asking root).setStage t (.resolving (l.attemptAsked root) k) with
          waiting := l.waiting ++ [(l.attemptAsked root, t)] }
        (.resolving (l.attemptAsked root) k) :=
      ⟨.refl _, fun id hid => hid.symm, by simp, by simp⟩
    exact ⟨_, hput.of_extends hasks ht⟩

theorem beginValidation_putTo (hr : l.session.resolver.Records) (ht : t < l.tasks.length)
    (d : Document) {told : Bool} (hjob : job.IsValidation) (htold : told = true ↔ job.Tells) :
    ∃ s, PutTo (fun id => ∃ root, l.validationRoot? d = some root ∧ id = l.attemptAsked root) t job
      l (l.beginValidation t d told) s := by
  simp only [beginValidation, validationRoot?]
  have hcases := l.session.begin_cases l.host d
  generalize l.session.begin l.host d = begun at hcases ⊢
  cases hcases with
  | refused e uri =>
    exact ⟨_, (putTo_raise { l with session := (l.session.bump d.uri).1 } t job _ e).of_extends
      (.refl l) ht⟩
  | skipped h' uri =>
    refine ⟨_, (putTo_finish ?_ (fun v f hv hc => ?_) ?_ : PutTo _ t job
      { l with session := (l.session.bump d.uri).1, host := h' } _ _).of_extends (.refl l) ht⟩
    · simp
    · obtain rfl := TaskResult.validation.inj hv
      simp [ValidationResult.plain] at hc
    · simp
  | waits path uri =>
    obtain ⟨s, hs⟩ := await_putTo (l := { l with session := (l.session.bump d.uri).1 }) hr ht
      (l.session.workspace?.getD path.parent.toString) (k := .conclude ⟨d,
        l.session.number d.uri + 1, path.toString,
        l.session.workspace?.getD path.parent.toString⟩ told) ⟨hjob, htold⟩
    refine ⟨s, (hs.weaken ?_).of_extends (.refl l) ht⟩
    rintro id ⟨root, hroot, rfl⟩
    obtain rfl := Option.some.inj hroot
    rfl

theorem beginMany_putTo (ht : t < l.tasks.length) (hchildren : ∀ c, l.listener? c ≠ some (.task t))
    (documents : List Document) (job : Job) :
    ∃ s, PutTo (fun _ => False) t job l (l.beginMany t documents) s := by
  have he : Extends l (l.spawnAll (.task t) (documents.map .validate)).1 :=
    (quiet_spawnAll _ _ _).extends
  simp only [beginMany]
  split
  · refine ⟨.done (.validations []), (he.setStage ht _).trans (calm_finish _ _ _).quiet.extends,
      by simp, by simp, fun rs c r f _ hc => absurd hc (hchildren c)⟩
  · exact ⟨_, he.setStage ht _, by simp, by simp, by simp⟩

theorem beginAll_putTo (ht : t < l.tasks.length) (hchildren : ∀ c, l.listener? c ≠ some (.task t))
    (job : Job) : ∃ s, PutTo (fun _ => False) t job l (l.beginAll t) s := by
  simp only [beginAll]
  split
  · exact ⟨_, putTo_raise l t job _ _⟩
  · exact beginMany_putTo ht hchildren _ job

theorem beginAnew_putTo (ht : t < l.tasks.length) (hchildren : ∀ c, l.listener? c ≠ some (.task t))
    (job : Job) : ∃ s, PutTo (fun _ => False) t job l (l.beginAnew t) s := by
  obtain ⟨s, hs⟩ := beginAll_putTo (l := { l with session := l.session.forgetAttempts l.host }) ht
    hchildren job
  exact ⟨s, hs.of_extends (.refl l) ht⟩

theorem beginRetry_putTo (ht : t < l.tasks.length) (hchildren : ∀ c, l.listener? c ≠ some (.task t))
    (job : Job) : ∃ s, PutTo (fun _ => False) t job l (l.beginRetry t) s := by
  obtain ⟨s, hs⟩ := beginAnew_putTo
    (l := { l with host := l.host.note .info "Retrying module resolution" }) ht hchildren job
  exact ⟨s, hs.of_extends (.refl l) ht⟩

/-- A task that begins owes the attempt that it awaits, if it awaits one. -/
theorem begin_putTo (hr : l.session.resolver.Records) (ht : t < l.tasks.length)
    (hchildren : ∀ c, l.listener? c ≠ some (.task t)) (job : Job) :
    ∃ s, PutTo (fun id => ∃ root, l.rootFor? job = some root ∧ id = l.attemptAsked root) t job
      l (l.begin t job) s := by
  cases job with
  | resolve root =>
    obtain ⟨s, hs⟩ := await_putTo hr ht root (k := .answer) ⟨root, rfl⟩
    refine ⟨s, hs.weaken ?_⟩
    rintro id ⟨root', hroot, rfl⟩
    obtain rfl := Option.some.inj hroot
    rfl
  | warmUp =>
    simp only [begin, rootFor?]
    split
    · rename_i hnone
      exact ⟨_, putTo_finish (by simp [hnone]) (by simp) (by simp)⟩
    · rename_i root hroot
      obtain ⟨s, hs⟩ := await_putTo hr ht root (k := .warmUp) rfl
      refine ⟨s, hs.weaken ?_⟩
      rintro id ⟨root', hroot', rfl⟩
      obtain rfl := Option.some.inj (hroot.symm.trans hroot')
      rfl
  | validate d =>
    exact beginValidation_putTo hr ht d trivial (by simp [Job.Tells])
  | validateSingle d =>
    exact beginValidation_putTo hr ht d trivial (by simp [Job.Tells])
  | validateOpen uri =>
    cases hfetched : l.documents.fetch l.host.files uri with
    | error e =>
      simp only [begin, rootFor?, hfetched]
      exact ⟨_, putTo_raise l t _ _ _⟩
    | ok d =>
      simp only [begin, rootFor?, hfetched]
      exact beginValidation_putTo hr ht d trivial (by simp [Job.Tells])
  | validateMany documents =>
    cases documents with
    | none =>
      obtain ⟨s, hs⟩ := beginAll_putTo ht hchildren (.validateMany none)
      exact ⟨s, hs.weaken (by simp [rootFor?])⟩
    | some documents =>
      obtain ⟨s, hs⟩ := beginMany_putTo ht hchildren documents (.validateMany documents)
      exact ⟨s, hs.weaken (by simp [rootFor?])⟩
  | filesChanged =>
    obtain ⟨s, hs⟩ := beginAnew_putTo ht hchildren .filesChanged
    exact ⟨s, hs.weaken (by simp [rootFor?])⟩
  | watchedFilesChanged count =>
    obtain ⟨s, hs⟩ := beginAnew_putTo
      (l := { l with host := l.host.note .debug s!"{count} watched file(s) changed" }) ht hchildren
      (.watchedFilesChanged count)
    exact ⟨s, (hs.of_extends (.refl l) ht).weaken (by simp [rootFor?])⟩
  | retry =>
    obtain ⟨s, hs⟩ := beginRetry_putTo ht hchildren .retry
    exact ⟨s, hs.weaken (by simp [rootFor?])⟩
  | updateSettings payload =>
    simp only [begin]
    split
    · rename_i e host _
      exact ⟨_, ((putTo_raise { l with host := host } t (.updateSettings payload) _ e).of_extends
        (.refl l) ht)⟩
    · rename_i session host _
      obtain ⟨s, hs⟩ := beginAll_putTo (l := { l with session := session, host := host }) ht
        hchildren (.updateSettings payload)
      exact ⟨s, (hs.of_extends (.refl l) ht).weaken (by simp [rootFor?])⟩
  | question message =>
    exact ⟨.asking l.requests, .refl _, by simp [rootFor?], by simp, by simp⟩

/-! ### Steps -/

/-- A batch that has taken in all reports tells of all failures in them. -/
theorem Keeps.concludeBatch_putTo (h : Keeps ws l) (ht : l.tasks[t]? = some task)
    {children : List Nat} (hs : task.stage = .gathered children none) (job : Job) :
    ∃ s, PutTo (fun _ => False) t job l (l.concludeBatch t children) s := by
  have hlt := (List.getElem?_eq_some_iff.mp ht).1
  have hall := h.gathers.gathered t children (by rw [stage?_of_task ht, hs])
  obtain ⟨told, htold, hnews, hspec⟩ :=
    Session.notices_spec h.records (children.filterMap l.validation?)
  simp only [concludeBatch, htold]
  have hcalm := (calm_announce l told (told.foldl (fun b n => b.add n.2.1 (.bool n.2.2))
    ErrorBatch.empty).announcements).quiet.extends
  refine ⟨.done (.validations (children.filterMap l.validation?)),
    (hcalm.setStage hlt _).trans (calm_finish _ _ _).quiet.extends, by simp, by simp, ?_⟩
  intro rs c r f _ hc hr hf
  obtain ⟨hlength, htype⟩ := h.causes c r f hr hf
  have hresult : r ∈ children.filterMap l.validation? :=
    List.mem_filterMap.mpr ⟨c, (hall c hc).1, validation?_eq_some.mpr hr⟩
  rw [session_finish, (adds_announce _ _).2]
  exact Session.hasTold_markNotices hnews (hspec r hresult f hf hlength htype)

/-- A task is put into another place, where it owes what it owed and what it has asked for. -/
def Moves (t : Nat) (asked : Option (Nat × Nat)) (l l' : Loop) : Prop :=
  ∃ task s ids, l.tasks[t]? = some task ∧ task.stage.isOver = false ∧
    PutTo ids t task.job l l' s ∧ (∀ id, l.Owes task.job id task.stage → ids id) ∧
    ∀ t' id, asked = some (t', id) → t' = t ∧ ids id

theorem PutTo.moves (h : PutTo ids t task.job l l' s) (ht : l.tasks[t]? = some task)
    (hopen : task.stage.isOver = false) (hids : ∀ id, l.Owes task.job id task.stage → ids id) :
    Moves t none l l' :=
  ⟨task, s, ids, ht, hopen, h, hids, by simp⟩

theorem Moves.of_extends {w : Option (Nat × Nat)} (h : Moves t w l' l'')
    (tasks : l'.tasks = l.tasks) (resolver : l'.session.resolver = l.session.resolver) :
    Moves t w l l'' := by
  obtain ⟨task, s, ids, ht, hopen, hput, hids, hw⟩ := h
  have he : Extends l l' := ⟨[], by simp [tasks]⟩
  rw [tasks] at ht
  refine ⟨task, s, ids, ht, hopen,
    hput.of_extends he (List.getElem?_eq_some_iff.mp ht).1, fun id ho => hids id (ho.mono ?_), hw⟩
  rw [resolver]
  exact (Resolver.Hushes.refl _).carries

theorem Keeps.moved {w : Option (Nat × Nat)} (h : Keeps ws l) (hm : Moves t w l l')
    (hg : Gathers none l') (hc : l.session.resolver.Carries l'.session.resolver) :
    Keeps (ws ++ w.toList) l' := by
  obtain ⟨task, s, ids, ht, hopen, hput, hids, hw⟩ := hm
  refine (h.putTo ht hopen hput hids hg hc).add fun t' id hw' => ?_
  obtain ⟨rfl, hid⟩ := hw t' id hw'
  exact ⟨_, hput.tasks.task? (task?_setStage_self ht s), hput.owes id hid⟩

theorem moves_begin (hr : l.session.resolver.Records) {a : Listener}
    (ht : l.tasks[t]? = some ⟨job, a, .ready⟩) (hchildren : ∀ c, l.listener? c ≠ some (.task t)) :
    Moves t (l.awaitedBy? (t, job)) l (l.begin t job) := by
  obtain ⟨s, hput⟩ := begin_putTo hr (List.getElem?_eq_some_iff.mp ht).1 hchildren job
  refine ⟨_, s, _, ht, rfl, hput, fun _ ho => ho.elim, fun t' id hw => ?_⟩
  obtain ⟨root, hroot, heq⟩ := Option.map_eq_some_iff.mp hw
  obtain ⟨rfl, rfl⟩ := Prod.mk.inj heq
  exact ⟨rfl, root, hroot, rfl⟩

theorem Keeps.moves_resume (h : Keeps ws l) (t : Nat) :
    l.resume t = l ∨ Moves t none l (l.resume t) := by
  simp only [resume]
  cases hs : l.stage? t with
  | none => exact .inl rfl
  | some s =>
    obtain ⟨task, ht, rfl⟩ := Option.map_eq_some_iff.mp hs
    have hlt := (List.getElem?_eq_some_iff.mp ht).1
    have hchildren := fun hp => h.gathers.childless ht hp
    have hfits := h.gathers.fits t task ht
    cases hstage : task.stage with
    | resolving id k =>
      rw [hstage] at hfits
      dsimp only
      split
      · rename_i o ho
        obtain ⟨s, hput⟩ := proceed_putTo h.records hlt hfits (o := o) fun f hof =>
          h.records.failed id f (hof ▸ ho)
        refine .inr (hput.moves ht (by rw [hstage]; rfl) fun id' howes => ?_)
        rw [hstage] at howes
        obtain rfl : id = id' := howes
        exact ho
      · exact .inl rfl
    | gathered children fault? =>
      have howes : ∀ id, ¬ l.Owes task.job id (.gathered children fault?) := fun _ => id
      cases fault? with
      | none =>
        obtain ⟨s, hput⟩ := h.concludeBatch_putTo ht hstage task.job
        exact .inr (hput.moves ht (by rw [hstage]; rfl) fun id hid => howes id (hstage ▸ hid))
      | some e =>
        exact .inr ((putTo_raise l t _ _ e).moves ht (by rw [hstage]; rfl) fun _ ho => ho)
    | answered again =>
      have howes : ∀ id, ¬ l.Owes task.job id (.answered again) := fun _ => id
      dsimp only
      split
      · obtain ⟨s, hput⟩ := beginRetry_putTo hlt (hchildren (by simp [hstage, Stage.IsParent]))
          task.job
        exact .inr (hput.moves ht (by rw [hstage]; rfl) fun id hid => howes id (hstage ▸ hid))
      · have hput : PutTo (fun _ => False) t task.job l (l.finish t .nothing) (.done .nothing) :=
          putTo_finish (by simp) (by simp) (by simp)
        exact .inr (hput.moves ht (by rw [hstage]; rfl) fun id hid => howes id (hstage ▸ hid))
    | leaving =>
      have hput : PutTo (fun _ => True) t task.job l (l.setStage t .cancelled) .cancelled :=
        ⟨.refl _, fun _ _ => trivial, by simp, by simp⟩
      exact .inr (hput.moves ht (by rw [hstage]; rfl) fun _ _ => trivial)
    | _ => exact .inl rfl

/-- A task that owes nothing goes on to a place that is not an end. -/
theorem moves_setStage (ht : l.tasks[t]? = some task) (hopen : task.stage.isOver = false)
    (howes : ∀ id, ¬ l.Owes task.job id task.stage) (hs : s.isDone = false)
    (he : Extends (l.setStage t s) l') : Moves t none l l' := by
  have hput : PutTo (fun _ => False) t task.job l l' s := by
    refine ⟨he, by simp, ?_, ?_⟩
    · rintro r f rfl
      simp [Stage.isDone] at hs
    · rintro rs c r f rfl
      simp [Stage.isDone] at hs
  exact hput.moves ht hopen howes

theorem moves_takeReport (l : Loop) (p c : Nat) :
    l.takeReport p c = l ∨ Moves p none l (l.takeReport p c) := by
  simp only [takeReport]
  split
  · rename_i children missing hs
    obtain ⟨task, ht, hstage⟩ := Option.map_eq_some_iff.mp hs
    have hopen : task.stage.isOver = false := by
      rw [hstage]
      rfl
    have howes : ∀ id, ¬ l.Owes task.job id task.stage := by
      rw [hstage]
      exact fun _ => id
    have hwakes : ∀ l' : Loop, Extends l' (l'.enqueue (.wake p)) := .refl
    split
    · exact .inr (moves_setStage ht hopen howes (s := .gathered children _) rfl (hwakes _))
    · split
      · exact .inr (moves_setStage ht hopen howes (s := .gathered children none) rfl (hwakes _))
      · exact .inr (moves_setStage ht hopen howes rfl (.refl _))
  · exact .inl rfl

theorem moves_answer (l : Loop) (request : Nat) (again : Bool) :
    l.answer request again = l ∨ ∃ t, Moves t none l (l.answer request again) := by
  refine (l.answer_cases request again).imp_right ?_
  rintro ⟨t, task, ht, hstage, hanswer⟩
  rw [hanswer]
  refine ⟨t, moves_setStage ht (by rw [hstage]; rfl) ?_ (s := .answered again) rfl (.refl _)⟩
  rw [hstage]
  exact fun _ => id

theorem moves_cancel (l : Loop) (t : Nat) :
    l.cancel t = l ∨ Moves t none l (l.cancel t) := by
  refine (l.cancel_cases t).imp_right ?_
  rintro ⟨task, ht, hopen, hcancel⟩
  have hput : PutTo (fun _ => True) t task.job l (Loop.enqueue { l.setStage t .leaving with
      waiting := l.waiting.filter fun p => p.2 != t } (.wake t)) .leaving :=
    ⟨.refl _, fun _ _ => trivial, by simp, by simp⟩
  rw [hcancel]
  exact hput.moves ht hopen fun _ _ => trivial

/-- In a turn tasks are added, or the one that the turn is about is put into another place. -/
theorem Keeps.moves_take (turn : Turn) (h : turn.isReport = false → Keeps ws l) :
    Extends l (l.take turn) ∧ l.startedBy? turn = none ∨
      ∃ t, turnTask? turn = some t ∧
        Moves t ((l.startedBy? turn).bind l.awaitedBy?) l (l.take turn) := by
  have hstays : ∀ {l' : Loop} {t : Nat}, l' = l ∨ Moves t none l l' →
      Extends l l' ∨ Moves t none l l' :=
    fun h => h.imp_left fun h => by rw [h]; exact .refl l
  cases turn with
  | start t =>
    cases ht : l.tasks[t]? with
    | none =>
      simp only [take, startedBy?, ht]
      exact .inl ⟨.refl l, trivial⟩
    | some task =>
      obtain ⟨job, a, stage⟩ := task
      cases stage with
      | ready =>
        simp only [take, startedBy?, ht]
        exact .inr ⟨t, rfl, moves_begin (h rfl).records ht ((h rfl).gathers.childless ht id)⟩
      | _ =>
        simp only [take, startedBy?, ht]
        exact .inl ⟨.refl l, trivial⟩
  | attempt id => exact .inl ⟨(quiet_runAttempt l id).extends, rfl⟩
  | rest id => exact .inl ⟨.refl l, rfl⟩
  | relay t => exact .inl ⟨.refl l, rfl⟩
  | wake t => exact (hstays ((h rfl).moves_resume t)).imp (fun he => ⟨he, rfl⟩) fun hm => ⟨t, rfl, hm⟩
  | report p c =>
    exact (hstays (moves_takeReport l p c)).imp (fun he => ⟨he, rfl⟩) fun hm => ⟨p, rfl, hm⟩
  | complain t =>
    refine .inl ⟨?_, rfl⟩
    simp only [take]
    split <;> exact .refl l
  | pause => exact .inl ⟨.refl l, rfl⟩

/-- A turn that is no longer asked for, but that of a report, leaves all as it is. -/
theorem Keeps.drop (h : Keeps ws l) {queue : List Turn} {turn : Turn}
    (hqueue : l.queue.Perm (turn :: queue)) (hplain : turn.isReport = false) :
    Keeps ws { l with queue := queue } :=
  h.extends (.refl l) (Gathers.drop (l := { l with queue := queue }) h.gathers hqueue hplain)
    (Resolver.Hushes.refl _).carries

theorem Keeps.ownAct (h : Keeps ws l) (a : Act) :
    Keeps (ws ++ (l.awaits? a).toList) (l.ownAct a) := by
  have hg : Gathers none (l.ownAct a) := h.gathers.act _
  have hc := (calls_toldIn h.records a).2
  have hstill : Extends l (l.ownAct a) → l.awaits? a = none →
      Keeps (ws ++ (l.awaits? a).toList) (l.ownAct a) := by
    intro he hnone
    rw [hnone]
    exact (h.extends he hg hc).mono (by simp)
  have hsame : l.ownAct a = l → l.awaits? a = none →
      Keeps (ws ++ (l.awaits? a).toList) (l.ownAct a) :=
    fun heq => hstill (by rw [heq]; exact .refl l)
  cases a with
  | turn i =>
    cases hturn : l.queue[i]? with
    | none =>
      exact hsame (by simp only [Loop.ownAct, Act.own, act, hturn])
        (by simp [awaits?, begins?, hturn])
    | some turn =>
      obtain ⟨hlt, rfl⟩ := List.getElem?_eq_some_iff.mp hturn
      have htake : l.ownAct (.turn i) =
          ({ l with queue := l.queue.eraseIdx i } : Loop).take l.queue[i] := by
        simp only [Loop.ownAct, Act.own, act, hturn]
      have hawaits : l.awaits? (.turn i) = (l.startedBy? l.queue[i]).bind l.awaitedBy? := by
        simp [awaits?, begins?, hturn]
      obtain ⟨he, hnone⟩ | ⟨t, -, hm⟩ := Keeps.moves_take l.queue[i]
        (h.drop (List.getElem_cons_eraseIdx_perm hlt).symm)
      · refine hstill (htake ▸ he) ?_
        rw [hawaits, show l.startedBy? l.queue[i] = none from hnone]
        rfl
      · rw [← htake] at hm
        have hroots : ({ l with queue := l.queue.eraseIdx i } : Loop).awaitedBy? =
            l.awaitedBy? := awaitedBy?_congr rfl rfl rfl
        rw [hroots] at hm
        rw [hawaits]
        exact h.moved (hm.of_extends rfl rfl) hg hc
  | spawn job told => exact hstill (quiet_spawn l _ _).extends rfl
  | begin job =>
    have hadded : Keeps ws (l.addTask job .nobody).1 :=
      h.extends (quiet_addTask l job .nobody).extends
        (h.gathers.idle (idle_addTask l job .nobody (by simp))) (Resolver.Hushes.refl _).carries
    have ht : (l.addTask job .nobody).1.tasks[l.tasks.length]? = some ⟨job, .nobody, .ready⟩ := by
      simp [addTask]
    have hm := moves_begin hadded.records ht (hadded.gathers.childless ht id)
    have hroots : (l.addTask job .nobody).1.awaitedBy? = l.awaitedBy? :=
      awaitedBy?_congr rfl rfl rfl
    rw [hroots] at hm
    exact hadded.moved hm hg hc
  | answer request again =>
    obtain heq | ⟨t, hm⟩ := l.moves_answer request again
    · exact hsame heq rfl
    · exact h.moved hm hg hc
  | cancel t =>
    obtain heq | hm := l.moves_cancel t
    · exact hsame heq rfl
    · exact h.moved hm hg hc
  | _ => exact hstill (.refl l) rfl

theorem Keeps.ownAfter (h : Keeps ws l) (acts : List Act) :
    Keeps (ws ++ l.awaited acts) (l.ownAfter acts) := by
  induction acts generalizing ws l with
  | nil => simpa [Loop.awaited, Loop.ownAfter] using h
  | cons a acts ih =>
    have hrest := ih (h.ownAct a)
    rwa [List.append_assoc] at hrest

/-! ### A run -/

/-- The failure with which an attempt ended. -/
def failureOf (l : Loop) (id : Nat) : Option Failure :=
  match l.session.resolver.outcome? id with
  | some (.failed f) => l.session.resolver.failure? f
  | _ => none

/-- Has the user been told of the failure of an attempt? -/
def isTold (l : Loop) (id : Nat) : Bool :=
  (l.failureOf id).any Failure.surfaced

/-- Is the user told of the failure of an attempt in a step? -/
def tellsOf (l : Loop) (a : Act) (id : Nat) : Bool :=
  !l.isTold id && (l.ownAct a).isTold id

/-- In how many steps of a run the user is told of the failure of an attempt. -/
def tellings (l : Loop) (id : Nat) : List Act → Nat
  | [] => 0
  | a :: acts => (l.tellsOf a id).toNat + tellings (l.ownAct a) id acts

theorem failureOf_eq_some {x : Failure} : l.failureOf id = some x ↔
    ∃ f, l.session.resolver.outcome? id = some (.failed f) ∧
      l.session.resolver.failure? f = some x := by
  simp only [failureOf]
  split
  · rename_i f ho
    simp [ho]
  · rename_i hnone
    refine ⟨by simp, ?_⟩
    rintro ⟨f, ho, -⟩
    exact absurd ho (hnone f)

theorem isTold_iff : l.isTold id = true ↔
    ∃ f, l.session.resolver.outcome? id = some (.failed f) ∧ l.session.resolver.HasTold f := by
  simp only [isTold, Option.any_eq_true, failureOf_eq_some, Resolver.HasTold]
  constructor
  · rintro ⟨x, ⟨f, ho, hx⟩, hs⟩
    exact ⟨f, ho, x, hx, hs⟩
  · rintro ⟨f, ho, x, hx, hs⟩
    exact ⟨x, ⟨f, ho, hx⟩, hs⟩

theorem isTold_mono (hc : l.session.resolver.Carries l'.session.resolver)
    (h : l.isTold id = true) : l'.isTold id = true := by
  rw [isTold_iff] at h ⊢
  obtain ⟨f, ho, hf⟩ := h
  exact ⟨f, hc.outcome id _ ho, hc.hasTold hf⟩

/-- The user is told of a failure in one step of a run if it has been told at its end, and else in
none. -/
theorem tellings_eq (hr : l.session.resolver.Records) (id : Nat) (acts : List Act) :
    (l.isTold id).toNat + l.tellings id acts = ((l.ownAfter acts).isTold id).toNat := by
  induction acts generalizing l with
  | nil => rfl
  | cons a acts ih =>
    have hc := (calls_toldIn hr a).2
    have hrest : ((l.ownAct a).isTold id).toNat + (l.ownAct a).tellings id acts =
        ((l.ownAfter (a :: acts)).isTold id).toNat := ih (hc.records hr)
    have hstep : (l.isTold id).toNat + (l.tellsOf a id).toNat =
        ((l.ownAct a).isTold id).toNat := by
      cases htold : l.isTold id with
      | false => simp [tellsOf, htold]
      | true => simp [tellsOf, htold, isTold_mono hc htold]
    rw [tellings, ← hrest, ← hstep, Nat.add_assoc]

/-- The calls of a step are those for the attempts of whose failures it tells. -/
theorem mem_calls_iff (hr : l.session.resolver.Records) (a : Act) (c : String × Bool) :
    c ∈ l.calls a ↔ ∃ id x, l.tellsOf a id = true ∧ (l.ownAct a).failureOf id = some x ∧
      c = (x.fault.message, x.fault.retry? == some true) := by
  obtain ⟨htold, hc⟩ := calls_toldIn hr a
  have hr' := hc.records hr
  rw [htold.mem_iff]
  constructor
  · rintro ⟨f, x, hx, hs, hnot, rfl⟩
    obtain ⟨id, ho⟩ := hr'.owned f (Resolver.failure?_lt hx)
    refine ⟨id, x, ?_, failureOf_eq_some.mpr ⟨f, ho, hx⟩, ?_⟩
    · rw [tellsOf, Bool.and_eq_true, Bool.not_eq_true', isTold_iff, ← Bool.not_eq_true, isTold_iff]
      refine ⟨?_, f, ho, x, hx, hs⟩
      rintro ⟨f', ho', hf'⟩
      obtain rfl := Outcome.failed.inj (Option.some.inj ((hc.outcome id _ ho').symm.trans ho))
      exact hnot hf'
    · rw [(hr'.failures x (List.mem_of_getElem? hx)).retry]
  · rintro ⟨id, x, hstep, hfailure, rfl⟩
    rw [tellsOf, Bool.and_eq_true, Bool.not_eq_true', isTold_iff, ← Bool.not_eq_true, isTold_iff]
      at hstep
    obtain ⟨hnot, f, ho, x', hx', hs⟩ := hstep
    obtain ⟨f', ho', hx⟩ := failureOf_eq_some.mp hfailure
    obtain rfl := Outcome.failed.inj (Option.some.inj (ho.symm.trans ho'))
    obtain rfl := Option.some.inj (hx.symm.trans hx')
    refine ⟨f, x, hx, hs, fun hf => hnot ?_, ?_⟩
    · obtain ⟨x', hx', hs'⟩ := hf
      obtain ⟨id', hid'⟩ := hr.owned f (Resolver.failure?_lt hx')
      obtain rfl := hr'.unique id' id f (hc.outcome id' _ hid') ho
      exact ⟨f, hid', x', hx', hs'⟩
    · rw [(hr'.failures x (List.mem_of_getElem? hx)).retry]

theorem keeps_fresh (host : Host) (root : Option String) (settings : Settings)
    (name entry : String) (path : Option String) (fallback : Bool) (documents : DocumentSource)
    (asks : Bool) : Keeps [] (fresh host
      (.fresh root settings (.fresh name entry path fallback)) documents asks) where
  gathers := gathers_fresh _ _ _ _
  records := Resolver.records_fresh name entry path fallback
  awaited := by simp
  causes t r f hr := by simp [result?, stage?, fresh] at hr
  batches p rs c r f hp := by simp [result?, stage?, fresh] at hp

/-- Whoever awaited an attempt that failed, itself or through a validation that it started, has told
the user if it tells at all and has come to an end. -/
theorem Keeps.isTold (h : Keeps ws l) {o f : Nat} (hw : (t, id) ∈ ws)
    (hf : l.session.resolver.outcome? id = some (.failed f))
    (ho : o = t ∨ l.listener? t = some (.task o)) (htask : l.tasks[o]? = some task)
    (hjob : task.job.IsOperation) {r : TaskResult} (hr : task.stage = .done r)
    (hraised : ∀ e, r ≠ .raised e) : l.session.resolver.HasTold f := by
  obtain ⟨waiter, hwaiter, howes⟩ := h.awaited t id hw
  have hfits := h.gathers.fits o task htask
  rw [hr] at hfits
  obtain rfl | hlistener := ho
  · obtain rfl := Option.some.inj (htask.symm.trans hwaiter)
    rw [hr] at howes
    cases r with
    | nothing =>
      obtain ⟨o', ho', hall⟩ := howes
      obtain rfl := Option.some.inj (hf.symm.trans ho')
      exact hall f rfl
    | validation v =>
      obtain ⟨o', ho', hall⟩ := howes
      obtain rfl := Option.some.inj (hf.symm.trans ho')
      refine (hall f rfl).2 ?_
      cases hj : task.job <;> simp_all [Stage.Fits, TaskResult.Fits, Job.IsValidation, Job.Tells,
        Job.IsOperation]
    | outcome o' =>
      obtain ⟨root, hj⟩ := hfits
      rw [hj] at hjob
      exact hjob.elim
    | validations rs => exact howes.elim
    | raised e => exact absurd rfl (hraised e)
  · obtain ⟨waiter', hwaiter', hl⟩ := Option.map_eq_some_iff.mp hlistener
    obtain ⟨-, hstands⟩ := h.gathers.child t waiter' o hwaiter' hl
    obtain ⟨s, hs, hparent⟩ := hstands (by simp)
    obtain rfl := Option.some.inj ((stage?_of_task htask).symm.trans hs)
    rw [hr] at hparent
    cases r with
    | validations rs =>
      have hbatch : l.result? o = some (.validations rs) := by
        rw [result?_eq_some, stage?_of_task htask, hr]
      obtain ⟨v, hv⟩ := h.gathers.ended o rs hbatch t hlistener
      have hstage := result?_eq_some.mp hv
      rw [stage?_of_task hwaiter] at hstage
      rw [Option.some.inj hstage] at howes
      obtain ⟨o', ho', hall⟩ := howes
      obtain rfl := Option.some.inj (hf.symm.trans ho')
      exact h.batches o rs t v f hbatch hlistener hv (hall f rfl).1
    | raised e => exact absurd rfl (hraised e)
    | _ => exact hparent.elim

/-- In any run of a session every attempt that fails is told once: in every step the session makes
one call for each text among the failures that it tells, with the text and whether the user may try
again, and no other call; the failure of an attempt is told in at most one step, and it has been
told once a single validation, a batch or a warm-up that awaited it has returned. -/
theorem failure_is_told_once (host : Host) (root : Option String) (settings : Settings)
    (name entry : String) (path : Option String) (fallback : Bool) (documents : DocumentSource)
    (asks : Bool) (acts : List Act) :
    let start := fresh host (.fresh root settings (.fresh name entry path fallback)) documents asks
    let l := start.ownAfter acts
    (∀ a, ((l.calls a).map Prod.fst).Nodup ∧ ∀ c, c ∈ l.calls a ↔
      ∃ id x, l.tellsOf a id = true ∧ (l.ownAct a).failureOf id = some x ∧
        c = (x.fault.message, x.fault.retry? == some true)) ∧
    (∀ id, start.tellings id acts = (l.isTold id).toNat) ∧
    ∀ t id o task r, (t, id) ∈ start.awaited acts → l.failureOf id ≠ none →
      o = t ∨ l.listener? t = some (.task o) → l.tasks[o]? = some task →
      task.job.IsOperation → task.stage = .done r → (∀ e, r ≠ .raised e) →
      l.isTold id = true := by
  intro start l
  have hstart : Keeps [] start := keeps_fresh host root settings name entry path fallback documents
    asks
  have hend : Keeps (start.awaited acts) l := hstart.ownAfter acts
  refine ⟨fun a => ⟨(calls_toldIn hend.records a).1.nodup, mem_calls_iff hend.records a⟩,
    fun id => ?_, fun t id o task r hw hfailed ho htask hjob hr hraised => ?_⟩
  · have htold := tellings_eq hstart.records id acts
    have hnone : start.isTold id = false := rfl
    rwa [hnone, Bool.toNat_false, Nat.zero_add] at htold
  · obtain ⟨x, hx⟩ := Option.ne_none_iff_exists'.mp hfailed
    obtain ⟨f, hf, -⟩ := failureOf_eq_some.mp hx
    exact isTold_iff.mpr ⟨f, hf, hend.isTold hw hf ho htask hjob hr hraised⟩

end LintBridge.Loop
