import LintBridge.Proofs.Loop.Course

/-! Every turn follows the course: one lemma for each function that a turn is made of. -/

namespace LintBridge

/-- A validation that ends well is no news. -/
theorem Session.notice_of_ok {s s' : Session} {h : Host} {v : Validation} {o : Outcome}
    {r : ValidationResult} (hr : (s.conclude h v o).1 = .ok r) (hok : r.status = .ok) :
    s'.notice r = .ok none := by
  have hcases := s.conclude_cases h v o
  generalize s.conclude h v o = x at hcases hr
  cases hcases with
  | stale h' old =>
    obtain rfl := Except.ok.inj hr
    rfl
  | silent r h' status uri =>
    obtain rfl := Except.ok.inj hr
    obtain hs | hs := status <;> rw [hs] at hok <;> simp at hok
  | untold m present current e flaw fault shown => cases hr
  | published m present current whole =>
    obtain rfl := Except.ok.inj hr
    rfl

/-- Is a stage one of a task without a validation under way, and without a good result of one? -/
def Stage.IsPlain : Stage → Prop
  | .ready => False
  | .resolving _ (.conclude _ _) => False
  | .done (.validation r) => r.status ≠ .ok
  | _ => True

namespace Loop

/-- The loop, gone on from `l₀`, follows some course gone on from `c₀`. -/
def Traced (c₀ : Course) (l₀ : Loop) (hand : Hand) (l : Loop) : Prop :=
  ∃ c, Follows c₀ l₀ hand l c

/-- Who is in hand when a task goes on. -/
def Hand.ofContinuation (t : Nat) : Continuation → Hand
  | .conclude v _ => .waits t v
  | _ => .free

theorem Hand.task?_ofContinuation (t : Nat) (k : Continuation) :
    (ofContinuation t k).task? = none ∨ (ofContinuation t k).task? = some t := by
  cases k with
  | answer => exact .inl rfl
  | warmUp => exact .inl rfl
  | conclude v told => exact .inr rfl

variable {c₀ : Course} {l₀ : Loop} {hand : Hand} {l l' : Loop} {t : Nat}

theorem Traced.quiet (h : Traced c₀ l₀ hand l) (hq : Quiet l l') : Traced c₀ l₀ hand l' := by
  obtain ⟨c, hc⟩ := h
  exact ⟨_, hc.quiet hq⟩

/-- A task that has no validation in hand is put into a plain place. -/
theorem Traced.stop (h : Traced c₀ l₀ hand l) (ht : l.IsOpen t)
    (hhand : hand = .free ∨ hand = .begun t) {s : Stage} (hs : s.IsPlain) :
    Traced c₀ l₀ .free (l.setStage t s) := by
  obtain ⟨c, hc⟩ := h
  refine ⟨c, hc.put ht ?_ ?_ ?_ ?_ ?_⟩
  · obtain rfl | rfl := hhand
    · exact .inl rfl
    · exact .inr rfl
  · rintro rfl
    exact hs
  · rintro id v told rfl
    exact hs.elim
  · rintro r rfl hok
    exact absurd hok hs
  · rintro r rfl
    simp at hhand

theorem Traced.finish (h : Traced c₀ l₀ hand l) (ht : l.IsOpen t)
    (hhand : hand = .free ∨ hand = .begun t) {r : TaskResult}
    (hr : (Stage.done r).IsPlain) : Traced c₀ l₀ .free (l.finish t r) :=
  (h.stop ht hhand hr).quiet (calm_finish l t r).quiet

/-- A task whose validation has ended comes to its result, or to a fault if it did not end well. -/
theorem Traced.finish_ended {r : ValidationResult} (h : Traced c₀ l₀ (.ended t r) l)
    (ht : l.IsOpen t) {r' : TaskResult}
    (hr : r' = .validation r ∨ r.status ≠ .ok ∧ ∃ e, r' = .raised e) :
    Traced c₀ l₀ .free (l.finish t r') := by
  obtain ⟨c, hc⟩ := h
  refine Traced.quiet ⟨c, hc.put ht (.inr rfl) (by simp) (by simp) ?_ ?_⟩ (calm_finish l t r').quiet
  · intro r'' hr'' hok
    obtain rfl | ⟨-, e, rfl⟩ := hr
    · obtain rfl := TaskResult.validation.inj (Stage.done.inj hr'')
      exact hc.atHand t _ rfl hok
    · simp at hr''
  · intro r'' hr'' hok
    obtain ⟨-, rfl⟩ := Hand.ended.inj hr''
    obtain rfl | ⟨hbad, -⟩ := hr
    · rfl
    · exact absurd hok hbad

/-! ### Going on -/

theorem Traced.proceed {k : Continuation} (h : Traced c₀ l₀ (.ofContinuation t k) l)
    (ht : l.IsOpen t) (o : Outcome) : Traced c₀ l₀ .free (l.proceed t k o) := by
  cases k with
  | answer => exact h.finish ht (.inl rfl) trivial
  | warmUp =>
    simp only [Loop.proceed]
    split
    · have hq := (calm_markOutcome l o).quiet
      exact (h.quiet hq).finish (hq.isOpen ht) (.inl rfl) trivial
    · rename_i notice hn
      have hq := (calm_notify l notice).quiet
      exact (h.quiet hq).finish (hq.isOpen ht) (.inl rfl) trivial
  | conclude v told =>
    obtain ⟨c, hc⟩ := h
    have htraced : Traced c₀ l₀ _ _ := ⟨_, hc.concludes o⟩
    have hopen : (l.concluded v o).IsOpen t := ht
    have hcases := l.proceed_conclude_cases t v o told
    generalize l.proceed t (.conclude v told) o = l' at hcases ⊢
    cases hcases with
    | untold e result =>
      rw [result] at htraced
      exact htraced.finish hopen (.inr rfl) trivial
    | silent r result isTold =>
      rw [result] at htraced
      exact Traced.finish_ended htraced hopen (.inl rfl)
    | unnoticed r result isTold e notice =>
      rw [result] at htraced
      have hq := (calm_markOutcome (l.concluded v o) o).quiet
      refine (htraced.quiet hq).finish_ended (hq.isOpen hopen) (.inr ⟨fun hok => ?_, e, rfl⟩)
      exact absurd ((Session.notice_of_ok result hok).symm.trans notice) (by simp)
    | noticed r result isTold n notice =>
      rw [result] at htraced
      have hq := (calm_notify (l.concluded v o) n).quiet
      exact (htraced.quiet hq).finish_ended (hq.isOpen hopen) (.inl rfl)

theorem Traced.await {k : Continuation} (h : Traced c₀ l₀ (.ofContinuation t k) l)
    (ht : l.IsOpen t) (root : String) : Traced c₀ l₀ .free (l.await t root k) := by
  simp only [Loop.await]
  split
  · rename_i refusal hr
    have hq := quiet_resolver l (refuse l.session.resolver refusal).1 l.host
    exact (h.quiet hq).proceed (hq.isOpen ht) _
  · generalize l.session.resolver.attemptFor l.host root = x
    obtain ⟨⟨id, isNew⟩, resolver, host⟩ := x
    have hq := quiet_resolver l resolver host
    have hq' : Quiet l (if isNew = true then
        { l with session := { l.session with resolver := resolver }, host := host }.enqueue
          (.attempt id)
        else { l with session := { l.session with resolver := resolver }, host := host }) := by
      split
      · exact hq.trans (calm_enqueue _ _).quiet
      · exact hq
    dsimp only
    generalize (if isNew = true then
        { l with session := { l.session with resolver := resolver }, host := host }.enqueue
          (.attempt id)
        else { l with session := { l.session with resolver := resolver }, host := host }) = l'
      at hq' ⊢
    split
    · exact (h.quiet hq').proceed (hq'.isOpen ht) _
    · obtain ⟨c, hc⟩ := h.quiet hq'
      refine Traced.quiet ⟨c, hc.put (hq'.isOpen ht) (Hand.task?_ofContinuation t k)
        (s := .resolving id k) (by simp) ?_ (by simp) ?_⟩ (.of_tasks rfl rfl rfl)
      · intro id' v told hk
        obtain ⟨-, rfl⟩ := Stage.resolving.inj hk
        exact hc.inHand t v rfl
      · intro r hr
        cases k <;> simp [Hand.ofContinuation] at hr

/-! ### Beginning -/

theorem isOpen_of_ready (ht : l.stage? t = some .ready) : l.IsOpen t :=
  ⟨.ready, ht, rfl⟩

theorem Traced.beginValidation (h : Traced c₀ l₀ .free l) (hc₀ : c₀.Sound)
    (ht : l.stage? t = some .ready) (d : Document) (told : Bool) :
    Traced c₀ l₀ .free (l.beginValidation t d told) := by
  obtain ⟨c, hc⟩ := h
  have hb : Traced c₀ l₀ _ _ := ⟨_, hc.begin hc₀ ht d⟩
  simp only [Loop.beginValidation]
  generalize l.session.begin l.host d = x at hb ⊢
  obtain ⟨begun, session, host⟩ := x
  have hopen : ({ l with session := session, host := host } : Loop).IsOpen t :=
    isOpen_of_ready ht
  dsimp only at hb ⊢
  split
  · exact hb.finish hopen (.inr rfl) trivial
  · exact hb.finish hopen (.inr rfl) (by simp [Stage.IsPlain, ValidationResult.plain])
  · exact Traced.await hb hopen _

theorem Traced.beginMany (h : Traced c₀ l₀ .free l) (ht : l.IsOpen t)
    (documents : List Document) : Traced c₀ l₀ .free (l.beginMany t documents) := by
  have hq := quiet_spawnAll l (.task t) (documents.map .validate)
  have h' := h.quiet hq
  simp only [Loop.beginMany]
  split
  · exact h'.finish (hq.isOpen ht) (.inl rfl) trivial
  · exact h'.stop (hq.isOpen ht) (.inl rfl) trivial

theorem Traced.beginAll (h : Traced c₀ l₀ .free l) (ht : l.IsOpen t) :
    Traced c₀ l₀ .free (l.beginAll t) := by
  simp only [Loop.beginAll]
  split
  · exact h.finish ht (.inl rfl) trivial
  · exact h.beginMany ht _

theorem Traced.beginAnew (h : Traced c₀ l₀ .free l) (ht : l.IsOpen t) :
    Traced c₀ l₀ .free (l.beginAnew t) :=
  (h.quiet (quiet_resolver l _ l.host)).beginAll ht

theorem Traced.beginRetry (h : Traced c₀ l₀ .free l) (ht : l.IsOpen t) :
    Traced c₀ l₀ .free (l.beginRetry t) :=
  (h.quiet (quiet_host l _)).beginAnew ht

theorem Traced.begin (h : Traced c₀ l₀ .free l) (hc₀ : c₀.Sound)
    (ht : l.stage? t = some .ready) (job : Job) : Traced c₀ l₀ .free (l.begin t job) := by
  have ho := isOpen_of_ready ht
  cases job with
  | resolve root => exact Traced.await h ho root
  | warmUp =>
    simp only [Loop.begin]
    split
    · exact h.finish ho (.inl rfl) trivial
    · exact Traced.await h ho _
  | validate d => exact h.beginValidation hc₀ ht d false
  | validateSingle d => exact h.beginValidation hc₀ ht d true
  | validateOpen uri =>
    simp only [Loop.begin]
    split
    · exact h.finish ho (.inl rfl) trivial
    · exact h.beginValidation hc₀ ht _ true
  | validateMany documents =>
    cases documents with
    | none => exact h.beginAll ho
    | some documents => exact h.beginMany ho documents
  | filesChanged => exact h.beginAnew ho
  | watchedFilesChanged count => exact (h.quiet (quiet_host l _)).beginAnew ho
  | retry => exact h.beginRetry ho
  | updateSettings payload =>
    simp only [Loop.begin]
    split
    · rename_i e host ha
      exact (h.quiet (quiet_host l host)).finish ho (.inl rfl) (r := .raised e) trivial
    · rename_i session host ha
      obtain ⟨c, hc⟩ := h
      exact Traced.beginAll ⟨_, hc.changesSettings ha⟩ ho
  | question message =>
    have hq := (calm_ask l message).quiet
    exact (h.quiet hq).stop (hq.isOpen ho) (.inl rfl) trivial

/-! ### Turns -/

theorem Traced.concludeBatch (h : Traced c₀ l₀ .free l) (ht : l.IsOpen t)
    (children : List Nat) : Traced c₀ l₀ .free (l.concludeBatch t children) := by
  simp only [Loop.concludeBatch]
  split
  · exact h.finish ht (.inl rfl) trivial
  · rename_i told htold
    have hq := fun as => (calm_announce l told as).quiet
    exact (h.quiet (hq _)).finish ((hq _).isOpen ht) (.inl rfl) trivial

theorem Traced.takeReport (h : Traced c₀ l₀ .free l) (parent child : Nat) :
    Traced c₀ l₀ .free (l.takeReport parent child) := by
  simp only [Loop.takeReport]
  split
  · rename_i children missing hs
    have ho : l.IsOpen parent := ⟨_, hs, rfl⟩
    split
    · rename_i e he
      have hs := h.stop ho (.inl rfl) (s := .gathered children (some e)) trivial
      exact hs.quiet (calm_enqueue _ _).quiet
    · split
      · have hs := h.stop ho (.inl rfl) (s := .gathered children none) trivial
        exact hs.quiet (calm_enqueue _ _).quiet
      · exact h.stop ho (.inl rfl) trivial
  · exact h

theorem Traced.resume (h : Traced c₀ l₀ .free l) (t : Nat) : Traced c₀ l₀ .free (l.resume t) := by
  simp only [Loop.resume]
  split
  · rename_i id k hs
    have ho : l.IsOpen t := ⟨_, hs, rfl⟩
    have hk : Traced c₀ l₀ (.ofContinuation t k) l := by
      cases k with
      | answer => exact h
      | warmUp => exact h
      | conclude v told =>
        obtain ⟨c, hc⟩ := h
        exact ⟨c, hc.resumes hs⟩
    split
    · exact hk.proceed ho _
    · exact h
  · rename_i children hs
    exact h.concludeBatch ⟨_, hs, rfl⟩ children
  · rename_i children e hs
    exact h.finish ⟨_, hs, rfl⟩ (.inl rfl) trivial
  · rename_i again hs
    split
    · exact h.beginRetry ⟨_, hs, rfl⟩
    · exact h.finish ⟨_, hs, rfl⟩ (.inl rfl) trivial
  · rename_i hs
    exact h.stop ⟨_, hs, rfl⟩ (.inl rfl) trivial
  · exact h

/-- Every turn follows the course. -/
theorem Traced.take (h : Traced c₀ l₀ .free l) (hc₀ : c₀.Sound) (turn : Turn) :
    Traced c₀ l₀ .free (l.take turn) := by
  cases turn with
  | start t =>
    simp only [Loop.take]
    split
    · rename_i job listener ht
      exact h.begin hc₀ (by simp [stage?, ht]) job
    · exact h
  | attempt id => exact h.quiet (quiet_runAttempt l id)
  | rest id => exact h.quiet (calm_enqueue l _).quiet
  | relay t => exact h.quiet (calm_enqueue l _).quiet
  | wake t => exact h.resume t
  | report parent child => exact h.takeReport parent child
  | complain t =>
    simp only [Loop.take]
    split
    · exact h.quiet (calm_emit l rfl).quiet
    · exact h
  | pause => exact h

end Loop

end LintBridge
