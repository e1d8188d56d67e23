import LintBridge.Proofs.Loop.View

/-! A session that works for a view keeps on working: one lemma for each function that a turn is
made of, and from them one for a turn and one for all turns. A turn that changes what all
documents are validated with, so that no list is fresh any more, is only taken while nothing else
goes on, and makes every open document due. -/

namespace LintBridge

namespace Loop

variable {V : View} {w : Document → Prop} {hand : Option Turn} {l l' : Loop} {t id : Nat}
  {d : Document} {v : Validation}

/-! ### Going on with an outcome -/

section Publish

variable {host : Host} {fixes : List (String × List QuickFix)} {ds : List Diagnostic}

theorem attemptOf_publish (grows : l.host.Grows host) (uri root : String) :
    ({ l with session.fixes := fixes, host := host }.emit [.publish uri ds]).attemptOf root =
      l.attemptOf root :=
  attemptOf_congr root rfl grows.files

/-- A document whose list is published is fresh if its list is what the remembered module says. -/
theorem isFresh_publish_self (grows : l.host.Grows host) (hid : l.attemptOf V.root = some id)
    {m : Nat} (hm : l.outcomeOf id = some (.present m)) {path : Path}
    (hpath : Uri.toPath? d.uri = .ok (some path))
    (said : l.session.Says l.host l.host.imports m V.root path d ds) :
    V.IsFresh ({ l with session.fixes := fixes, host := host }.emit [.publish d.uri ds]) d :=
  ⟨id, m, path, l.host.imports, ds, (attemptOf_publish grows _ _).trans hid, hm, hpath,
    grows.imports, said.congr rfl rfl grows.config, shown_publish_self _ _ ds⟩

/-- A fresh document stays fresh when the list of another one is published. -/
theorem isFresh_publish_of_ne (grows : l.host.Grows host) (hf : V.IsFresh l d) {uri : String}
    (hne : uri ≠ d.uri) :
    V.IsFresh ({ l with session.fixes := fixes, host := host }.emit [.publish uri ds]) d :=
  hf.mono rfl rfl grows (fun _ hid => (attemptOf_publish grows _ _).trans hid)
    (fun _ _ ho => ho) (shown_publish_of_ne _ ds hne)

/-- Publishing what the remembered module says makes a document fresh, and no other one less so. -/
theorem Works.publish (h : Works V w hand l) (hV : V.Sound) (hv : V.Awaits v)
    (hid : l.attemptOf V.root = some id) {m : Nat} (hm : l.outcomeOf id = some (.present m))
    (whole : (l.session.lint l.host v m).1.fault? = none) :
    Works V w hand ({ l with
        session.fixes := fixes
        host := (l.session.lint l.host v m).2 }.emit
      [.publish v.document.uri (l.session.lint l.host v m).1.diagnostics]) ∧
    V.IsFresh ({ l with
        session.fixes := fixes
        host := (l.session.lint l.host v m).2 }.emit
      [.publish v.document.uri (l.session.lint l.host v m).1.diagnostics]) v.document := by
  obtain ⟨⟨hclosed, hopen⟩, hroot, path, hpath, hvpath⟩ := hv
  have hgrows := l.session.lint_grows l.host v m
  obtain ⟨c, hc⟩ := h.config
  have hsays := Session.says_of_lint hc hvpath whole
  rw [hroot] at hsays
  generalize (l.session.lint l.host v m).2 = host at hgrows ⊢
  generalize (l.session.lint l.host v m).1.diagnostics = ds at hsays ⊢
  have hfresh : V.IsFresh ({ l with session.fixes := fixes, host := host }.emit
      [.publish v.document.uri ds]) v.document :=
    isFresh_publish_self hgrows hid hm hpath hsays
  refine ⟨?_, hfresh⟩
  exact {
    documents := h.documents
    workspace := h.workspace
    config := ⟨c, hgrows.config c hc⟩
    refusal := h.refusal
    ready := h.ready
    answered := h.answered
    proceeds := fun id hid => h.proceeds id ((attemptOf_publish hgrows _ _).symm.trans hid)
    waits := by
      intro t id v' ht
      rw [attemptOf_publish hgrows]
      exact h.waits t id v' ht
    view := by
      intro p hp hw path' hpath'
      by_cases hu : v.document.uri = p.2.uri
      · rw [hV.eq_of_uri hp ⟨hclosed, hopen⟩ hu]
        exact .inr (.inl hfresh)
      · obtain hs | hf | hd := h.view p hp hw path' hpath'
        · exact .inl hs
        · exact .inr (.inl (isFresh_publish_of_ne hgrows hf hu))
        · exact .inr (.inr hd)
    clear := by
      intro uri hu
      have hne : v.document.uri ≠ uri := fun he => hclosed (he ▸ hu)
      exact (shown_publish_of_ne _ ds hne).trans (h.clear uri hu) }

end Publish

/-- A validation that is concluded makes its document fresh, or did not end well. -/
theorem Works.conclude (h : Works V w hand l) (hV : V.Sound) (hv : V.Awaits v)
    (hid : l.attemptOf V.root = some id) {o : Outcome} (ho : l.outcomeOf id = some o) :
    Works V w hand (l.concluded v o) ∧
    ((∃ flaw, (l.session.conclude l.host v o).1 = .error (.unshown flaw)) ∨
      (∃ r, (l.session.conclude l.host v o).1 = .ok r ∧ r.status ≠ .ok) ∨
      V.IsFresh (l.concluded v o) v.document) := by
  have hgrows := l.session.conclude_grows l.host v o
  have hcases := l.session.conclude_cases l.host v o
  simp only [concluded]
  generalize l.session.conclude l.host v o = x at hcases hgrows ⊢
  cases hcases with
  | stale h' old =>
    refine ⟨(h.calm (calm_host l hgrows)).calm (calm_emit _ rfl), .inr (.inl ⟨_, rfl, ?_⟩)⟩
    simp [ValidationResult.plain]
  | silent r h' status uri =>
    refine ⟨(h.calm (calm_host l hgrows)).calm (calm_emit _ rfl), .inr (.inl ⟨_, rfl, ?_⟩)⟩
    obtain hs | hs := status <;> simp [hs]
  | untold m present current e flaw fault shown =>
    exact ⟨(h.calm (calm_host l hgrows)).calm (calm_emit _ rfl), .inl ⟨flaw, rfl⟩⟩
  | published m present current whole =>
    subst present
    obtain ⟨hworks, hfresh⟩ := h.publish hV hv hid ho whole
    exact ⟨hworks, .inr (.inr hfresh)⟩

/-- A task that goes on with an outcome comes to its end. What it was due to validate is the
document of the validation that it goes on with. -/
theorem Works.proceed (h : Works V w hand l) (hV : V.Sound) (ht : l.IsOpen t)
    (hhand : ∀ turn, hand = some turn → turn.IsOf t) {k : Continuation} {o : Outcome}
    (hk : ∀ v told, k = .conclude v told →
      V.Awaits v ∧ ∃ id, l.attemptOf V.root = some id ∧ l.outcomeOf id = some o)
    (honly : ∀ d, V.IsDueBy l d t → ∃ v told, k = .conclude v told ∧ v.document = d) :
    Works V w none (l.proceed t k o) := by
  cases k with
  | answer =>
    refine h.finish ht hhand fun d _ hd => ?_
    obtain ⟨v, told, hk', -⟩ := honly d hd
    simp at hk'
  | warmUp =>
    have hnone : ∀ d, ¬ V.IsDueBy l d t := by
      intro d hd
      obtain ⟨v, told, hk', -⟩ := honly d hd
      simp at hk'
    simp only [Loop.proceed]
    split
    · have hc := calm_markOutcome l o
      refine (h.calm hc).finish (hc.quiet.isOpen ht) hhand fun d _ hd => ?_
      exact absurd (hc.isDueBy.mp hd) (hnone d)
    · rename_i notice hn
      have hc := calm_notify l notice
      refine (h.calm hc).finish (hc.quiet.isOpen ht) hhand fun d _ hd => ?_
      exact absurd (hc.isDueBy.mp hd) (hnone d)
  | conclude v told =>
    obtain ⟨hv, id, hid, ho⟩ := hk v told rfl
    obtain ⟨hworks, hresult⟩ := h.conclude hV hv hid ho
    obtain ⟨-, -, path, hpath, -⟩ := hv
    have hdue : ∀ d, V.IsDueBy l d t → v.document = d := by
      intro d hd
      obtain ⟨v', told', hk', rfl⟩ := honly d hd
      obtain ⟨rfl, -⟩ := Continuation.conclude.inj hk'
      rfl
    -- whatever is told on the way, the end is bad or the document is fresh
    have hend : ∀ l₂, Calm (l.concluded v o) l₂ → ∀ r : TaskResult,
        r.IsBad ∨ V.IsFresh (l.concluded v o) v.document → Works V w none (l₂.finish t r) := by
      intro l₂ hc r hr
      have ho₂ : l₂.IsOpen t := hc.quiet.isOpen ht
      refine (hworks.calm hc).finish ho₂ hhand fun d _ hd _ _ => ?_
      obtain rfl := hdue d (hc.isDueBy.mp hd)
      obtain hbad | hfresh := hr
      · exact .inl ⟨t, r, result?_eq_some.mpr (stage?_setStage_self ho₂.lt _), hbad⟩
      · exact .inr (hc.isFresh hfresh)
    have hvalidation : ∀ r, (l.session.conclude l.host v o).1 = .ok r →
        (TaskResult.validation r).IsBad ∨ V.IsFresh (l.concluded v o) v.document := by
      intro r hr
      obtain ⟨flaw, hflaw⟩ | ⟨r', hr', hbad⟩ | hfresh := hresult
      · cases hr.symm.trans hflaw
      · obtain rfl := Except.ok.inj (hr.symm.trans hr')
        exact .inl ⟨⟨path, l.session.conclude_uri l.host hr ▸ hpath⟩, hbad⟩
      · exact .inr hfresh
    have hcases := l.proceed_conclude_cases t v o told
    generalize l.proceed t (.conclude v told) o = l' at hcases ⊢
    cases hcases with
    | untold e result =>
      refine hend _ (.refl _) _ ?_
      obtain ⟨flaw, hflaw⟩ | ⟨r, hr, -⟩ | hfresh := hresult
      · obtain rfl := Except.error.inj (result.symm.trans hflaw)
        exact .inl trivial
      · cases result.symm.trans hr
      · exact .inr hfresh
    | silent r result isTold => exact hend _ (.refl _) _ (hvalidation r result)
    | unnoticed r result isTold e notice =>
      obtain ⟨flaw, rfl⟩ := Session.notice_error_of_accepted _
        (l.session.conclude_uri l.host result ▸ hpath) notice
      exact hend _ (calm_markOutcome _ o) _ (.inl trivial)
    | noticed r result isTold n notice =>
      exact hend _ (calm_notify _ n) _ (hvalidation r result)

/-! ### Waiting for an attempt -/

/-- A new attempt is remembered and asks for its turn. Nothing is fresh before it, and nobody waits
with a validation. -/
theorem Works.remember (h : Works V w hand l) (hnone : l.attemptOf V.root = none) {host : Host}
    (hgrows : l.host.Grows host) {r : Resolver}
    (hr : r = (l.session.resolver.begin (Resolver.key l.host V.root)).1) :
    Works V w hand ({ l with session.resolver := r, host := host }.enqueue
      (.attempt l.session.resolver.attempts.length)) ∧
    ({ l with session.resolver := r, host := host }.enqueue
      (.attempt l.session.resolver.attempts.length)).attemptOf V.root =
        some l.session.resolver.attempts.length := by
  have hkey : Resolver.key host V.root = Resolver.key l.host V.root := by
    simp only [Resolver.key, Host.here, hgrows.files]
  have hattempt : ({ l with session.resolver := r, host := host }.enqueue
      (.attempt l.session.resolver.attempts.length)).attemptOf V.root =
        some l.session.resolver.attempts.length := by
    subst hr
    show List.lookup (Resolver.key host V.root) _ = _
    rw [hkey]
    exact Table.lookup_put_self _ _ _
  have hasked : ∀ turn, Asked hand l turn → Asked hand
      ({ l with session.resolver := r, host := host }.enqueue
        (.attempt l.session.resolver.attempts.length)) turn :=
    fun turn ha => ha.mono fun _ hm => List.mem_append_left _ hm
  have hwaits : ∀ t id v, ¬ l.Waits t id v := by
    intro t id v ht
    obtain ⟨-, hid, -⟩ := h.waits t id v ht
    rw [hnone] at hid
    simp at hid
  refine ⟨⟨h.documents, h.workspace, ?_, ?_, ?_, h.answered, ?_, ?_, ?_, h.clear⟩, hattempt⟩
  · obtain ⟨c, hc⟩ := h.config
    exact ⟨c, hgrows.config c hc⟩
  · subst hr
    exact h.refusal
  · intro t job listener ht
    obtain ⟨hstart, hjob⟩ := h.ready t job listener ht
    exact ⟨hasked _ hstart, hjob⟩
  · intro id hid
    obtain rfl := Option.some.inj (hattempt.symm.trans hid)
    have hphase : r.phase? l.session.resolver.attempts.length = some .begun := by
      subst hr
      exact l.session.resolver.phase?_begin_self _
    exact proceeds_of_phase hphase (by simp)
      (.inr (.inr (.inl (List.mem_append_right _ List.mem_cons_self))))
  · intro t id v ht
    exact absurd ht (hwaits t id v)
  · intro p hp hw path hpath
    obtain hs | ⟨id, m, path', im, ds, hid, -⟩ | hd := h.view p hp hw path hpath
    · exact .inl hs
    · rw [hnone] at hid
      simp at hid
    · exact .inr (.inr hd)

/-- After asking for it, an attempt is remembered. -/
theorem Works.asks (h : Works V w hand l) {new : Bool} {r : Resolver} {host : Host}
    (hx : l.session.resolver.attemptFor l.host V.root = ((id, new), r, host)) :
    Works V w hand (if new = true then
        { l with session.resolver := r, host := host }.enqueue (.attempt id)
      else { l with session.resolver := r, host := host }) ∧
    (if new = true then
        { l with session.resolver := r, host := host }.enqueue (.attempt id)
      else { l with session.resolver := r, host := host }).attemptOf V.root = some id := by
  simp only [Resolver.attemptFor] at hx
  split at hx
  · rename_i known hlookup
    obtain ⟨⟨rfl, rfl⟩, rfl, rfl⟩ := by simpa using hx
    exact ⟨h, hlookup⟩
  · rename_i hlookup
    simp only [Prod.mk.injEq] at hx
    obtain ⟨⟨rfl, rfl⟩, rfl, rfl⟩ := hx
    exact h.remember hlookup ((Host.Agrees.refl _).note _ _).grows rfl

/-- A task that waits for the attempt of the workspace goes on at once if the attempt has settled,
and else is told later. -/
theorem Works.await (h : Works V w hand l) (hV : V.Sound) (ht : l.IsOpen t)
    (hhand : ∀ turn, hand = some turn → turn.IsOf t) {k : Continuation}
    (hk : ∀ v told, k = .conclude v told → V.Awaits v)
    (honly : ∀ d, V.IsDueBy l d t → ∃ v told, k = .conclude v told ∧ v.document = d) :
    Works V w none (l.await t V.root k) := by
  simp only [Loop.await, h.refusal]
  generalize hx : l.session.resolver.attemptFor l.host V.root = x
  obtain ⟨⟨id, new⟩, r, host⟩ := x
  obtain ⟨hworks, hid⟩ := h.asks hx
  dsimp only
  have htasks : (if new = true then
      { l with session.resolver := r, host := host }.enqueue (.attempt id)
      else { l with session.resolver := r, host := host }).tasks = l.tasks := by
    split <;> rfl
  generalize (if new = true then
      { l with session.resolver := r, host := host }.enqueue (.attempt id)
      else { l with session.resolver := r, host := host }) = l₁ at hworks hid htasks ⊢
  have hopen : l₁.IsOpen t := (isOpen_congr htasks).mpr ht
  have honly₁ : ∀ d, V.IsDueBy l₁ d t → ∃ v told, k = .conclude v told ∧ v.document = d :=
    fun d hd => honly d ((isDueBy_congr htasks).mp hd)
  split
  · rename_i o ho
    exact hworks.proceed hV hopen hhand (fun v told hv => ⟨hk v told hv, id, hid, ho⟩) honly₁
  · rename_i hnone
    have hwaiting := hworks.queueUp [(id, t)]
    refine hwaiting.put hopen hhand (by simp) (by simp) ?_ ?_
    · intro id' v told hs
      obtain ⟨rfl, rfl⟩ := Stage.resolving.inj hs
      exact ⟨hk v told rfl, hid, List.mem_append_right _ List.mem_cons_self, hnone⟩
    · intro d _ hd path hpath
      obtain ⟨v, told, rfl, hv⟩ := honly₁ d hd
      exact .inr (.inr ⟨id, v, told, rfl, hv⟩)

/-! ### Beginning a task -/

/-- What a task that has not begun is due to validate is told by its job. -/
theorem validates_of_isDueBy {job : Job} {listener : Listener}
    (ht : l.tasks[t]? = some ⟨job, listener, .ready⟩) (hd : V.IsDueBy l d t) :
    job.Validates V.documents d := by
  obtain ⟨job', listener', ht', hjob⟩ | ⟨id, v, ⟨told, hs⟩, -⟩ := hd
  · obtain ⟨rfl, -⟩ := Task.mk.inj (Option.some.inj (ht.symm.trans ht'))
    exact hjob
  · rw [Loop.stage?, ht] at hs
    simp at hs

theorem Works.beginValidation (h : Works V w hand l) (hV : V.Sound) {job : Job}
    {listener : Listener} (ht : l.tasks[t]? = some ⟨job, listener, .ready⟩)
    (hhand : ∀ turn, hand = some turn → turn.IsOf t) (hd : V.Admits d)
    (honly : ∀ d', job.Validates V.documents d' → d = d') (told : Bool) :
    Works V w none (l.beginValidation t d told) := by
  have hdue : ∀ d', V.IsDueBy l d' t → d = d' :=
    fun d' hd' => honly d' (validates_of_isDueBy ht hd')
  have hgrows : l.host.Grows (l.session.begin l.host d).2.2 := by
    simp only [Session.begin]
    split
    · exact .refl _
    · exact ((Host.Agrees.refl _).note _ _).grows
    · exact .refl _
  have hbump : Works V w hand { l with session := (l.session.bump d.uri).1 } :=
    h.renumber (l.session.bump d.uri).1.numbers l.session.fixes
  have hcases := l.session.begin_cases l.host d
  simp only [Loop.beginValidation]
  generalize l.session.begin l.host d = x at hcases hgrows ⊢
  cases hcases with
  | refused e uri =>
    refine hbump.finish (isOpen_of_task ht rfl) hhand fun d' _ hd' path hpath => ?_
    rw [← hdue d' hd', uri] at hpath
    simp at hpath
  | skipped h' uri =>
    refine (hbump.calm (calm_host _ hgrows)).finish (isOpen_of_task ht rfl) hhand
      fun d' _ hd' path hpath => ?_
    rw [← hdue d' hd', uri] at hpath
    simp at hpath
  | waits path uri =>
    have hroot : l.session.workspace?.getD path.parent.toString = V.root := by
      rw [h.workspace]
      rfl
    rw [hroot]
    refine hbump.await hV (isOpen_of_task ht rfl) hhand ?_ fun d' hd' => ?_
    · intro v told' hk
      obtain ⟨rfl, -⟩ := Continuation.conclude.inj hk
      exact ⟨hd, rfl, path, uri, rfl⟩
    · exact ⟨_, told, rfl, hdue d' hd'⟩

/-- The document that is validated under a URI may be validated. -/
theorem admits_of_fetch (hV : V.Sound) {fs : FileSystem} {uri : String}
    (hopen : ¬ V.closed uri) (hd : V.documents.fetch fs uri = .ok d) : V.Admits d := by
  unfold Documents.fetch at hd
  split at hd
  · rename_i d' hget
    obtain rfl := Except.ok.inj hd
    have hmem := Documents.mem_of_get? hget
    exact ⟨hV.isOpen _ hmem, .inl (hV.documents.get?_uri hmem)⟩
  · rename_i hget
    have huri : d.uri = uri := by
      obtain ⟨path, -, hd⟩ := bind_eq_ok hd
      obtain ⟨text, -, hd⟩ := bind_eq_ok hd
      exact Except.ok.inj hd ▸ rfl
    rw [← huri] at hopen hget
    exact ⟨hopen, .inr hget⟩

/-- A task that changes nothing but what is shown begins. -/
theorem Works.begin (h : Works V w hand l) (hV : V.Sound) {job : Job} {listener : Listener}
    (ht : l.tasks[t]? = some ⟨job, listener, .ready⟩)
    (hhand : ∀ turn, hand = some turn → turn.IsOf t) (hjob : V.IsPlain job) :
    Works V w none (l.begin t job) := by
  have hopen := isOpen_of_task ht rfl
  have hvalidates := fun d hd => validates_of_isDueBy (V := V) (d := d) ht hd
  cases job with
  | warmUp =>
    simp only [Loop.begin, h.workspace]
    exact h.await hV hopen hhand (by simp) fun d hd => (hvalidates d hd).elim
  | validate d => exact h.beginValidation hV ht hhand hjob (fun d' hd' => hd') false
  | validateOpen uri =>
    simp only [Loop.begin, h.documents, DocumentSource.fetch]
    split
    · rename_i e he
      refine h.finish hopen hhand fun d _ hd => ?_
      have hget : V.documents.get? uri = some d := hvalidates d hd
      rw [Documents.fetch, hget] at he
      simp at he
    · rename_i d hd
      refine h.beginValidation hV ht hhand (admits_of_fetch hV hjob hd) (fun d' hd' => ?_) true
      have hget : V.documents.get? uri = some d' := hd'
      rw [Documents.fetch, hget] at hd
      exact (Except.ok.inj hd).symm
  | question message =>
    refine (h.calm (calm_ask l message)).put ?_ hhand (by simp) (by simp) (by simp) ?_
    · exact (calm_ask l message).quiet.isOpen hopen
    · intro d _ hd
      exact (hvalidates d ((calm_ask l message).isDueBy.mp hd)).elim
  | _ => exact hjob.elim

/-! ### Validating all documents -/

/-- Other documents are watched, which are watched already or fresh or due. -/
theorem Works.watch (h : Works V w hand l) {w' : Document → Prop}
    (hview : ∀ p ∈ V.documents.entries, w' p.2 →
      w p.2 ∨ V.IsFresh l p.2 ∨ V.IsDue l p.2) : Works V w' hand l :=
  { h with
    view := fun p hp hw' path hpath =>
      (hview p hp hw').elim (fun hw => h.view p hp hw path hpath) .inr }

/-- All that was resolved is forgotten while nobody waits for it. No document is fresh any more. -/
theorem Works.renew (h : Works V w hand l) (hwaits : ∀ t id v, ¬ l.Waits t id v) {s : Session}
    {host : Host} (root : s.root = l.session.root)
    (refusal : s.resolver.refusal = l.session.resolver.refusal) (memo : s.resolver.memo = [])
    (config : host.config? = l.host.config?) :
    Works V (fun _ => False) hand { l with session := s, host := host } where
  documents := h.documents
  workspace := by
    rw [Session.workspace?, root]
    exact h.workspace
  config := by
    rw [config]
    exact h.config
  refusal := refusal.trans h.refusal
  ready := h.ready
  answered := h.answered
  proceeds id hid := by
    rw [attemptOf, memo] at hid
    simp at hid
  waits t id v ht := absurd ht (hwaits t id v)
  view p hp hw := hw.elim
  clear := h.clear

/-- A task is added for each of some documents, which are then due. -/
theorem Works.spawnAll (h : Works V w hand l) (listener : Listener) {ds : List Document}
    (hds : ∀ d ∈ ds, V.Admits d) :
    Works V w hand (l.spawnAll listener (ds.map .validate)).1 ∧
      ∀ d ∈ ds, V.IsDue (l.spawnAll listener (ds.map .validate)).1 d := by
  induction ds generalizing l with
  | nil => exact ⟨h, by simp⟩
  | cons d ds ih =>
    have hplain : V.IsPlain (.validate d) := hds d List.mem_cons_self
    have hfirst := h.spawn hplain listener
    have hdue : V.IsDueBy (l.spawn (.validate d) listener).1 d l.tasks.length :=
      .inl ⟨.validate d, listener, by simp [Loop.spawn, Loop.addTask, enqueue], rfl⟩
    obtain ⟨new, htasks, -⟩ :=
      (quiet_spawnAll (l.spawn (.validate d) listener).1 listener (ds.map .validate)).tasks
    obtain ⟨hworks, hrest⟩ := ih hfirst fun d hd => hds d (List.mem_cons_of_mem _ hd)
    refine ⟨hworks, fun d' hd' => ?_⟩
    obtain rfl | hd' := List.mem_cons.mp hd'
    · exact ⟨_, (isDueBy_append htasks (isDueBy_lt hdue)).mpr hdue⟩
    · exact hrest d' hd'

/-- A task that validates all documents makes them due. -/
theorem Works.beginAll (h : Works V (fun _ => False) hand l) (hV : V.Sound) (ht : l.IsOpen t)
    (hhand : ∀ turn, hand = some turn → turn.IsOf t) (hnone : ∀ d, ¬ V.IsDueBy l d t) :
    Works V (fun _ => True) none (l.beginAll t) := by
  have hadmits : ∀ d ∈ V.documents.entries.map Prod.snd, V.Admits d := by
    intro d hd
    obtain ⟨p, hp, rfl⟩ := List.mem_map.mp hd
    exact ⟨hV.isOpen p hp, .inl (hV.documents.get?_uri hp)⟩
  simp only [Loop.beginAll, h.documents, DocumentSource.all, hV.documents.all, beginMany]
  obtain ⟨hworks, hdue⟩ := h.spawnAll (.task t) hadmits
  have hq := quiet_spawnAll l (.task t) ((V.documents.entries.map Prod.snd).map .validate)
  generalize l.spawnAll (.task t) ((V.documents.entries.map Prod.snd).map .validate) = x
    at hworks hdue hq ⊢
  have hwatch : Works V (fun _ => True) hand x.1 :=
    hworks.watch fun p hp _ => .inr (.inr (hdue p.2 (List.mem_map_of_mem hp)))
  obtain ⟨new, htasks, -⟩ := hq.tasks
  have hnone' : ∀ d, ¬ V.IsDueBy x.1 d t :=
    fun d hd => hnone d ((isDueBy_append htasks ht.lt).mp hd)
  split
  · exact hwatch.finish (hq.isOpen ht) hhand fun d _ hd => absurd hd (hnone' d)
  · exact hwatch.put (hq.isOpen ht) hhand (by simp) (by simp) (by simp)
      fun d _ hd => absurd hd (hnone' d)

theorem Works.beginAnew (h : Works V w hand l) (hV : V.Sound) (ht : l.IsOpen t)
    (hhand : ∀ turn, hand = some turn → turn.IsOf t) (hnone : ∀ d, ¬ V.IsDueBy l d t)
    (hwaits : ∀ t id v, ¬ l.Waits t id v) : Works V (fun _ => True) none (l.beginAnew t) := by
  have hforgot : Works V (fun _ => False) hand
      { l with session := l.session.forgetAttempts l.host } :=
    h.renew hwaits rfl rfl rfl rfl
  exact hforgot.beginAll hV ht hhand hnone

theorem Works.beginRetry (h : Works V w hand l) (hV : V.Sound) (ht : l.IsOpen t)
    (hhand : ∀ turn, hand = some turn → turn.IsOf t) (hnone : ∀ d, ¬ V.IsDueBy l d t)
    (hwaits : ∀ t id v, ¬ l.Waits t id v) : Works V (fun _ => True) none (l.beginRetry t) :=
  (h.calm (calm_note l _ _)).beginAnew hV ht hhand hnone hwaits

/-- A task that changes what all documents are validated with begins while nobody waits. -/
theorem Works.beginMain (h : Works V (fun _ => True) hand l) (hV : V.Sound) {job : Job}
    {listener : Listener} (ht : l.tasks[t]? = some ⟨job, listener, .ready⟩)
    (hhand : ∀ turn, hand = some turn → turn.IsOf t) (hjob : job.IsMain)
    (hwaits : ∀ t id v, ¬ l.Waits t id v) : Works V (fun _ => True) none (l.begin t job) := by
  have hopen := isOpen_of_task ht rfl
  have hnone : ∀ d, ¬ V.IsDueBy l d t := by
    intro d hd
    have hv := validates_of_isDueBy ht hd
    cases job <;> first | exact hjob | exact hv
  cases job with
  | watchedFilesChanged count =>
    simp only [Loop.begin]
    exact (h.calm (calm_note l _ _)).beginAnew hV hopen hhand hnone hwaits
  | updateSettings payload =>
    simp only [Loop.begin]
    split
    · rename_i e host ha
      obtain rfl := l.session.applySettings_error _ ha
      exact h.finish hopen hhand fun d _ hd => absurd hd (hnone d)
    · rename_i s host ha
      obtain ⟨root, refusal, memo, config⟩ := l.session.applySettings_renews _ ha
      exact (h.renew hwaits root refusal memo config).beginAll hV hopen hhand hnone
  | _ => exact hjob.elim

/-! ### Attempts -/

/-- The attempt in hand takes a step. What has settled stays settled. -/
theorem Works.stepAttempt (h : Works V w (some (.attempt id)) l) :
    Works V w (some (.attempt id)) (l.stepAttempt id) := by
  have hgrows := l.session.resolver.step_grows l.host id
  have hkeeps := l.session.resolver.step_keeps l.host id
  have hnext := fun p => l.session.resolver.step_next l.host id (p := p)
  have hother : ∀ id', id ≠ id' → (l.session.resolver.step l.host id).1.phase? id' =
      l.session.resolver.phase? id' :=
    fun id' hne => l.session.resolver.phase?_step_of_ne l.host id hne
  show Works V w (some (.attempt id)) { l with
    session.resolver := (l.session.resolver.step l.host id).1
    host := (l.session.resolver.step l.host id).2 }
  generalize (l.session.resolver.step l.host id).1 = r at hkeeps hnext hother ⊢
  generalize (l.session.resolver.step l.host id).2 = host at hgrows ⊢
  have hmemo : r.memo = l.session.resolver.memo := by rw [hkeeps]
  have hattempt : ({ l with session.resolver := r, host := host } : Loop).attemptOf V.root =
      l.attemptOf V.root :=
    attemptOf_congr V.root hmemo hgrows.files
  have houtcome : ∀ id' o, l.outcomeOf id' = some o → r.outcome? id' = some o := by
    intro id' o ho
    rw [Loop.outcomeOf, Resolver.outcome?_eq_some] at ho
    rw [Resolver.outcome?_eq_some]
    by_cases hne : id = id'
    · subst hne
      obtain ⟨p, hp, hstep⟩ := hnext _ ho
      cases hstep
      exact hp
    · exact (hother id' hne).trans ho
  refine ⟨h.documents, h.workspace, ?_, ?_, h.ready, h.answered, ?_, ?_, ?_, h.clear⟩
  · obtain ⟨c, hc⟩ := h.config
    exact ⟨c, hgrows.config c hc⟩
  · show r.refusal = none
    rw [hkeeps]
    exact h.refusal
  · intro id' hid'
    have hp := h.proceeds id' (hattempt.symm.trans hid')
    by_cases hne : id = id'
    · subst hne
      cases hphase : l.session.resolver.phase? id with
      | none => simp [Proceeds, hphase] at hp
      | some p =>
        obtain ⟨p', hp', -⟩ := hnext p hphase
        exact proceeds_of_phase hp' (fun _ _ _ => rfl) (.inr (.inr (.inr rfl)))
    · exact hp.mono (hother id' hne) (fun _ _ ha => ha) fun hturn => hturn
  · intro t id' v ht
    obtain ⟨hv, hid', htold⟩ := h.waits t id' v ht
    refine ⟨hv, hattempt.trans hid', ?_⟩
    obtain ⟨hin, hnone⟩ | ⟨ho, ha⟩ := htold
    · refine .inl ⟨hin, ?_⟩
      by_cases hne : id = id'
      · exact .inr (by rw [hne])
      · refine hnone.imp_left fun hnone => ?_
        show r.outcome? id' = none
        rw [Resolver.outcome?, hother id' hne]
        exact hnone
    · obtain ⟨o, ho⟩ := Option.ne_none_iff_exists'.mp ho
      refine .inr ⟨?_, ha⟩
      show r.outcome? id' ≠ none
      rw [houtcome id' o ho]
      simp
  · intro p hp hw path hpath
    obtain hs | hf | hd := h.view p hp hw path hpath
    · exact .inl hs
    · refine .inr (.inl (hf.mono rfl ?_ hgrows (fun id hid => hattempt.trans hid) houtcome rfl))
      show r.entryPoint = _
      rw [hkeeps]
    · exact .inr (.inr hd)

/-- Those who wait for the attempt in hand are told if it has settled; it has if it is the
remembered one. -/
theorem Works.release (h : Works V w (some (.attempt id)) l)
    (hsettled : l.attemptOf V.root = some id → l.outcomeOf id ≠ none) :
    Works V w none (l.release id) := by
  have hproceeds : ∀ queue id', Turn.attempt id = .attempt id' ∨ Turn.attempt id = .rest id' →
      l.attemptOf V.root = some id' → Proceeds none { l with queue := queue } id' := by
    rintro queue id' hturn hid'
    obtain rfl : id = id' := by simpa using hturn
    obtain ⟨o, ho⟩ := Option.ne_none_iff_exists'.mp (hsettled hid')
    exact proceeds_of_phase ((Resolver.outcome?_eq_some _ _).mp ho) (by simp) (.inl ⟨o, rfl⟩)
  simp only [Loop.release]
  split
  · rename_i hnone
    refine h.handOver (fun _ hm => hm) (by simp) (by simp) (hproceeds _) ?_
    rintro t id' v hturn ht ho
    obtain rfl : id = id' := by simpa using hturn
    exact absurd hnone ho
  · rename_i o ho
    rw [foldl_relay]
    have hne : l.outcomeOf id ≠ none := by
      rw [Loop.outcomeOf, ho]
      simp
    have htold : Works V w none { l with queue := l.queue ++
        (l.waiting.filter fun p => p.1 == id).map fun p => .relay p.2 } := by
      refine h.handOver (fun _ hm => List.mem_append_left _ hm) (by simp) (by simp)
        (hproceeds _) ?_
      rintro t id' v hturn ht ho'
      obtain rfl : id = id' := by simpa using hturn
      obtain ⟨-, -, ⟨hin, -⟩ | ⟨-, ha⟩⟩ := h.waits t id v ht
      · refine .inl (.inl (List.mem_append_right _ (List.mem_map.mpr ⟨(id, t), ?_, rfl⟩)))
        exact List.mem_filter.mpr ⟨hin, by simp⟩
      · refine ha.imp ?_ ?_ <;> rintro (hm | hturn)
        · exact .inl (List.mem_append_left _ hm)
        · simp at hturn
        · exact .inl (List.mem_append_left _ hm)
        · simp at hturn
    exact htold.dismiss hne

/-- The turn of an attempt: it settles, or executes its module and rests. -/
theorem Works.runAttempt (h : Works V w (some (.attempt id)) l)
    (hfound : l.attemptOf V.root = some id → ∀ f origin,
      l.session.resolver.phase? id ≠ some (.found f origin)) :
    Works V w none (l.runAttempt id) := by
  have hattempt : ∀ l : Loop, (l.stepAttempt id).attemptOf V.root = l.attemptOf V.root := by
    intro l
    refine attemptOf_congr V.root ?_ (l.session.resolver.step_grows l.host id).files
    show (l.session.resolver.step l.host id).1.memo = _
    rw [l.session.resolver.step_keeps l.host id]
  have hnext : ∀ (l : Loop) p, l.session.resolver.phase? id = some p →
      ∃ p', (l.stepAttempt id).session.resolver.phase? id = some p' ∧ p.Next p' :=
    fun l p hp => l.session.resolver.step_next l.host id hp
  have hsettled : ∀ {l : Loop} {o : Outcome},
      l.session.resolver.phase? id = some (.settled o) → l.outcomeOf id ≠ none := by
    intro l o ho
    rw [Loop.outcomeOf, (Resolver.outcome?_eq_some _ _).mpr ho]
    simp
  simp only [Loop.runAttempt]
  split
  · rename_i hbegun
    obtain ⟨p, hp, hstep⟩ := hnext l _ hbegun
    cases hstep with
    | finds f origin =>
      obtain ⟨p', hp', hstep'⟩ := hnext _ _ hp
      cases hstep' with
      | executes f origin result =>
        have hhas : (l.stepAttempt id).hasFound id = true := by
          unfold hasFound
          rw [hp]
        rw [if_pos hhas]
        refine h.stepAttempt.stepAttempt.handOver (fun _ hm => List.mem_append_left _ hm)
          (by simp) (by simp) ?_ ?_
        · rintro id' hturn -
          obtain rfl : id = id' := by simpa using hturn
          exact proceeds_of_phase hp' (by simp) (.inr (.inl ⟨⟨origin, result, rfl⟩,
            .inl (List.mem_append_right _ List.mem_cons_self)⟩))
        · rintro t id' v hturn ht ho
          obtain rfl : id = id' := by simpa using hturn
          refine absurd ?_ ho
          rw [Loop.outcomeOf, Resolver.outcome?, hp']
    | gives o =>
      have hhas : ¬ (l.stepAttempt id).hasFound id = true := by
        unfold hasFound
        rw [hp]
        simp
      rw [if_neg hhas]
      exact h.stepAttempt.release fun _ => hsettled hp
  · rename_i hbegun
    refine h.stepAttempt.release fun hid => ?_
    rw [hattempt] at hid
    have hproceeds := h.proceeds id hid
    cases hphase : l.session.resolver.phase? id with
    | none => simp [Proceeds, hphase] at hproceeds
    | some p =>
      obtain ⟨p', hp', hstep⟩ := hnext l p hphase
      cases hstep with
      | finds f origin => exact absurd hphase hbegun
      | gives o => exact absurd hphase hbegun
      | executes f origin result => exact absurd hphase (hfound hid f origin)
      | settles origin result o => exact hsettled hp'
      | stays o => exact hsettled hp'

/-! ### Turns -/

theorem not_isDueBy {s : Stage} (hs : l.stage? t = some s) (hready : s ≠ .ready)
    (hwaits : ∀ id v told, s ≠ .resolving id (.conclude v told)) (d : Document) :
    ¬ V.IsDueBy l d t := by
  rintro (⟨job, listener, ht, -⟩ | ⟨id, v, ⟨told, hs'⟩, -⟩)
  · rw [stage?, ht] at hs
    exact hready (Option.some.inj hs).symm
  · exact hwaits id v told (Option.some.inj (hs.symm.trans hs'))

/-- A task that waited goes on, unless the user wants to try again. -/
theorem Works.resume (h : Works V w (some (.wake t)) l) (hV : V.Sound)
    (hanswered : l.stage? t ≠ some (.answered true)) : Works V w none (l.resume t) := by
  have hhand : ∀ turn, some (Turn.wake t) = some turn → turn.IsOf t :=
    fun turn hturn => .inr (.inr (Option.some.inj hturn).symm)
  -- the turn was in vain
  have hvain : (∀ id v, l.Waits t id v → l.outcomeOf id = none) → Works V w none l := by
    intro hnone
    refine h.handOver (fun _ hm => hm) (by simp) ?_ (by simp) ?_
    · intro t' hturn hs
      obtain rfl : t = t' := by simpa using hturn
      exact absurd hs hanswered
    · intro t' id v hturn ht ho
      obtain rfl : t = t' := by simpa using hturn
      exact absurd (hnone id v ht) ho
  simp only [Loop.resume]
  split
  · rename_i id k hs
    split
    · rename_i o ho
      refine h.proceed hV ⟨_, hs, rfl⟩ hhand ?_ ?_
      · rintro v told rfl
        obtain ⟨hv, hid, -⟩ := h.waits t id v ⟨told, hs⟩
        exact ⟨hv, id, hid, ho⟩
      · rintro d (⟨job, listener, ht, -⟩ | ⟨id', v, ⟨told, hs'⟩, hv⟩)
        · rw [stage?, ht] at hs
          simp at hs
        · obtain ⟨rfl, rfl⟩ := Stage.resolving.inj (Option.some.inj (hs.symm.trans hs'))
          exact ⟨v, told, rfl, hv⟩
    · rename_i hnone
      refine hvain fun id' v hwaits => ?_
      obtain ⟨told, hs'⟩ := hwaits
      obtain ⟨rfl, -⟩ := Stage.resolving.inj (Option.some.inj (hs.symm.trans hs'))
      exact hnone
  · rename_i children hs
    have hnone := not_isDueBy (V := V) hs (by simp) (by simp)
    simp only [Loop.concludeBatch]
    split
    · exact h.finish ⟨_, hs, rfl⟩ hhand fun d _ hd => absurd hd (hnone d)
    · rename_i told htold
      have hc := fun as => calm_announce l told as
      refine (h.calm (hc _)).finish ((hc _).quiet.isOpen ⟨_, hs, rfl⟩) hhand fun d _ hd => ?_
      exact absurd ((hc _).isDueBy.mp hd) (hnone d)
  · rename_i children e hs
    have hnone := not_isDueBy (V := V) hs (by simp) (by simp)
    exact h.finish ⟨_, hs, rfl⟩ hhand fun d _ hd => absurd hd (hnone d)
  · rename_i again hs
    have hnone := not_isDueBy (V := V) hs (by simp) (by simp)
    split
    · rename_i hagain
      rw [hagain] at hs
      exact absurd hs hanswered
    · exact h.finish ⟨_, hs, rfl⟩ hhand fun d _ hd => absurd hd (hnone d)
  · rename_i hs
    have hnone := not_isDueBy (V := V) hs (by simp) (by simp)
    exact h.put ⟨_, hs, rfl⟩ hhand (by simp) (by simp) (by simp) fun d _ hd =>
      absurd hd (hnone d)
  · rename_i hresolving _ _ _ _
    refine hvain fun id v hwaits => ?_
    obtain ⟨told, hs⟩ := hwaits
    exact absurd hs (hresolving id (.conclude v told))

/-- Taking in a report leaves what a view is about alone. -/
theorem Works.takeReport (h : Works V w none l) (parent child : Nat) :
    Works V w none (l.takeReport parent child) := by
  simp only [Loop.takeReport]
  split
  · rename_i children missing hs
    have hput : ∀ s : Stage, s ≠ .ready → s ≠ .answered true →
        (∀ id v told, s ≠ .resolving id (.conclude v told)) →
        Works V w none (l.setStage parent s) := by
      intro s hready hanswered hwaits
      refine h.put ⟨_, hs, rfl⟩ (by simp) hready (fun hs => absurd hs hanswered)
        (fun id v told hs => absurd hs (hwaits id v told)) fun d _ hd => ?_
      exact absurd hd (not_isDueBy hs (by simp) (by simp) d)
    split
    · exact (hput _ (by simp) (by simp) (by simp)).calm (calm_enqueue _ _)
    · split
      · exact (hput _ (by simp) (by simp) (by simp)).calm (calm_enqueue _ _)
      · exact hput _ (by simp) (by simp) (by simp)
  · exact h

/-- A turn that changes nothing but what is shown. -/
theorem Works.take {turn : Turn} (h : Works V w (some turn) l) (hV : V.Sound)
    (hstart : ∀ t job listener, turn = .start t → l.tasks[t]? = some ⟨job, listener, .ready⟩ →
      V.IsPlain job)
    (hanswered : ∀ t, l.stage? t ≠ some (.answered true))
    (hfound : ∀ id, turn = .attempt id → l.attemptOf V.root = some id → ∀ f origin,
      l.session.resolver.phase? id ≠ some (.found f origin)) : Works V w none (l.take turn) := by
  -- a turn that no task and no attempt needs
  have hother : (∀ t, turn ≠ .start t ∧ turn ≠ .relay t ∧ turn ≠ .wake t) →
      (∀ id, turn ≠ .attempt id ∧ turn ≠ .rest id) → Works V w none l := by
    intro ht hid
    refine h.handOver (fun _ hm => hm) (fun t hturn => absurd hturn (ht t).1) ?_ ?_ ?_
    · exact fun t _ hs => absurd hs (hanswered t)
    · rintro id (hturn | hturn)
      · exact absurd hturn (hid id).1
      · exact absurd hturn (hid id).2
    · rintro t id v (hturn | hturn | hturn)
      · exact absurd hturn (ht t).2.1
      · exact absurd hturn (ht t).2.2
      · exact absurd hturn (hid id).1
  cases turn with
  | start t =>
    simp only [Loop.take]
    split
    · rename_i job listener ht
      refine h.begin hV ht (fun turn hturn => .inl (Option.some.inj hturn).symm) ?_
      exact hstart t job listener rfl ht
    · rename_i hready
      refine h.handOver (fun _ hm => hm) ?_ (by simp) (by simp) (by simp)
      intro t' hturn hs
      obtain rfl := Turn.start.inj hturn
      obtain ⟨⟨job, listener, stage⟩, htask, rfl⟩ := Option.map_eq_some_iff.mp hs
      exact hready job listener htask
  | attempt id => exact h.runAttempt (hfound id rfl)
  | rest id =>
    refine h.handOver (fun _ hm => List.mem_append_left _ hm) (by simp) (by simp) ?_ (by simp)
    intro id' hturn hid
    obtain rfl : id = id' := by simpa using hturn
    have hp := h.proceeds id hid
    cases hphase : l.session.resolver.phase? id with
    | none => simp [Proceeds, hphase] at hp
    | some p =>
      refine proceeds_of_phase hphase ?_
        (.inr (.inr (.inl (List.mem_append_right _ List.mem_cons_self))))
      rintro f origin rfl
      simp [Proceeds, hphase] at hp
  | relay t =>
    refine h.handOver (fun _ hm => List.mem_append_left _ hm) (by simp) ?_ (by simp) ?_
    · exact fun t _ hs => absurd hs (hanswered t)
    · intro t' id v hturn ht ho
      obtain rfl : t = t' := by simpa using hturn
      exact .inr (.inl (List.mem_append_right _ List.mem_cons_self))
  | wake t => exact h.resume hV (hanswered t)
  | report parent child => exact (hother (by simp) (by simp)).takeReport parent child
  | complain t =>
    simp only [Loop.take]
    split
    · exact (hother (by simp) (by simp)).calm (calm_emit _ rfl)
    · exact hother (by simp) (by simp)
  | pause => exact hother (by simp) (by simp)

/-! ### All turns -/

/-- A turn that was asked for is taken up. -/
theorem Works.takeUp (h : Works V w none l) {turn : Turn} {rest : List Turn}
    (hq : l.queue = turn :: rest) : Works V w (some turn) { l with queue := rest } := by
  have hasked : ∀ other, Asked none l other → Asked (some turn) { l with queue := rest } other := by
    rintro other (hm | hturn)
    · rw [hq] at hm
      obtain rfl | hm := List.mem_cons.mp hm
      · exact .inr rfl
      · exact .inl hm
    · simp at hturn
  refine ⟨h.documents, h.workspace, h.config, h.refusal, ?_, ?_, ?_, ?_, h.view, h.clear⟩
  · intro t job listener ht
    obtain ⟨hstart, hjob⟩ := h.ready t job listener ht
    exact ⟨hasked _ hstart, hjob.imp_right fun ⟨_, hturn⟩ => by simp at hturn⟩
  · intro t ht
    have hturn := h.answered t ht
    simp at hturn
  · intro id hid
    exact (h.proceeds id hid).mono rfl (fun other _ => hasked other) (by simp)
  · intro t id v ht
    obtain ⟨hv, hid, htold⟩ := h.waits t id v ht
    refine ⟨hv, hid, htold.imp ?_ fun ⟨ho, ha⟩ => ⟨ho, ha.imp (hasked _) (hasked _)⟩⟩
    rintro ⟨hin, hnone | hturn⟩
    · exact ⟨hin, .inl hnone⟩
    · simp at hturn

/-- When no turn is asked for, nobody waits with a validation but whose turn is in hand. -/
theorem Works.not_waits (h : Works V w hand l) (hq : l.queue = [])
    (hhand : ∀ turn, hand = some turn → ∃ t, turn.IsOf t ∧ ∀ id v, ¬ l.Waits t id v)
    (t id : Nat) (v : Validation) : ¬ l.Waits t id v := by
  intro ht
  have hasked : ∀ turn, Asked hand l turn → hand = some turn := by
    rintro turn (hm | hturn)
    · simp [hq] at hm
    · exact hturn
  have hattempt : ∀ turn, (∀ t, ¬ turn.IsOf t) → hand ≠ some turn := by
    intro turn hnot hturn
    obtain ⟨t, hof, -⟩ := hhand turn hturn
    exact hnot t hof
  obtain ⟨-, hid, ⟨-, hnone | hturn⟩ | ⟨-, ha⟩⟩ := h.waits t id v ht
  · have hp := h.proceeds id hid
    unfold Proceeds at hp
    split at hp
    · exact hattempt _ (by simp [Turn.IsOf]) (hasked _ hp)
    · exact hattempt _ (by simp [Turn.IsOf]) hp
    · obtain ha | ha := hp
      · exact hattempt _ (by simp [Turn.IsOf]) (hasked _ ha)
      · exact hattempt _ (by simp [Turn.IsOf]) (hasked _ ha)
    · rename_i o hphase
      rw [Loop.outcomeOf, (Resolver.outcome?_eq_some _ _).mpr hphase] at hnone
      simp at hnone
    · exact hp
  · exact hattempt _ (by simp [Turn.IsOf]) hturn
  · obtain ha | ha := ha
    · obtain ⟨t', hof, hnot⟩ := hhand _ (hasked _ ha)
      obtain rfl : t = t' := by simpa [Turn.IsOf] using hof
      exact hnot id v ht
    · obtain ⟨t', hof, hnot⟩ := hhand _ (hasked _ ha)
      obtain rfl : t = t' := by simpa [Turn.IsOf] using hof
      exact hnot id v ht

/-- The session works for all open documents, or all that was asked for is a turn that may lead to
the validation of all documents. -/
inductive Goes (V : View) (l : Loop) : Prop where
  | works (h : Works V (fun _ => True) none l)
  | leads (t : Nat) (turn : Turn) (hturn : turn.IsOf t) (hqueue : l.queue = [turn])
      (h : Works V (fun _ => True) (some turn) { l with queue := [] })

/-- A turn that may lead to the validation of all documents. -/
theorem Works.lead {turn : Turn} (h : Works V (fun _ => True) (some turn) l) (hV : V.Sound)
    (hturn : turn.IsOf t) (hq : l.queue = []) : Goes V (l.take turn) := by
  have hwaits : ∀ {s : Stage}, l.stage? t = some s →
      (∀ id v told, s ≠ .resolving id (.conclude v told)) → ∀ t id v, ¬ l.Waits t id v := by
    intro s hs hne
    refine h.not_waits hq fun turn' hturn' => ?_
    obtain rfl := Option.some.inj hturn'
    exact ⟨t, hturn, fun id v ⟨told, hs'⟩ => hne id v told (Option.some.inj (hs.symm.trans hs'))⟩
  have hhand : ∀ turn', some turn = some turn' → turn'.IsOf t := by
    intro turn' hturn'
    obtain rfl := Option.some.inj hturn'
    exact hturn
  obtain rfl | rfl | rfl := hturn
  · simp only [Loop.take]
    split
    · rename_i job listener ht
      have hs : l.stage? t = some .ready := by
        rw [stage?, ht]
        rfl
      obtain ⟨-, hplain | ⟨hmain, -⟩⟩ := h.ready t job listener ht
      · exact .works (h.begin hV ht hhand hplain)
      · exact .works (h.beginMain hV ht hhand hmain (hwaits hs (by simp)))
    · rename_i hready
      refine .works (h.handOver (fun _ hm => hm) ?_ (by simp) (by simp) (by simp))
      intro t' hturn hs
      obtain rfl := Turn.start.inj hturn
      obtain ⟨⟨job, listener, stage⟩, htask, rfl⟩ := Option.map_eq_some_iff.mp hs
      exact hready job listener htask
  · refine .leads t (.wake t) (.inr (.inr rfl)) (by simp [Loop.take, enqueue, hq]) ?_
    show Works V (fun _ => True) (some (.wake t)) { l with queue := [] }
    refine h.handOver (by simp [hq]) (by simp) ?_ (by simp) ?_
    · intro t' hturn' _
      obtain rfl : t = t' := by simpa using hturn'
      exact .inr rfl
    · intro t' id v hturn' _ _
      obtain rfl : t = t' := by simpa using hturn'
      exact .inr (.inr rfl)
  · by_cases hs : l.stage? t = some (.answered true)
    · simp only [Loop.take, Loop.resume, hs, if_true]
      exact .works (h.beginRetry hV ⟨_, hs, rfl⟩ hhand (not_isDueBy hs (by simp) (by simp))
        (hwaits hs (by simp)))
    · exact .works (h.resume hV hs)

/-- Every turn keeps the session going. -/
theorem Goes.take (h : Goes V l) (hV : V.Sound) {turn : Turn} {rest : List Turn}
    (hq : l.queue = turn :: rest) : Goes V ({ l with queue := rest }.take turn) := by
  cases h with
  | works h =>
    refine .works ((h.takeUp hq).take hV ?_ ?_ ?_)
    · intro t job listener _ ht
      exact (h.ready t job listener ht).2.resolve_right (by simp)
    · intro t ht
      have hturn := h.answered t ht
      simp at hturn
    · intro id _ hid f origin hphase
      have hp := h.proceeds id hid
      unfold Proceeds at hp
      have hphase' : l.session.resolver.phase? id = some (.found f origin) := hphase
      simp [hphase'] at hp
  | leads t turn' hturn hqueue h =>
    obtain ⟨rfl, rfl⟩ := List.cons.inj (hq.symm.trans hqueue)
    exact h.lead hV hturn rfl

/-- All turns keep the session going. -/
theorem Goes.drain (h : Goes V l) (hV : V.Sound) (n : Nat) : Goes V (drain n l) := by
  induction n generalizing l with
  | zero => exact h
  | succ n ih =>
    unfold Loop.drain
    split
    · exact h
    · rename_i turn rest hq
      exact ih (h.take hV hq)

theorem Goes.works_of_idle (h : Goes V l) (hq : l.queue = []) :
    Works V (fun _ => True) none l := by
  cases h with
  | works h => exact h
  | leads t turn hturn hqueue h => simp [hq] at hqueue

/-- When no turn is asked for, every open file is fresh, unless a validation did not end well. -/
theorem Works.isFresh (h : Works V (fun _ => True) none l) (hq : l.queue = [])
    {p : String × Document} (hp : p ∈ V.documents.entries) {path : Path}
    (hpath : Uri.toPath? p.2.uri = .ok (some path)) : l.Spoiled ∨ V.IsFresh l p.2 := by
  obtain hs | hf | ⟨t, ⟨job, listener, ht, -⟩ | ⟨id, v, ht, -⟩⟩ := h.view p hp trivial path hpath
  · exact .inl hs
  · exact .inr hf
  · obtain ⟨hm | hturn, -⟩ := h.ready t job listener ht
    · simp [hq] at hm
    · simp at hturn
  · exact absurd ht (h.not_waits hq (by simp) t id v)

end Loop

end LintBridge
