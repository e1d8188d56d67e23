import LintBridge.Proofs.Loop.Attended
import LintBridge.Proofs.Loop.Upkeep
import LintBridge.Proofs.Report
import Mathlib.Algebra.Order.Group.Nat

/-! What a turn does to what is attended to: one lemma for each function that a turn is made of, in
the order in which they call each other. Whoever goes on pays with what its old place was worth for
its new place and for the turns that it asks for. -/

namespace LintBridge

/-- Does a job bring the documents along that its result is about? -/
def Job.bringsDocuments : Job → Bool
  | .validate _ | .validateMany (some _) => true
  | _ => false

/-- Changed settings leave all attempts as they are, though none is remembered. -/
theorem Session.applySettings_phase? {s s' : Session} {h h' : Host} {payload : Json}
    (ha : s.applySettings h payload = (.ok s', h')) :
    s'.resolver.phase? = s.resolver.phase? := by
  simp only [applySettings] at ha
  split at ha
  · simp at ha
  · obtain rfl := Except.ok.inj (Prod.mk.inj ha).1
    rfl

namespace Loop

variable {cs : Nat → Prop} {hand : Option Nat} {l l' : Loop} {t k n n' : Nat} {task : Task}
  {s : Stage}

theorem faithful_of_not_bringsDocuments {job : Job} (h : job.bringsDocuments = false) :
    l.Faithful t job s := by
  cases job with
  | validate d => simp [Job.bringsDocuments] at h
  | validateMany documents =>
    cases documents with
    | none => cases s <;> trivial
    | some ds => simp [Job.bringsDocuments] at h
  | _ => cases s <;> trivial

theorem faithful_of_plain {job : Job} (h : s = .ready ∨ s = .leaving ∨ s = .cancelled) :
    l.Faithful t job s := by
  obtain rfl | rfl | rfl := h <;>
  cases job with
  | validateMany documents => cases documents <;> trivial
  | _ => trivial

/-- What a task has come to fits its documents whatever else there is. -/
theorem faithful_done {job : Job} {r : TaskResult} (h : l.Faithful t job (.done r)) :
    l'.Faithful t job (.done r) := by
  cases job with
  | validate d => cases r <;> exact h
  | validateMany documents =>
    cases documents with
    | none => cases r <;> trivial
    | some ds => cases r <;> exact h
  | _ => trivial

/-! ### Going on -/

/-- A task goes on to another place and asks for turns. -/
theorem Attended.move (ha : Attended cs hand n l) (turns : List Turn)
    (hhand : hand = none ∨ hand = some t) (ht : l.tasks[t]? = some task)
    (hopen : task.stage.isOver = false)
    (hl' : l' = { l.setStage t s with queue := l.queue ++ turns })
    (hpending : ∀ p, l'.pending p = l.pending p)
    (hturns : ∀ turn ∈ turns, ∀ id, turn ≠ .attempt id ∧ turn ≠ .rest id)
    (hchildren : s.children.length ≤ l.tasks.length) (hdue : l'.Due cs t s)
    (hfaithful : l'.Faithful t task.job s)
    (hwork : n + s.worth l.documents.size task.job +
      (turns.map (Turn.worth l.session.resolver)).sum ≤ n' + task.worth l.documents.size) :
    Attended cs none n' l' := by
  have hself : l'.tasks[t]? = some { task with stage := s } := by
    rw [hl']
    exact task?_setStage_self ht s
  have hother : ∀ t', t ≠ t' → l'.tasks[t']? = l.tasks[t']? := by
    intro t' hne
    rw [hl']
    exact task?_setStage_of_ne hne s
  have hsession : l'.session = l.session := by rw [hl']; rfl
  have hwaiting : l'.waiting = l.waiting := by rw [hl']; rfl
  have hlength : l'.tasks.length = l.tasks.length := by simp [hl', setStage]
  have hmem : ∀ turn ∈ l.queue, turn ∈ l'.queue := by
    intro turn hm
    rw [hl']
    exact List.mem_append_left _ hm
  have hattempt : ∀ id, .attempt id ∈ l'.queue ∨ .rest id ∈ l'.queue →
      .attempt id ∈ l.queue ∨ .rest id ∈ l.queue := by
    intro id hm
    have hqueue : l'.queue = l.queue ++ turns := by rw [hl']
    rw [hqueue, List.mem_append, List.mem_append] at hm
    refine hm.imp (fun h => h.resolve_right fun hm' => (hturns _ hm' id).1 rfl) fun h =>
      h.resolve_right fun hm' => (hturns _ hm' id).2 rfl
  refine ⟨fun id p hp => ?_, fun id hk => ?_, fun id t' hw => ?_, fun task' hm => ?_,
    fun t' s' _ hs => ?_, fun t' task' ht' => ?_, ?_⟩
  · rw [hsession] at hp
    exact (ha.unsettled id p hp).imp_right fun h => ⟨h.1, h.2.imp (hmem _) (hmem _)⟩
  · rw [hsession] at hk ⊢
    refine ha.known id (or_assoc.mp ?_)
    exact (or_assoc.mpr hk).imp_left (hattempt id)
  · rw [hsession]
    exact ha.waiting id t' (hwaiting ▸ hw)
  · rw [hlength]
    obtain ⟨t', ht'⟩ := List.mem_iff_getElem?.mp hm
    by_cases hne : t = t'
    · subst hne
      obtain rfl := Option.some.inj (hself.symm.trans ht')
      exact hchildren
    · exact ha.children task' (List.mem_of_getElem? ((hother t' hne).symm.trans ht'))
  · by_cases hne : t = t'
    · subst hne
      obtain rfl := Option.some.inj ((stage?_of_task hself).symm.trans hs)
      exact hdue
    · rw [stage?, hother t' hne] at hs
      refine due_mono (fun _ => hmem _) (fun hm => .inl (hmem _ hm)) (hmem _)
        (fun id hw => .inl (hwaiting.symm ▸ hw))
        (fun id ho => hsession.symm ▸ ho) (fun _ _ _ => Nat.le_of_eq (hpending t').symm)
        (ha.due t' s' (hand_ne hhand hne) hs)
  · by_cases hne : t = t'
    · subst hne
      obtain rfl := Option.some.inj (hself.symm.trans ht')
      exact hfaithful
    · refine faithful_mono (ha.faithful t' task' ((hother t' hne).symm.trans ht')) ?_ ?_
      · intro c d s' hc
        by_cases hnc : t = c
        · subst hnc
          obtain rfl := Option.some.inj (ht.symm.trans hc)
          exact ⟨s, hself⟩
        · exact ⟨s', (hother c hnc).trans hc⟩
      · intro c e he
        have hnc : t ≠ c := by
          rintro rfl
          rw [result?_eq_some, stage?_of_task ht] at he
          rw [Option.some.inj he] at hopen
          simp [Stage.isOver] at hopen
        rwa [result?, stage?, hother c hnc, ← stage?, ← result?]
  · have hput := work_setStage ht s
    have hturned := work_append (l.setStage t s) l' turns [] (by rw [hl']) (by rw [hl']; rfl)
      (by rw [hl']) (by rw [hl', List.append_nil]) (by rw [hl'])
    have hle := ha.work
    simp only [List.map_nil, List.sum_nil] at hturned
    have hresolver : (l.setStage t s).session.resolver = l.session.resolver := rfl
    rw [hresolver] at hturned
    omega

/-- A task goes on to another place, which is not its end. -/
theorem Attended.put (ha : Attended cs hand n l) (hhand : hand = none ∨ hand = some t)
    (ht : l.tasks[t]? = some task) (hopen : task.stage.isOver = false) (hs : s.isDone = false)
    (hchildren : s.children.length ≤ l.tasks.length) (hdue : (l.setStage t s).Due cs t s)
    (hfaithful : (l.setStage t s).Faithful t task.job s)
    (hwork : n + s.worth l.documents.size task.job ≤ n' + task.worth l.documents.size) :
    Attended cs none n' (l.setStage t s) :=
  ha.move [] hhand ht hopen (by rw [List.append_nil]; rfl)
    (pending_setStage ht (hs.trans (isDone_of_isOver hopen).symm)) (by simp) hchildren hdue
    hfaithful hwork

/-- A task comes to its end, and asks at most for the turn in which its listener is told. -/
theorem Attended.finish (ha : Attended cs hand n l) (hhand : hand = none ∨ hand = some t)
    (ht : l.tasks[t]? = some task) (hopen : task.stage.isOver = false) {r : TaskResult}
    (hfaithful : l.Faithful t task.job (.done r))
    (hwork : n + 1 ≤ n' + task.worth l.documents.size) : Attended cs none n' (l.finish t r) := by
  have hend : ∀ turns : List Turn, (∀ p, turns.countP (Turn.reportsTo p) =
      (reportOf t task.listener).countP (Turn.reportsTo p)) →
      (∀ turn ∈ turns, ∀ id, turn ≠ .attempt id ∧ turn ≠ .rest id) →
      (turns.map (Turn.worth l.session.resolver)).sum ≤ 1 →
      Attended cs none n' { l.setStage t (.done r) with queue := l.queue ++ turns } := by
    intro turns hcount hturns hle
    refine ha.move _ hhand ht hopen rfl (fun p => ?_) hturns (Nat.zero_le _) trivial
      (faithful_done hfaithful) ?_
    · rw [← pending_done ht (isDone_of_isOver hopen) r p]
      simp only [pending, List.countP_append, hcount]
    · have hzero : (Stage.done r).worth l.documents.size task.job = 0 := rfl
      omega
  simp only [Loop.finish, task?_setStage_self ht, Option.map_some]
  cases hl : task.listener with
  | task p => exact hend [.report p t] (fun _ => by rw [hl]; rfl) (by simp) (Nat.le_refl 1)
  | nobody =>
    have hplain := hend [] (fun _ => by rw [hl]; rfl) (by simp) (Nat.zero_le 1)
    rw [List.append_nil] at hplain
    exact hplain
  | editor =>
    have hplain := hend [] (fun _ => by rw [hl]; rfl) (by simp) (Nat.zero_le 1)
    rw [List.append_nil] at hplain
    cases r with
    | raised e => exact hend [.complain t] (fun _ => by rw [hl]; rfl) (by simp) (Nat.le_refl 1)
    | _ => exact hplain

/-- A task comes to its end after a steady change. -/
theorem Attended.finishAfter (ha : Attended cs hand n l) (h : Steady k l l')
    (hhand : hand = none ∨ hand = some t) (ht : l.tasks[t]? = some task)
    (hopen : task.stage.isOver = false) {r : TaskResult}
    (hfaithful : l.Faithful t task.job (.done r))
    (hwork : n + k + 1 ≤ n' + task.worth l.documents.size) :
    Attended cs none n' (l'.finish t r) := by
  rw [← h.documents] at hwork
  exact (ha.steady h).finish hhand (h.idle.task? ht) hopen (faithful_done hfaithful) hwork

/-! ### Waiting for an attempt -/

theorem steady_resolver (l : Loop) {r : Resolver} (h : Host)
    (phases : r.phase? = l.session.resolver.phase?)
    (memo : ∀ p ∈ r.memo, p ∈ l.session.resolver.memo) :
    Steady 0 l { l with session.resolver := r, host := h } :=
  .of_eq rfl rfl rfl rfl phases memo

/-- A task whose workspace is resolved goes on to its end, and may tell the editor. -/
theorem Attended.proceed (ha : Attended cs hand n l) (hhand : hand = none ∨ hand = some t)
    (ht : l.tasks[t]? = some task) (hopen : task.stage.isOver = false) {c : Continuation}
    (hc : c.Fits task.job)
    (hconclude : ∀ d, task.job = .validate d → d.IsAccepted ∧
      ∃ v, c = .conclude v false ∧ v.document = d)
    (o : Outcome) (hwork : n + 2 ≤ n' + task.worth l.documents.size) :
    Attended cs none n' (l.proceed t c o) := by
  cases c with
  | answer =>
    refine ha.finish hhand ht hopen (faithful_of_not_bringsDocuments ?_) (by omega)
    obtain ⟨root, hjob⟩ := hc
    rw [hjob]
    rfl
  | warmUp =>
    have hjob : task.job.bringsDocuments = false := by
      rw [show task.job = .warmUp from hc]
      rfl
    simp only [Loop.proceed]
    split
    · exact ha.finishAfter (steady_markOutcome l o) hhand ht hopen
        (faithful_of_not_bringsDocuments hjob) (by omega)
    · exact ha.finishAfter (steady_notify l _) hhand ht hopen (faithful_of_not_bringsDocuments hjob)
        (by omega)
  | conclude v told =>
    have hresolver := l.concluded_resolver v o
    have hconcluded : Steady 0 l (l.concluded v o) :=
      .of_eq rfl rfl rfl rfl (congrArg Resolver.phase? hresolver)
        fun p hp => congrArg Resolver.memo hresolver ▸ hp
    have hplain : told = true → task.job.bringsDocuments = false := by
      intro htold
      have htells := hc.2.mp htold
      cases hjob : task.job <;> simp_all [Job.Tells, Job.bringsDocuments]
    -- without telling, a validation of a batch ends as it was concluded
    have hresult : ∀ r, (∀ d, task.job = .validate d → v.document = d → d.IsAccepted →
        l.Faithful t (.validate d) (.done r)) → l.Faithful t task.job (.done r) := by
      intro r hr
      cases hjob : task.job with
      | validate d =>
        obtain ⟨hd, v', hv', hdocument⟩ := hconclude d hjob
        obtain ⟨rfl, -⟩ := Continuation.conclude.inj hv'
        exact hr d hjob hdocument hd
      | validateMany documents =>
        have hbatch := hc.1
        simp [hjob, Job.IsValidation] at hbatch
      | _ => trivial
    have hvalidation : ∀ r, (l.session.conclude l.host v o).1 = .ok r →
        l.Faithful t task.job (.done (.validation r)) := fun r hr =>
      hresult _ fun d _ hdocument hd => ⟨hd, by rw [l.session.conclude_uri l.host hr, hdocument]⟩
    have hcases := l.proceed_conclude_cases t v o told
    generalize l.proceed t (.conclude v told) o = l' at hcases ⊢
    cases hcases with
    | untold e result =>
      refine ha.finishAfter hconcluded hhand ht hopen (hresult _ fun d _ _ hd => .inr ⟨hd, ?_⟩)
        (by omega)
      exact l.session.conclude_error l.host result
    | silent r result isTold =>
      exact ha.finishAfter hconcluded hhand ht hopen (hvalidation r result) (by omega)
    | unnoticed r result isTold e notice =>
      exact ha.finishAfter (hconcluded.trans (steady_markOutcome _ o)) hhand ht hopen
        (faithful_of_not_bringsDocuments (hplain isTold)) (by omega)
    | noticed r result isTold n notice =>
      exact ha.finishAfter (hconcluded.trans (steady_notify _ n)) hhand ht hopen
        (hvalidation r result) (by omega)

/-- A new attempt is asked for a turn, and remembered. -/
theorem Attended.attempting (ha : Attended cs hand n l) (key : String) (h : Host) :
    Attended cs hand (n + 3) (({ l with
      session.resolver := (l.session.resolver.begin key).1, host := h } : Loop).enqueue
        (.attempt l.session.resolver.attempts.length)) := by
  have hnew := l.session.resolver.phase?_begin_self key
  have hold : ∀ id', l.session.resolver.phase? id' ≠ none →
      (l.session.resolver.begin key).1.phase? id' = l.session.resolver.phase? id' := by
    intro id' hknown
    obtain ⟨p, hp⟩ := Option.ne_none_iff_exists'.mp hknown
    exact Resolver.phase?_begin_of_lt _ _ (Resolver.phase?_lt _ _ hp) key
  have hback := fun id' p => @Resolver.phase?_begin_cases l.session.resolver id' key p
  generalize hid : l.session.resolver.attempts.length = id at hnew hback
  generalize hr : (l.session.resolver.begin key).1 = r at hnew hold hback
  have hmem : ∀ {turn : Turn}, turn ∈ l.queue ++ [.attempt id] ↔
      turn ∈ l.queue ∨ turn = .attempt id := by
    simp
  refine ⟨fun id' p hp => ?_, fun id' hk => ?_, fun id' t' hw => ?_, ha.children,
    fun t' s' hhand hs => ?_, fun t' task' ht' => ?_, ?_⟩
  · obtain ⟨rfl, rfl⟩ | hp := hback id' p hp
    · exact .inr ⟨by simp, .inl (hmem.mpr (.inr rfl))⟩
    · exact (ha.unsettled id' p hp).imp_right fun h => ⟨h.1,
        h.2.imp (fun hm => hmem.mpr (.inl hm)) fun hm => hmem.mpr (.inl hm)⟩
  · by_cases he : id' = id
    · subst he
      show r.phase? id' ≠ none
      simp [hnew]
    · have hknown : l.session.resolver.phase? id' ≠ none := by
        refine ha.known id' ?_
        obtain hm | hm | ⟨key', hm⟩ := hk
        · exact .inl ((hmem.mp hm).resolve_right fun h => he (Turn.attempt.inj h))
        · exact .inr (.inl ((hmem.mp hm).resolve_right (by simp)))
        · refine .inr (.inr ⟨key', ?_⟩)
          have hmemo : (key', id') ∈ r.memo := hm
          simp only [← hr, Resolver.begin, List.mem_cons, Prod.mk.injEq] at hmemo
          obtain ⟨-, hlast⟩ | hmemo := hmemo
          · exact absurd (hlast.trans hid) he
          · exact (List.mem_filter.mp hmemo).1
      show r.phase? id' ≠ none
      rwa [hold id' hknown]
  · obtain ⟨hknown, hopen⟩ := ha.waiting id' t' hw
    refine ⟨fun h => hknown ((hold id' hknown).symm.trans h), ?_⟩
    show r.outcome? id' = none
    rwa [Resolver.outcome?, hold id' hknown, ← Resolver.outcome?]
  · refine due_mono (fun _ hm => hmem.mpr (.inl hm)) (fun hm => .inl (hmem.mpr (.inl hm)))
      (fun hm => hmem.mpr (.inl hm)) (fun _ hw => .inl hw) (fun id' ho => ?_)
      (fun _ _ _ => Nat.le_of_eq ?_) (ha.due t' s' hhand hs)
    · have hknown : l.session.resolver.phase? id' ≠ none := by
        intro hunknown
        simp [Resolver.outcome?, hunknown] at ho
      show r.outcome? id' ≠ none
      rwa [Resolver.outcome?, hold id' hknown, ← Resolver.outcome?]
    · exact (pending_enqueue _ (.attempt id) rfl t').symm
  · exact faithful_mono (ha.faithful t' task' ht') (fun c d s' hc => ⟨s', hc⟩) fun c e he => he
  · have hturns : (l.queue.map (Turn.worth r)) =
        l.queue.map (Turn.worth l.session.resolver) := by
      refine List.map_congr_left fun turn hm => ?_
      cases turn with
      | attempt id' =>
        simp only [Turn.worth, Resolver.turnsLeft, hold id' (ha.known id' (.inl hm))]
      | rest id' =>
        simp only [Turn.worth, Resolver.turnsLeft, hold id' (ha.known id' (.inr (.inl hm)))]
      | _ => rfl
    have hthree : (Turn.attempt id).worth r = 3 := by
      simp [Turn.worth, Resolver.turnsLeft, hnew]
    have hle := ha.work
    simp only [Loop.work, enqueue, List.map_append, List.sum_append, hturns, List.map_cons,
      List.map_nil, List.sum_cons, List.sum_nil, hthree] at hle ⊢
    omega

/-- Asking for the module of a workspace may take the turns of a new attempt. -/
theorem Attended.asking (ha : Attended cs hand n l) (root : String) :
    Attended cs hand (n + 3) (l.asking root) ∧
      (l.asking root).session.resolver.phase? (l.attemptAsked root) ≠ none := by
  cases hlookup : l.session.resolver.memo.lookup (Resolver.key l.host root) with
  | some id =>
    have hasking : l.asking root = l ∧ l.attemptAsked root = id := by
      simp [Loop.asking, attemptAsked, Resolver.attemptFor, hlookup]
    rw [hasking.1, hasking.2]
    exact ⟨ha.le (Nat.le_add_right n 3),
      ha.known id (.inr (.inr ⟨_, Table.mem_of_lookup hlookup⟩))⟩
  | none =>
    simp only [Loop.asking, attemptAsked, Resolver.attemptFor, hlookup]
    refine ⟨ha.attempting _ _, ?_⟩
    show (l.session.resolver.begin (Resolver.key l.host root)).1.phase?
      l.session.resolver.attempts.length ≠ none
    simp [Resolver.phase?_begin_self]

theorem idle_asking (l : Loop) (root : String) : Idle l (l.asking root) := by
  have hasks : Idle l { l with
      session.resolver := (l.session.resolver.attemptFor l.host root).2.1
      host := (l.session.resolver.attemptFor l.host root).2.2 } := .of_eq rfl rfl
  simp only [Loop.asking]
  split
  · exact hasks.trans (idle_enqueue _ rfl)
  · exact hasks

/-- A task waits for an attempt that has not settled. -/
theorem Attended.waitFor (ha : Attended cs hand n l) {id : Nat}
    (hknown : l.session.resolver.phase? id ≠ none) (hopen : l.session.resolver.outcome? id = none)
    (t : Nat) : Attended cs hand (n + 2) { l with waiting := l.waiting ++ [(id, t)] } where
  unsettled := ha.unsettled
  known := ha.known
  waiting id' t' hw := by
    obtain hw | hw := List.mem_append.mp hw
    · exact ha.waiting id' t' hw
    · obtain ⟨rfl, rfl⟩ := Prod.mk.inj (List.mem_singleton.mp hw)
      exact ⟨hknown, hopen⟩
  children := ha.children
  due t' s' hhand hs := due_mono (l := l) (fun _ hm => hm) (fun hm => .inl hm) (fun hm => hm)
    (fun _ hw => .inl (List.mem_append_left _ hw)) (fun _ ho => ho) (fun _ _ _ => Nat.le_refl _)
    (ha.due t' s' hhand hs)
  faithful t' task' ht' := faithful_mono (ha.faithful t' task' ht') (fun c d s' hc => ⟨s', hc⟩)
    fun c e he => he
  work := by
    have hle := ha.work
    simp only [Loop.work, List.length_append, List.length_singleton] at hle ⊢
    omega

/-- A task that asks for the module of a workspace goes on with what the attempt comes to. -/
theorem Attended.await (ha : Attended cs hand n l) (hhand : hand = none ∨ hand = some t)
    (ht : l.tasks[t]? = some task) (hopen : task.stage.isOver = false) (root : String)
    {c : Continuation} (hc : c.Fits task.job)
    (hconclude : ∀ d, task.job = .validate d → d.IsAccepted ∧
      ∃ v, c = .conclude v false ∧ v.document = d)
    (hwork : n + 7 ≤ n' + task.worth l.documents.size) :
    Attended cs none n' (l.await t root c) := by
  cases hr : l.session.resolver.refusal with
  | some refusal =>
    have hrefuse : (refuse l.session.resolver refusal).1.phase? = l.session.resolver.phase? ∧
        (refuse l.session.resolver refusal).1.memo = l.session.resolver.memo := by
      simp only [refuse]
      split <;> exact ⟨rfl, rfl⟩
    have hsteady := l.steady_resolver l.host hrefuse.1 fun p hp => hrefuse.2 ▸ hp
    simp only [Loop.await, hr]
    exact (ha.steady hsteady).proceed hhand ht hopen hc hconclude _ (Nat.le_trans (by omega) hwork)
  | none =>
    obtain ⟨hasks, hknown⟩ := ha.asking root
    have ht' := (l.idle_asking root).task? ht
    obtain ⟨-, hwaiting, hdocuments⟩ : (l.asking root).tasks = l.tasks ∧
        (l.asking root).waiting = l.waiting ∧ (l.asking root).documents = l.documents := by
      simp only [Loop.asking]
      split <;> exact ⟨rfl, rfl, rfl⟩
    rw [← hdocuments] at hwork
    cases ho : (l.asking root).session.resolver.outcome? (l.attemptAsked root) with
    | some o =>
      rw [await_of_settled hr ho]
      exact hasks.proceed hhand ht' hopen hc hconclude o (by omega)
    | none =>
      rw [await_of_unsettled hr ho, ← hwaiting]
      refine (hasks.waitFor hknown ho t).put hhand (s := .resolving (l.attemptAsked root) c) ht'
        hopen rfl (Nat.zero_le _) (.inl (List.mem_append_right _ List.mem_cons_self)) ?_ ?_
      · cases hjob : task.job with
        | validate d => exact hconclude d hjob
        | validateMany documents => cases documents <;> trivial
        | _ => trivial
      · show n + 3 + 2 + 2 ≤ n' + task.worth (l.asking root).documents.size
        omega

/-! ### Beginning -/

/-- A validation begins: it ends at once if the URI is refused or not that of a file. -/
theorem Attended.beginValidation (ha : Attended cs hand n l)
    (hhand : hand = none ∨ hand = some t) (ht : l.tasks[t]? = some task)
    (hopen : task.stage.isOver = false) {d : Document} {told : Bool}
    (hjob : task.job.IsValidation) (htold : told = true ↔ task.job.Tells)
    (hown : ∀ d', task.job = .validate d' → d' = d)
    (hwork : n + 7 ≤ n' + task.worth l.documents.size) :
    Attended cs none n' (l.beginValidation t d told) := by
  have hquiet : ∀ d', task.job = .validate d' → told = false := by
    intro d' hd'
    simpa [hd', Job.Tells] using htold
  simp only [Loop.beginValidation]
  have hcases := l.session.begin_cases l.host d
  generalize l.session.begin l.host d = begun at hcases ⊢
  obtain ⟨result, session, host⟩ := begun
  have hresolver : session.resolver = l.session.resolver := by
    cases hcases <;> rfl
  have hbegun : Steady 0 l { l with session := session, host := host } :=
    .of_eq rfl rfl rfl rfl (congrArg Resolver.phase? hresolver)
      fun p hp => congrArg Resolver.memo hresolver ▸ hp
  cases hcases with
  | refused e uri =>
    refine ha.finishAfter hbegun hhand ht hopen ?_ (by omega)
    cases hj : task.job with
    | validate d' => exact .inl (hown d' hj ▸ uri)
    | validateMany documents => simp [hj, Job.IsValidation] at hjob
    | _ => trivial
  | skipped h' uri =>
    refine ha.finishAfter hbegun hhand ht hopen ?_ (by omega)
    cases hj : task.job with
    | validate d' =>
      obtain rfl := hown d' hj
      exact ⟨⟨none, uri⟩, rfl⟩
    | validateMany documents => simp [hj, Job.IsValidation] at hjob
    | _ => trivial
  | waits path uri =>
    refine (ha.steady hbegun).await hhand ht hopen _ ⟨hjob, htold⟩ (fun d' hd' => ?_)
      (Nat.le_trans (by omega) hwork)
    obtain rfl := hown d' hd'
    exact ⟨⟨some path, uri⟩, _, by rw [hquiet d' hd'], rfl⟩

/-- Validations that a task starts are each worth eight turns. -/
theorem Attended.started (ha : Attended cs hand n l) (hhand : hand = none ∨ hand = some t)
    (documents : List Document) : Attended cs (some t) (n + 8 * documents.length)
      (l.started t documents ((List.range' l.tasks.length documents.length).map .start)) := by
  have hstarts := filter_isReport_starts (List.range' l.tasks.length documents.length)
  have hstart : ∀ c, l.tasks.length ≤ c → c < l.tasks.length + documents.length →
      .start c ∈ (List.range' l.tasks.length documents.length).map Turn.start := by
    intro c hge hlt
    exact List.mem_map_of_mem (List.mem_range'_1.mpr ⟨hge, hlt⟩)
  have hturns : (((List.range' l.tasks.length documents.length).map Turn.start).map
      (Turn.worth l.session.resolver)).sum = documents.length := by
    have hone : Turn.worth l.session.resolver ∘ Turn.start = fun _ => 1 := rfl
    rw [List.map_map, hone, List.map_const', List.sum_replicate, List.length_range']
    simp
  have hnot : ∀ id, .attempt id ∉ (List.range' l.tasks.length documents.length).map Turn.start ∧
      .rest id ∉ (List.range' l.tasks.length documents.length).map Turn.start := by
    simp
  generalize (List.range' l.tasks.length documents.length).map Turn.start = starts
    at hstarts hstart hturns hnot
  have hmem : ∀ turn ∈ l.queue, turn ∈ (l.started t documents starts).queue :=
    fun turn hm => List.mem_append_left _ hm
  have hattempt : ∀ id, .attempt id ∈ (l.started t documents starts).queue ∨
      .rest id ∈ (l.started t documents starts).queue →
      .attempt id ∈ l.queue ∨ .rest id ∈ l.queue := by
    intro id hm
    refine hm.imp (fun h => ?_) fun h => ?_
    · exact (List.mem_append.mp h).resolve_right (hnot id).1
    · exact (List.mem_append.mp h).resolve_right (hnot id).2
  refine ⟨fun id p hp => ?_, fun id hk => ?_, ha.waiting, fun task' hm => ?_,
    fun t' s' hne hs => ?_, fun t' task' ht' => ?_, ?_⟩
  · exact (ha.unsettled id p hp).imp_right fun h => ⟨h.1, h.2.imp (hmem _) (hmem _)⟩
  · refine ha.known id (or_assoc.mp ?_)
    exact (or_assoc.mpr hk).imp_left (hattempt id)
  · obtain ⟨t', ht'⟩ := List.mem_iff_getElem?.mp hm
    have hlength : l.tasks.length ≤ (l.started t documents starts).tasks.length := by
      simp [Loop.started]
    by_cases hlt : t' < l.tasks.length
    · rw [started_old hlt] at ht'
      exact Nat.le_trans (ha.children task' (List.mem_of_getElem? ht')) hlength
    · obtain ⟨-, d, rfl⟩ := started_new (Nat.le_of_not_lt hlt) ht'
      exact Nat.zero_le _
  · by_cases hlt : t' < l.tasks.length
    · have hold : l.stage? t' = some s' := by
        rwa [stage?, started_old hlt, ← stage?] at hs
      refine due_mono (fun _ => hmem _) (fun hm => .inl (hmem _ hm)) (hmem _) (fun _ hw => .inl hw)
        (fun _ ho => ho)
        (fun _ _ _ => ?_) (ha.due t' s' (hand_ne hhand fun he => hne (congrArg some he)) hold)
      rw [started_pending hstarts]
      exact Nat.le_add_right _ _
    · obtain ⟨task', htask', rfl⟩ := Option.map_eq_some_iff.mp hs
      obtain ⟨hbound, d, rfl⟩ := started_new (Nat.le_of_not_lt hlt) htask'
      exact List.mem_append_right _ (hstart t' (Nat.le_of_not_lt hlt) hbound)
  · by_cases hlt : t' < l.tasks.length
    · rw [started_old hlt] at ht'
      refine faithful_mono (ha.faithful t' task' ht') (fun c d s' hc => ⟨s', ?_⟩)
        fun c e he => started_result?.mpr he
      rw [started_old (List.getElem?_eq_some_iff.mp hc).1, hc]
    · obtain ⟨-, d, rfl⟩ := started_new (Nat.le_of_not_lt hlt) ht'
      trivial
  · have hwork := work_append l (l.started t documents starts) starts _ rfl rfl rfl rfl rfl
    have hseven : Task.worth l.documents.size ∘
        (fun d => (⟨.validate d, .task t, .ready⟩ : Task)) = fun _ => 7 := rfl
    rw [hturns, List.map_map, hseven, List.map_const', List.sum_replicate] at hwork
    have hle := ha.work
    have hproduct : documents.length • 7 = 7 * documents.length := Nat.mul_comm _ _
    omega

theorem validates_setStage {children : List Nat} {ds : List Document}
    (h : l.Validates t children ds) (t' : Nat) (s : Stage) :
    (l.setStage t' s).Validates t children ds := by
  refine validates_mono h fun c d s' hc => ?_
  by_cases hne : t' = c
  · subst hne
    exact ⟨s, task?_setStage_self hc s⟩
  · exact ⟨s', (task?_setStage_of_ne hne s).trans hc⟩

theorem started_validates (ht : t < l.tasks.length) (documents : List Document)
    (starts : List Turn) : (l.started t documents starts).Validates t
      (List.range' l.tasks.length documents.length) documents := by
  refine List.forall₂_iff_get.mpr ⟨List.length_range', fun i hi hi' => ?_⟩
  simp only [List.get_eq_getElem, List.getElem_range', Nat.one_mul]
  refine ⟨by omega, .ready, ?_⟩
  rw [Loop.started, List.getElem?_append_right (by omega), Nat.add_sub_cancel_left,
    List.getElem?_map, List.getElem?_eq_getElem hi']
  rfl

/-- A task that begins to validate documents waits for as many validations. -/
theorem Attended.beginMany (ha : Attended cs hand n l) (hhand : hand = none ∨ hand = some t)
    (ht : l.tasks[t]? = some task) (hopen : task.stage.isOver = false)
    (hjob : task.job.IsBatch) (documents : List Document)
    (hown : ∀ ds, task.job = .validateMany (some ds) → ds = documents)
    (hwork : n + (9 * documents.length + 2) ≤ n' + task.worth l.documents.size) :
    Attended cs none n' (l.beginMany t documents) := by
  have hlt := (List.getElem?_eq_some_iff.mp ht).1
  have hbatch : ∀ d, task.job ≠ .validate d := by
    intro d hd
    simp [hd, Job.IsBatch] at hjob
  have hstarted := ha.started hhand documents
  have hstarts := filter_isReport_starts (List.range' l.tasks.length documents.length)
  have ht' : (l.started t documents ((List.range' l.tasks.length documents.length).map
      .start)).tasks[t]? = some task := (started_old hlt).trans ht
  simp only [Loop.beginMany, l.spawnAll_validate t documents, List.isEmpty_iff,
    List.range'_eq_nil_iff, List.length_range']
  split
  · rename_i hnone
    obtain rfl : documents = [] := List.length_eq_zero_iff.mp hnone
    refine hstarted.finish (.inr rfl) ht' hopen ?_ (Nat.le_trans (by simp) hwork)
    cases hj : task.job with
    | validate d => exact absurd hj (hbatch d)
    | validateMany documents =>
      cases documents with
      | none => trivial
      | some ds =>
        obtain rfl := hown ds hj
        exact ⟨by simp, rfl⟩
    | _ => trivial
  · refine hstarted.put (.inr rfl) ht' hopen rfl ?_ ?_ ?_ ?_
    · simp [Stage.children, Loop.started]
    · refine ⟨by omega, ?_⟩
      rw [pending_setStage ht' (s := .gathering _ _)
        (isDone_of_isOver hopen).symm, started_pending hstarts, if_pos rfl]
      exact Nat.le_add_left _ _
    · cases hj : task.job with
      | validate d => exact absurd hj (hbatch d)
      | validateMany documents' =>
        cases documents' with
        | none => trivial
        | some ds =>
          obtain rfl := hown ds hj
          exact validates_setStage (started_validates hlt ds _) t _
      | _ => trivial
    · show n + 8 * documents.length + (_ + 2) ≤ _
      rw [List.length_range']
      exact Nat.le_trans (by omega) hwork

theorem Attended.beginAll (ha : Attended cs hand n l) (hhand : hand = none ∨ hand = some t)
    (ht : l.tasks[t]? = some task) (hopen : task.stage.isOver = false) (hjob : task.job.IsBatch)
    (hplain : task.job.bringsDocuments = false)
    (hwork : n + (9 * l.documents.size + 2) ≤ n' + task.worth l.documents.size) :
    Attended cs none n' (l.beginAll t) := by
  simp only [Loop.beginAll]
  split
  · exact ha.finish hhand ht hopen (faithful_of_not_bringsDocuments hplain) (by omega)
  · rename_i documents hall
    rw [← DocumentSource.length_all hall] at hwork
    refine ha.beginMany hhand ht hopen hjob documents (fun ds hds => ?_)
      (by rwa [DocumentSource.length_all hall] at hwork ⊢)
    simp [hds, Job.bringsDocuments] at hplain

theorem Attended.beginAnew (ha : Attended cs hand n l) (hhand : hand = none ∨ hand = some t)
    (ht : l.tasks[t]? = some task) (hopen : task.stage.isOver = false) (hjob : task.job.IsBatch)
    (hplain : task.job.bringsDocuments = false)
    (hwork : n + (9 * l.documents.size + 2) ≤ n' + task.worth l.documents.size) :
    Attended cs none n' (l.beginAnew t) := by
  have hforgot : Steady 0 l { l with session := l.session.forgetAttempts l.host } :=
    .of_eq rfl rfl rfl rfl rfl (by simp [Session.forgetAttempts, Resolver.invalidate])
  exact (ha.steady hforgot).beginAll hhand ht hopen hjob hplain hwork

theorem Attended.beginRetry (ha : Attended cs hand n l) (hhand : hand = none ∨ hand = some t)
    (ht : l.tasks[t]? = some task) (hopen : task.stage.isOver = false) (hjob : task.job.IsBatch)
    (hplain : task.job.bringsDocuments = false)
    (hwork : n + (9 * l.documents.size + 2) ≤ n' + task.worth l.documents.size) :
    Attended cs none n' (l.beginRetry t) := by
  have hnoted := l.steady_resolver (l.host.note .info "Retrying module resolution") rfl
    fun _ hp => hp
  exact (ha.steady hnoted).beginAnew hhand ht hopen hjob hplain hwork

/-- A task begins: all that follows is paid with what its job is worth. -/
theorem Attended.begin (ha : Attended cs hand n l) (hhand : hand = none ∨ hand = some t)
    {job : Job} {a : Listener} (ht : l.tasks[t]? = some ⟨job, a, .ready⟩) :
    Attended cs none n (l.begin t job) := by
  cases job with
  | resolve root => exact ha.await hhand ht rfl root ⟨root, rfl⟩ (by simp) (Nat.le_refl _)
  | warmUp =>
    simp only [Loop.begin]
    split
    · exact ha.finish hhand ht rfl trivial (Nat.add_le_add_left (by decide : 1 ≤ 7) n)
    · exact ha.await hhand ht rfl _ rfl (by simp) (Nat.le_refl _)
  | validate d =>
    exact ha.beginValidation hhand ht rfl trivial (by simp [Job.Tells])
      (fun d' hd => (Job.validate.inj hd).symm) (Nat.le_refl _)
  | validateSingle d =>
    exact ha.beginValidation hhand ht rfl trivial (by simp [Job.Tells]) (by simp) (Nat.le_refl _)
  | validateOpen uri =>
    simp only [Loop.begin]
    split
    · exact ha.finish hhand ht rfl trivial (Nat.add_le_add_left (by decide : 1 ≤ 7) n)
    · exact ha.beginValidation hhand ht rfl trivial (by simp [Job.Tells]) (by simp)
        (Nat.le_refl _)
  | validateMany documents =>
    cases documents with
    | none => exact ha.beginAll hhand ht rfl trivial rfl (Nat.le_refl _)
    | some documents =>
      exact ha.beginMany hhand ht rfl trivial documents
        (fun ds hds => (Option.some.inj (Job.validateMany.inj hds)).symm) (Nat.le_refl _)
  | filesChanged => exact ha.beginAnew hhand ht rfl trivial rfl (Nat.le_refl _)
  | watchedFilesChanged count =>
    have hnoted := l.steady_resolver (l.host.note .debug s!"{count} watched file(s) changed") rfl
      fun _ hp => hp
    exact (ha.steady hnoted).beginAnew hhand ht rfl trivial rfl (Nat.le_refl _)
  | retry => exact ha.beginRetry hhand ht rfl trivial rfl (Nat.le_refl _)
  | updateSettings payload =>
    simp only [Loop.begin]
    split
    · rename_i e host _
      have hnoted := l.steady_resolver host rfl fun _ hp => hp
      exact ha.finishAfter hnoted hhand ht rfl trivial (Nat.add_le_add_left (Nat.le_add_left _ _) n)
    · rename_i session host happlied
      obtain ⟨-, -, hmemo, -⟩ := Session.applySettings_renews _ _ happlied
      have hchanged : Steady 0 l { l with session := session, host := host } :=
        .of_eq rfl rfl rfl rfl (Session.applySettings_phase? happlied) (by simp [hmemo])
      exact (ha.steady hchanged).beginAll hhand ht rfl trivial rfl (Nat.le_refl _)
  | question message =>
    have hasked : Steady 0 l
        ({ l with requests := l.requests + 1 }.emit [.ask l.requests message]) :=
      .of_eq rfl rfl rfl rfl rfl fun _ hp => hp
    exact (ha.steady hasked).put hhand (s := .asking l.requests) ht rfl rfl (Nat.zero_le _) trivial
      trivial (Nat.le_refl _)

/-! ### Ending a batch -/

/-- The results of a batch whose validations are all done without a fault are about its documents,
in order. -/
theorem results_of_validates (hfaithful : ∀ (c : Nat) (task : Task), l.tasks[c]? = some task →
      l.Faithful c task.job task.stage) {children : List Nat} {ds : List Document}
    (h : l.Validates t children ds)
    (hall : ∀ c ∈ children, ∃ r, l.result? c = some (.validation r)) :
    (∀ d ∈ ds, d.IsAccepted) ∧
      (children.filterMap l.validation?).map ValidationResult.uri = ds.map Document.uri := by
  induction h with
  | nil => exact ⟨by simp, rfl⟩
  | @cons c d children ds hcd h ih =>
    obtain ⟨-, s, hc⟩ := hcd
    obtain ⟨r, hr⟩ := hall c List.mem_cons_self
    obtain ⟨haccepted, huris⟩ := ih fun c' hc' => hall c' (List.mem_cons_of_mem _ hc')
    have hdone := hfaithful c _ hc
    have hs : s = .done (.validation r) :=
      Option.some.inj ((stage?_of_task hc).symm.trans (result?_eq_some.mp hr))
    subst hs
    obtain ⟨hd, huri⟩ : d.IsAccepted ∧ r.uri = d.uri := hdone
    refine ⟨by simpa using ⟨hd, haccepted⟩, ?_⟩
    rw [List.filterMap_cons_some (validation?_eq_some.mpr hr), List.map_cons, List.map_cons, huris,
      huri]

/-- A batch ends once all its validations are done, and tells the editor at most one error for
each. -/
theorem Attended.concludeBatch (ha : Attended cs hand n l) (hg : Gathers none l)
    (hhand : hand = none ∨ hand = some t) (ht : l.tasks[t]? = some task) {children : List Nat}
    (hs : task.stage = .gathered children none)
    (hwork : n + (children.length + 1) ≤ n' + task.worth l.documents.size) :
    Attended cs none n' (l.concludeBatch t children) := by
  have hopen : task.stage.isOver = false := by
    rw [hs]
    rfl
  have hjob : task.job.IsBatch := by
    have hfits := hg.fits t task ht
    rwa [hs] at hfits
  have hresults : ∀ ds, task.job = .validateMany (some ds) → (∀ d ∈ ds, d.IsAccepted) ∧
      (children.filterMap l.validation?).map ValidationResult.uri = ds.map Document.uri := by
    intro ds hds
    have hfaithful := ha.faithful t task ht
    rw [hs, hds] at hfaithful
    refine results_of_validates ha.faithful hfaithful.1 fun c hc => ?_
    obtain ⟨d, -, -, s, hcs⟩ := exists_right_of_forall₂ hfaithful.1 hc
    exact (hg.gathered t children (by rw [stage?_of_task ht, hs]) c (listener?_of_task hcs)).2
  have hdone : ∀ r, (∀ ds, task.job = .validateMany (some ds) →
      l.Faithful t (.validateMany (some ds)) (.done r)) → l.Faithful t task.job (.done r) := by
    intro r hr
    cases hj : task.job with
    | validate d => simp [hj, Job.IsBatch] at hjob
    | validateMany documents =>
      cases documents with
      | none => trivial
      | some ds => exact hr ds hj
    | _ => trivial
  simp only [Loop.concludeBatch]
  split
  · rename_i e he
    refine ha.finish hhand ht hopen (hdone _ fun ds hds => ?_) (by omega)
    obtain ⟨haccepted, huris⟩ := hresults ds hds
    obtain ⟨r, hr, hnotice⟩ := notices_error he
    obtain ⟨d, hd, hdr⟩ := List.mem_map.mp (huris ▸ List.mem_map_of_mem hr)
    obtain ⟨path, hpath⟩ := haccepted d hd
    exact ⟨d, hd, .inr ⟨haccepted d hd,
      l.session.notice_error_of_accepted (hdr ▸ hpath) hnotice⟩⟩
  · rename_i told htold
    generalize hbatch : told.foldl (fun b n => b.add n.2.1 (.bool n.2.2)) ErrorBatch.empty = batch
    have hlength : batch.announcements.length ≤ children.length := by
      have htells := length_announcements_le told ErrorBatch.empty
      rw [hbatch] at htells
      have hnotices := length_le_of_notices htold
      have hfilter := List.length_filterMap_le l.validation? children
      have hempty : ErrorBatch.empty.announcements.length = 0 := rfl
      omega
    have hmarked : Steady 0 l { l with session := told.foldl Session.markNotice l.session } := by
      have hkeeps := Session.foldl_markNotice l.session told
      refine .of_eq rfl rfl rfl rfl ?_ ?_
      · show (told.foldl Session.markNotice l.session).resolver.phase? = _
        rw [hkeeps]
        rfl
      · intro p hp
        have hmemo : p ∈ (told.foldl Session.markNotice l.session).resolver.memo := hp
        rwa [hkeeps] at hmemo
    refine ha.finishAfter (hmarked.trans (steady_announce _ _)) hhand ht hopen
      (hdone _ fun ds hds => hresults ds hds) (by omega)

/-! ### Turns of tasks -/

/-- A turn that is no longer asked for, and is not that of an attempt, leaves all but its task
attended to. -/
theorem Attended.drop {queue : List Turn} {turn : Turn}
    (ha : Attended cs none n { l with queue := queue }) (hqueue : queue.Perm (turn :: l.queue))
    (hturn : ∀ id, turn ≠ .attempt id ∧ turn ≠ .rest id)
    (hwork : n ≤ n' + turn.worth l.session.resolver) :
    Attended cs (turnTask? turn) n' l := by
  have hmem : ∀ turn', turn' ∈ queue → turn' = turn ∨ turn' ∈ l.queue := by
    intro turn' hm
    exact List.mem_cons.mp (hqueue.mem_iff.mp hm)
  have hback : ∀ turn' ∈ l.queue, turn' ∈ queue :=
    fun turn' hm => hqueue.mem_iff.mpr (List.mem_cons_of_mem _ hm)
  refine ⟨fun id p hp => ?_, fun id hk => ha.known id ?_, ha.waiting, ha.children,
    fun t s hne hs => ?_, fun t task ht => ?_, ?_⟩
  · refine (ha.unsettled id p hp).imp_right fun h => ⟨h.1, h.2.imp (fun hm => ?_) fun hm => ?_⟩
    · exact (hmem _ hm).resolve_left fun he => (hturn id).1 he.symm
    · exact (hmem _ hm).resolve_left fun he => (hturn id).2 he.symm
  · exact hk.imp (hback _) (Or.imp_left (hback _))
  · refine due_mono (l := { l with queue := queue }) (fun _ hm => ?_) (fun hm => .inl ?_)
      (fun hm => ?_) (fun _ hw => .inl hw) (fun _ ho => ho) (fun _ _ _ => ?_)
      (ha.due t s (by simp) hs)
    · exact (hmem _ hm).resolve_left fun he => hne (he ▸ rfl)
    · exact (hmem _ hm).resolve_left fun he => hne (he ▸ rfl)
    · exact (hmem _ hm).resolve_left fun he => hne (he ▸ rfl)
    · have hzero : turn.reportsTo t = false := by
        cases turn with
        | report p c =>
          have hpt : p ≠ t := fun he => hne (congrArg some he)
          simpa [Turn.reportsTo] using hpt
        | _ => rfl
      simp [pending, hqueue.countP_eq, hzero]
  · exact faithful_mono (ha.faithful t task ht) (fun c d s' hc => ⟨s', hc⟩) fun c e he => he
  · have hle := ha.work
    rw [work_perm hqueue] at hle
    omega

/-- The fault of a validation is a fit end for the batch that has gathered it. -/
theorem Attended.faithful_raised (ha : Attended cs hand n l) {job : Job} {children : List Nat}
    {e : Fault} (hfits : (Stage.gathered children (some e)).Fits job)
    (hfaithful : l.Faithful t job (.gathered children (some e))) :
    l.Faithful t job (.done (.raised e)) := by
  cases job with
  | validate d => exact hfits.elim
  | validateMany documents =>
    cases documents with
    | none => trivial
    | some ds =>
      obtain ⟨hvalidates, hraised⟩ := hfaithful
      obtain ⟨c, hc, hr⟩ := hraised e rfl
      obtain ⟨d, hd, -, s, hcs⟩ := exists_right_of_forall₂ hvalidates hc
      have hchild := ha.faithful c _ hcs
      obtain rfl := Option.some.inj ((stage?_of_task hcs).symm.trans (result?_eq_some.mp hr))
      exact ⟨d, hd, hchild⟩
  | _ => trivial

/-- A task that was waiting goes on. -/
theorem Attended.resume {queue : List Turn}
    (ha : Attended cs none (n + 1) { l with queue := queue })
    (hqueue : queue.Perm (.wake t :: l.queue)) (hg : Gathers none l) :
    Attended cs none n (l.resume t) := by
  have hrest : Attended cs (some t) n l := ha.drop hqueue (by simp) (Nat.le_refl _)
  simp only [Loop.resume]
  cases hs : l.stage? t with
  | none => exact hrest.settleHand fun s hs' => by simp [hs] at hs'
  | some s =>
    have hdue := ha.due t s (by simp) hs
    have hstay : l.Due cs t s → Attended cs none n l := fun hd =>
      hrest.settleHand fun s' hs' => Option.some.inj (hs.symm.trans hs') ▸ hd
    obtain ⟨task, ht, rfl⟩ := Option.map_eq_some_iff.mp hs
    have hfits := hg.fits t task ht
    have hfaithful := hrest.faithful t task ht
    have hworth : task.worth l.documents.size = task.stage.worth l.documents.size task.job := rfl
    cases hstage : task.stage with
    | ready =>
      rw [hstage] at hdue hstay
      exact hstay ((List.mem_cons.mp (hqueue.mem_iff.mp hdue)).resolve_left (by simp))
    | resolving id c =>
      rw [hstage] at hfits hfaithful hdue hstay hworth
      dsimp only
      split
      · refine hrest.proceed (.inr rfl) ht (by rw [hstage]; rfl) hfits (fun d hd => ?_) _
          (Nat.le_of_eq (by rw [hworth]; rfl))
        rw [hd] at hfaithful
        exact hfaithful
      · rename_i hnone
        exact hstay (.inl (Or.resolve_right hdue fun h => h.1 hnone))
    | gathering children missing =>
      rw [hstage] at hdue hstay
      refine hstay ⟨hdue.1, Nat.le_trans hdue.2 (Nat.le_of_eq ?_)⟩
      simp [pending, hqueue.countP_eq, Turn.reportsTo]
    | gathered children fault? =>
      rw [hstage] at hfits hfaithful hworth
      cases fault? with
      | none =>
        exact hrest.concludeBatch hg (.inr rfl) ht hstage (Nat.le_of_eq (by rw [hworth]; rfl))
      | some e =>
        have hone : (Stage.gathered children (some e)).worth l.documents.size task.job =
          children.length + 1 := rfl
        exact hrest.finish (.inr rfl) ht (by rw [hstage]; rfl)
          (hrest.faithful_raised hfits hfaithful) (by omega)
    | asking request =>
      rw [hstage] at hstay
      exact hstay trivial
    | answered again =>
      rw [hstage] at hfits hworth
      obtain ⟨message, hjob⟩ := hfits
      dsimp only
      split
      · exact hrest.beginRetry (.inr rfl) ht (by rw [hstage]; rfl) (by rw [hjob]; trivial)
          (by rw [hjob]; rfl) (Nat.le_of_eq (by rw [hworth]; rfl))
      · have hmany : (Stage.answered again).worth l.documents.size task.job =
          9 * l.documents.size + 2 := rfl
        exact hrest.finish (.inr rfl) ht (by rw [hstage]; rfl) (by rw [hjob]; trivial) (by omega)
    | done r =>
      rw [hstage] at hstay
      exact hstay trivial
    | leaving =>
      rw [hstage] at hdue
      exact hrest.put (.inr rfl) ht (by rw [hstage]; rfl) rfl (Nat.zero_le _) hdue.1
        (faithful_of_plain (.inr (.inr rfl))) (Nat.le_add_right n _)
    | cancelled =>
      rw [hstage] at hdue hstay
      exact hstay hdue

/-- The validations of a batch stay those of its documents wherever a task goes. -/
theorem faithful_gathering {job : Job} {children : List Nat} {missing : Nat}
    (h : l.Faithful t job (.gathering children missing)) (t' : Nat) (s : Stage) (missing' : Nat) :
    (l.setStage t' s).Faithful t job (.gathering children missing') := by
  cases job with
  | validateMany documents =>
    cases documents with
    | none => trivial
    | some ds => exact validates_setStage h t' s
  | _ => trivial

/-- The waiting of a batch ends, and it goes on at its turn. -/
theorem Attended.gathered (ha : Attended cs (some t) n l) (ht : l.tasks[t]? = some task)
    {children : List Nat} {missing : Nat} (hstage : task.stage = .gathering children missing)
    {fault? : Option Fault}
    (hfault : ∀ e, fault? = some e → ∃ c ∈ children, l.result? c = some (.raised e)) :
    Attended cs none n ((l.setStage t (.gathered children fault?)).enqueue (.wake t)) := by
  have hopen : task.stage.isOver = false := by rw [hstage]; rfl
  have hchildren : children.length ≤ l.tasks.length := by
    have hle := ha.children task (List.mem_of_getElem? ht)
    rwa [hstage] at hle
  have hfaithful := ha.faithful t task ht
  rw [hstage] at hfaithful
  refine ha.move [.wake t] (.inr rfl) ht hopen rfl (fun p => ?_) (by simp) hchildren
    (List.mem_append_right _ List.mem_cons_self) ?_ ?_
  · rw [pending_enqueue (l.setStage t (.gathered children fault?)) (.wake t) rfl]
    exact pending_setStage ht (s := .gathered children fault?) (isDone_of_isOver hopen).symm p
  · generalize task.job = job at hfaithful ⊢
    cases job with
    | validateMany documents =>
      cases documents with
      | none => trivial
      | some ds =>
        refine ⟨validates_setStage hfaithful t _, fun e he => ?_⟩
        obtain ⟨c, hc, hr⟩ := hfault e he
        have hne : t ≠ c := by
          rintro rfl
          rw [result?_eq_some, stage?_of_task ht, hstage] at hr
          simp at hr
        refine ⟨c, hc, ?_⟩
        rw [result?_eq_some] at hr ⊢
        exact (stage?_setStage_of_ne hne _).trans hr
    | _ => trivial
  · have hold : task.worth l.documents.size = children.length + 2 := by
      rw [Task.worth, hstage]
      rfl
    have hnew : (Stage.gathered children fault?).worth l.documents.size task.job =
      children.length + 1 := rfl
    have hone : (([.wake t] : List Turn).map (Turn.worth l.session.resolver)).sum = 1 := rfl
    omega

/-- A task takes in a report: its waiting ends with the last one, and with the first fault. -/
theorem Attended.takeReport {queue : List Turn} {p c : Nat}
    (ha : Attended cs none (n + 1) { l with queue := queue })
    (hg : Gathers none { l with queue := queue })
    (hqueue : queue.Perm (.report p c :: l.queue)) : Attended cs none n (l.takeReport p c) := by
  have hrest : Attended cs (some p) n l := ha.drop hqueue (by simp) (Nat.le_refl _)
  have hcount : ({ l with queue := queue } : Loop).pending p = l.pending p + 1 := by
    simp [pending, hqueue.countP_eq, Turn.reportsTo, Nat.add_assoc]
  simp only [Loop.takeReport]
  split
  · rename_i children missing hs
    obtain ⟨task, ht, hstage⟩ := Option.map_eq_some_iff.mp hs
    have hworth : task.worth l.documents.size = children.length + 2 := by
      rw [Task.worth, hstage]
      rfl
    have hopen : task.stage.isOver = false := by rw [hstage]; rfl
    have hdue := ha.due p _ (by simp) hs
    have hchildren : children.length ≤ l.tasks.length := by
      have hle := ha.children task (List.mem_of_getElem? ht)
      rwa [hstage] at hle
    have hend : ∀ fault?, (∀ e, fault? = some e → c ∈ children ∧ l.result? c = some (.raised e)) →
        Attended cs none n ((l.setStage p (.gathered children fault?)).enqueue (.wake p)) :=
      fun fault? hfault => hrest.gathered ht hstage fun e he => ⟨c, hfault e he⟩
    split
    · rename_i e he
      refine hend (some e) fun e' he' => ⟨?_, Option.some.inj he' ▸ he⟩
      have hlistener := hg.reports p c (hqueue.mem_iff.mpr List.mem_cons_self)
      exact ((hg.gathering p children missing (by simp) hs).2 c hlistener).1
    · split
      · exact hend none (by simp)
      · refine hrest.put (.inr rfl) ht hopen rfl hchildren ⟨by omega, ?_⟩ ?_
          (Nat.le_of_eq (congrArg (n + ·) hworth.symm))
        · rw [pending_setStage ht (s := .gathering _ _) (isDone_of_isOver hopen).symm]
          have hle := hdue.2
          omega
        · have hfaithful := hrest.faithful p task ht
          rw [hstage] at hfaithful
          exact faithful_gathering hfaithful p _ _
  · rename_i hs
    have hmem : ∀ turn, turn ≠ .report p c → turn ∈ queue → turn ∈ l.queue := fun turn hne hm =>
      (List.mem_cons.mp (hqueue.mem_iff.mp hm)).resolve_left hne
    refine hrest.settleHand fun s hs' => due_mono (l := { l with queue := queue })
      (fun _ => hmem _ (by simp)) (fun hm => .inl (hmem _ (by simp) hm)) (hmem _ (by simp))
      (fun _ hw => .inl hw) (fun _ ho => ho)
      (fun children missing h => absurd (h ▸ hs') (hs children missing)) (ha.due p s (by simp) hs')

/-! ### Turns of attempts -/

/-- An attempt has taken its turn: it has another one unless it has settled, and whoever no longer
waits for it is told of its outcome at a turn. -/
theorem Attended.tookTurn {queue turns : List Turn} {turn : Turn} {waiting : List (Nat × Nat)}
    {id : Nat} {p : Phase} {r : Resolver} (h : Host)
    (ha : Attended cs none (n + 1) { l with queue := queue })
    (hqueue : queue.Perm (turn :: l.queue)) (mine : turn = .attempt id ∨ turn = .rest id)
    (hother : ∀ id', id ≠ id' → r.phase? id' = l.session.resolver.phase? id')
    (hmemo : r.memo = l.session.resolver.memo) (hp : r.phase? id = some p)
    (hnext : (∃ o, p = .settled o) ∨
      (∀ f origin, p ≠ .found f origin) ∧ (.attempt id ∈ turns ∨ .rest id ∈ turns))
    (hturns : ∀ y ∈ turns, y = .attempt id ∨ y = .rest id ∨ ∃ t, y = .relay t)
    (houtcome : l.session.resolver.outcome? id ≠ none → r.outcome? id ≠ none)
    (hwaiting : ∀ w ∈ waiting, w ∈ l.waiting ∧ (w.1 = id → r.outcome? id = none))
    (htold : ∀ w ∈ l.waiting, w ∈ waiting ∨ w.1 = id ∧ r.outcome? id ≠ none ∧ .relay w.2 ∈ turns)
    (hwork : Loop.work { l with
      session.resolver := r, host := h, queue := l.queue ++ turns, waiting := waiting } ≤ n) :
    Attended cs none n { l with
      session.resolver := r, host := h, queue := l.queue ++ turns, waiting := waiting } := by
  have hsame : ∀ id', id ≠ id' → r.outcome? id' = l.session.resolver.outcome? id' :=
    fun id' hne => by simp [Resolver.outcome?, hother id' hne]
  -- no other turn is taken, and none but the attempt's own and those of who is told is new
  have hmem : ∀ y, y ≠ .attempt id → y ≠ .rest id → y ∈ queue → y ∈ l.queue ++ turns := by
    intro y hattempt hrest hm
    refine List.mem_append_left _ ((List.mem_cons.mp (hqueue.mem_iff.mp hm)).resolve_left ?_)
    rintro rfl
    exact mine.elim hattempt hrest
  have hback : ∀ y, y ≠ .attempt id → y ≠ .rest id → (∀ t, y ≠ .relay t) →
      y ∈ l.queue ++ turns → y ∈ queue := by
    intro y hattempt hrest hrelay hm
    refine hqueue.mem_iff.mpr (List.mem_cons_of_mem _ ((List.mem_append.mp hm).resolve_right ?_))
    intro hy
    obtain he | he | ⟨t, he⟩ := hturns y hy
    · exact hattempt he
    · exact hrest he
    · exact hrelay t he
  refine ⟨fun id' p' hp' => ?_, fun id' hk => ?_, fun id' t' hw => ?_, ha.children,
    fun t' s' _ hs => ?_, fun t' task' ht' => ?_, hwork⟩
  · by_cases hne : id = id'
    · subst hne
      obtain rfl := Option.some.inj (hp.symm.trans hp')
      exact hnext.imp_right fun hturn => ⟨hturn.1,
        hturn.2.imp (List.mem_append_right _) (List.mem_append_right _)⟩
    · have hold : l.session.resolver.phase? id' = some p' := (hother id' hne).symm.trans hp'
      refine (ha.unsettled id' p' hold).imp_right fun hturn => ⟨hturn.1, hturn.2.imp ?_ ?_⟩
      · exact hmem _ (fun he => hne (Turn.attempt.inj he).symm) (by simp)
      · exact hmem _ (by simp) fun he => hne (Turn.rest.inj he).symm
  · show r.phase? id' ≠ none
    by_cases hne : id = id'
    · subst hne
      simp [hp]
    · rw [hother id' hne]
      refine ha.known id' (hk.imp ?_ (Or.imp ?_ ?_))
      · exact hback _ (fun he => hne (Turn.attempt.inj he).symm) (by simp) (by simp)
      · exact hback _ (by simp) (fun he => hne (Turn.rest.inj he).symm) (by simp)
      · rintro ⟨key, hm⟩
        exact ⟨key, hmemo ▸ hm⟩
  · obtain ⟨hm, hsaid⟩ := hwaiting _ hw
    show r.phase? id' ≠ none ∧ r.outcome? id' = none
    by_cases hne : id = id'
    · subst hne
      exact ⟨by simp [hp], hsaid rfl⟩
    · rw [hother id' hne, hsame id' hne]
      exact ha.waiting id' t' hm
  · refine due_mono (l := { l with queue := queue }) (fun _ => hmem _ (by simp) (by simp))
      (fun hm => .inl (hmem _ (by simp) (by simp) hm)) (hmem _ (by simp) (by simp))
      (fun id' hw => ?_) (fun id' ho => ?_) (fun _ _ _ => Nat.le_of_eq ?_)
      (ha.due t' s' (by simp) hs)
    · refine (htold _ hw).imp_right ?_
      rintro ⟨rfl, ho, hrelay⟩
      exact ⟨ho, List.mem_append_right _ hrelay⟩
    · by_cases hne : id = id'
      · subst hne
        exact houtcome ho
      · exact (hsame id' hne).symm ▸ ho
    · have hnone : turns.countP (Turn.reportsTo t') = 0 := by
        rw [List.countP_eq_zero]
        intro y hy
        obtain rfl | rfl | ⟨t, rfl⟩ := hturns y hy <;> simp [Turn.reportsTo]
      obtain rfl | rfl := mine <;> simp [pending, hqueue.countP_eq, Turn.reportsTo, hnone]
  · exact faithful_mono (ha.faithful t' task' ht') (fun c d s' hc => ⟨s', hc⟩) fun c e he => he

/-- Turns cost no more once an attempt has fewer of its own left. -/
theorem sum_worth_mono {r : Resolver} {id : Nat}
    (hother : ∀ id', id ≠ id' → r.phase? id' = l.session.resolver.phase? id')
    (hmine : r.turnsLeft id ≤ l.session.resolver.turnsLeft id) :
    (l.queue.map (Turn.worth r)).sum ≤ (l.queue.map (Turn.worth l.session.resolver)).sum := by
  refine List.sum_le_sum fun turn _ => Turn.worth_mono (fun id' => ?_) turn
  by_cases hne : id = id'
  · subst hne
    exact hmine
  · simp [Resolver.turnsLeft, hother id' hne]

/-- An attempt has executed its module and rests for a turn. -/
theorem Attended.executed {queue : List Turn} {id : Nat} {r : Resolver} {h : Host}
    (ha : Attended cs none (n + 1) { l with queue := queue })
    (hqueue : queue.Perm (.attempt id :: l.queue))
    (hbegun : l.session.resolver.phase? id = some .begun)
    (hother : ∀ id', id ≠ id' → r.phase? id' = l.session.resolver.phase? id')
    (hmemo : r.memo = l.session.resolver.memo) {origin : String} {result : Except Fault Nat}
    (hexecuted : r.phase? id = some (.executed origin result)) :
    Attended cs none n
      (({ l with session.resolver := r, host := h } : Loop).enqueue (.rest id)) := by
  have hnone : r.outcome? id = none := by simp [Resolver.outcome?, hexecuted]
  refine ha.tookTurn h hqueue (.inl rfl) hother hmemo hexecuted (.inr ⟨by simp, .inr (by simp)⟩)
    (by simp) (fun ho => ?_) (fun w hw => ⟨hw, fun _ => hnone⟩) (fun w hw => .inl hw) ?_
  · simp [Resolver.outcome?, hbegun] at ho
  · have hsum := sum_worth_mono hother (by simp [Resolver.turnsLeft, hbegun, hexecuted])
    have hold : (Turn.attempt id).worth l.session.resolver = 3 := by
      simp [Turn.worth, Resolver.turnsLeft, hbegun]
    have hnew : (Turn.rest id).worth r = 2 := by
      simp [Turn.worth, Resolver.turnsLeft, hexecuted]
    have hle := ha.work
    rw [work_perm hqueue, hold] at hle
    simp only [Loop.work, List.map_append, List.sum_append, List.map_cons, List.map_nil,
      List.sum_cons, List.sum_nil, hnew] at hle ⊢
    omega

/-- An attempt has settled: those who wait for it are asked for their turns. -/
theorem Attended.settled {queue : List Turn} {id : Nat} {r : Resolver} {h : Host}
    (ha : Attended cs none (n + 1) { l with queue := queue })
    (hqueue : queue.Perm (.attempt id :: l.queue))
    (hother : ∀ id', id ≠ id' → r.phase? id' = l.session.resolver.phase? id')
    (hmemo : r.memo = l.session.resolver.memo) {o : Outcome}
    (hsettled : r.phase? id = some (.settled o)) :
    Attended cs none n (({ l with session.resolver := r, host := h } : Loop).release id) := by
  have ho : r.outcome? id = some o := (r.outcome?_eq_some id).mpr hsettled
  rw [release_of_settled (l := { l with session.resolver := r, host := h }) ho]
  refine ha.tookTurn h hqueue (.inl rfl) hother hmemo hsettled (.inl ⟨o, rfl⟩) (fun y hy => ?_)
    (fun _ => by simp [ho]) (fun w hw => ?_) (fun w hw => ?_) ?_
  · obtain ⟨w, -, rfl⟩ := List.mem_map.mp hy
    exact .inr (.inr ⟨w.2, rfl⟩)
  · obtain ⟨hm, hne⟩ := List.mem_filter.mp hw
    exact ⟨hm, fun he => by simp [he] at hne⟩
  · by_cases hmine : w.1 = id
    · refine .inr ⟨hmine, by simp [ho], List.mem_map_of_mem (List.mem_filter.mpr ⟨hw, ?_⟩)⟩
      simpa using hmine
    · exact .inl (List.mem_filter.mpr ⟨hw, by simpa using hmine⟩)
  · have hless : 1 ≤ l.session.resolver.turnsLeft id := by
      simp only [Resolver.turnsLeft]
      split <;> omega
    have hsum := sum_worth_mono hother
      (by simpa [show r.turnsLeft id = 1 by simp [Resolver.turnsLeft, hsettled]] using hless)
    have htold : (((l.waiting.filter fun p => p.1 == id).map fun p => Turn.relay p.2).map
        (Turn.worth r)).sum = 2 * (l.waiting.filter fun p => p.1 == id).length := by
      have htwo : Turn.worth r ∘ (fun p : Nat × Nat => Turn.relay p.2) = fun _ => 2 := rfl
      rw [List.map_map, htwo, List.map_const', List.sum_replicate]
      exact Nat.mul_comm _ _
    have hsplit := List.length_eq_length_filter_add (l := l.waiting) fun p => p.1 == id
    have hnot : (l.waiting.filter fun p => p.1 != id) =
        l.waiting.filter fun p => !(p.1 == id) := rfl
    have hold : (Turn.attempt id).worth l.session.resolver = l.session.resolver.turnsLeft id := rfl
    have hle := ha.work
    rw [work_perm hqueue, hold] at hle
    simp only [Loop.work, List.map_append, List.sum_append, htold, hnot] at hle ⊢
    omega

/-- The turn of an attempt: it executes its module and rests, or it settles. -/
theorem Attended.runAttempt {queue : List Turn} {id : Nat}
    (ha : Attended cs none (n + 1) { l with queue := queue })
    (hqueue : queue.Perm (.attempt id :: l.queue)) : Attended cs none n (l.runAttempt id) := by
  obtain ⟨p, hp⟩ := Option.ne_none_iff_exists'.mp
    (ha.known id (.inl (hqueue.mem_iff.mpr List.mem_cons_self)))
  obtain ⟨p', hp', hnext⟩ := l.session.resolver.step_next l.host id hp
  have hother := fun id' (hne : id ≠ id') =>
    l.session.resolver.phase?_step_of_ne l.host id hne
  have hkeeps : ∀ (r : Resolver) (h : Host), (r.step h id).1.memo = r.memo :=
    fun r h => by rw [Resolver.step_keeps]
  have hmemo := hkeeps l.session.resolver l.host
  have hsettles : ∀ o, (l.session.resolver.step l.host id).1.phase? id = some (.settled o) →
      Attended cs none n ((l.stepAttempt id).release id) :=
    fun o ho => ha.settled hqueue hother hmemo ho
  cases hnext with
  | finds f origin =>
    obtain ⟨p'', hp'', hnext⟩ := Resolver.step_next _ (l.session.resolver.step l.host id).2 id hp'
    have hfound : (l.stepAttempt id).hasFound id = true := by
      simp only [Loop.hasFound, Loop.stepAttempt, hp']
    cases hnext with
    | executes f origin result =>
      simp only [Loop.runAttempt, hp, hfound, if_true]
      refine ha.executed hqueue hp (fun id' hne => ?_) ?_ hp''
      · exact (Resolver.phase?_step_of_ne _ _ _ hne).trans (hother id' hne)
      · exact (hkeeps _ _).trans hmemo
  | gives o =>
    have hfound : (l.stepAttempt id).hasFound id = false := by
      simp only [Loop.hasFound, Loop.stepAttempt, hp']
    simp only [Loop.runAttempt, hp, hfound, Bool.false_eq_true, if_false]
    exact hsettles o hp'
  | executes f origin result =>
    obtain ⟨o, ho⟩ | ⟨hfound, -⟩ := ha.unsettled id _ hp
    · simp at ho
    · exact absurd rfl (hfound f origin)
  | settles origin result o =>
    simp only [Loop.runAttempt, hp]
    exact hsettles o hp'
  | stays o =>
    simp only [Loop.runAttempt, hp]
    exact hsettles o hp'

/-- An attempt has rested. -/
theorem Attended.rested {queue : List Turn} {id : Nat}
    (ha : Attended cs none (n + 1) { l with queue := queue })
    (hqueue : queue.Perm (.rest id :: l.queue)) :
    Attended cs none n (l.enqueue (.attempt id)) := by
  have hmine : .rest id ∈ queue := hqueue.mem_iff.mpr List.mem_cons_self
  obtain ⟨p, hp⟩ := Option.ne_none_iff_exists'.mp (ha.known id (.inr (.inl hmine)))
  refine ha.tookTurn l.host hqueue (.inr rfl) (fun _ _ => rfl) rfl hp ?_ (by simp) (fun ho => ho)
    (fun w hw => ⟨hw, ?_⟩) (fun w hw => .inl hw) ?_
  · exact (ha.unsettled id p hp).imp_right fun hturn => ⟨hturn.1, .inl (by simp)⟩
  · rintro rfl
    exact (ha.waiting w.1 w.2 hw).2
  · have hle := ha.work
    rw [work_perm hqueue] at hle
    show (l.enqueue (.attempt id)).work ≤ n
    simp only [Loop.work, enqueue, Turn.worth, List.map_append, List.sum_append, List.map_cons,
      List.map_nil, List.sum_cons, List.sum_nil] at hle ⊢
    omega

/-- A task has been told of an outcome, and goes on one turn later. -/
theorem Attended.relayed {queue : List Turn}
    (ha : Attended cs none (n + 1) { l with queue := queue })
    (hqueue : queue.Perm (.relay t :: l.queue)) : Attended cs none n (l.enqueue (.wake t)) := by
  have htwo : (Turn.relay t).worth l.session.resolver = 2 := rfl
  have hpositive : 1 ≤ n := by
    have hle := ha.work
    rw [work_perm hqueue] at hle
    omega
  have hrest : Attended cs (some t) (n - 1) l := ha.drop hqueue (by simp) (by omega)
  have hwake : .wake t ∈ (l.enqueue (.wake t)).queue :=
    List.mem_append_right _ List.mem_cons_self
  refine ((hrest.steady (steady_enqueue l (.wake t) rfl (by simp))).le
    (Nat.le_of_eq (Nat.sub_add_cancel hpositive))).settleHand fun s hs => ?_
  refine due_mono (l := { l with queue := queue }) (fun _ hm => ?_) (fun _ => .inr hwake)
    (fun _ => hwake) (fun _ hw => .inl hw) (fun _ ho => ho) (fun _ _ _ => Nat.le_of_eq ?_)
    (ha.due t s (by simp) hs)
  · exact List.mem_append_left _
      ((List.mem_cons.mp (hqueue.mem_iff.mp hm)).resolve_left (by simp))
  · simp [pending, enqueue, hqueue.countP_eq, Turn.reportsTo]

/-- Every turn that is taken leaves one turn less to be taken. -/
theorem Attended.take {queue : List Turn} {turn : Turn}
    (ha : Attended cs none (n + 1) { l with queue := queue })
    (hg : Gathers none { l with queue := queue }) (hqueue : queue.Perm (turn :: l.queue)) :
    Attended cs none n (l.take turn) := by
  cases turn with
  | start t =>
    have hrest : Attended cs (some t) n l := ha.drop hqueue (by simp) (Nat.le_refl _)
    simp only [Loop.take]
    split
    · rename_i ht
      exact hrest.begin (.inr rfl) ht
    · rename_i hno
      have hmem : ∀ turn, turn ≠ .start t → turn ∈ queue → turn ∈ l.queue := fun turn hne hm =>
        (List.mem_cons.mp (hqueue.mem_iff.mp hm)).resolve_left hne
      refine hrest.settleHand fun s hs => due_mono (l := { l with queue := queue })
        (fun hready _ => ?_) (fun hm => .inl (hmem _ (by simp) hm)) (hmem _ (by simp))
        (fun _ hw => .inl hw) (fun _ ho => ho) (fun _ _ _ => Nat.le_of_eq ?_)
        (ha.due t s (by simp) hs)
      · obtain ⟨⟨job, listener, stage⟩, ht, rfl⟩ := Option.map_eq_some_iff.mp hs
        obtain rfl : stage = .ready := hready
        exact absurd ht (hno job listener)
      · simp [pending, hqueue.countP_eq, Turn.reportsTo]
  | attempt id => exact ha.runAttempt hqueue
  | rest id => exact ha.rested hqueue
  | relay t => exact ha.relayed hqueue
  | wake t => exact ha.resume hqueue (hg.drop hqueue rfl)
  | report p c => exact ha.takeReport hg hqueue
  | complain t =>
    have hrest : Attended cs none n l := ha.drop hqueue (by simp) (Nat.le_refl _)
    simp only [Loop.take]
    split
    · exact hrest.steady (k := 0) (.of_eq rfl rfl rfl rfl rfl fun _ hp => hp)
    · exact hrest
  | pause => exact ha.drop hqueue (by simp) (Nat.le_refl _)

end Loop

end LintBridge
