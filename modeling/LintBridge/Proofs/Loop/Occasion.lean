import LintBridge.Proofs.Loop.Upkeep

/-! What can happen to a session for which no turn is asked for. The documents and the files may
change, and what the editor was sent may be put away: what is fresh stays fresh as long as its list
is the last. A task may be added that will validate what is no longer fresh, or one that is to
validate all documents, and a question may be answered. In each case the session goes on working. -/

namespace LintBridge.Loop

variable {V V' : View} {w : Document → Prop} {l l' : Loop} {t : Nat}

/-- A session that has just been given a workspace works for it: nothing is open and nothing goes
on. -/
theorem works_of_blank (documents : l.documents = .editor V.documents)
    (workspace : l.session.workspace? = some V.root) (config : ∃ c, l.host.config? = some c)
    (refusal : l.session.resolver.refusal = none) (memo : l.session.resolver.memo = [])
    (tasks : l.tasks = []) (entries : V.documents.entries = []) (closed : ∀ uri, ¬ V.closed uri) :
    Works V w none l := by
  have hstage : ∀ t, l.stage? t = none := fun t => by simp [stage?, tasks]
  refine ⟨documents, workspace, config, refusal, fun t job listener ht => ?_, fun t ht => ?_,
    fun id hid => ?_, fun t id v ht => ?_, fun p hp => ?_, fun uri hu => absurd hu (closed uri)⟩
  · simp [tasks] at ht
  · simp [hstage] at ht
  · simp [attemptOf, memo] at hid
  · obtain ⟨told, ht⟩ := ht
    simp [hstage] at ht
  · simp [entries] at hp

/-- When no turn is asked for, nobody who waits goes on and nobody is about to begin. So the
documents, the files and what is shown may change, as long as it is known what is still fresh. -/
theorem Works.renewed (h : Works V (fun _ => True) none l) (hq : l.queue = [])
    (tasks : l'.tasks = l.tasks)
    (session : l'.session.resolver = l.session.resolver ∧
      l'.session.settings = l.session.settings ∧ l'.session.root = l.session.root)
    (host : l'.host.files.here = l.host.files.here ∧ l'.host.config? = l.host.config? ∧
      l'.host.imports = l.host.imports)
    (root : V'.root = V.root) (documents : l'.documents = .editor V'.documents)
    (view : ∀ p ∈ V'.documents.entries, w p.2 →
      p ∈ V.documents.entries ∧ V'.shown l' p.2.uri = V.shown l p.2.uri)
    (clear : ∀ uri, V'.closed uri → V'.shown l' uri = some []) : Works V' w none l' := by
  obtain ⟨resolver, settings, sroot⟩ := session
  obtain ⟨here, config, imports⟩ := host
  have hasked : ∀ turn, ¬ Asked none l turn := by
    rintro turn (hm | hturn)
    · simp [hq] at hm
    · simp at hturn
  have hstage : ∀ t, l'.stage? t = l.stage? t := fun t => by rw [stage?, tasks, stage?]
  have hattempt : l'.attemptOf V'.root = l.attemptOf V.root := by
    simp only [attemptOf, Resolver.key, Host.here, resolver, here, root]
  refine ⟨documents, ?_, ?_, by rw [resolver]; exact h.refusal, fun t job listener ht => ?_,
    fun t ht => ?_, fun id hid => ?_, fun t id v ht => ?_, fun p hp hw path hpath => ?_, clear⟩
  · rw [Session.workspace?, sroot, root]
    exact h.workspace
  · rw [config]
    exact h.config
  · rw [tasks] at ht
    exact absurd (h.ready t job listener ht).1 (hasked _)
  · have hturn := h.answered t ((hstage t).symm.trans ht)
    simp at hturn
  · refine (h.proceeds id (hattempt.symm.trans hid)).mono (by rw [resolver])
      (fun turn _ ha => absurd ha (hasked turn)) (by simp)
  · refine absurd ?_ (h.not_waits hq (by simp) t id v)
    obtain ⟨told, hs⟩ := ht
    exact ⟨told, (hstage t).symm.trans hs⟩
  · obtain ⟨hold, hshown⟩ := view p hp hw
    obtain ⟨t, r, hr, hbad⟩ | hf := h.isFresh hq hold hpath
    · refine .inl ⟨t, r, ?_, hbad⟩
      rw [result?_eq_some] at hr ⊢
      exact (hstage t).trans hr
    · obtain ⟨id, m, path', im, ds, hid, hm, hpath', him, hsays, hds⟩ := hf
      refine .inr (.inl ⟨id, m, path', im, ds, hattempt.trans hid, ?_, hpath', ?_, ?_,
        hshown.trans hds⟩)
      · rw [outcomeOf, resolver]
        exact hm
      · rw [imports]
        exact him
      · rw [root]
        exact hsays.congr settings (by rw [resolver]) fun c hc => config.trans hc

/-- A task is added that will validate all that is not fresh. -/
theorem Works.spawnAbout (h : Works V w none l) {job : Job} (hjob : V.IsPlain job)
    (listener : Listener)
    (hdue : ∀ p ∈ V.documents.entries, ¬ w p.2 → job.Validates V.documents p.2) :
    Works V (fun _ => True) none (l.spawn job listener).1 := by
  have hspawned := h.spawn hjob listener
  refine { hspawned with view := fun p hp _ path hpath => ?_ }
  by_cases hw : w p.2
  · exact hspawned.view p hp hw path hpath
  · refine .inr (.inr ⟨l.tasks.length, .inl ⟨job, listener, ?_, hdue p hp hw⟩⟩)
    simp [Loop.spawn, Loop.addTask, enqueue]

/-- A task is added that is to validate all documents. -/
theorem Works.spawnMain (h : Works V (fun _ => True) none l) (hq : l.queue = []) {job : Job}
    (hjob : job.IsMain) (listener : Listener) : Goes V (l.spawn job listener).1 := by
  refine .leads l.tasks.length (.start l.tasks.length) (.inl rfl) ?_ ?_
  · simp [Loop.spawn, Loop.addTask, enqueue, hq]
  · exact h.grow job listener (by simp [hq]) (by simp) (.inr rfl) (.inr ⟨hjob, rfl⟩)

/-- A question is answered. -/
theorem Works.answer (h : Works V (fun _ => True) none l) (hq : l.queue = []) (request : Nat)
    (again : Bool) : Goes V (l.answer request again) := by
  obtain hnobody | ⟨t, task, ht, hstage, hanswer⟩ := l.answer_cases request again
  · rw [hnobody]
    exact .works h
  · have hasking : l.stage? t = some (.asking request) := hstage ▸ stage?_of_task ht
    have hopen : l.IsOpen t := ⟨_, hasking, rfl⟩
    have hnot := not_isDueBy (V := V) hasking (by simp) (by simp)
    rw [hanswer]
    cases again with
    | true =>
      refine .leads t (.relay t) (.inr (.inl rfl)) (by simp [setStage, enqueue, hq]) ?_
      have hput : Works V (fun _ => True) (some (.relay t)) (l.setStage t (.answered true)) :=
        h.put hopen (by simp) (by simp) (fun _ => .inl rfl) (by simp)
          fun d _ hd => absurd hd (hnot d)
      rw [show l.setStage t (.answered true) = { (l.setStage t (.answered true)).enqueue (.relay t)
        with queue := [] } by simp [setStage, enqueue, hq]] at hput
      exact hput
    | false =>
      refine .works (Works.calm ?_ (calm_enqueue _ _))
      exact h.put hopen (by simp) (by simp) (by simp) (by simp) fun d _ hd => absurd hd (hnot d)

end LintBridge.Loop
