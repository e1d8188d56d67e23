import LintBridge.Proofs.ErrorBatch
import LintBridge.Proofs.Loop.Run
import LintBridge.Proofs.Resolver.Failing

/-! What the user is told in a turn. Only two things tell the user of failures: a task that goes on
with an outcome, and a batch that ends. Both tell exactly the failures of which the user has not
been told yet, mark them, and make one call for each text. All else is silent: it makes no call and
marks nothing. -/

namespace LintBridge

/-! ### Notices -/

theorem noticeFor_of_ne {text : String} (h : text ≠ "") (uri : Option String) :
    noticeFor (.ok text) uri = .ok text := by
  rw [noticeFor_ok, if_pos (by simpa using h)]

/-- A notice of a failure of which the user has not been told: its number, text and answer. -/
def Resolver.IsNews (r : Resolver) (n : Nat × String × Bool) : Prop :=
  ∃ x, r.failure? n.1 = some x ∧ x.surfaced = false ∧ n.2 = (x.fault.message, x.retry)

namespace Session

variable {s : Session}

/-- A failure is told in a notice unless the user has been told of it. -/
theorem notice_of_failure (hr : s.resolver.Records) {f : Nat} (hf : f < s.resolver.failures.length)
    (errorType : Option ErrorType) (ht : errorType ≠ some .lintCallError) (uri : Option String) :
    ∃ x, s.resolver.failure? f = some x ∧ noticeFor x.fault.shown uri = .ok x.fault.message ∧
      (s.resolver.HasTold f ∧ isTold x errorType = false ∨
        s.resolver.IsNews (f, x.fault.message, x.retry) ∧ isTold x errorType = true) := by
  have hx := List.getElem?_eq_getElem hf
  have hplain := hr.failures _ (List.getElem_mem hf)
  refine ⟨_, hx, hplain.shown ▸ noticeFor_of_ne hplain.message_ne uri, ?_⟩
  cases hs : s.resolver.failures[f].surfaced with
  | true => exact .inl ⟨⟨_, hx, hs⟩, by simp [isTold, hs]⟩
  | false => exact .inr ⟨⟨_, hx, hs, rfl⟩, by simp [isTold, hs, ht]⟩

/-- What is told about a result is news, and no failure that it is about is left out. -/
theorem notice_spec (hr : s.resolver.Records) (result : ValidationResult) :
    ∃ n, s.notice result = .ok n ∧ (∀ m, n = some m → s.resolver.IsNews m) ∧
      ∀ f, result.cause = some (.resolution f) → f < s.resolver.failures.length →
        result.errorType ≠ some .lintCallError →
          s.resolver.HasTold f ∨ ∃ m, n = some m ∧ m.1 = f := by
  cases hc : result.cause with
  | none => exact ⟨none, by simp [notice, hc], by simp, by simp⟩
  | some cause =>
    cases cause with
    | linting e => exact ⟨none, by simp [notice, hc], by simp, by simp⟩
    | resolution f =>
      cases hx : s.resolver.failure? f with
      | none =>
        refine ⟨none, by simp [notice, hc, hx], by simp, fun f' hf' hlt => ?_⟩
        obtain rfl := Cause.resolution.inj (Option.some.inj hf')
        rw [Resolver.failure?, List.getElem?_eq_getElem hlt] at hx
        simp at hx
      | some x =>
        by_cases ht : result.errorType = some .lintCallError
        · exact ⟨none, by simp [notice, hc, hx, isTold, ht], by simp, fun _ _ _ h => absurd ht h⟩
        · obtain ⟨x', hx', htext, ⟨htold, hnot⟩ | ⟨hnews, his⟩⟩ :=
            notice_of_failure hr (Resolver.failure?_lt hx) _ ht (some result.uri)
          all_goals obtain rfl := Option.some.inj (hx.symm.trans hx')
          · refine ⟨none, by simp [notice, hc, hx, hnot], by simp, fun f' hf' _ _ => ?_⟩
            obtain rfl := Cause.resolution.inj (Option.some.inj hf')
            exact .inl htold
          · refine ⟨some (f, x.fault.message, x.retry), ?_, by simpa using hnews, ?_⟩
            · simp [notice, hc, hx, his, htext, bind, Except.bind, pure, Except.pure]
            · intro f' hf' _ _
              obtain rfl := Cause.resolution.inj (Option.some.inj hf')
              exact .inr ⟨_, rfl, rfl⟩

/-- The same of what is told when the module was only resolved. -/
theorem warmUpNotice_spec (hr : s.resolver.Records) (o : Outcome) :
    ∃ n, s.warmUpNotice o = .ok n ∧ (∀ m, n = some m → s.resolver.IsNews m) ∧
      ∀ f, o = .failed f → f < s.resolver.failures.length →
        s.resolver.HasTold f ∨ ∃ m, n = some m ∧ m.1 = f := by
  cases o with
  | present m => exact ⟨none, rfl, by simp, by simp⟩
  | absent => exact ⟨none, rfl, by simp, by simp⟩
  | failed f =>
    cases hx : s.resolver.failure? f with
    | none =>
      refine ⟨none, by simp [warmUpNotice, hx], by simp, fun f' hf' hlt => ?_⟩
      obtain rfl := Outcome.failed.inj hf'
      rw [Resolver.failure?, List.getElem?_eq_getElem hlt] at hx
      simp at hx
    | some x =>
      obtain ⟨x', hx', htext, ⟨htold, hnot⟩ | ⟨hnews, his⟩⟩ :=
        notice_of_failure hr (Resolver.failure?_lt hx) none (by simp) none
      all_goals obtain rfl := Option.some.inj (hx.symm.trans hx')
      · refine ⟨none, by simp [warmUpNotice, hx, hnot], by simp, fun f' hf' _ => ?_⟩
        obtain rfl := Outcome.failed.inj hf'
        exact .inl htold
      · refine ⟨some (f, x.fault.message, x.retry), ?_, by simpa using hnews, ?_⟩
        · simp [warmUpNotice, hx, his, htext, bind, Except.bind, pure, Except.pure]
        · intro f' hf' _
          obtain rfl := Outcome.failed.inj hf'
          exact .inr ⟨_, rfl, rfl⟩

theorem notices_cons {result : ValidationResult} {results : List ValidationResult}
    {n : Option (Nat × String × Bool)} {told : List (Nat × String × Bool)}
    (hn : s.notice result = .ok n) (htold : Loop.notices s results = .ok told) :
    Loop.notices s (result :: results) = .ok (n.toList ++ told) := by
  simp only [Loop.notices, List.mapM_cons, hn] at htold ⊢
  cases hrest : results.mapM s.notice with
  | error e => simp [hrest, Except.map] at htold
  | ok ns =>
    rw [hrest] at htold
    have hns : ns.filterMap id = told := Except.ok.inj htold
    cases n <;> simp [bind, Except.bind, pure, Except.pure, Except.map, ← hns]

/-- A batch tells all news of its results. -/
theorem notices_spec (hr : s.resolver.Records) (results : List ValidationResult) :
    ∃ told, Loop.notices s results = .ok told ∧ (∀ n ∈ told, s.resolver.IsNews n) ∧
      ∀ result ∈ results, ∀ f, result.cause = some (.resolution f) →
        f < s.resolver.failures.length → result.errorType ≠ some .lintCallError →
          s.resolver.HasTold f ∨ ∃ n ∈ told, n.1 = f := by
  induction results with
  | nil => exact ⟨[], rfl, by simp, by simp⟩
  | cons result results ih =>
    obtain ⟨told, htold, hnews, hall⟩ := ih
    obtain ⟨n, hn, hnew, hfailure⟩ := notice_spec hr result
    refine ⟨n.toList ++ told, notices_cons hn htold, ?_, ?_⟩
    · intro m hm
      obtain hm | hm := List.mem_append.mp hm
      · exact hnew m (Option.mem_toList.mp hm)
      · exact hnews m hm
    · intro result' hresult f hc hlt ht
      obtain rfl | hresult := List.mem_cons.mp hresult
      · obtain htold | ⟨m, rfl, hm⟩ := hfailure f hc hlt ht
        · exact .inl htold
        · exact .inr ⟨m, by simp, hm⟩
      · obtain htold | ⟨m, hin, hm⟩ := hall result' hresult f hc hlt ht
        · exact .inl htold
        · exact .inr ⟨m, List.mem_append_right _ hin, hm⟩

/-! ### Marks -/

/-- The failures of which there was a notice are marked. -/
theorem failure?_markNotices (s : Session) (told : List (Nat × String × Bool)) (f : Nat) :
    (told.foldl markNotice s).resolver.failure? f = (s.resolver.failure? f).map fun x =>
      { x with surfaced := x.surfaced || told.any fun n => n.1 == f } := by
  induction told generalizing s with
  | nil => simp
  | cons n told ih =>
    rw [List.foldl_cons, ih]
    have hone : (s.markNotice n).resolver.failure? f = (s.resolver.failure? f).map fun x =>
        { x with surfaced := x.surfaced || n.1 == f } := by
      simp only [markNotice, markTold, Resolver.markSurfaced, Resolver.failure?,
        List.getElem?_modify]
      by_cases hf : n.1 = f
      · simp [hf]
      · have hother : (n.1 == f) = false := by simpa using hf
        simp [hf, hother]
    rw [hone, Option.map_map]
    simp only [Function.comp_def, List.any_cons, Bool.or_assoc]

theorem carries_markNotices (s : Session) (told : List (Nat × String × Bool)) :
    s.resolver.Carries (told.foldl markNotice s).resolver := by
  have hmarked := s.failure?_markNotices told
  refine Resolver.carries_surface (fun f x hx => ?_) ?_
    (congrArg Session.resolver (s.foldl_markNotice told))
  · rw [hmarked f, hx]
    exact ⟨_, rfl, fun hs => by simp [hs]⟩
  · induction told generalizing s with
    | nil => rfl
    | cons n told ih =>
      rw [List.foldl_cons, ih _ (failure?_markNotices _ told)]
      simp [markNotice, markTold, Resolver.markSurfaced]

/-- Whoever is given a notice of a failure has been told of it. -/
theorem hasTold_markNotices {told : List (Nat × String × Bool)}
    (hnews : ∀ n ∈ told, s.resolver.IsNews n) {f : Nat}
    (hf : s.resolver.HasTold f ∨ ∃ n ∈ told, n.1 = f) :
    (told.foldl markNotice s).resolver.HasTold f := by
  obtain hf | ⟨n, hn, rfl⟩ := hf
  · exact (s.carries_markNotices told).hasTold hf
  · obtain ⟨x, hx, -, -⟩ := hnews n hn
    refine ⟨_, by rw [failure?_markNotices, hx]; rfl, ?_⟩
    simp only [Bool.or_eq_true, List.any_eq_true, beq_iff_eq]
    exact .inr ⟨n, hn, rfl⟩

end Session

/-- Changed settings make the session forget what was resolved, of which the user is not told. -/
theorem Session.hushes_applySettings {s s' : Session} {h h' : Host} {payload : Json}
    (ha : s.applySettings h payload = (.ok s', h')) : s.resolver.Hushes s'.resolver := by
  simp only [applySettings] at ha
  split at ha
  · simp at ha
  · rename_i settings _
    obtain rfl := Except.ok.inj (Prod.mk.inj ha).1
    have hpath := Resolver.hushes_act ⟨s.resolver, h⟩ (a := .setModulePath settings.modulePath)
      (by simp)
    exact hpath.trans (Resolver.hushes_act ⟨_, h⟩ (a := .reset) (by simp))

/-! ### Batches of messages -/

namespace ErrorBatch

variable {message : String} {retry : Json} {ms : List (String × Json)}

/-- Answers that are what a text says stay so. -/
theorem truthy_insert {answer : String → Bool} (hretry : retry.truthy = answer message)
    (h : ∀ p ∈ ms, p.2.truthy = answer p.1) :
    ∀ p ∈ insert message retry ms, p.2.truthy = answer p.1 := by
  induction ms with
  | nil => simpa [insert] using hretry
  | cons q ms ih =>
    obtain ⟨hq, hms⟩ := List.forall_mem_cons.mp h
    simp only [insert]
    split
    · rename_i hkey
      refine List.forall_mem_cons.mpr ⟨?_, hms⟩
      simp only [Json.orElse]
      split
      · exact hq
      · rw [hkey]
        exact hretry
    · exact List.forall_mem_cons.mpr ⟨hq, ih hms⟩

/-- A batch tells every text once, with the answer that the text says. -/
theorem announcements_spec {answer : String → Bool} (told : List (Nat × String × Bool))
    (h : ∀ n ∈ told, n.2.2 = answer n.2.1) :
    let ms := (told.foldl (fun b n => b.add n.2.1 (.bool n.2.2)) empty).announcements
    (ms.map Prod.fst).Nodup ∧ (∀ m, m ∈ ms.map Prod.fst ↔ ∃ n ∈ told, n.2.1 = m) ∧
      ∀ p ∈ ms, p.2.truthy = answer p.1 := by
  have hrun : ∀ (b : ErrorBatch), (b.messages.map Prod.fst).Nodup →
      (∀ p ∈ b.messages, p.2.truthy = answer p.1) →
      let ms := (told.foldl (fun b n => b.add n.2.1 (.bool n.2.2)) b).messages
      (ms.map Prod.fst).Nodup ∧
        (∀ m, m ∈ ms.map Prod.fst ↔ m ∈ b.messages.map Prod.fst ∨ ∃ n ∈ told, n.2.1 = m) ∧
          ∀ p ∈ ms, p.2.truthy = answer p.1 := by
    induction told with
    | nil => exact fun b hb hanswers => ⟨hb, by simp, hanswers⟩
    | cons n told ih =>
      intro b hb hanswers
      obtain ⟨hn, htold⟩ := List.forall_mem_cons.mp h
      obtain ⟨hnodup, hkeys, hall⟩ := ih htold (b.add n.2.1 (.bool n.2.2)) (nodup_insert hb)
        (truthy_insert (by simpa [Json.truthy] using hn) hanswers)
      refine ⟨hnodup, fun m => ?_, hall⟩
      rw [List.foldl_cons, hkeys, add, mem_keys_insert]
      simp only [List.mem_cons, or_and_right, exists_or, exists_eq_left, eq_comm (a := m),
        or_assoc, or_left_comm]
  obtain ⟨hnodup, hkeys, hall⟩ := hrun empty (by simp [empty]) (by simp [empty])
  exact ⟨hnodup, fun m => (hkeys m).trans (by simp [empty]), hall⟩

end ErrorBatch

/-! ### Calls -/

/-- The text and the answer with which an event tells the user of an error. -/
def Event.error? : Event → Option (String × Bool)
  | showError message retry => some (message, retry)
  | _ => none

/-- The text of an error that is put as a question, which is one after which the user may try
again. -/
def Job.error? : Job → Option (String × Bool)
  | question message => some (message, true)
  | _ => none

/-- From `r` to `r'` the user has been told of failures in these calls: one for each text of a
failure of which the user had not been told before, with the failure's answer. -/
structure Resolver.ToldIn (r r' : Resolver) (cs : List (String × Bool)) : Prop where
  nodup : (cs.map Prod.fst).Nodup
  mem_iff : ∀ c, c ∈ cs ↔ ∃ f x, r'.failure? f = some x ∧ x.surfaced = true ∧ ¬ r.HasTold f ∧
    c = (x.fault.message, x.retry)

theorem Resolver.Hushes.toldIn {r r' : Resolver} (h : r.Hushes r') : r.ToldIn r' [] := by
  refine ⟨by simp, fun c => ⟨by simp, ?_⟩⟩
  rintro ⟨f, x, hx, hs, hnot, -⟩
  exact absurd (h.hasTold_iff.mp ⟨x, hx, hs⟩) hnot

namespace Loop

/-- What the user is told between two moments. -/
def toldSince (before after : Loop) : List (String × Bool) :=
  (after.events.drop before.events.length).filterMap Event.error? ++
    ((after.tasks.drop before.tasks.length).map Task.job).filterMap Job.error?

/-- These calls are made from one moment to the other. -/
def Adds (l l' : Loop) (cs : List (String × Bool)) : Prop :=
  ∃ es jobs, l'.events = l.events ++ es ∧ l'.tasks.map Task.job = l.tasks.map Task.job ++ jobs ∧
    (es.filterMap Event.error? ++ jobs.filterMap Job.error?).Perm cs

/-- A silent change tells the user nothing. -/
structure Silent (l l' : Loop) : Prop where
  calls : Adds l l' []
  resolver : l.session.resolver.Hushes l'.session.resolver

/-- A change in which the user is told of failures. -/
structure Tells (l l' : Loop) : Prop where
  calls : ∃ cs, Adds l l' cs ∧ l.session.resolver.ToldIn l'.session.resolver cs
  resolver : l.session.resolver.Carries l'.session.resolver

variable {l l' l'' : Loop} {cs cs' : List (String × Bool)}

theorem Adds.toldSince (h : Adds l l' cs) : (toldSince l l').Perm cs := by
  obtain ⟨es, jobs, he, hj, hcalls⟩ := h
  have hlength : l.tasks.length = (l.tasks.map Task.job).length := by simp
  rw [Loop.toldSince, he, List.drop_left, List.map_drop, hj, hlength, List.drop_left]
  exact hcalls

theorem Adds.of_eq (events : l'.events = l.events)
    (tasks : l'.tasks.map Task.job = l.tasks.map Task.job) : Adds l l' [] :=
  ⟨[], [], by simp [events], by simp [tasks], .rfl⟩

theorem Adds.trans (h : Adds l l' cs) (h' : Adds l' l'' cs') : Adds l l'' (cs ++ cs') := by
  obtain ⟨es, jobs, he, hj, hcalls⟩ := h
  obtain ⟨es', jobs', he', hj', hcalls'⟩ := h'
  refine ⟨es ++ es', jobs ++ jobs', by rw [he', he, List.append_assoc],
    by rw [hj', hj, List.append_assoc], ?_⟩
  rw [List.filterMap_append, List.filterMap_append]
  refine List.Perm.trans ?_ (hcalls.append hcalls')
  simp only [List.append_assoc]
  exact List.Perm.append_left _ (List.perm_append_comm_assoc _ _ _)

theorem Silent.refl (l : Loop) : Silent l l :=
  ⟨.of_eq rfl rfl, .refl _⟩

theorem Silent.trans (h : Silent l l') (h' : Silent l' l'') : Silent l l'' :=
  ⟨h.calls.trans h'.calls, h.resolver.trans h'.resolver⟩

theorem Silent.tells (h : Silent l l') : Tells l l' :=
  ⟨⟨[], h.calls, h.resolver.toldIn⟩, h.resolver.carries⟩

theorem Silent.trans_tells (h : Silent l l') (h' : Tells l' l'') : Tells l l'' where
  calls := by
    obtain ⟨cs, hadds, htold⟩ := h'.calls
    refine ⟨cs, h.calls.trans hadds, htold.nodup, fun c => ?_⟩
    simp only [htold.mem_iff, h.resolver.hasTold_iff]
  resolver := h.resolver.carries.trans h'.resolver

theorem Tells.trans_silent (h : Tells l l') (h' : Silent l' l'') : Tells l l'' where
  calls := by
    obtain ⟨cs, hadds, htold⟩ := h.calls
    refine ⟨cs, by simpa using hadds.trans h'.calls, htold.nodup, fun c => ?_⟩
    rw [htold.mem_iff]
    constructor
    · rintro ⟨f, x, hx, hs, hrest⟩
      exact ⟨f, x, h'.resolver.failure? hx, hs, hrest⟩
    · rintro ⟨f, x, hx, hs, hrest⟩
      exact ⟨f, x, h'.resolver.failure?_old hx hs, hs, hrest⟩
  resolver := h.resolver.trans h'.resolver.carries

/-! ### What is silent -/

/-- A change of nothing but the session, the machine, turns and where tasks stand. -/
theorem silent_of_eq (events : l'.events = l.events)
    (tasks : l'.tasks.map Task.job = l.tasks.map Task.job)
    (resolver : l'.session.resolver = l.session.resolver) : Silent l l' :=
  ⟨.of_eq events tasks, by rw [resolver]; exact .refl _⟩

theorem silent_enqueue (l : Loop) (t : Turn) : Silent l (l.enqueue t) :=
  silent_of_eq rfl rfl rfl

theorem silent_setStage (l : Loop) (t : Nat) (s : Stage) : Silent l (l.setStage t s) := by
  refine silent_of_eq rfl (List.ext_getElem? fun i => ?_) rfl
  simp only [setStage, List.getElem?_map, List.getElem?_modify]
  split <;> simp [Function.comp_def]

theorem silent_finish (l : Loop) (t : Nat) (r : TaskResult) : Silent l (l.finish t r) := by
  have hset := silent_setStage l t (.done r)
  simp only [finish]
  split
  · exact hset.trans (silent_enqueue _ _)
  · exact hset.trans (silent_enqueue _ _)
  · exact hset

theorem silent_emit (l : Loop) (es : List Event) (h : es.filterMap Event.error? = []) :
    Silent l (l.emit es) :=
  ⟨⟨es, [], rfl, by simp [emit], by simp [h]⟩, .refl _⟩

/-- What happens to the resolver is silent unless the user is told of a failure. -/
theorem silent_resolver (a : Resolution.Act) (ha : ∀ f, a ≠ .tell f) (host : Host)
    (hr : l'.session.resolver = ((⟨l.session.resolver, host⟩ : Resolution).act a).resolver)
    (events : l'.events = l.events) (tasks : l'.tasks = l.tasks) : Silent l l' :=
  ⟨.of_eq events (by rw [tasks]), hr ▸ Resolver.hushes_act ⟨_, host⟩ ha⟩

theorem silent_foldl {α : Type} {f : Loop → α → Loop} (h : ∀ l a, Silent l (f l a)) (l : Loop)
    (as : List α) : Silent l (as.foldl f l) := by
  induction as generalizing l with
  | nil => exact .refl l
  | cons a as ih => exact (h l a).trans (ih (f l a))

theorem silent_spawn (l : Loop) {job : Job} (h : job.error? = none) (listener : Listener) :
    Silent l (l.spawn job listener).1 :=
  ⟨⟨[], [job], by simp [spawn, addTask, enqueue], by simp [spawn, addTask, enqueue],
    by simp [h]⟩, .refl _⟩

theorem silent_beginMany (l : Loop) (t : Nat) (documents : List Document) :
    Silent l (l.beginMany t documents) := by
  have hspawned : ∀ (documents : List Document) (l : Loop),
      Silent l (l.spawnAll (.task t) (documents.map .validate)).1 := by
    intro documents
    induction documents with
    | nil => exact fun l => .refl l
    | cons d documents ih => exact fun l => (silent_spawn l rfl _).trans (ih _)
  simp only [beginMany]
  split
  · exact (hspawned documents l).trans (silent_finish _ _ _)
  · exact (hspawned documents l).trans (silent_setStage _ _ _)

theorem silent_beginAll (l : Loop) (t : Nat) : Silent l (l.beginAll t) := by
  simp only [beginAll]
  split
  · exact silent_finish _ _ _
  · exact silent_beginMany _ _ _

theorem silent_beginAnew (l : Loop) (t : Nat) : Silent l (l.beginAnew t) := by
  have hforgets : Silent l { l with session := l.session.forgetAttempts l.host } :=
    silent_resolver (.invalidate none) (by simp) l.host rfl rfl rfl
  exact hforgets.trans (silent_beginAll _ t)

theorem silent_beginRetry (l : Loop) (t : Nat) : Silent l (l.beginRetry t) := by
  have hnoted : Silent l { l with host := l.host.note .info "Retrying module resolution" } :=
    silent_of_eq rfl rfl rfl
  exact hnoted.trans (silent_beginAnew _ t)

theorem silent_takeReport (l : Loop) (parent child : Nat) :
    Silent l (l.takeReport parent child) := by
  simp only [takeReport]
  split
  · split
    · exact (silent_setStage _ _ _).trans (silent_enqueue _ _)
    · split
      · exact (silent_setStage _ _ _).trans (silent_enqueue _ _)
      · exact silent_setStage _ _ _
  · exact .refl l

theorem silent_release (l : Loop) (id : Nat) : Silent l (l.release id) := by
  simp only [release]
  split
  · exact .refl l
  · have hw : Silent l { l with waiting := l.waiting.filter fun p => p.1 != id } :=
      silent_of_eq rfl rfl rfl
    exact hw.trans (silent_foldl (fun l (p : Nat × Nat) => silent_enqueue l (.relay p.2)) _ _)

theorem silent_stepAttempt (l : Loop) (id : Nat) : Silent l (l.stepAttempt id) :=
  silent_resolver (.step id) (by simp) l.host rfl rfl rfl

theorem silent_runAttempt (l : Loop) (id : Nat) : Silent l (l.runAttempt id) := by
  have hstep := silent_stepAttempt l id
  simp only [runAttempt]
  split
  · split
    · exact hstep.trans ((silent_stepAttempt _ id).trans (silent_enqueue _ _))
    · exact hstep.trans (silent_release _ id)
  · exact hstep.trans (silent_release _ id)

/-! ### Telling -/

theorem adds_tell (l : Loop) (message : String) (retry : Bool) :
    Adds l (l.tell message retry) [(message, retry)] := by
  unfold tell
  split
  · rename_i hasks
    obtain rfl : retry = true := (Bool.and_eq_true_iff.mp hasks).2
    exact ⟨[], [.question message], by simp [spawn, addTask, enqueue],
      by simp [spawn, addTask, enqueue], .rfl⟩
  · exact ⟨[.showError message retry], [], rfl, by simp [emit], .rfl⟩

theorem tell_session (l : Loop) (message : String) (retry : Bool) :
    (l.tell message retry).session = l.session := by
  unfold tell
  split <;> rfl

theorem adds_announce (l : Loop) (announcements : List (String × Json)) :
    Adds l (announcements.foldl (fun l p => l.tell p.1 p.2.truthy) l)
      (announcements.map fun p => (p.1, p.2.truthy)) ∧
    (announcements.foldl (fun l p => l.tell p.1 p.2.truthy) l).session = l.session := by
  induction announcements generalizing l with
  | nil => exact ⟨.of_eq rfl rfl, rfl⟩
  | cons p announcements ih =>
    obtain ⟨hadds, hsession⟩ := ih (l.tell p.1 p.2.truthy)
    exact ⟨(adds_tell l p.1 p.2.truthy).trans hadds, hsession.trans (tell_session _ _ _)⟩

/-- A change that marks what is in the notices, and makes a call for each text of them. -/
theorem tells_of_notices (told : List (Nat × String × Bool))
    (hnews : ∀ n ∈ told, l.session.resolver.IsNews n)
    (hsession : l'.session = told.foldl Session.markNotice l.session)
    (hadds : Adds l l' cs) (hnodup : (cs.map Prod.fst).Nodup)
    (hcalls : ∀ c, c ∈ cs ↔ ∃ n ∈ told, n.2 = c) : Tells l l' where
  calls := by
    refine ⟨cs, hadds, hnodup, fun c => (hcalls c).trans ?_⟩
    rw [hsession]
    constructor
    · rintro ⟨n, hn, htext⟩
      obtain ⟨x, hx, hs, heq⟩ := hnews n hn
      have hmarked := l.session.failure?_markNotices told n.1
      rw [hx, Option.map_some] at hmarked
      refine ⟨n.1, _, hmarked, ?_, ?_, htext.symm.trans heq⟩
      · simp only [Bool.or_eq_true, List.any_eq_true, beq_iff_eq]
        exact .inr ⟨n, hn, rfl⟩
      · rintro ⟨x', hx', hs'⟩
        obtain rfl := Option.some.inj (hx.symm.trans hx')
        simp [hs] at hs'
    · rintro ⟨f, x', hx', hs', hnot, heq⟩
      rw [Session.failure?_markNotices] at hx'
      obtain ⟨x, hx, rfl⟩ := Option.map_eq_some_iff.mp hx'
      have hold : x.surfaced = false := by
        cases hs : x.surfaced with
        | false => rfl
        | true => exact absurd ⟨x, hx, hs⟩ hnot
      simp only [hold, Bool.false_or, List.any_eq_true, beq_iff_eq] at hs'
      obtain ⟨n, hn, rfl⟩ := hs'
      obtain ⟨x', hx', -, htext⟩ := hnews n hn
      obtain rfl := Option.some.inj (hx.symm.trans hx')
      exact ⟨n, hn, htext.trans heq.symm⟩
  resolver := hsession ▸ l.session.carries_markNotices told

theorem tells_notify {notice : Option (Nat × String × Bool)}
    (hnews : ∀ n, notice = some n → l.session.resolver.IsNews n) :
    Tells l (l.notify notice) := by
  cases notice with
  | none => exact (Silent.refl l).tells
  | some n =>
    have hmarked : Adds l { l with session := l.session.markNotice n } [] := .of_eq rfl rfl
    exact tells_of_notices [n] (by simpa using hnews n rfl) (tell_session _ _ _)
      (hmarked.trans (adds_tell _ _ _)) (by simp) (by simp [eq_comm])

/-- A batch tells all that is in its notices. -/
theorem tells_announce (hr : l.session.resolver.Records) {told : List (Nat × String × Bool)}
    (hnews : ∀ n ∈ told, l.session.resolver.IsNews n) :
    Tells l ((told.foldl (fun b n => b.add n.2.1 (.bool n.2.2))
      ErrorBatch.empty).announcements.foldl (fun l p => l.tell p.1 p.2.truthy)
        { l with session := told.foldl Session.markNotice l.session }) := by
  have hanswers : ∀ n ∈ told, n.2.2 = Fault.answer n.2.1 := by
    intro n hn
    obtain ⟨x, hx, -, heq⟩ := hnews n hn
    rw [heq]
    exact (hr.failures x (List.mem_of_getElem? hx)).retry_eq_answer
  obtain ⟨hnodup, hkeys, hall⟩ := ErrorBatch.announcements_spec told hanswers
  generalize (told.foldl (fun b n => b.add n.2.1 (.bool n.2.2))
    ErrorBatch.empty).announcements = ms at hnodup hkeys hall ⊢
  obtain ⟨hadds, hsession⟩ := adds_announce
    { l with session := told.foldl Session.markNotice l.session } ms
  have hmarked : Adds l { l with session := told.foldl Session.markNotice l.session } [] :=
    .of_eq rfl rfl
  refine tells_of_notices _ hnews hsession (hmarked.trans hadds) ?_ ?_
  · rw [List.nil_append, List.map_map]
    exact hnodup
  · rintro ⟨message, retry⟩
    rw [List.nil_append, List.mem_map]
    constructor
    · rintro ⟨p, hp, heq⟩
      obtain ⟨n, hn, hmessage⟩ := (hkeys p.1).mp (List.mem_map_of_mem hp)
      refine ⟨n, hn, Prod.ext (hmessage.trans (congrArg Prod.fst heq)) ?_⟩
      rw [hanswers n hn, hmessage, ← hall p hp]
      exact congrArg Prod.snd heq
    · rintro ⟨n, hn, heq⟩
      obtain ⟨p, hp, hmessage⟩ := List.mem_map.mp ((hkeys n.2.1).mpr ⟨n, hn, rfl⟩)
      refine ⟨p, hp, Prod.ext (hmessage.trans (congrArg Prod.fst heq)) ?_⟩
      show p.2.truthy = retry
      rw [hall p hp, hmessage, ← hanswers n hn]
      exact congrArg Prod.snd heq

/-! ### Turns -/

theorem tells_proceed (hr : l.session.resolver.Records) (t : Nat) (k : Continuation)
    (o : Outcome) : Tells l (l.proceed t k o) := by
  cases k with
  | answer => exact (silent_finish l t _).tells
  | warmUp =>
    obtain ⟨n, hn, hnews, -⟩ := Session.warmUpNotice_spec hr o
    simp only [proceed, hn]
    exact (tells_notify hnews).trans_silent (silent_finish _ _ _)
  | conclude v told =>
    have hes : (l.session.conclude l.host v o).2.1.filterMap Event.error? = [] := by
      have hconclusion := l.session.conclude_cases l.host v o
      generalize l.session.conclude l.host v o = x at hconclusion ⊢
      cases hconclusion <;> rfl
    have hresolver : (l.session.conclude l.host v o).2.2.1.resolver = l.session.resolver :=
      l.concluded_resolver v o
    have hbegun : Silent l { l with
        session := (l.session.conclude l.host v o).2.2.1
        host := (l.session.conclude l.host v o).2.2.2 } := silent_of_eq rfl rfl hresolver
    have hconcluded : Silent l (l.concluded v o) := hbegun.trans (silent_emit _ _ hes)
    have hspec := Session.notice_spec (s := (l.concluded v o).session) (hresolver ▸ hr)
    have hcases := l.proceed_conclude_cases t v o told
    generalize l.proceed t (.conclude v told) o = l' at hcases ⊢
    cases hcases with
    | untold e result => exact (hconcluded.trans (silent_finish _ _ _)).tells
    | silent r result isTold => exact (hconcluded.trans (silent_finish _ _ _)).tells
    | unnoticed r result isTold e notice =>
      obtain ⟨n, hn, -⟩ := hspec r
      cases notice.symm.trans hn
    | noticed r result isTold n notice =>
      obtain ⟨n', hn, hnews, -⟩ := hspec r
      obtain rfl := Except.ok.inj (notice.symm.trans hn)
      exact hconcluded.trans_tells ((tells_notify hnews).trans_silent (silent_finish _ _ _))

/-- The attempt that a task is told the outcome of when it asks for the module of a workspace. -/
def attemptAsked (l : Loop) (root : String) : Nat :=
  (l.session.resolver.attemptFor l.host root).1.1

/-- The loop in which a task has asked for the module of a workspace. -/
def asking (l : Loop) (root : String) : Loop :=
  let asked := l.session.resolver.attemptFor l.host root
  let l := { l with session.resolver := asked.2.1, host := asked.2.2 }
  if asked.1.2 then l.enqueue (.attempt asked.1.1) else l

/-- A task goes on at once with the outcome of an attempt that has settled. -/
theorem await_of_settled (hr : l.session.resolver.refusal = none) {root : String} {o : Outcome}
    (ho : (l.asking root).session.resolver.outcome? (l.attemptAsked root) = some o) (t : Nat)
    (k : Continuation) : l.await t root k = (l.asking root).proceed t k o := by
  simp only [asking, attemptAsked] at ho ⊢
  simp only [await, hr, ho]

/-- A task waits for an attempt that has not settled. -/
theorem await_of_unsettled (hr : l.session.resolver.refusal = none) {root : String}
    (ho : (l.asking root).session.resolver.outcome? (l.attemptAsked root) = none) (t : Nat)
    (k : Continuation) :
    l.await t root k = { (l.asking root).setStage t (.resolving (l.attemptAsked root) k) with
      waiting := l.waiting ++ [(l.attemptAsked root, t)] } := by
  have hwaiting : (l.asking root).waiting = l.waiting := by
    simp only [asking]
    split <;> rfl
  rw [← hwaiting]
  simp only [asking, attemptAsked] at ho ⊢
  simp only [await, hr, ho]

theorem await_cases (hr : l.session.resolver.refusal = none) (t : Nat) (root : String)
    (k : Continuation) :
    (∃ o, (l.asking root).session.resolver.outcome? (l.attemptAsked root) = some o ∧
      l.await t root k = (l.asking root).proceed t k o) ∨
    l.await t root k = { (l.asking root).setStage t (.resolving (l.attemptAsked root) k) with
      waiting := l.waiting ++ [(l.attemptAsked root, t)] } := by
  cases ho : (l.asking root).session.resolver.outcome? (l.attemptAsked root) with
  | some o => exact .inl ⟨o, rfl, await_of_settled hr ho t k⟩
  | none => exact .inr (await_of_unsettled hr ho t k)

theorem silent_asking (l : Loop) (root : String) : Silent l (l.asking root) := by
  have hasks : Silent l { l with
      session.resolver := (l.session.resolver.attemptFor l.host root).2.1
      host := (l.session.resolver.attemptFor l.host root).2.2 } :=
    silent_resolver (.resolve root) (by simp) l.host rfl rfl rfl
  simp only [asking]
  split
  · exact hasks.trans (silent_enqueue _ _)
  · exact hasks

theorem tells_await (hr : l.session.resolver.Records) (t : Nat) (root : String)
    (k : Continuation) : Tells l (l.await t root k) := by
  have hasks := silent_asking l root
  obtain ⟨o, -, hawait⟩ | hawait := await_cases hr.refusal t root k
  · rw [hawait]
    exact hasks.trans_tells (tells_proceed (hasks.resolver.records hr) t k o)
  · rw [hawait]
    have hw : ∀ (l : Loop) (waiting : List (Nat × Nat)), Silent l { l with waiting := waiting } :=
      fun _ _ => silent_of_eq rfl rfl rfl
    exact (hasks.trans ((silent_setStage _ _ _).trans (hw _ _))).tells

theorem tells_beginValidation (hr : l.session.resolver.Records) (t : Nat) (d : Document)
    (told : Bool) : Tells l (l.beginValidation t d told) := by
  simp only [beginValidation]
  have hcases := l.session.begin_cases l.host d
  generalize l.session.begin l.host d = begun at hcases ⊢
  obtain ⟨result, session, host⟩ := begun
  have hresolver : session.resolver = l.session.resolver := by
    cases hcases <;> rfl
  have hbegun : Silent l { l with session := session, host := host } :=
    silent_of_eq rfl rfl hresolver
  dsimp only
  split
  · exact (hbegun.trans (silent_finish _ _ _)).tells
  · exact (hbegun.trans (silent_finish _ _ _)).tells
  · exact hbegun.trans_tells (tells_await (hbegun.resolver.records hr) t _ _)

theorem tells_begin (hr : l.session.resolver.Records) (t : Nat) (job : Job) :
    Tells l (l.begin t job) := by
  cases job with
  | resolve root => exact tells_await hr t root .answer
  | warmUp =>
    simp only [begin]
    split
    · exact (silent_finish l t _).tells
    · exact tells_await hr t _ _
  | validate d => exact tells_beginValidation hr t d false
  | validateSingle d => exact tells_beginValidation hr t d true
  | validateOpen uri =>
    simp only [begin]
    split
    · exact (silent_finish l t _).tells
    · exact tells_beginValidation hr t _ true
  | validateMany documents =>
    cases documents with
    | none => exact (silent_beginAll l t).tells
    | some documents => exact (silent_beginMany l t documents).tells
  | filesChanged => exact (silent_beginAnew l t).tells
  | watchedFilesChanged count =>
    have hnoted : Silent l { l with
        host := l.host.note .debug s!"{count} watched file(s) changed" } :=
      silent_of_eq rfl rfl rfl
    exact (hnoted.trans (silent_beginAnew _ t)).tells
  | retry => exact (silent_beginRetry l t).tells
  | updateSettings payload =>
    simp only [begin]
    split
    · rename_i e host _
      have hnoted : Silent l { l with host := host } := silent_of_eq rfl rfl rfl
      exact (hnoted.trans (silent_finish _ _ _)).tells
    · rename_i session host happlied
      have hchanged : Silent l { l with session := session, host := host } :=
        ⟨.of_eq rfl rfl, Session.hushes_applySettings happlied⟩
      exact (hchanged.trans (silent_beginAll _ t)).tells
  | question message =>
    have hcounted : Silent l { l with requests := l.requests + 1 } := silent_of_eq rfl rfl rfl
    have hasked := hcounted.trans (silent_emit _ [.ask l.requests message] rfl)
    exact (hasked.trans (silent_setStage _ t (.asking l.requests))).tells

theorem tells_concludeBatch (hr : l.session.resolver.Records) (t : Nat) (children : List Nat) :
    Tells l (l.concludeBatch t children) := by
  obtain ⟨told, htold, hnews, -⟩ := Session.notices_spec hr (children.filterMap l.validation?)
  simp only [concludeBatch, htold]
  exact (tells_announce hr hnews).trans_silent (silent_finish _ _ _)

theorem tells_resume (hr : l.session.resolver.Records) (t : Nat) : Tells l (l.resume t) := by
  simp only [resume]
  split
  · split
    · exact tells_proceed hr t _ _
    · exact (Silent.refl l).tells
  · exact tells_concludeBatch hr t _
  · exact (silent_finish l t _).tells
  · split
    · exact (silent_beginRetry l t).tells
    · exact (silent_finish l t _).tells
  · exact (silent_setStage l t _).tells
  · exact (Silent.refl l).tells

/-- In every turn but one in which the editor is told of a fault the user is told of failures. -/
theorem tells_take (hr : l.session.resolver.Records) {turn : Turn}
    (hturn : ∀ t, turn ≠ .complain t) : Tells l (l.take turn) := by
  cases turn with
  | start t =>
    simp only [take]
    split
    · exact tells_begin hr t _
    · exact (Silent.refl l).tells
  | attempt id => exact (silent_runAttempt l id).tells
  | rest id => exact (silent_enqueue l _).tells
  | relay t => exact (silent_enqueue l _).tells
  | wake t => exact tells_resume hr t
  | report parent child => exact (silent_takeReport l parent child).tells
  | complain t => exact absurd rfl (hturn t)
  | pause => exact (Silent.refl l).tells

/-! ### Steps -/

/-- A step in which the session keeps its own resolver. -/
def Act.own (l : Loop) : Act → Act
  | .elsewhere documents _ host => .elsewhere documents l.session.resolver host
  | a => a

/-- Takes a step in which the session keeps its own resolver. -/
def ownAct (l : Loop) (a : Act) : Loop :=
  l.act (a.own l)

/-- Takes steps in order, in which the session keeps its own resolver. -/
def ownAfter (l : Loop) (acts : List Act) : Loop :=
  acts.foldl ownAct l

/-- The errors of which the session tells the user in a step, each with its text and whether the
user may try again. What the editor is told when a message cannot be handled is not among them, and
neither is a question that is asked from outside. -/
def calls (l : Loop) (a : Act) : List (String × Bool) :=
  match a with
  | .turn i =>
    match l.queue[i]? with
    | some (.complain _) => []
    | _ => toldSince l (l.ownAct (.turn i))
  | .begin job => toldSince (l.addTask job .nobody).1 (l.ownAct (.begin job))
  | _ => []

theorem Tells.toldIn (h : Tells l l') :
    l.session.resolver.ToldIn l'.session.resolver (toldSince l l') := by
  obtain ⟨cs, hadds, htold⟩ := h.calls
  have hperm := hadds.toldSince
  exact ⟨((hperm.map Prod.fst).nodup_iff).mpr htold.nodup,
    fun c => hperm.mem_iff.trans (htold.mem_iff c)⟩

/-- In every step the user is told of the failures that are marked in it, and of nothing else. -/
theorem calls_toldIn (hr : l.session.resolver.Records) (a : Act) :
    l.session.resolver.ToldIn (l.ownAct a).session.resolver (l.calls a) ∧
      l.session.resolver.Carries (l.ownAct a).session.resolver := by
  have hquiet : l.session.resolver.Hushes (l.ownAct a).session.resolver → l.calls a = [] →
      l.session.resolver.ToldIn (l.ownAct a).session.resolver (l.calls a) ∧
        l.session.resolver.Carries (l.ownAct a).session.resolver :=
    fun h hcalls => ⟨hcalls ▸ h.toldIn, h.carries⟩
  have hsame : (l.ownAct a).session.resolver = l.session.resolver → l.calls a = [] →
      l.session.resolver.ToldIn (l.ownAct a).session.resolver (l.calls a) ∧
        l.session.resolver.Carries (l.ownAct a).session.resolver :=
    fun h => hquiet (h ▸ .refl _)
  cases a with
  | turn i =>
    cases hturn : l.queue[i]? with
    | none =>
      have hnone : l.ownAct (.turn i) = l := by simp only [ownAct, Act.own, act, hturn]
      refine hsame (by rw [hnone]) ?_
      simp [calls, hturn, hnone, toldSince]
    | some turn =>
      have htake : l.ownAct (.turn i) = ({ l with queue := l.queue.eraseIdx i } : Loop).take turn :=
        by simp only [ownAct, Act.own, act, hturn]
      by_cases hcomplains : ∃ t, turn = .complain t
      · obtain ⟨t, rfl⟩ := hcomplains
        refine hsame ?_ (by simp only [calls, hturn])
        rw [htake]
        simp only [take]
        split <;> rfl
      · have hqueue : Silent l { l with queue := l.queue.eraseIdx i } := silent_of_eq rfl rfl rfl
        have htells : Tells l (l.ownAct (.turn i)) := by
          rw [htake]
          refine hqueue.trans_tells (tells_take ?_ fun t ht => hcomplains ⟨t, ht⟩)
          exact hr
        have hcalls : l.calls (.turn i) = toldSince l (l.ownAct (.turn i)) := by
          simp only [calls, hturn]
          split
          · exact absurd ⟨_, Option.some.inj ‹_›⟩ hcomplains
          · rfl
        exact ⟨hcalls ▸ htells.toldIn, htells.resolver⟩
  | spawn job told => exact hsame rfl rfl
  | begin job =>
    have hbegun : Tells (l.addTask job .nobody).1 (l.ownAct (.begin job)) := 
      tells_begin (l := (l.addTask job .nobody).1) hr _ job
    exact ⟨hbegun.toldIn, hbegun.resolver⟩
  | close uri => exact hsame rfl rfl
  | answer request again =>
    refine hsame ?_ rfl
    simp only [ownAct, Act.own, act, answer]
    split <;> rfl
  | cancel t =>
    refine hsame ?_ rfl
    simp only [ownAct, Act.own, act, cancel]
    split <;> rfl
  | attach root settings =>
    refine hquiet ?_ rfl
    cases settings with
    | none => exact .refl _
    | some settings =>
      exact Resolver.hushes_act ⟨_, l.host⟩ (a := .setModulePath settings.modulePath) (by simp)
  | elsewhere documents resolver host => exact hsame rfl rfl

end Loop

end LintBridge
