import LintBridge.Proofs.Batch.Agreement
import LintBridge.Proofs.Batch.Hearing
import LintBridge.Proofs.Loop.Work

/-! Changed settings make a session forget all that it has resolved, and validate all open
documents. This batch and the same batch in a new session both begin with nothing: no attempt is
remembered, no module is held, and nothing is kept of the module that is looked for. So their
attempts come to the same, the documents are judged alike, and the user is told the same. Whatever
came before has no influence, but for the numbers that modules and failures have. -/

namespace LintBridge

namespace Loop

/-- Two batches, each run in its session, come to the same: the accounts of their results are the
same in the same order, or they raise the same fault; the same is shown, and the user is told the
same. -/
structure RunsAlike (l : Loop) (job : Job) (l' : Loop) (job' : Job) : Prop where
  results : (∃ rs rs', (l.run job).1.result? (l.run job).2 = some (.validations rs) ∧
      (l'.run job').1.result? (l'.run job').2 = some (.validations rs') ∧
      rs.map (ValidationResult.account (l.run job).1.session.resolver) =
        rs'.map (ValidationResult.account (l'.run job').1.session.resolver)) ∨
    ∃ e, (l.run job).1.result? (l.run job).2 = some (.raised e) ∧
      (l'.run job').1.result? (l'.run job').2 = some (.raised e)
  events : ∃ es, (l.run job).1.events = l.events ++ es ∧ (l'.run job').1.events = l'.events ++ es
  told : toldSince l (l.run job).1 = toldSince l' (l'.run job').1

end Loop

namespace Batch

open Loop

variable {b b' : Batch} {judged judged' : List Document} {l l' : Loop} {job job' : Job}

/-! ### Documents of files in their order -/

/-- A batch that judged the documents of files in their order has a result for each document as if
it had judged all of them in their order. -/
theorem Ended.results_of_files (h : b.Ended judged l)
    (files : judged.filter (fun d => d.IsFile) = b.documents.filter fun d => d.IsFile) :
    b.results judged = (b.tally b.documents).1.filterMap fun x => x.result.toOption :=
  b.results_eq (b.judge.on?_tally b.root b.outcome b.resolved.host h.all files b.distinct)

/-- The accounts of the results are those of the verdicts. -/
theorem Ended.accounts (h : b.Ended judged l)
    (files : judged.filter (fun d => d.IsFile) = b.documents.filter fun d => d.IsFile) :
    (b.results judged).map (ValidationResult.account l.session.resolver) =
      (b.tally b.documents).1.filterMap fun x =>
        (x.result.map (·.account b.judge.resolver)).toOption := by
  rw [h.results_of_files files, ← List.filterMap_eq_map, List.filterMap_filterMap]
  refine List.filterMap_congr fun x hx => ?_
  cases hr : x.result with
  | error e => rfl
  | ok r =>
    refine congrArg some (ValidationResult.account_congr fun f hf => ?_)
    obtain ⟨d, hd, host, rfl⟩ := Session.mem_tally _ _ _ hx
    have hisFile := Session.isFile_of_cause hr hf
    rw [h.resolver ⟨d, h.all.mem_iff.mpr hd, hisFile⟩]
    exact b.failure?_marked judged (fun _ => rfl) f

/-- The faults of documents of files in their order. -/
theorem faults_of_files
    (files : judged.filter (fun d => d.IsFile) = b.documents.filter fun d => d.IsFile) :
    b.faults judged = b.faults b.documents := by
  rw [faults, tally, Session.errors_tally, files, ← Session.errors_tally, ← tally, ← faults]

theorem events_of_files
    (files : judged.filter (fun d => d.IsFile) = b.documents.filter fun d => d.IsFile) :
    (b.tally judged).1.flatMap Verdict.events = (b.tally b.documents).1.flatMap Verdict.events := by
  rw [tally, Session.events_tally, files, ← Session.events_tally, ← tally]

/-- Where there are results, no fault was raised. -/
theorem Ended.faults_eq_nil (h : b.Ended judged l) : b.faults judged = [] := by
  refine List.filterMap_eq_nil_iff.mpr fun x hx => ?_
  obtain ⟨r, hr⟩ := h.sound x hx
  rw [Verdict.error?, hr]

/-- What has been shown at the end. -/
theorem Ended.events_of_files (h : b.Ended judged l)
    (files : judged.filter (fun d => d.IsFile) = b.documents.filter fun d => d.IsFile) :
    l.events = b.start.events ++ ((b.tally b.documents).1.flatMap Verdict.events ++
      (b.told b.documents).toList.flatMap (shown b.start.asksQuestions)) := by
  rw [h.events, Batch.events_of_files files, b.told_congr fun d => h.all.mem_iff, List.append_assoc]

theorem Ended.toldSince_eq (h : b.Ended judged l) :
    toldSince b.start l = (b.told b.documents).toList.map Prod.snd := by
  rw [← b.told_congr fun d => h.all.mem_iff]
  exact eq_of_perm_of_length_le h.calls.toldSince (b.told_length_le judged)

/-! ### Batches that begin with nothing -/

/-- Two batches about the same documents, in sessions that have the same settings, remember no
attempt and hold no module. -/
structure BeginAlike (b b' : Batch) : Prop where
  root : b'.root = b.root
  documents : b'.documents = b.documents
  settings : b'.start.session.settings = b.start.session.settings
  asks : b'.start.asksQuestions = b.start.asksQuestions
  memo : b.start.session.resolver.memo = []
  memo' : b'.start.session.resolver.memo = []
  blank : b.start.resolution.IsBlank
  blank' : b'.start.resolution.IsBlank
  alike : b.start.resolution.LooksAlike b'.start.resolution

/-- No attempt touches the files, what the configuration says or which module is looked for. -/
theorem stays_course (b : Batch) (n : Nat) :
    b.start.session.resolver.SameModule (b.course n).resolver ∧
      b.start.host.Stays (b.course n).host := by
  induction n with
  | zero =>
    refine ⟨Resolution.sameModule_act b.start.resolution (.resolve b.root), ?_⟩
    exact (b.start.session.resolver.attemptFor_alike b.root b.start.host).stays
  | succ n ih =>
    rw [course_succ]
    exact ⟨ih.1.trans (Resolution.sameModule_act _ _),
      ih.2.trans (Resolver.step_stays _ _ _)⟩

/-- Where nothing is remembered a new attempt begins, and the rest stays as it was. -/
theorem course_of_forgotten (b : Batch) (memo : b.start.session.resolver.memo = []) :
    (b.course 0).resolver.attempts[b.attempt]? =
        some ⟨Resolver.key b.start.host b.root, .begun⟩ ∧
      (b.course 0).resolver.handles = b.start.session.resolver.handles ∧
      (b.course 0).resolver.modulePath = b.start.session.resolver.modulePath ∧
      (b.course 0).host.imports = b.start.host.imports := by
  have himports := (b.start.session.resolver.attemptFor_alike b.root b.start.host).imports
  obtain ⟨id, hid, -⟩ | ⟨-, hasked, hr⟩ := b.start.resolution.act_resolve b.root
  · have hnone : b.start.resolution.resolver.memo = [] := memo
    simp [hnone] at hid
  · have hcourse : (b.course 0).resolver = _ := hr
    refine ⟨?_, ?_, ?_, himports⟩
    · rw [hcourse, attempt, hasked]
      simp [Resolver.begin, resolution]
    · rw [hcourse]
      rfl
    · rw [hcourse]
      rfl

theorem isBlank_course (b : Batch) (memo : b.start.session.resolver.memo = [])
    (blank : b.start.resolution.IsBlank) : (b.course 0).IsBlank := by
  obtain ⟨-, hhandles, -, himports⟩ := b.course_of_forgotten memo
  refine ⟨hhandles.trans blank.handles, ?_⟩
  rw [himports, (b.stays_course 0).1.moduleName]
  exact blank.lacks

/-- Attempts that begin alike come to the same. -/
theorem BeginAlike.outcomes (a : BeginAlike b b') :
    Resolution.Matches b.resolved b'.resolved b.outcome b'.outcome := by
  obtain ⟨hbegun, -, hpath, -⟩ := b.course_of_forgotten a.memo
  obtain ⟨hbegun', -, hpath', -⟩ := b'.course_of_forgotten a.memo'
  have hkey : Resolver.key b'.start.host b'.root = Resolver.key b.start.host b.root := by
    rw [a.root]
    exact Resolver.key_of_files a.alike.stays.files b.root
  rw [hkey] at hbegun'
  have halike : (b.course 0).LooksAlike (b'.course 0) := by
    obtain ⟨hmodule, hstays⟩ := b.stays_course 0
    obtain ⟨hmodule', hstays'⟩ := b'.stays_course 0
    exact ⟨hmodule.symm.trans (a.alike.module.trans hmodule'),
      hpath'.trans (a.alike.path.trans hpath.symm), hstays.symm.trans (a.alike.stays.trans hstays')⟩
  obtain ⟨o, o', ho, ho', hmatches⟩ := (b.isBlank_course a.memo a.blank).comes_to_same
    (b'.isBlank_course a.memo' a.blank') halike hbegun hbegun'
  rw [← b.course_add 0 3] at ho hmatches
  rw [← b'.course_add 0 3] at ho' hmatches
  obtain rfl := Option.some.inj (b.settles.symm.trans ho)
  obtain rfl := Option.some.inj (b'.settles.symm.trans ho')
  exact hmatches

theorem BeginAlike.judges (a : BeginAlike b b') :
    Session.JudgesAlike b.judge b'.judge b.resolved.host b'.resolved.host b.outcome b'.outcome := by
  obtain ⟨hmodule, hstays⟩ := b.stays_course 3
  obtain ⟨hmodule', hstays'⟩ := b'.stays_course 3
  exact ⟨a.settings, hmodule'.entryPoint.trans (a.alike.module.entryPoint.trans
    hmodule.entryPoint.symm), hstays.symm.trans (a.alike.stays.trans hstays'), a.outcomes⟩

/-- The user is told the same text, about failures that have other numbers. -/
theorem BeginAlike.notice (a : BeginAlike b b') :
    b'.notice.map Prod.snd = b.notice.map Prod.snd := by
  have houtcomes := a.outcomes
  simp only [Batch.notice, Session.warmUpNotice]
  generalize b.outcome = o at houtcomes ⊢
  generalize b'.outcome = o' at houtcomes ⊢
  cases houtcomes with
  | present m m' _ => rfl
  | absent => rfl
  | failed f f' x failure failure' =>
    have hfailure : b.judge.resolver.failure? f = some x := failure
    have hfailure' : b'.judge.resolver.failure? f' = some x := failure'
    simp only [hfailure, hfailure']
    cases Session.isTold x none with
    | false => rfl
    | true => cases noticeFor x.fault.shown none <;> rfl

theorem BeginAlike.told (a : BeginAlike b b') :
    (b'.told b'.documents).map Prod.snd = (b.told b.documents).map Prod.snd := by
  rw [Batch.told, Batch.told, a.documents]
  split
  · exact a.notice
  · rfl

/-- How a notice is shown does not depend on the number of its failure. -/
theorem shown_congr {n n' : Option (Nat × String × Bool)} (h : n'.map Prod.snd = n.map Prod.snd)
    (asks : Bool) : n'.toList.flatMap (shown asks) = n.toList.flatMap (shown asks) := by
  cases n <;> cases n' <;> simp_all [shown]

/-- Verdicts with the same accounts come to the same faults. -/
theorem errors_of_accounts {α : Type} {f f' : ValidationResult → α} {xs xs' : List Verdict}
    (h : xs'.map (fun x => x.result.map f') = xs.map fun x => x.result.map f) :
    xs'.filterMap Verdict.error? = xs.filterMap Verdict.error? := by
  induction xs generalizing xs' with
  | nil => rw [List.map_eq_nil_iff.mp h]
  | cons x xs ih =>
    obtain ⟨x', xs', rfl, hx, hxs⟩ := List.map_eq_cons_iff.mp h
    have herror : x'.error? = x.error? := by
      simp only [Verdict.error?]
      cases hr' : x'.result <;> cases hr : x.result <;> simp_all [Except.map]
    simp only [List.filterMap_cons, herror, ih hxs]

/-- Batches that begin alike judge their documents alike. -/
theorem BeginAlike.tallies (a : BeginAlike b b') :
    (b'.tally b'.documents).1.map (fun x => x.result.map (·.account b'.judge.resolver)) =
        (b.tally b.documents).1.map (fun x => x.result.map (·.account b.judge.resolver)) ∧
      (b'.tally b'.documents).1.flatMap Verdict.events =
        (b.tally b.documents).1.flatMap Verdict.events := by
  have htally : b'.tally b'.documents =
      b'.judge.tally b.root b'.outcome b'.resolved.host b.documents := by
    rw [tally, a.root, a.documents]
  rw [htally]
  exact a.judges.tally b.root b.documents

theorem BeginAlike.faults (a : BeginAlike b b') :
    b'.faults b'.documents = b.faults b.documents :=
  errors_of_accounts a.tallies.1

/-- Batches that begin alike and end with results have the same ones. -/
theorem BeginAlike.ends (a : BeginAlike b b') (h : b.Ended judged l) (h' : b'.Ended judged' l')
    (files : judged.filter (fun d => d.IsFile) = b.documents.filter fun d => d.IsFile)
    (files' : judged'.filter (fun d => d.IsFile) = b'.documents.filter fun d => d.IsFile) :
    (b'.results judged').map (ValidationResult.account l'.session.resolver) =
        (b.results judged).map (ValidationResult.account l.session.resolver) ∧
      (∃ es, l.events = b.start.events ++ es ∧ l'.events = b'.start.events ++ es) ∧
      toldSince b'.start l' = toldSince b.start l := by
  obtain ⟨haccounts, hevents⟩ := a.tallies
  refine ⟨?_, ⟨_, h.events_of_files files, ?_⟩, ?_⟩
  · have hresults := congrArg (List.filterMap Except.toOption) haccounts
    rw [List.filterMap_map, List.filterMap_map] at hresults
    rw [h.accounts files, h'.accounts files']
    exact hresults
  · rw [h'.events_of_files files', hevents, a.asks, shown_congr a.told]
  · rw [h.toldSince_eq, h'.toldSince_eq, ← Option.toList_map, ← Option.toList_map, a.told]

/-- Batches that begin alike and end with a fault have shown the same. -/
theorem BeginAlike.fails (a : BeginAlike b b') {e e' : Fault} (h : b.Failed judged e l)
    (h' : b'.Failed judged' e' l')
    (files : judged.filter (fun d => d.IsFile) = b.documents.filter fun d => d.IsFile)
    (files' : judged'.filter (fun d => d.IsFile) = b'.documents.filter fun d => d.IsFile) :
    (∃ es, l.events = b.start.events ++ es ∧ l'.events = b'.start.events ++ es) ∧
      toldSince b'.start l' = toldSince b.start l := by
  refine ⟨⟨_, h.events, ?_⟩, ?_⟩
  · rw [h'.events, Batch.events_of_files files, Batch.events_of_files files', a.tallies.2]
  · rw [h.calls.toldSince.eq_nil, h'.calls.toldSince.eq_nil]

/-! ### Batches run to their ends -/

/-- A session reckons with turns enough for a batch. -/
theorem le_budget_begun (b : Batch) (job : Job) :
    9 * b.documents.length + 13 ≤ (b.begun job).budget := by
  have hlength : (b.begun job).tasks.length = b.start.tasks.length + 1 + b.documents.length := by
    by_cases hnone : b.documents = []
    · rw [b.begun_of_nil hnone, hnone]
      simp only [finish]
      split <;> simp [setStage, enqueue, addTask]
    · rw [b.begun_eq hnone]
      simp only [setStage, started, addTask, List.length_modify, List.length_append,
        List.length_map, List.length_singleton]
  have hsizes := length_le_sizes (b.begun job).tasks
  simp only [budget, foldl_size]
  generalize hn : (b.begun job).queue.length + (b.begun job).documents.size +
    (b.begun job).waiting.length + (1 + ((b.begun job).tasks.map fun t => Job.size t.job).sum) = n
  have hle : b.documents.length + 2 ≤ n := by omega
  have hsquare : (b.documents.length + 2) * 2 ≤ n * n := Nat.mul_le_mul hle (by omega)
  have hassoc : 64 * n * n = 64 * (n * n) := Nat.mul_assoc 64 n n
  omega

/-- To run the job in the session is to begin the batch: it starts in this session, or in what
the job makes of it before it adds tasks. -/
structure BegunBy (b : Batch) (l : Loop) (job : Job) : Prop where
  silent : job.error? = none
  tasks : b.start.tasks = l.tasks
  events : b.start.events = l.events
  begun : (l.addTask job .nobody).1.begin l.tasks.length job = b.begun job

theorem BegunBy.run_eq (h : b.BegunBy l job) :
    l.run job = (drainToEnd [b.parent] (b.begun job).budget (b.begun job), b.parent) := by
  rw [← h.begun, parent, h.tasks]
  rfl

/-- The documents of files are judged in their order, and the fault that is raised is the first. -/
theorem BegunBy.comes_to_end (h : b.BegunBy l job) :
    ∃ judged, judged.filter (fun d => d.IsFile) = b.documents.filter (fun d => d.IsFile) ∧
      (b.Ended judged (l.run job).1 ∨
        ∃ e, b.Failed judged e (l.run job).1 ∧ (b.faults judged).head? = some e) := by
  rw [h.run_eq]
  exact b.over_inLine h.silent (b.le_budget_begun job)

/-- Batches that begin alike run alike. -/
theorem BeginAlike.runsAlike (a : BeginAlike b b') (h : b.BegunBy l job)
    (h' : b'.BegunBy l' job') : RunsAlike l job l' job' := by
  obtain ⟨judged, hfiles, hover⟩ := h.comes_to_end
  obtain ⟨judged', hfiles', hover'⟩ := h'.comes_to_end
  have hparent : (l.run job).2 = b.parent := by rw [h.run_eq]
  have hparent' : (l'.run job').2 = b'.parent := by rw [h'.run_eq]
  have hfaults : b'.faults judged' = b.faults judged := by
    rw [faults_of_files hfiles, faults_of_files hfiles', a.faults]
  have hsince : toldSince b'.start (l'.run job').1 = toldSince b.start (l.run job).1 →
      toldSince l (l.run job).1 = toldSince l' (l'.run job').1 := by
    intro htold
    simp only [toldSince, h.tasks, h.events, h'.tasks, h'.events] at htold ⊢
    exact htold.symm
  obtain hended | ⟨e, hfailed, hfirst⟩ := hover <;> obtain hended' | ⟨e', hfailed', hfirst'⟩ := hover'
  · obtain ⟨haccounts, ⟨es, hevents, hevents'⟩, htold⟩ := a.ends hended hended' hfiles hfiles'
    refine ⟨.inl ?_, ⟨es, h.events ▸ hevents, h'.events ▸ hevents'⟩, hsince htold⟩
    rw [hparent, hparent']
    exact ⟨_, _, hended.result, hended'.result, haccounts.symm⟩
  · rw [hfaults, hended.faults_eq_nil] at hfirst'
    cases hfirst'
  · rw [← hfaults, hended'.faults_eq_nil] at hfirst
    cases hfirst
  · obtain ⟨⟨es, hevents, hevents'⟩, htold⟩ := a.fails hfailed hfailed' hfiles hfiles'
    refine ⟨.inr ⟨e, ?_, ?_⟩, ⟨es, h.events ▸ hevents, h'.events ▸ hevents'⟩, hsince htold⟩
    · rw [hparent]
      exact hfailed.result
    · rw [hfaults] at hfirst'
      obtain rfl : e' = e := Option.some.inj (hfirst'.symm.trans hfirst)
      rw [hparent']
      exact hfailed'.result

end Batch

namespace Loop

variable {l : Loop} {payload : Json} {new : Settings} {documents : List Document}

/-! ### Changed settings -/

/-- A session whose settings have just been changed. -/
def renewed (l : Loop) (new : Settings) : Loop :=
  let reset := (l.session.resolver.setModulePath new.modulePath).reset l.host
  { l with
    session := { l.session with settings := new, resolver := reset.1 }
    host := reset.2.note .info "Settings changed, revalidating open documents" }

theorem stays_renewed (l : Loop) (new : Settings) : l.host.Stays (l.renewed new).host :=
  (l.host.stays_note _ _).trans ((Host.stays_imports _ _).trans (Host.stays_note _ _ _))

theorem isBlank_renewed (l : Loop) (new : Settings) : (l.renewed new).resolution.IsBlank :=
  ⟨rfl, LintModule.Imports.lacks_forget _ _⟩

theorem applySettings_renewed (payloadGiven : payload.isNull = false)
    (accepted : Settings.ofPayload l.host.home payload = .ok new) :
    l.session.applySettings l.host payload =
      (.ok (l.renewed new).session, (l.renewed new).host) := by
  simp only [Session.applySettings, payloadGiven, Bool.false_eq_true, if_false, accepted]
  rfl

/-- To change the settings is to begin anew with all open documents. -/
theorem begin_updateSettings (t : Nat) (payloadGiven : payload.isNull = false)
    (accepted : Settings.ofPayload l.host.home payload = .ok new)
    (all : l.documents.all l.host.files = .ok documents) :
    l.begin t (.updateSettings payload) = (l.renewed new).beginMany t documents := by
  have hall : (l.renewed new).documents.all (l.renewed new).host.files = .ok documents := all
  simp only [begin, applySettings_renewed payloadGiven accepted]
  show (l.renewed new).beginAll t = _
  simp only [beginAll, hall]

/-- Whatever happens in a session, it looks for the same module. -/
theorem Keeps.sameModule {ws : List (Nat × Nat)} (h : Keeps ws l) (acts : List Act) :
    l.session.resolver.SameModule (l.ownAfter acts).session.resolver := by
  induction acts generalizing ws l with
  | nil => exact .refl _
  | cons a acts ih => exact (calls_toldIn h.records a).2.module.trans (ih (h.ownAct a))

/-- In any session that has a workspace and in which nothing goes on, whatever came before: to
change the settings comes to the same as to validate the same open documents in a new session that
has these settings, on a machine with the same files and the same configuration on which nothing is
kept of the module. -/
theorem settings_begin_anew (host anew : Host) (root : Option String) (settings new : Settings)
    (name entry : String) (path : Option String) (fallback : Bool)
    (source source' : DocumentSource) (asks : Bool) (acts : List Act) (payload : Json)
    (workspace : String) (documents : List Document) :
    let l := (fresh host (.fresh root settings (.fresh name entry path fallback)) source
      asks).ownAfter acts
    let unused := fresh anew (.fresh (some workspace) new
      (.fresh name entry new.modulePath fallback)) source' l.asksQuestions
    l.session.workspace? = some workspace → l.queue = [] → l.waiting = [] →
    payload.isNull = false → Settings.ofPayload l.host.home payload = .ok new →
    l.documents.all l.host.files = .ok documents →
    (∀ d ∈ documents, ∃ path, Uri.toPath? d.uri = .ok path) →
    (documents.map Document.uri).Nodup →
    l.host.Stays anew → anew.imports.Lacks name →
    RunsAlike l (.updateSettings payload) unused (.validateMany (some documents)) := by
  intro l unused hworkspace queue waiting payloadGiven hsettings all accepted
    distinct stays lacks
  have hfresh := keeps_fresh host root settings name entry path fallback source asks
  have hkeeps : Keeps _ l := hfresh.ownAfter acts
  have hmodule : (Resolver.fresh name entry path fallback).SameModule l.session.resolver :=
    hfresh.sameModule acts
  have hrecords : (l.renewed new).session.resolver.Records :=
    (Session.hushes_applySettings (applySettings_renewed payloadGiven hsettings)).records
      hkeeps.records
  have hunused : unused.session.workspace? = some workspace := by
    obtain ⟨-, hnonempty⟩ := Option.filter_eq_some_iff.mp hworkspace
    show Workspace.nonempty (some workspace) = some workspace
    exact Option.filter_eq_some_iff.mpr ⟨rfl, hnonempty⟩
  let b : Batch := {
    start := l.renewed new
    root := workspace
    documents := documents
    workspace := hworkspace
    resting := ⟨queue, waiting, fun _ hp => absurd hp List.not_mem_nil⟩
    records := hrecords
    childless := hkeeps.gathers.listener?_length
    accepted := accepted
    distinct := distinct }
  let b' : Batch := {
    start := unused
    root := workspace
    documents := documents
    workspace := hunused
    resting := ⟨rfl, rfl, fun _ hp => absurd hp List.not_mem_nil⟩
    records := Resolver.records_fresh _ _ _ _
    childless := fun _ hc => by simp [unused, fresh, listener?] at hc
    accepted := accepted
    distinct := distinct }
  have hbegin : b.BeginAlike b' := {
    root := rfl
    documents := rfl
    settings := rfl
    asks := rfl
    memo := rfl
    memo' := rfl
    blank := isBlank_renewed l new
    blank' := ⟨rfl, lacks⟩
    alike := ⟨⟨hmodule.symm.moduleName, hmodule.symm.entryPoint, hmodule.symm.globalFallback⟩, rfl,
      (l.stays_renewed new).symm.trans stays⟩ }
  exact hbegin.runsAlike
    ⟨rfl, rfl, rfl, begin_updateSettings _ payloadGiven hsettings all⟩ ⟨rfl, rfl, rfl, rfl⟩

/-- A document has been validated, two are open, and the editor sends settings in which warnings are
not shown. -/
theorem hidden_warnings_begin_anew :
    let documents := [⟨"file:///w/a.js", "let x", .null⟩, ⟨"untitled:c", "let z", .null⟩]
    let l := (fresh .withModule (.fresh (some "/w") .standard
      (.fresh "marlint" "lint_text" none false)) .nowhere false).ownAfter
        (.begin (.validateSingle ⟨"file:///w/a.js", "let x", .null⟩) :: (.replicate 5 (.turn 0) ++
          [.elsewhere (.given documents) validatedOnce.session.resolver validatedOnce.host]))
    let unused := fresh { validatedOnce.host with imports := .empty } (.fresh (some "/w")
      ⟨none, false, []⟩ (.fresh "marlint" "lint_text" none false)) .nowhere l.asksQuestions
    RunsAlike l (.updateSettings (.obj [("showWarnings", .bool false)])) unused
      (.validateMany (some documents)) := by
  intro documents l unused
  obtain ⟨hworkspace, hqueue, hwaiting⟩ :
      l.session.workspace? = some "/w" ∧ l.queue = [] ∧ l.waiting = [] := by decide +kernel
  have haccepted : ∀ d ∈ documents, ∃ path, Uri.toPath? d.uri = .ok path :=
    accepted_of_all (by decide +kernel)
  have hlacks : LintModule.Imports.empty.Lacks "marlint" := fun _ hp => absurd hp List.not_mem_nil
  exact settings_begin_anew .withModule { validatedOnce.host with imports := .empty } (some "/w")
    .standard ⟨none, false, []⟩ "marlint" "lint_text" none false .nowhere .nowhere false
    (.begin (.validateSingle ⟨"file:///w/a.js", "let x", .null⟩) :: (.replicate 5 (.turn 0) ++
      [.elsewhere (.given documents) validatedOnce.session.resolver validatedOnce.host]))
    (.obj [("showWarnings", .bool false)]) "/w" documents hworkspace hqueue hwaiting
    rfl rfl rfl haccepted (by decide +kernel) (Host.stays_imports _ _) hlacks

end Loop

end LintBridge
