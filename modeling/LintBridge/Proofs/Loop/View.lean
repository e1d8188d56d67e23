import LintBridge.Proofs.Documents
import LintBridge.Proofs.Loop.Basic

/-! What an editor sees while one session works for it. An open file is fresh: its last list is what
the module remembered for the workspace says about its text; or it is due: a task that will
validate it has asked for its turn, or waits for the remembered attempt. `Works` holds this of
the documents that are watched, together with what keeps the work going: who has not begun has
asked to, an attempt under way has asked for its turn, and who waits for an attempt is told when
it settles. So when no turn is asked for, nothing is due. -/

namespace LintBridge

/-- What a session works for: a workspace, the documents that are open in it, the URIs whose
documents are closed, and the events that the editor was sent before. -/
structure View where
  root : String
  documents : Documents
  closed : String → Prop
  sent : List Event

/-- Is a turn one of a task that stands at its beginning or waits? -/
def Turn.IsOf (t : Nat) (turn : Turn) : Prop :=
  turn = .start t ∨ turn = .relay t ∨ turn = .wake t

/-- Is a job one that changes what all documents are validated with? -/
def Job.IsMain : Job → Prop
  | .updateSettings _ | .watchedFilesChanged _ => True
  | _ => False

/-- Does a job validate this open document? -/
def Job.Validates (documents : Documents) (d : Document) : Job → Prop
  | .validate d' => d' = d
  | .validateOpen uri => documents.get? uri = some d
  | _ => False

/-- Is this a bad end of the validation of a file: a result that is not good, or none, because what
went wrong while linting has no text? -/
def TaskResult.IsBad : TaskResult → Prop
  | .validation r => (∃ path, Uri.toPath? r.uri = .ok (some path)) ∧ r.status ≠ .ok
  | .raised (.unshown _) => True
  | _ => False

namespace Loop

/-- A turn is asked for, or is being taken. -/
def Asked (hand : Option Turn) (l : Loop) (turn : Turn) : Prop :=
  turn ∈ l.queue ∨ hand = some turn

/-- The attempt that is remembered for a workspace. -/
def attemptOf (l : Loop) (root : String) : Option Nat :=
  l.session.resolver.memo.lookup (Resolver.key l.host root)

/-- The outcome of an attempt that has settled. -/
def outcomeOf (l : Loop) (id : Nat) : Option Outcome :=
  l.session.resolver.outcome? id

/-- A validation of a file did not end well. -/
def Spoiled (l : Loop) : Prop :=
  ∃ t r, l.result? t = some r ∧ r.IsBad

/-- A task waits with a validation for an attempt. -/
def Waits (l : Loop) (t id : Nat) (v : Validation) : Prop :=
  ∃ told, l.stage? t = some (.resolving id (.conclude v told))

/-- An attempt goes on: it has asked for its turn, or has settled. -/
def Proceeds (hand : Option Turn) (l : Loop) (id : Nat) : Prop :=
  match l.session.resolver.phase? id with
  | some .begun => Asked hand l (.attempt id)
  | some (.found _ _) => hand = some (.attempt id)
  | some (.executed _ _) => Asked hand l (.attempt id) ∨ Asked hand l (.rest id)
  | some (.settled _) => True
  | none => False

end Loop

namespace View

variable (V : View)

/-- Documents and closed URIs fit together. -/
structure Sound : Prop where
  documents : V.documents.Sound
  isOpen : ∀ p ∈ V.documents.entries, ¬ V.closed p.2.uri

/-- A document that may be validated: the one that is open under its URI, or one from the disk whose
URI was not closed. -/
def Admits (d : Document) : Prop :=
  ¬ V.closed d.uri ∧ (V.documents.get? d.uri = some d ∨ V.documents.get? d.uri = none)

/-- A validation that may wait. -/
def Awaits (v : Validation) : Prop :=
  V.Admits v.document ∧ v.root = V.root ∧
    ∃ path, Uri.toPath? v.document.uri = .ok (some path) ∧ v.path = path.toString

/-- A job that changes nothing but what is shown. -/
def IsPlain : Job → Prop
  | .validate d => V.Admits d
  | .validateOpen uri => ¬ V.closed uri
  | .warmUp | .question _ => True
  | _ => False

/-- The list that the editor was sent last for a document. -/
def shown (l : Loop) (uri : String) : Option (List Diagnostic) :=
  Event.lastList (V.sent ++ l.events) uri

/-- The last list of a document is what the remembered module says, or said when fewer modules were
loaded and called. -/
def IsFresh (l : Loop) (d : Document) : Prop :=
  ∃ id m path im ds, l.attemptOf V.root = some id ∧ l.outcomeOf id = some (.present m) ∧
    Uri.toPath? d.uri = .ok (some path) ∧ im.Follows l.host.imports ∧
    l.session.Says l.host im m V.root path d ds ∧ V.shown l d.uri = some ds

/-- A task will validate this document. -/
def IsDueBy (l : Loop) (d : Document) (t : Nat) : Prop :=
  (∃ job listener, l.tasks[t]? = some ⟨job, listener, .ready⟩ ∧ job.Validates V.documents d) ∨
    ∃ id v, l.Waits t id v ∧ v.document = d

/-- Some task will validate this document. -/
def IsDue (l : Loop) (d : Document) : Prop :=
  ∃ t, V.IsDueBy l d t

/-- An open document is the one under its URI that may be validated. -/
theorem Sound.eq_of_uri {V : View} (hV : V.Sound) {p : String × Document}
    (hp : p ∈ V.documents.entries) {d : Document} (hd : V.Admits d) (hu : d.uri = p.2.uri) :
    p.2 = d := by
  have hget := hV.documents.get?_uri hp
  rw [← hu] at hget
  obtain ⟨-, hd | hd⟩ := hd <;> rw [hget] at hd
  · exact Option.some.inj hd
  · simp at hd

/-- What is fresh stays fresh as long as its module is remembered, modules are only loaded and
called, and its list is the last. -/
theorem IsFresh.mono {V : View} {l l' : Loop} {d : Document} (h : V.IsFresh l d)
    (settings : l'.session.settings = l.session.settings)
    (entry : l'.session.resolver.entryPoint = l.session.resolver.entryPoint)
    (host : l.host.Grows l'.host)
    (memo : ∀ id, l.attemptOf V.root = some id → l'.attemptOf V.root = some id)
    (outcome : ∀ id o, l.outcomeOf id = some o → l'.outcomeOf id = some o)
    (shown : V.shown l' d.uri = V.shown l d.uri) : V.IsFresh l' d := by
  obtain ⟨id, m, path, im, ds, hid, hm, hpath, him, hsays, hds⟩ := h
  exact ⟨id, m, path, im, ds, memo id hid, outcome id _ hm, hpath, him.trans host.imports,
    hsays.congr settings entry host.config, shown.trans hds⟩

end View

namespace Loop

/-- The session works for a view, of which it keeps the documents `w` fresh or due, while a turn is
in hand. -/
structure Works (V : View) (w : Document → Prop) (hand : Option Turn) (l : Loop) : Prop where
  documents : l.documents = .editor V.documents
  workspace : l.session.workspace? = some V.root
  config : ∃ c, l.host.config? = some c
  refusal : l.session.resolver.refusal = none
  ready : ∀ t job listener, l.tasks[t]? = some ⟨job, listener, .ready⟩ →
    Asked hand l (.start t) ∧ (V.IsPlain job ∨ job.IsMain ∧ hand = some (.start t))
  answered : ∀ t, l.stage? t = some (.answered true) →
    hand = some (.relay t) ∨ hand = some (.wake t)
  proceeds : ∀ id, l.attemptOf V.root = some id → Proceeds hand l id
  waits : ∀ t id v, l.Waits t id v → V.Awaits v ∧ l.attemptOf V.root = some id ∧
    ((id, t) ∈ l.waiting ∧ (l.outcomeOf id = none ∨ hand = some (.attempt id)) ∨
      l.outcomeOf id ≠ none ∧ (Asked hand l (.relay t) ∨ Asked hand l (.wake t)))
  view : ∀ p ∈ V.documents.entries, w p.2 → ∀ path, Uri.toPath? p.2.uri = .ok (some path) →
    l.Spoiled ∨ V.IsFresh l p.2 ∨ V.IsDue l p.2
  clear : ∀ uri, V.closed uri → V.shown l uri = some []

variable {V : View} {w : Document → Prop} {hand hand' : Option Turn} {l l' : Loop} {t : Nat}
  {d : Document}

theorem Asked.mono {turn : Turn} (h : Asked hand l turn)
    (queue : ∀ turn ∈ l.queue, turn ∈ l'.queue) : Asked hand l' turn :=
  h.imp_left (queue turn)

/-- An attempt with another phase than that of a file that was found goes on if it has asked for its
turn, or has settled. -/
theorem proceeds_of_phase {id : Nat} {p : Phase} (hp : l.session.resolver.phase? id = some p)
    (hfound : ∀ f origin, p = .found f origin → hand = some (.attempt id))
    (hasked : (∃ o, p = .settled o) ∨ (∃ origin result, p = .executed origin result) ∧
        Asked hand l (.rest id) ∨ Asked hand l (.attempt id)) : Proceeds hand l id := by
  unfold Proceeds
  rw [hp]
  cases p with
  | begun =>
    obtain ⟨o, ho⟩ | ⟨⟨origin, result, hx⟩, -⟩ | ha := hasked
    · simp at ho
    · simp at hx
    · exact ha
  | found f origin => exact hfound f origin rfl
  | executed origin result =>
    obtain ⟨o, ho⟩ | ⟨-, ha⟩ | ha := hasked
    · simp at ho
    · exact .inr ha
    · exact .inl ha
  | settled o => trivial

theorem Proceeds.mono {id : Nat} (h : Proceeds hand l id)
    (phase : l'.session.resolver.phase? id = l.session.resolver.phase? id)
    (asked : ∀ turn, turn = .attempt id ∨ turn = .rest id → Asked hand l turn →
      Asked hand' l' turn)
    (found : hand = some (.attempt id) → hand' = some (.attempt id)) : Proceeds hand' l' id := by
  unfold Proceeds at h ⊢
  rw [phase]
  split at h
  · exact asked _ (.inl rfl) h
  · exact found h
  · exact h.imp (asked _ (.inl rfl)) (asked _ (.inr rfl))
  · exact h
  · exact h

/-! ### Lists that are published -/

theorem shown_publish_self (l : Loop) (uri : String) (ds : List Diagnostic) :
    V.shown (l.emit [.publish uri ds]) uri = some ds := by
  simp only [View.shown, emit, ← List.append_assoc]
  rw [Event.lastList_append, Event.lastList_publish_self]
  rfl

theorem shown_publish_of_ne (l : Loop) {u uri : String} (ds : List Diagnostic) (h : u ≠ uri) :
    V.shown (l.emit [.publish u ds]) uri = V.shown l uri := by
  simp only [View.shown, emit, ← List.append_assoc]
  rw [Event.lastList_append, Event.lastList_publish_of_ne ds h]
  rfl

/-! ### Changes without tasks -/

theorem isOpen_congr (tasks : l'.tasks = l.tasks) : l'.IsOpen t ↔ l.IsOpen t := by
  unfold IsOpen stage?
  rw [tasks]

theorem isDueBy_congr (tasks : l'.tasks = l.tasks) : V.IsDueBy l' d t ↔ V.IsDueBy l d t := by
  unfold View.IsDueBy Waits stage?
  rw [tasks]

/-! ### Calm changes -/

theorem Calm.task? (h : Calm l l') {t : Nat} (ht : t < l.tasks.length) :
    l'.tasks[t]? = l.tasks[t]? :=
  h.quiet.extends.task?_lt ht

/-- A task that was added is a question that has asked for its turn. -/
theorem Calm.task?_new (h : Calm l l') {task : Task} (ht : l.tasks.length ≤ t)
    (htask : l'.tasks[t]? = some task) :
    (task.stage = .ready ∧ ∃ message, task.job = .question message) ∧ .start t ∈ l'.queue := by
  obtain ⟨new, hnew, hquestions⟩ := h.tasks
  refine ⟨hquestions task ?_, h.starts t ht (List.getElem?_eq_some_iff.mp htask).1⟩
  rw [hnew, List.getElem?_append_right ht] at htask
  exact List.mem_of_getElem? htask

theorem attemptOf_congr (root : String)
    (memo : l'.session.resolver.memo = l.session.resolver.memo)
    (files : l'.host.files = l.host.files) : l'.attemptOf root = l.attemptOf root := by
  simp only [attemptOf, Resolver.key, Host.here, memo, files]

theorem Calm.attemptOf (h : Calm l l') (root : String) : l'.attemptOf root = l.attemptOf root :=
  attemptOf_congr root (by rw [h.session]) h.host.files

theorem Calm.phase? (h : Calm l l') (id : Nat) :
    l'.session.resolver.phase? id = l.session.resolver.phase? id := by
  rw [h.session]
  rfl

theorem Calm.outcomeOf (h : Calm l l') (id : Nat) : l'.outcomeOf id = l.outcomeOf id := by
  rw [Loop.outcomeOf, h.session]
  rfl

theorem Calm.spoiled (h : Calm l l') (hs : l.Spoiled) : l'.Spoiled := by
  obtain ⟨t, r, hr, hbad⟩ := hs
  exact ⟨t, r, (h.quiet.result? t).trans hr, hbad⟩

theorem Calm.waits (h : Calm l l') {id : Nat} {v : Validation} :
    l'.Waits t id v ↔ l.Waits t id v :=
  exists_congr fun _ => h.quiet.stage?_iff (by simp)

theorem Calm.isDueBy (h : Calm l l') : V.IsDueBy l' d t ↔ V.IsDueBy l d t := by
  unfold View.IsDueBy
  simp only [h.waits]
  by_cases ht : t < l.tasks.length
  · rw [h.task? ht]
  · refine or_congr_left ⟨?_, ?_⟩
    · rintro ⟨job, listener, htask, hjob⟩
      obtain ⟨⟨-, message, rfl⟩, -⟩ := h.task?_new (Nat.le_of_not_lt ht) htask
      exact hjob.elim
    · rintro ⟨job, listener, htask, hjob⟩
      exact absurd (List.getElem?_eq_some_iff.mp htask).1 ht

/-- The last list depends on the lists alone. -/
theorem shown_congr (lists : l'.lists = l.lists) (uri : String) :
    V.shown l' uri = V.shown l uri := by
  have hlists : ∀ es : List Event, Event.lastList es uri =
      Event.lastList (es.filter Event.isList) uri := by
    intro es
    simp only [Event.lastList, ← List.filter_reverse]
    induction es.reverse with
    | nil => rfl
    | cons e es ih =>
      rw [List.findSome?_cons, List.filter_cons]
      cases e with
      | publish u ds =>
        show _ = (Event.publish u ds :: es.filter Event.isList).findSome? (Event.listFor uri)
        rw [List.findSome?_cons, ih]
      | showError message retry => exact ih
      | ask request message => exact ih
  rw [View.shown, View.shown, Event.lastList_append, Event.lastList_append, hlists l'.events,
    hlists l.events]
  exact congrArg (fun es => (Event.lastList es uri).or _) lists

theorem Calm.isFresh (h : Calm l l') (hf : V.IsFresh l d) : V.IsFresh l' d :=
  hf.mono (by rw [h.session]) (by rw [h.session]) h.host
    (fun id hid => (h.attemptOf V.root).trans hid) (fun id o ho => (h.outcomeOf id).trans ho)
    (shown_congr h.lists d.uri)

theorem Works.calm (h : Works V w hand l) (hc : Calm l l') : Works V w hand l' where
  documents := hc.documents.trans h.documents
  workspace := by
    rw [hc.session]
    exact h.workspace
  config := by
    obtain ⟨c, hconfig⟩ := h.config
    exact ⟨c, hc.host.config c hconfig⟩
  refusal := by
    rw [hc.session]
    exact h.refusal
  ready t job listener ht := by
    by_cases hlt : t < l.tasks.length
    · rw [hc.task? hlt] at ht
      obtain ⟨hasked, hjob⟩ := h.ready t job listener ht
      exact ⟨hasked.mono hc.queue, hjob⟩
    · obtain ⟨⟨-, message, rfl⟩, hasked⟩ := hc.task?_new (Nat.le_of_not_lt hlt) ht
      exact ⟨.inl hasked, .inl trivial⟩
  answered t ht := h.answered t ((hc.quiet.stage?_iff (by simp)).mp ht)
  proceeds id hid := by
    rw [hc.attemptOf] at hid
    exact (h.proceeds id hid).mono (hc.phase? id) (fun _ _ ha => ha.mono hc.queue)
      fun hturn => hturn
  waits t id v ht := by
    obtain ⟨hv, hid, htold⟩ := h.waits t id v (hc.waits.mp ht)
    rw [hc.attemptOf, hc.waiting, hc.outcomeOf]
    refine ⟨hv, hid, htold.imp_right fun ⟨ho, hasked⟩ => ⟨ho, ?_⟩⟩
    exact hasked.imp (·.mono hc.queue) (·.mono hc.queue)
  view p hp hw path hpath := by
    obtain hs | hf | ⟨t, ht⟩ := h.view p hp hw path hpath
    · exact .inl (hc.spoiled hs)
    · exact .inr (.inl (hc.isFresh hf))
    · exact .inr (.inr ⟨t, hc.isDueBy.mpr ht⟩)
  clear uri hu := (shown_congr hc.lists uri).trans (h.clear uri hu)

/-- Numbers and fixes do not matter. -/
theorem Works.renumber (h : Works V w hand l) (numbers : List (String × Nat))
    (fixes : List (String × List QuickFix)) :
    Works V w hand { l with session.numbers := numbers, session.fixes := fixes } :=
  ⟨h.documents, h.workspace, h.config, h.refusal, h.ready, h.answered, h.proceeds, h.waits,
    h.view, h.clear⟩

/-- More may wait. -/
theorem Works.queueUp (h : Works V w hand l) (more : List (Nat × Nat)) :
    Works V w hand { l with waiting := l.waiting ++ more } where
  documents := h.documents
  workspace := h.workspace
  config := h.config
  refusal := h.refusal
  ready := h.ready
  answered := h.answered
  proceeds := h.proceeds
  waits t id v ht := by
    obtain ⟨hv, hid, htold⟩ := h.waits t id v ht
    exact ⟨hv, hid, htold.imp_left fun ⟨hin, hnone⟩ => ⟨List.mem_append_left _ hin, hnone⟩⟩
  view := h.view
  clear := h.clear

/-- Nobody who waits for an attempt that has settled is still told of it. -/
theorem Works.dismiss (h : Works V w none l) {id : Nat} (hid : l.outcomeOf id ≠ none) :
    Works V w none { l with waiting := l.waiting.filter fun p => p.1 != id } where
  documents := h.documents
  workspace := h.workspace
  config := h.config
  refusal := h.refusal
  ready := h.ready
  answered := h.answered
  proceeds := h.proceeds
  waits t id' v ht := by
    obtain ⟨hv, hid', htold⟩ := h.waits t id' v ht
    refine ⟨hv, hid', htold.imp_left fun ⟨hin, hnone⟩ => ⟨?_, hnone⟩⟩
    refine List.mem_filter.mpr ⟨hin, bne_iff_ne.mpr ?_⟩
    rintro rfl
    obtain hnone | hturn := hnone
    · exact hid hnone
    · simp at hturn
  view := h.view
  clear := h.clear

/-- The turn in hand is over, and more turns are asked for. What it was needed for is either done or
asked for again. -/
theorem Works.handOver {turn : Turn} (h : Works V w (some turn) l) {queue : List Turn}
    (hqueue : ∀ turn ∈ l.queue, turn ∈ queue)
    (hstart : ∀ t, turn = .start t → l.stage? t ≠ some .ready)
    (hanswered : ∀ t, turn = .relay t ∨ turn = .wake t → l.stage? t = some (.answered true) →
      hand' = some (.relay t) ∨ hand' = some (.wake t))
    (hproceeds : ∀ id, turn = .attempt id ∨ turn = .rest id → l.attemptOf V.root = some id →
      Proceeds hand' { l with queue := queue } id)
    (hwaits : ∀ t id v, turn = .relay t ∨ turn = .wake t ∨ turn = .attempt id → l.Waits t id v →
      l.outcomeOf id ≠ none → Asked hand' { l with queue := queue } (.relay t) ∨
        Asked hand' { l with queue := queue } (.wake t)) :
    Works V w hand' { l with queue := queue } := by
  have hasked : ∀ other, other ≠ turn → Asked (some turn) l other →
      Asked hand' { l with queue := queue } other := by
    rintro other hne (hm | hturn)
    · exact .inl (hqueue other hm)
    · exact absurd (Option.some.inj hturn).symm hne
  refine ⟨h.documents, h.workspace, h.config, h.refusal, ?_, ?_, ?_, ?_, h.view, h.clear⟩
  · intro t job listener ht
    obtain ⟨hstart', hjob⟩ := h.ready t job listener ht
    have hne : Turn.start t ≠ turn := by
      rintro rfl
      exact hstart t rfl (by rw [stage?, ht]; rfl)
    exact ⟨hasked _ hne hstart', hjob.imp_right fun hmain =>
      absurd (Option.some.inj hmain.2).symm hne⟩
  · intro t ht
    exact hanswered t ((h.answered t ht).imp Option.some.inj Option.some.inj) ht
  · intro id hid
    by_cases hturn : turn = .attempt id ∨ turn = .rest id
    · exact hproceeds id hturn hid
    · refine (h.proceeds id hid).mono rfl (fun other ho => hasked other ?_) fun hhand => ?_
      · rintro rfl
        exact hturn ho
      · exact absurd (.inl (Option.some.inj hhand)) hturn
  · intro t id v ht
    obtain ⟨hv, hid, htold⟩ := h.waits t id v ht
    refine ⟨hv, hid, ?_⟩
    by_cases ho : l.outcomeOf id = none
    · obtain ⟨hin, -⟩ | ⟨hne, -⟩ := htold
      · exact .inl ⟨hin, .inl ho⟩
      · exact absurd ho hne
    · refine .inr ⟨ho, ?_⟩
      by_cases hturn : turn = .relay t ∨ turn = .wake t ∨ turn = .attempt id
      · exact hwaits t id v hturn ht ho
      · simp only [not_or] at hturn
        obtain ⟨-, hnone | hhand⟩ | ⟨-, ha⟩ := htold
        · exact absurd hnone ho
        · exact absurd (Option.some.inj hhand) hturn.2.2
        · exact ha.imp (hasked _ (Ne.symm hturn.1)) (hasked _ (Ne.symm hturn.2.1))

/-! ### Putting a task into another place -/

theorem spoiled_setStage (ht : l.IsOpen t) (s : Stage) (hs : l.Spoiled) :
    (l.setStage t s).Spoiled := by
  obtain ⟨t', r, hr, hbad⟩ := hs
  have hne : t ≠ t' := by
    rintro rfl
    rw [ht.result?] at hr
    simp at hr
  refine ⟨t', r, ?_, hbad⟩
  rw [result?_eq_some] at hr ⊢
  rwa [stage?_setStage_of_ne hne]

/-- The task in hand is put into another place. It is no longer due to validate a document, unless
it waits in this place, or the document is fresh, or the place is a bad end. -/
theorem Works.put (h : Works V w hand l) (ht : l.IsOpen t)
    (hhand : ∀ turn, hand = some turn → turn.IsOf t) {s : Stage} (hready : s ≠ .ready)
    (hanswered : s = .answered true → hand' = some (.relay t) ∨ hand' = some (.wake t))
    (hwaits : ∀ id v told, s = .resolving id (.conclude v told) →
      V.Awaits v ∧ l.attemptOf V.root = some id ∧ (id, t) ∈ l.waiting ∧ l.outcomeOf id = none)
    (hview : ∀ d, w d → V.IsDueBy l d t → ∀ path, Uri.toPath? d.uri = .ok (some path) →
      (l.setStage t s).Spoiled ∨ V.IsFresh l d ∨
        ∃ id v told, s = .resolving id (.conclude v told) ∧ v.document = d) :
    Works V w hand' (l.setStage t s) := by
  have hasked : ∀ turn, ¬ turn.IsOf t → Asked hand l turn →
      Asked hand' (l.setStage t s) turn := by
    rintro turn hne (hq | hturn)
    · exact .inl hq
    · exact absurd (hhand turn hturn) hne
  have hself := stage?_setStage_self ht.lt s
  have hother : ∀ t', t ≠ t' → (l.setStage t s).tasks[t']? = l.tasks[t']? :=
    fun t' hne => task?_setStage_of_ne hne s
  have hstage : ∀ t', t ≠ t' → (l.setStage t s).stage? t' = l.stage? t' :=
    fun t' hne => stage?_setStage_of_ne hne s
  refine ⟨h.documents, h.workspace, h.config, h.refusal, ?_, ?_, ?_, ?_, ?_, h.clear⟩
  · intro t' job listener ht'
    have hne : t ≠ t' := by
      rintro rfl
      rw [stage?, ht'] at hself
      exact hready (Option.some.inj hself).symm
    rw [hother t' hne] at ht'
    obtain ⟨hstart, hjob⟩ := h.ready t' job listener ht'
    have hnot : ¬ (Turn.start t').IsOf t := by
      rintro (he | he | he)
      · exact hne (Turn.start.inj he).symm
      · simp at he
      · simp at he
    exact ⟨hasked _ hnot hstart, hjob.imp_right fun hmain => absurd (hhand _ hmain.2) hnot⟩
  · intro t' ht'
    by_cases hne : t = t'
    · subst hne
      exact hanswered (Option.some.inj (hself.symm.trans ht'))
    · rw [hstage t' hne] at ht'
      obtain hturn | hturn := h.answered t' ht' <;> obtain he | he | he := hhand _ hturn <;>
        simp_all
  · intro id hid
    refine (h.proceeds id hid).mono rfl (fun turn hturn => hasked turn ?_)
      fun hturn => absurd (hhand _ hturn) (by simp [Turn.IsOf])
    obtain rfl | rfl := hturn <;> simp [Turn.IsOf]
  · rintro t' id v ⟨told, ht'⟩
    by_cases hne : t = t'
    · subst hne
      obtain ⟨hv, hid, hin, hnone⟩ := hwaits id v told (Option.some.inj (hself.symm.trans ht'))
      exact ⟨hv, hid, .inl ⟨hin, .inl hnone⟩⟩
    · rw [hstage t' hne] at ht'
      obtain ⟨hv, hid, htold⟩ := h.waits t' id v ⟨told, ht'⟩
      refine ⟨hv, hid, htold.imp ?_ ?_⟩
      · rintro ⟨hin, hnone | hturn⟩
        · exact ⟨hin, .inl hnone⟩
        · exact absurd (hhand _ hturn) (by simp [Turn.IsOf])
      · rintro ⟨ho, hrelay | hwake⟩
        · refine ⟨ho, .inl (hasked _ ?_ hrelay)⟩
          simp [Turn.IsOf, Ne.symm hne]
        · refine ⟨ho, .inr (hasked _ ?_ hwake)⟩
          simp [Turn.IsOf, Ne.symm hne]
  · intro p hp hw path hpath
    obtain hs | hf | ⟨t', ht'⟩ := h.view p hp hw path hpath
    · exact .inl (spoiled_setStage ht s hs)
    · exact .inr (.inl hf)
    · by_cases hne : t = t'
      · subst hne
        obtain hs | hf | ⟨id, v, told, rfl, hv⟩ := hview p.2 hw ht' path hpath
        · exact .inl hs
        · exact .inr (.inl hf)
        · exact .inr (.inr ⟨t, .inr ⟨id, v, ⟨told, hself⟩, hv⟩⟩)
      · refine .inr (.inr ⟨t', ?_⟩)
        unfold View.IsDueBy Waits at ht' ⊢
        rwa [hother t' hne, hstage t' hne]

/-- The task in hand comes to its end. -/
theorem Works.finish (h : Works V w hand l) (ht : l.IsOpen t)
    (hhand : ∀ turn, hand = some turn → turn.IsOf t) {r : TaskResult}
    (hview : ∀ d, w d → V.IsDueBy l d t → ∀ path, Uri.toPath? d.uri = .ok (some path) →
      (l.setStage t (.done r)).Spoiled ∨ V.IsFresh l d) : Works V w none (l.finish t r) := by
  refine (h.put ht hhand (by simp) (by simp) (by simp) fun d hw hd path hpath => ?_).calm
    (calm_finish l t r)
  exact (hview d hw hd path hpath).imp_right .inl

/-! ### Adding a task -/

/-- Who is due is told by the tasks that were there. -/
theorem isDueBy_append {new : List Task} (htasks : l'.tasks = l.tasks ++ new)
    (ht : t < l.tasks.length) : V.IsDueBy l' d t ↔ V.IsDueBy l d t := by
  unfold View.IsDueBy Waits stage?
  rw [htasks, List.getElem?_append_left ht]

theorem isDueBy_lt (h : V.IsDueBy l d t) : t < l.tasks.length := by
  obtain ⟨job, listener, htask, -⟩ | ⟨id, v, ⟨told, hs⟩, -⟩ := h
  · exact (List.getElem?_eq_some_iff.mp htask).1
  · exact stage?_lt hs

/-- A task that is there was there, or is the one that was added. -/
theorem task?_cases_of_append {task new : Task} (htasks : l'.tasks = l.tasks ++ [new])
    (ht : l'.tasks[t]? = some task) :
    l.tasks[t]? = some task ∨ t = l.tasks.length ∧ task = new := by
  rw [htasks, List.getElem?_append] at ht
  split at ht
  · exact .inl ht
  · rename_i hge
    obtain ⟨hlt, heq⟩ := List.getElem?_eq_some_iff.mp ht
    rw [List.length_singleton] at hlt
    rw [List.getElem_singleton] at heq
    exact .inr ⟨by omega, heq.symm⟩

/-- A task is added that has asked for its turn, or whose turn is in hand. -/
theorem Works.grow (h : Works V w hand l) (job : Job) (listener : Listener) {queue : List Turn}
    (hqueue : ∀ turn ∈ l.queue, turn ∈ queue) (hhand : ∀ turn, hand = some turn → hand' = some turn)
    (hstart : .start l.tasks.length ∈ queue ∨ hand' = some (.start l.tasks.length))
    (hjob : V.IsPlain job ∨ job.IsMain ∧ hand' = some (.start l.tasks.length)) :
    Works V w hand' { (l.addTask job listener).1 with queue := queue } := by
  generalize hl' : { (l.addTask job listener).1 with queue := queue } = l'
  have htasks : l'.tasks = l.tasks ++ [⟨job, listener, .ready⟩] := by
    rw [← hl']
    rfl
  have hextends : Extends l l' := ⟨_, htasks, by simp⟩
  have hasked : ∀ turn, Asked hand l turn → Asked hand' l' turn := by
    rw [← hl']
    exact fun turn ha => ha.imp (hqueue turn) (hhand turn)
  refine ⟨?_, ?_, ?_, ?_, ?_, ?_, ?_, ?_, ?_, ?_⟩
  · rw [← hl']
    exact h.documents
  · rw [← hl']
    exact h.workspace
  · rw [← hl']
    exact h.config
  · rw [← hl']
    exact h.refusal
  · intro t job' listener' ht
    obtain hold | ⟨rfl, he⟩ := task?_cases_of_append htasks ht
    · obtain ⟨ha, hplain⟩ := h.ready t job' listener' hold
      exact ⟨hasked _ ha, hplain.imp_right (And.imp_right (hhand _))⟩
    · obtain ⟨rfl, -, -⟩ := Task.mk.inj he
      rw [← hl']
      exact ⟨hstart, hjob⟩
  · intro t ht
    exact (h.answered t ((hextends.stage?_iff (by simp)).mp ht)).imp (hhand _) (hhand _)
  · intro id hid
    rw [← hl'] at hid
    refine (h.proceeds id hid).mono ?_ (fun turn _ => hasked turn) (hhand _)
    rw [← hl']
    rfl
  · rintro t id v ⟨told, ht⟩
    have hwaits := h.waits t id v ⟨told, (hextends.stage?_iff (by simp)).mp ht⟩
    rw [← hl'] at hasked ⊢
    refine ⟨hwaits.1, hwaits.2.1, hwaits.2.2.imp ?_ ?_⟩
    · exact And.imp_right fun hnone => hnone.imp_right (hhand _)
    · exact And.imp_right fun ha => ha.imp (hasked _) (hasked _)
  · intro p hp hw path hpath
    obtain ⟨t', r, hr, hbad⟩ | hf | ⟨t', ht'⟩ := h.view p hp hw path hpath
    · exact .inl ⟨t', r, (hextends.result? t').trans hr, hbad⟩
    · rw [← hl']
      exact .inr (.inl hf)
    · exact .inr (.inr ⟨t', (isDueBy_append htasks (isDueBy_lt ht')).mpr ht'⟩)
  · rw [← hl']
    exact h.clear

/-- A task is added that has asked for its turn. -/
theorem Works.spawn (h : Works V w hand l) {job : Job} (hjob : V.IsPlain job)
    (listener : Listener) : Works V w hand (l.spawn job listener).1 :=
  h.grow job listener (fun _ hm => List.mem_append_left _ hm) (fun _ hturn => hturn)
    (.inl (List.mem_append_right _ List.mem_cons_self)) (.inl hjob)

end Loop

end LintBridge
