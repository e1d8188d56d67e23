import LintBridge.Proofs.Loop.Occasion
import LintBridge.Wire

/-! What an editor sees at the end of any run of a server that has a workspace. Between two messages
the files may change at will, and every message is handled until no turn is asked for. At the end
the last list of every open file is what the module that is remembered for the workspace says about
its text, unless a validation did not end well, and the last list of every closed document is
empty. Which documents are open, and with which texts, is told by the messages alone. No handler
asks whether a document is open: one that is saved after it was closed is read from the disk and
shown again. So the runs are those in which this is not asked for. -/

namespace LintBridge

namespace Message

/-- Is a message neither the first one nor the request to get ready for the end? -/
def IsWithin : Message → Prop
  | .connected .. | .shutdown _ => False
  | _ => True

/-- The document that a message opens, changes, saves or closes. -/
def uri? : Message → Option String
  | .opened d => some d.uri
  | .changed uri _ _ | .saved uri | .closed uri => some uri
  | _ => none

/-- Whether a message closes a document, or opens it. -/
def closes? (uri : String) : Message → Option Bool
  | .opened d => if d.uri = uri then some false else none
  | .closed u => if u = uri then some true else none
  | _ => none

/-- The text of a document after a message, if it is open then. -/
def textAfter (uri : String) (text : Option String) : Message → Option String
  | .opened d => if d.uri = uri then some d.text else text
  | .changed u _ texts => if u = uri then text.map texts.getLastD else text
  | .closed u => if u = uri then none else text
  | _ => text

/-- The document that a message validates as it is. -/
def rereads? : Message → Option String
  | .saved uri | .changed uri _ [] => some uri
  | _ => none

/-- A message leaves the texts of other documents as they are. -/
theorem textAfter_of_ne {m : Message} {u uri : String} (hm : m.uri? = some uri) (hne : uri ≠ u)
    (text : Option String) : m.textAfter u text = text := by
  cases m with
  | opened | changed | closed =>
    obtain rfl := Option.some.inj hm
    exact if_neg hne
  | _ => rfl

end Message

namespace Server

/-- Was a document closed, and not opened again? -/
def isClosed (ms : List Message) (uri : String) : Bool :=
  (ms.reverse.findSome? (Message.closes? uri)).getD false

theorem isClosed_append (ms : List Message) (m : Message) (uri : String) :
    isClosed (ms ++ [m]) uri = (m.closes? uri).getD (isClosed ms uri) := by
  simp only [isClosed, List.reverse_append, List.reverse_singleton, List.singleton_append,
    List.findSome?_cons]
  cases m.closes? uri <;> rfl

theorem isClosed_append_of_none (ms : List Message) {m : Message} {uri : String}
    (h : m.closes? uri = none) : isClosed (ms ++ [m]) uri = isClosed ms uri := by
  rw [isClosed_append, h]
  rfl

/-- The text of a document after some messages, if it is open then. -/
def textOf (ms : List Message) (uri : String) : Option String :=
  ms.foldl (Message.textAfter uri) none

theorem textOf_append (ms : List Message) (m : Message) (uri : String) :
    textOf (ms ++ [m]) uri = m.textAfter uri (textOf ms uri) := by
  rw [textOf, List.foldl_append]
  rfl

/-- The documents of messages. -/
def uris (ms : List Message) : List String :=
  ms.filterMap Message.uri?

/-- What an editor may be expected to do: percent escapes do not make two of its documents one, and
no document is validated as it is while it is closed. -/
structure Orderly (ms : List Message) : Prop where
  stable : ∀ uri ∈ uris ms, Documents.nameOf (Documents.nameOf uri) = Documents.nameOf uri
  distinct : ∀ uri ∈ uris ms, ∀ uri' ∈ uris ms,
    Documents.nameOf uri = Documents.nameOf uri' → uri = uri'
  rereads : ∀ before m, before ++ [m] <+: ms → ∀ uri, m.rereads? = some uri →
    isClosed before uri = false

/-- The events that a server has sent. -/
def events (s : Server) : List Event :=
  s.sent.filterMap fun
    | .event e => some e
    | .response .. => none

/-- A message is handled: it is taken in, then turns are taken until none is asked for. -/
def Handles (s : Server) (m : Message) (s' : Server) : Prop :=
  ∃ n, (Loop.drain n (s.receive m).loop).queue = [] ∧
    s' = { s.receive m with loop := Loop.drain n (s.receive m).loop }.flush

/-- What becomes of a server that handles messages one after another, while the files change between
them. The directory in which it works stays. -/
inductive Run (s : Server) : List Message → Server → Prop where
  | start : Run s [] s
  | edit {ms : List Message} {s' : Server} (run : Run s ms s') (files : FileSystem)
      (here : files.here = s'.loop.host.files.here) :
      Run s ms { s' with loop.host.files := files }
  | handle {ms : List Message} {s' s'' : Server} (run : Run s ms s') {m : Message}
      (within : m.IsWithin) (handles : s'.Handles m s'') : Run s (ms ++ [m]) s''

/-- What the session of a server works for after some messages, while these documents are open. -/
def view (s : Server) (root : String) (ms : List Message) (ds : Documents) : View :=
  ⟨root, ds, fun uri => isClosed ms uri = true, s.events⟩

/-- Every document that is open after some messages, and has a path on the disk, is kept with its
text. -/
def Holds (ms : List Message) (ds : Documents) : Prop :=
  ∀ uri text value, textOf ms uri = some text → Documents.diskPath uri = .ok value →
    ∃ d, ds.get? uri = some d ∧ d.uri = uri ∧ d.text = text

/-- After some messages, the session of a server keeps working for its workspace. -/
structure Going (root : String) (ms : List Message) (ds : Documents) (s : Server) : Prop where
  isOpen : s.closing = false
  known : ∀ p ∈ ds.entries, p.2.uri ∈ uris ms
  holds : Holds ms ds
  sound : (s.view root ms ds).Sound
  goes : Loop.Goes (s.view root ms ds) s.loop

/-- The last list of a file is what the module that is remembered for the workspace says about a
text. -/
def Shows (s : Server) (root uri text : String) (path : Path) : Prop :=
  ∃ id m list, s.loop.attemptOf root = some id ∧ s.loop.outcomeOf id = some (.present m) ∧
    s.loop.session.Says s.loop.host s.loop.host.imports m root path ⟨uri, text, .null⟩ list ∧
    Event.lastList s.events uri = some list

variable {root : String} {ms : List Message} {m : Message} {ds ds' : Documents} {s s' : Server}

theorem Orderly.of_append {more : List Message} (h : Orderly (ms ++ more)) : Orderly ms := by
  have hmem : ∀ uri ∈ uris ms, uri ∈ uris (ms ++ more) := by
    intro uri hu
    rw [uris, List.filterMap_append]
    exact List.mem_append_left _ hu
  exact ⟨fun uri hu => h.stable uri (hmem uri hu),
    fun uri hu uri' hu' => h.distinct uri (hmem uri hu) uri' (hmem uri' hu'),
    fun before m hp => h.rereads before m (hp.trans (List.prefix_append ms more))⟩

theorem uris_append (ms : List Message) (m : Message) :
    uris (ms ++ [m]) = uris ms ++ m.uri?.toList := by
  rw [uris, List.filterMap_append]
  cases hm : m.uri? <;> simp [uris, hm]

theorem mem_uris_of_old {uri : String} (hu : uri ∈ uris ms) : uri ∈ uris (ms ++ [m]) := by
  rw [uris_append]
  exact List.mem_append_left _ hu

theorem mem_uris_of_new {uri : String} (hu : m.uri? = some uri) : uri ∈ uris (ms ++ [m]) := by
  rw [uris_append, hu]
  exact List.mem_append_right _ List.mem_cons_self

/-! ### The first message -/

/-- A name of the configuration is read from it. -/
theorem config_of_nameOr {configured : LinterSection → Json} {h h' : Host} {name : String}
    (hn : Resolver.nameOr none configured h = (.ok name, h')) : ∃ c, h'.config? = some c := by
  simp only [Resolver.nameOr, Workspace.nonempty, Option.filter_none, Prod.mk.injEq] at hn
  obtain ⟨hname, rfl⟩ := hn
  obtain ⟨linter, hlinter, -⟩ := bind_eq_ok hname
  exact Host.config_of_linterConfig (Prod.ext hlinter rfl)

/-- A server that has started has read its configuration and resolved nothing. -/
theorem start_cases {h : Host} (hs : (start h).1 = .ok s) :
    ∃ h' r, s = ⟨Loop.fresh h' (.fresh none .standard r) .detached true, [], false⟩ ∧
      (∃ c, h'.config? = some c) ∧ r.refusal = none ∧ r.memo = [] := by
  simp only [start, Session.make, Resolver.make] at hs
  cases hname : Resolver.nameOr none LinterSection.moduleName h with
  | mk name h₁ =>
    cases name with
    | error e => simp [hname, Except.map] at hs
    | ok name =>
      cases hentry : Resolver.nameOr none LinterSection.entryPoint h₁ with
      | mk entry h₂ =>
        cases entry with
        | error e => simp [hname, hentry, Except.map] at hs
        | ok entry =>
          simp only [hname, hentry, Except.map, Except.ok.injEq] at hs
          exact ⟨h₂, _, hs.symm, config_of_nameOr hentry, rfl, rfl⟩

/-- Binding the session to a workspace changes its root and its settings. -/
theorem bind_cases {folders : List String} {rootUri rootPath : Option String} {options : Json}
    (hb : s.bind folders rootUri rootPath options = .ok s') :
    ∃ settings root, s' = { s with
      loop.session := (s.loop.session.attach s.loop.host root (some settings)).1
      loop.host := (s.loop.session.attach s.loop.host root (some settings)).2 } := by
  obtain ⟨settings, -, hb⟩ := bind_eq_ok hb
  obtain ⟨root, -, hb⟩ := bind_eq_ok hb
  exact ⟨settings, root, (Except.ok.inj hb).symm⟩

/-- Once the editor has named a workspace, the session works for it. -/
theorem going_of_connected {h : Host} (hs : (start h).1 = .ok s) {id options : Json}
    {folders : List String} {rootUri rootPath : Option String}
    (hroot : (s.receive (.connected id folders rootUri rootPath options)).loop.session.workspace? =
      some root) :
    Going root [] .empty (s.receive (.connected id folders rootUri rootPath options)) ∧
      (s.receive (.connected id folders rootUri rootPath options)).loop.queue = [] ∧
      (s.receive (.connected id folders rootUri rootPath options)).loop.events = [] := by
  obtain ⟨h', r, rfl, ⟨c, hc⟩, refusal, memo⟩ := start_cases hs
  simp only [receive, handle, connect, Bool.false_eq_true, if_false] at hroot ⊢
  split at hroot
  · have hnone : (Session.fresh none .standard r).workspace? = none := rfl
    exact absurd (hnone.symm.trans hroot) (by simp)
  · split at hroot
    · have hnone : (Session.fresh none .standard r).workspace? = none := rfl
      exact absurd (hnone.symm.trans hroot) (by simp)
    · rename_i s' hbind
      obtain ⟨settings, root', rfl⟩ := bind_cases hbind
      refine ⟨⟨rfl, by simp [Documents.empty], by simp [Holds, textOf], ⟨Documents.sound_empty, ?_⟩,
        .works (Loop.works_of_blank rfl hroot ⟨c, hc⟩ refusal memo rfl rfl ?_)⟩, rfl, rfl⟩
      · simp [view, Documents.empty]
      · simp [view, isClosed]

/-! ### Changes of the documents -/

theorem Going.works (h : Going root ms ds s) (hq : s.loop.queue = []) :
    Loop.Works (s.view root ms ds) (fun _ => True) none s.loop :=
  h.goes.works_of_idle hq

/-- While no turn is asked for, the files may change and events may be sent. -/
theorem Going.renewed (h : Going root ms ds s) (hq : s.loop.queue = [])
    (closing : s'.closing = s.closing) (tasks : s'.loop.tasks = s.loop.tasks)
    (session : s'.loop.session = s.loop.session) (documents : s'.loop.documents = s.loop.documents)
    (host : s'.loop.host.files.here = s.loop.host.files.here ∧
      s'.loop.host.config? = s.loop.host.config? ∧ s'.loop.host.imports = s.loop.host.imports)
    (events : s'.events ++ s'.loop.events = s.events ++ s.loop.events) :
    Going root ms ds s' := by
  have hshown : ∀ uri, (s'.view root ms ds).shown s'.loop uri =
      (s.view root ms ds).shown s.loop uri := by
    intro uri
    simp only [View.shown, view, events]
  have hworks := h.works hq
  refine ⟨closing.trans h.isOpen, h.known, h.holds, ⟨h.sound.documents, h.sound.isOpen⟩,
    .works ?_⟩
  refine hworks.renewed hq tasks ?_ host rfl (documents.trans hworks.documents)
    (fun p hp _ => ⟨hp, hshown p.2.uri⟩) fun uri hu => (hshown uri).trans (hworks.clear uri hu)
  rw [session]
  exact ⟨rfl, rfl, rfl⟩

theorem events_flush (s : Server) : s.flush.events = s.events ++ s.loop.events := by
  simp only [events, flush, List.filterMap_append, List.filterMap_map]
  refine congrArg _ ?_
  exact List.filterMap_some

theorem Going.flush (h : Going root ms ds s) (hq : s.loop.queue = []) :
    Going root ms ds s.flush :=
  h.renewed hq rfl rfl rfl rfl ⟨rfl, rfl, rfl⟩ (by rw [events_flush]; exact List.append_nil _)

theorem Going.respond (h : Going root ms ds s) (hq : s.loop.queue = []) (id : Json) (a : Answer) :
    Going root ms ds (s.respond id a) := by
  refine (h.flush hq).renewed hq rfl rfl rfl rfl ⟨rfl, rfl, rfl⟩ ?_
  simp [events, Server.respond]

/-- A message that opens and closes nothing leaves the view as it was. -/
theorem view_append (hm : ∀ uri, m.closes? uri = none) :
    s.view root (ms ++ [m]) ds = s.view root ms ds := by
  have hclosed := fun uri => isClosed_append_of_none ms (hm uri)
  simp only [view, hclosed]

theorem Going.append (h : Going root ms ds s) (hm : ∀ uri, m.closes? uri = none)
    (holds : Holds (ms ++ [m]) ds) : Going root (ms ++ [m]) ds s := by
  refine ⟨h.isOpen, fun p hp => mem_uris_of_old (h.known p hp), holds, ?_, ?_⟩
  · rw [view_append hm]
    exact h.sound
  · rw [view_append hm]
    exact h.goes

/-- A message that leaves all documents as they are. -/
theorem Going.aside (h : Going root ms ds s) (hm : ∀ uri, m.closes? uri = none)
    (htext : ∀ uri text, m.textAfter uri text = text) : Going root (ms ++ [m]) ds s := by
  refine h.append hm fun uri text value ht hv => h.holds uri text value ?_ hv
  rwa [textOf_append, htext] at ht

/-- A message begins a task that changes nothing but what is shown. -/
theorem Going.beginPlain (h : Going root ms ds s) (hq : s.loop.queue = []) {job : Job}
    (hjob : (s.view root ms ds).IsPlain job) : Going root ms ds (s.begin job) :=
  ⟨h.isOpen, h.known, h.holds, h.sound, .works ((h.works hq).spawn hjob .editor)⟩

/-- A message begins a task that is to validate all documents. -/
theorem Going.beginMain (h : Going root ms ds s) (hq : s.loop.queue = []) (job : Job)
    (hjob : job.IsMain) : Going root ms ds (s.begin job) :=
  ⟨h.isOpen, h.known, h.holds, h.sound, (h.works hq).spawnMain hq hjob .editor⟩

theorem takeIn_of_editor (hd : s.loop.documents = .editor ds)
    (f : Documents → Except Fault Documents) (next : Server → Server) :
    s.takeIn f next = match f ds with
      | .error e => s.complainOf e
      | .ok ds' => next { s with loop.documents := .editor ds' } := by
  simp only [takeIn, hd, DocumentSource.modify]
  cases f ds <;> rfl

/-- The editor is told of a fault. -/
theorem Going.complainOf (h : Going root ms ds s) (hq : s.loop.queue = []) (e : Fault) :
    Going root ms ds (s.complainOf e) :=
  ⟨h.isOpen, h.known, h.holds, h.sound, .works ((h.works hq).calm (Loop.calm_emit _ rfl))⟩

/-- A message about one document leaves those of other names as they are kept. -/
theorem Going.holds_append (h : Going root ms ds s) {uri : String}
    (horderly : Orderly (ms ++ [m])) (hm : m.uri? = some uri)
    (hother : ∀ u, Documents.nameOf u ≠ Documents.nameOf uri → ds'.get? u = ds.get? u)
    (hself : ∀ text value, textOf (ms ++ [m]) uri = some text →
      Documents.diskPath uri = .ok value →
      ∃ d, ds'.get? uri = some d ∧ d.uri = uri ∧ d.text = text) : Holds (ms ++ [m]) ds' := by
  intro u text value ht hv
  by_cases hne : uri = u
  · subst hne
    exact hself text value ht hv
  · rw [textOf_append, Message.textAfter_of_ne hm hne] at ht
    obtain ⟨d, hd, hu, htext⟩ := h.holds u text value ht hv
    have hmem := h.known _ (Documents.mem_of_get? hd)
    refine ⟨d, (hother u fun hname => hne ?_).trans hd, hu, htext⟩
    rw [← hu]
    exact horderly.distinct _ (mem_uris_of_new hm) _ (mem_uris_of_old hmem) (hu ▸ hname.symm)

/-- One document was touched, which is not closed after the message, and is validated. All that was
open or closed else stays so. -/
theorem Going.touched (h : Going root ms ds s) (hq : s.loop.queue = []) {uri : String}
    (htouches : Documents.Touches uri ds ds') (huri : m.uri? = some uri)
    (hopen : isClosed (ms ++ [m]) uri = false)
    (hother : ∀ u, isClosed (ms ++ [m]) u = true → isClosed ms u = true)
    (holds : Holds (ms ++ [m]) ds') :
    Going root (ms ++ [m]) ds'
      ({ s with loop.documents := .editor ds' }.begin (.validateOpen uri)) := by
  have hworks := h.works hq
  have hdocuments : ds'.Sound := htouches.sound h.sound.documents
  have hsound : (s.view root (ms ++ [m]) ds').Sound := by
    refine ⟨hdocuments, fun p hp hclosed => ?_⟩
    obtain hu | ⟨q, hq, hu⟩ := htouches.known p hp
    · rw [hu] at hclosed
      exact absurd (hopen.symm.trans hclosed) (by simp)
    · rw [← hu] at hclosed
      exact h.sound.isOpen q hq (hother _ hclosed)
  refine ⟨h.isOpen, fun p hp => ?_, holds, hsound, .works ?_⟩
  · obtain hu | ⟨q, hq, hu⟩ := htouches.known p hp
    · rw [hu]
      exact mem_uris_of_new huri
    · rw [← hu]
      exact mem_uris_of_old (h.known q hq)
  -- the documents of other names are fresh as before, that of this name is due
  · have hrenewed : Loop.Works (s.view root (ms ++ [m]) ds')
        (fun d => Documents.nameOf d.uri ≠ Documents.nameOf uri) none
        { s.loop with documents := .editor ds' } := by
      refine hworks.renewed hq rfl ⟨rfl, rfl, rfl⟩ ⟨rfl, rfl, rfl⟩ rfl rfl ?_ ?_
      · intro p hp hname
        refine ⟨(htouches.entry p hp).resolve_right fun hp' => hname ?_, rfl⟩
        rw [← hdocuments.named p hp, hp']
      · exact fun u hu => hworks.clear u (hother u hu)
    have hplain : (s.view root (ms ++ [m]) ds').IsPlain (.validateOpen uri) :=
      Bool.eq_false_iff.mp hopen
    refine hrenewed.spawnAbout hplain .editor fun p hp hname => ?_
    have hget := hdocuments.get?_uri hp
    rw [Documents.get?, Classical.not_not.mp hname] at hget
    exact hget

/-! ### Messages about documents -/

/-- A document is opened, or the editor is told why it cannot be. -/
theorem Going.opened (h : Going root ms ds s) (hq : s.loop.queue = []) {d : Document}
    (horderly : Orderly (ms ++ [.opened d])) :
    ∃ ds', Going root (ms ++ [.opened d]) ds' (s.handle (.opened d)) := by
  have hself : isClosed (ms ++ [.opened d]) d.uri = false := by
    rw [isClosed_append, Message.closes?, if_pos rfl]
    rfl
  have hother : ∀ u, isClosed (ms ++ [.opened d]) u = true → isClosed ms u = true := by
    intro u hu
    by_cases hne : d.uri = u
    · rw [← hne, hself] at hu
      simp at hu
    · have hm : (Message.opened d).closes? u = none := if_neg hne
      rwa [isClosed_append_of_none ms hm] at hu
  have hworks := h.works hq
  simp only [handle, takeIn_of_editor hworks.documents]
  split
  · rename_i e he
    have holds : Holds (ms ++ [.opened d]) ds := by
      refine h.holds_append horderly rfl (fun _ _ => rfl) fun text value _ hv => ?_
      simp [Documents.enter, hv, Except.map] at he
    refine ⟨ds, Going.complainOf ⟨h.isOpen, fun p hp => mem_uris_of_old (h.known p hp), holds,
      ⟨h.sound.documents, fun p hp hu => h.sound.isOpen p hp (hother _ hu)⟩, .works ?_⟩ hq e⟩
    exact hworks.renewed hq rfl ⟨rfl, rfl, rfl⟩ ⟨rfl, rfl, rfl⟩ rfl hworks.documents
      (fun p hp _ => ⟨hp, rfl⟩) fun u hu => hworks.clear u (hother u hu)
  · rename_i ds' hds
    obtain ⟨path, -, rfl⟩ : ∃ path, Documents.diskPath d.uri = .ok path ∧ ds.put d = ds' := by
      unfold Documents.enter at hds
      cases hpath : Documents.diskPath d.uri with
      | error e => simp [hpath, Except.map] at hds
      | ok path => exact ⟨path, rfl, Except.ok.inj (by rwa [hpath] at hds)⟩
    have hstable := horderly.stable d.uri (mem_uris_of_new rfl)
    have holds : Holds (ms ++ [.opened d]) (ds.put d) := by
      refine h.holds_append horderly rfl (fun _ hname => Documents.get?_put_of_ne ds hname)
        fun text value ht _ => ⟨d, Documents.get?_put_self ds d, rfl, ?_⟩
      rw [textOf_append, Message.textAfter, if_pos rfl] at ht
      exact Option.some.inj ht
    exact ⟨_, h.touched hq (Documents.touches_put ds d hstable) rfl hself hother holds⟩

/-- A document under whose name one is open is not closed. -/
theorem Going.not_isClosed (h : Going root ms ds s) {uri : String} (hu : m.uri? = some uri)
    (horderly : Orderly (ms ++ [m])) {d : Document} (hd : ds.get? uri = some d) :
    isClosed ms uri = false := by
  have hmem := Documents.mem_of_get? hd
  have hname : Documents.nameOf uri = Documents.nameOf d.uri := h.sound.documents.named _ hmem
  have huri : uri = d.uri := horderly.distinct _ (mem_uris_of_new hu) _
    (mem_uris_of_old (h.known _ hmem)) hname
  rw [huri]
  exact Bool.eq_false_iff.mpr (h.sound.isOpen _ hmem)

/-- A message validates a document as it is. -/
theorem Going.reread (h : Going root ms ds s) (hq : s.loop.queue = []) {uri : String}
    (hm : ∀ uri, m.closes? uri = none) (htext : ∀ uri text, m.textAfter uri text = text)
    (hu : m.rereads? = some uri) (horderly : Orderly (ms ++ [m])) :
    Going root (ms ++ [m]) ds (s.begin (.validateOpen uri)) := by
  have hopen := horderly.rereads ms m (List.prefix_refl _) uri hu
  have hplain : (s.view root ms ds).IsPlain (.validateOpen uri) := Bool.eq_false_iff.mp hopen
  exact (h.beginPlain hq hplain).aside hm htext

/-- New texts of a document are taken in, or the editor is told why they cannot be. -/
theorem Going.changed (h : Going root ms ds s) (hq : s.loop.queue = []) {uri : String}
    {version : Json} {texts : List String}
    (horderly : Orderly (ms ++ [.changed uri version texts])) :
    ∃ ds', Going root (ms ++ [.changed uri version texts]) ds'
      (s.handle (.changed uri version texts)) := by
  have hm : ∀ u, (Message.changed uri version texts).closes? u = none := fun _ => rfl
  have htexts : ∀ text, textOf (ms ++ [.changed uri version texts]) uri = some text →
      ∃ old, textOf ms uri = some old ∧ texts.getLastD old = text := by
    intro text ht
    rw [textOf_append, Message.textAfter, if_pos rfl] at ht
    exact Option.map_eq_some_iff.mp ht
  cases texts with
  | nil =>
    refine ⟨ds, h.reread hq hm (fun u text => ?_) rfl horderly⟩
    by_cases hu : uri = u <;> cases text <;> simp [Message.textAfter, hu]
  | cons text texts =>
    have hdocuments : s.loop.documents = .editor ds := (h.works hq).documents
    simp only [handle, change, List.isEmpty_cons, Bool.false_eq_true, if_false,
      takeIn_of_editor hdocuments]
    split
    · rename_i e he
      refine ⟨ds, (h.complainOf hq _).append hm ?_⟩
      refine h.holds_append horderly rfl (fun _ _ => rfl) fun text' value ht hv => ?_
      obtain ⟨old, hold, -⟩ := htexts text' ht
      obtain ⟨d, hd, -⟩ := h.holds uri old value hold hv
      obtain ⟨ds', hds, -⟩ := Documents.changes_of_get? hd version (text :: texts)
      exact absurd (he.symm.trans hds) (by simp)
    · rename_i ds' hds
      obtain ⟨d, hd⟩ := Documents.get?_of_changes hds
      have hold := h.not_isClosed rfl horderly hd
      have hsame := fun u => isClosed_append_of_none ms (hm u)
      have holds : Holds (ms ++ [.changed uri version (text :: texts)]) ds' := by
        obtain ⟨ds'', hds', ⟨d', hd', huri, htext⟩, hother⟩ :=
          Documents.changes_of_get? hd version (text :: texts)
        obtain rfl := Except.ok.inj (hds'.symm.trans hds)
        refine h.holds_append horderly rfl hother fun text' value ht hv => ?_
        obtain ⟨old, hopen, hlast⟩ := htexts text' ht
        obtain ⟨d₀, hd₀, huri₀, htext₀⟩ := h.holds uri old value hopen hv
        obtain rfl := Option.some.inj (hd.symm.trans hd₀)
        exact ⟨d', hd', huri.trans huri₀, by rw [htext, htext₀, hlast]⟩
      exact ⟨ds', h.touched hq (Documents.touches_changes hds) rfl ((hsame uri).trans hold)
        (fun u hu => (hsame u).symm.trans hu) holds⟩

/-- A document is closed: its list is emptied. -/
theorem Going.closed (h : Going root ms ds s) (hq : s.loop.queue = []) {uri : String}
    (horderly : Orderly (ms ++ [.closed uri])) :
    Going root (ms ++ [.closed uri]) (ds.close uri) (s.handle (.closed uri)) := by
  have hworks := h.works hq
  have hother : ∀ u, uri ≠ u → isClosed (ms ++ [.closed uri]) u = isClosed ms u :=
    fun u hne => isClosed_append_of_none ms (if_neg hne)
  have hne : ∀ p ∈ (ds.close uri).entries, uri ≠ p.2.uri := by
    intro p hp hu
    obtain ⟨hp, hname⟩ := Documents.mem_close hp
    rw [hu] at hname
    exact hname (h.sound.documents.named p hp)
  have hshown : ∀ u, uri ≠ u → (s.view root ms ds).shown (s.loop.emit [.publish uri []]) u =
      (s.view root ms ds).shown s.loop u := fun u hu => Loop.shown_publish_of_ne _ [] hu
  simp only [handle, Server.close, takeIn_of_editor hworks.documents]
  have holds : Holds (ms ++ [.closed uri]) (ds.close uri) := by
    refine h.holds_append horderly rfl (fun _ hname => Documents.get?_close_of_ne ds hname)
      fun text value ht _ => ?_
    simp [textOf_append, Message.textAfter] at ht
  refine ⟨h.isOpen, fun p hp => mem_uris_of_old (h.known p (Documents.mem_close hp).1), holds,
    ⟨h.sound.documents.close uri, fun p hp hu => ?_⟩, .works ?_⟩
  · exact h.sound.isOpen p (Documents.mem_close hp).1 ((hother _ (hne p hp)).symm.trans hu)
  · refine hworks.renewed hq rfl ⟨rfl, rfl, rfl⟩ ⟨rfl, rfl, rfl⟩ rfl rfl ?_ fun u hu => ?_
    · exact fun p hp _ => ⟨(Documents.mem_close hp).1, hshown _ (hne p hp)⟩
    · by_cases hu' : uri = u
      · subst hu'
        exact Loop.shown_publish_self _ uri []
      · exact (hshown u hu').trans (hworks.clear u ((hother u hu').symm.trans hu))

/-! ### All messages -/

/-- Every message keeps the session going. -/
theorem Going.receive (h : Going root ms ds s) (hq : s.loop.queue = []) (hm : m.IsWithin)
    (horderly : Orderly (ms ++ [m])) : ∃ ds', Going root (ms ++ [m]) ds' (s.receive m) := by
  have hworks := h.works hq
  rw [Server.receive, h.isOpen, if_neg Bool.false_ne_true]
  cases m with
  | connected | shutdown => exact hm.elim
  | initialized =>
    have hplain : (s.view root ms ds).IsPlain .warmUp := trivial
    exact ⟨ds, (h.beginPlain hq hplain).aside (fun _ => rfl) fun _ _ => rfl⟩
  | opened d => exact h.opened hq horderly
  | changed uri version texts => exact h.changed hq horderly
  | saved uri => exact ⟨ds, h.reread hq (fun _ => rfl) (fun _ _ => rfl) rfl horderly⟩
  | closed uri => exact ⟨_, h.closed hq horderly⟩
  | filesChanged count =>
    have hbegun := h.beginMain hq (.watchedFilesChanged count) trivial
    exact ⟨ds, hbegun.aside (fun _ => rfl) fun _ _ => rfl⟩
  | settingsChanged settings =>
    have hbegun := h.beginMain hq (.updateSettings (payloadOf settings)) trivial
    exact ⟨ds, hbegun.aside (fun _ => rfl) fun _ _ => rfl⟩
  | codeActions id uri marks =>
    simp only [handle]
    split
    · exact ⟨ds, (h.respond hq _ _).aside (fun _ => rfl) fun _ _ => rfl⟩
    · exact ⟨ds, (h.respond hq _ _).aside (fun _ => rfl) fun _ _ => rfl⟩
  | foldersChanged count =>
    simp only [handle]
    split
    · exact ⟨ds, h.aside (fun _ => rfl) fun _ _ => rfl⟩
    · rw [takeIn_of_editor hworks.documents]
      refine ⟨ds, Going.aside ?_ (fun _ => rfl) fun _ _ => rfl⟩
      exact h.renewed hq rfl rfl rfl hworks.documents.symm ⟨rfl, rfl, rfl⟩ rfl
  | command id => exact ⟨ds, (h.respond hq _ _).aside (fun _ => rfl) fun _ _ => rfl⟩
  | unknown id => exact ⟨ds, (h.respond hq _ _).aside (fun _ => rfl) fun _ _ => rfl⟩
  | chosen request title =>
    refine ⟨ds, Going.aside ⟨h.isOpen, h.known, h.holds, h.sound, ?_⟩ (fun _ => rfl)
      fun _ _ => rfl⟩
    exact hworks.answer hq request _

/-- At the end of every run no turn is asked for, all events are sent, and the session keeps
working. -/
theorem Run.going {ms' : List Message} (run : Run s ms' s') (horderly : Orderly ms')
    (h : Going root [] ds s) (hq : s.loop.queue = []) (he : s.loop.events = []) :
    s'.loop.queue = [] ∧ s'.loop.events = [] ∧ ∃ ds', Going root ms' ds' s' := by
  induction run with
  | start => exact ⟨hq, he, ds, h⟩
  | edit run files here ih =>
    obtain ⟨hq', he', ds', h'⟩ := ih horderly
    exact ⟨hq', he', ds', h'.renewed hq' rfl rfl rfl rfl ⟨here, rfl, rfl⟩ rfl⟩
  | handle run within handles ih =>
    obtain ⟨hq', -, ds', h'⟩ := ih horderly.of_append
    obtain ⟨ds'', h''⟩ := h'.receive hq' within horderly
    obtain ⟨n, hidle, rfl⟩ := handles
    refine ⟨hidle, rfl, ds'', Going.flush ?_ hidle⟩
    exact ⟨h''.isOpen, h''.known, h''.holds, h''.sound, h''.goes.drain h''.sound n⟩

/-- After every run of a server that has a workspace, if its modules are pure and no validation of a
file ended other than well, the last list of every open file is what the remembered module says
about its current text; and the last list of every document that is closed is empty. -/
theorem lists_are_current {h : Host} {s₀ : Server} (started : (start h).1 = .ok s₀)
    (id : Json) (folders : List String) (rootUri rootPath : Option String) (options : Json)
    (workspace : (s₀.receive
      (.connected id folders rootUri rootPath options)).loop.session.workspace? = some root)
    (run : Run (s₀.receive (.connected id folders rootUri rootPath options)) ms s)
    (orderly : Orderly ms) (pure : s.loop.host.imports.IsPure) :
    (¬ s.loop.Spoiled → ∀ uri text path, textOf ms uri = some text →
      Uri.toPath? uri = .ok (some path) → s.Shows root uri text path) ∧
    ∀ uri, isClosed ms uri = true → Event.lastList s.events uri = some [] := by
  obtain ⟨hstart, hqueue, hevents⟩ := going_of_connected started workspace
  obtain ⟨hq, he, ds, h⟩ := run.going orderly hstart hqueue hevents
  have hworks := h.works hq
  have hshown : ∀ uri, (s.view root ms ds).shown s.loop uri = Event.lastList s.events uri := by
    intro uri
    rw [View.shown, he, List.append_nil]
    rfl
  refine ⟨fun hwell uri text path htext hpath => ?_, fun uri hu => ?_⟩
  · obtain ⟨value, hvalue⟩ := Documents.diskPath_of_file hpath
    obtain ⟨d, hd, rfl, rfl⟩ := h.holds uri text value htext hvalue
    obtain ⟨id, m, path', im, list, hid, hm, hpath', him, hsays, hlist⟩ :=
      (hworks.isFresh hq (Documents.mem_of_get? hd) hpath).resolve_left hwell
    obtain rfl : path = path' := by
      rw [hpath] at hpath'
      exact Option.some.inj (Except.ok.inj hpath')
    exact ⟨id, m, list, hid, hm, hsays.of_pure him pure, (hshown _).symm.trans hlist⟩
  · exact (hshown uri).symm.trans (hworks.clear uri hu)

/-! ### Two runs -/

theorem Run.handleAll (run : Run s ms s') (idle : (s'.handleAll [m]).loop.queue = [])
    (within : m.IsWithin) : Run s (ms ++ [m]) (s'.handleAll [m]) :=
  run.handle within ⟨_, idle, rfl⟩

/-- The first message of an editor that works in `/w`. -/
def hello : Message :=
  .connected (.int 1) [] (some "file:///w") none .null

/-- A document in `/w`. -/
def sample (name : String) : Document :=
  ⟨"file:///w/" ++ name, "let x", .int 1⟩

/-- The content of that message. -/
def helloParams : Json :=
  .obj [("processId", .null), ("rootUri", .str "file:///w"), ("capabilities", .obj [])]

/-- The content of the message that opens a document. -/
def openParams (d : Document) : Json :=
  .obj [("textDocument", .obj [("uri", .str d.uri), ("languageId", .str "javascript"),
    ("version", d.version), ("text", .str d.text)])]

/-- The content of a message that only names a document. -/
def nameParams (d : Document) : Json :=
  .obj [("textDocument", .obj [("uri", .str d.uri)])]

/-- Every validation has ended well, and no module tells how often it was called. -/
def hasEndedWell (s : Server) : Bool :=
  (s.loop.tasks.all fun task => match task.stage with
    | .done (.validation r) => r.status == .ok
    | .done (.raised _) => false
    | _ => true) &&
  s.loop.host.imports.modules.all fun m => !m.echoes

theorem hasEndedWell_spec (h : s.hasEndedWell = true) :
    ¬ s.loop.Spoiled ∧ s.loop.host.imports.IsPure := by
  obtain ⟨htasks, hmodules⟩ := Bool.and_eq_true_iff.mp h
  rw [List.all_eq_true] at htasks hmodules
  refine ⟨?_, LintModule.Imports.isPure_of_no_echo fun m hm => ?_⟩
  · rintro ⟨t, r, hr, hbad⟩
    obtain ⟨task, htask, hstage⟩ := Option.map_eq_some_iff.mp (Loop.result?_eq_some.mp hr)
    have hwell := htasks task (List.mem_of_getElem? htask)
    rw [hstage] at hwell
    cases r with
    | validation r => exact hbad.2 (beq_iff_eq.mp hwell)
    | raised e => simp at hwell
    | _ => exact hbad
  · simpa using hmodules m hm

/-- One file is opened, another one is opened and closed. -/
theorem lists_of_opened_and_closed :
    ∃ s₀ s, Message.read "initialize" (.int 1) helloParams = .ok (some hello) ∧
      (start .withModule).1 = .ok s₀ ∧
      Run (s₀.receive hello) [.opened (sample "a.js"), .opened (sample "b.js"),
        .closed (sample "b.js").uri] s ∧
      (∃ path, s.Shows "/w" (sample "a.js").uri (sample "a.js").text path) ∧
      Event.lastList s.events (sample "b.js").uri = some [] := by
  have hrun : ((start .withModule).1.toOption.map fun s =>
      let s₁ := s.receive hello
      let s₂ := s₁.handleAll [.opened (sample "a.js")]
      let s₃ := s₂.handleAll [.opened (sample "b.js")]
      let s₄ := s₃.handleAll [.closed (sample "b.js").uri]
      (s₁.loop.session.workspace?, [s₂.loop.queue, s₃.loop.queue, s₄.loop.queue],
        s₄.hasEndedWell)) = some (some "/w", [[], [], []], true) := by
    decide +kernel
  obtain ⟨path, hfile⟩ : ∃ path, Uri.toPath? (sample "a.js").uri = .ok (some path) := by
    have hsome : ((Uri.toPath? (sample "a.js").uri).toOption.bind id).isSome = true := by
      decide +kernel
    obtain ⟨path, hpath⟩ := Option.isSome_iff_exists.mp hsome
    refine ⟨path, ?_⟩
    cases hu : Uri.toPath? (sample "a.js").uri with
    | error e => simp [hu, Except.toOption] at hpath
    | ok found => simpa [hu, Except.toOption] using hpath
  have horderly : Orderly [.opened (sample "a.js"), .opened (sample "b.js"),
      .closed (sample "b.js").uri] := by
    refine ⟨by decide +kernel, by decide +kernel, fun before m hp uri hu => ?_⟩
    have hm : m ∈ before ++ [m] := by simp
    have hms := hp.subset hm
    simp only [List.mem_cons, List.not_mem_nil, or_false] at hms
    obtain rfl | rfl | rfl := hms <;> simp [Message.rereads?] at hu
  cases hs : (start .withModule).1 with
  | error e => simp [hs, Except.toOption] at hrun
  | ok s₀ =>
    simp only [hs, Except.toOption, Option.map_some, Option.some.injEq, Prod.mk.injEq,
      List.cons.injEq, and_true] at hrun
    obtain ⟨hroot, ⟨hq₂, hq₃, hq₄⟩, hwell⟩ := hrun
    have hpath := ((Run.start.handleAll hq₂ trivial).handleAll hq₃ trivial).handleAll hq₄ trivial
    obtain ⟨hspoiled, hpure⟩ := hasEndedWell_spec hwell
    obtain ⟨hopen, hclosed⟩ := lists_are_current hs (.int 1) [] (some "file:///w") none .null
      hroot hpath horderly hpure
    exact ⟨s₀, _, rfl, rfl, hpath, ⟨path, hopen hspoiled _ _ path (by decide +kernel) hfile⟩,
      hclosed _ (by decide +kernel)⟩

/-- The machine with a linting module in `/w`, where there is also a file. -/
def hostWithFile : Host :=
  Host.withModule.edit [⟨"/w/a.js", .write (.file [108, 101, 116, 32, 120]), none⟩]

/-- A file that is saved after it was closed is shown again, even though every validation ends well
and all modules are pure. -/
theorem saved_after_closing_is_shown_again :
    ∃ s₀ s, Message.read "initialize" (.int 1) helloParams = .ok (some hello) ∧
      Message.read "textDocument/didOpen" .null (openParams (sample "a.js")) =
        .ok (some (.opened (sample "a.js"))) ∧
      Message.read "textDocument/didClose" .null (nameParams (sample "a.js")) =
        .ok (some (.closed (sample "a.js").uri)) ∧
      Message.read "textDocument/didSave" .null (nameParams (sample "a.js")) =
        .ok (some (.saved (sample "a.js").uri)) ∧
      (start hostWithFile).1 = .ok s₀ ∧
      (s₀.receive hello).loop.session.workspace? = some "/w" ∧
      Run (s₀.receive hello) [.opened (sample "a.js"), .closed (sample "a.js").uri,
        .saved (sample "a.js").uri] s ∧
      ¬ s.loop.Spoiled ∧ s.loop.host.imports.IsPure ∧
      isClosed [.opened (sample "a.js"), .closed (sample "a.js").uri,
        .saved (sample "a.js").uri] (sample "a.js").uri = true ∧
      Event.lastList s.events (sample "a.js").uri ≠ some [] := by
  have hrun : ((start hostWithFile).1.toOption.map fun s =>
      let s₁ := s.receive hello
      let s₂ := s₁.handleAll [.opened (sample "a.js")]
      let s₃ := s₂.handleAll [.closed (sample "a.js").uri]
      let s₄ := s₃.handleAll [.saved (sample "a.js").uri]
      (s₁.loop.session.workspace?, [s₂.loop.queue, s₃.loop.queue, s₄.loop.queue], s₄.hasEndedWell,
        (Event.lastList s₄.events (sample "a.js").uri).map List.length)) =
      some (some "/w", [[], [], []], true, some 1) := by
    decide +kernel
  cases hs : (start hostWithFile).1 with
  | error e => simp [hs, Except.toOption] at hrun
  | ok s₀ =>
    simp only [hs, Except.toOption, Option.map_some, Option.some.injEq, Prod.mk.injEq,
      List.cons.injEq, and_true] at hrun
    obtain ⟨hroot, ⟨hq₂, hq₃, hq₄⟩, hwell, hlist⟩ := hrun
    have hpath := ((Run.start.handleAll hq₂ trivial).handleAll hq₃ trivial).handleAll hq₄ trivial
    obtain ⟨hspoiled, hpure⟩ := hasEndedWell_spec hwell
    refine ⟨s₀, _, rfl, rfl, rfl, rfl, rfl, hroot, hpath, hspoiled, hpure, by decide +kernel,
      fun he => ?_⟩
    rw [he] at hlist
    simp at hlist

end Server

end LintBridge
