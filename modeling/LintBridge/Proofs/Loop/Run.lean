import LintBridge.Proofs.Loop.Turns

/-! Runs of a session: turns are taken in any order, and between two turns tasks are added,
documents are closed, questions answered, tasks cancelled, and the documents, the resolver and the
machine change. Every run follows a course. -/

namespace LintBridge.Loop

/-- What can happen to a session. A turn is named by its place among those asked for. -/
inductive Act where
  | turn (i : Nat)
  /-- Adds a task that begins at its turn; the editor may be told of its fault. -/
  | spawn (job : Job) (told : Bool)
  /-- Adds a task that begins at once. -/
  | begin (job : Job)
  | close (uri : String)
  | answer (request : Nat) (again : Bool)
  | cancel (t : Nat)
  | attach (root : Option String) (settings : Option Settings)
  | elsewhere (documents : DocumentSource) (resolver : Resolver) (host : Host)

variable (l : Loop)

/-- Closes a document. -/
def close (uri : String) : Loop :=
  { l with session := (l.session.close uri).2 }.emit (l.session.close uri).1

/-- Takes a step. -/
def act : Act → Loop
  | .turn i =>
    match l.queue[i]? with
    | some turn => { l with queue := l.queue.eraseIdx i }.take turn
    | none => l
  | .spawn job told => (l.spawn job (if told then .editor else .nobody)).1
  | .begin job => (l.addTask job .nobody).1.begin (l.addTask job .nobody).2 job
  | .close uri => l.close uri
  | .answer request again => l.answer request again
  | .cancel t => l.cancel t
  | .attach root settings =>
    { l with
      session := (l.session.attach l.host root settings).1
      host := (l.session.attach l.host root settings).2 }
  | .elsewhere documents resolver host =>
    { l with session.resolver := resolver, host := host, documents := documents }

/-- Takes steps in order. -/
def after (acts : List Act) : Loop :=
  acts.foldl act l

variable {c₀ : Course} {l₀ l : Loop}

/-- A session in which nothing goes on follows its course from the start. -/
theorem follows_fresh (host : Host) (session : Session) (documents : DocumentSource)
    (asks : Bool) :
    Follows (.fresh session host) (fresh host session documents asks) .free
      (fresh host session documents asks) (.fresh session host) where
  reached := ⟨[], rfl⟩
  session := rfl
  host := rfl
  lists := rfl
  begun k hk := by simp [Course.fresh] at hk
  waits t id v told _ hs := by simp [stage?, fresh] at hs
  results t r hr := by simp [result?, stage?, fresh] at hr
  ended t r es fs he := by simp [Course.fresh] at he
  kept t ht := ht
  new k hk := .inl hk
  isOpen t ht := by simp [Hand.task?] at ht
  inHand t v ht := by simp at ht
  atHand t r ht := by simp at ht

/-- A loop that follows a course goes on from where both are. -/
theorem Follows.restart {c : Course} (h : Follows c₀ l₀ .free l c) : Follows c l .free l c :=
  { h with
    reached := ⟨[], rfl⟩
    kept := fun _ ht => ht
    new := fun _ hk => .inl hk }

theorem Traced.answer (h : Traced c₀ l₀ .free l) (request : Nat) (again : Bool) :
    Traced c₀ l₀ .free (l.answer request again) := by
  obtain hnobody | ⟨t, task, ht, hstage, hanswer⟩ := l.answer_cases request again
  · rwa [hnobody]
  · have ho : l.IsOpen t := isOpen_of_task ht (by rw [hstage]; rfl)
    have hs := h.stop ho (.inl rfl) (s := .answered again) trivial
    rw [hanswer]
    exact hs.quiet (calm_enqueue _ _).quiet

theorem Traced.cancel (h : Traced c₀ l₀ .free l) (t : Nat) :
    Traced c₀ l₀ .free (l.cancel t) := by
  obtain hover | ⟨task, ht, hopen, hcancel⟩ := l.cancel_cases t
  · rwa [hover]
  · have hs := h.stop (isOpen_of_task ht hopen) (.inl rfl) (s := .leaving) trivial
    have hw : Quiet (l.setStage t .leaving)
        { l.setStage t .leaving with waiting := l.waiting.filter fun p => p.2 != t } :=
      .of_tasks rfl rfl rfl
    rw [hcancel]
    exact hs.quiet (hw.trans (calm_enqueue _ _).quiet)

theorem Traced.act (h : Traced c₀ l₀ .free l) (hc₀ : c₀.Sound) (a : Act) :
    Traced c₀ l₀ .free (l.act a) := by
  cases a with
  | turn i =>
    simp only [Loop.act]
    split
    · rename_i turn hturn
      have hq : Quiet l { l with queue := l.queue.eraseIdx i } := .of_tasks rfl rfl rfl
      exact (h.quiet hq).take hc₀ turn
    · exact h
  | spawn job told => exact h.quiet (quiet_spawn l _ _)
  | begin job =>
    have hq := quiet_addTask l job .nobody
    refine (h.quiet hq).begin hc₀ ?_ job
    simp [addTask, stage?]
  | close uri =>
    obtain ⟨c, hc⟩ := h
    exact ⟨_, hc.closes uri⟩
  | answer request again => exact h.answer request again
  | cancel t => exact h.cancel t
  | attach root settings =>
    obtain ⟨c, hc⟩ := h
    exact ⟨_, hc.attaches root settings⟩
  | elsewhere documents resolver host => exact h.quiet (.of_tasks rfl rfl rfl)

/-- Every run follows a course. -/
theorem Traced.after (h : Traced c₀ l₀ .free l) (hc₀ : c₀.Sound) (acts : List Act) :
    Traced c₀ l₀ .free (l.after acts) := by
  induction acts generalizing l with
  | nil => exact h
  | cons a acts ih => exact ih (h.act hc₀ a)

end LintBridge.Loop
