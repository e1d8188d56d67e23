import LintBridge.Proofs.Batch.Ending

/-! A batch whose turns are taken in the order in which they were asked for. Its validations begin
in the order of their documents, and none overtakes another one: who waits for the attempt is told
of the outcome in the order in which they began to wait, and goes on in the order in which they were
told. So the documents of files come to be judged in their order. -/

namespace LintBridge

namespace Turn

/-- The task that begins. -/
def starts? : Turn → Option Nat
  | start t => some t
  | _ => none

/-- The task that is told of an outcome. -/
def relays? : Turn → Option Nat
  | relay t => some t
  | _ => none

/-- The task that goes on. -/
def wakes? : Turn → Option Nat
  | wake t => some t
  | _ => none

theorem task?_eq_some {y : Turn} {t : Nat} : y.task? = some t ↔
    y.wakes? = some t ∨ y.relays? = some t ∨ y.starts? = some t := by
  cases y <;> simp [task?, wakes?, relays?, starts?]

end Turn

/-- The tasks that are on their way, the foremost first: those that go on, those that are told,
those that wait, and those that are to begin. -/
def Loop.line (queue : List Turn) (waiting : List (Nat × Nat)) : List Nat :=
  queue.filterMap Turn.wakes? ++ (queue.filterMap Turn.relays? ++ (waiting.map Prod.snd ++
    queue.filterMap Turn.starts?))

namespace Loop

variable {queue : List Turn} {waiting : List (Nat × Nat)} {t : Nat}

theorem mem_line : t ∈ line queue waiting ↔
    (∃ y ∈ queue, y.task? = some t) ∨ ∃ p ∈ waiting, p.2 = t := by
  have hturn : (∃ y ∈ queue, y.task? = some t) ↔ t ∈ queue.filterMap Turn.wakes? ∨
      t ∈ queue.filterMap Turn.relays? ∨ t ∈ queue.filterMap Turn.starts? := by
    simp only [List.mem_filterMap, ← exists_or, ← and_or_left, Turn.task?_eq_some]
  simp only [hturn, line, List.mem_append, List.mem_map]
  grind

/-- Whoever begins in order stands behind all others. -/
theorem line_starts (ts : List Nat) (h : queue.filterMap Turn.starts? = []) :
    line (ts.map .start ++ queue) waiting = line queue waiting ++ ts := by
  have hwakes : (ts.map Turn.start).filterMap Turn.wakes? = [] := by simp [Turn.wakes?]
  have hrelays : (ts.map Turn.start).filterMap Turn.relays? = [] := by simp [Turn.relays?]
  have hstarts : (ts.map Turn.start).filterMap Turn.starts? = ts := by
    simp [List.filterMap_map, Function.comp_def, Turn.starts?]
  simp only [line, List.filterMap_append, hwakes, hrelays, hstarts, h, List.nil_append,
    List.append_nil, List.append_assoc]

/-- Whoever goes on is the foremost. -/
theorem line_wake (t : Nat) (queue : List Turn) (waiting : List (Nat × Nat)) :
    line (.wake t :: queue) waiting = t :: line queue waiting := rfl

/-- Whoever is told stays in its place. -/
theorem line_relay (t : Nat) (queue : List Turn) (waiting : List (Nat × Nat)) :
    line (queue ++ [.wake t]) waiting = line (.relay t :: queue) waiting := by
  simp [line, List.filterMap_cons, Turn.wakes?, Turn.relays?, Turn.starts?]

/-- All who wait stay in their places when they are to be told. -/
theorem line_release (queue : List Turn) (waiting : List (Nat × Nat)) :
    line (queue ++ waiting.map fun p => .relay p.2) [] = line queue waiting := by
  have hrelays : (waiting.map fun p => Turn.relay p.2).filterMap Turn.relays? =
      waiting.map Prod.snd := by
    simp [List.filterMap_map, Function.comp_def, Turn.relays?]
  have hwakes : (waiting.map fun p => Turn.relay p.2).filterMap Turn.wakes? = [] := by
    simp [Turn.wakes?]
  have hstarts : (waiting.map fun p => Turn.relay p.2).filterMap Turn.starts? = [] := by
    simp [Turn.starts?]
  simp [line, hrelays, hwakes, hstarts]

end Loop

namespace Batch

open Loop

variable {b : Batch} {judged judged' : List Document} {l l' : Loop} {turn : Turn}
  {queue turns : List Turn} {waiting : List (Nat × Nat)} {t : Nat} {d : Document}

/-- The documents of the tasks that are on their way, the foremost first. -/
def line (b : Batch) (queue : List Turn) (waiting : List (Nat × Nat)) : List Document :=
  (Loop.line queue waiting).filterMap b.document?

/-- Turns that are not those of a document move nobody in the line. -/
theorem line_append_plain (plain : ∀ y ∈ turns, y.task? = none ∨ y = .wake b.parent) :
    b.line (queue ++ turns) waiting = b.line queue waiting := by
  have hnone : ∀ f : Turn → Option Nat, (∀ y t, f y = some t → y.task? = some t) →
      (turns.filterMap f).filterMap b.document? = [] := by
    intro f hf
    refine List.filterMap_eq_nil_iff.mpr fun t ht => ?_
    obtain ⟨y, hy, hyt⟩ := List.mem_filterMap.mp ht
    have htask := hf y t hyt
    obtain hnot | rfl := plain y hy
    · simp [hnot] at htask
    · obtain rfl : b.parent = t := Option.some.inj htask
      exact b.document?_parent
  simp only [line, Loop.line, List.filterMap_append]
  rw [hnone Turn.wakes? fun y t h => Turn.task?_eq_some.mpr (.inl h),
    hnone Turn.relays? fun y t h => Turn.task?_eq_some.mpr (.inr (.inl h)),
    hnone Turn.starts? fun y t h => Turn.task?_eq_some.mpr (.inr (.inr h))]
  simp

theorem line_cons_plain (plain : turn.task? = none ∨ turn = .wake b.parent) :
    b.line (turn :: queue) waiting = b.line queue waiting := by
  cases turn with
  | wake t =>
    obtain rfl : t = b.parent := by simpa [Turn.task?] using plain
    rw [line, line_wake, List.filterMap_cons_none b.document?_parent, line]
  | start t => simp [Turn.task?] at plain
  | relay t => simp [Turn.task?] at plain
  | _ => rfl

variable (b judged l queue) in
/-- Turns are taken in order: the documents of files that have been judged, and those in the line,
are all documents of files in their order. Validations that are to begin have the first turns. -/
structure Lined : Prop where
  order : (judged ++ b.line queue l.waiting).filter (fun d => d.IsFile) =
    b.documents.filter (fun d => d.IsFile)
  first : ∃ ts rest, queue = ts.map .start ++ rest ∧ rest.filterMap Turn.starts? = [] ∧
    (ts ≠ [] → l.session.resolver.outcome? b.attempt = none ∨ Loop.line rest l.waiting = [])

/-- As long as turns are taken in order, no document of a file is in the line twice, or in it and
judged. -/
theorem Lined.unique {A B : List Nat} (h : b.Lined judged l queue)
    (line : Loop.line queue l.waiting = A ++ t :: B) (hd : b.document? t = some d)
    (hfile : d.IsFile) : d ∉ judged ∧ t ∉ A ++ B := by
  have hnodup : (b.documents.filter fun d => d.IsFile).Nodup := (nodup_of_uris b.distinct).filter _
  have hmem : ∀ {ts : List Nat}, t ∈ ts →
      d ∈ (ts.filterMap b.document?).filter fun d => d.IsFile := by
    intro ts ht
    exact List.mem_filter.mpr ⟨List.mem_filterMap.mpr ⟨t, ht, hd⟩, by simpa using hfile⟩
  rw [← h.order, Batch.line, line, List.filterMap_append, List.filterMap_cons_some hd,
    ← List.append_assoc, List.filter_append, List.filter_cons_of_pos (by simpa using hfile),
    List.filter_append, List.nodup_append] at hnodup
  obtain ⟨-, hrest, hapart⟩ := hnodup
  refine ⟨fun hjudged => ?_, fun ht => ?_⟩
  · refine hapart d (List.mem_append_left _ ?_) d List.mem_cons_self rfl
    exact List.mem_filter.mpr ⟨hjudged, by simpa using hfile⟩
  · obtain ht | ht := List.mem_append.mp ht
    · exact hapart d (List.mem_append_right _ (hmem ht)) d List.mem_cons_self rfl
    · exact (List.nodup_cons.mp hrest).1 (hmem ht)

/-- A turn of a validation moves its document alone: to those that have been judged if it is the
foremost, and else from those that are to begin to those that wait. -/
theorem Lined.goes {A B : List Nat} (h : b.Lined judged l queue)
    (mine : Loop.line queue l.waiting = A ++ t :: B)
    (others : Loop.line l.queue l.waiting = A ++ B) (hd : b.document? t = some d)
    (foremost : d.IsFile → l.session.resolver.outcome? b.attempt ≠ none → A = [])
    (last : l'.waiting = l.waiting ++ [(b.attempt, t)] →
      Loop.line l.queue (l.waiting ++ [(b.attempt, t)]) = A ++ t :: B)
    (goes : b.Goes t d judged judged' l l') :
    (judged' ++ b.line l'.queue l'.waiting).filter (fun d => d.IsFile) =
      b.documents.filter (fun d => d.IsFile) := by
  have horder := h.order
  rw [line, mine, List.filterMap_append, List.filterMap_cons_some hd] at horder
  have hothers : b.line l.queue l.waiting = A.filterMap b.document? ++ B.filterMap b.document? := by
    rw [line, others, List.filterMap_append]
  cases goes with
  | judges next hqueue hwaiting _ settled _ =>
    rw [next, hqueue, hwaiting, line_append_plain (by simp [Turn.task?]), hothers, ← horder]
    by_cases hfile : d.IsFile
    · simp [foremost hfile (settled hfile)]
    · simp [hfile]
  | waits same hqueue hwaiting _ _ _ =>
    obtain ⟨turns, hqueue, hturns⟩ := hqueue
    have hplain : ∀ y ∈ turns, y.task? = none ∨ y = .wake b.parent :=
      fun y hy => .inl (by rw [hturns y hy]; rfl)
    rw [same, hqueue, hwaiting, line_append_plain hplain, line, last hwaiting,
      List.filterMap_append, List.filterMap_cons_some hd, horder]
  | stays same hqueue hwaiting _ elsewhere _ =>
    rw [same, hqueue, hwaiting, hothers, ← horder]
    by_cases hfile : d.IsFile
    · obtain ⟨hjudged, hline⟩ := h.unique mine hd hfile
      refine absurd ?_ hline
      rw [← others, mem_line]
      exact (elsewhere.resolve_left hjudged).symm.imp_right fun hw => ⟨_, hw, rfl⟩
    · simp [hfile]

theorem filterMap_starts_eq_nil : queue.filterMap Turn.starts? = [] ↔ ∀ t, .start t ∉ queue := by
  rw [List.filterMap_eq_nil_iff]
  constructor
  · intro h t ht
    simpa [Turn.starts?] using h _ ht
  · intro h y hy
    cases y with
    | start t => exact absurd hy (h t)
    | _ => rfl

/-- Once a turn is taken that is not that of a validation which begins, all have begun. -/
theorem Lined.begun (h : b.Lined judged l (turn :: l.queue)) (hturn : ∀ t, turn ≠ .start t)
    (hturns : ∀ t, .start t ∉ turns) (hqueue : l'.queue = l.queue ++ turns) :
    ∃ ts rest, l'.queue = ts.map .start ++ rest ∧ rest.filterMap Turn.starts? = [] ∧
      (ts ≠ [] → l'.session.resolver.outcome? b.attempt = none ∨
        Loop.line rest l'.waiting = []) := by
  refine ⟨[], l'.queue, rfl, filterMap_starts_eq_nil.mpr fun t ht => ?_, fun h => absurd rfl h⟩
  rw [hqueue] at ht
  obtain ht | ht := List.mem_append.mp ht
  · obtain ⟨ts, rest, hfirst, hrest, -⟩ := h.first
    cases ts with
    | nil =>
      obtain rfl : turn :: l.queue = rest := hfirst
      exact filterMap_starts_eq_nil.mp hrest t (List.mem_cons_of_mem _ ht)
    | cons t ts => exact hturn t (List.cons.inj hfirst).1
  · exact hturns t ht

theorem Lined.goes_start (h : b.Lined judged l (.start t :: l.queue)) (hd : b.document? t = some d)
    (goes : b.Goes t d judged judged' l l') : b.Lined judged' l' l'.queue := by
  obtain ⟨ts, rest, hfirst, hrest, hsettled⟩ := h.first
  cases ts with
  | nil =>
    obtain rfl : .start t :: l.queue = rest := hfirst
    exact absurd List.mem_cons_self (filterMap_starts_eq_nil.mp hrest t)
  | cons t' ts =>
    obtain rfl := Turn.start.inj (List.cons.inj hfirst).1
    have hqueue : l.queue = ts.map .start ++ rest := (List.cons.inj hfirst).2
    have hothers : Loop.line l.queue l.waiting = Loop.line rest l.waiting ++ ts := by
      rw [hqueue, line_starts ts hrest]
    have hmine : Loop.line (.start t :: l.queue) l.waiting =
        Loop.line rest l.waiting ++ t :: ts := by
      rw [hfirst, line_starts (t :: ts) hrest]
    have hlast : Loop.line rest (l.waiting ++ [(b.attempt, t)]) =
        Loop.line rest l.waiting ++ [t] := by
      simp [Loop.line, hrest]
    refine ⟨h.goes hmine hothers hd ?_ (fun _ => ?_) goes, ?_⟩
    · exact fun _ hsome => (hsettled (by simp)).resolve_left hsome
    · rw [hqueue, line_starts ts hrest, hlast, List.append_assoc, List.singleton_append]
    · cases goes with
      | judges _ hnext hwaiting outcome _ _ =>
        refine ⟨ts, rest ++ [.report b.parent t], by rw [hnext, hqueue, List.append_assoc],
          by simp [hrest, Turn.starts?], fun _ => ?_⟩
        rw [hwaiting, outcome]
        refine (hsettled (by simp)).imp_right fun hnone => ?_
        simpa [Loop.line, List.filterMap_append, Turn.wakes?, Turn.relays?, Turn.starts?]
          using hnone
      | waits _ hnext _ _ unsettled _ =>
        obtain ⟨turns, hnext, hturns⟩ := hnext
        refine ⟨ts, rest ++ turns, by rw [hnext, hqueue, List.append_assoc], ?_,
          fun _ => .inl unsettled⟩
        rw [List.filterMap_append, hrest, List.nil_append, filterMap_starts_eq_nil]
        exact fun t ht => by simpa using hturns _ ht
      | stays _ hnext hwaiting outcome _ _ =>
        refine ⟨ts, rest, hnext.trans hqueue, hrest, fun _ => ?_⟩
        rw [hwaiting, outcome]
        exact hsettled (by simp)

theorem Lined.goes_wake (h : b.Lined judged l (.wake t :: l.queue)) (hd : b.document? t = some d)
    (goes : b.Goes t d judged judged' l l') (awake : l'.waiting = l.waiting) :
    b.Lined judged' l' l'.queue := by
  refine ⟨h.goes (List.nil_append _).symm (List.nil_append _).symm hd (fun _ _ => rfl)
    (fun hwaiting => ?_) goes, ?_⟩
  · simp [awake] at hwaiting
  · cases goes with
    | judges _ hnext _ _ _ _ => exact h.begun (by simp) (by simp) hnext
    | waits _ _ hwaiting _ _ _ => simp [awake] at hwaiting
    | stays _ hnext _ _ _ _ =>
      exact h.begun (by simp) (by simp) (hnext.trans (List.append_nil _).symm)

/-- The turns that were asked for are taken in order. -/
theorem Lined.moves (h : b.Lined judged l (turn :: l.queue))
    (moves : b.Moves turn judged judged' l l') : b.Lined judged' l' l'.queue := by
  have horder := h.order
  cases moves with
  | goes t d mine hd goes awake =>
    obtain rfl | rfl := mine
    · exact h.goes_start hd goes
    · exact h.goes_wake hd goes (awake rfl)
  | relays t mine same hqueue hwaiting _ _ =>
    subst mine
    refine ⟨?_, h.begun (by simp) (by simp) hqueue⟩
    rw [same, hqueue, hwaiting, line, line_relay]
    exact horder
  | releases hnone same hqueue hwaiting _ _ =>
    refine ⟨?_, h.begun (fun t ht => ?_) (by simp) hqueue⟩
    · rw [same, hqueue, hwaiting, line, line_release, ← horder, line_cons_plain (.inl hnone)]
      rfl
    · simp [ht, Turn.task?] at hnone
  | works hnone same turns hqueue plain hwaiting _ _ =>
    refine ⟨?_, h.begun (fun t ht => ?_) (fun t ht => ?_) hqueue⟩
    · rw [same, hqueue, hwaiting, line_append_plain fun y hy => (plain y hy).imp_left And.left,
        ← horder, line_cons_plain hnone]
    · simp [ht, Turn.task?] at hnone
    · simpa [Turn.task?] using plain _ ht

/-- When a batch begins all its documents are in the line. -/
theorem Lined.begins (b : Batch) (hsome : b.documents ≠ []) (job : Job) :
    b.Lined [] (b.begun job) (b.begun job).queue := by
  have hqueue : (b.begun job).queue = b.children.map .start := by
    rw [b.begun_eq hsome]
    simp [setStage, started, addTask, b.resting.queue]
  have hwaiting : (b.begun job).waiting = [] := by
    rw [b.begun_eq hsome]
    simp [setStage, started, addTask, b.resting.waiting]
  have hline : Loop.line (b.children.map .start) [] = b.children := by
    have hstarts := @line_starts [] [] b.children rfl
    simpa [Loop.line] using hstarts
  have hdocuments : b.children.filterMap b.document? = b.documents.filterMap some :=
    filterMap_range' fun i d hd => (b.document?_child i).trans hd
  refine ⟨?_, b.children, [], by rw [hqueue, List.append_nil], rfl, fun _ => .inr ?_⟩
  · rw [hqueue, hwaiting, line, hline, hdocuments, List.filterMap_some, List.nil_append]
  · rw [hwaiting]
    rfl

/-- Once all documents have been judged, those of files have been judged in their order. -/
theorem Lined.files (h : b.Lined judged l queue) (all : judged.Perm b.documents) :
    judged.filter (fun d => d.IsFile) = b.documents.filter (fun d => d.IsFile) := by
  have hlength := congrArg List.length h.order
  rw [List.filter_append, List.length_append, (all.filter _).length_eq] at hlength
  have hline : (b.line queue l.waiting).filter (fun d => d.IsFile) = [] :=
    List.length_eq_zero_iff.mp (by omega)
  rw [← h.order, List.filter_append, hline, List.append_nil]

end Batch

end LintBridge
