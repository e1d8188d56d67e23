import LintBridge.Proofs.Batch.InLine
import LintBridge.Proofs.Session.Anew

/-! How a batch hears of a fault when its turns are taken in the order in which they were asked for.
Who is told of the outcome goes on one turn later, and who goes on reports one turn later, so the
turns of documents are always of one kind or of two that follow each other. When the report on a
fault is taken, all documents of files have therefore been judged, and the first fault that was
raised is the first that is heard of. -/

namespace LintBridge

/-- The fault that a verdict comes to. -/
def Verdict.error? (x : Verdict) : Option Fault :=
  match x.result with
  | .ok _ => none
  | .error e => some e

theorem Verdict.error?_eq_some {x : Verdict} {e : Fault} :
    x.error? = some e ↔ x.result = .error e := by
  simp only [error?]
  cases x.result <;> simp

theorem Verdict.on?_append (xs : List Verdict) (x : Verdict) (uri : String) :
    on? (xs ++ [x]) uri = (on? xs uri).or (if uri = x.uri then some x else none) := by
  simp only [on?, List.map_append, List.lookup_append, List.map_cons, List.map_nil,
    Table.lookup_cons, List.lookup_nil, beq_iff_eq]

/-- What is skipped raises no fault. -/
theorem Session.errors_tally (s : Session) (root : String) (o : Outcome) (h : Host)
    (ds : List Document) : (s.tally root o h ds).1.filterMap Verdict.error? =
      (s.tally root o h (ds.filter fun d => d.IsFile)).1.filterMap Verdict.error? := by
  induction ds generalizing h with
  | nil => rfl
  | cons d ds ih =>
    by_cases hd : d.IsFile
    · simp only [List.filter_cons, hd, decide_true, if_true, Session.tally, List.filterMap_cons, ih]
    · simp only [List.filter_cons, hd, decide_false, Bool.false_eq_true, if_false, Session.tally,
        verdict_of_skipped hd, ← ih]
      rfl

/-! ### Turns of two kinds -/

/-- Numbers of which no later one is less, and none exceeds another by more than one. -/
def Level (ks : List Nat) : Prop :=
  ks.Pairwise (· ≤ ·) ∧ ∀ i ∈ ks, ∀ j ∈ ks, j ≤ i + 1

namespace Level

variable {k : Nat} {ks : List Nat}

theorem tail (h : Level (k :: ks)) : Level ks :=
  ⟨(List.pairwise_cons.mp h.1).2,
    fun i hi j hj => h.2 i (List.mem_cons_of_mem _ hi) j (List.mem_cons_of_mem _ hj)⟩

theorem le (h : Level (k :: ks)) {i : Nat} (hi : i ∈ ks) : k ≤ i :=
  (List.pairwise_cons.mp h.1).1 i hi

/-- The first one goes, and the next greater one comes. -/
theorem next (h : Level (k :: ks)) : Level (ks ++ [k + 1]) := by
  have hlow := fun i => h.le (i := i)
  have hhigh : ∀ i ∈ ks, i ≤ k + 1 :=
    fun i hi => h.2 k List.mem_cons_self i (List.mem_cons_of_mem _ hi)
  refine ⟨?_, fun i hi j hj => ?_⟩
  · rw [List.pairwise_append]
    refine ⟨h.tail.1, List.pairwise_singleton _ _, fun i hi j hj => ?_⟩
    rw [List.mem_singleton.mp hj]
    exact hhigh i hi
  · simp only [List.mem_append, List.mem_singleton] at hi hj
    obtain hi | rfl := hi <;> obtain hj | rfl := hj
    · exact h.tail.2 i hi j hj
    · have := hlow i hi
      omega
    · have := hhigh j hj
      omega
    · omega

theorem of_const (h : ∀ i ∈ ks, i = k) : Level ks := by
  rw [List.eq_replicate_of_mem h]
  refine ⟨List.pairwise_replicate.mpr (.inr (Nat.le_refl k)), fun i hi j hj => ?_⟩
  rw [List.eq_of_mem_replicate hi, List.eq_of_mem_replicate hj]
  omega

end Level

namespace Batch

open Loop

variable (b : Batch) (judged : List Document)

/-- The faults that documents have raised, in the order in which these were judged. -/
def faults : List Fault := (b.tally judged).1.filterMap Verdict.error?

/-- The fault that a document has raised. -/
def faultOf (d : Document) : Option Fault :=
  (Verdict.on? (b.tally judged).1 d.uri).bind Verdict.error?

/-- The fault of which a turn brings news. -/
def heard? : Turn → Option Fault
  | .report _ t => (b.document? t).bind (b.faultOf judged)
  | _ => none

/-- How far the document of a turn has come: it is told, it goes on or begins, or it has raised a
fault. -/
def rank? : Turn → Option Nat
  | .relay t => (b.document? t).map fun _ => 0
  | .start t | .wake t => (b.document? t).map fun _ => 1
  | .report p t => (b.heard? judged (.report p t)).map fun _ => 2
  | _ => none

variable {b judged} {judged' : List Document} {l l' : Loop} {turn : Turn} {queue turns : List Turn}
  {t : Nat} {d : Document}

theorem heard?_of_not_report (h : turn.isReport = false) : b.heard? judged turn = none := by
  cases turn <;> simp_all [Turn.isReport, heard?]

theorem rank?_of_plain (h : turn.task? = none ∧ turn.isReport = false ∨ turn = .wake b.parent) :
    b.rank? judged turn = none := by
  cases turn <;> simp_all [Turn.isReport, Turn.task?, rank?, document?_parent]

/-- A turn of a document that is to be judged comes before the reports on faults. -/
theorem rank?_of_task (ht : turn.task? = some t) (hd : b.document? t = some d) :
    ∃ k, b.rank? judged turn = some k ∧ k < 2 := by
  cases turn <;> simp_all [Turn.task?, rank?]

theorem faults_append (d : Document) : b.faults (judged ++ [d]) =
    b.faults judged ++ (b.verdict judged d).1.error?.toList := by
  simp only [faults, tally_append, List.filterMap_append]
  cases hx : (b.verdict judged d).1.error? <;> simp [hx]

/-- The fault of the document that was judged last. -/
theorem faultOf_append_self (once : ((judged ++ [d]).map Document.uri).Nodup) :
    b.faultOf (judged ++ [d]) d = (b.verdict judged d).1.error? := by
  have hnone : Verdict.on? (b.tally judged).1 d.uri = none := by
    refine Verdict.on?_eq_none ?_
    rw [uris_tally]
    rw [List.map_append, List.nodup_append] at once
    exact fun hd => once.2.2 _ hd _ (by simp) rfl
  simp [faultOf, tally_append, Verdict.on?_append, hnone, verdict]

/-- The fault of a document that was judged before. -/
theorem faultOf_append {d' : Document} (once : ((judged ++ [d]).map Document.uri).Nodup)
    (hd' : d' ∈ judged) : b.faultOf (judged ++ [d]) d' = b.faultOf judged d' := by
  have hne : d'.uri ≠ d.uri := by
    rw [List.map_append, List.nodup_append] at once
    exact once.2.2 _ (List.mem_map_of_mem hd') _ (by simp)
  simp [faultOf, tally_append, Verdict.on?_append, hne, verdict]

/-- What is skipped brings no news. -/
theorem error?_of_skipped (hd : ¬ d.IsFile) : (b.verdict judged d).1.error? = none := by
  rw [verdict, Session.verdict_of_skipped hd]
  rfl

/-! ### In which order turns come -/

variable (b judged l queue) in
/-- The turns of documents are of one kind or of two that follow each other. Nobody waits for an
attempt that has settled; before, documents only begin, and nothing is heard of a fault. -/
structure Staged : Prop where
  alone : l.session.resolver.outcome? b.attempt ≠ none → l.waiting = []
  early : l.session.resolver.outcome? b.attempt = none → ∀ y ∈ queue, b.rank? judged y ≠ none →
    ∃ t, y = .start t
  level : Level (queue.filterMap (b.rank? judged))
  reported : ∀ p t, .report p t ∈ queue → ∃ d ∈ judged, b.document? t = some d

/-- That another document is judged changes nothing of the turns that were asked for before. -/
theorem heard?_append (once : ((judged ++ [d]).map Document.uri).Nodup)
    (reported : ∀ p t, .report p t ∈ queue → ∃ d ∈ judged, b.document? t = some d) :
    ∀ y ∈ queue, b.heard? (judged ++ [d]) y = b.heard? judged y ∧
      b.rank? (judged ++ [d]) y = b.rank? judged y := by
  intro y hy
  cases y with
  | report p t =>
    obtain ⟨d', hd', hdocument⟩ := reported p t hy
    simp only [rank?, heard?, hdocument, Option.bind_some, faultOf_append once hd', true_and]
  | _ => exact ⟨rfl, rfl⟩

theorem Staged.rest (h : b.Staged judged l (turn :: queue)) :
    Level (queue.filterMap (b.rank? judged)) := by
  have hlevel := h.level
  rw [List.filterMap_cons] at hlevel
  split at hlevel
  · exact hlevel
  · exact hlevel.tail

/-- A turn goes, and one that is a step further comes, or one that is none of a document. -/
theorem Staged.advance (h : b.Staged judged l (turn :: queue)) {y : Turn}
    (hy : ∀ k, b.rank? judged' y = some k → ∃ i, b.rank? judged turn = some i ∧ k = i + 1)
    (hqueue : ∀ y ∈ queue, b.rank? judged' y = b.rank? judged y) :
    Level ((queue ++ [y]).filterMap (b.rank? judged')) := by
  rw [List.filterMap_append, List.filterMap_congr hqueue]
  cases hr : b.rank? judged' y with
  | none => simpa [hr] using h.rest
  | some k =>
    obtain ⟨i, hi, rfl⟩ := hy k hr
    have hlevel := h.level
    rw [List.filterMap_cons_some hi] at hlevel
    simpa [hr] using hlevel.next

/-- Turns that are none of a document change nothing of the order. -/
theorem Staged.keep (h : b.Staged judged l (turn :: l.queue)) (hqueue : l'.queue = l.queue ++ turns)
    (alone : l'.session.resolver.outcome? b.attempt ≠ none → l'.waiting = [])
    (unsettled : l'.session.resolver.outcome? b.attempt = none →
      l.session.resolver.outcome? b.attempt = none)
    (plain : ∀ y ∈ turns, b.rank? judged y = none ∧ y.isReport = false) :
    b.Staged judged l' l'.queue := by
  have hplain : turns.filterMap (b.rank? judged) = [] :=
    List.filterMap_eq_nil_iff.mpr fun y hy => (plain y hy).1
  refine ⟨alone, fun hnone y hy hy' => ?_, ?_, fun p t ht => ?_⟩
  · rw [hqueue, List.mem_append] at hy
    obtain hy | hy := hy
    · exact h.early (unsettled hnone) y (List.mem_cons_of_mem _ hy) hy'
    · exact absurd (plain y hy).1 hy'
  · rw [hqueue, List.filterMap_append, hplain, List.append_nil]
    exact h.rest
  · rw [hqueue, List.mem_append] at ht
    obtain ht | ht := ht
    · exact h.reported p t (List.mem_cons_of_mem _ ht)
    · cases (plain _ ht).2

theorem Staged.goes (h : b.Staged judged l (turn :: l.queue)) (round : b.Round none judged' l')
    (mine : turn.task? = some t) (hrank : b.rank? judged turn = some 1)
    (hd : b.document? t = some d) (goes : b.Goes t d judged judged' l l') :
    b.Staged judged' l' l'.queue := by
  have htail : ∀ p t, .report p t ∈ l.queue → ∃ d ∈ judged, b.document? t = some d :=
    fun p t ht => h.reported p t (List.mem_cons_of_mem _ ht)
  cases goes with
  | judges next hqueue hwaiting outcome settled _ =>
    subst next
    have hsame := heard?_append round.once htail
    have hself : b.heard? (judged ++ [d]) (.report b.parent t) =
        (b.verdict judged d).1.error? := by
      simp only [heard?, hd, Option.bind_some, faultOf_append_self round.once]
    refine ⟨fun hsettled => ?_, fun hnone y hy hy' => ?_, ?_, fun p t' ht => ?_⟩
    · rw [hwaiting, h.alone (outcome ▸ hsettled)]
    · rw [outcome] at hnone
      rw [hqueue, List.mem_append, List.mem_singleton] at hy
      obtain hy | rfl := hy
      · rw [(hsame y hy).2] at hy'
        exact h.early hnone y (List.mem_cons_of_mem _ hy) hy'
      · have hskipped : ¬ d.IsFile := fun hfile => settled hfile hnone
        simp [rank?, hself, error?_of_skipped hskipped] at hy'
    · rw [hqueue]
      refine h.advance (fun k hk => ⟨1, hrank, ?_⟩) fun y hy => (hsame y hy).2
      obtain ⟨-, -, rfl⟩ := Option.map_eq_some_iff.mp hk
      rfl
    · rw [hqueue, List.mem_append, List.mem_singleton] at ht
      obtain ht | ht := ht
      · obtain ⟨d', hd', hdocument⟩ := htail p t' ht
        exact ⟨d', List.mem_append_left _ hd', hdocument⟩
      · obtain ⟨-, rfl⟩ := Turn.report.inj ht
        exact ⟨d, by simp, hd⟩
  | waits same hqueue hwaiting outcome unsettled _ =>
    subst same
    obtain ⟨turns, hqueue, hturns⟩ := hqueue
    refine h.keep hqueue (fun hsettled => absurd unsettled hsettled) (fun _ => outcome) fun y hy => ?_
    rw [hturns y hy]
    exact ⟨rfl, rfl⟩
  | stays same hqueue hwaiting outcome _ _ =>
    subst same
    have hsame : l'.queue = l.queue ++ [] := by rw [hqueue, List.append_nil]
    exact h.keep hsame (fun hsettled => hwaiting.trans (h.alone (outcome ▸ hsettled)))
      (fun hnone => outcome ▸ hnone) (by simp)

theorem Staged.moves (h : b.Staged judged l (turn :: l.queue))
    (lined : b.Lined judged l (turn :: l.queue)) (round : b.Round none judged' l')
    (moves : b.Moves turn judged judged' l l') : b.Staged judged' l' l'.queue := by
  have htail : ∀ p t, .report p t ∈ l.queue → ∃ d ∈ judged, b.document? t = some d :=
    fun p t ht => h.reported p t (List.mem_cons_of_mem _ ht)
  cases moves with
  | goes t d mine hd goes _ =>
    obtain rfl | rfl := mine
    · exact h.goes round rfl (by simp [rank?, hd]) hd goes
    · exact h.goes round rfl (by simp [rank?, hd]) hd goes
  | relays t mine same hqueue hwaiting outcome _ =>
    subst mine same
    refine ⟨fun hsettled => hwaiting.trans (h.alone (outcome ▸ hsettled)), fun hnone y hy hy' => ?_,
      ?_, fun p t' ht => ?_⟩
    · rw [hqueue, List.mem_append, List.mem_singleton] at hy
      obtain hy | rfl := hy
      · exact h.early (outcome ▸ hnone) y (List.mem_cons_of_mem _ hy) hy'
      · obtain ⟨t', ht'⟩ := h.early (outcome ▸ hnone) (.relay t) List.mem_cons_self
          (by simpa [rank?] using hy')
        cases ht'
    · rw [hqueue]
      refine h.advance (fun k hk => ?_) fun _ _ => rfl
      obtain ⟨d, hd, rfl⟩ := Option.map_eq_some_iff.mp hk
      exact ⟨0, by simp [rank?, hd], rfl⟩
    · rw [hqueue] at ht
      exact htail p t' (by simpa using ht)
  | releases hnone same hqueue hwaiting settled _ =>
    subst same
    have hrelays : ∀ i ∈ (l.waiting.map fun p => Turn.relay p.2).filterMap (b.rank? judged'),
        i = 0 := by
      intro i hi
      obtain ⟨y, hy, hi⟩ := List.mem_filterMap.mp hi
      obtain ⟨p, -, rfl⟩ := List.mem_map.mp hy
      obtain ⟨-, -, rfl⟩ := Option.map_eq_some_iff.mp hi
      rfl
    refine ⟨fun _ => hwaiting, fun hnot => absurd hnot settled, ?_, fun p t' ht => ?_⟩
    · by_cases hsettled : l.session.resolver.outcome? b.attempt = none
      · -- before the attempt settled documents only began, and now none is to begin
        have hbegun : l.queue.filterMap (b.rank? judged') = [] := by
          refine List.filterMap_eq_nil_iff.mpr fun y hy => ?_
          refine Classical.byContradiction fun hy' => ?_
          obtain ⟨t, rfl⟩ := h.early hsettled y (List.mem_cons_of_mem _ hy) hy'
          obtain ⟨ts, rest, hfirst, hrest, -⟩ := lined.first
          cases ts with
          | nil =>
            obtain rfl : turn :: l.queue = rest := hfirst
            exact filterMap_starts_eq_nil.mp hrest t (List.mem_cons_of_mem _ hy)
          | cons t' ts =>
            rw [(List.cons.inj hfirst).1] at hnone
            cases hnone
        rw [hqueue, List.filterMap_append, hbegun, List.nil_append]
        exact .of_const hrelays
      · rw [hqueue, h.alone hsettled, List.map_nil, List.append_nil]
        exact h.rest
    · rw [hqueue] at ht
      exact htail p t' (by simpa using ht)
  | works hnone same turns hqueue plain hwaiting outcome _ =>
    subst same
    refine h.keep hqueue (fun hsettled => hwaiting.trans (h.alone (outcome ▸ hsettled)))
      (fun hnone => outcome ▸ hnone) fun y hy => ⟨rank?_of_plain (plain y hy), ?_⟩
    obtain ⟨-, hreport⟩ | rfl := plain y hy
    · exact hreport
    · rfl

theorem Staged.begins (b : Batch) (hsome : b.documents ≠ []) (job : Job) :
    b.Staged [] (b.begun job) (b.begun job).queue := by
  have hqueue : (b.begun job).queue = b.children.map .start := by
    rw [b.begun_eq hsome]
    simp [setStage, started, addTask, b.resting.queue]
  have hwaiting : (b.begun job).waiting = [] := by
    rw [b.begun_eq hsome]
    simp [setStage, started, addTask, b.resting.waiting]
  rw [hqueue]
  refine ⟨fun _ => hwaiting, fun _ y hy _ => ?_, .of_const (k := 1) fun i hi => ?_, by simp⟩
  · obtain ⟨t, -, rfl⟩ := List.mem_map.mp hy
    exact ⟨t, rfl⟩
  · obtain ⟨y, hy, hi⟩ := List.mem_filterMap.mp hi
    obtain ⟨t, -, rfl⟩ := List.mem_map.mp hy
    obtain ⟨-, -, rfl⟩ := Option.map_eq_some_iff.mp hi
    rfl

/-! ### What is heard -/

variable (b judged l queue) in
/-- The batch has heard of no fault, and there is news of all of them in the order in which they were
raised; or it has heard of the first one, and no document waits or has a turn any more. -/
inductive Hears : Prop where
  | nothing (stage : ∀ e, l.stage? b.parent ≠ some (.gathered b.children (some e)))
      (order : queue.filterMap (b.heard? judged) = b.faults judged)
  | fault (e : Fault) (stage : l.stage? b.parent = some (.gathered b.children (some e)))
      (first : (b.faults judged).head? = some e) (nobody : l.waiting = [])
      (all : ∀ y ∈ queue, ∀ t, y.task? = some t → b.document? t = none)

/-- Turns that bring no news change nothing of what is heard. -/
theorem Hears.keep (h : b.Hears judged l (turn :: l.queue)) (hturn : b.heard? judged turn = none)
    (parent : l'.stage? b.parent = l.stage? b.parent) (queue : l'.queue = l.queue ++ turns)
    (quiet : ∀ y ∈ turns, b.heard? judged y = none)
    (nobody : l.waiting = [] → l'.waiting = [])
    (all : (∀ y ∈ turn :: l.queue, ∀ t, y.task? = some t → b.document? t = none) →
      l.waiting = [] → ∀ y ∈ turns, ∀ t, y.task? = some t → b.document? t = none) :
    b.Hears judged l' l'.queue := by
  cases h with
  | nothing stage order =>
    refine .nothing (fun e => parent ▸ stage e) ?_
    rw [List.filterMap_cons_none hturn] at order
    rw [queue, List.filterMap_append, List.filterMap_eq_nil_iff.mpr quiet, List.append_nil, order]
  | fault e stage first hnobody hall =>
    refine .fault e (parent.trans stage) first (nobody hnobody) fun y hy => ?_
    rw [queue, List.mem_append] at hy
    exact hy.elim (fun hy => hall y (List.mem_cons_of_mem _ hy)) (all hall hnobody y)

theorem Hears.goes (h : b.Hears judged l (turn :: l.queue))
    (staged : b.Staged judged l (turn :: l.queue)) (round : b.Round none judged' l')
    (mine : turn.task? = some t) (hturn : turn.isReport = false) (hd : b.document? t = some d)
    (goes : b.Goes t d judged judged' l l') : b.Hears judged' l' l'.queue := by
  have hnone : b.heard? judged turn = none := heard?_of_not_report hturn
  have hmine : ¬ ∀ y ∈ turn :: l.queue, ∀ t, y.task? = some t → b.document? t = none := by
    intro hall
    rw [hall turn List.mem_cons_self t mine] at hd
    cases hd
  cases goes with
  | judges next hqueue _ _ _ parent =>
    cases h with
    | fault e stage first nobody all => exact absurd all hmine
    | nothing stage order =>
      subst next
      refine .nothing (fun e => parent ▸ stage e) ?_
      have hsame : ∀ y ∈ l.queue, b.heard? (judged ++ [d]) y = b.heard? judged y := fun y hy =>
        (heard?_append round.once (fun p t ht => staged.reported p t (List.mem_cons_of_mem _ ht))
          y hy).1
      rw [List.filterMap_cons_none hnone] at order
      rw [hqueue, List.filterMap_append, List.filterMap_congr hsame, order, faults_append]
      cases hx : (b.verdict judged d).1.error? <;>
        simp [heard?, hd, faultOf_append_self round.once, hx]
  | waits same hqueue hwaiting _ _ parent =>
    subst same
    obtain ⟨turns, hqueue, hturns⟩ := hqueue
    cases h with
    | fault e stage first nobody all => exact absurd all hmine
    | nothing stage order =>
      refine .nothing (fun e => parent ▸ stage e) ?_
      have hquiet : turns.filterMap (b.heard? judged') = [] :=
        List.filterMap_eq_nil_iff.mpr fun y hy => by rw [hturns y hy]; rfl
      rw [List.filterMap_cons_none hnone] at order
      rw [hqueue, List.filterMap_append, hquiet, List.append_nil, order]
  | stays same hqueue hwaiting _ _ parent =>
    subst same
    have hsame : l'.queue = l.queue ++ [] := by rw [hqueue, List.append_nil]
    exact h.keep hnone parent hsame (by simp) (fun hw => hwaiting.trans hw) (by simp)

/-- Until a report is taken, nothing is heard. -/
theorem Hears.moves (h : b.Hears judged l (turn :: l.queue))
    (staged : b.Staged judged l (turn :: l.queue)) (round : b.Round none judged' l')
    (hturn : turn.isReport = false) (moves : b.Moves turn judged judged' l l') :
    b.Hears judged' l' l'.queue := by
  have hnone : b.heard? judged turn = none := heard?_of_not_report hturn
  cases moves with
  | goes t d mine hd goes _ =>
    obtain rfl | rfl := mine
    · exact h.goes staged round rfl rfl hd goes
    · exact h.goes staged round rfl rfl hd goes
  | relays t mine same hqueue hwaiting _ parent =>
    subst mine same
    refine h.keep hnone parent hqueue (by simp [heard?]) hwaiting.trans fun hall _ => ?_
    simpa [Turn.task?] using hall (.relay t) List.mem_cons_self
  | releases _ same hqueue hwaiting _ parent =>
    subst same
    refine h.keep hnone parent hqueue ?_ (fun _ => hwaiting) fun _ hw => by simp [hw]
    intro y hy
    obtain ⟨p, -, rfl⟩ := List.mem_map.mp hy
    rfl
  | works _ same turns hqueue plain hwaiting _ parent =>
    subst same
    refine h.keep hnone (parent hturn) hqueue (fun y hy => ?_) hwaiting.trans fun _ _ y hy t ht => ?_
    · obtain ⟨-, hreport⟩ | rfl := plain y hy
      · exact heard?_of_not_report hreport
      · rfl
    · obtain ⟨hno, -⟩ | rfl := plain y hy
      · simp [hno] at ht
      · obtain rfl := Option.some.inj ht
        exact b.document?_parent

/-- A document that has been judged has raised a fault if its task has. -/
theorem Round.faultOf_eq_some {hand : Option Turn} (h : b.Round hand judged l)
    (ht : t ∈ b.children) (hd : b.document? t = some d) (hjudged : d ∈ judged) (e : Fault) :
    b.faultOf judged d = some e ↔ l.result? t = some (.raised e) := by
  obtain ⟨i, d', rfl, hi⟩ := exists_child ht
  obtain rfl : d' = d := Option.some.inj (hi.symm.trans ((b.document?_child i).symm.trans hd))
  obtain ⟨-, hnot⟩ | ⟨x, hx, huri, -, hr⟩ := (h.stands i d' hi).result_cases
  · exact absurd hjudged hnot
  · rw [faultOf, ← huri, h.on?_of_mem hx, Option.bind_some, hr, Option.some.injEq,
      Verdict.ended_eq_raised, Verdict.error?_eq_some]

/-- When the report on a fault comes, no document waits or has a turn any more. -/
theorem Staged.nobody (h : b.Staged judged l (turn :: queue)) (hrank : b.rank? judged turn = some 2) :
    l.waiting = [] ∧ ∀ y ∈ queue, ∀ t, y.task? = some t → b.document? t = none := by
  refine ⟨h.alone fun hnone => ?_, fun y hy t ht => ?_⟩
  · obtain ⟨t, rfl⟩ := h.early hnone _ List.mem_cons_self (by simp [hrank])
    simp [rank?] at hrank
  · have hlevel := h.level
    rw [List.filterMap_cons_some hrank] at hlevel
    cases hdocument : b.document? t with
    | none => rfl
    | some d =>
      obtain ⟨k, hk, hless⟩ : ∃ k, b.rank? judged y = some k ∧ k < 2 := rank?_of_task ht hdocument
      have hle := hlevel.le (List.mem_filterMap.mpr ⟨y, hy, hk⟩)
      omega

/-- When the report on a fault is taken, all documents of files have been judged. -/
theorem Hears.report (h : b.Hears judged l (.report b.parent t :: l.queue))
    (staged : b.Staged judged l (.report b.parent t :: l.queue))
    (round : b.Round (some (.report b.parent t)) judged l) :
    b.Hears judged (l.take (.report b.parent t)) (l.take (.report b.parent t)).queue := by
  have hchild : t ∈ b.children := (round.due _ (.inr rfl)).2
  obtain ⟨d, hjudged, hd⟩ := staged.reported _ t List.mem_cons_self
  have hfault := round.faultOf_eq_some hchild hd hjudged
  have hheard : b.heard? judged (.report b.parent t) = b.faultOf judged d := by
    simp only [heard?, hd, Option.bind_some]
  cases round.gathering with
  | complete job task count => simp [outstanding, Turn.reportsTo] at count
  | failed job e task turn raised =>
    have htake : l.take (.report b.parent t) = l := by
      simp only [take, takeReport, stage?_of_task task]
    rw [htake]
    cases h with
    | nothing stage order => exact absurd (stage?_of_task task) (stage e)
    | fault e stage first nobody all =>
      exact .fault e stage first nobody fun y hy => all y (List.mem_cons_of_mem _ hy)
  | counts job missing task count positive unheard =>
    have hstage := stage?_of_task task
    have hset := fun s => stage?_of_task (task?_setStage_self task s)
    cases h with
    | fault e stage first nobody all =>
      rw [hstage] at stage
      cases stage
    | nothing stage order =>
      cases hf : b.faultOf judged d with
      | none =>
        have hresult : ∀ e, l.result? t ≠ some (.raised e) := fun e he => by
          simp [hf] at hfault
          exact hfault e he
        rw [List.filterMap_cons_none (hheard.trans hf)] at order
        rw [take, takeReport_eq hstage hresult]
        split
        · refine .nothing (fun e he => ?_) ?_
          · have := (hset (.gathered b.children none)).symm.trans he
            simp at this
          · simp [enqueue, setStage, heard?, order]
        · refine .nothing (fun e he => ?_) order
          have := (hset (.gathering b.children (missing - 1))).symm.trans he
          simp at this
      | some e =>
        have hrank : b.rank? judged (.report b.parent t) = some 2 := by
          simp only [rank?, hheard, hf, Option.map_some]
        have htake : l.take (.report b.parent t) =
            (l.setStage b.parent (.gathered b.children (some e))).enqueue (.wake b.parent) := by
          simp only [take, takeReport, hstage, (hfault e).mp hf]
        rw [htake]
        rw [List.filterMap_cons_some (hheard.trans hf)] at order
        obtain ⟨nobody, all⟩ := staged.nobody hrank
        refine .fault e (hset _) (by rw [← order]; rfl) nobody fun y hy t' ht' => ?_
        obtain hy | hy := List.mem_append.mp hy
        · exact all y hy t' ht'
        · rw [List.mem_singleton] at hy
          subst hy
          obtain rfl := Option.some.inj ht'
          exact b.document?_parent

theorem Hears.begins (b : Batch) (hsome : b.documents ≠ []) (job : Job) :
    b.Hears [] (b.begun job) (b.begun job).queue := by
  rw [b.begun_eq hsome]
  have hstage := stage?_of_task (task?_setStage_self (b.parent_begun job (b.children.map .start))
    (.gathering b.children b.documents.length))
  refine .nothing (fun e he => ?_) ?_
  · have := hstage.symm.trans he
    simp at this
  · simp [setStage, started, addTask, b.resting.queue, heard?, faults, tally, Session.tally]

/-! ### The end -/

/-- Once a fault has been heard of, the documents of files have been judged in their order. -/
theorem Lined.files_of_fault (h : b.Lined judged l queue) (nobody : l.waiting = [])
    (all : ∀ y ∈ queue, ∀ t, y.task? = some t → b.document? t = none) :
    judged.filter (fun d => d.IsFile) = b.documents.filter (fun d => d.IsFile) := by
  have hline : b.line queue l.waiting = [] := by
    refine List.filterMap_eq_nil_iff.mpr fun t ht => ?_
    rw [nobody, mem_line] at ht
    obtain ⟨y, hy, ht⟩ | ⟨p, hp, -⟩ := ht
    · exact all y hy t ht
    · simp at hp
  rw [← h.order, hline, List.append_nil]

/-- A batch whose turns are taken in the order in which they were asked for ends, the documents of
files have been judged in their order, and if it ends with a fault, that is the first one. -/
theorem Lined.ends {fuel : Nat} (h : b.Lined judged l l.queue) (staged : b.Staged judged l l.queue)
    (hears : b.Hears judged l l.queue) (hround : b.Round none judged l)
    (enough : b.effort l ≤ fuel) :
    ∃ judged', judged'.filter (fun d => d.IsFile) = b.documents.filter (fun d => d.IsFile) ∧
      (b.Ended judged' (drainToEnd [b.parent] fuel l) ∨
        ∃ e, b.Failed judged' e (drainToEnd [b.parent] fuel l) ∧
          (b.faults judged').head? = some e) := by
  induction fuel generalizing judged l with
  | zero => exact absurd (Nat.le_zero.mp enough) (Nat.ne_of_gt hround.effort_pos)
  | succ fuel ih =>
    obtain ⟨turn, queue, hq⟩ := List.exists_cons_of_ne_nil hround.queue_ne
    have hhand : b.Round (some turn) judged { l with queue := queue } :=
      Round.inHand (l := { l with queue := queue }) hround (by rw [hq])
    rw [hq] at h staged hears
    have hlined : b.Lined judged { l with queue := queue } (turn :: queue) := ⟨h.order, h.first⟩
    have hstaged : b.Staged judged { l with queue := queue } (turn :: queue) :=
      ⟨staged.alone, staged.early, staged.level, staged.reported⟩
    have hhears : b.Hears judged { l with queue := queue } (turn :: queue) := by
      cases hears with
      | nothing stage order => exact .nothing stage order
      | fault e stage first nobody all => exact .fault e stage first nobody all
    have hdrain : drainToEnd [b.parent] (fuel + 1) l =
        drainToEnd [b.parent] fuel (Loop.take { l with queue := queue } turn) := by
      simp [drainToEnd, hround.not_areOver, hq]
    rw [hdrain]
    obtain ⟨judged', hnext, hmoves, hless⟩ | hended | ⟨e, hstage, hfailed⟩ := hhand.take
    · have hheard : b.Hears judged' (Loop.take { l with queue := queue } turn)
          (Loop.take { l with queue := queue } turn).queue := by
        cases turn with
        | report p t =>
          obtain ⟨rfl, -⟩ := hhand.due _ (.inr rfl)
          have hsame : judged' = judged := by
            cases hmoves with
            | goes t d mine => obtain mine | mine := mine <;> cases mine
            | relays t mine => cases mine
            | releases _ same => exact same
            | works _ same => exact same
          rw [hsame]
          exact hhears.report hstaged hhand
        | _ => exact hhears.moves hstaged hnext rfl hmoves
      refine ih (hlined.moves hmoves) (hstaged.moves hlined hnext hmoves) hheard hnext ?_
      have hsum : b.effort l = b.effort { l with queue := queue } + b.turnEffort turn := by
        simp only [effort, hq, List.map_cons, List.sum_cons]
        omega
      omega
    · have hover : b.IsOver judged (Loop.take { l with queue := queue } turn) := .inl hended
      rw [drainToEnd_of_areOver hover.areOver]
      exact ⟨judged, hlined.files hended.all, .inl hended⟩
    · have hover : b.IsOver judged (Loop.take { l with queue := queue } turn) := .inr ⟨e, hfailed⟩
      rw [drainToEnd_of_areOver hover.areOver]
      cases hhears with
      | nothing stage order => exact absurd hstage (stage e)
      | fault e' stage first nobody all =>
        obtain rfl : e' = e := by simpa using stage.symm.trans hstage
        exact ⟨judged, hlined.files_of_fault nobody all, .inr ⟨e', hfailed, first⟩⟩

/-- A batch whose turns are taken in the order in which they were asked for is over after so many
turns. -/
theorem over_inLine (b : Batch) {job : Job} (hjob : job.error? = none) {fuel : Nat}
    (enough : 9 * b.documents.length + 13 ≤ fuel) :
    ∃ judged, judged.filter (fun d => d.IsFile) = b.documents.filter (fun d => d.IsFile) ∧
      (b.Ended judged (drainToEnd [b.parent] fuel (b.begun job)) ∨
        ∃ e, b.Failed judged e (drainToEnd [b.parent] fuel (b.begun job)) ∧
          (b.faults judged).head? = some e) := by
  by_cases hsome : b.documents = []
  · have hlong : 9 * b.documents.length + 13 ≤ (List.replicate fuel 0).length := by
      rwa [List.length_replicate]
    obtain ⟨judged, hover⟩ := b.comes_to_end hjob hlong
    rw [drainInOrder_replicate] at hover
    obtain hended | ⟨e, hfailed⟩ := hover
    · have hnone := hended.all
      rw [hsome, List.perm_nil] at hnone
      exact ⟨judged, by rw [hnone, hsome], .inl hended⟩
    · obtain ⟨x, hx, -⟩ := hfailed.raised
      obtain ⟨d, hd, -⟩ := Session.mem_tally _ _ _ hx
      simpa [hsome] using hfailed.known d hd
  · obtain ⟨hround, heffort⟩ := Round.begins b hsome hjob
    exact (Lined.begins b hsome job).ends (.begins b hsome job) (.begins b hsome job) hround
      (by omega)

end Batch

end LintBridge
