import LintBridge.Proofs.Report
import LintBridge.Proofs.Session.Course
import Mathlib.Data.List.Induction

/-! Where the list that the editor shows for a document, and the document's quick fixes, come from.
Unless nothing is shown they are those of one report: the one about the text of the last validation
to publish. Every step either leaves both alone, or clears both, or replaces both. -/

namespace LintBridge

namespace Session

variable {s : Session} {h : Host} {v : Validation} {m : Nat}

/-- A validation ends without a fault only if the module answers, and then it comes to a digest of
the answer. -/
theorem lint_of_whole (whole : (s.lint h v m).1.fault? = none) :
    ∃ report source,
      (LintModule.call h.imports m s.resolver.entryPoint v.document.text (s.optionsFor v)).1 =
        .ok report ∧
      (s.lint h v m).1 =
        Report.digest report v.document.text.toList s.settings.showWarnings source := by
  simp only [lint] at whole ⊢
  cases hreport : (LintModule.call h.imports m s.resolver.entryPoint v.document.text
    (s.optionsFor v)).1 with
  | error e => simp [hreport, Report.Digest.stopped] at whole
  | ok report => exact ⟨report, _, rfl, rfl⟩

end Session

namespace Course

open Happening (last fixesLeft)

/-- In the course `c` the validation `k` waits, its number is current, the module `m` answers with
a report, and nothing stops the digest of it. -/
structure Publishes (c : Course) (k m : Nat) (v : Validation) (report : Json)
    (source : Except Fault Json) : Prop where
  waits : c.waiting.lookup k = some v
  current : c.session.isCurrent v.document.uri v.number = true
  answers : (LintModule.call c.host.imports m c.session.resolver.entryPoint v.document.text
    (c.session.optionsFor v)).1 = .ok report
  whole : (Report.digest report v.document.text.toList c.session.settings.showWarnings
    source).fault? = none

/-- What a report about a validation's text comes to. -/
def digestOf (c : Course) (v : Validation) (report : Json) (source : Except Fault Json) :
    Report.Digest :=
  Report.digest report v.document.text.toList c.session.settings.showWarnings source

/-- The messages of a report that the session tells. -/
def told (c : Course) (report : Json) : List Members :=
  Report.told c.session.settings.showWarnings report

theorem Publishes.gives {c : Course} {k m : Nat} {v : Validation} {report : Json}
    {source : Except Fault Json} (h : c.Publishes k m v report source) :
    List.Forall₂ (Report.Gives v.document.text.toList source) (c.told report)
      (c.digestOf v report source).entries :=
  Report.gives_digest h.whole

/-! ### What a step does to what is shown -/

/-- What a step does to what is shown for a document and to its quick fixes. -/
inductive Shows (c : Course) (a : Act) (uri : String) : Prop where
  | keeps (es : List Event) (events : (c.act a).events = c.events ++ es)
      (quiet : Event.lastList es uri = none)
      (fixes : (c.act a).session.fixesOf uri = c.session.fixesOf uri)
  | clears (events : (c.act a).events = c.events ++ [.publish uri []])
      (fixes : (c.act a).session.fixesOf uri = [])
  | publishes (k m : Nat) (v : Validation) (report : Json) (source : Except Fault Json)
      (step : a = .conclude k (.present m)) (publishes : c.Publishes k m v report source)
      (document : v.document.uri = uri)
      (events : (c.act a).events =
        c.events ++ [.publish uri (c.digestOf v report source).diagnostics])
      (fixes : (c.act a).session.fixesOf uri = (c.digestOf v report source).fixes)

variable {c c₀ : Course} {uri : String}

theorem events_append {c c' : Course} {new : List Happening} (h : c'.history = c.history ++ new) :
    c'.events = c.events ++ new.flatMap Happening.events := by
  rw [events, h, List.flatMap_append]
  rfl

/-- A step that adds nothing to the history and leaves the fixes alone. -/
theorem Shows.of_history {a : Act} (history : (c.act a).history = c.history)
    (fixes : (c.act a).session.fixes = c.session.fixes) : c.Shows a uri :=
  .keeps [] (by rw [events, history, List.append_nil]; rfl) rfl
    (by rw [Session.fixesOf, fixes]; rfl)

theorem shows_begin {k : Nat} (hk : k ∉ c.begun) (d : Document) : c.Shows (.begin k d) uri := by
  have hact : c.act (.begin k d) = c.begin k d := if_neg hk
  have hevents : (c.begin k d).events = c.events := by
    simp only [Course.begin]
    split <;> simp [events, Happening.events]
  have hfixes : (c.begin k d).session.fixes = c.session.fixes := by
    have hcases := c.session.begin_cases c.host d
    simp only [Course.begin]
    generalize c.session.begin c.host d = x at hcases ⊢
    cases hcases <;> rfl
  refine .keeps [] ?_ rfl ?_
  · rw [hact, hevents, List.append_nil]
  · rw [hact, Session.fixesOf, hfixes]
    rfl

theorem shows_conclude {k : Nat} {v : Validation} (hv : c.waiting.lookup k = some v)
    (o : Outcome) : c.Shows (.conclude k o) uri := by
  have hact : c.act (.conclude k o) = c.conclude k v o := by simp only [Course.act, hv]
  have hevents := c.events_conclude k v o
  have hsession := c.session_conclude k v o
  have hcases := c.session.conclude_cases c.host v o
  generalize c.session.conclude c.host v o = x at hcases hevents hsession
  cases hcases with
  | stale h' old =>
    refine .keeps [] (hact ▸ hevents) rfl ?_
    rw [hact, hsession]
  | silent r h' status ruri =>
    refine .keeps [] (hact ▸ hevents) rfl ?_
    rw [hact, hsession]
  | untold m present current e flaw fault shown =>
    refine .keeps [] (hact ▸ hevents) rfl ?_
    rw [hact, hsession]
  | published m present current whole =>
    subst present
    by_cases hu : v.document.uri = uri
    · obtain ⟨report, source, hreport, hlint⟩ := Session.lint_of_whole whole
      subst hu
      rw [hlint] at hevents hsession whole
      refine .publishes k m v report source rfl ⟨hv, current, hreport, whole⟩ rfl
        (hact ▸ hevents) ?_
      rw [hact, hsession, Session.fixesOf, Session.fixes_storeFixes_self]
      rfl
    · refine .keeps _ (hact ▸ hevents) (Event.lastList_publish_of_ne _ hu) ?_
      rw [hact, hsession, Session.fixesOf, Session.fixes_storeFixes_of_ne _ _ (Ne.symm hu)]
      rfl

theorem shows_close (u : String) : c.Shows (.close u) uri := by
  have hevents : (c.act (.close u)).events = c.events ++ [.publish u []] := by
    rw [events_append (c := c) rfl]
    rfl
  by_cases hu : u = uri
  · subst hu
    refine .clears hevents ?_
    exact congrArg (Option.getD · []) (c.session.fixes_close_self u)
  · refine .keeps _ hevents (Event.lastList_publish_of_ne _ hu) ?_
    exact congrArg (Option.getD · []) (c.session.fixes_close_of_ne (Ne.symm hu))

/-- Every step leaves the list and the fixes of a document alone, or clears both, or replaces both
by those of one report. -/
theorem shows_act (c : Course) (a : Act) (uri : String) : c.Shows a uri := by
  cases a with
  | begin k d =>
    by_cases hk : k ∈ c.begun
    · have hact : c.act (.begin k d) = c := if_pos hk
      exact .of_history (congrArg _ hact) (by rw [hact])
    · exact shows_begin hk d
  | conclude k o =>
    cases hv : c.waiting.lookup k with
    | none =>
      have hact : c.act (.conclude k o) = c := by simp only [Course.act, hv]
      exact .of_history (congrArg _ hact) (by rw [hact])
    | some v => exact shows_conclude hv o
  | close u => exact shows_close u
  | changeSettings payload =>
    cases ha : c.session.applySettings c.host payload with
    | mk r host =>
      cases r with
      | error e =>
        have hact : c.act (.changeSettings payload) = { c with host := host } := by
          simp only [Course.act, ha]
        exact .of_history (by rw [hact]) (by rw [hact])
      | ok s =>
        have hact : c.act (.changeSettings payload) = { c with session := s, host := host } := by
          simp only [Course.act, ha]
        refine .of_history (by rw [hact]) ?_
        rw [hact]
        exact (c.session.applySettings_ok c.host (congrArg Prod.fst ha)).2
  | attach root settings =>
    refine .of_history rfl ?_
    simp only [Course.act, Session.attach]
    split <;> rfl
  | invalidate root => exact .of_history rfl rfl
  | reset => exact .of_history rfl rfl
  | elsewhere resolver host => exact .of_history rfl rfl

/-! ### What is shown in the end -/

/-- A validation that waits was begun with its document. -/
theorem begin_mem_of_waiting (hwaiting : c₀.waiting = []) {acts : List Act} {k : Nat}
    {v : Validation} (h : (k, v) ∈ (c₀.after acts).waiting) : .begin k v.document ∈ acts := by
  induction acts using List.reverseRecOn with
  | nil => exact absurd (hwaiting ▸ h) List.not_mem_nil
  | append_singleton acts a ih =>
    rw [c₀.after_concat] at h
    have hmem : (k, v) ∈ (c₀.after acts).waiting ∨ a = .begin k v.document := by
      cases a with
      | begin k' d =>
        by_cases hk : k' ∈ (c₀.after acts).begun
        · rw [show (c₀.after acts).act (.begin k' d) = c₀.after acts from if_pos hk] at h
          exact .inl h
        · rw [show (c₀.after acts).act (.begin k' d) = (c₀.after acts).begin k' d from if_neg hk]
            at h
          have hcases := (c₀.after acts).session.begin_cases (c₀.after acts).host d
          simp only [Course.begin] at h
          generalize (c₀.after acts).session.begin (c₀.after acts).host d = x at hcases h
          cases hcases with
          | refused e uri => exact .inl h
          | skipped h' uri => exact .inl h
          | waits path uri =>
            obtain h | h := List.mem_append.mp h
            · exact .inl h
            · obtain ⟨rfl, rfl⟩ := Prod.mk.inj (List.mem_singleton.mp h)
              exact .inr rfl
      | conclude k' o =>
        simp only [Course.act, Course.conclude] at h
        split at h
        · split at h <;> exact .inl (List.mem_filter.mp h).1
        · exact .inl h
      | changeSettings payload =>
        simp only [Course.act] at h
        split at h <;> exact .inl h
      | _ => exact .inl h
    obtain h | rfl := hmem
    · exact List.mem_append_left _ (ih h)
    · exact List.mem_append_right _ List.mem_cons_self

/-- The last list that a run has published for a document is that of this report: in the course
after `before` the validation `k`, begun with this document, published it, and nothing has been
published for the document since. The quick fixes are those of the report. -/
structure LastPublished (c₀ : Course) (acts before : List Act) (k m : Nat) (v : Validation)
    (report : Json) (source : Except Fault Json) : Prop where
  run : ∃ later, acts = before ++ .conclude k (.present m) :: later
  begun : .begin k v.document ∈ before
  publishes : (c₀.after before).Publishes k m v report source
  last : ∃ es, (c₀.after acts).events = (c₀.after before).events ++
      .publish v.document.uri ((c₀.after before).digestOf v report source).diagnostics :: es ∧
    Event.lastList es v.document.uri = none
  fixes : (c₀.after acts).session.fixesOf v.document.uri =
    ((c₀.after before).digestOf v report source).fixes

/-- Where the list that is shown for a document after a run, and its quick fixes, come from:
nothing is shown and there are none, or a report was published last. -/
inductive Origin (c₀ : Course) (acts : List Act) (uri : String) : Prop where
  | nothing (shown : (c₀.after acts).shown uri = none ∨ (c₀.after acts).shown uri = some [])
      (fixes : (c₀.after acts).session.fixesOf uri = [])
  | report (before : List Act) (k m : Nat) (v : Validation) (report : Json)
      (source : Except Fault Json) (document : v.document.uri = uri)
      (published : c₀.LastPublished acts before k m v report source)

theorem shown_of_events {c : Course} {es es' : List Event} {ds : List Diagnostic}
    (events : c.events = es ++ .publish uri ds :: es') (quiet : Event.lastList es' uri = none) :
    c.shown uri = some ds := by
  rw [shown, events, ← List.singleton_append, Event.lastList_append, Event.lastList_append, quiet,
    Event.lastList_publish_self]
  rfl

theorem LastPublished.shown {acts before : List Act} {k m : Nat} {v : Validation} {report : Json}
    {source : Except Fault Json} (h : c₀.LastPublished acts before k m v report source) :
    (c₀.after acts).shown v.document.uri =
      some ((c₀.after before).digestOf v report source).diagnostics := by
  obtain ⟨es, events, quiet⟩ := h.last
  exact shown_of_events events quiet

/-- What was published last stays so while the document is left alone. -/
theorem LastPublished.keeps {acts before : List Act} {k m : Nat} {v : Validation} {report : Json}
    {source : Except Fault Json} (h : c₀.LastPublished acts before k m v report source) (a : Act)
    {es : List Event} (events : (c₀.after (acts ++ [a])).events = (c₀.after acts).events ++ es)
    (quiet : Event.lastList es v.document.uri = none)
    (fixes : (c₀.after (acts ++ [a])).session.fixesOf v.document.uri =
      (c₀.after acts).session.fixesOf v.document.uri) :
    c₀.LastPublished (acts ++ [a]) before k m v report source where
  run := by
    obtain ⟨later, rfl⟩ := h.run
    exact ⟨later ++ [a], by rw [List.append_assoc, List.cons_append]⟩
  begun := h.begun
  publishes := h.publishes
  last := by
    obtain ⟨es', events', quiet'⟩ := h.last
    refine ⟨es' ++ es, ?_, ?_⟩
    · rw [events, events', List.append_assoc, List.cons_append]
    · rw [Event.lastList_append, quiet, quiet', Option.none_or]
  fixes := fixes.trans h.fixes

/-- What is shown after a run comes from a report or is nothing. -/
theorem origin (hwaiting : c₀.waiting = []) (hshown : c₀.shown uri = none)
    (hfixes : c₀.session.fixesOf uri = []) (acts : List Act) : Origin c₀ acts uri := by
  induction acts using List.reverseRecOn with
  | nil => exact .nothing (.inl hshown) hfixes
  | append_singleton acts a ih =>
    have hafter : c₀.after (acts ++ [a]) = (c₀.after acts).act a := c₀.after_concat acts a
    cases shows_act (c₀.after acts) a uri with
    | keeps es events quiet fixes =>
      rw [← hafter] at events fixes
      cases ih with
      | nothing shown fixes' =>
        refine .nothing ?_ (fixes.trans fixes')
        rw [Course.shown, events, Event.lastList_append, quiet, Option.none_or]
        exact shown
      | report before k m v report source document published =>
        subst document
        exact .report before k m v report source rfl (published.keeps a events quiet fixes)
    | clears events fixes =>
      rw [← hafter] at events fixes
      exact .nothing (.inr (shown_of_events events rfl)) fixes
    | publishes k m v report source step publishes document events fixes =>
      rw [← hafter] at events fixes
      subst step document
      exact .report acts k m v report source rfl ⟨⟨[], rfl⟩,
        begin_mem_of_waiting hwaiting (Table.mem_of_lookup publishes.waits), publishes,
        ⟨[], events, rfl⟩, fixes⟩

theorem origin_fresh (root : Option String) (settings : Settings) (resolver : Resolver)
    (h : Host) (acts : List Act) (uri : String) :
    Origin (fresh (.fresh root settings resolver) h) acts uri :=
  origin rfl rfl rfl acts

/-- The quick fixes of a document belong to diagnostics that are shown, in order. -/
theorem Origin.fixes_sublist {acts : List Act} (h : Origin c₀ acts uri) :
    (((c₀.after acts).session.fixesOf uri).map QuickFix.diagnostic).Sublist
      (((c₀.after acts).shown uri).getD []) := by
  cases h with
  | nothing shown fixes =>
    rw [fixes]
    exact List.nil_sublist _
  | report before k m v report source document published =>
    subst document
    rw [published.fixes, published.shown]
    exact Report.fixes_sublist published.publishes.gives

end Course

end LintBridge
