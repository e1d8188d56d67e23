import LintBridge.Loop
import LintBridge.Proofs.Json
import LintBridge.Proofs.Session.Published
import LintBridge.Proofs.Text.Position
import LintBridge.Session.CodeAction

/-! The code actions that an editor is offered for a document. They are made of the quick fixes of
the report whose list is shown, those whose diagnostics the editor asks about, in the order of the
report. An action needs a fix whose text is a text; one without stops them all. It can always be
given a title, since the rule that it names was shown in the message of the diagnostic. -/

namespace LintBridge

/-! ### One action and many -/

namespace CodeAction

/-- The action that is made of a quick fix, the text of which is a text. -/
structure IsMadeOf (f : QuickFix) (a : CodeAction) : Prop where
  title : titleFor f.ruleId = .ok a.title
  diagnostic : a.diagnostic = f.diagnostic
  range : a.range = f.range
  text : f.text = .str a.newText

/-- What an editor makes of a text with the action. -/
def applyTo? (a : CodeAction) (text : List Char) : Option (List Char) :=
  a.range.replaceIn? text a.newText.toList

variable {f : QuickFix} {a : CodeAction} {fs : List QuickFix}

theorem ofFix_eq_ok_iff : ofFix f = .ok a ↔ IsMadeOf f a := by
  cases a with
  | mk title diagnostic range newText =>
    constructor
    · intro h
      obtain ⟨title, htitle, h⟩ := bind_eq_ok h
      obtain ⟨text, htext, h⟩ := bind_eq_ok h
      obtain ⟨rfl, rfl, rfl, rfl⟩ := CodeAction.mk.inj (Except.ok.inj h)
      exact ⟨Fault.needText_eq_ok_iff.mp htitle, rfl, rfl, Diagnostic.textOf_eq_ok_iff.mp htext⟩
    · rintro ⟨htitle, rfl, rfl, htext⟩
      simp only [ofFix, htitle, Fault.needText_ok, Diagnostic.textOf_eq_ok_iff.mpr htext]
      rfl

/-- A fix that is given a title makes no action if its text is none. -/
theorem ofFix_eq_error_iff {title : String} (titled : titleFor f.ruleId = .ok title) {e : Fault} :
    ofFix f = .error e ↔
      e = .about f.text.inner (fun _ => .notText) ∧ ∀ text, f.text ≠ .str text := by
  simp only [ofFix, titled, Fault.needText_ok, bind, Except.bind]
  cases htext : f.text with
  | str text => simp [Diagnostic.textOf, pure, Except.pure]
  | _ => simp [Diagnostic.textOf, eq_comm]

theorem mapM_ofFix_eq_ok_iff {as : List CodeAction} :
    fs.mapM ofFix = .ok as ↔ List.Forall₂ IsMadeOf fs as := by
  simp only [mapM_eq_ok_iff, ofFix_eq_ok_iff]

theorem text_of_mapM_ofFix {as : List CodeAction} (h : fs.mapM ofFix = .ok as)
    (hf : f ∈ fs) : ∃ text, f.text = .str text := by
  obtain ⟨a, -, hmade⟩ := exists_right_of_forall₂ (mapM_ofFix_eq_ok_iff.mp h) hf
  exact ⟨a.newText, hmade.text⟩

theorem mapM_ofFix_eq_error (titled : ∀ f ∈ fs, ∃ title, titleFor f.ruleId = .ok title)
    {e : Fault} (h : fs.mapM ofFix = .error e) :
    ∃ f ∈ fs, e = .about f.text.inner (fun _ => .notText) ∧ ∀ text, f.text ≠ .str text := by
  obtain ⟨f, hf, he⟩ := exists_of_mapM_eq_error h
  obtain ⟨title, htitle⟩ := titled f hf
  exact ⟨f, hf, (ofFix_eq_error_iff htitle).mp he⟩

theorem titleFor_of_display {ruleId : Json} {rule : String} (h : ruleId.display = .ok rule) :
    ∃ title, titleFor ruleId = .ok title := by
  simp only [titleFor, h]
  split <;> exact ⟨_, rfl⟩

end CodeAction

namespace Session

variable (s : Session) (uri : String) (marks : List Mark)

/-- The quick fixes of a document for diagnostics with these marks, in order. -/
def asked : List QuickFix :=
  (s.fixesOf uri).filter fun f => marks.any (f.diagnostic.mark.same ·)

variable {s uri marks}

theorem mem_asked {f : QuickFix} :
    f ∈ s.asked uri marks ↔
      f ∈ s.fixesOf uri ∧ ∃ mark ∈ marks, f.diagnostic.mark.same mark = true := by
  rw [asked, List.mem_filter, List.any_eq_true]

/-- Only which marks are asked about matters. -/
theorem asked_congr {marks' : List Mark} (h : ∀ mark, mark ∈ marks ↔ mark ∈ marks') :
    s.asked uri marks = s.asked uri marks' := by
  refine List.filter_congr fun f _ => ?_
  rw [Bool.eq_iff_iff, List.any_eq_true, List.any_eq_true]
  exact exists_congr fun mark => and_congr_left' (h mark)

/-- The actions that come back are made of the fixes that are asked about. -/
theorem codeActions_eq_ok_iff {actions : List CodeAction} :
    s.codeActions uri marks = .ok actions ↔
      List.Forall₂ CodeAction.IsMadeOf (s.asked uri marks) actions :=
  CodeAction.mapM_ofFix_eq_ok_iff

/-- All quick fixes of a document can be given a title. -/
def Titled (s : Session) (uri : String) : Prop :=
  ∀ f ∈ s.fixesOf uri, ∃ title, CodeAction.titleFor f.ruleId = .ok title

/-- The actions come back exactly if the texts of all fixes that are asked about are texts. -/
theorem codeActions_returns_iff (titled : s.Titled uri) :
    (∃ actions, s.codeActions uri marks = .ok actions) ↔
      ∀ f ∈ s.asked uri marks, ∃ text, f.text = .str text := by
  constructor
  · rintro ⟨actions, h⟩ f hf
    exact CodeAction.text_of_mapM_ofFix h hf
  · intro hall
    cases h : (s.asked uri marks).mapM CodeAction.ofFix with
    | ok actions => exact ⟨actions, h⟩
    | error e =>
      obtain ⟨f, hf, -, hno⟩ := CodeAction.mapM_ofFix_eq_error
        (fun f hf => titled f (mem_asked.mp hf).1) h
      obtain ⟨text, htext⟩ := hall f hf
      exact absurd htext (hno text)

/-- There is one way in which asking can fail. -/
theorem codeActions_eq_error (titled : s.Titled uri) {e : Fault}
    (h : s.codeActions uri marks = .error e) :
    ∃ f ∈ s.asked uri marks, e = .about f.text.inner (fun _ => .notText) ∧
      ∀ text, f.text ≠ .str text :=
  CodeAction.mapM_ofFix_eq_error (fun f hf => titled f (mem_asked.mp hf).1) h

theorem codeActions_of_nil (h : s.fixesOf uri = []) (marks : List Mark) :
    s.codeActions uri marks = .ok [] := by
  rw [codeActions, h]
  rfl

end Session

namespace Course

open Happening (last fixesLeft)

variable {c c₀ : Course} {uri : String}

/-! ### What is asked about -/

/-- Who asks about all diagnostics that are shown asks about all quick fixes: each belongs to one
of them, and its code is equal to itself. -/
theorem asked_of_shown {fs : List QuickFix} {ds : List Diagnostic}
    (sublist : (fs.map QuickFix.diagnostic).Sublist ds)
    (codes : ∀ f ∈ fs, f.diagnostic.code.IsProper) :
    fs.filter (fun f => (ds.map Diagnostic.mark).any (f.diagnostic.mark.same ·)) = fs := by
  rw [List.filter_eq_self]
  intro f hf
  have hmem : f.diagnostic ∈ ds := sublist.subset (List.mem_map_of_mem hf)
  have hself : f.diagnostic.mark.same f.diagnostic.mark = true := by
    have halike : Json.alike f.diagnostic.code f.diagnostic.code = true :=
      Json.alike_self (codes f hf)
    simp [Mark.same, Diagnostic.mark, halike]
  exact List.any_eq_true.mpr ⟨_, List.mem_map_of_mem hmem, hself⟩

/-- A document that no validation has renewed last has no quick fixes: it was closed, or nothing has
ever begun to validate it. -/
theorem Sound.fixes_of_unbegun (hc : c.Sound)
    (h : last c.history uri = none ∨ last c.history uri = some .closed) :
    c.session.fixesOf uri = [] := by
  obtain h | h := h
  · rw [hc.fixes, fixesLeft]
    cases hleft : c.history.reverse.findSome? (Happening.fixes? uri) with
    | none => rfl
    | some fs =>
      -- Fixes are left by a validation that ended in time, so after it had begun.
      obtain ⟨x, hx, hfs⟩ := List.exists_of_findSome?_eq_some hleft
      obtain ⟨before, later, hhistory⟩ := List.append_of_mem (List.mem_reverse.mp hx)
      have hnone : last before uri = none := by
        rw [hhistory, Happening.last_append] at h
        exact (Option.or_eq_none_iff.mp h).2
      cases x with
      | began k u => simp [Happening.fixes?] at hfs
      | closed u es =>
        simp only [Happening.fixes?, Option.ite_none_right_eq_some, Option.some.injEq] at hfs
        exact hfs.2.symm
      | ended k r es fs' =>
        simp only [Happening.fixes?, Option.ite_none_right_eq_some, Option.some.injEq] at hfs
        obtain ⟨⟨rfl, hok⟩, -⟩ := hfs
        have hes := (hc.whole _ (List.mem_reverse.mp hx)).1
        rw [if_pos hok] at hes
        have hlast := (hc.timely _ _ _ _ _ _ hhistory).publishes r.uri r.diagnostics
          (hes ▸ List.mem_singleton_self _)
        rw [hnone] at hlast
        simp at hlast
  · exact congrArg (Option.getD · []) (hc.cleared uri h).2

/-! ### What is offered -/

variable {acts before : List Act} {k m : Nat} {v : Validation} {report : Json}
  {source : Except Fault Json}

/-- The messages of the report that was published last, those whose fixes have a range of two whole
numbers, offer the quick fixes. -/
theorem LastPublished.offers (h : c₀.LastPublished acts before k m v report source) :
    List.Forall₂ (Report.Offers v.document.text.toList source)
      (((c₀.after before).told report).filter fun problem => (Report.fix? problem).isSome)
      ((c₀.after acts).session.fixesOf v.document.uri) := by
  rw [h.fixes]
  exact Report.offers_fixes h.publishes.gives

/-- The rule of every quick fix was shown, so it can be put into a title. -/
theorem Origin.titled (h : Origin c₀ acts uri) : (c₀.after acts).session.Titled uri := by
  intro f hf
  cases h with
  | nothing shown fixes => simp [fixes] at hf
  | report before k m v report source document published =>
    subst document
    obtain ⟨problem, -, hoffers⟩ := exists_left_of_forall₂ published.offers hf
    obtain ⟨rule, hrule⟩ := Diagnostic.display_codeOf hoffers.diagnostic
    rw [hoffers.ruleId]
    exact CodeAction.titleFor_of_display hrule

/-- What an editor makes with an action of the text that was published about: the characters from
the first offset of the message's fix to the second are replaced by the fix's text. -/
theorem LastPublished.applyTo? (h : c₀.LastPublished acts before k m v report source)
    {marks : List Mark} {actions : List CodeAction} {a : CodeAction}
    (hactions : (c₀.after acts).session.codeActions v.document.uri marks = .ok actions)
    (ha : a ∈ actions) :
    ∃ problem ∈ (c₀.after before).told report, ∃ start stop,
      Report.fix? problem = some ((start, stop), .str a.newText) ∧
      (start ≤ stop → a.applyTo? v.document.text.toList =
        some (v.document.text.toList.take (Position.clamp v.document.text.toList start) ++
          a.newText.toList ++
          v.document.text.toList.drop (Position.clamp v.document.text.toList stop))) := by
  obtain ⟨f, hf, hmade⟩ := exists_left_of_forall₂ (Session.codeActions_eq_ok_iff.mp hactions) ha
  obtain ⟨problem, hproblem, hoffers⟩ := exists_left_of_forall₂ h.offers (Session.mem_asked.mp hf).1
  obtain ⟨start, stop, hfix, hrange⟩ := hoffers.fix
  rw [hmade.text] at hfix
  refine ⟨problem, (List.mem_filter.mp hproblem).1, start, stop, hfix, fun hle => ?_⟩
  rw [CodeAction.applyTo?, hmade.range, hrange]
  exact Range.replaceIn?_ofOffset _ _ hle

/-- The quick fixes of a document, in any state that a session can come to, if their texts are texts
and the codes of their diagnostics proper. They belong, in order, to diagnostics that are shown.
Asking gives one action for each fix of a diagnostic that is asked about, in order; who asks about
all that is shown is offered all of them, and nothing is offered for a document that is closed or
was never validated. In what order and how often one asks does not matter. Unless nothing is shown and
there are none, the fixes are those of the report that was published last: one for each of its
messages that brings a fix with a range of two whole numbers, in order. If an action's range does not
end before it starts, it replaces, in the text of the validation that published, what stands between
the two offsets. -/
theorem quick_fixes_are_offered (root : Option String) (settings : Settings)
    (resolver : Resolver) (h : Host) (acts : List Act) (uri : String)
    (texts : ∀ f ∈ ((fresh (.fresh root settings resolver) h).after acts).session.fixesOf uri,
      ∃ text, f.text = .str text)
    (codes : ∀ f ∈ ((fresh (.fresh root settings resolver) h).after acts).session.fixesOf uri,
      f.diagnostic.code.IsProper) :
    let c₀ := fresh (.fresh root settings resolver) h
    let c := c₀.after acts
    ((c.session.fixesOf uri).map QuickFix.diagnostic).Sublist ((c.shown uri).getD []) ∧
    (∀ marks, ∃ actions, c.session.codeActions uri marks = .ok actions ∧
      List.Forall₂ CodeAction.IsMadeOf (c.session.asked uri marks) actions) ∧
    (∃ actions, c.session.codeActions uri (((c.shown uri).getD []).map Diagnostic.mark) =
      .ok actions ∧ List.Forall₂ CodeAction.IsMadeOf (c.session.fixesOf uri) actions) ∧
    (last c.history uri = none ∨ last c.history uri = some .closed →
      ∀ marks, c.session.codeActions uri marks = .ok []) ∧
    (∀ marks marks', (∀ mark, mark ∈ marks ↔ mark ∈ marks') →
      c.session.codeActions uri marks = c.session.codeActions uri marks') ∧
    ((c.shown uri = none ∨ c.shown uri = some []) ∧ c.session.fixesOf uri = [] ∨
      ∃ before k m v report source, v.document.uri = uri ∧
      c₀.LastPublished acts before k m v report source ∧
      List.Forall₂ (Report.Offers v.document.text.toList source)
        (((c₀.after before).told report).filter fun problem => (Report.fix? problem).isSome)
        (c.session.fixesOf uri) ∧
      ∀ marks actions, c.session.codeActions uri marks = .ok actions → ∀ a ∈ actions,
        ∃ problem ∈ (c₀.after before).told report, ∃ start stop,
          Report.fix? problem = some ((start, stop), .str a.newText) ∧
          (start ≤ stop → a.applyTo? v.document.text.toList =
            some (v.document.text.toList.take (Position.clamp v.document.text.toList start) ++
              a.newText.toList ++
              v.document.text.toList.drop (Position.clamp v.document.text.toList stop)))) := by
  intro c₀ c
  have hsound : c.Sound := (sound_fresh root settings resolver h).after acts
  have horigin : Origin c₀ acts uri := origin_fresh root settings resolver h acts uri
  have hanswers : ∀ marks, ∃ actions, c.session.codeActions uri marks = .ok actions ∧
      List.Forall₂ CodeAction.IsMadeOf (c.session.asked uri marks) actions := by
    intro marks
    obtain ⟨actions, hactions⟩ := (Session.codeActions_returns_iff horigin.titled).mpr fun f hf =>
      texts f (Session.mem_asked.mp hf).1
    exact ⟨actions, hactions, Session.codeActions_eq_ok_iff.mp hactions⟩
  refine ⟨horigin.fixes_sublist, hanswers, ?_, ?_, ?_, ?_⟩
  · obtain ⟨actions, hactions, hmade⟩ := hanswers (((c.shown uri).getD []).map Diagnostic.mark)
    have hasked := asked_of_shown horigin.fixes_sublist codes
    exact ⟨actions, hactions, hasked ▸ hmade⟩
  · intro hlast marks
    exact Session.codeActions_of_nil (hsound.fixes_of_unbegun hlast) marks
  · intro marks marks' hmarks
    exact congrArg (List.mapM CodeAction.ofFix) (Session.asked_congr hmarks)
  · cases horigin with
    | nothing shown fixes => exact .inl ⟨shown, fixes⟩
    | report before k m v report source document published =>
      subst document
      exact .inr ⟨before, k, m, v, report, source, rfl, published, published.offers,
        fun marks actions hactions a ha => published.applyTo? hactions ha⟩

/-- A document with a missing semicolon was validated on a machine whose linting module is
loaded. -/
def semicolonMissing : Course :=
  (fresh (.fresh (some "/w") .standard (.fresh "marlint" "lint_text" none false))
    { Host.withModule with
      imports := (LintModule.load Host.withModule.files .empty "marlint"
        ⟨"/w/marlint.py", none⟩).2 }).after
    [.begin 0 ⟨"file:///w/a.js", "let x", .null⟩, .conclude 0 (.present 0)]

/-- The missing semicolon is offered. -/
theorem missing_semicolon_is_offered :
    (semicolonMissing.session.fixesOf "file:///w/a.js").length = 1 ∧
    ∃ actions, semicolonMissing.session.codeActions "file:///w/a.js"
      (((semicolonMissing.shown "file:///w/a.js").getD []).map Diagnostic.mark) = .ok actions ∧
      List.Forall₂ CodeAction.IsMadeOf (semicolonMissing.session.fixesOf "file:///w/a.js")
        actions := by
  have htexts : ∀ f ∈ semicolonMissing.session.fixesOf "file:///w/a.js",
      f.text.text?.isSome = true ∧ f.diagnostic.code.text?.isSome = true := by
    decide +kernel
  have hstr : ∀ {v : Json}, v.text?.isSome = true → ∃ text, v = .str text := by
    intro v hv
    cases v <;> simp_all [Json.text?]
  refine ⟨by decide +kernel, (quick_fixes_are_offered (some "/w") .standard
    (.fresh "marlint" "lint_text" none false) _ _ "file:///w/a.js"
    (fun f hf => hstr (htexts f hf).1) fun f hf => ?_).2.2.1⟩
  obtain ⟨text, htext⟩ := hstr (htexts f hf).2
  rw [htext]
  trivial

/-- Asking after the report that was published last comes back exactly if every message that has
its diagnostic asked about and brings a fix with a range of two whole numbers brings a text with
it. -/
theorem LastPublished.codeActions_returns_iff
    (h : c₀.LastPublished acts before k m v report source) (marks : List Mark) :
    (∃ actions, (c₀.after acts).session.codeActions v.document.uri marks = .ok actions) ↔
      ∀ problem ∈ (c₀.after before).told report, ∀ d range new,
        Diagnostic.ofProblem (.obj problem) source = .ok d →
        (∃ mark ∈ marks, d.mark.same mark = true) →
        Report.fix? problem = some (range, new) → ∃ text, new = .str text := by
  rw [Session.codeActions_returns_iff (Origin.report before k m v report source rfl h).titled]
  constructor
  · intro htexts problem hproblem d range new hd hasked hfix
    have hmem : problem ∈ ((c₀.after before).told report).filter fun problem =>
        (Report.fix? problem).isSome := List.mem_filter.mpr ⟨hproblem, by rw [hfix]; rfl⟩
    obtain ⟨f, hf, hoffers⟩ := exists_right_of_forall₂ h.offers hmem
    obtain rfl : f.diagnostic = d := Except.ok.inj (hoffers.diagnostic.symm.trans hd)
    obtain ⟨start, stop, hfix', -⟩ := hoffers.fix
    obtain ⟨-, rfl⟩ := Prod.mk.inj (Option.some.inj (hfix'.symm.trans hfix))
    exact htexts f (Session.mem_asked.mpr ⟨hf, hasked⟩)
  · intro hproblems f hf
    obtain ⟨hmem, hasked⟩ := Session.mem_asked.mp hf
    obtain ⟨problem, hproblem, hoffers⟩ := exists_left_of_forall₂ h.offers hmem
    obtain ⟨start, stop, hfix, -⟩ := hoffers.fix
    exact hproblems problem (List.mem_filter.mp hproblem).1 _ _ _ hoffers.diagnostic hasked hfix

/-- Asking for code actions, in any state that a session can come to. If it comes back, then with an
action for every fix that is asked about; if not, then because of a text that is none. Unless nothing
is shown and there are no fixes, they are those of the report that was published last, from which
messages without a range of two whole numbers are left out; and asking comes back exactly if all the
others whose diagnostics are asked about bring a text. -/
theorem code_actions_return_iff (root : Option String) (settings : Settings)
    (resolver : Resolver) (h : Host) (acts : List Act) (uri : String) (marks : List Mark) :
    let c₀ := fresh (.fresh root settings resolver) h
    let c := c₀.after acts
    (∀ actions, c.session.codeActions uri marks = .ok actions ↔
      List.Forall₂ CodeAction.IsMadeOf (c.session.asked uri marks) actions) ∧
    (∀ e, c.session.codeActions uri marks = .error e → ∃ f ∈ c.session.asked uri marks,
      e = .about f.text.inner (fun _ => .notText) ∧ ∀ text, f.text ≠ .str text) ∧
    ((c.shown uri = none ∨ c.shown uri = some []) ∧ c.session.fixesOf uri = [] ∧
        c.session.codeActions uri marks = .ok [] ∨
      ∃ before k m v report source, v.document.uri = uri ∧
        c₀.LastPublished acts before k m v report source ∧
        List.Forall₂ (Report.Offers v.document.text.toList source)
          (((c₀.after before).told report).filter fun problem => (Report.fix? problem).isSome)
          (c.session.fixesOf uri) ∧
        ((∃ actions, c.session.codeActions uri marks = .ok actions) ↔
          ∀ problem ∈ (c₀.after before).told report, ∀ d range new,
            Diagnostic.ofProblem (.obj problem) source = .ok d →
            (∃ mark ∈ marks, d.mark.same mark = true) →
            Report.fix? problem = some (range, new) → ∃ text, new = .str text)) := by
  intro c₀ c
  have horigin : Origin c₀ acts uri := origin_fresh root settings resolver h acts uri
  refine ⟨fun actions => Session.codeActions_eq_ok_iff,
    fun e he => Session.codeActions_eq_error horigin.titled he, ?_⟩
  cases horigin with
  | nothing shown fixes =>
    exact .inl ⟨shown, fixes, Session.codeActions_of_nil fixes marks⟩
  | report before k m v report source document published =>
    subst document
    exact .inr ⟨before, k, m, v, report, source, rfl, published, published.offers,
      published.codeActions_returns_iff marks⟩

end Course

/-- What a linting module answers that finds two problems and can mend both, the first with a text
that is none. -/
def reportOfBadText : Json :=
  .obj [("results", .arr [.obj [("messages", .arr [
    .obj [("message", .str "one"), ("fix", .obj [("range", .arr [.int 0, .int 1]),
      ("text", .int 5)])],
    .obj [("message", .str "two"), ("fix", .obj [("range", .arr [.int 1, .int 2]),
      ("text", .str "y")])]])]])]

/-- A session whose document was validated by that module. -/
def Session.ofBadText : Session :=
  ((Loop.fresh ((Host.fresh ["w"] "/home" "/global" none).edit
      [⟨"/w/marlint.py", .write (.script ⟨true, none, none, none,
        some ("lint_text", .function (.report reportOfBadText))⟩), none⟩])
    (.fresh (some "/w") .standard (.fresh "marlint" "lint_text" none false)) .nowhere false).run
      (.validate ⟨"file:///w/a.js", "xx", .null⟩)).1.session

/-- A text that is none stops the other fix of the document, which is offered when asked about
alone. -/
theorem bad_text_stops_other_fix :
    (Session.ofBadText.codeActions "file:///w/a.js"
      [⟨⟨0, 0⟩, .null, "one"⟩, ⟨⟨0, 0⟩, .null, "two"⟩]).isOk = false ∧
    (Session.ofBadText.codeActions "file:///w/a.js" [⟨⟨0, 0⟩, .null, "two"⟩]).toOption.map
      List.length = some 1 := by
  decide +kernel

end LintBridge
