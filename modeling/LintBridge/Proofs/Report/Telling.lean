import LintBridge.Proofs.Report
import LintBridge.Proofs.Text.Position

/-! Which reports are told to the end, and what is told of them. A report of message objects is told
to the end exactly if every kept message describes a diagnostic, and every fix that is left out can be
shown; what a fix says reaches its own quick fix only. Hiding the warnings of a report that is told to
the end leaves its errors and their quick fixes as they are. -/

namespace LintBridge

/-! ### Positions that can be told -/

namespace Position

/-- Can an editor be told this position? -/
def Fits (p : Position) : Prop :=
  p.line ≤ limit ∧ p.character ≤ limit

theorem le_limit_of_checked {field : String} {n : Int} {k : Nat} (h : checked field n = .ok k) :
    k ≤ limit := by
  simp only [checked] at h
  split at h
  · cases h
    omega
  · cases h

theorem fits_of_eq_ok {line character : Int} {p : Position}
    (h : Position.of line character = .ok p) : p.Fits := by
  obtain ⟨l, hline, h⟩ := bind_eq_ok h
  obtain ⟨c, hcharacter, h⟩ := bind_eq_ok h
  obtain rfl := Except.ok.inj h
  exact ⟨le_limit_of_checked hline, le_limit_of_checked hcharacter⟩

/-- In a text that is not longer than the greatest position, every position can be told. -/
theorem fits_ofOffset {text : List Char} (short : text.length ≤ limit) (offset : Int) :
    (ofOffset text offset).Fits := by
  have hbefore : (text.take (clamp text offset)).length ≤ limit :=
    (List.length_take_le _ _).trans ((clamp_le_length _ _).trans short)
  refine ⟨List.count_le_length.trans hbefore, ?_⟩
  exact ((List.takeWhile_sublist _).length_le.trans_eq List.length_reverse).trans hbefore

end Position

namespace Diagnostic

theorem ofProblem_eq_ok {problem : Members} {source : Except Fault Json} {d : Diagnostic}
    (h : ofProblem (.obj problem) source = .ok d) :
    ∃ p, positionOf problem = .ok p ∧ d.range = .point p ∧ d.severity = severityOf problem := by
  obtain ⟨_, -, h⟩ := bind_eq_ok h
  obtain ⟨p, hp, h⟩ := bind_eq_ok h
  obtain ⟨_, -, h⟩ := bind_eq_ok h
  obtain ⟨_, -, h⟩ := bind_eq_ok h
  obtain ⟨_, -, h⟩ := bind_eq_ok h
  obtain rfl := Except.ok.inj h
  exact ⟨p, hp, rfl, rfl⟩

theorem fits_of_positionOf {problem : Members} {p : Position} (h : positionOf problem = .ok p) :
    p.Fits := by
  obtain ⟨_, -, h⟩ := bind_eq_ok h
  obtain ⟨_, -, h⟩ := bind_eq_ok h
  exact Position.fits_of_eq_ok h

theorem severity_eq_error_iff {problem : Members} {source : Except Fault Json} {d : Diagnostic}
    (h : ofProblem (.obj problem) source = .ok d) :
    d.severity = .error ↔ isSevere problem = true := by
  obtain ⟨p, -, -, hseverity⟩ := ofProblem_eq_ok h
  rw [hseverity, severityOf]
  cases isSevere problem <;> simp

end Diagnostic

namespace Report

variable {text : List Char} {showWarnings : Bool} {source : Except Fault Json}
  {problem problem' : Members} {problems problems' : List Members} {report report' : Json}
  {entry : Diagnostic × Option QuickFix} {entries : List (Diagnostic × Option QuickFix)}

/-! ### Messages and their fixes -/

/-- The first result of a report holds these message objects. -/
def Holds (report : Json) (problems : List Members) : Prop :=
  ∃ members result later, report = .obj members ∧
    Members.get? members "results" = some (.arr (.obj result :: later)) ∧
    Members.get? result "messages" = some (.arr (problems.map .obj))

theorem Holds.messages_eq (h : Holds report problems) :
    messages report = .ok (problems.map .obj) := by
  obtain ⟨members, result, later, rfl, hresults, hmessages⟩ := h
  have hof : messagesOf (.obj result) = .ok (problems.map .obj) := by
    cases problems <;> simp [messagesOf, hmessages, Json.ofOption, Json.truthy, Json.items]
  simp [messages, hresults, Json.ofOption, Json.truthy, firstResult, hof, bind, Except.bind]

theorem Holds.digest_eq (h : Holds report problems) :
    digest report text showWarnings source =
      digestMessages text showWarnings source (problems.map .obj) := by
  simp only [digest, h.messages_eq]

/-- A message brings a fix: its fix is an object whose range is a list of exactly two whole numbers.
Without a text the new text is empty. -/
def BringsFix (problem : Members) (start stop : Int) (new : Json) : Prop :=
  ∃ fix a b, problem.get? "fix" = some (.obj fix) ∧
    Members.get? fix "range" = some (.arr [a, b]) ∧ a.whole? = some start ∧ b.whole? = some stop ∧
    new = (Members.get? fix "text").getD (.str "")

theorem fixRange?_eq_some_iff {fix : Members} {start stop : Int} :
    fixRange? fix = some (start, stop) ↔
      ∃ a b, fix.get? "range" = some (.arr [a, b]) ∧ a.whole? = some start ∧
        b.whole? = some stop := by
  simp only [fixRange?]
  constructor
  · intro h
    split at h
    · rename_i a b hrange
      split at h
      · rename_i ha hb
        cases h
        exact ⟨a, b, hrange, ha, hb⟩
      · cases h
    · cases h
  · rintro ⟨a, b, hrange, ha, hb⟩
    simp only [hrange, ha, hb]

theorem fix?_eq_some_iff {start stop : Int} {new : Json} :
    fix? problem = some ((start, stop), new) ↔ BringsFix problem start stop new := by
  simp only [fix?, BringsFix]
  constructor
  · intro h
    split at h
    · rename_i fix hfix
      obtain ⟨range, hrange, heq⟩ := Option.map_eq_some_iff.mp h
      cases heq
      obtain ⟨a, b, hlist, ha, hb⟩ := fixRange?_eq_some_iff.mp hrange
      exact ⟨fix, a, b, hfix, hlist, ha, hb, rfl⟩
    · cases h
  · rintro ⟨fix, a, b, hfix, hlist, ha, hb, rfl⟩
    simp only [hfix, fixRange?_eq_some_iff.mpr ⟨a, b, hlist, ha, hb⟩, Option.map_some]

/-- What a message is told as: the diagnostic that it describes, and a quick fix for this diagnostic
exactly if the message brings a fix. -/
structure IsTold (text : List Char) (source : Except Fault Json) (problem : Members)
    (entry : Diagnostic × Option QuickFix) : Prop where
  diagnostic : Diagnostic.ofProblem (.obj problem) source = .ok entry.1
  fix : ∀ f, entry.2 = some f ↔ ∃ start stop new, BringsFix problem start stop new ∧
    f = ⟨entry.1, Diagnostic.codeOf problem, ⟨.ofOffset text start, .ofOffset text stop⟩, new⟩

theorem Gives.isTold (h : Gives text source problem entry) : IsTold text source problem entry where
  diagnostic := h.diagnostic
  fix f := by
    obtain ⟨_, hquick⟩ := h.fix
    have hfix : entry.2 = _ := quickFix_fst hquick
    rw [hfix, Option.map_eq_some_iff]
    constructor
    · rintro ⟨⟨⟨start, stop⟩, new⟩, hfix, rfl⟩
      exact ⟨start, stop, new, fix?_eq_some_iff.mp hfix, rfl⟩
    · rintro ⟨start, stop, new, hfix, rfl⟩
      exact ⟨_, fix?_eq_some_iff.mpr hfix, rfl⟩

/-! ### Where a diagnostic and a quick fix point -/

theorem Gives.isPoint (h : Gives text source problem entry) :
    ∃ p, entry.1.range = .point p ∧ p.Fits := by
  obtain ⟨p, hp, hrange, -⟩ := Diagnostic.ofProblem_eq_ok h.diagnostic
  exact ⟨p, hrange, Diagnostic.fits_of_positionOf hp⟩

theorem Offers.isIn {f : QuickFix} (h : Offers text source problem f) :
    f.range.start.IsIn text ∧ f.range.stop.IsIn text := by
  obtain ⟨start, stop, -, hrange⟩ := h.fix
  rw [hrange]
  exact ⟨(Position.offset_after (Position.clamp_le_length text start)).1,
    (Position.offset_after (Position.clamp_le_length text stop)).1⟩

theorem Offers.fits {f : QuickFix} (h : Offers text source problem f)
    (short : text.length ≤ Position.limit) : f.range.start.Fits ∧ f.range.stop.Fits := by
  obtain ⟨start, stop, -, hrange⟩ := h.fix
  rw [hrange]
  exact ⟨Position.fits_ofOffset short start, Position.fits_ofOffset short stop⟩

/-! ### What ends a digest -/

theorem kept_map_obj (problems : List Members) :
    kept showWarnings (problems.map .obj) = problems.filter (isKept showWarnings) := by
  induction problems with
  | nil => rfl
  | cons problem rest ih =>
    cases hkept : isKept showWarnings problem <;> simp [kept, hkept, ih]

/-- Only a kept message ends a digest: one that describes no diagnostic, or whose fix is to be left
out and cannot be shown. -/
theorem fault?_digestMessages_eq_none_iff (problems : List Members) :
    (digestMessages text showWarnings source (problems.map .obj)).fault? = none ↔
      ∀ problem ∈ problems.filter (isKept showWarnings),
        (∃ d, Diagnostic.ofProblem (.obj problem) source = .ok d) ∧ ShowsFix problem := by
  induction problems with
  | nil => simp [digestMessages, Digest.nothing]
  | cons problem rest ih =>
    simp only [List.map_cons, digestMessages]
    cases hkept : isKept showWarnings problem with
    | false => simpa [hkept] using ih
    | true =>
      cases hd : Diagnostic.ofProblem (.obj problem) source with
      | error e => simp [hkept, hd, Digest.stopped]
      | ok d =>
        have hshows : (∃ x, quickFix problem d text = .ok x) ↔ ShowsFix problem :=
          exists_quickFix_iff hd
        cases hfix : quickFix problem d text with
        | error e =>
          have hnot : ¬ ShowsFix problem := by simp [← hshows, hfix]
          simp [hkept, hfix, hnot, Digest.stopped]
        | ok x =>
          have hshown : ShowsFix problem := hshows.mp ⟨x, hfix⟩
          simpa [hkept, hd, hfix, hshown] using ih

/-! ### What a fix does not reach -/

/-- Two messages say the same but for their fixes. -/
def AgreesButFix (problem problem' : Members) : Prop :=
  ∀ key, key ≠ "fix" → problem'.get? key = problem.get? key

theorem AgreesButFix.isSevere_eq (h : AgreesButFix problem problem') :
    Diagnostic.isSevere problem' = Diagnostic.isSevere problem := by
  simp only [Diagnostic.isSevere, h "severity" (by decide)]

theorem AgreesButFix.ofProblem_eq (h : AgreesButFix problem problem') :
    Diagnostic.ofProblem (.obj problem') source = Diagnostic.ofProblem (.obj problem) source := by
  have hposition : Diagnostic.positionOf problem' = Diagnostic.positionOf problem := by
    simp only [Diagnostic.positionOf, h "line" (by decide), h "column" (by decide)]
  have hcode : Diagnostic.codeOf problem' = Diagnostic.codeOf problem := by
    simp only [Diagnostic.codeOf, h "ruleId" (by decide)]
  have hmessage : Diagnostic.messageOf problem' = Diagnostic.messageOf problem := by
    simp only [Diagnostic.messageOf, hcode, h "message" (by decide)]
  simp only [Diagnostic.ofProblem, hposition, hcode, hmessage, Diagnostic.severityOf, h.isSevere_eq]

theorem diagnostics_digestMessages_congr (h : List.Forall₂ AgreesButFix problems problems')
    (shows : ∀ problem ∈ problems.filter (isKept showWarnings), ShowsFix problem)
    (shows' : ∀ problem ∈ problems'.filter (isKept showWarnings), ShowsFix problem) :
    (digestMessages text showWarnings source (problems'.map .obj)).fault? =
        (digestMessages text showWarnings source (problems.map .obj)).fault? ∧
      (digestMessages text showWarnings source (problems'.map .obj)).diagnostics =
        (digestMessages text showWarnings source (problems.map .obj)).diagnostics := by
  induction h with
  | nil => exact ⟨rfl, rfl⟩
  | @cons problem problem' rest rest' hagrees _ ih =>
    have hkept : isKept showWarnings problem' = isKept showWarnings problem := by
      rw [isKept, isKept, hagrees.isSevere_eq]
    simp only [List.map_cons, digestMessages, hkept, hagrees.ofProblem_eq]
    cases hk : isKept showWarnings problem with
    | false =>
      simp only [List.filter_cons, hk, hkept, Bool.false_eq_true, ↓reduceIte] at shows shows'
      exact ih shows shows'
    | true =>
      simp only [List.filter_cons, hk, hkept, ↓reduceIte, List.forall_mem_cons] at shows shows'
      have hrest := ih shows.2 shows'.2
      cases hd : Diagnostic.ofProblem (.obj problem) source with
      | error e => exact ⟨rfl, rfl⟩
      | ok d =>
        obtain ⟨x, hfix⟩ : ∃ x, quickFix problem d text = .ok x :=
          (exists_quickFix_iff hd).mpr shows.1
        obtain ⟨x', hfix'⟩ : ∃ x, quickFix problem' d text = .ok x :=
          (exists_quickFix_iff (hagrees.ofProblem_eq.trans hd)).mpr shows'.1
        simp only [hfix, hfix']
        exact ⟨hrest.1, congrArg (List.cons d) hrest.2⟩

/-- A report of message objects is told to the end exactly if every kept message describes a
diagnostic and no fix that is to be left out is one that cannot be shown. Then the kept messages are
told in order, the quick fixes lie in the text, and every position can be told. Whatever the later
results are, all is the same; and whatever the fixes are, the diagnostics are, as long as those that
are left out can be shown. -/
theorem kept_messages_are_told (report : Json) (problems : List Members) (text : List Char)
    (showWarnings : Bool) (source : Except Fault Json) (holds : Holds report problems)
    (short : text.length < 2 ^ 31) :
    ((digest report text showWarnings source).fault? = none ↔
      ∀ problem ∈ problems.filter (isKept showWarnings),
        (∃ d, Diagnostic.ofProblem (.obj problem) source = .ok d) ∧ ShowsFix problem) ∧
    ((digest report text showWarnings source).fault? = none →
      (∃ entries,
        List.Forall₂ (IsTold text source) (problems.filter (isKept showWarnings)) entries ∧
        (digest report text showWarnings source).diagnostics = entries.map Prod.fst ∧
        (digest report text showWarnings source).fixes = entries.filterMap Prod.snd) ∧
      (∀ d ∈ (digest report text showWarnings source).diagnostics,
        ∃ p, d.range = .point p ∧ p.Fits) ∧
      ∀ f ∈ (digest report text showWarnings source).fixes,
        (f.range.start.IsIn text ∧ f.range.stop.IsIn text) ∧
          f.range.start.Fits ∧ f.range.stop.Fits) ∧
    (∀ report', Holds report' problems →
      digest report' text showWarnings source = digest report text showWarnings source) ∧
    ∀ report' problems', Holds report' problems' → List.Forall₂ AgreesButFix problems problems' →
      (∀ problem ∈ problems.filter (isKept showWarnings), ShowsFix problem) →
      (∀ problem ∈ problems'.filter (isKept showWarnings), ShowsFix problem) →
      (digest report' text showWarnings source).fault? =
          (digest report text showWarnings source).fault? ∧
        (digest report' text showWarnings source).diagnostics =
          (digest report text showWarnings source).diagnostics := by
  rw [holds.digest_eq]
  refine ⟨fault?_digestMessages_eq_none_iff problems, fun whole => ?_,
    fun report' holds' => holds'.digest_eq, ?_⟩
  · have hgives := gives_digestMessages whole
    rw [kept_map_obj] at hgives
    refine ⟨⟨_, hgives.imp fun _ _ h => h.isTold, rfl, rfl⟩, ?_, ?_⟩
    · intro d hd
      obtain ⟨entry, hentry, rfl⟩ := List.mem_map.mp hd
      obtain ⟨problem, -, h⟩ := exists_left_of_forall₂ hgives hentry
      exact h.isPoint
    · intro f hf
      obtain ⟨problem, -, h⟩ := exists_left_of_forall₂ (offers_fixes hgives) hf
      exact ⟨h.isIn, h.fits (Nat.le_of_lt_succ short)⟩
  · intro report' problems' holds' hagree shows shows'
    rw [holds'.digest_eq]
    exact diagnostics_digestMessages_congr hagree shows shows'

/-- An error without a fix, and a warning whose range is a truth value and a number beyond the text:
both are told, and the fix of the second reaches from the second character to the end. -/
theorem two_messages_are_told :
    let text := ['x', 'y', '\n', 'z']
    let problems : List Members := [
      [("severity", .int 2), ("line", .int 3), ("message", .str "a")],
      [("severity", .int 1), ("message", .str "b"),
        ("fix", .obj [("range", .arr [.bool true, .int 9])])]]
    let report : Json :=
      .obj [("results", .arr [.obj [("messages", .arr (problems.map .obj))], .null])]
    Holds report problems ∧ text.length < 2 ^ 31 ∧
      (digest report text true (.ok .null)).fault? = none ∧
      (digest report text true (.ok .null)).diagnostics.map Diagnostic.mark =
        [⟨⟨2, 0⟩, .null, "a"⟩, ⟨⟨0, 0⟩, .null, "b"⟩] ∧
      (digest report text true (.ok .null)).fixes.map QuickFix.range = [⟨⟨0, 1⟩, ⟨1, 1⟩⟩] ∧
      ∀ f ∈ (digest report text true (.ok .null)).fixes,
        f.range.start.IsIn text ∧ f.range.stop.IsIn text := by
  intro text problems report
  have holds : Holds report problems := ⟨_, _, _, rfl, rfl, rfl⟩
  have short : text.length < 2 ^ 31 := by decide
  obtain ⟨hiff, htold, -⟩ :=
    kept_messages_are_told report problems text true (.ok .null) holds short
  have whole := hiff.mpr (by
    intro problem hproblem
    obtain rfl | rfl : problem = problems[0] ∨ problem = problems[1] := by
      simpa [problems, isKept] using hproblem
    · exact ⟨⟨_, rfl⟩, fun fix hfix => by cases hfix⟩
    · exact ⟨⟨_, rfl⟩, fun fix hfix hrange => by cases hfix; cases hrange⟩)
  exact ⟨holds, short, whole, rfl, rfl, fun f hf => ((htold whole).2.2 f hf).1⟩

/-- A message that describes a diagnostic, whose fix has a range of one number that is too long to be
shown, ends the digest with a fault. -/
theorem unshown_fix_stops_report :
    let problem : Members :=
      [("message", .str "m"), ("fix", .obj [("range", .arr [.int (Int.pow 16 3600)])])]
    let report : Json := .obj [("results", .arr [.obj [("messages", .arr [.obj problem])]])]
    Holds report [problem] ∧
      (Diagnostic.ofProblem (.obj problem) (.ok .null)).toOption.isSome = true ∧
      (digest report ['x'] true (.ok .null)).fault?.map Fault.kind = some "ValueError" := by
  intro problem report
  exact ⟨⟨_, _, _, rfl, rfl, rfl⟩, by decide +kernel, by decide +kernel⟩

/-! ### Hidden warnings -/

/-- What is told without the warnings is what is told with them but for the entries of warnings. -/
theorem entries_digestMessages_hidden {problems : List Json}
    (whole : (digestMessages text true source problems).fault? = none) :
    (digestMessages text false source problems).fault? = none ∧
      (digestMessages text false source problems).entries =
        (digestMessages text true source problems).entries.filter
          fun entry => entry.1.severity = .error := by
  induction problems with
  | nil => exact ⟨rfl, rfl⟩
  | cons v rest ih =>
    cases v with
    | obj problem =>
      cases hd : Diagnostic.ofProblem (.obj problem) source with
      | error e => simp [digestMessages, isKept, hd, Digest.stopped] at whole
      | ok d =>
        have hsevere := Diagnostic.severity_eq_error_iff hd
        simp only [digestMessages, isKept, Bool.true_or, ↓reduceIte, hd] at whole
        cases hfix : quickFix problem d text with
        | error e => simp [hfix, Digest.stopped] at whole
        | ok x =>
          simp only [hfix] at whole
          obtain ⟨hfault, hentries⟩ := ih whole
          cases hs : Diagnostic.isSevere problem with
          | true => simp [digestMessages, isKept, hd, hfix, hs, hsevere, hfault, hentries]
          | false => simp [digestMessages, isKept, hd, hfix, hs, hsevere, hfault, hentries]
    | _ => simp [digestMessages, Digest.stopped] at whole

/-- The quick fixes of errors are those that come with errors. -/
theorem filterMap_filter_severity {problems : List Members}
    (h : List.Forall₂ (Gives text source) problems entries) :
    (entries.filter fun entry => entry.1.severity = .error).filterMap Prod.snd =
      (entries.filterMap Prod.snd).filter fun f => f.diagnostic.severity = .error := by
  rw [List.filterMap_filter, List.filter_filterMap]
  refine List.filterMap_congr fun entry hentry => ?_
  obtain ⟨problem, -, hgives⟩ := exists_left_of_forall₂ h hentry
  cases hfix : entry.2 with
  | none => simp
  | some f =>
    rw [Option.filter_some, (hgives.offers hfix).1]

/-- If a report is told to the end, so it is without its warnings, and what is told then are the
errors and their quick fixes as they were. -/
theorem hiding_warnings_keeps_errors (report : Json) (text : List Char)
    (source : Except Fault Json) (whole : (digest report text true source).fault? = none) :
    (digest report text false source).fault? = none ∧
      (digest report text false source).diagnostics =
        ((digest report text true source).diagnostics.filter fun d => d.severity = .error) ∧
      (digest report text false source).fixes =
        (digest report text true source).fixes.filter fun f => f.diagnostic.severity = .error := by
  have hgives := gives_digest whole
  obtain ⟨hfault, hentries⟩ : (digest report text false source).fault? = none ∧
      (digest report text false source).entries =
        (digest report text true source).entries.filter fun entry => entry.1.severity = .error := by
    simp only [digest] at whole ⊢
    cases hmessages : messages report with
    | error e => simp [hmessages, Digest.stopped] at whole
    | ok problems =>
      rw [hmessages] at whole
      exact entries_digestMessages_hidden whole
  refine ⟨hfault, ?_, ?_⟩
  · rw [Digest.diagnostics, Digest.diagnostics, hentries, List.filter_map]
    rfl
  · rw [Digest.fixes, Digest.fixes, hentries]
    exact filterMap_filter_severity hgives

/-- A message whose severity is a text is a warning, and is not told without the warnings; the error
after it is. -/
theorem hiding_warnings_keeps_error_after_warning :
    let report : Json := .obj [("results", .arr [.obj [("messages", .arr [
      .obj [("severity", .str "2"), ("message", .str "a")],
      .obj [("severity", .int 2), ("message", .str "b"),
        ("fix", .obj [("range", .arr [.int 0, .int 1])])]])]])]
    (digest report ['x'] true (.ok .null)).fault? = none ∧
      (digest report ['x'] false (.ok .null)).fault? = none ∧
      (digest report ['x'] false (.ok .null)).diagnostics.map Diagnostic.message = ["b"] ∧
      (digest report ['x'] false (.ok .null)).fixes.length = 1 := by
  intro report
  have whole : (digest report ['x'] true (.ok .null)).fault? = none := rfl
  obtain ⟨hfault, hdiagnostics, hfixes⟩ :=
    hiding_warnings_keeps_errors report ['x'] (.ok .null) whole
  refine ⟨whole, hfault, ?_, ?_⟩
  · rw [hdiagnostics]
    rfl
  · rw [hfixes]
    rfl

end Report

end LintBridge
