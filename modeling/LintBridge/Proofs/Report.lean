import LintBridge.Proofs.Shown
import LintBridge.Report

/-! What a report comes to, message by message. If nothing stops the digest, every kept message
has given one diagnostic, and every kept message that brings a fix with two whole numbers as its
range has given one quick fix; both stand in the order of the messages. -/

namespace LintBridge

namespace Report

/-! ### What a report holds -/

/-- The kept ones among some messages. -/
def kept (showWarnings : Bool) : List Json → List Members
  | [] => []
  | .obj problem :: rest =>
    if isKept showWarnings problem then problem :: kept showWarnings rest
    else kept showWarnings rest
  | _ :: rest => kept showWarnings rest

/-- The messages of a report that are told: the kept ones of its first result. -/
def told (showWarnings : Bool) (report : Json) : List Members :=
  match messages report with
  | .ok problems => kept showWarnings problems
  | .error _ => []

/-- The range and the text of the fix that a message brings along, if its range is one of two whole
numbers. Without a text it is empty. -/
def fix? (problem : Members) : Option ((Int × Int) × Json) :=
  match problem.get? "fix" with
  | some (.obj fix) =>
    (fixRange? fix).map fun range => (range, (Members.get? fix "text").getD (.str ""))
  | _ => none

variable {text : List Char} {showWarnings : Bool} {source : Except Fault Json} {problem : Members}
  {problems : List Members} {entry : Diagnostic × Option QuickFix}
  {entries : List (Diagnostic × Option QuickFix)}

theorem quickFix_fst {d : Diagnostic} {x : Option QuickFix × List String}
    (h : quickFix problem d text = .ok x) : x.1 = (fix? problem).map fun fix =>
      ⟨d, Diagnostic.codeOf problem,
        ⟨.ofOffset text fix.1.1, .ofOffset text fix.1.2⟩, fix.2⟩ := by
  simp only [quickFix] at h
  simp only [fix?]
  cases hfix : problem.get? "fix" with
  | none =>
    rw [hfix] at h
    obtain rfl := Except.ok.inj h
    rfl
  | some v =>
    rw [hfix] at h
    cases v with
    | obj fix =>
      dsimp only at h ⊢
      cases hrange : fixRange? fix with
      | some range =>
        rw [hrange] at h
        obtain rfl := Except.ok.inj h
        rfl
      | none =>
        rw [hrange] at h
        obtain ⟨remark, -, rfl⟩ := map_eq_ok h
        rfl
    | _ =>
      obtain rfl := Except.ok.inj h
      rfl

/-- If the fix of a message is one to be left out, it has a text. -/
def ShowsFix (problem : Members) : Prop :=
  ∀ fix, problem.get? "fix" = some (.obj fix) → fixRange? fix = none →
    ∃ shown, (Json.obj fix).display = .ok shown

/-- A message that describes a diagnostic gives a quick fix or not, unless its fix has no text where
the remark about it needs one. -/
theorem exists_quickFix_iff {d d' : Diagnostic}
    (hd : Diagnostic.ofProblem (.obj problem) source = .ok d') :
    (∃ x, quickFix problem d text = .ok x) ↔ ShowsFix problem := by
  obtain ⟨rule, hrule⟩ := Diagnostic.display_codeOf hd
  simp only [quickFix, ShowsFix]
  cases hfix : problem.get? "fix" with
  | none => simp
  | some v =>
    cases v with
    | obj fix =>
      cases hrange : fixRange? fix with
      | some range => simp [hrange]
      | none =>
        cases hshown : (Json.obj fix).display with
        | error flaw =>
          simp [hrange, malformedFix, hrule, hshown, Fault.needText, Except.mapError, bind,
            Except.bind, Except.map]
        | ok shown =>
          simp [hrange, malformedFix, hrule, hshown, Fault.needText, Except.mapError, bind,
            Except.bind, Except.map, pure, Except.pure]
    | _ => simp

/-! ### One message -/

/-- What a message gives: its diagnostic, and the quick fix for it if there is one. -/
structure Gives (text : List Char) (source : Except Fault Json) (problem : Members)
    (entry : Diagnostic × Option QuickFix) : Prop where
  diagnostic : Diagnostic.ofProblem (.obj problem) source = .ok entry.1
  fix : ∃ remarks, quickFix problem entry.1 text = .ok (entry.2, remarks)

/-- The quick fix that a message gives: for its own diagnostic, with the rule that it names, from
the position of the first offset to that of the second. -/
structure Offers (text : List Char) (source : Except Fault Json) (problem : Members)
    (f : QuickFix) : Prop where
  diagnostic : Diagnostic.ofProblem (.obj problem) source = .ok f.diagnostic
  ruleId : f.ruleId = Diagnostic.codeOf problem
  fix : ∃ start stop, fix? problem = some ((start, stop), f.text) ∧
    f.range = ⟨.ofOffset text start, .ofOffset text stop⟩

theorem Gives.offers (h : Gives text source problem entry) {f : QuickFix}
    (hf : entry.2 = some f) : f.diagnostic = entry.1 ∧ Offers text source problem f := by
  obtain ⟨_, hquick⟩ := h.fix
  have hfix := quickFix_fst hquick
  rw [hf] at hfix
  obtain ⟨⟨⟨start, stop⟩, new⟩, hsome, rfl⟩ := Option.map_eq_some_iff.mp hfix.symm
  exact ⟨rfl, h.diagnostic, rfl, start, stop, hsome, rfl⟩

theorem Gives.isSome_fix? (h : Gives text source problem entry) :
    (fix? problem).isSome = entry.2.isSome := by
  obtain ⟨_, hquick⟩ := h.fix
  have hfix : entry.2 = _ := quickFix_fst hquick
  rw [hfix, Option.isSome_map]

/-! ### All messages -/

/-- If nothing stops the digest, the kept messages have given its entries. -/
theorem gives_digestMessages {problems : List Json}
    (whole : (digestMessages text showWarnings source problems).fault? = none) :
    List.Forall₂ (Gives text source) (kept showWarnings problems)
      (digestMessages text showWarnings source problems).entries := by
  induction problems with
  | nil => exact .nil
  | cons v rest ih =>
    cases v with
    | obj problem =>
      simp only [digestMessages, kept] at whole ⊢
      split at whole
      · rename_i hkept
        rw [if_pos hkept, if_pos hkept]
        cases hd : Diagnostic.ofProblem (.obj problem) source with
        | error e => simp [hd, Digest.stopped] at whole
        | ok d =>
          simp only [hd] at whole ⊢
          cases hfix : quickFix problem d text with
          | error e => simp [hfix, Digest.stopped] at whole
          | ok x =>
            simp only [hfix] at whole ⊢
            exact .cons ⟨hd, _, hfix⟩ (ih whole)
      · rename_i hkept
        rw [if_neg hkept, if_neg hkept]
        exact ih whole
    | _ => simp [digestMessages, Digest.stopped] at whole

theorem gives_digest {report : Json}
    (whole : (digest report text showWarnings source).fault? = none) :
    List.Forall₂ (Gives text source) (told showWarnings report)
      (digest report text showWarnings source).entries := by
  simp only [digest, told] at whole ⊢
  cases hmessages : messages report with
  | error e => simp [hmessages, Digest.stopped] at whole
  | ok problems =>
    rw [hmessages] at whole
    exact gives_digestMessages whole

/-- The quick fixes belong to the diagnostics, in order. -/
theorem fixes_sublist (h : List.Forall₂ (Gives text source) problems entries) :
    ((entries.filterMap Prod.snd).map QuickFix.diagnostic).Sublist (entries.map Prod.fst) := by
  induction h with
  | nil => exact .slnil
  | @cons problem entry problems entries hgives _ ih =>
    cases hfix : entry.2 with
    | none =>
      rw [List.filterMap_cons_none hfix]
      exact ih.cons _
    | some f =>
      rw [List.filterMap_cons_some hfix, List.map_cons, (hgives.offers hfix).1]
      exact ih.cons_cons _

/-- The messages whose fixes have a range of two whole numbers, and no others, have given the quick
fixes, in order. -/
theorem offers_fixes (h : List.Forall₂ (Gives text source) problems entries) :
    List.Forall₂ (Offers text source) (problems.filter fun problem => (fix? problem).isSome)
      (entries.filterMap Prod.snd) := by
  induction h with
  | nil => exact .nil
  | @cons problem entry problems entries hgives _ ih =>
    have hsome := hgives.isSome_fix?
    cases hfix : entry.2 with
    | none =>
      rw [hfix] at hsome
      rw [List.filter_cons_of_neg (by simp [hsome]), List.filterMap_cons_none hfix]
      exact ih
    | some f =>
      rw [hfix] at hsome
      rw [List.filter_cons_of_pos (by simp [hsome]), List.filterMap_cons_some hfix]
      exact .cons (hgives.offers hfix).2 ih

end Report

end LintBridge
