import LintBridge.Loop
import LintBridge.Proofs.Session.CodeAction

/-! What is left of a document's diagnostics when its validation is skipped because there is no
module: everything. The list that was shown before stays, with its quick fixes, until something
else happens to the document; so nothing is shown only if nothing was shown before. -/

namespace LintBridge

namespace Happening

/-- The document that something has happened to. -/
def uri : Happening → String
  | began _ u => u
  | ended _ r _ _ => r.uri
  | closed u _ => u

variable {u : String}

/-- What happens to other documents shows nothing for this one. -/
theorem lastList_of_others {hs : List Happening} (whole : ∀ x ∈ hs, x.Whole)
    (others : ∀ x ∈ hs, x.uri ≠ u) : Event.lastList (hs.flatMap events) u = none := by
  induction hs with
  | nil => rfl
  | cons x hs ih =>
    have hx : Event.lastList x.events u = none := by
      have hw := whole x List.mem_cons_self
      have ho := others x List.mem_cons_self
      cases x with
      | began k u' => rfl
      | ended k r es fs =>
        obtain ⟨rfl, -⟩ := hw
        simp only [events]
        split
        · exact Event.lastList_publish_of_ne _ ho
        · rfl
      | closed u' es =>
        obtain rfl : es = [.publish u' []] := hw
        exact Event.lastList_publish_of_ne _ ho
    rw [List.flatMap_cons, Event.lastList_append, hx, Option.or_none]
    exact ih (fun y hy => whole y (List.mem_cons_of_mem _ hy))
      fun y hy => others y (List.mem_cons_of_mem _ hy)

/-- What happens to other documents leaves this one its quick fixes. -/
theorem fixesLeft_of_others (before : List Happening) {hs : List Happening}
    (others : ∀ x ∈ hs, x.uri ≠ u) : fixesLeft (before ++ hs) u = fixesLeft before u := by
  have hnone : hs.reverse.findSome? (fixes? u) = none := by
    rw [List.findSome?_eq_none_iff]
    intro x hx
    have ho := others x (List.mem_reverse.mp hx)
    cases x with
    | began k u' => rfl
    | ended k r es fs => exact if_neg fun h => ho h.1
    | closed u' es => exact if_neg ho
  rw [fixesLeft, List.reverse_append, List.findSome?_append, hnone]
  rfl

end Happening

namespace Course

variable {c : Course}

/-- Where only other documents are concerned, what is shown for this one and its fixes stay. -/
theorem Sound.stays_of_others {c' : Course} (hc : c.Sound) (hc' : c'.Sound)
    {new : List Happening} (grown : c'.history = c.history ++ new) {uri : String}
    (others : ∀ x ∈ new, x.uri ≠ uri) :
    c'.shown uri = c.shown uri ∧ c'.session.fixesOf uri = c.session.fixesOf uri := by
  have hwhole : ∀ x ∈ new, x.Whole := fun x hx =>
    hc'.whole x (grown ▸ List.mem_append_right _ hx)
  constructor
  · rw [shown, events_append grown, Event.lastList_append,
      Happening.lastList_of_others hwhole others]
    rfl
  · rw [hc'.fixes, hc.fixes, grown, Happening.fixesLeft_of_others _ others]

/-- Is nothing of a document left: no diagnostics on the screen, and no quick fixes? -/
def IsClear (c : Course) (uri : String) : Prop :=
  (∀ ds, c.shown uri = some ds → ds = []) ∧ ∀ marks, c.session.codeActions uri marks = .ok []

/-- After a validation that was skipped for want of a module, while nothing else happens to its
document, the list that is shown for the document and its quick fixes are those of before; so it is
clear exactly if no diagnostics were shown. -/
theorem skipped_document_is_clear_iff (root : Option String) (settings : Settings)
    (resolver : Resolver) (h : Host) (before later : List Act) {c₀ : Course} {k : Nat}
    {v : Validation} (reached : c₀ = (fresh (.fresh root settings resolver) h).after before)
    (waits : c₀.waiting.lookup k = some v)
    (others : ∀ x ∈ ((c₀.act (.conclude k .absent)).after later).history.drop
      (c₀.act (.conclude k .absent)).history.length, x.uri ≠ v.document.uri) :
    let skipped := c₀.act (.conclude k .absent)
    let c := skipped.after later
    skipped.history = c₀.history ++ [.ended k (.plain v.document.uri .skipped) [] []] ∧
    c.shown v.document.uri = c₀.shown v.document.uri ∧
    c.session.fixesOf v.document.uri = c₀.session.fixesOf v.document.uri ∧
    (c.IsClear v.document.uri ↔ ∀ ds, c₀.shown v.document.uri = some ds → ds = []) := by
  intro skipped c
  have hc₀ : c₀.Sound := by
    rw [reached]
    exact (sound_fresh root settings resolver h).after before
  have hskipped : skipped.Sound := hc₀.act _
  have hact : skipped = c₀.conclude k v .absent := by simp only [skipped, act, waits]
  have hhistory : skipped.history =
      c₀.history ++ [.ended k (.plain v.document.uri .skipped) [] []] := by
    rw [hact]
    rfl
  obtain ⟨new, hgrown⟩ := skipped.grown_after later
  have hnew : c.history.drop skipped.history.length = new := by
    rw [hgrown.history, List.drop_left]
  have hstays := hskipped.stays_of_others (hskipped.after later) hgrown.history (hnew ▸ others)
  have hshown : c.shown v.document.uri = c₀.shown v.document.uri :=
    hstays.1.trans (shown_of_silent rfl hhistory _)
  have hfixes : c.session.fixesOf v.document.uri = c₀.session.fixesOf v.document.uri := by
    rw [hstays.2, hact]
    rfl
  refine ⟨hhistory, hshown, hfixes, ?_, ?_⟩
  · intro hclear ds hds
    exact hclear.1 ds (hshown.trans hds)
  · intro hempty
    refine ⟨fun ds hds => hempty ds (hshown.symm.trans hds), fun marks => ?_⟩
    have hsublist :=
      reached ▸ (origin_fresh root settings resolver h before v.document.uri).fixes_sublist
    have hnil : (c₀.shown v.document.uri).getD [] = [] := by
      cases hs : c₀.shown v.document.uri with
      | none => rfl
      | some ds => exact hempty ds hs
    rw [hnil, List.sublist_nil, List.map_eq_nil_iff] at hsublist
    exact Session.codeActions_of_nil (hfixes.trans hsublist) marks

/-- The document with the missing semicolon is being validated again. -/
def semicolonMissingAgain : Course :=
  semicolonMissing.act (.begin 1 ⟨"file:///w/a.js", "let x", .null⟩)

/-- There is no module any more: the document is not clear. -/
theorem missing_semicolon_stays :
    ¬ (semicolonMissingAgain.act (.conclude 1 .absent)).IsClear "file:///w/a.js" := by
  have hwaits : (semicolonMissingAgain.waiting.lookup 1).map (fun v => v.document.uri) =
      some "file:///w/a.js" := by
    decide +kernel
  have hshown : (semicolonMissingAgain.shown "file:///w/a.js").map List.length = some 1 := by
    decide +kernel
  obtain ⟨v, hv, huri⟩ := Option.map_eq_some_iff.mp hwaits
  obtain ⟨ds, hds, hone⟩ := Option.map_eq_some_iff.mp hshown
  intro hclear
  rw [← huri] at hds hclear
  obtain rfl := (skipped_document_is_clear_iff (some "/w") .standard
    (.fresh "marlint" "lint_text" none false) _
    [.begin 0 ⟨"file:///w/a.js", "let x", .null⟩, .conclude 0 (.present 0),
      .begin 1 ⟨"file:///w/a.js", "let x", .null⟩] [] rfl hv
    (by simp [after])).2.2.2.mp hclear ds hds
  simp at hone

end Course

namespace Loop

/-- A session with one open document, which was validated; then the linting module was removed, and
the session was told that files have changed. -/
def moduleRemoved : Loop × Nat :=
  let document : Document := ⟨"file:///w/a.js", "let x", .null⟩
  let l := ((fresh .withModule (.fresh (some "/w") .standard
    (.fresh "marlint" "lint_text" none false)) (.given [document]) false).run
      (.validate document)).1
  { l with host := l.host.edit [⟨"/w/marlint.py", .remove, none⟩] }.run .filesChanged

/-- The validation is skipped, and the diagnostics and quick fixes of the removed module stay. -/
theorem removed_module_leaves_list :
    (moduleRemoved.1.result? moduleRemoved.2).map (fun r => match r with
      | .validations rs => rs.map ValidationResult.status
      | _ => []) = some [.skipped] ∧
    (Event.lastList moduleRemoved.1.events "file:///w/a.js").map List.length = some 1 ∧
    (moduleRemoved.1.session.fixesOf "file:///w/a.js").length = 1 := by
  decide +kernel

end Loop

end LintBridge
