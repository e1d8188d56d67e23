import LintBridge.Session.Basic

/-!
Code actions: the quick fixes that a session has for the diagnostics an editor asks about.
-/
namespace LintBridge

/-- A replacement that an editor can make for one diagnostic. -/
structure CodeAction where
  title : String
  diagnostic : Diagnostic
  range : Range
  newText : String
  deriving Repr

namespace CodeAction

def titleFor (ruleId : Json) : Except Json.ShowFlaw String :=
  if ruleId.truthy then ruleId.display.map fun rule => s!"Fix this {rule} problem"
  else .ok "Fix this problem"

/-- The action that makes a quick fix. Its text has to be a text. -/
def ofFix (f : QuickFix) : Except Fault CodeAction := do
  let title ← Fault.needText (titleFor f.ruleId)
  let text ← Diagnostic.textOf f.text
  return ⟨title, f.diagnostic, f.range, text⟩

end CodeAction

/-- The actions for the diagnostics with these marks, in the order of the report. -/
def Session.codeActions (s : Session) (uri : String) (marks : List Mark) :
    Except Fault (List CodeAction) :=
  ((s.fixesOf uri).filter fun f => marks.any (f.diagnostic.mark.same ·)).mapM CodeAction.ofFix

end LintBridge
