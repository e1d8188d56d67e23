import LintBridge.Diagnostic

/-!
Reports of a linting module. Only the first result of a report is read. Each of its messages that
is kept gives one diagnostic, and a quick fix if its fix has a range of exactly two whole numbers.
The first fault ends the digest; what was noted on the way is kept.
-/
namespace LintBridge.Report

/-- What a report comes to: every kept message's diagnostic, with its quick fix if it has one; the
remarks about fixes that were left out; and the fault that ended it, if any. -/
structure Digest where
  entries : List (Diagnostic × Option QuickFix)
  remarks : List String
  fault? : Option Fault
  deriving Repr, Inhabited

namespace Digest

def nothing : Digest := ⟨[], [], none⟩

def stopped (e : Fault) : Digest := ⟨[], [], some e⟩

def diagnostics (d : Digest) : List Diagnostic :=
  d.entries.map Prod.fst

def fixes (d : Digest) : List QuickFix :=
  d.entries.filterMap Prod.snd

end Digest

/-- The two whole numbers of a fix's range. -/
def fixRange? (fix : Members) : Option (Int × Int) :=
  match fix.get? "range" with
  | some (.arr [a, b]) =>
    match a.whole?, b.whole? with
    | some start, some stop => some (start, stop)
    | _, _ => none
  | _ => none

/-- The remark about a fix that is left out, which shows the fix. -/
def malformedFix (problem fix : Members) : Except Fault String := do
  let rule ← Fault.needText (Diagnostic.codeOf problem).display
  let shown ← Fault.needText (Json.obj fix).display
  return s!"Ignoring malformed fix for rule {rule}: {shown}"

/-- The quick fix that a message offers for its diagnostic, or a remark. -/
def quickFix (problem : Members) (diagnostic : Diagnostic) (text : List Char) :
    Except Fault (Option QuickFix × List String) :=
  match problem.get? "fix" with
  | some (.obj fix) =>
    match fixRange? fix with
    | some (start, stop) =>
      .ok (some ⟨diagnostic, Diagnostic.codeOf problem,
        ⟨Position.ofOffset text start, Position.ofOffset text stop⟩,
        (Members.get? fix "text").getD (.str "")⟩, [])
    | none => (malformedFix problem fix).map fun remark => (none, [remark])
  | _ => .ok (none, [])

def isKept (showWarnings : Bool) (problem : Members) : Bool :=
  showWarnings || Diagnostic.isSevere problem

/-- Digests messages until the first fault. -/
def digestMessages (text : List Char) (showWarnings : Bool) (source : Except Fault Json) :
    List Json → Digest
  | [] => .nothing
  | .obj problem :: rest =>
    if isKept showWarnings problem then
      match Diagnostic.ofProblem (.obj problem) source with
      | .error e => .stopped e
      | .ok d =>
        match quickFix problem d text with
        | .error e => .stopped e
        | .ok (fix, remarks) =>
          let after := digestMessages text showWarnings source rest
          ⟨(d, fix) :: after.entries, remarks ++ after.remarks, after.fault?⟩
    else digestMessages text showWarnings source rest
  | v :: _ => .stopped (.noMember v.typeName "get")

/-- The first of the results, which do not count as false. -/
def firstResult : Json → Except Fault Json
  | .arr (first :: _) => .ok first
  | .str s => .ok (.str (String.ofList (s.toList.take 1)))
  | .obj _ => .error (.noKey "0")
  | v => .error (.notSubscriptable v.typeName)

def messagesOf (result : Json) : Except Fault (List Json) :=
  match result with
  | .obj result =>
    let messages := Json.ofOption (Members.get? result "messages")
    if messages.truthy then messages.items else .ok []
  | v => .error (.noMember v.typeName "get")

/-- The messages of a report's first result; none if there are no results. -/
def messages (report : Json) : Except Fault (List Json) :=
  match report with
  | .obj report =>
    let results := Json.ofOption (Members.get? report "results")
    if results.truthy then firstResult results >>= messagesOf else .ok []
  | v => .error (.noMember v.typeName "get")

def digest (report : Json) (text : List Char) (showWarnings : Bool)
    (source : Except Fault Json) : Digest :=
  match messages report with
  | .error e => .stopped e
  | .ok problems => digestMessages text showWarnings source problems

/-- Does digesting a report ask where its diagnostics come from? It does once a kept message has
a text and a position. -/
def asksSource (report : Json) (showWarnings : Bool) : Bool :=
  match messages report with
  | .error _ => false
  | .ok problems =>
    let asked := problems.find? fun problem =>
      match problem with
      | .obj problem => isKept showWarnings problem
      | _ => true
    match asked with
    | some (.obj problem) =>
      match Diagnostic.messageOf problem, Diagnostic.positionOf problem with
      | .ok _, .ok _ => true
      | _, _ => false
    | _ => false

end LintBridge.Report
