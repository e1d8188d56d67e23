import LintBridge.Report
import LintBridge.Resolver
import LintBridge.Settings
import LintBridge.TaggedError

/-!
A linting session of one editor. Every document has a number that grows with each validation and
each closing; a validation that comes back with an older number is stale and shows nothing. A
validation begins by taking a number, waits for the workspace's module, and concludes by calling
the module and publishing, in one step.
-/
namespace LintBridge

structure Document where
  uri : String
  text : String
  /-- The editor's number for this text, null if it has none. -/
  version : Json
  deriving Repr, Inhabited

inductive Status where
  | ok
  | skipped
  | stale
  | error
  deriving DecidableEq, Repr

def Status.value : Status → String
  | ok => "ok"
  | skipped => "skipped"
  | stale => "stale"
  | error => "error"

/-- Why a validation ended with an error: the resolver's failure of a number, or a fault while
linting. -/
inductive Cause where
  | resolution (failure : Nat)
  | linting (e : Fault)
  deriving Repr

structure ValidationResult where
  uri : String
  status : Status
  diagnostics : List Diagnostic
  cause : Option Cause
  errorType : Option ErrorType
  deriving Repr

namespace ValidationResult

/-- A validation that ended without diagnostics and without an error. -/
def plain (uri : String) (status : Status) : ValidationResult :=
  ⟨uri, status, [], none, none⟩

def published (uri : String) (diagnostics : List Diagnostic) : ValidationResult :=
  ⟨uri, .ok, diagnostics, none, none⟩

def failed (uri : String) (cause : Cause) (errorType : ErrorType) : ValidationResult :=
  ⟨uri, .error, [], some cause, some errorType⟩

end ValidationResult

/-- What the editor is told: the diagnostics of a document, an error, or a question whether to try
again. -/
inductive Event where
  | publish (uri : String) (diagnostics : List Diagnostic)
  | showError (message : String) (retry : Bool)
  | ask (request : Nat) (message : String)
  deriving Repr

structure Session where
  root : Option String
  settings : Settings
  resolver : Resolver
  /-- The current number of every document that has one. -/
  numbers : List (String × Nat)
  /-- The quick fixes of the diagnostics that were last published. -/
  fixes : List (String × List QuickFix)
  deriving Repr

/-- A validation that waits for the module: its document, the number it took, and the paths of the
document and of its workspace. -/
structure Validation where
  document : Document
  number : Nat
  path : String
  root : String
  deriving Repr

namespace Session

def fresh (root : Option String) (settings : Settings) (resolver : Resolver) : Session :=
  ⟨root, settings, resolver, [], []⟩

/-- A new session; without a resolver of its own it makes one from the configuration. -/
def make (h : Host) (root : Option String) (settings : Settings) (resolver : Option Resolver) :
    Except Fault Session × Host :=
  match resolver with
  | some r => (.ok (fresh root settings r), h)
  | none =>
    let (r, h) := Resolver.make h none none settings.modulePath true
    (r.map (fresh root settings), h)

/-- The workspace, unless it is missing or empty. -/
def workspace? (s : Session) : Option String :=
  Workspace.nonempty s.root

/-- Binds the session to a workspace, and to settings if there are any. -/
def attach (s : Session) (h : Host) (root : Option String) (settings : Option Settings) :
    Session × Host :=
  let s := { s with root := root }
  let s := match settings with
    | some settings =>
      { s with settings := settings, resolver := s.resolver.setModulePath settings.modulePath }
    | none => s
  let shown := root.getD "None"
  (s, h.note .info s!"Linter session initialized for workspace {shown}")

/-! ### Numbers -/

/-- The current number of a document; zero before its first validation. -/
def number (s : Session) (uri : String) : Nat :=
  (s.numbers.lookup uri).getD 0

def bump (s : Session) (uri : String) : Session × Nat :=
  let n := s.number uri + 1
  ({ s with numbers := (uri, n) :: s.numbers.filter fun p => p.1 != uri }, n)

def isCurrent (s : Session) (uri : String) (n : Nat) : Bool :=
  s.numbers.lookup uri == some n

def fixesOf (s : Session) (uri : String) : List QuickFix :=
  (s.fixes.lookup uri).getD []

def storeFixes (s : Session) (uri : String) (fixes : List QuickFix) : Session :=
  { s with fixes := (uri, fixes) :: s.fixes.filter fun p => p.1 != uri }

def dropFixes (s : Session) (uri : String) : Session :=
  { s with fixes := s.fixes.filter fun p => p.1 != uri }

/-! ### Validations -/

/-- Begins to validate a document: none if it is not a file. The number is taken in any case. -/
def begin (s : Session) (h : Host) (d : Document) :
    Except Fault (Option Validation) × Session × Host :=
  let (s, n) := s.bump d.uri
  match Uri.toPath? d.uri with
  | .error e => (.error e, s, h)
  | .ok none => (.ok none, s, h.note .debug s!"Skipping non-file document {d.uri}")
  | .ok (some path) =>
    (.ok (some ⟨d, n, path.toString, s.workspace?.getD path.parent.toString⟩), s, h)

/-- The options that a module is called with: the editor's, and the two paths whatever the editor
says. -/
def optionsFor (s : Session) (v : Validation) : Members :=
  (s.settings.options.put "cwd" (.str v.root)).put "filename" (.str v.path)

/-- Calls a module for a validation and digests its report. -/
def lint (s : Session) (h : Host) (v : Validation) (m : Nat) : Report.Digest × Host :=
  let (report, imports) := LintModule.call h.imports m s.resolver.entryPoint v.document.text
    (s.optionsFor v)
  let h := { h with imports := imports }
  match report with
  | .error e => (.stopped e, h)
  | .ok report =>
    let (linter, asked) := h.linterConfig
    let t := Report.digest report v.document.text.toList s.settings.showWarnings
      (linter.map LinterSection.sourceName)
    let h := if Report.asksSource report s.settings.showWarnings then asked else h
    (t, t.remarks.foldl (fun h remark => h.note .debug remark) h)

/-- Concludes a validation with the module of a number. A fault while linting is logged, and one
whose text cannot be made ends the validation without a result. -/
def concludePresent (s : Session) (h : Host) (v : Validation) (m : Nat) :
    Except Fault ValidationResult × List Event × Session × Host :=
  let uri := v.document.uri
  if !s.isCurrent uri v.number then
    (.ok (.plain uri .stale), [], s, h.note .debug s!"Dropping stale validation for {uri}")
  else
    let (t, h) := s.lint h v m
    match t.fault? with
    | some e =>
      match e.shown with
      | .error flaw => (.error (.unshown flaw), [], s, h)
      | .ok text =>
        (.ok (.failed uri (.linting e) .lintCallError), [], s,
          h.note .warning s!"Linting failed for {v.path}: {text}")
    | none =>
      (.ok (.published uri t.diagnostics), [.publish uri t.diagnostics],
        s.storeFixes uri t.fixes, h)

def conclude (s : Session) (h : Host) (v : Validation) (o : Outcome) :
    Except Fault ValidationResult × List Event × Session × Host :=
  match o with
  | .absent => (.ok (.plain v.document.uri .skipped), [], s, h)
  | .failed f =>
    let errorType := ((s.resolver.failure? f).bind Failure.errorType).getD .manifestReadError
    (.ok (.failed v.document.uri (.resolution f) errorType), [], s, h)
  | .present m => s.concludePresent h v m

/-- Closes a document: validations under way become stale, and nothing is shown for it. -/
def close (s : Session) (uri : String) : List Event × Session :=
  let (s, _) := s.bump uri
  ([.publish uri []], s.dropFixes uri)

/-! ### What the user is told -/

/-- Is a failure told? One that arose while linting is not, and none is told twice. -/
def isTold (f : Failure) (errorType : Option ErrorType) : Bool :=
  errorType != some .lintCallError && !f.surfaced

/-- What is told about a result, and the failure it is about. -/
def notice (s : Session) (result : ValidationResult) : Except Fault (Option (Nat × String × Bool)) :=
  match result.cause with
  | some (.resolution id) =>
    match s.resolver.failure? id with
    | none => .ok none
    | some f =>
      if isTold f result.errorType then do
        return some (id, ← noticeFor f.fault.shown (some result.uri), f.retry)
      else .ok none
  | _ => .ok none

def markTold (s : Session) (id : Nat) : Session :=
  { s with resolver := s.resolver.markSurfaced id }

def markNotice (s : Session) (notice : Nat × String × Bool) : Session :=
  s.markTold notice.1

/-- Notes of the failure that an outcome is that the user has been told. -/
def markOutcome (s : Session) : Outcome → Session
  | .failed id => s.markTold id
  | _ => s

/-- What is told when the module was only resolved: none for outcomes that are no news. -/
def warmUpNotice (s : Session) (o : Outcome) : Except Fault (Option (Nat × String × Bool)) :=
  match o with
  | .failed id =>
    match s.resolver.failure? id with
    | none => .ok none
    | some f =>
      if isTold f none then do return some (id, ← noticeFor f.fault.shown none, f.retry)
      else .ok none
  | _ => .ok none

/-! ### Settings and the workspace -/

/-- Applies a payload of changed settings and forgets all modules. Without a payload the settings
stay. -/
def applySettings (s : Session) (h : Host) (payload : Json) : Except Fault Session × Host :=
  let settings := if payload.isNull then .ok s.settings else Settings.ofPayload h.home payload
  match settings with
  | .error e => (.error e, h)
  | .ok settings =>
    let (resolver, h) := (s.resolver.setModulePath settings.modulePath).reset h
    (.ok { s with settings := settings, resolver := resolver },
      h.note .info "Settings changed, revalidating open documents")

def forgetAttempts (s : Session) (h : Host) : Session :=
  { s with resolver := s.resolver.invalidate h none }

end Session

end LintBridge
