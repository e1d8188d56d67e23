import LintBridge.Fault
import LintBridge.Text.Position

/-!
Diagnostics and what a report's message says about one. Lines and columns of a report count from
one and may be written in many ways; positions count from zero and have a greatest value. Two
diagnostics are of one problem if they start at one place with equal codes and messages.
-/
namespace LintBridge

structure Range where
  start : Position
  stop : Position
  deriving DecidableEq, Repr, Inhabited

def Range.point (p : Position) : Range := ⟨p, p⟩

inductive Severity where
  | error
  | warning
  deriving DecidableEq, Repr, Inhabited

def Severity.number : Severity → Nat
  | error => 1
  | warning => 2

def Severity.known : List Json := [.int 1, .int 2, .int 3, .int 4]

/-- Checks that a value, if there is one, is the number of a severity. -/
def Severity.check (v : Json) : Except Fault Unit :=
  if v.isNull || known.any (Json.alike v) then .ok ()
  else .error (.about v.inner .notSeverity)

structure Diagnostic where
  range : Range
  message : String
  severity : Severity
  /-- The rule that was broken, null if none is named. -/
  code : Json
  source : Option String
  deriving Repr, Inhabited

/-- What tells which problem a diagnostic is about. -/
structure Mark where
  start : Position
  code : Json
  message : String
  deriving Repr, Inhabited

def Diagnostic.mark (d : Diagnostic) : Mark :=
  ⟨d.range.start, d.code, d.message⟩

/-- Are two marks about one problem? -/
def Mark.same (a b : Mark) : Bool :=
  a.start = b.start && Json.alike a.code b.code && a.message = b.message

/-- A replacement that is offered for one diagnostic. Its text is checked only when it is used. -/
structure QuickFix where
  diagnostic : Diagnostic
  ruleId : Json
  range : Range
  text : Json
  deriving Repr, Inhabited

namespace Position

/-- A line or character that an editor can be told. -/
def checked (field : String) (n : Int) : Except Fault Nat :=
  if 0 ≤ n ∧ n ≤ limit then .ok n.toNat
  else .error (.about (Json.digits n) (.outOfRange field))

/-- The position with this line and character, the line being checked first. -/
def of (line character : Int) : Except Fault Position := do
  let line ← checked "line" line
  let character ← checked "character" character
  return ⟨line, character⟩

def checkedJson (field : String) (v : Json) : Except Fault Nat :=
  match v.whole? with
  | some n =>
    if 0 ≤ n ∧ n ≤ limit then .ok n.toNat else .error (.about v.display (.outOfRange field))
  | none => .error (.about v.display (.outOfRange field))

def ofJson (line character : Json) : Except Fault Position := do
  let line ← checkedJson "line" line
  let character ← checkedJson "character" character
  return ⟨line, character⟩

/-- The position of an offset given as a value. A fraction is moved into the text like any other
number, and is refused if it stays a fraction. -/
def ofOffsetJson (text : List Char) (offset : Json) : Except Fault Position :=
  match offset with
  | .float x =>
    if x.gtInt text.length then .ok (after text text.length)
    else if x.gtInt 0 then .error .notAnOffset
    else .ok (after text 0)
  | v =>
    match v.whole? with
    | some n => .ok (ofOffset text n)
    | none => .error (.notOrdered "<" "int" v.typeName)

end Position

namespace Json

def toWhole : Json → Except Fault Int
  | .bool b => .ok (if b then 1 else 0)
  | .int n => .ok n
  | .float x =>
    match x.truncate?, x with
    | some n, _ => .ok n
    | none, .notANumber => .error .undefinedNumber
    | none, _ => .error .infiniteNumber
  | .str s =>
    match Text.readNumeral s with
    | .ok n => .ok n
    | .error (.tooLong digits) => .error (.hugeNumber digits)
    | .error .malformed => .error (.notNumeral s)
  | v => .error (.notNumber v.typeName)

/-- Counting from zero what a report counts from one. What counts as false is the first. -/
def toCoordinate (v : Json) : Except Fault Int :=
  (toWhole (v.orElse (.int 1))).map fun n => max (n - 1) 0

end Json

namespace Diagnostic

/-- Does a message report an error, rather than a warning? -/
def isSevere (problem : Members) : Bool :=
  Json.alike (.ofOption (problem.get? "severity")) (.int 2)

def severityOf (problem : Members) : Severity :=
  if isSevere problem then .error else .warning

def codeOf (problem : Members) : Json :=
  .ofOption (problem.get? "ruleId")

/-- The text of a message, which names the rule if there is one. -/
def messageOf (problem : Members) : Except Fault Json := do
  let message := (problem.get? "message").getD (.str "")
  let code := codeOf problem
  if code.isNull then return message
  let text ← Fault.needText message.display
  let rule ← Fault.needText code.display
  return .str s!"{text} ({rule})"

def positionOf (problem : Members) : Except Fault Position := do
  let line ← (Json.ofOption (problem.get? "line")).toCoordinate
  let character ← (Json.ofOption (problem.get? "column")).toCoordinate
  Position.of line character

def textOf (v : Json) : Except Fault String :=
  match v with
  | .str s => .ok s
  | v => .error (.about v.inner fun _ => .notText)

def textOf? (v : Json) : Except Fault (Option String) :=
  match v with
  | .str s => .ok (some s)
  | .null => .ok none
  | v => .error (.about v.inner fun _ => .notText)

/-- The diagnostic that a message describes, shown as coming from `source`. -/
def ofProblem (problem : Json) (source : Except Fault Json) : Except Fault Diagnostic :=
  match problem with
  | .obj problem => do
    let message ← messageOf problem
    let position ← positionOf problem
    let source ← source
    let message ← textOf message
    let source ← textOf? source
    return ⟨.point position, message, severityOf problem, codeOf problem, source⟩
  | v => .error (.noMember v.typeName "get")

end Diagnostic

end LintBridge
