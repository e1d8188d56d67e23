import LintBridge.Fault
import LintBridge.Uri.Basic

/-!
Errors that carry a class and attributes, and what the user is told about an error. An error
without a text is told by the file that was being checked.
-/
namespace LintBridge

/-- The class of an error: one of the known ones, or any word. -/
inductive Tag where
  | known (t : ErrorType)
  | word (s : String)
  deriving DecidableEq, Repr

def Tag.value : Tag → String
  | known t => t.value
  | word s => s

def ErrorType.ofJson (v : Json) : Except Fault (Option ErrorType) :=
  if v.isNull then .ok none
  else match all.find? fun t => Json.alike v (.str t.value) with
    | some t => .ok (some t)
    | none => .error (.about v.inner .notErrorType)

/-- An error with its class and all that was set on it by name. -/
structure TaggedError where
  raised : Raised
  tag : Tag
  given : Members
  deriving Repr

namespace TaggedError

/-- The kind of an error about a linting module that is needed and cannot be used. -/
def moduleKind : String := "ModuleInitError"

def argumentsName : String := "args"

/-- Raises an error of a kind with a message, a class and values set by name. -/
def of (kind : String) (message : Json) (tag : Tag) (given : Members) : TaggedError :=
  ⟨⟨Raised.kindNamed kind, [message]⟩, tag, given⟩

def isRuntimeKind (kind : String) : Bool :=
  kind == moduleKind || Raised.runtimeKinds.contains kind

/-- Whether trying again can help, as far as the error says; an error about a linting module says
no by itself. -/
def retry (e : TaggedError) : Json :=
  match e.given.get? "retry" with
  | some v => v
  | none => if e.raised.kind == moduleKind then .bool false else .null

/-- The names that stand for a part of every error of a kind. -/
def partNames (kind : String) : List String :=
  argumentsName ::
    if Raised.systemKinds.contains kind then ["errno", "strerror", "filename", "filename2"]
    else if Raised.syntaxKinds.contains kind then
      ["msg", "filename", "lineno", "offset", "text", "end_lineno", "end_offset",
        "print_file_and_line"]
    else if Raised.importKinds.contains kind then ["msg", "name", "path"]
    else match kind with
      | "NameError" | "UnboundLocalError" => ["name"]
      | "AttributeError" => ["name", "obj"]
      | "StopIteration" => ["value"]
      | "SystemExit" => ["code"]
      | _ => []

/-- The attributes that the error has besides its parts. -/
def attributes (e : TaggedError) : Members :=
  e.given.filter fun p => !(partNames e.raised.kind).contains p.1

def part? (e : TaggedError) (name : String) : Option Json :=
  e.given.get? name

/-- A part of the error as it is shown, if it was set. -/
def shownPart (e : TaggedError) (name : String) : Except Json.ShowFlaw String :=
  (Json.ofOption (e.part? name)).display

/-- How the text of an error that the operating system reports begins: its number, its wording. -/
def systemStart (e : TaggedError) : Except Json.ShowFlaw String := do
  let number ← e.shownPart "errno"
  let wording ← e.shownPart "strerror"
  return s!"[Errno {number}] {wording}"

/-- The text of an error that the operating system reports: its number, its wording and the files it
is about, as soon as there are any. -/
def systemMessage? (e : TaggedError) : Except Json.ShowFlaw (Option String) :=
  match e.part? "filename", e.part? "filename2" with
  | some file, some other => do
    let start ← e.systemStart
    let file ← file.inner
    let other ← other.inner
    return some s!"{start}: {file} -> {other}"
  | some file, none => do
    let start ← e.systemStart
    let file ← file.inner
    return some s!"{start}: {file}"
  | none, _ =>
    if (e.part? "errno").isSome && (e.part? "strerror").isSome then e.systemStart.map some
    else .ok none

/-- The text of an error about code that cannot be read: its message, and where it is known the
file and the line. -/
def syntaxMessage (e : TaggedError) : Except Json.ShowFlaw String := do
  let text ← match e.part? "msg" with
    | some v => v.display
    | none => e.raised.message
  let file := ((e.part? "filename").bind Json.text?).map Path.afterSlash
  let line ← match e.part? "lineno" with
    | some (.int n) => (Json.digits n).map fun line => some s!"line {line}"
    | _ => .ok none
  match file.toList ++ line.toList with
  | [] => return text
  | places => return text ++ " (" ++ ", ".intercalate places ++ ")"

/-- The text of an error about code that cannot be found: its message if that is a text. -/
def importMessage? (e : TaggedError) : Option String :=
  match e.part? "msg" with
  | some v => v.text?
  | none =>
    match e.raised.arguments with
    | [v] => v.text?
    | _ => none

/-- The error with the arguments that were set anew, if any were. -/
def withArguments (e : TaggedError) : Except Fault Raised :=
  match e.part? argumentsName with
  | none => .ok e.raised
  | some v => (v.items).map fun vs => { e.raised with arguments := vs }

def message (e : TaggedError) : Except Fault String := do
  let raised ← e.withArguments
  let kind := e.raised.kind
  if Raised.systemKinds.contains kind then
    match ← Fault.needText e.systemMessage? with
    | some text => return text
    | none => Fault.needText raised.message
  else if Raised.syntaxKinds.contains kind then Fault.needText e.syntaxMessage
  else if Raised.importKinds.contains kind then
    match e.importMessage? with
    | some text => return text
    | none => Fault.needText raised.message
  else Fault.needText raised.message

end TaggedError

/-- What the user is told about an error with this text that arose for a document, if it arose for
one. -/
def noticeFor (text : Except Json.ShowFlaw String) (uri : Option String) :
    Except Fault String := do
  let text ← Fault.needText text
  if text != "" then return text
  let path ← match uri with
    | some uri => Uri.toPathText? uri
    | none => pure none
  match path with
  | some path => return s!"An unknown error occurred while validating file: {path}"
  | none => return "An unknown error occurred while loading the linting module."

end LintBridge
