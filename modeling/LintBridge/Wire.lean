import LintBridge.CommandLine.Launch
import LintBridge.Server

/-!
The messages between editor and server as JSON values. What is absent is left out. Texts and whole
numbers that an editor sends are made from whatever stands for them, and a diagnostic that it names
counts only if all of it can be told.
-/
namespace LintBridge

/-! ### What the server sends -/

def Position.toWire (p : Position) : Json :=
  .obj [("line", .int p.line), ("character", .int p.character)]

def Range.toWire (r : Range) : Json :=
  .obj [("start", r.start.toWire), ("end", r.stop.toWire)]

/-- A diagnostic in a message; without a code or a source it has no such member. -/
def Diagnostic.toWire (d : Diagnostic) : Json :=
  let code := if d.code.isNull then [] else [("code", d.code)]
  let source := match d.source with
    | some s => [("source", Json.str s)]
    | none => []
  .obj ([("range", d.range.toWire), ("message", .str d.message),
    ("severity", .int d.severity.number)] ++ code ++ source)

namespace CodeAction

def kind : String := "quickfix"

def toWire (uri : String) (a : CodeAction) : Json :=
  let edit := Json.obj [("range", a.range.toWire), ("newText", .str a.newText)]
  .obj [("title", .str a.title), ("kind", .str kind),
    ("diagnostics", .arr [a.diagnostic.toWire]),
    ("edit", .obj [("changes", .obj [(uri, .arr [edit])])])]

end CodeAction

namespace Event

/-- The name of the message that tells of an event. -/
def method : Event → String
  | publish _ _ => "textDocument/publishDiagnostics"
  | showError _ _ => "window/showMessage"
  | ask _ _ => "window/showMessageRequest"

/-- An error message of the highest weight. -/
private def errorMembers (message : String) : Members :=
  [("type", .int 1), ("message", .str message)]

def params : Event → Json
  | publish uri diagnostics =>
    .obj [("uri", .str uri), ("diagnostics", .arr (diagnostics.map Diagnostic.toWire))]
  | showError message _ => .obj (errorMembers message)
  | ask _ message =>
    .obj (errorMembers message ++
      [("actions", .arr [.obj [("title", .str Server.retryTitle)]])])

/-- The number of a question, which its reply repeats. -/
def request? : Event → Option Nat
  | ask n _ => some n
  | _ => none

end Event

namespace Answer

/-- What the server can do: whole texts are sent to it, and it has quick fixes. -/
def serverAbilities : Json :=
  .obj [
    ("serverInfo",
      .obj [("name", .str Server.serverName), ("version", .str CommandLine.version)]),
    ("textDocumentSync",
      .obj [("change", .int 1), ("openClose", .bool true), ("save", .bool true)]),
    ("codeActionProvider", .obj [("codeActionKinds", .arr [.str CodeAction.kind])])]

/-- The code of a request that is refused because something went wrong inside. -/
def internalError : Int := -32603

/-- The code of a request that the server does not know. -/
def methodNotFound : Int := -32601

/-- The result of a request, or the code that refuses it. -/
def result : Answer → Except Int Json
  | capabilities => .ok serverAbilities
  | actions uri as => .ok (.arr (as.map (CodeAction.toWire uri)))
  | refused => .error internalError
  | unknownMethod => .error methodNotFound
  | nothing => .ok .null

end Answer

/-! ### What the editor sends -/

def Json.wireText (v : Json) (key : String) : Except Fault String :=
  Fault.needText (v.memberOrNull key).display

/-- The text that a member stands for; none if it is absent or null. -/
def Json.wireText? (v : Json) (key : String) : Except Fault (Option String) :=
  match v.get? key with
  | none | some .null => .ok none
  | some w => (Fault.needText w.display).map some

def Position.ofWire (v : Json) : Except Fault Position := do
  let line ← (v.memberOrNull "line").toWhole
  let character ← (v.memberOrNull "character").toWhole
  Position.of line character

def Mark.ofWire (v : Json) : Except Fault Mark := do
  let range := v.memberOrNull "range"
  let start ← Position.ofWire (range.memberOrNull "start")
  let _ ← Position.ofWire (range.memberOrNull "end")
  Severity.check (v.memberOrNull "severity")
  return ⟨start, v.memberOrNull "code", ← v.wireText "message"⟩

def Document.ofWire (v : Json) : Except Fault Document := do
  return ⟨← v.wireText "uri", ← v.wireText "text", v.memberOrNull "version"⟩

/-- A step to a part of a message's content: to a member that has to be there, to one that may be
missing, or to every item of a list. -/
inductive Step where
  | member (key : String)
  | optional (key : String)
  | items
  deriving DecidableEq, Repr

/-- Does a value have what these steps lead to? -/
def Json.has : List Step → Json → Bool
  | [], _ => true
  | .member key :: path, v =>
    match v.get? key with
    | some w => w.has path
    | none => false
  | .optional key :: path, v =>
    match v.get? key with
    | none | some .null => true
    | some w => w.has path
  | .items :: path, v =>
    match v with
    | .arr vs => vs.all (has path)
    | _ => false

namespace Message

def membersOf (start : List Step) (names : List String) : List (List Step) :=
  names.map fun name => start ++ [.member name]

/-- What the content of a method's messages has to have. -/
def needs : String → List (List Step)
  | "initialize" =>
    [.member "capabilities"] :: membersOf [.optional "workspaceFolders", .items] ["uri", "name"]
  | "textDocument/didOpen" =>
    membersOf [.member "textDocument"] ["uri", "languageId", "version", "text"]
  | "textDocument/didChange" =>
    membersOf [.member "textDocument"] ["uri", "version"] ++
      membersOf [.member "contentChanges", .items] ["text"]
  | "textDocument/didSave" | "textDocument/didClose" => membersOf [.member "textDocument"] ["uri"]
  | "workspace/didChangeWatchedFiles" => membersOf [.member "changes", .items] ["uri", "type"]
  | "textDocument/codeAction" =>
    membersOf [.member "textDocument"] ["uri"] ++
      membersOf [.member "range", .member "start"] ["line", "character"] ++
      membersOf [.member "range", .member "end"] ["line", "character"] ++
      membersOf [.member "context", .member "diagnostics", .items] ["range", "message"]
  | "workspace/didChangeWorkspaceFolders" =>
    membersOf [.member "event", .member "added", .items] ["uri", "name"] ++
      membersOf [.member "event", .member "removed", .items] ["uri", "name"]
  | "workspace/executeCommand" => [[.member "command"]]
  | _ => []

/-- The message of a method with its content and, for a request, its id. A notification that the
server does not know says nothing. -/
def ofMethod? (method : String) (id params : Json) : Except Fault (Option Message) := do
  let document := params.memberOrNull "textDocument"
  match method with
  | "initialize" =>
    let folders ← (params.itemsMember "workspaceFolders").mapM (·.wireText "uri")
    let rootUri ← params.wireText? "rootUri"
    let rootPath ← params.wireText? "rootPath"
    return some (.connected id folders rootUri rootPath
      (params.memberOrNull "initializationOptions"))
  | "initialized" => return some .initialized
  | "textDocument/didOpen" => return some (.opened (← Document.ofWire document))
  | "textDocument/didChange" =>
    let uri ← document.wireText "uri"
    let texts ← (params.itemsMember "contentChanges").mapM (·.wireText "text")
    return some (.changed uri (document.memberOrNull "version") texts)
  | "textDocument/didSave" => return some (.saved (← document.wireText "uri"))
  | "textDocument/didClose" => return some (.closed (← document.wireText "uri"))
  | "workspace/didChangeWatchedFiles" =>
    return some (.filesChanged (params.itemsMember "changes").length)
  | "workspace/didChangeConfiguration" =>
    return some (.settingsChanged (params.memberOrNull "settings"))
  | "textDocument/codeAction" =>
    let uri ← document.wireText "uri"
    let marks ← ((params.memberOrNull "context").itemsMember "diagnostics").mapM Mark.ofWire
    return some (.codeActions id uri marks)
  | "workspace/didChangeWorkspaceFolders" =>
    let change := params.memberOrNull "event"
    return some (.foldersChanged
      ((change.itemsMember "added").length + (change.itemsMember "removed").length))
  | "workspace/executeCommand" => return if id.isNull then none else some (.command id)
  | "shutdown" => return if id.isNull then none else some (.shutdown id)
  | _ => return if id.isNull then none else some (.unknown id)

/-- Reads a message; content that lacks something, or that cannot be read, is refused as a whole. -/
def read (method : String) (id params : Json) : Except Fault (Option Message) :=
  if (needs method).all (params.has ·) then
    (ofMethod? method id params).mapError fun _ => .invalidParams
  else .error .invalidParams

/-- Reads the reply to a question; the result names the action that was chosen. -/
def ofReply (request : Nat) (result : Json) : Message :=
  .chosen request (result.textMember? "title")

end Message

end LintBridge
