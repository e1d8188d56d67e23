import LintBridge.FileSystem.Basic
import LintBridge.Session.Basic
import LintBridge.Uri.Basic

/-!
The documents that an editor has open, in the order in which they were first opened. A document is
found by its URI with percent escapes undone. One that is not open cannot be changed, and is read
from the disk. An editor has documents only once it has named its workspace.
-/
namespace LintBridge

/-- The open documents, each under its decoded URI. -/
structure Documents where
  entries : List (String × Document)
  deriving Repr, Inhabited

namespace Documents

def empty : Documents := ⟨[]⟩

/-- The name under which the document of a URI is kept. -/
def nameOf (uri : String) : String :=
  String.ofList (Uri.unquote uri.toList)

/-- Puts a document into a list; one of that name keeps its place. -/
def putEntry (name : String) (d : Document) : List (String × Document) → List (String × Document)
  | [] => [(name, d)]
  | (n, e) :: rest => if n = name then (n, d) :: rest else (n, e) :: putEntry name d rest

/-- Keeps a document, in the place of the one that is open under its name. -/
def put (ds : Documents) (d : Document) : Documents :=
  ⟨putEntry (nameOf d.uri) d ds.entries⟩

def close (ds : Documents) (uri : String) : Documents :=
  ⟨ds.entries.filter fun p => p.1 != nameOf uri⟩

def get? (ds : Documents) (uri : String) : Option Document :=
  ds.entries.lookup (nameOf uri)

def change (ds : Documents) (uri text : String) (version : Json) : Except Fault Documents :=
  if (ds.get? uri).isSome then
    .ok ⟨ds.entries.map fun p =>
      if p.1 == nameOf uri then (p.1, { p.2 with text := text, version := version }) else p⟩
  else .error (.noKey (Text.quoted (nameOf uri)))

/-- The letter and the rest of a path that names a drive: a slash, a letter and a colon. -/
def splitDrive? : List Char → Option (Char × List Char)
  | '/' :: letter :: ':' :: rest => if letter.isAlpha then some (letter, ':' :: rest) else none
  | _ => none

/-- The path on the disk of a URI. For a file, a network location is part of it, and the letter of a
drive is a small one. -/
def diskPath (uri : String) : Except Fault String :=
  match Uri.split uri with
  | .error flaw => .error (.host flaw)
  | .ok parts =>
    let location := Uri.unquote parts.location
    let path := Uri.unquote (Uri.barePath parts)
    let value :=
      if parts.scheme != "file".toList then path
      else if !location.isEmpty && !path.isEmpty then '/' :: '/' :: (location ++ path)
      else match splitDrive? path with
        | some (letter, rest) => letter.toLower :: rest
        | none => path
    .ok (Path.normal (String.ofList value))

/-- Opens a document whose URI has a path on the disk. -/
def enter (ds : Documents) (d : Document) : Except Fault Documents :=
  (diskPath d.uri).map fun _ => ds.put d

/-- Reads a document from the disk; it has no version. -/
def readFromDisk (fs : FileSystem) (uri : String) : Except Fault Document := do
  let path ← diskPath uri
  let text ← fs.readText path
  return ⟨uri, String.ofList text, .null⟩

/-- The document of a URI: the open one, else the one on the disk. -/
def fetch (ds : Documents) (fs : FileSystem) (uri : String) : Except Fault Document :=
  match ds.get? uri with
  | some d => .ok d
  | none => readFromDisk fs uri

/-- All open documents in order, each found by the name it is kept under. -/
def all (ds : Documents) (fs : FileSystem) : Except Fault (List Document) :=
  ds.entries.mapM fun p => ds.fetch fs p.1

end Documents

/-- Where a session gets its open documents from: nowhere, a list that it is given, an editor, or an
editor that has yet to name its workspace. -/
inductive DocumentSource where
  | nowhere
  | given (ds : List Document)
  | editor (ds : Documents)
  | detached
  deriving Repr, Inhabited

namespace DocumentSource

def all (source : DocumentSource) (fs : FileSystem) : Except Fault (List Document) :=
  match source with
  | nowhere => .ok []
  | given ds => .ok ds
  | editor ds => ds.all fs
  | detached => .error .noWorkspace

def fetch (source : DocumentSource) (fs : FileSystem) (uri : String) : Except Fault Document :=
  match source with
  | nowhere => Documents.readFromDisk fs uri
  | given ds =>
    match ds.find? (·.uri == uri) with
    | some d => .ok d
    | none => Documents.readFromDisk fs uri
  | editor ds => ds.fetch fs uri
  | detached => .error .noWorkspace

def replace (source : DocumentSource) (ds : List Document) : DocumentSource :=
  match source with
  | given _ => given ds
  | other => other

def modify (source : DocumentSource) (f : Documents → Except Fault Documents) :
    Except Fault DocumentSource :=
  match source with
  | editor ds => (f ds).map editor
  | detached => .error .noWorkspace
  | other => .ok other

def size : DocumentSource → Nat
  | given ds => ds.length
  | editor ds => ds.entries.length
  | nowhere | detached => 0

end DocumentSource

end LintBridge
